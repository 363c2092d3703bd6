import Retouch.Text.Split
import Retouch.Text.Wildcard

/-!
# Globs

Patterns for paths. `?` stands for one character, `*` for any number of them, slashes included,
`[a-c]` for one of a set and `[!a-c]` for one outside of it. `**` stands for whole components of
a path, so it has to be a component itself.

Main definitions: `Glob.ofText` reads a pattern, and `Glob.accepts` says which texts it accepts.
-/

namespace Retouch

/-- A range of characters in brackets; a single one is a range on its own. -/
structure CharRange where
  low : Char
  high : Char
deriving DecidableEq, Repr

inductive GlobPart where
  | char (c : Char)
  | anyChar
  /-- Any number of characters. -/
  | gap
  /-- Any number of whole components. -/
  | components
  | within (ranges : List CharRange)
  | outside (ranges : List CharRange)
deriving DecidableEq, Repr

inductive GlobFault where
  /-- Three stars or more in a row. -/
  | stars
  /-- Two stars that are no component. -/
  | partialComponents
  /-- A bracket that is not closed. -/
  | ranges
deriving DecidableEq, Repr

/-- A pattern that cannot be read, with the character in question. -/
structure GlobError where
  position : Nat
  fault : GlobFault
deriving DecidableEq, Repr

def GlobError.message (e : GlobError) : String :=
  "Pattern syntax error near position " ++ toString e.position ++ ": " ++
    match e.fault with
    | .stars => "wildcards are either regular `*` or recursive `**`"
    | .partialComponents => "recursive wildcards must form a single path component"
    | .ranges => "invalid range pattern"

abbrev Glob := List GlobPart

namespace Glob

/-- The ranges between brackets. -/
def rangesOf : List Char → List CharRange
  | a :: '-' :: b :: cs => ⟨a, b⟩ :: rangesOf cs
  | c :: cs => ⟨c, c⟩ :: rangesOf cs
  | [] => []

/-- The characters between brackets and those behind the closing one. A bracket that comes first is
itself a member. -/
def cutBracket? : List Char → Option (List Char × List Char)
  | c :: cs => (Text.cutChars? ']' cs).map fun (body, rest) => (c :: body, rest)
  | [] => none

/-- What stands behind an opening bracket, and the rest. -/
def bracket? : List Char → Option (GlobPart × List Char)
  | '!' :: cs => (cutBracket? cs).map fun (body, rest) => (.outside (rangesOf body), rest)
  | cs => (cutBracket? cs).map fun (body, rest) => (.within (rangesOf body), rest)

theorem cutBracket?_length_lt {cs body rest : List Char} (h : cutBracket? cs = some (body, rest)) :
    rest.length < cs.length := by
  cases cs with
  | nil => simp [cutBracket?] at h
  | cons c cs =>
    obtain ⟨⟨a, b⟩, hab, he⟩ := Option.map_eq_some_iff.1 h
    simp only [Prod.mk.injEq] at he
    rw [Text.eq_of_cutChars? hab, ← he.2]
    simp
    omega

theorem bracket?_length_lt {cs rest : List Char} {part : GlobPart}
    (h : bracket? cs = some (part, rest)) : rest.length < cs.length := by
  unfold bracket? at h
  split at h
  all_goals
    obtain ⟨⟨a, b⟩, hab, he⟩ := Option.map_eq_some_iff.1 h
    simp only [Prod.mk.injEq] at he
    have := cutBracket?_length_lt hab
    simp_all
  omega

/-- The parts of a pattern from the character at `position` on, which stands behind `last`. -/
def partsFrom (position : Nat) (last : Option Char) (cs : List Char) : Except GlobError Glob :=
  match cs with
  | [] => .ok []
  | '?' :: cs => (partsFrom (position + 1) (some '?') cs).map (.anyChar :: ·)
  | '*' :: '*' :: '*' :: _ => .error ⟨position + 2, .stars⟩
  | '*' :: '*' :: cs =>
    if last.any (· != '/') then .error ⟨position - 1, .partialComponents⟩
    else match cs with
      | [] => .ok [.components]
      | '/' :: cs => (partsFrom (position + 3) (some '/') cs).map (.components :: ·)
      | _ :: _ => .error ⟨position + 2, .partialComponents⟩
  | '*' :: cs => (partsFrom (position + 1) (some '*') cs).map (.gap :: ·)
  | '[' :: cs =>
    match closed : bracket? cs with
    | none => .error ⟨position, .ranges⟩
    | some (part, rest) =>
      (partsFrom (position + 1 + (cs.length - rest.length)) (some ']') rest).map (part :: ·)
  | c :: cs => (partsFrom (position + 1) (some c) cs).map (.char c :: ·)
termination_by cs.length
decreasing_by
  all_goals simp only [List.length_cons]
  all_goals try have := bracket?_length_lt closed
  all_goals omega

def ofText (text : String) : Except GlobError Glob := partsFrom 0 none text.toList

def inRanges (ranges : List CharRange) (c : Char) : Bool :=
  ranges.any fun r => r.low ≤ c && c ≤ r.high

end Glob

/-- What a part stands for in a text. Whole components end behind a slash or with the text. -/
def GlobPart.wildcard : GlobPart → Wildcard Char
  | char c => .item (· == c)
  | anyChar => .item fun _ => true
  | gap => .anything
  | components => .gap (· == '/')
  | within ranges => .item (Glob.inRanges ranges)
  | outside ranges => .item (!Glob.inRanges ranges ·)

/-- A pattern accepts all of a text. -/
def Glob.accepts (g : Glob) (text : String) : Bool :=
  Wildcard.accepts (g.map GlobPart.wildcard) text.toList

end Retouch
