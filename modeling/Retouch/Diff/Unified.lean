import Retouch.Diff.Compact
import Retouch.Text.Split

/-!
# Unified diffs

The changes from one text to another, in groups with some lines of context, and the numbers of lines
that were added and removed.
-/

namespace Retouch.Diff

/-- Lines that are equal in both texts, or old lines that new ones replace. -/
structure Stretch where
  isEqual : Bool
  old : Nat
  oldLen : Nat
  new : Nat
  newLen : Nat
deriving DecidableEq, Repr

namespace Stretch

def ofStep : Step → Stretch
  | .equal i j n => ⟨true, i, n, j, n⟩
  | .delete i j n => ⟨false, i, n, j, 0⟩
  | .insert i j n => ⟨false, i, 0, j, n⟩

/-- Two stretches of one sort as one. Of changes the deletion tells where old lines start, and the
insertion where new lines start. -/
def join (a b : Stretch) : Stretch :=
  { isEqual := a.isEqual
    old := if a.isEqual || 0 < a.oldLen || b.oldLen == 0 then a.old else b.old
    oldLen := a.oldLen + b.oldLen
    new := if a.isEqual || 0 < a.newLen || b.newLen == 0 then a.new else b.new
    newLen := a.newLen + b.newLen }

/-- The stretches of a script, no two of one sort beside each other. -/
def ofSteps : List Step → List Stretch
  | [] => []
  | s :: ss =>
    match ofSteps ss with
    | [] => [ofStep s]
    | t :: ts =>
      if (ofStep s).isEqual == t.isEqual then (ofStep s).join t :: ts else ofStep s :: t :: ts

/-- Only the first `n` lines of an equal stretch. -/
def keepFirst (n : Nat) (s : Stretch) : Stretch :=
  { s with oldLen := min n s.oldLen, newLen := min n s.newLen }

/-- Only the last `n` lines of an equal stretch. -/
def keepLast (n : Nat) (s : Stretch) : Stretch :=
  ⟨s.isEqual, s.old + (s.oldLen - n), min n s.oldLen, s.new + (s.newLen - n), min n s.newLen⟩

end Stretch

/-- Cuts the first stretch down to the context in front of a change. -/
def trimFirst (context : Nat) : List Stretch → List Stretch
  | s :: ss => (if s.isEqual then s.keepLast context else s) :: ss
  | [] => []

/-- Cuts the last stretch down to the context behind a change. -/
def trimLast (context : Nat) : List Stretch → List Stretch
  | [] => []
  | [s] => [if s.isEqual then s.keepFirst context else s]
  | s :: ss => s :: trimLast context ss

/-- A group that ends the list; it does not count if it changes nothing. -/
def lastGroup (pending : List Stretch) : List (List Stretch) :=
  match pending with
  | [] => []
  | [s] => if s.isEqual then [] else [pending]
  | _ => [pending]

/-- Cuts the list into groups at equal stretches of more than twice the context. -/
def groupFrom (context : Nat) (pending : List Stretch) : List Stretch → List (List Stretch)
  | [] => lastGroup pending
  | s :: ss =>
    if s.isEqual && 2 * context < s.oldLen then
      (pending ++ [s.keepFirst context]) :: groupFrom context [s.keepLast context] ss
    else groupFrom context (pending ++ [s]) ss

def groups (context : Nat) (stretches : List Stretch) : List (List Stretch) :=
  groupFrom context [] (trimLast context (trimFirst context stretches))

/-- The characters of a text in lines, which end behind `\n`, `\r\n` or a single `\r`; `current` is the
beginning of the first line in reversed order. -/
def linesFrom (current : List Char) : List Char → List String
  | [] => if current.isEmpty then [] else [String.ofList current.reverse]
  | '\r' :: '\n' :: cs => String.ofList ('\n' :: '\r' :: current).reverse :: linesFrom [] cs
  | c :: cs =>
    if c == '\n' || c == '\r' then String.ofList (c :: current).reverse :: linesFrom [] cs
    else linesFrom (c :: current) cs

/-- The lines of a text with their ends. -/
def lines (text : String) : List String := linesFrom [] text.toList

/-- A line behind its mark; a line without an end says so. -/
def lineText (mark line : String) : String :=
  mark ++ line ++
    (if Text.hasTail "\n" line || Text.hasTail "\r" line then ""
     else "\n\\ No newline at end of file\n")

/-- Lines of a text behind a mark. -/
def linesText (mark : String) (all : Array String) (start len : Nat) : String :=
  String.join ((all.extract start (start + len)).toList.map (lineText mark))

/-- Old lines come before the new ones that replace them. -/
def Stretch.text (l : Lines) (s : Stretch) : String :=
  if s.isEqual then linesText " " l.old s.old s.oldLen
  else linesText "-" l.old s.old s.oldLen ++ linesText "+" l.new s.new s.newLen

/-- The start and the number of lines; an empty range starts at the line in front of it. -/
def rangeText (start len : Nat) : String :=
  if len == 1 then toString (start + 1)
  else if len == 0 then toString start ++ ",0"
  else toString (start + 1) ++ "," ++ toString len

def groupText (l : Lines) (group : List Stretch) : String :=
  match group.head?, group.getLast? with
  | some first, some last =>
    let body := String.join (group.map (·.text l))
    if body.isEmpty then ""
    else "@@ -" ++ rangeText first.old (last.old + last.oldLen - first.old) ++ " +" ++
      rangeText first.new (last.new + last.newLen - first.new) ++ " @@\n" ++ body
  | _, _ => ""

/-- Numbers of lines over one or more files. -/
structure Stats where
  files : Nat := 0
  added : Nat := 0
  removed : Nat := 0
deriving DecidableEq, Repr

namespace Stats

def add (a b : Stats) : Stats := ⟨a.files + b.files, a.added + b.added, a.removed + b.removed⟩

def isEmpty (s : Stats) : Bool := s.files == 0

def display (s : Stats) : String :=
  toString s.files ++ (if s.files == 1 then " file" else " files") ++ " changed, " ++
    toString s.added ++ " insertions(+), " ++ toString s.removed ++ " deletions(-)"

end Stats

/-- The diff of two texts of a file, and its figures. Equal texts have an empty one. -/
def unified (path before after : String) (context : Nat) : String × Stats :=
  let l : Lines := ⟨(lines before).toArray, (lines after).toArray⟩
  let stretches := Stretch.ofSteps (compact l (script l))
  let changes := stretches.filter (!·.isEqual)
  let added := changes.foldl (fun n s => n + s.newLen) 0
  let removed := changes.foldl (fun n s => n + s.oldLen) 0
  if added == 0 && removed == 0 then ("", {})
  else
    let path := "/".intercalate (Text.split '\\' path)
    let groups := groups context stretches
    (if groups.isEmpty then ""
     else "--- a/" ++ path ++ "\n+++ b/" ++ path ++ "\n" ++ String.join (groups.map (groupText l)),
      ⟨1, added, removed⟩)

end Retouch.Diff
