import Retouch.Pattern.Methods
import Retouch.Proofs.Outcome
import Retouch.Proofs.Text.Trimming

/-!
# Which texts are patterns of methods

A text is a pattern of methods if it holds, in this order and with nothing but blanks in between, a
pattern of types without blanks, a name and a list of arguments in parentheses
(`MethodPattern.Parts.StandIn`, `MethodPattern.Parts.Accepted`). The pattern then has exactly these
parts (`MethodPattern.Holds`), and its own text is a text of the same pattern. `ofText_exact` puts
this together.

The reader cuts at the first blank, at the first opening parenthesis and at a closing one at the
end, and trims what is left. A type has no blanks and a name neither blanks nor parentheses, so
nothing else can stand at these places.
-/

namespace Retouch

/-! ## Characters of names -/

namespace Text

/-- The code points of the blanks. -/
def blankPoints : List Nat :=
  [9, 10, 11, 12, 13, 0x20, 0x85, 0xA0, 0x1680, 0x2000, 0x2001, 0x2002, 0x2003, 0x2004, 0x2005,
    0x2006, 0x2007, 0x2008,
    0x2009, 0x200A, 0x2028, 0x2029, 0x202F, 0x205F, 0x3000]

theorem toNat_mem_blankPoints {c : Char} (blank : isBlank c = true) : c.toNat ∈ blankPoints := by
  simp only [isBlank, Bool.or_eq_true, Bool.and_eq_true, decide_eq_true_eq, beq_iff_eq] at blank
  simp only [blankPoints, List.mem_cons, List.not_mem_nil, or_false]
  omega

end Text

/-- The characters that may stand in the name of a pattern. -/
def NameChars (name : List Char) : Prop := ∀ c ∈ name, Text.isAlphanumeric c = true ∨
    c ∈ ['_', '$', '*', '<', '>']

section

open MethodPattern (isNameChar)

theorem nameChars_iff {name : List Char} : NameChars name ↔ name.all isNameChar = true := by
  simp only [NameChars, List.all_eq_true, isNameChar, Bool.or_eq_true, List.contains_iff_mem]

theorem isNameChar_blankPoints : ∀ n ∈ Text.blankPoints, isNameChar (Char.ofNat n) = false :=
    by decide +kernel

theorem not_isBlank_of_isNameChar {c : Char} (named : isNameChar c = true) :
    Text.isBlank c = false := by
  by_contra blank
  have point := isNameChar_blankPoints _ (Text.toNat_mem_blankPoints (by simpa using blank))
  rw [Char.ofNat_toNat, named] at point
  cases point

theorem NameChars.blankFree {name : List Char} (h : NameChars name) :
    Text.BlankFree name := fun c mem =>
  not_isBlank_of_isNameChar (List.all_eq_true.1 (nameChars_iff.1 h) c mem)

theorem NameChars.notMem {name : List Char} (h : NameChars name) : '(' ∉ name := fun mem =>
  absurd (List.all_eq_true.1 (nameChars_iff.1 h) _ mem) (by decide +kernel)

end

theorem Text.Blanks.notMem {cs : List Char} (h : Blanks cs) :
    '(' ∉ cs := fun mem => absurd (h _ mem) (by decide)

/-! ## Argument lists -/

theorem TypePattern.ofPart_eq_ok {source : String} {p : TypePattern} :
    ofPart source = .ok p ↔ ofText source = .ok p := by
  rw [ofPart, ofText, mapError_eq_ok, mapError_eq_ok]

namespace ArgPattern

/-- What an item of an argument list is read as. -/
inductive Reads : String → ArgPattern → Prop
  | any : Reads "*" any
  | rest : Reads ".." rest
  | type {item : String} {p : TypePattern} (one : item ≠ "*")
    (read : TypePattern.ofText item = .ok p) :
    Reads item (type p)

theorem ofText_eq_ok {item : String} {a : ArgPattern} : ofText item = .ok a ↔ Reads item a := by
  constructor
  · intro read
    unfold ofText at read
    split at read
    · cases read
    · cases read
      exact .any
    · cases read
      exact .rest
    · next full one many =>
      cases part : TypePattern.ofPart item with
      | error e =>
        rw [part] at read
        cases read
      | ok p =>
        rw [part] at read
        cases read
        exact .type one (TypePattern.ofPart_eq_ok.1 part)
  · rintro (_ | _ | ⟨one, read⟩)
    · rfl
    · rfl
    · unfold ofText
      split
      · cases read
      · exact absurd rfl one
      · cases read
      · rw [TypePattern.ofPart_eq_ok.2 read]
        rfl

theorem reads_rest_iff {item : String} {a : ArgPattern} (h : Reads item a) :
    a = .rest ↔ item = ".." := by
  cases h with
  | any => decide
  | rest => decide
  | type one read =>
    constructor
    · intro same
      cases same
    · rintro rfl
      cases read

theorem exists_read_iff {item : String} :
    (∃ a, Reads item a) ↔ item = "*" ∨ item = ".." ∨ ∃ p, TypePattern.ofText item = .ok p := by
  constructor
  · rintro ⟨a, _ | _ | ⟨-, read⟩⟩
    · exact .inl rfl
    · exact .inr (.inl rfl)
    · exact .inr (.inr ⟨_, read⟩)
  · rintro (rfl | rfl | ⟨p, read⟩)
    · exact ⟨any, .any⟩
    · exact ⟨.rest, .rest⟩
    · obtain rfl | one := eq_or_ne item "*"
      · exact ⟨any, .any⟩
      · exact ⟨type p, .type one read⟩

theorem exists_reads_iff {items : List String} :
    (∃ arguments, List.Forall₂ Reads items arguments) ↔
      ∀ item ∈ items, item = "*" ∨ item = ".." ∨ ∃ p, TypePattern.ofText item = .ok p := by
  have made (arguments : List ArgPattern) : List.Forall₂ Reads items arguments ↔
    items.mapM ofText = .ok arguments := by
    simp only [mapM_eq_ok, ofText_eq_ok]
  simp only [made, ← exists_read_iff, ← ofText_eq_ok]
  exact ⟨fun ⟨_, made⟩ => exists_of_mapM_ok made, exists_mapM_ok⟩

theorem count_rest {items : List String} {arguments : List ArgPattern}
    (h : List.Forall₂ Reads items arguments) :
    arguments.count .rest = items.count ".." := by
  induction h with
  | nil => rfl
  | cons first _ ih =>
    rw [List.count_cons, List.count_cons, ih]
    simp only [beq_iff_eq, reads_rest_iff first]

end ArgPattern

namespace MethodPattern

/-- The items of an argument list; there are none if it is blank. -/
def itemsOf (arguments : List Char) : List String :=
  if Text.trimChars arguments = [] then []
  else (Text.splitChars ',' arguments).map fun item => String.ofList (Text.trimChars item)

theorem parseArguments_eq_ok {text : String} {arguments : List ArgPattern} :
    parseArguments text = .ok arguments ↔
      List.Forall₂ ArgPattern.Reads (itemsOf text.toList) arguments := by
  have blank : (Text.trim text).isEmpty = true ↔ Text.trimChars text.toList = [] := by
    rw [String.isEmpty_iff, ← String.toList_eq_nil_iff, Text.toList_trim]
  unfold parseArguments itemsOf
  by_cases none : Text.trimChars text.toList = []
  · rw [if_pos (blank.2 none), if_pos none, List.forall₂_nil_left_iff, Except.ok.injEq, eq_comm]
  · rw [if_neg (mt blank.1 none), if_neg none, mapM_eq_ok, Text.split, List.forall₂_map_left_iff,
      List.forall₂_map_left_iff]
    simp only [ArgPattern.ofText_eq_ok, Text.trim, String.toList_ofList]
    rfl

/-! ## The written form -/

/-- The parts of a pattern of methods as they are written. -/
structure Parts where
  type : List Char
  name : List Char
  /-- What stands between the parentheses. -/
  arguments : List Char

namespace Parts

/-- The text is the parts, with blanks around them; some of these have to stand behind the type. -/
def StandIn (x : Parts) (text : List Char) : Prop :=
  ∃ lead gap before tail, Text.Blanks lead ∧ Text.Blanks gap ∧ gap ≠ [] ∧ Text.Blanks before ∧
    Text.Blanks tail ∧
    text = lead ++ (x.type ++ gap ++ x.name ++ before ++ ['('] ++ x.arguments ++ [')']) ++ tail

/-- The parts may stand in a pattern. -/
structure Accepted (x : Parts) : Prop where
  blankFree : Text.BlankFree x.type
  type : ∃ p, TypePattern.ofText (String.ofList x.type) = .ok p
  full : x.name ≠ []
  name : NameChars x.name
  arguments : ∀ item ∈ itemsOf x.arguments, item = "*" ∨ item = ".." ∨ ∃ p,
    TypePattern.ofText item = .ok p
  rests : (itemsOf x.arguments).count ".." ≤ 1

end Parts

/-- The pattern has these parts, in order. -/
structure Holds (p : MethodPattern) (x : Parts) : Prop where
  type : TypePattern.ofText (String.ofList x.type) = .ok p.declaring
  name : p.name.toList = x.name
  arguments : List.Forall₂ ArgPattern.Reads (itemsOf x.arguments) p.arguments

/-- The steps of the reader: what it cuts, what it checks, and what it makes of it. -/
structure Steps (source : String) (p : MethodPattern) (type call : List Char)
    (name tail arguments : String) :
    Prop where
  atBlank : Text.cutWhere? Text.isBlank (Text.trim source).toList = some (type, call)
  opened : Text.cut? '(' (String.ofList (Text.trimStartChars call)) = some (name, tail)
  closed : Text.dropTail? ")" tail = some arguments
  full : Text.trim name ≠ ""
  chars : (Text.trim name).toList.all isNameChar = true
  declaring : TypePattern.ofPart (String.ofList type) = .ok p.declaring
  arguments : parseArguments arguments = .ok p.arguments
  rests : p.arguments.count .rest ≤ 1
  text : p.text = Text.trim source
  name : p.name = Text.trim name

theorem parse_eq_ok {source : String} {p : MethodPattern} :
    parse source = .ok p ↔ ∃ type call name tail arguments,
      Steps source p type call name tail arguments := by
  constructor
  · intro read
    unfold parse at read
    rcases atBlank : Text.cutWhere? Text.isBlank (Text.trim source).toList with _ | ⟨type, call⟩
    · simp only [atBlank] at read
      cases read
    simp only [atBlank] at read
    rcases opened : Text.cut? '(' (String.ofList (Text.trimStartChars call)) with _ | ⟨name, tail⟩
    · simp only [opened] at read
      cases read
    simp only [opened] at read
    rcases closed : Text.dropTail? ")" tail with _ | arguments
    · simp only [closed] at read
      cases read
    simp only [closed] at read
    split at read
    · cases read
    next full =>
    split at read
    · cases read
    next chars =>
    obtain ⟨declaring, typed, read⟩ := exists_of_bind_ok read
    obtain ⟨args, items, read⟩ := exists_of_bind_ok read
    split at read
    · cases read
    next rests =>
    cases read
    exact ⟨type, call, name, tail, arguments, atBlank, opened, closed,
      by simpa using full, by simpa using chars, typed,
      items, Nat.le_of_not_lt rests, rfl, rfl⟩
  · rintro ⟨type, call, name, tail, arguments, h⟩
    unfold parse
    have chars : ¬(!(Text.trim name).toList.all isNameChar) = true := by simp [h.chars]
    simp only [h.atBlank, h.opened, h.closed]
    rw [if_neg (by simpa using h.full), if_neg chars, h.declaring, h.arguments]
    change (if 1 < p.arguments.count .rest then _ else _) = _
    rw [if_neg (Nat.not_lt.2 h.rests), ← h.text, ← h.name]
    rfl

/-- Parts that stand in a text are what the reader cuts out of it. -/
theorem parse_of_standIn {source : String} {x : Parts} (stands : x.StandIn source.toList)
    (ok : x.Accepted) :
    ∃ p, parse source = .ok p ∧ p.text = Text.trim source ∧ p.Holds x := by
  obtain ⟨type, name, arguments⟩ := x
  obtain ⟨lead, gap, before, tail, leading, blanks, wide, nameEnd, trailing, text⟩ := stands
  obtain ⟨b, gap, rfl⟩ := List.exists_cons_of_ne_nil wide
  obtain ⟨declaring, typed⟩ := ok.type
  obtain ⟨args, read⟩ := ArgPattern.exists_reads_iff.2 ok.arguments
  have someType : type ≠ [] := by
    rintro rfl
    cases typed
  have solid : Text.Solid (type ++ b :: gap ++ name ++ before ++ ['('] ++ arguments ++ [')']) := by
    refine ⟨fun c mem => ok.blankFree c ?_, fun c mem => ?_⟩
    · simp only [List.append_assoc, List.head?_append_of_ne_nil _ someType] at mem
      exact List.mem_of_mem_head? mem
    · rw [List.getLast?_concat, Option.mem_some_iff] at mem
      rw [← mem]
      decide
  have core : (Text.trim source).toList = type ++
    b :: (gap ++ (name ++ before ++ '(' :: (arguments ++ [')']))) := by
    rw [Text.toList_trim, text, Text.trimChars_eq leading trailing solid]
    simp
  have front : Text.trimStartChars (gap ++ (name ++ before ++ '(' :: (arguments ++ [')']))) =
      name ++ before ++ '(' :: (arguments ++ [')']) := by
    rw [Text.trimStartChars_append fun c mem => blanks c (List.mem_cons_of_mem _ mem),
      List.append_assoc]
    refine Text.trimStartChars_of_first fun c mem => ok.name.blankFree c ?_
    rw [List.head?_append_of_ne_nil _ ok.full] at mem
    exact List.mem_of_mem_head? mem
  have named : (Text.trim (String.ofList (name ++ before))).toList = name := by
    rw [Text.toList_trim, String.toList_ofList,
      Text.trimChars_append ok.name.blankFree.solid nameEnd]
  refine ⟨⟨Text.trim source, declaring, Text.trim (String.ofList (name ++ before)), args⟩,
    parse_eq_ok.2 ⟨type, gap ++ (name ++ before ++ '(' :: (arguments ++ [')'])),
      String.ofList (name ++ before),
      String.ofList (arguments ++ [')']), String.ofList arguments, ?_⟩, rfl, typed, named, read⟩
  exact {
    atBlank := Text.cutWhere?_eq_some.2 ⟨b, core, blanks b List.mem_cons_self, ok.blankFree⟩
    opened := by
      simp only [front, Text.cut?_eq_some, String.toList_ofList, List.mem_append, true_and]
      exact not_or_intro ok.name.notMem nameEnd.notMem
    closed := Text.dropTail?_eq_some.2 String.ofList_append
    full := fun none => ok.full (by rw [← named, none]; rfl)
    chars := by rw [named]; exact nameChars_iff.1 ok.name
    declaring := TypePattern.ofPart_eq_ok.2 typed
    arguments := by rwa [parseArguments_eq_ok, String.toList_ofList]
    rests := by rw [ArgPattern.count_rest read]; exact ok.rests
    text := rfl
    name := rfl }

/-- What the reader cuts out of a text stands in it. -/
theorem standIn_of_parse {source : String} {p : MethodPattern} (read : parse source = .ok p) :
    ∃ x : Parts, x.StandIn source.toList ∧ x.Accepted := by
  obtain ⟨type, call, name, tail, arguments, h⟩ := parse_eq_ok.1 read
  obtain ⟨b, cut, blank, blankFree⟩ := Text.cutWhere?_eq_some.1 h.atBlank
  obtain ⟨opened, -⟩ := Text.cut?_eq_some.1 h.opened
  have closed := Text.dropTail?_eq_some.1 h.closed
  obtain ⟨lead, trailing, leadBlanks, trailBlanks, whole, -⟩ := Text.exists_trim source.toList
  obtain ⟨gap, gapBlanks, spread, -⟩ := Text.exists_trimStart call
  obtain ⟨before, after, beforeBlanks, afterBlanks, named, -⟩ := Text.exists_trim name.toList
  rw [← Text.toList_trim] at whole named
  rw [String.toList_ofList] at opened
  have items := parseArguments_eq_ok.1 h.arguments
  have full : (Text.trim name).toList ≠ [] := fun none => h.full (String.toList_eq_nil_iff.1 none)
  have chars : NameChars (Text.trim name).toList := nameChars_iff.2 h.chars
  generalize (Text.trim name).toList = core at named full chars
  refine ⟨⟨type, core, arguments.toList⟩,
    ⟨lead, b :: (gap ++ before), after, trailing, leadBlanks, ?_, List.cons_ne_nil _ _, afterBlanks,
      trailBlanks, ?_⟩, ?_⟩
  · exact List.forall_mem_cons.2 ⟨blank, gapBlanks.append beforeBlanks⟩
  · rw [whole, cut, spread, opened, named, closed, String.toList_append]
    simp
  · exact {
      blankFree := blankFree
      type := ⟨_, TypePattern.ofPart_eq_ok.1 h.declaring⟩
      full := full
      name := chars
      arguments := ArgPattern.exists_reads_iff.1 ⟨_, items⟩
      rests := by rw [← ArgPattern.count_rest items]; exact h.rests }

theorem parse_trim (source : String) : parse (Text.trim source) = parse source := by
  unfold parse
  rw [Text.trim_trim]

theorem ofText_eq_ok {source : String} {p : MethodPattern} :
    ofText source = .ok p ↔ parse source = .ok p :=
  mapError_eq_ok

/-- A text is a pattern of methods if accepted parts stand in it. The pattern has just these parts
and the text without the blanks around it, and this text is again one of the same pattern. -/
theorem ofText_exact :
    (∀ source, (∃ p, ofText source = .ok p) ↔ ∃ x : Parts, x.StandIn source.toList ∧ x.Accepted) ∧
      (∀ source p x, ofText source = .ok p → x.StandIn source.toList → x.Accepted →
        p.text = Text.trim source ∧ p.Holds x) ∧
      ∀ source p, ofText source = .ok p → ofText p.text = .ok p := by
  have parts {source p x} (read : ofText source = .ok p) (stands : x.StandIn source.toList)
    (ok : x.Accepted) :
      p.text = Text.trim source ∧ p.Holds x := by
    obtain ⟨q, made, holds⟩ := parse_of_standIn stands ok
    rw [ofText_eq_ok, made] at read
    cases read
    exact holds
  refine ⟨fun source => ⟨?_, ?_⟩, fun source p x => parts, fun source p read => ?_⟩
  · rintro ⟨p, read⟩
    exact standIn_of_parse (ofText_eq_ok.1 read)
  · rintro ⟨x, stands, ok⟩
    obtain ⟨p, made, -⟩ := parse_of_standIn stands ok
    exact ⟨p, ofText_eq_ok.2 made⟩
  · obtain ⟨x, stands, ok⟩ := standIn_of_parse (ofText_eq_ok.1 read)
    rw [ofText_eq_ok, (parts read stands ok).1, parse_trim]
    exact ofText_eq_ok.1 read

/-- A pattern that is written with blanks wherever they may stand. -/
theorem ofText_exact_spread :
    let source := " A is* ( int , .. ) "
    let x : Parts := ⟨"A".toList, "is*".toList, " int , .. ".toList⟩
    x.StandIn source.toList ∧ x.Accepted ∧
      ∃ p, ofText source = .ok p ∧ p.text = "A is* ( int , .. )" ∧ p.Holds x ∧
        ofText p.text = .ok p := by
  intro source x
  have space : Text.Blanks [' '] := List.forall_mem_singleton.2 (by decide)
  have stands : x.StandIn source.toList :=
    ⟨[' '], [' '], [' '], [' '], space, space, List.cons_ne_nil _ _, space, space,
      by decide +kernel⟩
  have type : NameChars x.type := nameChars_iff.2 (by decide +kernel)
  have items : itemsOf x.arguments = ["int", ".."] := by decide +kernel
  have typed : TypePattern.ofText (String.ofList x.type) = .ok ⟨"A", .exactly "A"⟩ := by
    rw [String.ofList_toList]
    rfl
  have ok : x.Accepted := by
    refine ⟨type.blankFree, ⟨_, typed⟩, List.cons_ne_nil _ _,
      nameChars_iff.2 (by decide +kernel), ?_, ?_⟩
    · rw [items]
      refine ArgPattern.exists_reads_iff.1 ⟨[.type ⟨"int", .exactly "int"⟩, .rest], ?_⟩
      exact .cons (.type (by decide) (by rfl)) (.cons .rest .nil)
    · rw [items]
      decide
  obtain ⟨p, read⟩ := (ofText_exact.1 source).2 ⟨x, stands, ok⟩
  obtain ⟨text, holds⟩ := ofText_exact.2.1 source p x read stands ok
  exact ⟨stands, ok, p, read, text.trans (by decide +kernel), holds, ofText_exact.2.2 source p read⟩

end MethodPattern

end Retouch
