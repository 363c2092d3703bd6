import Mathlib.Data.List.Infix
import Retouch.Pattern.Methods
import Retouch.Proofs.Text.Trimming

/-!
# What patterns stand for

A pattern is a sequence of parts, and it matches what can be cut, in order, into one run for each
part (`Cuts`): a star in a word lets any run of characters through, `..` in a name any run of
segments and `..` in an argument list any run of parameters; every other part takes one item.
`patterns_match` says so of words, of names and of argument lists, and that a pattern of names is
read as its words between dots and a gap for each `..`.

All three go through `Wildcard.accepts`, which keeps rows of answers; `Wildcard.accepts_iff_cuts` is
the one induction.
-/

namespace Retouch

variable {α β : Type}

/-- The sequence is cut into runs, in order, one for each part of the pattern, and each part lets
its run through. -/
def Cuts (lets : β → List α → Prop) (pattern : List β) (as : List α) : Prop :=
  ∃ runs, List.Forall₂ lets pattern runs ∧ runs.flatten = as

variable {lets : β → List α → Prop} {pattern : List β} {as : List α}

theorem cuts_nil : Cuts lets [] as ↔ as = [] := by
  constructor
  · rintro ⟨runs, cut, rfl⟩
    cases cut
    rfl
  · rintro rfl
    exact ⟨[], .nil, rfl⟩

theorem cuts_cons {b : β} :
    Cuts lets (b :: pattern) as ↔ ∃ run rest, run ++ rest = as ∧ lets b run ∧
      Cuts lets pattern rest := by
  constructor
  · rintro ⟨runs, cut, rfl⟩
    cases cut with
    | cons first others => exact ⟨_, _, rfl, first, _, others, rfl⟩
  · rintro ⟨run, rest, rfl, first, runs, others, rfl⟩
    exact ⟨run :: runs, .cons first others, rfl⟩

namespace Wildcard

theorem accepts_anything (parts : List (Wildcard α)) (as : List α) :
    accepts (anything :: parts) as = true ↔ ∃ run rest, run ++ rest = as ∧
      accepts parts rest = true := by
  rw [anything, accepts_gap, Bool.or_eq_true]
  induction as with
  | nil => simp [leftBehind]
  | cons a as ih =>
    rw [leftBehind, if_pos rfl, List.any_cons, Bool.or_eq_true, ih]
    constructor
    · rintro (whole | ⟨run, rest, rfl, held⟩)
      · exact ⟨[], a :: as, rfl, whole⟩
      · exact ⟨a :: run, rest, rfl, held⟩
    · rintro ⟨run, rest, cut, held⟩
      obtain _ | ⟨b, run⟩ := run
      · exact .inl (cut ▸ held)
      · obtain ⟨rfl, rfl⟩ := List.cons.inj cut
        exact .inr ⟨run, rest, rfl, held⟩

theorem accepts_one (test : α → Bool) (parts : List (Wildcard α)) (as : List α) :
    accepts (item test :: parts) as = true ↔ ∃ a rest, a :: rest = as ∧ test a = true ∧
      accepts parts rest = true := by
  obtain _ | ⟨a, as⟩ := as
  · simp [accepts_item_nil]
  · rw [accepts_item, Bool.and_eq_true]
    constructor
    · exact fun held => ⟨a, as, rfl, held⟩
    · rintro ⟨b, rest, same, held⟩
      obtain ⟨rfl, rfl⟩ := List.cons.inj same
      exact held

/-- What a wildcard lets through: any run, or one item that passes the test. -/
def Lets : Wildcard α → List α → Prop
  | item test, run => ∃ a, run = [a] ∧ test a = true
  | gap _, _ => True

/-- Where each part stands for a wildcard that lets through what the part does, and all gaps are
free, a sequence fits if it can be cut. -/
theorem accepts_iff_cuts {stand : β → Wildcard α}
    (free : ∀ b mayEnd, stand b = gap mayEnd → stand b = anything)
    (same : ∀ b run, lets b run ↔ (stand b).Lets run) (pattern : List β) (as : List α) :
    accepts (pattern.map stand) as = true ↔ Cuts lets pattern as := by
  induction pattern generalizing as with
  | nil => rw [List.map_nil, accepts_nil, List.isEmpty_iff, cuts_nil]
  | cons b pattern ih =>
    rw [List.map_cons, cuts_cons]
    cases part : stand b with
    | item test =>
      rw [accepts_one]
      constructor
      · rintro ⟨a, rest, rfl, passes, held⟩
        exact ⟨[a], rest, rfl,
          (same b _).2 (by rw [part]; exact ⟨a, rfl, passes⟩), (ih rest).1 held⟩
      · rintro ⟨run, rest, rfl, let_, held⟩
        obtain ⟨a, rfl, passes⟩ : ∃ a, run = [a] ∧ test a = true := by
          have through := (same b run).1 let_
          rwa [part] at through
        exact ⟨a, rest, rfl, passes, (ih rest).2 held⟩
    | gap mayEnd =>
      rw [← part, free b mayEnd part, accepts_anything]
      simp only [ih]
      have any (run : List α) : lets b run := (same b run).2 (by rw [part]; trivial)
      constructor
      · exact fun ⟨run, rest, cut, held⟩ => ⟨run, rest, cut, any run, held⟩
      · exact fun ⟨run, rest, cut, _, held⟩ => ⟨run, rest, cut, held⟩

end Wildcard

/-! ## Words, names and argument lists -/

/-- A star lets any run of characters through, and every other character itself. -/
def starLets (c : Char) (run : List Char) : Prop := c = '*' ∨ run = [c]

theorem matchWord_iff (pattern word : List Char) :
    matchWord pattern word = true ↔ Cuts starLets pattern word := by
  refine Wildcard.accepts_iff_cuts (fun c mayEnd isGap => ?_) (fun c run => ?_) pattern word
  · unfold wordWildcard at isGap ⊢
    split at isGap
    · next star => rw [if_pos star]
    · cases isGap
  · unfold wordWildcard starLets
    by_cases star : c = '*'
    · simp [star, Wildcard.anything, Wildcard.Lets]
    · simp only [star, beq_iff_eq, if_false, false_or, Wildcard.Lets]
      exact ⟨fun one => ⟨c, one, rfl⟩, fun ⟨_, one, same⟩ => same ▸ one⟩

namespace Segment

/-- A gap lets any number of segments through, and a word one segment that it matches. -/
def Lets : Segment → List String → Prop
  | gap, _ => True
  | word chars, run => ∃ segment, run = [segment] ∧ Cuts starLets chars segment.toList

theorem matchAll_iff (pattern : List Segment) (name : List String) :
    matchAll pattern name = true ↔ Cuts Lets pattern name := by
  refine Wildcard.accepts_iff_cuts (fun s mayEnd isGap => ?_) (fun s run => ?_) pattern name
  · cases s with
    | gap => rfl
    | word chars => cases isGap
  · cases s with
    | gap => rfl
    | word chars => simp only [Lets, wildcard, Wildcard.Lets, matchWord_iff]

end Segment

namespace ArgPattern

/-- `..` lets any number of parameters through, `*` one, and a pattern of types one of a type that
it matches. -/
def Lets : ArgPattern → List JavaType → Prop
  | rest, _ => True
  | any, run => ∃ param, run = [param]
  | type p, run => ∃ param, run = [param] ∧ p.matchesType param = true

theorem matchAll_iff (patterns : List ArgPattern) (params : List JavaType) :
    matchAll patterns params = true ↔ Cuts Lets patterns params := by
  refine Wildcard.accepts_iff_cuts (fun p mayEnd isGap => ?_) (fun p run => ?_) patterns params
  · cases p with
    | rest => rfl
    | any => cases isGap
    | type => cases isGap
  · cases p with
    | rest => rfl
    | any => simp [Lets, wildcard, Wildcard.Lets]
    | type => rfl

end ArgPattern

/-! ## Reading a pattern of names -/

namespace Text

/-- The parts of a list of characters between occurrences of two dots; there is always one. -/
def splitDots : List Char → List (List Char)
  | [] => [[]]
  | '.' :: '.' :: cs => [] :: splitDots cs
  | c :: cs =>
    match splitDots cs with
    | [] => [[c]]
    | part :: parts => (c :: part) :: parts

theorem splitDots_ne_nil (cs : List Char) : splitDots cs ≠ [] := by
  fun_cases splitDots cs <;> simp_all

end Text

namespace Segment

/-- The words between single dots, without the empty ones. -/
def wordsOf (part : List Char) : List Segment :=
  ((Text.splitChars '.' part).filter fun chars => !chars.isEmpty).map word

/-- A pattern as its words that are not empty, between single dots, and a gap for each `..`. -/
def segmentsOf (pattern : List Char) : List Segment :=
  (((Text.splitDots pattern).map wordsOf).intersperse [gap]).flatten

theorem wordsOf_free {chars : List Char} (free : '.' ∉ chars) : wordsOf chars = ofChars chars := by
  rw [wordsOf, Text.splitChars_free free, ofChars]
  cases chars <;> rfl

theorem wordsOf_dot {chars : List Char} (free : '.' ∉ chars) (part : List Char) :
    wordsOf (chars ++ '.' :: part) = ofChars chars ++ wordsOf part := by
  rw [← wordsOf_free free]
  simp only [wordsOf, Text.splitChars_append_sep, Text.splitChars_free free, List.filter_append,
    List.map_append]

/-- The segments of parts, the characters `current` of an unfinished word standing in front of the
first one. -/
def segmentsBehind (current : List Char) : List (List Char) → List Segment
  | [] => []
  | part :: parts => (((current ++ part) :: parts).map wordsOf |>.intersperse [gap]).flatten

theorem segmentsBehind_cons (current part : List Char) {parts : List (List Char)}
    (more : parts ≠ []) :
    segmentsBehind current (part :: parts) = wordsOf (current ++ part) ++
      gap :: segmentsBehind [] parts := by
  obtain _ | ⟨next, parts⟩ := parts
  · exact absurd rfl more
  · simp [segmentsBehind]

theorem segmentsBehind_one (current part : List Char) :
    segmentsBehind current [part] = wordsOf (current ++ part) := by
  simp [segmentsBehind]

theorem readFrom_eq {current : List Char} (free : '.' ∉ current) (cs : List Char) :
    readFrom current cs = segmentsBehind current (Text.splitDots cs) := by
  fun_induction readFrom current cs with
  | case1 current => rw [Text.splitDots, segmentsBehind_one, List.append_nil, wordsOf_free free]
  | case2 current cs ih =>
    rw [Text.splitDots, segmentsBehind_cons _ _ (Text.splitDots_ne_nil cs), List.append_nil,
      wordsOf_free free,
      ih (by simp)]
  | case3 current cs single ih =>
    rw [Text.splitDots.eq_3 _ _ fun rest _ => single rest, ih (by simp)]
    obtain ⟨part, parts, split⟩ := List.exists_cons_of_ne_nil (Text.splitDots_ne_nil cs)
    rw [split]
    obtain rfl | more := eq_or_ne parts []
    · rw [segmentsBehind_one, segmentsBehind_one, wordsOf_dot free, List.nil_append]
    · rw [segmentsBehind_cons _ _ more, segmentsBehind_cons _ _ more, wordsOf_dot free,
        List.nil_append,
        List.append_assoc]
  | case4 current c cs double single ih =>
    have word : c ≠ '.' := fun dot => single dot
    rw [Text.splitDots.eq_3 _ _ fun rest dot => absurd dot word, ih (by simp [free, word.symm])]
    obtain ⟨part, parts, split⟩ := List.exists_cons_of_ne_nil (Text.splitDots_ne_nil cs)
    rw [split]
    simp only [segmentsBehind, List.append_assoc, List.singleton_append]

theorem read_eq (text : String) : read text = segmentsOf text.toList := by
  rw [read, readFrom_eq (by simp), segmentsOf]
  obtain ⟨part, parts, split⟩ := List.exists_cons_of_ne_nil (Text.splitDots_ne_nil text.toList)
  rw [split, segmentsBehind, List.nil_append]

end Segment

namespace TypePattern

/-- There is a star or a `..`. -/
def Open (text : List Char) : Prop := '*' ∈ text ∨ ['.', '.'] <:+: text

/-- The pattern is open, and not only by a `.*` behind the name of a package. -/
def IsGlob (text : List Char) : Prop := Open text ∧ ∀ package, text = package ++ ['.', '*'] →
    Open package

theorem isOpen_iff (text : String) : isOpen text = true ↔ Open text.toList := by
  rw [isOpen, Bool.or_eq_true, Text.hasPart, Text.hasPart, Text.cutAtChars?_isSome,
    Text.cutAtChars?_isSome, Open]
  exact or_congr (List.singleton_infix_iff '*' text.toList) Iff.rfl

theorem namesOf_of_glob {text : String} (glob : IsGlob text.toList) :
    namesOf text = .like (Segment.segmentsOf text.toList) := by
  have open_ : isOpen text = true := (isOpen_iff text).2 glob.1
  have inside : (Text.dropTail? ".*" text).filter (!isOpen ·) = none := by
    rw [Option.filter_eq_none_iff]
    intro package tail
    have split : text.toList = package.toList ++ ['.', '*'] := by
      rw [Text.dropTail?_eq_some.1 tail, String.toList_append]
      rfl
    simpa using (isOpen_iff package).2 (glob.2 _ split)
  rw [namesOf, open_, inside, Segment.read_eq]
  rfl

theorem glob_of_namesOf {text : String} {segments : List Segment}
    (like : namesOf text = .like segments) :
    IsGlob text.toList := by
  unfold namesOf at like
  split at like
  · cases like
  · next open_ =>
    split at like
    · cases like
    · next inside =>
      refine ⟨(isOpen_iff text).1 (by simpa using open_), fun package split => ?_⟩
      have tail : Text.dropTail? ".*" text = some (String.ofList package) := by
        rw [Text.dropTail?_eq_some, ← String.toList_inj, split, String.toList_append,
          String.toList_ofList]
        rfl
      have free := Option.filter_eq_none_iff.1 inside _ tail
      simpa using (isOpen_iff (String.ofList package)).1 (by simpa using free)

/-- A text that is read is the text of its pattern, without the blanks around it. -/
theorem eq_of_ofText {source : String} {p : TypePattern} (read : ofText source = .ok p) :
    p = ⟨Text.trim source, namesOf (Text.trim source)⟩ := by
  unfold ofText parse at read
  grind [Except.mapError]

theorem names_of_ofText {source : String} {p : TypePattern} (read : ofText source = .ok p) :
    p.names = namesOf p.text := by
  rw [eq_of_ofText read]

theorem matchesName_iff {source : String} {p : TypePattern} (read : ofText source = .ok p)
    (glob : IsGlob p.text.toList)
    (fqn : String) :
    p.matchesName fqn = true ↔
      Cuts Segment.Lets (Segment.segmentsOf p.text.toList) (Text.split '.' fqn) := by
  rw [matchesName, names_of_ofText read, namesOf_of_glob glob, Segment.matchAll_iff]

end TypePattern

/-- A word matches if it is the pattern with a run of characters in place of each star. A pattern of
names is a glob if it is open and more than a package with `.*` behind it, and then a name matches
if its segments can be cut into one that matches for each word and any number for each `..`.
Parameters match if they can be cut into one of a type that matches for each pattern of types, one
for each `*` and any number for each `..`. -/
theorem patterns_match :
    (∀ pattern word, matchWord pattern word = true ↔ Cuts starLets pattern word) ∧
      (∀ source p, TypePattern.ofText source = .ok p →
        ((∃ segments, p.names = .like segments) ↔ TypePattern.IsGlob p.text.toList) ∧
          (TypePattern.IsGlob p.text.toList → ∀ fqn, p.matchesName fqn = true ↔
            Cuts Segment.Lets (Segment.segmentsOf p.text.toList) (Text.split '.' fqn))) ∧
      ∀ patterns params, ArgPattern.matchAll patterns params = true ↔
        Cuts ArgPattern.Lets patterns params := by
  refine ⟨matchWord_iff, fun source p read => ⟨?_, TypePattern.matchesName_iff read⟩,
    ArgPattern.matchAll_iff⟩
  rw [TypePattern.names_of_ofText read]
  exact ⟨fun ⟨segments, like⟩ => TypePattern.glob_of_namesOf like, fun glob =>
    ⟨_, TypePattern.namesOf_of_glob glob⟩⟩

/-- The names below `org` that are cut at `..` and at the star. -/
theorem patterns_match_open :
    let p : TypePattern :=
      ⟨"org..Abstract*Assert", .like [.word "org".toList, .gap, .word "Abstract*Assert".toList]⟩
    TypePattern.ofText " org..Abstract*Assert" = .ok p ∧ TypePattern.IsGlob p.text.toList ∧
      Cuts Segment.Lets (Segment.segmentsOf p.text.toList)
        (Text.split '.' "org.assertj.core.api.AbstractStringAssert") ∧
      ¬Cuts Segment.Lets (Segment.segmentsOf p.text.toList)
        (Text.split '.' "org.assertj.core.api.StringAssert") := by
  intro p
  have read : TypePattern.ofText " org..Abstract*Assert" = .ok p := rfl
  obtain ⟨glob, names⟩ := patterns_match.2.1 _ p read
  have isGlob : TypePattern.IsGlob p.text.toList := glob.1 ⟨_, rfl⟩
  refine ⟨read, isGlob, (names isGlob _).1 ?_, fun cut => ?_⟩
  · decide +kernel
  · exact absurd ((names isGlob _).2 cut) (by decide +kernel)

end Retouch
