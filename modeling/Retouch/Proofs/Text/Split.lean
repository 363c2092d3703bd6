import Retouch.Text.Split

/-!
# Parts of texts

Texts that are put together with a separator come apart again: if the parts do not hold the
separator, then splitting gives them back, whether it stands behind each of them (`split_join`) or
between them (`split_intercalate`).
-/

namespace Retouch.Text

variable {sep : Char}

theorem splitChars_ne_nil (cs : List Char) : splitChars sep cs ≠ [] := by
  cases cs with
  | nil => simp [splitChars]
  | cons c cs =>
    unfold splitChars
    split
    · simp
    · split <;> simp

theorem splitChars_append_sep (a b : List Char) :
    splitChars sep (a ++ sep :: b) = splitChars sep a ++ splitChars sep b := by
  induction a with
  | nil => simp [splitChars]
  | cons c a ih =>
    rw [List.cons_append, splitChars, splitChars, ih]
    split
    · rfl
    · rcases parts : splitChars sep a with _ | ⟨part, rest⟩
      · exact absurd parts (splitChars_ne_nil a)
      · rfl

theorem splitChars_free {part : List Char} (h : sep ∉ part) : splitChars sep part = [part] := by
  induction part with
  | nil => rfl
  | cons c part ih =>
    obtain ⟨ne, free⟩ : sep ≠ c ∧ sep ∉ part := by simpa using h
    simp [splitChars, ih free, ne.symm]

theorem cutChars?_append {a : List Char} (h : sep ∉ a) (b : List Char) :
    cutChars? sep (a ++ sep :: b) = some (a, b) := by
  induction a with
  | nil => simp [cutChars?]
  | cons c a ih =>
    obtain ⟨ne, free⟩ : sep ≠ c ∧ sep ∉ a := by simpa using h
    simp [cutChars?, ih free, ne.symm]

theorem cutChars?_free {cs : List Char} (h : sep ∉ cs) : cutChars? sep cs = none := by
  induction cs with
  | nil => rfl
  | cons c cs ih =>
    obtain ⟨ne, free⟩ : sep ≠ c ∧ sep ∉ cs := by simpa using h
    simp [cutChars?, ih free, ne.symm]

variable {mark : String} {parts parts' : List String}

/-- A separator behind each part. -/
theorem split_join (mark_eq : mark.toList = [sep]) (h : ∀ part ∈ parts, sep ∉ part.toList) :
    split sep (String.join (parts.map (· ++ mark))) = parts ++ [""] := by
  induction parts with
  | nil => rfl
  | cons part parts ih =>
    have free := h part List.mem_cons_self
    have rest := ih fun other mem => h other (List.mem_cons_of_mem part mem)
    simp only [split] at rest ⊢
    rw [List.map_cons, String.join_cons]
    simp only [String.toList_append, mark_eq, List.append_assoc, List.singleton_append]
    rw [splitChars_append_sep, splitChars_free free, List.map_append, rest]
    simp

/-- A separator between the parts. -/
theorem split_intercalate (mark_eq : mark.toList = [sep]) (h : ∀ part ∈ parts, sep ∉ part.toList)
    (some : parts ≠ []) : split sep (mark.intercalate parts) = parts := by
  induction parts with
  | nil => exact absurd rfl some
  | cons part parts ih =>
    have free := h part List.mem_cons_self
    cases parts with
    | nil => simp [split, splitChars_free free]
    | cons other parts =>
      have rest := ih (fun part' mem => h part' (List.mem_cons_of_mem part mem)) (by simp)
      simp only [split] at rest ⊢
      rw [String.intercalate_cons_cons]
      simp only [String.toList_append, mark_eq, List.append_assoc, List.singleton_append]
      rw [splitChars_append_sep, splitChars_free free, List.map_append, rest]
      simp

/-- The parts of a text with the separator between them. -/
theorem intercalate_split (mark_eq : mark.toList = [sep]) (s : String) :
    mark.intercalate (split sep s) = s := by
  have chars (cs : List Char) :
    (mark.intercalate ((splitChars sep cs).map String.ofList)).toList = cs := by
    induction cs with
    | nil => rfl
    | cons c cs ih =>
      rw [splitChars]
      rcases parts : splitChars sep cs with _ | ⟨part, rest⟩
      · exact absurd parts (splitChars_ne_nil cs)
      · rw [parts] at ih
        split
        · next same =>
          simpa [String.intercalate_cons_cons, mark_eq, (eq_of_beq same).symm] using ih
        · cases rest <;> simpa [String.intercalate_cons_cons] using ih
  exact String.toList_inj.1 (by simpa [split] using chars s.toList)

/-- Parts that are not empty can be told from the text between separators. -/
theorem intercalate_inj (mark_eq : mark.toList = [sep])
    (h : ∀ part ∈ parts, part ≠ "" ∧ sep ∉ part.toList)
    (h' : ∀ part ∈ parts', part ≠ "" ∧ sep ∉ part.toList)
    (same : mark.intercalate parts = mark.intercalate parts') : parts = parts' := by
  have split (parts : List String) (h : ∀ part ∈ parts, part ≠ "" ∧ sep ∉ part.toList) :
      (Text.split sep (mark.intercalate parts)).filter (· ≠ "") = parts := by
    by_cases none : parts = []
    · subst none
      rfl
    · rw [split_intercalate mark_eq (fun part mem => (h part mem).2) none, List.filter_eq_self]
      simpa using fun part mem => (h part mem).1
  rw [← split parts h, same, split parts' h']

/-- The last occurrence of `sep` cut out and put back gives the text. -/
theorem eq_of_cutLast? {mark s a b : String} (mark_eq : mark.toList = [sep])
    (h : cutLast? sep s = some (a, b)) : s = a ++ mark ++ b := by
  obtain ⟨⟨x, y⟩, cut, parts⟩ := Option.map_eq_some_iff.1 h
  obtain ⟨rfl, rfl⟩ := Prod.mk.inj parts
  have whole := congrArg List.reverse (eq_of_cutChars? cut)
  refine String.toList_inj.1 ?_
  simpa [mark_eq] using whole

/-- The last occurrence of `sep` is found where none is behind it. -/
theorem cutLast?_append {mark b : String} (mark_eq : mark.toList = [sep]) (a : String)
    (h : sep ∉ b.toList) :
    cutLast? sep (a ++ mark ++ b) = some (a, b) := by
  have free : sep ∉ b.toList.reverse := by simpa using h
  simp [cutLast?, mark_eq, List.reverse_append, cutChars?_append free]

theorem append_inj_last {mark a b a' b' : String} (mark_eq : mark.toList = [sep])
    (h : sep ∉ b.toList)
    (h' : sep ∉ b'.toList) (same : a ++ mark ++ b = a' ++ mark ++ b') : a = a' ∧ b = b' := by
  have cut := cutLast?_append mark_eq a h
  rw [same, cutLast?_append mark_eq a' h'] at cut
  exact (Prod.mk.inj (Option.some.inj cut.symm))

/-- The parts between separators have none in them. -/
theorem free_of_mem_split {part s : String} (mem : part ∈ split sep s) : sep ∉ part.toList := by
  have free (cs : List Char) : ∀ part ∈ splitChars sep cs, sep ∉ part := by
    induction cs with
    | nil => simp [splitChars]
    | cons c cs ih =>
      rw [splitChars]
      rcases parts : splitChars sep cs with _ | ⟨first, rest⟩
      · exact absurd parts (splitChars_ne_nil cs)
      · rw [parts, List.forall_mem_cons] at ih
        split
        · simpa using ih
        · next other =>
          refine List.forall_mem_cons.2 ⟨?_, ih.2⟩
          rw [List.mem_cons, not_or]
          exact ⟨fun same => other (beq_iff_eq.2 same.symm), ih.1⟩
  obtain ⟨cs, there, rfl⟩ := List.mem_map.1 mem
  simpa using free _ cs there

/-- Parts behind parts. -/
theorem intercalate_append (mark : String) {parts parts' : List String} (some : parts ≠ [])
    (some' : parts' ≠ []) :
    mark.intercalate (parts ++ parts') = mark.intercalate parts ++ mark ++
      mark.intercalate parts' := by
  induction parts with
  | nil => exact absurd rfl some
  | cons part parts ih =>
    cases parts with
    | nil =>
      cases parts' with
      | nil => exact absurd rfl some'
      | cons part' parts' => simp [String.intercalate_cons_cons]
    | cons other parts =>
      have rest := ih (by simp)
      rw [List.cons_append] at rest ⊢
      rw [List.cons_append, String.intercalate_cons_cons, String.intercalate_cons_cons, rest]
      simp only [String.append_assoc]

end Retouch.Text
