import Mathlib.Data.List.Basic
import Mathlib.Data.List.TakeWhile
import Retouch.Text.Blank
import Retouch.Proofs.Text.Split

/-!
# Trimmed texts and cut texts

Trimming takes away the blanks around a text that has none at its ends (`Solid`), and nothing else.
A text is cut at the first character of a kind, and a part is found in it if it stands there.
-/

namespace Retouch.Text

/-- All characters are blanks. -/
def Blanks (cs : List Char) : Prop := ∀ c ∈ cs, isBlank c = true

/-- No character is a blank. -/
def BlankFree (cs : List Char) : Prop := ∀ c ∈ cs, isBlank c = false

/-- Neither the first nor the last character is a blank. -/
structure Solid (cs : List Char) : Prop where
  first : ∀ c ∈ cs.head?, isBlank c = false
  last : ∀ c ∈ cs.getLast?, isBlank c = false

theorem Blanks.append {cs ds : List Char} (h : Blanks cs) (h' : Blanks ds) : Blanks (cs ++ ds) :=
  List.forall_mem_append.2 ⟨h, h'⟩

theorem Blanks.reverse {cs : List Char} (h : Blanks cs) : Blanks cs.reverse :=
  fun c mem => h c (List.mem_reverse.1 mem)

theorem Solid.reverse {cs : List Char} (h : Solid cs) : Solid cs.reverse where
  first c mem := h.last c (by rwa [List.head?_reverse] at mem)
  last c mem := h.first c (by rwa [List.getLast?_reverse] at mem)

theorem BlankFree.solid {cs : List Char} (h : BlankFree cs) : Solid cs where
  first c mem := h c (List.mem_of_mem_head? mem)
  last c mem := h c (List.mem_of_mem_getLast? mem)

/-! ## Trimming -/

/-- Characters without the blanks at both ends. -/
def trimChars (cs : List Char) : List Char := trimEndChars (trimStartChars cs)

theorem toList_trim (s : String) : (trim s).toList = trimChars s.toList := String.toList_ofList

theorem trimStartChars_append {lead cs : List Char} (blanks : Blanks lead) :
    trimStartChars (lead ++ cs) = trimStartChars cs := List.dropWhile_append_of_pos blanks

theorem trimStartChars_of_first {cs : List Char} (first : ∀ c ∈ cs.head?, isBlank c = false) :
    trimStartChars cs = cs := by
  obtain _ | ⟨c, cs⟩ := cs
  · rfl
  · exact List.dropWhile_cons_of_neg (by simp [first c rfl])

theorem trimStartChars_blanks {cs : List Char} (blanks : Blanks cs) : trimStartChars cs = [] :=
  List.dropWhile_eq_nil_iff.2 blanks

theorem trimEndChars_eq (cs : List Char) : trimEndChars cs = (trimStartChars cs.reverse).reverse :=
    rfl

/-- Blanks around characters are trimmed, and nothing else. -/
theorem trimChars_eq {lead cs tail : List Char} (before : Blanks lead) (behind : Blanks tail)
    (solid : Solid cs) :
    trimChars (lead ++ cs ++ tail) = cs := by
  rw [trimChars, List.append_assoc, trimStartChars_append before]
  obtain rfl | full := eq_or_ne cs []
  · rw [List.nil_append, trimStartChars_blanks behind]
    rfl
  · have first : ∀ c ∈ (cs ++ tail).head?, isBlank c = false := by
      rw [List.head?_append_of_ne_nil _ full]
      exact solid.first
    rw [trimStartChars_of_first first, trimEndChars_eq, List.reverse_append,
      trimStartChars_append behind.reverse,
      trimStartChars_of_first solid.reverse.first, List.reverse_reverse]

theorem exists_trimStart (cs : List Char) :
    ∃ lead, Blanks lead ∧ cs = lead ++ trimStartChars cs ∧ ∀ c ∈ (trimStartChars cs).head?,
      isBlank c = false := by
  refine ⟨cs.takeWhile isBlank, fun c mem => List.mem_takeWhile_imp mem,
    (takeWhile_append_trimStartChars cs).symm, fun c mem => ?_⟩
  have stop := List.head?_dropWhile_not isBlank cs
  rw [Option.mem_def, trimStartChars] at mem
  rwa [mem] at stop

theorem exists_trim (cs : List Char) :
    ∃ lead tail, Blanks lead ∧ Blanks tail ∧ cs = lead ++ trimChars cs ++ tail ∧
      Solid (trimChars cs) := by
  obtain ⟨lead, before, cut, first⟩ := exists_trimStart cs
  obtain ⟨tail, behind, rest, last⟩ := exists_trimStart (trimStartChars cs).reverse
  have core : trimStartChars cs = trimChars cs ++ tail.reverse := by
    rw [trimChars, trimEndChars_eq, ← List.reverse_append, ← rest, List.reverse_reverse]
  refine ⟨lead, tail.reverse, before, behind.reverse, ?_, ?_, ?_⟩
  · rw [List.append_assoc, ← core, ← cut]
  · intro c mem
    obtain none | full := eq_or_ne (trimChars cs) []
    · rw [none] at mem
      cases mem
    · refine first c ?_
      rwa [core, List.head?_append_of_ne_nil _ full]
  · intro c mem
    rw [trimChars, trimEndChars_eq, List.getLast?_reverse] at mem
    exact last c mem

theorem Blanks.nil : Blanks [] := fun _ mem => absurd mem List.not_mem_nil

theorem trimChars_append {cs tail : List Char} (solid : Solid cs) (behind : Blanks tail) :
    trimChars (cs ++ tail) = cs :=
  trimChars_eq .nil behind solid

theorem trimChars_of_solid {cs : List Char} (solid : Solid cs) : trimChars cs = cs := by
  simpa using trimChars_append solid .nil

theorem solid_trimChars (cs : List Char) :
    Solid (trimChars cs) := (exists_trim cs).choose_spec.choose_spec.2.2.2

@[simp] theorem trimChars_trimChars (cs : List Char) : trimChars (trimChars cs) = trimChars cs :=
  trimChars_of_solid (solid_trimChars cs)

theorem trim_trim (s : String) : trim (trim s) = trim s :=
  String.toList_injective (by rw [toList_trim, toList_trim, trimChars_trimChars])

/-! ## Cutting -/

variable {p : Char → Bool}

theorem cutWhere?_eq_some {cs a b : List Char} :
    cutWhere? p cs = some (a, b) ↔ ∃ c, cs = a ++ c :: b ∧ p c = true ∧ ∀ x ∈ a, p x = false := by
  induction cs generalizing a b with
  | nil => simp [cutWhere?]
  | cons c cs ih =>
    rw [cutWhere?]
    split
    · next here =>
      constructor
      · rintro ⟨⟩
        exact ⟨c, rfl, here, by simp⟩
      · rintro ⟨d, cut, -, free⟩
        obtain _ | ⟨x, a⟩ := a
        · cases cut
          rfl
        · cases cut
          simp [free c] at here
    · next other =>
      rw [Option.map_eq_some_iff]
      constructor
      · rintro ⟨⟨x, y⟩, cut, ⟨⟩⟩
        obtain ⟨d, rfl, sep, free⟩ := ih.1 cut
        exact ⟨d, rfl, sep, by simpa [other] using free⟩
      · rintro ⟨d, cut, sep, free⟩
        obtain _ | ⟨x, a⟩ := a
        · cases cut
          exact absurd sep other
        · cases cut
          exact ⟨(a, b), ih.2 ⟨d, rfl, sep, fun y mem => free y (List.mem_cons_of_mem _ mem)⟩, rfl⟩

theorem cutAtChars?_isSome (mark cs : List Char) :
    (cutAtChars? mark cs).isSome = true ↔ mark <:+: cs := by
  induction cs with
  | nil =>
    rw [cutAtChars?, List.infix_nil]
    cases mark <;> simp
  | cons c cs ih =>
    rw [cutAtChars?, List.infix_cons_iff, ← ih, ← List.isPrefixOf_iff_prefix,
      ← List.isSome_isPrefixOf?_eq_isPrefixOf]
    cases mark.isPrefixOf? (c :: cs) <;> simp

theorem dropTail?_eq_some {tail s r : String} : dropTail? tail s = some r ↔ s = r ++ tail := by
  rw [dropTail?, Option.map_eq_some_iff]
  constructor
  · rintro ⟨cs, cut, rfl⟩
    rw [← String.toList_inj, String.toList_append, String.toList_ofList]
    exact (List.isSuffixOf?_eq_some_iff_append_eq.1 cut).symm
  · rintro rfl
    exact ⟨r.toList, List.isSuffixOf?_eq_some_iff_append_eq.2 String.toList_append.symm,
      String.ofList_toList⟩

theorem cutChars?_eq_some {sep : Char} {cs a b : List Char} :
    cutChars? sep cs = some (a, b) ↔ cs = a ++ sep :: b ∧ sep ∉ a := by
  constructor
  · intro cut
    by_cases mem : sep ∈ cs
    · obtain ⟨x, y, rfl, free⟩ := List.eq_append_cons_of_mem mem
      rw [cutChars?_append free] at cut
      cases cut
      exact ⟨rfl, free⟩
    · rw [cutChars?_free mem] at cut
      cases cut
  · rintro ⟨rfl, free⟩
    exact cutChars?_append free b

theorem cut?_eq_some {sep : Char} {s a b : String} :
    cut? sep s = some (a, b) ↔ s.toList = a.toList ++ sep :: b.toList ∧ sep ∉ a.toList := by
  rw [cut?, Option.map_eq_some_iff]
  constructor
  · rintro ⟨⟨x, y⟩, cut, same⟩
    obtain ⟨rfl, rfl⟩ := Prod.mk.inj same
    rw [String.toList_ofList, String.toList_ofList]
    exact cutChars?_eq_some.1 cut
  · exact fun cut => ⟨(a.toList, b.toList), cutChars?_eq_some.2 cut, by simp⟩

end Retouch.Text
