import Mathlib.Data.List.Forall2
import Retouch.Attribution.Basic
import Retouch.Proofs.Text.Closed

/-!
# Outcomes

What is known of the parts of a computation that succeeded: of a source that is parsed, its tokens,
the run of the parser and the unit without types (`exists_unit`, `exists_parseUnit`). A closed
outcome is computed as a whole, as the test of the value that it gives (`exists_of_any`).
-/

namespace Retouch

variable {α β ε : Type}

theorem exists_of_bind_ok {x : Except ε α} {k : α → Except ε β} {b : β} (h : (x >>= k) = .ok b) :
    ∃ a, x = .ok a ∧ k a = .ok b := by
  cases x with
  | error e => cases h
  | ok a => exact ⟨a, rfl, h⟩

theorem exists_of_mapM_ok {f : α → Except ε β} {l : List α} {out : List β}
    (h : l.mapM f = .ok out) : ∀ a ∈ l, ∃ b, f a = .ok b := by
  induction l generalizing out with
  | nil => simp
  | cons a l ih =>
    rw [List.mapM_cons] at h
    obtain ⟨b, first, h⟩ := exists_of_bind_ok h
    obtain ⟨bs, rest, -⟩ := exists_of_bind_ok h
    simpa [first] using ih rest

theorem exists_mapM_ok {f : α → Except ε β} {l : List α} (all : ∀ a ∈ l, ∃ b, f a = .ok b) :
    ∃ out, l.mapM f = .ok out := by
  induction l with
  | nil => exact ⟨[], rfl⟩
  | cons a l ih =>
    obtain ⟨b, own⟩ := all a List.mem_cons_self
    obtain ⟨out, others⟩ := ih fun a mem => all a (List.mem_cons_of_mem _ mem)
    exact ⟨b :: out, by rw [List.mapM_cons, own, others]; rfl⟩

theorem mapM_eq_ok {f : α → Except ε β} {l : List α} {out : List β} :
    l.mapM f = .ok out ↔ List.Forall₂ (fun a b => f a = .ok b) l out := by
  induction l generalizing out with
  | nil =>
    rw [List.mapM_nil, List.forall₂_nil_left_iff]
    exact ⟨fun h => by cases h; rfl, fun h => by rw [h]; rfl⟩
  | cons a l ih =>
    rw [List.mapM_cons]
    constructor
    · intro h
      obtain ⟨b, first, h⟩ := exists_of_bind_ok h
      obtain ⟨bs, others, h⟩ := exists_of_bind_ok h
      cases h
      exact .cons first (ih.1 others)
    · rintro (_ | ⟨first, others⟩)
      rw [first, ih.2 others]
      rfl

theorem mapError_eq_ok {ε' : Type} {x : Except ε α} {f : ε → ε'} {a : α} :
    x.mapError f = .ok a ↔ x = .ok a := by
  cases x <;> simp [Except.mapError]

theorem bind_ne_error {x : Except ε α} {k : α → Except ε β} {e : ε} (made : ∃ a, x = .ok a)
    (others : ∀ a, k a ≠ .error e) : (x >>= k) ≠ .error e := by
  obtain ⟨a, rfl⟩ := made
  exact others a

theorem exists_of_mem_mapM {f : α → Except ε β} {l : List α} {out : List β}
    (h : l.mapM f = .ok out) : ∀ b ∈ out, ∃ a ∈ l, f a = .ok b := by
  induction l generalizing out with
  | nil =>
    cases h
    simp
  | cons a l ih =>
    rw [List.mapM_cons] at h
    obtain ⟨b, first, h⟩ := exists_of_bind_ok h
    obtain ⟨bs, rest, h⟩ := exists_of_bind_ok h
    cases h
    rintro b' (_ | ⟨_, mem⟩)
    · exact ⟨a, List.mem_cons_self, first⟩
    · obtain ⟨a', held, made⟩ := ih rest b' mem
      exact ⟨a', List.mem_cons_of_mem _ held, made⟩

theorem exists_of_any {x : Except ε α} {p : α → Bool} (h : x.toOption.any p = true) :
    ∃ a, x = .ok a ∧ p a = true := by
  cases x with
  | error e => cases h
  | ok a => exact ⟨a, rfl, h⟩

/-- A source is cut into tokens, and then the parser reads them. -/
theorem exists_unit {path source : String} {nextId n : NodeId} {u : CompilationUnit}
    (h : parseUnit path source nextId = .ok (u, n)) :
    ∃ ts s, tokenize source = .ok ts ∧
      Parser.unit path (Parser.rankBound * (ts.length + 1)) ⟨ts, false, nextId⟩ = .ok (u, s) := by
  unfold parseUnit at h
  cases lexed : tokenize source with
  | error e => simp [lexed, bind, Except.bind, Except.mapError] at h
  | ok ts =>
    rw [lexed] at h
    change (Parser.parseTokens path ts nextId).mapError _ = _ at h
    unfold Parser.parseTokens at h
    split at h
    · next s run =>
      cases h
      exact ⟨ts, s, rfl, run⟩
    · cases h

/-- A source is read and then attributed. -/
theorem exists_parseUnit {classpath : Classpath} {bindings : List (String × JavaType)}
    {path source : String} {nextId nextId' : NodeId} {u : CompilationUnit}
    (h : parseSource classpath bindings path source nextId = .ok (u, nextId')) :
    ∃ raw, parseUnit path source nextId = .ok (raw, nextId') ∧
      u = raw.attribute classpath bindings := by
  unfold parseSource at h
  obtain ⟨out, parsed, h⟩ := exists_of_bind_ok h
  cases h
  exact ⟨out.1, parsed, rfl⟩

end Retouch
