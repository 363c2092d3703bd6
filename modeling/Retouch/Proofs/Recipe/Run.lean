import Mathlib.Logic.Function.Iterate
import Mathlib.Tactic.Choose
import Retouch.Proofs.Recipe.Passes

/-!
# Runs over many units

A run repeats one step, a cycle over all units (`step`), and looks at whether the cycle changed
anything (`busy`). Seen from one unit, each step moves its result on (`Moves`), and a unit that did
not move stays where it is. So the result of a unit does not depend on how long the others go on.

Main statement: `run_eq`, the cycles that a run takes and the results that it ends with.
-/

namespace Retouch

namespace UnitResult

/-- One cycle of a unit; one with an error is left out. -/
def next (recipes : List Recipe) (r : UnitResult) : StateM Session (UnitResult × Bool) :=
  if r.error.isNone then r.cycle recipes else pure (r, false)

/-- What one cycle makes of a unit, and whether it changes the unit. -/
inductive Moves (recipes : List Recipe) (r : UnitResult) : UnitResult → Bool → Prop
  | rests {e : EditError} : r.error = some e → Moves recipes r r false
  | goes {ids : List String} {out : Except EditError CompilationUnit} : r.error = none →
      Passes r.after recipes ids out → Moves recipes r (r.close ids out).1 (r.close ids out).2

namespace Moves

variable {recipes : List Recipe} {r a : UnitResult} {f : Bool}

theorem of_error {e : EditError} (h : Moves recipes r a f) (error : r.error = some e) :
    a = r ∧ f = false := by
  cases h with
  | rests => exact ⟨rfl, rfl⟩
  | goes fine => simp [error] at fine

theorem of_fine (h : Moves recipes r a f) (fine : r.error = none) :
    ∃ ids out, Passes r.after recipes ids out ∧ a = (r.close ids out).1 ∧
      f = (r.close ids out).2 := by
  cases h with
  | rests error => simp [fine] at error
  | goes _ passes => exact ⟨_, _, passes, rfl, rfl⟩

/-- A unit that did not change fails or is changed by no recipe. -/
theorem settled (h : Moves recipes r a false) :
    (∃ e, a.error = some e) ∨ a.error = none ∧ Passes a.after recipes [] (.ok a.after) := by
  generalize unmoved : false = f at h
  cases h with
  | rests error => exact .inl ⟨_, error⟩
  | @goes ids out fine passes =>
    cases out with
    | error e => exact .inl ⟨e, rfl⟩
    | ok v =>
      obtain rfl : ids = [] := by simpa [close] using unmoved.symm
      obtain rfl := passes.eq_of_nil
      exact .inr ⟨fine, passes⟩

end Moves

end UnitResult

open UnitResult (Moves)

namespace RecipeRun

/-- The results so far and the session. -/
abbrev Progress := List UnitResult × Session

/-- The results of units that no recipe has seen. -/
def start (units : List CompilationUnit) : List UnitResult :=
  units.map fun u => { before := u, after := u }

/-- One cycle over all units. -/
def step (recipes : List Recipe) (p : Progress) : Progress :=
  ((cycleAll recipes p.1 p.2).1.1, (cycleAll recipes p.1 p.2).2)

/-- The next cycle changes a unit. -/
def busy (recipes : List Recipe) (p : Progress) : Bool := (cycleAll recipes p.1 p.2).1.2

theorem cycleAll_cons (recipes : List Recipe) (r : UnitResult) (rs : List UnitResult)
    (s : Session) :
    cycleAll recipes (r :: rs) s =
      (((r.next recipes s).1.1 :: (cycleAll recipes rs (r.next recipes s).2).1.1,
        (r.next recipes s).1.2 || (cycleAll recipes rs (r.next recipes s).2).1.2),
        (cycleAll recipes rs (r.next recipes s).2).2) := by
  rw [cycleAll, UnitResult.next]
  split <;> rfl

theorem length_step (recipes : List Recipe) (p : Progress) (j : Nat) :
    ((step recipes)^[j] p).1.length = p.1.length := by
  have one (p : Progress) : (step recipes p).1.length = p.1.length := by
    obtain ⟨results, s⟩ := p
    induction results generalizing s with
    | nil => rfl
    | cons r rs ih =>
      simp only [step, cycleAll_cons, List.length_cons]
      rw [← ih (r.next recipes s).2]
      rfl
  induction j generalizing p with
  | zero => rfl
  | succ j ih => exact (ih _).trans (one p)

/-- A result with an error takes no part in a cycle: the cycle over the others does the same. -/
def SitsOut (recipes : List Recipe) (i : Nat) (results : List UnitResult) : Prop :=
  ∃ r, results[i]? = some r ∧ cycleAll recipes results = do
    let (others, changed) ← cycleAll recipes (results.eraseIdx i)
    return (others.insertIdx i r, changed)

theorem sitsOut {recipes : List Recipe} {i : Nat} {results : List UnitResult} {r : UnitResult}
    {e : EditError} (here : results[i]? = some r) (error : r.error = some e) :
    SitsOut recipes i results := by
  refine ⟨r, here, ?_⟩
  induction results generalizing i with
  | nil => cases here
  | cons q rs ih =>
    funext s
    cases i with
    | zero =>
      obtain rfl : q = r := by simpa using here
      have rests : q.next recipes s = ((q, false), s) := by simp [UnitResult.next, error]; rfl
      rw [cycleAll_cons, rests]
      rfl
    | succ i =>
      rw [cycleAll_cons, ih (by simpa using here)]
      change _ = (fun x : (List UnitResult × Bool) × Session =>
        ((x.1.1.insertIdx (i + 1) r, x.1.2), x.2)) (cycleAll recipes (q :: rs.eraseIdx i) s)
      rw [cycleAll_cons]
      rfl

/-- A run of at most `limit` cycles ends behind `n` of them. -/
structure Stops (limit : Nat) (busy : Nat → Bool) (n : Nat) : Prop where
  le : n ≤ limit
  pos : 0 < limit → 0 < n
  going : ∀ j, j + 1 < n → busy j = true
  quiet : n < limit → busy (n - 1) = false

/-- The loop makes steps until one changes nothing. -/
theorem cyclesFrom_eq {recipes : List Recipe} (cycles limit : Nat) (p : Progress)
    (running : ∀ j, ((step recipes)^[j] p).2.cancelled = false) :
    ∃ n, Stops limit (fun j => busy recipes ((step recipes)^[j] p)) n ∧
      cyclesFrom recipes cycles limit p.1 p.2 =
        ((((step recipes)^[n] p).1, cycles + n), ((step recipes)^[n] p).2) := by
  induction limit generalizing cycles p with
  | zero => exact ⟨0, ⟨Nat.le_refl 0, id, by omega, by omega⟩, rfl⟩
  | succ limit ih =>
    have opened : cyclesFrom recipes cycles (limit + 1) p.1 p.2 =
        if !busy recipes p then (((step recipes p).1, cycles + 1), (step recipes p).2)
        else cyclesFrom recipes (cycles + 1) limit (step recipes p).1 (step recipes p).2 := by
      have going : (step recipes p).2.cancelled = false := running 1
      change (if !busy recipes p || (step recipes p).2.cancelled
        then (pure ((step recipes p).1, cycles + 1) : StateM Session (List UnitResult × Nat))
        else cyclesFrom recipes (cycles + 1) limit (step recipes p).1) (step recipes p).2 = _
      rw [going, Bool.or_false]
      split <;> rfl
    rw [opened]
    cases goes : busy recipes p with
    | false =>
      refine ⟨1, ⟨by omega, fun _ => Nat.one_pos, by omega, fun _ => goes⟩, rfl⟩
    | true =>
      obtain ⟨n, stops, ends⟩ := ih (cycles + 1) (step recipes p) fun j => running (j + 1)
      refine ⟨n + 1, ⟨?_, fun _ => Nat.succ_pos n, ?_, ?_⟩, ?_⟩
      · have := stops.le
        omega
      · rintro (_ | j) more
        · exact goes
        · exact stops.going j (by omega)
      · intro more
        have pos := stops.pos (by omega)
        obtain ⟨m, rfl⟩ : ∃ m, n = m + 1 := ⟨n - 1, by omega⟩
        exact stops.quiet (by omega)
      · rw [if_neg (by simp), ends, Nat.add_right_comm, Nat.add_assoc]
        rfl

/-- The results of one unit from cycle to cycle, and whether each cycle changes it. -/
def History (recipes : List Recipe) (h : Nat → UnitResult) (f : Nat → Bool) : Prop :=
  ∀ j, Moves recipes (h j) (h (j + 1)) (f j)

/-- What the result of a unit tells of its way through the recipes. -/
def Accounts (u : CompilationUnit) (ids : List String) (r : UnitResult) :
    Except EditError CompilationUnit → Prop
  | .ok v => r.before = u ∧ r.after = v ∧ r.recipes = ids.eraseDups ∧ r.error = none
  | .error e => r.before = u ∧ r.after = u ∧ r.recipes = [] ∧ r.error = some e

namespace History

variable {recipes : List Recipe} {h : Nat → UnitResult} {f : Nat → Bool} {u : CompilationUnit}

/-- Behind `j` cycles a unit has gone through the recipes `j` times, or stopped on its way. -/
theorem accounts (H : History recipes h f) (first : h 0 = { before := u, after := u }) (j : Nat) :
    ∃ ids out, Passes u (List.replicate j recipes).flatten ids out ∧ Accounts u ids (h j) out := by
  induction j with
  | zero => exact ⟨[], .ok u, .done, by simp [Accounts, first]⟩
  | succ j ih =>
    obtain ⟨ids, out, passes, told⟩ := ih
    rw [List.replicate_succ', List.flatten_append, List.flatten_singleton]
    cases out with
    | error e =>
      obtain ⟨before, after, none, error⟩ := told
      refine ⟨ids, .error e, passes.append_error recipes, ?_⟩
      rw [((H j).of_error error).1]
      exact ⟨before, after, none, error⟩
    | ok v =>
      obtain ⟨before, after, told, fine⟩ := told
      obtain ⟨ids', out', more, closed, -⟩ := (H j).of_fine fine
      rw [after] at more
      refine ⟨ids ++ ids', out', passes.append more, ?_⟩
      rw [closed]
      cases out' with
      | error e => exact ⟨before, before, rfl, rfl⟩
      | ok v' => exact ⟨before, rfl, by rw [UnitResult.close, told, foldl_note], fine⟩

/-- A failed unit failed in one cycle and rests in all later ones. -/
theorem failed (H : History recipes h f) (first : h 0 = { before := u, after := u }) {n : Nat}
    {e : EditError} (error : (h n).error = some e) :
    ∃ k < n, (∃ ids, Passes u (List.replicate (k + 1) recipes).flatten ids (.error e)) ∧
      ∀ j, k < j → (h j).error = some e := by
  induction n with
  | zero => simp [first] at error
  | succ n ih =>
    cases now : (h n).error with
    | some e' =>
      rw [((H n).of_error now).1] at error
      obtain ⟨k, less, fails, later⟩ := ih error
      exact ⟨k, Nat.lt_succ_of_lt less, fails, later⟩
    | none =>
      refine ⟨n, Nat.lt_succ_self n, ?_, fun j later => ?_⟩
      · obtain ⟨ids, out, passes, told⟩ := H.accounts first (n + 1)
        cases out with
        | ok v => simp [told.2.2.2] at error
        | error e' =>
          obtain rfl : e' = e := by simpa [error] using told.2.2.2.symm
          exact ⟨ids, passes⟩
      · induction later with
        | refl => exact error
        | step _ ih => rwa [((H _).of_error ih).1]

end History

end RecipeRun

section Steady

variable [Setoid CompilationUnit] {recipes : List Recipe}

namespace UnitResult

/-- Results that tell the same of equivalent units. -/
structure Alike (r r' : UnitResult) : Prop where
  before : r.before ≈ r'.before
  after : r.after ≈ r'.after
  recipes : r.recipes = r'.recipes
  error : r.error = r'.error

theorem Alike.refl (r : UnitResult) : Alike r r := ⟨Setoid.refl _, Setoid.refl _, rfl, rfl⟩

theorem Alike.close {r r' : UnitResult} (same : Alike r r') {ids : List String}
    {out out' : Except EditError CompilationUnit} (ends : SameEnd out out') :
    Alike (r.close ids out).1 (r'.close ids out').1 ∧
      (r.close ids out).2 = (r'.close ids out').2 := by
  cases out <;> cases out'
  · cases ends
    exact ⟨⟨same.before, same.before, rfl, rfl⟩, rfl⟩
  · cases ends
  · cases ends
  · exact ⟨⟨same.before, ends, by simp [UnitResult.close, same.recipes], same.error⟩, rfl⟩

theorem next_moves (steady : ∀ r ∈ recipes, r.Steady) (r : UnitResult) (s : Session)
    (running : s.cancelled = false) :
    (r.next recipes s).2.cancelled = false ∧
      Moves recipes r (r.next recipes s).1.1 (r.next recipes s).1.2 := by
  unfold next
  cases error : r.error with
  | some e => exact ⟨running, .rests error⟩
  | none =>
    obtain ⟨running', ids, out, passes, closed⟩ := r.cycle_passes steady error s running
    refine ⟨running', ?_⟩
    simp only [Option.isNone_none, if_true, closed]
    exact .goes error passes

namespace Moves

variable {r r' a a' b : UnitResult} {f f' : Bool}

theorem agree (steady : ∀ r ∈ recipes, r.Steady) (h : Moves recipes r a f)
    (h' : Moves recipes r' a' f') (same : Alike r r') : Alike a a' ∧ f = f' := by
  cases error : r.error with
  | some e =>
    obtain ⟨rfl, rfl⟩ := h.of_error error
    obtain ⟨rfl, rfl⟩ := h'.of_error (same.error.symm.trans error)
    exact ⟨same, rfl⟩
  | none =>
    obtain ⟨ids, out, passes, rfl, rfl⟩ := h.of_fine error
    obtain ⟨ids', out', passes', rfl, rfl⟩ := h'.of_fine (same.error.symm.trans error)
    obtain ⟨rfl, ends⟩ := passes.agree steady passes' same.after
    exact same.close ends

/-- A unit that did not change stays as it is. -/
theorem stays (steady : ∀ r ∈ recipes, r.Steady) (h : Moves recipes r a false)
    (h' : Moves recipes a b f) : b = a ∧ f = false := by
  obtain ⟨e, error⟩ | ⟨fine, idle⟩ := h.settled
  · exact h'.of_error error
  · obtain ⟨ids, out, passes, rfl, rfl⟩ := h'.of_fine fine
    obtain ⟨rfl, ends⟩ := idle.agree steady passes (Setoid.refl _)
    cases out with
    | error => cases ends
    | ok v =>
      obtain rfl := passes.eq_of_nil
      exact ⟨by simp [close], rfl⟩

end Moves

end UnitResult

namespace RecipeRun

theorem step_moves (steady : ∀ r ∈ recipes, r.Steady) (p : Progress)
    (running : p.2.cancelled = false) :
    (step recipes p).2.cancelled = false ∧
      ∀ (i : Nat) (r : UnitResult), p.1[i]? = some r → ∃ r' f, (step recipes p).1[i]? = some r' ∧
        Moves recipes r r' f ∧ (f = true → busy recipes p = true) := by
  obtain ⟨results, s⟩ := p
  induction results generalizing s with
  | nil => exact ⟨running, by simp⟩
  | cons r rs ih =>
    obtain ⟨running', moves⟩ := r.next_moves steady s running
    obtain ⟨running'', others⟩ := ih (r.next recipes s).2 running'
    simp only [step, busy, cycleAll_cons]
    refine ⟨running'', ?_⟩
    rintro (_ | i) q here
    · obtain rfl : r = q := by simpa using here
      exact ⟨_, _, rfl, moves, fun changed => by simp [changed]⟩
    · obtain ⟨q', f, there, moves', changed⟩ := others i q (by simpa using here)
      refine ⟨q', f, there, moves', fun moved => ?_⟩
      rw [show (cycleAll recipes rs (r.next recipes s).2).1.2 = true from changed moved,
        Bool.or_true]

theorem step_running (steady : ∀ r ∈ recipes, r.Steady) (p : Progress)
    (running : p.2.cancelled = false) (j : Nat) : ((step recipes)^[j] p).2.cancelled = false := by
  induction j generalizing p with
  | zero => exact running
  | succ j ih => exact ih _ (step_moves steady p running).1

theorem exists_history (steady : ∀ r ∈ recipes, r.Steady) (p : Progress)
    (running : p.2.cancelled = false) {i : Nat} {r : UnitResult} (here : p.1[i]? = some r) :
    ∃ results changed, results 0 = r ∧ History recipes results changed ∧
      ∀ j, ((step recipes)^[j] p).1[i]? = some (results j) ∧
        (changed j = true → busy recipes ((step recipes)^[j] p) = true) := by
  have there (j : Nat) : ∃ q, ((step recipes)^[j] p).1[i]? = some q := by
    induction j with
    | zero => exact ⟨r, here⟩
    | succ j ih =>
      obtain ⟨q, found⟩ := ih
      obtain ⟨q', f, found', -⟩ :=
        (step_moves steady _ (step_running steady p running j)).2 i q found
      rw [Function.iterate_succ_apply']
      exact ⟨q', found'⟩
  choose results found using there
  have next (j : Nat) : ∃ f, Moves recipes (results j) (results (j + 1)) f ∧
      (f = true → busy recipes ((step recipes)^[j] p) = true) := by
    obtain ⟨q', f, found', moves, changed⟩ :=
      (step_moves steady _ (step_running steady p running j)).2 i _ (found j)
    rw [← Function.iterate_succ_apply' (step recipes), found (j + 1)] at found'
    obtain rfl := Option.some.inj found'
    exact ⟨f, moves, changed⟩
  choose changed moves busy using next
  exact ⟨results, changed, Option.some.inj ((found 0).symm.trans here), moves,
    fun j => ⟨found j, busy j⟩⟩

/-- A unit that runs alone decides how long the run goes on. -/
theorem exists_history_alone (steady : ∀ r ∈ recipes, r.Steady) (r : UnitResult) (s : Session)
    (running : s.cancelled = false) :
    ∃ h, h 0 = r ∧ (∀ j, ((step recipes)^[j] ([r], s)).1 = [h j]) ∧
      History recipes h fun j => busy recipes ((step recipes)^[j] ([r], s)) := by
  have alone (p : Progress) (q : UnitResult) (only : p.1 = [q]) (running : p.2.cancelled = false) :
      ∃ q', (step recipes p).1 = [q'] ∧ Moves recipes q q' (busy recipes p) := by
    obtain ⟨_, t⟩ := p
    obtain rfl := only
    refine ⟨(q.next recipes t).1.1, by simp only [step, cycleAll_cons]; rfl, ?_⟩
    simp only [busy, cycleAll_cons]
    have moves := (q.next_moves steady t running).2
    rwa [← Bool.or_false (q.next recipes t).1.2] at moves
  have there (j : Nat) : ∃ q, ((step recipes)^[j] ([r], s)).1 = [q] := by
    induction j with
    | zero => exact ⟨r, rfl⟩
    | succ j ih =>
      obtain ⟨q, only⟩ := ih
      obtain ⟨q', only', -⟩ := alone _ q only (step_running steady _ running j)
      rw [Function.iterate_succ_apply']
      exact ⟨q', only'⟩
  choose h found using there
  refine ⟨h, (List.singleton_inj.1 (found 0)).symm, found, fun j => ?_⟩
  obtain ⟨q', only, moves⟩ := alone _ _ (found j) (step_running steady _ running j)
  rw [← Function.iterate_succ_apply' (step recipes), found (j + 1)] at only
  obtain rfl := List.singleton_inj.1 only
  exact moves

namespace History

variable {h h' : Nat → UnitResult} {f f' : Nat → Bool}

theorem alike (steady : ∀ r ∈ recipes, r.Steady) (H : History recipes h f)
    (H' : History recipes h' f') (same : (h 0).Alike (h' 0)) (j : Nat) :
    (h j).Alike (h' j) ∧ f j = f' j := by
  induction j with
  | zero => exact ⟨same, ((H 0).agree steady (H' 0) same).2⟩
  | succ j ih =>
    have same' := ((H j).agree steady (H' j) ih.1).1
    exact ⟨same', ((H (j + 1)).agree steady (H' (j + 1)) same').2⟩

/-- Behind a cycle that does not change it a unit stays as it is. -/
theorem stays (steady : ∀ r ∈ recipes, r.Steady) (H : History recipes h f) {m : Nat}
    (quiet : f m = false) (j : Nat) : h (m + 1 + j) = h (m + 1) := by
  have still (j : Nat) : h (m + 1 + j) = h (m + 1) ∧ f (m + j) = false := by
    induction j with
    | zero => exact ⟨rfl, quiet⟩
    | succ j ih =>
      have moves := H (m + j)
      rw [ih.2] at moves
      have next := H (m + 1 + j)
      rw [show m + 1 + j = m + j + 1 by omega] at next
      obtain ⟨same, quiet'⟩ := moves.stays steady next
      refine ⟨?_, by rwa [show m + (j + 1) = m + j + 1 by omega]⟩
      rw [show m + 1 + (j + 1) = m + j + 1 + 1 by omega, same,
        show m + j + 1 = m + 1 + j by omega, ih.1]
  exact (still j).1

/-- Two runs of one unit end alike, though one of them may go on for the sake of others. -/
theorem meet (steady : ∀ r ∈ recipes, r.Steady) (H : History recipes h f)
    (H' : History recipes h' f') (same : (h 0).Alike (h' 0)) {limit n m : Nat} (pos : 0 < limit)
    {busy : Nat → Bool} (seen : ∀ j, f j = true → busy j = true) (stops : Stops limit busy n)
    (stops' : Stops limit f' m) : (h n).Alike (h' m) := by
  have alike := H.alike steady H' same
  have n_pos := stops.pos pos
  have m_pos := stops'.pos pos
  obtain less | equal | more := Nat.lt_trichotomy n m
  · have quiet := stops.quiet (by have := stops'.le; omega)
    have going := stops'.going (n - 1) (by omega)
    rw [← (alike (n - 1)).2] at going
    rw [seen _ going] at quiet
    cases quiet
  · rw [← equal]
    exact (alike n).1
  · have quiet := stops'.quiet (by have := stops.le; omega)
    have settled := H'.stays steady quiet (n - m)
    rw [show m - 1 + 1 + (n - m) = n by omega, show m - 1 + 1 = m by omega] at settled
    rw [← settled]
    exact (alike n).1

end History

theorem run_eq (steady : ∀ r ∈ recipes, r.Steady) (maxCycles : Nat) (units : List CompilationUnit)
    (s : Session) (running : s.cancelled = false) :
    ∃ n, Stops (max 1 maxCycles)
        (fun j => busy recipes ((step recipes)^[j] (start units, s))) n ∧
      (run recipes maxCycles units s).1.cycles = n ∧
      (run recipes maxCycles units s).1.results = ((step recipes)^[n] (start units, s)).1 := by
  obtain ⟨n, stops, ends⟩ := cyclesFrom_eq 0 (max 1 maxCycles) (start units, s)
    (step_running steady _ running)
  refine ⟨n, stops, ?_, ?_⟩
  · change (cyclesFrom recipes 0 (max 1 maxCycles) (start units) s).1.2 = n
    rw [ends, Nat.zero_add]
  · change (cyclesFrom recipes 0 (max 1 maxCycles) (start units) s).1.1 = _
    rw [ends]

end RecipeRun

end Steady

end Retouch
