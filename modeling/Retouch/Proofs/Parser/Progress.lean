import Retouch.Parser.Grammar
import Retouch.Proofs.Parser.Operators
import Retouch.Proofs.Parser.Refusals

/-!
# Progress

`Leads` compares two runs of the parser, one for each of two bounds on the depth, from a place of a
list of tokens that ends with an end: they do the same, what is left behind a success begins at a
place that is not in front of the first one (behind it, if something is `passed`), and the bound is
used up only where `cut` allows it. With equal bounds and `cut` true this says how far a run comes;
with `cut` false it says that both bounds are large enough.

The rules follow the code. A loop that passes a token in each round ends before the tokens do, so it
needs no more than a bound above their number (`Enough`).
-/

namespace Retouch.Parser

/-- The last token is an end. -/
def Closes (tokens : List Token) : Prop := ∃ front last, tokens = front ++ [last] ∧ last.kind = .eof

/-- The tokens that are left begin at the place `k` or behind it, and behind it if something was
passed. -/
def State.From (tokens : List Token) (k : Nat) (passed : Bool) (s : State) : Prop :=
  Closes tokens ∧ ∃ pos, s.At tokens pos ∧ k + passed.toNat ≤ pos

/-- Two runs from one state do the same. They leave a place of the list, and if the bound is used
up, `cut` holds. -/
def LeadsAt {α : Type} (cut : Prop) (tokens : List Token) (k : Nat) (passed : Bool) (s : State)
    (p p' : Parse α) :
    Prop :=
  p' s = p s ∧ match p s with
    | .ok (_, s') => s'.From tokens k passed
    | .error e => e.fault = .tooDeep → cut

/-- The same from every state, at `k` or behind it, behind it if something was `passed` before. -/
def Leads {α : Type} (cut : Prop) (tokens : List Token) (k : Nat) (passed passed' : Bool)
    (p p' : Parse α) : Prop :=
  ∀ s : State, s.From tokens k passed → LeadsAt cut tokens k passed' s p p'

variable {α β : Type} {cut : Prop} {tokens : List Token} {k pos n m : Nat}
  {passed passed' passed'' : Bool}
  {s s' : State} {p p' : Parse α} {q q' : α → Parse β}

/-! ## Places -/

theorem Closes.succ_lt (closes : Closes tokens) (inside : pos < tokens.length)
    (more : tokens[pos].kind ≠ .eof) :
    pos + 1 < tokens.length := by
  obtain ⟨front, last, rfl, kind⟩ := closes
  rw [List.length_append, List.length_singleton] at inside ⊢
  by_cases atLast : pos = front.length
  · subst atLast
    rw [List.getElem_concat_length rfl] at more
    exact absurd kind more
  · omega

theorem State.At.succ (closes : Closes tokens) (place : s.At tokens pos) (more : s.atEnd = false) :
    s.bump.At tokens (pos + 1) := by
  have inside : pos + 0 < tokens.length := place.inside
  have front := Indexed.peekAt_inside place inside
  have other : tokens[pos].kind ≠ .eof := by
    rw [State.atEnd, State.peek, front] at more
    exact ne_of_beq_false more
  refine ⟨closes.succ_lt place.inside other, ?_⟩
  rw [State.bump, more, if_neg Bool.false_ne_true, place.left, List.tail_drop]

namespace State.From

/-- Only the tokens that are left count. -/
theorem of_tokens (h : s.From tokens k passed) (same : s'.tokens = s.tokens) :
    s'.From tokens k passed := by
  obtain ⟨closes, pos, place, le⟩ := h
  exact ⟨closes, pos, ⟨place.inside, same.trans place.left⟩, le⟩

theorem bump (h : s.From tokens k passed) (more : s.atEnd = false) : s.bump.From tokens k true := by
  obtain ⟨closes, pos, place, le⟩ := h
  refine ⟨closes, pos + 1, place.succ closes more, ?_⟩
  rw [Bool.toNat_true]
  omega

theorem bump_weak (h : s.From tokens k passed) : s.bump.From tokens k passed := by
  cases more : s.atEnd with
  | false =>
    obtain ⟨closes, pos, place, le⟩ := h
    exact ⟨closes, pos + 1, place.succ closes more, by omega⟩
  | true =>
    rw [State.bump, more, if_pos rfl]
    exact h

theorem loosen (h : s.From tokens k passed) (le : passed' = true → passed = true) :
    s.From tokens k passed' := by
  obtain ⟨closes, pos, place, behind⟩ := h
  refine ⟨closes, pos, place, ?_⟩
  cases passed <;> cases passed' <;> simp at le behind ⊢ <;> omega

theorem inside (h : s.From tokens k passed) : k < tokens.length := by
  obtain ⟨-, pos, place, behind⟩ := h
  have := place.inside
  omega

end State.From

/-! ## Rules at one state -/

namespace LeadsAt

theorem ite {c : Prop} [Decidable c] {r r' : Parse α} (h : c → LeadsAt cut tokens k passed s p p')
    (h' : ¬c → LeadsAt cut tokens k passed s r r') :
    LeadsAt cut tokens k passed s (if c then p else r) (if c then p' else r') := by
  split
  · next held => exact h held
  · next held => exact h' held

theorem bind (hp : LeadsAt cut tokens k passed s p p')
    (hq : ∀ a, Leads cut tokens k passed passed' (q a) (q' a)) :
    LeadsAt cut tokens k passed' s (p >>= q) (p' >>= q') := by
  obtain ⟨same, outcome⟩ := hp
  change (p' s >>= fun x => q' x.1 x.2) = (p s >>= fun x => q x.1 x.2) ∧
    match (p s >>= fun x => q x.1 x.2) with
    | .ok (_, s') => s'.From tokens k passed'
    | .error e => e.fault = .tooDeep → cut
  rw [same]
  cases run : p s with
  | error e =>
    rw [run] at outcome
    exact ⟨rfl, outcome⟩
  | ok x =>
    rw [run] at outcome
    exact hq x.1 x.2 outcome

theorem imp {k' : Nat} (h : LeadsAt cut tokens k passed s p p')
    (weaker : ∀ s' : State, s'.From tokens k passed → s'.From tokens k' passed') :
    LeadsAt cut tokens k' passed' s p p' := by
  obtain ⟨same, outcome⟩ := h
  refine ⟨same, ?_⟩
  cases run : p s with
  | error e =>
    rw [run] at outcome
    exact outcome
  | ok x =>
    rw [run] at outcome
    exact weaker x.2 outcome

/-- The token that is taken is passed, as it is not the end. -/
theorem next {q q' : Space × Token → Parse β} (h : s.From tokens k passed) (more : s.atEnd = false)
    (rest : ∀ y, Leads cut tokens k true passed' (q y) (q' y)) :
    LeadsAt cut tokens k passed' s (Parser.next >>= q) (Parser.next >>= q') := by
  obtain ⟨space, run⟩ := exists_next s
  have taken : State.From tokens k passed { s with taken := true } := h.of_tokens rfl
  refine .bind ⟨rfl, ?_⟩ rest
  rw [run]
  exact taken.bump more

end LeadsAt

/-! ## Rules -/

namespace Leads

theorem pure (a : α) (le : passed' = true → passed = true) :
    Leads cut tokens k passed passed' (Pure.pure a) (Pure.pure a) := fun _ h => ⟨rfl, h.loosen le⟩

/-- Nothing is asked of what comes behind. -/
theorem give (a : α) : Leads cut tokens k passed false (Pure.pure a) (Pure.pure a) :=
  pure a fun never => absurd never Bool.false_ne_true

theorem bind (hp : Leads cut tokens k passed passed' p p')
    (hq : ∀ a, Leads cut tokens k passed' passed'' (q a) (q' a)) :
    Leads cut tokens k passed passed'' (p >>= q) (p' >>= q') := fun s h => (hp s h).bind hq

theorem ite {c : Prop} [Decidable c] {r r' : Parse α} (hp : Leads cut tokens k passed passed' p p')
    (hr : Leads cut tokens k passed passed' r r') :
    Leads cut tokens k passed passed' (if c then p else r) (if c then p' else r') :=
  fun s h => .ite (fun _ => hp s h) fun _ => hr s h

/-- What leads from a place leads from behind it. -/
theorem behind (h : Leads cut tokens k false passed' p p') :
    Leads cut tokens k passed passed' p p' :=
  fun s from_ => h s (from_.loosen nofun)

/-- What leads to the other side of a token leads to this one. -/
theorem weaken (h : Leads cut tokens k passed true p p') : Leads cut tokens k passed passed' p p' :=
  fun s from_ => (h s from_).imp fun _ behind => behind.loosen fun _ => rfl

/-- The state is looked at, and the runs go on in the same way from every state. -/
theorem look {q q' : State → Parse β} (h : ∀ s : State, s.From tokens k passed →
    Leads cut tokens k passed passed' (q s) (q' s)) :
    Leads cut tokens k passed passed' (MonadState.get >>= q) (MonadState.get >>= q') :=
  fun s from_ => h s from_ s from_

/-- The state is looked at, and what it is counts for what follows. -/
theorem lookAt {q q' : State → Parse β} (h : ∀ s : State, s.From tokens k passed →
    LeadsAt cut tokens k passed' s (q s) (q' s)) :
    Leads cut tokens k passed passed' (MonadState.get >>= q) (MonadState.get >>= q') :=
  fun s from_ => h s from_

theorem ask {question : State → Bool} {q q' : Bool → Parse β}
    (h : ∀ b, Leads cut tokens k passed passed' (q b) (q' b)) :
    Leads cut tokens k passed passed' (Parser.ask question >>= q) (Parser.ask question >>= q') :=
  fun s => h (question s) s

theorem is {word : String} {q q' : Bool → Parse β} (h : ∀ b, Leads cut tokens k passed passed' (q b)
    (q' b)) :
    Leads cut tokens k passed passed' (Parser.is word >>= q) (Parser.is word >>= q') := ask h

theorem fresh {q q' : NodeId → Parse β}
    (h : ∀ id, Leads cut tokens k passed passed' (q id) (q' id)) :
    Leads cut tokens k passed passed' (Parser.fresh >>= q) (Parser.fresh >>= q') :=
  fun s from_ => h s.nextId { s with nextId := s.nextId + 1 } (from_.of_tokens rfl)

theorem leading {q q' : Space → Parse β} (h : ∀ space, Leads cut tokens k passed passed' (q space)
    (q' space)) :
    Leads cut tokens k passed passed' (Parser.leading >>= q) (Parser.leading >>= q') := by
  refine .bind (fun s from_ => ⟨rfl, ?_⟩) h
  obtain ⟨space, run, -⟩ := leading_run s
  rw [run]
  exact from_.of_tokens rfl

theorem bump {q q' : Token → Parse β} (h : ∀ t, Leads cut tokens k passed passed' (q t) (q' t)) :
    Leads cut tokens k passed passed' (Parser.bump >>= q) (Parser.bump >>= q') :=
  .bind (fun _ from_ => ⟨rfl, from_.bump_weak⟩) h

/-- A token is taken, which may be the end. -/
theorem next {q q' : Space × Token → Parse β} (h : ∀ y, Leads cut tokens k passed passed' (q y)
    (q' y)) :
    Leads cut tokens k passed passed' (Parser.next >>= q) (Parser.next >>= q') := by
  refine .bind (fun s from_ => ⟨rfl, ?_⟩) h
  obtain ⟨space, run⟩ := exists_next s
  have taken : State.From tokens k passed { s with taken := true } := from_.of_tokens rfl
  rw [run]
  exact taken.bump_weak

theorem refuse {need : Need} : Leads cut tokens k passed passed' (Parser.refuse need : Parse α)
    (Parser.refuse need) :=
  fun _ _ => ⟨rfl, nofun⟩

theorem refuse_bind {need : Need} :
    Leads cut tokens k passed passed' (Parser.refuse need >>= q) (Parser.refuse need >>= q') :=
  fun _ _ => ⟨rfl, nofun⟩

/-- The bound is used up. -/
theorem tooDeep (h : cut) :
    Leads cut tokens k passed passed' (Parser.tooDeep : Parse α) Parser.tooDeep :=
  fun _ _ => ⟨rfl, fun _ => h⟩

theorem expect {word : String} {q q' : Space → Parse β}
    (h : ∀ space, Leads cut tokens k true passed' (q space) (q' space)) :
    Leads cut tokens k passed passed' (Parser.expect word >>= q) (Parser.expect word >>= q') := by
  refine .bind (fun s from_ => ?_) h
  change LeadsAt cut tokens k true s
    (if s.is word = true then Parser.next >>= fun y =>
      Pure.pure y.1 else Parser.refuse (.mark word))
    (if s.is word = true then Parser.next >>= fun y =>
      Pure.pure y.1 else Parser.refuse (.mark word))
  exact .ite (fun found => .next from_ (State.not_atEnd_of_is found) fun _ => .pure _ id) fun _ =>
    refuse s from_

end Leads

/-- A word of an identifier is not the end. -/
theorem State.not_atEnd_of_word (h : (s.peek.kind == .identifier) = true) : s.atEnd = false := by
  rw [State.atEnd, eq_of_beq h]
  rfl

theorem leads_ident : Leads cut tokens k passed true ident ident := by
  intro s from_
  change LeadsAt cut tokens k true s (if s.isNameAt 0 = true then Parser.next >>=
    _ else Parser.refuse .identifier)
    (if s.isNameAt 0 = true then Parser.next >>= _ else Parser.refuse .identifier)
  refine .ite (fun found => ?_) fun _ => Leads.refuse s from_
  have more : s.atEnd = false := State.not_atEnd_of_word (Bool.and_eq_true_iff.1 found).1
  exact .next from_ more fun _ => .fresh fun _ => .pure _ id

theorem leads_word : Leads cut tokens k passed true word word := by
  intro s from_
  change LeadsAt cut tokens k true s
    (if (s.peek.kind == .identifier) = true then Parser.next >>= _ else Parser.refuse .identifier)
    (if (s.peek.kind == .identifier) = true then Parser.next >>= _ else Parser.refuse .identifier)
  refine .ite (fun found => ?_) fun _ => Leads.refuse s from_
  exact .next from_ (State.not_atEnd_of_word found) fun _ => .fresh fun _ => .pure _ id

/-! ## Loops -/

/-- Both bounds are the same, or both are above `least`. -/
def Enough (cut : Prop) (least n m : Nat) : Prop := cut ∧ n = m ∨ least < n ∧ least < m

theorem Enough.mono {least least' : Nat} (h : Enough cut least n m) (le : least' ≤ least) :
    Enough cut least' n m :=
  h.imp_right fun ⟨above, above'⟩ => ⟨le.trans_lt above, le.trans_lt above'⟩

theorem Enough.pred {least : Nat} (h : Enough cut (least + 1) (n + 1) (m + 1)) :
    Enough cut least n m :=
  h.imp (.imp_right Nat.succ.inj) fun ⟨above, above'⟩ =>
    ⟨Nat.lt_of_succ_lt_succ above, Nat.lt_of_succ_lt_succ above'⟩

namespace Leads

/-- Only the places of the list count. -/
theorem of_inside (h : k < tokens.length → Leads cut tokens k passed passed' p p') :
    Leads cut tokens k passed passed' p p' := fun s from_ => h from_.inside s from_

/-- What leads from the next place leads from behind this one. -/
theorem later (h : Leads cut tokens (k + 1) false passed' p p') :
    Leads cut tokens k true true p p' :=
  fun s from_ => (h s from_).imp fun s' behind =>
    have weak : s'.From tokens (k + 1) false := behind.loosen nofun
    weak

end Leads

/-- A round of a loop leads on if the rounds behind it do. -/
def Rounds {γ : Type} (cut : Prop) (tokens : List Token) (k : Nat) (passed : Bool)
    (f g : γ → Nat → Parse α) : Prop :=
  ∀ k' n m, k ≤ k' → (∀ c, Leads cut tokens k' true true (f c n) (g c m)) →
    ∀ c, Leads cut tokens k' false passed (f c (n + 1)) (g c (m + 1))

/-- A loop that passes a token in each round needs a bound above the number of tokens. -/
theorem Rounds.leads {γ : Type} {f g : γ → Nat → Parse α} (rounds : Rounds cut tokens k passed f g)
    (stop : ∀ c, f c 0 = tooDeep) (stop' : ∀ c, g c 0 = tooDeep)
      (enough : Enough cut (tokens.length - k) n m) (c : γ) :
    Leads cut tokens k false passed (f c n) (g c m) := by
  induction n generalizing k m c with
  | zero =>
    obtain ⟨held, rfl⟩ | ⟨above, -⟩ := enough
    · rw [stop, stop']
      exact .tooDeep held
    · exact absurd above (Nat.not_lt_zero _)
  | succ n ih =>
    cases m with
    | zero =>
      obtain ⟨-, no⟩ | ⟨-, above⟩ := enough
      · cases no
      · exact absurd above (Nat.not_lt_zero _)
    | succ m =>
      refine .of_inside fun inside => rounds k n m le_rfl (fun c => .later (ih ?_ ?_ c)) c
      · exact fun k' n m le => rounds k' n m ((Nat.le_succ k).trans le)
      · have left : tokens.length - k = tokens.length - (k + 1) + 1 := by omega
        rw [left] at enough
        exact enough.pred

/-! ## Lists, names and types -/

section Lists

variable {element element' : Parse α}

theorem rounds_commaSeparated (h : ∀ k', k ≤ k' → Leads cut tokens k' false true element element') :
    Rounds cut tokens k true (fun _ : Unit => commaSeparated element) fun _ =>
      commaSeparated element' := by
  intro k' n m le next _
  beta_reduce
  rw [commaSeparated, commaSeparated]
  exact (h k' le).bind fun _ => .is fun _ =>
    .ite (.expect fun _ => (next ()).bind fun _ => .pure _ id) (.pure _ id)

theorem leads_commaSeparated (h : ∀ k', k ≤ k' → Leads cut tokens k' false true element element')
    (enough : Enough cut (tokens.length - k) n m) :
    Leads cut tokens k false true (commaSeparated element n) (commaSeparated element' m) :=
  (rounds_commaSeparated h).leads (fun _ => rfl) (fun _ => rfl) enough ()

/-- Behind a mark or a word, elements with commas between them. -/
theorem leads_elements (h : ∀ k', k < k' → Leads cut tokens k' false true element element')
    (enough : Enough cut (tokens.length - k) n m) :
    Leads cut tokens k true true (commaSeparated element n) (commaSeparated element' m) :=
  .later (leads_commaSeparated h (enough.mono (by omega)))

theorem leads_container (opening closing : String)
    (h : ∀ k', k < k' → Leads cut tokens k' false true element element')
    (enough : Enough cut (tokens.length - k) n m) :
    Leads cut tokens k passed true (container opening closing element n)
      (container opening closing element' m) := by
  unfold container
  refine .expect fun _ => .is fun _ => ?_
  extract_lets -underBinder tail
  have join (elements : List (Padded α)) : Leads cut tokens k true true (tail elements)
    (tail elements) :=
    .expect fun _ => .pure _ id
  exact .ite (join []) ((leads_elements h enough).bind join)

theorem leads_keywordList (keyword : String)
    (h : ∀ k', k < k' → Leads cut tokens k' false true element element')
    (enough : Enough cut (tokens.length - k) n m) :
    Leads cut tokens k passed true (keywordList keyword element n)
      (keywordList keyword element' m) := by
  unfold keywordList
  exact .expect fun _ => (leads_elements h enough).bind fun _ => .pure _ id

end Lists

theorem rounds_nameRest : Rounds cut tokens k false nameRest nameRest := by
  intro k' n m _ next name
  rw [nameRest, nameRest]
  refine .ask fun _ =>
    .ite (.expect fun _ => leads_ident.bind fun _ => .fresh fun _ => ?_) (.pure _ id)
  exact (next _).weaken

theorem leads_nameRest (enough : Enough cut (tokens.length - k) n m) (name : Expression) :
    Leads cut tokens k false false (nameRest name n) (nameRest name m) :=
  rounds_nameRest.leads (fun _ => rfl) (fun _ => rfl) enough name

theorem leads_qualifiedName (enough : Enough cut (tokens.length - k) n m) :
    Leads cut tokens k passed true (qualifiedName n) (qualifiedName m) := by
  unfold qualifiedName
  exact leads_ident.bind fun name => .later (leads_nameRest (enough.mono (by omega)) _)

theorem rounds_arrayRest : Rounds cut tokens k false arrayRest arrayRest := by
  intro k' n m _ next tree
  rw [arrayRest, arrayRest]
  exact .ask fun _ => .ite (.expect fun _ => .expect fun _ => .fresh fun _ => (next _).weaken)
    (.pure _ id)

theorem leads_arrayRest (enough : Enough cut (tokens.length - k) n m) (tree : TypeTree) :
    Leads cut tokens k false false (arrayRest tree n) (arrayRest tree m) :=
  rounds_arrayRest.leads (fun _ => rfl) (fun _ => rfl) enough tree

theorem rounds_modifierList :
    Rounds cut tokens k false (fun _ : Unit => modifierList) fun _ => modifierList := by
  intro k' n m _ next _
  beta_reduce
  rw [modifierList, modifierList]
  refine .lookAt fun s from_ => .ite (fun _ => Leads.refuse s from_) fun _ =>
    .ite (fun found => ?_) fun _ => ?_
  · simp only [Bool.and_eq_true] at found
    refine .next from_ (State.not_atEnd_of_word found.1.1) fun _ => .fresh fun _ => ?_
    exact (next ()).bind fun _ => .give _
  · exact Leads.pure _ id s from_

theorem leads_modifierList (enough : Enough cut (tokens.length - k) n m) :
    Leads cut tokens k false false (modifierList n) (modifierList m) :=
  rounds_modifierList.leads (fun _ => rfl) (fun _ => rfl) enough ()

theorem leads_declareOne {h : Heading} {declaredType : Option TypeTree}
    {varargs : Option Space} {v : NamedVariable} :
    Leads cut tokens k true true (declareOne h declaredType varargs v)
      (declareOne h declaredType varargs v) :=
  .fresh fun _ => .pure _ id

theorem rounds_importRest : Rounds cut tokens k false importRest importRest := by
  intro k' n m _ next name
  rw [importRest, importRest]
  refine .is fun _ => .ite (.expect fun _ => .is fun _ => ?_) (.pure _ id)
  extract_lets -underBinder tail tail'
  have join (segment : Identifier) : Leads cut tokens k' true false (tail segment)
    (tail' segment) :=
    .fresh fun _ => (next _).weaken
  exact .ite (.next fun _ => .fresh fun _ => join _) (leads_ident.bind join)

theorem leads_importRest (enough : Enough cut (tokens.length - k) n m) (name : Expression) :
    Leads cut tokens k false false (importRest name n) (importRest name m) :=
  rounds_importRest.leads (fun _ => rfl) (fun _ => rfl) enough name

theorem leads_importName (enough : Enough cut (tokens.length - k) n m) :
    Leads cut tokens k passed true (importName n) (importName m) := by
  unfold importName
  refine leads_ident.bind fun name =>
    (Leads.later (leads_importRest (enough.mono (by omega)) _)).bind fun e => ?_
  split
  · exact .pure _ id
  · exact .refuse

theorem leads_packageDeclaration (enough : Enough cut (tokens.length - k) n m) :
    Leads cut tokens k false false (packageDeclaration n) (packageDeclaration m) := by
  unfold packageDeclaration
  refine .is fun _ => .ite (.expect fun _ => (leads_qualifiedName enough).bind fun _ => ?_)
    (.pure _ id)
  exact .expect fun _ => .fresh fun _ => .give _

end Retouch.Parser
