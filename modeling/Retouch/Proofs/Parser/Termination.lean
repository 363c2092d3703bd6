import Retouch.Proofs.Parser.Ranks

/-!
# The parser ends

On tokens with an end at the end, whatever stands in front of it, every nonterminal that may not be
empty passes a token or fails, and none leaves the list. What a nonterminal does at a bound is
settled by its calls at a later place and by those of a lower rank at the same place
(`Progresses.calls`), and what a loop does by the rounds at a later place (`Progresses.rounds`). So
a bound above the ranks of the tokens that are left is never used up, nor is it in a look-ahead,
where it would not be noticed.
-/

namespace Retouch.Parser

variable {α β γ : Type} {tokens : List Token} {k pos n m : Nat} {passed passed' : Bool} {s : State}
  {p p' : Parse α}

/-- Two runs of a state come to the same outcome, and no bound is used up. -/
def Settled (p p' : Parse α) (s : State) : Prop := p' s = p s ∧ ∀ e, p s = .error e →
    e.fault ≠ .tooDeep

/-- From a place of the list `p` comes to a later one, if it succeeds. -/
def Moves (tokens : List Token) (p : Parse α) : Prop :=
  ∀ s pos a s', s.At tokens pos → p s = .ok (a, s') → ∃ pos', s'.At tokens pos' ∧ pos < pos'

/-- A round of the loop is settled where those at later places are. -/
def Advances (tokens : List Token) (f g : γ → Nat → Parse α) : Prop :=
  ∀ n m s pos, s.At tokens pos →
    (∀ c s' pos', s'.At tokens pos' → pos < pos' → Settled (f c n) (g c m) s') →
    ∀ c, Settled (f c (n + 1)) (g c (m + 1)) s

/-- What is read on tokens with an end at the end. -/
structure Progresses (tokens : List Token) : Prop where
  /-- No nonterminal leaves the list, and those that may not be empty come to a later place. -/
  stays {α : Type} (X : Rule α) (n : Nat) (s : State) (pos : Nat) (a : α) (s' : State) :
    s.At tokens pos → X.parse n s = .ok (a, s') →
      ∃ pos', s'.At tokens pos' ∧ pos ≤ pos' ∧ (X.moves = true → pos < pos')
  /-- The nonterminals that loops rely on. -/
  moves (n : Nat) : Moves tokens (blockStatement n) ∧ Moves tokens (member n) ∧
    Moves tokens (switchCase n) ∧
    (Moves tokens <| annotation n) ∧ Moves tokens (typeTree n) ∧ Moves tokens (qualifiedName n) ∧
    Moves tokens (expression n) ∧ Moves tokens (ternary n) ∧
      (∀ least, Moves tokens (binary least n)) ∧
    Moves tokens (unary n) ∧ Moves tokens (primary n) ∧ Moves tokens (lambda n)
  /-- The look-aheads answer and leave the state as it is. -/
  looks (n : Nat) (s : State) : ask (isCast n) s = .ok (isCast n s, s) ∧
    ask startsLambda s = .ok (startsLambda s, s) ∧
    ask (declaresVariable n) s = .ok (declaresVariable n s, s) ∧
      ask (runsOver n) s = .ok (runsOver n s, s)
  /-- No look-ahead uses its bound up. -/
  seen (n m : Nat) (s : State) (pos : Nat) : s.At tokens pos →
    rankBound * (tokens.length - pos + 1) ≤ n →
    rankBound * (tokens.length - pos + 1) ≤ m →
      (s.is "(" && isCast m s) = (s.is "(" && isCast n s) ∧
        declaresVariable m s = declaresVariable n s ∧
        runsOver m s = runsOver n s
  /-- A nonterminal is settled where its calls are: those at a later place, and those at the same
  place that have a lower rank. -/
  calls {α : Type} (X : Rule α) (n m : Nat) (s : State) (pos : Nat) : s.At tokens pos →
    tokens.length - pos < n →
    tokens.length - pos < m →
    (∀ {β : Type} (Y : Rule β) (s' : State) (pos' : Nat), s'.At tokens pos' →
      pos < pos' ∨ pos = pos' ∧ Y.rank < X.rank → Settled (Y.parse n) (Y.parse m) s') →
    Settled (X.parse (n + 1)) (X.parse (m + 1)) s
  /-- The loops. -/
  rounds : Advances tokens nameRest nameRest ∧ Advances tokens arrayRest arrayRest ∧
    Advances tokens importRest importRest ∧
    Advances tokens (fun _ : Unit => modifierList) (fun _ => modifierList) ∧
    ∀ {α : Type} (element element' : Parse α), Moves tokens element →
      (∀ s pos, s.At tokens pos → Settled element element' s) →
      Advances tokens (fun _ : Unit => commaSeparated element) (fun _ => commaSeparated element')
  /-- A bound above the ranks of the tokens that are left is not used up. -/
  ends {α : Type} (X : Rule α) (n m : Nat) (s : State) (pos : Nat) : s.At tokens pos →
    rankBound * (tokens.length - pos) + X.rank < n →
      rankBound * (tokens.length - pos) + X.rank < m →
    Settled (X.parse n) (X.parse m) s
  /-- The bound of the whole parser is not used up. -/
  parses (path : String) (nextId : NodeId) (e : SyntaxError) :
    parseTokens path tokens nextId = .error e →
    e.fault ≠ .tooDeep
  /-- A larger bound makes no difference. -/
  bounded (path : String) (nextId : NodeId) (n : Nat) : rankBound * (tokens.length + 1) ≤ n →
    unit path n ⟨tokens, false, nextId⟩ = unit path (rankBound * (tokens.length + 1))
      ⟨tokens, false, nextId⟩

/-! ## What leads on is settled -/

theorem LeadsAt.settled (h : LeadsAt False tokens k passed s p p') : Settled p p' s := by
  refine ⟨h.1, fun e run => ?_⟩
  have outcome := h.2
  rw [run] at outcome
  exact outcome

/-- Where a run comes to is known, and what it does is settled. -/
theorem Leads.of_settled (far : Leads True tokens k passed passed' p p)
    (settled : ∀ s : State, s.From tokens k passed → Settled p p' s) :
      Leads False tokens k passed passed' p p' := by
  intro s from_
  refine ⟨(settled s from_).1, ?_⟩
  have outcome := (far s from_).2
  cases run : p s with
  | error e => exact (settled s from_).2 e run
  | ok x =>
    rw [run] at outcome
    exact outcome

theorem State.At.from_ (closes : Closes tokens) (place : s.At tokens pos) :
    s.From tokens pos false :=
  ⟨closes, pos, place, le_rfl⟩

/-- With one bound the runs are the same. -/
theorem Rule.far (X : Rule α) (k n : Nat) : Leads True tokens k false X.moves (X.parse n)
    (X.parse n) :=
  X.leads (.inl ⟨trivial, rfl⟩)

theorem Leads.moves (closes : Closes tokens) (h : ∀ k, Leads True tokens k false true p p) :
    Moves tokens p := by
  intro s pos a s' place run
  have outcome := (h pos s (place.from_ closes)).2
  rw [run] at outcome
  obtain ⟨-, pos', place', le⟩ := outcome
  exact ⟨pos', place', le⟩

theorem Moves.leads (closes : Closes tokens) (h : Moves tokens p) (k : Nat) :
    Leads True tokens k false true p p := by
  intro s ⟨_, pos, place, le⟩
  refine ⟨rfl, ?_⟩
  cases run : p s with
  | error e => exact fun _ => trivial
  | ok x =>
    obtain ⟨pos', place', lt⟩ := h s pos x.1 x.2 place run
    exact ⟨closes, pos', place', Nat.lt_of_le_of_lt le lt⟩

theorem Rounds.advances {f g : γ → Nat → Parse α} (closes : Closes tokens)
    (rounds : ∀ k, Rounds False tokens k passed f g)
    (far : ∀ k n c, Leads True tokens k false passed (f c n) (f c n)) : Advances tokens f g := by
  intro n m s pos place settled c
  refine (rounds pos pos n m le_rfl (fun c => ?_) c s (place.from_ closes)).settled
  refine .of_settled (.later (far (pos + 1) n c)) fun s' ⟨_, pos', place', le⟩ =>
    settled c s' pos' place' le

/-- The calls of a nonterminal, if they are settled. -/
theorem Calls.of_settled {r : Nat} (above : tokens.length - pos < n)
    (above' : tokens.length - pos < m)
    (settled : ∀ {β : Type} (Y : Rule β) (s' : State) (pos' : Nat), s'.At tokens pos' →
      pos < pos' ∨ pos = pos' ∧ Y.rank < r → Settled (Y.parse n) (Y.parse m) s') :
    Calls False tokens n m pos r where
  here Y lower := .of_settled (Y.far pos n) fun s' ⟨_, pos', place', le⟩ =>
    settled Y s' pos' place' ((Nat.lt_or_eq_of_le le).imp_right fun same => ⟨same, lower⟩)
  behind Y k' lt := .of_settled (Y.far k' n) fun s' ⟨_, pos', place', le⟩ =>
    settled Y s' pos' place' (.inl (lt.trans_le le))
  enough := .inr ⟨above, above'⟩

/-! ## Units -/

theorem leads_unit {cut : Prop} (path : String)
    (enough : Enough cut (rankBound * (tokens.length - k) + 3) n m) :
    Leads cut tokens k false false (unit path n) (unit path m) := by
  have ranks : rankBound = 24 := rfl
  rw [ranks] at enough
  unfold unit
  refine (leads_packageDeclaration (enough.mono (by omega))).bind fun _ => ?_
  refine (Rule.leads .importList (enough.mono (by rw [ranks]; simp [Rule.rank]))).bind fun _ => ?_
  refine (Rule.leads .classList (enough.mono (by rw [ranks]; simp [Rule.rank]))).bind fun _ => ?_
  exact .fresh fun _ => .look fun _ _ => .pure _ id

/-- No bound that `parseTokens` may choose is used up. -/
theorem settled_unit (closes : Closes tokens) (path : String) (nextId : NodeId)
    (above : rankBound * (tokens.length + 1) ≤ n)
    (above' : rankBound * (tokens.length + 1) ≤ m) :
      Settled (unit path n) (unit path m) ⟨tokens, false, nextId⟩ := by
  obtain ⟨front, last, whole, -⟩ := id closes
  have place : State.At tokens 0 ⟨tokens, false, nextId⟩ := ⟨by simp [whole], rfl⟩
  have ranks : rankBound = 24 := rfl
  rw [ranks] at above above'
  exact (leads_unit path
    (.inr ⟨by rw [ranks]; omega, by rw [ranks]; omega⟩) _ (place.from_ closes)).settled

theorem progresses (closes : Closes tokens) : Progresses tokens where
  stays X n s pos a s' place run := by
    have outcome := (X.far pos n s (place.from_ closes)).2
    rw [run] at outcome
    obtain ⟨-, pos', place', le⟩ := outcome
    refine ⟨pos', place', (Nat.le_add_right _ _).trans le, fun moves => ?_⟩
    rwa [moves] at le
  moves n :=
    have moves {α : Type} (X : Rule α) (moves : X.moves = true) : Moves tokens (X.parse n) :=
      Leads.moves closes fun k => moves ▸ X.far k n
    ⟨moves .blockStatement rfl, moves .member rfl, moves .switchCase rfl, moves .annotationItem rfl,
      moves .typeTree rfl,
      Leads.moves closes fun _ => leads_qualifiedName (.inl ⟨trivial, rfl⟩), moves .expression rfl,
        moves .ternary rfl,
      fun least => moves (.binary least) rfl, moves .unary rfl, moves .primary rfl,
        moves .lambda rfl⟩
  looks n s := ⟨rfl, rfl, rfl, rfl⟩
  seen n m s pos place above above' := by
    have ranks : rankBound = 24 := rfl
    rw [ranks] at above above'
    have enough : Enough False (rankBound * (tokens.length - pos) + 2) n m :=
      .inr ⟨by rw [ranks]; omega, by rw [ranks]; omega⟩
    have type : Leads False tokens pos false true (typeTree n) (typeTree m) :=
      Rule.leads .typeTree enough
    have head : Leads False tokens pos false false (heading n) (heading m) :=
      Rule.leads .heading enough
    have from_ := place.from_ closes
    exact ⟨isCast_eq type.behind from_, declaresVariable_eq type from_, runsOver_eq head type from_⟩
  calls X n m s pos place above above' settled :=
    (X.leads_succ (.of_settled above above' settled) s (place.from_ closes)).settled
  rounds := by
    refine ⟨?_, ?_, ?_, ?_, fun element element' moves settled => ?_⟩
    · exact Rounds.advances closes (fun _ => rounds_nameRest) fun k n c =>
        leads_nameRest (.inl ⟨trivial, rfl⟩) c
    · exact Rounds.advances closes (fun _ => rounds_arrayRest) fun k n c =>
        leads_arrayRest (.inl ⟨trivial, rfl⟩) c
    · exact Rounds.advances closes (fun _ => rounds_importRest) fun k n c =>
        leads_importRest (.inl ⟨trivial, rfl⟩) c
    · exact Rounds.advances closes (fun _ => rounds_modifierList) fun k n _ =>
        leads_modifierList (.inl ⟨trivial, rfl⟩)
    · have far (k : Nat) := moves.leads closes k
      have both (k k' : Nat) (_ : k ≤ k') : Leads False tokens k' false true element element' :=
        .of_settled (far k') fun s' ⟨_, pos', place', _⟩ => settled s' pos' place'
      refine Rounds.advances closes (fun k => rounds_commaSeparated (both k)) fun k n _ => ?_
      exact leads_commaSeparated (fun k' _ => far k') (.inl ⟨trivial, rfl⟩)
  ends X n m s pos place above above' :=
    (X.leads (.inr ⟨above, above'⟩) s (place.from_ closes)).settled
  parses path nextId e failed := by
    have settled := (settled_unit closes path nextId le_rfl le_rfl).2
    unfold parseTokens at failed
    split at failed
    · cases failed
    · next error run =>
      cases failed
      exact settled _ run
  bounded path nextId n above := (settled_unit closes path nextId le_rfl above).1

/-- A class whose body does not end, with a bracket in it that nothing begins with. -/
theorem progresses_malformed :
    let tokens : List Token := [⟨.identifier, "class", .empty, 0⟩, ⟨.identifier, "A", ⟨" "⟩, 6⟩,
      ⟨.punct, "\x7b", ⟨" "⟩, 8⟩, ⟨.punct, "]", ⟨" "⟩, 10⟩, .atEnd .empty 11]
    Closes tokens ∧ Progresses tokens := by
  intro tokens
  have closes : Closes tokens := ⟨tokens.dropLast, .atEnd .empty 11, rfl, rfl⟩
  exact ⟨closes, progresses closes⟩

end Retouch.Parser
