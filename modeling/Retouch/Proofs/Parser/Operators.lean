import Retouch.Proofs.Parser.Reading

/-!
# Operators are read as they are written

A look-ahead answers with an operator of the tree; the marks that are then taken spell that
operator. The shifts to the right are the only operators of more than one token, and their marks
stand side by side without trivia (`binaryOp?_cases`).
-/

namespace Retouch.Parser

variable {s : State} {β δ : Type} {w : View δ} {pre : List δ} {g : β → List δ}

theorem unaryOp?_some {op : UnaryOp} (h : unaryOp? s = some op) :
    s.peek.text = op.spelling ∧ op.isPostfix = false := by
  unfold unaryOp? at h
  split at h
  · split at h <;> cases h <;> exact ⟨by assumption, rfl⟩
  · cases h

theorem spelling_of_ofSpelling? {word : String} {op : AssignOp}
    (h : AssignOp.ofSpelling? word = some op) : op.spelling = word := by
  unfold AssignOp.ofSpelling? at h
  simpa using List.find?_some h

/-- The mark `n` places ahead follows the one before it directly. -/
def State.Joined (s : State) (n : Nat) : Prop :=
  s.isAt n ">" = true ∧ (s.peekAt n).leading = .empty

theorem binaryOp?_cases {op : BinaryOp} {width : Nat} (h : binaryOp? s = some (op, width)) :
    (width = 1 ∧ s.peek.text = op.spelling) ∨
    (op = .shiftRight ∧ width = 2 ∧ s.is ">" = true ∧ s.Joined 1) ∨
    (op = .unsignedShiftRight ∧ width = 3 ∧ s.is ">" = true ∧ s.Joined 1 ∧ s.Joined 2) := by
  have joined : ∀ n, (s.isAt n ">" && (s.peekAt n).leading.isEmpty) = true → s.Joined n := by
    intro n h
    rw [Bool.and_eq_true] at h
    refine ⟨h.1, ?_⟩
    have empty := h.2
    unfold Space.isEmpty at empty
    rw [String.isEmpty_iff] at empty
    cases hs : (s.peekAt n).leading with
    | mk text =>
      rw [hs] at empty
      exact congrArg Space.mk empty
  unfold binaryOp? at h
  extract_lets -underBinder j at h
  split at h
  · split at h
    · cases h
      exact .inl ⟨rfl, by simp_all [BinaryOp.spelling]⟩
    · cases h
  · next punct =>
    split at h
    case h_10 mark =>
      have found : s.is ">" = true := by simp [State.is, Token.is, punct, mark]
      split at h
      · next both =>
        rw [Bool.and_eq_true] at both
        cases h
        exact .inr (.inr ⟨rfl, rfl, found, joined 1 both.1, joined 2 both.2⟩)
      · split at h
        · next one =>
          cases h
          exact .inr (.inl ⟨rfl, rfl, found, joined 1 one⟩)
        · cases h
          exact .inl ⟨rfl, mark⟩
    all_goals first
      | cases h; exact .inl ⟨rfl, by assumption⟩
      | cases h
  · cases h

theorem binaryOp?_inside {op : BinaryOp} {width : Nat} (h : binaryOp? s = some (op, width)) :
    s.atEnd = false := by
  unfold binaryOp? at h
  unfold State.atEnd
  split at h
  · next kind => rw [kind]; rfl
  · next kind => rw [kind]; rfl
  · cases h

theorem State.not_atEnd_of_is {word : String} (h : s.is word = true) : s.atEnd = false := by
  simp only [State.is, Token.is, Bool.and_eq_true, Bool.or_eq_true, beq_iff_eq] at h
  unfold State.atEnd
  rcases h.1 with kind | kind <;> rw [kind] <;> rfl

theorem State.peekAt_bump (h : s.atEnd = false) (n : Nat) : s.bump.peekAt n = s.peekAt (n + 1) := by
  simp [State.bump, h, State.peekAt]

/-- A mark without trivia in front of it is all that is read with it. -/
theorem State.Sound.rest_joined (sound : s.Sound) (h : s.Joined 0) :
    s.rest w = w.see ">" ++ s.bump.rest w := by
  have word : s.peek.text = ">" := State.text_of_is h.1
  have inside : s.atEnd = false := State.not_atEnd_of_is h.1
  have trivia : s.peek.leading = .empty := h.2
  cases taken : s.taken with
  | true => rw [sound.rest_bump taken, word]
  | false =>
    have sound' : State.Sound { s with taken := true } := sound
    have same : State.bump { s with taken := true } = s.bump := by
      unfold State.bump
      rw [show State.atEnd { s with taken := true } = s.atEnd from rfl, inside]
      rfl
    rw [State.rest_eq_leading taken, trivia, sound'.rest_bump rfl, same]
    rw [Space.text_empty, w.see_empty, List.nil_append]
    exact congrArg (w.see · ++ s.bump.rest w) word

theorem rest_operator {op : BinaryOp} {width : Nat} (sound : s.Sound) (taken : s.taken = true)
    (h : binaryOp? s = some (op, width)) :
    (Nat.repeat State.bump width s).Sound ∧
      s.rest w = w.see op.spelling ++ (Nat.repeat State.bump width s).rest w := by
  obtain ⟨rfl, spelled⟩ | ⟨rfl, rfl, first, second⟩ | ⟨rfl, rfl, first, second, third⟩ :=
    binaryOp?_cases h
  · refine ⟨sound.bump, ?_⟩
    rw [sound.rest_bump taken, spelled]
    rfl
  · have inside := State.not_atEnd_of_is first
    have joined : s.bump.Joined 0 := by
      simpa [State.Joined, State.isAt, State.peekAt_bump inside] using second
    refine ⟨sound.bump.bump, ?_⟩
    rw [sound.rest_bump taken, State.text_of_is first, sound.bump.rest_joined joined,
      ← List.append_assoc, ← w.see_shift]
    rfl
  · have inside := State.not_atEnd_of_is first
    have joined : s.bump.Joined 0 := by
      simpa [State.Joined, State.isAt, State.peekAt_bump inside] using second
    have inside' : s.bump.atEnd = false := State.not_atEnd_of_is joined.1
    have joined' : s.bump.bump.Joined 0 := by
      simpa [State.Joined, State.isAt, State.peekAt_bump inside, State.peekAt_bump inside']
        using third
    refine ⟨sound.bump.bump.bump, ?_⟩
    rw [sound.rest_bump taken, State.text_of_is first, sound.bump.rest_joined joined,
      sound.bump.bump.rest_joined joined', ← List.append_assoc, ← List.append_assoc,
        ← w.see_unsigned]
    rfl

/-- The trivia and all tokens of a binary operator are read together. -/
theorem ReadsFrom.operator {op : BinaryOp} {width : Nat} {k : Space → Parse β} (sound : s.Sound)
    (h : binaryOp? s = some (op, width))
    (hk : ∀ space, Reads w (pre ++ (w.see space.text ++ w.see op.spelling)) (k space) g) :
    ReadsFrom w s pre (leading >>= fun space =>
      modify (fun s => Nat.repeat State.bump width s) >>= fun _ => k space) g := by
  intro b s' hb
  obtain ⟨space, t, run, hb⟩ := bind_ok hb
  obtain ⟨space, run', eq⟩ := leading_run s
  rw [run', Except.ok.injEq, Prod.mk.injEq] at run
  obtain ⟨rfl, rfl⟩ := run
  obtain ⟨sound', eq'⟩ := rest_operator (s := { s with taken := true }) sound rfl h
  obtain ⟨sound'', eq''⟩ := hk space _ sound' b s' hb
  refine ⟨sound'', ?_⟩
  rw [eq, eq', ← eq'']
  simp only [List.append_assoc]

end Retouch.Parser
