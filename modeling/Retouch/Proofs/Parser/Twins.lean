import Retouch.Proofs.Parser.Grouping
import Retouch.Proofs.Tree.Bare

/-!
# Two runs of the parser

Two states are alike if the same words and marks are left in both, whatever stands between them.
`Twin excuse P p q` compares a run of `p` with a run of `q` from states that are alike: where both
succeed, `P` holds of the results and the states behind them. One of them fails alone only with an
excuse. As a rule the results look the same once they are bare, and the states are alike again
(`Alike`). A proof goes along the code in both runs at once.

* Code that never looks at the trivia is a twin of itself without any excuse (`Twin False`): the
  look-aheads at types answer the same in both runs (`behind?_any`).
* `TwinAt s t` is the same from two given states, for code that has looked at the tokens.
-/

namespace Retouch

/-- A token without its place and the trivia in front of it. -/
def Token.bare (t : Token) : TokenKind × String := (t.kind, t.text)

theorem Token.kind_of_bare {a b : Token} (h : b.bare = a.bare) :
    b.kind = a.kind := congrArg Prod.fst h

theorem Token.text_of_bare {a b : Token} (h : b.bare = a.bare) :
    b.text = a.text := congrArg Prod.snd h

namespace Parser

/-! ## States -/

/-- The same words and marks are left, and no word is spelled like a mark. -/
def State.Like (s t : State) : Prop :=
  s.tokens.map Token.bare = t.tokens.map Token.bare ∧ ∀ a ∈ s.tokens, a.IsWord

namespace State.Like

variable {s t : State}

/-- The tokens ahead are the same words and marks. -/
theorem peekAt (h : s.Like t) (n : Nat) : (t.peekAt n).bare = (s.peekAt n).bare := by
  have at_n (s : State) :
      (s.peekAt n).bare = (s.tokens.map Token.bare).getD n (Token.atEnd .empty 0).bare := by
    simp only [State.peekAt, List.getD_eq_getElem?_getD, List.getElem?_map, Option.getD_map]
  rw [at_n, at_n, h.1]

theorem kind (h : s.Like t) (n : Nat) : (t.peekAt n).kind = (s.peekAt n).kind :=
  Token.kind_of_bare (h.peekAt n)

theorem text (h : s.Like t) (n : Nat) : (t.peekAt n).text = (s.peekAt n).text :=
  Token.text_of_bare (h.peekAt n)

theorem isAt (h : s.Like t) (n : Nat) (text : String) : t.isAt n text = s.isAt n text := by
  simp only [State.isAt, Token.is, h.kind, h.text]

theorem is (h : s.Like t) (text : String) : t.is text = s.is text := h.isAt 0 text

theorem peekKind (h : s.Like t) : t.peek.kind = s.peek.kind := h.kind 0

theorem peekText (h : s.Like t) : t.peek.text = s.peek.text := h.text 0

theorem atEnd (h : s.Like t) : t.atEnd = s.atEnd := by
  simp only [State.atEnd, h.peekKind]

theorem isNameAt (h : s.Like t) (n : Nat) : t.isNameAt n = s.isNameAt n := by
  simp only [State.isNameAt, h.kind, h.text]

theorem isPrimitive (h : s.Like t) : t.isPrimitive = s.isPrimitive := by
  simp only [State.isPrimitive, h.peekKind, h.peekText]

theorem symm (h : s.Like t) : t.Like s := by
  refine ⟨h.1.symm, fun b mem => ?_⟩
  obtain ⟨a, inside, same⟩ : ∃ a ∈ s.tokens, a.bare = b.bare := by
    simpa [← h.1] using List.mem_map_of_mem (f := Token.bare) mem
  have word := h.2 a inside
  unfold Token.IsWord at *
  rwa [Token.kind_of_bare same, Token.text_of_bare same] at word

theorem bump (h : s.Like t) : s.bump.Like t.bump := by
  unfold State.bump
  rw [h.atEnd]
  split
  · exact h
  · refine ⟨?_, fun a mem => h.2 a (List.mem_of_mem_tail mem)⟩
    show s.tokens.tail.map Token.bare = t.tokens.tail.map Token.bare
    rw [List.map_tail, List.map_tail, h.1]

/-- What is spelled like a mark is a mark. -/
theorem kind_of_isAt (h : s.Like t) {n : Nat} {mark : String} (found : s.isAt n mark = true)
    (strange : mark.toList.head?.any Lexer.isWordStart = false) : (s.peekAt n).kind = .punct := by
  simp only [State.isAt, Token.is, Bool.and_eq_true, Bool.or_eq_true, beq_iff_eq] at found
  refine found.1.resolve_left fun word => ?_
  rw [State.peekAt, List.getD_eq_getElem?_getD] at found word
  cases e : s.tokens[n]? with
  | none => simp [e, Token.atEnd] at word
  | some a =>
    rw [e, Option.getD_some] at found word
    have letter := h.2 a (List.mem_of_getElem? e) word
    rw [found.2, strange] at letter
    cases letter

theorem bumps (h : s.Like t) (n : Nat) :
    (Nat.repeat State.bump n s).Like (Nat.repeat State.bump n t) := by
  induction n with
  | zero => exact h
  | succ n ih => exact ih.bump

end State.Like

/-! ## Results -/

variable {α β γ δ : Type} {excuse : Prop} {p p' : Parse α} {q q' : α → Parse β} {s t : State}
  {P : α → State → α → State → Prop} {Q : β → State → β → State → Prop}
  {f : α → γ} {g : β → δ}

/-- Two outcomes compare by `P` where both are results; one alone is a fault only with an excuse. -/
def Agrees (excuse : Prop) (P : α → State → α → State → Prop) :
    Except SyntaxError (α × State) → Except SyntaxError (α × State) → Prop
  | .ok (a, s), .ok (b, t) => P a s b t
  | .error _, .error _ => True
  | _, _ => excuse

/-- The results look the same, and the states behind them are alike. -/
def Alike (f : α → γ) (a : α) (s : State) (b : α) (t : State) : Prop := f a = f b ∧ s.Like t

def TwinAt (excuse : Prop) (s t : State) (P : α → State → α → State → Prop) (p p' : Parse α) :
    Prop :=
  Agrees excuse P (p s) (p' t)

def Twin (excuse : Prop) (P : α → State → α → State → Prop) (p p' : Parse α) : Prop :=
  ∀ s t : State, s.Like t → TwinAt excuse s t P p p'

theorem Agrees.alone {r r' : Except SyntaxError (α × State)}
    (h : r.toOption = none ∨ r'.toOption = none) (excused : excuse) : Agrees excuse P r r' := by
  cases r <;> cases r' <;>
    first | exact excused | trivial | exact absurd h (by simp [Except.toOption])

namespace TwinAt

theorem pure {a b : α} (h : P a s b t) : TwinAt excuse s t P (Pure.pure a) (Pure.pure b) := h

theorem bind (hp : TwinAt excuse s t P p p')
    (hq : ∀ a s b t, P a s b t → TwinAt excuse s t Q (q a) (q' b)) :
    TwinAt excuse s t Q (p >>= q) (p' >>= q') := by
  change Agrees excuse Q (p s >>= fun x => q x.1 x.2) (p' t >>= fun x => q' x.1 x.2)
  change Agrees excuse P (p s) (p' t) at hp
  generalize p s = r at hp ⊢
  generalize p' t = r' at hp ⊢
  match r, r' with
  | .ok (a, s), .ok (b, t) => exact hq a s b t hp
  | .error _, .error _ => trivial
  | .ok _, .error _ => exact .alone (.inr rfl) hp
  | .error _, .ok _ => exact .alone (.inl rfl) hp

theorem imp {P' : α → State → α → State → Prop} (h : TwinAt excuse s t P p p')
    (weaker : ∀ a s b t, P a s b t → P' a s b t) : TwinAt excuse s t P' p p' := by
  unfold TwinAt at *
  generalize p s = r at h ⊢
  generalize p' t = r' at h ⊢
  match r, r' with
  | .ok (a, s), .ok (b, t) => exact weaker a s b t h
  | .error _, .error _ => trivial
  | .ok _, .error _ | .error _, .ok _ => exact h

theorem get {k k' : State → Parse β} (h : TwinAt excuse s t Q (k s) (k' t)) :
    TwinAt excuse s t Q (MonadState.get >>= k) (MonadState.get >>= k') := h

theorem ask {question : State → Bool} {k k' : Bool → Parse β}
    (h : TwinAt excuse s t Q (k (question s)) (k' (question t))) :
    TwinAt excuse s t Q (Parser.ask question >>= k) (Parser.ask question >>= k') := h

theorem ite {c : Prop} [Decidable c] {r r' : Parse α} (h : c → TwinAt excuse s t P p p')
    (h' : ¬c → TwinAt excuse s t P r r') :
    TwinAt excuse s t P (if c then p else r) (if c then p' else r') := by
  split
  · next held => exact h held
  · next held => exact h' held

/-- What the results of the first run have is enough. -/
theorem left (h : Ends s p fun a s => ∀ b t, P a s b t) : TwinAt True s t P p p' := by
  unfold TwinAt
  unfold Ends at h
  generalize p s = r at h ⊢
  generalize p' t = r'
  match r, r' with
  | .ok (a, s), .ok (b, t) => exact h a s rfl b t
  | .error _, .error _ | .ok _, .error _ | .error _, .ok _ => trivial

/-- What the results of the second run have is enough. -/
theorem right (h : Ends t p' fun b t => ∀ a s, P a s b t) : TwinAt True s t P p p' := by
  unfold TwinAt
  unfold Ends at h
  generalize p s = r
  generalize p' t = r' at h ⊢
  match r, r' with
  | .ok (a, s), .ok (b, t) => exact h b t rfl a s
  | .error _, .error _ | .ok _, .error _ | .error _, .ok _ => trivial

end TwinAt

namespace Twin

theorem pure {a b : α} (h : f a = f b) : Twin excuse (Alike f) (Pure.pure a) (Pure.pure b) :=
  fun _ _ like => ⟨h, like⟩

theorem bind (hp : Twin excuse (Alike f) p p')
    (hq : ∀ a b, f a = f b → Twin excuse Q (q a) (q' b)) : Twin excuse Q (p >>= q) (p' >>= q') :=
  fun s t like => (hp s t like).bind fun a s b t ⟨same, like⟩ => hq a b same s t like

theorem refuse {need : Need} : Twin excuse P (Parser.refuse need) (Parser.refuse need) :=
  fun _ _ _ => trivial

theorem tooDeep : Twin excuse P Parser.tooDeep Parser.tooDeep := fun _ _ _ => trivial

theorem refuse_bind {need : Need} : Twin excuse Q (Parser.refuse need >>= q)
    (Parser.refuse need >>= q') :=
  fun _ _ _ => trivial

theorem ite {c : Prop} [Decidable c] {r r' : Parse α} (h : Twin excuse P p p')
    (h' : Twin excuse P r r') : Twin excuse P (if c then p else r) (if c then p' else r') :=
  fun s t like => .ite (fun _ => h s t like) fun _ => h' s t like

/-- The states are only asked which way to go. -/
theorem look {k k' : State → Parse β} (h : ∀ s t, s.Like t → Twin excuse Q (k s) (k' t)) :
    Twin excuse Q (get >>= k) (get >>= k') :=
  fun s t like => h s t like s t like

theorem ask {question : State → Bool} {k k' : Bool → Parse β}
    (same : ∀ s t, s.Like t → question t = question s) (h : ∀ b, Twin excuse Q (k b) (k' b)) :
    Twin excuse Q (Parser.ask question >>= k) (Parser.ask question >>= k') := by
  intro s t like
  refine .ask ?_
  rw [same s t like]
  exact h (question s) s t like

theorem is {word : String} {k k' : Bool → Parse β} (h : ∀ b, Twin excuse Q (k b) (k' b)) :
    Twin excuse Q (Parser.is word >>= k) (Parser.is word >>= k') :=
  ask (fun _ _ like => like.is word) h

theorem fresh {k k' : NodeId → Parse β} (h : ∀ i j, Twin excuse Q (k i) (k' j)) :
    Twin excuse Q (Parser.fresh >>= k) (Parser.fresh >>= k') :=
  fun s t like => h s.nextId t.nextId { s with nextId := s.nextId + 1 }
    { t with nextId := t.nextId + 1 } like

theorem leading {k k' : Space → Parse β} (h : ∀ x y, Twin excuse Q (k x) (k' y)) :
    Twin excuse Q (Parser.leading >>= k) (Parser.leading >>= k') := by
  intro s t like
  obtain ⟨x, run, -⟩ := leading_run s
  obtain ⟨y, run', -⟩ := leading_run t
  change Agrees excuse Q (Parser.leading s >>= fun x => k x.1 x.2)
    (Parser.leading t >>= fun x => k' x.1 x.2)
  rw [run, run']
  exact h x y { s with taken := true } { t with taken := true } like

theorem bump {k k' : Token → Parse β} (h : ∀ a b, b.bare = a.bare → Twin excuse Q (k a) (k' b)) :
    Twin excuse Q (Parser.bump >>= k) (Parser.bump >>= k') :=
  fun s t like => h s.peek t.peek (like.peekAt 0) s.bump t.bump like.bump

theorem skip {k k' : Parse β} (width : Nat) (h : Twin excuse Q k k') :
    Twin excuse Q (modify (fun s => Nat.repeat State.bump width s) >>= fun _ => k)
      (modify (fun s => Nat.repeat State.bump width s) >>= fun _ => k') :=
  fun _ _ like => h _ _ (like.bumps width)

theorem next {k k' : Space × Token → Parse β}
    (h : ∀ x y a b, b.bare = a.bare → Twin excuse Q (k (x, a)) (k' (y, b))) :
    Twin excuse Q (Parser.next >>= k) (Parser.next >>= k') := by
  have step : Twin excuse Q (Parser.leading >>= fun x => Parser.bump >>= fun a => k (x, a))
      (Parser.leading >>= fun y => Parser.bump >>= fun b => k' (y, b)) :=
    leading fun x y => bump fun a b same => h x y a b same
  simpa only [Parser.next, bind_assoc, pure_bind] using step

theorem expect {word : String} {k k' : Space → Parse β} (h : ∀ x y, Twin excuse Q (k x) (k' y)) :
    Twin excuse Q (Parser.expect word >>= k) (Parser.expect word >>= k') := by
  have step : Twin excuse (Alike Space.bare) (Parser.expect word) (Parser.expect word) := by
    unfold Parser.expect
    exact is fun b => ite (next fun _ _ _ _ _ => pure rfl) refuse
  exact step.bind fun x y _ => h x y

theorem ident {k k' : Identifier → Parse β}
    (h : ∀ m n : Identifier, m.bare = n.bare → Twin excuse Q (k m) (k' n)) :
    Twin excuse Q (Parser.ident >>= k) (Parser.ident >>= k') := by
  have step : Twin excuse (Alike Identifier.bare) Parser.ident Parser.ident := by
    unfold Parser.ident
    refine ask (fun _ _ like => like.isNameAt 0) fun b => ite (next fun x y a b same => ?_) refuse
    exact fresh fun i j => pure (by simp [Identifier.bare, Token.text_of_bare same])
  exact step.bind h

theorem word {k k' : Identifier → Parse β}
    (h : ∀ m n : Identifier, m.bare = n.bare → Twin excuse Q (k m) (k' n)) :
    Twin excuse Q (Parser.word >>= k) (Parser.word >>= k') := by
  have step : Twin excuse (Alike Identifier.bare) Parser.word Parser.word := by
    unfold Parser.word
    refine ask (fun _ _ like => by rw [like.peekKind]) fun b =>
      ite (next fun x y a b same => ?_) refuse
    exact fresh fun i j => pure (by simp [Identifier.bare, Token.text_of_bare same])
  exact step.bind h

end Twin

/-- A look-ahead finds the same behind a parser that no trivia changes. -/
theorem behind?_any {question : State → Bool} (h : TwinAt False s t (Alike f) p p)
    (same : ∀ s t, s.Like t → question t = question s) :
    (behind? p t).any question = (behind? p s).any question := by
  unfold behind?
  unfold TwinAt at h
  generalize p s = r at h ⊢
  generalize p t = r' at h ⊢
  match r, r' with
  | .ok (a, s), .ok (b, t) => exact same s t h.2
  | .error _, .error _ => rfl
  | .ok _, .error _ | .error _, .ok _ => exact h.elim

/-! ## Lists -/

section Lists

variable {element element' : Parse α}

/-- Elements with commas between them. -/
theorem twin_commaSeparated (h : Twin excuse (Alike f) element element') (n : Nat) :
    Twin excuse (Alike (List.map (Padded.bare f))) (commaSeparated element n)
      (commaSeparated element' n) := by
  induction n with
  | zero => exact .tooDeep
  | succ n ih =>
    rw [commaSeparated, commaSeparated]
    refine h.bind fun a b same => .is fun comma => .ite (.expect fun x y => ?_) ?_
    · exact ih.bind fun as bs rest => .pure (by simp [Padded.bare, same, rest])
    · exact .pure (by simp [Padded.bare, Padded.tight, same])

/-- Elements between brackets, perhaps none. -/
theorem twin_container (opening closing : String) (h : Twin excuse (Alike f) element element')
    (n : Nat) :
    Twin excuse (Alike (Container.bare f)) (container opening closing element n)
      (container opening closing element' n) := by
  unfold container
  refine .expect fun x y => .is fun b => ?_
  extract_lets -underBinder tail tail'
  have join (as bs : List (Padded α)) (same : as.map (Padded.bare f) = bs.map (Padded.bare f)) :
      Twin excuse (Alike (Container.bare f)) (tail as) (tail' bs) :=
    .expect fun x y => .pure (by simp [Container.bare, same])
  exact .ite (join [] [] rfl) ((twin_commaSeparated h n).bind join)

/-- Elements behind a keyword, at least one. -/
theorem twin_keywordList (keyword : String) (h : Twin excuse (Alike f) element element') (n : Nat) :
    Twin excuse (Alike (Container.bare f)) (keywordList keyword element n)
      (keywordList keyword element' n) := by
  unfold keywordList
  refine .expect fun x y => (twin_commaSeparated h n).bind fun as bs same => ?_
  exact .pure (by simp [Container.bare, same])

end Lists

/-! ## Names and types -/

/-- The rest of a qualified name takes over what was read of it. -/
theorem twin_nameRest (n : Nat) (e e' : Expression) (same : e.bare = e'.bare) :
    Twin excuse (Alike Expression.bare) (nameRest e n) (nameRest e' n) := by
  induction n generalizing e e' with
  | zero => exact .tooDeep
  | succ n ih =>
    rw [nameRest, nameRest]
    refine .ask (fun _ _ like => by rw [like.is, like.isNameAt]) fun b => .ite ?_ (.pure same)
    refine .expect fun x y => .ident fun i j named => .fresh fun _ _ => ih _ _ ?_
    simp [Expression.bare, FieldAccess.bare, same, named]

theorem twin_qualifiedName (n : Nat) :
    Twin excuse (Alike Expression.bare) (qualifiedName n) (qualifiedName n) :=
  .ident fun i j same => twin_nameRest n _ _ (by simp [Expression.bare, same])

/-- Brackets behind a type. -/
theorem twin_arrayRest (n : Nat) (e e' : TypeTree) (same : e.bare = e'.bare) :
    Twin excuse (Alike TypeTree.bare) (arrayRest e n) (arrayRest e' n) := by
  induction n generalizing e e' with
  | zero => exact .tooDeep
  | succ n ih =>
    rw [arrayRest, arrayRest]
    refine .ask (fun _ _ like => by rw [like.is, like.isAt]) fun b => .ite ?_ (.pure same)
    refine .expect fun _ _ => .expect fun _ _ => .fresh fun _ _ => ih _ _ ?_
    simp [TypeTree.bare, same]

mutual

/-- A type without brackets behind it: a wildcard, a primitive type, or a name and its arguments. -/
theorem twin_typeBase (n : Nat) : Twin excuse (Alike TypeTree.bare) (typeBase n) (typeBase n) := by
  match n with
  | 0 => exact .tooDeep
  | n + 1 =>
    rw [typeBase]
    refine .look fun s t like => ?_
    simp only [like.is, like.isPrimitive, like.peekText]
    refine .ite (.expect fun _ _ => .look fun s t like => ?_) ?_
    · simp only [like.is]
      refine .ite (.leading fun _ _ => .bump fun _ _ _ => ?_) (.fresh fun _ _ => .pure rfl)
      refine (twin_typeTree n).bind fun a b same => .fresh fun _ _ => .pure ?_
      simp [TypeTree.bare, LeftPadded.bare, same]
    · cases (if s.isPrimitive then Primitive.ofKeyword? s.peek.text else none) with
      | some p => exact .next fun _ _ _ _ _ => .fresh fun _ _ => .pure rfl
      | none =>
        refine (twin_qualifiedName n).bind fun a b same => .is fun _ => .ite ?_ (.pure ?_)
        · refine (twin_container "<" ">" (twin_typeTree n) n).bind fun c d inner => ?_
          exact .fresh fun _ _ => .pure (by simp [TypeTree.bare, hoist, same, inner])
        · simp [TypeTree.bare, same]

theorem twin_typeTree (n : Nat) : Twin excuse (Alike TypeTree.bare) (typeTree n) (typeTree n) := by
  match n with
  | 0 => exact .tooDeep
  | n + 1 =>
    rw [typeTree]
    exact (twin_typeBase n).bind fun a b same => twin_arrayRest n a b same

end

/-- A literal is told by its kind and its text. -/
theorem value?_of_bare {a b : Token} (h : b.bare = a.bare) :
    Literals.value? b = Literals.value? a := by
  unfold Literals.value?
  rw [Token.kind_of_bare h, Token.text_of_bare h]

theorem twin_literal : Twin excuse (Alike Expression.bare) literal literal := by
  unfold literal
  refine .next fun x y a b same => ?_
  dsimp only
  rw [value?_of_bare same, Token.text_of_bare same]
  cases Literals.value? a with
  | some v => exact .fresh fun _ _ => .pure (by simp [Expression.bare, Literal.bare])
  | none => exact fun _ _ _ => trivial

/-! ## Look-aheads -/

namespace State.Like

variable (like : s.Like t)
include like

/-- Whether a type and a name follow is told without trivia. -/
theorem declaresVariable (n : Nat) : declaresVariable n t = declaresVariable n s := by
  unfold Parser.declaresVariable
  rw [like.isPrimitive, like.isAt, like.isNameAt, behind?_any (twin_typeTree n s t like)]
  intro s t like
  simp only [like.isNameAt, funext (like.isAt 1)]

/-- Whether parentheses hold a type, and an operand follows, is told without trivia. -/
theorem isCast (n : Nat) : isCast n t = isCast n s := by
  unfold Parser.isCast
  dsimp only
  rw [like.bump.isPrimitive, behind?_any (twin_typeTree n s.bump t.bump like.bump)]
  intro s t like
  simp only [like.is, like.kind, like.text]

/-- The arrow is looked up behind the parenthesis that closes. -/
theorem startsLambda : startsLambda t = startsLambda s := by
  have arrows (depth : Nat) (ts us : List Token) (same : ts.map Token.bare = us.map Token.bare) :
      arrowBehind depth us = arrowBehind depth ts := by
    induction ts generalizing us depth with
    | nil =>
      obtain rfl : us = [] := by simpa using same.symm
      rfl
    | cons a ts ih =>
      cases us with
      | nil => simp at same
      | cons b us =>
        obtain ⟨first, rest⟩ := List.cons.inj same
        have ahead : us.head?.any (·.is "->") = ts.head?.any (·.is "->") := by
          cases ts <;> cases us <;> simp_all [Token.is, Token.bare]
        simp only [arrowBehind, Token.kind_of_bare first.symm, Token.text_of_bare first.symm,
          ih _ us rest, ahead]
  unfold Parser.startsLambda
  rw [like.isNameAt, like.isAt, like.is, arrows 0 _ _ like.1]

theorem unaryOp? : unaryOp? t = unaryOp? s := by
  unfold Parser.unaryOp?
  rw [like.peekKind, like.peekText]

end State.Like

end Parser

end Retouch
