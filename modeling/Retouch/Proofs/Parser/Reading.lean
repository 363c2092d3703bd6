import Retouch.Parser.Basic
import Retouch.Proofs.Token.Lossless
import Retouch.Proofs.Tree.View

/-!
# Reading without loss

`Reads w pre p text`: where `p` succeeds, `text` of its result is `pre` and all that the view `w`
sees of what `p` took from the tokens, so nothing is dropped or shown twice. `pre` is what a
nonterminal has read before; a proof goes along the code and appends to it, up to the result
(`Reads.pure`).

* The trivia in front of a token is handed out once: `State.rest` leaves it out when it was taken.
* `ReadsFrom w s` is the same from one state, for code that has looked at the tokens.
-/

namespace Retouch

/-- What is seen of a token and the trivia in front of it. -/
def View.token {δ : Type} (w : View δ) (t : Token) : List δ := w.see t.leading.text ++ w.see t.text

namespace Parser

variable {δ : Type} {w : View δ}

namespace State

/-- What is seen of the tokens that are left, without the trivia that was handed out. -/
def rest (w : View δ) (s : State) : List δ :=
  match s.tokens with
  | [] => []
  | t :: ts =>
    (if s.taken then [] else w.see t.leading.text) ++ w.see t.text ++ ts.flatMap w.token

/-- The end of the source has no text and stands behind everything else. -/
def Sound (s : State) : Prop := Token.EndsLast s.tokens

theorem Sound.bump {s : State} (h : s.Sound) : s.bump.Sound := by
  unfold State.bump
  split
  · exact h
  · show Token.EndsLast s.tokens.tail
    revert h
    unfold Sound
    cases s.tokens with
    | nil => exact id
    | cons t ts => exact And.right

theorem Sound.text_of_atEnd {s : State} (h : s.Sound) (e : s.atEnd = true) : s.peek.text = "" := by
  unfold Sound at h
  unfold atEnd peek peekAt at e
  unfold peek peekAt
  cases hs : s.tokens with
  | nil => rfl
  | cons t ts =>
    rw [hs] at h e
    exact (h.1 (eq_of_beq e)).1

/-- Behind the trivia stands the token and then what is left. -/
theorem Sound.rest_bump {s : State} (h : s.Sound) (taken : s.taken = true) :
    s.rest w = w.see s.peek.text ++ s.bump.rest w := by
  by_cases e : s.atEnd = true
  · rw [h.text_of_atEnd e, State.bump, if_pos e]
    simp
  · rw [State.bump, if_neg e]
    unfold rest peek peekAt
    cases hs : s.tokens with
    | nil => exact absurd (by simp [atEnd, peek, peekAt, hs, Token.atEnd]) e
    | cons t ts =>
      cases ts with
      | nil => simp [taken]
      | cons t' ts' => simp [taken, View.token]

theorem rest_eq_leading {s : State} (fresh : s.taken = false) :
    s.rest w = w.see s.peek.leading.text ++ { s with taken := true }.rest w := by
  unfold rest peek peekAt
  cases s.tokens with
  | nil => simp [Token.atEnd]
  | cons t ts => simp [fresh]

end State

variable {α β : Type} {p : Parse α} {q : α → Parse β} {s s' : State}

theorem bind_ok {b : β} (h : (p >>= q) s = .ok (b, s')) :
    ∃ a t, p s = .ok (a, t) ∧ q a t = .ok (b, s') := by
  change (p s >>= fun x => q x.1 x.2) = .ok (b, s') at h
  cases e : p s with
  | error => rw [e] at h; simp [bind, Except.bind] at h
  | ok x => exact ⟨x.1, x.2, rfl, by rw [e] at h; exact h⟩

/-- What is seen of a result of `p` from `s` is `pre` and what `p` has read. -/
def ReadsFrom (w : View δ) (s : State) (pre : List δ) (p : Parse α) (text : α → List δ) : Prop :=
  ∀ a s', p s = .ok (a, s') → s'.Sound ∧ pre ++ s.rest w = text a ++ s'.rest w

/-- What is seen of a result of `p` is `pre` and what `p` has read. -/
def Reads (w : View δ) (pre : List δ) (p : Parse α) (text : α → List δ) : Prop :=
  ∀ s : State, s.Sound → ReadsFrom w s pre p text

section Rules

variable {pre pre' : List δ} {f : α → List δ} {g : β → List δ}

theorem ReadsFrom.bind (hp : ReadsFrom w s [] p f) (hq : ∀ a, Reads w (pre ++ f a) (q a) g) :
    ReadsFrom w s pre (p >>= q) g := by
  intro b s' h
  obtain ⟨a, t, ha, hb⟩ := bind_ok h
  obtain ⟨sound, eq⟩ := hp a t ha
  obtain ⟨sound', eq'⟩ := hq a t sound b s' hb
  refine ⟨sound', ?_⟩
  rw [List.nil_append] at eq
  rw [eq, ← List.append_assoc, eq']

/-- `p` can give the result `a`. -/
def Returns (p : Parse α) (a : α) : Prop := ∃ s s' : State, p s = .ok (a, s')

/-- `Reads.bind` for code that depends on what `p` can give. -/
theorem Reads.bind_returns (hp : Reads w [] p f)
    (hq : ∀ a, Returns p a → Reads w (pre ++ f a) (q a) g) : Reads w pre (p >>= q) g := by
  intro s sound b s' h
  obtain ⟨a, t, ha, hb⟩ := bind_ok h
  obtain ⟨sound', eq⟩ := hp s sound a t ha
  obtain ⟨sound'', eq'⟩ := hq a ⟨s, t, ha⟩ t sound' b s' hb
  refine ⟨sound'', ?_⟩
  rw [List.nil_append] at eq
  rw [eq, ← List.append_assoc, eq']

theorem Reads.bind (hp : Reads w [] p f) (hq : ∀ a, Reads w (pre ++ f a) (q a) g) :
    Reads w pre (p >>= q) g :=
  fun s sound => (hp s sound).bind hq

/-- `p` goes on with the text before it. -/
theorem Reads.chain (hp : Reads w pre p f) (hq : ∀ a, Reads w (f a) (q a) g) :
    Reads w pre (p >>= q) g := by
  intro s sound b s' h
  obtain ⟨a, t, ha, hb⟩ := bind_ok h
  obtain ⟨sound', eq⟩ := hp s sound a t ha
  obtain ⟨sound'', eq'⟩ := hq a t sound' b s' hb
  exact ⟨sound'', eq.trans eq'⟩

theorem Reads.of_eq {text : α → List δ} (h : Reads w pre p text) (e : pre = pre') :
    Reads w pre' p text := e ▸ h

theorem Reads.pure {a : α} {text : α → List δ} (e : pre = text a) : Reads w pre (pure a) text := by
  intro s sound b s' h
  obtain ⟨rfl, rfl⟩ : a = b ∧ s = s' := by
    change Except.ok (a, s) = .ok (b, s') at h
    simpa using h
  exact ⟨sound, by rw [e]⟩

theorem ReadsFrom.ite {c : Prop} [Decidable c] {p p' : Parse α} {text : α → List δ}
    (hp : c → ReadsFrom w s pre p text) (hp' : ¬c → ReadsFrom w s pre p' text) :
    ReadsFrom w s pre (if c then p else p') text := by
  split
  · next h => exact hp h
  · next h => exact hp' h

theorem Reads.ite {c : Prop} [Decidable c] {p p' : Parse α} {text : α → List δ}
    (hp : c → Reads w pre p text) (hp' : ¬c → Reads w pre p' text) :
    Reads w pre (if c then p else p') text :=
  fun s sound => .ite (fun h => hp h s sound) fun h => hp' h s sound

/-- Branches that meet again in `tail`: what they hand over to it has the text `text`. -/
theorem Reads.meet {γ : Type} {body : Parse β} (tail : γ → Parse β) (text : γ → List δ)
    (ht : ∀ x, Reads w (pre ++ text x) (tail x) g)
    (hb : (∀ x, Reads w (pre ++ text x) (tail x) g) → Reads w pre body g) : Reads w pre body g :=
  hb ht

/-- Code that looks at the state first. -/
theorem Reads.get {k : State → Parse β} (h : ∀ s : State, s.Sound → ReadsFrom w s pre (k s) g) :
    Reads w pre (get >>= k) g :=
  fun s sound => h s sound

/-- The state is only asked which way to go. -/
theorem Reads.look {k : State → Parse β} (h : ∀ s, Reads w pre (k s) g) :
    Reads w pre (MonadState.get >>= k) g :=
  fun s sound => h s s sound

/-- A question about the tokens takes none of them. -/
theorem ReadsFrom.ask {question : State → Bool} {k : Bool → Parse β}
    (h : ReadsFrom w s pre (k (question s)) g) : ReadsFrom w s pre (Parser.ask question >>= k) g :=
  h

theorem ReadsFrom.is {word : String} {k : Bool → Parse β}
    (h : ReadsFrom w s pre (k (s.is word)) g) : ReadsFrom w s pre (Parser.is word >>= k) g :=
  h

theorem Reads.ask {question : State → Bool} {k : Bool → Parse β} (h : ∀ b, Reads w pre (k b) g) :
    Reads w pre (Parser.ask question >>= k) g :=
  fun s sound => h (question s) s sound

theorem Reads.is {word : String} {k : Bool → Parse β} (h : ∀ b, Reads w pre (k b) g) :
    Reads w pre (Parser.is word >>= k) g :=
  Reads.ask h

theorem Reads.fresh {k : NodeId → Parse β} (h : ∀ id, Reads w pre (k id) g) :
    Reads w pre (Parser.fresh >>= k) g :=
  fun s sound => h s.nextId { s with nextId := s.nextId + 1 } sound

theorem Reads.refuse {need : Need} {text : α → List δ} : Reads w pre (Parser.refuse need) text := by
  intro s _ a s' h
  change Except.error _ = Except.ok _ at h
  simp at h

theorem Reads.refuse_bind {need : Need} : Reads w pre (Parser.refuse need >>= q) g := by
  intro s _ a s' h
  change Except.error _ = Except.ok _ at h
  simp at h

theorem Reads.tooDeep {text : α → List δ} : Reads w pre Parser.tooDeep text := by
  intro s _ a s' h
  change Except.error _ = Except.ok _ at h
  simp at h

end Rules

/-! ## Tokens -/

section Tokens

variable {pre : List δ} {g : β → List δ}

/-- The trivia is handed out, and the tokens stay. -/
theorem leading_run (s : State) :
    ∃ space : Space, leading s = .ok (space, { s with taken := true }) ∧
      ∀ {δ : Type} (w : View δ), s.rest w = w.see space.text ++
        { s with taken := true }.rest w := by
  cases taken : s.taken with
  | true =>
    have same : { s with taken := true } = s := by rw [← taken]
    refine ⟨.empty, ?_, ?_⟩
    · rw [same]
      show (if s.taken then _ else _ : Parse Space) s = _
      rw [if_pos taken]
      rfl
    · intro δ w
      rw [same, Space.text_empty, w.see_empty, List.nil_append]
  | false =>
    refine ⟨s.peek.leading, ?_, fun _ => State.rest_eq_leading taken⟩
    show (if s.taken then _ else _ : Parse Space) s = _
    rw [if_neg (by simp [taken])]
    rfl

/-- The trivia and the token behind it are read together. -/
theorem next_run (s : State) (sound : s.Sound) :
    ∃ space : Space, next s = .ok ((space, s.peek), { s with taken := true }.bump) ∧
      s.rest w = w.see space.text ++ w.see s.peek.text ++
        ({ s with taken := true }.bump).rest w := by
  obtain ⟨space, run, eq⟩ := leading_run s
  refine ⟨space, ?_, ?_⟩
  · change (leading s >>= fun x => Except.ok ((x.1, x.2.peek), x.2.bump)) = _
    rw [run]
    rfl
  · have sound' : State.Sound { s with taken := true } := sound
    rw [eq, sound'.rest_bump rfl, List.append_assoc]
    rfl

theorem ReadsFrom.next {k : Space × Token → Parse β} (sound : s.Sound)
    (h : ∀ space, Reads w (pre ++ (w.see space.text ++ w.see s.peek.text)) (k (space, s.peek)) g) :
    ReadsFrom w s pre (Parser.next >>= k) g := by
  intro b s' hb
  obtain ⟨x, t, hx, hb⟩ := bind_ok hb
  obtain ⟨space, run, eq⟩ := next_run s sound
  rw [run, Except.ok.injEq, Prod.mk.injEq] at hx
  obtain ⟨rfl, rfl⟩ := hx
  have sound' : State.Sound { s with taken := true } := sound
  obtain ⟨sound'', eq'⟩ := h space _ sound'.bump b s' hb
  refine ⟨sound'', ?_⟩
  rw [eq, ← eq', ← List.append_assoc]

theorem Reads.next {k : Space × Token → Parse β}
    (h : ∀ space token, Reads w (pre ++ (w.see space.text ++ w.see token.text))
      (k (space, token)) g) :
    Reads w pre (Parser.next >>= k) g :=
  fun s sound => ReadsFrom.next sound fun space => h space s.peek

/-- `ReadsFrom.next` for code that takes the two in two steps. -/
theorem ReadsFrom.leading_bump {k : Space → Token → Parse β} (sound : s.Sound)
    (h : ∀ space, Reads w (pre ++ (w.see space.text ++ w.see s.peek.text)) (k space s.peek) g) :
    ReadsFrom w s pre (Parser.leading >>= fun space => Parser.bump >>= fun token => k space token)
      g := by
  have step : ReadsFrom w s pre (Parser.next >>= fun x => k x.1 x.2) g := ReadsFrom.next sound h
  rwa [Parser.next, bind_assoc, funext fun _ => bind_assoc ..] at step

theorem Reads.leading {k : Space → Parse β} (h : ∀ space, Reads w (pre ++ w.see space.text)
    (k space) g) :
    Reads w pre (Parser.leading >>= k) g := by
  intro s sound b s' hb
  obtain ⟨x, t, hx, hb⟩ := bind_ok hb
  obtain ⟨space, run, eq⟩ := leading_run s
  rw [run, Except.ok.injEq, Prod.mk.injEq] at hx
  obtain ⟨rfl, rfl⟩ := hx
  have sound' : State.Sound { s with taken := true } := sound
  obtain ⟨sound'', eq'⟩ := h space _ sound' b s' hb
  exact ⟨sound'', by rw [eq, ← eq', List.append_assoc]⟩

theorem State.text_of_is {s : State} {word : String} (h : s.is word = true) :
    s.peek.text = word := by
  simp only [State.is, Token.is, Bool.and_eq_true, beq_iff_eq] at h
  exact h.2

theorem Reads.expect {word : String} {k : Space → Parse β}
    (h : ∀ space, Reads w (pre ++ (w.see space.text ++ w.see word)) (k space) g) :
    Reads w pre (Parser.expect word >>= k) g := by
  intro s sound
  have step : ReadsFrom w s [] (Parser.expect word)
    (fun space => w.see space.text ++ w.see word) := by
    unfold Parser.expect
    refine ReadsFrom.ask ?_
    split
    · next found =>
      refine ReadsFrom.next sound fun space => ?_
      refine Reads.pure ?_
      rw [State.text_of_is found, List.nil_append]
    · exact Reads.refuse s sound
  exact step.bind h

theorem Reads.ident {k : Identifier → Parse β}
    (h : ∀ n : Identifier, Reads w (pre ++ w.seen n.layout) (k n) g) :
    Reads w pre (Parser.ident >>= k) g := by
  have step : Reads w [] Parser.ident (w.seen ·.layout) := by
    unfold Parser.ident
    refine Reads.ask fun b => ?_
    split
    · refine Reads.next fun space token => ?_
      refine Reads.fresh fun id => ?_
      exact Reads.pure (by simp [Identifier.layout])
    · exact Reads.refuse
  exact step.bind h

theorem Reads.word {k : Identifier → Parse β}
    (h : ∀ n : Identifier, Reads w (pre ++ w.seen n.layout) (k n) g) :
    Reads w pre (Parser.word >>= k) g := by
  have step : Reads w [] Parser.word (w.seen ·.layout) := by
    unfold Parser.word
    refine Reads.ask fun b => ?_
    split
    · refine Reads.next fun space token => ?_
      refine Reads.fresh fun id => ?_
      exact Reads.pure (by simp [Identifier.layout])
    · exact Reads.refuse
  exact step.bind h

end Tokens

/-! ## Lists -/

section Lists

variable {element : Parse α} {f : α → List δ}

theorem ne_nil_of_commaSeparated {n : Nat} {ps : List (Padded α)}
    (h : Returns (commaSeparated element n) ps) : ps ≠ [] := by
  obtain ⟨s, s', h⟩ := h
  cases n with
  | zero =>
    change Except.error _ = Except.ok _ at h
    simp at h
  | succ n =>
    obtain ⟨value, t, -, h⟩ := bind_ok h
    obtain ⟨comma, t, -, h⟩ := bind_ok h
    split at h
    · obtain ⟨after, t, -, h⟩ := bind_ok h
      obtain ⟨rest, t, -, h⟩ := bind_ok h
      cases h
      simp
    · cases h
      simp

theorem reads_commaSeparated (h : Reads w [] element f) (n : Nat) :
    Reads w [] (commaSeparated element n) (w.separated f) := by
  induction n with
  | zero => exact Reads.tooDeep
  | succ n ih =>
    rw [commaSeparated]
    refine h.bind fun value => ?_
    refine Reads.is fun comma => ?_
    split
    · refine Reads.expect fun after => ?_
      refine ih.bind_returns fun rest returned => ?_
      refine Reads.pure ?_
      rw [w.separated_cons (ne_nil_of_commaSeparated returned)]
      simp [List.append_assoc]
    · exact Reads.pure (by simp)

/-- What is seen of a list between two marks. -/
def delimited (w : View δ) (opening closing : String) (f : α → List δ) (c : Container α) : List δ :=
  w.see c.before.text ++ w.see opening ++ w.separated f c.elements ++ w.see c.close.text ++
    w.see closing

theorem reads_container (opening closing : String) (h : Reads w [] element f) (n : Nat) :
    Reads w [] (container opening closing element n) (delimited w opening closing f) := by
  unfold container
  refine Reads.expect fun before => ?_
  refine Reads.is fun closed => ?_
  extract_lets -underBinder tail
  refine Reads.meet tail (w.separated f) (fun elements => ?_) fun join => ?_
  · unfold tail
    refine Reads.expect fun close => ?_
    exact Reads.pure (by simp [delimited, List.append_assoc])
  · split
    · exact (join []).of_eq (by simp)
    · exact (reads_commaSeparated h n).bind join

theorem reads_keywordList (keyword : String) (h : Reads w [] element f) (n : Nat) :
    Reads w [] (keywordList keyword element n) (delimited w keyword "" f) := by
  unfold keywordList
  refine Reads.expect fun before => ?_
  refine (reads_commaSeparated h n).bind fun elements => ?_
  exact Reads.pure (by simp [delimited, List.append_assoc])

end Lists

/-! ## Names, types and literals -/

section Names

theorem reads_nameRest (n : Nat) (name : Expression) :
    Reads w (w.seen name.layout) (nameRest name n) (w.seen ·.layout) := by
  induction n generalizing name with
  | zero => exact Reads.tooDeep
  | succ n ih =>
    rw [nameRest]
    refine Reads.ask fun b => ?_
    split
    · refine Reads.expect fun dot => ?_
      refine Reads.ident fun segment => ?_
      refine Reads.fresh fun id => ?_
      refine (ih _).of_eq ?_
      rw [w.seen_expression name]
      simp [Expression.layout, FieldAccess.layout]
    · exact Reads.pure rfl

theorem reads_qualifiedName (n : Nat) : Reads w [] (qualifiedName n) (w.seen ·.layout) := by
  unfold qualifiedName
  refine Reads.ident fun name => ?_
  exact (reads_nameRest n _).of_eq (by simp [Expression.layout])

theorem reads_arrayRest (n : Nat) (tree : TypeTree) :
    Reads w (w.seen tree.layout) (arrayRest tree n) (w.seen ·.layout) := by
  induction n generalizing tree with
  | zero => exact Reads.tooDeep
  | succ n ih =>
    rw [arrayRest]
    refine Reads.ask fun b => ?_
    split
    · refine Reads.expect fun opening => ?_
      refine Reads.expect fun closing => ?_
      refine Reads.fresh fun id => ?_
      refine (ih _).of_eq ?_
      rw [w.seen_type tree]
      simp [TypeTree.layout]
    · exact Reads.pure rfl

@[simp]
theorem seen_layoutTypes (opening closing : String) (c : Container TypeTree) :
    w.seen (layoutTypes opening closing c) = delimited w opening closing (w.seen ·.layout) c := by
  cases c
  simp [layoutTypes, delimited, layoutTypeList_eq, View.seen_separate]

theorem keyword_of_ofKeyword? {word : String} {p : Primitive}
    (h : Primitive.ofKeyword? word = some p) : p.keyword = word := by
  unfold Primitive.ofKeyword? at h
  simpa using List.find?_some h

mutual

theorem reads_typeBase (n : Nat) : Reads w [] (typeBase n) (w.seen ·.layout) := by
  match n with
  | 0 => exact Reads.tooDeep
  | n + 1 =>
    rw [typeBase]
    refine Reads.get fun s sound => ?_
    split
    · refine Reads.expect (fun space => ?_) s sound
      refine Reads.get fun s sound => ?_
      split
      · next isBound =>
        refine ReadsFrom.leading_bump sound fun before => ?_
        refine (reads_typeTree n).bind fun bounded => ?_
        refine Reads.fresh fun id => ?_
        refine Reads.pure ?_
        -- The word that was read is the keyword of the bound that it makes.
        have word : s.peek.text =
            (if s.is "extends" then WildcardBound.extends else .super).keyword := by
          split
          · next isExtends => exact State.text_of_is isExtends
          · next noExtends =>
            simp only [noExtends, Bool.false_or] at isBound
            exact State.text_of_is isBound
        simp [TypeTree.layout, layoutBound, layoutType?, word]
      · refine Reads.fresh (fun id => ?_) s sound
        exact Reads.pure (by simp [TypeTree.layout, layoutBound, layoutType?])
    · split
      · next p found =>
        refine ReadsFrom.next sound fun space => ?_
        refine Reads.fresh fun id => ?_
        refine Reads.pure ?_
        have word : p.keyword = s.peek.text := by
          split at found
          · exact keyword_of_ofKeyword? found
          · cases found
        simp [TypeTree.layout, word]
      · refine (reads_qualifiedName n).bind (fun name => ?_) s sound
        refine Reads.is fun b => ?_
        split
        · refine (reads_container "<" ">" (reads_typeTree n) n).bind fun arguments => ?_
          refine Reads.fresh fun id => ?_
          refine Reads.pure ?_
          rw [w.seen_expression name]
          simp [TypeTree.layout]
        · exact Reads.pure (by simp [TypeTree.layout])

theorem reads_typeTree (n : Nat) : Reads w [] (typeTree n) (w.seen ·.layout) := by
  match n with
  | 0 => exact Reads.tooDeep
  | n + 1 =>
    rw [typeTree]
    refine (reads_typeBase n).bind fun base => ?_
    exact (reads_arrayRest n base).of_eq (by simp)

end

theorem reads_literal : Reads w [] literal (w.seen ·.layout) := by
  unfold literal
  refine Reads.next fun space token => ?_
  dsimp only
  split
  · refine Reads.fresh fun id => ?_
    exact Reads.pure (by simp [Expression.layout, Literal.layout])
  · intro s _ a s' h
    change Except.error _ = Except.ok _ at h
    simp at h

end Names

end Parser

end Retouch
