import Retouch.Proofs.Outcome
import Retouch.Proofs.Parser.Lossless

/-!
# Reading a unit

The trivia behind the last token belongs to the unit, which takes it from the tokens at the end. It
must not have been handed out before: a declaration ends in a mark, so behind it the trivia is free
again (`Settles`).

`print_parseUnit`: a source that is read is printed byte for byte.
-/

namespace Retouch.Parser

variable {α β δ : Type} {p : Parse α} {q : α → Parse β} {w : View δ}

/-- Behind `p` nothing of the trivia is handed out. -/
def Settles (p : Parse α) : Prop :=
  ∀ ⦃s : State⦄ ⦃a : α⦄ ⦃s' : State⦄, p s = .ok (a, s') → s'.taken = false

namespace Settles

theorem bind (h : ∀ a, Settles (q a)) : Settles (p >>= q) := by
  intro s b s' run
  obtain ⟨a, t, -, run⟩ := bind_ok run
  exact h a run

theorem refuse_bind {need : Need} : Settles (refuse need >>= q) := by
  intro s b s' run
  change Except.error _ = Except.ok _ at run
  simp at run

theorem ite {c : Prop} [Decidable c] {p p' : Parse α} (h : Settles p) (h' : Settles p') :
    Settles (if c then p else p') := by
  split
  · exact h
  · exact h'

/-- A node is put together at the end. -/
theorem fresh {f : α → NodeId → β} (h : Settles p) :
    Settles (p >>= fun a => Parser.fresh >>= fun id => pure (f a id)) := by
  intro s b s' run
  obtain ⟨a, t, ran, run⟩ := bind_ok run
  cases run
  have settled : t.taken = false := h ran
  exact settled

end Settles

theorem settles_expect (word : String) : Settles (expect word) := by
  intro s a s' run
  unfold expect at run
  obtain ⟨b, t, asked, run⟩ := bind_ok run
  cases asked
  split at run
  · next found =>
    have inside := State.not_atEnd_of_is found
    change (next s >>= fun x => Except.ok (x.1.1, x.2)) = _ at run
    have next_run : next s = (leading s >>= fun x => Except.ok ((x.1, x.2.peek), x.2.bump)) := rfl
    obtain ⟨space, leading, -⟩ := leading_run s
    rw [next_run, leading] at run
    cases run
    show (State.bump { s with taken := true }).taken = false
    unfold State.bump
    rw [show State.atEnd { s with taken := true } = s.atEnd from rfl, inside]
    rfl
  · change Except.error _ = Except.ok _ at run
    simp at run

theorem settles_classBody (n : Nat) : Settles (classBody n) := by
  cases n with
  | zero =>
    intro s a s' run
    change Except.error _ = Except.ok _ at run
    simp at run
  | succ n =>
    rw [classBody]
    refine .bind fun space => ?_
    refine .bind fun statements => ?_
    exact (settles_expect _).fresh

theorem settles_classDeclaration (h : Heading) (n : Nat) : Settles (classDeclaration h n) := by
  cases n with
  | zero =>
    intro s a s' run
    change Except.error _ = Except.ok _ at run
    simp at run
  | succ n =>
    rw [classDeclaration]
    refine .bind fun keyword => ?_
    obtain ⟨keywordLeading, token⟩ := keyword
    dsimp -zeta only
    extract_lets -underBinder tail
    have declared (keyword : ClassKeyword) : Settles (tail keyword) := by
      unfold tail
      refine .bind fun name => .bind fun b => ?_
      extract_lets -underBinder tail
      have named : Settles (tail ()) := by
        unfold tail
        refine .bind fun extended => ?_
        extract_lets -underBinder tail
        have derived (superclass : Option (LeftPadded TypeTree)) : Settles (tail superclass) := by
          unfold tail
          refine .bind fun b => ?_
          extract_lets -underBinder tail
          have ended (interfaces : Option (Container TypeTree)) : Settles (tail interfaces) := by
            unfold tail
            exact (settles_classBody n).fresh
          refine .ite (.bind fun list => ended _) (.ite (.bind fun list => ended _) (ended _))
        exact .ite (.bind fun before => .bind fun type => derived _) (derived _)
      exact .ite .refuse_bind named
    split
    · exact declared .clazz
    · exact declared .interface
    · exact .refuse_bind

/-! ## The parts of a unit -/

theorem reads_importRest (n : Nat) (name : Expression) :
    Reads w (w.seen name.layout) (importRest name n) (w.seen ·.layout) := by
  induction n generalizing name with
  | zero => exact Reads.tooDeep
  | succ n ih =>
    rw [importRest]
    refine Reads.is fun b => ?_
    refine Reads.ite (fun _ => ?_) fun _ => ?_
    · refine Reads.expect fun dot => ?_
      intro s sound
      refine ReadsFrom.is ?_
      extract_lets -underBinder tail
      have join (segment : Identifier) :
          Reads w (w.seen name.layout ++ (w.see dot.text ++ w.see ".") ++ w.seen segment.layout)
            (tail segment)
            (w.seen ·.layout) := by
        unfold tail
        refine Reads.fresh fun id => ?_
        refine (ih _).of_eq ?_
        rw [w.seen_expression name]
        simp [Expression.layout, FieldAccess.layout]
      refine ReadsFrom.ite (fun star => ?_) fun _ => Reads.ident join s sound
      refine ReadsFrom.next sound fun space => ?_
      refine Reads.fresh fun id => ?_
      refine (join ⟨id, space, "*", .unknown, none⟩).of_eq ?_
      simp [Identifier.layout, State.text_of_is star]
    · exact Reads.pure rfl

theorem reads_importName (n : Nat) : Reads w [] (importName n) (w.seen ·.layout) := by
  unfold importName
  refine Reads.ident fun name => ?_
  refine Reads.chain ((reads_importRest n (.identifier name)).of_eq (by simp [Expression.layout]))
    fun e => ?_
  split
  · exact Reads.pure (by simp [Expression.layout])
  · exact Reads.refuse

/-- What is seen of the package declaration. -/
def seenPackage (w : View δ) : Option (Padded Package) → List δ
  | none => []
  | some ⟨p, after⟩ => w.seen p.layout ++ w.see after.text ++ w.see ";"

theorem reads_packageDeclaration (n : Nat) : Reads w [] (packageDeclaration n) (seenPackage w) := by
  unfold packageDeclaration
  refine Reads.is fun b => ?_
  refine Reads.ite (fun _ => ?_) fun _ => ?_
  · refine Reads.expect fun space => ?_
    refine (reads_qualifiedName n).bind fun name => ?_
    refine Reads.expect fun after => ?_
    refine Reads.fresh fun id => ?_
    exact Reads.pure (by simp [seenPackage, Package.layout])
  · exact Reads.pure rfl

/-- What is seen of the imports. -/
def seenImports (w : View δ) (imports : List (Padded Import)) : List δ :=
  w.seen (.each (fun p => p.element.layout ++ p.after.layout ++ tok ";") imports)

theorem reads_importList (n : Nat) : Reads w [] (importList n) (seenImports w) := by
  induction n with
  | zero => exact Reads.tooDeep
  | succ n ih =>
    rw [importList]
    refine Reads.is fun b => ?_
    refine Reads.ite (fun _ => ?_) fun _ => ?_
    · refine Reads.expect fun space => ?_
      refine Reads.is fun b => ?_
      extract_lets -underBinder tail
      refine Reads.meet tail (fun s => s.elim [] fun s => w.see s.text ++ w.see "static")
        (fun staticLeading => ?_) fun join => ?_
      · unfold tail
        refine (reads_importName n).bind fun name => ?_
        refine Reads.expect fun after => ?_
        refine Reads.fresh fun id => ?_
        refine ih.bind fun rest => ?_
        refine Reads.pure ?_
        cases staticLeading <;> simp [seenImports, Layout.each, Import.layout]
      · refine Reads.ite (fun _ => ?_) fun _ => ?_
        · refine Reads.expect fun s => ?_
          exact (join (some s)).of_eq (by simp)
        · exact (join none).of_eq (by simp)
    · exact Reads.pure rfl

theorem reads_classList (n : Nat) :
    Reads w [] (classList n) fun cs => w.seen (.each ClassDeclaration.layout cs) := by
  induction n with
  | zero => exact Reads.tooDeep
  | succ n ih =>
    rw [classList]
    refine Reads.ask fun b => ?_
    refine Reads.ite (fun _ => Reads.pure (by simp [Layout.each])) fun _ => ?_
    refine (lossless w n).heading.bind fun h => ?_
    rw [List.nil_append]
    refine Reads.ask fun b => ?_
    refine Reads.ite (fun _ => ?_) fun _ => Reads.refuse
    refine ((lossless w n).classDeclaration h).chain fun first => ?_
    refine ih.bind fun rest => ?_
    exact Reads.pure (by simp [Layout.each])

/-! ## The end -/

variable {s s' : State} {n : Nat}

theorem free_packageDeclaration {package : Option (Padded Package)}
    (run : packageDeclaration n s = .ok (package, s')) (free : s.taken = false) :
    s'.taken = false := by
  unfold packageDeclaration at run
  obtain ⟨b, t, asked, run⟩ := bind_ok run
  cases asked
  split at run
  · have settles : Settles (expect ";") := settles_expect ";"
    obtain ⟨space, t, -, run⟩ := bind_ok run
    obtain ⟨name, t, -, run⟩ := bind_ok run
    exact settles.fresh run
  · cases run
    exact free

theorem free_importList {imports : List (Padded Import)}
    (run : importList n s = .ok (imports, s')) (free : s.taken = false) : s'.taken = false := by
  induction n generalizing s imports with
  | zero =>
    change Except.error _ = Except.ok _ at run
    simp at run
  | succ n ih =>
    rw [importList] at run
    obtain ⟨b, t, asked, run⟩ := bind_ok run
    cases asked
    split at run
    · obtain ⟨space, t, -, run⟩ := bind_ok run
      obtain ⟨b, t, -, run⟩ := bind_ok run
      extract_lets -underBinder tail at run
      have ended {staticLeading : Option Space} {t : State}
          (run : tail staticLeading t = .ok (imports, s')) : s'.taken = false := by
        unfold tail at run
        obtain ⟨name, t, -, run⟩ := bind_ok run
        obtain ⟨after, t, expected, run⟩ := bind_ok run
        obtain ⟨id, t', numbered, run⟩ := bind_ok run
        obtain ⟨rest, t'', more, built⟩ := bind_ok run
        cases numbered
        cases built
        have free : t.taken = false := settles_expect ";" expected
        exact ih more free
      split at run
      · obtain ⟨space, t, -, run⟩ := bind_ok run
        exact ended run
      · exact ended run
    · cases run
      exact free

theorem atEnd_classList {classes : List ClassDeclaration}
    (run : classList n s = .ok (classes, s')) (free : s.taken = false) :
    s'.taken = false ∧ s'.atEnd = true := by
  induction n generalizing s classes with
  | zero =>
    change Except.error _ = Except.ok _ at run
    simp at run
  | succ n ih =>
    rw [classList] at run
    obtain ⟨b, t, asked, run⟩ := bind_ok run
    cases asked
    split at run
    · next atEnd =>
      cases run
      exact ⟨free, atEnd⟩
    · obtain ⟨h, t, -, run⟩ := bind_ok run
      obtain ⟨b, t, -, run⟩ := bind_ok run
      split at run
      · obtain ⟨first, t, declared, run⟩ := bind_ok run
        obtain ⟨rest, t', more, run⟩ := bind_ok run
        cases run
        exact ih more (settles_classDeclaration h n declared)
      · change Except.error _ = Except.ok _ at run
        simp at run

/-- At the end only the trivia in front of it is left. -/
theorem State.Sound.rest_atEnd (sound : s.Sound) (free : s.taken = false) (h : s.atEnd = true) :
    s.rest w = w.see s.peek.leading.text := by
  unfold State.Sound at sound
  unfold State.atEnd State.peek State.peekAt at h
  unfold State.rest State.peek State.peekAt
  cases hs : s.tokens with
  | nil => simp [Token.atEnd]
  | cons t ts =>
    rw [hs] at sound h
    obtain ⟨text, rfl⟩ := sound.1 (eq_of_beq h)
    simp [free, text]

theorem State.rest_all (w : View δ) (tokens : List Token) (nextId : NodeId) :
    State.rest w ⟨tokens, false, nextId⟩ = tokens.flatMap w.token := by
  cases tokens with
  | nil => rfl
  | cons t ts => simp [State.rest, View.token]

theorem seen_unit {path : String} {u : CompilationUnit} (sound : s.Sound) (free : s.taken = false)
    (run : unit path n s = .ok (u, s')) : w.seen u.layout = s.rest w := by
  unfold unit at run
  obtain ⟨package, t₁, hp, run⟩ := bind_ok run
  obtain ⟨imports, t₂, hi, run⟩ := bind_ok run
  obtain ⟨classes, t₃, hc, run⟩ := bind_ok run
  obtain ⟨id, t₄, numbered, run⟩ := bind_ok run
  obtain ⟨sound₁, eq₁⟩ := reads_packageDeclaration (w := w) n s sound package t₁ hp
  obtain ⟨sound₂, eq₂⟩ := reads_importList (w := w) n t₁ sound₁ imports t₂ hi
  obtain ⟨sound₃, eq₃⟩ := reads_classList (w := w) n t₂ sound₂ classes t₃ hc
  obtain ⟨free₃, atEnd⟩ := atEnd_classList hc (free_importList hi (free_packageDeclaration hp free))
  cases numbered
  cases run
  have eof : t₃.rest w = w.see t₃.peek.leading.text := sound₃.rest_atEnd free₃ atEnd
  simp only [List.nil_append] at eq₁ eq₂ eq₃
  rw [eq₁, eq₂, eq₃, eof]
  have same : State.peek ⟨t₃.tokens, t₃.taken, t₃.nextId + 1⟩ = t₃.peek := rfl
  cases package <;>
    simp [CompilationUnit.layout, seenPackage, seenImports, same]

end Retouch.Parser

namespace Retouch

/-- A view sees in a unit what it sees in the tokens that it was read from. -/
theorem seen_parseUnit {δ : Type} (w : View δ) {path source : String} {nextId n : NodeId}
    {u : CompilationUnit} {tokens : List Token} (lexed : tokenize source = .ok tokens)
    (h : parseUnit path source nextId = .ok (u, n)) : w.seen u.layout = tokens.flatMap w.token := by
  obtain ⟨tokens', s, lexed', run⟩ := exists_unit h
  obtain rfl := Except.ok.inj (lexed.symm.trans lexed')
  rw [Parser.seen_unit (endsLast_tokenize lexed) rfl run, Parser.State.rest_all]

theorem print_parseUnit {path source : String} {nextId n : NodeId} {u : CompilationUnit}
    (h : parseUnit path source nextId = .ok (u, n)) : u.print = source := by
  obtain ⟨tokens, s, lexed, -⟩ := exists_unit h
  have seen := seen_parseUnit View.chars lexed h
  have joined := congrArg String.toList (join_print_tokenize lexed)
  rw [String.toList_join, List.flatMap_map] at joined
  rw [View.chars_seen] at seen
  refine String.toList_inj.1 ((seen.trans ?_).trans joined)
  congr
  funext t
  simp [View.token, View.chars, Token.print]

end Retouch
