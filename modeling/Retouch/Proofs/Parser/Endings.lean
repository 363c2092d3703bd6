import Retouch.Parser.Grammar
import Retouch.Proofs.Parser.Results
import Retouch.Proofs.Tree.Endings

/-!
# The grammar ends statements

A statement that is read takes a semicolon, or it ends with a brace or a semicolon and nothing is
behind it (`gives_blockStatement`, `gives_member`). So in a block that is read every statement ends
(`gives_delimited`).
-/

namespace Retouch

namespace Parser

/-- The statement, with what is behind it, ends. -/
abbrev Ended (p : Padded Statement) : Prop := p.statementLayout.isEnded = true

theorem ended_tight {s : Statement} (h : s.layout.isEnded = true) :
    Ended (.tight s) := Padded.isEnded_tight h

/-- A statement that takes a semicolon. -/
theorem ended_of_semicolon {s : Statement} {after : Space} (h : s.needsSemicolon = true := by rfl) :
    Ended ⟨s, after⟩ :=
  Padded.isEnded_of_needsSemicolon (p := ⟨s, after⟩) h

theorem gives_switchStatement (n : Nat) : Gives (switchStatement n) Ended := by
  cases n with
  | zero => exact .tooDeep
  | succ n =>
    rw [switchStatement]
    exact .skip fun space => .skip fun selector => .skip fun opening => .skip fun cases =>
      .skip fun closing =>
      .skip fun id => .pure (ended_tight (Layout.isEnded_switch ..))

theorem gives_tryStatement (n : Nat) : Gives (tryStatement n) Ended := by
  cases n with
  | zero => exact .tooDeep
  | succ n =>
    rw [tryStatement]
    refine .skip fun space => .skip fun b => ?_
    extract_lets -underBinder tail
    have opened (resources : Option TryResources) : Gives (tail resources) Ended := by
      refine .skip fun body => .skip fun catches => .skip fun b => ?_
      extract_lets -underBinder tail
      have closed (finalizer : Option (LeftPadded Block)) : Gives (tail finalizer) Ended := by
        unfold tail
        extract_lets -underBinder tail
        have rest : Gives (tail ()) Ended := .skip fun id =>
          .pure (ended_tight (Layout.isEnded_tryBlock ..))
        exact .ite (.skip fun _ => rest) rest
      exact .ite (.skip fun before => .skip fun b => closed (some ⟨before, b⟩)) (closed none)
    exact .ite (.skip fun r => opened (some r)) (opened none)

theorem gives_methodDeclaration (h : Heading) (returnType : Option TypeTree) (n : Nat) :
    Gives (methodDeclaration h returnType n) Ended := by
  cases n with
  | zero => exact .tooDeep
  | succ n =>
    rw [methodDeclaration]
    refine .skip fun name => .skip fun parameters => .skip fun b => ?_
    extract_lets -underBinder tail
    have thrown (throwing : Option (Container TypeTree)) : Gives (tail throwing) Ended := by
      refine .skip fun b => ?_
      extract_lets -underBinder tail
      have closed (body : Block) : Gives (tail (some body, .empty)) Ended :=
        .skip fun id => .pure (ended_tight (s := .method _) (Layout.isEnded_method rfl))
      have opened (after : Space) : Gives (tail (none, after)) Ended := .skip fun id =>
        .pure ended_of_semicolon
      exact .ite (.skip closed) (.skip opened)
    exact .ite (.skip fun c => thrown (some c)) (thrown none)

theorem gives_member (n : Nat) : Gives (member n) Ended := by
  cases n with
  | zero => exact .tooDeep
  | succ n =>
    rw [member]
    refine .skip fun h => .skip fun s => .ite ?_ ?_
    · exact .skip fun c =>
        .pure (ended_tight (s := .classDeclaration c) (Layout.isEnded_classDeclaration c))
    · extract_lets -underBinder tail
      have rest : Gives (tail ()) Ended := by
        refine .ite (gives_methodDeclaration h none n) (.skip fun type => .skip fun b => .ite ?_ ?_)
        · exact gives_methodDeclaration h (some type) n
        · exact .skip fun declarators => .skip fun after => .skip fun id => .pure ended_of_semicolon
      exact .ite (.skip fun _ => rest) rest

mutual

theorem gives_ifStatement (n : Nat) : Gives (ifStatement n) Ended := by
  match n with
  | 0 => exact .tooDeep
  | n + 1 =>
    rw [ifStatement]
    refine .skip fun space => .skip fun condition =>
      (gives_blockStatement n).bind fun whenTrue own =>
      .skip fun b => ?_
    extract_lets -underBinder tail
    have join (whenFalse : Option Else) (last : ∀ e ∈ whenFalse, Ended e.body) :
      Gives (tail whenFalse) Ended :=
      .skip fun id => .pure (ended_tight (Layout.isEnded_conditional own id space condition last))
    refine .ite (.skip fun before => (gives_blockStatement n).bind fun body last => .skip fun id =>
      ?_)
      (join none fun _ mem => nomatch mem)
    exact join (some ⟨id, before, body⟩) fun e mem => Option.mem_some.1 mem ▸ last

theorem gives_forStatement (n : Nat) : Gives (forStatement n) Ended := by
  match n with
  | 0 => exact .tooDeep
  | n + 1 =>
    rw [forStatement]
    refine .skip fun space => .skip fun opening => .skip fun s => ?_
    extract_lets -underBinder each tail
    refine .ite ?_ ?_
    · refine .skip fun h => .skip fun type => .skip fun v => .skip fun colon =>
        .skip fun iterable =>
        .skip fun close => ?_
      exact (gives_blockStatement n).bind fun body own => .skip fun binder => .skip fun id =>
        .pure (ended_tight (Layout.isEnded_forEach own ..))
    · have started (init : Option Statement) : Gives (tail init) Ended := by
        refine .skip fun afterInit => .skip fun b => ?_
        extract_lets -underBinder tail
        have bounded (condition : Option Expression) : Gives (tail condition) Ended := by
          refine .skip fun afterCondition => .skip fun b => ?_
          extract_lets -underBinder tail
          have updated (update : List (Padded Expression)) : Gives (tail update) Ended :=
            .skip fun closing => (gives_blockStatement n).bind fun body own => .skip fun id =>
              .pure (ended_tight (Layout.isEnded_forLoop own ..))
          exact .ite (updated []) (.skip fun es => updated es)
        exact .ite (bounded none) (.skip fun e => bounded (some e))
      exact .ite (started none) (.ite (.skip fun v => started _) (.skip fun e => started _))

theorem gives_blockStatement (n : Nat) : Gives (blockStatement n) Ended := by
  match n with
  | 0 => exact .tooDeep
  | n + 1 =>
    rw [blockStatement]
    refine .skip fun s => ?_
    refine .ite (.skip fun b => .pure (ended_tight (s := .block b) (Layout.isEnded_block b))) ?_
    refine .ite (.skip fun space => .skip fun id => .pure ended_of_semicolon) ?_
    refine .ite (.skip fun space => .skip fun b => ?_) ?_
    · extract_lets -underBinder tail
      have join (value : Option Expression) : Gives (tail value) Ended :=
        .skip fun after => .skip fun id => .pure ended_of_semicolon
      exact .ite (join none) (.skip fun e => join (some e))
    refine .ite (.skip fun space => .skip fun e => .skip fun after => .skip fun id =>
      .pure ended_of_semicolon) ?_
    refine .ite (gives_ifStatement n) ?_
    refine .ite (.skip fun space => .skip fun condition =>
      (gives_blockStatement n).bind fun body own =>
      .skip fun id => .pure (ended_tight (Layout.isEnded_whileLoop own ..))) ?_
    refine .ite (gives_forStatement n) ?_
    refine .ite (gives_tryStatement n) ?_
    refine .ite (.skip fun space => .skip fun body => .skip fun _ => .skip fun condition =>
      .skip fun after =>
      .skip fun id => .pure ended_of_semicolon) ?_
    refine .ite (gives_switchStatement n) ?_
    refine .ite (.skip fun word => .skip fun b => ?_) ?_
    · extract_lets -underBinder tail
      have join (label : Option Identifier) : Gives (tail label) Ended :=
        .skip fun after => .skip fun id => .pure (ended_of_semicolon (by split <;> rfl))
      exact .ite (.skip fun name => join (some name)) (join none)
    refine .ite (.skip fun h => .skip fun c =>
      .pure (ended_tight (s := .classDeclaration c) (Layout.isEnded_classDeclaration c))) ?_
    refine .ite (.skip fun v => .skip fun after => .pure ended_of_semicolon) ?_
    exact .skip fun e => .skip fun after => .pure ended_of_semicolon

end

theorem gives_blockStatements (n : Nat) : Gives (blockStatements n) fun ss => ∀ p ∈ ss,
    Ended p := by
  induction n with
  | zero => exact .tooDeep
  | succ n ih =>
    rw [blockStatements]
    refine .skip fun s => .ite (.pure fun _ mem => nomatch mem) ?_
    extract_lets -underBinder tail
    have rest : Gives (tail ()) fun ss => ∀ p ∈ ss, Ended p :=
      (gives_blockStatement n).bind fun first own => ih.bind fun rest inner =>
        .pure (List.forall_mem_cons.2 ⟨own, inner⟩)
    exact .ite (.skip fun _ => rest) rest

theorem gives_members (n : Nat) : Gives (members n) fun ss => ∀ p ∈ ss, Ended p := by
  induction n with
  | zero => exact .tooDeep
  | succ n ih =>
    rw [members]
    refine .skip fun s => .ite (.pure fun _ mem => nomatch mem) ?_
    extract_lets -underBinder tail
    have rest : Gives (tail ()) fun ss => ∀ p ∈ ss, Ended p := by
      refine .ite (.skip fun space => .skip fun id => ?_) ((gives_member n).bind fun first own =>
        ?_)
      · exact ih.bind fun rest inner => .pure (List.forall_mem_cons.2 ⟨ended_of_semicolon, inner⟩)
      · exact ih.bind fun rest inner => .pure (List.forall_mem_cons.2 ⟨own, inner⟩)
    exact .ite (.skip fun _ => rest) rest

theorem gives_delimited (n : Nat) : Gives (block n) fun b => b.isDelimited = true := by
  cases n with
  | zero => exact .tooDeep
  | succ n =>
    rw [block]
    exact .skip fun space => (gives_blockStatements n).bind fun statements own => .skip fun close =>
      .skip fun id => .pure (List.all_eq_true.2 own)

theorem gives_delimited_classBody (n : Nat) :
    Gives (classBody n) fun b => b.isDelimited = true := by
  cases n with
  | zero => exact .tooDeep
  | succ n =>
    rw [classBody]
    exact .skip fun space => (gives_members n).bind fun statements own => .skip fun close =>
      .skip fun id => .pure (List.all_eq_true.2 own)

end Parser

end Retouch
