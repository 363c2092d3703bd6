import Retouch.Edit.Tree
import Retouch.Proofs.Tree.Text

/-!
# What an edit makes of a layout

`Rewrites seen ok rs l l'` says that the layout `l'` comes from `l` by the replacements `rs`, from
left to right and inner ones first; everything beside them is the same, piece for piece.

* `ok` tells which replacements there can be, and `seen` which calls stand in the tree.
* A replaced call is looked at behind the edit of its receiver and its arguments
  (`MethodInvocation.withParts`), each of which is rewritten on its own (`RewritesEach`).
-/

namespace Retouch

/-- What an editor put in place of a node. Calls and classes stand here as the editor saw them,
behind the edit of their parts. -/
inductive Replacement where
  | identifier (n : Identifier) (e : Expression)
  | literal (n : Literal) (e : Expression)
  | call (m : MethodInvocation) (e : Expression)
  | clazz (c c' : ClassDeclaration)

/-- The new node is of the kind of the old one. -/
def Replacement.KeepsKind : Replacement → Prop
  | identifier n e => e.kind = (Expression.identifier n).kind
  | literal n e => e.kind = (Expression.literal n).kind
  | call m e => e.kind = (Expression.methodInvocation m).kind
  | clazz _ _ => True

/-- The call with another receiver and other arguments between its old delimiters. -/
def MethodInvocation.withParts (m : MethodInvocation) (select : Option (Padded Expression))
    (elements : List (Padded Expression)) : MethodInvocation :=
  { m with select, arguments := { m.arguments with elements } }

mutual

inductive Rewrites (seen : MethodInvocation → Prop) (ok : Replacement → Prop) :
    List Replacement → Layout → Layout → Prop
  | same (l : Layout) : Rewrites seen ok [] l l
  | beside {rs rs' : List Replacement} {a a' b b' : Layout} :
      Rewrites seen ok rs a a' → Rewrites seen ok rs' b b' →
      Rewrites seen ok (rs ++ rs') (a ++ b) (a' ++ b')
  | identifier {n : Identifier} {e : Expression} : ok (.identifier n e) →
      Rewrites seen ok [.identifier n e] n.layout e.layout
  | literal {n : Literal} {e : Expression} : ok (.literal n e) →
      Rewrites seen ok [.literal n e] n.layout e.layout
  | call {m : MethodInvocation} {select : Option (Padded Expression)}
      {elements : List (Padded Expression)} {e : Expression} {rs rs' : List Replacement} :
      seen m → RewritesEach seen ok rs m.select.toList select.toList →
      RewritesEach seen ok rs' m.arguments.elements elements →
      ok (.call (m.withParts select elements) e) →
      Rewrites seen ok (rs ++ rs' ++ [.call (m.withParts select elements) e]) m.layout e.layout
  | clazz {c c' d : ClassDeclaration} {rs : List Replacement} :
      Rewrites seen ok rs c.layout c'.layout → ok (.clazz c' d) →
      Rewrites seen ok (rs ++ [.clazz c' d]) c.layout d.layout

/-- The expressions of a list are rewritten one by one and keep the trivia behind them. -/
inductive RewritesEach (seen : MethodInvocation → Prop) (ok : Replacement → Prop) :
    List Replacement → List (Padded Expression) → List (Padded Expression) → Prop
  | nil : RewritesEach seen ok [] [] []
  | cons {e e' : Expression} {after : Space} {ps ps' : List (Padded Expression)}
      {rs rs' : List Replacement} :
      Rewrites seen ok rs e.layout e'.layout → RewritesEach seen ok rs' ps ps' →
      RewritesEach seen ok (rs ++ rs') (⟨e, after⟩ :: ps) (⟨e', after⟩ :: ps')

end

/-! ## Relations that go through layouts -/

section Through

variable {ι α : Type} {R : List ι → Layout → Layout → Prop} {view : α → Layout}

/-- A relation between layouts that goes through layouts side by side, with a list of what happened
on the way. -/
class Compatible (R : List ι → Layout → Layout → Prop) : Prop where
  same : ∀ l, R [] l l
  beside : ∀ {is is' a a' b b'}, R is a a' → R is' b b' → R (is ++ is') (a ++ b) (a' ++ b')

namespace Compatible

variable [Compatible R] {is : List ι} {l l' : Layout}

theorem left {b : Layout} (h : R is l l') : R is (l ++ b) (l' ++ b) := by
  simpa using beside h (same (R := R) b)

theorem right {a : Layout} (h : R is l l') : R is (a ++ l) (a ++ l') := by
  have both : R ([] ++ is) (a ++ l) (a ++ l') := beside (same a) h
  exact both

theorem node {id : NodeId} {leading : Space} (h : R is l l') :
    R is (Retouch.node id leading l) (Retouch.node id leading l') :=
  left (right h)

end Compatible

open Compatible

/-- The relation holds of the layouts of two parts. -/
def Alters (R : List ι → Layout → Layout → Prop) (view : α → Layout) (is : List ι) (a a' : α) :
    Prop :=
  R is (view a) (view a')

/-- The relation holds of the layouts of two statements, and the second takes a semicolon as the
first. -/
def AltersStatement (R : List ι → Layout → Layout → Prop) (is : List ι) (s s' : Statement) : Prop :=
  R is s.layout s'.layout ∧ s'.needsSemicolon = s.needsSemicolon

theorem AltersStatement.ended [Compatible R] {s s' : Statement} {after : Space} {is : List ι}
    (h : AltersStatement R is s s') :
    R is (s.layout ++ layoutEnd s.needsSemicolon after)
      (s'.layout ++ layoutEnd s'.needsSemicolon after) := by
  rw [h.2]
  exact left h.1

/-- A statement behind something else. -/
theorem AltersStatement.behind [Compatible R] {s s' : Statement} {after : Space} {a a' : Layout}
    {is is' : List ι} (h : AltersStatement R is' s s') (front : R is a a') :
    R (is ++ is') (a ++ s.layout ++ layoutEnd s.needsSemicolon after)
      (a' ++ s'.layout ++ layoutEnd s'.needsSemicolon after) := by
  rw [h.2]
  exact left (beside front h.1)

/-- The elements of a list, one by one. -/
inductive All (S : List ι → α → α → Prop) : List ι → List (Padded α) → List (Padded α) → Prop
  | nil : All S [] [] []
  | cons {a a' : α} {after : Space} {ps ps' : List (Padded α)} {is is' : List ι} :
      S is a a' → All S is' ps ps' → All S (is ++ is') (⟨a, after⟩ :: ps) (⟨a', after⟩ :: ps')

/-- The elements of a list between delimiters. -/
inductive Within (S : List ι → α → α → Prop) : List ι → Container α → Container α → Prop
  | mk {before close : Space} {ps ps' : List (Padded α)} {is : List ι} :
      All S is ps ps' → Within S is ⟨before, ps, close⟩ ⟨before, ps', close⟩

namespace All

variable {is : List ι}

theorem isEmpty_eq {S : List ι → α → α → Prop} {ps ps' : List (Padded α)} (h : All S is ps ps') :
    ps'.isEmpty = ps.isEmpty := by
  cases h <;> rfl

theorem mono {S T : List ι → α → α → Prop} {ps ps' : List (Padded α)} (h : All S is ps ps')
    (weaken : ∀ is a a', S is a a' → T is a a') : All T is ps ps' := by
  induction h with
  | nil => exact .nil
  | cons head _ ih => exact .cons (weaken _ _ _ head) ih

variable [Compatible R]

theorem separate {ps ps' : List (Padded α)} (h : All (Alters R view) is ps ps') :
    R is (.separate view ps) (.separate view ps') := by
  induction h with
  | nil => exact same _
  | cons head tail ih =>
    cases tail with
    | nil =>
      rw [List.append_nil]
      exact left head
    | cons => exact beside (left (left head)) ih

theorem declarators {ps ps' : List (Padded NamedVariable)}
    (h : All (Alters R NamedVariable.layout) is ps ps') :
    R is (layoutVariables ps) (layoutVariables ps') := by
  rw [layoutVariables_eq, layoutVariables_eq]
  exact h.separate

theorem exprs {ps ps' : List (Padded Expression)} (h : All (Alters R Expression.layout) is ps ps') :
    R is (layoutExprList ps) (layoutExprList ps') := by
  rw [layoutExprList_eq, layoutExprList_eq]
  exact h.separate

theorem bareParameters {ps ps' : List (Padded VariableDeclarations)}
    (h : All (Alters R VariableDeclarations.layout) is ps ps') :
    R is (layoutBareParameters ps) (layoutBareParameters ps') := by
  induction h with
  | nil => exact same _
  | cons head _ ih => exact beside (left head) ih

theorem statements {ps ps' : List (Padded Statement)} (h : All (AltersStatement R) is ps ps') :
    R is (layoutStatements ps) (layoutStatements ps') := by
  induction h with
  | nil => exact same _
  | cons head _ ih => exact beside head.ended ih

theorem resources {terminated : Bool} {ps ps' : List (Padded Statement)}
    (h : All (AltersStatement R) is ps ps') :
    R is (layoutResources terminated ps) (layoutResources terminated ps') := by
  induction h with
  | nil => exact same _
  | cons head tail ih =>
    cases tail with
    | nil =>
      rw [List.append_nil]
      exact left head.1
    | cons => exact beside (left head.1) ih

end All

namespace Within

variable [Compatible R] {is : List ι} {opening closing : String}

theorem exprs {c c' : Container Expression} (h : Within (Alters R Expression.layout) is c c') :
    R is (layoutExprs opening closing c) (layoutExprs opening closing c') := by
  cases h with
  | mk all =>
    rw [layoutExprs, layoutExprs]
    exact left (left (right all.exprs))

theorem types {c c' : Container TypeTree} (h : Within (Alters R TypeTree.layout) is c c') :
    R is (layoutTypes opening closing c) (layoutTypes opening closing c') := by
  cases h with
  | mk all =>
    rw [layoutTypes, layoutTypes, layoutTypeList_eq, layoutTypeList_eq]
    exact left (left (right all.separate))

theorem parameters {c c' : Container VariableDeclarations}
    (h : Within (Alters R VariableDeclarations.layout) is c c') :
    R is (layoutParameters opening closing c) (layoutParameters opening closing c') := by
  cases h with
  | mk all =>
    rw [layoutParameters, layoutParameters, layoutParameterList_eq, layoutParameterList_eq]
    exact left (left (right all.separate))

end Within

end Through

/-! ## Rewritten layouts -/

section Rewriting

variable {seen : MethodInvocation → Prop} {ok : Replacement → Prop} {rs : List Replacement}

instance : Compatible (Rewrites seen ok) := ⟨.same, .beside⟩

namespace Rewrites

variable {l l' : Layout}

theorem left {b : Layout} (h : Rewrites seen ok rs l l') : Rewrites seen ok rs (l ++ b) (l' ++ b) :=
  Compatible.left h

theorem right {a : Layout} (h : Rewrites seen ok rs l l') :
    Rewrites seen ok rs (a ++ l) (a ++ l') :=
  Compatible.right h

theorem node {id : NodeId} {leading : Space} (h : Rewrites seen ok rs l l') :
    Rewrites seen ok rs (node id leading l) (node id leading l') :=
  Compatible.node h

end Rewrites

theorem RewritesEach.select {s s' : Option (Padded Expression)}
    (h : RewritesEach seen ok rs s.toList s'.toList) :
    Rewrites seen ok rs (layoutSelect s) (layoutSelect s') := by
  match s, s' with
  | none, none =>
    cases h
    exact .same _
  | some ⟨e, after⟩, some ⟨e', after'⟩ =>
    cases h with
    | cons head tail =>
      cases tail
      rw [List.append_nil]
      exact head.left.left
  | none, some _ | some _, none => cases h

theorem All.each {ps ps' : List (Padded Expression)}
    (h : All (Alters (Rewrites seen ok) Expression.layout) rs ps ps') :
    RewritesEach seen ok rs ps ps' := by
  induction h with
  | nil => exact .nil
  | cons head _ ih => exact .cons head ih

/-- The classes of a unit, one by one. -/
inductive RewritesClasses (seen : MethodInvocation → Prop) (ok : Replacement → Prop) :
    List Replacement → List ClassDeclaration → List ClassDeclaration → Prop
  | nil : RewritesClasses seen ok [] [] []
  | cons {c c' : ClassDeclaration} {cs cs' : List ClassDeclaration} {rs rs' : List Replacement} :
      Rewrites seen ok rs c.layout c'.layout → RewritesClasses seen ok rs' cs cs' →
      RewritesClasses seen ok (rs ++ rs') (c :: cs) (c' :: cs')

theorem RewritesClasses.refl (cs : List ClassDeclaration) : RewritesClasses seen ok [] cs cs := by
  induction cs with
  | nil => exact .nil
  | cons c cs ih => exact .cons (.same c.layout) ih

end Rewriting

end Retouch
