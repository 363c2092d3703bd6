import Retouch.Tree.Walk

/-!
# The nodes of a walk

A walk enters nodes one beside the other (`Walks`). So the nodes that it stops at below a node do
not depend on the way down to it. The calls of a unit are those of its classes, whatever stands
beside them (`invocations_unit`).
-/

namespace Retouch

/-- The stops are those of nodes that are entered one beside the other, each with the stops below
it. -/
inductive Walks : (List Node → List Visit) → Prop
  | nil : Walks fun _ => []
  | append {f g : List Node → List Visit} : Walks f → Walks g → Walks fun p => f p ++ g p
  | enter {n : Node} : Walks n.inside → Walks fun p => Visit.enter n p n.inside
  /-- A statement stops again as what it is. -/
  | again {n : Node} : Walks n.inside → Walks fun p => ⟨n, p⟩ :: n.inside p

namespace Walks

variable {f : List Node → List Visit}

/-- The nodes of the stops are the same under every path. -/
theorem pathFree (h : Walks f) (p q : List Node) : (f p).map Visit.node = (f q).map Visit.node := by
  induction h generalizing p q with
  | nil => rfl
  | append _ _ hf hg => simp only [List.map_append, hf p q, hg p q]
  | @enter n _ h => simp only [Visit.enter, List.map_cons, h (n :: p) (n :: q)]
  | again _ h => simp only [List.map_cons, h p q]

end Walks

/-- The nodes of the stops pass the test. -/
def StopsPass (test : Node → Prop) (vs : List Visit) : Prop := ∀ v ∈ vs, test v.node

namespace StopsPass

variable {test : Node → Prop} {vs ws : List Visit} {v : Visit}

theorem left (h : StopsPass test (vs ++ ws)) : StopsPass test vs := (List.forall_mem_append.1 h).1

theorem right (h : StopsPass test (vs ++ ws)) : StopsPass test ws := (List.forall_mem_append.1 h).2

theorem here (h : StopsPass test (v :: vs)) : test v.node := (List.forall_mem_cons.1 h).1

theorem below (h : StopsPass test (v :: vs)) : StopsPass test vs := (List.forall_mem_cons.1 h).2

end StopsPass

/-- The nodes of the stops pass the test, whatever the path. -/
def AllPass (test : Node → Prop) (f : List Node → List Visit) : Prop := ∀ p, StopsPass test (f p)

namespace AllPass

variable {test : Node → Prop} {f g : List Node → List Visit} {n : Node}

theorem nil : AllPass test fun _ => [] := fun _ _ mem => nomatch mem

theorem append (hf : AllPass test f) (hg : AllPass test g) : AllPass test fun p => f p ++ g p :=
  fun p => List.forall_mem_append.2 ⟨hf p, hg p⟩

theorem again (h : test n) (hf : AllPass test f) : AllPass test fun p => ⟨n, p⟩ :: f p :=
  fun p => List.forall_mem_cons.2 ⟨h, hf p⟩

theorem enter (h : test n) (hf : AllPass test f) : AllPass test fun p => Visit.enter n p f :=
  fun p => List.forall_mem_cons.2 ⟨h, hf (n :: p)⟩

end AllPass

mutual

theorem walks_expression (e : Expression) : Walks e.inside := by
  match e with
  | .identifier _ | .literal _ => exact .nil
  | .fieldAccess n => exact walks_fieldAccess n
  | .methodInvocation n => exact walks_call n
  | .newClass _ _ clazz arguments body _ =>
    exact .append (.append (.enter (walks_type clazz)) (walks_exprs arguments))
      (walks_block? body)
  | .newArray _ _ elementType dimensions initializer _ =>
    exact .append (.append (walks_type? elementType) (walks_dimensions dimensions))
      (walks_exprs? initializer)
  | .lambda _ _ _ parameters _ body _ =>
    exact .append (walks_parameters parameters) (walks_lambdaBody body)
  | .memberReference _ _ containing _ _ _ => exact .enter (walks_expression containing)
  | .binary _ _ left _ _ right _ =>
    exact .append (.enter (walks_expression left)) (.enter (walks_expression right))
  | .unary _ _ _ _ operand _ => exact .enter (walks_expression operand)
  | .assignment _ _ target _ _ value _ =>
    exact .append (.enter (walks_expression target)) (.enter (walks_expression value))
  | .ternary _ _ condition ⟨_, whenTrue⟩ ⟨_, whenFalse⟩ _ =>
    exact .append (.append (.enter (walks_expression condition)) (.enter
      (walks_expression whenTrue))) (.enter (walks_expression whenFalse))
  | .parentheses _ _ ⟨tree, _⟩ => exact .enter (walks_expression tree)
  | .arrayAccess _ _ indexed dimension _ =>
    exact .append (.enter (walks_expression indexed)) (walks_dimension dimension)
  | .typeCast _ _ ⟨clazz, _⟩ operand _ =>
    exact .append (.enter (walks_type clazz)) (.enter (walks_expression operand))

theorem walks_fieldAccess (n : FieldAccess) : Walks n.inside := by
  match n with
  | ⟨_, _, target, _, _, _⟩ => exact .enter (walks_expression target)

theorem walks_call (n : MethodInvocation) : Walks n.inside := by
  match n with
  | ⟨_, _, select, _, arguments, _⟩ =>
    exact .append (walks_select select) (walks_exprs arguments)

theorem walks_select (x : Option (Padded Expression)) : Walks (insideSelect x) := by
  match x with
  | none => exact .nil
  | some ⟨e, _⟩ => exact .enter (walks_expression e)

theorem walks_exprList (xs : List (Padded Expression)) : Walks (insideExprList xs) := by
  match xs with
  | [] => exact .nil
  | ⟨e, _⟩ :: es => exact .append (.enter (walks_expression e)) (walks_exprList es)

theorem walks_exprs (c : Container Expression) : Walks (insideExprs c) := by
  match c with
  | ⟨_, elements, _⟩ => exact walks_exprList elements

theorem walks_exprs? (x : Option (Container Expression)) : Walks (insideExprs? x) := by
  match x with
  | none => exact .nil
  | some c => exact walks_exprs c

theorem walks_expr? (x : Option Expression) : Walks (insideExpr? x) := by
  match x with
  | none => exact .nil
  | some e => exact .enter (walks_expression e)

theorem walks_dimension (d : ArrayDimension) : Walks d.inside := by
  match d with
  | ⟨_, index, _⟩ => exact walks_expr? index

theorem walks_dimensions (xs : List ArrayDimension) : Walks (insideDimensions xs) := by
  match xs with
  | [] => exact .nil
  | d :: ds => exact .append (walks_dimension d) (walks_dimensions ds)

theorem walks_lambdaBody (b : LambdaBody) : Walks b.inside := by
  match b with
  | .expression e => exact .enter (walks_expression e)
  | .block b => exact .enter (walks_block b)

theorem walks_type? (x : Option TypeTree) : Walks (insideType? x) := by
  match x with
  | none => exact .nil
  | some t => exact .enter (walks_type t)

theorem walks_type (t : TypeTree) : Walks t.inside := by
  match t with
  | .named e => exact .enter (walks_expression e)
  | .primitive .. => exact .nil
  | .parameterized _ _ clazz arguments _ =>
    exact .append (.enter (walks_expression clazz)) (walks_types arguments)
  | .array _ _ element _ _ _ => exact .enter (walks_type element)
  | .wildcard _ _ _ bounded => exact walks_type? bounded

theorem walks_typeList (xs : List (Padded TypeTree)) : Walks (insideTypeList xs) := by
  match xs with
  | [] => exact .nil
  | ⟨t, _⟩ :: ts => exact .append (.enter (walks_type t)) (walks_typeList ts)

theorem walks_types (c : Container TypeTree) : Walks (insideTypes c) := by
  match c with
  | ⟨_, elements, _⟩ => exact walks_typeList elements

theorem walks_types? (x : Option (Container TypeTree)) : Walks (insideTypes? x) := by
  match x with
  | none => exact .nil
  | some c => exact walks_types c

theorem walks_parameterList (xs : List (Padded VariableDeclarations)) :
    Walks (insideParameterList xs) := by
  match xs with
  | [] => exact .nil
  | ⟨v, _⟩ :: vs => exact .append (.enter (walks_declaration v)) (walks_parameterList vs)

theorem walks_parameters (c : Container VariableDeclarations) :
    Walks (insideParameters c) := by
  match c with
  | ⟨_, elements, _⟩ => exact walks_parameterList elements

theorem walks_declaration (v : VariableDeclarations) : Walks v.inside := by
  match v with
  | ⟨_, _, annotations, _, declaredType, _, declarators⟩ =>
    exact .append (.append (walks_annotations annotations) (walks_type? declaredType))
      (walks_variables declarators)

theorem walks_variable (v : NamedVariable) : Walks v.inside := by
  match v with
  | ⟨_, _, _, initializer, _⟩ => exact walks_init initializer

theorem walks_init (x : Option (LeftPadded Expression)) : Walks (insideInit x) := by
  match x with
  | none => exact .nil
  | some ⟨_, e⟩ => exact .enter (walks_expression e)

theorem walks_variables (xs : List (Padded NamedVariable)) : Walks (insideVariables xs) := by
  match xs with
  | [] => exact .nil
  | ⟨v, _⟩ :: vs => exact .append (walks_variable v) (walks_variables vs)

theorem walks_annotated (a : Annotation) : Walks a.inside := by
  match a with
  | ⟨_, _, name, arguments⟩ =>
    exact .append (.enter (walks_expression name)) (walks_exprs? arguments)

theorem walks_annotations (xs : List Annotation) : Walks (insideAnnotations xs) := by
  match xs with
  | [] => exact .nil
  | a :: as => exact .append (.enter (walks_annotated a)) (walks_annotations as)

theorem walks_block (b : Block) : Walks b.inside := by
  match b with
  | ⟨_, _, statements, _⟩ => exact walks_statements statements

theorem walks_block? (x : Option Block) : Walks (insideBlock? x) := by
  match x with
  | none => exact .nil
  | some b => exact .enter (walks_block b)

theorem walks_statements (xs : List (Padded Statement)) : Walks (insideStatements xs) := by
  match xs with
  | [] => exact .nil
  | ⟨s, _⟩ :: ss => exact .append (.enter (walks_statement s)) (walks_statements ss)

theorem walks_resources? (x : Option TryResources) : Walks (insideResources? x) := by
  match x with
  | none => exact .nil
  | some ⟨_, resources, _, _⟩ => exact walks_statements resources

theorem walks_class (c : ClassDeclaration) : Walks c.inside := by
  match c with
  | ⟨_, _, annotations, _, _, _, _, superclass, interfaces, body, _⟩ =>
    exact .append (.append (.append (walks_annotations annotations)
      (walks_super superclass)) (walks_types? interfaces)) (.enter (walks_block body))

theorem walks_super (x : Option (LeftPadded TypeTree)) : Walks (insideSuper x) := by
  match x with
  | none => exact .nil
  | some ⟨_, t⟩ => exact .enter (walks_type t)

theorem walks_method (m : MethodDeclaration) : Walks m.inside := by
  match m with
  | ⟨_, _, annotations, _, returnType, _, parameters, throwing, body, _⟩ =>
    exact .append (.append (.append (.append (walks_annotations annotations)
      (walks_type? returnType)) (walks_parameters parameters)) (walks_types? throwing))
      (walks_block? body)

theorem walks_parenthesized (x : Parenthesized) : Walks x.inside := by
  match x with
  | ⟨_, tree, _⟩ => exact .enter (walks_expression tree)

theorem walks_cases (xs : List Case) : Walks (insideCases xs) := by
  match xs with
  | [] => exact .nil
  | ⟨_, _, labels, _, body⟩ :: cs =>
    exact .append (.append (walks_exprList labels) (walks_caseBody body)) (walks_cases cs)

theorem walks_caseBody (b : CaseBody) : Walks b.inside := by
  match b with
  | .statements list => exact walks_statements list
  | .rule ⟨s, _⟩ => exact .enter (walks_statement s)

theorem walks_catches (xs : List Catch) : Walks (insideCatches xs) := by
  match xs with
  | [] => exact .nil
  | ⟨_, _, _, ⟨parameter, _⟩, body⟩ :: cs =>
    exact .append (.append (.enter (walks_declaration parameter)) (.enter
      (walks_block body))) (walks_catches cs)

theorem walks_else (x : Option Else) : Walks (insideElse x) := by
  match x with
  | none => exact .nil
  | some ⟨_, _, ⟨s, _⟩⟩ => exact .enter (walks_statement s)

theorem walks_finally (x : Option (LeftPadded Block)) : Walks (insideFinally x) := by
  match x with
  | none => exact .nil
  | some ⟨_, b⟩ => exact .enter (walks_block b)

theorem walks_statement? (x : Option Statement) : Walks (insideStatement? x) := by
  match x with
  | none => exact .nil
  | some s => exact .enter (walks_statement s)

theorem walks_statement (s : Statement) : Walks s.inside := by
  match s with
  | .expression e => exact .enter (walks_expression e)
  | .declaration n => exact .again (walks_declaration n)
  | .block n => exact .again (walks_block n)
  | .classDeclaration n => exact .again (walks_class n)
  | .method n => exact .again (walks_method n)
  | .returns _ _ value => exact walks_expr? value
  | .throws _ _ exception => exact .enter (walks_expression exception)
  | .empty .. | .breaks .. | .continues .. => exact .nil
  | .conditional _ _ condition ⟨whenTrue, _⟩ whenFalse =>
    exact .append (.append (walks_parenthesized condition) (.enter
      (walks_statement whenTrue))) (walks_else whenFalse)
  | .whileLoop _ _ condition ⟨body, _⟩ =>
    exact .append (walks_parenthesized condition) (.enter (walks_statement body))
  | .forLoop _ _ _ init _ condition _ update _ ⟨body, _⟩ =>
    exact .append (.append (.append (walks_statement? init) (walks_expr? condition))
      (walks_exprList update)) (.enter (walks_statement body))
  | .forEach _ _ _ ⟨binder, _⟩ ⟨iterable, _⟩ ⟨body, _⟩ =>
    exact .append (.append (.enter (walks_declaration binder)) (.enter
      (walks_expression iterable))) (.enter (walks_statement body))
  | .tryBlock _ _ resources body catches finalizer =>
    exact .append (.append (.append (walks_resources? resources) (.enter
      (walks_block body))) (walks_catches catches)) (walks_finally finalizer)
  | .doWhile _ _ ⟨body, _⟩ _ condition =>
    exact .append (.enter (walks_statement body)) (walks_parenthesized condition)
  | .switch _ _ selector _ cases _ =>
    exact .append (walks_parenthesized selector) (walks_cases cases)

end

/-- The calls in a class, a call before the calls in its receiver and its arguments. -/
def ClassDeclaration.invocations (c : ClassDeclaration) : List MethodInvocation :=
  (c.inside []).filterMap Visit.invocation?

theorem ClassDeclaration.filterMap_invocation? (c : ClassDeclaration) (p : List Node) :
    (c.inside p).filterMap Visit.invocation? = c.invocations := by
  have factors (vs : List Visit) : vs.filterMap Visit.invocation? =
      (vs.map Visit.node).filterMap fun n => Visit.invocation? ⟨n, []⟩ := by
    rw [List.filterMap_map]
    rfl
  rw [invocations, factors, (walks_class c).pathFree p [], ← factors]

theorem invocations_unit (u : CompilationUnit) :
    (Node.unit u).invocations = u.classes.flatMap ClassDeclaration.invocations := by
  have imports : (u.imports.flatMap fun i => Visit.enter (.importDeclaration i.element) [.unit u]
      fun _ => []).filterMap Visit.invocation? = [] := by
    rw [List.filterMap_eq_nil_iff]
    rintro v mem
    obtain ⟨i, -, there⟩ := List.mem_flatMap.1 mem
    obtain rfl := List.mem_singleton.1 there
    rfl
  have classes (cs : List ClassDeclaration) : (cs.flatMap fun c =>
      Visit.enter (.classDeclaration c) [.unit u] c.inside).filterMap Visit.invocation? =
      cs.flatMap ClassDeclaration.invocations := by
    induction cs with
    | nil => rfl
    | cons c cs ih =>
      rw [List.flatMap_cons, List.filterMap_append, ih, List.flatMap_cons]
      congr 1
      exact c.filterMap_invocation? _
  change ((Visit.mk _ _) :: (_ ++ _)).filterMap Visit.invocation? = _
  rw [List.filterMap_cons_none rfl, List.filterMap_append, imports, classes]
  rfl

end Retouch
