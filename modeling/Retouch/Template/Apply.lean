import Retouch.Edit.Tree
import Retouch.Template.Basic

/-!
# Applying templates

The arguments take the places of the parameters in a fragment, and the fragment takes its place in a
tree (`Place`).

* An argument takes over the trivia of the parameter. It is put into parentheses where it would
  otherwise fall apart: an operator, a conditional, an assignment, a lambda or a cast that becomes a
  receiver or an operand.
* What replaces a node takes over its trivia. What is put beside a statement stands on a line of its
  own, with the indentation of its neighbour.
-/

namespace Retouch

/-- Where the result of a template goes. -/
inductive Place where
  | replace
  /-- In front of a statement, in the block around it. -/
  | before
  /-- Behind a statement, in the block around it. -/
  | after
  | firstStatement
  | lastStatement
  /-- In front of the annotations of a class or a method. -/
  | addAnnotated
deriving DecidableEq, Repr

def Place.name : Place → String
  | replace => "replace"
  | before => "before"
  | after => "after"
  | firstStatement => "first_statement"
  | lastStatement => "last_statement"
  | addAnnotated => "add_annotation"

/-- A place among the statements of a block. -/
inductive Insertion where
  | before (id : NodeId)
  | after (id : NodeId)
  | first
  | last
deriving DecidableEq, Repr

namespace Expression

/-- Its parts fall apart where it becomes an operand. -/
def isLoose : Expression → Bool
  | binary .. | ternary .. | assignment .. | lambda .. | typeCast .. | unary .. => true
  | _ => false

/-- The nodes directly inside are receivers or operands. -/
def bindsTightly : Expression → Bool
  | methodInvocation _ | fieldAccess _ | memberReference .. | binary .. | unary .. => true
  | _ => false

/-- A call has the node `id` among its arguments. -/
def hasArgument (id : NodeId) : Expression → Bool
  | methodInvocation m => m.arguments.toList.any (·.id == id)
  | _ => false

end Expression

/-- The argument needs parentheses at the end of the path. -/
def needsParentheses (path : List Node) (arg : Expression) : Bool :=
  arg.isLoose && match path with
    | .expression current :: .expression parent :: _ =>
      parent.bindsTightly && !parent.hasArgument current.id
    | _ => false

/-- Puts the arguments in place of the parameters. -/
def substitution (args : List Expression) : Editor where
  onIdentifier path n := do
    match (Placeholder.parameterIndex? n.name).bind (args[·]?) with
    | none => return none
    | some arg =>
      if needsParentheses path arg then
        return some (.parentheses (← Edit.freshId) n.leading (.tight (arg.withLeading .empty)))
      return some (arg.withLeading n.leading)

namespace Template

/-- Runs an edit of a fragment. -/
def runEdit {α : Type} (edit : Edit (Edited α)) : Templating α := do
  let (out, state) := (edit ⟨"", none⟩).run { session := ← get }
  set state.session
  return out.value

/-- The expression of the template. -/
def expression (t : Template) (args : List Expression) : Templating Expression := do
  match ← t.compile .expression args with
  | .expression e => runEdit (e.editBy (substitution args))
  | _ => throw (.unexpectedShape t.code .expression)

/-- The statements of the template. -/
def statements (t : Template) (args : List Expression) : Templating (List Statement) := do
  match ← t.compile .statements args with
  | .statements list => list.mapM fun s => runEdit (s.editBy (substitution args))
  | _ => throw (.unexpectedShape t.code .statements)

/-- The annotation of the template. -/
def annotated (t : Template) (args : List Expression) : Templating Annotation := do
  match ← t.compile .annotated args with
  | .annotated a => runEdit (a.editBy (substitution args))
  | _ => throw (.unexpectedShape t.code .annotated)

def replaceExpression (t : Template) (target : Expression) (args : List Expression) :
    Templating Expression := do
  return (← t.expression args).withLeading target.leading

def replaceStatement (t : Template) (target : Statement) (args : List Expression) :
    Templating Statement := do
  match ← t.statements args with
  | [s] => return s.withLeading target.leading
  | _ => throw (.unexpectedShape t.code .statements)

def replaceAnnotated (t : Template) (target : Annotation) (args : List Expression) :
    Templating Annotation := do
  return { ← t.annotated args with leading := target.leading }

/-- The index of a statement in a block. -/
def indexIn (b : Block) (id : NodeId) : Templating Nat :=
  match b.statements.findIdx? (·.element.id == id) with
  | some index => return index
  | none => throw .detachedStatement

/-- The trivia for a statement beside another one, or alone in its block. -/
def leadingBeside (b : Block) (neighbour : Option (Padded Statement)) : Space :=
  match neighbour with
  | some s => s.element.leading.onOwnLine
  | none => ⟨"\n" ++ b.close.indent ++ "    "⟩

/-- Puts the statements of the template into a block. -/
def insert (t : Template) (b : Block) (spot : Insertion) (args : List Expression) :
    Templating Block := do
  let (index, leading) ← match spot with
    | .before id => do
      let index ← indexIn b id
      pure (index, leadingBeside b b.statements[index]?)
    | .after id => do
      let index ← indexIn b id
      pure (index + 1, leadingBeside b b.statements[index]?)
    | .first => pure (0, leadingBeside b b.statements.head?)
    | .last => pure (b.statements.length, leadingBeside b b.statements.getLast?)
  let inserted := (← t.statements args).map fun s => Padded.tight (s.withLeading leading)
  return { b with statements := b.statements.take index ++ inserted ++ b.statements.drop index }

/-- Puts the annotation of the template in front of a class; what came first moves to the next line. -/
def annotateClass (t : Template) (c : ClassDeclaration) (args : List Expression) :
    Templating ClassDeclaration := do
  let a := { ← t.annotated args with leading := .empty }
  let line := c.leading.onOwnLine
  match c.annotations, c.modifiers with
  | first :: rest, _ => return { c with annotations := a :: { first with leading := line } :: rest }
  | [], m :: ms => return { c with annotations := [a], modifiers := { m with leading := line } :: ms }
  | [], [] => return { c with annotations := [a], keywordLeading := line }

/-- Puts the annotation of the template in front of a method; what came first moves to the next
line. -/
def annotateMethod (t : Template) (m : MethodDeclaration) (args : List Expression) :
    Templating MethodDeclaration := do
  let a := { ← t.annotated args with leading := .empty }
  let line := m.leading.onOwnLine
  match m.annotations, m.modifiers, m.returnType with
  | first :: rest, _, _ =>
    return { m with annotations := a :: { first with leading := line } :: rest }
  | [], first :: rest, _ =>
    return { m with annotations := [a], modifiers := { first with leading := line } :: rest }
  | [], [], some type =>
    return { m with annotations := [a], returnType := some (type.withLeading line) }
  | [], [], none => return { m with annotations := [a], name := { m.name with leading := line } }

/-- The innermost block on the path that holds the statement. -/
def blockOf? (path : List Node) (id : NodeId) : Option Block :=
  path.findSome? fun n => n.block?.filter fun b => b.statements.any (·.element.id == id)

/-- Puts the statements of the template beside a statement; the result is the block. -/
def insertBeside (t : Template) (path : List Node) (s : Statement)
    (spot : NodeId → Insertion) (args : List Expression) : Templating Node := do
  match blockOf? path s.id with
  | some b => return .block (← t.insert b (spot s.id) args)
  | none => throw .detachedStatement

/-- Applies the template at a node at the end of a path: the result is what takes the place of the
node, or of the block around it. -/
def applyAt (t : Template) (path : List Node) (target : Node) (place : Place)
    (args : List Expression) : Templating Node :=
  match place, target with
  | .replace, .expression e => return .expression (← t.replaceExpression e args)
  | .replace, .statement s => return .statement (← t.replaceStatement s args)
  | .replace, .annotationUse a => return .annotationUse (← t.replaceAnnotated a args)
  | .before, .statement s => t.insertBeside path s .before args
  | .after, .statement s => t.insertBeside path s .after args
  | .firstStatement, .block b => return .block (← t.insert b .first args)
  | .lastStatement, .block b => return .block (← t.insert b .last args)
  | .firstStatement, .statement (.block b) =>
    return .statement (.block (← t.insert b .first args))
  | .lastStatement, .statement (.block b) => return .statement (.block (← t.insert b .last args))
  | .addAnnotated, .classDeclaration c => return .classDeclaration (← t.annotateClass c args)
  | .addAnnotated, .statement (.classDeclaration c) =>
    return .statement (.classDeclaration (← t.annotateClass c args))
  | .addAnnotated, .method m => return .method (← t.annotateMethod m args)
  | .addAnnotated, .statement (.method m) =>
    return .statement (.method (← t.annotateMethod m args))
  | _, _ => throw (.unsupportedPlace place.name target.kind)

end Template

end Retouch
