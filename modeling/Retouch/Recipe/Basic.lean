import Retouch.Edit.Tree
import Retouch.Import.Order
import Retouch.Recipe.Option
import Retouch.Search

/-!
# Recipes

A recipe edits units, groups other recipes, or both. It is gated by its precondition. Behind its own
walk through a unit the imports that it asked for are put in order, even if the walk changed nothing;
then the recipes that it groups run, one behind the other.
-/

namespace Retouch

structure Recipe where
  descriptor : RecipeDescriptor
  precondition : Option Precondition
  editor : Option Editor
  children : List Recipe

def Recipe.id (r : Recipe) : String := r.descriptor.id

/-- How far a recipe got on a unit. -/
inductive UnitState where
  /-- The precondition turned the unit away. -/
  | skipped
  /-- There was nothing to do. -/
  | enabled
  | done
deriving DecidableEq, Repr

def UnitState.name : UnitState → String
  | skipped => "Skipped"
  | enabled => "Enabled"
  | done => "Done"

/-- A unit behind a recipe. -/
structure Applied where
  unit : Edited CompilationUnit
  state : UnitState

/-- What running needs: it may fail, and it shares a session. -/
abbrev Running := ExceptT EditError (StateM Session)

/-- Carries an editor through a unit and meets the requests for imports. -/
def Editor.run (editor : Editor) (recipe : String) (u : CompilationUnit) :
    Running (Edited CompilationUnit) := do
  let (out, state) := (u.editBy editor ⟨recipe, some u⟩).run { session := ← get }
  set state.session
  if let some e := state.failure then throw e
  if state.session.cancelled then throw .cancelled
  if state.requests.isEmpty then return out
  let (ordered, nextId) ←
    (out.value.meetRequests state.requests state.session.nextId :
      Except EditError (Edited CompilationUnit × NodeId))
  modify fun s => { s with nextId }
  return ⟨ordered.value, out.touched ++ ordered.touched⟩

mutual

/-- Runs a recipe on a unit. -/
def Recipe.apply : Recipe → CompilationUnit → Running Applied
  | ⟨descriptor, precondition, editor, children⟩, u => do
    if (← get).cancelled then throw .cancelled
    if let some p := precondition then
      if !p.isOpen (← get) u then return ⟨.same u, .skipped⟩
    let edited ← match editor with
      | some editor => editor.run descriptor.id u
      | none => pure (.same u)
    let edited ← applyAll children edited
    return ⟨edited, if editor.isSome || !children.isEmpty then .done else .enabled⟩

/-- Runs recipes one behind the other. -/
def applyAll : List Recipe → Edited CompilationUnit → Running (Edited CompilationUnit)
  | [], edited => return edited
  | r :: rs, edited => do
    let applied ← r.apply edited.value
    applyAll rs ⟨applied.unit.value, edited.touched ++ applied.unit.touched⟩

end

end Retouch
