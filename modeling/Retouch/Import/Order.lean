import Retouch.Edit.Basic
import Retouch.Import.References

/-!
# The list of imports

Meets the requests on a unit: first everything that is to be added, then everything that is to be
removed, so that a removal sees the imports added with it.

* An import is added unless it is visible anyway or another import covers it. It goes behind the
  imports of its group (static or not) that come before it by name; a new group of static imports goes
  behind the others, a new group of others in front.
* An import is removed only if nothing in the unit refers to it any more.
* Blank lines between groups stay, and so do comments: a removed leader of a group hands its trivia to
  the next import, the last import to the first class.
-/

namespace Retouch

/-- The imports of a unit while they are edited. -/
structure ImportBlock where
  imports : List (Padded Import)
  package : Option String
  /-- The trivia in front of the first class, if there is one. -/
  classLeading : Option Space
  changed : Bool := false
  nextId : NodeId

/-- The name of an import: an identifier, or a chain of field accesses on one. -/
def qualifiedExpression (nextId : NodeId) : List String → Expression × NodeId
  | [] => (.identifier ⟨nextId, .empty, "", .unknown, none⟩, nextId + 1)
  | first :: rest =>
    rest.foldl (fun (target, id) segment =>
      (.fieldAccess ⟨id, .empty, target, .empty, ⟨id + 1, .empty, segment, .unknown, none⟩,
        .unknown⟩, id + 2))
      (.identifier ⟨nextId, .empty, first, .unknown, none⟩, nextId + 1)

/-- `import name` or `import static name` with single blanks. A name of one segment becomes an import
of everything below it. -/
def importNode (name : String) (isStatic : Bool) (nextId : NodeId) : Padded Import × NodeId :=
  let (e, id) := qualifiedExpression nextId (Text.split '.' name)
  let staticLeading := if isStatic then some Space.single else none
  match e.withLeading .single with
  | .fieldAccess n => (.tight ⟨id, .empty, staticLeading, n⟩, id + 1)
  | other =>
    (.tight ⟨id, .empty, staticLeading,
      ⟨id + 1, .single, other, .empty, ⟨id + 2, .empty, "*", .unknown, none⟩, .unknown⟩⟩, id + 3)

namespace ImportBlock

/-- Types of `java.lang` and of the unit's own package need no import; a nested type does. -/
def isVisible (b : ImportBlock) (typeName : String) : Except EditError Bool :=
  let package := packageOf typeName
  if package.isEmpty then .ok false
  else if package == typeName then .error (.untypedImport typeName)
  else
    let name := (Text.dropLead? (package ++ ".") typeName).getD ""
    .ok (!name.toList.contains '.' && (package == "java.lang" || b.package == some package))

/-- An import provides what is asked for. -/
def provides (r : AddRequest) (i : Import) : Bool :=
  match r.member with
  | some member =>
    i.isStatic && i.typeName? == some r.typeName &&
      (i.member? == some member || i.member? == some "*")
  | none =>
    !i.isStatic &&
      if i.isWildcard then i.packageName == packageOf r.typeName else i.fullName == r.typeName

def covers (b : ImportBlock) (r : AddRequest) : Bool := b.imports.any (provides r ·.element)

def setLeading (b : ImportBlock) (index : Nat) (s : Space) : ImportBlock :=
  { b with imports := b.imports.modify index fun i =>
      { i with element := { i.element with leading := s } } }

/-- Where a group of imports stands that has the given flag. -/
def group (b : ImportBlock) (isStatic : Bool) : List Nat :=
  (List.range b.imports.length).filter fun i =>
    (b.imports[i]?).any (·.element.isStatic == isStatic)

/-- Where an import goes. -/
def position (b : ImportBlock) (isStatic : Bool) (name : String) : Nat :=
  let group := b.group isStatic
  match group.find? fun i => (b.imports[i]?).any (name < ·.element.fullName) with
  | some i => i
  | none =>
    match group.getLast? with
    | some i => i + 1
    | none =>
      if isStatic then b.imports.length
      else (b.imports.findIdx? (·.element.isStatic)).getD b.imports.length

/-- The trivia for the first import of a unit without imports. Without a package it takes over that of
the first class, which moves down behind a blank line. -/
def leadingOfFirst (b : ImportBlock) : Space × ImportBlock :=
  let classLeading := b.classLeading.getD .empty
  if b.package.isSome then
    (⟨"\n\n"⟩, if classLeading.hasBlankLine then b
      else { b with classLeading := some ⟨"\n" ++ classLeading.text⟩ })
  else (classLeading, { b with classLeading := some ⟨"\n\n"⟩ })

/-- The trivia for a new import at a position, and the block with that of its neighbours adjusted: a
new leader of a group takes over the trivia of the old one, which moves down. -/
def leadingAt (b : ImportBlock) (isStatic : Bool) (position : Nat) : Space × ImportBlock :=
  let group := b.group isStatic
  if b.imports.isEmpty then b.leadingOfFirst
  else if group.head? == some position || (group.isEmpty && position < b.imports.length) then
    let displaced := ((b.imports[position]?).map (·.element.leading)).getD .empty
    (displaced, b.setLeading position ⟨if group.isEmpty then "\n\n" else "\n"⟩)
  else (⟨if group.isEmpty then "\n\n" else "\n"⟩, b)

def insert (b : ImportBlock) (node : Padded Import) : ImportBlock :=
  let isStatic := node.element.isStatic
  let position := b.position isStatic node.element.fullName
  let (leading, b) := b.leadingAt isStatic position
  let node := { node with element := { node.element with leading } }
  { b with imports := b.imports.insertIdx position node, changed := true }

/-- Adds an import unless it is visible, covered, or to be added only if it is referred to. -/
def add (refs : References) (b : ImportBlock) (r : AddRequest) : Except EditError ImportBlock := do
  if r.member.isNone then
    if ← b.isVisible r.typeName then return b
  if b.covers r then return b
  let referenced := match r.member with
    | some member => (refs.staticUses r.typeName none).contains member
    | none => refs.usesType r.typeName
  if r.ifReferenced && !referenced then return b
  let (node, nextId) := importNode r.name r.member.isSome b.nextId
  return { b with nextId }.insert node

/-- A single static import provides the member. -/
def hasSingleStatic (b : ImportBlock) (member : String) : Bool :=
  b.imports.any fun i => i.element.isStatic && i.element.member? == some member

/-- A member that the static import provides is in use; for a star, one that no single import
provides. -/
def staticNeeded (refs : References) (b : ImportBlock) (i : Import) : Bool :=
  match i.typeName?, i.member? with
  | some typeName, some member =>
    let uses := refs.staticUses typeName i.name.target.type.class?
    if member == "*" then uses.any (!b.hasSingleStatic ·) else uses.contains member
  | _, _ => true

/-- A type of the package is in use that no single import provides. -/
def packageNeeded (refs : References) (b : ImportBlock) (i : Import) : Bool :=
  refs.types.any fun c =>
    c.packageName == i.packageName &&
      !b.imports.any fun other => !other.element.isStatic && other.element.fullName == c.fqn

/-- A request that names a type is about this import, and nothing needs it. -/
def unusedAsType (refs : References) (b : ImportBlock) (typeName : String) (i : Import) : Bool :=
  if i.typeName? != some typeName then
    !i.isStatic && i.isWildcard && i.packageName == packageOf typeName &&
      !b.packageNeeded refs i
  else if i.isStatic then !b.staticNeeded refs i
  else !refs.usesType typeName

/-- A request that names a static member is about this import, and nothing needs it. -/
def unusedAsMember (refs : References) (b : ImportBlock) (name : String) (i : Import) : Bool :=
  match Text.cutLast? '.' name with
  | none => false
  | some (typeName, member) =>
    i.isStatic && i.member? == some member && i.typeName? == some typeName &&
      !b.staticNeeded refs i

/-- A request is about this import, and nothing needs it; `asType` tells that the name is that of the
type of an import. -/
def isUnused (refs : References) (b : ImportBlock) (asType : Bool) (name : String) (i : Import) :
    Bool :=
  if asType then b.unusedAsType refs name i
  else match if i.isStatic then none else Text.dropTail? ".*" name with
    | some package => i.isWildcard && i.packageName == package && !b.packageNeeded refs i
    | none => b.unusedAsMember refs name i

/-- Drops the import at an index. -/
def eraseAt (b : ImportBlock) (index : Nat) : ImportBlock :=
  match b.imports[index]? with
  | none => b
  | some removed =>
    let leading := removed.element.leading
    let rest := { b with imports := b.imports.eraseIdx index, changed := true }
    match rest.imports[index]? with
    | some next =>
      if index == 0 || leading.hasBlankLine then
        rest.setLeading index (leading.absorb next.element.leading)
      else rest
    | none =>
      if rest.imports.isEmpty && rest.package.isNone then
        { rest with classLeading := rest.classLeading.map leading.absorb }
      else rest

/-- Drops what is unused among the `count` imports from `index` on. -/
def sweep (refs : References) (asType : Bool) (name : String) :
    Nat → Nat → ImportBlock → ImportBlock
  | 0, _, b => b
  | count + 1, index, b =>
    if (b.imports[index]?).any (b.isUnused refs asType name ·.element) then
      sweep refs asType name count index (b.eraseAt index)
    else sweep refs asType name count (index + 1) b

/-- Removes what a name stands for, as far as it is unused. -/
def remove (refs : References) (b : ImportBlock) (name : String) : ImportBlock :=
  let asType := b.imports.any fun i => i.element.typeName? == some name
  sweep refs asType name b.imports.length 0 b

end ImportBlock

/-- The class behind other trivia. -/
def ClassDeclaration.editLeading (c : ClassDeclaration) (s : Space) : Edited ClassDeclaration :=
  if c.leading == s then .same c else ⟨{ c with leading := s }, [c.id]⟩

/-- The unit with the imports that the requests ask for, and the next free id. -/
def CompilationUnit.meetRequests (u : CompilationUnit) (rs : ImportRequests) (nextId : NodeId) :
    Except EditError (Edited CompilationUnit × NodeId) := do
  let refs := u.references
  let b : ImportBlock :=
    { imports := u.imports, package := u.packageName?
      classLeading := u.classes.head?.map (·.leading), nextId }
  let b ← rs.adds.foldlM (·.add refs) b
  let b := rs.removes.foldl (·.remove refs) b
  if !b.changed then return (.same u, b.nextId)
  match u.classes, b.classLeading with
  | c :: cs, some s =>
    let c := c.editLeading s
    return (⟨{ u with imports := b.imports, classes := c.value :: cs }, u.id :: c.touched⟩, b.nextId)
  | _, _ => return (⟨{ u with imports := b.imports }, [u.id]⟩, b.nextId)

end Retouch
