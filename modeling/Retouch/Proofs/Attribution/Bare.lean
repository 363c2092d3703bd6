import Retouch.Attribution.Basic
import Retouch.Proofs.Parser.Numbering
import Retouch.Proofs.Tree.Bare

/-!
# What a bare unit declares

The names of a unit, its imports and the types it declares with their members, are those of the bare
unit (`namesOf_bare`): they depend neither on ids nor on trivia. To mark a tree with the types it
names and to make it bare are steps that can be taken in either order (`markType_bare`).
-/

namespace Retouch

/-! ## Names -/

namespace Expression

@[simp]
theorem type_bare (e : Expression) : e.bare.type = e.type := by
  match e with
  | .parentheses _ _ ⟨tree, _⟩ => exact type_bare tree
  | .fieldAccess n => cases n; rfl
  | .methodInvocation n => cases n; rfl
  | .identifier _ | .literal _ | .newClass .. | .newArray .. | .lambda .. | .memberReference ..
  | .binary .. | .unary .. | .assignment .. | .ternary .. | .arrayAccess .. | .typeCast .. => rfl

@[simp]
theorem qualifiedName?_bare (e : Expression) : e.bare.qualifiedName? = e.qualifiedName? := by
  match e with
  | .fieldAccess ⟨_, _, target, _, name, _⟩ =>
    simp [Expression.bare, FieldAccess.bare, qualifiedName?, qualifiedName?_bare target,
      Identifier.bare]
  | .identifier _ | .literal _ | .methodInvocation _ | .newClass .. | .newArray .. | .lambda ..
  | .memberReference .. | .binary .. | .unary .. | .assignment .. | .ternary .. | .parentheses ..
  | .arrayAccess .. | .typeCast .. => rfl

@[simp]
theorem typeSymbol?_bare (e : Expression) : e.bare.typeSymbol? = e.typeSymbol? := by
  cases e with
  | fieldAccess n => cases n; rfl
  | _ => rfl

end Expression

namespace Names

variable (g : Names)

@[simp]
theorem classOfName?_bare (e : Expression) : g.classOfName? e.bare = g.classOfName? e := by
  simp [classOfName?]

/-- What a written type means is told by its names. -/
@[simp]
theorem typeOf_bare (t : TypeTree) : g.typeOf t.bare = g.typeOf t := by
  match t with
  | .named e => simp [TypeTree.bare, typeOf]
  | .parameterized _ _ clazz _ _ => simp [TypeTree.bare, typeOf]
  | .array _ _ element _ _ _ => simp [TypeTree.bare, typeOf, typeOf_bare element]
  | .primitive .. | .wildcard .. => rfl

mutual

/-- The name and what it is qualified by are marked with one type after the other, outwards. -/
theorem markName_bare (type? : Option ClassType) (e : Expression) :
    g.markName type? e.bare = (g.markName type? e).bare := by
  match e with
  | .identifier n => cases type? <;> rfl
  | .fieldAccess n =>
    cases type? with
    | none => rfl
    | some c => exact congrArg Expression.fieldAccess (markQualified_bare c n)
  | .literal _ | .methodInvocation _ | .newClass .. | .newArray .. | .lambda .. | .memberReference
    ..
  | .binary .. | .unary .. | .assignment .. | .ternary .. | .parentheses .. | .arrayAccess ..
  | .typeCast .. => rfl

theorem markQualified_bare (c : ClassType) (n : FieldAccess) :
    g.markQualified c n.bare = (g.markQualified c n).bare := by
  match n with
  | ⟨_, _, target, _, name, _⟩ =>
    simp [markQualified, FieldAccess.bare, markName_bare _ target, Identifier.bare]

end

mutual

/-- To mark a type and to make it bare can be done in either order. -/
theorem markType_bare (t : TypeTree) : g.markType t.bare = (g.markType t).bare := by
  match t with
  | .primitive .. => rfl
  | .named e => simp [TypeTree.bare, markType, markName_bare]
  | .parameterized _ _ clazz ⟨before, elements, close⟩ _ =>
    simp only [TypeTree.bare, markType, markName_bare, classOfName?_bare, bareTypes,
      markTypes_bare elements]
  | .array _ _ element _ _ _ => simp [TypeTree.bare, markType, markType_bare element]
  | .wildcard _ _ bound bounded =>
    simp only [TypeTree.bare, markType, markType?_bare bounded]

theorem markTypes_bare (ts : List (Padded TypeTree)) :
    g.markTypes (bareTypeList ts) = bareTypeList (g.markTypes ts) := by
  match ts with
  | [] => rfl
  | ⟨t, _⟩ :: ts => simp only [bareTypeList, markTypes, markType_bare t, markTypes_bare ts]

theorem markType?_bare (t : Option TypeTree) :
    g.markType? (bareType? t) = bareType? (g.markType? t) := by
  match t with
  | none => rfl
  | some t => simp only [bareType?, markType?, markType_bare t]

end

theorem map_typeOf_bare (t : Option TypeTree) : (bareType? t).map g.typeOf = t.map g.typeOf := by
  cases t <;> simp

theorem markContainer_bare (c : Option (Container TypeTree)) :
    (bareTypes? c).map g.markContainer = bareTypes? (c.map g.markContainer) := by
  cases c with
  | none => rfl
  | some c =>
    obtain ⟨before, elements, close⟩ := c
    simp only [bareTypes?, bareTypes, Option.map_some, markContainer, markTypes_bare]

theorem markSuper_bare (t : Option (LeftPadded TypeTree)) :
    (bareSuper t).map (fun ⟨before, t⟩ => ⟨before, g.markType t⟩) =
      bareSuper (t.map fun ⟨before, t⟩ => ⟨before, g.markType t⟩) := by
  cases t with
  | none => rfl
  | some t =>
    obtain ⟨before, t⟩ := t
    simp only [bareSuper, Option.map_some, markType_bare]

end Names

@[simp]
theorem TypeTree.className?_bare (t : TypeTree) : t.bare.className? = t.className? := by
  cases t <;> simp [TypeTree.bare, className?]

@[simp]
theorem hasModifier_bare (ms : List Modifier) (keyword : String) :
    hasModifier (ms.map Modifier.bare) keyword = hasModifier ms keyword := by
  simp [hasModifier, Modifier.bare, Function.comp_def]

@[simp]
theorem ClassDeclaration.supertypeNames_bare (c : ClassDeclaration) :
    c.bare.supertypeNames = c.supertypeNames := by
  obtain ⟨_, _, _, _, _, _, _, superclass, interfaces, _, _⟩ := c
  have extended : (superclass.map (LeftPadded.bare TypeTree.bare)).toList.map (·.element) =
      (superclass.toList.map (·.element)).map TypeTree.bare := by
    cases superclass <;> rfl
  cases interfaces <;>
    simp [bare, supertypeNames, extended, List.filterMap_map, Function.comp_def]

namespace Names

variable (g : Names)

@[simp]
theorem parameterType_bare (v : VariableDeclarations) :
    g.parameterType v.bare = g.parameterType v := by
  obtain ⟨_, _, _, _, declaredType, varargs, _⟩ := v
  simp only [VariableDeclarations.bare, parameterType, bareType?_eq, Option.map_map,
    Function.comp_def, typeOf_bare]
  cases (declaredType.map g.typeOf).getD .unknown <;> cases varargs <;> rfl

@[simp]
theorem isVarargs_bare (c : Container VariableDeclarations) :
    isVarargs (c.bare VariableDeclarations.bare) = isVarargs c := by
  have varargs (v : VariableDeclarations) : v.bare.varargs.isSome = v.varargs.isSome := by
    cases v
    simp [VariableDeclarations.bare]
  simp [isVarargs, Option.any_map, varargs]

/-- A field is told by its name, its modifiers and its type. -/
theorem memberFields_bare (c : ClassDeclaration) : g.memberFields c.bare = g.memberFields c := by
  obtain ⟨_, _, _, _, _, _, _, _, _, ⟨_, _, statements, _⟩, _⟩ := c
  simp only [ClassDeclaration.bare, Block.bare, memberFields, bareStatements_eq, List.flatMap_map]
  congr 2
  funext p
  obtain ⟨s, after⟩ := p
  cases s with
  | declaration v =>
    obtain ⟨_, _, _, _, declaredType, _, _⟩ := v
    simp [Padded.bare, Statement.bare, VariableDeclarations.bare, Function.comp_def]
  | _ => rfl

/-- A method is told by its name, its modifiers and the types of its heading. -/
theorem memberMethods_bare (c : ClassDeclaration) (type : ClassType) :
    g.memberMethods c.bare type = g.memberMethods c type := by
  obtain ⟨_, _, _, _, _, _, _, _, _, ⟨_, _, statements, _⟩, _⟩ := c
  simp only [ClassDeclaration.bare, Block.bare, memberMethods, bareStatements_eq,
    List.filterMap_map]
  congr 1
  funext p
  obtain ⟨s, after⟩ := p
  cases s with
  | method m =>
    obtain ⟨_, _, _, _, returnType, _, _⟩ := m
    simp [Padded.bare, Statement.bare, MethodDeclaration.bare, Function.comp_def]
  | _ => rfl

/-- The members of a declared class are those of the bare one. -/
theorem members_bare (c : ClassDeclaration) (type : ClassType) :
    g.members c.bare type = g.members c type := by
  simp only [members, memberFields_bare, memberMethods_bare]

/-- Declarations with their names, bare. -/
abbrev bareDeclarations (ds : List (String × ClassDeclaration)) :
    List (String × ClassDeclaration) :=
  ds.map (Prod.map id ClassDeclaration.bare)

/-- A look-up among bare declarations finds the declaration, bare. -/
theorem lookup_bareDeclarations (ds : List (String × ClassDeclaration)) (name : String) :
    (bareDeclarations ds).lookup name = (ds.lookup name).map ClassDeclaration.bare := by
  induction ds with
  | nil => rfl
  | cons d ds ih =>
    rw [bareDeclarations, List.map_cons, List.lookup_cons, List.lookup_cons, ih]
    cases h : name == d.1 <;> simp [h]

/-- The types of declarations refer to each other by names only. -/
theorem build_bare (ds : List (String × ClassDeclaration)) (n : Nat) (active : List String)
    (built : Built) (fqn : String) :
    g.build (bareDeclarations ds) n active built fqn = g.build ds n active built fqn := by
  induction n generalizing active built fqn with
  | zero => rfl
  | succ n ih =>
    simp only [build, lookup_bareDeclarations, ih, Option.isSome_map]
    cases ds.lookup fqn with
    | none => rfl
    | some c => simp only [Option.map_some, ClassDeclaration.supertypeNames_bare,
        ClassDeclaration.keyword_bare]

end Names

namespace Import

variable (i : Import)

@[simp]
theorem isStatic_bare : i.bare.isStatic = i.isStatic := by
  simp [isStatic, Import.bare]

@[simp]
theorem isWildcard_bare : i.bare.isWildcard = i.isWildcard := by
  obtain ⟨_, _, _, ⟨_, _, target, _, name, _⟩⟩ := i
  rfl

@[simp]
theorem fullName_bare : i.bare.fullName = i.fullName :=
  congrArg (·.getD "") (Expression.fieldAccess i.name).qualifiedName?_bare

theorem qualifier_bare : i.bare.name.target.qualifiedName? = i.name.target.qualifiedName? := by
  obtain ⟨_, _, _, ⟨_, _, target, _, name, _⟩⟩ := i
  exact target.qualifiedName?_bare

@[simp]
theorem typeName?_bare : i.bare.typeName? = i.typeName? := by
  simp [typeName?, qualifier_bare]

@[simp]
theorem member?_bare : i.bare.member? = i.member? := by
  obtain ⟨_, _, _, ⟨_, _, target, _, name, _⟩⟩ := i
  simp [member?]
  rfl

@[simp]
theorem packageName_bare : i.bare.packageName = i.packageName := by
  simp [packageName, qualifier_bare]

end Import

@[simp]
theorem ImportScope.add_bare (scope : ImportScope) (i : Import) :
    scope.add i.bare = scope.add i := by
  simp [ImportScope.add]

@[simp]
theorem CompilationUnit.packageName?_bare (u : CompilationUnit) :
    u.bare.packageName? = u.packageName? := by
  simp [bare, packageName?, Package.bare, Function.comp_def]

/-- To mark an import and to make it bare can be done in either order. -/
theorem Names.markImport_bare (g : Names) (i : Import) :
    g.markImport i.bare = (g.markImport i).bare := by
  unfold markImport
  rw [Import.typeName?_bare, Import.isStatic_bare]
  cases i.typeName?.bind g.class? with
  | none => rfl
  | some c =>
    obtain ⟨_, _, _, ⟨_, _, target, _, name, _⟩⟩ := i
    dsimp only
    split
    · simp [Import.bare, FieldAccess.bare, markName_bare]
    · simp [Import.bare, markQualified_bare]

namespace Attribution

mutual

/-- The classes declared in a bare class have the names that they have in the class. -/
theorem declarationsIn_bare (fqn : String) (c : ClassDeclaration) :
    declarationsIn fqn c.bare = Names.bareDeclarations (declarationsIn fqn c) := by
  match c with
  | ⟨_, _, _, _, _, _, _, _, _, ⟨_, _, list, _⟩, _⟩ =>
    simp only [ClassDeclaration.bare, Block.bare, declarationsIn, nestedDeclarations_bare fqn list]
    simp [Names.bareDeclarations, ClassDeclaration.bare, Block.bare]

theorem nestedDeclarations_bare (outer : String) (ss : List (Padded Statement)) :
    nestedDeclarations outer (bareStatements ss) =
      Names.bareDeclarations (nestedDeclarations outer ss) := by
  match ss with
  | [] => rfl
  | ⟨.classDeclaration c, _⟩ :: ss =>
    simp only [bareStatements, Statement.bare, nestedDeclarations, declarationsIn_bare _ c,
      nestedDeclarations_bare outer ss, ClassDeclaration.name_bare, Identifier.name_bare]
    exact (List.map_append ..).symm
  | ⟨.expression _, _⟩ :: ss | ⟨.declaration _, _⟩ :: ss | ⟨.block _, _⟩ :: ss
  | ⟨.method _, _⟩ :: ss | ⟨.returns .., _⟩ :: ss | ⟨.conditional .., _⟩ :: ss
  | ⟨.whileLoop .., _⟩ :: ss | ⟨.forLoop .., _⟩ :: ss | ⟨.forEach .., _⟩ :: ss
  | ⟨.tryBlock .., _⟩ :: ss | ⟨.throws .., _⟩ :: ss | ⟨.empty .., _⟩ :: ss
  | ⟨.doWhile .., _⟩ :: ss | ⟨.switch .., _⟩ :: ss | ⟨.breaks .., _⟩ :: ss
  | ⟨.continues .., _⟩ :: ss => exact nestedDeclarations_bare outer ss

end

/-- The names of a bare unit mean what those of the unit mean. -/
theorem namesOf_bare (u : CompilationUnit) (classpath : Classpath) :
    namesOf u.bare classpath = namesOf u classpath := by
  have imports : u.bare.imports.foldl (fun scope i => scope.add i.element) ({} : ImportScope) =
      u.imports.foldl (fun scope i => scope.add i.element) {} := by
    simp [CompilationUnit.bare, List.foldl_map]
  have declared (g : Names) :
      u.bare.classes.flatMap (fun c => declarationsIn (g.qualify none c.name.name) c) =
        Names.bareDeclarations
          (u.classes.flatMap fun c => declarationsIn (g.qualify none c.name.name) c) := by
    simp [CompilationUnit.bare, List.flatMap_map, declarationsIn_bare, List.map_flatMap]
  unfold namesOf
  rw [imports, CompilationUnit.packageName?_bare]
  simp only [declared, Names.bareDeclarations, List.map_map, List.foldl_map, List.length_map,
    ← List.map_reverse]
  simp only [Names.build_bare, Names.members_bare, Function.comp_def, Prod.map_fst, Prod.map_snd,
    id_eq, ClassDeclaration.name_bare, Identifier.name_bare]

end Attribution

end Retouch
