import Retouch.Proofs.Attribution.Binding
import Retouch.Proofs.Import.Sorting

/-!
# Types that need no import

A simple name may mean several types: those that the unit declares, those that it imports by their
names, and those of its package, of the packages that it imports and of `java.lang`. The look-up
takes the first one (`resolveSimple?_eq`). A type for which a request brings no import is among them
(`unmet_request_means`), so its simple name means this type unless another one goes in front of it.
-/

namespace Retouch

theorem isLower_of_isUpper {c : Char} (upper : c.isUpper = true) : c.isLower = false := by
  have most : c.val.toNat ≤ 90 := UInt32.le_iff_toNat_le.1 (of_decide_eq_true upper).2
  refine Bool.and_eq_false_iff.2 (.inl (decide_eq_false fun least => ?_))
  have : 97 ≤ c.val.toNat := UInt32.le_iff_toNat_le.1 least
  omega

/-! ## What a simple name may mean -/

namespace Import

/-- The type that the import brings by its name. -/
def singleType? (i : Import) :
    Option String := if i.isStatic || i.isWildcard then none else some i.fullName

/-- The package whose types the import brings. -/
def demandPackage? (i : Import) :
    Option String := if !i.isStatic && i.isWildcard then some i.packageName else none

end Import

/-- The types that a simple name may mean in a unit, in the order in which they are looked up. -/
def CompilationUnit.meanings (u : CompilationUnit) (classpath : Classpath) (simple : String) :
    List String :=
  let g := Attribution.namesOf u classpath
  (g.declaredSimple.filter (·.1 == simple)).map (·.2) ++
    (u.imports.filterMap (·.element.singleType?)).filter (simpleNameOf · == simple) ++
    (g.qualify none simple :: (u.imports.filterMap (·.element.demandPackage?)).map
      (· ++ "." ++ simple) ++
      ["java.lang." ++ simple]).filter g.typeExists

namespace ImportScope

variable (scope : ImportScope) {i : Import}

theorem add_static (static : i.isStatic = true) :
    (scope.add i).onDemand = scope.onDemand ∧ (scope.add i).single = scope.single := by
  unfold add
  rw [static]
  generalize i.isWildcard = star
  cases star <;> cases i.typeName? <;> exact ⟨rfl, rfl⟩

theorem add_demand (plain : i.isStatic = false) (star : i.isWildcard = true) :
    scope.add i = { scope with onDemand := scope.onDemand ++ [i.packageName] } := by
  simp [add, plain, star]

theorem add_single (plain : i.isStatic = false) (single : i.isWildcard = false) :
    scope.add i = if (scope.single.lookup (simpleNameOf i.fullName)).isSome then scope
      else { scope with single := scope.single ++ [(simpleNameOf i.fullName, i.fullName)] } := by
  have named : i.typeName? = some i.fullName := by simp [Import.typeName?, plain, single]
  simp only [add, plain, single, named]

theorem onDemand_add (i : Import) : (scope.add i).onDemand = scope.onDemand ++
    i.demandPackage?.toList := by
  cases static : i.isStatic with
  | true => simp [(scope.add_static static).1, Import.demandPackage?, static]
  | false =>
    cases star : i.isWildcard with
    | true => simp [scope.add_demand static star, Import.demandPackage?, static, star]
    | false =>
      rw [scope.add_single static star]
      split <;> simp [Import.demandPackage?, static, star]

/-- Of several imports of one simple name the first counts. -/
theorem lookup_single_add (i : Import) (simple : String) : (scope.add i).single.lookup simple =
    (scope.single.lookup simple).or (i.singleType?.filter (simpleNameOf · == simple)) := by
  cases static : i.isStatic with
  | true => simp [(scope.add_static static).2, Import.singleType?, static]
  | false =>
    cases star : i.isWildcard with
    | true => simp [scope.add_demand static star, Import.singleType?, star]
    | false =>
      have own : i.singleType? = some i.fullName := by simp [Import.singleType?, static, star]
      rw [scope.add_single static star, own, Option.filter_some]
      by_cases same : simpleNameOf i.fullName = simple
      · subst same
        cases known : scope.single.lookup (simpleNameOf i.fullName) with
        | none => simp [known, List.lookup_append]
        | some fqn => simp [known]
      · have other : (simple == simpleNameOf i.fullName) = false := by simpa using Ne.symm same
        have miss : (if (simpleNameOf i.fullName == simple) = true then some i.fullName else none) =
          none :=
          if_neg (by simpa using same)
        rw [miss, Option.or_none]
        split
        · rfl
        · simp [List.lookup_append, List.lookup_cons, other]

theorem onDemand_foldl (is : List (Padded Import)) :
    (is.foldl (fun scope i => scope.add i.element) scope).onDemand =
      scope.onDemand ++ is.filterMap (·.element.demandPackage?) := by
  induction is generalizing scope with
  | nil => simp
  | cons i is ih =>
    rw [List.foldl_cons, ih, onDemand_add]
    cases found : i.element.demandPackage? <;> simp [found]

theorem lookup_single_foldl (is : List (Padded Import)) (simple : String) :
    (is.foldl (fun scope i => scope.add i.element) scope).single.lookup simple =
      (scope.single.lookup simple).or
        ((is.filterMap (·.element.singleType?)).filter (simpleNameOf · == simple)).head? := by
  induction is generalizing scope with
  | nil => simp
  | cons i is ih =>
    rw [List.foldl_cons, ih, lookup_single_add, Option.or_assoc]
    cases found : i.element.singleType? with
    | none => simp [found]
    | some fqn =>
      have grown : (i :: is).filterMap (·.element.singleType?) = fqn :: is.filterMap
        (·.element.singleType?) :=
        List.filterMap_cons_some found
      rw [grown, List.filter_cons, Option.filter_some]
      split
      · rw [Option.some_or, List.head?_cons]
      · rw [Option.none_or]

end ImportScope

theorem lookup_eq_head? {α β : Type} [BEq α] [LawfulBEq α] (l : List (α × β)) (a : α) :
    l.lookup a = ((l.filter (·.1 == a)).map (·.2)).head? := by
  induction l with
  | nil => rfl
  | cons p l ih =>
    obtain ⟨k, v⟩ := p
    by_cases same : k = a
    · subst same
      simp
    · have other : (a == k) = false := by simpa using Ne.symm same
      simp [List.lookup_cons, other, ih, same]

namespace Attribution

/-- What a unit declares does not change what it imports. -/
theorem imports_namesOf (u : CompilationUnit) (classpath : Classpath) :
    (namesOf u classpath).imports = u.imports.foldl (fun scope i => scope.add i.element) {} ∧
      (namesOf u classpath).package = u.packageName? := by
  have kept (step : Names → String × ClassDeclaration → Names)
      (same : ∀ g d, (step g d).imports = g.imports ∧ (step g d).package = g.package)
      (ds : List (String × ClassDeclaration)) (g : Names) :
      (ds.foldl step g).imports = g.imports ∧ (ds.foldl step g).package = g.package := by
    induction ds generalizing g with
    | nil => exact ⟨rfl, rfl⟩
    | cons d ds ih =>
      rw [List.foldl_cons, (ih _).1, (ih _).2]
      exact same g d
  refine kept _ (fun g d => ?_) _ _
  dsimp only
  split <;> exact ⟨rfl, rfl⟩

end Attribution

/-- The look-up takes the first type that a simple name may mean. -/
theorem CompilationUnit.resolveSimple?_eq (u : CompilationUnit) (classpath : Classpath)
    (simple : String) :
    (Attribution.namesOf u classpath).resolveSimple? simple =
      (u.meanings classpath simple).head? := by
  have imports := (Attribution.imports_namesOf u classpath).1
  have single := ImportScope.lookup_single_foldl {} u.imports simple
  have demand := ImportScope.onDemand_foldl {} u.imports
  rw [← imports] at single demand
  rw [Names.resolveSimple?, meanings, lookup_eq_head?, single, demand, ← List.head?_filter,
    List.head?_append,
    List.head?_append, Option.or_assoc, Option.or_assoc]
  rfl

/-! ## The import that a request brings -/

namespace AddRequest

/-- What the import is an import of that the request brings. -/
def key (r : AddRequest) : Bool × String := (importNode r.name r.member.isSome 0).1.element.key

/-- The request is about a type: its name has a segment with a capital, and the last one is no star.
-/
structure OfType (r : AddRequest) : Prop where
  capital : ∃ s ∈ Text.split '.' r.typeName, s.toList.head?.any Char.isUpper = true
  single : simpleNameOf r.typeName ≠ "*"

end AddRequest

/-- The import that is made of a name. A name of one segment brings everything below it. -/
theorem exists_importNode (name : String) : ∃ outer last,
    (outer ++ "." ++ last = name ∨ outer = name ∧ '.' ∉ name.toList ∧ last = "*") ∧ ∀ isStatic n,
      (importNode name isStatic n).1.element.isStatic = isStatic ∧
      (importNode name isStatic n).1.element.name.target.qualifiedName? = some outer ∧
      (importNode name isStatic n).1.element.name.name.name = last := by
  have flag (isStatic : Bool) :
    (if isStatic then some Space.single else none).isSome = isStatic := by
    cases isStatic <;> rfl
  have whole : ".".intercalate (Text.split '.' name) = name := Text.intercalate_split rfl name
  obtain none | ⟨outer, last, segments⟩ := (Text.split '.' name).eq_nil_or_concat'
  · exact absurd none (by simp [Text.split, Text.splitChars_ne_nil])
  by_cases some : outer = []
  · subst some
    have single : Text.split '.' name = [name] := by
      rw [segments, List.nil_append, String.intercalate_singleton] at whole
      rw [segments, whole]
      rfl
    have free : '.' ∉ name.toList :=
      Text.free_of_mem_split (by rw [single]; exact List.mem_singleton_self _)
    refine ⟨name, "*", .inr ⟨rfl, free, rfl⟩, fun isStatic n => ?_⟩
    rw [importNode, single]
    exact ⟨flag isStatic, rfl, rfl⟩
  · refine ⟨".".intercalate outer, last, .inl ?_, fun isStatic n => ?_⟩
    · rw [← whole, segments, Text.intercalate_concat "." some]
    · rw [importNode_of_split segments some]
      exact ⟨flag isStatic, (qualifiedExpression_spells some n).1, rfl⟩

namespace AddRequest

variable {r : AddRequest}

theorem key_importNode (r : AddRequest) (n : NodeId) :
    (importNode r.name r.member.isSome n).1.element.entry.key = r.key := by
  obtain ⟨outer, last, -, made⟩ := exists_importNode r.name
  have same (n : NodeId) : (importNode r.name r.member.isSome n).1.element.key =
      (r.member.isSome, outer ++ "." ++ last) := by
    obtain ⟨group, target, name⟩ := made r.member.isSome n
    rw [Import.key, group, Import.fullName_eq, target, name]
    rfl
  exact (same n).trans (same 0).symm

/-- The import of a name with a point has this name. -/
theorem key_of_point (asked : r.member = none) (point : '.' ∈ r.typeName.toList) :
    r.key = (false, r.typeName) := by
  have own : r.name = r.typeName := by simp [AddRequest.name, asked]
  obtain ⟨outer, last, whole | ⟨-, free, -⟩, made⟩ := exists_importNode r.name
  · obtain ⟨group, target, name⟩ := made r.member.isSome 0
    rw [key, Import.key, group, Import.fullName_eq, target, name, asked, ← own, ← whole]
    rfl
  · exact absurd (own ▸ point) free

theorem OfType.ne_empty (h : r.OfType) : r.typeName ≠ "" := by
  intro none
  obtain ⟨s, mem, capital⟩ := h.capital
  rw [none] at mem
  obtain rfl := List.mem_singleton.1 (show s ∈ [""] from mem)
  cases capital

end AddRequest

/-! ## Requests that bring no import -/

namespace ImportBlock

variable {b b' : ImportBlock} {refs : References} {r : AddRequest}

/-- A request for a type brings an import, unless it is visible or covered. -/
theorem add_cases (h : b.add refs r = .ok b') :
    b' = b ∧ (r.member = none → r.ifReferenced = false →
      b.isVisible r.typeName = .ok true ∨ b.covers r = true) ∨ b' = b.grow r := by
  cases looked : b.isVisible r.typeName with
  | ok visible =>
    obtain ⟨referenced, run⟩ := add_eq refs b looked
    obtain rfl := Except.ok.inj (run.symm.trans h)
    split
    · next skips =>
      refine .inl ⟨rfl, fun none always => ?_⟩
      simpa [none, always] using skips
    · exact .inr rfl
  | error e =>
    obtain ⟨typeName, _ | member, ifReferenced⟩ := r
    · simp only [add, Option.isNone_none, if_true, looked] at h
      cases h
    · simp only [add, Option.isNone_some, Bool.false_eq_true, if_false] at h
      refine (?_ : b' = b ∨ _).imp_left fun same =>
        ⟨same, fun none => absurd none (Option.some_ne_none member)⟩
      split at h
      · exact .inl (Except.ok.inj h).symm
      · split at h
        · exact .inl (Except.ok.inj h).symm
        · exact .inr (Except.ok.inj h).symm

/-- A block of imports behind requests: what was there is there, and the rest was brought. -/
structure Grown (u : CompilationUnit) (adds : List AddRequest) (b : ImportBlock) : Prop where
  package : b.package = u.packageName?
  entries : ∀ e ∈ b.entries, e ∈ u.entries ∨
    ∃ r ∈ adds, ∃ n, e = (importNode r.name r.member.isSome n).1.element.entry
  unmoved : b.changed = false → b.entries = u.entries

theorem package_insert (b : ImportBlock) (node : Padded Import) :
    (b.insert node).package = b.package := by
  simp only [insert, leadingAt]
  split
  · simp only [leadingOfFirst]
    split
    · split <;> rfl
    · rfl
  · split <;> rfl

theorem perm_grow (b : ImportBlock) (r : AddRequest) :
    (b.grow r).entries.Perm
      ((importNode r.name r.member.isSome b.nextId).1.element.entry :: b.entries) := by
  obtain ⟨k, inside, inserted⟩ := entries_insert
    { b with nextId := (importNode r.name r.member.isSome b.nextId).2 }
      (importNode r.name r.member.isSome b.nextId).1
  rw [grow, inserted]
  exact List.perm_insertIdx _ _ inside

theorem Grown.add {u : CompilationUnit} {adds : List AddRequest} (h : Grown u adds b)
    (mem : r ∈ adds)
    (run : b.add refs r = .ok b') : Grown u adds b' := by
  obtain ⟨rfl, -⟩ | rfl := add_cases run
  · exact h
  · refine ⟨(package_insert _ _).trans h.package, fun e there => ?_, fun same => ?_⟩
    · obtain rfl | old := List.mem_cons.1 ((perm_grow b r).mem_iff.1 there)
      · exact .inr ⟨r, mem, b.nextId, rfl⟩
      · exact h.entries e old
    · cases same

theorem count_add (run : b.add refs r = .ok b') (k : Bool × String) :
    b.entries.countP (·.key == k) ≤ b'.entries.countP (·.key == k) := by
  obtain ⟨rfl, -⟩ | rfl := add_cases run
  · exact Nat.le_refl _
  · rw [(perm_grow b r).countP_eq, List.countP_cons]
    exact Nat.le_add_right _ _

/-- What is left of a unit when its requests were met. -/
theorem entries_of_adds {u : CompilationUnit} {adds : List AddRequest} {n n' : NodeId}
    {out : Edited CompilationUnit}
    (met : u.meetRequests { adds } n = .ok (out, n')) :
    ∃ b, adds.foldlM (ImportBlock.add u.references) (u.importBlock n) = .ok b ∧
      out.value.entries = if b.changed then b.entries else u.entries := by
  rw [CompilationUnit.meetRequests_eq] at met
  cases run : adds.foldlM (ImportBlock.add u.references) (u.importBlock n) with
  | error e =>
    rw [run] at met
    cases met
  | ok b =>
    rw [run] at met
    cases met
    exact ⟨b, rfl, u.entries_withBlock b⟩

theorem grown_foldlM {u : CompilationUnit} {adds rs : List AddRequest} (within : rs ⊆ adds)
    (h : Grown u adds b)
    (run : rs.foldlM (ImportBlock.add refs) b = .ok b') :
    Grown u adds b' ∧ ∀ k, b.entries.countP (·.key == k) ≤ b'.entries.countP (·.key == k) := by
  induction rs generalizing b with
  | nil =>
    cases run
    exact ⟨h, fun k => Nat.le_refl _⟩
  | cons r rs ih =>
    obtain ⟨own, others⟩ := List.cons_subset.1 within
    rw [List.foldlM_cons] at run
    obtain ⟨b₁, first, rest⟩ := exists_of_bind_ok run
    obtain ⟨grown, count⟩ := ih others (h.add own first) rest
    exact ⟨grown, fun k => (count_add first k).trans (count k)⟩

end ImportBlock

/-! ## Names without an import -/

/-- A package begins with a lower-case letter. -/
theorem isLower_packageOf {name : String} {c : Char} {cs : List Char}
    (h : (packageOf name).toList = c :: cs) :
    c.isLower = true := by
  rw [packageOf_eq] at h
  have lower := fun s mem =>
    List.mem_takeWhile_imp (p := fun s : String => s.toList.head?.any Char.isLower)
    (l := Text.split '.' name) (x := s) mem
  generalize (Text.split '.' name).takeWhile _ = parts at h lower
  cases parts with
  | nil => cases h
  | cons s ss =>
    have first := lower s List.mem_cons_self
    cases chars : s.toList with
    | nil => simp [chars] at first
    | cons d ds =>
      have front : (".".intercalate (s :: ss)).toList.head? = some d := by
        cases ss with
        | nil => simp [chars]
        | cons t ss => simp [String.intercalate_cons_cons, chars]
      rw [h] at front
      cases front
      simpa [chars] using first

theorem AddRequest.OfType.typed {r : AddRequest} (h : r.OfType) :
    ∃ s ∈ Text.split '.' r.typeName, s.toList.head?.any Char.isLower = false := by
  obtain ⟨s, mem, capital⟩ := h.capital
  refine ⟨s, mem, ?_⟩
  cases chars : s.toList with
  | nil => rfl
  | cons c cs =>
    have upper : c.isUpper = true := by simpa [chars] using capital
    exact isLower_of_isUpper upper

namespace ImportBlock

/-- What is always visible stands directly in `java.lang` or in the package of the unit. -/
theorem exists_of_isVisible {b : ImportBlock} {r : AddRequest} (ofType : r.OfType)
    (h : b.isVisible r.typeName = .ok true) :
    ∃ package name, package ≠ "" ∧ r.typeName = package ++ "." ++ name ∧ '.' ∉ name.toList ∧
      (package = "java.lang" ∨ b.package = some package) := by
  unfold isVisible at h
  extract_lets package name at h
  split at h
  · cases h
  · next some =>
    have some : package ≠ "" := fun none => some (by rw [none]; rfl)
    obtain ⟨rest, behind⟩ := exists_behind_package ofType.typed some
    split at h
    · cases h
    · have cut : name = rest := by
        have prefixed : (package ++ ".").toList.isPrefixOf? r.typeName.toList = .some
          rest.toList := by
          rw [List.isPrefixOf?_eq_some_iff_append_eq, ← String.toList_append]
          exact congrArg String.toList behind.symm
        simp only [name, Text.dropLead?, prefixed, Option.map_some, Option.getD_some,
          String.ofList_toList]
      obtain ⟨free, place⟩ := Bool.and_eq_true_iff.1 (Except.ok.inj h)
      refine ⟨package, rest, some, behind, ?_, ?_⟩
      · simpa [cut] using free
      · simpa using place

end ImportBlock

namespace CompilationUnit

variable {u : CompilationUnit} {classpath : Classpath} {typeName : String}

theorem mem_meanings_of_single {p : Padded Import} (mem : p ∈ u.imports)
    (single : p.element.singleType? = some typeName) :
      typeName ∈ u.meanings classpath (simpleNameOf typeName) := by
  have listed : typeName ∈ u.imports.filterMap (·.element.singleType?) :=
    List.mem_filterMap.2 ⟨p, mem, single⟩
  exact List.mem_append_left _ (List.mem_append_right _ (List.mem_filter.2 ⟨listed, by simp⟩))

/-- A type of a package that the unit can name by its simple names. -/
theorem mem_meanings_of_package {package simple : String}
    (known : classpath.contains (package ++ "." ++ simple) = true)
    (place : package = "java.lang" ∨ package ≠ "" ∧ u.packageName? = some package ∨
      some package ∈ u.imports.map (·.element.demandPackage?)) :
    package ++ "." ++ simple ∈ u.meanings classpath simple := by
  have imported := Attribution.imports_namesOf u classpath
  have known : (Attribution.namesOf u classpath).typeExists (package ++ "." ++ simple) = true := by
    rw [Names.typeExists, Attribution.classpath_namesOf, known, Bool.or_true]
  refine List.mem_append_right _ (List.mem_filter.2 ⟨?_, known⟩)
  obtain rfl | ⟨some, own⟩ | demand := place
  · simp
  · refine List.mem_append_left _ (List.mem_cons.2 (.inl ?_))
    have filled : package.isEmpty = false := by simpa using some
    simp [Names.qualify, imported.2, own, filled]
  · obtain ⟨p, mem, same⟩ := List.mem_map.1 demand
    refine List.mem_append_left _ (List.mem_cons_of_mem _ (List.mem_map.2 ⟨package, ?_, rfl⟩))
    exact List.mem_filterMap.2 ⟨p, mem, same⟩

/-- An import that covers a type makes its simple name mean it. An import of a package covers types
inside of other types as well, whose simple names it does not bring. -/
theorem mem_meanings_of_entry {bindings : List (String × JavaType)} {e : Import}
    (mem : e ∈ (u.attribute classpath bindings).entries) (plain : e.isStatic = false)
    (known : classpath.contains typeName = true) (single : simpleNameOf typeName ≠ "*")
    (direct : typeName = packageOf typeName ++ "." ++ simpleNameOf typeName ∨
      some (packageOf typeName) ∉ u.imports.map (·.element.demandPackage?))
    (covers : e.fullName = typeName ∧ typeName ≠ "" ∨ e.isWildcard = true ∧
      e.packageName = packageOf typeName) :
    typeName ∈ u.meanings classpath (simpleNameOf typeName) := by
  obtain ⟨p, there, rfl⟩ := List.mem_map.1 mem
  obtain ⟨q, read, rfl⟩ := List.mem_map.1 there
  have alike := Import.alike_markImport (Attribution.namesOf u classpath) q.element
  have plain : q.element.isStatic = false := alike.isStatic.symm.trans plain
  obtain ⟨name, some⟩ | ⟨star, package⟩ := covers
  · have name : q.element.fullName = typeName := alike.fullName.symm.trans name
    have noStar : q.element.isWildcard = false := by
      refine Bool.eq_false_iff.2 fun star => single ?_
      rw [← name]
      exact Import.simpleNameOf_fullName star (name ▸ some)
    refine mem_meanings_of_single read ?_
    simp [Import.singleType?, plain, noStar, name]
  · have star : q.element.isWildcard = true := alike.isWildcard.symm.trans star
    have package : q.element.packageName = packageOf typeName :=
      alike.packageName.symm.trans package
    have demand : some (packageOf typeName) ∈ u.imports.map (·.element.demandPackage?) := by
      refine List.mem_map.2 ⟨q, read, ?_⟩
      simp [Import.demandPackage?, plain, star, package]
    obtain top | none := direct
    · have inside := mem_meanings_of_package (top ▸ known) (.inr (.inr demand))
      rwa [← top] at inside
    · exact absurd demand none

end CompilationUnit

namespace AddRequest

variable {r : AddRequest}

/-- What an import that was brought by a request for a type may cover: its own type, or nothing that
has a package. -/
theorem OfType.not_wildcard (h : r.OfType)
    (asked : r.member = none) {n : NodeId} {typeName : String}
    (star : (importNode r.name r.member.isSome n).1.element.isWildcard = true) :
    (importNode r.name r.member.isSome n).1.element.packageName ≠ packageOf typeName := by
  intro package
  obtain ⟨outer, last, shape, made⟩ := exists_importNode r.name
  obtain ⟨group, target, name⟩ := made r.member.isSome n
  have own : r.name = r.typeName := by simp [AddRequest.name, asked]
  have static : (importNode r.name r.member.isSome n).1.element.isStatic = false :=
    by rw [group, asked]; rfl
  rw [Import.packageName, static, star, target] at package
  have package : outer = packageOf typeName := package
  obtain rfl : last = "*" := by simpa [Import.isWildcard, name] using star
  obtain whole | ⟨rfl, free, -⟩ := shape
  · refine h.single ?_
    rw [← own, ← whole]
    exact simpleNameOf_append (by decide)
  · obtain ⟨s, mem, capital⟩ := h.capital
    have alone : Text.split '.' r.typeName = [r.typeName] := by
      rw [own] at free
      simp [Text.split, Text.splitChars_free free]
    rw [alone] at mem
    obtain rfl := List.mem_singleton.1 mem
    cases chars : r.typeName.toList with
    | nil => simp [chars] at capital
    | cons c cs =>
      have upper : c.isUpper = true := by simpa [chars] using capital
      have front : (packageOf typeName).toList = c :: cs := by rw [← package, own, chars]
      exact Bool.eq_false_iff.1 (isLower_of_isUpper upper) (isLower_packageOf front)

end AddRequest

namespace ImportBlock

/-- A request that brings no import finds its type visible or covered, where the imports of its name
are those of the unit. -/
theorem exists_of_unmet {u : CompilationUnit} {adds : List AddRequest} {n n' : NodeId}
    {out : Edited CompilationUnit}
    (met : u.meetRequests { adds } n = .ok (out, n')) {r : AddRequest} (mem : r ∈ adds)
      (asked : r.member = none)
    (always : r.ifReferenced = false)
    (unmet : out.value.entries.countP (·.key == r.key) ≤ u.entries.countP (·.key == r.key)) :
    ∃ b : ImportBlock, Grown u adds b ∧
      b.entries.countP (·.key == r.key) ≤ u.entries.countP (·.key == r.key) ∧
      (b.isVisible r.typeName = .ok true ∨ b.covers r = true) := by
  obtain ⟨last, run, entries⟩ := entries_of_adds met
  obtain ⟨front, back, rfl⟩ := List.append_of_mem mem
  rw [List.foldlM_append] at run
  obtain ⟨b, before, run⟩ := exists_of_bind_ok run
  rw [List.foldlM_cons] at run
  obtain ⟨b', step, after⟩ := exists_of_bind_ok run
  have start : Grown u (front ++ r :: back) (u.importBlock n) :=
    ⟨rfl, fun e there => .inl there, fun _ => rfl⟩
  obtain ⟨grown, earlier⟩ := grown_foldlM (by simp) start before
  obtain ⟨grownLast, later⟩ := grown_foldlM (by simp) (grown.add mem step) after
  have count : last.entries.countP (·.key == r.key) ≤ u.entries.countP (·.key == r.key) := by
    split at entries
    · rwa [entries] at unmet
    · next same => exact (congrArg _ (grownLast.unmoved (by simpa using same))).le
  have count' := (later r.key).trans count
  refine ⟨b, grown, (count_add step r.key).trans count', ?_⟩
  obtain ⟨-, found⟩ | rfl := add_cases step
  · exact found asked always
  · -- An import of the name would be one too many.
    rw [(perm_grow b r).countP_eq, List.countP_cons, r.key_importNode, if_pos (by simp)] at count'
    exact absurd (count'.trans (earlier r.key)) (Nat.not_succ_le_self _)

end ImportBlock

/-- Among the imports of a unit and those that requests brought, one covers a type only if the
simple name of the type may mean it in the unit itself. -/
theorem ImportBlock.Grown.mem_meanings {u : CompilationUnit} {classpath : Classpath}
    {bindings : List (String × JavaType)} {adds : List AddRequest} {b : ImportBlock}
    (h : Grown (u.attribute classpath bindings) adds b)
      (types : ∀ r ∈ adds, r.member = none → r.OfType)
    {r : AddRequest} (ofType : r.OfType) (asked : r.member = none)
    (count : b.entries.countP (·.key == r.key) ≤
      (u.attribute classpath bindings).entries.countP (·.key == r.key))
    (known : classpath.contains r.typeName = true)
    (direct : r.typeName = packageOf r.typeName ++ "." ++ simpleNameOf r.typeName ∨
      some (packageOf r.typeName) ∉ u.imports.map (·.element.demandPackage?))
    (covers : b.covers r = true) : r.typeName ∈ u.meanings classpath (simpleNameOf r.typeName) := by
  obtain ⟨p, there, provides⟩ := List.any_eq_true.1 covers
  have listed : p.element.entry ∈ b.entries := List.mem_map_of_mem there
  simp only [ImportBlock.provides, asked, Bool.and_eq_true, Bool.not_eq_true'] at provides
  obtain ⟨plain, covers⟩ := provides
  have shape : p.element.isWildcard = false ∧ p.element.fullName = r.typeName ∨
      p.element.isWildcard = true ∧ p.element.packageName = packageOf r.typeName := by
    split at covers
    · next star => exact .inr ⟨star, beq_iff_eq.1 covers⟩
    · next single => exact .inl ⟨by simpa using single, beq_iff_eq.1 covers⟩
  obtain old | ⟨r', mem', n', made⟩ := h.entries _ listed
  · exact CompilationUnit.mem_meanings_of_entry old plain known ofType.single direct
      (shape.imp_left fun single => ⟨single.2, ofType.ne_empty⟩)
  · -- An import that was brought is one of the unit by its name, and brings no package.
    obtain ⟨outer, last, -, spelled⟩ := exists_importNode r'.name
    obtain ⟨group, target, name⟩ := spelled r'.member.isSome n'
    have none : r'.member = none := by
      have same : p.element.isStatic = r'.member.isSome :=
        (congrArg Import.isStatic made).trans group
      simpa [plain] using same.symm
    obtain ⟨-, single⟩ | ⟨star, package⟩ := shape
    · have point : '.' ∈ r.typeName.toList := by
        have dotted : p.element.fullName = outer ++ "." ++ last := by
          refine (congrArg Import.fullName made).trans ?_
          show (importNode r'.name r'.member.isSome n').1.element.fullName = _
          rw [Import.fullName_eq, target, name]
          rfl
        rw [← single, dotted]
        simp
      have key : r.key = (false, r.typeName) := AddRequest.key_of_point asked point
      have some : 0 < b.entries.countP (·.key == r.key) := by
        refine List.countP_pos_iff.2 ⟨_, listed, beq_iff_eq.2 ?_⟩
        rw [key, ← single, ← plain]
        rfl
      obtain ⟨e, old, same⟩ := List.countP_pos_iff.1 (some.trans_le count)
      rw [key, beq_iff_eq] at same
      obtain ⟨plain', name'⟩ := Prod.mk.inj same
      exact CompilationUnit.mem_meanings_of_entry old plain' known ofType.single direct
        (.inl ⟨name', ofType.ne_empty⟩)
    · exact absurd ((congrArg Import.packageName made).symm.trans package)
        ((types r' mem' none).not_wildcard none ((congrArg Import.isWildcard made).symm.trans star))

/-- A type that is asked for and for which no import is added is among those that its simple name
may mean. So its simple name means it, unless another type goes in front of it. A type inside of
another one is left out where the unit imports the package of the two on demand. -/
theorem unmet_request_means (u : CompilationUnit) {classpath : Classpath}
    {bindings : List (String × JavaType)}
    {adds : List AddRequest} (types : ∀ r ∈ adds, r.member = none → r.OfType) {n n' : NodeId}
    {out : Edited CompilationUnit}
      (met : (u.attribute classpath bindings).meetRequests { adds } n = .ok (out, n'))
    {r : AddRequest} (mem : r ∈ adds) (asked : r.member = none) (always : r.ifReferenced = false)
    (unmet : out.value.entries.countP (·.key == r.key) ≤
      (u.attribute classpath bindings).entries.countP (·.key == r.key))
    (known : classpath.contains r.typeName = true)
    (direct : r.typeName = packageOf r.typeName ++ "." ++ simpleNameOf r.typeName ∨
      some (packageOf r.typeName) ∉ u.imports.map (·.element.demandPackage?)) :
    ∃ front back, u.meanings classpath (simpleNameOf r.typeName) = front ++ r.typeName :: back ∧
      (Attribution.namesOf u classpath).resolveSimple? (simpleNameOf r.typeName) =
        (front ++ [r.typeName]).head? := by
  have ofType := types r mem asked
  suffices there : r.typeName ∈ u.meanings classpath (simpleNameOf r.typeName) by
    obtain ⟨front, back, split⟩ := List.append_of_mem there
    refine ⟨front, back, split, ?_⟩
    rw [u.resolveSimple?_eq, split]
    cases front <;> rfl
  obtain ⟨b, grown, count, visible | covers⟩ :=
    ImportBlock.exists_of_unmet met mem asked always unmet
  · obtain ⟨package, name, some, whole, free, place⟩ :=
      ImportBlock.exists_of_isVisible ofType visible
    have simple : simpleNameOf r.typeName = name := by rw [whole, simpleNameOf_append free]
    rw [simple, whole]
    refine CompilationUnit.mem_meanings_of_package (whole ▸ known)
      (place.imp_right fun own => .inl ⟨some, ?_⟩)
    exact grown.package.symm.trans own
  · exact grown.mem_meanings types ofType asked count known direct covers

/-- Two packages, and a type inside of another one. -/
def twoPackages : Classpath := ⟨"", [{ fqn := "a.C" }, { fqn := "b.C" }, { fqn := "a.B.D" }], []⟩

def twoDemands : String := "import a.*; import b.*; class T \x7b \x7d"

/-- The first one of two packages that have a type of the name. -/
theorem unmet_request_means_first :
    let r : AddRequest := ⟨"a.C", none, false⟩
    ∃ u n out n' front back, parseUnit "T.java" twoDemands 0 = .ok (u, n) ∧
      (∀ r' ∈ [r], r'.member = none → r'.OfType) ∧
      (u.attribute twoPackages []).meetRequests { adds := [r] } n = .ok (out, n') ∧
      out.value.entries.countP (·.key == r.key) ≤ (u.attribute twoPackages []).entries.countP
        (·.key == r.key) ∧
      twoPackages.contains r.typeName = true ∧
      (r.typeName = packageOf r.typeName ++ "." ++ simpleNameOf r.typeName ∨
        some (packageOf r.typeName) ∉ u.imports.map (·.element.demandPackage?)) ∧
      u.meanings twoPackages (simpleNameOf r.typeName) = front ++ r.typeName :: back ∧
      (Attribution.namesOf u twoPackages).resolveSimple? (simpleNameOf r.typeName) =
        (front ++ [r.typeName]).head? := by
  intro r
  have types : ∀ r' ∈ [r], r'.member = none → r'.OfType := by
    rintro r' mem -
    obtain rfl := List.mem_singleton.1 mem
    exact ⟨by decide +kernel, by decide +kernel⟩
  have run : (parseUnit "T.java" twoDemands 0).toOption.any (fun parsed =>
      ((parsed.1.attribute twoPackages []).meetRequests { adds := [r] } parsed.2).toOption.any
        fun met =>
        decide (met.1.value.entries.countP (·.key == r.key) ≤
          (parsed.1.attribute twoPackages []).entries.countP (·.key == r.key))) = true := by
    unfold parseUnit tokenize
    rw [Text.toList_closed twoDemands rfl]
    decide +kernel
  obtain ⟨⟨u, n⟩, parsed, run⟩ := exists_of_any run
  obtain ⟨⟨out, n'⟩, met, unmet⟩ := exists_of_any run
  have known : twoPackages.contains r.typeName = true := by decide +kernel
  have top : r.typeName = packageOf r.typeName ++ "." ++ simpleNameOf r.typeName :=
    by decide +kernel
  obtain ⟨front, back, means⟩ := unmet_request_means u types met (List.mem_singleton_self r) rfl rfl
    (of_decide_eq_true unmet) known (.inl top)
  exact ⟨u, n, out, n', front, back, parsed, types, met, of_decide_eq_true unmet, known, .inl top,
    means⟩

/-- A type of the second package, and a type inside of another one, are left without an import
although their simple names mean another type and none. -/
theorem unmet_requests_hidden :
    let rs : List AddRequest := [⟨"b.C", none, false⟩, ⟨"a.B.D", none, false⟩]
    ∃ u n out n', parseUnit "T.java" twoDemands 0 = .ok (u, n) ∧
      (∀ r ∈ rs, twoPackages.contains r.typeName = true ∧
        ∃ s ∈ Text.split '.' r.typeName, s.toList.head?.any Char.isUpper = true) ∧
      (u.attribute twoPackages []).meetRequests { adds := rs } n = .ok (out, n') ∧
      out.value.entries.map Import.key = (u.attribute twoPackages []).entries.map Import.key ∧
      rs.map (fun r =>
          (Attribution.namesOf u twoPackages).resolveSimple? (simpleNameOf r.typeName)) =
        [some "a.C", none] := by
  intro rs
  have run : (parseUnit "T.java" twoDemands 0).toOption.any (fun parsed =>
      ((parsed.1.attribute twoPackages []).meetRequests { adds := rs } parsed.2).toOption.any
        fun met =>
        met.1.value.entries.map Import.key == (parsed.1.attribute twoPackages []).entries.map
          Import.key &&
          rs.map (fun r => (Attribution.namesOf parsed.1 twoPackages).resolveSimple?
            (simpleNameOf r.typeName)) ==
            [some "a.C", none]) = true := by
    unfold parseUnit tokenize
    rw [Text.toList_closed twoDemands rfl]
    decide +kernel
  obtain ⟨⟨u, n⟩, parsed, run⟩ := exists_of_any run
  obtain ⟨⟨out, n'⟩, met, found⟩ := exists_of_any run
  obtain ⟨kept, meant⟩ := Bool.and_eq_true_iff.1 found
  exact ⟨u, n, out, n', parsed, by decide +kernel, met, beq_iff_eq.1 kept, beq_iff_eq.1 meant⟩

end Retouch
