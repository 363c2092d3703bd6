import Retouch.Attribution.Basic
import Retouch.Proofs.Import.Removal
import Retouch.Proofs.Outcome
import Retouch.Proofs.Text.Split

/-!
# What removals leave provided

A name that a unit refers to needs an import that provides it (`Import.ProvidesType`,
`Import.ProvidesMember`). Removals look at the references of the unit: what was provided before them
is provided behind them, with two exceptions.

* An import of everything in a package counts for the classes whose package it is by the spelling of
  their names (`packageOf`). So `a.B.*` does not count for `a.B.C`, and is lost
  (`nestedImport_lost`).
* An import of all members of a type does not count for a member as soon as a single import has the
  name of that member, whatever type the single import draws from.

`meetRequests_inv` is the rule for what requests keep: it is enough to look at one import that is
added, and at one that nothing needs (`Dispensable`) and is dropped.
-/

namespace Retouch

/-! ## Names -/

theorem simpleNameOf_append {outer name : String} (h : '.' ∉ name.toList) :
    simpleNameOf (outer ++ "." ++ name) = name := by
  have dot : ".".toList = ['.'] := rfl
  simp [simpleNameOf, Text.split, dot, Text.splitChars_append_sep, Text.splitChars_free h]

/-! ## Imports that provide a name -/

namespace Import

/-- The class can be named by its simple name. A star is no such name. -/
def ProvidesType (i : Import) (fqn : String) : Prop :=
  i.isStatic = false ∧
    if i.isWildcard then simpleNameOf fqn ≠ "*" ∧ fqn = i.packageName ++ "." ++ simpleNameOf fqn
    else i.fullName = fqn

instance (i : Import) (fqn : String) : Decidable (i.ProvidesType fqn) :=
  inferInstanceAs (Decidable (i.isStatic = false ∧
    if i.isWildcard then simpleNameOf fqn ≠ "*" ∧ fqn = i.packageName ++ "." ++ simpleNameOf fqn
    else i.fullName = fqn))

/-- The static member `name` that `declaring` declares can be named without a qualifier: the import
draws from that type, or from one below it. -/
def ProvidesMember (i : Import) (declaring : ClassType) (name : String) : Prop :=
  i.isStatic = true ∧ name ≠ "*" ∧ (i.member? = some name ∨ i.member? = some "*") ∧
    ∃ typeName, i.typeName? = some typeName ∧
      (declaring.fqn = typeName ∨
        i.name.target.type.class?.any (·.isSubtypeOf declaring.fqn) = true)

theorem fullName_eq (i : Import) :
    i.fullName = (i.name.target.qualifiedName?.map (· ++ "." ++ i.name.name.name)).getD "" := by
  obtain ⟨_, _, _, ⟨_, _, target, _, name, _⟩⟩ := i
  simp [fullName, Expression.qualifiedName?]

/-- The name of an import of a package ends in a star. -/
theorem simpleNameOf_fullName {i : Import} (h : i.isWildcard = true) (named : i.fullName ≠ "") :
    simpleNameOf i.fullName = "*" := by
  have star : i.name.name.name = "*" := by simpa [isWildcard] using h
  rw [fullName_eq, star] at named ⊢
  generalize i.name.target.qualifiedName? = outer? at named ⊢
  rcases outer? with _ | outer
  · exact absurd rfl named
  · exact simpleNameOf_append (by decide)

/-- A single import of a class provides it. -/
theorem providesType_of_fullName {i : Import} {fqn : String} (other : i.isStatic = false)
    (named : i.fullName = fqn) (nonempty : fqn ≠ "") (plain : simpleNameOf fqn ≠ "*") :
    i.ProvidesType fqn := by
  subst named
  refine ⟨other, ?_⟩
  split
  · next star => exact absurd (simpleNameOf_fullName star nonempty) plain
  · rfl

end Import

/-- The last segment of the name of a new static import is its member. -/
theorem member?_importNode {owner member : String} (h : '.' ∉ member.toList) (n : NodeId) :
    (importNode (owner ++ "." ++ member) true n).1.element.member? = some member := by
  have dot : ".".toList = ['.'] := rfl
  have segments : Text.split '.' (owner ++ "." ++ member) = Text.split '.' owner ++ [member] := by
    simp [Text.split, dot, Text.splitChars_append_sep, Text.splitChars_free h]
  rcases parts : Text.split '.' owner with _ | ⟨first, rest⟩
  · exact absurd parts (by simp [Text.split, Text.splitChars_ne_nil])
  · rw [parts, List.cons_append] at segments
    simp [importNode, segments, qualifiedExpression, List.foldl_append, Expression.withLeading,
      Import.member?, Import.isStatic, Padded.tight]

/-! ## Dropping one import -/

namespace ImportBlock

variable {refs : References} {b : ImportBlock} {i : Import} {asType : Bool} {name : String}

/-- Nothing needs the import. -/
inductive Dispensable (refs : References) (b : ImportBlock) (i : Import) : Prop
  | members : i.isStatic = true → b.staticNeeded refs i = false → Dispensable refs b i
  | package : i.isStatic = false → i.isWildcard = true → b.packageNeeded refs i = false →
      Dispensable refs b i
  | single : i.isStatic = false → i.isWildcard = false → refs.usesType i.fullName = false →
      Dispensable refs b i

/-- The trivia in front of an import does not matter. -/
theorem Dispensable.entry (h : b.Dispensable refs i) : b.Dispensable refs i.entry := by
  cases h with
  | members isStatic unneeded => exact .members isStatic unneeded
  | package other star unneeded => exact .package other star unneeded
  | single other plain unneeded => exact .single other plain unneeded

theorem dispensable_of_unusedAsType (h : b.unusedAsType refs name i = true) :
    b.Dispensable refs i := by
  unfold unusedAsType at h
  split at h
  · simp only [Bool.and_eq_true, Bool.not_eq_true', beq_iff_eq] at h
    exact .package h.1.1.1 h.1.1.2 h.2
  · next typed =>
    have typed : i.typeName? = some name := by simpa using typed
    cases isStatic : i.isStatic with
    | true =>
      simp only [isStatic, if_true, Bool.not_eq_true'] at h
      exact .members isStatic h
    | false =>
      simp only [isStatic, Bool.false_eq_true, if_false, Bool.not_eq_true'] at h
      cases star : i.isWildcard with
      | true => simp [Import.typeName?, isStatic, star] at typed
      | false =>
        have named : i.fullName = name := by simpa [Import.typeName?, isStatic, star] using typed
        exact .single isStatic star (named ▸ h)

theorem dispensable_of_unusedAsMember (h : b.unusedAsMember refs name i = true) :
    b.Dispensable refs i := by
  unfold unusedAsMember at h
  split at h
  · cases h
  · simp only [Bool.and_eq_true, Bool.not_eq_true'] at h
    exact .members h.1.1.1 h.2

/-- Whatever a request names, only an import that nothing needs is dropped. -/
theorem dispensable_of_isUnused (h : b.isUnused refs asType name i = true) :
    b.Dispensable refs i := by
  unfold isUnused at h
  split at h
  · exact dispensable_of_unusedAsType h
  · cases isStatic : i.isStatic with
    | true =>
      simp only [isStatic, if_true] at h
      exact dispensable_of_unusedAsMember h
    | false =>
      simp only [isStatic, Bool.false_eq_true, if_false] at h
      split at h
      · simp only [Bool.and_eq_true, Bool.not_eq_true'] at h
        exact .package isStatic h.1.1 h.2
      · exact dispensable_of_unusedAsMember h

/-- What dropping one unused import keeps, removals keep. -/
theorem removes_keep (Inv : ImportBlock → Prop) {names : List String}
    (step : ∀ (b : ImportBlock) (k : Nat) (p : Padded Import) (asType : Bool), ∀ name ∈ names,
      b.imports[k]? = some p → b.isUnused refs asType name p.element = true → Inv b →
      Inv (b.eraseAt k))
    (h : Inv b) : Inv (names.foldl (ImportBlock.remove refs) b) := by
  have sweeps (asType : Bool) (name : String) (mem : name ∈ names) (count k : Nat) (b : ImportBlock)
      (h : Inv b) : Inv (sweep refs asType name count k b) := by
    induction count generalizing k b with
    | zero => exact h
    | succ count ih =>
      rw [sweep]
      split
      · next dropped =>
        obtain ⟨p, here, unused⟩ := (Option.any_eq_true ..).1 dropped
        exact ih k _ (step b k p asType name mem here unused h)
      · exact ih (k + 1) b h
  induction names generalizing b with
  | nil => exact h
  | cons name names ih =>
    exact ih (fun b k p asType other mem => step b k p asType other (List.mem_cons_of_mem _ mem))
      (sweeps _ _ List.mem_cons_self _ _ _ h)
      fun asType other mem => sweeps asType other (List.mem_cons_of_mem _ mem)

/-- What dropping one import that nothing needs keeps, removals keep. -/
theorem removes_inv {Inv : List Import → Prop}
    (step : ∀ (b : ImportBlock) (k : Nat) (i : Import), b.entries[k]? = some i →
      b.Dispensable refs i → Inv b.entries → Inv (b.entries.eraseIdx k))
    (names : List String) (h : Inv b.entries) :
    Inv (names.foldl (ImportBlock.remove refs) b).entries := by
  refine removes_keep (fun b => Inv b.entries) (fun b k p asType name _ here unused h => ?_) h
  rw [entries_eraseAt b (List.getElem?_eq_some_iff.1 here).1]
  exact step b k p.element.entry (by simp [entries, here]) (dispensable_of_isUnused unused).entry h

/-! ## What stays provided -/

section Provided

variable {es : List Import} {k : Nat} {P : Import → Prop}

theorem mem_eraseIdx_of_ne {e : Import} (mem : e ∈ es) (here : es[k]? = some i) (ne : e ≠ i) :
    e ∈ es.eraseIdx k := by
  obtain ⟨j, there⟩ := List.mem_iff_getElem?.1 mem
  refine List.mem_eraseIdx_iff_getElem?.2 ⟨j, ?_, there⟩
  rintro rfl
  exact ne (Option.some.inj (there.symm.trans here))

/-- The provider stays, or it is the import that is dropped. -/
theorem provider_cases (h : ∃ e ∈ es, P e) (here : es[k]? = some i) :
    (∃ e ∈ es.eraseIdx k, P e) ∨ P i := by
  obtain ⟨e, mem, holds⟩ := h
  by_cases same : e = i
  · exact .inr (same ▸ holds)
  · exact .inl ⟨e, mem_eraseIdx_of_ne mem here same, holds⟩

/-- An import provides the class, and one of a package does so by the spelling of the name. -/
def TypeProvided (c : ClassType) (es : List Import) : Prop :=
  ∃ e ∈ es, e.ProvidesType c.fqn ∧ (e.isWildcard = true → c.packageName = e.packageName)

/-- Some import passes `P`; if it is one of all members, then so does every single import of the
member. -/
def MemberProvided (P : Import → Prop) (member : String) (es : List Import) : Prop :=
  ∃ e ∈ es, P e ∧ (e.isWildcard = true →
    ∀ o ∈ es, o.isStatic = true → o.member? = some member → P o)

/-- A class of an imported package that is not missed has an import of its own. -/
theorem exists_single {c : ClassType} (used : c ∈ refs.types)
    (spelled : c.packageName = i.packageName)
    (unneeded : b.packageNeeded refs i = false) :
    ∃ e ∈ b.entries, e.isStatic = false ∧ e.fullName = c.fqn := by
  have all := List.any_eq_false.1 unneeded c used
  simp only [spelled, beq_self_eq_true, Bool.true_and, Bool.not_eq_true', Bool.not_eq_false] at all
  obtain ⟨p, mem, single⟩ := List.any_eq_true.1 all
  simp only [Bool.and_eq_true, Bool.not_eq_true', beq_iff_eq] at single
  exact ⟨p.element.entry, List.mem_map_of_mem mem, single⟩

theorem typeProvided_step {c : ClassType} (used : c ∈ refs.types) (here : b.entries[k]? = some i)
    (unneeded : b.Dispensable refs i) (h : TypeProvided c b.entries) :
    TypeProvided c (b.entries.eraseIdx k) := by
  obtain stays | ⟨⟨other, provides⟩, spelled⟩ := provider_cases h here
  · exact stays
  cases unneeded with
  | members isStatic _ => simp [isStatic] at other
  | package _ star unneeded =>
    obtain ⟨plain, named⟩ : simpleNameOf c.fqn ≠ "*" ∧
        c.fqn = i.packageName ++ "." ++ simpleNameOf c.fqn := by simpa [star] using provides
    have nonempty : c.fqn ≠ "" := by
      intro empty
      have length := congrArg String.length named
      have dot : ".".length = 1 := rfl
      simp only [empty, String.length_append, String.length_empty] at length
      omega
    obtain ⟨e, mem, other', single⟩ := exists_single used (spelled star) unneeded
    -- The name of `e` does not end in a star, so `e` is not the import that is dropped.
    have unlike : e.isWildcard = false := by
      by_contra star'
      have ends := Import.simpleNameOf_fullName (i := e) (by simpa using star') (single ▸ nonempty)
      exact plain (single ▸ ends)
    refine ⟨e, mem_eraseIdx_of_ne mem here ?_, ?_, by simp [unlike]⟩
    · rintro rfl
      simp [star] at unlike
    · exact Import.providesType_of_fullName other' single nonempty plain
  | single _ plain unneeded =>
    have named : i.fullName = c.fqn := by simpa [plain] using provides
    rw [References.usesType, List.any_eq_false] at unneeded
    exact absurd named.symm (by simpa using unneeded c used)

theorem mem_staticUses {declaring : ClassType} {member typeName : String} {owner : Option ClassType}
    (used : (declaring, member) ∈ refs.statics)
    (drawn : declaring.fqn = typeName ∨ owner.any (·.isSubtypeOf declaring.fqn) = true) :
    member ∈ refs.staticUses typeName owner := by
  refine List.mem_map.2 ⟨(declaring, member), List.mem_filter.2 ⟨used, ?_⟩, rfl⟩
  simpa using drawn

theorem memberProvided_step {declaring : ClassType} {member : String}
    (used : (declaring, member) ∈ refs.statics)
    (provider : ∀ e, P e → e.ProvidesMember declaring member) (here : b.entries[k]? = some i)
    (unneeded : b.Dispensable refs i) (h : MemberProvided P member b.entries) :
    MemberProvided P member (b.entries.eraseIdx k) := by
  obtain ⟨e, mem, holds, singles⟩ := h
  by_cases same : e = i
  swap
  · exact ⟨e, mem_eraseIdx_of_ne mem here same, holds, fun star o mem' =>
      singles star o (List.mem_of_mem_eraseIdx mem')⟩
  subst same
  obtain ⟨isStatic, plain, named, typeName, drawsFrom, drawn⟩ := provider e holds
  cases unneeded with
  | package other => simp [isStatic] at other
  | single other => simp [isStatic] at other
  | members _ unneeded =>
    have uses := mem_staticUses used drawn
    rcases named with named | star
    · -- A single import of a member in use is needed.
      simp [staticNeeded, drawsFrom, named, plain, uses] at unneeded
    · have single : b.hasSingleStatic member = true := by
        simp only [staticNeeded, drawsFrom, star, beq_self_eq_true, if_true, List.any_eq_false,
          Bool.not_eq_true', Bool.not_eq_false] at unneeded
        exact unneeded member uses
      obtain ⟨p, mem', single⟩ := List.any_eq_true.1 single
      simp only [Bool.and_eq_true, beq_iff_eq] at single
      have wild : e.isWildcard = true := by
        simpa [Import.member?, isStatic, Import.isWildcard] using star
      have holds' := singles wild p.element.entry (List.mem_map_of_mem mem') single.1 single.2
      refine ⟨p.element.entry, mem_eraseIdx_of_ne (List.mem_map_of_mem mem') here ?_, holds', ?_⟩
      · rintro rfl
        exact plain (Option.some.inj (single.2.symm.trans star))
      · intro wild'
        have star' : p.element.name.name.name = "*" := by
          simpa [Import.isWildcard, Import.entry] using wild'
        have named' : p.element.name.name.name = member := by
          simpa [Import.member?, single.1] using single.2
        exact absurd (named'.symm.trans star') plain

end Provided

end ImportBlock

namespace CompilationUnit

/-- The imports of the unit without the trivia in front of them. -/
def entries (u : CompilationUnit) : List Import := u.imports.map (·.element.entry)

theorem entries_withBlock (u : CompilationUnit) (b : ImportBlock) :
    (u.withBlock b).value.entries = if b.changed then b.entries else u.entries := by
  obtain ⟨s, value⟩ := u.withBlock_value b
  rw [value, entries, ImportBlock.entries, entries]
  cases b.changed <;> rfl

open ImportBlock

/-- What is kept by adding the static members that are asked for and by dropping an import that
nothing needs, requests keep. -/
theorem meetRequests_inv {u : CompilationUnit} {rs : ImportRequests} {out : Edited CompilationUnit}
    {n n' : NodeId} (met : u.meetRequests rs n = .ok (out, n')) {Inv : List Import → Prop}
    (members : ∀ r ∈ rs.adds, r.member.isSome = true)
    (grow : ∀ (es : List Import) (k : Nat) (n : NodeId), ∀ r ∈ rs.adds, Inv es →
      Inv (es.insertIdx k (importNode r.name true n).1.element.entry))
    (drop : ∀ (b : ImportBlock) (k : Nat) (i : Import), b.entries[k]? = some i →
      b.Dispensable u.references i → Inv b.entries → Inv (b.entries.eraseIdx k))
    (h : Inv u.entries) : Inv out.value.entries := by
  obtain ⟨b, added, holds⟩ := adds_ok (P := fun b => Inv b.entries) u.references
    (b := u.importBlock n) (fun b r mem holds => by
      obtain ⟨b', added, same | ⟨k, n, inserted⟩⟩ := b.add_member u.references (members r mem)
      · exact ⟨b', added, same ▸ holds⟩
      · exact ⟨b', added, inserted ▸ grow _ k n r mem holds⟩) h
  rw [meetRequests_eq, added] at met
  obtain ⟨rfl, -⟩ := Prod.mk.inj (Except.ok.inj met)
  rw [entries_withBlock]
  split
  · exact removes_inv drop rs.removes holds
  · exact h

end CompilationUnit

/-- Removals keep every reference of the unit provided for. An import of a package has to name the
package that the spelling of the class tells, and next to an import of all members of a type every
single import of the member has to provide it as well. -/
theorem removals_keep_provided (u : CompilationUnit) (names : List String) :
    ∃ out, (∀ n, u.meetRequests { removes := names } n = .ok (out, n)) ∧
      (∀ c ∈ u.references.types, ∀ p ∈ u.imports, p.element.ProvidesType c.fqn →
        (p.element.isWildcard = true → c.packageName = p.element.packageName) →
        ∃ q ∈ out.value.imports, q.element.ProvidesType c.fqn) ∧
      ∀ declaring member, (declaring, member) ∈ u.references.statics →
        ∀ p ∈ u.imports, p.element.ProvidesMember declaring member →
          (p.element.isWildcard = true → ∀ o ∈ u.imports, o.element.isStatic = true →
            o.element.member? = some member → o.element.ProvidesMember declaring member) →
          ∃ q ∈ out.value.imports, q.element.ProvidesMember declaring member := by
  obtain ⟨out, met⟩ := u.meetRequests_removes names
  refine ⟨out, met, fun c used p mem provides spelled => ?_,
    fun declaring member used p mem provides singles => ?_⟩
  · have before : ImportBlock.TypeProvided c u.entries :=
      ⟨p.element.entry, List.mem_map_of_mem mem, provides, spelled⟩
    obtain ⟨e, mem', provides', -⟩ := CompilationUnit.meetRequests_inv (met 0)
      (List.forall_mem_nil _) (fun _ _ _ _ mem => absurd mem List.not_mem_nil)
      (fun _ _ _ => ImportBlock.typeProvided_step used) before
    obtain ⟨q, there, rfl⟩ := List.mem_map.1 mem'
    exact ⟨q, there, provides'⟩
  · have before :
        ImportBlock.MemberProvided (·.ProvidesMember declaring member) member u.entries := by
      refine ⟨p.element.entry, List.mem_map_of_mem mem, provides, fun star o mem' => ?_⟩
      obtain ⟨q, there, rfl⟩ := List.mem_map.1 mem'
      exact singles star q there
    obtain ⟨e, mem', provides', -⟩ := CompilationUnit.meetRequests_inv (met 0)
      (List.forall_mem_nil _) (fun _ _ _ _ mem => absurd mem List.not_mem_nil)
      (fun _ _ _ => ImportBlock.memberProvided_step used fun _ holds => holds) before
    obtain ⟨q, there, rfl⟩ := List.mem_map.1 mem'
    exact ⟨q, there, provides'⟩

/-- An import of everything in a class is removed on request although a nested class is in use that
nothing else provides. -/
theorem nestedImport_lost :
    let classpath : Classpath := ⟨"", [{ fqn := "a.B.C" }], [("a.B.C", .leaf "a.B.C" .clazz)]⟩
    ∃ u n, parseSource classpath [] "T.java" "import a.B.*; class T \x7b C c; \x7d" 0 = .ok (u, n) ∧
      ∃ c ∈ u.references.types, (∃ p ∈ u.imports, p.element.ProvidesType c.fqn) ∧
        ∃ out m, u.meetRequests { removes := ["a.B.*"] } n = .ok (out, m) ∧
          ¬∃ q ∈ out.value.imports, q.element.ProvidesType c.fqn := by
  intro classpath
  have lost : (parseSource classpath [] "T.java" "import a.B.*; class T \x7b C c; \x7d"
    0).toOption.any
      (fun parsed => parsed.1.references.types.any fun c =>
        parsed.1.imports.any (fun p => decide (p.element.ProvidesType c.fqn)) &&
          (parsed.1.meetRequests { removes := ["a.B.*"] } parsed.2).toOption.any fun met =>
            !met.1.value.imports.any fun q => decide (q.element.ProvidesType c.fqn)) = true := by
    unfold parseSource parseUnit tokenize
    rw [Text.toList_closed "import a.B.*; class T \x7b C c; \x7d" rfl]
    decide +kernel
  obtain ⟨⟨u, n⟩, parsed, lost⟩ := exists_of_any lost
  simp only [List.any_eq_true, Bool.and_eq_true] at lost
  obtain ⟨c, used, ⟨p, mem, provides⟩, gone⟩ := lost
  obtain ⟨⟨out, m⟩, met, gone⟩ := exists_of_any gone
  exact ⟨u, n, parsed, c, used, ⟨p, mem, by simpa using provides⟩, out, m, met, by simpa using gone⟩

end Retouch
