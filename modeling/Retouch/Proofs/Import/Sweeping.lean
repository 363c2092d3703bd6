import Retouch.Proofs.Import.Closure
import Retouch.Proofs.Import.Named
import Retouch.Proofs.Text.Closed

/-!
# What removals take out

A removal looks at the imports one after the other, and the list gets shorter on the way.
Every import is looked at, and that a single import stays which is in use is kept by everything that is
dropped: so an import that nothing needs is gone behind a removal that names it
(`removals_drop_idle`).

A name is read as that of a type if any import has a type of this name, and else as that of a member
or of a package. An import of a package counts as needed for all classes whose package it is by the
spelling of their names, also for those in other classes.
-/

namespace Retouch

theorem Text.dropTail?_append (s tail : String) : dropTail? tail (s ++ tail) = some s := by
  have cut : tail.toList.isSuffixOf? (s.toList ++ tail.toList) = some s.toList :=
    List.isSuffixOf?_eq_some_iff_append_eq.2 rfl
  simp [dropTail?, cut]

namespace Import

/-- The single import of a class. -/
def IsSingle (fqn : String) (i : Import) : Prop := i.isStatic = false ∧ i.isWildcard = false ∧
    i.fullName = fqn

/-- A removal of the name is about the import: it names the type, the static member behind its type,
or the package with a star behind it. Where some import has a type of this name, it names that type
and nothing else. -/
inductive NamedBy (imports : List Import) (name : String) (i : Import) : Prop
  | type : i.typeName? = some name → NamedBy imports name i
  | member {owner member : String} : i.isStatic = true → i.isWildcard = false →
    i.typeName? = some owner →
      i.member? = some member → name = owner ++ "." ++ member →
        (∀ e ∈ imports, e.typeName? ≠ some name) →
      NamedBy imports name i
  | package : i.isStatic = false → i.isWildcard = true → i.fullName = name →
      (∀ e ∈ imports, e.typeName? ≠ some name) → NamedBy imports name i

end Import

/-- Nothing in the unit needs the import: what it provides alone is not referred to, and what it
provides with a star has a single import. -/
structure CompilationUnit.Idle (u : CompilationUnit) (i : Import) : Prop where
  single : i.isStatic = false → i.isWildcard = false → ∀ c ∈ u.references.types, c.fqn ≠ i.fullName
  package : i.isStatic = false → i.isWildcard = true → ∀ c ∈ u.references.types,
    c.packageName = i.packageName →
    ∃ e ∈ u.entries, e.IsSingle c.fqn
  members : ∀ declaring member, (declaring, member) ∈ u.references.statics →
    i.ProvidesMember declaring member →
    i.isWildcard = true ∧ ∃ e ∈ u.entries, e.isWildcard = false ∧ e.ProvidesMember declaring member

namespace ImportBlock

variable {refs : References} {b : ImportBlock} {i : Import} {asType : Bool} {name : String}

/-- What removals keep for an import that is to go: the imports are some of those that were there,
and every name in use that a star provides has its single import still. -/
structure Spares (refs : References) (before : List Import) (i : Import) (es : List Import) :
    Prop where
  subset : es ⊆ before
  types : i.isStatic = false → i.isWildcard = true → ∀ c ∈ refs.types,
    c.packageName = i.packageName →
    ∃ e ∈ es, e.IsSingle c.fqn
  members : ∀ declaring member, (declaring, member) ∈ refs.statics →
    i.ProvidesMember declaring member →
    i.isWildcard = true ∧ ∃ e ∈ es, e.isWildcard = false ∧ e.ProvidesMember declaring member

variable {before : List Import}

theorem Spares.erase {k : Nat} {e : Import} (here : b.entries[k]? = some e)
    (unneeded : b.Dispensable refs e)
    (h : Spares refs before i b.entries) : Spares refs before i (b.entries.eraseIdx k) where
  subset _ mem := h.subset (List.mem_of_mem_eraseIdx mem)
  types other star c used spelled := by
    obtain stays | ⟨static, plain, named⟩ := provider_cases (h.types other star c used spelled) here
    · exact stays
    · cases unneeded with
      | members isStatic => simp [static] at isStatic
      | package _ wild => simp [plain] at wild
      | single _ _ unused =>
        rw [References.usesType, List.any_eq_false] at unused
        exact absurd (beq_iff_eq.2 named.symm) (unused c used)
  members declaring member used provides := by
    obtain ⟨star, o, mem, plain, provides'⟩ := h.members declaring member used provides
    have given : MemberProvided (fun o => o.isWildcard = false ∧ o.ProvidesMember declaring member)
      member b.entries :=
      ⟨o, mem, ⟨plain, provides'⟩, fun wild => by simp [plain] at wild⟩
    obtain ⟨o', mem', holds, -⟩ :=
      memberProvided_step used (fun _ held => held.2) here unneeded given
    exact ⟨star, o', mem', holds⟩

/-- A single import of a static member is not needed if nothing refers to the member, one of all
members if every member in use has a single import. -/
theorem Spares.staticNeeded (h : Spares refs before i b.entries) (isStatic : i.isStatic = true)
    (outer : i.name.target.qualifiedName?.isSome = true) (there : i ∈ b.entries) :
      b.staticNeeded refs i = false := by
  obtain ⟨typeName, typed⟩ := Option.isSome_iff_exists.1 outer
  have typed : i.typeName? = some typeName := by simp [Import.typeName?, isStatic, typed]
  have membered : i.member? = some i.name.name.name := by simp [Import.member?, isStatic]
  have used {member : String} (mem : member ∈ refs.staticUses typeName i.name.target.type.class?) :
      ∃ declaring, (declaring, member) ∈ refs.statics ∧
        (declaring.fqn = typeName ∨
          i.name.target.type.class?.any (·.isSubtypeOf declaring.fqn) = true) := by
    obtain ⟨⟨declaring, _⟩, listed, rfl⟩ := List.mem_map.1 mem
    obtain ⟨used, drawn⟩ := List.mem_filter.1 listed
    exact ⟨declaring, used, by simpa using drawn⟩
  simp only [ImportBlock.staticNeeded, typed, membered]
  split
  · next star =>
    have star : i.name.name.name = "*" := by simpa using star
    refine List.any_eq_false.2 fun member mem => ?_
    suffices b.hasSingleStatic member = true by simp [this]
    obtain ⟨declaring, mem, drawn⟩ := used mem
    by_cases starred : member = "*"
    · -- No member has this name; if one had it, then this import would be its single one.
      obtain ⟨p, listed, rfl⟩ := List.mem_map.1 there
      refine List.any_eq_true.2 ⟨p, listed, ?_⟩
      have isStatic : p.element.isStatic = true := isStatic
      have star : p.element.name.name.name = "*" := star
      simp [Import.member?, isStatic, star, starred]
    · have provides : i.ProvidesMember declaring member :=
        ⟨isStatic, starred, .inr (star ▸ membered), typeName, typed, drawn⟩
      obtain ⟨-, e, there, plain, isStatic', -, named, -⟩ := h.members declaring member mem provides
      obtain ⟨p, listed, rfl⟩ := List.mem_map.1 there
      refine List.any_eq_true.2 ⟨p, listed, ?_⟩
      have named : p.element.entry.member? = some member :=
        named.resolve_right fun wild => by
          simp [Import.member?, isStatic', Import.isWildcard] at wild plain
          exact plain wild
      exact Bool.and_eq_true_iff.2 ⟨isStatic', beq_iff_eq.2 named⟩
  · next plain =>
    refine Bool.eq_false_iff.2 fun contained => plain ?_
    obtain ⟨declaring, mem, drawn⟩ := used (List.contains_iff_mem.1 contained)
    have plain : i.name.name.name ≠ "*" := by simpa using plain
    exact (h.members declaring _ mem ⟨isStatic, plain, .inl membered, typeName, typed, drawn⟩).1

theorem Spares.packageNeeded (h : Spares refs before i b.entries) (other : i.isStatic = false)
    (star : i.isWildcard = true) : b.packageNeeded refs i = false := by
  refine List.any_eq_false.2 fun c used => ?_
  simp only [Bool.and_eq_true, beq_iff_eq, Bool.not_eq_true', not_and, Bool.not_eq_false]
  intro spelled
  obtain ⟨e, there, other, -, named⟩ := h.types other star c used spelled
  obtain ⟨p, listed, rfl⟩ := List.mem_map.1 there
  have other : p.element.isStatic = false := other
  exact List.any_eq_true.2
    ⟨p, listed, Bool.and_eq_true_iff.2 ⟨by rw [other]; rfl, beq_iff_eq.2 named⟩⟩

/-- As long as the import is there, a name is read as that of a type if it is the type of
this import. -/
theorem Spares.reading (h : Spares refs before i b.entries) (there : i ∈ b.entries)
    (names : i.typeName? = some name ∨ ∀ e ∈ before, e.typeName? ≠ some name) :
    (b.imports.any fun p => p.element.typeName? == some name) = (i.typeName? == some name) := by
  rcases names with typed | none
  · obtain ⟨p, mem, rfl⟩ := List.mem_map.1 there
    rw [typed, beq_self_eq_true]
    exact List.any_eq_true.2 ⟨p, mem, beq_iff_eq.2 typed⟩
  · rw [beq_eq_false_iff_ne.2 (none i (h.subset there))]
    refine List.any_eq_false.2 fun p mem typed => ?_
    exact none p.element.entry (h.subset (List.mem_map_of_mem mem)) (beq_iff_eq.1 typed)

theorem Spares.isUnused (h : Spares refs before i b.entries) (named : i.Named)
    (names : i.NamedBy before name)
    (there : i ∈ b.entries)
    (idle : i.isStatic = false → i.isWildcard = false → ∀ c ∈ refs.types, c.fqn ≠ i.fullName) :
    b.isUnused refs (i.typeName? == some name) name i = true := by
  obtain ⟨outer, outer_eq⟩ := Option.isSome_iff_exists.1 named.outer
  cases names with
  | type typed =>
    simp only [ImportBlock.isUnused, unusedAsType, typed, beq_self_eq_true, bne_self_eq_false,
      Bool.false_eq_true,
      if_false, if_true]
    split
    · next isStatic => rw [h.staticNeeded isStatic named.outer there, Bool.not_false]
    · next other =>
      have other : i.isStatic = false := by simpa using other
      have plain : i.isWildcard = false := by
        by_contra star
        simp [Import.typeName?, other, star] at typed
      have full : i.fullName = name := by simpa [Import.typeName?, other, plain] using typed
      rw [References.usesType, Bool.not_eq_true', List.any_eq_false]
      exact fun c used same => idle other plain c used (full.symm ▸ beq_iff_eq.1 same)
  | member isStatic plain typed membered spelled none =>
    next owner member =>
    have free : '.' ∉ member.toList := by
      obtain rfl : i.name.name.name = member := by simpa [Import.member?, isStatic] using membered
      exact named.last
    have cut : Text.cutLast? '.' name = some (owner, member) :=
      spelled ▸ Text.cutLast?_append rfl owner free
    rw [beq_eq_false_iff_ne.2 (none i (h.subset there))]
    simp [ImportBlock.isUnused, unusedAsMember, isStatic, typed, membered, cut,
      h.staticNeeded isStatic named.outer there]
  | package other star full none =>
    have spelled : name = outer ++ ".*" := by
      have last : i.name.name.name = "*" := by simpa [Import.isWildcard] using star
      rw [← full, Import.fullName_eq, outer_eq, last, Option.map_some, Option.getD_some,
        String.append_assoc]
      rfl
    have package : i.packageName = outer := by simp [Import.packageName, other, star, outer_eq]
    rw [beq_eq_false_iff_ne.2 (none i (h.subset there)), spelled]
    simp [ImportBlock.isUnused, other, star, package, Text.dropTail?_append,
      h.packageNeeded other star]

/-- A sweep looks at every import. -/
theorem not_mem_sweep {Inv : List Import → Prop}
    (step : ∀ (b : ImportBlock) (k : Nat) (e : Import), b.entries[k]? = some e →
      b.Dispensable refs e →
      Inv b.entries → Inv (b.entries.eraseIdx k))
    (unused : ∀ b : ImportBlock, Inv b.entries → i ∈ b.entries →
      b.isUnused refs asType name i = true)
    {count k : Nat} (h : Inv b.entries) (left : k + count = b.entries.length)
      (behind : i ∉ b.entries.take k) :
    i ∉ (sweep refs asType name count k b).entries := by
  induction count generalizing k b with
  | zero => rwa [sweep, ← List.take_of_length_le (l := b.entries) (Nat.le_of_eq left.symm)]
  | succ count ih =>
    have inside : k < b.entries.length := by omega
    have inside' : k < b.imports.length := by simpa using inside
    have here : b.imports[k]? = some b.imports[k] := List.getElem?_eq_getElem inside'
    have there : b.entries[k]? = some b.imports[k].element.entry := by simp [entries, here]
    rw [sweep, here, Option.any_some]
    split
    · next dropped =>
      have erased := b.entries_eraseAt inside'
      refine ih ?_ ?_ ?_
      · exact erased ▸ step b k _ there (dispensable_of_isUnused dropped).entry h
      · rw [erased, List.length_eraseIdx_of_lt inside]
        omega
      · rwa [erased, List.take_eraseIdx_eq_take_of_le _ _ _ (Nat.le_refl k)]
    · next kept =>
      refine ih h (by omega) fun mem => ?_
      rw [List.take_add_one, there, Option.toList_some, List.mem_append, List.mem_singleton] at mem
      rcases mem with mem | rfl
      · exact behind mem
      · exact kept (unused b h (List.mem_of_getElem? there))

/-- An import that is gone does not come back. -/
theorem not_mem_removes (names : List String) (h : i ∉ b.entries) :
    i ∉ (names.foldl (ImportBlock.remove refs) b).entries :=
  @removes_inv refs b (i ∉ ·) (fun _ _ _ _ _ absent mem => absent (List.mem_of_mem_eraseIdx mem))
    names h

theorem Spares.not_mem_remove (h : Spares refs before i b.entries) (named : i.Named)
    (names : i.NamedBy before name)
    (idle : i.isStatic = false → i.isWildcard = false → ∀ c ∈ refs.types, c.fqn ≠ i.fullName) :
    i ∉ (b.remove refs name).entries := by
  by_cases there : i ∈ b.entries
  · have typed : i.typeName? = some name ∨ ∀ e ∈ before, e.typeName? ≠ some name := by
      cases names with
      | type typed => exact .inl typed
      | member _ _ _ _ _ none => exact .inr none
      | package _ _ _ none => exact .inr none
    rw [ImportBlock.remove, h.reading there typed]
    refine not_mem_sweep (fun _ _ _ here unneeded h => h.erase here unneeded)
      (fun b h there => h.isUnused named names there idle) h (by simp) (by simp)
  · exact not_mem_removes [name] there

theorem changed_eraseAt {k : Nat} {p : Padded Import} (here : b.imports[k]? = some p) :
    (b.eraseAt k).changed = true := by
  unfold eraseAt
  simp only [here]
  split
  · split <;> rfl
  · split <;> rfl

/-- Removals that change nothing leave all imports. -/
theorem entries_removes_of_unchanged (names : List String)
    (h : (names.foldl (ImportBlock.remove refs) b).changed = false) :
    (names.foldl (ImportBlock.remove refs) b).entries = b.entries := by
  refine removes_keep (fun b' => b'.changed = false → b'.entries = b.entries)
    (fun b' k p asType name _ here unused _ unchanged => ?_) (fun _ => rfl) h
  rw [changed_eraseAt here] at unchanged
  cases unchanged

end ImportBlock

/-- An import that nothing in the unit needs is gone behind removals that name it, whatever else
they name. A name that is the type of some import names that type. An import of a package is needed
for all classes whose package it is by the spelling of their names. -/
theorem removals_drop_idle {classpath : Classpath}
    {bindings : List (String × JavaType)} {path source : String}
    {nextId m : NodeId} {u : CompilationUnit}
      (parsed : parseSource classpath bindings path source nextId = .ok (u, m))
    (names : List String) :
    ∃ out, (∀ n, u.meetRequests { removes := names } n = .ok (out, n)) ∧
      ∀ name ∈ names, ∀ i ∈ u.entries, i.NamedBy u.entries name → u.Idle i →
        i ∉ out.value.entries := by
  obtain ⟨out, met⟩ := u.meetRequests_removes names
  refine ⟨out, met, fun name requested i mem names' idle => ?_⟩
  obtain ⟨p, listed, rfl⟩ := List.mem_map.1 mem
  have named : p.element.entry.Named :=
    ⟨(named_parseSource parsed p listed).outer, (named_parseSource parsed p listed).last⟩
  obtain ⟨front, back, rfl⟩ := List.append_of_mem requested
  have start : ImportBlock.Spares u.references u.entries p.element.entry
    (u.importBlock 0).entries :=
    { subset := fun _ mem => mem, types := idle.package, members := idle.members }
  -- Up to the request that names the import, what keeps it idle stays; behind that request it does
  -- not come back.
  have spared := ImportBlock.removes_inv (fun _ _ _ here unneeded h => h.erase here unneeded) front
    start
  have swept := spared.not_mem_remove named names' idle.single
  have gone : p.element.entry ∉
      ((front ++ name :: back).foldl (ImportBlock.remove u.references)
        (u.importBlock 0)).entries := by
    rw [List.foldl_append, List.foldl_cons]
    exact ImportBlock.not_mem_removes back swept
  have block := met 0
  rw [CompilationUnit.meetRequests_eq] at block
  obtain ⟨rfl, -⟩ := Prod.mk.inj (Except.ok.inj block)
  rw [CompilationUnit.entries_withBlock]
  split
  · exact gone
  · next unchanged =>
    rw [ImportBlock.entries_removes_of_unchanged _ (eq_false_of_ne_true unchanged)] at gone
    exact gone

def threeImports : String := "import a.*; import a.B; import a.C; class T \x7b C c; \x7d"

/-- The single import that is in use stays, and so the star goes with the other one. -/
theorem removals_drop_idle_star :
    let classpath : Classpath := ⟨"", [{ fqn := "a.C" }], [("a.C", .leaf "a.C" .clazz)]⟩
    ∃ u m out, parseSource classpath [] "T.java" threeImports 0 = .ok (u, m) ∧
      u.entries.map Import.fullName = ["a.*", "a.B", "a.C"] ∧
      (∀ n, u.meetRequests { removes := ["a.B", "a.C", "a.*"] } n = .ok (out, n)) ∧
      ∀ i ∈ u.entries, i.fullName ≠ "a.C" → i ∉ out.value.entries := by
  intro classpath
  have computed : (parseSource classpath [] "T.java" threeImports 0).toOption.any (fun parsed =>
      parsed.1.entries.map Import.fullName == ["a.*", "a.B", "a.C"] &&
        parsed.1.entries.all (fun i => !i.isStatic && i.isWildcard == (i.fullName == "a.*")) &&
        parsed.1.references.types.all (·.fqn == "a.C") && parsed.1.references.statics.isEmpty) =
          true := by
    unfold parseSource parseUnit tokenize
    rw [Text.toList_closed threeImports rfl]
    decide +kernel
  obtain ⟨⟨u, m⟩, parsed, computed⟩ := exists_of_any computed
  simp only [Bool.and_eq_true, List.all_eq_true, Bool.not_eq_true', beq_iff_eq, List.isEmpty_iff]
    at computed
  obtain ⟨⟨⟨names, kinds⟩, types⟩, statics⟩ := computed
  have typed (i : Import) (mem : i ∈ u.entries) (plain : i.fullName ≠ "a.*") :
    i.typeName? = some i.fullName := by
    obtain ⟨other, star⟩ := kinds i mem
    simp [Import.typeName?, other, star, plain]
  have untyped (i : Import) (mem : i ∈ u.entries) : i.typeName? ≠ some "a.*" := by
    by_cases plain : i.fullName = "a.*"
    · obtain ⟨other, star⟩ := kinds i mem
      simp [Import.typeName?, other, star, plain]
    · simpa [typed i mem plain] using plain
  obtain ⟨single, there, named⟩ : ∃ i ∈ u.entries, i.fullName = "a.C" :=
    List.mem_map.1 (by rw [names]; simp)
  obtain ⟨out, met, gone⟩ := removals_drop_idle parsed ["a.B", "a.C", "a.*"]
  refine ⟨u, m, out, parsed, names, met, fun i mem other => gone i.fullName ?_ i mem ?_ ?_⟩
  · have listed := List.mem_map_of_mem (f := Import.fullName) mem
    rw [names] at listed
    simp only [List.mem_cons, List.not_mem_nil, or_false] at listed ⊢
    tauto
  · by_cases plain : i.fullName = "a.*"
    · exact .package (kinds i mem).1 (by simp [(kinds i mem).2, plain]) rfl (plain ▸ untyped)
    · exact .type (typed i mem plain)
  · exact {
      single := fun _ _ c used same => other (same.symm.trans (types c used))
      package := fun _ _ c used _ =>
        ⟨single, there, (kinds single there).1, by simp [(kinds single there).2, named],
        named.trans (types c used).symm⟩
      members := fun declaring member used => by simp [statics] at used }

/-- A name that is also that of a type is not read as that of a static member. An import of a
package stays for the classes in other classes that another import provides. -/
theorem idle_imports_kept :
    let classpath : Classpath := ⟨"", [{ fqn := "a.B.C" }], [("a.B.C", .leaf "a.B.C" .clazz)]⟩
    (∃ u n out m, parseSource classpath [] "T.java"
      "import static a.B.C; import a.B.C; class T \x7b \x7d" 0 = .ok (u, n) ∧
      u.references.types = [] ∧ u.references.statics = [] ∧
      u.meetRequests { removes := ["a.B.C"] } n = .ok (out, m) ∧
      ∃ p ∈ u.imports, p.element.isStatic = true ∧ p.element.isWildcard = false ∧
        p.element.typeName? = some "a.B" ∧
        p.element.member? = some "C" ∧ ∃ q ∈ out.value.imports, q.element.id = p.element.id) ∧
    ∃ u n out m, parseSource classpath [] "T.java"
      "import a.*; import a.B.*; class T \x7b C c; \x7d" 0 = .ok (u, n) ∧
      u.meetRequests { removes := ["a.*"] } n = .ok (out, m) ∧
      ∃ p ∈ u.imports, p.element.isStatic = false ∧ p.element.isWildcard = true ∧
        p.element.fullName = "a.*" ∧
        (∀ c ∈ u.references.types, ¬p.element.ProvidesType c.fqn) ∧
        ∃ q ∈ out.value.imports, q.element.id = p.element.id := by
  intro classpath
  refine ⟨?_, ?_⟩
  · have kept : (parseSource classpath [] "T.java"
      "import static a.B.C; import a.B.C; class T \x7b \x7d" 0).toOption.any
        (fun parsed => parsed.1.references.types.isEmpty && parsed.1.references.statics.isEmpty &&
          (parsed.1.meetRequests { removes := ["a.B.C"] } parsed.2).toOption.any fun met =>
            parsed.1.imports.any fun p => p.element.isStatic && !p.element.isWildcard &&
              p.element.typeName? == some "a.B" && p.element.member? == some "C" &&
              met.1.value.imports.any fun q => q.element.id == p.element.id) = true := by
      unfold parseSource parseUnit tokenize
      rw [Text.toList_closed "import static a.B.C; import a.B.C; class T \x7b \x7d" rfl]
      decide +kernel
    obtain ⟨⟨u, n⟩, parsed, kept⟩ := exists_of_any kept
    simp only [Bool.and_eq_true, List.isEmpty_iff] at kept
    obtain ⟨⟨types, statics⟩, kept⟩ := kept
    obtain ⟨⟨out, m⟩, met, kept⟩ := exists_of_any kept
    simp only [List.any_eq_true, Bool.and_eq_true, Bool.not_eq_true', beq_iff_eq] at kept
    obtain ⟨p, mem, ⟨⟨⟨isStatic, plain⟩, typed⟩, member⟩, stays⟩ := kept
    exact ⟨u, n, out, m, parsed, types, statics, met, p, mem, isStatic, plain, typed, member, stays⟩
  · have kept : (parseSource classpath [] "T.java"
      "import a.*; import a.B.*; class T \x7b C c; \x7d" 0).toOption.any
        (fun parsed => (parsed.1.meetRequests { removes := ["a.*"] } parsed.2).toOption.any
          fun met =>
          parsed.1.imports.any fun p => !p.element.isStatic && p.element.isWildcard &&
            p.element.fullName == "a.*" &&
            parsed.1.references.types.all (fun c => decide ¬p.element.ProvidesType c.fqn) &&
            met.1.value.imports.any fun q => q.element.id == p.element.id) = true := by
      unfold parseSource parseUnit tokenize
      rw [Text.toList_closed "import a.*; import a.B.*; class T \x7b C c; \x7d" rfl]
      decide +kernel
    obtain ⟨⟨u, n⟩, parsed, kept⟩ := exists_of_any kept
    obtain ⟨⟨out, m⟩, met, kept⟩ := exists_of_any kept
    simp only [List.any_eq_true, List.all_eq_true, Bool.and_eq_true, Bool.not_eq_true', beq_iff_eq,
      decide_eq_true_eq] at kept
    obtain ⟨p, mem, ⟨⟨⟨other, star⟩, full⟩, unprovided⟩, stays⟩ := kept
    exact ⟨u, n, out, m, parsed, met, p, mem, other, star, full, unprovided, stays⟩

end Retouch
