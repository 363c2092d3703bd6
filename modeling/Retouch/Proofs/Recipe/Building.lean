import Retouch.Proofs.Outcome
import Retouch.Recipe.Registry

/-!
# Making recipes

A registry makes a recipe of an id exactly if nothing below it stands in the way (`build_exact`):
every id in a list is known, no group is below itself, and every occurrence accepts the values of
its options. An occurrence is named by the way down to it, the indices in the lists of the groups
(`Registry.occurrence?`), so a recipe that is used twice occurs twice, and no way can be longer than
there are groups.

The recipe that is made runs the rules below the id, each as often as it occurs and in the order of
their places.
-/

namespace Retouch

/-! ## Values of options -/

/-- Of an entry of the other table, the last one for a name counts. -/
theorem Table.mem_extend {α : Type} {t other : Table α} {name : String} {a : α} :
    (name, a) ∈ t.extend other ↔ other.reverse.lookup name = some a ∨
      other.reverse.lookup name = none ∧ (name, a) ∈ t := by
  induction other generalizing t with
  | nil => simp [extend]
  | cons e other ih =>
    obtain ⟨name', b⟩ := e
    have step : t.extend ((name', b) :: other) = (t.set name' b).extend other := rfl
    rw [step, ih, List.reverse_cons, List.lookup_append]
    by_cases same : name = name'
    · subst same
      cases other.reverse.lookup name <;> simp [set, eq_comm]
    · rw [List.lookup_cons, show (name == name') = false by simpa using same]
      simp [set, same]

/-- The values fit the description: each is described and of its kind, and the required ones are
there. -/
structure RecipeDescriptor.Fits (d : RecipeDescriptor) (sets : String → Value → Prop) : Prop where
  described : ∀ name value, sets name value →
    ∃ option, d.options.find? (·.name == name) = some option ∧ option.kind.accepts value = true
  complete : ∀ option ∈ d.options, option.required = true → ∃ value, sets option.name value

theorem forM_ok_iff {α ε : Type} {f : α → Except ε Unit} {l : List α} :
    l.forM f = .ok () ↔ ∀ a ∈ l, f a = .ok () := by
  induction l with
  | nil => simp [List.forM, pure, Except.pure]
  | cons a l ih =>
    have step : (a :: l).forM f = f a >>= fun _ => l.forM f := rfl
    rw [step, List.forall_mem_cons, ← ih]
    cases f a <;> simp [bind, Except.bind]

theorem Options.check_ok_iff {d : RecipeDescriptor} {name : String} {value : Value} :
    check d (name, value) = .ok () ↔
      ∃ option, d.options.find? (·.name == name) = some option ∧
        option.kind.accepts value = true := by
  simp only [check]
  cases d.options.find? (·.name == name) with
  | none => simp
  | some option => by_cases h : option.kind.accepts value = true <;> simp [h]

theorem Table.has_iff {α : Type} {t : Table α} {name : String} :
    t.has name = true ↔ ∃ a, (name, a) ∈ t := by
  unfold has get?
  induction t with
  | nil => simp
  | cons e t ih =>
    obtain ⟨name', b⟩ := e
    by_cases same : name = name'
    · subst same
      simp only [List.lookup_cons_self, Option.isSome_some, true_iff]
      exact ⟨b, List.mem_cons_self⟩
    · rw [List.lookup_cons, show (name == name') = false by simpa using same]
      simp [ih, same]

theorem Options.validate_ok_iff {d : RecipeDescriptor} {values : Table Value} {o : Options} :
    validate d values = .ok o ↔ o = ⟨values⟩ ∧ d.Fits fun name value => (name, value) ∈ values := by
  have missing : (d.options.find? fun o => o.required && !values.has o.name) = none ↔
      ∀ option ∈ d.options, option.required = true → ∃ value, (option.name, value) ∈ values := by
    rw [List.find?_eq_none]
    refine forall₂_congr fun option _ => ?_
    rw [← Table.has_iff]
    cases option.required <;> simp
  have checked : values.forM (check d) = .ok () ↔ ∀ name value, (name, value) ∈ values →
      ∃ option, d.options.find? (·.name == name) = some option ∧
        option.kind.accepts value = true := by
    rw [forM_ok_iff, Prod.forall]
    simp only [check_ok_iff]
  unfold validate
  cases run : values.forM (check d) with
  | error e =>
    rw [run] at checked
    exact ⟨fun h => (nomatch h), fun ⟨_, fits⟩ => nomatch checked.2 fits.described⟩
  | ok _ =>
    dsimp only [bind, Except.bind]
    cases found : d.options.find? fun o => o.required && !values.has o.name with
    | some option =>
      rw [found] at missing
      exact ⟨fun h => (nomatch h), fun ⟨_, fits⟩ => nomatch missing.2 fits.complete⟩
    | none =>
      constructor
      · intro h
        cases h
        exact ⟨rfl, checked.1 run, missing.1 found⟩
      · rintro ⟨rfl, -⟩
        rfl

namespace RecipeReference

/-- The option has this value: the occurrence gives it, or else the session. -/
def Sets (ref : RecipeReference) (options : Table (Table Value)) (name : String) (value : Value) :
    Prop :=
  ref.options.reverse.lookup name = some value ∨ ref.options.reverse.lookup name = none ∧
    ∃ own, options.get? ref.id = some own ∧ (name, value) ∈ own

/-- All values of an occurrence. -/
def values (ref : RecipeReference) (options : Table (Table Value)) : Table Value :=
  ((options.get? ref.id).getD []).extend ref.options

theorem mem_values {ref : RecipeReference} {options : Table (Table Value)} {name : String}
    {value : Value} :
    (name, value) ∈ ref.values options ↔ ref.Sets options name value := by
  rw [values, Table.mem_extend, Sets]
  cases options.get? ref.id <;> simp

theorem validate_ok_iff (ref : RecipeReference)
    (options : Table (Table Value)) {d : RecipeDescriptor}
    {o : Options} : Options.validate d (ref.values options) = .ok o ↔
      o = ⟨ref.values options⟩ ∧ d.Fits (ref.Sets options) := by
  rw [Options.validate_ok_iff]
  simp only [mem_values]

end RecipeReference

/-! ## Occurrences -/

namespace Registry

/-- Registries as they come about: rules and groups are added one by one. -/
inductive Made : Registry → Prop
  | empty : Made ⟨[]⟩
  | rule {r : Registry} (d : RecipeDescriptor) (make : Options → Except RecipeError Recipe) :
    Made r → Made (r.add ⟨d, .rule make⟩)
  | group {r : Registry} (d : DeclaredRecipe) : Made r → Made (r.declare d)

theorem mem_insertEntry {e x : RegistryEntry} {es : List RegistryEntry}
    (mem : x ∈ insertEntry e es) :
    x = e ∨ x ∈ es := by
  induction es with
  | nil => exact .inl (List.mem_singleton.1 mem)
  | cons other rest ih =>
    unfold insertEntry at mem
    split at mem
    · exact List.mem_cons.1 mem
    · split at mem
      · exact (List.mem_cons.1 mem).imp_right (List.mem_cons_of_mem _)
      · rcases List.mem_cons.1 mem with rfl | mem
        · exact .inr List.mem_cons_self
        · exact (ih mem).imp_right (List.mem_cons_of_mem _)

/-- A group has no options. -/
theorem Made.options_eq_nil {r : Registry} (made : r.Made) {e : RegistryEntry} (mem : e ∈ r.entries)
    {list : List RecipeReference} (group : e.source = .group list) : e.descriptor.options = [] := by
  induction made with
  | empty => cases mem
  | rule d make _ ih =>
    obtain rfl | mem := mem_insertEntry mem
    · cases group
    · exact ih mem
  | group d _ ih =>
    obtain rfl | mem := mem_insertEntry mem
    · rfl
    · exact ih mem

/-- The list of a group; a rule has none. -/
def listOf (r : Registry) (id : String) : List RecipeReference :=
  match r.entry? id with
  | some ⟨_, .group list⟩ => list
  | _ => []

/-- The occurrence at a place below another one. A place is the way down: an index in each list. -/
def occurrence? (r : Registry) (ref : RecipeReference) : List Nat → Option RecipeReference
  | [] => some ref
  | i :: place => (r.listOf ref.id)[i]?.bind fun child => r.occurrence? child place

/-- An occurrence accepts its values: those of a group have to be none, those of a rule fit its
description and the rule can be made with them. -/
def Accepts (r : Registry) (options : Table (Table Value)) (ref : RecipeReference) : Prop :=
  ∀ entry, r.entry? ref.id = some entry → match entry.source with
    | .rule make => entry.descriptor.Fits (ref.Sets options) ∧
      ∃ recipe, make ⟨ref.values options⟩ = .ok recipe
    | .group _ => ∀ name value, ¬ref.Sets options name value

/-- Nothing at or below an occurrence stands in the way of making it. -/
structure Consistent (r : Registry) (options : Table (Table Value)) (root : RecipeReference) :
    Prop where
  known : ∀ place ref, r.occurrence? root place = some ref → (r.entry? ref.id).isSome = true
  acyclic : ∀ place ref, r.occurrence? root place = some ref →
    ∀ below inner, r.occurrence? ref below = some inner → below ≠ [] → inner.id ≠ ref.id
  accepted : ∀ place ref, r.occurrence? root place = some ref → r.Accepts options ref

/-- Consistent, and nothing there is one of the groups around it. -/
structure Fresh (r : Registry) (options : Table (Table Value)) (active : List String)
    (root : RecipeReference) : Prop extends r.Consistent options root where
  inactive : ∀ place ref, r.occurrence? root place = some ref → ref.id ∉ active

variable {r : Registry} {options : Table (Table Value)} {active : List String}
  {root : RecipeReference}

theorem occurrence?_cons {i : Nat} {place : List Nat} {ref : RecipeReference} :
    r.occurrence? root (i :: place) = some ref ↔
      ∃ child, (r.listOf root.id)[i]? = some child ∧ r.occurrence? child place = some ref := by
  rw [occurrence?, Option.bind_eq_some_iff]

/-- An occurrence is made after those in its list, with itself around them. -/
theorem fresh_iff : r.Fresh options active root ↔ root.id ∉ active ∧
    (r.entry? root.id).isSome = true ∧
    r.Accepts options root ∧ ∀ child ∈ r.listOf root.id,
      r.Fresh options (root.id :: active) child := by
  constructor
  · intro fresh
    refine ⟨fresh.inactive [] root rfl, fresh.known [] root rfl, fresh.accepted [] root rfl, ?_⟩
    intro child mem
    obtain ⟨i, there⟩ := List.mem_iff_getElem?.1 mem
    have down {place : List Nat} {ref : RecipeReference}
        (h : r.occurrence? child place = some ref) :
        r.occurrence? root (i :: place) = some ref := occurrence?_cons.2 ⟨child, there, h⟩
    exact {
      known := fun _ _ h => fresh.known _ _ (down h)
      acyclic := fun _ _ h => fresh.acyclic _ _ (down h)
      accepted := fun _ _ h => fresh.accepted _ _ (down h)
      inactive := fun _ _ h => List.not_mem_cons_of_ne_of_not_mem
        (fresh.acyclic [] root rfl _ _ (down h) (by simp)) (fresh.inactive _ _ (down h)) }
  · rintro ⟨inactive, known, accepted, children⟩
    have inside {i : Nat} {place : List Nat} {ref : RecipeReference}
        (h : r.occurrence? root (i :: place) = some ref) :
        ∃ child, r.Fresh options (root.id :: active) child ∧
          r.occurrence? child place = some ref := by
      obtain ⟨child, there, h⟩ := occurrence?_cons.1 h
      exact ⟨child, children child (List.mem_iff_getElem?.2 ⟨i, there⟩), h⟩
    refine { known := ?_, acyclic := ?_, accepted := ?_, inactive := ?_ }
    · rintro (_ | ⟨i, place⟩) ref h
      · cases h
        exact known
      · obtain ⟨child, fresh, h⟩ := inside h
        exact fresh.known _ _ h
    · rintro (_ | ⟨i, place⟩) ref h below inner there proper
      · cases h
        obtain ⟨j, below, rfl⟩ := List.exists_cons_of_ne_nil proper
        obtain ⟨child, fresh, there⟩ := inside there
        exact List.ne_of_not_mem_cons (fresh.inactive _ _ there)
      · obtain ⟨child, fresh, h⟩ := inside h
        exact fresh.acyclic _ _ h _ _ there proper
    · rintro (_ | ⟨i, place⟩) ref h
      · cases h
        exact accepted
      · obtain ⟨child, fresh, h⟩ := inside h
        exact fresh.accepted _ _ h
    · rintro (_ | ⟨i, place⟩) ref h
      · cases h
        exact inactive
      · obtain ⟨child, fresh, h⟩ := inside h
        exact List.not_mem_of_not_mem_cons (fresh.inactive _ _ h)

/-! ## What is made -/

end Registry

mutual

/-- The recipes that a recipe runs, in order: itself, or what those run that it only groups. -/
def Recipe.leaves : Recipe → List Recipe
  | ⟨_, none, none, children⟩ => leavesOf children
  | r => [r]

def leavesOf : List Recipe → List Recipe
  | [] => []
  | r :: rs => r.leaves ++ leavesOf rs

end

namespace Registry

variable {r : Registry} {options : Table (Table Value)} {active : List String}
  {root : RecipeReference}

/-- At this place below an occurrence stands a rule, of which this recipe is made. -/
def MakesAt (r : Registry) (options : Table (Table Value)) (root : RecipeReference)
    (place : List Nat)
    (leaf : Recipe) : Prop :=
  ∃ ref entry make, r.occurrence? root place = some ref ∧ r.entry? ref.id = some entry ∧
    entry.source = .rule make ∧ make ⟨ref.values options⟩ = .ok leaf

/-- The rules below an occurrence with what is made of them, in the order of their places. -/
structure Enumerates (r : Registry) (options : Table (Table Value)) (root : RecipeReference)
    (made : List (List Nat × Recipe)) : Prop where
  sorted : (made.map Prod.fst).Pairwise (· < ·)
  complete : ∀ place leaf, (place, leaf) ∈ made ↔ r.MakesAt options root place leaf

/-- One level of making a recipe. -/
theorem buildWith_ok_iff {recipe : Recipe} :
    r.buildWith options active root.options root.id = .ok recipe ↔
    root.id ∉ active ∧ ∃ entry, r.entry? root.id = some entry ∧
      entry.descriptor.Fits (root.Sets options) ∧
      match entry.source with
      | .rule make => make ⟨root.values options⟩ = .ok recipe
      | .group list => ∃ children, (list.mapM fun child =>
          r.buildWith options (root.id :: active) child.options child.id) = .ok children ∧
          recipe = ⟨entry.descriptor, none, none, children⟩ := by
  rw [buildWith]
  split
  · next inside => simp [inside]
  · next fresh =>
    simp only [fresh, not_false_eq_true, true_and]
    split
    · next absent => simp [absent]
    · next entry found =>
      simp only [found, Option.some.injEq, exists_eq_left']
      change (Options.validate entry.descriptor (root.values options) >>= _) = _ ↔ _
      have valid {o : Options} := root.validate_ok_iff options (d := entry.descriptor) (o := o)
      constructor
      · intro h
        obtain ⟨o, checked, h⟩ := exists_of_bind_ok h
        obtain ⟨rfl, fits⟩ := valid.1 checked
        refine ⟨fits, ?_⟩
        cases source : entry.source with
        | rule make => simpa [source] using h
        | group list =>
          simp only [source] at h
          obtain ⟨children, run, h⟩ := exists_of_bind_ok h
          cases h
          exact ⟨children, run, rfl⟩
      · rintro ⟨fits, h⟩
        rw [valid.2 ⟨rfl, fits⟩]
        dsimp only [bind, Except.bind]
        cases source : entry.source with
        | rule make => simpa [source] using h
        | group list =>
          simp only [source] at h ⊢
          obtain ⟨children, run, rfl⟩ := h
          rw [run]
          rfl

theorem listOf_group {entry : RegistryEntry} (found : r.entry? root.id = some entry)
    {list : List RecipeReference} (source : entry.source = .group list) :
      r.listOf root.id = list := by
  obtain ⟨d, source⟩ := entry
  subst source
  rw [listOf, found]

theorem listOf_rule {entry : RegistryEntry} (found : r.entry? root.id = some entry)
    {make : Options → Except RecipeError Recipe} (source : entry.source = .rule make) :
    r.listOf root.id = [] := by
  obtain ⟨d, source⟩ := entry
  subst source
  rw [listOf, found]

theorem Made.fits_group_iff (made : r.Made) {entry : RegistryEntry}
    (found : r.entry? root.id = some entry)
    {list : List RecipeReference} (source : entry.source = .group list) {sets : String → Value →
      Prop} :
    entry.descriptor.Fits sets ↔ ∀ name value, ¬sets name value := by
  have none := made.options_eq_nil (List.mem_of_find?_eq_some found) source
  constructor
  · intro fits name value set
    obtain ⟨option, there, -⟩ := fits.described name value set
    simp [none] at there
  · exact fun empty => ⟨fun name value set => absurd set (empty name value), by simp [none]⟩

theorem exists_mapM_ok {α β ε : Type} {f : α → Except ε β} {l : List α}
    (each : ∀ a ∈ l, ∃ b, f a = .ok b) : ∃ bs, l.mapM f = .ok bs := by
  induction l with
  | nil => exact ⟨[], rfl⟩
  | cons a l ih =>
    obtain ⟨⟨b, first⟩, rest⟩ := List.forall_mem_cons.1 each
    obtain ⟨bs, run⟩ := ih rest
    exact ⟨b :: bs, by rw [List.mapM_cons, first, run]; rfl⟩

/-- An occurrence can be made below groups if and only if it is consistent and does not lead back to
one of them. -/
theorem Made.buildWith_iff (made : r.Made) (active : List String) (root : RecipeReference) :
    (∃ recipe, r.buildWith options active root.options root.id = .ok recipe) ↔
      r.Fresh options active root := by
  rw [fresh_iff]
  constructor
  · rintro ⟨recipe, h⟩
    obtain ⟨fresh, entry, found, fits, h⟩ := buildWith_ok_iff.1 h
    refine ⟨fresh, by rw [found]; rfl, ?_, ?_⟩
    · intro entry' found'
      obtain rfl : entry = entry' := Option.some.inj (found.symm.trans found')
      cases source : entry.source with
      | rule make =>
        simp only [source] at h
        exact ⟨fits, recipe, h⟩
      | group list => exact (made.fits_group_iff found source).1 fits
    · cases source : entry.source with
      | rule make =>
        rw [listOf_rule found source]
        exact List.forall_mem_nil _
      | group list =>
        simp only [source] at h
        obtain ⟨children, run, -⟩ := h
        rw [listOf_group found source]
        exact fun child mem => (made.buildWith_iff _ child).1 (exists_of_mapM_ok run child mem)
  · rintro ⟨fresh, known, accepted, below⟩
    obtain ⟨entry, found⟩ := Option.isSome_iff_exists.1 known
    have own := accepted entry found
    cases source : entry.source with
    | rule make =>
      simp only [source] at own
      obtain ⟨fits, recipe, run⟩ := own
      exact ⟨recipe, buildWith_ok_iff.2 ⟨fresh, entry, found, fits, by simpa [source] using run⟩⟩
    | group list =>
      simp only [source] at own
      rw [listOf_group found source] at below
      obtain ⟨children, run⟩ := exists_mapM_ok fun child mem =>
        (made.buildWith_iff (root.id :: active) child).2 (below child mem)
      have fits := (made.fits_group_iff found source).2 own
      refine ⟨⟨entry.descriptor, none, none, children⟩,
        buildWith_ok_iff.2 ⟨fresh, entry, found, fits, ?_⟩⟩
      simp only [source]
      exact ⟨children, run, rfl⟩
termination_by (r.idle active).length
decreasing_by all_goals exact idle_cons_length_lt found fresh

/-- The rules below the recipes of a list, whose indices begin at `k`. -/
theorem exists_enumeration_list {build : RecipeReference → Except RecipeError Recipe}
    {list : List RecipeReference} {children : List Recipe} (run : list.mapM build = .ok children)
    (each : ∀ child ∈ list, ∀ recipe, build child = .ok recipe →
      ∃ rows, r.Enumerates options child rows ∧ recipe.leaves = rows.flatMap (·.2.leaves))
        (k : Nat) :
    ∃ made : List (List Nat × Recipe), (made.map Prod.fst).Pairwise (· < ·) ∧
      (∀ place leaf, (place, leaf) ∈ made ↔ ∃ i below child, place = (k + i) :: below ∧
        list[i]? = some child ∧ r.MakesAt options child below leaf) ∧
      leavesOf children = made.flatMap (·.2.leaves) := by
  induction list generalizing children k with
  | nil =>
    cases run
    exact ⟨[], .nil, by simp, rfl⟩
  | cons child list ih =>
    rw [List.mapM_cons] at run
    obtain ⟨recipe, first, run⟩ := exists_of_bind_ok run
    obtain ⟨recipes, rest, run⟩ := exists_of_bind_ok run
    cases run
    obtain ⟨one, more⟩ := List.forall_mem_cons.1 each
    obtain ⟨front, enumerates, leaves⟩ := one recipe first
    obtain ⟨behind, sorted, complete, leaves'⟩ := ih rest more (k + 1)
    refine ⟨front.map (fun p => (k :: p.1, p.2)) ++ behind, ?_, ?_, ?_⟩
    · rw [List.map_append, List.map_map, List.pairwise_append]
      refine ⟨?_, sorted, ?_⟩
      · have own := enumerates.sorted
        rw [List.pairwise_map] at own ⊢
        exact own.imp fun less => List.cons_lt_cons_iff.2 (.inr ⟨rfl, less⟩)
      · rintro a first b second
        obtain ⟨p, -, rfl⟩ := List.mem_map.1 first
        obtain ⟨⟨place, leaf⟩, mem, rfl⟩ := List.mem_map.1 second
        obtain ⟨i, below, child', rfl, -⟩ := (complete place leaf).1 mem
        exact List.cons_lt_cons_iff.2 (.inl (by omega))
    · intro place leaf
      rw [List.mem_append, complete]
      constructor
      · rintro (mem | ⟨i, below, child', rfl, there, makes⟩)
        · obtain ⟨⟨below, leaf⟩, inner, same⟩ := List.mem_map.1 mem
          cases same
          exact ⟨0, below, child, rfl, rfl, (enumerates.complete _ _).1 inner⟩
        · exact ⟨i + 1, below, child', by rw [Nat.add_right_comm, Nat.add_assoc], there, makes⟩
      · rintro ⟨_ | i, below, child', rfl, there, makes⟩
        · cases there
          exact .inl (List.mem_map.2 ⟨(below, leaf), (enumerates.complete _ _).2 makes, rfl⟩)
        · exact .inr ⟨i, below, child', by rw [Nat.add_right_comm, Nat.add_assoc], there, makes⟩
    · rw [leavesOf, leaves, leaves', List.flatMap_append, List.flatMap_map]

/-- The rules that were made stand in a row. -/
theorem exists_enumeration {recipe : Recipe} (active : List String) (root : RecipeReference)
    (h : r.buildWith options active root.options root.id = .ok recipe) :
    ∃ rows, r.Enumerates options root rows ∧ recipe.leaves = rows.flatMap (·.2.leaves) := by
  obtain ⟨fresh, entry, found, fits, h⟩ := buildWith_ok_iff.1 h
  cases source : entry.source with
  | rule make =>
    simp only [source] at h
    refine ⟨[([], recipe)], ⟨by simp, fun place leaf => ?_⟩, by simp⟩
    rw [List.mem_singleton, Prod.mk.injEq]
    constructor
    · rintro ⟨rfl, rfl⟩
      exact ⟨root, entry, make, rfl, found, source, h⟩
    · rintro ⟨ref, entry', make', there, found', source', made⟩
      match place with
      | [] =>
        cases there
        cases found.symm.trans found'
        cases source.symm.trans source'
        exact ⟨rfl, Except.ok.inj (made.symm.trans h)⟩
      | i :: place =>
        obtain ⟨child, there, -⟩ := occurrence?_cons.1 there
        simp [listOf_rule found source] at there
  | group list =>
    simp only [source] at h
    obtain ⟨children, run, rfl⟩ := h
    obtain ⟨made, sorted, complete, leaves⟩ := exists_enumeration_list run
      (fun child mem recipe made => exists_enumeration (root.id :: active) child made) 0
    refine ⟨made, ⟨sorted, fun place leaf => ?_⟩, leaves⟩
    rw [complete]
    constructor
    · rintro ⟨i, below, child, rfl, there, ref, entry', make, there', rest⟩
      refine ⟨ref, entry', make, occurrence?_cons.2 ⟨child, ?_, there'⟩, rest⟩
      rwa [listOf_group found source, Nat.zero_add]
    · rintro ⟨ref, entry', make, there, found', source', made⟩
      match place with
      | [] =>
        cases there
        cases found.symm.trans found'
        cases source.symm.trans source'
      | i :: place =>
        obtain ⟨child, there, there'⟩ := occurrence?_cons.1 there
        rw [listOf_group found source] at there
        exact ⟨i, place, child,
          by rw [Nat.zero_add], there, ref, entry', make, there', found', source', made⟩
termination_by (r.idle active).length
decreasing_by exact idle_cons_length_lt found fresh

/-- A recipe is made if and only if all that is below its id is consistent. The rules that it runs
are then those below the id, in the order of their places. -/
theorem build_exact (made : r.Made) (options : Table (Table Value)) (id : String) :
    ((∃ recipe, r.build options id = .ok recipe) ↔ r.Consistent options ⟨id, []⟩) ∧
      ∀ recipe, r.build options id = .ok recipe →
        ∃ rows, r.Enumerates options ⟨id, []⟩ rows ∧ recipe.leaves = rows.flatMap (·.2.leaves) := by
  refine ⟨(made.buildWith_iff [] ⟨id, []⟩).trans ⟨fun fresh => fresh.toConsistent, fun consistent =>
    ?_⟩, ?_⟩
  · exact { toConsistent := consistent, inactive := fun _ _ _ => List.not_mem_nil }
  · exact fun recipe h => exists_enumeration [] ⟨id, []⟩ h

/-- Two groups, one in the list of the other, that both list the same rule; one of them gives its
option. -/
def nested : Registry :=
  (builtin.declare ⟨"x.In", "In", "",
    [⟨"testing.junit5.RemoveObsoleteRunners", [("obsoleteRunners", .list [.text "a.A"])]⟩,
      ⟨"testing.mockito.CleanupMockitoImports", []⟩]⟩).declare
    ⟨"x.Out", "Out", "", [⟨"x.In", []⟩, ⟨"testing.junit5.RemoveObsoleteRunners", []⟩]⟩

/-- The value that the option has elsewhere. -/
def nestedOptions : Table (Table Value) :=
  [("testing.junit5.RemoveObsoleteRunners", [("obsoleteRunners", .list [.text "b.B"])])]

theorem build_exact_nested :
    nested.Made ∧ nested.Consistent nestedOptions ⟨"x.Out", []⟩ ∧
      ∃ recipe rows, nested.build nestedOptions "x.Out" = .ok recipe ∧
        nested.Enumerates nestedOptions ⟨"x.Out", []⟩ rows ∧
        recipe.leaves = rows.flatMap (·.2.leaves) ∧
        recipe.leaves.map (·.descriptor.id) =
          ["testing.junit5.RemoveObsoleteRunners", "testing.mockito.CleanupMockitoImports",
            "testing.junit5.RemoveObsoleteRunners"] := by
  have made : nested.Made :=
    .group _ (.group _ (.group _
      (.rule _ _ (.rule _ _ (.rule _ _ (.rule _ _ (.rule _ _ .empty)))))))
  have builds : (nested.build nestedOptions "x.Out").toOption.any (fun recipe =>
      recipe.leaves.map (·.descriptor.id) ==
        ["testing.junit5.RemoveObsoleteRunners", "testing.mockito.CleanupMockitoImports",
          "testing.junit5.RemoveObsoleteRunners"]) = true := by
    decide +kernel
  obtain ⟨recipe, built, ids⟩ := exists_of_any builds
  obtain ⟨succeeds, exact⟩ := build_exact made nestedOptions "x.Out"
  obtain ⟨rows, enumerates, leaves⟩ := exact recipe built
  exact ⟨made, succeeds.1 ⟨recipe, built⟩, recipe, rows, built, enumerates, leaves, eq_of_beq ids⟩

end Registry

end Retouch
