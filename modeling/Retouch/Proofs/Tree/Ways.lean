import Retouch.Proofs.Tree.Spans

/-!
# Ways of a walk

A walk keeps the nodes that it has entered and not left on a cursor. The path of a stop is a way
down from the node where the walk began, from parent to child (`Node.mem_stops_iff`), and a walk
that enters and leaves its nodes with a cursor makes the same stops and leaves the cursor as it was
(`Node.replay_steps`).

`Node.Reaches through a b`: there is a way from `a` down to `b` on which all nodes before `b` pass a
test.
-/

namespace Retouch

namespace Node

variable {n m c : Node} {up rest path : List Node} {v : Visit}

theorem children_sublist_parts (n : Node) : n.children.Sublist n.parts := by
  unfold parts
  split
  · exact List.sublist_append_right ..
  · exact List.nil_sublist _
  · exact .refl _

theorem stops_eq (up : List Node) (n : Node) :
    n.stops up = ⟨n, n :: up⟩ ::
      (n.views.map (⟨·, n :: up⟩) ++ n.children.flatMap (stops (n :: up))) := by
  rw [stops, Visit.enter, inside_eq]

/-! ## Paths -/

/-- A path that goes on from another one, each node to one of its children. -/
inductive Way (start : List Node) : List Node → Prop
  | here : Way start start
  | down {n c : Node} {up : List Node} : Way start (n :: up) → c ∈ n.children →
    Way start (c :: n :: up)

theorem Way.trans {start : List Node} (h : Way start path) (h' : Way path rest) :
    Way start rest := by
  induction h' with
  | here => exact h
  | down _ child ih => exact ih.down child

theorem Way.stops_subset (h : Way (n :: up) (m :: rest)) : m.stops rest ⊆ n.stops up := by
  generalize path : m :: rest = p at h
  induction h generalizing m rest with
  | here =>
    cases path
    exact fun v mem => mem
  | down _ child ih =>
    cases path
    refine fun v mem => ih rfl ?_
    rw [stops_eq]
    exact List.mem_cons_of_mem _ (List.mem_append_right _ (List.mem_flatMap.2 ⟨_, child, mem⟩))

/-- The stops of a walk are the ends of the ways from where it began, and what they are besides. -/
theorem mem_stops_iff : v ∈ n.stops up ↔
    ∃ m rest, v.path = m :: rest ∧ Way (n :: up) (m :: rest) ∧ (v.node = m ∨ v.node ∈ m.views) := by
  constructor
  · induction n using induction_on_parts generalizing up with
    | step n ih =>
      rw [stops_eq, List.mem_cons, List.mem_append]
      rintro (rfl | view | below)
      · exact ⟨n, up, rfl, .here, .inl rfl⟩
      · obtain ⟨m, mem, rfl⟩ := List.mem_map.1 view
        exact ⟨n, up, rfl, .here, .inr mem⟩
      · obtain ⟨c, child, mem⟩ := List.mem_flatMap.1 below
        obtain ⟨m, rest, path, way, node⟩ := ih c (n.children_sublist_parts.subset child) mem
        exact ⟨m, rest, path, (Way.here.down child).trans way, node⟩
  · rintro ⟨m, rest, path, way, node⟩
    obtain ⟨node', path'⟩ := v
    obtain rfl : path' = m :: rest := path
    refine way.stops_subset ?_
    rw [stops_eq]
    rcases node with same | view
    · obtain rfl : node' = m := same
      exact List.mem_cons_self
    · exact List.mem_cons_of_mem _ (List.mem_append_left _ (List.mem_map.2 ⟨node', view, rfl⟩))

/-! ## Nodes below -/

/-- A way leads from one node down to another one, through nodes that pass a test. -/
inductive Reaches (through : Node → Prop) (a : Node) : Node → Prop
  | here : Reaches through a a
  | down {b c : Node} : Reaches through a b → through b → c ∈ b.children → Reaches through a c

/-- A node is or stands below another one. -/
abbrev Encloses : Node → Node → Prop := Reaches fun _ => True

variable {through : Node → Prop} {a b : Node}

theorem Reaches.trans (h : Reaches through a b) (h' : Reaches through b c) :
    Reaches through a c := by
  induction h' with
  | here => exact h
  | down _ pass child ih => exact ih.down pass child

theorem reaches_iff_way : Reaches through a b ↔
    ∃ rest, Way [a] (b :: rest) ∧ ∀ m ∈ rest, through m := by
  constructor
  · intro h
    induction h with
    | here => exact ⟨[], .here, List.forall_mem_nil _⟩
    | down _ pass child ih =>
      obtain ⟨rest, way, all⟩ := ih
      exact ⟨_, way.down child, List.forall_mem_cons.2 ⟨pass, all⟩⟩
  · rintro ⟨rest, way, all⟩
    generalize path : b :: rest = p at way
    induction way generalizing b rest with
    | here =>
      cases path
      exact .here
    | down _ child ih =>
      cases path
      obtain ⟨pass, all⟩ := List.forall_mem_cons.1 all
      exact (ih _ all rfl).down pass child

/-- Below a unit are its imports and what its classes reach. -/
theorem reaches_unit {u : CompilationUnit} (h : Reaches through (.unit u) b) :
    b = .unit u ∨ (∃ i, b = .importDeclaration i) ∨
      ∃ c ∈ u.classes, Reaches through (.classDeclaration c) b := by
  induction h with
  | here => exact .inl rfl
  | down _ pass child ih =>
    rcases ih with rfl | ⟨i, rfl⟩ | ⟨c, clazz, below⟩
    · rcases List.mem_append.1 child with found | found
      · obtain ⟨i, -, rfl⟩ := List.mem_map.1 found
        exact .inr (.inl ⟨i.element, rfl⟩)
      · obtain ⟨c, clazz, rfl⟩ := List.mem_map.1 found
        exact .inr (.inr ⟨c, clazz, .here⟩)
    · cases child
    · exact .inr (.inr ⟨c, clazz, below.down pass child⟩)

theorem reaches_class {u : CompilationUnit} {c : ClassDeclaration} (clazz : c ∈ u.classes)
    (pass : through (.unit u)) : Reaches through (.unit u) (.classDeclaration c) :=
  .down .here pass (List.mem_append_right _ (List.mem_map.2 ⟨c, clazz, rfl⟩))

/-! ## The cursor -/

/-- What a walk does with its cursor: it enters a node, stops at one or leaves the one that it
entered last. -/
inductive CursorStep where
  | enter (n : Node)
  | stop (n : Node)
  | leave

/-- The stops of a walk that begins with a cursor, and the cursor behind it. -/
def replay (cursor : List Node) : List CursorStep → List Visit × List Node
  | [] => ([], cursor)
  | .enter n :: steps => replay (n :: cursor) steps
  | .stop n :: steps => (⟨n, cursor⟩ :: (replay cursor steps).1, (replay cursor steps).2)
  | .leave :: steps => replay cursor.tail steps

/-- A walk through a node enters it, stops at it and at what it is besides, walks through the
children and leaves it. -/
def steps (n : Node) : List CursorStep :=
  .enter n :: .stop n ::
    (n.views.map CursorStep.stop ++ (n.children.attach.flatMap fun c => c.1.steps) ++
      [CursorStep.leave])
termination_by n.height
decreasing_by exact height_lt_of_mem_parts (n.children_sublist_parts.subset c.2)

theorem replay_stops (ns : List Node) (cursor : List Node) (rest : List CursorStep) :
    replay cursor (ns.map .stop ++ rest) =
      (ns.map (⟨·, cursor⟩) ++ (replay cursor rest).1, (replay cursor rest).2) := by
  induction ns with
  | nil => rfl
  | cons n ns ih => rw [List.map_cons, List.cons_append, replay, ih, List.map_cons,
    List.cons_append]

/-- A walk through nodes one after the other. -/
theorem replay_flatMap {ns : List Node} (cursor : List Node) (rest : List CursorStep)
    (each : ∀ n ∈ ns, ∀ rest, replay cursor (n.steps ++ rest) =
      (n.stops cursor ++ (replay cursor rest).1, (replay cursor rest).2)) :
    replay cursor (ns.flatMap steps ++ rest) =
      (ns.flatMap (stops cursor) ++ (replay cursor rest).1, (replay cursor rest).2) := by
  induction ns with
  | nil => rfl
  | cons n ns ih =>
    obtain ⟨first, more⟩ := List.forall_mem_cons.1 each
    rw [List.flatMap_cons, List.append_assoc, first, ih more, List.flatMap_cons, List.append_assoc]

/-- A walk through a node makes its stops, and then the cursor is what it was. -/
theorem replay_steps (n : Node) (cursor : List Node) (rest : List CursorStep) :
    replay cursor (n.steps ++ rest) = (n.stops cursor ++ (replay cursor rest).1,
      (replay cursor rest).2) := by
  induction n using induction_on_parts generalizing cursor rest with
  | step n ih =>
    have children : (n.children.attach.flatMap fun c => c.1.steps) = n.children.flatMap steps := by
      rw [← List.flatMap_map, List.attach_map_subtype_val]
    rw [steps, children, List.cons_append, List.cons_append, replay, replay, List.append_assoc,
      List.append_assoc, replay_stops, replay_flatMap (n :: cursor) _
        fun c child rest => ih c (n.children_sublist_parts.subset child) (n :: cursor) rest,
      stops_eq]
    simp [replay]

/-- The cursor of a walk is empty at the end. -/
theorem replay_visits (n : Node) : replay [] n.steps = (n.visits, []) := by
  have run := n.replay_steps [] []
  rw [List.append_nil] at run
  rw [run]
  exact congrArg (·, []) (List.append_nil _)

end Node

end Retouch
