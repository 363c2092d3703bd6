import Retouch.Proofs.Recipe.Apply
import Retouch.Template.Apply

/-!
# Places of filled templates

What a use of a template gives is put together from the filled fragment and the node around its
place (`exists_fill_of_applyAt`): the trees of the fragment stand in it as they are, behind other
trivia. The statements that are put into a block stand between the ones of the block (`insert_run`).
-/

namespace Retouch

theorem exists_of_run_bind {α β : Type} {p : Templating α} {q : α → Templating β} {s : Session}
    {b : β}
    (h : ((p >>= q).run s).1 = .ok b) : ∃ a s', p.run s = (.ok a, s') ∧
      ((q a).run s').1 = .ok b := by
  rw [run_bind] at h
  rcases run : p.run s with ⟨e | a, s'⟩
  · rw [run] at h
    cases h
  · rw [run] at h
    exact ⟨a, s', rfl, h⟩

/-- The fragment of the shape with the arguments in it. -/
def Template.fill (t : Template) (shape : Shape) (args : List Expression) : Templating Fragment :=
  match shape with
  | .expression => return .expression (← t.expression args)
  | .statements => return .statements (← t.statements args)
  | .annotated => return .annotated (← t.annotated args)

section Fill

variable {t : Template} {args : List Expression} {s : Session}

theorem fill_expression {e : Expression} (h : ((t.expression args).run s).1 = .ok e) :
    ((t.fill .expression args).run s).1 = .ok (.expression e) := by
  unfold Template.fill
  rw [run_bind]
  rcases run : (t.expression args).run s with ⟨e' | e', s'⟩ <;> rw [run] at h <;> cases h
  rfl

theorem fill_statements {list : List Statement} (h : ((t.statements args).run s).1 = .ok list) :
    ((t.fill .statements args).run s).1 = .ok (.statements list) := by
  unfold Template.fill
  rw [run_bind]
  rcases run : (t.statements args).run s with ⟨e' | list', s'⟩ <;> rw [run] at h <;> cases h
  rfl

theorem fill_annotated {a : Annotation} (h : ((t.annotated args).run s).1 = .ok a) :
    ((t.fill .annotated args).run s).1 = .ok (.annotated a) := by
  unfold Template.fill
  rw [run_bind]
  rcases run : (t.annotated args).run s with ⟨e' | a', s'⟩ <;> rw [run] at h <;> cases h
  rfl

end Fill

/-! ## Statements in blocks -/

/-- The index of a place in a block, and the statement that it is beside. -/
def Block.site? (b : Block) : Insertion → Option (Nat × Option (Padded Statement))
  | .before id => (b.statements.findIdx? (·.element.id == id)).map fun i => (i, b.statements[i]?)
  | .after id => (b.statements.findIdx? (·.element.id == id)).map fun i => (i + 1, b.statements[i]?)
  | .first => some (0, b.statements.head?)
  | .last => some (b.statements.length, b.statements.getLast?)

/-- The block with the statements in it, at the index and behind the trivia. -/
def Block.inserting (b : Block) (index : Nat) (leading : Space) (list : List Statement) : Block :=
  { b with statements := b.statements.take index ++
      list.map (fun s => Padded.tight (s.withLeading leading)) ++ b.statements.drop index }

variable {t : Template} {args : List Expression} {s : Session}

theorem insert_run {b out : Block} {spot : Insertion}
    (run : ((t.insert b spot args).run s).1 = .ok out) :
    ∃ index neighbour list, b.site? spot = some (index, neighbour) ∧
      ((t.statements args).run s).1 = .ok list ∧
      out = b.inserting index (Template.leadingBeside b neighbour) list := by
  have rest {index : Nat} {neighbour : Option (Padded Statement)}
      (site : b.site? spot = some (index, neighbour))
      (run : ((do
        let inserted := (← t.statements args).map fun s =>
          Padded.tight (s.withLeading (Template.leadingBeside b neighbour))
        return { b with statements := b.statements.take index ++ inserted ++
          b.statements.drop index } :
          Templating Block).run s).1 = .ok out) :
      ∃ index neighbour list, b.site? spot = some (index, neighbour) ∧
        ((t.statements args).run s).1 = .ok list ∧
        out = b.inserting index (Template.leadingBeside b neighbour) list := by
    obtain ⟨list, s', filled, run⟩ := exists_of_run_bind run
    cases run
    exact ⟨index, neighbour, list, site, by rw [filled], rfl⟩
  unfold Template.insert Template.indexIn at run
  cases spot with
  | before id | after id =>
    dsimp only at run
    cases found : b.statements.findIdx? (·.element.id == id) with
    | none =>
      rw [found] at run
      cases run
    | some i =>
      rw [found] at run
      exact rest (by simp [Block.site?, found]) run
  | first | last => exact rest rfl run

namespace Layout

variable {ps : List Piece} {a b : Layout}

theorem infix_left (h : ps <:+: a.pieces) : ps <:+: (a ++ b).pieces :=
  h.trans ⟨[], b.pieces, by simp⟩

theorem infix_right (h : ps <:+: b.pieces) : ps <:+: (a ++ b).pieces :=
  h.trans ⟨a.pieces, [], by simp⟩

theorem infix_node (id : NodeId) (leading : Space) (h : ps <:+: a.pieces) :
    ps <:+: (node id leading a).pieces :=
  infix_left (infix_right h)

end Layout

theorem infix_statements {ss : List (Padded Statement)} {p : Padded Statement} (mem : p ∈ ss) :
    p.element.layout.pieces <:+: (layoutStatements ss).pieces := by
  induction mem with
  | head ss => exact Layout.infix_left (Layout.infix_left List.infix_rfl)
  | tail q mem ih => exact Layout.infix_right ih

theorem Block.infix_layout (b : Block) :
    (layoutStatements b.statements).pieces <:+: b.layout.pieces := by
  obtain ⟨id, leading, ss, close⟩ := b
  rw [layout]
  exact Layout.infix_node _ _
    (Layout.infix_left (Layout.infix_left (Layout.infix_right List.infix_rfl)))

/-! ## Uses -/

/-- The trees of the fragment stand in the node, behind other trivia. -/
def Fragment.StandsIn (out : Node) : Fragment → Prop
  | .expression e => ∃ leading, (e.withLeading leading).layout.pieces <:+: out.layout.pieces
  | .statements list => ∃ leading, ∀ s ∈ list,
    (s.withLeading leading).layout.pieces <:+: out.layout.pieces
  | .annotated a => ∃ leading, ({ a with leading := leading } : Annotation).layout.pieces <:+:
      out.layout.pieces

theorem exists_fill_of_insert {b out : Block} {spot : Insertion} {n : Node}
    (same : n.layout = out.layout) (run : ((t.insert b spot args).run s).1 = .ok out) :
    ∃ filled, ((t.fill .statements args).run s).1 = .ok filled ∧ filled.StandsIn n := by
  obtain ⟨index, neighbour, list, -, filled, rfl⟩ := insert_run run
  refine ⟨.statements list, fill_statements filled, Template.leadingBeside b neighbour, fun x mem =>
    ?_⟩
  rw [same]
  have held : Padded.tight (x.withLeading (Template.leadingBeside b neighbour)) ∈
      (b.inserting index (Template.leadingBeside b neighbour) list).statements :=
    List.mem_append_left _ (List.mem_append_right _ (List.mem_map_of_mem mem))
  exact (infix_statements held).trans (Block.infix_layout _)

theorem ClassDeclaration.infix_layout {c : ClassDeclaration} {ps : List Piece}
    (h : ps <:+: (layoutAnnotations c.annotations).pieces) : ps <:+: c.layout.pieces := by
  obtain ⟨id, leading, annotations, modifiers, keywordLeading, keyword, name, superclass,
    interfaces,
    body, type⟩ := c
  rw [ClassDeclaration.layout]
  apply Layout.infix_node
  iterate 7 apply Layout.infix_left
  exact h

theorem MethodDeclaration.infix_layout {m : MethodDeclaration} {ps : List Piece}
    (h : ps <:+: (layoutAnnotations m.annotations).pieces) : ps <:+: m.layout.pieces := by
  obtain ⟨id, leading, annotations, modifiers, returnType, name, parameters, throwing, body,
    method⟩ := m
  rw [MethodDeclaration.layout]
  apply Layout.infix_node
  iterate 6 apply Layout.infix_left
  exact h

theorem exists_fill_of_annotateClass {c out : ClassDeclaration} {n : Node}
    (same : n.layout = out.layout)
    (run : ((t.annotateClass c args).run s).1 = .ok out) :
    ∃ filled, ((t.fill .annotated args).run s).1 = .ok filled ∧ filled.StandsIn n := by
  obtain ⟨a, s', filled, run⟩ := exists_of_run_bind run
  refine ⟨.annotated a, fill_annotated (by rw [filled]), .empty, ?_⟩
  rw [same]
  have first (as : List Annotation) : ({ a with leading := .empty } : Annotation).layout.pieces <:+:
      (layoutAnnotations ({ a with leading := .empty } :: as)).pieces :=
    Layout.infix_left List.infix_rfl
  split at run <;> cases run <;> exact ClassDeclaration.infix_layout (first _)

theorem exists_fill_of_annotateMethod {m out : MethodDeclaration} {n : Node}
    (same : n.layout = out.layout) (run : ((t.annotateMethod m args).run s).1 = .ok out) :
    ∃ filled, ((t.fill .annotated args).run s).1 = .ok filled ∧ filled.StandsIn n := by
  obtain ⟨a, s', filled, run⟩ := exists_of_run_bind run
  refine ⟨.annotated a, fill_annotated (by rw [filled]), .empty, ?_⟩
  rw [same]
  have first (as : List Annotation) : ({ a with leading := .empty } : Annotation).layout.pieces <:+:
      (layoutAnnotations ({ a with leading := .empty } :: as)).pieces :=
    Layout.infix_left List.infix_rfl
  split at run <;> cases run <;> exact MethodDeclaration.infix_layout (first _)

theorem exists_fill_of_insertBeside {path : List Node} {x : Statement} {spot : NodeId → Insertion}
    {out : Node} (run : ((t.insertBeside path x spot args).run s).1 = .ok out) :
    ∃ filled, ((t.fill .statements args).run s).1 = .ok filled ∧ filled.StandsIn out := by
  unfold Template.insertBeside at run
  split at run
  · obtain ⟨b, s', inserted, run⟩ := exists_of_run_bind run
    cases run
    exact exists_fill_of_insert rfl (congrArg Prod.fst inserted)
  · cases run

/-- A use of a template that succeeds puts the filled fragment into what it gives. -/
theorem exists_fill_of_applyAt {path : List Node} {target out : Node} {place : Place}
    (run : ((t.applyAt path target place args).run s).1 = .ok out) :
    ∃ shape filled, ((t.fill shape args).run s).1 = .ok filled ∧ filled.StandsIn out := by
  unfold Template.applyAt at run
  split at run
  · next e =>
    obtain ⟨e', s', replaced, run⟩ := exists_of_run_bind run
    obtain ⟨filled, s'', made, replaced⟩ := exists_of_run_bind (congrArg Prod.fst replaced)
    cases replaced
    cases run
    exact ⟨.expression, _, fill_expression (congrArg Prod.fst made), _, List.infix_rfl⟩
  · next x =>
    obtain ⟨x', s', replaced, run⟩ := exists_of_run_bind run
    obtain ⟨list, s'', made, replaced⟩ := exists_of_run_bind (congrArg Prod.fst replaced)
    cases run
    split at replaced
    · cases replaced
      exact ⟨.statements, _, fill_statements (congrArg Prod.fst made), _,
        List.forall_mem_singleton.2 List.infix_rfl⟩
    · cases replaced
  · next a =>
    obtain ⟨a', s', replaced, run⟩ := exists_of_run_bind run
    obtain ⟨filled, s'', made, replaced⟩ := exists_of_run_bind (congrArg Prod.fst replaced)
    cases replaced
    cases run
    exact ⟨.annotated, _, fill_annotated (congrArg Prod.fst made), _, List.infix_rfl⟩
  · exact ⟨.statements, exists_fill_of_insertBeside run⟩
  · exact ⟨.statements, exists_fill_of_insertBeside run⟩
  iterate 4
    · obtain ⟨b, s', inserted, run⟩ := exists_of_run_bind run
      cases run
      exact ⟨.statements, exists_fill_of_insert rfl (congrArg Prod.fst inserted)⟩
  iterate 2
    · obtain ⟨c, s', noted, run⟩ := exists_of_run_bind run
      cases run
      exact ⟨.annotated, exists_fill_of_annotateClass rfl (congrArg Prod.fst noted)⟩
  iterate 2
    · obtain ⟨m, s', noted, run⟩ := exists_of_run_bind run
      cases run
      exact ⟨.annotated, exists_fill_of_annotateMethod rfl (congrArg Prod.fst noted)⟩
  · cases run

end Retouch
