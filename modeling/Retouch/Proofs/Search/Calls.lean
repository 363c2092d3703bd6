import Retouch.Proofs.Tree.Positions
import Retouch.Proofs.Tree.Ways
import Retouch.Search

/-!
# Searches for calls

A search finds the calls that satisfy a test wherever they stand in the classes of a unit, each once
and from the outside inwards (`FindsAll`); on its way the walk stands at the end of a way down from
the unit, and its cursor is empty when it is done (`walk_exact`).

The calls in the order of a walk are calls in the order in which nodes begin in the layout
(`ids_calls_sublist`), so what comes first in the walk begins first in the text.
-/

namespace Retouch

open Node (Encloses Way replay steps)

/-- The call as a node. -/
abbrev MethodInvocation.toNode (m : MethodInvocation) : Node := .expression (.methodInvocation m)

/-- The calls of a unit that satisfy a test, all of them, each once, none in front of one around it,
in the order in which they begin. -/
structure FindsAll (u : CompilationUnit) (p : MethodInvocation → Bool)
    (found : List MethodInvocation) :
    Prop where
  complete : ∀ m, m ∈ found ↔ p m = true ∧ ∃ c ∈ u.classes, Encloses (.classDeclaration c) m.toNode
  once : (found.map (·.id)).Nodup
  inward : found.Pairwise fun a b => ¬Encloses b.toNode a.toNode
  ascending : found.Pairwise fun a b => ∃ first second,
    u.locate a.id = some first ∧ u.locate b.id = some second ∧ first.start ≤ second.start

theorem Visit.invocation?_eq_some {v : Visit} {m : MethodInvocation} :
    v.invocation? = some m ↔ v.node = m.toNode := by
  unfold invocation?
  split
  · next same => rw [same, Option.some.injEq, Node.expression.injEq,
      Expression.methodInvocation.injEq]
  · next other => exact ⟨fun h => (nomatch h), fun same => absurd same (other m)⟩

/-! ## Ids in the order of a walk -/

theorem Lays.ids_sublist {ns : List Node} {l : Layout} (h : Lays ns l) :
    (ns.flatMap (·.layout.ids)).Sublist l.ids := by
  induction h with
  | empty | text => exact List.nil_sublist _
  | part n => rw [List.flatMap_cons, List.flatMap_nil, List.append_nil]
  | mark id leading _ ih =>
    rw [Layout.ids_node]
    exact ih.cons id
  | beside _ _ ihl ihr =>
    rw [List.flatMap_append, Layout.ids_append]
    exact ihl.append ihr

namespace Node

/-- The calls of a walk have the ids of nodes that begin in the layout, in the same order. -/
theorem ids_calls_sublist (n : Node) (up : List Node) :
    (((n.stops up).filterMap Visit.invocation?).map (·.id)).Sublist n.layout.ids := by
  induction n using induction_on_parts generalizing up with
  | step n ih =>
    have views : ((n.views.map fun m => Visit.mk m (n :: up)).filterMap Visit.invocation?) =
      [] := by
      unfold views
      split <;> rfl
    have below (up : List Node) :
        (((n.children.flatMap (stops up)).filterMap Visit.invocation?).map (·.id)).Sublist
          (n.parts.flatMap (·.layout.ids)) := by
      rw [List.filterMap_flatMap, List.map_flatMap]
      refine List.Sublist.trans ?_ (n.children_sublist_parts.flatMap _)
      exact .flatMap_right _ fun c child => ih c (n.children_sublist_parts.subset child) up
    rw [stops_eq, List.filterMap_cons, List.filterMap_append, views, List.nil_append]
    cases n.laid with
    | framed trivia body lays leading pieces =>
      have ids : n.layout.ids = n.id :: body.ids := by
        rw [Layout.ids, pieces, List.filterMap_append, List.filterMap_map]
        simp [Function.comp_def, Piece.id?, Layout.ids]
      rw [ids]
      have inner := (below (n :: up)).trans lays.ids_sublist
      split
      · exact inner.cons n.id
      · next m call =>
        have own : n.id = m.id := congrArg id (Visit.invocation?_eq_some.1 call)
        rw [List.map_cons, own]
        exact inner.cons_cons m.id
    | same c parts layout id leading lower =>
      have inner := below (n :: up)
      rw [parts, List.flatMap_cons, List.flatMap_nil, List.append_nil, layout] at inner
      split
      · exact inner
      · next m call =>
        obtain rfl : n = m.toNode := Visit.invocation?_eq_some.1 call
        exact absurd lower (Nat.not_lt_zero _)

end Node

/-! ## What comes first -/

theorem mem_of_sublist_pair {α : Type} {x y : α} {front rear : List α}
    (nodup : (front ++ x :: rear).Nodup) (pair : [x, y].Sublist (front ++ x :: rear)) :
      y ∈ rear := by
  obtain ⟨-, own, apart⟩ := List.nodup_append.1 nodup
  have new : x ∉ rear := (List.nodup_cons.1 own).1
  have absent : x ∉ front := fun mem => apart x mem x List.mem_cons_self rfl
  obtain ⟨left, right, eq, inFront, inRear⟩ := List.sublist_append_iff.1 pair
  cases left with
  | nil =>
    rw [List.nil_append] at eq
    subst eq
    cases inRear with
    | cons _ later => exact absurd (later.subset List.mem_cons_self) new
    | cons_cons _ later => exact later.subset List.mem_cons_self
  | cons z left =>
    obtain ⟨rfl, -⟩ := List.cons_eq_cons.1 eq
    exact absurd (inFront.subset List.mem_cons_self) absent

namespace Node

variable {a b : Node}

theorem Reaches.stands {through : Node → Prop} (h : Reaches through a b) :
    b.layout.pieces <:+: a.layout.pieces := by
  induction h with
  | here => exact List.infix_rfl
  | @down b c _ _ child ih =>
    obtain ⟨before, after, eq, -⟩ := stands_part (b.children_sublist_parts.subset child)
    exact List.IsInfix.trans ⟨before, after, eq.symm⟩ ih

end Node

variable {u : CompilationUnit} {m m' : MethodInvocation}

/-- A call that stands in a unit begins at the mark with its id. -/
theorem MethodInvocation.exists_begin (nodup : u.ids.Nodup)
    (stands : m.toNode.layout.pieces <:+: u.layout.pieces) :
    ∃ before body after, u.layout.pieces = before ++ .enter m.id :: (body ++ after) ∧
      m.toNode.layout.ids = m.id :: body.filterMap Piece.id? ∧
      ∃ stop, u.locate m.id = some ⟨Piece.size before, stop⟩ := by
  obtain ⟨before, after, eq⟩ := stands
  obtain ⟨body, -, layout⟩ := framed_call m
  have pieces : m.toNode.layout.pieces =
      .text m.leading.text :: .enter m.id :: (body.pieces ++ [Piece.leave m.id]) := by
    change m.layout.pieces = _
    rw [layout]
    simp only [Retouch.node, Layout.pieces_append]
    rfl
  have located := Node.locate_of_stands nodup eq.symm
  have start : Piece.size (before ++ [Piece.text m.leading.text]) =
      Piece.size before + m.leading.text.utf8ByteSize := by
    rw [Piece.size_append, Piece.size_text, Piece.size_nil, Nat.add_zero]
  refine ⟨before ++ [Piece.text m.leading.text], body.pieces ++ [Piece.leave m.id], after, ?_, ?_,
    _, start ▸ located⟩
  · rw [← eq, pieces]
    simp
  · rw [Layout.ids, pieces]
    rfl

/-- Of two calls whose nodes begin one after the other, the second one is not around the first one.
-/
theorem not_encloses_of_pair (nodup : u.ids.Nodup)
    (stands' : m'.toNode.layout.pieces <:+: u.layout.pieces)
    (pair : [m.id, m'.id].Sublist u.ids) : ¬Encloses m'.toNode m.toNode := by
  intro around
  have other : m.id ≠ m'.id := by simpa using pair.nodup nodup
  obtain ⟨before', body', after', cut', ids', -⟩ := MethodInvocation.exists_begin nodup stands'
  -- The id of the inner call stands behind that of the outer one.
  have inner : m.id ∈ body'.filterMap Piece.id? := by
    have own : m.id ∈ m.toNode.layout.ids := by
      obtain ⟨body, -, layout⟩ := framed_call m
      change m.id ∈ m.layout.ids
      rw [layout, Layout.ids_node]
      exact List.mem_cons_self
    have below : m.id ∈ m'.toNode.layout.ids := (around.stands.filterMap Piece.id?).subset own
    rw [ids'] at below
    exact (List.mem_cons.1 below).resolve_left other
  obtain ⟨front, rear, split⟩ := List.mem_iff_append.1 inner
  have ids : u.ids = (before'.filterMap Piece.id? ++ m'.id :: front) ++
      m.id :: (rear ++ after'.filterMap Piece.id?) := by
    rw [CompilationUnit.ids, Layout.ids, cut']
    simp [Piece.id?, split]
  rw [ids] at pair nodup
  have later := mem_of_sublist_pair nodup pair
  obtain ⟨-, -, apart⟩ := List.nodup_append.1 nodup
  exact apart m'.id (by simp) m'.id (List.mem_cons_of_mem _ later) rfl

/-- Of two calls whose nodes begin one after the other, the first one is not located behind the
second one. -/
theorem ascending_of_pair (nodup : u.ids.Nodup)
    (stands : m.toNode.layout.pieces <:+: u.layout.pieces)
    (stands' : m'.toNode.layout.pieces <:+: u.layout.pieces) (pair : [m.id, m'.id].Sublist u.ids) :
    ∃ first second, u.locate m.id = some first ∧ u.locate m'.id = some second ∧
      first.start ≤ second.start := by
  obtain ⟨before, body, after, cut, -, stop, located⟩ := MethodInvocation.exists_begin nodup stands
  obtain ⟨before', body', after', cut', -, stop', located'⟩ :=
    MethodInvocation.exists_begin nodup stands'
  refine ⟨_, _, located, located', ?_⟩
  rcases List.append_eq_append_iff.1 (cut.symm.trans cut') with ⟨more, rfl, -⟩ | ⟨more, rfl, eq⟩
  · exact Piece.size_append .. ▸ Nat.le_add_right ..
  · cases more with
    | nil => exact Nat.le_of_eq (by simp)
    | cons p more =>
      obtain ⟨rfl, -⟩ := List.cons_eq_cons.1 eq
      have ids : u.ids = (before'.filterMap Piece.id? ++ m'.id :: more.filterMap Piece.id?) ++
          m.id :: (body ++ after).filterMap Piece.id? := by
        rw [CompilationUnit.ids, Layout.ids, cut]
        simp [Piece.id?]
      rw [ids] at pair nodup
      have later := mem_of_sublist_pair nodup pair
      obtain ⟨-, -, apart⟩ := List.nodup_append.1 nodup
      exact absurd rfl (apart m'.id (by simp) m'.id (List.mem_cons_of_mem _ later))

/-! ## The search -/

theorem Session.mem_findCalls {s : Session} (running : s.cancelled = false)
    {p : MethodInvocation → Bool} :
    m ∈ s.findCalls u p ↔ p m = true ∧ ∃ c ∈ u.classes,
      Encloses (.classDeclaration c) m.toNode := by
  have found : m ∈ s.findCalls u p ↔ p m = true ∧ Encloses (.unit u) m.toNode := by
    rw [findCalls, stops,
      if_neg (by simp [running]), List.mem_filterMap, Encloses, Node.reaches_iff_way]
    constructor
    · rintro ⟨v, mem, kept⟩
      obtain ⟨call, passes⟩ := Option.filter_eq_some_iff.1 kept
      obtain ⟨n, rest, -, way, node⟩ := Node.mem_stops_iff.1 mem
      have here := Visit.invocation?_eq_some.1 call
      refine ⟨passes, rest, ?_, fun _ _ => trivial⟩
      rcases node with same | view
      · rwa [← here, same]
      · rw [here] at view
        unfold Node.views at view
        split at view <;> simp at view
    · rintro ⟨passes, rest, way, -⟩
      refine ⟨⟨m.toNode, m.toNode :: rest⟩, Node.mem_stops_iff.2 ⟨_, _, rfl, way, .inl rfl⟩, ?_⟩
      exact Option.filter_eq_some_iff.2 ⟨rfl, passes⟩
  rw [found]
  refine and_congr_right fun _ => ⟨fun below => ?_, fun ⟨c, clazz, below⟩ => ?_⟩
  · rcases Node.reaches_unit below with same | ⟨i, same⟩ | inside
    · cases same
    · cases same
    · exact inside
  · exact (Node.reaches_class clazz trivial).trans below

theorem Session.ids_findCalls_sublist (s : Session) (u : CompilationUnit)
    (p : MethodInvocation → Bool) :
    ((s.findCalls u p).map (·.id)).Sublist u.ids := by
  rw [findCalls, stops]
  split
  · exact List.nil_sublist _
  · have calls : (u.visits.filterMap fun v => v.invocation?.filter p) =
        (u.visits.filterMap Visit.invocation?).filter p := by
      rw [List.filter_filterMap]
    rw [calls]
    exact (List.filter_sublist.map _).trans ((Node.unit u).ids_calls_sublist [])

/-- What a search finds in a unit that is read. -/
theorem Session.findsAll {s : Session} (running : s.cancelled = false) (nodup : u.ids.Nodup)
    (p : MethodInvocation → Bool) : FindsAll u p (s.findCalls u p) := by
  have sublist := s.ids_findCalls_sublist u p
  have stands {m : MethodInvocation} (mem : m ∈ s.findCalls u p) :
      m.toNode.layout.pieces <:+: u.layout.pieces := by
    obtain ⟨-, c, clazz, below⟩ := (mem_findCalls running).1 mem
    exact ((Node.reaches_class clazz trivial).trans below).stands
  have pair {a b : MethodInvocation} (h : [a, b].Sublist (s.findCalls u p)) :
    [a.id, b.id].Sublist u.ids :=
    (h.map MethodInvocation.id).trans sublist
  exact {
    complete := fun m => mem_findCalls running
    once := sublist.nodup nodup
    inward := List.pairwise_iff_forall_sublist.2 fun h =>
      not_encloses_of_pair nodup (stands (h.subset (by simp))) (pair h)
    ascending := List.pairwise_iff_forall_sublist.2 fun h =>
      ascending_of_pair nodup (stands (h.subset (by simp))) (stands (h.subset (by simp))) (pair h) }

/-- What a walk through a unit that is read finds, and how it gets there. The searches find the
calls of a pattern and those without a method. Each stop is made at the end of a way down from the
unit or at what a statement there is besides, and the stops are those of a cursor that enters and
leaves nodes and is empty before and behind the walk. -/
theorem walk_exact {classpath : Classpath} {bindings : List (String × JavaType)}
    {path source : String}
    {nextId nextId' : NodeId} {u : CompilationUnit}
    (parsed : parseSource classpath bindings path source nextId = .ok (u, nextId')) {s : Session}
    (running : s.cancelled = false) :
    (∀ pattern : MethodPattern, FindsAll u pattern.matches (s.findMethods u pattern)) ∧
      FindsAll u (fun m => m.method.isNone) (s.findUnattributed u) ∧
      (∀ v ∈ s.stops u, ∃ m rest, v.path = m :: rest ∧ Way [.unit u] (m :: rest) ∧
        (v.node = m ∨ v.node ∈ m.views)) ∧
      replay [] (steps (.unit u)) = (s.stops u, []) := by
  have nodup := nodup_ids_parseSource parsed
  have visits : s.stops u = u.visits := if_neg (by simp [running])
  refine ⟨fun pattern => s.findsAll running nodup _, s.findsAll running nodup _, fun v mem => ?_,
    ?_⟩
  · rw [visits] at mem
    exact Node.mem_stops_iff.1 mem
  · rw [visits]
    exact Node.replay_visits (.unit u)

/-- Calls stand in the receiver, in the arguments and in the body of a lambda. -/
def chained : String := "class A { int f = a.b(c()).d(() -> e()); }"

/-- Outer calls are found before inner ones. -/
theorem walk_exact_chained :
    ∃ u n, parseSource ⟨"", [], []⟩ [] "A.java" chained 0 = .ok (u, n) ∧
      (({} : Session).findUnattributed u).map (·.name.name) = ["d", "b", "c", "e"] ∧
      FindsAll u (fun m => m.method.isNone) (({} : Session).findUnattributed u) ∧
      (∀ pattern : MethodPattern,
        FindsAll u pattern.matches (({} : Session).findMethods u pattern)) ∧
      replay [] (steps (.unit u)) = (({} : Session).stops u, []) := by
  have reads : (parseSource ⟨"", [], []⟩ [] "A.java" chained 0).toOption.any (fun parsed =>
      (({} : Session).findUnattributed parsed.1).map (·.name.name) == ["d", "b", "c", "e"]) =
        true := by
    unfold parseSource parseUnit tokenize
    rw [Text.toList_closed chained rfl]
    decide +kernel
  obtain ⟨⟨u, n⟩, parsed, found⟩ := exists_of_any reads
  obtain ⟨methods, unattributed, -, cursor⟩ := walk_exact parsed (s := {}) rfl
  exact ⟨u, n, parsed, eq_of_beq found, unattributed, methods, cursor⟩

end Retouch
