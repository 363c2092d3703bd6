import Retouch.Proofs.Attribution.Layout
import Retouch.Proofs.Parser.Numbering
import Retouch.Proofs.Tree.Ways

/-!
# Locating nodes

In a unit that is read every node is located at its own text, inside the node that it is a part of,
and the parts of a node stand one behind the other (`locate_exact`).
-/

namespace Retouch

/-- The node is the unit, or it is written in a node of it, or it is what a statement of it is
besides. -/
inductive CompilationUnit.Contains (u : CompilationUnit) : Node → Prop
  | unit : Contains u (.unit u)
  | part {n c : Node} : Contains u n → c ∈ n.parts → Contains u c
  | view {n v : Node} : Contains u n → v ∈ n.views → Contains u v

/-- The span cuts a text out of another one. -/
def Span.Cuts (span : Span) (text own : String) : Prop :=
  ∃ before after, text = before ++ own ++ after ∧ span.start = before.utf8ByteSize ∧
    span.stop = before.utf8ByteSize + own.utf8ByteSize

namespace Node

open Piece (size)

/-- What a statement is besides is laid out as the statement. -/
theorem view_same {n v : Node} (mem : v ∈ n.views) :
    v.id = n.id ∧ v.layout = n.layout ∧ v.leading = n.leading ∧ v.parts = n.parts := by
  unfold views at mem
  split at mem <;> cases mem
  all_goals first
    | exact ⟨rfl, rfl, rfl, rfl⟩
    | contradiction

/-- A node is printed as the trivia in front of it and its own text. -/
theorem exists_print_eq (n : Node) : ∃ own, n.print = n.leading.text ++ own := by
  induction n using induction_on_parts with
  | step n ih =>
    cases n.laid with
    | framed trivia body lays leading pieces =>
      refine ⟨Piece.print (.enter n.id :: (body.pieces ++ [Piece.leave n.id])), ?_⟩
      have printed : Piece.print (trivia.map .text) = n.leading.text := by
        rw [Piece.print_eq_join, List.map_map, ← leading]
        congr 1
        exact List.map_id _
      rw [print, Layout.print, pieces, Piece.print_append, printed]
    | same c parts layout id leading lower =>
      obtain ⟨own, printed⟩ := ih c (by rw [parts]; exact List.mem_singleton_self c)
      exact ⟨own, by rw [print, ← layout, ← leading]; exact printed⟩

end Node

namespace CompilationUnit

variable {u : CompilationUnit} {n : Node}

theorem Contains.stands (h : u.Contains n) : n.layout.pieces <:+: u.layout.pieces := by
  induction h with
  | unit => exact List.infix_rfl
  | part _ mem ih =>
    obtain ⟨before, after, eq, -⟩ := Node.stands_part mem
    exact List.IsInfix.trans ⟨before, after, eq.symm⟩ ih
  | view _ mem ih =>
    obtain ⟨-, layout, -⟩ := Node.view_same mem
    rwa [layout]

theorem contains_of_way {rest : List Node} (way : Node.Way [.unit u] (n :: rest)) :
    u.Contains n := by
  generalize path : n :: rest = p at way
  induction way generalizing n rest with
  | here =>
    cases path
    exact .unit
  | @down parent _ _ _ child ih =>
    cases path
    exact .part (ih rfl) (parent.children_sublist_parts.subset child)

/-- A walk stops only at nodes of the unit. -/
theorem contains_of_mem_visits {v : Visit} (stop : v ∈ u.visits) : u.Contains v.node := by
  obtain ⟨m, rest, -, way, same | view⟩ := Node.mem_stops_iff.1 stop
  · exact same ▸ contains_of_way way
  · exact .view (contains_of_way way) view

end CompilationUnit

/-- No two nodes of a unit that is read have one id, whatever its names mean. -/
theorem nodup_ids_parseSource {classpath : Classpath} {bindings : List (String × JavaType)}
    {path source : String} {nextId n : NodeId} {u : CompilationUnit}
    (h : parseSource classpath bindings path source nextId = .ok (u, n)) : u.ids.Nodup := by
  obtain ⟨raw, parsed, rfl⟩ := exists_parseUnit h
  rw [CompilationUnit.ids, layout_attribute]
  exact nodup_ids_parseUnit parsed

open Piece (size) in
/-- Every node of a unit that is read is located: its span cuts its own text out of the printed
unit, it encloses the spans of its parts, and of two parts the first one ends before the other one
begins. -/
theorem locate_exact {classpath : Classpath} {bindings : List (String × JavaType)}
    {path source : String} {nextId nextId' : NodeId} {u : CompilationUnit}
    (parsed : parseSource classpath bindings path source nextId = .ok (u, nextId')) {n : Node}
    (inside : u.Contains n) :
    ∃ span own, u.locate n.id = some span ∧ n.print = n.leading.text ++ own ∧
      span.Cuts u.print own ∧
      (∀ c ∈ n.parts, ∃ inner, u.locate c.id = some inner ∧
        span.start ≤ inner.start ∧ inner.stop ≤ span.stop) ∧
      n.parts.Pairwise fun a b => ∃ first second,
        u.locate a.id = some first ∧ u.locate b.id = some second ∧ first.stop ≤ second.start := by
  have nodup := nodup_ids_parseSource parsed
  obtain ⟨before, after, stands⟩ := inside.stands
  obtain ⟨own, printed⟩ := n.exists_print_eq
  have bytes : size n.layout.pieces = n.leading.text.utf8ByteSize + own.utf8ByteSize := by
    rw [size, ← Layout.print, ← Node.print, printed, String.utf8ByteSize_append]
  refine ⟨_, own, Node.locate_of_stands nodup stands.symm, printed, ?_, fun c mem => ?_, ?_⟩
  · refine ⟨Piece.print before ++ n.leading.text, Piece.print after, ?_, ?_, ?_⟩
    · rw [CompilationUnit.print, Layout.print, ← stands, Piece.print_append, Piece.print_append,
        ← Layout.print, ← Node.print, printed, String.append_assoc, String.append_assoc]
      simp [String.append_assoc]
    · simp [size]
    · rw [bytes]
      simp [size, Nat.add_assoc]
  · obtain ⟨front, rear, eq, -, start⟩ := Node.stands_part mem
    have within : u.layout.pieces = (before ++ front) ++ c.layout.pieces ++ (rear ++ after) := by
      rw [← stands, eq]
      simp
    refine ⟨_, Node.locate_of_stands nodup within, ?_, ?_⟩
    · simp only [Piece.size_append]
      omega
    · simp only [eq, Piece.size_append]
      omega
  · refine n.stands_parts.imp fun {a b} apart => ?_
    obtain ⟨front, between, rear, eq⟩ := apart
    have first : u.layout.pieces =
        (before ++ front) ++ a.layout.pieces ++ (between ++ b.layout.pieces ++ rear ++ after) := by
      rw [← stands, eq]
      simp
    have second : u.layout.pieces =
        (before ++ front ++ a.layout.pieces ++ between) ++ b.layout.pieces ++ (rear ++ after) := by
      rw [← stands, eq]
      simp
    refine ⟨_, _, Node.locate_of_stands nodup first, Node.locate_of_stands nodup second, ?_⟩
    simp only [Piece.size_append]
    omega

/-- A comment with a character of two bytes stands in front of the class. -/
def commented : String := "/* é */ class A \x7b int f(int x) \x7b return x; \x7d \x7d"

/-- The method of the class is located by bytes. -/
theorem locate_exact_method :
    ∃ u n, parseSource ⟨"", [], []⟩ [] "A.java" commented 0 = .ok (u, n) ∧ ∃ method,
      u.Contains method ∧
      u.locate method.id = some ⟨19, 45⟩ ∧ ∃ own, method.print = method.leading.text ++ own ∧
        Span.Cuts ⟨19, 45⟩ u.print own ∧
        (∀ c ∈ method.parts, ∃ inner, u.locate c.id = some inner ∧ 19 ≤ inner.start ∧
          inner.stop ≤ 45) ∧
        method.parts.Pairwise fun a b => ∃ first second,
          u.locate a.id = some first ∧ u.locate b.id = some second ∧ first.stop ≤ second.start := by
  have reads : (parseSource ⟨"", [], []⟩ [] "A.java" commented 0).toOption.any (fun parsed =>
      parsed.1.classes.any fun c => c.body.statements.any fun p =>
        parsed.1.locate p.element.id == some ⟨19, 45⟩) = true := by
    unfold parseSource parseUnit tokenize
    rw [Text.toList_closed commented rfl]
    decide +kernel
  obtain ⟨⟨u, n⟩, parsed, found⟩ := exists_of_any reads
  obtain ⟨c, clazz, found⟩ := List.any_eq_true.1 found
  obtain ⟨p, member, found⟩ := List.any_eq_true.1 found
  have located : u.locate p.element.id = some ⟨19, 45⟩ := eq_of_beq found
  have body : u.Contains (.block c.body) := by
    refine .part (.part .unit (c := .classDeclaration c) ?_) ?_
    · simp [Node.parts, CompilationUnit.children, clazz]
    · simp [Node.parts, Node.children, ClassDeclaration.children]
  have inside : u.Contains (.statement p.element) := .part body (List.mem_map.2 ⟨p, member, rfl⟩)
  obtain ⟨span, own, there, printed, cuts, below, apart⟩ := locate_exact parsed inside
  obtain rfl : span = ⟨19, 45⟩ := Option.some.inj (there.symm.trans located)
  exact ⟨u, n, parsed, .statement p.element, inside, located, own, printed, cuts, below, apart⟩

end Retouch
