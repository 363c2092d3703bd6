import Retouch.Proofs.Attribution.Layout
import Retouch.Proofs.Outcome
import Retouch.Proofs.Text.Closed
import Retouch.Proofs.Tree.Ways
import Retouch.Search

/-!
# Searches for types

A unit mentions a type by an expression of the type, by a call of a method that the type declares or
by writing the type (`TypeQuery.Mentions`). A search reads a type as a whole and does not walk into
it, so it finds the mentions that stand in the classes of the unit and not inside a type
(`TypeQuery.holds_iff`). An argument of a parameterized type is a mention that it misses
(`TypeQuery.holds_misses_argument`).
-/

namespace Retouch

open Node (Encloses Reaches Way)

/-- The class of a type, or of the innermost elements of an array type. -/
def JavaType.elementClass? : JavaType → Option ClassType
  | .declared c => some c
  | .array component => component.elementClass?
  | _ => none

def Node.isType : Node → Bool
  | .type _ => true
  | _ => false

/-- The type that is written. -/
def Node.written? : Node → Option JavaType
  | .type t => some t.type
  | _ => none

namespace TypeQuery

variable {q : TypeQuery} {u : CompilationUnit} {n : Node} {v : Visit}

/-- The class of the type is one in question. -/
def Asks (q : TypeQuery) (t : JavaType) : Prop := ∃ c, t.elementClass? = some c ∧
    q.matchesClass c = true

/-- The node mentions a type in question: the type of an expression, the class that declares a
called method, or a type that is written. -/
inductive Mentions (q : TypeQuery) : Node → Prop
  | expression {e : Expression} : q.Asks e.type → Mentions q (.expression e)
  | call {m : MethodInvocation} {t : MethodType} : t ∈ m.method →
    q.matchesClass t.declaring = true →
      Mentions q (.expression (.methodInvocation m))
  | type {t : TypeTree} : q.Asks t.type → Mentions q (.type t)

theorem matchesType_iff {t : JavaType} : q.matchesType t = true ↔ q.Asks t := by
  induction t with
  | array component ih => exact ih
  | declared c => simp [matchesType, Asks, JavaType.elementClass?]
  | _ => simp [matchesType, Asks, JavaType.elementClass?]

/-- A stop counts if its node is a mention and stands in no type. -/
theorem matchesStop_iff : q.matchesStop v = true ↔
    (∀ n ∈ v.ancestors, ¬n.isType = true) ∧ q.Mentions v.node := by
  obtain ⟨n, path⟩ := v
  have outside : isInsideType ⟨n, path⟩ = false ↔ ∀ n ∈ path.tail, ¬n.isType = true :=
    List.any_eq_false
  rw [matchesStop, Bool.and_eq_true, Bool.not_eq_true', outside]
  refine and_congr_right fun _ => ?_
  cases n with
  | type t =>
    constructor
    · exact fun asked => .type (matchesType_iff.1 asked)
    · rintro (_ | _ | asked)
      exact matchesType_iff.2 asked
  | expression e =>
    cases e with
    | methodInvocation m =>
      rw [Bool.or_eq_true, Option.any_eq_true, matchesType_iff]
      constructor
      · rintro (asked | ⟨t, method, asked⟩)
        · exact .expression asked
        · exact .call method asked
      · rintro (asked | ⟨method, asked⟩)
        · exact .inl asked
        · exact .inr ⟨_, method, asked⟩
    | _ =>
      constructor
      · exact fun asked => .expression (matchesType_iff.1 asked)
      · rintro (asked | _)
        exact matchesType_iff.2 asked
  | _ => exact ⟨nofun, nofun⟩

/-- What a statement is besides is no mention. -/
theorem not_mentions_view {m : Node} (view : m ∈ n.views) : ¬q.Mentions m := by
  unfold Node.views at view
  split at view <;> cases view
  all_goals first
    | contradiction
    | exact nofun

/-- The stops of a walk at mentions, outside types, are at nodes that are reached outside types. -/
theorem exists_stop_iff {through : Node → Prop} :
    (∃ v ∈ u.visits, (∀ n ∈ v.ancestors, through n) ∧ q.Mentions v.node) ↔
      ∃ n, Reaches through (.unit u) n ∧ q.Mentions n := by
  constructor
  · rintro ⟨v, mem, all, mention⟩
    obtain ⟨m, rest, path, way, node⟩ := Node.mem_stops_iff.1 mem
    rw [Visit.ancestors, path] at all
    refine ⟨v.node, ?_, mention⟩
    rcases node with same | view
    · exact same ▸ Node.reaches_iff_way.2 ⟨rest, way, all⟩
    · exact absurd mention (not_mentions_view view)
  · rintro ⟨n, below, mention⟩
    obtain ⟨rest, way, all⟩ := Node.reaches_iff_way.1 below
    exact ⟨⟨n, n :: rest⟩, Node.mem_stops_iff.2 ⟨n, rest, rfl, way, .inl rfl⟩, all, mention⟩

/-- Neither the unit nor an import is a mention, so all mentions stand in classes. -/
theorem exists_reaches_iff {through : Node → Prop} (pass : through (.unit u)) :
    (∃ n, Reaches through (.unit u) n ∧ q.Mentions n) ↔
      ∃ c ∈ u.classes, ∃ n, Reaches through (.classDeclaration c) n ∧ q.Mentions n := by
  constructor
  · rintro ⟨n, below, mention⟩
    rcases Node.reaches_unit below with rfl | ⟨i, rfl⟩ | ⟨c, clazz, inside⟩
    · cases mention
    · cases mention
    · exact ⟨c, clazz, n, inside, mention⟩
  · rintro ⟨c, clazz, n, inside, mention⟩
    exact ⟨n, (Node.reaches_class clazz pass).trans inside, mention⟩

/-- In a unit without a matching import a search finds a mention in the classes that stands in no
type, and it finds nothing if there is none. -/
theorem holds_iff {s : Session} (running : s.cancelled = false)
    (unimported : ∀ i ∈ u.imports, q.matchesImport i.element = false) :
    q.holds s u = true ↔
      ∃ c ∈ u.classes, ∃ n, Reaches (fun m => ¬m.isType = true) (.classDeclaration c) n ∧
        q.Mentions n := by
  have imports : u.imports.any (fun i => q.matchesImport i.element) = false :=
    List.any_eq_false.2 fun i mem => by simp [unimported i mem]
  have visits : s.stops u = u.visits := if_neg (by simp [running])
  rw [holds, imports, Bool.false_or, visits, List.any_eq_true, ← exists_reaches_iff nofun,
    ← exists_stop_iff]
  exact exists_congr fun v => and_congr_right fun _ => matchesStop_iff

theorem matchesImport_of_isEmpty (q : TypeQuery) (none : u.imports.isEmpty = true) :
    ∀ i ∈ u.imports, q.matchesImport i.element = false := by
  rw [List.isEmpty_iff.1 none]
  exact List.forall_mem_nil _

/-- The question for the class that the unit declares itself. -/
def ofSelf : TypeQuery := ⟨⟨"A", .exactly "A"⟩, false⟩

/-- The type of the elements of an array is a mention. -/
theorem holds_iff_array :
    ∃ u n, parseSource ⟨"", [], []⟩ [] "A.java" "class A { A[] l; }" 0 = .ok (u, n) ∧
      (∀ i ∈ u.imports, ofSelf.matchesImport i.element = false) ∧ ofSelf.holds {} u = true ∧
      ∃ c ∈ u.classes, ∃ n,
        Reaches (fun m => ¬m.isType = true) (.classDeclaration c) n ∧ ofSelf.Mentions n := by
  have reads : (parseSource ⟨"", [], []⟩ [] "A.java" "class A { A[] l; }" 0).toOption.any
    (fun parsed =>
      parsed.1.imports.isEmpty && ofSelf.holds {} parsed.1) = true := by
    unfold parseSource parseUnit tokenize
    rw [Text.toList_closed "class A { A[] l; }" rfl]
    decide +kernel
  obtain ⟨⟨u, n⟩, parsed, found⟩ := exists_of_any reads
  obtain ⟨none, holds⟩ := Bool.and_eq_true_iff.1 found
  have unimported := ofSelf.matchesImport_of_isEmpty none
  exact ⟨u, n, parsed, unimported, holds, (holds_iff rfl unimported).1 holds⟩

/-- A search in a unit without imports misses the argument of a parameterized type. -/
theorem holds_misses_argument :
    ∃ u n, parseSource ⟨"", [], []⟩ [] "A.java" "class A { X<A> l; }" 0 = .ok (u, n) ∧
      (∀ i ∈ u.imports, ofSelf.matchesImport i.element = false) ∧ ofSelf.holds {} u = false ∧
      ∃ c ∈ u.classes, ∃ n, Encloses (.classDeclaration c) n ∧ ofSelf.Mentions n := by
  have reads : (parseSource ⟨"", [], []⟩ [] "A.java" "class A { X<A> l; }" 0).toOption.any
    (fun parsed =>
      parsed.1.imports.isEmpty && !ofSelf.holds {} parsed.1 &&
        parsed.1.visits.any fun v => v.node.written?.any ofSelf.matchesType) = true := by
    unfold parseSource parseUnit tokenize
    rw [Text.toList_closed "class A { X<A> l; }" rfl]
    decide +kernel
  obtain ⟨⟨u, n⟩, parsed, found⟩ := exists_of_any reads
  obtain ⟨found, written⟩ := Bool.and_eq_true_iff.1 found
  obtain ⟨none, missed⟩ := Bool.and_eq_true_iff.1 found
  have unimported := ofSelf.matchesImport_of_isEmpty none
  obtain ⟨v, mem, argument⟩ := List.any_eq_true.1 written
  have mention : ofSelf.Mentions v.node := by
    generalize v.node = node at argument
    cases node with
    | type t => exact .type (matchesType_iff.1 argument)
    | _ => cases argument
  have somewhere := exists_stop_iff.1 ⟨v, mem, fun _ _ => trivial, mention⟩
  exact ⟨u, n, parsed, unimported, by simpa using missed, (exists_reaches_iff trivial).1 somewhere⟩

end TypeQuery

end Retouch
