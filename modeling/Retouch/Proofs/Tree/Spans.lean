import Retouch.Proofs.Tree.Ids
import Retouch.Proofs.Tree.Laying

/-!
# Where nodes stand in the text

The marks of a layout are balanced, so the span that is recorded for a node ends at its own end. If
no two nodes of a unit have one id, then a node is located where its layout stands among the pieces
of the unit (`Node.locate_of_stands`), a part inside the node that it belongs to
(`Node.stands_part`) and parts one behind the other (`Node.stands_parts`).
-/

namespace Retouch

namespace Piece

/-! ## Sizes -/

/-- The number of bytes that are printed. -/
def size (ps : List Piece) : Nat := (Piece.print ps).utf8ByteSize

@[simp]
theorem size_nil : size [] = 0 := rfl

@[simp]
theorem size_append (ps qs : List Piece) : size (ps ++ qs) = size ps + size qs := by
  simp [size, print_append]

theorem size_cons (p : Piece) (ps : List Piece) :
    size (p :: ps) = size [p] + size ps := size_append [p] ps

@[simp]
theorem size_text (s : String) (ps : List Piece) :
    size (.text s :: ps) = s.utf8ByteSize + size ps := by
  rw [size_cons]
  simp [size, Piece.print]

@[simp]
theorem size_enter (id : NodeId) (ps : List Piece) : size (.enter id :: ps) = size ps := by
  rw [size_cons]
  simp [size, Piece.print]

@[simp]
theorem size_leave (id : NodeId) (ps : List Piece) : size (.leave id :: ps) = size ps := by
  rw [size_cons]
  simp [size, Piece.print]

/-! ## Balanced marks -/

/-- Every node that begins ends, and those that begin in between have ended before. -/
inductive Balanced : List Piece → Prop
  | nil : Balanced []
  | text (s : String) {ps : List Piece} : Balanced ps → Balanced (.text s :: ps)
  | nest (id : NodeId) {inner rest : List Piece} : Balanced inner → Balanced rest →
    Balanced (.enter id :: (inner ++ .leave id :: rest))

namespace Balanced

variable {ps qs : List Piece}

theorem append (h : Balanced ps) (h' : Balanced qs) : Balanced (ps ++ qs) := by
  induction h with
  | nil => exact h'
  | text s _ ih => exact ih.text s
  | nest id inner _ _ ih =>
    rw [List.cons_append, List.append_assoc]
    exact .nest id inner ih

theorem texts (ss : List String) : Balanced (ss.map .text) := by
  induction ss with
  | nil => exact .nil
  | cons s ss ih => exact ih.text s

theorem node (id : NodeId) (h : Balanced ps) : Balanced (.enter id :: (ps ++ [Piece.leave id])) :=
    .nest id h .nil

end Balanced

/-- The id of the node that ends. -/
def ended? : Piece → Option NodeId
  | leave id => some id
  | text _ | enter _ => none

theorem Balanced.perm_ended {ps : List Piece} (h : Balanced ps) :
    (ps.filterMap ended?).Perm (ps.filterMap id?) := by
  induction h with
  | nil => rfl
  | text s _ ih => exact ih
  | nest id _ _ inner rest =>
    simp only [List.filterMap_cons, List.filterMap_append, ended?, id?]
    exact List.perm_middle.trans ((inner.append rest).cons id)

/-! ## Spans -/

/-- The spans that are recorded in front of other pieces are those of nodes that end there. -/
theorem spansFrom_append (ps : List Piece) (offset : Nat) (opened : List Nat) :
    ∃ found opened', (∀ x ∈ found, Prod.fst x ∈ ps.filterMap ended?) ∧
      ∀ qs, spansFrom offset opened (ps ++ qs) = found ++
        spansFrom (offset + size ps) opened' qs := by
  induction ps generalizing offset opened with
  | nil => exact ⟨[], opened, by simp, fun qs => rfl⟩
  | cons p ps ih =>
    cases p with
    | text s =>
      obtain ⟨found, opened', ids, run⟩ := ih (offset + s.utf8ByteSize) opened
      refine ⟨found, opened', ids, fun qs => ?_⟩
      rw [List.cons_append, spansFrom, run, size_text, Nat.add_assoc]
    | enter id =>
      obtain ⟨found, opened', ids, run⟩ := ih offset (offset :: opened)
      refine ⟨found, opened', ids, fun qs => ?_⟩
      rw [List.cons_append, spansFrom, run, size_enter]
    | leave id =>
      cases opened with
      | nil =>
        obtain ⟨found, opened', ids, run⟩ := ih offset []
        refine ⟨found, opened', fun x mem => List.mem_cons_of_mem _ (ids x mem), fun qs => ?_⟩
        rw [List.cons_append, spansFrom, run, size_leave]
      | cons start rest =>
        obtain ⟨found, opened', ids, run⟩ := ih offset rest
        refine ⟨(id, ⟨start, offset⟩) :: found, opened', ?_, fun qs => ?_⟩
        · exact List.forall_mem_cons.2
            ⟨List.mem_cons_self, fun x mem => List.mem_cons_of_mem _ (ids x mem)⟩
        · rw [List.cons_append, spansFrom, run, size_leave, List.cons_append]

/-- Behind balanced pieces the same nodes are open as before them. -/
theorem Balanced.spansFrom {ps : List Piece} (h : Balanced ps) (offset : Nat) (opened : List Nat) :
    ∃ found, (∀ x ∈ found, Prod.fst x ∈ ps.filterMap ended?) ∧
      ∀ qs, spansFrom offset opened (ps ++ qs) = found ++
        Piece.spansFrom (offset + size ps) opened qs := by
  induction h generalizing offset opened with
  | nil => exact ⟨[], by simp, fun qs => rfl⟩
  | text s _ ih =>
    obtain ⟨found, ids, run⟩ := ih (offset + s.utf8ByteSize) opened
    refine ⟨found, ids, fun qs => ?_⟩
    rw [List.cons_append, Piece.spansFrom, run, size_text, Nat.add_assoc]
  | @nest id inner rest _ _ ihInner ihRest =>
    obtain ⟨found, ids, run⟩ := ihInner offset (offset :: opened)
    obtain ⟨found', ids', run'⟩ := ihRest (offset + size inner) opened
    refine ⟨found ++ (id, ⟨offset, offset + size inner⟩) :: found', ?_, fun qs => ?_⟩
    · intro x mem
      simp only [List.filterMap_cons, List.filterMap_append, ended?]
      rcases List.mem_append.1 mem with left | right
      · exact List.mem_append_left _ (ids x left)
      · refine List.mem_append_right _ ?_
        rcases List.mem_cons.1 right with rfl | right
        · exact List.mem_cons_self
        · exact List.mem_cons_of_mem _ (ids' x right)
    · rw [List.cons_append, List.append_assoc, List.cons_append, Piece.spansFrom, run,
        Piece.spansFrom, run']
      simp [Nat.add_assoc]

theorem lookup_eq_none {found : List (NodeId × Span)} {id : NodeId} {ids : List NodeId}
    (known : ∀ x ∈ found, Prod.fst x ∈ ids) (absent : id ∉ ids) : found.lookup id = none := by
  rw [List.lookup_eq_none_iff]
  intro x mem
  simpa using fun same : id = x.1 => absent (same ▸ known x mem)

/-- The span of the one node with an id reaches from its begin to its end. -/
theorem lookup_spans {before inner after : List Piece} {id : NodeId} (inside : Balanced inner)
    (once : ((before ++ .enter id :: (inner ++ .leave id :: after)).filterMap ended?).Nodup) :
    (spans (before ++ .enter id :: (inner ++ .leave id :: after))).lookup id =
      some ⟨size before, size before + size inner⟩ := by
  simp only [List.filterMap_append, List.filterMap_cons, ended?] at once
  obtain ⟨-, rest, apart⟩ := List.nodup_append.1 once
  obtain ⟨-, -, apart'⟩ := List.nodup_append.1 rest
  obtain ⟨found, opened, ids, run⟩ := spansFrom_append before 0 []
  obtain ⟨found', ids', run'⟩ := inside.spansFrom (size before) (size before :: opened)
  have notBefore : id ∉ before.filterMap ended? := fun mem => apart _ mem _ (by simp) rfl
  have notInside : id ∉ inner.filterMap ended? := fun mem => apart' _ mem _ List.mem_cons_self rfl
  rw [spans, run, Nat.zero_add, spansFrom, run', spansFrom, List.lookup_append, List.lookup_append,
    lookup_eq_none ids notBefore, lookup_eq_none ids' notInside]
  simp

end Piece

open Piece (Balanced size)

/-! ## Nodes among pieces -/

namespace Lays

variable {ns : List Node} {l : Layout} {n : Node}

theorem infix_of_mem (h : Lays ns l) (mem : n ∈ ns) : n.layout.pieces <:+: l.pieces := by
  induction h with
  | empty | text => cases mem
  | part m =>
    obtain rfl := List.mem_singleton.1 mem
    exact List.infix_rfl
  | mark id leading _ ih =>
    refine (ih mem).trans ⟨[.text leading.text, .enter id], [.leave id], ?_⟩
    simp only [node, Layout.pieces_append]
    rfl
  | beside _ _ ihl ihr =>
    rw [Layout.pieces_append]
    rcases List.mem_append.1 mem with left | right
    · exact (ihl left).trans (List.infix_append_left ..)
    · exact (ihr right).trans (List.infix_append_right ..)

/-- One node stands behind another one. -/
def Behind (ps : List Piece) (a b : Node) : Prop :=
  ∃ before between after, ps = before ++ a.layout.pieces ++ between ++ b.layout.pieces ++ after

theorem Behind.within {ps qs : List Piece} {a b : Node} (h : Behind ps a b) (inside : ps <:+: qs) :
    Behind qs a b := by
  obtain ⟨before, between, after, rfl⟩ := h
  obtain ⟨front, rear, rfl⟩ := inside
  exact ⟨front ++ before, between, after ++ rear, by simp⟩

theorem pairwise_behind (h : Lays ns l) : ns.Pairwise (Behind l.pieces) := by
  induction h with
  | empty | text => exact .nil
  | part m => exact List.pairwise_singleton ..
  | mark id leading _ ih =>
    refine ih.imp fun behind => behind.within ⟨[.text leading.text, .enter id], [.leave id], ?_⟩
    simp only [node, Layout.pieces_append]
    rfl
  | @beside ns ms a b ha hb ihl ihr =>
    rw [Layout.pieces_append]
    refine List.pairwise_append.2 ⟨?_, ?_, fun x left y right => ?_⟩
    · exact ihl.imp fun behind => behind.within (List.infix_append_left ..)
    · exact ihr.imp fun behind => behind.within (List.infix_append_right ..)
    · obtain ⟨before, between, eq⟩ := ha.infix_of_mem left
      obtain ⟨between', after, eq'⟩ := hb.infix_of_mem right
      exact ⟨before, between ++ between', after, by rw [← eq, ← eq']; simp⟩

theorem balanced (h : Lays ns l) (parts : ∀ n ∈ ns, Balanced n.layout.pieces) :
    Balanced l.pieces := by
  induction h with
  | empty => exact .nil
  | text s => exact .text s .nil
  | part m => exact parts m List.mem_cons_self
  | mark id leading _ ih =>
    simp only [node, Layout.pieces_append]
    exact .text _ (.node id (ih parts))
  | beside _ _ ihl ihr =>
    obtain ⟨left, right⟩ := List.forall_mem_append.1 parts
    rw [Layout.pieces_append]
    exact (ihl left).append (ihr right)

end Lays

namespace Node

/-- The number of pieces of a node. Of two nodes with the same marks the outer one is higher. -/
def height (n : Node) : Nat := 2 * n.layout.pieces.length + n.rank

theorem rank_le_one (n : Node) : n.rank ≤ 1 := by
  unfold rank
  split <;> omega

theorem size_trivia {trivia : List String} {s : String} (leading : String.join trivia = s) :
    size (trivia.map .text) = s.utf8ByteSize := by
  rw [size, Piece.print_eq_join, List.map_map, ← leading]
  congr 2
  exact List.map_id _

/-- A part stands in its node, not in front of the text of the node. -/
theorem stands_part {n c : Node} (mem : c ∈ n.parts) :
    ∃ before after, n.layout.pieces = before ++ c.layout.pieces ++ after ∧ c.height < n.height ∧
      n.leading.text.utf8ByteSize ≤ size before + c.leading.text.utf8ByteSize := by
  cases n.laid with
  | framed trivia body lays leading pieces =>
    obtain ⟨before, after, eq⟩ := lays.infix_of_mem mem
    refine ⟨trivia.map Piece.text ++ Piece.enter n.id :: before, after ++ [Piece.leave n.id], ?_,
      ?_, ?_⟩
    · rw [pieces, ← eq]
      simp
    · have shorter := congrArg List.length eq
      have ranks := c.rank_le_one
      simp only [List.length_append] at shorter
      unfold height
      rw [pieces]
      simp only [List.length_append, List.length_cons, List.length_nil]
      omega
    · rw [Piece.size_append, size_trivia leading]
      omega
  | same c' parts layout id leading lower =>
    rw [parts, List.mem_singleton] at mem
    subst mem
    refine ⟨[], [], by simp [layout], ?_, by rw [leading]; omega⟩
    unfold height
    rw [layout]
    omega

theorem height_lt_of_mem_parts {n c : Node} (mem : c ∈ n.parts) : c.height < n.height :=
  let ⟨_, _, _, lower, _⟩ := stands_part mem
  lower

/-- What holds of a node if it holds of its parts. -/
theorem induction_on_parts {motive : Node → Prop} (n : Node)
    (step : ∀ n, (∀ c ∈ n.parts, motive c) → motive n) : motive n :=
  (measure height).wf.induction n fun n ih => step n fun c mem => ih c (height_lt_of_mem_parts mem)

theorem balanced (n : Node) : Balanced n.layout.pieces := by
  induction n using induction_on_parts with
  | step n ih =>
    cases n.laid with
    | framed trivia body lays leading pieces =>
      rw [pieces]
      exact (Balanced.texts trivia).append (.node n.id (lays.balanced ih))
    | same c parts layout id leading lower =>
      rw [← layout]
      exact ih c (by rw [parts]; exact List.mem_singleton_self c)

/-- Parts stand one behind the other. -/
theorem stands_parts (n : Node) : n.parts.Pairwise (Lays.Behind n.layout.pieces) := by
  cases n.laid with
  | framed trivia body lays leading pieces =>
    refine lays.pairwise_behind.imp fun behind => behind.within ?_
    exact ⟨trivia.map Piece.text ++ [Piece.enter n.id], [Piece.leave n.id], by rw [pieces]; simp⟩
  | same c parts layout id leading lower =>
    rw [parts]
    exact List.pairwise_singleton ..

/-- A node that stands among the pieces of a unit is located behind its leading trivia. -/
theorem locate_of_stands {u : CompilationUnit} (nodup : u.ids.Nodup) {n : Node}
    {before after : List Piece}
    (stands : u.layout.pieces = before ++ n.layout.pieces ++ after) :
    u.locate n.id = some ⟨size before + n.leading.text.utf8ByteSize,
      size before + size n.layout.pieces⟩ := by
  induction n using induction_on_parts with
  | step n ih =>
    cases n.laid with
    | framed trivia body lays leading pieces =>
      have cut : u.layout.pieces = (before ++ trivia.map Piece.text) ++
          .enter n.id :: (body.pieces ++ .leave n.id :: after) := by
        rw [stands, pieces]
        simp
      have once : (u.layout.pieces.filterMap Piece.ended?).Nodup :=
        (balanced (.unit u)).perm_ended.nodup_iff.2 nodup
      have inside : Balanced body.pieces := lays.balanced fun c _ => c.balanced
      have trivial : size (trivia.map .text) = n.leading.text.utf8ByteSize := size_trivia leading
      rw [CompilationUnit.locate, CompilationUnit.spans, cut,
        Piece.lookup_spans inside (cut ▸ once), pieces]
      simp [trivial, Nat.add_assoc]
    | same c parts layout id leading lower =>
      rw [← layout] at stands ⊢
      rw [← id, ← leading]
      exact ih c (by rw [parts]; exact List.mem_singleton_self c) stands

end Node

end Retouch
