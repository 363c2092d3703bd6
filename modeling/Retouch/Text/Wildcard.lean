/-!
# Wildcards

Patterns of sequences: items, each with a test of its own, and gaps between them. `Wildcard.accepts`
decides whether a sequence fits. It goes through the pattern from its end and keeps, for the part of
the pattern that it has seen, the answers for all ends of the sequence, the longest first. So the time
it takes is the product of both lengths, however many gaps there are.

Main statements: `accepts_nil`, `accepts_item` and `accepts_gap` are the rules of the pattern language,
in which nothing is said about rows of answers.
-/

namespace Retouch

/-- A part of a pattern of sequences. -/
inductive Wildcard (α : Type) where
  /-- One item that passes the test. -/
  | item (test : α → Bool)
  /-- Any number of items. A gap may be empty, it may take all that is left, and else it ends behind
  an item that passes the test. -/
  | gap (mayEnd : α → Bool)

namespace Wildcard

variable {α : Type}

/-- Any number of any items. -/
def anything : Wildcard α := gap fun _ => true

/-- The answers of the empty pattern: only the empty end fits. -/
def atEnd : List α → List Bool
  | [] => [true]
  | _ :: as => false :: atEnd as

/-- The answers with an item in front of a pattern that has the answers `row`. -/
def beforeItem (test : α → Bool) : List α → List Bool → List Bool
  | a :: as, _ :: row => (row.headD false && test a) :: beforeItem test as row
  | _, _ => [false]

/-- The answers with a gap that takes at least one item, or all of none, in front of a pattern that has
the answers `row`. -/
def beforeTaken (mayEnd : α → Bool) : List α → List Bool → List Bool
  | a :: as, _ :: row =>
    let later := beforeTaken mayEnd as row
    (row.headD false && mayEnd a || later.headD false) :: later
  | _, row => row

/-- The answers of a pattern for all ends of a sequence, the longest first. -/
def answers : List (Wildcard α) → List α → List Bool
  | [], as => atEnd as
  | item test :: parts, as => beforeItem test as (answers parts as)
  | gap mayEnd :: parts, as =>
    let row := answers parts as
    List.zipWith (· || ·) row (beforeTaken mayEnd as row)

/-- The whole sequence fits the pattern. -/
def accepts (parts : List (Wildcard α)) (as : List α) : Bool := (answers parts as).headD false

/-- What a gap that takes at least one item may leave of a sequence; of the empty one the gap leaves the
empty one. -/
def leftBehind (mayEnd : α → Bool) : List α → List (List α)
  | [] => [[]]
  | a :: as => if mayEnd a then as :: leftBehind mayEnd as else leftBehind mayEnd as

theorem answers_nil (parts : List (Wildcard α)) : ∃ b, answers parts [] = [b] := by
  induction parts with
  | nil => exact ⟨true, rfl⟩
  | cons p parts ih =>
    obtain ⟨b, hb⟩ := ih
    cases p with
    | item test => exact ⟨false, by simp [answers, beforeItem]⟩
    | gap mayEnd => exact ⟨b, by simp [answers, beforeTaken, hb]⟩

/-- The answers for the ends of a sequence are those for the ends of its tail behind one for itself. -/
theorem answers_cons (parts : List (Wildcard α)) (a : α) (as : List α) :
    ∃ b, answers parts (a :: as) = b :: answers parts as := by
  induction parts with
  | nil => exact ⟨false, rfl⟩
  | cons p parts ih =>
    obtain ⟨b, hb⟩ := ih
    cases p <;> simp [answers, hb, beforeItem, beforeTaken]

theorem accepts_nil (as : List α) : accepts [] as = as.isEmpty := by
  cases as <;> rfl

theorem accepts_item_nil (test : α → Bool) (parts : List (Wildcard α)) :
    accepts (item test :: parts) [] = false := by
  simp [accepts, answers, beforeItem]

theorem accepts_item (test : α → Bool) (parts : List (Wildcard α)) (a : α) (as : List α) :
    accepts (item test :: parts) (a :: as) = (test a && accepts parts as) := by
  obtain ⟨b, hb⟩ := answers_cons parts a as
  simp [accepts, answers, hb, beforeItem, Bool.and_comm]

theorem headD_beforeTaken (mayEnd : α → Bool) (parts : List (Wildcard α)) (as : List α) :
    (beforeTaken mayEnd as (answers parts as)).headD false =
      (leftBehind mayEnd as).any (accepts parts) := by
  induction as with
  | nil => simp [beforeTaken, leftBehind, accepts]
  | cons a as ih =>
    obtain ⟨b, hb⟩ := answers_cons parts a as
    rw [hb, beforeTaken]
    cases h : mayEnd a <;> simp [leftBehind, h, ← ih, accepts]

/-- A gap is empty or leaves one of the ends behind it to the rest of the pattern. -/
theorem accepts_gap (mayEnd : α → Bool) (parts : List (Wildcard α)) (as : List α) :
    accepts (gap mayEnd :: parts) as =
      (accepts parts as || (leftBehind mayEnd as).any (accepts parts)) := by
  rw [← headD_beforeTaken]
  cases as with
  | nil =>
    obtain ⟨b, hb⟩ := answers_nil parts
    simp [accepts, answers, beforeTaken, hb]
  | cons a as =>
    obtain ⟨b, hb⟩ := answers_cons parts a as
    simp [accepts, answers, hb, beforeTaken]

end Wildcard

end Retouch
