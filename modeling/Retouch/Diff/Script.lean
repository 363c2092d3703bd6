/-!
# Edit scripts

A shortest way from one list of lines to another by deletions and insertions, found by dividing at the
middle of an optimal path (Myers). Lines are named by their index in the old and in the new list.
-/

namespace Retouch.Diff

/-- A step of an edit script. -/
inductive Step where
  /-- `len` lines that both lists have. -/
  | equal (old new len : Nat)
  /-- `len` old lines; `new` is where they would stand. -/
  | delete (old new len : Nat)
  /-- `len` new lines; `old` is where they go. -/
  | insert (old new len : Nat)
deriving DecidableEq, Repr

/-- The lines to compare. -/
structure Lines where
  old : Array String
  new : Array String

/-- The number of lines, up to a bound, that are equal from two indices on. -/
def Lines.agree (l : Lines) (i j : Nat) : Nat → Nat
  | 0 => 0
  | bound + 1 => if l.old[i]? == l.new[j]? then l.agree (i + 1) (j + 1) bound + 1 else 0

/-- The number of lines, up to a bound, that are equal in front of two indices. -/
def Lines.agreeBack (l : Lines) (i j : Nat) : Nat → Nat
  | 0 => 0
  | bound + 1 =>
    if l.old[i - 1]? == l.new[j - 1]? then l.agreeBack (i - 1) (j - 1) bound + 1 else 0

theorem Lines.agree_le (l : Lines) (i j bound : Nat) : l.agree i j bound ≤ bound := by
  induction bound generalizing i j with
  | zero => simp [agree]
  | succ n ih =>
    unfold agree
    split
    · exact Nat.succ_le_succ (ih ..)
    · exact Nat.zero_le _

theorem Lines.agreeBack_le (l : Lines) (i j bound : Nat) : l.agreeBack i j bound ≤ bound := by
  induction bound generalizing i j with
  | zero => simp [agreeBack]
  | succ n ih =>
    unfold agreeBack
    split
    · exact Nat.succ_le_succ (ih ..)
    · exact Nat.zero_le _

/-- How far each diagonal reaches, for diagonals from `-offset` on. -/
structure Reach where
  offset : Nat
  ends : Array Nat

namespace Reach

/-- Nothing reached on the diagonals between `-offset` and `offset`. -/
def empty (offset : Nat) : Reach := ⟨offset, Array.replicate (2 * offset + 1) 0⟩

def get (r : Reach) (k : Int) : Nat := (r.ends[(k + r.offset).toNat]?).getD 0

def set (r : Reach) (k : Int) (x : Nat) : Reach :=
  { r with ends := r.ends.setIfInBounds (k + r.offset).toNat x }

/-- Where a path of `d` edits starts on diagonal `k`: behind the better of its neighbours. -/
def start (r : Reach) (d : Nat) (k : Int) : Nat :=
  if k == -d || (k != d && r.get (k - 1) < r.get (k + 1)) then r.get (k + 1) else r.get (k - 1) + 1

end Reach

/-- Old lines from `old` on and new lines from `new` on. -/
structure Region where
  old : Nat
  oldLen : Nat
  new : Nat
  newLen : Nat

/-- The paths from both ends of a region. -/
structure Paths where
  forward : Reach
  backward : Reach

/-- The forward path on diagonal `k`, and where it meets the backward one. -/
def stepForward (l : Lines) (r : Region) (d : Nat) (k : Int) (p : Paths) :
    Paths × Option (Nat × Nat) :=
  let delta : Int := r.oldLen - r.newLen
  let x := p.forward.start d k
  let y : Int := x - k
  let stop :=
    if x < r.oldLen && 0 ≤ y && y < r.newLen then
      x + l.agree (r.old + x) (r.new + y.toNat) (min (r.oldLen - x) (r.newLen - y.toNat))
    else x
  let p := { p with forward := p.forward.set k stop }
  let meets := delta % 2 != 0 && (k - delta).natAbs + 1 ≤ d &&
    r.oldLen ≤ stop + p.backward.get (delta - k)
  (p, if meets then some (x, y.toNat) else none)

/-- The backward path on diagonal `k`, and where it meets the forward one. -/
def stepBackward (l : Lines) (r : Region) (d : Nat) (k : Int) (p : Paths) :
    Paths × Option (Nat × Nat) :=
  let delta : Int := r.oldLen - r.newLen
  let x := p.backward.start d k
  let y : Int := x - k
  let run :=
    if x < r.oldLen && 0 ≤ y && y < r.newLen then
      l.agreeBack (r.old + r.oldLen - x) (r.new + r.newLen - y.toNat)
        (min (r.oldLen - x) (r.newLen - y.toNat))
    else 0
  let stop := x + run
  let p := { p with backward := p.backward.set k stop }
  let meets := delta % 2 == 0 && (k - delta).natAbs ≤ d &&
    r.oldLen ≤ stop + p.forward.get (delta - k)
  (p, if meets then some (r.oldLen - stop, r.newLen - (y + run).toNat) else none)

/-- Takes a step on each diagonal until the paths meet. -/
def stepAll (step : Int → Paths → Paths × Option (Nat × Nat)) :
    List Int → Paths → Paths × Option (Nat × Nat)
  | [], p => (p, none)
  | k :: ks, p =>
    match step k p with
    | (p, some found) => (p, some found)
    | (p, none) => stepAll step ks p

/-- The diagonals that `d` edits can reach, from the highest one down. -/
def diagonals (d : Nat) : List Int := (List.range (d + 1)).map fun i => (d : Int) - 2 * (i : Nat)

/-- Lengthens the paths edit by edit, from `d` edits on, at most `rounds` times. -/
def meetFrom (l : Lines) (r : Region) (d : Nat) : Nat → Paths → Paths × Option (Nat × Nat)
  | 0, p => (p, none)
  | rounds + 1, p =>
    match stepAll (stepForward l r d) (diagonals d) p with
    | (p, some found) => (p, some found)
    | (p, none) =>
      match stepAll (stepBackward l r d) (diagonals d) p with
      | (p, some found) => (p, some found)
      | (p, none) => meetFrom l r (d + 1) rounds p

/-- The greatest number of edits that one of two paths takes until they meet, and one more. -/
def maxRounds (oldLen newLen : Nat) : Nat := (oldLen + newLen + 1) / 2 + 1

/-- A point in the middle of an optimal path through a region. The paths keep what earlier searches
left in them. -/
def middle (l : Lines) (r : Region) (p : Paths) : Paths × Option (Nat × Nat) :=
  meetFrom l r 0 (maxRounds r.oldLen r.newLen) ⟨p.forward.set 1 0, p.backward.set 1 0⟩

/-- The steps through a region: what is equal at both ends, and between it a deletion, an insertion or
the steps through both sides of a middle point. -/
def solve (l : Lines) (r : Region) (p : Paths) : List Step × Paths :=
  let lead := l.agree r.old r.new (min r.oldLen r.newLen)
  let tail := l.agreeBack (r.old + r.oldLen) (r.new + r.newLen)
    (min (r.oldLen - lead) (r.newLen - lead))
  let old := r.old + lead
  let new := r.new + lead
  let oldLen := r.oldLen - lead - tail
  let newLen := r.newLen - lead - tail
  let around (inner : List Step) : List Step :=
    (if lead == 0 then [] else [.equal r.old r.new lead]) ++ inner ++
      (if tail == 0 then [] else [.equal (old + oldLen) (new + newLen) tail])
  if oldLen == 0 && newLen == 0 then (around [], p)
  else if newLen == 0 then (around [.delete old new oldLen], p)
  else if oldLen == 0 then (around [.insert old new newLen], p)
  else
    match middle l ⟨old, oldLen, new, newLen⟩ p with
    | (p, some (x, y)) =>
      if progress : 0 < x + y ∧ x ≤ oldLen ∧ y ≤ newLen ∧ x + y < oldLen + newLen then
        let (left, p) := solve l ⟨old, x, new, y⟩ p
        let (right, p) := solve l ⟨old + x, oldLen - x, new + y, newLen - y⟩ p
        (around (left ++ right), p)
      else (around [.delete old new oldLen, .insert old new newLen], p)
    | (p, none) => (around [.delete old new oldLen, .insert old new newLen], p)
termination_by r.oldLen + r.newLen
decreasing_by all_goals simp_wf; omega

/-- The steps from the old lines to the new ones. -/
def script (l : Lines) : List Step :=
  let offset := maxRounds l.old.size l.new.size + 1
  (solve l ⟨0, l.old.size, 0, l.new.size⟩ ⟨.empty offset, .empty offset⟩).1

end Retouch.Diff
