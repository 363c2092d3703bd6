import Retouch.Diff.Script

/-!
# Compact scripts

Of all scripts of one length a reader likes the one whose changes lie together. Every deletion, and
then every insertion, is moved up as far as it goes and then down as far as it goes, past steps of the
other sort and past equal lines that repeat; changes that meet are joined.
-/

namespace Retouch.Diff

/-- What a step changes. -/
inductive StepKind where
  | equal | delete | insert
deriving DecidableEq, Repr

namespace Step

def kind : Step → StepKind
  | equal .. => .equal
  | delete .. => .delete
  | insert .. => .insert

def len : Step → Nat
  | equal _ _ n | delete _ _ n | insert _ _ n => n

def old : Step → Nat
  | equal i _ _ | delete i _ _ | insert i _ _ => i

def new : Step → Nat
  | equal _ j _ | delete _ j _ | insert _ j _ => j

/-- The number of new lines of a step. -/
def newLen : Step → Nat
  | equal _ _ n | insert _ _ n => n
  | delete .. => 0

def withLen (n : Nat) : Step → Step
  | equal i j _ => equal i j n
  | delete i j _ => delete i j n
  | insert i j _ => insert i j n

/-- The step `n` lines further up. -/
def shiftUp (n : Nat) : Step → Step
  | equal i j len => equal (i - n) (j - n) len
  | delete i j len => delete (i - n) (j - n) len
  | insert i j len => insert (i - n) (j - n) len

/-- The step `n` lines further down. -/
def shiftDown (n : Nat) : Step → Step
  | equal i j len => equal (i + n) (j + n) len
  | delete i j len => delete (i + n) (j + n) len
  | insert i j len => insert (i + n) (j + n) len

end Step

/-- What the steps weigh: every line and every step counts. -/
def weight : List Step → Nat
  | [] => 0
  | s :: ss => s.len + 1 + weight ss

/-- A script with a mark at one of its steps; `before` is in reversed order. -/
structure Marked where
  before : List Step
  this : Step
  after : List Step

/-- Equal lines behind the marked step: they join those that are there. -/
def pushEqual (s : Step) : List Step → List Step
  | .equal i j len :: rest => ((Step.equal i j len).shiftUp s.len).withLen (len + s.len) :: rest
  | rest => s :: rest

/-- Equal lines in front of the marked step: they join those that are there. -/
def pushEqualBack (s : Step) : List Step → List Step
  | .equal i j len :: rest => .equal i j (len + s.len) :: rest
  | rest => s :: rest

/-- Moves a change up. The lines in front of it may follow it if they end as it does. -/
def moveUp (l : Lines) (this : Step) (after : List Step) : List Step → Marked
  | [] => ⟨[], this, after⟩
  | .equal i j len :: before =>
    let run := l.agreeBack (i + len) (this.new + this.newLen) (min len this.newLen)
    if moved : 0 < run then
      let follow := Step.equal (i + len - run) (this.new + this.newLen - run) run
      let before := if len == run then before else .equal i j (len - run) :: before
      moveUp l (this.shiftUp run) (pushEqual follow after) before
    else if len == 0 then moveUp l this after before
    else ⟨.equal i j len :: before, this, after⟩
  | prev :: before =>
    if prev.kind == this.kind then moveUp l (prev.withLen (prev.len + this.len)) after before
    else moveUp l this (prev :: after) before
termination_by before => weight before
decreasing_by
  · have := l.agreeBack_le (i + len) (this.new + this.newLen) (min len this.newLen)
    split <;> simp only [weight, Step.len] <;> omega
  · simp only [weight]; omega
  · simp only [weight]; omega
  · simp only [weight]; omega

/-- Moves a change down. The lines behind it may precede it if they begin as it does. -/
def moveDown (l : Lines) (before : List Step) (this : Step) : List Step → Marked
  | [] => ⟨before, this, []⟩
  | .equal i j len :: after =>
    let run := l.agree i this.new (min len this.newLen)
    if moved : 0 < run then
      let precede := Step.equal i this.new run
      let after := if len == run then after else .equal (i + run) (j + run) (len - run) :: after
      moveDown l (pushEqualBack precede before) (this.shiftDown run) after
    else if len == 0 then moveDown l before this after
    else ⟨before, this, .equal i j len :: after⟩
  | next :: after =>
    if next.kind == this.kind then moveDown l before (this.withLen (this.len + next.len)) after
    else moveDown l (next :: before) this after
termination_by after => weight after
decreasing_by
  · have := l.agree_le i this.new (min len this.newLen)
    split <;> simp only [weight, Step.len] <;> omega
  · simp only [weight]; omega
  · simp only [weight]; omega
  · simp only [weight]; omega

/-- Moves the mark to the first step of a kind; the passed steps are in reversed order. -/
def passOver (kind : StepKind) (before : List Step) : List Step → List Step × List Step
  | [] => (before, [])
  | s :: after =>
    if s.kind == kind then (before, s :: after) else passOver kind (s :: before) after

/-- Moves the next `count` steps of a kind. -/
def moveAll (l : Lines) (kind : StepKind) : Nat → List Step → List Step → List Step
  | 0, before, after => before.reverse ++ after
  | count + 1, before, after =>
    match passOver kind before after with
    | (before, []) => before.reverse
    | (before, this :: after) =>
      let m := moveUp l this after before
      let m := moveDown l m.before m.this m.after
      moveAll l kind count (m.this :: m.before) m.after

/-- Moves every step of a kind. -/
def moveKind (l : Lines) (kind : StepKind) (steps : List Step) : List Step :=
  moveAll l kind (steps.countP (·.kind == kind)) [] steps

/-- The compact form of a script. -/
def compact (l : Lines) (steps : List Step) : List Step :=
  moveKind l .insert (moveKind l .delete steps)

end Retouch.Diff
