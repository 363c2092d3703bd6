import Retouch.Proofs.Parser.Reading

/-!
# What a parser gives

`Gives p P` says that every result of the parser `p` has the property `P`, and `Ends s p P` says so
of the result from one state, together with the state behind it. Both follow the steps of the
parser.
-/

namespace Retouch

namespace Parser

variable {α β : Type} {p : Parse α} {q : α → Parse β} {s : State}

/-- The results of `p` from `s` have the property, together with the state behind them. -/
def Ends (s : State) (p : Parse α) (P : α → State → Prop) : Prop :=
  ∀ a s', p s = .ok (a, s') → P a s'

/-- All results of `p` have the property. -/
def Gives (p : Parse α) (P : α → Prop) : Prop := ∀ s, Ends s p fun a _ => P a

namespace Ends

variable {P : α → State → Prop} {Q : β → State → Prop}

theorem pure {a : α} (h : P a s) : Ends s (pure a) P := by
  intro b s' run
  cases run
  exact h

theorem bind (hp : Ends s p P) (hq : ∀ a s', P a s' → Ends s' (q a) Q) : Ends s (p >>= q) Q := by
  intro b s' run
  obtain ⟨a, t, first, second⟩ := bind_ok run
  exact hq a t (hp a t first) b s' second

theorem imp {P' : α → State → Prop} (h : Ends s p P) (weaker : ∀ a s', P a s' → P' a s') :
    Ends s p P' :=
  fun a s' run => weaker a s' (h a s' run)

theorem skip (hq : ∀ a s', Ends s' (q a) Q) : Ends s (p >>= q) Q :=
  bind (P := fun _ _ => True) (fun _ _ _ => trivial) fun a s' _ => hq a s'

theorem get {k : State → Parse β} (h : Ends s (k s) Q) : Ends s (get >>= k) Q := h

theorem is {word : String} {k : Bool → Parse β} (h : Ends s (k (s.is word)) Q) :
    Ends s (is word >>= k) Q := h

theorem fresh {k : NodeId → Parse β} (h : Ends { s with nextId := s.nextId + 1 } (k s.nextId) Q) :
    Ends s (fresh >>= k) Q := h

theorem refuse {need : Need} : Ends s (refuse need) P := by
  intro a s' run
  cases run

theorem tooDeep : Ends s tooDeep P := by
  intro a s' run
  cases run

theorem ite {c : Prop} [Decidable c] {p p' : Parse α} (h : c → Ends s p P) (h' : ¬c → Ends s p' P) :
    Ends s (if c then p else p') P := by
  split
  · next held => exact h held
  · next held => exact h' held

end Ends

namespace Gives

variable {P : α → Prop} {Q : β → Prop}

theorem pure {a : α} (h : P a) : Gives (pure a) P := fun _ => .pure h

theorem bind (hp : Gives p P) (hq : ∀ a, P a → Gives (q a) Q) : Gives (p >>= q) Q :=
  fun s => (hp s).bind fun a s' h => hq a h s'

theorem and {P' : α → Prop} (h : Gives p P) (h' : Gives p P') : Gives p fun a => P a ∧ P' a :=
  fun s a s' run => ⟨h s a s' run, h' s a s' run⟩

theorem imp {P' : α → Prop} (h : Gives p P) (weaker : ∀ a, P a → P' a) : Gives p P' :=
  fun s => (h s).imp fun a _ => weaker a

/-- What `p` gives does not matter. -/
theorem skip (hq : ∀ a, Gives (q a) Q) : Gives (p >>= q) Q := fun _ => .skip fun a s' => hq a s'

theorem refuse {need : Need} : Gives (refuse need) P := fun _ => .refuse

theorem tooDeep : Gives tooDeep P := fun _ => .tooDeep

theorem ite {c : Prop} [Decidable c] {p p' : Parse α} (h : Gives p P) (h' : Gives p' P) :
    Gives (if c then p else p') P :=
  fun s => .ite (fun _ => h s) fun _ => h' s

end Gives

end Parser

end Retouch
