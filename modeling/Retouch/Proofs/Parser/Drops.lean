import Retouch.Parser.Grammar
import Retouch.Proofs.Parser.Reading

/-!
# Tokens are taken from the front

A parser takes tokens away from the front and nothing else (`Drops`): what is left behind the
package declaration of a unit are tokens of the unit.
-/

namespace Retouch

namespace Parser

/-- The tokens left behind `p` are some of the last ones. -/
def Drops {α : Type} (p : Parse α) : Prop := ∀ ⦃s a s'⦄, p s = .ok (a, s') → s'.tokens <:+ s.tokens

namespace Drops

variable {α β : Type} {p : Parse α} {q : α → Parse β}

theorem bind (hp : Drops p) (hq : ∀ a, Drops (q a)) : Drops (p >>= q) := by
  intro s b s' run
  obtain ⟨a, t, first, rest⟩ := bind_ok run
  exact (hq a rest).trans (hp first)

theorem pure (a : α) : Drops (Pure.pure a) := by
  intro s b s' run
  cases run
  exact List.suffix_refl _

theorem ask (question : State → Bool) : Drops (Parser.ask question) := by
  intro s b s' run
  cases run
  exact List.suffix_refl _

theorem is (text : String) : Drops (Parser.is text) := ask _

theorem fresh : Drops Parser.fresh := by
  intro s b s' run
  cases run
  exact List.suffix_refl _

theorem refuse (need : Need) : Drops (Parser.refuse need : Parse α) := by
  intro s a s' run
  cases run

theorem tooDeep : Drops (Parser.tooDeep : Parse α) := by
  intro s a s' run
  cases run

theorem ite {c : Prop} [Decidable c] {p' : Parse α} (hp : Drops p) (hp' : Drops p') :
    Drops (if c then p else p') := by
  split
  · exact hp
  · exact hp'

theorem leading : Drops Parser.leading := by
  intro s space s' run
  obtain ⟨space', run', -⟩ := leading_run s
  rw [run'] at run
  cases run
  exact List.suffix_refl _

theorem bump : Drops Parser.bump := by
  intro s t s' run
  cases run
  unfold State.bump
  split
  · exact List.suffix_refl _
  · exact List.tail_suffix _

theorem next : Drops Parser.next := leading.bind fun _ => bump.bind fun _ => pure _

theorem expect (text : String) : Drops (Parser.expect text) :=
  (is text).bind fun _ => (next.bind fun _ => pure _).ite (refuse _)

theorem ident : Drops Parser.ident :=
  (ask _).bind fun _ => (next.bind fun _ => fresh.bind fun _ => pure _).ite (refuse _)

theorem nameRest (name : Expression) (n : Nat) : Drops (Parser.nameRest name n) := by
  induction n generalizing name with
  | zero => exact tooDeep
  | succ n ih =>
    exact (ask _).bind fun _ =>
      ((expect ".").bind fun _ => ident.bind fun _ => fresh.bind fun _ => ih _).ite
      (pure _)

theorem qualifiedName (n : Nat) : Drops (Parser.qualifiedName n) := ident.bind fun _ => nameRest _ n

theorem packageDeclaration (n : Nat) : Drops (Parser.packageDeclaration n) := by
  refine (is "package").bind fun _ => ite ?_ (pure _)
  exact (expect "package").bind fun _ => (qualifiedName n).bind fun _ =>
    (expect ";").bind fun _ => fresh.bind fun _ => pure _

end Drops

end Parser

end Retouch
