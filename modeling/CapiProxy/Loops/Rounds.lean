import Mathlib.Tactic.Common

/-! Loops that may be left in the middle. A round goes on with a new state or leaves with a result;
the rounds run on fuel, and a measure that every round lowers says how much of it is enough. -/
namespace Loops
variable {σ ρ : Type}

inductive Round (σ ρ : Type) where
  | again (s : σ)
  | leave (r : ρ)

/-- Run rounds until one leaves. `none` means the fuel ran out first. -/
def rounds (round : σ → Round σ ρ) : Nat → σ → Option ρ
  | 0, _ => none
  | fuel + 1, s =>
    match round s with
    | .again s' => rounds round fuel s'
    | .leave r => some r

theorem rounds_again {round : σ → Round σ ρ} (again : round s = .again s') (fuel : Nat) :
    rounds round (fuel + 1) s = rounds round fuel s' := by
  simp only [rounds, again]

theorem rounds_leave {round : σ → Round σ ρ} (leave : round s = .leave r) (fuel : Nat) :
    rounds round (fuel + 1) s = some r := by
  simp only [rounds, leave]

/-- From an invariant that every round keeps and a measure that every round lowers: the loop ends
with one result, whatever the fuel beyond the measure, and the result is as the last round leaves it. -/
theorem rounds_end {round : σ → Round σ ρ} {P : σ → Prop} {Q : ρ → Prop} (measure : σ → Nat)
    (goes_on : ∀ s s', P s → round s = .again s' → P s' ∧ measure s' < measure s)
    (leaves : ∀ s r, P s → round s = .leave r → Q r) (start : P s) :
    ∃ r, (∀ fuel, measure s < fuel → rounds round fuel s = some r) ∧ Q r := by
  generalize bound : measure s = n
  induction n using Nat.strongRecOn generalizing s with
  | ind n ih =>
    cases next : round s with
    | leave r =>
      refine ⟨r, fun fuel enough => ?_, leaves s r start next⟩
      obtain ⟨fuel, rfl⟩ := Nat.exists_eq_add_of_lt enough
      exact rounds_leave next _
    | again s' =>
      obtain ⟨kept, lower⟩ := goes_on s s' start next
      obtain ⟨r, ends, result⟩ := ih (measure s') (bound ▸ lower) kept rfl
      refine ⟨r, fun fuel enough => ?_, result⟩
      obtain ⟨fuel, rfl⟩ := Nat.exists_eq_add_of_lt enough
      rw [rounds_again next]
      exact ends _ (by omega)

end Loops
