import Mathlib.Logic.Relation
import Mathlib.Tactic.Common

/-! Machines that move step by step, where a move is possible in some states only and may be made under a
condition. -/
namespace Traces
variable {σ μ : Type} {step : σ → μ → Option σ} {allowed : σ → μ → Bool} {s s' : σ}

/-- A move that is possible and may be made. -/
def permitted (step : σ → μ → Option σ) (allowed : σ → μ → Bool) (s : σ) (move : μ) : Option σ :=
  if allowed s move then step s move else none

def Runs (step : σ → μ → Option σ) (allowed : σ → μ → Bool) : σ → σ → Prop :=
  Relation.ReflTransGen fun s s' => ∃ move, permitted step allowed s move = some s'

def any : σ → μ → Bool := fun _ _ => true

theorem permitted_some {move : μ} (made : permitted step allowed s move = some s') :
    allowed s move ∧ step s move = some s' :=
  Option.ite_none_right_eq_some.mp made

/-- What every move keeps holds after every run. -/
theorem Runs.invariant {P : σ → Prop} (runs : Runs step allowed s s') (start : P s)
    (keeps : ∀ s move s', P s → allowed s move → step s move = some s' → P s') : P s' := by
  induction runs with
  | refl => exact start
  | tail _ last ih =>
    obtain ⟨move, made⟩ := last
    obtain ⟨may, made⟩ := permitted_some made
    exact keeps _ move _ ih may made

theorem runs_of_moves {moves : List μ} (made : moves.foldlM (permitted step allowed) s = some s') :
    Runs step allowed s s' := by
  induction moves generalizing s with
  | nil =>
    obtain rfl := Option.some.inj made
    exact .refl
  | cons move later ih =>
    rw [List.foldlM_cons] at made
    obtain ⟨t, first, rest⟩ := Option.bind_eq_some_iff.mp made
    exact .head ⟨move, first⟩ (ih rest)

end Traces
