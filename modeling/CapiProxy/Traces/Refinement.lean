import Mathlib.Tactic.Common

/-! Machines that answer commands, and specifications that say which answers are right. A specification
relates the state before a command, the command, its answer and the state after it; a machine refines
it when the specification explains every run of the machine. -/
namespace Traces
variable {σ τ α β : Type}

def answers (step : σ → α → β × σ) (s : σ) : List α → List β × σ
  | [] => ([], s)
  | a :: later =>
    let rest := answers step (step s a).2 later
    ((step s a).1 :: rest.1, rest.2)

/-- Every command meets the condition under which it may be given. -/
def Admitted (step : σ → α → β × σ) (guard : σ → α → Prop) (s : σ) : List α → Prop
  | [] => True
  | a :: later => guard s a ∧ Admitted step guard (step s a).2 later

inductive Explains (spec : τ → α → β → τ → Prop) : τ → List (α × β) → τ → Prop where
  | done (t : τ) : Explains spec t [] t
  | next (first : spec t a b t') (later : Explains spec t' rest t'') : Explains spec t ((a, b) :: rest) t''

/-- The specification explains each step from a state with the invariant, and the step keeps it. -/
structure Refines (step : σ → α → β × σ) (spec : τ → α → β → τ → Prop) (guard : σ → α → Prop)
    (invariant : σ → Prop) (abstract : σ → τ) : Prop where
  explains : ∀ s a, invariant s → guard s a → spec (abstract s) a (step s a).1 (abstract (step s a).2)
  keeps : ∀ s a, invariant s → guard s a → invariant (step s a).2

theorem Refines.run {step : σ → α → β × σ} {spec : τ → α → β → τ → Prop} {guard : σ → α → Prop}
    {invariant : σ → Prop} {abstract : σ → τ} (refines : Refines step spec guard invariant abstract)
    (start : invariant s) (admitted : Admitted step guard s commands) :
    Explains spec (abstract s) (commands.zip (answers step s commands).1)
      (abstract (answers step s commands).2) ∧ invariant (answers step s commands).2 := by
  induction commands generalizing s with
  | nil => exact ⟨.done _, start⟩
  | cons a later ih =>
    obtain ⟨given, admitted⟩ := admitted
    obtain ⟨explained, kept⟩ := ih (refines.keeps s a start given) admitted
    exact ⟨.next (refines.explains s a start given) explained, kept⟩

end Traces
