import Mathlib.Data.Finset.Card

/-! Emptying a collection one element at a time. A picker takes some element out of its state
or reports that none is left; the loop around it runs on fuel, so that ending is a theorem
about the picker and not part of the definition. -/
namespace Loops
variable {σ α : Type}

/-- Pick until nothing is left; the elements in the order they were picked, and the last
state. `none` means the fuel ran out first. -/
def drain (pick : σ → Option (α × σ)) : Nat → σ → Option (List α × σ)
  | 0, _ => none
  | fuel + 1, s =>
    match pick s with
    | none => some ([], s)
    | some (a, s') => (drain pick fuel s').map fun (later, last) => (a :: later, last)

/-- A picker that removes what it picks from `contents`, and stops only when that is empty. -/
structure Picks [DecidableEq α] (pick : σ → Option (α × σ)) (contents : σ → Finset α) : Prop where
  stops : pick s = none → contents s = ∅
  picks : pick s = some (a, s') → a ∈ contents s ∧ contents s' = (contents s).erase a

theorem drain_succ_none {pick : σ → Option (α × σ)} (stop : pick s = none) :
    drain pick (fuel + 1) s = some ([], s) := by
  simp only [drain, stop]

theorem drain_succ_some {pick : σ → Option (α × σ)} (more : pick s = some (a, s'))
    (later : drain pick fuel s' = some (as, last)) :
    drain pick (fuel + 1) s = some (a :: as, last) := by
  simp only [drain, more, later, Option.map_some]

theorem drain_spec [DecidableEq α] {pick : σ → Option (α × σ)} {contents : σ → Finset α}
    (picker : Picks pick contents) (fuel : Nat) (s : σ) (enough : (contents s).card < fuel) :
    ∃ as last, drain pick fuel s = some (as, last) ∧ as.Nodup ∧
      (∀ a, a ∈ as ↔ a ∈ contents s) ∧ contents last = ∅ := by
  induction fuel generalizing s with
  | zero => omega
  | succ fuel ih =>
    cases picked : pick s with
    | none =>
      have empty := picker.stops picked
      exact ⟨[], s, drain_succ_none picked, List.nodup_nil, by simp [empty], empty⟩
    | some next =>
      obtain ⟨a, s'⟩ := next
      obtain ⟨member, erased⟩ := picker.picks picked
      have smaller := Finset.card_erase_lt_of_mem member
      obtain ⟨as, last, later, nodup, members, done⟩ := ih s' (by rw [erased]; omega)
      refine ⟨a :: as, last, drain_succ_some picked later, ?_, fun b => ?_, done⟩
      · refine List.nodup_cons.mpr ⟨fun again => ?_, nodup⟩
        rw [members, erased] at again
        exact Finset.notMem_erase a _ again
      · rw [List.mem_cons, members, erased, Finset.mem_erase]
        by_cases same : b = a
        · simp [same, member]
        · simp [same]

theorem drain_invariant {pick : σ → Option (α × σ)} {P : List α → σ → Prop}
    (before : List α) (step : ∀ as s a s', pick s = some (a, s') → P as s → P (as ++ [a]) s')
    (drained : drain pick fuel s = some (as, last)) (start : P before s) : P (before ++ as) last := by
  induction fuel generalizing s as before with
  | zero => simp [drain] at drained
  | succ fuel ih =>
    cases picked : pick s with
    | none =>
      rw [drain_succ_none picked] at drained
      obtain ⟨rfl, rfl⟩ := Prod.mk.inj (Option.some.inj drained)
      simpa only [List.append_nil] using start
    | some next =>
      obtain ⟨a, s'⟩ := next
      simp only [drain, picked, Option.map_eq_some_iff, Prod.mk.injEq, Prod.exists] at drained
      obtain ⟨later, _, drained, rfl, rfl⟩ := drained
      have tail := ih (before ++ [a]) drained (step before s a s' picked start)
      simpa only [List.append_assoc, List.singleton_append] using tail

end Loops
