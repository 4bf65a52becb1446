import Mathlib.Data.List.Basic
import Mathlib.Logic.Function.Basic

/-! Lists that enumerate what a family of holders carries. `select` says which item a holder
carries in its state, if any; the list has every carried item once, and every item has one
holder. Updating one holder changes such a list by at most one item. -/
namespace Rosters

structure Enumerates (items : List β) (select : κ → σ → Option β) (state : κ → σ) : Prop where
  nodup : items.Nodup
  mem_iff : ∀ b, b ∈ items ↔ ∃ c, select c (state c) = some b
  unique : ∀ {c c' b}, select c (state c) = some b → select c' (state c') = some b → c = c'

namespace Enumerates

variable {κ σ β : Type*} {select : κ → σ → Option β} {state : κ → σ}

theorem nothing (none : ∀ c, select c (state c) = none) :
    Enumerates ([] : List β) select state where
  nodup := List.nodup_nil
  mem_iff b := by simp [none]
  unique carried := by simp [none] at carried

theorem mem_others (h : Enumerates items select state)
    (split : items.Perm ((select c (state c)).toList ++ others)) :
    b ∈ others ↔ ∃ c' ≠ c, select c' (state c') = some b := by
  have nodup := split.nodup_iff.mp h.nodup
  have mem := (split.mem_iff (a := b)).symm.trans (h.mem_iff b)
  rw [List.mem_append, Option.mem_toList] at mem
  constructor
  · intro listed
    obtain ⟨c', carried⟩ := mem.mp (.inr listed)
    refine ⟨c', ?_, carried⟩
    rintro rfl
    exact (List.nodup_append.mp nodup).2.2 b (Option.mem_toList.mpr carried) b listed rfl
  · rintro ⟨c', other, carried⟩
    rcases mem.mpr ⟨c', carried⟩ with mine | listed
    · exact absurd (h.unique carried mine) other
    · exact listed

variable [DecidableEq κ]

variable (select state) in
theorem select_update (c : κ) (new : σ) (c' : κ) :
    select c' (Function.update state c new c') =
      if c' = c then select c new else select c' (state c') := by
  split
  · next same => subst same; rw [Function.update_self]
  · next other => rw [Function.update_of_ne other]

theorem keep (h : Enumerates items select state) (same : select c new = select c (state c)) :
    Enumerates items select (Function.update state c new) := by
  have pointwise : ∀ c', select c' (Function.update state c new c') = select c' (state c') := by
    intro c'
    rw [select_update select state]
    split
    · next here => subst here; exact same
    · rfl
  constructor
  · exact h.nodup
  · simpa only [pointwise] using h.mem_iff
  · intro c₁ c₂ b first second
    exact h.unique ((pointwise c₁).symm.trans first) ((pointwise c₂).symm.trans second)

/-- One holder changes what it carries; the items of the others stay. -/
theorem change (h : Enumerates items select state) (others : List β)
    (before : items.Perm ((select c (state c)).toList ++ others))
    (after : items'.Perm ((select c new).toList ++ others))
    (fresh : ∀ b, select c new = some b → b ∉ others) :
    Enumerates items' select (Function.update state c new) := by
  have nodup := before.nodup_iff.mp h.nodup
  constructor
  · apply after.nodup_iff.mpr
    apply List.nodup_append.mpr
    refine ⟨?_, (List.nodup_append.mp nodup).2.1, ?_⟩
    · cases select c new <;> simp
    · intro b mine b' listed same
      exact fresh b (Option.mem_toList.mp mine) (same ▸ listed)
  · intro b
    rw [after.mem_iff, List.mem_append, Option.mem_toList, h.mem_others before]
    constructor
    · rintro (mine | ⟨c', other, carried⟩)
      · exact ⟨c, by rw [Function.update_self]; exact mine⟩
      · exact ⟨c', by rw [Function.update_of_ne other]; exact carried⟩
    · rintro ⟨c', carried⟩
      rw [select_update select state] at carried
      split at carried
      · exact .inl carried
      · next other => exact .inr ⟨c', other, carried⟩
  · intro c₁ c₂ b first second
    rw [select_update select state] at first second
    split at first <;> split at second
    · next here there => rw [here, there]
    · next here other =>
      exact absurd ((h.mem_others before).mpr ⟨c₂, other, second⟩) (fresh b first)
    · next other here =>
      exact absurd ((h.mem_others before).mpr ⟨c₁, other, first⟩) (fresh b second)
    · exact h.unique first second

theorem insert (h : Enumerates items select state) (idle : select c (state c) = none)
    (taken : select c new = some b) (fresh : b ∉ items) :
    Enumerates (items ++ [b]) select (Function.update state c new) := by
  refine h.change items (by rw [idle]; exact .refl _) ?_ ?_
  · rw [taken]
    exact List.perm_append_comm
  · intro b' same
    obtain rfl := Option.some.inj (taken.symm.trans same)
    exact fresh

theorem remove (h : Enumerates items select state) (carried : select c (state c) = some b)
    (laid : select c new = none) (rest : items.Perm (b :: items')) :
    Enumerates items' select (Function.update state c new) := by
  refine h.change items' (by rw [carried]; exact rest) ?_ ?_
  · rw [laid]
    exact .refl _
  · intro b' same
    rw [laid] at same
    cases same

end Enumerates
end Rosters
