import Mathlib.Data.List.Nodup
import Mathlib.Data.List.Perm.Basic
import Mathlib.Logic.Function.Basic

/-! A table of slots and the tenants that hold them. A slot that contains the free marker may be
given away; as long as only such slots are, tenants that live at the same time hold different
slots, and find in them what they put there. -/
namespace Ownership
variable {α τ : Type}

/-- The tenants hold different slots of the table, each with its own goods in it. -/
structure Housed (slot : τ → Nat) (goods : τ → α) (free : α) (size : Nat) (table : Nat → α)
    (tenants : List τ) : Prop where
  apart : (tenants.map slot).Nodup
  inside : ∀ t ∈ tenants, slot t < size
  holds : ∀ t ∈ tenants, table (slot t) = goods t
  taken : ∀ t ∈ tenants, goods t ≠ free

namespace Housed
variable {slot : τ → Nat} {goods : τ → α} {free : α} {table : Nat → α} {tenants : List τ}

theorem empty (slot : τ → Nat) (goods : τ → α) (free : α) (size : Nat) (table : Nat → α) :
    Housed slot goods free size table [] :=
  ⟨List.nodup_nil, nofun, nofun, nofun⟩

theorem congr (housed : Housed slot goods free size table tenants)
    (same : ∀ i < size, table' i = table i) : Housed slot goods free size table' tenants where
  apart := housed.apart
  inside := housed.inside
  holds t member := (same (slot t) (housed.inside t member)).trans (housed.holds t member)
  taken := housed.taken

theorem leave (housed : Housed slot goods free size table tenants) (inside : k < tenants.length) :
    Housed slot goods free size (Function.update table (slot tenants[k]) free)
      (tenants.eraseIdx k) := by
  have fewer := List.eraseIdx_sublist tenants k
  have others : ∀ t ∈ tenants.eraseIdx k, slot t ≠ slot tenants[k] := by
    have apart := ((List.getElem_cons_eraseIdx_perm inside).map slot).nodup_iff.mpr housed.apart
    rw [List.map_cons, List.nodup_cons] at apart
    intro t member same
    exact apart.1 (same ▸ List.mem_map_of_mem member)
  refine ⟨housed.apart.sublist (fewer.map slot), fun t member => ?_, fun t member => ?_,
    fun t member => ?_⟩
  · exact housed.inside t (fewer.subset member)
  · rw [Function.update_of_ne (others t member)]
    exact housed.holds t (fewer.subset member)
  · exact housed.taken t (fewer.subset member)

theorem map_slot_set (slot : τ → Nat) {tenants : List τ} (inside : k < tenants.length) (new : τ)
    (sameSlot : slot new = slot tenants[k]) : (tenants.set k new).map slot = tenants.map slot := by
  have bound : k < (tenants.map slot).length := by rwa [List.length_map]
  have here : (tenants.map slot)[k] = slot new := by rw [List.getElem_map, sameSlot]
  rw [List.map_set, ← here, List.set_getElem_self]

theorem replace (housed : Housed slot goods free size table tenants) (inside : k < tenants.length)
    (new : τ) (sameSlot : slot new = slot tenants[k]) (sameGoods : goods new = goods tenants[k]) :
    Housed slot goods free size table (tenants.set k new) := by
  have member := List.getElem_mem inside
  have slots := map_slot_set slot inside new sameSlot
  refine ⟨slots ▸ housed.apart, fun t changed => ?_, fun t changed => ?_, fun t changed => ?_⟩
  · rcases List.mem_or_eq_of_mem_set changed with living | rfl
    · exact housed.inside t living
    · exact sameSlot ▸ housed.inside _ member
  · rcases List.mem_or_eq_of_mem_set changed with living | rfl
    · exact housed.holds t living
    · rw [sameSlot, sameGoods]
      exact housed.holds _ member
  · rcases List.mem_or_eq_of_mem_set changed with living | rfl
    · exact housed.taken t living
    · exact sameGoods ▸ housed.taken _ member

end Housed

variable [DecidableEq α] {free : α} {table : Nat → α}

def firstFree (free : α) (size : Nat) (table : Nat → α) : Option Nat :=
  (List.range size).find? fun i => table i = free

theorem firstFree_some (found : firstFree free size table = some i) : i < size ∧ table i = free := by
  have here := List.find?_some found
  exact ⟨List.mem_range.mp (List.mem_of_find?_eq_some found), of_decide_eq_true here⟩

theorem firstFree_eq (inside : i < size) (here : table i = free) (before : ∀ j < i, table j ≠ free) :
    firstFree free size table = some i := by
  refine List.find?_range_eq_some.mpr ⟨decide_eq_true here, List.mem_range.mpr inside, ?_⟩
  intro j lower
  rw [decide_eq_false (before j lower)]
  rfl

theorem firstFree_none : firstFree free size table = none ↔ ∀ i < size, table i ≠ free := by
  simp only [firstFree, List.find?_eq_none, List.mem_range, decide_eq_true_eq, ne_eq]

namespace Housed
variable {slot : τ → Nat} {goods : τ → α} {tenants : List τ}

theorem slot_ne (housed : Housed slot goods free size table tenants)
    (found : firstFree free size table = some i) : ∀ t ∈ tenants, slot t ≠ i := by
  rintro t member rfl
  exact housed.taken t member ((housed.holds t member).symm.trans (firstFree_some found).2)

theorem put (housed : Housed slot goods free size table tenants)
    (found : firstFree free size table = some i) (x : α) :
    Housed slot goods free size (Function.update table i x) tenants where
  apart := housed.apart
  inside := housed.inside
  holds t member := by
    rw [Function.update_of_ne (housed.slot_ne found t member)]
    exact housed.holds t member
  taken := housed.taken

theorem enter (housed : Housed slot goods free size table tenants)
    (found : firstFree free size table = some i) (new : τ) (here : slot new = i)
    (brings : goods new ≠ free) :
    Housed slot goods free size (Function.update table i (goods new)) (tenants ++ [new]) := by
  have settled := housed.put found (goods new)
  refine ⟨?_, List.forall_mem_append.mpr ⟨settled.inside, ?_⟩,
    List.forall_mem_append.mpr ⟨settled.holds, ?_⟩, List.forall_mem_append.mpr ⟨settled.taken, ?_⟩⟩
  · rw [List.map_append, List.map_singleton, here]
    refine List.nodup_append.mpr ⟨housed.apart, List.nodup_singleton i, ?_⟩
    intro j member k last
    obtain ⟨t, living, rfl⟩ := List.mem_map.mp member
    rw [List.mem_singleton.mp last]
    exact housed.slot_ne found t living
  · intro t last
    rw [List.mem_singleton.mp last, here]
    exact (firstFree_some found).1
  · intro t last
    rw [List.mem_singleton.mp last, here, Function.update_self]
  · intro t last
    rw [List.mem_singleton.mp last]
    exact brings

end Housed
end Ownership
