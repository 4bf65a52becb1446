import Mathlib.Data.Set.Lattice
import Mathlib.Order.CompletePartialOrder

/-! Resources and their owners. A family of sets partitions a set of resources when no resource
has two owners and every resource has one; acquiring fresh resources and giving up owned ones
keep it so. -/
namespace Ownership
variable {ι α : Type} {owns : ι → Set α} {all : Set α}

structure Partitions (owns : ι → Set α) (all : Set α) : Prop where
  apart : ∀ i j, i ≠ j → Disjoint (owns i) (owns j)
  union : ⋃ i, owns i = all

theorem Partitions.mem_iff (h : Partitions owns all) : a ∈ all ↔ ∃ i, a ∈ owns i := by
  rw [← h.union, Set.mem_iUnion]

theorem Partitions.not_mem_of_ne (h : Partitions owns all) (here : a ∈ owns i) (other : j ≠ i) :
    a ∉ owns j := fun there => Set.disjoint_left.mp (h.apart j i other) there here

theorem Partitions.empty (nothing : ∀ i, owns i = ∅) : Partitions owns ∅ where
  apart i j _ := by rw [nothing i]; exact Set.empty_disjoint _
  union := by simp [nothing]

theorem Partitions.step {owns' : ι → Set α} (h : Partitions owns all) (i : ι) (gain lose : Set α)
    (fresh : Disjoint gain all) (own : lose ⊆ owns i) (here : owns' i = gain ∪ (owns i \ lose))
    (others : ∀ j, j ≠ i → owns' j = owns j) : Partitions owns' (gain ∪ (all \ lose)) where
  apart j k different := by
    have away (l : ι) (other : l ≠ i) : Disjoint (owns' i) (owns' l) := by
      rw [here, others l other, Set.disjoint_union_left]
      refine ⟨Set.disjoint_of_subset_right (fun a member => h.mem_iff.mpr ⟨l, member⟩) fresh, ?_⟩
      exact Set.disjoint_of_subset_left Set.sdiff_subset (h.apart i l other.symm)
    by_cases first : j = i
    · subst first
      exact away k different.symm
    · by_cases second : k = i
      · subst second
        exact (away j first).symm
      · rw [others j first, others k second]
        exact h.apart j k different
  union := by
    ext a
    rw [Set.mem_iUnion, Set.mem_union, Set.mem_sdiff, h.mem_iff]
    constructor
    · rintro ⟨j, member⟩
      by_cases same : j = i
      · subst same
        rw [here] at member
        exact member.imp_right fun kept => ⟨⟨j, kept.1⟩, kept.2⟩
      · rw [others j same] at member
        exact .inr ⟨⟨j, member⟩, fun lost => h.not_mem_of_ne (own lost) same member⟩
    · rintro (gained | ⟨⟨j, member⟩, kept⟩)
      · exact ⟨i, by rw [here]; exact .inl gained⟩
      · by_cases same : j = i
        · subst same
          exact ⟨j, by rw [here]; exact .inr ⟨member, kept⟩⟩
        · exact ⟨j, by rwa [others j same]⟩

end Ownership
