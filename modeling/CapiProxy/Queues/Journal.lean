import Mathlib.Data.List.Basic
import Mathlib.Tactic.Common

/-! The books of a queue that is served at its head: everything that was ever put in, and what
became of each entry that left. They account for a queue when it holds the rest, in order. -/
namespace Queues

structure Journal (α φ : Type) where
  accepted : List α
  gone : List (α × φ)

namespace Journal
variable {α φ : Type}

def empty : Journal α φ := ⟨[], []⟩

def accept (l : Journal α φ) (entry : α) : Journal α φ := { l with accepted := l.accepted ++ [entry] }

def leave (l : Journal α φ) (fate : φ) (entries : List α) : Journal α φ :=
  { l with gone := l.gone ++ entries.map (·, fate) }

def Accounts (l : Journal α φ) (queue : List α) : Prop :=
  l.accepted = l.gone.map Prod.fst ++ queue

/-- The entries that left with a fate, in the order they left. -/
def fated [DecidableEq φ] (l : Journal α φ) (fate : φ) : List α :=
  (l.gone.filter (·.2 = fate)).map Prod.fst

theorem empty_accounts : (empty : Journal α φ).Accounts [] := rfl

theorem Accounts.accept {l : Journal α φ} (accounts : l.Accounts queue) (entry : α) :
    (l.accept entry).Accounts (queue ++ [entry]) := by
  rw [Accounts] at accounts ⊢
  simp only [Journal.accept, accounts, List.append_assoc]

theorem Accounts.leave {l : Journal α φ} (accounts : l.Accounts (entries ++ queue)) (fate : φ) :
    (l.leave fate entries).Accounts queue := by
  rw [Accounts] at accounts ⊢
  simp only [Journal.leave, accounts, List.map_append, List.map_map, List.append_assoc]
  congr 2
  exact (List.map_id' entries).symm

/-- What left with one fate came out in the order it was put in, each entry once. -/
theorem Accounts.fated_sublist [DecidableEq φ] {l : Journal α φ} (accounts : l.Accounts queue)
    (fate : φ) : (l.fated fate).Sublist l.accepted := by
  rw [accounts]
  exact ((List.filter_sublist).map Prod.fst).trans (List.sublist_append_left _ _)

theorem fated_leave [DecidableEq φ] (l : Journal α φ) (fate other : φ) (entries : List α) :
    (l.leave other entries).fated fate = l.fated fate ++ if other = fate then entries else [] := by
  simp only [fated, leave, List.filter_append, List.map_append, List.filter_map, List.map_map]
  split
  · next same => simp [same, Function.comp_def]
  · next apart => simp [apart, Function.comp_def]

/-- The `n`-th entry is in the queue. -/
def Queued (l : Journal α φ) (queue : List α) (n : Nat) (entry : α) : Prop :=
  l.gone.length ≤ n ∧ queue[n - l.gone.length]? = some entry

def Left (l : Journal α φ) (n : Nat) (entry : α) (fate : φ) : Prop := l.gone[n]? = some (entry, fate)

theorem Queued.not_left {l : Journal α φ} (queued : l.Queued queue n entry) : ¬ l.Left n other fate := by
  intro left
  rw [Left, List.getElem?_eq_none queued.1] at left
  cases left

theorem Queued.accept {l : Journal α φ} (queued : l.Queued queue n entry) (last : α) :
    (l.accept last).Queued (queue ++ [last]) n entry := by
  obtain ⟨behind, here⟩ := queued
  exact ⟨behind, List.getElem?_append_left (List.getElem?_eq_some_iff.mp here).1 ▸ here⟩

theorem queued_last {l : Journal α φ} (accounts : l.Accounts queue) (last : α) :
    (l.accept last).Queued (queue ++ [last]) l.accepted.length last := by
  rw [accounts]
  simp [Queued, Journal.accept]

theorem Left.leave {l : Journal α φ} (left : l.Left n entry fate) (other : φ) (entries : List α) :
    (l.leave other entries).Left n entry fate := by
  have inside := (List.getElem?_eq_some_iff.mp left).1
  exact (List.getElem?_append_left inside).trans left

theorem Queued.leave {l : Journal α φ} (queued : l.Queued (first :: queue) n entry) (fate : φ) :
    (l.leave fate [first]).Queued queue n entry ∨
      (entry = first ∧ (l.leave fate [first]).Left n entry fate) := by
  obtain ⟨behind, here⟩ := queued
  rcases Nat.eq_or_lt_of_le behind with head | later
  · rw [← head, Nat.sub_self, List.getElem?_cons_zero] at here
    obtain rfl := Option.some.inj here
    exact .inr ⟨rfl, by simp [Left, Journal.leave, ← head]⟩
  · refine .inl ⟨by simpa [Journal.leave] using Nat.succ_le_of_lt later, ?_⟩
    obtain ⟨k, rfl⟩ := Nat.exists_eq_add_of_lt later
    rw [Nat.add_assoc, Nat.add_sub_cancel_left, List.getElem?_cons_succ] at here
    have place : l.gone.length + k + 1 - (l.leave fate [first]).gone.length = k := by
      simp only [Journal.leave, List.length_append, List.length_map, List.length_singleton]
      omega
    rw [place]
    exact here

theorem Queued.leave_all {l : Journal α φ} (queued : l.Queued queue n entry) (fate : φ) :
    (l.leave fate queue).Left n entry fate := by
  obtain ⟨behind, here⟩ := queued
  rw [Left, Journal.leave, List.getElem?_append_right behind, List.getElem?_map, here]
  rfl

end Journal
end Queues
