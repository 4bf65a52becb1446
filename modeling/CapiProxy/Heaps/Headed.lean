import CapiProxy.Heaps.Chain
import Mathlib.Data.List.Perm.Subperm

/-! A singly linked list with the reference to its first cell. Every operation on the cells is one on the
list of their values, as long as it starts from the first cell. -/
namespace Heaps
variable {α : Type}

/-- The cells, of which each has a number of its own and `used` is the next one. -/
structure Headed (α : Type) where
  cells : Heap α
  used : Nat
  head : Option Nat

def setValue (h : Heap α) (r : Nat) (a : α) : Heap α :=
  match h r with
  | none => h
  | some cell => Function.update h r (some { cell with value := a })

theorem setValue_other (h : Heap α) (a : α) (other : r' ≠ r) : setValue h r a r' = h r' := by
  rw [setValue]
  cases h r with
  | none => rfl
  | some cell => exact Function.update_of_ne other _ _

theorem setValue_self (h : Heap α) (a : α) (cell : h r = some ⟨next, b⟩) :
    setValue h r a r = some ⟨next, a⟩ := by
  simp only [setValue, cell, Function.update_self]

theorem Chain.setValue {h : Heap α} {start : Option Nat} {before after : List (Nat × α)} {a : α}
    (chain : Chain h start (before ++ (r, a) :: after))
    (distinct : (refs (before ++ (r, a) :: after)).Nodup) (b : α) :
    Chain (Heaps.setValue h r b) start (before ++ (r, b) :: after) := by
  induction before generalizing start with
  | nil =>
    obtain ⟨first, next, stored, rest⟩ := chain
    refine ⟨first, next, setValue_self h b stored, rest.congr fun r' member => ?_⟩
    exact setValue_other h b fun same => (List.nodup_cons.mp distinct).1 (same ▸ member)
  | cons cell before ih =>
    obtain ⟨first, next, stored, rest⟩ := chain
    rw [List.cons_append, refs_cons] at distinct
    obtain ⟨apart, distinct⟩ := List.nodup_cons.mp distinct
    refine ⟨first, next, ?_, ih rest distinct⟩
    exact (setValue_other h b fun same => apart (by simp [same])).trans stored

namespace Headed

def empty : Headed α := ⟨fun _ => none, 0, none⟩

/-- A cell at the end; `none` when a dangling reference is read. -/
def append (l : Headed α) (a : α) : Option (Headed α) :=
  match l.head with
  | none => some ⟨Function.update l.cells l.used (some ⟨none, a⟩), l.used + 1, some l.used⟩
  | some first => (lastCell l.cells l.used first).map fun last =>
      { l with cells := link l.cells last l.used a, used := l.used + 1 }

def find (l : Headed α) (p : α → Bool) (start : Option Nat) : Search α :=
  search l.cells p l.used none start

@[simp] theorem find_none (l : Headed α) (p : α → Bool) : l.find p none = .missing := by
  rw [find]
  cases l.used <;> rfl

def erase (l : Headed α) (prev : Option Nat) (r : Nat) (next : Option Nat) : Headed α :=
  { l with cells := unlink l.cells prev r next, head := if prev.isNone then next else l.head }

def replace (l : Headed α) (r : Nat) (a : α) : Headed α := { l with cells := setValue l.cells r a }

theorem append_stored {l l' : Headed α} {a : α} (appended : l.append a = some l')
    (stored : l'.cells r ≠ none) : r = l.used ∨ l.cells r ≠ none := by
  by_cases fresh : r = l.used
  · exact .inl fresh
  · refine .inr fun free => stored ?_
    cases first : l.head with
    | none =>
      simp only [append, first, Option.some_inj] at appended
      subst appended
      exact (Function.update_of_ne fresh _ _).trans free
    | some head =>
      simp only [append, first, Option.map_eq_some_iff] at appended
      obtain ⟨last, -, rfl⟩ := appended
      refine (Function.update_of_ne fresh _ _).trans ?_
      by_cases here : r = last
      · subst here
        simp only [setNext, free]
      · exact (setNext_other _ _ here).trans free

theorem erase_stored {l : Headed α} {prev next : Option Nat} (stored : (l.erase prev r next).cells r' ≠ none) :
    r' ≠ r ∧ l.cells r' ≠ none := by
  refine ⟨?_, fun free => stored (unlink_free _ _ _ free)⟩
  rintro rfl
  exact stored (Function.update_self ..)

structure Represents (l : Headed α) (c : List (Nat × α)) : Prop where
  chain : Chain l.cells l.head c
  distinct : (refs c).Nodup
  bound : ∀ r ∈ refs c, r < l.used

theorem empty_represents : (empty : Headed α).Represents [] := ⟨rfl, List.nodup_nil, nofun⟩

namespace Represents
variable {l : Headed α} {c : List (Nat × α)}

theorem enough (h : l.Represents c) : c.length ≤ l.used := by
  have within : refs c ⊆ List.range l.used := fun r member => List.mem_range.mpr (h.bound r member)
  have count := (List.subperm_of_subset h.distinct within).length_le
  rwa [List.length_range, refs, List.length_map] at count

theorem append (h : l.Represents c) (a : α) :
    ∃ l', l.append a = some l' ∧ l'.Represents (c ++ [(l.used, a)]) := by
  have unused : l.used ∉ refs c := fun member => absurd (h.bound _ member) (Nat.lt_irrefl _)
  have distinct : (refs (c ++ [(l.used, a)])).Nodup := by
    rw [refs_append]
    refine List.nodup_append.mpr ⟨h.distinct, List.nodup_singleton _, fun r here r' there same => ?_⟩
    obtain rfl : r' = l.used := List.mem_singleton.mp there
    exact unused (same ▸ here)
  have bound (r : Nat) (member : r ∈ refs (c ++ [(l.used, a)])) : r < l.used + 1 := by
    rw [refs_append, List.mem_append] at member
    rcases member with old | new
    · exact Nat.lt_succ_of_lt (h.bound r old)
    · obtain rfl : r = l.used := List.mem_singleton.mp new
      exact Nat.lt_succ_self _
  have chain := h.chain
  cases first : l.head with
  | none =>
    rw [first] at chain
    have none : c = [] := by
      cases c with
      | nil => rfl
      | cons cell rest => cases chain.1
    subst none
    exact ⟨_, by rw [Headed.append, first], ⟨rfl, _, Function.update_self .., rfl⟩, distinct, bound⟩
  | some head =>
    rw [first] at chain
    obtain ⟨init, last, b, rfl, found⟩ := chain.lastCell h.enough
    have appended : l.append a = some { l with cells := link l.cells last l.used a, used := l.used + 1 } := by
      simp only [Headed.append, first, found, Option.map_some]
    refine ⟨_, appended, ?_, distinct, bound⟩
    rw [List.append_assoc]
    exact h.chain.link h.distinct unused a

theorem erase {before after : List (Nat × α)} {a : α} {next : Option Nat}
    (h : l.Represents (before ++ (r, a) :: after)) (cell : l.cells r = some ⟨next, a⟩) :
    (l.erase (refs before).getLast? r next).Represents (before ++ after) := by
  have shorter : List.Sublist (refs (before ++ after)) (refs (before ++ (r, a) :: after)) := by simp
  have first : ((refs before).getLast?.isNone = true) = (before = []) := by simp [refs]
  refine ⟨?_, h.distinct.sublist shorter, fun r' member => h.bound r' (shorter.subset member)⟩
  simp only [Headed.erase, first]
  exact h.chain.unlink cell h.distinct

theorem replace {before after : List (Nat × α)} {a : α} (h : l.Represents (before ++ (r, a) :: after))
    (b : α) : (l.replace r b).Represents (before ++ (r, b) :: after) := by
  have same : refs (before ++ (r, b) :: after) = refs (before ++ (r, a) :: after) := by simp
  exact ⟨h.chain.setValue h.distinct b, same ▸ h.distinct, same ▸ h.bound⟩

theorem find (h : l.Represents c) (p : α → Bool) :
    (l.find p l.head = .missing ∧ ∀ x ∈ c, p x.2 = false) ∨
    ∃ before r a after next, c = before ++ (r, a) :: after ∧ (∀ x ∈ before, p x.2 = false) ∧
      p a = true ∧ l.cells r = some ⟨next, a⟩ ∧
      l.find p l.head = .found (refs before).getLast? r ⟨next, a⟩ := by
  rcases h.chain.search p h.enough none with
    ⟨missing, absent⟩ | ⟨before, r, a, after, next, rfl, earlier, here, cell, found⟩
  · exact .inl ⟨missing, absent⟩
  · rw [Option.or_none] at found
    exact .inr ⟨before, r, a, after, next, rfl, earlier, here, cell, found⟩

end Represents

/-- What was once the first cell is it still, or has been freed. -/
structure Sampled (l : Headed α) (r : Nat) : Prop where
  old : r < l.used
  current : l.head = some r ∨ l.cells r = none

namespace Sampled
variable {l l' : Headed α}

theorem first {c : List (Nat × α)} (h : l.Represents c) (head : l.head = some r) : l.Sampled r :=
  ⟨h.bound r (h.chain.reach_iff.mp (.start head)), .inl head⟩

theorem append {a : α} (sampled : l.Sampled r) (appended : l.append a = some l') : l'.Sampled r := by
  have free : l.cells r = none → l'.cells r = none := fun free => by_contra fun stored =>
    (append_stored appended stored).elim (Nat.ne_of_lt sampled.old) fun other => other free
  cases first : l.head with
  | none =>
    have gone := sampled.current.resolve_left (by rw [first]; exact Option.some_ne_none r ∘ Eq.symm)
    simp only [Headed.append, first, Option.some_inj] at appended
    subst appended
    exact ⟨Nat.lt_succ_of_lt sampled.old, .inr (free gone)⟩
  | some head =>
    simp only [Headed.append, first, Option.map_eq_some_iff] at appended
    obtain ⟨last, -, rfl⟩ := appended
    exact ⟨Nat.lt_succ_of_lt sampled.old, sampled.current.imp (first ▸ ·) free⟩

theorem erase {before after : List (Nat × α)} {a : α} (sampled : l.Sampled r) (next : Option Nat)
    (h : l.Represents (before ++ (r', a) :: after)) :
    (l.erase (refs before).getLast? r' next).Sampled r := by
  refine ⟨sampled.old, ?_⟩
  rcases sampled.current with here | free
  · cases before with
    | nil =>
      -- the first cell is the one that goes
      obtain rfl := Option.some_inj.mp (here.symm.trans h.chain.1)
      exact .inr (Function.update_self ..)
    | cons cell before =>
      have kept : (refs (cell :: before)).getLast?.isNone = false := by simp [refs]
      exact .inl (by simp only [Headed.erase, kept, Bool.false_eq_true, if_false, here])
  · exact .inr (unlink_free _ _ _ free)

theorem replace {a : α} (sampled : l.Sampled r) (r' : Nat) : (l.replace r' a).Sampled r := by
  refine ⟨sampled.old, sampled.current.imp_right fun free => ?_⟩
  by_cases here : r = r'
  · subst here
    simp only [Headed.replace, setValue, free]
  · exact (setValue_other _ _ here).trans free

/-- A search or a walk from what has been freed goes wrong at once. -/
theorem dangling (sampled : l.Sampled r) (p : α → Bool) (outdated : some r ≠ l.head) :
    l.find p (some r) = .dangling ∧ lastCell l.cells l.used r = none := by
  have free := sampled.current.resolve_left fun here => outdated here.symm
  obtain ⟨fuel, used⟩ := Nat.exists_eq_add_of_lt sampled.old
  simp only [Headed.find, used, search, lastCell, free, and_self]

end Sampled
end Headed
end Heaps
