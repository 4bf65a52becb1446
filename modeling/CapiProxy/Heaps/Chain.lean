import Mathlib.Data.List.Nodup
import Mathlib.Logic.Function.Basic

/-! Singly linked lists in a heap of cells. A reference that no cell is stored under is dangling;
a walk that reads one stops there. Walks take as much fuel as they may visit cells. -/
namespace Heaps

structure Cell (α : Type) where
  next : Option Nat
  value : α

abbrev Heap (α : Type) := Nat → Option (Cell α)

variable {α : Type} {h h' : Heap α} {start : Option Nat} {c : List (Nat × α)}

/-- From `start` on lie these cells, in this order, and no others. -/
def Chain (h : Heap α) : Option Nat → List (Nat × α) → Prop
  | start, [] => start = none
  | start, (r, a) :: rest => start = some r ∧ ∃ next, h r = some ⟨next, a⟩ ∧ Chain h next rest

def refs (c : List (Nat × α)) : List Nat := c.map Prod.fst

/-- The cells one can get to from `start`. -/
inductive Reach (h : Heap α) (start : Option Nat) : Nat → Prop where
  | start (first : start = some r) : Reach h start r
  | next (reached : Reach h start r) (cell : h r = some ⟨some r', a⟩) : Reach h start r'

/-- The last cell from a reference on; `none` when a dangling reference is read. -/
def lastCell (h : Heap α) : Nat → Nat → Option Nat
  | 0, _ => none
  | fuel + 1, r =>
    match h r with
    | none => none
    | some ⟨none, _⟩ => some r
    | some ⟨some next, _⟩ => lastCell h fuel next

/-- The outcome of a search: a dangling reference was read, the list has ended, or a cell with the
reference before it was found. -/
inductive Search (α : Type) where
  | dangling
  | missing
  | found (prev : Option Nat) (r : Nat) (cell : Cell α)

def search (h : Heap α) (p : α → Bool) : Nat → Option Nat → Option Nat → Search α
  | _, _, none => .missing
  | 0, _, some _ => .dangling
  | fuel + 1, prev, some r =>
    match h r with
    | none => .dangling
    | some cell => if p cell.value then .found prev r cell else search h p fuel (some r) cell.next

def setNext (h : Heap α) (r : Nat) (next : Option Nat) : Heap α :=
  match h r with
  | none => h
  | some cell => Function.update h r (some { cell with next })

def link (h : Heap α) (last fresh : Nat) (a : α) : Heap α :=
  Function.update (setNext h last (some fresh)) fresh (some ⟨none, a⟩)

def unlink (h : Heap α) (prev : Option Nat) (r : Nat) (next : Option Nat) : Heap α :=
  Function.update (match prev with | none => h | some p => setNext h p next) r none

theorem setNext_other (h : Heap α) (next : Option Nat) (other : r' ≠ r) : setNext h r next r' = h r' := by
  rw [setNext]
  cases h r with
  | none => rfl
  | some cell => exact Function.update_of_ne other _ _

theorem setNext_self (h : Heap α) (next : Option Nat) (cell : h r = some ⟨next', a⟩) :
    setNext h r next r = some ⟨next, a⟩ := by
  simp only [setNext, cell, Function.update_self]

theorem link_other (h : Heap α) (a : α) (old : r ≠ last) (stored : r ≠ fresh) :
    link h last fresh a r = h r := by
  rw [link, Function.update_of_ne stored, setNext_other h _ old]

theorem unlink_other (h : Heap α) (next : Option Nat) (kept : r' ≠ r) (old : prev ≠ some r') :
    unlink h prev r next r' = h r' := by
  cases prev with
  | none => exact Function.update_of_ne kept _ _
  | some p =>
    refine (Function.update_of_ne kept _ _).trans ?_
    exact setNext_other h next fun same => old (congrArg some same.symm)

theorem unlink_free (h : Heap α) (prev : Option Nat) (next : Option Nat) (free : h r' = none) :
    unlink h prev r next r' = none := by
  by_cases here : r' = r
  · rw [here]
    exact Function.update_self ..
  · by_cases old : prev = some r'
    · subst old
      refine (Function.update_of_ne here _ _).trans ?_
      simp only [setNext, free]
    · rw [unlink_other h next here old, free]

@[simp] theorem refs_nil : refs ([] : List (Nat × α)) = [] := rfl

@[simp] theorem refs_cons (r : Nat) (a : α) (c : List (Nat × α)) : refs ((r, a) :: c) = r :: refs c := rfl

@[simp] theorem refs_append (c d : List (Nat × α)) : refs (c ++ d) = refs c ++ refs d := List.map_append

namespace Chain

theorem congr (chain : Chain h start c) (same : ∀ r ∈ refs c, h' r = h r) : Chain h' start c := by
  induction c generalizing start with
  | nil => exact chain
  | cons cell rest ih =>
    obtain ⟨first, next, stored, behind⟩ := chain
    exact ⟨first, next, (same cell.1 List.mem_cons_self).trans stored,
      ih behind fun r member => same r (List.mem_cons_of_mem _ member)⟩

theorem stored (chain : Chain h start c) (member : r ∈ refs c) : h r ≠ none := by
  induction c generalizing start with
  | nil => cases member
  | cons cell rest ih =>
    obtain ⟨-, next, here, behind⟩ := chain
    rcases List.mem_cons.mp member with rfl | later
    · rw [here]
      exact Option.some_ne_none _
    · exact ih behind later

theorem reach (chain : Chain h start c) (member : r ∈ refs c) : Reach h start r := by
  suffices onward : ∀ start', Chain h start' c → (∀ r, start' = some r → Reach h start r) →
      Reach h start r from
    onward start chain fun _ => .start
  clear chain
  induction c with
  | nil => cases member
  | cons cell rest ih =>
    rintro start' ⟨first, next, stored, behind⟩ leads
    have here := leads cell.1 first
    rcases List.mem_cons.mp member with rfl | later
    · exact here
    · refine ih later next behind fun r' next_eq => ?_
      subst next_eq
      exact .next here stored

theorem closed (chain : Chain h start c) (member : r ∈ refs c) (cell : h r = some ⟨some r', a⟩) :
    r' ∈ refs c := by
  induction c generalizing start with
  | nil => cases member
  | cons first rest ih =>
    obtain ⟨-, next, stored, behind⟩ := chain
    rcases List.mem_cons.mp member with rfl | later
    · rw [stored] at cell
      obtain ⟨rfl, -⟩ := Cell.mk.inj (Option.some.inj cell)
      cases rest with
      | nil => cases behind
      | cons second rest =>
        obtain rfl := Option.some.inj behind.1
        exact List.mem_cons_of_mem _ List.mem_cons_self
    · exact List.mem_cons_of_mem _ (ih behind later)

theorem reach_iff (chain : Chain h start c) : Reach h start r ↔ r ∈ refs c := by
  constructor
  · intro reached
    induction reached with
    | start first =>
      subst first
      cases c with
      | nil => cases chain
      | cons cell rest =>
        obtain rfl := Option.some.inj chain.1
        exact List.mem_cons_self
    | next _ cell member => exact chain.closed member cell
  · exact chain.reach

theorem lastCell (chain : Chain h (some r) c) (enough : c.length ≤ fuel) :
    ∃ init last a, c = init ++ [(last, a)] ∧ Heaps.lastCell h fuel r = some last := by
  induction c generalizing r fuel with
  | nil => cases chain
  | cons cell rest ih =>
    obtain ⟨first, next, stored, behind⟩ := chain
    obtain rfl := Option.some.inj first
    obtain ⟨fuel, rfl⟩ := Nat.exists_eq_add_of_le' (Nat.le_trans (Nat.succ_pos rest.length) enough)
    cases next with
    | none =>
      have ended : rest = [] := by
        cases rest with
        | nil => rfl
        | cons second rest => cases behind.1
      subst ended
      exact ⟨[], cell.1, cell.2, rfl, by simp only [Heaps.lastCell, stored]⟩
    | some next =>
      obtain ⟨init, last, a, rfl, found⟩ := ih behind (Nat.le_of_succ_le_succ enough)
      exact ⟨cell :: init, last, a, rfl, by simp only [Heaps.lastCell, stored, found]⟩

theorem link {init : List (Nat × α)} {b : α} (chain : Chain h start (init ++ [(last, b)]))
    (distinct : (refs (init ++ [(last, b)])).Nodup) (unused : fresh ∉ refs (init ++ [(last, b)])) (a : α) :
    Chain (Heaps.link h last fresh a) start (init ++ [(last, b), (fresh, a)]) := by
  induction init generalizing start with
  | nil =>
    obtain ⟨first, next, stored, -⟩ := chain
    have other : last ≠ fresh := fun same => unused (same ▸ List.mem_cons_self)
    refine ⟨first, some fresh, ?_, rfl, none, Function.update_self .., rfl⟩
    rw [Heaps.link, Function.update_of_ne other, setNext_self h _ stored]
  | cons cell rest ih =>
    obtain ⟨first, next, stored, behind⟩ := chain
    rw [List.cons_append, refs_cons] at distinct unused
    obtain ⟨apart, distinct⟩ := List.nodup_cons.mp distinct
    obtain ⟨other, unused⟩ := not_or.mp fun here => unused (List.mem_cons.mpr here)
    refine ⟨first, next, ?_, ih behind distinct unused⟩
    rw [link_other h a (fun same => apart (by simp [same])) (Ne.symm other), stored]

/-- With fuel for every cell, a search finds the first cell with the property, or that there is
none. -/
theorem search (chain : Chain h start c) (p : α → Bool) (enough : c.length ≤ fuel) (prev : Option Nat) :
    (Heaps.search h p fuel prev start = .missing ∧ ∀ x ∈ c, p x.2 = false) ∨
    ∃ before r a after next, c = before ++ (r, a) :: after ∧ (∀ x ∈ before, p x.2 = false) ∧
      p a = true ∧
      h r = some ⟨next, a⟩ ∧
      Heaps.search h p fuel prev start = .found ((refs before).getLast?.or prev) r ⟨next, a⟩ := by
  induction c generalizing start fuel prev with
  | nil =>
    obtain rfl : start = none := chain
    exact .inl ⟨by cases fuel <;> rfl, nofun⟩
  | cons cell rest ih =>
    obtain ⟨rfl, next, stored, behind⟩ := chain
    obtain ⟨fuel, rfl⟩ := Nat.exists_eq_add_of_le' (Nat.le_trans (Nat.succ_pos rest.length) enough)
    by_cases here : p cell.2 = true
    · refine .inr ⟨[], cell.1, cell.2, rest, next, rfl, nofun, here, stored, ?_⟩
      simp only [Heaps.search, stored, if_pos here]
      rfl
    · have step : Heaps.search h p (fuel + 1) prev (some cell.1) =
          Heaps.search h p fuel (some cell.1) next := by
        simp only [Heaps.search, stored, if_neg here]
      rw [step]
      have other : p cell.2 = false := Bool.eq_false_iff.mpr here
      rcases ih behind (Nat.le_of_succ_le_succ enough) (some cell.1) with
        ⟨missing, none⟩ | ⟨before, r, a, after, next', rfl, earlier, found, cell', result⟩
      · exact .inl ⟨missing, List.forall_mem_cons.mpr ⟨other, none⟩⟩
      · refine .inr ⟨cell :: before, r, a, after, next', rfl,
          List.forall_mem_cons.mpr ⟨other, earlier⟩, found, cell', ?_⟩
        rw [result]
        cases before with
        | nil => rfl
        | cons second before => simp [refs, List.getLast?_cons]

theorem unlink {before after : List (Nat × α)} {a : α} {next : Option Nat}
    (chain : Chain h start (before ++ (r, a) :: after)) (cell : h r = some ⟨next, a⟩)
    (distinct : (refs (before ++ (r, a) :: after)).Nodup) :
    Chain (Heaps.unlink h (refs before).getLast? r next) (if before = [] then next else start)
      (before ++ after) := by
  have behind {start : Option Nat} {prev : Option Nat} (chain : Chain h start after)
      (apart : ∀ p, prev = some p → p ∉ refs after) (gone : r ∉ refs after) :
      Chain (Heaps.unlink h prev r next) start after :=
    chain.congr fun r' member => unlink_other h next (fun same => gone (same ▸ member))
      fun same => apart r' same member
  induction before generalizing start with
  | nil =>
    obtain ⟨-, next', stored, rest⟩ := chain
    obtain ⟨rfl, -⟩ := Cell.mk.inj (Option.some.inj (stored.symm.trans cell))
    exact behind rest nofun (List.nodup_cons.mp distinct).1
  | cons first before ih =>
    obtain ⟨rfl, next', stored, rest⟩ := chain
    rw [List.cons_append, refs_cons] at distinct
    obtain ⟨apart, distinct⟩ := List.nodup_cons.mp distinct
    have other : first.1 ≠ r := fun same => apart (by simp [same])
    cases before with
    | nil =>
      -- the cell before is the one whose link changes
      obtain ⟨-, next'', stored', rest⟩ := rest
      obtain ⟨rfl, -⟩ := Cell.mk.inj (Option.some.inj (stored'.symm.trans cell))
      refine ⟨rfl, next'', ?_, behind rest ?_ (List.nodup_cons.mp distinct).1⟩
      · exact (Function.update_of_ne other _ _).trans (setNext_self h _ stored)
      · rintro p same member
        obtain rfl := Option.some.inj same
        exact apart (List.mem_cons_of_mem _ member)
    | cons second before =>
      have last : (refs (first :: second :: before)).getLast? = (refs (second :: before)).getLast? := by
        simp [refs, List.getLast?_cons]
      have shorter := ih rest distinct
      rw [if_neg (List.cons_ne_nil _ _)] at shorter ⊢
      rw [last]
      refine ⟨rfl, next', ?_, shorter⟩
      rw [unlink_other h next other, stored]
      intro same
      have member := List.mem_of_getLast? same
      exact apart (by rw [refs_append]; exact List.mem_append_left _ member)

end Chain
end Heaps
