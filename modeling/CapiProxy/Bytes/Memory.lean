import Mathlib.Algebra.Group.Nat.Defs
import Mathlib.Data.List.Basic
import Mathlib.Tactic.Common

/-! Byte-addressed memory and its little-endian words. Every address holds a byte, so an
access outside an object reads or changes whatever lies there: bounds are statements about
addresses, not an effect of the memory. -/
namespace Bytes

abbrev Memory := Nat → UInt8

def zeros : Memory := fun _ => 0

def Memory.read (m : Memory) (a n : Nat) : List UInt8 := (List.range n).map fun i => m (a + i)

def Memory.write (m : Memory) (a : Nat) (bs : List UInt8) : Memory := fun q =>
  if a ≤ q then (bs[q - a]?).getD (m q) else m q

/-- The bytes `bs` stand at address `a`. -/
def Holds (m : Memory) (a : Nat) (bs : List UInt8) : Prop := m.read a bs.length = bs

/-- The bytes before the first zero byte at or after `a`, looking at `n` bytes at most. -/
def Memory.stringWithin (m : Memory) (a : Nat) : Nat → List UInt8
  | 0 => []
  | n + 1 => if m a = 0 then [] else m a :: Memory.stringWithin m (a + 1) n

/-- The zero-terminated string at `a` of a 32-bit address space. -/
def Memory.string (m : Memory) (a : Nat) : List UInt8 := m.stringWithin a (2 ^ 32)

/-- An address space of 32 bits, in which the first address follows the last. -/
def Memory.cyclic (m : Memory) : Memory := fun q => m (q % 2 ^ 32)

namespace Memory

@[simp] theorem length_read (m : Memory) (a n : Nat) : (m.read a n).length = n := by simp [read]

@[simp] theorem getElem_read (m : Memory) (a n i : Nat) (h : i < (m.read a n).length) :
    (m.read a n)[i] = m (a + i) := by simp [read]

theorem read_add (m : Memory) (a n k : Nat) : m.read a (n + k) = m.read a n ++ m.read (a + n) k := by
  simp only [read, List.range_add, List.map_append, List.map_map, Function.comp_def, Nat.add_assoc]

theorem read_congr {m m' : Memory} {a b n : Nat} (same : ∀ i < n, m (a + i) = m' (b + i)) :
    m.read a n = m'.read b n := by
  simp only [read]
  exact List.map_congr_left fun i hi => same i (List.mem_range.mp hi)

theorem write_inside (m : Memory) (a : Nat) (bs : List UInt8) (i : Nat) (h : i < bs.length) :
    m.write a bs (a + i) = bs[i] := by
  simp [write, List.getElem?_eq_getElem h]

theorem write_outside (m : Memory) (a : Nat) (bs : List UInt8) (q : Nat)
    (h : q < a ∨ a + bs.length ≤ q) : m.write a bs q = m q := by
  rcases h with below | above
  · simp [write, Nat.not_le.mpr below]
  · simp [write, List.getElem?_eq_none (show bs.length ≤ q - a by omega)]

theorem write_congr {m m' : Memory} {a q : Nat} {bs : List UInt8} (same : m q = m' q) :
    m.write a bs q = m'.write a bs q := by
  simp only [write, same]

@[simp] theorem write_nil (m : Memory) (a : Nat) : m.write a [] = m := by
  funext q
  exact write_outside m a [] q (by simp; omega)

theorem write_byte (m : Memory) (a : Nat) (b : UInt8) (q : Nat) :
    m.write a [b] q = if q = a then b else m q := by
  split
  · next same => subst same; exact write_inside m q [b] 0 (by simp)
  · next other => exact write_outside m a [b] q (by simp only [List.length_singleton]; omega)

theorem read_write (m : Memory) (a : Nat) (bs : List UInt8) :
    (m.write a bs).read a bs.length = bs := by
  apply List.ext_getElem (by simp)
  intro i _ hi
  simp only [getElem_read, write_inside m a bs i hi]

theorem read_write_take (m : Memory) (a n : Nat) (bs : List UInt8) (bound : n ≤ bs.length) :
    (m.write a bs).read a n = bs.take n := by
  apply List.ext_getElem (by simp [bound])
  intro i inside _
  have i_lt : i < bs.length := by rw [length_read] at inside; omega
  rw [getElem_read, write_inside m a bs i i_lt, List.getElem_take]

theorem read_write_prefix (m : Memory) (a n : Nat) (bs : List UInt8) (bound : n ≤ bs.length) :
    (m.write a bs).read a n <+: bs := by
  rw [m.read_write_take a n bs bound]
  exact List.take_prefix n bs

theorem prefix_read_write (m : Memory) (a n : Nat) (bs : List UInt8) (bound : bs.length ≤ n) :
    bs <+: (m.write a bs).read a n := by
  obtain ⟨k, rfl⟩ := Nat.exists_eq_add_of_le bound
  rw [read_add, read_write]
  exact List.prefix_append _ _

theorem read_write_outside (m : Memory) (a b n : Nat) (bs : List UInt8)
    (h : b + n ≤ a ∨ a + bs.length ≤ b) : (m.write a bs).read b n = m.read b n :=
  read_congr fun i hi => write_outside m a bs (b + i) (by omega)

theorem write_append (m : Memory) (a : Nat) (bs cs : List UInt8) :
    m.write a (bs ++ cs) = (m.write a bs).write (a + bs.length) cs := by
  funext q
  by_cases below : q < a
  · rw [write_outside _ _ _ _ (.inl below), write_outside _ _ _ _ (.inl (by omega)),
      write_outside _ _ _ _ (.inl below)]
  · obtain ⟨i, rfl⟩ := Nat.exists_eq_add_of_le (Nat.le_of_not_lt below)
    rcases Nat.lt_or_ge i bs.length with first | second
    · rw [write_inside _ _ _ _ (by simp; omega), write_outside _ _ _ _ (.inl (by omega)),
        write_inside _ _ _ _ first, List.getElem_append_left first]
    · rcases Nat.lt_or_ge i (bs.length + cs.length) with inside | past
      · obtain ⟨j, rfl⟩ := Nat.exists_eq_add_of_le second
        rw [write_inside _ _ _ _ (by simp; omega), ← Nat.add_assoc,
          write_inside _ _ _ _ (by omega), List.getElem_append_right second]
        simp
      · rw [write_outside _ _ _ _ (.inr (by simp; omega)), write_outside _ _ _ _ (.inr (by omega)),
          write_outside _ _ _ _ (.inr (by omega))]

theorem stringWithin_congr {m m' : Memory} {a n : Nat}
    (same : ∀ i ≤ (m.stringWithin a n).length, m' (a + i) = m (a + i)) :
    m'.stringWithin a n = m.stringWithin a n := by
  induction n generalizing a with
  | zero => rfl
  | succ n ih =>
    have first : m' a = m a := same 0 (Nat.zero_le _)
    rw [stringWithin] at same
    rw [stringWithin, stringWithin, first]
    split
    · rfl
    · next more =>
      rw [if_neg more] at same
      rw [ih fun i within => ?_]
      simpa only [Nat.add_assoc, Nat.add_comm 1] using same (i + 1) (Nat.succ_le_succ within)

theorem stringWithin_of_zero {m m' : Memory} (zero : m' (a + n) = 0) (same : ∀ i < n, m' (a + i) = m (a + i))
    (far : n < k) : m'.stringWithin a k = m.stringWithin a n := by
  induction n generalizing a k with
  | zero =>
    obtain ⟨k, rfl⟩ := Nat.exists_eq_add_of_lt far
    exact if_pos zero
  | succ n ih =>
    obtain ⟨k, rfl⟩ := Nat.exists_eq_add_of_lt far
    have first : m' a = m a := same 0 (Nat.succ_pos n)
    rw [stringWithin, stringWithin, first]
    split
    · rfl
    · have tail : m'.stringWithin (a + 1) (n + 1 + k) = m.stringWithin (a + 1) n := by
        refine ih ?_ (fun i inside => ?_) (by omega)
        · rw [Nat.add_assoc, Nat.add_comm 1]
          exact zero
        · have later := same (i + 1) (Nat.succ_lt_succ inside)
          rwa [Nat.add_comm i, ← Nat.add_assoc] at later
      rw [tail]

theorem length_stringWithin_le (m : Memory) (a n : Nat) : (m.stringWithin a n).length ≤ n := by
  induction n generalizing a with
  | zero => exact Nat.le_refl 0
  | succ n ih =>
    rw [stringWithin]
    split
    · exact Nat.zero_le _
    · exact Nat.succ_le_succ (ih (a + 1))

theorem stringWithin_eq_nil_iff (m : Memory) (a : Nat) : m.stringWithin a (n + 1) = [] ↔ m a = 0 := by
  rw [stringWithin]
  split
  · next zero => exact iff_of_true rfl zero
  · next more => exact iff_of_false (List.cons_ne_nil _ _) more

end Memory

namespace Holds

theorem byte (h : Holds m a bs) (hi : i < bs.length) : m (a + i) = bs[i] := by
  have := List.getElem_of_eq h (i := i) (by simpa using hi)
  simpa using this

theorem of_bytes (h : ∀ i, (hi : i < bs.length) → m (a + i) = bs[i]) : Holds m a bs := by
  apply List.ext_getElem (by simp)
  intro i _ hi
  simpa using h i hi

theorem write (m : Memory) (a : Nat) (bs : List UInt8) : Holds (m.write a bs) a bs :=
  m.read_write a bs

theorem append_iff : Holds m a (bs ++ cs) ↔ Holds m a bs ∧ Holds m (a + bs.length) cs := by
  simp only [Holds, List.length_append, Memory.read_add]
  constructor
  · intro h
    exact List.append_inj h (by simp)
  · rintro ⟨first, second⟩
    rw [first, second]

theorem left (h : Holds m a (bs ++ cs)) : Holds m a bs := (append_iff.mp h).1

theorem right (h : Holds m a (bs ++ cs)) : Holds m (a + bs.length) cs := (append_iff.mp h).2

theorem take (h : Holds m a bs) (n : Nat) : Holds m a (bs.take n) := by
  rw [← List.take_append_drop n bs] at h
  exact h.left

theorem write_behind (h : Holds m a bs) (cs : List UInt8) : Holds (m.write (a + bs.length) cs) a bs :=
  (Memory.read_write_outside m _ _ _ cs (.inl (Nat.le_refl _))).trans h

theorem stringWithin (h : Holds m a (bs ++ [0])) (plain : 0 ∉ bs) (enough : bs.length < n) :
    m.stringWithin a n = bs := by
  induction bs generalizing a n with
  | nil =>
    obtain ⟨n, rfl⟩ := Nat.exists_eq_add_of_lt enough
    exact if_pos (h.byte (i := 0) (by simp))
  | cons b bs ih =>
    obtain ⟨n, rfl⟩ := Nat.exists_eq_add_of_lt enough
    have first : m a = b := h.byte (i := 0) (by simp)
    have whole : Holds m a ([b] ++ (bs ++ [0])) := h
    obtain ⟨other, plain⟩ := not_or.mp fun here => plain (List.mem_cons.mpr here)
    have rest : m.stringWithin (a + 1) ((b :: bs).length + n) = bs :=
      ih whole.right plain (Nat.lt_of_lt_of_le (Nat.lt_succ_self _) (Nat.le_add_right _ _))
    rw [Memory.stringWithin, first, if_neg (Ne.symm other), rest]

theorem string (h : Holds m a (bs ++ [0])) (plain : 0 ∉ bs) (small : bs.length < 2 ^ 32) :
    m.string a = bs := h.stringWithin plain small

theorem cyclic (h : Holds m a bs) (fits : a + bs.length ≤ 2 ^ 32) : Holds m.cyclic a bs := by
  refine .of_bytes fun i inside => ?_
  have address : (a + i) % 2 ^ 32 = a + i := Nat.mod_eq_of_lt (by omega)
  rw [Memory.cyclic, address, h.byte inside]

end Holds
end Bytes
