import CapiProxy.Bytes.Memory

/-! Little-endian numbers in byte lists and in memory: a number is written with a fixed
width, low byte first, and read back modulo the range of that width. -/
namespace Bytes

def littleEndian : Nat → Nat → List UInt8
  | 0, _ => []
  | width + 1, n => .ofNat n :: littleEndian width (n / 256)

def number : List UInt8 → Nat
  | [] => 0
  | b :: bs => b.toNat + 256 * number bs

@[simp] theorem length_littleEndian (width n : Nat) : (littleEndian width n).length = width := by
  induction width generalizing n with
  | zero => rfl
  | succ width ih => simp only [littleEndian, List.length_cons, ih]

theorem number_lt (bs : List UInt8) : number bs < 256 ^ bs.length := by
  induction bs with
  | nil => decide
  | cons b bs ih =>
    have := b.toNat_lt
    simp only [number, List.length_cons, Nat.pow_succ]
    omega

theorem number_littleEndian (width n : Nat) (fits : n < 256 ^ width) :
    number (littleEndian width n) = n := by
  induction width generalizing n with
  | zero => simp only [Nat.pow_zero] at fits; simp only [littleEndian, number]; omega
  | succ width ih =>
    have tail : n / 256 < 256 ^ width := by
      apply (Nat.div_lt_iff_lt_mul (by decide : 0 < 256)).mpr
      simpa only [Nat.pow_succ] using fits
    simp only [littleEndian, number, ih _ tail, UInt8.toNat_ofNat']
    exact Nat.mod_add_div n 256

theorem littleEndian_number (bs : List UInt8) : littleEndian bs.length (number bs) = bs := by
  induction bs with
  | nil => rfl
  | cons b bs ih =>
    have low : UInt8.ofNat (b.toNat + 256 * number bs) = b := by
      apply UInt8.toNat_inj.mp
      rw [UInt8.toNat_ofNat', Nat.add_mul_mod_self_left]
      exact Nat.mod_eq_of_lt b.toNat_lt
    have high : (b.toNat + 256 * number bs) / 256 = number bs := by
      have := b.toNat_lt
      omega
    simp only [number, List.length_cons, littleEndian, low, high, ih]

/-- Words that add up to a word do so as numbers when the numbers do not exceed a word. -/
theorem toNat_sum_iff {a b c sum : UInt32} (adds : a + b + c = sum) :
    a.toNat + b.toNat + c.toNat = sum.toNat ↔ a.toNat + b.toNat + c.toNat < 2 ^ 32 := by
  have small := sum.toNat_lt
  rw [← adds, UInt32.toNat_add, UInt32.toNat_add] at small ⊢
  omega

def bytes32 (v : UInt32) : List UInt8 := littleEndian 4 v.toNat

@[simp] theorem length_bytes32 (v : UInt32) : (bytes32 v).length = 4 := length_littleEndian 4 _

namespace Memory

def word16 (m : Memory) (a : Nat) : Nat := number (m.read a 2)

def word32 (m : Memory) (a : Nat) : UInt32 := .ofNat (number (m.read a 4))

theorem word16_lt (m : Memory) (a : Nat) : m.word16 a < 2 ^ 16 := by
  have small := number_lt (m.read a 2)
  rwa [length_read] at small

theorem bytes32_word32 (m : Memory) (a : Nat) : bytes32 (m.word32 a) = m.read a 4 := by
  have small : number (m.read a 4) < 2 ^ 32 := by
    have bound := number_lt (m.read a 4)
    rwa [length_read] at bound
  have back := littleEndian_number (m.read a 4)
  rw [length_read] at back
  rw [bytes32, word32, UInt32.toNat_ofNat', Nat.mod_eq_of_lt small, back]

theorem word16_congr {m m' : Memory} {a b : Nat} (same : ∀ i < 2, m (a + i) = m' (b + i)) :
    m.word16 a = m'.word16 b := congrArg number (read_congr same)

theorem word32_congr {m m' : Memory} {a b : Nat} (same : ∀ i < 4, m (a + i) = m' (b + i)) :
    m.word32 a = m'.word32 b := congrArg (fun bs => UInt32.ofNat (number bs)) (read_congr same)

theorem word32_byte {m m' : Memory} {a b : Nat} (same : m.word32 a = m'.word32 b) (inside : i < 4) :
    m (a + i) = m' (b + i) := by
  have bytes := congrArg bytes32 same
  rw [bytes32_word32, bytes32_word32] at bytes
  have byte := List.getElem_of_eq bytes (i := i) (by simpa using inside)
  simpa only [getElem_read] using byte

end Memory

theorem Holds.word32 (h : Holds m a (bytes32 v)) : m.word32 a = v := by
  have h : m.read a 4 = bytes32 v := by simpa only [Holds, length_bytes32] using h
  rw [Memory.word32, h, bytes32, number_littleEndian 4 _ (by simpa using v.toNat_lt),
    UInt32.ofNat_toNat]

def words (vs : List UInt32) : List UInt8 := vs.flatMap bytes32

@[simp] theorem length_words (vs : List UInt32) : (words vs).length = 4 * vs.length := by
  induction vs with
  | nil => rfl
  | cons v vs ih =>
    simp only [words, List.flatMap_cons, List.length_append, length_bytes32, List.length_cons] at ih ⊢
    omega

theorem Holds.words (h : Holds m a (words vs)) (hi : i < vs.length) :
    m.word32 (a + 4 * i) = vs[i] := by
  induction vs generalizing a i with
  | nil => simp at hi
  | cons v vs ih =>
    have h : Holds m a (bytes32 v ++ Bytes.words vs) := h
    cases i with
    | zero => exact h.left.word32
    | succ i =>
      have tail := ih (by simpa using h.right) (Nat.lt_of_succ_lt_succ hi)
      simpa only [List.getElem_cons_succ, Nat.mul_succ, Nat.add_assoc, Nat.add_comm 4] using tail

theorem words_inj (same : words vs = words vs') : vs = vs' := by
  have length : vs.length = vs'.length := by
    have bytes := congrArg List.length same
    simp only [length_words] at bytes
    omega
  refine List.ext_getElem length fun i inside inside' => ?_
  have first := (Holds.write zeros 0 (words vs)).words inside
  rw [same, (Holds.write zeros 0 (words vs')).words inside'] at first
  exact first.symm

theorem Memory.word32_write (m : Memory) (a : Nat) (v : UInt32) :
    (m.write a (bytes32 v)).word32 a = v := (Holds.write m a _).word32

/-- A word stays as it is when each of its bytes that is overwritten is written as it was. -/
theorem Memory.word32_write_iff (m : Memory) (a b : Nat) (bs : List UInt8) :
    (m.write b bs).word32 a = m.word32 a ↔
      ∀ i < 4, ∀ j < bs.length, a + i = b + j → bs[j]? = some (m (a + i)) := by
  constructor
  · intro same i first j second meet
    have byte := word32_byte same first
    rw [meet, write_inside m b bs j second] at byte
    rw [meet, List.getElem?_eq_getElem second, byte]
  · intro same
    refine word32_congr fun i first => ?_
    by_cases meet : b ≤ a + i ∧ a + i < b + bs.length
    · obtain ⟨j, place⟩ := Nat.exists_eq_add_of_le meet.1
      have second : j < bs.length := by omega
      have byte := same i first j second place
      rw [List.getElem?_eq_getElem second, Option.some_inj] at byte
      rw [place, write_inside m b bs j second, byte, place]
    · exact write_outside m b bs (a + i) (by omega)

end Bytes
