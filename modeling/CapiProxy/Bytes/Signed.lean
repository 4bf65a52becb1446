import CapiProxy.Bytes.Words

/-! Bytes that a program reads as signed characters. A character that is used in a 32-bit expression is
extended by its sign, so that a number put together from characters by shifts and disjunctions has the
sign of each of them in all bits above it. -/
namespace Bytes

/-- A byte as a signed character is promoted. -/
def Memory.signed (m : Memory) (a : Nat) : BitVec 32 := (m a).toBitVec.signExtend 32

/-- The expression `m[a] | m[a+1]<<8 | ...` over `n` characters. -/
def Memory.signedWord (m : Memory) (a : Nat) : Nat → BitVec 32
  | 0 => 0
  | n + 1 => m.signedWord a n ||| m.signed (a + n) <<< (8 * n)

/-- The characters that are promoted to negative numbers. -/
def Negative (b : UInt8) : Prop := 128 ≤ b

instance : DecidablePred Negative := fun b => inferInstanceAs (Decidable (128 ≤ b))

theorem negative_iff (b : UInt8) : Negative b ↔ b.toBitVec.getLsbD 7 = true := by
  have msb := BitVec.msb_eq_decide b.toBitVec
  rw [BitVec.msb_eq_getLsbD_last] at msb
  rw [msb, decide_eq_true_iff, Negative, UInt8.le_iff_toNat_le]
  rfl

theorem eq_full_iff (b : UInt8) : b = 255 ↔ ∀ j < 8, b.toBitVec.getLsbD j = true := by
  constructor
  · rintro rfl
    decide
  · intro bits
    apply UInt8.toBitVec_inj.mp
    apply BitVec.eq_of_getLsbD_eq
    intro j inside
    rw [bits j inside]
    revert j
    decide

namespace Memory

theorem getLsbD_signed (m : Memory) (a : Nat) (inside : i < 32) :
    (m.signed a).getLsbD i = if i < 8 then (m a).toBitVec.getLsbD i else (m a).toBitVec.getLsbD 7 := by
  rw [signed, BitVec.getLsbD_signExtend, decide_eq_true inside, Bool.true_and]
  rfl

theorem testBit_number (bs : List UInt8) (i : Nat) :
    (number bs).testBit i = ((bs[i / 8]?).getD 0).toBitVec.getLsbD (i % 8) := by
  induction bs generalizing i with
  | nil => simp [number]
  | cons b bs ih =>
    have split : number (b :: bs) = 2 ^ 8 * number bs + b.toNat := by
      rw [number]
      omega
    rw [split, Nat.testBit_two_pow_mul_add _ b.toNat_lt]
    by_cases low : i < 8
    · rw [if_pos low, Nat.div_eq_of_lt low, Nat.mod_eq_of_lt low]
      rfl
    · obtain ⟨k, rfl⟩ := Nat.exists_eq_add_of_le (Nat.le_of_not_lt low)
      rw [if_neg low, Nat.add_sub_cancel_left, ih, Nat.add_mod_left, Nat.add_div_left _ (by decide),
        List.getElem?_cons_succ]

theorem getLsbD_word32 (m : Memory) (a : Nat) (inside : i < 32) :
    (m.word32 a).toBitVec.getLsbD i = (m (a + i / 8)).toBitVec.getLsbD (i % 8) := by
  have byte : (m.read a 4)[i / 8]? = some (m (a + i / 8)) := by
    have within : i / 8 < (m.read a 4).length := by rw [length_read]; omega
    rw [List.getElem?_eq_getElem within, getElem_read]
  have bits : (m.word32 a).toBitVec = BitVec.ofNat 32 (number (m.read a 4)) := rfl
  rw [bits, BitVec.getLsbD_ofNat, decide_eq_true inside, Bool.true_and, testBit_number, byte]
  rfl

theorem getLsbD_signed_iff (m : Memory) (a k : Nat) (inside : i < 32) :
    8 * k ≤ i ∧ (m.signed (a + k)).getLsbD (i - 8 * k) = true ↔
      k = i / 8 ∧ (m (a + i / 8)).toBitVec.getLsbD (i % 8) = true ∨ k < i / 8 ∧ Negative (m (a + k)) := by
  rw [Memory.getLsbD_signed m (a + k) (by omega)]
  rcases Nat.lt_trichotomy k (i / 8) with below | rfl | above
  · rw [if_neg (by omega), ← negative_iff]
    constructor
    · rintro ⟨-, negative⟩
      exact .inr ⟨below, negative⟩
    · rintro (⟨same, -⟩ | ⟨-, negative⟩)
      · omega
      · exact ⟨by omega, negative⟩
  · have own : i - 8 * (i / 8) = i % 8 := by omega
    rw [own, if_pos (Nat.mod_lt i (by decide))]
    constructor
    · rintro ⟨-, bit⟩
      exact .inl ⟨rfl, bit⟩
    · rintro (⟨-, bit⟩ | ⟨more, -⟩)
      · exact ⟨by omega, bit⟩
      · exact absurd more (Nat.lt_irrefl _)
  · constructor
    · rintro ⟨here, -⟩
      omega
    · rintro (⟨same, -⟩ | ⟨more, -⟩) <;> omega

/-- The bits of a signed word: those of the bytes, and above each byte its sign. -/
theorem getLsbD_signedWord (m : Memory) (a n : Nat) (inside : i < 32) :
    (m.signedWord a n).getLsbD i = true ↔
      i < 8 * n ∧ (m (a + i / 8)).toBitVec.getLsbD (i % 8) = true ∨
        ∃ k < n, k < i / 8 ∧ Negative (m (a + k)) := by
  induction n with
  | zero => simp [signedWord]
  | succ n ih =>
    have last : (m.signed (a + n) <<< (8 * n)).getLsbD i = true ↔
        8 * n ≤ i ∧ (m.signed (a + n)).getLsbD (i - 8 * n) = true := by
      simp only [BitVec.getLsbD_shiftLeft, inside, decide_true, Bool.true_and, Bool.and_eq_true,
        Bool.not_eq_true', decide_eq_false_iff_not, Nat.not_lt]
    rw [signedWord, BitVec.getLsbD_or, Bool.or_eq_true, ih, last, getLsbD_signed_iff m a n inside]
    constructor
    · rintro ((⟨low, own⟩ | ⟨k, few, below, negative⟩) | (⟨here, own⟩ | ⟨below, negative⟩))
      · exact .inl ⟨by omega, own⟩
      · exact .inr ⟨k, by omega, below, negative⟩
      · exact .inl ⟨by omega, own⟩
      · exact .inr ⟨n, by omega, below, negative⟩
    · rintro (⟨low, own⟩ | ⟨k, few, below, negative⟩)
      · rcases Nat.lt_or_ge i (8 * n) with lower | here
        · exact .inl (.inl ⟨lower, own⟩)
        · exact .inr (.inl ⟨by omega, own⟩)
      · rcases Nat.lt_succ_iff_lt_or_eq.mp few with earlier | rfl
        · exact .inl (.inr ⟨k, earlier, below, negative⟩)
        · exact .inr (.inr ⟨below, negative⟩)

theorem toInt_ofNat_word (n : Nat) (small : n < 2 ^ 32) :
    (BitVec.ofNat 32 n).toInt = if n < 2 ^ 31 then (n : Int) else n - 4294967296 := by
  rw [BitVec.toInt_eq_toNat_cond, BitVec.toNat_ofNat, Nat.mod_eq_of_lt small]
  split <;> split <;> omega

/-- A word of two characters whose first is negative: nothing of the second is left. -/
theorem signedWord_two_first (m : Memory) (a : Nat) (negative : Negative (m a)) :
    m.signedWord a 2 = BitVec.ofNat 32 (2 ^ 8 * (2 ^ 24 - 1) + (m a).toNat) := by
  apply BitVec.eq_of_getLsbD_eq
  intro i inside
  rw [BitVec.getLsbD_ofNat, decide_eq_true inside, Bool.true_and, Nat.testBit_two_pow_mul_add _ (m a).toNat_lt,
    Bool.eq_iff_iff, m.getLsbD_signedWord a 2 inside]
  split
  · next own =>
    rw [Nat.div_eq_of_lt own, Nat.mod_eq_of_lt own]
    refine (or_iff_left ?_).trans (and_iff_right (by omega))
    rintro ⟨k, -, below, -⟩
    exact Nat.not_lt_zero k below
  · next above =>
    rw [Nat.testBit_two_pow_sub_one]
    exact iff_of_true (.inr ⟨0, by decide, by omega, negative⟩) (decide_eq_true (by omega))

theorem getLsbD_signedWord_two (m : Memory) (a : Nat) (plain : ¬ Negative (m a)) (inside : i < 16) :
    (m.signedWord a 2).getLsbD i = (2 ^ 8 * (m (a + 1)).toNat + (m a).toNat).testBit i := by
  rw [Bool.eq_iff_iff, m.getLsbD_signedWord a 2 (by omega), Nat.testBit_two_pow_mul_add _ (m a).toNat_lt,
    and_iff_right inside]
  refine (or_iff_left ?_).trans ?_
  · rintro ⟨k, -, below, negative⟩
    rw [show k = 0 by omega] at negative
    exact plain negative
  · split
    · next own =>
      rw [Nat.div_eq_of_lt own, Nat.mod_eq_of_lt own]
      rfl
    · next above =>
      have index : i / 8 = 1 ∧ i % 8 = i - 8 := by omega
      rw [index.1, index.2]
      rfl

theorem signedWord_two_second (m : Memory) (a : Nat) (plain : ¬ Negative (m a))
    (negative : Negative (m (a + 1))) : m.signedWord a 2 =
      BitVec.ofNat 32 (2 ^ 16 * (2 ^ 16 - 1) + (2 ^ 8 * (m (a + 1)).toNat + (m a).toNat)) := by
  have first := (m a).toNat_lt
  have second := (m (a + 1)).toNat_lt
  apply BitVec.eq_of_getLsbD_eq
  intro i inside
  rw [BitVec.getLsbD_ofNat, decide_eq_true inside, Bool.true_and, Nat.testBit_two_pow_mul_add _ (by omega)]
  split
  · next own => exact m.getLsbD_signedWord_two a plain own
  · next above =>
    rw [Bool.eq_iff_iff, m.getLsbD_signedWord a 2 inside, Nat.testBit_two_pow_sub_one]
    exact iff_of_true (.inr ⟨1, by decide, by omega, negative⟩) (decide_eq_true (by omega))

theorem signedWord_two_plain (m : Memory) (a : Nat) (plain : ¬ Negative (m a))
    (plain' : ¬ Negative (m (a + 1))) : m.signedWord a 2 = BitVec.ofNat 32 (2 ^ 8 * (m (a + 1)).toNat + (m a).toNat) := by
  have first := (m a).toNat_lt
  have second := (m (a + 1)).toNat_lt
  apply BitVec.eq_of_getLsbD_eq
  intro i inside
  rw [BitVec.getLsbD_ofNat, decide_eq_true inside, Bool.true_and]
  by_cases own : i < 16
  · exact m.getLsbD_signedWord_two a plain own
  · have zero : (2 ^ 8 * (m (a + 1)).toNat + (m a).toNat).testBit i = false := by
      apply Nat.testBit_lt_two_pow
      exact Nat.lt_of_lt_of_le (show _ < 2 ^ 16 by omega)
        (Nat.pow_le_pow_right (by decide) (Nat.le_of_not_lt own))
    rw [zero, Bool.eq_iff_iff, m.getLsbD_signedWord a 2 inside]
    refine iff_of_false ?_ Bool.false_ne_true
    rintro (⟨here, -⟩ | ⟨k, few, -, negative⟩)
    · exact own here
    · rcases Nat.le_one_iff_eq_zero_or_eq_one.mp (Nat.le_of_lt_succ few) with rfl | rfl
      · exact plain negative
      · exact plain' negative

theorem toInt_signedWord_two (m : Memory) (a : Nat) :
    (m.signedWord a 2).toInt =
      if 128 ≤ (m a).toNat then ((m a).toNat : Int) - 256
      else if 128 ≤ (m (a + 1)).toNat then 256 * ((m (a + 1)).toNat - 256) + (m a).toNat
      else 256 * (m (a + 1)).toNat + (m a).toNat := by
  have first := (m a).toNat_lt
  have second := (m (a + 1)).toNat_lt
  split
  · next negative =>
    rw [m.signedWord_two_first a negative, toInt_ofNat_word _ (by omega)]
    split <;> omega
  · next plain =>
    split
    · next negative =>
      rw [m.signedWord_two_second a plain negative, toInt_ofNat_word _ (by omega)]
      split <;> omega
    · next plain' =>
      rw [m.signedWord_two_plain a plain plain', toInt_ofNat_word _ (by omega)]
      split <;> omega

end Memory
end Bytes
