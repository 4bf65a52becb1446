import CapiProxy.Win32Client.Functions

/-! What `verifyMessage` makes sure of before a function of the client uses an answer. A body may be a
byte shorter than its struct, and the type of an answer that reports a CAPI error is not looked at. -/
namespace CapiProxy.Win32Client
open Bytes

/-- How far into the body of the answer the calling function reads. -/
def readLength (type : MessageType) : Nat :=
  ((copiedMembers type).map fun (offset, length) => offset + length).foldr max 0

/-- The lengths of an answer agree with each other and with the expected type. -/
structure Sound (answer : Memory) (type : MessageType) : Prop where
  expected : (AnswerHeader.parse answer 0).messageType = type.code
  lengths : (AnswerHeader.parse answer 0).headerLen.toNat + (AnswerHeader.parse answer 0).bodyLen.toNat +
    (AnswerHeader.parse answer 0).dataLen.toNat = (AnswerHeader.parse answer 0).messageLen.toNat
  size : (AnswerHeader.parse answer 0).messageLen.toNat ≤ msgBuffer
  body : readLength type ≤ (AnswerHeader.parse answer 0).bodyLen.toNat

theorem toNat_abodysize (type : MessageType) :
    (UInt32.ofInt (abodysize type.code)).toNat = type.sizeofAnswer .msvc := by
  cases type <;> rfl

theorem readLength_le (type : MessageType) : readLength type ≤ type.sizeofAnswer .msvc := by
  cases type <;> decide

/-- A verified answer without an error is of the expected type. Its lengths add up unless they exceed a
word together, and at most the last byte that is read from the body lies behind it. -/
theorem verified_sound (answer : Memory) (type : MessageType)
    (verified : verifyMessage answer type.code = true) :
    let aheader := AnswerHeader.parse answer 0
    let length := aheader.headerLen.toNat + aheader.bodyLen.toNat + aheader.dataLen.toNat
    (aheader.capiError = 0 → aheader.messageType = type.code) ∧
      (length < 2 ^ 32 → length = aheader.messageLen.toNat) ∧
      aheader.messageLen.toNat ≤ msgBuffer ∧ readLength type ≤ aheader.bodyLen.toNat + 1 := by
  obtain ⟨-, long, size, adds, -, named⟩ := verifyMessage_iff.mp verified
  rw [UInt32.lt_iff_toNat_lt, toNat_abodysize, UInt32.toNat_add] at long
  have next : (AnswerHeader.parse answer 0).bodyLen.toNat + 1 ≥
      ((AnswerHeader.parse answer 0).bodyLen.toNat + UInt32.toNat 1) % 2 ^ 32 := Nat.mod_le _ _
  refine ⟨named, (toNat_sum_iff adds).mpr, size, ?_⟩
  exact (readLength_le type).trans ((Nat.le_of_not_lt long).trans next)

/-- An answer that is taken for the one to a request for the manufacturer. -/
def manufacturerAnswer (bodyLen capiError : UInt32) (type : MessageType) : Memory :=
  zeros.write 0 (AnswerHeader.bytes ⟨40 + bodyLen, 40, bodyLen, 0, 2, type.code, 0, 0x10000, 0, capiError⟩)

theorem manufacturer_verified : readLength .capiManufacturer ≤
    (AnswerHeader.parse (manufacturerAnswer 64 0 .capiManufacturer) 0).bodyLen.toNat + 1 :=
  (verified_sound (manufacturerAnswer 64 0 .capiManufacturer) .capiManufacturer (by decide)).2.2.2

/-- One byte of the body is missing; or another function has failed. -/
theorem verified_unsound :
    (verifyMessage (manufacturerAnswer 63 0 .capiManufacturer) MessageType.capiManufacturer.code = true ∧
      ¬ Sound (manufacturerAnswer 63 0 .capiManufacturer) .capiManufacturer) ∧
    verifyMessage (manufacturerAnswer 64 0x1101 .capiRelease) MessageType.capiManufacturer.code = true ∧
      ¬ Sound (manufacturerAnswer 64 0x1101 .capiRelease) .capiManufacturer := by
  refine ⟨⟨by decide, fun sound => ?_⟩, by decide, fun sound => ?_⟩
  · exact absurd sound.body (by decide)
  · exact absurd sound.expected (by decide)

end CapiProxy.Win32Client
