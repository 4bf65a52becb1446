import CapiProxy.Win32Client.GetMessage

/-! What the application finds in the buffer of `CAPI_GET_MESSAGE`. The length of the payload is read, but
unlike on the way to the server nothing compares it with the length of the data. -/
namespace CapiProxy.Win32Client
open Bytes

def dataAddress (answer : Memory) : Nat :=
  advance (advance 0 (AnswerHeader.parse answer 0).headerLen) (AnswerHeader.parse answer 0).bodyLen

def dataLength (answer : Memory) : Nat := (AnswerHeader.parse answer 0).dataLen.toNat

/-- The message and its payload lie in the `length` bytes of the buffer. -/
structure InBuffer (m : Memory) (buffer length : Nat) : Prop where
  header : 8 ≤ m.word16 buffer
  whole : m.word16 buffer ≤ length
  fields : isDataB3Ind m buffer = true → 18 ≤ m.word16 buffer
  payload : isDataB3Ind m buffer = true →
    let pointer := (m.word32 (buffer + 12)).toNat
    buffer ≤ pointer ∧ pointer + m.word16 (buffer + 16) ≤ buffer + length

/-- The lengths in the data of the answer fit each other. -/
structure Announced (answer : Memory) : Prop where
  header : 8 ≤ answer.word16 (dataAddress answer)
  payload : isDataB3Ind answer (dataAddress answer) = true →
    answer.word16 (dataAddress answer) + answer.word16 (dataAddress answer + 16) ≤ dataLength answer

def copiedData (answer m : Memory) (buffer : Nat) : Memory :=
  m.write buffer (answer.read (dataAddress answer) (dataLength answer))

theorem copiedData_byte (answer m : Memory) (buffer : Nat) (inside : i < dataLength answer) :
    copiedData answer m buffer (buffer + i) = answer (dataAddress answer + i) := by
  rw [copiedData, Memory.write_inside _ _ _ _ (by rwa [Memory.length_read]), Memory.getElem_read]

/-- A stored buffer holds the data of the answer, with a new address for the payload. -/
theorem capiGetMessage_stored {env : Environment}
    (answered : env.sendAndReceive (c.msgId + 1) (getMessageRequest c applID).frame = some answer)
    (stored : (capiGetMessage env c applID m).message = some buffer) :
    8 ≤ dataLength answer ∧ buffer + dataLength answer < 2 ^ 32 ∧
      Readable (copiedData answer m buffer) buffer (dataLength answer) ∧
      (capiGetMessage env c applID m).memory = repoint (copiedData answer m buffer) buffer
        (isDataB3Ind (copiedData answer m buffer) buffer) := by
  unfold capiGetMessage at stored ⊢
  simp only [answered] at stored ⊢
  split at stored
  · cases stored
  · next malloc =>
    rw [if_neg malloc]
    split at stored
    · cases stored
    · next verified =>
      rw [if_neg verified]
      split at stored
      · cases stored
      · next long =>
        rw [if_neg long]
        split at stored
        · cases stored
        · next block allocated =>
          split at stored
          · cases stored
          · next whole =>
            rw [if_neg whole]
            split at stored
            · cases stored
            · next complete =>
              rw [if_neg complete]
              obtain rfl := Option.some_inj.mp stored
              rw [UInt32.lt_iff_toNat_lt] at long
              refine ⟨Nat.le_of_not_lt long, (env.globalAlloc_block _ _ _ allocated).2,
                ⟨Nat.le_of_not_lt whole, fun data => ?_⟩, rfl⟩
              exact Nat.le_of_not_lt fun short => complete ⟨data, short⟩

/-- A buffer that is stored for the application contains the message exactly when the lengths in the
answer fit. -/
theorem capiGetMessage_inBuffer_iff (env : Environment) (c : Client) (applID : UInt32) (m : Memory)
    (answered : env.sendAndReceive (c.msgId + 1) (getMessageRequest c applID).frame = some answer)
    (stored : (capiGetMessage env c applID m).message = some buffer) :
    InBuffer (capiGetMessage env c applID m).memory buffer (dataLength answer) ↔ Announced answer := by
  obtain ⟨long, fits, ⟨whole, fields⟩, memory⟩ := capiGetMessage_stored answered stored
  generalize copied : copiedData answer m buffer = copy at whole fields memory
  have byte (i : Nat) (inside : i < dataLength answer) : copy (buffer + i) = answer (dataAddress answer + i) :=
    copied ▸ copiedData_byte answer m buffer inside
  have len1 : copy.word16 buffer = answer.word16 (dataAddress answer) :=
    Memory.word16_congr fun i hi => byte i (by omega)
  have kind : isDataB3Ind copy buffer = isDataB3Ind answer (dataAddress answer) := by
    simp only [isDataB3Ind, capiCmd1, capiCmd2, byte 4 (by omega), byte 5 (by omega)]
  have kept : (capiGetMessage env c applID m).memory.word16 buffer = copy.word16 buffer := by
    rw [memory]
    exact repoint_word16 copy buffer 0 _ (.inl (by decide))
  rw [kind] at memory fields
  have same : isDataB3Ind (capiGetMessage env c applID m).memory buffer =
      isDataB3Ind answer (dataAddress answer) := by rw [memory, repoint_isDataB3Ind, kind]
  cases data : isDataB3Ind answer (dataAddress answer) with
  | false =>
    have other : ¬ isDataB3Ind (capiGetMessage env c applID m).memory buffer = true := by simp [same, data]
    have other' : ¬ isDataB3Ind answer (dataAddress answer) = true := by simp [data]
    constructor
    · intro inside
      exact ⟨len1 ▸ kept ▸ inside.header, fun here => absurd here other'⟩
    · intro announced
      exact ⟨by rw [kept, len1]; exact announced.header, by rw [kept]; exact whole,
        fun here => absurd here other, fun here => absurd here other⟩
  | true =>
    have enough := fields data
    have len2 : (capiGetMessage env c applID m).memory.word16 (buffer + 16) =
        answer.word16 (dataAddress answer + 16) := by
      rw [memory, repoint_word16 _ _ _ _ (.inr (Nat.le_refl 16))]
      exact Memory.word16_congr fun i hi => by
        simpa only [Nat.add_assoc] using byte (16 + i) (by omega)
    have pointer : ((capiGetMessage env c applID m).memory.word32 (buffer + 12)).toNat =
        buffer + copy.word16 buffer := by
      rw [memory, data]
      exact setPointer_pointer _ _ _ (by omega)
    constructor
    · intro inside
      refine ⟨len1 ▸ kept ▸ inside.header, fun _ => ?_⟩
      have payload := (inside.payload (same.trans data)).2
      rw [pointer, len2, len1] at payload
      omega
    · intro announced
      have payload := announced.payload data
      refine ⟨by rw [kept]; omega, by rw [kept]; exact whole, fun _ => by rw [kept]; exact enough, fun _ => ?_⟩
      rw [pointer, len2, len1]
      exact ⟨Nat.le_add_right _ _, by omega⟩

def Environment.answering (answer : Memory) : Environment where
  malloc := true
  sendAndReceive _ _ := some answer
  globalAlloc used size := if 8192 ∈ used ∨ 65536 < size then none else some 8192
  globalAlloc_block used size block found := by
    split at found
    · cases found
    · next free =>
      obtain rfl := Option.some_inj.mp found
      rw [not_or] at free
      exact ⟨free.1, by omega⟩

def Client.single : Client := ⟨0x10000, 1, [⟨1, none⟩]⟩

/-- A `DATA_B3_IND` of 18 bytes with two bytes of payload behind it, whatever it says. -/
def dataIndication (len2 : UInt8) : Memory :=
  zeros.write 0 (AnswerHeader.bytes ⟨61, 40, 1, 20, 2, MessageType.capiGetmessage.code, 1, 0x10000, 0, 0⟩ ++
    ([0] ++ ([18, 0, 1, 0, 0x86, 0x82, 0, 0, 0, 0, 0, 0, 0, 0, 0, 0, len2, 0] ++ [0x55, 0xAA])))

theorem dataIndication_inBuffer :
    InBuffer (capiGetMessage (.answering (dataIndication 2)) .single 1 zeros).memory 8192
      (dataLength (dataIndication 2)) :=
  (capiGetMessage_inBuffer_iff (.answering (dataIndication 2)) .single 1 zeros rfl (by decide +kernel)).mpr
    ⟨by decide +kernel, by decide +kernel⟩

/-- The length of the payload is 200. -/
theorem dataIndication_not_inBuffer :
    (capiGetMessage (.answering (dataIndication 200)) .single 1 zeros).code = 0 ∧
      (capiGetMessage (.answering (dataIndication 200)) .single 1 zeros).message = some 8192 ∧
      ¬ InBuffer (capiGetMessage (.answering (dataIndication 200)) .single 1 zeros).memory 8192
        (dataLength (dataIndication 200)) := by
  refine ⟨by decide +kernel, by decide +kernel, fun inside => ?_⟩
  exact absurd (inside.payload (by decide +kernel)).2 (by decide +kernel)

end CapiProxy.Win32Client
