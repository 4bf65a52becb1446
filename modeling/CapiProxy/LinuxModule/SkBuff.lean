import CapiProxy.Bytes.Memory

/-! The kernel's socket buffers, as far as the module fills one for a message of the daemon. -/
namespace CapiProxy.LinuxModule
open Bytes

/-- The memory from `data` on, the end of what was put in, and the counted length. -/
structure SkBuff where
  memory : Memory
  tail : Nat
  len : UInt32

namespace SkBuff

/-- `alloc_skb` gives an empty buffer; its memory holds what was there before. -/
def allocSkb (memory : Memory) : SkBuff := ⟨memory, 0, 0⟩

/-- `skb_put` returns the old tail. -/
def skbPut (length : Nat) (skb : SkBuff) : Nat × SkBuff :=
  (skb.tail, { skb with tail := skb.tail + length, len := skb.len + .ofNat length })

def copyFromUser (writepos : Nat) (buffer : List UInt8) (skb : SkBuff) : SkBuff :=
  { skb with memory := skb.memory.write writepos buffer }

def data (skb : SkBuff) : List UInt8 := skb.memory.read 0 skb.len.toNat

/-- The buffer that `capiproxy_write` fills with a message of the daemon. -/
def ofUser (memory : Memory) (buffer : List UInt8) : SkBuff :=
  let length := buffer.length
  let skb := { allocSkb memory with len := .ofNat length }
  let (writepos, skb) := skb.skbPut length
  skb.copyFromUser writepos buffer

/-- The length is counted by hand and by `skb_put`. -/
theorem toNat_len_ofUser (memory : Memory) (buffer : List UInt8) :
    (ofUser memory buffer).len.toNat = 2 * buffer.length % 2 ^ 32 := by
  have twice : (ofUser memory buffer).len = .ofNat buffer.length + .ofNat buffer.length := rfl
  rw [twice, UInt32.toNat_add, UInt32.toNat_ofNat']
  omega

theorem length_data_ofUser (memory : Memory) (buffer : List UInt8) :
    (ofUser memory buffer).data.length = 2 * buffer.length % 2 ^ 32 := by
  rw [data, Memory.length_read, toNat_len_ofUser]

/-- The message as the daemon wrote it, and as many bytes of old memory. -/
theorem data_ofUser (memory : Memory) (buffer : List UInt8) :
    (ofUser memory buffer).data = (buffer ++ memory.read buffer.length buffer.length).take
      (2 * buffer.length % 2 ^ 32) := by
  have whole : (memory.write 0 buffer).read 0 (buffer.length + buffer.length) =
      buffer ++ memory.read buffer.length buffer.length := by
    rw [Memory.read_add, Memory.read_write, Nat.zero_add,
      Memory.read_write_outside memory 0 buffer.length buffer.length buffer (by omega)]
  have inside : 2 * buffer.length % 2 ^ 32 ≤ buffer.length + buffer.length := by omega
  obtain ⟨rest, enough⟩ := Nat.exists_eq_add_of_le inside
  rw [data, toNat_len_ofUser, ← whole, enough, Memory.read_add,
    List.take_left' (Memory.length_read ..)]
  rfl

theorem data_ofUser_short (memory : Memory) (buffer : List UInt8) (short : buffer.length < 2 ^ 31) :
    (ofUser memory buffer).data = buffer ++ memory.read buffer.length buffer.length := by
  rw [data_ofUser, List.take_of_length_le]
  rw [List.length_append, Memory.length_read]
  omega

end SkBuff
end CapiProxy.LinuxModule
