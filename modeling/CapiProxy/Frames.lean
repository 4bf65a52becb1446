import CapiProxy.Protocol

/-! Frames on the wire: a header of at least `least` bytes and what follows it, with the whole
length in the first word. -/
namespace CapiProxy
open Bytes

structure Frame (least : Nat) where
  bytes : List UInt8
  header : least ≤ bytes.length
  announced : number (bytes.take 4) = bytes.length

/-- The bytes of a sequence of frames, sent back to back. -/
def stream (frames : List (List UInt8)) : List UInt8 := frames.flatten

namespace Frame

/-- The first word of the frame is its length, wherever the header was stored. -/
theorem messageLen (f : Frame least) (four : 4 ≤ least) (more : least ≤ n)
    (holds : Holds m a (f.bytes.take n)) : (m.word32 a).toNat = f.bytes.length := by
  have header := f.header
  have length : (f.bytes.take 4).length = 4 := by simp; omega
  have first := holds.take 4
  rw [List.take_take, Nat.min_eq_left (by omega), Holds, length] at first
  have small := number_lt (f.bytes.take 4)
  rw [length, f.announced] at small
  rw [Memory.word32, first, f.announced, UInt32.toNat_ofNat']
  exact Nat.mod_eq_of_lt small

theorem read_announced (f : Frame least) (four : 4 ≤ least) (m : Memory) (a : Nat) :
    (m.write a f.bytes).read a ((m.write a f.bytes).word32 a).toNat = f.bytes := by
  have holds := Holds.write m a f.bytes
  rw [f.messageLen four (Nat.le_refl least) (holds.take least)]
  exact holds

end Frame

def Frame.request (f : Frame sizeofRequestHeader) : RequestHeader := .parse (zeros.write 0 f.bytes) 0

theorem Frame.request_write (f : Frame sizeofRequestHeader) (m : Memory) (a : Nat) :
    RequestHeader.parse (m.write a f.bytes) a = f.request := by
  apply RequestHeader.parse_congr
  intro i inside
  have bound := Nat.lt_of_lt_of_le inside f.header
  rw [Memory.write_inside m a f.bytes i bound, Memory.write_inside zeros 0 f.bytes i bound]

/-- A request of a header and what follows it, when the header announces the length. -/
def RequestHeader.frame (h : RequestHeader) (rest : List UInt8)
    (announced : h.messageLen.toNat = sizeofRequestHeader + rest.length) :
    Frame sizeofRequestHeader where
  bytes := h.bytes ++ rest
  header := by simp [sizeofRequestHeader]
  announced := by
    have first : (h.bytes ++ rest).take 4 = bytes32 h.messageLen := by
      rw [List.take_append_of_le_length (by simp)]
      exact List.take_left' (length_bytes32 _)
    rw [first, bytes32, number_littleEndian 4 _ (by simpa using h.messageLen.toNat_lt), announced,
      List.length_append, RequestHeader.length_bytes, sizeofRequestHeader]

theorem RequestHeader.parse_frame (h : RequestHeader) (rest : List UInt8)
    (announced : h.messageLen.toNat = sizeofRequestHeader + rest.length) (m : Memory) (a : Nat) :
    parse (m.write a (h.frame rest announced).bytes) a = h :=
  parse_of_holds (Holds.left (Holds.write m a (h.bytes ++ rest)))

end CapiProxy
