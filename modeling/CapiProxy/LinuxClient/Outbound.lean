import CapiProxy.Bytes.Signed
import CapiProxy.LinuxClient.Mapping
import CapiProxy.LinuxClient.Requests

/-! A message of the module on its way to the server, byte by byte. The receive buffer is an array of
`char`, which is signed on the daemon's machine, so that the macros that put ids together from single
bytes lose what lies above a byte from 0x80 on. -/
namespace CapiProxy.LinuxClient
open Bytes

/-- The message once `send_to_server` has mapped its ids. -/
def mapped (ltr : Applmap) (m : Memory) : Memory :=
  let m := capimsgSetappid m (ltr (capimsgAppid m).toInt)
  capimsgSetcontrol m (.ofBitVec ((capimsgNcci m &&& 0xFFFFFF80#32) + 1#32))

def putHead (ltr : Applmap) (d : Daemon) (len : Nat) : RequestHeader :=
  { d.header .capiPutmessage 0 len with appId := .ofBitVec (capimsgAppid (mapped ltr d.recvbuffer)) }

/-- What `send_to_server` hands to its send call. -/
def putFrame (ltr : Applmap) (d : Daemon) (len : Nat) : List UInt8 :=
  let head := putHead ltr d len
  (d.compose head ((mapped ltr d.recvbuffer).read 0 len)).sendbuffer.read 0 head.messageLen.toNat

/-- The frame is a request for the message, with the remote id of the application in both places, with
controller 1 in its PLCI or NCCI, and with all other bytes as they were. -/
structure Forwards (ltr : Applmap) (d : Daemon) (len : Nat) : Prop where
  frame : putFrame ltr d len = (putHead ltr d len).bytes ++ (mapped ltr d.recvbuffer).read 0 len
  type : (putHead ltr d len).messageType = MessageType.capiPutmessage.code
  header : (putHead ltr d len).appId = (ltr (d.recvbuffer.word16 2)).toUInt32
  message : (mapped ltr d.recvbuffer).word16 2 = (ltr (d.recvbuffer.word16 2)).toNat
  controller : (mapped ltr d.recvbuffer).word32 8 = (d.recvbuffer.word32 8 &&& 0xFFFFFF80) + 1
  others : ∀ i, (i < 2 ∨ 4 ≤ i ∧ i < 8 ∨ 12 ≤ i) → mapped ltr d.recvbuffer i = d.recvbuffer i

/-- All bits above a byte that is promoted to a negative number are set in the message already. -/
def Extended (m : Memory) (a : Nat) : Prop := ∀ n < 4, ∀ k < n, Negative (m (a + k)) → m (a + n) = 255

theorem getLsbD_mask (inside : i < 32) : (0xFFFFFF80#32).getLsbD i = decide (7 ≤ i) := by
  revert i
  decide

theorem ncci_iff (m : Memory) (a : Nat) :
    capimsgU32 m a &&& 0xFFFFFF80#32 = (m.word32 a).toBitVec &&& 0xFFFFFF80#32 ↔ Extended m a := by
  constructor
  · intro same n small k below negative
    rw [eq_full_iff]
    intro j inside
    have index : (8 * n + j) / 8 = n ∧ (8 * n + j) % 8 = j := by omega
    have bit := congrArg (BitVec.getLsbD · (8 * n + j)) same
    simp only [BitVec.getLsbD_and, getLsbD_mask (show 8 * n + j < 32 by omega),
      decide_eq_true (show 7 ≤ 8 * n + j by omega), Bool.and_true] at bit
    have set := (m.getLsbD_signedWord a 4 (i := 8 * n + j) (by omega)).mpr
      (.inr ⟨k, by omega, by rw [index.1]; exact below, negative⟩)
    rw [capimsgU32_eq, set, Memory.getLsbD_word32 m a (by omega), index.1, index.2] at bit
    exact bit.symm
  · intro extended
    apply BitVec.eq_of_getLsbD_eq
    intro i inside
    rw [BitVec.getLsbD_and, BitVec.getLsbD_and, getLsbD_mask inside]
    cases high : decide (7 ≤ i) with
    | false => rw [Bool.and_false, Bool.and_false]
    | true =>
      rw [Bool.and_true, Bool.and_true, Memory.getLsbD_word32 m a inside, Bool.eq_iff_iff, capimsgU32_eq,
        m.getLsbD_signedWord a 4 inside, and_iff_right inside]
      refine or_iff_left_of_imp ?_
      rintro ⟨k, -, below, negative⟩
      exact (eq_full_iff _).mp (extended (i / 8) (by omega) k below negative) (i % 8)
        (Nat.mod_lt i (by decide))

section
variable (ltr : Applmap) (m : Memory) (d : Daemon)

theorem putFrame_eq (fits : sizeofRequestHeader + len ≤ bufferSize) :
    putFrame ltr d len = (putHead ltr d len).bytes ++ (mapped ltr d.recvbuffer).read 0 len := by
  have length : (putHead ltr d len).bytes.length = sizeofRequestHeader := RequestHeader.length_bytes _
  have whole : (putHead ltr d len).messageLen.toNat =
      ((putHead ltr d len).bytes ++ (mapped ltr d.recvbuffer).read 0 len).length := by
    have announced : (putHead ltr d len).messageLen = .ofNat (sizeofRequestHeader + 0 + len) := rfl
    simp only [bufferSize] at fits
    rw [announced, List.length_append, length, Memory.length_read, UInt32.toNat_ofNat', Nat.add_zero]
    exact Nat.mod_eq_of_lt (by omega)
  have composed : (d.compose (putHead ltr d len) ((mapped ltr d.recvbuffer).read 0 len)).sendbuffer =
      d.sendbuffer.write 0 ((putHead ltr d len).bytes ++ (mapped ltr d.recvbuffer).read 0 len) := by
    rw [Memory.write_append, length]
    rfl
  rw [putFrame, whole, composed, Memory.read_write]

theorem mapped_others (i : Nat) (other : i < 2 ∨ 4 ≤ i ∧ i < 8 ∨ 12 ≤ i) : mapped ltr m i = m i := by
  rw [mapped, capimsgSetcontrol, capimsgSetappid]
  rw [Memory.write_outside _ _ _ _ (by rw [length_bytes32]; omega),
    Memory.write_outside _ _ _ _ (by rw [length_littleEndian]; omega)]

theorem mapped_holds : Holds (mapped ltr m) 2 (littleEndian 2 (ltr (capimsgAppid m).toInt).toNat) := by
  have stored : Holds (capimsgSetappid m (ltr (capimsgAppid m).toInt)) 2
      (littleEndian 2 (ltr (capimsgAppid m).toInt).toNat) := Holds.write _ _ _
  refine (Memory.read_write_outside _ _ _ _ _ (.inl ?_)).trans stored
  rw [length_littleEndian]
  decide

theorem mapped_word16 : (mapped ltr m).word16 2 = (ltr (capimsgAppid m).toInt).toNat := by
  have stored := mapped_holds ltr m
  rw [Holds, length_littleEndian] at stored
  rw [Memory.word16, stored]
  exact number_littleEndian 2 _ (ltr (capimsgAppid m).toInt).toNat_lt

theorem mapped_bytes :
    (mapped ltr m 2).toNat = (ltr (capimsgAppid m).toInt).toNat % 256 ∧
    (mapped ltr m 3).toNat = (ltr (capimsgAppid m).toInt).toNat / 256 := by
  have word := mapped_word16 ltr m
  have first := (mapped ltr m 2).toNat_lt
  have second := (mapped ltr m 3).toNat_lt
  have bytes : (mapped ltr m).word16 2 =
      (mapped ltr m 2).toNat + 256 * ((mapped ltr m 3).toNat + 256 * 0) := rfl
  omega

theorem mapped_word32 :
    (mapped ltr m).word32 8 = .ofBitVec ((capimsgNcci m &&& 0xFFFFFF80#32) + 1#32) := by
  have kept : capimsgNcci (capimsgSetappid m (ltr (capimsgAppid m).toInt)) = capimsgNcci m := by
    have same (i : Nat) (behind : 4 ≤ i) : capimsgSetappid m (ltr (capimsgAppid m).toInt) i = m i :=
      Memory.write_outside _ _ _ _ (.inr (by rw [length_littleEndian]; exact behind))
    simp only [capimsgNcci, capimsgU32, Memory.signed, same _ (show 4 ≤ 8 by decide),
      same _ (show 4 ≤ 8 + 1 by decide), same _ (show 4 ≤ 8 + 2 by decide), same _ (show 4 ≤ 8 + 3 by decide)]
  rw [mapped, kept]
  exact Memory.word32_write _ _ _

theorem ofBitVec_signedWord_two (a : Nat) (id : UInt16) (low : (m a).toNat = id.toNat % 256)
    (high : (m (a + 1)).toNat = id.toNat / 256) :
    UInt32.ofBitVec (m.signedWord a 2) = id.toUInt32 ↔ id.toNat % 256 < 128 ∧ id.toNat < 0x8000 := by
  have small := id.toNat_lt
  have value := m.toInt_signedWord_two a
  rw [low, high] at value
  have unsigned : id.toUInt32.toBitVec.toInt = id.toNat := by
    rw [BitVec.toInt_eq_toNat_cond]
    have number : id.toUInt32.toBitVec.toNat = id.toNat := UInt16.toNat_toUInt32 id
    rw [number, if_pos (by omega)]
  rw [← UInt32.toBitVec_inj, ← BitVec.toInt_inj, unsigned]
  change (m.signedWord a 2).toInt = _ ↔ _
  rw [value]
  split
  · omega
  · split <;> omega

/-- No sign gets in the way: the map is read at the id of the application, the remote id has no byte from
0x80 on, and the PLCI or NCCI is not changed above its controller. -/
structure Readable : Prop where
  index : ltr (capimsgAppid m).toInt = ltr (m.word16 2)
  low : (ltr (m.word16 2)).toNat % 256 < 128
  high : (ltr (m.word16 2)).toNat < 0x8000
  ncci : Extended m 8

/-- A message is forwarded as it should be exactly when no sign gets in the way. -/
theorem outbound_iff (fits : sizeofRequestHeader + len ≤ bufferSize) :
    Forwards ltr d len ↔ Readable ltr d.recvbuffer := by
  have controller : (mapped ltr d.recvbuffer).word32 8 = (d.recvbuffer.word32 8 &&& 0xFFFFFF80) + 1 ↔
      Extended d.recvbuffer 8 := by
    rw [mapped_word32, ← ncci_iff, ← UInt32.toBitVec_inj]
    exact BitVec.add_left_inj 1#32
  have header (index : ltr (capimsgAppid d.recvbuffer).toInt = ltr (d.recvbuffer.word16 2)) :
      (putHead ltr d len).appId = (ltr (d.recvbuffer.word16 2)).toUInt32 ↔
        (ltr (d.recvbuffer.word16 2)).toNat % 256 < 128 ∧ (ltr (d.recvbuffer.word16 2)).toNat < 0x8000 := by
    have bytes := mapped_bytes ltr d.recvbuffer
    rw [index] at bytes
    rw [← ofBitVec_signedWord_two (mapped ltr d.recvbuffer) 2 _ bytes.1 bytes.2, ← capimsgU16_eq]
    rfl
  constructor
  · rintro ⟨-, -, head, message, ncci, -⟩
    rw [mapped_word16, UInt16.toNat_inj] at message
    obtain ⟨low, high⟩ := (header message).mp head
    exact ⟨message, low, high, controller.mp ncci⟩
  · rintro ⟨index, low, high, ncci⟩
    refine ⟨putFrame_eq ltr d fits, rfl, (header index).mpr ⟨low, high⟩, ?_, controller.mpr ncci,
      mapped_others ltr d.recvbuffer⟩
    rw [mapped_word16, index]

end

theorem sendToServer_sent (env : Environment) (reads : env.ReadsChars) (d : Daemon) (len : Nat)
    (sends : env.send d.log.length = true) : (d.sendToServer env len).log =
      d.log ++ [.sent (putHead (d.element env d.applmapLtr) d len)
        (putFrame (d.element env d.applmapLtr) d len)] := by
  rw [Daemon.sendToServer, Environment.ncci, reads.u16, reads.u16, reads.u32, Daemon.await_log,
    Daemon.request, Memory.length_read, if_pos (by exact sends)]
  rfl

def sampleLtr : Applmap := fun index => if index = 1 then 5 else 0

def hasRead (plci : UInt32) : Daemon :=
  { Daemon.sample with recvbuffer := zeros.write 0 ([12, 0, 1, 0, 4, 0x80, 0, 0] ++ bytes32 plci) }

theorem firstConnection_outbound_iff :
    Forwards sampleLtr (hasRead 0x0101) 12 ↔ Readable sampleLtr (hasRead 0x0101).recvbuffer :=
  outbound_iff sampleLtr (hasRead 0x0101) (by decide)

/-- The PLCI 0x8101 is sent as 0xFFFF8101. -/
theorem laterConnection_not_forwarded : ¬ Forwards sampleLtr (hasRead 0x8101) 12 := by
  intro forwards
  have controller := forwards.controller
  exact absurd controller (by decide +kernel)

end CapiProxy.LinuxClient
