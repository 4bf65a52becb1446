import CapiProxy.LinuxClient.Outbound

/-! The buffers and the maps of the daemon, as the two functions that move messages use them. Offsets,
lengths and ids come from the server and from the module, and nothing compares them with the sizes of
the arrays. -/
namespace CapiProxy.LinuxClient
open Bytes

inductive Object where
  | sendbuffer | recvbuffer | applmapRtl | applmapLtr
  deriving DecidableEq, Repr

/-- `length` elements that are read or written, from an index that is an `int`. -/
structure Access where
  object : Object
  index : Int
  length : Nat

/-- The maps have an element for each id up to `CAPI_MAXAPPL`. -/
def Object.size (maxAppl : Nat) : Object → Nat
  | .sendbuffer | .recvbuffer => bufferSize
  | .applmapRtl | .applmapLtr => maxAppl + 1

def Access.Inside (maxAppl : Nat) (a : Access) : Prop :=
  ∀ i < a.length, 0 ≤ a.index + i ∧ a.index + i < a.object.size maxAppl

def Contained (maxAppl : Nat) (accesses : List Access) : Prop := ∀ a ∈ accesses, a.Inside maxAppl

/-- `data_offset` of `send_to_module`. -/
def dataOffset (d : Daemon) : Nat := (d.aheader.headerLen + d.aheader.bodyLen).toUInt16.toNat

/-- The send buffer once the message has been copied. -/
def stripped (d : Daemon) : Memory :=
  d.sendbuffer.write 0 (d.recvbuffer.read (dataOffset d) d.aheader.dataLen.toNat)

/-- What `send_to_module` touches: the lengths in the header, both ends of the copy, which it also writes
to the module, and the id with its element of the map. -/
def toModuleAccesses (d : Daemon) : List Access :=
  [⟨.recvbuffer, 4, 12⟩, ⟨.recvbuffer, dataOffset d, d.aheader.dataLen.toNat⟩,
    ⟨.sendbuffer, 0, d.aheader.dataLen.toNat⟩, ⟨.sendbuffer, 2, 2⟩,
    ⟨.applmapRtl, (capimsgAppid (stripped d)).toInt, 1⟩]

/-- What `send_to_server` touches before it waits: the id with its element of the map, the NCCI, the header
of the request, and both ends of the copy. -/
def toServerAccesses (d : Daemon) (len : Nat) : List Access :=
  [⟨.recvbuffer, 2, 2⟩, ⟨.applmapLtr, (capimsgAppid d.recvbuffer).toInt, 1⟩, ⟨.recvbuffer, 8, 4⟩,
    ⟨.sendbuffer, 0, sizeofRequestHeader⟩, ⟨.recvbuffer, 0, len⟩, ⟨.sendbuffer, sizeofRequestHeader, len⟩]

/-- The id of a message has an element in the map: no byte of it is read as a negative number. -/
structure Listed (maxAppl : Nat) (m : Memory) : Prop where
  low : ¬ Negative (m 2)
  high : ¬ Negative (m 3)
  bound : m.word16 2 ≤ maxAppl

theorem listed_iff (maxAppl : Nat) (m : Memory) :
    Listed maxAppl m ↔ 0 ≤ (capimsgAppid m).toInt ∧ (capimsgAppid m).toInt < maxAppl + 1 := by
  have first := (m 2).toNat_lt
  have second := (m 3).toNat_lt
  have word : m.word16 2 = (m 2).toNat + 256 * ((m 3).toNat + 256 * 0) := rfl
  have value : (m.signedWord 2 2).toInt = if 128 ≤ (m 2).toNat then ((m 2).toNat : Int) - 256
      else if 128 ≤ (m 3).toNat then 256 * ((m 3).toNat - 256) + (m 2).toNat
      else 256 * (m 3).toNat + (m 2).toNat := m.toInt_signedWord_two 2
  have signs : Listed maxAppl m ↔ (m 2).toNat < 128 ∧ (m 3).toNat < 128 ∧ m.word16 2 ≤ maxAppl :=
    ⟨fun ⟨low, high, bound⟩ => ⟨Nat.lt_of_not_le low, Nat.lt_of_not_le high, bound⟩,
      fun ⟨low, high, bound⟩ => ⟨Nat.not_le_of_lt low, Nat.not_le_of_lt high, bound⟩⟩
  rw [signs, capimsgAppid, capimsgU16_eq, value, word]
  split
  · omega
  · split <;> omega

theorem inside_iff (maxAppl : Nat) (object : Object) (start length : Nat) :
    Access.Inside maxAppl ⟨object, start, length⟩ ↔ length = 0 ∨ start + length ≤ object.size maxAppl := by
  constructor
  · intro inside
    rcases Nat.eq_zero_or_pos length with none | some
    · exact .inl none
    · have last := (inside (length - 1) (Nat.sub_lt some Nat.one_pos)).2
      dsimp only at last
      omega
  · intro fits i within
    have within : i < length := within
    dsimp only
    omega

theorem inside_one_iff (maxAppl : Nat) (object : Object) (index : Int) :
    Access.Inside maxAppl ⟨object, index, 1⟩ ↔ 0 ≤ index ∧ index < object.size maxAppl := by
  constructor
  · intro inside
    have only := inside 0 Nat.one_pos
    simpa using only
  · intro bounds i within
    obtain rfl : i = 0 := Nat.lt_one_iff.mp within
    simpa using bounds

section
variable (maxAppl : Nat)

theorem element_iff {object : Object} (map : object = .applmapRtl ∨ object = .applmapLtr) (m : Memory) :
    Access.Inside maxAppl ⟨object, (capimsgAppid m).toInt, 1⟩ ↔ Listed maxAppl m := by
  rw [inside_one_iff, listed_iff]
  rcases map with rfl | rfl <;> exact Iff.rfl

theorem toModule_contained_iff (d : Daemon) :
    Contained maxAppl (toModuleAccesses d) ↔
      (d.aheader.dataLen = 0 ∨ dataOffset d + d.aheader.dataLen.toNat ≤ bufferSize) ∧
        Listed maxAppl (stripped d) := by
  have none : d.aheader.dataLen.toNat = 0 ↔ d.aheader.dataLen = 0 := UInt32.toNat_inj (b := 0)
  have header : Access.Inside maxAppl ⟨.recvbuffer, 4, 12⟩ :=
    (inside_iff maxAppl .recvbuffer 4 12).mpr (.inr (show 4 + 12 ≤ bufferSize by decide))
  have id : Access.Inside maxAppl ⟨.sendbuffer, 2, 2⟩ :=
    (inside_iff maxAppl .sendbuffer 2 2).mpr (.inr (show 2 + 2 ≤ bufferSize by decide))
  have source := inside_iff maxAppl .recvbuffer (dataOffset d) d.aheader.dataLen.toNat
  have target : Access.Inside maxAppl ⟨.sendbuffer, 0, d.aheader.dataLen.toNat⟩ ↔ _ :=
    inside_iff maxAppl .sendbuffer 0 d.aheader.dataLen.toNat
  simp only [Contained, toModuleAccesses, List.forall_mem_cons, List.not_mem_nil, false_implies,
    implies_true, and_true, header, id, true_and, element_iff maxAppl (.inl rfl), source, target, ← none]
  simp only [Object.size]
  constructor
  · rintro ⟨first, -, listed⟩
    exact ⟨first, listed⟩
  · rintro ⟨first, listed⟩
    exact ⟨first, by omega, listed⟩

theorem toServer_contained_iff (d : Daemon) (len : Nat) :
    Contained maxAppl (toServerAccesses d len) ↔
      sizeofRequestHeader + len ≤ bufferSize ∧ Listed maxAppl d.recvbuffer := by
  have id : Access.Inside maxAppl ⟨.recvbuffer, 2, 2⟩ :=
    (inside_iff maxAppl .recvbuffer 2 2).mpr (.inr (show 2 + 2 ≤ bufferSize by decide))
  have ncci : Access.Inside maxAppl ⟨.recvbuffer, 8, 4⟩ :=
    (inside_iff maxAppl .recvbuffer 8 4).mpr (.inr (show 8 + 4 ≤ bufferSize by decide))
  have header : Access.Inside maxAppl ⟨.sendbuffer, 0, sizeofRequestHeader⟩ :=
    (inside_iff maxAppl .sendbuffer 0 sizeofRequestHeader).mpr
      (.inr (show 0 + sizeofRequestHeader ≤ bufferSize by decide))
  have source : Access.Inside maxAppl ⟨.recvbuffer, 0, len⟩ ↔ _ := inside_iff maxAppl .recvbuffer 0 len
  have target := inside_iff maxAppl .sendbuffer sizeofRequestHeader len
  simp only [Contained, toServerAccesses, List.forall_mem_cons, List.not_mem_nil, false_implies,
    implies_true, and_true, id, ncci, header, true_and, element_iff maxAppl (.inr rfl), source, target]
  simp only [Object.size, bufferSize, sizeofRequestHeader]
  constructor
  · rintro ⟨listed, -, room⟩
    exact ⟨by omega, listed⟩
  · rintro ⟨room, listed⟩
    exact ⟨listed, by omega, by omega⟩

def Untouched (accesses : List Access) (object : Object) (q : Nat) : Prop :=
  ∀ a ∈ accesses, a.object = object → ∀ i < a.length, (q : Int) ≠ a.index + i

theorem Untouched.write (untouched : Untouched accesses object q) (m : Memory) (start : Nat)
    {bytes : List UInt8} (listed : ⟨object, start, bytes.length⟩ ∈ accesses) : m.write start bytes q = m q := by
  have apart := untouched _ listed rfl
  apply Memory.write_outside
  by_contra covered
  exact apart (q - start) (by dsimp only; omega) (by dsimp only; omega)

theorem Contained.untouched {accesses : List Access} (contained : Contained maxAppl accesses)
    (buffer : object = .sendbuffer ∨ object = .recvbuffer) (behind : bufferSize ≤ q) :
    Untouched accesses object q := by
  intro a listed same i within covered
  have room := (contained a listed i within).2
  rw [same, ← covered] at room
  rcases buffer with rfl | rfl <;> simp only [Object.size] at room <;> omega

theorem sendToModule_frame (env : Environment) {d : Daemon}
    (untouched : Untouched (toModuleAccesses d) .sendbuffer q) :
    (d.sendToModule env).sendbuffer q = d.sendbuffer q := by
  refine (untouched.write _ 2 ?_).trans (untouched.write _ 0 ?_)
  · rw [length_littleEndian]
    simp [toModuleAccesses]
  · rw [Memory.length_read]
    simp [toModuleAccesses]

theorem await_buffers (op : Operation) (sent : Daemon × Bool) :
    (Daemon.await op id sent).recvbuffer = sent.1.recvbuffer ∧
      (Daemon.await op id sent).sendbuffer = sent.1.sendbuffer := by
  obtain ⟨d, ok⟩ := sent
  cases ok <;> exact ⟨rfl, rfl⟩

theorem request_buffers (env : Environment) (type : MessageType) (appl : UInt32) (data : List UInt8)
    (d : Daemon) :
    (d.request env type appl [] data).1.recvbuffer = d.recvbuffer ∧
      (d.request env type appl [] data).1.sendbuffer =
        (d.sendbuffer.write 0 (d.header type appl data.length).bytes).write sizeofRequestHeader data := by
  rw [Daemon.request]
  split <;> exact ⟨rfl, rfl⟩

/-- Whatever the macros, the map and the send call give, this is written. -/
theorem sendToServer_buffers (env : Environment) (d : Daemon) (len : Nat) :
    ∃ (head : RequestHeader) (appl : UInt16) (contr : UInt32),
      (d.sendToServer env len).recvbuffer = capimsgSetcontrol (capimsgSetappid d.recvbuffer appl) contr ∧
      (d.sendToServer env len).sendbuffer = (d.sendbuffer.write 0 head.bytes).write sizeofRequestHeader
        ((capimsgSetcontrol (capimsgSetappid d.recvbuffer appl) contr).read 0 len) := by
  let appl := d.element env d.applmapLtr (env.u16 d.recvbuffer 2).toInt
  let contr := (env.ncci (capimsgSetappid d.recvbuffer appl) &&& 0xFFFFFF80) + 1
  let recvbuffer := capimsgSetcontrol (capimsgSetappid d.recvbuffer appl) contr
  have sent := request_buffers env .capiPutmessage (.ofBitVec (env.u16 recvbuffer 2)) (recvbuffer.read 0 len)
    (d.storeRecv recvbuffer)
  have kept := await_buffers .put ((d.storeRecv recvbuffer).request env .capiPutmessage
    (.ofBitVec (env.u16 recvbuffer 2)) [] (recvbuffer.read 0 len))
  exact ⟨_, appl, contr, kept.1.trans sent.1, kept.2.trans sent.2⟩

theorem sendToServer_frame (env : Environment) (d : Daemon) (len q : Nat) :
    (Untouched (toServerAccesses d len) .recvbuffer q →
      (d.sendToServer env len).recvbuffer q = d.recvbuffer q) ∧
    (Untouched (toServerAccesses d len) .sendbuffer q →
      (d.sendToServer env len).sendbuffer q = d.sendbuffer q) := by
  obtain ⟨head, appl, contr, recvbuffer, sendbuffer⟩ := sendToServer_buffers env d len
  rw [recvbuffer, sendbuffer]
  constructor
  · intro untouched
    refine (untouched.write _ 8 ?_).trans (untouched.write _ 2 ?_)
    · rw [length_bytes32]
      simp [toServerAccesses]
    · rw [length_littleEndian]
      simp [toServerAccesses]
  · intro untouched
    refine (untouched.write _ sizeofRequestHeader ?_).trans (untouched.write _ 0 ?_)
    · rw [Memory.length_read]
      simp [toServerAccesses]
    · rw [RequestHeader.length_bytes]
      simp [toServerAccesses, sizeofRequestHeader]

/-- The functions stay in the buffers and the maps exactly when the message of an answer ends in the receive
buffer, a message of the module leaves room for the request header, and the ids have their elements. Then
nothing behind a buffer changes. -/
theorem buffers_contained_iff (env : Environment) (d d' : Daemon) (len : Nat) :
    (Contained maxAppl (toModuleAccesses d) ↔
      (d.aheader.dataLen = 0 ∨ dataOffset d + d.aheader.dataLen.toNat ≤ bufferSize) ∧
        Listed maxAppl (stripped d)) ∧
    (Contained maxAppl (toServerAccesses d' len) ↔
      sizeofRequestHeader + len ≤ bufferSize ∧ Listed maxAppl d'.recvbuffer) ∧
    (Contained maxAppl (toModuleAccesses d) → ∀ q ≥ bufferSize,
      (d.sendToModule env).sendbuffer q = d.sendbuffer q) ∧
    (Contained maxAppl (toServerAccesses d' len) → ∀ q ≥ bufferSize,
      (d'.sendToServer env len).recvbuffer q = d'.recvbuffer q ∧
        (d'.sendToServer env len).sendbuffer q = d'.sendbuffer q) := by
  refine ⟨toModule_contained_iff maxAppl d, toServer_contained_iff maxAppl d' len, ?_, ?_⟩
  · intro contained q behind
    exact sendToModule_frame env (contained.untouched maxAppl (.inl rfl) behind)
  · intro contained q behind
    obtain ⟨recvbuffer, sendbuffer⟩ := sendToServer_frame env d' len q
    exact ⟨recvbuffer (contained.untouched maxAppl (.inr rfl) behind),
      sendbuffer (contained.untouched maxAppl (.inl rfl) behind)⟩

end

/-- An answer that announces more data than the receive buffer holds, for application 1. -/
def longAnswer : Daemon :=
  { Daemon.sample with
    recvbuffer := zeros.write 0 (AnswerHeader.bytes
      ⟨20040, 40, 0, 20000, 9, MessageType.capiGetmessage.code, 1, 3, perrorNone, 0⟩ ++ [8, 0, 1, 0]) }

/-- The copy of a long answer leaves both buffers, a message of 9965 bytes has no room behind the request
header, and application 128 has an element in front of the map. -/
theorem buffers_not_contained :
    ¬ Contained 240 (toModuleAccesses longAnswer) ∧ ¬ Contained 240 (toServerAccesses Daemon.sample 9965) ∧
    ¬ Contained 240 (toServerAccesses { Daemon.sample with recvbuffer := zeros.write 2 [128, 0] } 12) := by
  refine ⟨fun contained => ?_, fun contained => ?_, fun contained => ?_⟩
  · exact absurd ((toModule_contained_iff 240 longAnswer).mp contained).1 (by decide +kernel)
  · exact absurd ((toServer_contained_iff 240 Daemon.sample 9965).mp contained).1 (by decide)
  · exact ((toServer_contained_iff 240 _ 12).mp contained).2.low (by decide +kernel)

end CapiProxy.LinuxClient
