import CapiProxy.Bytes.Words

/-! The wire protocol shared by the clients and the servers: message types, error codes,
the two headers and the sizes of the bodies. Every struct member is a 32-bit little-endian
word, so a header is the sequence of its words. -/
namespace CapiProxy
open Bytes

inductive MessageType where
  | capiRegister | capiRelease | capiPutmessage | capiGetmessage | capiWaitforsignal
  | capiManufacturer | capiVersion | capiSerial | capiProfile | capiInstalled
  | proxyHelo | proxyAuth | proxyKeepalive | proxyShutdown
  deriving DecidableEq, Repr

namespace MessageType

def code : MessageType → UInt32
  | .capiRegister => 1
  | .capiRelease => 2
  | .capiPutmessage => 3
  | .capiGetmessage => 4
  | .capiWaitforsignal => 5
  | .capiManufacturer => 6
  | .capiVersion => 7
  | .capiSerial => 8
  | .capiProfile => 9
  | .capiInstalled => 10
  | .proxyHelo => 99
  | .proxyAuth => 98
  | .proxyKeepalive => 97
  | .proxyShutdown => 96

def all : List MessageType :=
  [.capiRegister, .capiRelease, .capiPutmessage, .capiGetmessage, .capiWaitforsignal,
    .capiManufacturer, .capiVersion, .capiSerial, .capiProfile, .capiInstalled,
    .proxyHelo, .proxyAuth, .proxyKeepalive, .proxyShutdown]

/-- The case label a `switch` on the type word reaches; `none` is the default label. -/
def ofCode (c : UInt32) : Option MessageType := all.find? fun t => t.code == c

@[simp] theorem ofCode_code (t : MessageType) : ofCode t.code = some t := by
  cases t <;> rfl

theorem code_of_ofCode (h : ofCode c = some t) : t.code = c := by
  simpa using List.find?_some h

def isCapi : MessageType → Bool
  | .proxyHelo | .proxyAuth | .proxyKeepalive | .proxyShutdown => false
  | _ => true

/-- The requests that are answered. The answer to a keepalive request is declared, but no server
sends it. -/
def isAnswered : MessageType → Bool
  | .proxyKeepalive | .proxyShutdown => false
  | _ => true

theorem isAnswered_of_isCapi {t : MessageType} (capi : t.isCapi = true) : t.isAnswered = true := by
  cases t <;> first | rfl | cases capi

end MessageType

def perrorNone : UInt32 := 0x00
def perrorAuthRequired : UInt32 := 0x01
def perrorAccessDenied : UInt32 := 0x03
def perrorParseError : UInt32 := 0x06
def perrorAuthTypeNotSupported : UInt32 := 0x07
def perrorIncompatibleVersion : UInt32 := 0x08
def perrorNoRessources : UInt32 := 0x80

def authNoAuth : UInt32 := 0x0000
def authByIp : UInt32 := 0x0001
def authUserpass : UInt32 := 0x0002

def osTypeWindows : UInt32 := 1
def osTypeLinux : UInt32 := 2

structure Version where
  major : UInt32
  minor : UInt32
  deriving DecidableEq, Repr

def sizeofRequestHeader : Nat := 36
def sizeofAnswerHeader : Nat := 40

structure RequestHeader where
  messageLen : UInt32
  headerLen : UInt32
  bodyLen : UInt32
  dataLen : UInt32
  messageId : UInt32
  messageType : UInt32
  appId : UInt32
  controllerId : UInt32
  sessionId : UInt32
  deriving DecidableEq, Repr

structure AnswerHeader where
  messageLen : UInt32
  headerLen : UInt32
  bodyLen : UInt32
  dataLen : UInt32
  messageId : UInt32
  messageType : UInt32
  appId : UInt32
  sessionId : UInt32
  proxyError : UInt32
  capiError : UInt32
  deriving DecidableEq, Repr

namespace RequestHeader

def bytes (h : RequestHeader) : List UInt8 :=
  words [h.messageLen, h.headerLen, h.bodyLen, h.dataLen, h.messageId, h.messageType,
    h.appId, h.controllerId, h.sessionId]

def parse (m : Memory) (a : Nat) : RequestHeader where
  messageLen := m.word32 a
  headerLen := m.word32 (a + 4)
  bodyLen := m.word32 (a + 8)
  dataLen := m.word32 (a + 12)
  messageId := m.word32 (a + 16)
  messageType := m.word32 (a + 20)
  appId := m.word32 (a + 24)
  controllerId := m.word32 (a + 28)
  sessionId := m.word32 (a + 32)

@[simp] theorem length_bytes (h : RequestHeader) : h.bytes.length = 36 := by
  simp [bytes]

theorem parse_of_holds (holds : Holds m a (bytes h)) : parse m a = h := by
  have word := fun i hi => Holds.words (i := i) holds hi
  cases h
  simp only [parse]
  congr 1
  exacts [word 0 (by simp), word 1 (by simp), word 2 (by simp), word 3 (by simp),
    word 4 (by simp), word 5 (by simp), word 6 (by simp), word 7 (by simp),
    word 8 (by simp)]

theorem parse_congr (same : ∀ i < sizeofRequestHeader, m (a + i) = m' (b + i)) :
    parse m a = parse m' b := by
  have word (k : Nat) (hk : k + 4 ≤ 36) : m.word32 (a + k) = m'.word32 (b + k) :=
    Memory.word32_congr fun i hi => by
      simpa only [Nat.add_assoc] using same (k + i) (by simp only [sizeofRequestHeader]; omega)
  have first := word 0 (by decide)
  simp only [Nat.add_zero] at first
  simp only [parse, first, word 4 (by decide), word 8 (by decide), word 12 (by decide),
    word 16 (by decide), word 20 (by decide), word 24 (by decide), word 28 (by decide),
    word 32 (by decide)]

end RequestHeader

namespace AnswerHeader

def bytes (h : AnswerHeader) : List UInt8 :=
  words [h.messageLen, h.headerLen, h.bodyLen, h.dataLen, h.messageId, h.messageType,
    h.appId, h.sessionId, h.proxyError, h.capiError]

def parse (m : Memory) (a : Nat) : AnswerHeader where
  messageLen := m.word32 a
  headerLen := m.word32 (a + 4)
  bodyLen := m.word32 (a + 8)
  dataLen := m.word32 (a + 12)
  messageId := m.word32 (a + 16)
  messageType := m.word32 (a + 20)
  appId := m.word32 (a + 24)
  sessionId := m.word32 (a + 28)
  proxyError := m.word32 (a + 32)
  capiError := m.word32 (a + 36)

@[simp] theorem length_bytes (h : AnswerHeader) : h.bytes.length = 40 := by
  simp [bytes]

theorem parse_of_holds (holds : Holds m a (bytes h)) : parse m a = h := by
  have word := fun i hi => Holds.words (i := i) holds hi
  cases h
  simp only [parse]
  congr 1
  exacts [word 0 (by simp), word 1 (by simp), word 2 (by simp), word 3 (by simp),
    word 4 (by simp), word 5 (by simp), word 6 (by simp), word 7 (by simp),
    word 8 (by simp), word 9 (by simp)]

theorem bytes_inj (same : bytes h = bytes h') : h = h' := by
  have first := parse_of_holds (Holds.write zeros 0 (bytes h))
  rw [same, parse_of_holds (Holds.write zeros 0 (bytes h'))] at first
  exact first.symm

theorem parse_congr (same : ∀ i < sizeofAnswerHeader, m (a + i) = m' (b + i)) :
    parse m a = parse m' b := by
  have word (k : Nat) (inside : k + 4 ≤ sizeofAnswerHeader) : m.word32 (a + k) = m'.word32 (b + k) := by
    apply Memory.word32_congr
    intro i small
    simpa only [Nat.add_assoc] using same (k + i) (by omega)
  have first := word 0 (by decide)
  simp only [Nat.add_zero] at first
  simp only [parse, first, word 4 (by decide), word 8 (by decide), word 12 (by decide),
    word 16 (by decide), word 20 (by decide), word 24 (by decide), word 28 (by decide),
    word 32 (by decide), word 36 (by decide)]

end AnswerHeader

/-- An answer under construction: the header members, which handlers assign one by one, and
the bytes behind the header. A member no handler assigns keeps the value it had before. -/
structure AnswerBuffer where
  head : AnswerHeader
  rest : Memory

/-- The answer buffer that lies at an address; this is also how an uninitialised one starts. -/
def AnswerBuffer.at (m : Memory) (a : Nat) : AnswerBuffer :=
  ⟨.parse m a, fun i => m (a + sizeofAnswerHeader + i)⟩

/-- The bytes `send(socket, answer, message_len)` puts on the wire. -/
def AnswerBuffer.frame (answer : AnswerBuffer) : List UInt8 :=
  (answer.head.bytes ++ answer.rest.read 0 (answer.head.messageLen.toNat - sizeofAnswerHeader)).take
    answer.head.messageLen.toNat

theorem AnswerBuffer.frame_eq (answer : AnswerBuffer) (holds : Holds answer.rest 0 bytes)
    (announced : answer.head.messageLen.toNat = sizeofAnswerHeader + bytes.length) :
    answer.frame = answer.head.bytes ++ bytes := by
  rw [frame, announced, Nat.add_sub_cancel_left, holds]
  exact List.take_of_length_le (by simp [sizeofAnswerHeader])

theorem AnswerBuffer.frame_whole (answer : AnswerBuffer)
    (announced : answer.head.messageLen.toNat = sizeofAnswerHeader + n) :
    answer.frame = answer.head.bytes ++ answer.rest.read 0 n := by
  refine answer.frame_eq ?_ ?_
  · rw [Holds, Memory.length_read]
  · rw [Memory.length_read, announced]

theorem AnswerBuffer.frame_eq_iff {a b : AnswerBuffer}
    (first : a.head.messageLen.toNat = sizeofAnswerHeader + n)
    (second : b.head.messageLen.toNat = sizeofAnswerHeader + k) :
    a.frame = b.frame ↔ a.head = b.head ∧ ∀ i < n, a.rest i = b.rest i := by
  rw [a.frame_whole first, b.frame_whole second]
  constructor
  · intro same
    obtain ⟨heads, bytes⟩ := List.append_inj same (by simp)
    refine ⟨AnswerHeader.bytes_inj heads, fun i inside => ?_⟩
    have byte := List.getElem_of_eq bytes (i := i) (by simpa using inside)
    simpa using byte
  · rintro ⟨heads, bytes⟩
    have length : n = k := by
      rw [heads, second] at first
      omega
    rw [heads, ← length]
    exact congrArg _ (Memory.read_congr fun i inside => by simpa using bytes i inside)

/-- What `sizeof` gives for a struct without members: the C++ compiler of the Win32 programs
makes it 1, the C compiler of the Linux programs makes it 0. -/
inductive Compiler where
  | msvc
  | gnuC
  deriving DecidableEq, Repr

def Compiler.emptyStruct : Compiler → Nat
  | .msvc => 1
  | .gnuC => 0

def MessageType.sizeofRequest (compiler : Compiler) : MessageType → Nat
  | .capiRegister => 16
  | .proxyHelo => 76
  | .proxyAuth => 4
  | _ => compiler.emptyStruct

def MessageType.sizeofAnswer (compiler : Compiler) : MessageType → Nat
  | .capiManufacturer => 64
  | .capiVersion => 16
  | .capiSerial => 8
  | .capiProfile => 64
  | .proxyHelo => 84
  | .proxyShutdown => 128
  | _ => compiler.emptyStruct

/-- `rbodysize` of the Win32 programs; there is no request struct for a shutdown. -/
def rbodysize (type : UInt32) : Int :=
  match MessageType.ofCode type with
  | some .proxyShutdown => 0
  | some t => t.sizeofRequest .msvc
  | none => -1

def abodysize (type : UInt32) : Int :=
  match MessageType.ofCode type with
  | some t => t.sizeofAnswer .msvc
  | none => -1

/-- Adding a length word to a pointer on the 32-bit targets. -/
def advance (p : Nat) (n : UInt32) : Nat := (p + n.toNat) % 2 ^ 32

theorem advance_of_fits (fits : p + n.toNat < 2 ^ 32) : advance p n = p + n.toNat :=
  Nat.mod_eq_of_lt fits

end CapiProxy
