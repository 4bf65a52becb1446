import CapiProxy.Win32Client.Connection
import CapiProxy.Win32Client.Functions
import CapiProxy.Win32Server.StartSession

/-! The requests of the Win32 client at their session. Both ends are compiled alike, so what the client
puts behind the header is what the session finds there. -/
namespace CapiProxy.Integration
open Bytes Win32Client
open Win32Server (State Pointers header pointers)

/-- Where the session finds the parts of a request without padding. -/
def located (env : Win32Server.Environment) (type : MessageType) : Pointers :=
  ⟨env.requestBuffer, env.requestBuffer + sizeofRequestHeader,
    env.requestBuffer + sizeofRequestHeader + type.sizeofRequest .msvc⟩

/-- A request of this type, with the bytes that follow its header on the wire. -/
structure Posted (type : MessageType) (request : RequestBuffer) (bytes : List UInt8) : Prop where
  headerLen : request.head.headerLen = .ofNat sizeofRequestHeader
  bodyLen : request.head.bodyLen = .ofNat (type.sizeofRequest .msvc)
  dataLen : request.head.dataLen = .ofNat (bytes.length - type.sizeofRequest .msvc)
  messageLen : request.head.messageLen = .ofNat (sizeofRequestHeader + bytes.length)
  messageType : request.head.messageType = type.code
  body : type.sizeofRequest .msvc ≤ bytes.length
  fits : sizeofRequestHeader + bytes.length ≤ msgBuffer
  rest : Holds request.rest 0 bytes

namespace Posted
variable {type : MessageType} {request : RequestBuffer} {bytes : List UInt8}

theorem frame_eq (posted : Posted type request bytes) : request.frame = request.head.bytes ++ bytes := by
  have fits := posted.fits
  simp only [sizeofRequestHeader, msgBuffer] at fits
  refine request.frame_eq posted.rest ?_
  rw [posted.messageLen, UInt32.toNat_ofNat', sizeofRequestHeader]
  omega

theorem received (posted : Posted type request bytes) (env : Win32Server.Environment) (s : State) :
    header env (s.receive env request.frame).memory = request.head ∧
      Holds (s.receive env request.frame).memory (env.requestBuffer + sizeofRequestHeader) bytes := by
  have stored : Holds (s.receive env request.frame).memory env.requestBuffer
      (request.head.bytes ++ bytes) := by
    rw [posted.frame_eq]
    exact Holds.write _ _ _
  have behind := stored.right
  rw [RequestHeader.length_bytes] at behind
  exact ⟨RequestHeader.parse_of_holds stored.left, behind⟩

theorem verified (posted : Posted type request bytes)
    (parsed : RequestHeader.parse m a = request.head) : Win32Server.verifyRequest m a = true := by
  have body := posted.body
  have fits := posted.fits
  simp only [sizeofRequestHeader, msgBuffer] at fits
  rw [Win32Server.verifyRequest_iff, parsed]
  simp only [posted.headerLen, posted.bodyLen, posted.dataLen, posted.messageLen, posted.messageType]
  refine ⟨Nat.le_refl 36, ?_, ?_, ?_⟩
  · cases type <;> decide
  · rw [UInt32.toNat_ofNat', sizeofRequestHeader, Win32Server.msgSize]
    omega
  · rw [← UInt32.ofNat_add, ← UInt32.ofNat_add, Nat.add_assoc, Nat.add_sub_cancel' body]

theorem selected (posted : Posted type request bytes) (found : Win32Server.handlerOf type = some handler)
    (session : Win32Server.checksSession type = true → request.head.sessionId = env.session)
    (s : State) : Win32Server.selected env (s.receive env request.frame).memory = some (type, handler) := by
  obtain ⟨parsed, -⟩ := posted.received env s
  refine Win32Server.selected_of_arm (posted.verified parsed) ?_ found fun checked => ?_
  · rw [parsed, posted.messageType, MessageType.ofCode_code]
  · rw [Win32Server.header] at parsed
    rw [Win32Server.verifySessionId, parsed, session checked, beq_self_eq_true]

theorem pointers_eq (posted : Posted type request bytes) (env : Win32Server.Environment) (s : State) :
    pointers env (s.receive env request.frame).memory = located env type := by
  have room := env.requestBuffer_fits
  have size : type.sizeofRequest .msvc ≤ 76 := by cases type <;> decide
  have header : (UInt32.ofNat sizeofRequestHeader).toNat = sizeofRequestHeader := rfl
  have body : (UInt32.ofNat (type.sizeofRequest .msvc)).toNat = type.sizeofRequest .msvc := by
    rw [UInt32.toNat_ofNat']
    omega
  simp only [Win32Server.msgSize] at room
  obtain ⟨parsed, -⟩ := posted.received env s
  rw [pointers, parsed, posted.headerLen, posted.bodyLen,
    advance_of_fits (by rw [header, sizeofRequestHeader]; omega),
    advance_of_fits (by rw [header, body, sizeofRequestHeader]; omega), header, body, located]

theorem request_eq (posted : Posted type request bytes) (env : Win32Server.Environment) (s : State) :
    (s.receive env request.frame).request (located env type) = request.head := (posted.received env s).1

end Posted

theorem posted_plain (c : Client) (applID : UInt32) (plain : type.sizeofRequest .msvc = 1) :
    Posted type (plainRequest type c applID) [0] where
  headerLen := rfl
  bodyLen := rfl
  dataLen := by rw [plain]; rfl
  messageLen := by rw [plainRequest, plain]; rfl
  messageType := rfl
  body := Nat.le_of_eq plain
  fits := by decide
  rest := rfl

theorem posted_get (c : Client) (applID : UInt32) :
    Posted .capiGetmessage (getMessageRequest c applID) [0] where
  headerLen := rfl
  bodyLen := rfl
  dataLen := rfl
  messageLen := rfl
  messageType := rfl
  body := by decide
  fits := by decide
  rest := rfl

theorem posted_profile (c : Client) (ctrlNr : UInt32) :
    Posted .capiProfile (profileRequest c ctrlNr) [0] where
  headerLen := rfl
  bodyLen := rfl
  dataLen := rfl
  messageLen := rfl
  messageType := rfl
  body := by decide
  fits := by decide
  rest := rfl

theorem posted_register (c : Client) (size connections blocks length : UInt32) :
    Posted .capiRegister (registerRequest c size connections blocks length)
      (words [size, connections, blocks, length]) where
  headerLen := rfl
  bodyLen := rfl
  dataLen := by rw [length_words]; rfl
  messageLen := by rw [length_words]; rfl
  messageType := rfl
  body := by rw [length_words]; exact Nat.le_refl 16
  fits := by rw [length_words]; exact Nat.le_of_ble_eq_true rfl
  rest := Holds.write zeros 0 _

theorem posted_put (c : Client) (applID : UInt32) (m : Memory) (data1 : Nat)
    (fits : sizeofRequestHeader + 1 + (carried m data1 (isDataB3Req m data1)).length ≤ msgBuffer) :
    Posted .capiPutmessage (putMessageRequest c applID m data1)
      (0 :: carried m data1 (isDataB3Req m data1)) := by
  have total : sizeofRequestHeader + (0 :: carried m data1 (isDataB3Req m data1)).length =
      sizeofRequestHeader + 1 + (carried m data1 (isDataB3Req m data1)).length := by
    rw [List.length_cons]
    omega
  rw [putMessageRequest_eq]
  refine ⟨rfl, rfl, rfl, ?_, rfl, Nat.le_add_left 1 _, ?_, ?_⟩
  · rw [total]
    rfl
  · rw [total]
    exact fits
  · show Holds _ 0 ([0] ++ carried m data1 (isDataB3Req m data1))
    exact Holds.append_iff.mpr ⟨Holds.of_bytes fun i hi => by simp at hi; subst hi; rfl, Holds.write _ _ _⟩

theorem posted_helo (block : Memory) (msgId : UInt32) (myname : Memory) :
    Posted .proxyHelo (heloRequest block msgId myname)
      (myname.read 0 64 ++ words [osTypeWindows, heloVersion.major, heloVersion.minor]) where
  headerLen := rfl
  bodyLen := rfl
  dataLen := by rw [List.length_append, Memory.length_read, length_words]; rfl
  messageLen := by rw [List.length_append, Memory.length_read, length_words]; rfl
  messageType := rfl
  body := by rw [List.length_append, Memory.length_read, length_words]; exact Nat.le_refl 76
  fits := by
    rw [List.length_append, Memory.length_read, length_words]
    exact Nat.le_of_ble_eq_true rfl
  rest := Holds.write (fun i => block (sizeofRequestHeader + i)) 0 _

end CapiProxy.Integration
