import CapiProxy.Win32Client.Session

/-! `CAPI_PUT_MESSAGE` of the client: the message and, for a data message, its payload are
copied behind the request header. -/
namespace CapiProxy.Win32Client
open Bytes

def putMessageRequest (c : Client) (applID : UInt32) (m : Memory) (data1 : Nat) : RequestBuffer :=
  let request := prepare .capiPutmessage c applID
  let rdata := MessageType.capiPutmessage.sizeofRequest .msvc
  let len1 := m.word16 data1
  let rest := request.rest.write rdata (m.read data1 len1)
  let dataLen := request.head.dataLen + .ofNat len1
  let messageLen len2 := UInt32.ofNat (sizeofRequestHeader + rdata + len1 + len2)
  if isDataB3Req m data1 then
    let len2 := m.word16 (data1 + 16)
    let pointer := m.word32 (data1 + 12)
    { head := { request.head with
        dataLen := dataLen + .ofNat len2, messageLen := messageLen len2 },
      rest := rest.write (rdata + len1) (m.read pointer.toNat len2) }
  else { head := { request.head with dataLen, messageLen := messageLen 0 }, rest }

/-- The result for the application; the request takes the next message id. -/
def capiPutMessage (env : Environment) (c : Client) (applID : UInt32) (m : Memory)
    (pCAPIMessage : Nat) : UInt32 × Client :=
  if ¬ env.malloc then (exchangeError, c)
  else
    let sent := { c with msgId := c.msgId + 1 }
    match env.sendAndReceive sent.msgId (putMessageRequest c applID m pCAPIMessage).frame with
    | none => (exchangeError, sent)
    | some answer =>
      let aheader := AnswerHeader.parse answer 0
      if ¬ verifyMessage answer MessageType.capiPutmessage.code then (exchangeError, sent)
      else if aheader.proxyError ≠ perrorNone then (exchangeError, sent)
      else (aheader.capiError, sent)

/-- The header the request of a message with `length` carried bytes gets. -/
def putHeader (c : Client) (applID : UInt32) (length : Nat) : RequestHeader where
  messageLen := .ofNat (sizeofRequestHeader + 1 + length)
  headerLen := .ofNat sizeofRequestHeader
  bodyLen := 1
  dataLen := .ofNat length
  messageId := c.msgId + 1
  messageType := MessageType.capiPutmessage.code
  appId := applID
  controllerId := 0
  sessionId := c.sessionId

theorem putMessageRequest_eq (c : Client) (applID : UInt32) (m : Memory) (data1 : Nat) :
    putMessageRequest c applID m data1 =
      ⟨putHeader c applID (carried m data1 (isDataB3Req m data1)).length,
        zeros.write 1 (carried m data1 (isDataB3Req m data1))⟩ := by
  have controller : (RequestHeader.parse zeros 0).controllerId = 0 := by decide
  simp only [putMessageRequest, prepare, controller, MessageType.sizeofRequest, Compiler.emptyStruct,
    UInt32.zero_add]
  cases data : isDataB3Req m data1 with
  | false => simp [putHeader, carried]
  | true =>
    rw [if_pos rfl, length_carried, if_pos rfl, putHeader, carried, if_pos rfl, payload,
      Memory.write_append, Memory.length_read]
    simp only [← UInt32.ofNat_add, Nat.add_assoc]
    rfl

/-- The frame of a message: the header, the byte of the empty body and the carried bytes. -/
theorem putMessage_frame (c : Client) (applID : UInt32) (m : Memory) (data1 : Nat)
    (fits : sizeofRequestHeader + 1 + (carried m data1 (isDataB3Req m data1)).length ≤ msgBuffer) :
    (putMessageRequest c applID m data1).frame =
      (putHeader c applID (carried m data1 (isDataB3Req m data1)).length).bytes ++
        0 :: carried m data1 (isDataB3Req m data1) := by
  rw [putMessageRequest_eq]
  apply RequestBuffer.frame_eq
  · show Holds _ 0 ([0] ++ carried m data1 (isDataB3Req m data1))
    rw [Holds.append_iff]
    exact ⟨Holds.of_bytes fun i hi => by simp at hi; subst hi; rfl, Holds.write _ _ _⟩
  · simp only [putHeader, sizeofRequestHeader, msgBuffer, List.length_cons, UInt32.toNat_ofNat'] at fits ⊢
    omega

end CapiProxy.Win32Client
