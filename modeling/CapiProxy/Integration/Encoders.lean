import CapiProxy.Bytes.Pieces
import CapiProxy.LinuxServer.Main
import CapiProxy.Win32Client.PutMessage
import CapiProxy.Win32Server.StartSession

/-! The encoders that copy a CAPI message behind the header of a frame. Nothing but the lengths in the
message bounds what they copy into a buffer of fixed size. -/
namespace CapiProxy.Integration
open Bytes
open Win32Client (msgBuffer putMessageRequest)
open Win32Server (msgSize)
open LinuxServer (packetSize)

/-- What `CAPI_PUT_MESSAGE` copies behind the request header: the message and the payload of a data
message. -/
def putPieces (m : Memory) (data1 : Nat) : Pieces :=
  let rdata := MessageType.capiPutmessage.sizeofRequest .msvc
  let len1 := m.word16 data1
  (rdata, m.read data1 len1) ::
    if isDataB3Req m data1 then
      [(rdata + len1, m.read (m.word32 (data1 + 12)).toNat (m.word16 (data1 + 16)))]
    else []

/-- What `exec_capi_getmessage` copies behind the answer header when the call has succeeded. The
command, the address and the length of the payload are taken from the copy. -/
def getPieces (body : Nat) (reply : CapiReply) (rest : Memory) : Pieces :=
  let len1 := reply.memory.word16 reply.message
  let part := copiedPart body reply rest
  (body, reply.memory.read reply.message len1) ::
    if isDataB3Ind part body ∧ 18 ≤ len1 then
      [(body + len1, reply.memory.read (part.word32 (body + 12)).toNat (part.word16 (body + 16)))]
    else []

/-- An encoder writes these pieces behind its header. They stay in the `room` that is there exactly if
`fits`, and then what is behind the buffer stays as it was. -/
structure Encodes (room : Nat) (before after : Memory) (pieces : Pieces) (fits : Prop) : Prop where
  written : after = before.writeAll pieces
  within : Within room pieces ↔ fits
  behind : fits → ∀ q, room ≤ q → after q = before q

theorem Encodes.intro (written : after = before.writeAll pieces) (within : Within room pieces ↔ fits) :
    Encodes room before after pieces fits :=
  ⟨written, within, fun small q behind => by rw [written, before.writeAll_behind (within.mpr small) behind]⟩

theorem within_message (room start : Nat) (bytes payload : List UInt8) (data : Prop) [Decidable data] :
    Within room ((start, bytes) :: if data then [(start + bytes.length, payload)] else []) ↔
      start + bytes.length + (if data then payload.length else 0) ≤ room := by
  by_cases here : data
  · simp only [here, if_true, within_cons_iff, within_nil, and_true]
    omega
  · simp only [here, if_false, within_cons_iff, within_nil, and_true, Nat.add_zero]

def payloadLength (m : Memory) (msg : Nat) (data : Bool) : Nat := if data then m.word16 (msg + 16) else 0

theorem putPieces_within (m : Memory) (data1 : Nat) :
    Within (msgBuffer - sizeofRequestHeader) (putPieces m data1) ↔
      sizeofRequestHeader + 1 + m.word16 data1 + payloadLength m data1 (isDataB3Req m data1) ≤ msgBuffer := by
  have message := within_message (msgBuffer - sizeofRequestHeader) 1 (m.read data1 (m.word16 data1))
    (m.read (m.word32 (data1 + 12)).toNat (m.word16 (data1 + 16))) (isDataB3Req m data1 = true)
  simp only [Memory.length_read] at message
  simp only [putPieces, MessageType.sizeofRequest, Compiler.emptyStruct, message, payloadLength]
  simp only [msgBuffer, sizeofRequestHeader]
  omega

theorem getPieces_within (header size body : Nat) (reply : CapiReply) (rest : Memory) (room : header ≤ size) :
    Within (size - header) (getPieces body reply rest) ↔
      header + body + reply.memory.word16 reply.message +
        payloadLength reply.memory reply.message (isDataB3Ind reply.memory reply.message &&
          decide (18 ≤ reply.memory.word16 reply.message)) ≤ size := by
  have message := within_message (size - header) body
    (reply.memory.read reply.message (reply.memory.word16 reply.message))
    (reply.memory.read ((copiedPart body reply rest).word32 (body + 12)).toNat
      ((copiedPart body reply rest).word16 (body + 16)))
    (isDataB3Ind (copiedPart body reply rest) body = true ∧ 18 ≤ reply.memory.word16 reply.message)
  simp only [Memory.length_read] at message
  simp only [getPieces, message, payloadLength]
  by_cases fields : 18 ≤ reply.memory.word16 reply.message
  · have length2 := copiedPart_word16 body reply rest (show 16 + 2 ≤ _ by omega)
    have kind := copiedPart_isDataB3Ind body reply rest (by omega)
    simp only [kind, length2, fields, and_true, decide_true, Bool.and_true]
    omega
  · simp only [fields, and_false, if_false, decide_false, Bool.and_false, Bool.false_eq_true]
    omega

theorem putMessageRequest_rest (c : Win32Client.Client) (applID : UInt32) (m : Memory) (data1 : Nat) :
    (putMessageRequest c applID m data1).rest = zeros.writeAll (putPieces m data1) := by
  simp only [putMessageRequest, putPieces]
  cases isDataB3Req m data1 <;> rfl

theorem copyMessage_rest (body : Nat) (reply : CapiReply) (answer : AnswerBuffer)
    (success : answer.head.capiError = 0) :
    (copyMessage body reply answer).rest = answer.rest.writeAll (getPieces body reply answer.rest) := by
  simp only [getPieces]
  cases kind : isDataB3Ind (copiedPart body reply answer.rest) body with
  | false =>
    rw [copyMessage_plain success kind]
    simp only [Bool.false_eq_true, false_and, if_false]
    rfl
  | true =>
    rcases Nat.lt_or_ge (reply.memory.word16 reply.message) 18 with short | long
    · rw [copyMessage_reported success kind short]
      simp only [true_and, if_neg (Nat.not_le.mpr short)]
      rfl
    · rw [copyMessage_payload success kind long]
      simp only [true_and, if_pos long]
      rfl

/-- What `exec_capi_getmessage` makes of the reply: an answer that reports the error before anything is
copied, or one with the message. -/
structure Answers (size body : Nat) (reply : CapiReply) (before : Memory) (a : AnswerBuffer) : Prop where
  reported : a.head.capiError = reply.code
  failed : reply.code ≠ 0 → a.rest = before
  encoded : reply.code = 0 →
    Encodes (size - sizeofAnswerHeader) before a.rest (getPieces body reply before)
      (sizeofAnswerHeader + body + reply.memory.word16 reply.message +
        payloadLength reply.memory reply.message (isDataB3Ind reply.memory reply.message &&
          decide (18 ≤ reply.memory.word16 reply.message)) ≤ size)

theorem Answers.of_copy (size body : Nat) (reply : CapiReply) (answer a : AnswerBuffer)
    (room : sizeofAnswerHeader ≤ size) (code : answer.head.capiError = reply.code)
    (empty : answer.head.dataLen = 0) (rest : a.rest = (copyMessage body reply answer).rest)
    (head : a.head.capiError = (copyMessage body reply answer).head.capiError) :
    Answers size body reply answer.rest a where
  reported := by
    obtain ⟨dataLen, proxyError, -, same⟩ := copyMessage_head body reply answer empty
    rw [head, same, ← code]
  failed error := by rw [rest, copyMessage_failed (code ▸ error)]
  encoded success := .intro (rest.trans (copyMessage_rest body reply answer (code.trans success)))
    (getPieces_within sizeofAnswerHeader size body reply answer.rest room)

theorem win32_answers (env : Win32Server.Environment) (n : Nat) (p : Win32Server.Pointers)
    (s : Win32Server.State) : ∃ a, (Win32Server.execCapiGetmessage env n p s).answer = some a ∧
      Answers msgSize 1 (env.capi s.history (.getMessage (s.request p).appId))
        (AnswerBuffer.at (env.stack n) 0).rest a := by
  let reply := env.capi s.history (.getMessage (s.request p).appId)
  let prepared := Win32Server.prepare .capiGetmessage s p (.at (env.stack n) 0)
  let answer : AnswerBuffer := { prepared with head.capiError := reply.code }
  have copies := Answers.of_copy msgSize 1 reply answer (Win32Server.finish (copyMessage 1 reply answer))
    (by decide) rfl rfl rfl rfl
  exact ⟨_, rfl, copies⟩

theorem linux_answers (env : LinuxServer.Environment) (n : Nat) (s : LinuxServer.Session) (m : Memory) :
    ∃ a, (LinuxServer.execCapiGetmessage env n s m).answer = some a ∧
      Answers packetSize 0 (env.capi s.history (.getMessage (LinuxServer.request env m).appId))
        s.outPacket.rest a := by
  let reply := env.capi s.history (.getMessage (LinuxServer.request env m).appId)
  let head := { LinuxServer.compose .capiGetmessage env m s.outPacket.head with
    appId := (LinuxServer.request env m).appId, capiError := reply.code }
  let copied := copyMessage 0 reply { s.outPacket with head }
  let messageLen := copied.head.headerLen + copied.head.bodyLen + copied.head.dataLen
  have copies := Answers.of_copy packetSize 0 reply { s.outPacket with head }
    { copied with head.messageLen := messageLen } (by decide) rfl rfl rfl rfl
  exact ⟨_, rfl, copies⟩

/-- The three encoders stay in their buffers exactly when header, body, message and payload fit there,
or an error comes before the first copy. -/
theorem encoders_within_iff (client : Win32Client.Environment) (c : Win32Client.Client) (applID : UInt32)
    (message : Memory) (data1 : Nat) (env : Win32Server.Environment) (n : Nat) (p : Win32Server.Pointers)
    (s : Win32Server.State) (env' : LinuxServer.Environment) (n' : Nat) (s' : LinuxServer.Session)
    (m : Memory) :
    ((client.malloc = false →
        (Win32Client.capiPutMessage client c applID message data1).1 = Win32Client.exchangeError) ∧
      Encodes (msgBuffer - sizeofRequestHeader) zeros (putMessageRequest c applID message data1).rest
        (putPieces message data1)
        (sizeofRequestHeader + 1 + message.word16 data1 +
          payloadLength message data1 (isDataB3Req message data1) ≤ msgBuffer)) ∧
    (∃ a, (Win32Server.execCapiGetmessage env n p s).answer = some a ∧
      Answers msgSize 1 (env.capi s.history (.getMessage (s.request p).appId))
        (AnswerBuffer.at (env.stack n) 0).rest a) ∧
    ∃ a, (LinuxServer.execCapiGetmessage env' n' s' m).answer = some a ∧
      Answers packetSize 0 (env'.capi s'.history (.getMessage (LinuxServer.request env' m).appId))
        s'.outPacket.rest a := by
  refine ⟨⟨fun none => ?_, ?_⟩, ?_, ?_⟩
  · simp only [Win32Client.capiPutMessage, none, Bool.false_eq_true, not_false_eq_true, if_true]
  · exact .intro (putMessageRequest_rest c applID message data1) (putPieces_within message data1)
  · exact win32_answers env n p s
  · exact linux_answers env' n' s' m

/-- A data message of 18 bytes, to be put or as it is received, with a payload of 10000. -/
def bulky (command : UInt8) : Memory :=
  zeros.write 0 [18, 0, 1, 0, 0x86, command, 1, 0, 1, 1, 1, 0, 0, 0, 0, 0, 0x10, 0x27]

def bulkyCapi : Capi := fun _ _ => ⟨0, none, 0, bulky 0x82, []⟩

def win32Bulky : Win32Server.Environment := { Win32Server.Environment.sample with capi := bulkyCapi }
def linuxBulky : LinuxServer.Environment := { LinuxServer.Environment.loopback with capi := bulkyCapi }

/-- All three encoders copy the bulky message behind the end of the buffer. -/
theorem bulky_overruns :
    ((putMessageRequest ⟨0x10000, 0, []⟩ 1 (bulky 0x80) 0).rest = zeros.writeAll (putPieces (bulky 0x80) 0) ∧
      ¬ Within (msgBuffer - sizeofRequestHeader) (putPieces (bulky 0x80) 0)) ∧
    (∃ a, (Win32Server.execCapiGetmessage win32Bulky 0 ⟨0, 36, 37⟩
        Win32Server.Connection.sample.state).answer = some a ∧
      ∃ pieces, a.rest = (AnswerBuffer.at (win32Bulky.stack 0) 0).rest.writeAll pieces ∧
        pieces = getPieces 1 ⟨0, none, 0, bulky 0x82, []⟩ (AnswerBuffer.at (win32Bulky.stack 0) 0).rest ∧
        ¬ Within (msgSize - sizeofAnswerHeader) pieces) ∧
    ∃ a, (LinuxServer.execCapiGetmessage linuxBulky 0 LinuxServer.Connection.sample.session zeros).answer =
        some a ∧
      ∃ pieces, a.rest = LinuxServer.Connection.sample.session.outPacket.rest.writeAll pieces ∧
        pieces = getPieces 0 ⟨0, none, 0, bulky 0x82, []⟩ LinuxServer.Connection.sample.session.outPacket.rest ∧
        ¬ Within (packetSize - sizeofAnswerHeader) pieces := by
  refine ⟨⟨putMessageRequest_rest _ 1 (bulky 0x80) 0, fun within => ?_⟩, ?_, ?_⟩
  · exact absurd ((putPieces_within _ _).mp within) (by decide)
  · obtain ⟨a, sent, answers⟩ := win32_answers win32Bulky 0 ⟨0, 36, 37⟩ Win32Server.Connection.sample.state
    have encoded := answers.encoded rfl
    exact ⟨a, sent, _, encoded.written, rfl, fun within => absurd (encoded.within.mp within) (by decide)⟩
  · obtain ⟨a, sent, answers⟩ := linux_answers linuxBulky 0 LinuxServer.Connection.sample.session zeros
    have encoded := answers.encoded rfl
    exact ⟨a, sent, _, encoded.written, rfl, fun within => absurd (encoded.within.mp within) (by decide)⟩

end CapiProxy.Integration
