import CapiProxy.Applications
import CapiProxy.Messages
import CapiProxy.Win32Server.Authentication

/-! The state of a Win32 server session and the handlers `StartSession` dispatches to. A
handler gets the pointers into the request buffer, reads and writes memory through them, and
builds its answer in an uninitialised local buffer. -/
namespace CapiProxy.Win32Server
open Bytes

def msgSize : Nat := 10000
def capiMaxappl : Nat := 128

def serverVersion : Version := ⟨1, 3⟩
def timeout : UInt32 := 0xFFFFFFFF

def serverName : List UInt8 := "CAPI 2.0 Proxy Win32 Server".toUTF8.toList ++ [0]

/-- The globals a session reads and the outside world: the local CAPI, the session id, the
address of the request buffer in the address space, the registry, winsock, the outcome of the
thread creation and the stack contents at the n-th request. -/
structure Environment where
  capi : Capi
  session : UInt32
  requestBuffer : Nat
  requestBuffer_fits : requestBuffer + msgSize < 2 ^ 32
  authTypes : UInt32
  authRequired : UInt32
  registry : Registry
  winsock : Winsock
  createThread : Nat → Bool
  stack : Nat → Memory

/-- `client_data`; `version` and `os` are unset until a HELO assigns them. -/
structure ClientData where
  authType : UInt32
  name : List UInt8
  version : Option Version
  session : UInt32
  os : Option UInt32
  registeredApps : Memory

structure WaiterData where
  applID : UInt32
  messageId : UInt32
  sessionId : UInt32
  deriving DecidableEq, Repr

structure Pointers where
  rheader : Nat
  rbody : Nat
  rdata : Nat

/-- What a session can change: its client data, the request buffer and the CAPI it shares
with the other sessions. -/
structure State where
  client : ClientData
  memory : Memory
  history : List CapiEvent

/-- The outcome of a handler: the new state, the answer it sends and the waiter it starts. -/
structure Effect where
  state : State
  answer : Option AnswerBuffer
  waiter : Option WaiterData

def Effect.idle (s : State) : Effect := ⟨s, none, none⟩

def State.call (s : State) (env : Environment) (call : CapiCall) : CapiReply × State :=
  let reply := env.capi s.history call
  (reply, { s with history := s.history ++ [(call, reply)] })

def State.request (s : State) (p : Pointers) : RequestHeader := .parse s.memory p.rheader

/-- A handler gets the number of the request, which selects its share of the environment. -/
abbrev Handler := Environment → Nat → Pointers → State → Effect

/-- The header members every handler assigns first. -/
def prepare (type : MessageType) (s : State) (p : Pointers) (answer : AnswerBuffer) :
    AnswerBuffer :=
  { answer with head := { answer.head with
      headerLen := .ofNat sizeofAnswerHeader
      bodyLen := .ofNat (type.sizeofAnswer .msvc)
      dataLen := 0
      messageType := type.code
      messageId := (s.request p).messageId
      sessionId := s.client.session
      proxyError := perrorNone } }

def finish (answer : AnswerBuffer) : AnswerBuffer :=
  { answer with head.messageLen := answer.head.headerLen + answer.head.bodyLen + answer.head.dataLen }

def answerWith (s : State) (answer : AnswerBuffer) : Effect := ⟨s, some (finish answer), none⟩

def execCapiRegister : Handler := fun env n p s =>
  let answer := prepare .capiRegister s p (.at (env.stack n) 0)
  let word i := s.memory.word32 (p.rbody + 4 * i)
  let (reply, called) := s.call env (.register (some (word 0)) (word 1) (word 2) (word 3))
  let appId := reply.applID.getD answer.head.appId
  let answer := { answer with head := { answer.head with appId, capiError := reply.code } }
  let registeredApps :=
    if reply.code = 0 then addApp appId called.client.registeredApps
    else called.client.registeredApps
  answerWith { called with client.registeredApps := registeredApps } answer

def execCapiRelease : Handler := fun env n p s =>
  let answer := prepare .capiRelease s p (.at (env.stack n) 0)
  let applID := (s.request p).appId
  let (reply, called) := s.call env (.release applID)
  let answer := { answer with head.capiError := reply.code }
  let registeredApps :=
    if reply.code = 0 then delApp applID called.client.registeredApps
    else called.client.registeredApps
  answerWith { called with client.registeredApps := registeredApps } answer

/-- The application id is read when the payload address has been stored. -/
def execCapiPutmessage : Handler := fun env n p s =>
  let answer := prepare .capiPutmessage s p (.at (env.stack n) 0)
  match acceptPut s.memory p.rdata (s.request p).dataLen with
  | none => answerWith s { answer with head.proxyError := perrorParseError }
  | some memory =>
    let s := { s with memory }
    let (reply, called) := s.call env (.putMessage (s.request p).appId p.rdata memory)
    answerWith called { answer with head.capiError := reply.code }

def execCapiGetmessage : Handler := fun env n p s =>
  let answer := prepare .capiGetmessage s p (.at (env.stack n) 0)
  let (reply, called) := s.call env (.getMessage (s.request p).appId)
  answerWith called (copyMessage (MessageType.capiGetmessage.sizeofAnswer .msvc) reply
    { answer with head.capiError := reply.code })

/-- The waiter thread calls the CAPI and sends the answer later; only when it cannot be
started does the handler answer itself. -/
def execCapiWaitforsignal : Handler := fun env n p s =>
  let request := s.request p
  if env.createThread n then ⟨s, none, some ⟨request.appId, request.messageId, s.client.session⟩⟩
  else
    let answer := prepare .capiWaitforsignal s p (.at (env.stack n) 0)
    answerWith s { answer with head.proxyError := perrorNoRessources }

/-- The handlers that let one CAPI call fill the body. -/
def fillBody (type : MessageType) (call : RequestHeader → CapiCall) : Handler := fun env n p s =>
  let answer := prepare type s p (.at (env.stack n) 0)
  let (reply, called) := s.call env (call (s.request p))
  answerWith called
    { head := { answer.head with capiError := reply.code }, rest := answer.rest.write 0 reply.output }

def execCapiManufacturer : Handler := fillBody .capiManufacturer fun _ => .getManufacturer 0

def execCapiSerial : Handler := fillBody .capiSerial fun _ => .getSerialNumber 0

def execCapiProfile : Handler :=
  fillBody .capiProfile fun request => .getProfile request.controllerId

def execCapiInstalled : Handler := fillBody .capiInstalled fun _ => .installed

/-- The CAPI stores four numbers in a local array; the body takes the driver version from the
first two and the manufacturer version from the last two. -/
def execCapiVersion : Handler := fun env n p s =>
  let answer := prepare .capiVersion s p (.at (env.stack n) 0)
  let (reply, called) := s.call env (.getVersion 0)
  let versions := (env.stack n).write msgSize reply.output
  let word i := versions.word32 (msgSize + 4 * i)
  answerWith called
    { head := { answer.head with capiError := reply.code },
      rest := answer.rest.write 0 (words [word 2, word 3, word 0, word 1]) }

def execProxyHelo : Handler := fun env n p s =>
  let answer := prepare .proxyHelo s p (.at (env.stack n) 0)
  let version : Version := ⟨s.memory.word32 (p.rbody + 68), s.memory.word32 (p.rbody + 72)⟩
  let client := { s.client with name := s.memory.read p.rbody 63 ++ [0], version := some version }
  let rest := ((answer.rest.write 76 (bytes32 env.authTypes)).write 0 serverName).write 64
    (words [osTypeWindows, serverVersion.major, serverVersion.minor])
  let rest := rest.write 80 (bytes32 timeout)
  if version.major < serverVersion.major then
    answerWith { s with client }
      ⟨{ answer.head with sessionId := 0, appId := 0, proxyError := perrorIncompatibleVersion }, rest⟩
  else
    answerWith { s with client := { client with os := some (s.memory.word32 (p.rbody + 64)) } }
      ⟨{ answer.head with appId := 0 }, rest⟩

/-- `exec_proxy_auth` holds its lengths in variables of type `int`. -/
def TooLong (length : Nat) : Prop := 255 < length ∧ length < 2 ^ 31

instance : DecidablePred TooLong := fun _ => inferInstanceAs (Decidable (_ ∧ _))

/-- The strings `exec_proxy_auth` finds in the data region, with the memory after it has
terminated them; `none` when one of them is too long for its buffer. -/
def credentials (m : Memory) (p : Pointers) : Memory × Option (List UInt8 × List UInt8) :=
  let dataLen := (RequestHeader.parse m p.rheader).dataLen
  if 1 < dataLen.toNat then
    let m := m.write ((p.rdata + dataLen.toNat) % 2 ^ 32) [0]
    let user := m.cyclic.string p.rdata
    -- the length is read again, from a header that the terminator may lie in
    let rest := (RequestHeader.parse m p.rheader).dataLen - .ofNat user.length
    if TooLong user.length ∨ TooLong rest.toNat then (m, none)
    else (m, some (user, m.cyclic.string (p.rdata + user.length + 1)))
  else (m, some ([], []))

/-- Not yet implemented. -/
def execProxyKeepalive : Handler := fun _ _ _ s => .idle s

def execProxyAuth : Handler := fun env n p s =>
  let answer := prepare .proxyAuth s p (.at (env.stack n) 0)
  let rejected (error : UInt32) (s : State) :=
    answerWith s { answer with head.proxyError := error }
  let accepted (type : UInt32) (s : State) :=
    answerWith { s with client.authType := type } { answer with head.proxyError := perrorNone }
  let s := { s with client.authType := authNoAuth }
  let authType := s.memory.word32 p.rbody
  if authType = authByIp then
    if env.authTypes &&& authByIp ≠ 0 then
      if tryAuthByip env.registry env.winsock ≠ -1 then accepted authByIp s
      else rejected perrorAccessDenied s
    else rejected perrorAuthTypeNotSupported s
  else if authType = authUserpass then
    if env.authTypes &&& authUserpass ≠ 0 then
      let (memory, found) := credentials s.memory p
      match found with
      | none => .idle { s with memory }
      | some (user, pass) =>
        if tryAuthUserpass env.registry user pass ≠ -1 then accepted authUserpass { s with memory }
        else rejected perrorAccessDenied { s with memory }
    else rejected perrorAuthTypeNotSupported s
  else if authType = authNoAuth then
    if env.authRequired = 0 then accepted authNoAuth s
    else rejected perrorAccessDenied s
  else rejected perrorAuthTypeNotSupported s

theorem execCapiPutmessage_accepted (env : Environment) (n : Nat)
    (accepted : acceptPut s.memory p.rdata (s.request p).dataLen = some memory) :
    (execCapiPutmessage env n p s).state.history = s.history ++
      [(.putMessage ({ s with memory }.request p).appId p.rdata memory,
        env.capi s.history (.putMessage ({ s with memory }.request p).appId p.rdata memory))] := by
  simp only [execCapiPutmessage, accepted, answerWith, State.call]

end CapiProxy.Win32Server
