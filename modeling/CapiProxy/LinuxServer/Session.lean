import CapiProxy.Applications
import CapiProxy.Messages

/-! The state of a connection of the Linux server and the handlers its switch dispatches to.
The handlers share one global answer buffer, so a member that one of them does not assign
still holds what an earlier answer left there. -/
namespace CapiProxy.LinuxServer
open Bytes

def packetSize : Nat := 10000

def localVersion : Version := ⟨1, 2⟩

def serverName : List UInt8 := "CAPI 2.0 Proxy Linux SERVER alpha".toUTF8.toList ++ [0]

theorem length_serverName : serverName.length = 34 := by decide +kernel

/-- What stays fixed during a connection: the CAPI, the local address of the socket in host
byte order, the outcome of the n-th `fork`, the stack contents at the n-th request, the session
id and the address of the packet buffer, which lies in the address space. `CAPI_MAXAPPL` comes
from a kernel header; the cells up to it are counted with an `int`. -/
structure Environment where
  capi : Capi
  getsockname : Option UInt32
  fork : Nat → Bool
  stack : Nat → Memory
  sessionID : UInt32
  inPacket : Nat
  inPacket_fits : inPacket + packetSize < 2 ^ 32
  maxAppl : Nat
  maxAppl_int : maxAppl < 2 ^ 31

structure ClientInfo where
  os : UInt32
  version : Version
  name : List UInt8
  messageBufferLen : UInt32

structure Session where
  registeredApps : Memory
  outPacket : AnswerBuffer
  clientInfo : ClientInfo
  history : List CapiEvent

structure ListenerData where
  appId : UInt32
  messageId : UInt32
  deriving DecidableEq, Repr

/-- The outcome of a handler: the session and the memory after it, the answer it sent and the
process it forked to wait for a signal. -/
structure Effect where
  session : Session
  memory : Memory
  answer : Option AnswerBuffer
  listener : Option ListenerData

def Session.call (s : Session) (env : Environment) (call : CapiCall) : CapiReply × Session :=
  let reply := env.capi s.history call
  (reply, { s with history := s.history ++ [(call, reply)] })

/-- A handler gets the number of the request, which selects its share of the environment. -/
abbrev Handler := Environment → Nat → Session → Memory → Effect

def request (env : Environment) (m : Memory) : RequestHeader := .parse m env.inPacket

def requestBody (env : Environment) (m : Memory) : Nat :=
  advance env.inPacket (request env m).headerLen

def requestData (env : Environment) (m : Memory) : Nat :=
  advance (requestBody env m) (request env m).bodyLen

/-- The header members every answer assigns alike. -/
def compose (type : MessageType) (env : Environment) (m : Memory) (head : AnswerHeader) :
    AnswerHeader :=
  { head with
    headerLen := .ofNat sizeofAnswerHeader
    bodyLen := .ofNat (type.sizeofAnswer .gnuC)
    dataLen := 0
    messageLen := .ofNat (sizeofAnswerHeader + type.sizeofAnswer .gnuC)
    messageId := (request env m).messageId
    messageType := type.code
    sessionId := env.sessionID
    proxyError := perrorNone }

def send (s : Session) (m : Memory) (answer : AnswerBuffer) : Effect :=
  ⟨{ s with outPacket := answer }, m, some answer, none⟩

def execCapiRegister : Handler := fun env _ s m =>
  let word i := m.word32 (requestBody env m + 4 * i)
  let (reply, called) := s.call env (.register none (word 1) (word 2) (word 3))
  let appId := reply.applID.getD s.outPacket.head.appId
  let registeredApps :=
    if reply.code = 0 then addApp appId called.registeredApps else called.registeredApps
  send { called with registeredApps, clientInfo.messageBufferLen := word 0 } m
    { s.outPacket with head :=
        { compose .capiRegister env m s.outPacket.head with appId, capiError := reply.code } }

def execCapiRelease : Handler := fun env _ s m =>
  let appId := (request env m).appId
  let (reply, called) := s.call env (.release appId)
  let registeredApps :=
    if reply.code = 0 then delApp appId called.registeredApps else called.registeredApps
  send { called with registeredApps } m
    { s.outPacket with head :=
        { compose .capiRelease env m s.outPacket.head with appId, capiError := reply.code } }

/-- The application id for the CAPI is read when the payload address has been stored. -/
def execCapiPutmessage : Handler := fun env _ s m =>
  let msg := advance (requestBody env m) (request env m).bodyLen
  let head := { compose .capiPutmessage env m s.outPacket.head with appId := (request env m).appId }
  match acceptPut m msg (request env m).dataLen with
  | none => send s m { s.outPacket with head := { head with proxyError := perrorParseError } }
  | some memory =>
    let (reply, called) := s.call env (.putMessage (request env memory).appId msg memory)
    send called memory { s.outPacket with head := { head with capiError := reply.code } }

def execCapiGetmessage : Handler := fun env _ s m =>
  let appId := (request env m).appId
  let (reply, called) := s.call env (.getMessage appId)
  let head := { compose .capiGetmessage env m s.outPacket.head with appId, capiError := reply.code }
  let answer := copyMessage (MessageType.capiGetmessage.sizeofAnswer .gnuC) reply
    { s.outPacket with head }
  send called m { answer with
    head.messageLen := answer.head.headerLen + answer.head.bodyLen + answer.head.dataLen }

/-- The forked process waits for the signal and answers; the parent only answers when there is
no such process. -/
def execCapiWaitforsignal : Handler := fun env n s m =>
  let request := request env m
  if env.fork n then ⟨s, m, none, some ⟨request.appId, request.messageId⟩⟩
  else
    send s m { s.outPacket with head := { compose .capiWaitforsignal env m s.outPacket.head with
      appId := request.appId, capiError := 0x1108, proxyError := perrorNoRessources } }

/-- The handlers that let one CAPI call fill the body; only some of them report its result. -/
def fillBody (type : MessageType) (reports : Bool) (call : RequestHeader → CapiCall) : Handler :=
  fun env _ s m =>
    let request := request env m
    let (reply, called) := s.call env (call request)
    let capiError := if reports then reply.code else 0
    send called m
      { head := { compose type env m s.outPacket.head with appId := request.appId, capiError },
        rest := s.outPacket.rest.write 0 reply.output }

def execCapiIsinstalled : Handler := fillBody .capiInstalled true fun _ => .installed

def execCapiManufacturer : Handler :=
  fillBody .capiManufacturer false fun request => .getManufacturer request.controllerId

def execCapiSerial : Handler :=
  fillBody .capiSerial false fun request => .getSerialNumber request.controllerId

def execCapiProfile : Handler :=
  fillBody .capiProfile true fun request => .getProfile request.controllerId

/-- The CAPI stores four numbers in a local array; the body takes the driver version from the
first two and the manufacturer version from the last two. -/
def execCapiVersion : Handler := fun env n s m =>
  let request := request env m
  let (reply, called) := s.call env (.getVersion request.controllerId)
  let buffer := (env.stack n).write 0 reply.output
  let word i := buffer.word32 (4 * i)
  send called m
    { head := { compose .capiVersion env m s.outPacket.head with
        appId := request.appId, capiError := 0 },
      rest := s.outPacket.rest.write 0 (words [word 2, word 3, word 0, word 1]) }

/-- `STD_AUTH_REQUIRED` only changes the error code of this answer. -/
def stdAuthRequired : Bool := true

def execProxyHelo : Handler := fun env _ s m =>
  let body := requestBody env m
  let clientInfo := { s.clientInfo with
    os := m.word32 (body + 64), version := ⟨m.word32 (body + 68), m.word32 (body + 72)⟩,
    name := m.string body }
  let rest := (s.outPacket.rest.write 0 serverName).write 64
    (words [osTypeLinux, localVersion.major, localVersion.minor, authNoAuth])
  send { s with clientInfo } m
    { head := { compose .proxyHelo env m s.outPacket.head with
        appId := 0, capiError := 0,
        proxyError := if stdAuthRequired then perrorAuthRequired else perrorNone },
      rest }

/-- No user name and password is ever accepted. -/
def upAuth : Int := -1

def ipAuth (env : Environment) : Int :=
  match env.getsockname with
  | none => -1
  | some address =>
    if address &&& 0xFFFF0000 = 0xC0A80000 ∨ address &&& 0xFF000000 = 0x0A000000 then 0 else -1

/-- The error code of an AUTH request for the methods in `authType`. -/
def checkAuth (env : Environment) (authType : UInt32) : UInt32 :=
  if authType &&& authUserpass ≠ 0 then
    if upAuth ≠ -1 then perrorNone else perrorAccessDenied
  else if authType &&& authByIp ≠ 0 then
    if ipAuth env ≠ -1 then perrorNone else perrorAccessDenied
  else perrorAuthTypeNotSupported

def execProxyAuth : Handler := fun env _ s m =>
  let proxyError := checkAuth env (m.word32 (requestBody env m))
  let head := { compose .proxyAuth env m s.outPacket.head with appId := 0, capiError := 0, proxyError }
  let sessionId := if stdAuthRequired && proxyError != perrorNone then 0 else env.sessionID
  send s (m.write (env.inPacket + 12) (bytes32 0))
    { s.outPacket with head := { head with sessionId } }

theorem execCapiPutmessage_accepted (n : Nat) (s : Session)
    (msg : advance (requestBody env m) (request env m).bodyLen = a)
    (accepted : acceptPut m a (request env m).dataLen = some memory) :
    (execCapiPutmessage env n s m).session.history = s.history ++
      [(.putMessage (request env memory).appId a memory,
        env.capi s.history (.putMessage (request env memory).appId a memory))] := by
  simp only [execCapiPutmessage, msg, accepted, send, Session.call]

end CapiProxy.LinuxServer
