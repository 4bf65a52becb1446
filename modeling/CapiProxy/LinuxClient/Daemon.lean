import CapiProxy.Bytes.Signed
import CapiProxy.Frames
import CapiProxy.LinuxModule.Header

/-! The state of the client daemon and the functions that talk to the server and to the kernel
module. Two global buffers serve everything: requests and messages for the module are composed
in one, answers and messages from the module are read into the other. Two arrays map the ids of
applications. -/
namespace CapiProxy.LinuxClient
open Bytes LinuxModule

def bufferSize : Nat := 10000

/-- What `init_module` collects for the module. -/
structure InitData where
  manufacturer : List UInt8
  version : List UInt8
  serial : List UInt8
  profile : List UInt8
  deriving DecidableEq, Repr

/-- `struct _c2p_init_data`, behind the length of its members. -/
def InitData.image (info : InitData) : List UInt8 :=
  bytes32 152 ++ (info.manufacturer ++ (info.version ++ (info.serial ++ info.profile)))

/-- The requests of `init_module`, in their order. -/
inductive Property where
  | manufacturer | version | serial | profile
  deriving DecidableEq, Repr

/-- What the daemon does once `wait_for_answer` returns. -/
inductive Operation where
  | fetch (property : Property)
  | register (appl : UInt16)
  | release (appl : UInt16)
  | put
  deriving DecidableEq, Repr

/-- The system call the daemon is in: the receive call that does not block, the read from the
module, or the receive call of `wait_for_answer`. -/
inductive Control where
  | poll
  | read
  | wait (op : Operation)
  | down
  deriving DecidableEq, Repr

/-- What the daemon has done. A packet is `handled` by `handle_serverpacket` or as the awaited
answer, after a receive call that stored `received`; `released` is a `local_release_appl` that
succeeded. -/
inductive Event where
  | handled (received : List UInt8) (buffer : Memory)
  | sent (head : RequestHeader) (frame : List UInt8)
  | written (message : List UInt8)
  | setData (info : InitData)
  | registered (appl remote : UInt16)
  | regfail (appl : UInt16)
  | released (appl : UInt16)

structure Daemon where
  control : Control
  sendbuffer : Memory
  recvbuffer : Memory
  msgid : UInt32
  sessionId : UInt32
  applmapRtl : List UInt16
  applmapLtr : List UInt16
  info : InitData
  log : List Event

/-- `CAPIMSG_U16` of the kernel's `capiutil.h`: the value of an expression of type `int`. The buffers are
arrays of `char`, which is signed on the daemon's machine. -/
def capimsgU16 (m : Memory) (off : Nat) : BitVec 32 := m.signed off ||| m.signed (off + 1) <<< 8

def capimsgU32 (m : Memory) (off : Nat) : BitVec 32 :=
  m.signed off ||| m.signed (off + 1) <<< 8 ||| m.signed (off + 2) <<< 16 ||| m.signed (off + 3) <<< 24

def capimsgAppid (m : Memory) : BitVec 32 := capimsgU16 m 2
def capimsgNcci (m : Memory) : BitVec 32 := capimsgU32 m 8

theorem capimsgU16_eq (m : Memory) (off : Nat) : capimsgU16 m off = m.signedWord off 2 := by
  simp [capimsgU16, Memory.signedWord]

theorem capimsgU32_eq (m : Memory) (off : Nat) : capimsgU32 m off = m.signedWord off 4 := by
  simp [capimsgU32, Memory.signedWord]

/-- A map of application ids, with the memory around the array: any number may come as an index. -/
abbrev Applmap := Int → UInt16

/-- The macros that read words of a message, whether a send call succeeds, by the number of events
before it, `CAPI_MAXAPPL`, which is an id of 16 bits, and what lies beside a map. -/
structure Environment where
  u16 : Memory → Nat → BitVec 32
  u32 : Memory → Nat → UInt32
  send : Nat → Bool
  maxAppl : Nat
  maxAppl_lt : maxAppl < 2 ^ 16
  beside : Nat → Applmap

/-- The macros as they are for characters. -/
structure Environment.ReadsChars (env : Environment) : Prop where
  u16 : ∀ m off, env.u16 m off = capimsgU16 m off
  u32 : ∀ m off, env.u32 m off = .ofBitVec (capimsgU32 m off)

namespace Environment

def sample : Environment where
  u16 := capimsgU16
  u32 m a := .ofBitVec (capimsgU32 m a)
  send _ := true
  maxAppl := 240
  maxAppl_lt := by decide
  beside _ _ := 0

theorem sample_reads : sample.ReadsChars := ⟨fun _ _ => rfl, fun _ _ => rfl⟩

/-- The id of the application in a message, in a variable of 16 bits. -/
def appid (env : Environment) (m : Memory) : UInt16 := .ofBitVec ((env.u16 m 2).setWidth 16)
def ncci (env : Environment) (m : Memory) : UInt32 := env.u32 m 8
def l3c (env : Environment) (m : Memory) : UInt32 := env.u32 m 6
def dbc (env : Environment) (m : Memory) : UInt32 := env.u32 m 10
def dbl (env : Environment) (m : Memory) : UInt32 := env.u32 m 14

end Environment

def capimsgCommand (m : Memory) : UInt8 := m 4
def capimsgSubcommand (m : Memory) : UInt8 := m 5
def capimsgSetappid (m : Memory) (appl : UInt16) : Memory := m.write 2 (littleEndian 2 appl.toNat)
def capimsgSetcontrol (m : Memory) (contr : UInt32) : Memory := m.write 8 (bytes32 contr)

namespace Daemon

def note (d : Daemon) (e : Event) : Daemon := { d with log := d.log ++ [e] }
def goto (d : Daemon) (control : Control) : Daemon := { d with control }
def storeSend (d : Daemon) (sendbuffer : Memory) : Daemon := { d with sendbuffer }
def storeRecv (d : Daemon) (recvbuffer : Memory) : Daemon := { d with recvbuffer }

/-- The element of a map at an `int`, or what lies there when the map has none. -/
def element (env : Environment) (d : Daemon) (map : List UInt16) : Applmap := fun index =>
  if 0 ≤ index then (map[index.toNat]?).getD (env.beside d.log.length index)
  else env.beside d.log.length index

/-- Enter an application in both maps. What is written where a map has no element is in none of them. -/
def enter (d : Daemon) (appl remote : UInt16) : Daemon :=
  { d with
    applmapRtl := d.applmapRtl.set remote.toNat appl
    applmapLtr := d.applmapLtr.set appl.toNat remote }

/-- The header of the last answer, when an answer is what was received last. -/
def aheader (d : Daemon) : AnswerHeader := .parse d.recvbuffer 0

/-- The header every request assigns, member by member. -/
def header (d : Daemon) (type : MessageType) (appl : UInt32) (dataLen : Nat) : RequestHeader where
  messageLen := .ofNat (sizeofRequestHeader + type.sizeofRequest .gnuC + dataLen)
  headerLen := .ofNat sizeofRequestHeader
  bodyLen := .ofNat (type.sizeofRequest .gnuC)
  dataLen := .ofNat dataLen
  messageId := d.msgid + 1
  messageType := type.code
  appId := appl
  controllerId := 1
  sessionId := d.sessionId

/-- A request takes the next message id and is put together in the send buffer. -/
def compose (d : Daemon) (head : RequestHeader) (rest : List UInt8) : Daemon :=
  { d with msgid := d.msgid + 1 }.storeSend
    ((d.sendbuffer.write 0 head.bytes).write sizeofRequestHeader rest)

def request (env : Environment) (type : MessageType) (appl : UInt32) (body data : List UInt8)
    (d : Daemon) : Daemon × Bool :=
  let head := d.header type appl data.length
  let composed := d.compose head (body ++ data)
  if env.send d.log.length then
    (composed.note (.sent head (composed.sendbuffer.read 0 head.messageLen.toNat)), true)
  else (composed, false)

def remoteWaitforsignal (env : Environment) (appl : UInt16) (d : Daemon) : Daemon × Bool :=
  d.request env .capiWaitforsignal appl.toUInt32 [] []

def remoteGetMessage (env : Environment) (appl : UInt16) (d : Daemon) : Daemon × Bool :=
  d.request env .capiGetmessage appl.toUInt32 [] []

def sendToModule (env : Environment) (d : Daemon) : Daemon :=
  let dataOffset := (d.aheader.headerLen + d.aheader.bodyLen).toUInt16
  let copied := d.sendbuffer.write 0
    (d.recvbuffer.read dataOffset.toNat d.aheader.dataLen.toNat)
  let sendbuffer := capimsgSetappid copied (d.element env d.applmapRtl (env.u16 copied 2).toInt)
  (d.storeSend sendbuffer).note (.written (sendbuffer.read 0 d.aheader.dataLen.toNat))

def handleServerpacket (env : Environment) (d : Daemon) : Daemon :=
  match MessageType.ofCode d.aheader.messageType with
  | some .capiWaitforsignal => (d.remoteGetMessage env d.aheader.appId.toUInt16).1
  | some .capiGetmessage => ((d.sendToModule env).remoteWaitforsignal env d.aheader.appId.toUInt16).1
  | _ => d

end Daemon

def Property.type : Property → MessageType
  | .manufacturer => .capiManufacturer
  | .version => .capiVersion
  | .serial => .capiSerial
  | .profile => .capiProfile

def Operation.awaits : Operation → MessageType
  | .fetch property => property.type
  | .register _ => .capiRegister
  | .release _ => .capiRelease
  | .put => .capiPutmessage

namespace Daemon

/-- The first half of an operation, up to `wait_for_answer`; without it the daemon goes on to
`next`. -/
def await (op : Operation) (next : Daemon → Daemon) : Daemon × Bool → Daemon
  | (d, true) => d.goto (.wait op)
  | (d, false) => (next d).goto .poll

/-- `init_module` gives up when a request cannot be sent. -/
def fetch (env : Environment) (property : Property) (d : Daemon) : Daemon :=
  await (.fetch property) id (d.request env property.type 0 [] [])

def remoteGetManufacturer (env : Environment) (d : Daemon) : Daemon := d.fetch env .manufacturer
def remoteGetVersion (env : Environment) (d : Daemon) : Daemon := d.fetch env .version
def remoteGetSerial (env : Environment) (d : Daemon) : Daemon := d.fetch env .serial
def remoteGetProfile (env : Environment) (d : Daemon) : Daemon := d.fetch env .profile

def localRegisterAppl (env : Environment) (appl : UInt16) (d : Daemon) : Daemon :=
  let maxLogicalConnection := env.l3c d.recvbuffer
  let body := words [1024 * maxLogicalConnection, maxLogicalConnection, env.dbc d.recvbuffer,
    env.dbl d.recvbuffer]
  await (.register appl) (note · (.regfail appl)) (d.request env .capiRegister 0 body [])

def localReleaseAppl (env : Environment) (appl : UInt16) (d : Daemon) : Daemon :=
  await (.release appl) id (d.request env .capiRelease appl.toUInt32 [] [])

/-- The application id and the controller are mapped in the receive buffer. The header has all 32 bits of
the `int` that is read there. -/
def sendToServer (env : Environment) (len : Nat) (d : Daemon) : Daemon :=
  let mapped := capimsgSetappid d.recvbuffer
    (d.element env d.applmapLtr (env.u16 d.recvbuffer 2).toInt)
  let recvbuffer := capimsgSetcontrol mapped ((env.ncci mapped &&& 0xFFFFFF80) + 1)
  await .put id
    ((d.storeRecv recvbuffer).request env .capiPutmessage (.ofBitVec (env.u16 recvbuffer 2)) []
      (recvbuffer.read 0 len))

def fromModule (env : Environment) (len : Nat) (d : Daemon) : Daemon :=
  let appl := env.appid d.recvbuffer
  if capimsgCommand d.recvbuffer = typeProxy then
    if capimsgSubcommand d.recvbuffer = typeRegisterApp then d.localRegisterAppl env appl
    else if capimsgSubcommand d.recvbuffer = typeReleaseApp then d.localReleaseAppl env appl
    else if capimsgSubcommand d.recvbuffer = typeShutdown then d.goto .down
    else d.goto .poll
  else d.sendToServer env len

/-- The bytes of the answer body go to the data for the module. -/
def collect (d : Daemon) (property : Property) : Daemon :=
  let body length := d.recvbuffer.read d.aheader.headerLen.toNat length
  { d with info :=
      match property with
      | .manufacturer => { d.info with manufacturer := body 64 }
      | .version => { d.info with version := body 16 }
      | .serial => { d.info with serial := body 8 }
      | .profile => { d.info with profile := body 64 } }

/-- The second half of an operation: `wait_for_answer` has returned, and whatever the receive
buffer holds is taken for the answer. -/
def finish (env : Environment) (op : Operation) (d : Daemon) : Daemon :=
  if d.aheader.proxyError ≠ perrorNone then
    match op with
    | .register appl => (d.note (.regfail appl)).goto .poll
    | _ => d.goto .poll
  else
    match op with
    | .fetch .manufacturer => (d.collect .manufacturer).remoteGetVersion env
    | .fetch .version => (d.collect .version).remoteGetSerial env
    | .fetch .serial => (d.collect .serial).remoteGetProfile env
    | .fetch .profile =>
      ((d.collect .profile).note (.setData (d.collect .profile).info)).goto .poll
    | .register appl =>
      let remote := d.aheader.appId.toUInt16
      let polled := (d.remoteWaitforsignal env remote).1
      ((polled.enter appl remote).note (.registered appl remote)).goto .poll
    | .release appl => (d.note (.released appl)).goto .poll
    | .put => d.goto .poll

end Daemon

inductive Result where
  | data (bytes : List UInt8) (nonempty : bytes ≠ []) (fits : bytes.length ≤ bufferSize)
  | closed
  | failed

def Result.stored : Result → List UInt8
  | .data bytes .. => bytes
  | _ => []

namespace Daemon

/-- A server packet of the last receive call is about to be handled. -/
def receive (d : Daemon) (r : Result) : Daemon :=
  let recvbuffer := d.recvbuffer.write 0 r.stored
  (d.storeRecv recvbuffer).note (.handled r.stored recvbuffer)

/-- The operation that a receive result completes without a proxy error. -/
def completes (d : Daemon) (r : Result) : Option Operation :=
  match d.control with
  | .wait op =>
    if (d.receive r).aheader.proxyError ≠ perrorNone then none
    else
      match r with
      | .data .. => if (d.receive r).aheader.messageType ≠ op.awaits.code then none else some op
      | _ => some op
  | _ => none

theorem completes_control {d : Daemon} (completes : d.completes r = some op) :
    d.control = .wait op := by
  unfold Daemon.completes at completes
  split at completes
  · next op' waits =>
    rw [waits]
    split at completes
    · cases completes
    · split at completes
      · split at completes
        · cases completes
        · exact congrArg Control.wait (Option.some.inj completes)
      · exact congrArg Control.wait (Option.some.inj completes)
  · cases completes

/-- From one system call of the daemon to the next. -/
def step (env : Environment) (d : Daemon) (r : Result) : Daemon :=
  match d.control, r with
  | .poll, .failed => d.goto .read
  -- a closed connection counts as a packet
  | .poll, r => ((d.receive r).handleServerpacket env).goto .read
  | .read, .data bytes .. =>
    (d.storeRecv (d.recvbuffer.write 0 bytes)).fromModule env bytes.length
  | .read, _ => d.goto .poll
  | .wait op, .data bytes nonempty fits =>
    let d := d.receive (.data bytes nonempty fits)
    if d.aheader.messageType ≠ op.awaits.code then d.handleServerpacket env else d.finish env op
  -- `wait_for_answer` returns, and its caller does not notice
  | .wait op, r => (d.receive r).finish env op
  | .down, _ => d

/-- The maps as they are when the program is loaded. -/
def cleared (env : Environment) : List UInt16 := .replicate (env.maxAppl + 1) 0

/-- The daemon after `init_socket`, when it starts to collect the data for the module. -/
def start (env : Environment) (sessionId msgid : UInt32) (sendbuffer recvbuffer : Memory)
    (info : InitData) : Daemon :=
  remoteGetManufacturer env
    ⟨.poll, sendbuffer, recvbuffer, msgid, sessionId, cleared env, cleared env, info, []⟩

def run (env : Environment) (d : Daemon) (results : List Result) : Daemon :=
  results.foldl (step env) d

theorem run_append (env : Environment) (d : Daemon) (results : List Result) (r : Result) :
    d.run env (results ++ [r]) = (d.run env results).step env r := by
  rw [run, List.foldl_append]
  rfl

end Daemon

def grant (type : MessageType) (messageId appId : UInt32) (body : List UInt8) : List UInt8 :=
  AnswerHeader.bytes ⟨.ofNat (sizeofAnswerHeader + body.length), .ofNat sizeofAnswerHeader,
    .ofNat body.length, 0, messageId, type.code, appId, 3, perrorNone, 0⟩ ++ body

def initialized : List Result := [
  .data (grant .capiManufacturer 1 0 (List.replicate 64 0)) (by decide) (by decide),
  .data (grant .capiVersion 2 0 (List.replicate 16 0)) (by decide) (by decide),
  .data (grant .capiSerial 3 0 (List.replicate 8 0)) (by decide) (by decide),
  .data (grant .capiProfile 4 0 (List.replicate 64 0)) (by decide) (by decide)]

def Daemon.sample : Daemon := .start .sample 3 0 zeros zeros ⟨[], [], [], []⟩

end CapiProxy.LinuxClient
