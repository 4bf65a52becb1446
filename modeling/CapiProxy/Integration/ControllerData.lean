import CapiProxy.LinuxClient.Polling
import CapiProxy.LinuxModule.Controller
import CapiProxy.LinuxServer.Main

/-! The data of the controller on their way from the remote CAPI to kernelcapi: through a handler
of the Linux server each, through the daemon, which collects them, and through `IOCTL_SET_DATA`.
The version answer names the manufacturer's version first, `struct capi_version` names it last. -/
namespace CapiProxy.Integration.ControllerData
open Bytes LinuxClient LinuxModule

/-- What the remote CAPI reports. None of its functions stores more than its buffer holds. -/
structure Report where
  manufacturer : List UInt8
  version : CapiVersion
  serial : List UInt8
  profile : List UInt8
  manufacturer_fits : manufacturer.length ≤ capiManufacturerLen
  serial_fits : serial.length ≤ capiSerialLen
  profile_fits : profile.length ≤ sizeofCapiProfile

/-- What each function stores; `capi20_get_version` stores the numbers in the order of the struct. -/
def Report.output (r : Report) : Property → List UInt8
  | .manufacturer => r.manufacturer
  | .version => words r.version.numbers
  | .serial => r.serial
  | .profile => r.profile

/-- What the remote CAPI reported has arrived, each of the four numbers in its own member. -/
structure Report.Reaches (r : Report) (ctrl : CapiCtr) : Prop where
  manufacturer : r.manufacturer <+: ctrl.manu
  version : ctrl.version = r.version
  serial : r.serial <+: ctrl.serial
  profile : r.profile <+: ctrl.profile

/-- The numbers of the version answer, in the order of its struct. -/
def answerNumbers (v : CapiVersion) : List UInt32 :=
  [v.majormanuversion, v.minormanuversion, v.majorversion, v.minorversion]

def handler : Property → LinuxServer.Handler
  | .manufacturer => LinuxServer.execCapiManufacturer
  | .version => LinuxServer.execCapiVersion
  | .serial => LinuxServer.execCapiSerial
  | .profile => LinuxServer.execCapiProfile

def query (request : RequestHeader) : Property → CapiCall
  | .manufacturer => .getManufacturer request.controllerId
  | .version => .getVersion request.controllerId
  | .serial => .getSerialNumber request.controllerId
  | .profile => .getProfile request.controllerId

/-- A handler that runs for some request in some session, with a CAPI that stores `output`. -/
structure Inquiry (property : Property) (output : List UInt8) where
  env : LinuxServer.Environment
  number : Nat
  session : LinuxServer.Session
  memory : Memory
  stores : (env.capi session.history (query (LinuxServer.request env memory) property)).output = output

def connected (env : LinuxClient.Environment) : LinuxClient.Environment :=
  { env with send := fun _ => true }

def store (info : InitData) (body : List UInt8) : Property → InitData
  | .manufacturer => { info with manufacturer := body }
  | .version => { info with version := body }
  | .serial => { info with serial := body }
  | .profile => { info with profile := body }

/-- The answer is taken for the property, whose size its body has. -/
structure Fits (property : Property) (a : Answer) : Prop where
  headerLen : a.head.headerLen.toNat = sizeofAnswerHeader
  proxyError : a.head.proxyError = perrorNone
  messageType : a.head.messageType = property.type.code
  size : a.rest.length = property.type.sizeofAnswer .gnuC

/-- The daemon has collected `info` and waits for one more property. -/
structure Collecting (property : Property) (info : InitData) (d : Daemon) : Prop where
  control : d.control = .wait (.fetch property)
  info : d.info = info

theorem fetch_collecting (env : LinuxClient.Environment) (property : Property) (d : Daemon) :
    Collecting property d.info (d.fetch (connected env) property) := ⟨rfl, rfl⟩

theorem collect_info (d : Daemon) (property : Property) :
    (d.collect property).info = store d.info
      (d.recvbuffer.read d.aheader.headerLen.toNat (property.type.sizeofAnswer .gnuC)) property := by
  cases property <;> rfl

theorem receive_collect {property : Property} {a : Answer} (d : Daemon) (fits : Fits property a) :
    ((d.receive a.result).collect property).info = store d.info a.rest property := by
  have holds : Holds (d.recvbuffer.write 0 a.bytes) 40 a.rest := by
    simpa only [Nat.zero_add, AnswerHeader.length_bytes] using
      (Holds.write d.recvbuffer 0 a.bytes).right
  have body : (d.receive a.result).recvbuffer.read 40 (property.type.sizeofAnswer .gnuC) = a.rest :=
    fits.size ▸ holds
  rw [collect_info, Daemon.receive_aheader, fits.headerLen, sizeofAnswerHeader, body]
  rfl

theorem step_finishes {property : Property} {a : Answer} {d : Daemon} (env : LinuxClient.Environment)
    (waits : d.control = .wait (.fetch property)) (fits : Fits property a) :
    d.step env a.result = (d.receive a.result).finish env (.fetch property) := by
  have type : ¬ (d.receive a.result).aheader.messageType ≠ (Operation.fetch property).awaits.code := by
    rw [Daemon.receive_aheader, fits.messageType]
    exact not_not.mpr rfl
  simp only [Daemon.step, waits, Answer.result]
  exact if_neg type

theorem finish_property {property : Property} {a : Answer} {d : Daemon} (env : LinuxClient.Environment)
    (waits : d.control = .wait (.fetch property)) (fits : Fits property a) :
    d.step env a.result =
      let collected := (d.receive a.result).collect property
      match property with
      | .manufacturer => collected.remoteGetVersion env
      | .version => collected.remoteGetSerial env
      | .serial => collected.remoteGetProfile env
      | .profile => (collected.note (.setData collected.info)).goto .poll := by
  have error : ¬ (d.receive a.result).aheader.proxyError ≠ perrorNone := by
    rw [Daemon.receive_aheader, fits.proxyError]
    exact not_not.mpr rfl
  rw [step_finishes env waits fits]
  cases property <;> simp only [Daemon.finish, if_neg error]

theorem step_collecting {property next : Property} {a : Answer} {d : Daemon} {info : InitData}
    (env : LinuxClient.Environment) (collecting : Collecting property info d) (fits : Fits property a)
    (asks : d.step (connected env) a.result =
      ((d.receive a.result).collect property).fetch (connected env) next) :
    Collecting next (store info a.rest property) (d.step (connected env) a.result) := by
  rw [asks, ← collecting.info, ← receive_collect d fits]
  exact fetch_collecting env next _

def results (a : Property → Answer) : List Result :=
  [(a .manufacturer).result, (a .version).result, (a .serial).result, (a .profile).result]

/-- After the four answers the daemon hands their bodies to the module. -/
theorem run_setData (env : LinuxClient.Environment) (sessionId msgid : UInt32)
    (sendbuffer recvbuffer : Memory) (info : InitData) (a : Property → Answer)
    (fits : ∀ property, Fits property (a property)) :
    ((Daemon.start (connected env) sessionId msgid sendbuffer recvbuffer info).run (connected env)
      (results a)).log.getLast? = some (.setData ⟨(a .manufacturer).rest, (a .version).rest,
        (a .serial).rest, (a .profile).rest⟩) := by
  have first : Collecting .manufacturer info
      (Daemon.start (connected env) sessionId msgid sendbuffer recvbuffer info) := ⟨rfl, rfl⟩
  have second := step_collecting env first (fits _) (finish_property _ first.control (fits _))
  have third := step_collecting env second (fits _) (finish_property _ second.control (fits _))
  have fourth := step_collecting env third (fits _) (finish_property _ third.control (fits _))
  have last := finish_property (connected env) fourth.control (fits .profile)
  rw [Daemon.run, results, List.foldl_cons, List.foldl_cons, List.foldl_cons, List.foldl_cons,
    List.foldl_nil, last]
  dsimp only
  rw [receive_collect _ (fits .profile), fourth.info]
  exact List.getLast?_concat

namespace Inquiry
variable {property : Property} {output : List UInt8}

def effect (i : Inquiry property output) : LinuxServer.Effect :=
  handler property i.env i.number i.session i.memory

def buffer (i : Inquiry property output) : AnswerBuffer := i.effect.answer.getD (.at zeros 0)

def answer (i : Inquiry property output) : Answer where
  head := i.buffer.head
  rest := i.buffer.rest.read 0 (property.type.sizeofAnswer .gnuC)
  fits := by
    rw [Memory.length_read]
    cases property <;> decide

theorem answer_sent (i : Inquiry property output) :
    i.effect.answer.map (·.frame) = some i.answer.bytes ∧ Fits property i.answer := by
  have whole (announced : i.buffer.head.messageLen.toNat =
      sizeofAnswerHeader + property.type.sizeofAnswer .gnuC) : i.buffer.frame = i.answer.bytes :=
    i.buffer.frame_whole announced
  cases property <;>
    exact ⟨congrArg some (whole rfl), rfl, rfl, rfl, Memory.length_read _ _ _⟩

theorem version_carries {reply : CapiReply} {v : CapiVersion} (rest stack : Memory)
    (stores : reply.output = words v.numbers) :
    let word i := (stack.write 0 reply.output).word32 (4 * i)
    (rest.write 0 (words [word 2, word 3, word 0, word 1])).read 0 16 = words (answerNumbers v) := by
  have number (j : Nat) (inside : j < v.numbers.length) :
      (stack.write 0 reply.output).word32 (4 * j) = v.numbers[j] := by
    have word := (Holds.write stack 0 (words v.numbers)).words inside
    rwa [Nat.zero_add, ← stores] at word
  have first := number 0 (by simp [CapiVersion.numbers])
  have second := number 1 (by simp [CapiVersion.numbers])
  have third := number 2 (by simp [CapiVersion.numbers])
  have fourth := number 3 (by simp [CapiVersion.numbers])
  intro word
  simp only [word, first, second, third, fourth]
  exact Memory.read_write rest 0 (words (answerNumbers v))

theorem fill_carries {reply : CapiReply} (rest : Memory) (n : Nat) (stores : reply.output = output)
    (fits : output.length ≤ n) : output <+: (rest.write 0 reply.output).read 0 n := by
  rw [stores]
  exact rest.prefix_read_write 0 n output fits

end Inquiry

/-- The body of the answer holds what the CAPI reported, the version in the order of its struct. -/
theorem answer_carries (r : Report) (i : ∀ property, Inquiry property (r.output property)) :
    r.manufacturer <+: (i .manufacturer).answer.rest ∧
      (i .version).answer.rest = words (answerNumbers r.version) ∧
      r.serial <+: (i .serial).answer.rest ∧ r.profile <+: (i .profile).answer.rest :=
  ⟨Inquiry.fill_carries _ _ (i .manufacturer).stores r.manufacturer_fits,
    Inquiry.version_carries _ _ (i .version).stores,
    Inquiry.fill_carries _ _ (i .serial).stores r.serial_fits,
    Inquiry.fill_carries _ _ (i .profile).stores r.profile_fits⟩

/-- A daemon that the handlers answer and that hands the data to the module, which reads them at
`temp` in the memory of the daemon. -/
structure Setup (r : Report) where
  inquiry : ∀ property, Inquiry property (r.output property)
  env : LinuxClient.Environment
  sessionId : UInt32
  msgid : UInt32
  sendbuffer : Memory
  recvbuffer : Memory
  info : InitData
  user : Memory
  temp : Nat

namespace Setup

def daemon (s : Setup r) : Daemon :=
  (Daemon.start (connected s.env) s.sessionId s.msgid s.sendbuffer s.recvbuffer s.info).run
    (connected s.env) (results fun property => (s.inquiry property).answer)

/-- What the daemon's last event does to the controller; `init_module` ends with the ioctl. -/
def applied (s : Setup r) (ctrl : CapiCtr) : Option LinuxClient.Event → CapiCtr
  | some (.setData info) => (setData (s.user.write s.temp info.image) s.temp).getD ctrl
  | _ => ctrl

def controller (s : Setup r) (ctrl : CapiCtr) : CapiCtr := s.applied ctrl s.daemon.log.getLast?

theorem controller_eq (s : Setup r) (ctrl : CapiCtr) :
    s.controller ctrl = ⟨(s.inquiry .manufacturer).answer.rest,
      ⟨r.version.majormanuversion, r.version.minormanuversion, r.version.majorversion,
        r.version.minorversion⟩,
      (s.inquiry .serial).answer.rest, (s.inquiry .profile).answer.rest⟩ := by
  have fits (property : Property) := (s.inquiry property).answer_sent.2
  have version := (answer_carries r s.inquiry).2.1
  have last : s.daemon.log.getLast? = some (.setData _) :=
    run_setData s.env s.sessionId s.msgid s.sendbuffer s.recvbuffer s.info
      (fun property => (s.inquiry property).answer) fits
  have numbers := CapiVersion.ofBytes_numbers ⟨r.version.majormanuversion,
    r.version.minormanuversion, r.version.majorversion, r.version.minorversion⟩
  rw [controller, last, applied]
  have taken := setData_members (Holds.write s.user s.temp _) (fits .manufacturer).size
    (fits .version).size (fits .serial).size (fits .profile).size
  refine (congrArg (Option.getD · ctrl) taken).trans ?_
  rw [version]
  exact congrArg (fun v => CapiCtr.mk _ v _ _) numbers

end Setup

theorem exchanged_same {v : CapiVersion} (major : v.majorversion = v.majormanuversion)
    (minor : v.minorversion = v.minormanuversion) :
    ⟨v.majormanuversion, v.minormanuversion, v.majorversion, v.minorversion⟩ = v := by
  rw [← major, ← minor]
  cases v
  cases major
  cases minor
  rfl

/-- What the remote CAPI reported reaches the controller unchanged exactly when its version and
the manufacturer's are the same. -/
theorem controller_data_iff (r : Report) (s : Setup r) (ctrl : CapiCtr) :
    r.Reaches (s.controller ctrl) ↔
      r.version.majorversion = r.version.majormanuversion ∧
        r.version.minorversion = r.version.minormanuversion := by
  obtain ⟨manufacturer, -, serial, profile⟩ := answer_carries r s.inquiry
  rw [s.controller_eq]
  constructor
  · intro reaches
    have version := reaches.version
    exact ⟨(congrArg CapiVersion.majorversion version).symm,
      (congrArg CapiVersion.minorversion version).symm⟩
  · rintro ⟨major, minor⟩
    exact ⟨manufacturer, exchanged_same major minor, serial, profile⟩

/-- A CAPI of version 2.0 with a driver of version 5.1. -/
def fritz : Report where
  manufacturer := .replicate 64 65
  version := ⟨2, 0, 5, 1⟩
  serial := .replicate 8 48
  profile := .replicate 64 0
  manufacturer_fits := by decide
  serial_fits := by decide
  profile_fits := by decide

def fritzInquiry (property : Property) : Inquiry property (fritz.output property) where
  env := { LinuxServer.Environment.loopback with
    capi := fun _ _ => ⟨0, none, 0, zeros, fritz.output property⟩ }
  number := 0
  session := LinuxServer.Connection.sample.session
  memory := zeros
  stores := rfl

def fritzSetup : Setup fritz where
  inquiry := fritzInquiry
  env := .sample
  sessionId := 3
  msgid := 0
  sendbuffer := zeros
  recvbuffer := zeros
  info := ⟨[], [], [], []⟩
  user := zeros
  temp := 0

/-- The kernel shows the driver version as that of the CAPI. -/
theorem fritz_not_reached :
    ¬ fritz.Reaches (fritzSetup.controller ⟨[], ⟨0, 0, 0, 0⟩, [], []⟩) := by
  intro reaches
  have version := reaches.version
  rw [fritzSetup.controller_eq] at version
  exact absurd version (by decide)

end CapiProxy.Integration.ControllerData
