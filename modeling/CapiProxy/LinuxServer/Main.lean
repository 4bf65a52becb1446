import CapiProxy.LinuxServer.Receive

/-! The dispatch switch of `main` and the connection it serves. Each packet handed to the
switch is logged with the handler that ran and the answer that was sent. -/
namespace CapiProxy.LinuxServer
open Bytes Streams

def handlerOf : MessageType → Option Handler
  | .capiRegister => some execCapiRegister
  | .capiRelease => some execCapiRelease
  | .capiPutmessage => some execCapiPutmessage
  | .capiGetmessage => some execCapiGetmessage
  | .capiWaitforsignal => some execCapiWaitforsignal
  | .capiManufacturer => some execCapiManufacturer
  | .capiVersion => some execCapiVersion
  | .capiSerial => some execCapiSerial
  | .capiProfile => some execCapiProfile
  | .capiInstalled => some execCapiIsinstalled
  | .proxyHelo => some execProxyHelo
  | .proxyAuth => some execProxyAuth
  | .proxyKeepalive | .proxyShutdown => none

/-- The handler the switch runs for the packet in `m`; the arms of the CAPI requests compare
the session id first. -/
def selected (env : Environment) (m : Memory) : Option (MessageType × Handler) :=
  match MessageType.ofCode (request env m).messageType with
  | none => none
  | some type =>
    if type.isCapi ∧ (request env m).sessionId ≠ env.sessionID then none
    else (handlerOf type).map fun handler => (type, handler)

structure Exchange where
  packet : Memory
  handler : Option MessageType
  answer : Option AnswerHeader

structure Connection where
  session : Session
  log : List Exchange

def dispatch (env : Environment) (c : Connection) (m : Memory) : Connection × Memory :=
  match selected env m with
  | none => (⟨c.session, c.log ++ [⟨m, none, none⟩]⟩, m)
  | some (type, handler) =>
    let effect := handler env c.log.length c.session m
    (⟨effect.session, c.log ++ [⟨m, some type, effect.answer.map (·.head)⟩]⟩, effect.memory)

/-- The session `main` starts with, where `list` and `outPacket` are what the globals held. -/
def Session.start (env : Environment) (list : Memory) (outPacket : AnswerBuffer)
    (clientInfo : ClientInfo) : Session :=
  ⟨clearApps env.maxAppl list, outPacket, clientInfo, []⟩

def Connection.start (env : Environment) (list : Memory) (outPacket : AnswerBuffer)
    (clientInfo : ClientInfo) : Connection := ⟨.start env list outPacket clientInfo, []⟩

def connection (env : Environment) (c : Connection) (m : Memory) (source : Source UInt8) :
    Served Connection := serve env.inPacket (dispatch env) c m source

/-- The third connection of a server whose socket is bound to the loopback address. -/
def Environment.loopback : Environment where
  capi := .firstFree 240
  getsockname := some 0x7F000001
  fork := fun _ => true
  stack := fun _ => zeros
  sessionID := 3
  inPacket := 0
  inPacket_fits := by decide
  maxAppl := 240
  maxAppl_int := by decide

def Connection.sample : Connection := .start .loopback zeros (.at zeros 0) ⟨0, ⟨0, 0⟩, [], 0⟩

theorem selected_some (h : selected env m = some (type, handler)) :
    MessageType.ofCode (request env m).messageType = some type ∧ handlerOf type = some handler ∧
      (type.isCapi = true → (request env m).sessionId = env.sessionID) := by
  unfold selected at h
  split at h
  · cases h
  · next t arm =>
    split at h
    · cases h
    · next allowed =>
      simp only [Option.map_eq_some_iff, Prod.mk.injEq] at h
      obtain ⟨_, found, rfl, rfl⟩ := h
      exact ⟨arm, found, fun capi => by simpa [capi] using allowed⟩

theorem handlerOf_answered (answered : type.isAnswered = true) :
    ∃ handler, handlerOf type = some handler := by
  apply Option.isSome_iff_exists.mp
  cases type <;> first | rfl | exact absurd answered Bool.false_ne_true

theorem selected_answered (arm : MessageType.ofCode (request env m).messageType = some type)
    (answered : type.isAnswered = true)
    (known : type.isCapi = true → (request env m).sessionId = env.sessionID) :
    ∃ handler, selected env m = some (type, handler) := by
  obtain ⟨handler, found⟩ := handlerOf_answered answered
  have allowed : ¬ (type.isCapi = true ∧ (request env m).sessionId ≠ env.sessionID) :=
    fun ⟨capi, other⟩ => other (known capi)
  exact ⟨handler, by simp only [selected, arm, if_neg allowed, found, Option.map_some]⟩

theorem selected_capi (arm : MessageType.ofCode (request env m).messageType = some type)
    (capi : type.isCapi = true) (known : (request env m).sessionId = env.sessionID) :
    ∃ handler, selected env m = some (type, handler) :=
  selected_answered arm (MessageType.isAnswered_of_isCapi capi) fun _ => known

theorem dispatch_none (h : selected env m = none) :
    dispatch env c m = (⟨c.session, c.log ++ [⟨m, none, none⟩]⟩, m) := by
  simp only [dispatch, h]

theorem dispatch_some (h : selected env m = some (type, handler)) :
    dispatch env c m =
      (⟨(handler env c.log.length c.session m).session, c.log ++ [⟨m, some type,
        (handler env c.log.length c.session m).answer.map (·.head)⟩]⟩,
        (handler env c.log.length c.session m).memory) := by
  simp only [dispatch, h]

end CapiProxy.LinuxServer
