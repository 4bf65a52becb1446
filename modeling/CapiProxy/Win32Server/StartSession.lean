import CapiProxy.Streams.Chunks
import CapiProxy.Win32Server.Session

/-! The session thread of the Win32 server. Every receive call is taken to deliver one whole
request: it is stored at the start of the request buffer, checked and dispatched. Each receive
result is logged with the state the buffer was examined in. -/
namespace CapiProxy.Win32Server
open Bytes Streams

def verifyRequest (m : Memory) (msg : Nat) : Bool :=
  let header := RequestHeader.parse m msg
  let type := header.messageType
  if header.headerLen < .ofNat sizeofRequestHeader then false
  else if header.bodyLen < .ofInt (rbodysize type) then false
  else if .ofNat msgSize < header.messageLen then false
  else if header.headerLen + header.bodyLen + header.dataLen ≠ header.messageLen then false
  else if header.messageType ≠ type then false
  else true

def verifySessionId (m : Memory) (msg : Nat) (session : UInt32) : Bool :=
  (RequestHeader.parse m msg).sessionId == session

def handlerOf : MessageType → Option Handler
  | .capiRegister => some execCapiRegister
  | .capiRelease => some execCapiRelease
  | .capiPutmessage => some execCapiPutmessage
  | .capiGetmessage => some execCapiGetmessage
  | .capiWaitforsignal => some execCapiWaitforsignal
  | .capiManufacturer => some execCapiManufacturer
  | .capiVersion => some execCapiVersion
  | .capiSerial => some execCapiSerial
  | .capiProfile => some execCapiProfile
  | .capiInstalled => some execCapiInstalled
  | .proxyHelo => some execProxyHelo
  | .proxyKeepalive => some execProxyKeepalive
  | .proxyAuth => some execProxyAuth
  | .proxyShutdown => none

/-- Every arm of the switch but the one for HELO checks the session id. -/
def checksSession : MessageType → Bool
  | .proxyHelo => false
  | _ => true

def header (env : Environment) (m : Memory) : RequestHeader := .parse m env.requestBuffer

def selected (env : Environment) (m : Memory) : Option (MessageType × Handler) :=
  if verifyRequest m env.requestBuffer then
    match MessageType.ofCode (header env m).messageType with
    | none => none
    | some type =>
      if checksSession type ∧ ¬ verifySessionId m env.requestBuffer env.session then none
      else (handlerOf type).map fun handler => (type, handler)
  else none

def pointers (env : Environment) (m : Memory) : Pointers where
  rheader := env.requestBuffer
  rbody := advance env.requestBuffer (header env m).headerLen
  rdata := advance (advance env.requestBuffer (header env m).headerLen) (header env m).bodyLen

structure Exchange where
  received : List UInt8
  state : State
  handler : Option MessageType
  answer : Option AnswerHeader

structure Connection where
  state : State
  log : List Exchange

def State.receive (s : State) (env : Environment) (bytes : List UInt8) : State :=
  { s with memory := s.memory.write env.requestBuffer bytes }

def process (env : Environment) (n : Nat) (s : State) : Option MessageType × Effect :=
  match selected env s.memory with
  | none => (none, .idle s)
  | some (type, handler) => (some type, handler env n (pointers env s.memory) s)

def WaiterData.answer (stack : Memory) (w : WaiterData) (capiError : UInt32) : AnswerBuffer :=
  let answer := AnswerBuffer.at stack 0
  finish { answer with head := { answer.head with
    headerLen := .ofNat sizeofAnswerHeader
    bodyLen := .ofNat (MessageType.capiWaitforsignal.sizeofAnswer .msvc)
    dataLen := 0
    messageType := MessageType.capiWaitforsignal.code
    messageId := w.messageId
    sessionId := w.sessionId
    proxyError := perrorNone
    capiError } }

/-- The answer to what lies in the request buffer, from the handler or from the waiter it has
started. -/
def answerTo (env : Environment) (n : Nat) (stack : Memory) (s : State) : Option AnswerBuffer :=
  let effect := (process env n s).2
  match effect.waiter with
  | none => effect.answer
  | some w => some (w.answer stack (env.capi effect.state.history (.waitForSignal w.applID)).code)

/-- One pass through the loop after a successful receive call. -/
def Connection.handle (env : Environment) (c : Connection) (bytes : List UInt8) : Connection :=
  let s := c.state.receive env bytes
  let (handler, effect) := process env c.log.length s
  ⟨effect.state, c.log ++ [⟨bytes, s, handler, effect.answer.map (·.head)⟩]⟩

/-- `client_data` as `StartSession` sets it up; `list` is what the array held before. -/
def ClientData.start (env : Environment) (name : List UInt8) (list : Memory) : ClientData where
  authType := authNoAuth
  name := name
  version := none
  session := env.session
  os := none
  registeredApps := clearApps capiMaxappl list

/-- A session before its first request, with the calls other sessions have made already. -/
def Connection.start (env : Environment) (name : List UInt8) (list memory : Memory)
    (history : List CapiEvent) : Connection :=
  ⟨⟨.start env name list, memory, history⟩, []⟩

/-- A session of a server that asks for no authentication. -/
def Environment.sample : Environment where
  capi := .firstFree capiMaxappl
  session := 0x10000
  requestBuffer := 0
  requestBuffer_fits := by decide
  authTypes := authNoAuth
  authRequired := 0
  registry := ⟨none, none, none⟩
  winsock := ⟨none, fun _ => 0⟩
  createThread := fun _ => true
  stack := fun _ => zeros

def Connection.sample : Connection := .start .sample [] zeros zeros []

def startSession (env : Environment) (c : Connection) (source : Source UInt8) : Connection :=
  if _ : (source.recv msgSize).ret ≤ 0 then
    { c with state := c.state.receive env (source.recv msgSize).stored }
  else startSession env (c.handle env (source.recv msgSize).stored) (source.recv msgSize).rest
termination_by source.content.length
decreasing_by exact source.recv_shrinks msgSize (by assumption)

theorem startSession_eq (env : Environment) (c : Connection) (source : Source UInt8) :
    startSession env c source = (source.chunks msgSize).foldl (·.handle env ·) c := by
  fun_induction startSession env c source with
  | case1 c source ended =>
    have empty := (source.recv_ends msgSize (by decide)).mp ended
    have taken := source.recv_content msgSize (by decide)
    rw [empty] at taken
    rw [(List.append_eq_nil_iff.mp taken.symm).1, Source.chunks_ended ended, State.receive,
      Memory.write_nil]
    rfl
  | case2 c source got ih => rw [ih, Source.chunks_continues got, List.foldl_cons]

theorem selected_some (h : selected env m = some (type, handler)) :
    verifyRequest m env.requestBuffer = true ∧
    MessageType.ofCode (header env m).messageType = some type ∧ handlerOf type = some handler ∧
      (checksSession type = true → verifySessionId m env.requestBuffer env.session = true) := by
  unfold selected at h
  split at h
  · next verified =>
    split at h
    · cases h
    · next t arm =>
      split at h
      · cases h
      · next allowed =>
        simp only [Option.map_eq_some_iff, Prod.mk.injEq] at h
        obtain ⟨_, found, rfl, rfl⟩ := h
        exact ⟨verified, arm, found, fun checked => by simpa [checked] using allowed⟩
  · cases h

/-- A verified request whose arm has a handler is only refused for its session id. -/
theorem selected_of_arm (verified : verifyRequest m env.requestBuffer = true)
    (arm : MessageType.ofCode (header env m).messageType = some type)
    (found : handlerOf type = some handler)
    (known : checksSession type = true → verifySessionId m env.requestBuffer env.session = true) :
    selected env m = some (type, handler) := by
  have allowed : ¬ (checksSession type = true ∧
      ¬ verifySessionId m env.requestBuffer env.session = true) :=
    fun ⟨checked, unknown⟩ => unknown (known checked)
  simp only [selected, verified, if_true, arm, if_neg allowed, found, Option.map_some]

theorem handlerOf_capi (capi : type.isCapi = true) :
    checksSession type = true ∧ ∃ handler, handlerOf type = some handler := by
  rw [← Option.isSome_iff_exists]
  cases type <;> first | exact ⟨rfl, rfl⟩ | exact absurd capi Bool.false_ne_true

theorem handle_none {c : Connection} (run : selected env (c.state.receive env bytes).memory = none) :
    c.handle env bytes = ⟨c.state.receive env bytes,
      c.log ++ [⟨bytes, c.state.receive env bytes, none, none⟩]⟩ := by
  simp only [Connection.handle, process, run, Effect.idle, Option.map_none]

theorem handle_some {c : Connection}
    (run : selected env (c.state.receive env bytes).memory = some (type, handler)) :
    let s := c.state.receive env bytes
    let effect := handler env c.log.length (pointers env s.memory) s
    c.handle env bytes = ⟨effect.state, c.log ++ [⟨bytes, s, some type, effect.answer.map (·.head)⟩]⟩ := by
  simp only [Connection.handle, process, run]

theorem handle_log (env : Environment) (c : Connection) (bytes : List UInt8) :
    ∃ e, (c.handle env bytes).log = c.log ++ [e] ∧ e.received = bytes ∧
      e.state = c.state.receive env bytes := ⟨_, rfl, rfl, rfl⟩

theorem startSession_invariant {P : Connection → Prop} (env : Environment) (source : Source UInt8)
    (step : ∀ c bytes, P c → P (c.handle env bytes)) (start : P c) : P (startSession env c source) := by
  rw [startSession_eq]
  induction source.chunks msgSize generalizing c with
  | nil => exact start
  | cons bytes later ih => exact ih (step c bytes start)

theorem verifyRequest_iff : verifyRequest m msg = true ↔
    let header := RequestHeader.parse m msg
    sizeofRequestHeader ≤ header.headerLen.toNat ∧
      ¬ header.bodyLen < .ofInt (rbodysize header.messageType) ∧
      header.messageLen.toNat ≤ msgSize ∧
      header.headerLen + header.bodyLen + header.dataLen = header.messageLen := by
  have small : (UInt32.ofNat sizeofRequestHeader).toNat = sizeofRequestHeader := rfl
  have large : (UInt32.ofNat msgSize).toNat = msgSize := rfl
  simp only [verifyRequest, UInt32.lt_iff_toNat_lt, small, large]
  by_cases short : (RequestHeader.parse m msg).headerLen.toNat < sizeofRequestHeader
  · simp [short, Nat.not_le.mpr short]
  · simp [short, Nat.le_of_not_lt short]

theorem verifyRequest_congr (same : RequestHeader.parse m msg = RequestHeader.parse m' msg') :
    verifyRequest m msg = verifyRequest m' msg' := by
  simp only [verifyRequest, same]

end CapiProxy.Win32Server
