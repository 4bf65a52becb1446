import CapiProxy.LinuxServer.Framing
import CapiProxy.Traces.Throughout

/-! The authentication gate of the Linux server. The only thing that keeps a request from its
CAPI handler is the session id, so the gate is as good as what the answers tell about it: an
AUTH answer withholds the id from a client it rejects, and a HELO answer discloses it. -/
namespace CapiProxy.LinuxServer
open Bytes Streams Traces

/-- The request in `packet` is a CAPI request that carries the session id. -/
def carriesId (env : Environment) (packet : Memory) : Prop :=
  ∃ type, MessageType.ofCode (request env packet).messageType = some type ∧ type.isCapi = true ∧
    (request env packet).sessionId = env.sessionID

/-- The request in `packet` asks for authentication by address, from a private network. -/
def authorises (env : Environment) (packet : Memory) : Prop :=
  let authType := packet.word32 (requestBody env packet)
  MessageType.ofCode (request env packet).messageType = some .proxyAuth ∧
    authType &&& authUserpass = 0 ∧ authType &&& authByIp ≠ 0 ∧ ipAuth env ≠ -1

namespace Exchange

def ranCapi (e : Exchange) : Prop := ∃ type, e.handler = some type ∧ type.isCapi = true

def acceptedAuth (e : Exchange) : Prop :=
  e.handler = some .proxyAuth ∧ ∃ answer, e.answer = some answer ∧ answer.proxyError = perrorNone

/-- What the log says about a packet follows from the packet. -/
structure Logged (env : Environment) (e : Exchange) : Prop where
  handler : e.handler = (selected env e.packet).map Prod.fst
  auth : e.handler = some .proxyAuth → ∃ answer, e.answer = some answer ∧
    answer.proxyError = checkAuth env (e.packet.word32 (requestBody env e.packet))

end Exchange

theorem checkAuth_none : checkAuth env authType = perrorNone ↔
    authType &&& authUserpass = 0 ∧ authType &&& authByIp ≠ 0 ∧ ipAuth env ≠ -1 := by
  unfold checkAuth
  split
  · next asked => simp [asked, upAuth, perrorAccessDenied, perrorNone]
  · next noPassword =>
    simp only [ne_eq, not_not] at noPassword
    split
    · next byIp =>
      split
      · next accepted => simp [noPassword, byIp, accepted]
      · next rejected => simp [rejected, perrorAccessDenied, perrorNone]
    · next unsupported => simp [unsupported, perrorAuthTypeNotSupported, perrorNone]

theorem dispatch_logs (env : Environment) (c : Connection) (m : Memory)
    (before : ∀ e ∈ c.log, e.Logged env) : ∀ e ∈ (dispatch env c m).1.log, e.Logged env := by
  intro e member
  cases run : selected env m with
  | none =>
    simp only [dispatch_none run, List.mem_append, List.mem_singleton] at member
    rcases member with earlier | rfl
    · exact before e earlier
    · exact ⟨by simp [run], by simp⟩
  | some arm =>
    obtain ⟨type, handler⟩ := arm
    simp only [dispatch_some run, List.mem_append, List.mem_singleton] at member
    rcases member with earlier | rfl
    · exact before e earlier
    · refine ⟨by simp [run], fun auth => ?_⟩
      obtain rfl := Option.some.inj auth
      obtain rfl := Option.some.inj (selected_some run).2.1
      exact ⟨_, rfl, rfl⟩

theorem connection_logs (env : Environment) (c : Connection) (m : Memory) (source : Source UInt8)
    (start : c.log = []) : ∀ e ∈ (connection env c m source).state.log, e.Logged env :=
  serve_invariant _ _ _ _ (P := fun (c : Connection) => ∀ e ∈ c.log, e.Logged env) (dispatch_logs env)
    (by simp [start])

namespace Exchange.Logged

theorem ranCapi_iff (logged : Logged env e) : e.ranCapi ↔ carriesId env e.packet := by
  constructor
  · rintro ⟨type, ran, capi⟩
    rw [logged.handler, Option.map_eq_some_iff] at ran
    obtain ⟨⟨type', handler⟩, run, rfl⟩ := ran
    obtain ⟨arm, -, allowed⟩ := selected_some run
    exact ⟨type', arm, capi, allowed capi⟩
  · rintro ⟨type, arm, capi, known⟩
    obtain ⟨handler, run⟩ := selected_capi arm capi known
    exact ⟨type, by rw [logged.handler, run, Option.map_some], capi⟩

theorem acceptedAuth_iff (logged : Logged env e) : e.acceptedAuth ↔ authorises env e.packet := by
  have selects : e.handler = some .proxyAuth ↔
      MessageType.ofCode (request env e.packet).messageType = some .proxyAuth := by
    rw [logged.handler, Option.map_eq_some_iff]
    constructor
    · rintro ⟨⟨_, handler⟩, run, rfl⟩
      exact (selected_some run).1
    · intro arm
      exact ⟨(.proxyAuth, execProxyAuth), by simp [selected, arm, MessageType.isCapi, handlerOf], rfl⟩
  simp only [Exchange.acceptedAuth, authorises, ← selects, ← checkAuth_none]
  refine and_congr_right fun auth => ?_
  obtain ⟨answer, sent, error⟩ := logged.auth auth
  rw [← error]
  constructor
  · rintro ⟨answer', sent', accepted⟩
    rwa [Option.some.inj (sent.symm.trans sent')]
  · exact fun accepted => ⟨answer, sent, accepted⟩

end Exchange.Logged

/-- The gate holds on a connection exactly when no CAPI request carries the session id before
an AUTH request from a private network. -/
theorem authentication_gate_iff (env : Environment) (list : Memory) (outPacket : AnswerBuffer)
    (clientInfo : ClientInfo) (m : Memory) (source : Source UInt8) :
    let log := (connection env (.start env list outPacket clientInfo) m source).state.log
    Precedes Exchange.acceptedAuth Exchange.ranCapi log ↔
      Precedes (authorises env) (carriesId env) (log.map (·.packet)) := by
  intro log
  have logged := connection_logs env (.start env list outPacket clientInfo) m source rfl
  exact precedes_map_iff (fun e member => (logged e member).acceptedAuth_iff)
    fun e member => (logged e member).ranCapi_iff

def heloRequest : RequestFrame where
  toFrame := RequestHeader.frame ⟨112, 36, 76, 0, 1, MessageType.proxyHelo.code, 0, 0, 0⟩
    (List.replicate 64 0 ++ words [osTypeLinux, 1, 2]) (by decide)
  fits := by decide

def heloThenRegister : Source UInt8 :=
  .ofSegments [heloRequest.bytes, registerRequest.bytes] (by decide)

theorem selected_heloRequest (m : Memory) :
    selected .loopback (m.write 0 heloRequest.bytes) = some (.proxyHelo, execProxyHelo) := by
  simp only [selected, request, heloRequest, Environment.loopback, RequestHeader.parse_frame]
  rfl

theorem selected_registerRequest (m : Memory) :
    selected .loopback (m.write 0 registerRequest.bytes) = some (.capiRegister, execCapiRegister) := by
  simp only [selected, request, registerRequest, Environment.loopback, RequestHeader.parse_frame]
  rfl

/-- A client that sends HELO, reads the id 3 from the answer and registers with it gets past
the gate without any authentication. -/
theorem helo_then_register :
    ¬ Precedes Exchange.acceptedAuth Exchange.ranCapi
      (connection .loopback .sample zeros heloThenRegister).state.log := by
  have arrives : heloThenRegister.content = requests [heloRequest, registerRequest] := rfl
  have state := (serve_all 0 (dispatch .loopback) .sample zeros _ (by decide) arrives).2.1
  simp only [List.foldl_cons, List.foldl_nil, handOver, dispatch_some (selected_heloRequest _),
    dispatch_some (selected_registerRequest _)] at state
  intro gate
  have served : (connection .loopback .sample zeros heloThenRegister).state = _ := state
  rw [served] at gate
  obtain ⟨e, member, accepted⟩ := gate [_] _ [] rfl ⟨.capiRegister, rfl, rfl⟩
  obtain rfl := List.mem_singleton.mp member
  cases accepted.1

end CapiProxy.LinuxServer
