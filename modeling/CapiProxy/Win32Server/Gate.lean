import CapiProxy.Traces.Throughout
import CapiProxy.Win32Server.Framing

/-! The admission gate of the Win32 server. HELO and AUTH leave their verdict in the client
data, which no CAPI arm of the switch looks at; so the gate holds in a run exactly when the
client only sends CAPI requests while its client data would admit it. -/
namespace CapiProxy.Win32Server
open Bytes Streams Traces

theorem execProxyHelo_spec (env : Environment) (n : Nat) (p : Pointers) (s : State) :
    (execProxyHelo env n p s).state.client.authType = s.client.authType ∧
    ∃ version answer, (execProxyHelo env n p s).state.client.version = some version ∧
      (execProxyHelo env n p s).answer = some answer ∧
      (answer.head.proxyError = perrorIncompatibleVersion ↔
        version.major < serverVersion.major) := by
  simp only [execProxyHelo]
  split
  · next old => exact ⟨rfl, _, _, rfl, rfl, iff_of_true rfl old⟩
  · next new =>
    refine ⟨rfl, _, _, rfl, rfl, iff_of_false ?_ new⟩
    simp only [finish, prepare, perrorNone, perrorIncompatibleVersion]
    decide

private theorem refused_iff {s : State} {answer : AnswerBuffer} (error : answer.head.proxyError ≠ perrorNone)
    (type : s.client.authType = authNoAuth) {P : Prop} :
    (answerWith s answer).state.client.authType ≠ authNoAuth ↔
      ∃ sent, (answerWith s answer).answer = some sent ∧ sent.head.proxyError = perrorNone ∧ P := by
  refine iff_of_false (not_not.mpr type) ?_
  rintro ⟨sent, same, accepted, -⟩
  obtain rfl := Option.some.inj same
  exact error accepted

private theorem accepted_iff {s : State} {answer : AnswerBuffer} (error : answer.head.proxyError = perrorNone)
    (type : s.client.authType ≠ authNoAuth) {P : Prop} (enabled : P) :
    (answerWith s answer).state.client.authType ≠ authNoAuth ↔
      ∃ sent, (answerWith s answer).answer = some sent ∧ sent.head.proxyError = perrorNone ∧ P :=
  iff_of_true type ⟨_, rfl, error, enabled⟩

theorem execProxyAuth_spec (env : Environment) (n : Nat) (p : Pointers) (s : State) :
    (execProxyAuth env n p s).state.client.version = s.client.version ∧
    (env.authRequired ≠ 0 →
      ((execProxyAuth env n p s).state.client.authType ≠ authNoAuth ↔
        ∃ answer, (execProxyAuth env n p s).answer = some answer ∧
          answer.head.proxyError = perrorNone ∧
          env.authTypes &&& s.memory.word32 p.rbody ≠ 0)) := by
  have denied : perrorAccessDenied ≠ perrorNone := by decide
  have unsupported : perrorAuthTypeNotSupported ≠ perrorNone := by decide
  have byIpType : authByIp ≠ authNoAuth := by decide
  have userpassType : authUserpass ≠ authNoAuth := by decide
  simp only [execProxyAuth]
  split
  · next byIp =>
    rw [byIp]
    split
    · next enabled =>
      split
      · exact ⟨rfl, fun _ => accepted_iff rfl byIpType enabled⟩
      · exact ⟨rfl, fun _ => refused_iff denied rfl⟩
    · exact ⟨rfl, fun _ => refused_iff unsupported rfl⟩
  · split
    · next userpass =>
      rw [userpass]
      split
      · next enabled =>
        split
        · exact ⟨rfl, fun _ => iff_of_false (not_not.mpr rfl) (by rintro ⟨_, ⟨⟩, _⟩)⟩
        · split
          · exact ⟨rfl, fun _ => accepted_iff rfl userpassType enabled⟩
          · exact ⟨rfl, fun _ => refused_iff denied rfl⟩
      · exact ⟨rfl, fun _ => refused_iff unsupported rfl⟩
    · split
      · split
        · next optional => exact ⟨rfl, fun required => absurd optional required⟩
        · exact ⟨rfl, fun _ => refused_iff denied rfl⟩
      · exact ⟨rfl, fun _ => refused_iff unsupported rfl⟩

theorem handler_verdicts (found : handlerOf type = some handler) (notHelo : type ≠ .proxyHelo)
    (notAuth : type ≠ .proxyAuth) (env : Environment) (n : Nat) (p : Pointers) (s : State) :
    (handler env n p s).state.client.version = s.client.version ∧
    (handler env n p s).state.client.authType = s.client.authType := by
  cases type <;> first | exact absurd rfl notHelo | exact absurd rfl notAuth | cases found; done |
    obtain rfl := Option.some.inj found
  case capiPutmessage =>
    simp only [execCapiPutmessage]
    split <;> exact ⟨rfl, rfl⟩
  case capiWaitforsignal =>
    simp only [execCapiWaitforsignal]
    split <;> exact ⟨rfl, rfl⟩
  all_goals exact ⟨rfl, rfl⟩

namespace Exchange

def ranCapi (e : Exchange) : Prop := ∃ type, e.handler = some type ∧ type.isCapi = true

def ranHelo (e : Exchange) : Bool := e.handler == some .proxyHelo

def isAuth (env : Environment) (e : Exchange) : Bool :=
  e.processed env && (header env e.state.memory).messageType == MessageType.proxyAuth.code

def rejectedHelo (e : Exchange) : Prop :=
  ∃ answer, e.answer = some answer ∧ answer.proxyError = perrorIncompatibleVersion

/-- An AUTH request that was accepted with a method enabled in `AUTH_TYPES`. -/
def acceptedAuth (env : Environment) (e : Exchange) : Prop :=
  ∃ answer, e.answer = some answer ∧ answer.proxyError = perrorNone ∧
    env.authTypes &&& e.state.memory.word32 (pointers env e.state.memory).rbody ≠ 0

def admissible (env : Environment) (e : Exchange) : Prop :=
  e.processed env ∧ verifySessionId e.state.memory env.requestBuffer env.session ∧
    ∃ type, MessageType.ofCode (header env e.state.memory).messageType = some type ∧
      type.isCapi = true

end Exchange

/-- What the gate is for: no CAPI handler runs after a HELO of an incompatible client, and,
when authentication is required, none runs unless the latest AUTH request was accepted. -/
def GateHolds (env : Environment) : List Exchange → Prop :=
  Throughout fun before e => e.ranCapi →
    (∀ helo, latest (·.ranHelo) before = some helo → ¬ helo.rejectedHelo) ∧
    (env.authRequired ≠ 0 →
      ∃ auth, latest (·.isAuth env) before = some auth ∧ auth.acceptedAuth env)

/-- The client sends CAPI requests only while its client data admits it: a version that is not
too old, and with authentication required, a type from its latest AUTH request, which must
have carried the session id. -/
def ClientWaits (env : Environment) : List Exchange → Prop :=
  Throughout fun before e => e.admissible env →
    (∀ version, e.state.client.version = some version → ¬ version.major < serverVersion.major) ∧
    (env.authRequired ≠ 0 → e.state.client.authType ≠ authNoAuth ∧
      ∀ auth, latest (·.isAuth env) before = some auth →
        verifySessionId auth.state.memory env.requestBuffer env.session)

/-- The client data carries the verdicts of the requests in the log. -/
structure Verdicts (env : Environment) (log : List Exchange) (client : ClientData) : Prop where
  helo : (∀ version, client.version = some version → ¬ version.major < serverVersion.major) ↔
    ∀ helo, latest (·.ranHelo) log = some helo → ¬ helo.rejectedHelo
  auth : env.authRequired ≠ 0 →
    ((client.authType ≠ authNoAuth ∧ ∀ auth, latest (·.isAuth env) log = some auth →
        verifySessionId auth.state.memory env.requestBuffer env.session) ↔
      ∃ auth, latest (·.isAuth env) log = some auth ∧ auth.acceptedAuth env)

theorem Verdicts.start (env : Environment) (name : List UInt8) (list : Memory) :
    Verdicts env [] (.start env name list) where
  helo := iff_of_true (by rintro _ ⟨⟩) (by rintro _ ⟨⟩)
  auth _ := iff_of_false (fun ⟨type, _⟩ => type rfl) (by rintro ⟨_, ⟨⟩, _⟩)

theorem messageType_iff : (c == MessageType.code t) = true ↔ MessageType.ofCode c = some t := by
  rw [beq_iff_eq]
  constructor
  · rintro rfl
    exact MessageType.ofCode_code t
  · intro arm
    exact (MessageType.code_of_ofCode arm).symm

theorem Exchange.isAuth_iff {env : Environment} {e : Exchange} : e.isAuth env = true ↔
    e.processed env = true ∧
      MessageType.ofCode (header env e.state.memory).messageType = some .proxyAuth := by
  rw [Exchange.isAuth, Bool.and_eq_true, messageType_iff]

theorem ranCapi_iff {e : Exchange} (ran : e.handler = (selected env e.state.memory).map Prod.fst) :
    e.ranCapi ↔ e.admissible env := by
  constructor
  · rintro ⟨type, handled, capi⟩
    rw [ran, Option.map_eq_some_iff] at handled
    obtain ⟨⟨_, handler⟩, run, rfl⟩ := handled
    obtain ⟨verified, arm, -, checked⟩ := selected_some run
    exact ⟨verified, checked (handlerOf_capi capi).1, _, arm, capi⟩
  · rintro ⟨verified, known, type, arm, capi⟩
    obtain ⟨-, handler, found⟩ := handlerOf_capi capi
    exact ⟨type, by rw [ran, selected_of_arm verified arm found fun _ => known, Option.map_some], capi⟩

theorem Verdicts.append (before : Verdicts env log client) (e : Exchange)
    (kept : e.ranHelo = false → client'.version = client.version)
    (decided : e.ranHelo = true →
      ((∀ version, client'.version = some version → ¬ version.major < serverVersion.major) ↔
        ¬ e.rejectedHelo))
    (kept' : e.isAuth env = false → client'.authType = client.authType)
    (decided' : e.isAuth env = true → env.authRequired ≠ 0 →
      ((client'.authType ≠ authNoAuth ∧
        verifySessionId e.state.memory env.requestBuffer env.session = true) ↔ e.acceptedAuth env)) :
    Verdicts env (log ++ [e]) client' where
  helo := by
    rw [latest_append]
    cases ran : e.ranHelo with
    | false =>
      rw [kept ran]
      exact before.helo
    | true =>
      rw [decided ran]
      simp
  auth required := by
    rw [latest_append]
    cases isAuth : e.isAuth env with
    | false =>
      rw [kept' isAuth]
      exact before.auth required
    | true =>
      simpa using decided' isAuth required

theorem Verdicts.handle (env : Environment) (c : Connection) (bytes : List UInt8)
    (before : Verdicts env c.log c.state.client) :
    Verdicts env (c.handle env bytes).log (c.handle env bytes).state.client := by
  cases run : selected env (c.state.receive env bytes).memory with
  | none =>
    rw [handle_none run]
    refine before.append _ (fun _ => rfl) (fun ran => by cases ran) (fun _ => rfl) fun isAuth _ => ?_
    obtain ⟨verified, arm⟩ := Exchange.isAuth_iff.mp isAuth
    refine iff_of_false (fun ⟨_, known⟩ => ?_) (by rintro ⟨_, ⟨⟩, _⟩)
    rw [selected_of_arm verified arm rfl fun _ => known] at run
    cases run
  | some arm =>
    obtain ⟨type, handler⟩ := arm
    obtain ⟨verified, arm, found, checked⟩ := selected_some run
    rw [handle_some run]
    have isAuth (answer : Option AnswerHeader) :
        Exchange.isAuth env ⟨bytes, c.state.receive env bytes, some type, answer⟩ = true ↔
          type = .proxyAuth := by
      rw [Exchange.isAuth_iff]
      dsimp only
      rw [arm]
      exact ⟨fun ⟨_, same⟩ => Option.some.inj same, fun same => ⟨verified, congrArg some same⟩⟩
    -- what the handler did is known by its specification only
    generalize effect : handler env c.log.length (pointers env (c.state.receive env bytes).memory)
      (c.state.receive env bytes) = e
    by_cases helo : type = .proxyHelo
    · subst helo
      obtain rfl := Option.some.inj found
      obtain ⟨sameType, version, answer, assigned, sent, verdict⟩ := effect ▸ execProxyHelo_spec env
        c.log.length (pointers env (c.state.receive env bytes).memory) (c.state.receive env bytes)
      refine before.append _ (fun ran => by cases ran) (fun _ => ?_) (fun _ => sameType)
        fun auth => by cases (isAuth _).mp auth
      simp only [assigned, sent, Exchange.rejectedHelo, Option.map_some, Option.some.injEq,
        exists_eq_left', forall_eq', verdict]
    · by_cases auth : type = .proxyAuth
      · subst auth
        obtain rfl := Option.some.inj found
        obtain ⟨sameVersion, verdict⟩ := effect ▸ execProxyAuth_spec env c.log.length
          (pointers env (c.state.receive env bytes).memory) (c.state.receive env bytes)
        refine before.append _ (fun _ => sameVersion) (fun ran => by cases ran)
          (fun other => by cases other.symm.trans ((isAuth _).mpr rfl)) fun _ required => ?_
        simp only [verdict required, checked rfl, and_true, Exchange.acceptedAuth,
          Option.map_eq_some_iff, exists_exists_and_eq_and]
      · obtain ⟨sameVersion, sameType⟩ := effect ▸ handler_verdicts found helo auth env c.log.length
          (pointers env (c.state.receive env bytes).memory) (c.state.receive env bytes)
        refine before.append _ (fun _ => sameVersion) (fun ran => ?_) (fun _ => sameType)
          fun here => absurd ((isAuth _).mp here) auth
        exact absurd (Option.some.inj (beq_iff_eq.mp ran)) helo

/-- Every request meets client data that carries the verdicts of the requests before it. -/
theorem startSession_verdicts (env : Environment) (name : List UInt8) (list memory : Memory)
    (history : List CapiEvent) (source : Source UInt8) :
    Throughout (fun before e => Verdicts env before e.state.client ∧ (e.ranCapi ↔ e.admissible env))
      (startSession env (.start env name list memory history) source).log := by
  refine (startSession_invariant (P := fun c => Throughout (fun before e =>
    Verdicts env before e.state.client ∧ (e.ranCapi ↔ e.admissible env)) c.log ∧
      Verdicts env c.log c.state.client) env source (fun c bytes ⟨logged, verdicts⟩ => ?_)
      ⟨throughout_nil _, .start env name list⟩).1
  refine ⟨?_, verdicts.handle env c bytes⟩
  cases run : selected env (c.state.receive env bytes).memory with
  | none =>
    rw [handle_none run]
    exact (throughout_append _ _ _).mpr ⟨logged, verdicts, ranCapi_iff (by simp [run])⟩
  | some arm =>
    rw [handle_some run]
    exact (throughout_append _ _ _).mpr ⟨logged, verdicts, ranCapi_iff (by simp [run])⟩

/-- The gate holds in a session exactly when the client waits for its admission. -/
theorem admission_gate_iff (env : Environment) (name : List UInt8) (list memory : Memory)
    (history : List CapiEvent) (source : Source UInt8) :
    GateHolds env (startSession env (.start env name list memory history) source).log ↔
      ClientWaits env (startSession env (.start env name list memory history) source).log := by
  refine throughout_congr fun before e after split => ?_
  obtain ⟨verdicts, ran⟩ := startSession_verdicts env name list memory history source before e after split
  rw [ran, verdicts.helo]
  exact imp_congr_right fun _ => and_congr_right fun _ => imp_congr_right fun required =>
    (verdicts.auth required).symm

def heloHeader : RequestHeader := ⟨112, 36, 76, 0, 1, MessageType.proxyHelo.code, 0, 0, 0⟩

/-- The header carries the session id from the HELO answer. -/
def registerHeader : RequestHeader :=
  ⟨52, 36, 16, 0, 2, MessageType.capiRegister.code, 0, 0, 0x10000⟩

def heloRequest : RequestFrame where
  toFrame := heloHeader.frame (List.replicate 64 0 ++ words [osTypeWindows, 1, 3]) (by decide)
  accepted := by decide

def registerRequest : RequestFrame where
  toFrame := registerHeader.frame (words [4096, 2, 7, 2048]) (by decide)
  accepted := by decide

def heloThenRegister : Source UInt8 :=
  .ofSegments [heloRequest.bytes, registerRequest.bytes] (by decide)

def Environment.guarded : Environment :=
  { Environment.sample with authTypes := authByIp, authRequired := 1 }

theorem heloRequest_header (m : Memory) :
    header .guarded (m.write 0 heloRequest.bytes) = heloHeader :=
  RequestHeader.parse_frame _ _ (by decide) m 0

theorem registerRequest_header (m : Memory) :
    header .guarded (m.write 0 registerRequest.bytes) = registerHeader :=
  RequestHeader.parse_frame _ _ (by decide) m 0

theorem selected_heloRequest (m : Memory) :
    selected .guarded (m.write 0 heloRequest.bytes) = some (.proxyHelo, execProxyHelo) :=
  selected_of_arm (heloRequest.verified m 0) (by rw [heloRequest_header]; rfl) rfl nofun

theorem selected_registerRequest (m : Memory) :
    selected .guarded (m.write 0 registerRequest.bytes) = some (.capiRegister, execCapiRegister) :=
  selected_of_arm (registerRequest.verified m 0) (by rw [registerRequest_header]; rfl) rfl fun _ => by
    have id : (RequestHeader.parse (m.write 0 registerRequest.bytes) 0).sessionId = 0x10000 :=
      congrArg RequestHeader.sessionId (registerRequest_header m)
    simp [verifySessionId, Environment.guarded, Environment.sample, id]

/-- With authentication required, a client that never authenticates gets its register request
handled. -/
theorem register_without_auth :
    ¬ GateHolds .guarded
      (startSession .guarded (.start .guarded [] zeros zeros []) heloThenRegister).log := by
  have chunks : heloThenRegister.chunks msgSize = [heloRequest.bytes, registerRequest.bytes] :=
    heloThenRegister.chunks_segments (by decide)
  rw [startSession_eq, chunks, List.foldl_cons, List.foldl_cons, List.foldl_nil,
    handle_some (selected_heloRequest _), handle_some (selected_registerRequest _)]
  intro gate
  obtain ⟨auth, last, -⟩ := (gate [_] _ [] rfl ⟨.capiRegister, rfl, rfl⟩).2 (by decide)
  obtain ⟨isAuth, member⟩ := And.intro (List.find?_some last) (List.mem_of_find?_eq_some last)
  obtain rfl := List.mem_singleton.mp member
  obtain ⟨-, arm⟩ := Exchange.isAuth_iff.mp isAuth
  change MessageType.ofCode (header .guarded (zeros.write 0 heloRequest.bytes)).messageType = _ at arm
  rw [heloRequest_header] at arm
  exact absurd arm (by decide)

end CapiProxy.Win32Server
