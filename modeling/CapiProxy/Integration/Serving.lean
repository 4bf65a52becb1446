import CapiProxy.Integration.GetPath
import CapiProxy.Integration.Posting
import CapiProxy.Integration.PutPath
import CapiProxy.Integration.Registrations

/-! What a session of the Win32 server makes of the requests of its client. Each handler of a CAPI
function asks the CAPI once, and its answer reports the result; for a wait this is up to the waiter. -/
namespace CapiProxy.Integration
open Bytes Win32Client
open Win32Server (State answerTo capiMaxappl process)

namespace Composed
variable {compiler : Compiler} {type : MessageType} {a : AnswerBuffer}

theorem parse_write (composed : Composed compiler type a) (m : Memory) (address : Nat) :
    AnswerHeader.parse (m.write address a.frame) address = a.head := by
  have stored := Holds.write m address a.frame
  rw [composed.frame_eq] at stored ⊢
  exact AnswerHeader.parse_of_holds stored.left

theorem rest_write (composed : Composed compiler type a) (m : Memory) (address : Nat)
    (inside : i < type.sizeofAnswer compiler + a.head.dataLen.toNat) :
    m.write address a.frame (address + sizeofAnswerHeader + i) = a.rest i := by
  have stored := Holds.write m address a.frame
  rw [composed.frame_eq] at stored ⊢
  have byte := stored.right.byte (i := i) (by rwa [Memory.length_read])
  rw [Memory.getElem_read, Nat.zero_add, AnswerHeader.length_bytes] at byte
  exact byte

theorem length_frame (composed : Composed compiler type a) :
    UInt32.ofNat a.frame.length = a.head.messageLen := by
  rw [← a.head.messageLen.ofNat_toNat, composed.messageLen_toNat, composed.frame_eq, List.length_append,
    AnswerHeader.length_bytes, Memory.length_read, sizeofAnswerHeader]

/-- An answer that arrives whole passes the checks of the handshake, unless it reports an error. -/
theorem whole (composed : Composed compiler type a) (granted : a.head.proxyError ≤ perrorAuthRequired)
    (block : Memory) (request : RequestBuffer) :
    Win32Client.Accepted type (receiveOver block request a.frame) (.ofNat a.frame.length) := by
  have parsed : AnswerHeader.parse (receiveOver block request a.frame) 0 = a.head :=
    composed.parse_write _ 0
  rw [composed.length_frame]
  constructor
  · rw [UInt32.le_iff_toNat_le, composed.messageLen_toNat]
    exact Nat.le_add_right _ _
  · rw [parsed, composed.messageLen]
  · rw [parsed]
  · rwa [parsed]
  · rw [parsed, composed.messageType]

end Composed

def serve (env : Win32Server.Environment) (c : Win32Server.Connection) (stack : Memory) (frame : List UInt8) :
    Option AnswerBuffer × Win32Server.Connection :=
  let handled := c.handle env frame
  let state := match (process env c.log.length (c.state.receive env frame)).2.waiter with
    | none => handled.state
    | some w => (handled.state.call env (.waitForSignal w.applID)).2
  (answerTo env c.log.length stack (c.state.receive env frame), { handled with state })

def ownedApps (c : Win32Server.Connection) : Set UInt32 := marked capiMaxappl c.state.client.registeredApps

/-- The session has asked the CAPI once and recorded the result, which its answer reports. -/
structure Asked (env : Win32Server.Environment) (c : Win32Server.Connection) (type : MessageType) (asked : CapiCall)
    (served : Option AnswerBuffer × Win32Server.Connection) (a : AnswerBuffer) : Prop where
  answer : served.1 = some a
  history : served.2.state.history = c.state.history ++ [(asked, env.capi c.state.history asked)]
  apps : ownedApps served.2 = CapiEvent.gained (asked, env.capi c.state.history asked) ∪
    (ownedApps c \ CapiEvent.lost (asked, env.capi c.state.history asked))
  composed : Composed .msvc type a
  accepted : a.head.proxyError = perrorNone
  code : a.head.capiError = (env.capi c.state.history asked).code

section serve
variable {env : Win32Server.Environment} {type : MessageType} {request : RequestBuffer} {bytes : List UInt8}
  {handler : Win32Server.Handler}

theorem process_posted (posted : Posted type request bytes)
    (found : Win32Server.handlerOf type = some handler)
    (session : Win32Server.checksSession type = true → request.head.sessionId = env.session)
    (n : Nat) (s : State) : process env n (s.receive env request.frame) =
      (some type, handler env n (located env type) (s.receive env request.frame)) := by
  rw [process, posted.selected found session s]
  simp only [posted.pointers_eq env s]

theorem serve_answered {c : Win32Server.Connection}
    (ran : process env c.log.length (c.state.receive env frame) = (t, effect))
    (alone : effect.waiter = none) (stack : Memory) :
    (serve env c stack frame).1 = effect.answer ∧ (serve env c stack frame).2.state = effect.state := by
  simp only [serve, answerTo, Win32Server.Connection.handle, ran, alone, and_self]

theorem serve_waited {c : Win32Server.Connection} (ran : process env c.log.length (c.state.receive env frame) = (t, effect))
    (waits : effect.waiter = some w) (stack : Memory) :
    (serve env c stack frame).1 =
        some (w.answer stack (env.capi effect.state.history (.waitForSignal w.applID)).code) ∧
      (serve env c stack frame).2.state = (effect.state.call env (.waitForSignal w.applID)).2 := by
  simp only [serve, answerTo, Win32Server.Connection.handle, ran, waits, and_self]

theorem asked_answered {c : Win32Server.Connection} (posted : Posted type request bytes)
    (found : Win32Server.handlerOf type = some handler) (session : request.head.sessionId = env.session)
    (effect : handler env c.log.length (located env type) (c.state.receive env request.frame) =
      ⟨s, some a, none⟩)
    (history : s.history = c.state.history ++ [(asked, env.capi c.state.history asked)])
    (apps : s.client.registeredApps =
      record 0 c.state.client.registeredApps (asked, env.capi c.state.history asked))
    (stores : CapiEvent.Stores capiMaxappl (asked, env.capi c.state.history asked))
    (composed : Composed .msvc type a) (accepted : a.head.proxyError = perrorNone)
    (code : a.head.capiError = (env.capi c.state.history asked).code) (stack : Memory) :
    Asked env c type asked (serve env c stack request.frame) a := by
  have ran := process_posted posted found (fun _ => session) c.log.length c.state
  rw [effect] at ran
  obtain ⟨answer, state⟩ := serve_answered ran rfl stack
  refine ⟨answer, by rw [state]; exact history, ?_, composed, accepted, code⟩
  rw [ownedApps, state, apps]
  exact marked_record _ stores

end serve

section handlers
variable {env : Win32Server.Environment} {type : MessageType} {request : RequestBuffer} {bytes : List UInt8}
  (c : Win32Server.Connection) (stack : Memory)

theorem fill_asked {call : RequestHeader → CapiCall} (posted : Posted type request bytes)
    (found : Win32Server.handlerOf type = some (Win32Server.fillBody type call))
    (session : request.head.sessionId = env.session)
    (plain : ∀ head reply list, record 0 list (call head, reply) = list)
    (stores : ∀ head reply, CapiEvent.Stores capiMaxappl (call head, reply)) :
    ∃ a before, Asked env c type (call request.head) (serve env c stack request.frame) a ∧
      a.rest = Memory.write before 0 (env.capi c.state.history (call request.head)).output := by
  rw [← posted.request_eq env c.state]
  refine ⟨_, _, asked_answered posted found session rfl rfl (plain _ _ _).symm (stores _ _) ?_ rfl rfl stack,
    rfl⟩
  exact composed_plain rfl rfl rfl rfl rfl

theorem version_asked (posted : Posted .capiVersion request bytes)
    (session : request.head.sessionId = env.session) :
    ∃ a, Asked env c .capiVersion (.getVersion 0) (serve env c stack request.frame) a ∧
      ∀ major minor manuMajor manuMinor,
        (env.capi c.state.history (.getVersion 0)).output = words [major, minor, manuMajor, manuMinor] →
        ∃ before, a.rest = Memory.write before 0 (words [manuMajor, manuMinor, major, minor]) := by
  refine ⟨_, asked_answered posted rfl session rfl rfl rfl trivial ?_ rfl rfl stack, ?_⟩
  · exact composed_plain rfl rfl rfl rfl rfl
  intro major minor manuMajor manuMinor output
  have stored : Holds ((env.stack c.log.length).write Win32Server.msgSize
      (env.capi c.state.history (.getVersion 0)).output) Win32Server.msgSize
      (words [major, minor, manuMajor, manuMinor]) := output ▸ Holds.write _ _ _
  have word (i : Nat) (inside : i < 4) := stored.words (i := i) inside
  refine ⟨_, congrArg (Memory.write _ 0 ∘ words) ?_⟩
  exact congr (congrArg _ (word 2 (by decide))) (congr (congrArg _ (word 3 (by decide)))
    (congr (congrArg _ (word 0 (by decide))) (congrArg (fun v => [v]) (word 1 (by decide)))))

theorem register_asked (posted : Posted .capiRegister request (words [size, connections, blocks, length]))
    (session : request.head.sessionId = env.session)
    (stores : CapiEvent.Stores capiMaxappl (.register (some size) connections blocks length,
      env.capi c.state.history (.register (some size) connections blocks length))) :
    let asked := CapiCall.register (some size) connections blocks length
    ∃ a, Asked env c .capiRegister asked (serve env c stack request.frame) a ∧
      ∀ app, CapiEvent.registered (asked, env.capi c.state.history asked) = some app → a.head.appId = app := by
  intro asked
  obtain ⟨-, body⟩ := posted.received env c.state
  have word (i : Nat) (inside : i < 4) := body.words (i := i) inside
  have found : Request.Found (c.state.receive env request.frame) (located env .capiRegister)
      (.register size connections blocks length) :=
    congr (congrArg _ (word 0 (by decide))) (congr (congrArg _ (word 1 (by decide)))
      (congr (congrArg _ (word 2 (by decide))) (congrArg (fun v => [v]) (word 3 (by decide)))))
  obtain ⟨a, effect, reports⟩ := Request.served env c.log.length found stores
  exact ⟨a,
    asked_answered posted rfl session effect rfl rfl stores reports.composed reports.accepted reports.code stack,
    reports.app⟩

theorem release_asked (posted : Posted .capiRelease request bytes)
    (session : request.head.sessionId = env.session) :
    ∃ a, Asked env c .capiRelease (.release request.head.appId) (serve env c stack request.frame) a := by
  have found : Request.Found (c.state.receive env request.frame) (located env .capiRelease)
      (.release request.head.appId) := by
    rw [Request.Found, posted.request_eq env c.state]
  obtain ⟨a, effect, reports⟩ := Request.served env c.log.length found trivial
  exact ⟨a,
    asked_answered posted rfl session effect rfl rfl trivial reports.composed reports.accepted reports.code stack⟩

theorem put_asked (client : Client) (applID : UInt32) (m : Memory) (data1 : Nat)
    (session : client.sessionId = env.session) (wf : WellFormed m data1 (isDataB3Req m data1))
    (fits : sizeofRequestHeader + 1 + (carried m data1 (isDataB3Req m data1)).length ≤ msgBuffer) :
    ∃ message memory first last a, Asked env c .capiPutmessage (.putMessage applID message memory)
        (serve env c stack (putMessageRequest client applID m data1).frame) a ∧
      Delivered m data1 (isDataB3Req m data1) memory message first last := by
  have posted := posted_put client applID m data1 fits
  have room := env.requestBuffer_fits
  simp only [sizeofRequestHeader, msgBuffer, Win32Server.msgSize] at fits room
  obtain ⟨-, behind⟩ := posted.received env c.state
  have message : Holds _ _ ([0] ++ carried m data1 (isDataB3Req m data1)) := behind
  obtain ⟨memory, accepted, delivered⟩ := acceptPut_delivered message.right wf
    (by simp only [sizeofRequestHeader, List.length_singleton]; omega)
  have accepted : acceptPut (c.state.receive env (putMessageRequest client applID m data1).frame).memory
      (located env .capiPutmessage).rdata (putMessageRequest client applID m data1).head.dataLen =
        some memory := by
    rw [posted.dataLen]
    exact accepted
  have head := putMessageRequest_eq client applID m data1
  have app : (putMessageRequest client applID m data1).head.appId = applID := by rw [head]; rfl
  have again : { c.state.receive env (putMessageRequest client applID m data1).frame with memory }.request
      (located env .capiPutmessage) = (putMessageRequest client applID m data1).head :=
    (acceptPut_header accepted (Nat.le_add_right _ _)).trans (posted.request_eq env c.state)
  let asked := CapiCall.putMessage applID (located env .capiPutmessage).rdata memory
  have effect : Win32Server.execCapiPutmessage env c.log.length (located env .capiPutmessage)
      (c.state.receive env (putMessageRequest client applID m data1).frame) = Win32Server.answerWith
        ({ c.state with memory }.call env asked).2
        { Win32Server.prepare .capiPutmessage
            (c.state.receive env (putMessageRequest client applID m data1).frame)
            (located env .capiPutmessage) (.at (env.stack c.log.length) 0) with
          head.capiError := (env.capi c.state.history asked).code } := by
    simp only [Win32Server.execCapiPutmessage, posted.request_eq, accepted, again, app]
    rfl
  have session : (putMessageRequest client applID m data1).head.sessionId = env.session := by
    rw [head]
    exact session
  refine ⟨_, memory, _, _, _, asked_answered posted rfl session effect rfl rfl trivial ?_ rfl rfl stack, delivered⟩
  exact composed_plain rfl rfl rfl rfl rfl

theorem get_asked (posted : Posted .capiGetmessage request bytes)
    (session : request.head.sessionId = env.session)
    (wf : let reply := env.capi c.state.history (.getMessage request.head.appId)
      reply.code = 0 → WellFormed reply.memory reply.message (isDataB3Ind reply.memory reply.message)) :
    let reply := env.capi c.state.history (.getMessage request.head.appId)
    ∃ a, Asked env c .capiGetmessage (.getMessage request.head.appId) (serve env c stack request.frame) a ∧
      GetAnswer reply a := by
  intro reply
  let b : AnswerBuffer :=
    { Win32Server.prepare .capiGetmessage (c.state.receive env request.frame)
        (located env .capiGetmessage) (.at (env.stack c.log.length) 0) with head.capiError := reply.code }
  have called := posted.request_eq env c.state
  have effect : Win32Server.execCapiGetmessage env c.log.length (located env .capiGetmessage)
      (c.state.receive env request.frame) = Win32Server.answerWith
        ((c.state.receive env request.frame).call env (.getMessage request.head.appId)).2
        (copyMessage 1 reply b) := by
    simp only [Win32Server.execCapiGetmessage, called]
    rfl
  obtain ⟨dataLen, proxyError, -, head⟩ := copyMessage_head 1 reply b rfl
  have accepted : (copyMessage 1 reply b).head.proxyError = perrorNone := by
    by_cases success : reply.code = 0
    · rw [copyMessage_carried 1 reply b success (wf success)]
      rfl
    · have failed : b.head.capiError ≠ 0 := success
      rw [copyMessage_failed failed]
      rfl
  refine ⟨Win32Server.finish (copyMessage 1 reply b),
    asked_answered posted rfl session effect rfl rfl trivial (composed_message reply rfl rfl rfl rfl) accepted ?_
      stack,
    .win32 env c.log.length (located env .capiGetmessage) (c.state.receive env request.frame)
      (by rw [called]; rfl) (by rw [effect]; rfl)⟩
  simp only [Win32Server.finish, head]
  rfl

/-- The waiter asks on its own, and its answer is the one that arrives. -/
theorem wait_asked (posted : Posted .capiWaitforsignal request bytes)
    (session : request.head.sessionId = env.session) (started : env.createThread c.log.length = true) :
    ∃ a, Asked env c .capiWaitforsignal (.waitForSignal request.head.appId)
      (serve env c stack request.frame) a := by
  have ran := process_posted posted rfl (fun _ => session) c.log.length c.state
  rw [Win32Server.execCapiWaitforsignal, if_pos started, posted.request_eq env c.state] at ran
  obtain ⟨answer, state⟩ := serve_waited ran rfl stack
  let event : CapiEvent := (.waitForSignal request.head.appId,
    env.capi c.state.history (.waitForSignal request.head.appId))
  have kept : marked capiMaxappl (record 0 c.state.client.registeredApps event) = _ := marked_record event trivial
  refine ⟨_, answer, ?_, ?_, composed_plain rfl rfl rfl rfl rfl, rfl, rfl⟩
  · rw [state]
    rfl
  · rw [ownedApps, state]
    exact kept

/-- The answer to HELO tells a client with a current version the id of its session. -/
theorem helo_served (env : Win32Server.Environment)
    (posted : Posted .proxyHelo request (name ++ words [os, major, minor])) (length : name.length = 64)
    (current : ¬ major < Win32Server.serverVersion.major) :
    let served := serve env c stack request.frame
    ∃ a, served.1 = some a ∧ served.2.state.history = c.state.history ∧ ownedApps served.2 = ownedApps c ∧
      Composed .msvc .proxyHelo a ∧
      a.head.proxyError = perrorNone ∧ a.head.sessionId = c.state.client.session := by
  have ran : Win32Server.process env c.log.length (c.state.receive env request.frame) = _ :=
    process_posted posted rfl nofun c.log.length c.state
  obtain ⟨-, body⟩ := posted.received env c.state
  have version := body.right
  rw [length] at version
  have found : (c.state.receive env request.frame).memory.word32
      (env.requestBuffer + sizeofRequestHeader + 68) = major := version.words (i := 1) (by simp)
  simp only [Win32Server.execProxyHelo, located, found, if_neg current] at ran
  obtain ⟨answer, state⟩ := serve_answered ran rfl stack
  exact ⟨_, answer, by rw [state]; rfl, by rw [ownedApps, state]; rfl, composed_plain rfl rfl rfl rfl rfl, rfl, rfl⟩

end handlers

end CapiProxy.Integration
