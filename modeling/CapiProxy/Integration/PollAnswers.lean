import CapiProxy.Integration.Errors
import CapiProxy.LinuxClient.Mapping

/-! The application id in the answers to polls, from which the daemon takes the application of its next
poll. The Linux server assigns it; on the Win32 server it is what the stack holds there. -/
namespace CapiProxy.Integration.PollAnswers
open Bytes

/-- A request at one of the servers: on the Win32 server with the stack of the thread that is started
for it, on the Linux server with the buffer that earlier answers have left. -/
inductive Poll where
  | win32 (env : Win32Server.Environment) (n : Nat) (stack : Memory) (s : Win32Server.State)
  | linux (o : LinuxServer.Occasion) (m : Memory)

namespace Poll

def request : Poll → RequestHeader
  | win32 env _ _ s => Win32Server.header env s.memory
  | linux o m => LinuxServer.request o.env m

/-- The handler that takes the request, if the server accepts it. -/
def type : Poll → Option MessageType
  | win32 env _ _ s => (Win32Server.selected env s.memory).map Prod.fst
  | linux o m => (LinuxServer.selected o.env m).map Prod.fst

def answer : Poll → Option AnswerBuffer
  | win32 env n stack s => Win32Server.answerTo env n stack s
  | linux o m => o.answer m

/-- A wait is answered on the stack of its thread, any other request on that of the session. -/
def answerStack (env : Win32Server.Environment) (n : Nat) (stack : Memory) (s : Win32Server.State) :
    Memory :=
  if (Win32Server.selected env s.memory).map Prod.fst = some .capiWaitforsignal ∧ env.createThread n then
    stack
  else env.stack n

/-- On the Win32 server, what lies on the stack where the application id of the answer goes is the id of
the request. -/
def Coincides : Poll → Prop
  | win32 env n stack s => (AnswerHeader.parse (answerStack env n stack s) 0).appId =
    (Win32Server.header env s.memory).appId
  | linux .. => True

end Poll

/-- The headers of the requests that the daemon has sent since. -/
def followUps (d d' : LinuxClient.Daemon) : List RequestHeader :=
  (d'.log.drop d.log.length).filterMap fun
    | .sent head _ => some head
    | _ => none

/-- The answer has the id of the request, and when this was the daemon's, so has every request that
`handle_serverpacket` sends on the answer. -/
structure Named (request : RequestHeader) (answer : AnswerBuffer) : Prop where
  appId : answer.head.appId = request.appId
  followUps : ∀ (env : LinuxClient.Environment) (d : LinuxClient.Daemon),
    Holds d.recvbuffer 0 answer.head.bytes → ∀ appl : UInt16, request.appId = appl.toUInt32 →
      ∀ head ∈ followUps d (d.handleServerpacket env), head.appId = appl.toUInt32

section daemon
open LinuxClient

theorem request_followUps (env : Environment) (type : MessageType) (appl : UInt32) (d d' : Daemon)
    (written : List Event) (log : d'.log = d.log ++ written)
    (silent : ∀ e ∈ written, ∀ head frame, e ≠ .sent head frame) :
    ∀ head ∈ followUps d (d'.request env type appl [] []).1, head.appId = appl := by
  obtain ⟨frame, sent⟩ := Daemon.request_log env type appl [] [] d'
  have earlier : written.filterMap (fun
      | .sent head _ => some head
      | _ => none) = [] := by
    refine List.filterMap_eq_nil_iff.mpr fun e member => ?_
    cases e with
    | sent head frame => exact absurd rfl (silent _ member head frame)
    | _ => rfl
  intro head member
  rw [followUps, sent] at member
  split at member
  · rw [log, List.append_assoc, List.drop_left, List.filterMap_append, earlier] at member
    rw [List.mem_singleton.mp member]
    rfl
  · rw [log, List.drop_left, earlier] at member
    cases member

theorem followUps_appId (env : Environment) (d : Daemon) :
    ∀ head ∈ followUps d (d.handleServerpacket env), head.appId = d.aheader.appId.toUInt16.toUInt32 := by
  rw [Daemon.handleServerpacket]
  split
  · exact request_followUps env .capiGetmessage _ d d [] (List.append_nil _).symm nofun
  · refine request_followUps env .capiWaitforsignal _ d (d.sendToModule env) _ rfl ?_
    intro e member head frame
    rw [List.mem_singleton.mp member]
    exact nofun
  · intro head member
    rw [followUps, List.drop_length] at member
    cases member

theorem named_iff (request : RequestHeader) (answer : AnswerBuffer) :
    Named request answer ↔ answer.head.appId = request.appId := by
  refine ⟨Named.appId, fun same => ⟨same, fun env d holds appl own head member => ?_⟩⟩
  have header : d.aheader = answer.head := AnswerHeader.parse_of_holds holds
  rw [followUps_appId env d head member, header, same, own, UInt16.toUInt16_toUInt32]

end daemon

section servers
open Poll

theorem win32_get (env : Win32Server.Environment) (n : Nat) (stack : Memory) (s : Win32Server.State)
    (run : Win32Server.selected env s.memory = some (.capiGetmessage, handler)) :
    ∃ a, Win32Server.answerTo env n stack s = some a ∧
      a.head.appId = (AnswerHeader.parse (env.stack n) 0).appId := by
  obtain ⟨-, -, found, -⟩ := Win32Server.selected_some run
  cases found
  let reply := (s.call env (.getMessage (s.request (Win32Server.pointers env s.memory)).appId)).1
  let prepared := Win32Server.prepare .capiGetmessage s (Win32Server.pointers env s.memory)
    (.at (env.stack n) 0)
  obtain ⟨dataLen, proxyError, -, copied⟩ := copyMessage_head
    (MessageType.capiGetmessage.sizeofAnswer .msvc) reply
    { prepared with head.capiError := reply.code } rfl
  refine ⟨Win32Server.finish (copyMessage (MessageType.capiGetmessage.sizeofAnswer .msvc) reply
    { prepared with head.capiError := reply.code }), ?_, ?_⟩
  · simp only [Win32Server.answerTo, Win32Server.process, run]
    rfl
  · have kept := congrArg AnswerHeader.appId copied
    exact kept

theorem win32_wait (env : Win32Server.Environment) (n : Nat) (stack : Memory) (s : Win32Server.State)
    (run : Win32Server.selected env s.memory = some (.capiWaitforsignal, handler)) :
    ∃ a, Win32Server.answerTo env n stack s = some a ∧
      a.head.appId = (AnswerHeader.parse (if env.createThread n then stack else env.stack n) 0).appId := by
  obtain ⟨-, -, found, -⟩ := Win32Server.selected_some run
  cases found
  simp only [Win32Server.answerTo, Win32Server.process, run, Win32Server.execCapiWaitforsignal]
  cases env.createThread n with
  | true => exact ⟨_, rfl, rfl⟩
  | false => exact ⟨_, rfl, rfl⟩

/-- The Win32 server leaves the application id of the answer as it is on the stack. -/
theorem win32_appId (env : Win32Server.Environment) (n : Nat) (stack : Memory) (s : Win32Server.State)
    (polls : (win32 env n stack s).type = some .capiWaitforsignal ∨
      (win32 env n stack s).type = some .capiGetmessage) :
    ∃ a, Win32Server.answerTo env n stack s = some a ∧
      a.head.appId = (AnswerHeader.parse (answerStack env n stack s) 0).appId := by
  rw [answerStack]
  rcases polls with wait | get
  · obtain ⟨⟨_, handler⟩, run, rfl⟩ := Option.map_eq_some_iff.mp wait
    rw [run, Option.map_some]
    simp only [true_and]
    exact win32_wait env n stack s run
  · obtain ⟨⟨_, handler⟩, run, rfl⟩ := Option.map_eq_some_iff.mp get
    rw [run, Option.map_some, if_neg (by simp)]
    exact win32_get env n stack s run

theorem linux_appId (o : LinuxServer.Occasion) (m : Memory)
    (polls : (linux o m).type = some .capiWaitforsignal ∨ (linux o m).type = some .capiGetmessage) :
    ∃ a, o.answer m = some a ∧ a.head.appId = (LinuxServer.request o.env m).appId := by
  rcases polls with wait | get
  · obtain ⟨⟨_, handler⟩, run, rfl⟩ := Option.map_eq_some_iff.mp wait
    exact ⟨_, LinuxServer.Occasion.answer_wait run rfl, rfl⟩
  · obtain ⟨⟨_, handler⟩, run, rfl⟩ := Option.map_eq_some_iff.mp get
    have answered := LinuxServer.Occasion.answer_get run rfl
    refine ⟨_, answered, ?_⟩
    obtain ⟨dataLen, proxyError, -, copied⟩ := copyMessage_head 0
      (o.env.capi o.session.history (.getMessage (LinuxServer.request o.env m).appId))
      ⟨o.composed m .capiGetmessage (LinuxServer.request o.env m).appId
        (o.env.capi o.session.history (.getMessage (LinuxServer.request o.env m).appId)).code
        perrorNone, o.session.outPacket.rest⟩ rfl
    exact congrArg AnswerHeader.appId copied

end servers

/-- Every poll that a server accepts is answered, and the answer names the application of the poll, to
the daemon as well, exactly when it comes from the Linux server or the stack happens to hold the id. -/
theorem poll_answers_iff (p : Poll)
    (polls : p.type = some .capiWaitforsignal ∨ p.type = some .capiGetmessage) :
    (∃ a, p.answer = some a ∧ Named p.request a) ↔ p.Coincides := by
  have assigned (answer : Option AnswerBuffer) (request : RequestHeader) (appId : UInt32)
      (answered : ∃ a, answer = some a ∧ a.head.appId = appId) :
      (∃ a, answer = some a ∧ Named request a) ↔ appId = request.appId := by
    obtain ⟨a, rfl, rfl⟩ := answered
    simp only [Option.some_inj, exists_eq_left', named_iff]
  cases p with
  | win32 env n stack s => exact assigned _ _ _ (win32_appId env n stack s polls)
  | linux o m =>
    rw [Poll.Coincides, iff_true]
    exact (assigned _ _ _ (linux_appId o m polls)).mpr rfl

def linuxPoll : Poll := .linux LinuxServer.fresh (LinuxServer.ask .capiWaitforsignal)

theorem linuxPoll_type : linuxPoll.type = some .capiWaitforsignal := by
  obtain ⟨handler, run⟩ :=
    LinuxServer.ask_selected (show MessageType.capiWaitforsignal.isAnswered = true from rfl)
  exact congrArg (Option.map Prod.fst) run

theorem linuxPoll_named : ∃ a, linuxPoll.answer = some a ∧ Named linuxPoll.request a :=
  (poll_answers_iff linuxPoll (.inl linuxPoll_type)).mpr trivial

/-- Application 1 asks the Win32 server for a message, and there are zeros on the stack. -/
def win32Poll : Poll := .win32 emptyQueue 0 zeros queueState

theorem win32Poll_type : win32Poll.type = some .capiGetmessage :=
  congrArg (Option.map Prod.fst) queueState_selected

theorem win32Poll_request : win32Poll.request.appId = 1 :=
  congrArg RequestHeader.appId (RequestHeader.parse_frame _ _ (by decide) zeros 0)

/-- The answer is about application 0. -/
theorem win32Poll_not_named : win32Poll.type = some .capiGetmessage ∧
    ¬ ∃ a, win32Poll.answer = some a ∧ Named win32Poll.request a := by
  refine ⟨win32Poll_type, fun ⟨a, answered, named⟩ => ?_⟩
  obtain ⟨a', answered', appId⟩ := win32_get emptyQueue 0 zeros queueState queueState_selected
  obtain rfl := Option.some.inj (answered.symm.trans answered')
  rw [named.appId, win32Poll_request] at appId
  exact absurd appId (by decide)

end CapiProxy.Integration.PollAnswers
