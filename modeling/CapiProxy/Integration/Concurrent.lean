import CapiProxy.Integration.RemoteCapi
import CapiProxy.Traces.Linearization
import CapiProxy.Win32Client.Dispatch
import CapiProxy.Win32Server.Refusals

/-! The threads of an application, or of several, with one session. Each thread calls what it likes; its
request waits for the session, the session may leave a wait to a thread of its own, and the dispatcher of
the client hands the answers out. A receive call brings one whole frame, and each operation on the list of
awaited answers is one step, as it is while no call is outdated (`pending_listed`). -/
namespace CapiProxy.Integration
open Bytes Rosters Traces Win32Client
open Win32Server (WaiterData capiMaxappl process)

section handled
variable {env : Win32Server.Environment} {c : Win32Server.Connection} {client : Client} {m : Memory}
    {command : Command}

theorem Command.type_isCapi (command : Command) : command.type.isCapi = true := by
  cases command with
  | function f => cases f <;> rfl
  | getManufacturer => rfl

theorem Command.request_head (client : Client) (m : Memory) (command : Command) :
    (command.request client m).head.messageId = client.msgId + 1 ∧
      (command.request client m).head.sessionId = client.sessionId := by
  cases command with
  | function f =>
    cases f with
    | putMessage applID data1 =>
      have head := congrArg RequestBuffer.head (putMessageRequest_eq client applID m data1)
      exact ⟨congrArg RequestHeader.messageId head, congrArg RequestHeader.sessionId head⟩
    | _ => exact ⟨rfl, rfl⟩
  | getManufacturer => exact ⟨rfl, rfl⟩

theorem Command.posted (passable : command.Passable env n history m) (client : Client) :
    ∃ bytes, Posted command.type (command.request client m) bytes := by
  cases command with
  | function f =>
    cases f with
    | register => exact ⟨_, posted_register client ..⟩
    | putMessage applID data1 => exact ⟨_, posted_put client applID m data1 passable.2⟩
    | getMessage applID => exact ⟨_, posted_get client applID⟩
    | getProfile szBuffer ctrlNr => exact ⟨_, posted_profile client ctrlNr⟩
    | _ => exact ⟨_, posted_plain client _ rfl⟩
  | getManufacturer => exact ⟨_, posted_plain client _ rfl⟩

/-- What the session makes of the request of a call: it answers what it has asked, or leaves a wait to
another thread. -/
inductive Command.Handled (command : Command) (env : Win32Server.Environment) (m : Memory) (msgId : UInt32)
    (history : List CapiEvent) (effect : Win32Server.Effect) : Prop where
  | answers (asked : CapiCall) (a : AnswerBuffer) (alone : effect.waiter = none)
      (answer : effect.answer = some a)
      (id : a.head.messageId = msgId)
      (called : effect.state.history = history ++ [(asked, env.capi history asked)])
      (tells : command.Tells m (asked, env.capi history asked) a)
  | waits (w : WaiterData) (started : effect.waiter = some w)
      (command_eq : command = .function (.waitForSignal w.applID)) (id : w.messageId = msgId)
      (uncalled : effect.state.history = history)

theorem wait_tells (m : Memory) (stack : Memory) (w : WaiterData) (reply : CapiReply) :
    (Command.function (.waitForSignal w.applID)).Tells m (.waitForSignal w.applID, reply)
      (w.answer stack reply.code) where
  asks := rfl
  composed := composed_plain rfl rfl rfl rfl rfl
  accepted := rfl
  code := rfl
  concludes _ _ _ replied := wait_concludes replied m

theorem answer_messageId {request : RequestBuffer} {type : MessageType} {bytes : List UInt8}
    (posted : Posted type request bytes) (capi : type.isCapi = true)
    (session : request.head.sessionId = env.session)
    (n : Nat) (s : Win32Server.State) (alone : (process env n (s.receive env request.frame)).2.waiter = none)
    (answer : (process env n (s.receive env request.frame)).2.answer = some a) :
    a.head.messageId = request.head.messageId := by
  obtain ⟨-, handler, found⟩ := Win32Server.handlerOf_capi capi
  have run := posted.selected found (fun _ => session) s
  obtain ⟨verified, -, -, known⟩ := Win32Server.selected_some run
  have heard : Win32Server.Heard env (s.receive env request.frame) type :=
    ⟨verified, known, fun same => by rw [same] at capi; cases capi⟩
  have settles := Win32Server.handler_settles run (MessageType.isAnswered_of_isCapi capi) heard n
  simp only [process, run] at alone answer
  obtain ⟨parsed, -⟩ := posted.received env s
  rw [parsed] at settles
  cases settles with
  | sent b sent labelled =>
    obtain rfl := Option.some.inj (answer.symm.trans sent)
    exact labelled
  | waits w started => cases alone.symm.trans started

theorem Command.handled (linked : client.sessionId = env.session)
    (passable : command.Passable env c.log.length c.state.history m) :
    command.Handled env m (client.msgId + 1) c.state.history
      (process env c.log.length (c.state.receive env (command.request client m).frame)).2 := by
  obtain ⟨id, sessionId⟩ := command.request_head client m
  obtain ⟨bytes, posted⟩ := command.posted passable client
  have session : (command.request client m).head.sessionId = env.session := sessionId.trans linked
  have capi := command.type_isCapi
  obtain ⟨-, handler, found⟩ := Win32Server.handlerOf_capi capi
  have ran := process_posted posted found (fun _ => session) c.log.length c.state
  by_cases alone : (handler env c.log.length (located env command.type)
      (c.state.receive env (command.request client m).frame)).waiter = none
  · obtain ⟨asked, a, once, tells⟩ := command.served c zeros linked m passable
    obtain ⟨answer, state⟩ := serve_answered ran alone zeros
    have answered := answer.symm.trans once.answer
    have id' := answer_messageId posted capi session c.log.length c.state (by rw [ran]; exact alone)
      (by rw [ran]; exact answered)
    rw [ran]
    exact .answers asked a alone answered (id'.trans id) (by rw [← state]; exact once.history) tells
  · obtain ⟨w, started⟩ := Option.ne_none_iff_exists'.mp alone
    have wait := (handler_settled env c.log.length _ _ found capi).waiter w started
    cases command with
    | getManufacturer => cases wait
    | function f =>
      cases f with
      | waitForSignal applID =>
        obtain rfl := Option.some.inj found
        have thread : env.createThread c.log.length = true := passable
        rw [Win32Server.execCapiWaitforsignal, if_pos thread] at ran started
        rw [posted.request_eq env c.state] at ran started
        obtain rfl := Option.some.inj started
        rw [ran]
        exact .waits _ rfl rfl id rfl
      | _ => cases wait

end handled

/-- A call as its function finds it when it is entered. -/
structure Entry where
  command : Command
  memory : Memory
  client : Client

def Entry.id (e : Entry) : UInt32 := e.client.msgId + 1

def Entry.request (e : Entry) : RequestBuffer := e.command.request e.client e.memory

/-- The CAPI was asked what the call means, and the application found the reply. -/
def Told (e : Entry) (event : CapiEvent) (returned : Returned) : Prop :=
  e.command.Asks e.memory event.1 ∧ e.command.Gives event.2 returned

/-- The client, the requests on their way to its session, the session and the threads that wait for a
signal. What comes from a caller carries its name. The record has what each function was called with, and
notes when the calls begin, take effect and end. -/
structure Concurrent (κ : Type) where
  threads : Threads κ
  sessionId : UInt32
  registeredApps : List Application
  requests : List (κ × List UInt8)
  session : Win32Server.Connection
  waiters : List (κ × WaiterData)
  record : Record κ Entry Returned

namespace Concurrent

/-- A thread enters a function, lists its request, sends it or returns, in surroundings of its own; the
session takes the next request, or one of its waits ends; the dispatcher takes one step; or others ask
the CAPI. -/
inductive Move (κ : Type) where
  | enter (c : κ) (command : Command) (memory : Memory)
  | add (c : κ)
  | send (c : κ)
  | serve
  | wake (wait : Nat) (stack : Memory)
  | dispatch
  | leave (c : κ) (surroundings : Environment)
  | other (call : CapiCall)

def client (s : Concurrent κ) : Client := ⟨s.sessionId, s.threads.msgId, s.registeredApps⟩

def history (s : Concurrent κ) : List CapiEvent := s.session.state.history

def start (r : Remote) (answer : κ → Option Received) : Concurrent κ where
  threads := .start r.client.msgId answer
  sessionId := r.client.sessionId
  registeredApps := r.client.registeredApps
  requests := []
  session := r.session
  waiters := []
  record := .start r.session.state.history.length

section step
variable [DecidableEq κ]

def dispatched (t : Threads κ) : Option (Threads κ) :=
  match t.dispatcher, t.inbound with
  | .idle, msg :: later => some (t.receive msg later)
  | .idle, [] => none
  | .received msg, _ => some (t.lookup msg)
  | .found msg data, _ => some (t.remove msg data)
  | .removed msg (some c), _ => some (t.store msg c)
  | .removed _ none, _ => some { t with dispatcher := .crashed }
  | .crashed, _ => none

def respond (s : Concurrent κ) (c : κ) (a : AnswerBuffer) (length : Nat) : Concurrent κ :=
  { s with
    threads := s.threads.respond (.of a.frame)
    record := s.record.take length c }

def answered (surroundings : Environment) (msg : Received) : Environment :=
  { surroundings with malloc := true, sendAndReceive := fun _ _ => some msg.message }

def step (env : Win32Server.Environment) (s : Concurrent κ) : Move κ → Option (Concurrent κ)
  | .enter c command memory =>
    match s.threads.phase c with
    | .idle => some { s with
        threads := s.threads.enter c
        record := s.record.begin s.history.length c ⟨command, memory, s.client⟩ }
    | _ => none
  | .add c =>
    match s.threads.phase c with
    | .entered msgId => some { s with threads := s.threads.add c msgId }
    | _ => none
  | .send c =>
    match s.threads.phase c, s.record.ongoing c with
    | .listed msgId, some o => some { s with
        threads := s.threads.send c msgId
        requests := s.requests ++ [(c, o.call.request.frame)] }
    | _, _ => none
  | .serve =>
    match s.requests with
    | [] => none
    | (c, frame) :: later =>
      let effect := (process env s.session.log.length (s.session.state.receive env frame)).2
      let handled := { s with requests := later, session := s.session.handle env frame }
      match effect.waiter, effect.answer with
      | some w, _ => some { handled with waiters := s.waiters ++ [(c, w)] }
      | none, some a => some (handled.respond c a s.history.length)
      | none, none => some handled
  | .wake wait stack =>
    match s.waiters[wait]? with
    | none => none
    | some (c, w) =>
      let called := s.session.state.call env (.waitForSignal w.applID)
      let woken := { s with
        waiters := s.waiters.eraseIdx wait
        session := { s.session with state := called.2 } }
      some (woken.respond c (w.answer stack called.1.code) s.history.length)
  | .dispatch => (dispatched s.threads).map fun threads => { s with threads }
  | .leave c surroundings =>
    match s.threads.phase c, s.threads.answer c, s.record.ongoing c with
    | .waiting msgId, some msg, some o =>
      let left := o.call.command.run (answered surroundings msg) s.client o.call.memory
      some { s with
        threads := s.threads.leave c msgId msg
        registeredApps := left.2.registeredApps
        record := s.record.finish s.history.length c left.1 }
    | _, _, _ => none
  | .other call => some { s with
      session := { s.session with state := (s.session.state.call env call).2 }
      record := s.record.pass s.history.length }

/-- The call that is served can pass, and the one that returns finds room for its message. -/
def Passes (env : Win32Server.Environment) (s : Concurrent κ) : Move κ → Prop
  | .serve => ∀ c frame later, s.requests = (c, frame) :: later → ∀ o, s.record.ongoing c = some o →
    o.call.command.Passable env s.session.log.length s.history o.call.memory
  | .leave c surroundings => ∀ o, s.record.ongoing c = some o → ∀ i event, o.point = some i →
    s.history[i]? = some event → o.call.command.Receivable surroundings s.client event.2
  | _ => True

inductive Step (env : Win32Server.Environment) (s s' : Concurrent κ) : Prop where
  | made (move : Move κ) (passes : s.Passes env move) (made : s.step env move = some s')

end step

end Concurrent
end CapiProxy.Integration
