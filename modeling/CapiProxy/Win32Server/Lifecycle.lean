import CapiProxy.Pools.Threads
import CapiProxy.Win32Server.Process
import CapiProxy.Win32Server.Slots

/-! The Win32 server from its start to its stop: the accept loop, the thread of each session, the threads that
wait for a signal, and the service control or the dialog, which set `run` and `pause`. A socket handle stands for
a connection until it is closed, and then `accept` may give it to another one. -/
namespace CapiProxy.Win32Server
open Bytes Ownership Pools

/-- `session` after `ServiceInitialization`. -/
def sessionBase : UInt32 := 0x10000

/-- Where the accept loop is: at the test of `run`, asleep before the test of `pause`, at `select` and `accept`,
or out of the loop. -/
inductive Listening where
  | testing | sleeping | polling | ended
  deriving DecidableEq, Repr

/-- Where a session thread is: not running yet, at the test of `run`, at the test of `pause`, in `recv`, in the
cleanup loop behind the receive loop, or at its end. -/
inductive Doing where
  | created | testing | checking | receiving | closing | ended
  deriving DecidableEq, Repr

/-- A session thread: the number of the connection it was created for, its slot, its `client.socket` once it
runs, and what it has received. -/
structure Worker where
  connection : Nat
  sess : Nat
  doing : Doing
  socket : Option UInt32
  client : ClientData
  memory : Memory
  received : List (List UInt8)

/-- The requests that it has received, with the one it is waiting for. -/
def Worker.due (w : Worker) : Nat := w.received.length + if w.doing = .receiving then 1 else 0

/-- A thread in `waiter`: the handle it keeps, the connection this stood for when the request arrived, what it
was told, and the result of its call once that has returned. -/
structure WaitThread where
  socket : Option UInt32
  arrived : Option Nat
  data : WaiterData
  result : Option UInt32

/-- An answer, with the connection on which its request arrived and the one on which it was sent, if the handles
stood for one. -/
structure Delivery where
  arrived : Option Nat
  destination : Option Nat
  answer : AnswerBuffer

/-- Where `ServiceExit` is: not called, waiting for the accept loop to end, or closing the sockets. -/
inductive Exiting where
  | no | waiting | closing
  deriving DecidableEq, Repr

/-- `run` and `pause`, the accept loop and the handles it has accepted, the connections that handles stand for, the
table `sockets`, the handles that `ServiceExit` has shut down, how far that is, the session threads, the waiters,
the answers sent and the CAPI. -/
structure Server where
  running : Bool
  paused : Bool
  listening : Listening
  accepted : List UInt32
  connection : UInt32 → Option Nat
  sockets : Nat → UInt32
  shut : UInt32 → Bool
  exiting : Exiting
  workers : List Worker
  waiters : List WaitThread
  sent : List Delivery
  history : List CapiEvent

inductive Control where
  | pause | resume | toggle | quit | stop
  deriving DecidableEq, Repr

/-- The accept loop tests `run` or `pause`, gets a connection (and a thread for it or not), finds none, or
leaves after an error; a session thread starts or tests `run` or `pause`, receives something, loses its
connection, or cleans up for a while; a waiter calls the CAPI, or sends its answer; the server is controlled;
or `ServiceExit` has waited for the accept loop, which it ends if need be, or closes the socket in a slot. -/
inductive ServerEvent where
  | listen
  | connect (connection : UInt32) (created : Bool) (name : List UInt8) (list memory : Memory)
  | noConnection
  | selectFails
  | turn (worker : Nat)
  | receive (worker : Nat) (bytes : List UInt8)
  | lose (worker : Nat)
  | clean (worker fuel : Nat)
  | wait (waiter : Nat)
  | answer (waiter : Nat) (stack : Memory)
  | control (c : Control)
  | endLoop
  | closeSocket (slot : Nat)

/-- What lets a paused server go on. -/
def ServerEvent.resumes : ServerEvent → Bool
  | .control .resume | .control .toggle | .control .stop => true
  | _ => false

namespace Server

def environment (p : Process) (worker : Nat) (w : Worker) : Environment :=
  { p.environment worker with session := sessionBase + .ofNat w.sess }

def put (s : Server) (worker : Nat) (w : Worker) : Server := { s with workers := s.workers.set worker w }

/-- `accept` has given the loop a handle; those that are open are not given again. -/
def connect (p : Process) (s : Server) (connection : UInt32) (created : Bool) (name : List UInt8)
    (list memory : Memory) :
    Server :=
  if connection = invalidSocket then { s with listening := .testing }
  else if (s.connection connection).isSome then s
  else
    let (sess, sockets) := allocSession s.sockets connection
    let w : Worker := ⟨s.accepted.length, sess.toNat, .created, none,
      .start { p.environment s.workers.length with session := sessionBase + .ofNat sess.toNat } name list, memory,
      []⟩
    { s with
      listening := .testing
      accepted := s.accepted ++ [connection]
      connection := Function.update s.connection connection (some s.accepted.length)
      sockets := sockets
      workers := if sess ≠ -1 ∧ created then s.workers ++ [w] else s.workers }

def receive (p : Process) (s : Server) (worker : Nat) (w : Worker) (bytes : List UInt8) : Server :=
  let env := environment p worker w
  let effect := (process env w.received.length (State.receive ⟨w.client, w.memory, s.history⟩ env bytes)).2
  { s.put worker { w with
      doing := .testing
      client := effect.state.client
      memory := effect.state.memory
      received := w.received ++ [bytes] } with
    waiters := s.waiters ++ effect.waiter.toList.map fun data => ⟨w.socket, w.socket.bind s.connection, data, none⟩
    sent := s.sent ++ effect.answer.toList.map fun answer =>
      ⟨w.socket.bind s.connection, w.socket.bind s.connection, answer⟩
    history := effect.state.history }

/-- The cleanup loop up to its next call, if `getfirst_app` returns, or the end of the thread behind it. -/
def clean (p : Process) (s : Server) (worker : Nat) (w : Worker) (fuel : Nat) : Server :=
  match getfirstApp fuel w.client.registeredApps with
  | none => s
  | some (app, list) =>
    if app = 0 then
      { s.put worker { w with doing := .ended } with
        connection := fun handle => if w.socket = some handle then none else s.connection handle
        sockets := freeSession w.sess s.sockets }
    else
      { s.put worker { w with client.registeredApps := list } with
        history := s.history ++ [(.release app, p.capi s.history (.release app))] }

/-- The first part of `ServiceExit`, up to where it waits for the accept loop. -/
def serviceExit (s : Server) : Server :=
  { s with
    running := false
    paused := false
    exiting := if s.exiting = .closing then .closing else .waiting
    shut := fun socket => s.shut socket || (List.range maxSessions).any fun i => s.sockets i = socket }

def control (s : Server) : Control → Server
  | .pause => { s with paused := true }
  | .resume => { s with paused := false }
  | .toggle => { s with paused := !s.paused }
  | .quit => { s with running := false }
  | .stop => s.serviceExit

def turn (s : Server) (worker : Nat) (w : Worker) : Server :=
  match w.doing with
  | .created => s.put worker { w with doing := .testing, socket := some (s.sockets w.sess) }
  | .testing => s.put worker { w with doing := if s.running then .checking else .closing }
  | .checking =>
    s.put worker { w with
      doing := if s.paused then .testing else if w.socket.any s.shut then .closing else .receiving }
  | .receiving | .closing | .ended => s

def step (p : Process) (s : Server) : ServerEvent → Server
  | .listen =>
    match s.listening with
    | .testing => { s with listening := if s.running then .sleeping else .ended }
    | .sleeping => { s with listening := if s.paused then .testing else .polling }
    | .polling | .ended => s
  | .connect connection created name list memory =>
    if s.listening = .polling then s.connect p connection created name list memory else s
  | .noConnection => if s.listening = .polling then { s with listening := .testing } else s
  | .selectFails => if s.listening = .polling then { s with listening := .ended } else s
  | .turn worker =>
    match s.workers[worker]? with
    | some w => s.turn worker w
    | none => s
  | .receive worker bytes =>
    match s.workers[worker]? with
    | some w =>
      if w.doing = .receiving ∧ bytes ≠ [] ∧ bytes.length ≤ msgSize then s.receive p worker w bytes else s
    | none => s
  | .lose worker =>
    match s.workers[worker]? with
    | some w => if w.doing = .receiving then s.put worker { w with doing := .closing } else s
    | none => s
  | .clean worker fuel =>
    match s.workers[worker]? with
    | some w => if w.doing = .closing then s.clean p worker w fuel else s
    | none => s
  | .wait waiter =>
    match s.waiters[waiter]? with
    | some ⟨socket, arrived, data, none⟩ =>
      let reply := p.capi s.history (.waitForSignal data.applID)
      { s with
        waiters := s.waiters.set waiter ⟨socket, arrived, data, some reply.code⟩
        history := s.history ++ [(.waitForSignal data.applID, reply)] }
    | _ => s
  | .answer waiter stack =>
    match s.waiters[waiter]? with
    | some ⟨socket, arrived, data, some result⟩ =>
      { s with
        waiters := s.waiters.eraseIdx waiter
        sent := s.sent ++ [⟨arrived, socket.bind s.connection, data.answer stack result⟩] }
    | _ => s
  | .control c => s.control c
  | .endLoop => if s.exiting = .waiting then { s with exiting := .closing, listening := .ended } else s
  | .closeSocket slot =>
    if s.exiting = .closing ∧ slot < maxSessions then
      { s with connection := Function.update s.connection (s.sockets slot) none }
    else s

/-- The server after its initialization. -/
def start : Server where
  running := true
  paused := false
  listening := .testing
  accepted := []
  connection := fun _ => none
  sockets := fun _ => invalidSocket
  shut := fun _ => false
  exiting := .no
  workers := []
  waiters := []
  sent := []
  history := []

def run (p : Process) (events : List ServerEvent) : Server := events.foldl (step p) start

theorem run_append (p : Process) (events : List ServerEvent) (e : ServerEvent) :
    run p (events ++ [e]) = (run p events).step p e := by
  rw [run, List.foldl_append]
  rfl

inductive Goes (s : Server) (w : Worker) : Worker → Prop where
  | begins (created : w.doing = .created) :
      Goes s w { w with doing := .testing, socket := some (s.sockets w.sess) }
  | tests (testing : w.doing = .testing) :
      Goes s w { w with doing := if s.running then .checking else .closing }
  | checks (checking : w.doing = .checking) : Goes s w { w with
      doing := if s.paused then .testing else if w.socket.any s.shut then .closing else .receiving }
  | receives (receiving : w.doing = .receiving) (client : ClientData) (memory : Memory) (bytes : List UInt8) :
    Goes s w { w with doing := .testing, client, memory, received := w.received ++ [bytes] }
  | loses (receiving : w.doing = .receiving) : Goes s w { w with doing := .closing }
  | releases (closing : w.doing = .closing) (list : Memory) :
      Goes s w { w with client.registeredApps := list }

inductive Listens (s : Server) : Listening → Prop where
  | tests (testing : s.listening = .testing) : Listens s (if s.running then .sleeping else .ended)
  | wakes (sleeping : s.listening = .sleeping) : Listens s (if s.paused then .testing else .polling)
  | polls (polling : s.listening = .polling) (next : Listening) (back : next = .testing ∨ next = .ended) :
      Listens s next

/-- What a step leaves of the waits and the answers: a wait was there, or has begun with the handle of the session
thread that received its request; an answer was there, or was sent through the handle of a wait or of a session
thread. -/
structure Posts (s : Server) (waiters : List WaitThread) (sent : List Delivery) : Prop where
  waits : ∀ w ∈ waiters, (∃ v ∈ s.waiters, w.socket = v.socket ∧ w.arrived = v.arrived) ∨
    ∃ v ∈ s.workers, v.doing = .receiving ∧ w.socket = v.socket ∧ w.arrived = v.socket.bind s.connection
  answers : ∀ d ∈ sent, d ∈ s.sent ∨
    (∃ v ∈ s.waiters, d.arrived = v.arrived ∧ d.destination = v.socket.bind s.connection) ∨
    ∃ v ∈ s.workers, v.doing = .receiving ∧ d.arrived = v.socket.bind s.connection ∧
      d.destination = v.socket.bind s.connection

theorem Posts.refl (s : Server) : s.Posts s.waiters s.sent :=
  ⟨fun w member => .inl ⟨w, member, rfl, rfl⟩, fun _ => .inl⟩

inductive Stepped (s : Server) : ServerEvent → Server → Prop where
  | works {e : ServerEvent} (here : s.workers[i]? = some w) (goes : s.Goes w w')
      (waiters : List WaitThread) (sent : List Delivery) (history : List CapiEvent)
      (posts : s.Posts waiters sent) :
    Stepped s e { s with workers := s.workers.set i w', waiters, sent, history }
  | listens {e : ServerEvent} (next : Listening) (listens : s.Listens next) :
      Stepped s e { s with listening := next }
  | connects {e : ServerEvent} {connection : UInt32} (polling : s.listening = .polling)
      (valid : connection ≠ invalidSocket) (fresh : s.connection connection = none) (created : Bool)
      (client : ClientData) (memory : Memory) :
    Stepped s e { s with
      listening := .testing
      accepted := s.accepted ++ [connection]
      connection := Function.update s.connection connection (some s.accepted.length)
      sockets := (allocSession s.sockets connection).2
      workers := if (allocSession s.sockets connection).1 ≠ -1 ∧ created then
        s.workers ++
          [⟨s.accepted.length, (allocSession s.sockets connection).1.toNat, .created, none, client, memory, []⟩]
        else s.workers }
  | calls {e : ServerEvent} (waiters : List WaitThread) (sent : List Delivery) (history : List CapiEvent)
      (posts : s.Posts waiters sent) :
    Stepped s e { s with waiters, sent, history }
  | controls (c : Control) : Stepped s (.control c) (s.control c)
  | ends {e : ServerEvent} : Stepped s e { s with exiting := .closing, listening := .ended }
  | closes {e : ServerEvent} (closing : s.exiting = .closing) (socket : UInt32) :
      Stepped s e { s with connection := Function.update s.connection socket none }

theorem Stepped.idle (s : Server) (e : ServerEvent) : s.Stepped e s :=
  .calls s.waiters s.sent s.history (.refl s)

theorem turn_stepped {s : Server} {e : ServerEvent} (here : s.workers[i]? = some w) : s.Stepped e
    (s.turn i w) := by
  unfold turn
  split
  · next created => exact .works here (.begins created) s.waiters s.sent s.history (.refl s)
  · next testing => exact .works here (.tests testing) s.waiters s.sent s.history (.refl s)
  · next checking => exact .works here (.checks checking) s.waiters s.sent s.history (.refl s)
  all_goals exact .idle s e

/-- `getfirst_app` never says that there is none. -/
theorem clean_stepped {p : Process} {s : Server} {e : ServerEvent} (here : s.workers[i]? = some w)
    (closing : w.doing = .closing) (fuel : Nat) : s.Stepped e (s.clean p i w fuel) := by
  unfold clean
  split
  · exact .idle s e
  · next app list found =>
    obtain ⟨-, rfl, -⟩ := getfirstApp_some found
    rw [if_neg (by decide)]
    exact .works here (.releases closing list) s.waiters s.sent _ (.refl s)

theorem receive_stepped {p : Process} {s : Server} {e : ServerEvent} (here : s.workers[i]? = some w)
    (receiving : w.doing = .receiving) (bytes : List UInt8) : s.Stepped e (s.receive p i w bytes) := by
  have member := List.mem_of_getElem? here
  refine .works here (.receives receiving _ _ bytes) _ _ _ ⟨fun wait new => ?_, fun answer new => ?_⟩
  · rcases List.mem_append.mp new with old | begun
    · exact .inl ⟨wait, old, rfl, rfl⟩
    · obtain ⟨data, -, rfl⟩ := List.mem_map.mp begun
      exact .inr ⟨w, member, receiving, rfl, rfl⟩
  · rcases List.mem_append.mp new with old | given
    · exact .inl old
    · obtain ⟨data, -, rfl⟩ := List.mem_map.mp given
      exact .inr (.inr ⟨w, member, receiving, rfl, rfl⟩)

theorem wait_stepped (p : Process) (s : Server) (waiter : Nat) : s.Stepped e (s.step p (.wait waiter)) := by
  simp only [step]
  split
  · next socket arrived data here =>
    refine .calls _ s.sent _ ⟨fun w changed => .inl ?_, fun _ => .inl⟩
    rcases List.mem_or_eq_of_mem_set changed with old | rfl
    · exact ⟨w, old, rfl, rfl⟩
    · exact ⟨_, List.mem_of_getElem? here, rfl, rfl⟩
  · exact .idle s _

theorem answer_stepped (p : Process) (s : Server) (waiter : Nat) (stack : Memory) :
    s.Stepped e (s.step p (.answer waiter stack)) := by
  simp only [step]
  split
  · next socket arrived data result here =>
    refine .calls _ _ s.history ⟨fun w kept => .inl ⟨w, (List.eraseIdx_sublist _ _).subset kept, rfl, rfl⟩,
      fun d new => ?_⟩
    rcases List.mem_append.mp new with old | last
    · exact .inl old
    · obtain rfl := List.mem_singleton.mp last
      exact .inr (.inl ⟨_, List.mem_of_getElem? here, rfl, rfl⟩)
  · exact .idle s _

theorem step_stepped (p : Process) (s : Server) (e : ServerEvent) : s.Stepped e (s.step p e) := by
  cases e with
  | listen =>
    simp only [step]
    split
    · next testing => exact .listens _ (.tests testing)
    · next sleeping => exact .listens _ (.wakes sleeping)
    all_goals exact .idle s _
  | connect connection created name list memory =>
    simp only [step]
    split
    · next polling =>
      unfold connect
      split
      · exact .listens _ (.polls polling _ (.inl rfl))
      · next valid =>
        split
        · exact .idle s _
        · next fresh =>
          exact .connects polling valid (Option.not_isSome_iff_eq_none.mp fresh) created _ memory
    · exact .idle s _
  | noConnection =>
    simp only [step]
    split
    · next polling => exact .listens _ (.polls polling _ (.inl rfl))
    · exact .idle s _
  | selectFails =>
    simp only [step]
    split
    · next polling => exact .listens _ (.polls polling _ (.inr rfl))
    · exact .idle s _
  | turn worker =>
    simp only [step]
    split
    · next here => exact turn_stepped here
    · exact .idle s _
  | receive worker bytes =>
    simp only [step]
    split
    · next w here =>
      split
      · next ready => exact receive_stepped here ready.1 bytes
      · exact .idle s _
    · exact .idle s _
  | lose worker =>
    simp only [step]
    split
    · next w here =>
      split
      · next ready => exact .works here (.loses ready) s.waiters s.sent s.history (.refl s)
      · exact .idle s _
    · exact .idle s _
  | clean worker fuel =>
    simp only [step]
    split
    · next w here =>
      split
      · next closing => exact clean_stepped here closing fuel
      · exact .idle s _
    · exact .idle s _
  | wait waiter => exact wait_stepped p s waiter
  | answer waiter stack => exact answer_stepped p s waiter stack
  | control c => exact .controls c
  | endLoop =>
    simp only [step]
    split
    · exact .ends
    · exact .idle s _
  | closeSocket slot =>
    simp only [step]
    split
    · next ready => exact .closes ready.1 _
    · exact .idle s _

end Server
end CapiProxy.Win32Server
