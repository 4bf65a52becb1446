import CapiProxy.LinuxClient.Outbound
import CapiProxy.LinuxClient.Turns
import CapiProxy.LinuxModule.Provenance
import CapiProxy.Traces.Moves

/-! The Linux station: kernelcapi calls the module, the daemon reads the module's messages and tells it about
registrations, and a server answers the daemon. What the daemon does with its node between two of its receive
calls is done call by call, and kernelcapi may come in between. -/
namespace CapiProxy.Integration
open LinuxModule LinuxClient Traces

/-- What the kernel headers and the socket are to both halves, the number of the controller, and the address of
`infobuffer`. -/
structure Setup where
  module : LinuxModule.Environment
  daemon : LinuxClient.Environment
  cnr : UInt32
  infobuffer : UInt32

/-- A call of the daemon into the module. -/
inductive NodeCall where
  | openNode
  | setData (info : InitData)
  | write (message : List UInt8)
  | registered (appl : UInt16)
  | regfail (appl : UInt16)
  | closeNode
  deriving DecidableEq, Repr

/-- The call at the card. A write finds its buffer in `memory`, if there is any. -/
def NodeCall.call (env : Setup) (memory : Option Bytes.Memory) : NodeCall → Call
  | .openNode => .openCard
  | .setData info =>
    .ioctl ioctlSetData env.infobuffer (Bytes.zeros.write env.infobuffer.toNat info.image)
  | .write message => .write memory message env.cnr
  | .registered appl => .ioctl ioctlApplRegistered appl.toUInt32 Bytes.zeros
  | .regfail appl => .ioctl ioctlErrorRegfail appl.toUInt32 Bytes.zeros
  | .closeNode => .release

/-- What the daemon does with the node when this has happened. -/
def nodeCalls : LinuxClient.Event → List NodeCall
  | .setData info => [.openNode, .setData info]
  | .written message => [.write message]
  | .registered appl _ => [.registered appl]
  | .regfail appl => [.regfail appl]
  | _ => []

/-- What a read from the node is to the daemon. -/
def ofRead : ReadResult → Result
  | .copied skb => if h : skb ≠ [] ∧ skb.length ≤ bufferSize then .data skb h.1 h.2 else .failed
  | _ => .failed

/-- The calls are those that the daemon makes before it goes on; `taken` has the number of its events at each
message that it has read. -/
structure Station where
  card : Card
  daemon : Daemon
  isOpen : Bool
  calls : List NodeCall
  taken : List Nat

/-- A call of kernelcapi, the next call of the daemon into the module, or its next system call; the result comes
from the server, or from standard input while the node is not open. -/
inductive StationMove where
  | kernelcapi (call : Call)
  | node (memory : Option Bytes.Memory)
  | daemon (r : Result)

namespace Station

/-- The node is open when the card was free. -/
def perform (env : Setup) (s : Station) (memory : Option Bytes.Memory) (call : NodeCall) : Station :=
  match call with
  | .openNode => { s with card := s.card.openCard env.module, isOpen := s.card.status = .free }
  | .closeNode => { s with card := if s.isOpen then s.card.release else s.card, isOpen := false }
  | call => { s with card := if s.isOpen then s.card.step env.module (call.call env memory) else s.card }

/-- The daemon has gone on, and leaves the module when it is down. -/
def after (s : Station) (card : Card) (daemon : Daemon) : Station :=
  { s with
    card
    daemon
    calls := (daemon.log.drop s.daemon.log.length).flatMap nodeCalls ++
      if daemon.control = .down ∧ s.daemon.control ≠ .down then [.closeNode] else []
    taken := s.taken ++ .replicate
      ((card.journal.fated .read).length - (s.card.journal.fated .read).length) s.daemon.log.length }

def step (env : Setup) (s : Station) : StationMove → Option Station
  | .kernelcapi call => some { s with card := s.card.step env.module call }
  | .node memory =>
    match s.calls with
    | call :: calls => some ({ s with calls }.perform env memory call)
    | [] => none
  | .daemon r =>
    if s.calls ≠ [] then none
    else if s.daemon.control = .read ∧ s.isOpen then
      let (card, result) := s.card.read bufferSize 0
      some (s.after card (s.daemon.step env.daemon (ofRead result)))
    else some (s.after s.card (s.daemon.step env.daemon r))

/-- The calls of kernelcapi into an attached controller. A CAPI message has a command, and it is not too long
for the send buffer of the daemon. -/
def fromKernelcapi : Call → Bool
  | .sendMessage skb => 6 ≤ skb.length ∧ skb[4]? ≠ some typeProxy ∧
      skb.length ≤ bufferSize - sizeofRequestHeader
  | .registerAppl .. | .releaseAppl .. | .resetCtr | .removeCtr _ => true
  | _ => false

/-- Nothing comes from standard input. -/
def allowed (s : Station) : StationMove → Bool
  | .kernelcapi call => s.isOpen ∧ fromKernelcapi call
  | .node _ => true
  | .daemon (.data ..) => s.daemon.control ≠ .read
  | .daemon _ => true

def start (env : Setup) (sessionId msgid : UInt32) (sendbuffer recvbuffer : Bytes.Memory) (info : InitData) :
    Station :=
  ⟨.init, .start env.daemon sessionId msgid sendbuffer recvbuffer info, false, [], []⟩

variable {env : Setup} {s s' : Station}

inductive Moved (env : Setup) (s : Station) : StationMove → Station → Prop where
  | calls (call : Call) (attached : s.isOpen) (may : fromKernelcapi call) :
      Moved env s (.kernelcapi call) { s with card := s.card.step env.module call }
  | performs (memory : Option Bytes.Memory) (call : NodeCall) (later : List NodeCall)
      (first : s.calls = call :: later) :
      Moved env s (.node memory) ({ s with calls := later }.perform env memory call)
  | takes (r : Result) (skb : Skb) (daemon : Daemon) (idle : s.calls = []) (opened : s.isOpen)
      (reads : s.daemon.control = .read)
      (copied : (s.card.read bufferSize 0).2 = .copied skb)
      (taken : Daemon.Taken env.daemon skb (s.daemon.storeRecv (s.daemon.recvbuffer.write 0 skb)) daemon) :
      Moved env s (.daemon r) (s.after (s.card.read bufferSize 0).1 daemon)
  | turns (r : Result) (card : Card) (daemon : Daemon) (idle : s.calls = [])
      (same : card = s.card ∨ card = (s.card.read bufferSize 0).1 ∧ ∀ skb, (s.card.read bufferSize 0).2 ≠ .copied skb)
      (turn : Daemon.Turn s.daemon daemon) : Moved env s (.daemon r) (s.after card daemon)

theorem moved (fits : ∀ skb, (s.card.read bufferSize 0).2 = .copied skb →
    6 ≤ skb.length ∧ skb.length + sizeofRequestHeader ≤ bufferSize) (may : s.allowed move)
    (made : s.step env move = some s') : Moved env s move s' := by
  cases move with
  | kernelcapi call =>
    simp only [allowed, decide_eq_true_eq] at may
    cases made
    exact .calls call may.1 may.2
  | node memory =>
    simp only [step] at made
    split at made
    · next call later first =>
      cases made
      exact .performs memory call later first
    · cases made
  | daemon r =>
    simp only [step] at made
    split at made
    · cases made
    · next idle =>
      rw [not_not] at idle
      split at made
      · next reading =>
        obtain ⟨reads, opened⟩ := reading
        cases made
        cases result : (s.card.read bufferSize 0).2 with
        | copied skb =>
          obtain ⟨long, short⟩ := fits skb result
          have whole : skb ≠ [] ∧ skb.length ≤ bufferSize :=
            ⟨List.ne_nil_of_length_pos (by omega), Nat.le_trans (Nat.le_add_right _ _) short⟩
          refine .takes r skb _ idle opened reads result ?_
          simp only [ofRead, dif_pos whole, Daemon.step, reads]
          exact Daemon.fromModule_taken env.daemon (Bytes.Holds.write s.daemon.recvbuffer 0 skb) short
        | emsgsize | notCopied | eagain | oops =>
          refine .turns r _ _ idle (.inr ⟨rfl, fun skb copied => ?_⟩)
              (Daemon.step_turn env.daemon _ _ fun _ _ _ _ same => by cases same)
          rw [result] at copied
          cases copied
      · next other =>
        cases made
        refine .turns r _ _ idle (.inl rfl) (Daemon.step_turn env.daemon _ _ ?_)
        rintro reads bytes nonempty fits rfl
        simp [allowed, reads] at may

/-- A message that the daemon has read, after so many events, and the request that it sent for it. -/
structure Reading where
  skb : Skb
  events : Nat
  request : Option (List UInt8)

/-- What became of a message: the daemon sent a request for it, that send call failed, or the message asked
for none. -/
inductive Outcome (env : LinuxClient.Environment) (skb : Skb) (events : Nat) : Option (List UInt8) → Prop where
  | sent (m : Bytes.Memory) (holds : Bytes.Holds m 0 skb) (op : Operation) (asks : asked env m = some op)
      (frame : List UInt8) (request : Asks env skb op frame) (accepted : env.send events = true) :
      Outcome env skb events (some frame)
  | unsent (m : Bytes.Memory) (holds : Bytes.Holds m 0 skb) (op : Operation) (asks : asked env m = some op)
      (failed : env.send events = false) : Outcome env skb events none
  | silent (m : Bytes.Memory) (holds : Bytes.Holds m 0 skb) (asks : asked env m = none) :
      Outcome env skb events none

/-- The requests for messages of the module, in the order in which the daemon sent them. -/
def requests (s : Station) : List (List UInt8) := s.daemon.log.filterMap Event.passed

/-- The books of the queue are in order, and so are the requests. -/
structure Ordered (env : Setup) (s : Station) : Prop where
  books : s.card.Books
  posts : s.card.Posts (bufferSize - sizeofRequestHeader)
  readings : ∃ readings : List Reading,
    readings.map (·.skb) = s.card.journal.fated .read ∧ readings.map (·.events) = s.taken ∧
      readings.filterMap (·.request) = s.requests ∧
        ∀ r ∈ readings, Outcome env.daemon r.skb r.events r.request

theorem Ordered.fits (ordered : s.Ordered env) (skb : Skb)
    (copied : (s.card.read bufferSize 0).2 = .copied skb) :
    6 ≤ skb.length ∧ skb.length + sizeofRequestHeader ≤ bufferSize := by
  have member : skb ∈ (s.card.step env.module (.read bufferSize 0)).journal.fated .read := by
    rw [Card.step_reads]
    simp [Card.returns, copied]
  have books := Card.step_books env.module ordered.books (.read bufferSize 0)
  have accepted := (books.accounts.fated_sublist .read).subset member
  have reads : (Call.read bufferSize 0).isMessage (bufferSize - sizeofRequestHeader) := trivial
  have message := ordered.posts.step env.module reads skb accepted
  have length := message.length (by decide)
  have room : bufferSize - sizeofRequestHeader + sizeofRequestHeader = bufferSize := by decide
  omega

theorem Ordered.long (ordered : s.Ordered env) : ∀ skb ∈ s.card.outgoingQueue, 6 ≤ skb.length := by
  intro skb member
  have accepted : skb ∈ s.card.journal.accepted := by
    rw [ordered.books.accounts]
    exact List.mem_append_right _ member
  exact ((ordered.posts skb accepted).length (by decide)).1

theorem fromKernelcapi_message {call : Call} (may : fromKernelcapi call) :
    call.isMessage (bufferSize - sizeofRequestHeader) := by
  cases call with
  | sendMessage skb => simpa [fromKernelcapi, Call.isMessage] using may
  | _ => trivial

theorem fromKernelcapi_returns {call : Call} (may : fromKernelcapi call) (c : Card) :
    c.returns call = none := by
  cases call <;> first | rfl | cases may

theorem perform_card (env : Setup) (s : Station) (memory : Option Bytes.Memory) (call : NodeCall) :
    (s.perform env memory call).daemon = s.daemon ∧ (s.perform env memory call).calls = s.calls ∧
      ((s.perform env memory call).card = s.card ∨
        (s.perform env memory call).card = s.card.step env.module (call.call env memory)) := by
  cases call with
  | openNode => exact ⟨rfl, rfl, .inr rfl⟩
  | _ =>
    refine ⟨rfl, rfl, ?_⟩
    simp only [perform]
    split
    · exact .inr rfl
    · exact .inl rfl

theorem Moved.card (moved : Moved env s move s') : s'.card = s.card ∨
    ∃ call, call.isMessage (bufferSize - sizeofRequestHeader) ∧ s'.card = s.card.step env.module call := by
  have reads : (Call.read bufferSize 0).isMessage (bufferSize - sizeofRequestHeader) := trivial
  cases moved with
  | calls call attached may => exact .inr ⟨call, fromKernelcapi_message may, rfl⟩
  | performs memory call later first =>
    obtain ⟨-, -, same | step⟩ := perform_card env { s with calls := later } memory call
    · exact .inl same
    · exact .inr ⟨_, by cases call <;> trivial, step⟩
  | takes => exact .inr ⟨_, reads, rfl⟩
  | turns r card daemon idle same turn =>
    rcases same with same | ⟨read, -⟩
    · exact .inl same
    · exact .inr ⟨_, reads, read⟩

/-- The messages that were read, and the daemon. -/
inductive Progress (env : Setup) (s s' : Station) : Prop where
  | same (reads : s'.card.journal.fated .read = s.card.journal.fated .read) (daemon : s'.daemon = s.daemon)
      (events : s'.taken = s.taken)
  | takes (skb : Skb) (reads : s'.card.journal.fated .read = s.card.journal.fated .read ++ [skb])
      (control : s.daemon.control = .read)
      (taken : Daemon.Taken env.daemon skb (s.daemon.storeRecv (s.daemon.recvbuffer.write 0 skb)) s'.daemon)
      (events : s'.taken = s.taken ++ [s.daemon.log.length])
  | turns (reads : s'.card.journal.fated .read = s.card.journal.fated .read)
      (turn : Daemon.Turn s.daemon s'.daemon) (events : s'.taken = s.taken)

theorem perform_taken (env : Setup) (s : Station) (memory : Option Bytes.Memory) (call : NodeCall) :
    (s.perform env memory call).taken = s.taken := by cases call <;> rfl

theorem after_taken {card : Card} {daemon : Daemon} {new : List Skb}
    (reads : card.journal.fated .read = s.card.journal.fated .read ++ new) :
    (s.after card daemon).taken = s.taken ++ .replicate new.length s.daemon.log.length := by
  rw [after, reads, List.length_append, Nat.add_sub_cancel_left]

theorem after_untaken {card : Card} {daemon : Daemon}
    (reads : card.journal.fated .read = s.card.journal.fated .read) :
    (s.after card daemon).taken = s.taken := by
  have none : (s.after card daemon).taken = s.taken ++ .replicate ([] : List Skb).length s.daemon.log.length :=
    after_taken (reads.trans (List.append_nil _).symm)
  rwa [List.length_nil, List.replicate_zero, List.append_nil] at none

theorem Moved.progress (moved : Moved env s move s') : Progress env s s' := by
  have silent {call : Call} (returns : s.card.returns call = none) :
      (s.card.step env.module call).journal.fated .read = s.card.journal.fated .read := by
    rw [Card.step_reads, returns, Option.toList_none, List.append_nil]
  cases moved with
  | calls call attached may => exact .same (silent (fromKernelcapi_returns may _)) rfl rfl
  | performs memory call later first =>
    have events := perform_taken env { s with calls := later } memory call
    obtain ⟨daemon, -, same | step⟩ := perform_card env { s with calls := later } memory call
    · exact .same (by rw [same]) daemon events
    · exact .same (by rw [step]; exact silent (by cases call <;> rfl)) daemon events
  | takes r skb daemon idle opened reads copied taken =>
    have read : (s.card.read bufferSize 0).1.journal.fated .read = s.card.journal.fated .read ++ [skb] := by
      refine (Card.step_reads env.module s.card (.read bufferSize 0)).trans ?_
      simp [Card.returns, copied]
    exact .takes skb read reads taken (after_taken read)
  | turns r card daemon idle same turn =>
    rcases same with rfl | ⟨rfl, none⟩
    · exact .turns rfl turn (after_untaken rfl)
    · have unread : s.card.returns (.read bufferSize 0) = .none := by simp only [Card.returns]
      exact .turns (silent unread) turn (after_untaken (silent unread))

theorem Ordered.last {readings : List Reading} {r : Reading}
    (frames : readings.filterMap (·.request) = s.requests) (requests : s'.requests = s.requests ++ r.request.toList) :
    (readings ++ [r]).filterMap (·.request) = s'.requests := by
  rw [List.filterMap_append, frames, requests, List.filterMap_cons]
  cases r.request <;> rfl

/-- The daemon has taken a message, and sent a request for it or not. -/
theorem taken_outcome {skb : Skb}
    (taken : Daemon.Taken env.daemon skb (s.daemon.storeRecv (s.daemon.recvbuffer.write 0 skb)) s'.daemon) :
    ∃ o, Outcome env.daemon skb s.daemon.log.length o ∧ s'.requests = s.requests ++ o.toList := by
  have holds : Bytes.Holds (s.daemon.recvbuffer.write 0 skb) 0 skb := .write _ _ _
  cases taken with
  | sends op asks sent frame request passed log control accepted =>
    refine ⟨some frame, .sent _ holds op asks frame request accepted, ?_⟩
    rw [requests, log, List.filterMap_append]
    simp [passed, requests, Daemon.storeRecv]
  | fails op asks unsent log =>
    refine ⟨none, .unsent _ holds op asks unsent, ?_⟩
    rw [requests, log, List.filterMap_append]
    cases op <;> simp [Operation.refusal, Event.passed, requests, Daemon.storeRecv]
  | ends asks shutdown log =>
    refine ⟨none, .silent _ holds asks, ?_⟩
    rw [requests, log]
    simp [requests, Daemon.storeRecv]
  | ignores asks other log =>
    refine ⟨none, .silent _ holds asks, ?_⟩
    rw [requests, log]
    simp [requests, Daemon.storeRecv]

theorem Ordered.moved (ordered : s.Ordered env) (moved : Moved env s move s') : s'.Ordered env := by
  have card : s'.card.Books ∧ s'.card.Posts (bufferSize - sizeofRequestHeader) := by
    rcases moved.card with same | ⟨call, message, step⟩
    · exact ⟨same ▸ ordered.books, same ▸ ordered.posts⟩
    · exact ⟨step ▸ Card.step_books env.module ordered.books call, step ▸ ordered.posts.step env.module message⟩
  refine ⟨card.1, card.2, ?_⟩
  obtain ⟨readings, messages, numbers, frames, each⟩ := ordered.readings
  cases moved.progress with
  | same reads daemon events =>
    exact ⟨readings, messages.trans reads.symm, numbers.trans events.symm,
      by rw [frames, requests, requests, daemon], each⟩
  | takes skb reads control taken events =>
    obtain ⟨o, outcome, requests⟩ := taken_outcome taken
    refine ⟨readings ++ [⟨skb, s.daemon.log.length, o⟩], ?_, ?_, Ordered.last frames requests, ?_⟩
    · rw [List.map_append, messages, reads]
      rfl
    · rw [List.map_append, numbers, events]
      rfl
    · exact List.forall_mem_append.mpr ⟨each, List.forall_mem_singleton.mpr outcome⟩
  | turns reads turn events =>
    exact ⟨readings, messages.trans reads.symm, numbers.trans events.symm, frames.trans turn.passed.symm, each⟩

theorem start_ordered (env : Setup) (sessionId msgid : UInt32) (sendbuffer recvbuffer : Bytes.Memory)
    (info : InitData) :
    (start env sessionId msgid sendbuffer recvbuffer info).Ordered env where
  books := Card.init_books
  posts := Card.init_posts _
  readings := by
    refine ⟨[], rfl, rfl, ?_, nofun⟩
    exact (Daemon.fetch_turns env.daemon .manufacturer
      ⟨.poll, sendbuffer, recvbuffer, msgid, sessionId, Daemon.cleared env.daemon,
        Daemon.cleared env.daemon, info, []⟩).1.passed.symm

/-- The requests that the daemon sends for messages of the module are those of the messages it has read, in
their order and at most one for each; there is none only where the message asks for none or where the send call
failed that the daemon made then. It reads the messages in the order in which kernelcapi's calls put them in
the queue, however the calls, the answers and the daemon's own calls into the module come in between. -/
theorem requests_in_order (env : Setup) (sessionId msgid : UInt32) (sendbuffer recvbuffer : Bytes.Memory)
    (info : InitData)
    (runs : Runs (step env) allowed (start env sessionId msgid sendbuffer recvbuffer info) s) :
    ∃ readings : List Reading,
      readings.map (·.skb) = s.card.journal.fated .read ∧ readings.map (·.events) = s.taken ∧
        readings.filterMap (·.request) = s.requests ∧
          (∀ r ∈ readings, Outcome env.daemon r.skb r.events r.request) ∧
            (s.card.journal.fated .read).Sublist s.card.journal.accepted := by
  have ordered := runs.invariant (start_ordered env sessionId msgid sendbuffer recvbuffer info)
    fun _ _ _ ordered may made => ordered.moved (Station.moved ordered.fits may made)
  obtain ⟨readings, messages, numbers, requests, each⟩ := ordered.readings
  exact ⟨readings, messages, numbers, requests, each, ordered.books.accounts.fated_sublist .read⟩

def sampleSetup : Setup where
  module := .sample
  daemon := .sample
  cnr := 1
  infobuffer := 0

def opening : List StationMove := initialized.map .daemon ++ [.node none, .node none]

def polling : List StationMove := [.daemon .failed, .daemon .failed]

def granted : StationMove := .daemon (.data (grant .capiRegister 5 5 []) (by decide) (by decide))

def firstMessage : List StationMove :=
  opening ++ .kernelcapi (.registerAppl true 1 ⟨1, 8, 1024⟩) :: polling ++
    [granted, .node none, .kernelcapi (.sendMessage [12, 0, 1, 0, 2, 0x80, 0, 0, 1, 0, 0, 0])] ++ polling

theorem firstMessage_requests : ∃ s : Station, s.requests.length = 2 ∧ s.card.applications 1 = .confirmed ∧
    ∃ readings : List Reading,
      readings.map (·.skb) = s.card.journal.fated .read ∧ readings.map (·.events) = s.taken ∧
        readings.filterMap (·.request) = s.requests ∧
          (∀ r ∈ readings, Outcome sampleSetup.daemon r.skb r.events r.request) ∧
            (s.card.journal.fated .read).Sublist s.card.journal.accepted := by
  have ends : (firstMessage.foldlM (permitted (step sampleSetup) allowed)
      (start sampleSetup 3 0 Bytes.zeros Bytes.zeros ⟨[], [], [], []⟩)).map
        (fun s => (s.requests.length, s.card.applications 1)) = some (2, .confirmed) := by decide +kernel
  obtain ⟨s, made, same⟩ := Option.map_eq_some_iff.mp ends
  obtain ⟨requests, confirmed⟩ := Prod.mk.inj same
  exact ⟨s, requests, confirmed, requests_in_order sampleSetup 3 0 _ _ _ (runs_of_moves made)⟩

end Station
end CapiProxy.Integration
