import CapiProxy.Win32Client.Receiver
import Mathlib.Logic.Function.Basic

/-! The threads of the client: any number of callers in `sendAndReceive` and the one that runs
`dispatchMessage` on every answer, with the server in between. The list of pending requests is
the only thing they share. Each operation on it is one step here; `Hash` has the two of the source. -/
namespace CapiProxy.Win32Client

/-- An entry of `evlhash`; `data` stands for the address of the caller's answer pointer. -/
structure Pending (κ : Type) where
  msgId : UInt32
  data : κ
  deriving DecidableEq, Repr

def addToHash (msgId : UInt32) (data : κ) (list : List (Pending κ)) : List (Pending κ) :=
  list ++ [⟨msgId, data⟩]

/-- Only the first entry with the id is taken out. -/
def removeFromHash (msgId : UInt32) : List (Pending κ) → List (Pending κ)
  | [] => []
  | queue :: next => if queue.msgId = msgId then next else queue :: removeFromHash msgId next

def getDataPtrFromMsgId (msgId : UInt32) : List (Pending κ) → Option κ
  | [] => none
  | queue :: next => if queue.msgId = msgId then some queue.data else getDataPtrFromMsgId msgId next

def Received.messageId (msg : Received) : UInt32 := (AnswerHeader.parse msg.message 0).messageId

/-- Where a caller is: outside, holding an id with its answer pointer cleared, listed, or
waiting for its answer pointer to be set. -/
inductive Phase where
  | idle
  | entered (msgId : UInt32)
  | listed (msgId : UInt32)
  | waiting (msgId : UInt32)
  deriving DecidableEq, Repr

/-- Where the dispatcher is with the answer in its hands; `crashed` is a write through a null
pointer. -/
inductive Dispatcher (κ : Type) where
  | idle
  | received (msg : Received)
  | found (msg : Received) (data : Option κ)
  | removed (msg : Received) (data : Option κ)
  | crashed

/-- A caller that left the wait loop of its request with an answer. -/
structure Departure (κ : Type) where
  caller : κ
  msgId : UInt32
  answer : Received

/-- The client, the requests the server has not answered yet and the answers on their way back;
`issued`, `answered` and `departed` log what has happened so far. -/
structure Threads (κ : Type) where
  msgId : UInt32
  phase : κ → Phase
  answer : κ → Option Received
  pending : List (Pending κ)
  dispatcher : Dispatcher κ
  outstanding : List UInt32
  inbound : List Received
  issued : List UInt32
  answered : List Received
  departed : List (Departure κ)

/-- Before the first request; the answer pointers hold anything. -/
def Threads.start (msgId : UInt32) (answer : κ → Option Received) : Threads κ where
  msgId := msgId
  phase := fun _ => .idle
  answer := answer
  pending := []
  dispatcher := .idle
  outstanding := []
  inbound := []
  issued := []
  answered := []
  departed := []

variable [DecidableEq κ]

namespace Threads

def enter (s : Threads κ) (c : κ) : Threads κ :=
  { s with
    msgId := s.msgId + 1
    phase := Function.update s.phase c (.entered (s.msgId + 1))
    answer := Function.update s.answer c none
    issued := s.issued ++ [s.msgId + 1] }

def add (s : Threads κ) (c : κ) (msgId : UInt32) : Threads κ :=
  { s with
    phase := Function.update s.phase c (.listed msgId)
    pending := addToHash msgId c s.pending }

def send (s : Threads κ) (c : κ) (msgId : UInt32) : Threads κ :=
  { s with
    phase := Function.update s.phase c (.waiting msgId)
    outstanding := s.outstanding ++ [msgId] }

def respond (s : Threads κ) (msg : Received) : Threads κ :=
  { s with
    outstanding := s.outstanding.erase msg.messageId
    inbound := s.inbound ++ [msg]
    answered := s.answered ++ [msg] }

def receive (s : Threads κ) (msg : Received) (later : List Received) : Threads κ :=
  { s with dispatcher := .received msg, inbound := later }

def lookup (s : Threads κ) (msg : Received) : Threads κ :=
  { s with dispatcher := .found msg (getDataPtrFromMsgId msg.messageId s.pending) }

def remove (s : Threads κ) (msg : Received) (data : Option κ) : Threads κ :=
  { s with
    dispatcher := .removed msg data
    pending := removeFromHash msg.messageId s.pending }

def store (s : Threads κ) (msg : Received) (c : κ) : Threads κ :=
  { s with dispatcher := .idle, answer := Function.update s.answer c (some msg) }

def leave (s : Threads κ) (c : κ) (msgId : UInt32) (msg : Received) : Threads κ :=
  { s with
    phase := Function.update s.phase c .idle
    departed := s.departed ++ [⟨c, msgId, msg⟩] }

end Threads

/-- What the threads and the server can do, in any order. Sending and allocating succeed, and
a receive call returns one answer. -/
inductive Step : Threads κ → Threads κ → Prop where
  | enter (c : κ) (idle : s.phase c = .idle) : Step s (s.enter c)
  | add (c : κ) (entered : s.phase c = .entered msgId) : Step s (s.add c msgId)
  | send (c : κ) (listed : s.phase c = .listed msgId) : Step s (s.send c msgId)
  | respond (msg : Received) (asked : msg.messageId ∈ s.outstanding) : Step s (s.respond msg)
  | receive (idle : s.dispatcher = .idle) (next : s.inbound = msg :: later) :
      Step s (s.receive msg later)
  | lookup (received : s.dispatcher = .received msg) : Step s (s.lookup msg)
  | remove (found : s.dispatcher = .found msg data) : Step s (s.remove msg data)
  | store (c : κ) (removed : s.dispatcher = .removed msg (some c)) : Step s (s.store msg c)
  | crash (removed : s.dispatcher = .removed msg none) : Step s { s with dispatcher := .crashed }
  | leave (c : κ) (waiting : s.phase c = .waiting msgId) (set : s.answer c = some msg) :
      Step s (s.leave c msgId msg)

omit [DecidableEq κ] in
theorem pending_once {list : List (Pending κ)} (listed : ⟨msgId, c⟩ ∈ list)
    (once : ∀ e ∈ list, e.msgId = msgId → e = ⟨msgId, c⟩) :
    getDataPtrFromMsgId msgId list = some c ∧ ∃ before after,
      list = before ++ ⟨msgId, c⟩ :: after ∧ removeFromHash msgId list = before ++ after := by
  induction list with
  | nil => cases listed
  | cons queue next ih =>
    by_cases same : queue.msgId = msgId
    · obtain rfl := once queue List.mem_cons_self same
      exact ⟨if_pos rfl, [], next, rfl, if_pos rfl⟩
    · have tail : ⟨msgId, c⟩ ∈ next := by
        rcases List.mem_cons.mp listed with here | there
        · exact absurd (congrArg Pending.msgId here).symm same
        · exact there
      obtain ⟨pointer, before, after, split, removed⟩ :=
        ih tail fun e member => once e (List.mem_cons_of_mem _ member)
      refine ⟨(if_neg same).trans pointer, queue :: before, after, ?_, ?_⟩
      · rw [split, List.cons_append]
      · rw [removeFromHash, if_neg same, removed, List.cons_append]

end CapiProxy.Win32Client
