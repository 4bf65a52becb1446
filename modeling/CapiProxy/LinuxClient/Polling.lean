import CapiProxy.LinuxClient.Daemon
import CapiProxy.Traces.Throughout

/-! The polling loop of the daemon. A WAITFORSIGNAL answer makes it send a GETMESSAGE request and
a GETMESSAGE answer a WAITFORSIGNAL request; one request or answer of either kind goes round for
each registered application. Nothing takes it out again when the application is released. -/
namespace CapiProxy.LinuxClient
open Bytes LinuxModule Traces

/-- An answer that one receive call returns whole. -/
structure Answer where
  head : AnswerHeader
  rest : List UInt8
  fits : sizeofAnswerHeader + rest.length ≤ bufferSize

namespace Answer

def bytes (a : Answer) : List UInt8 := a.head.bytes ++ a.rest

theorem length_bytes (a : Answer) : a.bytes.length = sizeofAnswerHeader + a.rest.length := by
  rw [bytes, List.length_append, AnswerHeader.length_bytes, sizeofAnswerHeader]

theorem nonempty (a : Answer) : a.bytes ≠ [] := by
  apply List.ne_nil_of_length_pos
  rw [length_bytes, sizeofAnswerHeader]
  omega

def result (a : Answer) : Result := .data a.bytes a.nonempty (a.length_bytes ▸ a.fits)

def id (a : Answer) : UInt16 := a.head.appId.toUInt16

/-- The answer has the type of the request, and its application id unless it assigns one. -/
def Echoes (a : Answer) (request : RequestHeader) : Prop :=
  a.head.messageType = request.messageType ∧
    (request.messageType ≠ MessageType.capiRegister.code → a.head.appId = request.appId)

instance (a : Answer) (request : RequestHeader) : Decidable (a.Echoes request) :=
  inferInstanceAs (Decidable (_ ∧ _))

end Answer

def heads (log : List Event) : List RequestHeader :=
  log.filterMap fun
    | .sent head _ => some head
    | _ => none

def isPoll (type : UInt32) : Bool :=
  type == MessageType.capiWaitforsignal.code || type == MessageType.capiGetmessage.code

def polls (id : UInt16) (type appId : UInt32) : Bool := isPoll type && appId.toUInt16 == id

/-- What the handled answers say of a remote id: an id is `drained` once a polling answer for it
has been handled after its release. -/
inductive Registration where
  | fresh | registered | released | drained
  deriving DecidableEq, Repr

namespace Daemon

/-- The daemon is in a receive call. -/
def listens (d : Daemon) : Bool :=
  match d.control with
  | .poll | .wait _ => true
  | _ => false

def registers (d : Daemon) (a : Answer) : Bool :=
  match d.completes a.result with
  | some (.register _) => true
  | _ => false

def tells (d : Daemon) (a : Answer) (old : Registration) : Registration :=
  match d.completes a.result with
  | some (.register _) => if a.head.capiError = 0 then .registered else old
  | some (.release _) => if a.head.capiError = 0 ∧ old = .registered then .released else old
  | _ => if isPoll a.head.messageType ∧ old = .released then .drained else old

/-- The send call that follows a handled answer; a message is written to the module before. -/
def sends (env : Environment) (d : Daemon) (a : Answer) : Bool :=
  env.send (d.log.length + if a.head.messageType = MessageType.capiGetmessage.code then 2 else 1)

end Daemon

/-- The daemon, the requests that the server has not answered, the answers that the daemon has
not received, and the state of the remote ids. -/
structure Link where
  daemon : Daemon
  requests : List RequestHeader
  answers : List Answer
  registration : UInt16 → Registration

/-- The server answers a request; the daemon receives the next answer; its receive call that does
not block finds nothing; it reads from the module. -/
inductive Action where
  | answer (request : RequestHeader) (a : Answer)
  | receive
  | nothing
  | read (r : Result)

namespace Link

/-- The daemon goes to its next system call. -/
def advance (env : Environment) (l : Link) (r : Result) : Link :=
  { l with
    daemon := l.daemon.step env r
    requests := l.requests ++ (heads (l.daemon.step env r).log).drop (heads l.daemon.log).length }

def handle (env : Environment) (l : Link) (a : Answer) (answers : List Answer) : Link :=
  { l.advance env a.result with
    answers
    registration :=
      Function.update l.registration a.id (l.daemon.tells a (l.registration a.id)) }

def step (env : Environment) (l : Link) : Action → Link
  | .answer request a =>
    if request ∈ l.requests ∧ a.Echoes request then
      { l with requests := l.requests.erase request, answers := l.answers ++ [a] }
    else l
  | .receive =>
    match l.daemon.listens, l.answers with
    | true, a :: answers => l.handle env a answers
    | _, _ => l
  | .nothing => if l.daemon.control = .poll then l.advance env .failed else l
  | .read r => if l.daemon.control = .read then l.advance env r else l

def start (d : Daemon) : Link := ⟨d, heads d.log, [], fun _ => .fresh⟩

def run (env : Environment) (l : Link) (actions : List Action) : Link := actions.foldl (step env) l

theorem run_append (env : Environment) (l : Link) (actions : List Action) (a : Action) :
    l.run env (actions ++ [a]) = (l.run env actions).step env a := by
  rw [run, List.foldl_append]
  rfl

/-- The WAITFORSIGNAL and GETMESSAGE requests and answers under way for a remote id. -/
def outstanding (l : Link) (id : UInt16) : Nat :=
  l.requests.countP (fun q => polls id q.messageType q.appId) +
    l.answers.countP fun a => polls id a.head.messageType a.head.appId

end Link

/-- How many of them there may be. -/
def Registration.Allows (n : Nat) : Registration → Prop
  | .registered => n = 1
  | .drained => n = 0
  | .fresh | .released => n ≤ 1

def Link.Tokens (l : Link) : Prop := ∀ id, (l.registration id).Allows (l.outstanding id)

/-- Polling answers are followed by a request while their id is registered and not once it is
released, and a registration finds no request or answer for its id under way. -/
structure Link.Relays (env : Environment) (l : Link) (a : Answer) : Prop where
  registered : isPoll a.head.messageType = true → l.registration a.id = .registered →
    l.daemon.sends env a = true
  released : isPoll a.head.messageType = true → l.registration a.id = .released →
    l.daemon.sends env a = false
  register : l.daemon.registers a = true → a.head.capiError = 0 →
    (l.daemon.sends env a = true ↔ l.outstanding a.id = 0)
  refused : l.daemon.registers a = true → a.head.capiError ≠ 0 → l.daemon.sends env a = true →
    l.outstanding a.id = 0 ∧ l.registration a.id ≠ .drained

def Link.Keeps (env : Environment) (l : Link) : Action → Prop
  | .receive => l.daemon.listens = true → ∀ a answers, l.answers = a :: answers → l.Relays env a
  | _ => True

theorem isPoll_iff : isPoll type = true ↔ MessageType.ofCode type = some .capiWaitforsignal ∨
    MessageType.ofCode type = some .capiGetmessage := by
  rw [isPoll, Bool.or_eq_true, beq_iff_eq, beq_iff_eq]
  constructor
  · rintro (rfl | rfl)
    · exact .inl (MessageType.ofCode_code _)
    · exact .inr (MessageType.ofCode_code _)
  · rintro (wait | get)
    · exact .inl (MessageType.code_of_ofCode wait).symm
    · exact .inr (MessageType.code_of_ofCode get).symm

namespace Daemon
variable {id : UInt16}

theorem receive_aheader (d : Daemon) (a : Answer) : (d.receive a.result).aheader = a.head :=
  AnswerHeader.parse_of_holds (Holds.left (Holds.write d.recvbuffer 0 a.bytes))

/-- The daemon has sent `n` polling requests for a remote id. -/
def Polls (id : UInt16) (n : Nat) (d d' : Daemon) : Prop :=
  ∃ sent, heads d'.log = heads d.log ++ sent ∧
    sent.countP (fun q => polls id q.messageType q.appId) = n

theorem Polls.refl (id : UInt16) (d : Daemon) : Polls id 0 d d := ⟨[], by simp, rfl⟩

theorem Polls.trans (first : Polls id n d d') (second : Polls id n' d' d'') :
    Polls id (n + n') d d'' := by
  obtain ⟨sent, log, rfl⟩ := first
  obtain ⟨sent', log', rfl⟩ := second
  exact ⟨sent ++ sent', by rw [log', log, List.append_assoc], List.countP_append⟩

theorem Polls.goto (sent : Polls id n d d') (control : Control) : Polls id n d (d'.goto control) :=
  sent

theorem note_polls (id : UInt16) (d : Daemon) {e : Event} (silent : heads [e] = []) :
    Polls id 0 d (d.note e) :=
  ⟨[], (List.filterMap_append ..).trans (congrArg (heads d.log ++ ·) silent), rfl⟩

theorem request_polls (env : Environment) (type : MessageType) (appl : UInt32)
    (body data : List UInt8) (d : Daemon) :
    Polls id (polls id type.code appl && env.send d.log.length).toNat d
      (d.request env type appl body data).1 := by
  unfold request
  cases env.send d.log.length with
  | true =>
    refine ⟨[d.header type appl data.length], List.filterMap_append .., ?_⟩
    rw [List.countP_singleton, Bool.and_true]
    cases poll : polls id type.code appl with
    | true => exact if_pos poll
    | false => exact if_neg (Bool.eq_false_iff.mp poll)
  | false =>
    rw [Bool.and_false]
    exact .refl id d

theorem request_silent (env : Environment) {type : MessageType} (other : isPoll type.code = false)
    (appl : UInt32) (body data : List UInt8) (d : Daemon) :
    Polls id 0 d (d.request env type appl body data).1 := by
  have sent : Polls id _ _ _ := request_polls env type appl body data d
  rw [polls, other, Bool.false_and, Bool.false_and] at sent
  exact sent

theorem await_polls {op : Operation} {next : Daemon → Daemon}
    (silent : ∀ d, Polls id 0 d (next d)) {sent : Daemon × Bool} (request : Polls id n d sent.1) :
    Polls id n d (await op next sent) := by
  obtain ⟨d', ok⟩ := sent
  cases ok with
  | true => exact request
  | false => exact request.trans (silent d')

theorem poll_polls (env : Environment) (type : MessageType) (poll : isPoll type.code = true)
    (appId : UInt32) (d : Daemon) :
    Polls id (appId.toUInt16 == id && env.send d.log.length).toNat d
      (d.request env type appId.toUInt16.toUInt32 [] []).1 := by
  have sent : Polls id _ _ _ := request_polls env type appId.toUInt16.toUInt32 [] [] d
  rw [polls, poll, Bool.true_and, UInt16.toUInt16_toUInt32] at sent
  exact sent

/-- A packet is followed by a polling request when it is a polling answer and the send call succeeds; a
message is written to the module before. -/
theorem handleServerpacket_polls (env : Environment) (d : Daemon) :
    Polls id (isPoll d.aheader.messageType && (d.aheader.appId.toUInt16 == id &&
        env.send (d.log.length +
          if d.aheader.messageType = MessageType.capiGetmessage.code then 1 else 0))).toNat
      d (d.handleServerpacket env) := by
  cases poll : isPoll d.aheader.messageType with
  | true =>
    rcases isPoll_iff.mp poll with wait | get
    · have other : d.aheader.messageType ≠ MessageType.capiGetmessage.code := by
        rw [← MessageType.code_of_ofCode wait]; decide
      simp only [handleServerpacket, wait, if_neg other, Bool.true_and, Nat.add_zero]
      exact poll_polls env .capiGetmessage rfl d.aheader.appId d
    · have written : Polls id 0 d (d.sendToModule env) := note_polls id (d.storeSend _) rfl
      have sent := written.trans (poll_polls env .capiWaitforsignal rfl d.aheader.appId (d.sendToModule env))
      have length : (d.sendToModule env).log.length = d.log.length + 1 := List.length_append
      simp only [handleServerpacket, get, if_pos (MessageType.code_of_ofCode get).symm, Bool.true_and]
      rw [Nat.zero_add, length] at sent
      exact sent
  | false =>
    have no {type : MessageType} (polls : isPoll type.code = true) :
        MessageType.ofCode d.aheader.messageType ≠ some type := by
      intro same
      rw [MessageType.code_of_ofCode same, poll] at polls
      cases polls
    rw [Bool.false_and, handleServerpacket]
    split
    · next wait => exact absurd wait (no rfl)
    · next get => exact absurd get (no rfl)
    · exact .refl id d

theorem length_log_receive (d : Daemon) (r : Result) : (d.receive r).log.length = d.log.length + 1 :=
  List.length_append

theorem receive_silent (id : UInt16) (d : Daemon) (r : Result) : Polls id 0 d (d.receive r) :=
  note_polls id (d.storeRecv _) rfl

theorem handled_polls (env : Environment) (d : Daemon) (r : Result) :
    Polls id (isPoll (d.receive r).aheader.messageType && ((d.receive r).aheader.appId.toUInt16 == id &&
        env.send (d.log.length +
          if (d.receive r).aheader.messageType = MessageType.capiGetmessage.code then 2 else 1))).toNat
      d ((d.receive r).handleServerpacket env) := by
  have sent := (receive_silent id d r).trans (handleServerpacket_polls env (d.receive r))
  have events : d.log.length + 1 +
      (if (d.receive r).aheader.messageType = MessageType.capiGetmessage.code then 1 else 0) =
        d.log.length +
          if (d.receive r).aheader.messageType = MessageType.capiGetmessage.code then 2 else 1 := by
    split <;> rfl
  rw [Nat.zero_add, length_log_receive, events] at sent
  exact sent

theorem answer_polls (env : Environment) (d : Daemon) (a : Answer) :
    Polls id (isPoll a.head.messageType && (a.id == id && d.sends env a)).toNat d
      ((d.receive a.result).handleServerpacket env) := by
  have sent : Polls id _ _ _ := handled_polls env d a.result
  rw [receive_aheader] at sent
  exact sent

theorem finish_register_polls (env : Environment) (appl : UInt16) (d : Daemon)
    (granted : d.aheader.proxyError = perrorNone) :
    Polls id (d.aheader.appId.toUInt16 == id && env.send d.log.length).toNat d
      (d.finish env (.register appl)) := by
  let remote := d.aheader.appId.toUInt16
  let polled := (d.remoteWaitforsignal env remote).1
  have sent : Polls id _ d polled := poll_polls env .capiWaitforsignal rfl d.aheader.appId d
  have entered : Polls id 0 polled ((polled.enter appl remote).note (.registered appl remote)) :=
    note_polls id (polled.enter appl remote) rfl
  have done : d.finish env (.register appl) =
      ((polled.enter appl remote).note (.registered appl remote)).goto .poll :=
    if_neg (not_not.mpr granted)
  rw [done]
  exact (sent.trans entered).goto .poll

theorem fetch_polls (env : Environment) (property : Property) (d : Daemon) :
    Polls id 0 d (d.fetch env property) := by
  have other : isPoll property.type.code = false := by cases property <;> rfl
  exact await_polls (.refl id) (request_silent env other 0 [] [] d)

theorem finish_silent (env : Environment) (op : Operation) (d : Daemon)
    (other : d.aheader.proxyError = perrorNone → ∀ appl, op ≠ .register appl) :
    Polls id 0 d (d.finish env op) := by
  unfold finish
  split
  · cases op with
    | register appl => exact note_polls id d rfl
    | release appl => exact .refl id d
    | put => exact .refl id d
    | fetch property => exact .refl id d
  · next granted =>
    cases op with
    | register appl => exact absurd rfl (other (not_not.mp granted) appl)
    | release appl => exact note_polls id d rfl
    | put => exact .refl id d
    | fetch property =>
      cases property with
      | manufacturer => exact fetch_polls env .version (d.collect _)
      | version => exact fetch_polls env .serial (d.collect _)
      | serial => exact fetch_polls env .profile (d.collect _)
      | profile => exact note_polls id (d.collect _) rfl

theorem fromModule_silent (env : Environment) (len : Nat) (d : Daemon) :
    Polls id 0 d (d.fromModule env len) := by
  have register : isPoll MessageType.capiRegister.code = false := rfl
  have release : isPoll MessageType.capiRelease.code = false := rfl
  have put : isPoll MessageType.capiPutmessage.code = false := rfl
  unfold fromModule
  dsimp only
  split
  · split
    · exact await_polls (fun d => note_polls id d rfl) (request_silent env register _ _ _ d)
    · split
      · exact await_polls (.refl id) (request_silent env release _ _ _ d)
      · split <;> exact .refl id d
  · exact await_polls (.refl id) (request_silent env put _ _ _ (d.storeRecv _))

theorem awaits_silent (op : Operation) : isPoll op.awaits.code = false := by
  cases op with
  | fetch property => cases property <;> rfl
  | _ => rfl

theorem completes_wait {d : Daemon} (control : d.control = .wait op) (a : Answer) :
    d.completes a.result =
      if a.head.proxyError = perrorNone ∧ a.head.messageType = op.awaits.code then some op
      else none := by
  have stored : d.receive (.data a.bytes a.nonempty (a.length_bytes ▸ a.fits)) = d.receive a.result := rfl
  simp only [completes, control, Answer.result, stored, receive_aheader]
  by_cases granted : a.head.proxyError = perrorNone
  · by_cases awaited : a.head.messageType = op.awaits.code
    · rw [if_neg (not_not.mpr granted), if_neg (not_not.mpr awaited), if_pos ⟨granted, awaited⟩]
    · rw [if_neg (not_not.mpr granted), if_pos awaited, if_neg fun both => awaited both.2]
  · rw [if_pos granted, if_neg fun both => granted both.1]

theorem step_poll (env : Environment) {d : Daemon} (control : d.control = .poll) (a : Answer) :
    d.step env a.result = ((d.receive a.result).handleServerpacket env).goto .read := by
  simp only [step, control]
  rfl

theorem step_wait (env : Environment) {d : Daemon} (control : d.control = .wait op) (a : Answer) :
    d.step env a.result =
      if a.head.messageType = op.awaits.code then (d.receive a.result).finish env op
      else (d.receive a.result).handleServerpacket env := by
  have stored : d.receive (.data a.bytes a.nonempty (a.length_bytes ▸ a.fits)) = d.receive a.result := rfl
  simp only [step, control, Answer.result, stored, receive_aheader]
  exact ite_not ..

theorem finish_polls (env : Environment) {d : Daemon} (control : d.control = .wait op) (a : Answer)
    (awaited : a.head.messageType = op.awaits.code) :
    Polls id (d.registers a && (a.id == id && d.sends env a)).toNat d
      ((d.receive a.result).finish env op) := by
  have header := receive_aheader d a
  have completes := completes_wait control a
  have received := receive_silent id d a.result
  by_cases registers : a.head.proxyError = perrorNone ∧ ∃ appl, op = .register appl
  · obtain ⟨granted, appl, rfl⟩ := registers
    have sent := received.trans (finish_register_polls env appl (d.receive a.result)
      (header ▸ granted))
    have get : a.head.messageType ≠ MessageType.capiGetmessage.code :=
      awaited ▸ (by decide : MessageType.capiRegister.code ≠ MessageType.capiGetmessage.code)
    rw [Nat.zero_add, header, length_log_receive] at sent
    rw [Daemon.registers, completes, if_pos ⟨granted, awaited⟩, sends, if_neg get]
    exact sent
  · have silent : Polls id 0 _ _ := finish_silent env op (d.receive a.result) fun granted appl same =>
      registers ⟨header ▸ granted, appl, same⟩
    have idle : d.registers a = false := by
      rw [Daemon.registers, completes]
      split
      · next appl found =>
        split at found
        · next both => exact absurd ⟨both.1, appl, Option.some.inj found⟩ registers
        · cases found
      · rfl
    rw [idle]
    exact received.trans silent

theorem receive_polls (env : Environment) (d : Daemon) (a : Answer) (listens : d.listens = true) :
    Polls id ((isPoll a.head.messageType || d.registers a) && (a.id == id && d.sends env a)).toNat d
      (d.step env a.result) := by
  have handled (idle : d.registers a = false) :
      Polls id ((isPoll a.head.messageType || d.registers a) && (a.id == id && d.sends env a)).toNat d
        ((d.receive a.result).handleServerpacket env) := by
    rw [idle, Bool.or_false]
    exact answer_polls env d a
  cases control : d.control with
  | read => simp only [Daemon.listens, control, Bool.false_eq_true] at listens
  | down => simp only [Daemon.listens, control, Bool.false_eq_true] at listens
  | poll =>
    rw [step_poll env control]
    exact (handled (by simp only [registers, completes, control])).goto .read
  | wait op =>
    rw [step_wait env control]
    split
    · next awaited =>
      rw [awaited, awaits_silent, Bool.false_or]
      exact finish_polls env control a awaited
    · next other =>
      refine handled ?_
      rw [Daemon.registers, completes_wait control, if_neg fun both => other both.2]

theorem poll_completes {d : Daemon} {a : Answer} (poll : isPoll a.head.messageType = true) :
    d.completes a.result = none := by
  cases control : d.control with
  | wait op =>
    rw [completes_wait control, if_neg]
    rintro ⟨-, awaited⟩
    rw [awaited, awaits_silent] at poll
    cases poll
  | _ => simp only [completes, control]

theorem registers_iff {d : Daemon} {a : Answer} :
    d.registers a = true ↔ ∃ appl, d.completes a.result = some (.register appl) := by
  unfold registers
  split
  · next appl completes => exact iff_of_true rfl ⟨appl, completes⟩
  · next other => exact iff_of_false Bool.false_ne_true fun ⟨appl, completes⟩ => other appl completes

theorem tells_register {d : Daemon} {a : Answer} (registers : d.registers a = true)
    (old : Registration) : d.tells a old = if a.head.capiError = 0 then .registered else old := by
  obtain ⟨appl, completes⟩ := registers_iff.mp registers
  simp only [tells, completes]

theorem tells_poll {d : Daemon} {a : Answer} (poll : isPoll a.head.messageType = true)
    (old : Registration) : d.tells a old = if old = .released then .drained else old := by
  simp only [tells, poll_completes poll, poll, true_and]

theorem tells_other {d : Daemon} {a : Answer} (registers : d.registers a = false)
    (other : isPoll a.head.messageType = false) (old : Registration) :
    d.tells a old = old ∨ (old = .registered ∧ d.tells a old = .released) := by
  unfold tells
  split
  · next appl completes => cases registers.symm.trans (registers_iff.mpr ⟨appl, completes⟩)
  · split
    · next released => exact .inr ⟨released.2, rfl⟩
    · exact .inl rfl
  · rw [other, if_neg fun both => Bool.false_ne_true both.1]
    exact .inl rfl

end Daemon

theorem Registration.Allows.le_one {old : Registration} (allows : old.Allows n) : n ≤ 1 := by
  cases old with
  | fresh => exact allows
  | registered => exact Nat.le_of_eq allows
  | released => exact allows
  | drained =>
    rw [show n = 0 from allows]
    exact Nat.zero_le 1

namespace Link
variable {id : UInt16}

theorem answer_outstanding {l : Link} (member : request ∈ l.requests) (echoes : a.Echoes request) :
    Link.outstanding { l with requests := l.requests.erase request, answers := l.answers ++ [a] } id =
      l.outstanding id := by
  have same : polls id a.head.messageType a.head.appId = polls id request.messageType request.appId := by
    rw [echoes.1]
    by_cases register : request.messageType = MessageType.capiRegister.code
    · rw [polls, polls, register]
      rfl
    · rw [echoes.2 register]
  have moved := (List.perm_cons_erase member).countP_eq
    (fun q => polls id q.messageType q.appId)
  simp only [outstanding, List.countP_append, List.countP_cons, List.countP_nil, same, moved]
  omega

theorem advance_outstanding {env : Environment} {l : Link} {r : Result}
    (sent : Daemon.Polls id n l.daemon (l.daemon.step env r)) :
    (l.advance env r).outstanding id = l.outstanding id + n := by
  obtain ⟨new, log, rfl⟩ := sent
  simp only [outstanding, advance, log, List.drop_left, List.countP_append]
  omega

theorem handle_outstanding (env : Environment) (id : UInt16) {l : Link} (listens : l.daemon.listens = true)
    (first : l.answers = a :: rest) :
    (l.handle env a rest).outstanding id + (polls id a.head.messageType a.head.appId).toNat =
      l.outstanding id + ((isPoll a.head.messageType || l.daemon.registers a) &&
        (a.id == id && l.daemon.sends env a)).toNat := by
  have polled : Daemon.Polls id _ _ _ := Daemon.receive_polls env l.daemon a listens
  have sent := advance_outstanding polled
  have count : (l.advance env a.result).outstanding id =
      (l.handle env a rest).outstanding id + (polls id a.head.messageType a.head.appId).toNat := by
    have tail : (l.advance env a.result).answers = a :: rest := first
    simp only [outstanding, tail, List.countP_cons, handle]
    cases polls id a.head.messageType a.head.appId <;> rfl
  rw [← count, sent]

/-- A polling answer: its own place is free when the next request is sent. -/
theorem poll_iff {env : Environment} {l : Link} (tokens : l.Tokens)
    (poll : isPoll a.head.messageType = true) (registers : l.daemon.registers a = false)
    (present : 1 ≤ l.outstanding a.id) (count : n + 1 = l.outstanding a.id + (l.daemon.sends env a).toNat) :
    (l.daemon.tells a (l.registration a.id)).Allows n ↔ l.Relays env a := by
  have single : l.outstanding a.id = 1 := Nat.le_antisymm (tokens a.id).le_one present
  obtain rfl : n = (l.daemon.sends env a).toNat := by omega
  rw [Daemon.tells_poll poll]
  constructor
  · intro allowed
    refine ⟨fun _ old => ?_, fun _ old => ?_, ?_, ?_⟩
    · rw [old, if_neg (by decide)] at allowed
      exact Bool.toNat_eq_one.mp allowed
    · rw [old, if_pos rfl] at allowed
      exact Bool.toNat_eq_zero.mp allowed
    · intro yes
      cases registers.symm.trans yes
    · intro yes
      cases registers.symm.trans yes
  · intro relays
    have before := tokens a.id
    cases old : l.registration a.id with
    | fresh => exact Bool.toNat_le _
    | registered => exact congrArg Bool.toNat (relays.registered poll old)
    | released => exact congrArg Bool.toNat (relays.released poll old)
    | drained =>
      rw [old, single] at before
      cases before

/-- A granted registration: the first polling request must be the only one. -/
theorem register_iff {env : Environment} {l : Link} (tokens : l.Tokens)
    (other : isPoll a.head.messageType = false) (registers : l.daemon.registers a = true)
    (count : n = l.outstanding a.id + (l.daemon.sends env a).toNat) :
    (l.daemon.tells a (l.registration a.id)).Allows n ↔ l.Relays env a := by
  have before := tokens a.id
  have single := before.le_one
  have noPoll : isPoll a.head.messageType ≠ true := by rw [other]; exact Bool.false_ne_true
  subst count
  rw [Daemon.tells_register registers]
  by_cases valid : a.head.capiError = 0
  · rw [if_pos valid]
    constructor
    · intro allowed
      refine ⟨fun poll => absurd poll noPoll, fun poll => absurd poll noPoll, fun _ _ => ?_,
        fun _ invalid => absurd valid invalid⟩
      change _ = 1 at allowed
      cases sends : l.daemon.sends env a <;> rw [sends] at allowed <;> simp at allowed ⊢ <;> omega
    · intro relays
      have once := relays.register registers valid
      change _ = 1
      cases sends : l.daemon.sends env a <;> rw [sends] at once <;> simp at once ⊢ <;> omega
  · rw [if_neg valid]
    constructor
    · intro allowed
      refine ⟨fun poll => absurd poll noPoll, fun poll => absurd poll noPoll,
        fun _ valid' => absurd valid' valid, fun _ _ sends => ?_⟩
      rw [sends] at allowed
      have most : l.outstanding a.id + 1 ≤ 1 := allowed.le_one
      refine ⟨by omega, fun old => ?_⟩
      rw [old] at allowed
      cases allowed
    · intro relays
      cases sends : l.daemon.sends env a with
      | false => exact before
      | true =>
        obtain ⟨none, running⟩ := relays.refused registers valid sends
        rw [none] at before ⊢
        cases old : l.registration a.id with
        | fresh => exact Nat.le_refl 1
        | released => exact Nat.le_refl 1
        | registered =>
          rw [old] at before
          cases before
        | drained => exact absurd old running

theorem other_iff {env : Environment} {l : Link} (tokens : l.Tokens)
    (other : isPoll a.head.messageType = false) (registers : l.daemon.registers a = false) :
    (l.daemon.tells a (l.registration a.id)).Allows (l.outstanding a.id) ↔ l.Relays env a := by
  have noPoll : isPoll a.head.messageType ≠ true := by rw [other]; exact Bool.false_ne_true
  have noRegister : l.daemon.registers a ≠ true := by rw [registers]; exact Bool.false_ne_true
  apply iff_of_true
  · rcases Daemon.tells_other registers other (l.registration a.id) with same | ⟨-, released⟩
    · rw [same]
      exact tokens a.id
    · rw [released]
      exact (tokens a.id).le_one
  · exact ⟨fun poll => absurd poll noPoll, fun poll => absurd poll noPoll,
      fun yes => absurd yes noRegister, fun yes => absurd yes noRegister⟩

theorem handle_elsewhere (env : Environment) {l : Link} (listens : l.daemon.listens = true)
    (first : l.answers = a :: rest) (apart : id ≠ a.id) :
    (l.handle env a rest).outstanding id = l.outstanding id ∧
      (l.handle env a rest).registration id = l.registration id := by
  refine ⟨?_, Function.update_of_ne apart ..⟩
  have count := handle_outstanding env id listens first
  have other : (a.id == id) = false := beq_eq_false_iff_ne.mpr apart.symm
  have none : polls id a.head.messageType a.head.appId = false := by
    rw [polls]
    exact (congrArg _ other).trans (Bool.and_false _)
  rw [none, other, Bool.false_and, Bool.and_false] at count
  exact count

/-- For its own id, an answer of any kind keeps the count when it is relayed. -/
theorem handle_here_iff (env : Environment) {l : Link} (tokens : l.Tokens)
    (listens : l.daemon.listens = true) (first : l.answers = a :: rest) :
    ((l.handle env a rest).registration a.id).Allows ((l.handle env a rest).outstanding a.id) ↔
      l.Relays env a := by
  have count := handle_outstanding env a.id listens first
  have own : polls a.id a.head.messageType a.head.appId = isPoll a.head.messageType := by
    rw [polls]
    exact (congrArg _ (beq_self_eq_true a.id)).trans (Bool.and_true _)
  rw [own, beq_self_eq_true, Bool.true_and] at count
  have told : (l.handle env a rest).registration a.id = l.daemon.tells a (l.registration a.id) :=
    Function.update_self ..
  rw [told]
  cases poll : isPoll a.head.messageType with
  | true =>
    have registers : l.daemon.registers a = false := by
      rw [Daemon.registers, Daemon.poll_completes poll]
    have present : 1 ≤ l.outstanding a.id := by
      have counted : 0 < l.answers.countP fun a' => polls a.id a'.head.messageType a'.head.appId :=
        List.countP_pos_iff.mpr ⟨a, by rw [first]; exact List.mem_cons_self, own.trans poll⟩
      exact Nat.le_add_left_of_le counted
    rw [poll, Bool.true_or, Bool.true_and] at count
    exact poll_iff tokens poll registers present count
  | false =>
    rw [poll, Bool.false_or] at count
    cases registers : l.daemon.registers a with
    | true =>
      rw [registers, Bool.true_and] at count
      exact register_iff tokens poll registers count
    | false =>
      rw [registers, Bool.false_and] at count
      rw [show (l.handle env a rest).outstanding a.id = l.outstanding a.id from count]
      exact other_iff tokens poll registers

theorem handle_tokens_iff (env : Environment) {l : Link} (tokens : l.Tokens)
    (listens : l.daemon.listens = true) (first : l.answers = a :: rest) :
    (l.handle env a rest).Tokens ↔ l.Relays env a := by
  have here := handle_here_iff env tokens listens first
  refine ⟨fun whole => here.mp (whole a.id), fun relays id => ?_⟩
  by_cases same : id = a.id
  · rw [same]
    exact here.mpr relays
  · obtain ⟨outstanding, registration⟩ := handle_elsewhere env listens first same
    rw [outstanding, registration]
    exact tokens id

theorem advance_silent {env : Environment} {l : Link} {r : Result} (tokens : l.Tokens)
    (silent : ∀ id, Daemon.Polls id 0 l.daemon (l.daemon.step env r)) : (l.advance env r).Tokens := by
  intro id
  rw [advance_outstanding (silent id)]
  exact tokens id

theorem read_silent (env : Environment) {d : Daemon} (control : d.control = .read) (r : Result) :
    Daemon.Polls id 0 d (d.step env r) := by
  simp only [Daemon.step, control]
  cases r with
  | data bytes => exact Daemon.fromModule_silent env bytes.length (d.storeRecv _)
  | closed => exact .refl id d
  | failed => exact .refl id d

theorem step_tokens_iff (env : Environment) {l : Link} (tokens : l.Tokens) (action : Action) :
    (l.step env action).Tokens ↔ l.Keeps env action := by
  cases action with
  | answer request a =>
    refine iff_of_true ?_ trivial
    simp only [step]
    split
    · next allowed =>
      intro id
      rw [answer_outstanding allowed.1 allowed.2]
      exact tokens id
    · exact tokens
  | nothing =>
    refine iff_of_true ?_ trivial
    simp only [step]
    split
    · next control =>
      refine advance_silent tokens fun id => ?_
      simp only [Daemon.step, control]
      exact .refl id l.daemon
    · exact tokens
  | read r =>
    refine iff_of_true ?_ trivial
    simp only [step]
    split
    · next control => exact advance_silent tokens fun id => read_silent env control r
    · exact tokens
  | receive =>
    simp only [step, Keeps]
    cases listens : l.daemon.listens with
    | false => exact iff_of_true tokens fun on => absurd on Bool.false_ne_true
    | true =>
      cases first : l.answers with
      | nil => exact iff_of_true tokens fun _ a rest same => absurd same (List.cons_ne_nil a rest).symm
      | cons a rest =>
        refine (handle_tokens_iff env tokens listens first).trans ⟨fun relays _ a' rest' same => ?_,
          fun keeps => keeps rfl a rest rfl⟩
        cases same
        exact relays

theorem start_tokens (env : Environment) (sessionId msgid : UInt32) (sendbuffer recvbuffer : Memory)
    (info : InitData) : (start (.start env sessionId msgid sendbuffer recvbuffer info)).Tokens := by
  intro id
  let d : Daemon :=
    ⟨.poll, sendbuffer, recvbuffer, msgid, sessionId, Daemon.cleared env, Daemon.cleared env, info, []⟩
  have polled : Daemon.Polls id 0 _ _ := Daemon.fetch_polls env .manufacturer d
  obtain ⟨sent, log, count⟩ := polled
  have none : (start (.start env sessionId msgid sendbuffer recvbuffer info)).outstanding id = 0 :=
    (congrArg (List.countP fun q : RequestHeader => polls id q.messageType q.appId) log).trans count
  rw [none]
  exact Nat.zero_le 1

end Link

/-- In a run of the daemon and a server that answers its requests in any order, at most one
polling request or answer is under way for a remote id, exactly one while it is registered, and
none once it is released and the last answer handled, exactly when polling answers for released
ids are not answered with requests, and registrations find no poll for their id under way. -/
theorem tokens_iff (env : Environment) (sessionId msgid : UInt32) (sendbuffer recvbuffer : Memory)
    (info : InitData) (actions : List Action) :
    Throughout (fun before action =>
      (((Link.start (.start env sessionId msgid sendbuffer recvbuffer info)).run env before).step env
        action).Tokens) actions ↔
    Throughout (fun before action =>
      ((Link.start (.start env sessionId msgid sendbuffer recvbuffer info)).run env before).Keeps env
        action) actions := by
  refine throughout_iff_of_invariant
    (P := fun before => ((Link.start (.start env sessionId msgid sendbuffer recvbuffer info)).run env
      before).Tokens)
    (Link.start_tokens env sessionId msgid sendbuffer recvbuffer info) ?_ ?_ actions
  · intro before action tokens
    exact Link.step_tokens_iff env tokens action
  · intro before action tokens keeps
    rw [Link.run_append]
    exact (Link.step_tokens_iff env tokens action).mpr keeps

/-- A request of session 3. -/
def sampleRequest (type : MessageType) (messageId appId : UInt32) : RequestHeader where
  messageLen := .ofNat (sizeofRequestHeader + type.sizeofRequest .gnuC)
  headerLen := .ofNat sizeofRequestHeader
  bodyLen := .ofNat (type.sizeofRequest .gnuC)
  dataLen := 0
  messageId := messageId
  messageType := type.code
  appId := appId
  controllerId := 1
  sessionId := 3

def answered (type : MessageType) (messageId request answer capiError : UInt32) : List Action :=
  [.answer (sampleRequest type messageId request)
    { head := ⟨.ofNat (sizeofAnswerHeader + type.sizeofAnswer .gnuC), .ofNat sizeofAnswerHeader,
        .ofNat (type.sizeofAnswer .gnuC), 0, messageId, type.code, answer, 3, perrorNone, capiError⟩
      rest := List.replicate (type.sizeofAnswer .gnuC) 0
      fits := by cases type <;> decide },
    .receive]

/-- Application 2 is registered under the remote id 2 and released; then the server answers the
WAITFORSIGNAL request that was under way. -/
def releasedWhilePolling : List Action :=
  answered .capiManufacturer 1 0 0 0 ++ answered .capiVersion 2 0 0 0 ++
  answered .capiSerial 3 0 0 0 ++ answered .capiProfile 4 0 0 0 ++
  [.nothing, .read (.data (controlMessage 2 typeRegisterApp [1, 7, 1024])
    (by decide) (by decide))] ++ answered .capiRegister 5 0 2 0 ++
  [.nothing, .read (.data (controlMessage 2 typeReleaseApp []) (by decide) (by decide))] ++
  answered .capiRelease 7 2 2 0 ++ answered .capiWaitforsignal 6 2 2 0x1101

/-- The daemon goes on polling for the released application. -/
theorem releasedWhilePolling_polls :
    ¬ Throughout (fun before action =>
      (((Link.start Daemon.sample).run .sample before).step .sample action).Tokens)
      releasedWhilePolling := by
  intro whole
  have tokens := (throughout_iff_getElem _ _).mp whole 17 (by decide) 2
  have drained : (((Link.start Daemon.sample).run .sample (releasedWhilePolling.take 17)).step .sample
      releasedWhilePolling[17]).registration 2 = .drained := by decide +kernel
  have polling : (((Link.start Daemon.sample).run .sample (releasedWhilePolling.take 17)).step .sample
      releasedWhilePolling[17]).outstanding 2 = 1 := by decide +kernel
  rw [drained, polling] at tokens
  cases tokens

end CapiProxy.LinuxClient
