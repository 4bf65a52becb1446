import CapiProxy.LinuxServer.Framing
import Mathlib.Data.List.Induction
import Mathlib.Data.List.Nodup
import Mathlib.Data.List.Perm.Basic

/-! One answer per request. The handler process and the processes it forked to wait for signals
share the socket and nothing else: a waiter answers from the copy of the buffer that it got from
`fork`, so later requests cannot reach into its answer. -/
namespace CapiProxy.LinuxServer
open Bytes

/-- A forked process, with the number of the request it answers and its copies of the handler's
data and of the answer buffer. -/
structure Waiter where
  number : Nat
  data : ListenerData
  outPacket : AnswerBuffer

def Waiter.answer (env : Environment) (w : Waiter) (capiError : UInt32) : AnswerBuffer :=
  let bodyLen := MessageType.capiWaitforsignal.sizeofAnswer .gnuC
  { w.outPacket with head :=
    { headerLen := .ofNat sizeofAnswerHeader
      bodyLen := .ofNat bodyLen
      dataLen := 0
      messageLen := .ofNat (sizeofAnswerHeader + bodyLen)
      messageId := w.data.messageId
      messageType := MessageType.capiWaitforsignal.code
      appId := w.data.appId
      sessionId := env.sessionID
      proxyError := perrorNone
      capiError } }

/-- What the handler process is doing: it receives, runs the handler of a request, is about to
send its answer, or has left the loop. -/
inductive Stage where
  | receiving
  | handling (number : Nat)
  | sending (number : Nat) (answer : AnswerBuffer)
  | exited

/-- The processes of a connection. Requests are numbered as they were received; what was sent is
kept with the number of the request for which a process sent it. -/
structure Processes where
  session : Session
  memory : Memory
  stage : Stage
  waiters : List Waiter
  received : List RequestFrame
  completed : List Nat
  sent : List (Nat × AnswerBuffer)

/-- The handler process receives a request or the end of the stream, runs the handler that the
switch selects, or sends; or a wait ends in one of the forked processes, which sends and exits. -/
inductive Event where
  | receive (f : RequestFrame)
  | hangup
  | handle
  | send
  | signal (waiter : Nat) (capiError : UInt32)

namespace Processes

def step (env : Environment) (p : Processes) : Event → Processes
  | .receive f =>
    match p.stage with
    | .receiving =>
      { p with
        memory := p.memory.write env.inPacket f.bytes
        received := p.received ++ [f]
        -- the second `recvn` returns 0 for a bare header
        stage := if f.bare then .exited else .handling p.received.length }
    | _ => p
  | .hangup =>
    match p.stage with
    | .receiving => { p with stage := .exited }
    | _ => p
  | .handle =>
    match p.stage with
    | .handling n =>
      match selected env p.memory with
      | none => { p with stage := .receiving, completed := p.completed ++ [n] }
      | some (_, handler) =>
        let effect := handler env n p.session p.memory
        { p with
          session := effect.session
          memory := effect.memory
          stage := match effect.answer with
            | some answer => .sending n answer
            | none => .receiving
          waiters := p.waiters ++
            effect.listener.toList.map fun data => ⟨n, data, effect.session.outPacket⟩
          -- a handler without an answer and without a process that will give one is done
          completed := if effect.answer.isNone && effect.listener.isNone then p.completed ++ [n]
            else p.completed }
    | _ => p
  | .send =>
    match p.stage with
    | .sending n answer =>
      { p with
        stage := .receiving
        completed := p.completed ++ [n]
        sent := p.sent ++ [(n, answer)] }
    | _ => p
  | .signal waiter capiError =>
    match p.waiters[waiter]? with
    | some w =>
      { p with
        waiters := p.waiters.eraseIdx waiter
        completed := p.completed ++ [w.number]
        sent := p.sent ++ [(w.number, w.answer env capiError)] }
    | none => p

def start (s : Session) (m : Memory) : Processes := ⟨s, m, .receiving, [], [], [], []⟩

/-- The processes after some events, in any order. An event that cannot happen changes nothing. -/
def run (env : Environment) (s : Session) (m : Memory) (events : List Event) : Processes :=
  events.foldl (step env) (start s m)

end Processes

/-- A HELO or AUTH request, or a CAPI request with the session id of the connection. -/
def RequestFrame.Expects (env : Environment) (f : RequestFrame) : Prop :=
  ∃ type, MessageType.ofCode f.request.messageType = some type ∧
    (type = .proxyHelo ∨ type = .proxyAuth ∨
      (type.isCapi = true ∧ f.request.sessionId = env.sessionID))

/-- An answer is labelled with the request it belongs to and its lengths add up. -/
structure Answers (request : RequestHeader) (answer : AnswerHeader) : Prop where
  messageId : answer.messageId = request.messageId
  messageType : answer.messageType = request.messageType
  headerLen : answer.headerLen.toNat = sizeofAnswerHeader
  messageLen : answer.messageLen.toNat =
    answer.headerLen.toNat + answer.bodyLen.toNat + answer.dataLen.toNat
  appId : ∀ type, MessageType.ofCode request.messageType = some type → type.isCapi = true →
    type ≠ .capiRegister → answer.appId = request.appId

/-- Every request is answered at most once, and once when its handler or waiter has completed. -/
structure OneAnswer (env : Environment) (p : Processes) : Prop where
  once : ∀ n, (p.sent.map Prod.fst).count n ≤ 1
  complete : ∀ n ∈ p.completed, ∀ f, p.received[n]? = some f → f.Expects env →
    (p.sent.map Prod.fst).count n = 1
  answers : ∀ n answer, (n, answer) ∈ p.sent →
    ∃ f, p.received[n]? = some f ∧ Answers f.request answer.head

section handlers
variable {env : Environment} {m : Memory} {type : MessageType}

theorem compose_answers (arm : MessageType.ofCode (request env m).messageType = some type)
    (old : AnswerHeader) (appId sessionId proxyError capiError : UInt32)
    (named : type.isCapi = true → type ≠ .capiRegister → appId = (request env m).appId) :
    Answers (request env m)
      { compose type env m old with appId, sessionId, proxyError, capiError } where
  messageId := rfl
  messageType := MessageType.code_of_ofCode arm
  headerLen := rfl
  messageLen := by cases type <;> rfl
  appId := by
    intro type' arm' capi other
    obtain rfl := Option.some.inj (arm.symm.trans arm')
    exact named capi other

/-- What a handler does about an answer: it sends one, or it leaves that to the process it
forked. -/
inductive Fulfilled (request : RequestHeader) (e : Effect) : Prop where
  | answered (answer : AnswerBuffer) (sent : e.answer = some answer) (alone : e.listener = none)
      (labelled : Answers request answer.head)
  | forked (arm : MessageType.ofCode request.messageType = some .capiWaitforsignal)
      (silent : e.answer = none) (waits : e.listener = some ⟨request.appId, request.messageId⟩)

theorem send_fulfilled {request : RequestHeader} {answer : AnswerBuffer} (s : Session) (m : Memory)
    (labelled : Answers request answer.head) : Fulfilled request (send s m answer) :=
  .answered answer rfl rfl labelled

theorem fillBody_fulfilled (arm : MessageType.ofCode (request env m).messageType = some type)
    (reports : Bool) (call : RequestHeader → CapiCall) (n : Nat) (s : Session) :
    Fulfilled (request env m) (fillBody type reports call env n s m) :=
  send_fulfilled _ _ (compose_answers arm _ _ _ _ _ fun _ _ => rfl)

theorem putmessage_fulfilled
    (arm : MessageType.ofCode (request env m).messageType = some .capiPutmessage) (n : Nat)
    (s : Session) : Fulfilled (request env m) (execCapiPutmessage env n s m) := by
  simp only [execCapiPutmessage]
  split
  · exact send_fulfilled _ _ (compose_answers arm _ _ _ _ _ fun _ _ => rfl)
  · exact send_fulfilled _ _ (compose_answers arm _ _ _ _ _ fun _ _ => rfl)

/-- The length of this answer is only known after the message was copied. -/
theorem getmessage_fulfilled
    (arm : MessageType.ofCode (request env m).messageType = some .capiGetmessage) (n : Nat)
    (s : Session) : Fulfilled (request env m) (execCapiGetmessage env n s m) := by
  simp only [execCapiGetmessage]
  refine send_fulfilled _ _ ?_
  obtain ⟨dataLen, proxyError, small, copied⟩ := copyMessage_head
    (MessageType.capiGetmessage.sizeofAnswer .gnuC)
    (s.call env (.getMessage (request env m).appId)).1
    { s.outPacket with head := { compose .capiGetmessage env m s.outPacket.head with
        appId := (request env m).appId
        capiError := (s.call env (.getMessage (request env m).appId)).1.code } } rfl
  dsimp only
  rw [copied]
  have labelled := compose_answers arm s.outPacket.head (request env m).appId env.sessionID
    proxyError (s.call env (.getMessage (request env m).appId)).1.code fun _ _ => rfl
  refine ⟨labelled.messageId, labelled.messageType, rfl, ?_, labelled.appId⟩
  simp only [compose, UInt32.toNat_add, UInt32.toNat_ofNat', sizeofAnswerHeader,
    MessageType.sizeofAnswer, Compiler.emptyStruct]
  omega

theorem waitforsignal_fulfilled
    (arm : MessageType.ofCode (request env m).messageType = some .capiWaitforsignal) (n : Nat)
    (s : Session) : Fulfilled (request env m) (execCapiWaitforsignal env n s m) := by
  simp only [execCapiWaitforsignal]
  split
  · exact .forked arm rfl rfl
  · exact send_fulfilled _ _ (compose_answers arm _ _ _ _ _ fun _ _ => rfl)

theorem handler_fulfilled (run : selected env m = some (type, handler)) (n : Nat) (s : Session) :
    Fulfilled (request env m) (handler env n s m) := by
  obtain ⟨arm, found, -⟩ := selected_some run
  cases type <;> first | cases found; done | obtain rfl := Option.some.inj found
  case capiRegister =>
    exact send_fulfilled _ _ (compose_answers arm _ _ _ _ _ fun _ other => absurd rfl other)
  case capiRelease => exact send_fulfilled _ _ (compose_answers arm _ _ _ _ _ fun _ _ => rfl)
  case capiPutmessage => exact putmessage_fulfilled arm n s
  case capiGetmessage => exact getmessage_fulfilled arm n s
  case capiWaitforsignal => exact waitforsignal_fulfilled arm n s
  case capiManufacturer => exact fillBody_fulfilled arm _ _ n s
  case capiVersion => exact send_fulfilled _ _ (compose_answers arm _ _ _ _ _ fun _ _ => rfl)
  case capiSerial => exact fillBody_fulfilled arm _ _ n s
  case capiProfile => exact fillBody_fulfilled arm _ _ n s
  case capiInstalled => exact fillBody_fulfilled arm _ _ n s
  case proxyHelo => exact send_fulfilled _ _ (compose_answers arm _ _ _ _ _ nofun)
  case proxyAuth =>
    exact send_fulfilled _ _ (compose_answers arm s.outPacket.head _ _ _ _ nofun)

theorem expects_selected {f : RequestFrame} (expects : f.Expects env)
    (holds : request env m = f.request) : ∃ arm, selected env m = some arm := by
  obtain ⟨type, arm, kind⟩ := expects
  rw [← holds] at arm kind
  have answered : type.isAnswered = true := by
    rcases kind with rfl | rfl | ⟨capi, -⟩
    · rfl
    · rfl
    · exact MessageType.isAnswered_of_isCapi capi
  have known : type.isCapi = true → (request env m).sessionId = env.sessionID := by
    intro capi
    rcases kind with rfl | rfl | ⟨-, known⟩
    · cases capi
    · cases capi
    · exact known
  obtain ⟨handler, run⟩ := selected_answered arm answered known
  exact ⟨(type, handler), run⟩

end handlers

theorem Waiter.answer_answers (env : Environment) (w : Waiter) (capiError : UInt32)
    {request : RequestHeader} (arm : MessageType.ofCode request.messageType = some .capiWaitforsignal)
    (copied : w.data = ⟨request.appId, request.messageId⟩) :
    Answers request (w.answer env capiError).head where
  messageId := congrArg ListenerData.messageId copied
  messageType := MessageType.code_of_ofCode arm
  headerLen := rfl
  messageLen := rfl
  appId := fun _ _ _ _ => congrArg ListenerData.appId copied

def Stage.number : Stage → List Nat
  | .handling n | .sending n _ => [n]
  | .receiving | .exited => []

namespace Processes
variable {env : Environment} {p : Processes}

/-- Where the requests are: completed, with a waiter, or with the handler process. -/
def places (p : Processes) : List Nat :=
  p.completed ++ (p.waiters.map (·.number) ++ p.stage.number)

/-- What the handler process knows about the request it is busy with. -/
def Current (env : Environment) (p : Processes) : Prop :=
  match p.stage with
  | .handling n => ∃ f, p.received[n]? = some f ∧ request env p.memory = f.request
  | .sending n answer => ∃ f, p.received[n]? = some f ∧ Answers f.request answer.head
  | .receiving | .exited => True

/-- Every request is in one place, and what a process holds belongs to the request it has. -/
structure Accounted (env : Environment) (p : Processes) : Prop where
  distinct : p.places.Nodup
  known : ∀ n ∈ p.places, n < p.received.length
  current : p.Current env
  waiting : ∀ w ∈ p.waiters, ∃ f, p.received[w.number]? = some f ∧
    MessageType.ofCode f.request.messageType = some .capiWaitforsignal ∧
    w.data = ⟨f.request.appId, f.request.messageId⟩
  sent : (p.sent.map Prod.fst).Sublist p.completed
  complete : ∀ n ∈ p.completed, ∀ f, p.received[n]? = some f → f.Expects env →
    n ∈ p.sent.map Prod.fst
  answers : ∀ n answer, (n, answer) ∈ p.sent →
    ∃ f, p.received[n]? = some f ∧ Answers f.request answer.head

theorem Accounted.oneAnswer (accounted : p.Accounted env) : OneAnswer env p := by
  have distinct : (p.sent.map Prod.fst).Nodup :=
    (List.nodup_append.mp accounted.distinct).1.sublist accounted.sent
  refine ⟨List.nodup_iff_count_le_one.mp distinct, ?_, accounted.answers⟩
  intro n done f received expects
  exact List.count_eq_one_of_mem distinct (accounted.complete n done f received expects)

theorem start_accounted (env : Environment) (s : Session) (m : Memory) :
    (start s m).Accounted env where
  distinct := List.nodup_nil
  known := nofun
  current := trivial
  waiting := nofun
  sent := List.Sublist.refl []
  complete := nofun
  answers := nofun

theorem Accounted.exit (accounted : p.Accounted env) :
    Accounted env { p with stage := .exited } := by
  have fewer : (places { p with stage := .exited }).Sublist p.places :=
    List.Sublist.append_left (List.Sublist.append_left (List.nil_sublist _) _) _
  exact ⟨accounted.distinct.sublist fewer, fun n member => accounted.known n (fewer.subset member),
    trivial, accounted.waiting, accounted.sent, accounted.complete, accounted.answers⟩

theorem Accounted.receive (accounted : p.Accounted env) (free : p.stage.number = [])
    (f : RequestFrame) :
    Accounted env { p with
      memory := p.memory.write env.inPacket f.bytes
      received := p.received ++ [f]
      stage := .handling p.received.length } := by
  have old : ∀ {n g}, p.received[n]? = some g → (p.received ++ [f])[n]? = some g :=
    fun here => (List.getElem?_append_left (List.getElem?_eq_some_iff.mp here).1).trans here
  have distinct := accounted.distinct
  have known := accounted.known
  simp only [places, free, List.append_nil] at distinct known
  constructor
  · show (p.completed ++ (p.waiters.map (·.number) ++ [p.received.length])).Nodup
    rw [← List.append_assoc]
    refine List.nodup_append.mpr ⟨distinct, List.nodup_singleton _, ?_⟩
    rintro n member _ last rfl
    rw [List.mem_singleton.mp last] at member
    exact absurd (known _ member) (Nat.lt_irrefl _)
  · intro n member
    rw [List.length_append, List.length_singleton]
    rw [places, ← List.append_assoc, List.mem_append] at member
    rcases member with earlier | last
    · exact Nat.lt_succ_of_lt (known n earlier)
    · rw [List.mem_singleton.mp last]
      exact Nat.lt_succ_self _
  · exact ⟨f, by simp, f.request_write _ _⟩
  · intro w member
    obtain ⟨g, here, rest⟩ := accounted.waiting w member
    exact ⟨g, old here, rest⟩
  · exact accounted.sent
  · intro n done g here expects
    have inside := known n (List.mem_append_left _ done)
    exact accounted.complete n done g ((List.getElem?_append_left inside).symm.trans here) expects
  · intro n answer member
    obtain ⟨g, here, labelled⟩ := accounted.answers n answer member
    exact ⟨g, old here, labelled⟩

theorem Accounted.answered (accounted : p.Accounted env) (waiters : List Waiter) (stage : Stage)
    (fewer : waiters.Sublist p.waiters) (idle : Current env { p with waiters, stage })
    (moved : p.places.Perm ((p.completed ++ [n]) ++ (waiters.map (·.number) ++ stage.number)))
    (here : p.received[n]? = some f) (labelled : Answers f.request answer.head) :
    Accounted env { p with
      waiters, stage
      completed := p.completed ++ [n]
      sent := p.sent ++ [(n, answer)] } where
  distinct := moved.nodup_iff.mp accounted.distinct
  known m member := accounted.known m (moved.mem_iff.mpr member)
  current := idle
  waiting w member := accounted.waiting w (fewer.subset member)
  sent := by
    simp only [List.map_append, List.map_cons, List.map_nil]
    exact accounted.sent.append (List.Sublist.refl [n])
  complete := by
    intro m done g there expects
    simp only [List.map_append, List.map_cons, List.map_nil, List.mem_append] at done ⊢
    exact done.imp_left fun earlier => accounted.complete m earlier g there expects
  answers := by
    intro m other member
    rcases List.mem_append.mp member with earlier | last
    · exact accounted.answers m other earlier
    · obtain ⟨rfl, rfl⟩ := Prod.mk.inj (List.mem_singleton.mp last)
      exact ⟨f, here, labelled⟩

theorem Accounted.ignored (accounted : p.Accounted env) (busy : p.stage = .handling n)
    (run : selected env p.memory = none) :
    Accounted env { p with stage := .receiving, completed := p.completed ++ [n] } := by
  have moved : p.places.Perm ((p.completed ++ [n]) ++ (p.waiters.map (·.number) ++ [])) := by
    rw [places, busy, List.append_nil, List.append_assoc]
    exact List.Perm.append_left _ List.perm_append_comm
  refine ⟨moved.nodup_iff.mp accounted.distinct,
    fun m member => accounted.known m (moved.mem_iff.mpr member), trivial, accounted.waiting,
    accounted.sent.trans (List.sublist_append_left _ _), ?_, accounted.answers⟩
  intro m done g there expects
  rcases List.mem_append.mp done with earlier | last
  · exact accounted.complete m earlier g there expects
  · rw [List.mem_singleton.mp last] at there
    have current := accounted.current
    rw [Current, busy] at current
    obtain ⟨f, here, holds⟩ := current
    obtain rfl := Option.some.inj (here.symm.trans there)
    obtain ⟨arm, selects⟩ := expects_selected expects holds
    cases run.symm.trans selects

theorem Accounted.handled (accounted : p.Accounted env) (busy : p.stage = .handling n)
    (e : Effect) (fulfilled : Fulfilled (request env p.memory) e) :
    Accounted env { p with
      session := e.session
      memory := e.memory
      stage := match e.answer with
        | some answer => .sending n answer
        | none => .receiving
      waiters := p.waiters ++ e.listener.toList.map fun data => ⟨n, data, e.session.outPacket⟩
      completed := if e.answer.isNone && e.listener.isNone then p.completed ++ [n]
        else p.completed } := by
  have current := accounted.current
  rw [Current, busy] at current
  obtain ⟨f, here, holds⟩ := current
  rw [holds] at fulfilled
  have distinct := accounted.distinct
  have known := accounted.known
  rw [places, busy] at distinct known
  cases fulfilled with
  | answered answer sent alone labelled =>
    simp only [sent, alone, Option.toList_none, List.map_nil, List.append_nil, Option.isNone_some,
      Bool.false_and, Bool.false_eq_true, if_false]
    exact ⟨distinct, known, ⟨f, here, labelled⟩, accounted.waiting, accounted.sent,
      accounted.complete, accounted.answers⟩
  | forked arm silent waits =>
    simp only [silent, waits, Option.toList_some, List.map_cons, List.map_nil, Option.isNone_some,
      Bool.and_false, Bool.false_eq_true, if_false]
    have same : places { p with
        session := e.session, memory := e.memory, stage := .receiving
        waiters := p.waiters ++
          [⟨n, ⟨f.request.appId, f.request.messageId⟩, e.session.outPacket⟩] } =
        p.completed ++ (p.waiters.map (·.number) ++ [n]) := by
      simp only [places, Stage.number, List.map_append, List.map_cons, List.map_nil, List.append_nil]
    refine ⟨same ▸ distinct, same ▸ known, trivial, ?_, accounted.sent, accounted.complete,
      accounted.answers⟩
    intro w member
    rcases List.mem_append.mp member with earlier | last
    · exact accounted.waiting w earlier
    · rw [List.mem_singleton.mp last]
      exact ⟨f, here, arm, rfl⟩

theorem step_accounted (e : Event) (accounted : p.Accounted env) : (p.step env e).Accounted env := by
  cases e with
  | receive f =>
    simp only [step]
    split
    · next free =>
      have received := accounted.receive (congrArg Stage.number free) f
      split
      · exact received.exit
      · exact received
    · exact accounted
  | hangup =>
    simp only [step]
    split
    · exact accounted.exit
    · exact accounted
  | handle =>
    simp only [step]
    split
    · next n busy =>
      split
      · next run => exact accounted.ignored busy run
      · next type handler run =>
        exact accounted.handled busy _ (handler_fulfilled run n p.session)
    · exact accounted
  | send =>
    simp only [step]
    split
    · next n answer busy =>
      have current := accounted.current
      rw [Current, busy] at current
      obtain ⟨f, here, labelled⟩ := current
      refine accounted.answered p.waiters .receiving (List.Sublist.refl _) trivial ?_ here labelled
      rw [places, busy, List.append_assoc]
      exact List.Perm.append_left _ (List.perm_append_comm.trans (by rw [Stage.number, Stage.number, List.append_nil]))
    · exact accounted
  | signal waiter capiError =>
    simp only [step]
    split
    · next w found =>
      obtain ⟨inside, here⟩ := List.getElem?_eq_some_iff.mp found
      obtain ⟨f, received, arm, copied⟩ := accounted.waiting w (List.mem_of_getElem? found)
      refine accounted.answered (p.waiters.eraseIdx waiter) p.stage (List.eraseIdx_sublist ..)
        accounted.current ?_ received (w.answer_answers env capiError arm copied)
      have taken := (List.getElem_cons_eraseIdx_perm inside).symm.map (·.number)
      rw [here, List.map_cons] at taken
      rw [places, List.append_assoc]
      exact List.Perm.append_left _ (taken.append_right _)
    · exact accounted

theorem run_append (env : Environment) (s : Session) (m : Memory) (events : List Event) (e : Event) :
    run env s m (events ++ [e]) = (run env s m events).step env e := by
  rw [run, List.foldl_append]
  rfl

theorem run_accounted (env : Environment) (s : Session) (m : Memory) (events : List Event) :
    (run env s m events).Accounted env := by
  induction events using List.reverseRecOn with
  | nil => exact start_accounted env s m
  | append_singleton events e ih =>
    rw [run_append]
    exact step_accounted e ih

/-- What the loop alone makes of some requests. -/
def alone (env : Environment) (s : Session) (m : Memory) (frames : List RequestFrame) :
    Connection × Memory :=
  frames.foldl (handOver env.inPacket (dispatch env)) (⟨s, []⟩, m)

theorem alone_append (env : Environment) (s : Session) (m : Memory) (frames : List RequestFrame)
    (f : RequestFrame) : alone env s m (frames ++ [f]) =
      dispatch env (alone env s m frames).1 ((alone env s m frames).2.write env.inPacket f.bytes) := by
  rw [alone, List.foldl_append]
  rfl

theorem alone_log (env : Environment) (s : Session) (m : Memory) (frames : List RequestFrame) :
    (alone env s m frames).1.log.length = frames.length := by
  induction frames using List.reverseRecOn with
  | nil => rfl
  | append_singleton frames f ih =>
    rw [alone_append, List.length_append, ← ih]
    unfold dispatch
    split <;> simp only [List.length_append, List.length_singleton]

/-- The handler process is where the loop alone would be. -/
def Follows (env : Environment) (s : Session) (m : Memory) (p : Processes) : Prop :=
  match p.stage with
  | .receiving | .sending .. =>
    p.session = (alone env s m p.received).1.session ∧ p.memory = (alone env s m p.received).2
  | .handling n => ∃ before f, p.received = before ++ [f] ∧ n = before.length ∧
    p.session = (alone env s m before).1.session ∧
    p.memory = (alone env s m before).2.write env.inPacket f.bytes
  | .exited => True

theorem step_follows {s : Session} {m : Memory} (e : Event) (follows : p.Follows env s m) :
    (p.step env e).Follows env s m := by
  cases e with
  | receive f =>
    simp only [step]
    split
    · next free =>
      rw [Follows, free] at follows
      split
      · trivial
      · exact ⟨p.received, f, rfl, rfl, follows.1, congrArg (·.write env.inPacket f.bytes) follows.2⟩
    · exact follows
  | hangup =>
    simp only [step]
    split
    · trivial
    · exact follows
  | handle =>
    simp only [step]
    split
    · next n busy =>
      rw [Follows, busy] at follows
      obtain ⟨before, f, received, rfl, session, memory⟩ := follows
      have next := alone_append env s m before f
      rw [← received, ← memory] at next
      split
      · next run =>
        rw [dispatch_none run] at next
        exact ⟨session.trans (congrArg (·.1.session) next).symm, (congrArg Prod.snd next).symm⟩
      · next type handler run =>
        rw [dispatch_some run, alone_log, ← session] at next
        have settled := And.intro (congrArg (·.1.session) next).symm (congrArg Prod.snd next).symm
        unfold Follows
        dsimp only
        cases (handler env before.length p.session p.memory).answer <;> exact settled
    · exact follows
  | send =>
    simp only [step]
    split
    · next busy =>
      rw [Follows, busy] at follows
      exact follows
    · exact follows
  | signal waiter capiError =>
    simp only [step]
    split <;> exact follows

theorem run_follows (env : Environment) (s : Session) (m : Memory) (events : List Event) :
    (run env s m events).Follows env s m := by
  induction events using List.reverseRecOn with
  | nil => exact ⟨rfl, rfl⟩
  | append_singleton events e ih =>
    rw [run_append]
    exact step_follows e ih

/-- The waiters do not disturb the handler process: between two requests, its state is that of
the loop that received the same requests alone. -/
theorem run_alone (env : Environment) (s : Session) (m : Memory) (events : List Event)
    (idle : (run env s m events).stage = .receiving) :
    (run env s m events).session = (alone env s m (run env s m events).received).1.session ∧
      (run env s m events).memory = (alone env s m (run env s m events).received).2 := by
  have follows := run_follows env s m events
  rwa [Follows, idle] at follows

end Processes

/-- In every run of the processes, every request is answered at most once, and with an answer of
its own once its handler or waiter has completed. -/
theorem one_answer (env : Environment) (s : Session) (m : Memory) (events : List Event) :
    OneAnswer env (Processes.run env s m events) :=
  (Processes.run_accounted env s m events).oneAnswer

def waitRequest : RequestFrame where
  toFrame := RequestHeader.frame ⟨37, 36, 1, 0, 7, MessageType.capiWaitforsignal.code, 1, 0, 3⟩ [0]
    (by decide)
  fits := by decide

-- a wait ends while the next request is being handled
example : ((Processes.run .loopback Connection.sample.session zeros
    [.receive waitRequest, .handle, .receive registerRequest, .handle, .signal 0 0, .send]).sent.map
      fun s => (s.1, s.2.head.messageId)) = [(0, 7), (1, 2)] := by
  decide +kernel

end CapiProxy.LinuxServer
