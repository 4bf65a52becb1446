import CapiProxy.LinuxClient.Mapping
import CapiProxy.LinuxClient.Polling

/-! What the daemon tells the module about a registration. The verdict is the error code in the receive
buffer once `wait_for_answer` has returned, whether it returned with an answer or because nothing more
is received. -/
namespace CapiProxy.LinuxClient
open Bytes LinuxModule Traces

/-- `IOCTL_APPL_REGISTERED` with the remote id entered in the maps, or `IOCTL_ERROR_REGFAIL`. -/
def Event.verdict : Event → Option (UInt16 × Option UInt16)
  | .registered appl remote => some (appl, some remote)
  | .regfail appl => some (appl, none)
  | .handled .. | .sent .. | .written _ | .setData _ | .released _ => none

def Event.packet : Event → Option AnswerHeader
  | .handled received buffer => if received = [] then none else some (.parse buffer 0)
  | .sent .. | .written _ | .setData _ | .registered .. | .regfail _ | .released _ => none

def verdicts (log : List Event) : List (UInt16 × Option UInt16) := log.filterMap Event.verdict

def packets (log : List Event) : List AnswerHeader := log.filterMap Event.packet

/-- How many polling requests for a remote id have not been answered. -/
def polled (log : List Event) (id : UInt16) : Int :=
  (heads log).countP (fun q => polls id q.messageType q.appId) -
    (packets log).countP fun a => polls id a.messageType a.appId

def Result.header (r : Result) : AnswerHeader := .parse (zeros.write 0 r.stored) 0

/-- A REGISTER answer to the request `id`, without an error. -/
def Result.Grants (id : UInt32) (r : Result) : Prop :=
  sizeofAnswerHeader ≤ r.stored.length ∧ r.header.messageType = MessageType.capiRegister.code ∧
    r.header.messageId = id ∧ r.header.proxyError = perrorNone ∧ r.header.capiError = 0

/-- What receive calls leave in the buffer. -/
def leftover (m : Memory) (results : List Result) : Memory := results.foldl (fun m r => m.write 0 r.stored) m

structure RegisterMessage where
  daemon : Daemon
  reads : daemon.control = .read
  message : List UInt8
  nonempty : message ≠ []
  fits : message.length ≤ bufferSize
  command : capimsgCommand (daemon.recvbuffer.write 0 message) = typeProxy
  subcommand : capimsgSubcommand (daemon.recvbuffer.write 0 message) = typeRegisterApp

namespace RegisterMessage

/-- The application in the message, and what the daemon takes for it. -/
def named (g : RegisterMessage) : UInt16 := namedId (g.daemon.recvbuffer.write 0 g.message)

def appl (g : RegisterMessage) (env : Environment) : UInt16 :=
  env.appid (g.daemon.recvbuffer.write 0 g.message)

/-- The daemon after its request, if it can be sent. -/
def asked (g : RegisterMessage) (env : Environment) : Daemon :=
  g.daemon.step env (.data g.message g.nonempty g.fits)

def id (g : RegisterMessage) : UInt32 := (g.daemon.header .capiRegister 0 0).messageId

end RegisterMessage

/-- The processing of a register message: the results of the receive calls the daemon makes, up to the verdict. -/
structure Registering (env : Environment) extends RegisterMessage where
  answers : List Result
  waits : Throughout (fun before _ => ((toRegisterMessage.asked env).run env before).control =
    .wait (.register (toRegisterMessage.appl env))) answers
  ends : ((toRegisterMessage.asked env).run env answers).control ≠
    .wait (.register (toRegisterMessage.appl env))

namespace Registering
variable {env : Environment}

def settled (g : Registering env) : Daemon := (g.asked env).run env g.answers

/-- The last answer grants the registration. -/
def Granted (g : Registering env) (r : Result) : Prop := g.answers.getLast? = some r ∧ r.Grants g.id

/-- An application and its remote id are in elements of the maps. -/
structure Enters (d d' : Daemon) (appl remote : UInt16) : Prop extends d.Registers d' appl remote where
  appl_lt : appl.toNat < d.applmapLtr.length
  remote_lt : remote.toNat < d.applmapRtl.length

/-- The remote id of a granted application is in the maps; any other application is refused, and leaves
the maps and the applications that are polled as they were. -/
structure Settles (g : Registering env) : Prop where
  granted : ∀ r, g.Granted r → ∃ remote : UInt16, remote.toUInt32 = r.header.appId ∧
    verdicts g.settled.log = verdicts g.daemon.log ++ [(g.named, some remote)] ∧
    Enters g.daemon g.settled g.named remote
  refused : (∀ r, ¬ g.Granted r) →
    verdicts g.settled.log = verdicts g.daemon.log ++ [(g.named, none)] ∧
    g.settled.applmapLtr = g.daemon.applmapLtr ∧ g.settled.applmapRtl = g.daemon.applmapRtl ∧
    ∀ id, polled g.settled.log id = polled g.daemon.log id

/-- The send call that follows a polling answer succeeds. -/
def Relays (env : Environment) (d : Daemon) (r : Result) : Prop :=
  r.stored ≠ [] → isPoll (d.receive r).aheader.messageType = true →
    env.send (d.log.length +
      if (d.receive r).aheader.messageType = MessageType.capiGetmessage.code then 2 else 1) = true

/-- The id of 16 bits in an answer has an element in the map, and so has the local one. -/
structure Fits (g : Registering env) (appId : UInt32) : Prop where
  small : appId.toNat < 2 ^ 16
  remote : appId.toNat < g.daemon.applmapRtl.length
  appl : g.named.toNat < g.daemon.applmapLtr.length

/-- The local id is read as it is; and the request cannot be sent, or its answer grants the registration under
an id that fits, or what is left in the buffer has an error code and no polling answer was dropped in
between. -/
def Fair (g : Registering env) : Prop :=
  readId g.named = g.named ∧
  (env.send g.daemon.log.length = false ∨
  (∃ r, g.Granted r ∧ g.Fits r.header.appId) ∨
  (AnswerHeader.parse (leftover (g.daemon.recvbuffer.write 0 g.message) g.answers) 0).proxyError ≠ perrorNone ∧
    Throughout (fun before r => Relays env ((g.asked env).run env before) r) g.answers)

end Registering
namespace Daemon

theorem request_filterMap {β : Type} {f : Event → Option β} (silent : ∀ head frame, f (.sent head frame) = none)
    (env : Environment) (type : MessageType) (appl : UInt32) (body data : List UInt8) (d : Daemon) :
    (d.request env type appl body data).1.log.filterMap f = d.log.filterMap f := by
  unfold request
  split
  · exact List.filterMap_append.trans (by rw [List.filterMap_cons_none (silent _ _)]; exact List.append_nil _)
  · rfl

theorem handleServerpacket_filterMap {β : Type} {f : Event → Option β}
    (silent : ∀ head frame, f (.sent head frame) = none) (silent' : ∀ message, f (.written message) = none)
    (env : Environment) (d : Daemon) : (d.handleServerpacket env).log.filterMap f = d.log.filterMap f := by
  unfold handleServerpacket
  split
  · exact request_filterMap silent env _ _ _ _ d
  · rw [remoteWaitforsignal, request_filterMap silent env _ _ _ _ (d.sendToModule env)]
    exact List.filterMap_append.trans (by rw [List.filterMap_cons_none (silent' _)]; exact List.append_nil _)
  · rfl

theorem request_recvbuffer (env : Environment) (type : MessageType) (appl : UInt32) (body data : List UInt8)
    (d : Daemon) : (d.request env type appl body data).1.recvbuffer = d.recvbuffer := by
  unfold request
  split <;> rfl

theorem handleServerpacket_recvbuffer (env : Environment) (d : Daemon) :
    (d.handleServerpacket env).recvbuffer = d.recvbuffer := by
  unfold handleServerpacket
  split
  · exact request_recvbuffer env _ _ _ _ d
  · exact request_recvbuffer env _ _ _ _ (d.sendToModule env)
  · rfl

theorem receive_packets (d : Daemon) (r : Result) :
    packets (d.receive r).log = packets d.log ++ if r.stored = [] then [] else [(d.receive r).aheader] := by
  have event : [Event.handled r.stored (d.recvbuffer.write 0 r.stored)].filterMap Event.packet =
      if r.stored = [] then [] else [(d.receive r).aheader] := by
    by_cases empty : r.stored = []
    · simp only [List.filterMap_cons, Event.packet, if_pos empty, List.filterMap_nil]
    · simp only [List.filterMap_cons, Event.packet, if_neg empty, List.filterMap_nil]
      rfl
  exact List.filterMap_append.trans (congrArg (packets d.log ++ ·) event)

theorem balance_bits (poll mine sent : Bool) :
    ((poll && (mine && sent)).toNat : Int) - (poll && mine).toNat = - (poll && (mine && ! sent)).toNat := by
  cases poll <;> cases mine <;> cases sent <;> rfl

/-- A polling answer that is handled is replaced by the request that is sent next. -/
theorem handled_polled (env : Environment) (d : Daemon) (r : Result) (stored : r.stored ≠ []) (id : UInt16) :
    polled ((d.receive r).handleServerpacket env).log id =
      polled d.log id - (isPoll (d.receive r).aheader.messageType &&
        ((d.receive r).aheader.appId.toUInt16 == id && ! env.send (d.log.length +
          if (d.receive r).aheader.messageType = MessageType.capiGetmessage.code then 2 else 1))).toNat := by
  obtain ⟨sent, log, count⟩ : Polls id _ _ _ := handled_polls env d r
  have taken : packets ((d.receive r).handleServerpacket env).log =
      packets d.log ++ [(d.receive r).aheader] := by
    rw [packets, handleServerpacket_filterMap (fun _ _ => rfl) (fun _ => rfl), ← packets, receive_packets,
      if_neg stored]
  have single : [(d.receive r).aheader].countP (fun a => polls id a.messageType a.appId) =
      (isPoll (d.receive r).aheader.messageType && (d.receive r).aheader.appId.toUInt16 == id).toNat := by
    rw [List.countP_singleton, polls]
    split
    · next yes => rw [yes]; rfl
    · next no => rw [Bool.eq_false_iff.mpr no]; rfl
  have balance := balance_bits (isPoll (d.receive r).aheader.messageType)
    ((d.receive r).aheader.appId.toUInt16 == id) (env.send (d.log.length +
      if (d.receive r).aheader.messageType = MessageType.capiGetmessage.code then 2 else 1))
  simp only [polled, log, taken, List.countP_append, count, single, Int.natCast_add]
  omega

/-- A receive result ends the wait for a registration: an answer of its type, or none at all. -/
def Stops (d : Daemon) (r : Result) : Prop :=
  r.stored = [] ∨ (d.receive r).aheader.messageType = MessageType.capiRegister.code

theorem stored_data {bytes : List UInt8} (nonempty : bytes ≠ []) (fits : bytes.length ≤ bufferSize) :
    (Result.data bytes nonempty fits).stored ≠ [] := nonempty

theorem step_stops (env : Environment) {d : Daemon} (waits : d.control = .wait (.register appl)) {r : Result}
    (stops : Stops d r) : d.step env r = (d.receive r).finish env (.register appl) := by
  simp only [step, waits]
  cases r with
  | closed => rfl
  | failed => rfl
  | data bytes nonempty fits =>
    exact if_neg (not_not.mpr (stops.resolve_left (stored_data nonempty fits)))

theorem step_goes_on (env : Environment) {d : Daemon} (waits : d.control = .wait (.register appl)) {r : Result}
    (other : ¬ Stops d r) : d.step env r = (d.receive r).handleServerpacket env := by
  simp only [step, waits]
  cases r with
  | closed => exact absurd (.inl rfl) other
  | failed => exact absurd (.inl rfl) other
  | data bytes nonempty fits => exact if_pos fun awaited => other (.inr awaited)

theorem finish_register_control (env : Environment) (appl : UInt16) (d : Daemon) :
    (d.finish env (.register appl)).control = .poll := by
  unfold finish
  split <;> rfl

theorem stops_iff (env : Environment) {d : Daemon} (waits : d.control = .wait (.register appl)) (r : Result) :
    Stops d r ↔ (d.step env r).control ≠ .wait (.register appl) := by
  by_cases stops : Stops d r
  · rw [step_stops env waits stops, finish_register_control]
    exact iff_of_true stops nofun
  · rw [step_goes_on env waits stops, handleServerpacket_control]
    exact iff_of_false stops (not_not.mpr waits)

end Daemon

namespace Registering

structure Meanwhile (env : Environment) (d : Daemon) (before : List Result) : Prop where
  ltr : (d.run env before).applmapLtr = d.applmapLtr
  rtl : (d.run env before).applmapRtl = d.applmapRtl
  verdicts : verdicts (d.run env before).log = verdicts d.log
  buffer : (d.run env before).recvbuffer = leftover d.recvbuffer before
  fewer : ∀ id, polled (d.run env before).log id ≤ polled d.log id
  same : (∀ id, polled (d.run env before).log id = polled d.log id) ↔
    Throughout (fun earlier r => Relays env (d.run env earlier) r) before

theorem relays_iff (env : Environment) (d : Daemon) {r : Result} (stored : r.stored ≠ []) :
    Relays env d r ↔ ∀ id, polled ((d.receive r).handleServerpacket env).log id = polled d.log id := by
  constructor
  · intro relays id
    rw [Daemon.handled_polled env d r stored id]
    cases poll : isPoll (d.receive r).aheader.messageType with
    | true => rw [relays stored poll]; simp
    | false => simp
  · intro same _ poll
    have dropped := same (d.receive r).aheader.appId.toUInt16
    rw [Daemon.handled_polled env d r stored, poll, beq_self_eq_true, Bool.true_and, Bool.true_and] at dropped
    cases sent : env.send _ with
    | true => rfl
    | false =>
      rw [sent, Bool.not_false, Bool.toNat_true] at dropped
      omega

theorem leftover_append (m : Memory) (results : List Result) (r : Result) :
    leftover m (results ++ [r]) = (leftover m results).write 0 r.stored := by
  rw [leftover, List.foldl_append]
  rfl

theorem meanwhile (env : Environment) {d : Daemon} (before : List Result)
    (waits : Throughout (fun earlier _ => (d.run env earlier).control = .wait (.register appl)) before)
    (still : (d.run env before).control = .wait (.register appl)) : Meanwhile env d before := by
  induction before using List.reverseRecOn with
  | nil =>
    exact ⟨rfl, rfl, rfl, rfl, fun _ => Int.le_refl _, iff_of_true (fun _ => rfl) (throughout_nil _)⟩
  | append_singleton before r ih =>
    obtain ⟨earlier, here⟩ := (throughout_append _ before r).mp waits
    have held := ih earlier here
    have other : ¬ Daemon.Stops (d.run env before) r := by
      rw [Daemon.stops_iff env here, ← Daemon.run_append]
      exact not_not.mpr still
    have stored : r.stored ≠ [] := fun empty => other (.inl empty)
    have plain := Daemon.handleServerpacket_plain env ((d.run env before).receive r)
    have next := Daemon.step_goes_on env here other
    have count := Daemon.handled_polled env (d.run env before) r stored
    constructor
    · rw [Daemon.run_append, next, plain.ltr]
      exact held.ltr
    · rw [Daemon.run_append, next, plain.rtl]
      exact held.rtl
    · rw [Daemon.run_append, next, CapiProxy.LinuxClient.verdicts,
        Daemon.handleServerpacket_filterMap (fun _ _ => rfl) fun _ => rfl]
      exact List.filterMap_append.trans ((List.append_nil _).trans held.verdicts)
    · rw [Daemon.run_append, next, Daemon.handleServerpacket_recvbuffer, leftover_append, ← held.buffer]
      rfl
    · intro id
      rw [Daemon.run_append, next, count]
      have fewer := held.fewer id
      omega
    · rw [throughout_append, ← held.same, relays_iff env _ stored, Daemon.run_append, next]
      constructor
      · intro same
        have whole : ∀ id, polled (d.run env before).log id = polled d.log id := by
          intro id
          have fewer := held.fewer id
          have last := same id
          rw [count] at last
          omega
        exact ⟨whole, fun id => (same id).trans (whole id).symm⟩
      · rintro ⟨whole, last⟩ id
        exact (last id).trans (whole id)

/-- What the request of a registration keeps, sent or not. -/
structure Keeps (d d' : Daemon) : Prop where
  ltr : d'.applmapLtr = d.applmapLtr
  rtl : d'.applmapRtl = d.applmapRtl
  buffer : d'.recvbuffer = d.recvbuffer
  verdicts : verdicts d'.log = verdicts d.log
  polled : ∀ id, polled d'.log id = polled d.log id

theorem request_keeps (env : Environment) (body : List UInt8) (d : Daemon) :
    Keeps d (d.request env .capiRegister 0 body []).1 := by
  have plain := Daemon.request_plain env .capiRegister 0 body [] d
  refine ⟨plain.ltr, plain.rtl, Daemon.request_recvbuffer env _ _ _ _ d,
    Daemon.request_filterMap (fun _ _ => rfl) env _ _ _ _ d, fun id => ?_⟩
  have packets_eq : packets (d.request env .capiRegister 0 body []).1.log = packets d.log :=
    Daemon.request_filterMap (fun _ _ => rfl) env _ _ _ _ d
  have silent : Daemon.Polls id 0 d (d.request env .capiRegister 0 body []).1 :=
    Daemon.request_silent env rfl 0 body [] d
  obtain ⟨sent, heads_eq, none⟩ := silent
  rw [polled, heads_eq, packets_eq, List.countP_append, none]
  rfl

theorem asked_eq (env : Environment) (g : RegisterMessage) :
    ∃ d, Keeps (g.daemon.storeRecv (g.daemon.recvbuffer.write 0 g.message)) d ∧ g.asked env =
      if env.send g.daemon.log.length then d.goto (.wait (.register (g.appl env)))
      else (d.note (.regfail (g.appl env))).goto .poll := by
  have command : capimsgCommand (g.daemon.storeRecv (g.daemon.recvbuffer.write 0 g.message)).recvbuffer =
    typeProxy := g.command
  have subcommand : capimsgSubcommand (g.daemon.storeRecv
    (g.daemon.recvbuffer.write 0 g.message)).recvbuffer = typeRegisterApp := g.subcommand
  simp only [RegisterMessage.asked, Daemon.step, g.reads, Daemon.fromModule, command, subcommand, if_true,
    Daemon.localRegisterAppl]
  generalize words _ = body
  refine ⟨_, request_keeps env body _, ?_⟩
  have ok := Daemon.request_ok env .capiRegister 0 body []
    (g.daemon.storeRecv (g.daemon.recvbuffer.write 0 g.message))
  have log : (g.daemon.storeRecv (g.daemon.recvbuffer.write 0 g.message)).log = g.daemon.log := rfl
  generalize Daemon.request env .capiRegister 0 body [] _ = result at ok ⊢
  obtain ⟨d, sent⟩ := result
  rw [log] at ok
  rw [← ok]
  cases sent <;> rfl

/-- The state in which the last receive call of the processing is made, and what comes of it. -/
structure Ends (g : Registering env) (before : List Result) (last : Result) (d : Daemon) : Prop where
  split : g.answers = before ++ [last]
  ltr : d.applmapLtr = g.daemon.applmapLtr
  rtl : d.applmapRtl = g.daemon.applmapRtl
  verdicts : verdicts d.log = verdicts g.daemon.log
  buffer : (d.receive last).recvbuffer = leftover (g.daemon.recvbuffer.write 0 g.message) g.answers
  relays : (∀ id, polled d.log id = polled g.daemon.log id) ↔
    Throughout (fun earlier r => Relays env ((g.asked env).run env earlier) r) g.answers
  stops : d.Stops last
  settled : g.settled = (d.receive last).finish env (.register (g.appl env))

theorem stops_relays {d : Daemon} {r : Result} (stops : d.Stops r) : Relays env d r := by
  intro stored poll
  rw [stops.resolve_left stored] at poll
  exact absurd poll (by decide)

theorem ends_of_sent (g : Registering env) (sent : env.send g.daemon.log.length = true) :
    ∃ before last d, Ends g before last d := by
  obtain ⟨d, keeps, asked⟩ := asked_eq env g.toRegisterMessage
  rw [if_pos sent] at asked
  have answers := g.waits
  have ends := g.ends
  rcases List.eq_nil_or_concat g.answers with none | ⟨before, last, split⟩
  · rw [none, asked] at ends
    exact absurd rfl ends
  rw [List.concat_eq_append] at split
  rw [split] at answers ends
  obtain ⟨earlier, here⟩ := (throughout_append _ before last).mp answers
  have held := meanwhile env before earlier here
  have stops : Daemon.Stops ((g.asked env).run env before) last := by
    rw [Daemon.stops_iff env here, ← Daemon.run_append]
    exact ends
  refine ⟨before, last, (g.asked env).run env before, split, ?_, ?_, ?_, ?_, ?_, stops, ?_⟩
  · rw [held.ltr, asked]
    exact keeps.ltr
  · rw [held.rtl, asked]
    exact keeps.rtl
  · rw [held.verdicts, asked]
    exact keeps.verdicts
  · have start : (g.asked env).recvbuffer = g.daemon.recvbuffer.write 0 g.message := by
      rw [asked]
      exact keeps.buffer
    rw [split, leftover_append, ← start, ← held.buffer]
    rfl
  · have start : ∀ id, polled (g.asked env).log id = polled g.daemon.log id := by
      rw [asked]
      exact keeps.polled
    rw [split, throughout_append, and_iff_left (stops_relays stops), ← held.same]
    exact forall_congr' fun id => by rw [start]
  · rw [settled, split, Daemon.run_append]
    exact Daemon.step_stops env here stops

theorem receive_header (d : Daemon) {r : Result} (long : sizeofAnswerHeader ≤ r.stored.length) :
    (d.receive r).aheader = r.header := by
  apply AnswerHeader.parse_congr
  intro i inside
  have first : (d.recvbuffer.write 0 r.stored) (0 + i) = r.stored[i] :=
    Memory.write_inside _ _ _ i (Nat.lt_of_lt_of_le inside long)
  have second : (zeros.write 0 r.stored) (0 + i) = r.stored[i] :=
    Memory.write_inside _ _ _ i (Nat.lt_of_lt_of_le inside long)
  exact first.trans second.symm

theorem receive_verdicts (d : Daemon) (r : Result) : verdicts (d.receive r).log = verdicts d.log :=
  List.filterMap_append.trans (List.append_nil _)

theorem receive_polled {d : Daemon} {r : Result} (stops : d.Stops r) (id : UInt16) :
    polled (d.receive r).log id = polled d.log id := by
  have received : heads (d.receive r).log = heads d.log := List.filterMap_append.trans (List.append_nil _)
  rw [polled, received, Daemon.receive_packets]
  split
  · rw [List.append_nil]
    rfl
  · next stored =>
    rw [List.countP_append, List.countP_singleton, stops.resolve_left stored]
    rfl

theorem granted_verdicts {g : Registering env} (ends : Ends g before last d)
    (granted : (d.receive last).aheader.proxyError = perrorNone) :
    verdicts g.settled.log = verdicts g.daemon.log ++
      [(g.appl env, some (d.receive last).aheader.appId.toUInt16)] := by
  rw [ends.settled, Daemon.finish, if_neg (not_not.mpr granted), ← ends.verdicts, ← receive_verdicts d last]
  refine List.filterMap_append.trans (congrArg (· ++ _) ?_)
  exact Daemon.request_filterMap (fun _ _ => rfl) env _ _ _ _ _

theorem refused_verdicts {g : Registering env} (ends : Ends g before last d)
    (refused : (d.receive last).aheader.proxyError ≠ perrorNone) :
    verdicts g.settled.log = verdicts g.daemon.log ++ [(g.appl env, none)] := by
  rw [ends.settled, Daemon.finish, if_pos refused, ← ends.verdicts, ← receive_verdicts d last]
  exact List.filterMap_append

theorem unsent_settled (g : Registering env) (unsent : env.send g.daemon.log.length = false) :
    g.answers = [] ∧ ∃ d, Keeps (g.daemon.storeRecv (g.daemon.recvbuffer.write 0 g.message)) d ∧
      g.settled = (d.note (.regfail (g.appl env))).goto .poll := by
  obtain ⟨d, keeps, asked⟩ := asked_eq env g.toRegisterMessage
  rw [unsent] at asked
  have none : g.answers = [] := by
    rcases List.eq_nil_or_concat g.answers with none | ⟨before, last, split⟩
    · exact none
    · have first : (g.asked env).control = .wait (.register (g.appl env)) :=
        g.waits [] (g.answers.head (by simp [split])) g.answers.tail (by simp)
      rw [asked] at first
      cases first
  refine ⟨none, d, keeps, ?_⟩
  rw [Registering.settled, none]
  exact asked

theorem unsent_verdicts (g : Registering env) (unsent : env.send g.daemon.log.length = false) :
    verdicts g.settled.log = verdicts g.daemon.log ++ [(g.appl env, none)] := by
  obtain ⟨-, d, keeps, settled⟩ := unsent_settled g unsent
  rw [settled]
  exact List.filterMap_append.trans (congrArg (· ++ _) keeps.verdicts)

theorem settled_verdicts (g : Registering env) : ∃ remote,
    verdicts g.settled.log = verdicts g.daemon.log ++ [(g.appl env, remote)] := by
  cases sent : env.send g.daemon.log.length with
  | false => exact ⟨_, unsent_verdicts g sent⟩
  | true =>
    obtain ⟨before, last, d, ends⟩ := ends_of_sent g sent
    by_cases granted : (d.receive last).aheader.proxyError = perrorNone
    · exact ⟨_, granted_verdicts ends granted⟩
    · exact ⟨_, refused_verdicts ends granted⟩

theorem Settles.plain {g : Registering env} (settles : g.Settles) : g.appl env = g.named := by
  obtain ⟨remote, log⟩ := settled_verdicts g
  have named (remote' : Option UInt16)
      (log' : verdicts g.settled.log = verdicts g.daemon.log ++ [(g.named, remote')]) :
      g.appl env = g.named :=
    (Prod.mk.inj (List.singleton_inj.mp (List.append_cancel_left (log.symm.trans log')))).1
  by_cases granted : ∃ r, g.Granted r
  · obtain ⟨r, granted⟩ := granted
    obtain ⟨remote', -, log', -⟩ := settles.granted r granted
    exact named _ log'
  · exact named _ (settles.refused (not_exists.mp granted)).1

theorem settles_refused_iff {g : Registering env} (plain : g.appl env = g.named) (ends : Ends g before last d)
    (refused : (d.receive last).aheader.proxyError ≠ perrorNone) :
    g.Settles ↔ ∀ id, polled d.log id = polled g.daemon.log id := by
  have settled : g.settled = ((d.receive last).note (.regfail (g.appl env))).goto .poll := by
    rw [ends.settled, Daemon.finish, if_pos refused]
  have none (r : Result) : ¬ g.Granted r := by
    rintro ⟨isLast, grants⟩
    rw [ends.split, List.getLast?_concat, Option.some.injEq] at isLast
    subst isLast
    rw [receive_header d grants.1] at refused
    exact refused grants.2.2.2.1
  have polled_eq (id : UInt16) : polled g.settled.log id = polled d.log id := by
    have heads_eq : heads g.settled.log = heads (d.receive last).log := by
      rw [settled]
      exact List.filterMap_append.trans (List.append_nil _)
    have packets_eq : packets g.settled.log = packets (d.receive last).log := by
      rw [settled]
      exact List.filterMap_append.trans (List.append_nil _)
    rw [polled, heads_eq, packets_eq]
    exact receive_polled ends.stops id
  constructor
  · intro settles id
    rw [← polled_eq]
    exact (settles.refused none).2.2.2 id
  · intro same
    refine ⟨fun r granted => absurd granted (none r), fun _ => ⟨?_, ?_, ?_, fun id => ?_⟩⟩
    · rw [← plain]
      exact refused_verdicts ends refused
    · rw [settled]
      exact ends.ltr
    · rw [settled]
      exact ends.rtl
    · rw [polled_eq, same]

theorem settles_granted_iff {g : Registering env} (plain : g.appl env = g.named) (ends : Ends g before last d)
    (granted : (d.receive last).aheader.proxyError = perrorNone) :
    g.Settles ↔ ∃ r, g.Granted r ∧ g.Fits r.header.appId := by
  obtain ⟨ltr, rtl⟩ := Daemon.finish_registers env g.named (d.receive last) granted
  rw [← plain, ← ends.settled, plain] at ltr rtl
  have log := granted_verdicts ends granted
  rw [plain] at log
  have isLast (r : Result) : g.Granted r ↔ r = last ∧ r.Grants g.id := by
    rw [Granted, ends.split, List.getLast?_concat, Option.some.injEq, eq_comm]
  constructor
  · intro settles
    by_cases grants : last.Grants g.id
    · have granted := (isLast last).mpr ⟨rfl, grants⟩
      obtain ⟨remote, same, -, entered⟩ := settles.granted last granted
      have value : last.header.appId.toNat = remote.toNat := by rw [← same, UInt16.toNat_toUInt32]
      refine ⟨last, granted, ?_, ?_, entered.appl_lt⟩
      · rw [value]
        exact remote.toNat_lt
      · rw [value]
        exact entered.remote_lt
    · have refused := (settles.refused fun r granted => by
        obtain ⟨rfl, also⟩ := (isLast r).mp granted
        exact grants also).1
      rw [log] at refused
      have pair := List.append_cancel_left refused
      simp at pair
  · rintro ⟨r, grants, fits⟩
    obtain ⟨rfl, answer⟩ := (isLast r).mp grants
    refine ⟨fun r' granted' => ?_, fun none => absurd grants (none r)⟩
    obtain ⟨rfl, -⟩ := (isLast r').mp granted'
    rw [receive_header d answer.1] at log ltr rtl
    obtain ⟨same, value⟩ := toUInt16_of_small fits.small
    refine ⟨r'.header.appId.toUInt16, same, log, ⟨?_, ?_⟩, fits.appl, ?_⟩
    · rw [ltr, ← ends.ltr]
      rfl
    · rw [rtl, ← ends.rtl]
      rfl
    · rw [value]
      exact fits.remote

theorem unsent_settles {g : Registering env} (plain : g.appl env = g.named)
    (unsent : env.send g.daemon.log.length = false) : g.Settles := by
  have log := unsent_verdicts g unsent
  obtain ⟨none, d, keeps, settled⟩ := unsent_settled g unsent
  refine ⟨fun r granted => ?_, fun _ => ⟨?_, ?_, ?_, fun id => ?_⟩⟩
  · rw [Granted, none] at granted
    cases granted.1
  · rwa [plain] at log
  · rw [settled]
    exact keeps.ltr
  · rw [settled]
    exact keeps.rtl
  · have heads_eq : heads g.settled.log = heads d.log := by
      rw [settled]
      exact List.filterMap_append.trans (List.append_nil _)
    have packets_eq : packets g.settled.log = packets d.log := by
      rw [settled]
      exact List.filterMap_append.trans (List.append_nil _)
    rw [polled, heads_eq, packets_eq]
    exact keeps.polled id

/-- The verdict on a registration is right exactly when the daemon reads the local id as it is, and the
request could not be sent, or the answer grants it under an id that fits, or what is left in the buffer has
an error code and no polling answer was dropped in between. -/
theorem registration_verdict_iff (env : Environment) (reads : env.ReadsChars) (g : Registering env) :
    g.Settles ↔ g.Fair := by
  have read : g.appl env = readId g.named := appid_namedId reads _
  by_cases plain : readId g.named = g.named
  · rw [plain] at read
    rw [Fair, and_iff_right plain]
    cases sent : env.send g.daemon.log.length with
    | true =>
      obtain ⟨before, last, d, ends⟩ := ends_of_sent g sent
      have header : (d.receive last).aheader =
        AnswerHeader.parse (leftover (g.daemon.recvbuffer.write 0 g.message) g.answers) 0 :=
          congrArg (AnswerHeader.parse · 0) ends.buffer
      rw [← header, ← ends.relays]
      simp only [Bool.true_eq_false, false_or]
      by_cases granted : (d.receive last).aheader.proxyError = perrorNone
      · rw [settles_granted_iff read ends granted]
        exact ⟨.inl, fun fair => fair.elim id fun refused => absurd granted refused.1⟩
      · rw [settles_refused_iff read ends granted]
        refine ⟨fun same => .inr ⟨granted, same⟩, fun fair => fair.elim ?_ And.right⟩
        rintro ⟨r, ⟨isLast, grants⟩, -⟩
        rw [ends.split, List.getLast?_concat, Option.some.injEq] at isLast
        subst isLast
        rw [receive_header d grants.1] at granted
        exact absurd grants.2.2.2.1 granted
    | false => exact iff_of_true (unsent_settles read sent) (.inl rfl)
  · exact iff_of_false (fun settles => plain (read.symm.trans settles.plain)) fun fair => plain fair.1

end Registering

def firstRegister : RegisterMessage where
  daemon := Daemon.sample.run .sample (initialized ++ [.failed])
  reads := by decide +kernel
  message := controlMessage 1 typeRegisterApp [2, 7, 1024]
  nonempty := by decide
  fits := by decide
  command := by decide +kernel
  subcommand := by decide +kernel

/-- The CAPI of the server has no application left. -/
def tooMany : Result :=
  .data (AnswerHeader.bytes ⟨40, 40, 0, 0, 5, MessageType.capiRegister.code, 0, 3, perrorNone, 0x1001⟩)
    (by decide) (by decide)

def refusedRegistering : Registering .sample where
  toRegisterMessage := firstRegister
  answers := [tooMany]
  waits := by decide +kernel
  ends := by decide +kernel

/-- The connection is lost behind the request. -/
def lostRegistering : Registering .sample where
  toRegisterMessage := firstRegister
  answers := [.closed]
  waits := by decide +kernel
  ends := by decide +kernel

/-- Application 128 is granted under the id 6. -/
def signedRegistering : Registering .sample where
  daemon := firstRegister.daemon
  reads := firstRegister.reads
  message := controlMessage 128 typeRegisterApp [2, 7, 1024]
  nonempty := by decide
  fits := by decide
  command := by decide +kernel
  subcommand := by decide +kernel
  answers := [.data (grant .capiRegister 5 6 []) (by decide) (by decide)]
  waits := by decide +kernel
  ends := by decide +kernel

theorem lost_settles_iff : lostRegistering.Settles ↔ lostRegistering.Fair :=
  Registering.registration_verdict_iff .sample Environment.sample_reads lostRegistering

/-- Two registrations succeed, the one that the server refused and the one that it never answered, and so does
one of application 65408 instead of the one of application 128. -/
theorem refused_not_settles :
    ¬ refusedRegistering.Settles ∧ ¬ lostRegistering.Settles ∧ ¬ signedRegistering.Settles := by
  refine ⟨fun settles => ?_, fun settles => ?_, fun settles => ?_⟩
  · have refused := settles.refused fun r granted => by
      obtain ⟨isLast, grants⟩ := granted
      obtain rfl : tooMany = r := Option.some.inj isLast
      exact absurd grants.2.2.2.2 (by decide +kernel)
    exact absurd refused.1 (by decide +kernel)
  · have refused := settles.refused fun r granted => by
      obtain ⟨isLast, grants⟩ := granted
      obtain rfl : Result.closed = r := Option.some.inj isLast
      exact absurd grants.1 (by decide)
    exact absurd refused.1 (by decide +kernel)
  · exact absurd settles.plain (by decide +kernel)

end CapiProxy.LinuxClient
