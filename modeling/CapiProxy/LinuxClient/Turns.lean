import CapiProxy.LinuxClient.Mapping
import CapiProxy.LinuxClient.Requests

/-! What the daemon adds to its log from one system call to the next: a message of the module leads to at most
one request, and a registration to one verdict. -/
namespace CapiProxy.LinuxClient
open Bytes LinuxModule

/-- A request that a message of the module leads to. -/
def passing : MessageType → Bool
  | .capiRegister | .capiRelease | .capiPutmessage => true
  | _ => false

def Event.passed : Event → Option (List UInt8)
  | .sent head frame =>
    match MessageType.ofCode head.messageType with
    | some type => if passing type then some frame else none
    | none => none
  | _ => none

/-- An event that is nothing for the module but a message, and no request for a message of the module. -/
def Event.isCalm : Event → Bool
  | .setData _ | .registered .. | .regfail _ => false
  | e => e.passed.isNone

/-- The application that the daemon registers. -/
def Control.registering : Control → Option UInt16
  | .wait (.register appl) => some appl
  | _ => none

def Control.fetching : Control → Bool
  | .wait (.fetch _) => true
  | _ => false

theorem Control.fetching_idle {c : Control} (fetching : c.fetching) : c.registering = none ∧ c ≠ .down := by
  match c, fetching with
  | .wait (.fetch _), _ => exact ⟨rfl, nofun⟩

/-- The message is sent on but for its ids. -/
def Passes (skb message : List UInt8) : Prop :=
  message.length = skb.length ∧ ∀ i, i < 2 ∨ 4 ≤ i ∧ i < 8 ∨ 12 ≤ i → message[i]? = skb[i]?

/-- The request for a message of the module that a daemon has read. -/
inductive Asks (env : Environment) (skb : List UInt8) : Operation → List UInt8 → Prop where
  | register (d : Daemon) (holds : Holds d.recvbuffer 0 skb) :
      Asks env skb (.register (env.appid d.recvbuffer)) ((Query.register (env.l3c d.recvbuffer)
        (env.dbc d.recvbuffer) (env.dbl d.recvbuffer)).frame d)
  | release (d : Daemon) (holds : Holds d.recvbuffer 0 skb) :
      Asks env skb (.release (env.appid d.recvbuffer)) ((Query.release (env.appid d.recvbuffer)).frame d)
  | put (d : Daemon) (appl : UInt32) (message : List UInt8)
      (fits : message.length + sizeofRequestHeader ≤ bufferSize) (passes : Passes skb message) :
      Asks env skb .put ((Query.put appl message fits).frame d)

namespace Daemon

/-- Only calm events were added. -/
def Calm (d d' : Daemon) : Prop := ∃ new, d'.log = d.log ++ new ∧ ∀ e ∈ new, e.isCalm = true

theorem Calm.refl (d : Daemon) : Calm d d := ⟨[], (List.append_nil _).symm, nofun⟩

theorem Calm.trans (first : Calm d d') (second : Calm d' d'') : Calm d d'' := by
  obtain ⟨new, log, calm⟩ := first
  obtain ⟨new', log', calm'⟩ := second
  refine ⟨new ++ new', by rw [log', log, List.append_assoc], fun e member => ?_⟩
  exact (List.mem_append.mp member).elim (calm e) (calm' e)

theorem note_calm (d : Daemon) {e : Event} (calm : e.isCalm = true) : Calm d (d.note e) :=
  ⟨[e], rfl, fun _ member => List.mem_singleton.mp member ▸ calm⟩

theorem request_calm (env : Environment) (type : MessageType) (appl : UInt32) (body data : List UInt8)
    (d : Daemon) (other : passing type = false) : Calm d (d.request env type appl body data).1 := by
  simp only [request]
  split
  · refine note_calm (d.compose _ _) ?_
    simp only [Event.isCalm, Event.passed, header]
    rw [MessageType.ofCode_code]
    simp [other]
  · exact .refl d

theorem handleServerpacket_calm (env : Environment) (d : Daemon) : Calm d (d.handleServerpacket env) := by
  unfold handleServerpacket
  split
  · exact request_calm env _ _ _ _ d rfl
  · exact (note_calm (d.storeSend _) rfl).trans (request_calm env _ _ _ _ (d.sendToModule env) rfl)
  · exact .refl d

theorem receive_calm (d : Daemon) (r : Result) : Calm d (d.receive r) := note_calm (d.storeRecv _) rfl

theorem Calm.passed (calm : Calm d d') : d'.log.filterMap Event.passed = d.log.filterMap Event.passed := by
  obtain ⟨new, log, calm⟩ := calm
  have none : new.filterMap Event.passed = [] := List.filterMap_eq_nil_iff.mpr fun e member => by
    have here := calm e member
    cases e <;> first | rfl | simpa [Event.isCalm] using here
  rw [log, List.filterMap_append, none, List.append_nil]

/-- What a system call other than the read from the module leads to. -/
inductive Turn (d d' : Daemon) : Prop where
  | goes (calm : Calm d d') (registering : d'.control.registering = d.control.registering)
      (fetching : d'.control.fetching → d.control.fetching) (down : d'.control = .down ↔ d.control = .down)
  | collects (mid : Daemon) (info : InitData) (calm : Calm d mid)
      (done : d' = (mid.note (.setData info)).goto .poll)
      (fetching : d.control.fetching)
  | decides (appl : UInt16) (waits : d.control.registering = some appl) (mid : Daemon) (verdict : Event)
      (calm : Calm d mid) (decides : verdict = .regfail appl ∨ ∃ remote, verdict = .registered appl remote)
      (log : d'.log = mid.log ++ [verdict]) (control : d'.control = .poll)

theorem Turn.moves (calm : Calm d d') (before : d.control = .poll ∨ d.control = .read)
    (after : d'.control = .poll ∨ d'.control = .read) : Turn d d' := by
  refine .goes calm ?_ ?_ ?_ <;> rcases before with before | before <;> rcases after with after | after <;>
    simp [before, after, Control.registering, Control.fetching]

theorem Turn.passed (turn : Turn d d') : d'.log.filterMap Event.passed = d.log.filterMap Event.passed := by
  cases turn with
  | goes calm => exact calm.passed
  | collects mid info calm done =>
    have log : d'.log = mid.log ++ [.setData info] := by rw [done]; rfl
    rw [log, List.filterMap_append, calm.passed]
    exact List.append_nil _
  | decides appl waits mid verdict calm decides log =>
    rw [log, List.filterMap_append, calm.passed]
    rcases decides with rfl | ⟨remote, rfl⟩ <;> exact List.append_nil _

theorem Turn.grows (turn : Turn d d') : ∃ new, d'.log = d.log ++ new := by
  cases turn with
  | goes calm =>
    obtain ⟨new, log, -⟩ := calm
    exact ⟨new, log⟩
  | collects mid info calm done =>
    obtain ⟨new, log, -⟩ := calm
    exact ⟨new ++ [.setData info], by rw [done, ← List.append_assoc, ← log]; rfl⟩
  | decides appl waits mid verdict calm decides log =>
    obtain ⟨new, log', -⟩ := calm
    exact ⟨new ++ [verdict], by rw [log, log', List.append_assoc]⟩

theorem fetch_turns (env : Environment) (property : Property) (d : Daemon) :
    Calm d (d.fetch env property) ∧ (d.fetch env property).control.registering = none ∧
      (d.fetch env property).control ≠ .down := by
  have calm := request_calm env property.type 0 [] [] d (by cases property <;> rfl)
  unfold fetch await
  split
  · next sent =>
    rw [sent] at calm
    exact ⟨calm, rfl, nofun⟩
  · next sent =>
    rw [sent] at calm
    exact ⟨calm, rfl, nofun⟩

theorem finish_turn (env : Environment) {op : Operation} {d d' : Daemon} (waits : d.control = .wait op)
    (calm : Calm d d') : Turn d (d'.finish env op) := by
  have collected (property : Property) : Calm d (d'.collect property) := calm
  have next (property : Property) (e : Daemon) (calm : Calm d e) (fetching : d.control.fetching) :
      Turn d (e.fetch env property) := by
    obtain ⟨sends, idle, up⟩ := fetch_turns env property e
    exact .goes (calm.trans sends) (idle.trans (Control.fetching_idle fetching).1.symm) (fun _ => fetching)
      (iff_of_false up (Control.fetching_idle fetching).2)
  have stops (other : d.control.registering = none) {e : Daemon} (calm : Calm d e) : Turn d (e.goto .poll) :=
    .goes calm other.symm nofun (iff_of_false nofun (by rw [waits]; nofun))
  unfold finish
  split
  · cases op with
    | register appl =>
      exact .decides appl (by rw [waits]; rfl) d' (.regfail appl) calm (.inl rfl) rfl rfl
    | fetch | release | put => exact stops (by rw [waits]; rfl) calm
  · cases op with
    | register appl =>
      have polled := request_calm env .capiWaitforsignal d'.aheader.appId.toUInt16.toUInt32 [] [] d' rfl
      exact .decides appl (by rw [waits]; rfl) _ (.registered appl d'.aheader.appId.toUInt16)
          (calm.trans polled)
        (.inr ⟨_, rfl⟩) rfl rfl
    | release appl => exact stops (by rw [waits]; rfl) (calm.trans (note_calm d' rfl))
    | put => exact stops (by rw [waits]; rfl) calm
    | fetch property =>
      have fetching : d.control.fetching := by rw [waits]; rfl
      cases property with
      | manufacturer => exact next .version _ (collected .manufacturer) fetching
      | version => exact next .serial _ (collected .version) fetching
      | serial => exact next .profile _ (collected .serial) fetching
      | profile => exact .collects _ _ (collected .profile) rfl fetching

theorem step_turn (env : Environment) (d : Daemon) (r : Result)
    (other : d.control = .read → ∀ bytes nonempty fits, r ≠ .data bytes nonempty fits) :
    Turn d (d.step env r) := by
  have handled := (receive_calm d r).trans (handleServerpacket_calm env _)
  cases control : d.control with
  | down =>
    simp only [step, control]
    exact .goes (.refl d) rfl id Iff.rfl
  | poll =>
    simp only [step, control]
    have moves {e : Daemon} (calm : Calm d e) : Turn d (e.goto .read) :=
      .moves calm (.inl control) (.inr rfl)
    cases r with
    | failed => exact moves (.refl d)
    | closed => exact moves handled
    | data => exact moves handled
  | read =>
    simp only [step, control]
    cases r with
    | data bytes nonempty fits => exact absurd rfl (other control bytes nonempty fits)
    | failed | closed =>
      exact .moves (.refl d) (.inr control) (.inl rfl)
  | wait op =>
    simp only [step, control]
    cases r with
    | failed | closed => exact finish_turn env control (receive_calm d _)
    | data bytes nonempty fits =>
      dsimp only
      split
      · have same : ((d.receive (.data bytes nonempty fits)).handleServerpacket env).control = d.control :=
          handleServerpacket_control env _
        exact .goes handled (congrArg _ same) (fun fetching => same ▸ fetching) (by rw [same])
      · exact finish_turn env control (receive_calm d _)

theorem await_cases (env : Environment) (op : Operation) (next : Daemon → Daemon) (q : Query) (d : Daemon) :
    env.send d.log.length = true ∧
        (await op next (q.send env d)).log = d.log ++ [.sent (q.header d) (q.frame d)] ∧
        (await op next (q.send env d)).control = .wait op ∨
      env.send d.log.length = false ∧
        ∃ e : Daemon, e.log = d.log ∧ await op next (q.send env d) = (next e).goto .poll := by
  cases sends : env.send d.log.length with
  | true =>
    have sent : (q.send env d).2 = true := by
      cases q <;> simp [Query.send, sendHelo, request, sends]
    have log := q.send_sent env d sends
    have whole : q.send env d = ((q.send env d).1, true) := Prod.ext rfl sent
    rw [whole]
    exact .inl ⟨rfl, log, rfl⟩
  | false =>
    have unsent : (q.send env d).2 = false ∧ (q.send env d).1.log = d.log := by
      cases q <;> simp [Query.send, sendHelo, request, sends] <;> rfl
    have whole : q.send env d = ((q.send env d).1, false) := Prod.ext rfl unsent.1
    refine .inr ⟨rfl, (q.send env d).1, unsent.2, ?_⟩
    rw [whole]
    rfl

end Daemon

def Operation.refusal : Operation → List Event
  | .register appl => [.regfail appl]
  | _ => []

theorem sent_passed (d : Daemon) (q : Query) (passes : passing q.type) :
    (Event.sent (q.header d) (q.frame d)).passed = some (q.frame d) := by
  simp [Event.passed, (q.header_lengths d).1, passes]

namespace Daemon

/-- What becomes of a message of the module that the daemon has in its receive buffer. -/
inductive Taken (env : Environment) (skb : List UInt8) (d d' : Daemon) : Prop where
  | sends (op : Operation) (asks : asked env d.recvbuffer = some op) (sent : Event) (frame : List UInt8)
      (request : Asks env skb op frame) (passed : sent.passed = some frame) (log : d'.log = d.log ++ [sent])
      (control : d'.control = .wait op) (accepted : env.send d.log.length = true)
  | fails (op : Operation) (asks : asked env d.recvbuffer = some op) (unsent : env.send d.log.length = false)
      (log : d'.log = d.log ++ op.refusal) (control : d'.control = .poll)
  | ends (asks : asked env d.recvbuffer = none) (shutdown : capimsgSubcommand d.recvbuffer = typeShutdown)
      (log : d'.log = d.log) (control : d'.control = .down)
  | ignores (asks : asked env d.recvbuffer = none) (other : capimsgSubcommand d.recvbuffer ≠ typeShutdown)
      (log : d'.log = d.log) (control : d'.control = .poll)

theorem Taken.grows (taken : Taken env skb d d') : ∃ new, d'.log = d.log ++ new := by
  cases taken with
  | sends op asks sent frame request passed log => exact ⟨_, log⟩
  | fails op asks unsent log => exact ⟨_, log⟩
  | ends asks shutdown log | ignores asks other log => exact ⟨[], log.trans (List.append_nil _).symm⟩

theorem mapped_passes {d : Daemon} {skb : List UInt8} (holds : Holds d.recvbuffer 0 skb) (appl : UInt16)
    (contr : UInt32) :
    Passes skb ((capimsgSetcontrol (capimsgSetappid d.recvbuffer appl) contr).read 0 skb.length) := by
  refine ⟨Memory.length_read _ _ _, fun i apart => ?_⟩
  by_cases inside : i < skb.length
  · have here := holds.byte inside
    rw [Nat.zero_add] at here
    have kept : capimsgSetcontrol (capimsgSetappid d.recvbuffer appl) contr i = d.recvbuffer i := by
      rw [capimsgSetcontrol, capimsgSetappid, Memory.write_outside _ _ _ _ (by rw [length_bytes32]; omega),
        Memory.write_outside _ _ _ _ (by rw [length_littleEndian]; omega)]
    rw [List.getElem?_eq_getElem (by rwa [Memory.length_read]), List.getElem?_eq_getElem inside, Memory.getElem_read,
      Nat.zero_add, kept, here]
  · rw [List.getElem?_eq_none (by rw [Memory.length_read]; omega), List.getElem?_eq_none (by omega)]

theorem fromModule_taken (env : Environment) {d : Daemon} {skb : List UInt8} (holds : Holds d.recvbuffer 0 skb)
    (fits : skb.length + sizeofRequestHeader ≤ bufferSize) : Taken env skb d (d.fromModule env skb.length) := by
  unfold fromModule
  dsimp only
  split
  · next proxy =>
    have asks : asked env d.recvbuffer = if capimsgSubcommand d.recvbuffer = typeRegisterApp then
        some (.register (env.appid d.recvbuffer)) else if capimsgSubcommand d.recvbuffer = typeReleaseApp then
        some (.release (env.appid d.recvbuffer)) else none := if_pos proxy
    split
    · next registers =>
      rw [if_pos registers] at asks
      rw [(requests_send env d (env.appid d.recvbuffer) .serial).2.2.2.1]
      rcases await_cases env (.register (env.appid d.recvbuffer)) (note · (.regfail (env.appid d.recvbuffer)))
        (.register (env.l3c d.recvbuffer) (env.dbc d.recvbuffer) (env.dbl d.recvbuffer)) d with
        ⟨accepted, log, control⟩ | ⟨unsent, e, same, fails⟩
      · exact .sends _ asks _ _ (.register d holds) (sent_passed d _ rfl) log control accepted
      · rw [fails]
        exact .fails _ asks unsent (congrArg (· ++ _) same) rfl
    · next other =>
      rw [if_neg other] at asks
      split
      · next releases =>
        rw [if_pos releases] at asks
        rw [(requests_send env d (env.appid d.recvbuffer) .serial).2.2.2.2]
        rcases await_cases env (.release (env.appid d.recvbuffer)) id (.release (env.appid d.recvbuffer)) d with
          ⟨accepted, log, control⟩ | ⟨unsent, e, same, fails⟩
        · exact .sends _ asks _ _ (.release d holds) (sent_passed d _ rfl) log control accepted
        · rw [fails]
          exact .fails _ asks unsent (same.trans (List.append_nil _).symm) rfl
      · next other =>
        rw [if_neg other] at asks
        split
        · next shutdown => exact .ends asks shutdown rfl rfl
        · next other => exact .ignores asks other rfl rfl
  · next other =>
    have asks : asked env d.recvbuffer = some .put := if_neg other
    let remote := d.element env d.applmapLtr (env.u16 d.recvbuffer 2).toInt
    have passes := mapped_passes holds remote
      ((env.ncci (capimsgSetappid d.recvbuffer remote) &&& 0xFFFFFF80) + 1)
    unfold sendToServer
    dsimp only [remote] at passes ⊢
    generalize capimsgSetcontrol (capimsgSetappid d.recvbuffer _) _ = recvbuffer at passes ⊢
    have fits' : (recvbuffer.read 0 skb.length).length + sizeofRequestHeader ≤ bufferSize := by
      rwa [Memory.length_read]
    rcases await_cases env .put id (.put (.ofBitVec (env.u16 recvbuffer 2)) (recvbuffer.read 0 skb.length) fits')
      (d.storeRecv recvbuffer) with
      ⟨accepted, log, control⟩ | ⟨unsent, e, same, fails⟩
    · exact .sends _ asks _ _ (.put _ _ _ fits' passes) (sent_passed _ _ rfl) log control accepted
    · exact .fails _ asks unsent ((congrArg Daemon.log fails).trans (same.trans (List.append_nil _).symm))
        (congrArg Daemon.control fails)

end Daemon
end CapiProxy.LinuxClient
