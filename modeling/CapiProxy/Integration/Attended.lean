import CapiProxy.Integration.Registering
import CapiProxy.LinuxModule.Control

/-! No application waits in vain at the station, as long as no register message is lost on its way to the
daemon. -/
namespace CapiProxy.Integration
open LinuxModule LinuxClient Traces Bytes

namespace Station
variable {env : Setup} {s s' : Station}

def isRegister (env : LinuxClient.Environment) (skb : Skb) : Bool :=
  match asked env (zeros.write 0 skb) with
  | some (.register _) => true
  | _ => false

/-- A registration finds memory and room for its message, and the queue is flushed when no register message is
in it. -/
def attends (env : Setup) (s : Station) (move : StationMove) : Bool :=
  s.allowed move &&
    match move with
    | .kernelcapi (.registerAppl alloc appl _) =>
        !s.card.applIsFree appl || alloc && s.card.skPending ≤ maxSkPending
    | .kernelcapi .resetCtr | .kernelcapi (.removeCtr true) =>
        s.card.outgoingQueue.all (!isRegister env.daemon ·)
    | _ => true

/-- The register message of the application is in the queue, or the daemon is about to give its verdict. -/
def Attended (env : Setup) (s : Station) (x : UInt16) : Prop :=
  (∃ skb ∈ s.card.outgoingQueue, registers env.daemon x skb) ∨ s.daemon.control.registering = some x ∨
    .registered x ∈ s.calls ∨ .regfail x ∈ s.calls

/-- No application waits in vain whose id the daemon reads as it is. -/
def Served (env : Setup) (s : Station) : Prop := s.isOpen → ∀ x, env.module.InTable x → readId x = x →
  s.card.applications x = .waiting → s.Attended env x

theorem registers_isRegister {env : LinuxClient.Environment} (named : registers env x skb) :
    isRegister env skb := by
  rw [registers, decide_eq_true_eq] at named
  rw [isRegister, named]

theorem registered_attended (reads : env.daemon.ReadsChars) (plain : readId x = x) (before : List Skb)
    (params : List UInt32)
    (queue : s.card.outgoingQueue = before ++ [controlMessage x typeRegisterApp params]) : s.Attended env x := by
  refine .inl ⟨_, queue ▸ List.mem_append_right _ (List.mem_singleton_self _), ?_⟩
  rw [registers, asked_control reads, if_pos rfl, plain, decide_eq_true_eq]

theorem Attended.stays (attended : s.Attended env x)
    (queue : ∀ skb ∈ s.card.outgoingQueue, skb ∈ s'.card.outgoingQueue)
    (daemon : s'.daemon = s.daemon) (calls : s'.calls = s.calls) : s'.Attended env x := by
  rcases attended with ⟨skb, member, named⟩ | deciding
  · exact .inl ⟨skb, queue skb member, named⟩
  · rw [Attended, daemon, calls]
    exact .inr deciding

theorem Served.registerAppl (reads : env.daemon.ReadsChars) (served : s.Served env) {alloc : Bool}
    {appl : UInt16}
    (rp : RegisterParams) (room : s.card.applications appl = .free → alloc = true ∧ s.card.skPending ≤ maxSkPending) :
    Served env { s with card := s.card.registerAppl env.module alloc appl rp } := by
  intro opened x inside plain waiting
  have behind := Card.step_behind env.module s.card (rfl : (Call.registerAppl alloc appl rp).keepsQueue = true)
  have stays (applications : (s.card.registerAppl env.module alloc appl rp).applications x = s.card.applications x) :
      Attended env { s with card := s.card.registerAppl env.module alloc appl rp } x :=
    (served opened x inside plain (applications ▸ waiting)).stays
        (fun skb member => behind.subset member) rfl rfl
  by_cases closed : s.card.status = .free
  · have same := Card.registerAppl_closed env.module alloc appl rp s.card closed
    exact stays (by rw [same]; rfl)
  · by_cases free : s.card.applications appl = .free
    · obtain ⟨rfl, space⟩ := room free
      obtain ⟨arp, registered⟩ := Card.registerAppl_free env.module true appl rp s.card closed free
      obtain ⟨params, queue⟩ := Card.registerInternal_queued env.module appl arp
          (s.card.note (.asked appl)) closed space
      by_cases own : x = appl
      · subst own
        refine registered_attended reads plain s.card.outgoingQueue params ?_
        rw [registered]
        exact queue
      · refine stays ?_
        rw [registered]
        refine (Function.update_of_ne own _ _).trans ?_
        have settled := Card.registerInternal_settled env.module true appl arp (s.card.note (.asked appl))
        exact congrFun settled.applications x
    · have same := Card.registerAppl_taken env.module alloc appl rp s.card closed free
      exact stays (by rw [same]; rfl)

theorem Served.releaseAppl (served : s.Served env) (alloc : Bool) (appl : UInt16) :
    Served env { s with card := s.card.releaseAppl env.module alloc appl } := by
  intro opened x inside plain waiting
  have behind := Card.step_behind env.module s.card (rfl : (Call.releaseAppl alloc appl).keepsQueue = true)
  have stays (applications : (s.card.releaseAppl env.module alloc appl).applications x = s.card.applications x) :
      Attended env { s with card := s.card.releaseAppl env.module alloc appl } x :=
    (served opened x inside plain (applications ▸ waiting)).stays
        (fun skb member => behind.subset member) rfl rfl
  by_cases valid : s.card.validApplid env.module appl = true
  · have step := Card.releaseAppl_valid env.module alloc appl s.card valid
    have settled := Card.releaseInternal_settled env.module alloc appl s.card
    by_cases own : x = appl
    · subst own
      have freed : (s.card.releaseAppl env.module alloc x).applications x = .free := by
        rw [step]
        exact Function.update_self ..
      cases freed.symm.trans waiting
    · refine stays ?_
      rw [step]
      exact (Function.update_of_ne own _ _).trans (congrFun settled.applications x)
  · have same := Card.releaseAppl_invalid env.module alloc appl s.card valid
    exact stays (by rw [same]; rfl)

theorem Served.flushes (served : s.Served env)
    (none : s.card.outgoingQueue.all (!isRegister env.daemon ·)) {card : Card}
    (applications : card.applications = s.card.applications) : Served env { s with card } := by
  intro opened x inside plain waiting
  rcases served opened x inside plain (applications ▸ waiting) with ⟨skb, member, named⟩ | deciding
  · have other := List.all_eq_true.mp none skb member
    rw [registers_isRegister named] at other
    cases other
  · exact .inr deciding

theorem Served.calls (reads : env.daemon.ReadsChars) (served : s.Served env) {call : Call}
    (may : s.attends env (.kernelcapi call)) : Served env { s with card := s.card.step env.module call } := by
  simp only [attends, Bool.and_eq_true] at may
  obtain ⟨allowed, may⟩ := may
  cases call with
  | sendMessage skb =>
    intro opened x inside plain waiting
    have settled := Card.sendMessage_settled env.module skb s.card
    refine (served opened x inside plain (settled.applications ▸ waiting)).stays
        (fun other member => ?_) rfl rfl
    exact (Card.sendMessage_behind env.module skb s.card).subset member
  | registerAppl alloc appl rp =>
    refine served.registerAppl reads rp fun free => ?_
    simpa [Card.applIsFree, free] using may
  | releaseAppl alloc appl => exact served.releaseAppl alloc appl
  | resetCtr => exact served.flushes may rfl
  | removeCtr alloc =>
    cases alloc with
    | false => exact served
    | true =>
      have settled := Card.sendMessage_settled env.module (controlMessage 0 typeShutdown [])
        (((s.card.tell .suspendOutput).flushQueue).enter .removing)
      exact served.flushes may settled.applications
  | openCard | release | read | write | ioctl => simp [Station.allowed, fromKernelcapi] at allowed

theorem Attended.later {call : NodeCall} {later : List NodeCall} (attended : s.Attended env x)
    (first : s.calls = call :: later)
    (other : call ≠ .registered x ∧ call ≠ .regfail x) (queue : s'.card.outgoingQueue = s.card.outgoingQueue)
    (daemon : s'.daemon = s.daemon) (calls : s'.calls = later) : s'.Attended env x := by
  rw [Attended, queue, daemon, calls]
  rw [Attended, first] at attended
  refine attended.imp_right (Or.imp_right ?_)
  rintro (member | member)
  · exact .inl ((List.mem_cons.mp member).resolve_left fun same => other.1 same.symm)
  · exact .inr ((List.mem_cons.mp member).resolve_left fun same => other.2 same.symm)

theorem ioctl_verdict (appl : UInt16) (c : Card) :
    c.ioctl ioctlApplRegistered appl.toUInt32 zeros =
        (c.tell (.applRegistered appl)).applMarkConfirmed appl ∧
      c.ioctl ioctlErrorRegfail appl.toUInt32 zeros =
        (c.applMarkRevoked appl).tell (.applReleased appl) := by
  simp [Card.ioctl, ioctlSetData, ioctlErrorRegfail, ioctlApplRegistered]

theorem Served.performs (served : s.Served env) (memory : Option Memory) {call : NodeCall}
    {later : List NodeCall}
    (first : s.calls = call :: later) : ({ s with calls := later }.perform env memory call).Served env := by
  intro opened x inside plain waiting
  have kept (was : s.isOpen) (other : call ≠ .registered x ∧ call ≠ .regfail x)
      (applications : ({ s with calls := later }.perform env memory call).card.applications x = s.card.applications x)
      (queue : ({ s with calls := later }.perform env memory call).card.outgoingQueue = s.card.outgoingQueue) :
      ({ s with calls := later }.perform env memory call).Attended env x := by
    obtain ⟨daemon, calls, -⟩ := perform_card env { s with calls := later } memory call
    exact (served was x inside plain (applications.symm.trans waiting)).later first other queue daemon calls
  -- the verdict is about this application or about another one
  have marked {c : Card} {appl : UInt16} {state : Appl}
      (table : c.applications = Function.update s.card.applications appl state)
      (decided : state ≠ .waiting) (waits : c.applications x = .waiting) :
      x ≠ appl ∧ c.applications x = s.card.applications x := by
    have apart : x ≠ appl := by
      rintro rfl
      rw [table, Function.update_self] at waits
      exact decided waits
    exact ⟨apart, by rw [table, Function.update_of_ne apart]⟩
  cases call with
  | openNode =>
    simp only [perform, decide_eq_true_eq] at opened waiting
    rw [Card.openCard, if_pos opened] at waiting
    have free : (s.card.initAppls env.module).applications x = .free := if_pos inside
    cases free.symm.trans waiting
  | closeNode => cases opened
  | setData info =>
    let user := zeros.write env.infobuffer.toNat info.image
    have card : ({ s with calls := later }.perform env memory (.setData info)).card =
        s.card.ioctl ioctlSetData env.infobuffer user := if_pos opened
    have same : (s.card.ioctl ioctlSetData env.infobuffer user).applications = s.card.applications ∧
        (s.card.ioctl ioctlSetData env.infobuffer user).outgoingQueue = s.card.outgoingQueue := by
      rw [Card.ioctl, if_pos rfl]
      split <;> exact ⟨rfl, rfl⟩
    exact kept opened (by simp) (by rw [card, same.1]) (by rw [card, same.2])
  | write message =>
    have card : ({ s with calls := later }.perform env memory (.write message)).card =
        (s.card.write env.module memory message env.cnr).1 := if_pos opened
    have told := Card.write_told env.module memory message env.cnr s.card
    exact kept opened (by simp) (by rw [card, told.applications]) (by rw [card, told.queue])
  | registered appl =>
    have card : ({ s with calls := later }.perform env memory (.registered appl)).card =
        (s.card.tell (.applRegistered appl)).applMarkConfirmed appl :=
      (if_pos opened).trans (ioctl_verdict appl s.card).1
    obtain ⟨apart, applications⟩ := marked (by rw [card]; rfl) (by decide : Appl.confirmed ≠ .waiting) waiting
    exact kept opened ⟨fun same => apart (by cases same; rfl), by simp⟩ applications (by rw [card]; rfl)
  | regfail appl =>
    have card : ({ s with calls := later }.perform env memory (.regfail appl)).card =
        (s.card.applMarkRevoked appl).tell (.applReleased appl) :=
      (if_pos opened).trans (ioctl_verdict appl s.card).2
    obtain ⟨apart, applications⟩ := marked (by rw [card]; rfl) (by decide : Appl.revoked ≠ .waiting) waiting
    exact kept opened ⟨by simp, fun same => apart (by cases same; rfl)⟩ applications (by rw [card]; rfl)

theorem Served.takes (reads : env.daemon.ReadsChars) (served : s.Served env) (judged : s.Judged env) {skb : Skb}
    {daemon : Daemon} (idle : s.calls = []) (control : s.daemon.control = .read)
    (copied : (s.card.read bufferSize 0).2 = .copied skb)
    (taken : Daemon.Taken env.daemon skb (s.daemon.storeRecv (s.daemon.recvbuffer.write 0 skb)) daemon) :
    (s.after (s.card.read bufferSize 0).1 daemon).Served env := by
  intro opened x inside plain waiting
  have queue := (s.card.read_long bufferSize 0 judged.ordered.long).1 skb copied
  have settled := Card.readQueue_settled bufferSize 0 s.card.outgoingQueue s.card
  have before := served opened x inside plain (settled.applications ▸ waiting)
  rw [Attended, idle, control, queue] at before
  obtain ⟨other, member, named⟩ := before.resolve_right (by simp [Control.registering])
  rcases List.mem_cons.mp member with rfl | later
  · -- the daemon has the register message
    have asks := asked_written reads s.daemon.recvbuffer
        (judged.ordered.long other (queue ▸ List.mem_cons_self))
    rw [registers, decide_eq_true_eq, ← asks] at named
    cases taken with
    | sends op asked sent frame request passed log control =>
      cases named.symm.trans asked
      exact .inr (.inl (by rw [after, control]; rfl))
    | fails op asked unsent log =>
      cases named.symm.trans asked
      refine .inr (.inr (.inr (List.mem_append_left _ ?_)))
      have whole : daemon.log = s.daemon.log ++ [.regfail x] := log
      rw [whole, List.drop_left]
      exact List.mem_singleton_self _
    | ends asked => cases named.symm.trans asked
    | ignores asked => cases named.symm.trans asked
  · exact .inl ⟨other, later, named⟩

theorem Served.turns (served : s.Served env) (judged : s.Judged env) {card : Card} {daemon : Daemon}
    (idle : s.calls = [])
    (same : card = s.card ∨ card = (s.card.read bufferSize 0).1 ∧ ∀ skb, (s.card.read bufferSize 0).2 ≠ .copied skb)
    (turn : Daemon.Turn s.daemon daemon) : (s.after card daemon).Served env := by
  intro opened x inside plain waiting
  have kept : card.applications = s.card.applications ∧ card.outgoingQueue = s.card.outgoingQueue := by
    rcases same with rfl | ⟨rfl, none⟩
    · exact ⟨rfl, rfl⟩
    · exact ⟨(Card.readQueue_settled bufferSize 0 s.card.outgoingQueue s.card).applications,
        (s.card.read_long bufferSize 0 judged.ordered.long).2 none⟩
  have before := served opened x inside plain (kept.1 ▸ waiting)
  rw [Attended, idle] at before
  rcases before with queued | registering | pending | pending
  · exact .inl (kept.2.symm ▸ queued)
  · cases turn with
    | goes calm same => exact .inr (.inl (same.trans registering))
    | collects mid info calm done fetching => cases (Control.fetching_idle fetching).1.symm.trans registering
    | decides appl waits mid verdict calm decides log =>
      cases waits.symm.trans registering
      obtain ⟨new, log', -⟩ := calm
      have calls : (daemon.log.drop s.daemon.log.length).flatMap nodeCalls =
          new.flatMap nodeCalls ++ nodeCalls verdict := by
        rw [log, log', List.append_assoc, List.drop_left, List.flatMap_append, List.flatMap_singleton]
      refine .inr (.inr ?_)
      rw [after, calls]
      rcases decides with rfl | ⟨remote, rfl⟩
      · exact .inr (by simp [nodeCalls])
      · exact .inl (by simp [nodeCalls])
  · cases pending
  · cases pending

theorem Served.step (reads : env.daemon.ReadsChars) (served : s.Served env) (judged : s.Judged env)
    (may : s.attends env move) (made : s.step env move = some s') : s'.Served env := by
  have allowed := (Bool.and_eq_true _ _ ▸ may).1
  cases moved judged.ordered.fits allowed made with
  | calls call attached => exact served.calls reads may
  | performs memory call later first => exact served.performs memory first
  | takes r skb daemon idle opened control copied taken =>
      exact served.takes reads judged idle control copied taken
  | turns r card daemon idle same turn => exact served.turns judged idle same turn

/-- As long as each registration finds memory and room for its message, and no flush takes a register message
out of the queue: an application that waits has its message in the queue, or the daemon is waiting for the
server's answer to it, or its verdict is among the calls that the daemon makes next. This is for the ids that
the daemon reads as they are. -/
theorem waiting_attended (reads : env.daemon.ReadsChars) (sessionId msgid : UInt32)
    (sendbuffer recvbuffer : Memory)
    (info : InitData) (runs : Runs (step env) (attends env) (start env sessionId msgid sendbuffer recvbuffer info) s)
    (opened : s.isOpen) (x : UInt16) (inside : env.module.InTable x) (plain : x.toNat % 256 < 128)
    (waiting : s.card.applications x = .waiting) :
    (∃ skb ∈ s.card.outgoingQueue, registers env.daemon x skb) ∨ s.daemon.control.registering = some x ∨
      .registered x ∈ s.calls ∨ .regfail x ∈ s.calls := by
  have both := runs.invariant (P := fun s => s.Judged env ∧ s.Served env)
    ⟨start_judged env sessionId msgid sendbuffer recvbuffer info, nofun⟩ fun s move s' both may made =>
      ⟨both.1.step reads (Bool.and_eq_true _ _ ▸ may).1 made, both.2.step reads both.1 may made⟩
  exact both.2 opened x inside (if_pos plain) waiting

/-- Application 1 waits, and the daemon waits for the answer about it. -/
theorem firstMessage_attended : ∃ s : Station, s.daemon.control = .wait (.register 1) ∧
    ((∃ skb ∈ s.card.outgoingQueue, registers sampleSetup.daemon 1 skb) ∨ s.daemon.control.registering = some 1 ∨
      .registered 1 ∈ s.calls ∨ .regfail 1 ∈ s.calls) := by
  have ends : ((opening ++ .kernelcapi (.registerAppl true 1 ⟨1, 8, 1024⟩) :: polling).foldlM
      (permitted (step sampleSetup) (attends sampleSetup))
          (start sampleSetup 3 0 zeros zeros ⟨[], [], [], []⟩)).map
        (fun s => (s.isOpen, s.card.applications 1, s.daemon.control)) =
      some (true, .waiting, .wait (.register 1)) := by decide +kernel
  obtain ⟨s, made, same⟩ := Option.map_eq_some_iff.mp ends
  obtain ⟨opened, rest⟩ := Prod.mk.inj same
  obtain ⟨waiting, control⟩ := Prod.mk.inj rest
  exact ⟨s, control, waiting_attended ⟨fun _ _ => rfl, fun _ _ => rfl⟩ 3 0 _ _ _ (runs_of_moves made) opened 1
    ⟨by decide, by decide⟩ (by decide) waiting⟩

end Station
end CapiProxy.Integration
