import CapiProxy.LinuxModule.Reuse

/-! What becomes of the register and release messages. The table is changed after a helper that
may give up without a word, and a flush takes messages out of the queue again. -/
namespace CapiProxy.LinuxModule
open Bytes Queues Traces

/-- The place in the queue's books of the message that each application was last registered with,
after one more event. -/
def Event.registers (message : UInt16 → Option Nat) : Event → UInt16 → Option Nat
  | .waiting appl place => Function.update message appl place
  | _ => message

def registerMessage (log : List Event) : UInt16 → Option Nat :=
  log.foldl Event.registers fun _ => none

@[simp] theorem registerMessage_append (log : List Event) (e : Event) :
    registerMessage (log ++ [e]) = e.registers (registerMessage log) := by
  rw [registerMessage, List.foldl_append]
  rfl

theorem registerMessage_plain {log new : List Event} (plain : ∀ e ∈ new, e.isPlain = true) :
    registerMessage (log ++ new) = registerMessage log := by
  refine foldl_silent (fun e member message => ?_) log _
  have here := plain e member
  cases e with
  | waiting => cases here
  | _ => rfl

def Call.isReleaseAppl : Call → Bool
  | .releaseAppl .. => true
  | _ => false

namespace Card
variable {c c' : Card} {skb : Skb} {queue : List Skb}

/-- The `n`-th message is in the queue, or the daemon has read it. -/
def Held (c : Card) (n : Nat) (skb : Skb) : Prop :=
  c.journal.Queued c.outgoingQueue n skb ∨ c.journal.Left n skb .read

/-- The register message of an application is in the queue, or the daemon has read it. -/
def Registering (c : Card) (appl : UInt16) : Prop :=
  ∃ n params, registerMessage c.log appl = some n ∧
    c.Held n (controlMessage appl typeRegisterApp params)

/-- An application waits only while its register message is on the way; a verdict of the daemon
ends the waiting. -/
def Tracked (env : Environment) (c : Card) : Prop :=
  ∀ appl, env.InTable appl → c.applications appl = .waiting → c.Registering appl

/-- A registered application is marked free only if its release message was put in the queue. -/
def Releases (env : Environment) (c : Card) (call : Call) : Prop :=
  ∀ alloc appl, call = .releaseAppl alloc appl → c.validApplid env appl = true →
    (c.step env call).applications appl = .free →
      (c.step env call).outgoingQueue = c.outgoingQueue ++ [controlMessage appl typeReleaseApp []]

def Admits (c : Card) (alloc : Bool) : Prop :=
  alloc = true ∧ c.status ≠ .free ∧ c.skPending ≤ maxSkPending

/-- No application waits whose register message the daemon has not read yet. -/
def AllRead (env : Environment) (c : Card) : Prop :=
  ∀ appl, env.InTable appl → c.applications appl = .waiting →
    ∀ n, registerMessage c.log appl = some n → n < c.journal.gone.length

/-- Control messages find memory and room, and the queue is flushed only when the daemon has read
the register messages of all waiting applications. -/
def Delivers (env : Environment) (c : Card) : Call → Prop
  | .registerAppl alloc appl _ => env.InTable appl → c.status ≠ .free → c.applications appl = .free →
    c.Admits alloc
  | .releaseAppl alloc appl => c.validApplid env appl = true → c.Admits alloc
  | .resetCtr | .removeCtr true | .release => c.AllRead env
  | _ => True

/-- The applications and the places of their messages are as they were, and long enough messages
are still held. -/
structure Keeps (c c' : Card) : Prop where
  applications : c'.applications = c.applications
  message : registerMessage c'.log = registerMessage c.log
  held : ∀ n skb, 6 ≤ List.length skb → c.Held n skb → c'.Held n skb

theorem Keeps.refl (c : Card) : Keeps c c := ⟨rfl, rfl, fun _ _ _ held => held⟩

theorem Keeps.trans (first : Keeps c c') (second : Keeps c' c'') : Keeps c c'' :=
  ⟨second.applications.trans first.applications, second.message.trans first.message,
    fun n skb long held => second.held n skb long (first.held n skb long held)⟩

theorem note_keeps (c : Card) {e : Event} (other : ∀ message, e.registers message = message) :
    Keeps c (c.note e) :=
  ⟨rfl, (registerMessage_append _ _).trans (other _), fun _ _ _ held => held⟩

theorem Told.keeps (told : Told c c') : Keeps c c' := by
  obtain ⟨new, log, plain⟩ := told.log
  refine ⟨told.applications, log ▸ registerMessage_plain plain, fun n skb _ held => ?_⟩
  rw [Held, told.journal, told.queue]
  exact held

theorem skbQueueTail_keeps (skb : Skb) (c : Card) : Keeps c (c.skbQueueTail skb) := by
  refine ⟨rfl, rfl, fun n other _ held => ?_⟩
  rcases held with queued | read
  · exact .inl (queued.accept skb)
  · exact .inr read

theorem sendMessage_keeps (env : Environment) (skb : Skb) (c : Card) :
    Keeps c (c.sendMessage env skb) := by
  cases sendMessage_sent env skb c with
  | dropped refused told => exact told.keeps
  | queued d running room told done =>
    rw [done]
    exact told.keeps.trans (skbQueueTail_keeps skb d)

theorem skbDequeue_keeps (whole : c.outgoingQueue = skb :: queue) (fate : Fate)
    (dropped : fate = .read ∨ List.length skb < 6) : Keeps c (c.skbDequeue fate skb queue) := by
  refine ⟨rfl, rfl, fun n other long held => ?_⟩
  rcases held with queued | read
  · rw [whole] at queued
    rcases queued.leave fate with later | ⟨rfl, left⟩
    · exact .inl later
    · rcases dropped with rfl | short
      · exact .inr left
      · omega
  · exact .inr (read.leave fate [skb])

theorem readQueue_keeps (length left : Nat) (queue : List Skb) (c : Card)
    (whole : c.outgoingQueue = queue) : Keeps c (c.readQueue length left queue).1 := by
  induction queue generalizing c with
  | nil =>
    rw [readQueue]
    split
    · exact .refl c
    · exact note_keeps c fun _ => rfl
  | cons skb queue ih =>
    rw [readQueue]
    split
    · exact .refl c
    · split
      · exact .refl c
      · split
        · next short =>
          exact (skbDequeue_keeps whole .short (.inr short)).trans (ih (c.skbDequeue .short skb queue) rfl)
        · split
          · exact .refl c
          · exact skbDequeue_keeps whole .read (.inl rfl)

theorem Keeps.registering (keeps : Keeps c c') (registering : c.Registering appl) :
    c'.Registering appl := by
  obtain ⟨n, params, message, held⟩ := registering
  exact ⟨n, params, by rw [keeps.message, message], keeps.held n _ (by simp) held⟩

theorem Keeps.tracked (keeps : Keeps c c') (tracked : c.Tracked env) : c'.Tracked env := by
  intro appl inside waiting
  rw [keeps.applications] at waiting
  exact keeps.registering (tracked appl inside waiting)

theorem Tracked.elsewhere (tracked : c.Tracked env) (keeps : Keeps c d) (id : UInt16)
    (applications : ∀ appl, appl ≠ id → c'.applications appl = d.applications appl)
    (message : ∀ appl, appl ≠ id → registerMessage c'.log appl = registerMessage d.log appl)
    (held : ∀ n skb, d.Held n skb → c'.Held n skb)
    (here : env.InTable id → c'.applications id = .waiting → c'.Registering id) : c'.Tracked env := by
  intro appl inside waiting
  by_cases same : appl = id
  · subst same
    exact here inside waiting
  · rw [applications appl same] at waiting
    obtain ⟨n, params, place, holds⟩ := keeps.tracked tracked appl inside waiting
    exact ⟨n, params, (message appl same).trans place, held n _ holds⟩

theorem registerInternal_keeps (env : Environment) (alloc : Bool) (appl : UInt16)
    (rp : RegisterParams) (c : Card) : Keeps c (c.registerInternal env alloc appl rp) := by
  unfold registerInternal
  split
  · exact sendMessage_keeps env _ c
  · exact .refl c

theorem releaseInternal_keeps (env : Environment) (alloc : Bool) (appl : UInt16) (c : Card) :
    Keeps c (c.releaseInternal env alloc appl) := by
  unfold releaseInternal
  split
  · exact sendMessage_keeps env _ c
  · exact .refl c

theorem control_sent (env : Environment) (alloc : Bool) (skb : Skb) (c : Card) :
    (c.Admits alloc ∧ ∃ d, Told c d ∧
      (if alloc then c.sendMessage env skb else c) = d.skbQueueTail skb) ∨
    (¬ c.Admits alloc ∧ Told c (if alloc then c.sendMessage env skb else c)) := by
  cases alloc with
  | false => exact .inr ⟨fun admits => Bool.false_ne_true admits.1, .refl c⟩
  | true =>
    rw [if_pos rfl]
    cases sendMessage_sent env skb c with
    | queued d running room told done => exact .inl ⟨⟨rfl, running, room⟩, d, told, done⟩
    | dropped refused told =>
      refine .inr ⟨fun ⟨_, running, room⟩ => ?_, told⟩
      rcases refused with free | full
      · exact running free
      · omega

theorem await_message (appl : UInt16) (before after : Card) :
    registerMessage (await appl before after).log =
      Function.update (registerMessage after.log) appl
        (if before.journal.accepted.length < after.journal.accepted.length then
          some before.journal.accepted.length else none) :=
  registerMessage_append _ _

theorem await_tracked_iff (tracked : c.Tracked env) {before after : Card} (keeps : Keeps c after)
    (appl : UInt16) : (await appl before after).Tracked env ↔
      (env.InTable appl → (await appl before after).Registering appl) := by
  have waiting : (await appl before after).applications appl = .waiting := Function.update_self ..
  refine ⟨fun whole inside => whole appl inside waiting, fun here => ?_⟩
  refine tracked.elsewhere keeps appl (fun other apart => Function.update_of_ne apart ..)
    (fun other apart => ?_) (fun _ _ held => held) fun inside _ => here inside
  rw [await_message, Function.update_of_ne apart]

theorem await_queued (appl : UInt16) (params : List UInt32) {before d : Card}
    (accounts : d.journal.Accounts d.outgoingQueue) (same : d.journal = before.journal) :
    (await appl before (d.skbQueueTail (controlMessage appl typeRegisterApp params))).Registering
      appl := by
  refine ⟨d.journal.accepted.length, params, ?_, .inl (Journal.queued_last accounts _)⟩
  rw [await_message, Function.update_self, ← same, if_pos]
  simp [skbQueueTail, Journal.accept]

theorem registerAppl_tracked_iff (env : Environment) (tracked : c.Tracked env) (books : c.Books)
    (alloc : Bool) (appl : UInt16) (rp : RegisterParams) :
    (c.registerAppl env alloc appl rp).Tracked env ↔ c.Delivers env (.registerAppl alloc appl rp) := by
  have asked : Keeps c (c.note (.asked appl)) := note_keeps c fun _ => rfl
  by_cases closed : c.status = .free
  · refine iff_of_true ?_ fun _ running => absurd closed running
    rw [registerAppl_closed env alloc appl rp c closed]
    exact (asked.trans (note_keeps _ fun _ => rfl)).tracked tracked
  · by_cases free : c.applications appl = .free
    · obtain ⟨arp, registered⟩ := registerAppl_free env alloc appl rp c closed free
      have keeps := asked.trans (registerInternal_keeps env alloc appl arp (c.note (.asked appl)))
      rw [registered, await_tracked_iff tracked keeps]
      refine forall_congr' fun _ => ?_
      have whole := books.note (.asked appl) nofun
      rcases control_sent env alloc (controlMessage appl typeRegisterApp
          [arp.level3cnt, arp.datablkcnt, arp.datablklen]) (c.note (.asked appl)) with
        ⟨admits, d, told, queued⟩ | ⟨refused, told⟩
      · refine iff_of_true ?_ fun _ _ => admits
        have done : (c.note (.asked appl)).registerInternal env alloc appl arp =
            d.skbQueueTail _ := queued
        rw [done]
        exact await_queued appl _ (whole.told told).accounts told.journal
      · refine iff_of_false ?_ fun admits => refused (admits closed free)
        rintro ⟨n, params, message, -⟩
        have same : ((c.note (.asked appl)).registerInternal env alloc appl arp).journal =
            (c.note (.asked appl)).journal := told.journal
        rw [await_message, Function.update_self, same, if_neg (Nat.lt_irrefl _)] at message
        cases message
    · refine iff_of_true ?_ fun _ _ free' => absurd free' free
      rw [registerAppl_taken env alloc appl rp c closed free]
      exact asked.tracked tracked

theorem releaseAppl_invalid (env : Environment) (alloc : Bool) (appl : UInt16) (c : Card)
    (invalid : ¬ c.validApplid env appl = true) :
    c.releaseAppl env alloc appl = c.tell (.applReleased appl) := by
  unfold releaseAppl
  rw [Bool.eq_false_iff.mpr invalid]
  rfl

theorem releaseAppl_valid (env : Environment) (alloc : Bool) (appl : UInt16) (c : Card)
    (valid : c.validApplid env appl = true) :
    c.releaseAppl env alloc appl =
      ((c.releaseInternal env alloc appl).applMarkFree appl).tell (.applReleased appl) := by
  have held : c.applIsFree appl = false := by
    simp only [validApplid, decide_eq_true_eq] at valid
    simp only [applIsFree, valid.2.2, decide_false]
  unfold releaseAppl
  rw [valid, held]
  rfl

theorem releaseAppl_tracked (env : Environment) (tracked : c.Tracked env) (alloc : Bool)
    (appl : UInt16) : (c.releaseAppl env alloc appl).Tracked env := by
  by_cases valid : c.validApplid env appl = true
  · rw [releaseAppl_valid env alloc appl c valid]
    refine tracked.elsewhere (releaseInternal_keeps env alloc appl c) appl
      (fun other apart => Function.update_of_ne apart ..)
      (fun other _ => congrFun (registerMessage_append _ _) other) (fun _ _ held => held) ?_
    intro _ waiting
    have marked : (((c.releaseInternal env alloc appl).applMarkFree appl).tell
        (.applReleased appl)).applications appl = .free := Function.update_self ..
    cases marked.symm.trans waiting
  · rw [releaseAppl_invalid env alloc appl c valid]
    exact (note_keeps c fun _ => rfl).tracked tracked

theorem releaseAppl_releases_iff (env : Environment) (c : Card) (alloc : Bool) (appl : UInt16) :
    c.Releases env (.releaseAppl alloc appl) ↔ c.Delivers env (.releaseAppl alloc appl) := by
  have stepped (valid : c.validApplid env appl = true) :
      (c.step env (.releaseAppl alloc appl)).outgoingQueue =
        (c.releaseInternal env alloc appl).outgoingQueue := by
    rw [step, releaseAppl_valid env alloc appl c valid]
    rfl
  have sent := control_sent env alloc (controlMessage appl typeReleaseApp []) c
  constructor
  · intro releases valid
    have free : (c.step env (.releaseAppl alloc appl)).applications appl = .free := by
      rw [step, releaseAppl_valid env alloc appl c valid]
      exact Function.update_self ..
    have queued := releases alloc appl rfl valid free
    rw [stepped valid] at queued
    rcases sent with ⟨admits, -⟩ | ⟨-, told⟩
    · exact admits
    · have same : (c.releaseInternal env alloc appl).outgoingQueue = c.outgoingQueue := told.queue
      rw [same] at queued
      exact absurd (congrArg List.length queued) (by simp)
  · intro delivers alloc' appl' same valid _
    cases same
    rw [stepped valid]
    rcases sent with ⟨-, d, told, queued⟩ | ⟨refused, -⟩
    · rw [← told.queue]
      exact congrArg Card.outgoingQueue queued
    · exact absurd (delivers valid) refused

theorem flushed_tracked_iff (tracked : c.Tracked env) (applications : c'.applications = c.applications)
    (message : registerMessage c'.log = registerMessage c.log)
    (gone : c'.journal.gone = c.journal.gone ++ c.outgoingQueue.map (·, Fate.flushed)) :
    c'.Tracked env ↔ c.AllRead env := by
  constructor
  · intro after appl inside waiting n place
    obtain ⟨n', params, place', held⟩ := tracked appl inside waiting
    obtain rfl := Option.some.inj (place.symm.trans place')
    rcases held with queued | read
    · obtain ⟨n', params', place', held'⟩ := after appl inside (applications ▸ waiting)
      rw [message] at place'
      obtain rfl := Option.some.inj (place.symm.trans place')
      have left : c'.journal.Left n (controlMessage appl typeRegisterApp params) .flushed := by
        rw [Journal.Left, gone]
        exact queued.leave_all .flushed
      rcases held' with queued' | read'
      · exact absurd left queued'.not_left
      · cases (Prod.mk.inj (Option.some.inj (left.symm.trans read'))).2
    · exact (List.getElem?_eq_some_iff.mp read).1
  · intro read appl inside waiting
    rw [applications] at waiting
    obtain ⟨n, params, place, held⟩ := tracked appl inside waiting
    have before := read appl inside waiting n place
    refine ⟨n, params, message ▸ place, .inr ?_⟩
    rw [Journal.Left, gone, List.getElem?_append_left before]
    rcases held with queued | read
    · exact absurd before (Nat.not_lt.mpr queued.1)
    · exact read

theorem sendMessage_gone (env : Environment) (skb : Skb) (c : Card) :
    (c.sendMessage env skb).journal.gone = c.journal.gone := by
  cases sendMessage_sent env skb c with
  | dropped refused told => rw [told.journal]
  | queued d running room told done =>
    rw [done, ← told.journal]
    rfl

theorem other_releases (env : Environment) (c : Card) (call : Call)
    (other : call.isReleaseAppl = false) : c.Releases env call := by
  intro alloc appl same
  rw [same] at other
  cases other

theorem ioctl_tracked (env : Environment) (tracked : c.Tracked env) (num param : UInt32) (user : Memory) :
    (c.ioctl num param user).Tracked env := by
  have verdict (state : Appl) (ended : state ≠ .waiting) (c' : Card)
      (applications : c'.applications = Function.update c.applications param.toUInt16 state)
      (keeps : Keeps c { c' with applications := c.applications }) : c'.Tracked env := by
    refine tracked.elsewhere keeps param.toUInt16
      (fun other apart => by rw [applications]; exact Function.update_of_ne apart ..)
      (fun _ _ => rfl) (fun _ _ held => held) fun _ waiting => ?_
    rw [applications, Function.update_self] at waiting
    exact absurd waiting ended
  unfold ioctl
  dsimp only
  split
  · split
    · exact tracked
    · have ready : Keeps c ((c.tell .ready).enter .running) :=
        ⟨rfl, registerMessage_append _ _, fun _ _ _ held => held⟩
      exact ready.tracked tracked
  · split
    · exact verdict .revoked nofun _ rfl
        ⟨rfl, registerMessage_append _ _, fun _ _ _ held => held⟩
    · split
      · exact verdict .confirmed nofun _ rfl
          ⟨rfl, registerMessage_append _ _, fun _ _ _ held => held⟩
      · exact tracked

theorem step_tracked_iff (env : Environment) (tracked : c.Tracked env) (books : c.Books) (call : Call) :
    ((c.step env call).Tracked env ∧ c.Releases env call) ↔ c.Delivers env call := by
  cases call with
  | releaseAppl alloc appl =>
    have after : (c.step env (.releaseAppl alloc appl)).Tracked env :=
      releaseAppl_tracked env tracked alloc appl
    rw [and_iff_right after]
    exact releaseAppl_releases_iff env c alloc appl
  | registerAppl alloc appl rp =>
    rw [and_iff_left (other_releases env c _ rfl)]
    exact registerAppl_tracked_iff env tracked books alloc appl rp
  | resetCtr =>
    rw [and_iff_left (other_releases env c _ rfl)]
    exact flushed_tracked_iff tracked rfl (registerMessage_append _ _) rfl
  | release =>
    rw [and_iff_left (other_releases env c _ rfl)]
    refine flushed_tracked_iff tracked rfl ?_ rfl
    exact (registerMessage_append _ _).trans (registerMessage_append c.log _)
  | removeCtr alloc =>
    rw [and_iff_left (other_releases env c _ rfl)]
    cases alloc with
    | false => exact iff_of_true tracked trivial
    | true =>
      let flushed := (c.tell .suspendOutput).flushQueue.enter .removing
      have keeps := sendMessage_keeps env (controlMessage 0 typeShutdown []) flushed
      exact flushed_tracked_iff tracked keeps.applications
        (keeps.message.trans (registerMessage_append _ _)) (sendMessage_gone env _ flushed)
  | sendMessage skb =>
    exact iff_of_true ⟨(sendMessage_keeps env skb c).tracked tracked, other_releases env c _ rfl⟩
      trivial
  | read length left =>
    exact iff_of_true ⟨(readQueue_keeps length left _ c rfl).tracked tracked,
      other_releases env c _ rfl⟩ trivial
  | write memory buffer cnr =>
    exact iff_of_true ⟨(write_told env memory buffer cnr c).keeps.tracked tracked,
      other_releases env c _ rfl⟩ trivial
  | ioctl num param user =>
    exact iff_of_true ⟨ioctl_tracked env tracked num param user, other_releases env c _ rfl⟩ trivial
  | openCard =>
    refine iff_of_true ⟨?_, other_releases env c _ rfl⟩ trivial
    simp only [step, openCard]
    split
    · intro appl inside waiting
      cases (if_pos inside : (if appl ≠ 0 ∧ appl ≤ env.capiMaxappl then Appl.free else
        c.applications appl) = .free).symm.trans waiting
    · exact tracked

end Card

/-- In every run, applications wait only while their register message is on the way, and are
marked free only when their release message is queued, exactly when control messages find memory
and room and the queue is not flushed while a register message is in it. -/
theorem control_iff (env : Environment) (calls : List Call) :
    Throughout (fun before call =>
      ((Card.run env before).step env call).Tracked env ∧
        (Card.run env before).Releases env call) calls ↔
    Throughout (fun before call => (Card.run env before).Delivers env call) calls := by
  refine throughout_iff_of_invariant (P := fun calls => (Card.run env calls).Tracked env)
    nofun ?_ ?_ calls
  · intro before call tracked
    exact Card.step_tracked_iff env tracked (Card.run_books env before) call
  · intro before call tracked delivers
    rw [Card.run_append]
    exact ((Card.step_tracked_iff env tracked (Card.run_books env before) call).mpr delivers).1

def resetWhileRegistering : List Call :=
  [.openCard, .registerAppl true 1 ⟨2, 7, 1024⟩, .resetCtr]

/-- The application waits for an answer to a message that no one will read. -/
theorem resetWhileRegistering_lost :
    ¬ Throughout (fun before call =>
      ((Card.run .sample before).step .sample call).Tracked .sample ∧
        (Card.run .sample before).Releases .sample call) resetWhileRegistering := by
  intro whole
  have before := ((throughout_iff_getElem _ _).mp whole 1 (by decide)).1
  have delivers := (Card.step_tracked_iff .sample before
    (Card.run_books .sample (resetWhileRegistering.take 2)) .resetCtr).mp
      ((throughout_iff_getElem _ _).mp whole 2 (by decide))
  exact absurd (delivers 1 ⟨by decide, by decide⟩ (by decide) 0 (by decide)) (by decide)

end CapiProxy.LinuxModule
