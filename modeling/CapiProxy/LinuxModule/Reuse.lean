import CapiProxy.LinuxModule.Queue

/-! Which application ids can be registered again. Kernelcapi takes an id as free once it is told
that the application is released, but the table of the card is what decides. -/
namespace CapiProxy.LinuxModule
open Bytes Traces

/-- The ids that have a cell in the table. -/
def Environment.InTable (env : Environment) (appl : UInt16) : Prop :=
  appl ≠ 0 ∧ appl ≤ env.capiMaxappl

/-- The ids given back to kernelcapi, after one more event. -/
def Event.givesBack (back : UInt16 → Bool) : Event → UInt16 → Bool
  | .told (.applReleased appl) => Function.update back appl true
  | .asked appl => Function.update back appl false
  | _ => back

/-- Kernelcapi was told that the application is released, and has not asked for it since. -/
def givenBack (log : List Event) : UInt16 → Bool := log.foldl Event.givesBack fun _ => false

@[simp] theorem givenBack_append (log : List Event) (e : Event) :
    givenBack (log ++ [e]) = e.givesBack (givenBack log) := by
  rw [givenBack, List.foldl_append]
  rfl

theorem givenBack_plain {log new : List Event} (plain : ∀ e ∈ new, e.isPlain = true) :
    givenBack (log ++ new) = givenBack log := by
  refine foldl_silent (fun e member back => ?_) log _
  have here := plain e member
  cases e with
  | told callback =>
    cases callback with
    | applReleased => cases here
    | _ => rfl
  | asked => cases here
  | _ => rfl

def Call.isAppl : Call → Bool
  | .registerAppl .. | .releaseAppl .. | .openCard | .ioctl .. => true
  | _ => false

namespace Card
variable {c c' : Card}

/-- An id that was given back is free in the table. -/
def Reusable (env : Environment) (c : Card) : Prop :=
  ∀ appl, env.InTable appl → givenBack c.log appl = true → c.applications appl = .free

/-- An application whose id was given back is not refused, and its register message goes into the
queue if there is memory and room for it. -/
def Forwards (env : Environment) (c : Card) (call : Call) : Prop :=
  ∀ alloc appl rp, call = .registerAppl alloc appl rp → env.InTable appl →
    givenBack c.log appl = true → c.status ≠ .free →
      (c.step env call).applications appl = .waiting ∧
      (alloc = true → c.skPending ≤ maxSkPending → ∃ params,
        (c.step env call).outgoingQueue = c.outgoingQueue ++
          [controlMessage appl typeRegisterApp params])

/-- The daemon reports no failed registration and confirms none for an id that was given back, and
a card that is free is only asked for applications that are free in its table. -/
def Restores (env : Environment) (c : Card) : Call → Prop
  | .ioctl num param _ => env.InTable param.toUInt16 →
    num ≠ ioctlErrorRegfail ∧
      (num = ioctlApplRegistered → givenBack c.log param.toUInt16 = false)
  | .registerAppl _ appl _ => env.InTable appl → c.status = .free → c.applications appl = .free
  | _ => True

structure Settled (c c' : Card) : Prop where
  applications : c'.applications = c.applications
  back : givenBack c'.log = givenBack c.log

theorem Settled.trans (first : Settled c c') (second : Settled c' c'') : Settled c c'' :=
  ⟨second.applications.trans first.applications, second.back.trans first.back⟩

theorem Told.settled (told : Told c c') : Settled c c' := by
  obtain ⟨new, log, plain⟩ := told.log
  exact ⟨told.applications, log ▸ givenBack_plain plain⟩

theorem Settled.reusable (settled : Settled c c') (reusable : c.Reusable env) : c'.Reusable env := by
  intro appl inside back
  rw [settled.applications]
  exact reusable appl inside (settled.back ▸ back)

theorem sendMessage_settled (env : Environment) (skb : Skb) (c : Card) :
    Settled c (c.sendMessage env skb) := by
  cases sendMessage_sent env skb c with
  | dropped refused told => exact told.settled
  | queued d running room told done =>
    rw [done]
    exact told.settled.trans ⟨rfl, rfl⟩

theorem readQueue_settled (length left : Nat) (queue : List Skb) (c : Card) :
    Settled c (c.readQueue length left queue).1 := by
  induction queue generalizing c with
  | nil =>
    rw [readQueue]
    split
    · exact ⟨rfl, rfl⟩
    · exact ⟨rfl, givenBack_append _ _⟩
  | cons skb queue ih =>
    rw [readQueue]
    split
    · exact ⟨rfl, rfl⟩
    · split
      · exact ⟨rfl, rfl⟩
      · split
        · have dropped : Settled c (c.skbDequeue .short skb queue) := ⟨rfl, rfl⟩
          exact dropped.trans (ih (c.skbDequeue .short skb queue))
        · split <;> exact ⟨rfl, rfl⟩

theorem registerInternal_settled (env : Environment) (alloc : Bool) (appl : UInt16)
    (rp : RegisterParams) (c : Card) : Settled c (c.registerInternal env alloc appl rp) := by
  unfold registerInternal
  split
  · exact sendMessage_settled env _ c
  · exact ⟨rfl, rfl⟩

theorem releaseInternal_settled (env : Environment) (alloc : Bool) (appl : UInt16) (c : Card) :
    Settled c (c.releaseInternal env alloc appl) := by
  unfold releaseInternal
  split
  · exact sendMessage_settled env _ c
  · exact ⟨rfl, rfl⟩

theorem registerAppl_closed (env : Environment) (alloc : Bool) (appl : UInt16) (rp : RegisterParams)
    (c : Card) (closed : c.status = .free) :
    c.registerAppl env alloc appl rp = (c.note (.asked appl)).tell (.applReleased appl) := by
  unfold registerAppl
  exact if_pos (show (c.note (.asked appl)).status = .free from closed)

theorem registerAppl_taken (env : Environment) (alloc : Bool) (appl : UInt16) (rp : RegisterParams)
    (c : Card) (running : c.status ≠ .free) (taken : c.applications appl ≠ .free) :
    c.registerAppl env alloc appl rp = c.note (.asked appl) := by
  have status : ¬ (c.note (.asked appl)).status = .free := running
  have isFree : (!(c.note (.asked appl)).applIsFree appl) = true := by
    simp only [applIsFree, note, taken]
    decide
  unfold registerAppl
  exact (if_neg status).trans (if_pos isFree)

theorem registerAppl_free (env : Environment) (alloc : Bool) (appl : UInt16) (rp : RegisterParams)
    (c : Card) (running : c.status ≠ .free) (free : c.applications appl = .free) :
    ∃ arp, c.registerAppl env alloc appl rp =
      await appl (c.note (.asked appl)) ((c.note (.asked appl)).registerInternal env alloc appl arp) := by
  have status : ¬ (c.note (.asked appl)).status = .free := running
  have isFree : ¬ (!(c.note (.asked appl)).applIsFree appl) = true := by
    simp only [applIsFree, note, free]
    decide
  unfold registerAppl
  exact ⟨_, (if_neg status).trans (if_neg isFree)⟩

theorem registerInternal_queued (env : Environment) (appl : UInt16) (rp : RegisterParams) (c : Card)
    (running : c.status ≠ .free) (room : c.skPending ≤ maxSkPending) :
    ∃ params, (c.registerInternal env true appl rp).outgoingQueue =
      c.outgoingQueue ++ [controlMessage appl typeRegisterApp params] := by
  refine ⟨[rp.level3cnt, rp.datablkcnt, rp.datablklen], ?_⟩
  rw [registerInternal, if_pos rfl]
  cases sendMessage_sent env (controlMessage appl typeRegisterApp
      [rp.level3cnt, rp.datablkcnt, rp.datablklen]) c with
  | dropped refused told =>
    rcases refused with free | full
    · exact absurd free running
    · omega
  | queued d _ _ told done =>
    rw [done, ← told.queue]
    rfl

theorem forwards (env : Environment) (reusable : c.Reusable env) (call : Call) :
    c.Forwards env call := by
  intro alloc appl rp same inside back running
  subst same
  obtain ⟨arp, registered⟩ :=
    registerAppl_free env alloc appl rp c running (reusable appl inside back)
  rw [step, registered]
  refine ⟨Function.update_self .., fun memory room => ?_⟩
  subst memory
  exact registerInternal_queued env appl arp (c.note (.asked appl)) running room

theorem note_back (c : Card) (e : Event) :
    givenBack (c.note e).log = e.givesBack (givenBack c.log) := givenBack_append _ _

theorem released_back (c : Card) (appl : UInt16) :
    givenBack (c.tell (.applReleased appl)).log = Function.update (givenBack c.log) appl true :=
  note_back c _

theorem asked_reusable (reusable : c.Reusable env) (c' : Card) (appl : UInt16) (state : Appl)
    (applications : c'.applications = Function.update c.applications appl state)
    (back : givenBack c'.log = Function.update (givenBack c.log) appl false) : c'.Reusable env := by
  intro other inside given
  rw [back] at given
  rw [applications]
  by_cases same : other = appl
  · rw [same, Function.update_self] at given
    cases given
  · rw [Function.update_of_ne same] at given ⊢
    exact reusable other inside given

theorem released_reusable_iff (reusable : c.Reusable env) (c' : Card) (appl : UInt16) (state : Appl)
    (applications : c'.applications = Function.update c.applications appl state)
    (back : givenBack c'.log = Function.update (givenBack c.log) appl true) :
    c'.Reusable env ↔ (env.InTable appl → state = .free) := by
  constructor
  · intro after inside
    have free := after appl inside ((congrFun back appl).trans (Function.update_self ..))
    rw [applications, Function.update_self] at free
    exact free
  · intro right other inside given
    rw [back] at given
    rw [applications]
    by_cases same : other = appl
    · rw [same, Function.update_self]
      exact right (same ▸ inside)
    · rw [Function.update_of_ne same] at given ⊢
      exact reusable other inside given

theorem confirmed_reusable_iff (reusable : c.Reusable env) (appl : UInt16) :
    ((c.tell (.applRegistered appl)).applMarkConfirmed appl).Reusable env ↔
      (env.InTable appl → givenBack c.log appl = false) := by
  have back : givenBack ((c.tell (.applRegistered appl)).applMarkConfirmed appl).log =
      givenBack c.log := note_back c _
  have table : ((c.tell (.applRegistered appl)).applMarkConfirmed appl).applications =
      Function.update c.applications appl .confirmed := rfl
  constructor
  · intro after inside
    refine Bool.eq_false_iff.mpr fun given => ?_
    have free := after appl inside (back.symm ▸ given)
    rw [table, Function.update_self] at free
    cases free
  · intro right other inside given
    rw [back] at given
    by_cases same : other = appl
    · subst same
      cases (right inside).symm.trans given
    · rw [table, Function.update_of_ne same]
      exact reusable other inside given

theorem registerAppl_reusable_iff (env : Environment) (reusable : c.Reusable env) (alloc : Bool)
    (appl : UInt16) (rp : RegisterParams) :
    (c.registerAppl env alloc appl rp).Reusable env ↔
      (env.InTable appl → c.status = .free → c.applications appl = .free) := by
  have unchanged : c.applications = Function.update c.applications appl (c.applications appl) :=
    (Function.update_eq_self appl c.applications).symm
  by_cases closed : c.status = .free
  · have back : givenBack ((c.note (.asked appl)).tell (.applReleased appl)).log =
        Function.update (givenBack c.log) appl true := by
      rw [released_back, note_back]
      exact Function.update_idem ..
    rw [registerAppl_closed env alloc appl rp c closed, released_reusable_iff reusable
      ((c.note (.asked appl)).tell (.applReleased appl)) appl (c.applications appl) unchanged back]
    exact forall_congr' fun _ => ⟨fun free _ => free, fun free => free closed⟩
  · refine iff_of_true ?_ fun _ free => absurd free closed
    by_cases free : c.applications appl = .free
    · obtain ⟨arp, registered⟩ := registerAppl_free env alloc appl rp c closed free
      have settled := registerInternal_settled env alloc appl arp (c.note (.asked appl))
      rw [registered]
      refine asked_reusable reusable _ appl .waiting ?_ ?_
      · exact congrArg (Function.update · appl Appl.waiting) settled.applications
      · exact (note_back _ _).trans (settled.back.trans (note_back c _))
    · rw [registerAppl_taken env alloc appl rp c closed free]
      exact asked_reusable reusable _ appl (c.applications appl) unchanged (note_back c _)

theorem ioctl_reusable_iff (env : Environment) (reusable : c.Reusable env) (num param : UInt32)
    (user : Memory) : (c.ioctl num param user).Reusable env ↔ c.Restores env (.ioctl num param user) := by
  unfold ioctl Restores
  dsimp only
  split
  · next data =>
    subst data
    refine iff_of_true ?_ fun _ => ⟨by decide, fun same => absurd same (by decide)⟩
    split
    · exact reusable
    · have settled : Settled c ((c.tell .ready).enter .running) := ⟨rfl, note_back c (.told .ready)⟩
      exact settled.reusable reusable
  · split
    · next failed =>
      subst failed
      have back := released_back (c.applMarkRevoked param.toUInt16) param.toUInt16
      rw [released_reusable_iff reusable ((c.applMarkRevoked param.toUInt16).tell _) param.toUInt16
        .revoked rfl back]
      exact forall_congr' fun _ => iff_of_false (by decide) fun both => both.1 rfl
    · next failed =>
      split
      · next confirmed =>
        subst confirmed
        rw [confirmed_reusable_iff reusable]
        exact forall_congr' fun _ => ⟨fun kept => ⟨by decide, fun _ => kept⟩, fun both => both.2 rfl⟩
      · next other =>
        exact iff_of_true reusable fun _ => ⟨failed, fun same => absurd same other⟩

theorem releaseAppl_reusable (env : Environment) (reusable : c.Reusable env) (alloc : Bool)
    (appl : UInt16) : (c.releaseAppl env alloc appl).Reusable env := by
  unfold releaseAppl
  split
  · next refused =>
    refine (released_reusable_iff reusable (c.tell _) appl (c.applications appl)
      (Function.update_eq_self appl c.applications).symm (released_back c appl)).mpr fun inside => ?_
    simp only [applIsFree, validApplid, Bool.or_eq_true, Bool.not_eq_true', decide_eq_true_eq,
      decide_eq_false_iff_not] at refused
    rcases refused with invalid | free
    · exact not_not.mp fun held => invalid ⟨inside.1, inside.2, held⟩
    · exact free
  · have settled := releaseInternal_settled env alloc appl c
    refine (released_reusable_iff reusable _ appl .free ?_ ?_).mpr fun _ => rfl
    · exact congrArg (Function.update · appl Appl.free) settled.applications
    · refine (released_back _ appl).trans ?_
      exact congrArg (fun back : UInt16 → Bool => Function.update back appl true) settled.back

theorem step_settled (env : Environment) (c : Card) (call : Call)
    (other : call.isAppl = false) : Settled c (c.step env call) := by
  cases call with
  | registerAppl | releaseAppl | openCard | ioctl => cases other
  | sendMessage skb => exact sendMessage_settled env skb c
  | read length left => exact readQueue_settled length left c.outgoingQueue c
  | resetCtr => exact ⟨rfl, note_back c.flushQueue _⟩
  | release => exact ⟨rfl, (note_back (c.tell .suspendOutput).flushQueue _).trans (note_back c _)⟩
  | removeCtr alloc =>
    simp only [step, removeCtr]
    split
    · have flushed : Settled c ((c.tell .suspendOutput).flushQueue.enter .removing) :=
        ⟨rfl, note_back c _⟩
      exact flushed.trans (sendMessage_settled env _ _)
    · exact ⟨rfl, rfl⟩
  | write memory buffer cnr => exact (write_told env memory buffer cnr c).settled

theorem step_reusable_iff (env : Environment) (reusable : c.Reusable env) (call : Call) :
    (c.step env call).Reusable env ↔ c.Restores env call := by
  have settled (other : call.isAppl = false) : (c.step env call).Reusable env :=
    (step_settled env c call other).reusable reusable
  cases call with
  | registerAppl alloc appl rp => exact registerAppl_reusable_iff env reusable alloc appl rp
  | ioctl num param user => exact ioctl_reusable_iff env reusable num param user
  | releaseAppl alloc appl => exact iff_of_true (releaseAppl_reusable env reusable alloc appl) trivial
  | openCard =>
    refine iff_of_true ?_ trivial
    simp only [step, openCard]
    split
    · intro appl inside _
      exact if_pos inside
    · exact reusable
  | _ => exact iff_of_true (settled rfl) trivial

end Card

/-- In every run, an id that was given back to kernelcapi is free and can be registered again,
exactly when the daemon reports no failure for an id of the table and confirms none that was given
back, and a free card is not asked for an application that its table still holds. -/
theorem reusable_iff (env : Environment) (calls : List Call) :
    Throughout (fun before call =>
      ((Card.run env before).step env call).Reusable env ∧
        (Card.run env before).Forwards env call) calls ↔
    Throughout (fun before call => (Card.run env before).Restores env call) calls := by
  refine throughout_iff_of_invariant (P := fun calls => (Card.run env calls).Reusable env)
    (fun _ _ _ => rfl) ?_ ?_ calls
  · intro before call reusable
    rw [Card.step_reusable_iff env reusable call]
    exact and_iff_left (Card.forwards env reusable call)
  · intro before call reusable restores
    rw [Card.run_append]
    exact (Card.step_reusable_iff env reusable call).mpr restores

/-- The daemon reads the register message of application 1 and reports a failure. -/
def failedRegistration : List Call :=
  [.openCard, .registerAppl true 1 ⟨2, 7, 1024⟩, .read 100 0, .ioctl ioctlErrorRegfail 1 zeros]

/-- Kernelcapi is told that application 1 is released, and may not register it again. -/
theorem failedRegistration_not_reusable :
    ¬ Throughout (fun before call =>
      ((Card.run .sample before).step .sample call).Reusable .sample ∧
        (Card.run .sample before).Forwards .sample call) failedRegistration := by
  intro whole
  obtain ⟨reusable, -⟩ := (throughout_iff_getElem _ _).mp whole 3 (by decide)
  exact absurd (reusable 1 ⟨by decide, by decide⟩ (by decide)) (by decide)

end CapiProxy.LinuxModule
