import CapiProxy.LinuxModule.Pool

/-! What a daemon finds when it opens a card. The pool of cards is kept by the statuses alone: a card
is given away when its status says that it is free. -/
namespace CapiProxy.LinuxModule
open Bytes Ownership Traces

namespace Card
variable {c : Card}

structure Clean (env : Environment) (c : Card) : Prop where
  pending : c.skPending = 0
  queue : c.outgoingQueue = []
  table : ∀ appl, env.InTable appl → c.applications appl = .free

/-- What is in the queue was taken after the first n messages. -/
structure Since (n : Nat) (c : Card) : Prop where
  earlier : n ≤ c.journal.accepted.length
  queue : c.outgoingQueue.Sublist (c.journal.accepted.drop n)

theorem Since.told {c' : Card} (since : c.Since n) (told : Told c c') : c'.Since n := by
  constructor
  · rw [told.journal]
    exact since.earlier
  · rw [told.journal, told.queue]
    exact since.queue

theorem Since.sendMessage (since : c.Since n) (env : Environment) (skb : Skb) :
    (c.sendMessage env skb).Since n := by
  cases sendMessage_sent env skb c with
  | dropped refused told => exact since.told told
  | queued d running room told done =>
    have before := since.told told
    rw [done]
    constructor
    · refine Nat.le_trans before.earlier ?_
      simp [skbQueueTail, Queues.Journal.accept]
    · simp only [skbQueueTail, Queues.Journal.accept, List.drop_append_of_le_length before.earlier]
      exact before.queue.append_right [skb]

theorem since_stable (env : Environment) (n : Nat) : Stable env (Since n) where
  note since _ _ := ⟨since.earlier, since.queue⟩
  enter since _ := ⟨since.earlier, since.queue⟩
  table since _ := ⟨since.earlier, since.queue⟩
  data since _ := ⟨since.earlier, since.queue⟩
  flushQueue since := ⟨since.earlier, List.nil_sublist _⟩
  sendMessage since := since.sendMessage env

theorem readQueue_since (length left : Nat) (queue : List Skb) (since : c.Since n)
    (whole : c.outgoingQueue = queue) : (c.readQueue length left queue).1.Since n := by
  induction queue generalizing c with
  | nil =>
    rw [readQueue]
    split
    · exact since
    · exact ⟨since.earlier, since.queue⟩
  | cons skb queue ih =>
    have dequeued (fate : Fate) : (c.skbDequeue fate skb queue).Since n := by
      refine ⟨since.earlier, (List.sublist_cons_self skb queue).trans ?_⟩
      exact whole ▸ since.queue
    rw [readQueue]
    split
    · exact since
    · split
      · exact since
      · split
        · exact ih (dequeued .short) rfl
        · split
          · exact since
          · exact dequeued .read

theorem step_since (env : Environment) (since : c.Since n) (call : Call) : (c.step env call).Since n := by
  cases call with
  | read length left => exact readQueue_since length left c.outgoingQueue since rfl
  | _ => exact (since_stable env n).step since _ (by simp)

theorem readQueue_mem (length left : Nat) (queue : List Skb) (c : Card)
    (copied : (c.readQueue length left queue).2 = .copied skb) : skb ∈ queue := by
  induction queue generalizing c with
  | nil =>
    rw [readQueue] at copied
    split at copied <;> cases copied
  | cons head queue ih =>
    rw [readQueue] at copied
    split at copied
    · cases copied
    · split at copied
      · cases copied
      · split at copied
        · exact List.mem_cons_of_mem _ (ih _ copied)
        · split at copied
          · cases copied
          · cases copied
            exact List.mem_cons_self

theorem returns_mem (call : Call) (returned : c.returns call = some skb) : skb ∈ c.outgoingQueue := by
  cases call with
  | read length left =>
    cases result : (c.read length left).2 with
    | copied other =>
      simp only [returns, result, Option.some_inj] at returned
      exact readQueue_mem length left c.outgoingQueue c (returned ▸ result)
    | _ => simp [returns, result] at returned
  | _ => cases returned

theorem sendMessage_status (env : Environment) (skb : Skb) (c : Card) :
    (c.sendMessage env skb).status = c.status := by
  cases sendMessage_sent env skb c with
  | dropped refused told => exact told.status
  | queued d running room told done =>
    rw [done]
    exact told.status

theorem readQueue_status (length left : Nat) (queue : List Skb) (c : Card) :
    (c.readQueue length left queue).1.status = c.status := by
  induction queue generalizing c with
  | nil =>
    rw [readQueue]
    split <;> rfl
  | cons skb queue ih =>
    rw [readQueue]
    split
    · rfl
    · split
      · rfl
      · split
        · exact ih _
        · split <;> rfl

theorem daemon_status (env : Environment) (call : Call) (kind : call.byDaemon = true)
    (used : c.status ≠ .free) : (c.step env call).status ≠ .free := by
  cases call with
  | read length left => exact (readQueue_status length left c.outgoingQueue c) ▸ used
  | write memory buffer cnr => exact (write_told env memory buffer cnr c).status ▸ used
  | ioctl num param user =>
    simp only [step, ioctl]
    split
    · split
      · exact used
      · simp [enter]
    · split
      · exact used
      · split <;> exact used
  | _ => cases kind

/-- Kernelcapi only takes a card out of use by removing its controller. -/
theorem kernelcapi_status_iff (env : Environment) (call : Call) (kind : call.byKernelcapi = true) :
    (c.step env call).status = .free ↔ c.status = .free ∧ call ≠ .removeCtr true := by
  have kept (same : (c.step env call).status = c.status) (other : call ≠ .removeCtr true) :
      (c.step env call).status = .free ↔ c.status = .free ∧ call ≠ .removeCtr true := by
    rw [same]
    exact (and_iff_left other).symm
  cases call with
  | sendMessage skb => exact kept (sendMessage_status env skb c) (by simp)
  | resetCtr => exact kept rfl (by simp)
  | removeCtr alloc =>
    cases alloc with
    | true =>
      refine iff_of_false ?_ fun both => both.2 rfl
      rw [step, removeCtr, if_pos rfl, sendMessage_status]
      simp [enter]
    | false => exact kept rfl (by simp)
  | registerAppl alloc appl rp =>
    refine kept ?_ (by simp)
    simp only [step, registerAppl, registerInternal]
    split
    · rfl
    · split
      · rfl
      · split
        · exact sendMessage_status env _ _
        · rfl
  | releaseAppl alloc appl =>
    refine kept ?_ (by simp)
    simp only [step, releaseAppl, releaseInternal]
    split
    · rfl
    · split
      · exact sendMessage_status env _ _
      · rfl
  | _ => cases kind

end Card
namespace Pool
variable {env : Environment} {l : Layout env} {p : Pool}

/-- A card is free exactly while no open file has it. -/
def Owned (p : Pool) : Prop :=
  ∀ i < capiproxyMaxcontr, (p.cards i).status = .free ↔ i ∉ p.files.map File.privateData

def taken (p : Pool) (i : Nat) : Bool := (p.cards i).status ≠ .free

/-- A call on a card marks an application in the cell that is the status of another. -/
def Overwrites (l : Layout env) (p : Pool) (i j : Nat) (call : Call) : Prop :=
  ∃ appl, l.cellOf i j = some appl ∧ (p.card l i).Marks appl call

/-- Kernelcapi removes the controller of no free card, and no registration and no verdict is written
over the status of one. -/
def Spares (l : Layout env) (p : Pool) : Access → Prop
  | .onFile k call _ => ∀ file, p.files[k]? = some file → file.closing = false →
    ∀ j < capiproxyMaxcontr, p.Overwrites l file.privateData j call → (p.cards j).status ≠ .free
  | .onCard i call _ => (call = .removeCtr true → (p.cards i).status ≠ .free) ∧
    ∀ j < capiproxyMaxcontr, p.Overwrites l i j call → (p.cards j).status ≠ .free
  | _ => True

/-- No two open files have one card, the free cards are those without a file, a card that is opened is
clean, and a file reads what its card took since. -/
structure Reopens (env : Environment) (l : Layout env) (p : Pool) (access : Access) : Prop where
  apart : ((p.step env l access).files.map File.privateData).Nodup
  owned : (p.step env l access).Owned
  clean : ∀ file, access = .openFile → (p.step env l access).files = p.files ++ [file] →
    ((p.step env l access).cards file.privateData).Clean env
  reads : ∀ k call kind file skb, access = .onFile k call kind → p.files[k]? = some file →
    (p.card l file.privateData).returns call = some skb →
      skb ∈ (p.cards file.privateData).journal.accepted.drop file.since

structure Sound (p : Pool) : Prop where
  housed : Housed File.privateData (fun _ => true) false capiproxyMaxcontr p.taken p.files
  owned : p.Owned
  since : ∀ file ∈ p.files, (p.cards file.privateData).Since file.since

theorem findFreeId_eq (p : Pool) : p.findFreeId = firstFree false capiproxyMaxcontr p.taken := by
  simp only [findFreeId, firstFree, taken]
  congr 1
  funext i
  simp

theorem taken_eq_iff {p' : Pool} {i : Nat}
    (same : (p'.cards i).status = .free ↔ (p.cards i).status = .free) : p'.taken i = p.taken i := by
  simp only [taken, same, ne_eq]

theorem taken_update {p' : Pool} {b : Bool} (own : p'.taken i = b)
    (others : ∀ j < capiproxyMaxcontr, j ≠ i →
      ((p'.cards j).status = .free ↔ (p.cards j).status = .free)) (inside : j < capiproxyMaxcontr) :
    p'.taken j = Function.update p.taken i b j := by
  by_cases same : j = i
  · rw [same, Function.update_self]
    exact own
  · rw [Function.update_of_ne same]
    exact taken_eq_iff (others j inside same)

theorem change_self (f : Card → Card) : (p.change l i f).cards i = f (p.card l i) := if_pos rfl

theorem change_other (other : j ≠ i) (f : Card → Card) : (p.change l i f).cards j =
    match l.cellOf i j with
    | some appl => (p.cards j).enter ((f (p.card l i)).applications appl).status
    | none => p.cards j := if_neg other

theorem change_status (other : j ≠ i) (inside : j < capiproxyMaxcontr) (f : Card → Card)
    (kept : ∀ appl, ¬ env.InTable appl →
      (f (p.card l i)).applications appl = (p.card l i).applications appl) :
    ((p.change l i f).cards j).status = (p.cards j).status := by
  rw [change_other other]
  cases found : l.cellOf i j with
  | none => rfl
  | some appl =>
    dsimp only
    rw [kept appl (l.outside found), p.card_cell l inside found]
    exact CardStatus.status_cell _

theorem change_since (j : Nat) (f : Card → Card) (since : (p.cards j).Since n)
    (kept : (p.card l i).Since n → (f (p.card l i)).Since n) : ((p.change l i f).cards j).Since n := by
  by_cases same : j = i
  · subst same
    rw [change_self]
    exact kept ⟨since.earlier, since.queue⟩
  · rw [change_other same]
    cases l.cellOf i j with
    | none => exact since
    | some appl => exact ⟨since.earlier, since.queue⟩

/-- Another card is free after a call exactly when it was and the call did not write over its status. -/
theorem call_free_iff (other : j ≠ i) (inside : j < capiproxyMaxcontr) (call : Call) :
    ((p.call env l i call).cards j).status = .free ↔
      (p.cards j).status = .free ∧ ¬ p.Overwrites l i j call := by
  rw [Pool.call, change_other other]
  cases found : l.cellOf i j with
  | none => exact (and_iff_left fun ⟨_, cell, _⟩ => nomatch found.symm.trans cell).symm
  | some appl =>
    have marks : p.Overwrites l i j call ↔ (p.card l i).Marks appl call := by
      constructor
      · rintro ⟨appl', cell, marks⟩
        cases found.symm.trans cell
        exact marks
      · exact fun marks => ⟨appl, found, marks⟩
    rw [marks]
    refine (Appl.status_eq_free_iff _).trans ?_
    rw [(p.card l i).outside_free_iff env call (l.outside found), p.card_cell l inside found,
      CardStatus.cell_eq_free_iff]

theorem call_since (j : Nat) (call : Call) (since : (p.cards j).Since n) :
    ((p.call env l i call).cards j).Since n :=
  change_since j _ since fun loaded => Card.step_since env loaded call

theorem Sound.used (sound : p.Sound) (member : file ∈ p.files) :
    (p.cards file.privateData).status ≠ .free :=
  of_decide_eq_true (sound.housed.holds file member)

theorem not_overwrites_self (call : Call) : ¬ p.Overwrites l i i call :=
  fun ⟨_, cell, _⟩ => l.cellOf_ne cell rfl

theorem Sound.call (sound : p.Sound) (call : Call)
    (own : ((p.card l i).step env call).status = .free ↔ (p.cards i).status = .free)
    (spares : ∀ j < capiproxyMaxcontr, p.Overwrites l i j call → (p.cards j).status ≠ .free) :
    (p.call env l i call).Sound := by
  have same : ∀ j < capiproxyMaxcontr,
      ((p.call env l i call).cards j).status = .free ↔ (p.cards j).status = .free := by
    intro j inside
    by_cases here : j = i
    · subst here
      rw [Pool.call, change_self]
      exact own
    · rw [call_free_iff here inside]
      exact and_iff_left_of_imp fun free overwrites => spares j inside overwrites free
  constructor
  · exact sound.housed.congr fun j inside => taken_eq_iff (same j inside)
  · intro j inside
    exact (same j inside).trans (sound.owned j inside)
  · intro file member
    exact call_since file.privateData call (sound.since file member)

theorem Sound.spares (sound : p.Sound) (env : Environment) {l : Layout env} (call : Call)
    (owned : (p.call env l i call).Owned) (inside : j < capiproxyMaxcontr)
    (overwrites : p.Overwrites l i j call) : (p.cards j).status ≠ .free := by
  intro free
  have other : j ≠ i := by
    rintro rfl
    exact not_overwrites_self call overwrites
  have still : ((p.call env l i call).cards j).status = .free :=
    (owned j inside).mpr ((sound.owned j inside).mp free)
  exact ((call_free_iff other inside call).mp still).2 overwrites

theorem openCard_clean (env : Environment) (c : Card) (free : c.status = .free) :
    (c.step env .openCard).status = .notReady ∧ (c.step env .openCard).Clean env ∧
    (c.step env .openCard).journal.accepted = c.journal.accepted := by
  have taken : c.step env .openCard =
      (((c.initAppls env).flushQueue).enter .notReady).tell .attachCtr := if_pos free
  rw [taken]
  exact ⟨rfl, ⟨rfl, rfl, fun appl inside => if_pos inside⟩, rfl⟩

theorem opened_sound {id : Nat} (sound : p.Sound) (env : Environment) {l : Layout env}
    (search : p.findFreeId = some id) :
    Sound { p.call env l id .openCard with
      files := p.files ++ [⟨id, (p.cards id).journal.accepted.length, false⟩] } := by
  obtain ⟨inside, free⟩ := firstFree_some search
  obtain ⟨status, clean, accepted⟩ := openCard_clean env (p.card l id) free
  rw [← change_self (p := p) fun c => c.step env .openCard] at status clean accepted
  have others : ∀ j < capiproxyMaxcontr, j ≠ id →
      (((p.call env l id .openCard).cards j).status = .free ↔ (p.cards j).status = .free) := by
    intro j bound other
    rw [call_free_iff other bound]
    exact and_iff_left fun ⟨_, _, marks⟩ => marks
  have housed := sound.housed.enter (p.findFreeId_eq ▸ search)
    ⟨id, (p.cards id).journal.accepted.length, false⟩ rfl nofun
  have taken : (p.call env l id .openCard).taken id = true := decide_eq_true (status ▸ nofun)
  refine ⟨housed.congr fun j bound => taken_update taken others bound, fun j bound => ?_,
    List.forall_mem_append.mpr ⟨?_, ?_⟩⟩
  · rw [List.map_append, List.mem_append, not_or]
    by_cases same : j = id
    · subst same
      exact iff_of_false (status ▸ nofun) fun apart => apart.2 List.mem_cons_self
    · refine (others j bound same).trans ((sound.owned j bound).trans (and_iff_left ?_).symm)
      exact fun last => same (List.mem_singleton.mp last)
  · intro file member
    exact call_since file.privateData .openCard (sound.since file member)
  · intro file last
    rw [List.mem_singleton.mp last]
    refine ⟨Nat.le_of_eq (congrArg List.length accepted).symm, ?_⟩
    exact clean.queue ▸ List.nil_sublist _

theorem openFile_clean (p : Pool) (file : File)
    (more : (p.step env l .openFile).files = p.files ++ [file]) :
    ((p.step env l .openFile).cards file.privateData).Clean env := by
  rw [step, openFile] at more ⊢
  cases search : p.findFreeId with
  | none =>
    rw [search] at more
    simpa using congrArg List.length more
  | some id =>
    rw [search] at more
    obtain rfl := List.singleton_inj.mp (List.append_cancel_left more)
    obtain ⟨-, clean, -⟩ := openCard_clean env (p.card l id) (firstFree_some search).2
    exact (change_self (p := p) (l := l) fun c => c.step env .openCard).symm ▸ clean

theorem closing_sound (sound : p.Sound) (k : Nat) : (p.closing l k).Sound := by
  rw [closing]
  cases found : p.files[k]? with
  | none => exact sound
  | some file =>
    dsimp only
    split
    · exact sound
    · obtain ⟨bound, here⟩ := List.getElem?_eq_some_iff.mp found
      have same : ∀ j < capiproxyMaxcontr,
          ((p.change l file.privateData Card.suspend).cards j).status = (p.cards j).status := by
        intro j inside
        by_cases other : j = file.privateData
        · rw [other, change_self]
          rfl
        · exact change_status other inside _ fun _ _ => rfl
      have housed := sound.housed.replace bound { file with closing := true } (by rw [here]) rfl
      have member : file ∈ p.files := List.mem_of_getElem? found
      have slots := Housed.map_slot_set File.privateData bound { file with closing := true }
        (by rw [here])
      refine ⟨housed.congr fun j inside => ?_, fun j inside => ?_, fun other member' => ?_⟩
      · exact taken_eq_iff (by rw [same j inside])
      · rw [same j inside, sound.owned j inside]
        exact slots ▸ Iff.rfl
      · have since : (p.cards other.privateData).Since other.since := by
          rcases List.mem_or_eq_of_mem_set member' with earlier | rfl
          · exact sound.since other earlier
          · exact sound.since file member
        exact change_since other.privateData _ since fun loaded => ⟨loaded.earlier, List.nil_sublist _⟩

theorem closed_sound (sound : p.Sound) (k : Nat) : (p.closed l k).Sound := by
  rw [closed]
  cases found : p.files[k]? with
  | none => exact sound
  | some file =>
    dsimp only
    split
    · obtain ⟨bound, here⟩ := List.getElem?_eq_some_iff.mp found
      have freed : ((p.change l file.privateData Card.detach).cards file.privateData).status = .free := by
        rw [change_self]
        rfl
      have others : ∀ j < capiproxyMaxcontr, j ≠ file.privateData →
          (((p.change l file.privateData Card.detach).cards j).status = .free ↔
            (p.cards j).status = .free) := by
        intro j inside other
        rw [change_status other inside _ fun _ _ => rfl]
      have housed := sound.housed.leave bound
      rw [here] at housed
      have taken : (p.change l file.privateData Card.detach).taken file.privateData = false :=
        decide_eq_false (not_not.mpr freed)
      refine ⟨housed.congr fun j inside => taken_update taken others inside, fun j inside => ?_,
        fun other member => ?_⟩
      · have whole := (List.getElem_cons_eraseIdx_perm bound).map File.privateData
        rw [here, List.map_cons] at whole
        by_cases same : j = file.privateData
        · have apart := whole.nodup_iff.mpr sound.housed.apart
          rw [same]
          exact iff_of_true freed (List.nodup_cons.mp apart).1
        · rw [(others j inside same).trans (sound.owned j inside), ← whole.mem_iff, List.mem_cons, not_or]
          exact and_iff_right same
      · have member' := (List.eraseIdx_sublist p.files k).subset member
        exact change_since other.privateData _ (sound.since other member') fun loaded =>
          ⟨loaded.earlier, loaded.queue⟩
    · exact sound

theorem step_sound (sound : p.Sound) (access : Access) (spares : p.Spares l access) :
    (p.step env l access).Sound := by
  cases access with
  | openFile =>
    rw [step, openFile]
    cases search : p.findFreeId with
    | none => exact sound
    | some id => exact opened_sound sound env search
  | closing k => exact closing_sound sound k
  | closed k => exact closed_sound sound k
  | onFile k call kind =>
    rw [step, onFile]
    cases found : p.files[k]? with
    | none => exact sound
    | some file =>
      dsimp only
      split
      · exact sound
      · next live =>
        have used := sound.used (List.mem_of_getElem? found)
        have still := Card.daemon_status env call kind (c := p.card l file.privateData) used
        exact sound.call call (iff_of_false still used) (spares file found (Bool.eq_false_iff.mpr live))
  | onCard i call kind =>
    have status := Card.kernelcapi_status_iff env call kind (c := p.card l i)
    have own := status.trans (and_iff_left_of_imp fun free removes => spares.1 removes free)
    exact sound.call call own spares.2

theorem spares_of_owned (sound : p.Sound) (access : Access) (owned : (p.step env l access).Owned) :
    p.Spares l access := by
  cases access with
  | openFile | closing | closed => trivial
  | onFile k call kind =>
    intro file found live j inside
    rw [step, onFile, found] at owned
    dsimp only at owned
    rw [live, if_neg Bool.false_ne_true] at owned
    exact sound.spares env call owned inside
  | onCard i call kind =>
    refine ⟨fun removes free => ?_, fun j inside => sound.spares env call owned inside⟩
    have still : ((p.call env l i call).cards i).status = .free :=
      (owned i i.isLt).mpr ((sound.owned i i.isLt).mp free)
    rw [Pool.call, change_self] at still
    exact ((Card.kernelcapi_status_iff env call kind).mp still).2 removes

theorem reopens_iff (sound : p.Sound) (access : Access) :
    p.Reopens env l access ↔ p.Spares l access := by
  constructor
  · intro reopens
    exact spares_of_owned sound access reopens.owned
  · intro spares
    have after : (p.step env l access).Sound := step_sound sound access spares
    refine ⟨after.housed.apart, after.owned, ?_, ?_⟩
    · rintro file rfl more
      exact openFile_clean p file more
    · rintro k call kind file skb rfl found returned
      have since := sound.since file (List.mem_of_getElem? found)
      exact since.queue.subset (Card.returns_mem (c := p.card l file.privateData) call returned)

theorem init_sound : init.Sound where
  housed := .empty ..
  owned _ _ := iff_of_true rfl nofun
  since := nofun

end Pool

/-- In every history, open files do not share cards, the free cards are those without a file, a daemon
finds its card clean and reads nothing older than its file, exactly when kernelcapi removes the
controller of no free card and no registration and no verdict is written over the status of one. -/
theorem reopened_iff (env : Environment) (l : Layout env) (history : List Access) :
    Throughout (fun before access => (Pool.run env l before).Reopens env l access) history ↔
      Throughout (fun before access => (Pool.run env l before).Spares l access) history := by
  refine throughout_iff_of_invariant (P := fun history => (Pool.run env l history).Sound)
    Pool.init_sound ?_ ?_ history
  · intro before access sound
    exact Pool.reopens_iff sound access
  · intro before access sound spares
    rw [Pool.run_append]
    exact Pool.step_sound sound access spares

/-- A card of a 32-bit kernel with one processor. -/
def Layout.sample : Layout .sample where
  sizeofCard := 452
  applications := 212
  behind := by decide
  inside := by decide

/-- The daemon of the first card confirms application 241. -/
def confirmedBehind : List Access :=
  [.openFile, .onFile 0 (.ioctl ioctlApplRegistered 241 zeros) rfl]

/-- Application 241 is confirmed on the first card: no file has the second card, and it is not free. -/
theorem confirmedBehind_not_reopened :
    ¬ Throughout (fun before access => (Pool.run .sample .sample before).Reopens .sample .sample access)
      confirmedBehind := by
  intro whole
  have owned := ((throughout_iff_getElem _ _).mp whole 1 (by decide)).owned
  have free := (owned 1 (by decide)).mpr (by decide)
  exact absurd free (by decide)

end CapiProxy.LinuxModule
