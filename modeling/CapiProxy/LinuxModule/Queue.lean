import CapiProxy.LinuxModule.Card
import CapiProxy.Traces.Throughout

/-! The outgoing queue of a card. The counter of pending buffers is kept beside the queue by each
operation, and the two never part: the reader finds a buffer whenever it counts one. -/
namespace CapiProxy.LinuxModule
open Bytes Queues

/-- Events that say nothing about an application or the reader. -/
def Event.isPlain : Event → Bool
  | .told (.applRegistered _) | .told (.applReleased _) => false
  | .told _ => true
  | .asked _ | .waiting .. | .nullBuffer => false

namespace Card
variable {c c' : Card} {skb : Skb} {queue : List Skb}

structure Told (c c' : Card) : Prop where
  status : c'.status = c.status
  queue : c'.outgoingQueue = c.outgoingQueue
  pending : c'.skPending = c.skPending
  applications : c'.applications = c.applications
  journal : c'.journal = c.journal
  log : ∃ new, c'.log = c.log ++ new ∧ ∀ e ∈ new, e.isPlain = true

theorem Told.refl (c : Card) : Told c c :=
  ⟨rfl, rfl, rfl, rfl, rfl, [], (List.append_nil _).symm, nofun⟩

theorem tell_told (c : Card) {callback : Callback} (plain : (Event.told callback).isPlain = true) :
    Told c (c.tell callback) :=
  ⟨rfl, rfl, rfl, rfl, rfl, [.told callback], rfl, fun _ member => List.mem_singleton.mp member ▸ plain⟩

theorem Told.trans (first : Told c c') (second : Told c' c'') : Told c c'' := by
  obtain ⟨new, log, plain⟩ := first.log
  obtain ⟨new', log', plain'⟩ := second.log
  refine ⟨second.status.trans first.status, second.queue.trans first.queue,
    second.pending.trans first.pending, second.applications.trans first.applications,
    second.journal.trans first.journal, new ++ new', ?_, ?_⟩
  · rw [log', log, List.append_assoc]
  · exact List.forall_mem_append.mpr ⟨plain, plain'⟩

theorem write_told (env : Environment) (memory : Option Memory) (buffer : Skb) (cnr : UInt32)
    (c : Card) : Told c (c.write env memory buffer cnr).1 := by
  unfold write
  split
  · exact .refl c
  · cases memory with
    | none => exact .refl c
    | some memory =>
      refine Told.trans ?_ (tell_told _ rfl)
      split
      · exact tell_told c rfl
      · exact .refl c

/-- A message is dropped, or put in the queue. -/
inductive Sent (skb : Skb) (c c' : Card) : Prop where
  | dropped (refused : c.status = .free ∨ maxSkPending < c.skPending) (told : Told c c')
  | queued (d : Card) (running : c.status ≠ .free) (room : c.skPending ≤ maxSkPending)
      (told : Told c d) (done : c' = d.skbQueueTail skb)

theorem sendMessage_sent (env : Environment) (skb : Skb) (c : Card) :
    Sent skb c (c.sendMessage env skb) := by
  unfold sendMessage
  split
  · next free => exact .dropped (.inl free) (.refl c)
  · next running =>
    have told : Told c (if env.command skb = env.disconnectB3Resp then
        c.tell (.freeNcci (env.appid skb) (env.ncci skb)) else c) := by
      split
      · exact tell_told c rfl
      · exact .refl c
    dsimp only
    generalize (if env.command skb = env.disconnectB3Resp then _ else c) = d at told ⊢
    split
    · next full => exact .dropped (.inr (told.pending ▸ full)) told
    · next room => exact .queued d running (told.pending ▸ Int.not_lt.mp room) told rfl

/-- A property of cards that all parts of the calls but the reader keep. -/
structure Stable (env : Environment) (P : Card → Prop) : Prop where
  note : ∀ {c}, P c → ∀ e, e ≠ .nullBuffer → P (c.note e)
  enter : ∀ {c}, P c → ∀ status, P (c.enter status)
  table : ∀ {c}, P c → ∀ applications, P { c with applications }
  data : ∀ {c}, P c → ∀ ctrl, P { c with ctrl }
  flushQueue : ∀ {c}, P c → P c.flushQueue
  sendMessage : ∀ {c}, P c → ∀ skb, P (c.sendMessage env skb)

theorem Stable.registerInternal {P : Card → Prop} (stable : Stable env P) (holds : P c)
    (alloc : Bool) (appl : UInt16) (rp : RegisterParams) : P (c.registerInternal env alloc appl rp) := by
  unfold Card.registerInternal
  split
  · exact stable.sendMessage holds _
  · exact holds

theorem Stable.releaseInternal {P : Card → Prop} (stable : Stable env P) (holds : P c)
    (alloc : Bool) (appl : UInt16) : P (c.releaseInternal env alloc appl) := by
  unfold Card.releaseInternal
  split
  · exact stable.sendMessage holds _
  · exact holds

theorem Stable.step {P : Card → Prop} (stable : Stable env P) (holds : P c) (call : Call)
    (other : ∀ length left, call ≠ .read length left) : P (c.step env call) := by
  have told {c : Card} (holds : P c) (callback : Callback) : P (c.tell callback) :=
    stable.note holds (.told callback) (by simp)
  cases call with
  | read length left => exact absurd rfl (other length left)
  | sendMessage skb => exact stable.sendMessage holds skb
  | registerAppl alloc appl rp =>
    have asked := stable.note holds (.asked appl) (by simp)
    simp only [Card.step, registerAppl]
    split
    · exact told asked (.applReleased appl)
    · split
      · exact asked
      · exact stable.note (stable.table (stable.registerInternal asked alloc appl _) _) _ (by simp)
  | releaseAppl alloc appl =>
    simp only [Card.step, releaseAppl]
    split
    · exact told holds (.applReleased appl)
    · exact told (stable.table (stable.releaseInternal holds alloc appl) _) (.applReleased appl)
  | resetCtr => exact told (stable.flushQueue holds) .reseted
  | removeCtr alloc =>
    simp only [Card.step, removeCtr]
    split
    · have flushed := stable.flushQueue (told holds .suspendOutput)
      exact stable.sendMessage (stable.enter flushed .removing) _
    · exact holds
  | openCard =>
    simp only [Card.step, openCard]
    split
    · have cleared := stable.flushQueue (stable.table holds (c.initAppls env).applications)
      exact told (stable.enter cleared .notReady) .attachCtr
    · exact holds
  | release =>
    have flushed := stable.flushQueue (told holds .suspendOutput)
    exact stable.enter (told flushed .detachCtr) .free
  | write memory buffer cnr =>
    simp only [Card.step, write]
    split
    · exact holds
    · cases memory with
      | none => exact holds
      | some memory =>
        refine told ?_ (.handleCapimsg _ _)
        split
        · exact told holds _
        · exact holds
  | ioctl num param user =>
    simp only [Card.step, ioctl]
    split
    · split
      · exact holds
      · next ctrl taken => exact stable.enter (told (stable.data holds ctrl) .ready) .running
    · split
      · exact told (stable.table holds _) (.applReleased param.toUInt16)
      · split
        · exact stable.table (told holds (.applRegistered param.toUInt16)) _
        · exact holds

/-- The counter counts the queue, the queue and what left it make up what was put in, only what is
too short was dropped by the reader, and the reader never found the queue empty. -/
structure Books (c : Card) : Prop where
  pending : c.skPending = c.outgoingQueue.length
  bound : c.skPending ≤ maxSkPending + 1
  accounts : c.journal.Accounts c.outgoingQueue
  short : ∀ skb ∈ c.journal.fated .short, skb.length < 6
  reader : Event.nullBuffer ∉ c.log

theorem init_books : init.Books where
  pending := rfl
  bound := by decide
  accounts := Journal.empty_accounts
  short := nofun
  reader := nofun

theorem Books.note (books : c.Books) (e : Event) (found : e ≠ .nullBuffer) : (c.note e).Books where
  pending := books.pending
  bound := books.bound
  accounts := books.accounts
  short := books.short
  reader := by
    simp only [Card.note, List.mem_append, List.mem_singleton, not_or]
    exact ⟨books.reader, found.symm⟩

theorem Books.enter (books : c.Books) (status : CardStatus) : (c.enter status).Books :=
  ⟨books.pending, books.bound, books.accounts, books.short, books.reader⟩

theorem Books.table (books : c.Books) (applications : UInt16 → Appl) :
    Books { c with applications } :=
  ⟨books.pending, books.bound, books.accounts, books.short, books.reader⟩

theorem Books.data (books : c.Books) (ctrl : CapiCtr) : Books { c with ctrl } :=
  ⟨books.pending, books.bound, books.accounts, books.short, books.reader⟩

theorem Books.told (books : c.Books) (told : Told c c') : c'.Books where
  pending := by rw [told.pending, told.queue, books.pending]
  bound := told.pending ▸ books.bound
  accounts := by rw [told.journal, told.queue]; exact books.accounts
  short := told.journal ▸ books.short
  reader := by
    obtain ⟨new, log, plain⟩ := told.log
    rw [log, List.mem_append, not_or]
    exact ⟨books.reader, fun member => Bool.false_ne_true (plain _ member)⟩

theorem Books.flushQueue (books : c.Books) : c.flushQueue.Books where
  pending := rfl
  bound := (by decide : (0 : Int) ≤ maxSkPending + 1)
  accounts := by
    apply Journal.Accounts.leave
    rw [show c.flushQueue.outgoingQueue = [] from rfl, List.append_nil]
    exact books.accounts
  short := by
    simp only [Card.flushQueue, Journal.fated_leave, reduceCtorEq, if_false, List.append_nil]
    exact books.short
  reader := books.reader

theorem Books.skbQueueTail (books : c.Books) (skb : Skb) (room : c.skPending ≤ maxSkPending) :
    (c.skbQueueTail skb).Books where
  pending := by
    simp only [Card.skbQueueTail, books.pending, List.length_append, List.length_singleton]
    omega
  bound := by simp only [Card.skbQueueTail]; omega
  accounts := books.accounts.accept skb
  short := books.short
  reader := books.reader

theorem Books.skbDequeue (books : c.Books) (head : c.outgoingQueue = skb :: queue) (fate : Fate)
    (dropped : fate = .short → skb.length < 6) : (c.skbDequeue fate skb queue).Books where
  pending := by
    simp only [Card.skbDequeue, books.pending, head, List.length_cons]
    omega
  bound := by
    have bound := books.bound
    simp only [Card.skbDequeue]
    omega
  accounts := by
    apply Journal.Accounts.leave
    have accounts := books.accounts
    rw [head] at accounts
    exact accounts
  short := by
    intro other member
    simp only [Card.skbDequeue, Journal.fated_leave, List.mem_append] at member
    rcases member with earlier | here
    · exact books.short other earlier
    · split at here
      · next same =>
        rw [List.mem_singleton.mp here]
        exact dropped same
      · cases here
  reader := books.reader

theorem Books.sendMessage (books : c.Books) (env : Environment) (skb : Skb) :
    (c.sendMessage env skb).Books := by
  cases sendMessage_sent env skb c with
  | dropped refused told => exact books.told told
  | queued d running room told done =>
    rw [done]
    exact (books.told told).skbQueueTail skb (told.pending ▸ room)

theorem readQueue_books (length left : Nat) (queue : List Skb) (books : c.Books)
    (whole : c.outgoingQueue = queue) : (c.readQueue length left queue).1.Books := by
  induction queue generalizing c with
  | nil =>
    have empty : c.skPending = 0 := by rw [books.pending, whole]; rfl
    rw [readQueue, if_pos empty]
    exact books
  | cons skb queue ih =>
    rw [readQueue]
    split
    · exact books
    · split
      · exact books
      · split
        · next short => exact ih (books.skbDequeue whole .short fun _ => short) rfl
        · split
          · exact books
          · exact books.skbDequeue whole .read nofun

theorem books_stable (env : Environment) : Stable env Books where
  note books := books.note
  enter books := books.enter
  table books := books.table
  data books := books.data
  flushQueue books := books.flushQueue
  sendMessage books := books.sendMessage env

theorem step_books (env : Environment) (books : c.Books) (call : Call) : (c.step env call).Books := by
  cases call with
  | read length left => exact readQueue_books length left c.outgoingQueue books rfl
  | _ => exact (books_stable env).step books _ (by simp)

theorem run_books (env : Environment) (calls : List Call) : (run env calls).Books := by
  induction calls using List.reverseRecOn with
  | nil => exact init_books
  | append_singleton calls call ih =>
    rw [run_append]
    exact step_books env ih call

def returns (c : Card) : Call → Option Skb
  | .read length left =>
    match (c.read length left).2 with
    | .copied skb => some skb
    | _ => none
  | _ => none

/-- The messages that the reads of a run return. -/
def deliveries (env : Environment) (c : Card) : List Call → List Skb
  | [] => []
  | call :: later => (c.returns call).toList ++ deliveries env (c.step env call) later

theorem sendMessage_reads (env : Environment) (skb : Skb) (c : Card) :
    (c.sendMessage env skb).journal.fated .read = c.journal.fated .read := by
  cases sendMessage_sent env skb c with
  | dropped refused told => rw [told.journal]
  | queued d running room told done =>
    rw [done, ← told.journal]
    rfl

theorem flushQueue_reads (c : Card) : c.flushQueue.journal.fated .read = c.journal.fated .read := by
  rw [flushQueue, Journal.fated_leave, if_neg (by decide), List.append_nil]

theorem readQueue_reads (length left : Nat) (queue : List Skb) (c : Card) :
    (c.readQueue length left queue).1.journal.fated .read = c.journal.fated .read ++
      match (c.readQueue length left queue).2 with
      | .copied skb => [skb]
      | _ => [] := by
  induction queue generalizing c with
  | nil =>
    rw [readQueue]
    split <;> exact (List.append_nil _).symm
  | cons skb queue ih =>
    rw [readQueue]
    split
    · exact (List.append_nil _).symm
    · split
      · exact (List.append_nil _).symm
      · split
        · rw [ih, skbDequeue, Journal.fated_leave, if_neg (by decide), List.append_nil]
        · split
          · exact (List.append_nil _).symm
          · rw [skbDequeue, Journal.fated_leave, if_pos rfl]

theorem reads_stable (env : Environment) (reads : List Skb) :
    Stable env fun c => c.journal.fated .read = reads where
  note same _ _ := same
  enter same _ := same
  table same _ := same
  data same _ := same
  flushQueue same := (flushQueue_reads _).trans same
  sendMessage same skb := (sendMessage_reads env skb _).trans same

theorem step_reads (env : Environment) (c : Card) (call : Call) :
    (c.step env call).journal.fated .read = c.journal.fated .read ++ (c.returns call).toList := by
  cases call with
  | read length left =>
    simp only [step, returns, read, readQueue_reads]
    cases (c.readQueue length left c.outgoingQueue).2 <;> rfl
  | _ =>
    refine Eq.trans ?_ (List.append_nil _).symm
    exact (reads_stable env (c.journal.fated .read)).step rfl _ (by simp)

theorem deliveries_reads (env : Environment) (c : Card) (calls : List Call) :
    c.journal.fated .read ++ deliveries env c calls = (calls.foldl (step env) c).journal.fated .read := by
  induction calls generalizing c with
  | nil => exact List.append_nil _
  | cons call later ih => rw [deliveries, ← List.append_assoc, ← step_reads, ih, List.foldl_cons]

/-- Only short messages were taken off the head of the queue. -/
def DropsShort (c c' : Card) : Prop :=
  ∃ dropped, (∀ skb ∈ dropped, List.length skb < 6) ∧
    c.outgoingQueue = dropped ++ c'.outgoingQueue ∧ c'.skPending = c.skPending - dropped.length

theorem DropsShort.refl (c : Card) : DropsShort c c :=
  ⟨[], nofun, rfl, (Int.sub_zero _).symm⟩

theorem readQueue_drops (length left : Nat) (queue : List Skb) (c : Card)
    (whole : c.outgoingQueue = queue)
    (fails : ∀ skb, (c.readQueue length left queue).2 ≠ .copied skb) :
    DropsShort c (c.readQueue length left queue).1 := by
  induction queue generalizing c with
  | nil =>
    rw [readQueue]
    split <;> exact .refl c
  | cons skb queue ih =>
    rw [readQueue] at fails ⊢
    split
    · exact .refl c
    · next pending =>
      rw [if_neg pending] at fails
      split
      · exact .refl c
      · next fits =>
        rw [if_neg fits] at fails
        split
        · next short =>
          rw [if_pos short] at fails
          obtain ⟨dropped, all, rest, count⟩ := ih (c.skbDequeue .short skb queue) rfl fails
          refine ⟨skb :: dropped, List.forall_mem_cons.mpr ⟨short, all⟩, ?_, ?_⟩
          · rw [whole, List.cons_append, ← rest]
            rfl
          · rw [count, List.length_cons]
            simp only [skbDequeue]
            omega
        · next long =>
          rw [if_neg long] at fails
          split
          · exact .refl c
          · next copied =>
            rw [if_neg copied] at fails
            exact absurd rfl (fails skb)

/-- Every sequence of calls keeps the books of the queue, returns what was read in the order it
was put in, and a read that returns no message takes only short ones off the queue. -/
theorem outgoing_queue (env : Environment) (calls : List Call) :
    (run env calls).Books ∧ 0 ≤ (run env calls).skPending ∧
    deliveries env init calls = (run env calls).journal.fated .read ∧
    (deliveries env init calls).Sublist (run env calls).journal.accepted ∧
    ∀ length left, (∀ skb, ((run env calls).read length left).2 ≠ .copied skb) →
      DropsShort (run env calls) ((run env calls).read length left).1 := by
  have books := run_books env calls
  have reads : deliveries env init calls = (run env calls).journal.fated .read :=
    deliveries_reads env init calls
  refine ⟨books, ?_, reads, reads ▸ books.accounts.fated_sublist .read, ?_⟩
  · rw [books.pending]
    exact Int.natCast_nonneg _
  · intro length left fails
    exact readQueue_drops length left _ (run env calls) rfl fails

end Card

def Environment.sample : Environment where
  capiMaxappl := 240
  capiMaxdatawindow := 8
  u8 skb i := skb.getD i 0
  u16 skb i := .ofNat (number ((skb.drop i).take 2))
  u32 skb i := .ofNat (number ((skb.drop i).take 4))
  disconnectB3Resp := 0x8483
  connectB3Conf := 0x8281
  connectB3Ind := 0x8282

/-- A message of three bytes before one of ten. -/
def shortBeforeLong : List Call :=
  [.openCard, .sendMessage [3, 0, 1], .sendMessage [10, 0, 1, 0, 0x86, 0x80, 1, 0, 0, 0]]

/-- A read into a buffer of six bytes fails, and the short message is gone. -/
theorem shortBeforeLong_dropped :
    ((Card.run .sample shortBeforeLong).read 6 0).2 = .emsgsize ∧
    ((Card.run .sample shortBeforeLong).read 6 0).1.outgoingQueue ≠
      (Card.run .sample shortBeforeLong).outgoingQueue := by
  decide

end CapiProxy.LinuxModule
