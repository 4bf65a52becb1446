import CapiProxy.LinuxModule.Counter

/-! A call that no other call disturbs does step by step what it does in one piece. So what a flush has left of
the counter decides what a later read finds. -/
namespace CapiProxy.LinuxModule
open Pools Traces

namespace Place
variable {env : Environment} {i : Nat} {c : Card}

/-- The steps of one thread. -/
def Leads (env : Environment) (i : Nat) : Card × Option Nat × Place → Card × Option Nat × Place → Prop :=
  Relation.ReflTransGen fun here there => here.2.2.step env i here.1 here.2.1 = some there

def ended : ReadResult → Place
  | .oops => .oops 0
  | result => .going (.finished (some result))

theorem Leads.step {c' : Card} {holder holder' : Option Nat} {p p' : Place}
    (first : p.step env i c holder = some (c', holder', p'))
    (later : Leads env i (c', holder', p') there) : Leads env i (c, holder, p) there :=
  .head first later

theorem tell_leads (callback : Callback) (next : Routine)
    (later : Leads env i (c.tell callback, none, .going next) there) :
    Leads env i (c, none, .going (.tell callback next)) there := .step rfl later

theorem enter_leads (status : CardStatus) (next : Routine)
    (later : Leads env i (c.enter status, none, .going next) there) :
    Leads env i (c, none, .going (.enter status next)) there := .step rfl later

theorem settle_leads (removal : Removal) (next : Routine)
    (later : Leads env i (c.count (removal.apply c.skPending), none, .going next) there) :
    Leads env i (c, none, .settling removal next) there :=
  .step rfl (.step rfl (.step rfl (.step rfl later)))

theorem send_leads (skb : Skb) (next : Routine)
    (later : Leads env i (c.sendMessage env skb, none, .going next) there) :
    Leads env i (c, none, .going (.send skb next)) there := by
  unfold Card.sendMessage at later
  by_cases free : c.status = .free
  · rw [if_pos free] at later
    exact .step (by rw [step, if_pos free]) later
  · rw [if_neg free] at later
    refine .step (by rw [step, if_neg free]) ?_
    dsimp only at later
    generalize (if env.command skb = env.disconnectB3Resp then _ else c) = d at later ⊢
    by_cases full : d.skPending > maxSkPending
    · rw [if_pos full] at later
      exact .step (by rw [step, if_pos full]) later
    · rw [if_neg full] at later
      exact .step (by rw [step, if_neg full]) (.step rfl (.step rfl (.step rfl (.step rfl (.step rfl later)))))

theorem discard_leads (head : c.outgoingQueue = skb :: queue)
    (later : Leads env i ((c.withQueue queue).leave .flushed skb, holder, .looping (taken + 1) next) there) :
    Leads env i (c, holder, .flushing taken next) there := .step (by simp only [step, head]) later

theorem take_leads (head : c.outgoingQueue = skb :: queue)
    (later : Leads env i (c.withQueue queue, holder, .holding length left skb) there) :
    Leads env i (c, holder, .dequeuing length left) there := .step (by simp only [step, head]) later

theorem loop_leads (queue : List Skb) (head : c.outgoingQueue = queue) (taken : Nat) (next : Routine)
    (later : Leads env i (c.flushQueue, none, .going next) there) :
    Leads env i (c, none, .looping taken next) there := by
  induction queue generalizing c taken with
  | nil =>
    refine .step (by rw [step, head, if_neg (by simp)]) (settle_leads _ next ?_)
    have same : c.count 0 = c.flushQueue := by simp [Card.count, Card.flushQueue, head, Queues.Journal.leave]
    exact same ▸ later
  | cons skb queue ih =>
    refine .step (by rw [step, head, if_pos (by simp)]) (discard_leads head (ih rfl (taken + 1) ?_))
    have same : ((c.withQueue queue).leave .flushed skb).flushQueue = c.flushQueue := by
      simp [Card.withQueue, Card.leave, Card.flushQueue, head, Queues.Journal.leave]
    exact same ▸ later

theorem flush_leads (next : Routine) (later : Leads env i (c.flushQueue, none, .going next) there) :
    Leads env i (c, none, .going (.flush next)) there :=
  .step rfl (loop_leads _ rfl 0 next later)

theorem read_leads (length left : Nat) (queue : List Skb) (head : c.outgoingQueue = queue) :
    Leads env i (c, none, .going (.read length left))
      ((c.readQueue length left queue).1, none, ended (c.readQueue length left queue).2) := by
  induction queue generalizing c with
  | nil =>
    rw [Card.readQueue]
    by_cases none : c.skPending = 0
    · rw [if_pos none]
      exact .step (by rw [step, if_pos none]; rfl) .refl
    · rw [if_neg none]
      exact .step (by rw [step, if_neg none]) (.step (by simp only [step, head]; rfl) .refl)
  | cons skb queue ih =>
    rw [Card.readQueue]
    by_cases none : c.skPending = 0
    · rw [if_pos none]
      exact .step (by rw [step, if_pos none]; rfl) .refl
    rw [if_neg none]
    have back : (c.withQueue queue).withQueue (skb :: queue) = c := by simp [Card.withQueue, ← head]
    refine .step (by rw [step, if_neg none]) (take_leads head ?_)
    by_cases long : skb.length > length
    · rw [if_pos long]
      exact .step (by rw [step, if_pos long]; exact congrArg _ (congrArg (·, _) back)) .refl
    rw [if_neg long]
    by_cases short : skb.length < 6
    · rw [if_pos short]
      exact .step (by rw [step, if_neg long, if_pos short]) (settle_leads _ _ (ih rfl))
    rw [if_neg short]
    by_cases some : left ≠ 0
    · rw [if_pos some]
      exact .step (by rw [step, if_neg long, if_neg short, if_pos some]; exact congrArg _ (congrArg (·, _) back))
        .refl
    · rw [if_neg some]
      refine .step (by rw [step, if_neg long, if_neg short, if_neg some]) (settle_leads _ _ ?_)
      exact .refl

/-- What a routine without threads beside it makes of the card. -/
theorem call_leads {call : Call} {routine : Routine} (is : call.routine = some routine) :
    ∃ result, Leads env i (c, none, .going routine) (c.step env call, none, result) ∧
      ∀ length left, call = .read length left → result = ended (c.read length left).2 := by
  cases call with
  | sendMessage skb =>
    cases is
    exact ⟨_, send_leads skb _ .refl, nofun⟩
  | resetCtr =>
    cases is
    exact ⟨_, flush_leads _ (tell_leads .reseted _ .refl), nofun⟩
  | removeCtr alloc =>
    cases alloc with
    | false => cases is; exact ⟨_, .refl, nofun⟩
    | true =>
      cases is
      exact ⟨_, tell_leads .suspendOutput _ (flush_leads _ (enter_leads .removing _ (send_leads _ _ .refl))),
        nofun⟩
  | release =>
    cases is
    exact ⟨_, tell_leads .suspendOutput _ (flush_leads _ (tell_leads .detachCtr _ (enter_leads .free _ .refl))), nofun⟩
  | read length left =>
    cases is
    refine ⟨_, read_leads length left c.outgoingQueue rfl, fun length' left' same => ?_⟩
    cases same
    rfl
  | _ => cases is

end Place

namespace Parallel
variable {env : Environment} {s s' : Parallel}

def only (i : Nat) (_ : Parallel) : Move → Bool
  | .turn j => i == j
  | .call _ => false

theorem leads_runs {here there : Card × Option Nat × Place} (leads : Place.Leads env i here there)
    {threads : List Place} (inBounds : i < threads.length) (m : Int) :
    ∃ m', Runs (step env) (only i) ⟨here.1, here.2.1, threads.set i here.2.2, m⟩
      ⟨there.1, there.2.1, threads.set i there.2.2, m'⟩ := by
  induction leads with
  | refl => exact ⟨m, .refl⟩
  | @tail mid there _ last ih =>
    obtain ⟨m', runs⟩ := ih
    obtain ⟨m'', eq, -⟩ :=
      moved_eq ⟨mid.1, mid.2.1, threads.set i mid.2.2, m'⟩ i mid.2.2 there.1 there.2.1 there.2.2
    refine ⟨m'', runs.tail ⟨.turn i, ?_⟩⟩
    have here : (threads.set i mid.2.2)[i]? = some mid.2.2 := List.getElem?_set_self inBounds
    simp only [permitted, only, beq_self_eq_true, if_true, step, here, last, Option.map_some, eq, List.set_set]

/-- A buffer that the reader drops on its way. -/
def Dropped (length : Nat) (skb : Skb) : Prop := skb.length ≤ length ∧ skb.length < 6

/-- A read whose counter is `m` too low passes over short messages only, until it counts none or finds none. -/
theorem readQueue_misses (m length left : Nat) (queue : List Skb) (c : Card)
    (pending : c.skPending = queue.length - m) :
    ((c.readQueue length left queue).2 = .oops ↔ queue.length < m ∧ ∀ skb ∈ queue, Dropped length skb) ∧
    ((c.readQueue length left queue).2 = .eagain ↔
      m ≤ queue.length ∧ ∀ skb ∈ queue.take (queue.length - m), Dropped length skb) := by
  induction queue generalizing c with
  | nil =>
    rw [Card.readQueue]
    simp only [List.length_nil] at pending
    split
    · next none =>
      have : m = 0 := by omega
      simp [this]
    · next some =>
      have : m ≠ 0 := by omega
      simp; omega
  | cons skb queue ih =>
    rw [Card.readQueue]
    simp only [List.length_cons] at pending ⊢
    split
    · next none =>
      have : m = queue.length + 1 := by omega
      simp [this]
    · next some =>
      -- the first message is among those that the reader must pass over
      have first : (m ≤ queue.length + 1 ∧ ∀ b ∈ (skb :: queue).take (queue.length + 1 - m), Dropped length b) ↔
          m ≤ queue.length ∧ Dropped length skb ∧ ∀ b ∈ queue.take (queue.length - m), Dropped length b := by
        constructor
        · rintro ⟨bound, all⟩
          have below : m ≤ queue.length := by omega
          rw [Nat.succ_sub below, List.take_succ_cons, List.forall_mem_cons] at all
          exact ⟨below, all⟩
        · rintro ⟨below, all⟩
          rw [Nat.succ_sub below, List.take_succ_cons, List.forall_mem_cons]
          exact ⟨Nat.le_succ_of_le below, all⟩
      rw [first, List.forall_mem_cons]
      have stops (kept : ¬ Dropped length skb) (result : ReadResult) (ne : result ≠ .oops)
          (ne' : result ≠ .eagain) :
          (result = .oops ↔ queue.length + 1 < m ∧ Dropped length skb ∧ ∀ b ∈ queue, Dropped length b) ∧
          (result = .eagain ↔ m ≤ queue.length ∧ Dropped length skb ∧
            ∀ b ∈ queue.take (queue.length - m), Dropped length b) :=
        ⟨iff_of_false ne fun all => kept all.2.1, iff_of_false ne' fun all => kept all.2.1⟩
      split
      · next long => exact stops (fun dropped => Nat.not_lt.mpr dropped.1 long) _ (by simp) (by simp)
      · next fits =>
        split
        · next short =>
          have dropped : Dropped length skb := ⟨Nat.not_lt.mp fits, short⟩
          have rest := ih (c.skbDequeue .short skb queue) (by simp only [Card.skbDequeue]; omega)
          rw [rest.1, rest.2]
          refine ⟨?_, by simp only [dropped, true_and]⟩
          simp only [dropped, true_and]
          exact and_congr_left fun _ => by omega
        · next whole =>
          have kept : ¬ Dropped length skb := fun dropped => whole dropped.2
          split
          · exact stops kept _ (by simp) (by simp)
          · exact stops kept _ (by simp) (by simp)

/-- When no call is under way, the next one does what it does in one piece. If it is a read, it takes a buffer
from an empty queue if and only if less is queued than the counter has missed and the reader would drop all of
it; and it waits for more if and only if it would drop whatever is queued beyond as many buffers as were
missed. -/
theorem later_call (env : Environment) (calls : List Call)
    (runs : Runs (step env) any (start (Card.run env calls)) s)
    (quiet : s.Quiet) :
    (∀ call s', s.step env (.call call) = some s' → ∃ result m, Runs (step env) (only s.threads.length) s'
        ⟨s.card.step env call, none, s.threads ++ [result], m⟩ ∧
      ∀ length left, call = .read length left → result = Place.ended (s.card.read length left).2) ∧
    ∀ length left,
      ((s.card.read length left).2 = .oops ↔
        s.card.outgoingQueue.length < s.missed ∧ ∀ skb ∈ s.card.outgoingQueue, Dropped length skb) ∧
      ((s.card.read length left).2 = .eagain ↔ s.missed ≤ s.card.outgoingQueue.length ∧
        ∀ skb ∈ s.card.outgoingQueue.take (s.card.outgoingQueue.length - s.missed.toNat),
          Dropped length skb) := by
  have counted := (start_counted (Card.run_books env calls)).run runs
  constructor
  · intro call s' made
    obtain ⟨routine, is, rfl⟩ := Option.map_eq_some_iff.mp made
    have free : s.holder = none := by
      refine Option.eq_none_iff_forall_ne_some.mpr fun i held => ?_
      have here := List.getElem?_eq_getElem (counted.holds i held)
      obtain ⟨result, same⟩ := quiet _ (List.getElem_mem (counted.holds i held))
      have inner := (counted.guards i _ here).mpr held
      rw [same] at inner
      cases inner
    obtain ⟨result, leads, reads⟩ := @Place.call_leads env s.threads.length s.card _ _ is
    have last : s.threads.length < (s.threads ++ [Place.going routine]).length := by simp
    obtain ⟨m, runs⟩ := leads_runs leads last s.missed
    refine ⟨result, m, ?_, reads⟩
    simpa [free] using runs
  · intro length left
    obtain ⟨m, missed⟩ := Int.eq_ofNat_of_zero_le counted.missed
    have nothing := quiet.weigh
    have balance := counted.balance
    rw [contents, nothing, missed] at balance
    rw [missed, Int.toNat_natCast]
    obtain ⟨oops, eagain⟩ := readQueue_misses m length left s.card.outgoingQueue s.card (by omega)
    exact ⟨oops.trans (and_congr_left fun _ => by omega), eagain.trans (and_congr_left fun _ => by omega)⟩

/-- After a reset during a read, the next read takes a buffer from an empty queue. -/
theorem resetDuringRead_later : ∃ s : Parallel, (s.card.read 100 0).2 = .oops ∧
    (∀ call s', s.step .sample (.call call) = some s' → ∃ result m, Runs (step .sample) (only s.threads.length) s'
        ⟨s.card.step .sample call, none, s.threads ++ [result], m⟩ ∧
      ∀ length left, call = .read length left → result = Place.ended (s.card.read length left).2) := by
  have ends : (resetDuringRead.foldlM (permitted (step .sample) any) (start (Card.run .sample [.openCard]))).map
      (fun s => (s.card.outgoingQueue, s.missed, s.threads)) =
        some ([], 1, [.going (.finished none), .going (.finished (some (.copied tenBytes))),
          .going (.finished none)]) := by
    decide +kernel
  obtain ⟨s, made, same⟩ := Option.map_eq_some_iff.mp ends
  obtain ⟨empty, same⟩ := Prod.mk.inj same
  obtain ⟨missed, threads⟩ := Prod.mk.inj same
  have quiet : s.Quiet := by
    rw [Quiet, threads]
    simp
  obtain ⟨alone, reads⟩ := later_call .sample [.openCard] (runs_of_moves made) quiet
  refine ⟨s, (reads 100 0).1.mpr ?_, alone⟩
  rw [empty, missed]
  exact ⟨by decide, nofun⟩

end Parallel
end CapiProxy.LinuxModule
