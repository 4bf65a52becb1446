import CapiProxy.LinuxModule.Counter

/-! One consumer at a time: a read or a flush, and any number of senders beside it. If besides the counter is
set to 0 only while nothing is queued, it misses nothing, and nobody takes a buffer from an empty queue. -/
namespace CapiProxy.LinuxModule
open Pools Traces Queues

/-- The thread still has to read or to flush. -/
def Routine.consumes : Routine → Bool
  | .finished _ => false
  | .tell _ next | .enter _ next | .send _ next => next.consumes
  | .flush _ | .read .. => true

namespace Place
variable {i : Nat} {c c' : Card} {holder holder' : Option Nat} {p p' : Place}

/-- In a read or in a flush, or on the way to one. -/
def consumes : Place → Bool
  | .going next | .testing _ next | .locking _ next | .queueing _ next | .counting next | .counted _ next
  | .unlocking next => next.consumes
  | .oops _ => false
  | .looping .. | .flushing .. | .dequeuing .. | .holding .. | .settling .. | .removing .. | .removed .. => true

def hand : Place → List Skb
  | .holding _ _ skb => [skb]
  | _ => []

/-- The thread finds a buffer when it takes one. -/
def Finds (queue : List Skb) : Place → Prop
  | .dequeuing .. | .flushing .. => queue ≠ []
  | .oops _ => False
  | _ => True

theorem Turn.consumes (turn : Turn i c holder p c' holder' p') : p'.consumes → p.consumes := by
  cases turn with
  | waits | crashes | overruns | returns => nofun
  | starts | reads | continues | ends | flushes | takes | discards | copies | settles | loads | stores =>
      exact fun _ => rfl
  | _ => exact id

theorem hand_nil (other : ¬ p.consumes) : p.hand = [] := by
  cases p with
  | holding => exact absurd rfl other
  | _ => rfl

theorem weight_nonpos (other : ¬ p.consumes) (found : p.Finds queue) : p.weight ≤ 0 := by
  cases p with
  | looping | flushing | holding | settling | removing | removed => exact absurd rfl other
  | oops => exact found.elim
  | counting | counted => exact (by decide : (-1 : Int) ≤ 0)
  | _ => exact Int.le_refl 0

theorem Turn.appends (turn : Turn i c holder p c' holder' p') (other : ¬ p.consumes) :
    ∃ new, c'.outgoingQueue = c.outgoingQueue ++ new := by
  cases turn with
  | sends told => exact ⟨[], told.queue.trans (List.append_nil _).symm⟩
  | queues => exact ⟨_, rfl⟩
  | flushes | takes | returns => exact absurd rfl other
  | _ => exact ⟨[], (List.append_nil _).symm⟩

/-- The books, with what the thread has in its hands and what a reader beside it has in its own. -/
theorem Turn.accounts (turn : Turn i c holder p c' holder' p') (others : List Skb)
    (apart : p.consumes → others = [])
    (accounts : c.journal.Accounts (others ++ (p.hand ++ c.outgoingQueue))) :
    c'.journal.Accounts (others ++ (p'.hand ++ c'.outgoingQueue)) := by
  cases turn with
  | sends told => rw [told.journal, told.queue]; exact accounts
  | queues =>
    have accounts : c.journal.Accounts (others ++ c.outgoingQueue) := accounts
    have more := fun skb => List.append_assoc .. ▸ accounts.accept skb
    exact more _
  | flushes head =>
    obtain rfl := apart rfl
    have accounts : c.journal.Accounts c.outgoingQueue := accounts
    rw [head] at accounts
    exact (show c.journal.Accounts ([_] ++ _) from accounts).leave .flushed
  | takes head =>
    have accounts : c.journal.Accounts (others ++ c.outgoingQueue) := accounts
    rw [head] at accounts
    exact accounts
  | discards =>
    obtain rfl := apart rfl
    exact (show c.journal.Accounts ([_] ++ _) from accounts).leave .short
  | copies =>
    obtain rfl := apart rfl
    exact (show c.journal.Accounts ([_] ++ _) from accounts).leave .read
  | _ => exact accounts

theorem Finds.other {queue' : List Skb} (found : p.Finds queue) (other : ¬ p.consumes) : p.Finds queue' := by
  cases p with
  | dequeuing | flushing => exact absurd rfl other
  | oops => exact found.elim
  | _ => trivial

theorem Finds.append (found : p.Finds queue) (new : List Skb) : p.Finds (queue ++ new) := by
  cases p with
  | dequeuing | flushing => exact List.append_ne_nil_of_left_ne_nil found new
  | oops => exact found.elim
  | _ => trivial

end Place

namespace Parallel
variable {env : Environment} {s s' : Parallel}

/-- A read or a flush begins when no other is under way, and the counter is set to 0 when nothing is queued. -/
def oneConsumer (s : Parallel) : Move → Bool
  | .call call => call.routine.all fun routine => !routine.consumes || s.threads.all fun p => !p.consumes
  | .turn i => s.threads[i]?.all fun p => !p.clears || s.card.outgoingQueue.isEmpty

def inHand (s : Parallel) : List Skb := s.threads.flatMap Place.hand

structure Served (s : Parallel) : Prop where
  counted : s.Counted
  sole : Sole Place.consumes s.threads
  right : s.missed = 0
  pending : 0 ≤ s.card.skPending
  finds : ∀ p ∈ s.threads, p.Finds s.card.outgoingQueue
  accounts : s.card.journal.Accounts (s.inHand ++ s.card.outgoingQueue)

theorem start_served (books : c.Books) : (start c).Served where
  counted := start_counted books
  sole := sole_nil
  right := rfl
  pending := by
    rw [show (start c).card.skPending = _ from books.pending]
    exact Int.natCast_nonneg _
  finds := nofun
  accounts := books.accounts

theorem Served.light (served : s.Served) (here : s.threads[i]? = some p) (consumes : p.consumes)
    (light : p'.weight ≤ 0) : weigh Place.weight (s.threads.set i p') ≤ 0 := by
  refine weigh_nonpos fun q member => ?_
  obtain ⟨j, there⟩ := List.mem_iff_getElem?.mp member
  rcases get_set here there with ⟨-, rfl⟩ | ⟨apart, old⟩
  · exact light
  · refine Place.weight_nonpos (fun consumes' => apart ?_) (served.finds q (List.mem_of_getElem? old))
    exact served.sole _ _ _ _ old here consumes' consumes

theorem Served.call {call : Call} (served : s.Served) (may : s.oneConsumer (.call call))
    (made : s.step env (.call call) = some s') : s'.Served := by
  have counted := served.counted.call made
  obtain ⟨routine, is, rfl⟩ := Option.map_eq_some_iff.mp made
  have alone : routine.consumes → ∀ p ∈ s.threads, ¬ p.consumes := by
    simpa [oneConsumer, is, Decidable.imp_iff_not_or] using may
  refine ⟨counted, served.sole.append _ alone, served.right, served.pending, fun p member => ?_, ?_⟩
  · rcases List.mem_append.mp member with old | new
    · exact served.finds p old
    · rw [List.mem_singleton.mp new]
      trivial
  · have same : (s.threads ++ [Place.going routine]).flatMap Place.hand = s.inHand := by
      rw [List.flatMap_append, List.flatMap_singleton]
      exact List.append_nil _
    simp only [inHand, same]
    exact served.accounts

section turn
variable {p p' : Place} {c' : Card} {holder' : Option Nat}

theorem Served.turn_pending (served : s.Served) (here : s.threads[i]? = some p)
    (turn : Place.Turn i s.card s.holder p c' holder' p') : 0 ≤ c'.skPending := by
  have before := served.pending
  have stores := served.counted.stores i p here
  cases turn with
  | sends told => rw [told.pending]; exact before
  | adds =>
    simp only [Place.Stores] at stores
    simp only [Card.count]
    omega
  | @stores removal value next =>
    cases removal with
    | all =>
      have zero : value = 0 := stores
      simp [Card.count, zero]
    | one =>
      simp only [Place.Stores, Removal.apply] at stores
      have balance := served.counted.balance
      rw [served.right, contents] at balance
      have others := served.counted.others here rfl (Int.le_refl (Place.weight (.unlocking next)))
      rw [weigh_set here] at others
      simp only [Place.weight, Removal.weight] at others
      simp only [Card.count]
      omega
  | _ => exact before

theorem Served.turn_finds (served : s.Served) (here : s.threads[i]? = some p)
    (turn : Place.Turn i s.card s.holder p c' holder' p') : p'.Finds c'.outgoingQueue := by
  have found := served.finds p (List.mem_of_getElem? here)
  cases turn with
  | @reads length left some =>
    intro empty
    have balance := served.counted.balance
    rw [served.right, contents, empty] at balance
    have light := served.light here rfl (Int.le_refl (Place.weight (.dequeuing length left)))
    rw [weigh_set here] at light
    simp only [Place.weight, List.length_nil] at light balance
    have before := served.pending
    omega
  | continues some => exact some
  | overruns none | crashes none => exact found none
  | _ => trivial

theorem Served.turn (served : s.Served) (may : s.oneConsumer (.turn i))
    (made : s.step env (.turn i) = some s') :
    s'.Served := by
  have counted := served.counted.turn made
  obtain ⟨p, c', holder', p', here, turn, rfl⟩ := step_turned made
  have cleared : p.clears → s.card.outgoingQueue = [] := by
    simpa [oneConsumer, here, Decidable.imp_iff_not_or] using may
  obtain ⟨missed, eq, missed_eq⟩ := moved_eq s i p c' holder' p'
  rw [eq] at counted ⊢
  have right : missed = 0 := by
    by_cases clears : p.clears
    · rw [if_pos clears] at missed_eq
      have empty := cleared clears
      cases turn with
      | @stores removal value next =>
        have heavy := served.counted.others here rfl (Int.le_refl (Place.weight (.unlocking next)))
        have light := served.light here rfl (Int.le_refl (Place.weight (.unlocking next)))
        rw [missed_eq]
        simp only [contents, Card.count, empty, List.length_nil]
        omega
      | _ => cases clears
    · rw [missed_eq, if_neg clears, served.right]
  have finds : ∀ q ∈ s.threads.set i p', q.Finds c'.outgoingQueue := by
    intro q member
    obtain ⟨j, there⟩ := List.mem_iff_getElem?.mp member
    rcases get_set here there with ⟨-, rfl⟩ | ⟨apart, old⟩
    · exact served.turn_finds here turn
    · have found := served.finds q (List.mem_of_getElem? old)
      by_cases consumes : p.consumes
      · exact found.other fun consumes' => apart (served.sole _ _ _ _ old here consumes' consumes)
      · obtain ⟨new, same⟩ := turn.appends consumes
        exact same ▸ found.append new
  refine ⟨counted, served.sole.set here turn.consumes, right, served.turn_pending here turn, finds, ?_⟩
  have accounts := served.accounts
  rw [inHand] at accounts ⊢
  by_cases consumes : p.consumes
  · have others : ∀ (j : Nat) (q : Place), j ≠ i → s.threads[j]? = some q → q.hand = [] :=
      fun j q apart there =>
      Place.hand_nil fun consumes' => apart (served.sole _ _ _ _ there here consumes' consumes)
    rw [flatMap_one here others] at accounts
    rw [flatMap_one (get_set_self here) fun j q apart there =>
      others j q apart (by rwa [get_set_ne apart.symm] at there)]
    exact turn.accounts [] (fun _ => rfl) accounts
  · have none := Place.hand_nil consumes
    have none' := Place.hand_nil fun consumes' => consumes (turn.consumes consumes')
    have after := turn.accounts (s.threads.flatMap Place.hand) (fun consumes' => absurd consumes' consumes)
      (by rw [none]; exact accounts)
    rw [flatMap_set here (none'.trans none.symm)]
    rwa [none'] at after

end turn

theorem Served.run (served : s.Served) (runs : Runs (step env) oneConsumer s s') : s'.Served := by
  refine runs.invariant served fun s move s' served may made => ?_
  cases move with
  | call => exact served.call may made
  | turn => exact served.turn may made

/-- With one consumer at a time, and the counter set to 0 only while nothing is queued: however the senders come
in between, the counter misses nothing, nobody takes a buffer from an empty queue, and what was read left in the
order in which it came, while the rest is still there in that order. -/
theorem consumer_served (env : Environment) (calls : List Call)
    (runs : Runs (step env) oneConsumer (start (Card.run env calls)) s) :
    s.missed = 0 ∧ (∀ p ∈ s.threads, ∀ taken, p ≠ .oops taken) ∧
      s.card.journal.Accounts (s.inHand ++ s.card.outgoingQueue) ∧
      (s.card.journal.fated .read).Sublist s.card.journal.accepted := by
  have served := (start_served (Card.run_books env calls)).run runs
  refine ⟨served.right, fun p member taken same => ?_, served.accounts, served.accounts.fated_sublist .read⟩
  have found := served.finds p member
  rw [same] at found
  exact found

/-- A second message comes while the first is read, and the controller is reset after the read. -/
def sendDuringRead : List Move :=
  .call (.sendMessage tenBytes) :: turns 7 0 ++ .call (.read 100 0) :: turns 2 1 ++
    .call (.sendMessage tenBytes) :: turns 4 2 ++ turns 1 1 ++ turns 3 2 ++ turns 4 1 ++
    .call .resetCtr :: turns 9 3

theorem sendDuringRead_served : ∃ s : Parallel, s.card.journal.fated .read = [tenBytes] ∧
    s.missed = 0 ∧ (∀ p ∈ s.threads, ∀ taken, p ≠ .oops taken) ∧
      s.card.journal.Accounts (s.inHand ++ s.card.outgoingQueue) ∧
      (s.card.journal.fated .read).Sublist s.card.journal.accepted := by
  have ends : (sendDuringRead.foldlM (permitted (step .sample) oneConsumer)
      (start (Card.run .sample [.openCard]))).map
        (fun s => s.card.journal.fated .read) = some [tenBytes] := by decide +kernel
  obtain ⟨s, made, same⟩ := Option.map_eq_some_iff.mp ends
  exact ⟨s, same, consumer_served .sample [.openCard] (runs_of_moves made)⟩

end Parallel
end CapiProxy.LinuxModule
