import CapiProxy.LinuxModule.Queue
import CapiProxy.Pools.Threads
import CapiProxy.Traces.Moves

/-! The calls into the module side by side, each on a thread of its own, one access to the card at a time.
`ctrl_lock` is held where the counter of pending buffers is changed, but not where it is tested; the queue
has a lock of its own inside each of its operations. -/
namespace CapiProxy.LinuxModule
open Pools

inductive Routine where
  | finished (result : Option ReadResult)
  | tell (callback : Callback) (next : Routine)
  | enter (status : CardStatus) (next : Routine)
  | send (skb : Skb) (next : Routine)
  | flush (next : Routine)
  | read (length left : Nat)
  deriving DecidableEq, Repr

/-- The calls that use the queue. Those that register and release an application use it through
`capiproxy_send_message`; the ioctls and the writes leave it alone. -/
def Call.routine : Call → Option Routine
  | .sendMessage skb => some (.send skb (.finished none))
  | .resetCtr => some (.flush (.tell .reseted (.finished none)))
  | .removeCtr alloc =>
    if alloc then
      some (.tell .suspendOutput (.flush (.enter .removing
        (.send (controlMessage 0 typeShutdown []) (.finished none)))))
    else some (.finished none)
  | .release => some (.tell .suspendOutput (.flush (.tell .detachCtr (.enter .free (.finished none)))))
  | .read length left => some (.read length left)
  | _ => none

/-- What the counter loses: one buffer, or everything after a flush that has taken some buffers. -/
inductive Removal where
  | one
  | all (taken : Nat)
  deriving DecidableEq, Repr

def Removal.apply (pending : Int) : Removal → Int
  | .one => pending - 1
  | .all _ => 0

/-- The buffers that it accounts for. -/
def Removal.weight : Removal → Int
  | .one => 1
  | .all taken => taken

/-- Where a thread is. -/
inductive Place where
  | going (next : Routine)
  /-- It has taken a buffer from an empty queue, a flush after some others. -/
  | oops (taken : Nat)
  -- `capiproxy_send_message`: the test of the counter, then the section under the lock
  | testing (skb : Skb) (next : Routine)
  | locking (skb : Skb) (next : Routine)
  | queueing (skb : Skb) (next : Routine)
  | counting (next : Routine)
  | counted (value : Int) (next : Routine)
  -- `capiproxy_flush_queue`: the test of the loop and its body
  | looping (taken : Nat) (next : Routine)
  | flushing (taken : Nat) (next : Routine)
  -- `capiproxy_read` after the test of the counter
  | dequeuing (length left : Nat)
  | holding (length left : Nat) (skb : Skb)
  -- the sections under the lock in which the counter loses something, and the end of all sections
  | settling (removal : Removal) (next : Routine)
  | removing (removal : Removal) (next : Routine)
  | removed (removal : Removal) (value : Int) (next : Routine)
  | unlocking (next : Routine)
  deriving DecidableEq, Repr

namespace Card

def enqueue (skb : Skb) (c : Card) : Card :=
  { c with outgoingQueue := c.outgoingQueue ++ [skb], journal := c.journal.accept skb }

def withQueue (queue : List Skb) (c : Card) : Card := { c with outgoingQueue := queue }
def count (value : Int) (c : Card) : Card := { c with skPending := value }
def leave (fate : Fate) (skb : Skb) (c : Card) : Card := { c with journal := c.journal.leave fate [skb] }

end Card

namespace Place

/-- A step of thread `i`: the card, the holder of the lock and the thread after it. A thread that waits for
the lock makes none, nor does one that has ended. -/
def step (env : Environment) (i : Nat) (c : Card) (holder : Option Nat) :
    Place → Option (Card × Option Nat × Place)
  | .going (.finished _) | .oops _ => none
  | .going (.tell callback next) => some (c.tell callback, holder, .going next)
  | .going (.enter status next) => some (c.enter status, holder, .going next)
  | .going (.flush next) => some (c, holder, .looping 0 next)
  | .going (.send skb next) =>
    if c.status = .free then some (c, holder, .going next)
    else
      some (if env.command skb = env.disconnectB3Resp then
          c.tell (.freeNcci (env.appid skb) (env.ncci skb)) else c,
        holder, .testing skb next)
  | .going (.read length left) =>
    if c.skPending = 0 then some (c, holder, .going (.finished (some .eagain)))
    else some (c, holder, .dequeuing length left)
  | .testing skb next =>
    if c.skPending > maxSkPending then some (c, holder, .going next) else some (c, holder, .locking skb next)
  | .locking skb next => if holder = none then some (c, some i, .queueing skb next) else none
  | .queueing skb next => some (c.enqueue skb, holder, .counting next)
  | .counting next => some (c, holder, .counted (c.skPending + 1) next)
  | .counted value next => some (c.count value, holder, .unlocking next)
  | .looping taken next =>
    if c.outgoingQueue.length ≠ 0 then some (c, holder, .flushing taken next)
    else some (c, holder, .settling (.all taken) next)
  | .flushing taken next =>
    match c.outgoingQueue with
    | [] => some (c, holder, .oops taken)
    | skb :: queue => some ((c.withQueue queue).leave .flushed skb, holder, .looping (taken + 1) next)
  | .dequeuing length left =>
    match c.outgoingQueue with
    | [] => some (c.note .nullBuffer, holder, .oops 0)
    | skb :: queue => some (c.withQueue queue, holder, .holding length left skb)
  | .holding length left skb =>
    if skb.length > length then
      some (c.withQueue (skb :: c.outgoingQueue), holder, .going (.finished (some .emsgsize)))
    else if skb.length < 6 then some (c.leave .short skb, holder, .settling .one (.read length left))
    else if left ≠ 0 then
      some (c.withQueue (skb :: c.outgoingQueue), holder, .going (.finished (some (.notCopied left))))
    else some (c.leave .read skb, holder, .settling .one (.finished (some (.copied skb))))
  | .settling removal next => if holder = none then some (c, some i, .removing removal next) else none
  | .removing removal next => some (c, holder, .removed removal (removal.apply c.skPending) next)
  | .removed _ value next => some (c.count value, holder, .unlocking next)
  | .unlocking next => some (c, none, .going next)

inductive Turn (i : Nat) (c : Card) (holder : Option Nat) : Place → Card → Option Nat → Place → Prop where
  | tells : Turn i c holder (.going (.tell callback next)) (c.tell callback) holder (.going next)
  | enters : Turn i c holder (.going (.enter status next)) (c.enter status) holder (.going next)
  | starts : Turn i c holder (.going (.flush next)) c holder (.looping 0 next)
  | refuses (free : c.status = .free) : Turn i c holder (.going (.send skb next)) c holder (.going next)
  | sends (told : Card.Told c d) : Turn i c holder (.going (.send skb next)) d holder (.testing skb next)
  | waits (none : c.skPending = 0) :
    Turn i c holder (.going (.read length left)) c holder (.going (.finished (some .eagain)))
  | reads (some : c.skPending ≠ 0) : Turn i c holder (.going (.read length left)) c holder
      (.dequeuing length left)
  | drops (full : maxSkPending < c.skPending) : Turn i c holder (.testing skb next) c holder (.going next)
  | admits (room : c.skPending ≤ maxSkPending) : Turn i c holder (.testing skb next) c holder
      (.locking skb next)
  | locks (free : holder = none) : Turn i c holder (.locking skb next) c (some i) (.queueing skb next)
  | queues : Turn i c holder (.queueing skb next) (c.enqueue skb) holder (.counting next)
  | counts : Turn i c holder (.counting next) c holder (.counted (c.skPending + 1) next)
  | adds : Turn i c holder (.counted value next) (c.count value) holder (.unlocking next)
  | continues (some : c.outgoingQueue ≠ []) : Turn i c holder (.looping taken next) c holder
      (.flushing taken next)
  | ends (none : c.outgoingQueue = []) :
    Turn i c holder (.looping taken next) c holder (.settling (.all taken) next)
  | overruns (none : c.outgoingQueue = []) : Turn i c holder (.flushing taken next) c holder (.oops taken)
  | flushes (head : c.outgoingQueue = skb :: queue) :
    Turn i c holder (.flushing taken next) ((c.withQueue queue).leave .flushed skb) holder
      (.looping (taken + 1) next)
  | crashes (none : c.outgoingQueue = []) :
    Turn i c holder (.dequeuing length left) (c.note .nullBuffer) holder (.oops 0)
  | takes (head : c.outgoingQueue = skb :: queue) :
    Turn i c holder (.dequeuing length left) (c.withQueue queue) holder (.holding length left skb)
  | returns (result : ReadResult) (kept : result = .emsgsize ∨ result = .notCopied left) :
    Turn i c holder (.holding length left skb) (c.withQueue (skb :: c.outgoingQueue)) holder
      (.going (.finished (some result)))
  | discards (short : skb.length < 6) :
    Turn i c holder (.holding length left skb) (c.leave .short skb) holder (.settling .one (.read length left))
  | copies : Turn i c holder (.holding length left skb) (c.leave .read skb) holder
      (.settling .one (.finished (some (.copied skb))))
  | settles (free : holder = none) : Turn i c holder (.settling removal next) c (some i)
      (.removing removal next)
  | loads : Turn i c holder (.removing removal next) c holder
      (.removed removal (removal.apply c.skPending) next)
  | stores : Turn i c holder (.removed removal value next) (c.count value) holder (.unlocking next)
  | unlocks : Turn i c holder (.unlocking next) c none (.going next)

theorem step_turn {c' : Card} {holder' : Option Nat} {p p' : Place}
    (made : p.step env i c holder = some (c', holder', p')) : Turn i c holder p c' holder' p' := by
  cases p with
  | going r =>
    cases r with
    | finished => cases made
    | tell => cases made; exact .tells
    | enter => cases made; exact .enters
    | flush => cases made; exact .starts
    | send skb next =>
      simp only [step] at made
      split at made
      · next free =>
        cases made
        exact .refuses free
      · cases made
        refine .sends ?_
        split
        · exact Card.tell_told c rfl
        · exact .refl c
    | read length left =>
      simp only [step] at made
      split at made
      · next none =>
        cases made
        exact .waits none
      · next some =>
        cases made
        exact .reads some
  | oops => cases made
  | testing skb next =>
    simp only [step] at made
    split at made
    · next full =>
      cases made
      exact .drops full
    · next room =>
      cases made
      exact .admits (Int.not_lt.mp room)
  | locking skb next =>
    simp only [step, Option.ite_none_right_eq_some] at made
    obtain ⟨free, made⟩ := made
    cases made
    exact .locks free
  | queueing => cases made; exact .queues
  | counting => cases made; exact .counts
  | counted => cases made; exact .adds
  | looping taken next =>
    simp only [step] at made
    split at made
    · next some =>
      cases made
      exact .continues fun none => some (by rw [none]; rfl)
    · next none =>
      cases made
      exact .ends (List.length_eq_zero_iff.mp (not_not.mp none))
  | flushing taken next =>
    simp only [step] at made
    split at made
    · next none =>
      cases made
      exact .overruns none
    · next head =>
      cases made
      exact .flushes head
  | dequeuing length left =>
    simp only [step] at made
    split at made
    · next none =>
      cases made
      exact .crashes none
    · next head =>
      cases made
      exact .takes head
  | holding length left skb =>
    simp only [step] at made
    split at made
    · cases made
      exact .returns _ (.inl rfl)
    · split at made
      · next short =>
        cases made
        exact .discards short
      · split at made
        · cases made
          exact .returns _ (.inr rfl)
        · cases made
          exact .copies
  | settling removal next =>
    simp only [step, Option.ite_none_right_eq_some] at made
    obtain ⟨free, made⟩ := made
    cases made
    exact .settles free
  | removing => cases made; exact .loads
  | removed => cases made; exact .stores
  | unlocking => cases made; exact .unlocks

def inside : Place → Bool
  | .queueing .. | .counting .. | .counted .. | .removing .. | .removed .. | .unlocking .. => true
  | _ => false

/-- The buffers that are no longer in the queue but still counted, less the one that is in the queue but not
yet counted. -/
def weight : Place → Int
  | .counting _ | .counted .. => -1
  | .looping taken _ | .flushing taken _ | .oops taken => taken
  | .holding .. => 1
  | .settling removal _ | .removing removal _ | .removed removal .. => removal.weight
  | _ => 0

/-- What the thread is about to store is right. -/
def Stores (pending : Int) : Place → Prop
  | .counted value _ => value = pending + 1
  | .removed removal value _ => value = removal.apply pending
  | _ => True

/-- The thread is about to set the counter to 0. -/
def clears : Place → Bool
  | .removed (.all _) .. => true
  | _ => false

end Place

/-- A card, the holder of its lock and the threads in the module. `missed` counts the buffers that the counter
should have counted when it was last set to 0. -/
structure Parallel where
  card : Card
  holder : Option Nat
  threads : List Place
  missed : Int

namespace Parallel

def start (c : Card) : Parallel := ⟨c, none, [], 0⟩

/-- The buffers that the counter should count: those in the queue, less one that is not counted yet, and those
that threads have taken from it but not yet from the counter. -/
def contents (s : Parallel) : Int := s.card.outgoingQueue.length + weigh Place.weight s.threads

inductive Move where
  | call (call : Call)
  | turn (i : Nat)

def moved (s : Parallel) (i : Nat) (place : Place) (after : Card × Option Nat × Place) : Parallel :=
  let s' : Parallel := ⟨after.1, after.2.1, s.threads.set i after.2.2, s.missed⟩
  if place.clears then { s' with missed := s'.contents } else s'

def step (env : Environment) (s : Parallel) : Move → Option Parallel
  | .call call => call.routine.map fun routine => { s with threads := s.threads ++ [.going routine] }
  | .turn i =>
    match s.threads[i]? with
    | none => none
    | some place => (place.step env i s.card s.holder).map (s.moved i place)

def Quiet (s : Parallel) : Prop := ∀ p ∈ s.threads, ∃ result, p = .going (.finished result)

end Parallel
end CapiProxy.LinuxModule
