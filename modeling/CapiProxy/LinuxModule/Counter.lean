import CapiProxy.LinuxModule.Parallel

/-! The counter of pending buffers in all interleavings. No update of it is lost, but a flush sets it to 0
whatever has come into the queue since the flush found it empty: from then on it is that much too low. -/
namespace CapiProxy.LinuxModule
open Pools Traces

namespace Place
variable {i : Nat} {c c' : Card} {holder holder' : Option Nat} {p p' : Place}

/-- What a step does to the lock; the counter changes inside a section only. -/
inductive Locks (i : Nat) (c c' : Card) (holder holder' : Option Nat) (p p' : Place) : Prop where
  | outside (pending : c'.skPending = c.skPending) (keeps : holder' = holder) (out : p.inside = false)
      (out' : p'.inside = false)
  | acquires (pending : c'.skPending = c.skPending) (free : holder = none) (takes : holder' = some i)
      (inner : p'.inside)
  | inside (keeps : holder' = holder) (inner : p.inside) (inner' : p'.inside)
  | releases (pending : c'.skPending = c.skPending) (gives : holder' = none) (inner : p.inside)
      (out : p'.inside = false)

theorem Turn.locked (turn : Turn i c holder p c' holder' p') : Locks i c c' holder holder' p p' := by
  cases turn with
  | sends told => exact .outside told.pending rfl rfl rfl
  | locks free | settles free => exact .acquires rfl free rfl rfl
  | queues | counts | adds | loads | stores => exact .inside rfl rfl rfl
  | unlocks => exact .releases rfl rfl rfl rfl
  | _ => exact .outside rfl rfl rfl rfl

/-- A step that does not set the counter to 0 changes it as it changes what should be counted. -/
theorem Turn.balance (turn : Turn i c holder p c' holder' p') (right : p.Stores c.skPending)
    (keeps : p.clears = false) : c'.skPending - (c'.outgoingQueue.length + p'.weight) =
      c.skPending - (c.outgoingQueue.length + p.weight) := by
  cases turn with
  | sends told => rw [told.pending, told.queue]; rfl
  | queues =>
    simp only [Card.enqueue, weight, List.length_append, List.length_singleton]
    omega
  | adds =>
    simp only [Stores] at right
    simp only [Card.count, weight]
    omega
  | flushes head | takes head =>
    simp only [Card.leave, Card.withQueue, weight, head, List.length_cons]
    omega
  | returns =>
    simp only [Card.withQueue, weight, List.length_cons]
    omega
  | @stores removal =>
    cases removal with
    | all => cases keeps
    | one =>
      simp only [Stores, Removal.apply] at right
      simp only [Card.count, weight, Removal.weight]
      omega
  | _ => rfl

theorem Turn.right (turn : Turn i c holder p c' holder' p') : p'.Stores c'.skPending := by
  cases turn with
  | counts | loads => rfl
  | _ => trivial

theorem weight_nonneg (out : p.inside = false) : 0 ≤ p.weight := by
  cases p with
  | counting | counted => cases out
  | settling removal => cases removal <;> simp [weight, Removal.weight]
  | removing | removed => cases out
  | _ => simp [weight]

/-- A sender past the test whose buffer is not counted yet. -/
def admitted : Place → Int
  | .locking .. | .queueing .. | .counting _ | .counted .. => 1
  | _ => 0

theorem admitted_nonneg (p : Place) : 0 ≤ p.admitted := by
  cases p <;> simp [admitted]

theorem neg_weight_le (p : Place) : -p.weight ≤ p.admitted := by
  cases p with
  | settling removal | removing removal | removed removal =>
      cases removal <;> simp [weight, admitted, Removal.weight]
  | _ => simp [weight, admitted]

/-- What a step does to the counter and the senders that are still to be counted. -/
inductive Admits (c c' : Card) (p p' : Place) : Prop where
  | admits (skb : Skb) (next : Routine) (tests : p = .testing skb next) (room : c.skPending ≤ maxSkPending)
      (pending : c'.skPending = c.skPending) (one : p'.admitted = p.admitted + 1)
  | clears (pending : c'.skPending = 0) (same : p'.admitted = p.admitted)
  | other (less : p'.admitted ≤ p.admitted) (sum : c'.skPending + p'.admitted ≤ c.skPending + p.admitted)

theorem Turn.crowding (turn : Turn i c holder p c' holder' p') (right : p.Stores c.skPending) :
    Admits c c' p p' := by
  cases turn with
  | sends told => exact .other (Int.le_refl 0) (by rw [told.pending]; exact Int.le_refl _)
  | admits room => exact .admits _ _ rfl room rfl rfl
  | adds =>
    simp only [Stores] at right
    refine .other (Place.admitted_nonneg (.counted ..)) ?_
    simp only [Card.count, admitted]
    omega
  | @stores removal =>
    cases removal with
    | all => exact .clears right rfl
    | one =>
      simp only [Stores, Removal.apply] at right
      refine .other (Int.le_refl 0) ?_
      simp only [Card.count, admitted]
      omega
  | _ => exact .other (Int.le_refl _) (Int.le_refl _)

end Place

namespace Parallel
variable {env : Environment} {s s' : Parallel}

/-- The section under the lock has one thread at a time, and the counter with what it misses gives what should
be counted. -/
structure Counted (s : Parallel) : Prop where
  guards : Guards Place.inside s.threads s.holder
  holds : ∀ i, s.holder = some i → i < s.threads.length
  stores : ∀ (i : Nat) (p : Place), s.threads[i]? = some p → p.Stores s.card.skPending
  balance : s.card.skPending + s.missed = s.contents
  missed : 0 ≤ s.missed

theorem start_counted (books : c.Books) : (start c).Counted where
  guards := guards_nil
  holds := nofun
  stores := nofun
  balance := by simp [start, contents, books.pending]
  missed := Int.le_refl 0

theorem step_turned (made : s.step env (.turn i) = some s') : ∃ p c' holder' p', s.threads[i]? = some p ∧
    Place.Turn i s.card s.holder p c' holder' p' ∧ s' = s.moved i p (c', holder', p') := by
  simp only [step] at made
  split at made
  · cases made
  · next p here =>
    obtain ⟨⟨c', holder', p'⟩, turn, rfl⟩ := Option.map_eq_some_iff.mp made
    exact ⟨p, c', holder', p', here, Place.step_turn turn, rfl⟩

theorem moved_eq (s : Parallel) (i : Nat) (p : Place) (c' : Card) (holder' : Option Nat) (p' : Place) :
    ∃ missed, s.moved i p (c', holder', p') = ⟨c', holder', s.threads.set i p', missed⟩ ∧
      missed = if p.clears then (⟨c', holder', s.threads.set i p', s.missed⟩ : Parallel).contents
        else s.missed := by
  unfold moved
  split <;> exact ⟨_, rfl, rfl⟩

theorem contents_set (here : s.threads[i]? = some p) (c' : Card) (holder' : Option Nat) (p' : Place)
    (missed : Int) :
    (⟨c', holder', s.threads.set i p', missed⟩ : Parallel).contents =
      s.contents + (c'.outgoingQueue.length + p'.weight) - (s.card.outgoingQueue.length + p.weight) := by
  simp only [contents, weigh_set here]
  omega

theorem Counted.others (counted : s.Counted) (here : s.threads[i]? = some p) (inner : p.inside)
    (light : 0 ≤ p'.weight) :
    0 ≤ weigh Place.weight (s.threads.set i p') := by
  refine weigh_nonneg fun q member => ?_
  obtain ⟨j, there⟩ := List.mem_iff_getElem?.mp member
  rcases get_set here there with ⟨-, rfl⟩ | ⟨apart, old⟩
  · exact light
  · exact Place.weight_nonneg (Bool.eq_false_iff.mpr (counted.guards.outside here inner old apart))

theorem Counted.turn (counted : s.Counted) (made : s.step env (.turn i) = some s') : s'.Counted := by
  obtain ⟨p, c', holder', p', here, turn, rfl⟩ := step_turned made
  obtain ⟨missed, eq, missed_eq⟩ := moved_eq s i p c' holder' p'
  rw [eq]
  have inBounds : i < s.threads.length := (List.getElem?_eq_some_iff.mp here).1
  have length : (s.threads.set i p').length = s.threads.length := List.length_set
  have right := counted.stores i p here
  -- what another thread is about to store stays right: in the section it is alone
  have stores : ∀ (j : Nat) (q : Place), (s.threads.set i p')[j]? = some q → q.Stores c'.skPending := by
    intro j q there
    rcases get_set here there with ⟨-, rfl⟩ | ⟨apart, old⟩
    · exact turn.right
    · have same : q.inside → c'.skPending = s.card.skPending := by
        intro inner
        cases turn.locked with
        | outside pending | acquires pending | releases pending => exact pending
        | inside _ inner' => exact absurd inner (counted.guards.outside here inner' old apart)
      have before := counted.stores j q old
      cases q with
      | counted | removed => rw [same rfl]; exact before
      | _ => trivial
  have guards : Guards Place.inside (s.threads.set i p') holder' ∧
      ∀ j, holder' = some j → j < (s.threads.set i p').length := by
    rw [length]
    cases turn.locked with
    | outside _ keeps out out' => 
      exact ⟨keeps ▸ counted.guards.keep here (out'.trans out.symm), keeps ▸ counted.holds⟩
    | acquires _ free takes inner =>
      refine ⟨takes ▸ (free ▸ counted.guards).acquire here inner, fun j held => ?_⟩
      cases takes.symm.trans held
      exact inBounds
    | inside keeps inner inner' =>
      exact ⟨keeps ▸ counted.guards.keep here (inner'.trans inner.symm), keeps ▸ counted.holds⟩
    | releases _ gives inner out =>
      exact ⟨gives ▸ counted.guards.release here inner (by rw [out]; nofun), gives ▸ nofun⟩
  by_cases keeps : p.clears
  · rw [keeps, if_pos rfl] at missed_eq
    cases turn with
    | @stores removal value next =>
      cases removal with
      | one => cases keeps
      | all taken =>
        have zero : value = 0 := right
        have others := counted.others here rfl (Int.le_refl (Place.weight (.unlocking next)))
        refine ⟨guards.1, guards.2, stores, ?_, ?_⟩
        · rw [missed_eq]
          simp [contents, Card.count, zero]
        · rw [missed_eq]
          simp only [contents, Card.count]
          omega
    | _ => cases keeps
  · rw [if_neg keeps] at missed_eq
    subst missed_eq
    refine ⟨guards.1, guards.2, stores, ?_, counted.missed⟩
    have balance := counted.balance
    have change := turn.balance right (Bool.eq_false_iff.mpr keeps)
    rw [contents_set here]
    simp only
    omega

theorem Counted.call {call : Call} (counted : s.Counted) (made : s.step env (.call call) = some s') :
    s'.Counted := by
  obtain ⟨routine, -, rfl⟩ := Option.map_eq_some_iff.mp made
  refine ⟨counted.guards.append nofun counted.holds, fun i held => ?_, fun i p there => ?_, ?_, counted.missed⟩
  · have before := counted.holds i held
    rw [List.length_append]
    omega
  · rcases get_append there with old | ⟨-, rfl⟩
    · exact counted.stores i p old
    · trivial
  · have balance := counted.balance
    simp only [contents, weigh_append, Place.weight] at balance ⊢
    omega

theorem Counted.run (start : s.Counted) (runs : Runs (step env) allowed s s') : s'.Counted := by
  refine runs.invariant start fun s move s' counted _ made => ?_
  cases move with
  | call => exact counted.call made
  | turn => exact counted.turn made

theorem Quiet.weigh (quiet : s.Quiet) : Pools.weigh Place.weight s.threads = 0 := by
  have light : ∀ p ∈ s.threads, p.weight = 0 := by
    intro p member
    obtain ⟨result, rfl⟩ := quiet p member
    rfl
  exact Int.le_antisymm (weigh_nonpos fun p member => Int.le_of_eq (light p member))
    (weigh_nonneg fun p member => Int.le_of_eq (light p member).symm)

/-- However the calls run side by side after some that ran one after another: the counter and what its last
setting to 0 missed give what is to be counted, so it is right if and only if that was nothing; and the counter
never counts too much. -/
theorem counter_kept (env : Environment) (calls : List Call)
    (runs : Runs (step env) any (start (Card.run env calls)) s) :
    s.card.skPending + s.missed = s.contents ∧ 0 ≤ s.missed ∧
      (s.Quiet → (s.card.skPending = s.card.outgoingQueue.length ↔ s.missed = 0)) := by
  have counted := (start_counted (Card.run_books env calls)).run runs
  refine ⟨counted.balance, counted.missed, fun quiet => ?_⟩
  have balance := counted.balance
  rw [contents, quiet.weigh] at balance
  omega

def tenBytes : Skb := [10, 0, 1, 0, 0x86, 0x80, 1, 0, 0, 0]

def turns (n i : Nat) : List Move := List.replicate n (.turn i)

/-- A message is queued, a reader takes it, and the controller is reset before the reader counts it off. -/
def resetDuringRead : List Move :=
  .call (.sendMessage tenBytes) :: turns 7 0 ++ .call (.read 100 0) :: turns 2 1 ++ .call .resetCtr :: turns 7 2 ++
    turns 5 1

theorem resetDuringRead_kept : ∃ s : Parallel, (s.card.skPending = -1 ∧ s.missed = 1) ∧
    s.card.skPending + s.missed = s.contents ∧ 0 ≤ s.missed ∧
      (s.Quiet → (s.card.skPending = s.card.outgoingQueue.length ↔ s.missed = 0)) := by
  have ends : (resetDuringRead.foldlM (permitted (step .sample) any) (start (Card.run .sample [.openCard]))).map
      (fun s => (s.card.skPending, s.missed)) = some (-1, 1) := by decide +kernel
  obtain ⟨s, made, same⟩ := Option.map_eq_some_iff.mp ends
  exact ⟨s, Prod.mk.inj same, counter_kept .sample [.openCard] (runs_of_moves made)⟩

/-- A sender passes the test when at most `n` others have passed it and are not counted yet. -/
def crowd (n : Nat) (s : Parallel) : Move → Bool
  | .call _ => true
  | .turn i =>
    match s.threads[i]? with
    | some (.testing ..) => s.card.skPending > maxSkPending ∨ weigh Place.admitted s.threads ≤ n
    | _ => true

structure Crowded (n : Nat) (s : Parallel) : Prop where
  counted : s.Counted
  few : weigh Place.admitted s.threads ≤ n + 1
  sum : s.card.skPending + weigh Place.admitted s.threads ≤ maxSkPending + 1 + n

theorem Crowded.move {move : Move} (crowded : s.Crowded n) (may : s.crowd n move)
    (made : s.step env move = some s') :
    s'.Crowded n := by
  obtain ⟨counted, few, sum⟩ := crowded
  cases move with
  | call call =>
    have counted := counted.call made
    obtain ⟨routine, -, rfl⟩ := Option.map_eq_some_iff.mp made
    have same : weigh Place.admitted (s.threads ++ [.going routine]) = weigh Place.admitted s.threads := by
      rw [weigh_append]
      exact Int.add_zero _
    exact ⟨counted, same ▸ few, same ▸ sum⟩
  | turn i =>
    have counted' := counted.turn made
    obtain ⟨p, c', holder', p', here, turn, rfl⟩ := step_turned made
    obtain ⟨missed, eq, -⟩ := moved_eq s i p c' holder' p'
    rw [eq] at counted' ⊢
    have after := weigh_set here (w := Place.admitted) p'
    have room : (0 : Int) ≤ maxSkPending := by decide
    cases turn.crowding (counted.stores i p here) with
    | admits skb next tests room' pending one =>
      have passes : weigh Place.admitted s.threads ≤ n := by
        rw [tests] at here
        simp only [crowd, here, decide_eq_true_eq] at may
        exact may.resolve_left (Int.not_lt.mpr room')
      refine ⟨counted', ?_, ?_⟩ <;> simp only [after] <;> omega
    | clears pending same => refine ⟨counted', ?_, ?_⟩ <;> simp only [after] <;> omega
    | other less more => refine ⟨counted', ?_, ?_⟩ <;> simp only [after] <;> omega

/-- The test of the counter is made without the lock: when at most `n` senders can have overtaken another one
after its test, the queue has at most `n` buffers more than the calls one by one would let in, and those that
the counter has missed. -/
theorem queue_bounded (env : Environment) (calls : List Call) (n : Nat)
    (runs : Runs (step env) (crowd n) (start (Card.run env calls)) s) :
    s.card.skPending ≤ maxSkPending + 1 + n ∧ s.card.outgoingQueue.length ≤ maxSkPending + 1 + n + s.missed := by
  have books := Card.run_books env calls
  have crowded : s.Crowded n := by
    refine runs.invariant ?_ fun s move s' crowded may made => crowded.move may made
    have bound := books.bound
    refine ⟨start_counted books, ?_, ?_⟩ <;> simp only [start, weigh_nil] <;> omega
  obtain ⟨counted, few, sum⟩ := crowded
  have balance := counted.balance
  have light := weigh_le fun p (_ : p ∈ s.threads) => Place.neg_weight_le p
  have some : 0 ≤ weigh Place.admitted s.threads := weigh_nonneg fun p _ => p.admitted_nonneg
  rw [weigh_neg] at light
  rw [contents] at balance
  omega

/-- Two senders pass the test while 32 buffers are counted. -/
def twoSenders : List Move :=
  [.call (.sendMessage tenBytes), .call (.sendMessage tenBytes)] ++ turns 2 0 ++ turns 2 1 ++ turns 5 0 ++
    turns 5 1

theorem twoSenders_bounded : ∃ s : Parallel, (s.card.outgoingQueue.length = 34 ∧ s.missed = 0) ∧
    s.card.skPending ≤ maxSkPending + 1 + (1 : Nat) ∧
      s.card.outgoingQueue.length ≤ maxSkPending + 1 + (1 : Nat) + s.missed := by
  have ends : (twoSenders.foldlM (permitted (step .sample) (crowd 1))
      (start (Card.run .sample (.openCard :: List.replicate 32 (.sendMessage tenBytes))))).map
        (fun s => (s.card.outgoingQueue.length, s.missed)) = some (34, 0) := by decide +kernel
  obtain ⟨s, made, same⟩ := Option.map_eq_some_iff.mp ends
  exact ⟨s, Prod.mk.inj same, queue_bounded .sample _ 1 (runs_of_moves made)⟩

end Parallel
end CapiProxy.LinuxModule
