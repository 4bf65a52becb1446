import CapiProxy.Pools.Threads
import CapiProxy.Traces.Moves
import CapiProxy.Win32Client.Exchange

/-! The client when its connection is lost, and when the library is unloaded. Each call of `sendAndReceive`
has a variable of its own for the answer, which is gone when the call has returned. The dispatcher ends with
the connection; `DllMain` closes the socket and stores `ILLEGAL_ANSWER` through every entry of the list. Each
operation on the list is one step here, as it is while no call is outdated (`pending_listed`). -/
namespace CapiProxy.Win32Client
open Pools Traces

def Answer.isNull : Answer → Bool
  | .null => true
  | _ => false

/-- Where a call is: before `addToHash`; behind it, with an entry in the list or without memory for one; at its
variable; or returned, because its request was not sent (and its entry was still there or not), or with what it
found in the variable. -/
inductive CallPhase where
  | entered
  | listed (entry : Bool)
  | waiting (entry : Bool)
  | refused (entry : Bool)
  | returned
  deriving DecidableEq, Repr

/-- The list has never had an entry for the call. -/
def CallPhase.bare : CallPhase → Bool
  | .entered | .listed false | .waiting false => true
  | _ => false

structure OpenCall where
  msgId : UInt32
  phase : CallPhase
  answer : Answer

/-- How far `DllMain` is: before the unloading, the receiving side shut down, the socket closed, or the loop
over the list at its end. -/
inductive Unloading where
  | loaded | shut | closed | released
  deriving DecidableEq, Repr

/-- The calls by their number, which stands for the address of their variable; the list; the dispatcher, and
whether its loop runs; and the variables that were written after their calls had returned. -/
structure Library where
  msgId : UInt32
  calls : List OpenCall
  pending : List (Pending Nat)
  dispatcher : Dispatcher Nat
  receiving : Bool
  stage : Unloading
  stale : List Nat

/-- A function makes a call; a call goes to the list (with memory for an entry or not), sends its request (or
fails) or looks at its variable; the dispatcher receives an answer, finds the connection lost, or goes on with
the answer it has; or `DllMain` shuts the socket down, closes it, takes the next entry, or finds the list
empty. -/
inductive LibraryMove where
  | enter
  | add (call : Nat) (malloc : Bool)
  | send (call : Nat) (sent : Bool)
  | look (call : Nat)
  | receive (msg : Received)
  | lose
  | dispatch
  | shutdown
  | close
  | release
  | finish

namespace Library

def put (s : Library) (i : Nat) (c : OpenCall) : Library := { s with calls := s.calls.set i c }

def write (s : Library) (i : Nat) (answer : Answer) : Library :=
  match s.calls[i]? with
  | some c =>
    match c.phase with
    | .refused _ | .returned => { s with stale := s.stale ++ [i] }
    | _ => s.put i { c with answer }
  | none => s

def dispatch (s : Library) : Option Library :=
  match s.dispatcher with
  | .received msg => some { s with dispatcher := .found msg (getDataPtrFromMsgId msg.messageId s.pending) }
  | .found msg data =>
    some { s with dispatcher := .removed msg data, pending := removeFromHash msg.messageId s.pending }
  | .removed msg (some i) => some { s.write i (.frame msg) with dispatcher := .idle }
  | .removed _ none => some { s with dispatcher := .crashed }
  | .idle | .crashed => none

def idle (s : Library) : Bool :=
  match s.dispatcher with
  | .idle => true
  | _ => false

def crashed (s : Library) : Bool :=
  match s.dispatcher with
  | .crashed => true
  | _ => false

def connected (s : Library) : Bool := s.stage = .loaded ∨ s.stage = .shut

/-- A crash ends the process. -/
def step (s : Library) (move : LibraryMove) : Option Library :=
  if s.crashed then none
  else
    match move with
    | .enter => some { s with msgId := s.msgId + 1, calls := s.calls ++ [⟨s.msgId + 1, .entered, .null⟩] }
    | .add i malloc =>
      match s.calls[i]? with
      | some ⟨msgId, .entered, answer⟩ => some { s.put i ⟨msgId, .listed malloc, answer⟩ with
          pending := if malloc then addToHash msgId i s.pending else s.pending }
      | _ => none
    | .send i sent =>
      match s.calls[i]? with
      | some ⟨msgId, .listed entry, answer⟩ =>
        if sent then if s.connected then some (s.put i ⟨msgId, .waiting entry, answer⟩) else none
        else some (s.put i ⟨msgId, .refused (entry && answer.isNull), .illegal⟩)
      | _ => none
    | .look i =>
      match s.calls[i]? with
      | some ⟨msgId, .waiting _, answer⟩ =>
        if answer.isNull then none else some (s.put i ⟨msgId, .returned, answer⟩)
      | _ => none
    | .receive msg =>
      if s.idle && s.receiving && s.connected then some { s with dispatcher := .received msg } else none
    | .lose => if s.idle && s.receiving then some { s with receiving := false } else none
    | .dispatch => s.dispatch
    | .shutdown => if s.stage = .loaded then some { s with stage := .shut } else none
    | .close => if s.stage = .shut then some { s with stage := .closed } else none
    | .release =>
      match s.stage, s.pending with
      | .closed, e :: next => some { s.write e.data .illegal with pending := next }
      | _, _ => none
    | .finish => if s.stage = .closed ∧ s.pending = [] then some { s with stage := .released } else none

/-- `DllMain` goes through the list when the receiver has ended. -/
def awaits (s : Library) : LibraryMove → Bool
  | .release | .finish => !s.receiving
  | _ => true

/-- Every move is made but those of `DllMain` on the list. -/
def unreleased : Library → LibraryMove → Bool
  | _, .release => false
  | _, _ => true

def start (msgId : UInt32) : Library := ⟨msgId, [], [], .idle, true, .loaded, []⟩

/-- An entry for the variable is in the list, or the dispatcher has just taken it out. -/
def Held (s : Library) (i : Nat) : Prop :=
  (∃ e ∈ s.pending, e.data = i) ∨ ∃ msg, s.dispatcher = .removed msg (some i)

/-- The dispatcher has found no entry for its answer and is about to store it through a null pointer. -/
def Doomed (s : Library) : Prop := ∃ msg, s.dispatcher = .removed msg none

end Library

/-- The variable of the call, whose entry was made, is still to be written; `stale` tells whether it was after
the call had returned. -/
def OpenCall.due (c : OpenCall) (stale : Bool) : Bool :=
  match c.phase with
  | .entered | .returned => false
  | .listed entry | .waiting entry => entry && c.answer.isNull
  | .refused entry => entry && !stale

namespace Library
variable {s s' : Library} {i : Nat} {c : OpenCall}

/-- Each entry belongs to a call whose variable is still to be written, and each such call has one. -/
structure Tidy (first : UInt32) (s : Library) : Prop where
  counter : s.msgId = first + .ofNat s.calls.length
  ids : ∀ (i : Nat) (c : OpenCall), s.calls[i]? = some c → c.msgId = first + .ofNat (i + 1)
  fresh : ∀ c ∈ s.calls, c.phase.bare → c.answer = .null
  entries : ∀ e ∈ s.pending, ∃ c, s.calls[e.data]? = some c ∧ c.msgId = e.msgId
  distinct : (s.pending.map (·.data)).Nodup
  held : ∀ (i : Nat) (c : OpenCall), s.calls[i]? = some c → (s.Held i ↔ c.due (i ∈ s.stale))
  found : ∀ msg i, s.dispatcher = .found msg (some i) → ⟨msg.messageId, i⟩ ∈ s.pending
  hand : ∀ msg i, s.dispatcher = .removed msg (some i) → i < s.calls.length ∧ ∀ e ∈ s.pending, e.data ≠ i
  stale : ∀ i ∈ s.stale, ∃ c, s.calls[i]? = some c ∧ c.phase = .refused true
  ended : s.receiving = false → s.dispatcher = .idle
  late : s.stage = .released → ∀ c ∈ s.calls, c.phase = .waiting true → c.answer.isNull = false

theorem start_tidy (first : UInt32) : (start first).Tidy first where
  counter := (UInt32.add_zero first).symm
  ids := nofun
  fresh := nofun
  entries := nofun
  distinct := List.nodup_nil
  held := nofun
  found := nofun
  hand := nofun
  stale := nofun
  ended := nofun
  late := nofun

/-- Calls have different ids as long as there are not too many of them. -/
theorem Tidy.apart (tidy : s.Tidy first) (few : s.calls.length ≤ 2 ^ 32) (here : s.calls[i]? = some c)
    (there : s.calls[j]? = some c') (same : c.msgId = c'.msgId) : i = j := by
  rw [tidy.ids i c here, tidy.ids j c' there] at same
  have inside := (List.getElem?_eq_some_iff.mp here).1
  have inside' := (List.getElem?_eq_some_iff.mp there).1
  have words := congrArg UInt32.toNat ((UInt32.add_right_inj first).mp same)
  rw [UInt32.toNat_ofNat', UInt32.toNat_ofNat'] at words
  omega

theorem Tidy.inside (tidy : s.Tidy first) (held : s.Held i) : i < s.calls.length := by
  rcases held with ⟨e, member, rfl⟩ | ⟨msg, hand⟩
  · obtain ⟨c, here, -⟩ := tidy.entries e member
    exact (List.getElem?_eq_some_iff.mp here).1
  · exact (tidy.hand msg i hand).1

theorem Tidy.enter (tidy : s.Tidy first) :
    Tidy first { s with msgId := s.msgId + 1, calls := s.calls ++ [⟨s.msgId + 1, .entered, .null⟩] } := by
  have next : s.msgId + 1 = first + .ofNat (s.calls.length + 1) := by
    rw [tidy.counter, UInt32.add_assoc]
    congr 1
    apply UInt32.toNat_inj.mp
    simp
  have keeps {i : Nat} {c : OpenCall} (here : s.calls[i]? = some c) :
      (s.calls ++ [⟨s.msgId + 1, .entered, .null⟩])[i]? = some c := by
    rw [List.getElem?_append_left (List.getElem?_eq_some_iff.mp here).1]
    exact here
  refine ⟨?_, fun i c there => ?_, ?_, fun e member => ?_, tidy.distinct, fun i c there => ?_, tidy.found,
    fun msg i hand => ?_, fun i member => ?_, tidy.ended, fun released => ?_⟩
  · rw [List.length_append]
    exact next
  · rcases get_append there with old | ⟨rfl, rfl⟩
    · exact tidy.ids i c old
    · exact next
  · exact List.forall_mem_append.mpr ⟨tidy.fresh, List.forall_mem_singleton.mpr fun _ => rfl⟩
  · obtain ⟨c, here, same⟩ := tidy.entries e member
    exact ⟨c, keeps here, same⟩
  · rcases get_append there with old | ⟨rfl, rfl⟩
    · exact tidy.held i c old
    · exact iff_of_false (fun held => Nat.lt_irrefl _ (tidy.inside held)) nofun
  · obtain ⟨inside, apart⟩ := tidy.hand msg i hand
    exact ⟨by rw [List.length_append]; exact Nat.lt_add_right _ inside, apart⟩
  · obtain ⟨c, here, refused⟩ := tidy.stale i member
    exact ⟨c, keeps here, refused⟩
  · exact List.forall_mem_append.mpr ⟨tidy.late released, List.forall_mem_singleton.mpr nofun⟩

theorem Tidy.put (tidy : s.Tidy first) (here : s.calls[i]? = some c) (id : c'.msgId = c.msgId)
    (fresh : c'.phase.bare → c'.answer = .null) (same : c'.due (i ∈ s.stale) = c.due (i ∈ s.stale))
    (unrefused : c.phase ≠ .refused true)
    (late : s.stage = .released → c'.phase = .waiting true → c'.answer.isNull = false) :
    (s.put i c').Tidy first := by
  have others {P : OpenCall → Prop} (all : ∀ c ∈ s.calls, P c) (this : P c') : ∀ c ∈ s.calls.set i c', P c := by
    intro c changed
    rcases List.mem_or_eq_of_mem_set changed with old | rfl
    · exact all c old
    · exact this
  have length : (s.calls.set i c').length = s.calls.length := List.length_set
  refine ⟨by rw [Library.put, length]; exact tidy.counter, fun j d there => ?_, ?_, fun e member => ?_,
    tidy.distinct, fun j d there => ?_, tidy.found, fun msg j hand => ?_, fun j member => ?_, tidy.ended,
    fun released => ?_⟩
  · rcases get_set here there with ⟨rfl, rfl⟩ | ⟨-, old⟩
    · rw [id]
      exact tidy.ids _ c here
    · exact tidy.ids j d old
  · exact others tidy.fresh fresh
  · obtain ⟨d, there, same⟩ := tidy.entries e member
    by_cases own : i = e.data
    · subst own
      obtain rfl := Option.some.inj (here.symm.trans there)
      exact ⟨c', get_set_self here, id.trans same⟩
    · exact ⟨d, (get_set_ne own).trans there, same⟩
  · rcases get_set here there with ⟨rfl, rfl⟩ | ⟨-, old⟩
    · have held := tidy.held _ c here
      rw [← same] at held
      exact held
    · exact tidy.held j d old
  · obtain ⟨inside, apart⟩ := tidy.hand msg j hand
    exact ⟨length.symm ▸ inside, apart⟩
  · obtain ⟨d, there, refused⟩ := tidy.stale j member
    by_cases own : i = j
    · subst own
      obtain rfl := Option.some.inj (here.symm.trans there)
      exact absurd refused unrefused
    · exact ⟨d, (get_set_ne own).trans there, refused⟩
  · exact others (tidy.late released) (late released)

theorem Tidy.add {msgId : UInt32} {answer : Answer} (tidy : s.Tidy first)
    (here : s.calls[i]? = some ⟨msgId, .entered, answer⟩) (malloc : Bool) :
    Tidy first { s.put i ⟨msgId, .listed malloc, answer⟩ with
      pending := if malloc then addToHash msgId i s.pending else s.pending } := by
  have unheld : ¬ s.Held i := fun held => nomatch (tidy.held i _ here).mp held
  cases malloc with
  | false =>
    have null : answer = .null := tidy.fresh _ (List.mem_of_getElem? here) rfl
    exact tidy.put here rfl (fun _ => null) rfl nofun nofun
  | true =>
    obtain rfl : answer = .null := tidy.fresh _ (List.mem_of_getElem? here) rfl
    have absent : ∀ e ∈ s.pending, e.data ≠ i := fun e member same => unheld (.inl ⟨e, member, same⟩)
    have calls {j : Nat} {d : OpenCall} (there : (s.calls.set i ⟨msgId, .listed true, .null⟩)[j]? = some d) :
        j = i ∧ d = ⟨msgId, .listed true, .null⟩ ∨ j ≠ i ∧ s.calls[j]? = some d := get_set here there
    have length : (s.calls.set i ⟨msgId, .listed true, .null⟩).length = s.calls.length := List.length_set
    simp only [Library.put, if_true, addToHash]
    refine ⟨by rw [length]; exact tidy.counter, fun j d there => ?_, fun d member entered => ?_,
      fun e member => ?_, ?_, fun j d there => ?_,
      fun msg j found => List.mem_append_left _ (tidy.found msg j found), fun msg j hand => ?_,
      fun j member => ?_, tidy.ended, fun released d member waiting => ?_⟩
    · rcases calls there with ⟨rfl, rfl⟩ | ⟨-, old⟩
      · exact (tidy.ids _ _ here : msgId = _)
      · exact tidy.ids j d old
    · rcases List.mem_or_eq_of_mem_set member with old | rfl
      · exact tidy.fresh d old entered
      · cases entered
    · rcases List.mem_append.mp member with old | new
      · obtain ⟨d, there, same⟩ := tidy.entries e old
        exact ⟨d, (get_set_ne (absent e old).symm).trans there, same⟩
      · rw [List.mem_singleton.mp new]
        exact ⟨_, get_set_self here, rfl⟩
    · rw [List.map_append, List.map_singleton]
      refine List.nodup_append.mpr ⟨tidy.distinct, List.nodup_singleton _, fun k member k' last => ?_⟩
      obtain ⟨e, old, rfl⟩ := List.mem_map.mp member
      rw [List.mem_singleton.mp last]
      exact absent e old
    · rcases calls there with ⟨rfl, rfl⟩ | ⟨apart, old⟩
      · exact iff_of_true (.inl ⟨_, List.mem_append_right _ (List.mem_singleton_self _), rfl⟩) rfl
      · rw [← tidy.held j d old]
        simp only [Held, List.mem_append, List.mem_singleton]
        refine or_congr ⟨?_, ?_⟩ Iff.rfl
        · rintro ⟨e, member | rfl, rfl⟩
          · exact ⟨e, member, rfl⟩
          · exact absurd rfl apart
        · rintro ⟨e, member, same⟩
          exact ⟨e, .inl member, same⟩
    · obtain ⟨inside, apart⟩ := tidy.hand msg j hand
      refine ⟨length.symm ▸ inside, fun e member => ?_⟩
      rcases List.mem_append.mp member with old | new
      · exact apart e old
      · rw [List.mem_singleton.mp new]
        rintro rfl
        exact unheld (.inr ⟨msg, hand⟩)
    · obtain ⟨d, there, refused⟩ := tidy.stale j member
      have apart : i ≠ j := by
        rintro rfl
        rw [Option.some.inj (here.symm.trans there) |>.symm] at refused
        cases refused
      exact ⟨d, (get_set_ne apart).trans there, refused⟩
    · rcases List.mem_or_eq_of_mem_set member with old | rfl
      · exact tidy.late released d old waiting
      · cases waiting

theorem Tidy.unstale (tidy : s.Tidy first) (here : s.calls[i]? = some c)
    (unrefused : c.phase ≠ .refused true) :
    i ∉ s.stale := by
  intro member
  obtain ⟨d, there, refused⟩ := tidy.stale i member
  exact unrefused (Option.some.inj (here.symm.trans there) ▸ refused)

theorem Tidy.send {msgId : UInt32} {entry : Bool} {answer : Answer} (tidy : s.Tidy first)
    (here : s.calls[i]? = some ⟨msgId, .listed entry, answer⟩) :
    (s.connected → (s.put i ⟨msgId, .waiting entry, answer⟩).Tidy first) ∧
      (s.put i ⟨msgId, .refused (entry && answer.isNull), .illegal⟩).Tidy first := by
  constructor
  · intro may
    refine tidy.put here rfl ?_ rfl nofun fun released _ => ?_
    · cases entry with
      | false =>
        have null : answer = .null := tidy.fresh _ (List.mem_of_getElem? here) rfl
        exact fun _ => null
      | true => nofun
    simp [connected, released] at may
  · refine tidy.put here rfl nofun ?_ nofun nofun
    simp [OpenCall.due, tidy.unstale here nofun]

theorem Tidy.look {msgId : UInt32} {entry : Bool} {answer : Answer} (tidy : s.Tidy first)
    (here : s.calls[i]? = some ⟨msgId, .waiting entry, answer⟩) (set : answer.isNull = false) :
    (s.put i ⟨msgId, .returned, answer⟩).Tidy first := by
  refine tidy.put here rfl nofun ?_ nofun nofun
  simp [OpenCall.due, set]

theorem mem_removeFromHash {id : UInt32} {i : Nat} {list : List (Pending Nat)}
    (distinct : (list.map (·.data)).Nodup)
    (member : ⟨id, i⟩ ∈ list) (only : ∀ e ∈ list, e.msgId = id → e.data = i) (e : Pending Nat) :
    e ∈ removeFromHash id list ↔ e ∈ list ∧ e.data ≠ i := by
  induction list with
  | nil => cases member
  | cons q next ih =>
    rw [List.map_cons, List.nodup_cons] at distinct
    obtain ⟨single, distinct⟩ := distinct
    rw [removeFromHash]
    split
    · next same =>
      obtain rfl := only q List.mem_cons_self same
      constructor
      · intro rest
        exact ⟨List.mem_cons_of_mem _ rest, fun again => single (again ▸ List.mem_map_of_mem rest)⟩
      · rintro ⟨member, apart⟩
        rcases List.mem_cons.mp member with rfl | rest
        · exact absurd rfl apart
        · exact rest
    · next other =>
      have rest : ⟨id, i⟩ ∈ next :=
        (List.mem_cons.mp member).resolve_left fun same => other (congrArg Pending.msgId same.symm)
      rw [List.mem_cons, List.mem_cons, ih distinct rest fun e later => only e (List.mem_cons_of_mem _ later)]
      have apart : q.data ≠ i := fun same => single (same ▸ List.mem_map_of_mem (f := (·.data)) rest)
      constructor
      · rintro (rfl | ⟨later, apart⟩)
        · exact ⟨.inl rfl, apart⟩
        · exact ⟨.inr later, apart⟩
      · rintro ⟨rfl | later, apart⟩
        · exact .inl rfl
        · exact .inr ⟨later, apart⟩

theorem Tidy.remove (tidy : s.Tidy first) (few : s.calls.length ≤ 2 ^ 32) {msg : Received}
    (found : s.dispatcher = .found msg (some i)) :
    Tidy first { s with
      dispatcher := .removed msg (some i), pending := removeFromHash msg.messageId s.pending } := by
  have member := tidy.found msg i found
  obtain ⟨c, here, id⟩ := tidy.entries _ member
  have only : ∀ e ∈ s.pending, e.msgId = msg.messageId → e.data = i := by
    intro e other same
    obtain ⟨d, there, id'⟩ := tidy.entries e other
    exact tidy.apart few there here (id'.trans (same.trans id.symm))
  have left := mem_removeFromHash tidy.distinct member only
  have sublist : List.Sublist (removeFromHash msg.messageId s.pending) s.pending := by
    rw [removeFromHash_eq]
    exact List.eraseP_sublist
  refine ⟨tidy.counter, tidy.ids, tidy.fresh, fun e rest => tidy.entries e ((left e).mp rest).1,
    tidy.distinct.sublist (sublist.map _), fun j d there => ?_, nofun, fun msg' j hand => ?_, tidy.stale,
    fun ended => ?_, tidy.late⟩
  · rw [← tidy.held j d there]
    simp only [Held, found, reduceCtorEq, exists_false, or_false]
    constructor
    · rintro (⟨e, rest, same⟩ | ⟨msg', hand⟩)
      · exact ⟨e, ((left e).mp rest).1, same⟩
      · cases hand
        exact ⟨_, member, rfl⟩
    · rintro ⟨e, old, rfl⟩
      by_cases own : e.data = i
      · exact .inr ⟨msg, by rw [own]⟩
      · exact .inl ⟨e, (left e).mpr ⟨old, own⟩, rfl⟩
  · cases hand
    exact ⟨(List.getElem?_eq_some_iff.mp here).1, fun e rest => ((left e).mp rest).2⟩
  · rw [tidy.ended ended] at found
    cases found

theorem Tidy.written (tidy : s.Tidy first) (held : s.Held i) (answer : Answer) (set : answer.isNull = false)
    {pending : List (Pending Nat)} (sublist : List.Sublist pending s.pending) (gone : ∀ e ∈ pending, e.data ≠ i)
    (others : ∀ e ∈ s.pending, e.data ≠ i → e ∈ pending)
    (hand : ∀ msg j, s.dispatcher = .removed msg (some j) → j = i) :
    Tidy first { s.write i answer with dispatcher := .idle, pending := pending } := by
  have inside := tidy.inside held
  have here := List.getElem?_eq_getElem inside
  generalize s.calls[i] = c at here
  have due := (tidy.held i c here).mp held
  have left (j : Nat) : (∃ e ∈ pending, e.data = j) ↔ s.Held j ∧ j ≠ i := by
    constructor
    · rintro ⟨e, rest, rfl⟩
      exact ⟨.inl ⟨e, sublist.subset rest, rfl⟩, gone e rest⟩
    · rintro ⟨⟨e, old, rfl⟩ | ⟨msg, removed⟩, apart⟩
      · exact ⟨e, others e old apart, rfl⟩
      · exact absurd (hand msg j removed) apart
  have distinct := tidy.distinct.sublist (sublist.map (·.data))
  -- a call that still runs finds the answer; one that was refused has left an address behind
  have running (phase : c.phase = .listed true ∨ c.phase = .waiting true) :
      Tidy first { s.put i { c with answer } with dispatcher := .idle, pending := pending } := by
    have unrefused : c.phase ≠ .refused true := by rcases phase with same | same <;> rw [same] <;> nofun
    have length : (s.calls.set i { c with answer }).length = s.calls.length := List.length_set
    refine ⟨by simp only [Library.put, length]; exact tidy.counter, fun j d there => ?_,
      fun d member entered => ?_, fun e rest => ?_, distinct, fun j d there => ?_, nofun, nofun,
      fun j member => ?_, fun _ => rfl,
      fun released d member waiting => ?_⟩
    · rcases get_set here there with ⟨rfl, rfl⟩ | ⟨-, old⟩
      · exact (tidy.ids _ c here : c.msgId = _)
      · exact tidy.ids j d old
    · rcases List.mem_or_eq_of_mem_set member with old | rfl
      · exact tidy.fresh d old entered
      · rcases phase with same | same <;> rw [same] at entered <;> cases entered
    · obtain ⟨d, there, same⟩ := tidy.entries e (sublist.subset rest)
      exact ⟨d, (get_set_ne (gone e rest).symm).trans there, same⟩
    · simp only [Held, reduceCtorEq, exists_false, or_false]
      rw [left j]
      rcases get_set here there with ⟨rfl, rfl⟩ | ⟨apart, old⟩
      · refine iff_of_false (fun both => both.2 rfl) ?_
        rcases phase with same | same <;> simp [OpenCall.due, same, set]
      · rw [and_iff_left apart]
        exact tidy.held j d old
    · obtain ⟨d, there, refused⟩ := tidy.stale j member
      have apart : i ≠ j := by
        rintro rfl
        exact unrefused (Option.some.inj (here.symm.trans there) ▸ refused)
      exact ⟨d, (get_set_ne apart).trans there, refused⟩
    · rcases List.mem_or_eq_of_mem_set member with old | rfl
      · exact tidy.late released d old waiting
      · exact set
  have refused (phase : c.phase = .refused true) :
      Tidy first { s with stale := s.stale ++ [i], dispatcher := .idle, pending := pending } := by
    refine ⟨tidy.counter, tidy.ids, tidy.fresh, fun e rest => tidy.entries e (sublist.subset rest), distinct,
      fun j d there => ?_, nofun, nofun, ?_, fun _ => rfl, tidy.late⟩
    · simp only [Held, reduceCtorEq, exists_false, or_false]
      rw [left j, tidy.held j d there]
      by_cases own : j = i
      · subst own
        obtain rfl := Option.some.inj (here.symm.trans there)
        simp [OpenCall.due, phase]
      · simp [own]
    · exact List.forall_mem_append.mpr ⟨tidy.stale, List.forall_mem_singleton.mpr ⟨c, here, phase⟩⟩
  cases phase : c.phase with
  | entered | returned => simp [OpenCall.due, phase] at due
  | listed entry =>
    simp only [OpenCall.due, phase, Bool.and_eq_true] at due
    rw [due.1] at phase
    simp only [write, here, phase]
    exact phase ▸ running (.inl phase)
  | waiting entry =>
    simp only [OpenCall.due, phase, Bool.and_eq_true] at due
    rw [due.1] at phase
    simp only [write, here, phase]
    exact phase ▸ running (.inr phase)
  | refused entry =>
    simp only [OpenCall.due, phase, Bool.and_eq_true] at due
    rw [due.1] at phase
    simp only [write, here, phase]
    exact refused phase

section write
variable (s i) (answer : Answer)

theorem write_eq : ∃ calls stale, s.write i answer = { s with calls, stale } ∧
    calls.length = s.calls.length := by
  unfold write
  split
  · split
    · exact ⟨_, _, rfl, rfl⟩
    · exact ⟨_, _, rfl, rfl⟩
    · exact ⟨_, s.stale, rfl, List.length_set⟩
  · exact ⟨_, s.stale, rfl, rfl⟩

@[simp] theorem write_stage : (s.write i answer).stage = s.stage := by
  obtain ⟨_, _, same, -⟩ := write_eq s i answer
  rw [same]

@[simp] theorem write_receiving : (s.write i answer).receiving = s.receiving := by
  obtain ⟨_, _, same, -⟩ := write_eq s i answer
  rw [same]

@[simp] theorem write_dispatcher : (s.write i answer).dispatcher = s.dispatcher := by
  obtain ⟨_, _, same, -⟩ := write_eq s i answer
  rw [same]

@[simp] theorem write_pending : (s.write i answer).pending = s.pending := by
  obtain ⟨_, _, same, -⟩ := write_eq s i answer
  rw [same]

@[simp] theorem write_length : (s.write i answer).calls.length = s.calls.length := by
  obtain ⟨_, _, same, length⟩ := write_eq s i answer
  rw [same]
  exact length

end write

theorem step_length (made : s.step move = some s') : s.calls.length ≤ s'.calls.length := by
  unfold step at made
  split at made
  · cases made
  · cases move with
    | enter =>
      cases made
      simp
    | receive | lose | shutdown | close | finish =>
      simp only at made
      split at made <;> cases made
      exact Nat.le_refl _
    | add | send | look =>
      simp only at made
      repeat' split at made
      all_goals cases made
      all_goals simp [Library.put]
    | dispatch =>
      simp only [dispatch] at made
      split at made <;> cases made
      all_goals simp
    | release =>
      simp only at made
      split at made <;> cases made
      simp

/-- Each entry is accounted for, or the dispatcher crashes before `DllMain` has come to the end of the list. -/
def Sound (first : UInt32) (s : Library) : Prop :=
  s.Tidy first ∧ (s.stage = .released → s.receiving = false) ∨
    (s.Doomed ∨ s.crashed) ∧ s.receiving ∧ s.stage ≠ .released

theorem Tidy.dispatched (tidy : s.Tidy first) (few : s.calls.length ≤ 2 ^ 32)
    (late : s.stage = .released → s.receiving = false)
    (made : s.dispatch = some s') : s'.Sound first := by
  have busy (works : s.dispatcher ≠ .idle) : s.receiving ∧ s.stage ≠ .released := by
    have receiving : s.receiving := Bool.not_eq_false _ ▸ mt tidy.ended works
    exact ⟨receiving, fun released => by rw [late released] at receiving; cases receiving⟩
  rw [dispatch] at made
  cases now : s.dispatcher with
  | idle | crashed =>
    rw [now] at made
    cases made
  | received msg =>
    rw [now] at made
    cases made
    refine .inl ⟨⟨tidy.counter, tidy.ids, tidy.fresh, tidy.entries, tidy.distinct, fun j d there => ?_,
      fun msg' j found => ?_, nofun, tidy.stale, fun ended => ?_, tidy.late⟩, late⟩
    · rw [← tidy.held j d there]
      simp [Held, now]
    · simp only [Dispatcher.found.injEq] at found
      obtain ⟨rfl, found⟩ := found
      exact getDataPtrFromMsgId_some found
    · rw [tidy.ended ended] at now
      cases now
  | found msg data =>
    rw [now] at made
    cases made
    cases data with
    | some i => exact .inl ⟨tidy.remove few now, late⟩
    | none => exact .inr ⟨.inl ⟨msg, rfl⟩, busy (by simp [now])⟩
  | removed msg data =>
    rw [now] at made
    cases data with
    | none =>
      cases made
      exact .inr ⟨.inr rfl, busy (by simp [now])⟩
    | some i =>
      cases made
      refine .inl ⟨?_, by simpa using late⟩
      have gone := (tidy.hand msg i now).2
      have single (msg' : Received) (j : Nat) (hand : s.dispatcher = .removed msg' (some j)) : j = i := by
        rw [now] at hand
        cases hand
        rfl
      have written := tidy.written (.inr ⟨msg, now⟩) (.frame msg) rfl (.refl _) gone
        (fun e member _ => member) single
      rwa [← write_pending s i (.frame msg)] at written

theorem idle_iff : s.idle ↔ s.dispatcher = .idle := by
  unfold idle
  split
  · next now => exact iff_of_true rfl now
  · next other => exact iff_of_false nofun other

theorem Tidy.rest (tidy : s.Tidy first) (now : s.dispatcher = .idle) (dispatcher : Dispatcher Nat)
    (receiving : Bool) (stage : Unloading)
    (here : dispatcher = .idle ∨ receiving ∧ ∃ msg, dispatcher = .received msg)
    (late : stage = .released → ∀ c ∈ s.calls, c.phase = .waiting true → c.answer.isNull = false) :
    Tidy first { s with dispatcher, receiving, stage } := by
  refine ⟨tidy.counter, tidy.ids, tidy.fresh, tidy.entries, tidy.distinct, fun j d there => ?_,
    fun msg j found => ?_, fun msg j hand => ?_, tidy.stale, fun ended => ?_, late⟩
  · rw [← tidy.held j d there]
    rcases here with rfl | ⟨-, msg, rfl⟩ <;> simp [Held, now]
  · rcases here with rfl | ⟨-, msg, rfl⟩ <;> cases found
  · rcases here with rfl | ⟨-, msg, rfl⟩ <;> cases hand
  · rcases here with same | ⟨receives, -⟩
    · exact same
    · exact absurd receives (Bool.eq_false_iff.mp ended)

theorem Tidy.release (tidy : s.Tidy first) (now : s.dispatcher = .idle) (list : s.pending = e :: next) :
    Tidy first { s.write e.data .illegal with pending := next } := by
  have distinct := tidy.distinct
  rw [list, List.map_cons, List.nodup_cons] at distinct
  have apart : ∀ e' ∈ next, e'.data ≠ e.data := fun e' rest same => distinct.1 (same ▸ List.mem_map_of_mem rest)
  have sublist : List.Sublist next s.pending := list ▸ List.sublist_cons_self e next
  have others (e' : Pending Nat) (member : e' ∈ s.pending) (other : e'.data ≠ e.data) : e' ∈ next := by
    rw [list] at member
    rcases List.mem_cons.mp member with rfl | rest
    · exact absurd rfl other
    · exact rest
  have unhand (msg : Received) (j : Nat) (hand : s.dispatcher = .removed msg (some j)) : j = e.data := by
    rw [now] at hand
    cases hand
  have held : s.Held e.data := .inl ⟨e, list ▸ List.mem_cons_self, rfl⟩
  have written := tidy.written held .illegal rfl sublist apart others unhand
  rwa [← now, ← write_dispatcher s e.data .illegal] at written

/-- When the list is empty and the dispatcher has nothing in hand, each call that waits with an entry has been
answered. -/
theorem Tidy.answered (tidy : s.Tidy first) (now : s.dispatcher = .idle) (empty : s.pending = [])
    (c : OpenCall) (member : c ∈ s.calls) (waiting : c.phase = .waiting true) : c.answer.isNull = false := by
  obtain ⟨i, here⟩ := List.mem_iff_getElem?.mp member
  have unheld : ¬ s.Held i := by
    rintro (⟨e, entry, -⟩ | ⟨msg, hand⟩)
    · rw [empty] at entry
      cases entry
    · rw [now] at hand
      cases hand
  have due := mt (tidy.held i c here).mpr unheld
  simpa [OpenCall.due, waiting] using due

theorem Sound.step (sound : s.Sound first) (few : s.calls.length ≤ 2 ^ 32) (may : s.awaits move)
    (made : s.step move = some s') :
    s'.Sound first := by
  unfold Library.step at made
  split at made
  · cases made
  · next running =>
    rcases sound with ⟨tidy, late⟩ | ⟨⟨msg, doomed⟩ | crashed, receiving, stage⟩
    · cases move with
      | enter =>
        cases made
        exact .inl ⟨tidy.enter, late⟩
      | add i malloc =>
        simp only at made
        split at made
        · next here =>
          cases made
          exact .inl ⟨tidy.add here malloc, late⟩
        · cases made
      | send i sent =>
        simp only at made
        split at made
        · next here =>
          split at made
          · split at made
            · next connected =>
              cases made
              exact .inl ⟨(tidy.send here).1 connected, late⟩
            · cases made
          · cases made
            exact .inl ⟨(tidy.send here).2, late⟩
        · cases made
      | look i =>
        simp only at made
        split at made
        · next here =>
          split at made
          · cases made
          · next set =>
            cases made
            exact .inl ⟨tidy.look here (Bool.eq_false_iff.mpr set), late⟩
        · cases made
      | receive msg =>
        simp only [Bool.and_eq_true] at made
        split at made
        · next ready =>
          cases made
          obtain ⟨⟨idle, receiving⟩, -⟩ := ready
          exact .inl ⟨tidy.rest (idle_iff.mp idle) _ _ _ (.inr ⟨receiving, msg, rfl⟩) tidy.late, late⟩
        · cases made
      | lose =>
        simp only [Bool.and_eq_true] at made
        split at made
        · next ready =>
          cases made
          have idle := idle_iff.mp ready.1
          exact .inl ⟨tidy.rest idle _ _ _ (.inl idle) tidy.late, fun _ => rfl⟩
        · cases made
      | dispatch => exact tidy.dispatched few late made
      | shutdown | close =>
        simp only at made
        split at made <;> cases made
        exact .inl ⟨{ tidy with late := nofun }, nofun⟩
      | release =>
        simp only at made
        split at made
        · next stage list =>
          cases made
          have now := tidy.ended (Bool.not_eq_true' _ |>.mp may)
          exact .inl ⟨tidy.release now list, by simpa using late⟩
        · cases made
      | finish =>
        simp only at made
        split at made
        · next ready =>
          cases made
          have ended := Bool.not_eq_true' _ |>.mp may
          have now := tidy.ended ended
          exact .inl ⟨tidy.rest now _ _ _ (.inl now) fun _ => tidy.answered now ready.2, fun _ => ended⟩
        · cases made
    -- nothing but the crash follows in the dispatcher
    · cases move with
      | enter | add | send | look =>
        simp only at made
        repeat' split at made
        all_goals cases made
        all_goals exact .inr ⟨.inl ⟨msg, doomed⟩, receiving, stage⟩
      | shutdown | close =>
        simp only at made
        split at made <;> cases made
        exact .inr ⟨.inl ⟨msg, doomed⟩, receiving, nofun⟩
      | receive | lose => simp [idle, doomed] at made
      | dispatch =>
        simp only [dispatch, doomed] at made
        cases made
        exact .inr ⟨.inr rfl, receiving, stage⟩
      | release | finish =>
        rw [awaits, receiving] at may
        cases may
    · exact absurd crashed running

theorem runs_sound (runs : Runs step awaits (start first) s) (few : s.calls.length ≤ 2 ^ 32) :
    s.Sound first := by
  refine runs.invariant (P := fun s => s.calls.length ≤ 2 ^ 32 → s.Sound first)
    (fun _ => .inl ⟨start_tidy first, nofun⟩) ?_ few
  intro s move s' sound may made few
  have before := (step_length made).trans few
  exact (sound before).step before may made

/-- After the unloading exactly the calls that wait with an entry find an answer, and something has been stored
through the addresses of exactly those variables whose calls had returned unsent and whose entries have gone. -/
theorem unloaded (runs : Runs step awaits (start first) s) (few : s.calls.length ≤ 2 ^ 32)
    (stage : s.stage = .released) :
    (∀ i c entry, s.calls[i]? = some c → c.phase = .waiting entry →
        ((s.step (.look i)).isSome ↔ entry = true)) ∧
      ∀ i, i ∈ s.stale ↔ ∃ c, s.calls[i]? = some c ∧ c.phase = .refused true ∧ ∀ e ∈ s.pending, e.data ≠ i := by
  rcases runs_sound runs few with ⟨tidy, late⟩ | ⟨-, -, other⟩
  · have now := tidy.ended (late stage)
    constructor
    · intro i c entry here waiting
      have member := List.mem_of_getElem? here
      obtain ⟨msgId, phase, answer⟩ := c
      obtain rfl : phase = .waiting entry := waiting
      have looks : (s.step (.look i)).isSome ↔ answer.isNull = false := by
        cases answer <;> simp [Library.step, crashed, now, here, Answer.isNull]
      rw [looks]
      cases entry with
      | false =>
        obtain rfl : answer = .null := tidy.fresh _ member rfl
        exact iff_of_false nofun nofun
      | true => exact iff_of_true (tidy.late stage _ member rfl) rfl
    · intro i
      have held : s.Held i ↔ ∃ e ∈ s.pending, e.data = i := by simp [Held, now]
      constructor
      · intro member
        obtain ⟨c, here, refused⟩ := tidy.stale i member
        refine ⟨c, here, refused, fun e entry same => ?_⟩
        have due := (tidy.held i c here).mp (held.mpr ⟨e, entry, same⟩)
        simp [OpenCall.due, refused, member] at due
      · rintro ⟨c, here, refused, gone⟩
        have undue := mt (tidy.held i c here).mpr fun there => by
          obtain ⟨e, entry, same⟩ := held.mp there
          exact gone e entry same
        simpa [OpenCall.due, refused] using undue
  · exact absurd stage other

/-- One call waits for its answer, one was not sent, and one waits without an entry. -/
def unloading : List LibraryMove :=
  [.enter, .add 0 true, .send 0 true, .enter, .add 1 true, .send 1 false, .enter, .add 2 false, .send 2 true,
    .shutdown, .lose, .close, .release, .release, .finish]

theorem unloading_unloaded : ∃ s : Library, s.stale = [1] ∧
    (∀ i c entry, s.calls[i]? = some c → c.phase = .waiting entry →
        ((s.step (.look i)).isSome ↔ entry = true)) ∧
      ∀ i, i ∈ s.stale ↔ ∃ c, s.calls[i]? = some c ∧ c.phase = .refused true ∧ ∀ e ∈ s.pending, e.data ≠ i := by
  have ends : (unloading.foldlM (permitted step awaits) (start 0)).map
      (fun s => (s.stale, s.calls.length, s.stage)) = some ([1], 3, .released) := by decide +kernel
  obtain ⟨s, made, same⟩ := Option.map_eq_some_iff.mp ends
  obtain ⟨stale, length, stage⟩ : s.stale = [1] ∧ s.calls.length = 3 ∧ s.stage = .released := by
    simpa using same
  exact ⟨s, stale, unloaded (runs_of_moves made) (by omega) stage⟩

/-- The connection is lost, and every call that waits then without an answer does so still. -/
structure Hung (s s' : Library) : Prop where
  lost : s'.receiving = false
  idle : s'.dispatcher = .idle
  waits : ∀ (i : Nat) (c : OpenCall) (entry : Bool), s.calls[i]? = some c → c.phase = .waiting entry →
    c.answer.isNull → s'.calls[i]? = some c
  unanswered : ∀ (i : Nat) (c' : OpenCall), s'.calls[i]? = some c' →
    (∃ c : OpenCall, s.calls[i]? = some c ∧ (c.phase = .returned ∨ c.answer.isNull = false)) ∨
      c'.phase ≠ .returned ∧ (c'.answer.isNull ∨ ∃ entry, c'.phase = .refused entry)

theorem Hung.refl (lost : s.receiving = false) (idle : s.dispatcher = .idle) : Hung s s := by
  refine ⟨lost, idle, fun i c entry here _ _ => here, fun i c here => ?_⟩
  by_cases set : c.phase = .returned ∨ c.answer.isNull = false
  · exact .inl ⟨c, here, set⟩
  · simp only [not_or, Bool.not_eq_false] at set
    exact .inr ⟨set.1, .inl set.2⟩

theorem Hung.put {c c' : OpenCall} (hung : Hung s s') (here : s'.calls[i]? = some c)
    (moves : ∀ entry, c.phase = .waiting entry → c.answer.isNull = false)
    (ends : c.answer.isNull → c'.phase ≠ .returned ∧ (c'.answer.isNull ∨ ∃ entry, c'.phase = .refused entry))
    (unrefused : ∀ entry, c.phase ≠ .refused entry) : Hung s (s'.put i c') := by
  refine ⟨hung.lost, hung.idle, fun j b entry before waiting null => ?_, fun j b there => ?_⟩
  · have now := hung.waits j b entry before waiting null
    have apart : i ≠ j := by
      rintro rfl
      obtain rfl := Option.some.inj (here.symm.trans now)
      rw [moves entry waiting] at null
      cases null
    exact (get_set_ne apart).trans now
  · rcases get_set here there with ⟨rfl, rfl⟩ | ⟨-, old⟩
    · rcases hung.unanswered _ c here with answered | ⟨-, null | ⟨entry, refused⟩⟩
      · exact .inl answered
      · exact .inr (ends null)
      · exact absurd refused (unrefused entry)
    · exact hung.unanswered j b old

theorem Hung.step (hung : Hung s s') (may : s'.unreleased move) (made : s'.step move = some s'') :
    Hung s s'' := by
  unfold Library.step at made
  split at made
  · cases made
  · cases move with
    | enter =>
      cases made
      refine ⟨hung.lost, hung.idle, fun i c entry here waiting null => ?_, fun i c there => ?_⟩
      · have now := hung.waits i c entry here waiting null
        exact (List.getElem?_append_left (List.getElem?_eq_some_iff.mp now).1).trans now
      · rcases get_append there with old | ⟨rfl, rfl⟩
        · exact hung.unanswered i c old
        · exact .inr ⟨nofun, .inl rfl⟩
    | add i malloc =>
      simp only at made
      split at made
      · next msgId answer here =>
        cases made
        have put : Hung s (s'.put i ⟨msgId, .listed malloc, answer⟩) :=
          hung.put here nofun (fun null => ⟨nofun, .inl null⟩) nofun
        exact ⟨put.lost, put.idle, put.waits, put.unanswered⟩
      · cases made
    | send i sent =>
      simp only at made
      split at made
      · next here =>
        split at made
        · split at made <;> cases made
          exact hung.put here nofun (fun null => ⟨nofun, .inl null⟩) nofun
        · cases made
          exact hung.put here nofun (fun _ => ⟨nofun, .inr ⟨_, rfl⟩⟩) nofun
      · cases made
    | look i =>
      simp only at made
      split at made
      · next here =>
        split at made
        · cases made
        · next set =>
          cases made
          exact hung.put here (fun _ _ => Bool.eq_false_iff.mpr set) (fun null => absurd null set) nofun
      · cases made
    | receive | lose => simp [hung.lost] at made
    | dispatch => simp [dispatch, hung.idle] at made
    | shutdown | close | finish =>
      simp only at made
      split at made <;> cases made
      exact { hung with }
    | release => cases may

theorem runs_idle (runs : Runs step any (start first) s) (lost : s.receiving = false) :
    s.dispatcher = .idle := by
  refine runs.invariant (P := fun s => s.receiving = false → s.dispatcher = .idle) (fun _ => rfl) ?_ lost
  intro s move s' keeps _ made
  unfold Library.step at made
  split at made
  · cases made
  · cases move with
    | enter | add | send | look | shutdown | close | finish =>
      simp only at made
      repeat' split at made
      all_goals cases made
      all_goals exact keeps
    | receive =>
      simp only [Bool.and_eq_true] at made
      split at made
      · next ready =>
        cases made
        exact fun lost => absurd ready.1.2 (Bool.eq_false_iff.mp lost)
      · cases made
    | lose =>
      simp only [Bool.and_eq_true] at made
      split at made
      · next ready =>
        cases made
        exact fun _ => idle_iff.mp ready.1
      · cases made
    | dispatch =>
      intro lost
      have receiving : s'.receiving = s.receiving := by
        simp only [dispatch] at made
        split at made <;> cases made
        all_goals simp
      have now := keeps (receiving.symm.trans lost)
      simp [dispatch, now] at made
    | release =>
      simp only at made
      split at made <;> cases made
      simpa using keeps

/-- From the loss of the connection until `DllMain` goes through the list the calls that wait without an answer
stay as they are. Of all others, each had returned or had its answer before, or is refused because its request
cannot be sent, or has no answer and does not return. -/
theorem lost_hangs (runs : Runs step any (start first) s) (lost : s.receiving = false)
    (later : Runs step unreleased s s') :
    (∀ i c entry, s.calls[i]? = some c → c.phase = .waiting entry → c.answer.isNull →
        s'.calls[i]? = some c ∧ s'.step (.look i) = none) ∧
      ∀ (i : Nat) (c' : OpenCall), s'.calls[i]? = some c' →
        (∃ c : OpenCall, s.calls[i]? = some c ∧ (c.phase = .returned ∨ c.answer.isNull = false)) ∨
          (∃ entry, c'.phase = .refused entry) ∨ c'.phase ≠ .returned ∧ c'.answer.isNull := by
  have hung := later.invariant (P := Hung s) (.refl lost (runs_idle runs lost))
    fun _ _ _ hung may made => hung.step may made
  constructor
  · intro i c entry here waiting null
    have now := hung.waits i c entry here waiting null
    obtain ⟨msgId, phase, answer⟩ := c
    obtain rfl : phase = .waiting entry := waiting
    exact ⟨now, by simp_all [Library.step]⟩
  · intro i c' here
    rcases hung.unanswered i c' here with before | ⟨inside, null | refused⟩
    · exact .inl before
    · exact .inr (.inr ⟨inside, null⟩)
    · exact .inr (.inl refused)

/-- The answer never comes, and the next call is refused when the socket is closed. -/
def losing : List LibraryMove := [.enter, .add 0 true, .send 0 true, .lose]

def closing : List LibraryMove := [.shutdown, .close, .enter, .add 1 true, .send 1 false]

theorem closing_hangs : ∃ s s' : Library, s.calls = [⟨1, .waiting true, .null⟩] ∧ s'.calls.length = 2 ∧
    (∀ i c entry, s.calls[i]? = some c → c.phase = .waiting entry → c.answer.isNull →
        s'.calls[i]? = some c ∧ s'.step (.look i) = none) ∧
      ∀ (i : Nat) (c' : OpenCall), s'.calls[i]? = some c' →
        (∃ c : OpenCall, s.calls[i]? = some c ∧ (c.phase = .returned ∨ c.answer.isNull = false)) ∨
          (∃ entry, c'.phase = .refused entry) ∨ c'.phase ≠ .returned ∧ c'.answer.isNull :=
  ⟨_, _, rfl, rfl, lost_hangs (runs_of_moves (rfl : losing.foldlM (permitted step any) (start 0) = some _)) rfl
    (runs_of_moves (rfl : closing.foldlM (permitted step unreleased) _ = some _))⟩

end Library
end CapiProxy.Win32Client
