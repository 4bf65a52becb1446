import CapiProxy.Win32Client.Pending

/-! One call of `sendAndReceive`, with what the other threads do in between. The entry it makes belongs to
its own variable; the dispatcher takes it out with the answer and the call itself after a timeout, but
nobody does when the request cannot be sent. -/
namespace CapiProxy.Win32Client

/-- What is in the variable for the answer: null, `ILLEGAL_ANSWER` or the pointer to a frame. -/
inductive Answer where
  | null
  | illegal
  | frame (msg : Received)

/-- The list of pending requests, the variables of all callers and the dispatcher; `calls` logs what the
other threads have done to the list. -/
structure Shared (κ : Type) where
  pending : List (Pending κ)
  answer : κ → Answer
  dispatcher : Dispatcher κ
  calls : List (HashCall κ)

/-- What the other threads can do during a call for `msgId`: the dispatcher receives a frame or goes on
with the one it has, another caller enters its own id or gives it up. -/
inductive Other {κ : Type} (msgId : UInt32) (c : κ) where
  | receive (msg : Received)
  | dispatch
  | add (id : UInt32) (data : κ) (otherId : id ≠ msgId) (otherData : data ≠ c)
  | remove (id : UInt32) (otherId : id ≠ msgId)

/-- What a call meets: whether there is memory for its entry, the result of `send`, the number of the
timeout, and what the other threads do until `send` returns, before each look at the variable, and
before the entry is taken out after a timeout. -/
structure CallEnvironment {κ : Type} (msgId : UInt32) (c : κ) where
  malloc : Bool
  send : UInt32
  timeout : UInt32
  sending : List (Other msgId c)
  looks : List (List (Other msgId c))
  leaving : List (Other msgId c)

inductive Exit where
  | refused
  | timedOut
  | answered
  deriving DecidableEq, Repr

section lists
variable {κ : Type}

def Foreign (msgId : UInt32) (calls : List (HashCall κ)) : Prop := ∀ data, .add msgId data ∉ calls

/-- How many of the calls look for the id. -/
def removals (msgId : UInt32) (calls : List (HashCall κ)) : Nat :=
  calls.countP fun call => match call with
    | .add _ _ => false
    | .remove id => id == msgId

def entries (msgId : UInt32) (list : List (Pending κ)) : Nat := list.countP (·.msgId == msgId)

theorem entries_remove (msgId id : UInt32) (list : List (Pending κ)) :
    entries msgId (removeFromHash id list) = entries msgId list - if id = msgId then 1 else 0 := by
  induction list with
  | nil => simp [entries, removeFromHash]
  | cons queue next ih =>
    simp only [entries] at ih ⊢
    rw [removeFromHash]
    by_cases here : queue.msgId = id
    · rw [if_pos here, List.countP_cons]
      by_cases own : id = msgId
      · simp [here, own]
      · simp [here, own]
    · rw [if_neg here, List.countP_cons, List.countP_cons, ih]
      by_cases own : id = msgId
      · simp [own ▸ here, own]
      · simp [own]

theorem entries_apply (msgId : UInt32) (call : HashCall κ) (foreign : ∀ data, call ≠ .add msgId data)
    (list : List (Pending κ)) :
    entries msgId (call.apply list) = entries msgId list - removals msgId [call] := by
  cases call with
  | add id data =>
    have other : (id == msgId) = false := beq_eq_false_iff_ne.mpr fun same => foreign data (by rw [same])
    simp [entries, removals, HashCall.apply, addToHash, other]
  | remove id =>
    rw [HashCall.apply, entries_remove]
    by_cases own : id = msgId
    · simp [removals, own]
    · simp [removals, own]

theorem entries_applyAll (msgId : UInt32) (calls : List (HashCall κ)) (foreign : Foreign msgId calls)
    (list : List (Pending κ)) :
    entries msgId (applyAll calls list) = entries msgId list - removals msgId calls := by
  induction calls generalizing list with
  | nil => rfl
  | cons call calls ih =>
    have first := entries_apply msgId call (fun data here => foreign data (by simp [here])) list
    have rest := ih (fun data later => foreign data (List.mem_cons_of_mem _ later)) (call.apply list)
    have split : removals msgId (call :: calls) = removals msgId [call] + removals msgId calls := by
      rw [← List.singleton_append, removals, List.countP_append]
      rfl
    rw [applyAll, List.foldl_cons, ← applyAll, rest, first, split, Nat.sub_sub]

def others (msgId : UInt32) (list : List (Pending κ)) : List (Pending κ) :=
  list.filter (·.msgId != msgId)

theorem removeFromHash_absent {id : UInt32} {list : List (Pending κ)} (absent : ∀ e ∈ list, e.msgId ≠ id) :
    removeFromHash id list = list := by
  rw [removeFromHash_eq]
  exact List.eraseP_of_forall_not fun e member here => absent e member (beq_iff_eq.mp here)

theorem others_remove (msgId id : UInt32) (list : List (Pending κ)) :
    others msgId (removeFromHash id list) = removeFromHash id (others msgId list) := by
  induction list with
  | nil => rfl
  | cons queue next ih =>
    simp only [others] at ih ⊢
    by_cases here : queue.msgId = id
    · rw [removeFromHash, if_pos here]
      by_cases own : queue.msgId = msgId
      · rw [List.filter_cons_of_neg (by simp [own])]
        refine (removeFromHash_absent fun e member => ?_).symm
        rw [← here, own]
        simpa using (List.mem_filter.mp member).2
      · rw [List.filter_cons_of_pos (by simpa using own), removeFromHash, if_pos here]
    · rw [removeFromHash, if_neg here]
      by_cases own : queue.msgId = msgId
      · rw [List.filter_cons_of_neg (by simp [own]), List.filter_cons_of_neg (by simp [own]), ih]
      · rw [List.filter_cons_of_pos (by simpa using own), List.filter_cons_of_pos (by simpa using own),
          removeFromHash, if_neg here, ih]

theorem others_applyAll (msgId : UInt32) (calls : List (HashCall κ)) (foreign : Foreign msgId calls)
    (list : List (Pending κ)) :
    others msgId (applyAll calls list) = applyAll calls (others msgId list) := by
  induction calls generalizing list with
  | nil => rfl
  | cons call calls ih =>
    have first : others msgId (call.apply list) = call.apply (others msgId list) := by
      cases call with
      | add id data =>
        have other : id ≠ msgId := fun same => foreign data (by rw [same]; exact List.mem_cons_self)
        simp [HashCall.apply, addToHash, others, other]
      | remove id => exact others_remove msgId id list
    have rest := ih (fun data later => foreign data (List.mem_cons_of_mem _ later)) (call.apply list)
    rw [applyAll, List.foldl_cons, ← applyAll, rest, first, applyAll, applyAll, List.foldl_cons]

def Shared.call (s : Shared κ) (call : HashCall κ) : Shared κ :=
  { s with pending := call.apply s.pending, calls := s.calls ++ [call] }

structure Logged (msgId : UInt32) (s s' : Shared κ) : Prop where
  calls : ∃ calls, s'.calls = s.calls ++ calls ∧ Foreign msgId calls ∧ s'.pending = applyAll calls s.pending

namespace Logged
variable {msgId : UInt32} {s s' s'' : Shared κ}

theorem refl (s : Shared κ) : Logged msgId s s := ⟨[], (List.append_nil _).symm, fun _ => List.not_mem_nil, rfl⟩

theorem trans (first : Logged msgId s s') (second : Logged msgId s' s'') : Logged msgId s s'' := by
  obtain ⟨calls, logged, foreign, pending⟩ := first
  obtain ⟨calls', logged', foreign', pending'⟩ := second
  refine ⟨calls ++ calls', by rw [logged', logged, List.append_assoc], fun data member => ?_, ?_⟩
  · exact (List.mem_append.mp member).elim (foreign data) (foreign' data)
  · rw [pending', pending, applyAll, applyAll, applyAll, List.foldl_append]

theorem call (s : Shared κ) (call : HashCall κ) (foreign : ∀ data, call ≠ .add msgId data) :
    Logged msgId s (s.call call) :=
  ⟨[call], rfl, fun data member => foreign data (List.mem_singleton.mp member).symm, rfl⟩

theorem quiet (pending : s'.pending = s.pending) (calls : s'.calls = s.calls) : Logged msgId s s' :=
  ⟨[], by rw [calls, List.append_nil], fun _ => List.not_mem_nil, pending⟩

end Logged

/-- The list when the call returns: what the other threads have made of it, less an entry after a timeout. -/
structure Returns (msgId : UInt32) (exit : Exit) (s s' : Shared κ) : Prop where
  calls : ∃ t, Logged msgId s t ∧ s'.calls = t.calls ∧
    s'.pending = if exit = .timedOut then removeFromHash msgId t.pending else t.pending

theorem Returns.entries {msgId : UInt32} {s s' : Shared κ} (returns : Returns msgId exit s s')
    (start : s.calls = []) : entries msgId s'.pending =
      entries msgId s.pending - (removals msgId s'.calls + if exit = .timedOut then 1 else 0) := by
  obtain ⟨t, ⟨calls, log, foreign, pending⟩, log', last⟩ := returns
  rw [start, List.nil_append] at log
  rw [log', log, ← Nat.sub_sub, ← entries_applyAll msgId calls foreign, ← pending, last]
  split
  · rw [entries_remove, if_pos rfl]
  · rfl

theorem Returns.others {msgId : UInt32} {s s' : Shared κ} (returns : Returns msgId exit s s')
    (start : s.calls = []) : others msgId s'.pending = applyAll s'.calls (others msgId s.pending) := by
  obtain ⟨t, ⟨calls, log, foreign, pending⟩, log', last⟩ := returns
  rw [start, List.nil_append] at log
  rw [log', log, ← others_applyAll msgId calls foreign, ← pending, last]
  split
  · rw [others_remove, removeFromHash_absent fun e member => ?_]
    simpa using (List.mem_filter.mp member).2
  · rfl

theorem entries_eq_zero {msgId : UInt32} {list : List (Pending κ)} :
    entries msgId list = 0 ↔ ∀ e ∈ list, e.msgId ≠ msgId := by
  simp [entries, List.countP_eq_zero]

/-- No entry points to the variable of the call, and the other entries are as the other threads have left
them. -/
structure Released (msgId : UInt32) (s s' : Shared κ) : Prop where
  gone : ∀ e ∈ s'.pending, e.msgId ≠ msgId
  others : others msgId s'.pending = applyAll s'.calls (others msgId s.pending)

theorem getDataPtrFromMsgId_some {id : UInt32} {list : List (Pending κ)}
    (found : getDataPtrFromMsgId id list = some c) : ⟨id, c⟩ ∈ list := by
  rw [getDataPtrFromMsgId_eq] at found
  obtain ⟨⟨id', data⟩, first, rfl⟩ := Option.map_eq_some_iff.mp found
  have here := List.find?_some first
  obtain rfl : id' = id := beq_iff_eq.mp here
  exact List.mem_of_find?_eq_some first

end lists

variable {κ : Type} [DecidableEq κ]

def socketError : UInt32 := 0xFFFFFFFF

namespace Shared

def store (s : Shared κ) (c : κ) (answer : Answer) : Shared κ :=
  { s with answer := Function.update s.answer c answer }

/-- The dispatcher looks up the id, takes the entry out and stores the pointer. -/
def dispatch (s : Shared κ) : Shared κ :=
  match s.dispatcher with
  | .received msg => { s with dispatcher := .found msg (getDataPtrFromMsgId msg.messageId s.pending) }
  | .found msg data => { s.call (.remove msg.messageId) with dispatcher := .removed msg data }
  | .removed msg (some c) => { s.store c (.frame msg) with dispatcher := .idle }
  | .removed _ none => { s with dispatcher := .crashed }
  | .idle | .crashed => s

def step {msgId : UInt32} {c : κ} (s : Shared κ) : Other msgId c → Shared κ
  | .receive msg =>
    match s.dispatcher with
    | .idle => { s with dispatcher := .received msg }
    | _ => s
  | .dispatch => s.dispatch
  | .add id data _ _ => s.call (.add id data)
  | .remove id _ => s.call (.remove id)

def run {msgId : UInt32} {c : κ} (s : Shared κ) (events : List (Other msgId c)) : Shared κ :=
  events.foldl step s

def crashed (s : Shared κ) : Bool :=
  match s.dispatcher with
  | .crashed => true
  | _ => false

end Shared

/-- The loop that looks at the variable; `none` when the call does not return. -/
def wait {msgId : UInt32} {c : κ} (leaving : List (Other msgId c)) :
    UInt32 → List (List (Other msgId c)) → Shared κ → Option (Exit × Shared κ)
  | _, [], _ => none
  | timeout, others :: later, s =>
    let s := s.run others
    if s.crashed then none
    else
      match s.answer c with
      | .null =>
        if timeout = 0 then wait leaving 0 later s
        else if timeout - 1 = 0 then
          let s := (s.store c .illegal).run leaving
          some (.timedOut, { s with pending := removeFromHash msgId s.pending })
        else wait leaving (timeout - 1) later s
      | _ => some (.answered, s)

def sendAndReceive (msgId : UInt32) (c : κ) (env : CallEnvironment msgId c) (s : Shared κ) :
    Option (Exit × Shared κ) :=
  let s := { s.store c .null with calls := [] }
  let s := if env.malloc then { s with pending := addToHash msgId c s.pending } else s
  let s := s.run env.sending
  if s.crashed then none
  else if env.send = 0 ∨ env.send = socketError then some (.refused, s.store c .illegal)
  else wait env.leaving env.timeout env.looks s

namespace Logged
variable {msgId : UInt32}

theorem dispatch (s : Shared κ) : Logged msgId s s.dispatch := by
  unfold Shared.dispatch
  split
  · exact quiet rfl rfl
  · exact (call s (.remove _) nofun).trans (quiet rfl rfl)
  · exact quiet rfl rfl
  · exact quiet rfl rfl
  · exact refl s
  · exact refl s

theorem step {c : κ} (s : Shared κ) (e : Other msgId c) : Logged msgId s (s.step e) := by
  cases e with
  | receive msg =>
    simp only [Shared.step]
    split
    · exact quiet rfl rfl
    · exact refl s
  | dispatch => exact dispatch s
  | add id data otherId otherData =>
    refine call s (.add id data) fun data' same => otherId ?_
    injection same
  | remove id otherId => exact call s (.remove id) nofun

theorem run {c : κ} (s : Shared κ) (events : List (Other msgId c)) : Logged msgId s (s.run events) := by
  induction events generalizing s with
  | nil => exact refl s
  | cons e events ih => exact (step s e).trans (ih (s.step e))

end Logged

theorem wait_returns {msgId : UInt32} {c : κ} {leaving : List (Other msgId c)} {timeout : UInt32}
    {looks : List (List (Other msgId c))} {s s' : Shared κ}
    (returned : wait leaving timeout looks s = some (exit, s')) : Returns msgId exit s s' := by
  induction looks generalizing timeout s with
  | nil => cases returned
  | cons events later ih =>
    have logged := Logged.run s events
    have continues (timeout : UInt32) (more : wait leaving timeout later (s.run events) = some (exit, s')) :
        Returns msgId exit s s' := by
      obtain ⟨t, logged', log, pending⟩ := ih more
      exact ⟨t, logged.trans logged', log, pending⟩
    simp only [wait] at returned
    split at returned
    · cases returned
    · split at returned
      · split at returned
        · exact continues 0 returned
        · split at returned
          · cases returned
            have illegal : Logged msgId (s.run events) ((s.run events).store c .illegal) := .quiet rfl rfl
            have last := Logged.run ((s.run events).store c .illegal) leaving
            exact ⟨_, logged.trans (illegal.trans last), rfl, (if_pos rfl).symm⟩
          · exact continues _ returned
      · cases returned
        exact ⟨_, logged, rfl, rfl⟩

/-- The list and the log with which the request is sent. -/
def Shared.entered (s : Shared κ) (msgId : UInt32) (c : κ) (malloc : Bool) : Shared κ :=
  { s.store c .null with
    pending := if malloc then addToHash msgId c s.pending else s.pending
    calls := [] }

theorem sendAndReceive_eq {msgId : UInt32} {c : κ} (env : CallEnvironment msgId c) (s : Shared κ) :
    sendAndReceive msgId c env s =
      let t := (s.entered msgId c env.malloc).run env.sending
      if t.crashed then none
      else if env.send = 0 ∨ env.send = socketError then some (.refused, t.store c .illegal)
      else wait env.leaving env.timeout env.looks t := by
  unfold sendAndReceive Shared.entered
  cases env.malloc <;> rfl

theorem sendAndReceive_returns {msgId : UInt32} {c : κ} {env : CallEnvironment msgId c} {s s' : Shared κ}
    (returned : sendAndReceive msgId c env s = some (exit, s')) :
    Returns msgId exit (s.entered msgId c env.malloc) s' := by
  have logged := Logged.run (s.entered msgId c env.malloc) env.sending
  rw [sendAndReceive_eq] at returned
  dsimp only at returned
  split at returned
  · cases returned
  · split at returned
    · cases returned
      exact ⟨_, logged, rfl, rfl⟩
    · obtain ⟨t, logged', log, pending⟩ := wait_returns returned
      exact ⟨t, logged.trans logged', log, pending⟩

theorem entries_entered (msgId : UInt32) (c : κ) (malloc : Bool) (s : Shared κ) :
    entries msgId (s.entered msgId c malloc).pending = entries msgId s.pending + if malloc then 1 else 0 := by
  cases malloc <;> simp [Shared.entered, entries, addToHash]

theorem others_entered (msgId : UInt32) (c : κ) (malloc : Bool) (s : Shared κ) :
    others msgId (s.entered msgId c malloc).pending = others msgId s.pending := by
  cases malloc <;> simp [Shared.entered, others, addToHash]

/-- Neither the list nor the dispatcher knows the id or the variable of the call. -/
structure Fresh (msgId : UInt32) (c : κ) (s : Shared κ) : Prop where
  listed : ∀ e ∈ s.pending, e.msgId ≠ msgId ∧ e.data ≠ c
  found : ∀ msg, s.dispatcher ≠ .found msg (some c)
  removed : ∀ msg, s.dispatcher ≠ .removed msg (some c)

/-- The entry of the call is the only one with its id and the only one for its variable, and it is gone
when the dispatcher stores the answer. -/
structure Owned (msgId : UInt32) (c : κ) (s : Shared κ) : Prop where
  listed : ∀ e ∈ s.pending, e.msgId = msgId ↔ e.data = c
  once : entries msgId s.pending ≤ 1
  found : ∀ msg, s.dispatcher = .found msg (some c) → msg.messageId = msgId
  removed : ∀ msg, s.dispatcher = .removed msg (some c) → entries msgId s.pending = 0
  answered : s.answer c ≠ .null → entries msgId s.pending = 0

theorem Fresh.owned {msgId : UInt32} {c : κ} {s : Shared κ} (fresh : Fresh msgId c s) (malloc : Bool) :
    Owned msgId c (s.entered msgId c malloc) where
  listed e member := by
    have here : e ∈ s.pending ∨ malloc = true ∧ e = ⟨msgId, c⟩ := by
      cases malloc <;> simpa [Shared.entered, addToHash] using member
    rcases here with old | ⟨-, rfl⟩
    · exact iff_of_false (fresh.listed e old).1 (fresh.listed e old).2
    · exact iff_of_true rfl rfl
  once := by
    have none := entries_eq_zero.mpr fun e member => (fresh.listed e member).1
    rw [entries_entered, none]
    split <;> decide
  found msg here := absurd here (fresh.found msg)
  removed msg here := absurd here (fresh.removed msg)
  answered set := absurd (Function.update_self ..) set

namespace Owned
variable {msgId : UInt32} {c : κ} {s : Shared κ}

theorem dispatch (owned : Owned msgId c s) : Owned msgId c s.dispatch := by
  unfold Shared.dispatch
  split
  · next msg here =>
    refine ⟨owned.listed, owned.once, fun msg' there => ?_, nofun, owned.answered⟩
    injection there with same data
    subst same
    exact (owned.listed _ (getDataPtrFromMsgId_some data)).mpr rfl
  · next msg data here =>
    have count := entries_remove msgId msg.messageId s.pending
    refine ⟨fun e member => owned.listed e ?_, ?_, nofun, fun msg' there => ?_, fun set => ?_⟩
    · rw [Shared.call, HashCall.apply, removeFromHash_eq] at member
      exact List.mem_of_mem_eraseP member
    · exact (Nat.le_of_eq count).trans ((Nat.sub_le _ _).trans owned.once)
    · injection there with same data
      subst same data
      have once := owned.once
      refine count.trans ?_
      rw [if_pos (owned.found msg here)]
      omega
    · refine count.trans ?_
      rw [owned.answered set, Nat.zero_sub]
  · next msg c' here =>
    refine ⟨owned.listed, owned.once, nofun, nofun, fun set => ?_⟩
    by_cases own : c = c'
    · exact owned.removed msg (own ▸ here)
    · exact owned.answered (by simpa only [Shared.store, Function.update_of_ne own] using set)
  · exact ⟨owned.listed, owned.once, nofun, nofun, owned.answered⟩
  · exact owned
  · exact owned

theorem step (owned : Owned msgId c s) (e : Other msgId c) : Owned msgId c (s.step e) := by
  cases e with
  | receive msg =>
    simp only [Shared.step]
    split
    · exact ⟨owned.listed, owned.once, nofun, nofun, owned.answered⟩
    · exact owned
  | dispatch => exact owned.dispatch
  | add id data otherId otherData =>
    have count : entries msgId (addToHash id data s.pending) = entries msgId s.pending := by
      simp [entries, addToHash, otherId]
    refine ⟨fun e member => ?_, (Nat.le_of_eq count).trans owned.once, owned.found,
      fun msg here => count.trans (owned.removed msg here), fun set => count.trans (owned.answered set)⟩
    rcases List.mem_append.mp member with old | new
    · exact owned.listed e old
    · rw [List.mem_singleton.mp new]
      exact iff_of_false otherId otherData
  | remove id otherId =>
    have count : entries msgId (removeFromHash id s.pending) = entries msgId s.pending := by
      rw [entries_remove, if_neg otherId, Nat.sub_zero]
    refine ⟨fun e member => owned.listed e ?_, (Nat.le_of_eq count).trans owned.once, owned.found,
      fun msg here => count.trans (owned.removed msg here), fun set => count.trans (owned.answered set)⟩
    dsimp only [Shared.step, Shared.call, HashCall.apply] at member
    rw [removeFromHash_eq] at member
    exact List.mem_of_mem_eraseP member

theorem run (owned : Owned msgId c s) (events : List (Other msgId c)) : Owned msgId c (s.run events) := by
  induction events generalizing s with
  | nil => exact owned
  | cons e events ih => exact ih (owned.step e)

theorem wait {leaving : List (Other msgId c)} {timeout : UInt32} {looks : List (List (Other msgId c))}
    {s' : Shared κ} (owned : Owned msgId c s) (returned : wait leaving timeout looks s = some (exit, s')) :
    entries msgId s'.pending = 0 := by
  induction looks generalizing timeout s with
  | nil => cases returned
  | cons events later ih =>
    have after := owned.run events
    simp only [Win32Client.wait] at returned
    split at returned
    · cases returned
    · split at returned
      · split at returned
        · exact ih after returned
        · split at returned
          · cases returned
            obtain ⟨calls, -, foreign, pending⟩ := (Logged.run ((s.run events).store c .illegal) leaving).calls
            have left : entries msgId (((s.run events).store c .illegal).run leaving).pending ≤ 1 := by
              rw [pending, entries_applyAll msgId calls foreign]
              exact (Nat.sub_le _ _).trans after.once
            refine (entries_remove msgId msgId _).trans ?_
            rw [if_pos rfl]
            omega
          · exact ih after returned
      · next set =>
        cases returned
        exact after.answered fun null => set null

end Owned

theorem sendAndReceive_unsent {msgId : UInt32} {c : κ} {env : CallEnvironment msgId c} {s s' : Shared κ}
    (returned : sendAndReceive msgId c env s = some (exit, s'))
    (unsent : env.send = 0 ∨ env.send = socketError) :
    exit = .refused ∧ s'.calls = ((s.entered msgId c env.malloc).run env.sending).calls := by
  rw [sendAndReceive_eq] at returned
  dsimp only at returned
  rw [if_pos unsent] at returned
  split at returned
  · cases returned
  · cases returned
    exact ⟨rfl, rfl⟩

theorem sendAndReceive_released {msgId : UInt32} {c : κ} {env : CallEnvironment msgId c} {s s' : Shared κ}
    (fresh : Fresh msgId c s) (returned : sendAndReceive msgId c env s = some (exit, s'))
    (sent : ¬ (env.send = 0 ∨ env.send = socketError)) : Released msgId s s' := by
  have others := (sendAndReceive_returns returned).others rfl
  rw [others_entered] at others
  refine ⟨entries_eq_zero.mp ?_, others⟩
  rw [sendAndReceive_eq] at returned
  dsimp only at returned
  rw [if_neg sent] at returned
  split at returned
  · cases returned
  · exact ((fresh.owned env.malloc).run env.sending).wait returned

theorem released_iff_counts {msgId : UInt32} {c : κ} {env : CallEnvironment msgId c} {s s' : Shared κ}
    (returned : sendAndReceive msgId c env s = some (exit, s')) :
    Released msgId s s' ↔ entries msgId s.pending + (if env.malloc then 1 else 0) ≤
      removals msgId s'.calls + if exit = .timedOut then 1 else 0 := by
  have returns := sendAndReceive_returns returned
  have count := returns.entries rfl
  have kept := returns.others rfl
  rw [entries_entered] at count
  rw [others_entered] at kept
  constructor
  · intro released
    have none := entries_eq_zero.mpr released.gone
    omega
  · intro enough
    exact ⟨entries_eq_zero.mp (by omega), kept⟩

/-- The entry of the call goes exactly when as many entries with its id are taken out as there have been.
Where the call is new to the list, that is when it sends its request, unless there was no memory for the
entry or an answer comes before `send` has failed. -/
theorem sendAndReceive_released_iff {msgId : UInt32} {c : κ} (env : CallEnvironment msgId c)
    {s s' : Shared κ} (returned : sendAndReceive msgId c env s = some (exit, s')) :
    (Released msgId s s' ↔ entries msgId s.pending + (if env.malloc then 1 else 0) ≤
      removals msgId s'.calls + if exit = .timedOut then 1 else 0) ∧
    (Fresh msgId c s → (Released msgId s s' ↔ ¬ (env.send = 0 ∨ env.send = socketError) ∨
      env.malloc = false ∨ 0 < removals msgId ((s.entered msgId c env.malloc).run env.sending).calls)) := by
  refine ⟨released_iff_counts returned, fun fresh => ?_⟩
  by_cases unsent : env.send = 0 ∨ env.send = socketError
  · obtain ⟨rfl, calls⟩ := sendAndReceive_unsent returned unsent
    have none := entries_eq_zero.mpr fun e member => (fresh.listed e member).1
    rw [released_iff_counts returned, none, calls]
    cases env.malloc <;> simp [unsent, Nat.one_le_iff_ne_zero, Nat.pos_iff_ne_zero]
  · exact iff_of_true (sendAndReceive_released fresh returned unsent) (.inl unsent)

def Shared.initial : Shared Bool := ⟨[], fun _ => .null, .idle, []⟩

theorem initial_fresh (msgId : UInt32) (c : Bool) : Fresh msgId c .initial where
  listed _ member := absurd member List.not_mem_nil
  found _ here := nomatch here
  removed _ here := nomatch here

/-- A call whose request is answered at once, and one whose request is not sent. -/
def answeredCall : CallEnvironment 1 true :=
  ⟨true, 36, 0, [], [[.receive (.of (AnswerHeader.bytes ⟨40, 40, 0, 0, 1, 10, 0, 0, 0, 0⟩)),
    .dispatch, .dispatch, .dispatch]], []⟩

def unsentCall : CallEnvironment 1 true := ⟨true, socketError, 0, [], [], []⟩

theorem answeredCall_released : ∃ s', sendAndReceive 1 true answeredCall .initial = some (.answered, s') ∧
    Released 1 .initial s' :=
  ⟨_, rfl, ((sendAndReceive_released_iff answeredCall rfl).2 (initial_fresh 1 true)).mpr (.inl (by decide))⟩

theorem unsentCall_not_released : ∃ s', sendAndReceive 1 true unsentCall .initial = some (.refused, s') ∧
    ¬ Released 1 .initial s' := by
  refine ⟨_, rfl, fun released => ?_⟩
  exact released.gone ⟨1, true⟩ List.mem_cons_self rfl

end CapiProxy.Win32Client
