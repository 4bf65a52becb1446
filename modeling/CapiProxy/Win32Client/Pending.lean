import CapiProxy.Heaps.Headed
import CapiProxy.Traces.Throughout
import CapiProxy.Win32Client.Dispatch

/-! The list of pending requests as it lies in memory. `addToHash` and `removeFromHash` read
`hash_start` before they wait for `hash_mutex`; what they do then is done from the entry that was
the first one before. -/
namespace CapiProxy.Win32Client
open Heaps Traces

theorem removeFromHash_eq (msgId : UInt32) (list : List (Pending κ)) :
    removeFromHash msgId list = list.eraseP (·.msgId == msgId) := by
  induction list with
  | nil => rfl
  | cons queue next ih =>
    rw [removeFromHash, List.eraseP_cons, ih]
    by_cases same : queue.msgId = msgId
    · rw [if_pos same, beq_iff_eq.mpr same, cond_true]
    · rw [if_neg same, beq_eq_false_iff_ne.mpr same, cond_false]

theorem getDataPtrFromMsgId_eq (msgId : UInt32) (list : List (Pending κ)) :
    getDataPtrFromMsgId msgId list = (list.find? (·.msgId == msgId)).map (·.data) := by
  induction list with
  | nil => rfl
  | cons queue next ih =>
    rw [getDataPtrFromMsgId, ih]
    by_cases same : queue.msgId = msgId
    · rw [if_pos same, List.find?_cons, beq_iff_eq.mpr same, Option.map_some]
    · rw [if_neg same, List.find?_cons, beq_eq_false_iff_ne.mpr same]

inductive HashCall (κ : Type) where
  | add (msgId : UInt32) (data : κ)
  | remove (msgId : UInt32)

/-- The call in one piece. -/
def HashCall.apply : HashCall κ → List (Pending κ) → List (Pending κ)
  | .add msgId data, list => addToHash msgId data list
  | .remove msgId, list => removeFromHash msgId list

def applyAll (calls : List (HashCall κ)) (list : List (Pending κ)) : List (Pending κ) :=
  calls.foldl (fun list call => call.apply list) list

/-- The entries, of which each has a number of its own and `used` is the next one; `hash_start`; and
the calls that have read it and wait for the mutex, with what they read. -/
structure Hash (κ : Type) where
  entries : Heap (Pending κ)
  used : Nat
  hashStart : Option Nat
  calls : List (HashCall κ × Option Nat)
  crashed : Bool

/-- A call reads `hash_start`; a call that has read it gets the mutex and runs to its end, with
memory for an entry or without; or `getDataPtrFromMsgId` runs, which reads it under the mutex. -/
inductive HashEvent (κ : Type) where
  | sample (call : HashCall κ)
  | locked (call : Nat) (malloc : Bool)
  | lookup (msgId : UInt32)

namespace Hash
variable {κ : Type}

/-- `addToHash` under the mutex. Without memory for the first entry `hash_start` becomes null. -/
def addLocked (s : Hash κ) (msgId : UInt32) (data : κ) (queue : Option Nat) (malloc : Bool) : Hash κ :=
  match queue with
  | some queue =>
    match lastCell s.entries s.used queue with
    | none => { s with crashed := true }
    | some last =>
      if malloc then { s with entries := link s.entries last s.used ⟨msgId, data⟩, used := s.used + 1 }
      else s
  | none =>
    if malloc then
      { s with
        entries := Function.update s.entries s.used (some ⟨none, ⟨msgId, data⟩⟩)
        used := s.used + 1
        hashStart := some s.used }
    else { s with hashStart := none }

def removeLocked (s : Hash κ) (msgId : UInt32) (queue : Option Nat) : Hash κ :=
  match search s.entries (·.msgId == msgId) s.used none queue with
  | .dangling => { s with crashed := true }
  | .missing => s
  | .found prev queue cell =>
    { s with
      entries := unlink s.entries prev queue cell.next
      hashStart := if prev.isNone then cell.next else s.hashStart }

def step (s : Hash κ) : HashEvent κ → Hash κ
  | .sample call => { s with calls := s.calls ++ [(call, s.hashStart)] }
  | .locked call malloc =>
    match s.calls[call]? with
    | some (.add msgId data, queue) =>
      { s with calls := s.calls.eraseIdx call }.addLocked msgId data queue malloc
    | some (.remove msgId, queue) => { s with calls := s.calls.eraseIdx call }.removeLocked msgId queue
    | none => s
  | .lookup msgId =>
    match search s.entries (·.msgId == msgId) s.used none s.hashStart with
    | .dangling => { s with crashed := true }
    | _ => s

def start : Hash κ := ⟨fun _ => none, 0, none, [], false⟩

def run (events : List (HashEvent κ)) : Hash κ := events.foldl step start

theorem run_append (events : List (HashEvent κ)) (e : HashEvent κ) :
    run (events ++ [e]) = (run events).step e := by
  rw [run, List.foldl_append]
  rfl

/-- The calls that a step completes: `removeFromHash` when it reads null, any other call when it has the mutex,
and `addToHash` only if it has memory. -/
def completes (s : Hash κ) : HashEvent κ → List (HashCall κ)
  | .sample (.remove msgId) => if s.hashStart = none then [.remove msgId] else []
  | .locked call malloc =>
    match s.calls[call]? with
    | some (.add msgId data, _) => if malloc then [.add msgId data] else []
    | some (.remove msgId, some _) => [.remove msgId]
    | _ => []
  | _ => []

def completed : Hash κ → List (HashEvent κ) → List (HashCall κ)
  | _, [] => []
  | s, e :: later => s.completes e ++ completed (s.step e) later

theorem completed_append (s : Hash κ) (events : List (HashEvent κ)) (e : HashEvent κ) :
    s.completed (events ++ [e]) = s.completed events ++ (events.foldl step s).completes e := by
  induction events generalizing s with
  | nil => exact List.append_nil _
  | cons e' later ih =>
    rw [List.cons_append, completed, ih, completed, List.append_assoc]
    rfl

/-- The entries with `hash_start`, and the same state with others. -/
def headed (s : Hash κ) : Headed (Pending κ) := ⟨s.entries, s.used, s.hashStart⟩

def put (s : Hash κ) (l : Headed (Pending κ)) : Hash κ :=
  { s with entries := l.cells, used := l.used, hashStart := l.head }

theorem headed_find (s : Hash κ) (p : Pending κ → Bool) (start : Option Nat) :
    s.headed.find p start = search s.entries p s.used none start := rfl

theorem addLocked_head {s : Hash κ} (appended : s.headed.append ⟨msgId, data⟩ = some l) (malloc : Bool) :
    s.addLocked msgId data s.hashStart malloc = if malloc then s.put l else s := by
  cases first : s.hashStart with
  | none =>
    simp only [Headed.append, headed, first, Option.some_inj] at appended
    subst appended
    cases malloc with
    | false => simp only [addLocked, Bool.false_eq_true, if_false, ← first]
    | true => rfl
  | some head =>
    simp only [Headed.append, headed, first, Option.map_eq_some_iff] at appended
    obtain ⟨last, found, rfl⟩ := appended
    simp only [addLocked, found, put, first]

theorem removeLocked_missing {s : Hash κ} (missing : s.headed.find (·.msgId == msgId) queue = .missing) :
    s.removeLocked msgId queue = s := by
  rw [headed_find] at missing
  simp only [removeLocked, missing]

theorem removeLocked_found {s : Hash κ}
    (found : s.headed.find (·.msgId == msgId) queue = .found prev r ⟨next, a⟩) :
    s.removeLocked msgId queue = s.put (s.headed.erase prev r next) := by
  rw [headed_find] at found
  simp only [removeLocked, found]
  rfl

/-- Every entry that is not freed can be reached from `hash_start`, and no freed one was read. -/
structure Sound (s : Hash κ) : Prop where
  reached : ∀ r, s.entries r ≠ none → Reach s.entries s.hashStart r
  running : s.crashed = false

/-- A call gets the mutex when `hash_start` is no longer what the call has read. A call of
`removeFromHash` that has read null does nothing. -/
def Outdated (s : Hash κ) : HashEvent κ → Prop
  | .locked call _ =>
    match s.calls[call]? with
    | some (.add _ _, queue) => queue ≠ s.hashStart
    | some (.remove _, queue) => queue ≠ none ∧ queue ≠ s.hashStart
    | none => False
  | _ => False

/-- The entries are a list from `hash_start` on. What a call has read is the first entry, or the
entry has been freed since. -/
structure Linked (s : Hash κ) (c : List (Nat × Pending κ)) : Prop where
  chain : Chain s.entries s.hashStart c
  distinct : (refs c).Nodup
  bound : ∀ r ∈ refs c, r < s.used
  listed : ∀ r, s.entries r ≠ none → r ∈ refs c
  samples : ∀ call r, (call, some r) ∈ s.calls → r < s.used ∧ (s.hashStart = some r ∨ s.entries r = none)
  running : s.crashed = false

theorem start_linked : (start : Hash κ).Linked [] where
  chain := rfl
  distinct := List.nodup_nil
  bound := nofun
  listed _ stored := absurd rfl stored
  samples := nofun
  running := rfl

namespace Linked
variable {s : Hash κ} {c : List (Nat × Pending κ)}

theorem sound (linked : s.Linked c) : s.Sound :=
  ⟨fun r stored => linked.chain.reach (linked.listed r stored), linked.running⟩

theorem represents (linked : s.Linked c) : s.headed.Represents c :=
  ⟨linked.chain, linked.distinct, linked.bound⟩

theorem sampled (linked : s.Linked c) {call : HashCall κ} (waits : (call, some r) ∈ s.calls) :
    s.headed.Sampled r :=
  ⟨(linked.samples call r waits).1, (linked.samples call r waits).2⟩

theorem put {l : Headed (Pending κ)} {c' : List (Nat × Pending κ)} (linked : s.Linked c)
    (represents : l.Represents c') (listed : ∀ r, l.cells r ≠ none → r ∈ refs c')
    (sampled : ∀ r, s.headed.Sampled r → l.Sampled r) : (s.put l).Linked c' where
  chain := represents.chain
  distinct := represents.distinct
  bound := represents.bound
  listed := listed
  samples _ r waits := ⟨(sampled r (linked.sampled waits)).old, (sampled r (linked.sampled waits)).current⟩
  running := linked.running

theorem erase (linked : s.Linked c) (call : Nat) :
    Linked { s with calls := s.calls.eraseIdx call } c where
  chain := linked.chain
  distinct := linked.distinct
  bound := linked.bound
  listed := linked.listed
  samples other r member := linked.samples other r ((List.eraseIdx_sublist _ _).subset member)
  running := linked.running

theorem sample (linked : s.Linked c) (call : HashCall κ) :
    Linked { s with calls := s.calls ++ [(call, s.hashStart)] } c where
  chain := linked.chain
  distinct := linked.distinct
  bound := linked.bound
  listed := linked.listed
  samples other r member := by
    rcases List.mem_append.mp member with earlier | last
    · exact linked.samples other r earlier
    · have read : s.hashStart = some r := (Prod.mk.inj (List.mem_singleton.mp last)).2.symm
      exact ⟨linked.bound r (linked.chain.reach_iff.mp (.start read)), .inl read⟩
  running := linked.running

theorem add (linked : s.Linked c) (msgId : UInt32) (data : κ) (malloc : Bool) :
    ∃ c', Linked (s.addLocked msgId data s.hashStart malloc) c' ∧
      c'.map Prod.snd = if malloc then addToHash msgId data (c.map Prod.snd) else c.map Prod.snd := by
  obtain ⟨l, appended, grown⟩ := linked.represents.append ⟨msgId, data⟩
  rw [addLocked_head appended]
  cases malloc with
  | false => exact ⟨c, linked, rfl⟩
  | true =>
    refine ⟨_, linked.put grown (fun r stored => ?_) fun r sampled => sampled.append appended, ?_⟩
    · rw [refs_append, List.mem_append]
      rcases Headed.append_stored appended stored with fresh | old
      · exact .inr (List.mem_singleton.mpr fresh)
      · exact .inl (linked.listed r old)
    · simp [addToHash]

theorem remove (linked : s.Linked c) (msgId : UInt32) :
    ∃ c', Linked (s.removeLocked msgId s.hashStart) c' ∧
      c'.map Prod.snd = removeFromHash msgId (c.map Prod.snd) := by
  rcases linked.represents.find (·.msgId == msgId) with
    ⟨missing, absent⟩ | ⟨before, r, a, after, next, rfl, earlier, here, cell, found⟩
  · refine ⟨c, (removeLocked_missing missing).symm ▸ linked, ?_⟩
    rw [removeFromHash_eq, List.eraseP_of_forall_not (List.forall_mem_map.mpr (by simpa using absent))]
  · have shrunk : (s.put (s.headed.erase (refs before).getLast? r next)).Linked (before ++ after) := by
      refine linked.put (linked.represents.erase cell) (fun r' stored => ?_)
        fun r' sampled => sampled.erase next linked.represents
      obtain ⟨other, old⟩ := Headed.erase_stored stored
      have member := linked.listed r' old
      simp only [refs_append, refs_cons, List.mem_append, List.mem_cons] at member ⊢
      exact member.imp_right fun here => here.resolve_left other
    refine ⟨before ++ after, (removeLocked_found found).symm ▸ shrunk, ?_⟩
    rw [List.map_append, List.map_append, List.map_cons, removeFromHash_eq,
      List.eraseP_append_right _ (List.forall_mem_map.mpr (by simpa using earlier)),
      List.eraseP_cons, here, cond_true]

theorem lookup (linked : s.Linked c) (msgId : UInt32) :
    search s.entries (·.msgId == msgId) s.used none s.hashStart = .missing ∧
        getDataPtrFromMsgId msgId (c.map Prod.snd) = none ∨
      ∃ prev r cell, search s.entries (·.msgId == msgId) s.used none s.hashStart = .found prev r cell ∧
        getDataPtrFromMsgId msgId (c.map Prod.snd) = some cell.value.data := by
  rcases linked.represents.find (·.msgId == msgId) with
    ⟨missing, absent⟩ | ⟨before, r, a, after, next, rfl, earlier, here, -, found⟩
  · refine .inl ⟨missing, ?_⟩
    rw [getDataPtrFromMsgId_eq, List.find?_eq_none.mpr (List.forall_mem_map.mpr (by simpa using absent))]
    rfl
  · refine .inr ⟨_, r, ⟨next, a⟩, found, ?_⟩
    rw [List.map_append, List.map_cons, getDataPtrFromMsgId_eq, List.find?_append,
      List.find?_eq_none.mpr (List.forall_mem_map.mpr (by simpa using earlier)), Option.none_or,
      List.find?_cons, here, Option.map_some]

/-- What a step makes of the list, when the call that gets the mutex is not outdated: what the calls that it
completes make of it in one piece. -/
theorem step (linked : s.Linked c) (e : HashEvent κ) (current : ¬ s.Outdated e) :
    ∃ c', (s.step e).Linked c' ∧ c'.map Prod.snd = applyAll (s.completes e) (c.map Prod.snd) := by
  cases e with
  | sample call =>
    refine ⟨c, linked.sample call, ?_⟩
    cases call with
    | add => rfl
    | remove msgId =>
      simp only [completes]
      split
      · next null =>
        have empty : c = [] := List.eq_nil_iff_forall_not_mem.mpr fun entry member => by
          obtain ⟨r, reached⟩ : ∃ r, Reach s.entries s.hashStart r :=
            ⟨entry.1, linked.chain.reach (List.mem_map_of_mem member)⟩
          rw [null] at reached
          have chain : Chain s.entries none ([] : List (Nat × Pending κ)) := rfl
          exact absurd (chain.reach_iff.mp reached) List.not_mem_nil
        rw [empty]
        rfl
      · rfl
  | lookup msgId =>
    refine ⟨c, ?_, rfl⟩
    simp only [Hash.step]
    rcases linked.lookup msgId with ⟨missing, -⟩ | ⟨prev, r, cell, found, -⟩
    · rw [missing]
      exact linked
    · rw [found]
      exact linked
  | locked call malloc =>
    have erased := linked.erase call
    simp only [Outdated] at current
    simp only [Hash.step, completes]
    split at current
    · next msgId data queue waits =>
      obtain rfl := not_not.mp current
      obtain ⟨c', added, same⟩ := erased.add msgId data malloc
      simp only [waits]
      refine ⟨c', added, same.trans ?_⟩
      cases malloc <;> rfl
    · next msgId queue waits =>
      simp only [waits]
      cases queue with
      | none =>
        refine ⟨c, ?_, rfl⟩
        rw [removeLocked_missing (Headed.find_none _ _)]
        exact erased
      | some r =>
        have first : some r = s.hashStart := not_not.mp fun other => current ⟨Option.some_ne_none r, other⟩
        obtain ⟨c', removed, same⟩ := erased.remove msgId
        refine ⟨c', ?_, same⟩
        rw [first]
        exact removed
    · next none =>
      simp only [none]
      exact ⟨c, linked, rfl⟩

/-- The first entry is lost when `addToHash` takes the list for empty. -/
theorem overwritten (linked : s.Linked c) (other : none ≠ s.hashStart) (msgId : UInt32) (data : κ)
    (malloc : Bool) : ¬ (s.addLocked msgId data none malloc).Sound := by
  obtain ⟨head, first⟩ := Option.ne_none_iff_exists'.mp (Ne.symm other)
  have member := linked.chain.reach_iff.mp (.start first)
  have stored := linked.chain.stored member
  have old := Nat.ne_of_lt (linked.bound head member)
  intro sound
  cases malloc with
  | true =>
    simp only [addLocked, if_true] at sound
    have chain : Chain (Function.update s.entries s.used (some ⟨none, ⟨msgId, data⟩⟩)) (some s.used)
        [(s.used, ⟨msgId, data⟩)] := ⟨rfl, none, Function.update_self .., rfl⟩
    have kept := sound.reached head (by
      dsimp only
      rwa [Function.update_of_ne old])
    exact absurd (List.mem_singleton.mp (chain.reach_iff.mp kept)) old
  | false =>
    simp only [addLocked, Bool.false_eq_true, if_false] at sound
    have chain : Chain s.entries none ([] : List (Nat × Pending κ)) := rfl
    exact absurd (chain.reach_iff.mp (sound.reached head stored)) List.not_mem_nil

theorem not_sound (linked : s.Linked c) (e : HashEvent κ) (outdated : s.Outdated e) :
    ¬ (s.step e).Sound := by
  cases e with
  | sample call => exact outdated.elim
  | lookup msgId => exact outdated.elim
  | locked call malloc =>
    simp only [Outdated] at outdated
    simp only [Hash.step]
    split at outdated
    · next msgId data queue waits =>
      cases queue with
      | none => exact (linked.erase call).overwritten outdated msgId data malloc
      | some r =>
        have sampled := linked.sampled (List.mem_of_getElem? waits)
        obtain ⟨-, dangling⟩ := sampled.dangling (·.msgId == msgId) outdated
        simp only [headed] at dangling
        simp only [addLocked, dangling]
        exact fun sound => by cases sound.running
    · next msgId queue waits =>
      obtain ⟨given, outdated⟩ := outdated
      obtain ⟨r, rfl⟩ := Option.ne_none_iff_exists'.mp given
      have sampled := linked.sampled (List.mem_of_getElem? waits)
      obtain ⟨dangling, -⟩ := sampled.dangling (·.msgId == msgId) outdated
      rw [headed_find] at dangling
      simp only [removeLocked, dangling]
      exact fun sound => by cases sound.running
    · exact outdated.elim

end Linked
end Hash

/-- No entry is lost and no freed one is read as long as `hash_start` is still what a call has read
when the call gets the mutex; and no longer. -/
theorem pending_kept_iff (events : List (HashEvent κ)) :
    Throughout (fun before e => ((Hash.run before).step e).Sound) events ↔
      Throughout (fun before e => ¬ (Hash.run before).Outdated e) events := by
  refine throughout_iff_of_invariant (P := fun before => ∃ c, (Hash.run before).Linked c)
    ⟨[], Hash.start_linked⟩ (fun before e ⟨c, linked⟩ => ?_) (fun before e ⟨c, linked⟩ current => ?_) events
  · constructor
    · intro sound outdated
      exact linked.not_sound e outdated sound
    · intro current
      obtain ⟨c', linked', -⟩ := linked.step e current
      exact linked'.sound
  · rw [Hash.run_append]
    obtain ⟨c', linked', -⟩ := linked.step e current
    exact ⟨c', linked'⟩

/-- As long as no call is outdated, the entries in memory are the list that the calls make one after the other,
each in one piece. -/
theorem pending_listed (events : List (HashEvent κ))
    (current : Throughout (fun before e => ¬ (Hash.run before).Outdated e) events) :
    ∃ c, (Hash.run events).Linked c ∧ c.map Prod.snd = applyAll (Hash.start.completed events) [] := by
  refine current.invariant (P := fun before => ∃ c, (Hash.run before).Linked c ∧
    c.map Prod.snd = applyAll (Hash.start.completed before) []) ⟨[], Hash.start_linked, rfl⟩ ?_
  rintro before e ⟨c, linked, same⟩ current
  obtain ⟨c', linked', same'⟩ := linked.step e current
  rw [Hash.run_append, Hash.completed_append]
  refine ⟨c', linked', ?_⟩
  rw [same', same, applyAll, applyAll, applyAll, List.foldl_append]
  rfl

/-- Two threads send their first requests at the same time. -/
def twoFirst : List (HashEvent Nat) :=
  [.sample (.add 1 0), .sample (.add 2 1), .locked 0 true, .locked 0 true]

/-- The entry of the first one is lost. -/
theorem twoFirst_loses :
    ¬ Throughout (fun before e => ((Hash.run before).step e).Sound) twoFirst := by
  intro whole
  have sound := whole (twoFirst.take 3) (.locked 0 true) [] rfl
  have chain : Chain (Hash.run twoFirst).entries (some 1) [(1, ⟨2, 1⟩)] := ⟨rfl, none, rfl, rfl⟩
  have first := chain.reach_iff.mp (sound.reached 0 (Option.some_ne_none _))
  exact absurd (List.mem_singleton.mp first) (by decide)

end CapiProxy.Win32Client
