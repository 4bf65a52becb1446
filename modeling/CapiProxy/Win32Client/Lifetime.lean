import CapiProxy.Traces.Throughout
import CapiProxy.Win32Client.Applist
import Mathlib.Data.List.Perm.Basic

/-! How long an application can read a message it got from `CAPI_GET_MESSAGE`. The block belongs to the
entry of the application; without an entry it is freed before the call returns it. -/
namespace CapiProxy.Win32Client
open Heaps Traces

/-- A call in progress: it waits for its answer; it has stored its buffer through `ppCAPIMessage` and read
the first entry, and will return 0 or not; or it has left `setdata_app`. -/
inductive BufferCall where
  | get (applID : UInt32)
  | storing (applID : UInt32) (start : Option Nat) (buffer : Nat) (success : Bool)
  | stored (applID : UInt32) (buffer : Nat) (success : Bool)
  | release (applID : UInt32)
  deriving DecidableEq, Repr

/-- The list, the number of blocks that `GlobalAlloc` has returned, those that were freed, and the calls in
progress. Due are the buffers that an application has got and may still read. -/
structure Buffers where
  list : ApplList
  blocks : Nat
  freed : List Nat
  calls : List BufferCall
  due : List (UInt32 × Nat)
  detached : Bool
  crashed : Bool

/-- A call of `CAPI_REGISTER` ends with a new entry; one of `CAPI_GET_MESSAGE` or `CAPI_RELEASE` begins; one
ends with an error, which may leave a block behind; an answer is taken; `setdata_app` gets the mutex;
`CAPI_GET_MESSAGE` returns; `del_app` gets the mutex, at the end of `CAPI_RELEASE`; or an entry is taken out
when the process detaches. -/
inductive BufferEvent where
  | register (applID : UInt32)
  | get (applID : UInt32)
  | release (applID : UInt32)
  | failed (call : Nat) (leaked : Bool)
  | answered (call : Nat) (success : Bool)
  | setdata (call : Nat)
  | returned (call : Nat)
  | delete (call : Nat)
  | detach
  deriving DecidableEq, Repr

def BufferCall.buffer : BufferCall → Option Nat
  | .storing _ _ buffer _ => some buffer
  | _ => none

/-- The call is about to return a message of the application. -/
def BufferCall.keeps (applID : UInt32) : BufferCall → Bool
  | .stored id _ success => success && id == applID
  | _ => false

namespace Buffers

def start : Buffers := ⟨.empty, 0, [], [], [], false, false⟩

def apply (s : Buffers) : ApplList.Result → Buffers
  | none => { s with crashed := true }
  | some (list, freed) => { s with list, freed := s.freed ++ freed }

@[simp] theorem apply_calls (s : Buffers) (result : ApplList.Result) : (s.apply result).calls = s.calls := by
  cases result <;> rfl

@[simp] theorem apply_due (s : Buffers) (result : ApplList.Result) : (s.apply result).due = s.due := by
  cases result <;> rfl

@[simp] theorem apply_detached (s : Buffers) (result : ApplList.Result) :
    (s.apply result).detached = s.detached := by
  cases result <;> rfl

/-- A call of the application with the id begins. -/
def enter (s : Buffers) (applID : UInt32) (call : BufferCall) : Buffers :=
  { s with calls := s.calls ++ [call], due := s.due.filter (·.1 != applID) }

/-- A call gets on, or ends. -/
def move (s : Buffers) (call : Nat) (next : List BufferCall) : Buffers :=
  { s with calls := s.calls.eraseIdx call ++ next }

def step (s : Buffers) (e : BufferEvent) : Buffers :=
  if s.crashed then s
  else
    match e with
    | .register applID => s.apply (s.list.addApp applID)
    | .get applID => s.enter applID (.get applID)
    | .release applID => s.enter applID (.release applID)
    | .failed call leaked =>
      match s.calls[call]? with
      | some (.get _) => { s.move call [] with blocks := s.blocks + leaked.toNat }
      | some (.release _) => s.move call []
      | _ => s
    | .answered call success =>
      match s.calls[call]? with
      | some (.get applID) =>
        { s.move call [.storing applID s.list.head s.blocks success] with blocks := s.blocks + 1 }
      | _ => s
    | .setdata call =>
      match s.calls[call]? with
      | some (.storing applID start buffer success) =>
        (s.move call [.stored applID buffer success]).apply (s.list.setdataApp applID start buffer)
      | _ => s
    | .returned call =>
      match s.calls[call]? with
      | some (.stored applID buffer success) =>
        { s.move call [] with due := if success && !s.detached then (applID, buffer) :: s.due else s.due }
      | _ => s
    | .delete call =>
      match s.calls[call]? with
      | some (.release applID) => (s.move call []).apply (s.list.delApp applID)
      | _ => s
    | .detach => { s with due := [], detached := true }.apply s.list.getfirstApp

def run (events : List BufferEvent) : Buffers := events.foldl step start

theorem run_append (events : List BufferEvent) (e : BufferEvent) :
    run (events ++ [e]) = (run events).step e := by
  rw [run, List.foldl_append]
  rfl

/-- No freed entry has been read, no block is freed twice, and the buffers that are due are allocated. -/
structure Kept (s : Buffers) : Prop where
  running : s.crashed = false
  once : s.freed.Nodup
  allocated : ∀ x ∈ s.due, x.2 < s.blocks ∧ x.2 ∉ s.freed

/-- No message of the application is due, or about to be returned. -/
def undisturbed (s : Buffers) (applID : UInt32) : Bool :=
  s.detached || (s.due.all (·.1 != applID) && s.calls.all (! ·.keeps applID))

/-- `setdata_app` starts from what is still the first entry, or was none; it finds the id if the call is to
succeed; and neither it nor `del_app` meets the message of another call that has got it meanwhile. -/
def timely (s : Buffers) : BufferEvent → Bool
  | .setdata call =>
    match s.calls[call]? with
    | some (.storing applID start _ success) =>
      (start.isNone || start == s.list.head) &&
        (!success || s.detached || s.list.finds applID start) &&
        (!s.list.finds applID start || s.undisturbed applID)
    | _ => true
  | .delete call =>
    match s.calls[call]? with
    | some (.release applID) => s.undisturbed applID
    | _ => true
  | _ => true

end Buffers

/-- Different blocks, from those there have been. -/
structure Separate (blocks : Nat) (l : List Nat) : Prop where
  distinct : l.Nodup
  bound : ∀ b ∈ l, b < blocks

namespace Separate
variable {blocks : Nat} {l l' : List Nat}

theorem perm (h : Separate blocks l) (same : l'.Perm l) : Separate blocks l' :=
  ⟨same.nodup_iff.mpr h.distinct, fun b member => h.bound b (same.mem_iff.mp member)⟩

theorem mono (h : Separate blocks l) (more : blocks ≤ blocks') : Separate blocks' l :=
  ⟨h.distinct, fun b member => Nat.lt_of_lt_of_le (h.bound b member) more⟩

theorem alloc (h : Separate blocks l) : Separate (blocks + 1) (blocks :: l) where
  distinct := List.nodup_cons.mpr ⟨fun member => Nat.lt_irrefl _ (h.bound _ member), h.distinct⟩
  bound b member := by
    rcases List.mem_cons.mp member with rfl | old
    · exact Nat.lt_succ_self _
    · exact Nat.lt_succ_of_lt (h.bound b old)

end Separate

def buffersOf (calls : List BufferCall) : List Nat := calls.filterMap (·.buffer)

theorem buffersOf_erase {calls : List BufferCall} (here : calls[call]? = some x) :
    (buffersOf calls).Perm (x.buffer.toList ++ buffersOf (calls.eraseIdx call)) := by
  obtain ⟨inside, rfl⟩ := List.getElem?_eq_some_iff.mp here
  have moved := (List.getElem_cons_eraseIdx_perm inside).symm.filterMap (·.buffer)
  refine moved.trans (List.Perm.of_eq ?_)
  rw [List.filterMap_cons, buffersOf]
  cases (calls[call]).buffer <;> rfl

/-- Every block is held by one entry or one call, or has been freed, or nobody knows it. What a call has
read as the first entry is it still, or has been freed. -/
structure Accounts (s : Buffers) (apps : List Application) : Prop where
  lists : s.list.Lists apps
  accounted : Separate s.blocks (held apps ++ buffersOf s.calls ++ s.freed)
  samples : ∀ applID r buffer success, .storing applID (some r) buffer success ∈ s.calls → s.list.Sampled r

def Buffers.after (s : Buffers) (apps : List Application) : BufferEvent → List Application
  | .register applID => addApp applID apps
  | .setdata call =>
    match s.calls[call]? with
    | some (.storing applID start buffer _) =>
      if start = s.list.head then (setdataApp applID buffer apps).1 else apps
    | _ => apps
  | .delete call =>
    match s.calls[call]? with
    | some (.release applID) => (delApp applID apps).1
    | _ => apps
  | .detach => apps.tail
  | .get _ | .release _ | .failed _ _ | .answered _ _ | .returned _ => apps

namespace Accounts
variable {s : Buffers} {apps : List Application}

theorem apply {result : ApplList.Result} (h : Accounts s apps) (yields : s.list.Yields result apps' freed)
    (calls : List BufferCall) (fewer : ∀ call ∈ calls, call ∈ s.calls ∨ call.buffer = none)
    (moved : (held apps' ++ buffersOf calls ++ (s.freed ++ freed)).Perm
      (held apps ++ buffersOf s.calls ++ s.freed)) :
    Accounts ({ s with calls }.apply result) apps' ∧ ({ s with calls }.apply result).crashed = s.crashed := by
  obtain ⟨list, rfl, lists, kept⟩ := yields
  refine ⟨⟨lists, h.accounted.perm moved, fun applID r buffer success member => ?_⟩, rfl⟩
  rcases fewer _ member with old | none
  · exact kept r (h.samples applID r buffer success old)
  · cases none

theorem quiet {t : Buffers} (h : Accounts s apps) (list : t.list = s.list) (freed : t.freed = s.freed)
    (blocks : s.blocks ≤ t.blocks) (fewer : ∀ call ∈ t.calls, call ∈ s.calls ∨ call.buffer = none)
    (moved : (buffersOf t.calls).Perm (buffersOf s.calls)) : Accounts t apps := by
  refine ⟨list ▸ h.lists, ?_, fun applID r buffer success member => ?_⟩
  · rw [freed]
    exact (h.accounted.perm ((moved.append_left _).append_right _)).mono blocks
  · rcases fewer _ member with old | none
    · exact list ▸ h.samples applID r buffer success old
    · cases none

theorem ends (h : Accounts s apps) (here : s.calls[call]? = some x) (none : x.buffer = none) :
    Accounts (s.move call []) apps := by
  refine h.quiet rfl rfl (Nat.le_refl _) (fun c member => .inl ?_) ?_
  · rw [Buffers.move, List.append_nil] at member
    exact (List.eraseIdx_sublist _ _).subset member
  · have moved := buffersOf_erase here
    rw [none] at moved
    rw [Buffers.move, List.append_nil]
    exact moved.symm

theorem answered (h : Accounts s apps) (here : s.calls[call]? = some (.get applID)) (success : Bool) :
    Accounts { s.move call [.storing applID s.list.head s.blocks success] with blocks := s.blocks + 1 }
      apps := by
  have moved := buffersOf_erase here
  refine ⟨h.lists, ?_, fun id r buffer success' member => ?_⟩
  · refine (h.accounted.alloc).perm (List.perm_iff_count.mpr fun b => ?_)
    have count := moved.count_eq b
    simp only [Buffers.move, buffersOf, BufferCall.buffer, Option.toList_none, List.nil_append,
      List.filterMap_append, List.filterMap_cons, List.filterMap_nil, List.count_append,
      List.count_cons, List.count_nil] at count ⊢
    omega
  · rcases List.mem_append.mp member with old | new
    · exact h.samples id r buffer success' ((List.eraseIdx_sublist _ _).subset old)
    · obtain ⟨c, represents, -⟩ := h.lists
      obtain ⟨-, head, -, -⟩ := BufferCall.storing.inj (List.mem_singleton.mp new)
      exact .first represents head.symm

theorem setdata (h : Accounts s apps)
    (here : s.calls[call]? = some (.storing applID s.list.head buffer success)) :
    let t := (s.move call [.stored applID buffer success]).apply
      (s.list.setdataApp applID s.list.head buffer)
    Accounts t (setdataApp applID buffer apps).1 ∧ t.crashed = s.crashed := by
  refine h.apply (ApplList.setdataApp_yields h.lists applID buffer) _ (fun c member => ?_) ?_
  · rcases List.mem_append.mp member with old | new
    · exact .inl ((List.eraseIdx_sublist _ _).subset old)
    · rw [List.mem_singleton.mp new]
      exact .inr rfl
  · refine List.perm_iff_count.mpr fun b => ?_
    have count := (buffersOf_erase here).count_eq b
    have count' := (setdataApp_held applID buffer apps).count_eq b
    simp only [buffersOf, BufferCall.buffer, Option.toList_some, List.filterMap_append, List.filterMap_cons,
      List.filterMap_nil, List.count_append, List.count_cons, List.count_nil] at count count' ⊢
    omega

theorem delete (h : Accounts s apps) (here : s.calls[call]? = some (.release applID)) :
    let t := (s.move call []).apply (s.list.delApp applID)
    Accounts t (delApp applID apps).1 ∧ t.crashed = s.crashed := by
  refine h.apply (ApplList.delApp_yields h.lists applID) _ (fun c member => .inl ?_) ?_
  · rw [List.append_nil] at member
    exact (List.eraseIdx_sublist _ _).subset member
  · refine List.perm_iff_count.mpr fun b => ?_
    have count := (buffersOf_erase here).count_eq b
    have count' := (delApp_held applID apps).count_eq b
    simp only [buffersOf, BufferCall.buffer, Option.toList_none, List.nil_append, List.append_nil,
      List.count_append] at count count' ⊢
    omega

theorem setdata_none (h : Accounts s apps)
    (here : s.calls[call]? = some (.storing applID none buffer success)) :
    let t := (s.move call [.stored applID buffer success]).apply (s.list.setdataApp applID none buffer)
    Accounts t apps ∧ t.crashed = s.crashed := by
  have result : s.list.setdataApp applID none buffer = some (s.list, [buffer]) := by
    simp only [ApplList.setdataApp, Headed.find_none]
  refine h.apply ⟨s.list, result, h.lists, fun r => id⟩ _ (fun c member => ?_) ?_
  · rcases List.mem_append.mp member with old | new
    · exact .inl ((List.eraseIdx_sublist _ _).subset old)
    · rw [List.mem_singleton.mp new]
      exact .inr rfl
  · refine List.perm_iff_count.mpr fun b => ?_
    have count := (buffersOf_erase here).count_eq b
    simp only [buffersOf, BufferCall.buffer, Option.toList_some, List.filterMap_append, List.filterMap_cons,
      List.filterMap_nil, List.count_append, List.count_cons, List.count_nil] at count ⊢
    omega

theorem detach (h : Accounts s apps) :
    let t := { s with due := [], detached := true }.apply s.list.getfirstApp
    Accounts t apps.tail ∧ t.crashed = s.crashed := by
  have same : Accounts { s with due := [], detached := true } apps := ⟨h.lists, h.accounted, h.samples⟩
  refine same.apply (ApplList.getfirstApp_yields h.lists) s.calls (fun c => .inl) ?_
  refine List.perm_iff_count.mpr fun b => ?_
  cases apps with
  | nil => simp [held]
  | cons app apps =>
    cases data : app.data with
    | none => simp [held, data]
    | some block =>
      simp only [held, data, List.tail_cons, List.take_succ_cons, List.take_zero, List.filterMap_cons,
        List.filterMap_nil, List.count_append, List.count_cons, List.count_nil, List.cons_append]
      omega

theorem step (h : Accounts s apps) (running : s.crashed = false) (e : BufferEvent) :
    (Accounts (s.step e) (s.after apps e) ∧ (s.step e).crashed = false) ∨
      s.timely e = false ∧ (s.step e).crashed = true ∧ (s.step e).freed = s.freed := by
  have live : ¬ s.crashed = true := by simp [running]
  simp only [Buffers.step, if_neg live]
  cases e with
  | register applID =>
    have added := h.apply (ApplList.addApp_yields h.lists applID) s.calls (fun c => .inl)
      (by simp [held, addApp])
    exact .inl ⟨added.1, added.2.trans running⟩
  | get applID | release applID =>
    refine .inl ⟨h.quiet rfl rfl (Nat.le_refl _) (fun c member => ?_) ?_, running⟩
    · exact (List.mem_append.mp member).imp_right fun new => by rw [List.mem_singleton.mp new]; rfl
    · simp [Buffers.enter, buffersOf, BufferCall.buffer]
  | failed call leaked =>
    simp only [Buffers.after]
    split
    · next applID here =>
      have ended := h.ends here rfl
      exact .inl ⟨ended.quiet rfl rfl (Nat.le_add_right _ _) (fun c => .inl) (.refl _), running⟩
    · next applID here => exact .inl ⟨h.ends here rfl, running⟩
    · exact .inl ⟨h, running⟩
  | answered call success =>
    simp only [Buffers.after]
    split
    · next applID here => exact .inl ⟨h.answered here success, running⟩
    · exact .inl ⟨h, running⟩
  | setdata call =>
    simp only [Buffers.after, Buffers.timely]
    split
    · next applID start buffer success here =>
      by_cases current : start = s.list.head
      · subst current
        rw [if_pos rfl]
        exact .inl ⟨(h.setdata here).1, (h.setdata here).2.trans running⟩
      · rw [if_neg current]
        cases start with
        | none => exact .inl ⟨(h.setdata_none here).1, (h.setdata_none here).2.trans running⟩
        | some r =>
          have sampled := h.samples applID r buffer success (List.mem_of_getElem? here)
          obtain ⟨dangling, -⟩ := sampled.dangling (·.applID == applID) current
          have result : s.list.setdataApp applID (some r) buffer = none := by
            simp only [ApplList.setdataApp, dangling]
          have late : (some r == s.list.head) = false := beq_eq_false_iff_ne.mpr current
          refine .inr ⟨by simp [late], ?_, ?_⟩ <;> rw [result] <;> rfl
    · exact .inl ⟨h, running⟩
  | returned call =>
    simp only [Buffers.after]
    split
    · next applID buffer success here =>
      exact .inl ⟨(h.ends here rfl).quiet rfl rfl (Nat.le_refl _) (fun c => .inl) (.refl _), running⟩
    · exact .inl ⟨h, running⟩
  | delete call =>
    simp only [Buffers.after]
    split
    · next applID here => exact .inl ⟨(h.delete here).1, (h.delete here).2.trans running⟩
    · exact .inl ⟨h, running⟩
  | detach => exact .inl ⟨h.detach.1, h.detach.2.trans running⟩

end Accounts

/-- The buffer that is due, or about to be returned, is that of the first entry of its application. -/
structure Due (s : Buffers) (apps : List Application) : Prop where
  due : ∀ x ∈ s.due, getdataApp x.1 apps = some x.2
  stored : s.detached = false → ∀ applID buffer, .stored applID buffer true ∈ s.calls →
    getdataApp applID apps = some buffer
  ended : s.detached = true → s.due = []

namespace Due
variable {s t : Buffers} {apps apps' : List Application}

theorem kept (due : Due s apps) (h : Accounts s apps) (running : s.crashed = false) : s.Kept := by
  have distinct := List.nodup_append.mp h.accounted.distinct
  refine ⟨running, distinct.2.1, fun x member => ?_⟩
  have mine : x.2 ∈ held apps ++ buffersOf s.calls :=
    List.mem_append_left _ (getdataApp_held (due.due x member))
  exact ⟨h.accounted.bound _ (List.mem_append_left _ mine), fun freed => distinct.2.2 _ mine _ freed rfl⟩

theorem fewer (h : Due s apps) (less : ∀ x ∈ t.due, x ∈ s.due) (detached : t.detached = s.detached)
    (due : s.detached = false → ∀ x ∈ s.due, getdataApp x.1 apps' = some x.2)
    (stored : s.detached = false → ∀ applID buffer, .stored applID buffer true ∈ t.calls →
      getdataApp applID apps' = some buffer) : Due t apps' where
  due x member := by
    cases ended : s.detached with
    | false => exact due ended x (less x member)
    | true =>
      have none := less x member
      rw [h.ended ended] at none
      cases none
  stored more := stored (detached ▸ more)
  ended more := List.eq_nil_iff_forall_not_mem.mpr fun x member => by
    have none := less x member
    rw [h.ended (detached ▸ more)] at none
    cases none

theorem quiet (h : Due s apps) (less : ∀ x ∈ t.due, x ∈ s.due) (detached : t.detached = s.detached)
    (calls : ∀ applID buffer, .stored applID buffer true ∈ t.calls → .stored applID buffer true ∈ s.calls) :
    Due t apps :=
  h.fewer less detached (fun _ => h.due) fun more applID buffer member =>
    h.stored more applID buffer (calls applID buffer member)

theorem of_move {call : Nat} {next : List BufferCall}
    (member : .stored applID buffer true ∈ (s.move call next).calls) :
    .stored applID buffer true ∈ s.calls ∨ .stored applID buffer true ∈ next :=
  (List.mem_append.mp member).imp_left fun old => (List.eraseIdx_sublist _ _).subset old

theorem apart (undisturbed : s.undisturbed applID = true) (more : s.detached = false)
    (kept : (other, buffer) ∈ s.due ∨ .stored other buffer true ∈ s.calls) : other ≠ applID := by
  simp only [Buffers.undisturbed, more, Bool.false_or, Bool.and_eq_true, List.all_eq_true] at undisturbed
  rcases kept with due | stored
  · simpa using undisturbed.1 _ due
  · simpa [BufferCall.keeps] using undisturbed.2 _ stored

theorem setdata (h : Accounts s apps) (due : Due s apps)
    (here : s.calls[call]? = some (.storing applID start buffer success))
    (timely : s.timely (.setdata call) = true) :
    Due ((s.move call [.stored applID buffer success]).apply (s.list.setdataApp applID start buffer))
      (if start = s.list.head then (setdataApp applID buffer apps).1 else apps) := by
  simp only [Buffers.timely, here, Bool.and_eq_true, Bool.or_eq_true, Bool.not_eq_true',
    Option.isNone_iff_eq_none, beq_iff_eq] at timely
  obtain ⟨⟨first, succeeds⟩, undisturbed⟩ := timely
  have calls (id : UInt32) (b : Nat) (member : .stored id b true ∈
      ((s.move call [.stored applID buffer success]).apply (s.list.setdataApp applID start buffer)).calls) :
      .stored id b true ∈ s.calls ∨ id = applID ∧ b = buffer ∧ success = true := by
    rw [Buffers.apply_calls] at member
    refine (of_move member).imp_right fun new => ?_
    obtain ⟨rfl, rfl, rfl⟩ := BufferCall.stored.inj (List.mem_singleton.mp new)
    exact ⟨rfl, rfl, rfl⟩
  cases found : s.list.finds applID start with
  | false =>
    -- nothing is replaced, and the call does not succeed
    have same : (if start = s.list.head then (setdataApp applID buffer apps).1 else apps) = apps := by
      split
      · next current =>
        rw [current, ← Bool.not_eq_true, ApplList.finds_iff h.lists] at found
        rw [setdataApp_absent fun app member same => found (List.mem_map.mpr ⟨app, member, same⟩)]
      · rfl
    rw [same]
    refine due.fewer (by simp [Buffers.move]) (by simp [Buffers.move]) (fun _ => due.due)
      fun more id b member => ?_
    rcases calls id b member with old | ⟨-, -, rfl⟩
    · exact due.stored more id b old
    · simp [found, more] at succeeds
  | true =>
    have current : start = s.list.head := first.resolve_left fun none => by
      subst none
      simp [ApplList.finds] at found
    subst current
    have listed := (ApplList.finds_iff h.lists applID).mp found
    have undisturbed := undisturbed.resolve_left (by simp [found])
    rw [if_pos rfl]
    refine due.fewer (by simp [Buffers.move]) (by simp [Buffers.move]) (fun more x member => ?_)
      fun more id b member => ?_
    · rw [getdataApp_set_other (apart undisturbed more (.inl member))]
      exact due.due x member
    · rcases calls id b member with old | ⟨rfl, rfl, -⟩
      · rw [getdataApp_set_other (apart undisturbed more (.inr old))]
        exact due.stored more id b old
      · exact getdataApp_set listed b

/-- A timely event keeps what is due where it is. -/
theorem step (h : Accounts s apps) (due : Due s apps) (running : s.crashed = false) (e : BufferEvent)
    (timely : s.timely e = true) : Due (s.step e) (s.after apps e) := by
  have live : ¬ s.crashed = true := by simp [running]
  simp only [Buffers.step, if_neg live]
  cases e with
  | register applID =>
    refine due.fewer (by simp) (by simp) (fun _ x member => getdataApp_add applID (due.due x member))
      fun more id b member => ?_
    rw [Buffers.apply_calls] at member
    exact getdataApp_add applID (due.stored more id b member)
  | get applID | release applID =>
    refine due.quiet (fun x member => (List.mem_filter.mp member).1) rfl fun id b member => ?_
    exact (List.mem_append.mp member).resolve_right fun new => by cases List.mem_singleton.mp new
  | failed call leaked =>
    simp only [Buffers.after]
    split
    · exact due.quiet (fun x => id) rfl fun id b member => (of_move member).resolve_right List.not_mem_nil
    · exact due.quiet (fun x => id) rfl fun id b member => (of_move member).resolve_right List.not_mem_nil
    · exact due
  | answered call success =>
    simp only [Buffers.after]
    split
    · refine due.quiet (fun x => id) rfl fun id b member => ?_
      exact (of_move member).resolve_right fun new => by cases List.mem_singleton.mp new
    · exact due
  | setdata call =>
    simp only [Buffers.after]
    split
    · next applID start buffer success here => exact due.setdata h here timely
    · exact due
  | returned call =>
    simp only [Buffers.after]
    split
    · next applID buffer success here =>
      have mine := List.mem_of_getElem? here
      have calls (id : UInt32) (b : Nat) (member : .stored id b true ∈ s.calls.eraseIdx call ++ []) :
          .stored id b true ∈ s.calls := (of_move member).resolve_right List.not_mem_nil
      cases success with
      | false => exact due.quiet (fun x => id) rfl calls
      | true =>
        cases ended : s.detached with
        | true => exact due.quiet (by simp) rfl calls
        | false =>
          refine ⟨fun x member => ?_, fun _ id b member => due.stored ended id b (calls id b member),
            fun more => absurd more (by simp [Buffers.move, ended])⟩
          simp only [Bool.not_false, Bool.and_self, if_true] at member
          rcases List.mem_cons.mp member with rfl | old
          · exact due.stored ended applID buffer mine
          · exact due.due x old
    · exact due
  | delete call =>
    simp only [Buffers.after]
    simp only [Buffers.timely] at timely
    split
    · next applID here =>
      simp only [here] at timely
      refine due.fewer (by simp [Buffers.move]) (by simp [Buffers.move]) (fun more x member => ?_)
        fun more id b member => ?_
      · rw [getdataApp_del_other (apart timely more (.inl member))]
        exact due.due x member
      · rw [Buffers.apply_calls] at member
        have old := (of_move member).resolve_right List.not_mem_nil
        rw [getdataApp_del_other (apart timely more (.inr old))]
        exact due.stored more id b old
    · exact due
  | detach =>
    exact ⟨fun x member => by simp at member, fun more => absurd more (by simp), fun _ => by simp⟩

end Due

theorem start_accounts : Accounts .start [] where
  lists := ⟨[], Headed.empty_represents, rfl⟩
  accounted := ⟨List.nodup_nil, nofun⟩
  samples _ _ _ _ := nofun

theorem start_due : Due .start [] := ⟨nofun, fun _ _ _ => nofun, nofun⟩

/-- No block is freed twice, whatever the calls do. -/
theorem freed_once (events : List BufferEvent) : (Buffers.run events).freed.Nodup := by
  suffices whole : (Buffers.run events).freed.Nodup ∧
      ((Buffers.run events).crashed = false → ∃ apps, Accounts (Buffers.run events) apps) from whole.1
  induction events using List.reverseRecOn with
  | nil => exact ⟨List.nodup_nil, fun _ => ⟨[], start_accounts⟩⟩
  | append_singleton before e ih =>
    rw [Buffers.run_append]
    cases crashed : (Buffers.run before).crashed with
    | true =>
      rwa [show (Buffers.run before).step e = Buffers.run before from if_pos crashed]
    | false =>
      obtain ⟨apps, h⟩ := ih.2 crashed
      rcases h.step crashed e with ⟨h', -⟩ | ⟨-, crash, freed⟩
      · exact ⟨(List.nodup_append.mp h'.accounted.distinct).2.1, fun _ => ⟨_, h'⟩⟩
      · exact ⟨freed ▸ ih.1, fun running => absurd crash (by simp [running])⟩

/-- In a run of timely events, what an application has got stays allocated until its next call. -/
theorem buffers_kept (events : List BufferEvent)
    (timely : Throughout (fun before e => (Buffers.run before).timely e = true) events) :
    ∀ reached, reached <+: events → (Buffers.run reached).Kept := by
  rintro reached ⟨rest, rfl⟩
  have early : Throughout (fun before e => (Buffers.run before).timely e = true) reached :=
    fun before e after split => timely before e (after ++ rest) (by simp [split])
  obtain ⟨apps, h, due, running⟩ := early.invariant
    (P := fun before => ∃ apps, Accounts (Buffers.run before) apps ∧ Due (Buffers.run before) apps ∧
      (Buffers.run before).crashed = false) ⟨[], start_accounts, start_due, rfl⟩
    fun before e ⟨apps, h, due, running⟩ now => by
      rw [Buffers.run_append]
      have next := (h.step running e).resolve_right fun late => by simp [now] at late
      exact ⟨_, next.1, due.step h running e now, next.2⟩
  exact due.kept h running

/-- The second message takes the place of the first one when its application has asked for it. -/
theorem two_messages_kept :
    (Buffers.run [.register 5, .get 5, .answered 0 true, .setdata 0, .returned 0, .get 5, .answered 0 true,
      .setdata 0, .returned 0]).Kept :=
  buffers_kept _ (by decide +kernel) _ (List.prefix_refl _)

/-- A message for an application without an entry. -/
def unlisted : List BufferEvent := [.get 5, .answered 0 true, .setdata 0, .returned 0]

/-- The message has been freed when the application gets it. -/
theorem unlisted_not_kept : (Buffers.run unlisted).due = [(5, 0)] ∧ (Buffers.run unlisted).freed = [0] ∧
    ¬ (Buffers.run unlisted).Kept := by
  have due : (Buffers.run unlisted).due = [(5, 0)] := by decide
  have freed : (Buffers.run unlisted).freed = [0] := by decide
  refine ⟨due, freed, fun kept => ?_⟩
  have allocated := kept.allocated (5, 0) (by rw [due]; exact List.mem_singleton_self _)
  rw [freed] at allocated
  exact allocated.2 (List.mem_singleton_self _)

end CapiProxy.Win32Client
