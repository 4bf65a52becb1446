import CapiProxy.LinuxServer.Service
import CapiProxy.Ownership.Partition
import CapiProxy.Ownership.Tenants
import CapiProxy.Traces.Throughout

/-! What the handlers own. Each has the array that `fork` copied for it, so the arrays partition the
applications of the CAPI as long as nobody releases what another handler has registered. `release_all`
runs when a connection ends, but not when a signal ends the handler. -/
namespace CapiProxy.LinuxServer
open Bytes Ownership Traces

namespace Service

/-- A release that succeeds is for no application of another handler, and `release_all` gets what it
takes off the array released. -/
def Keeps (m : Machine) (v : Service) : Occurrence → Prop
  | .receive k bytes => ∀ call reply, (v.step m (.receive k bytes)).history = v.history ++ [(call, reply)] →
    ∀ app, CapiEvent.released (call, reply) = some app → ∀ j ≠ k, app ∉ v.owns m j
  | .release k => ∀ call reply, (v.step m (.release k)).history = v.history ++ [(call, reply)] → reply.code = 0
  | _ => True

/-- The arrays of different handlers are disjoint and together mark what is registered; a handler that
has exited marks nothing. -/
structure Accounted (m : Machine) (v : Service) : Prop where
  owned : Partitions (v.owns m) (registered v.history)
  exited : ∀ h ∈ v.handlers, h.phase = .exited → marked m.maxAppl h.registeredApps = ∅

/-- The CAPI has only registered admitted ids. -/
def Positive (v : Service) : Prop := ∀ app ∈ registered v.history, 1 ≤ app.toNat

section steps
variable {m : Machine} {v : Service} {k : Nat} {h : HandlerProcess}

theorem positive_append (free : m.capi.HandsOutFree m.maxAppl) (positive : v.Positive) (call : CapiCall) :
    ∀ app ∈ registered (v.history ++ [(call, m.capi v.history call)]), 1 ≤ app.toNat := by
  intro app member
  rw [registered_append] at member
  rcases member with gained | ⟨kept, -⟩
  · exact Ledger.gained_positive (free.stores v.history call) gained
  · exact positive app kept

theorem step_positive (free : m.capi.HandsOutFree m.maxAppl) (positive : v.Positive) (o : Occurrence) :
    (v.step m o).Positive := by
  rw [Positive]
  cases v.step_did m o with
  | nothing _ _ history => rwa [history]
  | asked _ _ _ _ _ _ history | released _ _ _ history | woken _ _ history =>
    rw [history]
    exact positive_append free positive _

theorem asked_owned_iff (free : m.capi.HandsOutFree m.maxAppl)
    (owned : Partitions (v.owns m) (registered v.history)) (here : v.handlers[k]? = some h) (call : CapiCall)
    (stale : UInt32) :
    let event : CapiEvent := (call, m.capi v.history call)
    Partitions (Function.update (v.owns m) k (marked m.maxAppl (record stale h.registeredApps event)))
        (registered (v.history ++ [event])) ↔
      ∀ app, event.released = some app → ∀ j ≠ k, app ∉ v.owns m j := by
  intro event
  have array : marked m.maxAppl (record stale h.registeredApps event) =
      event.gained ∪ (v.owns m k \ event.lost) := by
    rw [marked_record event (free.stores v.history call), owns_here here]
  rw [array, registered_append]
  constructor
  · intro after app released j other there
    have still : app ∈ Function.update (v.owns m) k (event.gained ∪ (v.owns m k \ event.lost)) j := by
      rwa [Function.update_of_ne other]
    rcases after.mem_iff.mpr ⟨j, still⟩ with gained | ⟨-, kept⟩
    · have registers : event.registered = some app := gained
      cases call <;> first | cases registers | cases released
    · exact kept released
  · intro mine
    have own : event.lost ∩ registered v.history ⊆ v.owns m k := by
      rintro app ⟨lost, there⟩
      obtain ⟨j, owner⟩ := owned.mem_iff.mp there
      by_cases same : j = k
      · exact same ▸ owner
      · exact absurd owner (mine app lost j same)
    have all : registered v.history \ event.lost =
        registered v.history \ (event.lost ∩ registered v.history) := by
      rw [Set.inter_comm, Set.sdiff_self_inter]
    have part : v.owns m k \ event.lost = v.owns m k \ (event.lost ∩ registered v.history) := by
      ext app
      refine and_congr_right fun member => not_congr (iff_self_and.mpr fun _ => ?_)
      exact owned.mem_iff.mpr ⟨k, member⟩
    rw [all, part]
    refine owned.step k _ _ (free.gained_free v.history call) own (by rw [Function.update_self]) ?_
    intro j other
    rw [Function.update_of_ne other]

/-- A failed release leaves an application registered that no array marks any more. -/
theorem released_owned_iff (free : m.capi.HandsOutFree m.maxAppl)
    (owned : Partitions (v.owns m) (registered v.history)) (mine : app ∈ v.owns m k) :
    let reply := m.capi v.history (.release app)
    Partitions (Function.update (v.owns m) k (v.owns m k \ {app}))
        (registered (v.history ++ [(.release app, reply)])) ↔ reply.code = 0 := by
  intro reply
  rw [registered_append]
  constructor
  · intro after
    by_contra failed
    have kept : app ∉ CapiEvent.lost (.release app, reply) := by
      simp [CapiEvent.lost, CapiEvent.released, failed]
    obtain ⟨j, owner⟩ := after.mem_iff.mp (.inr ⟨owned.mem_iff.mpr ⟨k, mine⟩, kept⟩)
    by_cases same : j = k
    · subst same
      rw [Function.update_self] at owner
      exact owner.2 rfl
    · rw [Function.update_of_ne same] at owner
      exact owned.not_mem_of_ne mine same owner
  · intro success
    have lost : CapiEvent.lost (.release app, reply) = {app} := by
      ext other
      simp [CapiEvent.lost, CapiEvent.released, success, eq_comm]
    rw [lost]
    refine owned.step k _ _ (free.gained_free v.history (.release app)) ?_ ?_ fun j other => ?_
    · exact Set.singleton_subset_iff.mpr mine
    · rw [Function.update_self]
      simp [CapiEvent.gained, CapiEvent.registered]
    · rw [Function.update_of_ne other]

theorem step_owned_iff (free : m.capi.HandsOutFree m.maxAppl)
    (owned : Partitions (v.owns m) (registered v.history)) (o : Occurrence) :
    Partitions ((v.step m o).owns m) (registered (v.step m o).history) ↔ v.Keeps m o := by
  have silent (same : (v.step m o).history = v.history) (call : CapiCall) (reply : CapiReply) :
      (v.step m o).history ≠ v.history ++ [(call, reply)] := by
    rw [same]
    exact fun longer => List.cons_ne_nil _ _ (List.append_right_eq_self.mp longer.symm)
  have added (call call' : CapiCall) (reply reply' : CapiReply)
      (history : (v.step m o).history = v.history ++ [(call, reply)])
      (history' : (v.step m o).history = v.history ++ [(call', reply')]) : call' = call ∧ reply' = reply := by
    rw [history, List.append_cancel_left_eq, List.cons.injEq, Prod.mk.injEq] at history'
    exact ⟨history'.1.1.symm, history'.1.2.symm⟩
  cases v.step_did m o with
  | nothing _ owns history =>
    rw [owns, history]
    refine iff_of_true owned ?_
    cases o <;> first | trivial | exact fun call reply longer => absurd longer (silent history call reply)
  | asked k bytes h call stale here history owns =>
    rw [owns, history]
    refine (asked_owned_iff free owned here call stale).trans ⟨?_, ?_⟩
    · intro mine call' reply' history'
      obtain ⟨rfl, rfl⟩ := added call call' _ reply' history history'
      exact mine
    · intro keeps
      exact keeps call _ history
  | released k app mine history owns =>
    rw [owns, history]
    refine (released_owned_iff free owned mine).trans ⟨?_, ?_⟩
    · intro success call' reply' history'
      obtain ⟨-, rfl⟩ := added _ call' _ reply' history history'
      exact success
    · intro keeps
      exact keeps _ _ history
  | woken l app history owns =>
    rw [owns, history, registered_append]
    refine iff_of_true ?_ trivial
    simpa [CapiEvent.gained, CapiEvent.lost, CapiEvent.registered, CapiEvent.released] using owned

theorem set_exited (exited : ∀ h ∈ v.handlers, h.phase = .exited → marked m.maxAppl h.registeredApps = ∅)
    (h' : HandlerProcess) (here : h'.phase = .exited → marked m.maxAppl h'.registeredApps = ∅) :
    ∀ h ∈ v.handlers.set k h', h.phase = .exited → marked m.maxAppl h.registeredApps = ∅ := by
  intro h member
  rcases List.mem_or_eq_of_mem_set member with old | rfl
  · exact exited h old
  · exact here

theorem marked_of_stop (accounted : v.Accounted m) (positive : v.Positive) (here : v.handlers[k]? = some h)
    (stop : releaseFirst (h.environment m k) (h.session v.history) = none) :
    marked m.maxAppl h.registeredApps = ∅ := by
  refine Set.eq_empty_of_forall_notMem fun app member => ?_
  have registered := accounted.owned.mem_iff.mpr ⟨k, by rwa [owns_here here]⟩
  have cell : app.toNat ∈ markedCells (h.environment m k) (h.session v.history) := by
    refine mem_markedCells.mpr ⟨⟨positive app registered, ?_⟩, member.2⟩
    show app.toNat ≤ (m.environment k).maxAppl
    rw [m.maxAppl_shared]
    exact member.1
  rw [releaseFirst_none stop] at cell
  cases cell

theorem step_exited (accounted : v.Accounted m) (positive : v.Positive) (o : Occurrence) :
    ∀ h ∈ (v.step m o).handlers, h.phase = .exited → marked m.maxAppl h.registeredApps = ∅ := by
  have exited := accounted.exited
  cases o with
  | receive k bytes =>
    simp only [step]
    split
    · next h here =>
      split
      · next serving => exact set_exited exited _ fun exit => by cases serving.symm.trans exit
      · exact exited
    · exact exited
  | release k =>
    simp only [step]
    split
    · next h here =>
      split
      · next releasing =>
        split
        · next stop =>
          have empty := marked_of_stop accounted positive here stop
          exact set_exited exited _ fun _ => empty
        · exact set_exited exited _ fun exit => by cases releasing.symm.trans exit
      · exact exited
    · exact exited
  | accept forks =>
    have entered : ∀ h ∈ v.handlers ++ [.start m (v.sessionID + 1)], h.phase = .exited →
        marked m.maxAppl h.registeredApps = ∅ := by
      intro h member gone
      rcases List.mem_append.mp member with old | new
      · exact exited h old gone
      · rw [List.mem_singleton.mp new] at gone
        cases gone
    simp only [step]
    repeat' split
    all_goals assumption
  | hangup k =>
    simp only [step]
    repeat' split
    all_goals first | exact exited | exact set_exited exited _ fun exit => by cases exit
  | kill k signal =>
    simp only [step]
    repeat' split
    all_goals first | exact exited | exact set_exited exited _ fun exit => by cases exit
  | wake | interrupt | dismiss =>
    simp only [step]
    split <;> exact exited
  | refuse => exact exited

/-- The step: what a process may do to keep the account. -/
theorem step_accounted_iff (free : m.capi.HandsOutFree m.maxAppl) (accounted : v.Accounted m)
    (positive : v.Positive) (o : Occurrence) : (v.step m o).Accounted m ↔ v.Keeps m o := by
  rw [← step_owned_iff free accounted.owned]
  exact ⟨fun after => after.owned, fun owned => ⟨owned, step_exited accounted positive o⟩⟩

end steps

theorem start_accounted (m : Machine) : (run m []).Accounted m where
  owned := by
    show Partitions (start.owns m) (registered [])
    rw [registered_nil]
    exact Partitions.empty fun _ => rfl
  exited := nofun

theorem start_positive (m : Machine) : (run m []).Positive := by
  show ∀ app ∈ registered [], _
  rw [registered_nil]
  exact nofun

theorem run_accounted {m : Machine} (free : m.capi.HandsOutFree m.maxAppl)
    (keeps : Throughout (fun before o => (run m before).Keeps m o) occurrences) :
    (run m occurrences).Accounted m ∧ (run m occurrences).Positive := by
  refine keeps.invariant (P := fun before => (run m before).Accounted m ∧ (run m before).Positive)
    ⟨start_accounted m, start_positive m⟩ ?_
  rintro before o ⟨accounted, positive⟩ own
  rw [run_append]
  exact ⟨(step_accounted_iff free accounted positive o).mpr own, step_positive free positive o⟩

end Service

/-- In every run, the arrays account for the applications of the CAPI exactly as long as the handlers keep
to their own, whatever signals arrive. -/
theorem handlers_accounted_iff (m : Machine) (free : m.capi.HandsOutFree m.maxAppl)
    (occurrences : List Occurrence) :
    Throughout (fun before o => ((Service.run m before).step m o).Accounted m) occurrences ↔
      Throughout (fun before o => (Service.run m before).Keeps m o) occurrences := by
  refine throughout_iff_of_invariant
    (P := fun before => (Service.run m before).Accounted m ∧ (Service.run m before).Positive)
    ⟨Service.start_accounted m, Service.start_positive m⟩ ?_ ?_ occurrences
  · rintro before o ⟨accounted, positive⟩
    exact Service.step_accounted_iff free accounted positive o
  · rintro before o ⟨accounted, positive⟩ own
    rw [Service.run_append]
    exact ⟨(Service.step_accounted_iff free accounted positive o).mpr own,
      Service.step_positive free positive o⟩

theorem terminated_accounted :
    Throughout (fun before o => ((Service.run .sample before).step .sample o).Accounted .sample) terminated ↔
      Throughout (fun before o => (Service.run .sample before).Keeps .sample o) terminated :=
  handlers_accounted_iff .sample (Capi.firstFree_handsOutFree (by decide)) terminated

/-- When all handlers are gone, what is still registered are the applications of those that a signal has
ended. -/
theorem killed_leave (m : Machine) (free : m.capi.HandsOutFree m.maxAppl) (occurrences : List Occurrence)
    (keeps : Throughout (fun before o => (Service.run m before).Keeps m o) occurrences)
    (gone : ∀ h ∈ (Service.run m occurrences).handlers, h.phase = .exited ∨ h.phase = .killed) (app : UInt32) :
    app ∈ held (Service.run m occurrences).history ↔ ∃ h ∈ (Service.run m occurrences).handlers,
      h.phase = .killed ∧ app ∈ marked m.maxAppl h.registeredApps := by
  obtain ⟨accounted, -⟩ := Service.run_accounted free keeps
  refine (accounted.owned.mem_iff (a := app)).trans ⟨?_, ?_⟩
  · rintro ⟨k, owner⟩
    cases here : (Service.run m occurrences).handlers[k]? with
    | none =>
      simp only [Service.owns, here] at owner
      cases owner
    | some h =>
      rw [Service.owns_here here] at owner
      have member := List.mem_of_getElem? here
      refine ⟨h, member, (gone h member).resolve_left fun exited => ?_, owner⟩
      rw [accounted.exited h member exited] at owner
      cases owner
  · rintro ⟨h, member, -, owner⟩
    obtain ⟨k, here⟩ := List.mem_iff_getElem?.mp member
    exact ⟨k, by rwa [Service.owns_here here]⟩

theorem terminated_leaves :
    1 ∈ held (Service.run .sample terminated).history ↔
      ∃ h ∈ (Service.run .sample terminated).handlers,
        h.phase = .killed ∧ 1 ∈ marked Machine.sample.maxAppl h.registeredApps := by
  refine killed_leave .sample (Capi.firstFree_handsOutFree (by decide)) terminated ?_ ?_ 1
  · have accepts := (throughout_append (fun before o => (Service.run .sample before).Keeps .sample o) []
      (.accept true)).mpr ⟨throughout_nil _, trivial⟩
    have alone : (Service.run .sample [.accept true]).Keeps .sample (.receive 0 registerRequest.bytes) := by
      intro call reply history app released j other
      obtain ⟨j, rfl⟩ := Nat.exists_eq_succ_of_ne_zero other
      exact id
    have registers := (throughout_append _ _ _).mpr ⟨accepts, alone⟩
    have ends : (Service.run .sample [.accept true, .receive 0 registerRequest.bytes]).Keeps .sample
      (.kill 0 .term) := trivial
    exact (throughout_append _ _ _).mpr ⟨registers, ends⟩
  · intro h member
    obtain rfl := List.mem_singleton.mp member
    exact .inr rfl

end CapiProxy.LinuxServer
