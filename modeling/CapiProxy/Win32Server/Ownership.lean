import CapiProxy.Ownership.Partition
import CapiProxy.Traces.Throughout
import CapiProxy.Win32Server.Framing
import CapiProxy.Win32Server.Process

/-! Application ownership. Each session of the process keeps its own array of registered
applications; the arrays partition the applications of the CAPI for as long as the requests of a
session name applications of that session. -/
namespace CapiProxy.Win32Server
open Bytes Ownership Traces

/-- The application a request passes to the CAPI, once it is verified and dispatched: a put
request only if its message is well-formed, with the id as the payload address leaves it, and a wait
request only if its thread is started. -/
def target (env : Environment) (n : Nat) (s : State) : Option UInt32 :=
  let request := header env s.memory
  match selected env s.memory with
  | some (.capiRelease, _) | some (.capiGetmessage, _) => some request.appId
  | some (.capiPutmessage, _) =>
    (acceptPut s.memory (pointers env s.memory).rdata request.dataLen).map fun memory =>
      (header env memory).appId
  | some (.capiWaitforsignal, _) => if env.createThread n then some request.appId else none
  | _ => none

/-- All an effect can do to the array and the CAPI, with the application it passes on. -/
inductive Handled (env : Environment) (s : State) : Option UInt32 → Effect → Prop where
  | idle (e : Effect) (history : e.state.history = s.history)
      (apps : e.state.client.registeredApps = s.client.registeredApps) :
      Handled env s (e.waiter.map (·.applID)) e
  | call (e : Effect) (call : CapiCall) (stale : UInt32) (alone : e.waiter = none)
      (history : e.state.history = s.history ++ [(call, env.capi s.history call)])
      (apps : e.state.client.registeredApps =
        record stale s.client.registeredApps (call, env.capi s.history call)) :
      Handled env s call.application e

theorem Handled.silent (alone : e.waiter = none) (history : e.state.history = s.history)
    (apps : e.state.client.registeredApps = s.client.registeredApps) : Handled env s none e := by
  have handled : Handled env s (e.waiter.map (·.applID)) e := .idle e history apps
  rwa [alone] at handled

theorem putmessage_handled (env : Environment) (n : Nat) (p : Pointers) (s : State) :
    Handled env s
      ((acceptPut s.memory p.rdata (s.request p).dataLen).map fun memory =>
        ({ s with memory }.request p).appId)
      (execCapiPutmessage env n p s) := by
  cases accepted : acceptPut s.memory p.rdata (s.request p).dataLen with
  | none =>
    simp only [execCapiPutmessage, accepted, Option.map_none]
    exact .silent rfl rfl rfl
  | some memory =>
    have history := execCapiPutmessage_accepted env n accepted
    have rest : (execCapiPutmessage env n p s).waiter = none ∧
        (execCapiPutmessage env n p s).state.client = s.client := by
      simp only [execCapiPutmessage, accepted]
      exact ⟨rfl, rfl⟩
    exact .call _ _ 0 rest.1 history (congrArg ClientData.registeredApps rest.2)

theorem waitforsignal_handled (env : Environment) (n : Nat) (p : Pointers) (s : State) :
    Handled env s (if env.createThread n then some (s.request p).appId else none)
      (execCapiWaitforsignal env n p s) := by
  simp only [execCapiWaitforsignal]
  split
  · exact Handled.idle ⟨s, none, some ⟨(s.request p).appId, (s.request p).messageId,
      s.client.session⟩⟩ rfl rfl
  · exact .silent rfl rfl rfl

theorem helo_handled (env : Environment) (n : Nat) (p : Pointers) (s : State) :
    Handled env s none (execProxyHelo env n p s) := by
  simp only [execProxyHelo]
  split <;> exact .silent rfl rfl rfl

theorem auth_handled (env : Environment) (n : Nat) (p : Pointers) (s : State) :
    Handled env s none (execProxyAuth env n p s) := by
  simp only [execProxyAuth]
  repeat' split
  all_goals exact .silent rfl rfl rfl

theorem process_handled (env : Environment) (n : Nat) (s : State) :
    Handled env s (target env n s) (process env n s).2 := by
  cases run : selected env s.memory with
  | none =>
    simp only [process, target, run]
    exact .silent rfl rfl rfl
  | some arm =>
    obtain ⟨type, handler⟩ := arm
    obtain ⟨-, -, found, -⟩ := selected_some run
    simp only [process, target, run]
    cases type <;> first | cases found; done | obtain rfl := Option.some.inj found
    case capiRegister =>
      let word i := s.memory.word32 ((pointers env s.memory).rbody + 4 * i)
      exact .call _ (.register (some (word 0)) (word 1) (word 2) (word 3)) _ rfl rfl rfl
    case capiRelease => exact .call _ (.release (header env s.memory).appId) 0 rfl rfl rfl
    case capiPutmessage => exact putmessage_handled env n (pointers env s.memory) s
    case capiGetmessage => exact .call _ (.getMessage (header env s.memory).appId) 0 rfl rfl rfl
    case capiWaitforsignal => exact waitforsignal_handled env n (pointers env s.memory) s
    case capiManufacturer => exact .call _ (.getManufacturer 0) 0 rfl rfl rfl
    case capiVersion => exact .call _ (.getVersion 0) 0 rfl rfl rfl
    case capiSerial => exact .call _ (.getSerialNumber 0) 0 rfl rfl rfl
    case capiProfile => exact .call _ (.getProfile (header env s.memory).controllerId) 0 rfl rfl rfl
    case capiInstalled => exact .call _ .installed 0 rfl rfl rfl
    case proxyHelo => exact helo_handled env n (pointers env s.memory) s
    case proxyAuth => exact auth_handled env n (pointers env s.memory) s
    case proxyKeepalive => exact .silent rfl rfl rfl

namespace System

/-- The arrays of different sessions are disjoint and together mark what is registered. -/
def Owned (sys : System) : Prop := Partitions sys.owns (registered sys.history)

/-- The action passes only applications of its own session to the CAPI. -/
def PassesOwn (p : Process) (sys : System) (a : Action) : Prop :=
  ∀ slot app, sys.Passes p a slot app → app ∈ sys.owns slot

/-- A request names an application that its session's array marks, if it reaches the CAPI; the
array still marks it when the waiter for a wait request calls; and what the cleanup loop takes
off the array is released. -/
def NamesOwn (p : Process) (sys : System) : Action → Prop
  | .connect .. | .disconnect _ => True
  | .receive slot bytes => ∀ t, sys.sessions slot = some t → t.receiving = true →
    ∀ app, target (p.environment slot) t.requests (sys.outcome p slot t bytes).1 = some app →
      app ∈ sys.owns slot
  | .cleanup slot fuel => ∀ t app list, sys.sessions slot = some t → t.receiving = false →
    getfirstApp fuel t.client.registeredApps = some (app, list) → app ≠ 0 →
      (p.capi sys.history (.release app)).code = 0
  | .wait waiter => ∀ slot w, sys.waiters[waiter]? = some (slot, w) → w.applID ∈ sys.owns slot

theorem keeps {p : Process} {sys : System} {a : Action} (owned : sys.Owned)
    (owns : (sys.step p a).owns = sys.owns) (history : (sys.step p a).history = sys.history)
    (waiters : (sys.step p a).waiters = sys.waiters) :
    (sys.step p a).Owned ∧ sys.PassesOwn p a := by
  refine ⟨?_, fun slot app passes => absurd passes (not_passes history waiters)⟩
  rw [Owned, owns, history]
  exact owned

theorem connect_keeps (p : Process) (sys : System) (slot : Nat) (name : List UInt8)
    (list memory : Memory) (owned : sys.Owned) :
    (sys.step p (.connect slot name list memory)).Owned ∧
      sys.PassesOwn p (.connect slot name list memory) := by
  cases session : sys.sessions slot with
  | some t =>
    have same : sys.step p (.connect slot name list memory) = sys := by simp only [step, session]
    exact keeps owned (by rw [same]) (by rw [same]) (by rw [same])
  | none =>
    have started : sys.step p (.connect slot name list memory) = ⟨sys.history,
        sys.assign slot (some ⟨.start (p.environment slot) name list, memory, 0, true⟩),
        sys.waiters⟩ := by
      simp only [step, session]
    refine keeps owned ?_ (by rw [started]) (by rw [started])
    rw [started]
    refine owns_assign_keep sys slot _ _ _ ?_
    simp only [ClientData.start, marked_clear, owns, session]

theorem disconnect_keeps (p : Process) (sys : System) (slot : Nat) (owned : sys.Owned) :
    (sys.step p (.disconnect slot)).Owned ∧ sys.PassesOwn p (.disconnect slot) := by
  cases session : sys.sessions slot with
  | none =>
    have same : sys.step p (.disconnect slot) = sys := by simp only [step, session]
    exact keeps owned (by rw [same]) (by rw [same]) (by rw [same])
  | some t =>
    have ended : sys.step p (.disconnect slot) = ⟨sys.history,
        sys.assign slot (some { t with receiving := false }), sys.waiters⟩ := by
      simp only [step, session]
    refine keeps owned ?_ (by rw [ended]) (by rw [ended])
    rw [ended]
    refine owns_assign_keep sys slot _ _ _ ?_
    simp only [owns, session]

theorem receive_passes_iff {p : Process} {sys : System} {t : Thread}
    (session : sys.sessions slot = some t) (receiving : t.receiving = true) :
    sys.Passes p (.receive slot bytes) slot' app ↔ slot' = slot ∧
      target (p.environment slot) t.requests (sys.outcome p slot t bytes).1 = some app := by
  have handled := process_handled (p.environment slot) t.requests (sys.outcome p slot t bytes).1
  simp only [Passes, step, session, receiving, if_true, owner, Option.some.injEq]
  generalize target (p.environment slot) t.requests (sys.outcome p slot t bytes).1 = passed at *
  change Handled _ _ passed (sys.outcome p slot t bytes).2 at handled
  generalize (sys.outcome p slot t bytes).2 = e at *
  cases handled with
  | idle _ history apps =>
    change e.state.history = sys.history at history
    constructor
    · rintro (⟨call, reply, longer, -, -⟩ | ⟨w, started, rfl⟩)
      · rw [history] at longer
        simp at longer
      · cases waiter : e.waiter with
        | none => simp [waiter] at started
        | some w' =>
          simp only [waiter, Option.toList_some, List.map_cons, List.map_nil,
            List.append_cancel_left_eq, List.cons.injEq, Prod.mk.injEq, and_true] at started
          exact ⟨started.1.symm, by rw [Option.map_some, started.2]⟩
    · rintro ⟨rfl, started⟩
      obtain ⟨w, started, same⟩ := Option.map_eq_some_iff.mp started
      exact .inr ⟨w, by simp [started], same⟩
  | call _ call stale alone history apps =>
    change e.state.history = sys.history ++ [(call, _)] at history
    constructor
    · rintro (⟨call', reply, longer, passed, rfl⟩ | ⟨w, started, -⟩)
      · rw [history] at longer
        simp only [List.append_cancel_left_eq, List.cons.injEq, Prod.mk.injEq] at longer
        exact ⟨rfl, by rwa [longer.1.1]⟩
      · rw [alone] at started
        simp at started
    · rintro ⟨rfl, passed⟩
      exact .inl ⟨call, _, history, passed, rfl⟩

theorem call_owned {capi : Capi} {owns' : Nat → Set UInt32} {sys : System} (free : capi.HandsOutFree capiMaxappl)
    (owned : sys.Owned) (slot : Nat) (call : CapiCall)
    (own : ∀ app, call.application = some app → app ∈ sys.owns slot)
    (here : owns' slot = CapiEvent.gained (call, capi sys.history call) ∪
      (sys.owns slot \ CapiEvent.lost (call, capi sys.history call)))
    (others : ∀ other, other ≠ slot → owns' other = sys.owns other) :
    Partitions owns' (registered (sys.history ++ [(call, capi sys.history call)])) := by
  rw [registered_append]
  refine Partitions.step owned slot _ _ (free.gained_free sys.history call) ?_ here others
  intro app lost
  exact own app (CapiEvent.lost_application lost)

theorem receive_owned (p : Process) (free : p.capi.HandsOutFree capiMaxappl) (sys : System)
    (slot : Nat) (bytes : List UInt8) (owned : sys.Owned) (own : sys.NamesOwn p (.receive slot bytes)) :
    (sys.step p (.receive slot bytes)).Owned := by
  cases session : sys.sessions slot with
  | none =>
    simp only [step, session]
    exact owned
  | some t =>
    cases receiving : t.receiving with
    | false =>
      simp only [step, session, receiving, Bool.false_eq_true, if_false]
      exact owned
    | true =>
      have here : sys.owns slot = marked capiMaxappl t.client.registeredApps := by
        simp only [owns, session]
      have named := own t session receiving
      have handled := process_handled (p.environment slot) t.requests (sys.outcome p slot t bytes).1
      simp only [step, session, receiving, if_true, Owned]
      generalize target (p.environment slot) t.requests (sys.outcome p slot t bytes).1 = passed at *
      change Handled _ _ passed (sys.outcome p slot t bytes).2 at handled
      generalize (sys.outcome p slot t bytes).2 = e at *
      cases handled with
      | idle _ history apps =>
        rw [owns_assign_keep sys slot _ _ _ (by rw [here, apps]; rfl), history]
        exact owned
      | call _ call stale alone history apps =>
        have capi := p.shared slot
        rw [history, capi]
        refine call_owned free owned slot call named ?_ fun other away =>
          owns_assign_other sys slot _ _ _ away
        rw [owns_assign_self, apps, here, capi]
        exact marked_record _ (free.stores sys.history call)

theorem receive_iff (p : Process) (free : p.capi.HandsOutFree capiMaxappl) (sys : System)
    (slot : Nat) (bytes : List UInt8) (owned : sys.Owned) :
    ((sys.step p (.receive slot bytes)).Owned ∧ sys.PassesOwn p (.receive slot bytes)) ↔
      sys.NamesOwn p (.receive slot bytes) := by
  constructor
  · rintro ⟨-, passes⟩ t session receiving app named
    exact passes slot app ((receive_passes_iff session receiving).mpr ⟨rfl, named⟩)
  · intro own
    refine ⟨receive_owned p free sys slot bytes owned own, fun slot' app passed => ?_⟩
    cases session : sys.sessions slot with
    | none =>
      have same : sys.step p (.receive slot bytes) = sys := by simp only [step, session]
      exact absurd passed (not_passes (by rw [same]) (by rw [same]))
    | some t =>
      cases receiving : t.receiving with
      | false =>
        have same : sys.step p (.receive slot bytes) = sys := by
          simp only [step, session, receiving, Bool.false_eq_true, if_false]
        exact absurd passed (not_passes (by rw [same]) (by rw [same]))
      | true =>
        obtain ⟨rfl, named⟩ := (receive_passes_iff session receiving).mp passed
        exact own t session receiving app named

theorem wait_iff (p : Process) (sys : System) (waiter : Nat) (owned : sys.Owned) :
    ((sys.step p (.wait waiter)).Owned ∧ sys.PassesOwn p (.wait waiter)) ↔
      sys.NamesOwn p (.wait waiter) := by
  cases found : sys.waiters[waiter]? with
  | none =>
    have same : sys.step p (.wait waiter) = sys := by simp only [step, found]
    have kept := keeps owned (by rw [same]) (by rw [same]) (by rw [same])
    refine iff_of_true kept fun slot w there => ?_
    rw [found] at there
    cases there
  | some started =>
    obtain ⟨slot, w⟩ := started
    have called : sys.step p (.wait waiter) = ⟨sys.history ++
        [(.waitForSignal w.applID, p.capi sys.history (.waitForSignal w.applID))], sys.sessions,
        sys.waiters.eraseIdx waiter⟩ := by
      simp only [step, found]
    have kept : (sys.step p (.wait waiter)).Owned := by
      rw [called, Owned, registered_append]
      show Partitions sys.owns _
      simpa [CapiEvent.gained, CapiEvent.lost, CapiEvent.registered, CapiEvent.released]
        using show Partitions _ _ from owned
    constructor
    · rintro ⟨-, passes⟩ slot' w' there
      rw [found] at there
      obtain ⟨rfl, rfl⟩ := Prod.mk.inj (Option.some.inj there)
      exact passes slot w.applID (.inl ⟨_, _, by rw [called], rfl, by rw [owner, found]; rfl⟩)
    · intro own
      refine ⟨kept, fun slot' app passed => ?_⟩
      rcases passed with ⟨call, reply, longer, named, slotted⟩ | ⟨w', longer, -⟩
      · rw [called] at longer
        simp only [List.append_cancel_left_eq, List.cons.injEq, Prod.mk.injEq] at longer
        rw [← longer.1.1] at named
        rw [owner, found, Option.map_some, Option.some.injEq] at slotted
        subst slotted
        obtain rfl := Option.some.inj named
        exact own slot w found
      · have shorter := congrArg List.length longer
        rw [called, List.length_append, List.length_singleton] at shorter
        exact absurd shorter (Nat.ne_of_lt (Nat.lt_succ_of_le (List.length_eraseIdx_le _ _)))

/-- What the cleanup loop of a session does when it finds an application. -/
structure Releases (p : Process) (sys : System) (slot fuel : Nat) : Prop where
  history : (sys.step p (.cleanup slot fuel)).history =
    sys.history ++ [(.release 1, p.capi sys.history (.release 1))]
  waiters : (sys.step p (.cleanup slot fuel)).waiters = sys.waiters
  mine : 1 ∈ sys.owns slot
  given : (sys.step p (.cleanup slot fuel)).owns slot = sys.owns slot \ {1}
  others : ∀ other, other ≠ slot → (sys.step p (.cleanup slot fuel)).owns other = sys.owns other
  names : sys.NamesOwn p (.cleanup slot fuel) ↔ (p.capi sys.history (.release 1)).code = 0

theorem releases (p : Process) {sys : System} {t : Thread} (session : sys.sessions slot = some t)
    (ended : t.receiving = false)
    (found : getfirstApp fuel t.client.registeredApps = some (app, list)) :
    Releases p sys slot fuel := by
  obtain ⟨cell, rfl, rfl⟩ := getfirstApp_some found
  have released : sys.step p (.cleanup slot fuel) = ⟨sys.history ++
      [(.release 1, p.capi sys.history (.release 1))],
      sys.assign slot (some { t with client.registeredApps := delApp 1 t.client.registeredApps }),
      sys.waiters⟩ := by
    simp only [step, session, ended, Bool.false_eq_true, if_false, found]
    rfl
  have here : sys.owns slot = marked capiMaxappl t.client.registeredApps := by
    simp only [owns, session]
  constructor
  · rw [released]
  · rw [released]
  · rw [here]
    refine ⟨by decide, ?_⟩
    show t.client.registeredApps 1 ≠ 0
    rw [cell]
    decide
  · rw [released, owns_assign_self, marked_del, here]
  · intro other away
    rw [released]
    exact owns_assign_other sys slot _ _ _ away
  · constructor
    · intro names
      exact names t 1 _ session ended found (by decide)
    · intro success t' app list there _ next _
      obtain rfl := Option.some.inj (session.symm.trans there)
      obtain ⟨rfl, -⟩ := Prod.mk.inj (Option.some.inj (found.symm.trans next))
      exact success

theorem cleanup_cases (p : Process) (sys : System) (slot fuel : Nat) :
    Releases p sys slot fuel ∨
      (sys.step p (.cleanup slot fuel) = sys ∧ sys.NamesOwn p (.cleanup slot fuel)) := by
  cases session : sys.sessions slot with
  | none =>
    refine .inr ⟨by simp only [step, session], fun t app list there => ?_⟩
    cases session.symm.trans there
  | some t =>
    cases ended : t.receiving with
    | true =>
      refine .inr ⟨by simp only [step, session, ended, if_true], fun t' app list there cleaning => ?_⟩
      obtain rfl := Option.some.inj (session.symm.trans there)
      cases ended.symm.trans cleaning
    | false =>
      cases found : getfirstApp fuel t.client.registeredApps with
      | none =>
        refine .inr ⟨by simp only [step, session, ended, Bool.false_eq_true, if_false, found],
          fun t' app list there _ next => ?_⟩
        obtain rfl := Option.some.inj (session.symm.trans there)
        cases found.symm.trans next
      | some first => exact .inl (releases p session ended found)

/-- A failed release leaves an application registered that nobody owns any more. -/
theorem Releases.owned_iff {p : Process} {sys : System} (h : Releases p sys slot fuel)
    (free : p.capi.HandsOutFree capiMaxappl) (owned : sys.Owned) :
    (sys.step p (.cleanup slot fuel)).Owned ↔ (p.capi sys.history (.release 1)).code = 0 := by
  constructor
  · intro after
    by_contra failed
    have still : (1 : UInt32) ∈ registered (sys.step p (.cleanup slot fuel)).history := by
      rw [h.history, registered_append]
      refine .inr ⟨owned.mem_iff.mpr ⟨slot, h.mine⟩, ?_⟩
      simp [CapiEvent.lost, CapiEvent.released, failed]
    obtain ⟨other, there⟩ := (Partitions.mem_iff after).mp still
    by_cases same : other = slot
    · rw [same, h.given] at there
      exact there.2 rfl
    · rw [h.others other same] at there
      exact Partitions.not_mem_of_ne owned h.mine same there
  · intro success
    rw [Owned, h.history]
    refine call_owned free owned slot (.release 1) (by rintro _ ⟨⟩; exact h.mine) ?_ h.others
    rw [h.given]
    simp [CapiEvent.gained, CapiEvent.lost, CapiEvent.registered, CapiEvent.released, success,
      eq_comm]

theorem Releases.passesOwn {p : Process} {sys : System} (h : Releases p sys slot fuel) :
    sys.PassesOwn p (.cleanup slot fuel) := by
  rintro slot' app (⟨call, reply, longer, named, slotted⟩ | ⟨w, longer, -⟩)
  · rw [h.history] at longer
    simp only [List.append_cancel_left_eq, List.cons.injEq, Prod.mk.injEq] at longer
    rw [← longer.1.1] at named
    obtain rfl := Option.some.inj named
    obtain rfl := Option.some.inj slotted
    exact h.mine
  · rw [h.waiters] at longer
    simp at longer

theorem cleanup_iff (p : Process) (free : p.capi.HandsOutFree capiMaxappl) (sys : System)
    (slot fuel : Nat) (owned : sys.Owned) :
    ((sys.step p (.cleanup slot fuel)).Owned ∧ sys.PassesOwn p (.cleanup slot fuel)) ↔
      sys.NamesOwn p (.cleanup slot fuel) := by
  rcases cleanup_cases p sys slot fuel with found | ⟨same, names⟩
  · rw [found.names, ← found.owned_iff free owned]
    exact and_iff_left found.passesOwn
  · exact iff_of_true (keeps owned (by rw [same]) (by rw [same]) (by rw [same])) names

/-- The step: what a thread may do to keep the partition. -/
theorem step_iff (p : Process) (free : p.capi.HandsOutFree capiMaxappl) (sys : System) (a : Action)
    (owned : sys.Owned) : ((sys.step p a).Owned ∧ sys.PassesOwn p a) ↔ sys.NamesOwn p a := by
  cases a with
  | connect slot name list memory =>
    exact iff_of_true (connect_keeps p sys slot name list memory owned) trivial
  | receive slot bytes => exact receive_iff p free sys slot bytes owned
  | disconnect slot => exact iff_of_true (disconnect_keeps p sys slot owned) trivial
  | cleanup slot fuel => exact cleanup_iff p free sys slot fuel owned
  | wait waiter => exact wait_iff p sys waiter owned

theorem start_owned (p : Process) : (run p []).Owned := by
  rw [Owned, run, List.foldl_nil, idle, registered_nil]
  exact Partitions.empty fun _ => rfl

end System

/-- In every run, the sessions keep to their own applications and partition what is registered
exactly when every request that reaches the CAPI names an application its session marks. -/
theorem ownership_iff (p : Process) (free : p.capi.HandsOutFree capiMaxappl) (actions : List Action) :
    Throughout (fun before a => ((System.run p before).step p a).Owned ∧
        (System.run p before).PassesOwn p a) actions ↔
      Throughout (fun before a => (System.run p before).NamesOwn p a) actions := by
  refine throughout_iff_of_invariant (P := fun before => (System.run p before).Owned)
    (System.start_owned p) (fun before a owned => ?_) (fun before a owned names => ?_) actions
  · exact System.step_iff p free _ a owned
  · rw [System.run_append]
    exact ((System.step_iff p free _ a owned).mpr names).1

/-- The sample server, with the session ids `StartSession` gives to its slots. -/
def Process.sample : Process where
  capi := .firstFree capiMaxappl
  environment slot := { Environment.sample with session := 0x10000 + .ofNat slot }
  shared _ := rfl

def releaseHeader : RequestHeader :=
  ⟨37, 36, 1, 0, 1, MessageType.capiRelease.code, 1, 0, 0x10001⟩

/-- The client in slot 1 asks to release application 1. -/
def foreignRelease : RequestFrame where
  toFrame := releaseHeader.frame [0] (by decide)
  accepted := by decide

def registerInSlot0 : RequestFrame where
  toFrame := RequestHeader.frame ⟨52, 36, 16, 0, 2, MessageType.capiRegister.code, 0, 0, 0x10000⟩
    (words [4096, 2, 7, 2048]) (by decide)
  accepted := by decide

def connected : List Action := [.connect 0 [] zeros zeros, .connect 1 [] zeros zeros]

theorem connected_ownership :
    Throughout (fun before a => ((System.run .sample before).step .sample a).Owned ∧
        (System.run .sample before).PassesOwn .sample a) connected ↔
      Throughout (fun before a => (System.run .sample before).NamesOwn .sample a) connected :=
  ownership_iff .sample (Capi.firstFree_handsOutFree (by decide)) connected

theorem foreignRelease_header (m : Memory) (slot : Nat) :
    header (Process.sample.environment slot) (m.write 0 foreignRelease.bytes) = releaseHeader :=
  RequestHeader.parse_frame _ _ (by decide) m 0

theorem foreignRelease_target (t : Thread) (sys : System) :
    target (Process.sample.environment 1) t.requests
      (sys.outcome .sample 1 t foreignRelease.bytes).1 = some 1 := by
  have run : selected (Process.sample.environment 1) (t.memory.write 0 foreignRelease.bytes) =
      some (.capiRelease, execCapiRelease) :=
    selected_of_arm (foreignRelease.verified t.memory 0) (by rw [foreignRelease_header]; rfl) rfl
      fun _ => by
        have id := congrArg RequestHeader.sessionId (foreignRelease_header t.memory 1)
        exact beq_iff_eq.mpr id
  have memory : (sys.outcome .sample 1 t foreignRelease.bytes).1.memory =
      t.memory.write 0 foreignRelease.bytes := rfl
  simp only [target, memory, run, foreignRelease_header]
  rfl

/-- Slot 0 registers application 1, and slot 1 releases it. -/
theorem foreignRelease_passed :
    ¬ Throughout (fun before a => ((System.run .sample before).step .sample a).Owned ∧
        (System.run .sample before).PassesOwn .sample a)
      (connected ++ [.receive 0 registerInSlot0.bytes, .receive 1 foreignRelease.bytes]) := by
  intro holds
  have passes := (holds (connected ++ [.receive 0 registerInSlot0.bytes])
    (.receive 1 foreignRelease.bytes) [] rfl).2
  have own := passes 1 1 ((System.receive_passes_iff rfl rfl).mpr ⟨rfl, foreignRelease_target _ _⟩)
  have nothing : (System.run .sample (connected ++ [.receive 0 registerInSlot0.bytes])).owns 1 = ∅ :=
    marked_clear zeros
  rw [nothing] at own
  exact own

end CapiProxy.Win32Server
