import CapiProxy.Win32Server.Connections

/-! Pausing and stopping the server. Both only set variables that the threads test: a call that already waits
for a request, or for a connection, still gets one. -/
namespace CapiProxy.Win32Server
open Bytes Pools

namespace Server
variable {p : Process} {s s' : Server} {e : ServerEvent}

def received (s : Server) (worker : Nat) : Nat := ((s.workers[worker]?).map (·.received.length)).getD 0

def Receiving (s : Server) (worker : Nat) : Prop := ∃ w, s.workers[worker]? = some w ∧ w.doing = .receiving

instance (s : Server) (worker : Nat) : Decidable (s.Receiving worker) :=
  match here : s.workers[worker]? with
  | none => isFalse (by simp [Receiving, here])
  | some w => decidable_of_iff (w.doing = .receiving) (by simp [Receiving, here])

def due (s : Server) (worker : Nat) : Nat := ((s.workers[worker]?).map (·.due)).getD 0

theorem due_eq (s : Server) (worker : Nat) :
    s.due worker = s.received worker + if s.Receiving worker then 1 else 0 := by
  cases here : s.workers[worker]? with
  | none => simp [due, received, Receiving, here]
  | some w => simp [due, received, Receiving, here, Worker.due]

/-- No session thread is due more requests than before. -/
def Calms (s s' : Server) : Prop := ∀ worker, s'.due worker ≤ s.due worker

theorem Calms.received (calms : s.Calms s') (worker : Nat) :
    s'.received worker ≤ s.received worker + if s.Receiving worker then 1 else 0 := by
  have bound := calms worker
  rw [due_eq, due_eq s] at bound
  omega

theorem calms_set (here : s.workers[i]? = some w) (less : w'.due ≤ w.due) (waiters : List WaitThread)
    (sent : List Delivery) (history : List CapiEvent) :
    s.Calms { s with workers := s.workers.set i w', waiters, sent, history } := by
  intro j
  simp only [due]
  by_cases same : i = j
  · subst same
    rw [get_set_self here, here]
    exact less
  · rw [get_set_ne same]

theorem calms_append (s : Server) (idle : w.due = 0) : ∀ worker,
    (((s.workers ++ [w])[worker]?).map (·.due)).getD 0 ≤ s.due worker := by
  intro worker
  cases there : (s.workers ++ [w])[worker]? with
  | none => exact Nat.zero_le _
  | some v =>
    rcases get_append there with old | ⟨rfl, rfl⟩
    · simp [due, old]
    · simp [idle]

/-- The connections that were accepted, and one more if the accept loop may still accept one. -/
def admitted (loop : Listening → Bool) (s : Server) : Nat :=
  s.accepted.length + if loop s.listening then 1 else 0

theorem Stepped.calms (stepped : s.Stepped e s')
    (still : ∀ w ∈ s.workers, ∀ w', s.Goes w w' → w'.due ≤ w.due) :
    s.Calms s' := by
  cases stepped with
  | works here goes waiters sent history =>
    exact calms_set here (still _ (List.mem_of_getElem? here) _ goes) waiters sent history
  | connects =>
    intro worker
    simp only [due]
    split
    · exact calms_append s rfl worker
    · exact Nat.le_refl _
  | controls c => cases c <;> exact fun _ => Nat.le_refl _
  | listens | calls | ends | closes => exact fun _ => Nat.le_refl _

theorem Stepped.admitted {loop : Listening → Bool} (stepped : s.Stepped e s') (polls : loop .polling)
    (still : ∀ next, s.Listens next → loop next → loop s.listening) (leaves : loop .testing = false)
    (quits : loop .ended = false) : s'.admitted loop ≤ s.admitted loop := by
  cases stepped with
  | listens next listens =>
    have before := still next listens
    simp only [Server.admitted]
    split
    · next may => rw [if_pos (before may)]
    · omega
  | connects polling =>
    simp only [Server.admitted, leaves, polling, polls, List.length_append, List.length_singleton]
    exact Nat.le_refl _
  | controls c => cases c <;> exact Nat.le_refl _
  | ends =>
    simp only [Server.admitted, quits, Bool.false_eq_true, if_false]
    exact Nat.le_add_right _ _
  | works | calls | closes => exact Nat.le_refl _

theorem Goes.paused (goes : s.Goes w w') (paused : s.paused) : w'.due ≤ w.due := by
  cases goes with
  | begins => simp [Worker.due]
  | tests => simp only [Worker.due]; split <;> simp
  | checks => simp [Worker.due, paused]
  | receives doing => simp [Worker.due, doing]
  | loses => simp [Worker.due]
  | releases => exact Nat.le_refl _

theorem Stepped.paused (stepped : s.Stepped e s') (paused : s.paused) (still : e.resumes = false) :
    s'.paused := by
  cases stepped with
  | controls c =>
    cases c with
    | pause => rfl
    | quit => exact paused
    | resume | toggle | stop => cases still
  | _ => exact paused

/-- While the server is paused, a session receives at most the one request for which it waits already, a session
that starts receives none, and the accept loop accepts at most the one connection for which it waits. -/
theorem paused_receives (p : Process) (s : Server) (paused : s.paused) (events : List ServerEvent)
    (still : ∀ e ∈ events, e.resumes = false) :
    (∀ worker, (events.foldl (step p) s).received worker ≤
        s.received worker + if s.Receiving worker then 1 else 0) ∧
      (events.foldl (step p) s).accepted.length ≤
        s.accepted.length + if s.listening = .polling then 1 else 0 := by
  have run : ∀ t : Server, t.paused → s.Calms t → t.admitted (· = .polling) ≤ s.admitted (· = .polling) →
      s.Calms (events.foldl (step p) t) ∧
        (events.foldl (step p) t).admitted (· = .polling) ≤ s.admitted (· = .polling) := by
    induction events with
    | nil => exact fun t _ calms admitted => ⟨calms, admitted⟩
    | cons e later ih =>
      intro t paused calms admitted
      have stepped := step_stepped p t e
      have keeps := stepped.paused paused (still e List.mem_cons_self)
      refine ih (fun e member => still e (List.mem_cons_of_mem _ member)) _ keeps (fun worker => ?_) ?_
      · exact Nat.le_trans (stepped.calms (fun _ _ _ goes => goes.paused paused) worker) (calms worker)
      · refine Nat.le_trans (stepped.admitted rfl (fun next listens => ?_) rfl rfl) admitted
        cases listens with
        | tests => split <;> nofun
        | wakes => rw [paused]; nofun
        | polls polling => exact fun _ => decide_eq_true polling
  obtain ⟨calms, admitted⟩ := run s paused (fun _ => Nat.le_refl _) (Nat.le_refl _)
  refine ⟨fun worker => calms.received worker, ?_⟩
  simp only [Server.admitted, decide_eq_true_eq] at admitted
  omega

def plain : Process := ⟨.firstFree capiMaxappl, fun _ => .sample, fun _ => rfl⟩

def pausedSession : Server :=
  run plain [.listen, .listen, .connect 1 true [] zeros zeros, .turn 0, .turn 0, .turn 0, .control .pause]

/-- Requests and a connection while it is paused. -/
def whilePaused : List ServerEvent :=
  [.receive 0 [0], .turn 0, .turn 0, .receive 0 [0], .listen, .listen, .connect 2 true [] zeros zeros]

theorem pausedSession_receives : (whilePaused.foldl (step plain) pausedSession).received 0 = 1 ∧
    (∀ worker, (whilePaused.foldl (step plain) pausedSession).received worker ≤
        pausedSession.received worker + if pausedSession.Receiving worker then 1 else 0) ∧
      (whilePaused.foldl (step plain) pausedSession).accepted.length ≤
        pausedSession.accepted.length + if pausedSession.listening = .polling then 1 else 0 :=
  ⟨by decide +kernel, paused_receives plain pausedSession (by decide) whilePaused (by decide)⟩

/-- The server is stopped, and no thread goes into `recv` again. -/
structure Halted (s : Server) : Prop where
  stopped : s.running = false
  shut : ∀ w ∈ s.workers, w.doing = .checking → w.socket.any s.shut

theorem Goes.halted (goes : s.Goes w w') (halted : s.Halted) (member : w ∈ s.workers) :
    w'.due ≤ w.due ∧ w'.doing ≠ .checking := by
  cases goes with
  | begins => exact ⟨by simp [Worker.due], nofun⟩
  | tests => exact ⟨by simp [Worker.due, halted.stopped], by simp [halted.stopped]⟩
  | checks checking =>
    have shut := halted.shut w member checking
    exact ⟨by simp only [Worker.due, shut]; split <;> simp, by simp only [shut]; split <;> nofun⟩
  | receives doing => exact ⟨by simp [Worker.due, doing], nofun⟩
  | loses => exact ⟨by simp [Worker.due], nofun⟩
  | releases closing => exact ⟨Nat.le_refl _, by rw [closing]; nofun⟩

theorem Halted.stepped (halted : s.Halted) (stepped : s.Stepped e s') : s'.Halted := by
  cases stepped with
  | works here goes =>
    refine ⟨halted.stopped, fun v changed checking => ?_⟩
    rcases List.mem_or_eq_of_mem_set changed with old | rfl
    · exact halted.shut v old checking
    · exact absurd checking (goes.halted halted (List.mem_of_getElem? here)).2
  | connects =>
    refine ⟨halted.stopped, fun v member checking => ?_⟩
    dsimp only at member
    split at member
    · rcases List.mem_append.mp member with old | new
      · exact halted.shut v old checking
      · rw [List.mem_singleton.mp new] at checking
        cases checking
    · exact halted.shut v member checking
  | controls c =>
    cases c with
    | stop =>
      refine ⟨rfl, fun w member checking => ?_⟩
      obtain ⟨h, socket, shut⟩ := (Option.any_eq_true _ _).mp (halted.shut w member checking)
      exact (Option.any_eq_true _ _).mpr ⟨h, socket, Bool.or_eq_true_iff.mpr (.inl shut)⟩
    | quit => exact ⟨rfl, halted.shut⟩
    | pause | resume | toggle => exact ⟨halted.stopped, halted.shut⟩
  | listens | calls | ends | closes => exact ⟨halted.stopped, halted.shut⟩

/-- `ServiceExit` shuts down the sockets of all sessions that run. -/
theorem Assigned.halted (assigned : s.Assigned) : s.serviceExit.Halted := by
  refine ⟨rfl, fun w member checking => ?_⟩
  cases socket : w.socket with
  | none =>
    rw [assigned.begun w member socket] at checking
    cases checking
  | some h =>
    have here := assigned.socket w member h socket
    have slot := slotOf_inside w.connection
    rw [← assigned.slots w member] at slot
    refine Bool.or_eq_true_iff.mpr (.inr (List.any_eq_true.mpr ⟨w.sess, List.mem_range.mpr slot, ?_⟩))
    rw [decide_eq_true_eq, assigned.table _ slot, List.getD_eq_getElem?_getD, here]
    rfl

/-- Once the server is stopped, whatever the control asks for later: a session receives at most the one
request for which it waits, a session that starts receives none, and the accept loop accepts at most one
connection, if it has passed its test. -/
theorem stopped_receives (p : Process) (before events : List ServerEvent) :
    let s := (run p before).step p (.control .stop)
    (∀ worker, (events.foldl (step p) s).received worker ≤
        s.received worker + if s.Receiving worker then 1 else 0) ∧
      (events.foldl (step p) s).accepted.length ≤
        s.accepted.length + if s.listening = .polling ∨ s.listening = .sleeping then 1 else 0 := by
  intro s
  let loop (l : Listening) : Bool := l = .polling ∨ l = .sleeping
  have run : ∀ t : Server, t.Halted → s.Calms t → t.admitted loop ≤ s.admitted loop →
      s.Calms (events.foldl (step p) t) ∧ (events.foldl (step p) t).admitted loop ≤ s.admitted loop := by
    induction events with
    | nil => exact fun t _ calms admitted => ⟨calms, admitted⟩
    | cons e later ih =>
      intro t halted calms admitted
      have stepped := step_stepped p t e
      refine ih _ (halted.stepped stepped) (fun worker => ?_) ?_
      · exact Nat.le_trans (stepped.calms (fun _ member _ goes => (goes.halted halted member).1) worker)
          (calms worker)
      · refine Nat.le_trans (stepped.admitted rfl (fun next listens => ?_) rfl rfl) admitted
        cases listens with
        | tests => rw [halted.stopped]; nofun
        | wakes sleeping => exact fun _ => decide_eq_true (.inr sleeping)
        | polls polling => exact fun _ => decide_eq_true (.inl polling)
  obtain ⟨calms, admitted⟩ := run s (run_assigned p before).halted (fun _ => Nat.le_refl _) (Nat.le_refl _)
  refine ⟨fun worker => calms.received worker, ?_⟩
  simp only [Server.admitted, loop, decide_eq_true_eq] at admitted
  omega

end Server
end CapiProxy.Win32Server
