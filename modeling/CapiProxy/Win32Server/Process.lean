import CapiProxy.Win32Server.Cleanup

/-! The server process. A thread serves each session and a further one waits for each wait
request; they share the CAPI, and each step is what one of them does between two others. -/
namespace CapiProxy.Win32Server
open Bytes

/-- A process: one CAPI for all its sessions. -/
structure Process where
  capi : Capi
  environment : Nat → Environment
  shared : ∀ slot, (environment slot).capi = capi

/-- A session thread: what it keeps, how many requests it has received, and whether it is still
in the receive loop or in the cleanup loop behind it. -/
structure Thread where
  client : ClientData
  memory : Memory
  requests : Nat
  receiving : Bool

/-- The sessions by slot, and the waiters that have not called the CAPI yet, each with the slot
of the session that started it. -/
structure System where
  history : List CapiEvent
  sessions : Nat → Option Thread
  waiters : List (Nat × WaiterData)

/-- A client connects and is given a free slot, the session in a slot receives something or
loses its connection, a session in the cleanup loop runs for a while, or a waiter calls the
CAPI. -/
inductive Action where
  | connect (slot : Nat) (name : List UInt8) (list memory : Memory)
  | receive (slot : Nat) (bytes : List UInt8)
  | disconnect (slot : Nat)
  | cleanup (slot fuel : Nat)
  | wait (waiter : Nat)

namespace System

def assign (sys : System) (slot : Nat) (t : Option Thread) : Nat → Option Thread :=
  fun other => if other = slot then t else sys.sessions other

def outcome (p : Process) (sys : System) (slot : Nat) (t : Thread) (bytes : List UInt8) :
    State × Effect :=
  let s := State.receive ⟨t.client, t.memory, sys.history⟩ (p.environment slot) bytes
  (s, (process (p.environment slot) t.requests s).2)

def step (p : Process) (sys : System) : Action → System
  | .connect slot name list memory =>
    match sys.sessions slot with
    | none =>
      { sys with sessions :=
          sys.assign slot (some ⟨.start (p.environment slot) name list, memory, 0, true⟩) }
    | some _ => sys
  | .receive slot bytes =>
    match sys.sessions slot with
    | some t =>
      if t.receiving then
        let effect := (sys.outcome p slot t bytes).2
        { history := effect.state.history
          sessions := sys.assign slot
            (some ⟨effect.state.client, effect.state.memory, t.requests + 1, true⟩)
          waiters := sys.waiters ++ effect.waiter.toList.map fun w => (slot, w) }
      else sys
    | none => sys
  | .disconnect slot =>
    match sys.sessions slot with
    | some t => { sys with sessions := sys.assign slot (some { t with receiving := false }) }
    | none => sys
  | .cleanup slot fuel =>
    match sys.sessions slot with
    | some t =>
      if t.receiving then sys
      else
        match getfirstApp fuel t.client.registeredApps with
        -- the thread is still looking for the next application
        | none => sys
        | some (app, list) =>
          if app = 0 then { sys with sessions := sys.assign slot none }
          else
            { sys with
              history := sys.history ++ [(.release app, p.capi sys.history (.release app))]
              sessions := sys.assign slot (some { t with client.registeredApps := list }) }
    | none => sys
  | .wait waiter =>
    match sys.waiters[waiter]? with
    | some (_, w) =>
      { sys with
        history := sys.history ++
          [(.waitForSignal w.applID, p.capi sys.history (.waitForSignal w.applID))]
        waiters := sys.waiters.eraseIdx waiter }
    | none => sys

def idle : System := ⟨[], fun _ => none, []⟩

def run (p : Process) (actions : List Action) : System := actions.foldl (step p) idle

theorem run_append (p : Process) (actions : List Action) (a : Action) :
    run p (actions ++ [a]) = (run p actions).step p a := by
  rw [run, List.foldl_append]
  rfl

def owns (sys : System) (slot : Nat) : Set UInt32 :=
  match sys.sessions slot with
  | none => ∅
  | some t => marked capiMaxappl t.client.registeredApps

def owner (sys : System) : Action → Option Nat
  | .connect slot .. | .receive slot _ | .disconnect slot | .cleanup slot _ => some slot
  | .wait waiter => sys.waiters[waiter]?.map Prod.fst

/-- The action calls the CAPI for an application, or starts a waiter that will, for the session
in a slot. -/
def Passes (p : Process) (sys : System) (a : Action) (slot : Nat) (app : UInt32) : Prop :=
  (∃ call reply, (sys.step p a).history = sys.history ++ [(call, reply)] ∧
      call.application = some app ∧ sys.owner a = some slot) ∨
    ∃ w, (sys.step p a).waiters = sys.waiters ++ [(slot, w)] ∧ w.applID = app

theorem owns_assign_self (sys : System) (slot : Nat) (t : Thread) (history : List CapiEvent)
    (waiters : List (Nat × WaiterData)) :
    owns ⟨history, sys.assign slot (some t), waiters⟩ slot =
      marked capiMaxappl t.client.registeredApps := by
  simp only [owns, assign, if_true]

theorem owns_assign_other (sys : System) (slot : Nat) (t : Option Thread) (history : List CapiEvent)
    (waiters : List (Nat × WaiterData)) (other : slot' ≠ slot) :
    owns ⟨history, sys.assign slot t, waiters⟩ slot' = sys.owns slot' := by
  simp only [owns, assign, if_neg other]

theorem owns_assign_keep (sys : System) (slot : Nat) (t : Thread) (history : List CapiEvent)
    (waiters : List (Nat × WaiterData))
    (kept : marked capiMaxappl t.client.registeredApps = sys.owns slot) :
    owns ⟨history, sys.assign slot (some t), waiters⟩ = sys.owns := by
  funext slot'
  by_cases here : slot' = slot
  · subst here
    rw [owns_assign_self, kept]
  · exact owns_assign_other sys slot _ _ _ here

theorem not_passes {sys : System} (history : (sys.step p a).history = sys.history)
    (waiters : (sys.step p a).waiters = sys.waiters) : ¬ sys.Passes p a slot app := by
  rintro (⟨call, reply, longer, -, -⟩ | ⟨w, longer, -⟩)
  · rw [history] at longer
    simp at longer
  · rw [waiters] at longer
    simp at longer

end System
end CapiProxy.Win32Server
