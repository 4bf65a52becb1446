import CapiProxy.LinuxServer.Cleanup

/-! The processes of the Linux server. The listening process forks a handler for each connection, and a
handler forks a listener for each wait request; only the CAPI is shared. Each step is what one process
does between two others, and a signal takes effect between two steps: one that arrives while a handler is in the
CAPI would keep it from recording what it has asked for. -/
namespace CapiProxy.LinuxServer
open Bytes

/-- A machine that the server runs on, with the surroundings of the handler of each connection and what
the listening process has in its globals when it forks. -/
structure Machine where
  capi : Capi
  maxAppl : Nat
  debug : Bool
  environment : Nat → Environment
  capi_shared : ∀ k, (environment k).capi = capi
  maxAppl_shared : ∀ k, (environment k).maxAppl = maxAppl
  list : Memory
  outPacket : AnswerBuffer
  clientInfo : ClientInfo
  packet : Memory

inductive Signal where
  | int
  | term
  | hup
  | usr1
  deriving DecidableEq, Repr

/-- Whether `sigparent` and `sigchild` exit; neither releases anything. -/
def Signal.exits : Signal → Bool
  | .int | .term => true
  | .hup | .usr1 => false

/-- A handler is in its receive loop or in `release_all`, has left it and exited, or was ended by a
signal. -/
inductive Phase where
  | serving
  | releasing
  | exited
  | killed
  deriving DecidableEq, Repr

/-- What a handler process does not share. -/
structure HandlerProcess where
  sessionID : UInt32
  registeredApps : Memory
  outPacket : AnswerBuffer
  clientInfo : ClientInfo
  packet : Memory
  requests : Nat
  phase : Phase

/-- The listening process with its `sessionID`, the handlers in the order of their connections, and the
processes that wait for a signal. -/
structure Service where
  history : List CapiEvent
  sessionID : UInt32
  listening : Bool
  handlers : List HandlerProcess
  listeners : List ListenerData

/-- `accept` fails or returns a connection, for which `fork` succeeds or not; a handler receives a
message, loses its connection, or makes a round in `release_all`; the CAPI wakes a listener; or a signal
arrives, at the listening process, at a handler or at a listener. -/
inductive Occurrence where
  | refuse
  | accept (forks : Bool)
  | receive (k : Nat) (bytes : List UInt8)
  | hangup (k : Nat)
  | release (k : Nat)
  | wake (l : Nat)
  | interrupt (signal : Signal)
  | kill (k : Nat) (signal : Signal)
  | dismiss (l : Nat) (signal : Signal)

namespace HandlerProcess

/-- The fork of the listening process for a connection. -/
def start (m : Machine) (sessionID : UInt32) : HandlerProcess :=
  ⟨sessionID, clearApps m.maxAppl m.list, m.outPacket, m.clientInfo, m.packet, 0, .serving⟩

def environment (m : Machine) (k : Nat) (h : HandlerProcess) : Environment :=
  { m.environment k with sessionID := h.sessionID }

def session (h : HandlerProcess) (history : List CapiEvent) : Session :=
  ⟨h.registeredApps, h.outPacket, h.clientInfo, history⟩

/-- What the switch makes of a message. -/
def outcome (m : Machine) (k : Nat) (h : HandlerProcess) (history : List CapiEvent) (bytes : List UInt8) :
    Effect :=
  let env := h.environment m k
  let packet := h.packet.write env.inPacket bytes
  match selected env packet with
  | none => ⟨h.session history, packet, none, none⟩
  | some (_, handler) => handler env h.requests (h.session history) packet

def keep (h : HandlerProcess) (s : Session) : HandlerProcess :=
  { h with registeredApps := s.registeredApps, outPacket := s.outPacket, clientInfo := s.clientInfo }

end HandlerProcess

namespace Service

def step (m : Machine) (v : Service) : Occurrence → Service
  | .refuse => { v with listening := false }
  | .accept forks =>
    if ¬ v.listening then v
    else
      let v := { v with sessionID := v.sessionID + 1 }
      -- the listening process of a server that is debugged becomes the handler itself
      if m.debug then
        { v with listening := false, handlers := v.handlers ++ [.start m v.sessionID] }
      else if forks then { v with handlers := v.handlers ++ [.start m v.sessionID] }
      else { v with listening := false }
  | .receive k bytes =>
    match v.handlers[k]? with
    | some h =>
      if h.phase = .serving then
        let effect := h.outcome m k v.history bytes
        { v with
          history := effect.session.history
          handlers := v.handlers.set k
            { h.keep effect.session with packet := effect.memory, requests := h.requests + 1 }
          listeners := v.listeners ++ effect.listener.toList }
      else v
    | none => v
  | .hangup k =>
    match v.handlers[k]? with
    | some h =>
      if h.phase = .serving then { v with handlers := v.handlers.set k { h with phase := .releasing } } else v
    | none => v
  | .release k =>
    match v.handlers[k]? with
    | some h =>
      if h.phase = .releasing then
        match releaseFirst (h.environment m k) (h.session v.history) with
        | none => { v with handlers := v.handlers.set k { h with phase := .exited } }
        | some (_, s) => { v with history := s.history, handlers := v.handlers.set k (h.keep s) }
      else v
    | none => v
  | .wake l =>
    match v.listeners[l]? with
    | some data =>
      { v with
        history := v.history ++ [(.waitForSignal data.appId, m.capi v.history (.waitForSignal data.appId))]
        listeners := v.listeners.eraseIdx l }
    | none => v
  | .interrupt signal =>
    -- without `become_daemon` the signals keep their default actions
    if signal.exits ∨ m.debug then { v with listening := false } else v
  | .kill k signal =>
    match v.handlers[k]? with
    | some h =>
      if signal.exits ∧ h.phase ≠ .exited then
        { v with handlers := v.handlers.set k { h with phase := .killed } }
      else v
    | none => v
  | .dismiss l signal => if signal.exits then { v with listeners := v.listeners.eraseIdx l } else v

def start : Service := ⟨[], 2, true, [], []⟩

def run (m : Machine) (occurrences : List Occurrence) : Service := occurrences.foldl (step m) start

theorem run_append (m : Machine) (occurrences : List Occurrence) (o : Occurrence) :
    run m (occurrences ++ [o]) = (run m occurrences).step m o := by
  rw [run, List.foldl_append]
  rfl

def owns (m : Machine) (v : Service) (k : Nat) : Set UInt32 :=
  match v.handlers[k]? with
  | some h => marked m.maxAppl h.registeredApps
  | none => ∅

/-- What a step does to the arrays and the CAPI: nothing, or one call, which the handler of a message
records and the others do not. -/
inductive Did (m : Machine) (v v' : Service) : Occurrence → Prop where
  | nothing (o : Occurrence) (owns : v'.owns m = v.owns m) (history : v'.history = v.history) : Did m v v' o
  | asked (k : Nat) (bytes : List UInt8) (h : HandlerProcess) (call : CapiCall) (stale : UInt32)
      (here : v.handlers[k]? = some h)
      (history : v'.history = v.history ++ [(call, m.capi v.history call)])
      (owns : v'.owns m = Function.update (v.owns m) k
        (marked m.maxAppl (record stale h.registeredApps (call, m.capi v.history call)))) :
      Did m v v' (.receive k bytes)
  | released (k : Nat) (app : UInt32) (mine : app ∈ v.owns m k)
      (history : v'.history = v.history ++ [(.release app, m.capi v.history (.release app))])
      (owns : v'.owns m = Function.update (v.owns m) k (v.owns m k \ {app})) : Did m v v' (.release k)
  | woken (l : Nat) (app : UInt32)
      (history : v'.history = v.history ++ [(.waitForSignal app, m.capi v.history (.waitForSignal app))])
      (owns : v'.owns m = v.owns m) : Did m v v' (.wake l)

section owns
variable {m : Machine} {v v' : Service} {h h' : HandlerProcess} {id : UInt32}

theorem owns_here (here : v.handlers[k]? = some h) : v.owns m k = marked m.maxAppl h.registeredApps := by
  simp only [owns, here]

theorem owns_set (here : v.handlers[k]? = some h) (same : v'.handlers = v.handlers.set k h')
    (array : h'.registeredApps = list) :
    v'.owns m = Function.update (v.owns m) k (marked m.maxAppl list) := by
  obtain ⟨inside, -⟩ := List.getElem?_eq_some_iff.mp here
  funext j
  rw [owns, same]
  by_cases other : j = k
  · subst other
    rw [List.getElem?_set_self inside, Function.update_self, ← array]
  · rw [List.getElem?_set_ne (Ne.symm other), Function.update_of_ne other, owns]

theorem owns_keep (here : v.handlers[k]? = some h) (same : v'.handlers = v.handlers.set k h')
    (array : h'.registeredApps = h.registeredApps) : v'.owns m = v.owns m := by
  rw [owns_set here same array, ← owns_here here, Function.update_eq_self]

theorem owns_start (same : v'.handlers = v.handlers ++ [.start m id]) : v'.owns m = v.owns m := by
  funext k
  rw [owns, owns, same]
  rcases Nat.lt_trichotomy k v.handlers.length with old | new | beyond
  · rw [List.getElem?_append_left old]
  · subst new
    rw [List.getElem?_concat_length, List.getElem?_eq_none (Nat.le_refl _)]
    exact marked_clear m.list
  · rw [List.getElem?_eq_none (Nat.le_of_lt beyond), List.getElem?_eq_none]
    rw [List.length_append, List.length_singleton]
    exact beyond

end owns

theorem outcome_step (m : Machine) (k : Nat) (h : HandlerProcess) (history : List CapiEvent)
    (bytes : List UInt8) : Ledger.Step m.capi ⟨h.registeredApps, history⟩
      (h.outcome m k history bytes).session.ledger := by
  have capi : (h.environment m k).capi = m.capi := m.capi_shared k
  rw [HandlerProcess.outcome]
  split
  · exact .idle _
  · next run =>
    rw [← capi]
    exact handler_step _ _ (h.session history) _ (selected_some run).2.1

theorem receive_did (m : Machine) (v : Service) (k : Nat) (bytes : List UInt8) :
    Did m v (v.step m (.receive k bytes)) (.receive k bytes) := by
  simp only [step]
  split
  · next h here =>
    split
    · have stepped := outcome_step m k h v.history bytes
      generalize h.outcome m k v.history bytes = effect at stepped
      obtain ⟨⟨apps, outPacket, clientInfo, history⟩, memory, answer, listener⟩ := effect
      change Ledger.Step _ _ ⟨apps, history⟩ at stepped
      cases stepped with
      | idle => exact .nothing _ (owns_keep here rfl rfl) rfl
      | call _ _ call stale => exact .asked k bytes h call stale here rfl (owns_set here rfl rfl)
    · exact .nothing _ rfl rfl
  · exact .nothing _ rfl rfl

theorem releaseFirst_asks (more : releaseFirst env s = some (app, s')) :
    s'.history = s.history ++ [(.release (.ofNat app), env.capi s.history (.release (.ofNat app)))] := by
  simp only [releaseFirst] at more
  split at more
  · cases more
  · obtain ⟨rfl, rfl⟩ := Prod.mk.inj (Option.some.inj more)
    rfl

theorem release_did (m : Machine) (v : Service) (k : Nat) :
    Did m v (v.step m (.release k)) (.release k) := by
  simp only [step]
  split
  · next h here =>
    split
    · split
      · exact .nothing _ (owns_keep here rfl rfl) rfl
      · next app s more =>
        obtain ⟨member, list, -⟩ := releaseFirst_some more
        obtain ⟨⟨-, bound⟩, mark⟩ := mem_markedCells.mp member
        change app ≤ (m.environment k).maxAppl at bound
        have small := (m.environment k).maxAppl_int
        have value : (UInt32.ofNat app).toNat = app := by
          rw [UInt32.toNat_ofNat', Nat.mod_eq_of_lt (by omega)]
        rw [m.maxAppl_shared] at bound
        have array : s.registeredApps = delApp (.ofNat app) h.registeredApps := by
          rw [delApp, value]
          exact list
        refine .released k (.ofNat app) ?_ ?_ ?_
        · rw [owns_here here]
          exact ⟨by rwa [value], by rwa [value]⟩
        · rw [← m.capi_shared k]
          exact releaseFirst_asks more
        · rw [owns_here here, ← marked_del]
          exact owns_set here rfl array
    · exact .nothing _ rfl rfl
  · exact .nothing _ rfl rfl

theorem step_did (m : Machine) (v : Service) (o : Occurrence) : Did m v (v.step m o) o := by
  cases o with
  | receive k bytes => exact receive_did m v k bytes
  | release k => exact release_did m v k
  | refuse => exact .nothing _ rfl rfl
  | accept forks =>
    simp only [step]
    split
    · exact .nothing _ rfl rfl
    · split
      · exact .nothing _ (owns_start rfl) rfl
      · split
        · exact .nothing _ (owns_start rfl) rfl
        · exact .nothing _ rfl rfl
  | hangup k =>
    simp only [step]
    split
    · next h here =>
      split
      · exact .nothing _ (owns_keep here rfl rfl) rfl
      · exact .nothing _ rfl rfl
    · exact .nothing _ rfl rfl
  | kill k signal =>
    simp only [step]
    split
    · next h here =>
      split
      · exact .nothing _ (owns_keep here rfl rfl) rfl
      · exact .nothing _ rfl rfl
    · exact .nothing _ rfl rfl
  | wake l =>
    simp only [step]
    split
    · next data found => exact .woken l data.appId rfl rfl
    · exact .nothing _ rfl rfl
  | interrupt signal =>
    simp only [step]
    split <;> exact .nothing _ rfl rfl
  | dismiss l signal =>
    simp only [step]
    split <;> exact .nothing _ rfl rfl

end Service

/-- A machine with the sample CAPI, where the server does not run in debug mode. -/
def Machine.sample : Machine where
  capi := .firstFree 240
  maxAppl := 240
  debug := false
  environment _ := .loopback
  capi_shared _ := rfl
  maxAppl_shared _ := rfl
  list := zeros
  outPacket := .at zeros 0
  clientInfo := ⟨0, ⟨0, 0⟩, [], 0⟩
  packet := zeros

/-- The handler of a client that has registered an application is terminated. -/
def terminated : List Occurrence := [.accept true, .receive 0 registerRequest.bytes, .kill 0 .term]

end CapiProxy.LinuxServer
