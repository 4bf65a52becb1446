import CapiProxy.Integration.Errors
import CapiProxy.Traces.Throughout

/-! What the Win32 client and its session on the Win32 server think is registered. The server
changes its array before the answer travels, the client its list afterwards, so while calls are in
progress the two differ by the answers that are still on their way. -/
namespace CapiProxy.Integration
open Bytes Traces
open Win32Server (capiMaxappl)

inductive Request where
  | register (messageBufferSize maxLogicalConnection maxBDataBlocks maxBDataLen : UInt32)
  | release (applID : UInt32)

namespace Request

def type : Request → MessageType
  | .register .. => .capiRegister
  | .release _ => .capiRelease

/-- The client's function, with the address the id is stored at. -/
def function (pApplID : Nat) : Request → Win32Client.Call
  | .register size connections blocks length => .register size connections blocks length pApplID
  | .release applID => .release applID

def handler : Request → Win32Server.Handler
  | .register .. => Win32Server.execCapiRegister
  | .release _ => Win32Server.execCapiRelease

def call : Request → CapiCall
  | .register size connections blocks length => .register (some size) connections blocks length
  | .release applID => .release applID

/-- The request a handler finds at its pointers. -/
def Found (s : Win32Server.State) (p : Win32Server.Pointers) : Request → Prop
  | .register size connections blocks length =>
    [s.memory.word32 (p.rbody + 4 * 0), s.memory.word32 (p.rbody + 4 * 1),
      s.memory.word32 (p.rbody + 4 * 2), s.memory.word32 (p.rbody + 4 * 3)] =
        [size, connections, blocks, length]
  | .release applID => (s.request p).appId = applID

end Request

def follow (list : List Win32Client.Application) (event : CapiEvent) : List Win32Client.Application :=
  match event.registered, event.released with
  | some app, _ => Win32Client.addApp app list
  | none, some app => (Win32Client.delApp app list).1
  | none, none => list

/-- A call that released something takes one entry off the list, one that registered something adds one. -/
theorem count_follow (list : List Win32Client.Application) (event : CapiEvent) (app : UInt32)
    (listed : event.released = some app → 0 < (list.map (·.applID)).count app) :
    ((follow list event).map (·.applID)).count app + (if event.released = some app then 1 else 0) =
      (list.map (·.applID)).count app + if event.registered = some app then 1 else 0 := by
  cases gained : event.registered with
  | some app' =>
    have kept : event.released = none := by
      obtain ⟨call, reply⟩ := event
      cases call <;> first | rfl | cases gained
    simp only [follow, gained, kept, Win32Client.addApp, List.map_append, List.map_cons, List.map_nil,
      List.count_append, List.count_singleton, reduceCtorEq, if_false, Nat.add_zero, Option.some.injEq,
      beq_iff_eq]
  | none =>
    cases lost : event.released with
    | none => simp only [follow, gained, lost, reduceCtorEq, if_false]
    | some app' =>
      simp only [follow, gained, lost, Win32Client.delApp_applID, List.count_erase, reduceCtorEq, if_false,
        Option.some.injEq, beq_iff_eq]
      split
      · next same =>
        have some := listed (lost.trans (congrArg Option.some same))
        omega
      · omega

/-- The answer has what the client needs to follow the call. -/
structure Reports (a : AnswerBuffer) (request : Request) (reply : CapiReply) : Prop where
  composed : Composed .msvc request.type a
  accepted : a.head.proxyError = perrorNone
  code : a.head.capiError = reply.code
  app : ∀ app, CapiEvent.registered (request.call, reply) = some app → a.head.appId = app

theorem Request.served (env : Win32Server.Environment) (n : Nat) (found : request.Found s p)
    (stores : CapiEvent.Stores capiMaxappl (request.call, env.capi s.history request.call)) :
    let reply := env.capi s.history request.call
    ∃ a, request.handler env n p s = ⟨⟨{ s.client with
        registeredApps := record 0 s.client.registeredApps (request.call, reply) }, s.memory,
        s.history ++ [(request.call, reply)]⟩, some a, none⟩ ∧ Reports a request reply := by
  intro reply
  cases request with
  | register size connections blocks length =>
    simp only [Found, List.cons.injEq, and_true] at found
    obtain ⟨rfl, rfl, rfl, rfl⟩ := found
    rw [record_stale _ _ stores 0 (AnswerHeader.parse (env.stack n) 0).appId]
    refine ⟨_, rfl, composed_plain rfl rfl rfl rfl rfl, rfl, rfl, fun app registered => ?_⟩
    have written : reply.applID = some app := (Option.ite_none_right_eq_some.mp registered).2
    exact congrArg (Option.getD · _) written
  | release applID =>
    obtain rfl := found
    exact ⟨_, rfl, composed_plain rfl rfl rfl rfl rfl, rfl, rfl, nofun⟩

theorem Request.followed {env : Win32Client.Environment} (c : Win32Client.Client) (m : Memory)
    (request : Request) (reports : Reports a request reply) (malloc : env.malloc = true)
    (answered : env.sendAndReceive (c.msgId + 1) ((request.function pApplID).request c m).frame =
      some (Win32Client.Received.of a.frame).message)
    (stores : CapiEvent.Stores maxAppl (request.call, reply)) :
    ((request.function pApplID).run env c m).code = reply.code ∧
    ((request.function pApplID).run env c m).client.registeredApps =
      follow c.registeredApps (request.call, reply) := by
  obtain ⟨composed, accepted, code, app⟩ := reports
  have parsed := composed.parse_received
  have verified := composed.verified accepted (by cases request <;> simp [Request.type])
  have accepted : (AnswerHeader.parse (Win32Client.Received.of a.frame).message 0).proxyError =
      perrorNone := by rw [parsed, accepted]
  cases request with
  | register size connections blocks length =>
    rw [Request.function, Win32Client.Call.request] at answered
    rw [Request.type] at verified
    rw [Request.function, Win32Client.Call.run, Win32Client.capiRegister]
    obtain ⟨returned, -, listed⟩ := Win32Client.exchange_accepted
      (fun answer => [(pApplID, bytes32 (AnswerHeader.parse answer 0).appId)])
      (fun answer list => (Win32Client.addApp (AnswerHeader.parse answer 0).appId list, []))
      malloc answered verified accepted
    rw [returned, listed, parsed, code]
    refine ⟨rfl, ?_⟩
    by_cases success : reply.code = 0
    · obtain ⟨app', written, -⟩ := stores success
      have registered : CapiEvent.registered (Request.call (.register size connections blocks length),
          reply) = some app' := (if_pos success).trans written
      rw [if_pos success, follow, registered, app app' registered]
    · simp [success, follow, Request.call, CapiEvent.registered, CapiEvent.released]
  | release applID =>
    rw [Request.function, Win32Client.Call.request] at answered
    rw [Request.type] at verified
    rw [Request.function, Win32Client.Call.run, Win32Client.capiRelease]
    obtain ⟨returned, -, listed⟩ := Win32Client.exchange_accepted (fun _ => [])
      (fun _ => Win32Client.delApp applID) malloc answered verified accepted
    rw [returned, listed, parsed, code]
    refine ⟨rfl, ?_⟩
    by_cases success : reply.code = 0
    · simp [success, follow, Request.call, CapiEvent.registered, CapiEvent.released]
    · simp [success, follow, Request.call, CapiEvent.registered, CapiEvent.released]

/-- How far a call has come: its request is on the way to the server, or the server has dealt with
it and the answer is on the way back. -/
inductive Stage where
  | requested (request : Request)
  | answered (event : CapiEvent)

namespace Stage

def registers (app : UInt32) : Stage → Bool
  | .requested _ => false
  | .answered event => event.registered = some app

def releases (app : UInt32) : Stage → Bool
  | .requested _ => false
  | .answered event => event.released = some app

end Stage

/-- The CAPI with its history, the array of the session, the calls in progress, one for each
thread that is in one, the ids that register calls have returned, and the list of the client. -/
structure Registrations where
  history : List CapiEvent
  apps : Memory
  calls : List Stage
  returned : List UInt32
  list : List Win32Client.Application

/-- A thread enters a call, the server serves a request that has arrived, a thread gets its answer
and returns, or somebody else asks the CAPI. Requests and answers may overtake each other. -/
inductive Move where
  | enter (request : Request)
  | serve (thread : Nat)
  | leave (thread : Nat)
  | other (call : CapiCall)

namespace Registrations

def start (history : List CapiEvent) (list : Memory) : Registrations :=
  ⟨history, clearApps capiMaxappl list, [], [], []⟩

def step (capi : Capi) (r : Registrations) : Move → Registrations
  | .enter request => { r with calls := r.calls ++ [.requested request] }
  | .serve thread =>
    match r.calls[thread]? with
    | some (.requested request) =>
      let event := (request.call, capi r.history request.call)
      { r with
        history := r.history ++ [event]
        apps := record 0 r.apps event
        calls := r.calls.set thread (.answered event) }
    | _ => r
  | .leave thread =>
    match r.calls[thread]? with
    | some (.answered event) =>
      { r with
        calls := r.calls.eraseIdx thread
        returned := event.registered.toList ++ r.returned
        list := follow r.list event }
    | _ => r
  | .other call => { r with history := r.history ++ [(call, capi r.history call)] }

def run (capi : Capi) (r : Registrations) (moves : List Move) : Registrations := moves.foldl (step capi) r

theorem run_append (capi : Capi) (r : Registrations) (moves : List Move) (move : Move) :
    run capi r (moves ++ [move]) = (run capi r moves).step capi move := by
  rw [run, List.foldl_append]
  rfl

def occurrences (r : Registrations) (app : UInt32) : Nat := (r.list.map (·.applID)).count app

def marks (r : Registrations) (app : UInt32) : Nat := if app ∈ marked capiMaxappl r.apps then 1 else 0

/-- A release is only called for an id that a register call has returned, and nobody else releases
an application of the session. -/
def Disciplined (capi : Capi) (r : Registrations) : Move → Prop
  | .enter (.release app) => app ∈ r.returned
  | .other call => ∀ app ∈ CapiEvent.released (call, capi r.history call), app ∉ marked capiMaxappl r.apps
  | _ => True

/-- A request that releases something when it is served ends a registration of the session whose
register call has returned. -/
def Ends (capi : Capi) (r : Registrations) : Stage → Prop
  | .requested request => ∀ app ∈ CapiEvent.released (request.call, capi r.history request.call),
      app ∈ marked capiMaxappl r.apps ∧ r.calls.countP (Stage.registers app) = 0
  | .answered _ => True

def Settles (capi : Capi) (r : Registrations) : Move → Prop
  | .serve thread => ∀ stage ∈ r.calls[thread]?, r.Ends capi stage
  | _ => True

instance (capi : Capi) (r : Registrations) : (move : Move) → Decidable (r.Disciplined capi move)
  | .enter (.release app) => inferInstanceAs (Decidable (app ∈ r.returned))
  | .other call => Option.decidableForallMem (CapiEvent.released (call, capi r.history call))
  | .enter (.register ..) | .serve _ | .leave _ => .isTrue trivial

instance (capi : Capi) (r : Registrations) : (stage : Stage) → Decidable (r.Ends capi stage)
  | .requested request =>
    Option.decidableForallMem (CapiEvent.released (request.call, capi r.history request.call))
  | .answered _ => .isTrue trivial

instance (capi : Capi) (r : Registrations) : (move : Move) → Decidable (r.Settles capi move)
  | .serve thread => Option.decidableForallMem r.calls[thread]?
  | .enter _ | .leave _ | .other _ => .isTrue trivial

/-- An application has as many entries in the client's list as the array marks, but for the
answers on their way. Only what the CAPI has registered is marked, and only what is marked can have
the answer of a register call on its way. -/
structure Agrees (r : Registrations) : Prop where
  live : marked capiMaxappl r.apps ⊆ registered r.history
  balance : ∀ app, r.occurrences app + r.calls.countP (Stage.registers app) =
    r.marks app + r.calls.countP (Stage.releases app)
  pending : ∀ app, r.calls.countP (Stage.registers app) ≤ r.marks app

theorem Agrees.start (history : List CapiEvent) (list : Memory) : (start history list).Agrees where
  live := by simp [Registrations.start, marked_clear]
  balance app := by simp [Registrations.start, occurrences, marks, marked_clear]
  pending app := by simp [Registrations.start]

theorem marks_record (event : CapiEvent) (stores : event.Stores capiMaxappl) (list : Memory) (app : UInt32)
    (free : event.registered = some app → app ∉ marked capiMaxappl list)
    (taken : event.released = some app → app ∈ marked capiMaxappl list) :
    (if app ∈ marked capiMaxappl (record 0 list event) then 1 else 0) +
        (if event.released = some app then 1 else 0) =
      (if app ∈ marked capiMaxappl list then 1 else 0) + if event.registered = some app then 1 else 0 := by
  have after : app ∈ marked capiMaxappl (record 0 list event) ↔
      event.registered = some app ∨ app ∈ marked capiMaxappl list ∧ event.released ≠ some app := by
    rw [marked_record event stores]
    exact Iff.rfl
  simp only [after]
  by_cases gained : event.registered = some app
  · have unmarked := free gained
    have kept : event.released ≠ some app := fun lost => unmarked (taken lost)
    simp [gained, unmarked, kept]
  · by_cases lost : event.released = some app
    · simp [gained, lost, taken lost]
    · simp [gained, lost]

section steps
variable {capi : Capi} {r : Registrations}

theorem countP_enter {request : Request} (p : Stage → Bool)
    (silent : p (Stage.requested request) = false) (stages : List Stage) :
    (stages ++ [Stage.requested request]).countP p = stages.countP p := by
  rw [List.countP_append, List.countP_singleton, silent]
  rfl

theorem countP_serve {stages : List Stage} (found : stages[thread]? = some (.requested request))
    (p : Stage → Bool) (silent : p (.requested request) = false) (event : CapiEvent) :
    (stages.set thread (.answered event)).countP p =
      stages.countP p + if p (.answered event) then 1 else 0 := by
  obtain ⟨inside, here⟩ := List.getElem?_eq_some_iff.mp found
  rw [List.countP_set inside, here, silent]
  rfl

theorem countP_leave {stages : List Stage} (found : stages[thread]? = some stage) (p : Stage → Bool) :
    stages.countP p = (stages.eraseIdx thread).countP p + if p stage then 1 else 0 := by
  obtain ⟨inside, rfl⟩ := List.getElem?_eq_some_iff.mp found
  rw [← (List.getElem_cons_eraseIdx_perm inside).countP_eq, List.countP_cons]

theorem Agrees.enter (agrees : r.Agrees) (request : Request) :
    (r.step capi (.enter request)).Agrees := by
  refine ⟨agrees.live, fun app => ?_, fun app => ?_⟩
  · rw [step, countP_enter (Stage.registers app) rfl, countP_enter (Stage.releases app) rfl]
    exact agrees.balance app
  · rw [step, countP_enter (Stage.registers app) rfl]
    exact agrees.pending app

theorem Agrees.serve (agrees : r.Agrees) (free : capi.HandsOutFree capiMaxappl)
    (found : r.calls[thread]? = some (.requested request)) (settles : r.Settles capi (.serve thread)) :
    (r.step capi (.serve thread)).Agrees := by
  obtain ⟨live, balance, pending⟩ := agrees
  let event : CapiEvent := (request.call, capi r.history request.call)
  have stepped : r.step capi (.serve thread) = { r with
      history := r.history ++ [event], apps := record 0 r.apps event,
      calls := r.calls.set thread (.answered event) } := by simp only [step, found, event]
  have stores : event.Stores capiMaxappl := free.stores r.history request.call
  have unmarked (app : UInt32) (gained : event.registered = some app) :
      app ∉ marked capiMaxappl r.apps := fun marks =>
    Set.disjoint_left.mp (free.gained_free r.history request.call) gained (live marks)
  have settled : ∀ app, event.released = some app → app ∈ marked capiMaxappl r.apps ∧
      r.calls.countP (Stage.registers app) = 0 := settles (.requested request) found
  have registers (app : UInt32) := countP_serve found (Stage.registers app) rfl event
  have releases (app : UInt32) := countP_serve found (Stage.releases app) rfl event
  have marks (app : UInt32) := marks_record event stores r.apps app (unmarked app) fun lost =>
    (settled app lost).1
  simp only [Stage.registers, Stage.releases, decide_eq_true_eq] at registers releases
  rw [stepped]
  refine ⟨?_, fun app => ?_, fun app => ?_⟩
  · rw [marked_record event stores, registered_append]
    exact Set.union_subset_union_right _ (Set.sdiff_subset_sdiff_left live)
  · have before := balance app
    have recorded := marks app
    simp only [Registrations.marks, occurrences] at before ⊢
    rw [registers, releases]
    omega
  · have before := pending app
    have recorded := marks app
    have ends := settled app
    simp only [Registrations.marks] at before ⊢
    rw [registers]
    by_cases lost : event.released = some app
    · obtain ⟨marked, idle⟩ := settled app lost
      rw [if_pos marked, if_pos lost] at recorded
      omega
    · rw [if_neg lost] at recorded
      omega

theorem Agrees.leave (agrees : r.Agrees) (found : r.calls[thread]? = some (.answered event)) :
    (r.step capi (.leave thread)).Agrees := by
  obtain ⟨live, balance, pending⟩ := agrees
  have stepped : r.step capi (.leave thread) = { r with
      calls := r.calls.eraseIdx thread, returned := event.registered.toList ++ r.returned,
      list := follow r.list event } := by simp only [step, found]
  have registers (app : UInt32) := countP_leave found (Stage.registers app)
  have releases (app : UInt32) := countP_leave found (Stage.releases app)
  simp only [Stage.registers, Stage.releases, decide_eq_true_eq] at registers releases
  rw [stepped]
  refine ⟨live, fun app => ?_, fun app =>
    (Nat.le_add_right _ _).trans ((registers app).ge.trans (pending app))⟩
  have before := balance app
  rw [registers, releases] at before
  have few := pending app
  rw [registers] at few
  simp only [occurrences, marks] at before few ⊢
  have followed := count_follow r.list event app fun lost => by
    rw [if_pos lost] at before
    omega
  omega

theorem Agrees.step (agrees : r.Agrees) (free : capi.HandsOutFree capiMaxappl) (move : Move)
    (disciplined : r.Disciplined capi move) (settles : r.Settles capi move) : (r.step capi move).Agrees := by
  cases move with
  | enter request => exact agrees.enter request
  | serve thread =>
    cases found : r.calls[thread]? with
    | none => simpa only [Registrations.step, found] using agrees
    | some stage =>
      cases stage with
      | requested request => exact agrees.serve free found settles
      | answered event => simpa only [Registrations.step, found] using agrees
  | leave thread =>
    cases found : r.calls[thread]? with
    | none => simpa only [Registrations.step, found] using agrees
    | some stage =>
      cases stage with
      | requested request => simpa only [Registrations.step, found] using agrees
      | answered event => exact agrees.leave found
  | other call =>
    refine ⟨?_, agrees.balance, agrees.pending⟩
    rw [Registrations.step, registered_append]
    exact fun app marks => .inr ⟨agrees.live marks, fun lost => disciplined app lost marks⟩

theorem Agrees.run (free : capi.HandsOutFree capiMaxappl) (agrees : r.Agrees)
    (disciplined : Throughout (fun before move => (r.run capi before).Disciplined capi move) moves)
    (settles : Throughout (fun before move => (r.run capi before).Settles capi move) moves) :
    (r.run capi moves).Agrees := by
  have both : Throughout (fun before move => (r.run capi before).Disciplined capi move ∧
      (r.run capi before).Settles capi move) moves :=
    fun before move after split => ⟨disciplined before move after split, settles before move after split⟩
  refine both.invariant (P := fun moves => (r.run capi moves).Agrees) agrees fun before move reached here => ?_
  rw [run_append]
  exact reached.step free move here.1 here.2

end steps

/-- As long as every release that is accepted ends a registration whose register call has returned,
the client lists what the server marks whenever no call is in progress. -/
theorem registrations_agree (capi : Capi) (history : List CapiEvent) (list : Memory) (moves : List Move)
    (free : capi.HandsOutFree capiMaxappl)
    (disciplined : Throughout (fun before move => ((start history list).run capi before).Disciplined capi move)
      moves)
    (settles : Throughout (fun before move => ((start history list).run capi before).Settles capi move) moves)
    (quiet : ((start history list).run capi moves).calls = []) (app : UInt32) :
    ((start history list).run capi moves).occurrences app =
      ((start history list).run capi moves).marks app := by
  have balance := ((Agrees.start history list).run free disciplined settles).balance app
  rw [quiet] at balance
  exact balance

/-- A CAPI that hands out the smallest free id and refuses to release an id that is not registered. -/
def accounting : Capi := fun history call =>
  match call with
  | .release app =>
    if app ∈ held history then ⟨0, none, 0, zeros, []⟩ else ⟨0x1101, none, 0, zeros, []⟩
  | call => Capi.firstFree capiMaxappl history call

def ReleasesLive (capi : Capi) : Prop :=
  ∀ history app, (capi history (.release app)).code = 0 → app ∈ held history

theorem accounting_handsOutFree : accounting.HandsOutFree capiMaxappl := fun history =>
  Capi.firstFree_handsOutFree (by decide) history

theorem accounting_releasesLive : ReleasesLive accounting := by
  intro history app accepted
  by_contra unknown
  simp only [accounting, if_neg unknown] at accepted
  cases accepted

def registering : Request := .register 4096 2 7 2048

def turns : List Move :=
  [.enter registering, .serve 0, .leave 0, .enter (.release 1), .serve 0, .leave 0]

/-- Two threads release the id that a register call has returned, and a third registers again. The
CAPI hands the id out again between the two releases, and the third thread is the last to return. -/
def doubleRelease : List Move :=
  [.enter registering, .serve 0, .leave 0, .enter (.release 1), .enter (.release 1), .enter registering,
    .serve 0, .serve 2, .serve 1, .leave 0, .leave 0, .leave 0]

theorem turns_agree : ((start [] zeros).run accounting turns).occurrences 1 =
    ((start [] zeros).run accounting turns).marks 1 :=
  registrations_agree accounting [] zeros turns accounting_handsOutFree (by decide +kernel) (by decide +kernel)
    (by decide +kernel) 1

theorem doubleRelease_disagrees :
    accounting.HandsOutFree capiMaxappl ∧ ReleasesLive accounting ∧
    Throughout (fun before move => ((start [] zeros).run accounting before).Disciplined accounting move)
      doubleRelease ∧
    ((start [] zeros).run accounting doubleRelease).calls = [] ∧
    ((start [] zeros).run accounting doubleRelease).occurrences 1 = 1 ∧
    ((start [] zeros).run accounting doubleRelease).marks 1 = 0 :=
  ⟨accounting_handsOutFree, accounting_releasesLive, by decide +kernel, by decide +kernel,
    by decide +kernel, by decide +kernel⟩

end Registrations

end CapiProxy.Integration
