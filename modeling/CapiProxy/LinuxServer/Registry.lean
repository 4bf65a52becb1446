import CapiProxy.Loops.Rounds
import CapiProxy.LinuxServer.Cleanup

/-! The cells of `registered_apps` that are written or read, from the `memset` in `main` to the end of
`release_all`. -/
namespace CapiProxy.LinuxServer
open Bytes Loops Streams

/-- The array is declared with `CAPI_MAXAPPL` cells. -/
def sizeofRegisteredApps (maxAppl : Nat) : Nat := maxAppl

inductive Site where
  | memset | addApp | delApp | getfirstApp
  deriving DecidableEq, Repr

structure Touch where
  site : Site
  cell : Nat
  deriving DecidableEq, Repr

/-- An array, and where it was written or read. -/
structure Registry where
  cells : Memory
  touched : List Touch

namespace Registry

def look (r : Registry) (site : Site) (i : Nat) : Registry := { r with touched := r.touched ++ [⟨site, i⟩] }

def store (r : Registry) (site : Site) (i : Nat) (b : UInt8) : Registry :=
  ⟨r.cells.write i [b], r.touched ++ [⟨site, i⟩]⟩

def memset (r : Registry) (n : Nat) : Registry := (List.range n).foldl (fun r i => r.store .memset i 0) r

def addApp (r : Registry) (app : UInt32) : Registry := r.store .addApp app.toNat 1
def delApp (r : Registry) (app : UInt32) : Registry := r.store .delApp app.toNat 0

/-- The loop of `getfirst_app` from cell i on. -/
def scan (r : Registry) (i : Nat) : Nat → Nat × Registry
  | 0 => (0, r)
  | left + 1 =>
    if r.cells i ≠ 0 then (i, (r.look .getfirstApp i).store .getfirstApp i 0)
    else (r.look .getfirstApp i).scan (i + 1) left

def getfirstApp (maxAppl : Nat) (r : Registry) : Nat × Registry := r.scan 1 maxAppl

/-- What the handler of a request does to the array, after its call to the CAPI. -/
def handle (r : Registry) (env : Environment) (s : Session) (m : Memory) : MessageType → Registry
  | .capiRegister =>
    let word i := m.word32 (requestBody env m + 4 * i)
    let reply := env.capi s.history (.register none (word 1) (word 2) (word 3))
    if reply.code = 0 then r.addApp (reply.applID.getD s.outPacket.head.appId) else r
  | .capiRelease =>
    let appId := (request env m).appId
    if (env.capi s.history (.release appId)).code = 0 then r.delApp appId else r
  | _ => r

end Registry

/-- A connection, and where its array was touched. -/
structure Watched where
  connection : Connection
  touched : List Touch

namespace Watched

def session (w : Watched) : Session := w.connection.session

def registry (w : Watched) : Registry := ⟨w.session.registeredApps, w.touched⟩

/-- The connection as `main` starts it, after the `memset`. -/
def start (env : Environment) (list : Memory) (outPacket : AnswerBuffer) (clientInfo : ClientInfo) : Watched :=
  ⟨.start env list outPacket clientInfo, (Registry.memset ⟨list, []⟩ (env.maxAppl + 1)).touched⟩

def dispatch (env : Environment) (w : Watched) (m : Memory) : Watched × Memory :=
  let (connection, memory) := LinuxServer.dispatch env w.connection m
  let touched := match selected env m with
    | none => w.touched
    | some (type, _) => (w.registry.handle env w.session m type).touched
  (⟨connection, touched⟩, memory)

/-- A round of the loop in `release_all`. -/
def releaseRound (env : Environment) (w : Watched) : Round Watched Watched :=
  let (app, r) := w.registry.getfirstApp env.maxAppl
  let cleared := { w.session with registeredApps := r.cells }
  if app = 0 then .leave { w with connection.session := cleared, touched := r.touched }
  else
    .again { w with
      connection.session := (cleared.call env (.release (.ofNat app))).2, touched := r.touched }

def releaseAll (env : Environment) (fuel : Nat) (w : Watched) : Option Watched :=
  rounds (releaseRound env) fuel w

/-- A connection from the `memset` to the end of the receive loop. -/
def served (env : Environment) (list : Memory) (outPacket : AnswerBuffer) (clientInfo : ClientInfo)
    (m : Memory) (source : Source UInt8) : Watched :=
  (serve env.inPacket (dispatch env) (start env list outPacket clientInfo) m source).state

/-- All that is touched is in the array. -/
def Contained (env : Environment) (w : Watched) : Prop :=
  ∀ t ∈ w.touched, t.cell < sizeofRegisteredApps env.maxAppl

end Watched

namespace Registry
variable {site : Site} {cell : Nat}

theorem memset_eq (r : Registry) (n : Nat) : r.memset n =
    ⟨r.cells.write 0 (List.replicate n 0), r.touched ++ (List.range n).map (Touch.mk .memset)⟩ := by
  induction n with
  | zero => simp [memset]
  | succ n ih =>
    have zeros : (List.replicate (n + 1) 0 : List UInt8) = List.replicate n 0 ++ [0] := List.replicate_succ'
    rw [memset, List.range_succ, List.foldl_append, ← memset, ih, zeros, Memory.write_append,
      List.length_replicate, Nat.zero_add, List.map_append, ← List.append_assoc]
    rfl

theorem mem_look (r : Registry) (site' : Site) (i : Nat) :
    ⟨site, cell⟩ ∈ (r.look site' i).touched ↔ ⟨site, cell⟩ ∈ r.touched ∨ site = site' ∧ cell = i := by
  rw [look, List.mem_append, List.mem_singleton, Touch.mk.injEq]

theorem mem_store (r : Registry) (site' : Site) (i : Nat) (b : UInt8) :
    ⟨site, cell⟩ ∈ (r.store site' i b).touched ↔ ⟨site, cell⟩ ∈ r.touched ∨ site = site' ∧ cell = i := by
  rw [store, List.mem_append, List.mem_singleton, Touch.mk.injEq]

theorem scan_eq (r : Registry) (i left : Nat) : ((r.scan i left).1, (r.scan i left).2.cells) =
    match (List.range' i left).find? fun i => r.cells i ≠ 0 with
    | some j => (j, r.cells.write j [0])
    | none => (0, r.cells) := by
  induction left generalizing r i with
  | zero => rfl
  | succ left ih =>
    rw [List.range'_succ, List.find?_cons, scan]
    by_cases mark : r.cells i ≠ 0
    · rw [if_pos mark, decide_eq_true mark]
      rfl
    · rw [if_neg mark, decide_eq_false mark]
      exact ih (r.look .getfirstApp i) (i + 1)

theorem mem_scan (r : Registry) (i left : Nat) : ⟨site, cell⟩ ∈ (r.scan i left).2.touched ↔
    ⟨site, cell⟩ ∈ r.touched ∨ site = .getfirstApp ∧ i ≤ cell ∧ cell < i + left ∧
      ∀ k, i ≤ k → k < cell → r.cells k = 0 := by
  induction left generalizing r i with
  | zero => exact (or_iff_left fun ⟨_, low, high, _⟩ => by omega).symm
  | succ left ih =>
    rw [scan]
    by_cases mark : r.cells i ≠ 0
    · rw [if_pos mark, mem_store, mem_look, or_assoc, or_self]
      refine or_congr_right (and_congr_right fun _ => ⟨?_, fun ⟨low, _, clear⟩ => ?_⟩)
      · rintro rfl
        exact ⟨Nat.le_refl cell, by omega, fun k above below => by omega⟩
      · rcases Nat.eq_or_lt_of_le low with first | later
        · exact first.symm
        · exact absurd (clear i (Nat.le_refl i) later) mark
    · have zero : r.cells i = 0 := not_not.mp mark
      rw [if_neg mark, ih, mem_look, or_assoc, ← and_or_left]
      refine or_congr_right (and_congr_right fun _ => ⟨?_, fun ⟨low, high, clear⟩ => ?_⟩)
      · rintro (rfl | ⟨low, high, clear⟩)
        · exact ⟨Nat.le_refl cell, by omega, fun k above below => by omega⟩
        · refine ⟨by omega, by omega, fun k above below => ?_⟩
          rcases Nat.eq_or_lt_of_le above with rfl | later
          · exact zero
          · exact clear k later below
      · rcases Nat.eq_or_lt_of_le low with first | later
        · exact .inl first.symm
        · exact .inr ⟨later, by omega, fun k above below => clear k (by omega) below⟩

example : (scan ⟨zeros.write 2 [1], []⟩ 1 3).2.touched =
    [⟨.getfirstApp, 1⟩, ⟨.getfirstApp, 2⟩, ⟨.getfirstApp, 2⟩] := by decide

/-- With the touched cells left out, this is the `getfirst_app` of the connection's cleanup. -/
theorem getfirstApp_eq (maxAppl : Nat) (r : Registry) :
    ((r.getfirstApp maxAppl).1, (r.getfirstApp maxAppl).2.cells) =
      LinuxServer.getfirstApp maxAppl r.cells := scan_eq r 1 maxAppl

theorem mem_getfirstApp (maxAppl : Nat) (r : Registry) :
    ⟨site, cell⟩ ∈ (r.getfirstApp maxAppl).2.touched ↔
      ⟨site, cell⟩ ∈ r.touched ∨ site = .getfirstApp ∧ 1 ≤ cell ∧ cell ≤ maxAppl ∧
        ∀ k, 1 ≤ k → k < cell → r.cells k = 0 := by
  rw [getfirstApp, mem_scan, Nat.add_comm, Nat.lt_succ_iff]

theorem handle_cells (found : handlerOf type = some handler) (env : Environment) (n : Nat) (s : Session)
    (m : Memory) (touched : List Touch) :
    (handle ⟨s.registeredApps, touched⟩ env s m type).cells = (handler env n s m).session.registeredApps := by
  cases type <;> first
    | cases found; done
    | obtain rfl := Option.some.inj found
  case capiRegister =>
    simp only [handle, execCapiRegister, send, Session.call]
    exact apply_ite Registry.cells ..
  case capiRelease =>
    simp only [handle, execCapiRelease, send, Session.call]
    exact apply_ite Registry.cells ..
  case capiPutmessage =>
    simp only [handle, execCapiPutmessage]
    split <;> rfl
  case capiWaitforsignal =>
    simp only [handle, execCapiWaitforsignal]
    split <;> rfl
  all_goals rfl

/-- A call after which `add_app` or `del_app` touches this cell. -/
def Marks (event : CapiEvent) : Site → Nat → Prop
  | .addApp, cell => ∃ app, event.registered = some app ∧ app.toNat = cell
  | .delApp, cell => ∃ app, event.released = some app ∧ app.toNat = cell
  | _, _ => False

theorem not_marks {event : CapiEvent} (registered : event.registered = none)
    (released : event.released = none) : ¬ Marks event site cell := by
  cases site <;> simp [Marks, registered, released]

theorem not_marks_failed {reply : CapiReply} (failure : reply.code ≠ 0) (call : CapiCall) :
    ¬ Marks (call, reply) site cell := by
  refine not_marks ?_ ?_
  · cases call <;> simp [CapiEvent.registered, failure]
  · cases call <;> simp [CapiEvent.released, failure]

theorem marks_register {reply : CapiReply} (success : reply.code = 0) (written : reply.applID = some app) :
    Marks (.register size connections blocks length, reply) site cell ↔
      site = .addApp ∧ cell = app.toNat := by
  cases site <;> simp [Marks, CapiEvent.registered, CapiEvent.released, success, written, eq_comm]

theorem marks_release {reply : CapiReply} (success : reply.code = 0) :
    Marks (.release app, reply) site cell ↔ site = .delApp ∧ cell = app.toNat := by
  cases site <;> simp [Marks, CapiEvent.registered, CapiEvent.released, success, eq_comm]

/-- A handler makes at most one call, and the array is touched by what comes of it. -/
structure Tracks (r r' : Registry) (history history' calls : List CapiEvent) : Prop where
  made : history' = history ++ calls
  touched : ∀ site cell, ⟨site, cell⟩ ∈ r'.touched ↔
    ⟨site, cell⟩ ∈ r.touched ∨ ∃ event ∈ calls, Marks event site cell

theorem Tracks.idle (r : Registry) (history : List CapiEvent) : Tracks r r history history [] where
  made := (List.append_nil history).symm
  touched _ _ := (or_iff_left fun ⟨_, member, _⟩ => List.not_mem_nil member).symm

theorem Tracks.call {r r' : Registry} {event : CapiEvent}
    (touched : ∀ site cell, ⟨site, cell⟩ ∈ r'.touched ↔ ⟨site, cell⟩ ∈ r.touched ∨ Marks event site cell)
    (history : List CapiEvent) : Tracks r r' history (history ++ [event]) [event] where
  made := rfl
  touched site cell := by
    rw [touched]
    simp only [List.mem_singleton, exists_eq_left]

theorem Tracks.query (r : Registry) (history : List CapiEvent) {event : CapiEvent}
    (registered : event.registered = none) (released : event.released = none) :
    Tracks r r history (history ++ [event]) [event] :=
  .call (fun _ _ => (or_iff_left (not_marks registered released)).symm) history

theorem register_tracks (r : Registry) (env : Environment) (free : env.capi.HandsOutFree env.maxAppl) (n : Nat)
    (s : Session) (m : Memory) : ∃ calls,
      Tracks r (r.handle env s m .capiRegister) s.history (execCapiRegister env n s m).session.history calls := by
  refine ⟨_, .call (fun site cell => ?_) s.history⟩
  rw [handle]
  dsimp only
  split
  · next success =>
    obtain ⟨app, written, -⟩ := free _ _ _ _ _ success
    rw [written, Option.getD_some, addApp, mem_store, marks_register success written]
  · next failure => exact (or_iff_left (not_marks_failed failure _)).symm

theorem release_tracks (r : Registry) (env : Environment) (n : Nat) (s : Session) (m : Memory) : ∃ calls,
    Tracks r (r.handle env s m .capiRelease) s.history (execCapiRelease env n s m).session.history calls := by
  refine ⟨_, .call (fun site cell => ?_) s.history⟩
  simp only [handle]
  split
  · next success => rw [delApp, mem_store, marks_release success]
  · next failure => exact (or_iff_left (not_marks_failed failure _)).symm

theorem handle_tracks (found : handlerOf type = some handler) (r : Registry) (env : Environment)
    (free : env.capi.HandsOutFree env.maxAppl) (n : Nat) (s : Session) (m : Memory) :
    ∃ calls, Tracks r (r.handle env s m type) s.history (handler env n s m).session.history calls := by
  cases type <;> first
    | cases found; done
    | obtain rfl := Option.some.inj found
  case capiRegister => exact register_tracks r env free n s m
  case capiRelease => exact release_tracks r env n s m
  case capiPutmessage =>
    simp only [execCapiPutmessage]
    split
    · exact ⟨_, .idle r s.history⟩
    · exact ⟨_, .query r s.history rfl rfl⟩
  case capiWaitforsignal =>
    simp only [execCapiWaitforsignal]
    split <;> exact ⟨_, .idle r s.history⟩
  case proxyHelo => exact ⟨_, .idle r s.history⟩
  case proxyAuth => exact ⟨_, .idle r s.history⟩
  all_goals exact ⟨_, .query r s.history rfl rfl⟩

theorem handle_keeps (r : Registry) (env : Environment) (s : Session) (m : Memory) (type : MessageType)
    (member : ⟨site, cell⟩ ∈ r.touched) : ⟨site, cell⟩ ∈ (r.handle env s m type).touched := by
  have kept (other : Site) (app : UInt32) (b : UInt8) :
      ⟨site, cell⟩ ∈ (r.store other app.toNat b).touched := (mem_store ..).mpr (.inl member)
  cases type with
  | capiRegister =>
    simp only [handle]
    split
    · exact kept _ _ _
    · exact member
  | capiRelease =>
    simp only [handle]
    split
    · exact kept _ _ _
    · exact member
  | _ => exact member

theorem marks_admitted {capi : Capi} (free : capi.HandsOutFree maxAppl)
    (admitted : capi.ReleasesAdmitted maxAppl) (call : CapiCall)
    (marks : Marks (call, capi history call) site cell) : cell ≤ maxAppl := by
  by_cases success : (capi history call).code = 0
  · cases call with
    | register size connections blocks length =>
      obtain ⟨app, written, -, small, -⟩ := free _ _ _ _ _ success
      rw [((marks_register success written).mp marks).2]
      exact small
    | release app =>
      rw [((marks_release success).mp marks).2]
      exact admitted history app success
    | _ => exact absurd marks (not_marks rfl rfl)
  · exact absurd marks (not_marks_failed success call)

end Registry

/-- What is kept along with the state of the receive loop does not change the loop. -/
theorem serve_map (inPacket : Nat) (dispatch : σ → Memory → σ × Memory) (dispatch' : τ → Memory → τ × Memory)
    (f : σ → τ) (same : ∀ s m, dispatch' (f s) m = (f (dispatch s m).1, (dispatch s m).2)) (s : σ) (m : Memory)
    (source : Source UInt8) : f (serve inPacket dispatch s m source).state =
      (serve inPacket dispatch' (f s) m source).state := by
  fun_induction serve inPacket dispatch s m source with
  | case1 s m source header stored ended =>
    rw [serve, if_pos ended]
  | case2 s m source header stored got remainder filled ended =>
    rw [serve, if_neg got]
    dsimp only
    rw [if_pos ended]
  | case3 s m source header stored got remainder filled more packet after memory handled later ih =>
    rw [serve, if_neg got]
    dsimp only
    rw [if_neg more, same, handled]
    exact ih

def Answered (capi : Capi) (history : List CapiEvent) : Prop :=
  ∀ event ∈ history, ∃ before, event.2 = capi before event.1

theorem step_answered (step : Ledger.Step capi l l') (answered : Answered capi l.history) :
    Answered capi l'.history := by
  cases step with
  | idle => exact answered
  | call apps calls call stale =>
    exact List.forall_mem_append.mpr ⟨answered, List.forall_mem_singleton.mpr ⟨calls, rfl⟩⟩

theorem connection_answered (env : Environment) (list : Memory) (outPacket : AnswerBuffer)
    (clientInfo : ClientInfo) (m : Memory) (source : Source UInt8) :
    Answered env.capi
      (connection env (.start env list outPacket clientInfo) m source).state.session.ledger.history := by
  refine serve_invariant env.inPacket (dispatch env) _ m
    (P := fun c : Connection => Answered env.capi c.session.ledger.history) ?_ nofun
  intro c m answered
  exact step_answered (dispatch_step env c m) answered

namespace Watched
variable {env : Environment} {w : Watched} {site : Site} {cell : Nat}

theorem dispatch_cells (env : Environment) (w : Watched) (m : Memory) :
    (dispatch env w m).1.registry.cells = (match selected env m with
      | none => w.registry
      | some (type, _) => w.registry.handle env w.session m type).cells := by
  cases run : selected env m with
  | none =>
    rw [registry, session, dispatch, dispatch_none run]
    rfl
  | some arm =>
    obtain ⟨type, handler⟩ := arm
    rw [registry, session, dispatch, dispatch_some run]
    exact (Registry.handle_cells (selected_some run).2.1 env _ w.session m w.touched).symm

theorem releaseRound_eq (env : Environment) (w : Watched) : w.releaseRound env =
    match releaseFirst env w.session with
    | none => .leave { w with touched := (w.registry.getfirstApp env.maxAppl).2.touched }
    | some (_, s) =>
      .again { w with connection.session := s, touched := (w.registry.getfirstApp env.maxAppl).2.touched } := by
  have first : LinuxServer.getfirstApp env.maxAppl w.session.registeredApps =
      ((w.registry.getfirstApp env.maxAppl).1, (w.registry.getfirstApp env.maxAppl).2.cells) :=
    (Registry.getfirstApp_eq env.maxAppl w.registry).symm
  rw [releaseRound, releaseFirst, first]
  dsimp only
  rcases getfirstApp_spec env.maxAppl w.session.registeredApps with ⟨none, -⟩ | ⟨i, found, range, -⟩
  · obtain ⟨zero, cells⟩ := Prod.mk.inj (first.symm.trans none)
    rw [if_pos zero, if_pos zero, cells]
    rfl
  · have app := (Prod.mk.inj (first.symm.trans found)).1
    rw [if_neg (by omega), if_neg (by omega)]

theorem releaseAll_session (env : Environment) (fuel : Nat) (w : Watched) :
    (w.releaseAll env fuel).map session = (LinuxServer.releaseAll env fuel w.session).map Prod.snd := by
  induction fuel generalizing w with
  | zero => rfl
  | succ fuel ih =>
    have round := releaseRound_eq env w
    cases next : releaseFirst env w.session with
    | none =>
      rw [next] at round
      rw [releaseAll, rounds_leave round, LinuxServer.releaseAll, drain_succ_none next]
      rfl
    | some pick =>
      obtain ⟨app, s⟩ := pick
      rw [next] at round
      rw [releaseAll, rounds_again round]
      refine (ih _).trans ?_
      simp only [LinuxServer.releaseAll, drain, next, Option.map_map]
      rfl

theorem card_markedCells_le (env : Environment) (s : Session) : (markedCells env s).card ≤ env.maxAppl :=
  calc (markedCells env s).card
    _ ≤ ((List.range' 1 env.maxAppl).filter fun i => s.registeredApps i ≠ 0).length := List.toFinset_card_le _
    _ ≤ (List.range' 1 env.maxAppl).length := List.length_filter_le _ _
    _ = env.maxAppl := List.length_range'

/-- Between the start of `release_all` and a round, scans went over no other cells than these. -/
structure Scanning (env : Environment) (before w : Watched) : Prop where
  kept : ∀ site cell, ⟨site, cell⟩ ∈ before.touched → ⟨site, cell⟩ ∈ w.touched
  only : ∀ site cell, ⟨site, cell⟩ ∈ w.touched →
    ⟨site, cell⟩ ∈ before.touched ∨ site = .getfirstApp ∧ 1 ≤ cell ∧ cell ≤ env.maxAppl

theorem Scanning.scan (scanning : Scanning env before w) (connection : Connection) :
    Scanning env before ⟨connection, (w.registry.getfirstApp env.maxAppl).2.touched⟩ where
  kept site cell member := (Registry.mem_getfirstApp ..).mpr (.inl (scanning.kept site cell member))
  only site cell member := by
    rcases (Registry.mem_getfirstApp ..).mp member with earlier | ⟨scans, low, high, -⟩
    · exact scanning.only site cell earlier
    · exact .inr ⟨scans, low, high⟩

theorem Scanning.last (scanning : Scanning env before w) (none : releaseFirst env w.session = none) :
    ⟨site, cell⟩ ∈ (w.registry.getfirstApp env.maxAppl).2.touched ↔
      ⟨site, cell⟩ ∈ before.touched ∨ site = .getfirstApp ∧ 1 ≤ cell ∧ cell ≤ env.maxAppl := by
  have after := scanning.scan w.connection
  refine ⟨after.only site cell, ?_⟩
  rintro (earlier | ⟨scans, low, high⟩)
  · exact after.kept site cell earlier
  · refine (Registry.mem_getfirstApp ..).mpr (.inr ⟨scans, low, high, fun k above below => ?_⟩)
    have empty := releaseFirst_none none
    by_contra mark
    exact Finset.notMem_empty k (empty ▸ mem_markedCells.mpr ⟨⟨above, by omega⟩, mark⟩)

theorem releaseAll_touched (env : Environment) (w : Watched) :
    ∃ w', (∀ fuel, env.maxAppl < fuel → w.releaseAll env fuel = some w') ∧
      ∀ site cell, ⟨site, cell⟩ ∈ w'.touched ↔
        ⟨site, cell⟩ ∈ w.touched ∨ site = .getfirstApp ∧ 1 ≤ cell ∧ cell ≤ env.maxAppl := by
  obtain ⟨w', ends, touched⟩ : ∃ w', (∀ fuel, (markedCells env w.session).card < fuel →
      rounds (releaseRound env) fuel w = some w') ∧ ∀ site cell, ⟨site, cell⟩ ∈ w'.touched ↔
        ⟨site, cell⟩ ∈ w.touched ∨ site = .getfirstApp ∧ 1 ≤ cell ∧ cell ≤ env.maxAppl := by
    refine rounds_end (P := Scanning env w) (fun w => (markedCells env w.session).card) ?_ ?_
      ⟨fun _ _ => id, fun _ _ => .inl⟩
    · intro v v' scanning again
      rw [releaseRound_eq] at again
      cases next : releaseFirst env v.session with
      | none =>
        rw [next] at again
        cases again
      | some pick =>
        obtain ⟨app, s⟩ := pick
        rw [next] at again
        obtain rfl := Round.again.inj again
        obtain ⟨member, fewer⟩ := (releaseFirst_picks env).picks next
        refine ⟨scanning.scan _, ?_⟩
        change (markedCells env s).card < _
        rw [fewer]
        exact Finset.card_erase_lt_of_mem member
    · intro v v' scanning leave
      rw [releaseRound_eq] at leave
      cases next : releaseFirst env v.session with
      | none =>
        rw [next] at leave
        obtain rfl := Round.leave.inj leave
        exact fun site cell => scanning.last next
      | some pick =>
        rw [next] at leave
        cases leave
  have bound := card_markedCells_le env w.session
  exact ⟨w', fun fuel enough => ends fuel (by omega), touched⟩

theorem dispatch_keeps (env : Environment) (w : Watched) (m : Memory) (member : ⟨site, cell⟩ ∈ w.touched) :
    ⟨site, cell⟩ ∈ (dispatch env w m).1.touched := by
  rw [dispatch]
  dsimp only
  split
  · exact member
  · exact Registry.handle_keeps w.registry env w.session m _ member

/-- What was touched before the cleanup: what `main` clears, and what the calls made so far mark. -/
def Tracked (env : Environment) (w : Watched) : Prop :=
  ∀ site cell, ⟨site, cell⟩ ∈ w.touched ↔
    site = .memset ∧ cell ≤ env.maxAppl ∨ ∃ event ∈ w.session.history, Registry.Marks event site cell

theorem dispatch_tracked (free : env.capi.HandsOutFree env.maxAppl) (w : Watched) (m : Memory)
    (tracked : w.Tracked env) : (dispatch env w m).1.Tracked env := by
  intro site cell
  cases run : selected env m with
  | none =>
    simp only [dispatch, session, dispatch_none run, run]
    exact tracked site cell
  | some arm =>
    obtain ⟨type, handler⟩ := arm
    obtain ⟨calls, tracks⟩ := Registry.handle_tracks (selected_some run).2.1 w.registry env free
      w.connection.log.length w.connection.session m
    simp only [dispatch, session, dispatch_some run, run]
    rw [tracks.touched, tracks.made]
    refine (or_congr_left (tracked site cell)).trans ?_
    simp only [session, List.mem_append, or_and_right, exists_or, or_assoc]

section served
variable (env : Environment) (list : Memory) (outPacket : AnswerBuffer) (clientInfo : ClientInfo) (m : Memory)
  (source : Source UInt8)

theorem start_touched : ⟨site, cell⟩ ∈ (start env list outPacket clientInfo).touched ↔
    site = .memset ∧ cell ≤ env.maxAppl := by
  rw [start, Registry.memset_eq, List.nil_append, List.mem_map]
  constructor
  · rintro ⟨i, inside, ⟨⟩⟩
    exact ⟨rfl, Nat.le_of_lt_succ (List.mem_range.mp inside)⟩
  · rintro ⟨rfl, low⟩
    exact ⟨cell, List.mem_range.mpr (Nat.lt_succ_of_le low), rfl⟩

theorem served_connection : (served env list outPacket clientInfo m source).connection =
    (LinuxServer.connection env (.start env list outPacket clientInfo) m source).state := by
  have same (w : Watched) (m : Memory) : LinuxServer.dispatch env w.connection m =
      ((dispatch env w m).1.connection, (dispatch env w m).2) := rfl
  rw [served, serve_map env.inPacket (dispatch env) (LinuxServer.dispatch env) Watched.connection same]
  rfl

theorem served_covers (low : cell ≤ env.maxAppl) :
    ⟨.memset, cell⟩ ∈ (served env list outPacket clientInfo m source).touched :=
  serve_invariant (P := fun w : Watched => ⟨.memset, cell⟩ ∈ w.touched) env.inPacket (dispatch env) _ m
    (fun w m member => dispatch_keeps env w m member)
    ((start_touched env list outPacket clientInfo).mpr ⟨rfl, low⟩)

theorem served_tracked (free : env.capi.HandsOutFree env.maxAppl) :
    (served env list outPacket clientInfo m source).Tracked env := by
  refine serve_invariant (P := Tracked env) env.inPacket (dispatch env) _ m (dispatch_tracked free) ?_
  intro site cell
  exact (start_touched env list outPacket clientInfo).trans
    (or_iff_left fun ⟨_, member, _⟩ => List.not_mem_nil member).symm

end served
end Watched

section run
variable (env : Environment) (list : Memory) (outPacket : AnswerBuffer) (clientInfo : ClientInfo) (m : Memory)
  (source : Source UInt8)

/-- Who touches what: `memset` and the scans of `getfirst_app` the same cells in every session, `add_app` and
`del_app` those of the ids that the session has registered and released. -/
theorem registry_sites (free : env.capi.HandsOutFree env.maxAppl) :
    ∃ w, (∀ fuel, env.maxAppl < fuel →
        (Watched.served env list outPacket clientInfo m source).releaseAll env fuel = some w) ∧
      ∀ site cell, ⟨site, cell⟩ ∈ w.touched ↔
        (site = .memset ∧ cell ≤ env.maxAppl ∨
          ∃ event ∈ (connection env (.start env list outPacket clientInfo) m source).state.session.history,
            Registry.Marks event site cell) ∨
        site = .getfirstApp ∧ 1 ≤ cell ∧ cell ≤ env.maxAppl := by
  obtain ⟨w, ends, touched⟩ :=
    Watched.releaseAll_touched env (Watched.served env list outPacket clientInfo m source)
  refine ⟨w, ends, fun site cell => (touched site cell).trans (or_congr_left ?_)⟩
  rw [Watched.served_tracked env list outPacket clientInfo m source free, Watched.session,
    Watched.served_connection]

/-- While the CAPI keeps to the admitted ids, these are the cells from 0 to `CAPI_MAXAPPL`: one more than the
array has. -/
theorem registry_extent (free : env.capi.HandsOutFree env.maxAppl)
    (admitted : env.capi.ReleasesAdmitted env.maxAppl) :
    ∃ w, (∀ fuel, env.maxAppl < fuel →
        (Watched.served env list outPacket clientInfo m source).releaseAll env fuel = some w) ∧
      ∀ cell, (∃ site, ⟨site, cell⟩ ∈ w.touched) ↔ cell ≤ env.maxAppl := by
  obtain ⟨w, ends, touched⟩ := registry_sites env list outPacket clientInfo m source free
  refine ⟨w, ends, fun cell => ⟨?_, fun low => ⟨.memset, (touched _ _).mpr (.inl (.inl ⟨rfl, low⟩))⟩⟩⟩
  rintro ⟨site, member⟩
  rcases (touched site cell).mp member with (⟨-, low⟩ | ⟨⟨call, reply⟩, called, marks⟩) | ⟨-, -, low⟩
  · exact low
  · obtain ⟨before, answered⟩ := connection_answered env list outPacket clientInfo m source _ called
    obtain rfl : reply = env.capi before call := answered
    exact Registry.marks_admitted free admitted call marks
  · exact low

theorem registry_escapes :
    ∃ w, (∀ fuel, env.maxAppl < fuel →
        (Watched.served env list outPacket clientInfo m source).releaseAll env fuel = some w) ∧
      ⟨.memset, sizeofRegisteredApps env.maxAppl⟩ ∈ w.touched := by
  obtain ⟨w, ends, touched⟩ :=
    Watched.releaseAll_touched env (Watched.served env list outPacket clientInfo m source)
  have last := Watched.served_covers env list outPacket clientInfo m source (Nat.le_refl env.maxAppl)
  exact ⟨w, ends, (touched _ _).mpr (.inl last)⟩

/-- No session stays in the array. -/
theorem registry_never :
    ∃ w, (∀ fuel, env.maxAppl < fuel →
        (Watched.served env list outPacket clientInfo m source).releaseAll env fuel = some w) ∧
      ¬ w.Contained env := by
  obtain ⟨w, ends, behind⟩ := registry_escapes env list outPacket clientInfo m source
  exact ⟨w, ends, fun contained => Nat.lt_irrefl _ (contained _ behind)⟩

end run

def closedAtOnce : Source UInt8 := .ofSegments [] nofun

/-- With 240 applications, the cell behind the array is 240. -/
theorem closedAtOnce_escapes :
    ∃ w, (Watched.served .loopback zeros (.at zeros 0) ⟨0, ⟨0, 0⟩, [], 0⟩ zeros closedAtOnce).releaseAll
        .loopback 241 = some w ∧ ⟨.memset, 240⟩ ∈ w.touched ∧ ¬ w.Contained .loopback := by
  obtain ⟨w, ends, behind⟩ :=
    registry_escapes .loopback zeros (.at zeros 0) ⟨0, ⟨0, 0⟩, [], 0⟩ zeros closedAtOnce
  exact ⟨w, ends 241 (by decide), behind, fun contained => Nat.lt_irrefl _ (contained _ behind)⟩

end CapiProxy.LinuxServer
