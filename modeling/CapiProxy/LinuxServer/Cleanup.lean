import CapiProxy.LinuxServer.Appindex
import CapiProxy.LinuxServer.Framing

/-! What a connection of the Linux server leaves behind. The handlers keep the array of
applications in line with the calls made to the CAPI, so the cleanup releases exactly the
applications that the connection still holds. -/
namespace CapiProxy.LinuxServer
open Bytes Streams

def Session.ledger (s : Session) : Ledger := ⟨s.registeredApps, s.history⟩

section Handlers
variable (env : Environment) (n : Nat) (s : Session) (m : Memory)

theorem register_step : Ledger.Step env.capi s.ledger (execCapiRegister env n s m).session.ledger :=
  let word i := m.word32 (requestBody env m + 4 * i)
  .call s.registeredApps s.history (.register none (word 1) (word 2) (word 3)) s.outPacket.head.appId

theorem release_step : Ledger.Step env.capi s.ledger (execCapiRelease env n s m).session.ledger :=
  .call s.registeredApps s.history (.release (request env m).appId) 0

theorem putmessage_step :
    Ledger.Step env.capi s.ledger (execCapiPutmessage env n s m).session.ledger := by
  simp only [execCapiPutmessage]
  split
  · exact .idle _
  · exact .query _ fun _ _ _ => rfl

theorem waitforsignal_step :
    Ledger.Step env.capi s.ledger (execCapiWaitforsignal env n s m).session.ledger := by
  simp only [execCapiWaitforsignal]
  split <;> exact .idle _

theorem handler_step (found : handlerOf type = some handler) :
    Ledger.Step env.capi s.ledger (handler env n s m).session.ledger := by
  cases type <;> first
    | cases found; done
    | obtain rfl := Option.some.inj found
  case capiRegister => exact register_step env n s m
  case capiRelease => exact release_step env n s m
  case capiPutmessage => exact putmessage_step env n s m
  case capiWaitforsignal => exact waitforsignal_step env n s m
  case proxyHelo => exact .idle _
  case proxyAuth => exact .idle _
  all_goals exact .query _ fun _ _ _ => rfl

end Handlers

theorem dispatch_step (env : Environment) (c : Connection) (m : Memory) :
    Ledger.Step env.capi c.session.ledger (dispatch env c m).1.session.ledger := by
  cases run : selected env m with
  | none =>
    rw [dispatch_none run]
    exact .idle _
  | some arm =>
    rw [dispatch_some run]
    exact handler_step env _ _ m (selected_some run).2.1

theorem connection_consistent (env : Environment) (free : env.capi.HandsOutFree env.maxAppl)
    (list : Memory) (outPacket : AnswerBuffer) (clientInfo : ClientInfo) (m : Memory)
    (source : Source UInt8) :
    (connection env (.start env list outPacket clientInfo) m source).state.session.ledger.Consistent
      env.maxAppl :=
  serve_invariant _ _ _ _ (P := fun (c : Connection) => c.session.ledger.Consistent env.maxAppl)
    (fun c m before => (dispatch_step env c m).consistent free before) (Ledger.Consistent.start list)

theorem mem_cells_iff (consistent : s.ledger.Consistent env.maxAppl) :
    i ∈ markedCells env s ↔ ∃ app ∈ held s.history, app.toNat = i := by
  have same (app : UInt32) : app ∈ held s.history ↔ app ∈ marked env.maxAppl s.registeredApps :=
    (Set.ext_iff.mp consistent.marks app).symm
  have small := env.maxAppl_int
  rw [mem_markedCells]
  constructor
  · rintro ⟨range, mark⟩
    have value : (UInt32.ofNat i).toNat = i := by
      rw [UInt32.toNat_ofNat', Nat.mod_eq_of_lt (by omega)]
    exact ⟨.ofNat i, (same _).mpr ⟨by rw [value]; exact range.2, by rwa [value]⟩, value⟩
  · rintro ⟨app, member, rfl⟩
    obtain ⟨inside, mark⟩ := (same app).mp member
    exact ⟨⟨consistent.positive app member, inside⟩, mark⟩

/-- When the connection ends, `release_all` terminates after one release call for each
application the session registered and has not released, and for no other id. -/
theorem connection_releases_held (env : Environment) (free : env.capi.HandsOutFree env.maxAppl)
    (list : Memory) (outPacket : AnswerBuffer) (clientInfo : ClientInfo) (m : Memory)
    (source : Source UInt8) :
    let s := (connection env (.start env list outPacket clientInfo) m source).state.session
    ∃ fuel apps last calls, releaseAll env fuel s = some (apps, last) ∧
      last.history = s.history ++ calls ∧
      ∃ released : List UInt32, calls.map Prod.fst = released.map .release ∧ released.Nodup ∧
        ∀ app, app ∈ released ↔ app ∈ held s.history := by
  intro s
  have consistent : s.ledger.Consistent env.maxAppl :=
    connection_consistent env free list outPacket clientInfo m source
  have small := env.maxAppl_int
  obtain ⟨fuel, apps, last, done, nodup, members, calls, history, names⟩ := releaseAll_spec env s
  have value : ∀ i ∈ apps, (UInt32.ofNat i).toNat = i := fun i member => by
    have range := (mem_markedCells.mp ((members i).mp member)).1
    rw [UInt32.toNat_ofNat', Nat.mod_eq_of_lt (by omega)]
  refine ⟨fuel, apps, last, calls, done, history, apps.map .ofNat, by simp [names], ?_, fun app => ?_⟩
  · refine (List.nodup_map_iff_inj_on nodup).mpr fun i hi j hj same => ?_
    rw [← value i hi, same, value j hj]
  · rw [List.mem_map]
    constructor
    · rintro ⟨i, member, rfl⟩
      obtain ⟨app, held, same⟩ := (mem_cells_iff consistent).mp ((members i).mp member)
      rwa [← same, UInt32.ofNat_toNat]
    · intro member
      exact ⟨app.toNat, (members _).mpr ((mem_cells_iff consistent).mpr ⟨app, member, rfl⟩),
        UInt32.ofNat_toNat⟩

/-- A client that registers once and closes the connection. -/
theorem splitRegister_released :
    let s := (connection .loopback .sample zeros splitRegister).state.session
    ∃ fuel apps last calls, releaseAll .loopback fuel s = some (apps, last) ∧
      last.history = s.history ++ calls ∧
      ∃ released : List UInt32, calls.map Prod.fst = released.map .release ∧ released.Nodup ∧
        ∀ app, app ∈ released ↔ app ∈ held s.history :=
  connection_releases_held .loopback (Capi.firstFree_handsOutFree (by decide)) zeros (.at zeros 0)
    ⟨0, ⟨0, 0⟩, [], 0⟩ zeros splitRegister

end CapiProxy.LinuxServer
