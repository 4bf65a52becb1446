import CapiProxy.Loops.Drain
import CapiProxy.LinuxServer.Session

/-! Releasing the registered applications when a connection ends. -/
namespace CapiProxy.LinuxServer
open Bytes Loops

/-- The first marked id from 1 on, with its mark removed, or 0. -/
def getfirstApp (maxAppl : Nat) (list : Memory) : Nat × Memory :=
  match (List.range' 1 maxAppl).find? fun i => list i ≠ 0 with
  | some i => (i, list.write i [0])
  | none => (0, list)

theorem getfirstApp_spec (maxAppl : Nat) (list : Memory) :
    getfirstApp maxAppl list = (0, list) ∧ (∀ i, 1 ≤ i → i ≤ maxAppl → list i = 0) ∨
    ∃ i, getfirstApp maxAppl list = (i, list.write i [0]) ∧ (1 ≤ i ∧ i ≤ maxAppl) ∧ list i ≠ 0 := by
  cases found : (List.range' 1 maxAppl).find? fun i => list i ≠ 0 with
  | none =>
    have clear := List.find?_eq_none.mp found
    refine .inl ⟨by simp only [getfirstApp, found], fun i low high => ?_⟩
    simpa using clear i (List.mem_range'_1.mpr (by omega))
  | some i =>
    have range := List.mem_range'_1.mp (List.mem_of_find?_eq_some found)
    have mark := List.find?_some found
    exact .inr ⟨i, by simp only [getfirstApp, found], by omega, by simpa using mark⟩

/-- One round of the loop in `release_all`; no round is left when `getfirst_app` returns 0. -/
def releaseFirst (env : Environment) (s : Session) : Option (Nat × Session) :=
  let (app, list) := getfirstApp env.maxAppl s.registeredApps
  if app = 0 then none
  else some (app, ({ s with registeredApps := list }.call env (.release (.ofNat app))).2)

/-- `release_all`, with the ids in the order of its release calls. -/
def releaseAll (env : Environment) (fuel : Nat) (s : Session) : Option (List Nat × Session) :=
  drain (releaseFirst env) fuel s

/-- The marked cells the scan of `getfirst_app` looks at. -/
def markedCells (env : Environment) (s : Session) : Finset Nat :=
  ((List.range' 1 env.maxAppl).filter fun i => s.registeredApps i ≠ 0).toFinset

theorem mem_markedCells : i ∈ markedCells env s ↔ (1 ≤ i ∧ i ≤ env.maxAppl) ∧ s.registeredApps i ≠ 0 := by
  have range : i ∈ List.range' 1 env.maxAppl ↔ 1 ≤ i ∧ i ≤ env.maxAppl := by
    rw [List.mem_range'_1]
    omega
  simp only [markedCells, List.mem_toFinset, List.mem_filter, range, decide_eq_true_eq]

theorem releaseFirst_none (stop : releaseFirst env s = none) : markedCells env s = ∅ := by
  rcases getfirstApp_spec env.maxAppl s.registeredApps with ⟨-, clear⟩ | ⟨i, first, range, -⟩
  · refine Finset.eq_empty_of_forall_notMem fun i member => ?_
    obtain ⟨range, mark⟩ := mem_markedCells.mp member
    exact mark (clear i range.1 range.2)
  · simp only [releaseFirst, first, show i ≠ 0 by omega, if_false, reduceCtorEq] at stop

theorem releaseFirst_some (more : releaseFirst env s = some (app, s')) :
    app ∈ markedCells env s ∧ s'.registeredApps = s.registeredApps.write app [0] ∧
    ∃ reply, s'.history = s.history ++ [(.release (.ofNat app), reply)] := by
  rcases getfirstApp_spec env.maxAppl s.registeredApps with ⟨none, -⟩ | ⟨i, first, range, mark⟩
  · simp only [releaseFirst, none, if_true, reduceCtorEq] at more
  · simp only [releaseFirst, first, show i ≠ 0 by omega, if_false, Option.some.injEq,
      Prod.mk.injEq] at more
    obtain ⟨rfl, rfl⟩ := more
    exact ⟨mem_markedCells.mpr ⟨range, mark⟩, rfl, _, rfl⟩

theorem releaseFirst_picks (env : Environment) : Picks (releaseFirst env) (markedCells env) where
  stops := releaseFirst_none
  picks {s app s'} more := by
    obtain ⟨member, list, -⟩ := releaseFirst_some more
    refine ⟨member, Finset.ext fun i => ?_⟩
    rw [Finset.mem_erase, mem_markedCells, mem_markedCells, list, Memory.write_byte]
    by_cases same : i = app
    · simp [same]
    · simp [same]

theorem releaseAll_spec (env : Environment) (s : Session) :
    ∃ fuel apps last, releaseAll env fuel s = some (apps, last) ∧ apps.Nodup ∧
      (∀ app, app ∈ apps ↔ app ∈ markedCells env s) ∧
      ∃ calls, last.history = s.history ++ calls ∧
        calls.map Prod.fst = apps.map fun app => .release (.ofNat app) := by
  obtain ⟨apps, last, drained, nodup, members, -⟩ :=
    drain_spec (releaseFirst_picks env) ((markedCells env s).card + 1) s (Nat.lt_succ_self _)
  refine ⟨_, apps, last, drained, nodup, members, ?_⟩
  have calls := drain_invariant [] (P := fun apps s' => ∃ calls, s'.history = s.history ++ calls ∧
      calls.map Prod.fst = apps.map fun app => CapiCall.release (.ofNat app))
    (fun apps s' app s'' more ⟨calls, history, names⟩ => by
      obtain ⟨-, -, reply, called⟩ := releaseFirst_some more
      exact ⟨calls ++ [(.release (.ofNat app), reply)],
        by rw [called, history, List.append_assoc], by simp [names]⟩)
    drained ⟨[], by simp, rfl⟩
  simpa only [List.nil_append] using calls

end CapiProxy.LinuxServer
