import CapiProxy.Win32Server.StartSession

/-! The end of a Win32 session. Both loops run on fuel: `getfirst_app` never advances its
counter, so it only returns while the cell of id 1 is marked. -/
namespace CapiProxy.Win32Server
open Bytes Streams

/-- The loop of `getfirst_app`, whose body has no step from one `i` to the next. -/
def getfirstLoop (list : Memory) (i : Nat) : Nat → Option (UInt32 × Memory)
  | 0 => none
  | fuel + 1 =>
    if i ≤ capiMaxappl then
      if list i = 1 then some (.ofNat i, list.write i [0]) else getfirstLoop list i fuel
    else some (0, list)

def getfirstApp (fuel : Nat) (list : Memory) : Option (UInt32 × Memory) := getfirstLoop list 1 fuel

/-- The cleanup loop at the end of `StartSession`; `none` means the fuel ran out, and `some`
that the session goes on to `closesocket` and `freeSession`. -/
def releaseRegistered (env : Environment) : Nat → State → Option State
  | 0, _ => none
  | fuel + 1, s =>
    match getfirstApp fuel s.client.registeredApps with
    | none => none
    | some (app, list) =>
      let s := { s with client.registeredApps := list }
      if app = 0 then some s else releaseRegistered env fuel (s.call env (.release app)).2

theorem getfirstApp_unmarked (fuel : Nat) (unmarked : list 1 ≠ 1) : getfirstApp fuel list = none := by
  induction fuel with
  | zero => rfl
  | succ fuel ih =>
    rw [getfirstApp, getfirstLoop, if_pos (by decide), if_neg unmarked]
    exact ih

theorem getfirstApp_marked (fuel : Nat) (marked : list 1 = 1) :
    getfirstApp (fuel + 1) list = some (1, list.write 1 [0]) := by
  rw [getfirstApp, getfirstLoop, if_pos (by decide), if_pos marked]
  rfl

theorem getfirstApp_some (found : getfirstApp fuel list = some (app, list')) :
    list 1 = 1 ∧ app = 1 ∧ list' = delApp 1 list := by
  by_cases marked : list 1 = 1
  · cases fuel with
    | zero => cases found
    | succ fuel =>
      rw [getfirstApp_marked fuel marked] at found
      cases found
      exact ⟨marked, rfl, rfl⟩
  · rw [getfirstApp_unmarked fuel marked] at found
    cases found

theorem releaseRegistered_unmarked (env : Environment) (fuel : Nat) (s : State)
    (unmarked : s.client.registeredApps 1 ≠ 1) : releaseRegistered env fuel s = none := by
  cases fuel with
  | zero => rfl
  | succ fuel => simp only [releaseRegistered, getfirstApp_unmarked fuel unmarked]

/-- The cleanup loop of a session never ends, whatever the session did. It releases the
application with id 1 if that is marked, and gets stuck looking for the next one. -/
theorem releaseRegistered_never (env : Environment) (fuel : Nat) (s : State) :
    releaseRegistered env fuel s = none := by
  by_cases marked : s.client.registeredApps 1 = 1
  · match fuel with
    | 0 => rfl
    | 1 => rfl
    | fuel + 2 =>
      simp only [releaseRegistered, getfirstApp_marked fuel marked]
      exact releaseRegistered_unmarked env (fuel + 1) _ (by simp [State.call, Memory.write_byte])
  · exact releaseRegistered_unmarked env fuel s marked

/-- No session reaches `closesocket`. -/
theorem session_never_closes (env : Environment) (name : List UInt8) (list memory : Memory)
    (history : List CapiEvent) (source : Source UInt8) :
    ¬ ∃ fuel last, releaseRegistered env fuel
      (startSession env (.start env name list memory history) source).state = some last := by
  rintro ⟨fuel, last, done⟩
  rw [releaseRegistered_never] at done
  cases done

/-- Not even the session of a client that sends nothing. -/
theorem silent_session_never_closes :
    ¬ ∃ fuel last, releaseRegistered .sample fuel
      (startSession .sample .sample (.ofSegments [] (by decide))).state = some last := by
  rintro ⟨fuel, last, done⟩
  rw [releaseRegistered_never] at done
  cases done

end CapiProxy.Win32Server
