import CapiProxy.LinuxClient.Daemon

/-! What the functions of the daemon leave unchanged: only a completed operation touches the
application maps, and only a receive call and a completed operation leave an event that counts
for the maps or for what was received. -/
namespace CapiProxy.LinuxClient
open Bytes

/-- The events of requests, of messages and data for the module, and of refusals. -/
def Event.isPlain : Event → Bool
  | .sent .. | .written _ | .setData _ | .regfail _ => true
  | .handled .. | .registered .. | .released _ => false

namespace Daemon

/-- The maps are as they were, and only plain events were added. -/
structure Plain (d d' : Daemon) : Prop where
  ltr : d'.applmapLtr = d.applmapLtr
  rtl : d'.applmapRtl = d.applmapRtl
  log : ∃ new, d'.log = d.log ++ new ∧ ∀ e ∈ new, e.isPlain = true

theorem Plain.refl (d : Daemon) : Plain d d := ⟨rfl, rfl, [], (List.append_nil _).symm, nofun⟩

theorem Plain.trans (first : Plain d d') (second : Plain d' d'') : Plain d d'' := by
  obtain ⟨new, log, plain⟩ := first.log
  obtain ⟨new', log', plain'⟩ := second.log
  refine ⟨second.ltr.trans first.ltr, second.rtl.trans first.rtl, new ++ new', ?_, ?_⟩
  · rw [log', log, List.append_assoc]
  · intro e member
    exact (List.mem_append.mp member).elim (plain e) (plain' e)

theorem Plain.goto (plain : Plain d d') (control : Control) : Plain d (d'.goto control) :=
  ⟨plain.ltr, plain.rtl, plain.log⟩

theorem note_plain (d : Daemon) {e : Event} (plain : e.isPlain = true) : Plain d (d.note e) :=
  ⟨rfl, rfl, [e], rfl, fun _ member => List.mem_singleton.mp member ▸ plain⟩

theorem storeRecv_plain (d : Daemon) (m : Memory) : Plain d (d.storeRecv m) :=
  ⟨rfl, rfl, (Plain.refl d).log⟩

theorem compose_plain (d : Daemon) (head : RequestHeader) (rest : List UInt8) :
    Plain d (d.compose head rest) := ⟨rfl, rfl, (Plain.refl d).log⟩

theorem collect_plain (d : Daemon) (property : Property) : Plain d (d.collect property) :=
  ⟨rfl, rfl, (Plain.refl d).log⟩

theorem request_plain (env : Environment) (type : MessageType) (appl : UInt32)
    (body data : List UInt8) (d : Daemon) : Plain d (d.request env type appl body data).1 := by
  have composed := compose_plain d (d.header type appl data.length) (body ++ data)
  simp only [request]
  split
  · exact composed.trans (note_plain _ rfl)
  · exact composed

theorem sendToModule_plain (env : Environment) (d : Daemon) : Plain d (d.sendToModule env) :=
  ⟨rfl, rfl, (note_plain d rfl).log⟩

theorem handleServerpacket_plain (env : Environment) (d : Daemon) :
    Plain d (d.handleServerpacket env) := by
  unfold handleServerpacket
  split
  · exact request_plain env _ _ _ _ d
  · exact (sendToModule_plain env d).trans (request_plain env _ _ _ _ (d.sendToModule env))
  · exact .refl d

theorem await_plain (op : Operation) {next : Daemon → Daemon} (given : ∀ d, Plain d (next d))
    {sent : Daemon × Bool} (request : Plain d sent.1) : Plain d (await op next sent) := by
  obtain ⟨d', ok⟩ := sent
  cases ok with
  | true => exact request.goto (.wait op)
  | false => exact (request.trans (given d')).goto .poll

theorem fetch_plain (env : Environment) (property : Property) (d : Daemon) :
    Plain d (d.fetch env property) :=
  await_plain _ .refl (request_plain env _ _ _ _ d)

theorem fromModule_plain (env : Environment) (len : Nat) (d : Daemon) :
    Plain d (d.fromModule env len) := by
  unfold fromModule
  dsimp only
  split
  · split
    · exact await_plain _ (fun d => note_plain d rfl) (request_plain env _ _ _ _ d)
    · split
      · exact await_plain _ .refl (request_plain env _ _ _ _ d)
      · split
        · exact (Plain.refl d).goto .down
        · exact (Plain.refl d).goto .poll
  · exact await_plain _ .refl ((storeRecv_plain d _).trans (request_plain env _ _ _ _ _))

theorem finish_refused (env : Environment) (op : Operation) (d : Daemon)
    (refused : d.aheader.proxyError ≠ perrorNone) : Plain d (d.finish env op) := by
  unfold finish
  rw [if_pos refused]
  cases op with
  | register appl => exact (note_plain d rfl).goto .poll
  | fetch property => exact (Plain.refl d).goto .poll
  | release appl => exact (Plain.refl d).goto .poll
  | put => exact (Plain.refl d).goto .poll

theorem finish_register (env : Environment) (appl : UInt16) (d : Daemon)
    (granted : d.aheader.proxyError = perrorNone) :
    ∃ polled, Plain d polled ∧ d.finish env (.register appl) =
      ((polled.enter appl d.aheader.appId.toUInt16).note
        (.registered appl d.aheader.appId.toUInt16)).goto .poll := by
  unfold finish
  rw [if_neg (not_not.mpr granted)]
  exact ⟨_, request_plain env .capiWaitforsignal _ [] [] d, rfl⟩

theorem finish_release (env : Environment) (appl : UInt16) (d : Daemon)
    (granted : d.aheader.proxyError = perrorNone) :
    d.finish env (.release appl) = (d.note (.released appl)).goto .poll := by
  unfold finish
  rw [if_neg (not_not.mpr granted)]

theorem finish_fetch (env : Environment) (property : Property) (d : Daemon) :
    Plain d (d.finish env (.fetch property)) := by
  by_cases granted : d.aheader.proxyError = perrorNone
  · have collected := collect_plain d
    unfold finish
    rw [if_neg (not_not.mpr granted)]
    cases property with
    | manufacturer => exact (collected _).trans (fetch_plain env .version _)
    | version => exact (collected _).trans (fetch_plain env .serial _)
    | serial => exact (collected _).trans (fetch_plain env .profile _)
    | profile => exact ((collected _).trans (note_plain _ rfl)).goto .poll
  · exact finish_refused env (.fetch property) d granted

theorem finish_put (env : Environment) (d : Daemon) : Plain d (d.finish env .put) := by
  unfold finish
  split <;> exact (Plain.refl d).goto .poll

/-- A receive call returned, and what the buffer holds is about to be handled. -/
def receives (d : Daemon) (r : Result) : Bool :=
  match d.control, r with
  | .poll, .failed => false
  | .poll, _ | .wait _, _ => true
  | _, _ => false

inductive Outcome (env : Environment) (d : Daemon) (r : Result) (d' : Daemon) : Prop where
  | idle (receives : d.receives r = false) (completes : d.completes r = none) (kept : Plain d d')
  | handled (receives : d.receives r = true) (completes : d.completes r = none)
      (kept : Plain (d.receive r) d')
  | finished (op : Operation) (receives : d.receives r = true)
      (completes : d.completes r =
        if (d.receive r).aheader.proxyError ≠ perrorNone then none else some op)
      (done : d' = (d.receive r).finish env op)

theorem step_outcome (env : Environment) (d : Daemon) (r : Result) :
    Outcome env d r (d.step env r) := by
  have handled := handleServerpacket_plain env (d.receive r)
  cases control : d.control with
  | down =>
    simp only [step, control]
    exact .idle (by simp only [receives, control]) (by simp only [completes, control]) (.refl d)
  | poll =>
    have completes : d.completes r = none := by simp only [completes, control]
    simp only [step, control]
    cases r with
    | failed => exact .idle (by simp only [receives, control]) completes ((Plain.refl d).goto .read)
    | closed => exact .handled (by simp only [receives, control]) completes (handled.goto .read)
    | data => exact .handled (by simp only [receives, control]) completes (handled.goto .read)
  | read =>
    have completes : d.completes r = none := by simp only [completes, control]
    have receives : d.receives r = false := by simp only [receives, control]
    simp only [step, control]
    cases r with
    | failed => exact .idle receives completes ((Plain.refl d).goto .poll)
    | closed => exact .idle receives completes ((Plain.refl d).goto .poll)
    | data bytes =>
      exact .idle receives completes
        ((storeRecv_plain d _).trans (fromModule_plain env bytes.length _))
  | wait op =>
    have receives : d.receives r = true := by simp only [receives, control]
    simp only [step, control]
    cases r with
    | failed => exact .finished op receives (by simp only [completes, control]) rfl
    | closed => exact .finished op receives (by simp only [completes, control]) rfl
    | data bytes nonempty fits =>
      dsimp only
      split
      · next other =>
        exact .handled receives (by simp only [completes, control, if_pos other, ite_self]) handled
      · next awaited =>
        exact .finished op receives (by simp only [completes, control, if_neg awaited]) rfl

end Daemon
end CapiProxy.LinuxClient
