import CapiProxy.Capi
import Mathlib.Data.Set.BooleanAlgebra
import Mathlib.Data.Set.Insert

/-! The byte array in which a server marks the applications of a session. It is indexed by the
application id; a cell is 1 while the id is registered and 0 otherwise. Only the cells up to
`CAPI_MAXAPPL` belong to the array. -/
namespace CapiProxy
open Bytes

def addApp (app : UInt32) (list : Memory) : Memory := list.write app.toNat [1]
def delApp (app : UInt32) (list : Memory) : Memory := list.write app.toNat [0]

/-- The array after its `maxAppl + 1` cells were set to zero. -/
def clearApps (maxAppl : Nat) (list : Memory) : Memory :=
  list.write 0 (List.replicate (maxAppl + 1) 0)

/-- What the handlers do to the array after a call. A successful register call marks the id in
the answer header, where `stale` stood before the call. -/
def record (stale : UInt32) (list : Memory) : CapiEvent → Memory
  | (.register .., reply) => if reply.code = 0 then addApp (reply.applID.getD stale) list else list
  | (.release app, reply) => if reply.code = 0 then delApp app list else list
  | _ => list

def marked (maxAppl : Nat) (list : Memory) : Set UInt32 :=
  {app | app.toNat ≤ maxAppl ∧ list app.toNat ≠ 0}

instance (app : UInt32) (list : Memory) : Decidable (app ∈ marked maxAppl list) :=
  inferInstanceAs (Decidable (app.toNat ≤ maxAppl ∧ list app.toNat ≠ 0))

theorem marked_clear (list : Memory) : marked maxAppl (clearApps maxAppl list) = ∅ := by
  refine Set.eq_empty_of_forall_notMem fun app member => member.2 ?_
  have inside : app.toNat < (List.replicate (maxAppl + 1) (0 : UInt8)).length := by
    rw [List.length_replicate]
    exact Nat.lt_succ_of_le member.1
  have cell := list.write_inside 0 _ _ inside
  rwa [Nat.zero_add, List.getElem_replicate] at cell

theorem marked_add (app : UInt32) (list : Memory) (inside : app.toNat ≤ maxAppl) :
    marked maxAppl (addApp app list) = {app} ∪ marked maxAppl list := by
  ext other
  simp only [marked, addApp, Memory.write_byte, UInt32.toNat_inj, Set.mem_ofPred_eq, Set.mem_union,
    Set.mem_singleton_iff]
  by_cases same : other = app
  · simp [same, inside]
  · simp [same]

theorem marked_del (app : UInt32) (list : Memory) :
    marked maxAppl (delApp app list) = marked maxAppl list \ {app} := by
  ext other
  simp only [marked, delApp, Memory.write_byte, UInt32.toNat_inj, Set.mem_ofPred_eq, Set.mem_sdiff,
    Set.mem_singleton_iff]
  by_cases same : other = app
  · simp [same]
  · simp [same]

theorem marked_record (event : CapiEvent) (stores : event.Stores maxAppl) :
    marked maxAppl (record stale list event) =
      event.gained ∪ (marked maxAppl list \ event.lost) := by
  obtain ⟨call, reply⟩ := event
  cases call with
  | register bufferSize connections blocks length =>
    by_cases success : reply.code = 0
    · obtain ⟨app, written, -, inside⟩ := stores success
      simp only [record, success, if_true, written, Option.getD_some, marked_add app list inside,
        CapiEvent.gained, CapiEvent.lost, CapiEvent.registered, CapiEvent.released,
        Option.some.injEq, reduceCtorEq, Set.ofPred_false, Set.sdiff_empty, Set.ofPred_eq_eq_singleton']
    · simp [record, success, CapiEvent.gained, CapiEvent.lost, CapiEvent.registered,
        CapiEvent.released]
  | release app =>
    by_cases success : reply.code = 0
    · simp [record, success, marked_del, CapiEvent.gained, CapiEvent.lost, CapiEvent.registered,
        CapiEvent.released]
    · simp [record, success, CapiEvent.gained, CapiEvent.lost, CapiEvent.registered,
        CapiEvent.released]
  | _ => simp [record, CapiEvent.gained, CapiEvent.lost, CapiEvent.registered, CapiEvent.released]

theorem record_stale (list : Memory) (event : CapiEvent) (stores : event.Stores maxAppl)
    (stale stale' : UInt32) : record stale list event = record stale' list event := by
  obtain ⟨call, reply⟩ := event
  cases call with
  | register bufferSize connections blocks length =>
    by_cases success : reply.code = 0
    · obtain ⟨app, written, -⟩ := stores success
      simp only [record, written, Option.getD_some]
    · simp only [record, success, if_false]
  | _ => rfl

/-- The array of one session and the calls made to the CAPI. -/
structure Ledger where
  apps : Memory
  history : List CapiEvent

namespace Ledger

/-- Handling a request makes at most one call, and records its result. -/
inductive Step (capi : Capi) : Ledger → Ledger → Prop where
  | idle (l) : Step capi l l
  | call (apps : Memory) (history : List CapiEvent) (call : CapiCall) (stale : UInt32) :
      Step capi ⟨apps, history⟩
        ⟨record stale apps (call, capi history call), history ++ [(call, capi history call)]⟩

theorem Step.query (call : CapiCall) (plain : ∀ stale list reply, record stale list (call, reply) = list) :
    Step capi ⟨list, calls⟩ ⟨list, calls ++ [(call, capi calls call)]⟩ := by
  have step : Step capi _ _ := .call list calls call 0
  rwa [plain] at step

/-- The array of the only session marks what the CAPI has registered, all of it admitted ids. -/
structure Consistent (maxAppl : Nat) (l : Ledger) : Prop where
  marks : marked maxAppl l.apps = registered l.history
  positive : ∀ app ∈ registered l.history, 1 ≤ app.toNat

theorem Consistent.start (list : Memory) : Consistent maxAppl ⟨clearApps maxAppl list, []⟩ where
  marks := by simp [marked_clear]
  positive := by simp

theorem gained_positive {event : CapiEvent} (stores : event.Stores maxAppl)
    (gained : app ∈ event.gained) : 1 ≤ app.toNat := by
  obtain ⟨call, reply⟩ := event
  cases call with
  | register bufferSize connections blocks length =>
    simp only [CapiEvent.gained, CapiEvent.registered, Set.mem_ofPred_eq,
      Option.ite_none_right_eq_some] at gained
    obtain ⟨app', written, low, -⟩ := stores gained.1
    obtain rfl := Option.some.inj (written.symm.trans gained.2)
    exact low
  | _ => cases gained

theorem Step.consistent (free : capi.HandsOutFree maxAppl) (step : Step capi l l')
    (before : Consistent maxAppl l) : Consistent maxAppl l' := by
  cases step with
  | idle => exact before
  | call list history call stale =>
    obtain ⟨marks, positive⟩ := before
    have stores := free.stores history call
    constructor
    · simp only [marked_record _ stores, registered_append]
      rw [marks]
    · intro app member
      rw [registered_append] at member
      rcases member with gained | ⟨kept, -⟩
      · exact gained_positive stores gained
      · exact positive app kept

end Ledger
end CapiProxy
