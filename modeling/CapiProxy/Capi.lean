import CapiProxy.Protocol
import Mathlib.Data.Set.Lattice
import Mathlib.Order.CompletePartialOrder

/-! The local CAPI a server calls. It is outside the repository, so it is an arbitrary
function of everything it has been asked and has answered so far; what a server relies on is
stated as a contract on that function. -/
namespace CapiProxy
open Bytes

inductive CapiCall where
  | register (messageBufferSize : Option UInt32)
      (maxLogicalConnection maxBDataBlocks maxBDataLen : UInt32)
  | release (applID : UInt32)
  | putMessage (applID : UInt32) (message : Nat) (memory : Memory)
  | getMessage (applID : UInt32)
  | waitForSignal (applID : UInt32)
  | getManufacturer (controller : UInt32)
  | getVersion (controller : UInt32)
  | getSerialNumber (controller : UInt32)
  | getProfile (controller : UInt32)
  | installed

def CapiCall.application : CapiCall → Option UInt32
  | .release app | .putMessage app .. | .getMessage app | .waitForSignal app => some app
  | _ => none

/-- What a call returns and stores: `applID` is the word written through the id pointer,
`message` the address of a received message in `memory`, `output` the bytes written to the
caller's buffer. Each call uses the members its C prototype has. -/
structure CapiReply where
  code : UInt32
  applID : Option UInt32
  message : Nat
  memory : Memory
  output : List UInt8

abbrev CapiEvent := CapiCall × CapiReply

abbrev Capi := List CapiEvent → CapiCall → CapiReply

namespace CapiEvent

/-- The id a successful register call handed out. -/
def registered : CapiEvent → Option UInt32
  | (.register .., reply) => if reply.code = 0 then reply.applID else none
  | _ => none

def released : CapiEvent → Option UInt32
  | (.release applID, reply) => if reply.code = 0 then some applID else none
  | _ => none

/-- The applications registered after one more event. -/
def update (ids : List UInt32) (event : CapiEvent) : List UInt32 :=
  (registered event).toList ++ ids.filter fun app => released event ≠ some app

def gained (event : CapiEvent) : Set UInt32 := {app | event.registered = some app}
def lost (event : CapiEvent) : Set UInt32 := {app | event.released = some app}

end CapiEvent

/-- The applications registered and not released since, according to a history. -/
def held (history : List CapiEvent) : List UInt32 := history.foldl CapiEvent.update []

@[simp] theorem held_nil : held [] = [] := rfl

@[simp] theorem held_append (history : List CapiEvent) (event : CapiEvent) :
    held (history ++ [event]) = event.update (held history) := by
  simp only [held, List.foldl_append, List.foldl_cons, List.foldl_nil]

def registered (history : List CapiEvent) : Set UInt32 := {app | app ∈ held history}

@[simp] theorem registered_nil : registered [] = ∅ := by simp [registered]

theorem registered_append (history : List CapiEvent) (event : CapiEvent) :
    registered (history ++ [event]) = event.gained ∪ (registered history \ event.lost) := by
  ext app
  simp [registered, CapiEvent.update, CapiEvent.gained, CapiEvent.lost, Option.mem_toList]

/-- Registration hands out an application id of the admitted range that is currently free. -/
def Capi.HandsOutFree (capi : Capi) (maxAppl : Nat) : Prop :=
  ∀ history bufferSize connections blocks length,
    (capi history (.register bufferSize connections blocks length)).code = 0 →
    ∃ app, (capi history (.register bufferSize connections blocks length)).applID = some app ∧
      1 ≤ app.toNat ∧ app.toNat ≤ maxAppl ∧ app ∉ held history

/-- A release only succeeds for an id of the admitted range. -/
def Capi.ReleasesAdmitted (capi : Capi) (maxAppl : Nat) : Prop :=
  ∀ history app, (capi history (.release app)).code = 0 → app.toNat ≤ maxAppl

theorem CapiEvent.lost_application (released : app ∈ CapiEvent.lost (call, reply)) :
    call.application = some app := by
  cases call with
  | release app' =>
    simp only [CapiEvent.lost, CapiEvent.released, Set.mem_ofPred_eq,
      Option.ite_none_right_eq_some] at released
    exact released.2
  | _ => cases released

/-- A successful register call stored the id it handed out, and that is an admitted id. -/
def CapiEvent.Stores (maxAppl : Nat) : CapiEvent → Prop
  | (.register .., reply) => reply.code = 0 →
    ∃ app, reply.applID = some app ∧ 1 ≤ app.toNat ∧ app.toNat ≤ maxAppl
  | _ => True

theorem Capi.HandsOutFree.stores {capi : Capi} (free : capi.HandsOutFree maxAppl)
    (history : List CapiEvent) (call : CapiCall) :
    CapiEvent.Stores maxAppl (call, capi history call) := by
  cases call with
  | register bufferSize connections blocks length =>
    intro success
    obtain ⟨app, written, low, high, -⟩ := free history _ _ _ _ success
    exact ⟨app, written, low, high⟩
  | _ => trivial

theorem Capi.HandsOutFree.gained_free {capi : Capi} (free : capi.HandsOutFree maxAppl)
    (history : List CapiEvent) (call : CapiCall) :
    Disjoint (CapiEvent.gained (call, capi history call)) (CapiProxy.registered history) := by
  rw [Set.disjoint_left]
  intro app gained
  cases call with
  | register bufferSize connections blocks length =>
    simp only [CapiEvent.gained, CapiEvent.registered, Set.mem_ofPred_eq,
      Option.ite_none_right_eq_some] at gained
    obtain ⟨app', written, -, -, fresh⟩ := free history _ _ _ _ gained.1
    obtain rfl := Option.some.inj (written.symm.trans gained.2)
    exact fresh
  | _ => cases gained

/-- A CAPI that hands out the smallest free id and reports success to everything else. -/
def Capi.firstFree (maxAppl : Nat) : Capi := fun history call =>
  match call with
  | .register .. =>
    match (List.range' 1 maxAppl).find? fun i => UInt32.ofNat i ∉ held history with
    | some i => ⟨0, some (.ofNat i), 0, zeros, []⟩
    | none => ⟨0x1001, none, 0, zeros, []⟩
  | _ => ⟨0, none, 0, zeros, []⟩

theorem Capi.firstFree_handsOutFree (small : maxAppl < 2 ^ 32) :
    (Capi.firstFree maxAppl).HandsOutFree maxAppl := by
  intro history bufferSize connections blocks length success
  cases found : (List.range' 1 maxAppl).find? fun i => UInt32.ofNat i ∉ held history with
  | none => simp only [Capi.firstFree, found] at success; exact absurd success (by decide)
  | some i =>
    have range := List.mem_range'_1.mp (List.mem_of_find?_eq_some found)
    have free := List.find?_some found
    have value : (UInt32.ofNat i).toNat = i := by
      rw [UInt32.toNat_ofNat', Nat.mod_eq_of_lt (by omega)]
    exact ⟨.ofNat i, by simp only [Capi.firstFree, found], by omega, by omega, by simpa using free⟩

end CapiProxy
