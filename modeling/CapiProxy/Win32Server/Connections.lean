import CapiProxy.Win32Server.Lifecycle
import Mathlib.Data.List.GetD

/-! What becomes of the connections of a server process. No session thread gets to the end of its cleanup loop,
so no slot is ever given back: each of the first connections has the slot of its number, and when they are used
up, the threads of all further ones work on the socket of the first. -/
namespace CapiProxy.Win32Server
open Ownership Pools

namespace Server
variable {p : Process} {s s' : Server} {e : ServerEvent}

def slotOf (connection : Nat) : Nat := if connection < maxSessions then connection else 0

structure Assigned (s : Server) : Prop where
  valid : invalidSocket ∉ s.accepted
  apart : s.accepted.Nodup
  table : ∀ i < maxSessions, s.sockets i = s.accepted.getD i invalidSocket
  numbers : (s.workers.map (·.connection)).Pairwise (· < ·)
  known : ∀ w ∈ s.workers, w.connection < s.accepted.length
  slots : ∀ w ∈ s.workers, w.sess = slotOf w.connection
  socket : ∀ w ∈ s.workers, ∀ h, w.socket = some h → s.accepted[w.sess]? = some h
  begun : ∀ w ∈ s.workers, w.socket = none → w.doing = .created
  alive : ∀ w ∈ s.workers, w.doing ≠ .ended
  opened : s.exiting ≠ .closing → ∀ i h, s.accepted[i]? = some h → s.connection h = some i
  finished : s.exiting = .closing → s.listening = .ended

theorem start_assigned : start.Assigned := by
  refine ⟨nofun, List.nodup_nil, fun _ _ => rfl, List.Pairwise.nil, nofun, nofun, nofun, nofun, nofun, ?_, nofun⟩
  intro _ i h none
  cases none

theorem slotOf_inside (connection : Nat) : slotOf connection < maxSessions := by
  unfold slotOf
  split
  · assumption
  · decide

theorem slotOf_le (connection : Nat) : slotOf connection ≤ connection := by
  unfold slotOf
  split
  · exact Nat.le_refl _
  · exact Nat.zero_le _

theorem Assigned.free_iff (assigned : s.Assigned) (inside : i < maxSessions) :
    s.sockets i = invalidSocket ↔ s.accepted.length ≤ i := by
  rw [assigned.table i inside]
  constructor
  · intro free
    by_contra before
    have member : s.accepted.getD i invalidSocket ∈ s.accepted := by
      rw [List.getD_eq_getElem _ _ (Nat.not_le.mp before)]
      exact List.getElem_mem _
    exact assigned.valid (free ▸ member)
  · intro behind
    rw [List.getD_eq_getElem?_getD, List.getElem?_eq_none behind]
    rfl

theorem Assigned.alloc (assigned : s.Assigned) (connection : UInt32) :
    (allocSession s.sockets connection).1 = slotOf s.accepted.length ∧
      ∀ i < maxSessions, (allocSession s.sockets connection).2 i =
        (s.accepted ++ [connection]).getD i invalidSocket := by
  have before (i : Nat) (inside : i < maxSessions) (other : i ≠ s.accepted.length) :
      (s.accepted ++ [connection]).getD i invalidSocket = s.sockets i := by
    rw [assigned.table i inside]
    simp only [List.getD_eq_getElem?_getD, List.getElem?_append, List.getElem?_singleton]
    split
    · rfl
    · next behind =>
      rw [if_neg (by omega), List.getElem?_eq_none (Nat.not_lt.mp behind)]
  by_cases room : s.accepted.length < maxSessions
  · have found : firstFree invalidSocket maxSessions s.sockets = some s.accepted.length :=
      firstFree_eq room ((assigned.free_iff room).mpr (Nat.le_refl _)) fun j lower free =>
        Nat.not_le.mpr lower ((assigned.free_iff (Nat.lt_trans lower room)).mp free)
    rw [allocSession_some found, slotOf, if_pos room]
    refine ⟨rfl, fun i inside => ?_⟩
    by_cases here : i = s.accepted.length
    · subst here
      simp [List.getD_eq_getElem?_getD]
    · rw [before i inside here]
      exact Function.update_of_ne here _ _
  · have full : firstFree invalidSocket maxSessions s.sockets = none :=
      firstFree_none.mpr fun i inside free =>
        room (Nat.lt_of_le_of_lt ((assigned.free_iff inside).mp free) inside)
    rw [allocSession_none full, slotOf, if_neg room]
    exact ⟨rfl, fun i inside => (before i inside (by omega)).symm⟩

/-- A session thread keeps its connection and its slot, reads its socket from the table, and does not end. -/
theorem Goes.keeps (goes : s.Goes w w') : w'.connection = w.connection ∧ w'.sess = w.sess ∧
    (w'.socket = w.socket ∧ w.doing ≠ .created ∨ w'.socket = some (s.sockets w.sess)) ∧
      (w.doing ≠ .ended → w'.doing ≠ .ended) := by
  cases goes with
  | begins => exact ⟨rfl, rfl, .inr rfl, fun _ => nofun⟩
  | tests doing | checks doing =>
    refine ⟨rfl, rfl, .inl ⟨rfl, by rw [doing]; nofun⟩, fun _ => ?_⟩
    dsimp only
    repeat' split
    all_goals nofun
  | receives doing | loses doing => exact ⟨rfl, rfl, .inl ⟨rfl, by rw [doing]; nofun⟩, fun _ => nofun⟩
  | releases doing => exact ⟨rfl, rfl, .inl ⟨rfl, by rw [doing]; nofun⟩, id⟩

/-- A step that leaves the table and the threads alone. -/
theorem Assigned.keep (assigned : s.Assigned) (accepted : s'.accepted = s.accepted)
    (sockets : s'.sockets = s.sockets) (workers : s'.workers = s.workers)
    (opened : s'.exiting ≠ .closing → s.exiting ≠ .closing ∧ s'.connection = s.connection)
    (finished : s'.exiting = .closing → s'.listening = .ended) : s'.Assigned := by
  refine ⟨?_, ?_, ?_, ?_, ?_, ?_, ?_, ?_, ?_, fun running => ?_, finished⟩
  · rw [accepted]
    exact assigned.valid
  · rw [accepted]
    exact assigned.apart
  · rw [accepted, sockets]
    exact assigned.table
  · rw [workers]
    exact assigned.numbers
  · rw [accepted, workers]
    exact assigned.known
  · rw [workers]
    exact assigned.slots
  · rw [accepted, workers]
    exact assigned.socket
  · rw [workers]
    exact assigned.begun
  · rw [workers]
    exact assigned.alive
  · obtain ⟨unclosed, connection⟩ := opened running
    rw [accepted, connection]
    exact assigned.opened unclosed

/-- The table gives a session thread the socket of its own connection, or of the first. -/
theorem Assigned.own_socket (assigned : s.Assigned) (member : w ∈ s.workers) :
    s.accepted[w.sess]? = some (s.sockets w.sess) := by
  have slot := assigned.slots w member
  have inside : w.sess < maxSessions := slot ▸ slotOf_inside w.connection
  have lower : w.sess ≤ w.connection := slot ▸ slotOf_le w.connection
  have bound : w.sess < s.accepted.length := Nat.lt_of_le_of_lt lower (assigned.known w member)
  rw [assigned.table _ inside, List.getD_eq_getElem _ _ bound]
  exact List.getElem?_eq_getElem bound

theorem Assigned.works (assigned : s.Assigned) (here : s.workers[i]? = some w) (goes : s.Goes w w')
    (waiters : List WaitThread) (sent : List Delivery) (history : List CapiEvent) :
    Assigned { s with workers := s.workers.set i w', waiters, sent, history } := by
  obtain ⟨connection, sess, socket, ended⟩ := goes.keeps
  have member := List.mem_of_getElem? here
  have others {P : Worker → Prop} (all : ∀ w ∈ s.workers, P w) (this : P w') : ∀ v ∈ s.workers.set i w', P v := by
    intro v changed
    rcases List.mem_or_eq_of_mem_set changed with old | rfl
    · exact all v old
    · exact this
  have numbers : (s.workers.set i w').map (·.connection) = s.workers.map (·.connection) := by
    obtain ⟨inside, rfl⟩ := List.getElem?_eq_some_iff.mp here
    exact Housed.map_slot_set (·.connection) inside w' connection
  refine ⟨assigned.valid, assigned.apart, assigned.table, numbers ▸ assigned.numbers, ?_, ?_, ?_, ?_, ?_,
    assigned.opened, assigned.finished⟩
  · exact others assigned.known (connection ▸ assigned.known w member)
  · refine others assigned.slots ?_
    rw [sess, connection]
    exact assigned.slots w member
  · refine others assigned.socket fun h running => ?_
    rw [sess]
    rcases socket with ⟨kept, -⟩ | read
    · exact assigned.socket w member h (kept ▸ running)
    · cases read.symm.trans running
      exact assigned.own_socket member
  · refine others assigned.begun fun none => ?_
    rcases socket with ⟨kept, begun⟩ | read
    · exact absurd (assigned.begun w member (kept.symm.trans none)) begun
    · cases read.symm.trans none
  · exact others assigned.alive (ended (assigned.alive w member))

/-- The accept loop gets a connection for which no thread can be created. -/
theorem Assigned.accepts (assigned : s.Assigned) {connection : UInt32} (polling : s.listening = .polling)
    (valid : connection ≠ invalidSocket) (fresh : s.connection connection = none) :
    Assigned { s with
      listening := .testing
      accepted := s.accepted ++ [connection]
      connection := Function.update s.connection connection (some s.accepted.length)
      sockets := (allocSession s.sockets connection).2 } := by
  have longer {h : UInt32} {i : Nat} (here : s.accepted[i]? = some h) :
      (s.accepted ++ [connection])[i]? = some h := by
    rw [List.getElem?_append_left (List.getElem?_eq_some_iff.mp here).1]
    exact here
  have running : s.exiting ≠ .closing := fun closing => by
    rw [assigned.finished closing] at polling
    cases polling
  have unknown : connection ∉ s.accepted := fun member => by
    obtain ⟨i, here⟩ := List.getElem?_of_mem member
    rw [assigned.opened running i connection here] at fresh
    cases fresh
  refine ⟨?_, ?_, (assigned.alloc connection).2, assigned.numbers, fun w member => ?_, assigned.slots,
    fun w member h begun => longer (assigned.socket w member h begun), assigned.begun, assigned.alive, ?_,
    fun closing => absurd closing running⟩
  · rw [List.mem_append, List.mem_singleton, not_or]
    exact ⟨assigned.valid, valid.symm⟩
  · rw [List.nodup_append]
    refine ⟨assigned.apart, List.nodup_singleton _, fun h member h' last => ?_⟩
    rw [List.mem_singleton.mp last]
    exact fun same => unknown (same ▸ member)
  · rw [List.length_append]
    exact Nat.lt_add_right _ (assigned.known w member)
  · intro _ i h here
    rcases get_append here with old | ⟨rfl, rfl⟩
    · have other : h ≠ connection := fun same => unknown (same ▸ List.mem_of_getElem? old)
      exact (Function.update_of_ne other ..).trans (assigned.opened running i h old)
    · exact Function.update_self ..

/-- A session thread for the last connection. -/
theorem Assigned.creates (assigned : s.Assigned) {accepted : List UInt32} {connection : UInt32} {w : Worker}
    (last : s.accepted = accepted ++ [connection]) (earlier : ∀ v ∈ s.workers, v.connection < accepted.length)
    (number : w.connection = accepted.length) (slot : w.sess = slotOf accepted.length) (unread : w.socket = none)
    (created : w.doing = .created) : Assigned { s with workers := s.workers ++ [w] } := by
  refine ⟨assigned.valid, assigned.apart, assigned.table, ?_, ?_, ?_, ?_, ?_, ?_, assigned.opened,
    assigned.finished⟩
  · rw [List.map_append, List.map_singleton, List.pairwise_append]
    refine ⟨assigned.numbers, List.pairwise_singleton _ _, fun n member n' same => ?_⟩
    obtain ⟨v, living, rfl⟩ := List.mem_map.mp member
    rw [List.mem_singleton.mp same, number]
    exact earlier v living
  · refine List.forall_mem_append.mpr ⟨assigned.known, List.forall_mem_singleton.mpr ?_⟩
    rw [last, List.length_append, number]
    exact Nat.lt_succ_self _
  · refine List.forall_mem_append.mpr ⟨assigned.slots, List.forall_mem_singleton.mpr ?_⟩
    rw [slot, number]
  · refine List.forall_mem_append.mpr ⟨assigned.socket, List.forall_mem_singleton.mpr fun h running => ?_⟩
    cases unread.symm.trans running
  · exact List.forall_mem_append.mpr ⟨assigned.begun, List.forall_mem_singleton.mpr fun _ => created⟩
  · refine List.forall_mem_append.mpr ⟨assigned.alive, List.forall_mem_singleton.mpr fun ended => ?_⟩
    cases created.symm.trans ended

theorem Assigned.controls (assigned : s.Assigned) (c : Control) : (s.control c).Assigned := by
  cases c with
  | stop =>
    refine assigned.keep rfl rfl rfl (fun waiting => ⟨fun closing => waiting (if_pos closing), rfl⟩) fun still => ?_
    refine assigned.finished ?_
    by_contra closing
    exact absurd ((if_neg closing).symm.trans still) nofun
  | _ => exact assigned.keep rfl rfl rfl (fun unclosed => ⟨unclosed, rfl⟩) assigned.finished

theorem Assigned.stepped (assigned : s.Assigned) (stepped : s.Stepped e s') : s'.Assigned := by
  cases stepped with
  | works here goes waiters sent history posts => exact assigned.works here goes waiters sent history
  | listens next listens =>
    refine assigned.keep rfl rfl rfl (fun unclosed => ⟨unclosed, rfl⟩) fun closing => ?_
    have ended := assigned.finished closing
    cases listens with
    | tests there | wakes there | polls there => rw [ended] at there; cases there
  | @connects e connection polling valid fresh created client memory =>
    have accepts := assigned.accepts polling valid fresh
    have slot : (allocSession s.sockets connection).1.toNat = slotOf s.accepted.length := by
      rw [(assigned.alloc connection).1]
      exact Int.toNat_natCast _
    split
    · exact accepts.creates rfl assigned.known rfl slot rfl rfl
    · exact accepts
  | calls => exact assigned.keep rfl rfl rfl (fun unclosed => ⟨unclosed, rfl⟩) assigned.finished
  | controls c => exact assigned.controls c
  | ends => exact assigned.keep rfl rfl rfl (fun unclosed => absurd rfl unclosed) fun _ => rfl
  | closes closing => exact assigned.keep rfl rfl rfl (fun unclosed => absurd closing unclosed) assigned.finished

theorem run_assigned (p : Process) (events : List ServerEvent) : (run p events).Assigned := by
  induction events using List.reverseRecOn with
  | nil => exact start_assigned
  | append_singleton events e ih =>
    rw [run_append]
    exact ih.stepped (step_stepped p _ e)

/-- In every run of the server, a session never ends; the thread for a connection with a number below the number
of slots has the slot of that number, and its own socket; the threads for all later ones have slot 0 and the
socket of the first connection, so that nothing is ever received from a later connection. -/
theorem connections_served (p : Process) (events : List ServerEvent) :
    (∀ w ∈ (run p events).workers, w.doing ≠ .ended ∧ w.sess = slotOf w.connection ∧
      ∀ h, w.socket = some h → (run p events).accepted[slotOf w.connection]? = some h) ∧
    ((run p events).workers.map (·.connection)).Pairwise (· < ·) ∧
    ∀ k h, maxSessions ≤ k → (run p events).accepted[k]? = some h →
      ∀ w ∈ (run p events).workers, w.socket ≠ some h := by
  have assigned := run_assigned p events
  refine ⟨fun w member => ?_, assigned.numbers, fun k h late here w member running => ?_⟩
  · have slot := assigned.slots w member
    exact ⟨assigned.alive w member, slot, slot ▸ assigned.socket w member⟩
  · have there := assigned.socket w member h running
    rw [assigned.slots w member] at there
    obtain ⟨inside, same⟩ := List.getElem?_eq_some_iff.mp here
    obtain ⟨inside', same'⟩ := List.getElem?_eq_some_iff.mp there
    have equal := (assigned.apart.getElem_inj_iff).mp (same'.trans same.symm)
    exact Nat.not_le.mpr (slotOf_inside w.connection) (equal ▸ late)

end Server
end CapiProxy.Win32Server
