import CapiProxy.Ownership.Tenants
import CapiProxy.Traces.Throughout

/-! The session slots of the Win32 server. The accept loop asks `allocSession` for a slot and
starts a thread for it; each thread frees its slot when its session ends. The loop takes -1 for a
full table, but `allocSession` returns 0 then, which is the slot of the first session. -/
namespace CapiProxy.Win32Server
open Ownership Traces

def maxSessions : Nat := 127
def invalidSocket : UInt32 := 0xFFFFFFFF

/-- The thread of a session: the connection that was accepted for it, the slot it was started
with, and its `client.socket` once it runs. -/
structure SessionThread where
  connection : UInt32
  sess : Nat
  socket : Option UInt32

structure Service where
  sockets : Nat → UInt32
  threads : List SessionThread

/-- The accept loop gets a connection, and `CreateThread` succeeds or not; a thread starts to run;
or its session ends. Nothing another thread does between `allocSession` and `CreateThread` changes
what these two do, so they are one step. -/
inductive ServiceEvent where
  | accept (connection : UInt32) (created : Bool)
  | begin (thread : Nat)
  | finish (thread : Nat)

/-- The slot of the table for a socket, with the table after it was stored there. -/
def allocSession (sockets : Nat → UInt32) (socke : UInt32) : Int × (Nat → UInt32) :=
  match firstFree invalidSocket maxSessions sockets with
  | some i => (i, Function.update sockets i socke)
  | none => (0, sockets)

theorem allocSession_some (found : firstFree invalidSocket maxSessions sockets = some i) :
    allocSession sockets socke = ((i : Int), Function.update sockets i socke) := by
  simp only [allocSession, found]

theorem allocSession_none (full : firstFree invalidSocket maxSessions sockets = none) :
    allocSession sockets socke = (0, sockets) := by
  simp only [allocSession, full]

def freeSession (sess : Nat) (sockets : Nat → UInt32) : Nat → UInt32 :=
  if maxSessions ≤ sess then sockets else Function.update sockets sess invalidSocket

namespace Service

def step (s : Service) : ServiceEvent → Service
  | .accept connection created =>
    if connection = invalidSocket then s
    else
      let (sess, sockets) := allocSession s.sockets connection
      if sess = -1 then s
      else if created then
        { sockets := sockets, threads := s.threads ++ [⟨connection, sess.toNat, none⟩] }
      else { s with sockets := sockets }
  | .begin thread =>
    match s.threads[thread]? with
    | some t =>
      if t.socket.isNone then
        { s with threads := s.threads.set thread { t with socket := some (s.sockets t.sess) } }
      else s
    | none => s
  | .finish thread =>
    match s.threads[thread]? with
    | some t =>
      if t.socket.isSome then
        { sockets := freeSession t.sess s.sockets, threads := s.threads.eraseIdx thread }
      else s
    | none => s

/-- The service before the first connection. -/
def start : Service := ⟨fun _ => invalidSocket, []⟩

def run (events : List ServiceEvent) : Service := events.foldl step start

theorem run_append (events : List ServiceEvent) (e : ServiceEvent) :
    run (events ++ [e]) = (run events).step e := by
  rw [run, List.foldl_append]
  rfl

def sessionId (session : UInt32) (t : SessionThread) : UInt32 := session + .ofNat t.sess

def Full (s : Service) : Prop := ∀ i < maxSessions, s.sockets i ≠ invalidSocket

instance (s : Service) : Decidable s.Full := inferInstanceAs (Decidable (∀ _ < _, _))

/-- Sessions that are alive have different slots and ids, and each has the socket of its own
connection, in the table and for itself. -/
structure Safe (session : UInt32) (s : Service) : Prop where
  slots : (s.threads.map (·.sess)).Nodup
  ids : (s.threads.map (sessionId session)).Nodup
  table : ∀ t ∈ s.threads, t.sess < maxSessions ∧ s.sockets t.sess = t.connection
  socket : ∀ t ∈ s.threads, ∀ socket, t.socket = some socket → socket = t.connection

def Refuses (s : Service) : ServiceEvent → Prop
  | .accept connection created => s.Full → s.step (.accept connection created) = s
  | _ => True

/-- A thread is created for a connection although there is no slot for it. -/
def Overflows (s : Service) : ServiceEvent → Prop
  | .accept connection created => connection ≠ invalidSocket ∧ created = true ∧ s.Full
  | _ => False

/-- The threads are the tenants of the table, and those that run have read their own slot. -/
structure Sound (s : Service) : Prop where
  housed : Housed SessionThread.sess SessionThread.connection invalidSocket maxSessions s.sockets
    s.threads
  socket : ∀ t ∈ s.threads, ∀ socket, t.socket = some socket → socket = t.connection

theorem start_sound : start.Sound := ⟨.empty _ _ _ _ _, nofun⟩

theorem Sound.safe {s : Service} (sound : s.Sound) (session : UInt32) : s.Safe session where
  slots := sound.housed.apart
  ids := by
    rw [show s.threads.map (sessionId session) =
      (s.threads.map (·.sess)).map fun sess => session + .ofNat sess by rw [List.map_map]; rfl]
    refine sound.housed.apart.map_on fun i here j there same => ?_
    obtain ⟨t, living, rfl⟩ := List.mem_map.mp here
    obtain ⟨t', living', rfl⟩ := List.mem_map.mp there
    have first := sound.housed.inside t living
    have second := sound.housed.inside t' living'
    simp only [maxSessions] at first second
    have words := congrArg UInt32.toNat ((UInt32.add_right_inj session).mp same)
    rw [UInt32.toNat_ofNat', UInt32.toNat_ofNat'] at words
    omega
  table t living := ⟨sound.housed.inside t living, sound.housed.holds t living⟩
  socket := sound.socket

theorem step_accept (s : Service) (connection : UInt32) (created : Bool) :
    s.step (.accept connection created) =
      if connection = invalidSocket then s
      else
        match firstFree invalidSocket maxSessions s.sockets with
        | some i =>
          { sockets := Function.update s.sockets i connection
            threads := if created then s.threads ++ [⟨connection, i, none⟩] else s.threads }
        | none => if created then { s with threads := s.threads ++ [⟨connection, 0, none⟩] } else s := by
  simp only [step]
  split
  · rfl
  · cases found : firstFree invalidSocket maxSessions s.sockets with
    | none =>
      rw [allocSession_none found]
      cases created <;> rfl
    | some i =>
      have slot : ¬ (i : Int) = -1 := by omega
      rw [allocSession_some found]
      cases created <;> simp only [if_neg slot, Int.toNat_natCast] <;> rfl

theorem full_iff (s : Service) : s.Full ↔ firstFree invalidSocket maxSessions s.sockets = none :=
  firstFree_none.symm

theorem refuses_iff (s : Service) (e : ServiceEvent) : s.Refuses e ↔ ¬ s.Overflows e := by
  cases e with
  | accept connection created =>
    simp only [Refuses, Overflows, step_accept]
    by_cases invalid : connection = invalidSocket
    · simp [invalid]
    · by_cases full : s.Full
      · have none := s.full_iff.mp full
        cases created with
        | false => simp [none]
        | true =>
          simp only [if_neg invalid, none, if_true]
          refine iff_of_false (fun refused => ?_) fun fits => fits ⟨invalid, trivial, full⟩
          have longer := congrArg Service.threads (refused full)
          simp at longer
      · simp [full]
  | begin thread => exact iff_of_true trivial not_false
  | finish thread => exact iff_of_true trivial not_false

theorem accept_sound {s : Service} (sound : s.Sound) (connection : UInt32) (created : Bool)
    (fits : ¬ s.Overflows (.accept connection created)) :
    (s.step (.accept connection created)).Sound := by
  rw [step_accept]
  split
  · exact sound
  · next valid =>
    cases found : firstFree invalidSocket maxSessions s.sockets with
    | none =>
      cases created with
      | false => exact sound
      | true => exact absurd ⟨valid, rfl, s.full_iff.mpr found⟩ fits
    | some i =>
      cases created with
      | false => exact ⟨sound.housed.put found connection, sound.socket⟩
      | true =>
        refine ⟨sound.housed.enter found ⟨connection, i, none⟩ rfl valid, ?_⟩
        intro t member socket running
        rcases List.mem_append.mp member with living | last
        · exact sound.socket t living socket running
        · rw [List.mem_singleton.mp last] at running
          cases running

theorem begin_sound {s : Service} (sound : s.Sound) (thread : Nat) : (s.step (.begin thread)).Sound := by
  simp only [step]
  split
  · next t found =>
    split
    · obtain ⟨inside, here⟩ := List.getElem?_eq_some_iff.mp found
      have living := List.mem_of_getElem? found
      refine ⟨sound.housed.replace inside _ (by rw [here]) (by rw [here]), ?_⟩
      intro t' changed socket running
      rcases List.mem_or_eq_of_mem_set changed with other | rfl
      · exact sound.socket t' other socket running
      · obtain rfl := Option.some.inj running
        exact sound.housed.holds t living
    · exact sound
  · exact sound

theorem finish_sound {s : Service} (sound : s.Sound) (thread : Nat) :
    (s.step (.finish thread)).Sound := by
  simp only [step]
  split
  · next t found =>
    split
    · obtain ⟨inside, rfl⟩ := List.getElem?_eq_some_iff.mp found
      have slot := sound.housed.inside _ (List.mem_of_getElem? found)
      rw [freeSession, if_neg (Nat.not_le.mpr slot)]
      refine ⟨sound.housed.leave inside, fun t member socket running => ?_⟩
      exact sound.socket t ((List.eraseIdx_sublist _ _).subset member) socket running
    · exact sound
  · exact sound

theorem step_sound {s : Service} (sound : s.Sound) (e : ServiceEvent) (fits : ¬ s.Overflows e) :
    (s.step e).Sound := by
  cases e with
  | accept connection created => exact accept_sound sound connection created fits
  | begin thread => exact begin_sound sound thread
  | finish thread => exact finish_sound sound thread

end Service

/-- The slots of the sessions are safe, and a connection without a slot is refused, as long as no
thread is created while the table is full; and no longer. -/
theorem session_slots_iff (session : UInt32) (events : List ServiceEvent) :
    Throughout (fun before e => ((Service.run before).step e).Safe session ∧
        (Service.run before).Refuses e) events ↔
      Throughout (fun before e => ¬ (Service.run before).Overflows e) events := by
  refine throughout_iff_of_invariant (P := fun before => (Service.run before).Sound)
    Service.start_sound (fun before e sound => ?_) (fun before e sound fits => ?_) events
  · rw [Service.refuses_iff]
    exact and_iff_right_of_imp fun fits => (Service.step_sound sound e fits).safe session
  · rw [Service.run_append]
    exact Service.step_sound sound e fits

/-- As many connections as there are slots, each with a thread. -/
def crowd : List ServiceEvent :=
  (List.range maxSessions).map fun i => .accept (.ofNat (i + 1)) true

theorem number_ne_invalid (below : i < maxSessions) : UInt32.ofNat (i + 1) ≠ invalidSocket := by
  intro same
  have number := congrArg UInt32.toNat same
  have invalid : invalidSocket.toNat = 0xFFFFFFFF := rfl
  rw [UInt32.toNat_ofNat', invalid] at number
  simp only [maxSessions] at below
  omega

theorem crowd_fills (n : Nat) (bound : n ≤ maxSessions) :
    let s := Service.run ((List.range n).map fun i => .accept (.ofNat (i + 1)) true)
    s.threads.map (·.sess) = List.range n ∧
      ∀ i, s.sockets i = if i < n then .ofNat (i + 1) else invalidSocket := by
  induction n with
  | zero => exact ⟨rfl, fun _ => rfl⟩
  | succ n ih =>
    obtain ⟨slots, sockets⟩ := ih (Nat.le_of_succ_le bound)
    have here := (sockets n).trans (if_neg (Nat.lt_irrefl n))
    have found : firstFree invalidSocket maxSessions _ = some n := firstFree_eq bound here fun j lower => by
      rw [sockets, if_pos lower]
      exact number_ne_invalid (Nat.lt_trans lower bound)
    rw [List.range_succ, List.map_append, List.map_singleton, Service.run_append, Service.step_accept,
      if_neg (number_ne_invalid bound), found]
    dsimp only
    constructor
    · rw [if_pos rfl, List.map_append, slots]
      rfl
    · intro i
      by_cases last : i = n
      · rw [last, Function.update_self, if_pos (Nat.lt_succ_self n)]
      · rw [Function.update_of_ne last, sockets]
        exact if_congr (by omega) rfl rfl

/-- With a thread in every slot, the next connection gets a second thread for the slot of the first session. -/
theorem crowd_shares_slot :
    ¬ Throughout (fun before e => ((Service.run before).step e).Safe 0x10000 ∧
        (Service.run before).Refuses e) (crowd ++ [.accept 128 true]) := by
  intro holds
  have safe := (holds crowd (.accept 128 true) [] rfl).1
  have valid : (128 : UInt32) ≠ invalidSocket := by decide
  obtain ⟨slots, sockets⟩ := crowd_fills maxSessions (Nat.le_refl _)
  have full : firstFree invalidSocket maxSessions (Service.run crowd).sockets = none := by
    refine firstFree_none.mpr fun i below => ?_
    rw [crowd, sockets, if_pos below]
    exact number_ne_invalid below
  have apart := safe.slots
  rw [Service.step_accept, if_neg valid, full] at apart
  dsimp only at apart
  rw [if_pos rfl, List.map_append, crowd, slots, List.map_singleton] at apart
  -- slot 0 is the first of the slots already
  exact (List.nodup_append.mp apart).2.2 0 (by decide) 0 List.mem_cons_self rfl

end CapiProxy.Win32Server
