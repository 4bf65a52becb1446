import CapiProxy.Win32Server.Connections

/-! The threads that wait for a signal keep the raw socket handle of their session, and nobody waits for them. An
accepted connection with the handle of a closed socket would get their answers; but no session thread gets to
its `closesocket`, and `ServiceExit` closes the sockets when there is no accept loop any more. -/
namespace CapiProxy.Win32Server

namespace Server
variable {s s' : Server} {e : ServerEvent} {w : WaitThread}

/-- The connection on which a wait would be answered now. -/
def destination (s : Server) (w : WaitThread) : Option Nat := w.socket.bind s.connection

/-- What is sent, or would be, goes to the connection on which the request arrived, and before `ServiceExit` has
closed any socket it does go there. -/
structure Addressed (s : Server) : Prop where
  answers : ∀ d ∈ s.sent, ∀ c, d.destination = some c → d.arrived = some c
  waits : ∀ w ∈ s.waiters, ∀ c, s.destination w = some c → w.arrived = some c
  answered : s.exiting ≠ .closing → ∀ d ∈ s.sent, ∃ c, d.arrived = some c ∧ d.destination = some c
  waiting : s.exiting ≠ .closing → ∀ w ∈ s.waiters, ∃ c, w.arrived = some c ∧ s.destination w = some c

theorem start_addressed : start.Addressed := ⟨nofun, nofun, fun _ => nofun, fun _ => nofun⟩

/-- What a step makes of the handles: none that stands for a connection gets another one, and only `ServiceExit`
closes them, behind the accept loop. -/
structure Keeps (s s' : Server) : Prop where
  exiting : s'.exiting ≠ .closing → s.exiting ≠ .closing
  opened : s'.exiting ≠ .closing → ∀ h c, s.connection h = some c → s'.connection h = some c
  handles : ∀ h c, s'.connection h = some c →
    s.connection h = some c ∨ s.exiting ≠ .closing ∧ s.connection h = none

theorem Stepped.keeps (assigned : s.Assigned) (stepped : s.Stepped e s') : s.Keeps s' := by
  cases stepped with
  | @connects e connection polling valid fresh created client memory =>
    refine ⟨id, fun _ h c here => ?_, fun h c here => ?_⟩
    · have other : h ≠ connection := fun same => by
        rw [same, fresh] at here
        cases here
      exact (Function.update_of_ne other ..).trans here
    · dsimp only at here
      by_cases same : h = connection
      · refine .inr ⟨fun closing => ?_, same ▸ fresh⟩
        rw [assigned.finished closing] at polling
        cases polling
      · rw [Function.update_of_ne same] at here
        exact .inl here
  | controls c =>
    cases c with
    | stop =>
      refine ⟨fun waiting closing => waiting (if_pos closing), fun _ _ _ => id, fun _ _ => .inl⟩
    | _ => exact ⟨id, fun _ _ _ => id, fun _ _ => .inl⟩
  | ends => exact ⟨fun unclosed => absurd rfl unclosed, fun unclosed => absurd rfl unclosed, fun _ _ => .inl⟩
  | closes closing socket =>
    refine ⟨id, fun unclosed => absurd closing unclosed, fun h c here => .inl ?_⟩
    dsimp only at here
    by_cases same : h = socket
    · rw [same, Function.update_self] at here
      cases here
    · rwa [Function.update_of_ne same] at here
  | works | listens | calls => exact ⟨id, fun _ _ _ => id, fun _ _ => .inl⟩

theorem Stepped.posts (stepped : s.Stepped e s') : s.Posts s'.waiters s'.sent := by
  cases stepped with
  | works here goes waiters sent history posts => exact posts
  | calls waiters sent history posts => exact posts
  | controls c => cases c <;> exact .refl s
  | listens | connects | ends | closes => exact .refl s

theorem Assigned.served (assigned : s.Assigned) (running : s.exiting ≠ .closing) {w : Worker} (member : w ∈ s.workers)
    (receiving : w.doing = .receiving) : ∃ c, w.socket.bind s.connection = some c := by
  cases socket : w.socket with
  | none =>
    rw [assigned.begun w member socket] at receiving
    cases receiving
  | some h => exact ⟨w.sess, assigned.opened running w.sess h (assigned.socket w member h socket)⟩

/-- A wait that has just begun is addressed to where its request came from, as the earlier ones are. -/
theorem Addressed.posted (addressed : s.Addressed) (assigned : s.Assigned)
    (posts : s.Posts s'.waiters s'.sent) (member : w ∈ s'.waiters) : (∀ c, s.destination w = some c → w.arrived = some c) ∧
      (s.exiting ≠ .closing → ∃ c, w.arrived = some c ∧ s.destination w = some c) := by
  rcases posts.waits w member with ⟨v, there, socket, arrived⟩ | ⟨v, there, receiving, socket, arrived⟩
  · rw [destination, socket, arrived]
    exact ⟨addressed.waits v there, fun running => addressed.waiting running v there⟩
  · rw [destination, socket, arrived]
    refine ⟨fun _ => id, fun running => ?_⟩
    obtain ⟨c, here⟩ := assigned.served running there receiving
    exact ⟨c, here, here⟩

theorem Addressed.stepped (addressed : s.Addressed) (assigned : s.Assigned) (stepped : s.Stepped e s') :
    s'.Addressed := by
  have posts := stepped.posts
  have keeps := stepped.keeps assigned
  constructor
  case answers =>
    intro d member
    rcases posts.answers d member with old | ⟨v, there, arrived, sent⟩ | ⟨v, there, receiving, arrived, sent⟩
    · exact addressed.answers d old
    · rw [arrived, sent]
      exact addressed.waits v there
    · rw [arrived, sent]
      exact fun _ => id
  case waits =>
    intro w member c sent
    obtain ⟨own, unclosed⟩ := addressed.posted assigned posts member
    obtain ⟨h, socket, stands⟩ := Option.bind_eq_some_iff.mp sent
    rcases keeps.handles h c stands with before | ⟨running, free⟩
    · exact own c (by rw [destination, socket]; exact before)
    · -- the handle of a wait cannot have been given to a new connection
      obtain ⟨c', -, there⟩ := unclosed running
      rw [destination, socket, Option.bind_some, free] at there
      cases there
  case answered =>
    intro running d member
    have before := keeps.exiting running
    rcases posts.answers d member with old | ⟨v, there, arrived, sent⟩ | ⟨v, there, receiving, arrived, sent⟩
    · exact addressed.answered before d old
    · rw [arrived, sent]
      exact addressed.waiting before v there
    · rw [arrived, sent]
      obtain ⟨c, here⟩ := assigned.served before there receiving
      exact ⟨c, here, here⟩
  case waiting =>
    intro running w member
    obtain ⟨c, arrived, here⟩ := (addressed.posted assigned posts member).2 (keeps.exiting running)
    obtain ⟨h, socket, stands⟩ := Option.bind_eq_some_iff.mp here
    refine ⟨c, arrived, ?_⟩
    rw [destination, socket]
    exact keeps.opened running h c stands

theorem run_addressed (p : Process) (events : List ServerEvent) : (run p events).Addressed := by
  induction events using List.reverseRecOn with
  | nil => exact start_addressed
  | append_singleton events e ih =>
    rw [run_append]
    exact ih.stepped (run_assigned p events) (step_stepped p _ e)

/-- In every run of the server, an answer is only ever sent on the connection on which its request arrived,
that of a waiter included, and any wait that is answered later will be too; until `ServiceExit` closes the
sockets, it is sent there. -/
theorem waits_return (p : Process) (events : List ServerEvent) :
    (∀ d ∈ (run p events).sent, ∀ c, d.destination = some c → d.arrived = some c) ∧
    (∀ w ∈ (run p events).waiters, ∀ c, (run p events).destination w = some c → w.arrived = some c) ∧
    ((run p events).exiting ≠ .closing →
      (∀ d ∈ (run p events).sent, ∃ c, d.arrived = some c ∧ d.destination = some c) ∧
      ∀ w ∈ (run p events).waiters, ∃ c, w.arrived = some c ∧ (run p events).destination w = some c) := by
  have addressed := run_addressed p events
  exact ⟨addressed.answers, addressed.waits, fun running => ⟨addressed.answered running, addressed.waiting running⟩⟩

end Server
end CapiProxy.Win32Server
