import CapiProxy.LinuxServer.Refusals
import CapiProxy.Win32Server.Refusals

/-! Refusals of both servers. A client waits for the answer to each of its requests, so a request
that a server drops in silence keeps its caller waiting. -/
namespace CapiProxy.Integration
open Bytes

/-- Each server reports the refusal of a request exactly when the request passes the checks in
front of its handler, and on the Win32 server its credentials fit their buffers. -/
theorem refusals_reported_iff (env : Win32Server.Environment) (n : Nat) (s : Win32Server.State)
    (f : Frame sizeofRequestHeader) (arm : MessageType.ofCode f.request.messageType = some type)
    (answered : type.isAnswered = true)
    (env' : LinuxServer.Environment) (p : LinuxServer.Processes) (free : p.stage = .receiving)
    (f' : LinuxServer.RequestFrame) (arm' : MessageType.ofCode f'.request.messageType = some type')
    (answered' : type'.isAnswered = true) :
    (((Win32Server.process env n (s.receive env f.bytes)).2.Refuses (s.receive env f.bytes) →
        (Win32Server.process env n (s.receive env f.bytes)).2.Reports f.request.messageId) ↔
      Win32Server.Heard env (s.receive env f.bytes) type) ∧
    ((p.Refuses (p.turn env' f') →
        LinuxServer.Processes.Reports f'.request.messageId p (p.turn env' f')) ↔
      f'.Heard env' type') := by
  have header : Win32Server.header env (s.receive env f.bytes).memory = f.request :=
    f.request_write s.memory env.requestBuffer
  refine ⟨?_, LinuxServer.Processes.refusal_reported_iff free arm' answered'⟩
  rw [← header] at arm ⊢
  exact Win32Server.refusal_reported_iff env n _ arm answered

/-- A Win32 client's request to release application 1, with the id of another session. -/
def foreignRelease : LinuxServer.RequestFrame where
  toFrame := RequestHeader.frame ⟨37, 36, 1, 0, 1, MessageType.capiRelease.code, 1, 0, 7⟩ [0]
    (by decide)
  fits := by decide

def firstTurn : LinuxServer.Processes := .start LinuxServer.Connection.sample.session zeros

theorem foreignRelease_arm :
    MessageType.ofCode foreignRelease.request.messageType = some .capiRelease := by decide

theorem foreignRelease_reported_iff :
    (((Win32Server.process .sample 0 (Win32Server.Connection.sample.state.receive .sample
            foreignRelease.bytes)).2.Refuses
          (Win32Server.Connection.sample.state.receive .sample foreignRelease.bytes) →
        (Win32Server.process .sample 0 (Win32Server.Connection.sample.state.receive .sample
            foreignRelease.bytes)).2.Reports foreignRelease.request.messageId) ↔
      Win32Server.Heard .sample
        (Win32Server.Connection.sample.state.receive .sample foreignRelease.bytes) .capiRelease) ∧
    ((firstTurn.Refuses (firstTurn.turn .loopback foreignRelease) →
        LinuxServer.Processes.Reports foreignRelease.request.messageId firstTurn
          (firstTurn.turn .loopback foreignRelease)) ↔
      foreignRelease.Heard .loopback .capiRelease) :=
  refusals_reported_iff .sample 0 Win32Server.Connection.sample.state foreignRelease.toFrame
    foreignRelease_arm rfl .loopback firstTurn rfl foreignRelease foreignRelease_arm rfl

/-- Neither server tells the client that it used the wrong session id. -/
theorem foreignRelease_silent :
    ¬ ((Win32Server.process .sample 0 (Win32Server.Connection.sample.state.receive .sample
            foreignRelease.bytes)).2.Refuses
          (Win32Server.Connection.sample.state.receive .sample foreignRelease.bytes) →
        (Win32Server.process .sample 0 (Win32Server.Connection.sample.state.receive .sample
            foreignRelease.bytes)).2.Reports foreignRelease.request.messageId) ∧
    ¬ (firstTurn.Refuses (firstTurn.turn .loopback foreignRelease) →
        LinuxServer.Processes.Reports foreignRelease.request.messageId firstTurn
          (firstTurn.turn .loopback foreignRelease)) := by
  constructor
  · intro reported
    have heard : Win32Server.Heard .sample _ .capiRelease :=
      (Win32Server.refusal_reported_iff .sample 0
        (Win32Server.Connection.sample.state.receive .sample foreignRelease.bytes) (by decide)
        rfl).mp reported
    exact absurd (heard.session rfl) (by decide)
  · intro reported
    have heard := (LinuxServer.Processes.refusal_reported_iff rfl foreignRelease_arm rfl).mp reported
    exact absurd (heard.session rfl) (by decide)

end CapiProxy.Integration
