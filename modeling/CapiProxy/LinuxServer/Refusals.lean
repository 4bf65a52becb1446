import CapiProxy.LinuxServer.Answers

/-! What the Linux server tells a client about a request it does not execute. -/
namespace CapiProxy.LinuxServer
open Bytes

namespace Processes

/-- The handler process receives a request, handles it and sends what there is to send. -/
def turn (env : Environment) (p : Processes) (f : RequestFrame) : Processes :=
  ((p.step env (.receive f)).step env .handle).step env .send

/-- The request was not executed: no CAPI call, no waiter, and no answer that reports success. -/
structure Refuses (p p' : Processes) : Prop where
  history : p'.session.history = p.session.history
  waiters : p'.waiters = p.waiters
  sent : ∀ n answer, p'.sent = p.sent ++ [(n, answer)] → answer.head.proxyError ≠ perrorNone

/-- One answer to a request was sent, and it names an error. -/
def Reports (messageId : UInt32) (p p' : Processes) : Prop :=
  ∃ n answer, p'.sent = p.sent ++ [(n, answer)] ∧ answer.head.messageId = messageId ∧
    answer.head.proxyError ≠ perrorNone

end Processes

/-- The request gets as far as its handler. -/
structure RequestFrame.Heard (env : Environment) (f : RequestFrame) (type : MessageType) : Prop where
  more : ¬ f.bare
  session : type.isCapi = true → f.request.sessionId = env.sessionID

namespace Processes
variable {env : Environment} {p p' : Processes} {f : RequestFrame}

theorem refuses_of_silent (history : p'.session.history = p.session.history)
    (waiters : p'.waiters = p.waiters) (silent : p'.sent = p.sent) : p.Refuses p' := by
  refine ⟨history, waiters, fun n answer sent => ?_⟩
  rw [silent] at sent
  simp at sent

theorem not_reports_of_silent (silent : p'.sent = p.sent) : ¬ Reports messageId p p' := by
  rintro ⟨n, answer, sent, -⟩
  rw [silent] at sent
  simp at sent

theorem turn_bare (free : p.stage = .receiving) (bare : f.bare) :
    p.turn env f = { p with
      memory := p.memory.write env.inPacket f.bytes
      received := p.received ++ [f]
      stage := .exited } := by
  simp only [turn, step, free, if_pos bare]

theorem turn_none (free : p.stage = .receiving) (more : ¬ f.bare)
    (run : selected env (p.memory.write env.inPacket f.bytes) = none) :
    p.turn env f = { p with
      memory := p.memory.write env.inPacket f.bytes
      received := p.received ++ [f]
      stage := .receiving
      completed := p.completed ++ [p.received.length] } := by
  simp only [turn, step, free, if_neg more, run]

theorem turn_reports (free : p.stage = .receiving) (more : ¬ f.bare)
    (run : selected env (p.memory.write env.inPacket f.bytes) = some (type, handler))
    (refuses : p.Refuses (p.turn env f)) : Reports f.request.messageId p (p.turn env f) := by
  have fulfilled := handler_fulfilled run p.received.length p.session
  have header : request env (p.memory.write env.inPacket f.bytes) = f.request :=
    f.request_write p.memory env.inPacket
  rw [header] at fulfilled
  cases fulfilled with
  | answered answer sent alone labelled =>
    have here : (p.turn env f).sent = p.sent ++ [(p.received.length, answer)] := by
      simp only [turn, step, free, if_neg more, run, sent]
    exact ⟨_, answer, here, labelled.messageId, refuses.sent _ answer here⟩
  | forked arm silent waits =>
    have longer := refuses.waiters
    simp only [turn, step, free, if_neg more, run, silent, waits] at longer
    simp at longer

theorem refusal_reported_iff (free : p.stage = .receiving)
    (arm : MessageType.ofCode f.request.messageType = some type) (answered : type.isAnswered = true) :
    (p.Refuses (p.turn env f) → Reports f.request.messageId p (p.turn env f)) ↔ f.Heard env type := by
  have header : request env (p.memory.write env.inPacket f.bytes) = f.request :=
    f.request_write p.memory env.inPacket
  by_cases bare : f.bare
  · refine iff_of_false (fun reported => ?_) fun heard => heard.more bare
    rw [turn_bare free bare] at reported
    exact not_reports_of_silent rfl (reported (refuses_of_silent rfl rfl rfl))
  · cases run : selected env (p.memory.write env.inPacket f.bytes) with
    | none =>
      rw [turn_none free bare run]
      refine iff_of_false
        (fun reported => not_reports_of_silent rfl (reported (refuses_of_silent rfl rfl rfl)))
        fun heard => ?_
      rw [← header] at arm
      obtain ⟨handler, selects⟩ := selected_answered arm answered fun capi =>
        (congrArg RequestHeader.sessionId header).trans (heard.session capi)
      cases run.symm.trans selects
    | some selection =>
      obtain ⟨type', handler⟩ := selection
      obtain ⟨arm', -, known⟩ := selected_some run
      rw [header] at arm' known
      obtain rfl := Option.some.inj (arm.symm.trans arm')
      exact iff_of_true (turn_reports free bare run) ⟨bare, known⟩

end Processes
end CapiProxy.LinuxServer
