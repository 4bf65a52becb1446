import CapiProxy.Win32Server.Framing

/-! What the Win32 server tells a client about a request it does not execute. A handler that
decides against its request says so in the answer; the checks before the handlers, and the one
on the length of credentials, drop the request in silence. -/
namespace CapiProxy.Win32Server
open Bytes

namespace Effect

/-- The request was not executed: no CAPI call, no waiter, and no answer that reports success. -/
structure Refuses (s : State) (e : Effect) : Prop where
  history : e.state.history = s.history
  waiter : e.waiter = none
  answer : ∀ answer, e.answer = some answer → answer.head.proxyError ≠ perrorNone

def Reports (messageId : UInt32) (e : Effect) : Prop :=
  ∃ answer, e.answer = some answer ∧ answer.head.messageId = messageId ∧
    answer.head.proxyError ≠ perrorNone

end Effect

theorem Effect.idle_refuses (s : State) : (Effect.idle s).Refuses s := ⟨rfl, rfl, nofun⟩

/-- An AUTH request whose user name or password does not fit its buffer. -/
structure Oversized (env : Environment) (s : State) : Prop where
  userpass : s.memory.word32 (pointers env s.memory).rbody = authUserpass
  enabled : env.authTypes &&& authUserpass ≠ 0
  long : (credentials s.memory (pointers env s.memory)).2 = none

/-- The request in the buffer passes the checks that no answer reports. -/
structure Heard (env : Environment) (s : State) (type : MessageType) : Prop where
  verified : verifyRequest s.memory env.requestBuffer = true
  session : checksSession type = true →
    verifySessionId s.memory env.requestBuffer env.session = true
  fits : type = .proxyAuth → ¬ Oversized env s

/-- What a handler leaves behind: an answer to the request, or a waiter that will answer it. -/
inductive Settles (messageId : UInt32) (e : Effect) : Prop where
  | sent (answer : AnswerBuffer) (sent : e.answer = some answer)
      (labelled : answer.head.messageId = messageId)
  | waits (w : WaiterData) (started : e.waiter = some w)

theorem settles_answer (s : State) {answer : AnswerBuffer}
    (labelled : answer.head.messageId = messageId) : Settles messageId (answerWith s answer) :=
  .sent (finish answer) rfl labelled

theorem Settles.reports (settles : Settles messageId e) (refuses : e.Refuses s) :
    e.Reports messageId := by
  cases settles with
  | sent answer sent labelled => exact ⟨answer, sent, labelled, refuses.answer answer sent⟩
  | waits w started => cases started.symm.trans refuses.waiter

theorem putmessage_settles (env : Environment) (n : Nat) (p : Pointers) (s : State) :
    Settles (s.request p).messageId (execCapiPutmessage env n p s) := by
  simp only [execCapiPutmessage]
  split <;> exact settles_answer _ rfl

theorem getmessage_settles (env : Environment) (n : Nat) (p : Pointers) (s : State) :
    Settles (s.request p).messageId (execCapiGetmessage env n p s) := by
  simp only [execCapiGetmessage]
  refine settles_answer _ ?_
  let answer := prepare .capiGetmessage s p (.at (env.stack n) 0)
  let reply := (s.call env (.getMessage (s.request p).appId)).1
  obtain ⟨dataLen, proxyError, -, copied⟩ := copyMessage_head
    (MessageType.capiGetmessage.sizeofAnswer .msvc) reply { answer with head.capiError := reply.code }
    rfl
  exact congrArg AnswerHeader.messageId copied

theorem waitforsignal_settles (env : Environment) (n : Nat) (p : Pointers) (s : State) :
    Settles (s.request p).messageId (execCapiWaitforsignal env n p s) := by
  simp only [execCapiWaitforsignal]
  split
  · exact .waits _ rfl
  · exact settles_answer _ rfl

theorem helo_settles (env : Environment) (n : Nat) (p : Pointers) (s : State) :
    Settles (s.request p).messageId (execProxyHelo env n p s) := by
  simp only [execProxyHelo]
  split <;> exact settles_answer _ rfl

theorem auth_settles (env : Environment) (n : Nat) (s : State) (fits : ¬ Oversized env s) :
    Settles (header env s.memory).messageId (execProxyAuth env n (pointers env s.memory) s) := by
  simp only [execProxyAuth]
  split
  · split
    · split <;> exact settles_answer _ rfl
    · exact settles_answer _ rfl
  · split
    · next userpass =>
      split
      · next enabled =>
        split
        · next long => exact absurd ⟨userpass, enabled, long⟩ fits
        · split <;> exact settles_answer _ rfl
      · exact settles_answer _ rfl
    · split
      · split <;> exact settles_answer _ rfl
      · exact settles_answer _ rfl

theorem auth_silent (env : Environment) (n : Nat) (s : State) (long : Oversized env s) :
    (execProxyAuth env n (pointers env s.memory) s).Refuses s ∧
      (execProxyAuth env n (pointers env s.memory) s).answer = none := by
  have other : authUserpass ≠ authByIp := by decide
  simp only [execProxyAuth, long.userpass, if_neg other, if_true, if_pos long.enabled, long.long]
  exact ⟨⟨rfl, rfl, nofun⟩, rfl⟩

theorem handlerOf_answered (answered : type.isAnswered = true) :
    ∃ handler, handlerOf type = some handler := by
  apply Option.isSome_iff_exists.mp
  cases type <;> first | rfl | exact absurd answered Bool.false_ne_true

theorem handler_settles (run : selected env s.memory = some (type, handler))
    (answered : type.isAnswered = true) (heard : Heard env s type) (n : Nat) :
    Settles (header env s.memory).messageId (handler env n (pointers env s.memory) s) := by
  obtain ⟨-, -, found, -⟩ := selected_some run
  cases type <;> first
    | cases found; done
    | cases answered; done
    | obtain rfl := Option.some.inj found
  case capiPutmessage => exact putmessage_settles env n (pointers env s.memory) s
  case capiGetmessage => exact getmessage_settles env n (pointers env s.memory) s
  case capiWaitforsignal => exact waitforsignal_settles env n (pointers env s.memory) s
  case proxyHelo => exact helo_settles env n (pointers env s.memory) s
  case proxyAuth => exact auth_settles env n s (heard.fits rfl)
  all_goals exact settles_answer _ rfl

theorem refusal_reported_iff (env : Environment) (n : Nat) (s : State)
    (arm : MessageType.ofCode (header env s.memory).messageType = some type)
    (answered : type.isAnswered = true) :
    ((process env n s).2.Refuses s → (process env n s).2.Reports (header env s.memory).messageId) ↔
      Heard env s type := by
  constructor
  · intro reported
    cases run : selected env s.memory with
    | none =>
      simp only [process, run] at reported
      obtain ⟨answer, sent, -⟩ := reported (Effect.idle_refuses s)
      cases sent
    | some selection =>
      obtain ⟨type', handler⟩ := selection
      obtain ⟨verified, arm', found, checked⟩ := selected_some run
      obtain rfl := Option.some.inj (arm.symm.trans arm')
      refine ⟨verified, checked, ?_⟩
      rintro rfl long
      obtain rfl := Option.some.inj found
      obtain ⟨refuses, silent⟩ := auth_silent env n s long
      simp only [process, run] at reported
      obtain ⟨answer, sent, -⟩ := reported refuses
      cases sent.symm.trans silent
  · intro heard refuses
    obtain ⟨handler, found⟩ := handlerOf_answered answered
    have run := selected_of_arm heard.verified arm found heard.session
    simp only [process, run] at refuses ⊢
    exact (handler_settles run answered heard n).reports refuses

end CapiProxy.Win32Server
