import CapiProxy.LinuxServer.Answers
import CapiProxy.LinuxServer.Ownership

/-! The ids of the sessions. The listening process counts its connections, so two handlers have the same id
only when 2^32 connections lie between them, and a message for one of them does not reach the CAPI through
another. -/
namespace CapiProxy.LinuxServer
open Bytes Ownership

namespace Service

/-- The handlers have their ids in the order of the connections, and the counter is that of the last. -/
structure Numbered (v : Service) : Prop where
  ids (k : Nat) (h : HandlerProcess) : v.handlers[k]? = some h → h.sessionID = 3 + .ofNat k
  counter : v.listening = true → v.sessionID = 2 + .ofNat v.handlers.length

section steps
variable {m : Machine} {v v' : Service} {k : Nat} {h h' : HandlerProcess}

theorem Numbered.set (numbered : v.Numbered) (here : v.handlers[k]? = some h)
    (replaced : v'.handlers = v.handlers.set k h') (same : h'.sessionID = h.sessionID)
    (listening : v'.listening = v.listening) (counter : v'.sessionID = v.sessionID) : v'.Numbered := by
  obtain ⟨inside, -⟩ := List.getElem?_eq_some_iff.mp here
  constructor
  · intro j h'' there
    rw [replaced] at there
    by_cases other : j = k
    · subst other
      rw [List.getElem?_set_self inside] at there
      rw [← Option.some.inj there, same]
      exact numbered.ids j h here
    · rw [List.getElem?_set_ne (Ne.symm other)] at there
      exact numbered.ids j h'' there
  · rw [replaced, List.length_set, listening, counter]
    exact numbered.counter

theorem Numbered.append (numbered : v.Numbered) (listening : v.listening = true)
    (added : v'.handlers = v.handlers ++ [.start m (v.sessionID + 1)])
    (counter : v'.sessionID = v.sessionID + 1) : v'.Numbered := by
  have next : v.sessionID + 1 = 3 + .ofNat v.handlers.length := by
    rw [numbered.counter listening, UInt32.add_assoc, UInt32.add_comm (.ofNat _) 1, ← UInt32.add_assoc]
    rfl
  constructor
  · intro k h here
    rw [added, List.getElem?_append] at here
    split at here
    · exact numbered.ids k h here
    · next beyond =>
      obtain ⟨inside, new⟩ := List.getElem?_eq_some_iff.mp here
      rw [List.length_singleton] at inside
      have last : k = v.handlers.length := by omega
      rw [List.getElem_singleton] at new
      rw [← new, last, ← next]
      rfl
  · intro _
    rw [counter, added, next, List.length_append, List.length_singleton, UInt32.ofNat_add,
      UInt32.add_comm (.ofNat _) (.ofNat 1), ← UInt32.add_assoc]
    rfl

theorem step_numbered (numbered : v.Numbered) (o : Occurrence) : (v.step m o).Numbered := by
  cases o with
  | receive k bytes =>
    simp only [step]
    split
    · next h here =>
      split
      · exact numbered.set here rfl (by rfl) rfl rfl
      · exact numbered
    · exact numbered
  | release k =>
    simp only [step]
    split
    · next h here =>
      split
      · split
        · exact numbered.set here rfl (by rfl) rfl rfl
        · exact numbered.set here rfl (by rfl) rfl rfl
      · exact numbered
    · exact numbered
  | hangup k | kill k =>
    simp only [step]
    split
    · next h here =>
      split
      · exact numbered.set here rfl (by rfl) rfl rfl
      · exact numbered
    · exact numbered
  | accept forks =>
    simp only [step]
    split
    · exact numbered
    · next listening =>
      have listening := not_not.mp listening
      split
      · exact numbered.append listening rfl rfl
      · split
        · exact numbered.append listening rfl rfl
        · exact ⟨numbered.ids, fun running => by cases running⟩
  | refuse => exact ⟨numbered.ids, fun running => by cases running⟩
  | interrupt signal =>
    simp only [step]
    split
    · exact ⟨numbered.ids, fun running => by cases running⟩
    · exact numbered
  | wake | dismiss =>
    simp only [step]
    split
    · exact ⟨numbered.ids, numbered.counter⟩
    · exact numbered

end steps

theorem run_numbered (m : Machine) (occurrences : List Occurrence) : (run m occurrences).Numbered := by
  induction occurrences using List.reverseRecOn with
  | nil => exact ⟨nofun, fun _ => rfl⟩
  | append_singleton occurrences o ih =>
    rw [run_append]
    exact step_numbered ih o

end Service

theorem answer_sessionId (found : handlerOf type = some handler) (env : Environment) (n : Nat) (s : Session)
    (m : Memory) : ∀ answer ∈ (handler env n s m).answer,
      answer.head.sessionId = env.sessionID ∨ answer.head.sessionId = 0 ∧
        answer.head.messageType = MessageType.proxyAuth.code ∧ answer.head.proxyError ≠ perrorNone := by
  intro answer sent
  cases type <;> first | cases found; done | obtain rfl := Option.some.inj found
  case capiPutmessage =>
    simp only [execCapiPutmessage] at sent
    split at sent <;> exact .inl (Option.some.inj sent ▸ rfl)
  case capiGetmessage =>
    obtain ⟨dataLen, proxyError, -, head⟩ := copyMessage_head (MessageType.capiGetmessage.sizeofAnswer .gnuC)
      (env.capi s.history (.getMessage (request env m).appId))
      { s.outPacket with head := { compose .capiGetmessage env m s.outPacket.head with
          appId := (request env m).appId
          capiError := (env.capi s.history (.getMessage (request env m).appId)).code } } rfl
    obtain rfl := Option.some.inj sent
    exact .inl (congrArg AnswerHeader.sessionId head)
  case capiWaitforsignal =>
    simp only [execCapiWaitforsignal] at sent
    split at sent
    · cases sent
    · exact .inl (Option.some.inj sent ▸ rfl)
  case proxyAuth =>
    have same : answer.head.sessionId =
        if stdAuthRequired && checkAuth env (m.word32 (requestBody env m)) != perrorNone then 0
        else env.sessionID := Option.some.inj sent ▸ rfl
    have error : answer.head.proxyError = checkAuth env (m.word32 (requestBody env m)) :=
      Option.some.inj sent ▸ rfl
    rw [same]
    split
    · next refused =>
      rw [Bool.and_eq_true, bne_iff_ne, ← error] at refused
      exact .inr ⟨rfl, Option.some.inj sent ▸ rfl, refused.2⟩
    · exact .inl rfl
  all_goals exact .inl (Option.some.inj sent ▸ rfl)

theorem asks_capi (found : handlerOf type = some handler) (env : Environment) (n : Nat) (s : Session)
    (m : Memory) (asks : (handler env n s m).session.history ≠ s.history) : type.isCapi = true := by
  cases type <;> first | rfl | cases found; done | exact absurd (Option.some.inj found ▸ rfl) asks

theorem listens_capi (found : handlerOf type = some handler) (env : Environment) (n : Nat) (s : Session)
    (m : Memory) (listens : (handler env n s m).listener = some data) : type.isCapi = true := by
  cases type <;> first | rfl | cases found; done | cases Option.some.inj found; cases listens

/-- The k-th handler has the id 3 + k, and so only those handlers that are 2^32 connections apart share it.
Whatever message it gets, its answers tell the client this id unless they refuse authentication, and so does the
process that it forks for a wait; it asks the CAPI and forks only for messages with this id. -/
theorem sessions_apart (m : Machine) (occurrences : List Occurrence)
    (here : (Service.run m occurrences).handlers[k]? = some h) (bytes : List UInt8) :
    let effect := h.outcome m k (Service.run m occurrences).history bytes
    let packet := h.packet.write (m.environment k).inPacket bytes
    let request := RequestHeader.parse packet (m.environment k).inPacket
    h.sessionID = 3 + .ofNat k ∧
      (∀ answer ∈ effect.answer, answer.head.sessionId = h.sessionID ∨ answer.head.sessionId = 0 ∧
        answer.head.messageType = MessageType.proxyAuth.code ∧ answer.head.proxyError ≠ perrorNone) ∧
      (∀ data ∈ effect.listener, request.sessionId = h.sessionID ∧ ∀ capiError,
        (Waiter.answer (h.environment m k) ⟨h.requests, data, effect.session.outPacket⟩
          capiError).head.sessionId = h.sessionID) ∧
      (effect.session.history ≠ (Service.run m occurrences).history → request.sessionId = h.sessionID) ∧
      ∀ j h', (Service.run m occurrences).handlers[j]? = some h' → h'.sessionID = h.sessionID →
        j % 2 ^ 32 = k % 2 ^ 32 := by
  have numbered := Service.run_numbered m occurrences
  intro effect packet request
  refine ⟨numbered.ids k h here, ?_, ?_, ?_, fun j h' there same => ?_⟩
  · simp only [effect, HandlerProcess.outcome]
    split
    · intro answer sent
      cases sent
    · next run => exact answer_sessionId (selected_some run).2.1 (h.environment m k) h.requests _ _
  · intro data waits
    refine ⟨?_, fun _ => rfl⟩
    simp only [effect, HandlerProcess.outcome] at waits
    split at waits
    · cases waits
    · next run =>
      obtain ⟨-, found, session⟩ := selected_some run
      exact session (listens_capi found (h.environment m k) h.requests (h.session _) _ waits)
  · simp only [effect, HandlerProcess.outcome]
    split
    · exact fun asks => absurd rfl asks
    · next run =>
      intro asks
      obtain ⟨-, found, session⟩ := selected_some run
      exact session (asks_capi found (h.environment m k) h.requests (h.session _) _ asks)
  · rw [numbered.ids j h' there, numbered.ids k h here, UInt32.add_right_inj] at same
    have values := congrArg UInt32.toNat same
    rwa [UInt32.toNat_ofNat', UInt32.toNat_ofNat'] at values

/-- The handler of the first connection, after a second client has connected. -/
theorem firstHandler_apart :
    let h := HandlerProcess.start .sample 3
    let effect := h.outcome .sample 0 [] registerRequest.bytes
    let request := RequestHeader.parse (Machine.sample.packet.write 0 registerRequest.bytes) 0
    h.sessionID = 3 + .ofNat 0 ∧
      (∀ answer ∈ effect.answer, answer.head.sessionId = 3 ∨ answer.head.sessionId = 0 ∧
        answer.head.messageType = MessageType.proxyAuth.code ∧ answer.head.proxyError ≠ perrorNone) ∧
      (∀ data ∈ effect.listener, request.sessionId = 3 ∧ ∀ capiError,
        (Waiter.answer (h.environment .sample 0) ⟨0, data, effect.session.outPacket⟩
          capiError).head.sessionId = 3) ∧
      (effect.session.history ≠ [] → request.sessionId = 3) ∧
      ∀ (j : Nat) (h' : HandlerProcess),
        (Service.run .sample [.accept true, .accept true]).handlers[j]? = some h' → h'.sessionID = 3 →
          j % 2 ^ 32 = 0 % 2 ^ 32 := by
  have here : (Service.run .sample [.accept true, .accept true]).handlers[0]? = some (.start .sample 3) := rfl
  exact sessions_apart .sample [.accept true, .accept true] here registerRequest.bytes

end CapiProxy.LinuxServer
