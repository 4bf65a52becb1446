import CapiProxy.Win32Client.Exchange

/-! Frames that nobody waits for. `dispatchMessage` stores the pointer to a frame wherever the lookup leads,
also when there is no entry or when the caller of the entry has gone. -/
namespace CapiProxy.Win32Client
open Bytes

variable {κ : Type} [DecidableEq κ]

/-- Where `dispatchMessage` stores the pointer, `none` for null, and what it leaves behind. -/
def dispatchMessage (msg : Received) (s : Shared κ) : Option κ × Shared κ :=
  let data := getDataPtrFromMsgId msg.messageId s.pending
  let s := s.call (.remove msg.messageId)
  match data with
  | some c => (some c, s.store c (.frame msg))
  | none => (none, s)

/-- The pointer is stored for a caller that is still in its call; a frame without an entry changes
nothing. -/
structure DroppedSafely (inCall : κ → Prop) (msg : Received) (s : Shared κ) : Prop where
  target : ∃ c, (dispatchMessage msg s).1 = some c ∧ inCall c
  unmatched : (∀ e ∈ s.pending, e.msgId ≠ msg.messageId) →
    (dispatchMessage msg s).2.pending = s.pending ∧ (dispatchMessage msg s).2.answer = s.answer

def Awaited (inCall : κ → Prop) (msgId : UInt32) (list : List (Pending κ)) : Prop :=
  ∃ before c after, list = before ++ ⟨msgId, c⟩ :: after ∧ (∀ e ∈ before, e.msgId ≠ msgId) ∧ inCall c

omit [DecidableEq κ] in
theorem awaited_iff (inCall : κ → Prop) (msgId : UInt32) (list : List (Pending κ)) :
    Awaited inCall msgId list ↔ ∃ c, getDataPtrFromMsgId msgId list = some c ∧ inCall c := by
  simp only [getDataPtrFromMsgId_eq, Option.map_eq_some_iff]
  constructor
  · rintro ⟨before, c, after, rfl, earlier, waits⟩
    refine ⟨c, ⟨⟨msgId, c⟩, ?_, rfl⟩, waits⟩
    rw [List.find?_append, List.find?_eq_none.mpr (by simpa using earlier), Option.none_or]
    exact List.find?_cons_of_pos (by simp)
  · rintro ⟨_, ⟨⟨id, c⟩, first, rfl⟩, waits⟩
    obtain ⟨here, before, after, rfl, earlier⟩ := List.find?_eq_some_iff_append.mp first
    obtain rfl : id = msgId := beq_iff_eq.mp here
    exact ⟨before, c, after, rfl, by simpa using earlier, waits⟩

theorem dispatchMessage_target (msg : Received) (s : Shared κ) :
    (dispatchMessage msg s).1 = getDataPtrFromMsgId msg.messageId s.pending := by
  unfold dispatchMessage
  cases getDataPtrFromMsgId msg.messageId s.pending <;> rfl

/-- The dispatcher does it in three steps, of which a store through null is the end of the process. -/
theorem dispatch_dispatch (msg : Received) (s : Shared κ) (received : s.dispatcher = .received msg) :
    s.dispatch.dispatch.dispatch = { (dispatchMessage msg s).2 with
      dispatcher := if (dispatchMessage msg s).1.isSome then .idle else .crashed } := by
  cases found : getDataPtrFromMsgId msg.messageId s.pending with
  | none => simp only [Shared.dispatch, received, dispatchMessage, found]; rfl
  | some c => simp only [Shared.dispatch, received, dispatchMessage, found]; rfl

theorem unmatched_crashes (msg : Received) (s : Shared κ) (received : s.dispatcher = .received msg)
    (unmatched : ∀ e ∈ s.pending, e.msgId ≠ msg.messageId) : s.dispatch.dispatch.dispatch.crashed = true := by
  have missing : (dispatchMessage msg s).1 = none := by
    rw [dispatchMessage_target, getDataPtrFromMsgId_eq, List.find?_eq_none.mpr (by simpa using unmatched)]
    rfl
  rw [dispatch_dispatch msg s received, missing]
  rfl

/-- A frame is dropped or delivered safely exactly when a caller waits for it. -/
theorem dispatchMessage_safe_iff (inCall : κ → Prop) (msg : Received) (s : Shared κ) :
    DroppedSafely inCall msg s ↔ Awaited inCall msg.messageId s.pending := by
  rw [awaited_iff, ← dispatchMessage_target]
  refine ⟨DroppedSafely.target, fun target => ⟨target, fun unmatched => ?_⟩⟩
  obtain ⟨c, stored, -⟩ := target
  rw [dispatchMessage_target] at stored
  exact absurd rfl (unmatched _ (getDataPtrFromMsgId_some stored))

/-- What a server sends at the end of a session; no request has the id 0. -/
def shutdownFrame : Received :=
  .of (AnswerHeader.bytes ⟨168, 40, 128, 0, 0, MessageType.proxyShutdown.code, 0, 0x10000, 0, 0⟩ ++
    .replicate 128 0)

/-- The frame is stored through null while a caller waits for its own answer. -/
theorem shutdown_not_safe : ¬ DroppedSafely (fun c => c = true) shutdownFrame
    { Shared.initial with pending := [⟨1, true⟩] } := by
  intro safe
  obtain ⟨c, stored, -⟩ := safe.target
  have missing : getDataPtrFromMsgId shutdownFrame.messageId [(⟨1, true⟩ : Pending Bool)] = none := by decide
  exact Option.some_ne_none c (stored.symm.trans ((dispatchMessage_target _ _).trans missing))

end CapiProxy.Win32Client
