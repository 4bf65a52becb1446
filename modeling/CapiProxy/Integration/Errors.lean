import CapiProxy.Integration.Answers

/-! The error codes of the remote CAPI at the callers of the Win32 client. Most functions store
what an answer carries before they look at its error code, and `CAPI_GET_MESSAGE` wants a message
where an answer with an error has none. -/
namespace CapiProxy.Integration
open Bytes Win32Client

/-- The call returns the error code of the answer, and with an error it stores nothing. -/
def Transparent (head : AnswerHeader) (outcome : Outcome) : Prop :=
  outcome.code = head.capiError ∧ (head.capiError ≠ 0 → outcome.stored = [])

/-- When the call is transparent for an answer with this header: an error must find nothing to be
stored, and a message that was received must be long enough, fit and find a block. -/
def Passes (env : Environment) (c : Client) (head : AnswerHeader) : Call → Prop
  | .register .. | .getVersion .. | .getSerialNumber _ | .getProfile .. => head.capiError = 0
  | .getMessage .. => head.capiError = exchangeError ∨
    head.capiError = 0 ∧ 8 ≤ head.dataLen.toNat ∧ head.messageLen.toNat ≤ msgBuffer ∧
      (env.globalAlloc c.blocks head.dataLen.toNat).isSome
  | .release _ | .putMessage .. | .waitForSignal _ | .installed => True

section answered
variable {compiler : Compiler} {type : MessageType} {a : AnswerBuffer} {env : Environment} {c : Client}

theorem Composed.verified (composed : Composed compiler type a) (accepted : a.head.proxyError = perrorNone)
    (other : type ≠ .capiGetmessage) : verifyMessage (Received.of a.frame).message type.code = true := by
  refine (composed.verified_iff accepted).mpr ?_
  have size : type.sizeofAnswer compiler ≤ 128 := by cases compiler <;> cases type <;> decide
  have none : a.head.dataLen.toNat = 0 := by
    rw [composed.empty fun same => absurd same other]
    rfl
  rw [composed.messageLen_toNat, none, sizeofAnswerHeader, msgBuffer]
  omega

/-- An accepted answer is stored from before its error code is looked at. -/
theorem exchange_transparent_iff (composed : Composed compiler type a)
    (accepted : a.head.proxyError = perrorNone) (other : type ≠ .capiGetmessage)
    (malloc : env.malloc = true)
    (answered : env.sendAndReceive (c.msgId + 1) request.frame = some (Received.of a.frame).message) :
    Transparent a.head (exchange env c type request store succeed) ↔
      (a.head.capiError ≠ 0 → store (Received.of a.frame).message = []) := by
  have parsed := composed.parse_received
  obtain ⟨code, stored, -⟩ := exchange_accepted store succeed malloc answered
    (composed.verified accepted other) (by rw [parsed]; exact accepted)
  rw [parsed] at code
  rw [Transparent, code, stored]
  exact and_iff_right rfl

theorem storing_transparent_iff (composed : Composed compiler type a)
    (accepted : a.head.proxyError = perrorNone) (other : type ≠ .capiGetmessage)
    (malloc : env.malloc = true)
    (answered : env.sendAndReceive (c.msgId + 1) request.frame = some (Received.of a.frame).message)
    (stores : store (Received.of a.frame).message ≠ []) :
    Transparent a.head (exchange env c type request store succeed) ↔ a.head.capiError = 0 := by
  rw [exchange_transparent_iff composed accepted other malloc answered]
  constructor
  · intro silent
    by_contra failed
    exact stores (silent failed)
  · intro success failed
    exact absurd success failed

theorem silent_transparent (composed : Composed compiler type a)
    (accepted : a.head.proxyError = perrorNone) (other : type ≠ .capiGetmessage)
    (malloc : env.malloc = true)
    (answered : env.sendAndReceive (c.msgId + 1) request.frame = some (Received.of a.frame).message)
    (silent : store (Received.of a.frame).message = []) :
    Transparent a.head (exchange env c type request store succeed) :=
  (exchange_transparent_iff composed accepted other malloc answered).mpr fun _ => silent

theorem fetch_transparent_iff (composed : Composed compiler type a)
    (accepted : a.head.proxyError = perrorNone) (members : copiedMembers type ≠ [])
    (malloc : env.malloc = true)
    (answered : env.sendAndReceive (c.msgId + 1) request.frame = some (Received.of a.frame).message) :
    Transparent a.head (fetch env c type request (pointer :: pointers)) ↔ a.head.capiError = 0 := by
  have other : type ≠ .capiGetmessage := by
    rintro rfl
    exact members rfl
  exact storing_transparent_iff composed accepted other malloc answered
    (copyMembers_ne_nil (List.cons_ne_nil _ _) members _)

theorem put_transparent (composed : Composed compiler .capiPutmessage a)
    (accepted : a.head.proxyError = perrorNone) (malloc : env.malloc = true)
    (answered : env.sendAndReceive (c.msgId + 1) (putMessageRequest c applID m msg).frame =
      some (Received.of a.frame).message) :
    Transparent a.head ((Call.putMessage applID msg).run env c m) := by
  have verified := composed.verified accepted (by decide)
  have path : capiPutMessage env c applID m msg = (a.head.capiError, { c with msgId := c.msgId + 1 }) := by
    simp only [capiPutMessage, malloc, not_true, if_false, answered, verified, composed.parse_received,
      accepted, ne_eq]
  rw [Call.run, path]
  exact ⟨rfl, fun _ => rfl⟩

theorem Composed.readable_received (composed : Composed compiler .capiGetmessage a)
    (accepted : a.head.proxyError = perrorNone) (long : 8 ≤ a.head.dataLen.toNat) :
    Readable (Received.of a.frame).message (advance (advance 0 a.head.headerLen) a.head.bodyLen)
      a.head.dataLen.toNat := by
  have size : MessageType.capiGetmessage.sizeofAnswer compiler ≤ 1 := by cases compiler <;> decide
  have first : advance 0 a.head.headerLen = sizeofAnswerHeader := by rw [composed.headerLen]; rfl
  have adata : advance (advance 0 a.head.headerLen) a.head.bodyLen =
      sizeofAnswerHeader + MessageType.capiGetmessage.sizeofAnswer compiler := by
    rw [first, composed.bodyLen, advance, UInt32.toNat_ofNat', sizeofAnswerHeader]
    omega
  rw [adata]
  refine (composed.readable accepted long).congr long fun i inside => ?_
  rw [Nat.add_assoc]
  exact composed.rest_received (Nat.add_lt_add_left inside _)

theorem taken_iff (composed : Composed compiler .capiGetmessage a)
    (accepted : a.head.proxyError = perrorNone) : Taken env c (Received.of a.frame).message ↔
      8 ≤ a.head.dataLen.toNat ∧ a.head.messageLen.toNat ≤ msgBuffer ∧
        (env.globalAlloc c.blocks a.head.dataLen.toNat).isSome := by
  rw [Taken, composed.verified_iff accepted, composed.parse_received]
  exact and_left_comm

theorem get_transparent_iff (composed : Composed compiler .capiGetmessage a)
    (accepted : a.head.proxyError = perrorNone) (malloc : env.malloc = true)
    (answered : env.sendAndReceive (c.msgId + 1) (getMessageRequest c applID).frame =
      some (Received.of a.frame).message) :
    Transparent a.head ((Call.getMessage applID pointer).run env c m) ↔
      Passes env c a.head (.getMessage applID pointer) := by
  rw [Passes, ← taken_iff composed accepted]
  by_cases taken : Taken env c (Received.of a.frame).message
  · have success : a.head.capiError = 0 := by
      by_contra failed
      have long := taken.2.1
      rw [composed.parse_received, composed.empty fun _ => failed] at long
      exact absurd long (by decide)
    have readable := composed.readable_received accepted ((taken_iff composed accepted).mp taken).1
    have code := capiGetMessage_taken env c m malloc answered taken (by rwa [composed.parse_received])
    rw [composed.parse_received] at code
    exact iff_of_true ⟨code, fun failed => absurd success failed⟩ (.inr ⟨success, taken⟩)
  · obtain ⟨code, message⟩ := capiGetMessage_dropped env c m malloc answered taken
    have nothing : ((Call.getMessage applID pointer).run env c m).stored = [] := by
      simp only [Call.run, GetResult.outcome, message]
      rfl
    constructor
    · intro transparent
      exact .inl (transparent.1.symm.trans code)
    · rintro (same | ⟨-, here⟩)
      · exact ⟨code.trans same.symm, fun _ => nothing⟩
      · exact absurd here taken

end answered

/-- A call that gets an answer without an error of the proxy is transparent exactly when it
passes. -/
theorem errors_transparent_iff (env : Environment) (c : Client) (m : Memory) (call : Call)
    (built : Built call.type a compiler) (accepted : a.head.proxyError = perrorNone)
    (malloc : env.malloc = true)
    (answered : env.sendAndReceive (c.msgId + 1) (call.request c m).frame =
      some (Received.of a.frame).message) :
    Transparent a.head (call.run env c m) ↔ Passes env c a.head call := by
  cases call with
  | register size connections blocks length pApplID =>
    rw [Call.run, capiRegister, Passes]
    exact storing_transparent_iff (built.composed rfl) accepted (by decide) malloc answered
      (List.cons_ne_nil _ _)
  | getVersion major minor manuMajor manuMinor =>
    rw [Call.run, capiGetVersion, Passes]
    exact fetch_transparent_iff (built.composed rfl) accepted (by decide) malloc answered
  | getSerialNumber szBuffer =>
    rw [Call.run, capiGetSerialNumber, Passes]
    exact fetch_transparent_iff (built.composed rfl) accepted (by decide) malloc answered
  | getProfile szBuffer ctrlNr =>
    rw [Call.run, capiGetProfile, Passes]
    exact fetch_transparent_iff (built.composed rfl) accepted (by decide) malloc answered
  | release applID =>
    rw [Call.run, capiRelease]
    exact iff_of_true (silent_transparent (built.composed rfl) accepted (by decide) malloc answered rfl) trivial
  | waitForSignal applID =>
    rw [Call.run, capiWaitForSignal]
    exact iff_of_true (silent_transparent (built.composed rfl) accepted (by decide) malloc answered rfl) trivial
  | installed =>
    rw [Call.run, capiInstalled, fetch]
    exact iff_of_true (silent_transparent (built.composed rfl) accepted (by decide) malloc answered rfl) trivial
  | putMessage applID pCAPIMessage =>
    exact iff_of_true (put_transparent (built.composed rfl) accepted malloc answered) trivial
  | getMessage applID ppCAPIMessage =>
    exact get_transparent_iff (built.composed rfl) accepted malloc answered

/-- A client that has registered nothing, and a connection on which this answer arrives. -/
def freshClient : Client := ⟨0x10000, 0, []⟩

def answering (a : AnswerBuffer) : Environment where
  malloc := true
  sendAndReceive _ _ := some (Received.of a.frame).message
  globalAlloc _ _ := none
  globalAlloc_block := nofun

theorem profile_transparent_iff : ∃ a, Built .capiProfile a .msvc ∧
    (Transparent a.head ((Call.getProfile 0 1).run (answering a) freshClient zeros) ↔
      Passes (answering a) freshClient a.head (.getProfile 0 1)) := by
  obtain ⟨a, built, accepted, -⟩ := profileState_built
  exact ⟨a, built, errors_transparent_iff (answering a) freshClient zeros (.getProfile 0 1) built
    accepted rfl rfl⟩

def emptyQueue : Win32Server.Environment :=
  { Win32Server.Environment.sample with capi := fun _ _ => ⟨0x1104, none, 0, zeros, []⟩ }

def messageQuery : Win32Server.RequestFrame where
  toFrame := RequestHeader.frame ⟨37, 36, 1, 0, 1, MessageType.capiGetmessage.code, 1, 0, 0x10000⟩ [0]
    (by decide)
  accepted := by decide

def queueState : Win32Server.State :=
  Win32Server.Connection.sample.state.receive emptyQueue messageQuery.bytes

theorem queueState_selected : Win32Server.selected emptyQueue queueState.memory =
    some (.capiGetmessage, Win32Server.execCapiGetmessage) := by
  have header : Win32Server.header emptyQueue queueState.memory =
      ⟨37, 36, 1, 0, 1, MessageType.capiGetmessage.code, 1, 0, 0x10000⟩ :=
    RequestHeader.parse_frame _ _ (by decide) zeros 0
  refine Win32Server.selected_of_arm (messageQuery.verified zeros 0) (by rw [header]; rfl) rfl fun _ => ?_
  have session : (RequestHeader.parse queueState.memory 0).sessionId = 0x10000 :=
    congrArg RequestHeader.sessionId header
  simp [Win32Server.verifySessionId, emptyQueue, Win32Server.Environment.sample, session]

theorem queueState_built : ∃ a, Built .capiGetmessage a .msvc ∧ a.head.proxyError = perrorNone ∧
    a.head.capiError = 0x1104 :=
  ⟨_, .win32 emptyQueue 0 zeros queueState _ queueState_selected
    (by simp only [Win32Server.answerTo, Win32Server.process, queueState_selected]; rfl), rfl, rfl⟩

/-- That the queue is empty is reported as an error of the operating system. -/
theorem emptyQueue_not_transparent : ∃ a, Built .capiGetmessage a .msvc ∧
    a.head.proxyError = perrorNone ∧
    ¬ Transparent a.head ((Call.getMessage 1 0).run (answering a) freshClient zeros) := by
  obtain ⟨a, built, accepted, empty⟩ := queueState_built
  refine ⟨a, built, accepted, fun transparent => ?_⟩
  have passes := (get_transparent_iff (built.composed rfl) accepted rfl rfl).mp transparent
  rw [Passes, empty] at passes
  rcases passes with same | ⟨success, -⟩
  · exact absurd same (by decide)
  · exact absurd success (by decide)

end CapiProxy.Integration
