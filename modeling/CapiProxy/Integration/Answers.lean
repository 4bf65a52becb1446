import CapiProxy.LinuxServer.Leftovers
import CapiProxy.Win32Client.Functions
import CapiProxy.Win32Client.Receiver
import CapiProxy.Win32Server.Framing
import CapiProxy.Win32Server.StartSession

/-! The answers of both servers at the Win32 client. To the C++ compiler of the client an empty
struct has one byte, and so it has in the answers of the Win32 server; the Linux server sends none.
The client's check of the body tolerates the missing byte. -/
namespace CapiProxy.Integration
open Bytes Win32Client

/-- The answer a server builds for a request of this type: whatever the session and the request,
and whatever the CAPI returns. -/
inductive Built (type : MessageType) (answer : AnswerBuffer) : Compiler → Prop where
  | win32 (env : Win32Server.Environment) (n : Nat) (stack : Memory) (s : Win32Server.State)
      (handler : Win32Server.Handler)
      (run : Win32Server.selected env s.memory = some (type, handler))
      (built : Win32Server.answerTo env n stack s = some answer) : Built type answer .msvc
  | linux (o : LinuxServer.Occasion) (m : Memory) (handler : LinuxServer.Handler)
      (run : LinuxServer.selected o.env m = some (type, handler))
      (built : o.answer m = some answer) : Built type answer .gnuC

/-- What the answers have in common. Only a message that was received makes them longer. -/
structure Composed (compiler : Compiler) (type : MessageType) (a : AnswerBuffer) : Prop where
  headerLen : a.head.headerLen = .ofNat sizeofAnswerHeader
  bodyLen : a.head.bodyLen = .ofNat (type.sizeofAnswer compiler)
  messageLen : a.head.messageLen = a.head.headerLen + a.head.bodyLen + a.head.dataLen
  messageType : a.head.messageType = type.code
  dataLen : a.head.dataLen.toNat < 2 ^ 17
  empty : (type = .capiGetmessage → a.head.capiError ≠ 0) → a.head.dataLen = 0
  readable : a.head.proxyError = perrorNone → 8 ≤ a.head.dataLen.toNat →
    Readable a.rest (type.sizeofAnswer compiler) a.head.dataLen.toNat

section composed
variable {compiler : Compiler} {type : MessageType} {a : AnswerBuffer}

theorem composed_plain (headerLen : a.head.headerLen = .ofNat sizeofAnswerHeader)
    (bodyLen : a.head.bodyLen = .ofNat (type.sizeofAnswer compiler)) (dataLen : a.head.dataLen = 0)
    (messageLen : a.head.messageLen = a.head.headerLen + a.head.bodyLen + a.head.dataLen)
    (messageType : a.head.messageType = type.code) : Composed compiler type a where
  headerLen := headerLen
  bodyLen := bodyLen
  messageLen := messageLen
  messageType := messageType
  dataLen := by rw [dataLen]; decide
  empty _ := dataLen
  readable _ long := by
    rw [dataLen] at long
    exact absurd long (by decide)

theorem composed_message (reply : CapiReply) (headerLen : a.head.headerLen = .ofNat sizeofAnswerHeader)
    (bodyLen : a.head.bodyLen = .ofNat (MessageType.capiGetmessage.sizeofAnswer compiler))
    (dataLen : a.head.dataLen = 0) (messageType : a.head.messageType = MessageType.capiGetmessage.code) :
    let copied := copyMessage (MessageType.capiGetmessage.sizeofAnswer compiler) reply a
    Composed compiler .capiGetmessage { copied with
      head.messageLen := copied.head.headerLen + copied.head.bodyLen + copied.head.dataLen } := by
  intro copied
  obtain ⟨dataLen', proxyError, small, head⟩ := copyMessage_head
    (MessageType.capiGetmessage.sizeofAnswer compiler) reply a dataLen
  have head : copied.head = { a.head with dataLen := dataLen', proxyError } := head
  constructor
  · rw [head]; exact headerLen
  · rw [head]; exact bodyLen
  · rfl
  · rw [head]; exact messageType
  · rw [head]; exact small
  · intro failed
    have failed := failed rfl
    rw [head] at failed
    have unchanged : copied = a := if_neg failed
    rw [unchanged]
    exact dataLen
  · exact copyMessage_readable _ reply a dataLen

theorem linux_composed (o : LinuxServer.Occasion) (m : Memory)
    (run : LinuxServer.selected o.env m = some (type, handler)) (capi : type.isCapi = true)
    (built : o.answer m = some a) : Composed .gnuC type a := by
  have plain (appId capiError proxyError : UInt32) (rest : Memory) :
      Composed .gnuC type ⟨o.composed m type appId capiError proxyError, rest⟩ :=
    composed_plain rfl rfl rfl (by cases type <;> rfl) rfl
  cases type with
  | capiRegister => cases built.symm.trans (LinuxServer.Occasion.answer_register run rfl); exact plain ..
  | capiRelease => cases built.symm.trans (LinuxServer.Occasion.answer_release run rfl); exact plain ..
  | capiPutmessage => cases built.symm.trans (LinuxServer.Occasion.answer_put run); exact plain ..
  | capiGetmessage =>
    cases built.symm.trans (LinuxServer.Occasion.answer_get run rfl)
    exact composed_message _ rfl rfl rfl rfl
  | capiWaitforsignal => cases built.symm.trans (LinuxServer.Occasion.answer_wait run rfl); exact plain ..
  | capiVersion => cases built.symm.trans (LinuxServer.Occasion.answer_version run rfl); exact plain ..
  | capiManufacturer => cases built.symm.trans (LinuxServer.Occasion.answer_fill run rfl rfl); exact plain ..
  | capiSerial => cases built.symm.trans (LinuxServer.Occasion.answer_fill run rfl rfl); exact plain ..
  | capiProfile => cases built.symm.trans (LinuxServer.Occasion.answer_fill run rfl rfl); exact plain ..
  | capiInstalled => cases built.symm.trans (LinuxServer.Occasion.answer_fill run rfl rfl); exact plain ..
  | _ => cases capi

/-- What a handler leaves behind: a composed answer, or a waiter for a wait request. -/
structure Settled (type : MessageType) (e : Win32Server.Effect) : Prop where
  answer : ∀ a, e.answer = some a → Composed .msvc type a
  waiter : ∀ w, e.waiter = some w → type = .capiWaitforsignal

theorem settled_answer (s : Win32Server.State) (b : AnswerBuffer)
    (composed : Composed .msvc type (Win32Server.finish b)) : Settled type (Win32Server.answerWith s b) where
  answer _ sent := Option.some.inj sent ▸ composed
  waiter := nofun

theorem handler_settled (env : Win32Server.Environment) (n : Nat) (p : Win32Server.Pointers)
    (s : Win32Server.State) (found : Win32Server.handlerOf type = some handler)
    (capi : type.isCapi = true) : Settled type (handler env n p s) := by
  cases type <;> first | cases capi; done | obtain rfl := Option.some.inj found
  case capiPutmessage =>
    simp only [Win32Server.execCapiPutmessage]
    split <;> exact settled_answer _ _ (composed_plain rfl rfl rfl rfl rfl)
  case capiGetmessage => exact settled_answer _ _ (composed_message _ rfl rfl rfl rfl)
  case capiWaitforsignal =>
    simp only [Win32Server.execCapiWaitforsignal]
    split
    · refine ⟨fun a sent => ?_, fun _ _ => rfl⟩
      cases sent
    · exact settled_answer _ _ (composed_plain rfl rfl rfl rfl rfl)
  all_goals exact settled_answer _ _ (composed_plain rfl rfl rfl rfl rfl)

theorem win32_composed (env : Win32Server.Environment) (n : Nat) (stack : Memory) (s : Win32Server.State)
    (run : Win32Server.selected env s.memory = some (type, handler)) (capi : type.isCapi = true)
    (built : Win32Server.answerTo env n stack s = some a) : Composed .msvc type a := by
  obtain ⟨-, -, found, -⟩ := Win32Server.selected_some run
  have settled := handler_settled env n (Win32Server.pointers env s.memory) s found capi
  have handled : (Win32Server.process env n s).2 =
      handler env n (Win32Server.pointers env s.memory) s := by
    simp only [Win32Server.process, run]
  rw [← handled] at settled
  simp only [Win32Server.answerTo] at built
  split at built
  · exact settled.answer a built
  · next w waits =>
    obtain rfl := settled.waiter w waits
    obtain rfl := Option.some.inj built
    exact composed_plain rfl rfl rfl rfl rfl

theorem Built.composed (built : Built type a compiler) (capi : type.isCapi = true) :
    Composed compiler type a := by
  cases built with
  | win32 env n stack s handler run built => exact win32_composed env n stack s run capi built
  | linux o m handler run built => exact linux_composed o m run capi built

namespace Composed

theorem messageLen_toNat (composed : Composed compiler type a) :
    a.head.messageLen.toNat =
      sizeofAnswerHeader + (type.sizeofAnswer compiler + a.head.dataLen.toNat) := by
  have data := composed.dataLen
  have body : type.sizeofAnswer compiler ≤ 128 := by cases compiler <;> cases type <;> decide
  rw [composed.messageLen, composed.headerLen, composed.bodyLen, UInt32.toNat_add, UInt32.toNat_add,
    UInt32.toNat_ofNat', UInt32.toNat_ofNat', sizeofAnswerHeader]
  omega

theorem frame_eq (composed : Composed compiler type a) :
    a.frame = a.head.bytes ++ a.rest.read 0 (type.sizeofAnswer compiler + a.head.dataLen.toNat) :=
  a.frame_whole composed.messageLen_toNat

theorem parse_received (composed : Composed compiler type a) :
    AnswerHeader.parse (Received.of a.frame).message 0 = a.head := by
  have stored : Holds (Received.of a.frame).message 0 a.frame := Holds.write zeros 0 _
  rw [composed.frame_eq] at stored ⊢
  exact AnswerHeader.parse_of_holds stored.left

theorem rest_received (composed : Composed compiler type a)
    (inside : i < type.sizeofAnswer compiler + a.head.dataLen.toNat) :
    (Received.of a.frame).message (sizeofAnswerHeader + i) = a.rest i := by
  have stored : Holds (Received.of a.frame).message 0 a.frame := Holds.write zeros 0 _
  rw [composed.frame_eq] at stored ⊢
  have byte := stored.right.byte (i := i) (by rwa [Memory.length_read])
  rw [Memory.getElem_read, Nat.zero_add, AnswerHeader.length_bytes, Nat.zero_add] at byte
  exact byte

/-- The body may be one byte shorter than the client's struct. -/
theorem body_accepted (composed : Composed compiler type a) :
    ¬ a.head.bodyLen + 1 < .ofInt (abodysize type.code) := by
  rw [composed.bodyLen]
  cases compiler <;> cases type <;> decide

theorem verified_iff (composed : Composed compiler type a) (accepted : a.head.proxyError = perrorNone) :
    verifyMessage (Received.of a.frame).message type.code = true ↔ a.head.messageLen.toNat ≤ msgBuffer := by
  rw [verifyMessage_iff, composed.parse_received]
  refine ⟨fun verified => verified.2.2.1, fun fits => ⟨?_, composed.body_accepted, fits,
    composed.messageLen.symm, accepted, fun _ => composed.messageType⟩⟩
  rw [composed.headerLen]
  decide

end Composed

/-- The client accepts the frame as the answer to a request of this type, and what it copies from
the body lies within the body, which lies within the frame. -/
structure Accepted (type : MessageType) (frame : List UInt8) : Prop where
  verified : verifyMessage (Received.of frame).message type.code = true
  copied : ∀ member ∈ copiedMembers type,
    member.1 + member.2 ≤ (AnswerHeader.parse (Received.of frame).message 0).bodyLen.toNat
  body : (AnswerHeader.parse (Received.of frame).message 0).headerLen.toNat +
    (AnswerHeader.parse (Received.of frame).message 0).bodyLen.toNat ≤ frame.length

theorem copiedMembers_inside (compiler : Compiler) (type : MessageType) :
    ∀ member ∈ copiedMembers type, member.1 + member.2 ≤ type.sizeofAnswer compiler := by
  cases compiler <;> cases type <;> decide

theorem Composed.accepted (composed : Composed compiler type a)
    (accepted : a.head.proxyError = perrorNone) (fits : a.head.messageLen.toNat ≤ msgBuffer) :
    Accepted type a.frame := by
  have size : type.sizeofAnswer compiler < 2 ^ 32 := by cases compiler <;> cases type <;> decide
  have body : a.head.bodyLen.toNat = type.sizeofAnswer compiler := by
    rw [composed.bodyLen, UInt32.toNat_ofNat', Nat.mod_eq_of_lt size]
  have header : a.head.headerLen.toNat = sizeofAnswerHeader := by rw [composed.headerLen]; rfl
  refine ⟨(composed.verified_iff accepted).mpr fits, ?_, ?_⟩
  · rw [composed.parse_received, body]
    exact copiedMembers_inside compiler type
  · rw [composed.parse_received, header, body, composed.frame_eq, List.length_append,
      AnswerHeader.length_bytes, Memory.length_read, sizeofAnswerHeader]
    omega

end composed

/-- Whatever a server's CAPI returned, its answer is understood by the Win32 client. -/
theorem answers_accepted (built : Built type a compiler) (capi : type.isCapi = true)
    (accepted : a.head.proxyError = perrorNone) (fits : a.head.messageLen.toNat ≤ msgBuffer) :
    Accepted type a.frame :=
  (built.composed capi).accepted accepted fits

/-- A client that has said HELO to the sample server asks for the profile of controller 1. -/
def profileQuery : Win32Server.RequestFrame where
  toFrame := RequestHeader.frame ⟨37, 36, 1, 0, 1, MessageType.capiProfile.code, 0, 1, 0x10000⟩ [0]
    (by decide)
  accepted := by decide

def profileState : Win32Server.State :=
  Win32Server.Connection.sample.state.receive .sample profileQuery.bytes

theorem profileState_selected : Win32Server.selected .sample profileState.memory =
    some (.capiProfile, Win32Server.execCapiProfile) := by
  have header : Win32Server.header .sample profileState.memory =
      ⟨37, 36, 1, 0, 1, MessageType.capiProfile.code, 0, 1, 0x10000⟩ :=
    RequestHeader.parse_frame _ _ (by decide) zeros 0
  refine Win32Server.selected_of_arm (profileQuery.verified zeros 0) (by rw [header]; rfl) rfl fun _ => ?_
  have session : (RequestHeader.parse profileState.memory 0).sessionId = 0x10000 :=
    congrArg RequestHeader.sessionId header
  simp [Win32Server.verifySessionId, Win32Server.Environment.sample, session]

theorem profileState_built : ∃ a, Built .capiProfile a .msvc ∧ a.head.proxyError = perrorNone ∧
    a.head.messageLen.toNat ≤ msgBuffer :=
  ⟨_, .win32 .sample 0 zeros profileState _ profileState_selected
    (by simp only [Win32Server.answerTo, Win32Server.process, profileState_selected]; rfl), rfl,
    Nat.le_of_ble_eq_true rfl⟩

theorem profile_accepted : ∃ a, Built .capiProfile a .msvc ∧ Accepted .capiProfile a.frame := by
  obtain ⟨a, built, accepted, fits⟩ := profileState_built
  exact ⟨a, built, answers_accepted built rfl accepted fits⟩

end CapiProxy.Integration
