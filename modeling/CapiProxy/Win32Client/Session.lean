import CapiProxy.Messages

/-! The state of the client DLL and what its exported functions share: the request under
construction, the check of an answer and the list of registered applications. -/
namespace CapiProxy.Win32Client
open Bytes

def msgBuffer : Nat := 10000

/-- What every exported function returns when the exchange itself fails. -/
def exchangeError : UInt32 := 0x1108

/-- A request under construction. `malloc` zeroes the block it returns, so members no function
assigns are zero. -/
structure RequestBuffer where
  head : RequestHeader
  rest : Memory

def RequestBuffer.frame (request : RequestBuffer) : List UInt8 :=
  (request.head.bytes ++
    request.rest.read 0 (request.head.messageLen.toNat - sizeofRequestHeader)).take
      request.head.messageLen.toNat

/-- An entry of `appl_list`; `data` is the block of the last message the application got. -/
structure Application where
  applID : UInt32
  data : Option Nat
  deriving DecidableEq, Repr

structure Client where
  sessionId : UInt32
  msgId : UInt32
  registeredApps : List Application

def Client.blocks (c : Client) : List Nat := c.registeredApps.filterMap (·.data)

/-- The outside world of one call: whether there is memory for the request, the answer
`sendAndReceive` finds for a request id and its frame, where `none` is `ILLEGAL_ANSWER`, and
`GlobalAlloc`, which gets the blocks in use and returns an unused one. -/
structure Environment where
  malloc : Bool
  sendAndReceive : UInt32 → List UInt8 → Option Memory
  globalAlloc : List Nat → Nat → Option Nat
  globalAlloc_block : ∀ used size block, globalAlloc used size = some block →
    block ∉ used ∧ block + size < 2 ^ 32

/-- The header members the functions that work for an application assign first. -/
def prepare (type : MessageType) (c : Client) (applID : UInt32) : RequestBuffer where
  head := { RequestHeader.parse zeros 0 with
    headerLen := .ofNat sizeofRequestHeader
    bodyLen := .ofNat (type.sizeofRequest .msvc)
    dataLen := 0
    messageType := type.code
    messageId := c.msgId + 1
    appId := applID
    sessionId := c.sessionId }
  rest := zeros

def verifyMessage (msg : Memory) (type : UInt32) : Bool :=
  let aheader := AnswerHeader.parse msg 0
  if aheader.headerLen < .ofNat sizeofAnswerHeader then false
  else if aheader.bodyLen + 1 < .ofInt (abodysize type) then false
  else if .ofNat msgBuffer < aheader.messageLen then false
  else if aheader.headerLen + aheader.bodyLen + aheader.dataLen ≠ aheader.messageLen then false
  else if aheader.proxyError ≠ perrorNone then false
  else if aheader.capiError ≠ 0 then true
  else if aheader.messageType ≠ type then false
  else true

theorem verifyMessage_iff : verifyMessage msg type = true ↔
    let aheader := AnswerHeader.parse msg 0
    sizeofAnswerHeader ≤ aheader.headerLen.toNat ∧
      ¬ aheader.bodyLen + 1 < .ofInt (abodysize type) ∧
      aheader.messageLen.toNat ≤ msgBuffer ∧
      aheader.headerLen + aheader.bodyLen + aheader.dataLen = aheader.messageLen ∧
      aheader.proxyError = perrorNone ∧ (aheader.capiError = 0 → aheader.messageType = type) := by
  have small : (UInt32.ofNat sizeofAnswerHeader).toNat = sizeofAnswerHeader := rfl
  have large : (UInt32.ofNat msgBuffer).toNat = msgBuffer := rfl
  simp only [verifyMessage, UInt32.lt_iff_toNat_lt, small, large]
  by_cases short : (AnswerHeader.parse msg 0).headerLen.toNat < sizeofAnswerHeader
  · simp [short, Nat.not_le.mpr short]
  · by_cases long : msgBuffer < (AnswerHeader.parse msg 0).messageLen.toNat
    · simp [long, Nat.not_le.mpr long]
    · by_cases error : (AnswerHeader.parse msg 0).capiError = 0
      · simp [short, Nat.le_of_not_lt short, long, Nat.le_of_not_lt long, error]
      · simp [short, Nat.le_of_not_lt short, long, Nat.le_of_not_lt long, error]

/-- The list after `setdata_app`, with the blocks it frees: the one the application had before,
or the new one when there is no such application. -/
def setdataApp (applID : UInt32) (data : Nat) : List Application → List Application × List Nat
  | [] => ([], [data])
  | app :: list =>
    if app.applID = applID then ({ app with data := some data } :: list, app.data.toList)
    else
      let (list, freed) := setdataApp applID data list
      (app :: list, freed)

theorem RequestBuffer.frame_eq (request : RequestBuffer) (holds : Holds request.rest 0 bytes)
    (announced : request.head.messageLen.toNat = sizeofRequestHeader + bytes.length) :
    request.frame = request.head.bytes ++ bytes := by
  rw [frame, announced, Nat.add_sub_cancel_left, holds]
  exact List.take_of_length_le (by simp [sizeofRequestHeader])

theorem setdataApp_freed (member : applID ∈ list.map Application.applID) :
    ∀ block ∈ (setdataApp applID data list).2, block ∈ list.filterMap (·.data) := by
  induction list with
  | nil => cases member
  | cons app list ih =>
    intro block freed
    rw [setdataApp] at freed
    split at freed
    · exact List.mem_filterMap.mpr ⟨app, List.mem_cons_self, Option.mem_toList.mp freed⟩
    · next other =>
      rw [List.map_cons, List.mem_cons] at member
      obtain ⟨app', listed, holder⟩ :=
        List.mem_filterMap.mp (ih (member.resolve_left fun same => other same.symm) block freed)
      exact List.mem_filterMap.mpr ⟨app', List.mem_cons_of_mem _ listed, holder⟩

end CapiProxy.Win32Client
