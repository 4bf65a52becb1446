import CapiProxy.Win32Client.Session

/-! `CAPI_GET_MESSAGE` of the client: the data of the answer is copied to a block of its own,
which the application keeps until its next message. -/
namespace CapiProxy.Win32Client
open Bytes

def getMessageRequest (c : Client) (applID : UInt32) : RequestBuffer :=
  let request := prepare .capiGetmessage c applID
  let messageLen := sizeofRequestHeader + MessageType.capiGetmessage.sizeofRequest .msvc
  { request with head.messageLen := .ofNat messageLen }

/-- What the application gets: the result, the address stored through `ppCAPIMessage`, the
memory it can read and the blocks that were freed. -/
structure GetResult where
  code : UInt32
  message : Option Nat
  client : Client
  memory : Memory
  freed : List Nat

def GetResult.failed (c : Client) (m : Memory) : GetResult := ⟨exchangeError, none, c, m, []⟩

def capiGetMessage (env : Environment) (c : Client) (applID : UInt32) (m : Memory) : GetResult :=
  if ¬ env.malloc then .failed c m
  else
    let sent := { c with msgId := c.msgId + 1 }
    match env.sendAndReceive sent.msgId (getMessageRequest c applID).frame with
    | none => .failed sent m
    | some answer =>
      let aheader := AnswerHeader.parse answer 0
      let adata := advance (advance 0 aheader.headerLen) aheader.bodyLen
      if ¬ verifyMessage answer MessageType.capiGetmessage.code then .failed sent m
      else if aheader.dataLen < 8 then .failed sent m
      else
        match env.globalAlloc sent.blocks aheader.dataLen.toNat with
        | none => .failed sent m
        | some buffer =>
          let m := m.write buffer (answer.read adata aheader.dataLen.toNat)
          let len1 := m.word16 buffer
          let data := isDataB3Ind m buffer
          -- the block stays allocated in the two failures that follow
          if aheader.dataLen.toNat < len1 then .failed sent m
          else if data ∧ len1 < 18 then .failed sent m
          else
            let m := if data then setPointer m buffer len1 else m
            let (registeredApps, freed) := setdataApp applID buffer sent.registeredApps
            let code := if aheader.proxyError ≠ perrorNone then exchangeError else aheader.capiError
            ⟨code, some buffer, { sent with registeredApps }, m, freed⟩

/-- The answer passes the checks and there is a block for its data. -/
def Taken (env : Environment) (c : Client) (answer : Memory) : Prop :=
  verifyMessage answer MessageType.capiGetmessage.code = true ∧
    8 ≤ (AnswerHeader.parse answer 0).dataLen.toNat ∧
    (env.globalAlloc c.blocks (AnswerHeader.parse answer 0).dataLen.toNat).isSome

theorem capiGetMessage_dropped (env : Environment) (c : Client) (m : Memory) (malloc : env.malloc = true)
    (answered : env.sendAndReceive (c.msgId + 1) (getMessageRequest c applID).frame = some answer)
    (dropped : ¬ Taken env c answer) :
    (capiGetMessage env c applID m).code = exchangeError ∧
      (capiGetMessage env c applID m).message = none := by
  simp only [capiGetMessage, malloc, not_true, if_false, answered]
  by_cases verified : verifyMessage answer MessageType.capiGetmessage.code = true
  · by_cases long : (AnswerHeader.parse answer 0).dataLen < 8
    · simp only [verified, not_true, if_false, if_pos long]
      exact ⟨rfl, rfl⟩
    · rw [UInt32.lt_iff_toNat_lt] at long
      have none : env.globalAlloc c.blocks (AnswerHeader.parse answer 0).dataLen.toNat = none := by
        rw [← Option.not_isSome_iff_eq_none]
        exact fun some => dropped ⟨verified, Nat.le_of_not_lt long, some⟩
      rw [← UInt32.lt_iff_toNat_lt] at long
      rw [Client.blocks] at none
      simp only [verified, not_true, if_false, if_neg long, Client.blocks, none]
      exact ⟨rfl, rfl⟩
  · simp only [if_pos verified]
    exact ⟨rfl, rfl⟩

theorem capiGetMessage_taken (env : Environment) (c : Client) (m : Memory) (malloc : env.malloc = true)
    (answered : env.sendAndReceive (c.msgId + 1) (getMessageRequest c applID).frame = some answer)
    (taken : Taken env c answer)
    (readable : Readable answer (advance (advance 0 (AnswerHeader.parse answer 0).headerLen)
      (AnswerHeader.parse answer 0).bodyLen) (AnswerHeader.parse answer 0).dataLen.toNat) :
    (capiGetMessage env c applID m).code = (AnswerHeader.parse answer 0).capiError := by
  obtain ⟨verified, long, block⟩ := taken
  obtain ⟨buffer, block⟩ := Option.isSome_iff_exists.mp block
  have accepted := (verifyMessage_iff.mp verified).2.2.2.2.1
  have enough : ¬ (AnswerHeader.parse answer 0).dataLen < 8 := by
    rw [UInt32.lt_iff_toNat_lt]
    exact Nat.not_lt.mpr long
  have copied := readable.copy long m buffer
  rw [Client.blocks] at block
  simp only [capiGetMessage, malloc, not_true, if_false, answered, verified, if_neg enough, Client.blocks,
    block, if_neg (Nat.not_lt.mpr copied.whole)]
  split
  · next short => exact absurd (copied.fields short.1) (Nat.not_le.mpr short.2)
  · exact if_neg (not_not.mpr accepted)

structure CarriesMessage (head : AnswerHeader) (body length : Nat) : Prop where
  headerLen : head.headerLen = .ofNat sizeofAnswerHeader
  bodyLen : head.bodyLen = .ofNat body
  dataLen : head.dataLen = .ofNat length
  messageLen : head.messageLen = .ofNat (sizeofAnswerHeader + body + length)
  messageType : head.messageType = MessageType.capiGetmessage.code
  proxyError : head.proxyError = perrorNone
  capiError : head.capiError = 0

theorem verifyMessage_carries (carries : CarriesMessage (AnswerHeader.parse answer 0) body length)
    (fits : sizeofAnswerHeader + body + length ≤ msgBuffer) :
    verifyMessage answer MessageType.capiGetmessage.code = true := by
  have enough : ¬ UInt32.ofNat body + 1 < .ofInt (abodysize MessageType.capiGetmessage.code) := by
    have least : abodysize MessageType.capiGetmessage.code = 1 := by rfl
    simp only [msgBuffer] at fits
    rw [least, show UInt32.ofNat body + 1 = .ofNat (body + 1) from (UInt32.ofNat_add body 1).symm,
      UInt32.lt_iff_toNat_lt, UInt32.toNat_ofNat', Nat.mod_eq_of_lt (by omega)]
    exact Nat.not_lt.mpr (Nat.le_add_left 1 body)
  have whole : (UInt32.ofNat (sizeofAnswerHeader + body + length)).toNat ≤ msgBuffer := by
    rw [UInt32.toNat_ofNat']
    exact (Nat.mod_le _ _).trans fits
  have sum : UInt32.ofNat sizeofAnswerHeader + .ofNat body + .ofNat length =
      .ofNat (sizeofAnswerHeader + body + length) := by
    rw [UInt32.ofNat_add, UInt32.ofNat_add]
  rw [verifyMessage_iff]
  simp only [carries.headerLen, carries.bodyLen, carries.dataLen, carries.messageLen]
  exact ⟨Nat.le_of_eq rfl, enough, whole, sum, carries.proxyError, fun _ => carries.messageType⟩

namespace CarriesMessage

theorem dataLen_toNat (carries : CarriesMessage head body length)
    (fits : sizeofAnswerHeader + body + length ≤ msgBuffer) : head.dataLen.toNat = length := by
  simp only [msgBuffer] at fits
  rw [carries.dataLen, UInt32.toNat_ofNat', Nat.mod_eq_of_lt (by omega)]

theorem adata_eq (carries : CarriesMessage head body length)
    (fits : sizeofAnswerHeader + body + length ≤ msgBuffer) :
    advance (advance 0 head.headerLen) head.bodyLen = sizeofAnswerHeader + body := by
  simp only [msgBuffer] at fits
  have first : advance 0 (UInt32.ofNat sizeofAnswerHeader) = sizeofAnswerHeader := by rfl
  rw [carries.headerLen, carries.bodyLen, first, advance, UInt32.toNat_ofNat',
    Nat.mod_eq_of_lt (show body < 2 ^ 32 by omega), Nat.mod_eq_of_lt (by omega)]

end CarriesMessage

/-- The application of a registered id gets the message of an accepted answer in a block that stays
allocated. -/
theorem capiGetMessage_carries (env : Environment) (c : Client) (memory : Memory)
    (malloc : env.malloc = true)
    (answered : env.sendAndReceive (c.msgId + 1) (getMessageRequest c applID).frame = some answer)
    (carries : CarriesMessage (AnswerHeader.parse answer 0) body (carried m msg data).length)
    (holds : Holds answer (sizeofAnswerHeader + body) (carried m msg data))
    (kind : isDataB3Ind m msg = data) (wf : WellFormed m msg data)
    (fits : sizeofAnswerHeader + body + (carried m msg data).length ≤ msgBuffer)
    (block : env.globalAlloc c.blocks (carried m msg data).length = some buffer)
    (registered : applID ∈ c.registeredApps.map (·.applID)) :
    let result := capiGetMessage env c applID memory
    result.code = 0 ∧ result.message = some buffer ∧ buffer ∉ result.freed ∧
      Delivered m msg data result.memory buffer buffer (buffer + (carried m msg data).length) := by
  obtain ⟨unused, room⟩ := env.globalAlloc_block _ _ _ block
  have header := wf.header
  have inside : m.word16 msg ≤ (carried m msg data).length := by rw [length_carried]; omega
  have long : ¬ (AnswerHeader.parse answer 0).dataLen < 8 := by
    rw [UInt32.lt_iff_toNat_lt, carries.dataLen_toNat fits]
    exact Nat.not_lt.mpr (Nat.le_trans header inside)
  have copy : Holds (memory.write buffer (carried m msg data)) buffer (carried m msg data) :=
    Holds.write _ _ _
  have len1 : (memory.write buffer (carried m msg data)).word16 buffer = m.word16 msg :=
    carried_word16 (k := 0) copy (by omega)
  have command := (carried_commands copy header).2
  have complete : ¬ (data = true ∧ m.word16 msg < 18) :=
    fun ⟨is_data, short⟩ => absurd (wf.fields is_data) (Nat.not_le.mpr short)
  have delivered := repoint_delivered copy wf (by omega)
  simp only [repoint, len1] at delivered
  have kept : buffer ∉ (setdataApp applID buffer c.registeredApps).2 :=
    fun member => unused (setdataApp_freed registered buffer member)
  rw [Holds] at holds
  have path : capiGetMessage env c applID memory =
      ⟨0, some buffer, ⟨c.sessionId, c.msgId + 1, (setdataApp applID buffer c.registeredApps).1⟩,
        repoint (memory.write buffer (carried m msg data)) buffer data,
        (setdataApp applID buffer c.registeredApps).2⟩ := by
    rw [Client.blocks] at block
    simp only [capiGetMessage, malloc, not_true, if_false, answered, verifyMessage_carries carries fits,
      if_neg long, carries.dataLen_toNat fits, carries.adata_eq fits, holds, Client.blocks, block, len1, command,
      kind, if_neg (Nat.not_lt.mpr inside), if_neg complete, repoint, carries.proxyError,
      carries.capiError, ne_eq]
  rw [path]
  refine ⟨rfl, rfl, kept, ?_⟩
  simpa only [repoint, len1] using delivered

end CapiProxy.Win32Client
