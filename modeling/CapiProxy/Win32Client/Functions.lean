import CapiProxy.Win32Client.GetMessage
import CapiProxy.Win32Client.PutMessage

/-! The other exported functions of the client. They differ in their requests, in what they copy
from the body of the answer, and in what success does to the list of applications. -/
namespace CapiProxy.Win32Client
open Bytes

def addApp (applID : UInt32) (list : List Application) : List Application := list ++ [⟨applID, none⟩]

/-- The list after `del_app`, with the block it frees. Only the first entry with the id goes. -/
def delApp (applID : UInt32) : List Application → List Application × List Nat
  | [] => ([], [])
  | app :: list =>
    if app.applID = applID then (list, app.data.toList)
    else
      let (list, freed) := delApp applID list
      (app :: list, freed)

/-- `del_app` takes one occurrence of the id out. -/
theorem delApp_applID (applID : UInt32) (list : List Application) :
    (delApp applID list).1.map (·.applID) = (list.map (·.applID)).erase applID := by
  induction list with
  | nil => rfl
  | cons app list ih =>
    rw [delApp, List.map_cons, List.erase_cons]
    by_cases same : app.applID = applID
    · rw [if_pos same, if_pos (beq_iff_eq.mpr same)]
    · rw [if_neg same, if_neg (mt beq_iff_eq.mp same), List.map_cons, ih]

/-- What a call leaves behind: its result, the client, what was stored through the caller's
pointers and the blocks that were freed. -/
structure Outcome where
  code : UInt32
  client : Client
  stored : List (Nat × List UInt8)
  freed : List Nat

def Outcome.failed (c : Client) : Outcome := ⟨exchangeError, c, [], []⟩

/-- The members the client copies from the body of an answer, by offset and length. The version
answer names the manufacturer's version first, `CAPI_GET_VERSION` stores it last. -/
def copiedMembers : MessageType → List (Nat × Nat)
  | .capiManufacturer => [(0, 64)]
  | .capiVersion => [(8, 4), (12, 4), (0, 4), (4, 4)]
  | .capiSerial => [(0, 8)]
  | .capiProfile => [(0, 64)]
  | _ => []

def copyMembers (type : MessageType) (pointers : List Nat) (answer : Memory) :
    List (Nat × List UInt8) :=
  let abody := advance 0 (AnswerHeader.parse answer 0).headerLen
  (pointers.zip (copiedMembers type)).map fun (pointer, offset, length) =>
    (pointer, answer.read (abody + offset) length)

theorem copyMembers_ne_nil (given : pointers ≠ []) (members : copiedMembers type ≠ []) (answer : Memory) :
    copyMembers type pointers answer ≠ [] := by
  obtain ⟨pointer, pointers, rfl⟩ := List.exists_cons_of_ne_nil given
  obtain ⟨member, members, copied⟩ := List.exists_cons_of_ne_nil members
  rw [copyMembers, copied]
  exact List.cons_ne_nil _ _

/-- The exchange for a request, up to the return. What `store` takes from the answer is stored
before either error code is looked at; `succeed` is for the result 0. -/
def exchange (env : Environment) (c : Client) (type : MessageType) (request : RequestBuffer)
    (store : Memory → List (Nat × List UInt8))
    (succeed : Memory → List Application → List Application × List Nat) : Outcome :=
  if ¬ env.malloc then .failed c
  else
    let sent := { c with msgId := c.msgId + 1 }
    match env.sendAndReceive sent.msgId request.frame with
    | none => .failed sent
    | some answer =>
      let aheader := AnswerHeader.parse answer 0
      if ¬ verifyMessage answer type.code then .failed sent
      else if aheader.proxyError ≠ perrorNone then ⟨exchangeError, sent, store answer, []⟩
      else if aheader.capiError = 0 then
        let (registeredApps, freed) := succeed answer sent.registeredApps
        ⟨aheader.capiError, { sent with registeredApps }, store answer, freed⟩
      else ⟨aheader.capiError, sent, store answer, []⟩

/-- The request of the functions that send no parameters. -/
def plainRequest (type : MessageType) (c : Client) (applID : UInt32) : RequestBuffer :=
  let request := prepare type c applID
  { request with head.messageLen := .ofNat (sizeofRequestHeader + type.sizeofRequest .msvc) }

def registerRequest (c : Client) (messageBufferSize maxLogicalConnection maxBDataBlocks maxBDataLen : UInt32) :
    RequestBuffer :=
  { plainRequest .capiRegister c 0 with
    rest := zeros.write 0 (words [messageBufferSize, maxLogicalConnection, maxBDataBlocks, maxBDataLen]) }

def profileRequest (c : Client) (ctrlNr : UInt32) : RequestBuffer :=
  let request := plainRequest .capiProfile c 0
  { request with head.controllerId := ctrlNr }

def capiRegister (env : Environment) (c : Client)
    (messageBufferSize maxLogicalConnection maxBDataBlocks maxBDataLen : UInt32) (pApplID : Nat) : Outcome :=
  exchange env c .capiRegister
    (registerRequest c messageBufferSize maxLogicalConnection maxBDataBlocks maxBDataLen)
    (fun answer => [(pApplID, bytes32 (AnswerHeader.parse answer 0).appId)])
    fun answer list => (addApp (AnswerHeader.parse answer 0).appId list, [])

def capiRelease (env : Environment) (c : Client) (applID : UInt32) : Outcome :=
  exchange env c .capiRelease (plainRequest .capiRelease c applID) (fun _ => []) fun _ =>
    delApp applID

def capiWaitForSignal (env : Environment) (c : Client) (applID : UInt32) : Outcome :=
  exchange env c .capiWaitforsignal (plainRequest .capiWaitforsignal c applID) (fun _ => [])
    fun _ list => (list, [])

def fetch (env : Environment) (c : Client) (type : MessageType) (request : RequestBuffer)
    (pointers : List Nat) : Outcome :=
  exchange env c type request (copyMembers type pointers) fun _ list => (list, [])

/-- The only function without a result. -/
def capiGetManufacturer (env : Environment) (c : Client) (szBuffer : Nat) :
    Client × List (Nat × List UInt8) :=
  let outcome := fetch env c .capiManufacturer (plainRequest .capiManufacturer c 0) [szBuffer]
  (outcome.client, outcome.stored)

def capiGetVersion (env : Environment) (c : Client)
    (pCAPIMajor pCAPIMinor pManufacturerMajor pManufacturerMinor : Nat) : Outcome :=
  fetch env c .capiVersion (plainRequest .capiVersion c 0)
    [pCAPIMajor, pCAPIMinor, pManufacturerMajor, pManufacturerMinor]

def capiGetSerialNumber (env : Environment) (c : Client) (szBuffer : Nat) : Outcome :=
  fetch env c .capiSerial (plainRequest .capiSerial c 0) [szBuffer]

def capiGetProfile (env : Environment) (c : Client) (szBuffer : Nat) (ctrlNr : UInt32) : Outcome :=
  fetch env c .capiProfile (profileRequest c ctrlNr) [szBuffer]

def capiInstalled (env : Environment) (c : Client) : Outcome :=
  fetch env c .capiInstalled (plainRequest .capiInstalled c 0) []

/-- `CAPI_GET_MESSAGE` stores the address of the message. -/
def GetResult.outcome (r : GetResult) (ppCAPIMessage : Nat) : Outcome :=
  ⟨r.code, r.client, r.message.toList.map fun buffer => (ppCAPIMessage, bytes32 (.ofNat buffer)), r.freed⟩

inductive Call where
  | register (messageBufferSize maxLogicalConnection maxBDataBlocks maxBDataLen : UInt32) (pApplID : Nat)
  | release (applID : UInt32)
  | putMessage (applID : UInt32) (pCAPIMessage : Nat)
  | getMessage (applID : UInt32) (ppCAPIMessage : Nat)
  | waitForSignal (applID : UInt32)
  | getVersion (pCAPIMajor pCAPIMinor pManufacturerMajor pManufacturerMinor : Nat)
  | getSerialNumber (szBuffer : Nat)
  | getProfile (szBuffer : Nat) (ctrlNr : UInt32)
  | installed

namespace Call

def type : Call → MessageType
  | .register .. => .capiRegister
  | .release _ => .capiRelease
  | .putMessage .. => .capiPutmessage
  | .getMessage .. => .capiGetmessage
  | .waitForSignal _ => .capiWaitforsignal
  | .getVersion .. => .capiVersion
  | .getSerialNumber _ => .capiSerial
  | .getProfile .. => .capiProfile
  | .installed => .capiInstalled

/-- The request that is sent; a message to put is read from the caller's memory. -/
def request (c : Client) (m : Memory) : Call → RequestBuffer
  | .register size connections blocks length _ => registerRequest c size connections blocks length
  | .putMessage applID pCAPIMessage => putMessageRequest c applID m pCAPIMessage
  | .getMessage applID _ => getMessageRequest c applID
  | .getProfile _ ctrlNr => profileRequest c ctrlNr
  | .release applID => plainRequest .capiRelease c applID
  | .waitForSignal applID => plainRequest .capiWaitforsignal c applID
  | .getVersion .. => plainRequest .capiVersion c 0
  | .getSerialNumber _ => plainRequest .capiSerial c 0
  | .installed => plainRequest .capiInstalled c 0

def run (env : Environment) (c : Client) (m : Memory) : Call → Outcome
  | .register size connections blocks length pApplID =>
    capiRegister env c size connections blocks length pApplID
  | .release applID => capiRelease env c applID
  | .putMessage applID pCAPIMessage =>
    let (code, client) := capiPutMessage env c applID m pCAPIMessage
    ⟨code, client, [], []⟩
  | .getMessage applID ppCAPIMessage => (capiGetMessage env c applID m).outcome ppCAPIMessage
  | .waitForSignal applID => capiWaitForSignal env c applID
  | .getVersion major minor manuMajor manuMinor => capiGetVersion env c major minor manuMajor manuMinor
  | .getSerialNumber szBuffer => capiGetSerialNumber env c szBuffer
  | .getProfile szBuffer ctrlNr => capiGetProfile env c szBuffer ctrlNr
  | .installed => capiInstalled env c

end Call

theorem exchange_accepted {env : Environment} {c : Client} {type : MessageType} {request : RequestBuffer}
    (store : Memory → List (Nat × List UInt8))
    (succeed : Memory → List Application → List Application × List Nat)
    (malloc : env.malloc = true) (answered : env.sendAndReceive (c.msgId + 1) request.frame = some answer)
    (verified : verifyMessage answer type.code = true)
    (accepted : (AnswerHeader.parse answer 0).proxyError = perrorNone) :
    let outcome := exchange env c type request store succeed
    outcome.code = (AnswerHeader.parse answer 0).capiError ∧ outcome.stored = store answer ∧
      outcome.client.registeredApps =
        if (AnswerHeader.parse answer 0).capiError = 0 then (succeed answer c.registeredApps).1
        else c.registeredApps := by
  have noError : ¬ (AnswerHeader.parse answer 0).proxyError ≠ perrorNone := not_not.mpr accepted
  simp only [exchange, malloc, not_true, if_false, answered, verified, if_neg noError]
  split <;> exact ⟨rfl, rfl, rfl⟩

end CapiProxy.Win32Client
