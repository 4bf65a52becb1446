import CapiProxy.Integration.Serving

/-! The calls of an application, from their arguments to what it finds when they return. The session
answers a call after it has asked the CAPI once, and whatever has become of the client in between, the
answer tells the application the reply. -/
namespace CapiProxy.Integration
open Bytes Win32Client
open Win32Server (capiMaxappl)

inductive Command where
  | function (f : Call)
  | getManufacturer (szBuffer : Nat)

/-- What the application finds when the function returns; `CAPI_GET_MANUFACTURER` has no result. -/
structure Returned where
  code : Option UInt32
  stored : List (Nat × List UInt8)
  freed : List Nat
  memory : Memory

namespace Command

def type : Command → MessageType
  | .function f => f.type
  | .getManufacturer _ => .capiManufacturer

def request (c : Client) (m : Memory) : Command → RequestBuffer
  | .function f => f.request c m
  | .getManufacturer _ => plainRequest .capiManufacturer c 0

/-- Only a received message changes memory by itself. -/
def memory (env : Environment) (c : Client) (m : Memory) : Command → Memory
  | .function (.getMessage applID _) => (capiGetMessage env c applID m).memory
  | _ => m

def run (env : Environment) (c : Client) (m : Memory) (command : Command) : Returned × Client :=
  match command with
  | .function f =>
    let outcome := f.run env c m
    (⟨some outcome.code, outcome.stored, outcome.freed, command.memory env c m⟩, outcome.client)
  | .getManufacturer szBuffer =>
    let (client, stored) := capiGetManufacturer env c szBuffer
    (⟨none, stored, [], m⟩, client)

/-- The call of the CAPI that the application means. A message is the same wherever it lies. -/
def Asks (m : Memory) (asked : CapiCall) : Command → Prop
  | .function (.register size connections blocks length _) =>
    asked = .register (some size) connections blocks length
  | .function (.release applID) => asked = .release applID
  | .function (.putMessage applID data1) => ∃ message memory first last,
    asked = .putMessage applID message memory ∧
      Delivered m data1 (isDataB3Req m data1) memory message first last
  | .function (.getMessage applID _) => asked = .getMessage applID
  | .function (.waitForSignal applID) => asked = .waitForSignal applID
  | .function (.getVersion ..) => asked = .getVersion 0
  | .function (.getSerialNumber _) => asked = .getSerialNumber 0
  | .function (.getProfile _ ctrlNr) => asked = .getProfile ctrlNr
  | .function .installed => asked = .installed
  | .getManufacturer _ => asked = .getManufacturer 0

end Command

/-- The caller's buffer of this size gets what the CAPI has stored, and some bytes behind it. -/
def Filled (size : Nat) (output : List UInt8) (buffer : Nat) (stored : List (Nat × List UInt8)) : Prop :=
  output.length ≤ size → ∃ behind, stored = [(buffer, output ++ behind)] ∧
    (output ++ behind).length = size

/-- The message that the CAPI returned is at `buffer`, which the application may keep. -/
structure Holding (reply : CapiReply) (returned : Returned) (buffer : Nat) : Prop where
  kept : buffer ∉ returned.freed
  delivered : Delivered reply.memory reply.message (isDataB3Ind reply.memory reply.message)
    returned.memory buffer buffer
    (buffer + (carried reply.memory reply.message (isDataB3Ind reply.memory reply.message)).length)

def Command.Gives (reply : CapiReply) (returned : Returned) : Command → Prop
  | .function (.register _ _ _ _ pApplID) => returned.code = some reply.code ∧
    (reply.code = 0 → ∀ app ∈ reply.applID, returned.stored = [(pApplID, bytes32 app)])
  | .function (.getMessage _ ppCAPIMessage) =>
    if reply.code = 0 then returned.code = some 0 ∧ ∃ buffer,
      returned.stored = [(ppCAPIMessage, bytes32 (.ofNat buffer))] ∧ Holding reply returned buffer
    else returned.code = some exchangeError ∧ returned.stored = []
  | .function (.getVersion major minor manuMajor manuMinor) => returned.code = some reply.code ∧
    ∀ a b c d, reply.output = words [a, b, c, d] → returned.stored =
      [(major, bytes32 a), (minor, bytes32 b), (manuMajor, bytes32 c), (manuMinor, bytes32 d)]
  | .function (.getSerialNumber szBuffer) => returned.code = some reply.code ∧
    Filled 8 reply.output szBuffer returned.stored
  | .function (.getProfile szBuffer _) => returned.code = some reply.code ∧
    Filled 64 reply.output szBuffer returned.stored
  | .function (.release _) | .function (.putMessage ..) | .function (.waitForSignal _) | .function .installed =>
    returned.code = some reply.code ∧ returned.stored = []
  | .getManufacturer szBuffer => returned.code = none ∧ Filled 64 reply.output szBuffer returned.stored

def ownApps (apps : List UInt32) (event : CapiEvent) : List UInt32 :=
  match event.registered, event.released with
  | some app, _ => apps ++ [app]
  | none, some app => apps.erase app
  | none, none => apps

section client
variable {env : Environment} {c : Client} {type : MessageType} {request : RequestBuffer} {a : AnswerBuffer}

theorem exchange_sessionId (store : Memory → List (Nat × List UInt8))
    (succeed : Memory → List Application → List Application × List Nat) :
    (exchange env c type request store succeed).client.sessionId = c.sessionId := by
  simp only [exchange]
  repeat' split
  all_goals rfl

theorem capiPutMessage_sessionId (applID : UInt32) (m : Memory) (data1 : Nat) :
    (capiPutMessage env c applID m data1).2.sessionId = c.sessionId := by
  simp only [capiPutMessage]
  repeat' split
  all_goals rfl

theorem capiGetMessage_sessionId (applID : UInt32) (m : Memory) :
    (capiGetMessage env c applID m).client.sessionId = c.sessionId := by
  simp only [capiGetMessage]
  repeat' split
  all_goals rfl

theorem Command.run_sessionId (env : Environment) (c : Client) (m : Memory) (command : Command) :
    (command.run env c m).2.sessionId = c.sessionId := by
  cases command with
  | getManufacturer => exact exchange_sessionId _ _
  | function f =>
    cases f with
    | putMessage applID data1 => exact capiPutMessage_sessionId applID m data1
    | getMessage applID => exact capiGetMessage_sessionId applID m
    | _ => exact exchange_sessionId _ _

theorem Command.run_unallocated (malloc : ¬ env.malloc) (m : Memory) (command : Command) :
    ∃ code : Option UInt32, command.run env c m = (⟨code, [], [], m⟩, c) ∧ ∀ e ∈ code, e = exchangeError := by
  have failed (type : MessageType) (request : RequestBuffer) (store : Memory → List (Nat × List UInt8))
      (succeed : Memory → List Application → List Application × List Nat) :
      exchange env c type request store succeed = .failed c := if_pos malloc
  have reported : ∀ e ∈ some exchangeError, e = exchangeError := fun _ same => (Option.some.inj same).symm
  cases command with
  | getManufacturer =>
    refine ⟨none, ?_, nofun⟩
    simp only [run, capiGetManufacturer, fetch, failed, Outcome.failed]
  | function f =>
    refine ⟨some exchangeError, ?_, reported⟩
    cases f with
    | putMessage => simp only [run, Call.run, capiPutMessage, if_pos malloc, memory]
    | getMessage =>
      simp only [run, Call.run, capiGetMessage, if_pos malloc, GetResult.outcome, GetResult.failed, memory]
      rfl
    | _ =>
      simp only [run, Call.run, capiRegister, capiRelease, capiWaitForSignal, capiGetVersion,
        capiGetSerialNumber, capiGetProfile, capiInstalled, fetch, failed, Outcome.failed, memory]

theorem setdataApp_applID (applID : UInt32) (data : Nat) (list : List Application) :
    (setdataApp applID data list).1.map (·.applID) = list.map (·.applID) := by
  induction list with
  | nil => rfl
  | cons app list ih =>
    rw [setdataApp]
    split
    · rfl
    · rw [List.map_cons, ih, List.map_cons]

theorem capiGetMessage_applID (applID : UInt32) (m : Memory) :
    (capiGetMessage env c applID m).client.registeredApps.map (·.applID) = c.registeredApps.map (·.applID) := by
  simp only [capiGetMessage]
  repeat' split
  all_goals first | rfl | exact setdataApp_applID ..

end client

/-- The client sends the request and gets an answer that reports the reply. -/
structure Replied (env : Environment) (c : Client) (type : MessageType) (request : RequestBuffer)
    (a : AnswerBuffer) (reply : CapiReply) : Prop where
  malloc : env.malloc = true
  answered : env.sendAndReceive (c.msgId + 1) request.frame = some (Received.of a.frame).message
  composed : Composed .msvc type a
  accepted : a.head.proxyError = perrorNone
  code : a.head.capiError = reply.code

/-- The application finds the reply, and the list of the client follows the call. -/
structure Command.Concludes (command : Command) (asked : CapiCall) (reply : CapiReply) (c : Client)
    (result : Returned × Client) : Prop where
  gives : command.Gives reply result.1
  apps : result.2.registeredApps.map (·.applID) = ownApps (c.registeredApps.map (·.applID)) (asked, reply)

section replies
variable {env : Environment} {c : Client} {type : MessageType} {request : RequestBuffer} {a : AnswerBuffer}
  {reply : CapiReply}

theorem exchange_replied (replied : Replied env c type request a reply) (other : type ≠ .capiGetmessage)
    (store : Memory → List (Nat × List UInt8))
    (succeed : Memory → List Application → List Application × List Nat) :
    let outcome := exchange env c type request store succeed
    outcome.code = reply.code ∧ outcome.stored = store (Received.of a.frame).message ∧
      outcome.client.registeredApps =
        if reply.code = 0 then (succeed (Received.of a.frame).message c.registeredApps).1
        else c.registeredApps := by
  have parsed := replied.composed.parse_received
  have outcome := exchange_accepted store succeed replied.malloc replied.answered
    (replied.composed.verified replied.accepted other) (by rw [parsed]; exact replied.accepted)
  rw [parsed, replied.code] at outcome
  exact outcome

theorem copyMembers_received (composed : Composed .msvc type a) (pointers : List Nat) :
    copyMembers type pointers (Received.of a.frame).message =
      (pointers.zip (copiedMembers type)).map fun (pointer, offset, length) =>
        (pointer, a.rest.read offset length) := by
  have abody : advance 0 (UInt32.ofNat sizeofAnswerHeader) = sizeofAnswerHeader := by rfl
  rw [copyMembers, composed.parse_received, composed.headerLen, abody]
  refine List.map_congr_left fun entry member => ?_
  obtain ⟨pointer, offset, length⟩ := entry
  have inside := copiedMembers_inside .msvc type _ (List.of_mem_zip member).2
  refine congrArg (Prod.mk pointer) (Memory.read_congr fun i hi => ?_)
  rw [Nat.add_assoc, composed.rest_received (by omega)]

theorem fetch_replied (replied : Replied env c type request a reply) (other : type ≠ .capiGetmessage)
    (pointers : List Nat) :
    let outcome := fetch env c type request pointers
    outcome.code = reply.code ∧ outcome.stored = (pointers.zip (copiedMembers type)).map
        (fun (pointer, offset, length) => (pointer, a.rest.read offset length)) ∧
      outcome.client.registeredApps = c.registeredApps := by
  obtain ⟨code, stored, apps⟩ :=
    exchange_replied replied other (copyMembers type pointers) fun _ list => (list, [])
  exact ⟨code, stored.trans (copyMembers_received replied.composed pointers), apps.trans (ite_self _)⟩

theorem filled_of_rest (rest : a.rest = Memory.write before 0 reply.output)
    (copied : stored = [(buffer, a.rest.read 0 size)]) : Filled size reply.output buffer stored := by
  intro fits
  obtain ⟨behind, whole⟩ := Memory.prefix_read_write before 0 size reply.output fits
  exact ⟨behind, by rw [copied, rest, whole], by rw [whole, Memory.length_read]⟩

theorem register_concludes (replied : Replied env c .capiRegister
      (registerRequest c size connections blocks length) a reply)
    (app : ∀ app, CapiEvent.registered (.register (some size) connections blocks length, reply) = some app →
      a.head.appId = app)
    (stores : CapiEvent.Stores capiMaxappl (.register (some size) connections blocks length, reply))
    (pApplID : Nat) (m : Memory) :
    let command := Command.function (.register size connections blocks length pApplID)
    command.Concludes (.register (some size) connections blocks length) reply c (command.run env c m) := by
  obtain ⟨code, stored, apps⟩ := exchange_replied replied (by decide)
    (fun answer => [(pApplID, bytes32 (AnswerHeader.parse answer 0).appId)])
    (fun answer list => (Win32Client.addApp (AnswerHeader.parse answer 0).appId list, []))
  rw [replied.composed.parse_received] at stored apps
  constructor
  · refine ⟨congrArg some code, fun success app' written => ?_⟩
    exact stored.trans (by rw [app app' ((if_pos success).trans written)])
  · show List.map _ (capiRegister ..).client.registeredApps = _
    rw [capiRegister, apps]
    by_cases success : reply.code = 0
    · obtain ⟨app', written, -⟩ := stores success
      have registered : CapiEvent.registered (.register (some size) connections blocks length, reply) =
          some app' := (if_pos success).trans written
      rw [if_pos success, ownApps, registered, app app' registered, Win32Client.addApp, List.map_append]
      rfl
    · rw [if_neg success, ownApps, CapiEvent.registered, if_neg success]
      rfl

theorem release_concludes (replied : Replied env c .capiRelease (plainRequest .capiRelease c applID) a reply)
    (m : Memory) :
    let command := Command.function (.release applID)
    command.Concludes (.release applID) reply c (command.run env c m) := by
  obtain ⟨code, stored, apps⟩ :=
    exchange_replied replied (by decide) (fun _ => []) (fun _ => Win32Client.delApp applID)
  refine ⟨⟨congrArg some code, stored⟩, ?_⟩
  show List.map _ (capiRelease ..).client.registeredApps = _
  rw [capiRelease, apps]
  have registered : CapiEvent.registered (.release applID, reply) = none := rfl
  by_cases success : reply.code = 0
  · have released : CapiEvent.released (.release applID, reply) = some applID := if_pos success
    rw [if_pos success, delApp_applID, ownApps, registered, released]
  · have released : CapiEvent.released (.release applID, reply) = none := if_neg success
    rw [if_neg success, ownApps, registered, released]

theorem wait_concludes
    (replied : Replied env c .capiWaitforsignal (plainRequest .capiWaitforsignal c applID) a reply)
    (m : Memory) :
    let command := Command.function (.waitForSignal applID)
    command.Concludes (.waitForSignal applID) reply c (command.run env c m) := by
  obtain ⟨code, stored, apps⟩ := exchange_replied replied (by decide) (fun _ => []) fun _ list => (list, [])
  refine ⟨⟨congrArg some code, stored⟩, congrArg (List.map _) (apps.trans (ite_self _))⟩

theorem put_concludes (replied : Replied env c .capiPutmessage (putMessageRequest c applID m data1) a reply)
    (message : Nat) (memory : Memory) :
    let command := Command.function (.putMessage applID data1)
    command.Concludes (.putMessage applID message memory) reply c (command.run env c m) := by
  have parsed := replied.composed.parse_received
  have verified := replied.composed.verified replied.accepted (by decide)
  have accepted : ¬ a.head.proxyError ≠ perrorNone := not_not.mpr replied.accepted
  have sent : capiPutMessage env c applID m data1 = (reply.code, { c with msgId := c.msgId + 1 }) := by
    simp only [capiPutMessage, replied.malloc, not_true, if_false, replied.answered, verified, parsed, accepted,
      replied.code]
  simp only [Command.run, Call.run, sent]
  exact ⟨⟨rfl, rfl⟩, rfl⟩

/-- A message arrives in a block of its own; an error of the CAPI gets lost. -/
theorem get_concludes (replied : Replied env c .capiGetmessage (getMessageRequest c applID) a reply)
    (built : GetAnswer reply a) (m : Memory)
    (passes : reply.code = 0 → let data := isDataB3Ind reply.memory reply.message
      applID ∈ c.registeredApps.map (·.applID) ∧ WellFormed reply.memory reply.message data ∧
        sizeofAnswerHeader + 1 + (carried reply.memory reply.message data).length ≤ msgBuffer ∧
        (env.globalAlloc c.blocks (carried reply.memory reply.message data).length).isSome)
    (ppCAPIMessage : Nat) :
    let command := Command.function (.getMessage applID ppCAPIMessage)
    command.Concludes (.getMessage applID) reply c (command.run env c m) := by
  refine ⟨?_, capiGetMessage_applID applID m⟩
  show if reply.code = 0 then _ else _
  split
  · next success =>
    obtain ⟨registered, wf, fits, block⟩ := passes success
    obtain ⟨buffer, block⟩ := Option.isSome_iff_exists.mp block
    obtain ⟨body, small, carries⟩ := built.carries success rfl wf
    obtain ⟨parsed, holds⟩ := carries.received (by omega)
    obtain ⟨code, message, kept, delivered⟩ := capiGetMessage_carries env c m replied.malloc
      replied.answered (parsed ▸ carries.head) holds rfl wf (by omega) block registered
    refine ⟨congrArg some code, buffer, ?_, kept, delivered⟩
    simp only [Command.run, Call.run, GetResult.outcome, message, Option.toList_some, List.map_cons,
      List.map_nil]
  · next failed =>
    have dropped : ¬ Taken env c (Received.of a.frame).message := by
      rintro ⟨-, long, -⟩
      rw [replied.composed.parse_received, replied.composed.empty fun _ => replied.code.symm ▸ failed] at long
      exact absurd long (by decide)
    obtain ⟨code, message⟩ := capiGetMessage_dropped env c m replied.malloc replied.answered dropped
    refine ⟨congrArg some code, ?_⟩
    simp only [Command.run, Call.run, GetResult.outcome, message, Option.toList_none, List.map_nil]

theorem version_concludes (replied : Replied env c .capiVersion (plainRequest .capiVersion c 0) a reply)
    (rest : ∀ major minor manuMajor manuMinor, reply.output = words [major, minor, manuMajor, manuMinor] →
      ∃ before, a.rest = Memory.write before 0 (words [manuMajor, manuMinor, major, minor])) (m : Memory) :
    let command := Command.function (.getVersion major minor manuMajor manuMinor)
    command.Concludes (.getVersion 0) reply c (command.run env c m) := by
  obtain ⟨code, stored, apps⟩ := fetch_replied replied (by decide) [major, minor, manuMajor, manuMinor]
  refine ⟨⟨congrArg some code, fun v w x y output => stored.trans ?_⟩, congrArg (List.map _) apps⟩
  obtain ⟨before, rest⟩ := rest v w x y output
  have holds : Holds a.rest 0 (words [x, y, v, w]) := rest ▸ Holds.write before 0 _
  have word (i : Nat) (inside : i < 4) : a.rest.read (4 * i) 4 = bytes32 [x, y, v, w][i] := by
    rw [← Memory.bytes32_word32, ← holds.words (i := i) inside, Nat.zero_add]
  show [(major, a.rest.read (4 * 2) 4), (minor, a.rest.read (4 * 3) 4), (manuMajor, a.rest.read (4 * 0) 4),
    (manuMinor, a.rest.read (4 * 1) 4)] = _
  rw [word 2 (by decide), word 3 (by decide), word 0 (by decide), word 1 (by decide)]
  rfl

theorem manufacturer_concludes
    (replied : Replied env c .capiManufacturer (plainRequest .capiManufacturer c 0) a reply)
    (rest : a.rest = Memory.write before 0 reply.output) (m : Memory) :
    let command := Command.getManufacturer szBuffer
    command.Concludes (.getManufacturer 0) reply c (command.run env c m) := by
  obtain ⟨-, stored, apps⟩ := fetch_replied replied (by decide) [szBuffer]
  exact ⟨⟨rfl, filled_of_rest rest stored⟩, congrArg (List.map _) apps⟩

theorem serial_concludes (replied : Replied env c .capiSerial (plainRequest .capiSerial c 0) a reply)
    (rest : a.rest = Memory.write before 0 reply.output) (m : Memory) :
    let command := Command.function (.getSerialNumber szBuffer)
    command.Concludes (.getSerialNumber 0) reply c (command.run env c m) := by
  obtain ⟨code, stored, apps⟩ := fetch_replied replied (by decide) [szBuffer]
  exact ⟨⟨congrArg some code, filled_of_rest rest stored⟩, congrArg (List.map _) apps⟩

theorem profile_concludes (replied : Replied env c .capiProfile (profileRequest c ctrlNr) a reply)
    (rest : a.rest = Memory.write before 0 reply.output) (m : Memory) :
    let command := Command.function (.getProfile szBuffer ctrlNr)
    command.Concludes (.getProfile ctrlNr) reply c (command.run env c m) := by
  obtain ⟨code, stored, apps⟩ := fetch_replied replied (by decide) [szBuffer]
  exact ⟨⟨congrArg some code, filled_of_rest rest stored⟩, congrArg (List.map _) apps⟩

theorem installed_concludes (replied : Replied env c .capiInstalled (plainRequest .capiInstalled c 0) a reply)
    (m : Memory) :
    let command := Command.function .installed
    command.Concludes .installed reply c (command.run env c m) := by
  obtain ⟨code, stored, apps⟩ := fetch_replied replied (by decide) []
  exact ⟨⟨congrArg some code, stored⟩, congrArg (List.map _) apps⟩

end replies

/-- What a call needs up to the reply: a message with room in a request or in an answer, a thread that
waits, and an admitted id. -/
def Command.Passable (env : Win32Server.Environment) (n : Nat) (history : List CapiEvent) (m : Memory) :
    Command → Prop
  | .function (.register size connections blocks length _) =>
    let asked := CapiCall.register (some size) connections blocks length
    CapiEvent.Stores capiMaxappl (asked, env.capi history asked)
  | .function (.putMessage _ data1) => WellFormed m data1 (isDataB3Req m data1) ∧
    sizeofRequestHeader + 1 + (carried m data1 (isDataB3Req m data1)).length ≤ msgBuffer
  | .function (.getMessage applID _) =>
    let reply := env.capi history (.getMessage applID)
    let data := isDataB3Ind reply.memory reply.message
    reply.code = 0 → WellFormed reply.memory reply.message data ∧
      sizeofAnswerHeader + 1 + (carried reply.memory reply.message data).length ≤ msgBuffer
  | .function (.waitForSignal _) => env.createThread n = true
  | _ => True

/-- What the reply needs at the client: a message is for an application on the list, and there is a block
for it. -/
def Command.Receivable (env : Environment) (c : Client) (reply : CapiReply) : Command → Prop
  | .function (.getMessage applID _) => reply.code = 0 → applID ∈ c.registeredApps.map (·.applID) ∧
    (env.globalAlloc c.blocks
      (carried reply.memory reply.message (isDataB3Ind reply.memory reply.message)).length).isSome
  | _ => True

/-- An answer that tells the application this reply to its call. -/
structure Command.Tells (command : Command) (m : Memory) (event : CapiEvent) (a : AnswerBuffer) : Prop where
  asks : command.Asks m event.1
  composed : Composed .msvc command.type a
  accepted : a.head.proxyError = perrorNone
  code : a.head.capiError = event.2.code
  concludes : ∀ env c, command.Receivable env c event.2 →
    Replied env c command.type (command.request c m) a event.2 →
    command.Concludes event.1 event.2 c (command.run env c m)

/-- The session has asked the CAPI for the call, once, and its answer tells the reply. -/
structure Command.Served (command : Command) (env : Win32Server.Environment) (c : Win32Server.Connection) (m : Memory)
    (served : Option AnswerBuffer × Win32Server.Connection) (asked : CapiCall) (a : AnswerBuffer) : Prop where
  once : Asked env c command.type asked served a
  tells : command.Tells m (asked, env.capi c.state.history asked) a

theorem Asked.served {env : Win32Server.Environment} {s : Option AnswerBuffer × Win32Server.Connection}
    (answers : Asked env c type asked s a) (command : Command) (m : Memory)
    (same : command.type = type) (asks : command.Asks m asked)
    (concludes : ∀ env' c', command.Receivable env' c' (env.capi c.state.history asked) →
      Replied env' c' command.type (command.request c' m) a (env.capi c.state.history asked) →
      command.Concludes asked (env.capi c.state.history asked) c' (command.run env' c' m)) :
    command.Served env c m s asked a := by
  subst same
  exact ⟨answers, asks, answers.composed, answers.accepted, answers.code, concludes⟩

section served
variable {env : Win32Server.Environment} (c : Win32Server.Connection) (stack : Memory) {client : Client}
  (linked : client.sessionId = env.session) (m : Memory)
include linked

theorem function_served (f : Call)
    (passable : Command.Passable env c.log.length c.state.history m (.function f)) :
    ∃ asked a, (Command.function f).Served env c m (serve env c stack (f.request client m).frame) asked a := by
  cases f with
  | register size connections blocks length pApplID =>
    obtain ⟨a, answers, app⟩ := register_asked c stack
      (posted_register client size connections blocks length) linked passable
    refine ⟨_, a, answers.served (.function (.register size connections blocks length pApplID)) m rfl rfl ?_⟩
    exact fun _ _ _ replied => register_concludes replied app passable pApplID m
  | release applID =>
    obtain ⟨a, answers⟩ := release_asked c stack (posted_plain client applID rfl) linked
    refine ⟨_, a, answers.served (.function (.release applID)) m rfl rfl ?_⟩
    exact fun _ _ _ replied => release_concludes replied m
  | putMessage applID data1 =>
    obtain ⟨wf, fits⟩ := passable
    obtain ⟨message, memory, first, last, a, answers, delivered⟩ :=
      put_asked c stack client applID m data1 linked wf fits
    refine ⟨_, a, answers.served (.function (.putMessage applID data1)) m rfl
      ⟨message, memory, first, last, rfl, delivered⟩ ?_⟩
    exact fun _ _ _ replied => put_concludes replied message memory
  | getMessage applID ppCAPIMessage =>
    obtain ⟨a, answers, built⟩ := get_asked c stack (posted_get client applID) linked
      fun success => (passable success).1
    refine ⟨_, a, answers.served (.function (.getMessage applID ppCAPIMessage)) m rfl rfl
      fun _ _ receivable replied => ?_⟩
    refine get_concludes replied built m (fun success => ?_) ppCAPIMessage
    exact ⟨(receivable success).1, (passable success).1, (passable success).2, (receivable success).2⟩
  | waitForSignal applID =>
    have posted : Posted .capiWaitforsignal _ _ := posted_plain client applID rfl
    obtain ⟨a, answers⟩ := wait_asked c stack posted linked passable
    refine ⟨_, a, answers.served (.function (.waitForSignal applID)) m rfl rfl ?_⟩
    exact fun _ _ _ replied => wait_concludes replied m
  | getVersion major minor manuMajor manuMinor =>
    obtain ⟨a, answers, rest⟩ := version_asked c stack (posted_plain client 0 rfl) linked
    refine ⟨_, a, answers.served (.function (.getVersion major minor manuMajor manuMinor)) m rfl rfl ?_⟩
    exact fun _ _ _ replied => version_concludes replied rest m
  | getSerialNumber szBuffer =>
    have posted : Posted .capiSerial _ _ := posted_plain client 0 rfl
    obtain ⟨a, before, answers, rest⟩ := fill_asked c stack posted rfl linked (fun _ _ _ => rfl) fun _ _ => trivial
    refine ⟨_, a, answers.served (.function (.getSerialNumber szBuffer)) m rfl rfl ?_⟩
    exact fun _ _ _ replied => serial_concludes replied rest m
  | getProfile szBuffer ctrlNr =>
    have posted := posted_profile client ctrlNr
    obtain ⟨a, before, answers, rest⟩ := fill_asked c stack posted rfl linked (fun _ _ _ => rfl) fun _ _ => trivial
    refine ⟨_, a, answers.served (.function (.getProfile szBuffer ctrlNr)) m rfl rfl ?_⟩
    exact fun _ _ _ replied => profile_concludes replied rest m
  | installed =>
    have posted : Posted .capiInstalled _ _ := posted_plain client 0 rfl
    obtain ⟨a, before, answers, -⟩ := fill_asked c stack posted rfl linked (fun _ _ _ => rfl) fun _ _ => trivial
    refine ⟨_, a, answers.served (.function .installed) m rfl rfl ?_⟩
    exact fun _ _ _ replied => installed_concludes replied m

theorem Command.served (command : Command)
    (passable : command.Passable env c.log.length c.state.history m) :
    ∃ asked a, command.Served env c m (serve env c stack (command.request client m).frame) asked a := by
  cases command with
  | function f => exact function_served c stack linked m f passable
  | getManufacturer szBuffer =>
    have posted : Posted .capiManufacturer _ _ := posted_plain client 0 rfl
    obtain ⟨a, before, answers, rest⟩ := fill_asked c stack posted rfl linked (fun _ _ _ => rfl) fun _ _ => trivial
    refine ⟨_, a, answers.served (.getManufacturer szBuffer) m rfl rfl ?_⟩
    exact fun _ _ _ replied => manufacturer_concludes replied rest m

end served

end CapiProxy.Integration
