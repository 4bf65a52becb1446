import CapiProxy.Win32Client.Session

/-! `do_auth` of the client. The type it announces stays `AUTH_NO_AUTH` when it has read a user name
and a password, and the length of the message is that of a HELO request. -/
namespace CapiProxy.Win32Client
open Bytes

/-- What `do_auth` meets outside: the contents of the block for the message, the two strings of the
registry, whether the request is sent as a whole, and what arrives then. -/
structure AuthEnvironment where
  malloc : Option Memory
  credentials : Option (List UInt8 × List UInt8)
  send : Bool
  recv : Option (List UInt8)

/-- The type of the request, with the strings for its data. -/
def authMethod (authtypes : UInt32) (credentials : Option (List UInt8 × List UInt8)) :
    UInt32 × Option (List UInt8 × List UInt8) :=
  let type := if authtypes &&& authByIp ≠ 0 then authByIp else authNoAuth
  (type, if type = 0 ∧ authtypes &&& authUserpass ≠ 0 then credentials else none)

def credentialBytes : Option (List UInt8 × List UInt8) → List UInt8
  | some (user, pass) => user ++ [0] ++ (pass ++ [0])
  | none => []

theorem length_credentialBytes (user pass : List UInt8) :
    (credentialBytes (some (user, pass))).length = user.length + pass.length + 2 := by
  simp only [credentialBytes, List.length_append, List.length_singleton]
  omega

/-- The members that are not assigned keep what was in the block. -/
def authRequest (block : Memory) (msgId authtypes : UInt32) (credentials : Option (List UInt8 × List UInt8)) :
    RequestBuffer :=
  let (type, found) := authMethod authtypes credentials
  let data := credentialBytes found
  let body := MessageType.proxyAuth.sizeofRequest .msvc
  { head := { RequestHeader.parse block 0 with
      headerLen := .ofNat sizeofRequestHeader
      bodyLen := .ofNat body
      dataLen := .ofNat data.length
      messageType := MessageType.proxyAuth.code
      messageId := msgId + 1
      messageLen := .ofNat (sizeofRequestHeader + MessageType.proxyHelo.sizeofRequest .msvc) }
    rest := (Memory.write (fun i => block (sizeofRequestHeader + i)) 0 (bytes32 type)).write body data }

/-- Whether the socket is still open afterwards, and the message id that was used last. The answer
is received into the buffer of the request. -/
def doAuth (env : AuthEnvironment) (msgId authtypes : UInt32) : UInt32 × Bool :=
  match env.malloc with
  | none => (msgId, true)
  | some block =>
    let request := authRequest block msgId authtypes env.credentials
    let sent := (block.write 0 request.head.bytes).write sizeofRequestHeader
      (request.rest.read 0 (msgBuffer - sizeofRequestHeader))
    if ¬ env.send then (msgId + 1, false)
    else
      match env.recv with
      | none => (msgId + 1, false)
      | some bytes =>
        let aheader := AnswerHeader.parse (sent.write 0 bytes) 0
        let len := UInt32.ofNat bytes.length
        if len < .ofNat sizeofAnswerHeader then (msgId + 1, false)
        else if aheader.headerLen + aheader.bodyLen + aheader.dataLen ≠ len ∨ aheader.messageLen ≠ len then
          (msgId + 1, false)
        else if perrorAuthRequired < aheader.proxyError then (msgId + 1, false)
        else if aheader.messageType ≠ MessageType.proxyAuth.code then (msgId + 1, false)
        else (msgId + 1, true)

/-- The header on the wire, with three members as they were in the block. -/
def authHeader (block : Memory) (msgId : UInt32) (dataLen : Nat) : RequestHeader where
  messageLen := 112
  headerLen := 36
  bodyLen := 4
  dataLen := .ofNat dataLen
  messageId := msgId + 1
  messageType := MessageType.proxyAuth.code
  appId := (RequestHeader.parse block 0).appId
  controllerId := (RequestHeader.parse block 0).controllerId
  sessionId := (RequestHeader.parse block 0).sessionId

/-- The frame: the header, the type, and the data as far as a HELO request would go. -/
theorem authRequest_frame (block : Memory) (msgId authtypes : UInt32)
    (credentials : Option (List UInt8 × List UInt8)) :
    ∃ data, (authRequest block msgId authtypes credentials).frame =
      (authHeader block msgId (credentialBytes (authMethod authtypes credentials).2).length).bytes ++
        (bytes32 (authMethod authtypes credentials).1 ++ data) := by
  have head : (authRequest block msgId authtypes credentials).head =
      authHeader block msgId (credentialBytes (authMethod authtypes credentials).2).length := rfl
  have body : (authRequest block msgId authtypes credentials).rest.read 0 4 =
      bytes32 (authMethod authtypes credentials).1 := by
    have type : Holds (Memory.write (fun i => block (sizeofRequestHeader + i)) 0
        (bytes32 (authMethod authtypes credentials).1)) 0
        (bytes32 (authMethod authtypes credentials).1) := Holds.write _ _ _
    rw [Holds, length_bytes32] at type
    rw [← type]
    exact Memory.read_write_outside _ _ _ _ _ (.inl (Nat.le_refl 4))
  have rest : Holds (authRequest block msgId authtypes credentials).rest 0
      ((authRequest block msgId authtypes credentials).rest.read 0 76) := by rw [Holds, Memory.length_read]
  have announced : (authRequest block msgId authtypes credentials).head.messageLen.toNat =
      sizeofRequestHeader + ((authRequest block msgId authtypes credentials).rest.read 0 76).length := by
    rw [head, Memory.length_read]
    rfl
  refine ⟨(authRequest block msgId authtypes credentials).rest.read 4 72, ?_⟩
  rw [RequestBuffer.frame_eq _ rest announced, head, ← body]
  exact congrArg _ (Memory.read_add _ 0 4 72)

end CapiProxy.Win32Client
