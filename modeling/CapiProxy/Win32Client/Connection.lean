import CapiProxy.Win32Client.Authentication

/-! How the client DLL connects to its server. The result of `do_auth` gets lost, so `initConnection`
succeeds whatever has become of the socket and the authentication in between. -/
namespace CapiProxy.Win32Client
open Bytes

def heloVersion : Version := ⟨1, 3⟩

def authDesired : Bool := false

/-- What `initConnection` meets outside: whether `socket` and `connect` succeed, the contents of the block
for the message, the global `__myname`, whether the request is sent as a whole, what arrives then, and
what `do_auth` meets. -/
structure ConnectEnvironment where
  socket : Bool
  connect : Bool
  malloc : Option Memory
  myname : Memory
  send : Bool
  recv : Option (List UInt8)
  auth : AuthEnvironment

/-- The globals of the DLL, with whether `socke` is an open socket. -/
structure Globals where
  socke : Bool
  status : UInt32
  msgId : UInt32
  sessionId : UInt32
  maxTimeout : UInt32
  deriving DecidableEq, Repr

def Globals.initial : Globals := ⟨false, 0, 0, 0, 0xFFFFFFFF⟩

/-- The members that are not assigned keep what was in the block. -/
def heloRequest (block : Memory) (msgId : UInt32) (myname : Memory) : RequestBuffer :=
  let body := MessageType.proxyHelo.sizeofRequest .msvc
  { head := { RequestHeader.parse block 0 with
      headerLen := .ofNat sizeofRequestHeader
      bodyLen := .ofNat body
      dataLen := 0
      messageType := MessageType.proxyHelo.code
      messageId := msgId + 1
      messageLen := .ofNat (sizeofRequestHeader + body) }
    rest := Memory.write (fun i => block (sizeofRequestHeader + i)) 0
      (myname.read 0 64 ++ words [osTypeWindows, heloVersion.major, heloVersion.minor]) }

/-- A request in its block, and the answer that is received over it. -/
def receiveOver (block : Memory) (request : RequestBuffer) (answer : List UInt8) : Memory :=
  ((block.write 0 request.head.bytes).write sizeofRequestHeader
    (request.rest.read 0 (msgBuffer - sizeofRequestHeader))).write 0 answer

def Globals.established (g : Globals) (auth : AuthEnvironment) (msg : Memory) : Globals :=
  let aheader := AnswerHeader.parse msg 0
  let abody := advance 0 aheader.headerLen
  let g := { g with maxTimeout := msg.word32 (abody + 80), sessionId := aheader.sessionId }
  if aheader.proxyError = perrorAuthRequired ∨ authDesired then
    let (msgId, socke) := doAuth auth g.msgId (msg.word32 (abody + 76))
    { g with msgId, socke, status := 1 }
  else { g with status := 1 }

/-- The result, which is 0 for a success, and the globals afterwards. -/
def initConnection (env : ConnectEnvironment) (g : Globals) : UInt32 × Globals :=
  let closed := { g with socke := false }
  if ¬ env.socket then (1, closed)
  else if ¬ env.connect then (2, closed)
  else
    match env.malloc with
    | none => (3, closed)
    | some block =>
      let request := heloRequest block g.msgId env.myname
      let closed := { g with socke := false, msgId := g.msgId + 1 }
      if ¬ env.send then (4, closed)
      else
        match env.recv with
        | none => (5, closed)
        | some bytes =>
          let msg := receiveOver block request bytes
          let aheader := AnswerHeader.parse msg 0
          let len := UInt32.ofNat bytes.length
          if len < .ofNat sizeofAnswerHeader then (5, closed)
          else if aheader.headerLen + aheader.bodyLen + aheader.dataLen ≠ len ∨ aheader.messageLen ≠ len then
            (6, closed)
          else if perrorAuthRequired < aheader.proxyError then (7, closed)
          else if aheader.messageType ≠ MessageType.proxyHelo.code then (8, closed)
          else (0, { closed with socke := true }.established env.auth msg)

/-- The answer to the HELO request and its length, if the connection gets that far. -/
def heloAnswer (env : ConnectEnvironment) (g : Globals) : Option (Memory × UInt32) :=
  if env.socket ∧ env.connect ∧ env.send then
    env.malloc.bind fun block => env.recv.map fun bytes =>
      (receiveOver block (heloRequest block g.msgId env.myname) bytes, .ofNat bytes.length)
  else none

def authAnswer (env : AuthEnvironment) (msgId authtypes : UInt32) : Option (Memory × UInt32) :=
  if env.send then
    env.malloc.bind fun block => env.recv.map fun bytes =>
      (receiveOver block (authRequest block msgId authtypes env.credentials) bytes, .ofNat bytes.length)
  else none

/-- Both functions go on with a whole answer of the right type that reports no error except that
authentication is required. -/
structure Accepted (type : MessageType) (msg : Memory) (len : UInt32) : Prop where
  header : UInt32.ofNat sizeofAnswerHeader ≤ len
  lengths : (AnswerHeader.parse msg 0).headerLen + (AnswerHeader.parse msg 0).bodyLen +
    (AnswerHeader.parse msg 0).dataLen = len
  messageLen : (AnswerHeader.parse msg 0).messageLen = len
  proxyError : (AnswerHeader.parse msg 0).proxyError ≤ perrorAuthRequired
  messageType : (AnswerHeader.parse msg 0).messageType = type.code

theorem accepted_iff : Accepted type msg len ↔
    let aheader := AnswerHeader.parse msg 0
    ¬ len < .ofNat sizeofAnswerHeader ∧
      ¬ (aheader.headerLen + aheader.bodyLen + aheader.dataLen ≠ len ∨ aheader.messageLen ≠ len) ∧
      ¬ perrorAuthRequired < aheader.proxyError ∧ ¬ aheader.messageType ≠ type.code := by
  simp only [UInt32.not_lt, not_or, not_not]
  exact ⟨fun ⟨header, lengths, messageLen, proxyError, messageType⟩ =>
      ⟨header, ⟨lengths, messageLen⟩, proxyError, messageType⟩,
    fun ⟨header, ⟨lengths, messageLen⟩, proxyError, messageType⟩ =>
      ⟨header, lengths, messageLen, proxyError, messageType⟩⟩

theorem heloAnswer_some (found : heloAnswer env g = some (msg, len)) :
    env.socket = true ∧ env.connect = true ∧ env.send = true ∧ ∃ block bytes, env.malloc = some block ∧
      env.recv = some bytes ∧ msg = receiveOver block (heloRequest block g.msgId env.myname) bytes ∧
      len = .ofNat bytes.length := by
  unfold heloAnswer at found
  split at found
  · next reached =>
    obtain ⟨block, memory, found⟩ := Option.bind_eq_some_iff.mp found
    obtain ⟨bytes, received, same⟩ := Option.map_eq_some_iff.mp found
    cases same
    exact ⟨reached.1, reached.2.1, reached.2.2, block, bytes, memory, received, rfl, rfl⟩
  · cases found

theorem initConnection_accepted (found : heloAnswer env g = some (msg, len))
    (accepted : Accepted .proxyHelo msg len) : initConnection env g =
      (0, { g with socke := true, msgId := g.msgId + 1 }.established env.auth msg) := by
  obtain ⟨socket, connect, send, block, bytes, memory, received, rfl, rfl⟩ := heloAnswer_some found
  obtain ⟨header, lengths, error, type⟩ := accepted_iff.mp accepted
  simp only [initConnection, socket, connect, send, memory, received, not_true, if_false, if_neg header,
    if_neg lengths, if_neg error, if_neg type]

theorem initConnection_refused
    (refused : ∀ msg len, heloAnswer env g = some (msg, len) → ¬ Accepted .proxyHelo msg len) :
    (initConnection env g).1 ≠ 0 ∧ (initConnection env g).2.socke = false ∧
      (initConnection env g).2.status = g.status := by
  unfold initConnection
  by_cases socket : env.socket = true
  · by_cases connect : env.connect = true
    · cases memory : env.malloc with
      | none => simp [socket, connect]
      | some block =>
        by_cases send : env.send = true
        · cases received : env.recv with
          | none => simp [socket, connect, send]
          | some bytes =>
            have answer := refused _ _ (show heloAnswer env g = some (receiveOver block
                (heloRequest block g.msgId env.myname) bytes, .ofNat bytes.length) by
              simp [heloAnswer, socket, connect, send, memory, received])
            simp only [socket, connect, send, not_true, if_false]
            split
            · simp
            · split
              · simp
              · split
                · simp
                · split
                  · simp
                  · next header lengths error type =>
                    exact absurd (accepted_iff.mpr ⟨header, lengths, error, type⟩) answer
        · simp [socket, connect, send]
    · simp [socket, connect]
  · simp [socket]

theorem authAnswer_some (found : authAnswer env msgId authtypes = some (msg, len)) :
    env.send = true ∧ ∃ block bytes, env.malloc = some block ∧ env.recv = some bytes ∧
      msg = receiveOver block (authRequest block msgId authtypes env.credentials) bytes ∧
      len = .ofNat bytes.length := by
  unfold authAnswer at found
  split at found
  · next send =>
    obtain ⟨block, memory, found⟩ := Option.bind_eq_some_iff.mp found
    obtain ⟨bytes, received, same⟩ := Option.map_eq_some_iff.mp found
    cases same
    exact ⟨send, block, bytes, memory, received, rfl, rfl⟩
  · cases found

/-- `do_auth` also leaves the socket open when it has no memory for the request. -/
theorem doAuth_open_iff : (doAuth env msgId authtypes).2 = true ↔ env.malloc = none ∨
    ∃ msg len, authAnswer env msgId authtypes = some (msg, len) ∧ Accepted .proxyAuth msg len := by
  constructor
  · intro stays
    cases memory : env.malloc with
    | none => exact .inl rfl
    | some block =>
      refine .inr ?_
      simp only [doAuth, memory] at stays
      split at stays
      · cases stays
      · next send =>
        have send := not_not.mp send
        split at stays
        · cases stays
        · next bytes received =>
          refine ⟨_, _, by simp only [authAnswer, send, if_true, memory, received]; rfl, ?_⟩
          split at stays
          · cases stays
          · split at stays
            · cases stays
            · split at stays
              · cases stays
              · split at stays
                · cases stays
                · next header lengths error type => exact accepted_iff.mpr ⟨header, lengths, error, type⟩
  · rintro (memory | ⟨msg, len, found, accepted⟩)
    · simp only [doAuth, memory]
    · obtain ⟨send, block, bytes, memory, received, rfl, rfl⟩ := authAnswer_some found
      obtain ⟨header, lengths, error, type⟩ := accepted_iff.mp accepted
      simp only [receiveOver] at header lengths error type
      simp only [doAuth, memory, send, received, not_true, if_false, if_neg header, if_neg lengths,
        if_neg error, if_neg type]

/-- The types of authentication that the HELO answer offers. -/
def authTypes (msg : Memory) : UInt32 := msg.word32 (advance 0 (AnswerHeader.parse msg 0).headerLen + 76)

/-- What `do_auth` receives after the HELO answer. -/
def authenticated (env : ConnectEnvironment) (g : Globals) (msg : Memory) : Option (Memory × UInt32) :=
  authAnswer env.auth (g.msgId + 1) (authTypes msg)

/-- The AUTH request has been answered, without an error. -/
def Granted (answer : Memory) : Prop :=
  (AnswerHeader.parse answer 0).messageType = MessageType.proxyAuth.code ∧
    (AnswerHeader.parse answer 0).proxyError = perrorNone

/-- The result says what has become of the connection. -/
structure Settled (env : ConnectEnvironment) (g : Globals) (result : UInt32 × Globals) : Prop where
  success : result.1 = 0 → result.2.socke = true ∧
    ∃ msg len, heloAnswer env g = some (msg, len) ∧ Accepted .proxyHelo msg len ∧
      (result.2.sessionId = (AnswerHeader.parse msg 0).sessionId ∨
        ∃ answer len, authenticated env g msg = some (answer, len) ∧ Granted answer ∧
          result.2.sessionId = (AnswerHeader.parse answer 0).sessionId) ∧
      ((AnswerHeader.parse msg 0).proxyError = perrorAuthRequired →
        ∃ answer len, authenticated env g msg = some (answer, len) ∧ Granted answer)
  failure : result.1 ≠ 0 → result.2.socke = false ∧ result.2.status = g.status

/-- A server that requires authentication gets the request and grants it, in a whole answer. -/
def Grants (env : ConnectEnvironment) (g : Globals) : Prop :=
  ∀ msg len, heloAnswer env g = some (msg, len) → Accepted .proxyHelo msg len →
    (AnswerHeader.parse msg 0).proxyError = perrorAuthRequired →
      ∃ answer len, authenticated env g msg = some (answer, len) ∧ Accepted .proxyAuth answer len ∧
        (AnswerHeader.parse answer 0).proxyError = perrorNone

theorem established_sessionId (g : Globals) (auth : AuthEnvironment) (msg : Memory) :
    (g.established auth msg).sessionId = (AnswerHeader.parse msg 0).sessionId := by
  simp only [Globals.established]
  split <;> rfl

theorem established_open_iff (g : Globals) (auth : AuthEnvironment) (msg : Memory) (opened : g.socke = true) :
    (g.established auth msg).socke = true ↔
      ((AnswerHeader.parse msg 0).proxyError = perrorAuthRequired →
        (doAuth auth g.msgId (authTypes msg)).2 = true) := by
  simp only [Globals.established, authDesired, Bool.false_eq_true, or_false]
  split
  · next required => exact (imp_iff_right required).symm
  · next free => exact iff_of_true opened fun required => absurd required free

/-- The result can be relied on exactly when a server that asks for authentication also grants it. -/
theorem initConnection_settled_iff (env : ConnectEnvironment) (g : Globals) :
    Settled env g (initConnection env g) ↔ Grants env g := by
  constructor
  · intro settled msg len found accepted required
    rw [initConnection_accepted found accepted] at settled
    obtain ⟨stays, msg', len', found', -, -, granted⟩ := settled.success rfl
    obtain ⟨rfl, rfl⟩ := Prod.mk.inj (Option.some_inj.mp (found'.symm.trans found))
    obtain ⟨answer, length, answered, granted⟩ := granted required
    refine ⟨answer, length, answered, ?_, granted.2⟩
    obtain none | ⟨answer', length', answered', whole⟩ :=
      doAuth_open_iff.mp ((established_open_iff _ _ _ rfl).mp stays required)
    · obtain ⟨-, block, bytes, memory, -⟩ := authAnswer_some answered
      exact absurd (memory.symm.trans none) (Option.some_ne_none _)
    · obtain ⟨rfl, rfl⟩ := Prod.mk.inj (Option.some_inj.mp (answered'.symm.trans answered))
      exact whole
  · intro grants
    by_cases reached : ∃ msg len, heloAnswer env g = some (msg, len) ∧ Accepted .proxyHelo msg len
    · obtain ⟨msg, len, found, accepted⟩ := reached
      rw [initConnection_accepted found accepted]
      refine ⟨fun _ => ⟨?_, msg, len, found, accepted, .inl (established_sessionId _ _ _), fun required => ?_⟩,
        fun failed => absurd rfl failed⟩
      · refine (established_open_iff _ _ _ rfl).mpr fun required => ?_
        obtain ⟨answer, length, answered, whole, -⟩ := grants msg len found accepted required
        exact doAuth_open_iff.mpr (.inr ⟨answer, length, answered, whole⟩)
      · obtain ⟨answer, length, answered, whole, none⟩ := grants msg len found accepted required
        exact ⟨answer, length, answered, whole.messageType, none⟩
    · have refused := initConnection_refused (g := g) fun msg len found accepted =>
        reached ⟨msg, len, found, accepted⟩
      exact ⟨fun success => absurd success refused.1, fun _ => refused.2⟩

/-- A server that requires authentication and reports `proxyError` for it. -/
def ConnectEnvironment.answering (proxyError : UInt32) : ConnectEnvironment where
  socket := true
  connect := true
  malloc := some zeros
  myname := zeros
  send := true
  recv := some (AnswerHeader.bytes
    ⟨124, 40, 84, 0, 1, MessageType.proxyHelo.code, 0, 0x10000, perrorAuthRequired, 0⟩ ++ .replicate 84 0)
  auth :=
    { malloc := some zeros
      credentials := none
      send := true
      recv := some (AnswerHeader.bytes
        ⟨41, 40, 1, 0, 2, MessageType.proxyAuth.code, 0, 0, proxyError, 0⟩ ++ [0]) }

/-- Authentication is denied, the socket is closed, and the connection counts as established. -/
theorem denied_not_settled : ¬ Settled (.answering perrorAccessDenied) .initial
    (initConnection (.answering perrorAccessDenied) .initial) := by
  have result : initConnection (.answering perrorAccessDenied) .initial = (0, ⟨false, 1, 2, 0x10000, 0⟩) := by
    decide +kernel
  intro settled
  rw [result] at settled
  exact Bool.false_ne_true (settled.success rfl).1

end CapiProxy.Win32Client
