import CapiProxy.LinuxServer.Answers

/-! What an answer of the Linux server takes over from earlier ones. All handlers fill the same
global buffer, and the local buffer of the version handler is on a stack that was used before: a
byte that is sent without having been written for this request tells of another one. -/
namespace CapiProxy.LinuxServer
open Bytes

/-- A request being handled: the process around it, its number, and the session as the requests
before it have left it. -/
structure Occasion where
  env : Environment
  number : Nat
  session : Session

namespace Occasion

/-- The call to the CAPI that a request of this type leads to. -/
def call (o : Occasion) (m : Memory) : MessageType → Option CapiCall
  | .capiRegister =>
    let word i := m.word32 (requestBody o.env m + 4 * i)
    some (.register none (word 1) (word 2) (word 3))
  | .capiRelease => some (.release (request o.env m).appId)
  | .capiPutmessage =>
    let msg := advance (requestBody o.env m) (request o.env m).bodyLen
    (acceptPut m msg (request o.env m).dataLen).map fun memory =>
      .putMessage (request o.env memory).appId msg memory
  | .capiGetmessage => some (.getMessage (request o.env m).appId)
  | .capiWaitforsignal => some (.waitForSignal (request o.env m).appId)
  | .capiManufacturer => some (.getManufacturer (request o.env m).controllerId)
  | .capiVersion => some (.getVersion (request o.env m).controllerId)
  | .capiSerial => some (.getSerialNumber (request o.env m).controllerId)
  | .capiProfile => some (.getProfile (request o.env m).controllerId)
  | .capiInstalled => some .installed
  | .proxyHelo | .proxyAuth | .proxyKeepalive | .proxyShutdown => none

def result (o : Occasion) (m : Memory) (type : MessageType) : Option CapiReply :=
  (o.call m type).map (o.env.capi o.session.history)

/-- The answer to the packet in `m`, by the handler or by the process it forked. -/
def answer (o : Occasion) (m : Memory) : Option AnswerBuffer :=
  match selected o.env m with
  | none => none
  | some (type, handler) =>
    let effect := handler o.env o.number o.session m
    match effect.listener with
    | none => effect.answer
    | some data =>
      (o.result m type).map fun reply =>
        Waiter.answer o.env ⟨o.number, data, effect.session.outPacket⟩ reply.code

def sent (o : Occasion) (m : Memory) : Option (List UInt8) := (o.answer m).map (·.frame)

/-- Two occasions for the same packet: whatever has happened before, the connection, its address
and the outcome of `fork` are the same, and so is the result of the CAPI call. -/
structure Alike (o o' : Occasion) (m : Memory) : Prop where
  sessionID : o.env.sessionID = o'.env.sessionID
  inPacket : o.env.inPacket = o'.env.inPacket
  address : o.env.getsockname = o'.env.getsockname
  fork : o.env.fork o.number = o'.env.fork o'.number
  result : ∀ type handler, selected o.env m = some (type, handler) → o.result m type = o'.result m type

/-- The CAPI's message is long enough for the command bytes that are read back from the buffer,
or what there is of it rules a data message out. -/
def Telling (reply : CapiReply) : Prop :=
  6 ≤ reply.memory.word16 reply.message ∨
    reply.memory.word16 reply.message = 5 ∧ capiCmd1 reply.memory reply.message ≠ 0x86

/-- The handler for the type writes every byte it sends: a HELO answer has bytes behind the name
and a timeout that nobody writes; the error code of a refused message is not written; the others
depend on what the CAPI writes. -/
def Overwrites (type : MessageType) (reply : Option CapiReply) : Prop :=
  match type with
  | .proxyHelo => False
  | .capiPutmessage => reply.isSome
  | .capiRegister => ∀ r ∈ reply, r.applID.isSome
  | .capiGetmessage => ∀ r ∈ reply, r.code = 0 → Telling r
  | .capiManufacturer | .capiVersion | .capiSerial | .capiProfile =>
    ∀ r ∈ reply, type.sizeofAnswer .gnuC ≤ r.output.length
  | _ => True

/-- The same request with other leftovers in the answer buffer and on the stack. -/
def leaving (o : Occasion) (outPacket : AnswerBuffer) (stack : Memory) : Occasion :=
  { o with env.stack := fun _ => stack, session.outPacket := outPacket }

variable {o o' : Occasion} {m : Memory}

theorem leaving_alike (o : Occasion) (m : Memory) (outPacket : AnswerBuffer) (stack : Memory) :
    o.Alike (o.leaving outPacket stack) m :=
  ⟨rfl, rfl, rfl, rfl, fun type _ _ => by cases type <;> rfl⟩

theorem Alike.header (alike : o.Alike o' m) (memory : Memory) :
    LinuxServer.request o.env memory = LinuxServer.request o'.env memory := by
  rw [LinuxServer.request, LinuxServer.request, alike.inPacket]

theorem Alike.request (alike : o.Alike o' m) :
    LinuxServer.request o.env m = LinuxServer.request o'.env m := alike.header m

theorem Alike.selected (alike : o.Alike o' m) :
    LinuxServer.selected o.env m = LinuxServer.selected o'.env m := by
  simp only [LinuxServer.selected, alike.request, alike.sessionID]

theorem Alike.requestBody (alike : o.Alike o' m) :
    LinuxServer.requestBody o.env m = LinuxServer.requestBody o'.env m := by
  simp only [LinuxServer.requestBody, alike.request, alike.inPacket]

theorem Alike.call (alike : o.Alike o' m) (type : MessageType) : o.call m type = o'.call m type := by
  cases type <;> simp only [Occasion.call, alike.header, alike.requestBody]

def composed (o : Occasion) (m : Memory) (type : MessageType) (appId capiError proxyError : UInt32) :
    AnswerHeader :=
  { compose type o.env m o.session.outPacket.head with appId, capiError, proxyError }

theorem Alike.composed (alike : o.Alike o' m) (type : MessageType) (appId capiError proxyError : UInt32) :
    o.composed m type appId capiError proxyError = o'.composed m type appId capiError proxyError := by
  simp only [Occasion.composed, compose, alike.request, alike.sessionID]

theorem composed_messageLen (o : Occasion) (m : Memory) (type : MessageType)
    (appId capiError proxyError : UInt32) :
    (o.composed m type appId capiError proxyError).messageLen.toNat =
      sizeofAnswerHeader + type.sizeofAnswer .gnuC := by
  cases type <;> rfl

theorem sent_eq_iff {a a' : AnswerBuffer} (here : o.answer m = some a) (there : o'.answer m = some a')
    (announced : a.head.messageLen.toNat = sizeofAnswerHeader + n)
    (announced' : a'.head.messageLen.toNat = sizeofAnswerHeader + k) :
    o.sent m = o'.sent m ↔ a.head = a'.head ∧ ∀ i < n, a.rest i = a'.rest i := by
  rw [sent, sent, here, there, Option.map_some, Option.map_some, Option.some_inj,
    AnswerBuffer.frame_eq_iff announced announced']

def flipped (m : Memory) : Memory := fun i => if m i = 0 then 1 else 0

theorem flipped_ne (m : Memory) (i : Nat) : m i ≠ flipped m i := by
  unfold flipped
  split
  · next zero => rw [zero]; decide
  · next other => exact other

def otherWord (w : UInt32) : UInt32 := if w = 0 then 1 else 0

theorem otherWord_ne (w : UInt32) : w ≠ otherWord w := by
  unfold otherWord
  split
  · next zero => rw [zero]; decide
  · next other => exact other

def flip (o : Occasion) : Occasion :=
  o.leaving
    { head := { o.session.outPacket.head with
        appId := otherWord o.session.outPacket.head.appId
        capiError := otherWord o.session.outPacket.head.capiError }
      rest := flipped o.session.outPacket.rest }
    (flipped (o.env.stack o.number))

theorem flip_alike (o : Occasion) (m : Memory) : o.Alike o.flip m := o.leaving_alike m _ _

/-- Every occasion that is alike sends the same. -/
def Determined (o : Occasion) (m : Memory) : Prop := ∀ o', o.Alike o' m → o.sent m = o'.sent m

theorem answer_handled (run : selected o.env m = some (type, handler))
    (alone : (handler o.env o.number o.session m).listener = none) :
    o.answer m = (handler o.env o.number o.session m).answer := by
  simp only [answer, run, alone]

theorem answer_register (run : selected o.env m = some (.capiRegister, handler))
    (returned : o.result m .capiRegister = some reply) :
    o.answer m = some ⟨o.composed m .capiRegister
      (reply.applID.getD o.session.outPacket.head.appId) reply.code perrorNone,
      o.session.outPacket.rest⟩ := by
  obtain ⟨-, found, -⟩ := selected_some run
  cases found
  cases returned
  exact answer_handled run rfl

theorem answer_release (run : selected o.env m = some (.capiRelease, handler))
    (returned : o.result m .capiRelease = some reply) :
    o.answer m = some ⟨o.composed m .capiRelease (LinuxServer.request o.env m).appId reply.code
      perrorNone, o.session.outPacket.rest⟩ := by
  obtain ⟨-, found, -⟩ := selected_some run
  cases found
  cases returned
  exact answer_handled run rfl

theorem answer_put (run : selected o.env m = some (.capiPutmessage, handler)) :
    o.answer m = some ⟨o.composed m .capiPutmessage (LinuxServer.request o.env m).appId
      (match o.result m .capiPutmessage with
        | some reply => reply.code
        | none => o.session.outPacket.head.capiError)
      (match o.result m .capiPutmessage with
        | some _ => perrorNone
        | none => perrorParseError), o.session.outPacket.rest⟩ := by
  obtain ⟨-, found, -⟩ := selected_some run
  cases found
  cases accepted : acceptPut m (advance (LinuxServer.requestBody o.env m)
      (LinuxServer.request o.env m).bodyLen) (LinuxServer.request o.env m).dataLen with
  | none =>
    rw [answer_handled run (by simp only [execCapiPutmessage, accepted, send])]
    simp only [execCapiPutmessage, result, call, accepted, send, Option.map_none, composed]
    rfl
  | some memory =>
    rw [answer_handled run (by simp only [execCapiPutmessage, accepted, send])]
    simp only [execCapiPutmessage, result, call, accepted, send, Option.map_some, composed]
    rfl

theorem answer_get (run : selected o.env m = some (.capiGetmessage, handler))
    (returned : o.result m .capiGetmessage = some reply) :
    let answer := copyMessage 0 reply ⟨o.composed m .capiGetmessage
      (LinuxServer.request o.env m).appId reply.code perrorNone, o.session.outPacket.rest⟩
    o.answer m = some { answer with
      head.messageLen := answer.head.headerLen + answer.head.bodyLen + answer.head.dataLen } := by
  obtain ⟨-, found, -⟩ := selected_some run
  cases found
  cases returned
  exact answer_handled run rfl

/-- The handlers that let the CAPI write the body. -/
def fills : MessageType → Option Bool
  | .capiManufacturer | .capiSerial => some false
  | .capiProfile | .capiInstalled => some true
  | _ => none

theorem answer_fill (run : selected o.env m = some (type, handler)) (fill : fills type = some reports)
    (returned : o.result m type = some reply) :
    o.answer m = some ⟨o.composed m type (LinuxServer.request o.env m).appId
      (if reports then reply.code else 0) perrorNone,
      o.session.outPacket.rest.write 0 reply.output⟩ := by
  obtain ⟨-, found, -⟩ := selected_some run
  cases type <;> cases fill <;> cases found <;> cases returned <;> exact answer_handled run rfl

theorem answer_version (run : selected o.env m = some (.capiVersion, handler))
    (returned : o.result m .capiVersion = some reply) :
    let word i := ((o.env.stack o.number).write 0 reply.output).word32 (4 * i)
    o.answer m = some ⟨o.composed m .capiVersion (LinuxServer.request o.env m).appId 0 perrorNone,
      o.session.outPacket.rest.write 0 (words [word 2, word 3, word 0, word 1])⟩ := by
  obtain ⟨-, found, -⟩ := selected_some run
  cases found
  cases returned
  exact answer_handled run rfl

theorem answer_helo (run : selected o.env m = some (.proxyHelo, handler)) :
    o.answer m = some ⟨o.composed m .proxyHelo 0 0 perrorAuthRequired,
      (o.session.outPacket.rest.write 0 serverName).write 64
        (words [osTypeLinux, localVersion.major, localVersion.minor, authNoAuth])⟩ := by
  obtain ⟨-, found, -⟩ := selected_some run
  cases found
  exact answer_handled run rfl

theorem answer_auth (run : selected o.env m = some (.proxyAuth, handler)) :
    let proxyError := checkAuth o.env (m.word32 (LinuxServer.requestBody o.env m))
    o.answer m = some ⟨{ o.composed m .proxyAuth 0 0 proxyError with
      sessionId := if stdAuthRequired && proxyError != perrorNone then 0 else o.env.sessionID },
      o.session.outPacket.rest⟩ := by
  obtain ⟨-, found, -⟩ := selected_some run
  cases found
  exact answer_handled run rfl

theorem answer_wait (run : selected o.env m = some (.capiWaitforsignal, handler))
    (returned : o.result m .capiWaitforsignal = some reply) :
    o.answer m = some ⟨o.composed m .capiWaitforsignal (LinuxServer.request o.env m).appId
      (if o.env.fork o.number then reply.code else 0x1108)
      (if o.env.fork o.number then perrorNone else perrorNoRessources),
      o.session.outPacket.rest⟩ := by
  obtain ⟨-, found, -⟩ := selected_some run
  cases found
  cases forked : o.env.fork o.number with
  | true =>
    simp only [answer, run, execCapiWaitforsignal, forked, if_true, returned, Option.map_some]
    rfl
  | false =>
    rw [answer_handled run (by simp [execCapiWaitforsignal, forked, send])]
    simp only [execCapiWaitforsignal, forked, Bool.false_eq_true, if_false, send]
    rfl

theorem Alike.refl (o : Occasion) (m : Memory) : o.Alike o m := ⟨rfl, rfl, rfl, rfl, fun _ _ _ => rfl⟩

theorem Alike.runs (alike : o.Alike o' m) (run : LinuxServer.selected o.env m = some (type, handler)) :
    LinuxServer.selected o'.env m = some (type, handler) := alike.selected ▸ run

theorem Alike.returns (alike : o.Alike o' m)
    (run : LinuxServer.selected o.env m = some (type, handler))
    (returned : o.result m type = some reply) : o'.result m type = some reply :=
  (alike.result type handler run).symm.trans returned

theorem determined_iff (a : Occasion → AnswerBuffer) (n : Occasion → Nat)
    (answers : ∀ o', o.Alike o' m → o'.answer m = some (a o'))
    (announced : ∀ o', o.Alike o' m → (a o').head.messageLen.toNat = sizeofAnswerHeader + n o') :
    o.Determined m ↔
      ∀ o', o.Alike o' m → (a o).head = (a o').head ∧ ∀ i < n o, (a o).rest i = (a o').rest i := by
  refine forall_congr' fun o' => forall_congr' fun alike => ?_
  exact sent_eq_iff (answers o (.refl o m)) (answers o' alike) (announced o (.refl o m))
    (announced o' alike)

theorem determined_bare_iff (h : Occasion → AnswerHeader)
    (answers : ∀ o', o.Alike o' m → o'.answer m = some ⟨h o', o'.session.outPacket.rest⟩)
    (announced : ∀ o', (h o').messageLen.toNat = sizeofAnswerHeader) :
    o.Determined m ↔ ∀ o', o.Alike o' m → h o = h o' := by
  rw [determined_iff _ (fun _ => 0) answers fun o' _ => announced o']
  refine forall_congr' fun o' => forall_congr' fun _ => and_iff_left fun i inside => ?_
  exact absurd inside (Nat.not_lt_zero i)

/-- A register call that stores no id leaves the one of an earlier answer. -/
theorem register_iff (run : selected o.env m = some (.capiRegister, handler)) :
    o.Determined m ↔ Overwrites .capiRegister (o.result m .capiRegister) := by
  obtain ⟨reply, returned⟩ : ∃ reply, o.result m .capiRegister = some reply := ⟨_, rfl⟩
  rw [determined_bare_iff _ (fun o' alike => answer_register (alike.runs run) (alike.returns run returned))
    fun o' => o'.composed_messageLen m _ _ _ _, returned]
  cases stored : reply.applID with
  | none =>
    refine iff_of_false (fun same => ?_) fun written => ?_
    · exact otherWord_ne _ (congrArg AnswerHeader.appId (same o.flip (o.flip_alike m)))
    · exact absurd (written reply rfl) (by rw [stored]; decide)
  | some app =>
    refine iff_of_true (fun o' alike => alike.composed _ _ _ _) fun r here => ?_
    obtain rfl := Option.some.inj here
    rw [stored]
    rfl

/-- A refused message is answered with the error code of an earlier answer. -/
theorem put_iff (run : selected o.env m = some (.capiPutmessage, handler)) :
    o.Determined m ↔ Overwrites .capiPutmessage (o.result m .capiPutmessage) := by
  rw [determined_bare_iff _ (fun o' alike => answer_put (alike.runs run))
    fun o' => o'.composed_messageLen m _ _ _ _, Overwrites]
  have results (o' : Occasion) (alike : o.Alike o' m) :
      o.result m .capiPutmessage = o'.result m .capiPutmessage := alike.result _ _ run
  cases returned : o.result m .capiPutmessage with
  | none =>
    refine iff_of_false (fun same => ?_) (by decide)
    have heads := same o.flip (o.flip_alike m)
    rw [← results o.flip (o.flip_alike m), returned] at heads
    exact otherWord_ne _ (congrArg AnswerHeader.capiError heads)
  | some reply =>
    refine iff_of_true (fun o' alike => ?_) rfl
    rw [← results o' alike, returned, ← alike.request]
    exact alike.composed _ _ _ _

/-- The answers whose body the CAPI writes: what it does not write is sent as it was. -/
theorem fill_iff (run : selected o.env m = some (type, handler)) (fill : fills type = some reports) :
    o.Determined m ↔ ∀ r ∈ o.result m type, type.sizeofAnswer .gnuC ≤ r.output.length := by
  obtain ⟨reply, returned⟩ : ∃ reply, o.result m type = some reply := by
    cases type <;> cases fill <;> exact ⟨_, rfl⟩
  rw [determined_iff _ (fun _ => type.sizeofAnswer .gnuC)
    (fun o' alike => answer_fill (alike.runs run) fill (alike.returns run returned))
    fun o' _ => o'.composed_messageLen m _ _ _ _, returned]
  simp only [Option.mem_def, Option.some.injEq, forall_eq']
  constructor
  · intro same
    by_contra short
    have byte := (same o.flip (o.flip_alike m)).2 reply.output.length (Nat.lt_of_not_le short)
    rw [Memory.write_outside _ _ _ _ (.inr (Nat.zero_add _).le),
      Memory.write_outside _ _ _ _ (.inr (Nat.zero_add _).le)] at byte
    exact flipped_ne _ _ byte
  · intro enough o' alike
    refine ⟨?_, fun i inside => ?_⟩
    · rw [← alike.request]
      exact alike.composed _ _ _ _
    · have within : i < reply.output.length := Nat.lt_of_lt_of_le inside enough
      rw [← Nat.zero_add i, Memory.write_inside _ _ _ _ within, Memory.write_inside _ _ _ _ within]

/-- The bytes behind the name are never written. -/
theorem helo_iff (run : selected o.env m = some (.proxyHelo, handler)) : ¬ o.Determined m := by
  rw [determined_iff _ (fun _ => 84) (fun o' alike => answer_helo (alike.runs run))
    fun o' _ => o'.composed_messageLen m _ _ _ _]
  intro same
  have byte := (same o.flip (o.flip_alike m)).2 80 (by decide)
  dsimp only at byte
  have name : 0 + serverName.length ≤ 80 := by rw [length_serverName]; decide
  rw [Memory.write_outside _ _ _ _ (.inr (by decide)), Memory.write_outside _ _ _ _ (.inr name),
    Memory.write_outside _ _ _ _ (.inr (by decide)), Memory.write_outside _ _ _ _ (.inr name)] at byte
  exact flipped_ne _ _ byte

theorem release_determined (run : selected o.env m = some (.capiRelease, handler)) :
    o.Determined m := by
  obtain ⟨reply, returned⟩ : ∃ reply, o.result m .capiRelease = some reply := ⟨_, rfl⟩
  rw [determined_bare_iff _ (fun o' alike => answer_release (alike.runs run) (alike.returns run returned))
    fun o' => o'.composed_messageLen m _ _ _ _]
  intro o' alike
  rw [← alike.request]
  exact alike.composed _ _ _ _

theorem wait_determined (run : selected o.env m = some (.capiWaitforsignal, handler)) :
    o.Determined m := by
  obtain ⟨reply, returned⟩ : ∃ reply, o.result m .capiWaitforsignal = some reply := ⟨_, rfl⟩
  rw [determined_bare_iff _ (fun o' alike => answer_wait (alike.runs run) (alike.returns run returned))
    fun o' => o'.composed_messageLen m _ _ _ _]
  intro o' alike
  rw [← alike.request, ← alike.fork]
  exact alike.composed _ _ _ _

theorem auth_determined (run : selected o.env m = some (.proxyAuth, handler)) : o.Determined m := by
  rw [determined_bare_iff _ (fun o' alike => answer_auth (alike.runs run)) fun _ => rfl]
  intro o' alike
  have address : ipAuth o.env = ipAuth o'.env := by rw [ipAuth, ipAuth, alike.address]
  have verdict : checkAuth o.env = checkAuth o'.env := by
    funext authType
    rw [checkAuth, checkAuth, address]
  rw [← alike.requestBody, ← verdict, ← alike.sessionID, alike.composed]

def versionWords (buffer : Memory) : List UInt32 :=
  [buffer.word32 (4 * 2), buffer.word32 (4 * 3), buffer.word32 (4 * 0), buffer.word32 (4 * 1)]

theorem versionWords_bytes {rest rest' b b' : Memory} (same : ∀ i < 16,
    (rest.write 0 (words (versionWords b))) i = (rest'.write 0 (words (versionWords b'))) i) :
    ∀ i < 16, b i = b' i := by
  have length (buffer : Memory) : (words (versionWords buffer)).length = 16 := by
    rw [length_words, versionWords]
    rfl
  have first := Memory.read_write rest 0 (words (versionWords b))
  have second := Memory.read_write rest' 0 (words (versionWords b'))
  rw [length] at first second
  have bytes : words (versionWords b) = words (versionWords b') := by
    rw [← first, ← second]
    refine Memory.read_congr fun i inside => ?_
    rw [Nat.zero_add]
    exact same i inside
  have numbers := words_inj bytes
  simp only [versionWords, List.cons.injEq, and_true] at numbers
  obtain ⟨third, fourth, first, second⟩ := numbers
  have word (j : Nat) (inside : j < 4) : b.word32 (4 * j) = b'.word32 (4 * j) := by
    match j, inside with
    | 0, _ => exact first
    | 1, _ => exact second
    | 2, _ => exact third
    | 3, _ => exact fourth
  intro i inside
  have byte := Memory.word32_byte (word (i / 4) (by omega)) (show i % 4 < 4 by omega)
  rwa [Nat.div_add_mod] at byte

theorem version_iff (run : selected o.env m = some (.capiVersion, handler)) :
    o.Determined m ↔ Overwrites .capiVersion (o.result m .capiVersion) := by
  obtain ⟨reply, returned⟩ : ∃ reply, o.result m .capiVersion = some reply := ⟨_, rfl⟩
  rw [determined_iff _ (fun _ => 16)
    (fun o' alike => answer_version (alike.runs run) (alike.returns run returned))
    fun o' _ => o'.composed_messageLen m _ _ _ _, returned, Overwrites]
  simp only [Option.mem_def, Option.some.injEq, forall_eq']
  constructor
  · intro same
    by_contra short
    have short : reply.output.length < 16 := Nat.lt_of_not_le short
    have byte := versionWords_bytes (same o.flip (o.flip_alike m)).2 reply.output.length short
    rw [Memory.write_outside _ _ _ _ (.inr (Nat.zero_add _).le),
      Memory.write_outside _ _ _ _ (.inr (Nat.zero_add _).le)] at byte
    exact flipped_ne _ _ byte
  · intro enough o' alike
    have enough : 16 ≤ reply.output.length := enough
    have word (j : Nat) (inside : j < 4) :
        ((o.env.stack o.number).write 0 reply.output).word32 (4 * j) =
          ((o'.env.stack o'.number).write 0 reply.output).word32 (4 * j) := by
      refine Memory.word32_congr fun i within => ?_
      rw [← Nat.zero_add (4 * j + i), Memory.write_inside _ _ _ _ (by omega),
        Memory.write_inside _ _ _ _ (by omega)]
    refine ⟨?_, fun i inside => ?_⟩
    · rw [← alike.request]
      exact alike.composed _ _ _ _
    · rw [word 2 (by decide), word 3 (by decide), word 0 (by decide), word 1 (by decide),
        ← Nat.zero_add i, Memory.write_inside _ _ _ _ (by simpa using inside),
        Memory.write_inside _ _ _ _ (by simpa using inside)]

theorem Telling.same (telling : Telling reply) (rest rest' : Memory) :
    isDataB3Ind (copiedPart 0 reply rest) 0 = isDataB3Ind (copiedPart 0 reply rest') 0 := by
  rcases telling with long | ⟨five, other⟩
  · rw [copiedPart_isDataB3Ind 0 reply rest long, copiedPart_isDataB3Ind 0 reply rest' long]
  · have first (r : Memory) : (capiCmd1 (copiedPart 0 reply r) 0 == 0x86) = false := by
      rw [capiCmd1, copiedPart_byte 0 reply r (by omega)]
      exact beq_false_of_ne other
    rw [isDataB3Ind, isDataB3Ind, first, first, Bool.false_and, Bool.false_and]

theorem not_telling (short : ¬ Telling reply) (data : Bool) :
    ∃ rest, isDataB3Ind (copiedPart 0 reply rest) 0 = data := by
  obtain ⟨below, command⟩ := not_or.mp short
  have second (rest : Memory) : capiCmd2 (copiedPart 0 reply rest) 0 = rest 5 :=
    copiedPart_behind 0 reply rest (by omega)
  cases data with
  | false =>
    refine ⟨zeros, ?_⟩
    rw [isDataB3Ind, second]
    exact Bool.and_false _
  | true =>
    refine ⟨fun i => if i = 4 then 0x86 else 0x82, ?_⟩
    have first : capiCmd1 (copiedPart 0 reply fun i => if i = 4 then 0x86 else 0x82) 0 = 0x86 := by
      by_cases five : reply.memory.word16 reply.message = 5
      · rw [capiCmd1, copiedPart_byte 0 reply _ (by omega)]
        exact not_not.mp fun other => command ⟨five, other⟩
      · exact copiedPart_behind 0 reply _ (show reply.memory.word16 reply.message ≤ 4 by omega)
    rw [isDataB3Ind, second, first]
    rfl

theorem received_messageLen (o : Occasion) (m : Memory) (appId capiError : UInt32) (reply : CapiReply)
    (rest : Memory) :
    let answer := copyMessage 0 reply ⟨o.composed m .capiGetmessage appId capiError perrorNone, rest⟩
    (answer.head.headerLen + answer.head.bodyLen + answer.head.dataLen).toNat =
      sizeofAnswerHeader + answer.head.dataLen.toNat := by
  obtain ⟨dataLen, proxyError, small, head⟩ := copyMessage_head 0 reply
    ⟨o.composed m .capiGetmessage appId capiError perrorNone, rest⟩ rfl
  have header : (UInt32.ofNat 40).toNat = 40 := rfl
  have body : (UInt32.ofNat (MessageType.capiGetmessage.sizeofAnswer .gnuC)).toNat = 0 := rfl
  dsimp only
  rw [head]
  simp only [composed, compose, UInt32.toNat_add, header, body, sizeofAnswerHeader]
  omega

/-- A message too short for its command bytes is judged by what an earlier answer left there. -/
theorem get_iff (run : selected o.env m = some (.capiGetmessage, handler)) :
    o.Determined m ↔ Overwrites .capiGetmessage (o.result m .capiGetmessage) := by
  obtain ⟨reply, returned⟩ : ∃ reply, o.result m .capiGetmessage = some reply := ⟨_, rfl⟩
  rw [determined_iff _ _ (fun o' alike => answer_get (alike.runs run) (alike.returns run returned))
    fun o' _ => o'.received_messageLen m _ _ _ _, returned, Overwrites]
  simp only [Option.mem_def, Option.some.injEq, forall_eq']
  constructor
  · intro same success
    by_contra short
    obtain ⟨below, -⟩ := not_or.mp short
    obtain ⟨rest, other⟩ := not_telling short
      (!isDataB3Ind (copiedPart 0 reply o.session.outPacket.rest) 0)
    have heads := (same (o.leaving ⟨o.session.outPacket.head, rest⟩ zeros) (o.leaving_alike m _ _)).1
    have errors := congrArg AnswerHeader.proxyError heads
    dsimp only at errors
    rw [copyMessage_short _ _ _ success (by omega), copyMessage_short _ _ _ success (by omega)] at errors
    simp only [leaving, other] at errors
    cases data : isDataB3Ind (copiedPart 0 reply o.session.outPacket.rest) 0 with
    | false =>
      rw [data] at errors
      exact absurd (show perrorNone = perrorParseError from errors) (by decide)
    | true =>
      rw [data] at errors
      exact absurd (show perrorParseError = perrorNone from errors) (by decide)
  · intro telling o' alike
    obtain ⟨heads, bytes⟩ := @copyMessage_congr 0 reply
      ⟨o.composed m .capiGetmessage (LinuxServer.request o.env m).appId reply.code perrorNone,
        o.session.outPacket.rest⟩
      ⟨o'.composed m .capiGetmessage (LinuxServer.request o'.env m).appId reply.code perrorNone,
        o'.session.outPacket.rest⟩
      (by rw [← alike.request]; exact alike.composed _ _ _ _) rfl fun success =>
        (telling success).same _ _
    rw [heads]
    refine ⟨rfl, fun i inside => ?_⟩
    rw [← heads] at inside
    simpa only [Nat.zero_add] using bytes i inside

theorem handled_iff (run : selected o.env m = some (type, handler)) :
    o.Determined m ↔ Overwrites type (o.result m type) := by
  cases type with
  | capiRegister => exact register_iff run
  | capiRelease => exact iff_of_true (release_determined run) trivial
  | capiPutmessage => exact put_iff run
  | capiGetmessage => exact get_iff run
  | capiWaitforsignal => exact iff_of_true (wait_determined run) trivial
  | capiManufacturer => exact fill_iff run rfl
  | capiVersion => exact version_iff run
  | capiSerial => exact fill_iff run rfl
  | capiProfile => exact fill_iff run rfl
  | capiInstalled =>
    exact iff_of_true ((fill_iff run rfl).mpr fun r _ => Nat.zero_le r.output.length) trivial
  | proxyHelo => exact iff_of_false (helo_iff run) not_false
  | proxyAuth => exact iff_of_true (auth_determined run) trivial
  | proxyKeepalive => cases (selected_some run).2.1
  | proxyShutdown => cases (selected_some run).2.1

end Occasion

/-- The bytes sent for a packet do not depend on anything that happened before, exactly when the
handler that is selected for it overwrites what it sends. -/
theorem answers_determined_iff (o : Occasion) (m : Memory) :
    (∀ o', o.Alike o' m → o.sent m = o'.sent m) ↔
      ∀ type handler, selected o.env m = some (type, handler) →
        Occasion.Overwrites type (o.result m type) := by
  cases run : selected o.env m with
  | none =>
    refine iff_of_true (fun o' alike => ?_) nofun
    have run' := alike.selected.symm.trans run
    simp only [Occasion.sent, Occasion.answer, run, run']
  | some chosen =>
    obtain ⟨type, handler⟩ := chosen
    rw [show (∀ o', o.Alike o' m → o.sent m = o'.sent m) ↔ o.Determined m from Iff.rfl,
      Occasion.handled_iff run]
    constructor
    · intro written type' handler' same
      cases same
      exact written
    · intro written
      exact written type handler rfl

def Environment.profiled : Environment :=
  { Environment.loopback with
    capi := fun _ _ => ⟨0, none, 0, zeros, .replicate 64 7⟩ }

/-- A bare request of this type on the connection. -/
def ask (type : MessageType) : Memory :=
  zeros.write 0 (RequestHeader.bytes ⟨36, 36, 0, 0, 1, type.code, 0, 0, 3⟩)

theorem ask_selected {type : MessageType} (answered : type.isAnswered = true) :
    ∃ handler, selected .profiled (ask type) = some (type, handler) := by
  have header : request .profiled (ask type) = ⟨36, 36, 0, 0, 1, type.code, 0, 0, 3⟩ :=
    RequestHeader.parse_of_holds (Holds.write zeros 0 _)
  exact selected_answered (by rw [header]; exact MessageType.ofCode_code type) answered
    fun _ => by rw [header]; rfl

/-- The session of the sample connection at once, and after a profile request. -/
def fresh : Occasion := ⟨.profiled, 0, Connection.sample.session⟩
def used : Occasion := ⟨.profiled, 1, (dispatch .profiled .sample (ask .capiProfile)).1.session⟩

theorem used_rest : used.session.outPacket.rest 40 = 7 := by
  obtain ⟨handler, run⟩ := ask_selected (show MessageType.capiProfile.isAnswered = true from rfl)
  obtain ⟨-, found, -⟩ := selected_some run
  cases found
  rw [used, dispatch_some run]
  rfl

/-- The HELO answer behind a profile request carries bytes of the profile. -/
theorem helo_tells_profile :
    fresh.Alike used (ask .proxyHelo) ∧ fresh.sent (ask .proxyHelo) ≠ used.sent (ask .proxyHelo) := by
  obtain ⟨handler, run⟩ := ask_selected (show MessageType.proxyHelo.isAnswered = true from rfl)
  have run' : selected used.env (ask .proxyHelo) = some (.proxyHelo, handler) := run
  refine ⟨⟨rfl, rfl, rfl, rfl, fun type _ _ => by cases type <;> rfl⟩, fun same => ?_⟩
  have length (o : Occasion) := o.composed_messageLen (ask .proxyHelo) .proxyHelo 0 0 perrorAuthRequired
  have byte := ((Occasion.sent_eq_iff (Occasion.answer_helo run) (Occasion.answer_helo run')
    (length fresh) (length used)).mp same).2 40 (by decide)
  have name : 0 + serverName.length ≤ 40 := by rw [length_serverName]; decide
  dsimp only at byte
  rw [Memory.write_outside _ _ _ _ (.inl (by decide)), Memory.write_outside _ _ _ _ (.inr name),
    Memory.write_outside _ _ _ _ (.inl (by decide)), Memory.write_outside _ _ _ _ (.inr name),
    used_rest] at byte
  exact absurd byte (by decide)

end CapiProxy.LinuxServer
