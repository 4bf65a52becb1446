import CapiProxy.LinuxServer.Main
import CapiProxy.Win32Server.StartSession

/-! What `exec_capi_putmessage` accepts. The two servers have a copy of it each, and both decide by the
data of the request alone. Both read the application id when the payload address is stored, which may lie
in the header. -/
namespace CapiProxy.Integration
open Bytes

/-- The message that is handed to the CAPI at `msg` is the data as it was received, but for the payload
address of a data message, which is that of the bytes behind the message. -/
structure Handed (m m' : Memory) (msg length : Nat) : Prop where
  kept : ∀ q, (isDataB3Req m msg = true → q < msg + 12 ∨ msg + 16 ≤ q) → m' q = m q
  pointer : isDataB3Req m msg = true →
    (m'.word32 (msg + 12)).toNat = msg + m.word16 msg ∧
      msg + m.word16 msg + m.word16 (msg + 16) ≤ msg + length

theorem Handed.of_format (format : PutFormat m msg length) (fits : msg + length < 2 ^ 32) :
    Handed m (repoint m msg (isDataB3Req m msg)) msg length := by
  cases data : isDataB3Req m msg with
  | false => exact ⟨fun q _ => rfl, fun absurd => by rw [data] at absurd; cases absurd⟩
  | true =>
    obtain ⟨fields, whole⟩ := format.data data
    refine ⟨fun q outside => setPointer_outside _ _ _ _ (outside data), fun _ => ⟨?_, by omega⟩⟩
    exact setPointer_pointer _ _ _ (by have := format.message; omega)

/-- What the handler makes of data of `length` bytes at `msg` for the application: a CAPI call, or none
and an answer that says so. -/
structure Validates (m : Memory) (app : UInt32) (msg length : Nat) (before after : List CapiEvent)
    (m' : Memory) (answer : Option AnswerBuffer) : Prop where
  calls : after ≠ before ↔ PutFormat m msg length
  accepted : PutFormat m msg length → ∃ reply, after = before ++ [(.putMessage app msg m', reply)] ∧
    Handed m m' msg length
  refused : ¬ PutFormat m msg length → after = before ∧ m' = m ∧
    ∃ a, answer = some a ∧ a.head.proxyError = perrorParseError

/-- The application id of the header at `rheader` keeps its bytes when the payload address of the message at
`msg` is stored: a byte that lies under the address is the one that the address has there. -/
def SparesId (m : Memory) (rheader msg : Nat) : Prop :=
  ∀ i < 4, ∀ j < 4, rheader + 24 + i = msg + 12 + j →
    (bytes32 (.ofNat (msg + m.word16 msg)))[j]? = some (m (rheader + 24 + i))

instance (m : Memory) (rheader msg : Nat) : Decidable (SparesId m rheader msg) := by
  unfold SparesId
  infer_instance

theorem repoint_appId_iff (m : Memory) (rheader msg : Nat) :
    (RequestHeader.parse (repoint m msg (isDataB3Req m msg)) rheader).appId =
        (RequestHeader.parse m rheader).appId ↔
      (isDataB3Req m msg = true → SparesId m rheader msg) := by
  cases isDataB3Req m msg with
  | false => exact iff_of_true rfl nofun
  | true =>
    have word := m.word32_write_iff (rheader + 24) (msg + 12) (bytes32 (.ofNat (msg + m.word16 msg)))
    rw [length_bytes32] at word
    exact word.trans ⟨fun same _ => same, fun same => same rfl⟩

/-- A message that is handed over is handed over for the application that the CAPI is told of. -/
theorem validates_accepted_iff (format : PutFormat m msg length) (handed : Handed m m' msg length)
    (called : UInt32) (reply : CapiReply) (answer : Option AnswerBuffer) :
    Validates m app msg length before (before ++ [(.putMessage called msg m', reply)]) m' answer ↔
      called = app := by
  constructor
  · intro validates
    obtain ⟨reply', after, -⟩ := validates.accepted format
    have event := List.singleton_inj.mp (List.append_cancel_left after)
    injection event with call
    injection call
  · rintro rfl
    exact ⟨iff_of_true (by simp) format, fun _ => ⟨reply, rfl, handed⟩, fun other => absurd format other⟩

theorem Validates.of_refused (other : ¬ PutFormat m msg length) (a : AnswerBuffer)
    (reported : a.head.proxyError = perrorParseError) :
    Validates m app msg length before before m (some a) where
  calls := iff_of_false (not_not.mpr rfl) other
  accepted format := absurd format other
  refused _ := ⟨rfl, rfl, a, rfl, reported⟩

theorem win32_validates_iff (env : Win32Server.Environment) (n : Nat) (p : Win32Server.Pointers)
    (s : Win32Server.State) (fits : p.rdata + (s.request p).dataLen.toNat < 2 ^ 32) :
    let effect := Win32Server.execCapiPutmessage env n p s
    Validates s.memory (s.request p).appId p.rdata (s.request p).dataLen.toNat s.history
      effect.state.history effect.state.memory effect.answer ↔
    (PutFormat s.memory p.rdata (s.request p).dataLen.toNat → isDataB3Req s.memory p.rdata = true →
      SparesId s.memory p.rheader p.rdata) := by
  cases accepted : acceptPut s.memory p.rdata (s.request p).dataLen with
  | none =>
    have other := acceptPut_none_iff.mp accepted
    simp only [Win32Server.execCapiPutmessage, accepted]
    exact iff_of_true (.of_refused other _ rfl) fun format => absurd format other
  | some memory =>
    obtain ⟨format, rfl⟩ := acceptPut_iff.mp accepted
    simp only [Win32Server.execCapiPutmessage, accepted]
    refine (validates_accepted_iff format (.of_format format fits) _ _ _).trans ?_
    rw [forall_prop_of_true format]
    exact repoint_appId_iff s.memory p.rheader p.rdata

theorem linux_validates_iff (env : LinuxServer.Environment) (n : Nat) (s : LinuxServer.Session) (m : Memory)
    (fits : LinuxServer.requestData env m + (LinuxServer.request env m).dataLen.toNat < 2 ^ 32) :
    let effect := LinuxServer.execCapiPutmessage env n s m
    Validates m (LinuxServer.request env m).appId (LinuxServer.requestData env m)
      (LinuxServer.request env m).dataLen.toNat s.history effect.session.history effect.memory effect.answer ↔
    (PutFormat m (LinuxServer.requestData env m) (LinuxServer.request env m).dataLen.toNat →
      isDataB3Req m (LinuxServer.requestData env m) = true →
        SparesId m env.inPacket (LinuxServer.requestData env m)) := by
  cases accepted : acceptPut m (LinuxServer.requestData env m) (LinuxServer.request env m).dataLen with
  | none =>
    have other := acceptPut_none_iff.mp accepted
    simp only [LinuxServer.execCapiPutmessage, ← LinuxServer.requestData.eq_1, accepted]
    exact iff_of_true (.of_refused other _ rfl) fun format => absurd format other
  | some memory =>
    obtain ⟨format, rfl⟩ := acceptPut_iff.mp accepted
    simp only [LinuxServer.execCapiPutmessage, ← LinuxServer.requestData.eq_1, accepted]
    refine (validates_accepted_iff format (.of_format format fits) _ _ _).trans ?_
    rw [forall_prop_of_true format]
    exact repoint_appId_iff m env.inPacket (LinuxServer.requestData env m)

theorem win32_calls_iff (env : Win32Server.Environment) (n : Nat) (p : Win32Server.Pointers)
    (s : Win32Server.State) :
    (Win32Server.execCapiPutmessage env n p s).state.history ≠ s.history ↔
      PutFormat s.memory p.rdata (s.request p).dataLen.toNat := by
  cases accepted : acceptPut s.memory p.rdata (s.request p).dataLen with
  | none =>
    simp only [Win32Server.execCapiPutmessage, accepted]
    exact iff_of_false (not_not.mpr rfl) (acceptPut_none_iff.mp accepted)
  | some memory =>
    rw [Win32Server.execCapiPutmessage_accepted env n accepted]
    exact iff_of_true (by simp) (acceptPut_iff.mp accepted).1

theorem linux_calls_iff (env : LinuxServer.Environment) (n : Nat) (s : LinuxServer.Session) (m : Memory) :
    (LinuxServer.execCapiPutmessage env n s m).session.history ≠ s.history ↔
      PutFormat m (LinuxServer.requestData env m) (LinuxServer.request env m).dataLen.toNat := by
  cases accepted : acceptPut m (LinuxServer.requestData env m) (LinuxServer.request env m).dataLen with
  | none =>
    simp only [LinuxServer.execCapiPutmessage, ← LinuxServer.requestData.eq_1, accepted]
    exact iff_of_false (not_not.mpr rfl) (acceptPut_none_iff.mp accepted)
  | some memory =>
    rw [LinuxServer.execCapiPutmessage_accepted n s rfl accepted]
    exact iff_of_true (by simp) (acceptPut_iff.mp accepted).1

/-- Either server validates a request as it should exactly when the payload address that it stores leaves the
application id of the header alone, and both decide alike for the same data. -/
theorem put_validated_iff (env : Win32Server.Environment) (n : Nat) (p : Win32Server.Pointers)
    (s : Win32Server.State) (env' : LinuxServer.Environment) (n' : Nat) (s' : LinuxServer.Session) (m : Memory)
    (fits : p.rdata + (s.request p).dataLen.toNat < 2 ^ 32)
    (fits' : LinuxServer.requestData env' m + (LinuxServer.request env' m).dataLen.toNat < 2 ^ 32) :
    let effect := Win32Server.execCapiPutmessage env n p s
    let effect' := LinuxServer.execCapiPutmessage env' n' s' m
    (Validates s.memory (s.request p).appId p.rdata (s.request p).dataLen.toNat s.history
        effect.state.history effect.state.memory effect.answer ↔
      (PutFormat s.memory p.rdata (s.request p).dataLen.toNat → isDataB3Req s.memory p.rdata = true →
        SparesId s.memory p.rheader p.rdata)) ∧
    (Validates m (LinuxServer.request env' m).appId (LinuxServer.requestData env' m)
        (LinuxServer.request env' m).dataLen.toNat s'.history effect'.session.history effect'.memory
        effect'.answer ↔
      (PutFormat m (LinuxServer.requestData env' m) (LinuxServer.request env' m).dataLen.toNat →
        isDataB3Req m (LinuxServer.requestData env' m) = true →
          SparesId m env'.inPacket (LinuxServer.requestData env' m))) ∧
    ((LinuxServer.request env' m).dataLen = (s.request p).dataLen →
      (∀ i < (s.request p).dataLen.toNat, m (LinuxServer.requestData env' m + i) = s.memory (p.rdata + i)) →
      (effect.state.history ≠ s.history ↔ effect'.session.history ≠ s'.history)) := by
  refine ⟨win32_validates_iff env n p s fits, linux_validates_iff env' n' s' m fits', fun length same => ?_⟩
  have linux := linux_calls_iff env' n' s' m
  rw [length] at linux
  exact (win32_calls_iff env n p s).trans
    (Iff.trans ⟨.congr same, .congr fun i inside => (same i inside).symm⟩ linux.symm)

def dataRequest : List UInt8 :=
  RequestHeader.bytes ⟨59, 36, 1, 22, 1, MessageType.capiPutmessage.code, 1, 0, 3⟩ ++ [0] ++
    [18, 0, 1, 0, 0x86, 0x80, 1, 0, 1, 1, 1, 0, 0, 0, 0, 0, 4, 0] ++ [10, 20, 30, 40]

def dataPacket : Memory := zeros.write 0 dataRequest

def holding (packet : Memory) : Win32Server.State :=
  { Win32Server.Connection.sample.state with memory := packet }

theorem dataRequest_validated :
    (∃ reply, (Win32Server.execCapiPutmessage .sample 0 (Win32Server.pointers .sample dataPacket)
        (holding dataPacket)).state.history = [(.putMessage 1 37 (setPointer dataPacket 37 18), reply)]) ∧
      Validates dataPacket 1 37 22 []
        (LinuxServer.execCapiPutmessage .loopback 0 LinuxServer.Connection.sample.session
          dataPacket).session.history
        (LinuxServer.execCapiPutmessage .loopback 0 LinuxServer.Connection.sample.session dataPacket).memory
        (LinuxServer.execCapiPutmessage .loopback 0 LinuxServer.Connection.sample.session dataPacket).answer := by
  have spares : SparesId dataPacket 0 37 := by decide
  have format : PutFormat dataPacket 37 22 := ⟨by decide, by decide, fun _ => by decide⟩
  obtain ⟨win32, linux, -⟩ := put_validated_iff .sample 0 (Win32Server.pointers .sample dataPacket)
    (holding dataPacket) .loopback 0 LinuxServer.Connection.sample.session dataPacket (by decide) (by decide)
  obtain ⟨reply, once, -⟩ := (win32.mpr fun _ _ => spares).accepted format
  exact ⟨⟨reply, once⟩, linux.mpr fun _ _ => spares⟩

/-- A request for application 1 whose data lie in its own header: the message begins with the data length, 18,
and its command is the message id. -/
def insideHeader (headerLen bodyLen messageLen : UInt32) : RequestHeader :=
  ⟨messageLen, headerLen, bodyLen, 18, 0x8086, MessageType.capiPutmessage.code, 1, 0, 3⟩

/-- As the Win32 server accepts it, with the length of the body counting backwards. -/
def win32Inside : Memory := zeros.write 0 (insideHeader 36 0xFFFFFFE8 30).bytes

/-- As the Linux server takes it, with one byte behind the header. -/
def linuxInside : Memory := zeros.write 0 (insideHeader 12 0 37).bytes

/-- The CAPI is called for application 30, which is the address of the payload. -/
theorem insideHeader_not_validated :
    Win32Server.verifyRequest win32Inside 0 = true ∧
    ¬ (let effect := Win32Server.execCapiPutmessage .sample 0 (Win32Server.pointers .sample win32Inside)
        (holding win32Inside)
      Validates win32Inside 1 12 18 [] effect.state.history effect.state.memory effect.answer) ∧
    ¬ (let effect := LinuxServer.execCapiPutmessage .loopback 0 LinuxServer.Connection.sample.session linuxInside
      Validates linuxInside 1 12 18 [] effect.session.history effect.memory effect.answer) := by
  have win32 := win32_validates_iff .sample 0 (Win32Server.pointers .sample win32Inside)
    (holding win32Inside) (by decide)
  have linux := linux_validates_iff .loopback 0 LinuxServer.Connection.sample.session linuxInside (by decide)
  have format : PutFormat win32Inside 12 18 := ⟨by decide, by decide, fun _ => by decide⟩
  have format' : PutFormat linuxInside 12 18 := ⟨by decide, by decide, fun _ => by decide⟩
  refine ⟨by decide, fun validates => ?_, fun validates => ?_⟩
  · exact absurd (win32.mp validates format (by decide)) (by decide)
  · exact absurd (linux.mp validates format' (by decide)) (by decide)

end CapiProxy.Integration
