import CapiProxy.LinuxServer.Main
import CapiProxy.Win32Client.PutMessage
import CapiProxy.Win32Server.StartSession

/-! The put path. The request the client builds for a message is taken apart by either server,
which hands the message to its CAPI with the payload address rewritten. -/
namespace CapiProxy.Integration
open Bytes Win32Client

/-- A server went from `before` to `after` by one CAPI call, which got the application's message
with the payload between `first` and `last`. -/
def PutOnce (applID : UInt32) (m : Memory) (data1 : Nat) (before after : List CapiEvent)
    (first last : Nat) : Prop :=
  ∃ message memory reply, after = before ++ [(.putMessage applID message memory, reply)] ∧
    Delivered m data1 (isDataB3Req m data1) memory message first last

theorem put_request_layout (holds : Holds memory a ((putHeader c applID length).bytes ++ 0 :: bytes)) :
    RequestHeader.parse memory a = putHeader c applID length ∧ Holds memory (a + 37) bytes := by
  refine ⟨RequestHeader.parse_of_holds holds.left, ?_⟩
  have behind := holds.right
  rw [RequestHeader.length_bytes] at behind
  have body : Holds memory (a + 36) ([0] ++ bytes) := behind
  exact body.right

theorem advance_put (c : Client) (applID : UInt32) (length : Nat) (fits : a + 37 < 2 ^ 32) :
    advance (advance a (putHeader c applID length).headerLen) (putHeader c applID length).bodyLen =
      a + 37 := by
  have header : (putHeader c applID length).headerLen.toNat = 36 := by rfl
  have body : (putHeader c applID length).bodyLen.toNat = 1 := by rfl
  have first := advance_of_fits (p := a) (n := (putHeader c applID length).headerLen)
    (by rw [header]; omega)
  rw [header] at first
  rw [first, advance_of_fits (by rw [body]; omega), body]

theorem acceptPut_delivered (holds : Holds memory msg (carried m data1 (isDataB3Req m data1)))
    (wf : WellFormed m data1 (isDataB3Req m data1))
    (fits : msg + (carried m data1 (isDataB3Req m data1)).length < 2 ^ 32) :
    ∃ memory', acceptPut memory msg (.ofNat (carried m data1 (isDataB3Req m data1)).length) =
        some memory' ∧
      Delivered m data1 (isDataB3Req m data1) memory' msg msg
        (msg + (carried m data1 (isDataB3Req m data1)).length) := by
  have announced : (UInt32.ofNat (carried m data1 (isDataB3Req m data1)).length).toNat =
      (carried m data1 (isDataB3Req m data1)).length := by
    rw [UInt32.toNat_ofNat', Nat.mod_eq_of_lt (by omega)]
  have inside : m.word16 data1 ≤ (carried m data1 (isDataB3Req m data1)).length := by
    rw [length_carried]; omega
  exact ⟨_, acceptPut_carried holds wf announced, repoint_delivered holds wf (by omega)⟩

theorem verifyRequest_put (parsed : RequestHeader.parse memory a = putHeader c applID length)
    (fits : sizeofRequestHeader + 1 + length ≤ msgBuffer) :
    Win32Server.verifyRequest memory a = true := by
  rw [Win32Server.verifyRequest_iff, parsed]
  have body : rbodysize (putHeader c applID length).messageType = 1 := by rfl
  refine ⟨Nat.le_refl 36, by rw [body]; exact UInt32.lt_irrefl 1, ?_, ?_⟩
  · simp only [putHeader, UInt32.toNat_ofNat']
    exact Nat.le_trans (Nat.mod_le _ _) fits
  · simp only [putHeader, UInt32.ofNat_add]
    rfl

theorem win32_puts (env : Win32Server.Environment) (n : Nat) (s : Win32Server.State)
    (holds : Holds s.memory env.requestBuffer ((putHeader c applID
      (carried m data1 (isDataB3Req m data1)).length).bytes ++ 0 :: carried m data1 (isDataB3Req m data1)))
    (wf : WellFormed m data1 (isDataB3Req m data1))
    (fits : sizeofRequestHeader + 1 + (carried m data1 (isDataB3Req m data1)).length ≤ msgBuffer) :
    PutOnce applID m data1 s.history
      (Win32Server.execCapiPutmessage env n (Win32Server.pointers env s.memory) s).state.history
      env.requestBuffer (env.requestBuffer + (37 + (carried m data1 (isDataB3Req m data1)).length)) := by
  have room := env.requestBuffer_fits
  simp only [sizeofRequestHeader, msgBuffer, Win32Server.msgSize] at fits room
  obtain ⟨parsed, copy⟩ := put_request_layout holds
  obtain ⟨memory', accepted, delivered⟩ := acceptPut_delivered copy wf (by omega)
  have rdata : (Win32Server.pointers env s.memory).rdata = env.requestBuffer + 37 := by
    simp only [Win32Server.pointers, Win32Server.header, parsed]
    exact advance_put c applID _ (by omega)
  have request : s.request (Win32Server.pointers env s.memory) = _ := parsed
  have again : { s with memory := memory' }.request (Win32Server.pointers env s.memory) = _ :=
    (acceptPut_header accepted (Nat.le_succ _)).trans parsed
  rw [← rdata] at accepted
  have called := Win32Server.execCapiPutmessage_accepted env n (by rw [request]; exact accepted)
  rw [again, rdata] at called
  exact ⟨_, _, _, called, delivered.widen (by omega) (by omega)⟩

theorem linux_puts (env : LinuxServer.Environment) (n : Nat) (s : LinuxServer.Session)
    (holds : Holds memory env.inPacket ((putHeader c applID
      (carried m data1 (isDataB3Req m data1)).length).bytes ++ 0 :: carried m data1 (isDataB3Req m data1)))
    (wf : WellFormed m data1 (isDataB3Req m data1))
    (fits : sizeofRequestHeader + 1 + (carried m data1 (isDataB3Req m data1)).length ≤ msgBuffer) :
    PutOnce applID m data1 s.history
      (LinuxServer.execCapiPutmessage env n s memory).session.history
      env.inPacket (env.inPacket + (37 + (carried m data1 (isDataB3Req m data1)).length)) := by
  have room := env.inPacket_fits
  simp only [sizeofRequestHeader, msgBuffer, LinuxServer.packetSize] at fits room
  obtain ⟨parsed, copy⟩ := put_request_layout holds
  obtain ⟨memory', accepted, delivered⟩ := acceptPut_delivered copy wf (by omega)
  have request : LinuxServer.request env memory = _ := parsed
  have msg : advance (LinuxServer.requestBody env memory) (LinuxServer.request env memory).bodyLen =
      env.inPacket + 37 := by
    rw [LinuxServer.requestBody, request]
    exact advance_put c applID _ (by omega)
  have again : LinuxServer.request env memory' = _ :=
    (acceptPut_header accepted (Nat.le_succ _)).trans parsed
  have called := LinuxServer.execCapiPutmessage_accepted n s msg (by rw [request]; exact accepted)
  rw [again] at called
  exact ⟨_, _, _, called, delivered.widen (by omega) (by omega)⟩

/-- A message put by an application of the client reaches the CAPI of either server once, for
that application and unchanged but for the payload address. -/
theorem put_message_delivered (c : Client) (applID : UInt32) (m : Memory) (data1 : Nat)
    (wf : WellFormed m data1 (isDataB3Req m data1))
    (fits : sizeofRequestHeader + 1 + (carried m data1 (isDataB3Req m data1)).length ≤ msgBuffer) :
    let frame := (putMessageRequest c applID m data1).frame
    (∀ (env : Win32Server.Environment) (n : Nat) (s : Win32Server.State),
      Holds s.memory env.requestBuffer frame →
      Win32Server.verifyRequest s.memory env.requestBuffer = true ∧
        PutOnce applID m data1 s.history
          (Win32Server.execCapiPutmessage env n (Win32Server.pointers env s.memory) s).state.history
          env.requestBuffer (env.requestBuffer + frame.length)) ∧
    (∀ (env : LinuxServer.Environment) (n : Nat) (s : LinuxServer.Session) (memory : Memory),
      Holds memory env.inPacket frame →
      PutOnce applID m data1 s.history
        (LinuxServer.execCapiPutmessage env n s memory).session.history
        env.inPacket (env.inPacket + frame.length)) := by
  intro frame
  have shape : frame = _ := putMessage_frame c applID m data1 fits
  have total : frame.length = 37 + (carried m data1 (isDataB3Req m data1)).length := by
    rw [shape, List.length_append, RequestHeader.length_bytes, List.length_cons]
    omega
  rw [total, shape]
  constructor
  · intro env n s holds
    exact ⟨verifyRequest_put (put_request_layout holds).1 fits, win32_puts env n s holds wf fits⟩
  · intro env n s memory holds
    exact linux_puts env n s holds wf fits

/-- A DATA_B3_REQ at address 100 with three bytes of voice data at address 200. -/
def voice : Memory :=
  (zeros.write 100 [18, 0, 1, 0, 0x86, 0x80, 0, 0, 0, 0, 0, 0, 200, 0, 0, 0, 3, 0]).write 200 [7, 8, 9]

def voiceClient : Client := ⟨0x10000, 4, [⟨1, none⟩]⟩

def voiceReceived : Win32Server.State :=
  Win32Server.Connection.sample.state.receive .sample (putMessageRequest voiceClient 1 voice 100).frame

def voicePacket : Memory := zeros.write 0 (putMessageRequest voiceClient 1 voice 100).frame

theorem voice_delivered :
    (Win32Server.verifyRequest voiceReceived.memory 0 = true ∧
      PutOnce 1 voice 100 []
        (Win32Server.execCapiPutmessage .sample 0 (Win32Server.pointers .sample voiceReceived.memory)
          voiceReceived).state.history
        0 (0 + (putMessageRequest voiceClient 1 voice 100).frame.length)) ∧
    PutOnce 1 voice 100 []
      (LinuxServer.execCapiPutmessage .loopback 0 LinuxServer.Connection.sample.session
        voicePacket).session.history
      0 (0 + (putMessageRequest voiceClient 1 voice 100).frame.length) := by
  obtain ⟨win32, linux⟩ := put_message_delivered voiceClient 1 voice 100
    ⟨by decide, fun _ => by decide⟩ (by decide)
  exact ⟨win32 .sample 0 voiceReceived (Holds.write zeros 0 _),
    linux .loopback 0 LinuxServer.Connection.sample.session voicePacket (Holds.write zeros 0 _)⟩

end CapiProxy.Integration
