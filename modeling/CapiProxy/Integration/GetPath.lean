import CapiProxy.LinuxServer.Main
import CapiProxy.Win32Client.GetMessage
import CapiProxy.Win32Client.Receiver
import CapiProxy.Win32Server.Session

/-! The get path. Either server builds an answer around the message its CAPI returned, and the
client takes it apart again. The bodies differ by the byte of an empty C++ struct. -/
namespace CapiProxy.Integration
open Bytes Win32Client

/-- The answer a server builds when its CAPI returns `reply`. -/
inductive GetAnswer (reply : CapiReply) (answer : AnswerBuffer) : Prop where
  | win32 (env : Win32Server.Environment) (n : Nat) (p : Win32Server.Pointers) (s : Win32Server.State)
      (called : env.capi s.history (.getMessage (s.request p).appId) = reply)
      (built : (Win32Server.execCapiGetmessage env n p s).answer = some answer)
  | linux (env : LinuxServer.Environment) (n : Nat) (s : LinuxServer.Session) (m : Memory)
      (called : env.capi s.history (.getMessage (LinuxServer.request env m).appId) = reply)
      (built : (LinuxServer.execCapiGetmessage env n s m).answer = some answer)

/-- What an answer looks like that carries `bytes` behind a body of `body` bytes. -/
structure Carries (answer : AnswerBuffer) (body : Nat) (bytes : List UInt8) : Prop where
  head : CarriesMessage answer.head body bytes.length
  rest : Holds answer.rest body bytes

theorem GetAnswer.carries (built : GetAnswer reply answer) (success : reply.code = 0)
    (kind : isDataB3Ind reply.memory reply.message = data)
    (wf : WellFormed reply.memory reply.message data) :
    ∃ body ≤ 1, Carries answer body (carried reply.memory reply.message data) := by
  subst kind
  cases built with
  | win32 env n p s called built =>
    refine ⟨1, Nat.le_refl 1, ?_⟩
    simp only [Win32Server.execCapiGetmessage, Win32Server.State.call, called] at built
    rw [copyMessage_carried _ _ _ success wf] at built
    obtain rfl := Option.some.inj built
    refine ⟨⟨rfl, rfl, rfl, ?_, rfl, rfl, success⟩, Holds.write _ _ _⟩
    simp only [Win32Server.finish, Win32Server.prepare, UInt32.ofNat_add]
    rfl
  | linux env n s m called built =>
    refine ⟨0, Nat.zero_le 1, ?_⟩
    simp only [LinuxServer.execCapiGetmessage, LinuxServer.Session.call, called] at built
    rw [copyMessage_carried _ _ _ success wf] at built
    obtain rfl := Option.some.inj built
    refine ⟨⟨rfl, rfl, rfl, ?_, rfl, rfl, success⟩, Holds.write s.outPacket.rest 0 _⟩
    simp only [LinuxServer.compose, UInt32.ofNat_add]
    rfl

theorem Carries.received (carries : Carries answer body bytes)
    (fits : sizeofAnswerHeader + body + bytes.length ≤ msgBuffer) :
    AnswerHeader.parse (Received.of answer.frame).message 0 = answer.head ∧
      Holds (Received.of answer.frame).message (sizeofAnswerHeader + body) bytes := by
  have content : Holds answer.rest 0 (answer.rest.read 0 body ++ bytes) := by
    rw [Holds.append_iff, Memory.length_read, Nat.zero_add]
    exact ⟨by rw [Holds, Memory.length_read], carries.rest⟩
  have frame := answer.frame_eq content (by
    simp only [msgBuffer] at fits
    rw [carries.head.messageLen, UInt32.toNat_ofNat', Nat.mod_eq_of_lt (by omega), List.length_append,
      Memory.length_read, Nat.add_assoc])
  have stored : Holds (Received.of answer.frame).message 0 answer.frame := Holds.write zeros 0 _
  rw [frame] at stored ⊢
  have behind := stored.right.right
  rw [AnswerHeader.length_bytes, Memory.length_read] at behind
  refine ⟨AnswerHeader.parse_of_holds stored.left, ?_⟩
  simpa only [sizeofAnswerHeader, Nat.zero_add] using behind

/-- A message returned by the CAPI of either server reaches the application of a registered id,
unchanged but for the payload address, in a block of its own. -/
theorem get_message_delivered (built : GetAnswer reply answer) (success : reply.code = 0)
    (kind : isDataB3Ind reply.memory reply.message = data)
    (wf : WellFormed reply.memory reply.message data)
    (fits : sizeofAnswerHeader + 1 + (carried reply.memory reply.message data).length ≤ msgBuffer)
    (env : Environment) (c : Client) (applID : UInt32) (memory : Memory)
    (registered : applID ∈ c.registeredApps.map (·.applID)) (malloc : env.malloc = true)
    (answered : env.sendAndReceive (c.msgId + 1) (getMessageRequest c applID).frame =
      some (Received.of answer.frame).message)
    (block : env.globalAlloc c.blocks (carried reply.memory reply.message data).length = some buffer) :
    let result := capiGetMessage env c applID memory
    result.code = 0 ∧ result.message = some buffer ∧ buffer ∉ result.freed ∧
      Delivered reply.memory reply.message data result.memory buffer buffer
        (buffer + (carried reply.memory reply.message data).length) := by
  obtain ⟨body, small, carries⟩ := built.carries success kind wf
  have room : sizeofAnswerHeader + body + (carried reply.memory reply.message data).length ≤
      msgBuffer := by omega
  obtain ⟨parsed, holds⟩ := carries.received room
  exact capiGetMessage_carries env c memory malloc answered (parsed ▸ carries.head) holds kind wf room
    block registered

/-- A DATA_B3_IND at address 300 with three bytes of voice data at address 400. -/
def indication : CapiReply where
  code := 0
  applID := none
  message := 300
  memory := (zeros.write 300
    [18, 0, 1, 0, 0x86, 0x82, 0, 0, 0, 0, 0, 0, 0x90, 1, 0, 0, 3, 0]).write 400 [7, 8, 9]
  output := []

def indicationAnswer : AnswerBuffer :=
  (LinuxServer.execCapiGetmessage { LinuxServer.Environment.loopback with capi := fun _ _ => indication }
    0 LinuxServer.Connection.sample.session zeros).answer.get rfl

def indicationClient : Client := ⟨3, 4, [⟨1, some 256⟩]⟩

def indicationEnvironment : Environment where
  malloc := true
  sendAndReceive := fun _ _ => some (Received.of indicationAnswer.frame).message
  globalAlloc := fun used size => if 4096 ∈ used ∨ 65536 < size then none else some 4096
  globalAlloc_block used size block found := by
    rw [Option.ite_none_left_eq_some, not_or, Nat.not_lt] at found
    obtain ⟨⟨unused, small⟩, same⟩ := found
    obtain rfl := Option.some.inj same
    exact ⟨unused, by omega⟩

theorem indication_delivered :
    let result := capiGetMessage indicationEnvironment indicationClient 1 zeros
    result.code = 0 ∧ result.message = some 4096 ∧ 4096 ∉ result.freed ∧
      Delivered indication.memory indication.message true result.memory 4096 4096
        (4096 + (carried indication.memory indication.message true).length) :=
  get_message_delivered (.linux _ 0 _ zeros rfl (Option.some_get _).symm) rfl (by decide)
    ⟨by decide, fun _ => by decide⟩ (by decide) indicationEnvironment indicationClient 1 zeros
    (by decide) rfl rfl (by decide)

end CapiProxy.Integration
