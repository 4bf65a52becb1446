import CapiProxy.LinuxModule.Queue

/-! Messages of the daemon on their way to kernelcapi. The module fills a buffer with each, and is
to enter the number of its controller. -/
namespace CapiProxy.LinuxModule
open Bytes

/-- A buffer that goes to kernelcapi. -/
def Event.handed : Event → Option Skb
  | .told (.handleCapimsg _ skb) => some skb
  | _ => none

/-- The dword at offset 8 of a message. -/
def controllerDword (message : List UInt8) : UInt32 := (zeros.write 0 message).word32 8

/-- The bytes of the message, with this number for the controller. -/
structure Adjusted (cnr : UInt32) (message skb : List UInt8) : Prop where
  length : skb.length = message.length
  others : ∀ i, (i < 8 ∨ 12 ≤ i) → skb[i]? = message[i]?
  high : controllerDword skb &&& 0xFFFFFF80 = controllerDword message &&& 0xFFFFFF80
  controller : controllerDword skb &&& 0x7F = cnr

namespace Card
variable {c : Card}

/-- The buffers that went to kernelcapi since. -/
def handed (c c' : Card) : List Skb := (c'.log.drop c.log.length).filterMap Event.handed

/-- One buffer goes to kernelcapi, with the message for this controller, and the daemon learns that
all bytes were written. -/
structure Arrives (c : Card) (written : Card × Int) (message : List UInt8) (cnr : UInt32) : Prop where
  buffer : ∃ skb, c.handed written.1 = [skb] ∧ Adjusted cnr message skb
  length : written.2 = message.length

theorem log_tell (c : Card) (callback : Callback) :
    (c.tell callback).log = c.log ++ [.told callback] := rfl

theorem write_handed (env : Environment) (memory : Memory) (message : Skb) (cnr : UInt32)
    (running : c.status = .running) :
    c.handed (c.write env (some memory) message cnr).1 = [(SkBuff.ofUser memory message).data] := by
  rw [write, if_neg (not_not.mpr running)]
  dsimp only [handed]
  split
  · rw [log_tell, log_tell, List.append_assoc, List.drop_left]
    rfl
  · rw [log_tell, List.drop_left]
    rfl

theorem write_dropped (env : Environment) (message : Skb) (cnr : UInt32) :
    c.handed (c.write env none message cnr).1 = [] := by
  have same : (c.write env none message cnr).1 = c := by
    rw [write]
    split <;> rfl
  rw [same, handed, List.drop_length]
  rfl

theorem write_not_arrives (env : Environment) (memory : Option Memory) (message : Skb)
    (cnr : UInt32) (running : c.status = .running) (nonempty : 0 < message.length) :
    ¬ c.Arrives (c.write env memory message cnr) message cnr := by
  rintro ⟨⟨skb, handed, adjusted⟩, -⟩
  cases memory with
  | none =>
    rw [write_dropped] at handed
    cases handed
  | some memory =>
    rw [write_handed env memory message cnr running] at handed
    obtain rfl := List.singleton_inj.mp handed
    have length := adjusted.length
    rw [SkBuff.length_data_ofUser] at length
    omega

theorem write_leaks (env : Environment) (memory : Memory) (message : Skb) (cnr : UInt32)
    (running : c.status = .running) (short : message.length < 2 ^ 31) :
    ∃ rest, rest.length = message.length ∧
      c.handed (c.write env (some memory) message cnr).1 = [message ++ rest] := by
  refine ⟨memory.read message.length message.length, Memory.length_read .., ?_⟩
  rw [write_handed env memory message cnr running, SkBuff.data_ofUser_short memory message short]

end Card

/-- No message of the daemon reaches kernelcapi as a buffer of its length with the number of the
controller. -/
theorem inbound_never (env : Environment) (c : Card) (memory : Option Memory) (message : Skb)
    (cnr : UInt32) (running : c.status = .running) (long : 12 ≤ message.length) :
    ¬ c.Arrives (c.write env memory message cnr) message cnr := by
  have nonempty : 0 < message.length := by omega
  exact Card.write_not_arrives env memory message cnr running nonempty

/-- The daemon opens a card and sets the data of the controller. -/
def dataSet : List Call := [.openCard, .ioctl ioctlSetData 0 (zeros.write 0 (bytes32 152))]

def connectInd : Skb := [12, 0, 1, 0, 0x02, 0x82, 1, 0, 1, 0, 0, 0]

/-- Even with a controller of that number, what is behind the message in memory goes with it. -/
theorem connectInd_never :
    ¬ (Card.run .sample dataSet).Arrives
      ((Card.run .sample dataSet).write .sample (some zeros) connectInd 1) connectInd 1 :=
  inbound_never .sample (Card.run .sample dataSet) (some zeros) connectInd 1 (by decide) (by decide)

/-- Controller 2 hands over 24 bytes, and they name controller 1. -/
theorem connectInd_not_arrives :
    (Card.run .sample dataSet).handed
        ((Card.run .sample dataSet).write .sample (some zeros) connectInd 2).1 =
      [connectInd ++ List.replicate 12 0] ∧
    ¬ (Card.run .sample dataSet).Arrives
      ((Card.run .sample dataSet).write .sample (some zeros) connectInd 2) connectInd 2 := by
  refine ⟨by decide, ?_⟩
  exact Card.write_not_arrives .sample (some zeros) connectInd 2 (by decide) (by decide)

end CapiProxy.LinuxModule
