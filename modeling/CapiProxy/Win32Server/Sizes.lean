import CapiProxy.Win32Server.StartSession

/-! What `verifyRequest` makes sure of before a request is dispatched. The three length words are added
as words, and how many bytes have been received is not looked at. -/
namespace CapiProxy.Win32Server
open Bytes

def Environment.Inside (env : Environment) (n a length : Nat) : Prop :=
  env.requestBuffer ≤ a ∧ a + length ≤ env.requestBuffer + n

/-- The lengths of a request of which `n` bytes were received agree with each other and with its
type, and what the handlers use has been received. -/
structure Sound (env : Environment) (m : Memory) (n : Nat) (type : MessageType) : Prop where
  lengths : (header env m).headerLen.toNat + (header env m).bodyLen.toNat + (header env m).dataLen.toNat =
    (header env m).messageLen.toNat
  size : (header env m).messageLen.toNat ≤ msgSize
  received : (header env m).messageLen.toNat ≤ n
  body : type.sizeofRequest .msvc ≤ (header env m).bodyLen.toNat
  headerRegion : env.Inside n (pointers env m).rheader sizeofRequestHeader
  bodyRegion : env.Inside n (pointers env m).rbody (header env m).bodyLen.toNat
  dataRegion : env.Inside n (pointers env m).rdata (header env m).dataLen.toNat

theorem toNat_rbodysize (handled : handlerOf type = some handler) :
    (UInt32.ofInt (rbodysize type.code)).toNat = type.sizeofRequest .msvc := by
  cases type <;> first | rfl | cases handled

theorem dispatched_body (dispatched : selected env m = some (type, handler)) :
    type.sizeofRequest .msvc ≤ (header env m).bodyLen.toNat := by
  obtain ⟨verified, arm, handled, -⟩ := selected_some dispatched
  have long := (verifyRequest_iff.mp verified).2.1
  rw [← header, ← MessageType.code_of_ofCode arm, UInt32.lt_iff_toNat_lt,
    toNat_rbodysize handled] at long
  exact Nat.le_of_not_lt long

theorem Sound.of_lengths (dispatched : selected env m = some (type, handler))
    (lengths : (header env m).headerLen.toNat + (header env m).bodyLen.toNat +
      (header env m).dataLen.toNat = (header env m).messageLen.toNat)
    (received : (header env m).messageLen.toNat ≤ n) : Sound env m n type := by
  obtain ⟨long, -, size, -⟩ := verifyRequest_iff.mp (selected_some dispatched).1
  rw [← header] at long size
  have fits := env.requestBuffer_fits
  have rbody : (pointers env m).rbody = env.requestBuffer + (header env m).headerLen.toNat :=
    advance_of_fits (by omega)
  have rdata : (pointers env m).rdata = (pointers env m).rbody + (header env m).bodyLen.toNat :=
    advance_of_fits (by rw [advance_of_fits (by omega)]; omega)
  refine ⟨lengths, size, received, dispatched_body dispatched, ⟨Nat.le_refl _, ?_⟩, ⟨?_, ?_⟩, ⟨?_, ?_⟩⟩
  · show env.requestBuffer + sizeofRequestHeader ≤ _
    omega
  all_goals omega

/-- A dispatched request is sound exactly when its lengths do not exceed a word together and it has
been received as a whole. -/
theorem dispatched_sound_iff (env : Environment) (s : State) (bytes : List UInt8)
    (dispatched : selected env (s.receive env bytes).memory = some (type, handler)) :
    let request := header env (s.receive env bytes).memory
    Sound env (s.receive env bytes).memory bytes.length type ↔
      request.headerLen.toNat + request.bodyLen.toNat + request.dataLen.toNat < 2 ^ 32 ∧
        request.messageLen.toNat ≤ bytes.length := by
  intro request
  obtain ⟨-, -, -, adds⟩ := verifyRequest_iff.mp (selected_some dispatched).1
  have sum := toNat_sum_iff adds
  constructor
  · intro sound
    exact ⟨sum.mp sound.lengths, sound.received⟩
  · rintro ⟨small, received⟩
    exact .of_lengths dispatched (sum.mpr small) received

/-- An INSTALLED request with the byte of its empty body. -/
def installed : RequestHeader := ⟨37, 36, 1, 0, 1, MessageType.capiInstalled.code, 0, 0, 0x10000⟩

def asked : State := Connection.sample.state.receive .sample (installed.bytes ++ [0])

theorem asked_sound : selected .sample asked.memory = some (.capiInstalled, execCapiInstalled) ∧
    Sound .sample asked.memory 37 .capiInstalled := by
  have dispatched : selected .sample asked.memory = some (.capiInstalled, execCapiInstalled) :=
    selected_of_arm (by decide) (by decide) rfl (by decide)
  exact ⟨dispatched, (dispatched_sound_iff .sample _ _ dispatched).mpr (by decide)⟩

/-- The header of a REGISTER request in which two lengths cancel each other. -/
def cancelling : RequestHeader := ⟨36, 2147483648, 2147483648, 36, 1, MessageType.capiRegister.code, 0, 0, 0x10000⟩

def overrun : State := Connection.sample.state.receive .sample cancelling.bytes

/-- A single byte that is received behind the INSTALLED request. -/
def askedAgain : State := asked.receive .sample [37]

/-- The first is dispatched with a body 2 GiB away, the second as the request that is still there. -/
theorem dispatched_unsound :
    (selected .sample overrun.memory = some (.capiRegister, execCapiRegister) ∧
      (pointers .sample overrun.memory).rbody = 2 ^ 31 ∧ ¬ Sound .sample overrun.memory 36 .capiRegister) ∧
    selected .sample askedAgain.memory = some (.capiInstalled, execCapiInstalled) ∧
      ¬ Sound .sample askedAgain.memory 1 .capiInstalled := by
  refine ⟨⟨selected_of_arm (by decide) (by decide) rfl (by decide), by decide, fun sound => ?_⟩,
    selected_of_arm (by decide) (by decide) rfl (by decide), fun sound => ?_⟩
  · exact absurd sound.lengths (by decide)
  · exact absurd sound.received (by decide)

end CapiProxy.Win32Server
