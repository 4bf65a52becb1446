import CapiProxy.Bytes.Words

/-! The data of a controller in kernelcapi, and how `IOCTL_SET_DATA` fills them from the memory of
the daemon: the members follow one another, and a pointer is moved over them. -/
namespace CapiProxy.LinuxModule
open Bytes

def capiManufacturerLen : Nat := 64
def capiSerialLen : Nat := 8
def sizeofCapiVersion : Nat := 16
def sizeofCapiProfile : Nat := 64

/-- `struct capi_version`. -/
structure CapiVersion where
  majorversion : UInt32
  minorversion : UInt32
  majormanuversion : UInt32
  minormanuversion : UInt32
  deriving DecidableEq, Repr

namespace CapiVersion

def numbers (v : CapiVersion) : List UInt32 :=
  [v.majorversion, v.minorversion, v.majormanuversion, v.minormanuversion]

def ofBytes (bytes : List UInt8) : CapiVersion :=
  let m := zeros.write 0 bytes
  ⟨m.word32 0, m.word32 4, m.word32 8, m.word32 12⟩

theorem ofBytes_numbers (v : CapiVersion) : ofBytes (words v.numbers) = v := by
  have word := fun i hi => (Holds.write zeros 0 (words v.numbers)).words (i := i) hi
  cases v
  simp only [ofBytes]
  congr 1
  exacts [word 0 (by simp [numbers]), word 1 (by simp [numbers]), word 2 (by simp [numbers]),
    word 3 (by simp [numbers])]

end CapiVersion

/-- The members of `struct capi_ctr` that come from the daemon. -/
structure CapiCtr where
  manu : List UInt8
  version : CapiVersion
  serial : List UInt8
  profile : List UInt8
  deriving DecidableEq, Repr

/-- Before the daemon has given the data. -/
def CapiCtr.blank : CapiCtr :=
  ⟨.replicate capiManufacturerLen 0, ⟨0, 0, 0, 0⟩, .replicate capiSerialLen 0, .replicate sizeofCapiProfile 0⟩

/-- `len` bytes of user memory, and the pointer behind them. -/
def pushUserBuffer (user : Memory) (src len : Nat) : List UInt8 × Nat :=
  (user.read src len, src + len)

/-- `IOCTL_SET_DATA` with the address of the data; without a result it is `-EMSGSIZE`. The sizes make the
comparison one of unsigned numbers, so a negative `len` is long enough. -/
def setData (user : Memory) (temp : Nat) : Option CapiCtr :=
  let len := user.word32 temp
  let temp := temp + 4
  if len.toNat < capiManufacturerLen + sizeofCapiVersion + capiSerialLen + sizeofCapiProfile then none
  else
    let (manu, temp) := pushUserBuffer user temp capiManufacturerLen
    let (version, temp) := pushUserBuffer user temp sizeofCapiVersion
    let (serial, temp) := pushUserBuffer user temp capiSerialLen
    let (profile, _) := pushUserBuffer user temp sizeofCapiProfile
    some ⟨manu, .ofBytes version, serial, profile⟩

theorem setData_members {user : Memory} {temp : Nat} {manu version serial profile : List UInt8}
    (holds : Holds user temp (bytes32 152 ++ (manu ++ (version ++ (serial ++ profile)))))
    (first : manu.length = capiManufacturerLen) (second : version.length = sizeofCapiVersion)
    (third : serial.length = capiSerialLen) (fourth : profile.length = sizeofCapiProfile) :
    setData user temp = some ⟨manu, .ofBytes version, serial, profile⟩ := by
  have long : ¬ (152 : UInt32).toNat <
      capiManufacturerLen + sizeofCapiVersion + capiSerialLen + sizeofCapiProfile := by decide
  have behind : Holds user (temp + 4) (manu ++ (version ++ (serial ++ profile))) := by
    simpa only [length_bytes32] using holds.right
  have read₁ : user.read (temp + 4) capiManufacturerLen = manu := first ▸ behind.left
  have read₂ : user.read (temp + 4 + capiManufacturerLen) sizeofCapiVersion = version :=
    first ▸ second ▸ behind.right.left
  have read₃ : user.read (temp + 4 + capiManufacturerLen + sizeofCapiVersion) capiSerialLen = serial :=
    first ▸ second ▸ third ▸ behind.right.right.left
  have read₄ : user.read (temp + 4 + capiManufacturerLen + sizeofCapiVersion + capiSerialLen)
      sizeofCapiProfile = profile := first ▸ second ▸ third ▸ fourth ▸ behind.right.right.right
  simp only [setData, holds.left.word32, if_neg long, pushUserBuffer, read₁, read₂, read₃, read₄]

end CapiProxy.LinuxModule
