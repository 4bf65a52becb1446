import CapiProxy.Protocol

/-! The credential checks of the Win32 server. The registry and the socket library are
outside the repository: a registry key is the list of its values, and a value that does not
fit the buffers `RegEnumValue` is offered ends the enumeration. -/
namespace CapiProxy.Win32Server
open Bytes

/-- Names and data of the values under a registry key; `none` when the key cannot be opened. -/
abbrev RegistryKey := Option (List (List UInt8 × List UInt8))

structure Registry where
  users : Option (List UInt8 → Option (List UInt8))
  hostsAllow : RegistryKey
  hostsDeny : RegistryKey

/-- The winsock calls the checks make: `getsockname` on the session's socket and `inet_addr`. -/
structure Winsock where
  getsockname : Option UInt32
  inetAddr : List UInt8 → UInt32

def truncate (data : List UInt8) : List UInt8 := data.takeWhile (· ≠ 0)

/-- One enumeration loop of `try_auth_byip`. The length variables are in-out parameters: each
value read leaves its own lengths behind as the sizes offered for the next one. -/
def enumerateRules (winsock : Winsock) (ip : UInt32) :
    List (List UInt8 × List UInt8) → Nat → Nat → Bool × Nat × Nat
  | [], len, len2 => (false, len, len2)
  | (snet, smask) :: rules, len, len2 =>
    if snet.length < len ∧ smask.length ≤ len2 then
      let net := winsock.inetAddr snet
      let mask := winsock.inetAddr (truncate smask)
      if net &&& mask = ip &&& mask then (true, snet.length, smask.length)
      else enumerateRules winsock ip rules snet.length smask.length
    else (false, len, len2)

def tryAuthByip (registry : Registry) (winsock : Winsock) : Int :=
  match winsock.getsockname, registry.hostsAllow, registry.hostsDeny with
  | some ip, some allow, some deny =>
    let (allowed, len, len2) := enumerateRules winsock ip allow 16 16
    let (denied, _, _) := enumerateRules winsock ip deny len len2
    if allowed && !denied then 1 else -1
  | _, _, _ => -1

def tryAuthUserpass (registry : Registry) (user pass : List UInt8) : Int :=
  match registry.users with
  | none => -1
  | some query =>
    match query user with
    | none => -1
    | some test => if test.length ≤ 256 ∧ pass = truncate test then 1 else -1

end CapiProxy.Win32Server
