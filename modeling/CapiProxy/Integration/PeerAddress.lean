import CapiProxy.LinuxServer.Main
import CapiProxy.Win32Server.Rules
import Mathlib.Data.Nat.Bitwise

/-! Authentication by address. Both servers ask the socket for its own address, so that their verdict is
one on the interface a client has come in by. -/
namespace CapiProxy.Integration
open Bytes

/-- An IPv4 address, in the order of its bytes on the wire. -/
structure Address where
  first : UInt8
  second : UInt8
  third : UInt8
  fourth : UInt8
  deriving DecidableEq, Repr

/-- `s_addr` on a little-endian machine. -/
def Address.sAddr (a : Address) : UInt32 := .ofNat (number [a.first, a.second, a.third, a.fourth])

def ntohl (n : UInt32) : UInt32 := .ofNat (number (bytes32 n).reverse)

/-- 10.0.0.0/8 and 192.168.0.0/16. -/
def Address.Private (a : Address) : Prop := a.first = 10 ∨ a.first = 192 ∧ a.second = 168

/-- A connected socket: `getpeername` would give the one address, `getsockname` gives the other. -/
structure Connection where
  peer : Address
  here : Address

def Connection.ipAuth (env : LinuxServer.Environment) (c : Connection) : Int :=
  LinuxServer.ipAuth { env with getsockname := some (ntohl c.here.sAddr) }

def Connection.tryAuthByip (inetAddr : List UInt8 → UInt32) (users : Option (List UInt8 → Option (List UInt8)))
    (allow deny : List Win32Server.Rule) (c : Connection) : Int :=
  Win32Server.tryAuthByip (Win32Server.ruleRegistry users allow deny) ⟨some c.here.sAddr, inetAddr⟩

theorem ntohl_sAddr (a : Address) :
    ntohl a.sAddr = .ofNat (number [a.fourth, a.third, a.second, a.first]) := by
  have small := number_lt [a.first, a.second, a.third, a.fourth]
  simp only [List.length_cons, List.length_nil, Nat.reduceAdd, Nat.reducePow] at small
  have bytes := littleEndian_number [a.first, a.second, a.third, a.fourth]
  rw [ntohl, bytes32, Address.sAddr, UInt32.toNat_ofNat', Nat.mod_eq_of_lt small]
  exact congrArg (fun bs => UInt32.ofNat (number (List.reverse bs))) bytes

theorem and_leading (n k j : Nat) (small : n < 2 ^ (k + j)) :
    n &&& 2 ^ k * (2 ^ j - 1) = 2 ^ k * (n / 2 ^ k) := by
  apply Nat.eq_of_testBit_eq
  intro i
  rw [Nat.testBit_and, Nat.testBit_two_pow_mul, Nat.testBit_two_pow_mul, Nat.testBit_two_pow_sub_one]
  by_cases low : k ≤ i
  · rw [Nat.testBit_div_two_pow, Nat.sub_add_cancel low]
    by_cases high : i - k < j
    · simp [low, high]
    · have zero : n.testBit i = false := by
        apply Nat.testBit_lt_two_pow
        exact Nat.lt_of_lt_of_le small (Nat.pow_le_pow_right (by decide) (by omega))
      simp [zero]
  · simp [low]

theorem and_leading_eq (a : UInt32) (mask net : UInt32) (masks : mask.toNat = 2 ^ k * (2 ^ j - 1))
    (whole : k + j = 32) (aligned : net.toNat = 2 ^ k * n) :
    a &&& mask = net ↔ a.toNat / 2 ^ k = n := by
  have small : a.toNat < 2 ^ (k + j) := by rw [whole]; exact a.toNat_lt
  rw [← UInt32.toNat_inj, UInt32.toNat_and, masks, and_leading _ _ _ small, aligned]
  exact Nat.mul_right_inj (Nat.two_pow_pos k).ne'

/-- The first bytes of an address, as a machine that has it in host order computes them. -/
theorem ntohl_leading (a : Address) :
    (ntohl a.sAddr).toNat / 2 ^ 24 = a.first.toNat ∧
    (ntohl a.sAddr).toNat / 2 ^ 16 = 256 * a.first.toNat + a.second.toNat := by
  have first := a.first.toNat_lt
  have second := a.second.toNat_lt
  have third := a.third.toNat_lt
  have fourth := a.fourth.toNat_lt
  rw [ntohl_sAddr, UInt32.toNat_ofNat']
  simp only [number]
  omega

theorem ipAuth_values (env : LinuxServer.Environment) (c : Connection) :
    c.ipAuth env = 0 ∨ c.ipAuth env = -1 := by
  rw [Connection.ipAuth, LinuxServer.ipAuth]
  dsimp only
  split
  · exact .inl rfl
  · exact .inr rfl

theorem ipAuth_iff (env : LinuxServer.Environment) (c : Connection) :
    c.ipAuth env ≠ -1 ↔ c.here.Private := by
  obtain ⟨byte, bytes⟩ := ntohl_leading c.here
  have second := c.here.second.toNat_lt
  have leads : (ntohl c.here.sAddr).toNat / 2 ^ 16 = 0xC0A8 ∨ (ntohl c.here.sAddr).toNat / 2 ^ 24 = 10 ↔
      c.here.Private := by
    simp only [Address.Private, ← UInt8.toNat_inj]
    rw [byte, bytes]
    change _ ↔ c.here.first.toNat = 10 ∨ c.here.first.toNat = 192 ∧ c.here.second.toNat = 168
    omega
  have half := and_leading_eq (k := 16) (j := 16) (n := 0xC0A8) (ntohl c.here.sAddr) 0xFFFF0000 0xC0A80000
    rfl rfl rfl
  have quarter := and_leading_eq (k := 24) (j := 8) (n := 10) (ntohl c.here.sAddr) 0xFF000000 0x0A000000
    rfl rfl rfl
  rw [← leads, ← half, ← quarter, Connection.ipAuth, LinuxServer.ipAuth]
  dsimp only
  split
  · next inside => exact iff_of_true (by decide) inside
  · next outside => exact iff_of_false (by decide) outside

section
variable (inetAddr : List UInt8 → UInt32) (users : Option (List UInt8 → Option (List UInt8)))
  (allow deny : List Win32Server.Rule)

theorem tryAuthByip_values (c : Connection) :
    c.tryAuthByip inetAddr users allow deny = 1 ∨ c.tryAuthByip inetAddr users allow deny = -1 := by
  rw [Connection.tryAuthByip, Win32Server.tryAuthByip]
  dsimp only [Win32Server.ruleRegistry]
  split
  · exact .inl rfl
  · exact .inr rfl

theorem tryAuthByip_eq_iff (c d : Connection) :
    c.tryAuthByip inetAddr users allow deny = d.tryAuthByip inetAddr users allow deny ↔
      (Win32Server.Passes inetAddr c.here.sAddr allow deny ↔
        Win32Server.Passes inetAddr d.here.sAddr allow deny) := by
  have first := tryAuthByip_values inetAddr users allow deny c
  have second := tryAuthByip_values inetAddr users allow deny d
  rw [← Win32Server.tryAuthByip_iff inetAddr c.here.sAddr users allow deny,
    ← Win32Server.tryAuthByip_iff inetAddr d.here.sAddr users allow deny]
  change c.tryAuthByip inetAddr users allow deny = _ ↔
    (c.tryAuthByip inetAddr users allow deny = 1 ↔ d.tryAuthByip inetAddr users allow deny = 1)
  omega

/-- The verdicts on two connections of one client. -/
structure PeerDecides (env : LinuxServer.Environment) (c d : Connection) : Prop where
  linux : c.ipAuth env = d.ipAuth env
  linux_first : c.ipAuth env ≠ -1 ↔ c.peer.Private
  linux_second : d.ipAuth env ≠ -1 ↔ d.peer.Private
  win32 : c.tryAuthByip inetAddr users allow deny = d.tryAuthByip inetAddr users allow deny

/-- The client's address decides exactly when the addresses it has come in by are private as its own is,
and the lists pass both of them or neither. -/
theorem peer_decides_iff (env : LinuxServer.Environment) (c d : Connection) (peer : c.peer = d.peer) :
    PeerDecides inetAddr users allow deny env c d ↔
      (c.here.Private ↔ c.peer.Private) ∧ (d.here.Private ↔ d.peer.Private) ∧
      (Win32Server.Passes inetAddr c.here.sAddr allow deny ↔
        Win32Server.Passes inetAddr d.here.sAddr allow deny) := by
  constructor
  · rintro ⟨-, first, second, lists⟩
    rw [ipAuth_iff] at first second
    exact ⟨first, second, (tryAuthByip_eq_iff inetAddr users allow deny c d).mp lists⟩
  · rintro ⟨first, second, lists⟩
    have first := (ipAuth_iff env c).trans first
    have second := (ipAuth_iff env d).trans second
    refine ⟨?_, first, second, (tryAuthByip_eq_iff inetAddr users allow deny c d).mpr lists⟩
    have same : c.ipAuth env ≠ -1 ↔ d.ipAuth env ≠ -1 := by rw [first, second, peer]
    have values := ipAuth_values env c
    have values' := ipAuth_values env d
    omega

end

/-- A client from outside, once on the public interface of the server and once on its private one. -/
def publicInterface : Connection := ⟨⟨203, 0, 113, 7⟩, ⟨198, 51, 100, 1⟩⟩

def privateInterface : Connection := ⟨⟨203, 0, 113, 7⟩, ⟨10, 0, 0, 1⟩⟩

theorem interfaces_peer : publicInterface.peer = privateInterface.peer := rfl

theorem interfaces_decide_iff :
    PeerDecides Win32Server.inetAddr none Win32Server.lanAllowed [] .loopback publicInterface privateInterface ↔
      (publicInterface.here.Private ↔ publicInterface.peer.Private) ∧
      (privateInterface.here.Private ↔ privateInterface.peer.Private) ∧
      (Win32Server.Passes Win32Server.inetAddr publicInterface.here.sAddr Win32Server.lanAllowed [] ↔
        Win32Server.Passes Win32Server.inetAddr privateInterface.here.sAddr Win32Server.lanAllowed []) :=
  peer_decides_iff Win32Server.inetAddr none Win32Server.lanAllowed [] .loopback publicInterface
    privateInterface interfaces_peer

/-- The client is refused on the public interface and let in on the private one. -/
theorem interfaces_not_decide :
    ¬ PeerDecides Win32Server.inetAddr none Win32Server.lanAllowed [] .loopback publicInterface
      privateInterface := by
  intro decides
  have refused : publicInterface.tryAuthByip Win32Server.inetAddr none Win32Server.lanAllowed [] = -1 := by
    decide +kernel
  have entered : privateInterface.tryAuthByip Win32Server.inetAddr none Win32Server.lanAllowed [] = 1 := by
    decide +kernel
  have same := decides.win32
  rw [refused, entered] at same
  exact absurd same (by decide)

end CapiProxy.Integration
