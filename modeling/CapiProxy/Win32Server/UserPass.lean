import CapiProxy.Bytes.Pieces
import CapiProxy.Win32Server.StartSession

/-! How `exec_proxy_auth` takes a user name and a password apart. It terminates the data, measures the
first string with `strlen`, takes the rest of the data for the second and copies both with `strcpy`. -/
namespace CapiProxy.Win32Server
open Bytes

section
variable (env : Environment) (m : Memory)

/-- The data of the request, as long as the header announces it, behind the header and the body. -/
def DataRegion (q : Nat) : Prop :=
  env.requestBuffer + (header env m).headerLen.toNat + (header env m).bodyLen.toNat ≤ q ∧
    q < env.requestBuffer + (header env m).messageLen.toNat

instance : DecidablePred (DataRegion env m) := fun _ => inferInstanceAs (Decidable (_ ∧ _))

/-- The only write of `exec_proxy_auth` through `rdata`: the terminator. -/
def authWrites : Pieces :=
  if env.authTypes &&& authUserpass ≠ 0 ∧ 1 < (header env m).dataLen.toNat then
    [(((pointers env m).rdata + (header env m).dataLen.toNat) % 2 ^ 32, [0])]
  else []

/-- What `strcpy` stores in `user` and in `pass`, each with the address it is read from. -/
def authCopies : Pieces :=
  if env.authTypes &&& authUserpass ≠ 0 then
    match (credentials m (pointers env m)).2 with
    | some (user, pass) =>
      [((pointers env m).rdata, user), ((pointers env m).rdata + user.length + 1, pass)]
    | none => []
  else []

/-- The handler writes to the request buffer, and copies strings of the data that fit. -/
structure Bounded (n : Nat) (s : State) : Prop where
  memory : (execProxyAuth env n (pointers env s.memory) s).state.memory =
    s.memory.writeAll (authWrites env s.memory)
  written : ∀ piece ∈ authWrites env s.memory, env.requestBuffer ≤ piece.1 ∧
    piece.1 + piece.2.length ≤ env.requestBuffer + msgSize
  fits : ∀ copy ∈ authCopies env s.memory, copy.2.length + 1 ≤ 256
  inside : ∀ copy ∈ authCopies env s.memory, ∀ i < copy.2.length,
    DataRegion env s.memory ((copy.1 + i) % 2 ^ 32)

/-- How many bytes of the data come before the first zero byte. -/
def leading : Nat := (m.cyclic.stringWithin (pointers env m).rdata (header env m).dataLen.toNat).length

def terminated : Memory :=
  m.write (((pointers env m).rdata + (header env m).dataLen.toNat) % 2 ^ 32) [0]

/-- How many bytes the handler counts behind the leading ones, by the length that it reads in the terminated
request. -/
def remaining : Nat := ((header env (terminated env m)).dataLen - .ofNat (leading env m)).toNat

/-- The three lengths of the header add up without running over. -/
def Whole : Prop :=
  (header env m).headerLen.toNat + (header env m).bodyLen.toNat + (header env m).dataLen.toNat =
    (header env m).messageLen.toNat

/-- There is nothing to parse, or the terminator has room and one of the strings is refused, or both
end in the data. -/
def Parsable : Prop :=
  env.authTypes &&& authUserpass = 0 ∨ (header env m).dataLen.toNat ≤ 1 ∨
    (header env m).messageLen.toNat < msgSize ∧
      (TooLong (leading env m) ∨ TooLong (remaining env m) ∨
        Whole env m ∧ (leading env m < (header env m).dataLen.toNat ∨
          m (env.requestBuffer + (header env m).messageLen.toNat + 1) = 0) ∨
        ¬ Whole env m ∧ m.cyclic (pointers env m).rdata = 0 ∧ m.cyclic ((pointers env m).rdata + 1) = 0)

end

theorem credentials_memory (env : Environment) (m : Memory) :
    (credentials m (pointers env m)).1 =
      if 1 < (header env m).dataLen.toNat then terminated env m else m := by
  have parsed : RequestHeader.parse m (pointers env m).rheader = header env m := rfl
  rw [credentials, parsed]
  by_cases some : 1 < (header env m).dataLen.toNat
  · rw [if_pos some, if_pos some]
    dsimp only
    split <;> rfl
  · rw [if_neg some, if_neg some]

theorem execProxyAuth_memory (env : Environment) (n : Nat) (s : State)
    (type : s.memory.word32 (pointers env s.memory).rbody = authUserpass) :
    (execProxyAuth env n (pointers env s.memory) s).state.memory =
      s.memory.writeAll (authWrites env s.memory) := by
  have other : authUserpass ≠ authByIp := by decide
  simp only [execProxyAuth, type, if_neg other, if_true]
  by_cases offered : env.authTypes &&& authUserpass ≠ 0
  · have stored : (credentials s.memory (pointers env s.memory)).1 =
        s.memory.writeAll (authWrites env s.memory) := by
      rw [credentials_memory, authWrites]
      by_cases some : 1 < (header env s.memory).dataLen.toNat
      · rw [if_pos some, if_pos ⟨offered, some⟩]
        rfl
      · rw [if_neg some, if_neg fun wanted => some wanted.2]
        rfl
    rw [if_pos offered, ← stored]
    split
    · rfl
    · split <;> rfl
  · rw [if_neg offered, authWrites, if_neg fun wanted => offered wanted.1]
    rfl

theorem terminated_cyclic (m : Memory) {a n i : Nat} (some : 0 < n) (small : n < 2 ^ 32) (near : i ≤ n + 1) :
    (m.write ((a + n) % 2 ^ 32) [0]).cyclic (a + i) = if i = n then 0 else m.cyclic (a + i) := by
  rw [Memory.cyclic, Memory.write_byte, Memory.cyclic]
  by_cases last : i = n
  · rw [last, if_pos rfl, if_pos rfl]
  · rw [if_neg (by omega), if_neg last]

theorem terminated_first (m : Memory) {a n : Nat} (some : 0 < n) (small : n < 2 ^ 32) :
    (m.write ((a + n) % 2 ^ 32) [0]).cyclic.string a = m.cyclic.stringWithin a n := by
  refine Memory.stringWithin_of_zero ?_ (fun i inside => ?_) small
  · rw [terminated_cyclic m some small (by omega), if_pos rfl]
  · rw [terminated_cyclic m some small (by omega), if_neg (by omega)]

theorem terminated_second (m : Memory) {a n k : Nat} (small : n < 2 ^ 32) (inside : k < n) :
    ((m.write ((a + n) % 2 ^ 32) [0]).cyclic.string (a + k + 1)).length ≤ n - k - 1 := by
  have same : (m.write ((a + n) % 2 ^ 32) [0]).cyclic.string (a + k + 1) =
      m.cyclic.stringWithin (a + k + 1) (n - k - 1) := by
    refine Memory.stringWithin_of_zero ?_ (fun i within => ?_) (by omega)
    · rw [Nat.add_assoc, Nat.add_assoc, show k + (1 + (n - k - 1)) = n by omega,
        terminated_cyclic m (by omega) small (by omega), if_pos rfl]
    · rw [Nat.add_assoc, Nat.add_assoc, terminated_cyclic m (by omega) small (by omega), if_neg (by omega)]
  rw [same]
  exact Memory.length_stringWithin_le _ _ _

theorem terminated_second_eq_nil_iff (m : Memory) {a n k : Nat} (some : 0 < n) (small : n < 2 ^ 32)
    (inside : k ≤ n) (other : k + 1 ≠ n) :
    (m.write ((a + n) % 2 ^ 32) [0]).cyclic.string (a + k + 1) = [] ↔ m.cyclic (a + k + 1) = 0 := by
  have first := Memory.stringWithin_eq_nil_iff (n := 2 ^ 32 - 1)
    (m.write ((a + n) % 2 ^ 32) [0]).cyclic (a + k + 1)
  rw [Nat.add_assoc, terminated_cyclic m some small (by omega), if_neg other, ← Nat.add_assoc] at first
  exact first

section
variable {env : Environment} {m : Memory}

def secondString (env : Environment) (m : Memory) : List UInt8 :=
  (terminated env m).cyclic.string ((pointers env m).rdata + leading env m + 1)

theorem credentials_short (few : ¬ 1 < (header env m).dataLen.toNat) :
    (credentials m (pointers env m)).2 = some ([], []) := by
  have parsed : RequestHeader.parse m (pointers env m).rheader = header env m := rfl
  rw [credentials, parsed, if_neg few]

theorem credentials_found (some : 1 < (header env m).dataLen.toNat) :
    (credentials m (pointers env m)).2 =
      if TooLong (leading env m) ∨ TooLong (remaining env m) then none
      else Option.some (m.cyclic.stringWithin (pointers env m).rdata (header env m).dataLen.toNat,
        secondString env m) := by
  have first := terminated_first m (Nat.lt_of_succ_lt some) (header env m).dataLen.toNat_lt
    (a := (pointers env m).rdata)
  have parsed : RequestHeader.parse m (pointers env m).rheader = header env m := rfl
  rw [credentials, parsed, if_pos some]
  dsimp only
  rw [first]
  split
  · next long => rw [if_pos (by exact long)]
  · next short =>
    rw [if_neg (by exact short)]
    rfl

theorem terminator_eq (verified : verifyRequest m env.requestBuffer = true) :
    ((pointers env m).rdata + (header env m).dataLen.toNat) % 2 ^ 32 =
      env.requestBuffer + (header env m).messageLen.toNat := by
  obtain ⟨-, -, size, sum⟩ := verifyRequest_iff.mp verified
  rw [← header] at size sum
  have fits := env.requestBuffer_fits
  rw [← sum, UInt32.toNat_add, UInt32.toNat_add] at size ⊢
  simp only [pointers, advance]
  omega

/-- The data region is where the handler looks for it, unless the lengths run over: then there is none. -/
theorem rdata_of_whole (verified : verifyRequest m env.requestBuffer = true) (whole : Whole env m) :
    (pointers env m).rdata =
      env.requestBuffer + (header env m).headerLen.toNat + (header env m).bodyLen.toNat := by
  obtain ⟨-, -, size, -⟩ := verifyRequest_iff.mp verified
  rw [← header] at size
  have fits := env.requestBuffer_fits
  simp only [pointers, advance, Whole] at whole ⊢
  omega

theorem no_region (verified : verifyRequest m env.requestBuffer = true) (wraps : ¬ Whole env m) (q : Nat) :
    ¬ DataRegion env m q := by
  obtain ⟨-, -, size, sum⟩ := verifyRequest_iff.mp verified
  rw [← header] at size sum
  have dataLen := (header env m).dataLen.toNat_lt
  have sum := congrArg UInt32.toNat sum
  rw [UInt32.toNat_add, UInt32.toNat_add] at sum
  simp only [DataRegion, Whole] at wraps ⊢
  omega

theorem remaining_whole (verified : verifyRequest m env.requestBuffer = true) (whole : Whole env m) :
    remaining env m = (header env m).dataLen.toNat - leading env m := by
  obtain ⟨long, -, -, -⟩ := verifyRequest_iff.mp verified
  have long : 36 ≤ (header env m).headerLen.toNat := long
  have first : leading env m ≤ (header env m).dataLen.toNat := Memory.length_stringWithin_le _ _ _
  have small := (header env m).dataLen.toNat_lt
  have again : header env (terminated env m) = header env m := by
    refine RequestHeader.parse_congr fun i inside => Memory.write_outside _ _ _ _ (.inl ?_)
    rw [terminator_eq verified, ← whole]
    simp only [sizeofRequestHeader] at inside
    omega
  have count : (UInt32.ofNat (leading env m)).toNat = leading env m := by
    rw [UInt32.toNat_ofNat', Nat.mod_eq_of_lt (by omega)]
  rw [remaining, again, UInt32.toNat_sub_of_le _ _ (by rw [UInt32.le_iff_toNat_le, count]; exact first), count]

/-- Two strings of which the first has `k` bytes, at the start of the data and behind its terminator. -/
def Copied (env : Environment) (m : Memory) (k : Nat) (pass : List UInt8) : Prop :=
  (k + 1 ≤ 256 ∧ ∀ i < k, DataRegion env m (((pointers env m).rdata + i) % 2 ^ 32)) ∧
    pass.length + 1 ≤ 256 ∧ ∀ i < pass.length, DataRegion env m (((pointers env m).rdata + k + 1 + i) % 2 ^ 32)

/-- What `strlen` makes of the data of a request. -/
structure Strings (env : Environment) (m : Memory) (k : Nat) (pass : List UInt8) : Prop where
  some : 1 < (header env m).dataLen.toNat
  accepted : ¬ TooLong k
  first : k ≤ (header env m).dataLen.toNat
  second : k < (header env m).dataLen.toNat → pass.length ≤ (header env m).dataLen.toNat - k - 1
  empty : k + 1 ≠ (header env m).dataLen.toNat →
    (pass = [] ↔ m.cyclic ((pointers env m).rdata + k + 1) = 0)

theorem copied_whole {pass : List UInt8} (verified : verifyRequest m env.requestBuffer = true)
    (whole : Whole env m) (room : (header env m).messageLen.toNat < msgSize) (strings : Strings env m k pass)
    (rest : ¬ TooLong ((header env m).dataLen.toNat - k)) :
    Copied env m k pass ↔ k < (header env m).dataLen.toNat ∨
      m (env.requestBuffer + (header env m).messageLen.toNat + 1) = 0 := by
  have rdata := rdata_of_whole verified whole
  obtain ⟨some, accepted, first, second, empty⟩ := strings
  have fits := env.requestBuffer_fits
  simp only [TooLong, msgSize] at accepted rest fits room
  simp only [Whole] at whole
  have user : k + 1 ≤ 256 ∧ ∀ i < k, DataRegion env m (((pointers env m).rdata + i) % 2 ^ 32) := by
    refine ⟨by omega, fun i inside => ?_⟩
    simp only [DataRegion]
    omega
  rw [Copied, and_iff_right user]
  rcases Nat.lt_or_eq_of_le first with ends | whole_data
  · refine iff_of_true ⟨by have := second ends; omega, fun i inside => ?_⟩ (.inl ends)
    have short := second ends
    simp only [DataRegion]
    omega
  · have behind : m.cyclic ((pointers env m).rdata + k + 1) =
        m (env.requestBuffer + (header env m).messageLen.toNat + 1) :=
      congrArg m (by omega)
    rw [behind] at empty
    rw [← empty (by omega)]
    constructor
    · rintro ⟨-, inside⟩
      refine .inr (List.length_eq_zero_iff.mp (Nat.eq_zero_of_not_pos fun more => ?_))
      have region := inside 0 more
      simp only [DataRegion] at region
      omega
    · rintro (ends | rfl)
      · omega
      · exact ⟨by decide, fun i inside => absurd inside (Nat.not_lt_zero i)⟩

theorem copied_wrapped {pass : List UInt8} (verified : verifyRequest m env.requestBuffer = true)
    (wraps : ¬ Whole env m) (strings : Strings env m k pass) (zero : k = 0 ↔ m.cyclic (pointers env m).rdata = 0) :
    Copied env m k pass ↔
      m.cyclic (pointers env m).rdata = 0 ∧ m.cyclic ((pointers env m).rdata + 1) = 0 := by
  have nothing := no_region verified wraps
  have some := strings.some
  constructor
  · rintro ⟨⟨-, user⟩, -, pass_inside⟩
    have none : k = 0 := Nat.eq_zero_of_not_pos fun more => nothing _ (user 0 more)
    have empty : pass = [] :=
      List.length_eq_zero_iff.mp (Nat.eq_zero_of_not_pos fun more => nothing _ (pass_inside 0 more))
    have second := (strings.empty (by omega)).mp empty
    rw [none] at second
    exact ⟨zero.mp none, second⟩
  · rintro ⟨first, second⟩
    obtain rfl := zero.mpr first
    obtain rfl := (strings.empty (by omega)).mpr second
    exact ⟨⟨by decide, fun i inside => absurd inside (Nat.not_lt_zero i)⟩, by decide,
      fun i inside => absurd inside (Nat.not_lt_zero i)⟩

theorem strings_found (some : 1 < (header env m).dataLen.toNat) (accepted : ¬ TooLong (leading env m)) :
    Strings env m (leading env m) (secondString env m) := by
  have small := (header env m).dataLen.toNat_lt
  have first : leading env m ≤ (header env m).dataLen.toNat := Memory.length_stringWithin_le _ _ _
  exact ⟨some, accepted, first, terminated_second m small,
    terminated_second_eq_nil_iff m (by omega) small first⟩

theorem leading_eq_zero_iff (some : 1 < (header env m).dataLen.toNat) :
    leading env m = 0 ↔ m.cyclic (pointers env m).rdata = 0 := by
  obtain ⟨n, length⟩ := Nat.exists_eq_add_of_lt some
  rw [leading, length, List.length_eq_zero_iff, Memory.stringWithin_eq_nil_iff]

theorem authCopies_parsed (offered : env.authTypes &&& authUserpass ≠ 0)
    (some : 1 < (header env m).dataLen.toNat) :
    authCopies env m =
      if TooLong (leading env m) ∨ TooLong (remaining env m) then []
      else [((pointers env m).rdata, m.cyclic.stringWithin (pointers env m).rdata (header env m).dataLen.toNat),
        ((pointers env m).rdata + leading env m + 1, secondString env m)] := by
  rw [authCopies, if_pos offered, credentials_found some]
  by_cases long : TooLong (leading env m) ∨ TooLong (remaining env m)
  · rw [if_pos long, if_pos long]
  · rw [if_neg long, if_neg long]
    rfl

theorem bounded_iff {s : State}
    (memory : (execProxyAuth env n (pointers env s.memory) s).state.memory =
      s.memory.writeAll (authWrites env s.memory))
    (verified : verifyRequest s.memory env.requestBuffer = true)
    (offered : env.authTypes &&& authUserpass ≠ 0) (some : 1 < (header env s.memory).dataLen.toNat) :
    Bounded env n s ↔ (header env s.memory).messageLen.toNat < msgSize ∧
      (¬ (TooLong (leading env s.memory) ∨ TooLong (remaining env s.memory)) →
        Copied env s.memory (leading env s.memory) (secondString env s.memory)) := by
  have writes : authWrites env s.memory =
      [(env.requestBuffer + (header env s.memory).messageLen.toNat, [0])] := by
    rw [authWrites, if_pos ⟨offered, some⟩, terminator_eq verified]
  have written : (∀ piece ∈ authWrites env s.memory, env.requestBuffer ≤ piece.1 ∧
      piece.1 + piece.2.length ≤ env.requestBuffer + msgSize) ↔
        (header env s.memory).messageLen.toNat < msgSize := by
    rw [writes, List.forall_mem_singleton, List.length_singleton]
    omega
  have copies := authCopies_parsed offered some
  have copied : ((∀ copy ∈ authCopies env s.memory, copy.2.length + 1 ≤ 256) ∧
      ∀ copy ∈ authCopies env s.memory, ∀ i < copy.2.length,
        DataRegion env s.memory ((copy.1 + i) % 2 ^ 32)) ↔
      (¬ (TooLong (leading env s.memory) ∨ TooLong (remaining env s.memory)) →
        Copied env s.memory (leading env s.memory) (secondString env s.memory)) := by
    rw [copies]
    split
    · next long => simp [long]
    · next short =>
      have length : (s.memory.cyclic.stringWithin (pointers env s.memory).rdata
        (header env s.memory).dataLen.toNat).length = leading env s.memory := rfl
      simp only [List.forall_mem_cons, length, short, not_false_iff, true_implies, Copied, List.not_mem_nil,
        false_implies, implies_true, and_true]
      exact and_and_and_comm
  rw [← written, ← copied]
  constructor
  · rintro ⟨-, written, fits, inside⟩
    exact ⟨written, fits, inside⟩
  · rintro ⟨written, fits, inside⟩
    exact ⟨memory, written, fits, inside⟩

end

/-- The handler of an AUTH request with a user name and a password stays inside its buffers exactly when
there is nothing to parse, or the terminator has room and the strings are refused or end in the data. -/
theorem userpass_bounded_iff (env : Environment) (n : Nat) (s : State)
    (verified : verifyRequest s.memory env.requestBuffer = true)
    (type : s.memory.word32 (pointers env s.memory).rbody = authUserpass) :
    Bounded env n s ↔ Parsable env s.memory := by
  have memory := execProxyAuth_memory env n s type
  by_cases offered : env.authTypes &&& authUserpass ≠ 0
  · by_cases some : 1 < (header env s.memory).dataLen.toNat
    · rw [bounded_iff memory verified offered some, Parsable]
      have nothing : ¬ (env.authTypes &&& authUserpass = 0) := offered
      have parsed : ¬ (header env s.memory).dataLen.toNat ≤ 1 := Nat.not_le.mpr some
      simp only [nothing, parsed, false_or]
      refine and_congr_right fun room => ?_
      by_cases long : TooLong (leading env s.memory) ∨ TooLong (remaining env s.memory)
      · exact iff_of_true (fun short => absurd long short) (by rw [← or_assoc]; exact .inl long)
      · have accepted := not_or.mp long
        have strings := strings_found some accepted.1
        simp only [accepted, false_or, not_false_iff, true_implies]
        by_cases whole : Whole env s.memory
        · rw [copied_whole verified whole room strings (remaining_whole verified whole ▸ accepted.2)]
          simp only [whole, true_and, not_true, false_and, or_false]
        · rw [copied_wrapped verified whole strings (leading_eq_zero_iff some)]
          simp only [whole, false_and, not_false_iff, true_and, false_or]
    · refine iff_of_true ⟨memory, ?_, ?_, ?_⟩ (.inr (.inl (Nat.le_of_not_lt some)))
      · rw [authWrites, if_neg fun wanted => some wanted.2]
        simp
      · rw [authCopies, if_pos offered, credentials_short some]
        simp
      · rw [authCopies, if_pos offered, credentials_short some]
        simp
  · refine iff_of_true ⟨memory, ?_, ?_, ?_⟩ (.inl (not_not.mp offered))
    · rw [authWrites, if_neg fun wanted => offered wanted.1]
      simp
    · rw [authCopies, if_neg offered]
      simp
    · rw [authCopies, if_neg offered]
      simp

def Environment.userpass : Environment :=
  { Environment.sample with authTypes := authUserpass, authRequired := 1 }

/-- An AUTH request with these data, received over an older one of 64 bytes. -/
def userpassRequest (data : List UInt8) : State :=
  let header : RequestHeader := ⟨.ofNat (40 + data.length), 36, 4, .ofNat data.length, 1,
    MessageType.proxyAuth.code, 0, 0, 0x10000⟩
  (Connection.sample.state.receive .userpass (List.replicate 64 120)).receive .userpass
    (header.bytes ++ bytes32 authUserpass ++ data)

theorem guest_bounded_iff :
    Bounded .userpass 0 (userpassRequest "guest\x00guest\x00".toUTF8.toList) ↔
      Parsable .userpass (userpassRequest "guest\x00guest\x00".toUTF8.toList).memory :=
  userpass_bounded_iff .userpass 0 (userpassRequest "guest\x00guest\x00".toUTF8.toList)
    (by decide +kernel) (by decide +kernel)

/-- Two bytes without a zero byte: what is left of the older request becomes the password. -/
theorem unterminated_not_bounded :
    ¬ Bounded .userpass 0 (userpassRequest "ab".toUTF8.toList) := by
  intro bounded
  have inside := bounded.inside
  exact absurd inside (by decide +kernel)

end CapiProxy.Win32Server
