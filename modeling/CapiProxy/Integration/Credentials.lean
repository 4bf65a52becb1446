import CapiProxy.Win32Client.Authentication
import CapiProxy.Win32Server.StartSession
import Mathlib.Data.List.TakeWhile

/-! A user name and a password on their way from `do_auth` to `exec_proxy_auth`. Three slips are in
the way: the request does not announce them, its length is that of another request, and it carries
no session id. -/
namespace CapiProxy.Integration
open Bytes Win32Client Win32Server

/-- A string that fits the buffers of 256 bytes. -/
structure Credential where
  bytes : List UInt8
  terminated : 0 ∉ bytes
  fits : bytes.length < 256

/-- The request passes the checks, and the session is authenticated by user name and password if
`try_auth_userpass` accepts these two, whatever the registry holds. -/
structure Arrives (env : Win32Server.Environment) (n : Nat) (s : State) (user pass : List UInt8) : Prop where
  verified : verifyRequest s.memory env.requestBuffer = true
  session : verifySessionId s.memory env.requestBuffer env.session = true
  tried : ∀ registry,
    (execProxyAuth { env with registry } n (pointers env s.memory) s).state.client.authType =
        authUserpass ↔
      tryAuthUserpass registry user pass ≠ -1

/-- The request of `do_auth` in the server's buffer, when it has read the two strings. -/
def authState (env : Win32Server.Environment) (s : State) (block : Memory) (msgId authtypes : UInt32)
    (user pass : Credential) : State :=
  s.receive env (authRequest block msgId authtypes (some (user.bytes, pass.bytes))).frame

/-- A registry in which every user has this password. -/
def knows (pass : List UInt8) : Registry := ⟨some fun _ => some pass, none, none⟩

theorem knows_accepts (user pass : Credential) :
    tryAuthUserpass (knows pass.bytes) user.bytes pass.bytes ≠ -1 := by
  have whole : truncate pass.bytes = pass.bytes := by
    refine List.takeWhile_eq_self_iff.mpr fun b member => ?_
    exact decide_eq_true fun zero => pass.terminated (zero ▸ member)
  have short : pass.bytes.length ≤ 256 := Nat.le_of_lt pass.fits
  simp only [tryAuthUserpass, knows, whole, short, and_self, if_true]
  decide

theorem execProxyAuth_other (env : Win32Server.Environment) (n : Nat) (p : Pointers) (s : State)
    (other : s.memory.word32 p.rbody ≠ authUserpass) :
    (execProxyAuth env n p s).state.client.authType ≠ authUserpass := by
  have byIp : authByIp ≠ authUserpass := by decide
  have noAuth : authNoAuth ≠ authUserpass := by decide
  simp only [execProxyAuth, if_neg other]
  split
  · split
    · split
      · exact byIp
      · exact noAuth
    · exact noAuth
  · split
    · split <;> exact noAuth
    · exact noAuth

theorem credentials_of_holds {m : Memory} {p : Pointers} (user pass : Credential)
    (holds : Holds m p.rdata (credentialBytes (some (user.bytes, pass.bytes))))
    (announced : (RequestHeader.parse m p.rheader).dataLen =
      .ofNat (credentialBytes (some (user.bytes, pass.bytes))).length)
    (behind : p.rheader + sizeofRequestHeader ≤ p.rdata)
    (short : pass.bytes.length ≤ 253) (fits : p.rdata + 512 < 2 ^ 32) :
    (credentials m p).2 = some (user.bytes, pass.bytes) := by
  have first := user.fits
  have length := length_credentialBytes user.bytes pass.bytes
  have kept := (holds.write_behind [0]).cyclic (by omega)
  have name := kept.left.string user.terminated (by omega)
  have word := kept.right.string pass.terminated (by omega)
  have dataLen : (RequestHeader.parse m p.rheader).dataLen.toNat =
      (credentialBytes (some (user.bytes, pass.bytes))).length := by
    rw [announced, UInt32.toNat_ofNat', Nat.mod_eq_of_lt (by omega)]
  have end_eq : (p.rdata + (credentialBytes (some (user.bytes, pass.bytes))).length) % 2 ^ 32 =
      p.rdata + (credentialBytes (some (user.bytes, pass.bytes))).length := Nat.mod_eq_of_lt (by omega)
  rw [List.length_append, List.length_singleton, ← Nat.add_assoc] at word
  have again : RequestHeader.parse (m.write (p.rdata +
      (credentialBytes (some (user.bytes, pass.bytes))).length) [0]) p.rheader =
        RequestHeader.parse m p.rheader :=
    RequestHeader.parse_congr fun i inside => Memory.write_outside _ _ _ _ (.inl (by omega))
  have rest : ((RequestHeader.parse m p.rheader).dataLen - .ofNat user.bytes.length).toNat =
      (credentialBytes (some (user.bytes, pass.bytes))).length - user.bytes.length := by
    have small : (UInt32.ofNat user.bytes.length).toNat = user.bytes.length := by
      rw [UInt32.toNat_ofNat', Nat.mod_eq_of_lt (by omega)]
    rw [UInt32.toNat_sub_of_le _ _ (by rw [UInt32.le_iff_toNat_le, small, dataLen]; omega), small, dataLen]
  rw [credentials, if_pos (by omega), dataLen, end_eq]
  dsimp only
  rw [name, again, rest, if_neg (by simp only [TooLong]; omega), word]

def announcedRequest (session msgId : UInt32) (user pass : Credential) : List UInt8 :=
  let data := credentialBytes (some (user.bytes, pass.bytes))
  RequestHeader.bytes ⟨.ofNat (40 + data.length), 36, 4, .ofNat data.length, msgId,
      MessageType.proxyAuth.code, 0, 0, session⟩ ++ (bytes32 authUserpass ++ data)

theorem announced_arrives (env : Win32Server.Environment) (n : Nat) (s : State) (msgId : UInt32)
    (user pass : Credential) (offered : env.authTypes &&& authUserpass ≠ 0)
    (short : pass.bytes.length ≤ 253) :
    Arrives env n (s.receive env (announcedRequest env.session msgId user pass)) user.bytes pass.bytes := by
  have first := user.fits
  have room := env.requestBuffer_fits
  simp only [msgSize] at room
  have length := length_credentialBytes user.bytes pass.bytes
  generalize received : s.receive env (announcedRequest env.session msgId user pass) = t
  have holds : Holds t.memory env.requestBuffer (announcedRequest env.session msgId user pass) := by
    rw [← received]
    exact Holds.write _ _ _
  have parsed := RequestHeader.parse_of_holds holds.left
  have behind := holds.right
  rw [RequestHeader.length_bytes] at behind
  have rbody : (pointers env t.memory).rbody = env.requestBuffer + 36 := by
    rw [pointers, Win32Server.header, parsed]
    exact advance_of_fits (Nat.lt_trans (by simp) room)
  have rdata : (pointers env t.memory).rdata = env.requestBuffer + 36 + 4 := by
    have body : advance env.requestBuffer 36 = env.requestBuffer + 36 :=
      advance_of_fits (Nat.lt_trans (by simp) room)
    rw [pointers, Win32Server.header, parsed]
    dsimp only
    rw [body]
    exact advance_of_fits (Nat.lt_trans (by simp) room)
  have type : t.memory.word32 (pointers env t.memory).rbody = authUserpass := by
    rw [rbody]
    exact behind.left.word32
  have found : (credentials t.memory (pointers env t.memory)).2 = some (user.bytes, pass.bytes) := by
    have data := behind.right
    rw [length_bytes32, ← rdata] at data
    have announced := congrArg RequestHeader.dataLen parsed
    refine credentials_of_holds user pass data announced ?_ short (by omega)
    rw [rdata]
    exact Nat.le_add_right _ 4
  constructor
  · rw [verifyRequest_iff, parsed]
    dsimp only
    refine ⟨by decide, by decide, ?_, (UInt32.ofNat_add 40 _).symm⟩
    rw [UInt32.toNat_ofNat', msgSize]
    exact (Nat.mod_le _ _).trans (by omega)
  · rw [verifySessionId, parsed]
    exact beq_self_eq_true _
  · intro registry
    have other : authUserpass ≠ authByIp := by decide
    simp only [execProxyAuth, type, if_neg other, if_true, if_pos offered, found]
    by_cases accepted : tryAuthUserpass registry user.bytes pass.bytes ≠ -1
    · rw [if_pos accepted]
      exact iff_of_true rfl accepted
    · rw [if_neg accepted]
      exact iff_of_false (show authNoAuth ≠ authUserpass by decide) accepted

section received
variable (env : Win32Server.Environment) (s : State) (block : Memory) (msgId authtypes : UInt32)
  (user pass : Credential)

theorem authState_header : header env (authState env s block msgId authtypes user pass).memory =
    authHeader block msgId (credentialBytes
      (authMethod authtypes (some (user.bytes, pass.bytes))).2).length := by
  obtain ⟨data, frame⟩ := authRequest_frame block msgId authtypes (some (user.bytes, pass.bytes))
  rw [authState, frame]
  exact RequestHeader.parse_of_holds (Holds.left (Holds.write _ _ _))

theorem authState_type : (authState env s block msgId authtypes user pass).memory.word32
    (pointers env (authState env s block msgId authtypes user pass).memory).rbody =
      (authMethod authtypes (some (user.bytes, pass.bytes))).1 := by
  have room := env.requestBuffer_fits
  have length : (authHeader block msgId (credentialBytes
    (authMethod authtypes (some (user.bytes, pass.bytes))).2).length).headerLen.toNat = 36 := rfl
  simp only [msgSize] at room
  rw [pointers, authState_header, advance_of_fits (by rw [length]; omega), length]
  obtain ⟨data, frame⟩ := authRequest_frame block msgId authtypes (some (user.bytes, pass.bytes))
  have behind := Holds.right (Holds.write s.memory env.requestBuffer
    ((authHeader block msgId (credentialBytes
      (authMethod authtypes (some (user.bytes, pass.bytes))).2).length).bytes ++
        (bytes32 (authMethod authtypes (some (user.bytes, pass.bytes))).1 ++ data)))
  rw [RequestHeader.length_bytes] at behind
  rw [authState, frame]
  exact behind.left.word32

theorem authMethod_ne (credentials : Option (List UInt8 × List UInt8)) :
    (authMethod authtypes credentials).1 ≠ authUserpass := by
  simp only [authMethod]
  split <;> decide

/-- The length of the message is right for 72 bytes of data only. -/
theorem authState_verified_iff (offered : authtypes &&& authByIp = 0 ∧ authtypes &&& authUserpass ≠ 0) :
    verifyRequest (authState env s block msgId authtypes user pass).memory env.requestBuffer = true ↔
      user.bytes.length + pass.bytes.length = 70 := by
  have parsed := authState_header env s block msgId authtypes user pass
  have length : (credentialBytes (authMethod authtypes (some (user.bytes, pass.bytes))).2).length =
      user.bytes.length + pass.bytes.length + 2 := by
    have type : (authMethod authtypes (some (user.bytes, pass.bytes))).2 = some (user.bytes, pass.bytes) := by
      simp only [authMethod, offered.1, ne_eq, not_true, if_false]
      exact if_pos ⟨rfl, offered.2⟩
    rw [type, length_credentialBytes]
  have long := user.fits
  have long' := pass.fits
  rw [Win32Server.header] at parsed
  rw [verifyRequest_iff, parsed]
  dsimp only [authHeader]
  have words : (36 + 4 : UInt32).toNat = 40 ∧ (112 : UInt32).toNat = 112 := ⟨rfl, rfl⟩
  rw [length, ← UInt32.toNat_inj, UInt32.toNat_add, UInt32.toNat_ofNat', words.1, words.2]
  constructor
  · rintro ⟨-, -, -, sum⟩
    omega
  · intro total
    exact ⟨by decide, by decide, by decide, by omega⟩

/-- The session id of the request is what was in the block. -/
theorem authState_session_iff : verifySessionId (authState env s block msgId authtypes user pass).memory
    env.requestBuffer env.session = true ↔ (RequestHeader.parse block 0).sessionId = env.session := by
  have parsed := authState_header env s block msgId authtypes user pass
  rw [Win32Server.header] at parsed
  rw [verifySessionId, parsed, beq_iff_eq]
  rfl

theorem authState_not_tried (n : Nat) : ¬ Arrives env n (authState env s block msgId authtypes user pass)
    user.bytes pass.bytes := by
  intro arrives
  have other : (authState env s block msgId authtypes user pass).memory.word32
      (pointers env (authState env s block msgId authtypes user pass).memory).rbody ≠ authUserpass := by
    rw [authState_type]
    exact authMethod_ne authtypes _
  exact execProxyAuth_other _ n _ _ other
    ((arrives.tried (knows pass.bytes)).mpr (knows_accepts user pass))

end received

/-- No user name and no password reaches `try_auth_userpass`. The checks in front of the handler
pass only strings of 70 bytes together, and those only when the block happens to hold the session
id. -/
theorem credentials_never_arrive (env : Win32Server.Environment) (n : Nat) (s : State)
    (block : Memory) (msgId authtypes : UInt32) (user pass : Credential) :
    ¬ Arrives env n (authState env s block msgId authtypes user pass) user.bytes pass.bytes ∧
    (authtypes &&& authByIp = 0 ∧ authtypes &&& authUserpass ≠ 0 →
      (verifyRequest (authState env s block msgId authtypes user pass).memory env.requestBuffer = true ↔
        user.bytes.length + pass.bytes.length = 70)) ∧
    (verifySessionId (authState env s block msgId authtypes user pass).memory env.requestBuffer
      env.session = true ↔ (RequestHeader.parse block 0).sessionId = env.session) :=
  ⟨authState_not_tried env s block msgId authtypes user pass n,
    authState_verified_iff env s block msgId authtypes user pass,
    authState_session_iff env s block msgId authtypes user pass⟩

def userpassServer : Win32Server.Environment :=
  { Win32Server.Environment.sample with authTypes := authUserpass, authRequired := 1 }

def guest : Credential := ⟨"guest".toUTF8.toList, by decide +kernel, by decide +kernel⟩

/-- A guest with the password `guest` is not let in. -/
theorem guest_not_arrives :
    ¬ Arrives userpassServer 1
      (authState userpassServer Win32Server.Connection.sample.state zeros 1 userpassServer.authTypes guest guest)
      guest.bytes guest.bytes :=
  authState_not_tried userpassServer Win32Server.Connection.sample.state zeros 1 userpassServer.authTypes
    guest guest 1

end CapiProxy.Integration
