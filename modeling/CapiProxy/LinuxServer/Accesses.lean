import CapiProxy.LinuxServer.Main

/-! The memory the handlers touch. Nothing compares the offsets and lengths of a request with the length
of its frame, nor those of a received message with the answer buffer, so every handler goes where they
lead. -/
namespace CapiProxy.LinuxServer
open Bytes

/-- What an access is meant for: the frame of the request, its data region, `client_info.name`, the
blocks that `exec_proxy_auth` and `up_auth` allocate, `out_packet`, and the member of the answer or the
local array where a call of the CAPI stores its result. -/
inductive Region where
  | frame
  | data
  | clientName
  | authdata
  | uname
  | passwd
  | outPacket
  | result (type : MessageType)
  deriving DecidableEq, Repr

/-- The blocks `malloc` returns for an AUTH request, the first one with its contents. -/
structure Blocks where
  authdata : Option Memory
  uname : Bool
  passwd : Bool

/-- `length` bytes that are read or written, from an offset that is added up as an address is. -/
structure Access where
  region : Region
  offset : UInt32
  length : Nat

/-- The start of the data, relative to the frame. -/
def dataOffset (env : Environment) (m : Memory) : UInt32 :=
  (request env m).headerLen + (request env m).bodyLen

def credentialLengths (env : Environment) (blocks : Blocks) (m : Memory) : UInt32 × UInt32 :=
  let authdata := (blocks.authdata.getD zeros).write 0
    (m.read (requestData env m) (request env m).dataLen.toNat)
  (authdata.word32 0, authdata.word32 4)

/-- How many bytes there are; a null pointer leads to none. -/
def regionSize (env : Environment) (blocks : Blocks) (m : Memory) : Region → Nat
  | .frame => (request env m).messageLen.toNat
  | .data => (request env m).dataLen.toNat
  | .clientName => 64
  | .authdata => if blocks.authdata.isSome then (request env m).dataLen.toNat else 0
  | .uname => if blocks.uname then (credentialLengths env blocks m).1.toNat else 0
  | .passwd => if blocks.passwd then (credentialLengths env blocks m).2.toNat else 0
  | .outPacket => packetSize
  | .result type => type.sizeofAnswer .gnuC

def Access.Inside (size : Region → Nat) (a : Access) : Prop :=
  ∀ i < a.length, (a.offset + .ofNat i).toNat < size a.region

/-- An access to the data is one to the frame. -/
def dataAccess (env : Environment) (m : Memory) (offset length : Nat) : List Access :=
  [⟨.frame, dataOffset env m + .ofNat offset, length⟩, ⟨.data, .ofNat offset, length⟩]

def registerAccesses (env : Environment) (m : Memory) : List Access :=
  [⟨.frame, (request env m).headerLen, 16⟩]

/-- `strcpy` reads and writes the name up to its terminator. -/
def heloAccesses (env : Environment) (m : Memory) : List Access :=
  let body := (request env m).headerLen
  let name := (m.string (requestBody env m)).length + 1
  [⟨.frame, body + 64, 4⟩, ⟨.frame, body + 68, 8⟩, ⟨.frame, body, name⟩, ⟨.clientName, 0, name⟩]

def upAuthAccesses (unameLen passwdLen : UInt32) : List Access :=
  [⟨.authdata, 0, 4⟩, ⟨.authdata, 4, 4⟩, ⟨.authdata, 8, unameLen.toNat⟩, ⟨.uname, 0, unameLen.toNat⟩,
    ⟨.authdata, 8 + unameLen, passwdLen.toNat⟩, ⟨.passwd, 0, passwdLen.toNat⟩]

/-- At its end `exec_proxy_auth` sets `data_len` of the request to 0. -/
def authAccesses (env : Environment) (blocks : Blocks) (m : Memory) : List Access :=
  let dataLen := (request env m).dataLen.toNat
  let (unameLen, passwdLen) := credentialLengths env blocks m
  ⟨.frame, (request env m).headerLen, 4⟩ ::
    (if m.word32 (requestBody env m) &&& authUserpass ≠ 0 then
      ⟨.frame, dataOffset env m, dataLen⟩ :: ⟨.authdata, 0, dataLen⟩ :: upAuthAccesses unameLen passwdLen
    else []) ++ [⟨.frame, 12, 4⟩]

/-- The checks of `exec_capi_putmessage`, its new payload address, and what the CAPI reads of the
message and the payload it is handed. -/
def putAccesses (env : Environment) (m : Memory) : List Access :=
  let dataLen := (request env m).dataLen
  let msg := requestData env m
  let len1 := m.word16 msg
  let len2 := m.word16 (msg + 16)
  let access := dataAccess env m
  if dataLen < 8 then []
  else access 0 2 ++
    if dataLen.toNat < len1 then []
    else access 4 2 ++
      if isDataB3Req m msg then
        if len1 < 18 then []
        else access 16 2 ++
          if dataLen.toNat < len1 + len2 then []
          else access 12 4 ++ (access 0 len1 ++ access len1 len2)
      else access 0 len1

/-- The message and the payload that `exec_capi_getmessage` copies behind the header of its answer. It
looks for the fields of the message in the copy. -/
def getAccesses (reply : CapiReply) (rest : Memory) : List Access :=
  let len1 := reply.memory.word16 reply.message
  let copy := copiedPart 0 reply rest
  let access (offset length : Nat) : Access := ⟨.outPacket, .ofNat (sizeofAnswerHeader + offset), length⟩
  if reply.code ≠ 0 then []
  else access 0 len1 :: access 4 1 :: access 5 1 ::
    if isDataB3Ind copy 0 ∧ 18 ≤ len1 then [access 16 2, access 12 4, access len1 (copy.word16 16)]
    else []

def getReply (env : Environment) (s : Session) (m : Memory) : CapiReply :=
  env.capi s.history (.getMessage (request env m).appId)

/-- How many bytes the CAPI stores where the handler tells it to. -/
def storedLength (env : Environment) (s : Session) (m : Memory) (type : MessageType) : Nat :=
  let stored (call : CapiCall) := (env.capi s.history call).output.length
  let controller := (request env m).controllerId
  match type with
  | .capiManufacturer => stored (.getManufacturer controller)
  | .capiVersion => stored (.getVersion controller)
  | .capiSerial => stored (.getSerialNumber controller)
  | .capiProfile => stored (.getProfile controller)
  | .capiInstalled => stored .installed
  | _ => 0

/-- What the handlers touch that look further than the header of the request and the body of the answer. -/
def ownAccesses (env : Environment) (blocks : Blocks) (s : Session) (m : Memory) : MessageType → List Access
  | .capiRegister => registerAccesses env m
  | .capiPutmessage => putAccesses env m
  | .capiGetmessage => getAccesses (getReply env s m) s.outPacket.rest
  | .proxyHelo => heloAccesses env m
  | .proxyAuth => authAccesses env blocks m
  | _ => []

/-- What the handler of a request touches, and what the CAPI does on its behalf. -/
def accesses (env : Environment) (blocks : Blocks) (s : Session) (m : Memory) (type : MessageType) :
    List Access :=
  ⟨.frame, 0, sizeofRequestHeader⟩ :: ⟨.outPacket, 0, sizeofAnswerHeader + type.sizeofAnswer .gnuC⟩ ::
    ⟨.result type, 0, storedLength env s m type⟩ :: ownAccesses env blocks s m type

/-- The handler of the request, if the switch calls one, stays where it should. -/
def Contained (env : Environment) (blocks : Blocks) (s : Session) (m : Memory) : Prop :=
  ∀ type handler, selected env m = some (type, handler) →
    ∀ access ∈ accesses env blocks s m type, access.Inside (regionSize env blocks m)

/-- How much of the data `exec_capi_putmessage` touches. -/
def touched (env : Environment) (m : Memory) : Nat :=
  let dataLen := (request env m).dataLen.toNat
  let len1 := m.word16 (requestData env m)
  let len2 := m.word16 (requestData env m + 16)
  if dataLen < 8 then 0
  else if dataLen < len1 then 2
  else if isDataB3Req m (requestData env m) then
    if len1 < 18 then 6 else if dataLen < len1 + len2 then 18 else len1 + len2
  else max 6 len1

def copiedLength (reply : CapiReply) : Nat :=
  let len1 := reply.memory.word16 reply.message
  if reply.code ≠ 0 then 0
  else if isDataB3Ind reply.memory reply.message ∧ 18 ≤ len1 then
    len1 + reply.memory.word16 (reply.message + 16)
  else len1

/-- The credentials and the two blocks for them have room in the data and in memory. -/
structure CredentialsFit (env : Environment) (blocks : Blocks) (m : Memory) : Prop where
  frame : (dataOffset env m).toNat + (request env m).dataLen.toNat ≤ (request env m).messageLen.toNat
  authdata : blocks.authdata.isSome = true
  lengths : 8 + (credentialLengths env blocks m).1.toNat + (credentialLengths env blocks m).2.toNat ≤
    (request env m).dataLen.toNat
  uname : blocks.uname = true ∨ (credentialLengths env blocks m).1 = 0
  passwd : blocks.passwd = true ∨ (credentialLengths env blocks m).2 = 0

/-- The frame has what the handler of the request looks for, and the answer has room for what the CAPI
returns. -/
def Covers (env : Environment) (blocks : Blocks) (s : Session) (m : Memory) : MessageType → Prop
  | .capiRegister => (request env m).headerLen.toNat + 16 ≤ (request env m).messageLen.toNat
  | .capiPutmessage => touched env m = 0 ∨
      (dataOffset env m).toNat + touched env m ≤ (request env m).messageLen.toNat
  | .capiGetmessage => sizeofAnswerHeader + copiedLength (getReply env s m) ≤ packetSize
  | .proxyHelo => (request env m).headerLen.toNat + 76 ≤ (request env m).messageLen.toNat ∧
      (m.string (requestBody env m)).length < 64
  | .proxyAuth => (request env m).headerLen.toNat + 4 ≤ (request env m).messageLen.toNat ∧
      (m.word32 (requestBody env m) &&& authUserpass ≠ 0 → CredentialsFit env blocks m)
  | type => storedLength env s m type ≤ type.sizeofAnswer .gnuC

theorem Access.inside_iff {size : Region → Nat} {a : Access} (small : size a.region < 2 ^ 32) :
    a.Inside size ↔ a.length = 0 ∨ a.offset.toNat + a.length ≤ size a.region := by
  have offset := a.offset.toNat_lt
  constructor
  · intro inside
    refine or_iff_not_imp_left.mpr fun some => ?_
    have first := inside 0 (Nat.pos_of_ne_zero some)
    rw [UInt32.toNat_add, UInt32.toNat_ofNat'] at first
    -- the first byte behind the region would be touched
    by_contra beyond
    have last := inside (size a.region - a.offset.toNat) (by omega)
    rw [UInt32.toNat_add, UInt32.toNat_ofNat'] at last
    omega
  · rintro (none | whole) i inside
    · omega
    · rw [UInt32.toNat_add, UInt32.toNat_ofNat']
      omega

theorem regionSize_lt (env : Environment) (blocks : Blocks) (m : Memory) (region : Region) :
    regionSize env blocks m region < 2 ^ 32 := by
  cases region <;> simp only [regionSize]
  case frame => exact UInt32.toNat_lt _
  case data => exact UInt32.toNat_lt _
  case clientName | outPacket => decide
  case result type => cases type <;> decide
  all_goals
    split
    · exact UInt32.toNat_lt _
    · decide

section handlers
variable {env : Environment} {blocks : Blocks} {s : Session} {m : Memory}

theorem inside_region {a : Access} : a.Inside (regionSize env blocks m) ↔
    a.length = 0 ∨ a.offset.toNat + a.length ≤ regionSize env blocks m a.region :=
  Access.inside_iff (regionSize_lt env blocks m a.region)

theorem register_contained_iff :
    (∀ access ∈ registerAccesses env m, access.Inside (regionSize env blocks m)) ↔
      Covers env blocks s m .capiRegister := by
  simp [registerAccesses, inside_region, regionSize, Covers]

/-- The name is read from its first byte on, so the addresses of the other members do not wrap. -/
theorem helo_contained_iff (small : (request env m).messageLen.toNat ≤ packetSize) :
    (∀ access ∈ heloAccesses env m, access.Inside (regionSize env blocks m)) ↔
      Covers env blocks s m .proxyHelo := by
  have os : UInt32.toNat 64 = 64 := rfl
  have version : UInt32.toNat 68 = 68 := rfl
  have start : UInt32.toNat 0 = 0 := rfl
  simp only [packetSize] at small
  simp only [heloAccesses, List.forall_mem_cons, List.not_mem_nil, false_imp_iff, implies_true, and_true,
    inside_region, regionSize, Covers, UInt32.toNat_add, os, version, start]
  omega

theorem upAuth_contained_iff :
    (∀ access ∈ (⟨.authdata, 0, (request env m).dataLen.toNat⟩ :: upAuthAccesses
        (credentialLengths env blocks m).1 (credentialLengths env blocks m).2 : List Access),
      access.Inside (regionSize env blocks m)) ↔
      blocks.authdata.isSome = true ∧
        8 + (credentialLengths env blocks m).1.toNat + (credentialLengths env blocks m).2.toNat ≤
          (request env m).dataLen.toNat ∧
        (blocks.uname = true ∨ (credentialLengths env blocks m).1 = 0) ∧
        (blocks.passwd = true ∨ (credentialLengths env blocks m).2 = 0) := by
  have start : UInt32.toNat 0 = 0 := rfl
  have second : UInt32.toNat 4 = 4 := rfl
  have behind : UInt32.toNat 8 = 8 := rfl
  simp only [upAuthAccesses, List.forall_mem_cons, List.not_mem_nil, false_imp_iff, implies_true, and_true,
    inside_region, regionSize, UInt32.toNat_add, start, second, behind, ← UInt32.toNat_inj]
  have small := (request env m).dataLen.toNat_lt
  generalize (request env m).dataLen.toNat = dataLen at small ⊢
  generalize (credentialLengths env blocks m).1.toNat = unameLen
  generalize (credentialLengths env blocks m).2.toNat = passwdLen
  cases blocks.authdata.isSome with
  | false =>
    refine iff_of_false (fun inside => ?_) fun fit => Bool.false_ne_true fit.1
    exact absurd inside.2.1 (by simp)
  | true =>
    cases blocks.uname <;> cases blocks.passwd <;>
      simp only [Bool.false_eq_true, if_true, if_false, true_and, and_true, true_or, false_or] <;> omega

theorem credentialsFit_iff : CredentialsFit env blocks m ↔
    (dataOffset env m).toNat + (request env m).dataLen.toNat ≤ (request env m).messageLen.toNat ∧
      blocks.authdata.isSome = true ∧
      8 + (credentialLengths env blocks m).1.toNat + (credentialLengths env blocks m).2.toNat ≤
        (request env m).dataLen.toNat ∧
      (blocks.uname = true ∨ (credentialLengths env blocks m).1 = 0) ∧
      (blocks.passwd = true ∨ (credentialLengths env blocks m).2 = 0) :=
  ⟨fun ⟨frame, authdata, lengths, uname, passwd⟩ => ⟨frame, authdata, lengths, uname, passwd⟩,
    fun ⟨frame, authdata, lengths, uname, passwd⟩ => ⟨frame, authdata, lengths, uname, passwd⟩⟩

theorem auth_contained_iff (framed : sizeofRequestHeader ≤ (request env m).messageLen.toNat) :
    (∀ access ∈ authAccesses env blocks m, access.Inside (regionSize env blocks m)) ↔
      Covers env blocks s m .proxyAuth := by
  have last : Access.Inside (regionSize env blocks m) ⟨.frame, 12, 4⟩ :=
    inside_region.mpr (.inr (Nat.le_trans (by decide) framed))
  have type : Access.Inside (regionSize env blocks m) ⟨.frame, (request env m).headerLen, 4⟩ ↔
      (request env m).headerLen.toNat + 4 ≤ (request env m).messageLen.toNat := by
    simp [inside_region, regionSize]
  simp only [authAccesses, List.cons_append, List.forall_mem_cons, Covers, type]
  refine and_congr_right fun _ => ?_
  by_cases userpass : m.word32 (requestBody env m) &&& authUserpass = 0
  · simp [userpass, last]
  · rw [if_pos userpass, List.forall_mem_append, List.forall_mem_cons, upAuth_contained_iff, inside_region,
      credentialsFit_iff]
    simp only [List.mem_singleton, forall_eq, last, and_true, regionSize, ne_eq, userpass, not_false_eq_true,
      true_imp_iff]
    refine and_congr_left fun ⟨_, lengths, _⟩ => ?_
    omega

theorem dataAccess_iff (offset length : Nat) (fits : (dataOffset env m).toNat + offset < 2 ^ 32)
    (inside : offset + length ≤ (request env m).dataLen.toNat) :
    (∀ access ∈ dataAccess env m offset length, access.Inside (regionSize env blocks m)) ↔
      length = 0 ∨ (dataOffset env m).toNat + offset + length ≤ (request env m).messageLen.toNat := by
  have small := (request env m).dataLen.toNat_lt
  simp only [dataAccess, List.forall_mem_cons, List.not_mem_nil, false_imp_iff, implies_true, and_true,
    inside_region, regionSize, UInt32.toNat_add, UInt32.toNat_ofNat']
  rw [Nat.mod_eq_of_lt (show offset < 2 ^ 32 by omega), Nat.mod_eq_of_lt fits]
  omega

/-- The first two bytes are read whatever follows, so later offsets do not wrap. -/
theorem put_contained_iff (small : (request env m).messageLen.toNat ≤ packetSize) :
    (∀ access ∈ putAccesses env m, access.Inside (regionSize env blocks m)) ↔
      Covers env blocks s m .capiPutmessage := by
  have eight : UInt32.toNat 8 = 8 := rfl
  have len1 := m.word16_lt (requestData env m)
  have len2 := m.word16_lt (requestData env m + 16)
  have start := (dataOffset env m).toNat_lt
  simp only [packetSize] at small
  simp only [putAccesses, Covers, touched, UInt32.lt_iff_toNat_lt, eight]
  by_cases none : (request env m).dataLen.toNat < 8
  · simp [none]
  · have first : (∀ access ∈ dataAccess env m 0 2, access.Inside (regionSize env blocks m)) ↔ _ :=
      dataAccess_iff 0 2 start (by omega)
    simp only [if_neg none, List.forall_mem_append, first]
    by_cases two : (dataOffset env m).toNat + 2 ≤ (request env m).messageLen.toNat
    · have access (offset length : Nat) (near : offset < 2 ^ 16)
          (inside : offset + length ≤ (request env m).dataLen.toNat) :
          (∀ access ∈ dataAccess env m offset length, access.Inside (regionSize env blocks m)) ↔ _ :=
        dataAccess_iff offset length (by omega) inside
      split
      · simp only [List.not_mem_nil, false_imp_iff, implies_true, and_true]
      · next long =>
        rw [List.forall_mem_append, access 4 2 (by decide) (by omega)]
        split
        · split
          · simp only [List.not_mem_nil, false_imp_iff, implies_true, and_true]
            omega
          · next fields =>
            rw [List.forall_mem_append, access 16 2 (by decide) (by omega)]
            split
            · simp only [List.not_mem_nil, false_imp_iff, implies_true, and_true]
              omega
            · next whole =>
              rw [List.forall_mem_append, List.forall_mem_append, access 12 4 (by decide) (by omega),
                access 0 _ (by decide) (by omega), access _ _ len1 (by omega)]
              omega
        · rw [access 0 _ (by decide) (by omega)]
          omega
    · refine iff_of_false (fun all => by omega) ?_
      split
      · omega
      · split
        · split
          · omega
          · split <;> omega
        · omega

theorem get_contained_iff (reply : CapiReply) (rest : Memory) :
    (∀ access ∈ getAccesses reply rest, access.Inside (regionSize env blocks m)) ↔
      sizeofAnswerHeader + copiedLength reply ≤ packetSize := by
  have len1 := reply.memory.word16_lt reply.message
  have header : sizeofAnswerHeader = 40 := rfl
  have size : packetSize = 10000 := rfl
  have access (offset length : Nat) (near : offset < 2 ^ 16) :
      Access.Inside (regionSize env blocks m)
        ⟨.outPacket, .ofNat (sizeofAnswerHeader + offset), length⟩ ↔
      length = 0 ∨ sizeofAnswerHeader + offset + length ≤ packetSize := by
    rw [inside_region, UInt32.toNat_ofNat', Nat.mod_eq_of_lt (by omega)]
    rfl
  simp only [getAccesses, copiedLength]
  by_cases success : reply.code = 0
  · simp only [success, ne_eq, not_true_eq_false, if_false, List.forall_mem_cons,
      access 0 _ (by decide), access 4 _ (by decide), access 5 _ (by decide)]
    by_cases long : 18 ≤ reply.memory.word16 reply.message
    · have kind := copiedPart_isDataB3Ind 0 reply rest (show 6 ≤ _ by omega)
      have length2 := copiedPart_word16 0 reply rest (show 16 + 2 ≤ _ by omega)
      rw [Nat.zero_add] at length2
      by_cases data : isDataB3Ind reply.memory reply.message = true
      · rw [if_pos ⟨kind.trans data, long⟩, if_pos ⟨data, long⟩]
        simp only [List.forall_mem_cons, List.not_mem_nil, false_imp_iff, implies_true, and_true,
          access 16 _ (by decide), access 12 _ (by decide), access _ _ len1, length2]
        omega
      · rw [if_neg fun h => data (kind.symm.trans h.1), if_neg fun h => data h.1]
        simp only [List.not_mem_nil, false_imp_iff, implies_true, and_true]
        omega
    · simp only [long, and_false, if_false, List.not_mem_nil, false_imp_iff, implies_true, and_true]
      omega
  · simp only [success, ne_eq, not_false_eq_true, if_true, List.not_mem_nil, false_imp_iff, implies_true,
      true_iff]
    decide

theorem accesses_contained_iff (framed : sizeofRequestHeader ≤ (request env m).messageLen.toNat)
    (small : (request env m).messageLen.toNat ≤ packetSize) (type : MessageType) :
    (∀ access ∈ accesses env blocks s m type, access.Inside (regionSize env blocks m)) ↔
      Covers env blocks s m type := by
  have header : Access.Inside (regionSize env blocks m) ⟨.frame, 0, sizeofRequestHeader⟩ :=
    inside_region.mpr (.inr (by simpa [regionSize] using framed))
  have answer : Access.Inside (regionSize env blocks m)
      ⟨.outPacket, 0, sizeofAnswerHeader + type.sizeofAnswer .gnuC⟩ := by
    have small : sizeofAnswerHeader + type.sizeofAnswer .gnuC ≤ packetSize := by cases type <;> decide
    rw [inside_region, UInt32.toNat_zero, Nat.zero_add]
    exact .inr small
  have result : Access.Inside (regionSize env blocks m) ⟨.result type, 0, storedLength env s m type⟩ ↔
      storedLength env s m type ≤ type.sizeofAnswer .gnuC := by
    rw [inside_region, UInt32.toNat_zero, Nat.zero_add]
    exact or_iff_right_of_imp fun none => none ▸ Nat.zero_le _
  simp only [accesses, List.forall_mem_cons, header, answer, result, true_and]
  cases type
  case capiRegister => exact (and_iff_right (Nat.zero_le _)).trans register_contained_iff
  case capiPutmessage => exact (and_iff_right (Nat.zero_le _)).trans (put_contained_iff small)
  case capiGetmessage => exact (and_iff_right (Nat.zero_le _)).trans (get_contained_iff _ _)
  case proxyHelo => exact (and_iff_right (Nat.zero_le _)).trans (helo_contained_iff small)
  case proxyAuth => exact (and_iff_right (Nat.zero_le _)).trans (auth_contained_iff framed)
  all_goals exact and_iff_left (List.forall_mem_nil _)

theorem not_contained (type : MessageType) (arm : MessageType.ofCode (request env m).messageType = some type)
    (answered : type.isAnswered = true)
    (known : type.isCapi = true → (request env m).sessionId = env.sessionID)
    (framed : sizeofRequestHeader ≤ (request env m).messageLen.toNat)
    (small : (request env m).messageLen.toNat ≤ packetSize) (uncovered : ¬ Covers env blocks s m type) :
    ¬ Contained env blocks s m := by
  intro contained
  obtain ⟨handler, found⟩ := selected_answered arm answered known
  exact uncovered ((accesses_contained_iff framed small type).mp (contained type handler found))

end handlers

/-- The bytes of the frame stand alike in another memory. -/
def SameFrame (env : Environment) (m m' : Memory) : Prop :=
  ∀ i < (request env m).messageLen.toNat, m' (env.inPacket + i) = m (env.inPacket + i)

section confined
variable {env : Environment} {blocks : Blocks} {s : Session} {m m' : Memory} {type : MessageType}
  {handler : Handler}

theorem SameFrame.header (same : SameFrame env m m')
    (framed : sizeofRequestHeader ≤ (request env m).messageLen.toNat) : request env m' = request env m :=
  RequestHeader.parse_congr fun i inside => same i (Nat.lt_of_lt_of_le inside framed)

theorem requestBody_eq (inside : (request env m).headerLen.toNat ≤ packetSize) :
    requestBody env m = env.inPacket + (request env m).headerLen.toNat := by
  have fits := env.inPacket_fits
  exact advance_of_fits (by omega)

theorem requestData_eq (inside : (dataOffset env m).toNat ≤ packetSize) :
    requestData env m = env.inPacket + (dataOffset env m).toNat := by
  have fits := env.inPacket_fits
  simp only [requestData, requestBody, advance, dataOffset, UInt32.toNat_add] at inside ⊢
  omega

theorem SameFrame.body (same : SameFrame env m m') (small : (request env m).messageLen.toNat ≤ packetSize)
    (inside : (request env m).headerLen.toNat + n ≤ (request env m).messageLen.toNat) :
    ∀ i < n, m' (requestBody env m + i) = m (requestBody env m + i) := by
  intro i here
  rw [requestBody_eq (by omega), Nat.add_assoc]
  exact same _ (by omega)

theorem acceptPut_touched (accepted : acceptPut m (requestData env m) (request env m).dataLen = some m') :
    m' = m ∨ m' = setPointer m (requestData env m) (m.word16 (requestData env m)) ∧ 18 ≤ touched env m := by
  obtain ⟨⟨header, message, payload⟩, rfl⟩ := acceptPut_iff.mp accepted
  cases data : isDataB3Req m (requestData env m) with
  | false => exact .inl rfl
  | true =>
    obtain ⟨fields, whole⟩ := payload data
    refine .inr ⟨rfl, ?_⟩
    simp only [touched, data, if_true, if_neg (Nat.not_lt.mpr header), if_neg (Nat.not_lt.mpr message),
      if_neg (Nat.not_lt.mpr fields), if_neg (Nat.not_lt.mpr whole)]
    omega

/-- A handler that stays inside the frame writes nothing outside of it. -/
theorem handler_writes (found : selected env m = some (type, handler)) (covers : Covers env blocks s m type)
    (framed : sizeofRequestHeader ≤ (request env m).messageLen.toNat)
    (small : (request env m).messageLen.toNat ≤ packetSize) (n : Nat)
    (outside : q < env.inPacket ∨ env.inPacket + (request env m).messageLen.toNat ≤ q) :
    (handler env n s m).memory q = m q := by
  obtain ⟨-, arm, -⟩ := selected_some found
  cases type <;> cases arm <;> try rfl
  case capiPutmessage =>
    simp only [execCapiPutmessage]
    split
    · rfl
    · next memory accepted =>
      obtain rfl | ⟨rfl, long⟩ := acceptPut_touched accepted
      · rfl
      · have inside : (dataOffset env m).toNat + touched env m ≤ (request env m).messageLen.toNat :=
          covers.resolve_left (by omega)
        have data := requestData_eq (show (dataOffset env m).toNat ≤ packetSize by omega)
        exact Memory.write_outside _ _ _ _ (by rw [length_bytes32]; omega)
  case proxyAuth =>
    have header : sizeofRequestHeader = 36 := rfl
    exact Memory.write_outside _ _ _ _ (by rw [length_bytes32]; omega)
  case capiWaitforsignal =>
    simp only [execCapiWaitforsignal]
    split <;> rfl

theorem copyMessage_behind {a : AnswerBuffer} (code : a.head.capiError = reply.code)
    (fits : sizeofAnswerHeader + copiedLength reply ≤ packetSize) (behind : packetSize - sizeofAnswerHeader ≤ q) :
    (copyMessage 0 reply a).rest q = a.rest q := by
  by_cases success : reply.code = 0
  · have long : reply.memory.word16 reply.message ≤ copiedLength reply := by
      simp only [copiedLength, success, ne_eq, not_true_eq_false, if_false]
      split <;> omega
    have message : copiedPart 0 reply a.rest q = a.rest q :=
      Memory.write_outside _ _ _ _ (.inr (by rw [Memory.length_read]; omega))
    cases kind : isDataB3Ind (copiedPart 0 reply a.rest) 0 with
    | false =>
      rw [copyMessage_plain (code.trans success) kind]
      exact message
    | true =>
      rcases Nat.lt_or_ge (reply.memory.word16 reply.message) 18 with short | fields
      · rw [copyMessage_reported (code.trans success) kind short]
        exact message
      · have data := (copiedPart_isDataB3Ind 0 reply a.rest (by omega)).symm.trans kind
        have length2 := copiedPart_word16 0 reply a.rest (show 16 + 2 ≤ _ by omega)
        have whole : copiedLength reply =
            reply.memory.word16 reply.message + reply.memory.word16 (reply.message + 16) := by
          simp only [copiedLength, success, ne_eq, not_true_eq_false, if_false, data, fields, and_self,
            if_true]
        rw [copyMessage_payload (code.trans success) kind fields, length2]
        refine (Memory.write_outside _ _ _ _ (.inr ?_)).trans message
        rw [Memory.length_read]
        omega
  · rw [copyMessage_failed (code ▸ success)]

theorem handler_answers (found : selected env m = some (type, handler)) (covers : Covers env blocks s m type)
    (n : Nat) (answered : (handler env n s m).answer = some answer)
    (behind : packetSize - sizeofAnswerHeader ≤ q) : answer.rest q = s.outPacket.rest q := by
  have room : 84 ≤ q := Nat.le_trans (by decide) behind
  have body (bytes : List UInt8) (start : Nat) (small : start + bytes.length ≤ 84) (rest : Memory) :
      (rest.write start bytes) q = rest q := Memory.write_outside _ _ _ _ (.inr (by omega))
  obtain ⟨-, arm, -⟩ := selected_some found
  cases type <;> cases arm
  case capiPutmessage =>
    simp only [execCapiPutmessage] at answered
    split at answered <;> cases answered <;> rfl
  case capiWaitforsignal =>
    simp only [execCapiWaitforsignal] at answered
    split at answered <;> cases answered
    rfl
  case capiGetmessage =>
    cases answered
    exact copyMessage_behind (a := { s.outPacket with head := _ }) rfl covers behind
  case capiVersion =>
    cases answered
    exact body (words _) 0 (by simp) _
  case proxyHelo =>
    cases answered
    have name := body serverName 0 (by rw [length_serverName]; decide)
    exact (body (words _) 64 (by simp) _).trans (name _)
  case capiManufacturer | capiSerial | capiProfile | capiInstalled =>
    cases answered
    refine body _ 0 (Nat.le_trans ((Nat.zero_add _).trans_le covers) ?_) _
    decide
  all_goals
    cases answered
    rfl

/-- Two frames alike are answered alike: nothing else is read. -/
theorem handler_reads (found : selected env m = some (type, handler)) (covers : Covers env blocks s m type)
    (framed : sizeofRequestHeader ≤ (request env m).messageLen.toNat)
    (small : (request env m).messageLen.toNat ≤ packetSize) (same : SameFrame env m m')
    (other : type ≠ .capiPutmessage) (n : Nat) :
    (handler env n s m').session = (handler env n s m).session ∧
      (handler env n s m').answer = (handler env n s m).answer := by
  obtain ⟨-, arm, -⟩ := selected_some found
  have request := same.header framed
  cases type <;> cases arm
  case capiRegister =>
    have word (i : Nat) (inside : i < 4) : m'.word32 (requestBody env m' + 4 * i) =
        m.word32 (requestBody env m + 4 * i) := Memory.word32_congr fun k within => by
      simpa only [requestBody, request, Nat.add_assoc] using
        same.body small covers (4 * i + k) (by omega)
    simp only [execCapiRegister, send, compose, request, word 0 (by decide), word 1 (by decide),
      word 2 (by decide), word 3 (by decide), and_self]
  case capiRelease => simp only [execCapiRelease, send, compose, request, and_self]
  case capiPutmessage => exact absurd rfl other
  case capiGetmessage => simp only [execCapiGetmessage, send, compose, request, and_self]
  case capiWaitforsignal =>
    simp only [execCapiWaitforsignal, request]
    split
    · exact ⟨rfl, rfl⟩
    · simp only [send, compose, request, and_self]
  case capiVersion => simp only [execCapiVersion, send, compose, request, and_self]
  case proxyHelo =>
    have body := same.body small covers.1
    have word (i : Nat) (inside : i + 4 ≤ 76) : m'.word32 (requestBody env m + i) =
        m.word32 (requestBody env m + i) := Memory.word32_congr fun k within => by
      simpa only [Nat.add_assoc] using body (i + k) (by omega)
    have name : m'.string (requestBody env m) = m.string (requestBody env m) :=
      Memory.stringWithin_congr fun i within =>
        body i (Nat.lt_of_le_of_lt within (Nat.lt_trans covers.2 (by decide)))
    have start : requestBody env m' = requestBody env m := by rw [requestBody, requestBody, request]
    simp only [execProxyHelo, send, compose, start, request, word 64 (by decide), word 68 (by decide),
      word 72 (by decide), name, and_self]
  case proxyAuth =>
    have type : m'.word32 (requestBody env m') = m.word32 (requestBody env m) :=
      Memory.word32_congr fun k within => by
        simpa only [requestBody, request] using same.body small covers.1 k within
    simp only [execProxyAuth, send, compose, request, type, and_self]
  all_goals simp only [execCapiManufacturer, execCapiSerial, execCapiProfile, execCapiIsinstalled, fillBody,
    send, compose, request, and_self]

/-- Of the client, only a HELO request changes the name, and a covered one has room for its terminator. -/
theorem handler_names (found : selected env m = some (type, handler)) (covers : Covers env blocks s m type)
    (n : Nat) : (handler env n s m).session.clientInfo.name = s.clientInfo.name ∨
      (handler env n s m).session.clientInfo.name.length < 64 := by
  obtain ⟨-, arm, -⟩ := selected_some found
  cases type <;> cases arm
  case proxyHelo => exact .inr covers.2
  case capiPutmessage =>
    simp only [execCapiPutmessage]
    split <;> exact .inl rfl
  case capiWaitforsignal =>
    simp only [execCapiWaitforsignal]
    split <;> exact .inl rfl
  all_goals exact .inl rfl

/-- What the n-th request leaves alone when its handler stays where it should. -/
structure Confined (env : Environment) (s : Session) (m : Memory) (type : MessageType) (handler : Handler)
    (n : Nat) : Prop where
  memory : ∀ q, q < env.inPacket ∨ env.inPacket + (request env m).messageLen.toNat ≤ q →
    (handler env n s m).memory q = m q
  answer : ∀ answer, (handler env n s m).answer = some answer →
    ∀ q, packetSize - sizeofAnswerHeader ≤ q → answer.rest q = s.outPacket.rest q
  name : (handler env n s m).session.clientInfo.name = s.clientInfo.name ∨
    (handler env n s m).session.clientInfo.name.length < 64
  -- the CAPI is handed the memory with a message, and may look where it wants
  frame : type ≠ .capiPutmessage → ∀ m', SameFrame env m m' →
    (handler env n s m').session = (handler env n s m).session ∧
      (handler env n s m').answer = (handler env n s m).answer

end confined

def Blocks.granted : Blocks := ⟨some zeros, true, true⟩

/-- A frame of 112 bytes that starts the session of a client with a name of `length` letters. -/
def heloPacket (length : Nat) : Memory :=
  zeros.write 0 (RequestHeader.bytes ⟨112, 36, 76, 0, 1, MessageType.proxyHelo.code, 0, 0, 0⟩ ++
    (.replicate length 0x61 ++ [0]))

def authPacket (unameLen passwdLen : UInt32) : Memory :=
  zeros.write 0 (RequestHeader.bytes ⟨48, 36, 4, 8, 1, MessageType.proxyAuth.code, 0, 0, 0⟩ ++
    words [authUserpass, unameLen, passwdLen])

theorem heloPacket_request (length : Nat) : request .loopback (heloPacket length) =
    ⟨112, 36, 76, 0, 1, MessageType.proxyHelo.code, 0, 0, 0⟩ :=
  RequestHeader.parse_of_holds (Holds.write zeros 0 _).left

theorem authPacket_request (unameLen passwdLen : UInt32) : request .loopback (authPacket unameLen passwdLen) =
    ⟨48, 36, 4, 8, 1, MessageType.proxyAuth.code, 0, 0, 0⟩ :=
  RequestHeader.parse_of_holds (Holds.write zeros 0 _).left

theorem heloPacket_name (small : length < 2 ^ 32) :
    ((heloPacket length).string (requestBody .loopback (heloPacket length))).length = length := by
  have body : requestBody .loopback (heloPacket length) = 36 := by rw [requestBody, heloPacket_request]; rfl
  have name : Holds (heloPacket length) 36 (.replicate length 0x61 ++ [0]) := by
    have behind := (Holds.write zeros 0 (RequestHeader.bytes
      ⟨112, 36, 76, 0, 1, MessageType.proxyHelo.code, 0, 0, 0⟩ ++ (.replicate length 0x61 ++ [0]))).right
    rwa [RequestHeader.length_bytes] at behind
  rw [body, name.string (by simp) (by simpa using small), List.length_replicate]

/-- A frame without a body that asks for the messages of application 1. -/
def getPacket : Memory :=
  zeros.write 0 (RequestHeader.bytes ⟨36, 36, 0, 0, 1, MessageType.capiGetmessage.code, 1, 0, 3⟩)

theorem getPacket_request (env : Environment) (start : env.inPacket = 0) : request env getPacket =
    ⟨36, 36, 0, 0, 1, MessageType.capiGetmessage.code, 1, 0, 3⟩ := by
  rw [request, start]
  exact RequestHeader.parse_of_holds (Holds.write zeros 0 _)

/-- A CAPI that always has data for the application: 10000 bytes behind a message of 18. -/
def Environment.flooded : Environment :=
  { Environment.loopback with
    capi := fun _ _ => ⟨0, none, 0,
      zeros.write 0 [18, 0, 1, 0, 0x86, 0x82, 1, 0, 1, 1, 1, 0, 0, 0, 0, 0, 0x10, 0x27], []⟩ }

end CapiProxy.LinuxServer
