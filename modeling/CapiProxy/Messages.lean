import CapiProxy.Capi

/-! CAPI messages as the proxy sees them: a 16-bit length at offset 0, two command bytes at
offsets 4 and 5, and in data messages a payload address at offset 12 and a payload length at
offset 16. On the wire the payload follows the message, so an address only makes sense on the
side that wrote it. -/
namespace CapiProxy
open Bytes

def capiCmd1 (m : Memory) (msg : Nat) : UInt8 := m (msg + 4)
def capiCmd2 (m : Memory) (msg : Nat) : UInt8 := m (msg + 5)

def isDataB3Req (m : Memory) (msg : Nat) : Bool := capiCmd1 m msg == 0x86 && capiCmd2 m msg == 0x80
def isDataB3Ind (m : Memory) (msg : Nat) : Bool := capiCmd1 m msg == 0x86 && capiCmd2 m msg == 0x82

/-- Point a data message at the payload that follows it. -/
def setPointer (m : Memory) (msg len1 : Nat) : Memory :=
  m.write (msg + 12) (bytes32 (.ofNat (msg + len1)))

/-- What `exec_capi_putmessage` of both servers does before it calls the CAPI: the length
checks, and for a data message the new payload address; `none` is a parse error. -/
def acceptPut (m : Memory) (msg : Nat) (dataLen : UInt32) : Option Memory :=
  if dataLen < 8 then none
  else
    let len1 := m.word16 msg
    if dataLen.toNat < len1 then none
    else if isDataB3Req m msg then
      if len1 < 18 then none
      else
        let len2 := m.word16 (msg + 16)
        if dataLen.toNat < len1 + len2 then none
        else some (setPointer m msg len1)
    else some m

/-- What `exec_capi_getmessage` of both servers does with the message the CAPI returned: it
is copied behind the answer body, followed by its payload. -/
def copyMessage (body : Nat) (reply : CapiReply) (answer : AnswerBuffer) : AnswerBuffer :=
  if answer.head.capiError = 0 then
    let len1 := reply.memory.word16 reply.message
    let rest := answer.rest.write body (reply.memory.read reply.message len1)
    let copied : AnswerBuffer := ⟨{ answer.head with dataLen := .ofNat len1 }, rest⟩
    if isDataB3Ind rest body then
      if len1 < 18 then { copied with head.proxyError := perrorParseError }
      else
        let len2 := rest.word16 (body + 16)
        let pointer := rest.word32 (body + 12)
        ⟨{ copied.head with dataLen := copied.head.dataLen + .ofNat len2 },
          rest.write (body + len1) (reply.memory.read pointer.toNat len2)⟩
    else copied
  else answer

def payload (m : Memory) (msg : Nat) : List UInt8 :=
  m.read (m.word32 (msg + 12)).toNat (m.word16 (msg + 16))

/-- A message as it travels, a data message with its payload behind it. -/
def carried (m : Memory) (msg : Nat) (data : Bool) : List UInt8 :=
  m.read msg (m.word16 msg) ++ if data then payload m msg else []

/-- The message is long enough for the fields that are read from it. -/
structure WellFormed (m : Memory) (msg : Nat) (data : Bool) : Prop where
  header : 8 ≤ m.word16 msg
  fields : data = true → 18 ≤ m.word16 msg

/-- The message at `msg` of `m` has arrived at `msg'` of `m'`, its payload between `first` and
`last`. The payload address belongs to whoever holds the message. -/
structure Delivered (m : Memory) (msg : Nat) (data : Bool) (m' : Memory) (msg' first last : Nat) :
    Prop where
  bytes : ∀ i < m.word16 msg, (data = true → i < 12 ∨ 16 ≤ i) → m' (msg' + i) = m (msg + i)
  payload : data = true →
    let pointer := (m'.word32 (msg' + 12)).toNat
    first ≤ pointer ∧ pointer + m.word16 (msg + 16) ≤ last ∧
      m'.read pointer (m.word16 (msg + 16)) = payload m msg

theorem setPointer_outside (m : Memory) (msg len1 q : Nat) (outside : q < msg + 12 ∨ msg + 16 ≤ q) :
    setPointer m msg len1 q = m q :=
  Memory.write_outside _ _ _ _ (by simp only [length_bytes32]; omega)

theorem setPointer_pointer (m : Memory) (msg len1 : Nat) (fits : msg + len1 < 2 ^ 32) :
    ((setPointer m msg len1).word32 (msg + 12)).toNat = msg + len1 := by
  rw [setPointer, Memory.word32_write, UInt32.toNat_ofNat', Nat.mod_eq_of_lt fits]

theorem setPointer_read (m : Memory) (msg len1 a n : Nat)
    (apart : a + n ≤ msg + 12 ∨ msg + 16 ≤ a) : (setPointer m msg len1).read a n = m.read a n :=
  Memory.read_write_outside _ _ _ _ _ (by simp only [length_bytes32]; omega)

theorem length_carried (m : Memory) (msg : Nat) (data : Bool) :
    (carried m msg data).length = m.word16 msg + if data then m.word16 (msg + 16) else 0 := by
  cases data <;> simp [carried, payload]

theorem carried_byte (holds : Holds m' msg' (carried m msg data)) (inside : i < m.word16 msg) :
    m' (msg' + i) = m (msg + i) := by
  have byte := holds.left.byte (i := i) (by simpa using inside)
  rwa [Memory.getElem_read] at byte

theorem carried_word16 (holds : Holds m' msg' (carried m msg data))
    (inside : k + 2 ≤ m.word16 msg) : m'.word16 (msg' + k) = m.word16 (msg + k) := by
  apply Memory.word16_congr
  intro i hi
  simpa only [Nat.add_assoc] using carried_byte holds (show k + i < m.word16 msg by omega)

theorem carried_payload (holds : Holds m' msg' (carried m msg true)) :
    m'.read (msg' + m.word16 msg) (m.word16 (msg + 16)) = payload m msg := by
  have behind : Holds m' (msg' + m.word16 msg) (payload m msg) := by
    simpa only [Memory.length_read, if_true] using Holds.right holds
  simpa only [Holds, payload, Memory.length_read] using behind

theorem carried_commands (holds : Holds m' msg' (carried m msg data)) (header : 8 ≤ m.word16 msg) :
    isDataB3Req m' msg' = isDataB3Req m msg ∧ isDataB3Ind m' msg' = isDataB3Ind m msg := by
  have cmd1 : capiCmd1 m' msg' = capiCmd1 m msg := carried_byte holds (by omega)
  have cmd2 : capiCmd2 m' msg' = capiCmd2 m msg := carried_byte holds (by omega)
  simp only [isDataB3Req, isDataB3Ind, cmd1, cmd2, and_self]

/-- What a receiver does to a copy: a data message is pointed at the payload behind it. -/
def repoint (m : Memory) (msg : Nat) (data : Bool) : Memory :=
  if data then setPointer m msg (m.word16 msg) else m

theorem repoint_word16 (m : Memory) (msg k : Nat) (data : Bool) (apart : k + 2 ≤ 12 ∨ 16 ≤ k) :
    (repoint m msg data).word16 (msg + k) = m.word16 (msg + k) := by
  cases data with
  | false => rfl
  | true =>
    refine Memory.word16_congr fun i hi => ?_
    exact setPointer_outside _ _ _ _ (by omega)

theorem repoint_isDataB3Ind (m : Memory) (msg : Nat) (data : Bool) :
    isDataB3Ind (repoint m msg data) msg = isDataB3Ind m msg := by
  cases data with
  | false => rfl
  | true =>
    have byte (i : Nat) (inside : i < 12) : repoint m msg true (msg + i) = m (msg + i) :=
      setPointer_outside _ _ _ _ (by omega)
    simp only [isDataB3Ind, capiCmd1, capiCmd2, byte 4 (by decide), byte 5 (by decide)]

theorem repoint_delivered (holds : Holds m' msg' (carried m msg data)) (wf : WellFormed m msg data)
    (fits : msg' + m.word16 msg < 2 ^ 32) :
    Delivered m msg data (repoint m' msg' data) msg' msg' (msg' + (carried m msg data).length) := by
  have length : m'.word16 msg' = m.word16 msg :=
    carried_word16 (k := 0) holds (by have := wf.header; omega)
  cases data with
  | false =>
    constructor
    · intro i inside _
      exact carried_byte holds inside
    · intro absurd
      cases absurd
  | true =>
    have fields := wf.fields rfl
    constructor
    · intro i inside outside
      simp only [repoint, if_true]
      rw [setPointer_outside _ _ _ _ (by have := outside rfl; omega)]
      exact carried_byte holds inside
    · intro _
      simp only [repoint, if_true]
      rw [length, setPointer_pointer _ _ _ fits, length_carried, if_pos rfl]
      refine ⟨by omega, by omega, ?_⟩
      rw [setPointer_read _ _ _ _ _ (by omega), carried_payload holds]

theorem Delivered.widen (h : Delivered m msg data m' msg' first last) (low : first' ≤ first)
    (high : last ≤ last') : Delivered m msg data m' msg' first' last' where
  bytes := h.bytes
  payload is_data := by
    obtain ⟨above, below, same⟩ := h.payload is_data
    exact ⟨Nat.le_trans low above, Nat.le_trans below high, same⟩

/-- A message lies in the `length` bytes of data at `msg`, a data message with its payload behind it. -/
structure PutFormat (m : Memory) (msg length : Nat) : Prop where
  header : 8 ≤ length
  message : m.word16 msg ≤ length
  data : isDataB3Req m msg = true → 18 ≤ m.word16 msg ∧ m.word16 msg + m.word16 (msg + 16) ≤ length

theorem acceptPut_iff : acceptPut m msg dataLen = some m' ↔
    PutFormat m msg dataLen.toNat ∧ repoint m msg (isDataB3Req m msg) = m' := by
  have eight : UInt32.toNat 8 = 8 := rfl
  constructor
  · intro accepted
    simp only [acceptPut, UInt32.lt_iff_toNat_lt, eight] at accepted
    split at accepted
    · cases accepted
    · next long =>
      split at accepted
      · cases accepted
      · next enough =>
        cases data : isDataB3Req m msg with
        | false =>
          simp only [data, Bool.false_eq_true, if_false, Option.some.injEq] at accepted
          exact ⟨⟨by omega, by omega, fun absurd => by rw [data] at absurd; cases absurd⟩, accepted⟩
        | true =>
          simp only [data, if_true] at accepted
          split at accepted
          · cases accepted
          · next fields =>
            split at accepted
            · cases accepted
            · next whole =>
              exact ⟨⟨by omega, by omega, fun _ => ⟨by omega, by omega⟩⟩, Option.some.inj accepted⟩
  · rintro ⟨⟨header, message, payload⟩, rfl⟩
    simp only [acceptPut, UInt32.lt_iff_toNat_lt, eight, if_neg (Nat.not_lt.mpr header),
      if_neg (Nat.not_lt.mpr message)]
    cases data : isDataB3Req m msg with
    | false => rfl
    | true =>
      obtain ⟨fields, whole⟩ := payload data
      simp only [if_true, if_neg (Nat.not_lt.mpr fields), if_neg (Nat.not_lt.mpr whole), repoint]

theorem acceptPut_none_iff : acceptPut m msg dataLen = none ↔ ¬ PutFormat m msg dataLen.toNat := by
  rw [← Option.not_isSome_iff_eq_none, Option.isSome_iff_exists]
  refine not_congr ⟨fun ⟨_, accepted⟩ => (acceptPut_iff.mp accepted).1, fun format => ?_⟩
  exact ⟨_, acceptPut_iff.mpr ⟨format, rfl⟩⟩

theorem acceptPut_header (accepted : acceptPut m msg dataLen = some m') (apart : a + sizeofRequestHeader ≤ msg) :
    RequestHeader.parse m' a = RequestHeader.parse m a := by
  obtain ⟨-, rfl⟩ := acceptPut_iff.mp accepted
  refine RequestHeader.parse_congr fun i inside => ?_
  cases isDataB3Req m msg with
  | false => rfl
  | true => exact setPointer_outside m msg (m.word16 msg) (a + i) (by omega)

theorem PutFormat.congr (same : ∀ i < length, m' (msg' + i) = m (msg + i))
    (format : PutFormat m msg length) : PutFormat m' msg' length := by
  obtain ⟨header, message, payload⟩ := format
  have length1 : m'.word16 msg' = m.word16 msg := Memory.word16_congr fun i hi => same i (by omega)
  have kind : isDataB3Req m' msg' = isDataB3Req m msg := by
    simp only [isDataB3Req, capiCmd1, capiCmd2, same 4 (by omega), same 5 (by omega)]
  refine ⟨header, by rwa [length1], fun data => ?_⟩
  obtain ⟨fields, whole⟩ := payload (kind ▸ data)
  have length2 : m'.word16 (msg' + 16) = m.word16 (msg + 16) := Memory.word16_congr fun i hi => by
    simpa only [Nat.add_assoc] using same (16 + i) (by omega)
  rw [length1, length2]
  exact ⟨fields, whole⟩

/-- A well-formed message passes the checks of `exec_capi_putmessage`. -/
theorem acceptPut_carried (holds : Holds m' msg' (carried m msg (isDataB3Req m msg)))
    (wf : WellFormed m msg (isDataB3Req m msg))
    (announced : dataLen.toNat = (carried m msg (isDataB3Req m msg)).length) :
    acceptPut m' msg' dataLen = some (repoint m' msg' (isDataB3Req m msg)) := by
  have header := wf.header
  have length : m'.word16 msg' = m.word16 msg := carried_word16 (k := 0) holds (by omega)
  have command := (carried_commands holds header).1
  rw [length_carried] at announced
  refine acceptPut_iff.mpr ⟨⟨by omega, by omega, fun data => ?_⟩, by rw [command]⟩
  rw [command] at data
  have fields := wf.fields data
  have length2 : m'.word16 (msg' + 16) = m.word16 (msg + 16) := carried_word16 holds (by omega)
  rw [data, if_pos rfl] at announced
  rw [length, length2]
  exact ⟨fields, by omega⟩

/-- The message as `copyMessage` finds it behind the answer body before it looks at it. -/
def copiedPart (body : Nat) (reply : CapiReply) (rest : Memory) : Memory :=
  rest.write body (reply.memory.read reply.message (reply.memory.word16 reply.message))

theorem copiedPart_byte (body : Nat) (reply : CapiReply) (rest : Memory)
    (inside : i < reply.memory.word16 reply.message) :
    copiedPart body reply rest (body + i) = reply.memory (reply.message + i) := by
  rw [copiedPart, Memory.write_inside _ _ _ _ (by simpa using inside), Memory.getElem_read]

theorem copiedPart_behind (body : Nat) (reply : CapiReply) (rest : Memory)
    (behind : reply.memory.word16 reply.message ≤ i) :
    copiedPart body reply rest (body + i) = rest (body + i) :=
  Memory.write_outside _ _ _ _ (.inr (by rw [Memory.length_read]; omega))

theorem copiedPart_word16 (body : Nat) (reply : CapiReply) (rest : Memory)
    (inside : i + 2 ≤ reply.memory.word16 reply.message) :
    (copiedPart body reply rest).word16 (body + i) = reply.memory.word16 (reply.message + i) :=
  Memory.word16_congr fun k within => by
    simpa only [Nat.add_assoc] using copiedPart_byte body reply rest (show i + k < _ by omega)

theorem copiedPart_isDataB3Ind (body : Nat) (reply : CapiReply) (rest : Memory)
    (long : 6 ≤ reply.memory.word16 reply.message) :
    isDataB3Ind (copiedPart body reply rest) body = isDataB3Ind reply.memory reply.message := by
  simp only [isDataB3Ind, capiCmd1, capiCmd2, copiedPart_byte body reply rest (show 4 < _ by omega),
    copiedPart_byte body reply rest (show 5 < _ by omega)]

section copying
variable {body : Nat} {reply : CapiReply} {answer : AnswerBuffer}

theorem copyMessage_failed (failed : answer.head.capiError ≠ 0) : copyMessage body reply answer = answer :=
  if_neg failed

theorem copyMessage_plain (success : answer.head.capiError = 0)
    (other : isDataB3Ind (copiedPart body reply answer.rest) body = false) :
    copyMessage body reply answer =
      ⟨{ answer.head with dataLen := .ofNat (reply.memory.word16 reply.message) },
        copiedPart body reply answer.rest⟩ := by
  simp only [copyMessage, if_pos success, ← copiedPart.eq_1, other, Bool.false_eq_true, if_false]

/-- A data message without room for its fields is reported. -/
theorem copyMessage_reported (success : answer.head.capiError = 0)
    (data : isDataB3Ind (copiedPart body reply answer.rest) body = true)
    (short : reply.memory.word16 reply.message < 18) :
    copyMessage body reply answer =
      ⟨{ answer.head with
          dataLen := .ofNat (reply.memory.word16 reply.message), proxyError := perrorParseError },
        copiedPart body reply answer.rest⟩ := by
  simp only [copyMessage, if_pos success, ← copiedPart.eq_1, data, if_true, if_pos short]

theorem copyMessage_payload (success : answer.head.capiError = 0)
    (data : isDataB3Ind (copiedPart body reply answer.rest) body = true)
    (long : 18 ≤ reply.memory.word16 reply.message) :
    let part := copiedPart body reply answer.rest
    copyMessage body reply answer =
      ⟨{ answer.head with
          dataLen := .ofNat (reply.memory.word16 reply.message) + .ofNat (part.word16 (body + 16)) },
        part.write (body + reply.memory.word16 reply.message)
          (reply.memory.read (part.word32 (body + 12)).toNat (part.word16 (body + 16)))⟩ := by
  simp only [copyMessage, if_pos success, ← copiedPart.eq_1, data, if_true, if_neg (Nat.not_lt.mpr long)]

end copying

/-- A message the CAPI returned is copied into the answer as it travels. -/
theorem copyMessage_carried (body : Nat) (reply : CapiReply) (answer : AnswerBuffer)
    (success : answer.head.capiError = 0)
    (wf : WellFormed reply.memory reply.message (isDataB3Ind reply.memory reply.message)) :
    let bytes := carried reply.memory reply.message (isDataB3Ind reply.memory reply.message)
    copyMessage body reply answer =
      ⟨{ answer.head with dataLen := .ofNat bytes.length }, answer.rest.write body bytes⟩ := by
  have copy : Holds (copiedPart body reply answer.rest) body
      (carried reply.memory reply.message false) := by
    simpa only [copiedPart, carried, Bool.false_eq_true, if_false, List.append_nil] using
      Holds.write _ _ _
  have kind := (carried_commands copy wf.header).2
  intro bytes
  cases data : isDataB3Ind reply.memory reply.message with
  | false =>
    rw [copyMessage_plain success (kind.trans data)]
    simp [bytes, data, carried, copiedPart]
  | true =>
    have fields := wf.fields data
    have length2 : (copiedPart body reply answer.rest).word16 (body + 16) =
        reply.memory.word16 (reply.message + 16) := carried_word16 copy (by omega)
    have pointer : (copiedPart body reply answer.rest).word32 (body + 12) =
        reply.memory.word32 (reply.message + 12) := by
      apply Memory.word32_congr
      intro i hi
      simpa only [Nat.add_assoc] using carried_byte copy (show 12 + i < _ by omega)
    rw [copyMessage_payload success (kind.trans data) fields, length2, pointer]
    simp only [bytes, data]
    rw [length_carried, if_pos rfl, UInt32.ofNat_add, carried, if_pos rfl, Memory.write_append,
      Memory.length_read]
    rfl

theorem copyMessage_congr {body : Nat} {reply : CapiReply} {a b : AnswerBuffer} (heads : a.head = b.head)
    (empty : a.head.dataLen = 0)
    (data : a.head.capiError = 0 → isDataB3Ind (copiedPart body reply a.rest) body =
      isDataB3Ind (copiedPart body reply b.rest) body) :
    (copyMessage body reply a).head = (copyMessage body reply b).head ∧
      ∀ i < (copyMessage body reply a).head.dataLen.toNat,
        (copyMessage body reply a).rest (body + i) = (copyMessage body reply b).rest (body + i) := by
  have part (i : Nat) (inside : i < reply.memory.word16 reply.message) :
      copiedPart body reply a.rest (body + i) = copiedPart body reply b.rest (body + i) := by
    rw [copiedPart_byte _ _ _ inside, copiedPart_byte _ _ _ inside]
  have copied (i : Nat) (inside : i < (UInt32.ofNat (reply.memory.word16 reply.message)).toNat) :
      copiedPart body reply a.rest (body + i) = copiedPart body reply b.rest (body + i) := by
    rw [UInt32.toNat_ofNat'] at inside
    exact part i (Nat.lt_of_lt_of_le inside (Nat.mod_le _ _))
  by_cases success : a.head.capiError = 0
  · have success' : b.head.capiError = 0 := heads ▸ success
    have same := data success
    cases kind : isDataB3Ind (copiedPart body reply a.rest) body with
    | false =>
      rw [copyMessage_plain success kind, copyMessage_plain success' (same ▸ kind), heads]
      exact ⟨rfl, copied⟩
    | true =>
      rcases Nat.lt_or_ge (reply.memory.word16 reply.message) 18 with short | long
      · rw [copyMessage_reported success kind short,
          copyMessage_reported success' (same ▸ kind) short, heads]
        exact ⟨rfl, copied⟩
      · -- the length and the address of the payload lie in the copied part
        have length2 : (copiedPart body reply a.rest).word16 (body + 16) =
            (copiedPart body reply b.rest).word16 (body + 16) :=
          Memory.word16_congr fun i hi => by
            simpa only [Nat.add_assoc] using part (16 + i) (by omega)
        have pointer : (copiedPart body reply a.rest).word32 (body + 12) =
            (copiedPart body reply b.rest).word32 (body + 12) :=
          Memory.word32_congr fun i hi => by
            simpa only [Nat.add_assoc] using part (12 + i) (by omega)
        rw [copyMessage_payload success kind long, copyMessage_payload success' (same ▸ kind) long,
          heads, length2, pointer]
        refine ⟨rfl, fun i inside => ?_⟩
        dsimp only at inside ⊢
        rcases Nat.lt_or_ge i (reply.memory.word16 reply.message) with first | second
        · rw [Memory.write_outside _ _ _ _ (.inl (by omega)),
            Memory.write_outside _ _ _ _ (.inl (by omega)), part i first]
        · obtain ⟨j, rfl⟩ := Nat.exists_eq_add_of_le second
          have behind : j < (copiedPart body reply b.rest).word16 (body + 16) := by
            simp only [UInt32.toNat_add, UInt32.toNat_ofNat'] at inside
            omega
          rw [← Nat.add_assoc, Memory.write_inside _ _ _ _ (by simpa using behind),
            Memory.write_inside _ _ _ _ (by simpa using behind)]
  · rw [copyMessage_failed success, copyMessage_failed (heads ▸ success)]
    refine ⟨heads, fun i inside => ?_⟩
    rw [empty] at inside
    exact absurd inside (Nat.not_lt_zero i)

/-- Whether a short message is reported depends on what it is taken for. -/
theorem copyMessage_short (body : Nat) (reply : CapiReply) (a : AnswerBuffer)
    (success : a.head.capiError = 0) (short : reply.memory.word16 reply.message < 18) :
    (copyMessage body reply a).head.proxyError =
      if isDataB3Ind (copiedPart body reply a.rest) body then perrorParseError
      else a.head.proxyError := by
  cases kind : isDataB3Ind (copiedPart body reply a.rest) body with
  | false => rw [copyMessage_plain success kind, if_neg Bool.false_ne_true]
  | true => rw [copyMessage_reported success kind short, if_pos rfl]

/-- The message at `msg` lies within `length` bytes, and is long enough for what is read from it. -/
structure Readable (m : Memory) (msg length : Nat) : Prop where
  whole : m.word16 msg ≤ length
  fields : isDataB3Ind m msg = true → 18 ≤ m.word16 msg

theorem Readable.congr (readable : Readable m msg length) (long : 8 ≤ length)
    (same : ∀ i < length, m' (msg' + i) = m (msg + i)) : Readable m' msg' length := by
  have length1 : m'.word16 msg' = m.word16 msg := Memory.word16_congr fun i hi => same i (by omega)
  have kind : isDataB3Ind m' msg' = isDataB3Ind m msg := by
    simp only [isDataB3Ind, capiCmd1, capiCmd2, same 4 (by omega), same 5 (by omega)]
  exact ⟨by rw [length1]; exact readable.whole, by rw [length1, kind]; exact readable.fields⟩

theorem Readable.copy (readable : Readable m msg length) (long : 8 ≤ length) (memory : Memory)
    (buffer : Nat) : Readable (memory.write buffer (m.read msg length)) buffer length :=
  readable.congr long fun i inside => by
    rw [Memory.write_inside _ _ _ _ (by rwa [Memory.length_read]), Memory.getElem_read]

theorem copyMessage_readable (body : Nat) (reply : CapiReply) (a : AnswerBuffer) (empty : a.head.dataLen = 0)
    (accepted : (copyMessage body reply a).head.proxyError = perrorNone)
    (long : 8 ≤ (copyMessage body reply a).head.dataLen.toNat) :
    Readable (copyMessage body reply a).rest body (copyMessage body reply a).head.dataLen.toNat := by
  have small := Memory.word16_lt reply.memory reply.message
  have value : (UInt32.ofNat (reply.memory.word16 reply.message)).toNat =
      reply.memory.word16 reply.message := by
    rw [UInt32.toNat_ofNat', Nat.mod_eq_of_lt (by omega)]
  have length1 (inside : 2 ≤ reply.memory.word16 reply.message) :
      (copiedPart body reply a.rest).word16 body = reply.memory.word16 reply.message :=
    Memory.word16_congr fun i hi => copiedPart_byte body reply a.rest (by omega)
  by_cases success : a.head.capiError = 0
  · cases kind : isDataB3Ind (copiedPart body reply a.rest) body with
    | false =>
      rw [copyMessage_plain success kind, value] at long ⊢
      refine ⟨by rw [length1 (by omega)], fun data => ?_⟩
      rw [kind] at data
      cases data
    | true =>
      rcases Nat.lt_or_ge (reply.memory.word16 reply.message) 18 with short | enough
      · rw [copyMessage_reported success kind short] at accepted
        exact absurd accepted (show perrorParseError ≠ perrorNone by decide)
      · -- a data message: the payload was written behind it
        have len2 := Memory.word16_lt (copiedPart body reply a.rest) (body + 16)
        have kept : (copyMessage body reply a).rest.word16 body = reply.memory.word16 reply.message := by
          rw [copyMessage_payload success kind enough, ← length1 (by omega)]
          exact Memory.word16_congr fun i hi => Memory.write_outside _ _ _ _ (.inl (by omega))
        refine ⟨?_, fun _ => kept ▸ enough⟩
        rw [kept, copyMessage_payload success kind enough, UInt32.toNat_add, value, UInt32.toNat_ofNat']
        omega
  · rw [copyMessage_failed success, empty] at long
    exact absurd long (by decide)

theorem copyMessage_head (body : Nat) (reply : CapiReply) (answer : AnswerBuffer)
    (empty : answer.head.dataLen = 0) :
    ∃ dataLen proxyError, dataLen.toNat < 2 ^ 17 ∧
      (copyMessage body reply answer).head = { answer.head with dataLen, proxyError } := by
  have len1 := Memory.word16_lt reply.memory reply.message
  have small : (UInt32.ofNat (reply.memory.word16 reply.message)).toNat < 2 ^ 17 := by
    rw [UInt32.toNat_ofNat']
    omega
  by_cases success : answer.head.capiError = 0
  · cases kind : isDataB3Ind (copiedPart body reply answer.rest) body with
    | false => exact ⟨_, _, small, by rw [copyMessage_plain success kind]⟩
    | true =>
      rcases Nat.lt_or_ge (reply.memory.word16 reply.message) 18 with short | long
      · exact ⟨_, perrorParseError, small, by rw [copyMessage_reported success kind short]⟩
      · have len2 := Memory.word16_lt (copiedPart body reply answer.rest) (body + 16)
        refine ⟨.ofNat (reply.memory.word16 reply.message) +
          .ofNat ((copiedPart body reply answer.rest).word16 (body + 16)), _, ?_,
          by rw [copyMessage_payload success kind long]⟩
        simp only [UInt32.toNat_add, UInt32.toNat_ofNat']
        omega
  · exact ⟨0, answer.head.proxyError, by decide, by rw [copyMessage_failed success, ← empty]⟩

end CapiProxy
