import CapiProxy.LinuxServer.Main

/-! What the receive loop of the Linux server stores for a request. The length of the second
`recvn` comes from the peer: it is the announced message length less the header size, computed
without a sign and compared with nothing. -/
namespace CapiProxy.LinuxServer
open Bytes Streams

/-- One pass through the receive loop: the bytes it stored from `in_packet` on, and the packet it
handed to the switch. -/
structure Pass where
  stored : List UInt8
  packet : Option (List UInt8)
  deriving DecidableEq, Repr

def passes (inPacket : Nat) (dispatch : σ → Memory → σ × Memory) (s : σ) (m : Memory)
    (source : Source UInt8) : List Pass :=
  let header := recvn source sizeofRequestHeader
  let m := m.write inPacket header.stored
  if header.ret ≤ 0 then [⟨header.stored, none⟩]
  else
    let remainder := recvn header.rest (messageLen m inPacket - .ofNat sizeofRequestHeader).toNat
    let m := m.write (inPacket + sizeofRequestHeader) remainder.stored
    if remainder.ret ≤ 0 then [⟨header.stored ++ remainder.stored, none⟩]
    else
      let packet := m.read inPacket (messageLen m inPacket).toNat
      let (s, m) := dispatch s m
      ⟨header.stored ++ remainder.stored, some packet⟩ ::
        passes inPacket dispatch s m remainder.rest
termination_by source.content.length
decreasing_by
  exact Nat.lt_of_le_of_lt (recvn_shrinks _ _) (recvn_header_shrinks (by assumption))

theorem serve_dispatched (inPacket : Nat) (dispatch : σ → Memory → σ × Memory) (s : σ) (m : Memory)
    (source : Source UInt8) :
    (serve inPacket dispatch s m source).dispatched =
      (passes inPacket dispatch s m source).filterMap (·.packet) := by
  fun_induction serve inPacket dispatch s m source with
  | case1 s m source header stored ended =>
    unfold passes
    rw [if_pos ended]
    rfl
  | case2 s m source header stored got remainder filled ended =>
    unfold passes
    rw [if_neg got]
    dsimp only
    rw [if_pos ended]
    rfl
  | case3 s m source header stored got remainder filled more packet after memory handled later ih =>
    obtain ⟨rfl, rfl⟩ : (dispatch s filled).1 = after ∧ (dispatch s filled).2 = memory :=
      Prod.ext_iff.mp handled
    unfold passes
    rw [if_neg got]
    dsimp only
    rw [if_neg more]
    exact congrArg (packet :: ·) ih

/-- A pass that keeps to the packet buffer and hands over only what lies in it. -/
def Pass.Contained (p : Pass) : Prop :=
  p.stored.length ≤ packetSize ∧
    ∀ packet ∈ p.packet, sizeofRequestHeader ≤ packet.length ∧ packet.length ≤ packetSize

/-- A header that arrived whole: the length it announces, and how many bytes the peer sends
behind it. -/
structure Announcement where
  messageLen : UInt32
  behind : Nat
  deriving DecidableEq, Repr

namespace Announcement

/-- The size of the second `recvn`. -/
def remainder (a : Announcement) : Nat := (a.messageLen - .ofNat sizeofRequestHeader).toNat

/-- The announced length is that of a request which fits the packet buffer, or the peer does not
send enough to overrun it. -/
def Fits (a : Announcement) : Prop :=
  sizeofRequestHeader ≤ a.messageLen.toNat ∧ a.messageLen.toNat ≤ packetSize ∨
    sizeofRequestHeader + a.behind ≤ packetSize

/-- The second `recvn` reports no positive size, so the loop exits. -/
def Last (a : Announcement) : Prop := ssize a.remainder ≤ 0 ∨ a.behind < a.remainder

instance (a : Announcement) : Decidable a.Last := inferInstanceAs (Decidable (_ ∨ _))

instance (a : Announcement) : Decidable a.Fits := inferInstanceAs (Decidable (_ ∨ _))

theorem remainder_le_iff (a : Announcement) :
    sizeofRequestHeader + a.remainder ≤ packetSize ↔
      sizeofRequestHeader ≤ a.messageLen.toNat ∧ a.messageLen.toNat ≤ packetSize := by
  have small : (UInt32.ofNat sizeofRequestHeader).toNat = 36 := rfl
  have range := a.messageLen.toNat_lt
  rw [remainder, UInt32.toNat_sub, small]
  simp only [sizeofRequestHeader, packetSize]
  omega

theorem fits_iff (a : Announcement) :
    a.Fits ↔ sizeofRequestHeader + min a.remainder a.behind ≤ packetSize := by
  rw [Fits, ← remainder_le_iff]
  omega

end Announcement

/-- The header at the start of `bytes`. -/
def announced (bytes : List UInt8) : Announcement :=
  ⟨messageLen (zeros.write 0 bytes) 0, bytes.length - sizeofRequestHeader⟩

/-- The headers a stream is read as, up to the one that ends the loop. -/
def announcements (bytes : List UInt8) : List Announcement :=
  if bytes.length < sizeofRequestHeader then []
  else if (announced bytes).Last then [announced bytes]
  else
    announced bytes ::
      announcements (bytes.drop (sizeofRequestHeader + (announced bytes).remainder))
termination_by bytes.length
decreasing_by
  rw [List.length_drop]
  simp only [sizeofRequestHeader] at *
  omega

theorem Pass.contained_iff {p : Pass} {a : Announcement}
    (stored : p.stored.length = sizeofRequestHeader + min a.remainder a.behind)
    (packet : ∀ packet ∈ p.packet, ¬ a.Last ∧ packet.length = a.messageLen.toNat) :
    p.Contained ↔ a.Fits := by
  rw [Announcement.fits_iff, ← stored]
  refine and_iff_left_of_imp fun kept packet' handed => ?_
  obtain ⟨more, length⟩ := packet packet' handed
  rw [length]
  rw [stored, Nat.min_eq_left (Nat.le_of_not_lt (not_or.mp more).2)] at kept
  exact a.remainder_le_iff.mp kept

theorem recvn_short (source : Source UInt8) (short : source.content.length < size) :
    (recvn source size).ret ≤ 0 ∧ (recvn source size).stored = source.content := by
  obtain ⟨ret, rest⟩ := recvnLoop_short size size [] source short
  have content := recvn_content source size
  rw [show (recvn source size).rest.content = [] from rest, List.append_nil] at content
  exact ⟨ret, content.symm⟩

theorem messageLen_stored {bytes : List UInt8} (whole : sizeofRequestHeader ≤ bytes.length)
    (holds : Holds m a (bytes.take sizeofRequestHeader)) :
    messageLen m a = messageLen (zeros.write 0 bytes) 0 := by
  have there := (Holds.write zeros 0 bytes).take sizeofRequestHeader
  refine congrArg RequestHeader.messageLen (RequestHeader.parse_congr fun i inside => ?_)
  have inside : i < (bytes.take sizeofRequestHeader).length := by
    rwa [List.length_take_of_le whole]
  rw [holds.byte inside, there.byte inside]

theorem messageLen_filled {bytes : List UInt8} (whole : sizeofRequestHeader ≤ bytes.length)
    (m : Memory) (a : Nat) (remainder : List UInt8) :
    messageLen ((m.write a (bytes.take sizeofRequestHeader)).write (a + sizeofRequestHeader) remainder) a =
      messageLen (zeros.write 0 bytes) 0 := by
  have written := Holds.write m a (bytes.take sizeofRequestHeader ++ remainder)
  rw [Memory.write_append, List.length_take_of_le whole] at written
  exact messageLen_stored whole written.left

section
variable (inPacket : Nat) (dispatch : σ → Memory → σ × Memory) (s : σ) (m : Memory)
  (source : Source UInt8)

theorem passes_short (short : source.content.length < sizeofRequestHeader) :
    passes inPacket dispatch s m source = [⟨source.content, none⟩] := by
  obtain ⟨ended, stored⟩ := recvn_short source short
  unfold passes
  rw [if_pos ended, stored]

/-- What one pass does after a header that arrived whole: it stores the header and as much of the
remainder as arrives, and goes on only when the second `recvn` reports a positive size. -/
theorem passes_whole (whole : sizeofRequestHeader ≤ source.content.length) :
    let a := announced source.content
    let stored := source.content.take (sizeofRequestHeader + a.remainder)
    a.Last ∧ passes inPacket dispatch s m source = [⟨stored, none⟩] ∨
    ¬ a.Last ∧ ∃ packet s' m' source', packet.length = a.messageLen.toNat ∧
      source'.content = source.content.drop (sizeofRequestHeader + a.remainder) ∧
      passes inPacket dispatch s m source =
        ⟨stored, some packet⟩ :: passes inPacket dispatch s' m' source' := by
  obtain ⟨ret, header, rest⟩ := recvn_enough source sizeofRequestHeader whole
  have got : ¬ (recvn source sizeofRequestHeader).ret ≤ 0 := by
    rw [ret, ssize_of_lt (by decide)]
    decide
  have length : (announced source.content).messageLen =
      messageLen (m.write inPacket (source.content.take sizeofRequestHeader)) inPacket :=
    (messageLen_stored whole (Holds.write _ _ _)).symm
  have asked : (messageLen (m.write inPacket (source.content.take sizeofRequestHeader)) inPacket -
      .ofNat sizeofRequestHeader).toNat = (announced source.content).remainder := by
    rw [Announcement.remainder, length]
  have behind : (recvn source sizeofRequestHeader).rest.content.length =
      (announced source.content).behind := by rw [rest, List.length_drop]; rfl
  have split (n : Nat) : source.content.take sizeofRequestHeader ++
      (source.content.drop sizeofRequestHeader).take n =
        source.content.take (sizeofRequestHeader + n) := List.take_add.symm
  have once := passes.eq_1 inPacket dispatch s m source
  rw [if_neg got] at once
  dsimp only at once
  rw [header, asked] at once
  rcases Nat.lt_or_ge (announced source.content).behind (announced source.content).remainder with
    short | enough
  · obtain ⟨ended, stored⟩ := recvn_short _ (behind ▸ short)
    have all : (source.content.drop sizeofRequestHeader).take (announced source.content).remainder =
        source.content.drop sizeofRequestHeader :=
      List.take_of_length_le (by rw [← rest, behind]; exact Nat.le_of_lt short)
    exact .inl ⟨.inr short, by rw [once, if_pos ended, stored, rest, ← split, all]⟩
  · obtain ⟨ret', stored, rest'⟩ := recvn_enough _ _ (behind ▸ enough)
    rw [ret', stored, rest, split] at once
    by_cases none : ssize (announced source.content).remainder ≤ 0
    · exact .inl ⟨.inl none, by rw [once, if_pos none]⟩
    · refine .inr ⟨not_or.mpr ⟨none, Nat.not_lt.mpr enough⟩, ?_⟩
      rw [if_neg none] at once
      refine ⟨_, _, _, _, ?_, ?_, once⟩
      · rw [Memory.length_read, messageLen_filled whole]
        rfl
      · rw [rest', rest, List.drop_drop]

theorem passes_contained_iff :
    (∀ p ∈ passes inPacket dispatch s m source, p.Contained) ↔
      ∀ a ∈ announcements source.content, a.Fits := by
  induction count : source.content.length using Nat.strong_induction_on generalizing s m source with
  | _ n ih =>
    rcases Nat.lt_or_ge source.content.length sizeofRequestHeader with short | whole
    · rw [passes_short _ _ _ _ _ short, announcements, if_pos short]
      refine iff_of_true (List.forall_mem_singleton.mpr ⟨?_, nofun⟩) nofun
      exact Nat.le_of_lt (Nat.lt_trans short (by decide))
    · have stored : (source.content.take
          (sizeofRequestHeader + (announced source.content).remainder)).length =
            sizeofRequestHeader +
              min (announced source.content).remainder (announced source.content).behind := by
        rw [List.length_take, announced]
        dsimp only
        omega
      obtain ⟨last, once⟩ | ⟨more, packet, s', m', source', length, content, once⟩ :=
        passes_whole inPacket dispatch s m source whole
      · rw [once, announcements, if_neg (Nat.not_lt.mpr whole), if_pos last,
          List.forall_mem_singleton, List.forall_mem_singleton]
        exact Pass.contained_iff stored nofun
      · have smaller : source'.content.length < n := by
          rw [content, List.length_drop, ← count]
          exact Nat.sub_lt (Nat.lt_of_lt_of_le (by decide) whole)
            (Nat.lt_of_lt_of_le (by decide) (Nat.le_add_right _ _))
        rw [once, announcements, if_neg (Nat.not_lt.mpr whole), if_neg more, List.forall_mem_cons,
          List.forall_mem_cons, ← content, ih _ smaller s' m' source' rfl]
        refine and_congr_left' (Pass.contained_iff stored fun packet' handed => ?_)
        obtain rfl := Option.some.inj handed
        exact ⟨more, length⟩

end

def Connection.passes (env : Environment) (c : Connection) (m : Memory) (source : Source UInt8) :
    List Pass := LinuxServer.passes env.inPacket (dispatch env) c m source

/-- For every stream, the loop stores no more than the packet buffer holds and every packet that
reaches the switch has a length between a header and the buffer, exactly when the announced
lengths fit. -/
theorem connection_contained_iff (env : Environment) (c : Connection) (m : Memory)
    (source : Source UInt8) :
    ((∀ p ∈ c.passes env m source, p.stored.length ≤ packetSize) ∧
      ∀ packet ∈ (connection env c m source).dispatched,
        sizeofRequestHeader ≤ packet.length ∧ packet.length ≤ packetSize) ↔
      ∀ a ∈ announcements source.content, a.Fits := by
  rw [← passes_contained_iff env.inPacket (dispatch env) c m source, connection, serve_dispatched,
    Connection.passes]
  constructor
  · rintro ⟨kept, handed⟩ p member
    exact ⟨kept p member, fun packet there => handed packet (List.mem_filterMap.mpr ⟨p, member, there⟩)⟩
  · intro contained
    refine ⟨fun p member => (contained p member).1, fun packet handed => ?_⟩
    obtain ⟨p, member, there⟩ := List.mem_filterMap.mp handed
    exact (contained p member).2 packet there

/-- A header that announces no length at all, and as many bytes behind it as overrun the buffer. -/
def overrun : List UInt8 := RequestHeader.bytes ⟨0, 0, 0, 0, 0, 0, 0, 0, 0⟩ ++ .replicate packetSize 0

theorem length_overrun : overrun.length = sizeofRequestHeader + packetSize := by
  rw [overrun, List.length_append, RequestHeader.length_bytes, List.length_replicate]
  rfl

def overrunSource : Source UInt8 :=
  .ofSegments [overrun] (List.forall_mem_singleton.mpr
    (List.ne_nil_of_length_pos (by rw [length_overrun]; decide)))

/-- The loop stores all of it, 36 bytes more than the buffer holds. -/
theorem overrun_not_contained :
    ¬ ((∀ p ∈ Connection.sample.passes .loopback zeros overrunSource, p.stored.length ≤ packetSize) ∧
      ∀ packet ∈ (connection .loopback .sample zeros overrunSource).dispatched,
        sizeofRequestHeader ≤ packet.length ∧ packet.length ≤ packetSize) := by
  rintro ⟨kept, -⟩
  have content : overrunSource.content = overrun := List.flatten_singleton
  have length : (announced overrun).messageLen = 0 :=
    congrArg RequestHeader.messageLen (RequestHeader.parse_of_holds (Holds.write zeros 0 overrun).left)
  have remainder : (announced overrun).remainder = 2 ^ 32 - 36 := by
    rw [Announcement.remainder, length]
    rfl
  have stored : (overrun.take (sizeofRequestHeader + (announced overrun).remainder)).length =
      sizeofRequestHeader + packetSize := by
    rw [remainder, List.length_take, length_overrun]
    rfl
  have first : ∃ p ∈ Connection.sample.passes .loopback zeros overrunSource,
      p.stored = overrun.take (sizeofRequestHeader + (announced overrun).remainder) := by
    obtain ⟨-, once⟩ | ⟨-, packet, s', m', source', -, -, once⟩ :=
      passes_whole Environment.loopback.inPacket (dispatch .loopback) .sample zeros overrunSource
        (by rw [content, length_overrun]; decide)
    all_goals
      rw [Connection.passes, once, ← content]
      exact ⟨_, List.mem_cons_self, rfl⟩
  obtain ⟨p, member, all⟩ := first
  have bound := kept p member
  rw [all, stored] at bound
  exact absurd bound (by decide)

end CapiProxy.LinuxServer
