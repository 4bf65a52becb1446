import CapiProxy.Frames
import CapiProxy.LinuxServer.Session
import CapiProxy.Streams.Source

/-! The receive loop of the Linux server's `main`. It reads a header, then the rest of the
message its length word announces, and hands the packet to the dispatch switch; every receive
result that is not positive ends the connection. -/
namespace CapiProxy.LinuxServer
open Bytes Streams

/-- A size as the signed result type of `recvn`. -/
def ssize (size : Nat) : Int := (size : Int).bmod (2 ^ 32)

/-- The loop of `recvn` with `left` bytes to go, after the bytes in `stored`. -/
def recvnLoop (size left : Nat) (stored : List UInt8) (source : Source UInt8) : Receipt UInt8 :=
  if _ : left = 0 then ⟨ssize size, stored, source⟩
  else if _ : (source.recv left).ret ≤ 0 then
    ⟨(source.recv left).ret, stored, (source.recv left).rest⟩
  else
    recvnLoop size (left - (source.recv left).ret.toNat) (stored ++ (source.recv left).stored)
      (source.recv left).rest
termination_by left
decreasing_by omega

def recvn (source : Source UInt8) (size : Nat) : Receipt UInt8 := recvnLoop size size [] source

/-- How a connection went: the packets handed to the dispatch switch, each as long as its
header says, and what is left when the loop exits. -/
structure Served (σ : Type) where
  dispatched : List (List UInt8)
  state : σ
  memory : Memory
  rest : Source UInt8

def messageLen (m : Memory) (inPacket : Nat) : UInt32 := (RequestHeader.parse m inPacket).messageLen

theorem ssize_of_lt (small : size < 2 ^ 31) : ssize size = size := by
  exact Int.bmod_eq_of_le (by omega) (by omega)

theorem recvnLoop_zero : recvnLoop size 0 stored source = ⟨ssize size, stored, source⟩ := by
  unfold recvnLoop
  rw [dif_pos rfl]

theorem recvnLoop_ends (more : left ≠ 0) (ended : (source.recv left).ret ≤ 0) :
    recvnLoop size left stored source =
      ⟨(source.recv left).ret, stored, (source.recv left).rest⟩ := by
  rw [recvnLoop, dif_neg more, dif_pos ended]

theorem recvnLoop_continues (more : left ≠ 0) (got : ¬ (source.recv left).ret ≤ 0) :
    recvnLoop size left stored source =
      recvnLoop size (left - (source.recv left).ret.toNat) (stored ++ (source.recv left).stored)
        (source.recv left).rest := by
  rw [recvnLoop, dif_neg more, dif_neg got]

theorem recv_ended {source : Source UInt8} (pos : 0 < n) (ended : (source.recv n).ret ≤ 0) :
    source.content = [] ∧ (source.recv n).stored = [] ∧ (source.recv n).rest.content = [] := by
  have empty := (source.recv_ends n pos).mp ended
  have taken := source.recv_content n pos
  rw [empty] at taken
  exact ⟨empty, List.append_eq_nil_iff.mp taken.symm⟩

theorem recvnLoop_content (size left : Nat) (stored : List UInt8) (source : Source UInt8) :
    stored ++ source.content =
      (recvnLoop size left stored source).stored ++
        (recvnLoop size left stored source).rest.content := by
  induction left, stored, source using recvnLoop.induct with
  | case1 stored source => rw [recvnLoop_zero]
  | case2 left stored source done ended =>
    obtain ⟨empty, -, rest⟩ := recv_ended (by omega) ended
    rw [recvnLoop_ends done ended, empty, rest]
  | case3 left stored source done got ih =>
    rw [recvnLoop_continues done got, ← ih, source.recv_content left (by omega),
      List.append_assoc]

theorem recvnLoop_enough (size left : Nat) (stored : List UInt8) (source : Source UInt8)
    (enough : left ≤ source.content.length) :
    (recvnLoop size left stored source).ret = ssize size ∧
    (recvnLoop size left stored source).stored = stored ++ source.content.take left ∧
    (recvnLoop size left stored source).rest.content = source.content.drop left := by
  induction left, stored, source using recvnLoop.induct with
  | case1 stored source => simp [recvnLoop_zero]
  | case2 left stored source done ended =>
    have empty := (recv_ended (by omega) ended).1
    simp only [empty, List.length_nil] at enough
    omega
  | case3 left stored source done got ih =>
    obtain ⟨count, -, bound⟩ := source.recv_pos left (by omega) (by omega)
    have taken := source.recv_content left (by omega)
    have lengths := congrArg List.length taken
    have countNat : (source.recv left).ret.toNat = (source.recv left).stored.length := by omega
    rw [List.length_append] at lengths
    obtain ⟨ret, stored', rest'⟩ := ih (by omega)
    rw [recvnLoop_continues done got]
    refine ⟨ret, ?_, ?_⟩
    · rw [stored', taken, countNat, List.append_assoc, List.take_append,
        List.take_of_length_le bound]
    · rw [rest', taken, countNat, List.drop_append, List.drop_of_length_le bound, List.nil_append]

theorem recvnLoop_short (size left : Nat) (stored : List UInt8) (source : Source UInt8)
    (short : source.content.length < left) :
    (recvnLoop size left stored source).ret ≤ 0 ∧
    (recvnLoop size left stored source).rest.content = [] := by
  induction left, stored, source using recvnLoop.induct with
  | case1 stored source => omega
  | case2 left stored source done ended =>
    rw [recvnLoop_ends done ended]
    exact ⟨ended, (recv_ended (by omega) ended).2.2⟩
  | case3 left stored source done got ih =>
    obtain ⟨count, -, -⟩ := source.recv_pos left (by omega) (by omega)
    have lengths := congrArg List.length (source.recv_content left (by omega))
    rw [List.length_append] at lengths
    rw [recvnLoop_continues done got]
    exact ih (by omega)

theorem recvn_content (source : Source UInt8) (size : Nat) :
    source.content = (recvn source size).stored ++ (recvn source size).rest.content :=
  recvnLoop_content size size [] source

theorem recvn_enough (source : Source UInt8) (size : Nat) (enough : size ≤ source.content.length) :
    (recvn source size).ret = ssize size ∧
    (recvn source size).stored = source.content.take size ∧
    (recvn source size).rest.content = source.content.drop size := by
  exact recvnLoop_enough size size [] source enough

theorem recvn_shrinks (source : Source UInt8) (size : Nat) :
    (recvn source size).rest.content.length ≤ source.content.length := by
  rw [recvn_content source size, List.length_append]
  omega

theorem recvn_header_shrinks {source : Source UInt8}
    (got : ¬ (recvn source sizeofRequestHeader).ret ≤ 0) :
    (recvn source sizeofRequestHeader).rest.content.length < source.content.length := by
  rcases Nat.lt_or_ge source.content.length sizeofRequestHeader with short | enough
  · exact absurd (recvnLoop_short _ _ [] source short).1 got
  · rw [(recvn_enough source _ enough).2.2, List.length_drop]
    simp only [sizeofRequestHeader] at enough ⊢
    omega

/-- The handling loop of `main`, from its state `s` and the memory `m` on. -/
def serve (inPacket : Nat) (dispatch : σ → Memory → σ × Memory) (s : σ) (m : Memory)
    (source : Source UInt8) : Served σ :=
  let header := recvn source sizeofRequestHeader
  let m := m.write inPacket header.stored
  if header.ret ≤ 0 then ⟨[], s, m, header.rest⟩
  else
    let remainder := recvn header.rest (messageLen m inPacket - .ofNat sizeofRequestHeader).toNat
    let m := m.write (inPacket + sizeofRequestHeader) remainder.stored
    if remainder.ret ≤ 0 then ⟨[], s, m, remainder.rest⟩
    else
      let packet := m.read inPacket (messageLen m inPacket).toNat
      let (s, m) := dispatch s m
      let later := serve inPacket dispatch s m remainder.rest
      { later with dispatched := packet :: later.dispatched }
termination_by source.content.length
decreasing_by
  exact Nat.lt_of_le_of_lt (recvn_shrinks _ _) (recvn_header_shrinks (by assumption))

/-- A request that fits the packet buffer. -/
structure RequestFrame extends Frame sizeofRequestHeader where
  fits : bytes.length ≤ packetSize

theorem RequestFrame.messageLen (f : RequestFrame)
    (holds : Holds m a (f.bytes.take sizeofRequestHeader)) :
    (LinuxServer.messageLen m a).toNat = f.bytes.length :=
  Frame.messageLen f.toFrame (by decide) (Nat.le_refl _) holds

theorem RequestFrame.remainder (f : RequestFrame) (holds : Holds m a (f.bytes.take sizeofRequestHeader)) :
    (LinuxServer.messageLen m a - .ofNat sizeofRequestHeader).toNat =
      f.bytes.length - sizeofRequestHeader := by
  have len := f.messageLen holds
  have header := f.header
  have small : (UInt32.ofNat sizeofRequestHeader).toNat = sizeofRequestHeader := rfl
  rw [UInt32.toNat_sub_of_le _ _ (by rw [UInt32.le_iff_toNat_le]; omega), len, small]

variable (inPacket : Nat) (dispatch : σ → Memory → σ × Memory) (s : σ) (m : Memory)

theorem serve_end {source : Source UInt8} (ended : source.content = []) :
    (serve inPacket dispatch s m source).dispatched = [] ∧
    (serve inPacket dispatch s m source).state = s ∧
    (serve inPacket dispatch s m source).rest.content = [] := by
  obtain ⟨ret, rest⟩ := recvnLoop_short sizeofRequestHeader sizeofRequestHeader [] source
    (by simp [ended, sizeofRequestHeader])
  unfold serve
  rw [if_pos (show (recvn source sizeofRequestHeader).ret ≤ 0 from ret)]
  exact ⟨rfl, rfl, rest⟩

theorem recvn_frame (f : RequestFrame) {source : Source UInt8} (next : source.content = f.bytes ++ later) :
    ¬ (recvn source sizeofRequestHeader).ret ≤ 0 ∧
    (recvn source sizeofRequestHeader).stored = f.bytes.take sizeofRequestHeader ∧
    (recvn source sizeofRequestHeader).rest.content = f.bytes.drop sizeofRequestHeader ++ later := by
  obtain ⟨ret, stored, rest⟩ := recvn_enough source sizeofRequestHeader
    (by rw [next, List.length_append]; have := f.header; omega)
  refine ⟨?_, ?_, ?_⟩
  · rw [ret, ssize_of_lt (by decide)]
    decide
  · rw [stored, next, List.take_append_of_le_length f.header]
  · rw [rest, next, List.drop_append_of_le_length f.header]

/-- A bare header leaves nothing to receive, and a result of 0 ends the connection. -/
theorem serve_bare (f : RequestFrame) {source : Source UInt8} (next : source.content = f.bytes ++ later)
    (bare : f.bytes.length = sizeofRequestHeader) :
    (serve inPacket dispatch s m source).dispatched = [] ∧
    (serve inPacket dispatch s m source).state = s ∧
    (serve inPacket dispatch s m source).rest.content = later := by
  obtain ⟨ret, stored, rest⟩ := recvn_frame f next
  have remainder := f.remainder (Holds.write m inPacket _)
  rw [bare, Nat.sub_self] at remainder
  unfold serve
  rw [if_neg ret]
  dsimp only
  rw [stored, remainder, recvn, recvnLoop_zero,
    if_pos (show ssize 0 ≤ 0 by decide)]
  refine ⟨rfl, rfl, ?_⟩
  rw [rest, List.drop_of_length_le (by omega), List.nil_append]

theorem serve_frame (f : RequestFrame) {source : Source UInt8} (next : source.content = f.bytes ++ later)
    (more : f.bytes.length ≠ sizeofRequestHeader) :
    ∃ source', source'.content = later ∧
      let (s', m') := dispatch s (m.write inPacket f.bytes)
      serve inPacket dispatch s m source =
        { serve inPacket dispatch s' m' source' with
          dispatched := f.bytes :: (serve inPacket dispatch s' m' source').dispatched } := by
  obtain ⟨ret, stored, rest⟩ := recvn_frame f next
  have header := f.header
  have fits := f.fits
  have remainder := f.remainder (Holds.write m inPacket _)
  obtain ⟨ret', stored', rest'⟩ :=
    recvn_enough (recvn source sizeofRequestHeader).rest
      (f.bytes.length - sizeofRequestHeader)
      (by rw [rest, List.length_append, List.length_drop]; omega)
  have length : (f.bytes.drop sizeofRequestHeader).length = f.bytes.length - sizeofRequestHeader := by
    simp
  rw [rest, List.take_append_of_le_length (by omega), List.take_of_length_le (by omega)] at stored'
  rw [rest, List.drop_append_of_le_length (by omega), List.drop_of_length_le (by omega),
    List.nil_append] at rest'
  have whole : (m.write inPacket (f.bytes.take sizeofRequestHeader)).write
      (inPacket + sizeofRequestHeader) (f.bytes.drop sizeofRequestHeader) =
      m.write inPacket f.bytes := by
    have taken : (f.bytes.take sizeofRequestHeader).length = sizeofRequestHeader := by
      simp; omega
    conv_rhs => rw [← List.take_append_drop sizeofRequestHeader f.bytes]
    rw [Memory.write_append, taken]
  have packet : (m.write inPacket f.bytes).read inPacket
      (LinuxServer.messageLen (m.write inPacket f.bytes) inPacket).toNat = f.bytes := by
    have holds := Holds.write m inPacket f.bytes
    rw [f.messageLen (holds.take _)]
    exact holds
  refine ⟨_, rest', ?_⟩
  rw [serve, if_neg ret]
  dsimp only
  rw [stored, remainder, if_neg (by
    rw [ret', ssize_of_lt (by simp only [packetSize] at fits; omega)]; omega), stored', whole, packet]

theorem serve_invariant {P : σ → Prop} (step : ∀ s m, P s → P (dispatch s m).1) (start : P s) :
    P (serve inPacket dispatch s m source).state := by
  fun_induction serve inPacket dispatch s m source with
  | case1 => exact start
  | case2 => exact start
  | case3 s m source header stored got remainder filled more packet after memory handled later ih =>
    exact ih (by simpa only [handled] using step s filled start)

end CapiProxy.LinuxServer
