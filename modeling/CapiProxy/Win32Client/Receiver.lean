import CapiProxy.Frames
import CapiProxy.Streams.Chunks
import CapiProxy.Win32Client.Session

/-! The receiving thread of the Win32 client. Each receive call gets a zeroed buffer of its
own, and every result that is long enough for a header is dispatched as one answer. -/
namespace CapiProxy.Win32Client
open Bytes Streams

/-- A buffer handed to `dispatchMessage`, with the bytes the receive call stored in it. -/
structure Received where
  message : Memory
  bytes : List UInt8

def Received.of (bytes : List UInt8) : Received := ⟨zeros.write 0 bytes, bytes⟩

/-- The buffers `messageDispatcher` dispatches until the socket is shut down or fails. -/
def messageDispatcher (source : Source UInt8) : List Received :=
  if _ : (source.recv msgBuffer).ret ≤ 0 then []
  else if (source.recv msgBuffer).ret < sizeofAnswerHeader then
    messageDispatcher (source.recv msgBuffer).rest
  else .of (source.recv msgBuffer).stored :: messageDispatcher (source.recv msgBuffer).rest
termination_by source.content.length
decreasing_by all_goals exact source.recv_shrinks msgBuffer (by assumption)

def Received.packet (r : Received) : List UInt8 :=
  r.message.read 0 (AnswerHeader.parse r.message 0).messageLen.toNat

abbrev AnswerFrame := Frame sizeofAnswerHeader

/-- The thread dispatches exactly these frames, each from the bytes of its own receive call. -/
def Framed (dispatched : List Received) (frames : List (List UInt8)) : Prop :=
  dispatched.map Received.packet = frames ∧
    ∀ r ∈ dispatched, r.packet.length ≤ r.bytes.length

def delivery (bytes : List UInt8) : Delivery UInt8 where
  chunk := bytes
  packet := if sizeofAnswerHeader ≤ bytes.length then some (Received.of bytes).packet else none

theorem messageDispatcher_eq (source : Source UInt8) :
    messageDispatcher source =
      ((source.chunks msgBuffer).filter (sizeofAnswerHeader ≤ ·.length)).map .of := by
  fun_induction messageDispatcher source with
  | case1 source ended => rw [Source.chunks_ended ended]; rfl
  | case2 source more short ih =>
    have count := (source.recv_pos msgBuffer (by decide) (by omega)).1
    rw [ih, Source.chunks_continues more, List.filter_cons_of_neg (by simp; omega)]
  | case3 source more long ih =>
    have count := (source.recv_pos msgBuffer (by decide) (by omega)).1
    rw [ih, Source.chunks_continues more, List.filter_cons_of_pos (by simp; omega), List.map_cons]

theorem packets_eq (chunks : List (List UInt8)) :
    Delivery.packets (chunks.map delivery) =
      ((chunks.filter (sizeofAnswerHeader ≤ ·.length)).map Received.of).map Received.packet := by
  induction chunks with
  | nil => rfl
  | cons c later ih =>
    by_cases long : sizeofAnswerHeader ≤ c.length
    · have handed : (delivery c).packet = some (Received.of c).packet := if_pos long
      rw [List.map_cons, Delivery.packets_some handed, List.filter_cons_of_pos (by simpa using long),
        ih, List.map_cons, List.map_cons]
    · have handed : (delivery c).packet = none := if_neg long
      rw [List.map_cons, Delivery.packets_none handed, List.filter_cons_of_neg (by simpa using long), ih]

theorem packet_own (bytes : List UInt8) (bound : (Received.of bytes).packet.length ≤ bytes.length) :
    (Received.of bytes).packet <+: bytes := by
  rw [Received.packet, Memory.length_read] at bound
  exact zeros.read_write_prefix 0 _ bytes bound

theorem packet_frame (f : AnswerFrame) : (Received.of f.bytes).packet = f.bytes :=
  f.read_announced (by decide) zeros 0

/-- The thread dispatches a sequence of answers as it was sent exactly when every receive call
returns one answer. -/
theorem messageDispatcher_frames (frames : List AnswerFrame) (source : Source UInt8)
    (arrives : source.content = stream (frames.map (·.bytes))) :
    Framed (messageDispatcher source) (frames.map (·.bytes)) ↔
      source.chunks msgBuffer = frames.map (·.bytes) := by
  rw [messageDispatcher_eq]
  constructor
  · rintro ⟨packets, own⟩
    rw [← packets_eq] at packets
    have chunks : ((source.chunks msgBuffer).map delivery).map (·.chunk) = source.chunks msgBuffer := by
      rw [List.map_map]
      exact List.map_id _
    rw [← packets]
    refine (Eq.trans (Delivery.packets_eq_chunks ?_ ?_ ?_) chunks).symm
    · intro d member p handed
      obtain ⟨c, received, rfl⟩ := List.mem_map.mp member
      simp only [delivery, Option.ite_none_right_eq_some, Option.some.injEq] at handed ⊢
      obtain ⟨long, rfl⟩ := handed
      refine packet_own c (own (.of c) (List.mem_map_of_mem ?_))
      exact List.mem_filter.mpr ⟨received, by simpa using long⟩
    · intro d member
      obtain ⟨c, received, rfl⟩ := List.mem_map.mp member
      exact (source.chunks_bounds (by decide) c received).1
    · rw [packets, chunks, source.chunks_flatten (by decide), arrives, stream]
  · intro whole
    have all : (source.chunks msgBuffer).filter (sizeofAnswerHeader ≤ ·.length) =
        frames.map (·.bytes) := by
      rw [whole, List.filter_eq_self]
      intro c member
      obtain ⟨f, -, rfl⟩ := List.mem_map.mp member
      simpa using f.header
    rw [all]
    constructor
    · simp only [List.map_map]
      exact List.map_congr_left fun f _ => packet_frame f
    · intro r member
      simp only [List.map_map, List.mem_map, Function.comp_apply] at member
      obtain ⟨f, -, rfl⟩ := member
      exact Nat.le_of_eq (congrArg List.length (packet_frame f))

end CapiProxy.Win32Client
