import CapiProxy.Frames
import CapiProxy.Win32Server.StartSession

/-! What `StartSession` makes of a stream of requests. A request that is not received by a
call of its own is lost, or completed with bytes that an earlier call left in the buffer. -/
namespace CapiProxy.Win32Server
open Bytes Streams

/-- A request that `verifyRequest` accepts when it lies in the buffer as it was sent. -/
structure RequestFrame extends Frame sizeofRequestHeader where
  accepted : verifyRequest (zeros.write 0 bytes) 0 = true

theorem RequestFrame.verified (f : RequestFrame) (m : Memory) (a : Nat) :
    verifyRequest (m.write a f.bytes) a = true := by
  rw [← f.accepted]
  exact verifyRequest_congr (f.request_write m a)

namespace Exchange

/-- The receive result passed `verifyRequest` and went into the switch. -/
def processed (env : Environment) (e : Exchange) : Bool :=
  verifyRequest e.state.memory env.requestBuffer

/-- The bytes the switch takes for the request. -/
def packet (env : Environment) (e : Exchange) : List UInt8 :=
  e.state.memory.read env.requestBuffer (header env e.state.memory).messageLen.toNat

def delivery (env : Environment) (e : Exchange) : Delivery UInt8 where
  chunk := e.received
  packet := if e.processed env then some (e.packet env) else none

def Stored (env : Environment) (e : Exchange) : Prop :=
  ∃ m : Memory, e.state.memory = m.write env.requestBuffer e.received

theorem Stored.packet_own (stored : Stored env e)
    (bound : (e.packet env).length ≤ e.received.length) : e.packet env <+: e.received := by
  obtain ⟨m, memory⟩ := stored
  rw [packet, Memory.length_read] at bound
  rw [packet]
  have within := m.read_write_prefix env.requestBuffer _ e.received bound
  rwa [← memory] at within

end Exchange

theorem fold_log (env : Environment) (chunks : List (List UInt8)) (c : Connection) :
    (chunks.foldl (·.handle env ·) c).log.map (·.received) = c.log.map (·.received) ++ chunks := by
  induction chunks generalizing c with
  | nil => simp
  | cons bytes later ih =>
    obtain ⟨e, log, received, -⟩ := handle_log env c bytes
    rw [List.foldl_cons, ih, log]
    simp [received]

theorem startSession_stored (env : Environment) (c : Connection) (source : Source UInt8)
    (start : ∀ e ∈ c.log, e.Stored env) : ∀ e ∈ (startSession env c source).log, e.Stored env :=
  startSession_invariant (P := fun c => ∀ e ∈ c.log, e.Stored env) env source
    (fun c bytes before e member => by
      obtain ⟨e', log, received, state⟩ := handle_log env c bytes
      rw [log, List.mem_append, List.mem_singleton] at member
      rcases member with earlier | rfl
      · exact before e earlier
      · exact ⟨c.state.memory, by rw [state, received]; rfl⟩)
    start

/-- The log processes exactly these frames, each from the bytes of its own receive call. -/
def Framed (env : Environment) (log : List Exchange) (frames : List (List UInt8)) : Prop :=
  Delivery.packets (log.map (·.delivery env)) = frames ∧
    ∀ e ∈ log, e.processed env → (e.packet env).length ≤ e.received.length

theorem framed_of_chunks (env : Environment) (log : List Exchange) (frames : List RequestFrame)
    (stored : ∀ e ∈ log, e.Stored env) (chunks : log.map (·.received) = frames.map (·.bytes)) :
    Framed env log (frames.map (·.bytes)) := by
  induction log generalizing frames with
  | nil =>
    obtain rfl := List.map_eq_nil_iff.mp chunks.symm
    exact ⟨rfl, by simp⟩
  | cons e log ih =>
    cases frames with
    | nil => cases chunks
    | cons f frames =>
      obtain ⟨received, chunks⟩ := List.cons.inj chunks
      dsimp only at received
      obtain ⟨packets, own⟩ := ih frames (fun e' member => stored e' (List.mem_cons_of_mem e member))
        chunks
      obtain ⟨m, memory⟩ := stored e List.mem_cons_self
      rw [received] at memory
      have verified : e.processed env = true := by
        rw [Exchange.processed, memory]
        exact f.verified m env.requestBuffer
      have packet : e.packet env = f.bytes := by
        rw [Exchange.packet, memory]
        exact f.toFrame.read_announced (by decide) m env.requestBuffer
      constructor
      · have handed : (e.delivery env).packet = some f.bytes := by
          rw [Exchange.delivery, if_pos verified, packet]
        rw [List.map_cons, List.map_cons, Delivery.packets_some handed, packets]
      · have length := congrArg List.length (packet.trans received.symm)
        exact List.forall_mem_cons.mpr ⟨fun _ => Nat.le_of_eq length, own⟩

/-- The session processes a sequence of frames as it was sent exactly when every receive call
returns one frame. -/
theorem startSession_frames (env : Environment) (c : Connection) (start : c.log = [])
    (frames : List RequestFrame) (source : Source UInt8)
    (arrives : source.content = stream (frames.map (·.bytes))) :
    Framed env (startSession env c source).log (frames.map (·.bytes)) ↔
      source.chunks msgSize = frames.map (·.bytes) := by
  have stored := startSession_stored env c source (by simp [start])
  have received : (startSession env c source).log.map (·.received) = source.chunks msgSize := by
    rw [startSession_eq, fold_log, start, List.map_nil, List.nil_append]
  have chunks : ((startSession env c source).log.map (·.delivery env)).map (·.chunk) =
      source.chunks msgSize := by
    rw [← received, List.map_map]
    rfl
  constructor
  · rintro ⟨packets, own⟩
    rw [← packets, ← chunks]
    refine (Delivery.packets_eq_chunks ?_ ?_ ?_).symm
    · intro d member p handed
      obtain ⟨e, logged, rfl⟩ := List.mem_map.mp member
      simp only [Exchange.delivery, Option.ite_none_right_eq_some, Option.some.injEq] at handed ⊢
      obtain ⟨verified, rfl⟩ := handed
      exact (stored e logged).packet_own (own e logged verified)
    · intro d member
      have chunk : d.chunk ∈ source.chunks msgSize := by
        rw [← chunks]
        exact List.mem_map_of_mem member
      exact (source.chunks_bounds (by decide) d.chunk chunk).1
    · rw [packets, chunks, source.chunks_flatten (by decide), arrives, stream]
  · intro whole
    exact framed_of_chunks env _ frames stored (received.trans whole)

end CapiProxy.Win32Server
