import CapiProxy.LinuxServer.Framing
import CapiProxy.LinuxServer.Sessions

/-! Clients that do not know the id of their session. However much of their requests arrives, and in
whatever segments, the handler never asks the CAPI for them. -/
namespace CapiProxy.LinuxServer
open Bytes Streams

section loop
variable (inPacket : Nat) (switch : σ → Memory → σ × Memory) {s : σ} {m : Memory} {source : Source UInt8}

/-- A frame that arrives in part is not handed over: one of the two `recvn` calls fails. -/
theorem serve_cut (f : RequestFrame) (cut : source.content <+: f.bytes)
    (short : source.content.length < f.bytes.length) : (serve inPacket switch s m source).state = s := by
  by_cases header : source.content.length < sizeofRequestHeader
  · have ended : (recvn source sizeofRequestHeader).ret ≤ 0 :=
      (recvnLoop_short sizeofRequestHeader sizeofRequestHeader [] source header).1
    rw [serve, if_pos ended]
  · have enough := Nat.le_of_not_lt header
    obtain ⟨ret, stored, rest⟩ := recvn_enough source sizeofRequestHeader enough
    have received : ¬ (recvn source sizeofRequestHeader).ret ≤ 0 := by
      rw [ret, ssize_of_lt (by decide)]
      decide
    have taken : source.content.take sizeofRequestHeader = f.bytes.take sizeofRequestHeader := by
      obtain ⟨later, whole⟩ := cut
      rw [← whole, List.take_append_of_le_length enough]
    have missing : (recvn source sizeofRequestHeader).rest.content.length <
        f.bytes.length - sizeofRequestHeader := by
      rw [rest, List.length_drop]
      omega
    have remainder := f.remainder (Holds.write m inPacket _)
    have ended := (recvnLoop_short (f.bytes.length - sizeofRequestHeader) _ [] _ missing).1
    rw [serve, if_neg received]
    dsimp only
    rw [stored, taken, remainder, recvn, if_pos ended]

theorem serve_prefix {P : σ → Prop} (frames : List RequestFrame)
    (keeps : ∀ f ∈ frames, ∀ (s : σ) (m : Memory), P s → P (switch s (m.write inPacket f.bytes)).1)
    (arrives : source.content <+: requests frames) (start : P s) :
    P (serve inPacket switch s m source).state := by
  induction frames generalizing s m source with
  | nil => rwa [(serve_end inPacket switch s m (List.prefix_nil.mp arrives)).2.1]
  | cons f frames ih =>
    rw [requests_cons] at arrives
    by_cases short : source.content.length < f.bytes.length
    · rwa [serve_cut inPacket switch f
        (List.prefix_of_prefix_length_le arrives (List.prefix_append _ _) (Nat.le_of_lt short)) short]
    · obtain ⟨later, split⟩ := List.prefix_of_prefix_length_le (List.prefix_append _ _) arrives
        (Nat.le_of_not_lt short)
      rw [← split, List.prefix_append_right_inj] at arrives
      by_cases bare : f.bare
      · rwa [(serve_bare inPacket switch s m f split.symm bare).2.1]
      · obtain ⟨source', rest, first⟩ := serve_frame inPacket switch s m f split.symm bare
        rw [first]
        exact ih (fun g member => keeps g (List.mem_cons_of_mem f member)) (rest ▸ arrives)
          (keeps f List.mem_cons_self s m start)

end loop

/-- A request for the CAPI with another session id, or a request for the proxy itself. -/
def Foreign (env : Environment) (head : RequestHeader) : Prop :=
  ∀ type, MessageType.ofCode head.messageType = some type → type.isCapi = true → head.sessionId ≠ env.sessionID

theorem dispatch_foreign (env : Environment) (c : Connection) (m : Memory) (foreign : Foreign env (request env m)) :
    (dispatch env c m).1.session.history = c.session.history := by
  cases found : selected env m with
  | none => rw [dispatch_none found]
  | some run =>
    obtain ⟨type, handler⟩ := run
    obtain ⟨arm, handled, session⟩ := selected_some found
    rw [dispatch_some found]
    by_contra asks
    have capi := asks_capi handled env _ _ m asks
    exact foreign type arm capi (session capi)

theorem foreign_unserved (env : Environment) (c : Connection) (m : Memory) (frames : List RequestFrame)
    (foreign : ∀ f ∈ frames, Foreign env f.request) (source : Source UInt8)
    (arrives : source.content <+: requests frames) :
    (connection env c m source).state.session.history = c.session.history := by
  refine serve_prefix env.inPacket (dispatch env) (P := fun c' => c'.session.history = c.session.history)
    frames (fun f member c' m' kept => ?_) arrives rfl
  have found : request env (m'.write env.inPacket f.bytes) = f.request := f.request_write m' env.inPacket
  rw [dispatch_foreign env c' _ (found ▸ foreign f member), kept]

end CapiProxy.LinuxServer
