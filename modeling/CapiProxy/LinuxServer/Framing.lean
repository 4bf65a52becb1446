import CapiProxy.LinuxServer.Main

/-! Framing of requests on the Linux server. The two `recvn` calls rebuild every frame from
any segmentation of the stream, except that a frame without body or data makes the second call
return 0, which the loop takes for the end of the stream. -/
namespace CapiProxy.LinuxServer
open Bytes Streams

def requests (frames : List RequestFrame) : List UInt8 := stream (frames.map (·.bytes))

theorem requests_cons (f : RequestFrame) (frames : List RequestFrame) :
    requests (f :: frames) = f.bytes ++ requests frames := rfl

def RequestFrame.bare (f : RequestFrame) : Prop := f.bytes.length = sizeofRequestHeader

instance (f : RequestFrame) : Decidable f.bare := inferInstanceAs (Decidable (_ = _))

variable (inPacket : Nat) (switch : σ → Memory → σ × Memory) (s : σ) (m : Memory)
  {source : Source UInt8} {later : List UInt8}

/-- What handing one frame after the other to the switch does to the state and the memory. -/
def handOver (p : σ × Memory) (f : RequestFrame) : σ × Memory := switch p.1 (p.2.write inPacket f.bytes)

theorem serve_frames (frames : List RequestFrame) (more : ∀ f ∈ frames, ¬ f.bare)
    (arrives : source.content = requests frames ++ later) :
    ∃ source', source'.content = later ∧
      let p := frames.foldl (handOver inPacket switch) (s, m)
      serve inPacket switch s m source =
        { serve inPacket switch p.1 p.2 source' with
          dispatched := frames.map (·.bytes) ++ (serve inPacket switch p.1 p.2 source').dispatched } := by
  induction frames generalizing s m source with
  | nil => exact ⟨source, by simpa [requests, stream] using arrives, rfl⟩
  | cons f frames ih =>
    rw [requests_cons, List.append_assoc] at arrives
    obtain ⟨source', rest, first⟩ := serve_frame inPacket switch s m f arrives (more f (by simp))
    obtain ⟨source'', rest', others⟩ := ih (switch s (m.write inPacket f.bytes)).1
      (switch s (m.write inPacket f.bytes)).2 (fun g member => more g (List.mem_cons_of_mem f member))
      rest
    refine ⟨source'', rest', ?_⟩
    rw [first]
    dsimp only
    rw [others]
    rfl

theorem serve_stops (frames : List RequestFrame) (more : ∀ f ∈ frames, ¬ f.bare) (f : RequestFrame) (bare : f.bare)
    (arrives : source.content = requests frames ++ (f.bytes ++ later)) :
    (serve inPacket switch s m source).dispatched = frames.map (·.bytes) ∧
      (serve inPacket switch s m source).rest.content = later := by
  obtain ⟨source', rest, served⟩ := serve_frames inPacket switch s m frames more arrives
  obtain ⟨nothing, -, unread⟩ := serve_bare inPacket switch _ _ f rest bare
  rw [served]
  exact ⟨by simp only [nothing, List.append_nil], unread⟩

theorem serve_all (frames : List RequestFrame) (more : ∀ f ∈ frames, ¬ f.bare)
    (arrives : source.content = requests frames) :
    (serve inPacket switch s m source).dispatched = frames.map (·.bytes) ∧
      (serve inPacket switch s m source).state = (frames.foldl (handOver inPacket switch) (s, m)).1 ∧
      (serve inPacket switch s m source).rest.content = [] := by
  obtain ⟨source', rest, served⟩ := serve_frames inPacket switch s m frames more
    (show source.content = requests frames ++ [] by rw [arrives, List.append_nil])
  obtain ⟨nothing, same, done⟩ := serve_end inPacket switch _ _ rest
  rw [served]
  exact ⟨by simp only [nothing, List.append_nil], same, done⟩

/-- A sequence of frames with a bare one splits at the first of these. -/
theorem first_bare {frames : List RequestFrame} (present : ¬ ∀ f ∈ frames, ¬ f.bare) :
    ∃ before f after, frames = before ++ f :: after ∧ f.bare ∧ ∀ g ∈ before, ¬ g.bare := by
  induction frames with
  | nil => exact absurd (fun f member => absurd member List.not_mem_nil) present
  | cons f frames ih =>
    by_cases bare : f.bare
    · exact ⟨[], f, frames, rfl, bare, fun g member => absurd member List.not_mem_nil⟩
    · obtain ⟨before, g, after, rfl, found, others⟩ := ih fun others =>
        present (List.forall_mem_cons.mpr ⟨bare, others⟩)
      exact ⟨f :: before, g, after, rfl, found, List.forall_mem_cons.mpr ⟨bare, others⟩⟩

/-- The loop delivers the whole sequence of frames exactly when none of them is a bare header. -/
theorem connection_delivers_frames (env : Environment) (c : Connection) (m : Memory)
    (frames : List RequestFrame) (source : Source UInt8) (arrives : source.content = requests frames) :
    (connection env c m source).dispatched = frames.map (·.bytes) ∧
      (connection env c m source).rest.content = [] ↔ ∀ f ∈ frames, ¬ f.bare := by
  constructor
  · rintro ⟨delivered, -⟩
    by_contra present
    obtain ⟨before, f, after, rfl, bare, more⟩ := first_bare present
    have split : requests (before ++ f :: after) = requests before ++ (f.bytes ++ requests after) := by
      simp [requests, stream]
    have stopped := (serve_stops env.inPacket (dispatch env) c m before more f bare (arrives.trans split)).1
    rw [connection, stopped] at delivered
    simpa using congrArg List.length delivered
  · intro more
    obtain ⟨delivered, -, done⟩ := serve_all env.inPacket (dispatch env) c m frames more arrives
    exact ⟨delivered, done⟩

/-- A request to release application 1, as the Linux client sends it: a header and nothing else. -/
def bareRelease : RequestFrame where
  toFrame := RequestHeader.frame ⟨36, 36, 0, 0, 1, MessageType.capiRelease.code, 1, 0, 3⟩ [] (by decide)
  fits := by decide

/-- The register request of a client with its body. -/
def registerRequest : RequestFrame where
  toFrame := RequestHeader.frame ⟨52, 36, 16, 0, 2, MessageType.capiRegister.code, 0, 0, 3⟩
    (words [4096, 2, 7, 2048]) (by decide)
  fits := by decide

def splitRegister : Source UInt8 :=
  .ofSegments [registerRequest.bytes.take 5, registerRequest.bytes.drop 5] (by decide)

theorem splitRegister_delivered :
    (connection .loopback .sample zeros splitRegister).dispatched = [registerRequest].map (·.bytes) ∧
      (connection .loopback .sample zeros splitRegister).rest.content = [] ↔
    ∀ f ∈ [registerRequest], ¬ f.bare :=
  connection_delivers_frames .loopback .sample zeros [registerRequest] splitRegister (by decide)

def releaseOnly : Source UInt8 := .ofSegments [bareRelease.bytes] (by decide)

/-- The bare release request never reaches the switch. -/
theorem bareRelease_not_delivered :
    releaseOnly.content = requests [bareRelease] ∧
    ¬ ((connection .loopback .sample zeros releaseOnly).dispatched = [bareRelease].map (·.bytes) ∧
      (connection .loopback .sample zeros releaseOnly).rest.content = []) := by
  have arrives : releaseOnly.content = bareRelease.bytes ++ [] := by decide
  refine ⟨by decide, ?_⟩
  rintro ⟨delivered, -⟩
  have stopped := (serve_bare Environment.loopback.inPacket (dispatch .loopback) .sample zeros
    bareRelease arrives rfl).1
  rw [connection, stopped] at delivered
  cases delivered

end CapiProxy.LinuxServer
