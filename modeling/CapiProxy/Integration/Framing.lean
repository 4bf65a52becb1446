import CapiProxy.Win32Client.Receiver
import CapiProxy.Win32Server.Framing

/-! Framing between the Win32 client and the Win32 server. Both ends take a receive result for
a frame, so a stream is understood exactly when the network keeps the borders of the frames. -/
namespace CapiProxy.Integration
open Bytes Streams

/-- Requests and answers are processed as they were sent exactly when every receive call
returns one frame. -/
theorem win32_frames_iff (env : Win32Server.Environment) (name : List UInt8) (list memory : Memory)
    (history : List CapiEvent) (requests : List Win32Server.RequestFrame)
    (answers : List Win32Client.AnswerFrame) (toServer toClient : Source UInt8)
    (sent : toServer.content = stream (requests.map (·.bytes)))
    (answered : toClient.content = stream (answers.map (·.bytes))) :
    (Win32Server.Framed env
        (Win32Server.startSession env (.start env name list memory history) toServer).log
        (requests.map (·.bytes)) ↔
      toServer.chunks Win32Server.msgSize = requests.map (·.bytes)) ∧
    (Win32Client.Framed (Win32Client.messageDispatcher toClient) (answers.map (·.bytes)) ↔
      toClient.chunks Win32Client.msgBuffer = answers.map (·.bytes)) :=
  ⟨Win32Server.startSession_frames env _ rfl requests toServer sent,
    Win32Client.messageDispatcher_frames answers toClient answered⟩

def releaseRequest : Win32Server.RequestFrame where
  toFrame := RequestHeader.frame ⟨37, 36, 1, 0, 1, MessageType.capiRelease.code, 1, 0, 0x10000⟩ [0]
    (by decide)
  accepted := by decide

def releaseAnswer : Win32Client.AnswerFrame where
  bytes := AnswerHeader.bytes ⟨41, 40, 1, 0, 1, MessageType.capiRelease.code, 1, 0x10000, 0, 0⟩ ++ [0]
  header := by decide
  announced := by decide

/-- Two requests in one segment. -/
def coalesced : Source UInt8 :=
  .ofSegments [releaseRequest.bytes ++ releaseRequest.bytes] (by decide)

theorem release_answered_iff :
    (Win32Server.Framed .sample
        (Win32Server.startSession .sample (.start .sample [] zeros zeros []) coalesced).log
        ([releaseRequest, releaseRequest].map (·.bytes)) ↔
      coalesced.chunks Win32Server.msgSize = [releaseRequest, releaseRequest].map (·.bytes)) ∧
    (Win32Client.Framed
        (Win32Client.messageDispatcher (.ofSegments [releaseAnswer.bytes] (by decide)))
        ([releaseAnswer].map (·.bytes)) ↔
      (Source.ofSegments [releaseAnswer.bytes] (by decide)).chunks Win32Client.msgBuffer =
        [releaseAnswer].map (·.bytes)) :=
  win32_frames_iff .sample [] zeros zeros [] [releaseRequest, releaseRequest] [releaseAnswer]
    coalesced (.ofSegments [releaseAnswer.bytes] (by decide)) (by decide) (by decide)

/-- Of two requests that arrive together, the second is never processed. -/
theorem coalesced_not_framed :
    coalesced.content = stream ([releaseRequest, releaseRequest].map (·.bytes)) ∧
    ¬ Win32Server.Framed .sample
        (Win32Server.startSession .sample (.start .sample [] zeros zeros []) coalesced).log
        ([releaseRequest, releaseRequest].map (·.bytes)) := by
  refine ⟨by decide, fun ⟨packets, _⟩ => ?_⟩
  have chunks : coalesced.chunks Win32Server.msgSize = coalesced.segments :=
    coalesced.chunks_segments (by decide)
  have received := Win32Server.fold_log .sample (coalesced.chunks Win32Server.msgSize)
    (.start .sample [] zeros zeros [])
  rw [← Win32Server.startSession_eq, chunks] at received
  have once := congrArg List.length received
  rw [List.length_map] at once
  have bound := List.length_filterMap_le Delivery.packet
    ((Win32Server.startSession .sample (.start .sample [] zeros zeros []) coalesced).log.map
      (·.delivery .sample))
  rw [← Delivery.packets, packets, List.length_map, List.length_map, once] at bound
  exact absurd bound (by decide)

end CapiProxy.Integration
