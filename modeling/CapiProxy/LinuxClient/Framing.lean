import CapiProxy.LinuxClient.Unchanged
import CapiProxy.Streams.Chunks

/-! What the daemon makes of the stream of answers. One buffer holds the answers and the messages
of the module, every result of a receive call counts as one answer, and so does the end of the
connection: then an answer that lies in the buffer since an earlier call is handled again. -/
namespace CapiProxy.LinuxClient
open Bytes Streams

abbrev AnswerFrame := Frame sizeofAnswerHeader

/-- The buffer when a packet is handled, and the bytes the receive call before stored in it. -/
structure Handling where
  received : List UInt8
  buffer : Memory

def handlings (log : List Event) : List Handling :=
  log.filterMap fun
    | .handled received buffer => some ⟨received, buffer⟩
    | _ => none

namespace Handling

/-- The bytes the length word of the buffer declares to be the answer. -/
def packet (h : Handling) : List UInt8 :=
  h.buffer.read 0 (AnswerHeader.parse h.buffer 0).messageLen.toNat

def delivery (h : Handling) : Delivery UInt8 := ⟨h.received, some h.packet⟩

/-- The packet was handled right after a receive call. -/
def Stored (h : Handling) : Prop := ∃ m : Memory, h.buffer = m.write 0 h.received

theorem Stored.packet_own {h : Handling} (stored : h.Stored)
    (bound : h.packet.length ≤ h.received.length) : h.packet <+: h.received := by
  obtain ⟨m, buffer⟩ := stored
  rw [packet, Memory.length_read] at bound
  have within := m.read_write_prefix 0 _ h.received bound
  rwa [← buffer] at within

theorem Stored.packet_frame {h : Handling} (stored : h.Stored) (f : AnswerFrame)
    (received : h.received = f.bytes) : h.packet = f.bytes := by
  obtain ⟨m, buffer⟩ := stored
  rw [packet, buffer, received]
  exact f.read_announced (by decide) m 0

end Handling

/-- The daemon handles exactly these frames in their order, each from the bytes that the receive
call just returned. -/
def Framed (log : List Event) (frames : List (List UInt8)) : Prop :=
  (handlings log).map Handling.packet = frames ∧
    ∀ h ∈ handlings log, h.packet.length ≤ h.received.length

namespace Daemon

/-- What the receive calls of a run return; a call that finds nothing returns nothing. -/
def receptions (env : Environment) (d : Daemon) : List Result → List (List UInt8)
  | [] => []
  | r :: later =>
    let rest := receptions env (d.step env r) later
    if d.receives r then r.stored :: rest else rest

theorem plain_handlings {d d' : Daemon} (plain : Plain d d') :
    handlings d'.log = handlings d.log := by
  obtain ⟨new, log, events⟩ := plain.log
  have none : handlings new = [] := by
    apply List.filterMap_eq_nil_iff.mpr
    intro e member
    have here := events e member
    cases e with
    | handled => cases here
    | _ => rfl
  rw [log, ← List.append_nil (handlings d.log), ← none]
  exact List.filterMap_append ..

theorem finish_handlings (env : Environment) (op : Operation) (d : Daemon) :
    handlings (d.finish env op).log = handlings d.log := by
  by_cases granted : d.aheader.proxyError = perrorNone
  · cases op with
    | fetch property => exact plain_handlings (finish_fetch env property d)
    | put => exact plain_handlings (finish_put env d)
    | release appl =>
      rw [finish_release env appl d granted]
      exact (List.filterMap_append ..).trans (List.append_nil _)
    | register appl =>
      obtain ⟨polled, plain, finished⟩ := finish_register env appl d granted
      rw [finished, ← plain_handlings plain]
      exact (List.filterMap_append ..).trans (List.append_nil _)
  · exact plain_handlings (finish_refused env op d granted)

/-- One packet is handled for each receive call that returns. -/
theorem step_handlings (env : Environment) (d : Daemon) (r : Result) :
    handlings (d.step env r).log = handlings d.log ++
      if d.receives r then [⟨r.stored, d.recvbuffer.write 0 r.stored⟩] else [] := by
  have received : handlings (d.receive r).log =
      handlings d.log ++ [⟨r.stored, d.recvbuffer.write 0 r.stored⟩] := List.filterMap_append ..
  cases step_outcome env d r with
  | idle receives _ kept => rw [plain_handlings kept, receives, if_neg Bool.false_ne_true, List.append_nil]
  | handled receives _ kept => rw [plain_handlings kept, received, if_pos receives]
  | finished op receives _ done => rw [done, finish_handlings, received, if_pos receives]

theorem run_handlings (env : Environment) (d : Daemon) (results : List Result) :
    (handlings (d.run env results).log).map Handling.received =
      (handlings d.log).map Handling.received ++ d.receptions env results := by
  induction results generalizing d with
  | nil => simp [run, receptions]
  | cons r later ih =>
    rw [run, List.foldl_cons, ← run, ih, step_handlings, receptions]
    cases d.receives r <;> simp

theorem run_stored (env : Environment) (d : Daemon) (results : List Result)
    (start : ∀ h ∈ handlings d.log, h.Stored) : ∀ h ∈ handlings (d.run env results).log, h.Stored := by
  induction results generalizing d with
  | nil => exact start
  | cons r later ih =>
    refine ih (d.step env r) fun h member => ?_
    rw [step_handlings, List.mem_append] at member
    rcases member with earlier | here
    · exact start h earlier
    · split at here
      · rw [List.mem_singleton.mp here]
        exact ⟨d.recvbuffer, rfl⟩
      · cases here

theorem start_handlings (env : Environment) (sessionId msgid : UInt32)
    (sendbuffer recvbuffer : Memory) (info : InitData) :
    handlings (start env sessionId msgid sendbuffer recvbuffer info).log = [] :=
  plain_handlings (fetch_plain env .manufacturer
    ⟨.poll, sendbuffer, recvbuffer, msgid, sessionId, Daemon.cleared env, Daemon.cleared env, info, []⟩)

end Daemon

theorem framed_of_receptions {log : List Event} {frames : List AnswerFrame}
    (stored : ∀ h ∈ handlings log, h.Stored)
    (received : (handlings log).map Handling.received = frames.map (·.bytes)) :
    Framed log (frames.map (·.bytes)) := by
  have each : ∀ h ∈ handlings log, h.packet = h.received := by
    intro h member
    have arrived : h.received ∈ frames.map (·.bytes) := by
      rw [← received]
      exact List.mem_map_of_mem member
    obtain ⟨f, -, bytes⟩ := List.mem_map.mp arrived
    rw [(stored h member).packet_frame f bytes.symm, bytes]
  constructor
  · rw [← received]
    exact List.map_congr_left each
  · intro h member
    exact Nat.le_of_eq (congrArg List.length (each h member))

theorem receptions_of_framed {log : List Event} {frames : List AnswerFrame}
    (stored : ∀ h ∈ handlings log, h.Stored)
    (arrives : ((handlings log).map Handling.received).flatten = stream (frames.map (·.bytes)))
    (framed : Framed log (frames.map (·.bytes))) :
    (handlings log).map Handling.received = frames.map (·.bytes) := by
  obtain ⟨packets, own⟩ := framed
  have chunks : ((handlings log).map Handling.delivery).map Delivery.chunk =
      (handlings log).map Handling.received := by rw [List.map_map]; rfl
  have handed : Delivery.packets ((handlings log).map Handling.delivery) =
      (handlings log).map Handling.packet := by
    rw [Delivery.packets, List.filterMap_map]
    exact congrFun List.filterMap_eq_map' _
  rw [← packets, ← handed, ← chunks]
  refine (Delivery.packets_eq_chunks ?_ ?_ ?_).symm
  · intro d member p packet
    obtain ⟨h, logged, rfl⟩ := List.mem_map.mp member
    cases packet
    exact (stored h logged).packet_own (own h logged)
  · intro d member
    obtain ⟨h, logged, rfl⟩ := List.mem_map.mp member
    -- the packet is a frame, and it fits into what was received
    have frame : h.packet ∈ frames.map (·.bytes) := by
      rw [← packets]
      exact List.mem_map_of_mem logged
    obtain ⟨f, -, bytes⟩ := List.mem_map.mp frame
    have least := f.header
    have bound := own h logged
    rw [← bytes] at bound
    apply List.ne_nil_of_length_pos
    change 0 < h.received.length
    simp only [sizeofAnswerHeader] at least
    omega
  · rw [handed, packets, chunks, arrives, stream]

/-- A run in which the receive calls return these answers handles each of them once, in order and
from the bytes just received, exactly when every call returns one answer. -/
theorem answers_framed_iff (env : Environment) (sessionId msgid : UInt32)
    (sendbuffer recvbuffer : Memory) (info : InitData) (results : List Result)
    (frames : List AnswerFrame)
    (arrives : ((Daemon.start env sessionId msgid sendbuffer recvbuffer info).receptions env
      results).flatten = stream (frames.map (·.bytes))) :
    Framed ((Daemon.start env sessionId msgid sendbuffer recvbuffer info).run env results).log
        (frames.map (·.bytes)) ↔
      (Daemon.start env sessionId msgid sendbuffer recvbuffer info).receptions env results =
        frames.map (·.bytes) := by
  have none := Daemon.start_handlings env sessionId msgid sendbuffer recvbuffer info
  have stored := Daemon.run_stored env (.start env sessionId msgid sendbuffer recvbuffer info) results
    (by rw [none]; nofun)
  have received := Daemon.run_handlings env (.start env sessionId msgid sendbuffer recvbuffer info)
    results
  rw [none, List.map_nil, List.nil_append] at received
  rw [← received] at arrives ⊢
  exact ⟨receptions_of_framed stored arrives, framed_of_receptions stored⟩

def manufacturerAnswer : AnswerFrame where
  bytes := grant .capiManufacturer 1 0 (List.replicate 64 0)
  header := by decide
  announced := by decide

def closedEarly : List Result :=
  [.data manufacturerAnswer.bytes (by decide) (by decide), .closed]

theorem closedEarly_framed :
    Framed (Daemon.sample.run .sample closedEarly).log ([manufacturerAnswer].map (·.bytes)) ↔
      Daemon.sample.receptions .sample closedEarly = [manufacturerAnswer].map (·.bytes) :=
  answers_framed_iff .sample 3 0 zeros zeros ⟨[], [], [], []⟩ closedEarly [manufacturerAnswer]
    (by decide +kernel)

/-- The answer to the manufacturer request is taken for the answer to the version request too. -/
theorem closedEarly_not_framed :
    (Daemon.sample.receptions .sample closedEarly).flatten =
      stream ([manufacturerAnswer].map (·.bytes)) ∧
    ¬ Framed (Daemon.sample.run .sample closedEarly).log ([manufacturerAnswer].map (·.bytes)) := by
  refine ⟨by decide +kernel, fun ⟨packets, _⟩ => ?_⟩
  have twice : (handlings (Daemon.sample.run .sample closedEarly).log).length = 2 := by decide +kernel
  have once := congrArg List.length packets
  rw [List.length_map, twice] at once
  exact absurd once (by decide)

end CapiProxy.LinuxClient
