import CapiProxy.LinuxClient.Requests

/-! What the daemon puts on the wire. Whatever it does, every frame it sends starts with a request
header that announces the length of the frame and carries the session id of the daemon. -/
namespace CapiProxy.LinuxClient
open Bytes

/-- A frame of this session. -/
structure Carries (session : UInt32) (head : RequestHeader) (frame : List UInt8) : Prop where
  session : head.sessionId = session
  starts : head.bytes <+: frame
  announced : head.messageLen.toNat = frame.length

def Event.Carries (session : UInt32) : Event → Prop
  | .sent head frame => LinuxClient.Carries session head frame
  | _ => True

def Event.Fits (room : Nat) : Event → Prop
  | .sent _ frame => frame.length ≤ room
  | _ => True

instance (room : Nat) : DecidablePred (Event.Fits room)
  | .sent _ frame => inferInstanceAs (Decidable (frame.length ≤ room))
  | .handled .. | .written _ | .setData _ | .registered .. | .regfail _ | .released _ => .isTrue trivial

/-- The bytes that the send calls have taken. -/
def wire (log : List Event) : List UInt8 :=
  stream (log.filterMap fun
    | .sent _ frame => some frame
    | _ => none)

namespace Daemon

/-- The session id is as it was, and what was sent carries it. -/
structure Sends (d d' : Daemon) : Prop where
  session : d'.sessionId = d.sessionId
  log : ∃ new, d'.log = d.log ++ new ∧ ∀ e ∈ new, e.Carries d.sessionId

theorem Sends.refl (d : Daemon) : Sends d d := ⟨rfl, [], (List.append_nil _).symm, nofun⟩

theorem Sends.trans (first : Sends d d') (second : Sends d' d'') : Sends d d'' := by
  obtain ⟨new, log, carries⟩ := first.log
  obtain ⟨new', log', carries'⟩ := second.log
  refine ⟨second.session.trans first.session, new ++ new', ?_, fun e member => ?_⟩
  · rw [log', log, List.append_assoc]
  · rcases List.mem_append.mp member with earlier | later
    · exact carries e earlier
    · exact first.session ▸ carries' e later

theorem Sends.goto (sends : Sends d d') (control : Control) : Sends d (d'.goto control) :=
  ⟨sends.session, sends.log⟩

theorem note_sends (d : Daemon) (e : Event) (carries : e.Carries d.sessionId) : Sends d (d.note e) :=
  ⟨rfl, [e], rfl, fun _ member => List.mem_singleton.mp member ▸ carries⟩

theorem storeRecv_sends (d : Daemon) (m : Memory) : Sends d (d.storeRecv m) := ⟨rfl, (Sends.refl d).log⟩

theorem receive_sends (d : Daemon) (r : Result) : Sends d (d.receive r) :=
  (storeRecv_sends d _).trans (note_sends _ (.handled ..) trivial)

theorem collect_sends (d : Daemon) (property : Property) : Sends d (d.collect property) :=
  ⟨rfl, (Sends.refl d).log⟩

theorem composed_carries (d : Daemon) (head : RequestHeader) (rest : List UInt8)
    (whole : sizeofRequestHeader ≤ head.messageLen.toNat) :
    Carries head.sessionId head ((d.compose head rest).sendbuffer.read 0 head.messageLen.toNat) where
  session := rfl
  starts := by
    have header : (d.compose head rest).sendbuffer.read 0 sizeofRequestHeader = head.bytes := by
      have length := RequestHeader.length_bytes head
      rw [compose, storeSend, Memory.read_write_outside _ _ _ _ _ (.inl (by decide)), sizeofRequestHeader,
        ← length, Memory.read_write]
    obtain ⟨more, length⟩ := Nat.exists_eq_add_of_le whole
    rw [length, Memory.read_add, header]
    exact List.prefix_append _ _
  announced := (Memory.length_read _ _ _).symm

theorem request_sends (env : Environment) (type : MessageType) (appl : UInt32) (body : List UInt8)
    {data : List UInt8} (fits : data.length ≤ bufferSize) (d : Daemon) :
    Sends d (d.request env type appl body data).1 := by
  have size := Query.sizeofRequest_le type
  have length : (d.header type appl data.length).messageLen.toNat =
      sizeofRequestHeader + type.sizeofRequest .gnuC + data.length := by
    rw [header, UInt32.toNat_ofNat', sizeofRequestHeader]
    simp only [bufferSize] at fits
    omega
  simp only [request]
  split
  · refine ⟨rfl, [_], rfl, fun e member => List.mem_singleton.mp member ▸ ?_⟩
    exact composed_carries d _ _ (by rw [length]; omega)
  · exact ⟨rfl, (Sends.refl d).log⟩

theorem handleServerpacket_sends (env : Environment) (d : Daemon) :
    Sends d (d.handleServerpacket env) := by
  unfold handleServerpacket
  split
  · exact request_sends env _ _ _ (Nat.zero_le _) d
  · have moved : Sends d (d.sendToModule env) := ⟨rfl, [_], rfl, fun _ member =>
      List.mem_singleton.mp member ▸ trivial⟩
    exact moved.trans (request_sends env _ _ _ (Nat.zero_le _) _)
  · exact .refl d

theorem await_sends (op : Operation) {next : Daemon → Daemon} (given : ∀ d, Sends d (next d))
    {sent : Daemon × Bool} (request : Sends d sent.1) : Sends d (await op next sent) := by
  obtain ⟨d', ok⟩ := sent
  cases ok with
  | true => exact request.goto (.wait op)
  | false => exact (request.trans (given d')).goto .poll

theorem fetch_sends (env : Environment) (property : Property) (d : Daemon) :
    Sends d (d.fetch env property) :=
  await_sends _ .refl (request_sends env _ _ _ (Nat.zero_le _) d)

theorem fromModule_sends (env : Environment) {len : Nat} (fits : len ≤ bufferSize) (d : Daemon) :
    Sends d (d.fromModule env len) := by
  unfold fromModule
  dsimp only
  split
  · split
    · exact await_sends _ (fun d => note_sends d (.regfail _) trivial) (request_sends env _ _ _ (Nat.zero_le _) d)
    · split
      · exact await_sends _ .refl (request_sends env _ _ _ (Nat.zero_le _) d)
      · split
        · exact (Sends.refl d).goto .down
        · exact (Sends.refl d).goto .poll
  · refine await_sends _ .refl ((storeRecv_sends d _).trans (request_sends env _ _ _ ?_ _))
    rwa [Memory.length_read]

theorem finish_sends (env : Environment) (op : Operation) (d : Daemon) : Sends d (d.finish env op) := by
  have collected := collect_sends d
  unfold finish
  split
  · cases op with
    | register appl => exact (note_sends d (.regfail appl) trivial).goto .poll
    | fetch property => exact (Sends.refl d).goto .poll
    | release appl => exact (Sends.refl d).goto .poll
    | put => exact (Sends.refl d).goto .poll
  · cases op with
    | fetch property =>
      cases property with
      | manufacturer => exact (collected _).trans (fetch_sends env .version _)
      | version => exact (collected _).trans (fetch_sends env .serial _)
      | serial => exact (collected _).trans (fetch_sends env .profile _)
      | profile => exact ((collected _).trans (note_sends _ (.setData _) trivial)).goto .poll
    | register appl =>
      have polled : Sends d (d.remoteWaitforsignal env d.aheader.appId.toUInt16).1 :=
        request_sends env _ _ _ (Nat.zero_le _) d
      have entered (d : Daemon) (remote : UInt16) : Sends d (d.enter appl remote) := ⟨rfl, (Sends.refl d).log⟩
      exact ((polled.trans (entered _ _)).trans (note_sends _ (.registered ..) trivial)).goto .poll
    | release appl => exact (note_sends d (.released appl) trivial).goto .poll
    | put => exact (Sends.refl d).goto .poll

theorem step_sends (env : Environment) (d : Daemon) (r : Result) : Sends d (d.step env r) := by
  have handled := (receive_sends d r).trans (handleServerpacket_sends env _)
  cases control : d.control with
  | down =>
    simp only [step, control]
    exact .refl d
  | poll =>
    simp only [step, control]
    cases r with
    | failed => exact (Sends.refl d).goto .read
    | closed => exact handled.goto .read
    | data => exact handled.goto .read
  | read =>
    simp only [step, control]
    cases r with
    | failed => exact (Sends.refl d).goto .poll
    | closed => exact (Sends.refl d).goto .poll
    | data bytes nonempty fits => exact (storeRecv_sends d _).trans (fromModule_sends env fits _)
  | wait op =>
    simp only [step, control]
    cases r with
    | failed => exact (receive_sends d _).trans (finish_sends env op _)
    | closed => exact (receive_sends d _).trans (finish_sends env op _)
    | data bytes nonempty fits =>
      dsimp only
      split
      · exact handled
      · exact (receive_sends d _).trans (finish_sends env op _)

theorem run_sends (env : Environment) (d : Daemon) (results : List Result) :
    Sends d (d.run env results) := by
  induction results generalizing d with
  | nil => exact .refl d
  | cons r later ih => exact (step_sends env d r).trans (ih _)

/-- The HELO request carries no session id, as a daemon has none yet. -/
theorem sendHelo_sends (env : Environment) {d : Daemon} (fresh : d.sessionId = 0) :
    Sends d (d.sendHelo env).1 := by
  simp only [sendHelo]
  split
  · refine ⟨rfl, [_], rfl, fun e member => List.mem_singleton.mp member ▸ ?_⟩
    have length := (Query.helo.header_lengths d).2.2.2.2
    have frame : (Query.helo.header d).messageLen.toNat = sizeofRequestHeader + 76 := length
    refine ⟨fresh.symm, ?_, (Memory.length_read _ _ _).symm⟩
    show (Query.helo.header d).bytes <+: _
    have sent := Query.helo_frame d
    rw [Query.frame] at sent
    exact ⟨_, (frame ▸ sent).symm⟩
  · exact ⟨rfl, (Sends.refl d).log⟩

theorem initSocket_failed (env : Environment) {d : Daemon} (fresh : d.sessionId = 0) (r : Result)
    (failed : (d.initSocket env r).2 = false) : Sends d (d.initSocket env r).1 := by
  have sent := sendHelo_sends env fresh
  simp only [initSocket] at failed ⊢
  split
  · next d' bytes nonempty fits helo =>
    have composed : Sends d d' := by rwa [helo] at sent
    rw [helo] at failed
    dsimp only at failed ⊢
    split
    · exact composed.trans (storeRecv_sends _ _)
    · next granted => simp only [if_neg granted, Bool.true_eq_false] at failed
  · next d' ok helo other => rwa [helo] at sent

/-- `main`, which goes on whatever `init_socket` has returned. -/
def main (env : Environment) (r : Result) (results : List Result) (d : Daemon) : Daemon :=
  ((d.initSocket env r).1.remoteGetManufacturer env).run env results

theorem main_sends (env : Environment) {d : Daemon} (fresh : d.sessionId = 0) (r : Result)
    (failed : (d.initSocket env r).2 = false) (results : List Result) : Sends d (d.main env r results) :=
  ((initSocket_failed env fresh r failed).trans (fetch_sends env .manufacturer _)).trans
    (run_sends env _ results)

end Daemon
end CapiProxy.LinuxClient
