import CapiProxy.LinuxClient.Requests
import CapiProxy.Win32Server.StartSession

/-! Requests of the Linux client at the Win32 server. The client counts the body of its C structs,
so a request without members has an empty body; to the C++ compiler of the server the same struct
has one byte, and a shorter body is dropped. -/
namespace CapiProxy.Integration
open Bytes LinuxClient Win32Server

/-- The server accepts what lies in its request buffer, and its pointers lead to this body and to
this data, which follow the header. -/
structure Understood (env : Win32Server.Environment) (m : Memory) (body data : List UInt8) : Prop where
  verified : verifyRequest m env.requestBuffer = true
  rbody : (pointers env m).rbody = env.requestBuffer + sizeofRequestHeader
  holdsBody : Holds m (pointers env m).rbody body
  rdata : (pointers env m).rdata = env.requestBuffer + sizeofRequestHeader + body.length
  holdsData : Holds m (pointers env m).rdata data

theorem header_write_frame (env : Win32Server.Environment) (d : Daemon) (q : Query) (m : Memory) :
    header env (m.write env.requestBuffer (q.frame d)) = q.header d :=
  RequestHeader.parse_of_holds (Holds.left (Holds.write m env.requestBuffer (q.frame d)))

theorem rbodysize_fits_iff (type : MessageType) (isQuery : type = .proxyHelo ∨ type.isCapi = true) :
    ¬ UInt32.ofNat (type.sizeofRequest .gnuC) < .ofInt (rbodysize type.code) ↔
      type = .proxyHelo ∨ type = .capiRegister := by
  cases type with
  | proxyHelo | capiRegister => exact iff_of_true (by decide) (by decide)
  | proxyAuth | proxyKeepalive | proxyShutdown =>
    rcases isQuery with same | capi
    · cases same
    · cases capi
  | _ => exact iff_of_false (by decide) (by decide)

theorem type_isQuery (q : Query) : q.type = .proxyHelo ∨ q.type.isCapi = true := by
  cases q with
  | helo => exact .inl rfl
  | fetch property => cases property <;> exact .inr rfl
  | _ => exact .inr rfl

theorem verifyRequest_frame_iff (env : Win32Server.Environment) (d : Daemon) (q : Query) (m : Memory) :
    verifyRequest (m.write env.requestBuffer (q.frame d)) env.requestBuffer = true ↔
      q.type = .proxyHelo ∨ q.type = .capiRegister := by
  have parsed := header_write_frame env d q m
  rw [Win32Server.header] at parsed
  obtain ⟨type, headerLen, bodyLen, dataLen, messageLen⟩ := q.header_lengths d
  have small : q.type.sizeofRequest .gnuC < 2 ^ 32 :=
    Nat.lt_of_le_of_lt (Query.sizeofRequest_le _) (by decide)
  have bodyWord : (q.header d).bodyLen = .ofNat (q.type.sizeofRequest .gnuC) := by
    rw [← UInt32.toNat_inj, bodyLen, UInt32.toNat_ofNat', Nat.mod_eq_of_lt small]
  rw [verifyRequest_iff, parsed]
  dsimp only
  rw [type, bodyWord, rbodysize_fits_iff _ (type_isQuery q)]
  refine ⟨fun verified => verified.2.1, fun large => ⟨headerLen.ge, large, ?_, ?_⟩⟩
  · rw [messageLen]
    have data := q.data_fits
    have body := Query.sizeofRequest_le q.type
    simp only [sizeofRequestHeader, bufferSize, msgSize] at data ⊢
    cases q with
    | put => rcases large with same | same <;> cases same
    | _ => simp only [Query.data, List.length_nil]; omega
  · rw [← bodyWord, ← UInt32.toNat_inj, UInt32.toNat_add, UInt32.toNat_add, headerLen, bodyLen,
      dataLen, messageLen]
    have data := q.data_fits
    have body := Query.sizeofRequest_le q.type
    simp only [sizeofRequestHeader, bufferSize] at data ⊢
    omega

/-- The pointers into an accepted request lead to what the daemon put there. -/
theorem frame_located (env : Win32Server.Environment) (d : Daemon) (q : Query) (m : Memory)
    (verified : verifyRequest (m.write env.requestBuffer (q.frame d)) env.requestBuffer = true) :
    Understood env (m.write env.requestBuffer (q.frame d)) (q.body d) q.data := by
  have parsed := header_write_frame env d q m
  obtain ⟨-, headerLen, bodyLen, -, -⟩ := q.header_lengths d
  have room := env.requestBuffer_fits
  have size := Query.sizeofRequest_le q.type
  simp only [msgSize] at room
  have rbody : (pointers env (m.write env.requestBuffer (q.frame d))).rbody =
      env.requestBuffer + sizeofRequestHeader := by
    rw [pointers, parsed, advance_of_fits (by rw [headerLen, sizeofRequestHeader]; omega), headerLen]
  have rdata : (pointers env (m.write env.requestBuffer (q.frame d))).rdata =
      env.requestBuffer + sizeofRequestHeader + (q.body d).length := by
    have first : advance env.requestBuffer (q.header d).headerLen =
        env.requestBuffer + sizeofRequestHeader := by rw [← rbody, pointers, parsed]
    rw [pointers, parsed, first,
      advance_of_fits (by rw [bodyLen, sizeofRequestHeader]; omega), bodyLen, q.length_body]
  have rest : Holds (m.write env.requestBuffer (q.frame d))
      (env.requestBuffer + sizeofRequestHeader) (q.body d ++ q.data) := by
    have behind := Holds.right (Holds.write m env.requestBuffer (q.frame d))
    rwa [RequestHeader.length_bytes] at behind
  exact ⟨verified, rbody, by rw [rbody]; exact rest.left, rdata, by rw [rdata]; exact rest.right⟩

/-- What the daemon sends is accepted and found again exactly when its body has members. -/
theorem daemon_requests_understood_iff (env : Win32Server.Environment) (d : Daemon) (q : Query)
    (m : Memory) (env' : LinuxClient.Environment) :
    (env'.send d.log.length = true →
      (q.send env' d).1.log = d.log ++ [.sent (q.header d) (q.frame d)]) ∧
    (Understood env (m.write env.requestBuffer (q.frame d)) (q.body d) q.data ↔
      q.type = .proxyHelo ∨ q.type = .capiRegister) := by
  refine ⟨q.send_sent env' d, ?_⟩
  rw [← verifyRequest_frame_iff env d q m]
  exact ⟨Understood.verified, frame_located env d q m⟩

/-- A daemon that has registered application 1 has it released: the server drops the request. -/
theorem release_not_understood :
    ¬ Understood .sample
      (zeros.write 0 ((Query.release 1).frame { Daemon.sample with sessionId := 0x10000 }))
      ((Query.release 1).body { Daemon.sample with sessionId := 0x10000 }) (Query.release 1).data := by
  intro understood
  have small := (verifyRequest_frame_iff .sample { Daemon.sample with sessionId := 0x10000 }
    (.release 1) zeros).mp understood.verified
  exact absurd small (by decide)

end CapiProxy.Integration
