import CapiProxy.LinuxClient.Daemon

/-! The requests of the daemon. All but the HELO request of `init_socket` are composed alike; the
length of a body is that of its C struct, so most of them have none. -/
namespace CapiProxy.LinuxClient
open Bytes

/-- The terminated string `init_socket` copies into the HELO request. -/
def clientName : List UInt8 := "Freddy".toUTF8.toList ++ [0]

def clientVersion : Version := ⟨1, 1⟩

namespace Daemon

/-- The request of `init_socket`. Behind the name the send buffer keeps what it held. -/
def sendHelo (env : Environment) (d : Daemon) : Daemon × Bool :=
  let head := { d.header .proxyHelo 0 0 with controllerId := 0, sessionId := 0 }
  let named := d.compose head clientName
  let composed := named.storeSend (named.sendbuffer.write (sizeofRequestHeader + 64)
    (words [osTypeLinux, clientVersion.major, clientVersion.minor]))
  if env.send d.log.length then
    (composed.note (.sent head (composed.sendbuffer.read 0 head.messageLen.toNat)), true)
  else (composed, false)

/-- `init_socket` on a connected socket: the session id comes from the answer, if there is no
error in it. -/
def initSocket (env : Environment) (r : Result) (d : Daemon) : Daemon × Bool :=
  match d.sendHelo env, r with
  | (d, true), .data bytes .. =>
    let d := d.storeRecv (d.recvbuffer.write 0 bytes)
    if d.aheader.proxyError ≠ perrorNone then (d, false)
    else ({ d with sessionId := d.aheader.sessionId }, true)
  | (d, _), _ => (d, false)

end Daemon

/-- The requests, with what each of them carries: the parameters of `remote_register_appl`, the
application it is for, or a message of the module. -/
inductive Query where
  | helo
  | register (maxLogicalConnection maxBDataBlocks maxBDataLen : UInt32)
  | release (appl : UInt16)
  | waitforsignal (appl : UInt16)
  | getmessage (appl : UInt16)
  | fetch (property : Property)
  | put (appl : UInt32) (message : List UInt8) (fits : message.length + sizeofRequestHeader ≤ bufferSize)

namespace Query

def type : Query → MessageType
  | .helo => .proxyHelo
  | .register .. => .capiRegister
  | .release _ => .capiRelease
  | .waitforsignal _ => .capiWaitforsignal
  | .getmessage _ => .capiGetmessage
  | .fetch property => property.type
  | .put .. => .capiPutmessage

def appl : Query → UInt32
  | .release appl | .waitforsignal appl | .getmessage appl => appl.toUInt32
  | .put appl .. => appl
  | _ => 0

def body (d : Daemon) : Query → List UInt8
  | .helo => ((d.sendbuffer.write sizeofRequestHeader clientName).write (sizeofRequestHeader + 64)
      (words [osTypeLinux, clientVersion.major, clientVersion.minor])).read sizeofRequestHeader 76
  | .register maxLogicalConnection maxBDataBlocks maxBDataLen =>
    words [1024 * maxLogicalConnection, maxLogicalConnection, maxBDataBlocks, maxBDataLen]
  | _ => []

def data : Query → List UInt8
  | .put _ message _ => message
  | _ => []

def send (env : Environment) (d : Daemon) (q : Query) : Daemon × Bool :=
  match q with
  | .helo => d.sendHelo env
  | q => d.request env q.type q.appl (q.body d) q.data

def header (d : Daemon) (q : Query) : RequestHeader :=
  match q with
  | .helo => { d.header .proxyHelo 0 0 with controllerId := 0, sessionId := 0 }
  | q => d.header q.type q.appl q.data.length

def frame (d : Daemon) (q : Query) : List UInt8 := (q.header d).bytes ++ (q.body d ++ q.data)

end Query

/-- The daemon sends these requests and no others. -/
theorem requests_send (env : Environment) (d : Daemon) (appl : UInt16) (property : Property) :
    d.remoteWaitforsignal env appl = (Query.waitforsignal appl).send env d ∧
    d.remoteGetMessage env appl = (Query.getmessage appl).send env d ∧
    d.fetch env property = Daemon.await (.fetch property) id ((Query.fetch property).send env d) ∧
    d.localRegisterAppl env appl = Daemon.await (.register appl) (Daemon.note · (.regfail appl))
      ((Query.register (env.l3c d.recvbuffer) (env.dbc d.recvbuffer) (env.dbl d.recvbuffer)).send env d) ∧
    d.localReleaseAppl env appl = Daemon.await (.release appl) id ((Query.release appl).send env d) :=
  ⟨rfl, rfl, rfl, rfl, rfl⟩

namespace Query

theorem length_body (d : Daemon) (q : Query) : (q.body d).length = q.type.sizeofRequest .gnuC := by
  cases q with
  | helo => exact Memory.length_read _ _ _
  | register => exact length_words _
  | fetch property => cases property <;> rfl
  | _ => rfl

theorem data_fits (q : Query) : q.data.length + sizeofRequestHeader ≤ bufferSize := by
  cases q with
  | put appl message fits => exact fits
  | _ => exact Nat.le_of_ble_eq_true rfl

theorem sizeofRequest_le (type : MessageType) : type.sizeofRequest .gnuC ≤ 76 := by
  cases type <;> decide

theorem header_lengths (d : Daemon) (q : Query) :
    (q.header d).messageType = q.type.code ∧
    (q.header d).headerLen.toNat = sizeofRequestHeader ∧
    (q.header d).bodyLen.toNat = q.type.sizeofRequest .gnuC ∧
    (q.header d).dataLen.toNat = q.data.length ∧
    (q.header d).messageLen.toNat = sizeofRequestHeader + q.type.sizeofRequest .gnuC + q.data.length := by
  have data := q.data_fits
  have body := sizeofRequest_le q.type
  simp only [sizeofRequestHeader, bufferSize] at data
  have small (n : Nat) (bound : n ≤ 10076) : (UInt32.ofNat n).toNat = n := by
    rw [UInt32.toNat_ofNat', Nat.mod_eq_of_lt (by omega)]
  have lengths : (d.header q.type q.appl q.data.length).messageType = q.type.code ∧
      (d.header q.type q.appl q.data.length).headerLen.toNat = sizeofRequestHeader ∧
      (d.header q.type q.appl q.data.length).bodyLen.toNat = q.type.sizeofRequest .gnuC ∧
      (d.header q.type q.appl q.data.length).dataLen.toNat = q.data.length ∧
      (d.header q.type q.appl q.data.length).messageLen.toNat =
        sizeofRequestHeader + q.type.sizeofRequest .gnuC + q.data.length :=
    ⟨rfl, rfl, small _ (by omega), small _ (by omega),
      small _ (by simp only [sizeofRequestHeader]; omega)⟩
  cases q with
  | helo => exact lengths
  | _ => exact lengths

theorem length_frame (d : Daemon) (q : Query) :
    (q.frame d).length = (q.header d).messageLen.toNat := by
  rw [(q.header_lengths d).2.2.2.2, frame, List.length_append, List.length_append,
    RequestHeader.length_bytes, q.length_body, sizeofRequestHeader, Nat.add_assoc]

/-- The HELO request lies in the send buffer: what was written behind the header did not touch it,
and the body is what lies there now. -/
theorem helo_frame (d : Daemon) :
    (((d.sendbuffer.write 0 (Query.helo.header d).bytes).write sizeofRequestHeader clientName).write
      (sizeofRequestHeader + 64)
      (words [osTypeLinux, clientVersion.major, clientVersion.minor])).read 0 (sizeofRequestHeader + 76) =
    Query.helo.frame d := by
  have length : (Query.helo.header d).bytes.length = sizeofRequestHeader := RequestHeader.length_bytes _
  have header : (((d.sendbuffer.write 0 (Query.helo.header d).bytes).write sizeofRequestHeader
      clientName).write (sizeofRequestHeader + 64) (words [osTypeLinux, clientVersion.major,
        clientVersion.minor])).read 0 sizeofRequestHeader = (Query.helo.header d).bytes := by
    rw [Memory.read_write_outside _ _ _ _ _ (.inl (by decide)),
      Memory.read_write_outside _ _ _ _ _ (.inl (by decide)), ← length, Memory.read_write]
  have body : (((d.sendbuffer.write 0 (Query.helo.header d).bytes).write sizeofRequestHeader
      clientName).write (sizeofRequestHeader + 64) (words [osTypeLinux, clientVersion.major,
        clientVersion.minor])).read sizeofRequestHeader 76 = Query.helo.body d :=
    Memory.read_congr fun i _ => Memory.write_congr (Memory.write_congr
      (Memory.write_outside _ _ _ _ (.inr (by rw [length]; omega))))
  rw [Memory.read_add, header, Nat.zero_add, body]
  exact congrArg _ (List.append_nil _).symm

theorem send_sent (env : Environment) (d : Daemon) (q : Query) (sends : env.send d.log.length = true) :
    (q.send env d).1.log = d.log ++ [.sent (q.header d) (q.frame d)] := by
  have whole : (d.sendbuffer.write 0 (q.header d).bytes).write sizeofRequestHeader
      (q.body d ++ q.data) = d.sendbuffer.write 0 (q.frame d) := by
    conv_rhs => rw [frame, Memory.write_append, RequestHeader.length_bytes]
    rfl
  have sent : ((d.sendbuffer.write 0 (q.header d).bytes).write sizeofRequestHeader
      (q.body d ++ q.data)).read 0 (q.header d).messageLen.toNat = q.frame d := by
    rw [whole, ← q.length_frame d, Memory.read_write]
  cases q with
  | helo =>
    simp only [send, Daemon.sendHelo]
    rw [if_pos sends]
    exact congrArg (fun bytes => d.log ++ [Event.sent (Query.helo.header d) bytes]) (helo_frame d)
  | _ =>
    simp only [send, Daemon.request]
    rw [if_pos sends]
    exact congrArg (fun bytes => d.log ++ [Event.sent _ bytes]) sent

end Query
end CapiProxy.LinuxClient
