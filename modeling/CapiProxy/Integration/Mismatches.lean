import CapiProxy.Integration.Requests
import CapiProxy.Integration.Serving
import CapiProxy.LinuxClient.Wire
import CapiProxy.LinuxServer.Strangers

/-! The pairs of programs that do not come together. Only the Win32 client gets through to a server,
and only to the Win32 one: the Linux server asks every client to authenticate, for which the daemon has
no request and the Win32 client no method, and the Win32 server drops the first request of the daemon
for its empty body. -/
namespace CapiProxy.Integration
open Bytes Streams Win32Client

section linux
variable {server : LinuxServer.Environment} {n : Nat} {s : LinuxServer.Session} {m : Memory}

/-- The Linux server answers every HELO with an error and offers no method. -/
theorem linux_helo (answered : (LinuxServer.execProxyHelo server n s m).answer = some a) :
    Composed .gnuC .proxyHelo a ∧ a.head.proxyError = perrorAuthRequired ∧ a.rest.word32 76 = authNoAuth := by
  cases answered
  refine ⟨?_, rfl, ?_⟩
  · exact composed_plain rfl rfl rfl rfl rfl
  · exact (Holds.write _ 64 (words [osTypeLinux, LinuxServer.localVersion.major,
      LinuxServer.localVersion.minor, authNoAuth])).words (i := 3) (by decide)

theorem linux_auth (none : m.word32 (LinuxServer.requestBody server m) = authNoAuth)
    (answered : (LinuxServer.execProxyAuth server n s m).answer = some a) :
    Composed .gnuC .proxyAuth a ∧ a.head.proxyError = perrorAuthTypeNotSupported := by
  cases answered
  refine ⟨?_, ?_⟩
  · exact composed_plain rfl rfl rfl rfl rfl
  · show LinuxServer.checkAuth server _ = _
    rw [none]
    rfl

end linux

section daemon
open LinuxClient

def resultOf (bytes : List UInt8) : Result :=
  if received : bytes ≠ [] ∧ bytes.length ≤ bufferSize then .data bytes received.1 received.2 else .closed

theorem resultOf_eq (same : resultOf frame = .data bytes nonempty fits) : bytes = frame := by
  unfold resultOf at same
  split at same
  · cases same
    rfl
  · cases same

/-- What a receive call brings of the answer of the Linux server to HELO, if anything. -/
def HeloFrom (server : LinuxServer.Environment) (r : Result) : Prop :=
  ∀ bytes nonempty fits, r = .data bytes nonempty fits → ∃ n s m a,
    (LinuxServer.execProxyHelo server n s m).answer = some a ∧ bytes = a.frame

theorem initSocket_linux (env : LinuxClient.Environment) (d : Daemon) (helo : HeloFrom server r) :
    (d.initSocket env r).2 = false := by
  simp only [Daemon.initSocket]
  split
  · next d' bytes nonempty fits sent =>
    obtain ⟨n, s, m, a, answered, rfl⟩ := helo _ nonempty fits rfl
    obtain ⟨composed, required, -⟩ := linux_helo answered
    have error : (d'.storeRecv (d'.recvbuffer.write 0 a.frame)).aheader.proxyError ≠ perrorNone := by
      rw [Daemon.aheader, Daemon.storeRecv, composed.parse_write, required]
      decide
    rw [if_pos error]
  · rfl

/-- What a daemon without a session id sends are frames without a session id. -/
theorem wire_requests (log : List Event) (carries : ∀ e ∈ log, e.Carries 0)
    (fits : ∀ e ∈ log, e.Fits LinuxServer.packetSize) :
    ∃ frames : List LinuxServer.RequestFrame, LinuxServer.requests frames = wire log ∧
      ∀ f ∈ frames, f.request.sessionId = 0 := by
  induction log with
  | nil => exact ⟨[], rfl, nofun⟩
  | cons e log ih =>
    obtain ⟨frames, same, foreign⟩ := ih (fun e' member => carries e' (List.mem_cons_of_mem e member))
      fun e' member => fits e' (List.mem_cons_of_mem e member)
    cases e with
    | sent head frame =>
      obtain ⟨session, ⟨rest, rfl⟩, announced⟩ := carries _ List.mem_cons_self
      have length : head.messageLen.toNat = sizeofRequestHeader + rest.length := by
        rw [announced, List.length_append, RequestHeader.length_bytes, sizeofRequestHeader]
      let f : LinuxServer.RequestFrame := ⟨head.frame rest length, fits _ List.mem_cons_self⟩
      refine ⟨f :: frames, ?_, List.forall_mem_cons.mpr ⟨?_, foreign⟩⟩
      · rw [LinuxServer.requests_cons, same]
        rfl
      · rw [Frame.request, RequestHeader.parse_frame head rest length]
        exact session
    | _ => exact ⟨frames, same, foreign⟩

def newDaemon : Daemon :=
  ⟨.poll, zeros, zeros, 1, 0, Daemon.cleared .sample, Daemon.cleared .sample, ⟨[], [], [], []⟩, []⟩

def refusal : AnswerBuffer :=
  ((LinuxServer.execProxyHelo .loopback 0 LinuxServer.Connection.sample.session
    (zeros.write 0 (Query.helo.frame newDaemon))).answer).getD (.at zeros 0)

/-- The HELO request arrives in two segments, and the request behind it only in part. -/
def twoRequests : Source UInt8 :=
  let bytes := wire (newDaemon.main .sample (resultOf refusal.frame) []).log
  .ofSegments [bytes.take 40, (bytes.drop 40).take 90] (by decide +kernel)

def heloOf (d : Daemon) : RequestBuffer := ⟨Query.helo.header d, zeros.write 0 (Query.helo.body d)⟩

theorem posted_heloOf (d : Daemon) : ∃ name, name.length = 64 ∧ (heloOf d).frame = Query.helo.frame d ∧
    Posted .proxyHelo (heloOf d) (name ++ words [osTypeLinux, clientVersion.major, clientVersion.minor]) := by
  let buffer := (d.sendbuffer.write sizeofRequestHeader clientName).write (sizeofRequestHeader + 64)
    (words [osTypeLinux, clientVersion.major, clientVersion.minor])
  have version : buffer.read (sizeofRequestHeader + 64) 12 =
      words [osTypeLinux, clientVersion.major, clientVersion.minor] := Memory.read_write _ _ _
  have body : Query.helo.body d = buffer.read sizeofRequestHeader 64 ++
      words [osTypeLinux, clientVersion.major, clientVersion.minor] := by
    rw [← version, ← Memory.read_add]
    rfl
  have length : (buffer.read sizeofRequestHeader 64 ++
      words [osTypeLinux, clientVersion.major, clientVersion.minor]).length = 76 := by
    rw [List.length_append, Memory.length_read, length_words]
    rfl
  have posted : Posted .proxyHelo (heloOf d) (buffer.read sizeofRequestHeader 64 ++
      words [osTypeLinux, clientVersion.major, clientVersion.minor]) := by
    refine ⟨rfl, rfl, ?_, ?_, rfl, ?_, ?_, ?_⟩
    · rw [length]; rfl
    · rw [length]; rfl
    · rw [length]; exact Nat.le_refl 76
    · rw [length]; decide
    · rw [← body]; exact Holds.write zeros 0 _
  refine ⟨_, Memory.length_read _ _ _, ?_, posted⟩
  rw [posted.frame_eq, ← body]
  exact congrArg _ (List.append_nil _).symm

/-- The daemon and its session on the Win32 server, with the requests and the answers between them. -/
structure Pair where
  daemon : Daemon
  session : Win32Server.Connection
  requests : List (List UInt8)
  answers : List (List UInt8)

/-- The session serves the next request, or the daemon makes its system call; `r` is the result of a read
from the module. -/
inductive Turn where
  | serve (stack : Memory)
  | call (r : Result)

def sentSince (before after : Daemon) : List (List UInt8) :=
  (after.log.drop before.log.length).filterMap fun
    | .sent _ frame => some frame
    | _ => none

namespace Pair

/-- The daemon goes on with a result, and what it sends is on its way. -/
def resume (env : LinuxClient.Environment) (p : Pair) (answers : List (List UInt8)) (r : Result) : Pair :=
  let daemon := p.daemon.step env r
  { p with daemon, answers, requests := p.requests ++ sentSince p.daemon daemon }

/-- A receive call that may block waits for an answer. -/
def step (env : LinuxClient.Environment) (env' : Win32Server.Environment) (p : Pair) : Turn → Pair
  | .serve stack =>
    match p.requests with
    | [] => p
    | frame :: later =>
      let (answer, session) := serve env' p.session stack frame
      { p with session, requests := later, answers := p.answers ++ answer.toList.map (·.frame) }
  | .call r =>
    match p.daemon.control, p.answers with
    | .wait _, [] => p
    | .poll, [] => p.resume env [] .failed
    | .wait _, frame :: later | .poll, frame :: later => p.resume env later (resultOf frame)
    | .read, _ | .down, _ => p.resume env p.answers r

def run (env : LinuxClient.Environment) (env' : Win32Server.Environment) (p : Pair) (turns : List Turn) :
    Pair :=
  turns.foldl (step env env') p

/-- After `init_socket`, when `init_module` has sent its first request; `r` is what the receive call of
`init_socket` has brought. -/
def start (env : LinuxClient.Environment) (d : Daemon) (r : Result) (session : Win32Server.Connection) :
    Pair :=
  let connected := (d.initSocket env r).1
  let daemon := connected.remoteGetManufacturer env
  { daemon, session, requests := sentSince connected daemon, answers := [] }

/-- The daemon waits for an answer that the session does not give. -/
structure Stuck (env : LinuxClient.Environment) (connected : Daemon) (history : List CapiEvent) (p : Pair) :
    Prop where
  daemon : p.daemon = connected.remoteGetManufacturer env
  waits : p.daemon.control = .wait (.fetch .manufacturer)
  requests : p.requests = [(Query.fetch .manufacturer).frame connected] ∨ p.requests = []
  answers : p.answers = []
  history : p.session.state.history = history

/-- The session drops the request for its empty body. -/
theorem serve_manufacturer (env : Win32Server.Environment) (c : Win32Server.Connection) (stack : Memory)
    (d : Daemon) : let served := serve env c stack ((Query.fetch .manufacturer).frame d)
    served.1 = none ∧ served.2.state.history = c.state.history := by
  have refused : ¬ Win32Server.verifyRequest (c.state.receive env ((Query.fetch .manufacturer).frame d)).memory
      env.requestBuffer = true := fun verified =>
    absurd ((verifyRequest_frame_iff env d (.fetch .manufacturer) c.state.memory).mp verified) (by decide)
  have ran : Win32Server.process env c.log.length
      (c.state.receive env ((Query.fetch .manufacturer).frame d)) =
        (none, .idle (c.state.receive env ((Query.fetch .manufacturer).frame d))) := by
    simp only [Win32Server.process, Win32Server.selected, if_neg refused]
  obtain ⟨answer, state⟩ := serve_answered ran rfl stack
  exact ⟨answer, by rw [state]; rfl⟩

theorem Stuck.step (stuck : Stuck env connected past p) (env' : Win32Server.Environment) (turn : Turn) :
    Stuck env connected past (p.step env env' turn) := by
  cases turn with
  | call r =>
    simp only [Pair.step, stuck.waits, stuck.answers]
    exact stuck
  | serve stack =>
    rcases stuck.requests with one | none
    · obtain ⟨unanswered, unasked⟩ := serve_manufacturer env' p.session stack connected
      simp only [Pair.step, one]
      refine ⟨stuck.daemon, stuck.waits, .inr rfl, ?_, unasked.trans stuck.history⟩
      rw [unanswered, stuck.answers]
      rfl
    · simp only [Pair.step, none]
      exact stuck

end Pair

theorem initSocket_win32 (env : LinuxClient.Environment) (env' : Win32Server.Environment) (d : Daemon)
    (c : Win32Server.Connection) (stack : Memory) (sends : env.send d.log.length = true) :
    ∃ a, (serve env' c stack (Query.helo.frame d)).1 = some a ∧
      (serve env' c stack (Query.helo.frame d)).2.state.history = c.state.history ∧
      (d.initSocket env (resultOf a.frame)).2 = true ∧
      (d.initSocket env (resultOf a.frame)).1.sessionId = c.state.client.session := by
  obtain ⟨name, length, frame, posted⟩ := posted_heloOf d
  obtain ⟨a, answer, history, -, composed, accepted, id⟩ := helo_served c stack env' posted length (by decide)
  rw [frame] at answer history
  have bytes : a.frame.length = sizeofAnswerHeader + 84 := by
    rw [composed.frame_eq, List.length_append, AnswerHeader.length_bytes, Memory.length_read,
      composed.empty nofun]
    rfl
  have received : a.frame ≠ [] ∧ a.frame.length ≤ bufferSize :=
    ⟨List.ne_nil_of_length_pos (by rw [bytes]; decide), by rw [bytes]; decide⟩
  have granted (d' : Daemon) : (d'.storeRecv (d'.recvbuffer.write 0 a.frame)).aheader = a.head :=
    composed.parse_write _ 0
  refine ⟨a, answer, history, ?_⟩
  simp only [Daemon.initSocket, Daemon.sendHelo, if_pos sends, resultOf, dif_pos received, granted, accepted,
    ne_eq, not_true, if_false, id, and_self]

theorem Pair.start_stuck (env : LinuxClient.Environment) (sends : ∀ n, env.send n = true) (d : Daemon)
    (r : Result) (session : Win32Server.Connection) :
    Stuck env (d.initSocket env r).1 session.state.history (Pair.start env d r session) := by
  let connected := (d.initSocket env r).1
  have log := (Query.fetch .manufacturer).send_sent env connected (sends _)
  have sent : connected.remoteGetManufacturer env =
      (((Query.fetch .manufacturer).send env connected).1).goto (.wait (.fetch .manufacturer)) := by
    simp only [Daemon.remoteGetManufacturer, Daemon.fetch, Query.send, Daemon.request, if_pos (sends _)]
    rfl
  refine ⟨rfl, congrArg Daemon.control sent, .inl ?_, rfl, rfl⟩
  simp only [Pair.start, sentSince]
  rw [sent, Daemon.goto, log, List.drop_left]
  rfl

/-- A daemon at the Win32 server gets a session and then waits forever: the session drops the first request
of `init_module`, and neither side sends anything any more. -/
theorem daemon_win32_stuck (env : LinuxClient.Environment) (sends : ∀ n, env.send n = true)
    (env' : Win32Server.Environment) (d : Daemon) (c : Win32Server.Connection) (stack : Memory)
    (turns : List Turn) :
    ∃ a, (serve env' c stack (Query.helo.frame d)).1 = some a ∧
      let connected := d.initSocket env (resultOf a.frame)
      let p := (Pair.start env d (resultOf a.frame) (serve env' c stack (Query.helo.frame d)).2).run
        env env' turns
      (connected.2 = true ∧ connected.1.sessionId = c.state.client.session) ∧
        p.daemon.control = .wait (.fetch .manufacturer) ∧ p.answers = [] ∧
        p.session.state.history = c.state.history := by
  obtain ⟨a, answer, history, success, id⟩ := initSocket_win32 env env' d c stack (sends _)
  have start := Pair.start_stuck env sends d (resultOf a.frame) (serve env' c stack (Query.helo.frame d)).2
  rw [history] at start
  have stuck := List.foldlRecOn turns (Pair.step env env') start fun p stuck turn _ => stuck.step env' turn
  exact ⟨a, answer, ⟨success, id⟩, stuck.waits, stuck.answers, stuck.history⟩

def sixTurns : List Turn :=
  [.serve zeros, .call .failed, .serve zeros, .call .closed, .serve zeros, .call .failed]

theorem sixTurns_stuck :
    ∃ a, (serve .sample .sample zeros (Query.helo.frame newDaemon)).1 = some a ∧
      let connected := newDaemon.initSocket .sample (resultOf a.frame)
      let p := (Pair.start .sample newDaemon (resultOf a.frame)
        (serve .sample .sample zeros (Query.helo.frame newDaemon)).2).run .sample .sample sixTurns
      (connected.2 = true ∧ connected.1.sessionId = 0x10000) ∧
        p.daemon.control = .wait (.fetch .manufacturer) ∧ p.answers = [] ∧ p.session.state.history = [] :=
  daemon_win32_stuck .sample (fun _ => rfl) .sample newDaemon .sample zeros sixTurns

end daemon

section win32
variable {server : LinuxServer.Environment} {meets : ConnectEnvironment} {g : Globals} {block block' : Memory}
  {a : AnswerBuffer}

/-- The AUTH request of the client, when it has received this answer to HELO. -/
def authAfter (meets : ConnectEnvironment) (g : Globals) (block block' : Memory) (a : AnswerBuffer) :
    RequestBuffer :=
  authRequest block' (g.msgId + 1)
    (authTypes (receiveOver block (heloRequest block g.msgId meets.myname) a.frame)) meets.auth.credentials

/-- A client that has memory for its requests connects to the Linux server, and what it receives are the
answers of the server to its two requests. -/
structure Visits (server : LinuxServer.Environment) (meets : ConnectEnvironment) (g : Globals)
    (block block' : Memory) (a : AnswerBuffer) : Prop where
  socket : meets.socket = true
  connect : meets.connect = true
  malloc : meets.malloc = some block
  send : meets.send = true
  recv : meets.recv = some a.frame
  helo : ∃ n s, ∃ m : Memory, (LinuxServer.execProxyHelo server n s
    (m.write server.inPacket (heloRequest block g.msgId meets.myname).frame)).answer = some a
  malloc' : meets.auth.malloc = some block'
  auth : ∀ bytes, meets.auth.recv = some bytes → ∃ n s b, ∃ m : Memory, (LinuxServer.execProxyAuth server n s
    (m.write server.inPacket (authAfter meets g block block' a).frame)).answer = some b ∧ bytes = b.frame

theorem Visits.types (visits : Visits server meets g block block' a) :
    authTypes (receiveOver block (heloRequest block g.msgId meets.myname) a.frame) = authNoAuth := by
  obtain ⟨n, s, m, answered⟩ := visits.helo
  obtain ⟨composed, -, types⟩ := linux_helo answered
  have parsed : AnswerHeader.parse (receiveOver block (heloRequest block g.msgId meets.myname) a.frame) 0 =
      a.head := composed.parse_write _ 0
  have body : advance 0 a.head.headerLen = sizeofAnswerHeader := by rw [composed.headerLen]; rfl
  rw [authTypes, parsed, body, ← types]
  refine Memory.word32_congr fun i inside => ?_
  have byte := composed.rest_write ((block.write 0 (heloRequest block g.msgId meets.myname).head.bytes).write
    sizeofRequestHeader ((heloRequest block g.msgId meets.myname).rest.read 0
      (msgBuffer - sizeofRequestHeader))) 0 (i := 76 + i)
    (Nat.lt_of_lt_of_le (show 76 + i < 84 by omega) (Nat.le_add_right _ _))
  rwa [Nat.zero_add, ← Nat.add_assoc] at byte

theorem linux_authType (server : LinuxServer.Environment) (m block : Memory) (msgId types : UInt32)
    (credentials : Option (List UInt8 × List UInt8)) :
    let stored := m.write server.inPacket (authRequest block msgId types credentials).frame
    stored.word32 (LinuxServer.requestBody server stored) = (authMethod types credentials).1 := by
  intro stored
  have room := server.inPacket_fits
  simp only [LinuxServer.packetSize] at room
  obtain ⟨data, frame⟩ := authRequest_frame block msgId types credentials
  have holds : Holds stored server.inPacket ((authHeader block msgId
      (credentialBytes (authMethod types credentials).2).length).bytes ++
        (bytes32 (authMethod types credentials).1 ++ data)) := by
    simp only [stored, frame]
    exact Holds.write _ _ _
  have type := holds.right.left.word32
  have parsed : LinuxServer.request server stored = _ := RequestHeader.parse_of_holds holds.left
  have length : (authHeader block msgId
    (credentialBytes (authMethod types credentials).2).length).headerLen.toNat = 36 := rfl
  rw [RequestHeader.length_bytes] at type
  rw [LinuxServer.requestBody, parsed, advance_of_fits (by rw [length]; omega), length, type]

/-- The AUTH request names no method, and the answer to it closes the socket. -/
theorem Visits.refused (visits : Visits server meets g block block' a) :
    (doAuth meets.auth (g.msgId + 1)
      (authTypes (receiveOver block (heloRequest block g.msgId meets.myname) a.frame))).2 = false := by
  rw [← Bool.not_eq_true, doAuth_open_iff]
  rintro (memory | ⟨msg, len, found, accepted⟩)
  · exact absurd (visits.malloc'.symm.trans memory) (Option.some_ne_none _)
  · obtain ⟨-, block'', bytes, memory, received, rfl, rfl⟩ := authAnswer_some found
    cases visits.malloc'.symm.trans memory
    obtain ⟨n, s, b, m, answered, rfl⟩ := visits.auth bytes received
    have unnamed : (m.write server.inPacket (authAfter meets g block block' a).frame).word32
        (LinuxServer.requestBody server (m.write server.inPacket (authAfter meets g block block' a).frame)) =
        authNoAuth := by
      rw [authAfter, linux_authType, visits.types]
      rfl
    obtain ⟨composed, error⟩ := linux_auth unnamed answered
    have small := accepted.proxyError
    rw [receiveOver, composed.parse_write, error] at small
    exact absurd small (by decide)

theorem requestFrame (request : RequestBuffer) (whole : sizeofRequestHeader ≤ request.head.messageLen.toNat)
    (fits : request.head.messageLen.toNat ≤ LinuxServer.packetSize) :
    ∃ f : LinuxServer.RequestFrame, f.bytes = request.frame ∧ f.request = request.head := by
  obtain ⟨more, length⟩ := Nat.exists_eq_add_of_le whole
  have rest : (request.rest.read 0 more).length = more := Memory.length_read _ _ _
  have held : Holds request.rest 0 (request.rest.read 0 more) := by rw [Holds, rest]
  have bytes := request.frame_eq held (by rw [rest, length])
  have announced : request.head.messageLen.toNat = sizeofRequestHeader + (request.rest.read 0 more).length := by
    rw [rest, length]
  refine ⟨⟨request.head.frame _ announced, ?_⟩, bytes.symm, RequestHeader.parse_frame _ _ announced _ _⟩
  show (request.head.bytes ++ request.rest.read 0 more).length ≤ _
  rw [List.length_append, RequestHeader.length_bytes, rest, ← sizeofRequestHeader, ← length]
  exact fits

/-- A Win32 client at the Linux server: `initConnection` reports a success, but the server has asked for an
authentication for which it offers no method, and has refused the request without one, so the socket is
closed; and the server, however the two requests are cut into segments, never asks its CAPI. -/
theorem win32_linux_closed (visits : Visits server meets g block block' a) (c : LinuxServer.Connection)
    (m : Memory) (source : Source UInt8) (arrives : source.content <+:
      (heloRequest block g.msgId meets.myname).frame ++ (authAfter meets g block block' a).frame) :
    (initConnection meets g).1 = 0 ∧ (initConnection meets g).2.status = 1 ∧
      (initConnection meets g).2.socke = false ∧
      (LinuxServer.connection server c m source).state.session.history = c.session.history := by
  obtain ⟨n, s, m', answered⟩ := visits.helo
  obtain ⟨composed, required, -⟩ := linux_helo answered
  have found : heloAnswer meets g = some (receiveOver block (heloRequest block g.msgId meets.myname) a.frame,
      .ofNat a.frame.length) := by
    simp only [heloAnswer, visits.socket, visits.connect, visits.send, visits.malloc, visits.recv, and_self,
      if_true, Option.bind_some, Option.map_some]
  have parsed : AnswerHeader.parse (receiveOver block (heloRequest block g.msgId meets.myname) a.frame) 0 =
      a.head := composed.parse_write _ 0
  have granted : a.head.proxyError ≤ perrorAuthRequired := by rw [required]; decide
  have settled := initConnection_accepted found (composed.whole granted block _)
  have refused := visits.refused
  rw [settled]
  refine ⟨rfl, ?_, ?_, ?_⟩
  · simp only [Globals.established, parsed, required, true_or, if_true]
  · rw [← Bool.not_eq_true, established_open_iff _ _ _ rfl, parsed]
    exact fun stays => Bool.false_ne_true (refused.symm.trans (stays required))
  · have length : (heloRequest block g.msgId meets.myname).head.messageLen.toNat = 112 := rfl
    have length' : (authAfter meets g block block' a).head.messageLen.toNat = 112 := rfl
    obtain ⟨f, helo, head⟩ := requestFrame (heloRequest block g.msgId meets.myname)
      (by rw [length]; decide) (by rw [length]; decide)
    obtain ⟨f', auth, head'⟩ := requestFrame (authAfter meets g block block' a)
      (by rw [length']; decide) (by rw [length']; decide)
    refine LinuxServer.foreign_unserved server c m [f, f'] ?_ source ?_
    · refine List.forall_mem_cons.mpr ⟨?_, List.forall_mem_singleton.mpr ?_⟩
      · rw [head]
        rintro type ⟨⟩ ⟨⟩
      · rw [head']
        rintro type ⟨⟩ ⟨⟩
    · show source.content <+: f.bytes ++ (f'.bytes ++ [])
      rwa [helo, auth, List.append_nil]

def linuxAnswer (handler : LinuxServer.Handler) (request : RequestBuffer) : AnswerBuffer :=
  ((handler .loopback 0 LinuxServer.Connection.sample.session (zeros.write 0 request.frame)).answer).getD
    (.at zeros 0)

def strangerHelo : AnswerBuffer := linuxAnswer LinuxServer.execProxyHelo (heloRequest zeros 0 zeros)

def stranger : ConnectEnvironment where
  socket := true
  connect := true
  malloc := some zeros
  myname := zeros
  send := true
  recv := some strangerHelo.frame
  auth :=
    { malloc := some zeros
      credentials := none
      send := true
      recv := some (linuxAnswer LinuxServer.execProxyAuth (authRequest zeros 1 authNoAuth none)).frame }

def strangerRequests : Source UInt8 :=
  .ofSegments [(heloRequest zeros 0 zeros).frame ++ (authRequest zeros 1 authNoAuth none).frame]
    (by decide +kernel)

theorem stranger_closed :
    (initConnection stranger .initial).1 = 0 ∧ (initConnection stranger .initial).2.status = 1 ∧
      (initConnection stranger .initial).2.socke = false ∧
      (LinuxServer.connection .loopback .sample zeros strangerRequests).state.session.history = [] := by
  have types : authTypes (receiveOver zeros (heloRequest zeros 0 zeros) strangerHelo.frame) = authNoAuth := by
    decide +kernel
  have auth : authAfter stranger .initial zeros zeros strangerHelo = authRequest zeros 1 authNoAuth none := by
    show authRequest zeros (0 + 1) (authTypes (receiveOver zeros (heloRequest zeros 0 zeros)
      strangerHelo.frame)) none = _
    rw [types]
    rfl
  have visits : Visits .loopback stranger .initial zeros zeros strangerHelo := by
    refine ⟨rfl, rfl, rfl, rfl, rfl, ⟨0, _, zeros, rfl⟩, rfl, fun bytes same => ?_⟩
    rw [auth]
    exact ⟨0, _, _, zeros, rfl, (Option.some.inj same).symm⟩
  refine win32_linux_closed visits .sample zeros strangerRequests ?_
  rw [auth, strangerRequests, Source.ofSegments, Source.content, List.flatten_singleton]
  exact List.prefix_refl _

end win32

end CapiProxy.Integration
