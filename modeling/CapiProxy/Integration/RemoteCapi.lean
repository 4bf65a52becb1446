import CapiProxy.Integration.Commands
import CapiProxy.Traces.Refinement

/-! What the Win32 programs are for: an application that calls the client's functions works with the
CAPI of the server's machine. The client and its session, with the frames that go between them, refine
a CAPI that is called directly; only the errors of `CAPI_GET_MESSAGE` get lost on the way. -/
namespace CapiProxy.Integration
open Bytes Traces Win32Client
open Win32Server (capiMaxappl)

/-- One call of an application: the command, its memory, the surroundings of the client, whose exchange
is with the session, what others ask of the CAPI before the request is served, and the stack of the
thread that waits if one is needed. -/
structure Invocation where
  command : Command
  memory : Memory
  environment : Environment
  others : List CapiCall
  stack : Memory

def others (capi : Capi) (history : List CapiEvent) (calls : List CapiCall) : List CapiEvent :=
  calls.foldl (fun history call => history ++ [(call, capi history call)]) history

/-- A CAPI that is called directly, with the applications registered through these calls: one entry for
each registration, and the set of them. -/
structure LocalCapi where
  history : List CapiEvent
  apps : List UInt32
  owned : Set UInt32

def LocalCapi.after (l : LocalCapi) (history : List CapiEvent) (event : CapiEvent) : LocalCapi :=
  ⟨history ++ [event], ownApps l.apps event, event.gained ∪ (l.owned \ event.lost)⟩

/-- The call is made once, after those of the others, and the application finds the reply. Without
memory for a request no call is made. -/
def LocalCapi.Step (capi : Capi) (l : LocalCapi) (i : Invocation) (returned : Returned) (l' : LocalCapi) :
    Prop :=
  let history := others capi l.history i.others
  if i.environment.malloc then ∃ asked, i.command.Asks i.memory asked ∧
    i.command.Gives (capi history asked) returned ∧
    l' = l.after history (asked, capi history asked)
  else (∀ code ∈ returned.code, code = exchangeError) ∧ returned.stored = [] ∧ l' = { l with history }

structure Remote where
  client : Client
  session : Win32Server.Connection

namespace Remote

def arrived (env : Win32Server.Environment) (r : Remote) (calls : List CapiCall) : Win32Server.Connection :=
  { r.session with state.history := others env.capi r.session.state.history calls }

def connected (env : Win32Server.Environment) (r : Remote) (i : Invocation) : Environment :=
  { i.environment with
    sendAndReceive := fun _ frame =>
      (serve env (r.arrived env i.others) i.stack frame).1.map fun answer =>
        (Received.of answer.frame).message }

def invoke (env : Win32Server.Environment) (r : Remote) (i : Invocation) : Returned × Remote :=
  let (returned, client) := i.command.run (r.connected env i) r.client i.memory
  let session :=
    if i.environment.malloc then
      (serve env (r.arrived env i.others) i.stack (i.command.request r.client i.memory).frame).2
    else r.arrived env i.others
  (returned, ⟨client, session⟩)

/-- The CAPI as the application sees it, with the list of the client and the array of the session. -/
def abstract (r : Remote) : LocalCapi :=
  ⟨r.session.state.history, r.client.registeredApps.map (·.applID), ownedApps r.session⟩

def Linked (env : Win32Server.Environment) (r : Remote) : Prop := r.client.sessionId = env.session

/-- The call can pass in both directions, when the others have made their calls. -/
def Passable (env : Win32Server.Environment) (r : Remote) (i : Invocation) : Prop :=
  let history := others env.capi r.session.state.history i.others
  i.command.Passable env r.session.log.length history i.memory ∧
    ∀ asked, i.command.Asks i.memory asked →
      i.command.Receivable i.environment r.client (env.capi history asked)

end Remote

namespace Remote
variable {env : Win32Server.Environment} {r : Remote} {i : Invocation}

/-- A call that is served and told its reply is a step of the local CAPI. -/
theorem explained (malloc : i.environment.malloc = true) (linked : Linked env r) (passable : Passable env r i) :
    LocalCapi.Step env.capi r.abstract i (r.invoke env i).1 (r.invoke env i).2.abstract := by
  obtain ⟨passes, receivable⟩ := passable
  obtain ⟨asked, a, answers, tells⟩ :=
    i.command.served (r.arrived env i.others) i.stack linked i.memory passes
  have replied : Replied (r.connected env i) r.client i.command.type (i.command.request r.client i.memory) a
      (env.capi (r.arrived env i.others).state.history asked) := by
    refine ⟨malloc, ?_, tells.composed, tells.accepted, tells.code⟩
    simp only [connected, answers.answer, Option.map_some]
  have room : i.command.Receivable (r.connected env i) r.client
      (env.capi (r.arrived env i.others).state.history asked) := receivable asked tells.asks
  have concludes := tells.concludes (r.connected env i) r.client room replied
  simp only [LocalCapi.Step, if_pos malloc]
  refine ⟨asked, tells.asks, concludes.gives, ?_⟩
  simp only [abstract, invoke, if_pos malloc, concludes.apps, answers.history, answers.apps]
  rfl

theorem explained_unallocated (malloc : ¬ i.environment.malloc) :
    LocalCapi.Step env.capi r.abstract i (r.invoke env i).1 (r.invoke env i).2.abstract := by
  have unallocated : ¬ (r.connected env i).malloc := malloc
  obtain ⟨code, ran, reported⟩ := Command.run_unallocated (c := r.client) unallocated i.memory i.command
  simp only [LocalCapi.Step, if_neg malloc, invoke, ran]
  exact ⟨reported, trivial, rfl⟩

end Remote

theorem remote_refines (env : Win32Server.Environment) :
    Refines (Remote.invoke env) (LocalCapi.Step env.capi) (Remote.Passable env) (Remote.Linked env)
      Remote.abstract where
  keeps r i linked _ := (i.command.run_sessionId ..).trans linked
  explains r i linked passable := by
    by_cases malloc : i.environment.malloc = true
    · exact Remote.explained malloc linked passable
    · exact Remote.explained_unallocated malloc

/-- A client says HELO to a session, and the connection brings it the answer. -/
structure Opens (env : Win32Server.Environment) (session : Win32Server.Connection) (stack : Memory)
    (meets : ConnectEnvironment) (g : Globals) (block : Memory) : Prop where
  started : session.state.client.session = env.session
  socket : meets.socket = true
  connect : meets.connect = true
  malloc : meets.malloc = some block
  send : meets.send = true
  recv : meets.recv =
    (serve env session stack (heloRequest block g.msgId meets.myname).frame).1.map (·.frame)

/-- Both ends after the HELO request. -/
def Remote.opened (env : Win32Server.Environment) (session : Win32Server.Connection) (stack : Memory)
    (meets : ConnectEnvironment) (g : Globals) (block : Memory) : Remote where
  client := ⟨(initConnection meets g).2.sessionId, (initConnection meets g).2.msgId, []⟩
  session := (serve env session stack (heloRequest block g.msgId meets.myname).frame).2

theorem Opens.connected (opens : Opens env session stack meets g block) :
    (initConnection meets g).1 = 0 ∧ (initConnection meets g).2.socke = true ∧
      Remote.Linked env (Remote.opened env session stack meets g block) ∧
      (Remote.opened env session stack meets g block).abstract =
        ⟨session.state.history, [], ownedApps session⟩ := by
  obtain ⟨a, answer, history, apps, composed, accepted, id⟩ := helo_served session stack env
    (posted_helo block g.msgId meets.myname) (Memory.length_read _ _ _) (by decide)
  have received : meets.recv = some a.frame := by rw [opens.recv, answer, Option.map_some]
  have found : heloAnswer meets g = some (receiveOver block (heloRequest block g.msgId meets.myname) a.frame,
      .ofNat a.frame.length) := by
    simp only [heloAnswer, opens.socket, opens.connect, opens.send, opens.malloc, received, and_self, if_true,
      Option.bind_some, Option.map_some]
  have parsed : AnswerHeader.parse (receiveOver block (heloRequest block g.msgId meets.myname) a.frame) 0 =
      a.head := composed.parse_write _ 0
  have whole := composed.whole (by rw [accepted]; decide) block (heloRequest block g.msgId meets.myname)
  have settled := initConnection_accepted found whole
  refine ⟨by rw [settled], ?_, ?_, ?_⟩
  · rw [settled]
    refine (established_open_iff _ _ _ rfl).mpr fun required => ?_
    rw [parsed, accepted] at required
    cases required
  · rw [Remote.Linked, Remote.opened, settled, established_sessionId, parsed, id, opens.started]
  · rw [Remote.abstract, Remote.opened, history, apps]
    rfl

/-- Whatever an application does with a connection that has been opened, its calls are explained by a
local CAPI that starts without applications of the caller, and with those that the session had before: a session
that has just started has none. -/
theorem remote_run (opens : Opens env session stack meets g block)
    (admitted : Admitted (Remote.invoke env) (Remote.Passable env)
      (Remote.opened env session stack meets g block) invocations) :
    let start := Remote.opened env session stack meets g block
    let run := answers (Remote.invoke env) start invocations
    (initConnection meets g).1 = 0 ∧ (initConnection meets g).2.socke = true ∧
      Explains (LocalCapi.Step env.capi) ⟨session.state.history, [], ownedApps session⟩ (invocations.zip run.1)
        run.2.abstract := by
  obtain ⟨success, opened, linked, fresh⟩ := opens.connected
  obtain ⟨explained, -⟩ := (remote_refines env).run linked admitted
  exact ⟨success, opened, fresh ▸ explained⟩

theorem nothing_given (used : List Nat) (size block : Nat) (given : none = some block) :
    block ∉ used ∧ block + size < 2 ^ 32 := by
  cases given

def bareEnvironment : Environment := ⟨true, fun _ _ => none, fun _ _ => none, nothing_given⟩

/-- An application registers, puts a message with voice data and releases its id again. -/
def voiceCall : List Invocation :=
  [.function (.register 1024 2 7 2048 8), .function (.putMessage 1 100), .function (.release 1)].map
    fun command => ⟨command, voice, bareEnvironment, [], zeros⟩

def voiceConnect : ConnectEnvironment where
  socket := true
  connect := true
  malloc := some zeros
  myname := zeros
  send := true
  recv := (serve .sample .sample zeros (heloRequest zeros 0 zeros).frame).1.map (·.frame)
  auth := ⟨none, none, false, none⟩

theorem voiceCall_explained :
    let start := Remote.opened .sample .sample zeros voiceConnect .initial zeros
    let run := answers (Remote.invoke .sample) start voiceCall
    (initConnection voiceConnect .initial).1 = 0 ∧ (initConnection voiceConnect .initial).2.socke = true ∧
      Explains (LocalCapi.Step Win32Server.Environment.sample.capi) ⟨[], [], ∅⟩ (voiceCall.zip run.1)
        run.2.abstract := by
  have free : (Capi.firstFree capiMaxappl).HandsOutFree capiMaxappl :=
    Capi.firstFree_handsOutFree (by decide)
  have opens : Opens .sample .sample zeros voiceConnect .initial zeros := ⟨rfl, rfl, rfl, rfl, rfl, rfl⟩
  have admitted : Admitted (Remote.invoke .sample) (Remote.Passable .sample)
      (Remote.opened .sample .sample zeros voiceConnect .initial zeros) voiceCall := by
    refine ⟨⟨?_, fun _ _ => trivial⟩, ⟨⟨⟨by decide, fun _ => by decide⟩, by decide⟩, fun _ _ => trivial⟩,
      ⟨trivial, fun _ _ => trivial⟩, trivial⟩
    exact free.stores _ (.register (some 1024) 2 7 2048)
  have fresh : ownedApps .sample = ∅ := marked_clear _
  exact fresh ▸ remote_run opens admitted

end CapiProxy.Integration
