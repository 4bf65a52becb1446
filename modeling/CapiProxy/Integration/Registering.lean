import CapiProxy.Integration.Station

/-! Registrations at the station. The daemon gives one verdict on each register message that it reads, for the
id that it reads there; ids with a low byte from 0x80 on it reads as others. -/
namespace CapiProxy.Integration
open LinuxModule LinuxClient Traces Bytes

def registers (env : LinuxClient.Environment) (appl : UInt16) (skb : Skb) : Bool :=
  asked env (zeros.write 0 skb) = some (.register appl)

theorem asked_congr {env : LinuxClient.Environment} (reads : env.ReadsChars) {m m' : Memory}
    (same : ∀ i < 6, m i = m' i) : asked env m = asked env m' := by
  have appid : env.appid m = env.appid m' := by
    rw [LinuxClient.Environment.appid, LinuxClient.Environment.appid, reads.u16, reads.u16]
    simp only [capimsgU16, Memory.signed, same 2 (by decide), same 3 (by decide)]
  rw [asked, asked, capimsgCommand, capimsgCommand, capimsgSubcommand, capimsgSubcommand, appid,
    same 4 (by decide), same 5 (by decide)]

theorem asked_written {env : LinuxClient.Environment} (reads : env.ReadsChars) (m : Memory) {skb : Skb}
    (long : 6 ≤ skb.length) : asked env (m.write 0 skb) = asked env (zeros.write 0 skb) := by
  refine asked_congr reads fun i inside => ?_
  have first := m.write_inside 0 skb i (by omega)
  have second := zeros.write_inside 0 skb i (by omega)
  rw [Nat.zero_add] at first second
  rw [first, second]

theorem asked_control {env : LinuxClient.Environment} (reads : env.ReadsChars) (appl : UInt16)
    (subcommand : UInt8)
    (params : List UInt32) : asked env (zeros.write 0 (controlMessage appl subcommand params)) =
      if subcommand = typeRegisterApp then some (.register (readId appl))
      else if subcommand = typeReleaseApp then some (.release (readId appl)) else none := by
  have small := appl.toNat_lt
  have first : (zeros.write 0 (controlMessage appl subcommand params)) 2 = .ofNat appl.toNat := rfl
  have second : (zeros.write 0 (controlMessage appl subcommand params)) 3 = .ofNat (appl.toNat / 256) := rfl
  have id := appid_eq reads (zeros.write 0 (controlMessage appl subcommand params)) appl
    (by rw [first, UInt8.toNat_ofNat']) (by rw [second, UInt8.toNat_ofNat']; omega)
  rw [asked, id]
  rfl

theorem registers_message {env : LinuxClient.Environment} (reads : env.ReadsChars)
    {log : List LinuxModule.Event}
    (message : Message limit log skb) (named : registers env x skb) :
    ∃ appl, .asked appl ∈ log ∧ readId appl = x := by
  rw [registers, decide_eq_true_eq] at named
  cases message with
  | capi long command fits =>
    have here := zeros.write_inside 0 skb 4 (by omega)
    rw [Nat.zero_add] at here
    have other : capimsgCommand (zeros.write 0 skb) ≠ typeProxy := by
      intro proxy
      rw [capimsgCommand, here] at proxy
      exact command (by rw [List.getElem?_eq_getElem (by omega), proxy])
    rw [asked, if_neg other] at named
    cases named
  | register appl rp asked =>
    rw [asked_control reads, if_pos rfl] at named
    cases named
    exact ⟨appl, asked, rfl⟩
  | release appl =>
    rw [asked_control reads, if_neg (by decide), if_pos rfl] at named
    cases named
  | shutdown =>
    rw [asked_control reads, if_neg (by decide), if_neg (by decide)] at named
    cases named

/-- The daemon's verdict on an application. -/
def verdict (x : UInt16) : LinuxClient.Event → Bool
  | .registered appl _ | .regfail appl => appl = x
  | _ => false

namespace Station
variable {env : Setup} {s s' : Station}

/-- Each register message that was read has had its verdict, but for the one that the daemon waits for. -/
def Balanced (env : Setup) (s : Station) : Prop :=
  ∀ x, (s.card.journal.fated .read).countP (registers env.daemon x) =
    s.daemon.log.countP (verdict x) + if s.daemon.control.registering = some x then 1 else 0

theorem calm_verdicts {d d' : Daemon} (calm : d.Calm d') (x : UInt16) :
    d'.log.countP (verdict x) = d.log.countP (verdict x) := by
  obtain ⟨new, log, calm⟩ := calm
  have none : new.countP (verdict x) = 0 := List.countP_eq_zero.mpr fun e member => by
    have here := calm e member
    cases e <;> simp_all [Event.isCalm, verdict]
  rw [log, List.countP_append, none, Nat.add_zero]

theorem taken_balanced (reads : env.daemon.ReadsChars) {skb : Skb} (long : 6 ≤ skb.length) {d : Daemon}
    (taken : Daemon.Taken env.daemon skb (s.daemon.storeRecv (s.daemon.recvbuffer.write 0 skb)) d)
    (x : UInt16) :
    (if registers env.daemon x skb then 1 else 0) + s.daemon.log.countP (verdict x) =
      d.log.countP (verdict x) + if d.control.registering = some x then 1 else 0 := by
  have whole : (s.daemon.storeRecv (s.daemon.recvbuffer.write 0 skb)).log = s.daemon.log := rfl
  have same : asked env.daemon (s.daemon.storeRecv (s.daemon.recvbuffer.write 0 skb)).recvbuffer =
      asked env.daemon (zeros.write 0 skb) := asked_written reads _ long
  rw [registers, ← same]
  cases taken with
  | sends op asks sent frame request passed log control =>
    have silent : verdict x sent = false := by
      cases sent <;> first | rfl | cases passed
    rw [log, asks, control, whole, List.countP_append, List.countP_singleton, silent, Nat.add_comm]
    cases op <;> simp [Control.registering]
  | fails op asks unsent log control =>
    rw [log, asks, control, whole, List.countP_append, Nat.add_comm]
    cases op <;> simp [Control.registering, Operation.refusal, verdict, List.countP_singleton]
  | ends asks shutdown log control | ignores asks other log control =>
    rw [log, asks, control, whole]
    simp [Control.registering]

theorem Balanced.moved (reads : env.daemon.ReadsChars) (balanced : s.Balanced env) (ordered : s'.Ordered env)
    (moved : Moved env s move s') : s'.Balanced env := by
  intro x
  have before := balanced x
  cases moved.progress with
  | same reads daemon => rw [reads, daemon, before]
  | turns reads turn =>
    rw [reads, before]
    cases turn with
    | goes calm registering => rw [calm_verdicts calm, registering]
    | collects mid info calm done fetching =>
      have log : s'.daemon.log = mid.log ++ [.setData info] := by rw [done]; rfl
      have control : s'.daemon.control = .poll := by rw [done]; rfl
      rw [(Control.fetching_idle fetching).1, control, log, List.countP_append, calm_verdicts calm]
      rfl
    | decides appl waits mid verdict calm decides log control =>
      rw [waits, control, log, List.countP_append, calm_verdicts calm]
      rcases decides with rfl | ⟨remote, rfl⟩ <;>
        simp [Integration.verdict, Control.registering, List.countP_singleton]
  | takes skb fated control taken =>
    have member : skb ∈ s'.card.journal.fated .read :=
      fated ▸ List.mem_append_right _ (List.mem_singleton_self _)
    have message := ordered.posts skb ((ordered.books.accounts.fated_sublist .read).subset member)
    have given := taken_balanced reads (message.length (by decide)).1 taken x
    rw [control] at before
    rw [fated, List.countP_append, List.countP_singleton, before, ← given]
    simp [Control.registering, Nat.add_comm]

theorem Moved.grows (moved : Moved env s move s') : ∃ new, s'.daemon.log = s.daemon.log ++ new := by
  cases moved.progress with
  | same reads daemon => exact ⟨[], by rw [daemon, List.append_nil]⟩
  | takes skb reads control taken => exact taken.grows
  | turns reads turn => exact turn.grows

/-- The daemon has registered the application at the server. -/
def Enters (s : Station) (x : UInt16) : Prop := ∃ remote, .registered x remote ∈ s.daemon.log

theorem mem_after (card : Card) (daemon : Daemon) {call : NodeCall}
    (member : call ∈ (s.after card daemon).calls) :
    call = .closeNode ∨ ∃ e ∈ daemon.log, call ∈ nodeCalls e := by
  rcases List.mem_append.mp member with event | last
  · obtain ⟨e, new, here⟩ := List.mem_flatMap.mp event
    exact .inr ⟨e, List.mem_of_mem_drop new, here⟩
  · split at last
    · exact .inl (List.mem_singleton.mp last)
    · cases last

theorem registered_event {e : LinuxClient.Event} (member : .registered x ∈ nodeCalls e) :
    ∃ remote, e = .registered x remote := by
  cases e with
  | registered appl remote =>
    cases List.mem_singleton.mp member
    exact ⟨remote, rfl⟩
  | setData | written | regfail => simp [nodeCalls] at member
  | handled | sent | released => cases member

/-- An application is confirmed only when the daemon has registered it. -/
structure Decided (s : Station) : Prop where
  calls : ∀ x, .registered x ∈ s.calls → s.Enters x
  card : s.card.Confirms s.Enters

theorem Decided.moved (decided : s.Decided) (moved : Moved env s move s') : s'.Decided := by
  obtain ⟨new, log⟩ := moved.grows
  have grows (x : UInt16) : s.Enters x → s'.Enters x := by
    rintro ⟨remote, member⟩
    exact ⟨remote, log ▸ List.mem_append_left _ member⟩
  have kept : s.card.Confirms s'.Enters := fun x confirmed => grows x (decided.card x confirmed)
  have read : (s.card.step env.module (.read bufferSize 0)).Confirms s'.Enters := kept.step env.module nofun
  have entered {card : Card} {daemon : Daemon} (x : UInt16)
      (member : .registered x ∈ (s.after card daemon).calls) :
      (s.after card daemon).Enters x := by
    rcases mem_after card daemon member with close | ⟨e, event, here⟩
    · cases close
    · obtain ⟨remote, rfl⟩ := registered_event here
      exact ⟨remote, event⟩
  cases moved with
  | calls call attached may =>
    refine ⟨decided.calls, kept.step env.module ?_⟩
    rintro param len rfl
    cases may
  | performs memory call later first =>
    obtain ⟨daemon, calls, card⟩ := perform_card env { s with calls := later } memory call
    refine ⟨fun x member => grows x (decided.calls x ?_), ?_⟩
    · rw [calls] at member
      exact first ▸ List.mem_cons_of_mem _ member
    · rcases card with same | step
      · rw [same]
        exact kept
      · rw [step]
        refine kept.step env.module fun param len same => ?_
        cases call with
        | registered appl =>
          cases same
          have own := grows appl (decided.calls appl (first ▸ List.mem_cons_self))
          simpa using own
        | regfail appl => cases same
        | setData => cases same
        | openNode | closeNode | write => cases same
  | takes r skb daemon idle opened reads copied taken => exact ⟨entered, read⟩
  | turns r card daemon idle same turn =>
    refine ⟨entered, ?_⟩
    rcases same with rfl | ⟨rfl, -⟩
    · exact kept
    · exact read

/-- What holds of every run. -/
structure Judged (env : Setup) (s : Station) : Prop where
  ordered : s.Ordered env
  balanced : s.Balanced env
  decided : s.Decided

theorem start_judged (env : Setup) (sessionId msgid : UInt32) (sendbuffer recvbuffer : Memory)
    (info : InitData) :
    (start env sessionId msgid sendbuffer recvbuffer info).Judged env := by
  have fetched := Daemon.fetch_turns env.daemon .manufacturer
    ⟨.poll, sendbuffer, recvbuffer, msgid, sessionId, Daemon.cleared env.daemon,
      Daemon.cleared env.daemon, info, []⟩
  refine ⟨start_ordered env sessionId msgid sendbuffer recvbuffer info, fun x => ?_, nofun, Card.init_confirms _⟩
  have verdicts := calm_verdicts fetched.1 x
  have idle : (start env sessionId msgid sendbuffer recvbuffer info).daemon.control.registering = none :=
    fetched.2.1
  rw [idle]
  exact verdicts.symm

theorem Judged.step (reads : env.daemon.ReadsChars) (judged : s.Judged env) (may : s.allowed move)
    (made : s.step env move = some s') : s'.Judged env := by
  have moved := moved judged.ordered.fits may made
  have ordered := judged.ordered.moved moved
  exact ⟨ordered, judged.balanced.moved reads ordered moved, judged.decided.moved moved⟩

/-- A verdict answers a register message, and that one was made for an application that kernelcapi asked for. -/
theorem Judged.asked (reads : env.daemon.ReadsChars) (judged : s.Judged env) {x : UInt16}
    (entered : s.Enters x) :
    ∃ appl, .asked appl ∈ s.card.log ∧ readId appl = x := by
  obtain ⟨remote, member⟩ := entered
  have given : 0 < s.daemon.log.countP (verdict x) := List.countP_pos_iff.mpr ⟨_, member, by simp [verdict]⟩
  have read : 0 < (s.card.journal.fated .read).countP (registers env.daemon x) := by
    rw [judged.balanced x]
    omega
  obtain ⟨skb, taken, named⟩ := List.countP_pos_iff.mp read
  have accepted := (judged.ordered.books.accounts.fated_sublist .read).subset taken
  exact registers_message reads (judged.ordered.posts skb accepted) named

/-- Each register message that the daemon has read has had exactly one verdict, but for one that the daemon
waits for. What is confirmed, or kernelcapi was told is registered, the daemon had registered, and it was asked
for; but no application whose id has a low byte from 0x80 on is ever confirmed, below the ids that none has. -/
theorem verdicts_given (reads : env.daemon.ReadsChars) (sessionId msgid : UInt32)
    (sendbuffer recvbuffer : Memory)
    (info : InitData) (runs : Runs (step env) allowed (start env sessionId msgid sendbuffer recvbuffer info) s) :
    (∀ x, (s.card.journal.fated .read).countP (registers env.daemon x) =
        s.daemon.log.countP (verdict x) + if s.daemon.control.registering = some x then 1 else 0) ∧
      ∀ x, .told (.applRegistered x) ∈ s.card.log ∨ s.card.applications x = .confirmed →
        (∃ remote, .registered x remote ∈ s.daemon.log) ∧
          (x.toNat % 256 < 128 ∧ .asked x ∈ s.card.log ∨ 128 ≤ x.toNat % 256 ∧ 0xFF00 ≤ x.toNat) := by
  have judged := runs.invariant (start_judged env sessionId msgid sendbuffer recvbuffer info)
    fun _ _ _ judged may made => judged.step reads may made
  refine ⟨judged.balanced, fun x confirmed => ?_⟩
  have entered := judged.decided.card x confirmed
  obtain ⟨appl, asked, rfl⟩ := judged.asked reads entered
  refine ⟨entered, ?_⟩
  have small := appl.toNat_lt
  by_cases low : appl.toNat % 256 < 128
  · rw [(readId_eq_iff appl).mpr (.inl low)]
    exact .inl ⟨low, asked⟩
  · have signed : readId appl = .ofNat (0xFF00 + appl.toNat % 256) := if_neg low
    rw [signed, UInt16.toNat_ofNat']
    exact .inr ⟨by omega, by omega⟩

/-- Application 200 is registered by kernelcapi and by the server. -/
def highId : List StationMove :=
  opening ++ .kernelcapi (.registerAppl true 200 ⟨1, 8, 1024⟩) :: polling ++ [granted, .node none]

/-- Application 200 waits, and the verdict on it went to another cell. -/
theorem highId_waits : ∃ s : Station, s.card.applications 200 = .waiting ∧
    s.card.applications 0xFFC8 = .confirmed ∧
    (∀ x, (s.card.journal.fated .read).countP (registers sampleSetup.daemon x) =
        s.daemon.log.countP (verdict x) + if s.daemon.control.registering = some x then 1 else 0) ∧
      ∀ x, .told (.applRegistered x) ∈ s.card.log ∨ s.card.applications x = .confirmed →
        (∃ remote, .registered x remote ∈ s.daemon.log) ∧
          (x.toNat % 256 < 128 ∧ .asked x ∈ s.card.log ∨ 128 ≤ x.toNat % 256 ∧ 0xFF00 ≤ x.toNat) := by
  have ends : (highId.foldlM (permitted (step sampleSetup) allowed)
      (start sampleSetup 3 0 zeros zeros ⟨[], [], [], []⟩)).map
        (fun s => (s.card.applications 200, s.card.applications 0xFFC8)) = some (.waiting, .confirmed) := by
    decide +kernel
  obtain ⟨s, made, same⟩ := Option.map_eq_some_iff.mp ends
  obtain ⟨waits, confirmed⟩ := Prod.mk.inj same
  exact ⟨s, waits, confirmed, verdicts_given ⟨fun _ _ => rfl, fun _ _ => rfl⟩ 3 0 _ _ _ (runs_of_moves made)⟩

end Station
end CapiProxy.Integration
