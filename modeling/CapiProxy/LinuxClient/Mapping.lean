import CapiProxy.LinuxClient.Unchanged
import CapiProxy.Traces.Throughout

/-! The application maps of the daemon. Registration enters a pair of ids in both maps, if they have elements
for them; nothing ever takes it out, and a release is sent under the local id. The daemon reads the ids of
the module from characters, so it takes some of them for others. -/
namespace CapiProxy.LinuxClient
open Bytes LinuxModule Traces

/-- The id of an application as the daemon reads it in a message. -/
def readId (appl : UInt16) : UInt16 :=
  if appl.toNat % 256 < 128 then appl else .ofNat (0xFF00 + appl.toNat % 256)

theorem readId_eq_iff (appl : UInt16) : readId appl = appl ↔ appl.toNat % 256 < 128 ∨ 0xFF00 ≤ appl.toNat := by
  have small := appl.toNat_lt
  unfold readId
  split
  · next low => exact iff_of_true rfl (.inl low)
  · next high =>
    rw [← UInt16.toNat_inj, UInt16.toNat_ofNat']
    omega

theorem appid_eq {env : Environment} (reads : env.ReadsChars) (m : Memory) (appl : UInt16)
    (low : (m 2).toNat = appl.toNat % 256) (high : (m 3).toNat = appl.toNat / 256) :
    env.appid m = readId appl := by
  have small := appl.toNat_lt
  have value := m.toInt_signedWord_two 2
  rw [← capimsgU16_eq, low, high] at value
  have word : (env.appid m).toNat = (capimsgU16 m 2).toNat % 2 ^ 16 := by
    rw [Environment.appid, reads.u16]
    exact BitVec.toNat_setWidth _ _
  have bound := (capimsgU16 m 2).isLt
  rw [BitVec.toInt_eq_toNat_cond] at value
  apply UInt16.toNat_inj.mp
  rw [word, readId]
  -- the word is the low byte with the sign above it, or both bytes
  split
  · repeat' split at value
    all_goals omega
  · rw [UInt16.toNat_ofNat']
    repeat' split at value
    all_goals omega

/-- The id that the module has put into a message. -/
def namedId (m : Memory) : UInt16 := .ofNat (m.word16 2)

theorem appid_namedId {env : Environment} (reads : env.ReadsChars) (m : Memory) :
    env.appid m = readId (namedId m) := by
  have first := (m 2).toNat_lt
  have second := (m 3).toNat_lt
  have word : m.word16 2 = (m 2).toNat + 256 * ((m 3).toNat + 256 * 0) := rfl
  refine appid_eq reads m (namedId m) ?_ ?_ <;> rw [namedId, UInt16.toNat_ofNat', word] <;> omega

/-- A message for the daemon itself. -/
def Commands (subcommand : UInt8) (m : Memory) : Prop :=
  capimsgCommand m = typeProxy ∧ capimsgSubcommand m = subcommand

instance (subcommand : UInt8) (m : Memory) : Decidable (Commands subcommand m) :=
  inferInstanceAs (Decidable (_ ∧ _))

def asked (env : Environment) (m : Memory) : Option Operation :=
  if capimsgCommand m = typeProxy then
    if capimsgSubcommand m = typeRegisterApp then some (.register (env.appid m))
    else if capimsgSubcommand m = typeReleaseApp then some (.release (env.appid m))
    else none
  else some .put

theorem asked_register {env : Environment} {m : Memory} (asks : asked env m = some (.register appl)) :
    Commands typeRegisterApp m ∧ env.appid m = appl := by
  unfold asked at asks
  split at asks
  · next proxy =>
    split at asks
    · next subcommand => exact ⟨⟨proxy, subcommand⟩, Operation.register.inj (Option.some.inj asks)⟩
    · split at asks <;> cases asks
  · cases asks

theorem asked_release {env : Environment} {m : Memory} (asks : asked env m = some (.release appl)) :
    Commands typeReleaseApp m ∧ env.appid m = appl := by
  unfold asked at asks
  split at asks
  · next proxy =>
    split at asks
    · cases asks
    · split at asks
      · next subcommand => exact ⟨⟨proxy, subcommand⟩, Operation.release.inj (Option.some.inj asks)⟩
      · cases asks
  · cases asks

namespace Daemon

def incoming (d : Daemon) : Result → Option Memory
  | .data bytes .. => if d.control = .read then some (d.recvbuffer.write 0 bytes) else none
  | _ => none

def grants (d : Daemon) (r : Result) : Option UInt32 :=
  match d.completes r with
  | some (.register _) => some (d.receive r).aheader.appId
  | _ => none

def releases (d : Daemon) (r : Result) : Bool :=
  match d.completes r with
  | some (.release _) => true
  | _ => false

theorem grants_some {d : Daemon} (grants : d.grants r = some remote) :
    (∃ appl, d.completes r = some (.register appl)) ∧ (d.receive r).aheader.appId = remote := by
  unfold Daemon.grants at grants
  split at grants
  · next appl completes => exact ⟨⟨appl, completes⟩, Option.some.inj grants⟩
  · cases grants

theorem grants_register {d : Daemon} (completes : d.completes r = some (.register appl)) :
    d.grants r = some (d.receive r).aheader.appId := by
  rw [grants, completes]

theorem releases_true {d : Daemon} (releases : d.releases r = true) :
    ∃ appl, d.completes r = some (.release appl) := by
  unfold Daemon.releases at releases
  split at releases
  · next appl completes => exact ⟨appl, completes⟩
  · cases releases

theorem completes_none_idle {d : Daemon} (idle : d.completes r = none) :
    d.grants r = none ∧ d.releases r = false := by
  rw [grants, releases, idle]
  exact ⟨rfl, rfl⟩

theorem incoming_control {d : Daemon} (message : d.incoming r = some m) : d.control = .read := by
  unfold incoming at message
  split at message
  · split at message
    · next reads => exact reads
    · cases message
  · cases message

theorem incoming_idle {d : Daemon} (message : d.incoming r = some m) : d.completes r = none := by
  cases completes : d.completes r with
  | none => rfl
  | some op => cases (completes_control completes).symm.trans (incoming_control message)

/-- The maps are as they were. -/
structure Quiet (d d' : Daemon) : Prop where
  ltr : d'.applmapLtr = d.applmapLtr
  rtl : d'.applmapRtl = d.applmapRtl

theorem Plain.quiet {d d' : Daemon} (plain : Plain d d') : Quiet d d' := ⟨plain.ltr, plain.rtl⟩

theorem Quiet.trans (first : Quiet d d') (second : Quiet d' d'') : Quiet d d'' :=
  ⟨second.ltr.trans first.ltr, second.rtl.trans first.rtl⟩

theorem receive_quiet (d : Daemon) (r : Result) : Quiet d (d.receive r) := ⟨rfl, rfl⟩

/-- A registration has been entered in both maps, as far as they have elements for it. -/
structure Registers (d d' : Daemon) (appl remote : UInt16) : Prop where
  ltr : d'.applmapLtr = d.applmapLtr.set appl.toNat remote
  rtl : d'.applmapRtl = d.applmapRtl.set remote.toNat appl

theorem finish_registers (env : Environment) (appl : UInt16) (d : Daemon)
    (granted : d.aheader.proxyError = perrorNone) :
    Registers d (d.finish env (.register appl)) appl d.aheader.appId.toUInt16 := by
  obtain ⟨polled, plain, finished⟩ := finish_register env appl d granted
  rw [finished]
  exact ⟨congrArg (List.set · _ _) plain.ltr, congrArg (List.set · _ _) plain.rtl⟩

theorem finish_releases (env : Environment) (appl : UInt16) (d : Daemon)
    (granted : d.aheader.proxyError = perrorNone) : Quiet d (d.finish env (.release appl)) := by
  rw [finish_release env appl d granted]
  exact ⟨rfl, rfl⟩

/-- Only the awaited answer to a register request changes the maps. -/
inductive Changes (d : Daemon) (r : Result) (d' : Daemon) : Prop where
  | registers (appl : UInt16) (completes : d.completes r = some (.register appl))
      (entered : Registers d d' appl (d.receive r).aheader.appId.toUInt16)
  | keeps (register : d.grants r = none) (kept : Quiet d d')

theorem finish_changes (env : Environment) (op : Operation) (d : Daemon) (r : Result)
    (completes : d.completes r =
      if (d.receive r).aheader.proxyError ≠ perrorNone then none else some op) :
    Changes d r ((d.receive r).finish env op) := by
  have received := receive_quiet d r
  by_cases refused : (d.receive r).aheader.proxyError ≠ perrorNone
  · rw [if_pos refused] at completes
    exact .keeps (completes_none_idle completes).1 (received.trans (finish_refused env op _ refused).quiet)
  · rw [if_neg refused] at completes
    have granted := not_not.mp refused
    cases op with
    | register appl =>
      obtain ⟨ltr, rtl⟩ := finish_registers env appl _ granted
      exact .registers appl completes ⟨ltr, rtl⟩
    | release appl =>
      exact .keeps (by rw [grants, completes]) (received.trans (finish_releases env appl _ granted))
    | fetch property =>
      exact .keeps (by rw [grants, completes]) (received.trans (finish_fetch env property _).quiet)
    | put => exact .keeps (by rw [grants, completes]) (received.trans (finish_put env _).quiet)

theorem step_changes (env : Environment) (d : Daemon) (r : Result) : Changes d r (d.step env r) := by
  have received := receive_quiet d r
  cases step_outcome env d r with
  | idle _ completes kept => exact .keeps (completes_none_idle completes).1 kept.quiet
  | handled _ completes kept => exact .keeps (completes_none_idle completes).1 (received.trans kept.quiet)
  | finished op _ completes done =>
    rw [done]
    exact finish_changes env op d r completes

theorem request_control (env : Environment) (type : MessageType) (appl : UInt32)
    (body data : List UInt8) (d : Daemon) : (d.request env type appl body data).1.control = d.control := by
  simp only [request]
  split <;> rfl

theorem handleServerpacket_control (env : Environment) (d : Daemon) :
    (d.handleServerpacket env).control = d.control := by
  unfold handleServerpacket
  split
  · exact request_control env _ _ _ _ d
  · exact request_control env _ _ _ _ (d.sendToModule env)
  · rfl

theorem request_ok (env : Environment) (type : MessageType) (appl : UInt32)
    (body data : List UInt8) (d : Daemon) :
    (d.request env type appl body data).2 = env.send d.log.length := by
  unfold request
  cases ok : env.send d.log.length <;> simp

theorem request_log (env : Environment) (type : MessageType) (appl : UInt32)
    (body data : List UInt8) (d : Daemon) :
    ∃ frame, (d.request env type appl body data).1.log =
      if env.send d.log.length then d.log ++ [.sent (d.header type appl data.length) frame]
      else d.log := by
  unfold request
  cases ok : env.send d.log.length with
  | true => exact ⟨_, rfl⟩
  | false => exact ⟨[], rfl⟩

theorem await_log (op : Operation) (sent : Daemon × Bool) : (await op id sent).log = sent.1.log := by
  obtain ⟨d, ok⟩ := sent
  cases ok <;> rfl

theorem await_control {next : Daemon → Daemon} {sent : Daemon × Bool}
    (waits : (await op next sent).control = .wait op') : op' = op ∧ sent.2 = true := by
  obtain ⟨d, ok⟩ := sent
  cases ok with
  | true => exact ⟨(Control.wait.inj waits).symm, rfl⟩
  | false => cases waits

theorem finish_control (waits : (finish env op d).control = .wait op') :
    ∃ property, op' = .fetch property := by
  have fetched (property : Property) (d : Daemon) (waits : (d.fetch env property).control = .wait op') :
      ∃ property, op' = .fetch property := ⟨property, (await_control waits).1⟩
  unfold finish at waits
  split at waits
  · cases op <;> cases waits
  · cases op with
    | register appl => cases waits
    | release appl => cases waits
    | put => cases waits
    | fetch property =>
      cases property with
      | manufacturer => exact fetched .version _ waits
      | version => exact fetched .serial _ waits
      | serial => exact fetched .profile _ waits
      | profile => cases waits

theorem fromModule_waits (waits : (fromModule env len d).control = .wait op) :
    asked env d.recvbuffer = some op ∧ env.send d.log.length = true := by
  unfold fromModule at waits
  unfold asked
  dsimp only at waits
  split at waits
  · next command =>
    rw [if_pos command]
    split at waits
    · next register =>
      obtain ⟨rfl, sent⟩ := await_control waits
      rw [request_ok] at sent
      exact ⟨if_pos register, sent⟩
    · next other =>
      rw [if_neg other]
      split at waits
      · next release =>
        obtain ⟨rfl, sent⟩ := await_control waits
        rw [request_ok] at sent
        exact ⟨if_pos release, sent⟩
      · split at waits <;> cases waits
  · next command =>
    obtain ⟨rfl, sent⟩ := await_control waits
    rw [request_ok] at sent
    exact ⟨if_neg command, sent⟩

/-- A daemon that waits for an answer has waited for it before, or has just read the message that asks for
it, or collects the data for the module. -/
theorem step_waits {env : Environment} {d : Daemon} (waits : (d.step env r).control = .wait op) :
    (d.control = .wait op ∧ d.completes r = none) ∨
    (∃ m, d.incoming r = some m ∧ asked env m = some op ∧ env.send d.log.length = true) ∨
    ∃ property, op = .fetch property := by
  cases control : d.control with
  | down =>
    simp only [step, control] at waits
    cases waits
  | poll =>
    simp only [step, control] at waits
    cases r <;> cases waits
  | wait op' =>
    simp only [step, control] at waits
    cases r with
    | failed => exact .inr (.inr (finish_control waits))
    | closed => exact .inr (.inr (finish_control waits))
    | data bytes nonempty fits =>
      dsimp only at waits
      split at waits
      · next other =>
        rw [handleServerpacket_control] at waits
        refine .inl ⟨control.symm.trans waits, ?_⟩
        simp only [completes, control, if_pos other, ite_self]
      · exact .inr (.inr (finish_control waits))
  | read =>
    simp only [step, control] at waits
    cases r with
    | failed => cases waits
    | closed => cases waits
    | data bytes nonempty fits =>
      obtain ⟨asks, sent⟩ := fromModule_waits waits
      exact .inr (.inl ⟨_, if_pos control, asks, sent⟩)

theorem step_release (env : Environment) {d : Daemon} (message : d.incoming r = some m)
    (release : Commands typeReleaseApp m) :
    (env.send d.log.length = true ∧ ∃ head frame, (d.step env r).log = d.log ++ [.sent head frame] ∧
      head.appId = (env.appid m).toUInt32) ∨
    (env.send d.log.length = false ∧ (d.step env r).log = d.log) := by
  have control := incoming_control message
  cases r with
  | closed => cases message
  | failed => cases message
  | data bytes nonempty fits =>
    rw [incoming, if_pos control] at message
    obtain rfl := Option.some.inj message
    have other : ¬ typeReleaseApp = typeRegisterApp := by decide
    have released : d.step env (.data bytes nonempty fits) =
        (d.storeRecv (d.recvbuffer.write 0 bytes)).localReleaseAppl env
          (env.appid (d.recvbuffer.write 0 bytes)) := by
      simp only [step, control, fromModule, storeRecv, release.1, release.2, if_true, if_neg other]
    obtain ⟨frame, log⟩ := request_log env .capiRelease
      (env.appid (d.recvbuffer.write 0 bytes)).toUInt32 [] [] (d.storeRecv (d.recvbuffer.write 0 bytes))
    rw [released, localReleaseAppl, await_log, log]
    cases ok : env.send d.log.length with
    | true => exact .inl ⟨rfl, _, frame, if_pos ok, rfl⟩
    | false => exact .inr ⟨rfl, if_neg (Bool.eq_false_iff.mp ok)⟩

end Daemon

theorem toUInt16_of_small {remote : UInt32} (small : remote.toNat < 2 ^ 16) :
    remote.toUInt16.toUInt32 = remote ∧ remote.toUInt16.toNat = remote.toNat := by
  have value : remote.toUInt16.toNat = remote.toNat := by
    rw [UInt32.toNat_toUInt16]
    exact Nat.mod_eq_of_lt small
  refine ⟨UInt32.toNat_inj.mp ?_, value⟩
  rw [UInt16.toNat_toUInt32, value]

/-- The daemon, with the id in the last message of the module, and with the registered applications: the ids
that the module gave them and those that the server did. -/
structure Tracked where
  daemon : Daemon
  named : UInt16
  live : List (UInt16 × UInt32)

namespace Tracked

def step (env : Environment) (t : Tracked) (r : Result) : Tracked where
  daemon := t.daemon.step env r
  named := ((t.daemon.incoming r).map namedId).getD t.named
  live :=
    let others := t.live.filter fun pair => pair.1 ≠ t.named
    match t.daemon.grants r with
    | some remote => (t.named, remote) :: others
    | none => if t.daemon.releases r then others else t.live

def start (env : Environment) (sessionId msgid : UInt32) (sendbuffer recvbuffer : Memory)
    (info : InitData) : Tracked :=
  ⟨.start env sessionId msgid sendbuffer recvbuffer info, 0, []⟩

def run (env : Environment) (t : Tracked) (results : List Result) : Tracked := results.foldl (step env) t

theorem run_append (env : Environment) (t : Tracked) (results : List Result) (r : Result) :
    t.run env (results ++ [r]) = (t.run env results).step env r := by
  rw [run, List.foldl_append]
  rfl

theorem run_daemon (env : Environment) (t : Tracked) (results : List Result) :
    (t.run env results).daemon = t.daemon.run env results := by
  induction results using List.reverseRecOn with
  | nil => rfl
  | append_singleton results r ih => rw [run_append, Daemon.run_append, ← ih, step]

/-- The maps have elements for the registered applications and are inverse to each other there, and lead to
and from no other. -/
structure Mapped (t : Tracked) : Prop where
  inverse : ∀ appl remote, (appl, remote) ∈ t.live → ∃ id : UInt16, id.toUInt32 = remote ∧
    t.daemon.applmapLtr[appl.toNat]? = some id ∧ t.daemon.applmapRtl[id.toNat]? = some appl
  gone : ∀ appl, appl ≠ 0 → (∀ remote, (appl, remote) ∉ t.live) →
    (∀ id, t.daemon.applmapLtr[appl.toNat]? = some id → id = 0) ∧ appl ∉ t.daemon.applmapRtl

/-- A request the daemon sends because of a release message carries the remote id. -/
def ReleasesRemote (env : Environment) (t : Tracked) (r : Result) : Prop :=
  ∀ m, t.daemon.incoming r = some m → Commands typeReleaseApp m → ∀ head frame,
    (t.daemon.step env r).log = t.daemon.log ++ [.sent head frame] → (namedId m, head.appId) ∈ t.live

/-- The module has ids up to `CAPI_MAXAPPL`, and the server gives an application a remote id that no
registered application has. -/
structure Assigns (env : Environment) (t : Tracked) (r : Result) : Prop where
  messages : ∀ m, t.daemon.incoming r = some m → (Commands typeRegisterApp m ∨ Commands typeReleaseApp m) →
    namedId m ≠ 0 ∧ (namedId m).toNat ≤ env.maxAppl
  remote : ∀ remote, t.daemon.grants r = some remote → remote ≠ 0 ∧ ∀ other, (other, remote) ∉ t.live

/-- The daemon registers an application under its own id only, and the maps have elements for it; it sends a
release request only for an application whose remote id is its local id, and the request is not granted. -/
structure Suits (env : Environment) (t : Tracked) (r : Result) : Prop where
  granted : ∀ remote, t.daemon.grants r = some remote →
    readId t.named = t.named ∧ remote.toNat ≤ env.maxAppl
  same : ∀ m, t.daemon.incoming r = some m → Commands typeReleaseApp m →
    env.send t.daemon.log.length = true → (namedId m, (namedId m).toUInt32) ∈ t.live
  refused : t.daemon.releases r = false

/-- Between system calls: the maps are right, and the operation under way is for the application that was
named last. -/
structure Ready (env : Environment) (t : Tracked) : Prop where
  mapped : t.Mapped
  ltr : t.daemon.applmapLtr.length = env.maxAppl + 1
  rtl : t.daemon.applmapRtl.length = env.maxAppl + 1
  live : ∀ appl remote, (appl, remote) ∈ t.live → remote ≠ 0 ∧ readId appl = appl
  registering : ∀ appl, t.daemon.control = .wait (.register appl) →
    appl = readId t.named ∧ t.named ≠ 0 ∧ t.named.toNat ≤ env.maxAppl
  releasing : ∀ appl, t.daemon.control = .wait (.release appl) →
    t.named ≠ 0 ∧ ∃ remote, (t.named, remote) ∈ t.live

section steps
variable {env : Environment} {t : Tracked} {r : Result}

theorem step_live (other : t.daemon.grants r = none) (kept : t.daemon.releases r = false) :
    (t.step env r).live = t.live := by
  simp only [step, other, kept, Bool.false_eq_true, if_false]

theorem step_live_grants (granted : t.daemon.grants r = some remote) :
    (t.step env r).live = (t.named, remote) :: t.live.filter fun pair => pair.1 ≠ t.named := by
  simp only [step, granted]

theorem step_live_releases (other : t.daemon.grants r = none) (released : t.daemon.releases r = true) :
    (t.step env r).live = t.live.filter fun pair => pair.1 ≠ t.named := by
  simp only [step, other, released, if_true]

theorem step_named (other : t.daemon.control ≠ .read) : (t.step env r).named = t.named := by
  cases message : t.daemon.incoming r with
  | none => simp only [step, message, Option.map_none, Option.getD_none]
  | some m => exact absurd (Daemon.incoming_control message) other

theorem step_named_incoming (message : t.daemon.incoming r = some m) : (t.step env r).named = namedId m := by
  simp only [step, message, Option.map_some, Option.getD_some]

theorem mem_others {pair : UInt16 × UInt32} : pair ∈ t.live.filter (fun pair => pair.1 ≠ t.named) ↔
    pair ∈ t.live ∧ pair.1 ≠ t.named := by
  rw [List.mem_filter, decide_eq_true_eq]

theorem Mapped.quiet {t' : Tracked} (mapped : t.Mapped) (quiet : t.daemon.Quiet t'.daemon)
    (live : t'.live = t.live) : t'.Mapped where
  inverse appl remote member := by
    rw [live] at member
    rw [quiet.ltr, quiet.rtl]
    exact mapped.inverse appl remote member
  gone appl positive free := by
    rw [live] at free
    rw [quiet.ltr, quiet.rtl]
    exact mapped.gone appl positive free

theorem Mapped.enter {t' : Tracked} {remote : UInt32} (mapped : t.Mapped)
    (entered : t.daemon.Registers t'.daemon t.named remote.toUInt16)
    (live : t'.live = (t.named, remote) :: t.live.filter fun pair => pair.1 ≠ t.named)
    (fresh : ∀ other, (other, remote) ∉ t.live) (small : remote.toNat < 2 ^ 16)
    (ltr : t.named.toNat < t.daemon.applmapLtr.length) (rtl : remote.toNat < t.daemon.applmapRtl.length) :
    t'.Mapped where
  inverse appl other member := by
    obtain ⟨same, value⟩ := toUInt16_of_small small
    rw [live, List.mem_cons, mem_others] at member
    rw [entered.ltr, entered.rtl]
    rcases member with pair | ⟨before, apart⟩
    · obtain ⟨rfl, rfl⟩ := Prod.mk.inj pair
      refine ⟨other.toUInt16, same, List.getElem?_set_self ltr, List.getElem?_set_self ?_⟩
      rwa [value]
    · obtain ⟨id, carried, forth, back⟩ := mapped.inverse appl other before
      refine ⟨id, carried, ?_, ?_⟩
      · rwa [List.getElem?_set_ne fun h => apart (UInt16.toNat_inj.mp h.symm)]
      · rw [List.getElem?_set_ne]
        · exact back
        · intro h
          refine fresh appl ?_
          rw [← same, UInt16.toNat_inj.mp h, carried]
          exact before
  gone appl positive free := by
    rw [live] at free
    rw [entered.ltr, entered.rtl]
    have apart : appl ≠ t.named := fun same => free remote (same ▸ List.mem_cons_self)
    obtain ⟨none, never⟩ := mapped.gone appl positive fun other member =>
      free other (List.mem_cons_of_mem _ (mem_others.mpr ⟨member, apart⟩))
    refine ⟨fun id here => none id ?_, fun here => ?_⟩
    · rwa [List.getElem?_set_ne fun h => apart (UInt16.toNat_inj.mp h.symm)] at here
    · exact (List.mem_or_eq_of_mem_set here).elim never apart

theorem Ready.entered {remote : UInt32} (ready : t.Ready env) (granted : t.daemon.grants r = some remote)
    (fresh : remote ≠ 0 ∧ ∀ other, (other, remote) ∉ t.live) (mapped : (t.step env r).Mapped) :
    readId t.named = t.named ∧ remote.toNat ≤ env.maxAppl := by
  obtain ⟨⟨appl, completes⟩, same⟩ := Daemon.grants_some granted
  obtain ⟨own, positive, -⟩ := ready.registering appl (Daemon.completes_control completes)
  have live : (t.named, remote) ∈ (t.step env r).live := by
    rw [step_live_grants granted]
    exact List.mem_cons_self
  obtain ⟨id, carried, forth, back⟩ := mapped.inverse t.named remote live
  have nonzero : id ≠ 0 := fun zero => fresh.1 (by rw [← carried, zero]; rfl)
  cases Daemon.step_changes env t.daemon r with
  | keeps none => cases none.symm.trans granted
  | registers appl' completes' entered =>
    obtain rfl : appl = appl' := by
      cases completes.symm.trans completes'
      rfl
    rw [step, entered.ltr] at forth
    rw [step, entered.rtl] at back
    constructor
    · by_contra other
      -- the element of the id that was named is still the old one
      have apart : appl.toNat ≠ t.named.toNat := fun h => other (own ▸ UInt16.toNat_inj.mp h)
      rw [List.getElem?_set_ne apart] at forth
      by_cases before : ∃ old, (t.named, old) ∈ t.live
      · obtain ⟨old, member⟩ := before
        obtain ⟨id', carried', forth', -⟩ := ready.mapped.inverse t.named old member
        obtain rfl := Option.some.inj (forth.symm.trans forth')
        exact fresh.2 t.named (carried.symm.trans carried' ▸ member)
      · exact nonzero ((ready.mapped.gone t.named positive (not_exists.mp before)).1 id forth)
    · have inside := (List.getElem?_eq_some_iff.mp back).1
      rw [List.length_set, ready.rtl] at inside
      rw [← carried, UInt16.toNat_toUInt32]
      exact Nat.le_of_lt_succ inside

theorem Ready.mapped_step (ready : t.Ready env) (assigns : t.Assigns env r) (suits : t.Suits env r) :
    (t.step env r).Mapped := by
  cases Daemon.step_changes env t.daemon r with
  | keeps none kept => exact ready.mapped.quiet kept (step_live none suits.refused)
  | registers appl completes entered =>
    have granted := Daemon.grants_register completes
    obtain ⟨own, positive, bound⟩ := ready.registering appl (Daemon.completes_control completes)
    obtain ⟨plain, small⟩ := suits.granted _ granted
    have limit := env.maxAppl_lt
    rw [own, plain] at entered
    refine ready.mapped.enter entered (step_live_grants granted) (assigns.remote _ granted).2 (by omega) ?_ ?_
    · rw [ready.ltr]
      exact Nat.lt_succ_of_le bound
    · rw [ready.rtl]
      exact Nat.lt_succ_of_le small

theorem step_ready (reads : env.ReadsChars) (ready : t.Ready env) (assigns : t.Assigns env r)
    (suits : t.Suits env r) : (t.step env r).Ready env where
  mapped := ready.mapped_step assigns suits
  ltr := by
    refine Eq.trans ?_ ready.ltr
    cases Daemon.step_changes env t.daemon r with
    | keeps none kept => exact congrArg List.length kept.ltr
    | registers appl completes entered => exact (congrArg List.length entered.ltr).trans List.length_set
  rtl := by
    refine Eq.trans ?_ ready.rtl
    cases Daemon.step_changes env t.daemon r with
    | keeps none kept => exact congrArg List.length kept.rtl
    | registers appl completes entered => exact (congrArg List.length entered.rtl).trans List.length_set
  live := by
    intro appl remote member
    cases granted : t.daemon.grants r with
    | none =>
      rw [step_live granted suits.refused] at member
      exact ready.live appl remote member
    | some id =>
      rw [step_live_grants granted, List.mem_cons, mem_others] at member
      rcases member with pair | ⟨before, -⟩
      · obtain ⟨rfl, rfl⟩ := Prod.mk.inj pair
        exact ⟨(assigns.remote _ granted).1, (suits.granted _ granted).1⟩
      · exact ready.live appl remote before
  registering := by
    intro appl waits
    rcases Daemon.step_waits waits with ⟨waited, -⟩ | ⟨m, message, asks, -⟩ | ⟨property, other⟩
    · rw [step_named (by rw [waited]; nofun)]
      exact ready.registering appl waited
    · obtain ⟨command, rfl⟩ := asked_register asks
      rw [step_named_incoming message]
      exact ⟨appid_namedId reads m, assigns.messages m message (.inl command)⟩
    · cases other
  releasing := by
    intro appl waits
    rcases Daemon.step_waits waits with ⟨waited, idle⟩ | ⟨m, message, asks, sent⟩ | ⟨property, other⟩
    · obtain ⟨none, kept⟩ := Daemon.completes_none_idle idle
      rw [step_named (by rw [waited]; nofun), step_live none kept]
      exact ready.releasing appl waited
    · obtain ⟨command, -⟩ := asked_release asks
      obtain ⟨none, kept⟩ := Daemon.completes_none_idle (Daemon.incoming_idle message)
      rw [step_named_incoming message, step_live none kept]
      exact ⟨(assigns.messages m message (.inr command)).1, _, suits.same m message command sent⟩
    · cases other

theorem Ready.not_released (ready : t.Ready env) (mapped : (t.step env r).Mapped) :
    t.daemon.releases r = false := by
  by_contra released
  rw [Bool.not_eq_false] at released
  obtain ⟨appl, completes⟩ := Daemon.releases_true released
  obtain ⟨positive, remote, held⟩ := ready.releasing appl (Daemon.completes_control completes)
  have none : t.daemon.grants r = none := by rw [Daemon.grants, completes]
  obtain ⟨id, carried, forth, -⟩ := ready.mapped.inverse t.named remote held
  have kept : (t.step env r).daemon.applmapLtr = t.daemon.applmapLtr := by
    cases Daemon.step_changes env t.daemon r with
    | keeps _ kept => exact kept.ltr
    | registers appl' completes' => cases completes.symm.trans completes'
  have removed := (mapped.gone t.named positive fun other member => by
    rw [step_live_releases none released, mem_others] at member
    exact member.2 rfl).1 id (kept.symm ▸ forth)
  exact (ready.live t.named remote held).1 (by rw [← carried, removed]; rfl)

/-- One step of a daemon whose maps are right keeps them right, and its release requests carry the remote
id, exactly when it registers what it can enter and releases nothing. -/
theorem step_mapped_iff (reads : env.ReadsChars) (ready : t.Ready env) (assigns : t.Assigns env r) :
    ((t.step env r).Mapped ∧ t.ReleasesRemote env r) ↔ t.Suits env r := by
  constructor
  · rintro ⟨mapped, remote⟩
    refine ⟨fun id granted => ready.entered granted (assigns.remote id granted) mapped, ?_,
      ready.not_released mapped⟩
    intro m message command sends
    rcases Daemon.step_release env message command with ⟨-, head, frame, log, named⟩ | ⟨fails, -⟩
    · have held := remote m message command head frame log
      rw [named, appid_namedId reads, (ready.live _ _ held).2] at held
      exact held
    · cases sends.symm.trans fails
  · intro suits
    refine ⟨ready.mapped_step assigns suits, fun m message command head frame log => ?_⟩
    rcases Daemon.step_release env message command with ⟨sends, head', frame', log', named⟩ | ⟨-, log'⟩
    · obtain ⟨rfl, -⟩ := Event.sent.inj
        (List.singleton_inj.mp (List.append_cancel_left (log.symm.trans log')))
      have held := suits.same m message command sends
      rw [named, appid_namedId reads, (ready.live _ _ held).2]
      exact held
    · exact absurd (log'.symm.trans log) (by simp)

end steps

theorem start_ready (env : Environment) (sessionId msgid : UInt32) (sendbuffer recvbuffer : Memory)
    (info : InitData) : (start env sessionId msgid sendbuffer recvbuffer info).Ready env := by
  let d : Daemon := ⟨.poll, sendbuffer, recvbuffer, msgid, sessionId, Daemon.cleared env,
    Daemon.cleared env, info, []⟩
  have quiet : Daemon.Quiet d (d.fetch env .manufacturer) := (Daemon.fetch_plain env .manufacturer d).quiet
  have length : (Daemon.cleared env).length = env.maxAppl + 1 := List.length_replicate
  have idle (op : Operation) (waits : (d.fetch env .manufacturer).control = .wait op) :
      op = .fetch .manufacturer := (Daemon.await_control waits).1
  refine ⟨⟨nofun, fun appl positive _ => ⟨fun id here => ?_, fun member => ?_⟩⟩,
    (congrArg List.length quiet.ltr).trans length, (congrArg List.length quiet.rtl).trans length, nofun,
    fun appl waits => ?_, fun appl waits => ?_⟩
  · exact List.eq_of_mem_replicate (quiet.ltr ▸ List.mem_of_getElem? here)
  · exact positive (List.eq_of_mem_replicate (quiet.rtl ▸ member))
  · cases idle _ waits
  · cases idle _ waits

end Tracked

namespace Tracked

def assigns (env : Environment) (t : Tracked) (r : Result) : Bool :=
  (t.daemon.incoming r).all (fun m => decide ((Commands typeRegisterApp m ∨ Commands typeReleaseApp m) →
      namedId m ≠ 0 ∧ (namedId m).toNat ≤ env.maxAppl)) &&
    (t.daemon.grants r).all fun remote => remote != 0 && t.live.all (·.2 != remote)

theorem assigns_of_true {env : Environment} {t : Tracked} (assigns : t.assigns env r = true) :
    t.Assigns env r := by
  simp only [Tracked.assigns, Bool.and_eq_true, Option.all_eq_true, decide_eq_true_eq, List.all_eq_true,
    bne_iff_ne] at assigns
  obtain ⟨messages, remote⟩ := assigns
  refine ⟨messages, fun id granted => ⟨(remote id granted).1, fun other member => ?_⟩⟩
  exact (remote id granted).2 (other, id) member rfl

end Tracked

/-- The daemon in session 3, before any application is registered. -/
def Tracked.sample : Tracked := ⟨.sample, 0, []⟩

/-- The module registers application 1, which the server numbers 5, and releases it. -/
def crossedIds : List Result := initialized ++ [
  .failed,
  .data (controlMessage 1 typeRegisterApp [1, 7, 1024])
    (by decide) (by decide),
  .data (grant .capiRegister 6 5 []) (by decide) (by decide),
  .failed,
  .data (controlMessage 1 typeReleaseApp []) (by decide) (by decide)]

theorem crossedIds_assigned :
    Throughout (fun before r => (Tracked.sample.run .sample before).Assigns .sample r) crossedIds := by
  have assigned : Throughout (fun before r =>
      (Tracked.sample.run .sample before).assigns .sample r = true) crossedIds := by decide +kernel
  exact assigned.imp fun _ _ => Tracked.assigns_of_true

end CapiProxy.LinuxClient
