import CapiProxy.Win32Client.Matching

/-! Where the answers of the client come from. Whatever the dispatcher has in its hands and whatever an
answer pointer is set to has been answered to a request that was issued. -/
namespace CapiProxy.Win32Client
variable {κ : Type}

def Phase.msgId : Phase → Option UInt32
  | .idle => none
  | .entered msgId | .listed msgId | .waiting msgId => some msgId

/-- What the client has of answers has been answered to one of its requests. -/
structure Kept (t : Threads κ) : Prop where
  used : ∀ msg ∈ t.answered, msg.messageId ∈ t.issued
  inbound : ∀ msg ∈ t.inbound, msg ∈ t.answered
  hand : ∀ msg, t.dispatcher.msg = some msg → msg ∈ t.answered
  slots : ∀ c msg, t.phase c ≠ .idle → t.answer c = some msg → msg ∈ t.answered

/-- The threads of the client in a run that began with this id. -/
structure Running (first : UInt32) (t : Threads κ) : Prop where
  numbered : Numbered first t
  tracked : ∃ stage, Tracks stage t
  kept : Kept t

variable {t t' : Threads κ}

theorem Running.start (first : UInt32) (answer : κ → Option Received) :
    Running first (Threads.start first answer) where
  numbered := ⟨(UInt32.add_zero first).symm, rfl⟩
  tracked := ⟨_, .start first answer⟩
  kept := ⟨nofun, nofun, nofun, fun _ _ active => absurd rfl active⟩

theorem issued_of_held {stage : κ → Stage} (tracks : Tracks stage t) (held : (stage c).msgId = some msgId) :
    msgId ∈ t.issued := by
  obtain ⟨live, enumerates, all⟩ := tracks.accounted.ids
  exact all.mem_iff.mp (List.mem_append_left _ ((enumerates.mem_iff msgId).mpr ⟨c, held⟩))

theorem stage_id {stage : κ → Stage} (tracks : Tracks stage t) (id : (t.phase c).msgId = some msgId) :
    (stage c).msgId = some msgId := by
  rw [tracks.phase] at id
  rw [← id]
  cases stage c <;> rfl

theorem Running.apart (running : Running first t) (id : (t.phase c).msgId = some msgId)
    (id' : (t.phase c').msgId = some msgId) : c = c' := by
  obtain ⟨stage, tracks⟩ := running.tracked
  exact tracks.unique (stage_id tracks id) (stage_id tracks id')

theorem Running.waits (running : Running first t) (id : (t.phase c).msgId = some msgId)
    (outstanding : msgId ∈ t.outstanding) : t.phase c = .waiting msgId := by
  obtain ⟨stage, tracks⟩ := running.tracked
  obtain ⟨c', asked⟩ := (tracks.outstanding.mem_iff msgId).mp outstanding
  have there := Stage.of_asked asked
  have held : (stage c').msgId = some msgId := by rw [there]; rfl
  obtain rfl := tracks.unique (stage_id tracks id) held
  rw [tracks.phase, there]
  rfl

variable [DecidableEq κ]

theorem Kept.go (kept : Kept t) (active : t.phase c ≠ .idle) (new : Phase) :
    ∀ c' msg, Function.update t.phase c new c' ≠ .idle → t.answer c' = some msg → msg ∈ t.answered := by
  intro c' msg active' set
  refine kept.slots c' msg ?_ set
  by_cases here : c' = c
  · exact here ▸ active
  · rwa [Function.update_of_ne here] at active'

theorem Kept.step {stage : κ → Stage} (tracks : Tracks stage t) (kept : Kept t)
    (step : Step t t') : Kept t' := by
  cases step with
  | enter c idle =>
    refine ⟨fun msg answered => List.mem_append_left _ (kept.used msg answered), kept.inbound, kept.hand, ?_⟩
    intro c' msg active set
    simp only [Threads.enter, Function.update_apply] at active set
    split at set
    · cases set
    · next other => exact kept.slots c' msg (by rwa [if_neg other] at active) set
  | add c entered => exact ⟨kept.used, kept.inbound, kept.hand, kept.go (by simp [entered]) _⟩
  | send c listed => exact ⟨kept.used, kept.inbound, kept.hand, kept.go (by simp [listed]) _⟩
  | respond msg asked =>
    have fresh : msg.messageId ∈ t.issued := by
      obtain ⟨c, holder⟩ := (tracks.outstanding.mem_iff _).mp asked
      have held : (stage c).msgId = some msg.messageId := by rw [Stage.of_asked holder]; rfl
      exact issued_of_held tracks held
    have before {msg' : Received} (answered : msg' ∈ t.answered) : msg' ∈ t.answered ++ [msg] :=
      List.mem_append_left _ answered
    refine ⟨fun msg' answered => ?_, fun msg' coming => ?_, fun msg' held => before (kept.hand msg' held),
      fun c' msg' active set => before (kept.slots c' msg' active set)⟩
    · rcases List.mem_append.mp answered with old | new
      · exact kept.used msg' old
      · exact List.mem_singleton.mp new ▸ fresh
    · rcases List.mem_append.mp coming with old | new
      · exact before (kept.inbound msg' old)
      · exact List.mem_append_right _ new
  | receive idle next =>
    refine ⟨kept.used, fun msg' coming => ?_, fun msg' held => ?_, kept.slots⟩
    · exact kept.inbound msg' (next ▸ List.mem_cons_of_mem _ coming)
    · obtain rfl := Option.some.inj held
      exact kept.inbound _ (next ▸ List.mem_cons_self)
  | lookup received => exact ⟨kept.used, kept.inbound, fun msg held => kept.hand msg (received ▸ held), kept.slots⟩
  | remove found => exact ⟨kept.used, kept.inbound, fun msg held => kept.hand msg (found ▸ held), kept.slots⟩
  | store c removed =>
    refine ⟨kept.used, kept.inbound, fun msg held => (by cases held), fun c' msg' active set => ?_⟩
    simp only [Threads.store, Function.update_apply] at set
    split at set
    · obtain rfl := Option.some.inj set
      exact kept.hand _ (by rw [removed]; rfl)
    · exact kept.slots c' msg' active set
  | crash removed => exact ⟨kept.used, kept.inbound, fun msg held => (by cases held), kept.slots⟩
  | leave c waiting set => exact ⟨kept.used, kept.inbound, kept.hand, kept.go (by simp [waiting]) _⟩

theorem Running.step (running : Running first t) (step : Step t t')
    (few : t'.issued.length < 2 ^ 32) : Running first t' := by
  obtain ⟨stage, tracks⟩ := running.tracked
  have numbered := running.numbered.step step
  exact ⟨numbered, tracks.step step (numbered.nodup few), running.kept.step tracks step⟩

end CapiProxy.Win32Client
