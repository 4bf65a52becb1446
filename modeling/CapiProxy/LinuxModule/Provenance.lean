import CapiProxy.LinuxModule.Reuse

/-! Where the messages in the queue of a card come from, and the confirmed applications in its table: the
messages are those of applications, which have a command, and the control messages of the module; only a
verdict of the daemon confirms an application. -/
namespace CapiProxy.LinuxModule
open Bytes Queues

/-- A message that the daemon gets, of at most `limit` bytes; a register message is for an application that
kernelcapi asked for. -/
inductive Message (limit : Nat) (log : List Event) : Skb → Prop where
  | capi (long : 6 ≤ skb.length) (command : skb[4]? ≠ some typeProxy) (fits : skb.length ≤ limit) :
      Message limit log skb
  | register (appl : UInt16) (rp : RegisterParams) (asked : .asked appl ∈ log) :
      Message limit log (controlMessage appl typeRegisterApp [rp.level3cnt, rp.datablkcnt, rp.datablklen])
  | release (appl : UInt16) : Message limit log (controlMessage appl typeReleaseApp [])
  | shutdown : Message limit log (controlMessage 0 typeShutdown [])

theorem Message.mono (message : Message limit log skb) (new : List Event) : Message limit (log ++ new) skb := by
  cases message with
  | capi long command fits => exact .capi long command fits
  | register appl rp asked => exact .register appl rp (List.mem_append_left _ asked)
  | release appl => exact .release appl
  | shutdown => exact .shutdown

theorem Message.length (message : Message limit log skb) (room : 18 ≤ limit) :
    6 ≤ skb.length ∧ skb.length ≤ limit := by
  cases message with
  | capi long command fits => exact ⟨long, fits⟩
  | register | release | shutdown =>
    simp only [length_controlMessage, List.length_cons, List.length_nil]
    omega

/-- A message that an application sends. -/
def Call.isMessage (limit : Nat) : Call → Prop
  | .sendMessage skb => 6 ≤ skb.length ∧ skb[4]? ≠ some typeProxy ∧ skb.length ≤ limit
  | _ => True

def Call.keepsQueue : Call → Bool
  | .sendMessage _ | .registerAppl .. | .releaseAppl .. | .write .. | .ioctl .. => true
  | _ => false

namespace Card
variable {c c' : Card}

/-- All messages that were put in the queue are such. -/
def Posts (limit : Nat) (c : Card) : Prop := ∀ skb ∈ c.journal.accepted, Message limit c.log skb

theorem init_posts (limit : Nat) : init.Posts limit := nofun

theorem Posts.note (posts : c.Posts limit) (e : Event) : (c.note e).Posts limit :=
  fun skb member => (posts skb member).mono [e]

theorem Posts.told (posts : c.Posts limit) (told : Told c c') : c'.Posts limit := by
  obtain ⟨new, log, -⟩ := told.log
  intro skb member
  rw [told.journal] at member
  rw [log]
  exact (posts skb member).mono new

theorem Posts.sendMessage (posts : c.Posts limit) (env : Environment) {skb : Skb}
    (message : Message limit c.log skb) :
    (c.sendMessage env skb).Posts limit := by
  cases sendMessage_sent env skb c with
  | dropped refused told => exact posts.told told
  | queued d running room told done =>
    obtain ⟨new, log, -⟩ := told.log
    have kept := posts.told told
    rw [done]
    intro other member
    rcases List.mem_append.mp member with old | last
    · exact kept other old
    · rw [List.mem_singleton.mp last]
      exact log ▸ message.mono new

theorem Posts.readQueue (posts : c.Posts limit) (length left : Nat) (queue : List Skb) :
    (c.readQueue length left queue).1.Posts limit := by
  induction queue generalizing c with
  | nil =>
    rw [Card.readQueue]
    split
    · exact posts
    · exact posts.note _
  | cons skb queue ih =>
    rw [Card.readQueue]
    split
    · exact posts
    · split
      · exact posts
      · split
        · exact ih posts
        · split <;> exact posts

theorem Posts.registerAppl (posts : c.Posts limit) (env : Environment) (alloc : Bool) (appl : UInt16)
    (rp : RegisterParams) : (c.registerAppl env alloc appl rp).Posts limit := by
  have asked := posts.note (.asked appl)
  have register (rp : RegisterParams) : ((c.note (.asked appl)).registerInternal env alloc appl rp).Posts limit := by
    unfold registerInternal
    split
    · exact asked.sendMessage env (.register appl rp (List.mem_append_right _ (List.mem_singleton_self _)))
    · exact asked
  unfold Card.registerAppl
  dsimp only
  split
  · exact asked.note _
  · split
    · exact asked
    · exact (register _).note _

theorem Posts.releaseAppl (posts : c.Posts limit) (env : Environment) (alloc : Bool) (appl : UInt16) :
    (c.releaseAppl env alloc appl).Posts limit := by
  have release : (c.releaseInternal env alloc appl).Posts limit := by
    unfold releaseInternal
    split
    · exact posts.sendMessage env (.release appl)
    · exact posts
  unfold Card.releaseAppl
  split
  · exact posts.note _
  · exact release.note _

theorem Posts.step (posts : c.Posts limit) (env : Environment) {call : Call} (message : call.isMessage limit) :
    (c.step env call).Posts limit := by
  cases call with
  | sendMessage skb => exact posts.sendMessage env (.capi message.1 message.2.1 message.2.2)
  | registerAppl alloc appl rp => exact posts.registerAppl env alloc appl rp
  | releaseAppl alloc appl => exact posts.releaseAppl env alloc appl
  | resetCtr => exact posts.note _
  | removeCtr alloc =>
    unfold Card.step Card.removeCtr
    dsimp only
    split
    · exact Posts.sendMessage (c := ((c.tell .suspendOutput).flushQueue).enter .removing)
        (posts.note _) env .shutdown
    · exact posts
  | openCard =>
    unfold Card.step Card.openCard
    dsimp only
    split
    · exact posts.note _
    · exact posts
  | release => exact (posts.note (.told .suspendOutput)).note _
  | read length left => exact posts.readQueue length left c.outgoingQueue
  | write memory buffer cnr => exact posts.told (write_told env memory buffer cnr c)
  | ioctl num param user =>
    unfold Card.step Card.ioctl
    dsimp only
    split
    · split
      · exact posts
      · exact posts.note _
    · split
      · exact posts.note _
      · split
        · exact posts.note _
        · exact posts

/-- Whatever is confirmed, and kernelcapi was told so, has this property. -/
def Confirms (Q : UInt16 → Prop) (c : Card) : Prop :=
  ∀ x, .told (.applRegistered x) ∈ c.log ∨ c.applications x = .confirmed → Q x

variable {Q : UInt16 → Prop}

theorem init_confirms (Q : UInt16 → Prop) : init.Confirms Q := by
  rintro x (told | confirmed)
  · cases told
  · cases confirmed

theorem Confirms.note (confirms : c.Confirms Q) (e : Event) (other : ∀ x, e = .told (.applRegistered x) → Q x) :
    (c.note e).Confirms Q := by
  rintro x (told | confirmed)
  · rcases List.mem_append.mp told with old | last
    · exact confirms x (.inl old)
    · exact other x (List.mem_singleton.mp last).symm
  · exact confirms x (.inr confirmed)

theorem Confirms.mark (confirms : c.Confirms Q) (state : Appl) (appl : UInt16)
    (other : state = .confirmed → Q appl) :
    (c.applMark state appl).Confirms Q := by
  rintro x (told | confirmed)
  · exact confirms x (.inl told)
  · have marked : Function.update c.applications appl state x = .confirmed := confirmed
    by_cases own : x = appl
    · subst own
      rw [Function.update_self] at marked
      exact other marked
    · rw [Function.update_of_ne own] at marked
      exact confirms x (.inr marked)

theorem Confirms.told (confirms : c.Confirms Q) (told : Told c c') : c'.Confirms Q := by
  obtain ⟨new, log, plain⟩ := told.log
  rintro x (registered | confirmed)
  · rw [log] at registered
    rcases List.mem_append.mp registered with old | last
    · exact confirms x (.inl old)
    · cases plain _ last
  · exact confirms x (.inr (told.applications ▸ confirmed))

theorem Confirms.sendMessage (confirms : c.Confirms Q) (env : Environment) (skb : Skb) :
    (c.sendMessage env skb).Confirms Q := by
  cases sendMessage_sent env skb c with
  | dropped refused told => exact confirms.told told
  | queued d running room told done =>
    rw [done]
    have kept : d.Confirms Q := confirms.told told
    exact kept

theorem Confirms.readQueue (confirms : c.Confirms Q) (length left : Nat) (queue : List Skb) :
    (c.readQueue length left queue).1.Confirms Q := by
  induction queue generalizing c with
  | nil =>
    rw [Card.readQueue]
    split
    · exact confirms
    · exact confirms.note _ fun x same => by cases same
  | cons skb queue ih =>
    rw [Card.readQueue]
    split
    · exact confirms
    · split
      · exact confirms
      · split
        · exact ih confirms
        · split <;> exact confirms

theorem Confirms.registerAppl (confirms : c.Confirms Q) (env : Environment) (alloc : Bool) (appl : UInt16)
    (rp : RegisterParams) : (c.registerAppl env alloc appl rp).Confirms Q := by
  have asked := confirms.note (.asked appl) nofun
  have register (rp : RegisterParams) :
      ((c.note (.asked appl)).registerInternal env alloc appl rp).Confirms Q := by
    unfold registerInternal
    split
    · exact asked.sendMessage env _
    · exact asked
  unfold Card.registerAppl
  dsimp only
  split
  · exact asked.note _ nofun
  · split
    · exact asked
    · exact ((register _).mark .waiting appl nofun).note _ nofun

theorem Confirms.releaseAppl (confirms : c.Confirms Q) (env : Environment) (alloc : Bool) (appl : UInt16) :
    (c.releaseAppl env alloc appl).Confirms Q := by
  have release : (c.releaseInternal env alloc appl).Confirms Q := by
    unfold releaseInternal
    split
    · exact confirms.sendMessage env _
    · exact confirms
  unfold Card.releaseAppl
  split
  · exact confirms.note _ nofun
  · exact (release.mark .free appl nofun).note _ nofun

theorem Confirms.initAppls (confirms : c.Confirms Q) (env : Environment) : (c.initAppls env).Confirms Q := by
  rintro x (told | confirmed)
  · exact confirms x (.inl told)
  · simp only [Card.initAppls] at confirmed
    split at confirmed
    · cases confirmed
    · exact confirms x (.inr confirmed)

theorem Confirms.step (confirms : c.Confirms Q) (env : Environment) {call : Call}
    (verdict : ∀ param user, call = .ioctl ioctlApplRegistered param user → Q param.toUInt16) :
    (c.step env call).Confirms Q := by
  cases call with
  | sendMessage skb => exact confirms.sendMessage env skb
  | registerAppl alloc appl rp => exact confirms.registerAppl env alloc appl rp
  | releaseAppl alloc appl => exact confirms.releaseAppl env alloc appl
  | resetCtr => exact confirms.note _ nofun
  | removeCtr alloc =>
    unfold Card.step Card.removeCtr
    dsimp only
    split
    · exact Confirms.sendMessage (c := ((c.tell .suspendOutput).flushQueue).enter .removing)
        (confirms.note _ nofun) env _
    · exact confirms
  | openCard =>
    unfold Card.step Card.openCard
    dsimp only
    split
    · exact (confirms.initAppls env).note _ nofun
    · exact confirms
  | release => exact (confirms.note (.told .suspendOutput) nofun).note _ nofun
  | read length left => exact confirms.readQueue length left c.outgoingQueue
  | write memory buffer cnr => exact confirms.told (write_told env memory buffer cnr c)
  | ioctl num param user =>
    unfold Card.step Card.ioctl
    dsimp only
    split
    · split
      · exact confirms
      · exact confirms.note _ nofun
    · split
      · exact (confirms.mark .revoked _ nofun).note _ nofun
      · split
        · next registered =>
          subst registered
          have own := verdict param user rfl
          refine Confirms.mark (confirms.note _ ?_) .confirmed _ fun _ => own
          rintro x same
          cases same
          exact own
        · exact confirms

theorem sendMessage_behind (env : Environment) (skb : Skb) (c : Card) :
    c.outgoingQueue <+: (c.sendMessage env skb).outgoingQueue := by
  cases sendMessage_sent env skb c with
  | dropped refused told => exact told.queue ▸ List.prefix_refl _
  | queued d running room told done =>
    rw [done, ← told.queue]
    exact List.prefix_append _ _

theorem step_behind (env : Environment) (c : Card) {call : Call} (keeps : call.keepsQueue) :
    c.outgoingQueue <+: (c.step env call).outgoingQueue := by
  cases call with
  | sendMessage skb => exact sendMessage_behind env skb c
  | registerAppl alloc appl rp =>
    unfold Card.step Card.registerAppl registerInternal
    dsimp only
    split
    · exact List.prefix_refl _
    · split
      · exact List.prefix_refl _
      · split
        · exact sendMessage_behind env _ (c.note (.asked appl))
        · exact List.prefix_refl _
  | releaseAppl alloc appl =>
    simp only [Card.step, Card.releaseAppl, releaseInternal]
    split
    · exact List.prefix_refl _
    · split
      · exact sendMessage_behind env _ c
      · exact List.prefix_refl _
  | write memory buffer cnr => exact (write_told env memory buffer cnr c).queue ▸ List.prefix_refl _
  | ioctl num param user =>
    unfold Card.step Card.ioctl
    dsimp only
    repeat' split
    all_goals exact List.prefix_refl _
  | resetCtr | removeCtr | openCard | release | read => cases keeps

theorem read_long (c : Card) (length left : Nat) (long : ∀ skb ∈ c.outgoingQueue, 6 ≤ skb.length) :
    (∀ skb, (c.read length left).2 = .copied skb → c.outgoingQueue = skb :: (c.read length left).1.outgoingQueue) ∧
      ((∀ skb, (c.read length left).2 ≠ .copied skb) → (c.read length left).1.outgoingQueue = c.outgoingQueue) := by
  unfold read
  cases queue : c.outgoingQueue with
  | nil =>
    rw [readQueue]
    split <;> exact ⟨fun skb copied => (by cases copied), fun _ => queue⟩
  | cons first later =>
    rw [queue] at long
    have whole := long first List.mem_cons_self
    rw [readQueue]
    split
    · exact ⟨fun skb copied => (by cases copied), fun _ => queue⟩
    · split
      · exact ⟨fun skb copied => (by cases copied), fun _ => queue⟩
      · split
        · omega
        · split
          · exact ⟨fun skb copied => (by cases copied), fun _ => queue⟩
          · refine ⟨fun skb copied => ?_, fun other => absurd rfl (other first)⟩
            cases copied
            rfl

end Card
end CapiProxy.LinuxModule
