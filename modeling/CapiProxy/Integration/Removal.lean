import CapiProxy.Integration.Registering

/-! The end of a controller at the station: once kernelcapi has removed it, the daemon has one more message to
read, and leaves the module when it has read it. -/
namespace CapiProxy.Integration
open LinuxModule LinuxClient Traces Bytes

def shutdownMessage : Skb := controlMessage 0 typeShutdown []

theorem asked_shutdown {env : LinuxClient.Environment} (reads : env.ReadsChars) :
    asked env (zeros.write 0 shutdownMessage) = none := by
  rw [shutdownMessage, asked_control reads]
  rfl

namespace Station
variable {env : Setup} {s s' : Station}

/-- The node is opened once, when the data for the module have come, and it is closed by a daemon that is
down. -/
structure Opening (s : Station) : Prop where
  once : s.calls.count .openNode + s.isOpen.toNat + s.daemon.control.fetching.toNat ≤ 1
  closes : .closeNode ∈ s.calls → s.daemon.control = .down

theorem calm_opens {new : List LinuxClient.Event} (calm : ∀ e ∈ new, e.isCalm = true) :
    (new.flatMap nodeCalls).count .openNode = 0 := by
  refine List.count_eq_zero.mpr fun member => ?_
  obtain ⟨e, event, opens⟩ := List.mem_flatMap.mp member
  have here := calm e event
  cases e <;> simp_all [Event.isCalm, nodeCalls]

theorem turn_opens {d d' : Daemon} (turn : Daemon.Turn d d') :
    ((d'.log.drop d.log.length).flatMap nodeCalls).count .openNode + d'.control.fetching.toNat ≤
      d.control.fetching.toNat := by
  cases turn with
  | goes calm registering fetching =>
    obtain ⟨new, log, calm⟩ := calm
    rw [log, List.drop_left, calm_opens calm, Nat.zero_add]
    cases before : d'.control.fetching with
    | false => exact Nat.zero_le _
    | true => simp [fetching before]
  | collects mid info calm done fetching =>
    obtain ⟨new, log, calm⟩ := calm
    have whole : d'.log = d.log ++ (new ++ [.setData info]) := by
      rw [done, ← List.append_assoc, ← log]
      rfl
    have polls : d'.control = .poll := by rw [done]; rfl
    rw [whole, List.drop_left, List.flatMap_append, List.count_append, calm_opens calm, polls, fetching]
    exact Nat.le_refl 1
  | decides appl waits mid verdict calm decides log control =>
    obtain ⟨new, log', calm⟩ := calm
    rw [log, log', List.append_assoc, List.drop_left, List.flatMap_append, List.count_append, calm_opens calm, control]
    rcases decides with rfl | ⟨remote, rfl⟩ <;> exact Nat.zero_le _

theorem taken_opens {skb : Skb} {d d' : Daemon} (taken : Daemon.Taken env.daemon skb d d') :
    ((d'.log.drop d.log.length).flatMap nodeCalls).count .openNode = 0 ∧ d'.control.fetching = false := by
  cases taken with
  | sends op asks sent frame request passed log control =>
    rw [log, List.drop_left, control]
    constructor
    · cases sent <;> first | rfl | cases passed
    · cases op with
      | fetch =>
        rw [asked] at asks
        repeat' split at asks
        all_goals cases asks
      | register | release | put => rfl
  | fails op asks unsent log control =>
    rw [log, List.drop_left, control]
    exact ⟨by cases op <;> rfl, rfl⟩
  | ends asks shutdown log control | ignores asks other log control =>
    rw [log, List.drop_length, control]
    exact ⟨rfl, rfl⟩

theorem closes_after {card : Card} {daemon : Daemon} (member : .closeNode ∈ (s.after card daemon).calls) :
    daemon.control = .down := by
  rcases List.mem_append.mp member with event | last
  · obtain ⟨e, -, closes⟩ := List.mem_flatMap.mp event
    cases e <;> simp [nodeCalls] at closes
  · split at last
    · next down => exact down.1
    · cases last

theorem opens_after (card : Card) (daemon : Daemon) : (s.after card daemon).calls.count .openNode =
    ((daemon.log.drop s.daemon.log.length).flatMap nodeCalls).count .openNode := by
  rw [after, List.count_append]
  split <;> rfl

theorem Opening.moved (opening : s.Opening) (moved : Moved env s move s') : s'.Opening := by
  have once := opening.once
  cases moved with
  | calls call attached may => exact ⟨once, opening.closes⟩
  | performs memory call later first =>
    obtain ⟨daemon, calls, -⟩ := perform_card env { s with calls := later } memory call
    have opens : ({ s with calls := later }.perform env memory call).isOpen.toNat ≤
        s.isOpen.toNat + if call = .openNode then 1 else 0 := by
      cases call with
      | openNode => exact Nat.le_trans (Bool.toNat_le _) (Nat.le_add_left 1 _)
      | closeNode => exact Nat.zero_le _
      | setData | write | registered | regfail => exact Nat.le_add_right _ _
    refine ⟨?_, fun member => ?_⟩
    · have last : ({ s with calls := later }.perform env memory call).calls = later := calls
      have same : ({ s with calls := later }.perform env memory call).daemon = s.daemon := daemon
      rw [first, List.count_cons] at once
      rw [last, same]
      simp only [beq_iff_eq] at once
      omega
    · rw [calls] at member
      rw [daemon]
      exact opening.closes (first ▸ List.mem_cons_of_mem _ member)
  | takes r skb daemon idle opened reads copied taken =>
    obtain ⟨opens, fetching⟩ := taken_opens taken
    refine ⟨?_, closes_after⟩
    have few := s.isOpen.toNat_le
    have same : (s.after (s.card.read bufferSize 0).1 daemon).calls.count .openNode = 0 :=
      (opens_after _ _).trans opens
    have idle : (s.after (s.card.read bufferSize 0).1 daemon).daemon.control.fetching = false := fetching
    rw [same, idle]
    simpa [after] using few
  | turns r card daemon idle same turn =>
    have opens := turn_opens turn
    rw [← opens_after card daemon] at opens
    have fetched : (s.after card daemon).daemon.control = daemon.control := rfl
    have node : (s.after card daemon).isOpen = s.isOpen := rfl
    refine ⟨?_, closes_after⟩
    rw [fetched, node]
    omega

theorem start_opening (env : Setup) (sessionId msgid : UInt32) (sendbuffer recvbuffer : Memory)
    (info : InitData) :
    (start env sessionId msgid sendbuffer recvbuffer info).Opening where
  once := by simpa [start] using Bool.toNat_le _
  closes := nofun

theorem removeCtr_queue (env : LinuxModule.Environment) (c : Card) :
    (c.removeCtr env true).outgoingQueue = [shutdownMessage] := by
  have sent := Card.sendMessage_sent env shutdownMessage (((c.tell .suspendOutput).flushQueue).enter .removing)
  rw [Card.removeCtr, if_pos rfl]
  cases sent with
  | dropped refused told => rcases refused with free | full <;> contradiction
  | queued d running room told done =>
    have before : d.outgoingQueue = [] := told.queue
    rw [← shutdownMessage, done, Card.skbQueueTail, before]
    rfl

/-- A call of kernelcapi but a reset leaves the shutdown message at the head of the queue. -/
theorem queue_kept (env : LinuxModule.Environment) {c : Card} {call : Call} (may : fromKernelcapi call)
    (other : call ≠ .resetCtr) (queue : [shutdownMessage] <+: c.outgoingQueue) :
    [shutdownMessage] <+: (c.step env call).outgoingQueue := by
  cases call with
  | sendMessage | registerAppl | releaseAppl => exact queue.trans (Card.step_behind env c rfl)
  | removeCtr alloc =>
    cases alloc with
    | true => exact ⟨[], (removeCtr_queue env c).symm⟩
    | false => exact queue
  | resetCtr => exact absurd rfl other
  | openCard | release | read | write | ioctl => cases may

/-- The queue is not flushed but by another removal. -/
def withoutReset (s : Station) (move : StationMove) : Bool :=
  s.allowed move &&
    match move with
    | .kernelcapi .resetCtr => false
    | _ => true

/-- The station since a removal: the shutdown message is the next that the daemon reads, or it was the last. -/
inductive Leaving (reads : List Skb) (requests : List (List UInt8)) (s : Station) : Prop where
  | waits (opened : s.isOpen) (up : s.daemon.control ≠ .down) (unread : s.card.journal.fated .read = reads)
      (unsent : s.requests = requests) (queue : [shutdownMessage] <+: s.card.outgoingQueue)
  | leaves (down : s.daemon.control = .down) (read : s.card.journal.fated .read = reads ++ [shutdownMessage])
      (unsent : s.requests = requests)
      (calls : s.calls = [.closeNode] ∧ s.isOpen ∨ s.calls = [] ∧ s.isOpen = false ∧ s.card.status = .free)

theorem silent_reads (env : LinuxModule.Environment) {c : Card} {call : Call} (silent : c.returns call = none) :
    (c.step env call).journal.fated .read = c.journal.fated .read := by
  rw [Card.step_reads, silent, Option.toList_none, List.append_nil]

variable {taken : List Skb} {sent : List (List UInt8)}

theorem Leaving.waiting (reads : env.daemon.ReadsChars) (ordered : s.Ordered env) (opening : s.Opening)
    (may : s.withoutReset move) (moved : Moved env s move s') (opened : s.isOpen)
    (up : s.daemon.control ≠ .down)
    (unread : s.card.journal.fated .read = taken) (unsent : s.requests = sent)
    (queue : [shutdownMessage] <+: s.card.outgoingQueue) : s'.Leaving taken sent := by
  cases moved with
  | calls call attached kind =>
    have other : call ≠ .resetCtr := by
      rintro rfl
      simp [withoutReset] at may
    exact .waits opened up ((silent_reads env.module (fromKernelcapi_returns kind _)).trans unread) unsent
      (queue_kept env.module kind other queue)
  | performs memory call later first =>
    obtain ⟨daemon, -, card⟩ := perform_card env { s with calls := later } memory call
    have member : call ∈ s.calls := first ▸ List.mem_cons_self
    have notClose : call ≠ .closeNode := by
      rintro rfl
      exact up (opening.closes member)
    have notOpen : call ≠ .openNode := by
      rintro rfl
      have once := opening.once
      rw [first, List.count_cons_self, opened, Bool.toNat_true] at once
      omega
    have attached : ({ s with calls := later }.perform env memory call).isOpen := by
      cases call <;> first | exact opened | contradiction
    have keeps : (call.call env memory).keepsQueue := by cases call <;> first | rfl | contradiction
    have still : ({ s with calls := later }.perform env memory call).daemon.control ≠ .down := by rwa [daemon]
    refine .waits attached still ?_ ((congrArg (·.log.filterMap Event.passed) daemon).trans unsent) ?_
    · rcases card with same | step
      · rw [same]
        exact unread
      · rw [step]
        exact (silent_reads env.module (by cases call <;> rfl)).trans unread
    · rcases card with same | step
      · rw [same]
        exact queue
      · rw [step]
        exact queue.trans (Card.step_behind env.module s.card keeps)
  | takes r skb daemon idle opened' control copied took =>
    have first := (s.card.read_long bufferSize 0 ordered.long).1 skb copied
    obtain ⟨later, whole⟩ := queue
    rw [← whole] at first
    obtain rfl : shutdownMessage = skb := (List.cons.inj first).1
    have asks : asked env.daemon (s.daemon.recvbuffer.write 0 shutdownMessage) = none :=
      (asked_written reads _ (by decide)).trans (asked_shutdown reads)
    cases took with
    | sends op named => cases asks.symm.trans named
    | fails op named => cases asks.symm.trans named
    | ignores named other =>
      have fifth := s.daemon.recvbuffer.write_inside 0 shutdownMessage 5 (by decide)
      exact absurd fifth other
    | ends named shutdown log down =>
      have read := Card.step_reads env.module s.card (.read bufferSize 0)
      simp only [Card.returns, copied] at read
      have calls : (s.after (s.card.read bufferSize 0).1 daemon).calls = [.closeNode] := by
        have same : daemon.log = s.daemon.log := log
        rw [after, same, List.drop_length, if_pos ⟨down, up⟩]
        rfl
      refine .leaves down (read.trans (congrArg (· ++ _) unread)) ?_ (.inl ⟨calls, opened⟩)
      exact (congrArg (List.filterMap Event.passed) log).trans unsent
  | turns r card daemon idle same turn =>
    have kept : card.journal.fated .read = s.card.journal.fated .read ∧
        card.outgoingQueue = s.card.outgoingQueue := by
      rcases same with rfl | ⟨rfl, none⟩
      · exact ⟨rfl, rfl⟩
      · have silent : s.card.returns (.read bufferSize 0) = .none := by simp only [Card.returns]
        exact ⟨silent_reads env.module silent, (s.card.read_long bufferSize 0 ordered.long).2 none⟩
    have still : daemon.control ≠ .down := by
      cases turn with
      | goes calm registering fetching down => exact fun gone => up (down.mp gone)
      | collects mid info calm done fetching =>
        rw [done]
        exact fun gone => by cases gone
      | decides appl waits mid verdict calm decides log control =>
        rw [control]
        exact fun gone => by cases gone
    exact .waits opened still (kept.1.trans unread) (turn.passed.trans unsent) (kept.2 ▸ queue)

theorem Leaving.step (reads : env.daemon.ReadsChars) (ordered : s.Ordered env) (opening : s.Opening)
    (leaving : s.Leaving taken sent) (may : s.withoutReset move) (made : s.step env move = some s') :
    s'.Leaving taken sent := by
  have moved := moved ordered.fits (Bool.and_eq_true _ _ ▸ may).1 made
  cases leaving with
  | waits opened up unread unsent queue =>
    exact .waiting reads ordered opening may moved opened up unread unsent queue
  | leaves down read unsent calls =>
    cases moved with
    | calls call attached kind =>
      have here := calls.resolve_right fun closed => by simp [closed.2.1] at attached
      exact .leaves down ((silent_reads env.module (fromKernelcapi_returns kind _)).trans read) unsent
          (.inl here)
    | performs memory call later first =>
      rcases calls with ⟨closing, opened⟩ | ⟨none, -⟩
      · rw [closing] at first
        obtain ⟨rfl, rfl⟩ := List.cons.inj first
        have card : ({ s with calls := [] }.perform env memory .closeNode).card = s.card.release :=
          if_pos opened
        refine .leaves down ?_ unsent (.inr ⟨rfl, rfl, by rw [card]; rfl⟩)
        rw [card]
        exact (silent_reads env.module (rfl : s.card.returns .release = none)).trans read
      · cases none.symm.trans first
    | takes r skb daemon idle opened control => cases down.symm.trans control
    | turns r card daemon idle =>
      -- a daemon that is down stays as it is
      rcases calls with ⟨closing, -⟩ | closed
      · cases closing.symm.trans idle
      · have other : ¬ (s.daemon.control = .read ∧ s.isOpen) := by simp [down]
        have stays : s.daemon.step env.daemon r = s.daemon := by simp only [Daemon.step, down]
        simp only [Station.step, idle, ne_eq, not_true_eq_false, if_false, if_neg other, stays] at made
        rw [← Option.some.inj made]
        have calls : (s.after s.card s.daemon).calls = [] := by
          rw [after, List.drop_length, if_neg fun both => both.2 down]
          rfl
        exact .leaves down read unsent (.inr ⟨calls, closed.2⟩)

theorem read_first {c : Card} (books : c.Books) (queue : [shutdownMessage] <+: c.outgoingQueue) :
    (c.read bufferSize 0).2 = .copied shutdownMessage := by
  obtain ⟨later, whole⟩ := queue
  have pending : c.skPending ≠ 0 := by
    rw [books.pending, ← whole, List.length_append, List.length_singleton]
    omega
  rw [Card.read, ← whole, List.singleton_append, Card.readQueue, if_neg pending, if_neg (by decide),
    if_neg (by decide), if_neg (by decide)]

/-- Once kernelcapi has removed the controller, and as long as it does not reset it: the daemon sends no more
requests for messages of the module. Either it has read nothing since, and the next thing that it reads is the
shutdown message, on which it goes down; or it is down, having read that message and nothing else, and when it
has made its last call the node is closed and the card is free. -/
theorem removed_leaves (reads : env.daemon.ReadsChars) (sessionId msgid : UInt32)
    (sendbuffer recvbuffer : Memory)
    (info : InitData) (runs : Runs (step env) allowed (start env sessionId msgid sendbuffer recvbuffer info) s)
    (opened : s.isOpen) (up : s.daemon.control ≠ .down)
    (later : Runs (step env) withoutReset { s with card := s.card.removeCtr env.module true } s') :
    s'.requests = s.requests ∧
      (s'.daemon.control ≠ .down ∧ s'.card.journal.fated .read = s.card.journal.fated .read ∧
          (∀ r s'', s'.daemon.control = .read → s'.step env (.daemon r) = some s'' → s''.daemon.control = .down) ∨
        s'.daemon.control = .down ∧
          s'.card.journal.fated .read = s.card.journal.fated .read ++ [shutdownMessage] ∧
          (s'.calls = [] → s'.isOpen = false ∧ s'.card.status = .free)) := by
  have before := runs.invariant (P := fun s => s.Ordered env ∧ s.Opening)
    ⟨start_ordered env sessionId msgid sendbuffer recvbuffer info,
      start_opening env sessionId msgid sendbuffer recvbuffer info⟩ fun s _ s' both may made =>
      have moved := moved both.1.fits may made
      ⟨both.1.moved moved, both.2.moved moved⟩
  have removal : Moved env s (.kernelcapi (.removeCtr true))
      { s with card := s.card.removeCtr env.module true } :=
    .calls (.removeCtr true) opened rfl
  have removed : Leaving (s.card.journal.fated .read) s.requests
      { s with card := s.card.removeCtr env.module true } := by
    have silent : s.card.returns (.removeCtr true) = none := rfl
    exact .waits opened up (silent_reads env.module silent) rfl ⟨[], (removeCtr_queue env.module s.card).symm⟩
  have after := later.invariant
    (P := fun t => t.Ordered env ∧ t.Opening ∧ t.Leaving (s.card.journal.fated .read) s.requests)
    ⟨before.1.moved removal, before.2.moved removal, removed⟩ fun t _ t' all may made =>
      have moved := moved all.1.fits (Bool.and_eq_true _ _ ▸ may).1 made
      ⟨all.1.moved moved, all.2.1.moved moved, all.2.2.step reads all.1 all.2.1 may made⟩
  obtain ⟨ordered, opening, leaving⟩ := after
  cases leaving with
  | waits opened' up' unread unsent queue =>
    refine ⟨unsent, .inl ⟨up', unread, fun r s'' control made => ?_⟩⟩
    -- what comes from the server makes no difference while the daemon reads from the node
    have same : s'.step env (.daemon .failed) = s'.step env (.daemon r) := by
      simp only [Station.step, if_pos (And.intro control opened')]
    have next := Leaving.step reads ordered opening (.waits opened' up' unread unsent queue) rfl
        (same.trans made)
    cases next with
    | leaves down => exact down
    | waits _ _ unread' =>
      have card : s''.card = s'.card.step env.module (.read bufferSize 0) := by
        simp only [Station.step, if_pos (And.intro control opened')] at made
        split at made
        · cases made
        · rw [← Option.some.inj made]
          rfl
      have grows := Card.step_reads env.module s'.card (.read bufferSize 0)
      simp only [Card.returns, read_first ordered.books queue] at grows
      rw [← card, unread', unread] at grows
      simp at grows
  | leaves down read unsent calls =>
    refine ⟨unsent, .inr ⟨down, read, fun none => ?_⟩⟩
    rcases calls with ⟨closing, -⟩ | closed
    · cases closing.symm.trans none
    · exact closed.2

/-- The daemon waits no longer for its answer, reads the message and closes the node. -/
def closing : List StationMove := .daemon .failed :: polling ++ [.node none]

/-- The controller is removed while the daemon waits for the answer to the first message. -/
theorem closing_leaves : ∃ s s' : Station, s'.card.status = .free ∧ s'.requests = s.requests ∧
    (s'.daemon.control ≠ .down ∧ s'.card.journal.fated .read = s.card.journal.fated .read ∧
        (∀ r s'', s'.daemon.control = .read → s'.step sampleSetup (.daemon r) = some s'' →
          s''.daemon.control = .down) ∨
      s'.daemon.control = .down ∧
        s'.card.journal.fated .read = s.card.journal.fated .read ++ [shutdownMessage] ∧
        (s'.calls = [] → s'.isOpen = false ∧ s'.card.status = .free)) := by
  have opens : (firstMessage.foldlM (permitted (step sampleSetup) allowed)
      (start sampleSetup 3 0 zeros zeros ⟨[], [], [], []⟩)).map (fun s => (s.isOpen, s.daemon.control,
        (closing.foldlM (permitted (step sampleSetup) withoutReset)
          { s with card := s.card.removeCtr sampleSetup.module true }).map fun t => t.card.status)) =
      some (true, .wait .put, some .free) := by decide +kernel
  obtain ⟨s, made, same⟩ := Option.map_eq_some_iff.mp opens
  obtain ⟨opened, rest⟩ := Prod.mk.inj same
  obtain ⟨waits, ends⟩ := Prod.mk.inj rest
  obtain ⟨s', later, free⟩ := Option.map_eq_some_iff.mp ends
  exact ⟨s, s', free, removed_leaves ⟨fun _ _ => rfl, fun _ _ => rfl⟩ 3 0 _ _ _ (runs_of_moves made) opened
    (by simp [waits]) (runs_of_moves later)⟩

end Station
end CapiProxy.Integration
