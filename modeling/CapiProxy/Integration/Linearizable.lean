import CapiProxy.Integration.Concurrent
import CapiProxy.Win32Client.Provenance

/-! What the threads of a client find is what a CAPI that does one thing after the other has answered them
while they waited. A request stays with one thread from the function to the session and back, whether the
session answers it or a thread that waits for a signal. -/
namespace CapiProxy.Integration
open Bytes Rosters Traces Win32Client
open Win32Server (WaiterData)

namespace Concurrent

/-- The session has the request of the thread and has not asked for it yet. -/
def Awaits (s : Concurrent κ) (c : κ) (e : Entry) : Prop :=
  (∃ began, s.record.ongoing c = some ⟨e, began, none⟩) ∧ e.id ∈ s.threads.outstanding

/-- A call in progress: its request has the id that the thread holds, and an answer with this id tells the
application what the CAPI was asked. -/
structure Going (env : Win32Server.Environment) (s : Concurrent κ) (c : κ) (o : Ongoing Entry) : Prop where
  id : (s.threads.phase c).msgId = some o.call.id
  session : o.call.client.sessionId = env.session
  unsent : (∀ msgId, s.threads.phase c ≠ .waiting msgId) → o.point = none
  answer : ∀ msg ∈ s.threads.answered, msg.messageId = o.call.id → ∃ i event a, o.point = some i ∧
    s.history[i]? = some event ∧ o.call.command.Tells o.call.memory event a ∧ msg = .of a.frame

/-- The callers whose requests the session has not asked for yet. -/
def senders (s : Concurrent κ) : List κ := s.requests.map Prod.fst ++ s.waiters.map Prod.fst

/-- The requests on their way and the waits come from threads that await them, one from each. -/
structure Pends (s : Concurrent κ) : Prop where
  once : s.senders.Nodup
  queued : ∀ c frame, (c, frame) ∈ s.requests → ∃ e, s.Awaits c e ∧ frame = e.request.frame
  waiting : ∀ c w, (c, w) ∈ s.waiters →
    ∃ e, s.Awaits c e ∧ e.command = .function (.waitForSignal w.applID) ∧ w.messageId = e.id

/-- The threads, their calls and what the session has of them belong together. -/
structure Calls (env : Win32Server.Environment) (s : Concurrent κ) : Prop where
  idle : ∀ c, s.record.ongoing c = none → s.threads.phase c = .idle
  going : ∀ c o, s.record.ongoing c = some o → Going env s c o
  pends : Pends s

/-- What holds in every run: the threads, the calls and the history agree, and the CAPI was asked one thing
after the other. -/
structure Sound (env : Win32Server.Environment) (first : UInt32) (length : Nat) (s : Concurrent κ) :
    Prop where
  running : Running first s.threads
  linked : s.sessionId = env.session
  calls : Calls env s
  linearized : Linearized Told s.history s.record
  legal : Throughout (fun before e => length ≤ before.length → e.2 = env.capi before e.1) s.history

variable {env : Win32Server.Environment} {first : UInt32} {length : Nat} {s s' : Concurrent κ}

theorem Going.keep (going : Going env s c o) (phase : s'.threads.phase c = s.threads.phase c)
    (answered : ∀ msg ∈ s'.threads.answered, msg.messageId = o.call.id → msg ∈ s.threads.answered)
    (history : s.history <+: s'.history) : Going env s' c o where
  id := by rw [phase]; exact going.id
  session := going.session
  unsent := by rw [phase]; exact going.unsent
  answer msg member same := by
    obtain ⟨i, event, a, point, at', tells⟩ := going.answer msg (answered msg member same) same
    have inside := (List.getElem?_eq_some_iff.mp at').1
    obtain ⟨later, grown⟩ := history
    exact ⟨i, event, a, point, by rw [← grown, List.getElem?_append_left inside]; exact at', tells⟩

theorem Pends.keep (pends : Pends s) (requests : s'.requests.Sublist s.requests)
    (waiters : s'.waiters.Sublist s.waiters)
    (awaits : ∀ c ∈ s'.senders, ∀ e, s.Awaits c e → s'.Awaits c e) : Pends s' where
  once := pends.once.sublist ((requests.map _).append (waiters.map _))
  queued c frame member := by
    obtain ⟨e, awaited, same⟩ := pends.queued c frame (requests.subset member)
    exact ⟨e, awaits c (List.mem_append_left _ (List.mem_map_of_mem member)) e awaited, same⟩
  waiting c w member := by
    obtain ⟨e, awaited, same⟩ := pends.waiting c w (waiters.subset member)
    exact ⟨e, awaits c (List.mem_append_right _ (List.mem_map_of_mem member)) e awaited, same⟩

theorem Pends.awaits (pends : Pends s) (sender : c ∈ s.senders) : ∃ e, s.Awaits c e := by
  rcases List.mem_append.mp sender with queued | waits
  · obtain ⟨⟨_, frame⟩, member, rfl⟩ := List.mem_map.mp queued
    exact (pends.queued _ frame member).imp fun _ found => found.1
  · obtain ⟨⟨_, w⟩, member, rfl⟩ := List.mem_map.mp waits
    exact (pends.waiting _ w member).imp fun _ found => found.1

theorem Calls.change (calls : Calls env s) (changed : κ → Prop)
    (same : ∀ c, ¬ changed c → s'.threads.phase c = s.threads.phase c ∧ s'.record.ongoing c = s.record.ongoing c)
    (answered : ∀ msg ∈ s'.threads.answered, msg ∈ s.threads.answered ∨
      ∀ c, ¬ changed c → ∀ o, s.record.ongoing c = some o → msg.messageId ≠ o.call.id)
    (history : s.history <+: s'.history)
    (here : ∀ c, changed c → (s'.record.ongoing c = none → s'.threads.phase c = .idle) ∧
      ∀ o, s'.record.ongoing c = some o → Going env s' c o)
    (pends : Pends s') : Calls env s' where
  idle c none := by
    by_cases moved : changed c
    · exact (here c moved).1 none
    · obtain ⟨phase, ongoing⟩ := same c moved
      exact phase.trans (calls.idle c (ongoing.symm.trans none))
  going c o going := by
    by_cases moved : changed c
    · exact (here c moved).2 o going
    · obtain ⟨phase, ongoing⟩ := same c moved
      have before := ongoing.symm.trans going
      refine (calls.going c o before).keep phase (fun msg member id => ?_) history
      exact (answered msg member).resolve_right fun foreign => foreign c moved o before id
  pends := pends

namespace Sound

theorem quiet (sound : Sound env first length s) (idle : s.threads.phase c = .idle) :
    s.record.ongoing c = none := by
  refine Option.eq_none_iff_forall_ne_some.mpr fun o going => ?_
  have id := (sound.calls.going c o going).id
  rw [idle] at id
  cases id

theorem apart (sound : Sound env first length s) (going : s.record.ongoing c = some o)
    (going' : s.record.ongoing c' = some o') (same : o.call.id = o'.call.id) : c = c' := by
  have id := (sound.calls.going c o going).id
  rw [same] at id
  exact sound.running.apart id (sound.calls.going c' o' going').id

theorem waits (sound : Sound env first length s) (awaits : s.Awaits c e) :
    s.threads.phase c = .waiting e.id := by
  obtain ⟨⟨began, going⟩, outstanding⟩ := awaits
  exact sound.running.waits (sound.calls.going c _ going).id outstanding

theorem unsent (sound : Sound env first length s) (phase : ∀ msgId, s.threads.phase c ≠ .waiting msgId) :
    ∀ e, ¬ s.Awaits c e := fun e awaits => phase e.id (sound.waits awaits)

theorem start (r : Remote) (linked : r.Linked env) (answer : κ → Option Received) :
    Sound env r.client.msgId r.session.state.history.length (Concurrent.start r answer) where
  running := .start _ _
  linked := linked
  calls := ⟨fun _ _ => rfl, nofun, .nil, nofun, nofun⟩
  linearized := .start _
  legal := by
    rintro before e after split late
    have longer := congrArg List.length split
    simp only [history, Concurrent.start, List.length_append, List.length_cons] at longer
    omega

end Sound

section moves
variable [DecidableEq κ]

theorem dispatched_step {t t' : Threads κ} (went : dispatched t = some t') :
    Win32Client.Step t t' ∧ t'.phase = t.phase ∧ t'.outstanding = t.outstanding ∧ t'.answered = t.answered := by
  unfold dispatched at went
  split at went <;> first | cases went; done | obtain rfl := Option.some.inj went
  · next idle next => exact ⟨.receive idle next, rfl, rfl, rfl⟩
  · next received => exact ⟨.lookup received, rfl, rfl, rfl⟩
  · next found => exact ⟨.remove found, rfl, rfl, rfl⟩
  · next removed => exact ⟨.store _ removed, rfl, rfl, rfl⟩
  · next removed => exact ⟨.crash removed, rfl, rfl, rfl⟩

namespace Sound

theorem enter (sound : Sound env first length s) (idle : s.threads.phase c = .idle)
    (few : (s.threads.enter c).issued.length < 2 ^ 32) (command : Command) (memory : Memory) :
    Sound env first length { s with
      threads := s.threads.enter c
      record := s.record.begin s.history.length c ⟨command, memory, s.client⟩ } := by
  have running := sound.running.step (.enter c idle) few
  have quiet := sound.quiet idle
  have fresh : s.threads.msgId + 1 ∉ s.threads.issued := fun used =>
    (List.nodup_append.mp (running.numbered.nodup few)).2.2 _ used _ (List.mem_singleton_self _) rfl
  refine ⟨running, sound.linked, ?_, sound.linearized.begin quiet _, sound.legal⟩
  refine sound.calls.change (· = c) ?_ (fun msg answered => .inl answered) (List.prefix_refl _) ?_ ?_
  · exact fun c' other => ⟨Function.update_of_ne other _ _, Function.update_of_ne other _ _⟩
  · rintro c rfl
    simp only [Record.begin, Function.update_self]
    refine ⟨fun idle => (by cases idle), fun o going => ?_⟩
    obtain rfl := Option.some.inj going
    refine ⟨?_, sound.linked, fun _ => rfl, fun msg answered same => ?_⟩
    · simp only [Threads.enter, Function.update_self]
      rfl
    · have used := sound.running.kept.used msg answered
      rw [same] at used
      exact absurd used fresh
  · refine sound.calls.pends.keep (.refl _) (.refl _) fun c' _ e awaits => ⟨?_, awaits.2⟩
    obtain ⟨began, going⟩ := awaits.1
    refine ⟨began, (Function.update_of_ne ?_ _ _).trans going⟩
    rintro rfl
    cases quiet.symm.trans going

theorem add (sound : Sound env first length s) (entered : s.threads.phase c = .entered msgId)
    (few : (s.threads.add c msgId).issued.length < 2 ^ 32) :
    Sound env first length { s with threads := s.threads.add c msgId } := by
  refine ⟨sound.running.step (.add c entered) few, sound.linked, ?_, sound.linearized, sound.legal⟩
  refine sound.calls.change (· = c) ?_ (fun msg answered => .inl answered) (List.prefix_refl _) ?_ ?_
  · exact fun c' other => ⟨Function.update_of_ne other _ _, rfl⟩
  · rintro c rfl
    have phase : (s.threads.add c msgId).phase c = .listed msgId := Function.update_self _ _ _
    refine ⟨fun none => ?_, fun o going => ?_⟩
    · cases (sound.calls.idle c none).symm.trans entered
    · obtain ⟨id, session, unsent, answer⟩ := sound.calls.going c o going
      rw [entered] at id unsent
      exact ⟨by rw [phase]; exact id, session, fun _ => unsent nofun, answer⟩
  · exact sound.calls.pends.keep (.refl _) (.refl _) fun c' _ e awaits => awaits

theorem send (sound : Sound env first length s) (listed : s.threads.phase c = .listed msgId)
    (going : s.record.ongoing c = some o) (few : (s.threads.send c msgId).issued.length < 2 ^ 32) :
    Sound env first length { s with
      threads := s.threads.send c msgId
      requests := s.requests ++ [(c, o.call.request.frame)] } := by
  obtain ⟨id, session, unsent, answer⟩ := sound.calls.going c o going
  rw [listed] at id unsent
  have point := unsent nofun
  have silent := sound.unsent (c := c) (by rw [listed]; nofun)
  refine ⟨sound.running.step (.send c listed) few, sound.linked, ?_, sound.linearized, sound.legal⟩
  refine sound.calls.change (· = c) ?_ (fun msg answered => .inl answered) (List.prefix_refl _) ?_ ?_
  · exact fun c' other => ⟨Function.update_of_ne other _ _, rfl⟩
  · rintro c rfl
    have phase : (s.threads.send c msgId).phase c = .waiting msgId := Function.update_self _ _ _
    refine ⟨fun none => ?_, fun o' going' => ?_⟩
    · cases none.symm.trans going
    · obtain rfl := Option.some.inj (going.symm.trans going')
      exact ⟨by rw [phase]; exact id, session, fun waiting => absurd phase (waiting msgId), answer⟩
  · have awaits {c' : κ} {e : Entry} (before : s.Awaits c' e) :
        ({ s with threads := s.threads.send c msgId } : Concurrent κ).Awaits c' e :=
      ⟨before.1, List.mem_append_left _ before.2⟩
    refine ⟨?_, fun c' frame member => ?_, fun c' w member => ?_⟩
    · have absent : c ∉ s.senders := fun sender =>
        (sound.calls.pends.awaits sender).elim fun e awaited => silent e awaited
      rw [senders, List.map_append, List.append_assoc]
      exact List.perm_middle.nodup_iff.mpr (List.nodup_cons.mpr ⟨absent, sound.calls.pends.once⟩)
    · rcases List.mem_append.mp member with old | new
      · obtain ⟨e, before, same⟩ := sound.calls.pends.queued c' frame old
        exact ⟨e, awaits before, same⟩
      · obtain ⟨rfl, rfl⟩ := Prod.mk.inj (List.mem_singleton.mp new)
        refine ⟨o.call, ⟨⟨o.began, ?_⟩, ?_⟩, rfl⟩
        · rw [going, ← point]
        · exact List.mem_append_right _ (List.mem_singleton.mpr (Option.some.inj id).symm)
    · obtain ⟨e, before, same⟩ := sound.calls.pends.waiting c' w member
      exact ⟨e, awaits before, same⟩

theorem respond (sound : Sound env first length s) (few : s.threads.issued.length < 2 ^ 32)
    (awaits : s.Awaits c e) (id : a.head.messageId = e.id)
    (tells : e.command.Tells e.memory (asked, env.capi s.history asked) a) {session : Win32Server.Connection}
    (called : session.state.history = s.history ++ [(asked, env.capi s.history asked)])
    {requests : List (κ × List UInt8)} {waiters : List (κ × WaiterData)} (fewer : requests.Sublist s.requests)
    (fewer' : waiters.Sublist s.waiters) (taken : c ∉ requests.map Prod.fst ++ waiters.map Prod.fst) :
    Sound env first length
      (({ s with requests, session, waiters } : Concurrent κ).respond c a s.history.length) := by
  have waiting := sound.waits awaits
  obtain ⟨⟨began, going⟩, outstanding⟩ := awaits
  have named : (Received.of a.frame).messageId = e.id := by
    rw [Received.messageId, tells.composed.parse_received, id]
  have running := sound.running.step (.respond (.of a.frame) (by rw [named]; exact outstanding)) few
  refine ⟨running, sound.linked, ?_, ?_, ?_⟩
  · refine sound.calls.change (· = c) ?_ ?_ ⟨_, called.symm⟩ ?_ ?_
    · exact fun c' other => ⟨rfl, Function.update_of_ne other _ _⟩
    · intro msg member
      refine (List.mem_append.mp member).imp_right fun new c' other o going' same => other ?_
      rw [List.mem_singleton.mp new, named] at same
      exact (sound.apart going going' same).symm
    · rintro c rfl
      have took : (s.record.take s.history.length c).ongoing c = some ⟨e, began, some s.history.length⟩ := by
        simp only [Record.take, Function.update_self, going, Option.map_some]
      refine ⟨fun none => ?_, fun o going' => ?_⟩
      · cases none.symm.trans took
      · obtain rfl := Option.some.inj (took.symm.trans going')
        obtain ⟨id', session', -, answer⟩ := sound.calls.going c _ going
        refine ⟨id', session', fun silent => absurd waiting (silent _), fun msg member same => ?_⟩
        rcases List.mem_append.mp member with old | new
        · obtain ⟨i, event, b, point, -⟩ := answer msg old same
          cases point
        · refine ⟨_, _, a, rfl, ?_, tells, List.mem_singleton.mp new⟩
          show session.state.history[s.history.length]? = _
          rw [called]
          exact List.getElem?_concat_length
    · refine sound.calls.pends.keep fewer fewer' fun c' sender e' awaits => ?_
      have other : c' ≠ c := fun same => taken (same ▸ sender)
      obtain ⟨⟨began', going'⟩, outstanding'⟩ := awaits
      refine ⟨⟨began', (Function.update_of_ne other _ _).trans going'⟩, ?_⟩
      refine (List.mem_erase_of_ne fun same => other ?_).mpr outstanding'
      exact sound.apart going' going (same.trans named)
  · show Linearized Told session.state.history (s.record.take s.history.length c)
    rw [called]
    exact sound.linearized.take _ going
  · show Throughout _ session.state.history
    rw [called, throughout_append]
    exact ⟨sound.legal, fun _ => rfl⟩

omit [DecidableEq κ] in
theorem handOver (sound : Sound env first length s) (next : s.requests = (c, frame) :: later)
    (awaits : s.Awaits c e) (command : e.command = .function (.waitForSignal w.applID))
    (id : w.messageId = e.id) {session : Win32Server.Connection} (same : session.state.history = s.history) :
    Sound env first length { s with requests := later, session, waiters := s.waiters ++ [(c, w)] } := by
  refine ⟨sound.running, sound.linked, ?_, ?_, ?_⟩
  · refine sound.calls.change (fun _ => False) (fun _ _ => ⟨rfl, rfl⟩) (fun _ => .inl)
      (same ▸ List.prefix_refl _) nofun ⟨?_, fun c' frame' queued => ?_, fun c' w' member => ?_⟩
    · have once := sound.calls.pends.once
      simp only [senders, next, List.map_cons, List.map_append, List.map_nil, List.cons_append] at once ⊢
      rw [← List.append_assoc]
      exact (List.perm_append_singleton c _).nodup_iff.mpr once
    · exact sound.calls.pends.queued c' frame' (next ▸ List.mem_cons_of_mem _ queued)
    · rcases List.mem_append.mp member with old | new
      · exact sound.calls.pends.waiting c' w' old
      · obtain ⟨rfl, rfl⟩ := Prod.mk.inj (List.mem_singleton.mp new)
        exact ⟨e, awaits, command, id⟩
  · show Linearized Told session.state.history s.record
    rw [same]
    exact sound.linearized
  · show Throughout _ session.state.history
    rw [same]
    exact sound.legal

theorem serve (sound : Sound env first length s) (few : s'.threads.issued.length < 2 ^ 32)
    (passes : s.Passes env .serve) (made : s.step env .serve = some s') : Sound env first length s' := by
  simp only [step] at made
  cases next : s.requests with
  | nil => rw [next] at made; cases made
  | cons request later =>
    obtain ⟨c, frame⟩ := request
    obtain ⟨e, awaits, rfl⟩ := sound.calls.pends.queued c frame (next ▸ List.mem_cons_self)
    obtain ⟨began, going⟩ := awaits.1
    have passable := passes c _ later next _ going
    simp only [next] at made
    cases Command.handled (c := s.session) (sound.calls.going c _ going).session passable with
    | answers asked a alone answer id called tells =>
      simp only [Entry.request, alone, answer] at made
      obtain rfl := Option.some.inj made
      have once := sound.calls.pends.once
      rw [senders, next] at once
      exact sound.respond few awaits id tells called (next ▸ List.sublist_cons_self _ _) (.refl _)
        (List.nodup_cons.mp once).1
    | waits w started command id uncalled =>
      simp only [Entry.request, started] at made
      obtain rfl := Option.some.inj made
      exact sound.handOver next awaits command id uncalled

theorem wake {wait : Nat} (sound : Sound env first length s) (few : s'.threads.issued.length < 2 ^ 32)
    (made : s.step env (.wake wait stack) = some s') : Sound env first length s' := by
  simp only [step] at made
  cases found : s.waiters[wait]? with
  | none => rw [found] at made; cases made
  | some waiter =>
    obtain ⟨c, w⟩ := waiter
    simp only [found] at made
    obtain rfl := Option.some.inj made
    obtain ⟨e, awaits, command, id⟩ := sound.calls.pends.waiting c w (List.mem_of_getElem? found)
    obtain ⟨inside, here⟩ := List.getElem?_eq_some_iff.mp found
    refine sound.respond few awaits id ?_ rfl (.refl _) (List.eraseIdx_sublist _ _) ?_
    · rw [command]
      exact wait_tells e.memory stack w _
    · have rest := (List.getElem_cons_eraseIdx_perm inside).map Prod.fst
      rw [here, List.map_cons] at rest
      have all := (rest.append_left (s.requests.map Prod.fst)).nodup_iff.mpr sound.calls.pends.once
      exact (List.nodup_cons.mp (List.perm_middle.nodup_iff.mp all)).1

theorem dispatch (sound : Sound env first length s) (few : t.issued.length < 2 ^ 32)
    (dispatched : dispatched s.threads = some t) : Sound env first length { s with threads := t } := by
  obtain ⟨step, phase, outstanding, answered⟩ := dispatched_step dispatched
  refine ⟨sound.running.step step few, sound.linked, ?_, sound.linearized, sound.legal⟩
  refine sound.calls.change (fun _ => False) (fun c _ => ⟨congrFun phase c, rfl⟩)
    (fun msg member => .inl (answered ▸ member)) (List.prefix_refl _) nofun ?_
  refine sound.calls.pends.keep (.refl _) (.refl _) fun c _ e awaits => ⟨awaits.1, ?_⟩
  show e.id ∈ t.outstanding
  rw [outstanding]
  exact awaits.2

theorem leave (sound : Sound env first length s) (few : s'.threads.issued.length < 2 ^ 32)
    (passes : s.Passes env (.leave c surroundings)) (made : s.step env (.leave c surroundings) = some s') :
    Sound env first length s' := by
  simp only [step] at made
  split at made
  · next msgId msg o waiting set going =>
    obtain rfl := Option.some.inj made
    obtain ⟨stage, tracks⟩ := sound.running.tracked
    obtain ⟨-, named⟩ := tracks.set waiting set
    obtain ⟨id, session, -, answer⟩ := sound.calls.going c o going
    rw [waiting] at id
    have own := named.trans (Option.some.inj id)
    have answered := sound.running.kept.slots c msg (by rw [waiting]; nofun) set
    obtain ⟨i, event, a, point, at', tells, rfl⟩ := answer msg answered own
    have room : o.call.command.Receivable (Concurrent.answered surroundings (.of a.frame)) s.client event.2 :=
      passes o going i event point at'
    have concludes := tells.concludes _ s.client room ⟨rfl, rfl, tells.composed, tells.accepted, tells.code⟩
    have took : s.record.ongoing c = some ⟨o.call, o.began, some i⟩ := by rw [going, ← point]
    have silent : ∀ e, ¬ s.Awaits c e := fun e ⟨⟨began, awaited⟩, _⟩ => by cases took.symm.trans awaited
    refine ⟨sound.running.step (.leave c waiting set) few, sound.linked, ?_,
      sound.linearized.finish took at' ⟨tells.asks, concludes.gives⟩, sound.legal⟩
    refine sound.calls.change (· = c) ?_ (fun msg answered => .inl answered) (List.prefix_refl _) ?_ ?_
    · exact fun c' other => ⟨Function.update_of_ne other _ _, Function.update_of_ne other _ _⟩
    · rintro c rfl
      refine ⟨fun _ => Function.update_self _ _ _, fun o' going' => ?_⟩
      simp only [Record.finish, Function.update_self] at going'
      cases going'
    · refine sound.calls.pends.keep (.refl _) (.refl _) fun c' _ e awaits => ⟨?_, awaits.2⟩
      have other : c' ≠ c := fun same => silent e (same ▸ awaits)
      exact awaits.1.imp fun began going' => (Function.update_of_ne other _ _).trans going'
  · cases made

omit [DecidableEq κ] in
theorem other (sound : Sound env first length s) (call : CapiCall) :
    Sound env first length { s with
      session := { s.session with state := (s.session.state.call env call).2 }
      record := s.record.pass s.history.length } := by
  refine ⟨sound.running, sound.linked, ?_, sound.linearized.pass _, ?_⟩
  · refine sound.calls.change (fun _ => False) (fun _ _ => ⟨rfl, rfl⟩) (fun _ => .inl)
      (List.prefix_append _ _) nofun ?_
    exact sound.calls.pends.keep (.refl _) (.refl _) fun _ _ _ awaits => awaits
  · exact (throughout_append _ _ _).mpr ⟨sound.legal, fun _ => rfl⟩

theorem step (sound : Sound env first length s) (few : s'.threads.issued.length < 2 ^ 32)
    (step : s.Step env s') : Sound env first length s' := by
  obtain ⟨move, passes, made⟩ := step
  cases move with
  | enter c command memory =>
    simp only [Concurrent.step] at made
    split at made
    · next idle =>
      obtain rfl := Option.some.inj made
      exact sound.enter idle few command memory
    · cases made
  | add c =>
    simp only [Concurrent.step] at made
    split at made
    · next entered =>
      obtain rfl := Option.some.inj made
      exact sound.add entered few
    · cases made
  | send c =>
    simp only [Concurrent.step] at made
    split at made
    · next listed going =>
      obtain rfl := Option.some.inj made
      exact sound.send listed going few
    · cases made
  | serve => exact sound.serve few passes made
  | wake wait stack => exact sound.wake few made
  | dispatch =>
    obtain ⟨t, dispatched, rfl⟩ := Option.map_eq_some_iff.mp made
    exact sound.dispatch few dispatched
  | leave c surroundings => exact sound.leave few passes made
  | other call =>
    obtain rfl := Option.some.inj made
    exact sound.other call

end Sound

theorem Step.grows (step : Step env s s') : s.threads.issued.length ≤ s'.threads.issued.length := by
  obtain ⟨move, -, made⟩ := step
  cases move with
  | enter c command memory =>
    simp only [Concurrent.step] at made
    split at made
    · obtain rfl := Option.some.inj made
      simp [Threads.enter]
    · cases made
  | dispatch =>
    obtain ⟨t, dispatched, rfl⟩ := Option.map_eq_some_iff.mp made
    obtain ⟨step, -⟩ := dispatched_step dispatched
    exact step.issued_grows
  | _ =>
    simp only [Concurrent.step] at made
    repeat' split at made
    all_goals first
      | cases made; done
      | obtain rfl := Option.some.inj made; exact Nat.le_refl _

theorem Sound.run (r : Remote) (linked : r.Linked env) (answer : κ → Option Received)
    (run : Relation.ReflTransGen (Step env) (.start r answer) s) (few : s.threads.issued.length < 2 ^ 32) :
    Sound env r.client.msgId r.session.state.history.length s := by
  induction run with
  | refl => exact .start r linked answer
  | tail run step ih => exact (ih (Nat.lt_of_le_of_lt step.grows few)).step few step

end moves
end Concurrent

/-- The calls that need a thread of the session at most. -/
def Command.light : Command → Bool
  | .function (.register ..) | .function (.putMessage ..) | .function (.getMessage ..) => false
  | _ => true

/-- A move of two threads whose calls are light. -/
def Concurrent.lightStep (env : Win32Server.Environment) (s : Concurrent Bool) (move : Concurrent.Move Bool) :
    Option (Concurrent Bool) :=
  if ∀ c, (s.record.ongoing c).all fun o => o.call.command.light then s.step env move else none

theorem Concurrent.lightStep_step (threads : ∀ n, env.createThread n = true)
    (made : lightStep env s move = some s') : Step env s s' := by
  rw [lightStep, Option.ite_none_right_eq_some] at made
  refine .made move ?_ made.2
  have light (c : Bool) (o : Ongoing Entry) (going : s.record.ongoing c = some o) :
      o.call.command.light = true := by
    have all := made.1 c
    rwa [going] at all
  cases move with
  | serve =>
    intro c frame later _ o going
    have light := light c o going
    cases called : o.call.command with
    | getManufacturer => trivial
    | function f =>
      rw [called] at light
      cases f with
      | waitForSignal => exact threads _
      | register | putMessage | getMessage => cases light
      | _ => trivial
  | leave c surroundings =>
    intro o going i event _ _
    have light := light c o going
    cases called : o.call.command with
    | getManufacturer => trivial
    | function f =>
      rw [called] at light
      cases f with
      | getMessage => cases light
      | _ => trivial
  | _ => trivial

theorem Concurrent.lightStep_run (threads : ∀ n, env.createThread n = true)
    {moves : List (Concurrent.Move Bool)} (made : moves.foldlM (lightStep env) s = some s') :
    Relation.ReflTransGen (Step env) s s' := by
  induction moves generalizing s with
  | nil =>
    obtain rfl := Option.some.inj made
    exact .refl
  | cons move later ih =>
    rw [List.foldlM_cons] at made
    obtain ⟨t, first, rest⟩ := Option.bind_eq_some_iff.mp made
    exact .head (lightStep_step threads first) (ih rest)

/-- One thread waits for a signal; the other asks whether CAPI is there and gets its answer first. -/
def overtaking : List (Concurrent.Move Bool) :=
  [.enter false (.function (.waitForSignal 1)) zeros, .add false, .send false,
    .enter true (.function .installed) zeros, .add true, .send true, .serve, .serve,
    .dispatch, .dispatch, .dispatch, .dispatch, .leave true bareEnvironment, .other .installed,
    .wake 0 zeros, .dispatch, .dispatch, .dispatch, .dispatch, .leave false bareEnvironment]

end CapiProxy.Integration
