import CapiProxy.Rosters.Enumerates
import CapiProxy.Win32Client.Dispatch
import Mathlib.Data.List.Nodup
import Mathlib.Data.List.Perm.Basic
import Mathlib.Logic.Relation

/-! Answer matching. Every request a caller has going is at one stage of its way to the server
and back, and the list of pending requests, the wire and the hands of the dispatcher hold exactly
what these stages say. -/
namespace CapiProxy.Win32Client
open Rosters

/-- How far the request of a caller has come; once the server has answered, the answer itself
names the request. -/
inductive Stage where
  | idle
  | entered (msgId : UInt32)
  | listed (msgId : UInt32)
  | sent (msgId : UInt32)
  | answered (msg : Received)
  | received (msg : Received)
  | found (msg : Received)
  | removed (msg : Received)
  | stored (msg : Received)

namespace Stage

def msgId : Stage → Option UInt32
  | idle => none
  | entered msgId | listed msgId | sent msgId => some msgId
  | answered msg | received msg | found msg | removed msg | stored msg => some msg.messageId

/-- What the caller itself knows. -/
def phase : Stage → Phase
  | idle => .idle
  | entered msgId => .entered msgId
  | listed msgId => .listed msgId
  | sent msgId => .waiting msgId
  | answered msg | received msg | found msg | removed msg | stored msg => .waiting msg.messageId

def msg : Stage → Option Received
  | answered msg | received msg | found msg | removed msg | stored msg => some msg
  | _ => none

/-- What the caller's answer pointer is set to. -/
def slot : Stage → Option Received
  | stored msg => some msg
  | _ => none

def entry (c : κ) : Stage → Option (Pending κ)
  | listed msgId | sent msgId => some ⟨msgId, c⟩
  | answered msg | received msg | found msg => some ⟨msg.messageId, c⟩
  | _ => none

def asked : Stage → Option UInt32
  | sent msgId => some msgId
  | _ => none

def returning : Stage → Option Received
  | answered msg => some msg
  | _ => none

/-- The state of a dispatcher that has the answer for the caller `c` in its hands. -/
def hand (c : κ) : Stage → Option (Dispatcher κ)
  | received msg => some (.received msg)
  | found msg => some (.found msg (some c))
  | removed msg => some (.removed msg (some c))
  | _ => none

theorem of_entered {st : Stage} (h : st.phase = .entered n) : st = entered n := by
  cases st <;> cases h
  rfl

theorem of_listed {st : Stage} (h : st.phase = .listed n) : st = listed n := by
  cases st <;> cases h
  rfl

theorem of_idle {st : Stage} (h : st.phase = .idle) : st = idle := by
  cases st <;> cases h
  rfl

theorem of_asked {st : Stage} (h : st.asked = some n) : st = sent n := by
  cases st <;> cases h
  rfl

theorem of_returning {st : Stage} (h : st.returning = some a) : st = answered a := by
  cases st <;> cases h
  rfl

theorem of_slot {st : Stage} (h : st.slot = some a) : st = stored a := by
  cases st <;> cases h
  rfl

theorem of_received {st : Stage} (h : st.hand c = some (.received a)) : st = received a := by
  cases st <;> cases h
  rfl

theorem of_found {st : Stage} (h : st.hand c = some (.found a data)) :
    st = found a ∧ data = some c := by
  cases st <;> cases h
  exact ⟨rfl, rfl⟩

theorem of_removed {st : Stage} (h : st.hand c = some (.removed a data)) :
    st = removed a ∧ data = some c := by
  cases st <;> cases h
  exact ⟨rfl, rfl⟩

theorem not_crashed {st : Stage} : st.hand c ≠ some .crashed := by
  cases st <;> nofun

theorem entry_data {st : Stage} (h : st.entry c = some e) : e.data = c ∧ st.msgId = some e.msgId := by
  cases st <;> cases h
  all_goals exact ⟨rfl, rfl⟩

end Stage

def Dispatcher.toList : Dispatcher κ → List (Dispatcher κ)
  | .idle => []
  | d => [d]

theorem Dispatcher.of_mem {d d' : Dispatcher κ} (listed : d ∈ d'.toList) : d' = d := by
  cases d' with
  | idle => cases listed
  | _ => exact (List.mem_singleton.mp listed).symm

/-- The logs agree with the stages: every id handed out belongs to one caller or to a departed
one, and every answer is on its way or has left with its own request. -/
structure Accounted (stage : κ → Stage) (s : Threads κ) : Prop where
  ids : ∃ live, Enumerates live (fun _ => Stage.msgId) stage ∧
    (live ++ s.departed.map (·.msgId)).Perm s.issued
  kept : ∀ msg ∈ s.answered, (∃ c, (stage c).msg = some msg) ∨ ∃ d ∈ s.departed, d.answer = msg
  own : ∀ d ∈ s.departed, d.answer.messageId = d.msgId

/-- The threads are where the stages of the requests put them. -/
structure Tracks (stage : κ → Stage) (s : Threads κ) : Prop where
  phase : ∀ c, s.phase c = (stage c).phase
  answer : ∀ c, stage c ≠ .idle → s.answer c = (stage c).slot
  pending : Enumerates s.pending Stage.entry stage
  outstanding : Enumerates s.outstanding (fun _ => Stage.asked) stage
  inbound : Enumerates s.inbound (fun _ => Stage.returning) stage
  hand : Enumerates s.dispatcher.toList Stage.hand stage
  accounted : Accounted stage s

theorem Tracks.start (msgId : UInt32) (answer : κ → Option Received) :
    Tracks (fun _ => .idle) (Threads.start msgId answer) where
  phase _ := rfl
  answer _ active := absurd rfl active
  pending := .nothing fun _ => rfl
  outstanding := .nothing fun _ => rfl
  inbound := .nothing fun _ => rfl
  hand := .nothing fun _ => rfl
  accounted := {
    ids := ⟨[], .nothing fun _ => rfl, .refl _⟩
    kept := by intro msg none; cases none
    own := by intro d none; cases none }

theorem Tracks.unique (t : Tracks stage s) (first : (stage c).msgId = some n)
    (second : (stage c').msgId = some n) : c = c' := by
  obtain ⟨live, enumerates, -⟩ := t.accounted.ids
  exact enumerates.unique first second

theorem Tracks.listed_once {s : Threads κ} (t : Tracks stage s)
    (listed : (stage c).entry c = some ⟨n, c⟩) :
    getDataPtrFromMsgId n s.pending = some c ∧ ∃ before after,
      s.pending = before ++ ⟨n, c⟩ :: after ∧ removeFromHash n s.pending = before ++ after := by
  apply pending_once ((t.pending.mem_iff _).mpr ⟨c, listed⟩)
  intro e member same
  obtain ⟨c', entry⟩ := (t.pending.mem_iff e).mp member
  obtain ⟨data, msgId⟩ := Stage.entry_data entry
  obtain rfl := t.unique (msgId.trans (congrArg some same)) (Stage.entry_data listed).2
  exact Option.some.inj (entry.symm.trans listed)

theorem Tracks.holder (t : Tracks stage s) (busy : s.dispatcher = d) (active : d ≠ .idle) :
    ∃ c, (stage c).hand c = some d := by
  apply (t.hand.mem_iff d).mp
  rw [busy]
  cases d <;> first | exact absurd rfl active | exact List.mem_singleton.mpr rfl

variable [DecidableEq κ]

theorem phase_update {phase : κ → Phase} {stage : κ → Stage}
    (h : ∀ c, phase c = (stage c).phase) (c : κ) (new : Stage) (c' : κ) :
    Function.update phase c new.phase c' = (Function.update stage c new c').phase := by
  by_cases same : c' = c
  · subst same
    rw [Function.update_self, Function.update_self]
  · rw [Function.update_of_ne same, Function.update_of_ne same, h]

theorem phase_keep {phase : κ → Phase} {stage : κ → Stage} (h : ∀ c, phase c = (stage c).phase)
    (same : new.phase = (stage c).phase) (c' : κ) :
    phase c' = (Function.update stage c new c').phase := by
  rw [← phase_update h c new, same, ← h, Function.update_eq_self]

theorem answer_update {answer : κ → Option Received} {stage : κ → Stage}
    (h : ∀ c, stage c ≠ .idle → answer c = (stage c).slot) (c : κ) (new : Stage) (c' : κ)
    (active : Function.update stage c new c' ≠ .idle) :
    Function.update answer c new.slot c' = (Function.update stage c new c').slot := by
  by_cases same : c' = c
  · subst same
    rw [Function.update_self, Function.update_self]
  · rw [Function.update_of_ne same] at active ⊢
    rw [Function.update_of_ne same, h c' active]

theorem answer_keep {answer : κ → Option Received} {stage : κ → Stage}
    (h : ∀ c, stage c ≠ .idle → answer c = (stage c).slot)
    (same : new ≠ .idle → new.slot = answer c) (c' : κ)
    (active : Function.update stage c new c' ≠ .idle) :
    answer c' = (Function.update stage c new c').slot := by
  by_cases here : c' = c
  · subst here
    rw [Function.update_self] at active ⊢
    exact (same active).symm
  · rw [Function.update_of_ne here] at active ⊢
    exact h c' active

theorem Accounted.move {stage : κ → Stage} (h : Accounted stage s)
    (same : new.msgId = (stage c).msgId) (carries : ∀ msg, (stage c).msg = some msg → new.msg = some msg)
    (issued : s'.issued = s.issued) (answered : s'.answered = s.answered)
    (departed : s'.departed = s.departed) : Accounted (Function.update stage c new) s' := by
  obtain ⟨live, enumerates, all⟩ := h.ids
  refine ⟨⟨live, enumerates.keep same, by rw [departed, issued]; exact all⟩, ?_, ?_⟩
  · intro msg member
    rw [answered] at member
    rw [departed]
    refine (h.kept msg member).imp_left ?_
    rintro ⟨c', holder⟩
    refine ⟨c', ?_⟩
    by_cases here : c' = c
    · subst here
      rw [Function.update_self]
      exact carries msg holder
    · rw [Function.update_of_ne here]
      exact holder
  · rw [departed]
    exact h.own

namespace Tracks
variable {stage : κ → Stage}

theorem answer_move (t : Tracks stage s) (active : stage c ≠ .idle)
    (same : new.slot = (stage c).slot) (c' : κ) (active' : Function.update stage c new c' ≠ .idle) :
    s.answer c' = (Function.update stage c new c').slot :=
  answer_keep t.answer (fun _ => same.trans (t.answer c active).symm) c' active'

theorem enter (t : Tracks stage s) (idle : s.phase c = .idle) (fresh : s.msgId + 1 ∉ s.issued) :
    Tracks (Function.update stage c (.entered (s.msgId + 1))) (s.enter c) := by
  have here : stage c = .idle := Stage.of_idle ((t.phase c).symm.trans idle)
  obtain ⟨live, enumerates, all⟩ := t.accounted.ids
  have unused : s.msgId + 1 ∉ live := fun member =>
    fresh (all.mem_iff.mp (List.mem_append_left _ member))
  constructor
  · exact phase_update t.phase c (.entered (s.msgId + 1))
  · exact answer_update t.answer c (.entered (s.msgId + 1))
  · exact t.pending.keep (by rw [here]; rfl)
  · exact t.outstanding.keep (by rw [here]; rfl)
  · exact t.inbound.keep (by rw [here]; rfl)
  · exact t.hand.keep (by rw [here]; rfl)
  · refine ⟨⟨live ++ [s.msgId + 1], enumerates.insert (by rw [here]; rfl) rfl unused, ?_⟩, ?_,
      t.accounted.own⟩
    · rw [List.append_assoc]
      refine .trans (.append_left live List.perm_append_comm) ?_
      rw [← List.append_assoc]
      exact all.append_right _
    · intro msg member
      refine (t.accounted.kept msg member).imp_left ?_
      rintro ⟨c', holder⟩
      refine ⟨c', ?_⟩
      have other : c' ≠ c := by
        rintro rfl
        rw [here] at holder
        cases holder
      rw [Function.update_of_ne other]
      exact holder

theorem add (t : Tracks stage s) (entered : s.phase c = .entered n) :
    Tracks (Function.update stage c (.listed n)) (s.add c n) := by
  have here : stage c = .entered n := Stage.of_entered ((t.phase c).symm.trans entered)
  have unlisted : ⟨n, c⟩ ∉ s.pending := by
    intro member
    obtain ⟨c', entry⟩ := (t.pending.mem_iff _).mp member
    obtain rfl := (Stage.entry_data entry).1
    rw [here] at entry
    cases entry
  constructor
  · exact phase_update t.phase c (.listed n)
  · exact t.answer_move (by rw [here]; nofun) (by rw [here]; rfl)
  · exact t.pending.insert (by rw [here]; rfl) rfl unlisted
  · exact t.outstanding.keep (by rw [here]; rfl)
  · exact t.inbound.keep (by rw [here]; rfl)
  · exact t.hand.keep (by rw [here]; rfl)
  · exact t.accounted.move (by rw [here]; rfl) (by rw [here]; nofun) rfl rfl rfl

theorem send (t : Tracks stage s) (listed : s.phase c = .listed n) :
    Tracks (Function.update stage c (.sent n)) (s.send c n) := by
  have here : stage c = .listed n := Stage.of_listed ((t.phase c).symm.trans listed)
  have unasked : n ∉ s.outstanding := by
    intro member
    obtain ⟨c', asked⟩ := (t.outstanding.mem_iff n).mp member
    have there := Stage.of_asked asked
    have mine : (stage c).msgId = some n := by rw [here]; rfl
    have theirs : (stage c').msgId = some n := by rw [there]; rfl
    obtain rfl := t.unique mine theirs
    cases here.symm.trans there
  constructor
  · exact phase_update t.phase c (.sent n)
  · exact t.answer_move (by rw [here]; nofun) (by rw [here]; rfl)
  · exact t.pending.keep (by rw [here]; rfl)
  · exact t.outstanding.insert (by rw [here]; rfl) rfl unasked
  · exact t.inbound.keep (by rw [here]; rfl)
  · exact t.hand.keep (by rw [here]; rfl)
  · exact t.accounted.move (by rw [here]; rfl) (by rw [here]; nofun) rfl rfl rfl

theorem respond (t : Tracks stage s) (asked : msg.messageId ∈ s.outstanding) :
    ∃ c, Tracks (Function.update stage c (.answered msg)) (s.respond msg) := by
  obtain ⟨c, holder⟩ := (t.outstanding.mem_iff _).mp asked
  have here := Stage.of_asked holder
  have unanswered : msg ∉ s.inbound := by
    intro member
    obtain ⟨c', returning⟩ := (t.inbound.mem_iff msg).mp member
    have there := Stage.of_returning returning
    have mine : (stage c).msgId = some msg.messageId := by rw [here]; rfl
    have theirs : (stage c').msgId = some msg.messageId := by rw [there]; rfl
    obtain rfl := t.unique mine theirs
    cases here.symm.trans there
  obtain ⟨ids, kept, own⟩ : Accounted (Function.update stage c (.answered msg)) s :=
    t.accounted.move (by rw [here]; rfl) (by rw [here]; nofun) rfl rfl rfl
  refine ⟨c, ?_, ?_, ?_, ?_, ?_, ?_, ids, ?_, own⟩
  · exact phase_keep t.phase (by rw [here]; rfl)
  · exact t.answer_move (by rw [here]; nofun) (by rw [here]; rfl)
  · exact t.pending.keep (by rw [here]; rfl)
  · exact t.outstanding.remove holder rfl (List.perm_cons_erase asked)
  · exact t.inbound.insert (by rw [here]; rfl) rfl unanswered
  · exact t.hand.keep (by rw [here]; rfl)
  · intro msg' member
    rcases List.mem_append.mp member with before | now
    · exact kept msg' before
    · obtain rfl := List.mem_singleton.mp now
      exact .inl ⟨c, by rw [Function.update_self]; rfl⟩

theorem receive (t : Tracks stage s) (idle : s.dispatcher = .idle) (next : s.inbound = msg :: later) :
    ∃ c, Tracks (Function.update stage c (.received msg)) (s.receive msg later) := by
  obtain ⟨c, holder⟩ := (t.inbound.mem_iff msg).mp (next ▸ List.mem_cons_self)
  have here := Stage.of_returning holder
  have empty : s.dispatcher.toList = [] := by rw [idle]; rfl
  refine ⟨c, ?_, ?_, ?_, ?_, ?_, ?_, ?_⟩
  · exact phase_keep t.phase (by rw [here]; rfl)
  · exact t.answer_move (by rw [here]; nofun) (by rw [here]; rfl)
  · exact t.pending.keep (by rw [here]; rfl)
  · exact t.outstanding.keep (by rw [here]; rfl)
  · exact t.inbound.remove holder rfl (.of_eq next)
  · have idle : Stage.hand c (stage c) = none := by rw [here]; rfl
    have taken : Stage.hand c (.received msg) = some (.received msg) := rfl
    have inserted := t.hand.insert idle taken (by rw [empty]; exact List.not_mem_nil)
    rwa [empty] at inserted
  · exact t.accounted.move (by rw [here]; rfl) (by rw [here]; exact fun _ same => same) rfl rfl rfl

theorem handle (t : Tracks stage s) (busy : s.dispatcher.toList = [d])
    (holder : (stage c).hand c = some d) (went : new.hand c = some d')
    (next : d'.toList = [d']) :
    Enumerates d'.toList Stage.hand (Function.update stage c new) := by
  refine t.hand.change [] ?_ ?_ fun _ _ => List.not_mem_nil
  · show s.dispatcher.toList.Perm (((stage c).hand c).toList ++ [])
    rw [busy, holder]
    exact .refl _
  · show d'.toList.Perm ((new.hand c).toList ++ [])
    rw [next, went]
    exact .refl _

theorem lookup (t : Tracks stage s) (received : s.dispatcher = .received msg) :
    ∃ c, Tracks (Function.update stage c (.found msg)) (s.lookup msg) := by
  obtain ⟨c, hand⟩ := t.holder received nofun
  have here := Stage.of_received hand
  have entry : (stage c).entry c = some ⟨msg.messageId, c⟩ := by rw [here]; rfl
  obtain ⟨pointer, -⟩ := t.listed_once entry
  rw [Threads.lookup, pointer]
  refine ⟨c, ?_, ?_, ?_, ?_, ?_, ?_, ?_⟩
  · exact phase_keep t.phase (by rw [here]; rfl)
  · exact t.answer_move (by rw [here]; nofun) (by rw [here]; rfl)
  · exact t.pending.keep (by rw [here]; rfl)
  · exact t.outstanding.keep (by rw [here]; rfl)
  · exact t.inbound.keep (by rw [here]; rfl)
  · exact t.handle (by rw [received]; rfl) hand rfl rfl
  · exact t.accounted.move (by rw [here]; rfl) (by rw [here]; exact fun _ same => same) rfl rfl rfl

theorem remove (t : Tracks stage s) (found : s.dispatcher = .found msg data) :
    ∃ c, Tracks (Function.update stage c (.removed msg)) (s.remove msg data) := by
  obtain ⟨c, hand⟩ := t.holder found nofun
  obtain ⟨here, rfl⟩ := Stage.of_found hand
  have entry : (stage c).entry c = some ⟨msg.messageId, c⟩ := by rw [here]; rfl
  obtain ⟨-, before, after, split, removed⟩ := t.listed_once entry
  refine ⟨c, ?_, ?_, ?_, ?_, ?_, ?_, ?_⟩
  · exact phase_keep t.phase (by rw [here]; rfl)
  · exact t.answer_move (by rw [here]; nofun) (by rw [here]; rfl)
  · refine t.pending.remove entry rfl ?_
    rw [Threads.remove, removed, split]
    exact List.perm_middle
  · exact t.outstanding.keep (by rw [here]; rfl)
  · exact t.inbound.keep (by rw [here]; rfl)
  · exact t.handle (by rw [found]; rfl) hand rfl rfl
  · exact t.accounted.move (by rw [here]; rfl) (by rw [here]; exact fun _ same => same) rfl rfl rfl

theorem store (t : Tracks stage s) (removed : s.dispatcher = .removed msg (some c)) :
    Tracks (Function.update stage c (.stored msg)) (s.store msg c) := by
  obtain ⟨c', hand⟩ := t.holder removed nofun
  obtain ⟨here, same⟩ := Stage.of_removed hand
  obtain rfl := Option.some.inj same
  constructor
  · exact phase_keep t.phase (by rw [here]; rfl)
  · exact answer_update t.answer c (.stored msg)
  · exact t.pending.keep (by rw [here]; rfl)
  · exact t.outstanding.keep (by rw [here]; rfl)
  · exact t.inbound.keep (by rw [here]; rfl)
  · exact t.hand.remove hand rfl (by rw [removed]; exact .refl _)
  · exact t.accounted.move (by rw [here]; rfl) (by rw [here]; exact fun _ same => same) rfl rfl rfl

omit [DecidableEq κ] in
theorem set (t : Tracks stage s) (waiting : s.phase c = .waiting n) (set : s.answer c = some msg) :
    stage c = .stored msg ∧ msg.messageId = n := by
  rw [t.phase] at waiting
  have active : stage c ≠ .idle := by
    intro idle
    rw [idle] at waiting
    cases waiting
  rw [t.answer c active] at set
  have here := Stage.of_slot set
  rw [here] at waiting
  exact ⟨here, Phase.waiting.inj waiting⟩

theorem leave (t : Tracks stage s) (waiting : s.phase c = .waiting n)
    (set : s.answer c = some msg) : Tracks (Function.update stage c .idle) (s.leave c n msg) := by
  obtain ⟨here, same⟩ := t.set waiting set
  have mine : (stage c).msgId = some n := by rw [here, ← same]; rfl
  obtain ⟨live, enumerates, all⟩ := t.accounted.ids
  have member := (enumerates.mem_iff n).mpr ⟨c, mine⟩
  constructor
  · exact phase_update t.phase c .idle
  · exact answer_keep t.answer fun active => absurd rfl active
  · exact t.pending.keep (by rw [here]; rfl)
  · exact t.outstanding.keep (by rw [here]; rfl)
  · exact t.inbound.keep (by rw [here]; rfl)
  · exact t.hand.keep (by rw [here]; rfl)
  · refine ⟨⟨live.erase n, enumerates.remove mine rfl (List.perm_cons_erase member), ?_⟩, ?_, ?_⟩
    · refine .trans ?_ all
      rw [Threads.leave, List.map_append, ← List.append_assoc]
      refine .trans List.perm_append_comm ?_
      exact ((List.perm_cons_erase member).symm).append_right _
    · intro msg' logged
      rcases t.accounted.kept msg' logged with ⟨c', holder⟩ | ⟨d, left, answer⟩
      · by_cases other : c' = c
        · subst other
          rw [here] at holder
          obtain rfl := Option.some.inj holder
          exact .inr ⟨_, List.mem_append_right _ (List.mem_singleton_self _), rfl⟩
        · exact .inl ⟨c', by rw [Function.update_of_ne other]; exact holder⟩
      · exact .inr ⟨d, List.mem_append_left _ left, answer⟩
    · intro d left
      rcases List.mem_append.mp left with before | now
      · exact t.accounted.own d before
      · obtain rfl := List.mem_singleton.mp now
        exact same

/-- Every step of the threads moves one request to its next stage. -/
theorem step (t : Tracks stage s) (step : Step s s') (fresh : s'.issued.Nodup) :
    ∃ stage', Tracks stage' s' := by
  cases step with
  | enter c idle =>
    have unused := (List.nodup_append.mp fresh).2.2
    exact ⟨_, t.enter idle fun member => unused _ member _ (List.mem_singleton_self _) rfl⟩
  | add c entered => exact ⟨_, t.add entered⟩
  | send c listed => exact ⟨_, t.send listed⟩
  | respond msg asked =>
    obtain ⟨c, moved⟩ := t.respond asked
    exact ⟨_, moved⟩
  | receive idle next =>
    obtain ⟨c, moved⟩ := t.receive idle next
    exact ⟨_, moved⟩
  | lookup received =>
    obtain ⟨c, moved⟩ := t.lookup received
    exact ⟨_, moved⟩
  | remove found =>
    obtain ⟨c, moved⟩ := t.remove found
    exact ⟨_, moved⟩
  | store c removed => exact ⟨_, t.store removed⟩
  | crash removed =>
    obtain ⟨c, hand⟩ := t.holder removed nofun
    cases (Stage.of_removed hand).2
  | leave c waiting set => exact ⟨_, t.leave waiting set⟩

end Tracks

variable {s s' : Threads κ}

def Numbered (first : UInt32) (s : Threads κ) : Prop :=
  s.msgId = first + .ofNat s.issued.length ∧
    s.issued = (List.range s.issued.length).map fun i => first + .ofNat (i + 1)

theorem Numbered.step (numbered : Numbered first s) (step : Step s s') : Numbered first s' := by
  obtain ⟨last, all⟩ := numbered
  cases step with
  | enter c idle =>
    have next : s.msgId + 1 = first + .ofNat (s.issued.length + 1) := by
      rw [last, UInt32.ofNat_add, UInt32.add_assoc]
      rfl
    constructor
    · rw [Threads.enter, List.length_append]
      exact next
    · simp only [Threads.enter, List.length_append, List.length_singleton, List.range_succ,
        List.map_append, List.map_cons, List.map_nil]
      rw [← all, next]
  | _ => exact ⟨last, all⟩

omit [DecidableEq κ] in
theorem Numbered.nodup (numbered : Numbered first s) (few : s.issued.length < 2 ^ 32) :
    s.issued.Nodup := by
  rw [numbered.2]
  refine List.Nodup.map_on ?_ List.nodup_range
  intro i inside j inside' same
  rw [List.mem_range] at inside inside'
  have values := congrArg UInt32.toNat ((UInt32.add_right_inj first).mp same)
  rw [UInt32.toNat_ofNat', UInt32.toNat_ofNat', Nat.mod_eq_of_lt (by omega),
    Nat.mod_eq_of_lt (by omega)] at values
  exact Nat.succ.inj values

theorem Step.issued_grows (step : Step s s') : s.issued.length ≤ s'.issued.length := by
  cases step with
  | enter c idle => simp [Threads.enter]
  | _ => exact Nat.le_refl _

theorem reaches_tracks (run : Relation.ReflTransGen Step (Threads.start first answer) s)
    (few : s.issued.length < 2 ^ 32) : Numbered first s ∧ ∃ stage, Tracks stage s := by
  induction run with
  | refl => exact ⟨⟨(UInt32.add_zero first).symm, rfl⟩, _, .start first answer⟩
  | tail run step ih =>
    obtain ⟨numbered, stage, tracks⟩ := ih (Nat.lt_of_le_of_lt step.issued_grows few)
    have numbered' := numbered.step step
    exact ⟨numbered', tracks.step step (numbered'.nodup few)⟩

/-- The request `n` of the caller `c` has been given `msg`: the answer pointer is set, or the
caller has left with it. -/
def Threads.Given (s : Threads κ) (c : κ) (n : UInt32) (msg : Received) : Prop :=
  (s.phase c = .waiting n ∧ s.answer c = some msg) ∨ ⟨c, n, msg⟩ ∈ s.departed

def Dispatcher.msg : Dispatcher κ → Option Received
  | .received msg | .found msg _ | .removed msg _ => some msg
  | _ => none

/-- Every caller gets the answer to its own request and nobody else's; an answer is on the wire,
with its request still listed, in the hands of the dispatcher, or given; taking a request off
the list leaves the others as they were. -/
structure Matched (s : Threads κ) : Prop where
  own : ∀ c n msg, s.Given c n msg → msg.messageId = n
  once : ∀ c c' n n' msg, s.Given c n msg → s.Given c' n' msg → c = c' ∧ n = n'
  leaves_once : (s.departed.map (·.answer)).Nodup
  kept : ∀ msg ∈ s.answered,
    msg ∈ s.inbound ∨ s.dispatcher.msg = some msg ∨ ∃ c, s.Given c msg.messageId msg
  awaited : ∀ msg ∈ s.inbound, ∃ c, s.phase c = .waiting msg.messageId ∧ ⟨msg.messageId, c⟩ ∈ s.pending
  safe : s.dispatcher ≠ .crashed
  others : ∀ msg data, s.dispatcher = .found msg data → ∃ c before after,
    data = some c ∧ s.phase c = .waiting msg.messageId ∧
      s.pending = before ++ ⟨msg.messageId, c⟩ :: after ∧
      removeFromHash msg.messageId s.pending = before ++ after

namespace Tracks
omit [DecidableEq κ]
variable {stage : κ → Stage}

theorem given_own (t : Tracks stage s) (given : s.Given c n msg) : msg.messageId = n := by
  rcases given with ⟨waiting, set⟩ | left
  · exact (t.set waiting set).2
  · exact t.accounted.own _ left

theorem given_once (t : Tracks stage s) (nodup : s.issued.Nodup) (first : s.Given c n msg)
    (second : s.Given c' n msg') : c = c' := by
  obtain ⟨live, enumerates, all⟩ := t.accounted.ids
  obtain ⟨-, departed, apart⟩ := List.nodup_append.mp (all.nodup_iff.mpr nodup)
  have holds : ∀ {c msg}, s.phase c = .waiting n → s.answer c = some msg →
      (stage c).msgId = some n := by
    intro c msg waiting set
    obtain ⟨here, same⟩ := t.set waiting set
    rw [here, ← same]
    rfl
  have gone : ∀ {c msg}, ⟨c, n, msg⟩ ∈ s.departed → n ∉ live := fun left member =>
    apart n member n (List.mem_map_of_mem (f := Departure.msgId) left) rfl
  rcases first with ⟨waiting, set⟩ | left <;> rcases second with ⟨waiting', set'⟩ | left'
  · exact t.unique (holds waiting set) (holds waiting' set')
  · exact absurd ((enumerates.mem_iff n).mpr ⟨c, holds waiting set⟩) (gone left')
  · exact absurd ((enumerates.mem_iff n).mpr ⟨c', holds waiting' set'⟩) (gone left)
  · exact congrArg Departure.caller (List.inj_on_of_nodup_map departed left left' rfl)

theorem leaves_once (t : Tracks stage s) (nodup : s.issued.Nodup) :
    (s.departed.map (·.answer)).Nodup := by
  obtain ⟨live, -, all⟩ := t.accounted.ids
  obtain ⟨-, departed, -⟩ := List.nodup_append.mp (all.nodup_iff.mpr nodup)
  apply List.Nodup.of_map Received.messageId
  rw [List.map_map]
  have named : s.departed.map (Received.messageId ∘ (·.answer)) = s.departed.map (·.msgId) :=
    List.map_congr_left fun d left => t.accounted.own d left
  rw [named]
  exact departed

theorem kept (t : Tracks stage s) (answered : msg ∈ s.answered) :
    msg ∈ s.inbound ∨ s.dispatcher.msg = some msg ∨ ∃ c, s.Given c msg.messageId msg := by
  have busy : ∀ {c d}, (stage c).hand c = some d → s.dispatcher = d := by
    intro c d hand
    exact Dispatcher.of_mem ((t.hand.mem_iff d).mpr ⟨c, hand⟩)
  rcases t.accounted.kept msg answered with ⟨c, carried⟩ | ⟨d, left, rfl⟩
  · cases here : stage c <;> rw [here] at carried <;> cases carried
    · exact .inl ((t.inbound.mem_iff msg).mpr ⟨c, by rw [here]; rfl⟩)
    · exact .inr (.inl (by rw [busy (c := c) (by rw [here]; rfl)]; rfl))
    · exact .inr (.inl (by rw [busy (c := c) (by rw [here]; rfl)]; rfl))
    · exact .inr (.inl (by rw [busy (c := c) (by rw [here]; rfl)]; rfl))
    · refine .inr (.inr ⟨c, .inl ⟨?_, ?_⟩⟩)
      · rw [t.phase, here]
        rfl
      · rw [t.answer c (by rw [here]; nofun), here]
        rfl
  · exact .inr (.inr ⟨d.caller, .inr (by rw [t.accounted.own d left]; exact left)⟩)

end Tracks

/-- In every run with fewer than 2^32 requests the answers are matched. -/
theorem answers_matched (first : UInt32) (answer : κ → Option Received)
    (run : Relation.ReflTransGen Step (Threads.start first answer) s)
    (few : s.issued.length < 2 ^ 32) : Matched s := by
  obtain ⟨numbered, stage, t⟩ := reaches_tracks run few
  have nodup := numbered.nodup few
  constructor
  · intro c n msg given
    exact t.given_own given
  · intro c c' n n' msg given given'
    obtain rfl := (t.given_own given).symm.trans (t.given_own given')
    exact ⟨t.given_once nodup given given', rfl⟩
  · exact t.leaves_once nodup
  · intro msg answered
    exact t.kept answered
  · intro msg inbound
    obtain ⟨c, returning⟩ := (t.inbound.mem_iff msg).mp inbound
    have here := Stage.of_returning returning
    exact ⟨c, by rw [t.phase, here]; rfl, (t.pending.mem_iff _).mpr ⟨c, by rw [here]; rfl⟩⟩
  · intro crashed
    obtain ⟨c, hand⟩ := t.holder crashed nofun
    exact Stage.not_crashed hand
  · intro msg data found
    obtain ⟨c, hand⟩ := t.holder found nofun
    obtain ⟨here, same⟩ := Stage.of_found hand
    have entry : (stage c).entry c = some ⟨msg.messageId, c⟩ := by rw [here]; rfl
    obtain ⟨-, before, after, split, removed⟩ := t.listed_once entry
    exact ⟨c, before, after, same, by rw [t.phase, here]; rfl, split, removed⟩

def response : Received :=
  .of (AnswerHeader.bytes ⟨41, 40, 1, 0, 2, MessageType.capiInstalled.code, 1, 0x10000, 0, 0⟩ ++ [0])

/-- The second of two callers is answered first and leaves, while the first still waits. -/
theorem overtaking_matched : ∃ s : Threads Bool,
    Relation.ReflTransGen Step (Threads.start 0 fun _ => none) s ∧
    s.departed = [⟨true, 2, response⟩] ∧ s.pending = [⟨1, false⟩] ∧ Matched s := by
  have start : Relation.ReflTransGen Step (Threads.start 0 fun _ : Bool => none) _ := .refl
  have first := ((start.tail (.enter false rfl)).tail (.add false rfl)).tail (.send false rfl)
  have second := ((first.tail (.enter true rfl)).tail (.add true rfl)).tail (.send true rfl)
  have returned := (second.tail (.respond response (by decide))).tail (.receive rfl rfl)
  have handled := (returned.tail (.lookup rfl)).tail (.remove rfl)
  have found : _ = Dispatcher.removed response (some true) := rfl
  have left := (handled.tail (.store true found)).tail (.leave true rfl rfl)
  exact ⟨_, left, rfl, rfl, answers_matched 0 (fun _ => none) left (by decide)⟩

end CapiProxy.Win32Client
