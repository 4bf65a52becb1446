import CapiProxy.Rosters.Enumerates
import Mathlib.Data.List.Range

/-! Calls that overlap, on an object that does one thing after the other. A call takes effect at one point
of the object's history, and the point lies between the beginning and the end of the call. -/
namespace Traces
open Rosters
variable {κ α β ε : Type}

/-- A call in progress: how long the history was when it began, and where it took effect if it has. -/
structure Ongoing (α : Type) where
  call : α
  began : Nat
  point : Option Nat

/-- A call that has ended with a result. -/
structure Ended (κ α β : Type) extends Ongoing α where
  caller : κ
  ended : Nat
  result : β

/-- What is noted of the calls of all callers, and the points of the history that are nobody's. -/
structure Record (κ α β : Type) where
  ongoing : κ → Option (Ongoing α)
  ended : List (Ended κ α β)
  foreign : List Nat

namespace Record
variable [DecidableEq κ]

/-- No call has begun yet, and the history is as long as this. -/
def start (length : Nat) : Record κ α β := ⟨fun _ => none, [], List.range length⟩

def begin (r : Record κ α β) (length : Nat) (c : κ) (call : α) : Record κ α β :=
  { r with ongoing := Function.update r.ongoing c (some ⟨call, length, none⟩) }

def take (r : Record κ α β) (length : Nat) (c : κ) : Record κ α β :=
  { r with ongoing := Function.update r.ongoing c ((r.ongoing c).map fun o => { o with point := some length }) }

/-- The next event is nobody's. -/
def pass (r : Record κ α β) (length : Nat) : Record κ α β := { r with foreign := r.foreign ++ [length] }

def finish (r : Record κ α β) (length : Nat) (c : κ) (result : β) : Record κ α β where
  ongoing := Function.update r.ongoing c none
  ended := r.ended ++ ((r.ongoing c).map fun o => { o with caller := c, ended := length, result }).toList
  foreign := r.foreign

end Record

/-- The call took effect between its beginning and its end, with an event that explains the result. -/
structure Ended.Explained (explains : α → ε → β → Prop) (history : List ε) (e : Ended κ α β) (i : Nat) :
    Prop where
  point : e.point = some i
  began : e.began ≤ i
  ended : i < e.ended
  event : ∃ event, history[i]? = some event ∧ explains e.call event e.result

/-- The history has one event for each call that took effect and for nobody else's call, and explains the
results in an order that agrees with the time of the calls; a caller makes one call after the other. -/
structure Linearized (explains : α → ε → β → Prop) (history : List ε) (r : Record κ α β) : Prop where
  points : ∃ taken, Enumerates taken (fun _ o => o.bind Ongoing.point) r.ongoing ∧
    (r.foreign ++ taken ++ r.ended.filterMap (·.point)).Perm (List.range history.length)
  explained : ∀ e ∈ r.ended, ∃ i, e.Explained explains history i
  past : ∀ e ∈ r.ended, e.ended ≤ history.length
  ordered : r.ended.Pairwise fun e e' => e.caller = e'.caller → e.ended ≤ e'.began
  waits : ∀ c o, r.ongoing c = some o → o.began ≤ history.length ∧ (∀ i ∈ o.point, o.began ≤ i) ∧
    ∀ e ∈ r.ended, e.caller = c → e.ended ≤ o.began

namespace Linearized
variable {explains : α → ε → β → Prop} {history : List ε} {r : Record κ α β}

/-- A call that ended before another began took effect before it. -/
theorem realTime (l : Linearized explains history r) (first : e ∈ r.ended) (second : e' ∈ r.ended)
    (before : e.ended ≤ e'.began) (point : e.point = some i) (point' : e'.point = some i') : i < i' := by
  obtain ⟨j, explained⟩ := l.explained e first
  obtain ⟨j', explained'⟩ := l.explained e' second
  obtain rfl := Option.some.inj (point.symm.trans explained.point)
  obtain rfl := Option.some.inj (point'.symm.trans explained'.point)
  exact Nat.lt_of_lt_of_le explained.ended (Nat.le_trans before explained'.began)

theorem taken_lt (l : Linearized explains history r) (going : r.ongoing c = some o)
    (point : o.point = some i) :
    i < history.length := by
  obtain ⟨taken, enumerates, all⟩ := l.points
  have carried : (r.ongoing c).bind Ongoing.point = some i := by rw [going]; exact point
  have listed := (enumerates.mem_iff i).mpr ⟨c, carried⟩
  exact List.mem_range.mp (all.mem_iff.mp (by simp [listed]))

theorem start (history : List ε) :
    Linearized explains history (Record.start history.length : Record κ α β) where
  points := ⟨[], .nothing fun _ => rfl, by simp [Record.start]⟩
  explained := nofun
  past := nofun
  ordered := .nil
  waits := nofun

theorem grow (l : Linearized explains history r) (event : ε) {r' : Record κ α β} (same : r'.ended = r.ended)
    (points : ∃ taken, Enumerates taken (fun _ o => o.bind Ongoing.point) r'.ongoing ∧
      (r'.foreign ++ taken ++ r.ended.filterMap (·.point)).Perm (List.range (history.length + 1)))
    (waits : ∀ c o, r'.ongoing c = some o → ∃ o', r.ongoing c = some o' ∧ o.began = o'.began ∧
      ∀ i ∈ o.point, i ∈ o'.point ∨ i = history.length) :
    Linearized explains (history ++ [event]) r' := by
  constructor
  · rw [List.length_append, same]
    exact points
  · rw [same]
    intro e ended
    obtain ⟨i, point, began, ended, there, at', explained⟩ := l.explained e ended
    have inside := (List.getElem?_eq_some_iff.mp at').1
    exact ⟨i, point, began, ended, there, by rw [List.getElem?_append_left inside]; exact at', explained⟩
  · rw [same, List.length_append]
    exact fun e ended => Nat.le_succ_of_le (l.past e ended)
  · rw [same]
    exact l.ordered
  · rw [same, List.length_append]
    intro c o going
    obtain ⟨o', going', began, point⟩ := waits c o going
    obtain ⟨before, taken, after⟩ := l.waits c o' going'
    rw [began]
    refine ⟨Nat.le_succ_of_le before, fun i member => ?_, after⟩
    rcases point i member with old | rfl
    · exact taken i old
    · exact before

theorem pass (l : Linearized explains history r) (event : ε) :
    Linearized explains (history ++ [event]) (r.pass history.length) := by
  obtain ⟨taken, enumerates, all⟩ := l.points
  refine l.grow event rfl ⟨taken, enumerates, ?_⟩ fun c o going => ⟨o, going, rfl, fun i => .inl⟩
  rw [List.range_succ, Record.pass, List.append_assoc, List.append_assoc]
  refine .trans ?_ (all.append_right [history.length])
  rw [List.append_assoc, List.append_assoc]
  refine .append_left _ (.trans List.perm_append_comm ?_)
  rw [List.append_assoc]

variable [DecidableEq κ]

theorem begin (l : Linearized explains history r) (idle : r.ongoing c = none) (call : α) :
    Linearized explains history (r.begin history.length c call) := by
  obtain ⟨taken, enumerates, all⟩ := l.points
  refine ⟨⟨taken, enumerates.keep (by rw [idle]; rfl), all⟩, l.explained, l.past, l.ordered, ?_⟩
  intro c' o going
  simp only [Record.begin, Function.update_apply] at going
  split at going
  · obtain rfl := Option.some.inj going
    exact ⟨Nat.le_refl _, nofun, fun e ended _ => l.past e ended⟩
  · exact l.waits c' o going

theorem take (l : Linearized explains history r) (event : ε)
    (going : r.ongoing c = some ⟨call, began, none⟩) :
    Linearized explains (history ++ [event]) (r.take history.length c) := by
  obtain ⟨taken, enumerates, all⟩ := l.points
  have fresh : history.length ∉ taken := by
    intro listed
    have inside : history.length ∈ List.range history.length := all.mem_iff.mp (by simp [listed])
    exact Nat.lt_irrefl _ (List.mem_range.mp inside)
  have none : (r.ongoing c).bind Ongoing.point = none := by rw [going]; rfl
  refine l.grow event rfl ⟨taken ++ [history.length], enumerates.insert none ?_ fresh, ?_⟩ ?_
  · rw [going]
    rfl
  · rw [List.range_succ, Record.take]
    refine .trans ?_ (all.append_right [history.length])
    simp only [List.append_assoc]
    exact .append_left _ (.append_left _ List.perm_append_comm)
  · intro c' o going'
    simp only [Record.take, Function.update_apply] at going'
    split at going'
    · next here =>
      subst here
      rw [going] at going'
      obtain rfl := Option.some.inj going'
      exact ⟨_, going, rfl, fun i member => .inr (Option.some.inj member).symm⟩
    · exact ⟨o, going', rfl, fun i => .inl⟩

theorem finish (l : Linearized explains history r) (going : r.ongoing c = some ⟨call, began, some i⟩)
    (event : history[i]? = some e) (explained : explains call e result) :
    Linearized explains history (r.finish history.length c result) := by
  obtain ⟨taken, enumerates, all⟩ := l.points
  obtain ⟨-, point, after⟩ := l.waits c _ going
  have carried : (r.ongoing c).bind Ongoing.point = some i := by rw [going]; rfl
  have listed := (enumerates.mem_iff i).mpr ⟨c, carried⟩
  have ended : (r.finish history.length c result).ended =
      r.ended ++ [⟨⟨call, began, some i⟩, c, history.length, result⟩] := by
    rw [Record.finish, going]
    rfl
  constructor
  · refine ⟨taken.erase i, enumerates.remove carried rfl (List.perm_cons_erase listed), .trans ?_ all⟩
    rw [ended, List.filterMap_append]
    simp only [List.append_assoc, Record.finish]
    refine .append_left _ (.trans ?_ ((List.perm_cons_erase listed).symm.append_right _))
    rw [List.cons_append]
    refine .trans (.append_left _ List.perm_append_comm) ?_
    exact List.perm_middle
  · rw [ended]
    intro e' member
    rcases List.mem_append.mp member with old | new
    · exact l.explained e' old
    · obtain rfl := List.mem_singleton.mp new
      exact ⟨i, rfl, point i rfl, l.taken_lt going rfl, e, event, explained⟩
  · rw [ended]
    intro e' member
    rcases List.mem_append.mp member with old | new
    · exact l.past e' old
    · obtain rfl := List.mem_singleton.mp new
      exact Nat.le_refl _
  · rw [ended]
    refine List.pairwise_append.mpr ⟨l.ordered, List.pairwise_singleton _ _, ?_⟩
    intro e' old e'' new same
    obtain rfl := List.mem_singleton.mp new
    exact after e' old same
  · intro c' o going'
    simp only [Record.finish, Function.update_apply] at going'
    split at going'
    · cases going'
    · next other =>
      obtain ⟨before, taken, after'⟩ := l.waits c' o going'
      refine ⟨before, taken, ?_⟩
      rw [ended]
      intro e' member same
      rcases List.mem_append.mp member with old | new
      · exact after' e' old same
      · obtain rfl := List.mem_singleton.mp new
        exact absurd same.symm other

end Linearized
end Traces
