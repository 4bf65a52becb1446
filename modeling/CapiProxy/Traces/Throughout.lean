import Mathlib.Data.List.Induction
import Mathlib.Tactic.Common

/-! Properties of a log that are checked event by event, against what came before each event.
A log grows at its end, and so does the evidence for such a property. -/
namespace Traces
variable {α β : Type}

/-- `R` relates every event of the log to the events before it. -/
def Throughout (R : List α → α → Prop) (log : List α) : Prop :=
  ∀ before e after, log = before ++ e :: after → R before e

/-- Every `Q` event comes after some `P` event. -/
def Precedes (P Q : α → Prop) : List α → Prop :=
  Throughout fun before e => Q e → ∃ earlier ∈ before, P earlier

/-- The last event of a kind. -/
def latest (P : α → Bool) (log : List α) : Option α := log.reverse.find? P

theorem latest_append (P : α → Bool) (log : List α) (e : α) :
    latest P (log ++ [e]) = if P e then some e else latest P log := by
  simp only [latest, List.reverse_append, List.reverse_singleton, List.singleton_append,
    List.find?_cons]
  cases P e <;> rfl

theorem throughout_nil (R : List α → α → Prop) : Throughout R [] := by
  intro before e after split
  simp at split

theorem throughout_append (R : List α → α → Prop) (log : List α) (e : α) :
    Throughout R (log ++ [e]) ↔ Throughout R log ∧ R log e := by
  constructor
  · intro whole
    refine ⟨fun before e' after split => ?_, whole log e [] rfl⟩
    exact whole before e' (after ++ [e]) (by simp [split])
  · rintro ⟨earlier, last⟩ before e' after split
    rcases List.eq_nil_or_concat after with rfl | ⟨init, e'', rfl⟩
    · obtain ⟨rfl, same⟩ := List.append_inj' split rfl
      obtain rfl := List.singleton_inj.mp same
      exact last
    · have whole : log ++ [e] = (before ++ e' :: init) ++ [e''] := by simpa using split
      exact earlier before e' init (List.append_inj' whole rfl).1

theorem throughout_iff_getElem (R : List α → α → Prop) (log : List α) :
    Throughout R log ↔ ∀ i, (h : i < log.length) → R (log.take i) log[i] := by
  constructor
  · intro whole i h
    exact whole (log.take i) log[i] (log.drop (i + 1)) (by simp)
  · rintro each before e after rfl
    simpa using each before.length (by simp)

instance {R : List α → α → Prop} [∀ before e, Decidable (R before e)] (log : List α) :
    Decidable (Throughout R log) :=
  decidable_of_iff' _ (throughout_iff_getElem R log)

theorem Throughout.imp {R R' : List α → α → Prop} {log : List α} (whole : Throughout R log)
    (weaker : ∀ before e, R before e → R' before e) : Throughout R' log :=
  fun before e after split => weaker before e (whole before e after split)

theorem Throughout.invariant {R : List α → α → Prop} {P : List α → Prop} {log : List α}
    (whole : Throughout R log) (start : P [])
    (step : ∀ before e, P before → R before e → P (before ++ [e])) : P log := by
  induction log using List.reverseRecOn with
  | nil => exact start
  | append_singleton log e ih =>
    obtain ⟨earlier, last⟩ := (throughout_append R log e).mp whole
    exact step log e (ih earlier) last

/-- The run rule for an equivalence: an invariant under which two properties of the next event
agree, and that the next event keeps when it has them. -/
theorem throughout_iff {A R R' : List α → α → Prop} {P : List α → Prop} {log : List α}
    (given : Throughout A log) (start : P [])
    (same : ∀ before e, P before → A before e → (R before e ↔ R' before e))
    (keeps : ∀ before e, P before → A before e → R' before e → P (before ++ [e])) :
    Throughout R log ↔ Throughout R' log := by
  induction log using List.reverseRecOn with
  | nil => exact iff_of_true (throughout_nil R) (throughout_nil R')
  | append_singleton log e ih =>
    obtain ⟨earlier, last⟩ := (throughout_append A log e).mp given
    have reached (whole : Throughout R' log) : P log := by
      refine Throughout.invariant (R := fun before e => A before e ∧ R' before e) ?_ start
        fun before e held both => keeps before e held both.1 both.2
      exact fun before e after split => ⟨earlier before e after split, whole before e after split⟩
    rw [throughout_append, throughout_append, ih earlier]
    exact and_congr_right fun whole => same log e (reached whole) last

theorem throughout_iff_of_invariant {R R' : List α → α → Prop} {P : List α → Prop} (start : P [])
    (same : ∀ before e, P before → (R before e ↔ R' before e))
    (keeps : ∀ before e, P before → R' before e → P (before ++ [e])) (log : List α) :
    Throughout R log ↔ Throughout R' log :=
  throughout_iff (A := fun _ _ => True) (fun _ _ _ _ => trivial) start
    (fun before e held _ => same before e held) fun before e held _ right => keeps before e held right

theorem throughout_congr {R R' : List α → α → Prop} {log : List α}
    (same : Throughout (fun before e => R before e ↔ R' before e) log) :
    Throughout R log ↔ Throughout R' log :=
  forall_congr' fun before => forall_congr' fun e => forall_congr' fun after =>
    forall_congr' fun split => same before e after split

theorem throughout_map (f : α → β) (R : List β → β → Prop) (log : List α) :
    Throughout R (log.map f) ↔ Throughout (fun before e => R (before.map f) (f e)) log := by
  constructor
  · intro whole before e after split
    exact whole (before.map f) (f e) (after.map f) (by simp [split])
  · intro whole before e after split
    obtain ⟨before', rest, rfl, rfl, mapped⟩ := List.map_eq_append_iff.mp split
    obtain ⟨e', after', rfl, rfl, rfl⟩ := List.map_eq_cons_iff.mp mapped
    exact whole before' e' after' rfl

theorem precedes_map_iff {P Q : α → Prop} {P' Q' : β → Prop} {f : α → β} {log : List α}
    (first : ∀ e ∈ log, P e ↔ P' (f e)) (second : ∀ e ∈ log, Q e ↔ Q' (f e)) :
    Precedes P Q log ↔ Precedes P' Q' (log.map f) := by
  rw [Precedes, Precedes, throughout_map]
  refine throughout_congr fun before e after split => ?_
  have here : ∀ e ∈ before, P e ↔ P' (f e) := fun e member => first e (by simp [split, member])
  simp only [List.mem_map, exists_exists_and_eq_and]
  refine imp_congr (second e (by simp [split])) (exists_congr fun e => ?_)
  exact and_congr_right fun member => here e member

theorem foldl_silent {σ : Type} {f : σ → α → σ} {later : List α}
    (silent : ∀ e ∈ later, ∀ s, f s e = s) (log : List α) (s : σ) :
    (log ++ later).foldl f s = log.foldl f s := by
  rw [List.foldl_append]
  generalize log.foldl f s = t
  induction later with
  | nil => rfl
  | cons e later ih =>
    rw [List.foldl_cons, silent e List.mem_cons_self]
    exact ih fun e member => silent e (List.mem_cons_of_mem _ member)

end Traces
