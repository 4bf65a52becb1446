import Mathlib.Data.List.Basic
import Mathlib.Tactic.Common

/-! Pools of threads: each thread is where it is in its program, and a step moves one of them. Weights add
up what the threads have in their hands; a lock is held by one of them. -/
namespace Pools
variable {τ : Type} {pool : List τ} {t t' u : τ} {i j : Nat}

theorem get_set_ne (apart : i ≠ j) : (pool.set i t')[j]? = pool[j]? :=
  List.getElem?_set_ne apart

theorem get_set_self (here : pool[i]? = some t) : (pool.set i t')[i]? = some t' :=
  List.getElem?_set_self (List.getElem?_eq_some_iff.mp here).1

theorem get_set (here : pool[i]? = some t) (there : (pool.set i t')[j]? = some u) :
    j = i ∧ u = t' ∨ j ≠ i ∧ pool[j]? = some u := by
  by_cases same : j = i
  · subst same
    rw [get_set_self here] at there
    exact .inl ⟨rfl, (Option.some.inj there).symm⟩
  · rw [get_set_ne (Ne.symm same)] at there
    exact .inr ⟨same, there⟩

theorem get_append (there : (pool ++ [t])[j]? = some u) : pool[j]? = some u ∨ j = pool.length ∧ u = t := by
  rcases Nat.lt_trichotomy j pool.length with before | rfl | behind
  · rw [List.getElem?_append_left before] at there
    exact .inl there
  · rw [List.getElem?_concat_length] at there
    exact .inr ⟨rfl, (Option.some.inj there).symm⟩
  · rw [List.getElem?_eq_none (by simp; omega)] at there
    cases there

section weigh
variable {w w' : τ → Int}

def weigh (w : τ → Int) : List τ → Int
  | [] => 0
  | t :: pool => w t + weigh w pool

@[simp] theorem weigh_nil : weigh w [] = 0 := rfl

theorem weigh_append (pool : List τ) (t : τ) : weigh w (pool ++ [t]) = weigh w pool + w t := by
  induction pool with
  | nil => simp [weigh]
  | cons u pool ih => simp only [List.cons_append, weigh, ih]; omega

theorem weigh_set (here : pool[i]? = some t) (t' : τ) :
    weigh w (pool.set i t') = weigh w pool - w t + w t' := by
  induction pool generalizing i with
  | nil => cases here
  | cons u pool ih =>
    cases i with
    | zero =>
      obtain rfl := Option.some.inj here
      simp only [List.set_cons_zero, weigh]
      omega
    | succ i =>
      simp only [List.set_cons_succ, weigh, ih here]
      omega

theorem weigh_le (each : ∀ t ∈ pool, w t ≤ w' t) : weigh w pool ≤ weigh w' pool := by
  induction pool with
  | nil => exact Int.le_refl 0
  | cons t pool ih =>
    have first := each t List.mem_cons_self
    have rest := ih fun t member => each t (List.mem_cons_of_mem _ member)
    simp only [weigh]
    omega

theorem weigh_zero (pool : List τ) : weigh (fun _ => 0) pool = 0 := by
  induction pool with
  | nil => rfl
  | cons t pool ih => rw [weigh, ih]; rfl

theorem weigh_nonneg (each : ∀ t ∈ pool, 0 ≤ w t) : 0 ≤ weigh w pool := by
  rw [← weigh_zero pool]
  exact weigh_le each

theorem weigh_nonpos (each : ∀ t ∈ pool, w t ≤ 0) : weigh w pool ≤ 0 := by
  rw [← weigh_zero pool]
  exact weigh_le each

theorem weigh_neg (pool : List τ) : weigh (fun t => -w t) pool = -weigh w pool := by
  induction pool with
  | nil => rfl
  | cons t pool ih => simp only [weigh, ih]; omega

end weigh

/-- At most one thread is of a kind. -/
def Sole (kind : τ → Bool) (pool : List τ) : Prop :=
  ∀ (i j : Nat) (t u : τ), pool[i]? = some t → pool[j]? = some u → kind t → kind u → i = j

section sole
variable {kind : τ → Bool}

theorem sole_nil : Sole kind [] := nofun

theorem Sole.set (sole : Sole kind pool) (here : pool[i]? = some t) (kept : kind t' → kind t) :
    Sole kind (pool.set i t') := by
  intro j k u v there there' first second
  rcases get_set here there with ⟨rfl, rfl⟩ | ⟨-, old⟩ <;> rcases get_set here there' with ⟨rfl, rfl⟩ | ⟨-, old'⟩
  · rfl
  · exact sole _ _ _ _ here old' (kept first) second
  · exact sole _ _ _ _ old here first (kept second)
  · exact sole _ _ _ _ old old' first second

theorem Sole.append (sole : Sole kind pool) (t : τ) (alone : kind t → ∀ u ∈ pool, ¬ kind u) :
    Sole kind (pool ++ [t]) := by
  intro i j u v there there' first second
  rcases get_append there with old | ⟨rfl, rfl⟩ <;> rcases get_append there' with old' | ⟨rfl, rfl⟩
  · exact sole _ _ _ _ old old' first second
  · exact absurd first (alone second _ (List.mem_of_getElem? old))
  · exact absurd second (alone first _ (List.mem_of_getElem? old'))
  · rfl

variable {α : Type} {f : τ → List α}

theorem flatMap_set (here : pool[i]? = some t) (same : f t' = f t) :
    (pool.set i t').flatMap f = pool.flatMap f := by
  induction pool generalizing i with
  | nil => cases here
  | cons u pool ih =>
    cases i with
    | zero =>
      obtain rfl := Option.some.inj here
      simp only [List.set_cons_zero, List.flatMap_cons, same]
    | succ i => simp only [List.set_cons_succ, List.flatMap_cons, ih here]

theorem flatMap_one (here : pool[i]? = some t)
    (others : ∀ (j : Nat) (u : τ), j ≠ i → pool[j]? = some u → f u = []) : pool.flatMap f = f t := by
  induction pool generalizing i with
  | nil => cases here
  | cons u pool ih =>
    cases i with
    | zero =>
      obtain rfl := Option.some.inj here
      have rest : pool.flatMap f = [] := List.flatMap_eq_nil_iff.mpr fun v member => by
        obtain ⟨j, there⟩ := List.mem_iff_getElem?.mp member
        exact others (j + 1) v (Nat.succ_ne_zero j) there
      rw [List.flatMap_cons, rest, List.append_nil]
    | succ i =>
      have first := others 0 u (Nat.succ_ne_zero i).symm rfl
      have rest := ih here fun j v apart there => others (j + 1) v (fun same => apart (Nat.succ.inj same)) there
      rw [List.flatMap_cons, first, rest, List.nil_append]

end sole

/-- The threads inside a section are those that hold its lock. -/
def Guards (inside : τ → Bool) (pool : List τ) (holder : Option Nat) : Prop :=
  ∀ (i : Nat) (t : τ), pool[i]? = some t → (inside t ↔ holder = some i)

section guards
variable {inside : τ → Bool} {holder : Option Nat}

theorem guards_nil : Guards inside [] holder := nofun

theorem Guards.append (guards : Guards inside pool holder) (out : ¬ inside t)
    (free : ∀ i, holder = some i → i < pool.length) :
    Guards inside (pool ++ [t]) holder := by
  intro i u there
  rcases get_append there with old | ⟨rfl, rfl⟩
  · exact guards i u old
  · exact iff_of_false out fun held => Nat.lt_irrefl _ (free _ held)

theorem Guards.keep (guards : Guards inside pool holder) (here : pool[i]? = some t)
    (same : inside t' = inside t) :
    Guards inside (pool.set i t') holder := by
  intro j u there
  rcases get_set here there with ⟨rfl, rfl⟩ | ⟨-, old⟩
  · rw [same]
    exact guards _ _ here
  · exact guards j u old

theorem Guards.acquire (guards : Guards inside pool none) (here : pool[i]? = some t) (enters : inside t') :
    Guards inside (pool.set i t') (some i) := by
  intro j u there
  rcases get_set here there with ⟨rfl, rfl⟩ | ⟨apart, old⟩
  · exact iff_of_true enters rfl
  · exact iff_of_false (fun inner => nomatch (guards j u old).mp inner)
      fun same => apart (Option.some.inj same).symm

theorem Guards.release (guards : Guards inside pool holder) (here : pool[i]? = some t) (inner : inside t)
    (leaves : ¬ inside t') : Guards inside (pool.set i t') none := by
  intro j u there
  rcases get_set here there with ⟨rfl, rfl⟩ | ⟨apart, old⟩
  · exact iff_of_false leaves nofun
  · refine iff_of_false (fun inner' => apart ?_) nofun
    exact Option.some.inj (((guards j u old).mp inner').symm.trans ((guards i t here).mp inner))

theorem Guards.outside (guards : Guards inside pool holder) (here : pool[i]? = some t) (inner : inside t)
    (there : pool[j]? = some u) (apart : j ≠ i) : ¬ inside u := by
  intro inner'
  exact apart (Option.some.inj (((guards j u there).mp inner').symm.trans ((guards i t here).mp inner)))

end guards
end Pools
