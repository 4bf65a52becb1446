import CapiProxy.LinuxModule.Reuse

/-! The verdicts of the daemon on a registration. The module takes them for whatever id they
carry and whatever became of the application in the meantime. -/
namespace CapiProxy.LinuxModule
open Bytes Traces

def Event.isVerdict : Event → Bool
  | .told (.applRegistered _) | .told (.applReleased _) => true
  | _ => false

namespace Card
variable {c : Card}

/-- The application is waiting for a verdict. -/
def Waits (env : Environment) (c : Card) (appl : UInt16) : Prop :=
  env.InTable appl ∧ c.applications appl = .waiting

/-- A verdict changes the table and is passed on to kernelcapi only for an application that waits
for one; no call confirms an application that is free. -/
structure Heeds (env : Environment) (c : Card) (call : Call) : Prop where
  unchanged : ∀ num param user, call = .ioctl num param user → ¬ c.Waits env param.toUInt16 →
    (c.step env call).applications = c.applications ∧
      (c.step env call).log.filter Event.isVerdict = c.log.filter Event.isVerdict
  unconfirmed : ∀ appl, env.InTable appl → c.applications appl = .free →
    (c.step env call).applications appl ≠ .confirmed

/-- A verdict of the daemon is about an application that waits for one. -/
def Timely (env : Environment) (c : Card) : Call → Prop
  | .ioctl num param _ =>
    num = ioctlErrorRegfail ∨ num = ioctlApplRegistered → c.Waits env param.toUInt16
  | _ => True

theorem verdict_noted (c : Card) {e : Event} (verdict : e.isVerdict = true) :
    (c.note e).log.filter Event.isVerdict ≠ c.log.filter Event.isVerdict := by
  intro same
  have length := congrArg List.length same
  rw [note, List.filter_append, List.length_append, List.filter_cons_of_pos verdict] at length
  simp at length

theorem ioctl_heeds_iff (env : Environment) (c : Card) (num param : UInt32) (user : Memory) :
    c.Heeds env (.ioctl num param user) ↔ c.Timely env (.ioctl num param user) := by
  constructor
  · rintro ⟨unchanged, -⟩ verdict
    by_contra waits
    obtain ⟨-, told⟩ := unchanged num param user rfl waits
    rcases verdict with rfl | rfl
    · exact verdict_noted (c.applMarkRevoked param.toUInt16) rfl told
    · exact verdict_noted c rfl told
  · intro timely
    have confirmed {appl : UInt16} {state : Appl} (free : c.applications appl = .free)
        (waits : state = .confirmed → c.Waits env param.toUInt16) :
        Function.update c.applications param.toUInt16 state appl ≠ .confirmed := by
      by_cases same : appl = param.toUInt16
      · subst same
        rw [Function.update_self]
        intro confirmed
        cases (waits confirmed).2.symm.trans free
      · rw [Function.update_of_ne same, free]
        decide
    constructor
    · intro num' param' len' same waits
      cases same
      simp only [step, ioctl]
      split
      · split
        · exact ⟨rfl, rfl⟩
        · exact ⟨rfl, (List.filter_append ..).trans (List.append_nil _)⟩
      · rw [if_neg fun failed => waits (timely (.inl failed)),
          if_neg fun registered => waits (timely (.inr registered))]
        exact ⟨rfl, rfl⟩
    · intro appl inside free
      have kept : c.applications appl ≠ .confirmed := by rw [free]; decide
      simp only [step, ioctl]
      split
      · split
        · exact kept
        · exact kept
      · split
        · exact confirmed free fun same => absurd same (by decide)
        · split
          · next registered => exact confirmed free fun _ => timely (.inr registered)
          · exact kept

theorem other_heeds (env : Environment) (c : Card) (call : Call)
    (other : ∀ num param user, call ≠ .ioctl num param user) : c.Heeds env call := by
  refine ⟨fun num param user same => absurd same (other num param user), fun appl inside free => ?_⟩
  have kept : c.applications appl ≠ .confirmed := by rw [free]; decide
  have marked {c' : Card} {state : Appl} (id : UInt16) (table : c'.applications = c.applications)
      (never : state ≠ .confirmed) : Function.update c'.applications id state appl ≠ .confirmed := by
    rw [table]
    by_cases same : appl = id
    · rw [same, Function.update_self]
      exact never
    · rw [Function.update_of_ne same]
      exact kept
  cases call with
  | ioctl num param user => exact absurd rfl (other num param user)
  | registerAppl alloc id rp =>
    simp only [step, registerAppl]
    split
    · exact kept
    · split
      · exact kept
      · exact marked id (registerInternal_settled env alloc id _ (c.note (.asked id))).applications
          (by decide)
  | releaseAppl alloc id =>
    simp only [step, releaseAppl]
    split
    · exact kept
    · exact marked id (releaseInternal_settled env alloc id c).applications (by decide)
  | openCard =>
    simp only [step, openCard]
    split
    · refine ne_of_eq_of_ne (if_pos inside) ?_
      decide
    · exact kept
  | _ =>
    rw [(step_settled env c _ rfl).applications]
    exact kept

theorem step_heeds_iff (env : Environment) (c : Card) (call : Call) :
    c.Heeds env call ↔ c.Timely env call := by
  cases call with
  | ioctl num param user => exact ioctl_heeds_iff env c num param user
  | _ => exact iff_of_true (other_heeds env c _ nofun) trivial

end Card

/-- In every run, the verdicts of the daemon change the table and reach kernelcapi only for
applications that wait for one, and no released application is confirmed, exactly when every
verdict is about an application that waits. -/
theorem verdicts_iff (env : Environment) (calls : List Call) :
    Throughout (fun before call => (Card.run env before).Heeds env call) calls ↔
      Throughout (fun before call => (Card.run env before).Timely env call) calls := by
  apply throughout_congr
  intro before call after split
  exact Card.step_heeds_iff env (Card.run env before) call

/-- Application 1 is released after the daemon has read its register message. -/
def releasedInFlight : List Call :=
  [.openCard, .registerAppl true 1 ⟨2, 7, 1024⟩, .read 100 0, .releaseAppl true 1,
    .ioctl ioctlApplRegistered 1 zeros]

/-- The late verdict confirms the released application. -/
theorem releasedInFlight_confirmed :
    ¬ Throughout (fun before call => (Card.run .sample before).Heeds .sample call)
      releasedInFlight := by
  intro whole
  have heeds := (throughout_iff_getElem _ _).mp whole 4 (by decide)
  exact heeds.unconfirmed 1 ⟨by decide, by decide⟩ (by decide) (by decide)

end CapiProxy.LinuxModule
