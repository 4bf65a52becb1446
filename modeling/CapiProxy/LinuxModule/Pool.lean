import CapiProxy.LinuxModule.Reuse
import CapiProxy.Ownership.Tenants

/-! All cards of the module, and the files by which daemons own them. The cards lie one behind the
other, so that a cell outside the table of one card may be the status of another. -/
namespace CapiProxy.LinuxModule
open Bytes Ownership

def capiproxyMaxcontr : Nat := 4

/-- The constants of a state. -/
def CardStatus.cell : CardStatus → Appl
  | .free => .free
  | .running => .confirmed
  | .removing => .waiting
  | .notReady => .revoked

def Appl.status : Appl → CardStatus
  | .free => .free
  | .confirmed => .running
  | .waiting => .removing
  | .revoked => .notReady

@[simp] theorem CardStatus.status_cell (status : CardStatus) : status.cell.status = status := by
  cases status <;> rfl

@[simp] theorem CardStatus.cell_eq_free_iff (status : CardStatus) :
    status.cell = .free ↔ status = .free := by
  cases status <;> decide

@[simp] theorem Appl.status_eq_free_iff (appl : Appl) : appl.status = .free ↔ appl = .free := by
  cases appl <;> decide

/-- How the compiler lays out a card: its size, and where its table is. The status comes first, and
other members are between them. -/
structure Layout (env : Environment) where
  sizeofCard : Nat
  applications : Nat
  behind : 1 < applications
  inside : applications + env.capiMaxappl.toNat ≤ sizeofCard

/-- The application id by which a card finds the status of another in its table. -/
def Layout.cellOf {env : Environment} (l : Layout env) (i j : Nat) : Option UInt16 :=
  let appl := j * l.sizeofCard + 1 - (i * l.sizeofCard + l.applications)
  if i * l.sizeofCard + l.applications + appl = j * l.sizeofCard + 1 ∧ appl < 2 ^ 16 then
    some (.ofNat appl) else none

/-- An open file, with its card, how many messages that card had taken when it was opened, and whether
its release has begun. -/
structure File where
  privateData : Nat
  since : Nat
  closing : Bool
  deriving DecidableEq, Repr

structure Pool where
  cards : Nat → Card
  files : List File

def Call.byDaemon : Call → Bool
  | .read .. | .write .. | .ioctl .. => true
  | _ => false

def Call.byKernelcapi : Call → Bool
  | .sendMessage .. | .registerAppl .. | .releaseAppl .. | .resetCtr | .removeCtr .. => true
  | _ => false

/-- What happens to the cards: a file is opened, the k-th one is being closed and is closed, the daemon
uses its file, or kernelcapi calls the controller of a card, also while its file is being closed. -/
inductive Access where
  | openFile
  | closing (k : Nat)
  | closed (k : Nat)
  | onFile (k : Nat) (call : Call) (kind : call.byDaemon = true)
  | onCard (i : Fin capiproxyMaxcontr) (call : Call) (kind : call.byKernelcapi = true)

namespace Card

/-- The first half of `capiproxy_release`. -/
def suspend (c : Card) : Card := (c.tell .suspendOutput).flushQueue

/-- The second half of `capiproxy_release`, from `detach_ctr` on. -/
def detach (c : Card) : Card := (c.tell .detachCtr).enter .free

end Card

namespace Pool

def init : Pool := ⟨fun _ => .init, []⟩

def findFreeId (p : Pool) : Option Nat :=
  firstFree .free capiproxyMaxcontr fun i => (p.cards i).status

/-- A card with the cells of its table that are the status of other cards. -/
def card (l : Layout env) (p : Pool) (i : Nat) : Card :=
  { p.cards i with
    applications := fun appl =>
      match (List.range capiproxyMaxcontr).find? fun j => l.cellOf i j = some appl with
      | some j => (p.cards j).status.cell
      | none => (p.cards i).applications appl }

/-- A change of a card, which may write to other cards through the table. -/
def change (l : Layout env) (i : Nat) (f : Card → Card) (p : Pool) : Pool :=
  let c := f (p.card l i)
  { p with
    cards := fun j =>
      if j = i then c
      else
        match l.cellOf i j with
        | some appl => (p.cards j).enter (c.applications appl).status
        | none => p.cards j }

def call (env : Environment) (l : Layout env) (i : Nat) (call : Call) (p : Pool) : Pool :=
  p.change l i fun c => c.step env call

def openFile (env : Environment) (l : Layout env) (p : Pool) : Pool :=
  match p.findFreeId with
  | some id =>
    { p.call env l id .openCard with
      files := p.files ++ [⟨id, (p.cards id).journal.accepted.length, false⟩] }
  | none => p

def closing (l : Layout env) (k : Nat) (p : Pool) : Pool :=
  match p.files[k]? with
  | some file =>
    if file.closing then p
    else
      { p.change l file.privateData Card.suspend with
        files := p.files.set k { file with closing := true } }
  | none => p

def closed (l : Layout env) (k : Nat) (p : Pool) : Pool :=
  match p.files[k]? with
  | some file =>
    if file.closing then
      { p.change l file.privateData Card.detach with files := p.files.eraseIdx k }
    else p
  | none => p

def onFile (env : Environment) (l : Layout env) (k : Nat) (call : Call) (p : Pool) : Pool :=
  match p.files[k]? with
  | some file => if file.closing then p else p.call env l file.privateData call
  | none => p

def step (env : Environment) (l : Layout env) (p : Pool) : Access → Pool
  | .openFile => p.openFile env l
  | .closing k => p.closing l k
  | .closed k => p.closed l k
  | .onFile k call _ => p.onFile env l k call
  | .onCard i call _ => p.call env l i call

def run (env : Environment) (l : Layout env) (history : List Access) : Pool :=
  history.foldl (step env l) init

theorem run_append (env : Environment) (l : Layout env) (history : List Access) (access : Access) :
    run env l (history ++ [access]) = (run env l history).step env l access := by
  rw [run, List.foldl_append]
  rfl

end Pool

section Layout
variable {env : Environment} (l : Layout env)

theorem Layout.cellOf_eq_some_iff : l.cellOf i j = some appl ↔
    i * l.sizeofCard + l.applications + appl.toNat = j * l.sizeofCard + 1 := by
  have small := appl.toNat_lt
  rw [cellOf]
  split
  · next fits =>
    have value : (UInt16.ofNat (j * l.sizeofCard + 1 - (i * l.sizeofCard + l.applications))).toNat =
        j * l.sizeofCard + 1 - (i * l.sizeofCard + l.applications) := UInt16.toNat_ofNat_of_lt fits.2
    rw [Option.some_inj, ← UInt16.toNat_inj, value]
    omega
  · next unfit =>
    refine iff_of_false nofun fun here => unfit ?_
    omega

theorem Layout.outside (found : l.cellOf i j = some appl) : ¬ env.InTable appl := by
  have place := l.cellOf_eq_some_iff.mp found
  have behind := l.behind
  have inside := l.inside
  rintro ⟨-, most⟩
  have most : appl.toNat ≤ env.capiMaxappl.toNat := UInt16.le_iff_toNat_le.mp most
  rcases Nat.lt_or_ge i j with later | earlier
  · have sizes := Nat.mul_le_mul_right l.sizeofCard (Nat.succ_le_of_lt later)
    rw [Nat.succ_mul] at sizes
    omega
  · have sizes := Nat.mul_le_mul_right l.sizeofCard earlier
    omega

theorem Layout.cellOf_ne (found : l.cellOf i j = some appl) : j ≠ i := by
  rintro rfl
  have place := l.cellOf_eq_some_iff.mp found
  have behind := l.behind
  omega

theorem Layout.cellOf_inj (found : l.cellOf i j = some appl) (found' : l.cellOf i j' = some appl) :
    j' = j := by
  have place := l.cellOf_eq_some_iff.mp found
  have place' := l.cellOf_eq_some_iff.mp found'
  have behind := l.behind
  have inside := l.inside
  have positive : 0 < l.sizeofCard := by omega
  have same : j' * l.sizeofCard = j * l.sizeofCard := by omega
  exact Nat.eq_of_mul_eq_mul_right positive same

theorem Pool.card_cell (p : Pool) (inside : j < capiproxyMaxcontr) (found : l.cellOf i j = some appl) :
    (p.card l i).applications appl = (p.cards j).status.cell := by
  rw [card]
  dsimp only
  cases search : (List.range capiproxyMaxcontr).find? fun j => l.cellOf i j = some appl with
  | none =>
    rw [List.find?_eq_none] at search
    exact absurd (decide_eq_true found) (search j (List.mem_range.mpr inside))
  | some j' =>
    have here := List.find?_some search
    have found' : l.cellOf i j' = some appl := of_decide_eq_true here
    rw [l.cellOf_inj found found']

end Layout

namespace Card
variable {c : Card}

/-- A call marks an application as registering, confirmed or revoked. -/
def Marks (c : Card) (appl : UInt16) : Call → Prop
  | .registerAppl _ id _ => id = appl ∧ c.status ≠ .free ∧ c.applications appl = .free
  | .ioctl num param _ => param.toUInt16 = appl ∧ (num = ioctlErrorRegfail ∨ num = ioctlApplRegistered)
  | _ => False

theorem releaseAppl_outside (env : Environment) (alloc : Bool) (id appl : UInt16) (c : Card)
    (outside : ¬ env.InTable appl) :
    (c.releaseAppl env alloc id).applications appl = c.applications appl := by
  unfold releaseAppl
  split
  · rfl
  · next valid =>
    simp only [validApplid, Bool.or_eq_true, Bool.not_eq_true', decide_eq_false_iff_not, not_or,
      not_not] at valid
    obtain ⟨⟨nonzero, most, -⟩, -⟩ := valid
    have other : appl ≠ id := fun same => outside (same ▸ ⟨nonzero, most⟩)
    have settled := releaseInternal_settled env alloc id c
    exact (Function.update_of_ne other ..).trans (congrFun settled.applications appl)

theorem registerAppl_free_iff (env : Environment) (alloc : Bool) (id : UInt16) (rp : RegisterParams)
    (appl : UInt16) (c : Card) :
    (c.registerAppl env alloc id rp).applications appl = .free ↔
      c.applications appl = .free ∧ ¬ c.Marks appl (.registerAppl alloc id rp) := by
  by_cases closed : c.status = .free
  · rw [registerAppl_closed env alloc id rp c closed]
    exact (and_iff_left fun marks => marks.2.1 closed).symm
  · by_cases free : c.applications id = .free
    · obtain ⟨arp, registered⟩ := registerAppl_free env alloc id rp c closed free
      have settled := registerInternal_settled env alloc id arp (c.note (.asked id))
      have table : (c.registerAppl env alloc id rp).applications =
          Function.update c.applications id .waiting := by
        rw [registered]
        exact congrArg (Function.update · id Appl.waiting) settled.applications
      rw [table]
      by_cases same : id = appl
      · subst same
        rw [Function.update_self]
        exact iff_of_false nofun fun kept => kept.2 ⟨rfl, closed, free⟩
      · rw [Function.update_of_ne (Ne.symm same)]
        exact (and_iff_left fun marks => same marks.1).symm
    · rw [registerAppl_taken env alloc id rp c closed free]
      refine (and_iff_left_of_imp fun kept marks => free ?_).symm
      exact marks.1 ▸ kept

theorem ioctl_free_iff (num param : UInt32) (user : Memory) (appl : UInt16) (c : Card) :
    (c.ioctl num param user).applications appl = .free ↔
      c.applications appl = .free ∧ ¬ c.Marks appl (.ioctl num param user) := by
  have marked {state : Appl} (taken : state ≠ .free)
      (verdict : num = ioctlErrorRegfail ∨ num = ioctlApplRegistered) :
      Function.update c.applications param.toUInt16 state appl = .free ↔
        c.applications appl = .free ∧ ¬ c.Marks appl (.ioctl num param user) := by
    by_cases same : param.toUInt16 = appl
    · rw [← same, Function.update_self]
      exact iff_of_false taken fun kept => kept.2 ⟨rfl, verdict⟩
    · rw [Function.update_of_ne (Ne.symm same)]
      exact (and_iff_left fun marks => same marks.1).symm
  have unmarked (other : ¬ (num = ioctlErrorRegfail ∨ num = ioctlApplRegistered)) :
      c.applications appl = .free ↔
        c.applications appl = .free ∧ ¬ c.Marks appl (.ioctl num param user) :=
    (and_iff_left fun marks => other marks.2).symm
  unfold ioctl
  dsimp only
  split
  · next data =>
    subst data
    split <;> exact unmarked (by decide)
  · split
    · next failed => exact marked nofun (.inl failed)
    · next failed =>
      split
      · next registered => exact marked nofun (.inr registered)
      · next registered => exact unmarked (not_or.mpr ⟨failed, registered⟩)

theorem outside_free_iff (env : Environment) (c : Card) (call : Call) {appl : UInt16}
    (outside : ¬ env.InTable appl) : (c.step env call).applications appl = .free ↔
      c.applications appl = .free ∧ ¬ c.Marks appl call := by
  cases call with
  | registerAppl alloc id rp => exact registerAppl_free_iff env alloc id rp appl c
  | ioctl num param user => exact ioctl_free_iff num param user appl c
  | releaseAppl alloc id =>
    rw [step, releaseAppl_outside env alloc id appl c outside]
    exact (and_iff_left not_false).symm
  | openCard =>
    have kept : (c.step env .openCard).applications appl = c.applications appl := by
      simp only [step, openCard]
      split
      · exact if_neg outside
      · rfl
    rw [kept]
    exact (and_iff_left not_false).symm
  | _ =>
    rw [(step_settled env c _ rfl).applications]
    exact (and_iff_left not_false).symm

end Card
end CapiProxy.LinuxModule
