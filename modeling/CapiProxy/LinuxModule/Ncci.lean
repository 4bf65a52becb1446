import CapiProxy.LinuxModule.Queue

/-! Which NCCIs kernelcapi takes as open. It learns of them from the module, which looks at the
command of each message that it passes on. -/
namespace CapiProxy.LinuxModule
open Bytes Traces

/-- The codes of `capicmd.h`: a command in the high byte, and below it what is done with it. -/
structure Capicmd (env : Environment) : Prop where
  disconnectB3Resp : env.disconnectB3Resp = 0x8483
  connectB3Conf : env.connectB3Conf = 0x8281
  connectB3Ind : env.connectB3Ind = 0x8282

def hasCode (code : UInt32) : Skb → Bool
  | _ :: _ :: _ :: _ :: command :: subcommand :: _ =>
    command.toUInt32 <<< 8 ||| subcommand.toUInt32 = code
  | _ => false

inductive Change where
  | opens (appl : UInt16) (ncci : UInt32)
  | closes (appl : UInt16) (ncci : UInt32)
  deriving DecidableEq, Repr

/-- What kernelcapi is told about an NCCI. -/
def Event.change : Event → Option Change
  | .told (.newNcci appl ncci _) => some (.opens appl ncci)
  | .told (.freeNcci appl ncci) => some (.closes appl ncci)
  | _ => none

def changes (log : List Event) : List Change := log.filterMap Event.change

def openNccis (changes : List Change) : List (UInt16 × UInt32) :=
  changes.foldl (fun nccis change =>
    match change with
    | .opens appl ncci => (appl, ncci) :: nccis
    | .closes appl ncci => nccis.erase (appl, ncci)) []

namespace Card
variable {c : Card}

/-- A message of the daemon that opens an NCCI reaches a running card. -/
def Opens (env : Environment) (c : Card) : Call → Prop
  | .write (some _) buffer _ => c.status = .running ∧
    (hasCode env.connectB3Conf buffer = true ∨ hasCode env.connectB3Ind buffer = true)
  | _ => False

/-- A message of kernelcapi that closes an NCCI reaches a card in use. -/
def Closes (env : Environment) (c : Card) : Call → Prop
  | .sendMessage skb => c.status ≠ .free ∧ hasCode env.disconnectB3Resp skb = true
  | _ => False

instance (env : Environment) (c : Card) (call : Call) : Decidable (c.Opens env call) := by
  unfold Opens
  split <;> infer_instance

instance (env : Environment) (c : Card) (call : Call) : Decidable (c.Closes env call) := by
  unfold Closes
  split <;> infer_instance

/-- What the message of a call does to the NCCIs of its application, with the number of the
controller in the NCCI. -/
def due (env : Environment) (c : Card) (call : Call) : List Change :=
  match call with
  | .write _ buffer cnr => if c.Opens env call then
      [.opens (env.appid buffer) ((env.ncci buffer &&& 0xFFFFFF80) + cnr)] else []
  | .sendMessage skb => if c.Closes env call then [.closes (env.appid skb) (env.ncci skb)] else []
  | _ => []

def dues (env : Environment) (c : Card) : List Call → List Change
  | [] => []
  | call :: later => c.due env call ++ dues env (c.step env call) later

theorem dues_append (env : Environment) (c : Card) (calls : List Call) (call : Call) :
    dues env c (calls ++ [call]) = dues env c calls ++ (calls.foldl (step env) c).due env call := by
  induction calls generalizing c with
  | nil => exact List.append_nil _
  | cons first calls ih => rw [List.cons_append, dues, dues, ih, List.append_assoc, List.foldl_cons]

/-- Kernelcapi is told of the NCCIs that the message of a call opens or closes and of no others, and
takes those as open that the messages so far have opened and not closed. -/
structure Counts (env : Environment) (before : List Call) (call : Call) : Prop where
  told : changes (run env (before ++ [call])).log =
    changes (run env before).log ++ (run env before).due env call
  nccis : openNccis (changes (run env (before ++ [call])).log) =
    openNccis (dues env init (before ++ [call]))

theorem command_ne (env : Environment) (skb : Skb) {code : UInt32} (wide : 256 ≤ code.toNat) :
    env.command skb ≠ code := by
  intro same
  have small := (env.u8 skb 4).toNat_lt
  have value : (env.command skb).toNat = (env.u8 skb 4).toNat := UInt8.toNat_toUInt32 _
  rw [same] at value
  omega

theorem changes_note (c : Card) {e : Event} (plain : e.change = none) :
    changes (c.note e).log = changes c.log := by
  rw [changes, note, List.filterMap_append, List.filterMap_cons_none plain, List.filterMap_nil,
    List.append_nil]
  rfl

theorem sendMessage_changes (capicmd : Capicmd env) (skb : Skb) (c : Card) :
    changes (c.sendMessage env skb).log = changes c.log := by
  have other : env.command skb ≠ env.disconnectB3Resp :=
    command_ne env skb (capicmd.disconnectB3Resp ▸ by decide)
  unfold sendMessage
  rw [if_neg other]
  split
  · rfl
  · dsimp only
    split <;> rfl

theorem registerInternal_changes (capicmd : Capicmd env) (alloc : Bool) (appl : UInt16)
    (rp : RegisterParams) (c : Card) :
    changes (c.registerInternal env alloc appl rp).log = changes c.log := by
  unfold registerInternal
  split
  · exact sendMessage_changes capicmd _ c
  · rfl

theorem releaseInternal_changes (capicmd : Capicmd env) (alloc : Bool) (appl : UInt16) (c : Card) :
    changes (c.releaseInternal env alloc appl).log = changes c.log := by
  unfold releaseInternal
  split
  · exact sendMessage_changes capicmd _ c
  · rfl

theorem write_changes (capicmd : Capicmd env) (memory : Option Memory) (buffer : Skb) (cnr : UInt32)
    (c : Card) : changes (c.write env memory buffer cnr).1.log = changes c.log := by
  have other (skb : Skb) : ¬ (env.command skb = env.connectB3Conf ∨ env.command skb = env.connectB3Ind) :=
    not_or.mpr ⟨command_ne env skb (capicmd.connectB3Conf ▸ by decide),
      command_ne env skb (capicmd.connectB3Ind ▸ by decide)⟩
  unfold write
  split
  · rfl
  · cases memory with
    | none => rfl
    | some memory =>
      dsimp only
      rw [if_neg (other _)]
      exact changes_note c rfl

theorem readQueue_changes (length left : Nat) (queue : List Skb) (c : Card) :
    changes (c.readQueue length left queue).1.log = changes c.log := by
  induction queue generalizing c with
  | nil =>
    rw [readQueue]
    split
    · rfl
    · exact changes_note c rfl
  | cons skb queue ih =>
    rw [readQueue]
    split
    · rfl
    · split
      · rfl
      · split
        · exact ih (c.skbDequeue .short skb queue)
        · split <;> rfl

theorem step_changes (capicmd : Capicmd env) (c : Card) (call : Call) :
    changes (c.step env call).log = changes c.log := by
  cases call with
  | sendMessage skb => exact sendMessage_changes capicmd skb c
  | write memory buffer cnr => exact write_changes capicmd memory buffer cnr c
  | read length left => exact readQueue_changes length left c.outgoingQueue c
  | resetCtr => exact changes_note c.flushQueue rfl
  | release => exact (changes_note (c.tell .suspendOutput).flushQueue rfl).trans (changes_note c rfl)
  | removeCtr alloc =>
    simp only [step, removeCtr]
    split
    · exact (sendMessage_changes capicmd _ _).trans (changes_note c rfl)
    · rfl
  | registerAppl alloc appl rp =>
    have asked : changes (c.note (.asked appl)).log = changes c.log := changes_note c rfl
    simp only [step, registerAppl]
    split
    · exact (changes_note _ rfl).trans asked
    · split
      · exact asked
      · exact (changes_note _ rfl).trans ((registerInternal_changes capicmd alloc appl _ _).trans asked)
  | releaseAppl alloc appl =>
    simp only [step, releaseAppl]
    split
    · exact changes_note c rfl
    · exact (changes_note _ rfl).trans (releaseInternal_changes capicmd alloc appl c)
  | openCard =>
    simp only [step, openCard]
    split
    · exact changes_note _ rfl
    · rfl
  | ioctl num param user =>
    simp only [step, ioctl]
    split
    · split
      · rfl
      · exact changes_note c rfl
    · split
      · exact changes_note _ rfl
      · split
        · exact changes_note c rfl
        · rfl

theorem due_eq_nil_iff (env : Environment) (c : Card) (call : Call) :
    c.due env call = [] ↔ ¬ c.Opens env call ∧ ¬ c.Closes env call := by
  cases call with
  | write memory buffer cnr =>
    rw [due, and_iff_left (show ¬ c.Closes env (.write memory buffer cnr) from not_false)]
    exact ite_eq_right_iff.trans (imp_congr_right fun _ => iff_false_intro (List.cons_ne_nil _ _))
  | sendMessage skb =>
    rw [due, and_iff_right (show ¬ c.Opens env (.sendMessage skb) from not_false)]
    exact ite_eq_right_iff.trans (imp_congr_right fun _ => iff_false_intro (List.cons_ne_nil _ _))
  | _ => exact iff_of_true rfl ⟨not_false, not_false⟩

theorem run_changes (capicmd : Capicmd env) (calls : List Call) :
    changes (run env calls).log = [] := by
  induction calls using List.reverseRecOn with
  | nil => rfl
  | append_singleton calls call ih =>
    rw [run_append]
    exact (step_changes capicmd (run env calls) call).trans ih

theorem counts_iff (capicmd : Capicmd env) {before : List Call} (idle : dues env init before = [])
    (call : Call) : Counts env before call ↔ (run env before).due env call = [] := by
  constructor
  · rintro ⟨told, -⟩
    rw [run_changes capicmd, run_changes capicmd] at told
    exact told.symm
  · intro nothing
    have none : dues env init (before ++ [call]) = [] := by
      rw [dues_append, idle]
      exact nothing
    constructor
    · rw [run_changes capicmd, run_changes capicmd, nothing]
      rfl
    · rw [run_changes capicmd, none]

end Card

/-- In every run, kernelcapi is told of the NCCIs that messages open and close and takes those as open
that are, exactly when no message opens or closes any. -/
theorem nccis_iff (env : Environment) (capicmd : Capicmd env) (calls : List Call) :
    Throughout (Card.Counts env) calls ↔
    Throughout (fun before call =>
      ¬ (Card.run env before).Opens env call ∧ ¬ (Card.run env before).Closes env call) calls := by
  refine throughout_iff_of_invariant (P := fun calls => Card.dues env .init calls = []) rfl ?_ ?_ calls
  · intro before call idle
    rw [Card.counts_iff capicmd idle call]
    exact Card.due_eq_nil_iff env (Card.run env before) call
  · intro before call idle quiet
    rw [Card.dues_append, idle]
    exact (Card.due_eq_nil_iff env (Card.run env before) call).mpr quiet

theorem sample_capicmd : Capicmd .sample := ⟨rfl, rfl, rfl⟩

def connectB3Conf : Skb := [14, 0, 1, 0, 0x82, 0x81, 1, 0, 1, 1, 1, 0, 0, 0]

/-- The daemon answers on a running card, and the application closes the NCCI. -/
def openedAndClosed : List Call :=
  [.openCard, .ioctl ioctlSetData 0 (zeros.write 0 (bytes32 152)), .write (some zeros) connectB3Conf 1,
    .sendMessage [12, 0, 1, 0, 0x84, 0x83, 2, 0, 1, 1, 1, 0]]

/-- A call comes in and is answered, on a card whose daemon gave a negative length. -/
def called : List Call :=
  [.openCard, .ioctl ioctlSetData 0 (zeros.write 0 (bytes32 (-1))),
    .write (some zeros) [12, 0, 1, 0, 0x02, 0x82, 1, 0, 1, 1, 0, 0] 1,
    .sendMessage [12, 0, 1, 0, 0x02, 0x83, 1, 0, 1, 1, 0, 0]]

/-- The messages of the call are passed on, and none of them is about an NCCI. -/
theorem called_counts : Throughout (Card.Counts .sample) called :=
  (nccis_iff .sample sample_capicmd called).mpr (by decide)

/-- Kernelcapi does not learn that the NCCI is open. -/
theorem openedAndClosed_not_counts : ¬ Throughout (Card.Counts .sample) openedAndClosed := by
  intro whole
  have counts := (throughout_iff_getElem _ _).mp whole 2 (by decide)
  have due := (Card.counts_iff sample_capicmd (by decide) _).mp counts
  exact absurd due (by decide)

end CapiProxy.LinuxModule
