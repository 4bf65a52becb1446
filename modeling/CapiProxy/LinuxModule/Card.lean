import CapiProxy.LinuxModule.Controller
import CapiProxy.LinuxModule.Header
import CapiProxy.LinuxModule.SkBuff
import CapiProxy.Queues.Journal
import Mathlib.Logic.Function.Basic

/-! A card of the kernel module: the operations that kernelcapi calls, and the file operations of
the daemon. They run one after another. -/
namespace CapiProxy.LinuxModule
open Bytes Queues

def maxSkPending : Int := 32

/-- A socket buffer, by its `len` bytes of data. -/
abbrev Skb := List UInt8

/-- What the kernel headers define: `CAPI_MAXAPPL`, `CAPI_MAXDATAWINDOW`, the macros that read a
message, and three command codes. -/
structure Environment where
  capiMaxappl : UInt16
  capiMaxdatawindow : UInt32
  u8 : Skb → Nat → UInt8
  u16 : Skb → Nat → UInt16
  u32 : Skb → Nat → UInt32
  disconnectB3Resp : UInt32
  connectB3Conf : UInt32
  connectB3Ind : UInt32

namespace Environment

def appid (env : Environment) (skb : Skb) : UInt16 := env.u16 skb 2
def command (env : Environment) (skb : Skb) : UInt32 := (env.u8 skb 4).toUInt32
def ncci (env : Environment) (skb : Skb) : UInt32 := env.u32 skb 8

end Environment

inductive Callback where
  | attachCtr | detachCtr | ready | reseted | suspendOutput
  | applRegistered (appl : UInt16)
  | applReleased (appl : UInt16)
  | freeNcci (appl : UInt16) (ncci : UInt32)
  | newNcci (appl : UInt16) (ncci window : UInt32)
  | handleCapimsg (appl : UInt16) (skb : Skb)
  deriving DecidableEq, Repr

inductive Fate where
  | read | flushed | short
  deriving DecidableEq, Repr

/-- What happened on a card: kernelcapi was `told` something or `asked` for an application, an
application began to wait for a message that went into the queue as the n-th (or was lost), or
the reader took a buffer from an empty queue. -/
inductive Event where
  | told (callback : Callback)
  | asked (appl : UInt16)
  | waiting (appl : UInt16) (message : Option Nat)
  | nullBuffer
  deriving DecidableEq, Repr

/-- The table has a cell for each application id from 1 to `CAPI_MAXAPPL`; the cells of other ids
stand for the memory around it. -/
structure Card where
  status : CardStatus
  ctrl : CapiCtr
  outgoingQueue : List Skb
  skPending : Int
  applications : UInt16 → Appl
  journal : Journal Skb Fate
  log : List Event

structure RegisterParams where
  level3cnt : UInt32
  datablkcnt : UInt32
  datablklen : UInt32
  deriving DecidableEq, Repr

inductive ReadResult where
  | copied (skb : Skb)
  | emsgsize
  | notCopied (left : Nat)
  | eagain
  | oops
  deriving DecidableEq, Repr

namespace Card

def init : Card := ⟨.free, .blank, [], 0, fun _ => .free, .empty, []⟩

def note (c : Card) (e : Event) : Card := { c with log := c.log ++ [e] }
def tell (c : Card) (callback : Callback) : Card := c.note (.told callback)
def enter (c : Card) (status : CardStatus) : Card := { c with status }

def applMark (state : Appl) (appl : UInt16) (c : Card) : Card :=
  { c with applications := Function.update c.applications appl state }

def applMarkFree := applMark .free
def applMarkWaiting := applMark .waiting
def applMarkConfirmed := applMark .confirmed
def applMarkRevoked := applMark .revoked

def applIsFree (c : Card) (appl : UInt16) : Bool := c.applications appl = .free

def validApplid (env : Environment) (c : Card) (appl : UInt16) : Bool :=
  appl ≠ 0 ∧ appl ≤ env.capiMaxappl ∧ c.applications appl ≠ .free

def flushQueue (c : Card) : Card :=
  { c with
    outgoingQueue := []
    skPending := 0
    journal := c.journal.leave .flushed c.outgoingQueue }

def skbQueueTail (skb : Skb) (c : Card) : Card :=
  { c with
    outgoingQueue := c.outgoingQueue ++ [skb]
    skPending := c.skPending + 1
    journal := c.journal.accept skb }

def sendMessage (env : Environment) (skb : Skb) (c : Card) : Card :=
  if c.status = .free then c
  else
    let c := if env.command skb = env.disconnectB3Resp then
      c.tell (.freeNcci (env.appid skb) (env.ncci skb)) else c
    if c.skPending > maxSkPending then c else c.skbQueueTail skb

/-- Without memory for its message, the controller is not removed. -/
def removeCtr (env : Environment) (alloc : Bool) (c : Card) : Card :=
  if alloc then
    (((c.tell .suspendOutput).flushQueue).enter .removing).sendMessage env
      (controlMessage 0 typeShutdown [])
  else c

def resetCtr (c : Card) : Card := c.flushQueue.tell .reseted

def registerInternal (env : Environment) (alloc : Bool) (appl : UInt16) (rp : RegisterParams)
    (c : Card) : Card :=
  if alloc then
    c.sendMessage env
      (controlMessage appl typeRegisterApp [rp.level3cnt, rp.datablkcnt, rp.datablklen])
  else c

/-- Mark an application as waiting for its registration, whatever became of the message. -/
def await (appl : UInt16) (before after : Card) : Card :=
  (after.applMarkWaiting appl).note (.waiting appl
    (if before.journal.accepted.length < after.journal.accepted.length then
      some before.journal.accepted.length else none))

def registerAppl (env : Environment) (alloc : Bool) (appl : UInt16) (rp : RegisterParams)
    (c : Card) : Card :=
  let c := c.note (.asked appl)
  if c.status = .free then c.tell (.applReleased appl)
  else if !c.applIsFree appl then c
  else
    let arp : RegisterParams := {
      level3cnt := rp.level3cnt
      datablkcnt := if rp.datablkcnt > env.capiMaxdatawindow then env.capiMaxdatawindow
        else rp.datablkcnt
      datablklen := if rp.datablklen > 1024 then 1024 else rp.datablklen }
    await appl c (c.registerInternal env alloc appl arp)

def releaseInternal (env : Environment) (alloc : Bool) (appl : UInt16) (c : Card) : Card :=
  if alloc then c.sendMessage env (controlMessage appl typeReleaseApp []) else c

def releaseAppl (env : Environment) (alloc : Bool) (appl : UInt16) (c : Card) : Card :=
  if !c.validApplid env appl || c.applIsFree appl then c.tell (.applReleased appl)
  else ((c.releaseInternal env alloc appl).applMarkFree appl).tell (.applReleased appl)

/-- `IOCTL_SET_DATA` gets the address of the data in the memory of the daemon; the two other calls get
an application id. -/
def ioctl (num param : UInt32) (user : Memory) (c : Card) : Card :=
  let appl := param.toUInt16
  if num = ioctlSetData then
    match setData user param.toNat with
    | none => c
    | some ctrl => ({ c with ctrl }.tell .ready).enter .running
  else if num = ioctlErrorRegfail then (c.applMarkRevoked appl).tell (.applReleased appl)
  else if num = ioctlApplRegistered then (c.tell (.applRegistered appl)).applMarkConfirmed appl
  else c

def skbDequeue (fate : Fate) (skb : Skb) (queue : List Skb) (c : Card) : Card :=
  { c with
    outgoingQueue := queue
    skPending := c.skPending - 1
    journal := c.journal.leave fate [skb] }

/-- The reader at a queue. A buffer that is too long for the user's, or that `copy_to_user` leaves
`left` bytes of, goes back to the head. -/
def readQueue (length left : Nat) (c : Card) : List Skb → Card × ReadResult
  | [] => if c.skPending = 0 then (c, .eagain) else (c.note .nullBuffer, .oops)
  | skb :: queue =>
    if c.skPending = 0 then (c, .eagain)
    else if skb.length > length then (c, .emsgsize)
    else if skb.length < 6 then
      -- a message that is too short is dropped, and the next one is read
      readQueue length left (c.skbDequeue .short skb queue) queue
    else if left ≠ 0 then (c, .notCopied left)
    else (c.skbDequeue .read skb queue, .copied skb)

def read (length left : Nat) (c : Card) : Card × ReadResult :=
  c.readQueue length left c.outgoingQueue

/-- The buffer is taken from `memory`, if there is any. The NCCI gets the number of the controller
in a variable only. -/
def write (env : Environment) (memory : Option Memory) (buffer : Skb) (cnr : UInt32) (c : Card) :
    Card × Int :=
  if c.status ≠ .running then (c, -1)
  else
    match memory with
    | none => (c, -1)
    | some memory =>
      let skb := (SkBuff.ofUser memory buffer).data
      let appl := env.appid skb
      let ncci := (env.ncci skb &&& 0xFFFFFF80) + cnr
      let c := if env.command skb = env.connectB3Conf ∨ env.command skb = env.connectB3Ind then
        c.tell (.newNcci appl ncci env.capiMaxdatawindow) else c
      (c.tell (.handleCapimsg appl skb), buffer.length)

def initAppls (env : Environment) (c : Card) : Card :=
  { c with
    applications := fun appl =>
      if appl ≠ 0 ∧ appl ≤ env.capiMaxappl then .free else c.applications appl }

def openCard (env : Environment) (c : Card) : Card :=
  if c.status = .free then (((c.initAppls env).flushQueue).enter .notReady).tell .attachCtr else c

def release (c : Card) : Card :=
  (((c.tell .suspendOutput).flushQueue).tell .detachCtr).enter .free

end Card

/-- The calls into the module. `alloc` says whether `alloc_skb` succeeds, `memory` where a buffer is,
`left` how many bytes `copy_to_user` does not copy. -/
inductive Call where
  | sendMessage (skb : Skb)
  | registerAppl (alloc : Bool) (appl : UInt16) (rp : RegisterParams)
  | releaseAppl (alloc : Bool) (appl : UInt16)
  | resetCtr
  | removeCtr (alloc : Bool)
  | openCard
  | release
  | read (length left : Nat)
  | write (memory : Option Memory) (buffer : Skb) (cnr : UInt32)
  | ioctl (num param : UInt32) (user : Memory)

namespace Card

def step (env : Environment) (c : Card) : Call → Card
  | .sendMessage skb => c.sendMessage env skb
  | .registerAppl alloc appl rp => c.registerAppl env alloc appl rp
  | .releaseAppl alloc appl => c.releaseAppl env alloc appl
  | .resetCtr => c.resetCtr
  | .removeCtr alloc => c.removeCtr env alloc
  | .openCard => c.openCard env
  | .release => c.release
  | .read length left => (c.read length left).1
  | .write memory buffer cnr => (c.write env memory buffer cnr).1
  | .ioctl num param user => c.ioctl num param user

def run (env : Environment) (calls : List Call) : Card := calls.foldl (step env) init

theorem run_append (env : Environment) (calls : List Call) (call : Call) :
    run env (calls ++ [call]) = (run env calls).step env call := by
  rw [run, List.foldl_append]
  rfl

end Card
end CapiProxy.LinuxModule
