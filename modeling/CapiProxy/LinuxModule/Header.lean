import CapiProxy.Bytes.Words

/-! What the kernel module and the client daemon agree on: the messages by which the module asks
the daemon for something, the calls by which the daemon answers, and the states of a card and of
its applications. -/
namespace CapiProxy.LinuxModule
open Bytes

/-- The command of a message that the daemon must not forward to the server. -/
def typeProxy : UInt8 := 0x00
def typeRegisterApp : UInt8 := 0x02
def typeReleaseApp : UInt8 := 0x03
def typeShutdown : UInt8 := 0x04

def ioctlSetData : UInt32 := 0x01
def ioctlErrorRegfail : UInt32 := 0x02
def ioctlApplRegistered : UInt32 := 0x03

inductive Appl where
  | free | confirmed | waiting | revoked
  deriving DecidableEq, Repr

inductive CardStatus where
  | free | running | removing | notReady
  deriving DecidableEq, Repr

/-- A message for the daemon: its length, the application, and what to do. -/
def controlMessage (appl : UInt16) (subcommand : UInt8) (params : List UInt32) : List UInt8 :=
  littleEndian 2 (6 + 4 * params.length) ++ littleEndian 2 appl.toNat ++ [typeProxy, subcommand] ++
    words params

@[simp] theorem length_controlMessage (appl : UInt16) (subcommand : UInt8) (params : List UInt32) :
    (controlMessage appl subcommand params).length = 6 + 4 * params.length := by
  simp only [controlMessage, List.length_append, length_littleEndian, length_words, List.length_cons,
    List.length_nil]

end CapiProxy.LinuxModule
