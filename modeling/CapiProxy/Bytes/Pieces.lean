import CapiProxy.Bytes.Memory

/-! Memory that is written piece by piece, and the bounds of what is written. -/
namespace Bytes

/-- Each piece with the address it goes to, in the order of writing. -/
abbrev Pieces := List (Nat × List UInt8)

def Memory.writeAll (m : Memory) (pieces : Pieces) : Memory :=
  pieces.foldl (fun m piece => m.write piece.1 piece.2) m

def Within (size : Nat) (pieces : Pieces) : Prop := ∀ piece ∈ pieces, piece.1 + piece.2.length ≤ size

@[simp] theorem within_nil (size : Nat) : Within size [] := by
  intro piece none
  cases none

@[simp] theorem within_cons_iff {size : Nat} {piece : Nat × List UInt8} {pieces : Pieces} :
    Within size (piece :: pieces) ↔ piece.1 + piece.2.length ≤ size ∧ Within size pieces :=
  List.forall_mem_cons

theorem Memory.writeAll_cons (m : Memory) (piece : Nat × List UInt8) (pieces : Pieces) :
    m.writeAll (piece :: pieces) = (m.write piece.1 piece.2).writeAll pieces := rfl

theorem Memory.writeAll_behind (m : Memory) {pieces : Pieces} (within : Within size pieces)
    (behind : size ≤ q) : m.writeAll pieces q = m q := by
  induction pieces generalizing m with
  | nil => rfl
  | cons piece pieces ih =>
    obtain ⟨first, rest⟩ := within_cons_iff.mp within
    rw [writeAll_cons, ih _ rest, write_outside _ _ _ _ (.inr (Nat.le_trans first behind))]

end Bytes
