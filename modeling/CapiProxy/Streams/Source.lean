import Mathlib.Data.List.Basic
import Mathlib.Tactic.Common

/-! A connected stream socket, seen from the receiving side. What the peer sends arrives as
segments, whose borders are the network's choice; after the last one a receive call reports
the end of the stream or an error. Choosing the segments chooses every possible sequence of
receive results. -/
namespace Streams

structure Source (α : Type) where
  segments : List (List α)
  closing : Int
  nonempty : ∀ seg ∈ segments, seg ≠ []
  closing_nonpos : closing ≤ 0

/-- The result of one receive call: its return value, what it stored, and the socket after it. -/
structure Receipt (α : Type) where
  ret : Int
  stored : List α
  rest : Source α

namespace Source
variable {α : Type}

def content (s : Source α) : List α := s.segments.flatten

/-- Receive at most `n` items: the first segment, or the part of it that fits. -/
def recv (s : Source α) (n : Nat) : Receipt α :=
  match h : s.segments with
  | [] => ⟨s.closing, [], s⟩
  | seg :: later =>
    if long : n < seg.length then
      ⟨n, seg.take n, { s with
        segments := seg.drop n :: later
        nonempty := fun x hx => by
          rcases List.mem_cons.mp hx with rfl | hx
          · simpa using long
          · exact s.nonempty x (by simp [h, hx]) }⟩
    else
      ⟨seg.length, seg, { s with
        segments := later
        nonempty := fun x hx => s.nonempty x (by simp [h, hx]) }⟩

/-- A peer that sends these items, received one segment at a time, and closes the stream. -/
def ofSegments (segments : List (List α)) (nonempty : ∀ seg ∈ segments, seg ≠ []) : Source α :=
  ⟨segments, 0, nonempty, Int.le_refl 0⟩

theorem content_eq_nil {s : Source α} : s.content = [] ↔ s.segments = [] := by
  constructor
  · intro h
    cases segs : s.segments with
    | nil => rfl
    | cons seg later =>
      simp only [content, segs, List.flatten_cons, List.append_eq_nil_iff] at h
      exact absurd h.1 (s.nonempty seg (by simp [segs]))
  · intro h
    simp [content, h]

theorem recv_nil {s : Source α} (h : s.segments = []) (n : Nat) : s.recv n = ⟨s.closing, [], s⟩ := by
  unfold recv
  split
  · rfl
  · simp_all

/-- A receive call takes a prefix of the stream. It stores nothing only at the end of the
stream, or when nothing was asked for. -/
theorem recv_spec (s : Source α) (n : Nat) (pos : 0 < n) :
    s.content = (s.recv n).stored ++ (s.recv n).rest.content ∧
    (s.recv n).rest.closing = s.closing ∧
    (s.content = [] ∧ s.recv n = ⟨s.closing, [], s⟩ ∨
      s.content ≠ [] ∧ (s.recv n).stored ≠ [] ∧ (s.recv n).stored.length ≤ n ∧
        (s.recv n).ret = (s.recv n).stored.length) := by
  by_cases h : s.segments = []
  · rw [recv_nil h]
    exact ⟨rfl, rfl, .inl ⟨content_eq_nil.mpr h, rfl⟩⟩
  · have some : s.content ≠ [] := fun empty => h (content_eq_nil.mp empty)
    unfold recv
    split
    · exact absurd ‹_› h
    · rename_i seg later eq
      have nonempty := s.nonempty seg (by simp [eq])
      have whole : s.content = seg ++ later.flatten := by simp [content, eq]
      split
      · rename_i long
        refine ⟨?_, rfl, .inr ⟨some, ?_, ?_, ?_⟩⟩
        · rw [whole, content, List.flatten_cons, ← List.append_assoc, List.take_append_drop]
        · simp only [ne_eq, List.take_eq_nil_iff, not_or]
          exact ⟨by omega, nonempty⟩
        · exact List.length_take_le _ _
        · simp [Nat.min_eq_left (Nat.le_of_lt long)]
      · exact ⟨whole, rfl, .inr ⟨some, nonempty, by dsimp only; omega, rfl⟩⟩

theorem recv_content (s : Source α) (n : Nat) (pos : 0 < n) :
    s.content = (s.recv n).stored ++ (s.recv n).rest.content := (s.recv_spec n pos).1

theorem recv_pos (s : Source α) (n : Nat) (pos : 0 < n) (h : 0 < (s.recv n).ret) :
    (s.recv n).ret = (s.recv n).stored.length ∧ 0 < (s.recv n).stored.length ∧
      (s.recv n).stored.length ≤ n := by
  rcases (s.recv_spec n pos).2.2 with ⟨-, eq⟩ | ⟨-, nonempty, bound, count⟩
  · have := s.closing_nonpos
    rw [eq] at h
    simp only at h
    omega
  · exact ⟨count, List.length_pos_iff.mpr nonempty, bound⟩

theorem recv_ends (s : Source α) (n : Nat) (pos : 0 < n) : (s.recv n).ret ≤ 0 ↔ s.content = [] := by
  rcases (s.recv_spec n pos).2.2 with ⟨empty, eq⟩ | ⟨more, nonempty, -, count⟩
  · simp only [eq, empty, iff_true]
    exact s.closing_nonpos
  · have := List.length_pos_iff.mpr nonempty
    simp only [more, iff_false]
    omega

theorem recv_segment {s : Source α} (h : s.segments = seg :: later) (fits : seg.length ≤ n) :
    (s.recv n).ret = seg.length ∧ (s.recv n).stored = seg ∧ (s.recv n).rest.segments = later := by
  unfold recv
  split
  · simp_all
  · rename_i seg' later' eq
    obtain ⟨rfl, rfl⟩ := List.cons.inj (eq.symm.trans h)
    rw [dif_neg (by omega)]
    exact ⟨rfl, rfl, rfl⟩

end Source
end Streams
