import CapiProxy.Streams.Source

/-! Receiving with one receive call at a time. The results of the calls are the chunks of the
stream, and a loop that handles each result as it comes is a fold over them. -/
namespace Streams
namespace Source
variable {α σ : Type}

theorem recv_zero (s : Source α) : (s.recv 0).ret ≤ 0 := by
  unfold recv
  split
  · exact s.closing_nonpos
  · next seg later eq =>
    have nonempty := s.nonempty seg (by simp [eq])
    rw [dif_pos (List.length_pos_iff.mpr nonempty)]
    exact Int.le_refl 0

theorem recv_shrinks (s : Source α) (n : Nat) (got : ¬ (s.recv n).ret ≤ 0) :
    (s.recv n).rest.content.length < s.content.length := by
  rcases Nat.eq_zero_or_pos n with rfl | pos
  · exact absurd s.recv_zero got
  · obtain ⟨-, some, -⟩ := s.recv_pos n pos (by omega)
    rw [s.recv_content n pos, List.length_append]
    omega

/-- The results of successive receive calls for at most `n` items. -/
def chunks (n : Nat) (s : Source α) : List (List α) :=
  if _ : (s.recv n).ret ≤ 0 then [] else (s.recv n).stored :: chunks n (s.recv n).rest
termination_by s.content.length
decreasing_by exact s.recv_shrinks n (by assumption)

theorem chunks_ended {s : Source α} (ended : (s.recv n).ret ≤ 0) : s.chunks n = [] := by
  rw [chunks, dif_pos ended]

theorem chunks_continues {s : Source α} (got : ¬ (s.recv n).ret ≤ 0) :
    s.chunks n = (s.recv n).stored :: (s.recv n).rest.chunks n := by
  rw [chunks, dif_neg got]

theorem chunks_flatten (pos : 0 < n) (s : Source α) : (s.chunks n).flatten = s.content := by
  fun_induction chunks n s with
  | case1 s ended => rw [(s.recv_ends n pos).mp ended, List.flatten_nil]
  | case2 s got ih => rw [List.flatten_cons, ih, ← s.recv_content n pos]

theorem chunks_bounds (pos : 0 < n) (s : Source α) : ∀ c ∈ s.chunks n, c ≠ [] ∧ c.length ≤ n := by
  fun_induction chunks n s with
  | case1 => simp
  | case2 s got ih =>
    obtain ⟨-, some, bound⟩ := s.recv_pos n pos (by omega)
    exact List.forall_mem_cons.mpr ⟨⟨List.length_pos_iff.mp some, bound⟩, ih⟩

theorem chunks_segments (s : Source α) (fits : ∀ seg ∈ s.segments, seg.length ≤ n) :
    s.chunks n = s.segments := by
  fun_induction chunks n s with
  | case1 s ended =>
    cases segs : s.segments with
    | nil => rfl
    | cons seg later =>
      have nonempty := List.length_pos_iff.mpr (s.nonempty seg (by simp [segs]))
      have whole := (recv_segment segs (fits seg (by simp [segs]))).1
      omega
  | case2 s got ih =>
    cases segs : s.segments with
    | nil =>
      have closing := s.closing_nonpos
      rw [recv_nil segs] at got
      exact absurd closing got
    | cons seg later =>
      obtain ⟨-, stored, rest⟩ := recv_segment segs (fits seg (by simp [segs]))
      rw [stored, ih (by rw [rest]; exact fun x hx => fits x (by simp [segs, hx])), rest]

end Source

/-- What a loop made of one chunk: the packet it handed on, if any. -/
structure Delivery (α : Type) where
  chunk : List α
  packet : Option (List α)

namespace Delivery
variable {α : Type} {deliveries : List (Delivery α)}

def packets (deliveries : List (Delivery α)) : List (List α) := deliveries.filterMap packet

theorem packets_none {d : Delivery α} (handed : d.packet = none) :
    packets (d :: deliveries) = packets deliveries := List.filterMap_cons_none handed

theorem packets_some {d : Delivery α} (handed : d.packet = some p) :
    packets (d :: deliveries) = p :: packets deliveries := List.filterMap_cons_some handed

/-- Every packet consists of bytes of its own chunk. -/
def Own (deliveries : List (Delivery α)) : Prop :=
  ∀ d ∈ deliveries, ∀ p, d.packet = some p → p <+: d.chunk

theorem length_packets_le (own : Own deliveries) :
    (packets deliveries).flatten.length ≤ (deliveries.map chunk).flatten.length := by
  induction deliveries with
  | nil => exact Nat.le_refl 0
  | cons d later ih =>
    have tail := ih fun e member => own e (List.mem_cons_of_mem d member)
    have head := own d List.mem_cons_self
    cases handed : d.packet with
    | none =>
      simp only [packets_none handed, List.map_cons, List.flatten_cons, List.length_append]
      omega
    | some p =>
      have bound := (head p handed).length_le
      simp only [packets_some handed, List.map_cons, List.flatten_cons, List.length_append]
      omega

theorem packets_eq_chunks (own : Own deliveries) (nonempty : ∀ d ∈ deliveries, d.chunk ≠ [])
    (all : (packets deliveries).flatten = (deliveries.map chunk).flatten) :
    packets deliveries = deliveries.map chunk := by
  replace all := congrArg List.length all
  induction deliveries with
  | nil => rfl
  | cons d later ih =>
    have own' : Own later := fun e member => own e (List.mem_cons_of_mem d member)
    have tail := length_packets_le own'
    have some' := List.length_pos_iff.mpr (nonempty d List.mem_cons_self)
    cases handed : d.packet with
    | none =>
      simp only [packets_none handed, List.map_cons, List.flatten_cons, List.length_append] at all
      omega
    | some p =>
      have head := own d List.mem_cons_self p handed
      have bound := head.length_le
      simp only [packets_some handed, List.map_cons, List.flatten_cons, List.length_append] at all ⊢
      rw [head.eq_of_length (by omega),
        ih own' (fun e member => nonempty e (List.mem_cons_of_mem d member)) (by omega)]

end Delivery
end Streams
