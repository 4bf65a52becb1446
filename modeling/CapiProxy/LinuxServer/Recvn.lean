import CapiProxy.Loops.Rounds
import CapiProxy.LinuxServer.Receive
import CapiProxy.Streams.Chunks

/-! `recvn` with the buffer it fills: its loop advances a pointer and counts an unsigned number down,
and the receive calls may return what they like. -/
namespace CapiProxy.LinuxServer
open Bytes Loops Streams

/-- A receive call: where it was to store how many bytes, and what it returned. -/
structure RecvCall where
  buf : Nat
  len : UInt32
  ret : Int

/-- How far in the stream these calls went. -/
def consumed : List RecvCall → Nat
  | [] => 0
  | call :: calls => call.ret.toNat + consumed calls

/-- A connected socket: what the peer sends, and what a receive call returns after all the calls
before it. It is never more than was asked for; the end of the stream is 0, an error is negative. -/
structure Socket where
  stream : Memory
  returns : List RecvCall → Nat → UInt32 → Int
  at_most : ∀ calls buf len, returns calls buf len ≤ len.toNat

structure Receiver where
  memory : Memory
  calls : List RecvCall

/-- The variables of `recvn`. -/
structure Cursor where
  buf : Nat
  left : UInt32
  receiver : Receiver

namespace Socket

/-- A receive call stores the next bytes of the stream, as many as it returns. -/
def recv (s : Socket) (buf : Nat) (len : UInt32) (r : Receiver) : Int × Receiver :=
  let n := s.returns r.calls buf len
  (n, ⟨r.memory.write buf (s.stream.read (consumed r.calls) n.toNat), r.calls ++ [⟨buf, len, n⟩]⟩)

def round (s : Socket) (size : UInt32) (c : Cursor) : Round Cursor (Int × Receiver) :=
  if c.left = 0 then .leave (ssize size.toNat, c.receiver)
  else
    let (n, receiver) := s.recv c.buf c.left c.receiver
    if n ≤ 0 then .leave (n, receiver)
    else .again ⟨c.buf + n.toNat, c.left - .ofInt n, receiver⟩

/-- `recvn`; `none` means that the fuel ran out. -/
def recvn (s : Socket) (buf : Nat) (size : UInt32) (r : Receiver) (fuel : Nat) : Option (Int × Receiver) :=
  rounds (s.round size) fuel ⟨buf, size, r⟩

end Socket

theorem consumed_append (calls calls' : List RecvCall) :
    consumed (calls ++ calls') = consumed calls + consumed calls' := by
  induction calls with
  | nil => exact (Nat.zero_add _).symm
  | cons call calls ih => rw [List.cons_append, consumed, consumed, ih, Nat.add_assoc]

theorem consumed_singleton (call : RecvCall) : consumed [call] = call.ret.toNat := rfl

theorem toNat_sub_ofInt {left : UInt32} {n : Int} (pos : 0 < n) (most : n ≤ left.toNat) :
    (left - .ofInt n).toNat = left.toNat - n.toNat := by
  obtain ⟨k, rfl⟩ := Int.eq_ofNat_of_zero_le (Int.le_of_lt pos)
  have small := left.toNat_lt
  have value : (UInt32.ofInt (k : Int)).toNat = k := by
    rw [UInt32.ofInt, UInt32.toNat_ofNat']
    omega
  rw [UInt32.toNat_sub_of_le _ _ (by rw [UInt32.le_iff_toNat_le]; omega), value, Int.toNat_natCast]

namespace Socket
variable {s : Socket} {buf : Nat} {size : UInt32} {r : Receiver} {c : Cursor} {calls : List RecvCall}

/-- What was received since `recvn` was called: the memory is as if it had been stored at once. -/
structure Reading (s : Socket) (buf : Nat) (size : UInt32) (r : Receiver) (c : Cursor)
    (calls : List RecvCall) : Prop where
  made : c.receiver.calls = r.calls ++ calls
  pointer : c.buf = buf + consumed calls
  left : consumed calls + c.left.toNat = size.toNat
  memory : c.receiver.memory = r.memory.write buf (s.stream.read (consumed r.calls) (consumed calls))
  positive : ∀ call ∈ calls, 0 < call.ret
  asked : ∀ call ∈ calls, buf ≤ call.buf ∧ call.buf + call.len.toNat ≤ buf + size.toNat

/-- `recvn` returns the size when it has the next bytes of the stream and no others, and otherwise what
ended the stream. No receive call is offered room outside of the buffer. -/
structure Receives (s : Socket) (buf : Nat) (size : UInt32) (r : Receiver) (ret : Int) (r' : Receiver)
    (calls : List RecvCall) : Prop where
  made : r'.calls = r.calls ++ calls
  whole : ret = size.toNat →
    r'.memory.read buf size.toNat = s.stream.read (consumed r.calls) size.toNat ∧
      consumed r'.calls = consumed r.calls + size.toNat
  completes : (∀ call ∈ calls, 0 < call.ret) → ret = size.toNat
  ends : ∀ call ∈ calls, call.ret ≤ 0 → ret = call.ret
  asked : ∀ call ∈ calls, buf ≤ call.buf ∧ call.buf + call.len.toNat ≤ buf + size.toNat
  outside : ∀ q, q < buf ∨ buf + size.toNat ≤ q → r'.memory q = r.memory q

theorem Reading.start (s : Socket) (buf : Nat) (size : UInt32) (r : Receiver) :
    Reading s buf size r ⟨buf, size, r⟩ [] where
  made := (List.append_nil _).symm
  pointer := rfl
  left := Nat.zero_add _
  memory := (Memory.write_nil _ _).symm
  positive := nofun
  asked := nofun

def call (s : Socket) (c : Cursor) : RecvCall := ⟨c.buf, c.left, s.returns c.receiver.calls c.buf c.left⟩

theorem call_ret (s : Socket) (c : Cursor) : (s.recv c.buf c.left c.receiver).1 = (s.call c).ret := rfl

theorem Reading.made_call (reading : Reading s buf size r c calls) :
    (s.recv c.buf c.left c.receiver).2.calls = r.calls ++ (calls ++ [s.call c]) := by
  rw [← List.append_assoc, ← reading.made]
  rfl

/-- What a receive call stores comes right behind what was stored before. -/
theorem Reading.memory_call (reading : Reading s buf size r c calls) :
    (s.recv c.buf c.left c.receiver).2.memory =
      r.memory.write buf (s.stream.read (consumed r.calls) (consumed (calls ++ [s.call c]))) := by
  have stored : consumed c.receiver.calls = consumed r.calls + consumed calls := by
    rw [reading.made, consumed_append]
  rw [consumed_append, consumed_singleton, Memory.read_add, Memory.write_append, Memory.length_read,
    ← reading.memory, ← reading.pointer, ← stored]
  rfl

theorem Reading.asked_call (reading : Reading s buf size r c calls) :
    ∀ call ∈ calls ++ [s.call c], buf ≤ call.buf ∧ call.buf + call.len.toNat ≤ buf + size.toNat := by
  refine List.forall_mem_append.mpr ⟨reading.asked, List.forall_mem_singleton.mpr ?_⟩
  have pointer := reading.pointer
  have left := reading.left
  dsimp only [call]
  omega

theorem Reading.again (reading : Reading s buf size r c calls) (again : s.round size c = .again c') :
    Reading s buf size r c' (calls ++ [s.call c]) ∧ c'.left.toNat < c.left.toNat := by
  have left := reading.left
  have most : (s.call c).ret ≤ c.left.toNat := s.at_most ..
  rw [round] at again
  split at again
  · cases again
  · dsimp only at again
    rw [call_ret] at again
    split at again
    · cases again
    · next got =>
      have pos : 0 < (s.call c).ret := Int.not_le.mp got
      have counted := toNat_sub_ofInt pos most
      obtain rfl := Round.again.inj again
      refine ⟨⟨reading.made_call, ?_, ?_, reading.memory_call, ?_, reading.asked_call⟩, ?_⟩
      · rw [consumed_append, consumed_singleton, ← Nat.add_assoc, ← reading.pointer]
      · rw [consumed_append, consumed_singleton]
        dsimp only
        omega
      · exact List.forall_mem_append.mpr ⟨reading.positive, List.forall_mem_singleton.mpr pos⟩
      · dsimp only
        omega

theorem Reading.leave (reading : Reading s buf size r c calls) (small : size.toNat < 2 ^ 31)
    (leave : s.round size c = .leave (ret, r')) : ∃ calls', Receives s buf size r ret r' calls' := by
  have left := reading.left
  rw [round] at leave
  split at leave
  · next done =>
    obtain ⟨rfl, rfl⟩ := Prod.mk.inj (Round.leave.inj leave)
    rw [done] at left
    have all : consumed calls = size.toNat := left
    have whole : ssize size.toNat = size.toNat := ssize_of_lt small
    refine ⟨calls, reading.made, fun _ => ⟨?_, ?_⟩, fun _ => whole, ?_, reading.asked, ?_⟩
    · rw [reading.memory, all]
      simpa using Memory.read_write r.memory buf (s.stream.read (consumed r.calls) size.toNat)
    · rw [reading.made, consumed_append, all]
    · intro call member ended
      exact absurd (reading.positive call member) (Int.not_lt.mpr ended)
    · intro q outside
      rw [reading.memory, all]
      exact Memory.write_outside _ _ _ _ (by rwa [Memory.length_read])
  · next more =>
    dsimp only at leave
    rw [call_ret] at leave
    split at leave
    · next ended =>
      obtain ⟨rfl, rfl⟩ := Prod.mk.inj (Round.leave.inj leave)
      have stored : consumed (calls ++ [s.call c]) = consumed calls := by
        rw [consumed_append, consumed_singleton, Int.toNat_of_nonpos ended, Nat.add_zero]
      have nonzero : c.left.toNat ≠ 0 := fun zero => more (UInt32.toNat_inj.mp zero)
      refine ⟨calls ++ [s.call c], reading.made_call, fun whole => ?_, fun positive => ?_, ?_,
        reading.asked_call, ?_⟩
      · omega
      · exact absurd (positive (s.call c) (by simp)) (Int.not_lt.mpr ended)
      · intro call member nonpos
        rcases List.mem_append.mp member with earlier | last
        · exact absurd (reading.positive call earlier) (Int.not_lt.mpr nonpos)
        · rw [List.mem_singleton.mp last]
      · intro q outside
        rw [reading.memory_call, stored]
        exact Memory.write_outside _ _ _ _ (by rw [Memory.length_read]; omega)
    · cases leave

end Socket

/-- The socket of a stream in segments: what a call returns is found by making the earlier calls again. -/
def replay (source : Source UInt8) (calls : List RecvCall) : Source UInt8 :=
  calls.foldl (fun source call => (source.recv call.len.toNat).rest) source

theorem recv_at_most (source : Source UInt8) (n : Nat) : (source.recv n).ret ≤ n := by
  rcases Nat.eq_zero_or_pos n with rfl | pos
  · exact source.recv_zero
  · by_cases got : 0 < (source.recv n).ret
    · obtain ⟨count, -, bound⟩ := source.recv_pos n pos got
      omega
    · omega

theorem recv_count (source : Source UInt8) (pos : 0 < n) :
    (source.recv n).ret.toNat = (source.recv n).stored.length := by
  by_cases got : 0 < (source.recv n).ret
  · have counted := (source.recv_pos n pos got).1
    omega
  · have empty := (recv_ended pos (Int.not_lt.mp got)).2.1
    rw [empty, List.length_nil, Int.toNat_of_nonpos (Int.not_lt.mp got)]

def Socket.ofSource (source : Source UInt8) : Socket where
  stream i := source.content.getD i 0
  returns calls _ len := ((replay source calls).recv len.toNat).ret
  at_most _ _ _ := recv_at_most ..

/-- A process that has received the stream up to here. -/
structure Follows (source : Source UInt8) (r : Receiver) (here : Source UInt8) : Prop where
  rest : replay source r.calls = here
  content : here.content = source.content.drop (consumed r.calls)

theorem replay_append (source : Source UInt8) (calls : List RecvCall) (call : RecvCall) :
    replay source (calls ++ [call]) = ((replay source calls).recv call.len.toNat).rest := by
  rw [replay, List.foldl_append]
  rfl

theorem read_content (bytes : List UInt8) (a : Nat) (front : List UInt8)
    (next : bytes.drop a = front ++ back) :
    Memory.read (fun i => bytes.getD i 0) a front.length = front := by
  refine Holds.of_bytes fun i inside => ?_
  have byte : (bytes.drop a)[i]? = front[i]? := by
    rw [next, List.getElem?_append_left inside]
  rw [List.getElem?_drop] at byte
  rw [List.getD_eq_getElem?_getD, byte, List.getElem?_eq_getElem inside, Option.getD_some]

theorem Follows.recv (follows : Follows source r here) (buf : Nat) (len : UInt32) (some : len ≠ 0) :
    ((Socket.ofSource source).recv buf len r).1 = (here.recv len.toNat).ret ∧
    ((Socket.ofSource source).recv buf len r).2.memory =
      r.memory.write buf (here.recv len.toNat).stored ∧
    Follows source ((Socket.ofSource source).recv buf len r).2 (here.recv len.toNat).rest := by
  have pos : 0 < len.toNat := Nat.pos_of_ne_zero fun zero => some (UInt32.toNat_inj.mp zero)
  have ret : (Socket.ofSource source).returns r.calls buf len = (here.recv len.toNat).ret := by
    rw [← follows.rest]
    rfl
  have taken := here.recv_content len.toNat pos
  have count := recv_count here pos
  have read : (Socket.ofSource source).stream.read (consumed r.calls) (here.recv len.toNat).stored.length =
      (here.recv len.toNat).stored :=
    read_content source.content (consumed r.calls) _ (follows.content.symm.trans taken)
  refine ⟨ret, ?_, ?_, ?_⟩
  · simp only [Socket.recv, ret, count, read]
  · simp only [Socket.recv, ret, replay_append, follows.rest]
  · have skip := congrArg (List.drop (here.recv len.toNat).stored.length) (follows.content.symm.trans taken)
    simp only [Socket.recv, ret, consumed_append, consumed_singleton, count]
    rw [List.drop_left, List.drop_drop] at skip
    exact skip.symm

/-- What the loop without a pointer has still to do. -/
structure Simulates (source : Source UInt8) (buf : Nat) (size : UInt32) (m : Memory)
    (receipt : Receipt UInt8) (c : Cursor) (stored : List UInt8) (here : Source UInt8) : Prop where
  todo : recvnLoop size.toNat c.left.toNat stored here = receipt
  pointer : c.buf = buf + stored.length
  memory : c.receiver.memory = m.write buf stored
  follows : Follows source c.receiver here

theorem Simulates.start (follows : Follows source r here) (buf : Nat) (size : UInt32) :
    Simulates source buf size r.memory (recvn here size.toNat) ⟨buf, size, r⟩ [] here where
  todo := rfl
  pointer := rfl
  memory := (Memory.write_nil _ _).symm
  follows := follows

theorem Simulates.again (simulates : Simulates source buf size m receipt c stored here)
    (again : (Socket.ofSource source).round size c = .again c') :
    (∃ stored' here', Simulates source buf size m receipt c' stored' here') ∧
      c'.left.toNat < c.left.toNat := by
  rw [Socket.round] at again
  split at again
  · cases again
  · next more =>
    have nonzero : c.left.toNat ≠ 0 := fun zero => more (UInt32.toNat_inj.mp zero)
    have pos := Nat.pos_of_ne_zero nonzero
    obtain ⟨ret, memory, follows⟩ := simulates.follows.recv c.buf c.left more
    have count := recv_count here pos
    dsimp only at again
    rw [ret] at again
    split at again
    · cases again
    · next got =>
      have left := toNat_sub_ofInt (Int.not_le.mp got) (recv_at_most here c.left.toNat)
      obtain rfl := Round.again.inj again
      refine ⟨⟨stored ++ (here.recv c.left.toNat).stored, _, ?_, ?_, ?_, follows⟩, ?_⟩
      · rw [← simulates.todo, recvnLoop_continues nonzero got, left]
      · rw [List.length_append, ← Nat.add_assoc, ← simulates.pointer, count]
      · rw [memory, simulates.memory, simulates.pointer, Memory.write_append]
      · dsimp only
        omega

theorem Simulates.leave (simulates : Simulates source buf size m receipt c stored here)
    (leave : (Socket.ofSource source).round size c = .leave (ret, r')) :
    ret = receipt.ret ∧ r'.memory = m.write buf receipt.stored ∧ Follows source r' receipt.rest := by
  rw [Socket.round] at leave
  split at leave
  · next done =>
    obtain ⟨rfl, rfl⟩ := Prod.mk.inj (Round.leave.inj leave)
    have all : receipt = ⟨ssize size.toNat, stored, here⟩ := by
      rw [← simulates.todo, done, UInt32.toNat_zero, recvnLoop_zero]
    subst all
    dsimp only
    exact ⟨rfl, simulates.memory, simulates.follows⟩
  · next more =>
    have nonzero : c.left.toNat ≠ 0 := fun zero => more (UInt32.toNat_inj.mp zero)
    have pos := Nat.pos_of_ne_zero nonzero
    obtain ⟨same, memory, follows⟩ := simulates.follows.recv c.buf c.left more
    dsimp only at leave
    rw [same] at leave
    split at leave
    · next ended =>
      obtain ⟨rfl, rfl⟩ := Prod.mk.inj (Round.leave.inj leave)
      rw [(recv_ended pos ended).2.1, Memory.write_nil, simulates.memory] at memory
      rw [← simulates.todo, recvnLoop_ends nonzero ended]
      exact ⟨rfl, memory, follows⟩
    · cases leave

/-- On the socket of a stream, `recvn` returns and stores what the receive loop of `main` takes from
that stream. -/
theorem recvn_refines (follows : Follows source r here) (buf : Nat) (size : UInt32) :
    ∃ r', (∀ fuel, size.toNat < fuel →
        (Socket.ofSource source).recvn buf size r fuel = some ((recvn here size.toNat).ret, r')) ∧
      r'.memory = r.memory.write buf (recvn here size.toNat).stored ∧
      Follows source r' (recvn here size.toNat).rest := by
  obtain ⟨⟨ret, r'⟩, ends, rfl, memory, follows'⟩ : ∃ result : Int × Receiver,
      (∀ fuel, size.toNat < fuel → (Socket.ofSource source).recvn buf size r fuel = some result) ∧
        result.1 = (recvn here size.toNat).ret ∧
        result.2.memory = r.memory.write buf (recvn here size.toNat).stored ∧
        Follows source result.2 (recvn here size.toNat).rest := by
    refine rounds_end (P := fun c => ∃ stored here',
      Simulates source buf size r.memory (recvn here size.toNat) c stored here') (fun c => c.left.toNat) ?_ ?_
      ⟨[], here, .start follows buf size⟩
    · rintro c c' ⟨stored, here', simulates⟩ again
      exact simulates.again again
    · rintro c ⟨ret, r'⟩ ⟨stored, here', simulates⟩ leave
      exact simulates.leave leave
  exact ⟨r', ends, memory, follows'⟩

/-- Whatever the receive calls return, `recvn` ends, and it has read exactly what it was asked for or
reports why not. -/
theorem recvn_receives (s : Socket) (buf : Nat) (size : UInt32) (r : Receiver)
    (small : size.toNat < 2 ^ 31) :
    ∃ ret r' calls, (∀ fuel, size.toNat < fuel → s.recvn buf size r fuel = some (ret, r')) ∧
      s.Receives buf size r ret r' calls := by
  obtain ⟨⟨ret, r'⟩, ends, calls, receives⟩ : ∃ result,
      (∀ fuel, size.toNat < fuel → s.recvn buf size r fuel = some result) ∧
        ∃ calls, s.Receives buf size r result.1 result.2 calls := by
    refine rounds_end (P := fun c => ∃ calls, s.Reading buf size r c calls) (fun c => c.left.toNat) ?_ ?_
      ⟨[], .start s buf size r⟩
    · rintro c c' ⟨calls, reading⟩ again
      obtain ⟨reading', lower⟩ := reading.again again
      exact ⟨⟨_, reading'⟩, lower⟩
    · rintro c ⟨ret, r'⟩ ⟨calls, reading⟩ leave
      exact reading.leave small leave
  exact ⟨ret, r', calls, ends, receives⟩

def sevenBytes : Source UInt8 := .ofSegments [[1, 2, 3], [4, 5, 6, 7]] (by decide)

theorem sevenBytes_receives :
    ∃ ret r' calls,
      (∀ fuel, (5 : UInt32).toNat < fuel →
        (Socket.ofSource sevenBytes).recvn 100 5 ⟨zeros, []⟩ fuel = some (ret, r')) ∧
      (Socket.ofSource sevenBytes).Receives 100 5 ⟨zeros, []⟩ ret r' calls :=
  recvn_receives (.ofSource sevenBytes) 100 5 ⟨zeros, []⟩ (by decide)

example : ((Socket.ofSource sevenBytes).recvn 100 5 ⟨zeros, []⟩ 6).map
    (fun (ret, r') => (ret, r'.memory.read 100 6, consumed r'.calls)) =
      some (5, [1, 2, 3, 4, 5, 0], 5) := by decide

end CapiProxy.LinuxServer
