import Aviate.Direct.Endpoint
import Aviate.Foundations.RingBuffer

/-!
# The endpoint's queues

Results:
1. The byte ring is a queue: `push`, `peek` and `consume` append, copy and drop bytes of
   `contents` (`push_spec`, `peek_spec`, `consume_spec`).
2. The command array is a queue: `enqueueCommand` appends and `takeCommand` takes the oldest
   (`Queued.enqueueCommand`, `Queued.takeCommand`).
-/

namespace Aviate.Direct

open RingBuffer

/-! ## The byte ring -/

namespace DirectByteRing

variable {N : Nat} {r : DirectByteRing N} {data out : Bytes} {count : Nat}

/-- The bytes in the ring, oldest first. -/
def contents (r : DirectByteRing N) : Bytes := window r.buf.toList r.head r.len

/-- The cursor is inside the array, and so are the bytes. -/
structure Valid (r : DirectByteRing N) : Prop where
  len_le : r.len ≤ N
  head_lt : r.head < N

theorem valid_new (h : 0 < N) : (new : DirectByteRing N).Valid := ⟨Nat.zero_le N, h⟩

@[simp] theorem contents_new : (new : DirectByteRing N).contents = [] := window_zero

theorem Valid.length_contents (h : r.Valid) : r.contents.length = r.len :=
  length_window (h.len_le.trans (Nat.le_of_eq Vector.length_toList.symm))

theorem pushByte_spec {byte : UInt8} (h : r.Valid) (hroom : r.len < N) :
    (r.pushByte byte).Valid ∧ (r.pushByte byte).contents = r.contents ++ [byte] := by
  refine ⟨⟨hroom, h.head_lt⟩, ?_⟩
  have hcells : r.len < r.buf.toList.length := Nat.lt_of_lt_of_eq hroom Vector.length_toList.symm
  have hset : window (r.buf.toList.set ((r.head + r.len) % N) byte) r.head (r.len + 1) =
      window r.buf.toList r.head r.len ++ [byte] := by
    rw [← window_set hcells, Vector.length_toList]
  rw [contents, pushByte, Vector.toList_setIfInBounds]
  exact hset

theorem foldl_pushByte_spec (h : r.Valid) (hroom : r.len + data.length ≤ N) :
    (data.foldl pushByte r).Valid ∧ (data.foldl pushByte r).contents = r.contents ++ data := by
  induction data generalizing r with
  | nil => exact ⟨h, (List.append_nil _).symm⟩
  | cons byte data ih =>
    rw [List.length_cons] at hroom
    obtain ⟨hvalid, hcontents⟩ : (r.pushByte byte).Valid ∧
        (r.pushByte byte).contents = r.contents ++ [byte] := pushByte_spec h (by omega)
    have hlen : (r.pushByte byte).len = r.len + 1 := rfl
    obtain ⟨hvalid', hcontents'⟩ := ih hvalid (by omega)
    refine ⟨hvalid', hcontents'.trans ?_⟩
    rw [hcontents, List.append_assoc]
    rfl

/-- Pushing appends the prefix that fits. -/
theorem push_spec (h : r.Valid) :
    (r.push data).1 = min data.length r.remainingCapacity ∧ (r.push data).2.Valid ∧
      (r.push data).2.contents = r.contents ++ data.take (r.push data).1 := by
  have hpos : N ≠ 0 := Nat.ne_of_gt (Nat.lt_of_le_of_lt (Nat.zero_le _) h.head_lt)
  have hlen := h.len_le
  have hfit : r.len + (data.take (min data.length r.remainingCapacity)).length ≤ N := by
    rw [List.length_take, remainingCapacity]
    omega
  obtain ⟨hvalid, hcontents⟩ := foldl_pushByte_spec h hfit
  rw [push, if_neg hpos]
  exact ⟨rfl, hvalid, hcontents⟩

/-- Peeking copies the front of the ring over the front of the buffer. -/
theorem peek_spec (h : r.Valid) :
    r.peek out = (min out.length r.len,
      r.contents.take out.length ++ out.drop (min out.length r.len)) := by
  have hpos : N ≠ 0 := Nat.ne_of_gt (Nat.lt_of_le_of_lt (Nat.zero_le _) h.head_lt)
  have hcells : r.len ≤ r.buf.toList.length := h.len_le.trans (Vector.length_toList.symm.le)
  have hlength := h.length_contents
  rw [peek, if_neg hpos]
  refine Prod.ext rfl (List.ext_getElem? fun i => ?_)
  rw [List.getElem?_mapIdx]
  by_cases hi : i < min out.length r.len
  · have hout : i < out.length := by omega
    have hring : i < r.len := by omega
    have hcell : r.contents[i]? = r.buf[(r.head + i) % N]? := by
      rw [contents, getElem?_window hring hcells, Vector.length_toList, Vector.getElem?_toList]
    rw [List.getElem?_append_left (by rw [List.length_take]; omega),
      List.getElem?_take_of_lt hout, hcell, List.getElem?_eq_getElem hout]
    have hlt : (r.head + i) % N < N := Nat.mod_lt _ (Nat.pos_of_ne_zero hpos)
    simp [hi, hlt]
  · rw [List.getElem?_append_right (by rw [List.length_take]; omega), List.getElem?_drop,
      List.length_take, hlength]
    have hindex : min out.length r.len + (i - min out.length r.len) = i := by omega
    rw [hindex]
    simp [hi]

/-- Consuming drops from the front. -/
theorem consume_spec (h : r.Valid) :
    (r.consume count).Valid ∧ (r.consume count).contents = r.contents.drop count ∧
      (r.consume count).len = r.len - count := by
  have hpos : N ≠ 0 := Nat.ne_of_gt (Nat.lt_of_le_of_lt (Nat.zero_le _) h.head_lt)
  have hcells : r.len ≤ r.buf.toList.length := h.len_le.trans (Vector.length_toList.symm.le)
  have hlength := h.length_contents
  rw [consume, if_neg hpos]
  have hlen : r.len - min count r.len = r.len - count := by omega
  refine ⟨⟨(Nat.sub_le _ _).trans h.len_le, ?_⟩, ?_, hlen⟩
  · dsimp only
    split
    · exact Nat.pos_of_ne_zero hpos
    · exact Nat.mod_lt _ (Nat.pos_of_ne_zero hpos)
  · rw [contents]
    dsimp only
    split
    · next hempty =>
      rw [hempty, window_zero, List.drop_eq_nil_of_le (by omega)]
    · next hleft =>
      have hmin : min count r.len = count := by omega
      have hadvance : window r.buf.toList ((r.head + count) % N) (r.len - count) =
          (window r.buf.toList r.head r.len).drop count := by
        rw [← window_advance (by omega) hcells, Vector.length_toList]
      rw [hmin, hadvance, contents]

end DirectByteRing

/-! ## The command queue -/

namespace DirectMavlinkEndpoint

variable {RX TX : Nat} {e : DirectMavlinkEndpoint RX TX} {cmd : SystemCommand F32}
  {cmds : List (SystemCommand F32)}

/-- The commands in the queue, oldest first. -/
structure Queued (e : DirectMavlinkEndpoint RX TX) (cmds : List (SystemCommand F32)) : Prop where
  len_le : e.cmdLen ≤ commandQueueCap
  head_lt : e.cmdHead < commandQueueCap
  window : RingBuffer.window e.cmdQueue.toList e.cmdHead e.cmdLen = cmds.map some

theorem Queued.length (h : e.Queued cmds) : cmds.length = e.cmdLen := by
  have hlength := congrArg List.length h.window
  rw [length_window (h.len_le.trans (Nat.le_of_eq Vector.length_toList.symm)),
    List.length_map] at hlength
  exact hlength.symm

theorem queued_new {sysId compId : UInt8} :
    (new sysId compId : DirectMavlinkEndpoint RX TX).Queued [] :=
  ⟨Nat.zero_le _, Nat.zero_lt_succ _, window_zero⟩

/-- With room in the queue a command is appended. -/
theorem Queued.enqueueCommand (h : e.Queued cmds) (hroom : e.cmdLen < commandQueueCap) :
    (e.enqueueCommand cmd).Queued (cmds ++ [cmd]) := by
  rw [DirectMavlinkEndpoint.enqueueCommand, if_neg (Nat.not_le.mpr hroom)]
  refine ⟨hroom, h.head_lt, ?_⟩
  have hcells : e.cmdLen < e.cmdQueue.toList.length :=
    Nat.lt_of_lt_of_eq hroom Vector.length_toList.symm
  have hset : RingBuffer.window
      (e.cmdQueue.toList.set ((e.cmdHead + e.cmdLen) % commandQueueCap) (some cmd)) e.cmdHead
        (e.cmdLen + 1) = RingBuffer.window e.cmdQueue.toList e.cmdHead e.cmdLen ++ [some cmd] := by
    rw [← window_set hcells, Vector.length_toList]
  rw [Vector.toList_setIfInBounds, hset, h.window, List.map_append]
  rfl

theorem Queued.takeCommand_nil (h : e.Queued []) : e.takeCommand = (none, e) := if_pos h.length.symm

/-- The oldest command is taken. -/
theorem Queued.takeCommand_cons (h : e.Queued (cmd :: cmds)) :
    e.takeCommand.1 = some cmd ∧ e.takeCommand.2.Queued cmds := by
  have hlength := h.length
  rw [List.length_cons] at hlength
  have hle := h.len_le
  have hcells : e.cmdLen ≤ e.cmdQueue.toList.length :=
    h.len_le.trans (Nat.le_of_eq Vector.length_toList.symm)
  have hfirst : e.cmdQueue[e.cmdHead]? = some (some cmd) := by
    rw [← Vector.getElem?_toList, ← window_head (by omega) hcells
      (Nat.lt_of_lt_of_eq h.head_lt Vector.length_toList.symm), h.window]
    rfl
  rw [takeCommand, if_neg (by omega)]
  refine ⟨by rw [hfirst]; rfl, ⟨by dsimp only; omega, ?_, ?_⟩⟩
  · dsimp only
    split
    · decide
    · exact Nat.mod_lt _ (by decide)
  · dsimp only
    rw [Vector.toList_setIfInBounds]
    split
    · next hlast =>
      have hnil : cmds = [] := List.eq_nil_of_length_eq_zero (by omega)
      rw [hlast, hnil]
      rfl
    · next hmore =>
      -- The cleared cell is the last one of the array as seen from the new head.
      have hcell : ((e.cmdHead + 1) % commandQueueCap + (commandQueueCap - 1)) %
          e.cmdQueue.toList.length = e.cmdHead := by
        have hhead := h.head_lt
        rw [Vector.length_toList]
        simp only [commandQueueCap] at hhead ⊢
        omega
      have houtside : RingBuffer.window (e.cmdQueue.toList.set
          (((e.cmdHead + 1) % commandQueueCap + (commandQueueCap - 1)) % e.cmdQueue.toList.length)
          none) ((e.cmdHead + 1) % commandQueueCap) (e.cmdLen - 1) =
            RingBuffer.window e.cmdQueue.toList ((e.cmdHead + 1) % commandQueueCap)
              (e.cmdLen - 1) :=
        window_set_outside (by omega) (by rw [Vector.length_toList]; decide)
      rw [hcell] at houtside
      have hadvance : RingBuffer.window e.cmdQueue.toList ((e.cmdHead + 1) % commandQueueCap)
          (e.cmdLen - 1) = (RingBuffer.window e.cmdQueue.toList e.cmdHead e.cmdLen).drop 1 := by
        rw [← window_advance (by omega) hcells, Vector.length_toList]
      rw [houtside, hadvance, h.window]
      rfl

end DirectMavlinkEndpoint

end Aviate.Direct
