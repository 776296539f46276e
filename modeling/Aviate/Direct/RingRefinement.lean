import Aviate.Direct.Queues
import Aviate.Foundations.BoundedFifo

/-!
# The byte ring is a bounded queue

`ringMachine` is a client of the ring, `BoundedFifo.batches` the same client of a list of at most
`N` bytes.

Results:
1. Each operation keeps the two in step and returns the same (`step_simulates`).
2. So does every run from the empty ring, for every capacity (`ring_refines_fifo`).
-/

namespace Aviate.Direct

open RingBuffer

namespace DirectByteRing

variable {N : Nat} {r : DirectByteRing N} {q : BoundedFifo UInt8 N} {data out : Bytes} {count : Nat}

/-- A client of the ring. -/
def ringMachine (N : Nat) : Machine (DirectByteRing N) (BatchOp UInt8) (BatchReply UInt8) where
  step r
    | .push data => ((r.push data).2, .written (r.push data).1)
    | .pushAll data => ((r.pushAll data).2, .accepted (r.pushAll data).1)
    | .peek out => (r, .copied (r.peek out).1 (r.peek out).2)
    | .consume count => (r.consume count, .removed (r.removed count))
    | .pop out => ((r.pop out).2, .copied (r.pop out).1.1 (r.pop out).1.2)
    | .clear => (r.clear, .cleared)

/-- The ring holds the bytes of the list. A ring without cells is empty. -/
structure Holds (r : DirectByteRing N) (q : BoundedFifo UInt8 N) : Prop where
  valid : N ≠ 0 → r.Valid
  empty : N = 0 → r.len = 0
  contents : r.contents = q.items

theorem holds_new : (new : DirectByteRing N).Holds .empty :=
  ⟨fun h => valid_new (Nat.pos_of_ne_zero h), fun _ => rfl, contents_new⟩

namespace Holds

theorem len_le (h : r.Holds q) : r.len ≤ N := by
  by_cases hN : N = 0
  · rw [h.empty hN]
    exact Nat.zero_le N
  · exact (h.valid hN).len_le

theorem length_items (h : r.Holds q) : q.items.length = r.len := by
  rw [← h.contents]
  exact length_window (h.len_le.trans (Nat.le_of_eq Vector.length_toList.symm))

theorem remaining (h : r.Holds q) : N - q.items.length = r.remainingCapacity := by
  rw [h.length_items]
  rfl

/-- Without cells there is nothing to read. -/
theorem items_nil (h : r.Holds q) (hN : N = 0) : q.items = [] :=
  List.eq_nil_of_length_eq_zero (h.length_items.trans (h.empty hN))

theorem push (h : r.Holds q) (data : Bytes) :
    (r.push data).2.Holds (q.append data) ∧
      (r.push data).1 = min data.length (N - q.items.length) := by
  by_cases hN : N = 0
  · have hpush : r.push data = (0, r) := if_pos hN
    have hroom : N - q.items.length = 0 := by omega
    rw [hpush, hroom]
    refine ⟨⟨h.valid, h.empty, ?_⟩, (Nat.min_zero _).symm⟩
    rw [BoundedFifo.append_items, hroom, List.take_zero, List.append_nil]
    exact h.contents
  · obtain ⟨hcount, hvalid, hcontents⟩ := @push_spec N r data (h.valid hN)
    rw [h.remaining]
    refine ⟨⟨fun _ => hvalid, fun hzero => absurd hzero hN, ?_⟩, hcount⟩
    rw [hcontents, h.contents, hcount, BoundedFifo.append_items, h.remaining, Nat.min_comm,
      ← List.take_take, List.take_length]

theorem peek (h : r.Holds q) : r.peek out = (min out.length q.items.length, q.copy out) := by
  by_cases hN : N = 0
  · have hpeek : r.peek out = (0, out) := if_pos hN
    rw [hpeek, BoundedFifo.copy, h.items_nil hN]
    simp
  · rw [peek_spec (h.valid hN), h.contents, h.length_items, BoundedFifo.copy, h.length_items]

theorem removed (h : r.Holds q) : r.removed count = min count q.items.length := by
  rw [h.length_items, DirectByteRing.removed]
  split
  · next hN => rw [h.empty hN, Nat.min_zero]
  · rfl

theorem consume (h : r.Holds q) (count : Nat) : (r.consume count).Holds (q.drop count) := by
  by_cases hN : N = 0
  · have hconsume : r.consume count = r := if_pos hN
    have hdrop : q.items.drop count = q.items := by rw [h.items_nil hN, List.drop_nil]
    rw [hconsume]
    exact ⟨h.valid, h.empty, h.contents.trans hdrop.symm⟩
  · obtain ⟨hvalid, hcontents, -⟩ := @consume_spec N r count (h.valid hN)
    refine ⟨fun _ => hvalid, fun hzero => absurd hzero hN, ?_⟩
    rw [hcontents, h.contents]
    rfl

/-- A batch that does not fit is refused whole. -/
theorem pushAll_refused (h : r.Holds q) (hroom : ¬ q.items.length + data.length ≤ N) :
    r.pushAll data = (false, r) := by
  have hlen := h.length_items
  have hle := h.len_le
  rw [pushAll, if_pos]
  rw [remainingCapacity]
  omega

theorem pushAll_accepted (h : r.Holds q) (hroom : q.items.length + data.length ≤ N) :
    r.pushAll data = (true, (r.push data).2) := by
  have hlen := h.length_items
  have hle := h.len_le
  rw [pushAll, if_neg]
  rw [remainingCapacity]
  omega

/-- Consuming what was copied is consuming what was asked for. -/
theorem pop (h : r.Holds q) (out : Bytes) :
    (r.pop out).2.Holds (q.drop out.length) ∧
      (r.pop out).1 = (min out.length q.items.length, q.copy out) := by
  rw [DirectByteRing.pop, h.peek, ← q.drop_min]
  exact ⟨h.consume _, rfl⟩

theorem clear : r.clear.Holds .empty :=
  ⟨fun hN => ⟨Nat.zero_le N, Nat.pos_of_ne_zero hN⟩, fun _ => rfl, window_zero⟩

end Holds

/-- One operation on the ring is the operation on the list. -/
theorem step_simulates (r : DirectByteRing N) (q : BoundedFifo UInt8 N) (op : BatchOp UInt8)
    (h : r.Holds q) :
    ((ringMachine N).step r op).1.Holds (BoundedFifo.batches.step q op).1 ∧
      ((ringMachine N).step r op).2 = (BoundedFifo.batches.step q op).2 := by
  cases op with
  | push data =>
    obtain ⟨hholds, hcount⟩ := h.push data
    exact ⟨hholds, congrArg BatchReply.written hcount⟩
  | pushAll data =>
    unfold ringMachine BoundedFifo.batches
    dsimp only
    by_cases hroom : q.items.length + data.length ≤ N
    · rw [h.pushAll_accepted hroom, if_pos hroom]
      exact ⟨(h.push data).1, rfl⟩
    · rw [h.pushAll_refused hroom, if_neg hroom]
      exact ⟨h, rfl⟩
  | peek out =>
    unfold ringMachine BoundedFifo.batches
    dsimp only
    rw [h.peek]
    exact ⟨h, rfl⟩
  | consume count => exact ⟨h.consume count, congrArg BatchReply.removed h.removed⟩
  | pop out =>
    obtain ⟨hholds, hcopied⟩ := h.pop out
    unfold ringMachine BoundedFifo.batches
    dsimp only
    rw [hcopied]
    exact ⟨hholds, rfl⟩
  | clear => exact ⟨.clear, rfl⟩

/-- For every capacity the ring and the list return the same over every run, and the ring holds
the list's bytes at its end. There a batch that does not fit leaves the ring unchanged, and
consuming drops no more bytes than there are. -/
theorem ring_refines_fifo (N : Nat) (ops : List (BatchOp UInt8)) :
    (ringMachine N).outputs new ops =
        (BoundedFifo.batches : Machine (BoundedFifo UInt8 N) _ _).outputs .empty ops ∧
      ((ringMachine N).run new ops).contents =
        ((BoundedFifo.batches : Machine (BoundedFifo UInt8 N) _ _).run .empty ops).items ∧
      (∀ data, N < ((ringMachine N).run new ops).contents.length + data.length →
        ((ringMachine N).run new ops).pushAll data = (false, (ringMachine N).run new ops)) ∧
      ∀ count, ((ringMachine N).run new ops).removed count ≤
          ((ringMachine N).run new ops).contents.length ∧
        (((ringMachine N).run new ops).consume count).contents =
          ((ringMachine N).run new ops).contents.drop
            (((ringMachine N).run new ops).removed count) := by
  obtain ⟨hholds, hout⟩ := Machine.simulation step_simulates holds_new ops
  refine ⟨hout, hholds.contents, fun data hroom => ?_, fun count => ⟨?_, ?_⟩⟩
  · rw [hholds.contents] at hroom
    exact hholds.pushAll_refused (Nat.not_le.mpr hroom)
  · rw [hholds.removed, hholds.contents]
    exact Nat.min_le_right _ _
  · rw [(hholds.consume count).contents, hholds.removed, hholds.contents]
    exact congrArg BoundedFifo.items (BoundedFifo.drop_min _ count).symm

end DirectByteRing

end Aviate.Direct
