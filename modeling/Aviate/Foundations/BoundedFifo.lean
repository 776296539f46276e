import Aviate.Foundations.Machine

/-!
# Bounded queues

A queue is used through `push`, `pop` and the room that is left. `QueueInterface` is these three
operations of some representation, and its machine adds the client that reserves room for a batch
before it pushes the batch. `BoundedFifo` is the queue as a list, and `batches` the machine of a
client that writes and reads whole stretches of it.

Results:
1. A map between two representations that commutes with the three operations commutes with every
   run, and the runs return the same (`Agrees.run`, `Agrees.outputs`).
-/

/-- The operations of a queue of `α` kept in states `σ`. -/
structure QueueInterface (σ α : Type*) where
  push : σ → α → Bool × σ
  pop : σ → Option α × σ
  remaining : σ → Nat

/-- What a client does with a queue. -/
inductive QueueOp (α : Type*) where
  | push (item : α)
  | reserve (count : Nat) (items : List α)
  | pop

/-- What the client sees. -/
inductive QueueReply (α : Type*) where
  | pushed (accepted : Bool)
  | refused
  | reserved (accepted : List Bool)
  | popped (item : Option α)

namespace QueueInterface

variable {σ τ α : Type*} (queue : QueueInterface σ α)

/-- Push one item after the other. -/
def pushAll : σ → List α → List Bool × σ
  | s, [] => ([], s)
  | s, item :: items =>
    let (accepted, s') := queue.push s item
    let (rest, s'') := pushAll s' items
    (accepted :: rest, s'')

/-- Push a batch only when there is room for `count` items. -/
def reserve (s : σ) (count : Nat) (items : List α) : QueueReply α × σ :=
  if queue.remaining s < count then (.refused, s)
  else
    let (accepted, s') := queue.pushAll s items
    (.reserved accepted, s')

def machine : Machine σ (QueueOp α) (QueueReply α) where
  step s
    | .push item => ((queue.push s item).2, .pushed (queue.push s item).1)
    | .reserve count items => ((queue.reserve s count items).2, (queue.reserve s count items).1)
    | .pop => ((queue.pop s).2, .popped (queue.pop s).1)

/-- `view` takes every operation of one representation to that of the other. -/
structure Agrees (queue : QueueInterface σ α) (other : QueueInterface τ α) (view : σ → τ) :
    Prop where
  push : ∀ s item, other.push (view s) item = ((queue.push s item).1, view (queue.push s item).2)
  pop : ∀ s, other.pop (view s) = ((queue.pop s).1, view (queue.pop s).2)
  remaining : ∀ s, other.remaining (view s) = queue.remaining s

namespace Agrees

variable {queue} {other : QueueInterface τ α} {view : σ → τ} (h : Agrees queue other view)
include h

theorem pushAll (s : σ) (items : List α) :
    other.pushAll (view s) items =
      ((queue.pushAll s items).1, view (queue.pushAll s items).2) := by
  induction items generalizing s with
  | nil => rfl
  | cons item items ih =>
    unfold QueueInterface.pushAll
    rw [h.push]
    dsimp only
    rw [ih]

theorem reserve (s : σ) (count : Nat) (items : List α) :
    other.reserve (view s) count items =
      ((queue.reserve s count items).1, view (queue.reserve s count items).2) := by
  unfold QueueInterface.reserve
  rw [h.remaining, h.pushAll]
  split <;> rfl

theorem step (s : σ) (op : QueueOp α) :
    other.machine.step (view s) op =
      (view (queue.machine.step s op).1, (queue.machine.step s op).2) := by
  cases op with
  | push item =>
    unfold machine
    dsimp only
    rw [h.push]
  | reserve count items =>
    unfold machine
    dsimp only
    rw [h.reserve]
  | pop =>
    unfold machine
    dsimp only
    rw [h.pop]

theorem run (s : σ) (ops : List (QueueOp α)) :
    other.machine.run (view s) ops = view (queue.machine.run s ops) :=
  Machine.run_view h.step

theorem outputs (s : σ) (ops : List (QueueOp α)) :
    other.machine.outputs (view s) ops = queue.machine.outputs s ops :=
  Machine.outputs_view h.step

end Agrees

end QueueInterface

/-- A queue as the list of its items, oldest first. -/
@[ext] structure BoundedFifo (α : Type*) (capacity : Nat) where
  items : List α
  length_le : items.length ≤ capacity

namespace BoundedFifo

variable {α : Type*} {capacity : Nat} {admits : α → Bool} {item : α}
  {q q' : BoundedFifo α capacity}

def empty : BoundedFifo α capacity := ⟨[], Nat.zero_le capacity⟩

def isFull (q : BoundedFifo α capacity) : Bool := q.items.length == capacity

/-- An item that is admitted goes behind the others while there is room. -/
def push (admits : α → Bool) (q : BoundedFifo α capacity) (item : α) :
    Bool × BoundedFifo α capacity :=
  if h : q.items.length < capacity ∧ admits item then
    (true, ⟨q.items ++ [item], by
      rw [List.length_append]
      exact h.1⟩)
  else (false, q)

/-- The oldest item leaves. -/
def pop (q : BoundedFifo α capacity) : Option α × BoundedFifo α capacity :=
  (q.items.head?, ⟨q.items.tail, by
    rw [List.length_tail]
    exact Nat.le_trans (Nat.sub_le _ _) q.length_le⟩)

theorem push_accepted (h : q.items.length < capacity ∧ admits item)
    (hitems : q'.items = q.items ++ [item]) : push admits q item = (true, q') := by
  rw [push, dif_pos h]
  exact congrArg (Prod.mk true) (BoundedFifo.ext hitems.symm)

theorem push_refused (h : ¬ (q.items.length < capacity ∧ admits item)) :
    push admits q item = (false, q) := dif_neg h

/-- The operations of a queue that admits the items of `admits`. -/
def interface (admits : α → Bool) : QueueInterface (BoundedFifo α capacity) α where
  push := push admits
  pop := pop
  remaining q := capacity - q.items.length

end BoundedFifo

/-! ## Batches -/

/-- What a client does with a queue it writes and reads in batches. -/
inductive BatchOp (α : Type*) where
  | push (data : List α)
  | pushAll (data : List α)
  | peek (out : List α)
  | consume (count : Nat)
  | pop (out : List α)
  | clear

/-- What the client sees. -/
inductive BatchReply (α : Type*) where
  | written (count : Nat)
  | accepted (all : Bool)
  | copied (count : Nat) (out : List α)
  | removed (count : Nat)
  | cleared

namespace BoundedFifo

variable {α : Type*} {capacity : Nat} (q : BoundedFifo α capacity)

/-- The prefix of `data` that fits goes behind the others. -/
def append (data : List α) : BoundedFifo α capacity :=
  ⟨q.items ++ data.take (capacity - q.items.length), by
    have hle := q.length_le
    rw [List.length_append, List.length_take]
    omega⟩

theorem append_items (data : List α) :
    (q.append data).items = q.items ++ data.take (capacity - q.items.length) := rfl

/-- The `count` oldest items leave. -/
def drop (count : Nat) : BoundedFifo α capacity :=
  ⟨q.items.drop count, by
    rw [List.length_drop]
    exact Nat.le_trans (Nat.sub_le _ _) q.length_le⟩

/-- The oldest items over the front of `out`. -/
def copy (out : List α) : List α :=
  q.items.take out.length ++ out.drop (min out.length q.items.length)

/-- No more leave than there are. -/
theorem drop_min (count : Nat) : q.drop (min count q.items.length) = q.drop count := by
  refine BoundedFifo.ext ?_
  rcases Nat.le_total count q.items.length with hle | hle
  · rw [Nat.min_eq_left hle]
  · rw [Nat.min_eq_right hle]
    exact List.drop_length.trans (List.drop_eq_nil_of_le hle).symm

/-- The client of batches. -/
def batches : Machine (BoundedFifo α capacity) (BatchOp α) (BatchReply α) where
  step q
    | .push data => (q.append data, .written (min data.length (capacity - q.items.length)))
    | .pushAll data =>
      if q.items.length + data.length ≤ capacity then (q.append data, .accepted true)
      else (q, .accepted false)
    | .peek out => (q, .copied (min out.length q.items.length) (q.copy out))
    | .consume count => (q.drop count, .removed (min count q.items.length))
    | .pop out => (q.drop out.length, .copied (min out.length q.items.length) (q.copy out))
    | .clear => (empty, .cleared)

end BoundedFifo
