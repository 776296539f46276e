import Mathlib.Data.List.Rotate
import Mathlib.Data.Nat.ModEq

/-!
# Ring buffers

A ring buffer keeps a queue in an array of fixed size: `count` cells from `head` on, with
indices taken modulo the size. `window` is the queue.

Results:
1. The queue's cells are the array's cells from `head` on (`getElem?_window`).
2. Writing the cell behind the last one appends it (`window_set`), and advancing the head
   removes from the front (`window_advance`).
3. Writing outside the queue changes nothing (`window_set_outside`).
-/

namespace RingBuffer

variable {α : Type*}

/-- The `count` cells from `head` on. -/
def window (cells : List α) (head count : Nat) : List α := (cells.rotate head).take count

variable {cells : List α} {head count i n : Nat} {v : α}

theorem length_window (h : count ≤ cells.length) : (window cells head count).length = count := by
  rw [window, List.length_take, List.length_rotate]
  exact Nat.min_eq_left h

theorem getElem?_window (hi : i < count) (h : count ≤ cells.length) :
    (window cells head count)[i]? = cells[(head + i) % cells.length]? := by
  rw [window, List.getElem?_take_of_lt hi, List.getElem?_rotate (by omega), Nat.add_comm]

/-- Two windows with the same cells are equal. -/
theorem window_ext {l : List α} (h : count ≤ cells.length) (hlength : l.length = count)
    (hcells : ∀ i, i < count → l[i]? = cells[(head + i) % cells.length]?) :
    window cells head count = l := by
  apply List.ext_getElem?
  intro i
  by_cases hi : i < count
  · rw [getElem?_window hi h, hcells i hi]
  · have hwindow : (window cells head count).length = count := length_window h
    rw [List.getElem?_eq_none (by omega), List.getElem?_eq_none (by omega)]

@[simp] theorem window_zero : window cells head 0 = [] := List.take_zero

/-- Offsets of less than one revolution have cells of their own. -/
theorem mod_ne {m a b : Nat} (hab : a < b) (hb : b < m) : (head + a) % m ≠ (head + b) % m := by
  intro h
  have hmod : a % m = b % m := Nat.ModEq.add_left_cancel' head h
  rw [Nat.mod_eq_of_lt hb, Nat.mod_eq_of_lt (hab.trans hb)] at hmod
  exact absurd hmod (Nat.ne_of_lt hab)

/-- A cell behind the last one. -/
theorem window_set_outside (hcount : count ≤ i) (hi : i < cells.length) :
    window (cells.set ((head + i) % cells.length) v) head count = window cells head count := by
  have hfit : count ≤ cells.length := Nat.le_of_lt (Nat.lt_of_le_of_lt hcount hi)
  refine window_ext (by rwa [List.length_set]) (length_window hfit) fun j hj => ?_
  rw [getElem?_window hj hfit, List.length_set, List.getElem?_set_ne]
  exact (mod_ne (Nat.lt_of_lt_of_le hj hcount) hi).symm

/-- Write the cell behind the last one, and count it in. -/
theorem window_set (hcount : count < cells.length) :
    window (cells.set ((head + count) % cells.length) v) head (count + 1) =
      window cells head count ++ [v] := by
  have hlength : (window cells head count).length = count := length_window (Nat.le_of_lt hcount)
  refine window_ext (by rwa [List.length_set]) (by simp [hlength]) fun i hi => ?_
  rw [List.length_set]
  by_cases hlast : i = count
  · subst hlast
    rw [List.getElem?_append_right (by omega), hlength, Nat.sub_self,
      List.getElem?_set_self (Nat.mod_lt _ (by omega))]
    rfl
  · have hlt : i < count := by omega
    rw [List.getElem?_append_left (by omega), getElem?_window hlt (by omega),
      List.getElem?_set_ne (mod_ne hlt hcount).symm]

/-- Advance the head. -/
theorem window_advance (hn : n ≤ count) (hcount : count ≤ cells.length) :
    window cells ((head + n) % cells.length) (count - n) = (window cells head count).drop n := by
  have hlength : (window cells head count).length = count := length_window hcount
  refine window_ext (by omega) (by rw [List.length_drop, hlength]) fun i hi => ?_
  rw [List.getElem?_drop, getElem?_window (by omega) hcount, Nat.mod_add_mod, Nat.add_assoc]

/-- A shorter window is the front of a longer one. -/
theorem window_take (hn : n ≤ count) : (window cells head count).take n = window cells head n := by
  rw [window, List.take_take, Nat.min_eq_left hn, window]

/-- The head of the array may be counted from anywhere when the queue is empty. -/
theorem window_head (hcount : 0 < count) (h : count ≤ cells.length) (hhead : head < cells.length) :
    (window cells head count)[0]? = cells[head]? := by
  rw [getElem?_window hcount h, Nat.add_zero, Nat.mod_eq_of_lt hhead]

end RingBuffer
