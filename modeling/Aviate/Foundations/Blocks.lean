import Mathlib.Data.List.Basic

/-!
# Lists in blocks

A list cut from its start into blocks of one length, with a rest that is still filling.

Results:
1. A further element goes to the rest (`Blocks.concat`); a full rest is one more block
   (`Blocks.close`).
2. Every block is a window of the list, at a multiple of the length (`Blocks.window`), and the
   length of the list leaves the rest's length (`Blocks.length_mod`).
-/

variable {α : Type*}

/-- `xs` is made of blocks of length `size` that have `P`, and of `rest`. -/
def Blocks (size : ℕ) (P : List α → Prop) (xs rest : List α) : Prop :=
  ∃ blocks : List (List α), xs = blocks.flatten ++ rest ∧
    ∀ block ∈ blocks, block.length = size ∧ P block

namespace Blocks

variable {size : ℕ} {P : List α → Prop} {xs rest : List α}

theorem nil : Blocks size P ([] : List α) [] := ⟨[], rfl, nofun⟩

theorem concat (h : Blocks size P xs rest) (x : α) : Blocks size P (xs ++ [x]) (rest ++ [x]) := by
  obtain ⟨blocks, rfl, hblocks⟩ := h
  exact ⟨blocks, List.append_assoc _ _ _, hblocks⟩

theorem close (h : Blocks size P xs rest) (hlength : rest.length = size) (hrest : P rest) :
    Blocks size P xs [] := by
  obtain ⟨blocks, rfl, hblocks⟩ := h
  refine ⟨blocks ++ [rest], by simp, ?_⟩
  rw [List.forall_mem_append, List.forall_mem_singleton]
  exact ⟨hblocks, hlength, hrest⟩

theorem length_flatten {blocks : List (List α)} (h : ∀ block ∈ blocks, block.length = size) :
    blocks.flatten.length = blocks.length * size := by
  induction blocks with
  | nil => simp
  | cons block blocks ih =>
    rw [List.forall_mem_cons] at h
    rw [List.flatten_cons, List.length_append, List.length_cons, ih h.2, h.1, Nat.add_mul,
      Nat.one_mul, Nat.add_comm]

theorem length_mod (h : Blocks size P xs rest) (hrest : rest.length < size) :
    xs.length % size = rest.length := by
  obtain ⟨blocks, rfl, hblocks⟩ := h
  rw [List.length_append, length_flatten fun block hblock => (hblocks block hblock).1,
    Nat.mul_add_mod_self_right, Nat.mod_eq_of_lt hrest]

theorem window_flatten {blocks : List (List α)}
    (h : ∀ block ∈ blocks, block.length = size ∧ P block) {i : ℕ} (hi : i < blocks.length) :
    P (((blocks.flatten ++ rest).drop (i * size)).take size) := by
  induction blocks generalizing i with
  | nil => exact absurd hi (Nat.not_lt_zero i)
  | cons block blocks ih =>
    rw [List.forall_mem_cons] at h
    obtain ⟨⟨hlength, hP⟩, htail⟩ := h
    rw [List.flatten_cons, List.append_assoc]
    cases i with
    | zero =>
      rwa [Nat.zero_mul, List.drop_zero, List.take_append_of_le_length (Nat.le_of_eq hlength.symm),
        List.take_of_length_le (Nat.le_of_eq hlength)]
    | succ i =>
      have hskip : (i + 1) * size = block.length + i * size := by
        rw [hlength, Nat.succ_mul, Nat.add_comm]
      rw [hskip, List.drop_length_add_append]
      exact ih htail (Nat.lt_of_succ_lt_succ hi)

/-- The `i`-th window of a list that is long enough is a block. -/
theorem window (h : Blocks size P xs rest) (hrest : rest.length < size) {i : ℕ}
    (hi : (i + 1) * size ≤ xs.length) : P ((xs.drop (i * size)).take size) := by
  obtain ⟨blocks, rfl, hblocks⟩ := h
  refine window_flatten hblocks ?_
  rw [List.length_append, length_flatten fun block hblock => (hblocks block hblock).1] at hi
  have hlt : (i + 1) * size < (blocks.length + 1) * size := by
    rw [Nat.succ_mul blocks.length]
    exact Nat.lt_of_le_of_lt hi (Nat.add_lt_add_left hrest _)
  exact Nat.lt_of_succ_lt_succ (Nat.lt_of_mul_lt_mul_right hlt)

end Blocks
