import Mathlib.Algebra.BigOperators.Ring.List
import Mathlib.Algebra.Order.BigOperators.Group.List
import Mathlib.Algebra.Order.Field.Basic
import Mathlib.Tactic.FieldSimp
import Mathlib.Tactic.Linarith
import Mathlib.Tactic.Ring

/-!
# The mean of a list

Results:
1. A shift of the values shifts the mean (`mean_map_add`), and scaling the deviations keeps it
   (`mean_map_scale`).
2. A mean is between bounds of the values (`mean_le`, `le_mean`), and raising one value raises it
   (`mean_lt_mean`).
3. A value below the mean has one above it (`exists_mean_lt`).
-/

namespace List

variable {K : Type*} [Field K]

/-- The arithmetic mean; it is 0 for the empty list. -/
def mean (l : List K) : K := l.sum / l.length

variable {l : List K} {b s : K} {f g : K → K}

theorem mean_map_add [CharZero K] (hl : l ≠ []) (s : K) :
    (l.map (· + s)).mean = l.mean + s := by
  have hlength : (l.length : K) ≠ 0 := Nat.cast_ne_zero.mpr (length_pos_iff.mpr hl).ne'
  rw [mean, mean, sum_map_add, map_id', map_const', sum_replicate, length_map, nsmul_eq_mul,
    add_div, mul_div_cancel_left₀ s hlength]

theorem mean_map_const [CharZero K] (hl : l ≠ []) (b : K) : (l.map fun _ => b).mean = b := by
  have hlength : (l.length : K) ≠ 0 := Nat.cast_ne_zero.mpr (length_pos_iff.mpr hl).ne'
  rw [mean, map_const', sum_replicate, length_replicate, nsmul_eq_mul,
    mul_div_cancel_left₀ b hlength]

/-- The deviations scaled by one factor. -/
theorem mean_map_scale [CharZero K] (hl : l ≠ []) (s : K) :
    (l.map fun x => l.mean + (x - l.mean) * s).mean = l.mean := by
  have hlength : (l.length : K) ≠ 0 := Nat.cast_ne_zero.mpr (length_pos_iff.mpr hl).ne'
  have hsum : l.sum = l.mean * l.length := (div_mul_cancel₀ l.sum hlength).symm
  have hmap : (l.map fun x => l.mean + (x - l.mean) * s) =
      l.map fun x => x * s + l.mean * (1 - s) := by
    congr 1
    funext x
    ring
  rw [hmap, mean, sum_map_add, sum_map_mul_right, map_id', map_const', sum_replicate, length_map,
    nsmul_eq_mul, hsum]
  field_simp
  ring

section Order

variable [LinearOrder K] [IsStrictOrderedRing K]

theorem mean_le_mean (h : ∀ x ∈ l, f x ≤ g x) : (l.map f).mean ≤ (l.map g).mean := by
  rw [mean, mean, length_map, length_map]
  exact div_le_div_of_nonneg_right (sum_le_sum h) (Nat.cast_nonneg _)

theorem mean_lt_mean (h : ∀ x ∈ l, f x ≤ g x) (hlt : ∃ x ∈ l, f x < g x) :
    (l.map f).mean < (l.map g).mean := by
  obtain ⟨x, hx, -⟩ := id hlt
  have hlength : (0 : K) < l.length := Nat.cast_pos.mpr (length_pos_of_mem hx)
  rw [mean, mean, length_map, length_map]
  exact div_lt_div_of_pos_right (sum_lt_sum f g h hlt) hlength

theorem mean_le (hl : l ≠ []) (h : ∀ x ∈ l, x ≤ b) : l.mean ≤ b := by
  have hle : (l.map id).mean ≤ (l.map fun _ => b).mean := mean_le_mean h
  rwa [map_id, mean_map_const hl] at hle

theorem le_mean (hl : l ≠ []) (h : ∀ x ∈ l, b ≤ x) : b ≤ l.mean := by
  have hle : (l.map fun _ => b).mean ≤ (l.map id).mean := mean_le_mean h
  rwa [map_id, mean_map_const hl] at hle

theorem exists_mean_lt (h : ∃ x ∈ l, x < l.mean) : ∃ x ∈ l, l.mean < x := by
  by_contra hnone
  push Not at hnone
  obtain ⟨x, hx, -⟩ := id h
  have hlt : (l.map id).mean < (l.map fun _ => l.mean).mean := mean_lt_mean hnone h
  rw [map_id, mean_map_const (ne_nil_of_mem hx)] at hlt
  exact hlt.false

end Order

end List
