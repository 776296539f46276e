import Mathlib.Tactic.Linarith
import Aviate.Core.Types

/-!
# Exact finite arithmetic

A linearly ordered field as a scalar type: no value is rounded and none is infinite or NaN. The
control loops are studied over it.

Results:
1. The scalar operations are those of the field (`lit_field`, `lt_field`, `clamp_field`).
2. A clamp to `[-b, b]` cuts the absolute value at `b` (`abs_clamp`, `abs_clamp_le`).
-/

namespace Aviate

variable {K : Type} [Field K] [LinearOrder K] {x y lo hi b : K} {q : ℚ}

instance (priority := low) exactField : Scalar K where
  lit q := q
  lt x y := decide (x < y)
  le x y := decide (x ≤ y)
  isFinite _ := true
  abs x := |x|
  min x y := min x y

@[simp] theorem lit_field : (lit q : K) = q := rfl

@[simp] theorem lt_field : Scalar.lt x y = decide (x < y) := rfl

@[simp] theorem le_field : Scalar.le x y = decide (x ≤ y) := rfl

@[simp] theorem isFinite_field : Scalar.isFinite x = true := rfl

@[simp] theorem abs_field : Scalar.abs x = |x| := rfl

@[simp] theorem min_field : Scalar.min x y = min x y := rfl

@[simp] theorem eq_field : Scalar.eq x y = decide (x = y) := by
  rw [Scalar.eq, le_field, le_field, ← Bool.decide_and, decide_eq_decide, ← le_antisymm_iff]

@[simp] theorem max_field : Scalar.max x y = max x y := by
  rw [Scalar.max, le_field, le_field, decide_eq_true le_rfl, decide_eq_true le_rfl, lt_field]
  rcases le_or_gt y x with h | h
  · simp [h]
  · simp [h, h.le]

/-! ## Clamps -/

theorem clamp_field (h : lo ≤ hi) : Scalar.clamp x lo hi = max lo (min x hi) := by
  unfold Scalar.clamp
  simp only [lt_field, decide_eq_true_eq]
  split
  · next hlo => rw [max_eq_left ((min_le_left _ _).trans hlo.le)]
  · next hlo =>
    split
    · next hhi => rw [min_eq_right hhi.le, max_eq_right h]
    · next hhi => rw [min_eq_left (not_lt.mp hhi), max_eq_right (not_lt.mp hlo)]

variable [IsStrictOrderedRing K]

theorem abs_clamp (hb : 0 ≤ b) : |Scalar.clamp x (-b) b| = min |x| b := by
  rw [clamp_field (by linarith)]
  rcases le_total x b with hhi | hhi
  · rw [min_eq_left hhi]
    rcases le_total (-b) x with hlo | hlo
    · rw [max_eq_right hlo, min_eq_left (abs_le.mpr ⟨hlo, hhi⟩)]
    · rw [max_eq_left hlo, abs_neg, abs_of_nonneg hb, min_eq_right]
      rw [abs_of_nonpos (by linarith)]
      linarith
  · rw [min_eq_right hhi, max_eq_right (by linarith), abs_of_nonneg hb, min_eq_right]
    exact hhi.trans (le_abs_self x)

theorem abs_clamp_le (hb : 0 ≤ b) : |Scalar.clamp x (-b) b| ≤ b :=
  (abs_clamp hb).trans_le (min_le_right _ _)

end Aviate
