import Mathlib.Algebra.Order.Star.Real
import Mathlib.LinearAlgebra.Matrix.PosDef
import Mathlib.LinearAlgebra.Matrix.Block

/-!
# Covariance matrices of a Kalman filter

What a linear filter does to a positive definite covariance matrix over an ordered field
with trivial star, such as the reals.

Results:
1. A transition that is unitriangular, followed by process noise, keeps the matrix positive
   definite (`posDef_predict`).
2. The Joseph form of a scalar update keeps it positive semidefinite for every gain, and
   loses definiteness in the measured direction at most (`posSemidef_joseph`,
   `joseph_kernel`). A positive diagonal entry there restores it (`posDef_joseph_add`). With
   the optimal gain it raises no variance (`joseph_gain_le`).
3. Of a positive semidefinite matrix the diagonal can be raised (`posDef_add_diagonal`).
-/

namespace Covariance

open Matrix

variable {n : Type*} [Fintype n] [DecidableEq n] {P F : Matrix n n ℝ} {x k : n → ℝ} {h : n}
  {r : ℝ}

omit [Fintype n] in
/-- Raising the diagonal keeps a matrix positive definite. -/
theorem posDef_add_diagonal {d : n → ℝ} (hP : P.PosDef) (hd : 0 ≤ d) :
    (P + diagonal d).PosDef :=
  hP.add_posSemidef (PosSemidef.diagonal hd)

/-! ## Prediction -/

/-- An invertible transition keeps a matrix positive definite. -/
theorem posDef_congr (hP : P.PosDef) (hF : IsUnit F.det) : (F * P * Fᵀ).PosDef := by
  have hinj : Function.Injective F.vecMul :=
    vecMul_injective_of_isUnit ((isUnit_iff_isUnit_det F).mpr hF)
  have hcongr := hP.mul_mul_conjTranspose_same hinj
  rwa [conjTranspose_eq_transpose_of_trivial] at hcongr

/-- A transition that adds to each state only multiples of later ones, followed by process
noise. -/
theorem posDef_predict [LinearOrder n] {q : n → ℝ} (hP : P.PosDef) (hF : F.BlockTriangular id)
    (hone : ∀ i, F i i = 1) (hq : 0 ≤ q) : (F * P * Fᵀ + diagonal q).PosDef := by
  refine posDef_add_diagonal (posDef_congr hP ?_) hq
  rw [det_of_isUpperTriangular hF, Finset.prod_eq_one fun i _ => hone i]
  exact isUnit_one

/-! ## Scalar updates in Joseph form -/

/-- `I - k eₕᵀ`: what a scalar update with gain `k` of state `h` leaves of the error. -/
def residual (k : n → ℝ) (h : n) : Matrix n n ℝ := 1 - vecMulVec k (Pi.single h 1)

/-- The Joseph form of the covariance after a scalar update. -/
def joseph (P : Matrix n n ℝ) (k : n → ℝ) (h : n) (r : ℝ) : Matrix n n ℝ :=
  residual k h * P * (residual k h)ᵀ + r • vecMulVec k k

theorem posSemidef_joseph (hP : P.PosDef) (hr : 0 ≤ r) : (joseph P k h r).PosSemidef := by
  have hcongr := hP.posSemidef.mul_mul_conjTranspose_same (residual k h)
  rw [conjTranspose_eq_transpose_of_trivial] at hcongr
  have hgain : (vecMulVec k k).PosSemidef := by
    simpa using posSemidef_vecMulVec_self_star k
  exact hcongr.add (hgain.smul hr)

/-- A direction in which the updated covariance vanishes is that of the measured state. -/
theorem joseph_kernel (hP : P.PosDef) (hr : 0 ≤ r) (hx : x ⬝ᵥ (joseph P k h r *ᵥ x) = 0) :
    x = (k ⬝ᵥ x) • Pi.single h 1 := by
  have hgain : 0 ≤ r * (k ⬝ᵥ x) ^ 2 := mul_nonneg hr (sq_nonneg _)
  have hsplit : x ⬝ᵥ (joseph P k h r *ᵥ x) =
      ((residual k h)ᵀ *ᵥ x) ⬝ᵥ (P *ᵥ ((residual k h)ᵀ *ᵥ x)) + r * (k ⬝ᵥ x) ^ 2 := by
    rw [joseph, add_mulVec, dotProduct_add, smul_mulVec, dotProduct_smul, vecMulVec_mulVec]
    congr 1
    · rw [← mulVec_mulVec, ← mulVec_mulVec, dotProduct_mulVec, ← mulVec_transpose]
    · simp [dotProduct_comm x k, sq, smul_eq_mul]
  by_contra hne
  have hmoved : (residual k h)ᵀ *ᵥ x ≠ 0 := by
    intro hzero
    refine hne (sub_eq_zero.mp ?_)
    rw [← hzero, residual, transpose_sub, transpose_one, sub_mulVec, one_mulVec,
      transpose_vecMulVec, vecMulVec_mulVec]
    simp
  have hpos := hP.dotProduct_mulVec_pos hmoved
  rw [star_trivial] at hpos
  linarith

/-- Raising the diagonal of an updated covariance keeps it positive definite if the entry of
the measured state ends up positive. -/
theorem posDef_joseph_add {d : n → ℝ} (hP : P.PosDef) (hr : 0 ≤ r) (hd : 0 ≤ d)
    (hpos : 0 < (joseph P k h r + diagonal d) h h) : (joseph P k h r + diagonal d).PosDef := by
  have hjoseph := posSemidef_joseph (k := k) (h := h) hP hr
  have hsum := hjoseph.add (PosSemidef.diagonal hd)
  refine PosDef.of_dotProduct_mulVec_pos hsum.1 fun x hx => ?_
  rw [star_trivial]
  refine lt_of_le_of_ne (by simpa using hsum.dotProduct_mulVec_nonneg x) fun hzero => hx ?_
  have hfirst : 0 ≤ x ⬝ᵥ (joseph P k h r *ᵥ x) := by
    simpa using hjoseph.dotProduct_mulVec_nonneg x
  have hsecond : 0 ≤ x ⬝ᵥ (diagonal d *ᵥ x) := by
    simpa using (PosSemidef.diagonal hd).dotProduct_mulVec_nonneg x
  have hsplit : x ⬝ᵥ ((joseph P k h r + diagonal d) *ᵥ x) =
      x ⬝ᵥ (joseph P k h r *ᵥ x) + x ⬝ᵥ (diagonal d *ᵥ x) := by
    rw [add_mulVec, dotProduct_add]
  -- The direction is that of the measured state, whose entry is positive.
  have hdir := joseph_kernel hP hr (le_antisymm (by linarith) hfirst)
  have hentry : x ⬝ᵥ ((joseph P k h r + diagonal d) *ᵥ x) =
      (k ⬝ᵥ x) ^ 2 * (joseph P k h r + diagonal d) h h := by
    conv_lhs => rw [hdir]
    simp [mulVec_smul, dotProduct_smul, smul_dotProduct, sq, mul_assoc]
  rw [← hzero] at hentry
  have hscale : k ⬝ᵥ x = 0 := by
    rcases mul_eq_zero.mp hentry.symm with h0 | h0
    · exact pow_eq_zero_iff two_ne_zero |>.mp h0
    · exact absurd h0 hpos.ne'
  rw [hdir, hscale, zero_smul]

/-- The gain that weighs the measured state's covariances by the innovation variance. -/
noncomputable def gain (P : Matrix n n ℝ) (h : n) (r : ℝ) : n → ℝ :=
  fun i => P i h * (1 / (P h h + r))

/-- With that gain the Joseph form takes from each covariance what the measurement tells. -/
theorem joseph_gain_apply (hP : P.IsSymm) (hs : P h h + r ≠ 0) (i j : n) :
    joseph P (gain P h r) h r i j = P i j - P i h * P j h / (P h h + r) := by
  have hsymm : P h j = P j h := congrFun (congrFun hP j) h
  have hleft : residual (gain P h r) h * P = P - vecMulVec (gain P h r) (P h) := by
    rw [residual, sub_mul, one_mul, vecMulVec_mul, single_one_vecMul]
    rfl
  have hright : residual (gain P h r) h * P * (residual (gain P h r) h)ᵀ =
      (P - vecMulVec (gain P h r) (P h)) -
        vecMulVec ((P - vecMulVec (gain P h r) (P h)) *ᵥ Pi.single h 1) (gain P h r) := by
    rw [hleft, residual, transpose_sub, transpose_one, transpose_vecMulVec, mul_sub, mul_one,
      mul_vecMulVec]
  rw [joseph, hright]
  simp only [Matrix.add_apply, Matrix.sub_apply, Matrix.smul_apply, vecMulVec_apply, mulVec_single,
    MulOpposite.op_one, one_smul, col_apply, smul_eq_mul, gain, hsymm]
  field_simp
  ring

/-- A measurement never raises a variance. -/
theorem joseph_gain_le (hP : P.IsSymm) (hs : 0 < P h h + r) (i : n) :
    joseph P (gain P h r) h r i i ≤ P i i := by
  rw [joseph_gain_apply hP hs.ne']
  have hnonneg : 0 ≤ P i h * P i h / (P h h + r) := div_nonneg (mul_self_nonneg _) hs.le
  linarith

end Covariance
