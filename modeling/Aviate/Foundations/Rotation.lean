import Mathlib.Algebra.Quaternion
import Mathlib.Analysis.Real.Sqrt

/-!
# Rotations by quaternions

A quaternion `q` acts on a quaternion `v` by `q v q*`. For a unit `q` this is the rotation of the
vector part. The action of a product is the composition, a sign does not matter, and the conjugate
undoes it. From one attitude to the next there is one turn, seen from the body as `a* b` and from
the world as `b a*`; its shorter representative has a non-negative real part, so it is determined
by its vector part.

Results: `rotate_mul`, `rotate_star_rotate`, `re_rotate_mul_star`, `rotate_im`,
`rotate_star_turn`, `mul_shortArc`.
-/

open Quaternion

namespace Rotation

variable {R : Type} [CommRing R] {q a b v w : ℍ[R]}

/-- `q v q*`. -/
def rotate (q v : ℍ[R]) : ℍ[R] := q * v * star q

theorem rotate_mul (a b v : ℍ[R]) : rotate (a * b) v = rotate a (rotate b v) := by
  simp only [rotate, star_mul, mul_assoc]

theorem rotate_smul (q : ℍ[R]) (r : R) (v : ℍ[R]) : rotate q (r • v) = r • rotate q v := by
  simp only [rotate, ← coe_mul_eq_smul]
  rw [← mul_assoc, ← coe_commutes, mul_assoc, mul_assoc, mul_assoc]

theorem rotate_neg (q v : ℍ[R]) : rotate (-q) v = rotate q v := by
  simp only [rotate, star_neg, neg_mul, mul_neg, neg_neg]

theorem rotate_neg_one (v : ℍ[R]) : rotate (-1) v = v := by
  rw [rotate_neg, rotate, star_one, one_mul, mul_one]

/-! ## Unit quaternions -/

theorem star_mul_self_of_unit (hq : normSq q = 1) : star q * q = 1 := by
  rw [star_mul_self, hq, coe_one]

theorem self_mul_star_of_unit (hq : normSq q = 1) : q * star q = 1 := by
  rw [self_mul_star, hq, coe_one]

/-- The conjugate undoes the rotation. -/
theorem rotate_star_rotate (hq : normSq q = 1) (v : ℍ[R]) : rotate (star q) (rotate q v) = v := by
  rw [← rotate_mul, star_mul_self_of_unit hq, rotate, star_one, one_mul, mul_one]

theorem rotate_rotate_star (hq : normSq q = 1) (v : ℍ[R]) : rotate q (rotate (star q) v) = v := by
  rw [← rotate_mul, self_mul_star_of_unit hq, rotate, star_one, one_mul, mul_one]

/-- A rotation does not change the real part, so it does not change a dot product. -/
theorem re_rotate (hq : normSq q = 1) (v : ℍ[R]) : (rotate q v).re = v.re := by
  have hcycle : (q * v * star q).re = (star q * q * v).re := by
    simp only [re_mul, imI_mul, imJ_mul, imK_mul, re_star, imI_star, imJ_star, imK_star]
    ring
  rw [rotate, hcycle, star_mul_self_of_unit hq, one_mul]

theorem re_rotate_mul_star (hq : normSq q = 1) (v w : ℍ[R]) :
    (rotate q v * star (rotate q w)).re = (v * star w).re := by
  have hprod : rotate q v * star (rotate q w) = rotate q (v * star w) := by
    calc rotate q v * star (rotate q w)
        = q * v * (star q * q) * star w * star q := by
          simp only [rotate, star_mul, star_star, mul_assoc]
      _ = rotate q (v * star w) := by
          rw [star_mul_self_of_unit hq, mul_one, rotate, mul_assoc q v]
  rw [hprod, re_rotate hq]

/-- The real part stays where it is, and only the vector part turns. -/
theorem rotate_im (hq : normSq q = 1) (v : ℍ[R]) : rotate q v.im = (rotate q v).im := by
  have hsplit : rotate q v = rotate q (v.re : ℍ[R]) + rotate q v.im := by
    rw [rotate, rotate, rotate, ← add_mul, ← mul_add, re_add_im]
  have hreal : rotate q (v.re : ℍ[R]) = v.re := by
    rw [rotate, ← coe_commutes, mul_assoc, self_mul_star_of_unit hq, mul_one]
  have hre : (rotate q v.im).re = 0 := by
    rw [re_rotate hq, re_im]
  rw [hsplit, hreal]
  ext <;> simp [hre]

/-- The turn seen from the world, brought into the body, is the turn seen from the body. -/
theorem rotate_star_turn (hb : normSq b = 1) (a : ℍ[R]) :
    rotate (star b) (b * star a) = star a * b := by
  rw [rotate, star_star, ← mul_assoc, star_mul_self_of_unit hb, one_mul]

theorem mul_turn (ha : normSq a = 1) (b : ℍ[R]) : a * (star a * b) = b := by
  rw [← mul_assoc, self_mul_star_of_unit ha, one_mul]

/-! ## The shorter arc -/

section Real

variable {a b q : ℍ[ℝ]} {σ : ℝ}

/-- The length of the real part of a unit quaternion is given by its vector part. -/
theorem abs_re_of_unit (hq : normSq q = 1) : |q.re| = √(1 - normSq q.im) := by
  have hre : 1 - normSq q.im = q.re ^ 2 := by
    rw [normSq_def'] at hq ⊢
    simp only [re_im, imI_im, imJ_im, imK_im]
    linarith
  rw [hre, Real.sqrt_sq_eq_abs]

/-- The turn from `a` to `b` taken on its shorter arc, rebuilt from its vector part alone, leads
to `b` up to the sign `σ` that made it the shorter one. -/
theorem mul_shortArc (ha : normSq a = 1) (hb : normSq b = 1) (hσ : σ * σ = 1)
    (hshort : σ * (star a * b).re = |(star a * b).re|) :
    a * ((√(1 - normSq (σ • (star a * b).im)) : ℝ) + σ • (star a * b).im) = σ • b := by
  have hturn : normSq (star a * b) = 1 := by
    rw [map_mul, normSq_star, ha, hb, one_mul]
  have hroot : √(1 - normSq (σ • (star a * b).im)) = σ * (star a * b).re := by
    rw [normSq_smul, sq, hσ, one_mul, ← abs_re_of_unit hturn, hshort]
  calc a * ((√(1 - normSq (σ • (star a * b).im)) : ℝ) + σ • (star a * b).im)
      = a * (σ • (((star a * b).re : ℍ[ℝ]) + (star a * b).im)) := by
        rw [hroot, smul_add, coe_mul, coe_mul_eq_smul]
    _ = σ • b := by
        rw [re_add_im, ← coe_mul_eq_smul, ← coe_mul_eq_smul, coe_commutes, coe_commutes,
          ← mul_assoc, mul_turn ha]

end Real

end Rotation
