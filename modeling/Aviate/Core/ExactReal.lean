import Mathlib.Analysis.SpecialFunctions.Complex.Arg
import Mathlib.Analysis.SpecialFunctions.Trigonometric.Inverse
import Aviate.Core.ExactField

/-!
# Exact real arithmetic

The functions of `libm` on the reals. The square root of a negative number is 0 here; the control
loops take none.
-/

namespace Aviate

noncomputable instance : Libm ℝ where
  sqrtf := Real.sqrt
  sinf := Real.sin
  cosf := Real.cos
  asinf := Real.arcsin
  atan2f y x := Complex.arg ⟨x, y⟩

@[simp] theorem sqrtf_real (x : ℝ) : sqrtf x = √x := rfl

@[simp] theorem sinf_real (x : ℝ) : sinf x = Real.sin x := rfl

@[simp] theorem cosf_real (x : ℝ) : cosf x = Real.cos x := rfl

@[simp] theorem asinf_real (x : ℝ) : asinf x = Real.arcsin x := rfl

@[simp] theorem atan2f_real (y x : ℝ) : atan2f y x = Complex.arg ⟨x, y⟩ := rfl

end Aviate
