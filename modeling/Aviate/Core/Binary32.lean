import Aviate.Core.Types
import Aviate.Foundations.Rounding

/-!
# Binary32 arithmetic

The values of `f32` without the sign of zero and the payload of a NaN, and its operations as the
exact ones followed by rounding to nearest, ties to even. Unlike the machine floats it can be
computed with in proofs.

Results:
1. Rounding keeps represented values and is odd (`round_value`, `round_neg`).
2. `π` and its double are represented exactly (`value_pi`, `value_two_pi`).
-/

namespace Aviate

def binary32Format : BinaryFormat := ⟨24, -149, by norm_num⟩

/-- A value is finite with a 24-bit significand and below `2 ^ 128`, infinite or NaN. -/
structure Binary32 where
  value : ExactFloat ℚ
  wellFormed : ∀ q, value = .fin q → binary32Format.Representable q ∧ |q| < 2 ^ 128

namespace Binary32

/-- The represented value nearest to an exact result, an infinity on overflow. -/
def round : ExactFloat ℚ → Binary32
  | .fin q =>
    if h : |binary32Format.round q| < 2 ^ 128 then
      ⟨.fin (binary32Format.round q), by
        rintro q' ⟨⟩
        exact ⟨BinaryFormat.representable_round, h⟩⟩
    else if 0 < q then ⟨.posInf, nofun⟩ else ⟨.negInf, nofun⟩
  | .posInf => ⟨.posInf, nofun⟩
  | .negInf => ⟨.negInf, nofun⟩
  | .nan => ⟨.nan, nofun⟩

instance : Scalar Binary32 where
  add a b := round (a.value + b.value)
  sub a b := round (a.value - b.value)
  mul a b := round (a.value * b.value)
  div a b := round (a.value / b.value)
  neg a := round (-a.value)
  lit q := round (.fin q)
  lt a b := a.value.lt b.value
  le a b := a.value.le b.value
  isFinite a := a.value.isFinite
  abs a := round a.value.abs
  min a b := round (a.value.min b.value)

/-! ## Values -/

variable {a b : Binary32} {q r : ℚ}

@[ext] theorem ext (h : a.value = b.value) : a = b := by
  cases a
  cases b
  congr

theorem value_sub : (a - b).value = (round (a.value - b.value)).value := rfl

theorem value_add : (a + b).value = (round (a.value + b.value)).value := rfl

theorem value_mul : (a * b).value = (round (a.value * b.value)).value := rfl

theorem value_lit : (lit q : Binary32).value = (round (.fin q)).value := rfl

theorem lt_eq : Scalar.lt a b = a.value.lt b.value := rfl

theorem value_round (h : |binary32Format.round q| < 2 ^ 128) :
    (round (.fin q)).value = .fin (binary32Format.round q) := by
  rw [round, dif_pos h]

/-- Rounding a represented value changes nothing. -/
theorem round_representable (hq : binary32Format.Representable q) (hlt : |q| < 2 ^ 128) :
    (round (.fin q)).value = .fin q := by
  have hfix : binary32Format.round q = q :=
    le_antisymm (BinaryFormat.round_le hq le_rfl) (BinaryFormat.le_round hq le_rfl)
  rw [value_round (by rwa [hfix]), hfix]

@[simp] theorem round_value : round a.value = a := by
  ext
  rcases h : a.value with q | _ | _ | _
  · rw [round_representable (a.wellFormed q h).1 (a.wellFormed q h).2]
  all_goals rfl

/-- The negation of a value is represented. -/
@[simp] theorem value_neg : (-a).value = -a.value := by
  change (round (-a.value)).value = -a.value
  rcases h : a.value with q | _ | _ | _
  · obtain ⟨hq, hlt⟩ := a.wellFormed q h
    exact round_representable hq.neg (by rwa [abs_neg])
  all_goals rfl

/-- Rounding is odd. -/
theorem round_neg {v : ExactFloat ℚ} : round (-v) = -round v := by
  ext
  rw [value_neg]
  rcases v with q | _ | _ | _
  · rw [ExactFloat.neg_fin]
    unfold round
    simp only [BinaryFormat.round_neg, abs_neg]
    split
    · rfl
    · next hover =>
      have hq : q ≠ 0 := by
        rintro rfl
        exact hover (by rw [BinaryFormat.round_zero]; norm_num)
      rcases hq.lt_or_gt with hneg | hpos
      · rw [if_pos (neg_pos.mpr hneg), if_neg hneg.not_gt]
        rfl
      · rw [if_neg (by linarith), if_pos hpos]
        rfl
  all_goals rfl

@[simp] theorem neg_neg : - -a = a := by
  ext
  rw [value_neg, value_neg]
  rcases a.value with q | _ | _ | _
  · simp
  all_goals rfl

/-- The negation of a sum is the difference of the negation. -/
theorem neg_add : -(a + b) = -a - b := by
  change -round (a.value + b.value) = round ((-a).value - b.value)
  rw [← round_neg, value_neg]
  congr 1
  rcases a.value with q | _ | _ | _ <;> rcases b.value with r | _ | _ | _
  · simp only [ExactFloat.fin_add_fin, ExactFloat.neg_fin, ExactFloat.fin_sub_fin]
    ring_nf
  all_goals rfl

/-! ## Constants -/

theorem value_pi : (pi : Binary32).value = .fin (13176795 / 4194304) :=
  round_representable ⟨13176795, -22, by decide, by decide, by norm_num⟩ (by norm_num)

theorem value_two : (lit 2 : Binary32).value = .fin 2 :=
  round_representable ⟨1, 1, by decide, by decide, by norm_num⟩ (by norm_num)

theorem value_two_pi : (lit 2 * pi : Binary32).value = .fin (13176795 / 2097152) := by
  have hdouble : (2 : ℚ) * (13176795 / 4194304) = 13176795 / 2097152 := by norm_num
  rw [value_mul, value_two, value_pi, ExactFloat.fin_mul_fin, hdouble]
  exact round_representable ⟨13176795, -21, by decide, by decide, by norm_num⟩ (by norm_num)

end Binary32

end Aviate
