import Mathlib.Algebra.Order.Field.Basic
import Mathlib.Tactic.Linarith

/-!
# Exact floats: an ordered field with explicit non-finite values

An `ExactFloat K` is a finite element of `K`, an infinity or a NaN. Finite
results are not rounded and never overflow; everything else follows IEEE 754.
A NaN operand gives a NaN and compares false, and `∞ - ∞` and `0 * ∞` are NaN.
There is one zero, so `a / 0` is the infinity with the sign of `a`, and `0 / 0`
is NaN.

Results:
1. On finite operands every operation and comparison is that of `K`
   (`fin_add_fin`, `fin_sub_fin`, `lt_fin`, `clamp_fin`).
2. `moveTowards prev target limit` is the point of `[prev - limit, prev + limit]`
   nearest to `target`. It lies within `limit` of `prev`
   (`abs_moveTowards_sub_le`), between `prev` and `target`
   (`moveTowards_mem_uIcc`), and is `target` exactly when `target` is within
   `limit` (`moveTowards_eq_target_iff`).
3. `prev + clamp (target - prev) (-limit) limit` computes `moveTowards` on finite
   operands (`add_clamp_sub_fin`), and it gives back a non-NaN `target` only
   when both operands are finite and within `limit` of each other
   (`add_clamp_sub_eq_target_iff`).
4. A sum, difference or product is finite exactly when its operands are
   (`isFinite_add`, `isFinite_sub`, `isFinite_mul`), and its value `val` is then theirs.
-/

/-- An element of `K`, an infinity or a NaN. -/
inductive ExactFloat (K : Type*) where
  | fin (x : K)
  | posInf
  | negInf
  | nan
deriving DecidableEq, Repr

/-! ## Moving towards a target by a bounded step -/

section MoveTowards

variable {K : Type*} [Field K] [LinearOrder K]

/-- The point within `limit` of `prev` that is nearest to `target`. -/
def moveTowards (prev target limit : K) : K :=
  prev + max (-limit) (min (target - prev) limit)

variable [IsStrictOrderedRing K] {prev target limit : K}

theorem abs_moveTowards_sub_le (hl : 0 ≤ limit) :
    |moveTowards prev target limit - prev| ≤ limit := by
  rw [moveTowards, add_sub_cancel_left, abs_le]
  exact ⟨le_max_left _ _, max_le (by linarith) (min_le_right _ _)⟩

theorem moveTowards_mem_uIcc (hl : 0 ≤ limit) :
    min prev target ≤ moveTowards prev target limit ∧
      moveTowards prev target limit ≤ max prev target := by
  unfold moveTowards
  rcases le_total prev target with h | h
  · rw [min_eq_left h, max_eq_right h]
    have hlow : 0 ≤ min (target - prev) limit := le_min (by linarith) hl
    have hhigh : max (-limit) (min (target - prev) limit) ≤ target - prev :=
      max_le (by linarith) (min_le_left _ _)
    have hmax := le_max_right (-limit) (min (target - prev) limit)
    constructor <;> linarith
  · rw [min_eq_right h, max_eq_left h]
    have hlow : target - prev ≤ max (-limit) (min (target - prev) limit) :=
      le_max_of_le_right (le_min le_rfl (by linarith))
    have hhigh : max (-limit) (min (target - prev) limit) ≤ 0 :=
      max_le (by linarith) ((min_le_left _ _).trans (by linarith))
    constructor <;> linarith

theorem moveTowards_eq_target_iff (hl : 0 ≤ limit) :
    moveTowards prev target limit = target ↔ |target - prev| ≤ limit := by
  constructor
  · intro h
    have hstep : |moveTowards prev target limit - prev| ≤ limit := abs_moveTowards_sub_le hl
    rwa [h] at hstep
  · intro h
    rw [abs_le] at h
    rw [moveTowards, min_eq_left h.2, max_eq_right h.1, add_sub_cancel]

end MoveTowards

namespace ExactFloat

variable {K : Type*}

/-! ## Operations -/

/-- Neither an infinity nor a NaN. -/
def isFinite : ExactFloat K → Bool
  | fin _ => true
  | _ => false

section Order

variable [LinearOrder K]

/-- IEEE `<`: false when an operand is NaN. -/
def lt : ExactFloat K → ExactFloat K → Bool
  | fin x, fin y => decide (x < y)
  | nan, _ => false
  | _, nan => false
  | negInf, negInf => false
  | negInf, _ => true
  | posInf, _ => false
  | _, posInf => true
  | fin _, negInf => false

/-- IEEE `≤`: false when an operand is NaN. -/
def le : ExactFloat K → ExactFloat K → Bool
  | nan, _ => false
  | _, nan => false
  | x, y => !lt y x

/-- The smaller operand; a NaN operand is ignored. -/
protected def min : ExactFloat K → ExactFloat K → ExactFloat K
  | nan, y => y
  | x, nan => x
  | x, y => if lt y x then y else x

/-- `x` limited to `[lo, hi]`; a NaN passes through. -/
def clamp (x lo hi : ExactFloat K) : ExactFloat K :=
  if lt x lo then lo else if lt hi x then hi else x

end Order

section Field

variable [Field K]

/-- A number with the sign of a non-NaN value. -/
def signOf : ExactFloat K → K
  | fin x => x
  | posInf => 1
  | negInf => -1
  | nan => 0

protected def neg : ExactFloat K → ExactFloat K
  | fin x => fin (-x)
  | posInf => negInf
  | negInf => posInf
  | nan => nan

protected def add : ExactFloat K → ExactFloat K → ExactFloat K
  | fin x, fin y => fin (x + y)
  | nan, _ => nan
  | _, nan => nan
  | posInf, negInf => nan
  | negInf, posInf => nan
  | posInf, _ => posInf
  | _, posInf => posInf
  | negInf, _ => negInf
  | _, negInf => negInf

instance : Neg (ExactFloat K) := ⟨ExactFloat.neg⟩
instance : Add (ExactFloat K) := ⟨ExactFloat.add⟩
instance : Sub (ExactFloat K) := ⟨fun x y => x + -y⟩

variable [LinearOrder K]

/-- The infinity with the sign of `s`, or NaN for no sign. -/
def infOfSign (s : K) : ExactFloat K :=
  if 0 < s then posInf else if s < 0 then negInf else nan

protected def mul : ExactFloat K → ExactFloat K → ExactFloat K
  | fin x, fin y => fin (x * y)
  | nan, _ => nan
  | _, nan => nan
  | x, y => infOfSign (signOf x * signOf y)

protected def div : ExactFloat K → ExactFloat K → ExactFloat K
  | fin x, fin y => if y = 0 then infOfSign x else fin (x / y)
  | nan, _ => nan
  | _, nan => nan
  | fin _, _ => fin 0
  | x, fin y => if y = 0 then x else infOfSign (signOf x * y)
  | _, _ => nan

/-- The absolute value. -/
protected def abs : ExactFloat K → ExactFloat K
  | fin x => fin |x|
  | posInf => posInf
  | negInf => posInf
  | nan => nan

instance : Mul (ExactFloat K) := ⟨ExactFloat.mul⟩
instance : Div (ExactFloat K) := ⟨ExactFloat.div⟩

end Field

/-! ## Finite operands -/

variable {x y lo hi limit : K}

@[simp] theorem isFinite_fin : (fin x).isFinite = true := rfl

section Order

variable [LinearOrder K]

@[simp] theorem lt_fin : lt (fin x) (fin y) = decide (x < y) := rfl

@[simp] theorem le_fin : le (fin x) (fin y) = decide (x ≤ y) := by
  show (!lt (fin y) (fin x)) = _
  rw [lt_fin, ← decide_not, decide_eq_decide, not_lt]

theorem clamp_fin (h : lo ≤ hi) : clamp (fin x) (fin lo) (fin hi) = fin (max lo (min x hi)) := by
  simp only [clamp, lt_fin, decide_eq_true_eq]
  split
  · next hlo => rw [max_eq_left ((min_le_left _ _).trans hlo.le)]
  · next hlo =>
    split
    · next hhi => rw [min_eq_right hhi.le, max_eq_right h]
    · next hhi => rw [min_eq_left (not_lt.mp hhi), max_eq_right (not_lt.mp hlo)]

end Order

section Field

variable [Field K]

@[simp] theorem neg_fin : -(fin x) = fin (-x) := rfl

@[simp] theorem fin_add_fin : fin x + fin y = fin (x + y) := rfl

@[simp] theorem fin_sub_fin : fin x - fin y = fin (x - y) :=
  congrArg fin (sub_eq_add_neg x y).symm

variable [LinearOrder K] [IsStrictOrderedRing K]

/-- The clamped step computes `moveTowards` on finite operands. -/
theorem add_clamp_sub_fin (hl : 0 ≤ limit) :
    fin x + clamp (fin y - fin x) (-(fin limit)) (fin limit) = fin (moveTowards x y limit) := by
  rw [fin_sub_fin, neg_fin, clamp_fin (by linarith), fin_add_fin, moveTowards]

/-- The clamped step reaches its target exactly when the target is NaN, or is
finite and within `limit` of a finite start. From an infinite or NaN start it
never reaches a number, and a bounded step never reaches an infinity. -/
theorem add_clamp_sub_eq_target_iff {prev target : ExactFloat K} (hl : 0 ≤ limit) :
    prev + clamp (target - prev) (-(fin limit)) (fin limit) = target ↔
      target = nan ∨ ∃ p t, prev = fin p ∧ target = fin t ∧ |t - p| ≤ limit := by
  cases target with
  | nan => cases prev <;> exact iff_of_true rfl (.inl rfl)
  | fin t =>
    cases prev with
    | fin p =>
      rw [add_clamp_sub_fin hl]
      simp [moveTowards_eq_target_iff hl]
    | posInf => exact iff_of_false (by rintro ⟨⟩) (by simp)
    | negInf => exact iff_of_false (by rintro ⟨⟩) (by simp)
    | nan => exact iff_of_false (by rintro ⟨⟩) (by simp)
  | posInf => cases prev <;> exact iff_of_false (by rintro ⟨⟩) (by simp)
  | negInf => cases prev <;> exact iff_of_false (by rintro ⟨⟩) (by simp)

end Field

/-! ## Finite values -/

/-- The number a finite value is, and 0 for the others. -/
def val [Zero K] : ExactFloat K → K
  | fin x => x
  | _ => 0

variable {a b : ExactFloat K}

theorem isFinite_iff : a.isFinite = true ↔ ∃ x, a = fin x := by
  cases a with
  | fin x => exact ⟨fun _ => ⟨x, rfl⟩, fun _ => rfl⟩
  | posInf => exact ⟨nofun, nofun⟩
  | negInf => exact ⟨nofun, nofun⟩
  | nan => exact ⟨nofun, nofun⟩

@[simp] theorem val_fin [Zero K] : (fin x : ExactFloat K).val = x := rfl

theorem eq_fin_val [Zero K] (h : a.isFinite = true) : a = fin a.val := by
  obtain ⟨x, rfl⟩ := isFinite_iff.mp h
  rfl

section Finite

variable [Field K]

@[simp] theorem isFinite_neg : (-a).isFinite = a.isFinite := by
  cases a <;> rfl

@[simp] theorem isFinite_add : (a + b).isFinite = (a.isFinite && b.isFinite) := by
  cases a <;> cases b <;> rfl

@[simp] theorem isFinite_sub : (a - b).isFinite = (a.isFinite && b.isFinite) := by
  cases a <;> cases b <;> rfl

theorem val_neg (ha : a.isFinite = true) : (-a).val = -a.val := by
  obtain ⟨x, rfl⟩ := isFinite_iff.mp ha
  rfl

theorem val_add (ha : a.isFinite = true) (hb : b.isFinite = true) :
    (a + b).val = a.val + b.val := by
  obtain ⟨x, rfl⟩ := isFinite_iff.mp ha
  obtain ⟨y, rfl⟩ := isFinite_iff.mp hb
  rfl

theorem val_sub (ha : a.isFinite = true) (hb : b.isFinite = true) :
    (a - b).val = a.val - b.val := by
  obtain ⟨x, rfl⟩ := isFinite_iff.mp ha
  obtain ⟨y, rfl⟩ := isFinite_iff.mp hb
  rw [fin_sub_fin, val_fin, val_fin, val_fin]

variable [LinearOrder K]

@[simp] theorem fin_mul_fin : (fin x : ExactFloat K) * fin y = fin (x * y) := rfl

theorem isFinite_infOfSign (s : K) : (infOfSign s).isFinite = false := by
  unfold infOfSign
  split
  · rfl
  · split <;> rfl

/-- A product is finite only if both factors are: zero times an infinity is NaN. -/
@[simp] theorem isFinite_mul : (a * b).isFinite = (a.isFinite && b.isFinite) := by
  cases a <;> cases b <;> first | rfl | exact isFinite_infOfSign _

theorem val_mul (ha : a.isFinite = true) (hb : b.isFinite = true) :
    (a * b).val = a.val * b.val := by
  obtain ⟨x, rfl⟩ := isFinite_iff.mp ha
  obtain ⟨y, rfl⟩ := isFinite_iff.mp hb
  rfl

theorem fin_div_fin (hy : y ≠ 0) : (fin x : ExactFloat K) / fin y = fin (x / y) := if_neg hy

theorem isFinite_div (ha : a.isFinite = true) (hb : b.isFinite = true) (h : b.val ≠ 0) :
    (a / b).isFinite = true := by
  obtain ⟨x, rfl⟩ := isFinite_iff.mp ha
  obtain ⟨y, rfl⟩ := isFinite_iff.mp hb
  rw [fin_div_fin (val_fin (x := y) ▸ h)]
  rfl

/-- Being less than a number of either sign in absolute value needs a finite value. -/
theorem isFinite_of_abs_lt (h : lt (ExactFloat.abs a) (fin y) = true) : a.isFinite = true := by
  cases a with
  | fin x => rfl
  | posInf => cases h
  | negInf => cases h
  | nan => cases h

theorem isFinite_abs : (ExactFloat.abs a).isFinite = a.isFinite := by
  cases a <;> rfl

end Finite

section MinFinite

variable [LinearOrder K]

@[simp] theorem min_fin : ExactFloat.min (fin x) (fin y) = fin (min x y) := by
  show (if lt (fin y) (fin x) then fin y else fin x) = _
  rw [lt_fin]
  by_cases h : y < x
  · rw [if_pos (by simpa using h), min_eq_right h.le]
  · rw [if_neg (by simpa using h), min_eq_left (not_lt.mp h)]

theorem isFinite_min (ha : a.isFinite = true) (hb : b.isFinite = true) :
    (ExactFloat.min a b).isFinite = true := by
  obtain ⟨x, rfl⟩ := isFinite_iff.mp ha
  obtain ⟨y, rfl⟩ := isFinite_iff.mp hb
  rw [min_fin]
  rfl

end MinFinite

end ExactFloat
