import Mathlib.Algebra.Order.Floor.Ring
import Mathlib.Data.Int.Log
import Mathlib.Data.Rat.Floor
import Mathlib.Tactic.FieldSimp
import Mathlib.Tactic.Linarith
import Mathlib.Tactic.NormNum

/-!
# Rounding to a binary format

A binary format has a precision and a least exponent; it represents the rationals that are an
integer of that many bits times a power of two not below the least one. Overflow is left to the
user of the format. `round` takes a rational to a nearest represented one, ties to even.

Results:
1. `round` is odd (`round_neg`), gives represented values (`representable_round`), is off by at
   most half a unit in the last place (`abs_round_sub_le`), and does not cross a represented value
   (`le_round`, `round_le`).
2. Above `2 ^ e` the represented values are a unit apart (`Representable.add_unit_le`).
3. `round_eq_of_lt_half_ulp`: a represented value absorbs a summand of less than half a unit.
-/

/-! ## Rounding to an integer -/

/-- The integer nearest to `r`, the even one of two. -/
def roundHalfEven (r : ℚ) : ℤ :=
  if r - ⌊r⌋ < 1 / 2 then ⌊r⌋
  else if 1 / 2 < r - ⌊r⌋ then ⌊r⌋ + 1
  else if Even ⌊r⌋ then ⌊r⌋ else ⌊r⌋ + 1

section Integer

variable {r : ℚ} {k : ℤ}

/-- What the rounded integer is: nearest, and even when another is as near. -/
theorem roundHalfEven_spec (r : ℚ) :
    |(roundHalfEven r : ℚ) - r| < 1 / 2 ∨
      |(roundHalfEven r : ℚ) - r| = 1 / 2 ∧ Even (roundHalfEven r) := by
  have hlow := Int.floor_le r
  have hhigh := Int.lt_floor_add_one r
  unfold roundHalfEven
  split
  · next h =>
    left
    rw [abs_lt]
    constructor <;> linarith
  · next h =>
    split
    · next h' =>
      left
      push_cast
      rw [abs_lt]
      constructor <;> linarith
    · next h' =>
      have hhalf : r - ⌊r⌋ = 1 / 2 := le_antisymm (not_lt.mp h') (not_lt.mp h)
      right
      split
      · next heven =>
        refine ⟨?_, heven⟩
        rw [abs_sub_comm, hhalf, abs_of_pos (by norm_num)]
      · next hodd =>
        refine ⟨?_, (Int.not_even_iff_odd.mp hodd).add_one⟩
        push_cast
        rw [abs_of_nonneg (by linarith)]
        linarith

theorem abs_roundHalfEven_sub_le : |(roundHalfEven r : ℚ) - r| ≤ 1 / 2 := by
  rcases roundHalfEven_spec r with h | h
  · exact h.le
  · exact h.1.le

/-- The rounded integer is the only one that is nearest, and even when another is as near. -/
theorem eq_roundHalfEven (h : |(k : ℚ) - r| < 1 / 2 ∨ |(k : ℚ) - r| = 1 / 2 ∧ Even k) :
    k = roundHalfEven r := by
  have hdist : ∀ {a b : ℚ}, |a - r| + |b - r| < 1 → |a - b| < 1 := by
    intro a b hab
    calc |a - b| = |(a - r) - (b - r)| := by ring_nf
      _ ≤ |a - r| + |b - r| := abs_sub _ _
      _ < 1 := hab
  have heq : ∀ {m n : ℤ}, |(m : ℚ) - n| < 1 → m = n := by
    intro m n hmn
    have hint : |m - n| < 1 := by exact_mod_cast hmn
    exact sub_eq_zero.mp (Int.abs_lt_one_iff.mp hint)
  rcases h with h | ⟨h, heven⟩
  · exact heq (hdist (by linarith [abs_roundHalfEven_sub_le (r := r)]))
  · rcases roundHalfEven_spec r with h' | ⟨h', heven'⟩
    · exact heq (hdist (by linarith))
    · -- Both are half away from `r`, so one apart or equal, and both are even.
      have hle : |(k : ℚ) - roundHalfEven r| ≤ 1 := by
        calc |(k : ℚ) - roundHalfEven r| = |((k : ℚ) - r) - (roundHalfEven r - r)| := by ring_nf
          _ ≤ |(k : ℚ) - r| + |(roundHalfEven r : ℚ) - r| := abs_sub _ _
          _ = 1 := by rw [h, h']; norm_num
      have hint : |k - roundHalfEven r| ≤ 1 := by exact_mod_cast hle
      have hdiff : Even (k - roundHalfEven r) := heven.sub heven'
      obtain ⟨d, hd⟩ := hdiff
      rw [hd, abs_le] at hint
      omega

theorem roundHalfEven_neg : roundHalfEven (-r) = -roundHalfEven r := by
  refine (eq_roundHalfEven ?_).symm
  have hdist : |((-roundHalfEven r : ℤ) : ℚ) - -r| = |(roundHalfEven r : ℚ) - r| := by
    rw [← abs_neg]
    push_cast
    ring_nf
  rw [hdist, even_neg]
  exact roundHalfEven_spec r

theorem le_roundHalfEven (h : (k : ℚ) ≤ r) : k ≤ roundHalfEven r := by
  have hnear := (abs_le.mp (abs_roundHalfEven_sub_le (r := r))).1
  have hlt : (k : ℚ) < roundHalfEven r + 1 := by linarith
  exact Int.lt_add_one_iff.mp (by exact_mod_cast hlt)

theorem roundHalfEven_le (h : r ≤ k) : roundHalfEven r ≤ k := by
  have hneg : -k ≤ roundHalfEven (-r) := le_roundHalfEven (by push_cast; linarith)
  rw [roundHalfEven_neg] at hneg
  exact neg_le_neg_iff.mp hneg

end Integer

/-! ## Formats -/

structure BinaryFormat where
  precision : ℕ
  minExp : ℤ
  precision_pos : 0 < precision

namespace BinaryFormat

variable (f : BinaryFormat)

def Representable (q : ℚ) : Prop :=
  ∃ m e : ℤ, f.minExp ≤ e ∧ |m| < 2 ^ f.precision ∧ q = m * 2 ^ e

/-- The exponent of the last place of a value. -/
def exponent (y : ℚ) : ℤ := max (Int.log 2 |y| + 1 - f.precision) f.minExp

/-- The unit in the last place. -/
def ulp (y : ℚ) : ℚ := 2 ^ f.exponent y

def round (y : ℚ) : ℚ := roundHalfEven (y / f.ulp y) * f.ulp y

variable {f} {x y z d : ℚ} {e : ℤ}

theorem ulp_pos : 0 < f.ulp y := zpow_pos two_pos _

theorem exponent_neg : f.exponent (-y) = f.exponent y := by
  rw [exponent, abs_neg, exponent]

theorem ulp_neg : f.ulp (-y) = f.ulp y := by
  rw [ulp, exponent_neg, ulp]

theorem round_neg : f.round (-y) = -f.round y := by
  rw [round, ulp_neg, neg_div, roundHalfEven_neg, round]
  push_cast
  ring

@[simp] theorem round_zero : f.round 0 = 0 := by
  have h : roundHalfEven 0 = 0 := (eq_roundHalfEven (by norm_num)).symm
  rw [round, zero_div, h, Int.cast_zero, zero_mul]

theorem Representable.neg (h : f.Representable x) : f.Representable (-x) := by
  obtain ⟨m, e, he, hm, rfl⟩ := h
  exact ⟨-m, e, he, by rwa [abs_neg], by push_cast; ring⟩

theorem representable_zero : f.Representable 0 :=
  ⟨0, f.minExp, le_rfl, by rw [abs_zero]; positivity, by simp⟩

/-! ## Units -/

theorem abs_lt_unit : |y| < 2 ^ f.precision * f.ulp y := by
  have hlog : |y| < (2 : ℚ) ^ (Int.log 2 |y| + 1) := by
    exact_mod_cast Int.lt_zpow_succ_log_self (b := 2) (by norm_num) |y|
  have hexp : Int.log 2 |y| + 1 ≤ f.precision + f.exponent y := by
    have := le_max_left (Int.log 2 |y| + 1 - f.precision) f.minExp
    unfold exponent
    linarith
  calc |y| < (2 : ℚ) ^ (Int.log 2 |y| + 1) := hlog
    _ ≤ 2 ^ ((f.precision : ℤ) + f.exponent y) := zpow_le_zpow_right₀ one_le_two hexp
    _ = 2 ^ f.precision * f.ulp y := by rw [zpow_add₀ two_ne_zero, zpow_natCast, ulp]

/-- A represented value is a multiple of every power of two up to its last place. -/
theorem Representable.multiple (h : f.Representable x) (hx : x ≠ 0) (he : e ≤ f.exponent x) :
    ∃ k : ℤ, x = k * 2 ^ e := by
  obtain ⟨m, e', he', hm, hvalue⟩ := h
  have hlast : f.exponent x ≤ e' := by
    refine max_le ?_ he'
    have habs : |x| < (2 : ℚ) ^ ((f.precision : ℤ) + e') := by
      rw [hvalue, abs_mul, abs_of_pos (zpow_pos (two_pos (α := ℚ)) e'), zpow_add₀ two_ne_zero,
        zpow_natCast, mul_lt_mul_iff_left₀ (zpow_pos two_pos _)]
      exact_mod_cast hm
    have hlog := (Int.lt_zpow_iff_log_lt (b := 2) (by norm_num) (abs_pos.mpr hx)).mp
      (by exact_mod_cast habs)
    linarith
  obtain ⟨n, hn⟩ := Int.eq_ofNat_of_zero_le (sub_nonneg.mpr (he.trans hlast))
  refine ⟨m * 2 ^ n, ?_⟩
  have hsum : e' = n + e := by linarith
  rw [hvalue, hsum, zpow_add₀ two_ne_zero, zpow_natCast]
  push_cast
  ring

theorem le_exponent (h : 2 ^ e ≤ |y|) : e + 1 - f.precision ≤ f.exponent y := by
  have hpos : 0 < |y| := (zpow_pos two_pos e).trans_le h
  have hlog := (Int.zpow_le_iff_le_log (b := 2) (by norm_num) hpos).mp (by exact_mod_cast h)
  refine le_trans ?_ (le_max_left _ _)
  linarith

theorem exponent_le (hy : y ≠ 0) (h : |y| < 2 ^ e) (he : f.minExp ≤ e - f.precision) :
    f.exponent y ≤ e - f.precision := by
  have hlog := (Int.lt_zpow_iff_log_lt (b := 2) (by norm_num) (abs_pos.mpr hy)).mp
    (by exact_mod_cast h)
  refine max_le ?_ he
  linarith

theorem exponent_mono (hy : y ≠ 0) (h : |y| ≤ |x|) : f.exponent y ≤ f.exponent x := by
  have hlog := Int.log_mono_right (b := 2) (abs_pos.mpr hy) h
  exact max_le_max_right _ (by linarith)

/-- Above a power of two the next represented value is a unit away. -/
theorem Representable.add_unit_le (h : f.Representable x) (hx : 2 ^ e < x) :
    2 ^ e + 2 ^ (e + 1 - f.precision) ≤ x := by
  have hpos : 0 < x := (zpow_pos two_pos e).trans hx
  obtain ⟨k, hk⟩ := h.multiple hpos.ne' (le_exponent (by rw [abs_of_pos hpos]; exact hx.le))
  set u : ℚ := 2 ^ (e + 1 - f.precision) with hu
  have hupos : 0 < u := zpow_pos two_pos _
  have hpower : (2 : ℚ) ^ e = 2 ^ (f.precision - 1) * u := by
    rw [hu, ← zpow_natCast, ← zpow_add₀ two_ne_zero, Nat.cast_sub f.precision_pos]
    congr 1
    push_cast
    ring
  rw [hk, hpower] at hx ⊢
  have hlt : (2 : ℚ) ^ (f.precision - 1) < k := lt_of_mul_lt_mul_right hx hupos.le
  have hle : (2 : ℤ) ^ (f.precision - 1) + 1 ≤ k := by exact_mod_cast hlt
  have hcast : (2 : ℚ) ^ (f.precision - 1) + 1 ≤ k := by exact_mod_cast hle
  nlinarith

/-- A value above the least binade is at least the power of two its binade starts from. -/
theorem binade_le (hy : 0 < y) (h : f.minExp < f.exponent y) :
    2 ^ (f.precision - 1) * f.ulp y ≤ y := by
  have hexp : f.exponent y = Int.log 2 |y| + 1 - f.precision := by
    rcases max_choice (Int.log 2 |y| + 1 - f.precision) f.minExp with hmax | hmax
    · exact hmax
    · exact absurd hmax h.ne'
  have hlog : (2 : ℚ) ^ Int.log 2 |y| ≤ |y| := by
    exact_mod_cast Int.zpow_log_le_self (b := 2) (by norm_num) (abs_pos.mpr hy.ne')
  calc 2 ^ (f.precision - 1) * f.ulp y = (2 : ℚ) ^ Int.log 2 |y| := by
        rw [ulp, hexp, ← zpow_natCast, ← zpow_add₀ two_ne_zero, Nat.cast_sub f.precision_pos]
        congr 1
        push_cast
        ring
    _ ≤ |y| := hlog
    _ = y := abs_of_pos hy

/-! ## Rounding -/

theorem abs_round_sub_le : |f.round y - y| ≤ f.ulp y / 2 := by
  have hu : 0 < f.ulp y := ulp_pos
  have hfactor : f.round y - y = (roundHalfEven (y / f.ulp y) - y / f.ulp y) * f.ulp y := by
    rw [round, sub_mul, div_mul_cancel₀ _ hu.ne']
  rw [hfactor, abs_mul, abs_of_pos hu]
  have h := abs_roundHalfEven_sub_le (r := y / f.ulp y)
  nlinarith

/-- Below `2 ^ e` rounding is off by at most half a unit of that binade. -/
theorem abs_round_sub_le_of_lt (h : |y| < 2 ^ e) (he : f.minExp ≤ e - f.precision) :
    |f.round y - y| ≤ 2 ^ (e - f.precision) / 2 := by
  rcases eq_or_ne y 0 with rfl | hy
  · rw [round_zero, sub_zero, abs_zero]
    have hunit : (0 : ℚ) < 2 ^ (e - f.precision) := zpow_pos two_pos _
    linarith
  · refine abs_round_sub_le.trans ?_
    have hulp : f.ulp y ≤ 2 ^ (e - f.precision) :=
      zpow_le_zpow_right₀ one_le_two (exponent_le hy h he)
    linarith

theorem representable_round : f.Representable (f.round y) := by
  rcases eq_or_ne y 0 with rfl | hy
  · rw [round_zero]
    exact representable_zero
  have hu : 0 < f.ulp y := ulp_pos
  have hquot : |y / f.ulp y| < 2 ^ f.precision := by
    rw [abs_div, abs_of_pos hu, div_lt_iff₀ hu]
    exact abs_lt_unit
  obtain ⟨hlow, hhigh⟩ := abs_lt.mp hquot
  have hle : |roundHalfEven (y / f.ulp y)| ≤ 2 ^ f.precision := by
    refine abs_le.mpr ⟨le_roundHalfEven ?_, roundHalfEven_le ?_⟩
    · push_cast
      exact hlow.le
    · push_cast
      exact hhigh.le
  rcases hle.lt_or_eq with hlt | heq
  · exact ⟨_, f.exponent y, le_max_right _ _, hlt, rfl⟩
  · -- The significand was rounded up to the next power of two: half of it, one place higher.
    have hpower : (2 : ℤ) ^ f.precision = 2 ^ (f.precision - 1) * 2 := by
      rw [← pow_succ, Nat.sub_add_cancel f.precision_pos]
    have hsucc : (2 : ℚ) ^ (f.exponent y + 1) = f.ulp y * 2 := zpow_add_one₀ two_ne_zero _
    have hhalf : |(2 : ℤ) ^ (f.precision - 1)| < 2 ^ f.precision := by
      rw [abs_of_pos (by positivity)]
      exact pow_lt_pow_right₀ one_lt_two (Nat.sub_lt f.precision_pos one_pos)
    have hmin : f.minExp ≤ f.exponent y := le_max_right _ _
    have hexp : f.minExp ≤ f.exponent y + 1 := by linarith
    rw [abs_eq (by positivity), hpower] at heq
    rcases heq with h | h
    · refine ⟨2 ^ (f.precision - 1), _, hexp, hhalf, ?_⟩
      rw [round, h, hsucc]
      push_cast
      ring
    · refine ⟨-2 ^ (f.precision - 1), _, hexp, by rwa [abs_neg], ?_⟩
      rw [round, h, hsucc]
      push_cast
      ring

/-- Rounding does not cross a represented value from above. -/
theorem le_round (hz : f.Representable z) (h : z ≤ y) : z ≤ f.round y := by
  have hu : 0 < f.ulp y := ulp_pos
  have hmultiple : ∀ k : ℤ, (k : ℚ) * f.ulp y ≤ y → k * f.ulp y ≤ f.round y := by
    intro k hk
    have hint : k ≤ roundHalfEven (y / f.ulp y) := le_roundHalfEven ((le_div_iff₀ hu).mpr hk)
    exact mul_le_mul_of_nonneg_right (by exact_mod_cast hint) hu.le
  rcases eq_or_ne z 0 with rfl | hz0
  · simpa using hmultiple 0 (by simpa using h)
  rcases eq_or_ne y 0 with rfl | hy0
  · rwa [round_zero]
  rcases le_or_gt (f.exponent y) (f.exponent z) with hexp | hexp
  · obtain ⟨k, rfl⟩ := hz.multiple hz0 hexp
    exact hmultiple k h
  · -- `z` is in a lower binade than `y`, whose own power of two is a multiple of its unit.
    have hpos : 0 < y := by
      rcases hy0.lt_or_gt with hneg | hpos
      · have habs : |y| ≤ |z| := by
          rw [abs_of_neg hneg, abs_of_neg (h.trans_lt hneg)]
          linarith
        exact absurd (exponent_mono hy0 habs) hexp.not_ge
      · exact hpos
    have hbinade : (2 : ℚ) ^ (f.precision - 1) * f.ulp y ≤ y := binade_le hpos
      ((le_max_right _ _).trans_lt hexp)
    have hlow : z ≤ 2 ^ (f.precision - 1) * f.ulp y := by
      have hhalf : 2 * f.ulp z ≤ f.ulp y := by
        rw [ulp, ulp, ← zpow_one_add₀ two_ne_zero]
        exact zpow_le_zpow_right₀ one_le_two (by linarith)
      calc z ≤ |z| := le_abs_self z
        _ ≤ 2 ^ f.precision * f.ulp z := abs_lt_unit.le
        _ = 2 ^ (f.precision - 1) * (2 * f.ulp z) := by
          rw [← mul_assoc, ← pow_succ, Nat.sub_add_cancel f.precision_pos]
        _ ≤ 2 ^ (f.precision - 1) * f.ulp y := by gcongr
    refine hlow.trans ?_
    have h := hmultiple (2 ^ (f.precision - 1)) (by push_cast; exact hbinade)
    rwa [Int.cast_pow, Int.cast_ofNat] at h

theorem round_le (hz : f.Representable z) (h : y ≤ z) : f.round y ≤ z := by
  have hneg := le_round hz.neg (neg_le_neg h)
  rw [round_neg] at hneg
  exact neg_le_neg_iff.mp hneg

/-- A represented value absorbs a summand of less than half a unit. -/
theorem round_eq_of_lt_half_ulp (hx : f.Representable x) (hy : y ≠ 0) (hle : |y| ≤ |x|)
    (hnear : |x - y| < f.ulp y / 2) : f.round y = x := by
  have hu : 0 < f.ulp y := ulp_pos
  have hx0 : x ≠ 0 := by
    rintro rfl
    exact hy (abs_nonpos_iff.mp (hle.trans (abs_zero.le)))
  obtain ⟨k, hk⟩ := hx.multiple hx0 (exponent_mono hy hle)
  change x = k * f.ulp y at hk
  have hint : k = roundHalfEven (y / f.ulp y) := by
    refine eq_roundHalfEven (.inl ?_)
    have hfactor : (k : ℚ) - y / f.ulp y = (x - y) / f.ulp y := by
      rw [hk]
      field_simp
    rw [hfactor, abs_div, abs_of_pos hu, div_lt_iff₀ hu]
    linarith
  rw [round, ← hint, hk]

end BinaryFormat
