import Aviate.Model
import Aviate.Core.Binary32

/-!
# Termination of the heading wrap

The loops that bring a heading error into `[-π, π]`, in binary32 arithmetic. A round moves the
error by about `2π` as long as its last place is at most 8; from `2 ^ 27` on the last place is 16
or more, the step is rounded away and the round repeats itself.

Results:
1. `wrap_ends_iff`: both loops end exactly when the error is NaN or within `2 ^ 27`.
2. `cycle_ends_iff`: so a control cycle ends exactly when the commanded heading is within `2 ^ 27`
   or the current yaw is NaN. `cycle_never_ends` is a finite heading past it.
-/

namespace Aviate.HeadingWrap

open Binary32

variable {a b : Binary32} {x y : ℚ} {n fuel : ℕ}

/-- The value of `π` and of a step of a loop. -/
def piValue : ℚ := 13176795 / 4194304

def stepValue : ℚ := 13176795 / 2097152

theorem stepValue_eq : stepValue = 2 * piValue := by
  norm_num [stepValue, piValue]

theorem piValue_bounds : 3 < piValue ∧ piValue < 4 := by
  norm_num [piValue]

theorem representable_piValue : binary32Format.Representable piValue :=
  ((pi : Binary32).wellFormed piValue value_pi).1

theorem value_sub_step (h : a.value = .fin x) :
    (a - lit 2 * pi).value = (Binary32.round (.fin (x - stepValue))).value := by
  rw [value_sub, h, value_two_pi, ExactFloat.fin_sub_fin, stepValue]

theorem pi_lt_iff (h : a.value = .fin x) : Scalar.lt pi a = decide (piValue < x) := by
  rw [lt_eq, h, value_pi]
  rfl

/-- The values represented past `2 ^ 27` are 16 apart. -/
theorem add_sixteen_le (h : binary32Format.Representable x) (hx : 2 ^ 27 < x) :
    2 ^ 27 + 16 ≤ x := by
  have hgap := h.add_unit_le (e := 27) (by exact_mod_cast hx)
  have hunit : (2 : ℚ) ^ ((27 : ℤ) + 1 - binary32Format.precision) = 16 := by
    norm_num [binary32Format]
  rw [hunit] at hgap
  exact_mod_cast hgap

/-! ## Errors the loops shrink -/

/-- A round from an error of at most `2 ^ 27` lowers it by at least 2, to no less than `-π`. -/
theorem round_shrinks (ha : a.value = .fin x) (hlow : piValue < x) (hhigh : x ≤ 2 ^ 27) :
    ∃ y, (a - lit 2 * pi).value = .fin y ∧ -piValue ≤ y ∧ y ≤ x - 2 := by
  obtain ⟨hpi, hpi'⟩ := piValue_bounds
  have hstep := stepValue_eq
  have hbinade : |x - stepValue| < 2 ^ (27 : ℤ) := by
    rw [abs_lt]
    norm_num
    constructor <;> linarith
  have hnear := abs_le.mp (BinaryFormat.abs_round_sub_le_of_lt (f := binary32Format) hbinade
    (by decide))
  have hhalf : (2 : ℚ) ^ ((27 : ℤ) - binary32Format.precision) / 2 = 4 := by
    norm_num [binary32Format]
  rw [hhalf] at hnear
  have habove : -piValue ≤ binary32Format.round (x - stepValue) :=
    BinaryFormat.le_round representable_piValue.neg (by linarith)
  refine ⟨binary32Format.round (x - stepValue), ?_, habove, by linarith⟩
  rw [value_sub_step ha, value_round]
  rw [abs_lt]
  constructor <;> linarith

/-- From an error of at most `2 ^ 27` the first loop ends with an error of at most `π`, which is
the given one or at least `-π`. -/
theorem wrapDown_ends (ha : a.value = .fin x) (hhigh : x ≤ 2 ^ 27) (hn : x ≤ piValue + 2 * n) :
    ∃ b y, wrapDown (n + 1) a = some b ∧ b.value = .fin y ∧ y ≤ piValue ∧
      (b = a ∨ -piValue ≤ y) := by
  induction n generalizing a x with
  | zero =>
    have hstop : x ≤ piValue := by simpa using hn
    refine ⟨a, x, ?_, ha, hstop, .inl rfl⟩
    rw [wrapDown, pi_lt_iff ha, decide_eq_false (not_lt.mpr hstop)]
    rfl
  | succ n ih =>
    rcases le_or_gt x piValue with hstop | hgo
    · refine ⟨a, x, ?_, ha, hstop, .inl rfl⟩
      rw [wrapDown, pi_lt_iff ha, decide_eq_false (not_lt.mpr hstop)]
      rfl
    · obtain ⟨z, hz, hlow, hshrink⟩ := round_shrinks ha hgo hhigh
      push_cast at hn
      obtain ⟨b, y, hb, hy, hle, hkept⟩ := ih hz (by linarith) (by linarith)
      refine ⟨b, y, ?_, hy, hle, .inr ?_⟩
      · rw [wrapDown, pi_lt_iff ha, decide_eq_true hgo]
        exact hb
      · rcases hkept with rfl | h
        · rw [hz] at hy
          cases hy
          exact hlow
        · exact h

/-! ## Errors the loops repeat -/

/-- A round gives the error back. -/
theorem round_repeats (ha : a.value = .fin x) (hx : 2 ^ 27 < x) : a - lit 2 * pi = a := by
  obtain ⟨hrep, hlt⟩ := a.wellFormed x ha
  have hgap := add_sixteen_le hrep hx
  obtain ⟨hpi, hpi'⟩ := piValue_bounds
  have hstep := stepValue_eq
  have hbase : (2 : ℚ) ^ (27 : ℤ) ≤ x - stepValue := by
    have hcast : (2 : ℚ) ^ (27 : ℤ) = 2 ^ 27 := by norm_cast
    linarith
  have hpos : 0 < x - stepValue := lt_of_lt_of_le (by positivity) hbase
  have hulp : 16 ≤ binary32Format.ulp (x - stepValue) := by
    have h := BinaryFormat.le_exponent (f := binary32Format) (hbase.trans (le_abs_self _))
    calc (16 : ℚ) = 2 ^ ((27 : ℤ) + 1 - binary32Format.precision) := by norm_num [binary32Format]
      _ ≤ _ := zpow_le_zpow_right₀ one_le_two h
  have hround : binary32Format.round (x - stepValue) = x := by
    refine BinaryFormat.round_eq_of_lt_half_ulp hrep hpos.ne' ?_ ?_
    · rw [abs_of_pos hpos, abs_of_pos (by linarith)]
      linarith
    · rw [sub_sub_cancel, abs_of_pos (by linarith)]
      linarith
  ext
  rw [value_sub_step ha, value_round (by rwa [hround]), hround, ha]

/-- The first loop does not end. -/
def Repeats (a : Binary32) : Prop := Scalar.lt pi a = true ∧ a - lit 2 * pi = a

theorem repeats_of_lt (ha : a.value = .fin x) (hx : 2 ^ 27 < x) : Repeats a := by
  have hpi := piValue_bounds.2
  exact ⟨by rw [pi_lt_iff ha, decide_eq_true (by linarith)], round_repeats ha hx⟩

theorem repeats_of_posInf (ha : a.value = .posInf) : Repeats a := by
  refine ⟨?_, ?_⟩
  · rw [lt_eq, ha, value_pi]
    rfl
  · ext
    rw [value_sub, ha, value_two_pi]
    rfl

theorem Repeats.wrapDown_eq (h : Repeats a) : wrapDown fuel a = none := by
  induction fuel with
  | zero => rfl
  | succ fuel ih => rw [wrapDown, if_pos h.1, h.2, ih]

/-! ## The second loop -/

theorem lt_neg_pi_iff : Scalar.lt a (-pi) = Scalar.lt pi (-a) := by
  rw [lt_eq, lt_eq, value_neg, value_neg, value_pi]
  rcases a.value with q | _ | _ | _
  · simp only [ExactFloat.neg_fin, ExactFloat.lt_fin, decide_eq_decide]
    exact lt_neg
  all_goals rfl

/-- The second loop is the first one on the negated error. -/
theorem wrapUp_eq : wrapUp fuel a = (wrapDown fuel (-a)).map fun b => -b := by
  induction fuel generalizing a with
  | zero => rfl
  | succ fuel ih =>
    rw [wrapUp, wrapDown, lt_neg_pi_iff]
    split
    · rw [ih, neg_add]
    · simp

/-! ## Both loops -/

/-- Both loops end. -/
def Ends (a : Binary32) : Prop :=
  ∃ fuel b c, wrapDown fuel a = some b ∧ wrapUp fuel b = some c

theorem Repeats.not_ends (h : Repeats a) : ¬Ends a := by
  rintro ⟨fuel, b, c, hdown, -⟩
  rw [h.wrapDown_eq] at hdown
  exact nomatch hdown

/-- An error the first loop leaves alone and the second repeats. -/
theorem Repeats.not_ends_neg (h : Repeats (-a)) (hstop : Scalar.lt pi a = false) : ¬Ends a := by
  rintro ⟨fuel, b, c, hdown, hup⟩
  cases fuel with
  | zero => exact nomatch hdown
  | succ fuel =>
    rw [wrapDown, hstop] at hdown
    cases hdown
    rw [wrapUp_eq, h.wrapDown_eq] at hup
    exact nomatch hup

theorem ends_of_le (ha : a.value = .fin x) (hx : |x| ≤ 2 ^ 27) : Ends a := by
  obtain ⟨hlow, hhigh⟩ := abs_le.mp hx
  obtain ⟨n, hn⟩ : ∃ n : ℕ, (2 : ℚ) ^ 27 ≤ n := ⟨2 ^ 27, by norm_num⟩
  have hpi := piValue_bounds.1
  have hpos : (0 : ℚ) ≤ 2 ^ 27 := by positivity
  obtain ⟨b, y, hdown, hb, hle, hkept⟩ := wrapDown_ends ha hhigh (n := n) (by linarith)
  have hfloor : -y ≤ 2 ^ 27 := by
    rcases hkept with rfl | h
    · rw [ha] at hb
      cases hb
      linarith
    · linarith [piValue_bounds.2]
  have hneg : (-b).value = .fin (-y) := by rw [value_neg, hb, ExactFloat.neg_fin]
  obtain ⟨c, -, hup, -⟩ := wrapDown_ends hneg hfloor (n := n) (by linarith)
  refine ⟨n + 1, b, -c, hdown, ?_⟩
  rw [wrapUp_eq, hup]
  rfl

/-- Both loops end exactly when the error is NaN or within `2 ^ 27`. -/
theorem wrap_ends_iff : Ends a ↔ a.value = .nan ∨ ∃ x, a.value = .fin x ∧ |x| ≤ 2 ^ 27 := by
  rcases ha : a.value with x | _ | _ | _
  · simp only [reduceCtorEq, false_or, ExactFloat.fin.injEq, exists_eq_left']
    refine ⟨fun hends => ?_, ends_of_le ha⟩
    by_contra hx
    rcases lt_abs.mp (not_le.mp hx) with hx | hx
    · exact (repeats_of_lt ha hx).not_ends hends
    · have hneg : (-a).value = .fin (-x) := by rw [value_neg, ha, ExactFloat.neg_fin]
      refine (repeats_of_lt hneg hx).not_ends_neg ?_ hends
      rw [pi_lt_iff ha, decide_eq_false]
      linarith [piValue_bounds.1]
  · exact iff_of_false (repeats_of_posInf ha).not_ends (by simp)
  · have hneg : (-a).value = .posInf := by rw [value_neg, ha]; rfl
    refine iff_of_false ((repeats_of_posInf hneg).not_ends_neg ?_) (by simp)
    rw [lt_eq, ha, value_pi]
    rfl
  · refine iff_of_true ⟨1, a, a, ?_, ?_⟩ (.inl rfl)
    · rw [wrapDown, lt_eq, ha, value_pi]
      rfl
    · rw [wrapUp, lt_neg_pi_iff, lt_eq, value_neg, ha, value_pi]
      rfl

/-! ## The heading error -/

theorem abs_round_sub_le_eight (hlow : -2 ^ 28 < x) (hhigh : x < 2 ^ 28) :
    |binary32Format.round x - x| ≤ 8 := by
  have hbinade : |x| < 2 ^ (28 : ℤ) := by
    rw [abs_lt]
    exact_mod_cast And.intro hlow hhigh
  have hnear := BinaryFormat.abs_round_sub_le_of_lt (f := binary32Format) hbinade (by decide)
  have hhalf : (2 : ℚ) ^ ((28 : ℤ) - binary32Format.precision) / 2 = 8 := by
    norm_num [binary32Format]
  rwa [hhalf] at hnear

/-- A heading of at most `2 ^ 27` is at most as far above the yaw, after rounding. -/
theorem round_sub_le (hyaw : |y| ≤ piValue) (hx : x ≤ 2 ^ 27) :
    binary32Format.round (x - y) ≤ 2 ^ 27 := by
  have hpi := piValue_bounds.2
  have hlow := (abs_le.mp hyaw).1
  rcases le_or_gt (x - y) (2 ^ 27) with hle | hgt
  · exact BinaryFormat.round_le ⟨1, 27, by decide, by decide, by norm_num⟩ hle
  · by_contra hover
    have hgap := add_sixteen_le BinaryFormat.representable_round (not_le.mp hover)
    have hnear := abs_le.mp (abs_round_sub_le_eight (by linarith) (by linarith : x - y < 2 ^ 28))
    linarith

theorem lt_round_sub (hyaw : |y| ≤ piValue) (hx : binary32Format.Representable x)
    (hgt : 2 ^ 27 < x) : 2 ^ 27 < binary32Format.round (x - y) := by
  have hpi := piValue_bounds.2
  have hhigh := (abs_le.mp hyaw).2
  have hgap := add_sixteen_le hx hgt
  rcases le_or_gt (2 ^ 27 + 16) (x - y) with hle | hlt
  · have h := BinaryFormat.le_round (f := binary32Format)
      ⟨8388609, 4, by decide, by decide, by norm_num⟩ hle
    linarith
  · have hnear := abs_le.mp (abs_round_sub_le_eight (by linarith) (by linarith : x - y < 2 ^ 28))
    linarith

theorem abs_round_sub_le_iff (hyaw : |y| ≤ piValue) (hx : binary32Format.Representable x) :
    |binary32Format.round (x - y)| ≤ 2 ^ 27 ↔ |x| ≤ 2 ^ 27 := by
  have hyaw' : |-y| ≤ piValue := by rwa [abs_neg]
  have hodd : -binary32Format.round (x - y) = binary32Format.round (-x - -y) := by
    rw [← BinaryFormat.round_neg]
    congr 1
    ring
  constructor
  · contrapose!
    intro h
    rcases lt_abs.mp h with h | h
    · exact (lt_round_sub hyaw hx h).trans_le (le_abs_self _)
    · refine (lt_round_sub hyaw' hx.neg h).trans_le ?_
      rw [← hodd]
      exact neg_le_abs _
  · intro h
    obtain ⟨hlow, hhigh⟩ := abs_le.mp h
    have hneg := round_sub_le hyaw' (x := -x) (by linarith)
    rw [← hodd] at hneg
    exact abs_le.mpr ⟨by linarith, round_sub_le hyaw hhigh⟩

/-- The loops end on a rounded result exactly when it is within `2 ^ 27`. -/
theorem ends_round_iff : Ends (Binary32.round (.fin x)) ↔ |binary32Format.round x| ≤ 2 ^ 27 := by
  rw [wrap_ends_iff]
  rcases lt_or_ge |binary32Format.round x| (2 ^ 128) with hlt | hge
  · rw [value_round hlt]
    simp
  · have hover : ¬|binary32Format.round x| ≤ 2 ^ 27 := by
      intro h
      have := hge.trans h
      norm_num at this
    refine iff_of_false ?_ hover
    rw [Binary32.round, dif_neg (not_lt.mpr hge)]
    split <;> simp

theorem ends_sub_iff {heading yaw : Binary32} (hh : heading.value = .fin x)
    (hy : yaw.value = .fin y) (hyaw : |y| ≤ piValue) :
    Ends (heading - yaw) ↔ |x| ≤ 2 ^ 27 := by
  have hsub : heading - yaw = Binary32.round (.fin (x - y)) := by
    ext
    rw [value_sub, hh, hy, ExactFloat.fin_sub_fin]
  rw [hsub, ends_round_iff, abs_round_sub_le_iff hyaw (heading.wellFormed x hh).1]

/-! ## The control cycle -/

section Cycle

variable [Libm Binary32]

/-- `atan2` gives a value of `[-π, π]`, or NaN. -/
def AtanBounded : Prop :=
  ∀ a b : Binary32, (atan2f a b).value = .nan ∨ ∃ y, (atan2f a b).value = .fin y ∧ |y| ≤ piValue

variable {c : VelocityController Binary32} {s : VelocityLoopState Binary32}
variable {input : VelocityInput Binary32} {heading : Binary32}

/-- A cycle with a commanded heading ends when the loops do. -/
theorem ends_of_isSome_iff (h : input.headingSp = some heading) :
    (∃ fuel, (c.stepWithObservation s input fuel).2.isSome) ↔
      Ends (heading - VelocityController.curYaw input) := by
  refine exists_congr fun fuel => ?_
  simp only [VelocityController.stepWithObservation, Option.isSome_map,
    VelocityController.yawQuat, h]
  rcases hdown : wrapDown fuel (heading - VelocityController.curYaw input) with _ | b
  · simp
  · rcases hup : wrapUp fuel b with _ | c <;> simp [hup]

theorem ends_heading_iff (hatan : AtanBounded) (hx : heading.value = .fin x) :
    Ends (heading - VelocityController.curYaw input) ↔
      |x| ≤ 2 ^ 27 ∨ (VelocityController.curYaw input).value = .nan := by
  rcases hatan _ _ with hyaw | ⟨y, hy, hle⟩
  · refine iff_of_true (wrap_ends_iff.mpr (.inl ?_)) (.inr hyaw)
    rw [value_sub, hx, VelocityController.curYaw, hyaw]
    rfl
  · change (VelocityController.curYaw input).value = .fin y at hy
    rw [ends_sub_iff hx hy hle, hy]
    simp

/-- A control cycle with a finite commanded heading ends exactly when the heading is within
`2 ^ 27` or the current yaw is NaN. -/
theorem cycle_ends_iff (hatan : AtanBounded) (h : input.headingSp = some heading)
    (hx : heading.value = .fin x) :
    (∃ fuel, (c.stepWithObservation s input fuel).2.isSome) ↔
      |x| ≤ 2 ^ 27 ∨ (VelocityController.curYaw input).value = .nan :=
  (ends_of_isSome_iff h).trans (ends_heading_iff hatan hx)

end Cycle

/-! ## A heading that spins forever -/

section Level

/-- The functions of `libm` at the angle 0. -/
@[reducible] def levelLibm : Libm Binary32 where
  sqrtf _ := lit 1
  sinf _ := lit 0
  cosf _ := lit 1
  asinf _ := lit 0
  atan2f _ _ := lit 0

attribute [local instance] levelLibm

def levelController : VelocityController Binary32 := ⟨.x500Defaults, lit (1 / 2)⟩

/-- At rest and level, pointing north, with a commanded heading. -/
def levelInput (heading : Binary32) : VelocityInput Binary32 :=
  ⟨.zero, .zero, .zero, .identity, some heading, lit (1 / 100)⟩

theorem value_zero : (lit 0 : Binary32).value = .fin 0 :=
  round_representable BinaryFormat.representable_zero (by norm_num)

theorem atanBounded_level : AtanBounded := by
  refine fun a b => .inr ⟨0, value_zero, ?_⟩
  norm_num [piValue]

theorem value_four : (lit 4 : Binary32).value = .fin 4 :=
  round_representable ⟨1, 2, by decide, by decide, by norm_num⟩ (by norm_num)

/-- A heading of 4 takes a round of the first loop, and the cycle ends. -/
theorem cycle_ends_iff_turn :
    wrapDown 1 (lit 4 - VelocityController.curYaw (levelInput (lit 4))) = none ∧
      ∃ fuel,
        (levelController.stepWithObservation .default (levelInput (lit 4)) fuel).2.isSome := by
  constructor
  · have herror : (lit 4 - VelocityController.curYaw (levelInput (lit 4))).value = .fin 4 := by
      have hyaw : (VelocityController.curYaw (levelInput (lit 4))).value = .fin 0 := value_zero
      rw [value_sub, value_four, hyaw, ExactFloat.fin_sub_fin, sub_zero]
      exact value_four
    rw [wrapDown, pi_lt_iff herror, decide_eq_true piValue_bounds.2]
    rfl
  · exact (cycle_ends_iff atanBounded_level rfl value_four).mpr (.inl (by norm_num))

/-- The heading `2 ^ 30` is finite, and the cycle that is given it does not end. -/
theorem cycle_never_ends :
    Scalar.isFinite (lit (2 ^ 30) : Binary32) = true ∧
      ¬∃ fuel, (levelController.stepWithObservation .default
        (levelInput (lit (2 ^ 30))) fuel).2.isSome := by
  have hvalue : (lit (2 ^ 30) : Binary32).value = .fin (2 ^ 30) :=
    round_representable ⟨1, 30, by decide, by decide, by norm_num⟩ (by norm_num)
  refine ⟨congrArg ExactFloat.isFinite hvalue, ?_⟩
  rw [ends_of_isSome_iff rfl, ends_heading_iff atanBounded_level hvalue]
  rintro (hle | hnan)
  · norm_num at hle
  · have hyaw : (VelocityController.curYaw (levelInput (lit (2 ^ 30)))).value = .fin 0 :=
      value_zero
    exact nomatch hyaw.symm.trans hnan

end Level

end Aviate.HeadingWrap
