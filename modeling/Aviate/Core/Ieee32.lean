import Aviate.Core.Binary32
import Aviate.Core.MachineFloat

/-!
# Binary32 patterns with computed arithmetic

The values of `f32` by their bits, with two zeros, and the operations of IEEE 754 as the exact
ones followed by rounding to nearest, ties to even. `F32` has the same values but leaves the
arithmetic to the machine, which a proof cannot run. The payload and the sign of a NaN that an
operation returns are not specified.

Results:
1. Comparison with zero sees both zeros (`eq_zero`), and nothing from a positive number on is a
   zero (`not_isZero_of_le`).
-/

namespace Aviate

/-- A binary32 value, by its bits. -/
@[ext] structure Ieee32 where
  raw : F32
deriving DecidableEq, Repr

namespace Ieee32

def negative (v : Ieee32) : Bool := v.raw.bits &&& 0x80000000 ≠ 0

/-- A zero of either sign. -/
def isZero (v : Ieee32) : Bool := v.raw.bits &&& 0x7FFFFFFF = 0

/-- What the pattern stands for, without its sign. -/
def magnitude (v : Ieee32) : ExactFloat ℚ :=
  if v.raw.isNan then .nan
  else if !v.raw.isFinite then .posInf
  else .fin (v.raw.significand * 2 ^ ((v.raw.binade : ℤ) - 150))

def value (v : Ieee32) : ExactFloat ℚ := if v.negative then -v.magnitude else v.magnitude

/-- The pattern of a represented value without its sign. A significand of 24 bits carries into the
exponent field. -/
def magnitudeBits : ExactFloat ℚ → UInt32
  | .fin q =>
    if q = 0 then 0
    else
      let unit := max (Int.log 2 q - 23) (-149)
      .ofNat ((unit + 149).toNat * 2 ^ 23 + (q / 2 ^ unit).floor.toNat)
  | .posInf | .negInf => 0x7F800000
  | .nan => 0x7FC00000

/-- An exact magnitude rounded, under a sign. -/
def signed (negative : Bool) (magnitude : ExactFloat ℚ) : Ieee32 :=
  let bits := magnitudeBits (Binary32.round magnitude).value
  ⟨⟨if negative then bits ||| 0x80000000 else bits⟩⟩

/-- An exact result rounded; `zeroSign` is the sign of an exact zero. -/
def ofExact (zeroSign : Bool) : ExactFloat ℚ → Ieee32
  | .fin q => signed (if q = 0 then zeroSign else q < 0) (.fin |q|)
  | .posInf => signed false .posInf
  | .negInf => signed true .posInf
  | .nan => signed false .nan

instance : Scalar Ieee32 where
  add a b := ofExact (a.negative && b.negative) (a.value + b.value)
  sub a b := ofExact (a.negative && !b.negative) (a.value - b.value)
  mul a b := signed (a.negative ^^ b.negative) (a.magnitude * b.magnitude)
  div a b := signed (a.negative ^^ b.negative) (a.magnitude / b.magnitude)
  neg a := ⟨⟨a.raw.bits ^^^ 0x80000000⟩⟩
  lit q := ofExact false (.fin q)
  lt a b := a.raw.below b.raw
  le a b := a.raw.atMost b.raw
  isFinite a := a.raw.isFinite
  abs a := ⟨⟨a.raw.bits &&& 0x7FFFFFFF⟩⟩
  min a b :=
    if a.raw.isNan then b
    else if b.raw.isNan then a
    else if b.raw.below a.raw then b
    else a

example : (lit (1 / 10) + lit (2 / 10) : Ieee32) = ⟨⟨0x3E99999A⟩⟩ := by decide +kernel

example : (lit 1 / (-lit 0) : Ieee32) = ⟨⟨0xFF800000⟩⟩ := by decide +kernel

/-! ## Zeros -/

variable {a b : Ieee32}

theorem place_lit_zero : (lit 0 : Ieee32).raw.place = 0 := by decide +kernel

theorem place_eq_zero : a.raw.place = 0 ↔ a.isZero := by
  unfold F32.place isZero
  rw [decide_eq_true_iff]
  split
  · rw [Int.natCast_eq_zero, ← UInt32.toNat_zero, UInt32.toNat_inj]
  · rw [neg_eq_zero, Int.natCast_eq_zero, ← UInt32.toNat_zero, UInt32.toNat_inj]

theorem isNan_of_isZero (h : a.isZero) : a.raw.isNan = false := by
  rw [isZero, decide_eq_true_iff] at h
  have hexponent : a.raw.bits &&& 0x7F800000 = 0 := by
    have hmask : (0x7F800000 : UInt32) = 0x7FFFFFFF &&& 0x7F800000 := by decide
    rw [hmask, ← UInt32.and_assoc, h, UInt32.zero_and]
  have hfinite : a.raw.isFinite := by
    rw [F32.isFinite, hexponent]
    decide
  rw [F32.isNan, hfinite]
  rfl

/-- Both zeros equal zero. -/
theorem eq_zero : Scalar.eq a (lit 0) = a.isZero := by
  have hnan : (lit 0 : Ieee32).raw.isNan = false := by decide +kernel
  have heq : Scalar.eq a (lit 0) = (!a.raw.isNan && decide (a.raw.place = 0)) := by
    change (F32.atMost _ _ && F32.atMost _ _) = _
    rw [F32.atMost, F32.atMost, hnan, place_lit_zero]
    cases a.raw.isNan with
    | true => rfl
    | false => simp [← Bool.decide_and, le_antisymm_iff]
  rw [heq, Bool.eq_iff_iff, Bool.and_eq_true, decide_eq_true_iff, place_eq_zero]
  refine ⟨fun h => h.2, fun h => ⟨?_, h⟩⟩
  rw [isNan_of_isZero h]
  rfl

/-- Nothing from a positive number on is a zero. -/
theorem not_isZero_of_le (hpos : 0 < a.raw.place) (h : Scalar.le a b) : ¬ b.isZero := by
  intro hzero
  change F32.atMost _ _ = true at h
  rw [F32.atMost, Bool.and_eq_true, decide_eq_true_iff, place_eq_zero.mpr hzero] at h
  exact absurd hpos h.2.not_gt

end Ieee32

end Aviate
