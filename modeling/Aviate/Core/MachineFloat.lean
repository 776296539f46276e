import Aviate.Core.Types
import Aviate.Foundations.ByteBuffer

/-!
# Machine floats

The binary32 and binary64 arithmetic of the machine on bit patterns.
-/

/-- A binary64 value, by its bits. -/
structure F64 where
  bits : UInt64
deriving DecidableEq, Repr

namespace F64

def toFloat (v : F64) : Float := Float.ofBits v.bits

def ofFloat (v : Float) : F64 := ⟨v.toBits⟩

end F64

namespace F32

def toFloat (v : F32) : Float32 := Float32.ofBits v.bits

def ofFloat (v : Float32) : F32 := ⟨v.toBits⟩

/-- `f64::from`. -/
def toDouble (v : F32) : Float := v.toFloat.toFloat

/-- `as f32`. -/
def ofDouble (v : Float) : F32 := ofFloat v.toFloat32

/-- The exponent field is not all ones. -/
def isFinite (v : F32) : Bool := v.bits &&& 0x7F800000 ≠ 0x7F800000

def isNan (v : F32) : Bool := !v.isFinite && v.bits &&& 0x007FFFFF ≠ 0

/-- The place of a value that is no NaN in the order of the values: its magnitude with its
sign, so that both zeros have the place 0. -/
def place (v : F32) : Int :=
  let magnitude : Int := (v.bits &&& 0x7FFFFFFF).toNat
  if v.bits &&& 0x80000000 = 0 then magnitude else -magnitude

/-- `a < b` of machine floats. -/
def below (a b : F32) : Bool := !a.isNan && !b.isNan && a.place < b.place

/-- `a <= b` of machine floats. -/
def atMost (a b : F32) : Bool := !a.isNan && !b.isNan && a.place ≤ b.place

/-! ## Casts and remainders -/

/-- `f32::NAN`. -/
def nan : F32 := ⟨0x7FC00000⟩

/-- `as i32`: towards zero, saturating. -/
def toI32 (v : F32) : Int32 := v.toFloat.toInt32

/-- `as i16`. -/
def toI16 (v : F32) : Int16 := v.toFloat.toInt16

/-- `as u16`. -/
def toU16 (v : F32) : UInt16 := v.toFloat.toUInt16

/-- The exponent field, with the subnormal values counted to the lowest binade. -/
def binade (v : F32) : Nat := max ((v.bits >>> 23) &&& 0xFF).toNat 1

/-- The magnitude in units of the last place of its binade. -/
def significand (v : F32) : Nat :=
  let fraction := (v.bits &&& 0x007FFFFF).toNat
  if (v.bits >>> 23) &&& 0xFF = 0 then fraction else fraction + 2 ^ 23

/-- `a % b`: what is left of `a` after whole multiples of `b`, with the sign of `a`. It is exact,
so it is computed on the integers, in the smaller of the two units. -/
def rem (a b : F32) : F32 :=
  if !a.isFinite || b.isNan || b.significand = 0 then nan
  else if !b.isFinite then a
  else
    let unit := min a.binade b.binade
    let left := (a.significand <<< (a.binade - unit)) % (b.significand <<< (b.binade - unit))
    let magnitude := ofFloat ((Float32.ofNat left).scaleB (Int.ofNat unit - 150))
    ⟨magnitude.bits ||| (a.bits &&& 0x80000000)⟩

end F32

namespace Aviate

open F32

/-- Literals are quotients of integers that binary32 holds exactly, so that dividing rounds them
to the nearest. -/
instance : Scalar F32 where
  add a b := ofFloat (a.toFloat + b.toFloat)
  sub a b := ofFloat (a.toFloat - b.toFloat)
  mul a b := ofFloat (a.toFloat * b.toFloat)
  div a b := ofFloat (a.toFloat / b.toFloat)
  neg a := ofFloat (-a.toFloat)
  lit q := ofFloat (Float32.ofInt q.num / Float32.ofNat q.den)
  lt a b := a.toFloat.lt b.toFloat
  le a b := a.toFloat.le b.toFloat
  isFinite a := a.toFloat.isFinite
  abs a := ofFloat a.toFloat.abs
  min a b :=
    if a.toFloat.isNaN then b
    else if b.toFloat.isNaN then a
    else if b.toFloat.lt a.toFloat then b
    else a

instance : Libm F32 where
  sqrtf a := ofFloat a.toFloat.sqrt
  sinf a := ofFloat a.toFloat.sin
  cosf a := ofFloat a.toFloat.cos
  asinf a := ofFloat a.toFloat.asin
  atan2f a b := ofFloat (a.toFloat.atan2 b.toFloat)

end Aviate
