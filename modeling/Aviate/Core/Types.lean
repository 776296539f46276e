import Mathlib.Data.Rat.Cast.Defs
import Aviate.Foundations.ExactFloat
import Aviate.Foundations.FlagSet

/-!
# Base types of the flight core

The scalar type, time, sensors, attitude mathematics and the state estimate
(`types.rs`, `time.rs`, `sensor.rs`, `math.rs`, `state.rs`).

The core computes in `f32`. The model is generic in the scalar type `F`:
`Scalar F` lists the operations the code uses, and `Libm F` the functions it
takes from the external `libm` crate. What the kernel proves about its lifecycle
holds for every arithmetic, so for `f32` itself. Bounds on actuator values are
proved for `ExactFloat K`, where finite arithmetic is exact and the non-finite
values are explicit.

The unit newtypes (`Meters`, `Radians`, `Normalized`, …) wrap one scalar each and
are modelled by the scalar.
-/

/-- `u16::saturating_add`. -/
def UInt16.saturatingAdd (a b : UInt16) : UInt16 :=
  if a.toNat + b.toNat < UInt16.size then a + b else .ofNat (UInt16.size - 1)

/-- `u32::saturating_add`. -/
def UInt32.saturatingAdd (a b : UInt32) : UInt32 :=
  if a.toNat + b.toNat < UInt32.size then a + b else .ofNat (UInt32.size - 1)

/-- `u64::saturating_add`. -/
def UInt64.saturatingAdd (a b : UInt64) : UInt64 :=
  if a.toNat + b.toNat < UInt64.size then a + b else .ofNat (UInt64.size - 1)

namespace Aviate

/-! ## Scalars -/

/-- The operations of `f32` the core uses. `lit` is the value of a literal. -/
class Scalar (F : Type) extends Add F, Sub F, Mul F, Div F, Neg F where
  lit : ℚ → F
  lt : F → F → Bool
  le : F → F → Bool
  isFinite : F → Bool
  abs : F → F
  min : F → F → F

/-- The functions of the external `libm` crate. -/
class Libm (F : Type) where
  sqrtf : F → F
  sinf : F → F
  cosf : F → F
  asinf : F → F
  atan2f : F → F → F

export Scalar (lit)
export Libm (sqrtf sinf cosf asinf atan2f)

/-- Exact arithmetic with explicit non-finite values is a scalar type. -/
instance {K : Type} [Field K] [LinearOrder K] : Scalar (ExactFloat K) where
  lit q := .fin q
  lt := ExactFloat.lt
  le := ExactFloat.le
  isFinite := ExactFloat.isFinite
  abs := ExactFloat.abs
  min := ExactFloat.min

section Exact

variable {K : Type} [Field K] [LinearOrder K] {x y : ExactFloat K} {q : ℚ}

@[simp] theorem lit_exact : (lit q : ExactFloat K) = .fin q := rfl

@[simp] theorem lt_exact : Scalar.lt x y = x.lt y := rfl

@[simp] theorem le_exact : Scalar.le x y = x.le y := rfl

@[simp] theorem isFinite_exact : Scalar.isFinite x = x.isFinite := rfl

@[simp] theorem abs_exact : Scalar.abs x = x.abs := rfl

@[simp] theorem min_exact : Scalar.min x y = x.min y := rfl

end Exact

variable {F : Type}

/-- `f32::clamp` for ordered bounds. -/
def Scalar.clamp [Scalar F] (x lo hi : F) : F :=
  if Scalar.lt x lo then lo else if Scalar.lt hi x then hi else x

/-- `f32::max`: an operand that is NaN is ignored. -/
def Scalar.max [Scalar F] (x y : F) : F :=
  if !Scalar.le x x then y else if !Scalar.le y y then x else if Scalar.lt x y then y else x

/-- `==` of floats. -/
def Scalar.eq [Scalar F] (x y : F) : Bool := Scalar.le x y && Scalar.le y x

/-- The `f32` nearest to `π`. -/
def pi [Scalar F] : F := lit (13176795 / 4194304)

/-- `while err > PI { err -= 2.0 * PI }`. -/
def wrapDown [Scalar F] : Nat → F → Option F
  | 0, _ => none
  | fuel + 1, err =>
    if Scalar.lt pi err then wrapDown fuel (err - lit 2 * pi) else some err

/-- `while err < -PI { err += 2.0 * PI }`. -/
def wrapUp [Scalar F] : Nat → F → Option F
  | 0, _ => none
  | fuel + 1, err =>
    if Scalar.lt err (-pi) then wrapUp fuel (err + lit 2 * pi) else some err

/-! ## Time -/

inductive TimeSource where
  | internal
  | gps
  | ptp
deriving DecidableEq, Repr

structure Timestamp where
  ticks : UInt64
  source : TimeSource
deriving DecidableEq, Repr

def Timestamp.default : Timestamp := ⟨0, .internal⟩

structure TimeDelta (F : Type) where
  dtSec : F
  tickDelta : UInt64

/-- `tick_delta` already counts microseconds. -/
def TimeDelta.asMicros (time : TimeDelta F) : UInt64 := time.tickDelta

/-! ## Sensors -/

inductive SensorHealth where
  | good
  | degraded
  | failed
  | notAvailable
deriving DecidableEq, Repr

structure SensorReading (α : Type) where
  value : α
  valid : Bool
  sourceId : UInt8
  timestamp : Timestamp
  health : SensorHealth

structure ImuData (F : Type) where
  accel : Vector F 3
  gyro : Vector F 3

inductive GnssFix where
  | none
  | twoD
  | threeD
  | rtkFloat
  | rtkFixed
deriving DecidableEq, Repr

inductive GnssHealth where
  | good
  | suspect
  | lost
deriving DecidableEq, Repr

structure GnssData (F : Type) where
  positionNed : Vector F 3
  velocityNed : Vector F 3
  fix : GnssFix
  health : GnssHealth

structure MagData (F : Type) where
  fieldUt : Vector F 3

structure AirData (F : Type) where
  staticPressure : Option F
  dynamicPressure : Option F
  totalPressure : Option F
  temperature : Option F
  indicatedAirspeed : Option F
  trueAirspeed : Option F

structure BaroData (F : Type) where
  altitude : Option F
  air : AirData F

structure AirspeedData (F : Type) where
  air : AirData F

inductive GeomagneticSource where
  | model
  | configured
deriving DecidableEq, Repr

structure GeomagneticReference (F : Type) where
  declination : F
  source : GeomagneticSource

structure GeometryState where
  valid : Bool
deriving DecidableEq, Repr

/-- One cycle's readings of every sensor channel. -/
structure SensorSet (F : Type) where
  imus : Vector (SensorReading (ImuData F)) 3
  gnss : Vector (SensorReading (GnssData F)) 2
  mags : Vector (SensorReading (MagData F)) 2
  baros : Vector (SensorReading (BaroData F)) 2
  airspeeds : Vector (SensorReading (AirspeedData F)) 2
  geometry : Option GeometryState
  geomagnetic : Option (GeomagneticReference F)

/-- The health test every check and fault bit applies to its sensor class: some
reading is valid and in good health. -/
def anyGood {α : Type} {n : Nat} (readings : Vector (SensorReading α) n) : Bool :=
  readings.toList.any fun s => s.valid && s.health == .good

/-! ## Attitude -/

structure Vector3 (F : Type) where
  x : F
  y : F
  z : F

/-- A rotation from the body frame to the NED frame. -/
structure Quaternion (F : Type) where
  w : F
  x : F
  y : F
  z : F

namespace Quaternion

variable [Scalar F] [Libm F]

def identity : Quaternion F := ⟨lit 1, lit 0, lit 0, lit 0⟩

def normSq (q : Quaternion F) : F := q.w * q.w + q.x * q.x + q.y * q.y + q.z * q.z

def normalize (q : Quaternion F) : Quaternion F :=
  let n := sqrtf q.normSq
  if Scalar.lt (lit (1 / 1000000)) n && Scalar.isFinite n then
    ⟨q.w / n, q.x / n, q.y / n, q.z / n⟩
  else identity

protected def mul (q other : Quaternion F) : Quaternion F where
  w := q.w * other.w - q.x * other.x - q.y * other.y - q.z * other.z
  x := q.w * other.x + q.x * other.w + q.y * other.z - q.z * other.y
  y := q.w * other.y - q.x * other.z + q.y * other.w + q.z * other.x
  z := q.w * other.z + q.x * other.y - q.y * other.x + q.z * other.w

def fromAxisAngle (axis : Vector3 F) (angle : F) : Quaternion F :=
  let halfAngle := angle * lit (1 / 2)
  let s := sinf halfAngle
  ⟨cosf halfAngle, axis.x * s, axis.y * s, axis.z * s⟩

/-- The `f32` nearest to `π / 2`. -/
def fracPi2 : F := lit (13176795 / 8388608)

/-- Roll, pitch and yaw of the ZYX sequence, with pitch held at `±π / 2` out of
the range of `asin`. -/
def toEuler (q : Quaternion F) : F × F × F :=
  let sinrCosp := lit 2 * (q.w * q.x + q.y * q.z)
  let cosrCosp := lit 1 - lit 2 * (q.x * q.x + q.y * q.y)
  let roll := atan2f sinrCosp cosrCosp
  let sinp := lit 2 * (q.w * q.y - q.z * q.x)
  let pitch :=
    if Scalar.le (lit 1) (Scalar.abs sinp) then
      if Scalar.lt (lit 0) sinp then fracPi2 else -fracPi2
    else asinf sinp
  let sinyCosp := lit 2 * (q.w * q.z + q.x * q.y)
  let cosyCosp := lit 1 - lit 2 * (q.y * q.y + q.z * q.z)
  let yaw := atan2f sinyCosp cosyCosp
  (roll, pitch, yaw)

end Quaternion

/-! ## State estimate -/

/-- Which parts of the estimate may be used. -/
abbrev StateValidFlags := FlagSet 8

namespace StateValidFlags

def attitude : StateValidFlags := .flag 0
def angularRate : StateValidFlags := .flag 1
def position : StateValidFlags := .flag 2
def velocity : StateValidFlags := .flag 3

end StateValidFlags

inductive EstimateQuality where
  | good
  | degraded
  | unusable
deriving DecidableEq, Repr

structure StateEstimate (F : Type) where
  attitude : Quaternion F
  angularVelocity : Vector F 3
  positionNed : Vector F 3
  velocityNed : Vector F 3
  quality : EstimateQuality
  validFlags : StateValidFlags

end Aviate
