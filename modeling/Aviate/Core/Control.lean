import Mathlib.Order.Lattice
import Aviate.Core.Types

/-!
# The flight-control surface

Enumerations, setpoints, commands, limits and the control-mode flags the
controller is driven by (`control.rs` and its submodules `enums`,
`vehicle_control_mode`, `transfer` and `observation`).

`ControlLawV1` carries the order its severity gives it
(`ControlLawV1.lt_iff_severity`), so that "at least as degraded as" is `≤` and a
degradation is a join.
-/

namespace Aviate

/-! ## Enumerations -/

inductive ControlMode where
  | rate
  | attitude
  | altitudeHold
  | positionHold
  | velocityControl
  | deviationTracking
deriving DecidableEq, Repr

/-- The flight-control capability in force, from full protection to the
last-ditch safe pattern. -/
inductive ControlLawV1 where
  | primary
  | alternate
  | direct
  | backup
deriving DecidableEq, Repr

inductive CommandSource where
  | pilot
  | autopilot
  | gcs
  | failsafe
deriving DecidableEq, Repr

inductive ConfigMode where
  | hover
  | cruise
  | transition
  | degraded
deriving DecidableEq, Repr

inductive AuthorityProfile where
  | hardEnvelope
  | softEnvelope
deriving DecidableEq, Repr

namespace ControlLawV1

/-- The severity level (higher = more degraded). -/
def severity : ControlLawV1 → Nat
  | primary => 0
  | alternate => 1
  | direct => 2
  | backup => 3

theorem severity_injective : Function.Injective severity := by
  intro a b h
  cases a <;> cases b <;> first | rfl | exact absurd h (by decide)

/-- The derived order of the enumeration is the order of severity. -/
instance : LinearOrder ControlLawV1 := LinearOrder.lift' severity severity_injective

theorem lt_iff_severity {a b : ControlLawV1} : a < b ↔ a.severity < b.severity := Iff.rfl

theorem le_backup (a : ControlLawV1) : a ≤ backup := by
  cases a <;> decide

theorem primary_le (a : ControlLawV1) : primary ≤ a := by
  cases a <;> decide

/-- The laws under which the uplinked command is flown are those below
`direct`. -/
theorem lt_direct_iff {a : ControlLawV1} : a < direct ↔ a = primary ∨ a = alternate := by
  cases a <;> decide

end ControlLawV1

/-! ## Commands -/

variable {F : Type}

structure Setpoint (F : Type) where
  attitude : Option (Quaternion F)
  angularRate : Option (Vector F 3)
  altitude : Option F
  verticalSpeed : Option F
  heading : Option F
  position : Option (Vector F 3)
  velocity : Option (Vector F 3)
  lateralDeviation : Option F
  verticalDeviation : Option F
  collectiveThrust : F

def Setpoint.default [Scalar F] : Setpoint F where
  attitude := none
  angularRate := none
  altitude := none
  verticalSpeed := none
  heading := none
  position := none
  velocity := none
  lateralDeviation := none
  verticalDeviation := none
  collectiveThrust := lit 0

structure SensorOverrides where
  gnssForceState : Option GnssHealth
deriving DecidableEq, Repr

structure Command (F : Type) where
  mode : ControlMode
  setpoint : Setpoint F
  configModeRequest : Option ConfigMode
  sensorOverrides : Option SensorOverrides
  sequence : UInt32
  source : CommandSource

/-- A command as `update` finds it in memory. The code guards its enum fields
against single-event upsets: in an `upset` command one of them holds a
discriminant of no variant, and only the sequence number is read. -/
inductive CommandMemory (F : Type) where
  | intact (command : Command F)
  | upset (sequence : UInt32)

/-- Every enum field of the command holds the discriminant of a variant. -/
def CommandMemory.validateEnums : CommandMemory F → Bool
  | intact _ => true
  | upset _ => false

def CommandMemory.sequence : CommandMemory F → UInt32
  | intact command => command.sequence
  | upset sequence => sequence

structure Limits (F : Type) where
  maxRoll : F
  maxPitch : F
  maxRollRate : F
  maxPitchRate : F
  maxYawRate : F
  maxHorizontalSpeed : F
  maxClimbRate : F
  maxDescentRate : F
  maxAltitude : F
  minAltitude : F
  minAirspeed : Option F
  maxAirspeed : Option F
  maxLoadFactor : F
  minLoadFactor : F

structure AxisCommand (F : Type) where
  roll : F
  pitch : F
  yaw : F
  collective : F

/-! ## Controller diagnostics -/

inductive IntegratorAction where
  | frozenInactive
  | integrated
  | frozenSaturation
  | reset
deriving DecidableEq, Repr

inductive EffectiveControlTopology where
  | position
  | velocity
  | vertical
  | attitude
  | zeroThrust
  | unsupported
deriving DecidableEq, Repr

structure ControllerLoopObservation (F : Type) where
  p : Vector F 3
  i : Vector F 3
  d : Vector F 3
  feedforward : Vector F 3
  integratorBefore : Vector F 3
  integratorAfter : Vector F 3
  integratorAction : Vector IntegratorAction 3
  saturated : Vector Bool 3

structure EffectiveSetpointObservation (F : Type) where
  positionNed : Option (Vector F 3)
  velocityNed : Option (Vector F 3)
  accelerationNed : Vector F 3
  attitude : Quaternion F
  angularRate : Vector F 3
  collective : F

structure MultirotorControllerObservation (F : Type) where
  previousMode : Option ControlMode
  currentMode : ControlMode
  previousTopology : Option EffectiveControlTopology
  currentTopology : EffectiveControlTopology
  setpoints : EffectiveSetpointObservation F
  velocityLoop : ControllerLoopObservation F
  rateLoop : ControllerLoopObservation F
  axisCommand : AxisCommand F

structure ControllerStepObservation (F : Type) where
  multirotor : Option (MultirotorControllerObservation F)

def ControllerStepObservation.default : ControllerStepObservation F := ⟨none⟩

structure ControllerStep (F : Type) where
  axisCommand : AxisCommand F
  observation : ControllerStepObservation F

/-! ## Mode-entry decisions and control-mode flags -/

/-- Outcome of gating a commanded mode's entry against the estimator's validity. -/
inductive ModeEntryDecision where
  | granted (mode : ControlMode)
  | fallenBack (requested effective : ControlMode) (missing : StateValidFlags)
  | refused (requested : ControlMode) (missing : StateValidFlags)
  | unsupported (requested : ControlMode)
deriving DecidableEq, Repr

/-- The mode whose flags drive loop selection this cycle. -/
def ModeEntryDecision.effective : ModeEntryDecision → ControlMode
  | granted mode => mode
  | fallenBack _ effective _ => effective
  | refused _ _ => .attitude
  | unsupported _ => .attitude

def ModeEntryDecision.isUnsupported : ModeEntryDecision → Bool
  | unsupported _ => true
  | _ => false

/-- The flags that authorise each control loop. -/
structure VehicleControlMode where
  automaticFallbackFrom : Option ControlMode
  flagControlManualEnabled : Bool
  flagControlOffboardEnabled : Bool
  flagControlRatesEnabled : Bool
  flagControlAttitudeEnabled : Bool
  flagControlAltitudeEnabled : Bool
  flagControlClimbRateEnabled : Bool
  flagControlVelocityEnabled : Bool
  flagControlPositionEnabled : Bool
  flagControlTerminationEnabled : Bool
deriving DecidableEq, Repr

namespace VehicleControlMode

/-- The flags of a requested mode. -/
def fromControlMode : ControlMode → VehicleControlMode
  | .rate => ⟨none, true, false, true, false, false, false, false, false, false⟩
  | .attitude => ⟨none, true, false, true, true, false, false, false, false, false⟩
  | .altitudeHold => ⟨none, true, false, true, true, true, true, false, false, false⟩
  | .positionHold => ⟨none, false, false, true, true, true, true, true, true, false⟩
  | .velocityControl => ⟨none, false, true, true, true, false, true, true, false, false⟩
  | .deviationTracking => ⟨none, false, false, true, true, true, true, true, true, false⟩

/-- Add the requested mode that caused an automatic fallback. -/
def withModeEntry (flags : VehicleControlMode) (decision : ModeEntryDecision) :
    VehicleControlMode :=
  { flags with
    automaticFallbackFrom := match decision with
      | .fallenBack requested _ _ => some requested
      | .granted _ => none
      | .refused _ _ => none
      | .unsupported _ => none }

end VehicleControlMode

end Aviate
