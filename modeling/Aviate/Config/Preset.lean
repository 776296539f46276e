import Aviate.Core.Types
import Aviate.Foundations.ByteBuffer
import Aviate.Foundations.Validation

/-!
# Airframe presets

The versioned airframe data contract (`aviate-config`, `airframe_preset.rs`). Text is its bytes,
and the external TOML decoder is a parameter. A `Gain` names one number of the gains, so that what
is true of each is said once.
-/

namespace Aviate.Config

open Validation

variable {F : Type}

/-- `toml::from_str`, with its error as text. -/
class FromToml (α : Type) where
  fromStr : Bytes → Except String α

/-! ## The data -/

inductive MixerKind where
  | quadX
  | quadXX500
  | quadXX500ReversedSpin
deriving DecidableEq, Repr

def MixerKind.motorCount : MixerKind → UInt8
  | quadX | quadXX500 | quadXX500ReversedSpin => 4

inductive ActuatorCurve where
  | linear
  | quadratic
deriving DecidableEq, Repr

structure GainsPreset (F : Type) where
  posP : Vector F 3
  posAccelLimits : Vector F 3
  posVelCaps : Vector F 3
  velP : Vector F 3
  velI : Vector F 3
  velD : Vector F 3
  velMaxRollPitch : F
  velMaxYawStep : F
  velAccelFf : F
  attP : Vector F 3
  attMaxRateCmd : F
  rateP : Vector F 3
  rateI : Vector F 3
  rateD : Vector F 3
  rateDLpfAlpha : F
deriving DecidableEq, Repr

structure LimitsPreset (F : Type) where
  maxRoll : F
  maxPitch : F
  maxRollRate : F
  maxPitchRate : F
  maxYawRate : F
  maxHorizontalSpeed : F
  maxClimbRate : F
  maxDescentRate : F
  maxAltitude : F
  minAltitude : F
deriving DecidableEq, Repr

structure AirframePreset (F : Type) where
  schemaVersion : UInt32
  name : Bytes
  mixer : MixerKind
  motorCount : UInt8
  hoverThrustSeed : F
  actuatorCurve : ActuatorCurve
  gains : GainsPreset F
  limits : LimitsPreset F
deriving DecidableEq, Repr

inductive PresetError where
  | unsupportedSchema (found : UInt32)
  | fieldOutOfRange (field : String)
  | motorCountMismatch (declared required : UInt8)
deriving DecidableEq, Repr

/-- `to_string`. -/
def PresetError.display : PresetError → String
  | unsupportedSchema found => s!"unsupported preset schema_version {found} (expected 1 or 2)"
  | fieldOutOfRange field => s!"preset field {field} is non-finite or out of range"
  | motorCountMismatch declared required =>
    s!"motor_count {declared} does not match mixer geometry (requires {required})"

/-! ## One gain at a time -/

/-- The fields of the gains with a value for each axis. -/
inductive TripleField where
  | posP
  | posAccelLimits
  | posVelCaps
  | velP
  | velI
  | velD
  | attP
  | rateP
  | rateI
  | rateD
deriving DecidableEq, Repr

/-- The other fields of the gains. -/
inductive ScalarField where
  | velMaxRollPitch
  | velMaxYawStep
  | velAccelFf
  | attMaxRateCmd
  | rateDLpfAlpha
deriving DecidableEq, Repr

inductive Gain where
  | triple (field : TripleField) (axis : Fin 3)
  | scalar (field : ScalarField)
deriving DecidableEq, Repr

namespace GainsPreset

def triple (g : GainsPreset F) : TripleField → Vector F 3
  | .posP => g.posP
  | .posAccelLimits => g.posAccelLimits
  | .posVelCaps => g.posVelCaps
  | .velP => g.velP
  | .velI => g.velI
  | .velD => g.velD
  | .attP => g.attP
  | .rateP => g.rateP
  | .rateI => g.rateI
  | .rateD => g.rateD

def scalar (g : GainsPreset F) : ScalarField → F
  | .velMaxRollPitch => g.velMaxRollPitch
  | .velMaxYawStep => g.velMaxYawStep
  | .velAccelFf => g.velAccelFf
  | .attMaxRateCmd => g.attMaxRateCmd
  | .rateDLpfAlpha => g.rateDLpfAlpha

def read (g : GainsPreset F) : Gain → F
  | .triple field axis => (g.triple field).get axis
  | .scalar field => g.scalar field

end GainsPreset

/-! ## Validation -/

variable [Scalar F]

/-- `!v.is_finite() || !(lower..=upper).contains(&v)`. -/
def outside (value lower upper : F) : Bool :=
  !Scalar.isFinite value || !(Scalar.le lower value && Scalar.le value upper)

namespace GainsPreset

/-- The fields with one value for each axis, under their names. -/
def triples (g : GainsPreset F) : List (String × Vector F 3) :=
  [("gains.pos_p", g.posP), ("gains.pos_accel_limits", g.posAccelLimits),
    ("gains.pos_vel_caps", g.posVelCaps), ("gains.vel_p", g.velP), ("gains.vel_i", g.velI),
    ("gains.vel_d", g.velD), ("gains.att_p", g.attP), ("gains.rate_p", g.rateP),
    ("gains.rate_i", g.rateI), ("gains.rate_d", g.rateD)]

end GainsPreset

namespace AirframePreset

/-- The only public reading of the seed: the square of a rotor speed is a force. -/
def hoverThrustForceSeed (p : AirframePreset F) : F :=
  if p.schemaVersion = 1 ∧ p.actuatorCurve = .quadratic then p.hoverThrustSeed * p.hoverThrustSeed
  else p.hoverThrustSeed

/-- A seed of the second schema is a force already. -/
theorem hoverThrustForceSeed_of_schema_two {p : AirframePreset F} (h : p.schemaVersion = 2) :
    p.hoverThrustForceSeed = p.hoverThrustSeed := by
  rw [hoverThrustForceSeed, if_neg]
  rintro ⟨hone, -⟩
  rw [h] at hone
  exact absurd hone (by decide)

def validateGains (p : AirframePreset F) : Except PresetError Unit := do
  let g := p.gains
  g.triples.forM fun (name, t) =>
    refuse (t.toList.any fun v => !Scalar.isFinite v || Scalar.lt v (lit 0)) (.fieldOutOfRange name)
  refuse (!Scalar.isFinite g.velMaxRollPitch || Scalar.le g.velMaxRollPitch (lit 0))
    (.fieldOutOfRange "gains.vel_max_roll_pitch")
  [("gains.vel_max_yaw_step", g.velMaxYawStep),
    ("gains.att_max_rate_cmd", g.attMaxRateCmd)].forM fun (name, v) =>
      refuse (!Scalar.isFinite v || Scalar.lt v (lit 0)) (.fieldOutOfRange name)
  [("gains.vel_accel_ff", g.velAccelFf),
    ("gains.rate_d_lpf_alpha", g.rateDLpfAlpha)].forM fun (name, v) =>
      refuse (outside v (lit 0) (lit 1)) (.fieldOutOfRange name)

def validateLimits (p : AirframePreset F) : Except PresetError Unit := do
  let l := p.limits
  [("limits.max_roll", l.maxRoll), ("limits.max_pitch", l.maxPitch),
    ("limits.max_roll_rate", l.maxRollRate), ("limits.max_pitch_rate", l.maxPitchRate),
    ("limits.max_yaw_rate", l.maxYawRate), ("limits.max_horizontal_speed", l.maxHorizontalSpeed),
    ("limits.max_climb_rate", l.maxClimbRate),
    ("limits.max_descent_rate", l.maxDescentRate)].forM fun (name, v) =>
      refuse (!Scalar.isFinite v || Scalar.le v (lit 0)) (.fieldOutOfRange name)
  refuse (!Scalar.isFinite l.maxAltitude || !Scalar.isFinite l.minAltitude ||
    Scalar.le l.maxAltitude l.minAltitude) (.fieldOutOfRange "limits.max_altitude/min_altitude")

def validate (p : AirframePreset F) : Except PresetError Unit := do
  refuse (p.schemaVersion ≠ 1 ∧ p.schemaVersion ≠ 2) (.unsupportedSchema p.schemaVersion)
  let required := p.mixer.motorCount
  refuse (p.motorCount ≠ required) (.motorCountMismatch p.motorCount required)
  refuse (!Scalar.isFinite p.hoverThrustSeed || Scalar.le p.hoverThrustSeed (lit 0) ||
    Scalar.le (lit 1) p.hoverThrustSeed) (.fieldOutOfRange "hover_thrust_seed")
  p.validateGains
  p.validateLimits

end AirframePreset

def presetFromTomlStr [FromToml (AirframePreset F)] (text : Bytes) :
    Except String (AirframePreset F) := do
  let preset ← FromToml.fromStr text
  preset.validate.mapError PresetError.display
  return preset

theorem fromStr_of_presetFromTomlStr [FromToml (AirframePreset F)] {text : Bytes}
    {preset : AirframePreset F} (h : presetFromTomlStr text = .ok preset) :
    FromToml.fromStr text = .ok preset := by
  unfold presetFromTomlStr at h
  obtain ⟨decoded, hdecoded, h⟩ := bind_eq_ok.mp h
  obtain ⟨_, h⟩ := andThen_eq_ok.mp h
  cases h
  exact hdecoded

end Aviate.Config
