import Aviate.Config.Preset
import Aviate.Perturbation.Types
import Aviate.XPlane.IdentityGate
import Aviate.XPlane.Wire

/-!
# Simulator models

The strict simulator model of one airframe and its canonical identity (`xplane_model.rs`). The
identity gate and the wire constraints read parts of it; here it is whole.
-/

namespace Aviate

/-- `f32::to_bits`. -/
class FloatBits (F : Type) where
  toBits : F → UInt32

namespace Config

open ByteBuffer Perturbation Validation
open XPlane (XPlaneWireModel isAsciiAlphanumeric isAsciiHexdigit)

variable {F : Type}

/-! ## The data -/

inductive XPlaneMixerGeometry where
  | quadX
  | quadXX500
  | quadXX500ReversedSpin
deriving DecidableEq, Repr

inductive XPlaneActuatorCurve where
  | linear
  | quadraticRotor
deriving DecidableEq, Repr

/-- `as u8`. -/
def XPlaneMixerGeometry.code : XPlaneMixerGeometry → UInt8
  | quadX => 0
  | quadXX500 => 1
  | quadXX500ReversedSpin => 2

/-- `as u8`. -/
def XPlaneActuatorCurve.code : XPlaneActuatorCurve → UInt8
  | linear => 0
  | quadraticRotor => 1

/-- `as u8`. -/
def bridgeProtocolCode : XPlane.XPlaneBridgeProtocol → UInt8
  | .mavlinkHilTcpV1 => 0

structure XPlaneSimulatorModel (F : Type) extends XPlane.XPlaneSimulatorModel where
  schemaVersion : UInt16
  modelId : Bytes
  airframeId : Bytes
  airframePresetDigest : Bytes
  mixerGeometry : XPlaneMixerGeometry
  actuatorCurve : XPlaneActuatorCurve
  maxSamplesPerIteration : UInt16
  wire : XPlaneWireModel F

/-- What the validation of a model refuses. -/
inductive XPlaneModelError where
  | unsupportedSchema (version : UInt16)
  | invalidId (field : String)
  | fieldOutOfRange (field : String)
  | invalidLaneOrder
  | invalidRelation (relation : String)
deriving DecidableEq, Repr

/-- `to_string`. -/
def XPlaneModelError.display : XPlaneModelError → String
  | unsupportedSchema version => s!"unsupported X-Plane model schema {version}"
  | invalidId field => s!"invalid X-Plane model field {field}"
  | fieldOutOfRange field => s!"X-Plane model field {field} is outside its range"
  | invalidLaneOrder => "X-Plane lane_order must be a four-lane permutation"
  | invalidRelation relation => s!"invalid X-Plane model relation {relation}"

def XPlaneModelError.ofWire : XPlane.XPlaneModelError → XPlaneModelError
  | .fieldOutOfRange field => .fieldOutOfRange field
  | .invalidRelation relation => .invalidRelation relation

/-! ## Validation -/

def xplaneModelSchemaVersion : UInt16 := 1

/-- `MAX_ID_BYTES`. -/
def maxIdBytes : Nat := 64

/-- A stable name: portable ASCII, not empty and not too long. -/
def isPortableId (value : Bytes) : Bool :=
  !value.isEmpty && value.length ≤ maxIdBytes &&
    value.all fun byte => isAsciiAlphanumeric byte || byte ∈ [0x2D, 0x5F, 0x2E]

theorem length_of_isPortableId {value : Bytes} (h : isPortableId value) : value.length ≤ 64 := by
  simp only [isPortableId, Bool.and_eq_true, decide_eq_true_iff] at h
  exact h.1.2

/-- The text of a SHA-256 value. -/
def isHexDigest (value : Bytes) : Bool := value.length = 64 && value.all isAsciiHexdigit

namespace XPlaneSimulatorModel

def validate [Scalar F] (m : XPlaneSimulatorModel F) : Except XPlaneModelError Unit := do
  refuse (m.schemaVersion ≠ xplaneModelSchemaVersion) (.unsupportedSchema m.schemaVersion)
  refuse (!isPortableId m.modelId) (.invalidId "model_id")
  refuse (!isPortableId m.airframeId) (.invalidId "airframe_id")
  refuse (!isPortableId m.aircraftId) (.invalidId "aircraft_id")
  refuse (!isPortableId m.simulatorId) (.invalidId "simulator_id")
  refuse (!isHexDigest m.airframePresetDigest) (.invalidId "airframe_preset_digest")
  refuse (!isHexDigest m.aircraftFileDigest) (.invalidId "aircraft_file_digest")
  refuse (m.motorCount ≠ 4) (.fieldOutOfRange "motor_count")
  refuse (¬ (20 ≤ m.sampleRateHz ∧ m.sampleRateHz ≤ 1000)) (.fieldOutOfRange "sample_rate_hz")
  refuse (¬ (1 ≤ m.maxSamplesPerIteration ∧ m.maxSamplesPerIteration ≤ 1024))
    (.fieldOutOfRange "max_samples_per_iteration")
  refuse (m.laneOrder.toList.insertionSort (· ≤ ·) ≠ [0, 1, 2, 3]) .invalidLaneOrder
  m.wire.validate.mapError .ofWire

end XPlaneSimulatorModel

/-! ## The canonical identity -/

/-- The length in eight bytes, then the text. -/
def textBytes (text : Bytes) : Bytes := u64Bytes (.ofNat text.length) ++ text

/-- `canonical_f32_bits`: one pattern for both zeros. -/
def canonicalF32Bits [Scalar F] [FloatBits F] (value : F) : UInt32 :=
  FloatBits.toBits (if Scalar.eq value (lit 0) then lit 0 else value)

def canonicalValues (m : XPlaneWireModel F) : List F :=
  [m.risePerS, m.bandBoundary, m.lowBandRisePerS, m.fallPerS, m.meanCeiling, m.laneCeiling,
    m.airborneClearanceM, m.groundSqueeze, m.maxSampleDtS]

namespace XPlaneSimulatorModel

variable [Scalar F] [FloatBits F]

/-- What the hasher is fed. -/
def canonicalBytes (m : XPlaneSimulatorModel F) : Bytes :=
  u16Bytes m.schemaVersion ++ textBytes m.modelId ++ textBytes m.airframeId ++
    textBytes m.airframePresetDigest ++ textBytes m.aircraftId ++ textBytes m.simulatorId ++
    textBytes m.aircraftFileDigest ++ [bridgeProtocolCode m.bridgeProtocol] ++
    [m.mixerGeometry.code] ++ [m.actuatorCurve.code] ++ [m.motorCount] ++
    u16Bytes m.sampleRateHz ++ u16Bytes m.maxSamplesPerIteration ++ m.laneOrder.toList ++
    (canonicalValues m.wire).flatMap fun value => u32Bytes (canonicalF32Bits value)

def canonicalDigest [Sha256] (m : XPlaneSimulatorModel F) : Except XPlaneModelError Digest := do
  m.validate
  return Sha256.digest m.canonicalBytes

end XPlaneSimulatorModel

end Config

end Aviate
