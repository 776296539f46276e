import Aviate.Core.MachineFloat

/-!
# Perturbation data

What the calibration perturbations read, change and report: sensor packets, actuator commands,
factors, evidence and refusals.
-/

namespace Aviate.Perturbation

/-! ## SHA-256 -/

abbrev Digest := Vector UInt8 32

/-- The digest of the external `sha2` crate. -/
class Sha256 where
  digest : Bytes → Digest

def Digest.toList (digest : Digest) : Bytes := digest.toArray.toList

/-! ## Simulator data -/

structure SimImuData where
  accel : Vector F32 3
  gyro : Vector F32 3
  temperature : Option F32
deriving DecidableEq, Repr

structure SimBaroData where
  pressurePa : F32
  differentialPressurePa : Option F32
  pressureAltitudeM : Option F32
  temperatureC : F32
deriving DecidableEq, Repr

structure SimMagData where
  fieldUt : Vector F32 3
deriving DecidableEq, Repr

inductive SimGnssFix where
  | none
  | twoD
  | threeD
  | rtkFloat
  | rtkFixed
deriving DecidableEq, Repr

structure SimGnssData where
  latDeg : F64
  lonDeg : F64
  altM : F32
  positionNed : Vector F32 3
  velNed : Vector F32 3
  fix : SimGnssFix
  hAcc : F32
  vAcc : F32
  satellites : UInt8
deriving DecidableEq, Repr

structure SimSensorPacket where
  timestampUs : UInt64
  presenceMask : UInt16
  imu : Option SimImuData
  baro : Option SimBaroData
  mag : Option SimMagData
  gnss : Option SimGnssData
  resetGeneration : Option UInt32
deriving DecidableEq, Repr

/-- `SimSensorPacket::new`. -/
def SimSensorPacket.new (timestampUs : UInt64) : SimSensorPacket :=
  { timestampUs, presenceMask := 0, imu := none, baro := none, mag := none, gnss := none
    resetGeneration := none }

abbrev Lanes := Vector F32 16

structure SimActuatorCmd where
  timestampUs : UInt64
  outputs : Lanes
  count : UInt8
  armed : Bool
deriving DecidableEq, Repr

/-- `SimActuatorCmd::new`. -/
def SimActuatorCmd.new (timestampUs : UInt64) (count : UInt8) (armed : Bool) : SimActuatorCmd :=
  { timestampUs, outputs := Vector.replicate 16 ⟨0⟩, count, armed }

/-! ## Factors -/

/-- The order is that of the lanes' bits in a presence mask. -/
inductive SensorLane where
  | accelerometerX
  | accelerometerY
  | accelerometerZ
  | gyroscopeX
  | gyroscopeY
  | gyroscopeZ
  | magnetometerX
  | magnetometerY
  | magnetometerZ
  | absolutePressure
  | differentialPressure
  | pressureAltitude
deriving DecidableEq, Repr

structure SensorNoise where
  lane : SensorLane
  peakAmplitude : F32
  updateIntervalSamples : UInt32
deriving DecidableEq, Repr

structure CommandHoldPerturbation where
  fractionBasisPoints : UInt16
  decisionIntervalSamples : UInt32
deriving DecidableEq, Repr

structure ActuatorPerturbation where
  authorityScaleBasisPoints : UInt16
  commandHold : Option CommandHoldPerturbation
deriving DecidableEq, Repr

structure PerturbationIdentity where
  conditionDigest : Digest
  runSeed : UInt64
deriving DecidableEq, Repr

structure PerturbationConfig where
  identity : PerturbationIdentity
  sensorNoise : List SensorNoise
  actuator : ActuatorPerturbation
deriving DecidableEq, Repr

/-! ## Eligibility -/

inductive ActuatorBypassReason where
  | missingAnswer
  | invalidActuatorCount
  | backup
  | direct
  | failsafe
  | fallbackMask
  | armTransition
  | disarmed
  | emergencyTermination
deriving DecidableEq, Repr

inductive ActuatorEligibility where
  | eligible
  | bypass (reason : ActuatorBypassReason)
deriving DecidableEq, Repr

/-! ## Refusals -/

inductive PerturbationError where
  | zeroConditionDigest
  | duplicateSensorLane (lane : SensorLane)
  | invalidSensorAmplitude (lane : SensorLane)
  | invalidSensorInterval (lane : SensorLane)
  | invalidAuthorityScale (value : UInt16)
  | invalidCommandHold
  | sampleSequence (expected received : UInt64)
  | sampleSequenceExhausted
  | actuatorSequence (current received : UInt64)
  | duplicateActuatorDecision (sequence : UInt64)
  | duplicateActuatorSend (sequence : UInt64)
  | missingActuatorSend (sequence : UInt64)
  | actuatorSendFailed (sequence : UInt64)
  | invalidActuatorCount (count : UInt8)
  | nonFiniteSensor (lane : SensorLane)
  | sensorPresenceMismatch (group : String)
  | quarantined
deriving DecidableEq, Repr

/-- `u64::MAX`. -/
def u64Max : UInt64 := 0xFFFFFFFFFFFFFFFF

end Aviate.Perturbation
