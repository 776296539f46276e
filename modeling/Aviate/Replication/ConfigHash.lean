import Aviate.Model
import Aviate.Foundations.PrefixCode

/-!
# The canonical configuration hash

`ResolvedKernelConfig::canonical_hash` (`kernel/config/canonical.rs`): the FNV-1a fold over the
configuration, field by field, and its split before the hover force. The feeders take any
hasher, so that the stream they feed can be recorded.
-/

namespace Aviate

open ByteBuffer Hasher

/-! ## The fields the control cycle does not read -/

inductive FaultCategory where
  | imuFailed
  | imuAllFailed
  | gnssLost
  | gnssAllLost
  | baroFailed
  | magFailed
  | airspeedFailed
  | actuatorFailed
  | actuatorSaturated
  | actuatorDisagreement
  | actuatorNumericError
  | actuatorFallbackPersistent
  | estimatorDiverged
  | attitudeUncertain
  | positionUncertain
  | numericError
  | commandTimeout
  | commandInvalid
  | timingViolation
  | timingViolationPersistent
  | configInvalid
  | configTransitionFailed
  | memoryError
  | enumInvalid
deriving DecidableEq, Repr

inductive FaultAction where
  | monitor
  | isolate
  | degrade
  | emergency
deriving DecidableEq, Repr

structure FaultResponse where
  fault : FaultCategory
  action : FaultAction
  degradeTo : Option ControlLawV1
  maxResponseTimeMs : UInt32
deriving DecidableEq, Repr

inductive MixerGeometry where
  | quadX
  | quadXX500
  | quadXX500ReversedSpin
deriving DecidableEq, Repr

inductive ActuatorCurveKind where
  | linear
  | quadraticRotor
deriving DecidableEq, Repr

/-- The whole of `ResolvedKernelConfig`. The tables are slices, so their lengths are `usize`
values. -/
@[ext] structure FullKernelConfig extends ResolvedKernelConfig F32 where
  faultTable : List FaultResponse
  cascadeGains : CascadeGains F32
  hoverThrustNorm : F32
  mixerGeometry : MixerGeometry
  actuatorCurve : ActuatorCurveKind
  groupsFit : modeConfig.groups.length < 2 ^ 64
  membersFit : ∀ group ∈ modeConfig.groups, group.members.length < 2 ^ 64
  entriesFit : faultTable.length < 2 ^ 64

/-! ## The fold -/

structure Fnv1a64 where
  hash : UInt64
deriving DecidableEq, Repr

namespace Fnv1a64

def offset : UInt64 := 0xcbf29ce484222325

def prime : UInt64 := 0x00000100000001b3

def new : Fnv1a64 := ⟨offset⟩

def fromHash (hash : UInt64) : Fnv1a64 := ⟨hash⟩

instance : Hasher Fnv1a64 := ⟨fun h byte => ⟨(h.hash ^^^ byte.toUInt64) * prime⟩⟩

def finish (h : Fnv1a64) : UInt64 := h.hash

end Fnv1a64

section Feeders

variable {H : Type} [Hasher H]

def feedSeparator (h : H) : H := feedByte h 0xff

def feedU8 (h : H) (x : UInt8) : H := feedByte h x

def feedU16 (h : H) (x : UInt16) : H := feedBytes h (u16Bytes x)

def feedU32 (h : H) (x : UInt32) : H := feedBytes h (u32Bytes x)

/-- Eight bytes on every target. -/
def feedUsize (h : H) (x : Nat) : H := feedBytes h (u64Bytes (.ofNat x))

def feedF32 (h : H) (x : F32) : H := feedBytes h (f32Bytes x)

def feedBool (h : H) (b : Bool) : H := feedByte h (if b then 1 else 0)

def feedOptionF32 (h : H) : Option F32 → H
  | none => feedByte h 0
  | some v => feedF32 (feedByte h 1) v

/-! ## Fields -/

def feedLimits (h : H) (l : Limits F32) : H :=
  let h := feedF32 h l.maxRoll
  let h := feedF32 h l.maxPitch
  let h := feedF32 h l.maxRollRate
  let h := feedF32 h l.maxPitchRate
  let h := feedF32 h l.maxYawRate
  let h := feedF32 h l.maxHorizontalSpeed
  let h := feedF32 h l.maxClimbRate
  let h := feedF32 h l.maxDescentRate
  let h := feedF32 h l.maxAltitude
  let h := feedF32 h l.minAltitude
  let h := feedOptionF32 h l.minAirspeed
  let h := feedOptionF32 h l.maxAirspeed
  let h := feedF32 h l.maxLoadFactor
  feedF32 h l.minLoadFactor

def configModeTag : ConfigMode → UInt8
  | .hover => 0
  | .cruise => 1
  | .transition => 2
  | .degraded => 3

def feedConfigMode (h : H) (mode : ConfigMode) : H := feedU8 h (configModeTag mode)

def feedGroupKind (h : H) : GroupKind → H
  | .multirotor => feedU8 h 0
  | .distributedThrust => feedU8 h 1
  | .controlSurfaces => feedU8 h 2
  | .morphing => feedU8 h 3
  | .auxiliary => feedU8 h 4
  | .custom code => feedU8 (feedU8 h 5) code

def couplingKindTag : CouplingKind → UInt8
  | .strong => 0
  | .weak => 1

def feedCouplingKind (h : H) (k : CouplingKind) : H := feedU8 h (couplingKindTag k)

def feedFallbackPolicy (h : H) : FallbackPolicy → H
  | .holdLastGood => feedU8 h 0
  | .decayToSafe tauMs => feedU16 (feedU8 h 1) tauMs
  | .safePattern => feedU8 h 2

def feedGroupVector (h : H) (v : GroupVector F32) : H :=
  let h := v.outputs.toList.foldl feedF32 h
  let h := feedU16 h v.mask
  feedBool h v.valid

def feedActuatorGroupConfig (h : H) (g : ActuatorGroupConfig F32) : H :=
  let h := feedGroupKind h g.kind
  let h := feedCouplingKind h g.coupling
  let h := feedFallbackPolicy h g.fallback
  let h := feedUsize h g.members.length
  let h := feedBytes h g.members
  feedGroupVector h g.safePattern

def feedModeConfig (h : H) (m : ModeConfig F32) : H :=
  let h := feedConfigMode h m.mode
  let h := feedUsize h m.groups.length
  m.groups.foldl feedActuatorGroupConfig h

def faultCategoryTag : FaultCategory → UInt8
  | .imuFailed => 0
  | .imuAllFailed => 1
  | .gnssLost => 2
  | .gnssAllLost => 3
  | .baroFailed => 4
  | .magFailed => 5
  | .airspeedFailed => 6
  | .actuatorFailed => 7
  | .actuatorSaturated => 8
  | .actuatorDisagreement => 9
  | .actuatorNumericError => 10
  | .actuatorFallbackPersistent => 11
  | .estimatorDiverged => 12
  | .attitudeUncertain => 13
  | .positionUncertain => 14
  | .numericError => 15
  | .commandTimeout => 16
  | .commandInvalid => 17
  | .timingViolation => 18
  | .timingViolationPersistent => 19
  | .configInvalid => 20
  | .configTransitionFailed => 21
  | .memoryError => 22
  | .enumInvalid => 23

def feedFaultCategory (h : H) (c : FaultCategory) : H := feedU8 h (faultCategoryTag c)

def faultActionTag : FaultAction → UInt8
  | .monitor => 0
  | .isolate => 1
  | .degrade => 2
  | .emergency => 3

def feedFaultAction (h : H) (a : FaultAction) : H := feedU8 h (faultActionTag a)

def controlLawTag : ControlLawV1 → UInt8
  | .primary => 0
  | .alternate => 1
  | .direct => 2
  | .backup => 3

def feedControlLaw (h : H) (law : ControlLawV1) : H := feedU8 h (controlLawTag law)

def feedDegradeTo (h : H) : Option ControlLawV1 → H
  | none => feedByte h 0
  | some law => feedControlLaw (feedByte h 1) law

def feedFaultResponse (h : H) (r : FaultResponse) : H :=
  let h := feedFaultCategory h r.fault
  let h := feedFaultAction h r.action
  let h := feedDegradeTo h r.degradeTo
  feedU32 h r.maxResponseTimeMs

def feedFaultTable (h : H) (entries : List FaultResponse) : H :=
  entries.foldl feedFaultResponse (feedUsize h entries.length)

def feedCascadeGains (h : H) (g : CascadeGains F32) : H :=
  let h := (g.posP.toList ++ g.posAccelLimits.toList ++ g.posVelCaps.toList).foldl feedF32 h
  let h := (g.velP.toList ++ g.velI.toList ++ g.velD.toList).foldl feedF32 h
  let h := feedF32 h g.velMaxRollPitch
  let h := feedF32 h g.velMaxYawStep
  let h := feedF32 h g.velAccelFf
  let h := g.attP.toList.foldl feedF32 h
  let h := feedF32 h g.attMaxRateCmd
  let h := (g.rateP.toList ++ g.rateD.toList ++ g.rateI.toList).foldl feedF32 h
  feedF32 h g.rateDLpfAlpha

def mixerGeometryTag : MixerGeometry → UInt8
  | .quadX => 0
  | .quadXX500 => 1
  | .quadXX500ReversedSpin => 2

def feedMixerGeometry (h : H) (g : MixerGeometry) : H := feedU8 h (mixerGeometryTag g)

def actuatorCurveTag : ActuatorCurveKind → UInt8
  | .linear => 0
  | .quadraticRotor => 1

def feedActuatorCurve (h : H) (c : ActuatorCurveKind) : H := feedU8 h (actuatorCurveTag c)

/-! ## The configuration -/

/-- Every field before the hover force. -/
def feedHoverKernelPrefix (h : H) (cfg : FullKernelConfig) : H :=
  let h := feedSeparator (feedLimits h cfg.limits)
  let h := feedSeparator (feedModeConfig h cfg.modeConfig)
  let h := feedSeparator (feedFaultTable h cfg.faultTable)
  let h := feedSeparator (feedU32 h cfg.commandTimeoutMs)
  let h := feedSeparator (cfg.safeOutput.toList.foldl feedF32 h)
  let h := feedSeparator (cfg.slewLimitPerCycle.toList.foldl feedF32 h)
  feedSeparator (feedCascadeGains h cfg.cascadeGains)

/-- The hover force and the fields after it. -/
def feedAfterHoverPrefix (h : H) (hoverThrustNorm : F32) (mixerGeometry : MixerGeometry)
    (actuatorCurve : ActuatorCurveKind) : H :=
  let h := feedSeparator (feedF32 h hoverThrustNorm)
  let h := feedSeparator (feedMixerGeometry h mixerGeometry)
  feedActuatorCurve h actuatorCurve

end Feeders

/-- The state of the fold before the hover force. -/
def hoverKernelPrefixHash (cfg : FullKernelConfig) : UInt64 :=
  (feedHoverKernelPrefix Fnv1a64.new cfg).finish

/-- Go on from such a state. -/
def canonicalHashFromHoverPrefix (prefixHash : UInt64) (hoverThrustNorm : F32)
    (mixerGeometry : MixerGeometry) (actuatorCurve : ActuatorCurveKind) : UInt64 :=
  (feedAfterHoverPrefix (.fromHash prefixHash : Fnv1a64) hoverThrustNorm mixerGeometry
    actuatorCurve).finish

def canonicalHash (cfg : FullKernelConfig) : UInt64 :=
  canonicalHashFromHoverPrefix (hoverKernelPrefixHash cfg) cfg.hoverThrustNorm
    cfg.mixerGeometry cfg.actuatorCurve

/-- The identity over what a multirotor controller copies of the configuration. -/
def controllerTuningIdentity (gains : CascadeGains F32) (hoverThrustNorm : F32) : UInt64 :=
  (feedF32 (feedSeparator (feedCascadeGains Fnv1a64.new gains)) hoverThrustNorm).finish

/-- The bytes the hasher is fed. -/
def canonicalStream (cfg : FullKernelConfig) : Bytes :=
  feedAfterHoverPrefix (feedHoverKernelPrefix ([] : Bytes) cfg) cfg.hoverThrustNorm
    cfg.mixerGeometry cfg.actuatorCurve

end Aviate
