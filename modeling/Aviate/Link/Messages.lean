import Aviate.Foundations.ByteBuffer

/-!
# MAVLink messages

The message types of `mavlink/protocol.rs` and its submodules, their identifiers and
payload lengths, and the two tables over message identifiers. Floats are their bits, as on
the wire.
-/

namespace Aviate.Mavlink

/-! ## Constants -/

/-- `MAVLINK_STX_V2`. -/
def mavlinkStxV2 : UInt8 := 0xFD

/-- `MAX_PAYLOAD_LEN`. -/
def maxPayloadLen : Nat := 255

/-- `MAVLINK_SIGNATURE_LEN`. -/
def mavlinkSignatureLen : Nat := 13

/-- `MAVLINK_IFLAG_SIGNED`. -/
def mavlinkIflagSigned : UInt8 := 0x01

/-! ## Messages -/

/-- HEARTBEAT (MAVLink #0). -/
structure Heartbeat where
  mavType : UInt8
  autopilot : UInt8
  baseMode : UInt8
  customMode : UInt32
  systemStatus : UInt8
  mavlinkVersion : UInt8
deriving DecidableEq

@[match_pattern] def Heartbeat.msgId : UInt32 := 0

def Heartbeat.payloadLen : Nat := 9

/-- SYSTEM_TIME (MAVLink #2). -/
structure SystemTime where
  timeUnixUsec : UInt64
  timeBootMs : UInt32
deriving DecidableEq

@[match_pattern] def SystemTime.msgId : UInt32 := 2

def SystemTime.payloadLen : Nat := 12

/-- ATTITUDE_QUATERNION (MAVLink #31). -/
structure AttitudeQuaternion where
  timeBootMs : UInt32
  q1 : F32
  q2 : F32
  q3 : F32
  q4 : F32
  rollspeed : F32
  pitchspeed : F32
  yawspeed : F32
  reprOffsetQ : Vector F32 4
deriving DecidableEq

@[match_pattern] def AttitudeQuaternion.msgId : UInt32 := 31

def AttitudeQuaternion.payloadLen : Nat := 48

/-- LOCAL_POSITION_NED (MAVLink #32). -/
structure LocalPositionNed where
  timeBootMs : UInt32
  x : F32
  y : F32
  z : F32
  vx : F32
  vy : F32
  vz : F32
deriving DecidableEq

@[match_pattern] def LocalPositionNed.msgId : UInt32 := 32

def LocalPositionNed.payloadLen : Nat := 28

/-- GLOBAL_POSITION_INT (MAVLink #33). -/
structure GlobalPositionInt where
  timeBootMs : UInt32
  lat : Int32
  lon : Int32
  alt : Int32
  relativeAlt : Int32
  vx : Int16
  vy : Int16
  vz : Int16
  hdg : UInt16
deriving DecidableEq

@[match_pattern] def GlobalPositionInt.msgId : UInt32 := 33

def GlobalPositionInt.payloadLen : Nat := 28

def GlobalPositionInt.crcExtra : UInt8 := 104

/-- GPS_RAW_INT (MAVLink #24). -/
structure GpsRawInt where
  timeUsec : UInt64
  fixType : UInt8
  lat : Int32
  lon : Int32
  alt : Int32
  eph : UInt16
  epv : UInt16
  vel : UInt16
  cog : UInt16
  satellitesVisible : UInt8
  altEllipsoid : Int32
  hAcc : UInt32
  vAcc : UInt32
  velAcc : UInt32
  hdgAcc : UInt32
  yaw : UInt16
deriving DecidableEq

@[match_pattern] def GpsRawInt.msgId : UInt32 := 24

def GpsRawInt.payloadLen : Nat := 52

def GpsRawInt.crcExtra : UInt8 := 24

/-- SCALED_PRESSURE (MAVLink #29). -/
structure ScaledPressure where
  timeBootMs : UInt32
  pressAbs : F32
  pressDiff : F32
  temperature : Int16
deriving DecidableEq

@[match_pattern] def ScaledPressure.msgId : UInt32 := 29

def ScaledPressure.payloadLen : Nat := 14

/-- ESTIMATOR_STATUS (MAVLink #230). -/
structure EstimatorStatus where
  timeUsec : UInt64
  velRatio : F32
  posHorizRatio : F32
  posVertRatio : F32
  magRatio : F32
  haglRatio : F32
  tasRatio : F32
  posHorizAccuracy : F32
  posVertAccuracy : F32
  flags : UInt16
deriving DecidableEq

@[match_pattern] def EstimatorStatus.msgId : UInt32 := 230

def EstimatorStatus.payloadLen : Nat := 42

def EstimatorStatus.crcExtra : UInt8 := 163

/-- AVIATE_ESTIMATOR_STATUS (MAVLink #20000). -/
structure AviateEstimatorStatus where
  timeUsec : UInt64
  validFlags : UInt8
  quality : UInt8
deriving DecidableEq

@[match_pattern] def AviateEstimatorStatus.msgId : UInt32 := 20000

def AviateEstimatorStatus.payloadLen : Nat := 10

def AviateEstimatorStatus.crcExtra : UInt8 := 171

/-- AVIATE_GEOMAGNETIC_REFERENCE (MAVLink #20001). -/
structure AviateGeomagneticReference where
  timeUsec : UInt64
  declination : F32
  source : UInt8
deriving DecidableEq

@[match_pattern] def AviateGeomagneticReference.msgId : UInt32 := 20001

def AviateGeomagneticReference.payloadLen : Nat := 13

def AviateGeomagneticReference.crcExtra : UInt8 := 235

/-- SET_ATTITUDE_TARGET (MAVLink #82). -/
structure SetAttitudeTarget where
  timeBootMs : UInt32
  targetSystem : UInt8
  targetComponent : UInt8
  typeMask : UInt8
  q : Vector F32 4
  bodyRollRate : F32
  bodyPitchRate : F32
  bodyYawRate : F32
  thrust : F32
  thrustBody : Vector F32 3
deriving DecidableEq

@[match_pattern] def SetAttitudeTarget.msgId : UInt32 := 82

def SetAttitudeTarget.payloadLen : Nat := 51

/-- SET_POSITION_TARGET_LOCAL_NED (MAVLink #84). -/
structure SetPositionTargetLocalNed where
  timeBootMs : UInt32
  targetSystem : UInt8
  targetComponent : UInt8
  coordinateFrame : UInt8
  typeMask : UInt16
  x : F32
  y : F32
  z : F32
  vx : F32
  vy : F32
  vz : F32
  afx : F32
  afy : F32
  afz : F32
  yaw : F32
  yawRate : F32
deriving DecidableEq

@[match_pattern] def SetPositionTargetLocalNed.msgId : UInt32 := 84

def SetPositionTargetLocalNed.payloadLen : Nat := 53

/-- COMMAND_LONG (MAVLink #76). -/
structure CommandLong where
  param1 : F32
  param2 : F32
  param3 : F32
  param4 : F32
  param5 : F32
  param6 : F32
  param7 : F32
  command : UInt16
  targetSystem : UInt8
  targetComponent : UInt8
  confirmation : UInt8
deriving DecidableEq

@[match_pattern] def CommandLong.msgId : UInt32 := 76

def CommandLong.payloadLen : Nat := 33

/-- COMMAND_ACK (MAVLink #77). -/
structure CommandAck where
  command : UInt16
  result : UInt8
  progress : UInt8
  resultParam2 : Int32
  targetSystem : UInt8
  targetComponent : UInt8
deriving DecidableEq

@[match_pattern] def CommandAck.msgId : UInt32 := 77

def CommandAck.payloadLen : Nat := 10

/-- RC_CHANNELS_OVERRIDE (MAVLink #70). -/
structure RcChannelsOverride where
  chan1Raw : UInt16
  chan2Raw : UInt16
  chan3Raw : UInt16
  chan4Raw : UInt16
  chan5Raw : UInt16
  chan6Raw : UInt16
  chan7Raw : UInt16
  chan8Raw : UInt16
  targetSystem : UInt8
  targetComponent : UInt8
  chan9Raw : UInt16
  chan10Raw : UInt16
  chan11Raw : UInt16
  chan12Raw : UInt16
  chan13Raw : UInt16
  chan14Raw : UInt16
  chan15Raw : UInt16
  chan16Raw : UInt16
  chan17Raw : UInt16
  chan18Raw : UInt16
deriving DecidableEq

@[match_pattern] def RcChannelsOverride.msgId : UInt32 := 70

def RcChannelsOverride.payloadLen : Nat := 38

/-- MANUAL_CONTROL (MAVLink #69). -/
structure ManualControl where
  x : Int16
  y : Int16
  z : Int16
  r : Int16
  buttons : UInt16
  target : UInt8
  buttons2 : UInt16
  enabledExtensions : UInt8
  s : Int16
  t : Int16
  aux1 : Int16
  aux2 : Int16
  aux3 : Int16
  aux4 : Int16
  aux5 : Int16
  aux6 : Int16
deriving DecidableEq

@[match_pattern] def ManualControl.msgId : UInt32 := 69

def ManualControl.payloadLen : Nat := 30

/-- SYS_STATUS (MAVLink #1). -/
structure SysStatus where
  onboardControlSensorsPresent : UInt32
  onboardControlSensorsEnabled : UInt32
  onboardControlSensorsHealth : UInt32
  load : UInt16
  voltageBattery : UInt16
  currentBattery : Int16
  dropRateComm : UInt16
  errorsComm : UInt16
  errorsCount1 : UInt16
  errorsCount2 : UInt16
  errorsCount3 : UInt16
  errorsCount4 : UInt16
  batteryRemaining : Int8
  onboardControlSensorsPresentExtended : UInt32
  onboardControlSensorsEnabledExtended : UInt32
  onboardControlSensorsHealthExtended : UInt32
deriving DecidableEq

@[match_pattern] def SysStatus.msgId : UInt32 := 1

def SysStatus.payloadLen : Nat := 43

/-- STATUSTEXT (MAVLink #253). -/
structure Statustext where
  severity : UInt8
  text : Vector UInt8 50
  id : UInt16
  chunkSeq : UInt8
deriving DecidableEq

@[match_pattern] def Statustext.msgId : UInt32 := 253

def Statustext.payloadLen : Nat := 54

/-! ## Defaults of the messages with optional fields -/

def RcChannelsOverride.default : RcChannelsOverride :=
  ⟨0, 0, 0, 0, 0, 0, 0, 0, 0, 0, 0, 0, 0, 0, 0, 0, 0, 0, 0, 0⟩

def ManualControl.default : ManualControl := ⟨0, 0, 0, 0, 0, 0, 0, 0, 0, 0, 0, 0, 0, 0, 0, 0⟩

def SysStatus.default : SysStatus := ⟨0, 0, 0, 0, 0, 0, 0, 0, 0, 0, 0, 0, 0, 0, 0, 0⟩

/-! ## The message type -/

inductive MavMessage where
  | heartbeat (msg : Heartbeat)
  | systemTime (msg : SystemTime)
  | attitudeQuaternion (msg : AttitudeQuaternion)
  | localPositionNed (msg : LocalPositionNed)
  | globalPositionInt (msg : GlobalPositionInt)
  | gpsRawInt (msg : GpsRawInt)
  | scaledPressure (msg : ScaledPressure)
  | estimatorStatus (msg : EstimatorStatus)
  | aviateEstimatorStatus (msg : AviateEstimatorStatus)
  | aviateGeomagneticReference (msg : AviateGeomagneticReference)
  | setAttitudeTarget (msg : SetAttitudeTarget)
  | setPositionTargetLocalNed (msg : SetPositionTargetLocalNed)
  | commandLong (msg : CommandLong)
  | commandAck (msg : CommandAck)
  | rcChannelsOverride (msg : RcChannelsOverride)
  | manualControl (msg : ManualControl)
  | sysStatus (msg : SysStatus)
  | statustext (msg : Statustext)
  | unknown (msgId : UInt32)
deriving DecidableEq

def MavMessage.msgId : MavMessage → UInt32
  | .heartbeat _ => Heartbeat.msgId
  | .systemTime _ => SystemTime.msgId
  | .attitudeQuaternion _ => AttitudeQuaternion.msgId
  | .localPositionNed _ => LocalPositionNed.msgId
  | .globalPositionInt _ => GlobalPositionInt.msgId
  | .gpsRawInt _ => GpsRawInt.msgId
  | .scaledPressure _ => ScaledPressure.msgId
  | .estimatorStatus _ => EstimatorStatus.msgId
  | .aviateEstimatorStatus _ => AviateEstimatorStatus.msgId
  | .aviateGeomagneticReference _ => AviateGeomagneticReference.msgId
  | .setAttitudeTarget _ => SetAttitudeTarget.msgId
  | .setPositionTargetLocalNed _ => SetPositionTargetLocalNed.msgId
  | .commandLong _ => CommandLong.msgId
  | .commandAck _ => CommandAck.msgId
  | .rcChannelsOverride _ => RcChannelsOverride.msgId
  | .manualControl _ => ManualControl.msgId
  | .sysStatus _ => SysStatus.msgId
  | .statustext _ => Statustext.msgId
  | .unknown msgId => msgId

/-! ## Frames -/

inductive ParseError where
  | bufferTooShort
  | invalidStartByte
  | payloadTooLong
  | crcMismatch
  | unsupportedMessage (msgId : UInt32)
  | invalidPayload
  | unsupportedIncompatFlags (flags : UInt8)
deriving DecidableEq

structure MavSignature where
  systemId : UInt8
  componentId : UInt8
  linkId : UInt8
  timestamp : UInt64
  signature : Vector UInt8 6
deriving DecidableEq

structure MavHeader where
  payloadLen : UInt8
  incompatFlags : UInt8
  compatFlags : UInt8
  seq : UInt8
  sysid : UInt8
  compid : UInt8
  msgid : UInt32
deriving DecidableEq

/-- `MavHeader::SIZE`: the start byte and nine header bytes. -/
def MavHeader.size : Nat := 10

structure ParsedMavlinkFrame where
  message : MavMessage
  signature : Option MavSignature
  header : MavHeader
  consumed : Nat
deriving DecidableEq

/-! ## Tables -/

def getCrcExtra (msgId : UInt32) : UInt8 :=
  match msgId with
  | 0 => 50
  | 1 => 124
  | 2 => 137
  | 24 => GpsRawInt.crcExtra
  | 29 => 115
  | 31 => 246
  | 32 => 185
  | 33 => GlobalPositionInt.crcExtra
  | 69 => 243
  | 70 => 124
  | 76 => 152
  | 77 => 143
  | 82 => 49
  | 84 => 143
  | 230 => EstimatorStatus.crcExtra
  | 253 => 83
  | 20000 => AviateEstimatorStatus.crcExtra
  | 20001 => AviateGeomagneticReference.crcExtra
  | _ => 0

/-- The payload length a truncated payload is extended to, for the known messages. -/
def declaredPayloadLen (msgId : UInt32) : Option Nat :=
  match msgId with
  | Heartbeat.msgId => some Heartbeat.payloadLen
  | SysStatus.msgId => some SysStatus.payloadLen
  | SystemTime.msgId => some SystemTime.payloadLen
  | AttitudeQuaternion.msgId => some AttitudeQuaternion.payloadLen
  | LocalPositionNed.msgId => some LocalPositionNed.payloadLen
  | GlobalPositionInt.msgId => some GlobalPositionInt.payloadLen
  | GpsRawInt.msgId => some GpsRawInt.payloadLen
  | ScaledPressure.msgId => some ScaledPressure.payloadLen
  | EstimatorStatus.msgId => some EstimatorStatus.payloadLen
  | AviateEstimatorStatus.msgId => some AviateEstimatorStatus.payloadLen
  | AviateGeomagneticReference.msgId => some AviateGeomagneticReference.payloadLen
  | ManualControl.msgId => some ManualControl.payloadLen
  | RcChannelsOverride.msgId => some RcChannelsOverride.payloadLen
  | CommandLong.msgId => some CommandLong.payloadLen
  | CommandAck.msgId => some CommandAck.payloadLen
  | SetAttitudeTarget.msgId => some SetAttitudeTarget.payloadLen
  | SetPositionTargetLocalNed.msgId => some SetPositionTargetLocalNed.payloadLen
  | Statustext.msgId => some Statustext.payloadLen
  | _ => none

/-- Every declared length fits a payload. -/
theorem declaredPayloadLen_le {msgId : UInt32} {declared : Nat}
    (h : declaredPayloadLen msgId = some declared) : declared ≤ maxPayloadLen := by
  unfold declaredPayloadLen at h
  split at h <;> cases h <;> decide

end Aviate.Mavlink
