import Aviate.Link.Messages

/-!
# The MAVLink parser

`parse_mavlink_frame` and the message decoders it calls (`mavlink/protocol.rs`). Every read
and slice is checked: where the code would index out of range, the model faults.
-/

namespace Aviate.Mavlink

open ByteBuffer

/-! ## Checksum -/

def crcAccumulate (byte : UInt8) (crc : UInt16) : UInt16 :=
  let tmp := (byte ^^^ crc.toUInt8).toUInt16
  let tmp := tmp ^^^ ((tmp <<< 4) &&& 0xFF)
  (crc >>> 8) ^^^ (tmp <<< 8) ^^^ (tmp <<< 3) ^^^ (tmp >>> 4)

def computeCrc (data : Bytes) (crcExtra : UInt8) : UInt16 :=
  let crc := data.foldl (fun crc byte => crcAccumulate byte crc) 0xFFFF
  crcAccumulate crcExtra crc

/-! ## Message decoders -/

/-- `copy_from_slice` into an array of `n` bytes: the lengths must agree. -/
def copyFromSlice {ε : Type} (n : Nat) (bytes : Bytes) : Checked ε (Vector UInt8 n) :=
  if h : bytes.length = n then .ok ⟨bytes.toArray, by simpa using h⟩ else .error .outOfRange

def parseHeartbeat (payload : Bytes) : Checked ParseError MavMessage :=
  if payload.length < Heartbeat.payloadLen then Checked.fail .invalidPayload
  else do
    return .heartbeat
      { customMode := ← readU32Le payload 0
        mavType := ← readU8 payload 4
        autopilot := ← readU8 payload 5
        baseMode := ← readU8 payload 6
        systemStatus := ← readU8 payload 7
        mavlinkVersion := ← readU8 payload 8 }

def parseSystemTime (payload : Bytes) : Checked ParseError MavMessage :=
  if payload.length < SystemTime.payloadLen then Checked.fail .invalidPayload
  else do
    return .systemTime
      { timeUnixUsec := ← readU64Le payload 0
        timeBootMs := ← readU32Le payload 8 }

def parseAttitudeQuaternion (payload : Bytes) : Checked ParseError MavMessage :=
  -- The offset quaternion is an extension.
  if payload.length < 32 then Checked.fail .invalidPayload
  else do
    let offsetQ ← (if payload.length ≥ 48 then do
        pure #v[← readF32Le payload 32, ← readF32Le payload 36, ← readF32Le payload 40,
          ← readF32Le payload 44]
      else pure (Vector.replicate 4 ⟨0⟩))
    return .attitudeQuaternion
      { timeBootMs := ← readU32Le payload 0
        q1 := ← readF32Le payload 4
        q2 := ← readF32Le payload 8
        q3 := ← readF32Le payload 12
        q4 := ← readF32Le payload 16
        rollspeed := ← readF32Le payload 20
        pitchspeed := ← readF32Le payload 24
        yawspeed := ← readF32Le payload 28
        reprOffsetQ := offsetQ }

def parseLocalPositionNed (payload : Bytes) : Checked ParseError MavMessage :=
  if payload.length < LocalPositionNed.payloadLen then Checked.fail .invalidPayload
  else do
    return .localPositionNed
      { timeBootMs := ← readU32Le payload 0
        x := ← readF32Le payload 4
        y := ← readF32Le payload 8
        z := ← readF32Le payload 12
        vx := ← readF32Le payload 16
        vy := ← readF32Le payload 20
        vz := ← readF32Le payload 24 }

def parseGlobalPositionInt (payload : Bytes) : Checked ParseError MavMessage :=
  if payload.length < GlobalPositionInt.payloadLen then Checked.fail .invalidPayload
  else do
    return .globalPositionInt
      { timeBootMs := ← readU32Le payload 0
        lat := ← readI32Le payload 4
        lon := ← readI32Le payload 8
        alt := ← readI32Le payload 12
        relativeAlt := ← readI32Le payload 16
        vx := ← readI16Le payload 20
        vy := ← readI16Le payload 22
        vz := ← readI16Le payload 24
        hdg := ← readU16Le payload 26 }

def parseGpsRawInt (payload : Bytes) : Checked ParseError MavMessage :=
  if payload.length < GpsRawInt.payloadLen then Checked.fail .invalidPayload
  else do
    return .gpsRawInt
      { timeUsec := ← readU64Le payload 0
        lat := ← readI32Le payload 8
        lon := ← readI32Le payload 12
        alt := ← readI32Le payload 16
        eph := ← readU16Le payload 20
        epv := ← readU16Le payload 22
        vel := ← readU16Le payload 24
        cog := ← readU16Le payload 26
        fixType := ← readU8 payload 28
        satellitesVisible := ← readU8 payload 29
        altEllipsoid := ← readI32Le payload 30
        hAcc := ← readU32Le payload 34
        vAcc := ← readU32Le payload 38
        velAcc := ← readU32Le payload 42
        hdgAcc := ← readU32Le payload 46
        yaw := ← readU16Le payload 50 }

def parseScaledPressure (payload : Bytes) : Checked ParseError MavMessage :=
  if payload.length < ScaledPressure.payloadLen then Checked.fail .invalidPayload
  else do
    return .scaledPressure
      { timeBootMs := ← readU32Le payload 0
        pressAbs := ← readF32Le payload 4
        pressDiff := ← readF32Le payload 8
        temperature := (← readU16Le payload 12).toInt16 }

def parseEstimatorStatus (payload : Bytes) : Checked ParseError MavMessage :=
  if payload.length < EstimatorStatus.payloadLen then Checked.fail .invalidPayload
  else do
    return .estimatorStatus
      { timeUsec := ← readU64Le payload 0
        velRatio := ← readF32Le payload 8
        posHorizRatio := ← readF32Le payload 12
        posVertRatio := ← readF32Le payload 16
        magRatio := ← readF32Le payload 20
        haglRatio := ← readF32Le payload 24
        tasRatio := ← readF32Le payload 28
        posHorizAccuracy := ← readF32Le payload 32
        posVertAccuracy := ← readF32Le payload 36
        flags := ← readU16Le payload 40 }

def parseAviateEstimatorStatus (payload : Bytes) : Checked ParseError MavMessage :=
  if payload.length < AviateEstimatorStatus.payloadLen then Checked.fail .invalidPayload
  else do
    return .aviateEstimatorStatus
      { timeUsec := ← readU64Le payload 0
        validFlags := ← readU8 payload 8
        quality := ← readU8 payload 9 }

def parseAviateGeomagneticReference (payload : Bytes) : Checked ParseError MavMessage :=
  if payload.length < AviateGeomagneticReference.payloadLen then Checked.fail .invalidPayload
  else do
    return .aviateGeomagneticReference
      { timeUsec := ← readU64Le payload 0
        declination := ← readF32Le payload 8
        source := ← readU8 payload 12 }

def parseSetAttitudeTarget (payload : Bytes) : Checked ParseError MavMessage :=
  -- The body thrust is an extension.
  if payload.length < 39 then Checked.fail .invalidPayload
  else do
    let thrustBody ← (if payload.length ≥ 51 then do
        pure #v[← readF32Le payload 39, ← readF32Le payload 43, ← readF32Le payload 47]
      else pure (Vector.replicate 3 ⟨0⟩))
    return .setAttitudeTarget
      { timeBootMs := ← readU32Le payload 0
        q := #v[← readF32Le payload 4, ← readF32Le payload 8, ← readF32Le payload 12,
          ← readF32Le payload 16]
        bodyRollRate := ← readF32Le payload 20
        bodyPitchRate := ← readF32Le payload 24
        bodyYawRate := ← readF32Le payload 28
        thrust := ← readF32Le payload 32
        targetSystem := ← readU8 payload 36
        targetComponent := ← readU8 payload 37
        typeMask := ← readU8 payload 38
        thrustBody := thrustBody }

def parseSetPositionTargetLocalNed (payload : Bytes) : Checked ParseError MavMessage :=
  -- Two bytes less than the layout; the frame defaults to `LOCAL_NED`.
  if payload.length < 51 then Checked.fail .invalidPayload
  else do
    return .setPositionTargetLocalNed
      { timeBootMs := ← readU32Le payload 0
        x := ← readF32Le payload 4
        y := ← readF32Le payload 8
        z := ← readF32Le payload 12
        vx := ← readF32Le payload 16
        vy := ← readF32Le payload 20
        vz := ← readF32Le payload 24
        afx := ← readF32Le payload 28
        afy := ← readF32Le payload 32
        afz := ← readF32Le payload 36
        yaw := ← readF32Le payload 40
        yawRate := ← readF32Le payload 44
        typeMask := ← readU16Le payload 48
        targetSystem := ← readU8 payload 50
        targetComponent := ← (if payload.length > 51 then readU8 payload 51 else pure 0)
        coordinateFrame := ← (if payload.length > 52 then readU8 payload 52 else pure 1) }

def parseCommandLong (payload : Bytes) : Checked ParseError MavMessage :=
  if payload.length < 32 then Checked.fail .invalidPayload
  else do
    return .commandLong
      { param1 := ← readF32Le payload 0
        param2 := ← readF32Le payload 4
        param3 := ← readF32Le payload 8
        param4 := ← readF32Le payload 12
        param5 := ← readF32Le payload 16
        param6 := ← readF32Le payload 20
        param7 := ← readF32Le payload 24
        command := ← readU16Le payload 28
        targetSystem := ← readU8 payload 30
        targetComponent := ← readU8 payload 31
        confirmation := ← (if payload.length > 32 then readU8 payload 32 else pure 0) }

def parseCommandAck (payload : Bytes) : Checked ParseError MavMessage :=
  if payload.length < 3 then Checked.fail .invalidPayload
  else do
    let progress ← (if payload.length > 3 then readU8 payload 3 else pure 0)
    let resultParam2 ← (if payload.length > 7 then readI32Le payload 4 else pure 0)
    let targetSystem ← (if payload.length > 8 then readU8 payload 8 else pure 0)
    let targetComponent ← (if payload.length > 9 then readU8 payload 9 else pure 0)
    return .commandAck
      { command := ← readU16Le payload 0
        result := ← readU8 payload 2
        progress := progress
        resultParam2 := resultParam2
        targetSystem := targetSystem
        targetComponent := targetComponent }

def parseRcChannelsOverride (payload : Bytes) : Checked ParseError MavMessage :=
  if payload.length < 18 then Checked.fail .invalidPayload
  else do
    let msg : RcChannelsOverride :=
      { RcChannelsOverride.default with
        chan1Raw := ← readU16Le payload 0
        chan2Raw := ← readU16Le payload 2
        chan3Raw := ← readU16Le payload 4
        chan4Raw := ← readU16Le payload 6
        chan5Raw := ← readU16Le payload 8
        chan6Raw := ← readU16Le payload 10
        chan7Raw := ← readU16Le payload 12
        chan8Raw := ← readU16Le payload 14
        targetSystem := ← readU8 payload 16
        targetComponent := ← readU8 payload 17 }
    let msg ← (if payload.length ≥ 38 then do
        pure { msg with
          chan9Raw := ← readU16Le payload 18
          chan10Raw := ← readU16Le payload (18 + 2)
          chan11Raw := ← readU16Le payload (18 + 4)
          chan12Raw := ← readU16Le payload (18 + 6)
          chan13Raw := ← readU16Le payload (18 + 8)
          chan14Raw := ← readU16Le payload (18 + 10)
          chan15Raw := ← readU16Le payload (18 + 12)
          chan16Raw := ← readU16Le payload (18 + 14)
          chan17Raw := ← readU16Le payload (18 + 16)
          chan18Raw := ← readU16Le payload (18 + 18) }
      else pure msg)
    return .rcChannelsOverride msg

def parseManualControl (payload : Bytes) : Checked ParseError MavMessage :=
  if payload.length < 11 then Checked.fail .invalidPayload
  else do
    let msg : ManualControl :=
      { ManualControl.default with
        x := ← readI16Le payload 0
        y := ← readI16Le payload 2
        z := ← readI16Le payload 4
        r := ← readI16Le payload 6
        buttons := ← readU16Le payload 8
        target := ← readU8 payload 10 }
    -- Each extension field is read as soon as the payload reaches it.
    let msg ← (if payload.length ≥ 13 then do
        pure { msg with buttons2 := ← readU16Le payload 11 }
      else pure msg)
    let msg ← (if payload.length ≥ 14 then do
        pure { msg with enabledExtensions := ← readU8 payload 13 }
      else pure msg)
    let msg ← (if payload.length ≥ 16 then do pure { msg with s := ← readI16Le payload 14 }
      else pure msg)
    let msg ← (if payload.length ≥ 18 then do pure { msg with t := ← readI16Le payload 16 }
      else pure msg)
    let msg ← (if payload.length ≥ 20 then do pure { msg with aux1 := ← readI16Le payload 18 }
      else pure msg)
    let msg ← (if payload.length ≥ 22 then do pure { msg with aux2 := ← readI16Le payload 20 }
      else pure msg)
    let msg ← (if payload.length ≥ 24 then do pure { msg with aux3 := ← readI16Le payload 22 }
      else pure msg)
    let msg ← (if payload.length ≥ 26 then do pure { msg with aux4 := ← readI16Le payload 24 }
      else pure msg)
    let msg ← (if payload.length ≥ 28 then do pure { msg with aux5 := ← readI16Le payload 26 }
      else pure msg)
    let msg ← (if payload.length ≥ 30 then do pure { msg with aux6 := ← readI16Le payload 28 }
      else pure msg)
    return .manualControl msg

def parseSysStatus (payload : Bytes) : Checked ParseError MavMessage :=
  if payload.length < 31 then Checked.fail .invalidPayload
  else do
    let msg : SysStatus :=
      { SysStatus.default with
        onboardControlSensorsPresent := ← readU32Le payload 0
        onboardControlSensorsEnabled := ← readU32Le payload 4
        onboardControlSensorsHealth := ← readU32Le payload 8
        load := ← readU16Le payload 12
        voltageBattery := ← readU16Le payload 14
        currentBattery := ← readI16Le payload 16
        dropRateComm := ← readU16Le payload 18
        errorsComm := ← readU16Le payload 20
        errorsCount1 := ← readU16Le payload 22
        errorsCount2 := ← readU16Le payload 24
        errorsCount3 := ← readU16Le payload 26
        errorsCount4 := ← readU16Le payload 28
        batteryRemaining := (← readU8 payload 30).toInt8 }
    let msg ← (if payload.length ≥ 43 then do
        pure { msg with
          onboardControlSensorsPresentExtended := ← readU32Le payload 31
          onboardControlSensorsEnabledExtended := ← readU32Le payload 35
          onboardControlSensorsHealthExtended := ← readU32Le payload 39 }
      else pure msg)
    return .sysStatus msg

def parseStatustext (payload : Bytes) : Checked ParseError MavMessage :=
  if payload.length < 51 then Checked.fail .invalidPayload
  else do
    let text ← copyFromSlice 50 (← slice payload 1 51)
    let msg : Statustext :=
      { severity := ← readU8 payload 0
        text := text
        id := 0
        chunkSeq := 0 }
    let msg ← (if payload.length ≥ 54 then do
        pure { msg with
          id := ← readU16Le payload 51
          chunkSeq := ← readU8 payload 53 }
      else pure msg)
    return .statustext msg

/-- Decode a payload by its message identifier. -/
def parseMessagePayload (msgId : UInt32) (payload : Bytes) : Checked ParseError MavMessage :=
  match msgId with
  | Heartbeat.msgId => parseHeartbeat payload
  | SystemTime.msgId => parseSystemTime payload
  | AttitudeQuaternion.msgId => parseAttitudeQuaternion payload
  | LocalPositionNed.msgId => parseLocalPositionNed payload
  | GlobalPositionInt.msgId => parseGlobalPositionInt payload
  | GpsRawInt.msgId => parseGpsRawInt payload
  | ScaledPressure.msgId => parseScaledPressure payload
  | EstimatorStatus.msgId => parseEstimatorStatus payload
  | AviateEstimatorStatus.msgId => parseAviateEstimatorStatus payload
  | AviateGeomagneticReference.msgId => parseAviateGeomagneticReference payload
  | SetAttitudeTarget.msgId => parseSetAttitudeTarget payload
  | SetPositionTargetLocalNed.msgId => parseSetPositionTargetLocalNed payload
  | CommandLong.msgId => parseCommandLong payload
  | CommandAck.msgId => parseCommandAck payload
  | RcChannelsOverride.msgId => parseRcChannelsOverride payload
  | ManualControl.msgId => parseManualControl payload
  | SysStatus.msgId => parseSysStatus payload
  | Statustext.msgId => parseStatustext payload
  | _ => .ok (.unknown msgId)

/-! ## Frames -/

/-- The signature block: link, 48-bit timestamp, truncated signature. -/
def parseSignature (systemId componentId : UInt8) (buf : Bytes) :
    Checked ParseError MavSignature := do
  let linkId ← readU8 buf 0
  let t0 ← readU8 buf 1
  let t1 ← readU8 buf 2
  let t2 ← readU8 buf 3
  let t3 ← readU8 buf 4
  let t4 ← readU8 buf 5
  let t5 ← readU8 buf 6
  let timestamp := t0.toUInt64 ||| t1.toUInt64 <<< 8 ||| t2.toUInt64 <<< 16 |||
    t3.toUInt64 <<< 24 ||| t4.toUInt64 <<< 32 ||| t5.toUInt64 <<< 40
  let signature ← copyFromSlice 6 (← slice buf 7 13)
  return ⟨systemId, componentId, linkId, timestamp, signature⟩

/-- The message of a payload. A known message is extended with zeros to its declared length
first; what lies beyond that is ignored. -/
def parsePayload (msgid : UInt32) (payload : Bytes) : Checked ParseError MavMessage :=
  match declaredPayloadLen msgid with
  | some declared =>
    if payload.isEmpty then Checked.fail .invalidPayload
    else do
      let copyLen := min payload.length declared
      let full ← writeBytes (List.replicate maxPayloadLen 0) 0 (← slice payload 0 copyLen)
      parseMessagePayload msgid (← slice full 0 declared)
  | none => parseMessagePayload msgid payload

/-- The frame carries a signature block. -/
def isSigned (incompatFlags : UInt8) : Bool := incompatFlags &&& mavlinkIflagSigned != 0

/-- Parse one frame from the start of a buffer. -/
def parseMavlinkFrame (buf : Bytes) : Checked ParseError ParsedMavlinkFrame :=
  if buf.length < 12 then Checked.fail .bufferTooShort
  else do
    if (← readU8 buf 0) ≠ mavlinkStxV2 then Checked.fail .invalidStartByte
    else
      let payloadLen := (← readU8 buf 1).toNat
      if payloadLen > maxPayloadLen then Checked.fail .payloadTooLong
      else
        let header : MavHeader :=
          { payloadLen := ← readU8 buf 1
            incompatFlags := ← readU8 buf 2
            compatFlags := ← readU8 buf 3
            seq := ← readU8 buf 4
            sysid := ← readU8 buf 5
            compid := ← readU8 buf 6
            msgid := (← readU8 buf 7).toUInt32 ||| (← readU8 buf 8).toUInt32 <<< 8 |||
              (← readU8 buf 9).toUInt32 <<< 16 }
        if header.incompatFlags &&& ~~~mavlinkIflagSigned ≠ 0 then
          Checked.fail (.unsupportedIncompatFlags header.incompatFlags)
        else
          let crcOffset := MavHeader.size + payloadLen
          let frameSize :=
            if isSigned header.incompatFlags then crcOffset + 2 + mavlinkSignatureLen
            else crcOffset + 2
          if buf.length < frameSize then Checked.fail .bufferTooShort
          else
            let payload ← slice buf MavHeader.size crcOffset
            let receivedCrc ← readU16Le buf crcOffset
            let computedCrc := computeCrc (← slice buf 1 crcOffset) (getCrcExtra header.msgid)
            if receivedCrc ≠ computedCrc then Checked.fail .crcMismatch
            else
              let signature ← (if isSigned header.incompatFlags then do
                  let block ← slice buf (crcOffset + 2) (crcOffset + 2 + mavlinkSignatureLen)
                  pure (some (← parseSignature header.sysid header.compid block))
                else pure none)
              return {
                message := ← parsePayload header.msgid payload
                signature := signature
                header := header
                consumed := frameSize }

end Aviate.Mavlink
