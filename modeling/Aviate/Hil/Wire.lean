import Aviate.Hil.Messages

/-!
# The HIL wire format

`parse_frame` and `serialize_frame` of the simulator link (`mavlink-hil/src/wire.rs`).
-/

namespace Aviate.Hil

open ByteBuffer

def mavlinkStxV2 : UInt8 := 0xFD

def mavlinkStxV1 : UInt8 := 0xFE

def headerSize : Nat := 10

def headerSizeV1 : Nat := 6

def crcSize : Nat := 2

def maxPayloadSize : Nat := 255

def maxFrameSize : Nat := headerSize + maxPayloadSize + crcSize

/-! ## Checksum -/

def crcExtra (msgId : UInt8) : Option UInt8 :=
  if msgId = heartbeatId then some 50
  else if msgId = hilSensorId then some 108
  else if msgId = hilGpsId then some 124
  else if msgId = hilStateQuaternionId then some 4
  else if msgId = hilActuatorControlsId then some 47
  else none

def crcAccumulate (byte : UInt8) (crc : UInt16) : UInt16 :=
  let tmp := (byte.toUInt16 ^^^ crc) &&& 0xff
  let tmp := tmp ^^^ ((tmp <<< 4) &&& 0xff)
  (crc >>> 8) ^^^ (tmp <<< 8) ^^^ (tmp <<< 3) ^^^ (tmp >>> 4)

def crcCalculate (data : Bytes) (extra : UInt8) : UInt16 :=
  crcAccumulate extra (data.foldl (fun crc byte => crcAccumulate byte crc) 0xFFFF)

/-! ## Parsing -/

structure MavFrame where
  seq : UInt8
  sysId : UInt8
  compId : UInt8
  message : HilMessage
deriving DecidableEq

/-- A payload cut or extended with zeros to `n` bytes. -/
def zeroExtended (n : Nat) (payload : Bytes) : Bytes :=
  payload.take n ++ List.replicate (n - payload.length) 0

/-- A position is decoded as received, every other message after zero extension. -/
def parseMessage (msgId : UInt8) (payload : Bytes) : Checked ParseError HilMessage :=
  if msgId = heartbeatId then
    return .heartbeat (← Heartbeat.fromBytes (zeroExtended Heartbeat.size payload))
  else if msgId = hilSensorId then
    return .sensor (← HilSensor.fromBytes (zeroExtended HilSensor.size payload))
  else if msgId = hilGpsId then return .gps (← HilGps.fromBytes payload)
  else if msgId = hilStateQuaternionId then
    return .stateQuaternion
      (← HilStateQuaternion.fromBytes (zeroExtended HilStateQuaternion.size payload))
  else if msgId = hilActuatorControlsId then
    return .actuatorControls
      (← HilActuatorControls.fromBytes (zeroExtended HilActuatorControls.size payload))
  else Checked.fail .invalidPayload

/-- A frame with a header of `header` bytes, in which the sequence number stands at `seqAt`,
followed by the system, component and message identifiers. -/
def parseFrameAt (header seqAt : Nat) (data : Bytes) (startPos : Nat) :
    Checked ParseError (MavFrame × Nat) :=
  if data.length < header then Checked.fail .incomplete
  else do
    let len := (← readU8 data 1).toNat
    let seq ← readU8 data seqAt
    let sysId ← readU8 data (seqAt + 1)
    let compId ← readU8 data (seqAt + 2)
    let msgId ← readU8 data (seqAt + 3)
    let frameLen := header + len + crcSize
    if data.length < frameLen then Checked.fail .incomplete
    else
      match crcExtra msgId with
      | none => Checked.fail (.unknownMessage msgId (startPos + frameLen))
      | some extra =>
        let expectedCrc := crcCalculate (← slice data 1 (header + len)) extra
        let receivedCrc ← readU16Le data (header + len)
        if expectedCrc ≠ receivedCrc then Checked.fail .crcMismatch
        else
          let message ← parseMessage msgId (← slice data header (header + len))
          return ({ seq, sysId, compId, message }, startPos + frameLen)

/-- Of the message identifier only the low byte is read. -/
def parseFrameV2 (data : Bytes) (startPos : Nat) : Checked ParseError (MavFrame × Nat) :=
  parseFrameAt headerSize 4 data startPos

def parseFrameV1 (data : Bytes) (startPos : Nat) : Checked ParseError (MavFrame × Nat) :=
  parseFrameAt headerSizeV1 2 data startPos

def isStart (byte : UInt8) : Bool := byte == mavlinkStxV2 || byte == mavlinkStxV1

/-- Parse the first frame of a buffer. -/
def parseFrame (data : Bytes) : Checked ParseError (MavFrame × Nat) :=
  match data.findIdx? isStart with
  | none => Checked.fail .incomplete
  | some startPos => do
    let data := data.drop startPos
    if (← readU8 data 0) = mavlinkStxV2 then parseFrameV2 data startPos
    else parseFrameV1 data startPos

/-! ## Serializing -/

/-- Write a message's frame into a buffer. Nothing is returned if it does not fit. -/
def serializeFrame (msg : HilMessage) (seq sysId compId : UInt8) (buf : Bytes) :
    Checked Empty (Option (Nat × Bytes)) := do
  let payload ← msg.toBytes
  let payloadLen := payload.length
  let frameLen := headerSize + payloadLen + crcSize
  if buf.length < frameLen then return none
  else
    let buf ← writeBytes buf 0
      [mavlinkStxV2, .ofNat payloadLen, 0, 0, seq, sysId, compId, msg.msgId, 0, 0]
    let buf ← writeBytes buf headerSize payload
    match crcExtra msg.msgId with
    | none => return none
    | some extra =>
      let crc := crcCalculate (← slice buf 1 (headerSize + payloadLen)) extra
      let buf ← writeBytes buf (headerSize + payloadLen) (u16Bytes crc)
      return some (frameLen, buf)

end Aviate.Hil
