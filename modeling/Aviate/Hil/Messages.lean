import Aviate.Foundations.ByteBuffer

/-!
# HIL messages

The messages of the simulator link and their layouts (`mavlink-hil/src/messages.rs`). A layout
lists the fields with the offsets the source writes them at.

Results: every decoder reads back what its encoder wrote (`fromBytes_payload` of each message),
and a position that lost bytes of its extension fields has lost all of them
(`HilGps.fromBytes_base`).
-/

namespace ByteBuffer

variable {ε : Type}

/-- Read `n` floats that follow each other. -/
def readF32sLe (buf : Bytes) (offset : Nat) : (n : Nat) → Checked ε (Vector F32 n)
  | 0 => .ok #v[]
  | n + 1 => do
    let values ← readF32sLe buf offset n
    return values.push (← readF32Le buf (offset + n * 4))

/-- Floats that follow each other. -/
@[simp] def FieldWrite.f32sLe {n : Nat} (offset : Nat) (values : Vector F32 n) : FieldWrite :=
  ⟨offset, values.toList.flatMap f32Bytes⟩

@[simp] theorem length_f32sBytes {n : Nat} (values : Vector F32 n) :
    (values.toList.flatMap f32Bytes).length = 4 * n := by
  have hlist (l : List F32) : (l.flatMap f32Bytes).length = 4 * l.length := by
    induction l with
    | nil => rfl
    | cons v l ih =>
      rw [List.flatMap_cons, List.length_append, ih, length_f32Bytes, List.length_cons]
      omega
  rw [hlist, Vector.length_toList]

/-- Floats written are read back. -/
theorem readF32sLe_f32sBytes {n : Nat} (values : Vector F32 n) {front : Bytes} {offset : Nat}
    (hfront : front.length = offset) (rest : Bytes) :
    (readF32sLe (front ++ (values.toList.flatMap f32Bytes ++ rest)) offset n :
      Checked ε (Vector F32 n)) = .ok values := by
  induction n generalizing rest with
  | zero =>
    rw [readF32sLe]
    congr 1
    exact (Vector.eq_empty).symm
  | succ n ih =>
    obtain ⟨values, last, rfl⟩ : ∃ (vs : Vector F32 n) (v : F32), vs.push v = values :=
      ⟨values.pop, values.back, by simp⟩
    have hbytes : (values.push last).toList.flatMap f32Bytes ++ rest =
        values.toList.flatMap f32Bytes ++ (f32Bytes last ++ rest) := by
      rw [Vector.toList_push, List.flatMap_append, List.append_assoc]
      simp
    have hread : (readF32Le (front ++ (values.toList.flatMap f32Bytes ++ (f32Bytes last ++ rest)))
        (offset + n * 4) : Checked ε F32) = .ok last := by
      rw [readF32Le_skip hfront (Nat.le_add_right _ _), Nat.add_sub_cancel_left,
        readF32Le_skip (length_f32sBytes values) (Nat.le_of_eq (Nat.mul_comm _ _)),
        Nat.mul_comm n 4, Nat.sub_self, readF32Le_f32Bytes]
    rw [hbytes, readF32sLe, ih, hread]
    rfl

end ByteBuffer

namespace Aviate.Hil

open ByteBuffer

/-- Parse error types. -/
inductive ParseError where
  | incomplete
  | invalidStartByte
  | crcMismatch
  /-- A whole frame of a message that is not decoded, with the bytes to advance. -/
  | unknownMessage (msgId : UInt8) (consumed : Nat)
  | invalidPayload
deriving DecidableEq

/-- A payload of `size` bytes with its fields written. -/
def encode (size : Nat) (fields : List FieldWrite) : Checked Empty Bytes :=
  writeFields (List.replicate size 0) 0 fields

theorem encode_of_tiles {size : Nat} {fields : List FieldWrite} (h : Tiles 0 size fields) :
    encode size fields = .ok (recordBytes fields) := by
  rw [encode, writeFields_of_tiles h (by rw [List.length_replicate, Nat.zero_add])]
  simp

def heartbeatId : UInt8 := 0

structure Heartbeat where
  mavType : UInt8
  autopilot : UInt8
  baseMode : UInt8
  customMode : UInt32
  systemStatus : UInt8
  mavlinkVersion : UInt8
deriving DecidableEq

namespace Heartbeat

def size : Nat := 9

/-- The four-byte field comes first. -/
def fields (m : Heartbeat) : List FieldWrite :=
  [.u32Le 0 m.customMode, .u8 4 m.mavType, .u8 5 m.autopilot, .u8 6 m.baseMode,
    .u8 7 m.systemStatus, .u8 8 m.mavlinkVersion]

def toBytes (m : Heartbeat) : Checked Empty Bytes := encode size m.fields

/-- `from_bytes`; where it returns nothing the payload is invalid. -/
def fromBytes (data : Bytes) : Checked ParseError Heartbeat :=
  if data.length < size then Checked.fail .invalidPayload
  else do
    return {
      customMode := ← readU32Le data 0
      mavType := ← readU8 data 4
      autopilot := ← readU8 data 5
      baseMode := ← readU8 data 6
      systemStatus := ← readU8 data 7
      mavlinkVersion := ← readU8 data 8 }

end Heartbeat

def hilSensorId : UInt8 := 107

def hilGpsId : UInt8 := 113

def hilStateQuaternionId : UInt8 := 115

def hilActuatorControlsId : UInt8 := 93

/-- `HIL_SENSOR`: IMU readings from the simulator. -/
structure HilSensor where
  timeUsec : UInt64
  xacc : F32
  yacc : F32
  zacc : F32
  xgyro : F32
  ygyro : F32
  zgyro : F32
  xmag : F32
  ymag : F32
  zmag : F32
  absPressure : F32
  diffPressure : F32
  pressureAlt : F32
  temperature : F32
  fieldsUpdated : UInt32
  id : UInt8
deriving DecidableEq

namespace HilSensor

def size : Nat := 65

def fields (m : HilSensor) : List FieldWrite :=
  [.u64Le 0 m.timeUsec, .f32Le 8 m.xacc, .f32Le 12 m.yacc, .f32Le 16 m.zacc, .f32Le 20 m.xgyro,
    .f32Le 24 m.ygyro, .f32Le 28 m.zgyro, .f32Le 32 m.xmag, .f32Le 36 m.ymag, .f32Le 40 m.zmag,
    .f32Le 44 m.absPressure, .f32Le 48 m.diffPressure, .f32Le 52 m.pressureAlt,
    .f32Le 56 m.temperature, .u32Le 60 m.fieldsUpdated, .u8 64 m.id]

def toBytes (m : HilSensor) : Checked Empty Bytes := encode size m.fields

def fromBytes (data : Bytes) : Checked ParseError HilSensor :=
  if data.length < size then Checked.fail .invalidPayload
  else do
    return {
      timeUsec := ← readU64Le data 0
      xacc := ← readF32Le data 8
      yacc := ← readF32Le data 12
      zacc := ← readF32Le data 16
      xgyro := ← readF32Le data 20
      ygyro := ← readF32Le data 24
      zgyro := ← readF32Le data 28
      xmag := ← readF32Le data 32
      ymag := ← readF32Le data 36
      zmag := ← readF32Le data 40
      absPressure := ← readF32Le data 44
      diffPressure := ← readF32Le data 48
      pressureAlt := ← readF32Le data 52
      temperature := ← readF32Le data 56
      fieldsUpdated := ← readU32Le data 60
      id := ← readU8 data 64 }

end HilSensor

/-- `HIL_GPS`: GPS data from the simulator. -/
structure HilGps where
  timeUsec : UInt64
  lat : Int32
  lon : Int32
  alt : Int32
  eph : UInt16
  epv : UInt16
  vel : UInt16
  vn : Int16
  ve : Int16
  vd : Int16
  cog : UInt16
  fixType : UInt8
  satellitesVisible : UInt8
  id : UInt8
  yaw : UInt16
deriving DecidableEq

namespace HilGps

/-- The payload with its extension fields. -/
def size : Nat := 39

/-- The payload without them. -/
def minSize : Nat := 36

def fields (m : HilGps) : List FieldWrite :=
  [.u64Le 0 m.timeUsec, .i32Le 8 m.lat, .i32Le 12 m.lon, .i32Le 16 m.alt, .u16Le 20 m.eph,
    .u16Le 22 m.epv, .u16Le 24 m.vel, .i16Le 26 m.vn, .i16Le 28 m.ve, .i16Le 30 m.vd,
    .u16Le 32 m.cog, .u8 34 m.fixType, .u8 35 m.satellitesVisible, .u8 36 m.id, .u16Le 37 m.yaw]

def toBytes (m : HilGps) : Checked Empty Bytes := encode size m.fields

/-- The fields before the extensions, which stay zero. -/
def readBase (data : Bytes) : Checked ParseError HilGps := do
  return {
    timeUsec := ← readU64Le data 0
    lat := ← readI32Le data 8
    lon := ← readI32Le data 12
    alt := ← readI32Le data 16
    eph := ← readU16Le data 20
    epv := ← readU16Le data 22
    vel := ← readU16Le data 24
    vn := ← readI16Le data 26
    ve := ← readI16Le data 28
    vd := ← readI16Le data 30
    cog := ← readU16Le data 32
    fixType := ← readU8 data 34
    satellitesVisible := ← readU8 data 35
    id := 0
    yaw := 0 }

/-- The extension fields are read from a full payload only. -/
def fromBytes (data : Bytes) : Checked ParseError HilGps :=
  if data.length < minSize then Checked.fail .invalidPayload
  else do
    let msg ← readBase data
    if size ≤ data.length then
      return { msg with id := ← readU8 data 36, yaw := ← readU16Le data 37 }
    else return msg

end HilGps

/-- `HIL_STATE_QUATERNION`: the vehicle's state from the simulator. -/
structure HilStateQuaternion where
  timeUsec : UInt64
  attitudeQuaternion : Vector F32 4
  rollspeed : F32
  pitchspeed : F32
  yawspeed : F32
  lat : Int32
  lon : Int32
  alt : Int32
  vx : Int16
  vy : Int16
  vz : Int16
  indAirspeed : UInt16
  trueAirspeed : UInt16
  xacc : Int16
  yacc : Int16
  zacc : Int16
deriving DecidableEq

namespace HilStateQuaternion

def size : Nat := 64

def fields (m : HilStateQuaternion) : List FieldWrite :=
  [.u64Le 0 m.timeUsec, .f32sLe 8 m.attitudeQuaternion, .f32Le 24 m.rollspeed,
    .f32Le 28 m.pitchspeed, .f32Le 32 m.yawspeed, .i32Le 36 m.lat, .i32Le 40 m.lon,
    .i32Le 44 m.alt, .i16Le 48 m.vx, .i16Le 50 m.vy, .i16Le 52 m.vz, .u16Le 54 m.indAirspeed,
    .u16Le 56 m.trueAirspeed, .i16Le 58 m.xacc, .i16Le 60 m.yacc, .i16Le 62 m.zacc]

def toBytes (m : HilStateQuaternion) : Checked Empty Bytes := encode size m.fields

def fromBytes (data : Bytes) : Checked ParseError HilStateQuaternion :=
  if data.length < size then Checked.fail .invalidPayload
  else do
    return {
      attitudeQuaternion := ← readF32sLe data 8 4
      timeUsec := ← readU64Le data 0
      rollspeed := ← readF32Le data 24
      pitchspeed := ← readF32Le data 28
      yawspeed := ← readF32Le data 32
      lat := ← readI32Le data 36
      lon := ← readI32Le data 40
      alt := ← readI32Le data 44
      vx := ← readI16Le data 48
      vy := ← readI16Le data 50
      vz := ← readI16Le data 52
      indAirspeed := ← readU16Le data 54
      trueAirspeed := ← readU16Le data 56
      xacc := ← readI16Le data 58
      yacc := ← readI16Le data 60
      zacc := ← readI16Le data 62 }

end HilStateQuaternion

/-- `HIL_ACTUATOR_CONTROLS`: outputs to the simulator. -/
structure HilActuatorControls where
  timeUsec : UInt64
  controls : Vector F32 16
  flags : UInt64
  mode : UInt8
deriving DecidableEq

namespace HilActuatorControls

def size : Nat := 81

/-- Fields stand in descending order of width, not in the order declared. -/
def fields (m : HilActuatorControls) : List FieldWrite :=
  [.u64Le 0 m.timeUsec, .u64Le 8 m.flags, .f32sLe 16 m.controls, .u8 80 m.mode]

def toBytes (m : HilActuatorControls) : Checked Empty Bytes := encode size m.fields

def fromBytes (data : Bytes) : Checked ParseError HilActuatorControls :=
  if data.length < size then Checked.fail .invalidPayload
  else do
    return {
      controls := ← readF32sLe data 16 16
      timeUsec := ← readU64Le data 0
      flags := ← readU64Le data 8
      mode := ← readU8 data 80 }

end HilActuatorControls

inductive HilMessage where
  | heartbeat (m : Heartbeat)
  | sensor (m : HilSensor)
  | gps (m : HilGps)
  | stateQuaternion (m : HilStateQuaternion)
  | actuatorControls (m : HilActuatorControls)
deriving DecidableEq

namespace HilMessage

def msgId : HilMessage → UInt8
  | heartbeat _ => heartbeatId
  | sensor _ => hilSensorId
  | gps _ => hilGpsId
  | stateQuaternion _ => hilStateQuaternionId
  | actuatorControls _ => hilActuatorControlsId

/-- The payload's full length. -/
def size : HilMessage → Nat
  | heartbeat _ => Heartbeat.size
  | sensor _ => HilSensor.size
  | gps _ => HilGps.size
  | stateQuaternion _ => HilStateQuaternion.size
  | actuatorControls _ => HilActuatorControls.size

def fields : HilMessage → List FieldWrite
  | heartbeat m => m.fields
  | sensor m => m.fields
  | gps m => m.fields
  | stateQuaternion m => m.fields
  | actuatorControls m => m.fields

def toBytes : HilMessage → Checked Empty Bytes
  | heartbeat m => m.toBytes
  | sensor m => m.toBytes
  | gps m => m.toBytes
  | stateQuaternion m => m.toBytes
  | actuatorControls m => m.toBytes

/-- The fields follow each other and fill the payload. -/
theorem tiles (m : HilMessage) : Tiles 0 m.size m.fields := by
  cases m with
  | heartbeat m => simp [size, fields, Heartbeat.fields, Heartbeat.size]
  | sensor m => simp [size, fields, HilSensor.fields, HilSensor.size]
  | gps m => simp [size, fields, HilGps.fields, HilGps.size]
  | stateQuaternion m =>
    simp [size, fields, HilStateQuaternion.fields, HilStateQuaternion.size]
  | actuatorControls m =>
    simp [size, fields, HilActuatorControls.fields, HilActuatorControls.size]

/-- The payload of a message. -/
theorem toBytes_eq (m : HilMessage) : m.toBytes = .ok (recordBytes m.fields) := by
  cases m with
  | heartbeat m => exact encode_of_tiles (tiles (.heartbeat m))
  | sensor m => exact encode_of_tiles (tiles (.sensor m))
  | gps m => exact encode_of_tiles (tiles (.gps m))
  | stateQuaternion m => exact encode_of_tiles (tiles (.stateQuaternion m))
  | actuatorControls m => exact encode_of_tiles (tiles (.actuatorControls m))

theorem length_payload (m : HilMessage) : (recordBytes m.fields).length = m.size := by
  have hlength := length_recordBytes m.tiles
  rwa [Nat.zero_add] at hlength

end HilMessage

/-! ## Decoding what was encoded -/

theorem Heartbeat.fromBytes_payload (m : Heartbeat) :
    fromBytes (recordBytes m.fields) = .ok m := by
  have hlength : ¬ (recordBytes m.fields).length < size :=
    Nat.not_lt.mpr (HilMessage.heartbeat m).length_payload.ge
  rw [fromBytes, if_neg hlength]
  simp (disch := simp) [fields, readU8_skip (length_u32Bytes _), readU8_skip (length_u8Bytes _)]

theorem HilSensor.fromBytes_payload (m : HilSensor) :
    fromBytes (recordBytes m.fields) = .ok m := by
  have hlength : ¬ (recordBytes m.fields).length < size :=
    Nat.not_lt.mpr (HilMessage.sensor m).length_payload.ge
  rw [fromBytes, if_neg hlength]
  simp (disch := simp) [fields, readU8_skip (length_u64Bytes _), readU8_skip (length_f32Bytes _),
    readU8_skip (length_u32Bytes _), readU32Le_skip (length_u64Bytes _),
    readU32Le_skip (length_f32Bytes _), readF32Le_skip (length_u64Bytes _),
    readF32Le_skip (length_f32Bytes _)]

/-- The payload of a position before its extension fields. -/
def HilGps.base (m : HilGps) : Bytes := recordBytes (m.fields.take 13)

theorem HilGps.length_base (m : HilGps) : m.base.length = minSize := by
  simp [base, fields, minSize]

theorem HilGps.payload_eq (m : HilGps) :
    recordBytes m.fields = m.base ++ (u8Bytes m.id ++ (u16Bytes m.yaw ++ [])) := by
  simp [base, fields, recordBytes]

theorem HilGps.readBase_base (m : HilGps) (tail : Bytes) :
    readBase (m.base ++ tail) = .ok { m with id := 0, yaw := 0 } := by
  simp (disch := simp) [readBase, base, fields, readU8_skip (length_u64Bytes _),
    readU8_skip (length_i32Bytes _), readU8_skip (length_u16Bytes _),
    readU8_skip (length_i16Bytes _), readU8_skip (length_u8Bytes _),
    readI32Le_skip (length_u64Bytes _), readI32Le_skip (length_i32Bytes _),
    readU16Le_skip (length_u64Bytes _), readU16Le_skip (length_i32Bytes _),
    readU16Le_skip (length_u16Bytes _), readU16Le_skip (length_i16Bytes _),
    readI16Le_skip (length_u64Bytes _), readI16Le_skip (length_i32Bytes _),
    readI16Le_skip (length_u16Bytes _), readI16Le_skip (length_i16Bytes _)]

theorem HilGps.fromBytes_payload (m : HilGps) : fromBytes (recordBytes m.fields) = .ok m := by
  have hlength : (recordBytes m.fields).length = size := (HilMessage.gps m).length_payload
  have hid : (readU8 (recordBytes m.fields) 36 : Checked ParseError UInt8) = .ok m.id := by
    rw [payload_eq, readU8_skip m.length_base (show minSize ≤ 36 from Nat.le_refl _)]
    rfl
  have hyaw : (readU16Le (recordBytes m.fields) 37 : Checked ParseError UInt16) = .ok m.yaw := by
    rw [payload_eq, readU16Le_skip m.length_base (show minSize ≤ 37 by decide),
      readU16Le_skip (length_u8Bytes _) (by decide)]
    exact readU16Le_u16Bytes _
  rw [fromBytes, if_neg (by rw [hlength]; decide), payload_eq, readBase_base, ← payload_eq,
    Checked.ok_bind, if_pos hlength.ge, hid, Checked.ok_bind, hyaw]
  rfl

/-- Without a full payload the extension fields are zero, whatever is left of them. -/
theorem HilGps.fromBytes_base (m : HilGps) {tail : Bytes} (htail : tail.length < 3) :
    fromBytes (m.base ++ tail) = .ok { m with id := 0, yaw := 0 } := by
  have hlength : (m.base ++ tail).length = minSize + tail.length := by
    rw [List.length_append, m.length_base]
  rw [fromBytes, if_neg (by rw [hlength]; exact Nat.not_lt.mpr (Nat.le_add_right _ _)),
    readBase_base, Checked.ok_bind, if_neg (by rw [hlength, size, minSize]; omega)]
  rfl

theorem HilStateQuaternion.fromBytes_payload (m : HilStateQuaternion) :
    fromBytes (recordBytes m.fields) = .ok m := by
  have hlength : ¬ (recordBytes m.fields).length < size :=
    Nat.not_lt.mpr (HilMessage.stateQuaternion m).length_payload.ge
  have hquaternion : (readF32sLe (recordBytes m.fields) 8 4 : Checked ParseError (Vector F32 4)) =
      .ok m.attitudeQuaternion :=
    readF32sLe_f32sBytes m.attitudeQuaternion (length_u64Bytes m.timeUsec) _
  rw [fromBytes, if_neg hlength, hquaternion]
  simp (disch := simp) [fields, readF32Le_skip (length_u64Bytes _),
    readF32Le_skip (length_f32sBytes _), readF32Le_skip (length_f32Bytes _),
    readI32Le_skip (length_u64Bytes _), readI32Le_skip (length_f32sBytes _),
    readI32Le_skip (length_f32Bytes _), readI32Le_skip (length_i32Bytes _),
    readI16Le_skip (length_u64Bytes _), readI16Le_skip (length_f32sBytes _),
    readI16Le_skip (length_f32Bytes _), readI16Le_skip (length_i32Bytes _),
    readI16Le_skip (length_i16Bytes _), readI16Le_skip (length_u16Bytes _),
    readU16Le_skip (length_u64Bytes _), readU16Le_skip (length_f32sBytes _),
    readU16Le_skip (length_f32Bytes _), readU16Le_skip (length_i32Bytes _),
    readU16Le_skip (length_i16Bytes _), readU16Le_skip (length_u16Bytes _)]

theorem HilActuatorControls.fromBytes_payload (m : HilActuatorControls) :
    fromBytes (recordBytes m.fields) = .ok m := by
  have hlength : ¬ (recordBytes m.fields).length < size :=
    Nat.not_lt.mpr (HilMessage.actuatorControls m).length_payload.ge
  have hcontrols : (readF32sLe (recordBytes m.fields) 16 16 : Checked ParseError (Vector F32 16)) =
      .ok m.controls := by
    have hpayload : recordBytes m.fields = (u64Bytes m.timeUsec ++ u64Bytes m.flags) ++
        (m.controls.toList.flatMap f32Bytes ++ u8Bytes m.mode) := by
      simp [fields, recordBytes]
    rw [hpayload]
    exact readF32sLe_f32sBytes m.controls rfl _
  rw [fromBytes, if_neg hlength, hcontrols]
  simp (disch := simp) [fields, readU64Le_skip (length_u64Bytes _), readU8_skip (length_u64Bytes _),
    readU8_skip (length_f32sBytes _)]

end Aviate.Hil
