import Aviate.Foundations.Machine
import Aviate.Hil.Wire

/-!
# The HIL TCP transport

What the transport does with the bytes of its stream (`mavlink-hil/src/transport_tcp.rs`): the
reassembly buffer and the queues of samples.
-/

namespace Aviate.Hil

/-- Sensor samples held for the flight controller to answer. -/
def sensorQueueDepth : Nat := 16

def rxBufSize : Nat := 2048

/-- `rx` is the part of the buffer in use. -/
structure HilTcpTransport where
  rx : Bytes
  rxCount : UInt64
  crcErrors : UInt64
  sensors : List HilSensor
  droppedSensors : UInt64
  gps : List HilGps
  stateQuaternions : List HilStateQuaternion

/-- A full queue loses its oldest value. -/
def pushBounded {α : Type} (queue : List α) (value : α) : List α :=
  (if queue.length = sensorQueueDepth then queue.tail else queue) ++ [value]

namespace HilTcpTransport

def handleFrame (t : HilTcpTransport) (frame : MavFrame) : HilTcpTransport :=
  match frame.message with
  | .sensor sensor =>
    { t with
      droppedSensors :=
        if t.sensors.length = sensorQueueDepth then t.droppedSensors + 1 else t.droppedSensors
      sensors := pushBounded t.sensors sensor }
  | .gps gps => { t with gps := pushBounded t.gps gps }
  | .stateQuaternion state =>
    { t with stateQuaternions := pushBounded t.stateQuaternions state }
  | .heartbeat _ | .actuatorControls _ => t

/-- Parse frames from `offset` on, with the frames handled. Every round but the last consumes a
byte at least. -/
def parseLoop : Nat → HilTcpTransport → Nat → List MavFrame × HilTcpTransport × Nat
  | 0, t, offset => ([], t, offset)
  | fuel + 1, t, offset =>
    if offset < t.rx.length then
      match parseFrame (t.rx.drop offset) with
      | .ok (frame, consumed) =>
        let t := t.handleFrame frame
        let (handled, t, offset) :=
          parseLoop fuel { t with rxCount := t.rxCount + 1 } (offset + consumed)
        (frame :: handled, t, offset)
      | .error (.error .incomplete) => ([], t, offset)
      | .error (.error .crcMismatch) =>
        parseLoop fuel { t with crcErrors := t.crcErrors + 1 } (offset + 1)
      | .error (.error (.unknownMessage _ consumed)) => parseLoop fuel t (offset + consumed)
      | .error (.error _) => parseLoop fuel t (offset + 1)
      -- Parsing never runs out of range.
      | .error .outOfRange => ([], t, offset)
    else ([], t, offset)

/-- Append to the reassembly buffer and parse whole frames out of it. A buffer that is outrun is
dropped. -/
def processData (t : HilTcpTransport) (data : Bytes) : List MavFrame × HilTcpTransport :=
  let space := rxBufSize - t.rx.length
  let kept := if data.length > space then [] else t.rx
  let t := { t with rx := kept ++ data.take rxBufSize }
  let (handled, t, offset) := parseLoop t.rx.length t 0
  (handled, { t with rx := t.rx.drop offset })

/-- The transport under its stream's chunks; the output is the frames handled. -/
def machine : Machine HilTcpTransport Bytes (List MavFrame) where
  step t data := ((t.processData data).2, (t.processData data).1)

end HilTcpTransport

end Aviate.Hil
