import Aviate.Model
import Aviate.Foundations.Machine
import Mathlib.Data.Vector.Defs

/-!
# The direct MAVLink endpoint

A byte ring for what arrives, a byte ring for what is sent, and a queue of sixteen commands
(`link.rs`, `link/ring.rs`, `link/mavlink_rx.rs`). `poll_command` decodes what the ring holds as
long as the queue has room, and takes the oldest command.
-/

namespace Aviate.Direct

open Mavlink

/-! ## The byte ring -/

/-- `DirectByteRing<N>`: `len` bytes from `head` on. Both are at most `N`, the size of an array,
so that their sum does not wrap. -/
structure DirectByteRing (N : Nat) where
  buf : Vector UInt8 N
  head : Nat
  len : Nat

namespace DirectByteRing

variable {N : Nat}

def new : DirectByteRing N := ⟨.replicate N 0, 0, 0⟩

def isEmpty (r : DirectByteRing N) : Bool := r.len = 0

/-- The free bytes; the subtraction saturates. -/
def remainingCapacity (r : DirectByteRing N) : Nat := N - r.len

def pushByte (r : DirectByteRing N) (byte : UInt8) : DirectByteRing N :=
  { r with buf := r.buf.setIfInBounds ((r.head + r.len) % N) byte, len := r.len + 1 }

/-- Append the prefix of `data` that fits; how many bytes that is. -/
def push (r : DirectByteRing N) (data : Bytes) : Nat × DirectByteRing N :=
  if N = 0 then (0, r)
  else
    let writable := min data.length r.remainingCapacity
    (writable, (data.take writable).foldl pushByte r)

/-- Append all of `data` or nothing. -/
def pushAll (r : DirectByteRing N) (data : Bytes) : Bool × DirectByteRing N :=
  if data.length > r.remainingCapacity then (false, r) else (true, (r.push data).2)

/-- Copy the first bytes over the front of `out`; how many there are. -/
def peek (r : DirectByteRing N) (out : Bytes) : Nat × Bytes :=
  if N = 0 then (0, out)
  else
    let readable := min out.length r.len
    (readable, out.mapIdx fun offset dst =>
      if offset < readable then (r.buf[(r.head + offset) % N]?).getD dst else dst)

/-- Advance the read cursor. An empty ring starts over at zero. -/
def consume (r : DirectByteRing N) (count : Nat) : DirectByteRing N :=
  if N = 0 then r
  else
    let removed := min count r.len
    let len := r.len - removed
    { r with head := if len = 0 then 0 else (r.head + removed) % N, len := len }

/-- What `consume` returns. -/
def removed (r : DirectByteRing N) (count : Nat) : Nat := if N = 0 then 0 else min count r.len

/-- Copy the first bytes over the front of `out` and remove them. -/
def pop (r : DirectByteRing N) (out : Bytes) : (Nat × Bytes) × DirectByteRing N :=
  let (count, out) := r.peek out
  ((count, out), r.consume count)

def clear (r : DirectByteRing N) : DirectByteRing N := { r with head := 0, len := 0 }

end DirectByteRing

/-! ## Extracting frames -/

def maxMavlinkV2FrameLen : Nat := 280

def minMavlinkV2FrameLen : Nat := 12

/-- The length a header declares. -/
def frameLen (payloadLen incompat : UInt8) : Nat :=
  MavHeader.size + payloadLen.toNat + 2 + if isSigned incompat then mavlinkSignatureLen else 0

section Extract

variable {N : Nat} (localAddress : LocalAddress)

/-- `next_inbound_action`: the loop, with the scratch buffer it peeks into. Each round consumes
a byte at least, so that as many rounds as the ring holds bytes are enough. -/
def nextInboundActionLoop : Nat → DirectByteRing N → Bytes →
    Option InboundAction × DirectByteRing N
  | 0, ring, _ => (none, ring)
  | fuel + 1, ring, scratch =>
    if ring.isEmpty then (none, ring)
    else
      let (peeked, scratch) := ring.peek scratch
      match scratch[0]? with
      | none => (none, ring)
      | some first =>
        if first ≠ mavlinkStxV2 then
          let skip := ((scratch.take peeked).findIdx? (· = mavlinkStxV2)).getD peeked
          nextInboundActionLoop fuel (ring.consume (max skip 1)) scratch
        else if peeked < minMavlinkV2FrameLen then
          if ring.remainingCapacity = 0 then
            nextInboundActionLoop fuel (ring.consume 1) scratch
          else (none, ring)
        else
          let payloadLen := (scratch[1]?).getD 0
          let incompat := (scratch[2]?).getD 0
          if incompat &&& ~~~mavlinkIflagSigned ≠ 0 then
            nextInboundActionLoop fuel (ring.consume 1) scratch
          else
            let len := frameLen payloadLen incompat
            if peeked < len then
              if ring.remainingCapacity = 0 && N < len then
                nextInboundActionLoop fuel (ring.consume 1) scratch
              else (none, ring)
            else if scratch.length < len then
              nextInboundActionLoop fuel (ring.consume 1) scratch
            else
              match parseMavlinkFrame (scratch.take len) with
              | .ok parsed =>
                (some (mapMessage parsed.message parsed.header localAddress),
                  ring.consume parsed.consumed)
              | .error _ => nextInboundActionLoop fuel (ring.consume 1) scratch

def nextInboundAction (ring : DirectByteRing N) : Option InboundAction × DirectByteRing N :=
  nextInboundActionLoop localAddress ring.len ring (List.replicate maxMavlinkV2FrameLen 0)

end Extract

/-! ## The endpoint -/

def commandQueueCap : Nat := 16

def maxFrameBuf : Nat := 280

structure DirectMavlinkEndpoint (RX TX : Nat) where
  rxRing : DirectByteRing RX
  txRing : DirectByteRing TX
  cmdQueue : Vector (Option (SystemCommand F32)) commandQueueCap
  cmdHead : Nat
  cmdLen : Nat
  sysId : UInt8
  compId : UInt8
  seq : UInt8

namespace DirectMavlinkEndpoint

variable {RX TX : Nat}

def new (sysId compId : UInt8) : DirectMavlinkEndpoint RX TX :=
  ⟨.new, .new, .replicate _ none, 0, 0, sysId, compId, 0⟩

def localAddress (e : DirectMavlinkEndpoint RX TX) : LocalAddress := ⟨e.sysId, e.compId⟩

def pushRx (e : DirectMavlinkEndpoint RX TX) (bytes : Bytes) :
    Nat × DirectMavlinkEndpoint RX TX :=
  let (accepted, rxRing) := e.rxRing.push bytes
  (accepted, { e with rxRing })

def enqueueCommand (e : DirectMavlinkEndpoint RX TX) (cmd : SystemCommand F32) :
    DirectMavlinkEndpoint RX TX :=
  if e.cmdLen ≥ commandQueueCap then e
  else
    { e with
      cmdQueue := e.cmdQueue.setIfInBounds ((e.cmdHead + e.cmdLen) % commandQueueCap) (some cmd)
      cmdLen := e.cmdLen + 1 }

/-- A frame that does not fit the ring is dropped, and its sequence number is used again. -/
def pushMavMessage (e : DirectMavlinkEndpoint RX TX) (msg : MavMessage) :
    DirectMavlinkEndpoint RX TX :=
  match serializeMavlink msg e.seq e.sysId e.compId (List.replicate maxFrameBuf 0) with
  | .ok (some (len, buf)) =>
    match e.txRing.pushAll (buf.take len) with
    | (true, txRing) => { e with txRing, seq := e.seq + 1 }
    | (false, _) => e
  | _ => e

def emitCommandAck (e : DirectMavlinkEndpoint RX TX) (command : UInt16) (result : UInt8)
    (detail : Int32) : DirectMavlinkEndpoint RX TX :=
  e.pushMavMessage (.commandAck
    { command := command
      result := result
      progress := 0
      resultParam2 := detail
      targetSystem := 255
      targetComponent := 0 })

/-- Carry out one action. -/
def perform (e : DirectMavlinkEndpoint RX TX) : InboundAction → DirectMavlinkEndpoint RX TX
  | .enqueue cmd => e.enqueueCommand cmd
  | .immediateAck command result => e.emitCommandAck command result 0
  | .ignore => e

/-- `decode_inbound_frames`, with the actions it carries out. Each round but the last consumes
a byte at least. -/
def decodeInboundFramesLoop : Nat → DirectMavlinkEndpoint RX TX →
    List InboundAction × DirectMavlinkEndpoint RX TX
  | 0, e => ([], e)
  | fuel + 1, e =>
    if e.cmdLen < commandQueueCap then
      match nextInboundAction e.localAddress e.rxRing with
      | (none, rxRing) => ([], { e with rxRing })
      | (some action, rxRing) =>
        let (actions, e) := decodeInboundFramesLoop fuel ({ e with rxRing }.perform action)
        (action :: actions, e)
    else ([], e)

def decodeInboundFrames (e : DirectMavlinkEndpoint RX TX) :
    List InboundAction × DirectMavlinkEndpoint RX TX :=
  decodeInboundFramesLoop (e.rxRing.len + 1) e

/-- Take the oldest command of the queue. -/
def takeCommand (e : DirectMavlinkEndpoint RX TX) :
    Option (SystemCommand F32) × DirectMavlinkEndpoint RX TX :=
  if e.cmdLen = 0 then (none, e)
  else
    let cmd := (e.cmdQueue[e.cmdHead]?).join
    let len := e.cmdLen - 1
    (cmd, { e with
      cmdQueue := e.cmdQueue.setIfInBounds e.cmdHead none
      cmdHead := if len = 0 then 0 else (e.cmdHead + 1) % commandQueueCap
      cmdLen := len })

/-- `poll_command`, with the actions it carries out on the way. -/
def pollCommand (e : DirectMavlinkEndpoint RX TX) :
    (List InboundAction × Option (SystemCommand F32)) × DirectMavlinkEndpoint RX TX :=
  let (actions, e) := e.decodeInboundFrames
  let (cmd, e) := e.takeCommand
  ((actions, cmd), e)

/-! ## Runs -/

inductive Op where
  | pushRx (bytes : Bytes)
  | pollCommand

/-- What a call returns: how many bytes were accepted, or the command, with the actions carried
out. -/
inductive Out where
  | accepted (n : Nat)
  | polled (actions : List InboundAction) (command : Option (SystemCommand F32))

def step (e : DirectMavlinkEndpoint RX TX) : Op → DirectMavlinkEndpoint RX TX × Out
  | .pushRx bytes =>
    let (n, e) := e.pushRx bytes
    (e, .accepted n)
  | .pollCommand =>
    let ((actions, cmd), e) := e.pollCommand
    (e, .polled actions cmd)

/-- The endpoint under its two calls. -/
def machine (RX TX : Nat) : Machine (DirectMavlinkEndpoint RX TX) Op Out where
  step := step

end DirectMavlinkEndpoint

end Aviate.Direct
