import Aviate.Foundations.Machine
import Aviate.Model

/-!
# The simulator's command link

Datagrams to commands and back to the ground station (`xil/src/sitl_io.rs`,
`sitl_io/command_link.rs`, `command_provenance.rs`). Endpoints are an arbitrary type, the frame
digest an arbitrary function.
-/

namespace Aviate.Sitl

open Mavlink

/-! ## Provenance of setpoints -/

inductive MavlinkCommandFamily where
  | attitudeTarget
  | positionTargetLocalNed
deriving DecidableEq

structure SourceEpochTracker (Addr : Type) where
  epoch : UInt64
  identity : Option (Addr × UInt8 × UInt8)
  lastTimeBootMs : Option UInt32

structure MavlinkCommandProvenance (Addr : Type) where
  sourceEndpoint : Addr
  sourceEpoch : UInt64
  mavlinkSystemId : UInt8
  mavlinkComponentId : UInt8
  mavlinkFrameSequence : UInt8
  timeBootMs : UInt32
  commandFamily : MavlinkCommandFamily
  frameDigest : Vector UInt8 32

def nextNonzero (value : UInt64) : UInt64 := if value + 1 = 0 then 1 else value + 1

section Link

variable {Addr : Type} [DecidableEq Addr]

/-- Another sender, or a clock that went back, opens a new epoch. -/
def SourceEpochTracker.observe (tracker : SourceEpochTracker Addr) (source : Addr)
    (systemId componentId : UInt8) (timeBootMs : UInt32) : UInt64 × SourceEpochTracker Addr :=
  let identity := (source, systemId, componentId)
  let changed := tracker.identity.any (· ≠ identity) || tracker.lastTimeBootMs.any (timeBootMs < ·)
  let epoch := if changed then nextNonzero tracker.epoch else tracker.epoch
  (epoch, { epoch, identity := some identity, lastTimeBootMs := some timeBootMs })

variable (sha256 : Bytes → Vector UInt8 32)

def MavlinkCommandProvenance.new (tracker : SourceEpochTracker Addr) (source : Addr)
    (header : MavHeader) (timeBootMs : UInt32) (family : MavlinkCommandFamily) (frame : Bytes) :
    MavlinkCommandProvenance Addr × SourceEpochTracker Addr :=
  let (epoch, tracker) := tracker.observe source header.sysid header.compid timeBootMs
  ({ sourceEndpoint := source
     sourceEpoch := epoch
     mavlinkSystemId := header.sysid
     mavlinkComponentId := header.compid
     mavlinkFrameSequence := header.seq
     timeBootMs := timeBootMs
     commandFamily := family
     frameDigest := sha256 frame }, tracker)

/-! ## The link's state -/

structure ReceivedCommand (Addr : Type) where
  command : SystemCommand F32
  provenance : Option (MavlinkCommandProvenance Addr)

/-- One slot for discrete commands, one for setpoints. -/
structure SitlIo (Addr : Type) where
  command : Option (SystemCommand F32)
  flightCmd : Option (ReceivedCommand Addr)
  commandSourceEpochs : SourceEpochTracker Addr
  gcsAddr : Option Addr
  rxCount : UInt64
  /-- The acknowledgements sent. -/
  acks : List (Addr × CommandAck)

namespace SitlIo

def new (epoch : UInt64) : SitlIo Addr where
  command := none
  flightCmd := none
  commandSourceEpochs := { epoch, identity := none, lastTimeBootMs := none }
  gcsAddr := none
  rxCount := 0
  acks := []

def sendCommandAck (io : SitlIo Addr) (command : UInt16) (result : UInt8) (detail : Int32) :
    SitlIo Addr :=
  let ack : CommandAck := {
    command := command
    result := result
    progress := 0
    resultParam2 := detail
    targetSystem := 255
    targetComponent := 0 }
  match io.gcsAddr with
  | some destination => { io with acks := io.acks ++ [(destination, ack)] }
  | none => io

def handleCommandLong (io : SitlIo Addr) (cmd : CommandLong) : SitlIo Addr :=
  if cmd.command ≠ componentArmDisarm then
    io.sendCommandAck cmd.command Direct.resultUnsupported 0
  else
    let forced := cmd.param2.isForceMagic
    if cmd.param1.isOne then { io with command := some .arm }
    else if cmd.param1.isZero && forced then { io with command := some .emergencyTerminate }
    else if cmd.param1.isZero then { io with command := some .disarm }
    else io.sendCommandAck cmd.command Direct.resultDenied 0

/-- A setpoint that maps replaces the one before it. -/
def handleSetpoint (io : SitlIo Addr) (mapped : Mapped (Command F32)) (source : Addr)
    (header : MavHeader) (timeBootMs : UInt32) (family : MavlinkCommandFamily) (frame : Bytes) :
    SitlIo Addr :=
  match mapped with
  | .error _ => io
  | .ok command =>
    let (provenance, tracker) := MavlinkCommandProvenance.new sha256 io.commandSourceEpochs source
      header timeBootMs family frame
    { io with
      commandSourceEpochs := tracker
      flightCmd := some {
        command := .flightControl { command with sequence := header.seq.toUInt32 }
        provenance := some provenance } }

def handleSetAttitudeTarget (io : SitlIo Addr) (target : SetAttitudeTarget) (source : Addr)
    (header : MavHeader) (frame : Bytes) : SitlIo Addr :=
  io.handleSetpoint sha256 (mavlinkToCommand target) source header target.timeBootMs
    .attitudeTarget frame

def handleSetPositionTarget (io : SitlIo Addr) (target : SetPositionTargetLocalNed)
    (source : Addr) (header : MavHeader) (frame : Bytes) : SitlIo Addr :=
  io.handleSetpoint sha256 (mavlinkPositionToCommand target) source header target.timeBootMs
    .positionTargetLocalNed frame

def handleMessage (io : SitlIo Addr) (message : MavMessage) (source : Addr) (header : MavHeader)
    (frame : Bytes) : SitlIo Addr :=
  match message with
  | .setAttitudeTarget target =>
    { io with gcsAddr := some source }.handleSetAttitudeTarget sha256 target source header frame
  | .setPositionTargetLocalNed target =>
    { io with gcsAddr := some source }.handleSetPositionTarget sha256 target source header frame
  | .commandLong cmd => { io with gcsAddr := some source }.handleCommandLong cmd
  | .heartbeat _ => { io with gcsAddr := some source }
  | _ => io

/-- Of a datagram only the first frame is read. -/
def processMavlinkData (io : SitlIo Addr) (data : Bytes) (source : Addr) : SitlIo Addr :=
  match parseMavlinkFrame data with
  | .ok parsed =>
    { io with rxCount := io.rxCount + 1 }.handleMessage sha256 parsed.message source parsed.header
      (data.take parsed.consumed)
  | .error _ => io

/-- The receive buffer: what a datagram has beyond it is cut off. -/
def bufSize : Nat := 1024

/-- Drain the datagrams that have arrived. -/
def poll (io : SitlIo Addr) (arrived : List (Addr × Bytes)) : SitlIo Addr :=
  arrived.foldl (fun io datagram =>
    io.processMavlinkData sha256 (datagram.2.take bufSize) datagram.1) io

/-- A discrete command goes before a setpoint. -/
def recvCommandWithProvenance (io : SitlIo Addr) (arrived : List (Addr × Bytes)) :
    Option (ReceivedCommand Addr) × SitlIo Addr :=
  let io := io.poll sha256 arrived
  match io.command with
  | some command => (some { command, provenance := none }, { io with command := none })
  | none => (io.flightCmd, { io with flightCmd := none })

/-! ## Runs -/

/-- A call, with the datagrams it finds on the socket. -/
inductive Op (Addr : Type) where
  | poll (arrived : List (Addr × Bytes))
  | recvCommand (arrived : List (Addr × Bytes))

/-- The link under its two calls; `recv_command` returns the command. -/
def machine : Machine (SitlIo Addr) (Op Addr) (Option (SystemCommand F32)) where
  step io
    | .poll arrived => (io.poll sha256 arrived, none)
    | .recvCommand arrived =>
      let (received, io) := io.recvCommandWithProvenance sha256 arrived
      (io, received.map ReceivedCommand.command)

end SitlIo

end Link

end Aviate.Sitl
