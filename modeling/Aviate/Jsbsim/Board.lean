import Aviate.Model

/-!
# The JSBSim board

One kernel cycle and one reply for each truth state (`sitl-jsbsim/src/{truth,board}.rs`,
`board/session.rs`). The kernel in its runner, the noise on its samples and the map of its command
to the engines are a `FlightController`; the link is the HIL backend's.
-/

namespace Aviate.Jsbsim

open Hil (Arrival HilStateQuaternion PeekOutcome TruthBackend WriteOutcome ActuatorSendReceipt
  idleCommand)
open Missions (SimulatorLifecycle VehicleState BackendStatus ResetGeneration)
open Perturbation (SimActuatorCmd)
open Synthesis (WorldModels TruthSample MeasuredKinematics SimSensorPacket StepSynthesizer
  SynthesisError)

/-! ## The world a truth state is of -/

/-- Which simulated world the truth stream is in. A new session, or a time that runs backwards
within one, is a new generation; so is the next state after a reset was requested. -/
structure GenerationTracker where
  session : Option UInt64
  lastTimeUs : Option UInt64
  generation : UInt32
  steps : UInt64
  newWorldRequested : Bool
deriving DecidableEq, Repr

namespace GenerationTracker

def default : GenerationTracker := ⟨none, none, 0, 0, false⟩

/-- The state starts a new world. -/
def changed (tracker : GenerationTracker) (session timeUs : UInt64) : Bool :=
  let requested := tracker.newWorldRequested
  let newSession := tracker.session.any (· ≠ session)
  let rewound := tracker.lastTimeUs.any (timeUs < ·)
  requested || newSession || rewound

/-- The generation of a state, and its step index within that generation. -/
def observe (tracker : GenerationTracker) (session timeUs : UInt64) :
    (UInt32 × UInt64) × GenerationTracker :=
  let changed := tracker.changed session timeUs
  let generation := if changed then tracker.generation + 1 else tracker.generation
  let step := if changed then 0 else tracker.steps
  ((generation, step),
    { session := some session
      lastTimeUs := some timeUs
      generation
      steps := step + 1
      newWorldRequested := false })

def requestNewWorld (tracker : GenerationTracker) : GenerationTracker :=
  { tracker with newWorldRequested := true }

end GenerationTracker

/-- The world models of the board: a plane also maps positions to its local frame. -/
structure JsbsimModels extends WorldModels where
  toNed : LocalTangentPlane → GeodeticPosition → Except PositionError Ned

/-- One milli-g of specific force. -/
def milliGMps2 : F32 := lit (980665 / 100000000)

variable {models : JsbsimModels}

/-- The velocity a state states, from cm/s. -/
def statedVelocity (state : HilStateQuaternion) : Vector F32 3 :=
  #v[F32.ofFloat state.vx.toFloat32 / lit 100, F32.ofFloat state.vy.toFloat32 / lit 100,
    F32.ofFloat state.vz.toFloat32 / lit 100]

/-- The truth sample a state gives in the plane, unless the plane cannot express its position. -/
def truthSample (state : HilStateQuaternion) (plane : models.LocalTangentPlane)
    (generation : UInt32) (step : UInt64) : Option (TruthSample F32) :=
  let position : GeodeticPosition :=
    { latitudeDeg := .ofFloat (state.lat.toFloat * 1e-7)
      longitudeDeg := .ofFloat (state.lon.toFloat * 1e-7)
      ellipsoidalHeightM := .ofFloat (state.alt.toFloat * 1e-3) }
  (models.toNed plane position).toOption.map fun ned =>
    { timeUs := state.timeUsec
      resetGeneration := generation
      step
      positionNedM := #v[narrow ned.northM, narrow ned.eastM, narrow ned.downM]
      attitude := state.attitudeQuaternion
      measured := some
        { velocityNedMps := statedVelocity state
          bodyRatesRps := #v[state.rollspeed, state.pitchspeed, state.yawspeed]
          specificForceBodyMps2 :=
            #v[F32.ofFloat state.xacc.toFloat32 * milliGMps2,
              F32.ofFloat state.yacc.toFloat32 * milliGMps2,
              F32.ofFloat state.zacc.toFloat32 * milliGMps2] } }

/-- The vehicle a state states. -/
def vehicleState (state : HilStateQuaternion) (truth : TruthSample F32) : VehicleState F32 where
  position := truth.positionNedM
  velocity := statedVelocity state
  orientation := state.attitudeQuaternion
  angularVelocity := #v[state.rollspeed, state.pitchspeed, state.yawspeed]
  valid := true

/-! ## The board -/

/-- The kernel in its runner with an airframe's controller and mixer, the noise put on its samples,
and the map of its command to the engines. An `Input` is what else the runner meets in a cycle. -/
structure FlightController where
  State : Type
  Input : Type
  ActuatorCmd : Type
  applyPacketNoise : State → SimSensorPacket F32 → State × SimSensorPacket F32
  feedSensorPacket : State → SimSensorPacket F32 → State
  stepSim : State → UInt64 → Input → State × ActuatorCmd
  isReady : State → Bool
  isArmed : State → Bool
  terminate : State → State
  actuatorMap : ActuatorCmd → Bool → SimActuatorCmd

structure JsbsimConfig (models : JsbsimModels) where
  origin : GeodeticPosition
  epoch : models.DecimalYear

/-- Why the board could not be built. -/
inductive JsbsimError (models : JsbsimModels) where
  | bind
  | origin (error : models.PositionError)
  | synthesis (error : SynthesisError models.toWorldModels)

structure JsbsimBoard (models : JsbsimModels) (fc : FlightController) where
  backend : TruthBackend
  runner : fc.State
  plane : models.LocalTangentPlane
  synthesizer : StepSynthesizer models.toWorldModels F32
  generations : GenerationTracker
  generation : Option UInt32
  lastReply : SimActuatorCmd
  lifecycle : SimulatorLifecycle
  vehicle : VehicleState F32
  stepIndex : UInt64
  timeUs : UInt64

/-- What one truth state did. -/
structure TruthStep where
  timeUs : UInt64
  generation : UInt32
  kernelDeltaUs : Option UInt64
  reply : Option ActuatorSendReceipt

/-- A `TruthStep` with what it leaves unsaid: the state, its step index, the command its kernel
cycle computed, the command of the reply, and the session of the stream the reply was for. -/
structure Answered extends TruthStep where
  state : HilStateQuaternion
  step : UInt64
  computed : Option SimActuatorCmd
  command : SimActuatorCmd
  replySession : Option UInt64

namespace JsbsimBoard

variable {fc : FlightController}

/-- A board around a kernel, dialing the sidecar. `bound` says whether the GCS port binds. -/
def new (runner : fc.State) (config : JsbsimConfig models) (bound dialed : Bool) :
    Except (JsbsimError models) (JsbsimBoard models fc) := do
  let plane ← (models.newPlane config.origin).mapError .origin
  let synthesizer ← (StepSynthesizer.new config.origin config.epoch).mapError .synthesis
  if !bound then throw .bind
  return {
    backend := .connectTcp dialed
    runner
    plane
    synthesizer
    generations := .default
    generation := none
    lastReply := idleCommand
    lifecycle := .converging
    vehicle := .default
    stepIndex := 0
    timeUs := 0 }

/-! ### The session -/

def terminate (board : JsbsimBoard models fc) : JsbsimBoard models fc :=
  { board with runner := fc.terminate board.runner }

/-- A state of a new world arrived. -/
def enterNewWorld (board : JsbsimBoard models fc) : JsbsimBoard models fc :=
  if board.lifecycle ≠ .stopped then { board with lifecycle := .converging } else board

/-- Ready once the kernel is ready to fly; converging again when it is neither ready nor flying. -/
def observeHealth (board : JsbsimBoard models fc) : JsbsimBoard models fc :=
  let ready := fc.isReady board.runner
  match board.lifecycle with
  | .converging => if ready then { board with lifecycle := .ready } else board
  | .ready =>
    if !ready && !fc.isArmed board.runner then { board with lifecycle := .converging } else board
  | .stopped | .resetting => board

def startSession (board : JsbsimBoard models fc) : JsbsimBoard models fc :=
  if board.lifecycle = .stopped then { board with lifecycle := .converging }.observeHealth
  else board

def stopSession (board : JsbsimBoard models fc) : JsbsimBoard models fc :=
  { board.terminate with lifecycle := .stopped }

/-- End the sidecar session and dial a new one. -/
def beginReset (board : JsbsimBoard models fc) (arrival : Arrival) : JsbsimBoard models fc :=
  { board.terminate with
    vehicle := .default
    lifecycle := .resetting
    generations := board.generations.requestNewWorld
    backend := board.backend.restartSession arrival }

def waitForTruth (board : JsbsimBoard models fc) (peek : PeekOutcome) :
    Bool × JsbsimBoard models fc :=
  let (readable, backend) := board.backend.waitReadable peek
  (readable, { board with backend })

def resetGeneration (board : JsbsimBoard models fc) : ResetGeneration :=
  ⟨ResetGeneration.initial.value + board.generation.getD 0⟩

/-- One coherent view of the session. -/
def lifecycleStatus (board : JsbsimBoard models fc) : BackendStatus where
  generation := board.resetGeneration
  lifecycle := board.lifecycle
  step := board.stepIndex
  simulationTime := board.timeUs.toNat * 1000
  armed := fc.isArmed board.runner

/-! ### Truth states -/

/-- The world of the state. A new world starts disarmed: the old world's command must not drive
the new vehicle. -/
def adopt (board : JsbsimBoard models fc) (state : HilStateQuaternion) :
    (UInt32 × UInt64) × JsbsimBoard models fc :=
  let ((generation, step), generations) :=
    board.generations.observe board.backend.sessions state.timeUsec
  let board := { board with generations }
  let board :=
    if board.generation ≠ some generation then
      { board.enterNewWorld with lastReply := idleCommand, generation := some generation }
    else board
  ((generation, step), { board with stepIndex := step, timeUs := state.timeUsec })

def running (board : JsbsimBoard models fc) : Bool :=
  board.lifecycle ≠ .stopped ∧ board.lifecycle ≠ .resetting

/-- The kernel cycle the truth sample starts, with the time it covers and its command. -/
def cycle (board : JsbsimBoard models fc) (truth : Option (TruthSample F32)) (input : fc.Input) :
    Option (UInt64 × SimActuatorCmd) × JsbsimBoard models fc :=
  match truth.filter fun _ => board.running with
  | none => (none, board)
  | some truth =>
    match board.synthesizer.next truth with
    | (synthesizer, none) => (none, { board with synthesizer })
    | (synthesizer, some sample) =>
      let (runner, packet) := fc.applyPacketNoise board.runner sample.packet
      let (runner, command) := fc.stepSim (fc.feedSensorPacket runner packet) sample.deltaUs input
      let lastReply := fc.actuatorMap command (fc.isArmed runner)
      (some (sample.deltaUs, lastReply), { board with synthesizer, runner, lastReply })

/-- Run the kernel cycle a state starts, and answer it. While the session is stopped, or waits for
a new world, the state is answered idle. -/
def answer (board : JsbsimBoard models fc) (state : HilStateQuaternion) (input : fc.Input)
    (outcome : WriteOutcome) : Answered × JsbsimBoard models fc :=
  let ((generation, step), board) := board.adopt state
  let truth := truthSample state board.plane generation step
  let board := { board with vehicle := (truth.map (vehicleState state)).getD board.vehicle }
  let running := board.running
  let (cycled, board) := board.cycle truth input
  let board := if running then board else { board with lastReply := idleCommand }
  let board := board.observeHealth
  let (reply, backend) := board.backend.sendActuatorsAt board.lastReply state.timeUsec outcome
  ({ timeUs := state.timeUsec
     generation
     kernelDeltaUs := cycled.map Prod.fst
     reply := reply.toOption
     state
     step
     computed := cycled.map Prod.snd
     command := board.lastReply
     replySession := board.backend.openSession },
    { board with backend })

/-- Take the newest truth state, run the kernel cycle it starts, and answer it. -/
def step (board : JsbsimBoard models fc) (arrival : Arrival) (input : fc.Input)
    (outcome : WriteOutcome) : Option Answered × JsbsimBoard models fc :=
  match board.backend.pollTruth arrival with
  | (none, backend) => (none, { board with backend })
  | (some state, backend) =>
    let (answered, board) := { board with backend }.answer state input outcome
    (some answered, board)

end JsbsimBoard

end Aviate.Jsbsim
