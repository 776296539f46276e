import Aviate.Foundations.Machine
import Aviate.Hil.Backend
import Aviate.Perturbation.Engine

/-!
# The X-Plane board's session

The lifecycle of one simulator session (`sitl-xplane/src/board/lifecycle.rs`) and the steps that
drive it. A step polls the HIL backend for samples and answers each; what the kernel does with a
sample reaches the lifecycle only through the health it reports at the end of the step.
-/

namespace Aviate.XPlane

open Hil Perturbation

inductive SimulatorLifecycle where
  | stopped
  | resetting
  | converging
  | ready
deriving DecidableEq, Repr

abbrev ResetGeneration := UInt32

inductive XPlaneResetError where
  | resetInProgress (generation : ResetGeneration)
  | condition (source : PerturbationError)
  | transport (source : SendError)
deriving DecidableEq, Repr

structure XPlaneSessionState where
  generation : ResetGeneration
  lifecycle : SimulatorLifecycle
  perturbation : Option PerturbationConfig
deriving DecidableEq, Repr

namespace XPlaneSessionState

def new (perturbation : Option PerturbationConfig) : XPlaneSessionState :=
  { generation := 1, lifecycle := .converging, perturbation }

def isStopped (self : XPlaneSessionState) : Bool := self.lifecycle == .stopped

def observeHealth (self : XPlaneSessionState) (ready healthy : Bool) : XPlaneSessionState :=
  match self.lifecycle with
  | .converging => if ready then { self with lifecycle := .ready } else self
  | .ready => if !healthy then { self with lifecycle := .converging } else self
  | _ => self

def beginReset (self : XPlaneSessionState) : XPlaneSessionState :=
  { self with lifecycle := .resetting }

def acceptResetRequest (self : XPlaneSessionState) : XPlaneSessionState :=
  { self with generation := self.generation + 1 }

def isResetting (self : XPlaneSessionState) : Bool := self.lifecycle == .resetting

def resetAcknowledged (self : XPlaneSessionState) : XPlaneSessionState :=
  if self.isResetting then { self with lifecycle := .converging } else self

end XPlaneSessionState

/-! ## The board -/

structure XPlaneBoard where
  hilBackend : HilBackend
  session : XPlaneSessionState
  sampleSequence : UInt64
  maxSamplesPerIteration : Nat

/-- What one poll of a step meets: what arrives, and what becomes of a repeated reset request and
of the reply to the sample. -/
structure PollInput where
  arrival : Arrival
  resend : WriteOutcome
  reply : WriteOutcome

/-- A poll to which nothing arrives. -/
def PollInput.quiet : PollInput := ⟨.quiet, .written, .written⟩

/-- The packet at which a board left its reset, with the backend's truth and the generation. -/
structure Acknowledgment where
  generation : ResetGeneration
  group : SampleGroup
  truth : Option HilStateQuaternion

/-- What happens to a board, in order. -/
inductive LogEntry where
  | received (message : HilMessage)
  | accepted (generation : ResetGeneration)
  | acknowledged (acknowledgment : Acknowledgment)

/-- A perturbation engine for each configuration. -/
def newPerturbation (config : Option PerturbationConfig) :
    Except PerturbationError (Option PerturbationEngine) :=
  match config with
  | none => .ok none
  | some config => (PerturbationEngine.new config).map some

namespace XPlaneBoard

/-- `with_config`, on a link whose first connection attempt came out as given. -/
def withConfig (connected : Bool) (perturbation : Option PerturbationConfig)
    (maxSamplesPerIteration : Nat) : Except PerturbationError XPlaneBoard := do
  let _ ← newPerturbation perturbation
  let transport : HilTcpTransport :=
    { rx := [], rxCount := 0, crcErrors := 0, sensors := [], droppedSensors := 0, gps := []
      stateQuaternions := [] }
  return {
    hilBackend :=
      { link := { connected, transport }, lastSensorTimeUs := 0, resetPending := false
        resetTruth := none }
    session := .new perturbation
    sampleSequence := 0
    maxSamplesPerIteration }

/-- The result, what happens, and the board. The lifecycle is set before the request is made. -/
def beginReset (self : XPlaneBoard) (arrival : Arrival) (outcome : WriteOutcome) :
    Except XPlaneResetError ResetGeneration × List LogEntry × XPlaneBoard :=
  if self.session.isResetting || self.hilBackend.resetPending then
    (.error (.resetInProgress self.session.generation), [], self)
  else
    let self := { self with session := self.session.beginReset }
    match newPerturbation self.session.perturbation with
    | .error source => (.error (.condition source), [], self)
    | .ok _ =>
      let self := { self with sampleSequence := 0 }
      match self.hilBackend.requestReset arrival outcome with
      | (.error source, received, hilBackend) =>
        (.error (.transport source), received.map .received, { self with hilBackend })
      | (.ok (), received, hilBackend) =>
        let session := self.session.acceptResetRequest
        (.ok session.generation, received.map .received ++ [.accepted session.generation],
          { self with hilBackend, session })

/-- One round of a step's loop: poll, notice the end of a reset, answer the sample. -/
def pollSample (self : XPlaneBoard) (input : PollInput) : List LogEntry × Bool × XPlaneBoard :=
  let (received, group, hilBackend) := self.hilBackend.poll input.arrival input.resend
  let self := { self with hilBackend }
  match group with
  | none => (received.map .received, false, self)
  | some group =>
    let (acknowledged, session) :=
      if self.session.isResetting && !self.hilBackend.resetPending then
        ([LogEntry.acknowledged
          { generation := self.session.generation, group
            truth := self.hilBackend.resetTruth }], self.session.resetAcknowledged)
      else ([], self.session)
    (received.map .received ++ acknowledged, true,
      { self with
        hilBackend := (self.hilBackend.sendActuators input.reply).2
        session
        sampleSequence := self.sampleSequence + 1 })

/-- The loop, for a number of samples at most. -/
def drain (self : XPlaneBoard) : Nat → List PollInput → List LogEntry × XPlaneBoard
  | 0, _ => ([], self)
  | samples + 1, inputs =>
    let (log, answered, self) := self.pollSample (inputs.headD .quiet)
    if answered then
      let (rest, self) := self.drain samples inputs.tail
      (log ++ rest, self)
    else (log, self)

/-- The loop answers a sample before it looks at the limit. -/
def step (self : XPlaneBoard) (inputs : List PollInput) (ready healthy : Bool) :
    List LogEntry × XPlaneBoard :=
  if self.session.isStopped then ([], self)
  else
    let (log, self) := self.drain (max 1 self.maxSamplesPerIteration) inputs
    (log, { self with session := self.session.observeHealth ready healthy })

def startSession (self : XPlaneBoard) (ready : Bool) : XPlaneBoard :=
  if self.session.lifecycle = .stopped then
    { self with
      session := { self.session with lifecycle := if ready then .ready else .converging } }
  else self

def stopSession (self : XPlaneBoard) : XPlaneBoard :=
  { self with session := { self.session with lifecycle := .stopped } }

/-! ## Runs -/

inductive Op where
  | beginReset (arrival : Arrival) (outcome : WriteOutcome)
  | step (inputs : List PollInput) (ready healthy : Bool)
  | startSession (ready : Bool)
  | stopSession

/-- The result of a reset request, and what happens. -/
structure Output where
  reset : Option (Except XPlaneResetError ResetGeneration)
  log : List LogEntry

def machine : Machine XPlaneBoard Op Output where
  step
    | self, .beginReset arrival outcome =>
      let (result, log, self) := self.beginReset arrival outcome
      (self, ⟨some result, log⟩)
    | self, .step inputs ready healthy =>
      let (log, self) := self.step inputs ready healthy
      (self, ⟨none, log⟩)
    | self, .startSession ready => (self.startSession ready, ⟨none, []⟩)
    | self, .stopSession => (self.stopSession, ⟨none, []⟩)

end XPlaneBoard

end Aviate.XPlane
