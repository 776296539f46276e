import Aviate.Foundations.Machine
import Aviate.Model

/-!
# The perturbation engine

Sensor samples, actuator decisions and send completions of one run, checked against the sequence
of the current sample.
-/

namespace Aviate.Perturbation

structure PerturbationEngine where
  sensor : SensorEngine
  actuator : ActuatorEngine
  nextSequence : Option UInt64
  currentSequence : Option UInt64
  sequenceExhausted : Bool
  actuatorApplied : Bool
  sendCompleted : Bool
  quarantined : Bool
deriving DecidableEq, Repr

def validateIdentity (identity : PerturbationIdentity) : Except PerturbationError Unit :=
  if identity.conditionDigest = Vector.replicate 32 0 then .error .zeroConditionDigest
  else .ok ()

namespace PerturbationEngine

def new (config : PerturbationConfig) : Except PerturbationError PerturbationEngine := do
  validateIdentity config.identity
  let sensor ← SensorEngine.new config.identity config.sensorNoise
  let actuator ← ActuatorEngine.new config.identity config.actuator
  return {
    sensor
    actuator
    nextSequence := none
    currentSequence := none
    sequenceExhausted := false
    actuatorApplied := false
    sendCompleted := false
    quarantined := false }

/-- A refusal that quarantines the engine. -/
def refuse (self : PerturbationEngine) (e : PerturbationError) :
    Except PerturbationError Unit × PerturbationEngine :=
  (.error e, { self with quarantined := true })

def checkSensorSequence (self : PerturbationEngine) (sequence : UInt64) :
    Except PerturbationError Unit × PerturbationEngine :=
  if self.quarantined then (.error .quarantined, self)
  else
    match self.currentSequence.filter fun _ => !self.sendCompleted with
    | some current => self.refuse (.missingActuatorSend current)
    | none =>
      if self.sequenceExhausted then self.refuse .sampleSequenceExhausted
      else if self.nextSequence.any (sequence != ·) then
        self.refuse (.sampleSequence (self.nextSequence.getD sequence) sequence)
      else
        (.ok (), { self with
          nextSequence := some (sequence + 1)
          currentSequence := some sequence
          sequenceExhausted := sequence == u64Max
          actuatorApplied := false
          sendCompleted := false })

def checkActuatorSequence (self : PerturbationEngine) (sequence : UInt64) :
    Except PerturbationError Unit × PerturbationEngine :=
  if self.quarantined then (.error .quarantined, self)
  else
    let current := self.currentSequence.getD u64Max
    if current ≠ sequence then self.refuse (.actuatorSequence current sequence)
    else if self.actuatorApplied then self.refuse (.duplicateActuatorDecision sequence)
    else (.ok (), self)

def checkSendSequence (self : PerturbationEngine) (sequence : UInt64) :
    Except PerturbationError Unit × PerturbationEngine :=
  if self.quarantined then (.error .quarantined, self)
  else
    let current := self.currentSequence.getD u64Max
    if current ≠ sequence || !self.actuatorApplied then
      self.refuse (.actuatorSequence current sequence)
    else if self.sendCompleted then self.refuse (.duplicateActuatorSend sequence)
    else (.ok (), self)

section Calls

variable [Sha256]

/-- The result, the caller's packet afterwards and the engine. -/
def applySensor (self : PerturbationEngine) (sequence : UInt64) (packet : SimSensorPacket) :
    Except PerturbationError SensorApplication × SimSensorPacket × PerturbationEngine :=
  match self.checkSensorSequence sequence with
  | (.error e, self) => (.error e, packet, self)
  | (.ok (), self) =>
    match self.sensor.apply sequence packet with
    | (.ok application, packet) => (.ok application, packet, self)
    | (.error e, packet) => (.error e, packet, { self with quarantined := true })

/-- The result, the caller's command afterwards and the engine. -/
def applyActuator (self : PerturbationEngine) (sequence : UInt64) (command : SimActuatorCmd)
    (eligibility : ActuatorEligibility) (kernelFallbackMask : UInt8) :
    Except PerturbationError ActuatorApplication × SimActuatorCmd × PerturbationEngine :=
  match self.checkActuatorSequence sequence with
  | (.error e, self) => (.error e, command, self)
  | (.ok (), self) =>
    match self.actuator.apply sequence command eligibility kernelFallbackMask with
    | (.ok application, command, actuator) =>
      (.ok application, command, { self with actuator, actuatorApplied := true })
    | (.error e, command, actuator) =>
      (.error e, command, { self with actuator, quarantined := true })

omit [Sha256] in
def completeActuatorSend (self : PerturbationEngine) (sequence : UInt64) (succeeded : Bool) :
    Except PerturbationError Unit × PerturbationEngine :=
  match self.checkSendSequence sequence with
  | (.error e, self) => (.error e, self)
  | (.ok (), self) =>
    if succeeded then (.ok (), { self with sendCompleted := true })
    else { self with sendCompleted := true }.refuse (.actuatorSendFailed sequence)

/-! ## Runs -/

inductive Call where
  | applySensor (sequence : UInt64) (packet : SimSensorPacket)
  | applyActuator (sequence : UInt64) (command : SimActuatorCmd)
      (eligibility : ActuatorEligibility) (kernelFallbackMask : UInt8)
  | completeActuatorSend (sequence : UInt64) (succeeded : Bool)
deriving DecidableEq, Repr

/-- What a call returns, with the packet or command it was given as it leaves it. -/
inductive Answer where
  | sensor (result : Except PerturbationError SensorApplication) (packet : SimSensorPacket)
  | actuator (result : Except PerturbationError ActuatorApplication) (command : SimActuatorCmd)
  | send (result : Except PerturbationError Unit)

/-- Why a call was refused. -/
def Answer.refusal : Answer → Option PerturbationError
  | .sensor (.error e) _ | .actuator (.error e) _ | .send (.error e) => some e
  | _ => none

def machine : Machine PerturbationEngine Call Answer where
  step
    | self, .applySensor sequence packet =>
      let (result, packet, self) := self.applySensor sequence packet
      (self, .sensor result packet)
    | self, .applyActuator sequence command eligibility mask =>
      let (result, command, self) := self.applyActuator sequence command eligibility mask
      (self, .actuator result command)
    | self, .completeActuatorSend sequence succeeded =>
      let (result, self) := self.completeActuatorSend sequence succeeded
      (self, .send result)

end Calls

end PerturbationEngine

end Aviate.Perturbation
