import Aviate.Model

/-!
# Ground reset erases history

After a ground reset nothing tells what happened before it.

Results:
1. No operation changes what construction fixes about the checks (`after_config`).
2. A ground reset that is not refused gives the state of a fresh kernel that is loading
   its configuration (`groundReset_eq_fresh`), for every pipeline whose resets restore
   the power-on values.
3. For the filter and the multirotor cascade any two runs are indistinguishable after a
   ground reset (`groundReset_erases_history`).
-/

namespace Aviate

variable {F E R : Type}

/-! ## The configuration of the checks -/

/-- What construction fixes about the checks. -/
structure ChecksConfig (F : Type) where
  preArm : PreArmFlags
  minRequired : UInt32
  inFlight : InFlightFlags
  transition : TransitionFlags
  limits : TransitionLimits F

namespace KernelChecks

def config (c : KernelChecks F) : ChecksConfig F where
  preArm := c.preArm.required
  minRequired := c.preArm.samples.minRequired
  inFlight := c.inFlight.required
  transition := c.transition.required
  limits := c.transition.limits

/-- Checks with this configuration that have seen nothing. -/
def fresh (c : ChecksConfig F) : KernelChecks F where
  preArm := ⟨c.preArm, .empty, ⟨0, 0, 0, 0, c.minRequired⟩⟩
  inFlight := ⟨c.inFlight, .empty⟩
  transition := ⟨c.transition, .empty, c.limits⟩

/-- `with_pre_arm_required`. -/
def withPreArmRequired [Scalar F] (required : PreArmFlags) : KernelChecks F :=
  { new with preArm := .withRequired required }

/-- The constructors of the source build checks that have seen nothing. -/
theorem fresh_config_withPreArmRequired [Scalar F] (required : PreArmFlags) :
    fresh (withPreArmRequired required : KernelChecks F).config = withPreArmRequired required := rfl

/-- The resets of the three categories keep the configuration and nothing else. -/
theorem reset_eq_fresh (c : KernelChecks F) :
    KernelChecks.mk c.preArm.reset c.inFlight.reset c.transition.reset = fresh c.config := rfl

end KernelChecks

namespace AviateKernel

variable [Scalar F] [Libm F] (k : AviateKernel F E R) (s : KernelState F E R)

omit [Scalar F] [Libm F] in
/-- An initialization step keeps the configuration of the checks. -/
theorem initStep_config (sensors : SensorSet F) :
    (k.initStep s sensors).1.checks.config = s.checks.config := by
  have hevaluate : (k.evaluatePreArm s sensors).checks.config = s.checks.config := rfl
  show (advanceInit (k.evaluatePreArm s sensors)).checks.config = _
  rw [← hevaluate]
  generalize k.evaluatePreArm s sensors = t
  unfold advanceInit
  cases t.initState with
  | sensorInit => simp only; split <;> rfl
  | estimatorConverging => simp only; split <;> rfl
  | preArm => simp only; split <;> rfl
  | ready => simp only; split <;> rfl
  | _ => rfl

/-- A cycle keeps it. -/
theorem update_config (inp : UpdateInput F) :
    (k.update s inp).1.checks.config = s.checks.config := by
  rcases k.update_cases s inp with ⟨sequence, -, heq⟩ | ⟨command, e, -, -, heq⟩ |
      ⟨command, -, -, -, heq⟩ | ⟨command, -, -, -, heq⟩ <;> rw [heq]
  · rfl
  · rfl
  · rcases k.checkCriticalFaults_cases (sensed s inp) with ⟨-, hcheck⟩ | ⟨-, c, hcheck⟩ <;>
      rw [hcheck] <;> rfl
  · obtain ⟨c, hdecided⟩ := k.decided_eq (sensed s inp) inp command
    have hframe := k.flightOutput_frame (k.decided (sensed s inp) inp command).1 inp command
      (cycleTimestamp inp) (k.observed (sensed s inp) inp command)
      (k.decided (sensed s inp) inp command).2
    rw [armedCycle_eq, KernelChecks.config, hframe.preArm, hframe.required, hframe.transition,
      hdecided]
    rfl

/-- No operation changes the configuration of the checks. -/
theorem step_config (op : KernelOp F E) : (k.step s op).1.checks.config = s.checks.config := by
  cases op with
  | initStep sensors => exact k.initStep_config s sensors
  | update inp => exact k.update_config s inp
  | updateThrottle throttleLow => rfl
  | arm =>
    rcases k.arm_cases s with ⟨e, heq⟩ | ⟨-, -, heq⟩ <;> simp only [step, heq] <;> rfl
  | disarm =>
    rcases k.disarm_cases s with ⟨-, heq⟩ | ⟨-, heq⟩ <;> simp only [step, heq] <;> rfl
  | terminate => rfl
  | handleDegradation reason timestamp =>
    obtain ⟨c, heq⟩ := k.handleDegradation_eq s reason timestamp
    simp only [step, Prod.map_fst, heq]
    rfl
  | resetFromFault =>
    rcases resetFromFault_cases s with ⟨-, e, heq⟩ | ⟨-, heq⟩ <;> simp only [step, heq] <;> rfl
  | groundReset =>
    simp only [step, groundReset]
    split <;> rfl
  | requestConfigMode toMode =>
    obtain ⟨current, mode, heq⟩ := k.requestConfigMode_eq s toMode
    simp only [step, Prod.map_fst, heq]
    rfl
  | reportTimingViolation violation => cases violation <;> rfl
  | checkCriticalFaults =>
    rcases k.checkCriticalFaults_cases s with ⟨-, heq⟩ | ⟨-, c, heq⟩
    all_goals
      simp only [step, heq]
      rfl
  | injectFault fault => rfl
  | writeEstimator estimator => rfl

/-- Nor does a run. -/
theorem after_config (checks : KernelChecks F) (ops : List (KernelOp F E)) :
    (k.after checks ops).checks.config = checks.config :=
  Machine.run_invariant (I := fun s => s.checks.config = checks.config)
    (fun s op hs => (k.step_config s op).trans hs) rfl

/-! ## The state after a ground reset -/

omit [Libm F] in
/-- A ground reset that is not refused gives a fresh state that is loading its
configuration. -/
theorem groundReset_eq_fresh (hrestores : k.pipeline.Restores) (hnot : s.initState ≠ .armed) :
    k.groundReset s =
      { KernelState.new k (.fresh s.checks.config) with initState := .configLoading } := by
  unfold groundReset
  rw [if_neg (by simpa using hnot), KernelChecks.reset_eq_fresh, hrestores.estimator,
    hrestores.controller]
  rfl

/-- A kernel that flies the filter and the multirotor cascade. -/
def multirotorKernel
    (observe : EkfState F → SensorSet F → Option SensorOverrides → F → EkfState F)
    (estimate : EkfState F → StateEstimate F) (supportsMode : ControlMode → Bool)
    (stepWithObservation : StepWithObservation F (MultirotorRuntimeState F)) (mixer : Mixer F)
    (sanitizer : ActuatorSanitizer F) (cfg : ResolvedKernelConfig F) :
    AviateKernel F (EkfState F) (MultirotorRuntimeState F) where
  pipeline :=
    ⟨ekf observe estimate, multirotorController supportsMode stepWithObservation, mixer, sanitizer⟩
  cfg := cfg

section Multirotor

variable (observe : EkfState F → SensorSet F → Option SensorOverrides → F → EkfState F)
  (estimate : EkfState F → StateEstimate F) (supportsMode : ControlMode → Bool)
  (stepWithObservation : StepWithObservation F (MultirotorRuntimeState F)) (mixer : Mixer F)
  (sanitizer : ActuatorSanitizer F) (cfg : ResolvedKernelConfig F)

/-- Whatever two kernels of one configuration went through, a ground reset that is not
refused leaves them in the same state, that of a fresh kernel loading its configuration; an
armed kernel refuses it and stays as it is. -/
theorem groundReset_erases_history (checks₁ checks₂ : KernelChecks F)
    (hconfig : checks₁.config = checks₂.config)
    (ops₁ ops₂ : List (KernelOp F (EkfState F))) :
    let k := multirotorKernel observe estimate supportsMode stepWithObservation mixer sanitizer cfg
    let s₁ := k.after checks₁ ops₁
    let s₂ := k.after checks₂ ops₂
    (s₁.initState ≠ .armed → s₂.initState ≠ .armed → k.groundReset s₁ = k.groundReset s₂) ∧
    (s₁.initState ≠ .armed → k.groundReset s₁ =
      { KernelState.new k (.fresh checks₁.config) with initState := .configLoading }) ∧
    (s₁.initState = .armed → k.groundReset s₁ = s₁) := by
  intro k s₁ s₂
  have hrestores : k.pipeline.Restores :=
    multirotor_restores observe estimate supportsMode mixer sanitizer stepWithObservation
  have hfresh : ∀ checks ops, (k.after checks ops).initState ≠ .armed →
      k.groundReset (k.after checks ops) =
        { KernelState.new k (.fresh checks.config) with initState := .configLoading } := by
    intro checks ops hnot
    rw [k.groundReset_eq_fresh _ hrestores hnot, k.after_config]
  refine ⟨fun h₁ h₂ => ?_, fun h₁ => hfresh _ _ h₁, fun harmed => k.groundReset_of_armed _ harmed⟩
  rw [hfresh _ _ h₁, hfresh _ _ h₂, hconfig]

end Multirotor

/-- A multirotor that keeps a level estimate and whose cascade counts its cycles in the
integrator. -/
def levelMultirotor :
    AviateKernel (ExactFloat ℚ) (EkfState (ExactFloat ℚ)) (MultirotorRuntimeState (ExactFloat ℚ)) :=
  multirotorKernel (fun e _ _ _ => e) (fun _ => levelEstimate 0 .full) (fun _ => true)
    (fun r _ command _ _ _ =>
      ({ r with dtSec := r.dtSec + lit 1 },
        ⟨⟨lit 0, lit 0, lit 0, command.setpoint.collectiveThrust⟩, .default⟩))
    collectiveMixer groupSanitizer (defaultConfig 0)

/-- A flight: start up, arm, fly one cycle, disarm. -/
def shortFlight : List (KernelOp (ExactFloat ℚ) (EkfState (ExactFloat ℚ))) :=
  KernelOp.updateThrottle true :: List.replicate 105 (.initStep healthySensors) ++
    [KernelOp.arm, .update (cycleInput healthySensors (collectiveCommand .attitude (1 / 2)) 0),
     .disarm]

theorem groundReset_erases_flight :
    levelMultirotor.groundReset (levelMultirotor.after .new shortFlight) =
      levelMultirotor.groundReset (levelMultirotor.after .new []) :=
  (groundReset_erases_history (fun e _ _ _ => e) (fun _ => levelEstimate 0 .full) (fun _ => true)
    (fun r _ command _ _ _ =>
      ({ r with dtSec := r.dtSec + lit 1 },
        ⟨⟨lit 0, lit 0, lit 0, command.setpoint.collectiveThrust⟩, .default⟩))
    collectiveMixer groupSanitizer (defaultConfig 0) .new .new rfl shortFlight []).1
    (show (levelMultirotor.after .new shortFlight).initState ≠ .armed by decide +kernel)
    (show (levelMultirotor.after .new []).initState ≠ .armed by decide +kernel)

end AviateKernel

end Aviate
