import Aviate.Model

/-!
# Arming and the faults that refuse it

Results:
1. A fault bit that a degradation latches survives every operation but a ground reset,
   and refuses every arm (`latched_fault_survives`).
2. `Ready` certifies the latest evaluation of every required check but the throttle
   (`ready_certifies`). The throttle is written behind its back, so arming meets every
   requirement exactly when the throttle does (`arm_meets_requirements_iff`).
-/

namespace Aviate

variable {F E R : Type}

namespace AviateKernel

/-! ## Latched faults -/

section LatchedFaults

variable {g : FaultFlags} {s : KernelState F E R}

/-- Bits outside the sensor faults survive the update of the sensor faults. -/
theorem sensed_contains (inp : UpdateInput F) (hg : g.intersects sensorFaults = false)
    (hs : s.faults.contains g = true) : (sensed s inp).faults.contains g = true := by
  have hdisjoint {f : FaultFlags} (hf : sensorFaults.contains f = true) :
      g.intersects f = false := by
    rw [← Bool.not_eq_true, FlagSet.intersects_iff] at hg ⊢
    rintro ⟨i, hig, hif⟩
    exact hg ⟨i, hig, FlagSet.contains_iff.mp hf i hif⟩
  have himu := FlagSet.contains_set_of_disjoint (v := !anyGood inp.sensors.imus)
    (hdisjoint (f := FaultFlags.allImuFailed) (by decide)) hs
  have hbaro := FlagSet.contains_set_of_disjoint (v := !anyGood inp.sensors.baros)
    (hdisjoint (f := FaultFlags.baroFailed) (by decide)) himu
  have hmag := FlagSet.contains_set_of_disjoint (v := !anyGood inp.sensors.mags)
    (hdisjoint (f := FaultFlags.magFailed) (by decide)) hbaro
  exact FlagSet.contains_set_of_disjoint (hdisjoint (f := FaultFlags.allGnssLost) (by decide)) hmag

variable [Scalar F] [Libm F] (k : AviateKernel F E R)

theorem update_contains (inp : UpdateInput F) (hg : g.intersects sensorFaults = false)
    (hs : s.faults.contains g = true) : (k.update s inp).1.faults.contains g = true := by
  have hsensed : (sensed s inp).faults.contains g = true := sensed_contains inp hg hs
  rcases k.update_cases s inp with ⟨sequence, -, heq⟩ | ⟨command, e, -, -, heq⟩ |
      ⟨command, -, -, hcritical, heq⟩ | ⟨command, -, harmed, -, heq⟩ <;> rw [heq]
  · exact FlagSet.contains_insert hs
  · exact hsensed
  · rcases k.checkCriticalFaults_cases (sensed s inp) with ⟨-, hcheck⟩ | ⟨-, c, hcheck⟩
    · rw [hcheck]
      exact hsensed
    · rw [hcheck]
      exact hsensed
  · obtain ⟨c, hdecided⟩ := k.decided_eq (sensed s inp) inp command
    rw [armedCycle_eq, (k.flightOutput_frame _ _ _ _ _ _).faults, hdecided]
    cases degradationReason (k.monitored (sensed s inp) inp command) with
    | none => exact hsensed
    | some reason =>
      rw [FlagSet.contains_iff] at hsensed ⊢
      exact fun i hi => FaultFlags.mem_latch (hsensed i hi)

/-- Every operation but a ground reset keeps the bits that do not follow live sensor
health. -/
theorem step_contains {op : KernelOp F E} (hg : g.intersects sensorFaults = false)
    (hop : op ≠ .groundReset) (hs : s.faults.contains g = true) :
    (k.step s op).1.faults.contains g = true := by
  by_cases hupdate : ∃ inp, op = .update inp
  · obtain ⟨inp, rfl⟩ := hupdate
    exact k.update_contains inp hg hs
  · have hframe := k.step_frame s (fun inp h => hupdate ⟨inp, h⟩) hop
    rw [FlagSet.contains_iff] at hs ⊢
    exact fun i hi => hframe.faults i (hs i hi)

/-- Once the fault a degradation latches is set, it stays set through every operation but
a ground reset, and every arm until then is refused and leaves the state as it is. -/
theorem latched_fault_survives {reason : DegradationReason} {fault : FaultFlags}
    (hlatched : reason.latchedFault = some fault) (checks : KernelChecks F)
    (ops₁ ops₂ : List (KernelOp F E)) (hset : (k.after checks ops₁).faults.contains fault = true)
    (hops : ∀ op ∈ ops₂, op ≠ .groundReset) :
    (k.after checks (ops₁ ++ ops₂)).faults.contains fault = true ∧
      ∃ e, k.arm (k.after checks (ops₁ ++ ops₂)) = (k.after checks (ops₁ ++ ops₂), .error e) := by
  obtain ⟨hdisjoint, i, hi⟩ := latchedFault_disjoint hlatched
  have hkept : (k.after checks (ops₁ ++ ops₂)).faults.contains fault = true := by
    rw [after, Machine.run_append]
    refine Machine.run_invariant_of_guard
      (I := fun s : KernelState F E R => s.faults.contains fault = true)
      (G := fun e : Event F E R => e.op ≠ .groundReset)
      (fun s op hs hop => k.step_contains hdisjoint hop hs) hset fun e he => ?_
    obtain ⟨front, op, back, rfl, rfl⟩ := Machine.mem_trace.mp he
    exact hops op (by simp)
  exact ⟨hkept, k.arm_of_faulted _ (FlagSet.not_isEmpty_of_contains hkept hi)⟩

/-- Arm, climb, and lose the position. -/
def positionLossRun : List (KernelOp (ExactFloat ℚ) (StateEstimate (ExactFloat ℚ))) :=
  startup (levelEstimate 0 .full) ++
    [KernelOp.arm, .writeEstimator (levelEstimate 10 .full),
     cycle healthySensors (collectiveCommand .attitude (1 / 2)) 0,
     .writeEstimator (levelEstimate 10 StateValidFlags.attitude),
     cycle healthySensors (collectiveCommand .attitude (1 / 2)) 0]

/-- Recover the position, land, disarm, and initialize again. -/
def landedRun : List (KernelOp (ExactFloat ℚ) (StateEstimate (ExactFloat ℚ))) :=
  KernelOp.writeEstimator (levelEstimate 0 .full) ::
    List.replicate 50 (cycle healthySensors (collectiveCommand .attitude 0) 0) ++
      KernelOp.disarm :: List.replicate 105 (.initStep healthySensors)

/-- Losing the position in flight refuses the next arm: the flight ends, the estimate
recovers and the kernel initializes again, but stays faulted. -/
theorem latched_fault_survives_disarm :
    ((fixedKernel 0).after positionChecks positionLossRun).initState = .armed ∧
      ((fixedKernel 0).after positionChecks positionLossRun).flightPhase.isAirborne = true ∧
      ((fixedKernel 0).after positionChecks (positionLossRun ++ landedRun)).initState = .preArm ∧
      ∃ e, (fixedKernel 0).arm
          ((fixedKernel 0).after positionChecks (positionLossRun ++ landedRun)) =
        ((fixedKernel 0).after positionChecks (positionLossRun ++ landedRun), .error e) := by
  have hlatched : DegradationReason.positionLost.latchedFault = some FaultFlags.positionLost := rfl
  have hset : ((fixedKernel 0).after positionChecks positionLossRun).faults.contains
      FaultFlags.positionLost = true := by
    decide +kernel
  have hops : ∀ op ∈ landedRun, op ≠ .groundReset := by
    intro op hop
    simp only [landedRun, List.mem_append, List.mem_cons, List.mem_replicate] at hop
    rcases hop with (rfl | ⟨-, rfl⟩) | rfl | ⟨-, rfl⟩
    all_goals exact nofun
  exact ⟨by decide +kernel, by decide +kernel, by decide +kernel,
    ((fixedKernel 0).latched_fault_survives hlatched positionChecks positionLossRun landedRun
      hset hops).2⟩

end LatchedFaults

/-! ## What arming certifies -/

section Certificate

/-- The inputs the pre-arm checks were last given: the flags of the last evaluation by
`init_step`, and the throttle last reported. -/
structure ArmInputs where
  evaluated : PreArmFlags
  throttleLow : Bool

/-- The pre-arm flags these inputs imply. -/
def ArmInputs.implied (c : ArmInputs) : PreArmFlags :=
  c.evaluated.set PreArmFlags.throttleLow c.throttleLow

/-- Keep the latest inputs. -/
def ArmInputs.note (c : ArmInputs) (e : Event F E R) : ArmInputs :=
  match e.op with
  | .initStep _ => { c with evaluated := e.post.checks.preArm.current }
  | .updateThrottle throttleLow => { c with throttleLow := throttleLow }
  | _ => c

/-- A ready kernel's last evaluation meets every requirement but the throttle. -/
def ReadyCertified (s : KernelState F E R) (c : ArmInputs) : Prop :=
  s.initState = .ready → ∀ i ∈ s.checks.preArm.required, i ∉ PreArmFlags.throttleLow →
    i ∈ c.evaluated

variable [Scalar F] [Libm F] (k : AviateKernel F E R)

/-- The latest inputs after a sequence of operations. Before any report the throttle is
as the checks start with. -/
def armInputs (checks : KernelChecks F) (ops : List (KernelOp F E)) : ArmInputs :=
  k.machine.history ArmInputs.note
    ⟨checks.preArm.current, checks.preArm.current.contains PreArmFlags.throttleLow⟩
    (KernelState.new k checks) ops

theorem update_preArm (s : KernelState F E R) (inp : UpdateInput F) :
    (k.update s inp).1.checks.preArm = s.checks.preArm := by
  rcases k.update_cases s inp with ⟨sequence, -, heq⟩ | ⟨command, e, -, -, heq⟩ |
      ⟨command, -, -, hcritical, heq⟩ | ⟨command, -, harmed, -, heq⟩ <;> rw [heq]
  · rfl
  · rfl
  · rcases k.checkCriticalFaults_cases (sensed s inp) with ⟨-, hcheck⟩ | ⟨-, c, hcheck⟩ <;>
      rw [hcheck] <;> rfl
  · obtain ⟨c, hdecided⟩ := k.decided_eq (sensed s inp) inp command
    rw [armedCycle_eq, (k.flightOutput_frame _ _ _ _ _ _).preArm, hdecided]
    rfl

/-- No operation changes what is required. -/
theorem step_required (s : KernelState F E R) (op : KernelOp F E) :
    (k.step s op).1.checks.preArm.required = s.checks.preArm.required := by
  by_cases hupdate : ∃ inp, op = .update inp
  · obtain ⟨inp, rfl⟩ := hupdate
    exact congrArg PreArmStatus.required (k.update_preArm s inp)
  · by_cases hground : op = .groundReset
    · subst hground
      simp only [step, groundReset]
      split <;> rfl
    · exact (k.step_frame s (fun inp h => hupdate ⟨inp, h⟩) hground).required

/-- Only an initialization step makes a kernel ready. -/
theorem ready_of_step_ready {s : KernelState F E R} {op : KernelOp F E}
    (hop : ∀ sensors, op ≠ .initStep sensors) (h : (k.step s op).1.initState = .ready) :
    s.initState = .ready := by
  by_contra hs
  refine k.lifecycleRefinement.step_invariant (I := fun a => a.initState ≠ .ready)
    (G := fun x => x ≠ .advance) (fun a x b hstep hx ha => ?_) ?_ hs h
  · cases hstep with
    | advance hedge => exact absurd rfl hx
    | _ => first | exact ha | exact nofun
  · rintro x hmakes rfl
    obtain ⟨sensors, rfl⟩ := KernelOp.makes_advance hmakes
    exact hop sensors rfl

/-- Every operation keeps the certificate. -/
theorem readyCertified_step {s : KernelState F E R} {op : KernelOp F E} {c : ArmInputs}
    (hs : ReadyCertified s c) :
    ReadyCertified (k.step s op).1 (c.note (k.machine.event s op)) := by
  intro hready i hi hthrottle
  by_cases hop : ∃ sensors, op = .initStep sensors
  · obtain ⟨sensors, rfl⟩ := hop
    obtain ⟨preArm, j, heq, -, -, hsatisfied⟩ := advanceInit_spec (k.evaluatePreArm s sensors)
    have hpost : (k.step s (.initStep sensors)).1 =
        { (k.evaluatePreArm s sensors).setPreArm preArm with initState := j } := heq
    rw [hpost] at hready hi
    obtain ⟨-, hcontains⟩ := hsatisfied hready
    show i ∈ (k.step s (.initStep sensors)).1.checks.preArm.current
    rw [hpost]
    exact FlagSet.contains_iff.mp hcontains i hi
  · have hother : ∀ sensors, op ≠ .initStep sensors := fun sensors h => hop ⟨sensors, h⟩
    have hnote : (c.note (k.machine.event s op)).evaluated = c.evaluated := by
      cases op <;> first | rfl | exact absurd rfl (hother _)
    rw [hnote]
    rw [k.step_required s op] at hi
    exact hs (k.ready_of_step_ready hother hready) i hi hthrottle

/-- `Ready` certifies the latest evaluation of every required check but the throttle. -/
theorem ready_certifies (checks : KernelChecks F) (ops : List (KernelOp F E)) :
    ReadyCertified (k.after checks ops) (k.armInputs checks ops) :=
  Machine.history_invariant (R := ReadyCertified) (G := fun _ => True)
    (fun _ _ _ hs _ => k.readyCertified_step hs) nofun (fun _ _ => trivial)

/-- An arm that succeeds after any operations finds the fault register empty and every
required flag implied by the latest inputs, exactly when the throttle last reported to a
ready kernel without faults is low or is not required to be. -/
theorem arm_meets_requirements_iff (checks : KernelChecks F) (ops : List (KernelOp F E)) :
    ((k.arm (k.after checks ops)).2 = .ok () →
        (k.after checks ops).faults.isEmpty = true ∧
          (k.armInputs checks ops).implied.contains
            (k.after checks ops).checks.preArm.required = true) ↔
      ((k.after checks ops).initState = .ready → (k.after checks ops).faults.isEmpty = true →
        (k.after checks ops).checks.preArm.required.contains PreArmFlags.throttleLow = true →
        (k.armInputs checks ops).throttleLow = true) := by
  rw [arm_ok_iff]
  constructor
  · intro hmeets hready hempty hrequired
    obtain ⟨-, himplied⟩ := hmeets ⟨hready, hempty⟩
    have hlow := FlagSet.contains_trans himplied hrequired
    rwa [ArmInputs.implied, PreArmFlags.throttleLow,
      FlagSet.contains_set_flag_self (by decide)] at hlow
  · rintro hlow ⟨hready, hempty⟩
    refine ⟨hempty, FlagSet.contains_iff.mpr fun i hi => ?_⟩
    rw [ArmInputs.implied, FlagSet.mem_set]
    by_cases hthrottle : i ∈ PreArmFlags.throttleLow
    · have hrequired : (k.after checks ops).checks.preArm.required.contains
          PreArmFlags.throttleLow = true := by
        obtain ⟨rfl, -⟩ := FlagSet.mem_flag.mp hthrottle
        exact (FlagSet.contains_flag (by decide)).mpr hi
      rw [hlow hready hempty hrequired]
      exact .inr hthrottle
    -- Every other check still is as the evaluation that granted `Ready` left it.
    · have hevaluated := k.ready_certifies checks ops hready i hi hthrottle
      split
      · exact .inl hevaluated
      · exact ⟨hevaluated, hthrottle⟩

/-- Raise the throttle once the kernel is ready. -/
def raisedThrottleRun : List (KernelOp (ExactFloat ℚ) (StateEstimate (ExactFloat ℚ))) :=
  startup (levelEstimate 0 .full) ++ [KernelOp.updateThrottle false]

/-- The arm succeeds on a raised throttle although the default checks require it low. -/
theorem arms_on_raised_throttle :
    ((fixedKernel 0).arm ((fixedKernel 0).after .new raisedThrottleRun)).2 = .ok () ∧
      ((fixedKernel 0).armInputs .new raisedThrottleRun).implied.contains
        ((fixedKernel 0).after .new raisedThrottleRun).checks.preArm.required = false := by
  refine ⟨?_, by decide +kernel⟩
  rw [arm_ok_iff]
  decide +kernel

end Certificate

end AviateKernel

end Aviate
