import Aviate.Model

/-!
# The fault state

What couples the fault state to the flight phase, and which operations leave it.

Results:
1. The airborne latch is confined to armed and faulted kernels exactly when no fault
   reset of the run succeeds while airborne (`coherent_iff_no_airborne_reset`). The
   kernel does not guard the reset against that: it leaves an airborne kernel in
   `PreArm` (`airborne_reset_incoherent`).
2. A run leaves the fault state only through an explicit reset exactly when it ends
   no flight period there (`fault_left_explicitly_iff`). Neither `disarm` nor
   `terminate` looks at the fault state, and initialization proceeds from where they
   leave it (`terminate_leaves_fault`).
-/

namespace Aviate

variable {F E R : Type}

namespace AviateKernel

/-! ## Coherence -/

section Runs

variable [Scalar F] [Libm F] (k : AviateKernel F E R)

/-- An operation keeps the airborne latch confined, unless it is a fault reset in the
air. -/
theorem grounded_step {s : KernelState F E R} {op : KernelOp F E}
    (hop : op = .resetFromFault → canResetFromFault s = true → s.flightPhase.isAirborne = false)
    (hs : s.lifecycle.Grounded) : (k.step s op).1.lifecycle.Grounded := by
  by_cases hreset : op = .resetFromFault
  · subst hreset
    rcases resetFromFault_cases s with ⟨-, e, heq⟩ | ⟨hcan, heq⟩
    · simp only [step, heq]
      exact hs
    -- The reset leaves the fault state and keeps the airborne latch.
    · have hground := hop rfl hcan
      intro hairborne
      simp only [step, heq] at hairborne
      exact absurd (hground.symm.trans hairborne) (by decide)
  · refine k.lifecycleRefinement.step_invariant (I := Lifecycle.Grounded)
      (G := fun x => x ≠ .leaveFault) (fun a x b hstep hx ha => ha.step hstep hx) ?_ hs
    rintro x hmakes rfl
    exact hreset (KernelOp.makes_leaveFault hmakes)

/-- In every state a run passes through, a terminal cause is recorded exactly under the
direct law, a faulted or disarmed kernel is under the backup law, and only an armed or
faulted kernel is airborne; all of this exactly when no fault reset of the run succeeds
while airborne. -/
theorem coherent_iff_no_airborne_reset (checks : KernelChecks F) (ops : List (KernelOp F E)) :
    (∀ s, k.machine.Visits (KernelState.new k checks) ops s → s.lifecycle.Coherent) ↔
      ∀ e ∈ k.events checks ops, e.op = .resetFromFault → canResetFromFault e.pre = true →
        e.pre.flightPhase.isAirborne = false := by
  constructor
  · intro hcoherent e he hop hcan
    obtain ⟨ops₁, op, ops₂, rfl, rfl⟩ := Machine.mem_trace.mp he
    subst hop
    have hpost := (hcoherent _ (Machine.visits_iff.mpr (.inr ⟨_, he, rfl⟩))).grounded
    rcases resetFromFault_cases (k.machine.run (KernelState.new k checks) ops₁) with
      ⟨hnot, -⟩ | ⟨-, heq⟩
    · exact absurd (hnot.symm.trans hcan) (by decide)
    · by_contra hairborne
      rw [Bool.not_eq_false] at hairborne
      simp only [Machine.event, machine_step, step, heq, Lifecycle.Grounded] at hpost
      have hinit := hpost hairborne
      simp [KernelState.lifecycle] at hinit
  · intro hresets s hvisits
    have hnew : (KernelState.new k checks).lifecycle.Grounded := by
      intro hairborne
      cases hairborne
    have hground : s.lifecycle.Grounded :=
      Machine.visits_invariant_of_guard
        (I := fun s : KernelState F E R => s.lifecycle.Grounded)
        (G := fun e : Event F E R => e.op = .resetFromFault → canResetFromFault e.pre = true →
          e.pre.flightPhase.isAirborne = false)
        (fun s op hs hop => k.grounded_step hop hs) hnew hresets hvisits
    obtain ⟨ops₁, ops₂, -, rfl⟩ := hvisits
    exact ⟨k.terminal_after checks ops₁, hground⟩

/-- A run that resets the fault state in the air: climb, lose every IMU, recover them,
and reset. -/
def airborneResetRun : List (KernelOp (ExactFloat ℚ) (StateEstimate (ExactFloat ℚ))) :=
  startup (levelEstimate 0 .full) ++
    [KernelOp.arm, .writeEstimator (levelEstimate 10 .full),
     cycle healthySensors (collectiveCommand .attitude (1 / 2)) 0,
     cycle deadSensors (collectiveCommand .attitude (1 / 2)) 0,
     cycle healthySensors (collectiveCommand .attitude 0) 0,
     .initStep healthySensors, .resetFromFault]

/-- The reset leaves the kernel airborne in `PreArm`. -/
theorem airborne_reset_incoherent :
    ∃ s, (fixedKernel 0).machine.Visits (KernelState.new (fixedKernel 0) .new)
      airborneResetRun s ∧ ¬ s.lifecycle.Coherent := by
  refine ⟨_, Machine.visits_self, fun hcoherent => ?_⟩
  have hend : ((fixedKernel 0).after .new airborneResetRun).lifecycle =
      ⟨.preArm, .backup, .none, true⟩ := by decide +kernel
  have hground := hcoherent.grounded
  rw [show ((fixedKernel 0).machine.run _ airborneResetRun).lifecycle = _ from hend] at hground
  exact absurd (hground rfl) (by decide)

/-! ## Leaving the fault state -/

/-- A fault reset that succeeds, with the three guards of its documentation. -/
def GuardedReset (e : Event F E R) : Prop :=
  e.op = .resetFromFault ∧ e.out = .reset (.ok ()) ∧
    e.pre.faults.intersects criticalFaults = false ∧
    e.pre.checks.preArm.current.contains PreArmFlags.imuHealthy = true ∧
    e.pre.checks.preArm.current.contains PreArmFlags.throttleLow = true

theorem guardedReset_event {s : KernelState F E R} (hcan : canResetFromFault s = true) :
    GuardedReset (k.machine.event s .resetFromFault) := by
  obtain ⟨-, hcritical, himu, hthrottle⟩ := (canResetFromFault_iff s).mp hcan
  rcases resetFromFault_cases s with ⟨hnot, -⟩ | ⟨-, heq⟩
  · exact absurd (hnot.symm.trans hcan) (by decide)
  · refine ⟨rfl, ?_, hcritical, himu, hthrottle⟩
    simp only [Machine.event, machine_step, step, heq, Prod.map_snd]

theorem endsFlightPeriod_initState {s : KernelState F E R} {op : KernelOp F E}
    (h : EndsFlightPeriod s op) : (k.step s op).1.initState = .disarmed := by
  rcases h with rfl | ⟨rfl, hlanded⟩
  · rfl
  · simp only [step, disarm, hlanded]
    rfl

/-- Wherever a run goes from the fault state to another one, it does so through a fault
reset with its guards or through a ground reset; this holds exactly of the runs in which
no flight period is ended in the fault state. -/
theorem fault_left_explicitly_iff (checks : KernelChecks F) (ops : List (KernelOp F E)) :
    (∀ ops₁ ops₂ ops₃, ops = ops₁ ++ ops₂ ++ ops₃ →
        (k.after checks ops₁).initState = .fault →
        (k.after checks (ops₁ ++ ops₂)).initState ≠ .fault →
        ∃ e ∈ k.machine.trace (k.after checks ops₁) ops₂, GuardedReset e ∨ e.op = .groundReset) ↔
      ∀ e ∈ k.events checks ops, e.pre.initState = .fault → ¬ EndsFlightPeriod e.pre e.op := by
  constructor
  · intro hexplicit e he hfault hends
    obtain ⟨ops₁, op, ops₃, rfl, rfl⟩ := Machine.mem_trace.mp he
    have hleft : (k.after checks (ops₁ ++ [op])).initState = .disarmed := by
      rw [after, Machine.run_append]
      exact k.endsFlightPeriod_initState hends
    -- The operation that ended the flight period is itself a way out of the fault state.
    obtain ⟨e', he', hexit⟩ := hexplicit ops₁ [op] ops₃ (by simp) hfault (by rw [hleft]; decide)
    obtain rfl : e' = _ := List.mem_singleton.mp he'
    rcases hends with rfl | ⟨rfl, -⟩
    · rcases hexit with ⟨hop, -⟩ | hop <;> cases hop
    · rcases hexit with ⟨hop, -⟩ | hop <;> cases hop
  -- Without either reset and without the end of a flight period the fault state persists.
  · rintro hends ops₁ ops₂ ops₃ rfl hfault hleft
    by_contra hno
    push Not at hno
    refine hleft ?_
    rw [after, Machine.run_append]
    refine Machine.run_invariant_of_guard (I := fun s : KernelState F E R => s.initState = .fault)
      (G := fun e : Event F E R => (¬ GuardedReset e ∧ e.op ≠ .groundReset) ∧
        (e.pre.initState = .fault → ¬ EndsFlightPeriod e.pre e.op))
      (fun s op hs hG => ?_) hfault fun e he => ⟨hno e he, hends e ?_⟩
    · refine k.flight_step_invariant (I := fun a => a.initState = .fault)
        (fun a x b hstep hx ha => Lifecycle.faulted_step hstep hx ha) ?_ hs
      rintro (hperiod | ⟨hground, -⟩ | ⟨rfl, hcan⟩)
      · exact hG.2 hs hperiod
      · exact hG.1.2 hground
      · exact hG.1.1 (k.guardedReset_event hcan)
    · rw [events, Machine.trace_append, Machine.trace_append]
      exact List.mem_append_left _ (List.mem_append_right _ he)

/-- A run that ends the flight period in the fault state: lose every IMU in flight,
terminate, and initialize again with every IMU still lost. -/
def terminatedFaultRun : List (KernelOp (ExactFloat ℚ) (StateEstimate (ExactFloat ℚ))) :=
  [KernelOp.terminate, .initStep deadSensors]

/-- The operations before it, up to the fault. -/
def imuLossRun : List (KernelOp (ExactFloat ℚ) (StateEstimate (ExactFloat ℚ))) :=
  startup (levelEstimate 0 .full) ++
    [KernelOp.arm, cycle deadSensors (collectiveCommand .attitude (1 / 2)) 0]

/-- The kernel reaches `PreArm` from the fault state without either reset, while the
critical fault that caused it is still set. -/
theorem terminate_leaves_fault :
    ((fixedKernel 0).after .new imuLossRun).initState = .fault ∧
      ((fixedKernel 0).after .new (imuLossRun ++ terminatedFaultRun)).initState = .preArm ∧
      ((fixedKernel 0).after .new (imuLossRun ++ terminatedFaultRun)).faults.intersects
        criticalFaults = true ∧
      ∀ e ∈ (fixedKernel 0).machine.trace ((fixedKernel 0).after .new imuLossRun)
        terminatedFaultRun, ¬ (GuardedReset e ∨ e.op = .groundReset) := by
  refine ⟨by decide +kernel, by decide +kernel, by decide +kernel, ?_⟩
  intro e he hexit
  simp only [terminatedFaultRun, Machine.trace_cons, Machine.trace_nil, List.mem_cons,
    List.not_mem_nil, or_false] at he
  rcases he with rfl | rfl
  · rcases hexit with ⟨hop, -⟩ | hop <;> cases hop
  · rcases hexit with ⟨hop, -⟩ | hop <;> cases hop

end Runs

end AviateKernel

end Aviate
