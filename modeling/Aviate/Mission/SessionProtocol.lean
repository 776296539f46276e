import Mathlib.Data.List.Forall2
import Mathlib.Tactic.FinCases
import Aviate.Model

/-!
# The session protocol of the mission runner

What a backend sees of a run: which directives reach it and in which generation, and which of its
frames the runner traces. A property of a run is one of its log; each entry is judged by the
entries before it.

Results:
1. In every run, whatever the backend does, setpoints are sent only while an arm is acknowledged,
   each directive carries the generation last acknowledged, and accepted frames belong to it and
   advance. A mission passes only with the results of all its phases and an acknowledged stop
   (`runWithPreparation_outcome`).
2. The rest of the protocol takes two more things of the backend: a start leads to an initial
   frame, and no frame that a phase accepts is invalid (`sessionProtocol_of_good`).
3. The checks of a phase do not look at the vehicle (`inspect_vehicle`). Without a first frame, a
   run returns with the simulator started and no stop sent (`unstopped_run`).
-/

namespace Aviate.Missions

variable {F σ : Type}

/-! ## The protocol -/

namespace Event

/-- The generation last acknowledged, after one more event. -/
def acknowledge (generation : ResetGeneration) : Event F → ResetGeneration
  | connected (.ok known) => known.generation
  | directive d (.ok receipt) => if d.Acknowledged receipt then receipt.generation else generation
  | _ => generation

/-- Whether an arm is acknowledged and no disarm since, after one more event. -/
def arming (armed : Bool) : Event F → Bool
  | directive d (.ok receipt) =>
    if d.Acknowledged receipt then
      match d.kind.operation with
      | .arm => true
      | .disarm => false
      | _ => armed
    else armed
  | _ => armed

end Event

def acknowledgedGeneration (log : List (Event F)) : ResetGeneration :=
  log.foldl Event.acknowledge .initial

def armAcknowledged (log : List (Event F)) : Bool := log.foldl Event.arming false

/-- The frame is later than all frames accepted before. -/
def Advances (past : List (Event F)) (frame : SimulatorFrame F) : Prop :=
  ∀ earlier, Event.accepted earlier ∈ past →
    earlier.step < frame.step ∧ earlier.simulationTime < frame.simulationTime

section

variable [Scalar F]

/-- What a phase is reported passed for: it ended on a frame at least its duration after its
start, on which all its criteria pass. -/
def Completed [TotalCmp F] [Libm F] (log : List (Event F)) (phase : Phase F)
    (result : PhaseResult F) : Prop :=
  ∃ past status during frame future, ∃ (self : MissionRunner F) (progress : Progress F),
    log = past ++ Event.status status :: during ++
      [Event.accepted frame, .sampled (frame.sample status.simulationTime)] ++ future ∧
    (∀ status, Event.status status ∉ during) ∧
    status.simulationTime + phase.duration ≤ frame.simulationTime ∧
    self.lastStep = frame.step ∧ self.currentState = frame.vehicle ∧
    progress.samples.getLast? = some (frame.sample status.simulationTime) ∧
    self.verdicts phase progress = .ok result.criteriaResults ∧
    ∀ verdict ∈ result.criteriaResults, verdict.passed = true

/-- The session protocol, for a run of a mission with its log and what it returns. -/
structure SessionProtocol [TotalCmp F] [Libm F] (mission : Mission F) (log : List (Event F))
    (returned : Except AccessFault (MissionResult F)) : Prop where
  setpoint : ∀ past d answer future, log = past ++ Event.directive d answer :: future →
    d.kind.operation = .setpoint → armAcknowledged past = true
  generation : ∀ past d answer future, log = past ++ Event.directive d answer :: future →
    d.generation = acknowledgedGeneration past
  sample : ∀ past sample future, log = past ++ Event.sampled sample :: future →
    ∃ before frame start, past = before ++ [Event.accepted frame] ∧ sample = frame.sample start ∧
      frame.generation = acknowledgedGeneration before ∧ Advances before frame ∧
      frame.vehicle.valid = true
  reported : ∀ result, returned = .ok result →
    ∀ phase ∈ result.phases, ∀ sample ∈ phase.samples, Event.sampled sample ∈ log
  passed : ∀ result, returned = .ok result → result.passed = true →
    List.Forall₂ (Completed log) mission.phases result.phases ∧
      ∃ d receipt, Event.directive d (.ok receipt) ∈ log ∧ d.kind.operation = .stop ∧
        d.Acknowledged receipt
  stopped : ∀ result, returned = .ok result →
    ∀ past d receipt future, log = past ++ Event.directive d (.ok receipt) :: future →
      d.kind.operation = .start → d.Acknowledged receipt →
      ∃ d' answer, Event.directive d' answer ∈ future ∧ d'.kind.operation = .stop

end

/-- What the protocol takes of the backend. A look at the initial deadline finds time left, and
the request that follows is answered by a frame of the session: a valid one that is ready, or one
that is not ready yet. A frame that a phase would accept is valid and, for a phase without
duration, not earlier than the start of the phase. -/
def Event.Good : Event F → Prop
  | initialDeadline remaining => remaining ≠ 0
  | frame .initial self answer => ∃ frame, answer = .ok (.frame frame) ∧
      frame.generation = self.generation ∧
      (frame.lifecycle = .resetting ∨ frame.lifecycle = .converging ∨
        frame.lifecycle = .ready ∧ frame.vehicle.valid = true)
  | frame (.phase phase start) self answer => ∀ frame, answer = .ok (.frame frame) →
      frame.generation = self.generation →
      (self.inspect frame phase.action.isDisarm).1 = none →
      frame.vehicle.valid = true ∧ (phase.duration = 0 → start ≤ frame.simulationTime)
  | _ => True

instance : (event : Event F) → Decidable event.Good
  | .initialDeadline remaining => inferInstanceAs (Decidable (remaining ≠ 0))
  | .frame .initial self (.ok (.frame frame)) =>
    decidable_of_iff (frame.generation = self.generation ∧
      (frame.lifecycle = .resetting ∨ frame.lifecycle = .converging ∨
        frame.lifecycle = .ready ∧ frame.vehicle.valid = true)) (by simp [Event.Good])
  | .frame .initial _ (.ok (.timedOut _ _ _)) => isFalse nofun
  | .frame .initial _ (.error _) => isFalse nofun
  | .frame (.phase phase start) self (.ok (.frame frame)) =>
    decidable_of_iff (frame.generation = self.generation →
      (self.inspect frame phase.action.isDisarm).1 = none →
      frame.vehicle.valid = true ∧ (phase.duration = 0 → start ≤ frame.simulationTime))
      (by simp [Event.Good])
  | .frame (.phase _ _) _ (.ok (.timedOut _ _ _)) => isTrue nofun
  | .frame (.phase _ _) _ (.error _) => isTrue nofun
  | .frame .readiness _ _ | .connected _ | .status _ | .directive _ _ | .accepted _
  | .sampled _ => isTrue trivial

/-! ## What every log keeps -/

variable {log : List (Event F)} {event : Event F} {self : MissionRunner F}

@[simp] theorem acknowledgedGeneration_concat :
    acknowledgedGeneration (log ++ [event]) = event.acknowledge (acknowledgedGeneration log) := by
  simp [acknowledgedGeneration]

@[simp] theorem armAcknowledged_concat :
    armAcknowledged (log ++ [event]) = event.arming (armAcknowledged log) := by
  simp [armAcknowledged]

/-- A frame that was requested for the start, or for a phase that it passes the checks of. -/
def Requested (past : List (Event F)) (frame : SimulatorFrame F) : Prop :=
  ∃ before purpose self, past = before ++ [Event.frame purpose self (.ok (.frame frame))] ∧
    match purpose with
    | .initial => frame.vehicle.valid = true
    | .phase phase _ => frame.generation = self.generation ∧
        (self.inspect frame phase.action.isDisarm).1 = none
    | .readiness => False

theorem Requested.valid {past : List (Event F)} {frame : SimulatorFrame F}
    (h : Requested past frame) (hgood : ∀ event ∈ past, event.Good) :
    frame.vehicle.valid = true := by
  obtain ⟨before, purpose, self, rfl, hpurpose⟩ := h
  cases purpose with
  | initial => exact hpurpose
  | readiness => exact hpurpose.elim
  | phase phase start =>
    have hframe : (Event.frame (.phase phase start) self (.ok (.frame frame))).Good :=
      hgood _ (by simp)
    exact (hframe frame rfl hpurpose.1 hpurpose.2).1

/-- What an event may be after a past. -/
def Allowed [Scalar F] (past : List (Event F)) : Event F → Prop
  | .directive d _ => d.generation = acknowledgedGeneration past ∧
      (d.kind.operation = .setpoint → armAcknowledged past = true)
  | .accepted frame => frame.generation = acknowledgedGeneration past ∧ Advances past frame ∧
      Requested past frame
  | .sampled sample => ∃ before frame start, past = before ++ [Event.accepted frame] ∧
      sample = frame.sample start
  | _ => True

/-- A directive other than a reset acknowledges the generation it carries. -/
theorem acknowledge_directive {kind : SimulatorDirectiveKind F}
    {answer : Except SimulatorError DirectiveReceipt} (hkind : kind.operation ≠ .reset) :
    (Event.directive (self.directive kind) answer).acknowledge self.generation =
      self.generation := by
  cases answer with
  | error e => rfl
  | ok receipt =>
    simp only [Event.acknowledge]
    split_ifs with hack
    · exact hack.2.1.trans (if_neg hkind)
    · rfl

/-- A directive that is not acknowledged changes nothing. -/
theorem acknowledge_refused {d : SimulatorDirective F} {generation : ResetGeneration}
    {answer : Except SimulatorError DirectiveReceipt}
    (hnot : ∀ receipt, answer = .ok receipt → ¬ d.Acknowledged receipt) :
    (Event.directive d answer).acknowledge generation = generation := by
  cases answer with
  | error e => rfl
  | ok receipt => exact if_neg (hnot receipt rfl)

/-- The arm state changes with arm and disarm only. -/
theorem arming_directive (d : SimulatorDirective F) {armed : Bool}
    {answer : Except SimulatorError DirectiveReceipt} (harm : d.kind.operation ≠ .arm)
    (hdisarm : d.kind.operation ≠ .disarm) :
    (Event.directive d answer).arming armed = armed := by
  cases answer with
  | error e => rfl
  | ok receipt =>
    simp only [Event.arming]
    split_ifs with hack
    · cases hkind : d.kind with
      | arm => exact absurd (congrArg SimulatorDirectiveKind.operation hkind) harm
      | disarm => exact absurd (congrArg SimulatorDirectiveKind.operation hkind) hdisarm
      | start => rfl
      | stop => rfl
      | reset => rfl
      | checkArmReadiness => rfl
      | setpoint command => rfl
    · rfl

/-- The log grew by entries other than a status. -/
def Grown (base log : List (Event F)) : Prop :=
  ∃ during, log = base ++ during ∧ ∀ status, Event.status status ∉ during

theorem Grown.refl (base : List (Event F)) : Grown base base :=
  ⟨[], (List.append_nil base).symm, fun _ h => nomatch h⟩

theorem Grown.trans {base middle : List (Event F)} (h : Grown base middle)
    (h' : Grown middle log) : Grown base log := by
  obtain ⟨first, rfl, hfirst⟩ := h
  obtain ⟨second, rfl, hsecond⟩ := h'
  refine ⟨first ++ second, List.append_assoc _ _ _, fun status hmem => ?_⟩
  exact (List.mem_append.mp hmem).elim (hfirst status) (hsecond status)

theorem Grown.starts {base : List (Event F)} (h : Grown base log) : base <+: log := by
  obtain ⟨during, rfl, -⟩ := h
  exact List.prefix_append _ _

theorem Grown.mem {base : List (Event F)} (h : Grown base log) (hmem : event ∈ base) :
    event ∈ log :=
  h.starts.subset hmem

theorem Grown.concat {base : List (Event F)} (h : Grown base log)
    (hevent : ∀ status, event ≠ .status status) : Grown base (log ++ [event]) := by
  obtain ⟨during, rfl, hduring⟩ := h
  refine ⟨during ++ [event], List.append_assoc _ _ _, fun status hmem => ?_⟩
  rw [List.mem_append, List.mem_singleton] at hmem
  exact hmem.elim (hduring status) fun heq => hevent status heq.symm

section

variable [Scalar F]

/-- The runner knows the generation of its log, and the log is lawful. -/
structure Halted (runner : MissionRunner F) (log : List (Event F)) : Prop where
  lawful : Lawful Allowed log
  generation : runner.generation = acknowledgedGeneration log

/-- The runner also knows the arm state, and the last accepted frame. -/
structure Synced (runner : MissionRunner F) (log : List (Event F)) : Prop extends
    Halted runner log where
  armed : runner.armed = armAcknowledged log
  behind : ∀ frame, Event.accepted frame ∈ log →
    frame.step ≤ runner.lastStep ∧ frame.simulationTime ≤ runner.lastSimulationTime

variable {self' : MissionRunner F}

/-- An entry that is not an accepted frame keeps the runner in step with its log. -/
theorem Synced.concat (h : Synced self log) (hallowed : Allowed log event)
    (hgeneration : self'.generation = event.acknowledge self.generation)
    (harmed : self'.armed = event.arming self.armed)
    (hlast : self'.lastStep = self.lastStep ∧ self'.lastSimulationTime = self.lastSimulationTime)
    (hevent : ∀ frame, event ≠ .accepted frame) : Synced self' (log ++ [event]) where
  lawful := lawful_concat.mpr ⟨h.lawful, hallowed⟩
  generation := by rw [acknowledgedGeneration_concat, hgeneration, h.generation]
  armed := by rw [armAcknowledged_concat, harmed, h.armed]
  behind frame hframe := by
    rw [List.mem_append, List.mem_singleton] at hframe
    rw [hlast.1, hlast.2]
    exact h.behind frame (hframe.resolve_right fun heq => hevent frame heq.symm)

/-- A request of a frame keeps the runner in step, whatever answers it. -/
theorem Synced.frame (h : Synced self log) (purpose : FramePurpose F)
    (answer : Except SimulatorError (FrameEvent F)) :
    Synced self (log ++ [Event.frame purpose self answer]) :=
  h.concat trivial rfl rfl ⟨rfl, rfl⟩ nofun

/-- A directive that the runner may send is allowed. -/
theorem Synced.allowed_directive (h : Synced self log) (kind : SimulatorDirectiveKind F)
    (answer : Except SimulatorError DirectiveReceipt)
    (harmed : kind.operation = .setpoint → self.armed = true) :
    Allowed log (.directive (self.directive kind) answer) :=
  ⟨h.generation, fun hkind => h.armed ▸ harmed hkind⟩

/-- Sending a directive other than a reset keeps the runner in step. -/
theorem Synced.directive (h : Synced self log) (kind : SimulatorDirectiveKind F)
    (answer : Except SimulatorError DirectiveReceipt) (hkind : kind.operation ≠ .reset)
    (hallowed : kind.operation = .setpoint → self.armed = true)
    (hrunner : self'.generation = self.generation ∧ self'.lastStep = self.lastStep ∧
      self'.lastSimulationTime = self.lastSimulationTime)
    (harmed : self'.armed = (Event.directive (self.directive kind) answer).arming self.armed) :
    Synced self' (log ++ [Event.directive (self.directive kind) answer]) :=
  h.concat (h.allowed_directive kind answer hallowed)
    (hrunner.1.trans (acknowledge_directive hkind).symm) harmed hrunner.2 fun _ heq => nomatch heq

/-- A directive that is not acknowledged leaves the runner knowing the generation. -/
theorem Synced.refused (h : Synced self log) (kind : SimulatorDirectiveKind F)
    {answer : Except SimulatorError DirectiveReceipt}
    (hallowed : kind.operation = .setpoint → self.armed = true)
    (hnot : ∀ receipt, answer = .ok receipt → ¬ (self.directive kind).Acknowledged receipt) :
    Halted self.sent (log ++ [Event.directive (self.directive kind) answer]) where
  lawful := lawful_concat.mpr ⟨h.lawful, h.allowed_directive kind answer hallowed⟩
  generation := by
    rw [acknowledgedGeneration_concat, ← h.generation, acknowledge_refused hnot]
    rfl

/-- The actions of a phase keep the runner in step with its log. -/
theorem carries_synced (base : List (Event F)) :
    Carries (F := F) (fun self log => Synced self log ∧ Grown base log)
      fun self log => Halted self log ∧ Grown base log where
  failed _ _ h := ⟨h.1.toHalted, h.2⟩
  numbered _ _ _ h := ⟨⟨⟨h.1.lawful, h.1.generation⟩, h.1.armed, h.1.behind⟩, h.2⟩
  readiness _ _ answer h := ⟨h.1.frame .readiness answer, h.2.concat nofun⟩
  check self _ answer h :=
    ⟨h.1.directive .checkArmReadiness answer nofun nofun ⟨rfl, rfl, rfl⟩
      (arming_directive (self.directive .checkArmReadiness) nofun nofun).symm, h.2.concat nofun⟩
  arm _ _ receipt h hack :=
    ⟨h.1.directive .arm (.ok receipt) nofun nofun ⟨rfl, rfl, rfl⟩ (if_pos hack).symm,
      h.2.concat nofun⟩
  disarm _ _ receipt h hack :=
    ⟨h.1.directive .disarm (.ok receipt) nofun nofun ⟨rfl, rfl, rfl⟩ (if_pos hack).symm,
      h.2.concat nofun⟩
  setpoint self _ command receipt h harmed _ :=
    ⟨h.1.directive (.setpoint command) (.ok receipt) nofun (fun _ => harmed) ⟨rfl, rfl, rfl⟩
      (arming_directive (self.directive (.setpoint command)) nofun nofun).symm, h.2.concat nofun⟩
  refused _ _ kind _ h harmed hnot := ⟨h.1.refused kind harmed hnot, h.2.concat nofun⟩

/-! ## Phases -/

/-- Accepting a frame that advances keeps the runner in step. -/
theorem Synced.accept (h : Synced self log) {frame : SimulatorFrame F}
    (hgeneration : frame.generation = self.generation ∧ self'.generation = self.generation)
    (hadvances : Advances log frame) (hrequested : Requested log frame)
    (harmed : self'.armed = self.armed)
    (hlast : self'.lastStep = frame.step ∧ self'.lastSimulationTime = frame.simulationTime) :
    Synced self' (log ++ [Event.accepted frame]) where
  lawful := lawful_concat.mpr
    ⟨h.lawful, hgeneration.1.trans h.generation, hadvances, hrequested⟩
  generation := by
    rw [acknowledgedGeneration_concat, hgeneration.2, h.generation]
    rfl
  armed := by
    rw [armAcknowledged_concat, harmed, h.armed]
    rfl
  behind earlier hearlier := by
    rw [List.mem_append, List.mem_singleton] at hearlier
    rw [hlast.1, hlast.2]
    rcases hearlier with hpast | heq
    · have hlater := hadvances earlier hpast
      exact ⟨UInt64.le_of_lt hlater.1, hlater.2.le⟩
    · cases heq
      exact ⟨UInt64.le_refl _, le_rfl⟩

/-- A frame of the phase was requested and accepted, at the end of the log. -/
structure Flown (base : List (Event F)) (phase : Phase F) (start : Duration)
    (frame : SimulatorFrame F) (log : List (Event F)) : Prop where
  requested : ∃ before self, Grown base before ∧
    log = before ++ [Event.frame (.phase phase start) self (.ok (.frame frame))] ++
      [.accepted frame] ∧
    frame.generation = self.generation ∧
    (self.inspect frame phase.action.isDisarm).1 = none

variable {B : SimulatorBackend F σ} {phase : Phase F} {start : Duration}

theorem phaseRound_synced (phase : Phase F) (start : Duration) (base : List (Event F)) :
    Runs (fun self log => Synced self log ∧ Grown base log) (phaseRound B phase start)
      (fun frame self log => Synced self log ∧ self.lastStep = frame.step ∧
        Flown base phase start frame log)
      fun self log => Halted self log ∧ Grown base log := by
  refine ((carries_synced base).executeAction phase.action).bind fun _ => ?_
  refine Runs.bind (Q := fun frame self log => Synced self log ∧ ∃ before, Grown base before ∧
      log = before ++ [Event.frame (.phase phase start) self (.ok (.frame frame))] ∧
      frame.generation = self.generation) (.nextFrame ?_ ?_) fun frame => ?_
  · intro self log frame h hgeneration
    exact ⟨h.1.frame _ _, log, h.2, rfl, hgeneration⟩
  · intro self log answer h _
    exact ⟨(h.1.frame _ answer).toHalted, h.2.concat nofun⟩
  refine Runs.bind (.acceptPhaseFrame ?_ ?_) fun _ => .pure fun _ _ => id
  · rintro self log ⟨h, before, hgrown, rfl, hgeneration⟩ hpasses
    obtain ⟨hstep, htime, -, harmed⟩ := inspect_eq_none.mp hpasses
    refine ⟨h.accept ⟨hgeneration, rfl⟩ (fun earlier hearlier => ?_)
      ⟨before, .phase phase start, self, rfl, hgeneration, hpasses⟩ harmed ⟨rfl, rfl⟩, rfl,
      ⟨before, self, hgrown, rfl, hgeneration, hpasses⟩⟩
    have hbehind := h.behind earlier hearlier
    exact ⟨UInt64.lt_of_le_of_lt hbehind.1 hstep, hbehind.2.trans_lt htime⟩
  · rintro self log ⟨h, before, hgrown, rfl, hgeneration⟩
    exact ⟨⟨h.lawful, (inspect_snd self frame _).2.trans h.generation⟩, hgrown.concat nofun⟩

/-- Tracing the frame accepted last keeps the runner in step. -/
theorem Synced.sampled (frame : SimulatorFrame F) (start : Duration) {maxAltitude : F}
    {front : List (Event F)} (h : Synced self (front ++ [Event.accepted frame])) :
    Synced (self.traced frame maxAltitude)
      (front ++ [Event.accepted frame] ++ [Event.sampled (frame.sample start)]) :=
  h.concat ⟨front, frame, start, rfl, rfl⟩ rfl rfl ⟨rfl, rfl⟩ nofun

/-- The samples of a phase stay in the log when one more is traced. -/
theorem mem_record {progress : Progress F} {frame : SimulatorFrame F}
    (h : ∀ sample ∈ progress.samples, Event.sampled sample ∈ log) {sample : TraceSample F}
    (hsample : sample ∈ (progress.record frame start).samples) :
    Event.sampled sample ∈ log ++ [Event.sampled (frame.sample start)] := by
  rcases List.mem_append.mp hsample with hpast | hlast
  · exact List.mem_append_left _ (h sample hpast)
  · rw [List.mem_singleton.mp hlast]
    exact List.mem_append_right _ (List.mem_singleton_self _)

/-- The last frame of a phase, at the end of the log, and what the phase gathered. -/
structure Finished (base : List (Event F)) (phase : Phase F) (start : Duration)
    (progress : Progress F) (runner : MissionRunner F) (log : List (Event F)) where
  frame : SimulatorFrame F
  before : List (Event F)
  requester : MissionRunner F
  grown : Grown base before
  log_eq : log = before ++ [Event.frame (.phase phase start) requester (.ok (.frame frame))] ++
    [Event.accepted frame] ++ [Event.sampled (frame.sample start)]
  generation : frame.generation = requester.generation
  passes : (requester.inspect frame phase.action.isDisarm).1 = none
  elapsed : phase.duration ≤ frame.simulationTime - start
  step : runner.lastStep = frame.step
  state : runner.currentState = frame.vehicle
  last : progress.samples.getLast? = some (frame.sample start)

theorem Finished.starts {base : List (Event F)} {progress : Progress F}
    (h : Finished base phase start progress self log) : base <+: log := by
  obtain ⟨frame, before, requester, hgrown, rfl, -⟩ := h
  rw [List.append_assoc, List.append_assoc]
  exact hgrown.starts.trans (List.prefix_append _ _)

theorem phaseLoop_synced (phase : Phase F) (start : Duration) (base : List (Event F)) :
    Runs (fun self log => Synced self log ∧ Grown base log)
      (phaseLoop B phase start ⟨lit 0, []⟩)
      (fun progress self log => Synced self log ∧
        (∀ sample ∈ progress.samples, Event.sampled sample ∈ log) ∧
        Nonempty (Finished base phase start progress self log))
      fun self log => Halted self log ∧ Grown base log := by
  -- The samples gathered so far are in the log, and stay there.
  have hloop : Runs (fun self log => Synced self log ∧ Grown base log ∧
      ∀ sample ∈ (⟨lit 0, []⟩ : Progress F).samples, Event.sampled sample ∈ log)
      (phaseLoop B phase start ⟨lit 0, []⟩) _ _ :=
    Runs.phaseLoop
      (I := fun progress self log => Synced self log ∧ Grown base log ∧
        ∀ sample ∈ progress.samples, Event.sampled sample ∈ log)
      (M := fun progress frame self log => Synced self log ∧ self.lastStep = frame.step ∧
        Flown base phase start frame log ∧ ∀ sample ∈ progress.samples, Event.sampled sample ∈ log)
      (Q := fun progress self log => Synced self log ∧
        (∀ sample ∈ progress.samples, Event.sampled sample ∈ log) ∧
        Nonempty (Finished base phase start progress self log))
      (E := fun self log => Halted self log ∧ Grown base log)
      (fun progress s hs => ?_) (fun progress frame self log hM helapsed => ?_)
      (fun progress frame self log hM => ?_) ⟨lit 0, []⟩
  · exact hloop.imp (fun self log h => ⟨h.1, h.2, fun _ hsample => nomatch hsample⟩)
      (fun _ _ _ => id) fun _ _ => id
  · obtain ⟨hsynced, hgrown, hsamples⟩ := hs
    have hround := phaseRound_synced (B := B) phase start s.log s ⟨hsynced, Grown.refl _⟩
    refine ⟨fun frame t hrun => ?_, fun e t hrun => ?_⟩
    · obtain ⟨ht, hstep, ⟨before, requester, hbefore, hlog, hfresh⟩⟩ := hround.1 frame t hrun
      refine ⟨ht, hstep, ⟨before, requester, hgrown.trans hbefore, hlog, hfresh⟩, ?_⟩
      intro sample hsample
      rw [hlog, List.append_assoc]
      exact List.mem_append_left _ (hbefore.mem (hsamples sample hsample))
    · have hfailed := hround.2 e t hrun
      exact ⟨hfailed.1, hgrown.trans hfailed.2⟩
  · obtain ⟨hsynced, hstep, ⟨before, requester, hgrown, rfl, hgeneration, hpasses⟩, hsamples⟩ := hM
    refine ⟨hsynced.sampled frame start, fun sample hsample => ?_,
      ⟨⟨frame, before, requester, hgrown, rfl, hgeneration, hpasses, helapsed, hstep, rfl,
        List.getLast?_concat⟩⟩⟩
    exact mem_record hsamples hsample
  · obtain ⟨hsynced, hstep, ⟨before, requester, hgrown, rfl, hgeneration, hpasses⟩, hsamples⟩ := hM
    refine ⟨hsynced.sampled frame start, ?_, fun sample hsample => mem_record hsamples hsample⟩
    refine ((hgrown.concat ?_).concat ?_).concat ?_ <;> exact nofun

variable [TotalCmp F] [Libm F]

/-- A phase that lasted its duration ended that much after its start, also where the start lies
ahead of a phase without duration. -/
theorem duration_le {start duration time : ℕ} (helapsed : duration ≤ time - start)
    (hstart : duration = 0 → start ≤ time) : start + duration ≤ time := by
  rcases Nat.eq_zero_or_pos duration with rfl | hpos
  · exact hstart rfl
  · omega

/-- What the log of a run says about a phase with a result. -/
structure PhaseRun (log : List (Event F)) (phase : Phase F) (result : PhaseResult F) where
  past : List (Event F)
  status : BackendStatus
  during : List (Event F)
  requester : MissionRunner F
  frame : SimulatorFrame F
  future : List (Event F)
  runner : MissionRunner F
  progress : Progress F
  log_eq : log = past ++ Event.status status :: (during ++
    [Event.frame (.phase phase status.simulationTime) requester (.ok (.frame frame))] ++
    [Event.accepted frame] ++ [Event.sampled (frame.sample status.simulationTime)] ++ future)
  own : ∀ status, Event.status status ∉ during
  generation : frame.generation = requester.generation
  passes : (requester.inspect frame phase.action.isDisarm).1 = none
  elapsed : phase.duration ≤ frame.simulationTime - status.simulationTime
  step : runner.lastStep = frame.step
  state : runner.currentState = frame.vehicle
  last : progress.samples.getLast? = some (frame.sample status.simulationTime)
  verdicts : runner.verdicts phase progress = .ok result.criteriaResults
  samples : ∀ sample ∈ result.samples, Event.sampled sample ∈ log
  passed : result.passed = result.criteriaResults.all (·.passed)

/-- A phase stays as it was when the log goes on. -/
def PhaseRun.extend {phase : Phase F} {result : PhaseResult F} (run : PhaseRun log phase result)
    {longer : List (Event F)} (h : log <+: longer) : PhaseRun longer phase result :=
  { run with
    future := run.future ++ longer.drop log.length
    log_eq := by
      obtain ⟨more, rfl⟩ := h
      rw [List.drop_left]
      nth_rewrite 1 [run.log_eq]
      simp
    samples := fun sample hsample => h.subset (run.samples sample hsample) }

theorem runPhase_synced (base : List (Event F)) (phase : Phase F) :
    Runs (fun self log => Synced self log ∧ base <+: log) (runPhase B phase)
      (fun r self log => Halted self log ∧ base <+: log ∧ ∀ result, r = .ok result →
        Synced self log ∧ Nonempty (PhaseRun log phase result))
      fun self log => Halted self log ∧ base <+: log := by
  refine Runs.bind (Q := fun status self log => ∃ past, base <+: past ∧
    log = past ++ [Event.status status] ∧ Synced self log) (.callStatus ?_) fun status => ?_
  · rintro self log status ⟨h, hbase⟩
    exact ⟨log, hbase, rfl, h.concat trivial rfl rfl ⟨rfl, rfl⟩ nofun⟩
  refine Runs.bind (Q := fun progress self log => ∃ past, base <+: past ∧ Synced self log ∧
    (∀ sample ∈ progress.samples, Event.sampled sample ∈ log) ∧
    Nonempty (Finished (past ++ [Event.status status]) phase status.simulationTime progress self
      log))
    ?_ fun progress => ?_
  · rintro s ⟨past, hbase, hlog, h⟩
    have hloop := phaseLoop_synced (B := B) phase status.simulationTime s.log s ⟨h, Grown.refl _⟩
    rw [hlog] at hloop
    refine ⟨fun progress t hrun => ⟨past, hbase, hloop.1 progress t hrun⟩, fun e t hrun => ?_⟩
    obtain ⟨hhalted, hgrown⟩ := hloop.2 e t hrun
    exact ⟨hhalted, (hbase.trans (List.prefix_append _ _)).trans hgrown.starts⟩
  refine .getRunner fun self => ?_
  cases hverdicts : self.verdicts phase progress with
  | error fault =>
    refine .pure ?_
    rintro _ log ⟨rfl, past, hbase, h, -, ⟨finished⟩⟩
    refine ⟨h.toHalted, ?_, fun result hresult => nomatch hresult⟩
    exact (hbase.trans (List.prefix_append _ _)).trans finished.starts
  | ok criteriaResults =>
    refine Runs.bind (Q := fun last self' log => Synced self' log ∧ base <+: log ∧
      Nonempty (PhaseRun log phase {
        name := phase.name
        passed := criteriaResults.all (·.passed)
        durationActual := last.simulationTime - status.simulationTime
        maxAltitude := progress.maxAltitude
        finalPosition := self.currentState.position
        criteriaResults
        samples := progress.samples })) (.callStatus ?_) fun last => .pure ?_
    · rintro _ log last ⟨rfl, past, hbase, h, hsamples, ⟨finished⟩⟩
      refine ⟨h.concat trivial rfl rfl ⟨rfl, rfl⟩ nofun, ?_, ?_⟩
      · exact ((hbase.trans (List.prefix_append _ _)).trans finished.starts).trans
          (List.prefix_append _ _)
      · obtain ⟨frame, before, requester, ⟨during, rfl, hown⟩, rfl, hgeneration, hpasses, helapsed,
          hstep, hstate, hlast⟩ := finished
        exact ⟨⟨past, status, during, requester, frame, [.status last], _, progress, by simp, hown,
          hgeneration, hpasses, helapsed, hstep, hstate, hlast, hverdicts,
          fun sample hsample => List.mem_append_left _ (hsamples sample hsample), rfl⟩⟩
    · rintro self' log ⟨h, hlog, hrun⟩
      refine ⟨h.toHalted, hlog, fun result hresult => ⟨h, ?_⟩⟩
      cases hresult
      exact hrun

/-- Each result so far is that of a run of its phase. -/
def Results (log : List (Event F)) (phases : List (Phase F)) (results : List (PhaseResult F)) :
    Prop :=
  List.Forall₂ (fun phase result => Nonempty (PhaseRun log phase result)) phases results

theorem Results.extend {phases : List (Phase F)} {results : List (PhaseResult F)}
    {longer : List (Event F)} (h : Results log phases results) (hlog : log <+: longer) :
    Results longer phases results :=
  List.Forall₂.imp (fun _ _ ⟨run⟩ => ⟨run.extend hlog⟩) h

/-- Running the phases still to come: every result is that of a run of its phase, and all phases
have one if the mission passes. -/
theorem runPhases_synced (later done : List (Phase F))
    {results : List (PhaseResult F)} {passed : Bool}
    (hpassed : passed = true → ∀ result ∈ results, result.passed = true) :
    Runs (fun self log => Synced self log ∧ Results log done results)
      (runPhases B results passed later)
      (fun r self log => Halted self log ∧ ∀ results passed, r = .ok (results, passed) →
        (∃ run, Results log run results) ∧
        (passed = true → Results log (done ++ later) results ∧
          ∀ result ∈ results, result.passed = true))
      fun _ _ => False := by
  induction later generalizing done results passed with
  | nil =>
    refine .pure ?_
    rintro self log ⟨h, hresults⟩
    refine ⟨h.toHalted, fun results' passed' heq => ?_⟩
    cases heq
    rw [List.append_nil]
    exact ⟨⟨done, hresults⟩, fun hp => ⟨hresults, hpassed hp⟩⟩
  | cons phase later ih =>
    refine Runs.bind (Q := fun r self log => Halted self log ∧ Results log done results ∧
      ∀ result, r = .ok (.ok result) → Synced self log ∧ Nonempty (PhaseRun log phase result))
      ?_ fun r => ?_
    · rintro s ⟨h, hresults⟩
      have hphase := Runs.attempt (D := fun _ _ => False)
        (runPhase_synced (B := B) s.log phase) s ⟨h, List.prefix_rfl⟩
      refine ⟨fun r t hrun => ?_, hphase.2⟩
      have hafter := hphase.1 r t hrun
      cases r with
      | error e => exact ⟨hafter.1, hresults.extend hafter.2, fun _ heq => by cases heq⟩
      | ok r =>
        refine ⟨hafter.1, hresults.extend hafter.2.1, fun result heq => ?_⟩
        exact hafter.2.2 result (Except.ok.inj heq)
    · cases r with
      | error e =>
        refine .pure ?_
        rintro self log ⟨h, hresults, -⟩
        refine ⟨h, fun results' passed' heq => ?_⟩
        cases heq
        exact ⟨⟨done, hresults⟩, fun hp => absurd hp Bool.false_ne_true⟩
      | ok r =>
        cases r with
        | error fault =>
          refine .pure ?_
          rintro self log ⟨h, -, -⟩
          exact ⟨h, fun results' passed' heq => by cases heq⟩
        | ok result =>
          have hnext : (passed && result.passed) = true →
              ∀ r ∈ results ++ [result], r.passed = true := by
            intro hp r hr
            obtain ⟨hold, hnew⟩ := Bool.and_eq_true_iff.mp hp
            rcases List.mem_append.mp hr with hpast | hlast
            · exact hpassed hold r hpast
            · rw [List.mem_singleton.mp hlast]
              exact hnew
          refine (ih (done ++ [phase]) hnext).imp ?_ ?_ fun _ _ => id
          · rintro self log ⟨-, hresults, hresult⟩
            obtain ⟨h, hrun⟩ := hresult result rfl
            exact ⟨h, List.rel_append hresults (.cons hrun .nil)⟩
          · intro r self log h
            rw [List.append_assoc] at h
            exact h

end

/-! ## Start and stop -/

/-- A start was acknowledged. -/
def StartAcknowledged (log : List (Event F)) : Prop :=
  ∃ d receipt, Event.directive d (.ok receipt) ∈ log ∧ d.kind.operation = .start ∧
    d.Acknowledged receipt

theorem startAcknowledged_concat (h : StartAcknowledged (log ++ [event]))
    (hevent : ∀ d receipt, event = .directive d (.ok receipt) → d.kind.operation = .start →
      ¬ d.Acknowledged receipt) : StartAcknowledged log := by
  obtain ⟨d, receipt, hmem, hkind, hack⟩ := h
  rw [List.mem_append, List.mem_singleton] at hmem
  refine ⟨d, receipt, hmem.resolve_right fun heq => ?_, hkind, hack⟩
  exact hevent d receipt heq.symm hkind hack

/-- After each acknowledged start a stop is attempted. -/
def Stopped (log : List (Event F)) : Prop :=
  ∀ past d receipt future, log = past ++ Event.directive d (.ok receipt) :: future →
    d.kind.operation = .start → d.Acknowledged receipt →
    ∃ d' answer, Event.directive d' answer ∈ future ∧ d'.kind.operation = .stop

/-- A log that ends with a stop and a status attempts a stop after each start. -/
theorem stopped_concat {d : SimulatorDirective F}
    {answer : Except SimulatorError DirectiveReceipt} {status : BackendStatus}
    (hkind : d.kind.operation = .stop) :
    Stopped (log ++ [Event.directive d answer] ++ [Event.status status]) := by
  intro past start receipt future hlog hstart hack
  rcases concat_eq_append_cons hlog with ⟨-, hlast, -⟩ | ⟨front, rfl, hfront⟩
  · cases hlast
  rcases concat_eq_append_cons hfront with ⟨-, hlast, -⟩ | ⟨front, rfl, -⟩
  · cases hlast
    exact absurd (hstart.symm.trans hkind) nofun
  · exact ⟨d, answer, by simp, hkind⟩

section

variable [Scalar F]

/-- A session on the way to its first accepted frame. -/
structure Preparing (runner : MissionRunner F) (log : List (Event F)) : Prop where
  synced : Synced runner log
  disarmed : runner.armed = false
  fresh : ∀ frame, Event.accepted frame ∉ log

variable {B : SimulatorBackend F σ}

theorem Preparing.concat (h : Preparing self log) (hsynced : Synced self' (log ++ [event]))
    (hdisarmed : self'.armed = self.armed) (hevent : ∀ frame, event ≠ .accepted frame) :
    Preparing self' (log ++ [event]) := by
  refine ⟨hsynced, hdisarmed.trans h.disarmed, fun frame hmem => ?_⟩
  rw [List.mem_append, List.mem_singleton] at hmem
  exact hmem.elim (h.fresh frame) fun heq => hevent frame heq.symm

/-- The session starts, or fails before a start is acknowledged. -/
theorem startSession_preparing (timeout : Duration) (reset : Bool) :
    Runs (fun self log => Preparing self log ∧ ¬ StartAcknowledged log)
      (startSession B timeout reset) (fun _ => Preparing)
      fun _ log => Lawful Allowed log ∧ ¬ StartAcknowledged log := by
  refine Runs.bind (Q := fun status self log =>
    Preparing { self with generation := status.generation } log ∧ ¬ StartAcknowledged log)
    (.call ?_ ?_) fun status => ?_
  · rintro self log status ⟨h, hstart⟩
    have hsynced : Synced { self with generation := status.generation }
        (log ++ [Event.connected (.ok status)]) :=
      h.synced.concat trivial rfl rfl ⟨rfl, rfl⟩ nofun
    refine ⟨h.concat hsynced rfl nofun, fun hack => hstart ?_⟩
    exact startAcknowledged_concat hack fun _ _ heq => nomatch heq
  · rintro self log e ⟨h, hstart⟩
    refine ⟨lawful_concat.mpr ⟨h.synced.lawful, trivial⟩, fun hack => hstart ?_⟩
    exact startAcknowledged_concat hack fun _ _ heq => nomatch heq
  refine Runs.bind (Q := fun _ self log => Preparing self log ∧ ¬ StartAcknowledged log)
    (.update fun _ _ => id) fun _ => ?_
  refine Runs.bind (Q := fun _ self log => Preparing self log ∧ ¬ StartAcknowledged log)
    (.ite (fun _ => ?_) fun _ => .pure fun _ _ => id) fun _ => ?_
  · refine Runs.bind (Q := fun receipt self log =>
      Preparing { self with generation := receipt.generation } log ∧ ¬ StartAcknowledged log)
      (.executeDirective ?_ ?_) fun receipt => .update fun _ _ => id
    · rintro self log receipt ⟨h, hstart⟩ hack
      have hsynced : Synced { self.sent with generation := receipt.generation }
          (log ++ [Event.directive (self.directive .reset) (.ok receipt)]) :=
        h.synced.concat (h.synced.allowed_directive .reset (.ok receipt) nofun)
          (if_pos hack).symm (arming_directive (self.directive .reset) nofun nofun).symm
          ⟨rfl, rfl⟩ nofun
      refine ⟨h.concat hsynced rfl nofun, fun hack => ?_⟩
      refine hstart (startAcknowledged_concat hack fun d receipt heq hkind => ?_)
      cases heq
      cases hkind
    · rintro self log answer ⟨h, hstart⟩ hnot
      refine ⟨(h.synced.refused .reset nofun hnot).lawful, fun hack => ?_⟩
      refine hstart (startAcknowledged_concat hack fun d receipt heq hkind => ?_)
      cases heq
      cases hkind
  · refine Runs.bind (Q := fun _ => Preparing) (.executeDirective ?_ ?_)
      fun _ => .pure fun _ _ => id
    · rintro self log receipt ⟨h, -⟩ -
      exact h.concat (h.synced.directive .start (.ok receipt) nofun nofun ⟨rfl, rfl, rfl⟩
        (arming_directive (self.directive .start) nofun nofun).symm) rfl nofun
    · rintro self log answer ⟨h, hstart⟩ hnot
      refine ⟨(h.synced.refused .start nofun hnot).lawful, fun hack => ?_⟩
      refine hstart (startAcknowledged_concat hack fun d receipt heq _ => ?_)
      cases heq
      exact hnot receipt rfl

/-- The initial frame, at the end of the log. -/
def Initial (frame : SimulatorFrame F) (runner : MissionRunner F) (log : List (Event F)) : Prop :=
  Preparing runner log ∧ frame.generation = runner.generation ∧ Requested log frame

/-- Waiting for the initial frame finds one, or something that the protocol does not take. -/
theorem nextReadyFrame_preparing (timeout : Duration) :
    Runs Preparing (nextReadyFrame B timeout) Initial
      fun _ log => Lawful Allowed log ∧ ∃ event ∈ log, ¬ event.Good := by
  refine Runs.bind .setDeadline fun remaining => ?_
  have hmissed (self : MissionRunner F) (log : List (Event F)) (h : Preparing self log)
      (remaining : Duration) (hzero : remaining = 0) :
      Lawful Allowed (log ++ [Event.initialDeadline remaining]) ∧
        ∃ event ∈ log ++ [Event.initialDeadline remaining], ¬ event.Good :=
    ⟨lawful_concat.mpr ⟨h.synced.lawful, trivial⟩, .initialDeadline remaining, by simp,
      fun hgood => hgood hzero⟩
  induction remaining with
  | nil =>
    refine Runs.bind (Q := fun _ _ log => Lawful Allowed log ∧ ∃ event ∈ log, ¬ event.Good)
      (.note fun self log h => hmissed self log h 0 rfl) fun _ => ?_
    exact .getRunner fun _ => .throw fun _ _ h => h.2
  | cons remaining later ih =>
    refine Runs.bind (Q := fun _ self log => Preparing self log ∧
      (remaining = 0 → Lawful Allowed log ∧ ∃ event ∈ log, ¬ event.Good))
      (.note fun self log h => ⟨?_, hmissed self log h remaining⟩) fun _ => ?_
    · exact h.concat (h.synced.concat trivial rfl rfl ⟨rfl, rfl⟩ nofun) rfl nofun
    refine .ite (fun hzero => ?_) fun hleft => ?_
    · exact .getRunner fun _ => .throw fun _ _ h => h.2.2 hzero
    refine Runs.bind (Q := fun frame self log => ∃ before, Preparing self log ∧
      log = before ++ [Event.frame .initial self (.ok (.frame frame))] ∧
      frame.generation = self.generation) (.nextFrame ?_ ?_) fun frame => ?_
    · rintro self log frame ⟨h, -⟩ hgeneration
      exact ⟨log, h.concat (h.synced.frame _ _) rfl nofun, rfl, hgeneration⟩
    · rintro self log answer ⟨h, -⟩ hnot
      refine ⟨(h.synced.frame .initial answer).lawful, .frame .initial self answer, by simp, ?_⟩
      rintro ⟨frame, hanswer, hgeneration, -⟩
      exact hnot frame hanswer hgeneration
    have hbad (hnot : ¬ (frame.lifecycle = .resetting ∨ frame.lifecycle = .converging ∨
        frame.lifecycle = .ready ∧ frame.vehicle.valid = true)) (self : MissionRunner F)
        (log : List (Event F)) (h : ∃ before, Preparing self log ∧
          log = before ++ [Event.frame .initial self (.ok (.frame frame))] ∧
          frame.generation = self.generation) :
        Lawful Allowed log ∧ ∃ event ∈ log, ¬ event.Good := by
      obtain ⟨before, h, rfl, -⟩ := h
      refine ⟨h.synced.lawful, .frame .initial self (.ok (.frame frame)), by simp, ?_⟩
      rintro ⟨frame', hanswer, -, hlifecycle⟩
      cases hanswer
      exact hnot hlifecycle
    cases hlifecycle : frame.lifecycle with
    | ready =>
      refine .ite (fun hvalid => .pure ?_) fun hinvalid => .throw (hbad ?_)
      · rintro self log ⟨before, h, hlog, hgeneration⟩
        exact ⟨h, hgeneration, before, .initial, self, hlog, hvalid⟩
      · simp [hlifecycle, hinvalid]
    | resetting => exact ih.imp (fun _ _ ⟨_, h, _⟩ => h) (fun _ _ _ => id) fun _ _ => id
    | converging => exact ih.imp (fun _ _ ⟨_, h, _⟩ => h) (fun _ _ _ => id) fun _ _ => id
    | stopped => exact .throw (hbad (by simp [hlifecycle]))

/-- Preparation ends in step with the log. If it fails, no start was acknowledged, or the protocol
does not take what the backend did. -/
theorem prepareMission_synced (timeout : Duration) (reset : Bool) :
    Runs (fun self log => Preparing self log ∧ ¬ StartAcknowledged log)
      (prepareMission B timeout reset) (fun _ => Synced)
      fun _ log => Lawful Allowed log ∧
        (StartAcknowledged log → ∃ event ∈ log, ¬ event.Good) := by
  refine Runs.bind (Q := fun _ => Preparing) ?_ fun _ => ?_
  · refine (startSession_preparing timeout reset).imp (fun _ _ => id) (fun _ _ _ => id) ?_
    exact fun _ _ h => ⟨h.1, fun hstart => absurd hstart h.2⟩
  refine Runs.bind (Q := Initial) ?_ fun initial => ?_
  · exact (nextReadyFrame_preparing timeout).imp (fun _ _ => id) (fun _ _ _ => id)
      fun _ _ h => ⟨h.1, fun _ => h.2⟩
  refine Runs.bind (Q := fun _ => Synced) ?_ fun _ => .pure fun _ _ => id
  refine Runs.bind (Q := fun _ self log => ∃ self', Initial initial self' log ∧
    self.generation = self'.generation ∧ self.armed = false ∧ self.lastStep = initial.step ∧
    self.lastSimulationTime = initial.simulationTime)
    (.update fun self log h => ⟨self, h, rfl, rfl, rfl, rfl⟩) fun _ => .note ?_
  rintro self log ⟨self', ⟨h, hgeneration, hrequested⟩, hsame, harmed, hlast⟩
  exact h.synced.accept ⟨hgeneration, hsame⟩
    (fun earlier hearlier => absurd hearlier (h.fresh earlier)) hrequested
    (harmed.trans h.disarmed.symm) hlast

/-! ## Runs -/

variable [TotalCmp F] [Libm F]

/-- A stop was acknowledged. -/
def StopAcknowledged (log : List (Event F)) : Prop :=
  ∃ d receipt, Event.directive d (.ok receipt) ∈ log ∧ d.kind.operation = .stop ∧
    d.Acknowledged receipt

/-- What a run that returns a result guarantees, whatever the backend does. -/
structure Outcome (mission : Mission F) (log : List (Event F)) (result : MissionResult F) :
    Prop where
  reported : ∃ phases, Results log phases result.phases
  passed : result.passed = true → Results log mission.phases result.phases ∧
    (∀ phase ∈ result.phases, phase.passed = true) ∧ StopAcknowledged log
  stopped : (∀ event ∈ log, event.Good) → Stopped log

/-- The phases of a mission are done: their results, and that all passed if it is to pass. -/
def PhasesDone (mission : Mission F) (phases : List (PhaseResult F)) (passed : Bool)
    (log : List (Event F)) : Prop :=
  (∃ run, Results log run phases) ∧
    (passed = true → Results log mission.phases phases ∧
      ∀ phase ∈ phases, phase.passed = true)

theorem PhasesDone.extend {mission : Mission F} {phases : List (PhaseResult F)} {passed : Bool}
    {longer : List (Event F)} (h : PhasesDone mission phases passed log) (hlog : log <+: longer) :
    PhasesDone mission phases passed longer := by
  obtain ⟨⟨run, hrun⟩, hpassed⟩ := h
  exact ⟨⟨run, hrun.extend hlog⟩, fun hp => ⟨(hpassed hp).1.extend hlog, (hpassed hp).2⟩⟩

/-- A stop was sent at the end of the log, and acknowledged if the answer succeeded. -/
def StopSent (r : Except SimulatorError DirectiveReceipt) (log : List (Event F)) : Prop :=
  ∃ before d answer, log = before ++ [Event.directive d answer] ∧ d.kind.operation = .stop ∧
    ∀ receipt, r = .ok receipt → answer = .ok receipt ∧ d.Acknowledged receipt

theorem completeMission_outcome {mission : Mission F} {missionStart : Duration}
    {phases : List (PhaseResult F)} {passed : Bool} :
    Runs (fun self log => Halted self log ∧ PhasesDone mission phases passed log)
      (completeMission B mission missionStart phases passed)
      (fun result _ log => Lawful Allowed log ∧ Outcome mission log result)
      fun _ _ => False := by
  have hlawful {self : MissionRunner F} {log : List (Event F)} (h : Halted self log)
      (answer : Except SimulatorError DirectiveReceipt) :
      Lawful Allowed (log ++ [Event.directive (self.directive .stop) answer]) :=
    lawful_concat.mpr ⟨h.lawful, h.generation, nofun⟩
  have hexecute : Runs (fun self log => Halted self log ∧ PhasesDone mission phases passed log)
      (executeDirective B .stop (.fromSecs 10))
      (fun receipt _ log => Lawful Allowed log ∧ PhasesDone mission phases passed log ∧
        StopSent (.ok receipt) log)
      fun _ log => Lawful Allowed log ∧ PhasesDone mission phases passed log ∧
        ∀ e, StopSent (.error e) log := by
    refine .executeDirective ?_ ?_
    · rintro self log receipt ⟨h, hdone⟩ hack
      refine ⟨hlawful h _, hdone.extend (List.prefix_append _ _), log, _, _, rfl, rfl, ?_⟩
      intro receipt' heq
      cases heq
      exact ⟨rfl, hack⟩
    · rintro self log answer ⟨h, hdone⟩ -
      exact ⟨hlawful h _, hdone.extend (List.prefix_append _ _),
        fun e => ⟨log, _, _, rfl, rfl, fun receipt heq => nomatch heq⟩⟩
  refine Runs.bind (Q := fun r _ log => Lawful Allowed log ∧
    PhasesDone mission phases passed log ∧ StopSent r log) ?_ fun r => ?_
  · refine (Runs.attempt hexecute).imp (fun _ _ => id) (fun r self log h => ?_) fun _ _ => id
    cases r with
    | ok receipt => exact h
    | error e => exact ⟨h.1, h.2.1, h.2.2 e⟩
  refine Runs.bind (Q := fun _ _ log => Lawful Allowed log ∧
    PhasesDone mission phases passed log ∧ Stopped log ∧
    (succeeded r = true → StopAcknowledged log))
    (.callStatus ?_) fun status => .getRunner fun self => .pure ?_
  · rintro self log status ⟨hlog, hdone, before, d, answer, rfl, hkind, hanswer⟩
    refine ⟨lawful_concat.mpr ⟨hlog, trivial⟩, hdone.extend (List.prefix_append _ _),
      stopped_concat hkind, fun hr => ?_⟩
    cases r with
    | error e => cases hr
    | ok receipt =>
      obtain ⟨rfl, hack⟩ := hanswer receipt rfl
      exact ⟨d, receipt, by simp, hkind, hack⟩
  · rintro self' log ⟨-, hlog, ⟨hreported, hpassed⟩, hstopped, hack⟩
    refine ⟨hlog, hreported, fun hp => ?_, fun _ => hstopped⟩
    obtain ⟨hphases, hr⟩ := Bool.and_eq_true_iff.mp hp
    exact ⟨(hpassed hphases).1, (hpassed hphases).2, hack hr⟩

/-- In every run the log is lawful, and a result is one the log accounts for. -/
theorem runWithPreparation_outcome (mission : Mission F) (reset : Bool) :
    Runs (fun self log => Preparing self log ∧ ¬ StartAcknowledged log)
      (runWithPreparation B mission reset)
      (fun r _ log => Lawful Allowed log ∧ ∀ result, r = .ok result → Outcome mission log result)
      fun _ _ => False := by
  refine Runs.bind (Runs.attempt (prepareMission_synced _ reset)) fun r => ?_
  cases r with
  | error e =>
    refine .pure ?_
    rintro self log ⟨hlog, hstart⟩
    refine ⟨hlog, fun result heq => ?_⟩
    cases heq
    refine ⟨⟨[], .nil⟩, (fun hp => nomatch hp), ?_⟩
    intro hgood past d receipt future hsplit hkind hack
    obtain ⟨event, hmem, hbad⟩ := hstart ⟨d, receipt, by simp [hsplit], hkind, hack⟩
    exact absurd (hgood event hmem) hbad
  | ok missionStart =>
    have hnone : true = true → ∀ result ∈ ([] : List (PhaseResult F)), result.passed = true :=
      fun _ _ h => nomatch h
    refine Runs.bind ((runPhases_synced mission.phases [] hnone).imp
      (fun self log h => ⟨h, .nil⟩) (fun _ _ _ => id) fun _ _ => id) fun r => ?_
    cases r with
    | error fault =>
      exact .pure fun self log h => ⟨h.1.lawful, fun result heq => nomatch heq⟩
    | ok r =>
      refine Runs.bind (completeMission_outcome.imp ?_ (fun _ _ _ => id) fun _ _ => id)
        fun result => .pure ?_
      · rintro self log ⟨h, hdone⟩
        exact ⟨h, hdone r.1 r.2 rfl⟩
      · rintro self log ⟨hlog, houtcome⟩
        refine ⟨hlog, fun result' heq => ?_⟩
        cases heq
        exact houtcome

/-- A phase run on frames that the protocol takes completed the phase. -/
theorem PhaseRun.completed {phase : Phase F} {result : PhaseResult F}
    (run : PhaseRun log phase result) (hgood : ∀ event ∈ log, event.Good)
    (hpassed : result.passed = true) : Completed log phase result := by
  obtain ⟨past, status, during, requester, frame, future, runner, progress, hlog, hown,
    hgeneration, hpasses, helapsed, hstep, hstate, hlast, hverdicts, -, hall⟩ := run
  have hframe : (Event.frame (.phase phase status.simulationTime) requester
      (.ok (.frame frame))).Good := hgood _ (by simp [hlog])
  have hstart := (hframe frame rfl hgeneration hpasses).2
  refine ⟨past, status, during ++ [Event.frame (.phase phase status.simulationTime) requester
    (.ok (.frame frame))], frame, future, runner, progress, by simp [hlog], fun st hst => ?_,
    duration_le helapsed hstart, hstep, hstate, hlast, hverdicts, ?_⟩
  · rcases List.mem_append.mp hst with h | h
    · exact hown st h
    · exact nomatch List.mem_singleton.mp h
  · rw [hall] at hpassed
    exact List.all_eq_true.mp hpassed

theorem Results.exists_run {phases : List (Phase F)} {results : List (PhaseResult F)}
    (h : Results log phases results) {result : PhaseResult F} (hresult : result ∈ results) :
    ∃ phase, Nonempty (PhaseRun log phase result) := by
  induction h with
  | nil => cases hresult
  | cons hrun _ ih =>
    rcases List.mem_cons.mp hresult with rfl | hlater
    · exact ⟨_, hrun⟩
    · exact ih hlater

theorem Results.completed {phases : List (Phase F)} {results : List (PhaseResult F)}
    (h : Results log phases results) (hgood : ∀ event ∈ log, event.Good)
    (hpassed : ∀ result ∈ results, result.passed = true) :
    List.Forall₂ (Completed log) phases results := by
  induction h with
  | nil => exact .nil
  | cons hrun _ ih =>
    obtain ⟨hfirst, hlater⟩ := List.forall_mem_cons.mp hpassed
    obtain ⟨run⟩ := hrun
    exact .cons (run.completed hgood hfirst) (ih hlater)

theorem sessionProtocol_of_outcome {mission : Mission F}
    {returned : Except AccessFault (MissionResult F)} (hlawful : Lawful Allowed log)
    (houtcome : ∀ result, returned = .ok result → Outcome mission log result)
    (hgood : ∀ event ∈ log, event.Good) : SessionProtocol mission log returned where
  setpoint past d answer future hlog := (hlawful past _ future hlog).2
  generation past d answer future hlog := (hlawful past _ future hlog).1
  sample past sample future hlog := by
    obtain ⟨before, frame, start, rfl, hsample⟩ := hlawful past _ future hlog
    have haccepted : log = before ++ Event.accepted frame :: Event.sampled sample :: future := by
      simp [hlog]
    obtain ⟨hgeneration, hadvances, hrequested⟩ := hlawful before _ _ haccepted
    refine ⟨before, frame, start, rfl, hsample, hgeneration, hadvances, ?_⟩
    exact hrequested.valid fun event hevent => hgood event (by simp [haccepted, hevent])
  reported result hresult phase hphase sample hsample := by
    obtain ⟨phases, hresults⟩ := (houtcome result hresult).reported
    obtain ⟨_, ⟨run⟩⟩ := hresults.exists_run hphase
    exact run.samples sample hsample
  passed result hresult hp := by
    obtain ⟨hresults, hall, hstop⟩ := (houtcome result hresult).passed hp
    exact ⟨hresults.completed hgood hall, hstop⟩
  stopped result hresult := (houtcome result hresult).stopped hgood

/-- A run from a fresh runner returns, and keeps the session protocol if its log holds only what
the protocol takes of the backend. -/
theorem sessionProtocol_of_good (B : SimulatorBackend F σ) (backend : σ) (mission : Mission F)
    (reset : Bool) {answer : Except SimulatorError (Except AccessFault (MissionResult F))}
    {s : Session F σ}
    (hrun : (runWithPreparation B mission reset).exec (.fresh backend) = (answer, s))
    (hgood : ∀ event ∈ s.log, event.Good) :
    ∃ returned, answer = .ok returned ∧ SessionProtocol mission s.log returned := by
  have hfresh : Preparing (Session.fresh (F := F) backend).runner (Session.fresh backend).log ∧
      ¬ StartAcknowledged (Session.fresh (F := F) backend).log :=
    ⟨⟨⟨⟨lawful_nil, rfl⟩, rfl, fun _ h => nomatch h⟩, rfl, fun _ h => nomatch h⟩,
      fun ⟨_, _, h, _⟩ => nomatch h⟩
  have houtcome := runWithPreparation_outcome (B := B) mission reset (.fresh backend) hfresh
  cases answer with
  | error e => exact (houtcome.2 e s hrun).elim
  | ok returned =>
    obtain ⟨hlawful, hresult⟩ := houtcome.1 returned s hrun
    exact ⟨returned, rfl, sessionProtocol_of_outcome hlawful hresult hgood⟩

end

section

variable [Scalar F]

/-! ## A backend that keeps its word -/

/-- Acknowledges every directive, in the generation after a reset. -/
def acknowledgeAll (d : SimulatorDirective F) : Except SimulatorError DirectiveReceipt :=
  match expectedOutcome d.kind.operation with
  | some outcome => .ok ⟨d.id, d.expectedGeneration, 0, 0, outcome⟩
  | none => .error (.notAvailable d.kind.operation "")

/-- A simulator that takes a step of 100 ms for each frame. -/
structure SteppingSimulator where
  generation : ResetGeneration
  step : UInt64
  armed : Bool

namespace SteppingSimulator

def simulationTime (self : SteppingSimulator) : Duration := .fromMillis (100 * self.step.toNat)

def status (self : SteppingSimulator) : BackendStatus :=
  ⟨self.generation, .ready, self.step, self.simulationTime, self.armed⟩

def frame (self : SteppingSimulator) : SimulatorFrame F where
  generation := self.generation
  step := self.step
  simulationTime := self.simulationTime
  lifecycle := .ready
  vehicle := { VehicleState.default with valid := true }
  armed := self.armed

def execute (self : SteppingSimulator) : SimulatorOperation → SteppingSimulator
  | .reset => ⟨self.generation.next, 0, false⟩
  | .arm => { self with armed := true }
  | .disarm => { self with armed := false }
  | _ => self

def backend : SimulatorBackend F SteppingSimulator where
  instance' _ := 0
  connect self _ _ := (.ok self.status, self)
  status self := (self.status, self)
  execute self d _ := (acknowledgeAll d, self.execute d.kind.operation)
  nextFrame self _ :=
    let self := { self with step := self.step + 1 }
    (.ok (.frame self.frame), self)
  applyFault self _ := self
  deadline self timeout := ([timeout], self)

end SteppingSimulator

/-- Arm, then give half of the thrust for a while. -/
def hopMission : Mission F where
  name := "hop"
  description := ""
  vehicle := ⟨"x500", 0, .replicate 3 (lit 0), lit 0⟩
  lockstep := true
  phases := [⟨"arm", .fromMillis 50, .arm, [.armed true]⟩,
    ⟨"thrust", .fromMillis 150, .thrust (lit (1 / 2)), [.sensorDataReceived]⟩]
  resetBetweenRuns := true

end

/-- Its run from a fresh runner. -/
def hopRun : Except SimulatorError (Except AccessFault (MissionResult (ExactFloat ℚ))) ×
    Session (ExactFloat ℚ) SteppingSimulator :=
  (runWithPreparation SteppingSimulator.backend hopMission true).exec
    (.fresh ⟨.initial, 0, false⟩)

/-- The mission passes, and its setpoints are sent while armed. -/
theorem sessionProtocol_of_good_hop : ∃ result s, hopRun = (.ok (.ok result), s) ∧
    result.passed = true ∧ SessionProtocol hopMission s.log (.ok result) := by
  have hgood : ∀ event ∈ hopRun.2.log, event.Good := by decide +kernel
  have hpassed : (hopRun.1.toOption.bind Except.toOption).map MissionResult.passed = some true := by
    decide +kernel
  generalize hrun : hopRun = outcome at hgood hpassed
  obtain ⟨answer, s⟩ := outcome
  obtain ⟨returned, rfl, hprotocol⟩ := sessionProtocol_of_good SteppingSimulator.backend
    ⟨.initial, 0, false⟩ hopMission true hrun hgood
  cases returned with
  | error fault => cases hpassed
  | ok result => exact ⟨result, s, rfl, Option.some.inj hpassed, hprotocol⟩

section

variable [Scalar F]

/-! ## A backend that never sends a frame -/

/-- Acknowledges every directive and gives one answer to every frame request. -/
def steadyBackend (answer : FrameEvent F) : SimulatorBackend F Unit where
  instance' _ := 0
  connect _ _ _ := (.ok ⟨.initial, .ready, 0, 0, false⟩, ())
  status _ := (⟨.initial, .ready, 0, 0, false⟩, ())
  execute _ d _ := (acknowledgeAll d, ())
  nextFrame _ _ := (.ok answer, ())
  applyFault _ _ := ()
  deadline _ timeout := ([timeout], ())

/-- A mission without phases. -/
def emptyMission : Mission F where
  name := "empty"
  description := ""
  vehicle := ⟨"x500", 0, .replicate 3 (lit 0), lit 0⟩
  lockstep := true
  phases := []
  resetBetweenRuns := true

end

/-- The checks of a phase do not look at the vehicle, so not at its validity either. -/
theorem inspect_vehicle (self : MissionRunner F) (frame : SimulatorFrame F)
    (vehicle : VehicleState F) (settling : Bool) :
    self.inspect { frame with vehicle } settling = self.inspect frame settling := rfl

/-- The start is acknowledged, no frame comes, and the run returns without a stop. -/
theorem unstopped_run : ∃ returned s,
    (runWithPreparation (steadyBackend (.timedOut .initial 0 0))
      (emptyMission : Mission (ExactFloat ℚ)) true).exec (.fresh ()) = (.ok returned, s) ∧
    ¬ SessionProtocol emptyMission s.log returned := by
  refine ⟨_, _, rfl, fun h => ?_⟩
  obtain ⟨d, answer, hmem, hkind⟩ := h.stopped _ rfl [_, _] _ _ [_, _] rfl rfl ⟨rfl, rfl, rfl⟩
  rcases List.mem_cons.mp hmem with heq | hmem
  · cases heq
  · cases List.mem_singleton.mp hmem

end Aviate.Missions
