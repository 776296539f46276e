import Mathlib.Data.List.DropRight
import Aviate.Foundations.Blocks
import Aviate.Foundations.Machine
import Aviate.Model

/-!
# The command hold over runs

A bypassed command starts a new epoch. The first command an epoch accepts primes the hold; the
commands after it come in decision intervals.

Results:
1. A validated schedule holds exactly its share of the interval (`count_schedule`), whatever the
   digest.
2. What one command does to the engine (`apply_bypass`, `apply_invalid`, `apply_prime`,
   `apply_position`), and the invariant of a run (`invariant_run`).
3. `command_hold`: in every run, every complete interval holds exactly its share, a held command
   is replaced by the last one accepted in its epoch, any other eligible command is the scaled
   one, and a bypassed one passes through.
-/

namespace Aviate.Perturbation

/-! ## Schedules -/

section Schedules

variable [Sha256] {identity : PerturbationIdentity} {config : ActuatorPerturbation}
  {hold : CommandHoldPerturbation}

omit [Sha256] in
/-- A validated hold holds at most the whole interval, which is not empty. -/
theorem count_le_of_validate (h : validateActuatorConfig config = .ok ())
    (hhold : config.commandHold = some hold) :
    hold.count ≤ hold.decisionIntervalSamples.toNat ∧ 0 < hold.decisionIntervalSamples.toNat := by
  unfold validateActuatorConfig at h
  rw [hhold] at h
  split at h
  · cases h
  dsimp only at h
  split at h
  · cases h
  rename_i hbounds
  simp only [Bool.not_eq_true, Bool.or_eq_false_iff, Bool.not_eq_false', Bool.and_eq_true,
    decide_eq_true_eq] at hbounds
  obtain ⟨⟨⟨-, hfraction⟩, hinterval, -⟩, -⟩ := hbounds
  have hle : hold.fractionBasisPoints.toNat ≤ nominalBasisPoints.toNat :=
    Nat.le_trans (UInt16.le_iff_toNat_le.mp hfraction) (by decide)
  exact ⟨Nat.div_le_of_le_mul (Nat.mul_le_mul_right _ hle), UInt32.le_iff_toNat_le.mp hinterval⟩

theorem length_schedule {epoch index firstSequence : UInt64} :
    (schedule identity epoch index firstSequence hold).length =
      hold.decisionIntervalSamples.toNat := by
  rw [schedule, Shuffle.length_mark, List.length_replicate]

/-- A schedule of a validated hold selects exactly its share. -/
theorem count_schedule {epoch index firstSequence : UInt64}
    (h : hold.count ≤ hold.decisionIntervalSamples.toNat) :
    (schedule identity epoch index firstSequence hold).count true = hold.count :=
  Shuffle.count_mark_shuffle h

end Schedules

namespace ActuatorEngine

/-! ## Runs -/

/-- An actuator command under way to the plant. -/
structure Request where
  sequence : UInt64
  command : SimActuatorCmd
  eligibility : ActuatorEligibility
  kernelFallbackMask : UInt8
deriving DecidableEq, Repr

/-- The result, and the command that goes on. -/
abbrev Answer := Except PerturbationError ActuatorApplication × SimActuatorCmd

def machine [Sha256] : Machine ActuatorEngine Request Answer where
  step self request :=
    let (result, command, self) := self.apply request.sequence request.command
      request.eligibility request.kernelFallbackMask
    (self, result, command)

abbrev Event := Machine.Event ActuatorEngine Request Answer

/-- Whether an eligible command that the engine took was held. -/
def held? (event : Event) : Option Bool :=
  match event.op.eligibility, event.out.1 with
  | .eligible, .ok application => some application.appliedHold
  | _, _ => none

/-- The events after the last bypass. -/
def epoch (past : List Event) : List Event :=
  past.rtakeWhile fun event => event.op.eligibility == .eligible

/-- Which of the epoch's commands were held, in order. -/
def holds (past : List Event) : List Bool := (epoch past).filterMap held?

/-- The lanes a request asks for, scaled. -/
def scaled (config : ActuatorPerturbation) (request : Request) : Lanes :=
  (scaleAuthority request.command config.authorityScaleBasisPoints).outputs

/-- The last command the epoch accepted, scaled. -/
def lastAccepted (config : ActuatorPerturbation) (past : List Event) : Option Lanes :=
  ((epoch past).filter fun event => held? event == some false).getLast?.map
    fun event => scaled config event.op

section Past

variable {past : List Event} {event : Event} {config : ActuatorPerturbation}

/-- A bypass leaves nothing of the past. -/
theorem epoch_concat_bypass (h : event.op.eligibility ≠ .eligible) :
    epoch (past ++ [event]) = [] :=
  List.rtakeWhile_concat_neg _ _ _ (by simpa using h)

theorem epoch_concat_eligible (h : event.op.eligibility = .eligible) :
    epoch (past ++ [event]) = epoch past ++ [event] :=
  List.rtakeWhile_concat_pos _ _ _ (by simpa using h)

theorem holds_concat (h : event.op.eligibility = .eligible) :
    holds (past ++ [event]) = holds past ++ (held? event).toList := by
  rw [holds, epoch_concat_eligible h, List.filterMap_append]
  cases hheld : held? event <;> simp [holds, hheld]

theorem lastAccepted_concat (h : event.op.eligibility = .eligible) :
    lastAccepted config (past ++ [event]) =
      if held? event = some false then some (scaled config event.op)
      else lastAccepted config past := by
  rw [lastAccepted, epoch_concat_eligible h, List.filter_append]
  by_cases hheld : held? event = some false
  · simp [hheld]
  · simp [hheld, lastAccepted]

end Past

/-! ## One command -/

section Step

variable [Sha256] {self : ActuatorEngine} {hold : CommandHoldPerturbation}

/-- A bypassed command passes through. -/
theorem apply_bypass (sequence : UInt64) (command : SimActuatorCmd)
    (reason : ActuatorBypassReason) (mask : UInt8) :
    ∃ application, self.apply sequence command (.bypass reason) mask =
      (.ok application, command, { self with state := self.state.safetyReset }) :=
  ⟨_, rfl⟩

/-- A command with too many lanes is refused. -/
theorem apply_invalid (sequence : UInt64) (command : SimActuatorCmd) (mask : UInt8)
    (h : 16 < command.count) :
    self.apply sequence command .eligible mask =
      (.error (.invalidActuatorCount command.count), command, self) :=
  if_pos h

/-- The first command of an epoch primes the hold. -/
theorem apply_prime (hhold : self.config.commandHold = some hold)
    (hunprimed : self.state.lastAccepted = none) (sequence : UInt64) (command : SimActuatorCmd)
    (mask : UInt8) (h : ¬ 16 < command.count) :
    ∃ application, application.appliedHold = false ∧ application.intervalComplete = false ∧
      self.apply sequence command .eligible mask =
        (.ok application, scaleAuthority command self.config.authorityScaleBasisPoints,
          { self with state := { self.state with
            lastAccepted := some
              (scaleAuthority command self.config.authorityScaleBasisPoints).outputs } }) := by
  let scaledCommand := scaleAuthority command self.config.authorityScaleBasisPoints
  refine ⟨primeApplication scaledCommand
    { requestedLanes := command.outputs, requestedArmed := command.armed
      kernelFallbackMask := mask, authorityScaledLanes := scaledCommand.outputs }, rfl, rfl, ?_⟩
  simp only [apply, if_neg h, hhold, applyHold, hunprimed, Option.isNone_none, if_true,
    scaledCommand]

theorem ensureSchedule_lastAccepted (state : HoldState) (identity : PerturbationIdentity)
    (sequence : UInt64) :
    (state.ensureSchedule identity sequence hold).lastAccepted = state.lastAccepted := by
  unfold HoldState.ensureSchedule
  split <;> rfl

/-- The evidence of a command in an interval under way. -/
theorem intervalApplication_of_isSome {state : HoldState}
    (h : state.intervalFirstSequence.isSome = true) (identity : PerturbationIdentity)
    (command : SimActuatorCmd) (inputs : ApplicationInputs) (decision : HoldDecision) :
    ∃ application, intervalApplication identity command inputs state decision = .ok application ∧
      application.appliedHold = decision.applied ∧
      application.intervalComplete = decision.complete := by
  obtain ⟨first, hfirst⟩ := Option.isSome_iff_exists.mp h
  unfold intervalApplication
  rw [hfirst]
  exact ⟨_, rfl, rfl, rfl⟩

/-- A command at a position of the interval is held if the schedule selects the position, and is
accepted otherwise. -/
theorem apply_position {accepted : Lanes} (hhold : self.config.commandHold = some hold)
    (haccepted : self.state.lastAccepted = some accepted) (sequence : UInt64)
    (command : SimActuatorCmd) (mask : UInt8) (h : ¬ 16 < command.count) {state : HoldState}
    (hstate : self.state.ensureSchedule self.identity sequence hold = state) {selected : Bool}
    (hselected : state.schedule[state.intervalPosition.toNat]? = some selected)
    (hfirst : state.intervalFirstSequence.isSome = true) :
    let command' := scaleAuthority command self.config.authorityScaleBasisPoints
    let lanes := if selected then accepted else command'.outputs
    ∃ application, application.appliedHold = selected ∧
      application.intervalComplete =
        (state.intervalPosition + 1 == hold.decisionIntervalSamples) ∧
      self.apply sequence command .eligible mask =
        (.ok application, { command' with outputs := lanes },
          { self with state :=
            { state with lastAccepted := some lanes }.advance hold.decisionIntervalSamples }) := by
  intro command' lanes
  have hlast : state.lastAccepted = some accepted := by
    rw [← hstate, ensureSchedule_lastAccepted, haccepted]
  simp only [apply, if_neg h, hhold, applyHold, haccepted, Option.isNone_some, Bool.false_eq_true,
    if_false, hstate, applyPosition, hselected]
  cases selected with
  | true =>
    obtain ⟨application, hevidence, happlied, hcomplete⟩ := intervalApplication_of_isSome hfirst
      self.identity { command' with outputs := accepted }
      { requestedLanes := command.outputs, requestedArmed := command.armed
        kernelFallbackMask := mask, authorityScaledLanes := command'.outputs }
      { selected := true, applied := true
        complete := state.intervalPosition + 1 == hold.decisionIntervalSamples }
    refine ⟨application, happlied, hcomplete, ?_⟩
    simp only [if_true, hlast, command', lanes] at hevidence ⊢
    rw [hevidence, ← hlast]
  | false =>
    obtain ⟨application, hevidence, happlied, hcomplete⟩ := @intervalApplication_of_isSome _
      { state with lastAccepted := some command'.outputs } hfirst self.identity command'
      { requestedLanes := command.outputs, requestedArmed := command.armed
        kernelFallbackMask := mask, authorityScaledLanes := command'.outputs }
      { selected := false, applied := false
        complete := state.intervalPosition + 1 == hold.decisionIntervalSamples }
    refine ⟨application, happlied, hcomplete, ?_⟩
    simp only [Bool.false_eq_true, if_false, command', lanes] at hevidence ⊢
    rw [hevidence]

end Step

/-! ## The invariant -/

section Invariant

variable {self : ActuatorEngine} {config : ActuatorPerturbation}
  {hold : CommandHoldPerturbation} {past : List Event}

/-- An interval is under way with an exact schedule. -/
structure Scheduled (hold : CommandHoldPerturbation) (state : HoldState) : Prop where
  length : state.schedule.length = hold.decisionIntervalSamples.toNat
  count : state.schedule.count true = hold.count
  first : state.intervalFirstSequence.isSome = true

/-- The engine's state and the events so far. -/
structure Invariant (config : ActuatorPerturbation) (hold : CommandHoldPerturbation)
    (engine : ActuatorEngine) (past : List Event) : Prop where
  config_eq : engine.config = config
  accepted : engine.state.lastAccepted = lastAccepted config past
  primed : engine.state.lastAccepted = none ↔ holds past = []
  scheduled : (engine.state.schedule = [] ∧ engine.state.intervalPosition = 0) ∨
    (engine.state.lastAccepted ≠ none ∧ Scheduled hold engine.state)
  position_lt : engine.state.intervalPosition.toNat < hold.decisionIntervalSamples.toNat
  blocks : Blocks hold.decisionIntervalSamples.toNat (·.count true = hold.count) (holds past).tail
    (engine.state.schedule.take engine.state.intervalPosition.toNat)

/-- A state between its epochs, or at the start of one. -/
theorem invariant_reset {engine : ActuatorEngine} (hconfig : engine.config = config)
    (hinterval : 0 < hold.decisionIntervalSamples.toNat)
    (haccepted : engine.state.lastAccepted = none) (hschedule : engine.state.schedule = [])
    (hposition : engine.state.intervalPosition = 0) (hepoch : epoch past = []) :
    Invariant config hold engine past where
  config_eq := hconfig
  accepted := by rw [haccepted, lastAccepted, hepoch]; rfl
  primed := by simp [haccepted, holds, hepoch]
  scheduled := .inl ⟨hschedule, hposition⟩
  position_lt := by rw [hposition]; exact hinterval
  blocks := by
    rw [holds, hepoch, hschedule, List.take_nil]
    exact .nil

variable [Sha256]

/-- An interval is under way after `ensure_schedule`, at the same position. -/
theorem ensureSchedule_spec {state : HoldState} (identity : PerturbationIdentity)
    (sequence : UInt64) (hcount : hold.count ≤ hold.decisionIntervalSamples.toNat)
    (hinterval : 0 < hold.decisionIntervalSamples.toNat)
    (h : (state.schedule = [] ∧ state.intervalPosition = 0) ∨ Scheduled hold state) :
    Scheduled hold (state.ensureSchedule identity sequence hold) ∧
      (state.ensureSchedule identity sequence hold).intervalPosition = state.intervalPosition ∧
      (state.ensureSchedule identity sequence hold).schedule.take state.intervalPosition.toNat =
        state.schedule.take state.intervalPosition.toNat := by
  unfold HoldState.ensureSchedule
  rcases h with ⟨hschedule, hposition⟩ | hscheduled
  · rw [if_neg (by simp [hschedule])]
    refine ⟨⟨length_schedule, count_schedule hcount, rfl⟩, rfl, ?_⟩
    simp [hposition]
  · have hne : state.schedule ≠ [] := by
      rw [← List.length_pos_iff, hscheduled.length]
      exact hinterval
    rw [if_pos (by simpa using hne)]
    exact ⟨hscheduled, rfl, rfl⟩

/-- The event of an eligible command that is taken. -/
theorem held?_event {request : Request} {application : ActuatorApplication}
    {command : SimActuatorCmd} {next : ActuatorEngine}
    (heligible : request.eligibility = .eligible)
    (h : self.apply request.sequence request.command request.eligibility
      request.kernelFallbackMask = (.ok application, command, next)) :
    held? (machine.event self request) = some application.appliedHold := by
  simp only [held?, Machine.event, machine, heligible]
  rw [heligible] at h
  rw [h]

theorem step_eq {request : Request} {application : ActuatorApplication}
    {command : SimActuatorCmd} {next : ActuatorEngine}
    (h : self.apply request.sequence request.command request.eligibility
      request.kernelFallbackMask = (.ok application, command, next)) :
    machine.step self request = (next, .ok application, command) := by
  simp only [machine, h]

/-- The first command of an epoch is accepted, and no interval is under way. -/
theorem invariant_prime (h : Invariant config hold self past) {request : Request}
    (hhold : config.commandHold = some hold) (heligible : request.eligibility = .eligible)
    (hcount : ¬ 16 < request.command.count) (hunprimed : self.state.lastAccepted = none) :
    Invariant config hold (machine.step self request).1 (past ++ [machine.event self request]) := by
  obtain ⟨application, happlied, -, hresult⟩ := apply_prime (by rw [h.config_eq]; exact hhold)
    hunprimed request.sequence request.command request.kernelFallbackMask hcount
  rw [← heligible] at hresult
  have hheld := held?_event heligible hresult
  rw [happlied] at hheld
  have hpast : holds past = [] := h.primed.mp hunprimed
  have hholds : holds (past ++ [machine.event self request]) = [false] := by
    rw [holds_concat heligible, hheld, hpast]
    rfl
  obtain ⟨hschedule, hposition⟩ | ⟨hprimed, -⟩ := h.scheduled
  · refine ⟨?_, ?_, ?_, .inl ?_, ?_, ?_⟩
    · rw [step_eq hresult]
      exact h.config_eq
    · rw [step_eq hresult, lastAccepted_concat heligible, if_pos hheld, scaled, ← h.config_eq]
      rfl
    · rw [step_eq hresult, hholds]
      exact ⟨nofun, nofun⟩
    · rw [step_eq hresult]
      exact ⟨hschedule, hposition⟩
    · rw [step_eq hresult]
      exact h.position_lt
    · rw [step_eq hresult, hholds]
      dsimp only
      rw [hschedule, List.take_nil]
      exact .nil
  · exact absurd hunprimed hprimed

omit [Sha256] in
/-- One more position of the interval, which it may complete. -/
theorem advance_spec {state : HoldState} {selected : Bool} {flags : List Bool}
    (hscheduled : Scheduled hold state) (hprimed : state.lastAccepted ≠ none)
    (hposition : state.intervalPosition.toNat < hold.decisionIntervalSamples.toNat)
    (hselected : state.schedule[state.intervalPosition.toNat]? = some selected)
    (hblocks : Blocks hold.decisionIntervalSamples.toNat (·.count true = hold.count) flags
      (state.schedule.take state.intervalPosition.toNat)) :
    let next := state.advance hold.decisionIntervalSamples
    ((next.schedule = [] ∧ next.intervalPosition = 0) ∨
        (next.lastAccepted ≠ none ∧ Scheduled hold next)) ∧
      next.intervalPosition.toNat < hold.decisionIntervalSamples.toNat ∧
      Blocks hold.decisionIntervalSamples.toNat (·.count true = hold.count) (flags ++ [selected])
        (next.schedule.take next.intervalPosition.toNat) := by
  have hnext : (state.intervalPosition + 1).toNat = state.intervalPosition.toNat + 1 := by
    have hbound := hold.decisionIntervalSamples.toNat_lt
    rw [UInt32.toNat_add, UInt32.toNat_one]
    exact Nat.mod_eq_of_lt (by omega)
  have htake : state.schedule.take (state.intervalPosition.toNat + 1) =
      state.schedule.take state.intervalPosition.toNat ++ [selected] := by
    rw [List.take_add_one, hselected]
    rfl
  have hmore := hblocks.concat selected
  rw [← htake] at hmore
  unfold HoldState.advance
  by_cases hend : state.intervalPosition + 1 = hold.decisionIntervalSamples
  · have hfull : state.schedule.take (state.intervalPosition.toNat + 1) = state.schedule := by
      refine List.take_of_length_le ?_
      rw [hscheduled.length, ← hend, hnext]
    rw [hfull] at hmore
    simp only [if_pos hend]
    refine ⟨.inl ⟨trivial, trivial⟩, Nat.lt_of_le_of_lt (Nat.zero_le _) hposition, ?_⟩
    exact hmore.close hscheduled.length hscheduled.count
  · have hlt : state.intervalPosition.toNat + 1 < hold.decisionIntervalSamples.toNat := by
      refine Nat.lt_of_le_of_ne hposition fun heq => hend ?_
      rw [← UInt32.toNat_inj, hnext, heq]
    simp only [if_neg hend]
    refine ⟨.inr ⟨hprimed, hscheduled.length, hscheduled.count, hscheduled.first⟩, ?_, ?_⟩
    · rwa [hnext]
    · rwa [hnext]

/-- A command at a position is held or accepted, and the position is done. -/
theorem invariant_position (h : Invariant config hold self past) {request : Request}
    (hhold : config.commandHold = some hold)
    (hshare : hold.count ≤ hold.decisionIntervalSamples.toNat)
    (heligible : request.eligibility = .eligible) (hcount : ¬ 16 < request.command.count)
    {accepted : Lanes} (haccepted : self.state.lastAccepted = some accepted) :
    ∃ selected application,
      (machine.step self request).2.1 = .ok application ∧ application.appliedHold = selected ∧
      application.intervalComplete =
        (self.state.intervalPosition + 1 == hold.decisionIntervalSamples) ∧
      (machine.step self request).2.2 =
        { scaleAuthority request.command config.authorityScaleBasisPoints with
          outputs := if selected then accepted else scaled config request } ∧
      Invariant config hold (machine.step self request).1
        (past ++ [machine.event self request]) := by
  have hinterval := Nat.lt_of_le_of_lt (Nat.zero_le _) h.position_lt
  obtain ⟨hscheduled, hposition, htake⟩ := ensureSchedule_spec self.identity request.sequence
    hshare hinterval (h.scheduled.imp_right And.right)
  generalize hstate : self.state.ensureSchedule self.identity request.sequence hold = state
    at hscheduled hposition htake
  have hlt : state.intervalPosition.toNat < state.schedule.length := by
    rw [hposition, hscheduled.length]
    exact h.position_lt
  obtain ⟨selected, hselected⟩ : ∃ selected,
      state.schedule[state.intervalPosition.toNat]? = some selected :=
    ⟨_, List.getElem?_eq_getElem hlt⟩
  obtain ⟨application, happlied, hcomplete, hresult⟩ := apply_position
    (by rw [h.config_eq]; exact hhold) haccepted request.sequence request.command
    request.kernelFallbackMask hcount hstate hselected hscheduled.first
  rw [← heligible, h.config_eq] at hresult
  have hheld := held?_event heligible hresult
  rw [happlied] at hheld
  rw [hposition] at hcomplete
  refine ⟨selected, application, by rw [step_eq hresult], happlied, hcomplete,
    by rw [step_eq hresult]; rfl, ?_⟩
  have hpast : holds past ≠ [] := by
    intro hempty
    rw [h.primed.mpr hempty] at haccepted
    cases haccepted
  have hholds : holds (past ++ [machine.event self request]) = holds past ++ [selected] := by
    rw [holds_concat heligible, hheld]
    rfl
  have hlast : lastAccepted config (past ++ [machine.event self request]) =
      some (if selected then accepted else scaled config request) := by
    rw [lastAccepted_concat heligible, hheld]
    cases selected with
    | true => simp [← h.accepted, haccepted]
    | false => simp [Machine.event]
  have hblocks := h.blocks
  rw [← htake, ← hposition] at hblocks
  obtain ⟨hscheduled', hposition', hblocks'⟩ := @advance_spec hold
    { state with lastAccepted := some (if selected then accepted else scaled config request) }
    selected (holds past).tail ⟨hscheduled.length, hscheduled.count, hscheduled.first⟩
    (Option.some_ne_none _) (by rw [hposition]; exact h.position_lt) hselected hblocks
  have htail : (holds past ++ [selected]).tail = (holds past).tail ++ [selected] :=
    List.tail_append_of_ne_nil hpast
  have hkept : (HoldState.advance
      { state with lastAccepted := some (if selected then accepted else scaled config request) }
      hold.decisionIntervalSamples).lastAccepted =
      some (if selected then accepted else scaled config request) := by
    unfold HoldState.advance
    dsimp only
    split <;> rfl
  refine ⟨?_, ?_, ?_, ?_, ?_, ?_⟩
  · rw [step_eq hresult]
  · rw [step_eq hresult, hlast]
    exact hkept
  · rw [step_eq hresult, hholds]
    exact ⟨fun hnone => absurd (hkept.symm.trans hnone) (Option.some_ne_none _),
      fun hnil => by simp at hnil⟩
  · rw [step_eq hresult]
    exact hscheduled'
  · rw [step_eq hresult]
    exact hposition'
  · rw [step_eq hresult, hholds, htail]
    exact hblocks'

omit [Sha256] in
/-- The last position is reached when the commands with this one fill the intervals. -/
theorem Invariant.complete_iff (h : Invariant config hold self past) (hpast : holds past ≠ []) :
    self.state.intervalPosition + 1 = hold.decisionIntervalSamples ↔
      hold.decisionIntervalSamples.toNat ∣ (holds past).length := by
  have hlength : (self.state.schedule.take self.state.intervalPosition.toNat).length =
      self.state.intervalPosition.toNat := by
    rcases h.scheduled with ⟨hschedule, hposition⟩ | ⟨-, hscheduled⟩
    · rw [hschedule, hposition]
      rfl
    · rw [List.length_take, hscheduled.length, Nat.min_eq_left (Nat.le_of_lt h.position_lt)]
  have hmod := h.blocks.length_mod (by rw [hlength]; exact h.position_lt)
  rw [hlength, List.length_tail] at hmod
  have hnext : (self.state.intervalPosition + 1).toNat = self.state.intervalPosition.toNat + 1 := by
    have hbound := hold.decisionIntervalSamples.toNat_lt
    have hlt := h.position_lt
    rw [UInt32.toNat_add, UInt32.toNat_one]
    exact Nat.mod_eq_of_lt (by omega)
  have hpos : 0 < (holds past).length := List.length_pos_iff.mpr hpast
  have hsucc : (holds past).length = ((holds past).length - 1) + 1 := by omega
  have hlt := h.position_lt
  rw [← UInt32.toNat_inj, hnext, hsucc, Nat.dvd_iff_mod_eq_zero, ← Nat.mod_add_mod, hmod]
  constructor
  · intro heq
    rw [heq, Nat.mod_self]
  · intro hzero
    by_contra hne
    rw [Nat.mod_eq_of_lt (by omega)] at hzero
    exact absurd hzero (Nat.succ_ne_zero _)

/-- A refused command leaves the engine and its epoch alone. -/
theorem invariant_refused (h : Invariant config hold self past) {request : Request}
    (heligible : request.eligibility = .eligible) (hcount : 16 < request.command.count) :
    Invariant config hold (machine.step self request).1 (past ++ [machine.event self request]) := by
  have hresult := @apply_invalid _ self request.sequence request.command
    request.kernelFallbackMask hcount
  have hstep : machine.step self request =
      (self, .error (.invalidActuatorCount request.command.count), request.command) := by
    simp only [machine, heligible, hresult]
  have hheld : held? (machine.event self request) = none := by
    simp only [held?, Machine.event, hstep, heligible]
  have hholds : holds (past ++ [machine.event self request]) = holds past := by
    rw [holds_concat heligible, hheld]
    exact List.append_nil _
  have hlast : lastAccepted config (past ++ [machine.event self request]) =
      lastAccepted config past := by
    rw [lastAccepted_concat heligible, if_neg (by rw [hheld]; exact (Option.some_ne_none _).symm)]
  rw [hstep]
  refine ⟨h.config_eq, ?_, ?_, h.scheduled, h.position_lt, ?_⟩
  · rw [hlast]
    exact h.accepted
  · rw [hholds]
    exact h.primed
  · rw [hholds]
    exact h.blocks

theorem invariant_step (hhold : config.commandHold = some hold)
    (hshare : hold.count ≤ hold.decisionIntervalSamples.toNat)
    (h : Invariant config hold self past) (request : Request) :
    Invariant config hold (machine.step self request).1 (past ++ [machine.event self request]) := by
  cases heligible : request.eligibility with
  | bypass reason =>
    have hepoch : epoch (past ++ [machine.event self request]) = [] :=
      epoch_concat_bypass (by simp [Machine.event, heligible])
    have hinterval := Nat.lt_of_le_of_lt (Nat.zero_le _) h.position_lt
    have hstep : (machine.step self request).1 =
        { self with state := self.state.safetyReset } := by
      simp only [machine, heligible, apply]
    rw [hstep]
    exact invariant_reset h.config_eq hinterval rfl rfl rfl hepoch
  | eligible =>
    by_cases hcount : 16 < request.command.count
    · exact invariant_refused h heligible hcount
    cases haccepted : self.state.lastAccepted with
    | none => exact invariant_prime h hhold heligible hcount haccepted
    | some accepted =>
      obtain ⟨-, -, -, -, -, -, hnext⟩ :=
        invariant_position h hhold hshare heligible hcount haccepted
      exact hnext

end Invariant

/-! ## Runs of a new engine -/

section New

variable [Sha256] {identity : PerturbationIdentity} {config : ActuatorPerturbation}
  {hold : CommandHoldPerturbation} {engine : ActuatorEngine}

theorem invariant_run (hnew : ActuatorEngine.new identity config = .ok engine)
    (hhold : config.commandHold = some hold) (requests : List Request) :
    Invariant config hold (machine.run engine requests) (machine.trace engine requests) := by
  obtain ⟨hvalid, rfl⟩ := new_eq_ok hnew
  obtain ⟨hshare, hinterval⟩ := count_le_of_validate hvalid hhold
  exact Machine.trace_invariant
    (fun _ request _ hprior => invariant_step hhold hshare hprior request)
    (invariant_reset rfl hinterval rfl rfl rfl rfl)

omit [Sha256] in
/-- What the epoch holds came after every bypass. -/
theorem mem_of_mem_epoch {past before after : List Event} {bypass event : Event}
    (hpast : past = before ++ bypass :: after) (hbypass : bypass.op.eligibility ≠ .eligible)
    (hevent : event ∈ epoch past) : event ∈ after := by
  subst hpast
  induction after using List.reverseRecOn with
  | nil =>
    rw [epoch_concat_bypass hbypass] at hevent
    exact absurd hevent List.not_mem_nil
  | append_singleton after last ih =>
    rw [← List.cons_append, ← List.append_assoc] at hevent
    by_cases hlast : last.op.eligibility = .eligible
    · rw [epoch_concat_eligible hlast, List.mem_append] at hevent
      exact List.mem_append.mpr (hevent.imp_left ih)
    · rw [epoch_concat_bypass hlast] at hevent
      exact absurd hevent List.not_mem_nil

omit [Sha256] in
/-- The last accepted command is that of an event of the epoch. -/
theorem lastAccepted_mem {past : List Event} {lanes : Lanes}
    (h : lastAccepted config past = some lanes) :
    ∃ event ∈ epoch past, held? event = some false ∧ lanes = scaled config event.op := by
  obtain ⟨event, hevent, rfl⟩ := Option.map_eq_some_iff.mp h
  obtain ⟨hmem, hheld⟩ := List.mem_filter.mp (List.mem_of_getLast? hevent)
  exact ⟨event, hmem, by simpa using hheld, rfl⟩

/-- The command hold: what a run has held, and what one more request is answered. -/
structure HoldContract (config : ActuatorPerturbation) (hold : CommandHoldPerturbation)
    (past : List Event) (request : Request) (answer : Answer) : Prop where
  /-- The command that primes an epoch is in no interval. -/
  exact_share : ∀ i, (i + 1) * hold.decisionIntervalSamples.toNat ≤ (holds past).tail.length →
    (((holds past).tail.drop (i * hold.decisionIntervalSamples.toNat)).take
      hold.decisionIntervalSamples.toNat).count true = hold.count
  /-- A command completes its interval if with it the commands after the priming one fill it. -/
  completed : ∀ application, request.eligibility = .eligible → answer.1 = .ok application →
    (application.intervalComplete = true ↔
      holds past ≠ [] ∧ hold.decisionIntervalSamples.toNat ∣ (holds past).length)
  taken : request.eligibility = .eligible → request.command.count ≤ 16 → answer.1.isOk = true
  replayed : ∀ application, request.eligibility = .eligible → answer.1 = .ok application →
    application.appliedHold = true → lastAccepted config past = some answer.2.outputs
  accepted : ∀ application, request.eligibility = .eligible → answer.1 = .ok application →
    application.appliedHold = false → answer.2.outputs = scaled config request
  bypassed : request.eligibility ≠ .eligible → answer.1.isOk = true ∧ answer.2 = request.command
  epoch_only : ∀ before bypass after, past = before ++ bypass :: after →
    bypass.op.eligibility ≠ .eligible → ∀ application, request.eligibility = .eligible →
    answer.1 = .ok application → application.appliedHold = true →
    ∃ event ∈ after, held? event = some false ∧
      answer.2.outputs = scaled config event.op

/-- One more request after a run. -/
theorem answer_eligible (hnew : ActuatorEngine.new identity config = .ok engine)
    (hhold : config.commandHold = some hold) (requests : List Request) {request : Request}
    (heligible : request.eligibility = .eligible) (hcount : request.command.count ≤ 16) :
    ∃ application,
      (machine.step (machine.run engine requests) request).2.1 = .ok application ∧
      (application.intervalComplete = true ↔ holds (machine.trace engine requests) ≠ [] ∧
        hold.decisionIntervalSamples.toNat ∣ (holds (machine.trace engine requests)).length) ∧
      ((application.appliedHold = true ∧ lastAccepted config (machine.trace engine requests) =
          some (machine.step (machine.run engine requests) request).2.2.outputs) ∨
        (application.appliedHold = false ∧
          (machine.step (machine.run engine requests) request).2.2.outputs =
            scaled config request)) := by
  have hinvariant := invariant_run hnew hhold requests
  obtain ⟨hshare, -⟩ := count_le_of_validate (new_eq_ok hnew).1 hhold
  generalize machine.run engine requests = self at hinvariant
  generalize machine.trace engine requests = past at hinvariant
  have hlt : ¬ 16 < request.command.count := UInt8.not_lt.mpr hcount
  cases haccepted : self.state.lastAccepted with
  | none =>
    obtain ⟨application, happlied, hcomplete, hresult⟩ := apply_prime
      (by rw [hinvariant.config_eq]; exact hhold) haccepted request.sequence request.command
      request.kernelFallbackMask hlt
    rw [← heligible] at hresult
    refine ⟨application, by rw [step_eq hresult], ?_, .inr ⟨happlied, ?_⟩⟩
    · rw [hcomplete, hinvariant.primed.mp haccepted]
      exact ⟨fun h => absurd h Bool.false_ne_true, fun h => absurd rfl h.1⟩
    · rw [step_eq hresult, scaled, ← hinvariant.config_eq]
  | some accepted =>
    obtain ⟨selected, application, hanswer, happlied, hcomplete, hcommand, -⟩ :=
      invariant_position hinvariant hhold hshare heligible hlt haccepted
    have hpast : holds past ≠ [] := by
      intro hempty
      rw [hinvariant.primed.mpr hempty] at haccepted
      cases haccepted
    rw [hcommand]
    refine ⟨application, hanswer, ?_, ?_⟩
    · rw [hcomplete, beq_iff_eq, hinvariant.complete_iff hpast]
      exact ⟨fun hdvd => ⟨hpast, hdvd⟩, And.right⟩
    · cases selected with
      | true => exact .inl ⟨happlied, hinvariant.accepted.symm.trans haccepted⟩
      | false => exact .inr ⟨happlied, rfl⟩

/-- A refused command has too many lanes. -/
theorem count_le_of_answer {request : Request} {application : ActuatorApplication}
    (heligible : request.eligibility = .eligible)
    (h : (machine.step engine request).2.1 = .ok application) : request.command.count ≤ 16 := by
  by_contra hcount
  have hresult := @apply_invalid _ engine request.sequence request.command
    request.kernelFallbackMask (UInt8.not_le.mp hcount)
  simp only [machine, heligible, hresult] at h
  cases h

/-- The command hold keeps its contract after every run of a new engine. -/
theorem command_hold (hnew : ActuatorEngine.new identity config = .ok engine)
    (hhold : config.commandHold = some hold) (requests : List Request) (request : Request) :
    HoldContract config hold (machine.trace engine requests) request
      (machine.step (machine.run engine requests) request).2 := by
  have hinvariant := invariant_run hnew hhold requests
  have heligible : ∀ application, request.eligibility = .eligible →
      (machine.step (machine.run engine requests) request).2.1 = .ok application →
      (application.intervalComplete = true ↔ holds (machine.trace engine requests) ≠ [] ∧
        hold.decisionIntervalSamples.toNat ∣ (holds (machine.trace engine requests)).length) ∧
      ((application.appliedHold = true ∧ lastAccepted config (machine.trace engine requests) =
          some (machine.step (machine.run engine requests) request).2.2.outputs) ∨
        (application.appliedHold = false ∧
          (machine.step (machine.run engine requests) request).2.2.outputs =
            scaled config request)) := by
    intro application hrequest happlication
    obtain ⟨_, hsame, hcases⟩ := answer_eligible hnew hhold requests hrequest
      (count_le_of_answer hrequest happlication)
    cases hsame.symm.trans happlication
    exact hcases
  have hreplayed : ∀ application, request.eligibility = .eligible →
      (machine.step (machine.run engine requests) request).2.1 = .ok application →
      application.appliedHold = true → lastAccepted config (machine.trace engine requests) =
        some (machine.step (machine.run engine requests) request).2.2.outputs := by
    intro application hrequest happlication hheld
    rcases (heligible application hrequest happlication).2 with ⟨-, hlast⟩ | ⟨hfree, -⟩
    · exact hlast
    · exact absurd (hheld.symm.trans hfree) Bool.false_ne_true.symm
  refine ⟨?_, fun application hrequest h => (heligible application hrequest h).1, ?_, hreplayed,
    ?_, ?_, ?_⟩
  · intro i hi
    refine hinvariant.blocks.window ?_ hi
    exact Nat.lt_of_le_of_lt (List.length_take_le _ _) hinvariant.position_lt
  · intro hrequest hcount
    obtain ⟨application, hanswer, -⟩ := answer_eligible hnew hhold requests hrequest hcount
    rw [hanswer]
    rfl
  · intro application hrequest happlication hheld
    rcases (heligible application hrequest happlication).2 with ⟨hfree, -⟩ | ⟨-, houtputs⟩
    · exact absurd (hheld.symm.trans hfree) Bool.false_ne_true
    · exact houtputs
  · intro hrequest
    cases hbypass : request.eligibility with
    | eligible => exact absurd hbypass hrequest
    | bypass reason =>
      simp only [machine, hbypass, apply]
      exact ⟨rfl, trivial⟩
  · intro before bypass after hpast hbypass application hrequest happlication hheld
    obtain ⟨event, hepoch, haccepted, houtputs⟩ :=
      lastAccepted_mem (hreplayed application hrequest happlication hheld)
    exact ⟨event, mem_of_mem_epoch hpast hbypass hepoch, haccepted, houtputs⟩

end New

/-- One of every ten commands is held, after a bypass and a command that primes the hold. -/
theorem command_hold_tenth :
    let identity : PerturbationIdentity :=
      { conditionDigest := Vector.replicate 32 1, runSeed := 7 }
    let hold : CommandHoldPerturbation :=
      { fractionBasisPoints := 1000, decisionIntervalSamples := 10 }
    let config : ActuatorPerturbation :=
      { authorityScaleBasisPoints := nominalBasisPoints, commandHold := some hold }
    let engine : ActuatorEngine := { identity, config, state := HoldState.new }
    let _ : Sha256 := ⟨fun _ => Vector.replicate 32 0⟩
    let requests : List Request :=
      [⟨1, .new 0 4 false, .bypass .disarmed, 0⟩, ⟨2, .new 0 4 true, .eligible, 0⟩]
    let request : Request := ⟨3, .new 0 4 true, .eligible, 0⟩
    HoldContract config hold (machine.trace engine requests) request
      (machine.step (machine.run engine requests) request).2 := by
  intro identity hold config engine _ requests request
  exact @command_hold _ identity config hold engine (by decide +kernel) rfl requests request

end ActuatorEngine

end Aviate.Perturbation
