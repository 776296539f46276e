import Aviate.Core.Control

/-!
# Mode-entry gating

The check that refuses a commanded outer loop the estimate cannot back
(`control/mode_gate.rs`).

Results:
1. With a valid attitude, the effective mode of the gate requires only validity
   the estimate has (`gateModeEntry_sound`).
2. Without one, the gate is sound exactly for the mode that requires nothing
   (`gateModeEntry_sound_iff`): for every other mode it refuses, and the effective
   mode it names still requires the attitude.
-/

namespace Aviate

variable {F : Type}

/-- Estimator validity this mode's outer loop needs to run. -/
def ControlMode.requiredValidity : ControlMode → StateValidFlags
  | .rate => .empty
  | .attitude => StateValidFlags.attitude
  | .altitudeHold => StateValidFlags.attitude.union StateValidFlags.velocity
  | .velocityControl => StateValidFlags.attitude.union StateValidFlags.velocity
  | .positionHold =>
    (StateValidFlags.attitude.union StateValidFlags.velocity).union StateValidFlags.position
  | .deviationTracking =>
    (StateValidFlags.attitude.union StateValidFlags.velocity).union StateValidFlags.position

/-- Rungs considered for fallback, most to least demanding. -/
def fallbackRungs : List ControlMode := [.positionHold, .altitudeHold, .attitude]

/-- `rung` is strictly less demanding than `required`, and `valid` satisfies it. -/
def rungAvailable (required valid : StateValidFlags) (rung : ControlMode) : Bool :=
  let rungRequired := rung.requiredValidity
  let strictlyLessDemanding := required.contains rungRequired && rungRequired != required
  strictlyLessDemanding && valid.contains rungRequired

/-- Gate a commanded mode's entry against current estimator validity. -/
def gateModeEntry (requested : ControlMode) (valid : StateValidFlags) : ModeEntryDecision :=
  let required := requested.requiredValidity
  let missing := required.difference valid
  if missing.isEmpty then .granted requested
  else match fallbackRungs.find? (rungAvailable required valid) with
    | some rung => .fallenBack requested rung missing
    | none => .refused requested missing

/-- Gate a mode against controller capability and estimator validity. -/
def gateControllerModeEntry (requested : ControlMode) (valid : StateValidFlags)
    (supported : Bool) : ModeEntryDecision :=
  if !supported then .unsupported requested else gateModeEntry requested valid

/-- Retag the command to the gated mode. Falling back into `AltitudeHold` without
a vertical target holds a zero climb rate. -/
def applyModeEntry [Scalar F] (command : Command F) (decision : ModeEntryDecision) : Command F :=
  let effective := decision.effective
  if effective == command.mode then command
  else
    let setpoint :=
      if effective == .altitudeHold && command.setpoint.verticalSpeed.isNone &&
          command.setpoint.altitude.isNone then
        { command.setpoint with verticalSpeed := some (lit 0) }
      else command.setpoint
    { command with setpoint := setpoint, mode := effective }

/-! ## What the gate guarantees -/

@[simp] theorem applyModeEntry_mode [Scalar F] (command : Command F)
    (decision : ModeEntryDecision) :
    (applyModeEntry command decision).mode = decision.effective := by
  simp only [applyModeEntry]
  split
  · next h => exact (beq_iff_eq.mp h).symm
  · rfl

namespace ModeGateLemmas

/-- Nothing is missing exactly when the requirement is met. -/
theorem missing_isEmpty_iff {required valid : StateValidFlags} :
    (required.difference valid).isEmpty = true ↔ valid.contains required = true := by
  rw [FlagSet.isEmpty_iff, FlagSet.contains_iff]
  refine forall_congr' fun i => ?_
  rw [FlagSet.mem_difference, not_and, not_not]

/-- Every mode but `Rate` requires the attitude. -/
theorem requiredValidity_attitude {mode : ControlMode} (h : mode ≠ .rate) :
    mode.requiredValidity.contains StateValidFlags.attitude = true := by
  cases mode <;> first | exact absurd rfl h | decide

/-- A valid attitude leaves a rung for every mode that requires more. -/
theorem attitude_rung_available {mode : ControlMode} {valid : StateValidFlags}
    (hv : valid.contains StateValidFlags.attitude = true)
    (hm : ¬ valid.contains mode.requiredValidity = true) :
    rungAvailable mode.requiredValidity valid .attitude = true := by
  have hdemanding : mode ≠ .rate ∧ mode ≠ .attitude := by
    constructor
    · rintro rfl
      exact hm FlagSet.contains_empty
    · rintro rfl
      exact hm hv
  obtain ⟨hrate, hattitude⟩ := hdemanding
  simp only [rungAvailable, Bool.and_eq_true]
  refine ⟨?_, hv⟩
  cases mode <;> first | exact absurd rfl hrate | exact absurd rfl hattitude | decide

/-- The three answers of the gate. -/
theorem gateModeEntry_cases (requested : ControlMode) (valid : StateValidFlags) :
    (valid.contains requested.requiredValidity = true ∧
      gateModeEntry requested valid = .granted requested) ∨
    (∃ rung missing, rung ≠ .rate ∧ valid.contains rung.requiredValidity = true ∧
      gateModeEntry requested valid = .fallenBack requested rung missing) ∨
    (¬ valid.contains requested.requiredValidity = true ∧
      ¬ rungAvailable requested.requiredValidity valid .attitude = true ∧
      ∃ missing, gateModeEntry requested valid = .refused requested missing) := by
  simp only [gateModeEntry]
  split
  · next hmissing => exact .inl ⟨missing_isEmpty_iff.mp hmissing, rfl⟩
  · next hmissing =>
    right
    split
    · next rung hrung =>
      left
      have hmem := List.mem_of_find?_eq_some hrung
      have havail := List.find?_some hrung
      simp only [rungAvailable, Bool.and_eq_true] at havail
      refine ⟨rung, _, ?_, havail.2, rfl⟩
      rintro rfl
      exact absurd hmem (by decide)
    · next hnone =>
      right
      refine ⟨fun h => hmissing (missing_isEmpty_iff.mpr h), ?_, _, rfl⟩
      exact List.find?_eq_none.mp hnone .attitude (by decide)

/-- The gate falls back to an available rung. -/
theorem rungAvailable_of_fallenBack {requested requested' rung : ControlMode}
    {valid missing : StateValidFlags}
    (h : gateModeEntry requested valid = .fallenBack requested' rung missing) :
    rungAvailable requested.requiredValidity valid rung = true := by
  unfold gateModeEntry at h
  dsimp only at h
  split at h
  · cases h
  · split at h
    · next found hfound =>
      obtain ⟨-, hrung, -⟩ := ModeEntryDecision.fallenBack.inj h
      exact hrung ▸ List.find?_some hfound
    · cases h

end ModeGateLemmas

open ModeGateLemmas

/-- With a valid attitude the effective mode requires only what the estimate
has. -/
theorem gateModeEntry_sound {requested : ControlMode} {valid : StateValidFlags}
    (hv : valid.contains StateValidFlags.attitude = true) :
    valid.contains (gateModeEntry requested valid).effective.requiredValidity = true := by
  rcases gateModeEntry_cases requested valid with ⟨hm, hg⟩ | ⟨rung, missing, -, hr, hg⟩ |
    ⟨hm, hrung, missing, hg⟩
  · rw [hg]
    exact hm
  · rw [hg]
    exact hr
  · exact absurd (attitude_rung_available hv hm) hrung

/-- The controller's gate refuses for capability exactly the modes it does not
implement. -/
theorem gateControllerModeEntry_isUnsupported (requested : ControlMode) (valid : StateValidFlags)
    (supported : Bool) :
    (gateControllerModeEntry requested valid supported).isUnsupported = !supported := by
  cases supported with
  | false => rfl
  | true =>
    show (gateModeEntry requested valid).isUnsupported = false
    rcases gateModeEntry_cases requested valid with ⟨-, hg⟩ | ⟨_, _, -, -, hg⟩ | ⟨-, -, _, hg⟩ <;>
      rw [hg] <;> rfl

/-- The gate names a mode the estimate can back exactly when the attitude is valid
or the requested mode requires nothing. -/
theorem gateModeEntry_sound_iff {requested : ControlMode} {valid : StateValidFlags} :
    valid.contains (gateModeEntry requested valid).effective.requiredValidity = true ↔
      valid.contains StateValidFlags.attitude = true ∨ requested = .rate := by
  constructor
  · intro hsound
    by_cases hrate : requested = .rate
    · exact .inr hrate
    · left
      rcases gateModeEntry_cases requested valid with ⟨hm, -⟩ | ⟨rung, missing, hne, hr, -⟩ |
        ⟨-, -, missing, hg⟩
      · exact FlagSet.contains_trans hm (requiredValidity_attitude hrate)
      · exact FlagSet.contains_trans hr (requiredValidity_attitude hne)
      · rw [hg] at hsound
        exact hsound
  · rintro (hv | rfl)
    · exact gateModeEntry_sound hv
    · rcases gateModeEntry_cases .rate valid with ⟨hm, hg⟩ | ⟨rung, missing, -, hr, hg⟩ |
        ⟨hm, -⟩
      · rw [hg]
        exact hm
      · rw [hg]
        exact hr
      · exact absurd FlagSet.contains_empty hm

end Aviate
