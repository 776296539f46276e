import Mathlib
import Aviate.Config.SimulatorModel
import Aviate.Core.Control
import Aviate.Core.ExactField
import Aviate.Core.ExactReal
import Aviate.Core.MachineFloat
import Aviate.Core.ModeGate
import Aviate.Core.Types
import Aviate.Foundations.BoundedFifo
import Aviate.Foundations.ByteBuffer
import Aviate.Foundations.Covariance
import Aviate.Foundations.Fallible
import Aviate.Foundations.FixedCode
import Aviate.Foundations.HashChain
import Aviate.Foundations.Ledger
import Aviate.Foundations.Machine
import Aviate.Foundations.Mean
import Aviate.Foundations.Refinement
import Aviate.Foundations.RingBuffer
import Aviate.Foundations.Rotation
import Aviate.Foundations.Seqlock
import Aviate.Foundations.Shuffle
import Aviate.Foundations.SinglePass
import Aviate.Hil.Backend
import Aviate.Hil.Reassembly
import Aviate.Link.Command
import Aviate.Link.Framing
import Aviate.Link.Parser
import Aviate.Link.WellFormed
import Aviate.Perturbation.Types
import Aviate.XPlane.Wire

/-!
# The flight software

The parts of the model that work on the autopilot's fixed-size vectors and matrices: the core types
and checks, the estimator, the controllers, the kernel's cycle and its sanitizer, the replicated
state's encoding, the configuration, telemetry and missions, the drivers, the perturbed and the
synthetic sensors. Sections stand in the order in which they use one another, each under the name
of its part (`CoreEnvelope`, `EstimatorFilter`, `KernelLifecycle`).
-/

section CoreEnvelope

/-!
# Envelope protection and the descent terminal

`SimpleEnvelopeProtector::constrain` (`control/envelope.rs`), which limits every
setpoint field to the flight envelope and records the limited axes, and
`descend_command` (`kernel/descend.rs`), which synthesizes the setpoint of the
Descend/Land terminal.
-/

namespace Aviate

variable {F : Type}

/-- Axes on which a setpoint was limited. -/
abbrev AxisLimitFlags := FlagSet 8

namespace AxisLimitFlags

def roll : AxisLimitFlags := .flag 0
def pitch : AxisLimitFlags := .flag 1
def yaw : AxisLimitFlags := .flag 2
def altitude : AxisLimitFlags := .flag 3
def speed : AxisLimitFlags := .flag 4
def loadFactor : AxisLimitFlags := .flag 5

end AxisLimitFlags

structure ProtectionStatus where
  limitedAxes : AxisLimitFlags
  saturated : Bool
deriving DecidableEq, Repr

def ProtectionStatus.default : ProtectionStatus := ⟨.empty, false⟩

structure EnvelopeMargin (F : Type) where
  rollRad : F
  pitchRad : F
  yawRateRadS : F
  altitudeM : F
  airspeedMps : F
  loadFactor : F

/-- A setpoint being limited, with the axes limited so far. -/
abbrev Constrained (F : Type) := Setpoint F × AxisLimitFlags

namespace SimpleEnvelopeProtector

variable [Scalar F]

/-- The bound a value is limited to when it lies outside `[lo, hi]`. The upper
bound is tested first. -/
def limitTo (x lo hi : F) : Option F :=
  if Scalar.lt hi x then some hi else if Scalar.lt x lo then some lo else none

/-- Record `axis` when a limit acted. -/
def flagIf (limited : Option F) (axis flags : AxisLimitFlags) : AxisLimitFlags :=
  if limited.isSome then flags.insert axis else flags

/-- 1. Roll and pitch of the attitude setpoint. -/
def constrainAttitude [Libm F] (limits : Limits F) : Constrained F → Constrained F
  | (sp, flags) => match sp.attitude with
    | none => (sp, flags)
    | some att =>
      let (r, p, y) := att.toEuler
      let rClamped := limitTo r (-limits.maxRoll) limits.maxRoll
      let pClamped := limitTo p (-limits.maxPitch) limits.maxPitch
      let flags := flagIf pClamped AxisLimitFlags.pitch (flagIf rClamped AxisLimitFlags.roll flags)
      if rClamped.isSome || pClamped.isSome then
        -- The quaternion is rebuilt from the clamped angles, Z-Y-X.
        let qx := Quaternion.fromAxisAngle ⟨lit 1, lit 0, lit 0⟩ (rClamped.getD r)
        let qy := Quaternion.fromAxisAngle ⟨lit 0, lit 1, lit 0⟩ (pClamped.getD p)
        let qz := Quaternion.fromAxisAngle ⟨lit 0, lit 0, lit 1⟩ y
        ({ sp with attitude := some ((qz.mul qy).mul qx) }, flags)
      else (sp, flags)

/-- 1b. Angular rates. The roll and pitch bits are shared with the angles. -/
def constrainRates (limits : Limits F) : Constrained F → Constrained F
  | (sp, flags) => match sp.angularRate with
    | none => (sp, flags)
    | some rates =>
      let roll := limitTo rates[0] (-limits.maxRollRate) limits.maxRollRate
      let pitch := limitTo rates[1] (-limits.maxPitchRate) limits.maxPitchRate
      let yaw := limitTo rates[2] (-limits.maxYawRate) limits.maxYawRate
      let limited := #v[roll.getD rates[0], pitch.getD rates[1], yaw.getD rates[2]]
      ({ sp with angularRate := some limited },
        flagIf yaw AxisLimitFlags.yaw
          (flagIf pitch AxisLimitFlags.pitch (flagIf roll AxisLimitFlags.roll flags)))

/-- 2. Altitude: the upper bound, then the lower bound on what is left. -/
def constrainAltitude (limits : Limits F) : Constrained F → Constrained F
  | (sp, flags) => match sp.altitude with
    | none => (sp, flags)
    | some alt =>
      let (alt, flags) :=
        if Scalar.lt limits.maxAltitude alt then
          (limits.maxAltitude, flags.insert AxisLimitFlags.altitude)
        else (alt, flags)
      let (alt, flags) :=
        if Scalar.lt alt limits.minAltitude then
          (limits.minAltitude, flags.insert AxisLimitFlags.altitude)
        else (alt, flags)
      ({ sp with altitude := some alt }, flags)

/-- 3. Vertical speed, NED down-positive. The climb bound is tested first. -/
def constrainVerticalSpeed (limits : Limits F) : Constrained F → Constrained F
  | (sp, flags) => match sp.verticalSpeed with
    | none => (sp, flags)
    | some vz =>
      let minVz := -limits.maxClimbRate
      let maxVz := limits.maxDescentRate
      if Scalar.lt vz minVz then
        ({ sp with verticalSpeed := some minVz }, flags.insert AxisLimitFlags.speed)
      else if Scalar.lt maxVz vz then
        ({ sp with verticalSpeed := some maxVz }, flags.insert AxisLimitFlags.speed)
      else (sp, flags)

/-- 4. Horizontal speed: the horizontal part is scaled to the limit. -/
def constrainHorizontalSpeed [Libm F] (limits : Limits F) : Constrained F → Constrained F
  | (sp, flags) => match sp.velocity with
    | none => (sp, flags)
    | some vel =>
      let hSpeedSq := vel[0] * vel[0] + vel[1] * vel[1]
      let maxSq := limits.maxHorizontalSpeed * limits.maxHorizontalSpeed
      if Scalar.lt maxSq hSpeedSq then
        let scale := limits.maxHorizontalSpeed / sqrtf hSpeedSq
        let scaled := #v[vel[0] * scale, vel[1] * scale, vel[2]]
        ({ sp with velocity := some scaled }, flags.insert AxisLimitFlags.speed)
      else (sp, flags)

/-- Limit a setpoint to the flight envelope. -/
def constrain [Libm F] (rawSp : Setpoint F) (_state : StateEstimate F) (limits : Limits F)
    (_authority : AuthorityProfile) : Setpoint F × ProtectionStatus :=
  let (sp, flags) :=
    constrainHorizontalSpeed limits <| constrainVerticalSpeed limits <|
      constrainAltitude limits <| constrainRates limits <| constrainAttitude limits
        (rawSp, .empty)
  (sp, ⟨flags, !flags.isEmpty⟩)

end SimpleEnvelopeProtector

/-- The controlled descent of the terminal failsafe: level attitude at the current
heading, sinking at the envelope's descent rate. -/
def descendCommand [Scalar F] [Libm F] (state : StateEstimate F) (limits : Limits F)
    (sequence : UInt32) : Command F :=
  let (_, _, yaw) := state.attitude.toEuler
  let level := (Quaternion.fromAxisAngle ⟨lit 0, lit 0, lit 1⟩ yaw).normalize
  { mode := .altitudeHold
    setpoint := { Setpoint.default with
      attitude := some level
      verticalSpeed := some limits.maxDescentRate
      heading := some yaw }
    configModeRequest := none
    sensorOverrides := none
    sequence := sequence
    source := .failsafe }

end Aviate

end CoreEnvelope

section ControlDesaturate

/-!
# Priority desaturation of the quad mixers

`mix_desaturated` (`mixer/desaturate.rs`) with the sign tables of the three quad geometries
(`mixer.rs`). Roll and pitch are scaled to the actuator span, the collective moves to where they
fit, and yaw takes the headroom left, for which it may shift the collective once more.

Results, in exact arithmetic:
1. The motor values before the final clamp are in `[0, 1]` (`motor_mem`).
2. Roll and pitch keep their direction (`exists_scale`), the shift is bounded (`abs_shift_le`) and
   the applied yaw lies between zero and the request (`appliedYaw_mem`).
3. Where two motors oppose each other in roll and pitch, the shift widens the headroom in the
   requested direction (`Fits.shift`), so it never reduces the yaw (`abs_yaw_le_abs_appliedYaw`).
4. `desaturation_law` collects them. `shift_reduces_yaw` is a sign table without opposed motors.
-/

namespace Aviate

variable {F : Type}

/-! ## The mixer -/

/-- Per-motor sign of each axis's contribution. -/
structure QuadSigns (F : Type) where
  roll : Vector F 4
  pitch : Vector F 4
  yaw : Vector F 4

/-- What a mixer is asked for. -/
structure AxisDemand (F : Type) where
  collective : F
  roll : F
  pitch : F
  yaw : F

namespace Desaturate

section Model

variable [Scalar F]

/-- How much collective a clipped yaw request may pull. -/
def yawCollectiveMargin : F := lit (3 / 20)

variable (signs : QuadSigns F) (d : AxisDemand F)

/-- The roll and pitch contribution of each motor, as requested. -/
def requestedRp : Vector F 4 := .ofFn fun i => signs.roll[i] * d.roll + signs.pitch[i] * d.pitch

/-- `(min, max)` of the four roll/pitch offsets. -/
def rpBound (rp : Vector F 4) : F × F :=
  (Scalar.min (Scalar.min (Scalar.min rp[0] rp[1]) rp[2]) rp[3],
    Scalar.max (Scalar.max (Scalar.max rp[0] rp[1]) rp[2]) rp[3])

/-- The requested offsets, scaled to the full actuator span if they alone exceed it. -/
def scaledRp : Vector F 4 :=
  let rp := requestedRp signs d
  let (rpMin, rpMax) := rpBound rp
  if Scalar.lt (lit 1) (rpMax - rpMin) then
    let s := lit 1 / (rpMax - rpMin)
    rp.map fun v => v * s
  else rp

/-- The bounds of the offsets, scaled with them. -/
def scaledBound : F × F :=
  let (rpMin, rpMax) := rpBound (requestedRp signs d)
  if Scalar.lt (lit 1) (rpMax - rpMin) then
    let s := lit 1 / (rpMax - rpMin)
    (rpMin * s, rpMax * s)
  else (rpMin, rpMax)

/-- The collective nearest to the demand at which roll and pitch fit. -/
def feasibleCollective : F :=
  let (rpMin, rpMax) := scaledBound signs d
  Scalar.min (Scalar.max d.collective (-rpMin)) (lit 1 - rpMax)

/-- The yaw contributions that keep every motor in `[0, 1]`. -/
def yawHeadroom (t : F) (rp : Vector F 4) : F × F :=
  (List.finRange 4).foldl (fun (yLo, yHi) i =>
    let base := t + rp[i]
    if Scalar.lt (lit 0) signs.yaw[i] then
      (Scalar.max yLo (-base), Scalar.min yHi (lit 1 - base))
    else (Scalar.max yLo (base - lit 1), Scalar.min yHi base)) (-lit 1, lit 1)

/-- The motor is pushed up by a request past the upper, or the lower, end of the headroom. -/
def risesForRequest (above : Bool) (i : Fin 4) : Bool := Scalar.lt (lit 0) signs.yaw[i] == above

/-- The collective that equalizes the tightest motors in the requested direction. -/
def idealCollective (rp : Vector F 4) (above : Bool) : F :=
  let (risingMax, fallingMin) := (List.finRange 4).foldl (fun (risingMax, fallingMin) i =>
    if risesForRequest signs above i then (Scalar.max risingMax rp[i], fallingMin)
    else (risingMax, Scalar.min fallingMin rp[i])) (-lit 1, lit 1)
  (lit 1 - risingMax - fallingMin) / lit 2

/-- Shift the collective by up to the margin when the yaw request exceeds its headroom. -/
def shiftForYaw (t yaw : F) (rp : Vector F 4) : F :=
  let (yLo, yHi) := yawHeadroom signs t rp
  if Scalar.le yLo yaw && Scalar.le yaw yHi then t
  else
    let ideal := idealCollective signs rp (Scalar.lt yHi yaw)
    let near := Scalar.min (Scalar.max ideal (t - yawCollectiveMargin)) (t + yawCollectiveMargin)
    Scalar.min (Scalar.max near (-(rpBound rp).1)) (lit 1 - (rpBound rp).2)

/-- The yaw applied at a collective. -/
def yawAt (t yaw : F) (rp : Vector F 4) : F :=
  let (yLo, yHi) := yawHeadroom signs t rp
  Scalar.min (Scalar.max yaw yLo) yHi

/-- The collective the motors are mixed around. -/
def mixedCollective : F :=
  shiftForYaw signs (feasibleCollective signs d) d.yaw (scaledRp signs d)

def appliedYaw : F := yawAt signs (mixedCollective signs d) d.yaw (scaledRp signs d)

/-- A motor before the final clamp. -/
def motor (i : Fin 4) : F :=
  mixedCollective signs d + (scaledRp signs d)[i] + signs.yaw[i] * appliedYaw signs d

def mixDesaturated : Vector F 4 :=
  .ofFn fun i => Scalar.clamp (motor signs d i) (lit 0) (lit 1)

theorem rises_true {i : Fin 4} : risesForRequest signs true i = Scalar.lt (lit 0) signs.yaw[i] := by
  simp [risesForRequest]

theorem rises_false {i : Fin 4} :
    risesForRequest signs false i = !Scalar.lt (lit 0) signs.yaw[i] := by
  simp [risesForRequest]

end Model

/-! ## The geometries -/

section Geometries

variable [Scalar F]

def quadXSigns : QuadSigns F where
  roll := #v[-lit 1, lit 1, lit 1, -lit 1]
  pitch := #v[lit 1, lit 1, -lit 1, -lit 1]
  yaw := #v[-lit 1, lit 1, lit 1, -lit 1]

def quadX500Signs : QuadSigns F where
  roll := #v[-lit 1, lit 1, lit 1, -lit 1]
  pitch := #v[lit 1, -lit 1, lit 1, -lit 1]
  yaw := #v[lit 1, lit 1, -lit 1, -lit 1]

def quadX500ReversedSigns : QuadSigns F where
  roll := #v[-lit 1, lit 1, lit 1, -lit 1]
  pitch := #v[lit 1, -lit 1, lit 1, -lit 1]
  yaw := #v[-lit 1, -lit 1, lit 1, lit 1]

end Geometries

/-! ## Folds and clamps -/

/-- What each step of a fold adds to a property of the state, the fold adds for every element. -/
theorem foldl_iff {α σ : Type} {step : σ → α → σ} {P : σ → Prop} {A : α → Prop}
    (hstep : ∀ s a, P (step s a) ↔ P s ∧ A a) {l : List α} {s : σ} :
    P (l.foldl step s) ↔ P s ∧ ∀ a ∈ l, A a := by
  induction l generalizing s with
  | nil => simp
  | cons a l ih => rw [List.foldl_cons, ih, hstep, List.forall_mem_cons, and_assoc]

/-- A clamp to an interval that holds `t` moves a value towards `t`. -/
theorem clamp_mem_uIcc {α : Type} [LinearOrder α] {t x lo hi : α} (hlo : lo ≤ t) (hhi : t ≤ hi) :
    min (max x lo) hi ∈ Set.uIcc t x := by
  rcases le_total t x with h | h
  · rw [Set.uIcc_of_le h]
    exact ⟨le_min (h.trans (le_max_left _ _)) hhi,
      (min_le_left _ _).trans (max_le le_rfl (hlo.trans h))⟩
  · rw [Set.uIcc_of_ge h]
    exact ⟨le_min (le_max_left _ _) (h.trans hhi), (min_le_left _ _).trans (max_le h hlo)⟩

section Exact

variable {K : Type} [Field K] [LinearOrder K]
variable {signs : QuadSigns K} {d : AxisDemand K} {rp : Vector K 4} {t t' y x : K}
variable {i : Fin 4} {above : Bool}

/-! ## Offsets -/

theorem le_rpBound_fst : x ≤ (rpBound rp).1 ↔ ∀ i : Fin 4, x ≤ rp[i] := by
  simp [rpBound, Fin.forall_fin_succ, and_assoc]

theorem rpBound_snd_le : (rpBound rp).2 ≤ x ↔ ∀ i : Fin 4, rp[i] ≤ x := by
  simp [rpBound, Fin.forall_fin_succ, and_assoc]

/-- Every motor's collective and offset are in `[0, 1]`. -/
def Feasible (rp : Vector K 4) (t : K) : Prop := -(rpBound rp).1 ≤ t ∧ t ≤ 1 - (rpBound rp).2

variable [IsStrictOrderedRing K]

theorem Feasible.mem (h : Feasible rp t) (i : Fin 4) : 0 ≤ t + rp[i] ∧ t + rp[i] ≤ 1 := by
  have hlow : (rpBound rp).1 ≤ rp[i] := le_rpBound_fst.mp le_rfl i
  have hhigh : rp[i] ≤ (rpBound rp).2 := rpBound_snd_le.mp le_rfl i
  constructor <;> linarith [h.1, h.2]

theorem rpBound_map (hx : 0 ≤ x) :
    rpBound (rp.map fun v => v * x) = ((rpBound rp).1 * x, (rpBound rp).2 * x) := by
  simp [rpBound, min_mul_of_nonneg _ _ hx, max_mul_of_nonneg _ _ hx]

/-- The offsets are the requested ones times one factor, which is 1 while they fit. -/
theorem exists_scale (signs : QuadSigns K) (d : AxisDemand K) : ∃ s : K, 0 < s ∧ s ≤ 1 ∧
    ((rpBound (requestedRp signs d)).2 - (rpBound (requestedRp signs d)).1 ≤ 1 → s = 1) ∧
      (scaledRp signs d = (requestedRp signs d).map fun v => v * s) ∧
        scaledBound signs d = rpBound (scaledRp signs d) ∧
          (rpBound (scaledRp signs d)).2 - (rpBound (scaledRp signs d)).1 ≤ 1 := by
  unfold scaledRp scaledBound
  generalize requestedRp signs d = rp
  dsimp only
  have hone : (lit 1 : K) = 1 := by simp
  rw [lt_field, hone]
  rcases le_or_gt ((rpBound rp).2 - (rpBound rp).1) 1 with hfit | hover
  · refine ⟨1, one_pos, le_rfl, fun _ => rfl, ?_, ?_, ?_⟩ <;>
      simp [hfit.not_gt, hfit]
  · have hpos : 0 < (rpBound rp).2 - (rpBound rp).1 := one_pos.trans hover
    have hs : 0 ≤ 1 / ((rpBound rp).2 - (rpBound rp).1) := by positivity
    simp only [hover, decide_true, if_true]
    refine ⟨1 / ((rpBound rp).2 - (rpBound rp).1), by positivity, ?_, fun h => ?_, rfl, ?_, ?_⟩
    · exact (div_le_one hpos).mpr hover.le
    · exact absurd h hover.not_ge
    · rw [rpBound_map hs]
    · rw [rpBound_map hs, ← sub_mul, mul_one_div_cancel hpos.ne']

theorem feasible_feasibleCollective : Feasible (scaledRp signs d) (feasibleCollective signs d) := by
  obtain ⟨-, -, -, -, -, hbound, hspan⟩ := exists_scale signs d
  have hone : (lit 1 : K) = 1 := by simp
  unfold feasibleCollective Feasible
  simp only [hbound, min_field, max_field, hone]
  exact ⟨le_min (le_max_right _ _) (by linarith), min_le_right _ _⟩

/-! ## Headroom -/

/-- A yaw contribution fits in the direction that pushes the rising motors up. -/
def Fits (signs : QuadSigns K) (above : Bool) (t : K) (rp : Vector K 4) (y : K) : Prop :=
  y ≤ 1 ∧ ∀ i, if risesForRequest signs above i then t + rp[i] + y ≤ 1 else y ≤ t + rp[i]

theorem le_yawHeadroom_snd : y ≤ (yawHeadroom signs t rp).2 ↔ Fits signs true t rp y := by
  unfold yawHeadroom Fits
  refine (foldl_iff (P := fun p : K × K => y ≤ p.2) (A := fun i =>
    if risesForRequest signs true i then t + rp[i] + y ≤ 1 else y ≤ t + rp[i]) ?_).trans ?_
  · rintro ⟨low, high⟩ i
    simp only [rises_true]
    split
    · rw [min_field, le_min_iff, lit_field, Rat.cast_one, le_sub_iff_add_le, add_comm y]
    · rw [min_field, le_min_iff]
  · simp

theorem yawHeadroom_fst_le : (yawHeadroom signs t rp).1 ≤ -y ↔ Fits signs false t rp y := by
  unfold yawHeadroom Fits
  refine (foldl_iff (P := fun p : K × K => p.1 ≤ -y) (A := fun i =>
    if risesForRequest signs false i then t + rp[i] + y ≤ 1 else y ≤ t + rp[i]) ?_).trans ?_
  · rintro ⟨low, high⟩ i
    simp only [rises_false]
    cases Scalar.lt (lit 0) signs.yaw[i] with
    | true =>
      simp only [if_true, Bool.not_true, Bool.false_eq_true, if_false]
      rw [max_field, max_le_iff, neg_le_neg_iff]
    | false =>
      simp only [Bool.false_eq_true, if_false, Bool.not_false, if_true]
      rw [max_field, max_le_iff, lit_field, Rat.cast_one, sub_le_iff_le_add, neg_add_eq_sub,
        le_sub_iff_add_le]
  · simp

/-- The offsets of the tightest rising and falling motor that `idealCollective` takes. -/
theorem exists_tightest (signs : QuadSigns K) (above : Bool) (rp : Vector K 4) :
    ∃ rising falling : K, idealCollective signs rp above = (1 - rising - falling) / 2 ∧
      (∀ x, rising ≤ x ↔ -1 ≤ x ∧ ∀ i, risesForRequest signs above i = true → rp[i] ≤ x) ∧
        ∀ x, x ≤ falling ↔ x ≤ 1 ∧ ∀ i, risesForRequest signs above i = false → x ≤ rp[i] := by
  refine ⟨_, _, by simp [idealCollective]; rfl, fun x => ?_, fun x => ?_⟩
  · refine (foldl_iff (P := fun p : K × K => p.1 ≤ x)
      (A := fun i => risesForRequest signs above i = true → rp[i] ≤ x) ?_).trans ?_
    · rintro ⟨rising, falling⟩ i
      cases risesForRequest signs above i <;> simp
    · simp
  · refine (foldl_iff (P := fun p : K × K => x ≤ p.2)
      (A := fun i => risesForRequest signs above i = false → x ≤ rp[i]) ?_).trans ?_
    · rintro ⟨rising, falling⟩ i
      cases risesForRequest signs above i <;> simp
    · simp

/-- A yaw that fits still fits when the collective moves towards the ideal one. -/
theorem Fits.shift (h : Fits signs above t rp y) (hlow : 0 ≤ t) (hhigh : t ≤ 1)
    (ht' : t' ∈ Set.uIcc t (idealCollective signs rp above)) : Fits signs above t' rp y := by
  obtain ⟨rising, falling, hideal, hrising, hfalling⟩ := exists_tightest signs above rp
  obtain ⟨hone, hmotors⟩ := h
  -- What the tightest motors leave at `t` is at least the yaw.
  have hrise : rising ≤ 1 - t - y := by
    refine (hrising _).mpr ⟨by linarith, fun i hi => ?_⟩
    have hmotor := hmotors i
    rw [if_pos hi] at hmotor
    linarith
  have hfall : y - t ≤ falling := by
    refine (hfalling _).mpr ⟨by linarith, fun i hi => ?_⟩
    have hmotor := hmotors i
    rw [if_neg (by simp [hi])] at hmotor
    linarith
  refine ⟨hone, fun i => ?_⟩
  have hmotor := hmotors i
  rw [hideal] at ht'
  cases hi : risesForRequest signs above i with
  | true =>
    have htight := ((hrising rising).mp le_rfl).2 i hi
    simp only [hi, if_true] at hmotor ⊢
    rcases Set.mem_uIcc.mp ht' with ⟨hmove, hmove'⟩ | ⟨hmove, hmove'⟩ <;> linarith
  | false =>
    have htight := ((hfalling falling).mp le_rfl).2 i hi
    simp only [hi, Bool.false_eq_true, if_false] at hmotor ⊢
    rcases Set.mem_uIcc.mp ht' with ⟨hmove, hmove'⟩ | ⟨hmove, hmove'⟩ <;> linarith

/-! ## The shift -/

theorem Feasible.fits_zero (h : Feasible rp t) : Fits signs above t rp 0 := by
  refine ⟨zero_le_one, fun i => ?_⟩
  obtain ⟨hlow, hhigh⟩ := h.mem i
  split
  · linarith
  · exact hlow

theorem Feasible.headroom (signs : QuadSigns K) (h : Feasible rp t) :
    (yawHeadroom signs t rp).1 ≤ 0 ∧ 0 ≤ (yawHeadroom signs t rp).2 := by
  constructor
  · have hfits : Fits signs false t rp 0 := h.fits_zero
    simpa using yawHeadroom_fst_le.mpr hfits
  · exact le_yawHeadroom_snd.mpr h.fits_zero

/-- The collective stays, or the request is past the headroom and the collective moves towards the
ideal one of that direction. -/
theorem shift_cases (signs : QuadSigns K) (y : K) (h : Feasible rp t) :
    shiftForYaw signs t y rp = t ∨
      ∃ above, (if above then (yawHeadroom signs t rp).2 < y else y < (yawHeadroom signs t rp).1) ∧
        shiftForYaw signs t y rp ∈ Set.uIcc t (idealCollective signs rp above) ∧
          |shiftForYaw signs t y rp - t| ≤ 3 / 20 ∧ Feasible rp (shiftForYaw signs t y rp) := by
  have hmargin : (yawCollectiveMargin : K) = 3 / 20 := by simp [yawCollectiveMargin]
  have hone : (lit 1 : K) = 1 := by simp
  unfold shiftForYaw
  dsimp only
  split
  · exact .inl rfl
  next hpast =>
  right
  simp only [le_field, Bool.and_eq_true, decide_eq_true_eq, not_and_or, not_le] at hpast
  simp only [min_field, max_field, hmargin, hone, lt_field]
  generalize hideal : idealCollective signs rp (decide ((yawHeadroom signs t rp).2 < y)) = ideal
  generalize hnear : min (max ideal (t - 3 / 20)) (t + 3 / 20) = near
  have hclose : near ∈ Set.uIcc t ideal := by
    rw [← hnear]
    exact clamp_mem_uIcc (by linarith) (by linarith)
  have hbounds : |near - t| ≤ 3 / 20 := by
    have hlow : t - 3 / 20 ≤ near := by
      rw [← hnear]
      exact le_min (le_max_right _ _) (by linarith)
    have hhigh : near ≤ t + 3 / 20 := by
      rw [← hnear]
      exact min_le_right _ _
    rw [abs_le]
    constructor <;> linarith
  have hmoved : min (max near (-(rpBound rp).1)) (1 - (rpBound rp).2) ∈ Set.uIcc t near :=
    clamp_mem_uIcc h.1 h.2
  refine ⟨decide ((yawHeadroom signs t rp).2 < y), ?_, ?_, ?_, ?_, min_le_right _ _⟩
  · simp only [decide_eq_true_eq]
    split
    · assumption
    · next hbelow => exact hpast.resolve_right hbelow
  · rw [hideal]
    exact Set.uIcc_subset_uIcc Set.left_mem_uIcc hclose hmoved
  · exact (Set.abs_sub_left_of_mem_uIcc hmoved).trans hbounds
  · exact le_min (le_max_right _ _) (h.1.trans h.2)

/-! ## The applied yaw -/

theorem feasible_mixedCollective : Feasible (scaledRp signs d) (mixedCollective signs d) := by
  have h : Feasible (scaledRp signs d) (feasibleCollective signs d) := feasible_feasibleCollective
  rcases shift_cases signs d.yaw h with hkept | ⟨-, -, -, -, hmoved⟩
  · rw [mixedCollective, hkept]
    exact h
  · exact hmoved

theorem abs_shift_le : |mixedCollective signs d - feasibleCollective signs d| ≤ 3 / 20 := by
  have h : Feasible (scaledRp signs d) (feasibleCollective signs d) := feasible_feasibleCollective
  rcases shift_cases signs d.yaw h with hkept | ⟨-, -, -, hmargin, -⟩
  · rw [mixedCollective, hkept, sub_self, abs_zero]
    norm_num
  · exact hmargin

omit [IsStrictOrderedRing K] in
theorem yawAt_eq : yawAt signs t y rp =
    min (max y (yawHeadroom signs t rp).1) (yawHeadroom signs t rp).2 := by
  simp [yawAt]

/-- The applied yaw lies between zero and the request. -/
theorem appliedYaw_mem : appliedYaw signs d ∈ Set.uIcc 0 d.yaw := by
  have hfeasible : Feasible (scaledRp signs d) (mixedCollective signs d) :=
    feasible_mixedCollective
  obtain ⟨hlow, hhigh⟩ := Feasible.headroom signs hfeasible
  rw [appliedYaw, yawAt_eq]
  exact clamp_mem_uIcc hlow hhigh

/-- Every entry is `1` or `-1`. -/
def UnitSigns (signs : QuadSigns K) : Prop :=
  ∀ i : Fin 4, (signs.roll[i] = 1 ∨ signs.roll[i] = -1) ∧
    (signs.pitch[i] = 1 ∨ signs.pitch[i] = -1) ∧ (signs.yaw[i] = 1 ∨ signs.yaw[i] = -1)

instance : Decidable (UnitSigns signs) :=
  inferInstanceAs (Decidable (∀ i : Fin 4, (signs.roll[i] = 1 ∨ signs.roll[i] = -1) ∧
    (signs.pitch[i] = 1 ∨ signs.pitch[i] = -1) ∧ (signs.yaw[i] = 1 ∨ signs.yaw[i] = -1)))

/-- Every motor is in range before the final clamp. -/
theorem motor_mem (hunit : UnitSigns signs) : 0 ≤ motor signs d i ∧ motor signs d i ≤ 1 := by
  have hfeasible : Feasible (scaledRp signs d) (mixedCollective signs d) :=
    feasible_mixedCollective
  obtain ⟨hlow, hhigh⟩ := Feasible.headroom signs hfeasible
  have hup : appliedYaw signs d ≤ (yawHeadroom signs (mixedCollective signs d)
      (scaledRp signs d)).2 := by
    rw [appliedYaw, yawAt_eq]
    exact min_le_right _ _
  have hdown : (yawHeadroom signs (mixedCollective signs d) (scaledRp signs d)).1 ≤
      - -appliedYaw signs d := by
    rw [neg_neg, appliedYaw, yawAt_eq]
    exact le_min (le_max_right _ _) (hlow.trans hhigh)
  have hfits := (le_yawHeadroom_snd.mp hup).2 i
  have hfits' := (yawHeadroom_fst_le.mp hdown).2 i
  have hzero : (lit 0 : K) = 0 := by simp
  simp only [rises_true, rises_false, lt_field, hzero] at hfits hfits'
  unfold motor
  rcases (hunit i).2.2 with hsign | hsign
  · simp only [hsign, zero_lt_one, decide_true, if_true, Bool.not_true, Bool.false_eq_true,
      if_false] at hfits hfits'
    constructor <;> rw [hsign] <;> linarith
  · have hneg : ¬(0 : K) < -1 := by norm_num
    simp only [hsign, hneg, decide_false, Bool.false_eq_true, if_false, Bool.not_false,
      if_true] at hfits hfits'
    constructor <;> rw [hsign] <;> linarith

/-! ## Opposed motors -/

/-- Two motors oppose each other in roll and in pitch. -/
def Opposed (signs : QuadSigns K) : Prop :=
  ∃ i j : Fin 4, signs.roll[i] = -signs.roll[j] ∧ signs.pitch[i] = -signs.pitch[j]

/-- Between opposed motors the offsets span zero, so the collective is in `[0, 1]`. -/
theorem collective_mem (hopposed : Opposed signs) (h : Feasible (scaledRp signs d) t) :
    0 ≤ t ∧ t ≤ 1 := by
  obtain ⟨i, j, hroll, hpitch⟩ := hopposed
  obtain ⟨s, -, -, -, hscale, -⟩ := exists_scale signs d
  have hoffsets : (scaledRp signs d)[i] = -(scaledRp signs d)[j] := by
    rw [hscale]
    simp only [requestedRp, Fin.getElem_fin, Vector.getElem_map, Vector.getElem_ofFn] at *
    rw [hroll, hpitch]
    ring
  obtain ⟨hlow, hhigh⟩ := h.mem i
  obtain ⟨hlow', hhigh'⟩ := h.mem j
  rw [hoffsets] at hlow hhigh
  constructor <;> linarith

/-- The shift does not reduce the yaw. -/
theorem abs_yaw_le_abs_appliedYaw (hopposed : Opposed signs) :
    |yawAt signs (feasibleCollective signs d) d.yaw (scaledRp signs d)| ≤
      |appliedYaw signs d| := by
  have hfeasible : Feasible (scaledRp signs d) (feasibleCollective signs d) :=
    feasible_feasibleCollective
  obtain ⟨hzero, hone⟩ := collective_mem hopposed hfeasible
  obtain ⟨hlow, hhigh⟩ := Feasible.headroom signs hfeasible
  rcases shift_cases signs d.yaw hfeasible with hkept | ⟨above, hpast, hmoved, -, -⟩
  · rw [appliedYaw, mixedCollective, hkept]
  change mixedCollective signs d ∈ _ at hmoved
  generalize feasibleCollective signs d = t at *
  rw [appliedYaw, yawAt_eq, yawAt_eq]
  cases above with
  | true =>
    replace hpast : (yawHeadroom signs t (scaledRp signs d)).2 < d.yaw := hpast
    have hfits := le_yawHeadroom_snd.mp (le_refl (yawHeadroom signs t (scaledRp signs d)).2)
    have hwider := le_yawHeadroom_snd.mpr (hfits.shift hzero hone hmoved)
    rw [max_eq_left (hlow.trans (hhigh.trans hpast.le)), min_eq_right hpast.le,
      abs_of_nonneg hhigh]
    exact (le_min (hpast.le.trans (le_max_left _ _)) hwider).trans (le_abs_self _)
  | false =>
    replace hpast : d.yaw < (yawHeadroom signs t (scaledRp signs d)).1 := hpast
    have hfits := yawHeadroom_fst_le.mp (neg_neg (yawHeadroom signs t (scaledRp signs d)).1).ge
    have hwider := yawHeadroom_fst_le.mpr (hfits.shift hzero hone hmoved)
    rw [neg_neg] at hwider
    rw [max_eq_right hpast.le, min_eq_left (hlow.trans hhigh), abs_of_nonpos hlow]
    refine le_trans (neg_le_neg ?_) (neg_le_abs _)
    exact (min_le_left _ _).trans (max_le hpast.le hwider)

/-! ## The law -/

/-- What the mixer does to a demand. -/
structure DesaturationLaw (signs : QuadSigns K) (d : AxisDemand K) : Prop where
  inRange : ∀ i : Fin 4, 0 ≤ motor signs d i ∧ motor signs d i ≤ 1
  unclamped : ∀ i : Fin 4, (mixDesaturated signs d)[i] = motor signs d i
  scaled : ∃ s : K, 0 < s ∧ s ≤ 1 ∧
    ((rpBound (requestedRp signs d)).2 - (rpBound (requestedRp signs d)).1 ≤ 1 → s = 1) ∧
      ∀ i : Fin 4, motor signs d i =
        mixedCollective signs d + s * (requestedRp signs d)[i] +
          signs.yaw[i] * appliedYaw signs d
  shift : |mixedCollective signs d - feasibleCollective signs d| ≤ 3 / 20
  yaw : appliedYaw signs d ∈ Set.uIcc 0 d.yaw
  notReduced : Opposed signs →
    |yawAt signs (feasibleCollective signs d) d.yaw (scaledRp signs d)| ≤ |appliedYaw signs d|

/-- Every table of unit signs keeps the law for every demand. -/
theorem desaturation_law (hunit : UnitSigns signs) : DesaturationLaw signs d where
  inRange _ := motor_mem hunit
  unclamped i := by
    obtain ⟨hlow, hhigh⟩ := motor_mem (d := d) (i := i) hunit
    simp [mixDesaturated, clamp_field, hlow, hhigh]
  scaled := by
    obtain ⟨s, hpos, hle, hone, hscale, -⟩ := exists_scale signs d
    refine ⟨s, hpos, hle, hone, fun i => ?_⟩
    simp only [motor, hscale, Fin.getElem_fin, Vector.getElem_map, mul_comm s]
  shift := abs_shift_le
  yaw := appliedYaw_mem
  notReduced := abs_yaw_le_abs_appliedYaw

omit [IsStrictOrderedRing K] in
/-- The three geometries have unit signs and opposed motors. -/
theorem geometries_opposed : ∀ signs ∈ [(quadXSigns : QuadSigns K), quadX500Signs,
    quadX500ReversedSigns], UnitSigns signs ∧ Opposed signs := by
  simp only [List.forall_mem_cons, List.not_mem_nil, false_imp_iff, implies_true, and_true]
  refine ⟨⟨?_, 0, 2, ?_⟩, ⟨?_, 0, 1, ?_⟩, ⟨?_, 0, 1, ?_⟩⟩
  all_goals simp [UnitSigns, quadXSigns, quadX500Signs, quadX500ReversedSigns,
    Fin.forall_fin_succ]

end Exact

/-! ## Limits of the law -/

theorem desaturation_law_quadX :
    DesaturationLaw (quadXSigns : QuadSigns ℚ) ⟨1 / 2, 1 / 5, 0, 1⟩ :=
  desaturation_law (by decide +kernel)

/-- Four motors that all roll, pitch and yaw the same way. -/
def parallelSigns : QuadSigns ℚ := ⟨.replicate 4 1, .replicate 4 1, .replicate 4 1⟩

/-- Without opposed motors the shift can take yaw away, and with them roll and pitch can leave
none. -/
theorem shift_reduces_yaw :
    (UnitSigns parallelSigns ∧
      |appliedYaw parallelSigns ⟨-1, 3 / 5, 0, 2⟩| <
        |yawAt parallelSigns (feasibleCollective parallelSigns ⟨-1, 3 / 5, 0, 2⟩) 2
          (scaledRp parallelSigns ⟨-1, 3 / 5, 0, 2⟩)|) ∧
      appliedYaw (quadX500Signs : QuadSigns ℚ) ⟨1 / 2, 1 / 4, 1 / 4, 1⟩ = 0 := by
  decide +kernel

end Desaturate

end Aviate

end ControlDesaturate

section ControlGains

/-!
# Tuning of the control cascade

The gains and limits of the multirotor cascade with their validation
(`control/cascade_gains.rs`), and the fixed limits of the control law
(`control/law_invariants.rs`).
-/

namespace Aviate

variable {F : Type}

/-! ## Limits of the control law -/

section LawInvariants

variable [Scalar F]

def standardGravityMps2 : F := lit (981 / 100)

def maxHorizontalAccelCmdMps2 : F := standardGravityMps2

/-- Floor of the cosine the collective is divided by. -/
def tiltCompCosFloor : F := lit (1 / 2)

end LawInvariants

/-! ## Gains -/

structure CascadeGains (F : Type) where
  posP : Vector F 3
  posAccelLimits : Vector F 3
  posVelCaps : Vector F 3
  velP : Vector F 3
  velI : Vector F 3
  velMaxRollPitch : F
  velMaxYawStep : F
  velAccelFf : F
  velD : Vector F 3
  attP : Vector F 3
  attMaxRateCmd : F
  rateP : Vector F 3
  rateI : Vector F 3
  rateD : Vector F 3
  rateDLpfAlpha : F

inductive CascadeGainsError (F : Type) where
  | nonNegativeGain (name : String) (axis : Nat)
  | feedforwardOutOfRange (value : F)
  | lpfAlphaOutOfRange (value : F)

namespace CascadeGains

/-- The default tuning of an X500-class quadrotor. -/
def x500Defaults [Scalar F] : CascadeGains F where
  posP := #v[lit (1 / 2), lit (1 / 2), lit (1 / 2)]
  posAccelLimits := #v[lit 2, lit 2, lit 1]
  posVelCaps := #v[lit 2, lit 2, lit (3 / 2)]
  velP := #v[lit (6 / 5), lit (6 / 5), lit (2 / 5)]
  velI := #v[lit (1 / 20), lit (1 / 20), lit (1 / 20)]
  velMaxRollPitch := lit (7 / 20)
  velMaxYawStep := lit (3 / 5)
  velAccelFf := lit 0
  velD := #v[lit 0, lit 0, lit 0]
  attP := #v[lit (7 / 2), lit (7 / 2), lit (5 / 2)]
  attMaxRateCmd := lit 3
  rateP := #v[lit (3 / 10), lit (3 / 10), lit (3 / 5)]
  rateI := #v[lit 0, lit 0, lit 0]
  rateD := #v[lit 0, lit 0, lit (1 / 20)]
  rateDLpfAlpha := lit (1 / 2)

/-- The gains `validate` checks on one axis, by name. -/
def axisGains (gains : CascadeGains F) (i : Fin 3) : List (String × F) :=
  [("pos_p", gains.posP[i]), ("pos_accel_limits", gains.posAccelLimits[i]),
    ("pos_vel_caps", gains.posVelCaps[i]), ("vel_p", gains.velP[i]), ("vel_i", gains.velI[i]),
    ("vel_d", gains.velD[i]), ("att_p", gains.attP[i]), ("rate_p", gains.rateP[i]),
    ("rate_i", gains.rateI[i]), ("rate_d", gains.rateD[i])]

variable [Scalar F]

/-- Neither negative nor non-finite. -/
def isNonNegative (g : F) : Bool := Scalar.isFinite g && !Scalar.lt g (lit 0)

/-- Finite and in `[0, 1]`. -/
def isUnit (g : F) : Bool :=
  Scalar.isFinite g && Scalar.le (lit 0) g && Scalar.le g (lit 1)

/-- The first of the named gains that is negative or not finite is reported. -/
def checkNonNegative (axis : Nat) : List (String × F) → Except (CascadeGainsError F) Unit
  | [] => .ok ()
  | (name, g) :: rest =>
    if isNonNegative g then checkNonNegative axis rest else .error (.nonNegativeGain name axis)

/-- The first violation, or `ok` when every gain passes. -/
def validate (gains : CascadeGains F) : Except (CascadeGainsError F) Unit := do
  checkNonNegative 0 (gains.axisGains 0)
  checkNonNegative 1 (gains.axisGains 1)
  checkNonNegative 2 (gains.axisGains 2)
  checkNonNegative 0 [("vel_max_roll_pitch", gains.velMaxRollPitch),
    ("vel_max_yaw_step", gains.velMaxYawStep), ("att_max_rate_cmd", gains.attMaxRateCmd)]
  if !isUnit gains.velAccelFf then throw (.feedforwardOutOfRange gains.velAccelFf)
  if !isUnit gains.rateDLpfAlpha then throw (.lpfAlphaOutOfRange gains.rateDLpfAlpha)

theorem checkNonNegative_eq_ok {axis : Nat} {named : List (String × F)}
    (h : ∀ g ∈ named, isNonNegative g.2 = true) : checkNonNegative axis named = .ok () := by
  induction named with
  | nil => rfl
  | cons g rest ih =>
    rw [List.forall_mem_cons] at h
    rw [checkNonNegative, if_pos h.1, ih h.2]

end CascadeGains

section Exact

variable {K : Type} [Field K] [LinearOrder K] [IsStrictOrderedRing K]

theorem CascadeGains.validate_x500Defaults :
    (x500Defaults : CascadeGains K).validate = .ok () := by
  have hnonneg : ∀ {q : ℚ}, 0 ≤ q → isNonNegative (lit q : K) = true := by
    intro q hq
    simpa [isNonNegative] using hq
  have hunit : ∀ {q : ℚ}, 0 ≤ q → q ≤ 1 → isUnit (lit q : K) = true := by
    intro q hlow hhigh
    simpa [isUnit] using ⟨hlow, by exact_mod_cast hhigh⟩
  have haxis : ∀ i : Fin 3, ∀ g ∈ (x500Defaults : CascadeGains K).axisGains i,
      isNonNegative g.2 = true := by
    intro i
    simp only [axisGains, List.forall_mem_cons, x500Defaults]
    match i with
    | 0 | 1 | 2 =>
      refine ⟨hnonneg ?_, hnonneg ?_, hnonneg ?_, hnonneg ?_, hnonneg ?_, hnonneg ?_, hnonneg ?_,
        hnonneg ?_, hnonneg ?_, hnonneg ?_, nofun⟩ <;> norm_num
  have hff : isUnit (x500Defaults.velAccelFf : K) = true := hunit (by norm_num) (by norm_num)
  have halpha : isUnit (x500Defaults.rateDLpfAlpha : K) = true :=
    hunit (by norm_num) (by norm_num)
  rw [validate, checkNonNegative_eq_ok (haxis 0), checkNonNegative_eq_ok (haxis 1),
    checkNonNegative_eq_ok (haxis 2), checkNonNegative_eq_ok, hff, halpha]
  · rfl
  · simp only [List.forall_mem_cons, x500Defaults]
    exact ⟨hnonneg (by norm_num), hnonneg (by norm_num), hnonneg (by norm_num), nofun⟩

end Exact

end Aviate

end ControlGains

section ControlEuler

/-!
# Euler angles over the reals

The attitude of given Euler angles (ZYX), and what `to_euler` reads back from it. `FRAC_PI_2` is
the binary32 neighbour of `π / 2` above it, so angles just past the vertical exist.

Results:
1. `toEuler_ofEuler`: the angles read back are those of the rotation, whatever the given ones.
2. `toEuler_ofEuler_of_lt`: below the vertical they are the given angles.
3. `abs_roll_past_vertical`: past it the roll read back is the supplement of the given one.
-/

namespace Aviate.Quaternion

/-- The attitude the yaw, pitch and roll rotations compose to. -/
def ofEuler {F : Type} [Scalar F] [Libm F] (r p y : F) : Quaternion F :=
  ((fromAxisAngle ⟨lit 0, lit 0, lit 1⟩ y).mul (fromAxisAngle ⟨lit 0, lit 1, lit 0⟩ p)).mul
    (fromAxisAngle ⟨lit 1, lit 0, lit 0⟩ r)

noncomputable section

/-- The sine of the pitch angle, as `to_euler` computes it. -/
def sinp (q : Quaternion ℝ) : ℝ := 2 * (q.w * q.y - q.z * q.x)

/-- The pitch angle of a sine, as `to_euler` computes it. -/
def pitchOf (s : ℝ) : ℝ :=
  if 1 ≤ |s| then if 0 < s then fracPi2 else -fracPi2 else Real.arcsin s

variable {q : Quaternion ℝ} {r p y s : ℝ}

theorem fracPi2_real : (fracPi2 : ℝ) = 13176795 / 8388608 := by
  simp [fracPi2]

theorem pi_div_two_lt_fracPi2 : Real.pi / 2 < fracPi2 := by
  have h := Real.pi_lt_d20
  rw [fracPi2_real]
  linarith

theorem toEuler_real :
    q.toEuler = (Complex.arg ⟨1 - 2 * (q.x * q.x + q.y * q.y), 2 * (q.w * q.x + q.y * q.z)⟩,
      pitchOf q.sinp,
      Complex.arg ⟨1 - 2 * (q.y * q.y + q.z * q.z), 2 * (q.w * q.z + q.x * q.y)⟩) := by
  simp [toEuler, pitchOf, sinp]

/-! ## The angles read back -/

theorem ofEuler_real (r p y : ℝ) :
    ofEuler r p y =
      let a := r / 2
      let b := p / 2
      let c := y / 2
      ⟨Real.cos c * Real.cos b * Real.cos a + Real.sin c * Real.sin b * Real.sin a,
        Real.cos c * Real.cos b * Real.sin a - Real.sin c * Real.sin b * Real.cos a,
        Real.cos c * Real.sin b * Real.cos a + Real.sin c * Real.cos b * Real.sin a,
        Real.sin c * Real.cos b * Real.cos a - Real.cos c * Real.sin b * Real.sin a⟩ := by
  simp only [ofEuler, fromAxisAngle, Quaternion.mul, lit_field, cosf_real, sinf_real]
  norm_num [div_eq_mul_inv]
  ring_nf
  simp

/-- The entries of the rotation matrix the angles are read from. -/
theorem ofEuler_entries (r p y : ℝ) :
    let q := ofEuler r p y
    2 * (q.w * q.x + q.y * q.z) = Real.sin r * Real.cos p ∧
      1 - 2 * (q.x * q.x + q.y * q.y) = Real.cos r * Real.cos p ∧
      q.sinp = Real.sin p ∧
      2 * (q.w * q.z + q.x * q.y) = Real.sin y * Real.cos p ∧
      1 - 2 * (q.y * q.y + q.z * q.z) = Real.cos y * Real.cos p := by
  obtain ⟨a, rfl⟩ : ∃ a, r = 2 * a := ⟨r / 2, by ring⟩
  obtain ⟨b, rfl⟩ : ∃ b, p = 2 * b := ⟨p / 2, by ring⟩
  obtain ⟨c, rfl⟩ : ∃ c, y = 2 * c := ⟨y / 2, by ring⟩
  have ha := Real.sin_sq_add_cos_sq a
  have hb := Real.sin_sq_add_cos_sq b
  have hc := Real.sin_sq_add_cos_sq c
  have hhalf : ∀ t : ℝ, 2 * t / 2 = t := fun t => by ring
  rw [ofEuler_real]
  simp only [sinp, hhalf, Real.sin_two_mul, Real.cos_two_mul']
  refine ⟨?_, ?_, ?_, ?_, ?_⟩
  · linear_combination
      2 * Real.cos a * Real.sin a * (Real.cos b ^ 2 - Real.sin b ^ 2) * hc
  · linear_combination
      -2 * (Real.cos b ^ 2 * Real.sin a ^ 2 + Real.sin b ^ 2 * Real.cos a ^ 2) * hc -
        (Real.cos b ^ 2 + Real.sin b ^ 2) * ha - hb
  · linear_combination
      2 * Real.sin b * Real.cos b * (Real.cos c ^ 2 + Real.sin c ^ 2) * ha +
        2 * Real.sin b * Real.cos b * hc
  · linear_combination
      2 * Real.cos c * Real.sin c * (Real.cos b ^ 2 - Real.sin b ^ 2) * ha
  · linear_combination
      -2 * (Real.cos b ^ 2 * Real.sin c ^ 2 + Real.sin b ^ 2 * Real.cos c ^ 2) * ha -
        (Real.cos b ^ 2 + Real.sin b ^ 2) * hc - hb

theorem toEuler_ofEuler (r p y : ℝ) :
    (ofEuler r p y).toEuler =
      (Complex.arg ⟨Real.cos r * Real.cos p, Real.sin r * Real.cos p⟩, pitchOf (Real.sin p),
        Complex.arg ⟨Real.cos y * Real.cos p, Real.sin y * Real.cos p⟩) := by
  obtain ⟨hsr, hcr, hp, hsy, hcy⟩ := ofEuler_entries r p y
  rw [toEuler_real, hsr, hcr, hp, hsy, hcy]

theorem arg_scaled {c : ℝ} (hc : 0 < c) (hr : r ∈ Set.Ioc (-Real.pi) Real.pi) :
    Complex.arg ⟨Real.cos r * c, Real.sin r * c⟩ = r := by
  have h : (⟨Real.cos r * c, Real.sin r * c⟩ : ℂ) =
      c * (Complex.cos r + Complex.sin r * Complex.I) := by
    apply Complex.ext <;> simp [Complex.cos_ofReal_re, Complex.sin_ofReal_re, mul_comm]
  rw [h, Complex.arg_mul_cos_add_sin_mul_I hc hr]

/-- Below the vertical the given angles are read back. -/
theorem toEuler_ofEuler_of_lt (hr : r ∈ Set.Ioc (-Real.pi) Real.pi) (hp : |p| < Real.pi / 2)
    (hy : y ∈ Set.Ioc (-Real.pi) Real.pi) : (ofEuler r p y).toEuler = (r, p, y) := by
  obtain ⟨hlow, hhigh⟩ := abs_lt.mp hp
  have hcos : 0 < Real.cos p := Real.cos_pos_of_mem_Ioo ⟨hlow, hhigh⟩
  have hsin : |Real.sin p| < 1 := by
    rw [← sq_lt_one_iff_abs_lt_one]
    nlinarith [Real.sin_sq_add_cos_sq p]
  have hpitch : pitchOf (Real.sin p) = p := by
    rw [pitchOf, if_neg (not_le.mpr hsin), Real.arcsin_sin hlow.le hhigh.le]
  rw [toEuler_ofEuler, arg_scaled hcos hr, arg_scaled hcos hy, hpitch]

/-- Past the vertical the roll read back is the supplement of the given one. -/
theorem abs_roll_past_vertical (hr : r ∈ Set.Ioc (-Real.pi) Real.pi) (hp : Real.cos p < 0) :
    |(ofEuler r p y).toEuler.1| = Real.pi - |r| := by
  rw [toEuler_ofEuler]
  have hneg : 0 < -Real.cos p := by linarith
  rcases lt_or_ge 0 r with hpos | hnonpos
  · have hturn : (⟨Real.cos r * Real.cos p, Real.sin r * Real.cos p⟩ : ℂ) =
        ⟨Real.cos (r - Real.pi) * -Real.cos p, Real.sin (r - Real.pi) * -Real.cos p⟩ := by
      rw [Real.cos_sub_pi, Real.sin_sub_pi, neg_mul_neg, neg_mul_neg]
    rw [hturn, arg_scaled hneg ⟨by linarith, by linarith [hr.2, Real.pi_pos]⟩,
      abs_of_nonpos (by linarith [hr.2]), abs_of_pos hpos]
    ring
  · have hturn : (⟨Real.cos r * Real.cos p, Real.sin r * Real.cos p⟩ : ℂ) =
        ⟨Real.cos (r + Real.pi) * -Real.cos p, Real.sin (r + Real.pi) * -Real.cos p⟩ := by
      rw [Real.cos_add_pi, Real.sin_add_pi, neg_mul_neg, neg_mul_neg]
    rw [hturn, arg_scaled hneg ⟨by linarith [hr.1, Real.pi_pos], by linarith⟩,
      abs_of_nonneg (by linarith [hr.1]), abs_of_nonpos hnonpos]
    ring

/-! ## Ranges -/

theorem roll_mem : q.toEuler.1 ∈ Set.Ioc (-Real.pi) Real.pi := by
  rw [toEuler_real]
  exact Complex.arg_mem_Ioc _

theorem yaw_mem : q.toEuler.2.2 ∈ Set.Ioc (-Real.pi) Real.pi := by
  rw [toEuler_real]
  exact Complex.arg_mem_Ioc _

theorem pitch_eq : q.toEuler.2.1 = pitchOf q.sinp := by
  rw [toEuler_real]

theorem abs_pitchOf_lt (h : |s| < 1) : |pitchOf s| < Real.pi / 2 := by
  obtain ⟨hlow, hhigh⟩ := abs_lt.mp h
  rw [pitchOf, if_neg (not_le.mpr h), abs_lt, Real.neg_pi_div_two_lt_arcsin,
    Real.arcsin_lt_pi_div_two]
  exact ⟨hlow, hhigh⟩

theorem abs_pitchOf_of_le (h : 1 ≤ |s|) : |pitchOf s| = fracPi2 := by
  have hpos : (0 : ℝ) < fracPi2 := by
    rw [fracPi2_real]
    norm_num
  rw [pitchOf, if_pos h]
  split
  · exact abs_of_pos hpos
  · rw [abs_neg, abs_of_pos hpos]

end

end Aviate.Quaternion

end ControlEuler

section ControlPosition

/-!
# The position loop and its stop law

The position loop (`control/position.rs`) turns a position error into a velocity through a profile
that is linear near zero, a square root farther out, and capped.

Results:
1. `rawShape_eq`: the uncapped profile is a sum of one clamped line and two square roots. So the
   profile is odd, monotone and continuous, whichever of its regimes the cap cuts off.
2. `sq_rawShape_sub_le`: between two errors the squared velocity changes by at most twice the
   deceleration times their distance, across all regimes.
3. `stop_law`: a vehicle that flies the profile and brakes at the limit never passes the setpoint.
-/

namespace Aviate

variable {F : Type}

/-! ## The loop -/

section Loop

variable [Scalar F] [Libm F]

/-- The profile before the cap. -/
def rawShape (err p aMax : F) : F :=
  let linearDist := aMax / (p * p)
  let absErr := Scalar.abs err
  if Scalar.lt linearDist absErr then
    let inner := lit 2 * aMax * (absErr - lit (1 / 2) * linearDist)
    let mag := sqrtf inner
    if Scalar.le (lit 0) err then mag else -mag
  else p * err

/-- Square-root deceleration profile with a linear region near zero. Without a positive gain and
deceleration it is the capped line. -/
def sqrtShape (err p aMax velCap : F) : F :=
  if Scalar.le aMax (lit 0) || Scalar.le p (lit 0) then Scalar.clamp (err * p) (-velCap) velCap
  else Scalar.clamp (rawShape err p aMax) (-velCap) velCap

structure PositionController (F : Type) where
  gains : Vector F 3
  accelLimits : Vector F 3
  velCaps : Vector F 3

/-- The velocity commanded towards a setpoint, axis by axis. -/
def PositionController.step (c : PositionController F) (setpoint current : Vector3 F) :
    Vector3 F where
  x := sqrtShape (setpoint.x - current.x) c.gains[0] c.accelLimits[0] c.velCaps[0]
  y := sqrtShape (setpoint.y - current.y) c.gains[1] c.accelLimits[1] c.velCaps[1]
  z := sqrtShape (setpoint.z - current.z) c.gains[2] c.accelLimits[2] c.velCaps[2]

end Loop

/-! ## The profile in closed form -/

variable {p a cap e e₁ e₂ t : ℝ}

/-- The square-root branch at a distance, from the end of the linear region on. -/
noncomputable def tail (p a e : ℝ) : ℝ := √(2 * a * (max e (a / p ^ 2) - a / p ^ 2 / 2))

theorem tail_of_le (hp : 0 < p) (ha : 0 < a) (h : e ≤ a / p ^ 2) : tail p a e = a / p := by
  have hsq : 2 * a * (a / p ^ 2 - a / p ^ 2 / 2) = (a / p) ^ 2 := by
    field_simp
    ring
  rw [tail, max_eq_right h, hsq, Real.sqrt_sq (div_pos ha hp).le]

theorem tail_of_ge (h : a / p ^ 2 ≤ e) : tail p a e = √(2 * a * (e - a / p ^ 2 / 2)) := by
  rw [tail, max_eq_left h]

theorem monotone_tail (ha : 0 < a) : Monotone (tail p a) := by
  intro e₁ e₂ h
  unfold tail
  gcongr

theorem continuous_tail : Continuous (tail p a) := by
  unfold tail
  fun_prop

/-- The uncapped profile is a clamped line and the two square-root branches. -/
theorem rawShape_eq (hp : 0 < p) (ha : 0 < a) :
    rawShape e p a =
      p * max (-(a / p ^ 2)) (min e (a / p ^ 2)) + tail p a e - tail p a (-e) := by
  have hd : 0 < a / p ^ 2 := by positivity
  have hend : p * (a / p ^ 2) = a / p := by
    field_simp
  have hraw : rawShape e p a = if a / p ^ 2 < |e| then
      if 0 ≤ e then √(2 * a * (|e| - a / p ^ 2 / 2)) else -√(2 * a * (|e| - a / p ^ 2 / 2))
      else p * e := by
    simp only [rawShape, lit_field, lt_field, le_field, abs_field, sqrtf_real, decide_eq_true_eq,
      ← pow_two]
    norm_num
    ring_nf
  rw [hraw]
  rcases lt_or_ge (a / p ^ 2) |e| with h | h
  · rw [if_pos h]
    rcases lt_abs.mp h with hpos | hneg
    · have he : 0 ≤ e := hd.le.trans hpos.le
      rw [if_pos he, abs_of_nonneg he, min_eq_right hpos.le, max_eq_right (by linarith), hend,
        tail_of_ge hpos.le, tail_of_le hp ha (by linarith)]
      ring
    · have he : e < 0 := by linarith
      rw [if_neg (not_le.mpr he), abs_of_neg he, min_eq_left (by linarith),
        max_eq_left (by linarith), mul_neg, hend, tail_of_ge hneg.le,
        tail_of_le hp ha (by linarith)]
      ring
  · rw [if_neg (not_lt.mpr h)]
    obtain ⟨hlow, hhigh⟩ := abs_le.mp h
    rw [min_eq_left hhigh, max_eq_right hlow, tail_of_le hp ha hhigh,
      tail_of_le hp ha (by linarith)]
    ring

theorem rawShape_neg (hp : 0 < p) (ha : 0 < a) : rawShape (-e) p a = -rawShape e p a := by
  have hflip : max (-(a / p ^ 2)) (min (-e) (a / p ^ 2)) =
      -max (-(a / p ^ 2)) (min e (a / p ^ 2)) := by
    have hd : 0 < a / p ^ 2 := by positivity
    rw [← neg_inj, neg_neg, ← min_neg_neg, ← max_neg_neg, neg_neg, neg_neg, max_min_distrib_left,
      max_eq_right (show -(a / p ^ 2) ≤ a / p ^ 2 by linarith), min_comm, max_comm]
  rw [rawShape_eq hp ha, rawShape_eq hp ha, hflip, neg_neg]
  ring

theorem monotone_rawShape (hp : 0 < p) (ha : 0 < a) : Monotone fun e => rawShape e p a := by
  intro e₁ e₂ h
  have htail : tail p a e₁ ≤ tail p a e₂ := monotone_tail ha h
  have htail' : tail p a (-e₂) ≤ tail p a (-e₁) := monotone_tail ha (neg_le_neg h)
  have hline : p * max (-(a / p ^ 2)) (min e₁ (a / p ^ 2)) ≤
      p * max (-(a / p ^ 2)) (min e₂ (a / p ^ 2)) := by
    gcongr
  simp only [rawShape_eq hp ha]
  linarith

theorem continuous_rawShape (hp : 0 < p) (ha : 0 < a) : Continuous fun e => rawShape e p a := by
  simp only [rawShape_eq hp ha]
  have htail : Continuous (tail p a) := continuous_tail
  fun_prop

theorem rawShape_nonneg (hp : 0 < p) (ha : 0 < a) (he : 0 ≤ e) : 0 ≤ rawShape e p a := by
  have hzero : rawShape 0 p a = 0 := by
    have h := rawShape_neg (e := 0) hp ha
    rw [neg_zero] at h
    linarith
  rw [← hzero]
  exact monotone_rawShape hp ha he

/-! ## The stop law -/

theorem sq_tail (hp : 0 < p) (ha : 0 < a) (h : a / p ^ 2 ≤ e) :
    tail p a e ^ 2 = 2 * a * e - (a / p) ^ 2 := by
  have hd : 0 < a / p ^ 2 := by positivity
  have hnonneg : 0 ≤ 2 * a * (e - a / p ^ 2 / 2) := by
    have : 0 ≤ e - a / p ^ 2 / 2 := by linarith
    positivity
  rw [tail_of_ge h, Real.sq_sqrt hnonneg]
  field_simp

/-- The square of the uncapped profile at a distance: `p² e²` in the linear region, `2 a e` less
a constant beyond it. -/
theorem sq_rawShape (hp : 0 < p) (ha : 0 < a) (he : 0 ≤ e) :
    rawShape e p a ^ 2 = if e ≤ a / p ^ 2 then (p * e) ^ 2 else 2 * a * e - (a / p) ^ 2 := by
  have hd : 0 < a / p ^ 2 := by positivity
  have hend : p * (a / p ^ 2) = a / p := by
    field_simp
  have hback : tail p a (-e) = a / p := tail_of_le hp ha (by linarith)
  rw [rawShape_eq hp ha, hback]
  split
  · next h =>
    rw [min_eq_left h, max_eq_right (by linarith), tail_of_le hp ha h, add_sub_cancel_right]
  · next h =>
    have hge : a / p ^ 2 ≤ e := (not_le.mp h).le
    rw [min_eq_right hge, max_eq_right (by linarith), hend, add_sub_cancel_left, sq_tail hp ha hge]

/-- Across every pair of regimes the squared profile gains at most `2 a` per unit of distance. -/
theorem sq_rawShape_sub_le (hp : 0 < p) (ha : 0 < a) (h₁ : 0 ≤ e₁) (h₂ : e₁ ≤ e₂) :
    rawShape e₂ p a ^ 2 - rawShape e₁ p a ^ 2 ≤ 2 * a * (e₂ - e₁) := by
  have hp2 : 0 < p ^ 2 := by positivity
  have hend : p ^ 2 * (a / p ^ 2) = a := by
    field_simp
  have hcorner : (a / p) ^ 2 = a * (a / p ^ 2) := by
    field_simp
  rw [sq_rawShape hp ha (h₁.trans h₂), sq_rawShape hp ha h₁]
  -- The slope of `p² e²` is at most `2 a` as far as the linear region goes.
  have hslope : ∀ {x}, x ≤ a / p ^ 2 → p ^ 2 * x ≤ a := by
    intro x hx
    calc p ^ 2 * x ≤ p ^ 2 * (a / p ^ 2) := by gcongr
      _ = a := hend
  by_cases hlin₂ : e₂ ≤ a / p ^ 2
  · have hlin₁ : e₁ ≤ a / p ^ 2 := h₂.trans hlin₂
    rw [if_pos hlin₂, if_pos hlin₁]
    have hsum : p ^ 2 * (e₂ + e₁) ≤ 2 * a := by
      linarith [hslope hlin₁, hslope hlin₂]
    calc (p * e₂) ^ 2 - (p * e₁) ^ 2 = p ^ 2 * (e₂ + e₁) * (e₂ - e₁) := by ring
      _ ≤ 2 * a * (e₂ - e₁) := by gcongr
  · rw [if_neg hlin₂]
    by_cases hlin₁ : e₁ ≤ a / p ^ 2
    · rw [if_pos hlin₁]
      have hsum : p ^ 2 * (a / p ^ 2 + e₁) ≤ 2 * a := by
        linarith [hslope hlin₁]
      have hleft : a * (a / p ^ 2) - (p * e₁) ^ 2 ≤ 2 * a * (a / p ^ 2 - e₁) := by
        calc a * (a / p ^ 2) - (p * e₁) ^ 2
            = p ^ 2 * (a / p ^ 2 + e₁) * (a / p ^ 2 - e₁) := by
              rw [show a * (a / p ^ 2) = (p ^ 2 * (a / p ^ 2)) * (a / p ^ 2) by rw [hend]]
              ring
          _ ≤ 2 * a * (a / p ^ 2 - e₁) := by gcongr
      rw [hcorner]
      linarith
    · rw [if_neg hlin₁]
      linarith

/-- The command of the loop is the uncapped profile, cut at the cap. -/
theorem sqrtShape_eq (hp : 0 < p) (ha : 0 < a) (hcap : 0 ≤ cap) :
    sqrtShape e p a cap = max (-cap) (min (rawShape e p a) cap) := by
  have hshaped : (Scalar.le a (lit 0) || Scalar.le p (lit 0)) = false := by
    simp [ha, hp]
  rw [sqrtShape, if_neg (by rw [hshaped]; decide), clamp_field (by linarith)]

theorem abs_sqrtShape_le (hp : 0 < p) (ha : 0 < a) (hcap : 0 ≤ cap) :
    |sqrtShape e p a cap| ≤ cap := by
  rw [sqrtShape_eq hp ha hcap, abs_le]
  exact ⟨le_max_left _ _, max_le (by linarith) (min_le_right _ _)⟩

theorem sqrtShape_neg (hp : 0 < p) (ha : 0 < a) (hcap : 0 ≤ cap) :
    sqrtShape (-e) p a cap = -sqrtShape e p a cap := by
  rw [sqrtShape_eq hp ha hcap, sqrtShape_eq hp ha hcap, rawShape_neg hp ha, ← neg_inj, neg_neg,
    ← min_neg_neg, ← max_neg_neg, neg_neg, neg_neg, max_min_distrib_left,
    max_eq_right (show -cap ≤ cap by linarith), min_comm, max_comm]

theorem monotone_sqrtShape (hp : 0 < p) (ha : 0 < a) (hcap : 0 ≤ cap) :
    Monotone fun e => sqrtShape e p a cap := by
  intro e₁ e₂ h
  simp only [sqrtShape_eq hp ha hcap]
  exact max_le_max le_rfl (min_le_min (monotone_rawShape hp ha h) le_rfl)

theorem continuous_sqrtShape (hp : 0 < p) (ha : 0 < a) (hcap : 0 ≤ cap) :
    Continuous fun e => sqrtShape e p a cap := by
  simp only [sqrtShape_eq hp ha hcap]
  have hraw : Continuous fun e => rawShape e p a := continuous_rawShape hp ha
  fun_prop

theorem sqrtShape_of_nonneg (hp : 0 < p) (ha : 0 < a) (hcap : 0 ≤ cap) (he : 0 ≤ e) :
    sqrtShape e p a cap = min (rawShape e p a) cap := by
  have hraw : 0 ≤ rawShape e p a := rawShape_nonneg hp ha he
  rw [sqrtShape_eq hp ha hcap, max_eq_right ((neg_nonpos.mpr hcap).trans (le_min hraw hcap))]

/-- The cap only lowers what the squared velocity gains between two errors. -/
theorem sq_sqrtShape_sub_le (hp : 0 < p) (ha : 0 < a) (hcap : 0 ≤ cap) (h₁ : 0 ≤ e₁)
    (h₂ : e₁ ≤ e₂) :
    sqrtShape e₂ p a cap ^ 2 - sqrtShape e₁ p a cap ^ 2 ≤ 2 * a * (e₂ - e₁) := by
  have hraw₁ : 0 ≤ rawShape e₁ p a := rawShape_nonneg hp ha h₁
  have hmono : rawShape e₁ p a ≤ rawShape e₂ p a := monotone_rawShape hp ha h₂
  have hgain := sq_rawShape_sub_le hp ha h₁ h₂
  have hdist : 0 ≤ 2 * a * (e₂ - e₁) := mul_nonneg (by linarith) (by linarith)
  rw [sqrtShape_of_nonneg hp ha hcap (h₁.trans h₂), sqrtShape_of_nonneg hp ha hcap h₁]
  rcases le_total (rawShape e₁ p a) cap with hlow | hlow
  · rw [min_eq_left hlow]
    have hcut : min (rawShape e₂ p a) cap ^ 2 ≤ rawShape e₂ p a ^ 2 :=
      pow_le_pow_left₀ (le_min (hraw₁.trans hmono) hcap) (min_le_left _ _) 2
    linarith
  · rw [min_eq_right hlow, min_eq_right (hlow.trans hmono)]
    linarith

theorem sq_sqrtShape_le (hp : 0 < p) (ha : 0 < a) (hcap : 0 ≤ cap) :
    sqrtShape e p a cap ^ 2 ≤ 2 * a * |e| := by
  have hzero : sqrtShape 0 p a cap = 0 := by
    have h := sqrtShape_neg (e := 0) hp ha hcap
    rw [neg_zero] at h
    linarith
  have hdist : sqrtShape |e| p a cap ^ 2 ≤ 2 * a * |e| := by
    have h := sq_sqrtShape_sub_le hp ha hcap le_rfl (abs_nonneg e)
    rw [hzero] at h
    linarith
  rcases abs_choice e with h | h
  · rwa [h] at hdist ⊢
  · rw [h, sqrtShape_neg hp ha hcap, neg_sq] at hdist
    rwa [h]

/-- While a vehicle that starts at the profile's speed brakes at `a`, it never covers more than
the distance to the setpoint. -/
theorem braking_distance_le (hp : 0 < p) (ha : 0 < a) (hcap : 0 ≤ cap) :
    |sqrtShape e p a cap| * t - a * t ^ 2 / 2 ≤ |e| := by
  have hsq : |sqrtShape e p a cap| ^ 2 ≤ 2 * a * |e| := by
    rw [sq_abs]
    exact sq_sqrtShape_le hp ha hcap
  have hsquare : 0 ≤ (|sqrtShape e p a cap| - a * t) ^ 2 := sq_nonneg _
  have hscaled : a * (2 * (|sqrtShape e p a cap| * t - a * t ^ 2 / 2)) ≤ a * (2 * |e|) := by
    linarith
  have := le_of_mul_le_mul_left hscaled ha
  linarith

/-- The profile is odd, monotone, continuous and capped, its square gains at most `2 a` per unit
of distance, and a vehicle that flies it and brakes at `a` stops at or before the setpoint. -/
theorem stop_law (hp : 0 < p) (ha : 0 < a) (hcap : 0 ≤ cap) :
    (∀ e, sqrtShape (-e) p a cap = -sqrtShape e p a cap) ∧
      (Monotone fun e => sqrtShape e p a cap) ∧ (Continuous fun e => sqrtShape e p a cap) ∧
      (∀ e, |sqrtShape e p a cap| ≤ cap) ∧
      (∀ e₁ e₂, 0 ≤ e₁ → e₁ ≤ e₂ →
        sqrtShape e₂ p a cap ^ 2 - sqrtShape e₁ p a cap ^ 2 ≤ 2 * a * (e₂ - e₁)) ∧
      (∀ e, sqrtShape e p a cap ^ 2 ≤ 2 * a * |e|) ∧
      ∀ e t, |sqrtShape e p a cap| * t - a * t ^ 2 / 2 ≤ |e| :=
  ⟨fun _ => sqrtShape_neg hp ha hcap, monotone_sqrtShape hp ha hcap,
    continuous_sqrtShape hp ha hcap, fun _ => abs_sqrtShape_le hp ha hcap,
    fun _ _ => sq_sqrtShape_sub_le hp ha hcap, fun _ => sq_sqrtShape_le hp ha hcap,
    fun _ _ => braking_distance_le hp ha hcap⟩

theorem stop_law_unit : |sqrtShape (3 : ℝ) 1 1 1| * 2 - 1 * 2 ^ 2 / 2 ≤ |3| :=
  (stop_law one_pos one_pos zero_le_one).2.2.2.2.2.2 3 2

end Aviate

end ControlPosition

section CoreFlightPhase

/-!
# Airborne determination

The latch that decides whether the vehicle is holding itself up
(`flight_phase.rs`). It sets on a climb away from the datum captured at arm, and
clears after the landed condition has held for a debounce period.
-/

namespace Aviate

variable {F : Type}

inductive FlightPhase where
  | onGround
  | airborne
deriving DecidableEq, Repr

structure FlightPhaseLimits (F : Type) where
  takeoffHeight : F
  landedHeight : F
  landedSpeed : F
  landedDebounce : F

def FlightPhaseLimits.default [Scalar F] : FlightPhaseLimits F where
  takeoffHeight := lit (1 / 2)
  landedHeight := lit (3 / 10)
  landedSpeed := lit (3 / 10)
  landedDebounce := lit (1 / 2)

structure FlightPhaseState (F : Type) where
  phase : FlightPhase
  groundDatum : F
  datumValid : Bool
  landedElapsed : F

/-- `Degraded` still counts: it is what a GNSS-denied vehicle flies on. -/
def heightIsUsable (estimate : StateEstimate F) : Bool := estimate.quality != .unusable

variable [Scalar F]

/-- Altitude, up-positive, of an NED estimate. -/
def altitudeOf (estimate : StateEstimate F) : F := -estimate.positionNed[2]

/-- Vertical speed, up-positive, of an NED estimate. -/
def verticalSpeedOf (estimate : StateEstimate F) : F := -estimate.velocityNed[2]

namespace FlightPhaseState

def default : FlightPhaseState F := ⟨.onGround, lit 0, false, lit 0⟩

def isAirborne (s : FlightPhaseState F) : Bool := s.phase == .airborne

/-- Capture the ground datum of a new flight period. -/
def beginFlightPeriod (estimate : StateEstimate F) : FlightPhaseState F where
  phase := .onGround
  landedElapsed := lit 0
  datumValid := heightIsUsable estimate
  groundDatum := altitudeOf estimate

/-- Advance, or restart, the landed debounce while airborne. -/
def updateLandedDebounce (s : FlightPhaseState F) (height : F) (estimate : StateEstimate F)
    (dt : F) (limits : FlightPhaseLimits F) : FlightPhaseState F :=
  let velocityUsable := estimate.validFlags.contains StateValidFlags.velocity
  let descendingSlowly :=
    velocityUsable && Scalar.lt (Scalar.abs (verticalSpeedOf estimate)) limits.landedSpeed
  if !(Scalar.lt height limits.landedHeight && descendingSlowly) then
    { s with landedElapsed := lit 0 }
  else
    -- A step is capped at half the window, so no single sample completes a landing.
    let step :=
      if Scalar.isFinite dt && Scalar.lt (lit 0) dt then
        Scalar.min dt (limits.landedDebounce * lit (1 / 2))
      else lit 0
    let landedElapsed := s.landedElapsed + step
    if Scalar.le limits.landedDebounce landedElapsed then
      { s with phase := .onGround, landedElapsed := lit 0 }
    else { s with landedElapsed := landedElapsed }

/-- Fold one cycle's estimate into the latch. -/
def update (s : FlightPhaseState F) (estimate : StateEstimate F) (armed : Bool) (dt : F)
    (limits : FlightPhaseLimits F) : FlightPhaseState F :=
  if !armed || !s.datumValid then s
  else if !heightIsUsable estimate then { s with landedElapsed := lit 0 }
  else
    let height := altitudeOf estimate - s.groundDatum
    match s.phase with
    | .onGround =>
      if Scalar.lt limits.takeoffHeight height then
        { s with phase := .airborne, landedElapsed := lit 0 }
      else s
    | .airborne => s.updateLandedDebounce height estimate dt limits

@[simp] theorem isAirborne_default : (default : FlightPhaseState F).isAirborne = false := rfl

end FlightPhaseState

end Aviate

end CoreFlightPhase

section CoreMixer

/-!
# Actuators and the group-aware sanitizer

Actuator vectors, group topology and the runtime fallback memory
(`mixer/actuators.rs`), and `Sanitizer::sanitize` (`mixer/sanitizer_impl.rs`):
each group of channels is checked as a whole, and a group with a bad value is
replaced, wholly or per channel, by its last good vector, its safe pattern or
zero.
-/

namespace Aviate

variable {F : Type}

/-! ## Vectors and topology -/

/-- One value for each of the `MAX_ACTUATORS` channels. -/
abbrev ActuatorVector (F : Type) := Vector F 16

/-- Two actuator vectors are equal when they agree on every channel. -/
theorem ActuatorVector.ext_iff {v w : ActuatorVector F} :
    v = w ↔ ∀ ch : Fin 16, v[ch] = w[ch] := by
  constructor
  · rintro rfl ch
    rfl
  · intro h
    exact Vector.ext fun i hi => h ⟨i, hi⟩

def ActuatorVector.zero [Scalar F] : ActuatorVector F := Vector.replicate 16 (lit 0)

inductive GroupKind where
  | multirotor
  | distributedThrust
  | controlSurfaces
  | morphing
  | auxiliary
  | custom (code : UInt8)
deriving DecidableEq, Repr

inductive CouplingKind where
  | strong
  | weak
deriving DecidableEq, Repr

inductive FallbackPolicy where
  | holdLastGood
  | decayToSafe (tauMs : UInt16)
  | safePattern
deriving DecidableEq, Repr

structure GroupVector (F : Type) where
  outputs : ActuatorVector F
  mask : UInt16
  valid : Bool

def GroupVector.default [Scalar F] : GroupVector F := ⟨.zero, 0, false⟩

structure ActuatorGroupConfig (F : Type) where
  kind : GroupKind
  coupling : CouplingKind
  fallback : FallbackPolicy
  members : List UInt8
  safePattern : GroupVector F

structure ModeConfig (F : Type) where
  mode : ConfigMode
  groups : List (ActuatorGroupConfig F)

structure ActuatorCmd (F : Type) where
  outputs : ActuatorVector F
  activeMask : UInt16
  sequence : UInt32
  timestamp : Timestamp
  fallbackMask : UInt8
  sanitized : Bool

/-! ## Commanded state and health -/

inductive ActuatorHealth where
  | good
  | degraded
  | failed
  | stuck
  | unknown
deriving DecidableEq, Repr

structure ActuatorState (F : Type) where
  health : Vector ActuatorHealth 16
  commanded : ActuatorVector F
  actual : Option (ActuatorVector F)
  timestamp : Timestamp

namespace ActuatorState

def default [Scalar F] : ActuatorState F where
  health := Vector.replicate 16 .unknown
  commanded := .zero
  actual := none
  timestamp := .default

/-- Record the outputs of a command. -/
def updateCommanded (s : ActuatorState F) (cmd : ActuatorCmd F) (timestamp : Timestamp) :
    ActuatorState F :=
  { s with commanded := cmd.outputs, timestamp := timestamp }

/-- The channel is selected by the mask. -/
def selected (activeMask : UInt16) (i : Fin 16) : Bool :=
  activeMask &&& (1 <<< UInt16.ofNat i) != 0

/-- Every channel in the mask is `Good` or `Unknown`. -/
def allHealthy (s : ActuatorState F) (activeMask : UInt16) : Bool :=
  (List.finRange 16).all fun i =>
    !selected activeMask i || s.health[i] == .good || s.health[i] == .unknown

/-- Every pair of channels is commanded within `tolerance`; a pair out of range is
skipped. -/
def checkSymmetric [Scalar F] (s : ActuatorState F) (pairs : List (Nat × Nat)) (tolerance : F) :
    Bool :=
  pairs.all fun (a, b) =>
    if h : a < 16 ∧ b < 16 then
      !Scalar.lt tolerance (Scalar.abs (s.commanded[a] - s.commanded[b]))
    else true

/-- How many channels in the mask have the given health. -/
def countByHealth (s : ActuatorState F) (health : ActuatorHealth) (activeMask : UInt16) : Nat :=
  (List.finRange 16).countP fun i => selected activeMask i && s.health[i] == health

end ActuatorState

/-! ## Fallback memory and reports -/

/-- Last-known-good vectors and fallback counters of the `MAX_GROUPS` groups. -/
structure ActuatorFallbackState (F : Type) where
  lastGood : Vector (GroupVector F) 8
  age : Vector UInt16 8
  consecutiveFallback : Vector UInt16 8

def ActuatorFallbackState.default [Scalar F] : ActuatorFallbackState F where
  lastGood := Vector.replicate 8 .default
  age := Vector.replicate 8 0
  consecutiveFallback := Vector.replicate 8 0

inductive GroupSanitizeResult where
  | allValid
  | clamped
  | fallbackLastGood
  | fallbackSafe
  | fallbackUnavailable
deriving DecidableEq, Repr

structure SanitizeReport where
  groupResults : Vector GroupSanitizeResult 8
  anyFallback : Bool
  criticalFailure : Bool
  consecutiveFallbackLimitExceeded : Bool

def SanitizeReport.default : SanitizeReport :=
  ⟨Vector.replicate 8 .allValid, false, false, false⟩

def maxFallbackAgeCycles : UInt16 := 100

def maxConsecutiveFallback : UInt16 := 10

/-! ## Sanitizer -/

/-- What a sanitizer pass reads and writes: the command, the fallback memory and
the report. -/
structure SanitizePass (F : Type) where
  cmd : ActuatorCmd F
  fallback : ActuatorFallbackState F
  report : SanitizeReport

namespace Sanitizer

variable [Scalar F]

/-- A finite value in `[0, 1]`. -/
def channelValid (v : F) : Bool :=
  Scalar.isFinite v && !Scalar.lt v (lit 0) && !Scalar.lt (lit 1) v

/-- Every member in range carries a valid value. -/
def groupValid (members : List UInt8) (outputs : ActuatorVector F) : Bool :=
  members.all fun channel =>
    if h : channel.toNat < 16 then channelValid outputs[channel.toNat] else true

/-- Copy the members that `p` selects from `source`; members out of range are
skipped. -/
def copyMembers (p : F → Bool) (source : ActuatorVector F) :
    List UInt8 → ActuatorVector F → ActuatorVector F
  | [], outputs => outputs
  | channel :: members, outputs =>
    copyMembers p source members <|
      if h : channel.toNat < 16 then
        if p outputs[channel.toNat] then
          outputs.set channel.toNat source[channel.toNat]
        else outputs
      else outputs

/-- The channel is a member of the group. -/
def HasMember (members : List UInt8) (ch : Fin 16) : Prop := ∃ m ∈ members, m.toNat = ch

instance (members : List UInt8) (ch : Fin 16) : Decidable (HasMember members ch) :=
  inferInstanceAs (Decidable (∃ m ∈ members, m.toNat = ch))

omit [Scalar F] in
/-- Copying writes the selected members and nothing else. -/
theorem getElem_copyMembers (p : F → Bool) (source : ActuatorVector F) (members : List UInt8)
    (outputs : ActuatorVector F) (ch : Fin 16) :
    (copyMembers p source members outputs)[ch] =
      if HasMember members ch ∧ p outputs[ch] = true then source[ch] else outputs[ch] := by
  -- A repeated member finds its channel already copied, so the cases split on the head.
  induction members generalizing outputs with
  | nil => simp [copyMembers, HasMember]
  | cons m members ih =>
    rw [copyMembers, ih]
    have hcons : HasMember (m :: members) ch ↔ m.toNat = ch ∨ HasMember members ch := by
      simp [HasMember]
    by_cases hm : m.toNat = ch
    · have hlt : m.toNat < 16 := hm ▸ ch.isLt
      have hch : ch = ⟨m.toNat, hlt⟩ := Fin.ext hm.symm
      subst hch
      rw [dif_pos hlt]
      by_cases hp : p outputs[m.toNat] = true
      · rw [if_pos hp]
        simp [hcons, hp]
      · rw [if_neg hp]
        simp [hp]
    · have hother : (if h : m.toNat < 16 then
          if p outputs[m.toNat] then outputs.set m.toNat source[m.toNat] else outputs
          else outputs)[ch] = outputs[ch] := by
        split
        · split
          · simp [Vector.getElem_set_ne, hm]
          · rfl
        · rfl
      rw [hother]
      simp [hcons, hm]

/-- The mask of the members in range. -/
def membersMask (members : List UInt8) : UInt16 :=
  members.foldl (fun mask channel =>
    if channel.toNat < 16 then mask ||| ((1 : UInt16) <<< channel.toUInt16) else mask) 0

/-- Where a bad group takes its values from: the last good vector while it is fresh,
else the safe pattern, else zero. -/
def fallbackSource (fallback : ActuatorFallbackState F) (i : Fin 8)
    (group : ActuatorGroupConfig F) : GroupSanitizeResult × ActuatorVector F :=
  if fallback.lastGood[i].valid && fallback.age[i] < maxFallbackAgeCycles then
    (.fallbackLastGood, fallback.lastGood[i].outputs)
  else if group.safePattern.valid then (.fallbackSafe, group.safePattern.outputs)
  else (.fallbackUnavailable, .zero)

/-- A valid group becomes the new last good vector. -/
def acceptGroup (i : Fin 8) (group : ActuatorGroupConfig F) (pass : SanitizePass F) :
    SanitizePass F :=
  let vec : GroupVector F :=
    { outputs := copyMembers (fun _ => true) pass.cmd.outputs group.members .zero
      mask := membersMask group.members
      valid := true }
  { pass with
    fallback := { pass.fallback with
      lastGood := pass.fallback.lastGood.set i vec
      age := pass.fallback.age.set i 0 }
    report := { pass.report with groupResults := pass.report.groupResults.set i .allValid } }

/-- A bad group falls back: a strongly coupled one as a whole, a weakly coupled one
channel by channel. -/
def rejectGroup (i : Fin 8) (group : ActuatorGroupConfig F) (pass : SanitizePass F) :
    SanitizePass F :=
  let (source, values) := fallbackSource pass.fallback i group
  let (outputs, result) := match group.coupling with
    | .strong => (copyMembers (fun _ => true) values group.members pass.cmd.outputs, source)
    -- Only the invalid channels of a weakly coupled group are replaced.
    | .weak =>
      (copyMembers (fun v => !channelValid v) values group.members pass.cmd.outputs, .clamped)
  { cmd := { pass.cmd with
      outputs := outputs
      fallbackMask := pass.cmd.fallbackMask ||| 1 <<< UInt8.ofNat i }
    fallback := { pass.fallback with
      age := pass.fallback.age.set i (pass.fallback.age[i].saturatingAdd 1) }
    report := { pass.report with
      groupResults := pass.report.groupResults.set i result
      anyFallback := true
      criticalFailure := pass.report.criticalFailure || result == .fallbackUnavailable } }

/-- Consecutive fallback tracking of one group. -/
def trackConsecutive (i : Fin 8) (pass : SanitizePass F) : SanitizePass F :=
  let count := match pass.report.groupResults[i] with
    | .allValid | .clamped => 0
    | .fallbackLastGood | .fallbackSafe | .fallbackUnavailable =>
      pass.fallback.consecutiveFallback[i].saturatingAdd 1
  { pass with
    fallback := { pass.fallback with
      consecutiveFallback := pass.fallback.consecutiveFallback.set i count }
    report := { pass.report with
      consecutiveFallbackLimitExceeded :=
        pass.report.consecutiveFallbackLimitExceeded || count > maxConsecutiveFallback } }

/-- One group of the pass. -/
def sanitizeGroup (i : Fin 8) (group : ActuatorGroupConfig F) (pass : SanitizePass F) :
    SanitizePass F :=
  trackConsecutive i <|
    if groupValid group.members pass.cmd.outputs then acceptGroup i group pass
    else rejectGroup i group pass

/-- The groups from index `i` on; the pass stops at `MAX_GROUPS`. -/
def sanitizeGroups : Nat → List (ActuatorGroupConfig F) → SanitizePass F → SanitizePass F
  | _, [], pass => pass
  | i, group :: groups, pass =>
    if h : i < 8 then sanitizeGroups (i + 1) groups (sanitizeGroup ⟨i, h⟩ group pass) else pass

/-- Sanitize a command in place, group by group. -/
def sanitize (cmd : ActuatorCmd F) (mode : ModeConfig F) (fallback : ActuatorFallbackState F) :
    SanitizePass F :=
  sanitizeGroups 0 mode.groups
    ⟨{ cmd with sanitized := true, fallbackMask := 0 }, fallback, .default⟩

end Sanitizer

end Aviate

end CoreMixer

section CoreChecks

/-!
# Faults and safety checks

The fault register (`fault.rs`) and the three check categories the kernel
gates its transitions on: pre-arm (`checks/pre_arm.rs`), in-flight
(`checks/in_flight.rs`) and configuration transition (`checks/transition.rs`).

Results:
1. The bits a degradation latches are disjoint from the bits that follow live
   sensor health (`latchedFault_disjoint`).
2. The degradation trigger is the first missing flag in the order of
   `triggerOrder` (`getDegradationTrigger_eq`); without a trigger no flag of that
   order is missing (`not_missing_of_trigger_none`).
-/

namespace Aviate

variable {F : Type}

/-! ## Faults -/

abbrev FaultFlags := FlagSet 64

namespace FaultFlags

def allImuFailed : FaultFlags := .flag 3
def allGnssLost : FaultFlags := .flag 6
def baroFailed : FaultFlags := .flag 7
def magFailed : FaultFlags := .flag 8
def attitudeLost : FaultFlags := .flag 10
def imuDegraded : FaultFlags := .flag 11
def positionLost : FaultFlags := .flag 12
def velocityLost : FaultFlags := .flag 13
def baroDegraded : FaultFlags := .flag 14
def envelopeViolation : FaultFlags := .flag 15
def estimatorDiverged : FaultFlags := .flag 24
def numericError : FaultFlags := .flag 27
def rcLost : FaultFlags := .flag 34
def timingPersistent : FaultFlags := .flag 41
def configInvalid : FaultFlags := .flag 48
def enumInvalid : FaultFlags := .flag 57

end FaultFlags

/-- The faults that put an armed kernel into the fault state. -/
def criticalFaults : FaultFlags :=
  (FaultFlags.allImuFailed.union FaultFlags.numericError).union FaultFlags.estimatorDiverged

/-! ## Degradation reasons -/

inductive DegradationReason where
  | attitudeLost
  | positionLost
  | velocityLost
  | commandTimeout
  | imuDegraded
  | baroDegraded
  | envelopeViolation
  | rcLost
  | timingViolation
  | landRequested
deriving DecidableEq, Repr

namespace DegradationReason

/-- The fault this degradation latches, or none when its cause is recoverable or
commanded. -/
def latchedFault : DegradationReason → Option FaultFlags
  | attitudeLost => some FaultFlags.attitudeLost
  | imuDegraded => some FaultFlags.imuDegraded
  | positionLost => some FaultFlags.positionLost
  | velocityLost => some FaultFlags.velocityLost
  | baroDegraded => some FaultFlags.baroDegraded
  | envelopeViolation => some FaultFlags.envelopeViolation
  | rcLost => some FaultFlags.rcLost
  | timingViolation => some FaultFlags.timingPersistent
  | commandTimeout => none
  | landRequested => none

/-- The law a degradation leads to. -/
def target : DegradationReason → ControlLawV1
  | attitudeLost => .backup
  | landRequested => .direct
  | commandTimeout => .direct
  | imuDegraded => .alternate
  | positionLost => .alternate
  | velocityLost => .alternate
  | envelopeViolation => .alternate
  | baroDegraded => .alternate
  | rcLost => .alternate
  | timingViolation => .alternate

end DegradationReason

/-- The bits that `update` sets and clears with live sensor health. -/
def sensorFaults : FaultFlags :=
  ((FaultFlags.allImuFailed.union FaultFlags.baroFailed).union FaultFlags.magFailed).union
    FaultFlags.allGnssLost

/-- No latched fault shares a bit with the sensor faults, and none is empty. -/
theorem latchedFault_disjoint {reason : DegradationReason} {fault : FaultFlags}
    (h : reason.latchedFault = some fault) :
    fault.intersects sensorFaults = false ∧ ∃ i, i ∈ fault := by
  cases reason <;> simp only [DegradationReason.latchedFault, Option.some.injEq,
    reduceCtorEq] at h <;> subst h
  · exact ⟨by decide, 10, by decide⟩
  · exact ⟨by decide, 12, by decide⟩
  · exact ⟨by decide, 13, by decide⟩
  · exact ⟨by decide, 11, by decide⟩
  · exact ⟨by decide, 14, by decide⟩
  · exact ⟨by decide, 15, by decide⟩
  · exact ⟨by decide, 34, by decide⟩
  · exact ⟨by decide, 41, by decide⟩

/-! ## Pre-arm checks -/

abbrev PreArmFlags := FlagSet 32

namespace PreArmFlags

def imuHealthy : PreArmFlags := .flag 0
def baroHealthy : PreArmFlags := .flag 1
def magHealthy : PreArmFlags := .flag 2
def gnssAvailable : PreArmFlags := .flag 3
def imuConverged : PreArmFlags := .flag 4
def baroConverged : PreArmFlags := .flag 5
def magConverged : PreArmFlags := .flag 6
def ekfConverged : PreArmFlags := .flag 7
def throttleLow : PreArmFlags := .flag 8
def configValid : PreArmFlags := .flag 9
def noFaults : PreArmFlags := .flag 10

/-- Minimum checks for a basic quadrotor. -/
def quadMinimum : PreArmFlags :=
  ((((((imuHealthy.union baroHealthy).union imuConverged).union baroConverged).union
    ekfConverged).union throttleLow).union configValid).union noFaults

end PreArmFlags

structure SampleCounts where
  imu : UInt32
  baro : UInt32
  mag : UInt32
  gnss : UInt32
  minRequired : UInt32
deriving DecidableEq, Repr

namespace SampleCounts

def new : SampleCounts := ⟨0, 0, 0, 0, 100⟩

def reset (s : SampleCounts) : SampleCounts := { s with imu := 0, baro := 0, mag := 0, gnss := 0 }

def imuConverged (s : SampleCounts) : Bool := s.minRequired ≤ s.imu
def baroConverged (s : SampleCounts) : Bool := s.minRequired ≤ s.baro
def magConverged (s : SampleCounts) : Bool := s.minRequired ≤ s.mag

end SampleCounts

structure PreArmStatus where
  required : PreArmFlags
  current : PreArmFlags
  samples : SampleCounts
deriving DecidableEq, Repr

namespace PreArmStatus

def withRequired (required : PreArmFlags) : PreArmStatus := ⟨required, .empty, .new⟩

def default : PreArmStatus := withRequired PreArmFlags.quadMinimum

/-- Every required check passes. -/
def isSatisfied (s : PreArmStatus) : Bool := s.current.contains s.required

/-- Count one more sample of a healthy sensor. -/
def countSample (healthy : Bool) (count : UInt32) : UInt32 :=
  if healthy then count.saturatingAdd 1 else count

def updateFromSensors (s : PreArmStatus) (sensors : SensorSet F) : PreArmStatus :=
  let imuHealthy := anyGood sensors.imus
  let baroHealthy := anyGood sensors.baros
  let magHealthy := anyGood sensors.mags
  let gnssAvailable := anyGood sensors.gnss
  let samples : SampleCounts := { s.samples with
    imu := countSample imuHealthy s.samples.imu
    baro := countSample baroHealthy s.samples.baro
    mag := countSample magHealthy s.samples.mag
    gnss := countSample gnssAvailable s.samples.gnss }
  { s with
    samples := samples
    current := s.current
      |>.set PreArmFlags.imuHealthy imuHealthy
      |>.set PreArmFlags.baroHealthy baroHealthy
      |>.set PreArmFlags.magHealthy magHealthy
      |>.set PreArmFlags.gnssAvailable gnssAvailable
      |>.set PreArmFlags.imuConverged samples.imuConverged
      |>.set PreArmFlags.baroConverged samples.baroConverged
      |>.set PreArmFlags.magConverged samples.magConverged }

def updateFromFaults (s : PreArmStatus) (faults : FaultFlags) : PreArmStatus :=
  { s with
    current := s.current
      |>.set PreArmFlags.noFaults faults.isEmpty
      |>.set PreArmFlags.configValid (!faults.contains FaultFlags.configInvalid) }

def updateThrottle (s : PreArmStatus) (throttleLow : Bool) : PreArmStatus :=
  { s with current := s.current.set PreArmFlags.throttleLow throttleLow }

def updateEkf (s : PreArmStatus) (converged : Bool) : PreArmStatus :=
  { s with current := s.current.set PreArmFlags.ekfConverged converged }

/-- Drop the collected samples. -/
def resetSamples (s : PreArmStatus) : PreArmStatus := { s with samples := s.samples.reset }

def reset (s : PreArmStatus) : PreArmStatus :=
  { s with current := .empty, samples := s.samples.reset }

end PreArmStatus

/-! ## In-flight checks -/

abbrev InFlightFlags := FlagSet 32

namespace InFlightFlags

def attitudeValid : InFlightFlags := .flag 0
def velocityValid : InFlightFlags := .flag 1
def positionValid : InFlightFlags := .flag 2
def headingValid : InFlightFlags := .flag 3
def withinEnvelope : InFlightFlags := .flag 4
def altitudeOk : InFlightFlags := .flag 5
def commandRecent : InFlightFlags := .flag 8
def rcAvailable : InFlightFlags := .flag 9
def imuOk : InFlightFlags := .flag 12
def baroOk : InFlightFlags := .flag 13

/-- Minimum for safe attitude-mode flight. -/
def attitudeFlight : InFlightFlags := (attitudeValid.union imuOk).union commandRecent

/-- Required for position hold. -/
def positionFlight : InFlightFlags := (attitudeFlight.union positionValid).union velocityValid

end InFlightFlags

structure InFlightStatus where
  required : InFlightFlags
  current : InFlightFlags
deriving DecidableEq, Repr

/-- The in-flight flags that lead to a degradation, most critical first. -/
def triggerOrder : List (InFlightFlags × DegradationReason) :=
  [(InFlightFlags.attitudeValid, .attitudeLost),
   (InFlightFlags.imuOk, .imuDegraded),
   (InFlightFlags.positionValid, .positionLost),
   (InFlightFlags.velocityValid, .velocityLost),
   (InFlightFlags.commandRecent, .commandTimeout),
   (InFlightFlags.withinEnvelope, .envelopeViolation),
   (InFlightFlags.baroOk, .baroDegraded),
   (InFlightFlags.rcAvailable, .rcLost)]

namespace InFlightStatus

def default : InFlightStatus := ⟨InFlightFlags.attitudeFlight, .empty⟩

/-- The flags that are required but not passing. -/
def missing (s : InFlightStatus) : InFlightFlags := s.required.difference s.current

def updateFromState (s : InFlightStatus) (state : StateEstimate F) : InFlightStatus :=
  { s with
    current := s.current
      |>.set InFlightFlags.attitudeValid (state.validFlags.contains StateValidFlags.attitude)
      |>.set InFlightFlags.velocityValid (state.validFlags.contains StateValidFlags.velocity)
      |>.set InFlightFlags.positionValid (state.validFlags.contains StateValidFlags.position)
      |>.set InFlightFlags.headingValid (state.validFlags.contains StateValidFlags.attitude) }

def updateFromSensors (s : InFlightStatus) (sensors : SensorSet F) : InFlightStatus :=
  { s with
    current := s.current
      |>.set InFlightFlags.imuOk (anyGood sensors.imus)
      |>.set InFlightFlags.baroOk (anyGood sensors.baros) }

def updateFromEnvelope (s : InFlightStatus) (protection : ProtectionStatus) : InFlightStatus :=
  { s with
    current := s.current.set InFlightFlags.withinEnvelope
      (protection.limitedAxes.isEmpty && !protection.saturated) }

def updateCommandStatus (s : InFlightStatus) (ageMs timeoutMs : UInt32) : InFlightStatus :=
  { s with current := s.current.set InFlightFlags.commandRecent (ageMs < timeoutMs) }

def updateAltitude (s : InFlightStatus) (withinLimits : Bool) : InFlightStatus :=
  { s with current := s.current.set InFlightFlags.altitudeOk withinLimits }

/-- The highest-priority degradation trigger, if any. -/
def getDegradationTrigger (s : InFlightStatus) : Option DegradationReason :=
  if s.missing.contains InFlightFlags.attitudeValid then some .attitudeLost
  else if s.missing.contains InFlightFlags.imuOk then some .imuDegraded
  else if s.missing.contains InFlightFlags.positionValid then some .positionLost
  else if s.missing.contains InFlightFlags.velocityValid then some .velocityLost
  else if s.missing.contains InFlightFlags.commandRecent then some .commandTimeout
  else if s.missing.contains InFlightFlags.withinEnvelope then some .envelopeViolation
  else if s.missing.contains InFlightFlags.baroOk then some .baroDegraded
  else if s.missing.contains InFlightFlags.rcAvailable then some .rcLost
  else none

def reset (s : InFlightStatus) : InFlightStatus := { s with current := .empty }

end InFlightStatus

/-! ### The degradation trigger -/

namespace InFlightStatus

/-- The trigger is the first entry of `triggerOrder` whose flag is missing. -/
theorem getDegradationTrigger_eq (s : InFlightStatus) :
    s.getDegradationTrigger =
      (triggerOrder.find? fun entry => s.missing.contains entry.1).map (·.2) := by
  simp only [getDegradationTrigger, triggerOrder, List.find?_cons]
  repeat' split
  all_goals simp_all

/-- Without a trigger no flag of the order is missing. -/
theorem not_missing_of_trigger_none {s : InFlightStatus} (h : s.getDegradationTrigger = none)
    {flag : InFlightFlags} {reason : DegradationReason} (hr : (flag, reason) ∈ triggerOrder) :
    s.missing.contains flag = false := by
  rw [getDegradationTrigger_eq, Option.map_eq_none_iff, List.find?_eq_none] at h
  simpa using h (flag, reason) hr

end InFlightStatus

/-! ## Transition checks -/

abbrev TransitionFlags := FlagSet 32

namespace TransitionFlags

def stableFlight : TransitionFlags := .flag 0
def actuatorsOk : TransitionFlags := .flag 1
def withinEnvelope : TransitionFlags := .flag 2
def symmetric : TransitionFlags := .flag 3
def altitudeOk : TransitionFlags := .flag 4
def airspeedOk : TransitionFlags := .flag 5

/-- Minimum for a hover to forward-flight transition. -/
def vtolTransition : TransitionFlags :=
  ((stableFlight.union actuatorsOk).union withinEnvelope).union symmetric

end TransitionFlags

inductive TransitionFailure where
  | unstableFlight
  | actuatorStuck
  | unsafeConditions
  | asymmetry
  | altitudeTooLow
  | airspeedTooLow
  | multipleFailures
deriving DecidableEq, Repr

structure TransitionLimits (F : Type) where
  minAltitude : F
  maxAttitudeRate : F
  minAirspeed : F
  maxAsymmetry : F

structure TransitionStatus (F : Type) where
  required : TransitionFlags
  current : TransitionFlags
  limits : TransitionLimits F

namespace TransitionStatus

variable [Scalar F]

def default : TransitionStatus F where
  required := TransitionFlags.vtolTransition
  current := .empty
  limits := ⟨lit 10, lit (1 / 2), lit 15, lit (1 / 10)⟩

def updateFromActuators (s : TransitionStatus F) (actuators : ActuatorState F)
    (activeMask : UInt16) : TransitionStatus F :=
  let noneStuck := actuators.countByHealth .stuck activeMask == 0
  let symmetric := actuators.checkSymmetric [(0, 1), (2, 3)] s.limits.maxAsymmetry
  { s with
    current := s.current
      |>.set TransitionFlags.actuatorsOk (actuators.allHealthy activeMask)
      |>.set TransitionFlags.symmetric (symmetric && noneStuck) }

def updateFromState [Libm F] (s : TransitionStatus F) (state : StateEstimate F) :
    TransitionStatus F :=
  let altitude := -state.positionNed[2]
  let w := state.angularVelocity
  let rateMagnitude := sqrtf (w[0] * w[0] + w[1] * w[1] + w[2] * w[2])
  { s with
    current := s.current
      |>.set TransitionFlags.altitudeOk (Scalar.le s.limits.minAltitude altitude)
      |>.set TransitionFlags.stableFlight (Scalar.lt rateMagnitude s.limits.maxAttitudeRate) }

/-- The failure each flag is reported as, in the order they are tested. -/
def failureOrder : List (TransitionFlags × TransitionFailure) :=
  [(TransitionFlags.stableFlight, .unstableFlight),
   (TransitionFlags.actuatorsOk, .actuatorStuck),
   (TransitionFlags.withinEnvelope, .unsafeConditions),
   (TransitionFlags.symmetric, .asymmetry),
   (TransitionFlags.altitudeOk, .altitudeTooLow),
   (TransitionFlags.airspeedOk, .airspeedTooLow)]

/-- Whether the transition may proceed, or the primary reason it may not. -/
def canTransition (s : TransitionStatus F) : Except TransitionFailure Unit :=
  if s.current.contains s.required then .ok ()
  else
    let missing := s.required.difference s.current
    if missing.bits.cpop.toNat > 1 then .error .multipleFailures
    else match failureOrder.find? fun entry => missing.contains entry.1 with
      | some (_, failure) => .error failure
      | none => .error .multipleFailures

def reset (s : TransitionStatus F) : TransitionStatus F := { s with current := .empty }

end TransitionStatus

/-- All checks the kernel owns. -/
structure KernelChecks (F : Type) where
  preArm : PreArmStatus
  inFlight : InFlightStatus
  transition : TransitionStatus F

namespace KernelChecks

variable [Scalar F]

def new : KernelChecks F := ⟨.default, .default, .default⟩

end KernelChecks

end Aviate

end CoreChecks

section CoreKernel

/-!
# Kernel state, configuration and lifecycle operations

The data of the kernel (`kernel_types.rs`, `kernel/state.rs`,
`kernel/config.rs`, `kernel/pipeline.rs`) and every public operation but the
control cycle (`kernel_logic.rs`, `kernel_logic/lifecycle.rs`).

The pipeline and the configuration of `AviateKernelImpl` are fixed at
construction and make up `AviateKernel`. The third field, the `KernelState`, is
passed explicitly. The kernel is generic over its estimator, controller, mixer
and sanitizer; each is modelled by the functions of its trait.
-/

namespace Aviate

variable {F E R : Type}

/-! ## Kernel types -/

inductive InitState where
  | powerOn
  | configLoading
  | sensorInit
  | estimatorConverging
  | preArm
  | ready
  | armed
  | disarmed
  | fault
deriving DecidableEq, Repr

def InitState.allowsActiveControl (s : InitState) : Bool := s == .armed

/-- Why the active terminal law engaged. -/
inductive TerminalCause where
  | none
  | commandLoss
  | commanded
deriving DecidableEq, Repr

inductive ArmError where
  | notReady
  | faulted
  | alreadyArmed
  | configInvalid
  | inFaultState
deriving DecidableEq, Repr

inductive DisarmError where
  | airborne
deriving DecidableEq, Repr

inductive TransitionError where
  | notArmed
  | alreadyTransitioning
  | checksFailed (reason : TransitionFailure)
  | alreadyInMode
  | inFaultState
deriving DecidableEq, Repr

structure TimingStats where
  lastCycleUs : UInt32
  maxCycleUs : UInt32
  minCycleUs : UInt32
  deadlineViolations : UInt32
  consecutiveViolations : UInt32
  totalCycles : UInt64
deriving DecidableEq, Repr

def TimingStats.default : TimingStats := ⟨0, 0, 0, 0, 0, 0⟩

/-- Number of consecutive timing violations before degradation. -/
def timingViolationThreshold : UInt32 := 3

structure DegradationEvent where
  fromLaw : ControlLawV1
  toLaw : ControlLawV1
  reason : DegradationReason
  timestamp : Timestamp
deriving DecidableEq, Repr

structure InitResult where
  state : InitState
  faults : FaultFlags
  ready : Bool
deriving DecidableEq, Repr

/-! ## State, configuration and pipeline -/

/-- Every field the kernel mutates, over the runtime states of the estimator `E`
and the controller `R`. -/
structure KernelState (F E R : Type) where
  initState : InitState
  mode : ConfigMode
  faults : FaultFlags
  controlLaw : ControlLawV1
  terminalCause : TerminalCause
  checks : KernelChecks F
  actuatorState : ActuatorState F
  timingStats : TimingStats
  estimator : E
  fallback : ActuatorFallbackState F
  controller : R
  flightPhase : FlightPhaseState F

structure ResolvedKernelConfig (F : Type) where
  limits : Limits F
  modeConfig : ModeConfig F
  commandTimeoutMs : UInt32
  safeOutput : ActuatorVector F
  slewLimitPerCycle : ActuatorVector F

/-- `trait Estimator` with the `Default` of its runtime state. -/
structure Estimator (F E : Type) where
  default : E
  observe : E → SensorSet F → Option SensorOverrides → F → E
  estimate : E → StateEstimate F
  reset : E → E

/-- `trait VehicleController` with the `Default` and the `set_cycle_interval` of its
runtime state. -/
structure VehicleController (F R : Type) where
  default : R
  setCycleInterval : R → F → R
  supportsMode : ControlMode → Bool
  stepWithObservation : R → StateEstimate F → Command F → VehicleControlMode → ConfigMode →
    Limits F → R × ControllerStep F
  reset : R → R

structure Mixer (F : Type) where
  mix : AxisCommand F → ActuatorCmd F

structure ActuatorSanitizer (F : Type) where
  sanitize : ActuatorCmd F → ModeConfig F → ActuatorFallbackState F → SanitizePass F

/-- The group-aware sanitizer as the pipeline's sanitizer. -/
def groupSanitizer [Scalar F] : ActuatorSanitizer F := ⟨Sanitizer.sanitize⟩

structure KernelPipeline (F E R : Type) where
  estimator : Estimator F E
  controller : VehicleController F R
  mixer : Mixer F
  sanitizer : ActuatorSanitizer F

/-- What construction fixes: the algorithm pipeline and the configuration. -/
structure AviateKernel (F E R : Type) where
  pipeline : KernelPipeline F E R
  cfg : ResolvedKernelConfig F

variable [Scalar F]

namespace KernelState

/-- A fresh state with the given checks. -/
def new (k : AviateKernel F E R) (checks : KernelChecks F) : KernelState F E R where
  initState := .powerOn
  mode := .hover
  faults := .empty
  controlLaw := .primary
  terminalCause := .none
  checks := checks
  actuatorState := .default
  timingStats := .default
  estimator := k.pipeline.estimator.default
  fallback := .default
  controller := k.pipeline.controller.default
  flightPhase := .default

omit [Scalar F]

/-- Replace one check category. -/
def setPreArm (s : KernelState F E R) (preArm : PreArmStatus) : KernelState F E R :=
  { s with checks := { s.checks with preArm := preArm } }

def setInFlight (s : KernelState F E R) (inFlight : InFlightStatus) : KernelState F E R :=
  { s with checks := { s.checks with inFlight := inFlight } }

def setTransition (s : KernelState F E R) (transition : TransitionStatus F) :
    KernelState F E R :=
  { s with checks := { s.checks with transition := transition } }

end KernelState

namespace AviateKernel

/-! ## Reading the estimate -/

section Pipeline

omit [Scalar F]

variable (k : AviateKernel F E R) (s : KernelState F E R)

def estimate : StateEstimate F := k.pipeline.estimator.estimate s.estimator

/-- Clear the controller's accumulated state. -/
def resetController : KernelState F E R :=
  { s with controller := k.pipeline.controller.reset s.controller }

/-! ## Initialization -/

/-- Re-evaluate the pre-arm checks from this cycle's sensors, the fault register and
the estimator. -/
def evaluatePreArm (sensors : SensorSet F) : KernelState F E R :=
  let estInitialized := (k.estimate s).quality != .unusable
  s.setPreArm <| ((s.checks.preArm.updateFromSensors sensors).updateFromFaults s.faults).updateEkf
    estInitialized

/-- The state machine step of `init_step`. -/
def advanceInit : KernelState F E R :=
  let preArm := s.checks.preArm
  match s.initState with
  | .powerOn => { s with initState := .configLoading }
  | .configLoading =>
    { s.setPreArm { preArm with current := preArm.current.insert PreArmFlags.configValid } with
      initState := .sensorInit }
  | .sensorInit =>
    if preArm.current.contains PreArmFlags.imuHealthy then
      { s with initState := .estimatorConverging }
    else s
  | .estimatorConverging =>
    if preArm.current.contains PreArmFlags.imuConverged &&
        preArm.current.contains PreArmFlags.ekfConverged then
      { s with initState := .preArm }
    else s
  | .preArm => if preArm.isSatisfied then { s with initState := .ready } else s
  | .ready => if !preArm.isSatisfied then { s with initState := .preArm } else s
  | .armed => s
  | .disarmed => { s.setPreArm preArm.resetSamples with initState := .preArm }
  -- Only an explicit reset leaves the fault state.
  | .fault => s

/-- Advance the initialization state machine. -/
def initStep (sensors : SensorSet F) : KernelState F E R × InitResult :=
  let s := advanceInit (k.evaluatePreArm s sensors)
  (s, ⟨s.initState, s.faults, s.initState == .ready⟩)

/-- Set each sensor fault bit when no reading of its class is good, and clear it
otherwise. -/
def updateSensorFaults (sensors : SensorSet F) : KernelState F E R :=
  { s with
    faults := s.faults
      |>.set FaultFlags.allImuFailed (!anyGood sensors.imus)
      |>.set FaultFlags.baroFailed (!anyGood sensors.baros)
      |>.set FaultFlags.magFailed (!anyGood sensors.mags)
      |>.set FaultFlags.allGnssLost (!anyGood sensors.gnss) }

/-- The stick-safety check is refreshed on its own, between `init_step` calls. -/
def updateThrottle (throttleLow : Bool) : KernelState F E R :=
  s.setPreArm (s.checks.preArm.updateThrottle throttleLow)

/-! ## Fault reset and degradation -/

def canResetFromFault : Bool :=
  if s.initState != .fault then false
  else
    let noCritical := !s.faults.intersects criticalFaults
    let imuHealthy := s.checks.preArm.current.contains PreArmFlags.imuHealthy
    let throttleLow := s.checks.preArm.current.contains PreArmFlags.throttleLow
    noCritical && imuHealthy && throttleLow

/-- Attempt to reset from the fault state. -/
def resetFromFault : KernelState F E R × Except ArmError Unit :=
  if s.initState != .fault then (s, .error .notReady)
  else if !canResetFromFault s then (s, .error .faulted)
  else
    -- The flight phase, the law and the fault register keep what the flight left in them.
    let s := s.setPreArm s.checks.preArm.resetSamples
    let s := s.setInFlight s.checks.inFlight.reset
    ({ s with initState := .preArm }, .ok ())

/-- Record the fault a degradation latches. -/
def latchFault (reason : DegradationReason) : KernelState F E R :=
  match reason.latchedFault with
  | some fault => { s with faults := s.faults.insert fault }
  | none => s

/-- Why the law a degradation engages is terminal. -/
def engagedCause (toLaw : ControlLawV1) (reason : DegradationReason) : TerminalCause :=
  match toLaw, reason with
  | .direct, .commandTimeout => .commandLoss
  | .direct, _ => .commanded
  | _, _ => .none

/-- Handle a degradation: latch its fault, and move to its target law if that is
worse than the current one. -/
def handleDegradation (reason : DegradationReason) (timestamp : Timestamp) :
    KernelState F E R × Option DegradationEvent :=
  let s := latchFault s reason
  let fromLaw := s.controlLaw
  let toLaw := reason.target
  -- A reason whose target is not worse leaves the recorded cause as it is, too.
  if toLaw.severity > fromLaw.severity then
    let s := { s with controlLaw := toLaw, terminalCause := engagedCause toLaw reason }
    let s := if toLaw == .backup || toLaw == .direct then k.resetController s else s
    (s, some ⟨fromLaw, toLaw, reason, timestamp⟩)
  else (s, none)

/-- Enter the fault state when a critical fault is set. -/
def checkCriticalFaults : KernelState F E R × Bool :=
  if s.faults.intersects criticalFaults then
    (k.resetController
      { s with initState := .fault, controlLaw := .backup, terminalCause := .none }, true)
  else (s, false)

/-- Count a deadline violation reported from outside, or end the streak. -/
def reportTimingViolation (violation : Bool) : KernelState F E R :=
  if violation then
    { s with timingStats := { s.timingStats with
        deadlineViolations := s.timingStats.deadlineViolations.saturatingAdd 1
        consecutiveViolations := s.timingStats.consecutiveViolations.saturatingAdd 1 } }
  else { s with timingStats := { s.timingStats with consecutiveViolations := 0 } }

/-- The test hook that sets fault bits. -/
def injectFault (fault : FaultFlags) : KernelState F E R :=
  { s with faults := s.faults.insert fault }

end Pipeline

variable (k : AviateKernel F E R) (s : KernelState F E R)

/-! ## Lifecycle -/

def arm : KernelState F E R × Except ArmError Unit :=
  if s.initState == .armed then (s, .error .alreadyArmed)
  else if !s.faults.isEmpty then (s, .error .faulted)
  else if s.initState != .ready then (s, .error .notReady)
  else
    -- `Ready` stands for the pre-arm checks, which are not evaluated again.
    ({ s with
        flightPhase := .beginFlightPeriod (k.estimate s)
        controlLaw := .primary
        terminalCause := .none
        initState := .armed }, .ok ())

/-- Leave `Armed`, drop to the backup law, and invalidate what the flight period
accumulated. -/
def endFlightPeriod : KernelState F E R :=
  let s := s.setInFlight s.checks.inFlight.reset
  k.resetController
    { s with
      initState := .disarmed
      controlLaw := .backup
      terminalCause := .none
      flightPhase := .default }

def disarm : KernelState F E R × Except DisarmError Unit :=
  if s.flightPhase.isAirborne then (s, .error .airborne) else (k.endFlightPeriod s, .ok ())

def terminate : KernelState F E R := k.endFlightPeriod s

/-- Return every runtime field to its power-on posture. Refused while armed. -/
def groundReset : KernelState F E R :=
  if s.initState == .armed then s
  else
    { s with
      faults := .empty
      terminalCause := .none
      checks :=
        { preArm := s.checks.preArm.reset
          inFlight := s.checks.inFlight.reset
          transition := s.checks.transition.reset }
      flightPhase := .default
      initState := .configLoading
      estimator := k.pipeline.estimator.reset s.estimator
      fallback := .default
      actuatorState := .default
      timingStats := .default
      mode := .hover
      controller := k.pipeline.controller.reset s.controller
      controlLaw := .primary }

/-- Request a configuration mode transition. -/
def requestConfigMode [Libm F] (toMode : ConfigMode) :
    KernelState F E R × Except TransitionError Unit :=
  if s.initState != .armed then (s, .error .notArmed)
  else if s.faults.intersects criticalFaults then (s, .error .inFaultState)
  else if s.mode == .transition then (s, .error .alreadyTransitioning)
  else if s.mode == toMode then (s, .error .alreadyInMode)
  else
    let transition := (s.checks.transition.updateFromState (k.estimate s)).updateFromActuators
      s.actuatorState 0b1111
    let s := s.setTransition transition
    match transition.canTransition with
    | .error reason => (s, .error (.checksFailed reason))
    | .ok _ => ({ s with mode := toMode }, .ok ())

end AviateKernel

end Aviate

end CoreKernel

section CoreRuntimeStates

/-!
# The runtime states of the shipped estimator and controllers

What the 15-state filter keeps between cycles (`ekf.rs`), and what the multirotor
cascade does (`control/multirotor.rs`, `control/velocity.rs`, `control/rate.rs`), with
their power-on values and their resets. The fixed-wing and VTOL controllers keep
nothing; `Unit` stands for `NoControllerState`.

The algorithms themselves are left open: `ekf` and the two controllers take them as
arguments and fix the runtime state, its default and its reset.
-/

namespace Aviate

variable {F : Type}

/-! ## The filter -/

/-- `STATE_DIM`. -/
abbrev stateDim : Nat := 15

structure EkfState (F : Type) where
  quat : Quaternion F
  pos : Vector3 F
  vel : Vector3 F
  gyroBias : Vector3 F
  accelBias : Vector3 F
  lastGyroBody : Vector3 F
  pCov : Vector (Vector F stateDim) stateDim
  initialized : Bool
  quatFault : Bool
  baroRef : Option F
  baroRefVar : F
  gnssPosAgeS : F
  gnssVelAgeS : F
  baroAgeS : F
  imuAgeS : F
  accelClipS : F

def Vector3.zero [Scalar F] : Vector3 F := ⟨lit 0, lit 0, lit 0⟩

/-- `IDX_GB` and `IDX_AB`: where the gyro and accelerometer bias blocks start. -/
def idxGb : Nat := 9

def idxAb : Nat := 12

/-- The covariance of a filter that has seen nothing. -/
def initialCovariance [Scalar F] : Vector (Vector F stateDim) stateDim :=
  Vector.ofFn fun row => Vector.ofFn fun col =>
    if row = col ∧ idxAb ≤ row.val ∧ row.val < idxAb + 3 then lit (4 / 100)
    else if row = col ∧ idxGb ≤ row.val ∧ row.val < idxGb + 3 then lit (4 / 10000)
    else (if row = col then lit 1 else lit 0) * lit (1 / 10)

/-- `AGE_SATURATION_S`: the age of aiding that never came. -/
def ageSaturationS [Scalar F] : F := lit 10000

namespace EkfState

variable [Scalar F] [Libm F]

def new : EkfState F where
  quat := .identity
  pos := .zero
  vel := .zero
  gyroBias := .zero
  accelBias := .zero
  lastGyroBody := .zero
  pCov := initialCovariance
  initialized := false
  quatFault := false
  baroRef := none
  baroRefVar := lit 0
  gnssPosAgeS := ageSaturationS
  gnssVelAgeS := ageSaturationS
  baroAgeS := ageSaturationS
  imuAgeS := lit 0
  accelClipS := lit 0

/-- Clear all filter state to the un-initialized posture. -/
def reset (_ : EkfState F) : EkfState F := new

end EkfState

/-- The filter as the pipeline's estimator. -/
def ekf [Scalar F] [Libm F]
    (observe : EkfState F → SensorSet F → Option SensorOverrides → F → EkfState F)
    (estimate : EkfState F → StateEstimate F) : Estimator F (EkfState F) where
  default := .new
  observe := observe
  estimate := estimate
  reset := .reset

/-! ## The multirotor cascade -/

structure VelocityLoopState (F : Type) where
  integratorNed : Vector3 F
  lastVelFiltNed : Vector3 F
  dPrimed : Bool

namespace VelocityLoopState

variable [Scalar F]

def default : VelocityLoopState F := ⟨.zero, .zero, false⟩

def reset (s : VelocityLoopState F) : VelocityLoopState F :=
  { s with integratorNed := .zero, lastVelFiltNed := .zero, dPrimed := false }

end VelocityLoopState

structure RateLoopState (F : Type) where
  measFilteredPrev : Vector3 F
  integral : Vector F 3
  primed : Bool

namespace RateLoopState

variable [Scalar F]

def default : RateLoopState F := ⟨.zero, Vector.replicate 3 (lit 0), false⟩

def reset (s : RateLoopState F) : RateLoopState F :=
  { s with measFilteredPrev := .zero, integral := Vector.replicate 3 (lit 0), primed := false }

end RateLoopState

structure MultirotorRuntimeState (F : Type) where
  velocityLoop : VelocityLoopState F
  rateLoop : RateLoopState F
  lastVelSpNed : Vector3 F
  velSpPrimed : Bool
  dtSec : F
  previousEffectiveMode : Option ControlMode
  previousTopology : Option EffectiveControlTopology
  lastAxisCommand : AxisCommand F
  axisCommandPrimed : Bool

def AxisCommand.default [Scalar F] : AxisCommand F := ⟨lit 0, lit 0, lit 0, lit 0⟩

namespace MultirotorRuntimeState

variable [Scalar F]

def default : MultirotorRuntimeState F where
  velocityLoop := .default
  rateLoop := .default
  lastVelSpNed := .zero
  velSpPrimed := false
  dtSec := lit 0
  previousEffectiveMode := none
  previousTopology := none
  lastAxisCommand := .default
  axisCommandPrimed := false

/-- Only a finite positive interval is stored. -/
def setCycleInterval (s : MultirotorRuntimeState F) (interval : F) : MultirotorRuntimeState F :=
  { s with
    dtSec := if Scalar.isFinite interval && Scalar.lt (lit 0) interval then interval else lit 0 }

def reset (s : MultirotorRuntimeState F) : MultirotorRuntimeState F :=
  { s with
    velocityLoop := s.velocityLoop.reset
    rateLoop := s.rateLoop.reset
    lastVelSpNed := .zero
    velSpPrimed := false
    dtSec := lit 0
    previousEffectiveMode := none
    previousTopology := none
    lastAxisCommand := .default
    axisCommandPrimed := false }

end MultirotorRuntimeState

/-- A step of a controller with the runtime state `R`. -/
abbrev StepWithObservation (F R : Type) := R → StateEstimate F → Command F → VehicleControlMode →
  ConfigMode → Limits F → R × ControllerStep F

/-- The multirotor controller, with any cascade. -/
def multirotorController [Scalar F] (supportsMode : ControlMode → Bool)
    (stepWithObservation : StepWithObservation F (MultirotorRuntimeState F)) :
    VehicleController F (MultirotorRuntimeState F) where
  default := .default
  setCycleInterval := .setCycleInterval
  supportsMode := supportsMode
  stepWithObservation := stepWithObservation
  reset := .reset

/-- A controller with gains only. -/
def gainsOnlyController (supportsMode : ControlMode → Bool)
    (stepWithObservation : StepWithObservation F Unit) : VehicleController F Unit where
  default := ()
  setCycleInterval runtime _ := runtime
  supportsMode := supportsMode
  stepWithObservation := stepWithObservation
  reset runtime := runtime

/-! ## Resets -/

/-- Resetting a runtime state of the pipeline gives its power-on value, whatever the state
was. -/
structure KernelPipeline.Restores {E R : Type} (p : KernelPipeline F E R) : Prop where
  estimator : ∀ e, p.estimator.reset e = p.estimator.default
  controller : ∀ r, p.controller.reset r = p.controller.default

section Restores

variable [Scalar F] [Libm F]
  (observe : EkfState F → SensorSet F → Option SensorOverrides → F → EkfState F)
  (estimate : EkfState F → StateEstimate F) (supportsMode : ControlMode → Bool) (mixer : Mixer F)
  (sanitizer : ActuatorSanitizer F)

theorem multirotor_restores
    (stepWithObservation : StepWithObservation F (MultirotorRuntimeState F)) :
    (KernelPipeline.mk (ekf observe estimate)
      (multirotorController supportsMode stepWithObservation) mixer sanitizer).Restores :=
  ⟨fun _ => rfl, fun _ => rfl⟩

theorem gainsOnly_restores (stepWithObservation : StepWithObservation F Unit) :
    (KernelPipeline.mk (ekf observe estimate) (gainsOnlyController supportsMode stepWithObservation)
      mixer sanitizer).Restores := ⟨fun _ => rfl, fun _ => rfl⟩

end Restores

end Aviate

end CoreRuntimeStates

section CoreUpdate

/-!
# The control cycle

`AviateKernelImpl::update` (`kernel_update.rs`) and the slew limiter
(`kernel/slew.rs`).

The cycle is cut into the stages its comments number. Three gates return the safe
output at once: a corrupted command, a kernel that is not armed, and a critical
fault. `armedCycle` is the pipeline behind them.
-/

namespace Aviate

variable {F E R : Type}

/-! ## Slew limiter -/

/-- Clamp the change of one channel to `limit`. A limit that is non-finite or not
positive leaves the channel unconstrained. -/
def slewChannel [Scalar F] (limit prev target : F) : F :=
  if !Scalar.isFinite limit || Scalar.le limit (lit 0) then target
  else prev + Scalar.clamp (target - prev) (-limit) limit

/-- Clamp the change of every channel. -/
def applySlewLimit [Scalar F] (outputs previous slewPerCycle : ActuatorVector F) :
    ActuatorVector F :=
  Vector.ofFn fun i => slewChannel slewPerCycle[i] previous[i] outputs[i]

@[simp] theorem getElem_applySlewLimit [Scalar F] (outputs previous slewPerCycle : ActuatorVector F)
    (i : Fin 16) :
    (applySlewLimit outputs previous slewPerCycle)[i] =
      slewChannel slewPerCycle[i] previous[i] outputs[i] := by
  simp [applySlewLimit]

/-! ## Inputs and results -/

/-- The arguments of `update` that it reads. The channel, the actuator feedback and
the cross-channel data are ignored by the code. -/
structure UpdateInput (F : Type) where
  time : TimeDelta F
  sensors : SensorSet F
  command : CommandMemory F
  commandAgeMs : UInt32

inductive ChannelHealthV1 where
  | operative
  | degraded
  | failed
  | offline
deriving DecidableEq, Repr

inductive ConfigTransitionState (F : Type) where
  | stable (mode : ConfigMode)
  | switching (fromMode toMode : ConfigMode) (progress : F)
  | failed (intended actual : ConfigMode) (reason : TransitionFailure)

structure CycleTiming where
  cycleStartUs : UInt32
  cycleEndUs : UInt32
  durationUs : UInt32
  deadlineMet : Bool
deriving DecidableEq, Repr

def CycleTiming.default : CycleTiming := ⟨0, 0, 0, true⟩

def EnvelopeMargin.default [Scalar F] : EnvelopeMargin F :=
  ⟨lit 0, lit 0, lit 0, lit 0, lit 0, lit 0⟩

structure ChannelStatus (F : Type) where
  mode : ControlMode
  configMode : ConfigMode
  transitionState : ConfigTransitionState F
  law : ControlLawV1
  health : ChannelHealthV1
  faults : FaultFlags
  confidence : EstimateQuality
  envelopeMargin : EnvelopeMargin F
  sequence : UInt32
  protection : ProtectionStatus
  sanitizeReport : SanitizeReport
  modeEntry : ModeEntryDecision

structure UpdateResult (F : Type) where
  effectiveCommand : Command F
  controllerObservation : ControllerStepObservation F
  actuator : ActuatorCmd F
  status : ChannelStatus F
  estimate : StateEstimate F
  timing : CycleTiming
  degradation : Option DegradationEvent

def safeEffectiveCommand [Scalar F] (sequence : UInt32) : Command F where
  mode := .attitude
  setpoint := .default
  configModeRequest := none
  sensorOverrides := none
  sequence := sequence
  source := .failsafe

namespace AviateKernel

variable [Scalar F] [Libm F] (k : AviateKernel F E R) (s : KernelState F E R)

/-! ## Stages -/

/-- Timing statistics of the cycle. -/
def recordTiming (dtUs : UInt32) : KernelState F E R :=
  let t := s.timingStats
  { s with timingStats := { t with
      lastCycleUs := dtUs
      totalCycles := t.totalCycles.saturatingAdd 1
      maxCycleUs := if dtUs > t.maxCycleUs then dtUs else t.maxCycleUs
      minCycleUs :=
        if dtUs < t.minCycleUs || t.minCycleUs == 0 then dtUs else t.minCycleUs } }

/-- The result of a cycle that a gate ends: the safe output under `Backup`. -/
def safeResult (sequence : UInt32) (timestamp : Timestamp) (activeMask : UInt16)
    (fallbackMask : UInt8) (mode : ControlMode) : UpdateResult F where
  effectiveCommand := safeEffectiveCommand sequence
  controllerObservation := .default
  actuator :=
    { outputs := k.cfg.safeOutput
      activeMask := activeMask
      sequence := sequence
      timestamp := timestamp
      fallbackMask := fallbackMask
      sanitized := true }
  status :=
    { mode := mode
      configMode := s.mode
      transitionState := .stable s.mode
      law := .backup
      health := .operative
      faults := s.faults
      confidence := (k.estimate s).quality
      envelopeMargin := .default
      sequence := sequence
      protection := .default
      sanitizeReport := .default
      modeEntry := .granted mode }
  estimate := k.estimate s
  timing := .default
  degradation := none

/-- Advance the estimator by one cycle. -/
def observe (inp : UpdateInput F) (overrides : Option SensorOverrides) : KernelState F E R :=
  { s with
    estimator := k.pipeline.estimator.observe s.estimator inp.sensors overrides inp.time.dtSec }

/-- 3. Fold the new estimate, the sensors and the command age into the in-flight
checks and the airborne latch. -/
def monitor (inp : UpdateInput F) (state : StateEstimate F) : KernelState F E R :=
  let altitude := -state.positionNed[2]
  let altitudeOk :=
    Scalar.le k.cfg.limits.minAltitude altitude && Scalar.le altitude k.cfg.limits.maxAltitude
  let inFlight := s.checks.inFlight
    |>.updateFromState state
    |>.updateFromSensors inp.sensors
    |>.updateAltitude altitudeOk
    |>.updateCommandStatus inp.commandAgeMs k.cfg.commandTimeoutMs
  { s.setInFlight inFlight with
    flightPhase := s.flightPhase.update state (s.initState == .armed) inp.time.dtSec .default }

/-- 4a. A descent that engaged for command loss releases when command recency is
restored. -/
def releaseTerminal : KernelState F E R :=
  if s.controlLaw == .direct && s.terminalCause == .commandLoss &&
      s.checks.inFlight.current.contains InFlightFlags.commandRecent then
    k.resetController { s with controlLaw := .primary, terminalCause := .none }
  else s

/-- The degradation of this cycle: persistent timing violations before the in-flight
trigger. -/
def degradationReason : Option DegradationReason :=
  if s.timingStats.consecutiveViolations ≥ timingViolationThreshold then some .timingViolation
  else s.checks.inFlight.getDegradationTrigger

/-- 4. Handle the degradation of this cycle. -/
def degrade (timestamp : Timestamp) : KernelState F E R × Option DegradationEvent :=
  match degradationReason s with
  | some reason => k.handleDegradation s reason timestamp
  | none => (s, none)

/-- 6a. The mode-entry gate. The terminal laws are not gated. -/
def modeEntry (law : ControlLawV1) (mode : ControlMode) (valid : StateValidFlags) :
    ModeEntryDecision :=
  match law with
  | .backup => .granted mode
  | .direct => .granted .altitudeHold
  | .primary => gateControllerModeEntry mode valid (k.pipeline.controller.supportsMode mode)
  | .alternate => gateControllerModeEntry mode valid (k.pipeline.controller.supportsMode mode)

/-- What the control step hands to the output stage. -/
structure ControlStep (F E R : Type) where
  state : KernelState F E R
  effectiveCommand : Command F
  actuator : ActuatorCmd F
  observation : ControllerStepObservation F

/-- The safe command of a law or a refused mode that does not run the controller. -/
def safeControlStep (sequence : UInt32) (timestamp : Timestamp) : ControlStep F E R where
  state := s
  effectiveCommand := safeEffectiveCommand sequence
  actuator :=
    { outputs := k.cfg.safeOutput
      activeMask := 0b1111
      sequence := sequence
      timestamp := timestamp
      fallbackMask := 0xFF
      sanitized := true }
  observation := .default

/-- Run the controller on a command and mix its output. -/
def flyCommand (state : StateEstimate F) (dt : F) (effectiveCmd : Command F)
    (entry : ModeEntryDecision) : ControlStep F E R :=
  let flags := (VehicleControlMode.fromControlMode effectiveCmd.mode).withModeEntry entry
  let runtime := k.pipeline.controller.setCycleInterval s.controller dt
  let (runtime, step) := k.pipeline.controller.stepWithObservation runtime state effectiveCmd
    flags s.mode k.cfg.limits
  { state := { s with controller := runtime }
    effectiveCommand := effectiveCmd
    actuator := k.pipeline.mixer.mix step.axisCommand
    observation := step.observation }

/-- 6b. The control step: the safe pattern, the synthesized descent or the gated
command. -/
def controlStep (safeControl : Bool) (state : StateEstimate F) (dt : F)
    (constrainedCmd : Command F) (entry : ModeEntryDecision) (timestamp : Timestamp) :
    ControlStep F E R :=
  if safeControl then k.safeControlStep s constrainedCmd.sequence timestamp
  -- The descent is synthesized from the estimate; the commanded setpoint is not flown.
  else if s.controlLaw == .direct then
    k.flyCommand s state dt (descendCommand state k.cfg.limits constrainedCmd.sequence) entry
  else k.flyCommand s state dt (applyModeEntry constrainedCmd entry) entry

/-- What the output stage returns. -/
structure Output (F E R : Type) where
  state : KernelState F E R
  actuator : ActuatorCmd F
  report : SanitizeReport

/-- 8. Sanitize the command, unless it is already the safe one. -/
def sanitizeStage (safeControl : Bool) (cmd : ActuatorCmd F) : SanitizePass F :=
  if safeControl then ⟨cmd, s.fallback, .default⟩
  else k.pipeline.sanitizer.sanitize cmd k.cfg.modeConfig s.fallback

/-- 7 to 10. Sanitize, limit the slew against the previous commanded outputs, and
record what is emitted. -/
def outputStage (safeControl : Bool) (cmd : ActuatorCmd F) (timestamp : Timestamp) :
    Output F E R :=
  -- The commanded outputs are still those of the last cycle that reached this stage.
  let previousOutputs := s.actuatorState.commanded
  let pass := k.sanitizeStage s safeControl cmd
  let cmd := { pass.cmd with
    outputs := applySlewLimit pass.cmd.outputs previousOutputs k.cfg.slewLimitPerCycle }
  { state := { s with
      fallback := pass.fallback
      actuatorState := s.actuatorState.updateCommanded cmd timestamp }
    actuator := cmd
    report := pass.report }

/-! ## The cycle -/

/-- 5. Envelope protection of the commanded setpoint. -/
def protect (command : Command F) (state : StateEstimate F) : Setpoint F × ProtectionStatus :=
  SimpleEnvelopeProtector.constrain command.setpoint state k.cfg.limits .hardEnvelope

/-- 5 and 6a. What the envelope and the mode gate write: the envelope flag, and a
controller reset for a mode the controller does not implement. -/
def applyGates (protection : ProtectionStatus) (entry : ModeEntryDecision) :
    KernelState F E R :=
  let s := s.setInFlight (s.checks.inFlight.updateFromEnvelope protection)
  if entry.isUnsupported then k.resetController s else s

/-- The cycle emits the safe output instead of running the controller. -/
def isSafeControl (entry : ModeEntryDecision) : Bool :=
  s.controlLaw == .backup || entry.isUnsupported

/-- Steps 5 to 11 of the armed pipeline, from the state after degradation. -/
def flightOutput (inp : UpdateInput F) (command : Command F) (timestamp : Timestamp)
    (state : StateEstimate F) (degradation : Option DegradationEvent) :
    KernelState F E R × UpdateResult F :=
  let (constrainedSp, protection) := k.protect command state
  let constrainedCmd := { command with setpoint := constrainedSp }
  -- The envelope flag and the reset below leave the law alone, so the gate may read it here.
  let entry := k.modeEntry s.controlLaw constrainedCmd.mode state.validFlags
  let safeControl := isSafeControl s entry
  let step := k.controlStep (k.applyGates s protection entry) safeControl state inp.time.dtSec
    constrainedCmd entry timestamp
  let out := k.outputStage step.state safeControl step.actuator timestamp
  let s := out.state
  let dtUs := inp.time.asMicros.toUInt32
  (s,
    { effectiveCommand := step.effectiveCommand
      controllerObservation := step.observation
      actuator := out.actuator
      status :=
        { mode := entry.effective
          configMode := s.mode
          transitionState := .stable s.mode
          law := s.controlLaw
          health := .operative
          faults := s.faults
          confidence := state.quality
          envelopeMargin := .default
          sequence := command.sequence
          protection := protection
          sanitizeReport := out.report
          modeEntry := entry }
      estimate := state
      timing := ⟨0, dtUs, dtUs, s.timingStats.consecutiveViolations == 0⟩
      degradation := degradation })

/-- The pipeline of an armed kernel without critical faults. -/
def armedCycle (inp : UpdateInput F) (command : Command F) (timestamp : Timestamp) :
    KernelState F E R × UpdateResult F :=
  let s := k.observe s inp command.sensorOverrides
  let state := k.estimate s
  let s := k.releaseTerminal (k.monitor s inp state)
  let (s, degradation) := k.degrade s timestamp
  k.flightOutput s inp command timestamp state degradation

/-- The timestamp of a cycle. -/
def cycleTimestamp (inp : UpdateInput F) : Timestamp := ⟨inp.time.tickDelta, .internal⟩

/-- The control cycle. -/
def update (inp : UpdateInput F) : KernelState F E R × UpdateResult F :=
  let timestamp := cycleTimestamp inp
  let s := recordTiming s inp.time.asMicros.toUInt32
  match inp.command with
  -- Corrupted enum memory is caught before anything reads the command.
  | .upset sequence =>
    let s := { s with faults := s.faults.insert FaultFlags.enumInvalid }
    (s, k.safeResult s sequence timestamp 0 0 .attitude)
  | .intact command =>
    let s := updateSensorFaults s inp.sensors
    -- 1. Only actuator authority is gated on arming: the estimator converges on the pad.
    if !s.initState.allowsActiveControl then
      let s :=
        if !s.faults.intersects criticalFaults then k.observe s inp command.sensorOverrides
        else s
      (s, k.safeResult s command.sequence timestamp 0 0 command.mode)
    else
      -- 2. A critical fault forces the fault state before this cycle's estimate exists.
      let (s, critical) := k.checkCriticalFaults s
      if critical then (s, k.safeResult s command.sequence timestamp 0b1111 0xFF command.mode)
      else k.armedCycle s inp command timestamp

end AviateKernel

end Aviate

end CoreUpdate

section EstimatorMatrix

/-!
# The matrices of the filter

The fixed-size matrices the filter computes with (`math.rs`), and what their operations
are on finite entries.

Results:
1. A sum, product, transpose or symmetrization of finite matrices is finite
   (`finite_add`, `finite_mul`, `finite_transpose`, `finite_makeSymmetric`), and its value
   is that operation on the values (`val_add`, `val_mul`, `val_transpose`).
2. Symmetrization leaves a symmetric matrix alone (`val_makeSymmetric`).
3. Flooring the diagonal only adds to it, and brings every entry of it up to the floor
   (`floorDiagonal_spec`).
-/

namespace Aviate

variable {F : Type} {m n p : Nat}

/-- `Matrix<R, C>`: rows of scalars. -/
abbrev Mat (F : Type) (r c : Nat) := Vector (Vector F c) r

namespace Mat

protected def get (a : Mat F m n) (r : Fin m) (c : Fin n) : F := a[r][c]

/-- The matrix with entry `f r c` in row `r` and column `c`. -/
def ofFn (f : Fin m → Fin n → F) : Mat F m n := Vector.ofFn fun r => Vector.ofFn (f r)

@[simp] theorem get_ofFn (f : Fin m → Fin n → F) (r : Fin m) (c : Fin n) :
    Mat.get (ofFn f) r c = f r c := by
  simp [Mat.get, ofFn]

/-! ## Operations -/

section Operations

variable [Scalar F]

protected def zero : Mat F m n := ofFn fun _ _ => lit 0

protected def identity : Mat F n n := ofFn fun r c => if r = c then lit 1 else lit 0

/-- `t`. -/
protected def transpose (a : Mat F m n) : Mat F n m := ofFn fun r c => Mat.get a c r

protected def add (a b : Mat F m n) : Mat F m n := ofFn fun r c => Mat.get a r c + Mat.get b r c

/-- `mat_mul`: each entry is summed up from zero, in order. -/
protected def mul (a : Mat F m n) (b : Mat F n p) : Mat F m p :=
  ofFn fun r c => Fin.foldl n (fun sum k => sum + Mat.get a r k * Mat.get b k c) (lit 0)

/-- Replace each pair of mirrored entries by its average. -/
def makeSymmetric (a : Mat F n n) : Mat F n n :=
  ofFn fun r c =>
    if c < r then (Mat.get a r c + Mat.get a c r) * lit (1 / 2)
    else if r < c then (Mat.get a c r + Mat.get a r c) * lit (1 / 2)
    else Mat.get a r c

/-- Raise each diagonal entry that is not finite or below the floor to the floor. -/
def floorDiagonal (a : Mat F n n) (floor : F) : Mat F n n :=
  ofFn fun r c =>
    if r = c ∧ (!Scalar.isFinite (Mat.get a r c) || Scalar.lt (Mat.get a r c) floor) then floor
    else Mat.get a r c

/-- Write `b` into the 3×3 block that starts at row `row` and column `col`. -/
def setBlock (a : Mat F n n) (row col : Nat) (b : Mat F 3 3) : Mat F n n :=
  ofFn fun r c =>
    if h : (row ≤ r.val ∧ r.val < row + 3) ∧ (col ≤ c.val ∧ c.val < col + 3) then
      Mat.get b ⟨r.val - row, by omega⟩ ⟨c.val - col, by omega⟩
    else Mat.get a r c

/-- Write `x` into the diagonal of the 3×3 block that starts at row `row` and column `col`. -/
def setDiagonal (a : Mat F n n) (row col : Nat) (x : F) : Mat F n n :=
  ofFn fun r c =>
    if row ≤ r.val ∧ r.val < row + 3 ∧ c.val + row = r.val + col then x else Mat.get a r c

/-- Add `x` to the three diagonal entries from `base` on. -/
def widenDiagonal (a : Mat F n n) (base : Nat) (x : F) : Mat F n n :=
  ofFn fun r c =>
    if base ≤ r.val ∧ r.val < base + 3 ∧ c = r then Mat.get a r c + x else Mat.get a r c

end Operations

/-! ## Finite entries -/

variable {K : Type} {a b : Mat (ExactFloat K) m n}

/-- Every entry is finite. -/
protected def Finite (a : Mat (ExactFloat K) m n) : Prop :=
  ∀ r c, (Mat.get a r c).isFinite = true

theorem finite_ofFn {f : Fin m → Fin n → ExactFloat K} (hf : ∀ r c, (f r c).isFinite = true) :
    (ofFn f).Finite := by
  intro r c
  rw [get_ofFn]
  exact hf r c

variable [Field K]

/-- The matrix of the entries' values. -/
def val (a : Mat (ExactFloat K) m n) : Matrix (Fin m) (Fin n) K :=
  Matrix.of fun r c => (Mat.get a r c).val

@[simp] theorem val_apply (r : Fin m) (c : Fin n) : val a r c = (Mat.get a r c).val := rfl

theorem get_eq_fin (ha : a.Finite) (r : Fin m) (c : Fin n) : Mat.get a r c = .fin (val a r c) :=
  ExactFloat.eq_fin_val (ha r c)

/-- Summing finite terms up gives their sum. -/
theorem foldl_add_fin (start : K) (f : Fin n → K) :
    Fin.foldl n (fun sum k => sum + ExactFloat.fin (f k)) (.fin start) =
      .fin (start + ∑ k, f k) := by
  induction n with
  | zero => simp
  | succ n ih =>
    rw [Fin.foldl_succ_last, ih, Fin.sum_univ_castSucc, ExactFloat.fin_add_fin, add_assoc]

variable [LinearOrder K]

theorem finite_identity : (Mat.identity : Mat (ExactFloat K) n n).Finite := by
  refine finite_ofFn fun r c => ?_
  split <;> rfl

theorem val_identity : val (Mat.identity : Mat (ExactFloat K) n n) = 1 := by
  ext r c
  rw [val_apply, Mat.identity, get_ofFn, Matrix.one_apply]
  split
  · exact Rat.cast_one
  · exact Rat.cast_zero

theorem finite_zero : (Mat.zero : Mat (ExactFloat K) m n).Finite :=
  finite_ofFn fun _ _ => rfl

theorem val_zero : val (Mat.zero : Mat (ExactFloat K) m n) = 0 := by
  ext r c
  rw [val_apply, Mat.zero, get_ofFn]
  exact Rat.cast_zero

omit [Field K] [LinearOrder K] in
theorem finite_transpose (ha : a.Finite) : (Mat.transpose a).Finite :=
  finite_ofFn fun r c => ha c r

omit [LinearOrder K] in
theorem val_transpose : val (Mat.transpose a) = (val a).transpose := by
  ext r c
  rw [val_apply, Mat.transpose, get_ofFn]
  rfl

theorem finite_add (ha : a.Finite) (hb : b.Finite) : (Mat.add a b).Finite :=
  finite_ofFn fun r c => by simp [ha r c, hb r c]

theorem val_add (ha : a.Finite) (hb : b.Finite) : val (Mat.add a b) = val a + val b := by
  ext r c
  rw [val_apply, Mat.add, get_ofFn, ExactFloat.val_add (ha r c) (hb r c)]
  rfl

theorem mul_get {b : Mat (ExactFloat K) n p} (ha : a.Finite) (hb : b.Finite) (r : Fin m)
    (c : Fin p) : Mat.get (Mat.mul a b) r c = .fin ((val a * val b) r c) := by
  have hterm : ∀ k, Mat.get a r k * Mat.get b k c = .fin (val a r k * val b k c) := by
    intro k
    rw [get_eq_fin ha, get_eq_fin hb, ExactFloat.fin_mul_fin]
  have hzero : (lit 0 : ExactFloat K) = .fin 0 := congrArg ExactFloat.fin Rat.cast_zero
  rw [Mat.mul, get_ofFn]
  simp only [hterm, hzero, foldl_add_fin, zero_add]
  rfl

theorem finite_mul {b : Mat (ExactFloat K) n p} (ha : a.Finite) (hb : b.Finite) :
    (Mat.mul a b).Finite := by
  intro r c
  rw [mul_get ha hb]
  rfl

theorem val_mul {b : Mat (ExactFloat K) n p} (ha : a.Finite) (hb : b.Finite) :
    val (Mat.mul a b) = val a * val b := by
  ext r c
  rw [val_apply, mul_get ha hb, ExactFloat.val_fin]

section Square

variable {a : Mat (ExactFloat K) n n} {x : ExactFloat K} {row col base : Nat}

theorem finite_makeSymmetric (ha : a.Finite) : (makeSymmetric a).Finite := by
  refine finite_ofFn fun r c => ?_
  split
  · simp [ha r c, ha c r]
  · split
    · simp [ha r c, ha c r]
    · exact ha r c

omit [Field K] [LinearOrder K] in
theorem finite_setBlock {b : Mat (ExactFloat K) 3 3} (ha : a.Finite) (hb : b.Finite) :
    (setBlock a row col b).Finite := by
  refine finite_ofFn fun r c => ?_
  split
  · exact hb _ _
  · exact ha r c

omit [Field K] [LinearOrder K] in
theorem finite_setDiagonal (ha : a.Finite) (hx : x.isFinite = true) :
    (setDiagonal a row col x).Finite := by
  refine finite_ofFn fun r c => ?_
  split
  · exact hx
  · exact ha r c

theorem finite_widenDiagonal (ha : a.Finite) (hx : x.isFinite = true) :
    (widenDiagonal a base x).Finite := by
  refine finite_ofFn fun r c => ?_
  split
  · simp [ha r c, hx]
  · exact ha r c

theorem val_widenDiagonal (ha : a.Finite) (hx : x.isFinite = true) :
    val (widenDiagonal a base x) =
      val a + Matrix.diagonal fun i : Fin n =>
        if base ≤ i.val ∧ i.val < base + 3 then x.val else 0 := by
  ext r c
  rw [val_apply, widenDiagonal, get_ofFn, Matrix.add_apply, Matrix.diagonal_apply, val_apply]
  by_cases hrc : r = c
  · subst hrc
    by_cases hblock : base ≤ r.val ∧ r.val < base + 3
    · rw [if_pos ⟨hblock.1, hblock.2, rfl⟩, if_pos rfl, if_pos hblock,
        ExactFloat.val_add (ha r r) hx]
    · rw [if_neg fun h => hblock ⟨h.1, h.2.1⟩, if_pos rfl, if_neg hblock, add_zero]
  · rw [if_neg fun h => hrc h.2.2.symm, if_neg hrc, add_zero]

theorem finite_floorDiagonal {floor : K} (ha : a.Finite) :
    (floorDiagonal a (.fin floor)).Finite := by
  refine finite_ofFn fun r c => ?_
  split
  · rfl
  · exact ha r c

/-- Flooring adds to each diagonal entry what it lacks to the floor. -/
theorem val_floorDiagonal [IsStrictOrderedRing K] {floor : K} (ha : a.Finite) :
    val (floorDiagonal a (.fin floor)) =
      val a + Matrix.diagonal fun i => max (floor - val a i i) 0 := by
  ext r c
  rw [val_apply, floorDiagonal, get_ofFn, Matrix.add_apply, Matrix.diagonal_apply]
  by_cases hrc : r = c
  · subst hrc
    rw [if_pos rfl]
    have hentry := get_eq_fin ha r r
    rw [hentry]
    show (if r = r ∧ (!true || decide (val a r r < floor)) then _ else _ : ExactFloat K).val = _
    by_cases hlow : val a r r < floor
    · rw [if_pos ⟨rfl, decide_eq_true hlow⟩, max_eq_left (by linarith), add_sub_cancel]
      rfl
    · rw [if_neg fun h => hlow (of_decide_eq_true h.2), max_eq_right (by linarith), add_zero]
      rfl
  · rw [if_neg fun h => hrc h.1, if_neg hrc, add_zero]
    rfl

variable [IsStrictOrderedRing K]

theorem val_half : (lit (1 / 2) : ExactFloat K) = .fin (1 / 2) := by
  exact congrArg ExactFloat.fin (by norm_num)

/-- Averaging the mirrored entries of a symmetric matrix changes nothing. -/
theorem val_makeSymmetric (ha : a.Finite) (hs : (val a).IsSymm) :
    val (makeSymmetric a) = val a := by
  have havg : ∀ r c, ((Mat.get a r c + Mat.get a c r) * lit (1 / 2)).val = val a r c := by
    intro r c
    have hmirror : val a c r = val a r c := congrFun (congrFun hs r) c
    rw [get_eq_fin ha, get_eq_fin ha, val_half, hmirror, ExactFloat.fin_add_fin,
      ExactFloat.fin_mul_fin, ExactFloat.val_fin]
    ring
  ext r c
  rw [val_apply, makeSymmetric, get_ofFn]
  split
  · exact havg r c
  · split
    · exact (havg c r).trans (congrFun (congrFun hs r) c)
    · rfl

end Square

end Mat

end Aviate

end EstimatorMatrix

section EstimatorFilter

/-!
# The error-state filter

The 15-state filter of `ekf.rs` and its submodules: prediction, the widening of the
covariance over gaps and clipped samples, the scalar and heading updates, the fusion of
GNSS, barometer and magnetometer readings, the aiding ages, and one `observe` cycle.

`f32::clamp` panics on unordered bounds, and the two loops that wrap the heading innovation
need not end. An operation that reaches either gives an `Option`: `none` when it panics or
when `fuel` turns of a loop are not enough.
-/

namespace Aviate

variable {F : Type}

/-- `powf` of the external `libm` crate. -/
class LibmPow (F : Type) where
  powf : F → F → F

export LibmPow (powf)

/-- `f32::MIN`. -/
def scalarMin [Scalar F] : F := lit (-340282346638528859811704183484516925440)

/-! ## Attitude mathematics -/

/-- `QUAT_NORM_EPS`. -/
def quatNormEps [Scalar F] : F := lit (1 / 10000)

namespace Quaternion

variable [Scalar F]

/-- Unit length within a tolerance; a norm that is not finite is not. -/
def isNormalized [Libm F] (q : Quaternion F) (epsilon : F) : Bool :=
  Scalar.isFinite q.normSq && Scalar.lt (Scalar.abs (q.normSq - lit 1)) epsilon

/-- `q ⊗ v ⊗ q*`. -/
def rotateVector (q : Quaternion F) (v : Vector3 F) : Vector3 F :=
  let ix := q.w * v.x + q.y * v.z - q.z * v.y
  let iy := q.w * v.y + q.z * v.x - q.x * v.z
  let iz := q.w * v.z + q.x * v.y - q.y * v.x
  let iw := -q.x * v.x - q.y * v.y - q.z * v.z
  { x := ix * q.w + iw * -q.x + iy * -q.z - iz * -q.y
    y := iy * q.w + iw * -q.y + iz * -q.x - ix * -q.z
    z := iz * q.w + iw * -q.z + ix * -q.y - iy * -q.x }

def toRotationMatrix (q : Quaternion F) : Mat F 3 3 :=
  let x2 := q.x + q.x
  let y2 := q.y + q.y
  let z2 := q.z + q.z
  let xx := q.x * x2
  let xy := q.x * y2
  let xz := q.x * z2
  let yy := q.y * y2
  let yz := q.y * z2
  let zz := q.z * z2
  let wx := q.w * x2
  let wy := q.w * y2
  let wz := q.w * z2
  #v[#v[lit 1 - (yy + zz), xy - wz, xz + wy],
     #v[xy + wz, lit 1 - (xx + zz), yz - wx],
     #v[xz - wy, yz + wx, lit 1 - (xx + yy)]]

end Quaternion

namespace Vector3

variable [Scalar F]

protected def add (v w : Vector3 F) : Vector3 F := ⟨v.x + w.x, v.y + w.y, v.z + w.z⟩

def skewSymmetric (v : Vector3 F) : Mat F 3 3 :=
  #v[#v[lit 0, -v.z, v.y], #v[v.z, lit 0, -v.x], #v[-v.y, v.x, lit 0]]

/-- `f32::clamp` of each component to `[-limit, limit]`; it panics unless the bounds are
ordered. -/
def clamp (v : Vector3 F) (limit : F) : Option (Vector3 F) :=
  if Scalar.le (-limit) limit then
    some ⟨Scalar.clamp v.x (-limit) limit, Scalar.clamp v.y (-limit) limit,
      Scalar.clamp v.z (-limit) limit⟩
  else none

end Vector3

/-! ## Configuration and state -/

/-- `IDX_POS`, `IDX_VEL` and `IDX_ATT`. -/
def idxPos : Nat := 0

def idxVel : Nat := 3

def idxAtt : Nat := 6

/-- `IDX_POS + 2`, the height, and `IDX_ATT + 2`, the yaw error. -/
def idxHeight : Fin stateDim := 2

def idxYaw : Fin stateDim := 8

structure EkfConfig (F : Type) where
  processNoiseGyro : F
  processNoiseAccel : F
  processNoiseGyroBias : F
  processNoiseAccelBias : F
  gyroBiasLimit : F
  accelBiasLimit : F
  measNoiseGnssPos : F
  measNoiseGnssVel : F
  measNoiseBaro : F
  measNoiseMag : F
  innovationGate : F
  magInclinationDecayStart : F
  magInclinationLimit : F
  magFieldMin : F
  magFieldMax : F

def EkfConfig.default [Scalar F] : EkfConfig F where
  processNoiseGyro := lit (1 / 1000)
  processNoiseAccel := lit (1 / 100)
  processNoiseGyroBias := lit (1 / 1000000)
  processNoiseAccelBias := lit (1 / 100000)
  gyroBiasLimit := lit (1 / 10)
  accelBiasLimit := lit (1 / 2)
  measNoiseGnssPos := lit (1 / 2)
  measNoiseGnssVel := lit (1 / 10)
  measNoiseBaro := lit 2
  measNoiseMag := lit (5 / 100)
  innovationGate := lit 5
  magInclinationDecayStart := lit (80 / 100)
  magInclinationLimit := lit (95 / 100)
  magFieldMin := lit 20
  magFieldMax := lit 70

namespace EkfState

variable [Scalar F] [Libm F]

def init (s : EkfState F) (pos vel : Vector3 F) (quat : Quaternion F) : EkfState F :=
  { s with
    pos := pos
    vel := vel
    quat := quat
    gyroBias := .zero
    accelBias := .zero
    pCov := initialCovariance
    initialized := true
    quatFault := false
    baroRef := none
    baroRefVar := lit 0
    gnssPosAgeS := ageSaturationS
    gnssVelAgeS := ageSaturationS
    baroAgeS := ageSaturationS
    imuAgeS := lit 0
    accelClipS := lit 0 }

/-- Normalize a quaternion. One that does not come out at unit length latches the fault and
is replaced by the identity. -/
def sanitizeQuat (s : EkfState F) (q : Quaternion F) : EkfState F × Quaternion F :=
  let q := q.normalize
  if !q.isNormalized quatNormEps then ({ s with quatFault := true }, .identity) else (s, q)

/-- Apply a small rotation of the navigation frame to the attitude. -/
def rotateAttitude (s : EkfState F) (dAng : Vector3 F) : EkfState F :=
  let (s, dqSmall) := s.sanitizeQuat
    ⟨lit 1, dAng.x * lit (1 / 2), dAng.y * lit (1 / 2), dAng.z * lit (1 / 2)⟩
  let newQuat := dqSmall.mul s.quat
  let (s, quat) := s.sanitizeQuat newQuat
  { s with quat := quat }

/-- Advance the aiding ages and the IMU age by one cycle. -/
def tickAidingAge (s : EkfState F) (dt : F) : EkfState F :=
  if !s.initialized || !Scalar.isFinite dt || Scalar.le dt (lit 0) then s
  else
    { s with
      gnssPosAgeS := Scalar.min (s.gnssPosAgeS + dt) ageSaturationS
      gnssVelAgeS := Scalar.min (s.gnssVelAgeS + dt) ageSaturationS
      baroAgeS := Scalar.min (s.baroAgeS + dt) ageSaturationS
      imuAgeS := Scalar.min (s.imuAgeS + dt) ageSaturationS }

/-- The largest variance of the three states from `base` on. -/
def maxBlockVariance (s : EkfState F) (base : Nat) (h : base + 3 ≤ stateDim) : F :=
  let variance (i : Fin 3) : F :=
    Mat.get s.pCov ⟨base + i.val, by omega⟩ ⟨base + i.val, by omega⟩
  Fin.foldl 3 (fun largest i => Scalar.max largest (variance i)) scalarMin

end EkfState

/-! ## Prediction -/

/-- Every gyro and accelerometer component is finite. -/
def imuIsFinite [Scalar F] (imu : ImuData F) : Bool :=
  imu.gyro.toList.all Scalar.isFinite && imu.accel.toList.all Scalar.isFinite

/-- `IMU_GAP_RATE_SIGMA`, `IMU_GAP_ACCEL_SIGMA` and `IMU_GAP_CEILING_S`. -/
def imuGapRateSigma [Scalar F] : F := lit (1 / 2)

def imuGapAccelSigma [Scalar F] : F := lit 5

def imuGapCeilingS [Scalar F] : F := lit 10

/-- `ACCEL_CLIP_MPS2`, `ACCEL_CLIP_EXCESS_SIGMA` and `ACCEL_CLIP_CEILING_S`. -/
def accelClipMps2 [Scalar F] : F := lit 16 * lit (980665 / 100000)

def accelClipExcessSigma [Scalar F] : F := lit 500

def accelClipCeilingS [Scalar F] : F := lit 1

namespace EkfState

variable [Scalar F] [Libm F]

/-- Add to the three variances of the velocity and of the position. -/
def widenMotion (s : EkfState F) (velAdded posAdded : F) : EkfState F :=
  { s with
    pCov := Mat.widenDiagonal (Mat.widenDiagonal s.pCov idxVel velAdded) idxPos posAdded }

/-- Widen the covariance for the time since the last propagated sample beyond `dt`, and
restart that clock. -/
def widenForImuGap (s : EkfState F) (dt : F) : EkfState F :=
  let gapS := Scalar.min (s.imuAgeS - dt) imuGapCeilingS
  let s := { s with imuAgeS := lit 0 }
  if Scalar.le gapS (lit 0) then s
  else
    let attVar := (imuGapRateSigma * gapS) * (imuGapRateSigma * gapS)
    let velVar := (imuGapAccelSigma * gapS) * (imuGapAccelSigma * gapS)
    let posSigma := lit (1 / 2) * imuGapAccelSigma * gapS * gapS
    { s with pCov := Mat.widenDiagonal s.pCov idxAtt attVar }.widenMotion velVar
      (posSigma * posSigma)

/-- The velocity variance a clipping run of length `t` hides. -/
def clipVelVar (t : F) : F := (accelClipExcessSigma * t) * (accelClipExcessSigma * t)

/-- The position variance a clipping run of length `t` hides. -/
def clipPosVar (t : F) : F := clipVelVar t * (lit (1 / 2) * t) * (lit (1 / 2) * t)

/-- Widen the covariance for one clipped sample; an in-range sample ends the run. -/
def widenForAccelClip (s : EkfState F) (accel : Vector F 3) (dt : F) : EkfState F :=
  if !accel.toList.any fun a => Scalar.le accelClipMps2 (Scalar.abs a) then
    { s with accelClipS := lit 0 }
  else
    let beforeS := s.accelClipS
    let afterS := Scalar.min (beforeS + dt) accelClipCeilingS
    { s with accelClipS := afterS }.widenMotion (clipVelVar afterS - clipVelVar beforeS)
      (clipPosVar afterS - clipPosVar beforeS)

/-- The angular rate less the gyro bias. -/
def gyroCorr (s : EkfState F) (imu : ImuData F) : Vector3 F :=
  ⟨imu.gyro[0] - s.gyroBias.x, imu.gyro[1] - s.gyroBias.y, imu.gyro[2] - s.gyroBias.z⟩

/-- The specific force less the accelerometer bias, in the navigation frame. -/
def accelEarth (s : EkfState F) (imu : ImuData F) : Vector3 F :=
  s.quat.rotateVector
    ⟨imu.accel[0] - s.accelBias.x, imu.accel[1] - s.accelBias.y, imu.accel[2] - s.accelBias.z⟩

/-- The rotation of one cycle. -/
def turn (s : EkfState F) (imu : ImuData F) (dt : F) : Quaternion F :=
  let deltaAngle := s.gyroCorr imu
  let angleMag := sqrtf
    (deltaAngle.x * deltaAngle.x + deltaAngle.y * deltaAngle.y + deltaAngle.z * deltaAngle.z)
  if Scalar.lt (lit (1 / 1000000)) angleMag then
    Quaternion.fromAxisAngle
      ⟨deltaAngle.x / angleMag, deltaAngle.y / angleMag, deltaAngle.z / angleMag⟩ (angleMag * dt)
  else .identity

/-- Integrate position and velocity. -/
def integrateMotion (s : EkfState F) (imu : ImuData F) (dt : F) : EkfState F :=
  let accelEarth := s.accelEarth imu
  let accelNet : Vector3 F := ⟨accelEarth.x, accelEarth.y, accelEarth.z + lit (981 / 100)⟩
  { s with
    lastGyroBody := s.gyroCorr imu
    pos :=
      ⟨s.pos.x + s.vel.x * dt + lit (1 / 2) * accelNet.x * dt * dt,
       s.pos.y + s.vel.y * dt + lit (1 / 2) * accelNet.y * dt * dt,
       s.pos.z + s.vel.z * dt + lit (1 / 2) * accelNet.z * dt * dt⟩
    vel :=
      ⟨s.vel.x + accelNet.x * dt, s.vel.y + accelNet.y * dt, s.vel.z + accelNet.z * dt⟩ }

/-- Integrate the state over one cycle. -/
def integrate (s : EkfState F) (imu : ImuData F) (dt : F) : EkfState F :=
  let newQuat := s.quat.mul (s.turn imu dt)
  let (s, quat) := (s.integrateMotion imu dt).sanitizeQuat newQuat
  { s with quat := quat }

end EkfState

namespace EkfConfig

variable [Scalar F] [Libm F]

/-- `F`: how the error state moves over one cycle. -/
def transition (accelEarth : Vector3 F) (rotation : Mat F 3 3) (dt : F) :
    Mat F stateDim stateDim :=
  let rotAccelSkew := accelEarth.skewSymmetric
  let scaled (a : Mat F 3 3) : Mat F 3 3 := .ofFn fun r c => -(Mat.get a r c) * dt
  Mat.identity
    |> (Mat.setDiagonal · idxPos idxVel dt)
    |> (Mat.setBlock · idxVel idxAtt (scaled rotAccelSkew))
    |> (Mat.setBlock · idxVel idxAb (scaled rotation))
    |> (Mat.setBlock · idxAtt idxGb (scaled rotation))

/-- `Q`: the process noise of one cycle. -/
def processNoise (cfg : EkfConfig F) (dt : F) : Mat F stateDim stateDim :=
  Mat.zero
    |> (Mat.setDiagonal · idxPos idxPos (lit (1 / 1000)))
    |> (Mat.setDiagonal · idxVel idxVel (cfg.processNoiseAccel * dt * dt))
    |> (Mat.setDiagonal · idxAtt idxAtt (cfg.processNoiseGyro * dt * dt))
    |> (Mat.setDiagonal · idxGb idxGb (cfg.processNoiseGyroBias * dt))
    |> (Mat.setDiagonal · idxAb idxAb (cfg.processNoiseAccelBias * dt))

/-- The covariance after one cycle, `P = F P Fᵀ + Q`. -/
def predictCovariance (cfg : EkfConfig F) (p : Mat F stateDim stateDim) (accelEarth : Vector3 F)
    (rotation : Mat F 3 3) (dt : F) : Mat F stateDim stateDim :=
  let fMat := transition accelEarth rotation dt
  let fpft := Mat.mul (Mat.mul fMat p) (Mat.transpose fMat)
  Mat.makeSymmetric (Mat.add fpft (cfg.processNoise dt))

/-- Integrate one finite sample. The covariance moves with the attitude it leads to. -/
def propagate (cfg : EkfConfig F) (s : EkfState F) (imu : ImuData F) (dt : F) : EkfState F :=
  let accelEarth := s.accelEarth imu
  let s := s.integrate imu dt
  { s with pCov := cfg.predictCovariance s.pCov accelEarth s.quat.toRotationMatrix dt }

def predictState (cfg : EkfConfig F) (s : EkfState F) (imu : ImuData F) (dt : F) :
    EkfState F :=
  if !s.initialized then s
  else if !Scalar.isFinite dt || Scalar.le dt (lit 0) then s
  else if !imuIsFinite imu then s
  else cfg.propagate ((s.widenForImuGap dt).widenForAccelClip imu.accel dt) imu dt

/-! ## Scalar updates -/

/-- `COV_VAR_FLOOR`. -/
def covVarFloor : F := lit (1 / 1000000000)

/-- `A = I - K H`, the identity but for column `hIdx`. -/
def josephResidual (k : Vector F stateDim) (hIdx : Fin stateDim) : Mat F stateDim stateDim :=
  .ofFn fun r c =>
    if c = hIdx then (if r = hIdx then lit 1 else lit 0) - k[r] else Mat.get Mat.identity r c

/-- `A P Aᵀ + K R Kᵀ`. -/
def josephForm (p : Mat F stateDim stateDim) (k : Vector F stateDim) (hIdx : Fin stateDim)
    (rNoise : F) : Mat F stateDim stateDim :=
  let a := josephResidual k hIdx
  let pNew := Mat.mul (Mat.mul a p) (Mat.transpose a)
  .ofFn fun r c => Mat.get pNew r c + k[r] * rNoise * k[c]

/-- The covariance after a scalar update of state `hIdx` with gain `k`: the Joseph form,
symmetrized and with its diagonal floored. -/
def josephScalarCovUpdate (p : Mat F stateDim stateDim) (k : Vector F stateDim)
    (hIdx : Fin stateDim) (rNoise : F) : Mat F stateDim stateDim :=
  Mat.floorDiagonal (Mat.makeSymmetric (josephForm p k hIdx rNoise)) covVarFloor

end EkfConfig

namespace EkfState

variable [Scalar F]

/-- The variance of an innovation of state `idx`. -/
def innovationVariance (s : EkfState F) (idx : Fin stateDim) (rNoise : F) : F :=
  Mat.get s.pCov idx idx + rNoise

def kalmanGain (s : EkfState F) (idx : Fin stateDim) (variance : F) : Vector F stateDim :=
  Vector.ofFn fun i => Mat.get s.pCov i idx * (lit 1 / variance)

/-- The state a scalar measurement is of: a position or velocity component. -/
def measured (s : EkfState F) (stateIdx : Fin stateDim) : Option F :=
  match stateIdx.val with
  | 0 => some s.pos.x
  | 1 => some s.pos.y
  | 2 => some s.pos.z
  | 3 => some s.vel.x
  | 4 => some s.vel.y
  | 5 => some s.vel.z
  | _ => none

/-- What a gain and an innovation say about the three states from `base` on. -/
def correction (k : Vector F stateDim) (innov : F) (base : Nat) (h : base + 3 ≤ stateDim) :
    Vector3 F :=
  ⟨k[base] * innov, k[base + 1] * innov, k[base + 2] * innov⟩

def correctMotion (s : EkfState F) (k : Vector F stateDim) (innov : F) : EkfState F :=
  { s with
    pos := s.pos.add (correction k innov idxPos (by decide))
    vel := s.vel.add (correction k innov idxVel (by decide)) }

def correctGyroBias (s : EkfState F) (k : Vector F stateDim) (innov : F) : EkfState F :=
  { s with gyroBias := s.gyroBias.add (correction k innov idxGb (by decide)) }

def correctAccelBias (s : EkfState F) (k : Vector F stateDim) (innov : F) : EkfState F :=
  { s with accelBias := s.accelBias.add (correction k innov idxAb (by decide)) }

/-- Apply the attitude error as a rotation of the navigation frame. -/
def correctAttitude [Libm F] (s : EkfState F) (k : Vector F stateDim) (innov : F) :
    EkfState F :=
  s.rotateAttitude (correction k innov idxAtt (by decide))

end EkfState

namespace EkfConfig

variable [Scalar F] [Libm F]

/-- Hold both bias blocks within their limits. -/
def clampBiases (cfg : EkfConfig F) (s : EkfState F) : Option (EkfState F) := do
  let gyroBias ← s.gyroBias.clamp cfg.gyroBiasLimit
  let accelBias ← s.accelBias.clamp cfg.accelBiasLimit
  return { s with gyroBias := gyroBias, accelBias := accelBias }

/-- The innovation gate: the innovation is more than `innovation_gate` sigmas out. -/
def gateRejects (cfg : EkfConfig F) (innov variance : F) : Bool :=
  Scalar.lt (cfg.innovationGate * cfg.innovationGate) ((innov * innov) / variance)

/-- Fuse a heading innovation. The gyro bias is not corrected by it. -/
def headingUpdate (cfg : EkfConfig F) (s : EkfState F) (innov rNoise : F) :
    Option (EkfState F) :=
  let variance := s.innovationVariance idxYaw rNoise
  if Scalar.lt variance (lit (1 / 1000000000)) then some s
  else if cfg.gateRejects innov variance then some s
  else do
    let k := s.kalmanGain idxYaw variance
    let s := (s.correctMotion k innov).correctAttitude k innov
    let s ← cfg.clampBiases (s.correctAccelBias k innov)
    return { s with pCov := josephScalarCovUpdate s.pCov k idxYaw rNoise }

/-- Fuse a scalar measurement of one state; also whether it was accepted. -/
def scalarUpdate (cfg : EkfConfig F) (s : EkfState F) (stateIdx : Fin stateDim)
    (meas rNoise : F) : Option (EkfState F × Bool) :=
  match s.measured stateIdx with
  | none => some (s, false)
  | some pred =>
    let innov := meas - pred
    let variance := s.innovationVariance stateIdx rNoise
    if Scalar.lt variance (lit (1 / 1000000000)) then some (s, false)
    else if cfg.gateRejects innov variance then some (s, false)
    else do
      let k := s.kalmanGain stateIdx variance
      let s ← cfg.clampBiases
        (((s.correctMotion k innov).correctGyroBias k innov).correctAccelBias k innov)
      let s := s.correctAttitude k innov
      return ({ s with pCov := josephScalarCovUpdate s.pCov k stateIdx rNoise }, true)

/-! ## GNSS -/

/-- Fuse the three components of a vector from state `base` on; also whether all three were
accepted. -/
def fuseAxes (cfg : EkfConfig F) (s : EkfState F) (base : Nat) (meas : Vector F 3) (rNoise : F)
    (h : base + 3 ≤ stateDim) : Option (EkfState F × Bool) := do
  let (s, first) ← cfg.scalarUpdate s ⟨base, by omega⟩ meas[0] rNoise
  let (s, second) ← cfg.scalarUpdate s ⟨base + 1, by omega⟩ meas[1] rNoise
  let (s, third) ← cfg.scalarUpdate s ⟨base + 2, by omega⟩ meas[2] rNoise
  return (s, first && second && third)

end EkfConfig

/-- Which GNSS channels an observation was accepted on, on all three axes: `pos_accepted`
and `vel_accepted` of `update_gnss_state`. -/
structure Acceptance where
  pos : Bool
  vel : Bool
deriving DecidableEq, Repr

def Acceptance.none : Acceptance := ⟨false, false⟩

/-- A GNSS reading that is fused: healthy on both counts, with a fix and finite. -/
def gnssUsable [Scalar F] (reading : SensorReading (GnssData F)) : Bool :=
  reading.health == .good && reading.value.health == .good && reading.value.fix != .none &&
    reading.value.positionNed.toList.all Scalar.isFinite &&
    reading.value.velocityNed.toList.all Scalar.isFinite

namespace EkfConfig

variable [Scalar F] [Libm F]

def updateGnssState (cfg : EkfConfig F) (s : EkfState F) (reading : SensorReading (GnssData F)) :
    Option (EkfState F × Acceptance) :=
  if !s.initialized || !gnssUsable reading then some (s, .none)
  else do
    let gnss := reading.value
    let (s, posAccepted) ←
      cfg.fuseAxes s idxPos gnss.positionNed cfg.measNoiseGnssPos (by decide)
    let s := if posAccepted then { s with gnssPosAgeS := lit 0 } else s
    let (s, velAccepted) ←
      cfg.fuseAxes s idxVel gnss.velocityNed cfg.measNoiseGnssVel (by decide)
    let s := if velAccepted then { s with gnssVelAgeS := lit 0 } else s
    return (s, ⟨posAccepted, velAccepted⟩)

/-! ## Barometer -/

end EkfConfig

/-- `BARO_DATUM_INIT_VAR` and `BARO_DATUM_PROCESS_VAR`. -/
def baroDatumInitVar [Scalar F] : F := lit 4

def baroDatumProcessVar [Scalar F] : F := lit (1 / 10000)

/-- The altitude of a static pressure in the standard atmosphere. -/
def altitudeFromPressure [Scalar F] [LibmPow F] (staticPressure : F) : F :=
  let p0 : F := lit 101325
  lit 44330 * (lit 1 - powf (staticPressure / p0) (lit (1903 / 10000)))

/-- Latch the datum on the first sample; also the datum. -/
def EkfState.latchDatum [Scalar F] (s : EkfState F) (altitude : F) : EkfState F × F :=
  match s.baroRef with
  | some d => (s, d)
  | none =>
    let d := s.pos.z + altitude
    ({ s with baroRef := some d, baroRefVar := baroDatumInitVar }, d)

namespace EkfConfig

variable [Scalar F] [Libm F]

/-- The random-walk update of the barometer's datum. -/
def correctBaroDatum (cfg : EkfConfig F) (s : EkfState F) (altitude datum : F) : EkfState F :=
  let var := s.baroRefVar + baroDatumProcessVar
  let rEff := cfg.measNoiseBaro + Mat.get s.pCov idxHeight idxHeight
  let total := var + rEff
  if Scalar.lt total (lit (1 / 1000000000)) then s
  else
    let k := var / total
    let implied := altitude + s.pos.z
    { s with
      baroRef := some (datum + k * (implied - datum))
      baroRefVar := (lit 1 - k) * var }

/-- Fuse a barometric altitude. -/
def fuseAltitude (cfg : EkfConfig F) (s : EkfState F) (altitude : F) : Option (EkfState F) := do
  let (s, datum) := s.latchDatum altitude
  let (s, accepted) ← cfg.scalarUpdate s idxHeight (datum - altitude) cfg.measNoiseBaro
  let s := if accepted then { s with baroAgeS := lit 0 } else s
  return cfg.correctBaroDatum s altitude datum

def updateBaroState [LibmPow F] (cfg : EkfConfig F) (s : EkfState F)
    (reading : SensorReading (BaroData F)) : Option (EkfState F) :=
  if !s.initialized || reading.health != .good then some s
  else
    match reading.value.air.staticPressure with
    | none => some s
    | some staticPressure =>
      if !Scalar.isFinite (altitudeFromPressure staticPressure) then some s
      else cfg.fuseAltitude s (altitudeFromPressure staticPressure)

/-! ## Magnetometer -/

/-- How much a field of the given vertical share counts for heading. -/
def inclinationWeight (cfg : EkfConfig F) (verticalRatio : F) : F :=
  if Scalar.lt verticalRatio cfg.magInclinationDecayStart then lit 1
  else
    let range := cfg.magInclinationLimit - cfg.magInclinationDecayStart
    if Scalar.lt (lit (1 / 1000000)) range then
      lit 1 - (verticalRatio - cfg.magInclinationDecayStart) / range
    else lit 0

/-- The true heading of a level field, and how far it is from the estimated yaw. -/
def headingInnovation (quat : Quaternion F) (field : Vector F 3) (declination : F) : F :=
  let (roll, pitch, yawEst) := quat.toEuler
  let magNLevel := cosf pitch * field[0] + sinf pitch * sinf roll * field[1] +
    sinf pitch * cosf roll * field[2]
  let magELevel := cosf roll * field[1] - sinf roll * field[2]
  let headingMag := atan2f (-magELevel) magNLevel
  let headingTrue := headingMag + declination
  headingTrue - yawEst

/-- The weight of a usable field: finite, of plausible strength and not too steep. -/
def fieldWeight (cfg : EkfConfig F) (field : Vector F 3) : Option F :=
  if !field.toList.all Scalar.isFinite then none
  else
    let magNorm := sqrtf (field[0] * field[0] + field[1] * field[1] + field[2] * field[2])
    if Scalar.lt magNorm cfg.magFieldMin || Scalar.lt cfg.magFieldMax magNorm then none
    else
      let verticalRatio := Scalar.abs field[2] / magNorm
      if Scalar.le cfg.magInclinationLimit verticalRatio then none
      else
        let inclWeight := cfg.inclinationWeight verticalRatio
        if Scalar.lt inclWeight (lit (1 / 100)) then none else some inclWeight

/-- The innovation and the noise of a magnetometer reading that comes to be fused. -/
def magMeasurement (fuel : Nat) (cfg : EkfConfig F) (s : EkfState F)
    (reading : SensorReading (MagData F)) (declination : F) : Option (Option (F × F)) :=
  if !s.initialized || reading.health != .good then some none
  else
    match cfg.fieldWeight reading.value.fieldUt with
    | none => some none
    | some inclWeight => do
      let innov ← wrapDown fuel (headingInnovation s.quat reading.value.fieldUt declination)
      let innov ← wrapUp fuel innov
      if Scalar.lt (lit (1 / 10)) inclWeight then
        return some (innov, cfg.measNoiseMag / (inclWeight * inclWeight))
      else return none

def updateMagState (fuel : Nat) (cfg : EkfConfig F) (s : EkfState F)
    (reading : SensorReading (MagData F)) (declination : F) : Option (EkfState F) := do
  match ← cfg.magMeasurement fuel s reading declination with
  | none => return s
  | some (innov, rNoise) => cfg.headingUpdate s innov rNoise

/-! ## One cycle -/

/-- The health an override stands for. -/
def forcedHealth : GnssHealth → SensorHealth
  | .good => .good
  | .suspect => .degraded
  | .lost => .failed

/-- The GNSS stage of a cycle. With overrides only a forced health state is looked at. -/
def observeGnss (cfg : EkfConfig F) (s : EkfState F) (reading : SensorReading (GnssData F))
    (overrides : Option SensorOverrides) : Option (EkfState F × Acceptance) :=
  match overrides with
  | some o =>
    match o.gnssForceState with
    | some health => cfg.updateGnssState s { reading with health := forcedHealth health }
    | none => some (s, .none)
  | none =>
    if reading.valid && reading.health == .good then cfg.updateGnssState s reading
    else some (s, .none)

def observeBaro [LibmPow F] (cfg : EkfConfig F) (s : EkfState F)
    (reading : SensorReading (BaroData F)) : Option (EkfState F) :=
  if reading.valid && reading.health == .good then cfg.updateBaroState s reading else some s

def observeMag (fuel : Nat) (cfg : EkfConfig F) (s : EkfState F)
    (reading : SensorReading (MagData F)) (geomagnetic : Option (GeomagneticReference F)) :
    Option (EkfState F) :=
  if reading.valid && reading.health == .good then
    cfg.updateMagState fuel s reading (geomagnetic.elim (lit 0) (·.declination))
  else some s

/-- A time step the filter acts on. -/
def validDt (dt : F) : Bool := Scalar.isFinite dt && !Scalar.le dt (lit 0)

/-- One cycle of the filter; also what GNSS was accepted on. -/
def observe [LibmPow F] (fuel : Nat) (cfg : EkfConfig F) (s : EkfState F)
    (sensors : SensorSet F) (overrides : Option SensorOverrides) (dt : F) :
    Option (EkfState F × Acceptance) :=
  if !validDt dt then some (s, .none)
  else
    let s := s.tickAidingAge dt
    let primaryImu := sensors.imus[0]
    let useImu := primaryImu.valid && primaryImu.health == .good
    -- A sample that is not finite freezes the rest of the cycle.
    if useImu && !imuIsFinite primaryImu.value then some (s, .none)
    else do
      let s := if useImu then cfg.predictState s primaryImu.value dt else s
      let (s, acceptance) ← cfg.observeGnss s sensors.gnss[0] overrides
      let s ← cfg.observeBaro s sensors.baros[0]
      let s ← cfg.observeMag fuel s sensors.mags[0] sensors.geomagnetic
      return (s, acceptance)

end EkfConfig

/-! ## The reported estimate -/

/-- `GNSS_POS_AIDING_TIMEOUT_S`, `GNSS_VEL_AIDING_TIMEOUT_S` and `BARO_AIDING_TIMEOUT_S`. -/
def gnssPosAidingTimeoutS [Scalar F] : F := lit 5

def gnssVelAidingTimeoutS [Scalar F] : F := lit 5

def baroAidingTimeoutS [Scalar F] : F := lit 5

/-- `POSITION_COV_BOUND_M2` and `VELOCITY_COV_BOUND_M2S2`. -/
def positionCovBoundM2 [Scalar F] : F := lit 50

def velocityCovBoundM2S2 [Scalar F] : F := lit 25

/-- Every component is finite. -/
def Vector3.isFinite [Scalar F] (v : Vector3 F) : Bool :=
  Scalar.isFinite v.x && Scalar.isFinite v.y && Scalar.isFinite v.z

def Vector3.toVector (v : Vector3 F) : Vector F 3 := #v[v.x, v.y, v.z]

namespace EkfState

variable [Scalar F]

def attitudeValid (s : EkfState F) : Bool := s.initialized && !s.quatFault

def positionValid (s : EkfState F) : Bool :=
  s.attitudeValid && s.pos.isFinite && Scalar.le s.gnssPosAgeS gnssPosAidingTimeoutS &&
    Scalar.lt (s.maxBlockVariance idxPos (by decide)) positionCovBoundM2

def velocityValid (s : EkfState F) : Bool :=
  s.attitudeValid && s.vel.isFinite && Scalar.le s.gnssVelAgeS gnssVelAidingTimeoutS &&
    Scalar.lt (s.maxBlockVariance idxVel (by decide)) velocityCovBoundM2S2

def validFlags (s : EkfState F) : StateValidFlags :=
  let flags : StateValidFlags := .empty
  let flags :=
    if s.attitudeValid then
      flags.insert (StateValidFlags.attitude.union StateValidFlags.angularRate)
    else flags
  let flags := if s.positionValid then flags.insert StateValidFlags.position else flags
  if s.velocityValid then flags.insert StateValidFlags.velocity else flags

def quality (s : EkfState F) : EstimateQuality :=
  if !s.attitudeValid || !s.pos.isFinite || !s.vel.isFinite then .unusable
  else if s.positionValid && s.velocityValid && Scalar.le s.baroAgeS baroAidingTimeoutS then
    .good
  else .degraded

def getEstimate (s : EkfState F) : StateEstimate F where
  attitude := s.quat
  angularVelocity := s.lastGyroBody.toVector
  positionNed := s.pos.toVector
  velocityNed := s.vel.toVector
  quality := s.quality
  validFlags := s.validFlags

end EkfState

end Aviate

end EstimatorFilter

section ControlRate

/-!
# The rate loop and its anti-windup

The innermost loop of the cascade (`control/rate.rs`): proportional and integral terms on the rate
error, a filtered derivative of the measurement, and a clamp to full authority. The integral
advances while the axis is unsaturated or while the increment opposes it.

Results:
1. The output of every cycle is in `[-1, 1]`, and the integral stays in `[-0.8, 0.8]` over every
   history (`abs_out_le`, `integral_bounded`).
2. On a saturated axis the magnitude of the integral grows exactly when an opposing increment
   carries it through zero and past its mirror image (`noGrowth_iff`).
3. `antiWindup_iff`: so a history keeps the anti-windup law exactly when no cycle of it does so.
   `windup_through_zero` is a history that breaks the law.
-/

namespace Aviate

variable {F : Type}

/-! ## The loop -/

namespace Vector3

def axisGet (v : Vector3 F) : Fin 3 → F
  | 0 => v.x
  | 1 => v.y
  | 2 => v.z

def ofAxes (f : Fin 3 → F) : Vector3 F := ⟨f 0, f 1, f 2⟩

end Vector3

structure RateController (F : Type) where
  gains : CascadeGains F

/-- What one cycle is given. -/
structure RateInput (F : Type) where
  setpoint : Vector F 3
  current : Vector F 3
  dtSec : F

namespace RateController

section Loop

variable [Scalar F]

/-- Bound on the accumulated integral torque. -/
def rateILimit : F := lit (4 / 5)

variable (c : RateController F) (s : RateLoopState F) (x : RateInput F)

/-- The filtered measurement of this cycle. -/
def measFiltered : Vector3 F :=
  let alpha := c.gains.rateDLpfAlpha
  .ofAxes fun i => alpha * s.measFilteredPrev.axisGet i + (lit 1 - alpha) * x.current[i]

def pError (i : Fin 3) : F := x.setpoint[i] - x.current[i]

def pTerm (i : Fin 3) : F := pError x i * c.gains.rateP[i]

/-- The derivative is of the measurement. The first cycle has no sample to differentiate against. -/
def dTerm (i : Fin 3) : F :=
  if s.primed && Scalar.lt (lit 0) x.dtSec && Scalar.lt (lit 0) c.gains.rateD[i] then
    -(((c.measFiltered s x).axisGet i - s.measFilteredPrev.axisGet i) / x.dtSec) *
      c.gains.rateD[i]
  else lit 0

/-- The command of an axis before its integral advances. -/
def unsat (i : Fin 3) : F := c.pTerm x i + c.dTerm s x i + s.integral[i]

def increment (i : Fin 3) : F := pError x i * c.gains.rateI[i] * x.dtSec

/-- The increment opposes the integral. -/
def shrinks (i : Fin 3) : Bool := Scalar.lt (c.increment x i * s.integral[i]) (lit 0)

/-- The integral of an axis after the cycle, and what was done to it. -/
def advance (i : Fin 3) : F × IntegratorAction :=
  let enabled := Scalar.lt (lit 0) c.gains.rateI[i] && Scalar.lt (lit 0) x.dtSec
  if enabled && (Scalar.lt (Scalar.abs (c.unsat s x i)) (lit 1) || c.shrinks s x i) then
    (Scalar.clamp (s.integral[i] + c.increment x i) (-rateILimit) rateILimit, .integrated)
  else if enabled then (s.integral[i], .frozenSaturation)
  else (s.integral[i], .frozenInactive)

def commandUnclamped (i : Fin 3) : F :=
  c.pTerm x i + c.dTerm s x i + (c.advance s x i).1

/-- One cycle: the torque of each axis, with the terms it was made of. -/
def stepWithObservation : RateLoopState F × Vector F 3 × ControllerLoopObservation F :=
  let integral := .ofFn fun i => (c.advance s x i).1
  let out := .ofFn fun i => Scalar.clamp (c.commandUnclamped s x i) (-lit 1) (lit 1)
  (⟨c.measFiltered s x, integral, true⟩, out,
    { p := .ofFn (c.pTerm x)
      i := integral
      d := .ofFn (c.dTerm s x)
      feedforward := .replicate 3 (lit 0)
      integratorBefore := s.integral
      integratorAfter := integral
      integratorAction := .ofFn fun i => (c.advance s x i).2
      saturated := .ofFn fun i => Scalar.lt (lit 1) (Scalar.abs (c.commandUnclamped s x i)) })

/-- The loop, cycle after cycle. -/
def loop : Machine (RateLoopState F) (RateInput F) (Vector F 3 × ControllerLoopObservation F) where
  step := c.stepWithObservation

end Loop

/-! ## Bounds -/

section Exact

variable {K : Type} [Field K] [LinearOrder K]
variable {c : RateController K} {s : RateLoopState K} {x : RateInput K} {xs : List (RateInput K)}
variable {i : Fin 3}

theorem post_integral : (c.loop.event s x).post.integral[i] = (c.advance s x i).1 := by
  simp [Machine.event, loop, stepWithObservation]

variable [IsStrictOrderedRing K]

@[simp] theorem rateILimit_field : (rateILimit : K) = 4 / 5 := by
  simp [rateILimit]

theorem abs_out_le : |(c.loop.event s x).out.1[i]| ≤ 1 := by
  have hout : (c.loop.event s x).out.1[i] =
      Scalar.clamp (c.commandUnclamped s x i) (-lit 1) (lit 1) := by
    simp [Machine.event, loop, stepWithObservation]
  rw [hout, lit_field, Rat.cast_one]
  exact abs_clamp_le zero_le_one

/-- What an advance does to the magnitude of the integral: it is kept, or set to that of the sum,
cut at the limit. -/
theorem abs_advance :
    |(c.advance s x i).1| = |s.integral[i]| ∨
      |(c.advance s x i).1| = min |s.integral[i] + c.increment x i| (4 / 5) := by
  unfold advance
  dsimp only
  split
  · right
    rw [rateILimit_field]
    exact abs_clamp (by norm_num)
  · split <;> exact .inl rfl

/-- Every component of the integral is within the limit. -/
def IntegralBounded (s : RateLoopState K) : Prop := ∀ i : Fin 3, |s.integral[i]| ≤ 4 / 5

theorem integral_bounded_step (hs : IntegralBounded s) :
    IntegralBounded (c.loop.step s x).1 := by
  intro i
  have hpost : (c.loop.step s x).1.integral[i] = (c.advance s x i).1 := post_integral
  rw [hpost]
  rcases abs_advance (c := c) (s := s) (x := x) (i := i) with h | h
  · rw [h]
    exact hs i
  · rw [h]
    exact min_le_right _ _

theorem integral_bounded (hs : IntegralBounded s) :
    ∀ e ∈ c.loop.trace s xs, IntegralBounded e.post := by
  intro e he
  obtain ⟨xs₁, x, xs₂, -, rfl⟩ := Machine.mem_trace.mp he
  have hpre : IntegralBounded (c.loop.run s xs₁) :=
    Machine.run_invariant (fun _ _ h => integral_bounded_step h) hs
  exact integral_bounded_step hpre

/-! ## Growth under saturation -/

/-- On a saturated axis an increment that opposes the integral carries it through zero and past
its mirror image. -/
def CarriesPastMirror (c : RateController K) (s : RateLoopState K) (x : RateInput K)
    (i : Fin 3) : Prop :=
  1 ≤ |c.unsat s x i| ∧ 0 < c.gains.rateI[i] ∧ c.increment x i * s.integral[i] < 0 ∧
    2 * |s.integral[i]| < |c.increment x i| ∧ |s.integral[i]| < 4 / 5

/-- A sum with an opposing summand is larger than the first one exactly when the summand is more
than twice as large. -/
theorem abs_lt_abs_add_iff {a b : K} (h : b * a < 0) : |a| < |a + b| ↔ 2 * |a| < |b| := by
  rcases mul_neg_iff.mp h with ⟨hb, ha⟩ | ⟨hb, ha⟩
  · rw [abs_of_neg ha, abs_of_pos hb, lt_abs]
    constructor
    · rintro (h | h) <;> linarith
    · intro h
      left
      linarith
  · rw [abs_of_pos ha, abs_of_neg hb, lt_abs]
    constructor
    · rintro (h | h) <;> linarith
    · intro h
      right
      linarith

/-- A saturated axis advances only by opposing increments. -/
theorem advance_saturated (hdt : 0 < x.dtSec) (hsat : 1 ≤ |c.unsat s x i|) :
    (c.advance s x i).1 =
      if 0 < c.gains.rateI[i] ∧ c.increment x i * s.integral[i] < 0 then
        Scalar.clamp (s.integral[i] + c.increment x i) (-(4 / 5)) (4 / 5)
      else s.integral[i] := by
  have hzero : ((0 : ℚ) : K) = 0 := Rat.cast_zero
  have hone : ((1 : ℚ) : K) = 1 := Rat.cast_one
  simp only [advance, shrinks, lt_field, lit_field, abs_field, hzero, hone, rateILimit_field,
    decide_eq_true hdt, Bool.and_true, decide_eq_false (not_lt.mpr hsat), Bool.false_or,
    Bool.and_eq_true, decide_eq_true_eq]
  split
  · rfl
  · split <;> rfl

theorem noGrowth_iff (hdt : 0 < x.dtSec) :
    (1 ≤ |c.unsat s x i| → |(c.advance s x i).1| ≤ |s.integral[i]|) ↔
      ¬ CarriesPastMirror c s x i := by
  rw [← not_iff_not, not_not, Classical.not_imp, not_le]
  refine and_congr_right fun hsat => ?_
  rw [advance_saturated hdt hsat]
  split
  · next h =>
    obtain ⟨hgain, hopposes⟩ := h
    rw [abs_clamp (by norm_num), lt_min_iff, abs_lt_abs_add_iff hopposes]
    exact ⟨fun h => ⟨hgain, hopposes, h⟩, fun h => h.2.2⟩
  · next h => exact iff_of_false (lt_irrefl _) fun h' => h ⟨h'.1, h'.2.1⟩

/-! ## The law over histories -/

/-- One cycle keeps the anti-windup law: output and integral are in range, and where the axis was
saturated before the advance its integral has not grown. -/
def AntiWindup (c : RateController K)
    (e : Machine.Event (RateLoopState K) (RateInput K)
      (Vector K 3 × ControllerLoopObservation K)) : Prop :=
  (∀ i : Fin 3, |e.out.1[i]| ≤ 1) ∧ (∀ i : Fin 3, |e.post.integral[i]| ≤ 4 / 5) ∧
    ∀ i : Fin 3, 1 ≤ |c.pTerm e.op i + c.dTerm e.pre e.op i + e.pre.integral[i]| →
      |e.post.integral[i]| ≤ |e.pre.integral[i]|

/-- Two cycles of 0.1 s with unit proportional gain and integral gain 10 on every axis. The roll
error 0.1 leaves the integral 0.1; the error -5 then saturates the axis, opposes the integral and
carries it to -0.8. -/
def windupController : RateController ℚ where
  gains := { (CascadeGains.x500Defaults : CascadeGains ℚ) with
    rateP := #v[1, 1, 1]
    rateI := #v[10, 10, 10] }

def windupHistory : List (RateInput ℚ) :=
  [⟨#v[1 / 10, 0, 0], #v[0, 0, 0], 1 / 10⟩, ⟨#v[-5, 0, 0], #v[0, 0, 0], 1 / 10⟩]

theorem windup_through_zero :
    ¬ ∀ e ∈ windupController.loop.trace .default windupHistory,
      AntiWindup windupController e := by
  intro h
  have hlaw := (h (windupController.loop.event (windupController.loop.run .default
    [⟨#v[1 / 10, 0, 0], #v[0, 0, 0], 1 / 10⟩]) ⟨#v[-5, 0, 0], #v[0, 0, 0], 1 / 10⟩)
    (.tail _ (.head _))).2.2 0
  exact absurd hlaw (by decide +kernel)

/-- A history from a zero integral keeps the law in every cycle exactly when no cycle carries the
integral of a saturated axis past its mirror image. -/
theorem antiWindup_iff (hzero : s.integral = .replicate 3 0) (hdt : ∀ x ∈ xs, 0 < x.dtSec) :
    (∀ e ∈ c.loop.trace s xs, AntiWindup c e) ↔
      ∀ e ∈ c.loop.trace s xs, ∀ i, ¬ CarriesPastMirror c e.pre e.op i := by
  have hstart : IntegralBounded s := by
    intro i
    simp only [hzero, Fin.getElem_fin, Vector.getElem_replicate, abs_zero]
    norm_num
  refine forall₂_congr fun e he => ?_
  have hbounded : IntegralBounded e.post := integral_bounded hstart e he
  obtain ⟨xs₁, x, xs₂, rfl, rfl⟩ := Machine.mem_trace.mp he
  have hpos : 0 < x.dtSec := hdt x (by simp)
  constructor
  · rintro ⟨-, -, hgrowth⟩ i
    refine (noGrowth_iff hpos).mp fun hsat => ?_
    rw [← post_integral]
    exact hgrowth i hsat
  · intro h
    refine ⟨fun i => abs_out_le, hbounded, fun i hsat => ?_⟩
    rw [post_integral]
    exact (noGrowth_iff hpos).mpr (h i) hsat

theorem antiWindup_iff_windup :
    (∀ e ∈ windupController.loop.trace .default windupHistory, AntiWindup windupController e) ↔
      ∀ e ∈ windupController.loop.trace .default windupHistory, ∀ i,
        ¬ CarriesPastMirror windupController e.pre e.op i :=
  antiWindup_iff rfl (by decide +kernel)

end Exact

end RateController

end Aviate

end ControlRate

section ControlVelocity

/-!
# The velocity loop

The middle layer of the cascade (`control/velocity.rs`): a velocity error becomes a collective and
an attitude. Four limiters act on the way. The vertical correction is clamped to the authority left
by the hover trim, and the collective to `[0, 1]` after tilt compensation; each horizontal
acceleration is clamped to 1 g, and roll and pitch to the tilt cap.

The integrators advance before the heading error is wrapped. The two wrap loops are the only part
of a cycle that may not end, so `step` returns the next state together with an optional command.
-/

namespace Aviate

variable {F : Type}

structure VelocityCommand (F : Type) where
  collective : F
  attitude : Quaternion F

structure VelocityController (F : Type) where
  gains : CascadeGains F
  hoverThrustNorm : F

/-- What one cycle is given. -/
structure VelocityInput (F : Type) where
  setpoint : Vector3 F
  current : Vector3 F
  accelFf : Vector3 F
  currentAtt : Quaternion F
  headingSp : Option F
  dtSec : F

namespace VelocityController

variable [Scalar F]
variable (c : VelocityController F) (s : VelocityLoopState F) (x : VelocityInput F)

def error (i : Fin 3) : F := x.setpoint.axisGet i - x.current.axisGet i

/-! ## The vertical axis -/

def maxUp : F := lit 1 - c.hoverThrustNorm

def maxDn : F := c.hoverThrustNorm

def filtZ : F :=
  let alpha := c.gains.rateDLpfAlpha
  alpha * s.lastVelFiltNed.z + (lit 1 - alpha) * x.current.z

def dZ : F :=
  if s.dPrimed && Scalar.lt (lit 0) x.dtSec && Scalar.lt (lit 0) c.gains.velD[2] then
    (c.filtZ s x - s.lastVelFiltNed.z) / x.dtSec * c.gains.velD[2]
  else lit 0

def pZ : F := -error x 2 * c.gains.velP[2]

def iZ : F := -s.integratorNed.z * c.gains.velI[2]

def ffZ : F :=
  -x.accelFf.z * (c.hoverThrustNorm / standardGravityMps2) * c.gains.velAccelFf

/-- The correction around the trim before its clamp. -/
def zDemand : F := c.pZ x + c.iZ s + c.dZ s x + c.ffZ x

def zCorrection : F := Scalar.clamp (c.zDemand s x) (-c.maxDn) c.maxUp

def zSaturated : Bool :=
  Scalar.eq (c.zCorrection s x) (-c.maxDn) || Scalar.eq (c.zCorrection s x) c.maxUp

def cosTilt : F :=
  let r22 := lit 1 - lit 2 * (x.currentAtt.x * x.currentAtt.x + x.currentAtt.y * x.currentAtt.y)
  Scalar.max r22 tiltCompCosFloor

/-- The collective after tilt compensation, before its clamp. -/
def collectiveCmd : F := (c.hoverThrustNorm + c.zCorrection s x) / cosTilt x

/-! ## The horizontal axes -/

def pTerm (i : Fin 3) : F := error x i * c.gains.velP[i]

def iTerm (i : Fin 3) : F := s.integratorNed.axisGet i * c.gains.velI[i]

def ffTerm (i : Fin 3) : F := x.accelFf.axisGet i * c.gains.velAccelFf

/-- The NED acceleration command of axis 0 or 1. -/
def accCmd (i : Fin 3) : F := c.pTerm x i + c.iTerm s i + c.ffTerm x i

def accClamped (i : Fin 3) : F :=
  Scalar.clamp (c.accCmd s x i) (-maxHorizontalAccelCmdMps2) maxHorizontalAccelCmdMps2

section Libm

variable [Libm F]

def curYaw : F :=
  let q := x.currentAtt
  atan2f (lit 2 * (q.w * q.z + q.x * q.y)) (lit 1 - lit 2 * (q.y * q.y + q.z * q.z))

/-- The acceleration command in the heading frame. -/
def accFwd : F :=
  cosf (curYaw x) * c.accClamped s x 0 + sinf (curYaw x) * c.accClamped s x 1

def accRight : F :=
  -sinf (curYaw x) * c.accClamped s x 0 + cosf (curYaw x) * c.accClamped s x 1

def pitchSpRaw : F := -atan2f (c.accFwd s x) standardGravityMps2

def rollSpRaw : F := atan2f (c.accRight s x) standardGravityMps2

/-- The tilt cap. -/
def capTilt (tilt : F) : F :=
  Scalar.clamp tilt (-c.gains.velMaxRollPitch) c.gains.velMaxRollPitch

def pitchSp : F := c.capTilt (c.pitchSpRaw s x)

def rollSp : F := c.capTilt (c.rollSpRaw s x)

def xSaturated : Bool := !Scalar.eq (c.pitchSp s x) (c.pitchSpRaw s x)

def ySaturated : Bool := !Scalar.eq (c.rollSp s x) (c.rollSpRaw s x)

/-! ## One cycle -/

/-- The integrators after the cycle, and what was done to each. The tilt axes mix the two
horizontal NED axes, so either cap freezes both. -/
def integrate : Vector3 F × Vector IntegratorAction 3 :=
  if Scalar.lt (lit 0) x.dtSec then
    let tilted := c.xSaturated s x || c.ySaturated s x
    let frozen : Fin 3 → Bool
      | 0 => tilted
      | 1 => tilted
      | 2 => c.zSaturated s x
    (.ofAxes fun i =>
        if frozen i then s.integratorNed.axisGet i
        else s.integratorNed.axisGet i + error x i * x.dtSec,
      .ofFn fun i => if frozen i then .frozenSaturation else .integrated)
  else (s.integratorNed, .replicate 3 .frozenInactive)

def nextState : VelocityLoopState F where
  integratorNed := (c.integrate s x).1
  lastVelFiltNed := ⟨s.lastVelFiltNed.x, s.lastVelFiltNed.y, c.filtZ s x⟩
  dPrimed := true

/-- The yaw of the attitude setpoint: the current one, or a limited step towards the commanded
heading. `none` when a wrap loop has not ended within `fuel` rounds. -/
def yawQuat (fuel : Nat) : Option (Quaternion F) :=
  match x.headingSp with
  | some heading => do
    let err ← wrapDown fuel (heading - curYaw x)
    let err ← wrapUp fuel err
    let applied :=
      curYaw x + Scalar.clamp err (-c.gains.velMaxYawStep) c.gains.velMaxYawStep
    return .fromAxisAngle ⟨lit 0, lit 0, lit 1⟩ applied
  | none => some (Quaternion.mk x.currentAtt.w (lit 0) (lit 0) x.currentAtt.z).normalize

def command (yaw : Quaternion F) : VelocityCommand F where
  collective := Scalar.clamp (c.collectiveCmd s x) (lit 0) (lit 1)
  attitude :=
    let rollPitchQuat := (Quaternion.fromAxisAngle ⟨lit 1, lit 0, lit 0⟩ (c.rollSp s x)).mul
      (.fromAxisAngle ⟨lit 0, lit 1, lit 0⟩ (c.pitchSp s x))
    (yaw.mul rollPitchQuat).normalize

def observation : ControllerLoopObservation F where
  p := #v[c.pTerm x 0, c.pTerm x 1, c.pZ x]
  i := #v[c.iTerm s 0, c.iTerm s 1, c.iZ s]
  d := #v[lit 0, lit 0, c.dZ s x]
  feedforward := #v[c.ffTerm x 0, c.ffTerm x 1, c.ffZ x]
  integratorBefore := .ofFn s.integratorNed.axisGet
  integratorAfter := .ofFn (c.integrate s x).1.axisGet
  integratorAction := (c.integrate s x).2
  saturated :=
    let horizontalSaturated := c.xSaturated s x || c.ySaturated s x
    #v[horizontalSaturated, horizontalSaturated, c.zSaturated s x]

/-- `step_with_observation`. -/
def stepWithObservation (fuel : Nat) :
    VelocityLoopState F × Option (VelocityCommand F × ControllerLoopObservation F) :=
  (c.nextState s x, (c.yawQuat x fuel).map fun yaw => (c.command s x yaw, c.observation s x))

/-- The loop, cycle after cycle. -/
def loop (fuel : Nat) : Machine (VelocityLoopState F) (VelocityInput F)
    (Option (VelocityCommand F × ControllerLoopObservation F)) where
  step s x := c.stepWithObservation s x fuel

end Libm

end VelocityController

end Aviate

end ControlVelocity

section ControlMultirotor

/-!
# The multirotor controller

One cycle of the cascade (`control/multirotor.rs`, `control/multirotor/step.rs`): the flags and the
setpoint select a topology, the outer loops prepare an attitude and a collective, the automatic
fallback may replace both, and the inner loops turn the attitude into torques.

The heading wrap of the velocity loop may not end within `fuel` rounds. Then the cycle emits
nothing, and the state is the one in which it stopped.
-/

namespace Aviate

variable {F : Type}

/-! ## Topology -/

/-- Production support for one multirotor control mode. -/
inductive MultirotorModeCapability where
  | external
  | internal
  | unsupported
deriving DecidableEq, Repr

def multirotorModeCapability : ControlMode → MultirotorModeCapability
  | .attitude => .external
  | .positionHold => .external
  | .velocityControl => .external
  | .altitudeHold => .internal
  | .rate => .unsupported
  | .deviationTracking => .unsupported

/-- The outer loop that runs this cycle, with its setpoint. -/
inductive OuterLoopSelection (F : Type) where
  | position (setpoint : Vector F 3)
  | velocity (setpoint : Vector F 3)
  | none

namespace VehicleControlMode

/-- A setpoint counts only when its loop is authorised. -/
def outerLoop (flags : VehicleControlMode) (setpoint : Setpoint F) : OuterLoopSelection F :=
  match flags.flagControlPositionEnabled, setpoint.position with
  | true, some position => .position position
  | _, _ =>
    match flags.flagControlVelocityEnabled, setpoint.velocity with
    | true, some velocity => .velocity velocity
    | _, _ => .none

def effectiveTopology (flags : VehicleControlMode) (mode : ControlMode) (setpoint : Setpoint F) :
    EffectiveControlTopology :=
  if multirotorModeCapability mode = .unsupported then .unsupported
  else
    match flags.outerLoop setpoint with
    | .position _ => .position
    | .velocity _ => .velocity
    | .none =>
      if flags.flagControlAltitudeEnabled &&
          (setpoint.altitude.isSome || setpoint.verticalSpeed.isSome) then .vertical
      else .attitude

end VehicleControlMode

/-! ## The attitude loop -/

structure AttitudeController (F : Type) where
  gains : Vector F 3
  maxRateCmd : F

/-- Body rates towards the setpoint, along the shorter of the two rotations. -/
def AttitudeController.step [Scalar F] [Libm F] (c : AttitudeController F)
    (setpoint current : Quaternion F) : Vector F 3 :=
  let inverse : Quaternion F := ⟨current.w, -current.x, -current.y, -current.z⟩
  let err := (inverse.mul setpoint).normalize
  let axis : Vector3 F :=
    if Scalar.lt err.w (lit 0) then ⟨-err.x, -err.y, -err.z⟩ else ⟨err.x, err.y, err.z⟩
  .ofFn fun i => Scalar.clamp (lit 2 * axis.axisGet i * c.gains[i]) (-c.maxRateCmd) c.maxRateCmd

/-! ## The controller -/

structure MultirotorController (F : Type) where
  posCtrl : PositionController F
  velCtrl : VelocityController F
  rateCtrl : RateController F
  attCtrl : AttitudeController F

/-- What one cycle of the controller is given. -/
structure ControllerInput (F : Type) where
  state : StateEstimate F
  command : Command F
  flags : VehicleControlMode
  limits : Limits F

/-- What the outer loops have prepared for the inner ones. -/
structure PreparedCascade (F : Type) where
  topology : EffectiveControlTopology
  setpoints : EffectiveSetpointObservation F
  velocityLoop : ControllerLoopObservation F

variable [Scalar F]

/-- Below this collective the vehicle counts as on the ground. -/
def disarmedCollectiveThreshold : F := lit (1 / 50)

/-- A vector of three lanes by its axes. -/
def ofLanes (v : Vector F 3) : Vector3 F := .ofAxes fun i => v[i]

def inactiveObservation (integrators : Vector F 3) : ControllerLoopObservation F where
  p := .replicate 3 (lit 0)
  i := .replicate 3 (lit 0)
  d := .replicate 3 (lit 0)
  feedforward := .replicate 3 (lit 0)
  integratorBefore := integrators
  integratorAfter := integrators
  integratorAction := .replicate 3 .frozenInactive
  saturated := .replicate 3 false

def resetObservation (before : Vector F 3) : ControllerLoopObservation F :=
  { inactiveObservation before with
    integratorAfter := .replicate 3 (lit 0)
    integratorAction := .replicate 3 .reset }

def EffectiveSetpointObservation.default : EffectiveSetpointObservation F where
  positionNed := none
  velocityNed := none
  accelerationNed := .replicate 3 (lit 0)
  attitude := .identity
  angularRate := .replicate 3 (lit 0)
  collective := lit 0

namespace MultirotorRuntimeState

variable (r : MultirotorRuntimeState F)

def velocityIntegrators : Vector F 3 := .ofFn r.velocityLoop.integratorNed.axisGet

def inactiveVelocityObservation : ControllerLoopObservation F :=
  inactiveObservation r.velocityIntegrators

/-- The difference quotient of the velocity setpoint. -/
def accelerationFeedforward (velocity : Vector3 F) : Vector3 F :=
  if !r.velSpPrimed || Scalar.le r.dtSec (lit 0) then .zero
  else
    ⟨(velocity.x - r.lastVelSpNed.x) / r.dtSec, (velocity.y - r.lastVelSpNed.y) / r.dtSec,
      (velocity.z - r.lastVelSpNed.z) / r.dtSec⟩

/-- At a change of topology the derivatives start from the measurement. -/
def alignTopologyState (state : StateEstimate F) (topology : EffectiveControlTopology) :
    MultirotorRuntimeState F :=
  if r.previousTopology = some topology then r
  else
    { r with
      rateLoop :=
        if r.previousTopology = some .unsupported then
          { r.rateLoop with
            measFilteredPrev := ofLanes state.angularVelocity
            primed := false }
        else r.rateLoop
      velSpPrimed := false
      velocityLoop :=
        if topology = .position ∨ topology = .velocity ∨ topology = .vertical then
          { r.velocityLoop with
            lastVelFiltNed := ofLanes state.velocityNed
            dPrimed := false }
        else r.velocityLoop }

/-- Remember the emitted command. -/
def record (command : Command F) (topology : EffectiveControlTopology)
    (axisCommand : AxisCommand F) : MultirotorRuntimeState F :=
  { r with
    previousEffectiveMode := some command.mode
    previousTopology := some topology
    lastAxisCommand := axisCommand
    axisCommandPrimed := true }

end MultirotorRuntimeState

namespace MultirotorController

def fromGains (gains : CascadeGains F) (hoverThrustNorm : F) : MultirotorController F where
  posCtrl := ⟨gains.posP, gains.posAccelLimits, gains.posVelCaps⟩
  velCtrl := ⟨gains, hoverThrustNorm⟩
  rateCtrl := ⟨gains⟩
  attCtrl := ⟨gains.attP, gains.attMaxRateCmd⟩

variable (c : MultirotorController F)

def hoverThrustNorm : F := c.velCtrl.hoverThrustNorm

def rejectUnsupported (r : MultirotorRuntimeState F) (command : Command F) :
    MultirotorRuntimeState F × ControllerStep F :=
  (r.record command .unsupported .default,
    { axisCommand := .default
      observation := ⟨some
        { previousMode := r.previousEffectiveMode
          currentMode := command.mode
          previousTopology := r.previousTopology
          currentTopology := .unsupported
          setpoints := .default
          velocityLoop := r.inactiveVelocityObservation
          rateLoop := inactiveObservation r.rateLoop.integral
          axisCommand := .default }⟩ })

/-- `previous` is the state before the cycle. -/
def recordStep (r previous : MultirotorRuntimeState F) (command : Command F)
    (prepared : PreparedCascade F) (rateLoop : ControllerLoopObservation F)
    (axisCommand : AxisCommand F) : MultirotorRuntimeState F × ControllerStep F :=
  (r.record command prepared.topology axisCommand,
    { axisCommand
      observation := ⟨some
        { previousMode := previous.previousEffectiveMode
          currentMode := command.mode
          previousTopology := previous.previousTopology
          currentTopology := prepared.topology
          setpoints := prepared.setpoints
          velocityLoop := prepared.velocityLoop
          rateLoop
          axisCommand }⟩ })

/-- The loops lose their memory and the torques are silenced. -/
def resetForZeroThrust (r previous : MultirotorRuntimeState F) (command : Command F)
    (prepared : PreparedCascade F) : MultirotorRuntimeState F × ControllerStep F :=
  let reset :=
    { r with
      velocityLoop := r.velocityLoop.reset
      rateLoop := r.rateLoop.reset
      velSpPrimed := false }
  let zeroed :=
    { prepared with
      topology := .zeroThrust
      velocityLoop :=
        { prepared.velocityLoop with
          integratorAfter := .replicate 3 (lit 0)
          integratorAction := .replicate 3 .reset } }
  recordStep reset previous command zeroed (resetObservation r.rateLoop.integral)
    { AxisCommand.default with collective := prepared.setpoints.collective }

/-- The automatic fallback out of an outer loop holds the attitude and the last collective. -/
def FallenFromOuterLoop (flags : VehicleControlMode) : Bool :=
  match flags.automaticFallbackFrom with
  | some .altitudeHold => true
  | some .positionHold => true
  | some .velocityControl => true
  | some .deviationTracking => true
  | _ => false

def applyAutomaticFallback (r : MultirotorRuntimeState F) (state : StateEstimate F)
    (flags : VehicleControlMode) (prepared : PreparedCascade F) : PreparedCascade F :=
  if prepared.topology ≠ .attitude ∨ FallenFromOuterLoop flags = false then prepared
  else
    { prepared with
      setpoints :=
        { prepared.setpoints with
          attitude := state.attitude
          collective :=
            if r.axisCommandPrimed then r.lastAxisCommand.collective else c.hoverThrustNorm } }

section Cascade

variable [Libm F]

/-- Climb rates are commanded, altitudes are held through the position profile. -/
def verticalVelocitySetpoint (setpoint : Setpoint F) (state : StateEstimate F)
    (limits : Limits F) : Option F := do
  let vertical ← match setpoint.verticalSpeed with
    | some vspeed => some vspeed
    | none => do
      let altitude ← setpoint.altitude
      some (sqrtShape (-altitude - state.positionNed[2]) c.posCtrl.gains[2]
        c.posCtrl.accelLimits[2] c.posCtrl.velCaps[2])
  return Scalar.clamp vertical (-limits.maxClimbRate) limits.maxDescentRate

/-- Replace the yaw of an attitude. -/
def attitudeWithHeading (attSp : Quaternion F) (heading : F) : Quaternion F :=
  let (roll, pitch, _) := attSp.toEuler
  (Quaternion.ofEuler roll pitch heading).normalize

def runVelocityLoop (fuel : Nat) (r : MultirotorRuntimeState F) (state : StateEstimate F)
    (command : Command F) (velocity : Vector3 F) (prepared : PreparedCascade F) :
    MultirotorRuntimeState F × Option (PreparedCascade F) :=
  let acceleration := r.accelerationFeedforward velocity
  let (velocityLoop, output) := c.velCtrl.stepWithObservation r.velocityLoop
    { setpoint := velocity
      current := ofLanes state.velocityNed
      accelFf := acceleration
      currentAtt := state.attitude
      headingSp := command.setpoint.heading
      dtSec := r.dtSec } fuel
  ({ r with velocityLoop, lastVelSpNed := velocity, velSpPrimed := true },
    output.map fun (command, observation) =>
      { prepared with
        setpoints :=
          { prepared.setpoints with
            velocityNed := some (.ofFn velocity.axisGet)
            accelerationNed := .ofFn acceleration.axisGet
            collective := command.collective
            attitude := command.attitude }
        velocityLoop := observation })

def runVerticalLoop (fuel : Nat) (r : MultirotorRuntimeState F) (state : StateEstimate F)
    (command : Command F) (limits : Limits F) (prepared : PreparedCascade F) :
    MultirotorRuntimeState F × Option (PreparedCascade F) :=
  let held : MultirotorRuntimeState F × Option (PreparedCascade F) :=
    match c.verticalVelocitySetpoint command.setpoint state limits with
    | none => (r, some prepared)
    | some vertical =>
      let (velocityLoop, output) := c.velCtrl.stepWithObservation r.velocityLoop
        { setpoint := ⟨lit 0, lit 0, vertical⟩
          current := ⟨lit 0, lit 0, state.velocityNed[2]⟩
          accelFf := .zero
          currentAtt := state.attitude
          headingSp := none
          dtSec := r.dtSec } fuel
      ({ r with velocityLoop },
        output.map fun (command, observation) =>
          { prepared with
            setpoints :=
              { prepared.setpoints with
                velocityNed := some #v[lit 0, lit 0, vertical]
                collective := command.collective }
            velocityLoop := observation })
  ({ held.1 with velSpPrimed := if held.2.isSome then false else held.1.velSpPrimed },
    held.2.map fun prepared =>
      match command.setpoint.heading with
      | some heading =>
        { prepared with
          setpoints :=
            { prepared.setpoints with
              attitude := attitudeWithHeading prepared.setpoints.attitude heading } }
      | none => prepared)

/-- The outer loop that the flags select. -/
def prepareCascade (fuel : Nat) (r : MultirotorRuntimeState F) (x : ControllerInput F)
    (topology : EffectiveControlTopology) :
    MultirotorRuntimeState F × Option (PreparedCascade F) :=
  let prepared : PreparedCascade F :=
    { topology
      setpoints :=
        { EffectiveSetpointObservation.default with
          attitude := x.command.setpoint.attitude.getD .identity
          collective := x.command.setpoint.collectiveThrust }
      velocityLoop := r.inactiveVelocityObservation }
  match x.flags.outerLoop x.command.setpoint with
  | .position position =>
    let velocity := c.posCtrl.step (ofLanes position) (ofLanes x.state.positionNed)
    c.runVelocityLoop fuel r x.state x.command velocity
      { prepared with setpoints := { prepared.setpoints with positionNed := some position } }
  | .velocity velocity =>
    c.runVelocityLoop fuel r x.state x.command (ofLanes velocity) prepared
  | .none =>
    if x.flags.flagControlAltitudeEnabled then
      c.runVerticalLoop fuel r x.state x.command x.limits prepared
    else ({ r with velSpPrimed := false }, some prepared)

/-- The attitude and the rate loop. -/
def runInnerLoops (r : MultirotorRuntimeState F) (state : StateEstimate F)
    (prepared : PreparedCascade F) :
    MultirotorRuntimeState F × PreparedCascade F × AxisCommand F × ControllerLoopObservation F :=
  let rateSetpoint := c.attCtrl.step prepared.setpoints.attitude state.attitude
  let (rateLoop, torque, observation) := c.rateCtrl.stepWithObservation r.rateLoop
    { setpoint := rateSetpoint
      current := state.angularVelocity
      dtSec := r.dtSec }
  ({ r with rateLoop },
    { prepared with setpoints := { prepared.setpoints with angularRate := rateSetpoint } },
    { roll := torque[0]
      pitch := torque[1]
      yaw := torque[2]
      collective := prepared.setpoints.collective },
    observation)

/-- One cycle. -/
def runStep (fuel : Nat) (runtime : MultirotorRuntimeState F) (x : ControllerInput F) :
    MultirotorRuntimeState F × Option (ControllerStep F) :=
  let topology := x.flags.effectiveTopology x.command.mode x.command.setpoint
  if topology = .unsupported then
    let (r, step) := rejectUnsupported runtime x.command
    (r, some step)
  else
    match c.prepareCascade fuel (runtime.alignTopologyState x.state topology) x topology with
    | (r, none) => (r, none)
    | (r, some prepared) =>
      let prepared := c.applyAutomaticFallback r x.state x.flags prepared
      if Scalar.lt prepared.setpoints.collective disarmedCollectiveThreshold then
        let (r, step) := resetForZeroThrust r runtime x.command prepared
        (r, some step)
      else
        let (r, prepared, axisCommand, rateLoop) := c.runInnerLoops r x.state prepared
        let (r, step) := recordStep r runtime x.command prepared rateLoop axisCommand
        (r, some step)

/-- The calls a controller gets. -/
inductive Op (F : Type) where
  | setCycleInterval (interval : F)
  | step (input : ControllerInput F)
  | reset

/-- The controller, call after call. Only a step that ends returns something. -/
def machine (fuel : Nat) :
    Machine (MultirotorRuntimeState F) (Op F) (Option (ControllerStep F)) where
  step r
    | .setCycleInterval interval => (r.setCycleInterval interval, none)
    | .step input => c.runStep fuel r input
    | .reset => (r.reset, none)

end Cascade

end MultirotorController

end Aviate

end ControlMultirotor

section ControlVelocityWindup

/-!
# Anti-windup of the velocity loop

Which integrators advance while a limiter acts. The vertical flag is taken at the authority clamp
and the horizontal one at the tilt cap, so the collective clamp behind the tilt compensation and
the 1 g clamp before the tilt conversion freeze nothing. All of it is for exact arithmetic and any
functions in the place of `libm`.

Results:
1. What a cycle does to the integral terms (`iZ_nextState`, `iTerm_nextState`).
2. `noWindup_iff`: a history keeps the anti-windup law exactly when no cycle of it pushes past one
   of these two clamps. `winds_over_full_collective` is a history of one cycle that does.
3. `winds_without_bound`: a demand held past 1 g winds the integrator by the same amount in every
   cycle.
-/

namespace Aviate.VelocityController

variable {K : Type} [Field K] [LinearOrder K]
variable {c : VelocityController K} {s : VelocityLoopState K} {x : VelocityInput K}
variable {xs : List (VelocityInput K)} {fuel n : Nat} {i : Fin 3}

/-! ## Limits -/

section Limits

variable [IsStrictOrderedRing K]

omit [IsStrictOrderedRing K] in
theorem maxUp_field : c.maxUp = 1 - c.hoverThrustNorm := by
  simp [maxUp]

theorem maxHorizontalAccelCmdMps2_pos : (0 : K) < maxHorizontalAccelCmdMps2 := by
  simp only [maxHorizontalAccelCmdMps2, standardGravityMps2, lit_field, Rat.cast_pos]
  norm_num

theorem authority_lt : -c.maxDn < c.maxUp := by
  rw [maxUp_field, maxDn]
  linarith

theorem cosTilt_pos : 0 < cosTilt x := by
  have hfloor : (0 : K) < tiltCompCosFloor := by
    simp only [tiltCompCosFloor, lit_field, Rat.cast_pos]
    norm_num
  rw [cosTilt, max_field]
  exact hfloor.trans_le (le_max_right _ _)

/-- A value passes a symmetric clamp unchanged exactly when it is within it. -/
theorem clamp_eq_self_iff {t b : K} : Scalar.clamp t (-b) b = t ↔ |t| ≤ b := by
  unfold Scalar.clamp
  simp only [lt_field, decide_eq_true_eq]
  rw [abs_le]
  split
  · next hlow => exact iff_of_false hlow.ne' fun h => hlow.not_ge h.1
  · next hlow =>
    split
    · next hhigh => exact iff_of_false hhigh.ne fun h => hhigh.not_ge h.2
    · next hhigh => exact iff_of_true rfl ⟨not_lt.mp hlow, not_lt.mp hhigh⟩

/-! ## The vertical flag -/

/-- No limit the vertical flag looks at acts. -/
def ZFree (c : VelocityController K) (s : VelocityLoopState K) (x : VelocityInput K) : Prop :=
  -c.maxDn < c.zDemand s x ∧ c.zDemand s x < c.maxUp

theorem zCorrection_field : c.zCorrection s x = max (-c.maxDn) (min (c.zDemand s x) c.maxUp) :=
  clamp_field authority_lt.le

theorem zSaturated_eq_false : c.zSaturated s x = false ↔ ZFree c s x := by
  have hbounds := authority_lt (c := c)
  rw [zSaturated, Bool.or_eq_false_iff, eq_field, eq_field, decide_eq_false_iff_not,
    decide_eq_false_iff_not, zCorrection_field, ZFree, max_eq_left_iff, not_le, lt_min_iff]
  constructor
  · rintro ⟨⟨hlow, -⟩, hne⟩
    refine ⟨hlow, lt_of_not_ge fun hhigh => hne ?_⟩
    rw [min_eq_right hhigh, max_eq_right hbounds.le]
  · rintro ⟨hlow, hhigh⟩
    refine ⟨⟨hlow, hbounds⟩, ?_⟩
    rw [min_eq_left hhigh.le, max_eq_right hlow.le]
    exact hhigh.ne

/-- The authority clamp keeps the collective from going below zero. -/
theorem collectiveCmd_nonneg : 0 ≤ c.collectiveCmd s x := by
  refine div_nonneg ?_ cosTilt_pos.le
  rw [zCorrection_field]
  have hlow := le_max_left (-c.maxDn) (min (c.zDemand s x) c.maxUp)
  unfold maxDn at hlow ⊢
  linarith

theorem one_lt_collectiveCmd_iff (h : ZFree c s x) :
    1 < c.collectiveCmd s x ↔ cosTilt x < c.hoverThrustNorm + c.zDemand s x := by
  rw [collectiveCmd, one_lt_div cosTilt_pos, zCorrection_field, min_eq_left h.2.le,
    max_eq_right h.1.le]

end Limits

/-! ## The tilt flags -/

variable [Libm K]

/-- Neither tilt cap acts. -/
def TiltFree (c : VelocityController K) (s : VelocityLoopState K) (x : VelocityInput K) : Prop :=
  |c.pitchSpRaw s x| ≤ c.gains.velMaxRollPitch ∧ |c.rollSpRaw s x| ≤ c.gains.velMaxRollPitch

variable [IsStrictOrderedRing K]

theorem tilted_eq_false : (c.xSaturated s x || c.ySaturated s x) = false ↔ TiltFree c s x := by
  simp only [xSaturated, ySaturated, Bool.or_eq_false_iff, Bool.not_eq_false', eq_field,
    decide_eq_true_eq, pitchSp, rollSp, capTilt, clamp_eq_self_iff, TiltFree]

/-! ## The integral terms -/

open Classical in
theorem integrator_horizontal (hi : i ≠ 2) :
    (c.nextState s x).integratorNed.axisGet i =
      if 0 < x.dtSec ∧ TiltFree c s x then s.integratorNed.axisGet i + error x i * x.dtSec
      else s.integratorNed.axisGet i := by
  have hzero : ((0 : ℚ) : K) = 0 := Rat.cast_zero
  simp only [nextState, integrate, lt_field, lit_field, hzero, decide_eq_true_eq,
    ← tilted_eq_false]
  by_cases hdt : 0 < x.dtSec
  · simp only [hdt, if_true, true_and]
    fin_cases i
    case «0» => cases c.xSaturated s x || c.ySaturated s x <;> rfl
    case «1» => cases c.xSaturated s x || c.ySaturated s x <;> rfl
    case «2» => exact absurd rfl hi
  · simp only [hdt, if_false, false_and]

open Classical in
theorem integrator_z :
    (c.nextState s x).integratorNed.z =
      if 0 < x.dtSec ∧ ZFree c s x then s.integratorNed.z + error x 2 * x.dtSec
      else s.integratorNed.z := by
  have hzero : ((0 : ℚ) : K) = 0 := Rat.cast_zero
  simp only [nextState, integrate, lt_field, lit_field, hzero, decide_eq_true_eq,
    ← zSaturated_eq_false]
  by_cases hdt : 0 < x.dtSec
  · simp only [hdt, if_true, true_and]
    cases c.zSaturated s x <;> rfl
  · simp only [hdt, if_false, false_and]

open Classical in
/-- What a cycle adds to the acceleration of a horizontal integrator. -/
theorem iTerm_nextState (hi : i ≠ 2) :
    c.iTerm (c.nextState s x) i = c.iTerm s i +
      if 0 < x.dtSec ∧ TiltFree c s x then x.dtSec * (error x i * c.gains.velI[i]) else 0 := by
  rw [iTerm, integrator_horizontal hi]
  split
  · rw [iTerm]
    ring
  · rw [iTerm, add_zero]

open Classical in
/-- What a cycle takes from the correction of the vertical integrator. -/
theorem iZ_nextState :
    c.iZ (c.nextState s x) = c.iZ s -
      if 0 < x.dtSec ∧ ZFree c s x then x.dtSec * (error x 2 * c.gains.velI[2]) else 0 := by
  rw [iZ, integrator_z]
  split
  · rw [iZ]
    ring
  · rw [iZ, sub_zero]

/-! ## The law -/

/-- The share of a NED axis in the forward acceleration. -/
def fwdShare (x : VelocityInput K) : Fin 3 → K
  | 0 => cosf (curYaw x)
  | 1 => sinf (curYaw x)
  | 2 => 0

/-- The share of a NED axis in the rightward acceleration. -/
def rightShare (x : VelocityInput K) : Fin 3 → K
  | 0 => -sinf (curYaw x)
  | 1 => cosf (curYaw x)
  | 2 => 0

/-- A cycle from `s` to `s'` keeps the anti-windup law: while a limiter acts, no integral term
moves the limited command further past it. Pitch falls with the forward acceleration and roll
rises with the rightward one. -/
structure NoWindup (c : VelocityController K) (s s' : VelocityLoopState K)
    (x : VelocityInput K) : Prop where
  up : c.maxUp < c.zDemand s x ∨ 1 < c.collectiveCmd s x → c.iZ s' ≤ c.iZ s
  down : c.zDemand s x < -c.maxDn ∨ c.collectiveCmd s x < 0 → c.iZ s ≤ c.iZ s'
  accel_high : ∀ i ≠ 2, maxHorizontalAccelCmdMps2 < c.accCmd s x i → c.iTerm s' i ≤ c.iTerm s i
  accel_low : ∀ i ≠ 2, c.accCmd s x i < -maxHorizontalAccelCmdMps2 → c.iTerm s i ≤ c.iTerm s' i
  pitch_high : c.gains.velMaxRollPitch < c.pitchSpRaw s x →
    ∀ i ≠ 2, fwdShare x i * c.iTerm s i ≤ fwdShare x i * c.iTerm s' i
  pitch_low : c.pitchSpRaw s x < -c.gains.velMaxRollPitch →
    ∀ i ≠ 2, fwdShare x i * c.iTerm s' i ≤ fwdShare x i * c.iTerm s i
  roll_high : c.gains.velMaxRollPitch < c.rollSpRaw s x →
    ∀ i ≠ 2, rightShare x i * c.iTerm s' i ≤ rightShare x i * c.iTerm s i
  roll_low : c.rollSpRaw s x < -c.gains.velMaxRollPitch →
    ∀ i ≠ 2, rightShare x i * c.iTerm s i ≤ rightShare x i * c.iTerm s' i

/-- A demand within the vertical authority that the tilt compensation lifts over full collective,
with an error that raises it. -/
def PushesPastCollective (c : VelocityController K) (s : VelocityLoopState K)
    (x : VelocityInput K) : Prop :=
  0 < x.dtSec ∧ ZFree c s x ∧ cosTilt x < c.hoverThrustNorm + c.zDemand s x ∧
    error x 2 * c.gains.velI[2] < 0

/-- An acceleration demand past 1 g whose tilt is within the cap, with an error that drives it
further. -/
def PushesPastAccel (c : VelocityController K) (s : VelocityLoopState K) (x : VelocityInput K)
    (i : Fin 3) : Prop :=
  0 < x.dtSec ∧ TiltFree c s x ∧
    (maxHorizontalAccelCmdMps2 < c.accCmd s x i ∧ 0 < error x i * c.gains.velI[i] ∨
      c.accCmd s x i < -maxHorizontalAccelCmdMps2 ∧ error x i * c.gains.velI[i] < 0)

theorem iZ_le_iff : c.iZ (c.nextState s x) ≤ c.iZ s ↔
    ¬(0 < x.dtSec ∧ ZFree c s x ∧ error x 2 * c.gains.velI[2] < 0) := by
  rw [iZ_nextState]
  split
  · next h =>
    rw [sub_le_self_iff, mul_nonneg_iff_of_pos_left h.1]
    simp [h.1, h.2]
  · next h =>
    rw [sub_zero]
    exact iff_of_true le_rfl fun h' => h ⟨h'.1, h'.2.1⟩

theorem iTerm_le_iff (hi : i ≠ 2) : c.iTerm (c.nextState s x) i ≤ c.iTerm s i ↔
    ¬(0 < x.dtSec ∧ TiltFree c s x ∧ 0 < error x i * c.gains.velI[i]) := by
  rw [iTerm_nextState hi]
  split
  · next h =>
    rw [add_le_iff_nonpos_right, ← not_lt, mul_pos_iff_of_pos_left h.1]
    simp [h.1, h.2]
  · next h =>
    rw [add_zero]
    exact iff_of_true le_rfl fun h' => h ⟨h'.1, h'.2.1⟩

theorem le_iTerm_iff (hi : i ≠ 2) : c.iTerm s i ≤ c.iTerm (c.nextState s x) i ↔
    ¬(0 < x.dtSec ∧ TiltFree c s x ∧ error x i * c.gains.velI[i] < 0) := by
  rw [iTerm_nextState hi]
  split
  · next h =>
    rw [le_add_iff_nonneg_right, mul_nonneg_iff_of_pos_left h.1]
    simp [h.1, h.2]
  · next h =>
    rw [add_zero]
    exact iff_of_true le_rfl fun h' => h ⟨h'.1, h'.2.1⟩

/-- A tilt cap that acts freezes both horizontal integrators. -/
theorem iTerm_frozen (hi : i ≠ 2) (h : ¬TiltFree c s x) :
    c.iTerm (c.nextState s x) i = c.iTerm s i := by
  rw [iTerm_nextState hi, if_neg fun h' => h h'.2, add_zero]

/-- A vertical authority clamp that acts freezes the vertical integrator. -/
theorem iZ_frozen (h : ¬ZFree c s x) : c.iZ (c.nextState s x) = c.iZ s := by
  rw [iZ_nextState, if_neg fun h' => h h'.2, sub_zero]

theorem noWindup_step_iff : NoWindup c s (c.nextState s x) x ↔
    ¬PushesPastCollective c s x ∧ ∀ i ≠ 2, ¬PushesPastAccel c s x i := by
  constructor
  · intro h
    refine ⟨?_, fun i hi => ?_⟩
    · rintro ⟨hdt, hfree, hlift, herror⟩
      have hover : 1 < c.collectiveCmd s x := (one_lt_collectiveCmd_iff hfree).mpr hlift
      exact iZ_le_iff.mp (h.up (.inr hover)) ⟨hdt, hfree, herror⟩
    · rintro ⟨hdt, hfree, ⟨hhigh, herror⟩ | ⟨hlow, herror⟩⟩
      · exact (iTerm_le_iff hi).mp (h.accel_high i hi hhigh) ⟨hdt, hfree, herror⟩
      · exact (le_iTerm_iff hi).mp (h.accel_low i hi hlow) ⟨hdt, hfree, herror⟩
  · rintro ⟨hcollective, haccel⟩
    have hpitch : |c.pitchSpRaw s x| > c.gains.velMaxRollPitch → ∀ i ≠ 2,
        c.iTerm (c.nextState s x) i = c.iTerm s i :=
      fun h i hi => iTerm_frozen hi fun hfree => h.not_ge hfree.1
    have hroll : |c.rollSpRaw s x| > c.gains.velMaxRollPitch → ∀ i ≠ 2,
        c.iTerm (c.nextState s x) i = c.iTerm s i :=
      fun h i hi => iTerm_frozen hi fun hfree => h.not_ge hfree.2
    constructor
    case up =>
      rintro (hdemand | hover)
      · exact (iZ_frozen fun hfree => hdemand.not_gt hfree.2).le
      · refine iZ_le_iff.mpr fun ⟨hdt, hfree, herror⟩ => hcollective ?_
        exact ⟨hdt, hfree, (one_lt_collectiveCmd_iff hfree).mp hover, herror⟩
    case down =>
      rintro (hdemand | hunder)
      · exact (iZ_frozen fun hfree => hdemand.not_gt hfree.1).ge
      · exact absurd collectiveCmd_nonneg hunder.not_ge
    case accel_high =>
      exact fun i hi hhigh => (iTerm_le_iff hi).mpr fun ⟨hdt, hfree, herror⟩ =>
        haccel i hi ⟨hdt, hfree, .inl ⟨hhigh, herror⟩⟩
    case accel_low =>
      exact fun i hi hlow => (le_iTerm_iff hi).mpr fun ⟨hdt, hfree, herror⟩ =>
        haccel i hi ⟨hdt, hfree, .inr ⟨hlow, herror⟩⟩
    case pitch_high =>
      intro h i hi
      rw [hpitch (lt_abs.mpr (.inl h)) i hi]
    case pitch_low =>
      intro h i hi
      rw [hpitch (lt_abs.mpr (.inr (lt_neg_of_lt_neg h))) i hi]
    case roll_high =>
      intro h i hi
      rw [hroll (lt_abs.mpr (.inl h)) i hi]
    case roll_low =>
      intro h i hi
      rw [hroll (lt_abs.mpr (.inr (lt_neg_of_lt_neg h))) i hi]

/-- A history keeps the law in every cycle exactly when no cycle of it pushes past the collective
clamp or past 1 g. -/
theorem noWindup_iff :
    (∀ e ∈ (c.loop fuel).trace s xs, NoWindup c e.pre e.post e.op) ↔
      ∀ e ∈ (c.loop fuel).trace s xs, ¬PushesPastCollective c e.pre e.op ∧
        ∀ i ≠ 2, ¬PushesPastAccel c e.pre e.op i :=
  Machine.forall_trace_congr fun _ _ => noWindup_step_iff

/-! ## A history that winds -/

/-- The default tuning of the X500 at its hover trim. -/
noncomputable def x500Controller : VelocityController ℝ := ⟨.x500Defaults, 77 / 100⟩

/-- A climb of 0.1 m/s is asked for while the vehicle is rolled by `2 * arcsin (5 / 13)`. -/
noncomputable def rolledClimb : VelocityInput ℝ :=
  ⟨⟨0, 0, -1 / 10⟩, .zero, .zero, ⟨12 / 13, 5 / 13, 0, 0⟩, none, 1 / 100⟩

theorem winds_over_full_collective :
    x500Controller.gains.validate = .ok () ∧
      ¬∀ e ∈ (x500Controller.loop 1).trace .default [rolledClimb],
        NoWindup x500Controller e.pre e.post e.op := by
  refine ⟨CascadeGains.validate_x500Defaults, fun h => ?_⟩
  have hlaw : NoWindup x500Controller .default (x500Controller.nextState .default rolledClimb)
      rolledClimb := h _ (.head _)
  have hgainP : x500Controller.gains.velP[2] = 2 / 5 := by
    change (lit (2 / 5) : ℝ) = 2 / 5
    norm_num
  have hgainI : x500Controller.gains.velI[2] = 1 / 20 := by
    change (lit (1 / 20) : ℝ) = 1 / 20
    norm_num
  have htrim : x500Controller.hoverThrustNorm = 77 / 100 := rfl
  have hff : rolledClimb.accelFf.z = 0 := by
    norm_num [rolledClimb, Vector3.zero]
  have herror : error rolledClimb 2 = -1 / 10 := by
    norm_num [error, rolledClimb, Vector3.axisGet, Vector3.zero]
  have hdemand : x500Controller.zDemand .default rolledClimb = 1 / 25 := by
    norm_num [zDemand, pZ, iZ, dZ, ffZ, herror, hgainP, hff, VelocityLoopState.default,
      Vector3.zero]
  have htilt : cosTilt rolledClimb = 119 / 169 := by
    norm_num [cosTilt, rolledClimb, tiltCompCosFloor]
  refine (noWindup_step_iff.mp hlaw).1 ⟨?_, ⟨?_, ?_⟩, ?_, ?_⟩
  · norm_num [rolledClimb]
  · norm_num [hdemand, maxDn, htrim]
  · norm_num [hdemand, maxUp, htrim]
  · norm_num [hdemand, htilt, htrim]
  · norm_num [herror, hgainI]

theorem noWindup_iff_rolledClimb :
    (∀ e ∈ (x500Controller.loop 1).trace .default [rolledClimb],
        NoWindup x500Controller e.pre e.post e.op) ↔
      ∀ e ∈ (x500Controller.loop 1).trace .default [rolledClimb],
        ¬PushesPastCollective x500Controller e.pre e.op ∧
          ∀ i ≠ 2, ¬PushesPastAccel x500Controller e.pre e.op i :=
  noWindup_iff

/-! ## A demand held past 1 g -/

omit [Libm K] in
/-- An upper bound that cuts a value cuts what is above it to the same. -/
theorem accClamped_of_lt (h : maxHorizontalAccelCmdMps2 < c.accCmd s x i) :
    c.accClamped s x i = maxHorizontalAccelCmdMps2 := by
  have hpos := maxHorizontalAccelCmdMps2_pos (K := K)
  rw [accClamped, clamp_field (by linarith), min_eq_right h.le, max_eq_right (by linarith)]

theorem accCmd_nextState (hi : i ≠ 2) (hdt : 0 < x.dtSec) (hfree : TiltFree c s x) :
    c.accCmd (c.nextState s x) x i =
      c.accCmd s x i + x.dtSec * (error x i * c.gains.velI[i]) := by
  rw [accCmd, iTerm_nextState hi, if_pos ⟨hdt, hfree⟩, accCmd]
  ring

omit [IsStrictOrderedRing K] in
/-- The tilt depends on the state through the clamped accelerations only. -/
theorem tiltFree_congr {s' : VelocityLoopState K}
    (hnorth : c.accClamped s' x 0 = c.accClamped s x 0)
    (heast : c.accClamped s' x 1 = c.accClamped s x 1) : TiltFree c s' x ↔ TiltFree c s x := by
  simp only [TiltFree, pitchSpRaw, rollSpRaw, accFwd, accRight, hnorth, heast]

/-- Past 1 g to the north, with no error to the east and the tilt within the cap, every cycle adds
the same to the northern integrator. -/
theorem winds_without_bound (hdt : 0 < x.dtSec) (hfree : TiltFree c s x)
    (hhigh : maxHorizontalAccelCmdMps2 < c.accCmd s x 0)
    (herror : (0 : K) ≤ error x 0 * c.gains.velI[0]) (heast : error x 1 = 0) :
    ((c.loop fuel).run s (.replicate n x)).integratorNed.x =
      s.integratorNed.x + n * (error x 0 * x.dtSec) := by
  induction n generalizing s with
  | zero => simp
  | succ n ih =>
    have hnorth : c.accCmd (c.nextState s x) x 0 =
        c.accCmd s x 0 + x.dtSec * (error x 0 * c.gains.velI[0]) :=
      accCmd_nextState (by decide) hdt hfree
    have hstill : c.accCmd (c.nextState s x) x 1 = c.accCmd s x 1 := by
      rw [accCmd_nextState (by decide) hdt hfree, heast]
      ring
    have hhigh' : maxHorizontalAccelCmdMps2 < c.accCmd (c.nextState s x) x 0 := by
      rw [hnorth]
      exact hhigh.trans_le (le_add_of_nonneg_right (mul_nonneg hdt.le herror))
    have hfree' : TiltFree c (c.nextState s x) x := by
      refine (tiltFree_congr ?_ ?_).mpr hfree
      · rw [accClamped_of_lt hhigh, accClamped_of_lt hhigh']
      · rw [accClamped, accClamped, hstill]
    have hadvance : (c.nextState s x).integratorNed.x =
        s.integratorNed.x + error x 0 * x.dtSec := by
      have h := integrator_horizontal (c := c) (s := s) (x := x) (i := 0) (by decide)
      rwa [if_pos ⟨hdt, hfree⟩] at h
    have hrest := ih hfree' hhigh'
    rw [List.replicate_succ, Machine.run_cons]
    change ((c.loop fuel).run (c.nextState s x) _).integratorNed.x = _
    rw [hrest, hadvance]
    push_cast
    ring

end Aviate.VelocityController

end ControlVelocityWindup

section CoreOperations

/-!
# The kernel as a machine

Every public operation of the kernel that changes its state, as the operations of
one deterministic machine. A run is any sequence of them, in any order and with
any arguments, from a fresh `KernelState`.

`kick_watchdog` does nothing and the remaining methods only read. The runtime
state of the estimator is public, and integrations seed it from outside; that is
the operation `writeEstimator`.
-/

namespace Aviate

variable {F E R : Type}

inductive KernelOp (F E : Type) where
  | initStep (sensors : SensorSet F)
  | update (input : UpdateInput F)
  | updateThrottle (throttleLow : Bool)
  | arm
  | disarm
  | terminate
  | handleDegradation (reason : DegradationReason) (timestamp : Timestamp)
  | resetFromFault
  | groundReset
  | requestConfigMode (toMode : ConfigMode)
  | reportTimingViolation (violation : Bool)
  | checkCriticalFaults
  | injectFault (fault : FaultFlags)
  | writeEstimator (estimator : E)

/-- What an operation returns. -/
inductive KernelOut (F : Type) where
  | init (result : InitResult)
  | update (result : UpdateResult F)
  | arm (result : Except ArmError Unit)
  | disarm (result : Except DisarmError Unit)
  | degradation (event : Option DegradationEvent)
  | reset (result : Except ArmError Unit)
  | configMode (result : Except TransitionError Unit)
  | critical (entered : Bool)
  | unit

namespace AviateKernel

variable [Scalar F] [Libm F] (k : AviateKernel F E R)

/-- Execute one public operation. -/
def step (s : KernelState F E R) : KernelOp F E → KernelState F E R × KernelOut F
  | .initStep sensors => (k.initStep s sensors).map id .init
  | .update input => (k.update s input).map id .update
  | .updateThrottle throttleLow => (updateThrottle s throttleLow, .unit)
  | .arm => (k.arm s).map id .arm
  | .disarm => (k.disarm s).map id .disarm
  | .terminate => (k.terminate s, .unit)
  | .handleDegradation reason timestamp =>
    (k.handleDegradation s reason timestamp).map id .degradation
  | .resetFromFault => (resetFromFault s).map id .reset
  | .groundReset => (k.groundReset s, .unit)
  | .requestConfigMode toMode => (k.requestConfigMode s toMode).map id .configMode
  | .reportTimingViolation violation => (reportTimingViolation s violation, .unit)
  | .checkCriticalFaults => (k.checkCriticalFaults s).map id .critical
  | .injectFault fault => (injectFault s fault, .unit)
  | .writeEstimator estimator => ({ s with estimator := estimator }, .unit)

/-- The kernel as a machine. -/
def machine : Machine (KernelState F E R) (KernelOp F E) (KernelOut F) := ⟨k.step⟩

/-- One executed public operation. -/
abbrev Event (F E R : Type) := Machine.Event (KernelState F E R) (KernelOp F E) (KernelOut F)

@[simp] theorem machine_step (s : KernelState F E R) (op : KernelOp F E) :
    k.machine.step s op = k.step s op := rfl

/-- The state after a sequence of operations on a fresh kernel. -/
def after (checks : KernelChecks F) (ops : List (KernelOp F E)) : KernelState F E R :=
  k.machine.run (KernelState.new k checks) ops

/-- The events of a sequence of operations on a fresh kernel. -/
def events (checks : KernelChecks F) (ops : List (KernelOp F E)) : List (Event F E R) :=
  k.machine.trace (KernelState.new k checks) ops

/-- What every cycle returns under exactly its condition, the cycles of every run all
return when they all meet it. -/
theorem forall_cycles_iff {P : UpdateResult F → Prop}
    {Q : KernelState F E R → UpdateInput F → Prop}
    (h : ∀ s inp, P (k.update s inp).2 ↔ Q s inp) (checks : KernelChecks F)
    (ops : List (KernelOp F E)) :
    (∀ e ∈ k.events checks ops, ∀ r, e.out = .update r → P r) ↔
      ∀ e ∈ k.events checks ops, ∀ inp, e.op = .update inp → Q e.pre inp := by
  refine Machine.forall_trace_congr fun s op => ?_
  cases op with
  | update input =>
    constructor
    · rintro hP inp hop
      obtain rfl := KernelOp.update.inj hop
      exact (h s input).mp (hP _ rfl)
    · rintro hQ r hout
      obtain rfl := KernelOut.update.inj hout
      exact (h s input).mpr (hQ input rfl)
  | _ => simp [Machine.event, step]

/-- What holds of every cycle of a run holds of its last one. -/
theorem last_cycle {P : UpdateResult F → Prop} {checks : KernelChecks F}
    {ops : List (KernelOp F E)} {inp : UpdateInput F}
    (h : ∀ e ∈ k.events checks (ops ++ [KernelOp.update inp]), ∀ r, e.out = .update r → P r) :
    P (k.update (k.after checks ops) inp).2 := by
  have hlast : k.machine.event (k.after checks ops) (.update inp) ∈
      k.events checks (ops ++ [KernelOp.update inp]) :=
    Machine.mem_trace.mpr ⟨ops, .update inp, [], rfl, rfl⟩
  exact h _ hlast _ rfl

end AviateKernel

end Aviate

end CoreOperations

section CoreFixedKernel

/-!
# A kernel with a fixed estimator

The smallest instance of the pipeline traits, in exact rational arithmetic. The
estimator is the `FixedEstimator` of the kernel's tests, which returns whatever
estimate was written into it; the controller passes the commanded collective
through; the mixer drives every channel with it; the sanitizer is the group-aware
one. Runs on this kernel are the concrete inputs of the development.
-/

namespace Aviate

/-- The values of the `libm` functions at the points a level vehicle heading north
evaluates them at: the sine and arc functions at zero, the cosine at zero, and the
square root at zero and one. -/
instance : Libm (ExactFloat ℚ) where
  sqrtf x := x
  sinf x := x
  cosf _ := lit 1
  asinf x := x
  atan2f y _ := y

/-- `StateEstimate::default()`. -/
def StateEstimate.default : StateEstimate (ExactFloat ℚ) where
  attitude := .identity
  angularVelocity := Vector.replicate 3 (lit 0)
  positionNed := Vector.replicate 3 (lit 0)
  velocityNed := Vector.replicate 3 (lit 0)
  quality := .unusable
  validFlags := .empty

/-- A good estimate, level and at rest at the given altitude. -/
def levelEstimate (altitude : ℚ) (valid : StateValidFlags) : StateEstimate (ExactFloat ℚ) :=
  { StateEstimate.default with
    positionNed := #v[lit 0, lit 0, lit (-altitude)]
    quality := .good
    validFlags := valid }

/-- All of the flags the estimate may carry. -/
def StateValidFlags.full : StateValidFlags :=
  ((attitude.union angularRate).union position).union velocity

def fixedEstimator : Estimator (ExactFloat ℚ) (StateEstimate (ExactFloat ℚ)) where
  default := .default
  observe estimate _ _ _ := estimate
  estimate estimate := estimate
  reset _ := .default

/-- A stateless controller that implements every mode and passes the collective
through. -/
def collectiveController : VehicleController (ExactFloat ℚ) Unit where
  default := ()
  setCycleInterval runtime _ := runtime
  supportsMode _ := true
  stepWithObservation runtime _ command _ _ _ :=
    (runtime, ⟨⟨lit 0, lit 0, lit 0, command.setpoint.collectiveThrust⟩, .default⟩)
  reset runtime := runtime

def collectiveMixer : Mixer (ExactFloat ℚ) where
  mix axis :=
    { outputs := Vector.replicate 16 axis.collective
      activeMask := 0b1111
      sequence := 0
      timestamp := .default
      fallbackMask := 0
      sanitized := false }

/-- `default_limits()`. -/
def defaultLimits : Limits (ExactFloat ℚ) where
  maxRoll := lit (78 / 100)
  maxPitch := lit (78 / 100)
  maxRollRate := lit 3
  maxPitchRate := lit 3
  maxYawRate := lit 3
  maxHorizontalSpeed := lit 10
  maxClimbRate := lit 2
  maxDescentRate := lit 2
  maxAltitude := lit 100
  minAltitude := lit 0
  minAirspeed := none
  maxAirspeed := none
  maxLoadFactor := lit 2
  minLoadFactor := lit 0

/-- `ResolvedKernelConfig::default()` with the given slew limit on every channel; zero
is the default and disables the limiter. -/
def defaultConfig (slewLimit : ℚ) : ResolvedKernelConfig (ExactFloat ℚ) where
  limits := defaultLimits
  modeConfig := ⟨.hover, []⟩
  commandTimeoutMs := 500
  safeOutput := .zero
  slewLimitPerCycle := Vector.replicate 16 (lit slewLimit)

/-- The kernel of these stages. -/
def fixedKernel (slewLimit : ℚ) :
    AviateKernel (ExactFloat ℚ) (StateEstimate (ExactFloat ℚ)) Unit where
  pipeline := ⟨fixedEstimator, collectiveController, collectiveMixer, groupSanitizer⟩
  cfg := defaultConfig slewLimit

/-- The default checks with everything position hold needs required in flight. -/
def positionChecks : KernelChecks (ExactFloat ℚ) :=
  { KernelChecks.new with inFlight := ⟨InFlightFlags.positionFlight, .empty⟩ }

/-! ## Inputs -/

def SensorReading.missing {α : Type} (value : α) : SensorReading α :=
  ⟨value, false, 0, .default, .notAvailable⟩

def SensorReading.healthy {α : Type} (value : α) : SensorReading α :=
  ⟨value, true, 0, .default, .good⟩

def AirData.empty : AirData (ExactFloat ℚ) := ⟨none, none, none, none, none, none⟩

/-- Readings of one health on every channel. -/
def uniformSensors (imu other : ∀ {α : Type}, α → SensorReading α) : SensorSet (ExactFloat ℚ) where
  imus := Vector.replicate 3 (imu ⟨Vector.replicate 3 (lit 0), Vector.replicate 3 (lit 0)⟩)
  gnss := Vector.replicate 2
    (other ⟨Vector.replicate 3 (lit 0), Vector.replicate 3 (lit 0), .rtkFixed, .good⟩)
  mags := Vector.replicate 2 (other ⟨Vector.replicate 3 (lit 0)⟩)
  baros := Vector.replicate 2 (other ⟨some (lit 0), .empty⟩)
  airspeeds := Vector.replicate 2 (other ⟨.empty⟩)
  geometry := none
  geomagnetic := none

def healthySensors : SensorSet (ExactFloat ℚ) := uniformSensors .healthy .healthy

def deadSensors : SensorSet (ExactFloat ℚ) := uniformSensors .missing .missing

/-- A manual command with the given collective. -/
def collectiveCommand (mode : ControlMode) (collective : ℚ) : Command (ExactFloat ℚ) where
  mode := mode
  setpoint := { Setpoint.default with collectiveThrust := lit collective }
  configModeRequest := none
  sensorOverrides := none
  sequence := 1
  source := .pilot

/-- The input of one cycle at 100 Hz. -/
def cycleInput (sensors : SensorSet (ExactFloat ℚ)) (command : Command (ExactFloat ℚ))
    (commandAgeMs : UInt32) : UpdateInput (ExactFloat ℚ) :=
  ⟨⟨lit (1 / 100), 10000⟩, sensors, .intact command, commandAgeMs⟩

/-- One cycle at 100 Hz. -/
def cycle (sensors : SensorSet (ExactFloat ℚ)) (command : Command (ExactFloat ℚ))
    (commandAgeMs : UInt32) : KernelOp (ExactFloat ℚ) (StateEstimate (ExactFloat ℚ)) :=
  .update (cycleInput sensors command commandAgeMs)

/-- Bring a fresh kernel up to `Ready`: seed the estimate, hold the throttle low, and
collect the samples the pre-arm checks require. -/
def startup (estimate : StateEstimate (ExactFloat ℚ)) :
    List (KernelOp (ExactFloat ℚ) (StateEstimate (ExactFloat ℚ))) :=
  [KernelOp.writeEstimator estimate, .updateThrottle true] ++
    List.replicate 105 (KernelOp.initStep healthySensors)

/-- The default checks bring the kernel to `Ready`. -/
example : ((fixedKernel 0).after .new (startup (levelEstimate 0 .full))).initState = .ready := by
  decide +kernel

end Aviate

end CoreFixedKernel

section ControlEnvelopeSound

/-!
# What envelope protection guarantees

`SimpleEnvelopeProtector::constrain` over exact real arithmetic, against the limits of every field
the controllers fly.

Results:
1. `constrain_fst`: the protector limits each optional field by itself, and it sets a flag exactly
   when one of them is outside its limit (`constrain_isEmpty_iff`).
2. A limiter keeps a field exactly when the field is inside its limit, and what it gives back is
   inside (`limitRates_inside`, `limitVelocity_inside`, …). For an attitude the latter fails only
   past the vertical (`limitAttitude_inside_iff`).
3. `sound_iff`: the envelope holds in every consumed field, and the protector is silent inside it,
   honest about changes and idempotent, exactly when the fields it has no limiter for (the vertical
   component of a velocity and of a position) are inside on their own.
-/

namespace Aviate

/-- Limits in another arithmetic. -/
def Limits.map {F G : Type} (f : F → G) (limits : Limits F) : Limits G where
  maxRoll := f limits.maxRoll
  maxPitch := f limits.maxPitch
  maxRollRate := f limits.maxRollRate
  maxPitchRate := f limits.maxPitchRate
  maxYawRate := f limits.maxYawRate
  maxHorizontalSpeed := f limits.maxHorizontalSpeed
  maxClimbRate := f limits.maxClimbRate
  maxDescentRate := f limits.maxDescentRate
  maxAltitude := f limits.maxAltitude
  minAltitude := f limits.minAltitude
  minAirspeed := limits.minAirspeed.map f
  maxAirspeed := limits.maxAirspeed.map f
  maxLoadFactor := f limits.maxLoadFactor
  minLoadFactor := f limits.minLoadFactor

/-- Non-negative maxima, and altitudes in order. -/
structure Limits.Proper {K : Type} [Zero K] [LE K] (limits : Limits K) : Prop where
  maxRoll : 0 ≤ limits.maxRoll
  maxPitch : 0 ≤ limits.maxPitch
  maxRollRate : 0 ≤ limits.maxRollRate
  maxPitchRate : 0 ≤ limits.maxPitchRate
  maxYawRate : 0 ≤ limits.maxYawRate
  maxHorizontalSpeed : 0 ≤ limits.maxHorizontalSpeed
  maxClimbRate : 0 ≤ limits.maxClimbRate
  maxDescentRate : 0 ≤ limits.maxDescentRate
  altitudes : limits.minAltitude ≤ limits.maxAltitude

theorem Limits.Proper.map {limits : Limits ℚ} (hl : limits.Proper) :
    (limits.map fun q : ℚ => (q : ℝ)).Proper where
  maxRoll := Rat.cast_nonneg.mpr hl.maxRoll
  maxPitch := Rat.cast_nonneg.mpr hl.maxPitch
  maxRollRate := Rat.cast_nonneg.mpr hl.maxRollRate
  maxPitchRate := Rat.cast_nonneg.mpr hl.maxPitchRate
  maxYawRate := Rat.cast_nonneg.mpr hl.maxYawRate
  maxHorizontalSpeed := Rat.cast_nonneg.mpr hl.maxHorizontalSpeed
  maxClimbRate := Rat.cast_nonneg.mpr hl.maxClimbRate
  maxDescentRate := Rat.cast_nonneg.mpr hl.maxDescentRate
  altitudes := Rat.cast_le.mpr hl.altitudes

namespace SimpleEnvelopeProtector

open Aviate.Quaternion (ofEuler sinp pitchOf fracPi2)

/-! ## Inside the limits -/

section Inside

variable (limits : Limits ℝ)

def AttitudeInside (att : Quaternion ℝ) : Prop :=
  |att.toEuler.1| ≤ limits.maxRoll ∧ |att.toEuler.2.1| ≤ limits.maxPitch

def RatesInside (rates : Vector ℝ 3) : Prop :=
  |rates[0]| ≤ limits.maxRollRate ∧ |rates[1]| ≤ limits.maxPitchRate ∧
    |rates[2]| ≤ limits.maxYawRate

def AltitudeInside (alt : ℝ) : Prop := limits.minAltitude ≤ alt ∧ alt ≤ limits.maxAltitude

/-- Down is positive. -/
def VerticalSpeedInside (vz : ℝ) : Prop := -limits.maxClimbRate ≤ vz ∧ vz ≤ limits.maxDescentRate

def HorizontalInside (vel : Vector ℝ 3) : Prop :=
  √(vel[0] * vel[0] + vel[1] * vel[1]) ≤ limits.maxHorizontalSpeed

/-- Every field the controllers consume is inside its limit. -/
structure Enveloped (sp : Setpoint ℝ) : Prop where
  rates : ∀ rates, sp.angularRate = some rates → RatesInside limits rates
  horizontal : ∀ vel, sp.velocity = some vel → HorizontalInside limits vel
  verticalSpeed : ∀ vz, sp.verticalSpeed = some vz → VerticalSpeedInside limits vz
  verticalVelocity : ∀ vel, sp.velocity = some vel → VerticalSpeedInside limits vel[2]
  altitude : ∀ alt, sp.altitude = some alt → AltitudeInside limits alt
  height : ∀ pos, sp.position = some pos → AltitudeInside limits (-pos[2])

/-- The fields the protector limits are inside. -/
structure Unlimited (sp : Setpoint ℝ) : Prop where
  attitude : ∀ att, sp.attitude = some att → AttitudeInside limits att
  rates : ∀ rates, sp.angularRate = some rates → RatesInside limits rates
  altitude : ∀ alt, sp.altitude = some alt → AltitudeInside limits alt
  verticalSpeed : ∀ vz, sp.verticalSpeed = some vz → VerticalSpeedInside limits vz
  horizontal : ∀ vel, sp.velocity = some vel → HorizontalInside limits vel

end Inside

/-! ## The limiters -/

noncomputable section Limiters

/-- A number limited to `[-b, b]`. -/
def within (b x : ℝ) : ℝ := max (-b) (min x b)

variable (limits : Limits ℝ)

open Classical in
def limitAttitude (att : Quaternion ℝ) : Quaternion ℝ :=
  if AttitudeInside limits att then att
  else ofEuler (within limits.maxRoll att.toEuler.1) (within limits.maxPitch att.toEuler.2.1)
    att.toEuler.2.2

def limitRates (rates : Vector ℝ 3) : Vector ℝ 3 :=
  #v[within limits.maxRollRate rates[0], within limits.maxPitchRate rates[1],
    within limits.maxYawRate rates[2]]

def limitAltitude (alt : ℝ) : ℝ := max limits.minAltitude (min alt limits.maxAltitude)

def limitVerticalSpeed (vz : ℝ) : ℝ := max (-limits.maxClimbRate) (min vz limits.maxDescentRate)

open Classical in
def limitVelocity (vel : Vector ℝ 3) : Vector ℝ 3 :=
  if HorizontalInside limits vel then vel
  else
    let scale := limits.maxHorizontalSpeed / √(vel[0] * vel[0] + vel[1] * vel[1])
    #v[vel[0] * scale, vel[1] * scale, vel[2]]

end Limiters

variable {limits : Limits ℝ} {sp : Setpoint ℝ} {flags axis : AxisLimitFlags} {b lo hi x : ℝ}
variable {att : Quaternion ℝ} {c : Constrained ℝ}

theorem limitTo_getD (h : lo ≤ hi) : (limitTo x lo hi).getD x = max lo (min x hi) := by
  unfold limitTo
  simp only [lt_field, decide_eq_true_eq]
  split
  · next hhi => rw [Option.getD_some, min_eq_right hhi.le, max_eq_right h]
  · next hhi =>
    split
    · next hlo => rw [Option.getD_some, min_eq_left (not_lt.mp hhi), max_eq_left hlo.le]
    · next hlo =>
      rw [Option.getD_none, min_eq_left (not_lt.mp hhi), max_eq_right (not_lt.mp hlo)]

theorem limitTo_isSome : (limitTo x lo hi).isSome = false ↔ lo ≤ x ∧ x ≤ hi := by
  unfold limitTo
  simp only [lt_field, decide_eq_true_eq]
  split
  · next hhi => exact iff_of_false (by simp) fun h => absurd hhi (not_lt.mpr h.2)
  · next hhi =>
    split
    · next hlo => exact iff_of_false (by simp) fun h => absurd hlo (not_lt.mpr h.1)
    · next hlo => exact iff_of_true rfl ⟨not_lt.mp hlo, not_lt.mp hhi⟩

theorem limitTo_getD_abs (hb : 0 ≤ b) : (limitTo x (-b) b).getD x = within b x :=
  limitTo_getD (by linarith)

theorem limitTo_isSome_abs : (limitTo x (-b) b).isSome = false ↔ |x| ≤ b := by
  rw [limitTo_isSome, abs_le]

theorem isEmpty_insert {i : Nat} (hi : i < 8) : (flags.insert (.flag i)).isEmpty = false := by
  rw [← Bool.not_eq_true, FlagSet.isEmpty_iff]
  intro h
  exact h i (FlagSet.mem_insert.mpr (.inr (FlagSet.mem_flag.mpr ⟨rfl, hi⟩)))

theorem isEmpty_flagIf {i : Nat} (hi : i < 8) {limited : Option ℝ} :
    (flagIf limited (.flag i) flags).isEmpty = true ↔
      flags.isEmpty = true ∧ limited.isSome = false := by
  unfold flagIf
  cases limited with
  | none => simp
  | some x => simp [isEmpty_insert hi]

/-- A number is kept exactly when it is in the range, and limited to it otherwise. -/
theorem clamp_eq_self_iff (h : lo ≤ hi) : max lo (min x hi) = x ↔ lo ≤ x ∧ x ≤ hi := by
  constructor
  · intro heq
    rw [← heq]
    exact ⟨le_max_left _ _, max_le h (min_le_right _ _)⟩
  · rintro ⟨hlo, hhi⟩
    rw [min_eq_left hhi, max_eq_right hlo]

theorem within_eq_self_iff (hb : 0 ≤ b) : within b x = x ↔ |x| ≤ b := by
  rw [within, clamp_eq_self_iff (by linarith), abs_le]

theorem abs_within (hb : 0 ≤ b) : |within b x| = min |x| b := by
  rw [← abs_clamp hb, clamp_field (by linarith)]
  rfl

/-! ## The stages -/

theorem constrainAttitude_spec (hl : limits.Proper) :
    (constrainAttitude limits c).1 =
        { c.1 with attitude := c.1.attitude.map (limitAttitude limits) } ∧
      ((constrainAttitude limits c).2.isEmpty = true ↔ c.2.isEmpty = true ∧
        ∀ att, c.1.attitude = some att → AttitudeInside limits att) := by
  obtain ⟨⟨attitude, rate, altitude, vSpeed, _, _, velocity, _, _, _⟩, flags⟩ := c
  rcases attitude with _ | att
  · exact ⟨rfl, by simp [constrainAttitude]⟩
  · rcases heuler : att.toEuler with ⟨r, p, y⟩
    have hinside : AttitudeInside limits att ↔
        (limitTo r (-limits.maxRoll) limits.maxRoll).isSome = false ∧
          (limitTo p (-limits.maxPitch) limits.maxPitch).isSome = false := by
      rw [limitTo_isSome_abs, limitTo_isSome_abs, AttitudeInside, heuler]
    have hflags : (flagIf (limitTo p (-limits.maxPitch) limits.maxPitch) AxisLimitFlags.pitch
        (flagIf (limitTo r (-limits.maxRoll) limits.maxRoll) AxisLimitFlags.roll
          flags)).isEmpty = true ↔ flags.isEmpty = true ∧ AttitudeInside limits att := by
      rw [AxisLimitFlags.pitch, AxisLimitFlags.roll, isEmpty_flagIf (by decide),
        isEmpty_flagIf (by decide), hinside, and_assoc]
    have hforall : (∀ a, some att = some a → AttitudeInside limits a) ↔
        AttitudeInside limits att := by simp
    rw [hforall, ← hflags, Option.map_some, limitAttitude]
    simp only [constrainAttitude, heuler]
    by_cases hin : AttitudeInside limits att
    · rw [if_pos hin]
      obtain ⟨hr, hp⟩ := hinside.mp hin
      rw [hr, hp]
      exact ⟨rfl, Iff.rfl⟩
    · rw [if_neg hin, limitTo_getD_abs hl.maxRoll, limitTo_getD_abs hl.maxPitch]
      have hsome : ((limitTo r (-limits.maxRoll) limits.maxRoll).isSome ||
          (limitTo p (-limits.maxPitch) limits.maxPitch).isSome) = true := by
        by_contra h
        rw [Bool.not_eq_true, Bool.or_eq_false_iff] at h
        exact hin (hinside.mpr h)
      rw [hsome]
      exact ⟨rfl, Iff.rfl⟩

theorem constrainRates_spec (hl : limits.Proper) :
    (constrainRates limits c).1 =
        { c.1 with angularRate := c.1.angularRate.map (limitRates limits) } ∧
      ((constrainRates limits c).2.isEmpty = true ↔ c.2.isEmpty = true ∧
        ∀ rates, c.1.angularRate = some rates → RatesInside limits rates) := by
  obtain ⟨⟨attitude, rate, altitude, vSpeed, _, _, velocity, _, _, _⟩, flags⟩ := c
  rcases rate with _ | rates
  · exact ⟨rfl, by simp [constrainRates]⟩
  · simp only [constrainRates, Option.map_some, limitRates, limitTo_getD_abs hl.maxRollRate,
      limitTo_getD_abs hl.maxPitchRate, limitTo_getD_abs hl.maxYawRate, true_and,
      AxisLimitFlags.roll, AxisLimitFlags.pitch, AxisLimitFlags.yaw,
      isEmpty_flagIf (show 0 < 8 by decide), isEmpty_flagIf (show 1 < 8 by decide),
      isEmpty_flagIf (show 2 < 8 by decide), limitTo_isSome_abs, Option.some.injEq, forall_eq', RatesInside, and_assoc]

theorem constrainAltitude_spec (hl : limits.Proper) :
    (constrainAltitude limits c).1 =
        { c.1 with altitude := c.1.altitude.map (limitAltitude limits) } ∧
      ((constrainAltitude limits c).2.isEmpty = true ↔ c.2.isEmpty = true ∧
        ∀ alt, c.1.altitude = some alt → AltitudeInside limits alt) := by
  obtain ⟨⟨attitude, rate, altitude, vSpeed, _, _, velocity, _, _, _⟩, flags⟩ := c
  rcases altitude with _ | alt
  · exact ⟨rfl, by simp [constrainAltitude]⟩
  · simp only [constrainAltitude, Option.map_some, limitAltitude, lt_field,
      decide_eq_true_eq, Option.some.injEq, forall_eq', AltitudeInside]
    rcases lt_or_ge limits.maxAltitude alt with hhigh | hhigh
    · have hlow : ¬ limits.maxAltitude < limits.minAltitude := not_lt.mpr hl.altitudes
      simp [hhigh, hlow, hl.altitudes, hhigh.le, isEmpty_insert, AxisLimitFlags.altitude]
    · rcases lt_or_ge alt limits.minAltitude with hlow | hlow
      · simp [not_lt.mpr hhigh, hhigh, hlow, hlow.le, not_le.mpr hlow, isEmpty_insert,
          AxisLimitFlags.altitude]
      · simp [not_lt.mpr hhigh, hhigh, not_lt.mpr hlow, hlow]

theorem constrainVerticalSpeed_spec (hl : limits.Proper) :
    (constrainVerticalSpeed limits c).1 =
        { c.1 with verticalSpeed := c.1.verticalSpeed.map (limitVerticalSpeed limits) } ∧
      ((constrainVerticalSpeed limits c).2.isEmpty = true ↔ c.2.isEmpty = true ∧
        ∀ vz, c.1.verticalSpeed = some vz → VerticalSpeedInside limits vz) := by
  obtain ⟨⟨attitude, rate, altitude, vSpeed, _, _, velocity, _, _, _⟩, flags⟩ := c
  rcases vSpeed with _ | vz
  · exact ⟨rfl, by simp [constrainVerticalSpeed]⟩
  · have hclimb := hl.maxClimbRate
    have hdescent := hl.maxDescentRate
    have horder : -limits.maxClimbRate ≤ limits.maxDescentRate := by linarith
    simp only [constrainVerticalSpeed, Option.map_some, limitVerticalSpeed, lt_field,
      decide_eq_true_eq, Option.some.injEq, forall_eq', VerticalSpeedInside]
    rcases lt_or_ge vz (-limits.maxClimbRate) with hlow | hlow
    · have hhigh : vz ≤ limits.maxDescentRate := hlow.le.trans horder
      simp [hlow, hlow.le, hhigh, not_le.mpr hlow, isEmpty_insert, AxisLimitFlags.speed]
    · rcases lt_or_ge limits.maxDescentRate vz with hhigh | hhigh
      · simp [not_lt.mpr hlow, hhigh, hhigh.le, not_le.mpr hhigh, horder, isEmpty_insert,
          AxisLimitFlags.speed]
      · simp [not_lt.mpr hlow, not_lt.mpr hhigh, hlow, hhigh]

theorem constrainHorizontalSpeed_spec (hl : limits.Proper) :
    (constrainHorizontalSpeed limits c).1 =
        { c.1 with velocity := c.1.velocity.map (limitVelocity limits) } ∧
      ((constrainHorizontalSpeed limits c).2.isEmpty = true ↔ c.2.isEmpty = true ∧
        ∀ vel, c.1.velocity = some vel → HorizontalInside limits vel) := by
  obtain ⟨⟨attitude, rate, altitude, vSpeed, _, _, velocity, _, _, _⟩, flags⟩ := c
  rcases velocity with _ | vel
  · exact ⟨rfl, by simp [constrainHorizontalSpeed]⟩
  · have hinside : HorizontalInside limits vel ↔
        ¬ limits.maxHorizontalSpeed * limits.maxHorizontalSpeed <
          vel[0] * vel[0] + vel[1] * vel[1] := by
      rw [HorizontalInside, Real.sqrt_le_left hl.maxHorizontalSpeed, not_lt, pow_two]
    simp only [constrainHorizontalSpeed, Option.map_some, limitVelocity, lt_field,
      decide_eq_true_eq, Option.some.injEq, forall_eq', sqrtf_real]
    by_cases hin : HorizontalInside limits vel
    · rw [if_pos hin, if_neg (hinside.mp hin)]
      simp [hin]
    · rw [if_neg hin, if_pos (by rwa [hinside, not_not] at hin)]
      simp [hin, isEmpty_insert, AxisLimitFlags.speed]

/-- The setpoint with each optional field limited by itself. -/
noncomputable def limited (limits : Limits ℝ) (sp : Setpoint ℝ) : Setpoint ℝ :=
  { sp with
    attitude := sp.attitude.map (limitAttitude limits)
    angularRate := sp.angularRate.map (limitRates limits)
    altitude := sp.altitude.map (limitAltitude limits)
    verticalSpeed := sp.verticalSpeed.map (limitVerticalSpeed limits)
    velocity := sp.velocity.map (limitVelocity limits) }

theorem constrain_spec (hl : limits.Proper) (sp : Setpoint ℝ) (state : StateEstimate ℝ)
    (authority : AuthorityProfile) :
    (constrain sp state limits authority).1 = limited limits sp ∧
      ((constrain sp state limits authority).2.limitedAxes.isEmpty = true ↔
        Unlimited limits sp) := by
  let c₁ := constrainAttitude limits (sp, .empty)
  let c₂ := constrainRates limits c₁
  let c₃ := constrainAltitude limits c₂
  let c₄ := constrainVerticalSpeed limits c₃
  have h₁ := constrainAttitude_spec (c := (sp, .empty)) hl
  have h₂ := constrainRates_spec (c := c₁) hl
  have h₃ := constrainAltitude_spec (c := c₂) hl
  have h₄ := constrainVerticalSpeed_spec (c := c₃) hl
  have h₅ := constrainHorizontalSpeed_spec (c := c₄) hl
  have e₁ : c₁.1 = _ := h₁.1
  have e₂ : c₂.1 = _ := h₂.1
  have e₃ : c₃.1 = _ := h₃.1
  have e₄ : c₄.1 = _ := h₄.1
  constructor
  · show (constrainHorizontalSpeed limits c₄).1 = _
    rw [h₅.1, e₄, e₃, e₂, e₁]
    rfl
  · show (constrainHorizontalSpeed limits c₄).2.isEmpty = true ↔ _
    rw [h₅.2, h₄.2, h₃.2, h₂.2, h₁.2, e₄, e₃, e₂, e₁]
    constructor
    · rintro ⟨⟨⟨⟨⟨-, hatt⟩, hrates⟩, halt⟩, hvz⟩, hvel⟩
      exact ⟨hatt, hrates, halt, hvz, hvel⟩
    · rintro ⟨hatt, hrates, halt, hvz, hvel⟩
      exact ⟨⟨⟨⟨⟨rfl, hatt⟩, hrates⟩, halt⟩, hvz⟩, hvel⟩

/-! ## What a limiter gives back -/

theorem limitRates_inside (hl : limits.Proper) (rates : Vector ℝ 3) :
    RatesInside limits (limitRates limits rates) := by
  refine ⟨?_, ?_, ?_⟩
  · exact (abs_within hl.maxRollRate).trans_le (min_le_right _ _)
  · exact (abs_within hl.maxPitchRate).trans_le (min_le_right _ _)
  · exact (abs_within hl.maxYawRate).trans_le (min_le_right _ _)

theorem limitRates_of_inside (hl : limits.Proper) {rates : Vector ℝ 3}
    (h : RatesInside limits rates) : limitRates limits rates = rates := by
  obtain ⟨hroll, hpitch, hyaw⟩ := h
  rw [limitRates, (within_eq_self_iff hl.maxRollRate).mpr hroll,
    (within_eq_self_iff hl.maxPitchRate).mpr hpitch, (within_eq_self_iff hl.maxYawRate).mpr hyaw]
  apply Vector.ext
  intro i hi
  match i, hi with
  | 0, _ => rfl
  | 1, _ => rfl
  | 2, _ => rfl

theorem limitAltitude_inside (hl : limits.Proper) (alt : ℝ) :
    AltitudeInside limits (limitAltitude limits alt) :=
  ⟨le_max_left _ _, max_le hl.altitudes (min_le_right _ _)⟩

theorem limitVerticalSpeed_inside (hl : limits.Proper) (vz : ℝ) :
    VerticalSpeedInside limits (limitVerticalSpeed limits vz) := by
  have hclimb := hl.maxClimbRate
  have hdescent := hl.maxDescentRate
  exact ⟨le_max_left _ _, max_le (by linarith) (min_le_right _ _)⟩

theorem limitVelocity_inside (hl : limits.Proper) (vel : Vector ℝ 3) :
    HorizontalInside limits (limitVelocity limits vel) := by
  by_cases h : HorizontalInside limits vel
  · rwa [limitVelocity, if_pos h]
  · rw [limitVelocity, if_neg h]
    rw [HorizontalInside, not_le] at h
    obtain ⟨speed, hspeed⟩ : ∃ speed, speed = √(vel[0] * vel[0] + vel[1] * vel[1]) := ⟨_, rfl⟩
    rw [← hspeed] at h ⊢
    have hpos : 0 < speed := hl.maxHorizontalSpeed.trans_lt h
    have hsq : vel[0] * vel[0] + vel[1] * vel[1] = speed ^ 2 := by
      rw [hspeed, Real.sq_sqrt (add_nonneg (mul_self_nonneg _) (mul_self_nonneg _))]
    show √(vel[0] * _ * (vel[0] * _) + vel[1] * _ * (vel[1] * _)) ≤ _
    rw [Real.sqrt_le_left hl.maxHorizontalSpeed]
    refine le_of_eq ?_
    calc vel[0] * (limits.maxHorizontalSpeed / speed)
            * (vel[0] * (limits.maxHorizontalSpeed / speed))
          + vel[1] * (limits.maxHorizontalSpeed / speed)
            * (vel[1] * (limits.maxHorizontalSpeed / speed))
        = (vel[0] * vel[0] + vel[1] * vel[1]) * (limits.maxHorizontalSpeed / speed) ^ 2 := by ring
      _ = limits.maxHorizontalSpeed ^ 2 := by
          rw [hsq, ← mul_pow, mul_div_cancel₀ _ hpos.ne']

/-- An attitude past the vertical, with a pitch limit past the vertical too: the limited attitude
is read back turned over, with a roll beyond the limit. -/
structure TurnsOver (limits : Limits ℝ) (att : Quaternion ℝ) : Prop where
  vertical : 1 ≤ |sinp att|
  loose : Real.pi / 2 < limits.maxPitch
  limited : ¬ AttitudeInside limits att
  turned : min |att.toEuler.1| limits.maxRoll + limits.maxRoll < Real.pi

theorem within_mem {r : ℝ} (hb : 0 ≤ b) (hr : r ∈ Set.Ioc (-Real.pi) Real.pi) :
    within b r ∈ Set.Ioc (-Real.pi) Real.pi := by
  have hpi := Real.pi_pos
  constructor
  · rcases le_total b Real.pi with h | h
    · rcases h.lt_or_eq with hlt | rfl
      · exact lt_max_of_lt_left (by linarith)
      · exact lt_max_of_lt_right (lt_min hr.1 (by linarith))
    · exact lt_max_of_lt_right (lt_min hr.1 (by linarith))
  · exact max_le (by linarith) ((min_le_left _ _).trans hr.2)

/-- Below the vertical the limited angles are read back as they are. -/
theorem toEuler_limited (hl : limits.Proper)
    (hp : |within limits.maxPitch att.toEuler.2.1| < Real.pi / 2) :
    (ofEuler (within limits.maxRoll att.toEuler.1) (within limits.maxPitch att.toEuler.2.1)
      att.toEuler.2.2).toEuler =
      (within limits.maxRoll att.toEuler.1, within limits.maxPitch att.toEuler.2.1,
        att.toEuler.2.2) :=
  Quaternion.toEuler_ofEuler_of_lt (within_mem hl.maxRoll Quaternion.roll_mem) hp
    Quaternion.yaw_mem

/-- The limited pitch is past the vertical only if the given one and the limit are. -/
theorem limited_pitch (hl : limits.Proper) (hne : limits.maxPitch ≠ Real.pi / 2)
    (att : Quaternion ℝ) :
    |within limits.maxPitch att.toEuler.2.1| < Real.pi / 2 ∨
      1 ≤ |sinp att| ∧ Real.pi / 2 < limits.maxPitch ∧
        Real.cos (within limits.maxPitch att.toEuler.2.1) < 0 := by
  rw [abs_within hl.maxPitch, min_lt_iff]
  rcases lt_or_ge |sinp att| 1 with hsin | hsin
  · left
    left
    rw [Quaternion.pitch_eq]
    exact Quaternion.abs_pitchOf_lt hsin
  · rcases hne.lt_or_gt with hlt | hgt
    · exact .inl (.inr hlt)
    · have habs : |within limits.maxPitch att.toEuler.2.1| = min fracPi2 limits.maxPitch := by
        rw [abs_within hl.maxPitch, Quaternion.pitch_eq, Quaternion.abs_pitchOf_of_le hsin]
      have hfrac : (fracPi2 : ℝ) < Real.pi := by
        rw [Quaternion.fracPi2_real]
        linarith [Real.pi_gt_three]
      refine .inr ⟨hsin, hgt, ?_⟩
      rw [← Real.cos_abs, habs]
      refine Real.cos_neg_of_pi_div_two_lt_of_lt (lt_min Quaternion.pi_div_two_lt_fracPi2 hgt) ?_
      linarith [min_le_left (fracPi2 : ℝ) limits.maxPitch, Real.pi_pos]

/-- Past the vertical the pitch read back is below it. -/
theorem abs_pitch_past_vertical {r p y : ℝ} (hp : Real.cos p < 0) :
    |(ofEuler r p y).toEuler.2.1| < Real.pi / 2 := by
  rw [Quaternion.toEuler_ofEuler]
  refine Quaternion.abs_pitchOf_lt ?_
  rw [← sq_lt_one_iff_abs_lt_one]
  nlinarith [Real.sin_sq_add_cos_sq p]

/-- A limited attitude is inside its limits unless it turns over. -/
theorem limitAttitude_inside_iff (hl : limits.Proper) (hne : limits.maxPitch ≠ Real.pi / 2) :
    AttitudeInside limits (limitAttitude limits att) ↔ ¬ TurnsOver limits att := by
  by_cases hin : AttitudeInside limits att
  · rw [limitAttitude, if_pos hin]
    exact iff_of_true hin fun h => h.limited hin
  · rw [limitAttitude, if_neg hin]
    rcases limited_pitch hl hne att with hp | ⟨hsin, hloose, hcos⟩
    · refine iff_of_true ?_ fun h => ?_
      · rw [AttitudeInside, toEuler_limited hl hp]
        exact ⟨(abs_within hl.maxRoll).trans_le (min_le_right _ _),
          (abs_within hl.maxPitch).trans_le (min_le_right _ _)⟩
      · rw [abs_within hl.maxPitch, Quaternion.pitch_eq,
          Quaternion.abs_pitchOf_of_le h.vertical, min_lt_iff] at hp
        rcases hp with hp | hp
        · exact absurd Quaternion.pi_div_two_lt_fracPi2 (not_lt.mpr hp.le)
        · exact absurd h.loose (not_lt.mpr hp.le)
    · have hpitch := abs_pitch_past_vertical (r := within limits.maxRoll att.toEuler.1)
        (y := att.toEuler.2.2) hcos
      rw [AttitudeInside, Quaternion.abs_roll_past_vertical
        (within_mem hl.maxRoll Quaternion.roll_mem) hcos, abs_within hl.maxRoll]
      constructor
      · rintro ⟨hroll, -⟩ h
        linarith [h.turned]
      · intro h
        refine ⟨?_, (hpitch.trans hloose).le⟩
        by_contra hroll
        exact h ⟨hsin, hloose, hin, by linarith⟩

/-- An attitude outside its limits is changed. -/
theorem limitAttitude_eq_self_iff (hl : limits.Proper) (hne : limits.maxPitch ≠ Real.pi / 2) :
    limitAttitude limits att = att ↔ AttitudeInside limits att := by
  constructor
  · intro heq
    by_contra hin
    rw [limitAttitude, if_neg hin] at heq
    rcases limited_pitch hl hne att with hp | ⟨hsin, -, hcos⟩
    · have hread := toEuler_limited hl hp
      rw [heq] at hread
      refine hin ⟨?_, ?_⟩
      · rw [hread]
        exact (abs_within hl.maxRoll).trans_le (min_le_right _ _)
      · rw [hread]
        exact (abs_within hl.maxPitch).trans_le (min_le_right _ _)
    · have hpitch := abs_pitch_past_vertical (r := within limits.maxRoll att.toEuler.1)
        (y := att.toEuler.2.2) hcos
      rw [heq, Quaternion.pitch_eq, Quaternion.abs_pitchOf_of_le hsin] at hpitch
      exact absurd Quaternion.pi_div_two_lt_fracPi2 (not_lt.mpr hpitch.le)
  · exact fun hin => if_pos hin

/-! ## The protector -/

theorem map_eq_self_iff {α : Type} {L : α → α} {I : α → Prop} (h : ∀ x, L x = x ↔ I x)
    (o : Option α) : o.map L = o ↔ ∀ x, o = some x → I x := by
  cases o with
  | none => simp
  | some x => simp [h]

theorem limited_eq_self_iff (hl : limits.Proper) (hne : limits.maxPitch ≠ Real.pi / 2) :
    limited limits sp = sp ↔ Unlimited limits sp := by
  have hclimb := hl.maxClimbRate
  have hdescent := hl.maxDescentRate
  have hatt := map_eq_self_iff (fun _ => limitAttitude_eq_self_iff hl hne) sp.attitude
  have hrates := map_eq_self_iff (L := limitRates limits) (I := RatesInside limits)
    (fun rates => ⟨fun h => h ▸ limitRates_inside hl rates, limitRates_of_inside hl⟩)
    sp.angularRate
  have halt := map_eq_self_iff (L := limitAltitude limits) (I := AltitudeInside limits)
    (fun _ => clamp_eq_self_iff hl.altitudes) sp.altitude
  have hvz := map_eq_self_iff (L := limitVerticalSpeed limits) (I := VerticalSpeedInside limits)
    (fun _ => clamp_eq_self_iff (by linarith)) sp.verticalSpeed
  have hvel := map_eq_self_iff (L := limitVelocity limits) (I := HorizontalInside limits)
    (fun vel => ⟨fun h => h ▸ limitVelocity_inside hl vel, fun h => if_pos h⟩) sp.velocity
  constructor
  · intro h
    exact ⟨hatt.mp (congrArg Setpoint.attitude h), hrates.mp (congrArg Setpoint.angularRate h),
      halt.mp (congrArg Setpoint.altitude h), hvz.mp (congrArg Setpoint.verticalSpeed h),
      hvel.mp (congrArg Setpoint.velocity h)⟩
  · intro h
    rw [limited, hatt.mpr h.attitude, hrates.mpr h.rates, halt.mpr h.altitude,
      hvz.mpr h.verticalSpeed, hvel.mpr h.horizontal]

/-- What the protector gives back is inside again, but for an attitude that turns over. -/
theorem unlimited_limited_iff (hl : limits.Proper) (hne : limits.maxPitch ≠ Real.pi / 2) :
    Unlimited limits (limited limits sp) ↔
      ∀ att, sp.attitude = some att → ¬ TurnsOver limits att := by
  constructor
  · intro h att hatt
    refine (limitAttitude_inside_iff hl hne).mp (h.attitude _ ?_)
    rw [limited, hatt]
    rfl
  · intro h
    refine ⟨fun att hatt => ?_, fun rates hrates => ?_, fun alt halt => ?_, fun vz hvz => ?_,
      fun vel hvel => ?_⟩
    · obtain ⟨att, hsome, rfl⟩ := Option.map_eq_some_iff.mp hatt
      exact (limitAttitude_inside_iff hl hne).mpr (h att hsome)
    · obtain ⟨rates, -, rfl⟩ := Option.map_eq_some_iff.mp hrates
      exact limitRates_inside hl rates
    · obtain ⟨alt, -, rfl⟩ := Option.map_eq_some_iff.mp halt
      exact limitAltitude_inside hl alt
    · obtain ⟨vz, -, rfl⟩ := Option.map_eq_some_iff.mp hvz
      exact limitVerticalSpeed_inside hl vz
    · obtain ⟨vel, -, rfl⟩ := Option.map_eq_some_iff.mp hvel
      exact limitVelocity_inside hl vel

theorem limitVelocity_vertical (vel : Vector ℝ 3) : (limitVelocity limits vel)[2] = vel[2] := by
  unfold limitVelocity
  split <;> rfl

/-- The protector limits what it has a limiter for. The vertical components of velocity and
position pass through. -/
theorem enveloped_limited_iff (hl : limits.Proper) :
    Enveloped limits (limited limits sp) ↔
      (∀ vel, sp.velocity = some vel → VerticalSpeedInside limits vel[2]) ∧
        ∀ pos, sp.position = some pos → AltitudeInside limits (-pos[2]) := by
  constructor
  · intro h
    refine ⟨fun vel hvel => ?_, h.height⟩
    have hlimited := h.verticalVelocity (limitVelocity limits vel) (by rw [limited, hvel]; rfl)
    rwa [limitVelocity_vertical] at hlimited
  · rintro ⟨hvel, hpos⟩
    refine ⟨fun rates hrates => ?_, fun vel h => ?_, fun vz hvz => ?_, fun vel h => ?_,
      fun alt halt => ?_, hpos⟩
    · obtain ⟨rates, -, rfl⟩ := Option.map_eq_some_iff.mp hrates
      exact limitRates_inside hl rates
    · obtain ⟨vel, -, rfl⟩ := Option.map_eq_some_iff.mp h
      exact limitVelocity_inside hl vel
    · obtain ⟨vz, -, rfl⟩ := Option.map_eq_some_iff.mp hvz
      exact limitVerticalSpeed_inside hl vz
    · obtain ⟨vel, hsome, rfl⟩ := Option.map_eq_some_iff.mp h
      rw [limitVelocity_vertical]
      exact hvel vel hsome
    · obtain ⟨alt, -, rfl⟩ := Option.map_eq_some_iff.mp halt
      exact limitAltitude_inside hl alt

/-- Every limit holds of the setpoint, the attitude included. -/
def InsideAll (limits : Limits ℝ) (sp : Setpoint ℝ) : Prop :=
  (∀ att, sp.attitude = some att → AttitudeInside limits att) ∧ Enveloped limits sp

/-- The protector's promise: what it gives back is inside the envelope, a setpoint inside all
limits comes back unchanged and unflagged, saturation is reported exactly for a change, and
protecting twice changes nothing more. -/
structure Sound (limits : Limits ℝ) (sp : Setpoint ℝ) (state : StateEstimate ℝ)
    (authority : AuthorityProfile) : Prop where
  enveloped : Enveloped limits (constrain sp state limits authority).1
  silent : InsideAll limits sp → constrain sp state limits authority = (sp, ⟨.empty, false⟩)
  honest : (constrain sp state limits authority).2.saturated = true ↔
    (constrain sp state limits authority).1 ≠ sp
  idempotent : (constrain (constrain sp state limits authority).1 state limits authority).1 =
    (constrain sp state limits authority).1

/-- Saturation is reported exactly when a limited field is outside. -/
theorem saturated_iff (hl : limits.Proper) (state : StateEstimate ℝ)
    (authority : AuthorityProfile) :
    (constrain sp state limits authority).2.saturated = true ↔ ¬ Unlimited limits sp := by
  rw [← (constrain_spec hl sp state authority).2]
  show (!_) = true ↔ _
  rw [Bool.not_eq_true', Bool.not_eq_true]
  rfl

theorem silent_of_unlimited (hl : limits.Proper) (hne : limits.maxPitch ≠ Real.pi / 2)
    (state : StateEstimate ℝ) (authority : AuthorityProfile) (h : Unlimited limits sp) :
    constrain sp state limits authority = (sp, ⟨.empty, false⟩) := by
  have hspec := constrain_spec hl sp state authority
  have hempty := hspec.2.mpr h
  have haxes : (constrain sp state limits authority).2.limitedAxes = .empty := by
    rw [FlagSet.isEmpty, beq_iff_eq] at hempty
    exact congrArg FlagSet.mk hempty
  have hsaturated : (constrain sp state limits authority).2.saturated = false := by
    rw [← Bool.not_eq_true, saturated_iff hl, not_not]
    exact h
  refine Prod.ext (hspec.1.trans ((limited_eq_self_iff hl hne).mpr h)) ?_
  rw [← haxes, ← hsaturated]

theorem sound_iff_of_ne (hl : limits.Proper) (hne : limits.maxPitch ≠ Real.pi / 2)
    (state : StateEstimate ℝ) (authority : AuthorityProfile) :
    Sound limits sp state authority ↔
      (∀ vel, sp.velocity = some vel → VerticalSpeedInside limits vel[2]) ∧
        (∀ pos, sp.position = some pos → AltitudeInside limits (-pos[2])) ∧
        ∀ att, sp.attitude = some att → ¬ TurnsOver limits att := by
  have hspec := fun sp => (constrain_spec hl sp state authority).1
  rw [← and_assoc, ← enveloped_limited_iff hl, ← unlimited_limited_iff hl hne]
  constructor
  · intro h
    refine ⟨hspec sp ▸ h.enveloped, ?_⟩
    have hagain := h.idempotent
    rw [hspec, hspec] at hagain
    exact (limited_eq_self_iff hl hne).mp hagain
  · rintro ⟨henveloped, hagain⟩
    refine ⟨(hspec sp).symm ▸ henveloped, fun h => ?_, ?_, ?_⟩
    · refine silent_of_unlimited hl hne state authority ?_
      exact ⟨h.1, h.2.rates, h.2.altitude, h.2.verticalSpeed, h.2.horizontal⟩
    · rw [saturated_iff hl, hspec, ← limited_eq_self_iff hl hne]
    · rw [hspec, hspec]
      exact (limited_eq_self_iff hl hne).mpr hagain

/-- Limits are binary32 numbers, hence rationals, so no pitch limit is `π / 2`. -/
theorem maxPitch_ne (limits : Limits ℚ) :
    (limits.map fun q : ℚ => (q : ℝ)).maxPitch ≠ Real.pi / 2 := by
  intro h
  refine irrational_pi ⟨2 * limits.maxPitch, ?_⟩
  have hcast : ((limits.maxPitch : ℚ) : ℝ) = Real.pi / 2 := h
  push_cast
  linarith

/-- The default limits of the configuration. -/
def configLimits : Limits ℚ := defaultLimits.map ExactFloat.val

theorem configLimits_proper : configLimits.Proper := by
  constructor <;> decide +kernel

/-- An estimate at rest. -/
noncomputable def restState : StateEstimate ℝ where
  attitude := .identity
  angularVelocity := .replicate 3 0
  positionNed := .replicate 3 0
  velocityNed := .replicate 3 0
  quality := .good
  validFlags := .empty

/-- A command to fall at 10 m/s. -/
noncomputable def fallSetpoint : Setpoint ℝ :=
  { Setpoint.default with velocity := some #v[0, 0, 10] }

/-- It passes through, although the descent rate is limited to 2 m/s. -/
theorem fall_unlimited :
    ¬ Sound (configLimits.map fun q : ℚ => (q : ℝ)) fallSetpoint restState .hardEnvelope := by
  intro h
  rw [sound_iff_of_ne configLimits_proper.map (maxPitch_ne _)] at h
  have hfall := (h.1 #v[0, 0, 10] rfl).2
  norm_num [configLimits, Limits.map, defaultLimits] at hfall

/-- For rational limits the promise is kept exactly when the vertical components of a commanded
velocity and position are inside on their own and no commanded attitude turns over. -/
theorem sound_iff {limits : Limits ℚ} (hl : limits.Proper) (sp : Setpoint ℝ)
    (state : StateEstimate ℝ) (authority : AuthorityProfile) :
    let real := limits.map fun q : ℚ => (q : ℝ)
    Sound real sp state authority ↔
      (∀ vel, sp.velocity = some vel → VerticalSpeedInside real vel[2]) ∧
        (∀ pos, sp.position = some pos → AltitudeInside real (-pos[2])) ∧
        ∀ att, sp.attitude = some att → ¬ TurnsOver real att :=
  sound_iff_of_ne hl.map (maxPitch_ne limits) state authority

theorem sound_iff_fall :
    let real := configLimits.map fun q : ℚ => (q : ℝ)
    Sound real fallSetpoint restState .hardEnvelope ↔
      (∀ vel, fallSetpoint.velocity = some vel → VerticalSpeedInside real vel[2]) ∧
        (∀ pos, fallSetpoint.position = some pos → AltitudeInside real (-pos[2])) ∧
        ∀ att, fallSetpoint.attitude = some att → ¬ TurnsOver real att :=
  sound_iff configLimits_proper fallSetpoint restState .hardEnvelope

end SimpleEnvelopeProtector

end Aviate

end ControlEnvelopeSound

section ControlFallback

/-!
# The collective in automatic fallback

A cycle in automatic fallback to Attitude repeats the collective the controller remembers, and
remembers what it emits. So a run of such cycles holds one collective.

Results:
1. What the controller remembers is what it last emitted since its last reset (`emitted_step`,
   `remembered_run`).
2. The mode gate puts the controller in fallback when it grants Attitude in place of another mode
   (`inFallback_of_gate`).
3. A fallback cycle always ends, and emits the remembered collective (`fallback_step`).
4. `fallback_continuity`: over a run of fallback cycles the collective is the last one emitted
   since the last reset, or the hover trim. `reset_forgets_collective` is a reset in between.
-/

namespace Aviate

variable {F : Type}

/-- What the controller remembers of its output. -/
def MultirotorRuntimeState.remembered (r : MultirotorRuntimeState F) : Option (AxisCommand F) :=
  if r.axisCommandPrimed then some r.lastAxisCommand else none

namespace MultirotorController

variable {r : MultirotorRuntimeState F} {x : ControllerInput F}
  {topology : EffectiveControlTopology}

open MultirotorRuntimeState

/-! ## What a cycle remembers -/

theorem remembered_alignTopologyState (state : StateEstimate F) :
    (r.alignTopologyState state topology).remembered = r.remembered := by
  unfold alignTopologyState
  split <;> rfl

section Cycle

variable [Scalar F] [Libm F] {c : MultirotorController F} {fuel : Nat}

/-- The outer loops leave the output of earlier cycles alone. -/
theorem remembered_prepareCascade :
    (c.prepareCascade fuel r x topology).1.remembered = r.remembered := by
  unfold prepareCascade
  cases x.flags.outerLoop x.command.setpoint with
  | position position => rfl
  | velocity velocity => rfl
  | none =>
    cases x.flags.flagControlAltitudeEnabled with
    | false => rfl
    | true =>
      show (c.runVerticalLoop fuel r x.state x.command x.limits _).1.remembered = _
      unfold runVerticalLoop
      cases c.verticalVelocitySetpoint x.command.setpoint x.state x.limits <;> rfl

/-- A cycle remembers the command it emits. -/
theorem emitted_step : (c.runStep fuel r x).1.remembered =
    ((c.runStep fuel r x).2.map ControllerStep.axisCommand).or r.remembered := by
  have hkept : (c.prepareCascade fuel (r.alignTopologyState x.state
      (x.flags.effectiveTopology x.command.mode x.command.setpoint)) x
        (x.flags.effectiveTopology x.command.mode x.command.setpoint)).1.remembered =
      r.remembered := by
    rw [remembered_prepareCascade, remembered_alignTopologyState]
  unfold runStep
  dsimp only
  split
  · rfl
  · split
    · next hprepared =>
      rw [hprepared] at hkept
      exact hkept
    · split <;> rfl

end Cycle

/-! ## The emitted commands of a history -/

section History

variable [Scalar F] [Libm F]

/-- The command that was emitted last; a reset of the controller counts when `forget` says so. -/
def note (forget : Bool) (last : Option (AxisCommand F))
    (e : Machine.Event (MultirotorRuntimeState F) (Op F) (Option (ControllerStep F))) :
    Option (AxisCommand F) :=
  match e.op with
  | .setCycleInterval _ => last
  | .step _ => (e.out.map ControllerStep.axisCommand).or last
  | .reset => if forget then none else last

/-- The last command of a history. -/
def lastEmitted (c : MultirotorController F) (fuel : Nat) (past : List (Op F)) :
    Option (AxisCommand F) :=
  (c.machine fuel).history (note false) none .default past

/-- The last command since the last reset. -/
def lastSinceReset (c : MultirotorController F) (fuel : Nat) (past : List (Op F)) :
    Option (AxisCommand F) :=
  (c.machine fuel).history (note true) none .default past

/-- The controller remembers exactly the last command since the last reset. -/
theorem remembered_run (c : MultirotorController F) (fuel : Nat) (past : List (Op F)) :
    ((c.machine fuel).run .default past).remembered = c.lastSinceReset fuel past := by
  refine Machine.history_invariant
    (R := fun (s : MultirotorRuntimeState F) last => s.remembered = last) (G := fun _ => True)
    ?_ rfl fun _ _ => trivial
  intro s op last hlast _
  cases op with
  | setCycleInterval interval => exact hlast
  | step x => exact hlast ▸ emitted_step
  | reset => rfl

end History

/-! ## Fallback -/

/-- The controller is in automatic fallback to Attitude. -/
def InFallback (x : ControllerInput F) : Prop :=
  x.flags.effectiveTopology x.command.mode x.command.setpoint = .attitude ∧
    FallenFromOuterLoop x.flags = true

/-- The gate falls back from the modes with an outer loop only. -/
theorem fallen_of_gate {requested : ControlMode} {valid missing : StateValidFlags}
    (h : gateModeEntry requested valid = .fallenBack requested .attitude missing)
    (flags : VehicleControlMode) :
    FallenFromOuterLoop (flags.withModeEntry (.fallenBack requested .attitude missing)) = true := by
  cases requested with
  | rate => cases ModeGateLemmas.rungAvailable_of_fallenBack h
  | attitude => cases ModeGateLemmas.rungAvailable_of_fallenBack h
  | _ => rfl

/-- So the cycles the kernel flies in Attitude instead of such a mode are in fallback. -/
theorem inFallback_of_gate {requested : ControlMode} {valid missing : StateValidFlags}
    (h : gateModeEntry requested valid = .fallenBack requested .attitude missing)
    (hflags : x.flags = (VehicleControlMode.fromControlMode .attitude).withModeEntry
      (.fallenBack requested .attitude missing)) (hmode : x.command.mode = .attitude) :
    InFallback x := by
  refine ⟨?_, ?_⟩
  · rw [hflags, hmode]
    rfl
  · rw [hflags]
    exact fallen_of_gate h _

section Run

variable [Scalar F] [Libm F] {c : MultirotorController F} {fuel : Nat}

/-- The collective of a command, or the hover trim. -/
def collectiveOf (c : MultirotorController F) (last : Option (AxisCommand F)) : F :=
  last.elim c.hoverThrustNorm AxisCommand.collective

/-- Without an outer loop nothing is prepared but the setpoint itself. -/
theorem prepareCascade_of_attitude (c : MultirotorController F) (fuel : Nat)
    (r : MultirotorRuntimeState F)
    (h : x.flags.effectiveTopology x.command.mode x.command.setpoint = .attitude) :
    ∃ (r' : MultirotorRuntimeState F) (prepared : PreparedCascade F),
      c.prepareCascade fuel r x .attitude = (r', some prepared) ∧
        prepared.topology = .attitude := by
  unfold VehicleControlMode.effectiveTopology at h
  unfold prepareCascade
  split at h
  · cases h
  cases hloop : x.flags.outerLoop x.command.setpoint with
  | position position => simp [hloop] at h
  | velocity velocity => simp [hloop] at h
  | none =>
    cases haltitude : x.flags.flagControlAltitudeEnabled with
    | false => exact ⟨_, _, rfl, rfl⟩
    | true =>
      have hvertical : c.verticalVelocitySetpoint x.command.setpoint x.state x.limits = none := by
        rw [hloop, haltitude] at h
        unfold verticalVelocitySetpoint
        cases hspeed : x.command.setpoint.verticalSpeed with
        | some speed => simp [hspeed] at h
        | none =>
          cases hheld : x.command.setpoint.altitude with
          | some altitude => simp [hheld] at h
          | none => rfl
      dsimp only
      rw [if_pos rfl, runVerticalLoop, hvertical]
      refine ⟨_, _, rfl, ?_⟩
      cases x.command.setpoint.heading <;> rfl

/-- A fallback cycle ends, and emits the remembered collective. -/
theorem fallback_step (c : MultirotorController F) (fuel : Nat) (r : MultirotorRuntimeState F)
    (h : InFallback x) :
    ∃ step, (c.runStep fuel r x).2 = some step ∧
      step.axisCommand.collective = c.collectiveOf r.remembered := by
  obtain ⟨htopology, hfallen⟩ := h
  have hkept : (c.prepareCascade fuel (r.alignTopologyState x.state .attitude) x
      .attitude).1.remembered = r.remembered := by
    rw [remembered_prepareCascade, remembered_alignTopologyState]
  obtain ⟨r', prepared, hprepare, hattitude⟩ := prepareCascade_of_attitude c fuel
    (r.alignTopologyState x.state .attitude) htopology
  rw [hprepare] at hkept
  have hcollective : (c.applyAutomaticFallback r' x.state x.flags prepared).setpoints.collective =
      c.collectiveOf r.remembered := by
    rw [← hkept, applyAutomaticFallback, if_neg (by simp [hattitude, hfallen])]
    unfold collectiveOf remembered
    dsimp only
    split <;> rfl
  unfold runStep
  rw [htopology, if_neg nofun, hprepare]
  dsimp only
  split
  · exact ⟨_, rfl, hcollective⟩
  · exact ⟨_, rfl, hcollective⟩

/-- The cycles of a run in fallback; nothing resets the controller. -/
def FallbackCycle : Op F → Prop
  | .setCycleInterval _ => True
  | .step x => InFallback x
  | .reset => False

/-- A fallback cycle leaves the collective to be held as it is. -/
theorem held_step {r : MultirotorRuntimeState F} {op : Op F} (h : FallbackCycle op) :
    c.collectiveOf ((c.machine fuel).step r op).1.remembered = c.collectiveOf r.remembered := by
  cases op with
  | setCycleInterval interval => rfl
  | reset => exact h.elim
  | step x =>
    obtain ⟨step, hstep, hcollective⟩ := fallback_step c fuel r h
    show c.collectiveOf (c.runStep fuel r x).1.remembered = _
    rw [emitted_step, hstep]
    exact hcollective

/-- Every cycle of a run emits the collective of `last`. -/
def Holds (c : MultirotorController F) (fuel : Nat) (past run : List (Op F))
    (last : Option (AxisCommand F)) : Prop :=
  ∀ e ∈ (c.machine fuel).trace ((c.machine fuel).run .default past) run, ∀ x, e.op = .step x →
    ∃ step, e.out = some step ∧ step.axisCommand.collective = c.collectiveOf last

/-- After every history, every cycle of a run in automatic fallback ends and emits the collective
of the last command since the controller was last reset, or the hover trim if there is none. -/
theorem fallback_continuity (c : MultirotorController F) (fuel : Nat) (past run : List (Op F))
    (hrun : ∀ op ∈ run, FallbackCycle op) :
    c.Holds fuel past run (c.lastSinceReset fuel past) := by
  intro e he x hx
  obtain ⟨before, op, after, rfl, rfl⟩ := Machine.mem_trace.mp he
  obtain rfl : op = .step x := hx
  have hheld : c.collectiveOf ((c.machine fuel).run ((c.machine fuel).run .default past)
      before).remembered = c.collectiveOf (c.lastSinceReset fuel past) := by
    rw [← c.remembered_run fuel past]
    refine Machine.run_invariant_of_guard
      (I := fun s : MultirotorRuntimeState F => c.collectiveOf s.remembered = _)
      (G := fun e => FallbackCycle e.op) (fun s op hs h => (held_step h).trans hs) rfl ?_
    intro e he
    obtain ⟨front, op, rest, rfl, rfl⟩ := Machine.mem_trace.mp he
    exact hrun op (by simp)
  obtain ⟨step, hstep, hcollective⟩ := fallback_step c fuel
    ((c.machine fuel).run ((c.machine fuel).run .default past) before) (hrun (.step x) (by simp))
  exact ⟨step, hstep, hcollective.trans hheld⟩

end Run

/-! ## A reset in between -/

/-- The x500 cascade with a hover trim of one half. -/
def x500Controller : MultirotorController (ExactFloat ℚ) := fromGains .x500Defaults (lit (1 / 2))

/-- A cycle in Attitude with the given collective, requested by `decision`. -/
def attitudeCycle (collective : ℚ) (decision : ModeEntryDecision) : Op (ExactFloat ℚ) :=
  .step
    { state := levelEstimate 0 .full
      command := collectiveCommand .attitude collective
      flags := (VehicleControlMode.fromControlMode .attitude).withModeEntry decision
      limits := defaultLimits }

/-- Attitude flown in place of a position hold. -/
def fallbackCycle : Op (ExactFloat ℚ) :=
  attitudeCycle 0 (.fallenBack .positionHold .attitude .full)

theorem fallbackCycle_fallback : FallbackCycle fallbackCycle := ⟨rfl, rfl⟩

/-- The fallback holds the collective of the last manual cycle, not the commanded zero. -/
theorem fallback_continuity_manual :
    x500Controller.Holds 0 [attitudeCycle (7 / 10) (.granted .attitude)]
      [fallbackCycle, fallbackCycle]
      (x500Controller.lastSinceReset 0 [attitudeCycle (7 / 10) (.granted .attitude)]) :=
  fallback_continuity x500Controller 0 _ _ fun op hop => by
    simp only [List.mem_cons, List.not_mem_nil, or_false, or_self] at hop
    exact hop ▸ fallbackCycle_fallback

/-- After a reset the fallback does not hold the last emitted collective. -/
theorem reset_forgets_collective :
    FallbackCycle fallbackCycle ∧
      ¬ x500Controller.Holds 0 [attitudeCycle (7 / 10) (.granted .attitude), .reset]
        [fallbackCycle]
        (x500Controller.lastEmitted 0 [attitudeCycle (7 / 10) (.granted .attitude), .reset]) := by
  refine ⟨fallbackCycle_fallback, fun h => ?_⟩
  obtain ⟨step, hstep, hcollective⟩ := h _ (List.mem_singleton.mpr rfl) _ rfl
  obtain ⟨step', hstep', hhover⟩ := fallback_step x500Controller 0
    ((x500Controller.machine 0).run .default
      [attitudeCycle (7 / 10) (.granted .attitude), .reset]) fallbackCycle_fallback
  obtain rfl : step' = step := Option.some.inj (hstep'.symm.trans hstep)
  have hlast : x500Controller.collectiveOf (x500Controller.lastEmitted 0
      [attitudeCycle (7 / 10) (.granted .attitude), .reset]) = lit (7 / 10) := by
    decide +kernel
  rw [hhover, hlast] at hcollective
  exact absurd hcollective (by decide +kernel)

end MultirotorController

end Aviate

end ControlFallback

section EstimatorStages

/-!
# The stages of a cycle and the calls of the estimator

One lemma for each stage of the filter that can be skipped, rejected or fail, which says
everything it does when it returns. What follows is proved from these lemmas. The calls into
the estimator that return are the steps of a transition system.
-/

namespace Aviate

variable {F : Type} [Scalar F] [Libm F] {cfg : EkfConfig F} {s s' : EkfState F}

/-! ## Scalar updates -/

/-- A scalar update that is not accepted leaves the state alone; one that is passes the
gate. -/
theorem scalarUpdate_cases {idx : Fin stateDim} {meas r : F} {accepted : Bool}
    (h : cfg.scalarUpdate s idx meas r = some (s', accepted)) :
    (accepted = false ∧ s' = s) ∨
      accepted = true ∧ ∃ pred t,
        let variance := s.innovationVariance idx r
        let innov := meas - pred
        let k := s.kalmanGain idx variance
        s.measured idx = some pred ∧
        Scalar.lt variance (lit (1 / 1000000000)) = false ∧
        cfg.gateRejects innov variance = false ∧
        cfg.clampBiases
          (((s.correctMotion k innov).correctGyroBias k innov).correctAccelBias k innov) =
            some t ∧
        s' = { t.correctAttitude k innov with
          pCov := EkfConfig.josephScalarCovUpdate (t.correctAttitude k innov).pCov k idx r } := by
  unfold EkfConfig.scalarUpdate at h
  cases hpred : s.measured idx with
  | none =>
    rw [hpred] at h
    cases h
    exact .inl ⟨rfl, rfl⟩
  | some pred =>
    rw [hpred] at h
    dsimp only at h
    split at h
    · cases h
      exact .inl ⟨rfl, rfl⟩
    · next hvariance =>
      split at h
      · cases h
        exact .inl ⟨rfl, rfl⟩
      · next hgate =>
        simp only [Option.bind_eq_bind, Option.bind_eq_some_iff] at h
        obtain ⟨t, hclamp, hs'⟩ := h
        cases hs'
        exact .inr ⟨rfl, pred, t, rfl, by simpa using hvariance, by simpa using hgate, hclamp,
          rfl⟩

/-- A heading update is rejected and leaves the state alone, or passes the gate. -/
theorem headingUpdate_cases {innov r : F} (h : cfg.headingUpdate s innov r = some s') :
    s' = s ∨ ∃ t,
      let variance := s.innovationVariance idxYaw r
      let k := s.kalmanGain idxYaw variance
      Scalar.lt variance (lit (1 / 1000000000)) = false ∧
      cfg.gateRejects innov variance = false ∧
      cfg.clampBiases
        (((s.correctMotion k innov).correctAttitude k innov).correctAccelBias k innov) =
          some t ∧
      s' = { t with pCov := EkfConfig.josephScalarCovUpdate t.pCov k idxYaw r } := by
  unfold EkfConfig.headingUpdate at h
  dsimp only at h
  split at h
  · cases h
    exact .inl rfl
  · next hvariance =>
    split at h
    · cases h
      exact .inl rfl
    · next hgate =>
      simp only [Option.bind_eq_bind, Option.bind_eq_some_iff] at h
      obtain ⟨t, hclamp, hs'⟩ := h
      cases hs'
      exact .inr ⟨t, by simpa using hvariance, by simpa using hgate, hclamp, rfl⟩

omit [Libm F] in
/-- A clamp returns when its bounds are ordered. -/
theorem clampBiases_cases (h : cfg.clampBiases s = some s') :
    ∃ gyroBias accelBias,
      s.gyroBias.clamp cfg.gyroBiasLimit = some gyroBias ∧
      s.accelBias.clamp cfg.accelBiasLimit = some accelBias ∧
      s' = { s with gyroBias := gyroBias, accelBias := accelBias } := by
  simp only [EkfConfig.clampBiases, Option.bind_eq_bind, Option.bind_eq_some_iff] at h
  obtain ⟨gyroBias, hgyro, accelBias, haccel, hs'⟩ := h
  cases hs'
  exact ⟨gyroBias, accelBias, hgyro, haccel, rfl⟩

/-! ## Readings -/

/-- The three axes of a channel are updated one after the other. -/
theorem fuseAxes_cases {base : Nat} {meas : Vector F 3} {r : F} {hbase : base + 3 ≤ stateDim}
    {accepted : Bool} (h : cfg.fuseAxes s base meas r hbase = some (s', accepted)) :
    ∃ t u first second third,
      cfg.scalarUpdate s ⟨base, by omega⟩ meas[0] r = some (t, first) ∧
      cfg.scalarUpdate t ⟨base + 1, by omega⟩ meas[1] r = some (u, second) ∧
      cfg.scalarUpdate u ⟨base + 2, by omega⟩ meas[2] r = some (s', third) ∧
      accepted = (first && second && third) := by
  simp only [EkfConfig.fuseAxes, Option.bind_eq_bind, Option.bind_eq_some_iff] at h
  obtain ⟨⟨t, first⟩, hfirst, ⟨u, second⟩, hsecond, ⟨v, third⟩, hthird, hs'⟩ := h
  cases hs'
  exact ⟨t, u, first, second, third, hfirst, hsecond, hthird, rfl⟩

/-- A GNSS reading is dropped, or both of its channels are fused. -/
theorem updateGnssState_cases {reading : SensorReading (GnssData F)} {a : Acceptance}
    (h : cfg.updateGnssState s reading = some (s', a)) :
    (s' = s ∧ a = .none) ∨
      s.initialized = true ∧ gnssUsable reading = true ∧ ∃ t u,
        cfg.fuseAxes s idxPos reading.value.positionNed cfg.measNoiseGnssPos (by decide) =
          some (t, a.pos) ∧
        cfg.fuseAxes (if a.pos then { t with gnssPosAgeS := lit 0 } else t) idxVel
          reading.value.velocityNed cfg.measNoiseGnssVel (by decide) = some (u, a.vel) ∧
        s' = if a.vel then { u with gnssVelAgeS := lit 0 } else u := by
  unfold EkfConfig.updateGnssState at h
  split at h
  · cases h
    exact .inl ⟨rfl, rfl⟩
  · next hgate =>
    simp only [Bool.or_eq_true, Bool.not_eq_true', not_or, Bool.not_eq_false] at hgate
    simp only [Option.bind_eq_bind, Option.bind_eq_some_iff] at h
    obtain ⟨⟨t, pos⟩, hpos, ⟨u, vel⟩, hvel, hs'⟩ := h
    cases hs'
    exact .inr ⟨hgate.1, hgate.2, t, u, hpos, hvel, rfl⟩

theorem fuseAltitude_cases {altitude : F} (h : cfg.fuseAltitude s altitude = some s') :
    ∃ t accepted,
      cfg.scalarUpdate (s.latchDatum altitude).1 idxHeight
        ((s.latchDatum altitude).2 - altitude) cfg.measNoiseBaro =
          some (t, accepted) ∧
      s' = cfg.correctBaroDatum (if accepted then { t with baroAgeS := lit 0 } else t) altitude
        (s.latchDatum altitude).2 := by
  simp only [EkfConfig.fuseAltitude, Option.bind_eq_bind, Option.bind_eq_some_iff] at h
  obtain ⟨⟨t, accepted⟩, hupdate, hs'⟩ := h
  cases hs'
  exact ⟨t, accepted, hupdate, rfl⟩

/-- A barometer reading is dropped, or its altitude is finite and fused. -/
theorem updateBaroState_cases [LibmPow F] {reading : SensorReading (BaroData F)}
    (h : cfg.updateBaroState s reading = some s') :
    s' = s ∨ ∃ altitude, Scalar.isFinite altitude = true ∧
      cfg.fuseAltitude s altitude = some s' := by
  unfold EkfConfig.updateBaroState at h
  split at h
  · exact .inl (Option.some.inj h).symm
  · split at h
    · exact .inl (Option.some.inj h).symm
    · split at h
      · exact .inl (Option.some.inj h).symm
      · next hfinite => exact .inr ⟨_, by simpa using hfinite, h⟩

/-- A magnetometer reading is dropped, or its heading is fused. -/
theorem updateMagState_cases {fuel : Nat} {reading : SensorReading (MagData F)}
    {declination : F} (h : cfg.updateMagState fuel s reading declination = some s') :
    s' = s ∨ ∃ innov r,
      cfg.magMeasurement fuel s reading declination = some (some (innov, r)) ∧
      cfg.headingUpdate s innov r = some s' := by
  simp only [EkfConfig.updateMagState, Option.bind_eq_bind, Option.bind_eq_some_iff] at h
  obtain ⟨measurement, hmeas, hs'⟩ := h
  cases measurement with
  | none => exact .inl (Option.some.inj hs').symm
  | some pair => exact .inr ⟨pair.1, pair.2, hmeas, hs'⟩

/-! ## A cycle -/

theorem observeGnss_cases {reading : SensorReading (GnssData F)}
    {overrides : Option SensorOverrides} {a : Acceptance}
    (h : cfg.observeGnss s reading overrides = some (s', a)) :
    (s' = s ∧ a = .none) ∨ ∃ reading', cfg.updateGnssState s reading' = some (s', a) := by
  unfold EkfConfig.observeGnss at h
  split at h
  · split at h
    · exact .inr ⟨_, h⟩
    · cases h
      exact .inl ⟨rfl, rfl⟩
  · split at h
    · exact .inr ⟨_, h⟩
    · cases h
      exact .inl ⟨rfl, rfl⟩

/-- A cycle is skipped for its time step, stops after ticking the ages, or runs the four
stages one after the other. -/
theorem observe_cases [LibmPow F] {fuel : Nat} {sensors : SensorSet F}
    {overrides : Option SensorOverrides} {dt : F} {a : Acceptance}
    (h : cfg.observe fuel s sensors overrides dt = some (s', a)) :
    (EkfConfig.validDt dt = false ∧ s' = s ∧ a = .none) ∨
      EkfConfig.validDt dt = true ∧
        ((s' = s.tickAidingAge dt ∧ a = .none) ∨ ∃ predicted t u,
          (predicted = s.tickAidingAge dt ∨
            predicted = cfg.predictState (s.tickAidingAge dt) sensors.imus[0].value dt) ∧
          cfg.observeGnss predicted sensors.gnss[0] overrides = some (t, a) ∧
          cfg.observeBaro t sensors.baros[0] = some u ∧
          cfg.observeMag fuel u sensors.mags[0] sensors.geomagnetic = some s') := by
  unfold EkfConfig.observe at h
  split at h
  · next hdt =>
    cases h
    exact .inl ⟨by simpa using hdt, rfl, rfl⟩
  · next hdt =>
    refine .inr ⟨by simpa using hdt, ?_⟩
    dsimp only at h
    split at h
    · cases h
      exact .inl ⟨rfl, rfl⟩
    · simp only [Option.bind_eq_bind, Option.bind_eq_some_iff] at h
      obtain ⟨⟨t, a'⟩, hgnss, u, hbaro, v, hmag, hs'⟩ := h
      cases hs'
      refine .inr ⟨_, t, u, ?_, hgnss, hbaro, hmag⟩
      split
      · exact .inr rfl
      · exact .inl rfl

/-! ## Calls -/

/-- A call into the estimator. -/
inductive EstimatorCall (F : Type) where
  | init (pos vel : Vector3 F) (quat : Quaternion F)
  | observe (sensors : SensorSet F) (overrides : Option SensorOverrides) (dt : F)
  | reset

/-- A call that returned, with what GNSS was accepted on in it. -/
structure ReturnedCall (F : Type) where
  call : EstimatorCall F
  acceptance : Acceptance

/-- Sequences of calls that return. An observation returns when its loops end and no clamp
panics. -/
def EkfConfig.calls [LibmPow F] (cfg : EkfConfig F) :
    TransitionSystem (EkfState F) (ReturnedCall F) where
  step s c s' :=
    match c.call with
    | .init pos vel quat => s' = s.init pos vel quat ∧ c.acceptance = .none
    | .observe sensors overrides dt =>
      ∃ fuel, cfg.observe fuel s sensors overrides dt = some (s', c.acceptance)
    | .reset => s' = s.reset ∧ c.acceptance = .none

end Aviate

end EstimatorStages

section EstimatorFinite

/-!
# Finite states

In exact arithmetic nothing the filter does to finite numbers leads out of them: every
quotient it takes is guarded, every quaternion is sanitized and every reading is checked
before it is fused. Readings that are not finite are part of the inputs.

Results:
1. Each operation keeps a finite state finite (`FiniteState.scalarUpdate`,
   `FiniteState.headingUpdate`, `FiniteState.propagate`, …).
2. A call that returns is a sequence of the operations that change the filter, each with
   finite arguments (`call_operations`), and so is a run (`run_operations`).
-/

namespace Aviate

variable {K : Type}

/-! ## Finite values -/

protected def Vector3.Finite (v : Vector3 (ExactFloat K)) : Prop :=
  v.x.isFinite = true ∧ v.y.isFinite = true ∧ v.z.isFinite = true

protected def Quaternion.Finite (q : Quaternion (ExactFloat K)) : Prop :=
  q.w.isFinite = true ∧ q.x.isFinite = true ∧ q.y.isFinite = true ∧ q.z.isFinite = true

def EkfConfig.map {F G : Type} (f : F → G) (cfg : EkfConfig F) : EkfConfig G where
  processNoiseGyro := f cfg.processNoiseGyro
  processNoiseAccel := f cfg.processNoiseAccel
  processNoiseGyroBias := f cfg.processNoiseGyroBias
  processNoiseAccelBias := f cfg.processNoiseAccelBias
  gyroBiasLimit := f cfg.gyroBiasLimit
  accelBiasLimit := f cfg.accelBiasLimit
  measNoiseGnssPos := f cfg.measNoiseGnssPos
  measNoiseGnssVel := f cfg.measNoiseGnssVel
  measNoiseBaro := f cfg.measNoiseBaro
  measNoiseMag := f cfg.measNoiseMag
  innovationGate := f cfg.innovationGate
  magInclinationDecayStart := f cfg.magInclinationDecayStart
  magInclinationLimit := f cfg.magInclinationLimit
  magFieldMin := f cfg.magFieldMin
  magFieldMax := f cfg.magFieldMax

/-- A configuration of numbers. -/
abbrev EkfConfig.exact (cfg : EkfConfig K) : EkfConfig (ExactFloat K) := cfg.map .fin

/-- What the filter computes with is finite. -/
structure FiniteState (s : EkfState (ExactFloat K)) : Prop where
  quat : s.quat.Finite
  pos : s.pos.Finite
  vel : s.vel.Finite
  gyroBias : s.gyroBias.Finite
  accelBias : s.accelBias.Finite
  pCov : Mat.Finite s.pCov
  baroRef : ∀ d, s.baroRef = some d → d.isFinite = true
  baroRefVar : s.baroRefVar.isFinite = true
  imuAgeS : s.imuAgeS.isFinite = true
  accelClipS : s.accelClipS.isFinite = true

/-- A 3×3 matrix of finite entries. -/
theorem finite_threeByThree {a b c d e f g h i : ExactFloat K}
    (hrow₁ : a.isFinite = true ∧ b.isFinite = true ∧ c.isFinite = true)
    (hrow₂ : d.isFinite = true ∧ e.isFinite = true ∧ f.isFinite = true)
    (hrow₃ : g.isFinite = true ∧ h.isFinite = true ∧ i.isFinite = true) :
    Mat.Finite #v[#v[a, b, c], #v[d, e, f], #v[g, h, i]] := by
  intro row col
  match row, col with
  | 0, 0 => exact hrow₁.1
  | 0, 1 => exact hrow₁.2.1
  | 0, 2 => exact hrow₁.2.2
  | 1, 0 => exact hrow₂.1
  | 1, 1 => exact hrow₂.2.1
  | 1, 2 => exact hrow₂.2.2
  | 2, 0 => exact hrow₃.1
  | 2, 1 => exact hrow₃.2.1
  | 2, 2 => exact hrow₃.2.2

variable [Field K] [LinearOrder K] {s t : EkfState (ExactFloat K)} {v w : Vector3 (ExactFloat K)}
  {q r : Quaternion (ExactFloat K)} {x y innov noise : ExactFloat K}

theorem Vector3.Finite.add (hv : v.Finite) (hw : w.Finite) : (v.add w).Finite := by
  obtain ⟨hvx, hvy, hvz⟩ := hv
  obtain ⟨hwx, hwy, hwz⟩ := hw
  simp [Vector3.Finite, Vector3.add, hvx, hvy, hvz, hwx, hwy, hwz]

theorem Quaternion.Finite.rotateVector (hq : q.Finite) (hv : v.Finite) :
    (q.rotateVector v).Finite := by
  obtain ⟨hw, hx, hy, hz⟩ := hq
  obtain ⟨hvx, hvy, hvz⟩ := hv
  simp [Vector3.Finite, Quaternion.rotateVector, hw, hx, hy, hz, hvx, hvy, hvz]

theorem Quaternion.Finite.toRotationMatrix (hq : q.Finite) : q.toRotationMatrix.Finite := by
  obtain ⟨hw, hx, hy, hz⟩ := hq
  apply finite_threeByThree <;> simp [hw, hx, hy, hz]

theorem Vector3.Finite.skewSymmetric (hv : v.Finite) : v.skewSymmetric.Finite := by
  obtain ⟨hx, hy, hz⟩ := hv
  apply finite_threeByThree <;> simp [hx, hy, hz]

theorem finite_clamp {lo hi : ExactFloat K} (hx : x.isFinite = true) (hlo : lo.isFinite = true)
    (hhi : hi.isFinite = true) : (Scalar.clamp x lo hi).isFinite = true := by
  unfold Scalar.clamp
  split
  · exact hlo
  · split
    · exact hhi
    · exact hx

theorem Vector3.Finite.clamp {limit : ExactFloat K} (hv : v.Finite)
    (hlimit : limit.isFinite = true) (h : v.clamp limit = some w) : w.Finite := by
  unfold Vector3.clamp at h
  split at h
  · cases h
    have hneg : (-limit).isFinite = true := ExactFloat.isFinite_neg.trans hlimit
    exact ⟨finite_clamp hv.1 hneg hlimit, finite_clamp hv.2.1 hneg hlimit,
      finite_clamp hv.2.2 hneg hlimit⟩
  · cases h

/-- A quotient by a number above a positive bound. -/
theorem isFinite_div_of_le [IsStrictOrderedRing K] (bound : K) (hbound : 0 < bound)
    (hx : x.isFinite = true) (hy : y.isFinite = true) (hle : y.lt (.fin bound) = false) :
    (x / y).isFinite = true := by
  obtain ⟨b, rfl⟩ := ExactFloat.isFinite_iff.mp hy
  have hb : bound ≤ b := by simpa using hle
  exact ExactFloat.isFinite_div hx hy (by simpa using (hbound.trans_le hb).ne')

/-! ## Ages and widening -/

/-- A time step the filter acts on is a positive number. -/
theorem validDt_iff : EkfConfig.validDt x = true ↔ ∃ d, x = .fin d ∧ 0 < d := by
  cases x with
  | fin d => simp [EkfConfig.validDt]
  | posInf => exact ⟨nofun, by rintro ⟨d, hd, -⟩; cases hd⟩
  | negInf => exact ⟨nofun, by rintro ⟨d, hd, -⟩; cases hd⟩
  | nan => exact ⟨nofun, by rintro ⟨d, hd, -⟩; cases hd⟩

theorem imuIsFinite_iff {imu : ImuData (ExactFloat K)} :
    imuIsFinite imu = true ↔
      (∀ i : Fin 3, imu.gyro[i].isFinite = true) ∧ ∀ i : Fin 3, imu.accel[i].isFinite = true := by
  have hall : ∀ v : Vector (ExactFloat K) 3, v.toList.all Scalar.isFinite = true ↔
      ∀ i : Fin 3, v[i].isFinite = true := by
    intro v
    simp [Fin.forall_iff]
  rw [imuIsFinite, Bool.and_eq_true, hall, hall]

theorem FiniteState.tickAidingAge (hs : FiniteState s) (hx : EkfConfig.validDt x = true) :
    FiniteState (s.tickAidingAge x) := by
  obtain ⟨d, rfl, -⟩ := validDt_iff.mp hx
  unfold EkfState.tickAidingAge
  split
  · exact hs
  · exact { hs with imuAgeS := ExactFloat.isFinite_min (by simp [hs.imuAgeS]) rfl }

theorem FiniteState.widenMotion (hs : FiniteState s) (hx : x.isFinite = true)
    (hy : y.isFinite = true) : FiniteState (s.widenMotion x y) := by
  unfold EkfState.widenMotion
  exact { hs with pCov := Mat.finite_widenDiagonal (Mat.finite_widenDiagonal hs.pCov hx) hy }

theorem FiniteState.widenForImuGap (hs : FiniteState s) (hx : EkfConfig.validDt x = true) :
    FiniteState (s.widenForImuGap x) := by
  obtain ⟨d, rfl, -⟩ := validDt_iff.mp hx
  have hgap : (ExactFloat.min (s.imuAgeS - ExactFloat.fin d) imuGapCeilingS).isFinite = true :=
    ExactFloat.isFinite_min (by simp [hs.imuAgeS]) rfl
  unfold EkfState.widenForImuGap
  dsimp only
  split
  · exact { hs with imuAgeS := rfl }
  · apply FiniteState.widenMotion
    · refine { hs with imuAgeS := rfl, pCov := Mat.finite_widenDiagonal hs.pCov ?_ }
      simp [imuGapRateSigma, hgap]
    · simp [imuGapAccelSigma, hgap]
    · simp [imuGapAccelSigma, hgap]

theorem FiniteState.widenForAccelClip {accel : Vector (ExactFloat K) 3} (hs : FiniteState s)
    (hx : EkfConfig.validDt x = true) : FiniteState (s.widenForAccelClip accel x) := by
  obtain ⟨d, rfl, -⟩ := validDt_iff.mp hx
  have hafter :
      (ExactFloat.min (s.accelClipS + ExactFloat.fin d) accelClipCeilingS).isFinite = true :=
    ExactFloat.isFinite_min (by simp [hs.accelClipS]) rfl
  unfold EkfState.widenForAccelClip
  split
  · exact { hs with accelClipS := rfl }
  · apply FiniteState.widenMotion
    · exact { hs with accelClipS := hafter }
    · simp [EkfState.clipVelVar, accelClipExcessSigma, hafter, hs.accelClipS]
    · simp [EkfState.clipPosVar, EkfState.clipVelVar, accelClipExcessSigma, hafter,
        hs.accelClipS]

/-! ## Attitude -/

/-- A quaternion of finite norm is finite. -/
theorem Quaternion.finite_of_normSq (h : q.normSq.isFinite = true) : q.Finite := by
  simp only [Quaternion.normSq, ExactFloat.isFinite_add, ExactFloat.isFinite_mul,
    Bool.and_self, Bool.and_eq_true] at h
  obtain ⟨⟨⟨hw, hx⟩, hy⟩, hz⟩ := h
  exact ⟨hw, hx, hy, hz⟩

theorem Quaternion.finite_identity : (Quaternion.identity : Quaternion (ExactFloat K)).Finite :=
  ⟨rfl, rfl, rfl, rfl⟩

theorem finite_initialCovariance :
    Mat.Finite (initialCovariance : Mat (ExactFloat K) stateDim stateDim) := by
  refine Mat.finite_ofFn fun r c => ?_
  split
  · rfl
  · split
    · rfl
    · split <;> rfl

variable [Libm (ExactFloat K)]

/-- A sanitized quaternion is finite, whatever it was. -/
theorem finite_sanitizeQuat : (s.sanitizeQuat q).2.Finite := by
  unfold EkfState.sanitizeQuat
  dsimp only
  split
  · exact Quaternion.finite_identity
  · next hnorm =>
    simp only [Quaternion.isNormalized, isFinite_exact, Bool.not_eq_true', Bool.not_eq_false,
      Bool.and_eq_true] at hnorm
    exact Quaternion.finite_of_normSq hnorm.1

theorem FiniteState.sanitizeQuat (hs : FiniteState s) : FiniteState (s.sanitizeQuat q).1 := by
  unfold EkfState.sanitizeQuat
  dsimp only
  split
  · exact { hs with }
  · exact hs

theorem FiniteState.rotateAttitude (hs : FiniteState s) : FiniteState (s.rotateAttitude v) :=
  { hs.sanitizeQuat.sanitizeQuat with quat := finite_sanitizeQuat }

/-! ## Prediction -/

omit [Libm (ExactFloat K)] in
theorem FiniteState.accelEarth {imu : ImuData (ExactFloat K)} (hs : FiniteState s)
    (himu : imuIsFinite imu = true) : (s.accelEarth imu).Finite := by
  obtain ⟨-, haccel⟩ := imuIsFinite_iff.mp himu
  obtain ⟨hx, hy, hz⟩ := hs.accelBias
  have h₀ : imu.accel[0].isFinite = true := haccel 0
  have h₁ : imu.accel[1].isFinite = true := haccel 1
  have h₂ : imu.accel[2].isFinite = true := haccel 2
  refine hs.quat.rotateVector ?_
  simp [Vector3.Finite, h₀, h₁, h₂, hx, hy, hz]

omit [Libm (ExactFloat K)] in
theorem finite_transition {rotation : Mat (ExactFloat K) 3 3} (hv : v.Finite)
    (hrotation : rotation.Finite) (hx : x.isFinite = true) :
    (EkfConfig.transition v rotation x).Finite := by
  have hscaled : ∀ a : Mat (ExactFloat K) 3 3, a.Finite →
      (Mat.ofFn fun r c => -(Mat.get a r c) * x).Finite := by
    intro a ha
    exact Mat.finite_ofFn fun r c => by simp [ha r c, hx]
  refine Mat.finite_setBlock (Mat.finite_setBlock (Mat.finite_setBlock ?_ ?_) ?_) ?_
  · exact Mat.finite_setDiagonal Mat.finite_identity hx
  · exact hscaled _ hv.skewSymmetric
  · exact hscaled _ hrotation
  · exact hscaled _ hrotation

variable {cfg : EkfConfig K}

omit [Libm (ExactFloat K)] in
theorem finite_processNoise (cfg : EkfConfig K) (hx : x.isFinite = true) :
    (cfg.exact.processNoise x).Finite := by
  have hnoise : ∀ n : K, (ExactFloat.fin n * x).isFinite = true := by
    intro n
    simp [hx]
  refine Mat.finite_setDiagonal (Mat.finite_setDiagonal (Mat.finite_setDiagonal
    (Mat.finite_setDiagonal (Mat.finite_setDiagonal Mat.finite_zero rfl) ?_) ?_) ?_) ?_
  · exact ExactFloat.isFinite_mul.trans (by simp [hx, EkfConfig.map])
  · exact ExactFloat.isFinite_mul.trans (by simp [hx, EkfConfig.map])
  · exact hnoise _
  · exact hnoise _

omit [Libm (ExactFloat K)] in
theorem finite_predictCovariance {p : Mat (ExactFloat K) stateDim stateDim}
    {rotation : Mat (ExactFloat K) 3 3} (hp : p.Finite) (hv : v.Finite)
    (hrotation : rotation.Finite) (hx : x.isFinite = true) :
    (cfg.exact.predictCovariance p v rotation x).Finite := by
  have htransition := finite_transition hv hrotation hx
  refine Mat.finite_makeSymmetric (Mat.finite_add ?_ (finite_processNoise cfg hx))
  exact Mat.finite_mul (Mat.finite_mul htransition hp) (Mat.finite_transpose htransition)

omit [Libm (ExactFloat K)] in
theorem FiniteState.integrateMotion {imu : ImuData (ExactFloat K)} (hs : FiniteState s)
    (himu : imuIsFinite imu = true) (hx : x.isFinite = true) :
    FiniteState (s.integrateMotion imu x) := by
  obtain ⟨hax, hay, haz⟩ := hs.accelEarth himu
  obtain ⟨hpx, hpy, hpz⟩ := hs.pos
  obtain ⟨hvx, hvy, hvz⟩ := hs.vel
  refine { hs with pos := ?_, vel := ?_ }
  · simp [EkfState.integrateMotion, Vector3.Finite, hax, hay, haz, hpx, hpy, hpz, hvx, hvy, hvz,
      hx]
  · simp [EkfState.integrateMotion, Vector3.Finite, hax, hay, haz, hvx, hvy, hvz, hx]

theorem FiniteState.integrate {imu : ImuData (ExactFloat K)} (hs : FiniteState s)
    (himu : imuIsFinite imu = true) (hx : x.isFinite = true) : FiniteState (s.integrate imu x) := by
  unfold EkfState.integrate
  exact { (hs.integrateMotion himu hx).sanitizeQuat with quat := finite_sanitizeQuat }

theorem FiniteState.propagate {imu : ImuData (ExactFloat K)} (hs : FiniteState s)
    (himu : imuIsFinite imu = true) (hx : x.isFinite = true) :
    FiniteState (cfg.exact.propagate s imu x) := by
  have hnext := hs.integrate himu hx
  refine { hnext with pCov := ?_ }
  exact finite_predictCovariance hnext.pCov (hs.accelEarth himu) hnext.quat.toRotationMatrix hx

/-! ## Scalar updates -/

section Updates

variable {k : Vector (ExactFloat K) stateDim} {idx : Fin stateDim}

omit [Libm (ExactFloat K)] in
theorem finite_correction {base : Nat} {h : base + 3 ≤ stateDim}
    (hk : ∀ i : Fin stateDim, k[i].isFinite = true) (hinnov : innov.isFinite = true) :
    (EkfState.correction k innov base h).Finite := by
  have h₀ : k[base].isFinite = true := hk ⟨base, by omega⟩
  have h₁ : k[base + 1].isFinite = true := hk ⟨base + 1, by omega⟩
  have h₂ : k[base + 2].isFinite = true := hk ⟨base + 2, by omega⟩
  simp [EkfState.correction, Vector3.Finite, h₀, h₁, h₂, hinnov]

omit [Libm (ExactFloat K)] in
/-- The gain of an innovation whose variance is not too small is finite. -/
theorem FiniteState.kalmanGain [IsStrictOrderedRing K] (hs : FiniteState s)
    (hnoise : noise.isFinite = true)
    (hvariance : Scalar.lt (s.innovationVariance idx noise) (lit (1 / 1000000000)) = false)
    (i : Fin stateDim) :
    (s.kalmanGain idx (s.innovationVariance idx noise))[i].isFinite = true := by
  have hfinite : (s.innovationVariance idx noise).isFinite = true := by
    simp [EkfState.innovationVariance, hs.pCov idx idx, hnoise]
  have hinverse : (lit 1 / s.innovationVariance idx noise).isFinite = true :=
    isFinite_div_of_le ((1 / 1000000000 : ℚ) : K) (by norm_num) rfl hfinite hvariance
  have hentry : (s.kalmanGain idx (s.innovationVariance idx noise))[i] =
      Mat.get s.pCov i idx * (lit 1 / s.innovationVariance idx noise) := by
    simp [EkfState.kalmanGain]
  rw [hentry, ExactFloat.isFinite_mul, hs.pCov i idx, hinverse]
  rfl

omit [Libm (ExactFloat K)] in
theorem finite_josephResidual (idx : Fin stateDim) (hk : ∀ i : Fin stateDim, k[i].isFinite = true) :
    (EkfConfig.josephResidual k idx).Finite := by
  refine Mat.finite_ofFn fun r c => ?_
  split
  · split <;> simpa using hk r
  · exact Mat.finite_identity r c

omit [Libm (ExactFloat K)] in
theorem finite_josephForm {p : Mat (ExactFloat K) stateDim stateDim} (idx : Fin stateDim)
    (hp : p.Finite) (hk : ∀ i : Fin stateDim, k[i].isFinite = true)
    (hnoise : noise.isFinite = true) :
    (EkfConfig.josephForm p k idx noise).Finite := by
  have ha := finite_josephResidual idx hk
  refine Mat.finite_ofFn fun r c => ?_
  have hproduct := Mat.finite_mul (Mat.finite_mul ha hp) (Mat.finite_transpose ha) r c
  rw [ExactFloat.isFinite_add, hproduct, ExactFloat.isFinite_mul, ExactFloat.isFinite_mul, hk r,
    hk c, hnoise]
  rfl

omit [Libm (ExactFloat K)] in
theorem finite_josephScalarCovUpdate {p : Mat (ExactFloat K) stateDim stateDim} (hp : p.Finite)
    (hk : ∀ i : Fin stateDim, k[i].isFinite = true) (hnoise : noise.isFinite = true) :
    (EkfConfig.josephScalarCovUpdate p k idx noise).Finite :=
  Mat.finite_floorDiagonal (Mat.finite_makeSymmetric (finite_josephForm idx hp hk hnoise))

omit [Libm (ExactFloat K)] in
theorem FiniteState.clampBiases (hs : FiniteState s) (h : cfg.exact.clampBiases s = some t) :
    FiniteState t := by
  obtain ⟨gyroBias, accelBias, hgyro, haccel, rfl⟩ := clampBiases_cases h
  exact { hs with
    gyroBias := hs.gyroBias.clamp rfl hgyro
    accelBias := hs.accelBias.clamp rfl haccel }

omit [Libm (ExactFloat K)] in
theorem FiniteState.correctMotion (hs : FiniteState s)
    (hk : ∀ i : Fin stateDim, k[i].isFinite = true) (hinnov : innov.isFinite = true) :
    FiniteState (s.correctMotion k innov) :=
  { hs with
    pos := hs.pos.add (finite_correction hk hinnov)
    vel := hs.vel.add (finite_correction hk hinnov) }

omit [Libm (ExactFloat K)] in
theorem FiniteState.correctGyroBias (hs : FiniteState s)
    (hk : ∀ i : Fin stateDim, k[i].isFinite = true) (hinnov : innov.isFinite = true) :
    FiniteState (s.correctGyroBias k innov) :=
  { hs with gyroBias := hs.gyroBias.add (finite_correction hk hinnov) }

omit [Libm (ExactFloat K)] in
theorem FiniteState.correctAccelBias (hs : FiniteState s)
    (hk : ∀ i : Fin stateDim, k[i].isFinite = true) (hinnov : innov.isFinite = true) :
    FiniteState (s.correctAccelBias k innov) :=
  { hs with accelBias := hs.accelBias.add (finite_correction hk hinnov) }

theorem FiniteState.correctAttitude (hs : FiniteState s) (k : Vector (ExactFloat K) stateDim)
    (innov : ExactFloat K) : FiniteState (s.correctAttitude k innov) := hs.rotateAttitude

omit [Field K] [LinearOrder K] [Libm (ExactFloat K)] in
/-- What a scalar measurement can be of is finite. -/
theorem FiniteState.measured {pred : ExactFloat K} (hs : FiniteState s)
    (h : s.measured idx = some pred) : pred.isFinite = true := by
  unfold EkfState.measured at h
  split at h
  · cases h
    exact hs.pos.1
  · cases h
    exact hs.pos.2.1
  · cases h
    exact hs.pos.2.2
  · cases h
    exact hs.vel.1
  · cases h
    exact hs.vel.2.1
  · cases h
    exact hs.vel.2.2
  · cases h

variable [IsStrictOrderedRing K]

theorem FiniteState.scalarUpdate {meas : ExactFloat K} {accepted : Bool} (hs : FiniteState s)
    (hmeas : meas.isFinite = true) (hnoise : noise.isFinite = true)
    (h : cfg.exact.scalarUpdate s idx meas noise = some (t, accepted)) : FiniteState t := by
  rcases scalarUpdate_cases h with ⟨-, rfl⟩ | ⟨-, pred, u, hpred, hvariance, -, hclamp, rfl⟩
  · exact hs
  · have hinnov : (meas - pred).isFinite = true := by simp [hmeas, hs.measured hpred]
    have hk := hs.kalmanGain hnoise hvariance
    have hcorrected := ((hs.correctMotion hk hinnov).correctGyroBias hk hinnov).correctAccelBias
      hk hinnov
    have hrotated := (hcorrected.clampBiases hclamp).correctAttitude
      (s.kalmanGain idx (s.innovationVariance idx noise)) (meas - pred)
    exact { hrotated with pCov := finite_josephScalarCovUpdate hrotated.pCov hk hnoise }

theorem FiniteState.headingUpdate (hs : FiniteState s) (hinnov : innov.isFinite = true)
    (hnoise : noise.isFinite = true) (h : cfg.exact.headingUpdate s innov noise = some t) :
    FiniteState t := by
  rcases headingUpdate_cases h with rfl | ⟨u, hvariance, -, hclamp, rfl⟩
  · exact hs
  · have hk := hs.kalmanGain hnoise hvariance
    have hrotated := (hs.correctMotion hk hinnov).correctAttitude
      (s.kalmanGain idxYaw (s.innovationVariance idxYaw noise)) innov
    have hclamped := (hrotated.correctAccelBias hk hinnov).clampBiases hclamp
    exact { hclamped with pCov := finite_josephScalarCovUpdate hclamped.pCov hk hnoise }

end Updates

/-! ## Readings -/

omit [Libm (ExactFloat K)] in
theorem FiniteState.latchDatum {altitude : ExactFloat K} (hs : FiniteState s)
    (haltitude : altitude.isFinite = true) :
    FiniteState (s.latchDatum altitude).1 ∧ (s.latchDatum altitude).2.isFinite = true := by
  unfold EkfState.latchDatum
  split
  · next d hd => exact ⟨hs, hs.baroRef d hd⟩
  · have hdatum : (s.pos.z + altitude).isFinite = true := by simp [hs.pos.2.2, haltitude]
    refine ⟨{ hs with baroRef := ?_, baroRefVar := rfl }, hdatum⟩
    intro d hd
    cases hd
    exact hdatum

omit [Libm (ExactFloat K)] in
theorem FiniteState.correctBaroDatum [IsStrictOrderedRing K] {altitude datum : ExactFloat K}
    (hs : FiniteState s) (haltitude : altitude.isFinite = true)
    (hdatum : datum.isFinite = true) :
    FiniteState (cfg.exact.correctBaroDatum s altitude datum) := by
  have hvar : (s.baroRefVar + baroDatumProcessVar).isFinite = true := by
    simp [baroDatumProcessVar, hs.baroRefVar]
  have htotal : (s.baroRefVar + baroDatumProcessVar +
      (cfg.exact.measNoiseBaro + Mat.get s.pCov idxHeight idxHeight)).isFinite = true := by
    simp [hvar, EkfConfig.map, hs.pCov idxHeight idxHeight]
  unfold EkfConfig.correctBaroDatum
  dsimp only
  split
  · exact hs
  · next hlow =>
    have hk := isFinite_div_of_le ((1 / 1000000000 : ℚ) : K) (by norm_num) hvar htotal
      (by simpa using hlow)
    refine { hs with baroRef := ?_, baroRefVar := ?_ }
    · intro d hd
      cases hd
      simp only [ExactFloat.isFinite_add, ExactFloat.isFinite_mul, ExactFloat.isFinite_sub, hk,
        hdatum, haltitude, hs.pos.2.2]
      rfl
    · simp only [ExactFloat.isFinite_mul, ExactFloat.isFinite_sub, hk, hvar]
      rfl

end Aviate

end EstimatorFinite

section EstimatorAiding

/-!
# What the validity flags promise

The estimator reports the POSITION and the VELOCITY flag by the age of the last fusion of
that GNSS channel. The ages are ticked at the start of a cycle, cleared by the GNSS stage
and read when the estimate is taken.

Results:
1. A cycle ticks an age once, clears it if and only if all three axes of the channel were
   accepted, and touches it nowhere else (`observe_ages`).
2. Over every sequence of calls an age below saturation is the sum of the time steps since
   the accepting observation (`path_honest`).
3. A reported flag comes with the attitude flag, a finite quantity and an accepting
   observation at most five seconds of time steps ago (`flags_honest`).
-/

namespace Aviate

/-! ## The stages and the ages -/

section Stages

variable {F : Type} [Scalar F] [Libm F] {cfg : EkfConfig F} {s t s' : EkfState F}

/-- The fields the flags are read off that only a few stages write. -/
structure KeepsAges (s s' : EkfState F) : Prop where
  initialized : s'.initialized = s.initialized
  posAge : s'.gnssPosAgeS = s.gnssPosAgeS
  velAge : s'.gnssVelAgeS = s.gnssVelAgeS

omit [Scalar F] [Libm F] in
theorem KeepsAges.refl : KeepsAges s s := ⟨rfl, rfl, rfl⟩

omit [Scalar F] [Libm F] in
theorem KeepsAges.trans (hst : KeepsAges s t) (hts' : KeepsAges t s') : KeepsAges s s' :=
  ⟨hts'.initialized.trans hst.initialized, hts'.posAge.trans hst.posAge,
    hts'.velAge.trans hst.velAge⟩

theorem keepsAges_sanitizeQuat (q : Quaternion F) : KeepsAges s (s.sanitizeQuat q).1 := by
  unfold EkfState.sanitizeQuat
  dsimp only
  split
  · exact ⟨rfl, rfl, rfl⟩
  · exact .refl

theorem keepsAges_rotateAttitude (v : Vector3 F) : KeepsAges s (s.rotateAttitude v) := by
  have hfirst := keepsAges_sanitizeQuat (s := s)
    ⟨lit 1, v.x * lit (1 / 2), v.y * lit (1 / 2), v.z * lit (1 / 2)⟩
  exact (hfirst.trans (keepsAges_sanitizeQuat _)).trans ⟨rfl, rfl, rfl⟩

omit [Libm F] in
theorem keepsAges_clampBiases (h : cfg.clampBiases s = some s') : KeepsAges s s' := by
  simp only [EkfConfig.clampBiases, Option.bind_eq_bind, Option.bind_eq_some_iff] at h
  obtain ⟨gyroBias, -, accelBias, -, hs'⟩ := h
  cases hs'
  exact ⟨rfl, rfl, rfl⟩

theorem keepsAges_correctAttitude (k : Vector F stateDim) (innov : F) :
    KeepsAges s (s.correctAttitude k innov) := keepsAges_rotateAttitude _

theorem keepsAges_scalarUpdate {idx : Fin stateDim} {meas r : F} {accepted : Bool}
    (h : cfg.scalarUpdate s idx meas r = some (s', accepted)) : KeepsAges s s' := by
  rcases scalarUpdate_cases h with ⟨-, rfl⟩ | ⟨-, pred, t, -, -, -, hclamp, rfl⟩
  · exact .refl
  · have hclamped : KeepsAges s t := by
      have := keepsAges_clampBiases hclamp
      exact ⟨this.initialized, this.posAge, this.velAge⟩
    have hrotated := hclamped.trans (keepsAges_correctAttitude
      (s.kalmanGain idx (s.innovationVariance idx r)) (meas - pred))
    exact ⟨hrotated.initialized, hrotated.posAge, hrotated.velAge⟩

theorem keepsAges_headingUpdate {innov r : F} (h : cfg.headingUpdate s innov r = some s') :
    KeepsAges s s' := by
  rcases headingUpdate_cases h with rfl | ⟨t, -, -, hclamp, rfl⟩
  · exact .refl
  · have hrotated := keepsAges_correctAttitude
      (s := s.correctMotion (s.kalmanGain idxYaw (s.innovationVariance idxYaw r)) innov)
      (s.kalmanGain idxYaw (s.innovationVariance idxYaw r)) innov
    have hclamped := keepsAges_clampBiases hclamp
    exact ⟨hclamped.initialized.trans hrotated.initialized,
      hclamped.posAge.trans hrotated.posAge, hclamped.velAge.trans hrotated.velAge⟩

theorem keepsAges_fuseAxes {base : Nat} {meas : Vector F 3} {r : F} {hbase : base + 3 ≤ stateDim}
    {accepted : Bool} (h : cfg.fuseAxes s base meas r hbase = some (s', accepted)) :
    KeepsAges s s' := by
  obtain ⟨t, u, _, _, _, hfirst, hsecond, hthird, -⟩ := fuseAxes_cases h
  exact ((keepsAges_scalarUpdate hfirst).trans (keepsAges_scalarUpdate hsecond)).trans
    (keepsAges_scalarUpdate hthird)

theorem keepsAges_updateBaroState [LibmPow F] {reading : SensorReading (BaroData F)}
    (h : cfg.updateBaroState s reading = some s') : KeepsAges s s' := by
  rcases updateBaroState_cases h with rfl | ⟨altitude, -, hfuse⟩
  · exact .refl
  · obtain ⟨t, accepted, hupdate, rfl⟩ := fuseAltitude_cases hfuse
    have hlatch : KeepsAges s (s.latchDatum altitude).1 := by
      unfold EkfState.latchDatum
      split <;> exact ⟨rfl, rfl, rfl⟩
    have hcorrect : ∀ v : EkfState F, KeepsAges v
        (cfg.correctBaroDatum v altitude (s.latchDatum altitude).2) := by
      intro v
      unfold EkfConfig.correctBaroDatum
      dsimp only
      split <;> exact ⟨rfl, rfl, rfl⟩
    have haccept : KeepsAges t (if accepted then { t with baroAgeS := lit 0 } else t) := by
      split <;> exact ⟨rfl, rfl, rfl⟩
    exact ((hlatch.trans (keepsAges_scalarUpdate hupdate)).trans haccept).trans (hcorrect _)

theorem keepsAges_updateMagState {fuel : Nat} {reading : SensorReading (MagData F)}
    {declination : F} (h : cfg.updateMagState fuel s reading declination = some s') :
    KeepsAges s s' := by
  rcases updateMagState_cases h with rfl | ⟨innov, r, -, hheading⟩
  · exact .refl
  · exact keepsAges_headingUpdate hheading

theorem keepsAges_integrate (imu : ImuData F) (dt : F) : KeepsAges s (s.integrate imu dt) := by
  have hmoved : KeepsAges s (s.integrateMotion imu dt) := ⟨rfl, rfl, rfl⟩
  have hquat : ∀ (t : EkfState F) q, KeepsAges t { t with quat := q } :=
    fun _ _ => ⟨rfl, rfl, rfl⟩
  unfold EkfState.integrate
  exact (hmoved.trans (keepsAges_sanitizeQuat _)).trans (hquat _ _)

omit [Scalar F] [Libm F] in
theorem keepsAges_pCov (p : Mat F stateDim stateDim) : KeepsAges s { s with pCov := p } :=
  ⟨rfl, rfl, rfl⟩

theorem keepsAges_propagate {imu : ImuData F} {dt : F} :
    KeepsAges s (cfg.propagate s imu dt) := by
  unfold EkfConfig.propagate
  exact (keepsAges_integrate imu dt).trans (keepsAges_pCov _)

omit [Libm F] in
theorem keepsAges_widenForImuGap {dt : F} : KeepsAges s (s.widenForImuGap dt) := by
  have hclock : KeepsAges s { s with imuAgeS := lit 0 } := ⟨rfl, rfl, rfl⟩
  unfold EkfState.widenForImuGap
  dsimp only
  split
  · exact hclock
  · exact (hclock.trans (keepsAges_pCov _)).trans (keepsAges_pCov _)

omit [Libm F] in
theorem keepsAges_widenForAccelClip {accel : Vector F 3} {dt : F} :
    KeepsAges s (s.widenForAccelClip accel dt) := by
  have hclock : ∀ t, KeepsAges s { s with accelClipS := t } := fun _ => ⟨rfl, rfl, rfl⟩
  unfold EkfState.widenForAccelClip
  split
  · exact hclock _
  · exact (hclock _).trans (keepsAges_pCov _)

theorem keepsAges_predictState {imu : ImuData F} {dt : F} :
    KeepsAges s (cfg.predictState s imu dt) := by
  unfold EkfConfig.predictState
  split
  · exact .refl
  · split
    · exact .refl
    · split
      · exact .refl
      · exact (keepsAges_widenForImuGap.trans keepsAges_widenForAccelClip).trans
          keepsAges_propagate

/-- What a cycle's GNSS stage does to the ages. -/
structure ClearsAges (a : Acceptance) (s s' : EkfState F) : Prop where
  initialized : s'.initialized = s.initialized
  posAge : s'.gnssPosAgeS = if a.pos then lit 0 else s.gnssPosAgeS
  velAge : s'.gnssVelAgeS = if a.vel then lit 0 else s.gnssVelAgeS
  seeded : a.pos = true ∨ a.vel = true → s.initialized = true

omit [Libm F] in
theorem clearsAges_none (h : KeepsAges s s') : ClearsAges .none s s' :=
  ⟨h.initialized, h.posAge, h.velAge, by rintro (h | h) <;> cases h⟩

/-- GNSS clears the age of a channel exactly when all three axes were accepted. -/
theorem clearsAges_updateGnssState {reading : SensorReading (GnssData F)} {a : Acceptance}
    (h : cfg.updateGnssState s reading = some (s', a)) : ClearsAges a s s' := by
  rcases updateGnssState_cases h with ⟨rfl, rfl⟩ | ⟨hinit, -, t, u, hpos, hvel, rfl⟩
  · exact clearsAges_none .refl
  · have hposAges := keepsAges_fuseAxes hpos
    have hvelAges := keepsAges_fuseAxes hvel
    refine ⟨?_, ?_, ?_, fun _ => hinit⟩
    · rw [← hposAges.initialized]
      cases hp : a.pos <;> cases hv : a.vel <;> simp [hp] at hvelAges <;>
        exact hvelAges.initialized
    · rw [← hposAges.posAge]
      cases hp : a.pos <;> cases hv : a.vel <;> simp [hp] at hvelAges <;> exact hvelAges.posAge
    · rw [← hposAges.velAge]
      cases hp : a.pos <;> cases hv : a.vel <;> simp [hp] at hvelAges
      · exact hvelAges.velAge
      · rfl
      · exact hvelAges.velAge
      · rfl

/-- An age after the tick at the start of a cycle. -/
def tickedAge (s : EkfState F) (dt age : F) : F :=
  if s.initialized && EkfConfig.validDt dt then Scalar.min (age + dt) ageSaturationS else age

omit [Libm F] in
theorem tickAidingAge_ages (dt : F) :
    (s.tickAidingAge dt).initialized = s.initialized ∧
      (s.tickAidingAge dt).gnssPosAgeS = tickedAge s dt s.gnssPosAgeS ∧
      (s.tickAidingAge dt).gnssVelAgeS = tickedAge s dt s.gnssVelAgeS := by
  unfold EkfState.tickAidingAge tickedAge EkfConfig.validDt
  cases hinit : s.initialized <;> cases Scalar.isFinite dt <;> cases Scalar.le dt (lit 0) <;>
    simp [hinit]

/-- A cycle ticks the ages and clears those of the channels it accepted; nothing else in it
touches them. -/
theorem observe_ages [LibmPow F] {fuel : Nat} {sensors : SensorSet F}
    {overrides : Option SensorOverrides} {dt : F} {a : Acceptance}
    (h : cfg.observe fuel s sensors overrides dt = some (s', a)) :
    s'.initialized = s.initialized ∧
      s'.gnssPosAgeS = (if a.pos then lit 0 else tickedAge s dt s.gnssPosAgeS) ∧
      s'.gnssVelAgeS = (if a.vel then lit 0 else tickedAge s dt s.gnssVelAgeS) ∧
      (a.pos = true ∨ a.vel = true → s.initialized = true) := by
  obtain ⟨hinit, hpos, hvel⟩ := tickAidingAge_ages (s := s) dt
  rcases observe_cases h with ⟨hdt, rfl, rfl⟩ | ⟨-, ⟨rfl, rfl⟩ | hstages⟩
  · have hfrozen : ∀ age : F, tickedAge s' dt age = age := by simp [tickedAge, hdt]
    exact ⟨rfl, (hfrozen _).symm, (hfrozen _).symm, by rintro (h | h) <;> cases h⟩
  · exact ⟨hinit, hpos, hvel, by rintro (h | h) <;> cases h⟩
  · obtain ⟨predicted, t, u, hpredicted, hgnss, hbaro, hmag⟩ := hstages
    have hticked : KeepsAges (s.tickAidingAge dt) predicted := by
      rcases hpredicted with rfl | rfl
      · exact .refl
      · exact keepsAges_predictState
    have hcleared : ClearsAges a predicted t := by
      rcases observeGnss_cases hgnss with ⟨rfl, rfl⟩ | ⟨reading, hupdate⟩
      · exact clearsAges_none .refl
      · exact clearsAges_updateGnssState hupdate
    have hbaroAges : KeepsAges t u := by
      unfold EkfConfig.observeBaro at hbaro
      split at hbaro
      · exact keepsAges_updateBaroState hbaro
      · cases hbaro
        exact .refl
    have hmagAges : KeepsAges u s' := by
      unfold EkfConfig.observeMag at hmag
      split at hmag
      · exact keepsAges_updateMagState hmag
      · cases hmag
        exact .refl
    have hrest := hbaroAges.trans hmagAges
    refine ⟨?_, ?_, ?_, fun ha => ?_⟩
    · rw [hrest.initialized, hcleared.initialized, hticked.initialized, hinit]
    · rw [hrest.posAge, hcleared.posAge, hticked.posAge, hpos]
    · rw [hrest.velAge, hcleared.velAge, hticked.velAge, hvel]
    · rw [← hinit, ← hticked.initialized]
      exact hcleared.seeded ha

end Stages

/-! ## Runs -/

section Runs

variable {K : Type} [Field K] [LinearOrder K] {s s' : EkfState (ExactFloat K)}
  {c : ReturnedCall (ExactFloat K)} {cs past : List (ReturnedCall (ExactFloat K))}
  {accepted : Acceptance → Bool} {dt age : ExactFloat K}

def EstimatorCall.isObserve {F : Type} : EstimatorCall F → Bool
  | observe _ _ _ => true
  | _ => false

/-- The time a call passes: the time step of an observation that acts on it. -/
def EstimatorCall.elapsed : EstimatorCall (ExactFloat K) → K
  | observe _ _ dt => if EkfConfig.validDt dt then dt.val else 0
  | _ => 0

/-- The last calls are an observation that was accepted and observations whose valid time
steps sum to `q`. -/
def AidedFor (accepted : Acceptance → Bool) (cs : List (ReturnedCall (ExactFloat K))) (q : K) :
    Prop :=
  ∃ before, ∃ c : ReturnedCall (ExactFloat K), ∃ after, cs = before ++ c :: after ∧
    c.call.isObserve = true ∧ accepted c.acceptance = true ∧
    (∀ d ∈ after, d.call.isObserve = true) ∧ (after.map (·.call.elapsed)).sum = q

/-- An age is exact until it saturates. -/
def Fresh (accepted : Acceptance → Bool) (initialized : Bool) (age : ExactFloat K)
    (past : List (ReturnedCall (ExactFloat K))) : Prop :=
  ∃ q, age = .fin q ∧ (q < 10000 → initialized = true ∧ AidedFor accepted past q)

theorem fresh_saturated {initialized : Bool} :
    Fresh accepted initialized (ageSaturationS : ExactFloat K) past := by
  refine ⟨10000, congrArg ExactFloat.fin (by norm_num), fun h => absurd h (lt_irrefl _)⟩

/-- The time since the accepting observation grows by what an observation passes. -/
theorem AidedFor.append {q : K} (sensors : SensorSet (ExactFloat K))
    (overrides : Option SensorOverrides) (dt : ExactFloat K) (a : Acceptance)
    (h : AidedFor accepted past q) :
    AidedFor accepted (past ++ [⟨.observe sensors overrides dt, a⟩])
      (q + (EstimatorCall.observe sensors overrides dt).elapsed) := by
  obtain ⟨before, c, after, rfl, hc, hacc, hafter, rfl⟩ := h
  refine ⟨before, c, after ++ [⟨.observe sensors overrides dt, a⟩], by simp, hc, hacc, ?_, ?_⟩
  · intro d hd
    rcases List.mem_append.mp hd with hd | hd
    · exact hafter d hd
    · rw [List.mem_singleton.mp hd]
      rfl
  · simp

/-- An observation that accepts starts a new age, and one that does not ticks the old. -/
theorem Fresh.observe [IsStrictOrderedRing K] {sensors : SensorSet (ExactFloat K)}
    {overrides : Option SensorOverrides} {a : Acceptance}
    (hage : Fresh accepted s.initialized age past)
    (hseeded : accepted a = true → s.initialized = true) :
    Fresh accepted s.initialized
      (if accepted a then lit 0 else tickedAge s dt age)
      (past ++ [⟨.observe sensors overrides dt, a⟩]) := by
  by_cases ha : accepted a = true
  · rw [if_pos ha]
    refine ⟨0, congrArg ExactFloat.fin Rat.cast_zero, fun _ => ⟨hseeded ha, ?_⟩⟩
    exact ⟨past, _, [], rfl, rfl, ha, by simp, rfl⟩
  · rw [if_neg ha, tickedAge]
    obtain ⟨q, rfl, hq⟩ := hage
    by_cases hdt : EkfConfig.validDt dt = true
    · obtain ⟨d, rfl, hd⟩ := validDt_iff.mp hdt
      have helapsed : (EstimatorCall.observe sensors overrides (.fin d)).elapsed = d := if_pos hdt
      cases hinit : s.initialized with
      | false =>
        -- An unseeded filter does not age: its ages are saturated.
        have hsaturated : ¬q < 10000 := by
          intro hlt
          rw [hinit] at hq
          cases (hq hlt).1
        exact ⟨q, by simp, fun hlt => absurd hlt hsaturated⟩
      | true =>
        refine ⟨min (q + d) 10000, ?_, fun hlt => ⟨rfl, ?_⟩⟩
        · rw [hdt]
          exact ExactFloat.min_fin.trans (by norm_num)
        · have hsum : q + d < 10000 := by
            by_contra hge
            rw [min_eq_right (not_lt.mp hge)] at hlt
            exact lt_irrefl _ hlt
          have haided := (hq (by linarith)).2.append sensors overrides (.fin d) a
          rw [min_eq_left hsum.le]
          rwa [helapsed] at haided
    · have hinvalid : EkfConfig.validDt dt = false := by simpa using hdt
      refine ⟨q, by simp [hinvalid], fun hlt => ⟨(hq hlt).1, ?_⟩⟩
      have hsame := (hq hlt).2.append sensors overrides dt a
      rwa [EstimatorCall.elapsed, if_neg hdt, add_zero] at hsame

variable [IsStrictOrderedRing K] [Libm (ExactFloat K)] [LibmPow (ExactFloat K)]
  {cfg : EkfConfig (ExactFloat K)}

/-- Both GNSS ages mean what they should. -/
structure HonestAges (s : EkfState (ExactFloat K))
    (past : List (ReturnedCall (ExactFloat K))) : Prop where
  pos : Fresh Acceptance.pos s.initialized s.gnssPosAgeS past
  vel : Fresh Acceptance.vel s.initialized s.gnssVelAgeS past

theorem step_honest (hstep : cfg.calls.step s c s') (hs : HonestAges s past) :
    HonestAges s' (past ++ [c]) := by
  obtain ⟨call, a⟩ := c
  cases call with
  | init pos vel quat =>
    obtain ⟨rfl, -⟩ := hstep
    exact ⟨fresh_saturated, fresh_saturated⟩
  | observe sensors overrides dt =>
    obtain ⟨fuel, hobserve⟩ := hstep
    obtain ⟨hinit, hpos, hvel, hseeded⟩ := observe_ages hobserve
    constructor
    · rw [hinit, hpos]
      exact hs.pos.observe fun ha => hseeded (.inl ha)
    · rw [hinit, hvel]
      exact hs.vel.observe fun ha => hseeded (.inr ha)
  | reset =>
    obtain ⟨rfl, -⟩ := hstep
    exact ⟨fresh_saturated, fresh_saturated⟩

/-- Over every run an age below saturation is the time since the accepting observation. -/
theorem path_honest (hrun : cfg.calls.Path s cs s') (hs : HonestAges s past) :
    HonestAges s' (past ++ cs) := by
  induction hrun generalizing past with
  | nil s => simpa using hs
  | cons hstep hpath ih => simpa using ih (step_honest hstep hs)

/-- What a reported flag promises of the calls so far: an observation accepted all three
axes of the channel, no initialization or reset came after it, and the valid time steps
since then sum to at most `limit`. -/
def AidedWithin (accepted : Acceptance → Bool) (limit : K)
    (cs : List (ReturnedCall (ExactFloat K))) : Prop :=
  ∃ q, q ≤ limit ∧ AidedFor accepted cs q

omit [Libm (ExactFloat K)] [LibmPow (ExactFloat K)] in
theorem Fresh.aidedWithin {initialized : Bool} (hage : Fresh accepted initialized age past)
    (hle : Scalar.le age (lit 5) = true) : AidedWithin accepted 5 past := by
  obtain ⟨q, rfl, hq⟩ := hage
  have hfive : q ≤ 5 := by simpa using hle
  exact ⟨q, hfive, (hq (by linarith)).2⟩

omit [Libm (ExactFloat K)] [LibmPow (ExactFloat K)] [IsStrictOrderedRing K] in
theorem validFlags_contains (s : EkfState (ExactFloat K)) :
    s.validFlags.contains StateValidFlags.attitude = s.attitudeValid ∧
      s.validFlags.contains StateValidFlags.position = s.positionValid ∧
      s.validFlags.contains StateValidFlags.velocity = s.velocityValid := by
  unfold EkfState.validFlags
  cases s.attitudeValid <;> cases s.positionValid <;> cases s.velocityValid <;> decide

omit [Libm (ExactFloat K)] [LibmPow (ExactFloat K)] [IsStrictOrderedRing K] in
theorem isFinite_toVector {v : Vector3 (ExactFloat K)} (hv : v.isFinite = true) (i : Fin 3) :
    v.toVector[i].isFinite = true := by
  simp only [Vector3.isFinite, isFinite_exact, Bool.and_eq_true] at hv
  obtain ⟨⟨hx, hy⟩, hz⟩ := hv
  match i with
  | 0 => exact hx
  | 1 => exact hy
  | 2 => exact hz

/-- A reported POSITION or VELOCITY flag comes with the attitude flag, a finite quantity, and
an observation that accepted the channel's three axes at most five seconds ago. -/
theorem flags_honest (hrun : cfg.calls.Path .new cs s) :
    (s.getEstimate.validFlags.contains StateValidFlags.position = true →
      s.getEstimate.validFlags.contains StateValidFlags.attitude = true ∧
      (∀ i : Fin 3, s.getEstimate.positionNed[i].isFinite = true) ∧
      AidedWithin Acceptance.pos 5 cs) ∧
    (s.getEstimate.validFlags.contains StateValidFlags.velocity = true →
      s.getEstimate.validFlags.contains StateValidFlags.attitude = true ∧
      (∀ i : Fin 3, s.getEstimate.velocityNed[i].isFinite = true) ∧
      AidedWithin Acceptance.vel 5 cs) := by
  have hstart : HonestAges (.new : EkfState (ExactFloat K)) [] :=
    ⟨fresh_saturated, fresh_saturated⟩
  have hages : HonestAges s cs := path_honest hrun hstart
  obtain ⟨hattitude, hposition, hvelocity⟩ := validFlags_contains s
  constructor
  · intro hflag
    have hvalid : s.positionValid = true := hposition ▸ hflag
    simp only [EkfState.positionValid, Bool.and_eq_true] at hvalid
    obtain ⟨⟨⟨hatt, hfinite⟩, haided⟩, -⟩ := hvalid
    exact ⟨hattitude.trans hatt, isFinite_toVector hfinite, hages.pos.aidedWithin haided⟩
  · intro hflag
    have hvalid : s.velocityValid = true := hvelocity ▸ hflag
    simp only [EkfState.velocityValid, Bool.and_eq_true] at hvalid
    obtain ⟨⟨⟨hatt, hfinite⟩, haided⟩, -⟩ := hvalid
    exact ⟨hattitude.trans hatt, isFinite_toVector hfinite, hages.vel.aidedWithin haided⟩

end Runs

end Aviate

end EstimatorAiding

section EstimatorOperations

/-!
# The operations of a run

A run of the estimator is a sequence of the operations that change the filter: seeding,
resetting, ticking, widening, propagating, updating and correcting the datum. Their
arguments are finite and their noises those of the configuration, whatever the readings are.

Results:
1. Every operation with admissible arguments keeps a finite state finite
   (`FilterOperation.apply_finite`).
2. A call that returns is a path of admissible operations (`call_reaches`), and so is a run
   (`run_reaches`).
-/

namespace Aviate

open TransitionSystem

/-- An operation that changes the filter, with its arguments. -/
inductive FilterOperation (F : Type) where
  | init (pos vel : Vector3 F) (quat : Quaternion F)
  | reset
  | tick (dt : F)
  | imuGap (dt : F)
  | accelClip (accel : Vector F 3) (dt : F)
  | propagate (imu : ImuData F) (dt : F)
  | scalar (idx : Fin stateDim) (meas noise : F)
  | heading (innov noise : F)
  | clearPosAge
  | clearVelAge
  | clearBaroAge
  | latchDatum (altitude : F)
  | correctDatum (altitude datum : F)

namespace FilterOperation

def apply {F : Type} [Scalar F] [Libm F] (cfg : EkfConfig F) (s : EkfState F) :
    FilterOperation F → Option (EkfState F)
  | init pos vel quat => some (s.init pos vel quat)
  | reset => some s.reset
  | tick dt => some (s.tickAidingAge dt)
  | imuGap dt => some (s.widenForImuGap dt)
  | accelClip accel dt => some (s.widenForAccelClip accel dt)
  | propagate imu dt => some (cfg.propagate s imu dt)
  | scalar idx meas noise => (cfg.scalarUpdate s idx meas noise).map Prod.fst
  | heading innov noise => cfg.headingUpdate s innov noise
  | clearPosAge => some { s with gnssPosAgeS := lit 0 }
  | clearVelAge => some { s with gnssVelAgeS := lit 0 }
  | clearBaroAge => some { s with baroAgeS := lit 0 }
  | latchDatum altitude => some (s.latchDatum altitude).1
  | correctDatum altitude datum => some (cfg.correctBaroDatum s altitude datum)

variable {K : Type} [Field K] [LinearOrder K]

/-- The arguments are finite, and a noise is one of the configuration. -/
def Admissible (cfg : EkfConfig K) : FilterOperation (ExactFloat K) → Prop
  | init pos vel quat => pos.Finite ∧ vel.Finite ∧ quat.Finite
  | tick dt => EkfConfig.validDt dt = true
  | imuGap dt => EkfConfig.validDt dt = true
  | accelClip _ dt => EkfConfig.validDt dt = true
  | propagate imu dt => imuIsFinite imu = true ∧ EkfConfig.validDt dt = true
  | scalar _ meas noise => meas.isFinite = true ∧
      ∃ r ∈ [cfg.measNoiseGnssPos, cfg.measNoiseGnssVel, cfg.measNoiseBaro], noise = .fin r
  | heading innov noise => innov.isFinite = true ∧
      ∃ r, (0 ≤ cfg.measNoiseMag → 0 ≤ r) ∧ noise = .fin r
  | latchDatum altitude => altitude.isFinite = true
  | correctDatum altitude datum => altitude.isFinite = true ∧ datum.isFinite = true
  | _ => True

end FilterOperation

/-- Sequences of operations. -/
def EkfConfig.operations {F : Type} [Scalar F] [Libm F] (cfg : EkfConfig F) :
    TransitionSystem (EkfState F) (FilterOperation F) where
  step s op s' := op.apply cfg s = some s'

variable {K : Type} [Field K] [LinearOrder K] [Libm (ExactFloat K)] {cfg : EkfConfig K}
  {s t u : EkfState (ExactFloat K)}

/-- A path of admissible operations. -/
def EkfConfig.Reaches (cfg : EkfConfig K) (s t : EkfState (ExactFloat K)) : Prop :=
  ∃ ops, cfg.exact.operations.Path s ops t ∧ ∀ op ∈ ops, op.Admissible cfg

namespace EkfConfig.Reaches

theorem refl : cfg.Reaches s s := ⟨[], .nil s, by simp⟩

theorem trans (hst : cfg.Reaches s t) (htu : cfg.Reaches t u) : cfg.Reaches s u := by
  obtain ⟨ops₁, hpath₁, hops₁⟩ := hst
  obtain ⟨ops₂, hpath₂, hops₂⟩ := htu
  refine ⟨ops₁ ++ ops₂, hpath₁.append hpath₂, fun op hop => ?_⟩
  rcases List.mem_append.mp hop with hop | hop
  · exact hops₁ op hop
  · exact hops₂ op hop

theorem single (op : FilterOperation (ExactFloat K)) (hop : op.apply cfg.exact s = some t)
    (hadmissible : op.Admissible cfg) : cfg.Reaches s t :=
  ⟨[op], .single hop, by simpa using hadmissible⟩

end EkfConfig.Reaches

omit [Libm (ExactFloat K)] in
theorem FiniteState.new : FiniteState (EkfState.new : EkfState (ExactFloat K)) where
  quat := Quaternion.finite_identity
  pos := ⟨rfl, rfl, rfl⟩
  vel := ⟨rfl, rfl, rfl⟩
  gyroBias := ⟨rfl, rfl, rfl⟩
  accelBias := ⟨rfl, rfl, rfl⟩
  pCov := finite_initialCovariance
  baroRef := fun d hd => by cases hd
  baroRefVar := rfl
  imuAgeS := rfl
  accelClipS := rfl

/-! ## Readings -/

/-- One axis of a channel. -/
theorem scalarUpdate_reaches {idx : Fin stateDim} {meas : ExactFloat K} {r : K}
    {accepted : Bool} (hmeas : meas.isFinite = true)
    (hr : r ∈ [cfg.measNoiseGnssPos, cfg.measNoiseGnssVel, cfg.measNoiseBaro])
    (h : cfg.exact.scalarUpdate s idx meas (.fin r) = some (t, accepted)) : cfg.Reaches s t :=
  .single (.scalar idx meas (.fin r)) (by simp [FilterOperation.apply, h])
    ⟨hmeas, r, hr, rfl⟩

theorem fuseAxes_reaches {base : Nat} {hbase : base + 3 ≤ stateDim}
    {meas : Vector (ExactFloat K) 3} {r : K} {accepted : Bool}
    (hmeas : ∀ i : Fin 3, meas[i].isFinite = true)
    (hr : r ∈ [cfg.measNoiseGnssPos, cfg.measNoiseGnssVel, cfg.measNoiseBaro])
    (h : cfg.exact.fuseAxes s base meas (.fin r) hbase = some (t, accepted)) :
    cfg.Reaches s t := by
  obtain ⟨u, v, _, _, _, hfirst, hsecond, hthird, -⟩ := fuseAxes_cases h
  exact ((scalarUpdate_reaches (hmeas 0) hr hfirst).trans
    (scalarUpdate_reaches (hmeas 1) hr hsecond)).trans (scalarUpdate_reaches (hmeas 2) hr hthird)

theorem updateGnssState_reaches {reading : SensorReading (GnssData (ExactFloat K))}
    {a : Acceptance} (h : cfg.exact.updateGnssState s reading = some (t, a)) :
    cfg.Reaches s t := by
  rcases updateGnssState_cases h with ⟨rfl, -⟩ | ⟨-, husable, u, v, hpos, hvel, rfl⟩
  · exact .refl
  · simp only [gnssUsable, Bool.and_eq_true] at husable
    obtain ⟨⟨-, hposFinite⟩, hvelFinite⟩ := husable
    have hposReach := fuseAxes_reaches (by simpa [Fin.forall_iff] using hposFinite) (by simp) hpos
    have hvelReach := fuseAxes_reaches (by simpa [Fin.forall_iff] using hvelFinite) (by simp) hvel
    have hposClear : cfg.Reaches u (if a.pos then { u with gnssPosAgeS := lit 0 } else u) := by
      split
      · exact .single .clearPosAge rfl trivial
      · exact .refl
    have hvelClear : cfg.Reaches v (if a.vel then { v with gnssVelAgeS := lit 0 } else v) := by
      split
      · exact .single .clearVelAge rfl trivial
      · exact .refl
    exact ((hposReach.trans hposClear).trans hvelReach).trans hvelClear

theorem updateBaroState_reaches [LibmPow (ExactFloat K)]
    {reading : SensorReading (BaroData (ExactFloat K))} (hs : FiniteState s)
    (h : cfg.exact.updateBaroState s reading = some t) : cfg.Reaches s t := by
  rcases updateBaroState_cases h with rfl | ⟨altitude, haltitude, hfuse⟩
  · exact .refl
  · obtain ⟨u, accepted, hupdate, rfl⟩ := fuseAltitude_cases hfuse
    obtain ⟨-, hdatum⟩ := hs.latchDatum haltitude
    have hlatch : cfg.Reaches s (s.latchDatum altitude).1 :=
      .single (.latchDatum altitude) rfl haltitude
    have hmeas : ((s.latchDatum altitude).2 - altitude).isFinite = true := by
      rw [ExactFloat.isFinite_sub, hdatum]
      exact haltitude
    have hscalar := scalarUpdate_reaches hmeas (by simp) hupdate
    have hclear : cfg.Reaches u (if accepted then { u with baroAgeS := lit 0 } else u) := by
      split
      · exact .single .clearBaroAge rfl trivial
      · exact .refl
    have hcorrect : ∀ v : EkfState (ExactFloat K), cfg.Reaches v
        (cfg.exact.correctBaroDatum v altitude (s.latchDatum altitude).2) := fun v =>
      .single (.correctDatum altitude (s.latchDatum altitude).2) rfl ⟨haltitude, hdatum⟩
    exact ((hlatch.trans hscalar).trans hclear).trans (hcorrect _)

theorem predictState_reaches {imu : ImuData (ExactFloat K)} {dt : ExactFloat K} :
    cfg.Reaches s (cfg.exact.predictState s imu dt) := by
  unfold EkfConfig.predictState
  split
  · exact .refl
  · split
    · exact .refl
    · next hgate =>
      have hdt : EkfConfig.validDt dt = true := by
        simpa [EkfConfig.validDt] using hgate
      split
      · exact .refl
      · next himu =>
        have hgap : cfg.Reaches s (s.widenForImuGap dt) := .single (.imuGap dt) rfl hdt
        have hclip : ∀ u : EkfState (ExactFloat K),
            cfg.Reaches u (u.widenForAccelClip imu.accel dt) := fun u =>
          .single (.accelClip imu.accel dt) rfl hdt
        have hpropagate : ∀ u : EkfState (ExactFloat K),
            cfg.Reaches u (cfg.exact.propagate u imu dt) := fun u =>
          .single (.propagate imu dt) rfl ⟨by simpa using himu, hdt⟩
        exact (hgap.trans (hclip _)).trans (hpropagate _)

/-! ## Heading -/

/-- The arithmetic of `libm` a heading needs: finite results at finite arguments, of the arc
sine inside its range. -/
structure FiniteLibm (K : Type) [Field K] [LinearOrder K] [Libm (ExactFloat K)] : Prop where
  sinf : ∀ x : ExactFloat K, x.isFinite = true → (sinf x).isFinite = true
  cosf : ∀ x : ExactFloat K, x.isFinite = true → (cosf x).isFinite = true
  asinf : ∀ x : K, |x| < 1 → (asinf (ExactFloat.fin x)).isFinite = true
  atan2f : ∀ y x : ExactFloat K, y.isFinite = true → x.isFinite = true →
    (atan2f y x).isFinite = true

theorem FiniteLibm.toEuler (hlibm : FiniteLibm K)
    {q : Quaternion (ExactFloat K)} (hq : q.Finite) :
    q.toEuler.1.isFinite = true ∧ q.toEuler.2.1.isFinite = true ∧
      q.toEuler.2.2.isFinite = true := by
  obtain ⟨hw, hx, hy, hz⟩ := hq
  refine ⟨?_, ?_, ?_⟩
  · exact hlibm.atan2f _ _ (by simp [hw, hx, hy, hz]) (by simp [hx, hy])
  · have hsinp : (lit 2 * (q.w * q.y - q.z * q.x)).isFinite = true := by simp [hw, hx, hy, hz]
    obtain ⟨a, ha⟩ := ExactFloat.isFinite_iff.mp hsinp
    simp only [Quaternion.toEuler, ha]
    split
    · split <;> rfl
    · next hrange =>
      have hlt : |a| < 1 := by
        have hle : ¬(((1 : ℚ) : K) ≤ |a|) := by simpa [ExactFloat.abs] using hrange
        simpa using hle
      exact hlibm.asinf a hlt
  · exact hlibm.atan2f _ _ (by simp [hw, hx, hy, hz]) (by simp [hy, hz])

theorem FiniteLibm.headingInnovation (hlibm : FiniteLibm K) {q : Quaternion (ExactFloat K)}
    {field : Vector (ExactFloat K) 3} {declination : ExactFloat K} (hq : q.Finite)
    (hfield : ∀ i : Fin 3, field[i].isFinite = true) (hdecl : declination.isFinite = true) :
    (EkfConfig.headingInnovation q field declination).isFinite = true := by
  obtain ⟨hroll, hpitch, hyaw⟩ := hlibm.toEuler hq
  have h₀ : field[0].isFinite = true := hfield 0
  have h₁ : field[1].isFinite = true := hfield 1
  have h₂ : field[2].isFinite = true := hfield 2
  have hatan := hlibm.atan2f
    (-(Libm.cosf q.toEuler.1 * field[1] - Libm.sinf q.toEuler.1 * field[2]))
    (Libm.cosf q.toEuler.2.1 * field[0] +
      Libm.sinf q.toEuler.2.1 * Libm.sinf q.toEuler.1 * field[1] +
      Libm.sinf q.toEuler.2.1 * Libm.cosf q.toEuler.1 * field[2])
    (by simp [h₁, h₂, hlibm.sinf _ hroll, hlibm.cosf _ hroll])
    (by simp [h₀, h₁, h₂, hlibm.sinf _ hroll, hlibm.cosf _ hroll, hlibm.sinf _ hpitch,
      hlibm.cosf _ hpitch])
  simp only [EkfConfig.headingInnovation, ExactFloat.isFinite_sub, ExactFloat.isFinite_add, hatan,
    hdecl, hyaw, Bool.and_self]

omit [Libm (ExactFloat K)] in
theorem wrapDown_finite {fuel : Nat} {x y : ExactFloat K} (hx : x.isFinite = true)
    (h : wrapDown fuel x = some y) : y.isFinite = true := by
  induction fuel generalizing x with
  | zero => cases h
  | succ fuel ih =>
    unfold wrapDown at h
    split at h
    · exact ih (by simp [hx, pi]) h
    · cases h
      exact hx

omit [Libm (ExactFloat K)] in
theorem wrapUp_finite {fuel : Nat} {x y : ExactFloat K} (hx : x.isFinite = true)
    (h : wrapUp fuel x = some y) : y.isFinite = true := by
  induction fuel generalizing x with
  | zero => cases h
  | succ fuel ih =>
    unfold wrapUp at h
    split at h
    · exact ih (by simp [hx, pi]) h
    · cases h
      exact hx

omit [Libm (ExactFloat K)] in
/-- A noise scaled by a weight above a tenth is a number of the same sign. -/
theorem magNoise {m : K} {weight : ExactFloat K} [IsStrictOrderedRing K]
    (h : Scalar.lt (lit (1 / 10)) weight = true) :
    ∃ r, (0 ≤ m → 0 ≤ r) ∧ ExactFloat.fin m / (weight * weight) = .fin r := by
  cases weight with
  | fin a =>
    have ha : ((1 / 10 : ℚ) : K) < a := by simpa using h
    have hpos : 0 < a := lt_trans (by norm_num) ha
    exact ⟨m / (a * a), fun hm => div_nonneg hm (mul_self_nonneg a),
      ExactFloat.fin_div_fin (mul_pos hpos hpos).ne'⟩
  | posInf =>
    have hsquare : (ExactFloat.posInf * ExactFloat.posInf : ExactFloat K) = .posInf := by
      show ExactFloat.infOfSign (1 * 1 : K) = _
      rw [ExactFloat.infOfSign, if_pos (by norm_num)]
    rw [hsquare]
    exact ⟨0, fun _ => le_rfl, rfl⟩
  | negInf => cases h
  | nan => cases h

/-- A field that has a weight is finite. -/
theorem fieldWeight_finite {field : Vector (ExactFloat K) 3}
    {weight : ExactFloat K} (h : cfg.exact.fieldWeight field = some weight) (i : Fin 3) :
    field[i].isFinite = true := by
  unfold EkfConfig.fieldWeight at h
  split at h
  · cases h
  · next hfinite =>
    have hall : field.toList.all Scalar.isFinite = true := by simpa using hfinite
    revert i
    simpa [Fin.forall_iff] using hall

/-- A heading that comes to be fused is finite, and so is its noise. -/
theorem magMeasurement_finite [IsStrictOrderedRing K] (hlibm : FiniteLibm K) {fuel : Nat}
    {reading : SensorReading (MagData (ExactFloat K))} {declination innov r : ExactFloat K}
    (hs : FiniteState s) (hdecl : declination.isFinite = true)
    (h : cfg.exact.magMeasurement fuel s reading declination = some (some (innov, r))) :
    innov.isFinite = true ∧ ∃ q, (0 ≤ cfg.measNoiseMag → 0 ≤ q) ∧ r = .fin q := by
  unfold EkfConfig.magMeasurement at h
  split at h
  · cases h
  · split at h
    · cases h
    · next weight hweight =>
      have hfield := fieldWeight_finite hweight
      simp only [Option.bind_eq_bind, Option.bind_eq_some_iff] at h
      obtain ⟨down, hdown, up, hup, h⟩ := h
      split at h
      · next hheavy =>
        cases h
        obtain ⟨q, hq, hr⟩ := magNoise (m := cfg.measNoiseMag) hheavy
        have hstart := hlibm.headingInnovation hs.quat hfield hdecl
        exact ⟨wrapUp_finite (wrapDown_finite hstart hdown) hup, q, hq, hr⟩
      · cases h

theorem updateMagState_reaches [IsStrictOrderedRing K] (hlibm : FiniteLibm K) {fuel : Nat}
    {reading : SensorReading (MagData (ExactFloat K))} {declination : ExactFloat K}
    (hs : FiniteState s) (hdecl : declination.isFinite = true)
    (h : cfg.exact.updateMagState fuel s reading declination = some t) : cfg.Reaches s t := by
  rcases updateMagState_cases h with rfl | ⟨innov, r, hmeas, hheading⟩
  · exact .refl
  · obtain ⟨hinnov, q, hq, rfl⟩ := magMeasurement_finite hlibm hs hdecl hmeas
    exact .single (.heading innov (.fin q)) hheading ⟨hinnov, q, hq, rfl⟩

/-! ## Finite states stay finite -/

section Ordered

variable [IsStrictOrderedRing K]

/-- An operation with admissible arguments keeps a finite state finite. -/
theorem FilterOperation.apply_finite {op : FilterOperation (ExactFloat K)} (hs : FiniteState s)
    (hop : op.Admissible cfg) (h : op.apply cfg.exact s = some t) : FiniteState t := by
  cases op with
  | init pos vel quat =>
    cases h
    obtain ⟨hpos, hvel, hquat⟩ := hop
    exact { FiniteState.new with pos := hpos, vel := hvel, quat := hquat }
  | reset =>
    cases h
    exact .new
  | tick dt =>
    cases h
    exact hs.tickAidingAge hop
  | imuGap dt =>
    cases h
    exact hs.widenForImuGap hop
  | accelClip accel dt =>
    cases h
    exact hs.widenForAccelClip hop
  | propagate imu dt =>
    cases h
    obtain ⟨d, rfl, -⟩ := validDt_iff.mp hop.2
    exact hs.propagate hop.1 rfl
  | scalar idx meas noise =>
    obtain ⟨hmeas, r, -, rfl⟩ := hop
    obtain ⟨⟨t', accepted⟩, hupdate, rfl⟩ := Option.map_eq_some_iff.mp h
    exact hs.scalarUpdate hmeas rfl hupdate
  | heading innov noise =>
    obtain ⟨hinnov, r, -, rfl⟩ := hop
    exact hs.headingUpdate hinnov rfl h
  | clearPosAge =>
    cases h
    exact { hs with }
  | clearVelAge =>
    cases h
    exact { hs with }
  | clearBaroAge =>
    cases h
    exact { hs with }
  | latchDatum altitude =>
    cases h
    exact (hs.latchDatum hop).1
  | correctDatum altitude datum =>
    cases h
    exact hs.correctBaroDatum hop.1 hop.2

theorem EkfConfig.Reaches.finite (hst : cfg.Reaches s t) (hs : FiniteState s) :
    FiniteState t := by
  obtain ⟨ops, hpath, hops⟩ := hst
  exact hpath.invariant (fun a op b hstep hop ha => op.apply_finite ha hop hstep) hops hs

/-! ## Calls -/

/-- The arguments of a call that are not sensor readings are numbers. -/
def EstimatorCall.Finite : EstimatorCall (ExactFloat K) → Prop
  | init pos vel quat => pos.Finite ∧ vel.Finite ∧ quat.Finite
  | observe sensors _ _ =>
    ∀ g, sensors.geomagnetic = some g → g.declination.isFinite = true
  | reset => True

variable [LibmPow (ExactFloat K)]

omit [IsStrictOrderedRing K] [LibmPow (ExactFloat K)] in
theorem observeGnss_reaches {reading : SensorReading (GnssData (ExactFloat K))}
    {overrides : Option SensorOverrides} {a : Acceptance}
    (h : cfg.exact.observeGnss s reading overrides = some (t, a)) : cfg.Reaches s t := by
  rcases observeGnss_cases h with ⟨rfl, -⟩ | ⟨reading', hupdate⟩
  · exact .refl
  · exact updateGnssState_reaches hupdate

omit [IsStrictOrderedRing K] in
theorem observeBaro_reaches {reading : SensorReading (BaroData (ExactFloat K))}
    (hs : FiniteState s) (h : cfg.exact.observeBaro s reading = some t) : cfg.Reaches s t := by
  unfold EkfConfig.observeBaro at h
  split at h
  · exact updateBaroState_reaches hs h
  · cases h
    exact .refl

omit [LibmPow (ExactFloat K)] in
theorem observeMag_reaches (hlibm : FiniteLibm K) {fuel : Nat}
    {reading : SensorReading (MagData (ExactFloat K))}
    {geomagnetic : Option (GeomagneticReference (ExactFloat K))} (hs : FiniteState s)
    (hdecl : ∀ g, geomagnetic = some g → g.declination.isFinite = true)
    (h : cfg.exact.observeMag fuel s reading geomagnetic = some t) : cfg.Reaches s t := by
  unfold EkfConfig.observeMag at h
  split at h
  · refine updateMagState_reaches hlibm hs ?_ h
    cases hgeo : geomagnetic with
    | none => rfl
    | some g => exact hdecl g hgeo
  · cases h
    exact .refl

/-- A cycle is a path of admissible operations, whatever the readings are. -/
theorem observe_reaches (hlibm : FiniteLibm K) {fuel : Nat} {sensors : SensorSet (ExactFloat K)}
    {overrides : Option SensorOverrides} {dt : ExactFloat K} {a : Acceptance}
    (hs : FiniteState s)
    (hdecl : ∀ g, sensors.geomagnetic = some g → g.declination.isFinite = true)
    (h : cfg.exact.observe fuel s sensors overrides dt = some (t, a)) : cfg.Reaches s t := by
  rcases observe_cases h with ⟨-, rfl, -⟩ | ⟨hdt, hticked⟩
  · exact .refl
  · have htick : cfg.Reaches s (s.tickAidingAge dt) := .single (.tick dt) rfl hdt
    rcases hticked with ⟨rfl, -⟩ | ⟨predicted, u, v, hpredicted, hgnss, hbaro, hmag⟩
    · exact htick
    · have hpredict : cfg.Reaches s predicted := by
        rcases hpredicted with rfl | rfl
        · exact htick
        · exact htick.trans predictState_reaches
      have hu := hpredict.trans (observeGnss_reaches hgnss)
      have hv := hu.trans (observeBaro_reaches (hu.finite hs) hbaro)
      exact hv.trans (observeMag_reaches hlibm (hv.finite hs) hdecl hmag)

/-- A call that returns is a path of admissible operations. -/
theorem call_reaches (hlibm : FiniteLibm K) {c : ReturnedCall (ExactFloat K)}
    (hs : FiniteState s) (hc : c.call.Finite) (h : cfg.exact.calls.step s c t) :
    cfg.Reaches s t := by
  obtain ⟨call, a⟩ := c
  cases call with
  | init pos vel quat =>
    obtain ⟨rfl, -⟩ := h
    exact .single (.init pos vel quat) rfl hc
  | observe sensors overrides dt =>
    obtain ⟨fuel, hobserve⟩ := h
    exact observe_reaches hlibm hs hc hobserve
  | reset =>
    obtain ⟨rfl, -⟩ := h
    exact .single .reset rfl trivial

/-- A run of calls is a path of admissible operations. -/
theorem run_reaches (hlibm : FiniteLibm K) {cs : List (ReturnedCall (ExactFloat K))}
    (hs : FiniteState s) (hcs : ∀ c ∈ cs, c.call.Finite) (hrun : cfg.exact.calls.Path s cs t) :
    cfg.Reaches s t := by
  induction hrun with
  | nil s => exact .refl
  | cons hstep hpath ih =>
    rw [List.forall_mem_cons] at hcs
    have hfirst := call_reaches hlibm hs hcs.1 hstep
    exact hfirst.trans (ih (hfirst.finite hs) hcs.2)

end Ordered

end Aviate

end EstimatorOperations

section EstimatorCovariance

/-!
# The covariance of the filter

In exact real arithmetic the covariance matrix stays symmetric and positive definite, and
the biases within their limits, over every run and after each operation of it.

Results:
1. Widening, prediction and the scalar updates keep the covariance positive definite
   (`posDef_widenDiagonal`, `posDef_predictCovariance`, `posDef_josephScalarCovUpdate`).
2. So does every admissible operation (`FilterOperation.apply_conditioned`).
3. In every run of calls the covariance is symmetric and positive semidefinite with a
   positive diagonal after each operation, and the biases are within their limits
   (`covariance_conditioned`).
-/

namespace Aviate

open TransitionSystem Matrix

variable {p : Mat (ExactFloat ℝ) stateDim stateDim} {x dt : ExactFloat ℝ}

/-! ## The initial covariance -/

theorem posDef_initialCovariance :
    (Mat.val (initialCovariance : Mat (ExactFloat ℝ) stateDim stateDim)).PosDef := by
  have hdiagonal : Mat.val (initialCovariance : Mat (ExactFloat ℝ) stateDim stateDim) =
      diagonal fun i => (Mat.get (initialCovariance : Mat (ExactFloat ℝ) _ _) i i).val := by
    ext r c
    rw [diagonal_apply]
    split
    · next h => rw [h, Mat.val_apply]
    · next h => simp [initialCovariance, Mat.get, h]
  rw [hdiagonal, posDef_diagonal_iff]
  intro i
  have hentry : Mat.get (initialCovariance : Mat (ExactFloat ℝ) stateDim stateDim) i i =
      if idxAb ≤ i.val ∧ i.val < idxAb + 3 then lit (4 / 100)
      else if idxGb ≤ i.val ∧ i.val < idxGb + 3 then lit (4 / 10000)
      else lit 1 * lit (1 / 10) := by
    simp [initialCovariance, Mat.get]
  rw [hentry]
  split
  · simp
  · split <;> simp

/-! ## Widening -/

/-- Widening by a number that is not negative. -/
theorem posDef_widenDiagonal {base : Nat} (hfinite : p.Finite) (hp : (Mat.val p).PosDef)
    (hx : x.isFinite = true) (hpos : 0 ≤ x.val) :
    (Mat.val (Mat.widenDiagonal p base x)).PosDef := by
  rw [Mat.val_widenDiagonal hfinite hx]
  refine Covariance.posDef_add_diagonal hp fun i => ?_
  show 0 ≤ if base ≤ i.val ∧ i.val < base + 3 then x.val else 0
  split
  · exact hpos
  · exact le_rfl

theorem val_mul_self_nonneg (hx : x.isFinite = true) : 0 ≤ (x * x).val := by
  rw [ExactFloat.val_mul hx hx]
  exact mul_self_nonneg _

/-! ## Prediction -/

/-- The transition adds to each state only multiples of later ones. -/
theorem transition_get {F : Type} [Scalar F] {v : Vector3 F} {rotation : Mat F 3 3} {d : F}
    {r c : Fin stateDim} (h : c ≤ r) :
    Mat.get (EkfConfig.transition v rotation d) r c = Mat.get Mat.identity r c := by
  have hle : c.val ≤ r.val := h
  simp only [EkfConfig.transition, Mat.setBlock, Mat.setDiagonal, Mat.get_ofFn, idxPos, idxVel,
    idxAtt, idxGb, idxAb]
  rw [dif_neg (by omega), dif_neg (by omega), dif_neg (by omega)]
  exact if_neg (by omega)

theorem blockTriangular_transition (v : Vector3 (ExactFloat ℝ))
    (rotation : Mat (ExactFloat ℝ) 3 3) (dt : ExactFloat ℝ) :
    (Mat.val (EkfConfig.transition v rotation dt)).BlockTriangular id := by
  intro r c (hlt : c < r)
  have hidentity : Mat.val (Mat.identity : Mat (ExactFloat ℝ) stateDim stateDim) r c = 0 := by
    rw [Mat.val_identity, one_apply_ne hlt.ne']
  rw [Mat.val_apply, transition_get hlt.le]
  exact hidentity

theorem transition_diagonal {v : Vector3 (ExactFloat ℝ)} {rotation : Mat (ExactFloat ℝ) 3 3}
    (i : Fin stateDim) : Mat.val (EkfConfig.transition v rotation dt) i i = 1 := by
  have hidentity : Mat.val (Mat.identity : Mat (ExactFloat ℝ) stateDim stateDim) i i = 1 := by
    rw [Mat.val_identity, one_apply_eq]
  rw [Mat.val_apply, transition_get le_rfl]
  exact hidentity

/-- Noise that is not negative. -/
structure EkfConfig.NonnegNoise (cfg : EkfConfig ℝ) : Prop where
  processNoiseGyro : 0 ≤ cfg.processNoiseGyro
  processNoiseAccel : 0 ≤ cfg.processNoiseAccel
  processNoiseGyroBias : 0 ≤ cfg.processNoiseGyroBias
  processNoiseAccelBias : 0 ≤ cfg.processNoiseAccelBias
  measNoiseGnssPos : 0 ≤ cfg.measNoiseGnssPos
  measNoiseGnssVel : 0 ≤ cfg.measNoiseGnssVel
  measNoiseBaro : 0 ≤ cfg.measNoiseBaro
  measNoiseMag : 0 ≤ cfg.measNoiseMag

variable {cfg : EkfConfig ℝ}

/-- Writing numbers that are not negative into a block of the diagonal. -/
theorem setDiagonal_nonneg {a : Mat (ExactFloat ℝ) stateDim stateDim} {q : ℝ} (base : Nat)
    (hq : 0 ≤ q) (ha : ∃ d, 0 ≤ d ∧ Mat.val a = diagonal d) :
    ∃ d, 0 ≤ d ∧ Mat.val (Mat.setDiagonal a base base (.fin q)) = diagonal d := by
  obtain ⟨d, hd, hval⟩ := ha
  refine ⟨fun i => if base ≤ i.val ∧ i.val < base + 3 then q else d i, fun i => ?_, ?_⟩
  · show 0 ≤ if base ≤ i.val ∧ i.val < base + 3 then q else d i
    split
    · exact hq
    · exact hd i
  · ext r c
    have hentry : (Mat.get a r c).val = diagonal d r c := congrFun (congrFun hval r) c
    rw [Mat.val_apply, Mat.setDiagonal, Mat.get_ofFn, diagonal_apply]
    by_cases hrc : r = c
    · subst hrc
      rw [if_pos rfl]
      by_cases hblock : base ≤ r.val ∧ r.val < base + 3
      · rw [if_pos ⟨hblock.1, hblock.2, rfl⟩, if_pos hblock]
        rfl
      · rw [if_neg fun h => hblock ⟨h.1, h.2.1⟩, if_neg hblock, hentry, diagonal_apply_eq]
    · have hoff : ¬(base ≤ r.val ∧ r.val < base + 3 ∧ c.val + base = r.val + base) :=
        fun h => hrc (Fin.ext (by omega))
      rw [if_neg hoff, if_neg hrc, hentry, diagonal_apply_ne _ hrc]

theorem processNoise_diagonal {d : ℝ} (hcfg : cfg.NonnegNoise) (hd : 0 < d) :
    ∃ q, 0 ≤ q ∧ Mat.val (cfg.exact.processNoise (.fin d)) = diagonal q := by
  have hzero : ∃ q, 0 ≤ q ∧
      Mat.val (Mat.zero : Mat (ExactFloat ℝ) stateDim stateDim) = diagonal q :=
    ⟨0, le_rfl, by rw [Mat.val_zero]; exact (diagonal_zero).symm⟩
  have hthousandth : 0 ≤ ((1 / 1000 : ℚ) : ℝ) := by norm_num
  have hpos := setDiagonal_nonneg idxPos hthousandth hzero
  have hvel := setDiagonal_nonneg idxVel
    (mul_nonneg (mul_nonneg hcfg.processNoiseAccel hd.le) hd.le) hpos
  have hatt := setDiagonal_nonneg idxAtt
    (mul_nonneg (mul_nonneg hcfg.processNoiseGyro hd.le) hd.le) hvel
  have hgyro := setDiagonal_nonneg idxGb
    (mul_nonneg hcfg.processNoiseGyroBias hd.le) hatt
  exact setDiagonal_nonneg idxAb (mul_nonneg hcfg.processNoiseAccelBias hd.le) hgyro

theorem val_isSymm_of_posDef (hp : (Mat.val p).PosDef) : (Mat.val p).IsSymm := by
  have hermitian := hp.isHermitian
  rwa [IsHermitian, conjTranspose_eq_transpose_of_trivial] at hermitian

/-- The prediction `F P Fᵀ + Q`. -/
theorem posDef_predictCovariance {v : Vector3 (ExactFloat ℝ)}
    {rotation : Mat (ExactFloat ℝ) 3 3} (hcfg : cfg.NonnegNoise) (hfinite : p.Finite)
    (hp : (Mat.val p).PosDef) (hv : v.Finite) (hrotation : rotation.Finite)
    (hdt : EkfConfig.validDt dt = true) :
    (Mat.val (cfg.exact.predictCovariance p v rotation dt)).PosDef := by
  obtain ⟨d, rfl, hd⟩ := validDt_iff.mp hdt
  obtain ⟨q, hq, hnoise⟩ := processNoise_diagonal hcfg hd
  have hF := finite_transition (x := .fin d) hv hrotation rfl
  have hFP := Mat.finite_mul hF hfinite
  have hFPF := Mat.finite_mul hFP (Mat.finite_transpose hF)
  have hQ := finite_processNoise cfg (x := .fin d) rfl
  have hval : Mat.val (Mat.add (Mat.mul (Mat.mul (EkfConfig.transition v rotation (.fin d)) p)
      (Mat.transpose (EkfConfig.transition v rotation (.fin d))))
        (cfg.exact.processNoise (.fin d))) =
      Mat.val (EkfConfig.transition v rotation (.fin d)) * Mat.val p *
        (Mat.val (EkfConfig.transition v rotation (.fin d)))ᵀ + diagonal q := by
    rw [Mat.val_add hFPF hQ, Mat.val_mul hFP (Mat.finite_transpose hF), Mat.val_mul hF hfinite,
      Mat.val_transpose, hnoise]
  have hposDef := Covariance.posDef_predict hp (blockTriangular_transition v rotation (.fin d))
    transition_diagonal hq
  rw [← hval] at hposDef
  unfold EkfConfig.predictCovariance
  dsimp only
  rwa [Mat.val_makeSymmetric (Mat.finite_add hFPF hQ) (val_isSymm_of_posDef hposDef)]

/-! ## Scalar updates -/

section Joseph

variable {k : Vector (ExactFloat ℝ) stateDim} {h : Fin stateDim} {r : ℝ}

/-- The values of a gain. -/
def gainVal (k : Vector (ExactFloat ℝ) stateDim) : Fin stateDim → ℝ := fun i => k[i].val

theorem val_josephResidual (hk : ∀ i : Fin stateDim, k[i].isFinite = true) :
    Mat.val (EkfConfig.josephResidual k h) = Covariance.residual (gainVal k) h := by
  ext r c
  have hidentity : (Mat.get Mat.identity r c : ExactFloat ℝ).val = (1 : Matrix _ _ ℝ) r c := by
    rw [← Mat.val_apply, Mat.val_identity]
  rw [Mat.val_apply, EkfConfig.josephResidual, Mat.get_ofFn, Covariance.residual,
    Matrix.sub_apply, vecMulVec_apply]
  by_cases hc : c = h
  · subst hc
    rw [if_pos rfl, Pi.single_eq_same, mul_one, one_apply]
    split
    · rw [ExactFloat.val_sub rfl (hk r)]
      simp [gainVal]
    · rw [ExactFloat.val_sub rfl (hk r)]
      simp [gainVal]
  · rw [if_neg hc, Pi.single_eq_of_ne hc, mul_zero, sub_zero, hidentity]

theorem val_josephForm (hfinite : p.Finite) (hk : ∀ i : Fin stateDim, k[i].isFinite = true) :
    Mat.val (EkfConfig.josephForm p k h (.fin r)) =
      Covariance.joseph (Mat.val p) (gainVal k) h r := by
  have ha := finite_josephResidual h hk
  have hap := Mat.finite_mul ha hfinite
  have hapa := Mat.finite_mul hap (Mat.finite_transpose ha)
  have hproduct : Mat.val (Mat.mul (Mat.mul (EkfConfig.josephResidual k h) p)
      (Mat.transpose (EkfConfig.josephResidual k h))) =
      Covariance.residual (gainVal k) h * Mat.val p * (Covariance.residual (gainVal k) h)ᵀ := by
    rw [Mat.val_mul hap (Mat.finite_transpose ha), Mat.val_mul ha hfinite, Mat.val_transpose,
      val_josephResidual hk]
  ext i j
  have hgain : ∀ i : Fin stateDim, k[i] = .fin (gainVal k i) := fun i =>
    ExactFloat.eq_fin_val (hk i)
  rw [Mat.val_apply, EkfConfig.josephForm, Mat.get_ofFn, Mat.get_eq_fin hapa, hproduct, hgain i,
    hgain j, Covariance.joseph, Matrix.add_apply, Matrix.smul_apply, vecMulVec_apply,
    ExactFloat.fin_mul_fin, ExactFloat.fin_mul_fin, ExactFloat.fin_add_fin, ExactFloat.val_fin,
    smul_eq_mul]
  ring

/-- The Joseph form with its diagonal floored. -/
theorem val_josephScalarCovUpdate (hfinite : p.Finite) (hp : (Mat.val p).PosDef)
    (hk : ∀ i : Fin stateDim, k[i].isFinite = true) (hr : 0 ≤ r) :
    Mat.val (EkfConfig.josephScalarCovUpdate p k h (.fin r)) =
      Covariance.joseph (Mat.val p) (gainVal k) h r + diagonal fun i =>
        max (((1 / 1000000000 : ℚ) : ℝ) - Covariance.joseph (Mat.val p) (gainVal k) h r i i)
          0 := by
  have hnoise : (ExactFloat.fin r).isFinite = true := rfl
  have hform := finite_josephForm h hfinite hk hnoise
  have hsymm : (Mat.val (EkfConfig.josephForm p k h (.fin r))).IsSymm := by
    have hermitian := (Covariance.posSemidef_joseph (k := gainVal k) (h := h) hp hr).isHermitian
    rw [val_josephForm hfinite hk]
    rwa [IsHermitian, conjTranspose_eq_transpose_of_trivial] at hermitian
  unfold EkfConfig.josephScalarCovUpdate
  rw [EkfConfig.covVarFloor, lit_exact, Mat.val_floorDiagonal (Mat.finite_makeSymmetric hform),
    Mat.val_makeSymmetric hform hsymm, val_josephForm hfinite hk]

theorem posDef_josephScalarCovUpdate (hfinite : p.Finite) (hp : (Mat.val p).PosDef)
    (hk : ∀ i : Fin stateDim, k[i].isFinite = true) (hr : 0 ≤ r) :
    (Mat.val (EkfConfig.josephScalarCovUpdate p k h (.fin r))).PosDef := by
  rw [val_josephScalarCovUpdate hfinite hp hk hr]
  refine Covariance.posDef_joseph_add hp hr (fun i => le_max_right _ _) ?_
  rw [Matrix.add_apply, diagonal_apply_eq]
  have hfloor := le_max_left
    (((1 / 1000000000 : ℚ) : ℝ) - Covariance.joseph (Mat.val p) (gainVal k) h r h h) 0
  have hpos : 0 < ((1 / 1000000000 : ℚ) : ℝ) := by norm_num
  linarith

end Joseph

/-! ## Operations -/

/-- Every component is a number of at most the limit's magnitude. With a negative limit every
clamp panics, and the biases stay at zero. -/
def WithinLimit (v : Vector3 (ExactFloat ℝ)) (limit : ℝ) : Prop :=
  ∀ i : Fin 3, ∃ b, v.toVector[i] = .fin b ∧ |b| ≤ |limit|

theorem withinLimit_zero (limit : ℝ) : WithinLimit .zero limit := by
  intro i
  refine ⟨0, ?_, by simp⟩
  match i with
  | 0 => exact congrArg ExactFloat.fin Rat.cast_zero
  | 1 => exact congrArg ExactFloat.fin Rat.cast_zero
  | 2 => exact congrArg ExactFloat.fin Rat.cast_zero

/-- A clamp that returns leaves its vector within the limit. -/
theorem withinLimit_clamp {v w : Vector3 (ExactFloat ℝ)} {limit : ℝ} (hv : v.Finite)
    (h : v.clamp (.fin limit) = some w) : WithinLimit w limit := by
  unfold Vector3.clamp at h
  split at h
  · next hbounds =>
    cases h
    have hle : -limit ≤ limit := by simpa using hbounds
    have hclamp : ∀ x : ExactFloat ℝ, x.isFinite = true →
        ∃ b, Scalar.clamp x (-.fin limit) (.fin limit) = .fin b ∧ |b| ≤ |limit| := by
      intro x hx
      obtain ⟨a, rfl⟩ := ExactFloat.isFinite_iff.mp hx
      refine ⟨_, ExactFloat.clamp_fin hle, (abs_le.mpr ⟨le_max_left _ _, ?_⟩).trans
        (le_abs_self limit)⟩
      exact max_le hle (min_le_right _ _)
    intro i
    match i with
    | 0 => exact hclamp _ hv.1
    | 1 => exact hclamp _ hv.2.1
    | 2 => exact hclamp _ hv.2.2
  · cases h

/-- The covariance is positive definite, the biases are within their limits, and the length
of a clipping run is. -/
structure Conditioned (cfg : EkfConfig ℝ) (s : EkfState (ExactFloat ℝ)) : Prop where
  finite : FiniteState s
  posDef : (Mat.val s.pCov).PosDef
  gyroBias : WithinLimit s.gyroBias cfg.gyroBiasLimit
  accelBias : WithinLimit s.accelBias cfg.accelBiasLimit
  clip : 0 ≤ s.accelClipS.val ∧ s.accelClipS.val ≤ 1

variable [Libm (ExactFloat ℝ)] {s t : EkfState (ExactFloat ℝ)}

omit [Libm (ExactFloat ℝ)] in
theorem Conditioned.new : Conditioned cfg .new where
  finite := .new
  posDef := posDef_initialCovariance
  gyroBias := withinLimit_zero _
  accelBias := withinLimit_zero _
  clip := by simp [EkfState.new]

omit [Libm (ExactFloat ℝ)] in
theorem Conditioned.widenMotion {y : ExactFloat ℝ} (hs : Conditioned cfg s)
    (hx : x.isFinite = true) (hxpos : 0 ≤ x.val) (hy : y.isFinite = true) (hypos : 0 ≤ y.val) :
    Conditioned cfg (s.widenMotion x y) := by
  have hfinite := hs.finite.widenMotion hx hy
  unfold EkfState.widenMotion at hfinite ⊢
  exact { hs with
    finite := hfinite
    posDef := posDef_widenDiagonal (Mat.finite_widenDiagonal hs.finite.pCov hx)
      (posDef_widenDiagonal hs.finite.pCov hs.posDef hx hxpos) hy hypos }

omit [Libm (ExactFloat ℝ)] in
theorem Conditioned.widenForImuGap (hs : Conditioned cfg s)
    (hdt : EkfConfig.validDt dt = true) : Conditioned cfg (s.widenForImuGap dt) := by
  obtain ⟨d, rfl, -⟩ := validDt_iff.mp hdt
  have hgap : (ExactFloat.min (s.imuAgeS - ExactFloat.fin d) imuGapCeilingS).isFinite = true :=
    ExactFloat.isFinite_min (by simp [hs.finite.imuAgeS]) rfl
  have hclock : Conditioned cfg { s with imuAgeS := lit 0 } :=
    { hs with finite := { hs.finite with imuAgeS := rfl } }
  unfold EkfState.widenForImuGap
  dsimp only
  split
  · exact hclock
  · -- What is added is a square.
    have hatt : (imuGapRateSigma *
        Scalar.min (s.imuAgeS - ExactFloat.fin d) imuGapCeilingS).isFinite = true := by
      simp [imuGapRateSigma, hgap]
    have hvel : (imuGapAccelSigma *
        Scalar.min (s.imuAgeS - ExactFloat.fin d) imuGapCeilingS).isFinite = true := by
      simp [imuGapAccelSigma, hgap]
    have hpos : (lit (1 / 2) * imuGapAccelSigma *
        Scalar.min (s.imuAgeS - ExactFloat.fin d) imuGapCeilingS *
        Scalar.min (s.imuAgeS - ExactFloat.fin d) imuGapCeilingS).isFinite = true := by
      simp [imuGapAccelSigma, hgap]
    refine Conditioned.widenMotion ?_ (by simpa using hvel) (val_mul_self_nonneg hvel)
      (by simpa using hpos) (val_mul_self_nonneg hpos)
    have hsquare : (imuGapRateSigma * Scalar.min (s.imuAgeS - ExactFloat.fin d) imuGapCeilingS *
        (imuGapRateSigma * Scalar.min (s.imuAgeS - ExactFloat.fin d) imuGapCeilingS)).isFinite =
          true := by
      rw [ExactFloat.isFinite_mul, hatt]
      rfl
    exact { hclock with
      finite := { hclock.finite with pCov := Mat.finite_widenDiagonal hs.finite.pCov hsquare }
      posDef := posDef_widenDiagonal hs.finite.pCov hs.posDef hsquare
        (val_mul_self_nonneg hatt) }

omit [Libm (ExactFloat ℝ)] in
theorem clipVar_val (a : ℝ) :
    EkfState.clipVelVar (ExactFloat.fin a) = .fin ((500 * a) * (500 * a)) ∧
      EkfState.clipPosVar (ExactFloat.fin a) =
        .fin ((500 * a) * (500 * a) * (1 / 2 * a) * (1 / 2 * a)) := by
  have hvel : EkfState.clipVelVar (ExactFloat.fin a) = .fin ((500 * a) * (500 * a)) := by
    simp [EkfState.clipVelVar, accelClipExcessSigma]
  refine ⟨hvel, ?_⟩
  rw [EkfState.clipPosVar, hvel]
  simp

omit [Libm (ExactFloat ℝ)] in
theorem Conditioned.widenForAccelClip {accel : Vector (ExactFloat ℝ) 3} (hs : Conditioned cfg s)
    (hdt : EkfConfig.validDt dt = true) : Conditioned cfg (s.widenForAccelClip accel dt) := by
  obtain ⟨d, rfl, hd⟩ := validDt_iff.mp hdt
  obtain ⟨a, ha⟩ := ExactFloat.isFinite_iff.mp hs.finite.accelClipS
  have hrange := hs.clip
  rw [ha, ExactFloat.val_fin] at hrange
  have hafter :
      Scalar.min (s.accelClipS + ExactFloat.fin d) accelClipCeilingS = .fin (min (a + d) 1) := by
    simp [ha, accelClipCeilingS]
  have hgrows : a ≤ min (a + d) 1 := le_min (by linarith) hrange.2
  have hsq : a * a ≤ min (a + d) 1 * min (a + d) 1 := mul_self_le_mul_self hrange.1 hgrows
  unfold EkfState.widenForAccelClip
  split
  · exact { hs with finite := { hs.finite with accelClipS := rfl }, clip := by simp }
  · dsimp only
    rw [hafter, ha, (clipVar_val _).1, (clipVar_val _).1, (clipVar_val _).2, (clipVar_val _).2,
      ExactFloat.fin_sub_fin, ExactFloat.fin_sub_fin]
    refine Conditioned.widenMotion ?_ rfl ?_ rfl ?_
    · exact { hs with
        finite := { hs.finite with accelClipS := rfl }
        clip := ⟨hrange.1.trans hgrows, min_le_right _ _⟩ }
    · rw [ExactFloat.val_fin]
      nlinarith
    · have hfourth := mul_self_le_mul_self (mul_self_nonneg a) hsq
      rw [ExactFloat.val_fin]
      nlinarith

/-- What the attitude and the position are integrated or corrected without. -/
structure KeepsConditioning (s s' : EkfState (ExactFloat ℝ)) : Prop where
  pCov : s'.pCov = s.pCov
  gyroBias : s'.gyroBias = s.gyroBias
  accelBias : s'.accelBias = s.accelBias
  clip : s'.accelClipS = s.accelClipS

omit [Libm (ExactFloat ℝ)] in
theorem KeepsConditioning.trans {u : EkfState (ExactFloat ℝ)} (hst : KeepsConditioning s t)
    (htu : KeepsConditioning t u) : KeepsConditioning s u :=
  ⟨htu.pCov.trans hst.pCov, htu.gyroBias.trans hst.gyroBias, htu.accelBias.trans hst.accelBias,
    htu.clip.trans hst.clip⟩

theorem keepsConditioning_sanitizeQuat (q : Quaternion (ExactFloat ℝ)) :
    KeepsConditioning s (s.sanitizeQuat q).1 := by
  unfold EkfState.sanitizeQuat
  dsimp only
  split <;> exact ⟨rfl, rfl, rfl, rfl⟩

omit [Libm (ExactFloat ℝ)] in
theorem keepsConditioning_quat (q : Quaternion (ExactFloat ℝ)) :
    KeepsConditioning s { s with quat := q } := ⟨rfl, rfl, rfl, rfl⟩

theorem keepsConditioning_integrate (imu : ImuData (ExactFloat ℝ)) (dt : ExactFloat ℝ) :
    KeepsConditioning s (s.integrate imu dt) := by
  have hmoved : KeepsConditioning s (s.integrateMotion imu dt) := ⟨rfl, rfl, rfl, rfl⟩
  unfold EkfState.integrate
  exact (hmoved.trans (keepsConditioning_sanitizeQuat _)).trans (keepsConditioning_quat _)

theorem keepsConditioning_rotateAttitude (v : Vector3 (ExactFloat ℝ)) :
    KeepsConditioning s (s.rotateAttitude v) := by
  unfold EkfState.rotateAttitude
  exact ((keepsConditioning_sanitizeQuat _).trans (keepsConditioning_sanitizeQuat _)).trans
    (keepsConditioning_quat _)

theorem Conditioned.propagate {imu : ImuData (ExactFloat ℝ)} (hcfg : cfg.NonnegNoise)
    (hs : Conditioned cfg s) (himu : imuIsFinite imu = true)
    (hdt : EkfConfig.validDt dt = true) : Conditioned cfg (cfg.exact.propagate s imu dt) := by
  obtain ⟨d, rfl, -⟩ := validDt_iff.mp hdt
  have hdfinite : (ExactFloat.fin d).isFinite = true := rfl
  have hnext := hs.finite.integrate himu hdfinite
  have hkeeps := keepsConditioning_integrate (s := s) imu (.fin d)
  refine
    { finite := hs.finite.propagate himu hdfinite
      posDef := ?_
      gyroBias := hkeeps.gyroBias.symm ▸ hs.gyroBias
      accelBias := hkeeps.accelBias.symm ▸ hs.accelBias
      clip := hkeeps.clip.symm ▸ hs.clip }
  exact posDef_predictCovariance hcfg hnext.pCov (hkeeps.pCov.symm ▸ hs.posDef)
    (hs.finite.accelEarth himu) hnext.quat.toRotationMatrix hdt

omit [Libm (ExactFloat ℝ)] in
/-- A clamp that returns establishes the limits. -/
theorem withinLimit_clampBiases {u : EkfState (ExactFloat ℝ)} (hu : FiniteState u)
    (h : cfg.exact.clampBiases u = some t) :
    t.pCov = u.pCov ∧ t.accelClipS = u.accelClipS ∧ WithinLimit t.gyroBias cfg.gyroBiasLimit ∧
      WithinLimit t.accelBias cfg.accelBiasLimit := by
  obtain ⟨gyroBias, accelBias, hgyro, haccel, rfl⟩ := clampBiases_cases h
  exact ⟨rfl, rfl, withinLimit_clamp hu.gyroBias hgyro, withinLimit_clamp hu.accelBias haccel⟩

theorem Conditioned.scalarUpdate {idx : Fin stateDim} {meas : ExactFloat ℝ} {r : ℝ}
    {accepted : Bool} (hs : Conditioned cfg s) (hmeas : meas.isFinite = true) (hr : 0 ≤ r)
    (h : cfg.exact.scalarUpdate s idx meas (.fin r) = some (t, accepted)) :
    Conditioned cfg t := by
  have hfinite := hs.finite.scalarUpdate hmeas rfl h
  rcases scalarUpdate_cases h with ⟨-, rfl⟩ | ⟨-, pred, u, hpred, hvariance, -, hclamp, rfl⟩
  · exact hs
  · have hinnov : (meas - pred).isFinite = true := by simp [hmeas, hs.finite.measured hpred]
    have hk := hs.finite.kalmanGain rfl hvariance
    have hcorrected := ((hs.finite.correctMotion hk hinnov).correctGyroBias hk
      hinnov).correctAccelBias hk hinnov
    obtain ⟨hcov, hclip, hgyro, haccel⟩ := withinLimit_clampBiases hcorrected hclamp
    have hkeeps := keepsConditioning_rotateAttitude (s := u)
      (EkfState.correction (s.kalmanGain idx (s.innovationVariance idx (.fin r))) (meas - pred)
        idxAtt (by decide))
    have hp : (u.correctAttitude (s.kalmanGain idx (s.innovationVariance idx (.fin r)))
        (meas - pred)).pCov = s.pCov := hkeeps.pCov.trans hcov
    refine
      { finite := hfinite
        posDef := ?_
        gyroBias := hkeeps.gyroBias.symm ▸ hgyro
        accelBias := hkeeps.accelBias.symm ▸ haccel
        clip := (hkeeps.clip.trans hclip).symm ▸ hs.clip }
    rw [hp]
    exact posDef_josephScalarCovUpdate hs.finite.pCov hs.posDef hk hr

theorem Conditioned.headingUpdate {innov : ExactFloat ℝ} {r : ℝ} (hs : Conditioned cfg s)
    (hinnov : innov.isFinite = true) (hr : 0 ≤ r)
    (h : cfg.exact.headingUpdate s innov (.fin r) = some t) : Conditioned cfg t := by
  have hfinite := hs.finite.headingUpdate hinnov rfl h
  rcases headingUpdate_cases h with rfl | ⟨u, hvariance, -, hclamp, rfl⟩
  · exact hs
  · have hk := hs.finite.kalmanGain rfl hvariance
    have hrotated := (hs.finite.correctMotion hk hinnov).correctAttitude
      (s.kalmanGain idxYaw (s.innovationVariance idxYaw (.fin r))) innov
    obtain ⟨hcov, hclip, hgyro, haccel⟩ :=
      withinLimit_clampBiases (hrotated.correctAccelBias hk hinnov) hclamp
    have hkeeps := keepsConditioning_rotateAttitude
      (s := s.correctMotion (s.kalmanGain idxYaw (s.innovationVariance idxYaw (.fin r))) innov)
      (EkfState.correction (s.kalmanGain idxYaw (s.innovationVariance idxYaw (.fin r))) innov
        idxAtt (by decide))
    have hp : u.pCov = s.pCov := hcov.trans hkeeps.pCov
    refine
      { finite := hfinite
        posDef := ?_
        gyroBias := hgyro
        accelBias := haccel
        clip := (hclip.trans hkeeps.clip).symm ▸ hs.clip }
    rw [hp]
    exact posDef_josephScalarCovUpdate hs.finite.pCov hs.posDef hk hr

/-! ## Runs -/

/-- An admissible operation keeps the filter conditioned when no noise is negative. -/
theorem FilterOperation.apply_conditioned {op : FilterOperation (ExactFloat ℝ)}
    (hcfg : cfg.NonnegNoise) (hop : op.Admissible cfg) (hs : Conditioned cfg s)
    (h : op.apply cfg.exact s = some t) : Conditioned cfg t := by
  have hfinite := op.apply_finite hs.finite hop h
  cases op with
  | init pos vel quat =>
    cases h
    exact { (Conditioned.new : Conditioned cfg _) with finite := hfinite }
  | reset =>
    cases h
    exact .new
  | tick dt =>
    cases h
    unfold EkfState.tickAidingAge at hfinite ⊢
    split
    · exact hs
    · next hgate =>
      rw [if_neg hgate] at hfinite
      exact { hs with finite := hfinite }
  | imuGap dt =>
    cases h
    exact hs.widenForImuGap hop
  | accelClip accel dt =>
    cases h
    exact hs.widenForAccelClip hop
  | propagate imu dt =>
    cases h
    exact hs.propagate hcfg hop.1 hop.2
  | scalar idx meas noise =>
    obtain ⟨hmeas, r, hr, rfl⟩ := hop
    obtain ⟨⟨t', accepted⟩, hupdate, rfl⟩ := Option.map_eq_some_iff.mp h
    refine hs.scalarUpdate hmeas ?_ hupdate
    simp only [List.mem_cons, List.not_mem_nil, or_false] at hr
    rcases hr with rfl | rfl | rfl
    · exact hcfg.measNoiseGnssPos
    · exact hcfg.measNoiseGnssVel
    · exact hcfg.measNoiseBaro
  | heading innov noise =>
    obtain ⟨hinnov, r, hr, rfl⟩ := hop
    exact hs.headingUpdate hinnov (hr hcfg.measNoiseMag) h
  | clearPosAge =>
    cases h
    exact { hs with finite := hfinite }
  | clearVelAge =>
    cases h
    exact { hs with finite := hfinite }
  | clearBaroAge =>
    cases h
    exact { hs with finite := hfinite }
  | latchDatum altitude =>
    cases h
    unfold EkfState.latchDatum at hfinite ⊢
    split
    · exact hs
    · next hnone =>
      rw [hnone] at hfinite
      exact { hs with finite := hfinite }
  | correctDatum altitude datum =>
    cases h
    unfold EkfConfig.correctBaroDatum at hfinite ⊢
    dsimp only at hfinite ⊢
    split
    · exact hs
    · next hlow =>
      rw [if_neg hlow] at hfinite
      exact { hs with finite := hfinite }

theorem EkfConfig.Reaches.conditioned (hcfg : cfg.NonnegNoise) (hst : cfg.Reaches s t)
    (hs : Conditioned cfg s) : Conditioned cfg t := by
  obtain ⟨ops, hpath, hops⟩ := hst
  exact hpath.invariant (fun a op b hstep hop ha => op.apply_conditioned hcfg hop ha hstep) hops
    hs

/-- A run of calls is a sequence of admissible operations, and wherever such operations lead
from power-on the covariance is symmetric and positive semidefinite with a positive diagonal,
and the biases are within their limits. Sensor readings are arbitrary, infinite and NaN ones
included. -/
theorem covariance_conditioned [LibmPow (ExactFloat ℝ)] (hcfg : cfg.NonnegNoise)
    (hlibm : FiniteLibm ℝ) {cs : List (ReturnedCall (ExactFloat ℝ))}
    (hcs : ∀ c ∈ cs, c.call.Finite) (hrun : cfg.exact.calls.Path .new cs s) :
    cfg.Reaches .new s ∧ ∀ t, cfg.Reaches .new t →
      Mat.Finite t.pCov ∧ (Mat.val t.pCov).IsSymm ∧ (Mat.val t.pCov).PosSemidef ∧
      (∀ i, 0 < Mat.val t.pCov i i) ∧ WithinLimit t.gyroBias cfg.gyroBiasLimit ∧
      WithinLimit t.accelBias cfg.accelBiasLimit := by
  refine ⟨run_reaches hlibm .new hcs hrun, fun t ht => ?_⟩
  have hsound := ht.conditioned hcfg .new
  exact ⟨hsound.finite.pCov, val_isSymm_of_posDef hsound.posDef, hsound.posDef.posSemidef,
    fun i => hsound.posDef.diag_pos, hsound.gyroBias, hsound.accelBias⟩

end Aviate

end EstimatorCovariance

section EstimatorGate

/-!
# What a rejected reading leaves behind

The innovation gate decides for each scalar of a reading. A GNSS or magnetometer reading
whose scalars are all rejected leaves the filter as it was. A barometer reading that is
rejected still corrects the barometer's datum, towards the altitude the gate refused.

Results:
1. A rejected scalar update, heading update or channel changes nothing
   (`scalarUpdate_rejected`, `headingUpdate_rejected`, `fuseAxes_rejected`).
2. The correction of the datum changes the filter whenever the barometer's innovation is not
   zero (`correctBaroDatum_ne`).
3. In every reachable state a reading rejected by the gate leaves the filter as it was if and
   only if it does not come to correct the datum (`rejected_unchanged_iff`).
-/

namespace Aviate

open TransitionSystem

/-! ## Readings and their innovations -/

/-- A reading of an aiding sensor. -/
inductive AidingReading (F : Type) where
  | gnss (reading : SensorReading (GnssData F))
  | baro (reading : SensorReading (BaroData F))
  | mag (reading : SensorReading (MagData F)) (declination : F)

/-- The innovation of one scalar of a reading. -/
structure Innovation (F : Type) where
  idx : Fin stateDim
  innov : F
  noise : F

section Model

variable {F : Type} [Scalar F] [Libm F] {cfg : EkfConfig F} {s s' : EkfState F}

/-- The altitude of a barometer reading that comes to be fused. -/
def EkfState.fusedAltitude [LibmPow F] (s : EkfState F) (reading : SensorReading (BaroData F)) :
    Option F :=
  if !s.initialized || reading.health != .good then none
  else
    match reading.value.air.staticPressure with
    | none => none
    | some staticPressure =>
      if !Scalar.isFinite (altitudeFromPressure staticPressure) then none
      else some (altitudeFromPressure staticPressure)

/-- The innovations of a channel's three axes. -/
def axisInnovations (base : Nat) (pred : Vector3 F) (meas : Vector F 3) (noise : F)
    (h : base + 3 ≤ stateDim) : List (Innovation F) :=
  [⟨⟨base, by omega⟩, meas[0] - pred.x, noise⟩,
   ⟨⟨base + 1, by omega⟩, meas[1] - pred.y, noise⟩,
   ⟨⟨base + 2, by omega⟩, meas[2] - pred.z, noise⟩]

namespace EkfConfig

/-- The innovations of the scalar updates a reading comes to, in the state it finds. -/
def innovations [LibmPow F] (cfg : EkfConfig F) (fuel : Nat) (s : EkfState F) :
    AidingReading F → List (Innovation F)
  | .gnss reading =>
    if !s.initialized || !gnssUsable reading then []
    else
      axisInnovations idxPos s.pos reading.value.positionNed cfg.measNoiseGnssPos (by decide) ++
        axisInnovations idxVel s.vel reading.value.velocityNed cfg.measNoiseGnssVel (by decide)
  | .baro reading =>
    match s.fusedAltitude reading with
    | none => []
    | some altitude =>
      [⟨idxHeight, (s.latchDatum altitude).2 - altitude - s.pos.z, cfg.measNoiseBaro⟩]
  | .mag reading declination =>
    match cfg.magMeasurement fuel s reading declination with
    | some (some (innov, noise)) => [⟨idxYaw, innov, noise⟩]
    | _ => []

/-- The innovation gate rejects: the variance is not degenerate, and the innovation is past
the gate. -/
def rejects (cfg : EkfConfig F) (s : EkfState F) (u : Innovation F) : Bool :=
  !Scalar.lt (s.innovationVariance u.idx u.noise) (lit (1 / 1000000000)) &&
    cfg.gateRejects u.innov (s.innovationVariance u.idx u.noise)

/-- Every scalar update of the reading is rejected by the innovation gate. A rejected update
leaves the state, so each of them finds the state the reading did. -/
def AllRejected [LibmPow F] (cfg : EkfConfig F) (fuel : Nat) (s : EkfState F)
    (reading : AidingReading F) : Prop :=
  ∀ u ∈ cfg.innovations fuel s reading, cfg.rejects s u = true

/-- The filter's step for a reading. -/
def fuse [LibmPow F] (cfg : EkfConfig F) (fuel : Nat) (s : EkfState F) :
    AidingReading F → Option (EkfState F)
  | .gnss reading => (cfg.updateGnssState s reading).map Prod.fst
  | .baro reading => cfg.updateBaroState s reading
  | .mag reading declination => cfg.updateMagState fuel s reading declination

/-- The innovation variance of the datum's own correction. -/
def datumVariance (cfg : EkfConfig F) (s : EkfState F) : F :=
  s.baroRefVar + baroDatumProcessVar +
    (cfg.measNoiseBaro + Mat.get s.pCov idxHeight idxHeight)

/-- The reading is not one that corrects the datum: not a barometer reading that comes to be
fused, unless the correction's variance is degenerate. -/
def LeavesDatum [LibmPow F] (cfg : EkfConfig F) (s : EkfState F) : AidingReading F → Prop
  | .baro reading =>
    s.fusedAltitude reading = none ∨
      Scalar.lt (cfg.datumVariance s) (lit (1 / 1000000000)) = true
  | _ => True

end EkfConfig

/-! ## Rejected updates -/

theorem scalarUpdate_rejected {idx : Fin stateDim} {meas pred noise : F}
    (hpred : s.measured idx = some pred)
    (h : cfg.rejects s ⟨idx, meas - pred, noise⟩ = true) :
    cfg.scalarUpdate s idx meas noise = some (s, false) := by
  simp only [EkfConfig.rejects, Bool.and_eq_true, Bool.not_eq_true'] at h
  unfold EkfConfig.scalarUpdate
  rw [hpred]
  dsimp only
  rw [h.1, h.2]
  rfl

theorem headingUpdate_rejected {innov noise : F}
    (h : cfg.rejects s ⟨idxYaw, innov, noise⟩ = true) :
    cfg.headingUpdate s innov noise = some s := by
  simp only [EkfConfig.rejects, Bool.and_eq_true, Bool.not_eq_true'] at h
  unfold EkfConfig.headingUpdate
  dsimp only
  rw [h.1, h.2]
  rfl

/-- A channel whose three axes are rejected. -/
theorem fuseAxes_rejected {base : Nat} {hbase : base + 3 ≤ stateDim} {pred : Vector3 F}
    {meas : Vector F 3} {noise : F} (hx : s.measured ⟨base, by omega⟩ = some pred.x)
    (hy : s.measured ⟨base + 1, by omega⟩ = some pred.y)
    (hz : s.measured ⟨base + 2, by omega⟩ = some pred.z)
    (h : ∀ u ∈ axisInnovations base pred meas noise hbase, cfg.rejects s u = true) :
    cfg.fuseAxes s base meas noise hbase = some (s, false) := by
  simp only [axisInnovations, List.forall_mem_cons] at h
  obtain ⟨hfirst, hsecond, hthird, -⟩ := h
  simp only [EkfConfig.fuseAxes, Option.bind_eq_bind, scalarUpdate_rejected hx hfirst,
    scalarUpdate_rejected hy hsecond, scalarUpdate_rejected hz hthird, Option.bind_some]
  rfl

theorem updateGnssState_rejected [LibmPow F] {fuel : Nat} {reading : SensorReading (GnssData F)}
    (h : cfg.AllRejected fuel s (.gnss reading)) :
    cfg.updateGnssState s reading = some (s, .none) := by
  unfold EkfConfig.updateGnssState
  by_cases hgate : (!s.initialized || !gnssUsable reading) = true
  · rw [if_pos hgate]
  · rw [if_neg hgate]
    simp only [EkfConfig.AllRejected, EkfConfig.innovations, if_neg hgate] at h
    have hpos := fuseAxes_rejected (s := s) rfl rfl rfl fun u hu =>
      h u (List.mem_append_left _ hu)
    have hvel := fuseAxes_rejected (s := s) rfl rfl rfl fun u hu =>
      h u (List.mem_append_right _ hu)
    simp only [Option.bind_eq_bind, hpos, Option.bind_some, Bool.false_eq_true, if_false, hvel]
    rfl

theorem updateMagState_rejected [LibmPow F] {fuel : Nat} {reading : SensorReading (MagData F)}
    {declination : F} (h : cfg.AllRejected fuel s (.mag reading declination))
    (hfuse : cfg.updateMagState fuel s reading declination = some s') : s' = s := by
  rcases updateMagState_cases hfuse with rfl | ⟨innov, noise, hmeas, hheading⟩
  · rfl
  · simp only [EkfConfig.AllRejected, EkfConfig.innovations, hmeas, List.mem_singleton,
      forall_eq] at h
    rw [headingUpdate_rejected h] at hheading
    exact (Option.some.inj hheading).symm

theorem updateBaroState_eq [LibmPow F] {reading : SensorReading (BaroData F)} :
    cfg.updateBaroState s reading =
      match s.fusedAltitude reading with
      | none => some s
      | some altitude => cfg.fuseAltitude s altitude := by
  unfold EkfConfig.updateBaroState EkfState.fusedAltitude
  by_cases hskip : (!s.initialized || reading.health != .good) = true
  · rw [if_pos hskip, if_pos hskip]
  · rw [if_neg hskip, if_neg hskip]
    cases reading.value.air.staticPressure with
    | none => rfl
    | some staticPressure =>
      dsimp only
      by_cases hfinite : (!Scalar.isFinite (altitudeFromPressure staticPressure)) = true
      · rw [if_pos hfinite, if_pos hfinite]
      · rw [if_neg hfinite, if_neg hfinite]

omit [Libm F] in
theorem fusedAltitude_finite [LibmPow F] {reading : SensorReading (BaroData F)} {altitude : F}
    (h : s.fusedAltitude reading = some altitude) : Scalar.isFinite altitude = true := by
  unfold EkfState.fusedAltitude at h
  split at h
  · cases h
  · split at h
    · cases h
    · split at h
      · cases h
      · next hfinite =>
        cases h
        simpa using hfinite

/-- A barometer reading rejected on a latched datum only corrects the datum. -/
theorem fuseAltitude_rejected {altitude datum : F} (hdatum : s.baroRef = some datum)
    (h : cfg.rejects s ⟨idxHeight, datum - altitude - s.pos.z, cfg.measNoiseBaro⟩ = true) :
    cfg.fuseAltitude s altitude = some (cfg.correctBaroDatum s altitude datum) := by
  have hlatch : s.latchDatum altitude = (s, datum) := by
    unfold EkfState.latchDatum
    rw [hdatum]
  have hupdate : cfg.scalarUpdate s idxHeight (datum - altitude) cfg.measNoiseBaro =
      some (s, false) := scalarUpdate_rejected rfl h
  unfold EkfConfig.fuseAltitude
  rw [hlatch]
  simp only [Option.bind_eq_bind, hupdate, Option.bind_some]
  rfl

end Model

/-! ## The barometer's datum -/

section Exact

variable {K : Type} [Field K] [LinearOrder K] [IsStrictOrderedRing K] [Libm (ExactFloat K)]
  {cfg : EkfConfig K} {s s' : EkfState (ExactFloat K)} {altitude datum : ExactFloat K}

omit [Libm (ExactFloat K)] in
/-- The gate never rejects a zero innovation. -/
theorem rejects_innov {u : Innovation (ExactFloat K)} {r : K} (hs : FiniteState s)
    (hnoise : u.noise = .fin r) (hrejects : cfg.exact.rejects s u = true) : u.innov ≠ .fin 0 := by
  intro hzero
  have hvar : (s.innovationVariance u.idx u.noise).isFinite = true := by
    simp [EkfState.innovationVariance, hs.pCov u.idx u.idx, hnoise]
  obtain ⟨v, hv⟩ := ExactFloat.isFinite_iff.mp hvar
  simp only [EkfConfig.rejects, hv, Bool.and_eq_true, Bool.not_eq_true', lt_exact, lit_exact,
    ExactFloat.lt_fin, decide_eq_false_iff_not, not_lt] at hrejects
  have hpos : v ≠ 0 := fun h => absurd hrejects.1 (by rw [h]; norm_num)
  have hgate := hrejects.2
  simp only [EkfConfig.gateRejects, EkfConfig.map, hzero, ExactFloat.fin_mul_fin, mul_zero,
    ExactFloat.fin_div_fin hpos, zero_div, lt_exact, ExactFloat.lt_fin, decide_eq_true_eq] at hgate
  exact absurd hgate (not_lt.mpr (mul_self_nonneg cfg.innovationGate))

omit [Libm (ExactFloat K)] in
/-- The values of a correction of the datum that is not degenerate. -/
theorem correctBaroDatum_fin {a d z v p : K} (hz : s.pos.z = .fin z) (hv : s.baroRefVar = .fin v)
    (hp : Mat.get s.pCov idxHeight idxHeight = .fin p)
    (hvar : Scalar.lt (cfg.exact.datumVariance s) (lit (1 / 1000000000)) = false) :
    let prior := v + ((1 / 10000 : ℚ) : K)
    let k := prior / (prior + (cfg.measNoiseBaro + p))
    prior + (cfg.measNoiseBaro + p) ≠ 0 ∧
      (cfg.exact.correctBaroDatum s (.fin a) (.fin d)).baroRef =
        some (.fin (d + k * (a + z - d))) ∧
      (cfg.exact.correctBaroDatum s (.fin a) (.fin d)).baroRefVar = .fin ((1 - k) * prior) := by
  intro prior k
  have hprior : s.baroRefVar + baroDatumProcessVar = .fin prior := by
    rw [hv]
    rfl
  have htotal : s.baroRefVar + baroDatumProcessVar +
      (cfg.exact.measNoiseBaro + Mat.get s.pCov idxHeight idxHeight) =
        .fin (prior + (cfg.measNoiseBaro + p)) := by
    rw [hprior, hp]
    rfl
  rw [EkfConfig.datumVariance] at hvar
  have hfield : prior + (cfg.measNoiseBaro + p) ≠ 0 := by
    intro hzero
    rw [htotal, hzero] at hvar
    simp at hvar
  refine ⟨hfield, ?_⟩
  simp only [EkfConfig.correctBaroDatum, hvar, Bool.false_eq_true, if_false]
  rw [htotal, hprior, hz, ExactFloat.fin_div_fin hfield]
  simp [k]

omit [Libm (ExactFloat K)] in
/-- The correction of the datum changes the filter whenever the innovation is not zero: a
gain of zero moves the datum's variance. -/
theorem correctBaroDatum_ne (hs : FiniteState s) (haltitude : altitude.isFinite = true)
    (hdatum : s.baroRef = some datum) (hinnov : datum - altitude - s.pos.z ≠ .fin 0)
    (hvar : Scalar.lt (cfg.exact.datumVariance s) (lit (1 / 1000000000)) = false) :
    cfg.exact.correctBaroDatum s altitude datum ≠ s := by
  intro hsame
  obtain ⟨a, rfl⟩ := ExactFloat.isFinite_iff.mp haltitude
  obtain ⟨d, rfl⟩ := ExactFloat.isFinite_iff.mp (hs.baroRef datum hdatum)
  obtain ⟨z, hz⟩ := ExactFloat.isFinite_iff.mp hs.pos.2.2
  obtain ⟨v, hv⟩ := ExactFloat.isFinite_iff.mp hs.baroRefVar
  obtain ⟨p, hp⟩ := ExactFloat.isFinite_iff.mp (hs.pCov idxHeight idxHeight)
  obtain ⟨hfield, href, hrefVar⟩ := correctBaroDatum_fin (a := a) (d := d) hz hv hp hvar
  rw [hsame, hdatum, Option.some.injEq, ExactFloat.fin.injEq] at href
  rw [hsame, hv, ExactFloat.fin.injEq] at hrefVar
  have hne : a + z - d ≠ 0 := by
    intro h
    have hzero : d - a - z = 0 := by linarith
    exact hinnov (by rw [hz]; simp [hzero])
  have hk := (mul_eq_zero.mp (left_eq_add.mp href)).resolve_right hne
  have hprior := (div_eq_zero_iff.mp hk).resolve_right hfield
  rw [hprior, mul_zero] at hrefVar
  rw [hrefVar] at hprior
  norm_num at hprior

theorem updateBaroState_unchanged_iff [LibmPow (ExactFloat K)] {fuel : Nat}
    {reading : SensorReading (BaroData (ExactFloat K))} (hs : FiniteState s)
    (hrejected : cfg.exact.AllRejected fuel s (.baro reading))
    (hfuse : cfg.exact.updateBaroState s reading = some s') :
    s' = s ↔ cfg.exact.LeavesDatum s (.baro reading) := by
  rw [updateBaroState_eq] at hfuse
  simp only [EkfConfig.LeavesDatum]
  simp only [EkfConfig.AllRejected, EkfConfig.innovations] at hrejected
  cases haltitude : s.fusedAltitude reading with
  | none =>
    rw [haltitude] at hfuse
    exact iff_of_true (Option.some.inj hfuse).symm (.inl rfl)
  | some altitude =>
    rw [haltitude] at hfuse hrejected
    simp only [List.mem_singleton, forall_eq] at hrejected hfuse
    have hfinite := fusedAltitude_finite haltitude
    have hinnov := rejects_innov hs rfl hrejected
    dsimp only at hinnov
    cases hdatum : s.baroRef with
    | none =>
      -- The first sample latches the datum it is measured against.
      obtain ⟨a, rfl⟩ := ExactFloat.isFinite_iff.mp hfinite
      obtain ⟨z, hz⟩ := ExactFloat.isFinite_iff.mp hs.pos.2.2
      refine absurd ?_ hinnov
      simp [EkfState.latchDatum, hdatum, hz]
    | some datum =>
      have hlatch : s.latchDatum altitude = (s, datum) := by
        unfold EkfState.latchDatum
        rw [hdatum]
      rw [hlatch] at hrejected hinnov
      rw [fuseAltitude_rejected hdatum hrejected, Option.some.injEq] at hfuse
      subst hfuse
      cases hvar : Scalar.lt (cfg.exact.datumVariance s) (lit (1 / 1000000000)) with
      | false =>
        refine iff_of_false (correctBaroDatum_ne hs hfinite hdatum hinnov hvar) ?_
        simp
      | true =>
        refine iff_of_true ?_ (.inr rfl)
        rw [EkfConfig.datumVariance] at hvar
        simp only [EkfConfig.correctBaroDatum, hvar, if_true]

/-- In every reachable state a reading whose scalar updates are all rejected leaves the filter
as it was exactly when it does not come to correct the barometer's datum. -/
theorem rejected_unchanged_iff [LibmPow (ExactFloat K)] (hlibm : FiniteLibm K)
    {cs : List (ReturnedCall (ExactFloat K))} (hcs : ∀ c ∈ cs, c.call.Finite)
    (hrun : cfg.exact.calls.Path .new cs s) {fuel : Nat} {reading : AidingReading (ExactFloat K)}
    (hrejected : cfg.exact.AllRejected fuel s reading)
    (hfuse : cfg.exact.fuse fuel s reading = some s') :
    s' = s ↔ cfg.exact.LeavesDatum s reading := by
  cases reading with
  | gnss reading =>
    have hkept : cfg.exact.updateGnssState s reading = some (s, .none) :=
      updateGnssState_rejected hrejected
    rw [EkfConfig.fuse, hkept] at hfuse
    exact iff_of_true (Option.some.inj hfuse).symm trivial
  | baro reading =>
    have hs := (run_reaches hlibm .new hcs hrun).finite .new
    exact updateBaroState_unchanged_iff hs hrejected hfuse
  | mag reading declination =>
    exact iff_of_true (updateMagState_rejected hrejected hfuse) trivial

end Exact

/-! ## A rejected altitude -/

/-- The power at the pressure ratios zero and one. -/
instance : LibmPow (ExactFloat ℚ) where
  powf x _ := x

/-- The default configuration as numbers. -/
def rationalConfig : EkfConfig ℚ :=
  (EkfConfig.default : EkfConfig (ExactFloat ℚ)).map ExactFloat.val

/-- A healthy barometer reading of the given static pressure. -/
def pressureReading (pascals : ℚ) : SensorReading (BaroData (ExactFloat ℚ)) :=
  .healthy ⟨none, { AirData.empty with staticPressure := some (lit pascals) }⟩

/-- A seeded filter and one cycle at sea-level pressure. -/
def seaLevelCalls : List (ReturnedCall (ExactFloat ℚ)) :=
  [⟨.init .zero .zero .identity, .none⟩,
   ⟨.observe { deadSensors with baros := Vector.replicate 2 (pressureReading 101325) } none
      (lit (1 / 100)), .none⟩]

theorem seaLevelCalls_finite : ∀ c ∈ seaLevelCalls, c.call.Finite := by
  intro c hc
  simp only [seaLevelCalls, List.mem_cons, List.not_mem_nil, or_false] at hc
  rcases hc with rfl | rfl
  · exact ⟨⟨rfl, rfl, rfl⟩, ⟨rfl, rfl, rfl⟩, Quaternion.finite_identity⟩
  · exact fun g hg => nomatch hg

theorem finiteLibm_rational : FiniteLibm ℚ where
  sinf _ hx := hx
  cosf _ _ := rfl
  asinf _ _ := rfl
  atan2f _ _ hy _ := hy

/-- The vacuum reading is rejected after the run, and the datum moves. -/
def refusedVacuum (s : EkfState (ExactFloat ℚ)) : Bool :=
  (rationalConfig.exact.innovations 0 s (.baro (pressureReading 0))).all
      (rationalConfig.exact.rejects s) &&
    ((rationalConfig.exact.fuse 0 s (.baro (pressureReading 0))).map EkfState.baroRef).any
      (· != s.baroRef)

theorem seaLevel_refusedVacuum :
    ((rationalConfig.exact.observe 0 (EkfState.new.init .zero .zero .identity)
      { deadSensors with baros := Vector.replicate 2 (pressureReading 101325) } none
      (lit (1 / 100))).any fun r => r.2 == .none && refusedVacuum r.1) = true := by
  decide +kernel

/-- The run ends in a state that refuses the vacuum reading. -/
theorem seaLevelCalls_path :
    ∃ s, rationalConfig.exact.calls.Path .new seaLevelCalls s ∧ refusedVacuum s = true := by
  obtain ⟨⟨s, a⟩, hobserve, hcheck⟩ := (Option.any_eq_true _ _).mp seaLevel_refusedVacuum
  simp only [Bool.and_eq_true, beq_iff_eq] at hcheck
  obtain ⟨rfl, hrefused⟩ := hcheck
  exact ⟨s, .cons ⟨rfl, rfl⟩ (.single ⟨0, hobserve⟩), hrefused⟩

theorem refusedVacuum_spec {s : EkfState (ExactFloat ℚ)} (h : refusedVacuum s = true) :
    rationalConfig.exact.AllRejected 0 s (.baro (pressureReading 0)) ∧
      ∃ s', rationalConfig.exact.fuse 0 s (.baro (pressureReading 0)) = some s' ∧
        s'.baroRef ≠ s.baroRef := by
  simp only [refusedVacuum, Bool.and_eq_true, List.all_eq_true, Option.any_map] at h
  obtain ⟨hrejected, hmoved⟩ := h
  obtain ⟨s', hfuse, hne⟩ := (Option.any_eq_true _ _).mp hmoved
  exact ⟨hrejected, s', hfuse, by simpa using hne⟩

/-- After a sample at sea level the gate rejects a vacuum, and the filter changes. -/
theorem rejected_vacuum_changes_filter :
    ∃ s s', rationalConfig.exact.calls.Path .new seaLevelCalls s ∧
      rationalConfig.exact.AllRejected 0 s (.baro (pressureReading 0)) ∧
      rationalConfig.exact.fuse 0 s (.baro (pressureReading 0)) = some s' ∧ s' ≠ s := by
  obtain ⟨s, hrun, hrefused⟩ := seaLevelCalls_path
  obtain ⟨hrejected, s', hfuse, hmoved⟩ := refusedVacuum_spec hrefused
  exact ⟨s, s', hrun, hrejected, hfuse, fun h => hmoved (by rw [h])⟩

theorem rejected_unchanged_iff_vacuum :
    ∃ s s', rationalConfig.exact.calls.Path .new seaLevelCalls s ∧
      rationalConfig.exact.fuse 0 s (.baro (pressureReading 0)) = some s' ∧
      (s' = s ↔ rationalConfig.exact.LeavesDatum s (.baro (pressureReading 0))) := by
  obtain ⟨s, hrun, hrefused⟩ := seaLevelCalls_path
  obtain ⟨hrejected, s', hfuse, -⟩ := refusedVacuum_spec hrefused
  exact ⟨s, s', hrun, hfuse, rejected_unchanged_iff finiteLibm_rational seaLevelCalls_finite hrun
    hrejected hfuse⟩

end Aviate

end EstimatorGate

section EstimatorReturns

/-!
# Every call returns

Two things can keep a cycle from returning: a clamp with unordered bounds, which panics, and
the loops that wrap the heading innovation. With limits that are not negative and from a
finite state neither does.

Results:
1. Enough fuel ends both loops at a finite innovation (`wrap_returns`).
2. Every cycle returns (`observe_returns`).
-/

namespace Aviate

variable {K : Type} [Field K] [LinearOrder K]

/-! ## The loops -/

theorem wrapDown_mono {fuel fuel' : Nat} {x y : ExactFloat K} (hle : fuel ≤ fuel')
    (h : wrapDown fuel x = some y) : wrapDown fuel' x = some y := by
  induction fuel generalizing fuel' x with
  | zero => cases h
  | succ fuel ih =>
    cases fuel' with
    | zero => omega
    | succ fuel' =>
      unfold wrapDown at h ⊢
      split at h
      · next hlt => rw [if_pos hlt, ih (by omega) h]
      · next hlt => rw [if_neg hlt, h]

theorem wrapUp_mono {fuel fuel' : Nat} {x y : ExactFloat K} (hle : fuel ≤ fuel')
    (h : wrapUp fuel x = some y) : wrapUp fuel' x = some y := by
  induction fuel generalizing fuel' x with
  | zero => cases h
  | succ fuel ih =>
    cases fuel' with
    | zero => omega
    | succ fuel' =>
      unfold wrapUp at h ⊢
      split at h
      · next hlt => rw [if_pos hlt, ih (by omega) h]
      · next hlt => rw [if_neg hlt, h]

section Loops

variable [IsStrictOrderedRing K] [Archimedean K]

/-- Each turn of the loop takes a whole turn off a number. -/
theorem wrapDown_returns (x : K) : ∃ fuel y, wrapDown fuel (ExactFloat.fin x) = some y := by
  obtain ⟨n, hn⟩ := Archimedean.arch (x - ((13176795 / 4194304 : ℚ) : K))
    (show (0 : K) < ((2 : ℚ) : K) * ((13176795 / 4194304 : ℚ) : K) by norm_num)
  refine ⟨n + 1, ?_⟩
  induction n generalizing x with
  | zero =>
    have hle : ¬((13176795 / 4194304 : ℚ) : K) < x := by
      rw [zero_smul] at hn
      linarith
    exact ⟨.fin x, if_neg (by simpa [pi] using hle)⟩
  | succ n ih =>
    by_cases hlt : Scalar.lt pi (ExactFloat.fin x) = true
    · have hstep : (ExactFloat.fin x : ExactFloat K) - lit 2 * pi =
          .fin (x - ((2 : ℚ) : K) * ((13176795 / 4194304 : ℚ) : K)) :=
        ExactFloat.fin_sub_fin
      obtain ⟨y, hy⟩ := ih (x - ((2 : ℚ) : K) * ((13176795 / 4194304 : ℚ) : K)) (by
        rw [add_smul, one_smul] at hn
        linarith)
      refine ⟨y, ?_⟩
      unfold wrapDown
      rw [if_pos hlt, hstep, hy]
    · refine ⟨.fin x, ?_⟩
      unfold wrapDown
      rw [if_neg hlt]

theorem wrapUp_returns (x : K) : ∃ fuel y, wrapUp fuel (ExactFloat.fin x) = some y := by
  obtain ⟨n, hn⟩ := Archimedean.arch (-((13176795 / 4194304 : ℚ) : K) - x)
    (show (0 : K) < ((2 : ℚ) : K) * ((13176795 / 4194304 : ℚ) : K) by norm_num)
  refine ⟨n + 1, ?_⟩
  induction n generalizing x with
  | zero =>
    have hle : ¬x < -((13176795 / 4194304 : ℚ) : K) := by
      rw [zero_smul] at hn
      linarith
    exact ⟨.fin x, if_neg (by simpa [pi] using hle)⟩
  | succ n ih =>
    by_cases hlt : Scalar.lt (ExactFloat.fin x) (-pi) = true
    · have hstep : (ExactFloat.fin x : ExactFloat K) + lit 2 * pi =
          .fin (x + ((2 : ℚ) : K) * ((13176795 / 4194304 : ℚ) : K)) := rfl
      obtain ⟨y, hy⟩ := ih (x + ((2 : ℚ) : K) * ((13176795 / 4194304 : ℚ) : K)) (by
        rw [add_smul, one_smul] at hn
        linarith)
      refine ⟨y, ?_⟩
      unfold wrapUp
      rw [if_pos hlt, hstep, hy]
    · refine ⟨.fin x, ?_⟩
      unfold wrapUp
      rw [if_neg hlt]

/-- With enough fuel both loops end at a finite innovation. -/
theorem wrap_returns {x : ExactFloat K} (hx : x.isFinite = true) :
    ∃ fuel y z, wrapDown fuel x = some y ∧ wrapUp fuel y = some z := by
  obtain ⟨a, rfl⟩ := ExactFloat.isFinite_iff.mp hx
  obtain ⟨fuel₁, y, hy⟩ := wrapDown_returns a
  obtain ⟨b, rfl⟩ := ExactFloat.isFinite_iff.mp (wrapDown_finite hx hy)
  obtain ⟨fuel₂, z, hz⟩ := wrapUp_returns b
  exact ⟨max fuel₁ fuel₂, _, z, wrapDown_mono (le_max_left _ _) hy,
    wrapUp_mono (le_max_right _ _) hz⟩

end Loops

/-! ## The stages -/

/-- Limits at which no clamp panics. -/
structure EkfConfig.OrderedLimits (cfg : EkfConfig K) : Prop where
  gyroBias : 0 ≤ cfg.gyroBiasLimit
  accelBias : 0 ≤ cfg.accelBiasLimit

section Updates

variable [Libm (ExactFloat K)] [IsStrictOrderedRing K] {cfg : EkfConfig K}
  {s : EkfState (ExactFloat K)} (hcfg : cfg.OrderedLimits)

include hcfg

omit [Libm (ExactFloat K)] in
theorem clampBiases_returns (s : EkfState (ExactFloat K)) :
    ∃ t, cfg.exact.clampBiases s = some t := by
  have hclamp : ∀ (v : Vector3 (ExactFloat K)) (limit : K), 0 ≤ limit →
      ∃ w, v.clamp (.fin limit) = some w := by
    intro v limit hlimit
    refine ⟨_, if_pos ?_⟩
    have hle : -limit ≤ limit := by linarith
    simpa using hle
  obtain ⟨gyroBias, hgyro⟩ := hclamp s.gyroBias cfg.gyroBiasLimit hcfg.gyroBias
  obtain ⟨accelBias, haccel⟩ := hclamp s.accelBias cfg.accelBiasLimit hcfg.accelBias
  refine ⟨{ s with gyroBias := gyroBias, accelBias := accelBias }, ?_⟩
  unfold EkfConfig.clampBiases
  rw [show cfg.exact.gyroBiasLimit = .fin cfg.gyroBiasLimit from rfl,
    show cfg.exact.accelBiasLimit = .fin cfg.accelBiasLimit from rfl, hgyro]
  simp [haccel]

theorem scalarUpdate_returns (s : EkfState (ExactFloat K)) (idx : Fin stateDim)
    (meas noise : ExactFloat K) : ∃ t, cfg.exact.scalarUpdate s idx meas noise = some t := by
  unfold EkfConfig.scalarUpdate
  cases s.measured idx with
  | none => exact ⟨_, rfl⟩
  | some pred =>
    dsimp only
    split
    · exact ⟨_, rfl⟩
    · split
      · exact ⟨_, rfl⟩
      · obtain ⟨t, ht⟩ := clampBiases_returns hcfg _
        rw [ht]
        exact ⟨_, rfl⟩

theorem headingUpdate_returns (s : EkfState (ExactFloat K)) (innov noise : ExactFloat K) :
    ∃ t, cfg.exact.headingUpdate s innov noise = some t := by
  unfold EkfConfig.headingUpdate
  dsimp only
  split
  · exact ⟨_, rfl⟩
  · split
    · exact ⟨_, rfl⟩
    · obtain ⟨t, ht⟩ := clampBiases_returns hcfg _
      rw [ht]
      exact ⟨_, rfl⟩

theorem fuseAxes_returns (s : EkfState (ExactFloat K)) (base : Nat)
    (meas : Vector (ExactFloat K) 3) (noise : ExactFloat K) (hbase : base + 3 ≤ stateDim) :
    ∃ t, cfg.exact.fuseAxes s base meas noise hbase = some t := by
  obtain ⟨⟨t, first⟩, ht⟩ := scalarUpdate_returns hcfg s ⟨base, by omega⟩ meas[0] noise
  obtain ⟨⟨u, second⟩, hu⟩ := scalarUpdate_returns hcfg t ⟨base + 1, by omega⟩ meas[1] noise
  obtain ⟨⟨v, third⟩, hv⟩ := scalarUpdate_returns hcfg u ⟨base + 2, by omega⟩ meas[2] noise
  refine ⟨(v, first && second && third), ?_⟩
  simp only [EkfConfig.fuseAxes, Option.bind_eq_bind, ht, hu, hv, Option.bind_some]
  rfl

theorem updateGnssState_returns (s : EkfState (ExactFloat K))
    (reading : SensorReading (GnssData (ExactFloat K))) :
    ∃ t, cfg.exact.updateGnssState s reading = some t := by
  unfold EkfConfig.updateGnssState
  split
  · exact ⟨_, rfl⟩
  · obtain ⟨⟨t, pos⟩, ht⟩ := fuseAxes_returns hcfg s idxPos reading.value.positionNed
      cfg.exact.measNoiseGnssPos (by decide)
    obtain ⟨⟨u, vel⟩, hu⟩ := fuseAxes_returns hcfg
      (if pos then { t with gnssPosAgeS := lit 0 } else t) idxVel reading.value.velocityNed
      cfg.exact.measNoiseGnssVel (by decide)
    refine ⟨(if vel then { u with gnssVelAgeS := lit 0 } else u, ⟨pos, vel⟩), ?_⟩
    simp only [Option.bind_eq_bind, ht, hu, Option.bind_some]
    rfl

theorem updateBaroState_returns [LibmPow (ExactFloat K)] (s : EkfState (ExactFloat K))
    (reading : SensorReading (BaroData (ExactFloat K))) :
    ∃ t, cfg.exact.updateBaroState s reading = some t := by
  unfold EkfConfig.updateBaroState
  split
  · exact ⟨_, rfl⟩
  · split
    · exact ⟨_, rfl⟩
    · next staticPressure _ =>
      split
      · exact ⟨_, rfl⟩
      · obtain ⟨⟨t, accepted⟩, ht⟩ := scalarUpdate_returns hcfg
          (s.latchDatum (altitudeFromPressure staticPressure)).1 idxHeight
          ((s.latchDatum (altitudeFromPressure staticPressure)).2 -
            altitudeFromPressure staticPressure) cfg.exact.measNoiseBaro
        refine ⟨cfg.exact.correctBaroDatum (if accepted then { t with baroAgeS := lit 0 } else t)
          (altitudeFromPressure staticPressure)
          (s.latchDatum (altitudeFromPressure staticPressure)).2, ?_⟩
        simp only [EkfConfig.fuseAltitude, Option.bind_eq_bind, ht, Option.bind_some]
        rfl

theorem updateMagState_returns [Archimedean K] (hlibm : FiniteLibm K) (hs : FiniteState s)
    {declination : ExactFloat K} (hdecl : declination.isFinite = true)
    (reading : SensorReading (MagData (ExactFloat K))) :
    ∃ fuel t, cfg.exact.updateMagState fuel s reading declination = some t := by
  have hmeasured : ∃ fuel m, cfg.exact.magMeasurement fuel s reading declination = some m := by
    unfold EkfConfig.magMeasurement
    split
    · exact ⟨0, _, rfl⟩
    · cases hweight : cfg.exact.fieldWeight reading.value.fieldUt with
      | none => exact ⟨0, _, rfl⟩
      | some weight =>
        have hinnov := hlibm.headingInnovation hs.quat (fieldWeight_finite hweight) hdecl
        obtain ⟨fuel, y, z, hy, hz⟩ := wrap_returns hinnov
        refine ⟨fuel, ?_⟩
        simp only [Option.bind_eq_bind, hy, hz, Option.bind_some]
        split
        · exact ⟨_, rfl⟩
        · exact ⟨_, rfl⟩
  obtain ⟨fuel, m, hm⟩ := hmeasured
  refine ⟨fuel, ?_⟩
  unfold EkfConfig.updateMagState
  rw [Option.bind_eq_bind, hm, Option.bind_some]
  cases m with
  | none => exact ⟨s, rfl⟩
  | some pair => exact headingUpdate_returns hcfg s pair.1 pair.2

/-- From a finite state every cycle returns, whatever the readings are. -/
theorem observe_returns [LibmPow (ExactFloat K)] [Archimedean K] (hlibm : FiniteLibm K)
    (hs : FiniteState s) (sensors : SensorSet (ExactFloat K))
    (hdecl : ∀ g, sensors.geomagnetic = some g → g.declination.isFinite = true)
    (overrides : Option SensorOverrides) (dt : ExactFloat K) :
    ∃ fuel t a, cfg.exact.observe fuel s sensors overrides dt = some (t, a) := by
  unfold EkfConfig.observe
  split
  · exact ⟨0, _, _, rfl⟩
  · next hdt =>
    have hvalid : EkfConfig.validDt dt = true := by simpa using hdt
    dsimp only
    split
    · exact ⟨0, _, _, rfl⟩
    · generalize hpredicted : (if (sensors.imus[0].valid && sensors.imus[0].health == .good) = true
        then cfg.exact.predictState (s.tickAidingAge dt) sensors.imus[0].value dt
        else s.tickAidingAge dt) = predicted
      have htick : cfg.Reaches s (s.tickAidingAge dt) := .single (.tick dt) rfl hvalid
      have hpredict : cfg.Reaches s predicted := by
        rw [← hpredicted]
        split
        · exact htick.trans predictState_reaches
        · exact htick
      obtain ⟨⟨u, a⟩, hgnss⟩ : ∃ u, cfg.exact.observeGnss predicted sensors.gnss[0] overrides =
          some u := by
        unfold EkfConfig.observeGnss
        split
        · split
          · exact updateGnssState_returns hcfg _ _
          · exact ⟨_, rfl⟩
        · split
          · exact updateGnssState_returns hcfg _ _
          · exact ⟨_, rfl⟩
      have hu : FiniteState u := (hpredict.trans (observeGnss_reaches hgnss)).finite hs
      obtain ⟨v, hbaro⟩ : ∃ v, cfg.exact.observeBaro u sensors.baros[0] = some v := by
        unfold EkfConfig.observeBaro
        split
        · exact updateBaroState_returns hcfg _ _
        · exact ⟨_, rfl⟩
      have hv : FiniteState v := (observeBaro_reaches hu hbaro).finite hu
      obtain ⟨fuel, w, hmag⟩ : ∃ fuel w,
          cfg.exact.observeMag fuel v sensors.mags[0] sensors.geomagnetic = some w := by
        unfold EkfConfig.observeMag
        split
        · refine updateMagState_returns hcfg hlibm hv ?_ _
          cases hgeo : sensors.geomagnetic with
          | none => rfl
          | some g => exact hdecl g hgeo
        · exact ⟨0, _, rfl⟩
      refine ⟨fuel, w, a, ?_⟩
      simp only [Option.bind_eq_bind, hgnss, hbaro, hmag, Option.bind_some]
      rfl

end Updates

end Aviate

end EstimatorReturns

section EstimatorRealArithmetic

/-!
# The filter over the reals

The functions of `libm` on real numbers, and the default configuration. Over them every
assumption of the estimator's results holds.
-/

namespace Aviate

noncomputable section

/-- The functions of `libm`, exact on the reals. At infinite arguments only the square root
is other than NaN; the filter evaluates no other function there. -/
instance : Libm (ExactFloat ℝ) where
  sqrtf
    | .fin x => if 0 ≤ x then .fin √x else .nan
    | .posInf => .posInf
    | _ => .nan
  sinf
    | .fin x => .fin (Real.sin x)
    | _ => .nan
  cosf
    | .fin x => .fin (Real.cos x)
    | _ => .nan
  asinf
    | .fin x => if |x| ≤ 1 then .fin (Real.arcsin x) else .nan
    | _ => .nan
  atan2f
    | .fin y, .fin x => .fin (Complex.arg ⟨x, y⟩)
    | _, _ => .nan

instance : LibmPow (ExactFloat ℝ) where
  powf
    | .fin x, .fin y => if 0 ≤ x then .fin (x ^ y) else .nan
    | _, _ => .nan

end

theorem finiteLibm_real : FiniteLibm ℝ where
  sinf x hx := by
    obtain ⟨a, rfl⟩ := ExactFloat.isFinite_iff.mp hx
    rfl
  cosf x hx := by
    obtain ⟨a, rfl⟩ := ExactFloat.isFinite_iff.mp hx
    rfl
  asinf x hx := by
    have hrange : asinf (ExactFloat.fin x) = .fin (Real.arcsin x) := if_pos hx.le
    rw [hrange]
    rfl
  atan2f y x hy hx := by
    obtain ⟨a, rfl⟩ := ExactFloat.isFinite_iff.mp hy
    obtain ⟨b, rfl⟩ := ExactFloat.isFinite_iff.mp hx
    rfl

/-- The default configuration as numbers. -/
noncomputable def realConfig : EkfConfig ℝ :=
  (EkfConfig.default : EkfConfig (ExactFloat ℝ)).map ExactFloat.val

theorem realConfig_nonnegNoise : realConfig.NonnegNoise := by
  constructor <;> norm_num [realConfig, EkfConfig.map, EkfConfig.default]

theorem realConfig_orderedLimits : realConfig.OrderedLimits := by
  constructor <;> norm_num [realConfig, EkfConfig.map, EkfConfig.default]

/-! ## A run -/

/-- Sensors of which GNSS alone reports, a fix at rest at the origin. -/
def fixSensors {F : Type} [Scalar F] : SensorSet F where
  imus := Vector.replicate 3 (.missing ⟨Vector.replicate 3 (lit 0), Vector.replicate 3 (lit 0)⟩)
  gnss := Vector.replicate 2
    (.healthy ⟨Vector.replicate 3 (lit 0), Vector.replicate 3 (lit 0), .rtkFixed, .good⟩)
  mags := Vector.replicate 2 (.missing ⟨Vector.replicate 3 (lit 0)⟩)
  baros := Vector.replicate 2 (.missing ⟨none, none, none, none, none, none, none⟩)
  airspeeds := Vector.replicate 2 (.missing ⟨none, none, none, none, none, none⟩)
  geometry := none
  geomagnetic := none

/-- A seeded filter and one cycle with a fix. -/
noncomputable def fixCalls (a : Acceptance) : List (ReturnedCall (ExactFloat ℝ)) :=
  [⟨.init .zero .zero .identity, .none⟩, ⟨.observe fixSensors none (lit (1 / 100)), a⟩]

theorem fixCalls_finite (a : Acceptance) : ∀ c ∈ fixCalls a, c.call.Finite := by
  intro c hc
  simp only [fixCalls, List.mem_cons, List.not_mem_nil, or_false] at hc
  rcases hc with rfl | rfl
  · exact ⟨⟨rfl, rfl, rfl⟩, ⟨rfl, rfl, rfl⟩, Quaternion.finite_identity⟩
  · exact fun g hg => nomatch hg

/-- The cycle returns. -/
theorem fixCalls_path : ∃ a s, realConfig.exact.calls.Path .new (fixCalls a) s := by
  have hseed : FiniteState (EkfState.new.init .zero .zero .identity : EkfState (ExactFloat ℝ)) :=
    { FiniteState.new with }
  obtain ⟨fuel, s, a, h⟩ := observe_returns realConfig_orderedLimits finiteLibm_real hseed
    fixSensors (fun g hg => nomatch hg) none (lit (1 / 100))
  exact ⟨a, s, .cons ⟨rfl, rfl⟩ (.single ⟨fuel, h⟩)⟩

theorem covariance_conditioned_fix : ∃ a s, realConfig.exact.calls.Path .new (fixCalls a) s ∧
    (Mat.val s.pCov).PosSemidef ∧ ∀ i, 0 < Mat.val s.pCov i i := by
  obtain ⟨a, s, hrun⟩ := fixCalls_path
  obtain ⟨hreach, hconditioned⟩ := covariance_conditioned realConfig_nonnegNoise finiteLibm_real
    (fixCalls_finite a) hrun
  obtain ⟨-, -, hsemidef, hpos, -⟩ := hconditioned s hreach
  exact ⟨a, s, hrun, hsemidef, hpos⟩

end Aviate

end EstimatorRealArithmetic

section EstimatorFix

/-!
# A fix at the estimate

A measurement of exactly what the filter predicts passes the gate, changes nothing but the
covariance, and raises no variance. A GNSS reading at the estimate is then accepted on all its
axes, and the position and velocity flags are reported after it.

Results:
1. A scalar update at the prediction only updates the covariance (`scalarUpdate_exact`), and
   raises no variance above the floor (`josephScalarCovUpdate_le`).
2. After a GNSS reading at the estimate both flags are reported (`fix_reported`).
-/

namespace Aviate

open TransitionSystem

/-! ## Corrections by nothing -/

section Corrections

variable {K : Type} [Field K] [LinearOrder K] [IsStrictOrderedRing K] [Libm (ExactFloat K)]
  {cfg : EkfConfig K} {s : EkfState (ExactFloat K)} {q : Quaternion (ExactFloat K)}
  {v : Vector3 (ExactFloat K)} {k : Vector (ExactFloat K) stateDim}

omit [LinearOrder K] [IsStrictOrderedRing K] [Libm (ExactFloat K)] in
theorem add_fin_zero {x : ExactFloat K} (hx : x.isFinite = true) : x + .fin 0 = x := by
  obtain ⟨a, rfl⟩ := ExactFloat.isFinite_iff.mp hx
  rw [ExactFloat.fin_add_fin, add_zero]

omit [IsStrictOrderedRing K] [Libm (ExactFloat K)] in
theorem mul_fin_zero {x : ExactFloat K} (hx : x.isFinite = true) : x * .fin 0 = .fin 0 := by
  obtain ⟨a, rfl⟩ := ExactFloat.isFinite_iff.mp hx
  rw [ExactFloat.fin_mul_fin, mul_zero]

omit [IsStrictOrderedRing K] [Libm (ExactFloat K)] in
theorem correction_zero (hk : ∀ i : Fin stateDim, k[i].isFinite = true) {base : Nat}
    (h : base + 3 ≤ stateDim) :
    EkfState.correction k (.fin 0) base h = ⟨.fin 0, .fin 0, .fin 0⟩ := by
  have hzero (i : Nat) (hi : i < stateDim) : k[i] * .fin 0 = .fin 0 := mul_fin_zero (hk ⟨i, hi⟩)
  simp only [EkfState.correction, hzero]

omit [IsStrictOrderedRing K] [Libm (ExactFloat K)] in
theorem Vector3.Finite.add_zero (hv : v.Finite) : v.add ⟨.fin 0, .fin 0, .fin 0⟩ = v := by
  obtain ⟨hx, hy, hz⟩ := hv
  simp only [Vector3.add, add_fin_zero hx, add_fin_zero hy, add_fin_zero hz]

/-- The square root at one is exact. -/
def ExactUnitRoot (K : Type) [Field K] [LinearOrder K] [Libm (ExactFloat K)] : Prop :=
  sqrtf (.fin 1 : ExactFloat K) = .fin 1

theorem sanitizeQuat_unit (hroot : ExactUnitRoot K) (hq : q.Finite)
    (hunit : q.normSq = .fin 1) : s.sanitizeQuat q = (s, q) := by
  have hdiv {x : ExactFloat K} (hx : x.isFinite = true) : x / .fin 1 = x := by
    obtain ⟨a, rfl⟩ := ExactFloat.isFinite_iff.mp hx
    rw [ExactFloat.fin_div_fin one_ne_zero, div_one]
  have hnormalize : q.normalize = q := by
    obtain ⟨hw, hx, hy, hz⟩ := hq
    have hone : sqrtf (.fin 1 : ExactFloat K) = .fin 1 := hroot
    have hlong : Scalar.lt (lit (1 / 1000000)) (.fin 1 : ExactFloat K) = true := by
      rw [lt_exact, lit_exact, ExactFloat.lt_fin]
      norm_num
    simp only [Quaternion.normalize, hunit, hone, hlong, hdiv hw, hdiv hx, hdiv hy, hdiv hz]
    rfl
  have hnormalized : q.isNormalized quatNormEps = true := by
    simp [Quaternion.isNormalized, hunit, quatNormEps, ExactFloat.abs]
  simp only [EkfState.sanitizeQuat, hnormalize, hnormalized]
  rfl

omit [IsStrictOrderedRing K] [Libm (ExactFloat K)] in
theorem Quaternion.Finite.one_mul (hq : q.Finite) :
    (⟨lit 1, .fin 0, .fin 0, .fin 0⟩ : Quaternion (ExactFloat K)).mul q = q := by
  obtain ⟨w, x, y, z⟩ := q
  obtain ⟨hw, hx, hy, hz⟩ := hq
  obtain ⟨w, rfl⟩ := ExactFloat.isFinite_iff.mp hw
  obtain ⟨x, rfl⟩ := ExactFloat.isFinite_iff.mp hx
  obtain ⟨y, rfl⟩ := ExactFloat.isFinite_iff.mp hy
  obtain ⟨z, rfl⟩ := ExactFloat.isFinite_iff.mp hz
  simp [Quaternion.mul]

theorem rotateAttitude_zero (hroot : ExactUnitRoot K) (hs : FiniteState s)
    (hunit : s.quat.normSq = .fin 1) :
    s.rotateAttitude ⟨.fin 0, .fin 0, .fin 0⟩ = s := by
  have hhalf : (.fin 0 : ExactFloat K) * lit (1 / 2) = .fin 0 := by
    rw [lit_exact, ExactFloat.fin_mul_fin, zero_mul]
  have hone : (⟨lit 1, .fin 0, .fin 0, .fin 0⟩ : Quaternion (ExactFloat K)).normSq = .fin 1 := by
    simp [Quaternion.normSq]
  have hsmall := sanitizeQuat_unit (s := s) hroot ⟨rfl, rfl, rfl, rfl⟩ hone
  simp only [EkfState.rotateAttitude, hhalf, hsmall, hs.quat.one_mul,
    sanitizeQuat_unit hroot hs.quat hunit]

end Corrections

/-! ## Updates at the prediction -/

section Updates

variable [Libm (ExactFloat ℝ)] {cfg : EkfConfig ℝ} {s t : EkfState (ExactFloat ℝ)}

omit [Libm (ExactFloat ℝ)] in
theorem WithinLimit.clamp {v : Vector3 (ExactFloat ℝ)} {limit : ℝ} (hv : WithinLimit v limit)
    (hlimit : 0 ≤ limit) : v.clamp (.fin limit) = some v := by
  have hkept : ∀ x : ExactFloat ℝ, (∃ b, x = .fin b ∧ |b| ≤ |limit|) →
      Scalar.clamp x (-.fin limit) (.fin limit) = x := by
    rintro x ⟨b, rfl, hb⟩
    rw [abs_of_nonneg hlimit] at hb
    obtain ⟨hlow, hhigh⟩ := abs_le.mp hb
    refine (ExactFloat.clamp_fin (by linarith)).trans ?_
    rw [min_eq_left hhigh, max_eq_right hlow]
  unfold Vector3.clamp
  rw [if_pos (by simpa using hlimit)]
  obtain ⟨x, y, z⟩ := v
  exact congrArg some (congr (congrArg₂ _ (hkept x (hv 0)) (hkept y (hv 1))) (hkept z (hv 2)))

/-- A filter that a fix can be fused into without a fault. -/
structure Settled (cfg : EkfConfig ℝ) (s : EkfState (ExactFloat ℝ)) : Prop where
  conditioned : Conditioned cfg s
  initialized : s.initialized = true
  noFault : s.quatFault = false
  unit : s.quat.normSq = .fin 1

/-- A scalar update at the prediction is accepted and only updates the covariance. -/
theorem scalarUpdate_exact {idx : Fin stateDim} {pred : ExactFloat ℝ} {r : ℝ}
    (hroot : ExactUnitRoot ℝ) (hcfg : cfg.OrderedLimits) (hs : Settled cfg s)
    (hpred : s.measured idx = some pred) (hr : 1 / 1000000000 ≤ r) :
    cfg.exact.scalarUpdate s idx pred (.fin r) =
      some ({ s with
        pCov := EkfConfig.josephScalarCovUpdate s.pCov
          (s.kalmanGain idx (s.innovationVariance idx (.fin r))) idx (.fin r) }, true) := by
  have hfinite := hs.conditioned.finite
  have hinnov : pred - pred = .fin 0 := by
    obtain ⟨p, rfl⟩ := ExactFloat.isFinite_iff.mp (hfinite.measured hpred)
    rw [ExactFloat.fin_sub_fin, sub_self]
  have hvariance :
      Scalar.lt (s.innovationVariance idx (.fin r)) (lit (1 / 1000000000)) = false := by
    have hpos : 0 < Mat.val s.pCov idx idx := hs.conditioned.posDef.diag_pos
    rw [EkfState.innovationVariance, Mat.get_eq_fin hfinite.pCov, ExactFloat.fin_add_fin,
      lt_exact, lit_exact, ExactFloat.lt_fin, decide_eq_false_iff_not, not_lt]
    push_cast
    linarith
  have hgate : cfg.exact.gateRejects (.fin 0) (s.innovationVariance idx (.fin r)) = false := by
    have hkept : ¬cfg.exact.rejects s ⟨idx, .fin 0, .fin r⟩ = true := fun h =>
      rejects_innov hfinite rfl h rfl
    simp only [EkfConfig.rejects, hvariance, Bool.not_false, Bool.true_and, Bool.not_eq_true]
      at hkept
    exact hkept
  have hk := hfinite.kalmanGain rfl hvariance
  have hcorrected : ((s.correctMotion (s.kalmanGain idx (s.innovationVariance idx (.fin r)))
      (.fin 0)).correctGyroBias (s.kalmanGain idx (s.innovationVariance idx (.fin r)))
      (.fin 0)).correctAccelBias (s.kalmanGain idx (s.innovationVariance idx (.fin r)))
      (.fin 0) = s := by
    simp only [EkfState.correctMotion, EkfState.correctGyroBias, EkfState.correctAccelBias,
      correction_zero hk, hfinite.pos.add_zero, hfinite.vel.add_zero, hfinite.gyroBias.add_zero,
      hfinite.accelBias.add_zero]
  have hclamped : cfg.exact.clampBiases s = some s := by
    have hgyro := hs.conditioned.gyroBias.clamp hcfg.gyroBias
    have haccel := hs.conditioned.accelBias.clamp hcfg.accelBias
    simp only [EkfConfig.clampBiases, EkfConfig.map, hgyro, haccel, Option.bind_eq_bind,
      Option.bind_some]
    rfl
  have hrotated : s.correctAttitude (s.kalmanGain idx (s.innovationVariance idx (.fin r)))
      (.fin 0) = s := by
    rw [EkfState.correctAttitude, correction_zero hk, rotateAttitude_zero hroot hfinite hs.unit]
  unfold EkfConfig.scalarUpdate
  rw [hpred]
  dsimp only
  rw [hinnov, hvariance, hgate, hcorrected, hclamped]
  simp only [Bool.false_eq_true, if_false, Option.bind_eq_bind, Option.bind_some, hrotated]
  rfl

omit [Libm (ExactFloat ℝ)] in
/-- A scalar update raises no variance above the floor. -/
theorem josephScalarCovUpdate_le {idx : Fin stateDim} {r : ℝ} (hs : Conditioned cfg s)
    (hr : 1 / 1000000000 ≤ r) (i : Fin stateDim) :
    Mat.val (EkfConfig.josephScalarCovUpdate s.pCov
      (s.kalmanGain idx (s.innovationVariance idx (.fin r))) idx (.fin r)) i i ≤
        max (Mat.val s.pCov i i) (1 / 1000000000) := by
  have hfinite := hs.finite.pCov
  have hpos : 0 < Mat.val s.pCov idx idx + r := by
    have hdiag : 0 < Mat.val s.pCov idx idx := hs.posDef.diag_pos
    linarith
  have hvariance : s.innovationVariance idx (.fin r) = .fin (Mat.val s.pCov idx idx + r) := by
    rw [EkfState.innovationVariance, Mat.get_eq_fin hfinite, ExactFloat.fin_add_fin]
  have hentry : ∀ j : Fin stateDim, (s.kalmanGain idx (s.innovationVariance idx (.fin r)))[j] =
      .fin (Covariance.gain (Mat.val s.pCov) idx r j) := by
    intro j
    have hone : (lit 1 : ExactFloat ℝ) = .fin 1 := congrArg ExactFloat.fin Rat.cast_one
    simp only [EkfState.kalmanGain, hvariance, hone, ExactFloat.fin_div_fin hpos.ne',
      Mat.get_eq_fin hfinite, ExactFloat.fin_mul_fin, Covariance.gain]
    simp
  have hgain : gainVal (s.kalmanGain idx (s.innovationVariance idx (.fin r))) =
      Covariance.gain (Mat.val s.pCov) idx r := by
    funext j
    rw [gainVal, hentry, ExactFloat.val_fin]
  have hk : ∀ j : Fin stateDim,
      (s.kalmanGain idx (s.innovationVariance idx (.fin r)))[j].isFinite = true := by
    intro j
    rw [hentry]
    rfl
  have hle := Covariance.joseph_gain_le (val_isSymm_of_posDef hs.posDef) hpos i
  rw [val_josephScalarCovUpdate hfinite hs.posDef hk (by linarith), hgain, Matrix.add_apply,
    Matrix.diagonal_apply_eq]
  rcases le_total (1 / 1000000000) (Covariance.joseph (Mat.val s.pCov)
    (Covariance.gain (Mat.val s.pCov) idx r) idx r i i) with hhigh | hlow
  · rw [max_eq_right (by push_cast; linarith), add_zero]
    exact hle.trans (le_max_left _ _)
  · rw [max_eq_left (by push_cast; linarith)]
    push_cast
    rw [add_sub_cancel]
    exact le_max_right _ _

/-- What is settled after one axis is settled after three. -/
theorem Settled.scalarUpdate {idx : Fin stateDim} {pred : ExactFloat ℝ} {r : ℝ}
    (hroot : ExactUnitRoot ℝ) (hcfg : cfg.OrderedLimits) (hs : Settled cfg s)
    (hpred : s.measured idx = some pred) (hr : 1 / 1000000000 ≤ r) :
    ∃ p, cfg.exact.scalarUpdate s idx pred (.fin r) = some ({ s with pCov := p }, true) ∧
      Settled cfg { s with pCov := p } ∧
      ∀ i, Mat.val p i i ≤ max (Mat.val s.pCov i i) (1 / 1000000000) := by
  have hupdate := scalarUpdate_exact hroot hcfg hs hpred hr
  have hfinite := hs.conditioned.finite.measured hpred
  have hconditioned := hs.conditioned.scalarUpdate hfinite (by linarith) hupdate
  exact ⟨_, hupdate, { hs with conditioned := hconditioned },
    josephScalarCovUpdate_le hs.conditioned hr⟩

/-- A channel at the prediction. -/
theorem Settled.fuseAxes {base : Nat} {hbase : base + 3 ≤ stateDim} {v : Vector3 (ExactFloat ℝ)}
    {r : ℝ} (hroot : ExactUnitRoot ℝ) (hcfg : cfg.OrderedLimits) (hs : Settled cfg s)
    (hx : ∀ p, ({ s with pCov := p } : EkfState _).measured ⟨base, by omega⟩ = some v.x)
    (hy : ∀ p, ({ s with pCov := p } : EkfState _).measured ⟨base + 1, by omega⟩ = some v.y)
    (hz : ∀ p, ({ s with pCov := p } : EkfState _).measured ⟨base + 2, by omega⟩ = some v.z)
    (hr : 1 / 1000000000 ≤ r) :
    ∃ p, cfg.exact.fuseAxes s base v.toVector (.fin r) hbase =
        some ({ s with pCov := p }, true) ∧
      Settled cfg { s with pCov := p } ∧
      ∀ i, Mat.val p i i ≤ max (Mat.val s.pCov i i) (1 / 1000000000) := by
  obtain ⟨p₁, hfirst, hs₁, hle₁⟩ := hs.scalarUpdate hroot hcfg (hx s.pCov) hr
  obtain ⟨p₂, hsecond, hs₂, hle₂⟩ := hs₁.scalarUpdate hroot hcfg (hy p₁) hr
  obtain ⟨p₃, hthird, hs₃, hle₃⟩ := hs₂.scalarUpdate hroot hcfg (hz p₂) hr
  refine ⟨p₃, ?_, hs₃, fun i => ?_⟩
  · have hfirst' : cfg.exact.scalarUpdate s ⟨base, by omega⟩ v.toVector[0] (.fin r) = _ := hfirst
    have hsecond' : cfg.exact.scalarUpdate { s with pCov := p₁ } ⟨base + 1, by omega⟩
      v.toVector[1] (.fin r) = _ := hsecond
    have hthird' : cfg.exact.scalarUpdate { s with pCov := p₂ } ⟨base + 2, by omega⟩
      v.toVector[2] (.fin r) = _ := hthird
    simp only [EkfConfig.fuseAxes, Option.bind_eq_bind, hfirst', hsecond', hthird',
      Option.bind_some]
    rfl
  · have hthen := max_le_max_right (1 / 1000000000 : ℝ) (hle₁ i)
    have hnext := max_le_max_right (1 / 1000000000 : ℝ) (hle₂ i)
    rw [max_assoc, max_self] at hthen hnext
    exact (hle₃ i).trans (hnext.trans hthen)

/-! ## Reported flags -/

omit [Libm (ExactFloat ℝ)] in
theorem max_fin (x y : ℝ) : Scalar.max (ExactFloat.fin x) (.fin y) = .fin (max x y) := by
  simp only [Scalar.max, le_exact, lt_exact, ExactFloat.le_fin, ExactFloat.lt_fin, le_refl,
    decide_true, Bool.not_true, Bool.false_eq_true, if_false, decide_eq_true_eq]
  split
  · next hlt => rw [max_eq_right hlt.le]
  · next hle => rw [max_eq_left (not_lt.mp hle)]

omit [Libm (ExactFloat ℝ)] in
theorem maxBlockVariance_lt {base : Nat} {hbase : base + 3 ≤ stateDim} {bound : ℚ}
    (hs : FiniteState s) (hbound : 0 < bound)
    (h : ∀ i : Fin stateDim, base ≤ i.val → i.val < base + 3 → Mat.val s.pCov i i < bound) :
    Scalar.lt (s.maxBlockVariance base hbase) (lit bound) = true := by
  have hlow : ((-340282346638528859811704183484516925440 : ℚ) : ℝ) < bound := by
    have hpos : (0 : ℝ) < bound := by exact_mod_cast hbound
    push_cast
    linarith
  have hentry (i : Fin 3) := h ⟨base + i.val, by omega⟩ (Nat.le_add_right _ _)
    (Nat.add_lt_add_left i.isLt base)
  simp only [EkfState.maxBlockVariance, Fin.foldl_succ, Fin.foldl_zero, scalarMin, lit_exact,
    Mat.get_eq_fin hs.pCov, max_fin, lt_exact, ExactFloat.lt_fin, decide_eq_true_eq]
  exact max_lt (max_lt (max_lt hlow (hentry 0)) (hentry 1)) (hentry 2)

omit [Libm (ExactFloat ℝ)] in
theorem Vector3.Finite.isFinite {v : Vector3 (ExactFloat ℝ)} (hv : v.Finite) :
    v.isFinite = true := by
  simp [Vector3.isFinite, hv.1, hv.2.1, hv.2.2]

omit [Libm (ExactFloat ℝ)] in
/-- Freshly aided and within the covariance bounds, both flags are reported. -/
theorem Settled.flags_reported (hs : Settled cfg s) (hposAge : s.gnssPosAgeS = lit 0)
    (hvelAge : s.gnssVelAgeS = lit 0)
    (hposVar : ∀ i : Fin stateDim, i.val < 3 → Mat.val s.pCov i i < 50)
    (hvelVar : ∀ i : Fin stateDim, 3 ≤ i.val → i.val < 6 → Mat.val s.pCov i i < 25) :
    s.getEstimate.validFlags.contains StateValidFlags.position = true ∧
      s.getEstimate.validFlags.contains StateValidFlags.velocity = true := by
  have hfinite := hs.conditioned.finite
  have hattitude : s.attitudeValid = true := by
    simp [EkfState.attitudeValid, hs.initialized, hs.noFault]
  have hfresh : Scalar.le (lit 0 : ExactFloat ℝ) (lit 5) = true := by simp
  have hposBound : Scalar.lt (s.maxBlockVariance idxPos (by decide)) (lit 50) = true := by
    refine maxBlockVariance_lt hfinite (by norm_num) fun i _ hi => ?_
    exact_mod_cast hposVar i hi
  have hvelBound : Scalar.lt (s.maxBlockVariance idxVel (by decide)) (lit 25) = true := by
    refine maxBlockVariance_lt hfinite (by norm_num) fun i hlow hhigh => ?_
    exact_mod_cast hvelVar i hlow hhigh
  obtain ⟨-, hposition, hvelocity⟩ := validFlags_contains s
  constructor
  · refine hposition.trans ?_
    rw [EkfState.positionValid, hattitude, hfinite.pos.isFinite, hposAge, gnssPosAidingTimeoutS,
      hfresh, positionCovBoundM2, hposBound]
    rfl
  · refine hvelocity.trans ?_
    rw [EkfState.velocityValid, hattitude, hfinite.vel.isFinite, hvelAge, gnssVelAidingTimeoutS,
      hfresh, velocityCovBoundM2S2, hvelBound]
    rfl

/-- A GNSS reading at the estimate of a settled filter within the covariance bounds: all its
axes are accepted, and both flags are reported after it. -/
theorem fix_reported {reading : SensorReading (GnssData (ExactFloat ℝ))}
    (hroot : ExactUnitRoot ℝ) (hcfg : cfg.OrderedLimits) (hs : Settled cfg s)
    (hgnss : gnssUsable reading = true) (hpos : reading.value.positionNed = s.pos.toVector)
    (hvel : reading.value.velocityNed = s.vel.toVector)
    (hposNoise : 1 / 1000000000 ≤ cfg.measNoiseGnssPos)
    (hvelNoise : 1 / 1000000000 ≤ cfg.measNoiseGnssVel)
    (hposVar : ∀ i : Fin stateDim, i.val < 3 → Mat.val s.pCov i i < 50)
    (hvelVar : ∀ i : Fin stateDim, 3 ≤ i.val → i.val < 6 → Mat.val s.pCov i i < 25) :
    ∃ t, cfg.exact.updateGnssState s reading = some (t, ⟨true, true⟩) ∧
      t.getEstimate.validFlags.contains StateValidFlags.position = true ∧
      t.getEstimate.validFlags.contains StateValidFlags.velocity = true := by
  have hposAxes : ∃ p, cfg.exact.fuseAxes s idxPos s.pos.toVector (.fin cfg.measNoiseGnssPos)
      (by decide) = some ({ s with pCov := p }, true) ∧ Settled cfg { s with pCov := p } ∧
      ∀ i, Mat.val p i i ≤ max (Mat.val s.pCov i i) (1 / 1000000000) :=
    hs.fuseAxes hroot hcfg (fun _ => rfl) (fun _ => rfl) (fun _ => rfl) hposNoise
  obtain ⟨p, hfusePos, hafterPos, hle⟩ := hposAxes
  have haided : Settled cfg { s with pCov := p, gnssPosAgeS := lit 0 } :=
    { hafterPos with
      conditioned := { hafterPos.conditioned with
        finite := { hafterPos.conditioned.finite with } } }
  have hvelAxes : ∃ q, cfg.exact.fuseAxes { s with pCov := p, gnssPosAgeS := lit 0 } idxVel
      s.vel.toVector (.fin cfg.measNoiseGnssVel) (by decide) =
        some ({ s with pCov := q, gnssPosAgeS := lit 0 }, true) ∧
      Settled cfg { s with pCov := q, gnssPosAgeS := lit 0 } ∧
      ∀ i, Mat.val q i i ≤ max (Mat.val p i i) (1 / 1000000000) :=
    haided.fuseAxes hroot hcfg (fun _ => rfl) (fun _ => rfl) (fun _ => rfl) hvelNoise
  obtain ⟨q, hfuseVel, hafterVel, hle'⟩ := hvelAxes
  have hreported : Settled cfg { s with pCov := q, gnssPosAgeS := lit 0, gnssVelAgeS := lit 0 } :=
    { hafterVel with
      conditioned := { hafterVel.conditioned with
        finite := { hafterVel.conditioned.finite with } } }
  have hvariance (i : Fin stateDim) {bound : ℝ} (hi : Mat.val s.pCov i i < bound)
      (hbound : 1 < bound) : Mat.val q i i < bound := by
    have hsmall : (1 / 1000000000 : ℝ) < bound := by linarith
    exact (hle' i).trans_lt (max_lt ((hle i).trans_lt (max_lt hi hsmall)) hsmall)
  refine ⟨{ s with pCov := q, gnssPosAgeS := lit 0, gnssVelAgeS := lit 0 }, ?_,
    hreported.flags_reported rfl rfl (fun i hi => hvariance i (hposVar i hi) (by norm_num))
      fun i hlow hhigh => hvariance i (hvelVar i hlow hhigh) (by norm_num)⟩
  have hposNoise' : cfg.exact.measNoiseGnssPos = .fin cfg.measNoiseGnssPos := rfl
  have hvelNoise' : cfg.exact.measNoiseGnssVel = .fin cfg.measNoiseGnssVel := rfl
  have hfused : (!s.initialized || !gnssUsable reading) = false := by
    rw [hs.initialized, hgnss]
    rfl
  unfold EkfConfig.updateGnssState
  simp only [hfused, Bool.false_eq_true, if_false, if_true, hpos, hvel, hposNoise', hvelNoise',
    Option.bind_eq_bind, hfusePos, hfuseVel, Option.bind_some]
  rfl

end Updates

/-! ## A reported fix -/

theorem exactUnitRoot_real : ExactUnitRoot ℝ := by
  have hroot : sqrtf (.fin 1 : ExactFloat ℝ) = .fin √1 := if_pos zero_le_one
  rw [ExactUnitRoot, hroot, Real.sqrt_one]

/-- The seeded filter, one tick later. -/
noncomputable def seeded : EkfState (ExactFloat ℝ) :=
  (EkfState.new.init .zero .zero .identity).tickAidingAge (lit (1 / 100))

theorem validDt_cycle : EkfConfig.validDt (lit (1 / 100) : ExactFloat ℝ) = true :=
  validDt_iff.mpr ⟨_, rfl, by norm_num⟩

theorem seeded_frame :
    seeded.initialized = true ∧ seeded.quatFault = false ∧ seeded.quat = .identity ∧
      seeded.pos = .zero ∧ seeded.vel = .zero ∧ seeded.pCov = initialCovariance := by
  unfold seeded EkfState.tickAidingAge
  split <;> exact ⟨rfl, rfl, rfl, rfl, rfl, rfl⟩

theorem seeded_settled : Settled realConfig seeded := by
  have hreach : realConfig.Reaches .new seeded :=
    (EkfConfig.Reaches.single (.init .zero .zero .identity) rfl
      ⟨⟨rfl, rfl, rfl⟩, ⟨rfl, rfl, rfl⟩, Quaternion.finite_identity⟩).trans
        (.single (.tick (lit (1 / 100))) rfl validDt_cycle)
  obtain ⟨hinitialized, hfault, hquat, -⟩ := seeded_frame
  refine ⟨hreach.conditioned realConfig_nonnegNoise .new, hinitialized, hfault, ?_⟩
  rw [hquat]
  simp [Quaternion.identity, Quaternion.normSq]

theorem seeded_variance (i : Fin stateDim) : Mat.val seeded.pCov i i < 25 := by
  obtain ⟨-, -, -, -, -, hcov⟩ := seeded_frame
  have hentry : Mat.get (initialCovariance : Mat (ExactFloat ℝ) stateDim stateDim) i i =
      if idxAb ≤ i.val ∧ i.val < idxAb + 3 then lit (4 / 100)
      else if idxGb ≤ i.val ∧ i.val < idxGb + 3 then lit (4 / 10000)
      else lit 1 * lit (1 / 10) := by
    simp [initialCovariance, Mat.get]
  rw [hcov, Mat.val_apply, hentry]
  split
  · norm_num
  · split <;> norm_num

/-- A seeded filter reports both flags after one cycle with a fix. -/
theorem fixCalls_reported : ∃ s, realConfig.exact.calls.Path .new (fixCalls ⟨true, true⟩) s ∧
    s.getEstimate.validFlags.contains StateValidFlags.position = true ∧
    s.getEstimate.validFlags.contains StateValidFlags.velocity = true := by
  obtain ⟨-, -, -, hpos, hvel, -⟩ := seeded_frame
  have hnoise : (1 / 1000000000 : ℝ) ≤ realConfig.measNoiseGnssPos ∧
      (1 / 1000000000 : ℝ) ≤ realConfig.measNoiseGnssVel := by
    constructor <;> norm_num [realConfig, EkfConfig.map, EkfConfig.default]
  have hfix : ∃ t, realConfig.exact.updateGnssState seeded fixSensors.gnss[0] =
      some (t, ⟨true, true⟩) ∧ _ :=
    fix_reported exactUnitRoot_real realConfig_orderedLimits seeded_settled rfl
      (by rw [hpos]; rfl) (by rw [hvel]; rfl) hnoise.1 hnoise.2
      (fun i _ => (seeded_variance i).trans (by norm_num)) fun i _ _ => seeded_variance i
  obtain ⟨t, hupdate, hflags⟩ := hfix
  refine ⟨t, .cons ⟨rfl, rfl⟩ (.single ⟨0, ?_⟩), hflags⟩
  have hgnss : realConfig.exact.observeGnss seeded fixSensors.gnss[0] none =
      some (t, ⟨true, true⟩) := hupdate
  have hbaro : realConfig.exact.observeBaro t fixSensors.baros[0] = some t := rfl
  have hmag : realConfig.exact.observeMag 0 t fixSensors.mags[0] none = some t := rfl
  have himu : ((fixSensors : SensorSet (ExactFloat ℝ)).imus[0].valid &&
      (fixSensors : SensorSet (ExactFloat ℝ)).imus[0].health == .good) = false := rfl
  have hgeomagnetic : (fixSensors : SensorSet (ExactFloat ℝ)).geomagnetic = none := rfl
  unfold EkfConfig.observe
  rw [validDt_cycle]
  simp only [Bool.not_true, Bool.false_eq_true, if_false, himu, Bool.false_and]
  rw [← seeded, hgnss]
  simp only [Option.bind_eq_bind, Option.bind_some, hbaro, hgeomagnetic, hmag]
  rfl

theorem flags_honest_fix : ∃ s, realConfig.exact.calls.Path .new (fixCalls ⟨true, true⟩) s ∧
    s.getEstimate.validFlags.contains StateValidFlags.position = true ∧
    AidedWithin Acceptance.pos 5 (fixCalls ⟨true, true⟩) ∧
    s.getEstimate.validFlags.contains StateValidFlags.velocity = true ∧
    AidedWithin Acceptance.vel 5 (fixCalls ⟨true, true⟩) := by
  obtain ⟨s, hrun, hposition, hvelocity⟩ := fixCalls_reported
  obtain ⟨hpos, hvel⟩ := flags_honest hrun
  exact ⟨s, hrun, hposition, (hpos hposition).2.2, hvelocity, (hvel hvelocity).2.2⟩

end Aviate

end EstimatorFix

section FoundationsSlotTable

/-!
# Tables with a fixed number of slots

A `SlotTable ε n` keeps at most `n` entries in `n` slots, each free or occupied.
Entries are found by a linear scan, and a new entry goes into the first free
slot.

Results:
1. `lookup_replace` and `lookup_insert`: overwriting an entry under its own key,
   and inserting an entry under a key not yet present, change the lookup of that
   key only. No assumption on the rest of the table is needed.
2. Both keep the keys of the table distinct (`DistinctOn.replace`,
   `DistinctOn.insert`).
3. `exists_firstFree`: a table whose distinct keys all come from fewer keys than it
   has slots has a free slot.
-/

/-- `n` slots, each free or holding an entry. -/
abbrev SlotTable (ε : Type*) (n : ℕ) := Vector (Option ε) n

namespace SlotTable

variable {ε κ : Type*} {n : ℕ}

/-- What slot `i` holds. -/
def slot (t : SlotTable ε n) (i : Fin n) : Option ε := t[i]

/-- Write `e` into slot `i`. -/
def put (t : SlotTable ε n) (i : Fin n) (e : ε) : SlotTable ε n := t.set i (some e)

/-- Every slot is free. -/
def empty : SlotTable ε n := Vector.replicate n none

/-- The occupied entries, in slot order. -/
def entries (t : SlotTable ε n) : List ε := t.toList.filterMap id

/-- The first slot whose entry meets `p`. -/
def position (p : ε → Bool) (t : SlotTable ε n) : Option (Fin n) :=
  Fin.find? fun i => (t.slot i).any p

/-- The first free slot. -/
def firstFree (t : SlotTable ε n) : Option (Fin n) := Fin.find? fun i => (t.slot i).isNone

/-- The entry `e` is in the table. -/
def Holds (t : SlotTable ε n) (e : ε) : Prop := ∃ i, t.slot i = some e

/-- No two slots hold entries with the same key. -/
def DistinctOn (key : ε → κ) (t : SlotTable ε n) : Prop :=
  ∀ (i j : Fin n) (e e' : ε), t.slot i = some e → t.slot j = some e' → key e = key e' → i = j

/-- The first entry with the key `k`. -/
def lookup [DecidableEq κ] (key : ε → κ) (k : κ) (t : SlotTable ε n) : Option ε :=
  (t.position fun e => key e = k).bind t.slot

variable {key : ε → κ} {t : SlotTable ε n} {i j : Fin n} {e e' : ε} {p : ε → Bool}

@[simp] theorem slot_empty : (empty : SlotTable ε n).slot i = none := by simp [slot, empty]

theorem slot_put : (t.put i e).slot j = if i = j then some e else t.slot j := by
  simp [slot, put, Vector.getElem_set, Fin.ext_iff]

theorem mem_entries : e ∈ t.entries ↔ t.Holds e := by
  simp only [entries, List.mem_filterMap, id, exists_eq_right, Holds]
  rw [Vector.mem_toList_iff, Vector.mem_iff_getElem]
  constructor
  · rintro ⟨i, hi, h⟩
    exact ⟨⟨i, hi⟩, h⟩
  · rintro ⟨i, h⟩
    exact ⟨i, i.isLt, h⟩

theorem entries_length_le (t : SlotTable ε n) : t.entries.length ≤ n := by
  have hle := List.length_filterMap_le id t.toList
  rwa [Vector.length_toList] at hle

/-! ## Scanning -/

/-- What the scan finds is an entry that meets the predicate. -/
theorem position_spec (h : t.position p = some i) : ∃ e, t.slot i = some e ∧ p e = true := by
  have hany := (Fin.find?_eq_some_iff.mp h).1
  cases hi : t.slot i with
  | none => simp [hi] at hany
  | some e => exact ⟨e, rfl, by simpa [hi] using hany⟩

theorem position_eq_none_iff : t.position p = none ↔ ∀ e, t.Holds e → p e = false := by
  rw [position, Fin.find?_eq_none_iff]
  constructor
  · rintro h e ⟨i, hi⟩
    simpa [hi] using h i
  · intro h i
    cases hi : t.slot i with
    | none => rfl
    | some e => simpa using h e ⟨i, hi⟩

theorem firstFree_spec (h : t.firstFree = some i) : t.slot i = none := by
  have hnone := (Fin.find?_eq_some_iff.mp h).1
  simpa using hnone

/-- Without a free slot every slot is occupied. -/
theorem occupied_of_firstFree_eq_none (h : t.firstFree = none) (i : Fin n) :
    ∃ e, t.slot i = some e := by
  have hsome := Fin.find?_eq_none_iff.mp h i
  exact Option.isSome_iff_exists.mp (by simpa using hsome)

/-- Writing a slot does not move the scan for `p` when neither the entry written nor
the one it replaces meets `p`. -/
theorem position_set (hnew : p e = false) (hold : ∀ e', t.slot i = some e' → p e' = false) :
    (t.put i e).position p = t.position p := by
  unfold position
  congr 1
  funext j
  rw [slot_put]
  split
  · rename_i hij
    subst hij
    cases hi : t.slot i with
    | none => simp [hnew]
    | some e' => simp [hnew, hold e' hi]
  · rfl

/-! ## Looking up by key -/

section Lookup

variable [DecidableEq κ] {k : κ}

@[simp] theorem lookup_empty : (empty : SlotTable ε n).lookup key k = none := by
  have hnone : (empty : SlotTable ε n).position (fun e => key e = k) = none := by
    rw [position_eq_none_iff]
    rintro e ⟨i, hi⟩
    simp at hi
  simp [lookup, hnone]

theorem lookup_eq_none_iff : t.lookup key k = none ↔ t.position (key · = k) = none := by
  unfold lookup
  cases h : t.position fun e => key e = k with
  | none => simp
  | some i =>
    obtain ⟨e, hi, -⟩ := position_spec h
    simp [hi]

private theorem lookup_set_other (hk : k ≠ key e)
    (hold : ∀ e', t.slot i = some e' → key e' = key e) :
    (t.put i e).lookup key k = t.lookup key k := by
  have hpos : (t.put i e).position (key · = k) = t.position (key · = k) := by
    apply position_set
    · simpa using Ne.symm hk
    · intro e' he'
      simpa [hold e' he'] using Ne.symm hk
  unfold lookup
  rw [hpos]
  cases h : t.position fun e => key e = k with
  | none => rfl
  | some j =>
    obtain ⟨e', hj, hkey⟩ := position_spec h
    have hij : i ≠ j := by
      rintro rfl
      exact hk ((by simpa using hkey : key e' = k) ▸ hold e' hj)
    simp only [Option.bind_some, slot_put, if_neg hij]

/-- Overwriting the entry a lookup of its key finds changes that lookup only. -/
theorem lookup_replace (h : t.position (key · = key e) = some i) :
    (t.put i e).lookup key k = if k = key e then some e else t.lookup key k := by
  obtain ⟨e₀, hi, hkey⟩ := position_spec h
  have hkey : key e₀ = key e := by simpa using hkey
  split
  · rename_i hk
    subst hk
    -- The scan stops at the same slot: every slot before it is untouched.
    have hpos : (t.put i e).position (key · = key e) = some i := by
      obtain ⟨-, hbefore⟩ := Fin.find?_eq_some_iff.mp h
      refine Fin.find?_eq_some_iff.mpr ⟨by simp [slot_put], fun j hj => ?_⟩
      rw [slot_put, if_neg hj.ne']
      exact hbefore j hj
    simp [lookup, hpos, slot_put]
  · rename_i hk
    refine lookup_set_other hk fun e' he' => ?_
    obtain rfl : e₀ = e' := Option.some.inj (hi.symm.trans he')
    exact hkey

/-- Inserting an entry under a new key changes the lookup of that key only. -/
theorem lookup_insert (hnew : t.lookup key (key e) = none) (hfree : t.slot i = none) :
    (t.put i e).lookup key k = if k = key e then some e else t.lookup key k := by
  rw [lookup_eq_none_iff, position, Fin.find?_eq_none_iff] at hnew
  split
  · rename_i hk
    subst hk
    have hpos : (t.put i e).position (key · = key e) = some i := by
      refine Fin.find?_eq_some_iff.mpr ⟨by simp [slot_put], fun j hj => ?_⟩
      rw [slot_put, if_neg hj.ne']
      exact hnew j
    simp [lookup, hpos, slot_put]
  · rename_i hk
    exact lookup_set_other hk (by simp [hfree])

end Lookup

/-! ## Distinct keys -/

theorem distinctOn_empty : (empty : SlotTable ε n).DistinctOn key := by
  intro i j e e' hi
  simp at hi

/-- Writing an entry keeps the keys distinct when no other slot holds its key. -/
theorem DistinctOn.set (ht : t.DistinctOn key)
    (hother : ∀ j e', t.slot j = some e' → key e' = key e → j = i) :
    (t.put i e).DistinctOn key := by
  intro a b x y ha hb hxy
  rw [slot_put] at ha hb
  split at ha <;> split at hb
  · rename_i hia hib
    exact hia.symm.trans hib
  · rename_i hia _
    obtain rfl := Option.some.inj ha
    exact (hia.symm.trans (hother b y hb hxy.symm).symm)
  · rename_i _ hib
    obtain rfl := Option.some.inj hb
    exact (hother a x ha hxy).trans hib
  · exact ht a b x y ha hb hxy

/-- Overwriting an entry under its own key keeps the keys distinct. -/
theorem DistinctOn.replace (ht : t.DistinctOn key) (hi : t.slot i = some e')
    (hkey : key e' = key e) :
    (t.put i e).DistinctOn key :=
  ht.set fun j x hj hx => ht j i x e' hj hi (hx.trans hkey.symm)

/-- Inserting an entry under a new key keeps the keys distinct. -/
theorem DistinctOn.insert (ht : t.DistinctOn key) (hnew : ∀ e', t.Holds e' → key e' ≠ key e) :
    (t.put i e).DistinctOn key :=
  ht.set fun j x hj hx => absurd hx (hnew x ⟨j, hj⟩)

/-- A written table holds the entry written and otherwise what it held before. -/
theorem Holds.of_set (h : (t.put i e).Holds e') : e' = e ∨ t.Holds e' := by
  obtain ⟨j, hj⟩ := h
  rw [slot_put] at hj
  split at hj
  · exact .inl (Option.some.inj hj).symm
  · exact .inr ⟨j, hj⟩

/-- A table whose distinct keys come from fewer keys than it has slots has a free
slot. -/
theorem exists_firstFree [DecidableEq κ] (ht : t.DistinctOn key) {allowed : List κ}
    (hallowed : ∀ e, t.Holds e → key e ∈ allowed) (hlt : allowed.length < n) :
    ∃ i, t.firstFree = some i := by
  cases hfree : t.firstFree with
  | some i => exact ⟨i, rfl⟩
  | none =>
    -- A full table would inject its slots into the allowed keys.
    choose entry hentry using occupied_of_firstFree_eq_none hfree
    have hinj : Function.Injective fun i => key (entry i) := fun i j hij =>
      ht i j _ _ (hentry i) (hentry j) hij
    have hmem : ∀ i ∈ (Finset.univ : Finset (Fin n)), key (entry i) ∈ allowed.toFinset :=
      fun i _ => List.mem_toFinset.mpr (hallowed _ ⟨i, hentry i⟩)
    have hcard := Finset.card_le_card_of_injOn _ hmem hinj.injOn
    have hle := allowed.toFinset_card_le
    simp only [Finset.card_univ, Fintype.card_fin] at hcard
    omega

end SlotTable

end FoundationsSlotTable

section KernelEffects

/-!
# What each stage of the kernel changes

One lemma for each operation and each stage of the control cycle says everything
it writes. The invariants of the kernel are derived from these and never unfold
the operations again.

Results:
1. A degradation latches its fault, joins its target law into the current one, and
   sets the cause only when it engages (`handleDegradation_eq`).
2. After the degradation decision the cycle writes only the controller memory, the
   fallback memory, the commanded outputs and one in-flight flag
   (`flightOutput_frame`), and what it emits is what it records
   (`flightOutput_emits`).
3. A cycle leaves through one of four exits (`update_cases`).
-/

namespace Aviate

variable {F E R : Type}

/-- The fault register after a degradation for `reason`. -/
def FaultFlags.latch (faults : FaultFlags) (reason : DegradationReason) : FaultFlags :=
  match reason.latchedFault with
  | some fault => faults.insert fault
  | none => faults

/-- Latching a fault clears none. -/
theorem FaultFlags.mem_latch {faults : FaultFlags} {reason : DegradationReason} {i : Nat}
    (hi : i ∈ faults) : i ∈ FaultFlags.latch faults reason := by
  unfold FaultFlags.latch
  cases reason.latchedFault with
  | none => exact hi
  | some fault => exact FlagSet.mem_insert.mpr (.inl hi)

namespace AviateKernel

/-! ## Degradation and release -/

section Degradation

variable (k : AviateKernel F E R) (s : KernelState F E R)

theorem latchFault_eq (reason : DegradationReason) :
    latchFault s reason = { s with faults := FaultFlags.latch s.faults reason } := by
  unfold latchFault FaultFlags.latch
  cases reason.latchedFault <;> rfl

/-- Everything a degradation writes. -/
theorem handleDegradation_eq (reason : DegradationReason) (timestamp : Timestamp) :
    ∃ c, (k.handleDegradation s reason timestamp).1 =
      { s with
        faults := FaultFlags.latch s.faults reason
        controlLaw := max s.controlLaw reason.target
        terminalCause :=
          if s.controlLaw < reason.target then engagedCause reason.target reason
          else s.terminalCause
        controller := c } := by
  simp only [handleDegradation, latchFault_eq]
  by_cases hworse : s.controlLaw < reason.target
  · rw [if_pos (ControlLawV1.lt_iff_severity.mp hworse), max_eq_right hworse.le,
      if_pos hworse]
    split
    · exact ⟨_, rfl⟩
    · exact ⟨s.controller, rfl⟩
  · rw [if_neg (fun h => hworse (ControlLawV1.lt_iff_severity.mpr h)),
      max_eq_left (not_lt.mp hworse), if_neg hworse]
    exact ⟨s.controller, rfl⟩

/-- A descent for command loss is released in this cycle. -/
def releases : Bool :=
  s.controlLaw == .direct && s.terminalCause == .commandLoss &&
    s.checks.inFlight.current.contains InFlightFlags.commandRecent

theorem releases_iff : releases s = true ↔ s.controlLaw = .direct ∧
    s.terminalCause = .commandLoss ∧
    s.checks.inFlight.current.contains InFlightFlags.commandRecent = true := by
  simp only [releases, Bool.and_eq_true, beq_iff_eq, and_assoc]

/-- Everything a release writes. -/
theorem releaseTerminal_eq :
    ∃ c, k.releaseTerminal s =
      { s with
        controlLaw := if releases s then .primary else s.controlLaw
        terminalCause := if releases s then .none else s.terminalCause
        controller := c } := by
  change ∃ c, (if releases s then _ else s) = _
  cases releases s with
  | true => exact ⟨_, rfl⟩
  | false => exact ⟨s.controller, rfl⟩

/-- A cycle without a degradation changes nothing; one with a reason handles it. -/
theorem degrade_fst (timestamp : Timestamp) :
    (k.degrade s timestamp).1 = match degradationReason s with
      | some reason => (k.handleDegradation s reason timestamp).1
      | none => s := by
  unfold degrade
  cases degradationReason s <;> rfl

/-- The law after a release. -/
def releasedLaw : ControlLawV1 := if releases s then .primary else s.controlLaw

/-- The cause after a release. -/
def releasedCause : TerminalCause := if releases s then .none else s.terminalCause

end Degradation

/-- The least law a degradation decision leads to. -/
def targetLaw : Option DegradationReason → ControlLawV1
  | some reason => reason.target
  | none => .primary

/-- The cause a degradation decision engages. -/
def targetCause : Option DegradationReason → TerminalCause
  | some reason => engagedCause reason.target reason
  | none => .none

/-- The fault register after a degradation decision. -/
def latchedFaults (faults : FaultFlags) : Option DegradationReason → FaultFlags
  | some reason => FaultFlags.latch faults reason
  | none => faults

/-- Everything the release and the degradation step of a cycle write. -/
theorem degrade_releaseTerminal_eq (k : AviateKernel F E R) (s : KernelState F E R)
    (timestamp : Timestamp) :
    ∃ c, (k.degrade (k.releaseTerminal s) timestamp).1 =
      { s with
        faults := latchedFaults s.faults (degradationReason s)
        controlLaw := max (releasedLaw s) (targetLaw (degradationReason s))
        terminalCause :=
          if releasedLaw s < targetLaw (degradationReason s) then
            targetCause (degradationReason s)
          else releasedCause s
        controller := c } := by
  obtain ⟨c, hrelease⟩ := k.releaseTerminal_eq s
  have hreason : degradationReason (k.releaseTerminal s) = degradationReason s := by
    rw [hrelease]
    rfl
  rw [degrade_fst, hreason]
  cases degradationReason s with
  | none =>
    refine ⟨c, ?_⟩
    have hle : targetLaw none ≤ releasedLaw s := ControlLawV1.primary_le _
    rw [max_eq_left hle, if_neg (not_lt.mpr hle)]
    exact hrelease
  | some reason =>
    obtain ⟨c', hdegrade⟩ := k.handleDegradation_eq (k.releaseTerminal s) reason timestamp
    refine ⟨c', ?_⟩
    rw [hrelease] at hdegrade
    simp only [hrelease]
    exact hdegrade

/-! ## Lifecycle operations -/

section Operations

variable (k : AviateKernel F E R) (s : KernelState F E R)

/-- The guards of a fault reset. -/
theorem canResetFromFault_iff : canResetFromFault s = true ↔
    s.initState = .fault ∧ s.faults.intersects criticalFaults = false ∧
      s.checks.preArm.current.contains PreArmFlags.imuHealthy = true ∧
      s.checks.preArm.current.contains PreArmFlags.throttleLow = true := by
  unfold canResetFromFault
  by_cases hfault : s.initState = .fault
  · simp [hfault, and_assoc]
  · simp [hfault]

/-- A fault reset is refused and changes nothing, or its guards hold. -/
theorem resetFromFault_cases :
    (canResetFromFault s = false ∧ ∃ e, resetFromFault s = (s, .error e)) ∨
    (canResetFromFault s = true ∧
      resetFromFault s =
        ({ (s.setPreArm s.checks.preArm.resetSamples).setInFlight s.checks.inFlight.reset with
            initState := .preArm }, .ok ())) := by
  unfold resetFromFault
  cases hreset : canResetFromFault s with
  | true =>
    right
    have hfault := ((canResetFromFault_iff s).mp hreset).1
    simp only [hfault, bne_self_eq_false, Bool.false_eq_true, if_false, Bool.not_true, true_and]
    rfl
  | false =>
    left
    refine ⟨rfl, ?_⟩
    by_cases hfault : (s.initState != .fault) = true
    · exact ⟨_, if_pos hfault⟩
    · exact ⟨_, by rw [if_neg hfault]; rfl⟩

/-- A critical fault forces the fault state under the backup law. -/
theorem checkCriticalFaults_cases :
    (s.faults.intersects criticalFaults = false ∧ k.checkCriticalFaults s = (s, false)) ∨
    (s.faults.intersects criticalFaults = true ∧ ∃ c, k.checkCriticalFaults s =
      ({ s with initState := .fault, controlLaw := .backup, terminalCause := .none,
                controller := c }, true)) := by
  unfold checkCriticalFaults
  cases s.faults.intersects criticalFaults with
  | false => exact .inl ⟨rfl, rfl⟩
  | true => exact .inr ⟨rfl, _, rfl⟩

variable [Scalar F]

/-- Arming is refused and changes nothing, or the kernel is ready without a fault. -/
theorem arm_cases :
    (∃ e, k.arm s = (s, .error e)) ∨
    (s.initState = .ready ∧ s.faults.isEmpty = true ∧
      k.arm s =
        ({ s with
            flightPhase := .beginFlightPeriod (k.estimate s)
            controlLaw := .primary
            terminalCause := .none
            initState := .armed }, .ok ())) := by
  unfold arm
  split
  next => exact .inl ⟨_, rfl⟩
  next =>
    split
    next => exact .inl ⟨_, rfl⟩
    next hfaults =>
      split
      next => exact .inl ⟨_, rfl⟩
      next hready => exact .inr ⟨by simpa using hready, by simpa using hfaults, rfl⟩

/-- A set fault refuses the arm, which changes nothing. -/
theorem arm_of_faulted (h : s.faults.isEmpty = false) : ∃ e, k.arm s = (s, .error e) := by
  rcases k.arm_cases s with herr | ⟨-, hempty, -⟩
  · exact herr
  · exact absurd (h.symm.trans hempty) (by decide)

theorem arm_ok_iff :
    (k.arm s).2 = .ok () ↔ s.initState = .ready ∧ s.faults.isEmpty = true := by
  constructor
  · intro hok
    rcases k.arm_cases s with ⟨e, heq⟩ | ⟨hready, hempty, -⟩
    · rw [heq] at hok
      cases hok
    · exact ⟨hready, hempty⟩
  · rintro ⟨hready, hempty⟩
    unfold arm
    rw [hready, hempty]
    rfl

/-- A disarm is refused exactly while airborne. -/
theorem disarm_cases :
    (s.flightPhase.isAirborne = true ∧ k.disarm s = (s, .error .airborne)) ∨
    (s.flightPhase.isAirborne = false ∧ k.disarm s = (k.endFlightPeriod s, .ok ())) := by
  unfold disarm
  cases s.flightPhase.isAirborne with
  | true => exact .inl ⟨rfl, rfl⟩
  | false => exact .inr ⟨rfl, rfl⟩

/-- A ground reset changes nothing while armed. -/
theorem groundReset_of_armed (h : s.initState = .armed) : k.groundReset s = s := by
  unfold groundReset
  rw [h]
  rfl

/-- What the other subsystems see of a ground reset that is not refused. -/
theorem groundReset_lifecycle (h : s.initState ≠ .armed) :
    (k.groundReset s).initState = .configLoading ∧ (k.groundReset s).controlLaw = .primary ∧
      (k.groundReset s).terminalCause = .none ∧ (k.groundReset s).flightPhase = .default ∧
      (k.groundReset s).faults = .empty := by
  unfold groundReset
  rw [if_neg (by simpa using h)]
  exact ⟨rfl, rfl, rfl, rfl, rfl⟩

/-- A configuration change writes the current transition checks and the mode. -/
theorem requestConfigMode_eq [Libm F] (toMode : ConfigMode) :
    ∃ current mode, (k.requestConfigMode s toMode).1 =
      { s.setTransition { s.checks.transition with current := current } with mode := mode } := by
  have stay : ∃ current mode,
      s = { s.setTransition { s.checks.transition with current := current } with mode := mode } :=
    ⟨s.checks.transition.current, s.mode, rfl⟩
  let checked := (s.checks.transition.updateFromState (k.estimate s)).updateFromActuators
    s.actuatorState 0b1111
  simp only [requestConfigMode]
  repeat' split
  iterate 4 exact stay
  · exact ⟨checked.current, s.mode, rfl⟩
  · exact ⟨checked.current, toMode, rfl⟩

end Operations

/-! ## The output stages -/

/-- `t` is `s` but for what the stages after the degradation decision write. -/
structure OutputFrame (s t : KernelState F E R) : Prop where
  initState : t.initState = s.initState
  mode : t.mode = s.mode
  faults : t.faults = s.faults
  controlLaw : t.controlLaw = s.controlLaw
  terminalCause : t.terminalCause = s.terminalCause
  preArm : t.checks.preArm = s.checks.preArm
  required : t.checks.inFlight.required = s.checks.inFlight.required
  transition : t.checks.transition = s.checks.transition
  timingStats : t.timingStats = s.timingStats
  estimator : t.estimator = s.estimator
  flightPhase : t.flightPhase = s.flightPhase

namespace OutputFrame

variable {s t u : KernelState F E R}

theorem trans (hst : OutputFrame s t) (htu : OutputFrame t u) : OutputFrame s u where
  initState := htu.initState.trans hst.initState
  mode := htu.mode.trans hst.mode
  faults := htu.faults.trans hst.faults
  controlLaw := htu.controlLaw.trans hst.controlLaw
  terminalCause := htu.terminalCause.trans hst.terminalCause
  preArm := htu.preArm.trans hst.preArm
  required := htu.required.trans hst.required
  transition := htu.transition.trans hst.transition
  timingStats := htu.timingStats.trans hst.timingStats
  estimator := htu.estimator.trans hst.estimator
  flightPhase := htu.flightPhase.trans hst.flightPhase

end OutputFrame

section Gates

variable (k : AviateKernel F E R) (s : KernelState F E R)

theorem applyGates_frame (protection : ProtectionStatus) (entry : ModeEntryDecision) :
    OutputFrame s (k.applyGates s protection entry) := by
  unfold applyGates
  cases entry.isUnsupported <;> exact ⟨rfl, rfl, rfl, rfl, rfl, rfl, rfl, rfl, rfl, rfl, rfl⟩

@[simp] theorem applyGates_actuatorState (protection : ProtectionStatus)
    (entry : ModeEntryDecision) :
    (k.applyGates s protection entry).actuatorState = s.actuatorState := by
  unfold applyGates
  cases entry.isUnsupported <;> rfl

@[simp] theorem applyGates_fallback (protection : ProtectionStatus) (entry : ModeEntryDecision) :
    (k.applyGates s protection entry).fallback = s.fallback := by
  unfold applyGates
  cases entry.isUnsupported <;> rfl

/-- The sanitizer reads the fallback memory only. -/
theorem sanitizeStage_congr {t : KernelState F E R} (h : t.fallback = s.fallback)
    (safeControl : Bool) (cmd : ActuatorCmd F) :
    k.sanitizeStage t safeControl cmd = k.sanitizeStage s safeControl cmd := by
  rw [sanitizeStage, h, sanitizeStage]

end Gates

section Output

variable [Scalar F] [Libm F] (k : AviateKernel F E R) (s : KernelState F E R)

section ControlStep

variable (safeControl : Bool) (state : StateEstimate F) (dt : F) (cmd : Command F)
  (entry : ModeEntryDecision) (timestamp : Timestamp)

/-- The control step writes the controller memory only. -/
theorem controlStep_state :
    ∃ c, (k.controlStep s safeControl state dt cmd entry timestamp).state =
      { s with controller := c } := by
  unfold controlStep
  split
  · exact ⟨s.controller, rfl⟩
  · split <;> exact ⟨_, rfl⟩

theorem controlStep_frame :
    OutputFrame s (k.controlStep s safeControl state dt cmd entry timestamp).state := by
  obtain ⟨c, hc⟩ := k.controlStep_state s safeControl state dt cmd entry timestamp
  rw [hc]
  exact ⟨rfl, rfl, rfl, rfl, rfl, rfl, rfl, rfl, rfl, rfl, rfl⟩

@[simp] theorem controlStep_actuatorState :
    (k.controlStep s safeControl state dt cmd entry timestamp).state.actuatorState =
      s.actuatorState := by
  obtain ⟨c, hc⟩ := k.controlStep_state s safeControl state dt cmd entry timestamp
  rw [hc]

@[simp] theorem controlStep_fallback :
    (k.controlStep s safeControl state dt cmd entry timestamp).state.fallback = s.fallback := by
  obtain ⟨c, hc⟩ := k.controlStep_state s safeControl state dt cmd entry timestamp
  rw [hc]

end ControlStep

omit [Libm F] in
theorem outputStage_frame (safeControl : Bool) (cmd : ActuatorCmd F) (timestamp : Timestamp) :
    OutputFrame s (k.outputStage s safeControl cmd timestamp).state := by
  unfold outputStage
  exact ⟨rfl, rfl, rfl, rfl, rfl, rfl, rfl, rfl, rfl, rfl, rfl⟩

variable (inp : UpdateInput F) (command : Command F) (timestamp : Timestamp)
  (state : StateEstimate F) (degradation : Option DegradationEvent)

/-- The decision of the mode-entry gate when the degradation step ends in `s`. -/
def entryDecision : ModeEntryDecision :=
  k.modeEntry s.controlLaw command.mode state.validFlags

/-- The control step of a cycle whose degradation step ends in `s`. -/
def cycleStep : ControlStep F E R :=
  k.controlStep (k.applyGates s (k.protect command state).2 (k.entryDecision s command state))
    (isSafeControl s (k.entryDecision s command state)) state inp.time.dtSec
    { command with setpoint := (k.protect command state).1 }
    (k.entryDecision s command state) timestamp

/-- The output stage of a cycle whose degradation step ends in `s`. -/
def cycleOutput : Output F E R :=
  k.outputStage (k.cycleStep s inp command timestamp state).state
    (isSafeControl s (k.entryDecision s command state))
    (k.cycleStep s inp command timestamp state).actuator timestamp

theorem flightOutput_fst :
    (k.flightOutput s inp command timestamp state degradation).1 =
      (k.cycleOutput s inp command timestamp state).state := rfl

/-- The output stages leave the lifecycle, the law and the checks alone. -/
theorem flightOutput_frame :
    OutputFrame s (k.flightOutput s inp command timestamp state degradation).1 := by
  have hstep : OutputFrame s (k.cycleStep s inp command timestamp state).state :=
    (k.applyGates_frame s _ _).trans (k.controlStep_frame _ _ _ _ _ _ _)
  rw [flightOutput_fst, cycleOutput]
  exact hstep.trans (k.outputStage_frame _ _ _ _)

/-- The law a cycle reports is the one its degradation step ends with. -/
@[simp] theorem flightOutput_law :
    (k.flightOutput s inp command timestamp state degradation).2.status.law = s.controlLaw := by
  have hframe := (k.flightOutput_frame s inp command timestamp state degradation).controlLaw
  simp only [flightOutput] at hframe ⊢
  exact hframe

@[simp] theorem flightOutput_modeEntry :
    (k.flightOutput s inp command timestamp state degradation).2.status.modeEntry =
      k.entryDecision s command state := rfl

@[simp] theorem flightOutput_estimate :
    (k.flightOutput s inp command timestamp state degradation).2.estimate = state := rfl

omit [Scalar F] [Libm F] in
/-- Below the terminal laws the gate of the cycle is the controller's mode gate. -/
theorem entryDecision_of_lt (hlaw : s.controlLaw < .direct) :
    k.entryDecision s command state = gateControllerModeEntry command.mode state.validFlags
      (k.pipeline.controller.supportsMode command.mode) := by
  rcases ControlLawV1.lt_direct_iff.mp hlaw with h | h <;> rw [entryDecision, h] <;> rfl

/-- A command flown below the terminal laws is flown in the mode the gate names. -/
theorem flightOutput_effectiveCommand_mode (hlaw : s.controlLaw < .direct)
    (hsupported : (k.entryDecision s command state).isUnsupported = false) :
    (k.flightOutput s inp command timestamp state degradation).2.effectiveCommand.mode =
      (k.entryDecision s command state).effective := by
  have hframe := k.applyGates_frame s (k.protect command state).2 (k.entryDecision s command state)
  have hsafe : isSafeControl s (k.entryDecision s command state) = false := by
    rw [isSafeControl, hsupported, Bool.or_false]
    exact beq_false_of_ne (hlaw.trans_le (ControlLawV1.le_backup _)).ne
  have hdirect : ((k.applyGates s (k.protect command state).2
      (k.entryDecision s command state)).controlLaw == .direct) = false := by
    rw [hframe.controlLaw]
    exact beq_false_of_ne hlaw.ne
  show (k.cycleStep s inp command timestamp state).effectiveCommand.mode = _
  rw [cycleStep, controlStep, hsafe, hdirect]
  exact applyModeEntry_mode _ _

theorem flightOutput_actuator :
    (k.flightOutput s inp command timestamp state degradation).2.actuator =
      (k.cycleOutput s inp command timestamp state).actuator := by
  simp only [flightOutput, cycleOutput, cycleStep, entryDecision]

/-- The pass of the sanitizer in a cycle whose degradation step ends in `s`. -/
def cyclePass : SanitizePass F :=
  k.sanitizeStage s (isSafeControl s (k.entryDecision s command state))
    (k.cycleStep s inp command timestamp state).actuator

/-- A cycle under the safe command leaves the fallback memory alone, reports no group and
hands the safe output to the slew limiter. -/
theorem cyclePass_safe (hsafe : isSafeControl s (k.entryDecision s command state) = true) :
    (k.cyclePass s inp command timestamp state).cmd.outputs = k.cfg.safeOutput ∧
      (k.cyclePass s inp command timestamp state).fallback = s.fallback ∧
      (k.cyclePass s inp command timestamp state).report = .default := by
  rw [cyclePass, cycleStep, hsafe]
  exact ⟨rfl, rfl, rfl⟩

/-- Any other cycle sanitizes what the mixer made of the controller's output. -/
theorem cyclePass_flown (hsafe : isSafeControl s (k.entryDecision s command state) = false) :
    ∃ cmd, k.cyclePass s inp command timestamp state =
      k.pipeline.sanitizer.sanitize cmd k.cfg.modeConfig s.fallback := by
  rw [cyclePass, hsafe]
  exact ⟨_, rfl⟩

/-- What a cycle emits is its sanitized command, limited in slew against the commanded
outputs before it; the emitted outputs are recorded as commanded. -/
theorem flightOutput_emits :
    (k.flightOutput s inp command timestamp state degradation).2.actuator.outputs =
        applySlewLimit (k.cyclePass s inp command timestamp state).cmd.outputs
          s.actuatorState.commanded k.cfg.slewLimitPerCycle ∧
      (k.flightOutput s inp command timestamp state degradation).1.actuatorState.commanded =
        (k.flightOutput s inp command timestamp state degradation).2.actuator.outputs ∧
      (k.flightOutput s inp command timestamp state degradation).1.fallback =
        (k.cyclePass s inp command timestamp state).fallback := by
  have hfallback : (k.cycleStep s inp command timestamp state).state.fallback = s.fallback := by
    rw [cycleStep, controlStep_fallback, applyGates_fallback]
  have hcommanded : (k.cycleStep s inp command timestamp state).state.actuatorState =
      s.actuatorState := by
    rw [cycleStep, controlStep_actuatorState, applyGates_actuatorState]
  rw [flightOutput_actuator, flightOutput_fst]
  simp only [cycleOutput, outputStage, k.sanitizeStage_congr s hfallback, hcommanded, cyclePass,
    ActuatorState.updateCommanded, and_self]

/-- The report a cycle returns is that of its sanitizer pass. -/
theorem flightOutput_report :
    (k.flightOutput s inp command timestamp state degradation).2.status.sanitizeReport =
      (k.cyclePass s inp command timestamp state).report := by
  have hfallback : (k.cycleStep s inp command timestamp state).state.fallback = s.fallback := by
    rw [cycleStep, controlStep_fallback, applyGates_fallback]
  have hreport :
      (k.flightOutput s inp command timestamp state degradation).2.status.sanitizeReport =
        (k.cycleOutput s inp command timestamp state).report := by
    simp only [flightOutput, cycleOutput, cycleStep, entryDecision]
  rw [hreport]
  simp only [cycleOutput, outputStage, k.sanitizeStage_congr s hfallback, cyclePass]

end Output

/-! ## The four exits of a cycle -/

section Update

variable [Scalar F] [Libm F] (k : AviateKernel F E R) (s : KernelState F E R)
  (inp : UpdateInput F)

/-- The state in which the gates of a cycle are evaluated: timing and sensor faults
are up to date. -/
def sensed : KernelState F E R :=
  updateSensorFaults (recordTiming s inp.time.asMicros.toUInt32) inp.sensors

/-- The state after an armed cycle's degradation step. -/
def decided (command : Command F) : KernelState F E R × Option DegradationEvent :=
  let s := k.observe s inp command.sensorOverrides
  k.degrade (k.releaseTerminal (k.monitor s inp (k.estimate s))) (cycleTimestamp inp)

/-- The estimate an armed cycle flies on. -/
def observed (command : Command F) : StateEstimate F :=
  k.estimate (k.observe s inp command.sensorOverrides)

/-- The state in which an armed cycle decides on a degradation. -/
def monitored (command : Command F) : KernelState F E R :=
  k.monitor (k.observe s inp command.sensorOverrides) inp (k.observed s inp command)

omit [Libm F] in
/-- Everything an armed cycle has written when its degradation step ends. -/
theorem decided_eq (command : Command F) :
    ∃ c, (k.decided s inp command).1 =
      { k.monitored s inp command with
        faults := latchedFaults s.faults (degradationReason (k.monitored s inp command))
        controlLaw := max (releasedLaw (k.monitored s inp command))
          (targetLaw (degradationReason (k.monitored s inp command)))
        terminalCause :=
          if releasedLaw (k.monitored s inp command) <
              targetLaw (degradationReason (k.monitored s inp command)) then
            targetCause (degradationReason (k.monitored s inp command))
          else releasedCause (k.monitored s inp command)
        controller := c } :=
  degrade_releaseTerminal_eq k (k.monitored s inp command) (cycleTimestamp inp)

theorem armedCycle_eq (command : Command F) :
    k.armedCycle s inp command (cycleTimestamp inp) =
      k.flightOutput (k.decided s inp command).1 inp command (cycleTimestamp inp)
        (k.observed s inp command) (k.decided s inp command).2 := rfl

/-- The law an armed cycle reports, the faults it leaves and the estimate it flew on are
those of its degradation step. -/
theorem armedCycle_law (command : Command F) :
    (k.armedCycle s inp command (cycleTimestamp inp)).2.status.law =
      max (releasedLaw (k.monitored s inp command))
        (targetLaw (degradationReason (k.monitored s inp command))) := by
  obtain ⟨c, hdecided⟩ := k.decided_eq s inp command
  rw [armedCycle_eq, flightOutput_law, hdecided]

theorem armedCycle_faults (command : Command F) :
    (k.armedCycle s inp command (cycleTimestamp inp)).1.faults =
      latchedFaults s.faults (degradationReason (k.monitored s inp command)) := by
  obtain ⟨c, hdecided⟩ := k.decided_eq s inp command
  rw [armedCycle_eq, (k.flightOutput_frame _ _ _ _ _ _).faults, hdecided]

/-- The cycle of an intact command, with the state its gates are evaluated in
named. -/
theorem update_intact {command : Command F} (hcommand : inp.command = .intact command) :
    k.update s inp =
      if !(sensed s inp).initState.allowsActiveControl then
        let t := if !(sensed s inp).faults.intersects criticalFaults then
            k.observe (sensed s inp) inp command.sensorOverrides
          else sensed s inp
        (t, k.safeResult t command.sequence (cycleTimestamp inp) 0 0 command.mode)
      else if (k.checkCriticalFaults (sensed s inp)).2 then
        ((k.checkCriticalFaults (sensed s inp)).1,
          k.safeResult (k.checkCriticalFaults (sensed s inp)).1 command.sequence
            (cycleTimestamp inp) 0b1111 0xFF command.mode)
      else k.armedCycle (k.checkCriticalFaults (sensed s inp)).1 inp command
        (cycleTimestamp inp) := by
  simp only [update, hcommand]
  rfl

/-- A cycle ends at one of three gates or runs the armed pipeline. -/
theorem update_cases :
    (∃ sequence, inp.command = .upset sequence ∧
      k.update s inp =
        ({ recordTiming s inp.time.asMicros.toUInt32 with
            faults := s.faults.insert FaultFlags.enumInvalid },
          k.safeResult { recordTiming s inp.time.asMicros.toUInt32 with
            faults := s.faults.insert FaultFlags.enumInvalid }
            sequence (cycleTimestamp inp) 0 0 .attitude)) ∨
    (∃ command e, inp.command = .intact command ∧ s.initState ≠ .armed ∧
      k.update s inp =
        ({ sensed s inp with estimator := e },
          k.safeResult { sensed s inp with estimator := e } command.sequence
            (cycleTimestamp inp) 0 0 command.mode)) ∨
    (∃ command, inp.command = .intact command ∧ s.initState = .armed ∧
      (sensed s inp).faults.intersects criticalFaults = true ∧
      k.update s inp =
        ((k.checkCriticalFaults (sensed s inp)).1,
          k.safeResult (k.checkCriticalFaults (sensed s inp)).1 command.sequence
            (cycleTimestamp inp) 0b1111 0xFF command.mode)) ∨
    (∃ command, inp.command = .intact command ∧ s.initState = .armed ∧
      (sensed s inp).faults.intersects criticalFaults = false ∧
      k.update s inp = k.armedCycle (sensed s inp) inp command (cycleTimestamp inp)) := by
  cases hcommand : inp.command with
  | upset sequence =>
    left
    refine ⟨sequence, rfl, ?_⟩
    simp only [update, hcommand]
    rfl
  | intact command =>
    right
    by_cases harmed : s.initState = .armed
    · right
      have hactive : (sensed s inp).initState.allowsActiveControl = true := by
        rw [show (sensed s inp).initState = s.initState from rfl, harmed]
        rfl
      rcases hcritical : (sensed s inp).faults.intersects criticalFaults with _ | _
      · right
        refine ⟨command, rfl, harmed, rfl, ?_⟩
        rw [update_intact k s inp hcommand, hactive, checkCriticalFaults, hcritical]
        rfl
      · left
        refine ⟨command, rfl, harmed, rfl, ?_⟩
        rw [update_intact k s inp hcommand, hactive, checkCriticalFaults, hcritical]
        rfl
    · left
      have hinactive : (sensed s inp).initState.allowsActiveControl = false := by
        rw [show (sensed s inp).initState = s.initState from rfl]
        exact beq_false_of_ne harmed
      rw [update_intact k s inp hcommand, hinactive]
      rcases hcritical : (sensed s inp).faults.intersects criticalFaults with _ | _
      · exact ⟨command, _, rfl, harmed, rfl⟩
      · exact ⟨command, (sensed s inp).estimator, rfl, harmed, rfl⟩

/-- The cycle of an armed kernel without a critical fault. -/
theorem update_of_armed {command : Command F} (hcommand : inp.command = .intact command)
    (harmed : s.initState = .armed)
    (hcritical : (sensed s inp).faults.intersects criticalFaults = false) :
    k.update s inp = k.armedCycle (sensed s inp) inp command (cycleTimestamp inp) := by
  rcases k.update_cases s inp with ⟨sequence, hupset, -⟩ | ⟨_, e, -, hnot, -⟩ |
      ⟨_, -, -, hcrit, -⟩ | ⟨command', hcommand', -, -, heq⟩
  · rw [hcommand] at hupset
    cases hupset
  · exact absurd harmed hnot
  · exact absurd (hcritical.symm.trans hcrit) (by decide)
  · obtain rfl := CommandMemory.intact.inj (hcommand'.symm.trans hcommand)
    exact heq

omit [Scalar F] [Libm F] in
/-- The command an armed cycle without a critical fault flies is the only one of its input. -/
theorem forall_flown_command_iff {command : Command F} {P : Command F → Prop}
    (hcommand : inp.command = .intact command) (harmed : s.initState = .armed)
    (hcritical : (sensed s inp).faults.intersects criticalFaults = false) :
    (∀ c, inp.command = .intact c → s.initState = .armed →
      (sensed s inp).faults.intersects criticalFaults = false → P c) ↔ P command := by
  constructor
  · intro h
    exact h command hcommand harmed hcritical
  · intro h c hc _ _
    obtain rfl := CommandMemory.intact.inj (hcommand.symm.trans hc)
    exact h

omit [Scalar F] [Libm F] in
/-- Without a critical fault some IMU reading of this cycle is good. -/
theorem anyGood_imus_of_not_critical
    (hcritical : (sensed s inp).faults.intersects criticalFaults = false) :
    anyGood inp.sensors.imus = true := by
  by_contra hbad
  rw [Bool.not_eq_true] at hbad
  rw [← Bool.not_eq_true, FlagSet.intersects_iff] at hcritical
  refine hcritical ⟨3, ?_, by decide⟩
  simp only [sensed, updateSensorFaults, hbad, FaultFlags.allImuFailed, FaultFlags.baroFailed,
    FaultFlags.magFailed, FaultFlags.allGnssLost]
  simp (disch := decide) only [FlagSet.mem_set_flag_of_ne]
  simp [FlagSet.mem_set]

end Update

end AviateKernel

end Aviate

end KernelEffects

section KernelLanding

/-!
# Landings are observed over time

The detector of `FlightPhase` as a machine: a flight period begins, estimates are folded in, and
the determination is reset. A landing ends a run of updates in which every armed one met the
landed condition.

Results:
1. `update_cases`: everything an update can do to the latch.
2. `landed_after_run`: the updates since the debounce last restarted are the ones it has counted,
   in any arithmetic.
3. `landing_observed`: in exact arithmetic at least two of them counted. Updates with an unusable
   time step, and unarmed ones, are passed over and do not break the run
   (`landing_across_gaps`).
-/

namespace Aviate

variable {F : Type}

/-- What one update is given. -/
structure PhaseUpdate (F : Type) where
  estimate : StateEstimate F
  armed : Bool
  dt : F

inductive PhaseOp (F : Type) where
  | beginFlightPeriod (estimate : StateEstimate F)
  | reset
  | update (u : PhaseUpdate F)

namespace FlightPhaseState

section Detector

variable [Scalar F]

/-- The detector under fixed limits. -/
def detector (limits : FlightPhaseLimits F) : Machine (FlightPhaseState F) (PhaseOp F) Unit where
  step
    | _, .beginFlightPeriod estimate => (beginFlightPeriod estimate, ())
    | _, .reset => (default, ())
    | s, .update u => (s.update u.estimate u.armed u.dt limits, ())

/-- The landed condition, measured from a datum: a usable estimate, low and slow. -/
def Landed (limits : FlightPhaseLimits F) (datum : F) (u : PhaseUpdate F) : Prop :=
  heightIsUsable u.estimate = true ∧
    Scalar.lt (altitudeOf u.estimate - datum) limits.landedHeight = true ∧
      u.estimate.validFlags.contains StateValidFlags.velocity = true ∧
        Scalar.lt (Scalar.abs (verticalSpeedOf u.estimate)) limits.landedSpeed = true

/-- A time step that is observed: finite and positive. -/
def dtUsable (u : PhaseUpdate F) : Bool := Scalar.isFinite u.dt && Scalar.lt (lit 0) u.dt

/-- What an update adds to the debounce. -/
def counted (limits : FlightPhaseLimits F) (u : PhaseUpdate F) : F :=
  if dtUsable u then Scalar.min u.dt (limits.landedDebounce * lit (1 / 2)) else lit 0

/-- The time the armed updates of a run add up to. -/
def observedTime (limits : FlightPhaseLimits F) (us : List (PhaseUpdate F)) : F :=
  us.foldl (fun t u => if u.armed then t + counted limits u else t) (lit 0)

/-- The updates of a run that are armed and have a usable time step. -/
def observations (us : List (PhaseUpdate F)) : Nat :=
  us.countP fun u => u.armed && dtUsable u

variable {limits : FlightPhaseLimits F} {s : FlightPhaseState F} {u : PhaseUpdate F}
variable {us : List (PhaseUpdate F)} {ops : List (PhaseOp F)}

theorem observedTime_concat : observedTime limits (us ++ [u]) =
    if u.armed then observedTime limits us + counted limits u else observedTime limits us := by
  rw [observedTime, List.foldl_append]
  rfl

theorem observations_concat :
    observations (us ++ [u]) = observations us + if u.armed && dtUsable u then 1 else 0 := by
  rw [observations, List.countP_append, List.countP_singleton, observations]

/-! ## One update -/

/-- The update closes the debounce. -/
def Completes (limits : FlightPhaseLimits F) (s : FlightPhaseState F) (u : PhaseUpdate F) : Prop :=
  Scalar.le limits.landedDebounce (s.landedElapsed + counted limits u) = true

/-- Everything an update can do. -/
inductive UpdateCase (limits : FlightPhaseLimits F) (s : FlightPhaseState F) (u : PhaseUpdate F) :
    FlightPhaseState F → Prop
  | passedOver (h : u.armed = false ∨ s.datumValid = false) : UpdateCase limits s u s
  | unusable (harmed : u.armed = true) (hdatum : s.datumValid = true)
      (h : heightIsUsable u.estimate = false) :
      UpdateCase limits s u { s with landedElapsed := lit 0 }
  | grounded (hphase : s.phase = .onGround) : UpdateCase limits s u s
  | takeoff (husable : heightIsUsable u.estimate = true) (hphase : s.phase = .onGround) :
      UpdateCase limits s u { s with phase := .airborne, landedElapsed := lit 0 }
  | flying (hphase : s.phase = .airborne) (h : ¬Landed limits s.groundDatum u) :
      UpdateCase limits s u { s with landedElapsed := lit 0 }
  | settling (harmed : u.armed = true) (hdatum : s.datumValid = true)
      (hphase : s.phase = .airborne) (h : Landed limits s.groundDatum u)
      (hopen : ¬Completes limits s u) :
      UpdateCase limits s u { s with landedElapsed := s.landedElapsed + counted limits u }
  | landing (harmed : u.armed = true) (hphase : s.phase = .airborne)
      (h : Landed limits s.groundDatum u) (hdone : Completes limits s u) :
      UpdateCase limits s u { s with phase := .onGround, landedElapsed := lit 0 }

theorem update_cases : UpdateCase limits s u (s.update u.estimate u.armed u.dt limits) := by
  unfold update
  split
  · next h =>
    simp only [Bool.or_eq_true, Bool.not_eq_true'] at h
    exact .passedOver h
  next harmed =>
  simp only [Bool.or_eq_true, Bool.not_eq_true', not_or, Bool.not_eq_false] at harmed
  split
  · next h =>
    exact .unusable harmed.1 harmed.2 (by simpa using h)
  next husable =>
  simp only [Bool.not_eq_true', Bool.not_eq_false] at husable
  dsimp only
  split
  · next hphase =>
    split
    · exact .takeoff husable hphase
    · exact .grounded hphase
  · next hphase =>
    unfold updateLandedDebounce
    dsimp only
    split
    · next h =>
      refine .flying hphase fun ⟨_, hheight, hvelocity, hspeed⟩ => ?_
      rw [hheight, hvelocity, hspeed] at h
      exact nomatch h
    · next h =>
      simp only [Bool.not_eq_true', Bool.not_eq_false, Bool.and_eq_true] at h
      have hlanded : Landed limits s.groundDatum u := ⟨husable, h.1, h.2.1, h.2.2⟩
      change UpdateCase limits s u
        (if Scalar.le limits.landedDebounce (s.landedElapsed + counted limits u) then _ else _)
      split
      · next hdone => exact .landing harmed.1 hphase hlanded hdone
      · next hopen => exact .settling harmed.1 harmed.2 hphase hlanded hopen

/-- Unarmed updates, an invalid datum and an unusable estimate leave the phase. -/
theorem phase_update_of_unusable
    (h : u.armed = false ∨ s.datumValid = false ∨ heightIsUsable u.estimate = false) :
    (s.update u.estimate u.armed u.dt limits).phase = s.phase := by
  unfold update
  split
  · rfl
  next harmed =>
  simp only [Bool.or_eq_true, Bool.not_eq_true', not_or, Bool.not_eq_false] at harmed
  rcases h with h | h | h
  · exact absurd (harmed.1.symm.trans h) (by decide)
  · exact absurd (harmed.2.symm.trans h) (by decide)
  · rw [h]
    rfl

/-- An unusable estimate restarts the debounce of an armed vehicle with a datum. -/
theorem landedElapsed_update_of_unusable (harmed : u.armed = true) (hdatum : s.datumValid = true)
    (h : heightIsUsable u.estimate = false) :
    (s.update u.estimate u.armed u.dt limits).landedElapsed = lit 0 := by
  rw [update, harmed, hdatum, h]
  rfl

/-! ## Runs -/

/-- The operations end in the updates the debounce has counted. -/
def Debounced (limits : FlightPhaseLimits F) (s : FlightPhaseState F)
    (ops : List (PhaseOp F)) : Prop :=
  s.landedElapsed = lit 0 ∨ s.datumValid = true ∧ s.phase = .airborne ∧
    ∃ front us, ops = front ++ us.map PhaseOp.update ∧ s.landedElapsed = observedTime limits us ∧
      ∀ u ∈ us, u.armed = true → Landed limits s.groundDatum u

/-- One more counted or passed over update extends the run. -/
theorem Debounced.extend (h : Debounced limits s ops)
    (hu : u.armed = true → Landed limits s.groundDatum u) :
    ∃ front us, ops ++ [PhaseOp.update u] = front ++ (us ++ [u]).map PhaseOp.update ∧
      s.landedElapsed = observedTime limits us ∧
        ∀ v ∈ us ++ [u], v.armed = true → Landed limits s.groundDatum v := by
  rcases h with hzero | ⟨-, -, front, us, rfl, helapsed, hlanded⟩
  · exact ⟨ops, [], by simp, hzero, by simpa using hu⟩
  · refine ⟨front, us, by simp, helapsed, fun v hv => ?_⟩
    rcases List.mem_append.mp hv with hv | hv
    · exact hlanded v hv
    · rw [List.mem_singleton.mp hv]
      exact hu

theorem Debounced.step (h : Debounced limits s ops) (op : PhaseOp F) :
    Debounced limits ((detector limits).step s op).1 (ops ++ [op]) := by
  cases op with
  | beginFlightPeriod estimate => exact .inl rfl
  | reset => exact .inl rfl
  | update u =>
    have hcase : UpdateCase limits s u _ := update_cases
    change Debounced limits (s.update u.estimate u.armed u.dt limits) _
    generalize s.update u.estimate u.armed u.dt limits = s' at hcase ⊢
    cases hcase with
    | passedOver hpass =>
      rcases h with hzero | ⟨hdatum, hphase, hrun⟩
      · exact .inl hzero
      · have hunarmed : u.armed = false := hpass.resolve_right (by simp [hdatum])
        obtain ⟨front, us, hops, helapsed, hlanded⟩ :=
          Debounced.extend (u := u) (.inr ⟨hdatum, hphase, hrun⟩) fun harmed =>
            absurd (hunarmed.symm.trans harmed) (by decide)
        refine .inr ⟨hdatum, hphase, front, us ++ [u], hops, ?_, hlanded⟩
        rw [observedTime_concat, hunarmed]
        exact helapsed
    | unusable => exact .inl rfl
    | grounded hphase =>
      rcases h with hzero | ⟨-, hairborne, -⟩
      · exact .inl hzero
      · exact absurd (hphase.symm.trans hairborne) (by decide)
    | takeoff => exact .inl rfl
    | flying => exact .inl rfl
    | settling harmed hdatum hphase hlanded =>
      obtain ⟨front, us, hops, helapsed, hrun⟩ := h.extend fun _ => hlanded
      refine .inr ⟨hdatum, hphase, front, us ++ [u], hops, ?_, hrun⟩
      rw [observedTime_concat, harmed, ← helapsed]
      rfl
    | landing => exact .inl rfl

theorem debounced_run : Debounced limits ((detector limits).run default ops) ops := by
  induction ops using List.reverseRecOn with
  | nil => exact .inl rfl
  | append_singleton ops op ih =>
    rw [Machine.run_append]
    exact ih.step op

/-- A run of updates, measured from a datum, that ends in a landing: every armed one met the
landed condition, and what they count adds up to the debounce. -/
structure LandingRun (limits : FlightPhaseLimits F) (datum : F)
    (us : List (PhaseUpdate F)) : Prop where
  landed : ∀ u ∈ us, u.armed = true → Landed limits datum u
  completes : Scalar.le limits.landedDebounce (observedTime limits us) = true

/-- A landing ends a run that adds up to the debounce. -/
theorem landed_after_run (hphase : ((detector limits).run default ops).phase = .airborne)
    (hland : ((detector limits).run default (ops ++ [PhaseOp.update u])).phase = .onGround) :
    ∃ front us, ops ++ [PhaseOp.update u] = front ++ (us ++ [u]).map PhaseOp.update ∧
      LandingRun limits ((detector limits).run default ops).groundDatum (us ++ [u]) := by
  have hdebounced : Debounced limits ((detector limits).run default ops) ops := debounced_run
  rw [Machine.run_append] at hland
  generalize (detector limits).run default ops = s at hphase hland hdebounced ⊢
  change (s.update u.estimate u.armed u.dt limits).phase = .onGround at hland
  have hcase : UpdateCase limits s u _ := update_cases
  generalize s.update u.estimate u.armed u.dt limits = s' at hcase hland
  cases hcase with
  | landing harmed _ hlanded hdone =>
    obtain ⟨front, us, hops, helapsed, hrun⟩ := hdebounced.extend fun _ => hlanded
    refine ⟨front, us, hops, hrun, ?_⟩
    rwa [observedTime_concat, harmed, if_pos rfl, ← helapsed]
  | passedOver | unusable | grounded | flying | settling =>
    exact absurd (hphase.symm.trans hland) (by decide)
  | takeoff => exact nomatch hland

end Detector

/-! ## Exact arithmetic -/

section Exact

variable {K : Type} [Field K] [LinearOrder K] [IsStrictOrderedRing K]
variable {limits : FlightPhaseLimits (ExactFloat K)} {u : PhaseUpdate (ExactFloat K)}
variable {us : List (PhaseUpdate (ExactFloat K))}

/-- An observation counts a finite time of at most half the debounce. -/
theorem counted_bounds (hpos : Scalar.lt (lit 0) limits.landedDebounce = true)
    (husable : dtUsable u = true) :
    ∃ t : K, counted limits u = .fin t ∧ ∀ d, limits.landedDebounce = .fin d → t ≤ d / 2 := by
  obtain ⟨hfinite, -⟩ := Bool.and_eq_true_iff.mp husable
  obtain ⟨dt, hdt⟩ := ExactFloat.isFinite_iff.mp hfinite
  rw [counted, if_pos husable, hdt]
  cases hdebounce : limits.landedDebounce with
  | fin d =>
    refine ⟨min dt (d * (1 / 2)), by simp, ?_⟩
    rintro d' ⟨⟩
    exact (min_le_right _ _).trans_eq (by ring)
  | posInf =>
    refine ⟨dt, ?_, nofun⟩
    have hhalf : (0 : K) < 1 * (1 / 2) := by norm_num
    have hinf : (.posInf * lit (1 / 2) : ExactFloat K) = .posInf := by
      change ExactFloat.infOfSign (1 * (((1 / 2 : ℚ)) : K)) = .posInf
      rw [ExactFloat.infOfSign, if_pos (by push_cast; exact hhalf)]
    rw [hinf]
    rfl
  | negInf | nan =>
    rw [hdebounce] at hpos
    exact nomatch hpos

/-- A run adds up to a finite time of at most half the debounce for each observation. -/
theorem observedTime_bounds (hpos : Scalar.lt (lit 0) limits.landedDebounce = true) :
    ∃ t : K, observedTime limits us = .fin t ∧
      ∀ d, limits.landedDebounce = .fin d → t ≤ observations us * (d / 2) := by
  induction us using List.reverseRecOn with
  | nil => exact ⟨0, by simp [observedTime], by simp [observations]⟩
  | append_singleton us u ih =>
    obtain ⟨t, ht, hbound⟩ := ih
    rw [observedTime_concat, ht, observations_concat]
    cases harmed : u.armed with
    | false => exact ⟨t, rfl, by simpa using hbound⟩
    | true =>
      cases husable : dtUsable u with
      | false =>
        refine ⟨t, ?_, by simpa using hbound⟩
        simp [counted, husable]
      | true =>
        obtain ⟨step, hstep, hhalf⟩ := counted_bounds hpos husable
        refine ⟨t + step, by simp [hstep], fun d hd => ?_⟩
        have h := hbound d hd
        have h' := hhalf d hd
        simp only [Bool.and_self, if_true, Nat.cast_add, Nat.cast_one]
        linarith

theorem two_le_observations (hpos : Scalar.lt (lit 0) limits.landedDebounce = true)
    (hdone : Scalar.le limits.landedDebounce (observedTime limits us) = true) :
    2 ≤ observations us := by
  obtain ⟨t, ht, hbound⟩ : ∃ t : K, observedTime limits us = .fin t ∧
      ∀ d, limits.landedDebounce = .fin d → t ≤ observations us * (d / 2) :=
    observedTime_bounds hpos
  rw [ht] at hdone
  cases hdebounce : limits.landedDebounce with
  | fin d =>
    rw [hdebounce] at hpos hdone
    simp only [lt_exact, lit_exact, ExactFloat.lt_fin, Rat.cast_zero, decide_eq_true_eq] at hpos
    simp only [le_exact, ExactFloat.le_fin, decide_eq_true_eq] at hdone
    have h := hdone.trans (hbound d hdebounce)
    by_contra hfew
    have hone : (observations us : K) ≤ 1 := by exact_mod_cast Nat.le_of_lt_succ (not_le.mp hfew)
    nlinarith
  | posInf =>
    rw [hdebounce] at hdone
    exact nomatch hdone
  | negInf | nan =>
    rw [hdebounce] at hpos
    exact nomatch hpos

/-- Landings are observed over time: a landing ends a run that holds at least two observations.
Unarmed updates, an invalid datum and an unusable estimate leave the phase, and the last restarts
the debounce of an armed vehicle. -/
structure LandingLaw (limits : FlightPhaseLimits (ExactFloat K)) : Prop where
  observed : ∀ ops u, ((detector limits).run default ops).phase = .airborne →
    ((detector limits).run default (ops ++ [PhaseOp.update u])).phase = .onGround →
      ∃ front us, ops ++ [PhaseOp.update u] = front ++ (us ++ [u]).map PhaseOp.update ∧
        LandingRun limits ((detector limits).run default ops).groundDatum (us ++ [u]) ∧
          2 ≤ observations (us ++ [u])
  kept : ∀ (s : FlightPhaseState (ExactFloat K)) (u : PhaseUpdate (ExactFloat K)),
    u.armed = false ∨ s.datumValid = false ∨ heightIsUsable u.estimate = false →
      (s.update u.estimate u.armed u.dt limits).phase = s.phase
  restarted : ∀ (s : FlightPhaseState (ExactFloat K)) (u : PhaseUpdate (ExactFloat K)),
    u.armed = true → s.datumValid = true → heightIsUsable u.estimate = false →
      (s.update u.estimate u.armed u.dt limits).landedElapsed = lit 0

theorem landing_observed (hpos : Scalar.lt (lit 0) limits.landedDebounce = true) :
    LandingLaw limits where
  observed ops u hphase hland := by
    obtain ⟨front, us, hops, hrun⟩ := landed_after_run hphase hland
    exact ⟨front, us, hops, hrun, two_le_observations hpos hrun.completes⟩
  kept _ _ := phase_update_of_unusable
  restarted _ _ := landedElapsed_update_of_unusable

theorem landing_observed_default :
    LandingLaw (.default : FlightPhaseLimits (ExactFloat ℚ)) :=
  landing_observed (by decide +kernel)

end Exact

/-! ## Gaps the debounce spans -/

/-- A level estimate at rest at a height. -/
def estimateAt (height : ℚ) (quality : EstimateQuality) : StateEstimate (ExactFloat ℚ) where
  attitude := ⟨lit 1, lit 0, lit 0, lit 0⟩
  angularVelocity := .replicate 3 (lit 0)
  positionNed := #v[lit 0, lit 0, lit (-height)]
  velocityNed := .replicate 3 (lit 0)
  quality := quality
  validFlags := StateValidFlags.velocity

/-- An armed update on the ground. -/
def settled (dt : ExactFloat ℚ) : PhaseUpdate (ExactFloat ℚ) := ⟨estimateAt 0 .good, true, dt⟩

/-- A takeoff to 1 m and a first quarter of a second on the ground. -/
def hop : List (PhaseOp (ExactFloat ℚ)) :=
  [.beginFlightPeriod (estimateAt 0 .good), .update ⟨estimateAt 1 .good, true, lit (1 / 4)⟩,
    .update (settled (lit (1 / 4)))]

/-- Every landing ends a run of at least two updates with the property, adding up to the
debounce. -/
def EndsRunOf (P : PhaseUpdate (ExactFloat ℚ) → Prop) : Prop :=
  ∀ ops u, ((detector .default).run default ops).phase = .airborne →
    ((detector .default).run default (ops ++ [PhaseOp.update u])).phase = .onGround →
      ∃ front us, ops ++ [PhaseOp.update u] = front ++ (us ++ [u]).map PhaseOp.update ∧
        2 ≤ (us ++ [u]).length ∧ (∀ v ∈ us ++ [u], P v) ∧
          Scalar.le (FlightPhaseLimits.default : FlightPhaseLimits (ExactFloat ℚ)).landedDebounce
            (observedTime .default (us ++ [u])) = true

/-- After the hop, one update and the settled one after it land the vehicle, so a property of the
run is one of the update between. -/
theorem EndsRunOf.between {P : PhaseUpdate (ExactFloat ℚ) → Prop} (h : EndsRunOf P)
    (gap : PhaseUpdate (ExactFloat ℚ))
    (hphase : ((detector .default).run default (hop ++ [PhaseOp.update gap])).phase = .airborne)
    (hland : ((detector .default).run default (hop ++ [PhaseOp.update gap] ++
      [PhaseOp.update (settled (lit (1 / 4)))])).phase = .onGround) : P gap := by
  obtain ⟨front, us, hops, hlength, hall, -⟩ := h _ _ hphase hland
  rcases List.eq_nil_or_concat us with rfl | ⟨us, v, rfl⟩
  · exact absurd hlength (by decide)
  · have hlast := congrArg (fun l => l.dropLast.getLast?) hops
    have hv : gap = v := by simpa [← List.append_assoc] using hlast
    rw [hv]
    exact hall v (by simp)

/-- The run may hold an update whose time step is not finite, and an unarmed one; an unusable
estimate of an unarmed vehicle does not restart the debounce. -/
theorem landing_across_gaps :
    ¬EndsRunOf (fun v => v.armed = true → dtUsable v = true) ∧
      ¬EndsRunOf (fun v => v.armed = true) ∧
      ¬∀ (s : FlightPhaseState (ExactFloat ℚ)) (u : PhaseUpdate (ExactFloat ℚ)),
        heightIsUsable u.estimate = false →
          (s.update u.estimate u.armed u.dt .default).landedElapsed = lit 0 := by
  refine ⟨fun h => ?_, fun h => ?_, fun h => ?_⟩
  · have hgap := h.between (settled .nan) (by decide +kernel) (by decide +kernel) rfl
    exact absurd hgap (by decide +kernel)
  · have hgap := h.between ⟨estimateAt 0 .good, false, lit (1 / 4)⟩ (by decide +kernel)
      (by decide +kernel)
    exact absurd hgap (by decide)
  · have hrestart := h ((detector .default).run default hop) ⟨estimateAt 0 .unusable, false, lit 0⟩
      (by decide)
    exact absurd hrestart (by decide +kernel)

end FlightPhaseState

end Aviate

end KernelLanding

section KernelLifecycle

/-!
# Lifecycle, law and flight phase

An abstract model of what the kernel's lifecycle is for: the init state, the
control law with the reason it is terminal, and the airborne latch, with the moves
that change them. Every public operation of the kernel is a path of the moves that
belong to it.

Results:
1. Each public operation is a path of the moves it may make (`step_path`), so the
   kernel refines the abstract lifecycle (`lifecycleRefinement`) and every run is a path
   of it from power-on (`lifecycle_path`).
2. Only a cycle and a ground reset change what is required before arming, write the
   actuator memory or clear a fault (`step_frame`).
3. A terminal cause is recorded exactly under the direct law, and a faulted or
   disarmed kernel is under the backup law, in every state of every run
   (`terminal_after`).
-/

namespace Aviate

/-- An edge of the initialization sequence. -/
inductive InitState.Advances : InitState → InitState → Prop
  | load : Advances .powerOn .configLoading
  | config : Advances .configLoading .sensorInit
  | sensors : Advances .sensorInit .estimatorConverging
  | converge : Advances .estimatorConverging .preArm
  | satisfy : Advances .preArm .ready
  | unsatisfy : Advances .ready .preArm
  | rearm : Advances .disarmed .preArm

/-- The sequence never starts from an armed or a faulted kernel. -/
theorem InitState.Advances.source_ne {i j : InitState} (h : i.Advances j) :
    ¬ (i = .armed ∨ i = .fault) := by
  cases h <;> simp

/-- The sequence never leads into the armed, the faulted or the disarmed state. -/
theorem InitState.Advances.target_ne {i j : InitState} (h : i.Advances j) :
    j ≠ .armed ∧ j ≠ .fault ∧ j ≠ .disarmed := by
  cases h <;> simp

/-! ## The abstract lifecycle -/

/-- What the lifecycle guards read and write. -/
structure Lifecycle where
  initState : InitState
  law : ControlLawV1
  cause : TerminalCause
  airborne : Bool
deriving DecidableEq, Repr

namespace Lifecycle

inductive Move where
  | advance
  | enterFault
  | degrade (reason : DegradationReason)
  | release
  | fly
  | arm
  | endPeriod
  | leaveFault
  | groundReset
deriving DecidableEq, Repr

/-- The moves that neither end a flight period nor reset the kernel. -/
def Move.WithinFlight : Move → Prop
  | endPeriod => False
  | leaveFault => False
  | groundReset => False
  | _ => True

/-- What each move does, and when it is possible. -/
inductive Step : Lifecycle → Move → Lifecycle → Prop
  | advance {a : Lifecycle} {i : InitState} (h : a.initState.Advances i) :
      Step a .advance { a with initState := i }
  | enterFault (a : Lifecycle) :
      Step a .enterFault { a with initState := .fault, law := .backup, cause := .none }
  | degrade (a : Lifecycle) (reason : DegradationReason) :
      Step a (.degrade reason)
        { a with
          law := max a.law reason.target
          cause :=
            if a.law < reason.target then AviateKernel.engagedCause reason.target reason
            else a.cause }
  | release {a : Lifecycle} (hlaw : a.law = .direct) (hcause : a.cause = .commandLoss) :
      Step a .release { a with law := .primary, cause := .none }
  | fly {a : Lifecycle} (harmed : a.initState = .armed) (airborne : Bool) :
      Step a .fly { a with airborne := airborne }
  | arm {a : Lifecycle} (hready : a.initState = .ready) :
      Step a .arm ⟨.armed, .primary, .none, false⟩
  | endPeriod (a : Lifecycle) : Step a .endPeriod ⟨.disarmed, .backup, .none, false⟩
  | leaveFault {a : Lifecycle} (hfault : a.initState = .fault) :
      Step a .leaveFault { a with initState := .preArm }
  | groundReset {a : Lifecycle} (hgrounded : a.initState ≠ .armed) :
      Step a .groundReset ⟨.configLoading, .primary, .none, false⟩

/-- The abstract lifecycle as a transition system. -/
def system : TransitionSystem Lifecycle Move := ⟨Step⟩

/-- A terminal cause is recorded exactly under the direct law, and a faulted or
disarmed kernel is under the backup law. -/
structure Terminal (a : Lifecycle) : Prop where
  cause_iff : a.cause ≠ .none ↔ a.law = .direct
  backup : a.initState = .fault ∨ a.initState = .disarmed → a.law = .backup

/-- Only an armed or a faulted kernel is airborne. -/
def Grounded (a : Lifecycle) : Prop :=
  a.airborne = true → a.initState = .armed ∨ a.initState = .fault

/-- The coupling of lifecycle, law and flight phase. -/
structure Coherent (a : Lifecycle) : Prop where
  terminal : Terminal a
  grounded : Grounded a

theorem engagedCause_ne_none_iff (reason : DegradationReason) :
    AviateKernel.engagedCause reason.target reason ≠ .none ↔ reason.target = .direct := by
  cases reason <;> decide

/-- Every move keeps the law and its cause coupled. -/
theorem Terminal.step {a b : Lifecycle} {x : Move} (hstep : Step a x b) (ha : Terminal a) :
    Terminal b := by
  cases hstep with
  | advance h =>
    obtain ⟨-, hfault, hdisarmed⟩ := h.target_ne
    exact ⟨ha.cause_iff, fun hinit => (hinit.elim hfault hdisarmed).elim⟩
  | enterFault => exact ⟨by simp, fun _ => rfl⟩
  | degrade reason =>
    constructor
    -- Law and cause are replaced together or not at all.
    · by_cases hworse : a.law < reason.target
      · simp only [if_pos hworse, max_eq_right hworse.le]
        exact engagedCause_ne_none_iff reason
      · simp only [if_neg hworse, max_eq_left (not_lt.mp hworse)]
        exact ha.cause_iff
    · intro hinit
      show max a.law reason.target = .backup
      rw [ha.backup hinit]
      exact max_eq_left (ControlLawV1.le_backup _)
  | release hlaw hcause =>
    refine ⟨by simp, fun hinit => ?_⟩
    have hbackup := ha.backup hinit
    rw [hlaw] at hbackup
    cases hbackup
  | fly harmed airborne => exact ⟨ha.cause_iff, ha.backup⟩
  | arm hready => exact ⟨by simp, by simp⟩
  | endPeriod => exact ⟨by simp, fun _ => rfl⟩
  | leaveFault hfault => exact ⟨ha.cause_iff, by simp⟩
  | groundReset hgrounded => exact ⟨by simp, by simp⟩

/-- Every move but the fault reset keeps the airborne latch confined. -/
theorem Grounded.step {a b : Lifecycle} {x : Move} (hstep : Step a x b) (hx : x ≠ .leaveFault)
    (ha : Grounded a) : Grounded b := by
  intro hairborne
  cases hstep with
  | advance h => exact absurd (ha hairborne) h.source_ne
  | enterFault => exact .inr rfl
  | degrade reason => exact ha hairborne
  | release hlaw hcause => exact ha hairborne
  | fly harmed airborne => exact .inl harmed
  | arm hready => cases hairborne
  | endPeriod => cases hairborne
  | leaveFault hfault => exact absurd rfl hx
  | groundReset hgrounded => cases hairborne

/-- A faulted kernel stays faulted under every move within a flight. -/
theorem faulted_step {a b : Lifecycle} {x : Move} (hstep : Step a x b) (hx : x.WithinFlight)
    (ha : a.initState = .fault) : b.initState = .fault := by
  cases hstep with
  | advance h => exact absurd (.inr ha) h.source_ne
  | enterFault => rfl
  | degrade reason => exact ha
  | release hlaw hcause => exact ha
  | fly harmed airborne => exact ha
  | arm hready => exact absurd (ha.symm.trans hready) (by decide)
  | endPeriod => exact hx.elim
  | leaveFault hfault => exact hx.elim
  | groundReset hgrounded => exact hx.elim

/-- A landing is under way that no command may call off: the kernel is armed or faulted,
under the backup law or under a commanded direct law. -/
def Landing (a : Lifecycle) : Prop :=
  (a.initState = .armed ∨ a.initState = .fault) ∧
    (a.law = .backup ∨ a.law = .direct ∧ a.cause = .commanded)

theorem Landing.law_eq {a : Lifecycle} (h : Landing a) : a.law = .direct ∨ a.law = .backup := by
  rcases h.2 with hbackup | ⟨hdirect, -⟩
  · exact .inr hbackup
  · exact .inl hdirect

/-- Every move within a flight continues a landing. -/
theorem Landing.step {a b : Lifecycle} {x : Move} (hstep : Step a x b) (hx : x.WithinFlight)
    (ha : Landing a) : Landing b := by
  obtain ⟨hinit, hlaw⟩ := ha
  cases hstep with
  | advance h => exact absurd hinit h.source_ne
  | enterFault => exact ⟨.inr rfl, .inl rfl⟩
  | degrade reason =>
    refine ⟨hinit, ?_⟩
    rcases hlaw with hbackup | ⟨hdirect, hcause⟩
    · left
      show max a.law reason.target = .backup
      rw [hbackup]
      exact max_eq_left (ControlLawV1.le_backup _)
    -- Only the attitude loss is worse than `Direct`, and it lands in `Backup`.
    · by_cases hworse : a.law < reason.target
      · left
        show max a.law reason.target = .backup
        rw [max_eq_right hworse.le]
        rw [hdirect] at hworse
        revert hworse
        cases reason <;> decide
      · right
        simp only [if_neg hworse, max_eq_left (not_lt.mp hworse)]
        exact ⟨hdirect, hcause⟩
  -- The only move out of the terminal laws needs a cause a landing does not have.
  | release hdirect hloss =>
    rcases hlaw with hbackup | ⟨-, hcommanded⟩
    · exact absurd (hdirect.symm.trans hbackup) (by decide)
    · exact absurd (hloss.symm.trans hcommanded) (by decide)
  | fly harmed airborne => exact ⟨hinit, hlaw⟩
  | arm hready =>
    rcases hinit with h | h <;> exact absurd (h.symm.trans hready) (by decide)
  | endPeriod => exact hx.elim
  | leaveFault hfault => exact hx.elim
  | groundReset hgrounded => exact hx.elim

end Lifecycle

/-! ## The kernel refines it -/

variable {F E R : Type}

/-- What the lifecycle model keeps of a kernel state. -/
def KernelState.lifecycle (s : KernelState F E R) : Lifecycle :=
  ⟨s.initState, s.controlLaw, s.terminalCause, s.flightPhase.isAirborne⟩

@[simp] theorem KernelState.lifecycle_new [Scalar F] (k : AviateKernel F E R)
    (checks : KernelChecks F) :
    (KernelState.new k checks).lifecycle = ⟨.powerOn, .primary, .none, false⟩ := rfl

/-- The moves an operation may make. -/
def KernelOp.makes : KernelOp F E → Lifecycle.Move → Prop
  | .initStep _, x => x = .advance
  | .update _, x => x = .enterFault ∨ x = .fly ∨ x = .release ∨ ∃ reason, x = .degrade reason
  | .updateThrottle _, _ => False
  | .arm, x => x = .arm
  | .disarm, x => x = .endPeriod
  | .terminate, x => x = .endPeriod
  | .handleDegradation reason _, x => x = .degrade reason
  | .resetFromFault, x => x = .leaveFault
  | .groundReset, x => x = .groundReset
  | .requestConfigMode _, _ => False
  | .reportTimingViolation _, _ => False
  | .checkCriticalFaults, x => x = .enterFault
  | .injectFault _, _ => False
  | .writeEstimator _, _ => False

/-- Only initialization steps follow the initialization sequence. -/
theorem KernelOp.makes_advance {op : KernelOp F E} (h : op.makes .advance) :
    ∃ sensors, op = .initStep sensors := by
  cases op <;> simp [KernelOp.makes] at h
  exact ⟨_, rfl⟩

/-- A fault reset is the only operation that leaves the fault state for `PreArm`. -/
theorem KernelOp.makes_leaveFault {op : KernelOp F E} (h : op.makes .leaveFault) :
    op = .resetFromFault := by
  cases op <;> simp [KernelOp.makes] at h
  rfl

namespace AviateKernel

theorem OutputFrame.lifecycle_eq {s t : KernelState F E R} (h : OutputFrame s t) :
    t.lifecycle = s.lifecycle := by
  unfold KernelState.lifecycle
  rw [h.initState, h.controlLaw, h.terminalCause, h.flightPhase]

section Paths

variable (k : AviateKernel F E R) (s : KernelState F E R)

/-- The state machine step follows one edge or stays. It collects or drops samples but
never changes what is required, and it is ready only with every check passing. -/
theorem advanceInit_spec :
    ∃ preArm i, advanceInit s = { s.setPreArm preArm with initState := i } ∧
      (i = s.initState ∨ s.initState.Advances i) ∧
      preArm.required = s.checks.preArm.required ∧
      (i = .ready → preArm = s.checks.preArm ∧ preArm.isSatisfied = true) := by
  have stay {i : InitState} (hinit : s.initState = i) (hnot : i ≠ .ready) :
      ∃ preArm i, s = { s.setPreArm preArm with initState := i } ∧
        (i = s.initState ∨ s.initState.Advances i) ∧
        preArm.required = s.checks.preArm.required ∧
        (i = .ready → preArm = s.checks.preArm ∧ preArm.isSatisfied = true) :=
    ⟨s.checks.preArm, s.initState, rfl, .inl rfl, rfl,
      fun h => absurd (hinit.symm.trans h) hnot⟩
  simp only [advanceInit]
  split
  next hinit => exact ⟨_, .configLoading, rfl, .inr (hinit ▸ .load), rfl, nofun⟩
  next hinit => exact ⟨_, .sensorInit, rfl, .inr (hinit ▸ .config), rfl, nofun⟩
  next hinit =>
    split
    · exact ⟨_, .estimatorConverging, rfl, .inr (hinit ▸ .sensors), rfl, nofun⟩
    · exact stay hinit (by decide)
  next hinit =>
    split
    · exact ⟨_, .preArm, rfl, .inr (hinit ▸ .converge), rfl, nofun⟩
    · exact stay hinit (by decide)
  next hinit =>
    split
    next hsat => exact ⟨_, .ready, rfl, .inr (hinit ▸ .satisfy), rfl, fun _ => ⟨rfl, hsat⟩⟩
    next => exact stay hinit (by decide)
  next hinit =>
    split
    next => exact ⟨_, .preArm, rfl, .inr (hinit ▸ .unsatisfy), rfl, nofun⟩
    next hsat =>
      refine ⟨s.checks.preArm, s.initState, rfl, .inl rfl, rfl, fun _ => ⟨rfl, ?_⟩⟩
      simpa using hsat
  next hinit => exact stay hinit (by decide)
  next hinit => exact ⟨_, .preArm, rfl, .inr (hinit ▸ .rearm), rfl, nofun⟩
  next hinit => exact stay hinit (by decide)

theorem advanceInit_path :
    ∃ moves, (∀ x ∈ moves, x = .advance) ∧
      Lifecycle.system.Path s.lifecycle moves (advanceInit s).lifecycle := by
  obtain ⟨preArm, i, heq, hedge, -, -⟩ := advanceInit_spec s
  rw [heq]
  rcases hedge with rfl | hedge
  · exact ⟨[], by simp, .nil _⟩
  · exact ⟨[.advance], by simp, .single (.advance hedge)⟩

theorem handleDegradation_path (reason : DegradationReason) (timestamp : Timestamp) :
    Lifecycle.system.Path s.lifecycle [.degrade reason]
      (k.handleDegradation s reason timestamp).1.lifecycle := by
  obtain ⟨c, heq⟩ := k.handleDegradation_eq s reason timestamp
  rw [heq]
  exact .single (.degrade s.lifecycle reason)

theorem checkCriticalFaults_path (h : s.faults.intersects criticalFaults = true) :
    Lifecycle.system.Path s.lifecycle [.enterFault] (k.checkCriticalFaults s).1.lifecycle := by
  rw [checkCriticalFaults, if_pos h]
  exact .single (.enterFault s.lifecycle)

theorem releaseTerminal_path :
    ∃ moves, (∀ x ∈ moves, x = .release) ∧
      Lifecycle.system.Path s.lifecycle moves (k.releaseTerminal s).lifecycle := by
  obtain ⟨c, heq⟩ := k.releaseTerminal_eq s
  rw [heq]
  by_cases hreleases : releases s = true
  · obtain ⟨hlaw, hcause, -⟩ := (releases_iff s).mp hreleases
    simp only [hreleases, if_true]
    exact ⟨[.release], by simp, .single (.release hlaw hcause)⟩
  · simp only [hreleases]
    exact ⟨[], by simp, .nil _⟩

theorem degrade_path (timestamp : Timestamp) :
    ∃ moves, (∀ x ∈ moves, ∃ reason, x = .degrade reason) ∧
      Lifecycle.system.Path s.lifecycle moves (k.degrade s timestamp).1.lifecycle := by
  rw [degrade_fst]
  split
  next reason _ =>
    exact ⟨[.degrade reason], by simp, k.handleDegradation_path s reason timestamp⟩
  next => exact ⟨[], by simp, .nil _⟩

variable [Scalar F]

theorem monitor_path (inp : UpdateInput F) (state : StateEstimate F)
    (harmed : s.initState = .armed) :
    Lifecycle.system.Path s.lifecycle [.fly] (k.monitor s inp state).lifecycle :=
  .single (.fly harmed _)

variable [Libm F]

theorem armedCycle_path (inp : UpdateInput F) (command : Command F)
    (harmed : s.initState = .armed) :
    ∃ moves, (∀ x ∈ moves, KernelOp.makes (.update inp : KernelOp F E) x) ∧
      Lifecycle.system.Path s.lifecycle moves
        (k.armedCycle s inp command (cycleTimestamp inp)).1.lifecycle := by
  have hfly : Lifecycle.system.Path s.lifecycle [.fly] (k.monitored s inp command).lifecycle :=
    k.monitor_path (k.observe s inp command.sensorOverrides) inp _ harmed
  obtain ⟨released, hreleased, hrelease⟩ := k.releaseTerminal_path (k.monitored s inp command)
  obtain ⟨degraded, hdegraded, hdegrade⟩ :=
    k.degrade_path (k.releaseTerminal (k.monitored s inp command)) (cycleTimestamp inp)
  rw [armedCycle_eq, (k.flightOutput_frame _ _ _ _ _ _).lifecycle_eq]
  refine ⟨[.fly] ++ released ++ degraded, fun x hx => ?_, (hfly.append hrelease).append hdegrade⟩
  rw [List.mem_append, List.mem_append, List.mem_singleton] at hx
  rcases hx with (rfl | hx) | hx
  · exact .inr (.inl rfl)
  · exact .inr (.inr (.inl (hreleased x hx)))
  · exact .inr (.inr (.inr (hdegraded x hx)))

theorem update_path (inp : UpdateInput F) :
    ∃ moves, (∀ x ∈ moves, KernelOp.makes (.update inp : KernelOp F E) x) ∧
      Lifecycle.system.Path s.lifecycle moves (k.update s inp).1.lifecycle := by
  rcases k.update_cases s inp with ⟨sequence, -, heq⟩ | ⟨command, e, -, -, heq⟩ |
      ⟨command, -, -, hcritical, heq⟩ | ⟨command, -, harmed, -, heq⟩ <;> rw [heq]
  · exact ⟨[], by simp, .nil _⟩
  · exact ⟨[], by simp, .nil _⟩
  · refine ⟨[.enterFault], ?_, k.checkCriticalFaults_path (sensed s inp) hcritical⟩
    simp [KernelOp.makes]
  · exact k.armedCycle_path (sensed s inp) inp command harmed

/-- Each public operation is a path of the moves it may make. -/
theorem step_path (op : KernelOp F E) :
    ∃ moves, (∀ x ∈ moves, op.makes x) ∧
      Lifecycle.system.Path s.lifecycle moves (k.step s op).1.lifecycle := by
  cases op with
  | initStep sensors => exact advanceInit_path (k.evaluatePreArm s sensors)
  | update input => exact k.update_path s input
  | arm =>
    rcases k.arm_cases s with ⟨e, heq⟩ | ⟨hready, -, heq⟩
    · simp only [step, heq]
      exact ⟨[], by simp, .nil _⟩
    · simp only [step, heq]
      exact ⟨[.arm], by simp [KernelOp.makes], .single (.arm hready)⟩
  | disarm =>
    rcases k.disarm_cases s with ⟨-, heq⟩ | ⟨-, heq⟩
    · simp only [step, heq]
      exact ⟨[], by simp, .nil _⟩
    · simp only [step, heq]
      exact ⟨[.endPeriod], by simp [KernelOp.makes], .single (.endPeriod s.lifecycle)⟩
  | terminate =>
    exact ⟨[.endPeriod], by simp [KernelOp.makes], .single (.endPeriod s.lifecycle)⟩
  | handleDegradation reason timestamp =>
    exact ⟨[.degrade reason], by simp [KernelOp.makes],
      k.handleDegradation_path s reason timestamp⟩
  | resetFromFault =>
    rcases resetFromFault_cases s with ⟨-, e, heq⟩ | ⟨hreset, heq⟩
    · simp only [step, heq]
      exact ⟨[], by simp, .nil _⟩
    · have hfault := ((canResetFromFault_iff s).mp hreset).1
      simp only [step, heq]
      exact ⟨[.leaveFault], by simp [KernelOp.makes], .single (.leaveFault hfault)⟩
  | groundReset =>
    by_cases harmed : s.initState = .armed
    · simp only [step, k.groundReset_of_armed s harmed]
      exact ⟨[], by simp, .nil _⟩
    · obtain ⟨hinit, hlaw, hcause, hphase, -⟩ := k.groundReset_lifecycle s harmed
      refine ⟨[.groundReset], by simp [KernelOp.makes], ?_⟩
      have hview : (k.groundReset s).lifecycle = ⟨.configLoading, .primary, .none, false⟩ := by
        simp [KernelState.lifecycle, hinit, hlaw, hcause, hphase]
      simp only [step, hview]
      exact .single (.groundReset harmed)
  | checkCriticalFaults =>
    rcases k.checkCriticalFaults_cases s with ⟨-, heq⟩ | ⟨hcritical, -⟩
    · simp only [step, heq]
      exact ⟨[], by simp, .nil _⟩
    · exact ⟨[.enterFault], by simp [KernelOp.makes], k.checkCriticalFaults_path s hcritical⟩
  | requestConfigMode toMode =>
    obtain ⟨current, mode, heq⟩ := k.requestConfigMode_eq s toMode
    refine ⟨[], by simp, ?_⟩
    simp only [step, Prod.map_fst, heq]
    exact .nil _
  | reportTimingViolation violation =>
    refine ⟨[], by simp, ?_⟩
    simp only [step, reportTimingViolation]
    split <;> exact .nil _
  | updateThrottle throttleLow => exact ⟨[], by simp, .nil _⟩
  | injectFault fault => exact ⟨[], by simp, .nil _⟩
  | writeEstimator estimator => exact ⟨[], by simp, .nil _⟩

/-! ## What most operations leave alone -/

/-- `t` is `s` but for what an operation other than a cycle and a ground reset may write. -/
structure StepFrame (s t : KernelState F E R) : Prop where
  required : t.checks.preArm.required = s.checks.preArm.required
  actuatorState : t.actuatorState = s.actuatorState
  fallback : t.fallback = s.fallback
  faults : ∀ i ∈ s.faults, i ∈ t.faults

/-- Only a cycle and a ground reset change what is required before arming, write the
actuator memory or clear a fault. -/
theorem step_frame {op : KernelOp F E} (hupdate : ∀ inp, op ≠ .update inp)
    (hground : op ≠ .groundReset) : StepFrame s (k.step s op).1 := by
  have stay : StepFrame s s := ⟨rfl, rfl, rfl, fun _ hi => hi⟩
  cases op with
  | initStep sensors =>
    obtain ⟨preArm, i, heq, -, hrequired, -⟩ := advanceInit_spec (k.evaluatePreArm s sensors)
    simp only [step, initStep, Prod.map_fst, heq]
    exact ⟨hrequired, rfl, rfl, fun _ hi => hi⟩
  | update input => exact absurd rfl (hupdate input)
  | updateThrottle throttleLow => exact ⟨rfl, rfl, rfl, fun _ hi => hi⟩
  | arm =>
    rcases k.arm_cases s with ⟨e, heq⟩ | ⟨-, -, heq⟩
    · simp only [step, heq]
      exact stay
    · simp only [step, heq]
      exact ⟨rfl, rfl, rfl, fun _ hi => hi⟩
  | disarm =>
    rcases k.disarm_cases s with ⟨-, heq⟩ | ⟨-, heq⟩
    · simp only [step, heq]
      exact stay
    · simp only [step, heq]
      exact ⟨rfl, rfl, rfl, fun _ hi => hi⟩
  | terminate => exact ⟨rfl, rfl, rfl, fun _ hi => hi⟩
  | handleDegradation reason timestamp =>
    obtain ⟨c, heq⟩ := k.handleDegradation_eq s reason timestamp
    simp only [step, Prod.map_fst, heq]
    exact ⟨rfl, rfl, rfl, fun _ hi => FaultFlags.mem_latch hi⟩
  | resetFromFault =>
    rcases resetFromFault_cases s with ⟨-, e, heq⟩ | ⟨-, heq⟩
    · simp only [step, heq]
      exact stay
    · simp only [step, heq]
      exact ⟨rfl, rfl, rfl, fun _ hi => hi⟩
  | groundReset => exact absurd rfl hground
  | requestConfigMode toMode =>
    obtain ⟨current, mode, heq⟩ := k.requestConfigMode_eq s toMode
    simp only [step, Prod.map_fst, heq]
    exact ⟨rfl, rfl, rfl, fun _ hi => hi⟩
  | reportTimingViolation violation => cases violation <;> exact ⟨rfl, rfl, rfl, fun _ hi => hi⟩
  | checkCriticalFaults =>
    rcases k.checkCriticalFaults_cases s with ⟨-, heq⟩ | ⟨-, c, heq⟩
    · simp only [step, heq]
      exact stay
    · simp only [step, heq]
      exact ⟨rfl, rfl, rfl, fun _ hi => hi⟩
  | injectFault fault => exact ⟨rfl, rfl, rfl, fun _ hi => FlagSet.mem_insert.mpr (.inl hi)⟩
  | writeEstimator estimator => exact ⟨rfl, rfl, rfl, fun _ hi => hi⟩

end Paths

/-- The kernel refines the abstract lifecycle. -/
def lifecycleRefinement [Scalar F] [Libm F] (k : AviateKernel F E R) :
    Machine.Refinement k.machine Lifecycle.system where
  view := KernelState.lifecycle
  makes := KernelOp.makes
  path s := k.step_path s

section Runs

variable [Scalar F] [Libm F] (k : AviateKernel F E R)

/-- The operation ends the flight period of `s`: a terminate, or a disarm that is not
refused. -/
def EndsFlightPeriod (s : KernelState F E R) (op : KernelOp F E) : Prop :=
  op = .terminate ∨ op = .disarm ∧ s.flightPhase.isAirborne = false

/-- The operation takes an armed or faulted kernel out of its flight: it ends the flight
period, or one of the two resets acts. -/
def EndsFlight (s : KernelState F E R) (op : KernelOp F E) : Prop :=
  EndsFlightPeriod s op ∨ op = .groundReset ∧ s.initState ≠ .armed ∨
    op = .resetFromFault ∧ canResetFromFault s = true

/-- What every move within a flight preserves, an operation that does not end the flight
preserves. -/
theorem flight_step_invariant {I : Lifecycle → Prop}
    (hmove : ∀ a x b, Lifecycle.Step a x b → x.WithinFlight → I a → I b)
    {s : KernelState F E R} {op : KernelOp F E} (hop : ¬ EndsFlight s op) (hs : I s.lifecycle) :
    I (k.step s op).1.lifecycle := by
  -- The operations that cannot end a flight are covered by their moves; the other four are
  -- looked at with their guards.
  have hother (hend : ¬ op.makes .endPeriod) (hleave : ¬ op.makes .leaveFault)
      (hground : ¬ op.makes .groundReset) : I (k.step s op).1.lifecycle := by
    refine k.lifecycleRefinement.step_invariant (G := Lifecycle.Move.WithinFlight) hmove
      (fun x hmakes => ?_) hs
    cases x with
    | endPeriod => exact hend hmakes
    | leaveFault => exact hleave hmakes
    | groundReset => exact hground hmakes
    | _ => trivial
  cases op with
  | disarm =>
    rcases k.disarm_cases s with ⟨-, heq⟩ | ⟨hlanded, -⟩
    · simp only [step, heq]
      exact hs
    · exact absurd (.inl (.inr ⟨rfl, hlanded⟩)) hop
  | terminate => exact absurd (.inl (.inl rfl)) hop
  | groundReset =>
    by_cases harmed : s.initState = .armed
    · simp only [step, k.groundReset_of_armed s harmed]
      exact hs
    · exact absurd (.inr (.inl ⟨rfl, harmed⟩)) hop
  | resetFromFault =>
    rcases resetFromFault_cases s with ⟨-, e, heq⟩ | ⟨hcan, -⟩
    · simp only [step, heq]
      exact hs
    · exact absurd (.inr (.inr ⟨rfl, hcan⟩)) hop
  | _ =>
    exact hother (by simp [KernelOp.makes]) (by simp [KernelOp.makes])
      (by simp [KernelOp.makes])

/-- A run is a path of the abstract lifecycle from power-on. -/
theorem lifecycle_path (checks : KernelChecks F) (ops : List (KernelOp F E)) :
    ∃ moves, Lifecycle.system.Path ⟨.powerOn, .primary, .none, false⟩ moves
      (k.after checks ops).lifecycle := by
  rw [← KernelState.lifecycle_new k checks]
  exact k.lifecycleRefinement.run_path

/-- The law and its cause are coupled in every state of every run. -/
theorem terminal_after (checks : KernelChecks F) (ops : List (KernelOp F E)) :
    (k.after checks ops).lifecycle.Terminal := by
  have hnew : (KernelState.new k checks).lifecycle.Terminal := by
    rw [KernelState.lifecycle_new]
    exact ⟨by decide, by decide⟩
  exact k.lifecycleRefinement.run_invariant (I := Lifecycle.Terminal) (G := fun _ => True)
    (fun a x b hstep _ ha => ha.step hstep) (fun _ _ _ _ => trivial) hnew

end Runs

end AviateKernel

end Aviate

end KernelLifecycle

section KernelDegradation

/-!
# Degradation in flight

What the degradation step of an armed cycle guarantees about the law it reports, what the
mode gate can rely on afterwards, and how long a requested landing lasts.

Results:
1. The law covers every missing flag, but for a stale command that a lost position or
   velocity precedes (`cycle_answers_missing`, `first_trigger_masks_later`).
2. The controller flies a mode the estimate backs exactly under the conditions of
   `flown_mode_backed_iff`. Persistent timing violations preempt an attitude loss, and
   then the gate has nothing to rely on (`flies_invalid_attitude`).
3. A requested landing lasts until the flight ends (`land_request_latches`), unless the
   kernel is descending for command loss when it comes (`land_request_dropped`).
-/

namespace Aviate

variable {F E R : Type}

/-! ## The trigger and its target law -/

namespace InFlightStatus

/-- The trigger ends the flight exactly when the attitude is missing, or the command is
missing with nothing before it. -/
theorem direct_le_target_trigger_iff (s : InFlightStatus) :
    .direct ≤ AviateKernel.targetLaw s.getDegradationTrigger ↔
      s.missing.contains InFlightFlags.attitudeValid = true ∨
        s.missing.contains InFlightFlags.imuOk = false ∧
        s.missing.contains InFlightFlags.positionValid = false ∧
        s.missing.contains InFlightFlags.velocityValid = false ∧
        s.missing.contains InFlightFlags.commandRecent = true := by
  unfold getDegradationTrigger
  cases s.missing.contains InFlightFlags.attitudeValid with
  | true => simp only [if_true, true_or, iff_true]; decide
  | false =>
    cases s.missing.contains InFlightFlags.imuOk with
    | true => simp; decide
    | false =>
      cases s.missing.contains InFlightFlags.positionValid with
      | true => simp; decide
      | false =>
        cases s.missing.contains InFlightFlags.velocityValid with
        | true => simp; decide
        | false =>
          cases s.missing.contains InFlightFlags.commandRecent with
          | true => simp; decide
          -- The three flags after the command lead to `Alternate`.
          | false =>
            simp only [Bool.false_eq_true, if_false, and_false, or_false, iff_false]
            repeat' split
            all_goals decide

/-- The trigger leads to the backup law exactly when the attitude is missing. -/
theorem backup_le_target_trigger_iff (s : InFlightStatus) :
    .backup ≤ AviateKernel.targetLaw s.getDegradationTrigger ↔
      s.missing.contains InFlightFlags.attitudeValid = true := by
  unfold getDegradationTrigger
  cases s.missing.contains InFlightFlags.attitudeValid with
  | true => simp only [if_true, iff_true]; decide
  | false =>
    simp only [Bool.false_eq_true, if_false, iff_false]
    repeat' split
    all_goals decide

/-- A missing flag of the trigger order degrades to `Alternate` at least. -/
theorem alternate_le_target_trigger {s : InFlightStatus} {flag : InFlightFlags}
    {reason : DegradationReason} (hr : (flag, reason) ∈ triggerOrder)
    (hmissing : s.missing.contains flag = true) :
    .alternate ≤ AviateKernel.targetLaw s.getDegradationTrigger := by
  cases htrigger : s.getDegradationTrigger with
  | none =>
    have hnot := not_missing_of_trigger_none htrigger hr
    exact absurd (hnot.symm.trans hmissing) (by decide)
  | some trigger =>
    show .alternate ≤ trigger.target
    cases trigger <;> decide

/-- With a good IMU the trigger's target covers the target of every missing flag, but for
a missing command under a missing position or velocity. -/
theorem target_le_target_trigger {s : InFlightStatus} {flag : InFlightFlags}
    {reason : DegradationReason} (hr : (flag, reason) ∈ triggerOrder)
    (hmissing : s.missing.contains flag = true)
    (himu : s.missing.contains InFlightFlags.imuOk = false) :
    reason.target ≤ AviateKernel.targetLaw s.getDegradationTrigger ∨
      reason = .commandTimeout ∧
        (s.missing.contains InFlightFlags.positionValid = true ∨
          s.missing.contains InFlightFlags.velocityValid = true) := by
  have halternate := alternate_le_target_trigger hr hmissing
  simp only [triggerOrder, List.mem_cons, Prod.mk.injEq, List.not_mem_nil, or_false] at hr
  rcases hr with ⟨rfl, rfl⟩ | ⟨-, rfl⟩ | ⟨-, rfl⟩ | ⟨-, rfl⟩ | ⟨rfl, rfl⟩ | ⟨-, rfl⟩ | ⟨-, rfl⟩ |
    ⟨-, rfl⟩
  · left
    have htrigger : s.getDegradationTrigger = some .attitudeLost := if_pos hmissing
    rw [htrigger]
    exact le_refl _
  · exact .inl halternate
  · exact .inl halternate
  · exact .inl halternate
  · cases hposition : s.missing.contains InFlightFlags.positionValid with
    | true => exact .inr ⟨rfl, .inl rfl⟩
    | false =>
      cases hvelocity : s.missing.contains InFlightFlags.velocityValid with
      | true => exact .inr ⟨rfl, .inr rfl⟩
      | false =>
        left
        exact (direct_le_target_trigger_iff s).mpr
          (.inr ⟨himu, hposition, hvelocity, hmissing⟩)
  · exact .inl halternate
  · exact .inl halternate
  · exact .inl halternate

end InFlightStatus

namespace AviateKernel

section Monitored

variable [Scalar F] [Libm F] (k : AviateKernel F E R) (s : KernelState F E R)
  (inp : UpdateInput F) (command : Command F)

omit [Libm F] in
/-- The in-flight flags of an armed cycle, as its inputs give them. -/
theorem monitored_flags :
    let current := (k.monitored s inp command).checks.inFlight.current
    let valid := (k.observed s inp command).validFlags
    current.contains InFlightFlags.attitudeValid = valid.contains StateValidFlags.attitude ∧
      current.contains InFlightFlags.velocityValid = valid.contains StateValidFlags.velocity ∧
      current.contains InFlightFlags.positionValid = valid.contains StateValidFlags.position ∧
      current.contains InFlightFlags.imuOk = anyGood inp.sensors.imus ∧
      current.contains InFlightFlags.commandRecent =
        decide (inp.commandAgeMs < k.cfg.commandTimeoutMs) := by
  simp only [monitored, monitor, KernelState.setInFlight, InFlightStatus.updateCommandStatus,
    InFlightStatus.updateAltitude, InFlightStatus.updateFromSensors,
    InFlightStatus.updateFromState, InFlightFlags.attitudeValid, InFlightFlags.velocityValid,
    InFlightFlags.positionValid, InFlightFlags.headingValid, InFlightFlags.imuOk,
    InFlightFlags.baroOk, InFlightFlags.altitudeOk, InFlightFlags.commandRecent]
  refine ⟨?_, ?_, ?_, ?_, ?_⟩ <;>
    simp (disch := decide) only [FlagSet.contains_set_flag_of_ne, FlagSet.contains_set_flag_self]

end Monitored

/-! ## What a cycle does about missing flags -/

section Missing

variable [Scalar F] [Libm F] (k : AviateKernel F E R) (s : KernelState F E R)
  (inp : UpdateInput F) (command : Command F)

/-- The flags that are required but not passing when an armed cycle decides on a
degradation. -/
def cycleMissing : InFlightFlags := (k.monitored s inp command).checks.inFlight.missing

omit [Libm F] in
/-- Persistent timing violations preempt the trigger. -/
theorem degradationReason_monitored :
    degradationReason (k.monitored (sensed s inp) inp command) =
      if timingViolationThreshold ≤ s.timingStats.consecutiveViolations then
        some .timingViolation
      else (k.monitored (sensed s inp) inp command).checks.inFlight.getDegradationTrigger := rfl

omit [Libm F] in
/-- The IMU flag is not missing in a cycle that passes the critical-fault gate. -/
theorem imu_not_missing (himu : anyGood inp.sensors.imus = true) :
    (k.cycleMissing s inp command).contains InFlightFlags.imuOk = false := by
  obtain ⟨-, -, -, hok, -⟩ := k.monitored_flags s inp command
  rw [himu] at hok
  rw [cycleMissing, InFlightStatus.missing, InFlightFlags.imuOk,
    FlagSet.contains_difference_flag (by decide), Bool.and_eq_false_iff]
  exact .inr (congrArg not hok)

/-- A law and a fault register answer the missing flags: the law is at least as severe as
the target of every missing flag's reason, but for a missing command under a missing
position or velocity, which stand before it in the documented order and still take the
law to `Alternate`; and the fault of the first missing flag in that order is latched. -/
structure AnswersMissing (missing : InFlightFlags) (law : ControlLawV1) (faults : FaultFlags) :
    Prop where
  alternate : ∀ flag reason, (flag, reason) ∈ triggerOrder → missing.contains flag = true →
    .alternate ≤ law
  target : ∀ flag reason, (flag, reason) ∈ triggerOrder → missing.contains flag = true →
    reason.target ≤ law ∨
      reason = .commandTimeout ∧
        (missing.contains InFlightFlags.positionValid = true ∨
          missing.contains InFlightFlags.velocityValid = true)
  latched : ∀ flag reason fault,
    (triggerOrder.find? fun entry => missing.contains entry.1) = some (flag, reason) →
    reason.latchedFault = some fault → faults.contains fault = true

variable {command}

/-- An armed cycle without a critical fault, from any state, answers every missing flag
unless timing violations are persistent; those take the law to `Alternate` and latch their
own fault. -/
theorem cycle_answers_missing (hcommand : inp.command = .intact command)
    (harmed : s.initState = .armed)
    (hcritical : (sensed s inp).faults.intersects criticalFaults = false) :
    (s.timingStats.consecutiveViolations < timingViolationThreshold →
      AnswersMissing (k.cycleMissing (sensed s inp) inp command) (k.update s inp).2.status.law
        (k.update s inp).1.faults) ∧
    (timingViolationThreshold ≤ s.timingStats.consecutiveViolations →
      .alternate ≤ (k.update s inp).2.status.law ∧
        (k.update s inp).1.faults.contains FaultFlags.timingPersistent = true) := by
  have himu := k.imu_not_missing (sensed s inp) inp command
    (anyGood_imus_of_not_critical s inp hcritical)
  rw [k.update_of_armed s inp hcommand harmed hcritical, armedCycle_law, armedCycle_faults,
    degradationReason_monitored]
  refine ⟨fun htiming => ?_, fun htiming => ?_⟩
  · rw [if_neg (UInt32.not_le.mpr htiming)]
    constructor
    · intro flag reason hr hmissing
      exact (InFlightStatus.alternate_le_target_trigger hr hmissing).trans (le_max_right _ _)
    · intro flag reason hr hmissing
      have htarget := InFlightStatus.target_le_target_trigger hr hmissing himu
      exact htarget.imp_left fun hle => hle.trans (le_max_right _ _)
    · intro flag reason fault hfirst hfault
      rw [cycleMissing] at hfirst
      rw [InFlightStatus.getDegradationTrigger_eq, hfirst]
      simp only [Option.map_some, latchedFaults, FaultFlags.latch, hfault]
      exact FlagSet.contains_insert_self
  · rw [if_pos htiming]
    exact ⟨le_max_right _ _, FlagSet.contains_insert_self⟩

/-- Arm on a full estimate, then lose the position and the velocity. -/
def navigationLossRun : List (KernelOp (ExactFloat ℚ) (StateEstimate (ExactFloat ℚ))) :=
  startup (levelEstimate 0 .full) ++
    [KernelOp.arm, .writeEstimator (levelEstimate 0 StateValidFlags.attitude)]

/-- A cycle whose command went stale. -/
def staleInput : UpdateInput (ExactFloat ℚ) :=
  cycleInput healthySensors (collectiveCommand .attitude (1 / 2)) 600

/-- Position, velocity and command are missing in one cycle. Only the position loss is
answered: the law stays below the target of the command timeout, and the velocity loss
is not latched. -/
theorem first_trigger_masks_later :
    let s := (fixedKernel 0).after positionChecks navigationLossRun
    let missing := (fixedKernel 0).cycleMissing (sensed s staleInput) staleInput
      (collectiveCommand .attitude (1 / 2))
    s.initState = .armed ∧ (sensed s staleInput).faults.intersects criticalFaults = false ∧
      missing.contains InFlightFlags.velocityValid = true ∧
      missing.contains InFlightFlags.commandRecent = true ∧
      ((fixedKernel 0).update s staleInput).2.status.law <
        DegradationReason.commandTimeout.target ∧
      ((fixedKernel 0).update s staleInput).1.faults.contains FaultFlags.velocityLost = false := by
  decide +kernel

/-- The same cycle does answer the position loss. -/
theorem cycle_answers_position_loss :
    .alternate ≤ ((fixedKernel 0).update ((fixedKernel 0).after positionChecks navigationLossRun)
        staleInput).2.status.law ∧
      ((fixedKernel 0).update ((fixedKernel 0).after positionChecks navigationLossRun)
        staleInput).1.faults.contains FaultFlags.positionLost = true := by
  have harmed : ((fixedKernel 0).after positionChecks navigationLossRun).initState = .armed := by
    decide +kernel
  have hcritical : (sensed ((fixedKernel 0).after positionChecks navigationLossRun)
      staleInput).faults.intersects criticalFaults = false := by decide +kernel
  have hanswers := ((fixedKernel 0).cycle_answers_missing _ staleInput rfl harmed hcritical).1
    (by decide +kernel)
  constructor
  · exact hanswers.alternate InFlightFlags.positionValid .positionLost (by decide)
      (by decide +kernel)
  · exact hanswers.latched InFlightFlags.positionValid .positionLost _ (by decide +kernel) rfl

end Missing

/-! ## The mode gate and the degradation step -/

section ModeGate

variable [Scalar F] [Libm F] (k : AviateKernel F E R) (s : KernelState F E R)
  (inp : UpdateInput F)

/-- Whenever the controller flew a command under `Primary` or `Alternate`, the estimate of
that cycle has the validity the flown mode requires. -/
def FlownModeBacked (r : UpdateResult F) : Prop :=
  r.status.law < .direct → r.status.modeEntry.isUnsupported = false →
    r.estimate.validFlags.contains r.effectiveCommand.mode.requiredValidity = true

omit [Scalar F] [Libm F] in
theorem flownModeBacked_of_backup {r : UpdateResult F} (h : r.status.law = .backup) :
    FlownModeBacked r := by
  intro hlaw
  rw [h] at hlaw
  exact absurd hlaw (by decide)

/-- Below the terminal laws a cycle flies a backed mode exactly when the attitude is valid,
or the mode requires nothing or is not implemented. -/
theorem flownModeBacked_flightOutput_iff (command : Command F) (timestamp : Timestamp)
    (state : StateEstimate F) (degradation : Option DegradationEvent) :
    FlownModeBacked (k.flightOutput s inp command timestamp state degradation).2 ↔
      (s.controlLaw < .direct → k.pipeline.controller.supportsMode command.mode = true →
        state.validFlags.contains StateValidFlags.attitude = true ∨ command.mode = .rate) := by
  unfold FlownModeBacked
  rw [flightOutput_law, flightOutput_modeEntry, flightOutput_estimate]
  refine forall_congr' fun hlaw => ?_
  have hentry := k.entryDecision_of_lt s command state hlaw
  have hunsupported := gateControllerModeEntry_isUnsupported command.mode state.validFlags
    (k.pipeline.controller.supportsMode command.mode)
  rw [← hentry] at hunsupported
  cases hsupports : k.pipeline.controller.supportsMode command.mode with
  | false => simp [hunsupported, hsupports]
  | true =>
    rw [hsupports] at hentry hunsupported
    simp only [hunsupported, Bool.not_true, forall_const]
    rw [k.flightOutput_effectiveCommand_mode s inp command timestamp state degradation hlaw
      hunsupported, hentry]
    exact gateModeEntry_sound_iff

/-- The cycle starts under a terminal law and does not release it. -/
def StaysTerminal : Prop :=
  s.controlLaw = .backup ∨
    s.controlLaw = .direct ∧
      ¬ (s.terminalCause = .commandLoss ∧ inp.commandAgeMs < k.cfg.commandTimeoutMs)

/-- With an invalid attitude, the degradation of the cycle is terminal: timing violations
do not preempt it, and either the attitude is required, or the command is required and
stale with neither position nor velocity missing. -/
def DegradesTerminally (valid : StateValidFlags) : Prop :=
  s.timingStats.consecutiveViolations < timingViolationThreshold ∧
    (s.checks.inFlight.required.contains InFlightFlags.attitudeValid = true ∨
      (s.checks.inFlight.required.contains InFlightFlags.positionValid = true →
        valid.contains StateValidFlags.position = true) ∧
      (s.checks.inFlight.required.contains InFlightFlags.velocityValid = true →
        valid.contains StateValidFlags.velocity = true) ∧
      s.checks.inFlight.required.contains InFlightFlags.commandRecent = true ∧
      k.cfg.commandTimeoutMs ≤ inp.commandAgeMs)

omit [Libm F] in
theorem direct_le_releasedLaw_iff (command : Command F) :
    .direct ≤ releasedLaw (k.monitored (sensed s inp) inp command) ↔ k.StaysTerminal s inp := by
  obtain ⟨-, -, -, -, hrecent⟩ := k.monitored_flags (sensed s inp) inp command
  have hreleases : releases (k.monitored (sensed s inp) inp command) = true ↔
      s.controlLaw = .direct ∧ s.terminalCause = .commandLoss ∧
        inp.commandAgeMs < k.cfg.commandTimeoutMs := by
    rw [releases_iff, hrecent, decide_eq_true_iff]
    rfl
  have hlaw : (k.monitored (sensed s inp) inp command).controlLaw = s.controlLaw := rfl
  unfold releasedLaw StaysTerminal
  by_cases h : releases (k.monitored (sensed s inp) inp command) = true
  · obtain ⟨hdirect, hloss, hage⟩ := hreleases.mp h
    rw [if_pos h, hdirect]
    simp only [reduceCtorEq, hloss, hage, and_self, not_true_eq_false, and_false, or_self,
      iff_false]
    decide
  · rw [if_neg h, hlaw]
    rw [hreleases] at h
    cases hcurrent : s.controlLaw with
    | primary => simp; decide
    | alternate => simp; decide
    | direct =>
      simp only [le_refl, reduceCtorEq, true_and, false_or, true_iff]
      exact fun hrelease => h ⟨hcurrent, hrelease⟩
    | backup => simp; decide

omit [Libm F] in
theorem direct_le_targetLaw_iff (command : Command F)
    (hinvalid : (k.observed s inp command).validFlags.contains StateValidFlags.attitude = false)
    (himu : anyGood inp.sensors.imus = true) :
    .direct ≤ targetLaw (degradationReason (k.monitored (sensed s inp) inp command)) ↔
      k.DegradesTerminally s inp (k.observed s inp command).validFlags := by
  obtain ⟨hattitude, hvelocity, hposition, himuOk, hrecent⟩ :=
    k.monitored_flags (sensed s inp) inp command
  have hobserved : k.observed (sensed s inp) inp command = k.observed s inp command := rfl
  have hrequired : (k.monitored (sensed s inp) inp command).checks.inFlight.required =
      s.checks.inFlight.required := rfl
  rw [hobserved] at hattitude hvelocity hposition
  rw [degradationReason_monitored]
  unfold DegradesTerminally
  by_cases htiming : timingViolationThreshold ≤ s.timingStats.consecutiveViolations
  · rw [if_pos htiming]
    have hnot : ¬ s.timingStats.consecutiveViolations < timingViolationThreshold :=
      UInt32.not_lt.mpr htiming
    simp only [hnot, false_and, iff_false]
    decide
  · rw [if_neg htiming, InFlightStatus.direct_le_target_trigger_iff]
    have hlt : s.timingStats.consecutiveViolations < timingViolationThreshold :=
      UInt32.not_le.mp htiming
    have hmissing {i : Nat} (hi : i < 32) :
        (k.monitored (sensed s inp) inp command).checks.inFlight.missing.contains (.flag i) =
          (s.checks.inFlight.required.contains (.flag i) &&
            !(k.monitored (sensed s inp) inp command).checks.inFlight.current.contains
              (.flag i)) := by
      rw [InFlightStatus.missing, FlagSet.contains_difference_flag hi, hrequired]
    simp only [InFlightFlags.attitudeValid, InFlightFlags.imuOk, InFlightFlags.positionValid,
      InFlightFlags.velocityValid, InFlightFlags.commandRecent] at *
    simp (disch := decide) only [hmissing]
    rw [hattitude, hvelocity, hposition, himuOk, hrecent, hinvalid, himu]
    simp only [Bool.not_false, Bool.and_true, Bool.not_true, Bool.and_false, true_and, hlt,
      Bool.and_eq_true, Bool.and_eq_false_iff, Bool.not_eq_true', Bool.not_eq_false',
      decide_eq_false_iff_not, UInt32.not_lt]
    simp only [← Bool.not_eq_true, imp_iff_not_or]

/-- The mode gate leaves the cycle no invalid mode to fly: the cycle does not reach the
controller (a corrupted command, a kernel that is not armed, a critical fault), or the
attitude is valid, or the mode requires nothing or is not implemented, or the law is
terminal already or becomes so in this cycle. -/
def ModeGateSuffices : Prop :=
  ∀ command, inp.command = .intact command → s.initState = .armed →
    (sensed s inp).faults.intersects criticalFaults = false →
    (k.observed s inp command).validFlags.contains StateValidFlags.attitude = true ∨
      command.mode = .rate ∨ k.pipeline.controller.supportsMode command.mode = false ∨
      k.StaysTerminal s inp ∨ k.DegradesTerminally s inp (k.observed s inp command).validFlags

/-- From any state, a cycle flies only a mode its estimate backs exactly when the mode gate
suffices. -/
theorem update_flownModeBacked_iff :
    FlownModeBacked (k.update s inp).2 ↔ k.ModeGateSuffices s inp := by
  rcases k.update_cases s inp with ⟨sequence, hupset, heq⟩ | ⟨command, e, hcommand, hnot, heq⟩ |
      ⟨command, hcommand, harmed, hcrit, heq⟩ | ⟨command, hcommand, harmed, hcrit, heq⟩ <;>
    rw [heq]
  · refine iff_of_true (flownModeBacked_of_backup rfl) fun command hcommand => ?_
    rw [hupset] at hcommand
    cases hcommand
  · exact iff_of_true (flownModeBacked_of_backup rfl) fun _ _ harmed => absurd harmed hnot
  · refine iff_of_true (flownModeBacked_of_backup rfl) fun _ _ _ hnotcrit => ?_
    exact absurd (hnotcrit.symm.trans hcrit) (by decide)
  -- The armed pipeline: its law is below the terminal ones exactly when it neither stays
  -- terminal nor degrades terminally.
  · have himu := anyGood_imus_of_not_critical s inp hcrit
    have hlaw : (k.decided (sensed s inp) inp command).1.controlLaw < .direct ↔
        ¬ k.StaysTerminal s inp ∧
          ¬ .direct ≤ targetLaw (degradationReason (k.monitored (sensed s inp) inp command)) := by
      obtain ⟨c, hdecided⟩ := k.decided_eq (sensed s inp) inp command
      rw [hdecided, max_lt_iff, ← not_le, k.direct_le_releasedLaw_iff s inp command, ← not_le]
    have hobserved : k.observed (sensed s inp) inp command = k.observed s inp command := rfl
    rw [armedCycle_eq, flownModeBacked_flightOutput_iff, hlaw, hobserved]
    rw [ModeGateSuffices, forall_flown_command_iff s inp hcommand harmed hcrit]
    cases hattitude : (k.observed s inp command).validFlags.contains StateValidFlags.attitude with
    | true => exact iff_of_true (fun _ _ => .inl rfl) (.inl rfl)
    | false =>
      rw [k.direct_le_targetLaw_iff s inp command hattitude himu, ← Bool.not_eq_true]
      constructor
      · intro hflown
        by_cases hstays : k.StaysTerminal s inp
        · exact .inr (.inr (.inr (.inl hstays)))
        by_cases hdegrades : k.DegradesTerminally s inp (k.observed s inp command).validFlags
        · exact .inr (.inr (.inr (.inr hdegrades)))
        by_cases hsupports : k.pipeline.controller.supportsMode command.mode = true
        · exact (hflown ⟨hstays, hdegrades⟩ hsupports).imp_right .inl
        · exact .inr (.inr (.inl hsupports))
      · rintro (hvalid | hrate | hunsupported | hstays | hdegrades) hlow hsupports
        · exact .inl hvalid
        · exact .inr hrate
        · exact absurd hsupports hunsupported
        · exact absurd hstays hlow.1
        · exact absurd hdegrades hlow.2

/-- The cycles of a run all fly modes their estimates back, exactly when the mode gate
suffices in each of them. -/
theorem flown_mode_backed_iff (checks : KernelChecks F) (ops : List (KernelOp F E)) :
    (∀ e ∈ k.events checks ops, ∀ r, e.out = .update r → FlownModeBacked r) ↔
      ∀ e ∈ k.events checks ops, ∀ inp, e.op = .update inp → k.ModeGateSuffices e.pre inp :=
  k.forall_cycles_iff k.update_flownModeBacked_iff checks ops

/-- Arm, report three deadline violations in a row, and lose the attitude. -/
def timingViolationRun : List (KernelOp (ExactFloat ℚ) (StateEstimate (ExactFloat ℚ))) :=
  startup (levelEstimate 0 .full) ++
    [KernelOp.arm, .reportTimingViolation true, .reportTimingViolation true,
     .reportTimingViolation true, .writeEstimator (levelEstimate 0 .empty)]

def attitudeInput : UpdateInput (ExactFloat ℚ) :=
  cycleInput healthySensors (collectiveCommand .attitude (1 / 2)) 0

/-- Persistent timing violations preempt the attitude loss: the default configuration flies
the attitude mode under `Alternate` on an estimate without a valid attitude. -/
theorem flies_invalid_attitude :
    ¬ FlownModeBacked ((fixedKernel 0).update ((fixedKernel 0).after .new timingViolationRun)
      attitudeInput).2 := by
  intro hbacked
  have hlaw : ((fixedKernel 0).update ((fixedKernel 0).after .new timingViolationRun)
      attitudeInput).2.status.law = .alternate := by decide +kernel
  have hrequired := hbacked (hlaw ▸ by decide) (by decide +kernel)
  exact absurd hrequired (by decide +kernel)

end ModeGate

/-! ## A requested landing -/

section Landing

variable [Scalar F] [Libm F] (k : AviateKernel F E R)

omit [Scalar F] [Libm F] in
/-- A land request to an armed kernel that is not descending for command loss starts a
landing. -/
theorem landing_of_request {s : KernelState F E R} (timestamp : Timestamp)
    (harmed : s.initState = .armed) (hterminal : s.lifecycle.Terminal)
    (hfree : ¬ (s.controlLaw = .direct ∧ s.terminalCause = .commandLoss)) :
    (k.handleDegradation s .landRequested timestamp).1.lifecycle.Landing := by
  obtain ⟨c, heq⟩ := k.handleDegradation_eq s .landRequested timestamp
  rw [heq]
  refine ⟨.inl harmed, ?_⟩
  simp only [KernelState.lifecycle]
  rcases lt_trichotomy s.controlLaw DegradationReason.landRequested.target with
    hlt | hdirect | hgt
  · rw [if_pos hlt, max_eq_right hlt.le]
    exact .inr ⟨rfl, rfl⟩
  · have hcause : s.terminalCause ≠ .none := hterminal.cause_iff.mpr hdirect
    have hloss : s.terminalCause ≠ .commandLoss := fun h => hfree ⟨hdirect, h⟩
    rw [hdirect, if_neg (lt_irrefl _), max_self]
    right
    cases h : s.terminalCause with
    | none => exact absurd h hcause
    | commandLoss => exact absurd h hloss
    | commanded => exact ⟨rfl, rfl⟩
  · left
    rw [max_eq_left hgt.le]
    revert hgt
    cases s.controlLaw <;> decide

/-- A landing requested while armed is flown to its end: the law is `Direct` or `Backup` in
every later state of the run until an operation ends the flight, unless the kernel was
descending for command loss when the request came. -/
theorem land_request_latches (checks : KernelChecks F) (ops₁ ops₂ : List (KernelOp F E))
    (timestamp : Timestamp) (harmed : (k.after checks ops₁).initState = .armed)
    (hfree : ¬ ((k.after checks ops₁).controlLaw = .direct ∧
      (k.after checks ops₁).terminalCause = .commandLoss))
    (hops : ∀ e ∈ k.machine.trace
        (k.after checks (ops₁ ++ [KernelOp.handleDegradation .landRequested timestamp])) ops₂,
      ¬ EndsFlight e.pre e.op) :
    (k.after checks
        (ops₁ ++ KernelOp.handleDegradation .landRequested timestamp :: ops₂)).controlLaw =
        .direct ∨
      (k.after checks
        (ops₁ ++ KernelOp.handleDegradation .landRequested timestamp :: ops₂)).controlLaw =
        .backup := by
  have hstart : (k.after checks (ops₁ ++
      [KernelOp.handleDegradation .landRequested timestamp])).lifecycle.Landing := by
    rw [after, Machine.run_append]
    exact k.landing_of_request timestamp harmed (k.terminal_after checks ops₁) hfree
  have hend := Machine.run_invariant_of_guard
    (I := fun s : KernelState F E R => s.lifecycle.Landing)
    (G := fun e : Event F E R => ¬ EndsFlight e.pre e.op)
    (fun s op hs hop => k.flight_step_invariant (fun a x b hstep hx ha => ha.step hstep hx) hop hs)
    hstart hops
  rw [after, ← Machine.run_append, List.append_assoc] at hend
  exact hend.law_eq

/-- Arm, let the command go stale, and descend for command loss. -/
def commandLossRun : List (KernelOp (ExactFloat ℚ) (StateEstimate (ExactFloat ℚ))) :=
  startup (levelEstimate 0 .full) ++
    [KernelOp.arm, cycle healthySensors (collectiveCommand .attitude (1 / 2)) 600]

/-- A cycle with a fresh command. -/
def freshCycle : KernelOp (ExactFloat ℚ) (StateEstimate (ExactFloat ℚ)) :=
  cycle healthySensors (collectiveCommand .attitude (1 / 2)) 0

/-- A landing requested during a descent for command loss is dropped: the next fresh
command takes the armed kernel back to the primary law. -/
theorem land_request_dropped :
    ((fixedKernel 0).after .new commandLossRun).initState = .armed ∧
      (∀ e ∈ (fixedKernel 0).machine.trace ((fixedKernel 0).after .new
          (commandLossRun ++ [KernelOp.handleDegradation .landRequested .default])) [freshCycle],
        ¬ EndsFlight e.pre e.op) ∧
      ((fixedKernel 0).after .new
        (commandLossRun ++
          KernelOp.handleDegradation .landRequested .default :: [freshCycle])).controlLaw =
            .primary := by
  refine ⟨by decide +kernel, ?_, by decide +kernel⟩
  intro e he
  obtain rfl : e = _ := List.mem_singleton.mp he
  rintro ((hop | ⟨hop, -⟩) | ⟨hop, -⟩ | ⟨hop, -⟩) <;> cases hop

/-- Arm on a full estimate. -/
def armedRun : List (KernelOp (ExactFloat ℚ) (StateEstimate (ExactFloat ℚ))) :=
  startup (levelEstimate 0 .full) ++ [KernelOp.arm]

/-- A landing requested under the primary law survives the same cycle. -/
theorem land_request_latches_in_flight :
    ((fixedKernel 0).after .new
        (armedRun ++
          KernelOp.handleDegradation .landRequested .default :: [freshCycle])).controlLaw =
            .direct ∨
      ((fixedKernel 0).after .new
        (armedRun ++
          KernelOp.handleDegradation .landRequested .default :: [freshCycle])).controlLaw =
            .backup := by
  have harmed : ((fixedKernel 0).after .new armedRun).initState = .armed := by decide +kernel
  have hprimary : ((fixedKernel 0).after .new armedRun).controlLaw = .primary := by
    decide +kernel
  refine (fixedKernel 0).land_request_latches .new armedRun [freshCycle] .default harmed ?_ ?_
  · rintro ⟨hdirect, -⟩
    exact absurd (hprimary.symm.trans hdirect) (by decide)
  · intro e he
    obtain rfl : e = _ := List.mem_singleton.mp he
    rintro ((hop | ⟨hop, -⟩) | ⟨hop, -⟩ | ⟨hop, -⟩) <;> cases hop

end Landing

end AviateKernel

end Aviate

end KernelDegradation

section KernelActuatorOutput

/-!
# What the kernel emits

The actuator outputs over a run, in exact arithmetic with explicit non-finite values:
how they move from one cycle to the next under the slew limiter, and what the backup
law emits.

Results:
1. A limited channel moves at most by its limit from a finite value
   (`slewChannel_step_le`) and reaches its target exactly when that is within the limit
   (`slewChannel_eq_target_iff`).
2. Over every run the emitted outputs obey the slew limit, unless a gate or a ground
   reset made the commanded outputs differ from the emitted ones
   (`slew_limit_over_run`). A corrupted command does that (`slew_limit_jump`).
3. A cycle under the backup law emits the safe output exactly when no limited channel is
   further from it than its limit (`backup_is_safe_iff`); an attitude loss in flight is
   slewed (`backup_emits_limited_output`).
-/

namespace Aviate

open ExactFloat

/-! ## One channel of the slew limiter -/

section SlewChannel

variable {K : Type} [Field K] [LinearOrder K] {l : K} {limit prev target : ExactFloat K}

/-- A finite positive limit bounds the step of the channel. -/
theorem slewChannel_of_limit (hl : 0 < l) :
    slewChannel (fin l) prev target = prev + clamp (target - prev) (-(fin l)) (fin l) := by
  have hzero : (lit 0 : ExactFloat K) = fin 0 := congrArg fin Rat.cast_zero
  have hle : Scalar.le (fin l) (lit 0 : ExactFloat K) = false := by
    rw [hzero]
    exact (le_fin).trans (decide_eq_false (not_le.mpr hl))
  unfold slewChannel
  rw [hle]
  rfl

/-- Any other limit leaves the channel unconstrained. -/
theorem slewChannel_of_no_limit (h : ∀ l, limit = fin l → ¬ 0 < l) :
    slewChannel limit prev target = target := by
  have hzero : (lit 0 : ExactFloat K) = fin 0 := congrArg fin Rat.cast_zero
  cases limit with
  | fin l =>
    have hle : Scalar.le (fin l) (lit 0 : ExactFloat K) = true := by
      rw [hzero]
      exact (le_fin).trans (decide_eq_true (not_lt.mp (h l rfl)))
    unfold slewChannel
    rw [hle]
    rfl
  | posInf => rfl
  | negInf => rfl
  | nan => rfl

variable [IsStrictOrderedRing K]

/-- From a finite value a limited channel moves at most by its limit. -/
theorem slewChannel_step_le {p q : K} (hl : 0 < l) (hprev : prev = fin p)
    (hout : slewChannel (fin l) prev target = fin q) : |q - p| ≤ l := by
  subst hprev
  rw [slewChannel_of_limit hl] at hout
  cases target with
  | fin t =>
    rw [add_clamp_sub_fin hl.le] at hout
    obtain rfl := ExactFloat.fin.inj hout
    exact abs_moveTowards_sub_le hl.le
  | posInf =>
    have hq : fin (p + l) = fin q := hout
    obtain rfl := ExactFloat.fin.inj hq
    rw [add_sub_cancel_left, abs_of_pos hl]
  | negInf =>
    have hq : fin (p + -l) = fin q := hout
    obtain rfl := ExactFloat.fin.inj hq
    rw [add_sub_cancel_left, abs_neg, abs_of_pos hl]
  | nan => cases hout

/-- A channel reaches its target exactly when no limit constrains it, or the target is NaN,
or it is a finite value within the limit of a finite one. -/
theorem slewChannel_eq_target_iff :
    slewChannel limit prev target = target ↔
      ∀ l, limit = fin l → 0 < l →
        target = nan ∨ ∃ p t, prev = fin p ∧ target = fin t ∧ |t - p| ≤ l := by
  by_cases hlimited : ∃ l, limit = fin l ∧ 0 < l
  · obtain ⟨l, rfl, hl⟩ := hlimited
    rw [slewChannel_of_limit hl, add_clamp_sub_eq_target_iff hl.le]
    constructor
    · rintro h l' hl' -
      obtain rfl := ExactFloat.fin.inj hl'
      exact h
    · intro h
      exact h l rfl hl
  · push Not at hlimited
    refine iff_of_true (slewChannel_of_no_limit fun l h => not_lt.mpr (hlimited l h)) ?_
    intro l h hpos
    exact absurd hpos (not_lt.mpr (hlimited l h))

/-- A limited or unlimited channel stays between two values its start and its target lie
between. -/
theorem slewChannel_mem_Icc {lo hi p t : K} (hp : lo ≤ p ∧ p ≤ hi) (ht : lo ≤ t ∧ t ≤ hi) :
    ∃ q, slewChannel limit (fin p) (fin t) = fin q ∧ lo ≤ q ∧ q ≤ hi := by
  by_cases hlimited : ∃ l, limit = fin l ∧ 0 < l
  · obtain ⟨l, rfl, hl⟩ := hlimited
    obtain ⟨hlow, hhigh⟩ : min p t ≤ moveTowards p t l ∧ moveTowards p t l ≤ max p t :=
      moveTowards_mem_uIcc hl.le
    refine ⟨moveTowards p t l, ?_, (le_min hp.1 ht.1).trans hlow, hhigh.trans (max_le hp.2 ht.2)⟩
    rw [slewChannel_of_limit hl, add_clamp_sub_fin hl.le]
  · push Not at hlimited
    exact ⟨t, slewChannel_of_no_limit fun l h => not_lt.mpr (hlimited l h), ht⟩

end SlewChannel

/-! ## The two ways a cycle ends -/

namespace AviateKernel

section Exits

variable {F E R : Type} [Scalar F] [Libm F] (k : AviateKernel F E R) (s : KernelState F E R)
  (inp : UpdateInput F)

/-- The cycle passes the three gates before the armed pipeline. -/
def normalPath : Bool :=
  inp.command.validateEnums && s.initState.allowsActiveControl &&
    !(sensed s inp).faults.intersects criticalFaults

omit [Scalar F] [Libm F] in
theorem normalPath_iff :
    normalPath s inp = true ↔ ∃ command, inp.command = .intact command ∧
      s.initState = .armed ∧ (sensed s inp).faults.intersects criticalFaults = false := by
  unfold normalPath InitState.allowsActiveControl
  cases inp.command with
  | upset sequence => simp [CommandMemory.validateEnums]
  | intact command => simp [CommandMemory.validateEnums]

/-- A cycle that a gate ends emits the safe output, leaves the actuator memory alone and
reports no group. -/
theorem update_gated (h : normalPath s inp = false) :
    (k.update s inp).2.actuator.outputs = k.cfg.safeOutput ∧
      (k.update s inp).1.actuatorState = s.actuatorState ∧
      (k.update s inp).1.fallback = s.fallback ∧
      (k.update s inp).2.status.sanitizeReport = .default := by
  rcases k.update_cases s inp with ⟨sequence, -, heq⟩ | ⟨command, e, -, -, heq⟩ |
      ⟨command, -, -, -, heq⟩ | ⟨command, hcommand, harmed, hcritical, -⟩
  · rw [heq]
    exact ⟨rfl, rfl, rfl, rfl⟩
  · rw [heq]
    exact ⟨rfl, rfl, rfl, rfl⟩
  · rw [heq]
    rcases k.checkCriticalFaults_cases (sensed s inp) with ⟨-, hcheck⟩ | ⟨-, c, hcheck⟩ <;>
      rw [hcheck] <;> exact ⟨rfl, rfl, rfl, rfl⟩
  · rw [normalPath, hcommand, harmed, hcritical] at h
    cases h

/-- A cycle through the armed pipeline emits what the slew limiter makes of a sanitized or
safe command, and records it as commanded. -/
theorem update_normal (h : normalPath s inp = true) :
    ∃ pass : SanitizePass F,
      (k.update s inp).2.actuator.outputs =
        applySlewLimit pass.cmd.outputs s.actuatorState.commanded k.cfg.slewLimitPerCycle ∧
      (k.update s inp).1.actuatorState.commanded = (k.update s inp).2.actuator.outputs ∧
      (k.update s inp).1.fallback = pass.fallback ∧
      ((pass.cmd.outputs = k.cfg.safeOutput ∧ pass.fallback = s.fallback) ∨
        (k.update s inp).2.status.law ≠ .backup ∧ ∃ cmd,
          pass = k.pipeline.sanitizer.sanitize cmd k.cfg.modeConfig s.fallback) := by
  obtain ⟨command, hcommand, harmed, hcritical⟩ := (normalPath_iff s inp).mp h
  rw [k.update_of_armed s inp hcommand harmed hcritical, armedCycle_eq]
  obtain ⟨c, hdecided⟩ := k.decided_eq (sensed s inp) inp command
  have hactuator : (k.decided (sensed s inp) inp command).1.actuatorState = s.actuatorState := by
    rw [hdecided]
    rfl
  have hfallback : (k.decided (sensed s inp) inp command).1.fallback = s.fallback := by
    rw [hdecided]
    rfl
  obtain ⟨hemit, hrecord, hmemory⟩ := k.flightOutput_emits
    (k.decided (sensed s inp) inp command).1 inp command (cycleTimestamp inp)
    (k.observed (sensed s inp) inp command) (k.decided (sensed s inp) inp command).2
  refine ⟨_, hactuator ▸ hemit, hrecord, hmemory, ?_⟩
  cases hsafe : isSafeControl (k.decided (sensed s inp) inp command).1
      (k.entryDecision (k.decided (sensed s inp) inp command).1 command
        (k.observed (sensed s inp) inp command)) with
  | true =>
    left
    rw [← hfallback]
    obtain ⟨houtputs, hkept, -⟩ := k.cyclePass_safe _ inp command (cycleTimestamp inp) _ hsafe
    exact ⟨houtputs, hkept⟩
  | false =>
    right
    obtain ⟨cmd, hpass⟩ := k.cyclePass_flown _ inp command (cycleTimestamp inp) _ hsafe
    refine ⟨?_, cmd, hfallback ▸ hpass⟩
    rw [flightOutput_law]
    intro hbackup
    rw [isSafeControl, hbackup] at hsafe
    cases hsafe

end Exits

/-! ## The slew limit over a run -/

/-- What the last `update` returned. It is interrupted when a gate ended that cycle, or a
ground reset came since. -/
structure Emission (F : Type) where
  outputs : ActuatorVector F
  interrupted : Bool
deriving DecidableEq

section Emission

variable {F E R : Type}

/-- Keep the last emission. -/
def Emission.note (c : Option (Emission F)) (e : Event F E R) : Option (Emission F) :=
  match e.op, e.out with
  | .update inp, .update r => some ⟨r.actuator.outputs, !normalPath e.pre inp⟩
  | .groundReset, _ =>
    if e.pre.initState == .armed then c else c.map fun em => { em with interrupted := true }
  | _, _ => c

/-- After an uninterrupted emission the commanded outputs are the emitted ones. -/
def Tracks (s : KernelState F E R) (c : Option (Emission F)) : Prop :=
  ∀ em, c = some em → em.interrupted = false → s.actuatorState.commanded = em.outputs

variable [Scalar F] [Libm F] (k : AviateKernel F E R)

/-- The last emission of a sequence of operations. -/
def emission (checks : KernelChecks F) (ops : List (KernelOp F E)) : Option (Emission F) :=
  k.machine.history Emission.note none (KernelState.new k checks) ops

/-- Every operation keeps the commanded outputs in step with an uninterrupted emission. -/
theorem tracks_step {s : KernelState F E R} {op : KernelOp F E} {c : Option (Emission F)}
    (hs : Tracks s c) : Tracks (k.step s op).1 (Emission.note c (k.machine.event s op)) := by
  intro em hem hinterrupted
  by_cases hupdate : ∃ inp, op = .update inp
  · obtain ⟨inp, rfl⟩ := hupdate
    have hnote : some (⟨(k.update s inp).2.actuator.outputs, !normalPath s inp⟩ : Emission F) =
        some em := hem
    obtain rfl := Option.some.inj hnote
    have hnormal : normalPath s inp = true := by simpa using hinterrupted
    obtain ⟨pass, -, hrecord, -⟩ := k.update_normal s inp hnormal
    exact hrecord
  · by_cases hground : op = .groundReset
    · subst hground
      have hnote : (if s.initState == .armed then c
          else c.map fun em => { em with interrupted := true }) = some em := hem
      by_cases harmed : s.initState = .armed
      · rw [harmed] at hnote
        simp only [step, k.groundReset_of_armed s harmed]
        exact hs em hnote hinterrupted
      -- A ground reset that acts interrupts the emission: nothing is left to track.
      · rw [if_neg (by simpa using harmed), Option.map_eq_some_iff] at hnote
        obtain ⟨_, -, rfl⟩ := hnote
        cases hinterrupted
    · have hother : ∀ inp, op ≠ .update inp := fun inp h => hupdate ⟨inp, h⟩
      have hnote : Emission.note c (k.machine.event s op) = c := by
        cases op <;> first | rfl | exact absurd rfl (hother _) | exact absurd rfl hground
      rw [hnote] at hem
      rw [(k.step_frame s hother hground).actuatorState]
      exact hs em hem hinterrupted

theorem emission_tracks (checks : KernelChecks F) (ops : List (KernelOp F E)) :
    Tracks (k.after checks ops) (k.emission checks ops) :=
  Machine.history_invariant (R := Tracks) (G := fun _ => True)
    (fun _ _ _ hs _ => k.tracks_step hs) nofun (fun _ _ => trivial)

end Emission

section SlewLimit

variable {K E R : Type} [Field K] [LinearOrder K] [IsStrictOrderedRing K] [Libm (ExactFloat K)]
  (k : AviateKernel (ExactFloat K) E R)

/-- In every run, a limited channel that was last emitted as `p` and is emitted as `q` by
a cycle on the normal path moves at most by its limit, provided that an interruption
since, by a gate or a ground reset, left the commanded value equal to the emitted one. -/
theorem slew_limit_over_run (checks : KernelChecks (ExactFloat K))
    (ops : List (KernelOp (ExactFloat K) E)) (inp : UpdateInput (ExactFloat K)) (ch : Fin 16)
    (em : Emission (ExactFloat K)) {l p q : K} (hlimit : k.cfg.slewLimitPerCycle[ch] = fin l)
    (hl : 0 < l) (hnormal : normalPath (k.after checks ops) inp = true)
    (hlast : k.emission checks ops = some em) (hprev : em.outputs[ch] = fin p)
    (hsync : em.interrupted = true →
      (k.after checks ops).actuatorState.commanded[ch] = em.outputs[ch])
    (hout : (k.update (k.after checks ops) inp).2.actuator.outputs[ch] = fin q) :
    |q - p| ≤ l := by
  have hcommanded : (k.after checks ops).actuatorState.commanded[ch] = fin p := by
    rw [← hprev]
    cases hinterrupted : em.interrupted with
    | true => exact hsync hinterrupted
    | false => rw [k.emission_tracks checks ops em hlast hinterrupted]
  obtain ⟨pass, hemit, -⟩ := k.update_normal _ inp hnormal
  rw [hemit, getElem_applySlewLimit, hlimit] at hout
  exact slewChannel_step_le hl hcommanded hout

/-- Full collective under the attitude mode. -/
def fullInput : UpdateInput (ExactFloat ℚ) :=
  cycleInput healthySensors (collectiveCommand .attitude 1) 0

/-- Arm and fly one cycle at full collective. -/
def firstCycleRun : List (KernelOp (ExactFloat ℚ) (StateEstimate (ExactFloat ℚ))) :=
  startup (levelEstimate 0 .full) ++ [KernelOp.arm, .update fullInput]

/-- The second cycle moves by a tenth. -/
theorem slew_limit_second_cycle :
    ((fixedKernel (1 / 10)).update ((fixedKernel (1 / 10)).after .new firstCycleRun)
        fullInput).2.actuator.outputs[(0 : Fin 16)] = fin (1 / 5 : ℚ) ∧
      |(1 / 5 : ℚ) - 1 / 10| ≤ 1 / 10 := by
  have hout : ((fixedKernel (1 / 10)).update ((fixedKernel (1 / 10)).after .new firstCycleRun)
      fullInput).2.actuator.outputs[(0 : Fin 16)] = fin (1 / 5 : ℚ) := by decide +kernel
  exact ⟨hout, (fixedKernel (1 / 10)).slew_limit_over_run .new firstCycleRun fullInput 0
    ⟨Vector.replicate 16 (fin (1 / 10)), false⟩ (by decide +kernel) (by norm_num)
    (by decide +kernel) (by decide +kernel) (by decide +kernel) nofun hout⟩

/-- Fly two cycles at full collective, then receive one corrupted command. -/
def corruptedCommandRun : List (KernelOp (ExactFloat ℚ) (StateEstimate (ExactFloat ℚ))) :=
  firstCycleRun ++ [KernelOp.update fullInput, .update { fullInput with command := .upset 1 }]

/-- The corrupted command emits the safe output, but the next cycle is limited against the
value commanded before it, and jumps by three limits. -/
theorem slew_limit_jump :
    let s := (fixedKernel (1 / 10)).after .new corruptedCommandRun
    (fixedKernel (1 / 10)).cfg.slewLimitPerCycle[0] = fin (1 / 10 : ℚ) ∧
      normalPath s fullInput = true ∧
      ((fixedKernel (1 / 10)).emission .new corruptedCommandRun).map (·.outputs[0]) =
        some (fin (0 : ℚ)) ∧
      ((fixedKernel (1 / 10)).update s fullInput).2.actuator.outputs[0] = fin (3 / 10 : ℚ) ∧
      ¬ |(3 / 10 : ℚ) - 0| ≤ 1 / 10 := by
  refine ⟨by decide +kernel, by decide +kernel, by decide +kernel, by decide +kernel, ?_⟩
  norm_num

end SlewLimit

/-! ## The output of the backup law -/

section Backup

variable {F E R : Type} [Scalar F] [Libm F] (k : AviateKernel F E R) (s : KernelState F E R)
  (inp : UpdateInput F)

/-- A cycle that reports the backup law emits the safe output. -/
def BackupIsSafe (r : UpdateResult F) : Prop :=
  r.status.law = .backup → r.actuator.outputs = k.cfg.safeOutput

/-- An armed cycle ends under the backup law: it starts there, or a required attitude is
lost and timing violations do not preempt it. -/
def EndsInBackup (valid : StateValidFlags) : Prop :=
  s.controlLaw = .backup ∨
    s.timingStats.consecutiveViolations < timingViolationThreshold ∧
      s.checks.inFlight.required.contains InFlightFlags.attitudeValid = true ∧
      valid.contains StateValidFlags.attitude = false

omit [Libm F] in
theorem backup_le_releasedLaw_iff (command : Command F) :
    .backup ≤ releasedLaw (k.monitored (sensed s inp) inp command) ↔ s.controlLaw = .backup := by
  have hlaw : (k.monitored (sensed s inp) inp command).controlLaw = s.controlLaw := rfl
  unfold releasedLaw
  split
  next hreleases =>
    obtain ⟨hdirect, -⟩ := (releases_iff _).mp hreleases
    rw [← hlaw, hdirect]
    decide
  next =>
    rw [hlaw]
    cases s.controlLaw <;> decide

omit [Libm F] in
theorem backup_le_targetLaw_iff (command : Command F) :
    .backup ≤ targetLaw (degradationReason (k.monitored (sensed s inp) inp command)) ↔
      s.timingStats.consecutiveViolations < timingViolationThreshold ∧
        s.checks.inFlight.required.contains InFlightFlags.attitudeValid = true ∧
        (k.observed s inp command).validFlags.contains StateValidFlags.attitude = false := by
  obtain ⟨hattitude, -⟩ := k.monitored_flags (sensed s inp) inp command
  rw [degradationReason_monitored]
  by_cases htiming : timingViolationThreshold ≤ s.timingStats.consecutiveViolations
  · rw [if_pos htiming]
    have hnot : ¬ s.timingStats.consecutiveViolations < timingViolationThreshold :=
      UInt32.not_lt.mpr htiming
    simp only [hnot, false_and, iff_false]
    decide
  · rw [if_neg htiming, InFlightStatus.backup_le_target_trigger_iff, InFlightStatus.missing,
      InFlightFlags.attitudeValid, FlagSet.contains_difference_flag (by decide),
      ← InFlightFlags.attitudeValid, hattitude, Bool.and_eq_true, Bool.not_eq_true']
    exact (and_iff_right (UInt32.not_le.mp htiming)).symm

theorem update_law_eq_backup_iff {command : Command F} (hcommand : inp.command = .intact command)
    (harmed : s.initState = .armed)
    (hcritical : (sensed s inp).faults.intersects criticalFaults = false) :
    (k.update s inp).2.status.law = .backup ↔
      EndsInBackup s (k.observed s inp command).validFlags := by
  rw [k.update_of_armed s inp hcommand harmed hcritical, armedCycle_law,
    ← (ControlLawV1.le_backup _).ge_iff_eq, le_max_iff, backup_le_releasedLaw_iff,
    backup_le_targetLaw_iff]
  rfl

end Backup

section SafeOutput

variable {K E R : Type} [Field K] [LinearOrder K] [IsStrictOrderedRing K] [Libm (ExactFloat K)]
  (k : AviateKernel (ExactFloat K) E R) (s : KernelState (ExactFloat K) E R)
  (inp : UpdateInput (ExactFloat K))

/-- A gate ends the cycle, or the armed cycle does not end under the backup law, or every
limited channel is commanded within its limit of the safe value (or has no safe value to
reach). -/
def SafeInReach : Prop :=
  ∀ command, inp.command = .intact command → s.initState = .armed →
    (sensed s inp).faults.intersects criticalFaults = false →
    EndsInBackup s (k.observed s inp command).validFlags →
    ∀ (ch : Fin 16) (l : K), k.cfg.slewLimitPerCycle[ch] = fin l → 0 < l →
      k.cfg.safeOutput[ch] = nan ∨
        ∃ p t, s.actuatorState.commanded[ch] = fin p ∧ k.cfg.safeOutput[ch] = fin t ∧
          |t - p| ≤ l

/-- From any state, a cycle that reports the backup law emits the safe output exactly when
that is in reach. -/
theorem update_backupIsSafe_iff : BackupIsSafe k (k.update s inp).2 ↔ SafeInReach k s inp := by
  cases hnormal : normalPath s inp with
  | false =>
    refine iff_of_true (fun _ => (k.update_gated s inp hnormal).1) ?_
    intro command hcommand harmed hcritical
    have hpath := (normalPath_iff s inp).mpr ⟨command, hcommand, harmed, hcritical⟩
    exact absurd (hnormal.symm.trans hpath) (by decide)
  | true =>
    obtain ⟨command, hcommand, harmed, hcritical⟩ := (normalPath_iff s inp).mp hnormal
    obtain ⟨pass, hemit, -, -, hpass⟩ := k.update_normal s inp hnormal
    have hlaw := k.update_law_eq_backup_iff s inp hcommand harmed hcritical
    have hsafe (hbackup : (k.update s inp).2.status.law = .backup) :
        (k.update s inp).2.actuator.outputs = k.cfg.safeOutput ↔
          ∀ (ch : Fin 16) (l : K), k.cfg.slewLimitPerCycle[ch] = fin l → 0 < l →
            k.cfg.safeOutput[ch] = nan ∨
              ∃ p t, s.actuatorState.commanded[ch] = fin p ∧ k.cfg.safeOutput[ch] = fin t ∧
                |t - p| ≤ l := by
      have houtputs : pass.cmd.outputs = k.cfg.safeOutput := by
        rcases hpass with ⟨houtputs, -⟩ | ⟨hnot, -⟩
        · exact houtputs
        · exact absurd hbackup hnot
      rw [hemit, houtputs, ActuatorVector.ext_iff]
      refine forall_congr' fun ch => ?_
      rw [getElem_applySlewLimit]
      exact slewChannel_eq_target_iff
    rw [BackupIsSafe, SafeInReach, forall_flown_command_iff s inp hcommand harmed hcritical]
    constructor
    · intro hbackup hends
      exact (hsafe (hlaw.mpr hends)).mp (hbackup (hlaw.mpr hends))
    · intro hreach hbackup
      exact (hsafe hbackup).mpr (hreach (hlaw.mp hbackup))

/-- In exact arithmetic, the cycles of a run that report the backup law all emit the safe
output, exactly when it is in reach in each of them. -/
theorem backup_is_safe_iff (checks : KernelChecks (ExactFloat K))
    (ops : List (KernelOp (ExactFloat K) E)) :
    (∀ e ∈ k.events checks ops, ∀ r, e.out = .update r → BackupIsSafe k r) ↔
      ∀ e ∈ k.events checks ops, ∀ inp, e.op = .update inp → SafeInReach k e.pre inp :=
  k.forall_cycles_iff (update_backupIsSafe_iff k) checks ops

/-- Fly two cycles at full collective, then lose the attitude. -/
def attitudeLossRun : List (KernelOp (ExactFloat ℚ) (StateEstimate (ExactFloat ℚ))) :=
  firstCycleRun ++ [KernelOp.update fullInput, .writeEstimator (levelEstimate 0 .empty)]

/-- The cycle that loses the attitude reports the backup law and keeps driving the motors:
the limiter stands between the safe pattern and the output. -/
theorem backup_emits_limited_output :
    ¬ BackupIsSafe (fixedKernel (1 / 10)) ((fixedKernel (1 / 10)).update
      ((fixedKernel (1 / 10)).after .new attitudeLossRun) fullInput).2 := by
  intro hsafe
  have hoff := hsafe (by decide +kernel)
  have hdriven : ((fixedKernel (1 / 10)).update
      ((fixedKernel (1 / 10)).after .new attitudeLossRun) fullInput).2.actuator.outputs[0] =
        fin (1 / 10 : ℚ) := by decide +kernel
  rw [hoff] at hdriven
  exact absurd hdriven (by decide +kernel)

/-- Arm and lose the attitude before the motors turn. -/
def lossAtRestRun : List (KernelOp (ExactFloat ℚ) (StateEstimate (ExactFloat ℚ))) :=
  startup (levelEstimate 0 .full) ++ [KernelOp.arm, .writeEstimator (levelEstimate 0 .empty)]

/-- From a standing start the cycle that loses the attitude does emit the safe output. -/
theorem backup_is_safe_at_rest :
    BackupIsSafe (fixedKernel (1 / 10)) ((fixedKernel (1 / 10)).update
      ((fixedKernel (1 / 10)).after .new lossAtRestRun) fullInput).2 := by
  have hrest : ∀ e ∈ (fixedKernel (1 / 10)).events .new
      (lossAtRestRun ++ [KernelOp.update fullInput]), e.pre.actuatorState.commanded = .zero := by
    decide +kernel
  have hoff : ∀ ch : Fin 16, (fixedKernel (1 / 10)).cfg.safeOutput[ch] = fin (0 : ℚ) := by
    decide +kernel
  refine (fixedKernel (1 / 10)).last_cycle (((fixedKernel (1 / 10)).backup_is_safe_iff .new
    (lossAtRestRun ++ [KernelOp.update fullInput])).mpr ?_)
  intro e he inp _ command _ _ _ _ ch l _ hl
  rw [hrest e he]
  exact .inr ⟨0, 0, hoff ch, hoff ch, by simpa using hl.le⟩

end SafeOutput

end AviateKernel

end Aviate

end KernelActuatorOutput

section KernelActuatorRange

/-!
# Actuator range

The emitted value of every channel that belongs to a group is finite and in `[0, 1]`,
whatever the mixer asks for. The bound is carried through the three memories of the
output stage: the last good vectors of the sanitizer, its safe patterns, and the
commanded outputs the slew limiter starts from.

Results:
1. A sanitizer pass bounds the channels of every group it reaches and keeps its last good
   vectors bounded (`sanitize_inRange`).
2. Every operation keeps the actuator memory bounded (`bounded_step`), and every cycle of
   every run emits bounded outputs (`outputs_in_range`).
-/

namespace Aviate

open ExactFloat

/-! ## One sanitizer pass -/

section Sanitizer

variable {K : Type} [Field K] [LinearOrder K]

/-- A finite value in `[0, 1]`. -/
def InRange (v : ExactFloat K) : Prop := ∃ x, v = fin x ∧ 0 ≤ x ∧ x ≤ 1

/-- Every channel is in range. -/
def VectorInRange (v : ActuatorVector (ExactFloat K)) : Prop := ∀ ch : Fin 16, InRange v[ch]

/-- Every last good vector is in range. -/
def MemoryInRange (fallback : ActuatorFallbackState (ExactFloat K)) : Prop :=
  ∀ i : Fin 8, VectorInRange fallback.lastGood[i].outputs

namespace Sanitizer

/-- The sanitizer accepts exactly the values in range. -/
theorem channelValid_iff {v : ExactFloat K} : channelValid v = true ↔ InRange v := by
  have hzero : (lit 0 : ExactFloat K) = fin 0 := congrArg fin Rat.cast_zero
  have hone : (lit 1 : ExactFloat K) = fin 1 := congrArg fin Rat.cast_one
  unfold channelValid InRange
  rw [hzero, hone]
  cases v with
  | fin x =>
    have hlow : Scalar.lt (fin x) (fin 0 : ExactFloat K) = decide (x < 0) := rfl
    have hhigh : Scalar.lt (fin 1 : ExactFloat K) (fin x) = decide (1 < x) := rfl
    rw [hlow, hhigh]
    simp [Scalar.isFinite]
  | posInf => simp [Scalar.isFinite, ExactFloat.isFinite]
  | negInf => simp [Scalar.isFinite, ExactFloat.isFinite]
  | nan => simp [Scalar.isFinite, ExactFloat.isFinite]

theorem inRange_of_groupValid {members : List UInt8} {outputs : ActuatorVector (ExactFloat K)}
    {ch : Fin 16} (hvalid : groupValid members outputs = true) (hch : HasMember members ch) :
    InRange outputs[ch] := by
  obtain ⟨m, hm, hmch⟩ := hch
  have hlt : m.toNat < 16 := hmch ▸ ch.isLt
  have hchannel := List.all_eq_true.mp hvalid m hm
  rw [dif_pos hlt] at hchannel
  have hch : ch = ⟨m.toNat, hlt⟩ := Fin.ext hmch.symm
  subst hch
  exact channelValid_iff.mp hchannel

variable [IsStrictOrderedRing K]

theorem inRange_zero : VectorInRange (ActuatorVector.zero : ActuatorVector (ExactFloat K)) := by
  intro ch
  refine ⟨0, ?_, le_refl 0, zero_le_one⟩
  simp only [ActuatorVector.zero, Fin.getElem_fin, Vector.getElem_replicate]
  exact congrArg fin Rat.cast_zero

/-- Whatever a bad group falls back to is in range. -/
theorem fallbackSource_inRange {fallback : ActuatorFallbackState (ExactFloat K)} {i : Fin 8}
    {group : ActuatorGroupConfig (ExactFloat K)} (hmemory : MemoryInRange fallback)
    (hpattern : VectorInRange group.safePattern.outputs) :
    VectorInRange (fallbackSource fallback i group).2 := by
  unfold fallbackSource
  split
  · exact hmemory i
  · split
    · exact hpattern
    · exact inRange_zero

/-- A valid group keeps the last good vectors in range. -/
theorem acceptGroup_memory {i : Fin 8} {group : ActuatorGroupConfig (ExactFloat K)}
    {pass : SanitizePass (ExactFloat K)} (hmemory : MemoryInRange pass.fallback)
    (hvalid : groupValid group.members pass.cmd.outputs = true) :
    MemoryInRange (acceptGroup i group pass).fallback := by
  intro j
  by_cases hij : i = j
  · subst hij
    have hnew : (acceptGroup i group pass).fallback.lastGood[i].outputs =
        copyMembers (fun _ => true) pass.cmd.outputs group.members .zero := by
      simp [acceptGroup]
    intro ch
    rw [hnew, getElem_copyMembers]
    split
    next hmember => exact inRange_of_groupValid hvalid hmember.1
    next => exact inRange_zero ch
  · have hold : (acceptGroup i group pass).fallback.lastGood[j] = pass.fallback.lastGood[j] := by
      have hne : (i : Nat) ≠ j := fun h => hij (Fin.ext h)
      simp [acceptGroup, Vector.getElem_set_ne, hne]
    rw [hold]
    exact hmemory j

/-- A bad group leaves its own channels in range and writes no other. -/
theorem rejectGroup_outputs {i : Fin 8} {group : ActuatorGroupConfig (ExactFloat K)}
    {pass : SanitizePass (ExactFloat K)} (hmemory : MemoryInRange pass.fallback)
    (hpattern : VectorInRange group.safePattern.outputs) {ch : Fin 16}
    (hch : HasMember group.members ch ∨ InRange pass.cmd.outputs[ch]) :
    InRange (rejectGroup i group pass).cmd.outputs[ch] := by
  have hsource := fallbackSource_inRange (i := i) hmemory hpattern ch
  unfold rejectGroup
  cases group.coupling with
  | strong =>
    simp only [getElem_copyMembers, and_true]
    split
    next => exact hsource
    next hother => exact hch.resolve_left hother
  | weak =>
    simp only [getElem_copyMembers]
    split
    next => exact hsource
    next hkept =>
      rcases hch with hmember | hrange
      · have hvalid : channelValid pass.cmd.outputs[ch] = true := by
          by_contra hinvalid
          exact hkept ⟨hmember, by simpa using hinvalid⟩
        exact channelValid_iff.mp hvalid
      · exact hrange

/-- One group of the pass bounds its own channels, keeps the bound of every other one, and
keeps the last good vectors bounded. -/
theorem sanitizeGroup_inRange {i : Fin 8} {group : ActuatorGroupConfig (ExactFloat K)}
    {pass : SanitizePass (ExactFloat K)} (hmemory : MemoryInRange pass.fallback)
    (hpattern : VectorInRange group.safePattern.outputs) :
    MemoryInRange (sanitizeGroup i group pass).fallback ∧
      ∀ ch : Fin 16, HasMember group.members ch ∨ InRange pass.cmd.outputs[ch] →
        InRange (sanitizeGroup i group pass).cmd.outputs[ch] := by
  unfold sanitizeGroup trackConsecutive
  cases hvalid : groupValid group.members pass.cmd.outputs with
  | true =>
    refine ⟨acceptGroup_memory hmemory hvalid, fun ch hch => ?_⟩
    exact hch.elim (inRange_of_groupValid hvalid) id
  | false => exact ⟨hmemory, fun ch hch => rejectGroup_outputs hmemory hpattern hch⟩

/-- Every channel of a group the pass reaches ends in range. -/
theorem sanitizeGroups_inRange {groups : List (ActuatorGroupConfig (ExactFloat K))} {i : Nat}
    {pass : SanitizePass (ExactFloat K)} (hlength : i + groups.length ≤ 8)
    (hmemory : MemoryInRange pass.fallback)
    (hpattern : ∀ group ∈ groups, VectorInRange group.safePattern.outputs) :
    MemoryInRange (sanitizeGroups i groups pass).fallback ∧
      ∀ ch : Fin 16, (∃ group ∈ groups, HasMember group.members ch) ∨
          InRange pass.cmd.outputs[ch] →
        InRange (sanitizeGroups i groups pass).cmd.outputs[ch] := by
  induction groups generalizing i pass with
  | nil =>
    refine ⟨hmemory, fun ch hch => ?_⟩
    rcases hch with ⟨group, hgroup, -⟩ | hrange
    · cases hgroup
    · exact hrange
  | cons group groups ih =>
    rw [List.length_cons] at hlength
    rw [List.forall_mem_cons] at hpattern
    have hi : i < 8 := by omega
    rw [sanitizeGroups, dif_pos hi]
    obtain ⟨hmemory', houtputs⟩ := sanitizeGroup_inRange (i := ⟨i, hi⟩) hmemory hpattern.1
    have hrest_length : i + 1 + groups.length ≤ 8 := by omega
    obtain ⟨hfinal, hrest⟩ := ih hrest_length hmemory' hpattern.2
    refine ⟨hfinal, fun ch hch => hrest ch ?_⟩
    rcases hch with ⟨g, hg, hmember⟩ | hrange
    · rcases List.mem_cons.mp hg with rfl | hg
      · exact .inr (houtputs ch (.inl hmember))
      · exact .inl ⟨g, hg, hmember⟩
    · exact .inr (houtputs ch (.inr hrange))

/-- A pass bounds every channel that belongs to a group and keeps the last good vectors
bounded. -/
theorem sanitize_inRange {cmd : ActuatorCmd (ExactFloat K)} {mode : ModeConfig (ExactFloat K)}
    {fallback : ActuatorFallbackState (ExactFloat K)} (hlength : mode.groups.length ≤ 8)
    (hmemory : MemoryInRange fallback)
    (hpattern : ∀ group ∈ mode.groups, VectorInRange group.safePattern.outputs) :
    MemoryInRange (sanitize cmd mode fallback).fallback ∧
      ∀ ch : Fin 16, (∃ group ∈ mode.groups, HasMember group.members ch) →
        InRange (sanitize cmd mode fallback).cmd.outputs[ch] := by
  have hstart : 0 + mode.groups.length ≤ 8 := by omega
  obtain ⟨hfinal, houtputs⟩ := sanitizeGroups_inRange hstart
    (show MemoryInRange (SanitizePass.mk { cmd with sanitized := true, fallbackMask := 0 } fallback
      .default).fallback from hmemory) hpattern
  exact ⟨hfinal, fun ch hch => houtputs ch (.inl hch)⟩

end Sanitizer

end Sanitizer

/-! ## The bound over a run -/

/-- The configuration keeps actuators in range: at most `MAX_GROUPS` groups, and only safe
values in range. -/
structure RangeConfig {K : Type} [Field K] [LinearOrder K]
    (cfg : ResolvedKernelConfig (ExactFloat K)) : Prop where
  groups_le : cfg.modeConfig.groups.length ≤ 8
  safeOutput : VectorInRange cfg.safeOutput
  safePattern : ∀ group ∈ cfg.modeConfig.groups, VectorInRange group.safePattern.outputs

namespace AviateKernel

section Range

variable {K E R : Type} [Field K] [LinearOrder K]

/-- The channel belongs to a group of the configuration. -/
def Grouped (k : AviateKernel (ExactFloat K) E R) (ch : Fin 16) : Prop :=
  ∃ group ∈ k.cfg.modeConfig.groups, Sanitizer.HasMember group.members ch

/-- The memories of the output stage are in range. -/
structure Bounded (k : AviateKernel (ExactFloat K) E R) (s : KernelState (ExactFloat K) E R) :
    Prop where
  memory : MemoryInRange s.fallback
  commanded : ∀ ch, k.Grouped ch → InRange s.actuatorState.commanded[ch]

variable [IsStrictOrderedRing K] {k : AviateKernel (ExactFloat K) E R}
  {s : KernelState (ExactFloat K) E R}

theorem bounded_default (h : s.fallback = .default) (h' : s.actuatorState = .default) :
    k.Bounded s := by
  constructor
  · intro i
    rw [h]
    simp only [ActuatorFallbackState.default, Fin.getElem_fin, Vector.getElem_replicate]
    exact Sanitizer.inRange_zero
  · intro ch _
    rw [h']
    exact Sanitizer.inRange_zero ch

variable [Libm (ExactFloat K)]

/-- A cycle keeps the memories in range and emits grouped channels in range. -/
theorem bounded_update (hcfg : RangeConfig k.cfg) (hsan : k.pipeline.sanitizer = groupSanitizer)
    (hs : k.Bounded s) (inp : UpdateInput (ExactFloat K)) :
    k.Bounded (k.update s inp).1 ∧
      ∀ ch, k.Grouped ch → InRange (k.update s inp).2.actuator.outputs[ch] := by
  cases hnormal : normalPath s inp with
  | false =>
    obtain ⟨hsafe, hactuators, hfallback, -⟩ := k.update_gated s inp hnormal
    refine ⟨⟨?_, fun ch hch => ?_⟩, fun ch hch => ?_⟩
    · rw [hfallback]
      exact hs.memory
    · rw [hactuators]
      exact hs.commanded ch hch
    · rw [hsafe]
      exact hcfg.safeOutput ch
  | true =>
    obtain ⟨pass, hemit, hrecord, hmemory, hpass⟩ := k.update_normal s inp hnormal
    have hbounds : MemoryInRange pass.fallback ∧
        ∀ ch, k.Grouped ch → InRange pass.cmd.outputs[ch] := by
      rcases hpass with ⟨hsafe, hkept⟩ | ⟨-, cmd, rfl⟩
      · rw [hsafe, hkept]
        exact ⟨hs.memory, fun ch _ => hcfg.safeOutput ch⟩
      · rw [hsan]
        exact Sanitizer.sanitize_inRange hcfg.groups_le hs.memory hcfg.safePattern
    have houtputs (ch : Fin 16) (hch : k.Grouped ch) :
        InRange (k.update s inp).2.actuator.outputs[ch] := by
      obtain ⟨p, hp, hp01⟩ := hs.commanded ch hch
      obtain ⟨t, ht, ht01⟩ := hbounds.2 ch hch
      rw [hemit, getElem_applySlewLimit, hp, ht]
      exact slewChannel_mem_Icc hp01 ht01
    refine ⟨⟨?_, fun ch hch => ?_⟩, houtputs⟩
    · rw [hmemory]
      exact hbounds.1
    · rw [hrecord]
      exact houtputs ch hch

/-- Every operation keeps the memories in range. -/
theorem bounded_step (hcfg : RangeConfig k.cfg) (hsan : k.pipeline.sanitizer = groupSanitizer)
    (op : KernelOp (ExactFloat K) E) (hs : k.Bounded s) : k.Bounded (k.step s op).1 := by
  by_cases hupdate : ∃ inp, op = .update inp
  · obtain ⟨inp, rfl⟩ := hupdate
    exact (bounded_update hcfg hsan hs inp).1
  by_cases hground : op = .groundReset
  · subst hground
    by_cases harmed : s.initState = .armed
    · simp only [step, k.groundReset_of_armed s harmed]
      exact hs
    · simp only [step, groundReset]
      rw [if_neg (by simpa using harmed)]
      exact bounded_default rfl rfl
  · have hframe := k.step_frame s (fun inp h => hupdate ⟨inp, h⟩) hground
    constructor
    · rw [hframe.fallback]
      exact hs.memory
    · intro ch hch
      rw [hframe.actuatorState]
      exact hs.commanded ch hch

/-- In every run, every cycle emits every channel that belongs to a group as a finite value
in `[0, 1]`, whatever controller and mixer produce. -/
theorem outputs_in_range (hcfg : RangeConfig k.cfg) (hsan : k.pipeline.sanitizer = groupSanitizer)
    (checks : KernelChecks (ExactFloat K)) (ops : List (KernelOp (ExactFloat K) E))
    (inp : UpdateInput (ExactFloat K)) (ch : Fin 16) (hch : k.Grouped ch) :
    InRange (k.update (k.after checks ops) inp).2.actuator.outputs[ch] := by
  have hreached : k.Bounded (k.after checks ops) :=
    Machine.run_invariant (I := fun s => k.Bounded s)
      (fun s op hs => bounded_step hcfg hsan op hs) (bounded_default rfl rfl)
  exact (bounded_update hcfg hsan hreached inp).2 ch hch

/-- The four motors of a quadrotor as one strongly coupled group. -/
def quadGroup : ActuatorGroupConfig (ExactFloat ℚ) :=
  ⟨.multirotor, .strong, .safePattern, [0, 1, 2, 3], ⟨.zero, 0b1111, true⟩⟩

def quadKernel : AviateKernel (ExactFloat ℚ) (StateEstimate (ExactFloat ℚ)) Unit :=
  { fixedKernel (1 / 10) with
    cfg := { defaultConfig (1 / 10) with modeConfig := ⟨.hover, [quadGroup]⟩ } }

/-- A command for three times the full collective. -/
def excessInput : UpdateInput (ExactFloat ℚ) :=
  cycleInput healthySensors (collectiveCommand .attitude 3) 0

/-- The motors stay in range under it. -/
theorem quad_in_range :
    InRange (quadKernel.update (quadKernel.after .new firstCycleRun)
      excessInput).2.actuator.outputs[(2 : Fin 16)] := by
  have hcfg : RangeConfig quadKernel.cfg := by
    refine ⟨by decide, Sanitizer.inRange_zero, fun group hgroup => ?_⟩
    obtain rfl := List.mem_singleton.mp hgroup
    exact Sanitizer.inRange_zero
  exact outputs_in_range hcfg rfl .new firstCycleRun excessInput 2
    ⟨quadGroup, List.mem_singleton_self _, by decide⟩

end Range

end AviateKernel

end Aviate

end KernelActuatorRange

section KernelFallbackMemory

/-!
# Freshness of the last good vectors

When the sanitizer replaces a bad group by its last good vector, how old is that vector,
and does it come from the armed period being flown?

The code counts the passes that rejected the group since it was last accepted. It does not
count the cycles that never reach the sanitizer, and no arm, disarm or terminate clears the
memory.

Results:
1. What one pass does to the memory of one group depends on that group alone
   (`sanitize_memory`).
2. The age of a group's memory is the number of passes that rejected it since it was
   accepted (`memory_recorded`).
3. A last good vector is from the armed period being flown and at most
   `MAX_FALLBACK_AGE_CYCLES` cycles old if and only if no boundary of an armed period came
   since it was accepted and its age, with the cycles the code did not count, is below the
   limit (`last_good_fresh_iff`). A second flight can emit the first one's vector
   (`last_good_from_earlier_flight`).
-/

theorem UInt16.toNat_saturatingAdd (a b : UInt16) :
    (a.saturatingAdd b).toNat = min (a.toNat + b.toNat) (2 ^ 16 - 1) := by
  unfold UInt16.saturatingAdd
  split
  · rename_i h
    simp only [UInt16.size] at h
    rw [UInt16.toNat_add]
    omega
  · rename_i h
    simp only [UInt16.size] at h ⊢
    simp only [UInt16.toNat_ofNat']
    omega

namespace Aviate

variable {F E R : Type}

/-! ## One group of a pass -/

/-- What a pass does with a group: it is not reached, it is accepted and its vector
remembered, or it is rejected and its members take values from a source. -/
inductive GroupOutcome (F : Type) where
  | absent
  | accepted (vec : ActuatorVector F)
  | rejected (source : GroupSanitizeResult) (vec : ActuatorVector F)
deriving DecidableEq

/-- The result the sanitizer reports for a strongly coupled group. -/
def GroupOutcome.result : GroupOutcome F → GroupSanitizeResult
  | .absent => .allValid
  | .accepted _ => .allValid
  | .rejected source _ => source

/-- The memory of one group: its last good vector and the age of it. -/
def ActuatorFallbackState.memory (fallback : ActuatorFallbackState F) (i : Fin 8) :
    GroupVector F × UInt16 :=
  (fallback.lastGood[i], fallback.age[i])

namespace Sanitizer

variable [Scalar F] {i j : Fin 8} {group : ActuatorGroupConfig F} {pass : SanitizePass F}
  {groups : List (ActuatorGroupConfig F)}

/-- What a pass does with the group at index `i` when its turn comes. -/
def groupOutcome (i : Fin 8) (group : ActuatorGroupConfig F) (pass : SanitizePass F) :
    GroupOutcome F :=
  if groupValid group.members pass.cmd.outputs then
    .accepted (copyMembers (fun _ => true) pass.cmd.outputs group.members .zero)
  else .rejected (fallbackSource pass.fallback i group).1 (fallbackSource pass.fallback i group).2

/-- The pass when the turn of group `i` comes. -/
def passBefore (cmd : ActuatorCmd F) (mode : ModeConfig F) (fallback : ActuatorFallbackState F)
    (i : Fin 8) : SanitizePass F :=
  sanitizeGroups 0 (mode.groups.take i)
    ⟨{ cmd with sanitized := true, fallbackMask := 0 }, fallback, .default⟩

/-- What the pass over a command does with group `i`. -/
def outcome (cmd : ActuatorCmd F) (mode : ModeConfig F) (fallback : ActuatorFallbackState F)
    (i : Fin 8) : GroupOutcome F :=
  match mode.groups[i.val]? with
  | some group => groupOutcome i group (passBefore cmd mode fallback i)
  | none => .absent

/-- What an outcome leaves in the memory of the group. -/
def remember (outcome : GroupOutcome F) (mask : UInt16) (memory : GroupVector F × UInt16) :
    GroupVector F × UInt16 :=
  match outcome with
  | .absent => memory
  | .accepted vec => (⟨vec, mask, true⟩, 0)
  | .rejected _ _ => (memory.1, memory.2.saturatingAdd 1)

/-- A strongly coupled group takes the values of its source on every member. -/
theorem strong_takes_source {source : GroupSanitizeResult} {vec : ActuatorVector F}
    (hstrong : group.coupling = .strong) (h : groupOutcome i group pass = .rejected source vec)
    {ch : Fin 16} (hch : HasMember group.members ch) :
    (sanitizeGroup i group pass).cmd.outputs[ch] = vec[ch] := by
  unfold groupOutcome at h
  split at h
  · cases h
  · rename_i hinvalid
    obtain ⟨rfl, rfl⟩ := GroupOutcome.rejected.inj h
    unfold sanitizeGroup trackConsecutive
    rw [if_neg hinvalid]
    unfold rejectGroup
    simp only [hstrong, getElem_copyMembers, hch, and_self, if_true]

/-- A group changes its own memory as its outcome says, and a strongly coupled one reports
its source. -/
theorem sanitizeGroup_self :
    (sanitizeGroup i group pass).fallback.memory i =
        remember (groupOutcome i group pass) (membersMask group.members)
          (pass.fallback.memory i) ∧
      (group.coupling = .strong → (sanitizeGroup i group pass).report.groupResults[i] =
        (groupOutcome i group pass).result) := by
  unfold sanitizeGroup trackConsecutive groupOutcome
  cases groupValid group.members pass.cmd.outputs with
  | true => simp [acceptGroup, ActuatorFallbackState.memory, remember, GroupOutcome.result]
  | false =>
    refine ⟨by simp [rejectGroup, ActuatorFallbackState.memory, remember], fun hstrong => ?_⟩
    simp [rejectGroup, hstrong, GroupOutcome.result]

/-- A group leaves the memory and the result of the others alone. -/
theorem sanitizeGroup_other (hij : i ≠ j) :
    (sanitizeGroup i group pass).fallback.memory j = pass.fallback.memory j ∧
      (sanitizeGroup i group pass).report.groupResults[j] = pass.report.groupResults[j] := by
  have hne : (i : Nat) ≠ j := fun h => hij (Fin.ext h)
  unfold sanitizeGroup trackConsecutive
  cases groupValid group.members pass.cmd.outputs with
  | true => simp [acceptGroup, ActuatorFallbackState.memory, Vector.getElem_set_ne, hne]
  | false => simp [rejectGroup, ActuatorFallbackState.memory, Vector.getElem_set_ne, hne]

/-- So do the groups at other indices. -/
theorem sanitizeGroups_other {n : Nat} (h : j.val < n ∨ n + groups.length ≤ j.val) :
    (sanitizeGroups n groups pass).fallback.memory j = pass.fallback.memory j ∧
      (sanitizeGroups n groups pass).report.groupResults[j] = pass.report.groupResults[j] := by
  induction groups generalizing n pass with
  | nil => exact ⟨rfl, rfl⟩
  | cons group groups ih =>
    rw [List.length_cons] at h
    unfold sanitizeGroups
    split
    · rename_i hn
      have hother : (⟨n, hn⟩ : Fin 8) ≠ j := by
        rintro rfl
        simp only at h
        omega
      have hrest : j.val < n + 1 ∨ n + 1 + groups.length ≤ j.val := by omega
      constructor
      · rw [(ih hrest).1, (sanitizeGroup_other hother).1]
      · rw [(ih hrest).2, (sanitizeGroup_other hother).2]
    · exact ⟨rfl, rfl⟩

/-- A pass over two stretches of groups is the pass over the second after the first. -/
theorem sanitizeGroups_append {n : Nat} {rest : List (ActuatorGroupConfig F)} :
    sanitizeGroups n (groups ++ rest) pass =
      sanitizeGroups (n + groups.length) rest (sanitizeGroups n groups pass) := by
  induction groups generalizing n pass with
  | nil => rfl
  | cons group groups ih =>
    rw [List.cons_append, sanitizeGroups, sanitizeGroups, List.length_cons]
    split
    · rw [ih, Nat.add_right_comm, Nat.add_assoc]
    · rename_i hn
      cases rest with
      | nil => rfl
      | cons next rest =>
        rw [sanitizeGroups, dif_neg (by omega)]

variable (cmd : ActuatorCmd F) (mode : ModeConfig F) (fallback : ActuatorFallbackState F)

/-- The groups before index `i` leave its memory alone. -/
theorem passBefore_memory (i : Fin 8) :
    (passBefore cmd mode fallback i).fallback.memory i = fallback.memory i :=
  (sanitizeGroups_other (.inr (by rw [List.length_take]; omega))).1

/-- A pass is the pass up to group `i`, the turn of group `i` and the pass over the rest. -/
theorem sanitize_split (hgroup : mode.groups[i.val]? = some group) :
    sanitize cmd mode fallback = sanitizeGroups (i + 1) (mode.groups.drop (i + 1))
      (sanitizeGroup i group (passBefore cmd mode fallback i)) := by
  obtain ⟨hlt, hget⟩ := List.getElem?_eq_some_iff.mp hgroup
  have hsplit : mode.groups = mode.groups.take i ++ group :: mode.groups.drop (i + 1) := by
    rw [← hget, List.getElem_cons_drop, List.take_append_drop]
  have hlength : (mode.groups.take i).length = i.val := by
    rw [List.length_take]
    omega
  unfold sanitize passBefore
  nth_rewrite 1 [hsplit]
  rw [sanitizeGroups_append, hlength, Nat.zero_add, sanitizeGroups, dif_pos i.isLt]

/-- A pass leaves the memory and the result of group `i` as they are after its turn. -/
theorem sanitize_turn (hgroup : mode.groups[i.val]? = some group) :
    (sanitize cmd mode fallback).fallback.memory i =
        (sanitizeGroup i group (passBefore cmd mode fallback i)).fallback.memory i ∧
      (sanitize cmd mode fallback).report.groupResults[i] =
        (sanitizeGroup i group (passBefore cmd mode fallback i)).report.groupResults[i] := by
  rw [sanitize_split cmd mode fallback hgroup]
  exact sanitizeGroups_other (.inl (Nat.lt_succ_self _))

/-- A pass changes the memory of each group as the outcome of that group says. -/
theorem sanitize_memory (i : Fin 8) :
    ∃ mask, (sanitize cmd mode fallback).fallback.memory i =
      remember (outcome cmd mode fallback i) mask (fallback.memory i) := by
  unfold outcome
  cases hgroup : mode.groups[i.val]? with
  | none =>
    rw [List.getElem?_eq_none_iff] at hgroup
    exact ⟨0, (sanitizeGroups_other (.inr (by omega))).1⟩
  | some group =>
    refine ⟨membersMask group.members, ?_⟩
    rw [(sanitize_turn cmd mode fallback hgroup).1, sanitizeGroup_self.1, passBefore_memory]

/-- A pass reports for each strongly coupled group what its outcome says. -/
theorem sanitize_result (i : Fin 8)
    (hstrong : ∀ group, mode.groups[i.val]? = some group → group.coupling = .strong) :
    (sanitize cmd mode fallback).report.groupResults[i] =
      (outcome cmd mode fallback i).result := by
  unfold outcome
  cases hgroup : mode.groups[i.val]? with
  | none =>
    rw [List.getElem?_eq_none_iff] at hgroup
    have hdefault : (sanitize cmd mode fallback).report.groupResults[i] =
        SanitizeReport.default.groupResults[i] := (sanitizeGroups_other (.inr (by omega))).2
    rw [hdefault]
    simp [SanitizeReport.default, GroupOutcome.result]
  | some group =>
    rw [(sanitize_turn cmd mode fallback hgroup).2,
      sanitizeGroup_self.2 (hstrong group hgroup)]

variable {cmd mode fallback}

/-- A rejected group takes its values from its last good vector exactly while it has one
that passes for fresh. -/
theorem outcome_rejected {source : GroupSanitizeResult} {vec : ActuatorVector F}
    (h : outcome cmd mode fallback i = .rejected source vec) :
    if fallback.lastGood[i].valid = true ∧ fallback.age[i] < maxFallbackAgeCycles then
      source = .fallbackLastGood ∧ vec = fallback.lastGood[i].outputs
    else source ≠ .fallbackLastGood := by
  unfold outcome at h
  cases hgroup : mode.groups[i.val]? with
  | none =>
    rw [hgroup] at h
    cases h
  | some group =>
    rw [hgroup] at h
    obtain ⟨hvector, hage⟩ := Prod.mk.inj (passBefore_memory cmd mode fallback i)
    simp only [groupOutcome, fallbackSource, hvector, hage, Bool.and_eq_true,
      decide_eq_true_eq] at h
    split at h
    · cases h
    · obtain ⟨rfl, rfl⟩ := GroupOutcome.rejected.inj h
      split
      next => exact ⟨rfl, rfl⟩
      next =>
        split
        next => exact nofun
        next => exact nofun

end Sanitizer

/-! ## One cycle -/

namespace AviateKernel

section Cycle

variable [Scalar F] [Libm F] (k : AviateKernel F E R) (s : KernelState F E R)
  (inp : UpdateInput F)

/-- The command a cycle hands to the sanitizer, if it gets that far: no gate ends it and
it does not emit the safe command. -/
def sanitizeCall : Option (ActuatorCmd F) :=
  match inp.command with
  | .upset _ => none
  | .intact command =>
    let decided := (k.decided (sensed s inp) inp command).1
    let state := k.observed (sensed s inp) inp command
    if normalPath s inp && !isSafeControl decided (k.entryDecision decided command state) then
      some (k.cycleStep decided inp command (cycleTimestamp inp) state).actuator
    else none

/-- What a cycle does with group `i`. -/
def cycleOutcome (i : Fin 8) : GroupOutcome F :=
  match k.sanitizeCall s inp with
  | some cmd => Sanitizer.outcome cmd k.cfg.modeConfig s.fallback i
  | none => .absent

/-- A cycle that passes the gates ends with the memory and the report of its pass. -/
theorem update_of_normal {command : Command F} (hcommand : inp.command = .intact command)
    (hnormal : normalPath s inp = true) :
    (k.update s inp).1.fallback =
        (k.cyclePass (k.decided (sensed s inp) inp command).1 inp command (cycleTimestamp inp)
          (k.observed (sensed s inp) inp command)).fallback ∧
      (k.update s inp).2.status.sanitizeReport =
        (k.cyclePass (k.decided (sensed s inp) inp command).1 inp command (cycleTimestamp inp)
          (k.observed (sensed s inp) inp command)).report := by
  obtain ⟨command', hcommand', harmed, hcritical⟩ := (normalPath_iff s inp).mp hnormal
  obtain rfl := CommandMemory.intact.inj (hcommand.symm.trans hcommand')
  rw [k.update_of_armed s inp hcommand harmed hcritical, armedCycle_eq]
  obtain ⟨-, -, hmemory⟩ := k.flightOutput_emits (k.decided (sensed s inp) inp command).1 inp
    command (cycleTimestamp inp) (k.observed (sensed s inp) inp command)
    (k.decided (sensed s inp) inp command).2
  exact ⟨hmemory, k.flightOutput_report _ _ _ _ _ _⟩

omit [Libm F] in
/-- Until the output stage a cycle leaves the memory alone. -/
theorem decided_fallback (command : Command F) :
    (k.decided (sensed s inp) inp command).1.fallback = s.fallback := by
  obtain ⟨c, hdecided⟩ := k.decided_eq (sensed s inp) inp command
  rw [hdecided]
  rfl

/-- A cycle that sanitizes a command keeps the memory of that pass and reports it. -/
theorem update_of_sanitizeCall {cmd : ActuatorCmd F} (h : k.sanitizeCall s inp = some cmd) :
    (k.update s inp).1.fallback =
        (k.pipeline.sanitizer.sanitize cmd k.cfg.modeConfig s.fallback).fallback ∧
      (k.update s inp).2.status.sanitizeReport =
        (k.pipeline.sanitizer.sanitize cmd k.cfg.modeConfig s.fallback).report := by
  unfold sanitizeCall at h
  cases hcommand : inp.command with
  | upset sequence =>
    rw [hcommand] at h
    cases h
  | intact command =>
    simp only [hcommand] at h
    split at h
    next hcall =>
      rw [Bool.and_eq_true, Bool.not_eq_true'] at hcall
      obtain ⟨hnormal, hsafe⟩ := hcall
      obtain ⟨hmemory, hreport⟩ := k.update_of_normal s inp hcommand hnormal
      obtain rfl := Option.some.inj h
      rw [hmemory, hreport, cyclePass, hsafe, ← k.decided_fallback s inp command]
      exact ⟨rfl, rfl⟩
    next => cases h

/-- Any other cycle leaves the memory alone and reports no group. -/
theorem update_of_no_sanitizeCall (h : k.sanitizeCall s inp = none) :
    (k.update s inp).1.fallback = s.fallback ∧
      (k.update s inp).2.status.sanitizeReport = .default := by
  cases hnormal : normalPath s inp with
  | false => exact (k.update_gated s inp hnormal).2.2
  | true =>
    obtain ⟨command, hcommand, -, -⟩ := (normalPath_iff s inp).mp hnormal
    simp only [sanitizeCall, hcommand, hnormal, Bool.true_and] at h
    split at h
    next => cases h
    next hsafe =>
      rw [Bool.not_eq_true', Bool.not_eq_false] at hsafe
      obtain ⟨hmemory, hreport⟩ := k.update_of_normal s inp hcommand hnormal
      obtain ⟨-, hkept, hdefault⟩ :=
        k.cyclePass_safe _ inp command (cycleTimestamp inp) _ hsafe
      rw [hmemory, hreport, hkept, hdefault, decided_fallback]
      exact ⟨rfl, rfl⟩

variable {s inp}

theorem cycleOutcome_rejected {i : Fin 8} {source : GroupSanitizeResult} {vec : ActuatorVector F}
    (h : k.cycleOutcome s inp i = .rejected source vec) :
    if s.fallback.lastGood[i].valid = true ∧ s.fallback.age[i] < maxFallbackAgeCycles then
      source = .fallbackLastGood ∧ vec = s.fallback.lastGood[i].outputs
    else source ≠ .fallbackLastGood := by
  unfold cycleOutcome at h
  cases hcall : k.sanitizeCall s inp with
  | none =>
    rw [hcall] at h
    cases h
  | some cmd =>
    rw [hcall] at h
    exact Sanitizer.outcome_rejected h

/-- A group rejected with a fresh memory takes its last good vector, and no other does. -/
theorem cycleOutcome_lastGood {i : Fin 8} {source : GroupSanitizeResult} {vec : ActuatorVector F}
    (h : k.cycleOutcome s inp i = .rejected source vec)
    (hvalid : s.fallback.lastGood[i].valid = true)
    (hage : s.fallback.age[i] < maxFallbackAgeCycles) :
    k.cycleOutcome s inp i = .rejected .fallbackLastGood s.fallback.lastGood[i].outputs := by
  have hsource := k.cycleOutcome_rejected h
  rw [if_pos ⟨hvalid, hage⟩] at hsource
  rw [h, hsource.1, hsource.2]

theorem lastGood_of_cycleOutcome {i : Fin 8} {vec : ActuatorVector F}
    (h : k.cycleOutcome s inp i = .rejected .fallbackLastGood vec) :
    s.fallback.lastGood[i].valid = true ∧ s.fallback.age[i] < maxFallbackAgeCycles ∧
      vec = s.fallback.lastGood[i].outputs := by
  have hsource := k.cycleOutcome_rejected h
  split at hsource
  next hfresh => exact ⟨hfresh.1, hfresh.2, hsource.2⟩
  next => exact absurd rfl hsource

variable (s inp)

/-- A cycle changes the memory of each group as its outcome says. -/
theorem update_memory (hsan : k.pipeline.sanitizer = groupSanitizer) (i : Fin 8) :
    ∃ mask, (k.update s inp).1.fallback.memory i =
      Sanitizer.remember (k.cycleOutcome s inp i) mask (s.fallback.memory i) := by
  unfold cycleOutcome
  cases hcall : k.sanitizeCall s inp with
  | none => exact ⟨0, by rw [(k.update_of_no_sanitizeCall s inp hcall).1]; rfl⟩
  | some cmd =>
    rw [(k.update_of_sanitizeCall s inp hcall).1, hsan]
    exact Sanitizer.sanitize_memory cmd k.cfg.modeConfig s.fallback i

/-- A cycle reports for each strongly coupled group what its outcome says. -/
theorem update_result (hsan : k.pipeline.sanitizer = groupSanitizer) (i : Fin 8)
    (hstrong : ∀ group, k.cfg.modeConfig.groups[i.val]? = some group → group.coupling = .strong) :
    (k.update s inp).2.status.sanitizeReport.groupResults[i] =
      (k.cycleOutcome s inp i).result := by
  unfold cycleOutcome
  cases hcall : k.sanitizeCall s inp with
  | none =>
    rw [(k.update_of_no_sanitizeCall s inp hcall).2]
    simp [SanitizeReport.default, GroupOutcome.result]
  | some cmd =>
    rw [(k.update_of_sanitizeCall s inp hcall).2, hsan]
    exact Sanitizer.sanitize_result cmd k.cfg.modeConfig s.fallback i hstrong

end Cycle

/-! ## The history of a memory -/

section History

/-- The operation begins or ends an armed period. -/
def isPeriodBoundary (e : Event F E R) : Bool :=
  match e.op, e.out with
  | .arm, .arm (.ok _) => true
  | .disarm, .disarm (.ok _) => true
  | .terminate, _ => true
  | _, _ => false

/-- The operation is a control cycle. -/
def isCycle : KernelOp F E → Bool
  | .update _ => true
  | _ => false

variable [Scalar F] [Libm F] (k : AviateKernel F E R)

/-- In the run `ops` a cycle accepted `vec` for group `i`, `cycles` cycles came after it, and
`crossed` says whether an armed period began or ended since. -/
def AcceptedAgo (checks : KernelChecks F) (ops : List (KernelOp F E)) (i : Fin 8)
    (vec : ActuatorVector F) (cycles : Nat) (crossed : Bool) : Prop :=
  ∃ ops₁ inp ops₂, ops = ops₁ ++ KernelOp.update inp :: ops₂ ∧
    k.cycleOutcome (k.after checks ops₁) inp i = .accepted vec ∧
    ops₂.countP isCycle = cycles ∧
    (k.machine.trace (k.after checks (ops₁ ++ [KernelOp.update inp])) ops₂).any
      isPeriodBoundary = crossed

/-- Whenever the cycle after a run emits the last good vector of group `i`, a cycle of the
same armed period accepted that vector, at most `MAX_FALLBACK_AGE_CYCLES` cycles before. -/
def LastGoodFresh (checks : KernelChecks F) (ops : List (KernelOp F E)) (inp : UpdateInput F)
    (i : Fin 8) : Prop :=
  ∀ vec, k.cycleOutcome (k.after checks ops) inp i = .rejected .fallbackLastGood vec →
    ∃ cycles, cycles + 1 ≤ maxFallbackAgeCycles.toNat ∧
      k.AcceptedAgo checks ops i vec cycles false

/-- What happened to the memory of a group since a cycle last accepted it: the cycles that
rejected the group, those that did not sanitize it, and whether an armed period began or
ended. -/
structure MemoryRecord (F : Type) where
  outputs : ActuatorVector F
  rejected : Nat
  bypassed : Nat
  crossed : Bool

/-- Keep the record of group `i`. -/
def noteMemory (i : Fin 8) (c : Option (MemoryRecord F)) (e : Event F E R) :
    Option (MemoryRecord F) :=
  match e.op with
  | .update inp =>
    match k.cycleOutcome e.pre inp i with
    | .accepted vec => some ⟨vec, 0, 0, false⟩
    | .rejected _ _ => c.map fun r => { r with rejected := r.rejected + 1 }
    | .absent => c.map fun r => { r with bypassed := r.bypassed + 1 }
  | _ => if isPeriodBoundary e then c.map fun r => { r with crossed := true } else c

/-- The record of group `i` after a sequence of operations. -/
def memoryRecord (checks : KernelChecks F) (ops : List (KernelOp F E)) (i : Fin 8) :
    Option (MemoryRecord F) :=
  k.machine.history (k.noteMemory i) none (KernelState.new k checks) ops

/-- One more operation either accepts the group or comes after its last acceptance. -/
theorem acceptedAgo_concat {checks : KernelChecks F} {ops : List (KernelOp F E)}
    {op : KernelOp F E} {i : Fin 8} {vec : ActuatorVector F} {cycles : Nat} {crossed : Bool} :
    k.AcceptedAgo checks (ops ++ [op]) i vec cycles crossed ↔
      (∃ inp, op = .update inp ∧ k.cycleOutcome (k.after checks ops) inp i = .accepted vec ∧
        cycles = 0 ∧ crossed = false) ∨
      ∃ cycles' crossed', k.AcceptedAgo checks ops i vec cycles' crossed' ∧
        cycles = cycles' + [op].countP isCycle ∧
        crossed = (crossed' || isPeriodBoundary (k.machine.event (k.after checks ops) op)) := by
  constructor
  · rintro ⟨ops₁, inp, ops₂, hops, haccepted, rfl, rfl⟩
    rcases ops₂.eq_nil_or_concat' with rfl | ⟨ops₂, last, rfl⟩
    · obtain ⟨rfl, hop⟩ := List.append_inj' hops rfl
      exact .inl ⟨inp, List.head_eq_of_cons_eq hop, haccepted, rfl, rfl⟩
    · rw [← List.cons_append, ← List.append_assoc] at hops
      obtain ⟨rfl, hop⟩ := List.append_inj' hops rfl
      obtain rfl := List.head_eq_of_cons_eq hop
      refine .inr ⟨_, _, ⟨ops₁, inp, ops₂, rfl, haccepted, rfl, rfl⟩, ?_, ?_⟩
      · rw [List.countP_append]
      · rw [Machine.trace_append, List.any_append]
        simp [after, Machine.run_append]
  · rintro (⟨inp, rfl, haccepted, rfl, rfl⟩ |
      ⟨_, _, ⟨ops₁, inp, ops₂, rfl, haccepted, rfl, rfl⟩, rfl, rfl⟩)
    · exact ⟨ops, inp, [], rfl, haccepted, rfl, rfl⟩
    · refine ⟨ops₁, inp, ops₂ ++ [op], by simp, haccepted, List.countP_append, ?_⟩
      rw [Machine.trace_append, List.any_append]
      simp [after, Machine.run_append]

variable {k} {checks : KernelChecks F} {ops : List (KernelOp F E)} {i : Fin 8}

theorem memoryRecord_concat (op : KernelOp F E) :
    k.memoryRecord checks (ops ++ [op]) i =
      k.noteMemory i (k.memoryRecord checks ops i) (k.machine.event (k.after checks ops) op) :=
  Machine.history_concat

/-- An operation that is no cycle only marks a boundary of an armed period. -/
theorem noteMemory_other {s : KernelState F E R} {op : KernelOp F E}
    (hop : ∀ inp, op ≠ .update inp) (c : Option (MemoryRecord F)) :
    k.noteMemory i c (k.machine.event s op) = c.map fun r =>
      { r with crossed := r.crossed || isPeriodBoundary (k.machine.event s op) } := by
  have hnote : k.noteMemory i c (k.machine.event s op) =
      if isPeriodBoundary (k.machine.event s op) then
        c.map fun r => { r with crossed := true } else c := by
    cases op with
    | update inp => exact absurd rfl (hop inp)
    | _ => rfl
  rw [hnote]
  cases isPeriodBoundary (k.machine.event s op) with
  | true => simp
  | false => simp

/-- A record stands for an acceptance in the run. -/
theorem acceptedAgo_of_record {r : MemoryRecord F} (h : k.memoryRecord checks ops i = some r) :
    k.AcceptedAgo checks ops i r.outputs (r.rejected + r.bypassed) r.crossed := by
  induction ops using List.reverseRecOn generalizing r with
  | nil => cases h
  | append_singleton ops op ih =>
    rw [memoryRecord_concat] at h
    rw [acceptedAgo_concat]
    by_cases hupdate : ∃ inp, op = .update inp
    · obtain ⟨inp, rfl⟩ := hupdate
      simp only [noteMemory, Machine.event] at h
      cases houtcome : k.cycleOutcome (k.after checks ops) inp i with
      | accepted vec =>
        simp only [houtcome, Option.some.injEq] at h
        subst h
        exact .inl ⟨inp, rfl, houtcome, rfl, rfl⟩
      | rejected source vec =>
        simp only [houtcome, Option.map_eq_some_iff] at h
        obtain ⟨r, hr, rfl⟩ := h
        exact .inr ⟨r.rejected + r.bypassed, r.crossed, ih hr, Nat.add_right_comm _ _ _,
          (Bool.or_false _).symm⟩
      | absent =>
        simp only [houtcome, Option.map_eq_some_iff] at h
        obtain ⟨r, hr, rfl⟩ := h
        exact .inr ⟨r.rejected + r.bypassed, r.crossed, ih hr, rfl, (Bool.or_false _).symm⟩
    · have hother : ∀ inp, op ≠ .update inp := fun inp h => hupdate ⟨inp, h⟩
      have hcount : [op].countP isCycle = 0 := by
        cases op with
        | update inp => exact absurd rfl (hother inp)
        | _ => rfl
      rw [noteMemory_other hother, Option.map_eq_some_iff] at h
      obtain ⟨r, hr, rfl⟩ := h
      exact .inr ⟨r.rejected + r.bypassed, r.crossed, ih hr, by rw [hcount]; rfl, rfl⟩

/-- The record is about the last acceptance: it counts no more cycles than came since any of
them, and a boundary it has crossed came since all of them. -/
theorem record_of_acceptedAgo {vec : ActuatorVector F} {cycles : Nat} {crossed : Bool}
    (h : k.AcceptedAgo checks ops i vec cycles crossed) :
    ∃ r, k.memoryRecord checks ops i = some r ∧ r.rejected + r.bypassed ≤ cycles ∧
      (crossed = false → r.crossed = false) := by
  induction ops using List.reverseRecOn generalizing cycles crossed with
  | nil =>
    obtain ⟨ops₁, inp, ops₂, hops, -⟩ := h
    simp at hops
  | append_singleton ops op ih =>
    rw [memoryRecord_concat]
    rcases k.acceptedAgo_concat.mp h with ⟨inp, rfl, haccepted, rfl, rfl⟩ |
        ⟨cycles, crossed, hago, rfl, rfl⟩
    · refine ⟨⟨vec, 0, 0, false⟩, ?_, le_refl 0, fun _ => rfl⟩
      simp only [noteMemory, Machine.event, haccepted]
    · obtain ⟨r, hr, hle, hcrossed⟩ := ih hago
      rw [hr]
      by_cases hupdate : ∃ inp, op = .update inp
      · obtain ⟨inp, rfl⟩ := hupdate
        have hone : [KernelOp.update (E := E) inp].countP isCycle = 1 := rfl
        simp only [noteMemory, Machine.event, isPeriodBoundary, Bool.or_false, hone]
        cases k.cycleOutcome (k.after checks ops) inp i with
        | accepted vec => exact ⟨_, rfl, Nat.zero_le _, fun _ => rfl⟩
        | rejected source vec => exact ⟨_, rfl, by simp only; omega, hcrossed⟩
        | absent => exact ⟨_, rfl, by simp only; omega, hcrossed⟩
      · have hother : ∀ inp, op ≠ .update inp := fun inp h => hupdate ⟨inp, h⟩
        rw [noteMemory_other hother]
        refine ⟨_, rfl, Nat.le_add_right_of_le hle, fun hnone => ?_⟩
        rw [Bool.or_eq_false_iff] at hnone ⊢
        exact ⟨hcrossed hnone.1, hnone.2⟩

/-! ## The age over a run -/

/-- The memory of group `i` is what its record says, and its age counts the rejections. -/
def Recorded (i : Fin 8) (s : KernelState F E R) (c : Option (MemoryRecord F)) : Prop :=
  s.fallback.lastGood[i].valid = true → ∃ r, c = some r ∧
    r.outputs = s.fallback.lastGood[i].outputs ∧
      s.fallback.age[i].toNat = min r.rejected (2 ^ 16 - 1)

/-- Every operation keeps the memory in step with its record. -/
theorem recorded_step (hsan : k.pipeline.sanitizer = groupSanitizer) {s : KernelState F E R}
    {op : KernelOp F E} {c : Option (MemoryRecord F)} (hs : Recorded i s c) :
    Recorded i (k.step s op).1 (k.noteMemory i c (k.machine.event s op)) := by
  intro hvalid
  by_cases hupdate : ∃ inp, op = .update inp
  · obtain ⟨inp, rfl⟩ := hupdate
    obtain ⟨mask, hmemory⟩ := k.update_memory s inp hsan i
    obtain ⟨hvector, hage⟩ := Prod.mk.inj hmemory
    have hvector' : (k.step s (.update inp)).1.fallback.lastGood[i] = _ := hvector
    have hage' : (k.step s (.update inp)).1.fallback.age[i] = _ := hage
    rw [hvector'] at hvalid ⊢
    rw [hage']
    simp only [noteMemory, Machine.event]
    cases houtcome : k.cycleOutcome s inp i with
    | accepted vec => exact ⟨_, rfl, rfl, rfl⟩
    | rejected source vec =>
      rw [houtcome] at hvalid
      obtain ⟨r, rfl, houtputs, hrejected⟩ := hs hvalid
      refine ⟨_, rfl, houtputs, ?_⟩
      show (s.fallback.age[i].saturatingAdd 1).toNat = min (r.rejected + 1) (2 ^ 16 - 1)
      rw [UInt16.toNat_saturatingAdd, hrejected, UInt16.toNat_one]
      omega
    | absent =>
      rw [houtcome] at hvalid
      obtain ⟨r, rfl, houtputs, hrejected⟩ := hs hvalid
      exact ⟨_, rfl, houtputs, hrejected⟩
  · have hother : ∀ inp, op ≠ .update inp := fun inp h => hupdate ⟨inp, h⟩
    have hkept : (k.step s op).1.fallback = s.fallback := by
      by_cases hground : op = .groundReset
      · subst hground
        by_cases harmed : s.initState = .armed
        · simp only [step, k.groundReset_of_armed s harmed]
        -- A ground reset that acts leaves no valid memory.
        · have hcleared : (k.step s .groundReset).1.fallback = .default := by
            simp only [step, groundReset]
            rw [if_neg (by simpa using harmed)]
          rw [hcleared] at hvalid
          simp [ActuatorFallbackState.default, GroupVector.default] at hvalid
      · exact (k.step_frame s hother hground).fallback
    rw [hkept] at hvalid ⊢
    obtain ⟨r, rfl, houtputs, hrejected⟩ := hs hvalid
    rw [noteMemory_other hother]
    exact ⟨_, rfl, houtputs, hrejected⟩

/-- In every run the age of a group's memory is the number of cycles that rejected the group
since it was accepted. -/
theorem memory_recorded (hsan : k.pipeline.sanitizer = groupSanitizer) (checks : KernelChecks F)
    (ops : List (KernelOp F E)) (i : Fin 8) :
    Recorded i (k.after checks ops) (k.memoryRecord checks ops i) :=
  Machine.history_invariant (R := Recorded i) (G := fun _ => True)
    (fun _ _ _ hs _ => recorded_step hsan hs)
    (by simp [Recorded, KernelState.new, ActuatorFallbackState.default, GroupVector.default])
    (fun _ _ => trivial)

/-- Whenever the cycle after a run rejects group `i` while its memory passes for fresh, no
armed period began or ended since a cycle accepted the group, and its age is below the limit
with the cycles that did not sanitize it added. -/
def RejectedWithinLimits (k : AviateKernel F E R) (checks : KernelChecks F)
    (ops : List (KernelOp F E)) (inp : UpdateInput F) (i : Fin 8) : Prop :=
  let s := k.after checks ops
  (∃ source vec, k.cycleOutcome s inp i = .rejected source vec) →
    s.fallback.lastGood[i].valid = true → s.fallback.age[i] < maxFallbackAgeCycles →
    ∀ r, k.memoryRecord checks ops i = some r →
      r.crossed = false ∧ s.fallback.age[i].toNat + r.bypassed < maxFallbackAgeCycles.toNat

/-- After every run, a cycle that emits a last good vector emits one of the armed period
being flown, accepted at most `MAX_FALLBACK_AGE_CYCLES` cycles before, if and only if no
boundary of an armed period and not too many cycles without a sanitizer pass came since. -/
theorem last_good_fresh_iff (hsan : k.pipeline.sanitizer = groupSanitizer)
    (checks : KernelChecks F) (ops : List (KernelOp F E)) (inp : UpdateInput F) (i : Fin 8) :
    k.LastGoodFresh checks ops inp i ↔ k.RejectedWithinLimits checks ops inp i := by
  have hrecorded := memory_recorded hsan checks ops i
  constructor
  · rintro hfresh ⟨source, vec, hrejected⟩ hvalid hage r hr
    have hlastGood := k.cycleOutcome_lastGood hrejected hvalid hage
    obtain ⟨cycles, hlimit, hago⟩ := hfresh _ hlastGood
    obtain ⟨r', hr', hle, hcrossed⟩ := record_of_acceptedAgo hago
    obtain rfl := Option.some.inj (hr.symm.trans hr')
    obtain ⟨r', hr', -, hcount⟩ := hrecorded hvalid
    obtain rfl := Option.some.inj (hr.symm.trans hr')
    exact ⟨hcrossed rfl, by omega⟩
  · intro hlimits vec hrejected
    obtain ⟨hvalid, hage, rfl⟩ := k.lastGood_of_cycleOutcome hrejected
    obtain ⟨r, hr, houtputs, hcount⟩ := hrecorded hvalid
    obtain ⟨hcrossed, hlimit⟩ := hlimits ⟨_, _, hrejected⟩ hvalid hage r hr
    have hago := acceptedAgo_of_record hr
    rw [houtputs, hcrossed] at hago
    refine ⟨_, ?_, hago⟩
    have hbound : maxFallbackAgeCycles.toNat = 100 := rfl
    omega

end History

/-! ## A second flight -/

/-- Fly one cycle, disarm, initialize again and arm for a second flight. -/
def secondFlightRun : List (KernelOp (ExactFloat ℚ) (StateEstimate (ExactFloat ℚ))) :=
  firstCycleRun ++ KernelOp.disarm :: List.replicate 105 (.initStep healthySensors) ++
    [KernelOp.arm]

/-- The four motors at full collective. -/
def fullMotors : ActuatorVector (ExactFloat ℚ) :=
  Vector.ofFn fun i => .fin (if i < 4 then 1 else 0)

/-- In the first flight an excessive command falls back to the cycle before it. -/
theorem last_good_within_flight :
    quadKernel.cycleOutcome (quadKernel.after .new firstCycleRun) excessInput 0 =
        .rejected .fallbackLastGood fullMotors ∧
      quadKernel.LastGoodFresh .new firstCycleRun excessInput 0 := by
  refine ⟨by decide +kernel, (last_good_fresh_iff rfl .new firstCycleRun excessInput 0).mpr ?_⟩
  intro _ _ _ r hr
  have hrecord : (quadKernel.memoryRecord .new firstCycleRun 0).map
      (fun r => (r.bypassed, r.crossed)) = some (0, false) := by decide +kernel
  rw [hr] at hrecord
  obtain ⟨hbypassed, hcrossed⟩ := Prod.mk.inj (Option.some.inj hrecord)
  rw [hbypassed]
  exact ⟨hcrossed, by decide +kernel⟩

/-- The first command of the second flight is excessive, and the kernel reports and emits
the last good vector of the first flight. -/
theorem last_good_from_earlier_flight :
    (quadKernel.update (quadKernel.after .new secondFlightRun)
        excessInput).2.status.sanitizeReport.groupResults[0] = .fallbackLastGood ∧
      ¬ quadKernel.LastGoodFresh .new secondFlightRun excessInput 0 := by
  refine ⟨by decide +kernel, fun hfresh => ?_⟩
  have hrejected : quadKernel.cycleOutcome (quadKernel.after .new secondFlightRun) excessInput 0 =
      .rejected .fallbackLastGood fullMotors := by decide +kernel
  obtain ⟨cycles, -, hago⟩ := hfresh _ hrejected
  obtain ⟨r, hr, -, hcrossed⟩ := record_of_acceptedAgo hago
  have hrecord : (quadKernel.memoryRecord .new secondFlightRun 0).map (·.crossed) = some true := by
    decide +kernel
  rw [hr] at hrecord
  exact absurd (hcrossed rfl) (by simpa using hrecord)

end AviateKernel

end Aviate

end KernelFallbackMemory

section KernelGroupAtomicity

/-!
# Group atomicity of the sanitizer

Over any sequence of `sanitize` calls on groups that share no channel: where do the values of
a strongly coupled group come from, and what do the consecutive fallback counters count?

The counters belong to the groups. There is none for the call as a whole, so two groups that
fall back in turn never reach the limit, however long no call is free of a fallback.

Results:
1. A turn writes only the members of its group (`sanitizeGroup_outputs_other`), so among
   disjoint groups each one judges the values that were commanded (`passBefore_outputs`).
2. Over a run of calls the memory of a group holds its last valid command and its age, and
   its counter the length of its current run of fallbacks (`remembered_after`).
3. Every call takes a strongly coupled group wholly from one source, counts group by group,
   and raises the limit flag exactly when some group has fallen back in more than
   `MAX_CONSECUTIVE_FALLBACK` calls in a row (`sanitize_law`). With two groups that fall back
   in turn the count over calls is another one (`alternating_groups`).
-/

namespace Aviate

namespace Sanitizer

variable {F : Type} [Scalar F]

/-! ## One turn -/

section Turn

variable {i j : Fin 8} {group : ActuatorGroupConfig F} {pass : SanitizePass F}
  {groups : List (ActuatorGroupConfig F)} {ch : Fin 16}

/-- No two groups have a channel in common. -/
def DisjointGroups (groups : List (ActuatorGroupConfig F)) : Prop :=
  groups.Pairwise fun g h => ∀ ch : Fin 16, HasMember g.members ch → ¬ HasMember h.members ch

omit [Scalar F] in
instance (groups : List (ActuatorGroupConfig F)) : Decidable (DisjointGroups groups) :=
  inferInstanceAs (Decidable (groups.Pairwise fun g h =>
    ∀ ch : Fin 16, HasMember g.members ch → ¬ HasMember h.members ch))

/-- A rejection leaves the other channels alone. -/
theorem rejectGroup_outputs_other (hch : ¬ HasMember group.members ch) :
    (rejectGroup i group pass).cmd.outputs[ch] = pass.cmd.outputs[ch] := by
  unfold rejectGroup
  cases group.coupling with
  | strong => simp only [getElem_copyMembers, hch, false_and, if_false]
  | weak => simp only [getElem_copyMembers, hch, false_and, if_false]

/-- So does a whole turn. -/
theorem sanitizeGroup_outputs_other (hch : ¬ HasMember group.members ch) :
    (sanitizeGroup i group pass).cmd.outputs[ch] = pass.cmd.outputs[ch] := by
  unfold sanitizeGroup trackConsecutive
  cases groupValid group.members pass.cmd.outputs with
  | true => rfl
  | false => exact rejectGroup_outputs_other hch

/-- And the turns of other groups. -/
theorem sanitizeGroups_outputs_other {n : Nat}
    (hch : ∀ g ∈ groups, ¬ HasMember g.members ch) :
    (sanitizeGroups n groups pass).cmd.outputs[ch] = pass.cmd.outputs[ch] := by
  induction groups generalizing n pass with
  | nil => rfl
  | cons g groups ih =>
    rw [List.forall_mem_cons] at hch
    unfold sanitizeGroups
    split
    · rw [ih hch.2, sanitizeGroup_outputs_other hch.1]
    · rfl

/-- Whether a group is valid depends on its members only. -/
theorem groupValid_congr {members : List UInt8} {v w : ActuatorVector F}
    (h : ∀ ch, HasMember members ch → v[ch] = w[ch]) :
    groupValid members v = groupValid members w := by
  unfold groupValid
  rw [Bool.eq_iff_iff, List.all_eq_true, List.all_eq_true]
  refine forall₂_congr fun m hm => ?_
  split
  · rename_i hlt
    have hmember : v[m.toNat] = w[m.toNat] := h ⟨m.toNat, hlt⟩ ⟨m, hm, rfl⟩
    rw [hmember]
  · exact Iff.rfl

/-- The counter of a group after its turn. -/
def countAfter (group : ActuatorGroupConfig F) (valid : Bool) (count : UInt16) : UInt16 :=
  match valid, group.coupling with
  | false, .strong => count.saturatingAdd 1
  | _, _ => 0

/-- A turn counts the rejections of a strongly coupled group and clears the counter
otherwise. -/
theorem sanitizeGroup_count_self :
    (sanitizeGroup i group pass).fallback.consecutiveFallback[i] =
      countAfter group (groupValid group.members pass.cmd.outputs)
        pass.fallback.consecutiveFallback[i] := by
  unfold sanitizeGroup trackConsecutive countAfter
  cases groupValid group.members pass.cmd.outputs with
  | true => simp [acceptGroup]
  | false =>
    cases hcoupling : group.coupling with
    | weak => simp [rejectGroup, hcoupling]
    | strong =>
      -- Each of the three sources counts.
      have hsource : (fallbackSource pass.fallback i group).1 = .fallbackLastGood ∨
          (fallbackSource pass.fallback i group).1 = .fallbackSafe ∨
          (fallbackSource pass.fallback i group).1 = .fallbackUnavailable := by
        unfold fallbackSource
        split
        · exact .inl rfl
        · split
          · exact .inr (.inl rfl)
          · exact .inr (.inr rfl)
      rcases hsource with hsource | hsource | hsource
      · simp [rejectGroup, hcoupling, hsource]
      · simp [rejectGroup, hcoupling, hsource]
      · simp [rejectGroup, hcoupling, hsource]

theorem sanitizeGroup_count_other (hij : i ≠ j) :
    (sanitizeGroup i group pass).fallback.consecutiveFallback[j] =
      pass.fallback.consecutiveFallback[j] := by
  have hne : (i : Nat) ≠ j := fun h => hij (Fin.ext h)
  unfold sanitizeGroup trackConsecutive
  cases groupValid group.members pass.cmd.outputs with
  | true => simp [acceptGroup, Vector.getElem_set_ne, hne]
  | false => simp [rejectGroup, Vector.getElem_set_ne, hne]

theorem sanitizeGroups_count_other {n : Nat}
    (h : j.val < n ∨ n + groups.length ≤ j.val) :
    (sanitizeGroups n groups pass).fallback.consecutiveFallback[j] =
      pass.fallback.consecutiveFallback[j] := by
  induction groups generalizing n pass with
  | nil => rfl
  | cons group groups ih =>
    rw [List.length_cons] at h
    unfold sanitizeGroups
    split
    · rename_i hn
      have hother : (⟨n, hn⟩ : Fin 8) ≠ j := by
        rintro rfl
        simp only at h
        omega
      rw [ih (by omega), sanitizeGroup_count_other hother]
    · rfl

/-- A turn raises the limit flag when it leaves its counter above the limit. -/
theorem sanitizeGroup_limit :
    (sanitizeGroup i group pass).report.consecutiveFallbackLimitExceeded =
      (pass.report.consecutiveFallbackLimitExceeded ||
        (sanitizeGroup i group pass).fallback.consecutiveFallback[i] > maxConsecutiveFallback) := by
  unfold sanitizeGroup trackConsecutive
  cases groupValid group.members pass.cmd.outputs with
  | true => simp [acceptGroup]
  | false => simp [rejectGroup]

/-- The turns of a stretch of groups raise the limit flag when one of them leaves its counter
above the limit. -/
theorem sanitizeGroups_limit {n : Nat} :
    (sanitizeGroups n groups pass).report.consecutiveFallbackLimitExceeded = true ↔
      pass.report.consecutiveFallbackLimitExceeded = true ∨
        ∃ j : Fin 8, n ≤ j.val ∧ j.val < n + groups.length ∧ maxConsecutiveFallback <
          (sanitizeGroups n groups pass).fallback.consecutiveFallback[j] := by
  induction groups generalizing n pass with
  | nil =>
    simp only [sanitizeGroups, List.length_nil, Nat.add_zero]
    exact ⟨.inl, fun h => h.resolve_right fun ⟨j, hle, hlt, _⟩ => by omega⟩
  | cons group groups ih =>
    unfold sanitizeGroups
    split
    · rename_i hn
      -- The counter of this group is final after its turn.
      have hfinal : (sanitizeGroups (n + 1) groups (sanitizeGroup ⟨n, hn⟩ group
            pass)).fallback.consecutiveFallback[(⟨n, hn⟩ : Fin 8)] =
          (sanitizeGroup ⟨n, hn⟩ group pass).fallback.consecutiveFallback[(⟨n, hn⟩ : Fin 8)] :=
        sanitizeGroups_count_other (.inl (Nat.lt_succ_self n))
      rw [ih, sanitizeGroup_limit, Bool.or_eq_true, decide_eq_true_eq, ← hfinal, or_assoc]
      refine or_congr_right ⟨?_, ?_⟩
      · rintro (hself | ⟨j, hle, hlt, hcount⟩)
        · exact ⟨⟨n, hn⟩, le_refl n, by simp, hself⟩
        · exact ⟨j, by omega, by rw [List.length_cons]; omega, hcount⟩
      · rintro ⟨j, hle, hlt, hcount⟩
        rw [List.length_cons] at hlt
        rcases Nat.eq_or_lt_of_le hle with heq | hlater
        · obtain rfl : j = ⟨n, hn⟩ := Fin.ext heq.symm
          exact .inl hcount
        · exact .inr ⟨j, hlater, by omega, hcount⟩
    · rename_i hn
      exact ⟨.inl, fun h => h.resolve_right fun ⟨j, hle, _, _⟩ => by omega⟩

end Turn

/-! ## One call -/

section Call

variable {mode : ModeConfig F} {i : Fin 8} {group : ActuatorGroupConfig F} {ch : Fin 16}

omit [Scalar F] in
/-- A channel of one group belongs to no other. -/
theorem not_hasMember_of_ne (hdisjoint : DisjointGroups mode.groups) {n m : Nat}
    {g h : ActuatorGroupConfig F} (hg : mode.groups[n]? = some g) (hh : mode.groups[m]? = some h)
    (hne : n ≠ m) (hch : HasMember g.members ch) : ¬ HasMember h.members ch := by
  obtain ⟨hn, rfl⟩ := List.getElem?_eq_some_iff.mp hg
  obtain ⟨hm, rfl⟩ := List.getElem?_eq_some_iff.mp hh
  rcases Nat.lt_or_gt_of_ne hne with hlt | hlt
  · exact List.pairwise_iff_getElem.mp hdisjoint n m hn hm hlt ch hch
  · exact fun hother => List.pairwise_iff_getElem.mp hdisjoint m n hm hn hlt ch hother hch

variable (cmd : ActuatorCmd F) (fallback : ActuatorFallbackState F)

/-- When the turn of a group comes, its channels still hold the commanded values. -/
theorem passBefore_outputs (hdisjoint : DisjointGroups mode.groups)
    (hgroup : mode.groups[i.val]? = some group) (hch : HasMember group.members ch) :
    (passBefore cmd mode fallback i).cmd.outputs[ch] = cmd.outputs[ch] := by
  refine sanitizeGroups_outputs_other fun g hg => ?_
  obtain ⟨n, hn⟩ := List.mem_iff_getElem?.mp hg
  rw [List.getElem?_take] at hn
  split at hn
  · rename_i hlt
    exact not_hasMember_of_ne hdisjoint hgroup hn hlt.ne' hch
  · cases hn

/-- So a group is judged on the commanded values. -/
theorem groupValid_passBefore (hdisjoint : DisjointGroups mode.groups)
    (hgroup : mode.groups[i.val]? = some group) :
    groupValid group.members (passBefore cmd mode fallback i).cmd.outputs =
      groupValid group.members cmd.outputs :=
  groupValid_congr fun _ hch => passBefore_outputs cmd fallback hdisjoint hgroup hch

/-- A call leaves the channels of a group as they are after its turn. -/
theorem sanitize_turn_outputs (hdisjoint : DisjointGroups mode.groups)
    (hgroup : mode.groups[i.val]? = some group) (hch : HasMember group.members ch) :
    (sanitize cmd mode fallback).cmd.outputs[ch] =
      (sanitizeGroup i group (passBefore cmd mode fallback i)).cmd.outputs[ch] := by
  rw [sanitize_split cmd mode fallback hgroup]
  refine sanitizeGroups_outputs_other fun g hg => ?_
  obtain ⟨n, hn⟩ := List.mem_iff_getElem?.mp hg
  rw [List.getElem?_drop] at hn
  exact not_hasMember_of_ne hdisjoint hgroup hn (by omega) hch

/-- A call counts each group by the commanded values. -/
theorem sanitize_count (hdisjoint : DisjointGroups mode.groups)
    (hgroup : mode.groups[i.val]? = some group) :
    (sanitize cmd mode fallback).fallback.consecutiveFallback[i] =
      countAfter group (groupValid group.members cmd.outputs)
        fallback.consecutiveFallback[i] := by
  have hbefore : (passBefore cmd mode fallback i).fallback.consecutiveFallback[i] =
      fallback.consecutiveFallback[i] :=
    sanitizeGroups_count_other (.inr (by rw [List.length_take]; omega))
  rw [sanitize_split cmd mode fallback hgroup,
    sanitizeGroups_count_other (.inl (Nat.lt_succ_self _)), sanitizeGroup_count_self,
    groupValid_passBefore cmd fallback hdisjoint hgroup, hbefore]

end Call

/-! ## A run of calls -/

section Run

/-- The sanitizer over a fixed topology: each call takes a command and hands on the memory. -/
def machine (mode : ModeConfig F) :
    Machine (ActuatorFallbackState F) (ActuatorCmd F) (SanitizePass F) :=
  ⟨fun fallback cmd => ((sanitize cmd mode fallback).fallback, sanitize cmd mode fallback)⟩

/-- The memory after a sequence of calls. -/
def after (mode : ModeConfig F) (cmds : List (ActuatorCmd F)) : ActuatorFallbackState F :=
  (machine mode).run .default cmds

/-- The last command of a history with every member of the group valid. -/
def lastValid (group : ActuatorGroupConfig F) (cmds : List (ActuatorCmd F)) :
    Option (ActuatorCmd F) :=
  cmds.reverse.find? fun cmd => groupValid group.members cmd.outputs

/-- The number of commands after it, or of all commands if there is none. -/
def callsSinceValid (group : ActuatorGroupConfig F) (cmds : List (ActuatorCmd F)) : Nat :=
  (cmds.reverse.takeWhile fun cmd => !groupValid group.members cmd.outputs).length

/-- What a group without a fresh memory falls back to. -/
def safeValues (group : ActuatorGroupConfig F) : ActuatorVector F :=
  if group.safePattern.valid then group.safePattern.outputs else .zero

/-- The one source of a strongly coupled group when `cmd` follows a history of commands. -/
def strongSource (group : ActuatorGroupConfig F) (cmds : List (ActuatorCmd F))
    (cmd : ActuatorCmd F) : ActuatorVector F :=
  if groupValid group.members cmd.outputs then cmd.outputs
  else match lastValid group cmds with
    | some good =>
      if callsSinceValid group cmds < maxFallbackAgeCycles.toNat then good.outputs
      else safeValues group
    | none => safeValues group

/-- How many calls in a row, up to the last one, a group has fallen back in. A weakly coupled
group replaces its bad channels one by one, which does not count. -/
def fallbackRun (group : ActuatorGroupConfig F) (cmds : List (ActuatorCmd F)) : Nat :=
  match group.coupling with
  | .strong => callsSinceValid group cmds
  | .weak => 0

variable {mode : ModeConfig F} {i : Fin 8} {group : ActuatorGroupConfig F}
  {cmds : List (ActuatorCmd F)} {cmd : ActuatorCmd F}

theorem after_concat :
    after mode (cmds ++ [cmd]) = (sanitize cmd mode (after mode cmds)).fallback :=
  Machine.run_append

theorem lastValid_concat : lastValid group (cmds ++ [cmd]) =
    if groupValid group.members cmd.outputs then some cmd else lastValid group cmds := by
  unfold lastValid
  rw [List.reverse_append, List.reverse_singleton, List.singleton_append, List.find?_cons]
  cases groupValid group.members cmd.outputs with
  | true => rfl
  | false => rfl

theorem callsSinceValid_concat : callsSinceValid group (cmds ++ [cmd]) =
    if groupValid group.members cmd.outputs then 0 else callsSinceValid group cmds + 1 := by
  unfold callsSinceValid
  rw [List.reverse_append, List.reverse_singleton, List.singleton_append, List.takeWhile_cons]
  cases groupValid group.members cmd.outputs with
  | true => rfl
  | false => rfl

/-- The memory and the counter of a group stand for a history of commands. -/
structure Remembered (group : ActuatorGroupConfig F) (cmds : List (ActuatorCmd F))
    (memory : GroupVector F × UInt16) (count : UInt16) : Prop where
  lastGood : match lastValid group cmds with
    | some good => memory.1.valid = true ∧
        ∀ ch, HasMember group.members ch → memory.1.outputs[ch] = good.outputs[ch]
    | none => memory.1.valid = false
  age : memory.2.toNat = min (callsSinceValid group cmds) (2 ^ 16 - 1)
  count : count.toNat = min (fallbackRun group cmds) (2 ^ 16 - 1)

/-- A call adds its command to the history a group remembers. -/
theorem remembered_sanitize {fallback : ActuatorFallbackState F}
    (hdisjoint : DisjointGroups mode.groups) (hgroup : mode.groups[i.val]? = some group)
    (h : Remembered group cmds (fallback.memory i) fallback.consecutiveFallback[i]) :
    Remembered group (cmds ++ [cmd]) ((sanitize cmd mode fallback).fallback.memory i)
      (sanitize cmd mode fallback).fallback.consecutiveFallback[i] := by
  rw [sanitize_count cmd fallback hdisjoint hgroup, (sanitize_turn cmd mode fallback hgroup).1,
    sanitizeGroup_self.1, passBefore_memory, groupOutcome,
    groupValid_passBefore cmd fallback hdisjoint hgroup]
  obtain ⟨hlastGood, hage, hcount⟩ := h
  cases hvalid : groupValid group.members cmd.outputs with
  | true =>
    refine ⟨?_, ?_, ?_⟩
    · rw [lastValid_concat, hvalid]
      refine ⟨rfl, fun ch hch => ?_⟩
      show (copyMembers _ _ _ _)[ch] = _
      rw [getElem_copyMembers, if_pos ⟨hch, rfl⟩,
        passBefore_outputs cmd fallback hdisjoint hgroup hch]
    · rw [callsSinceValid_concat, hvalid]
      rfl
    · unfold fallbackRun countAfter
      rw [callsSinceValid_concat, hvalid]
      cases group.coupling with
      | strong => rfl
      | weak => rfl
  | false =>
    refine ⟨?_, ?_, ?_⟩
    · rw [lastValid_concat, hvalid]
      exact hlastGood
    · rw [callsSinceValid_concat, hvalid]
      show ((fallback.memory i).2.saturatingAdd 1).toNat = min (callsSinceValid group cmds + 1) _
      rw [UInt16.toNat_saturatingAdd, hage, UInt16.toNat_one]
      omega
    · unfold fallbackRun countAfter at *
      rw [callsSinceValid_concat, hvalid]
      cases hcoupling : group.coupling with
      | strong =>
        rw [hcoupling] at hcount
        show (fallback.consecutiveFallback[i].saturatingAdd 1).toNat =
          min (callsSinceValid group cmds + 1) _
        rw [UInt16.toNat_saturatingAdd, hcount, UInt16.toNat_one]
        simp only
        omega
      | weak => rfl

/-- After every sequence of calls each group remembers the commands so far. -/
theorem remembered_after (hdisjoint : DisjointGroups mode.groups)
    (hgroup : mode.groups[i.val]? = some group) (cmds : List (ActuatorCmd F)) :
    Remembered group cmds ((after mode cmds).memory i)
      (after mode cmds).consecutiveFallback[i] := by
  induction cmds using List.reverseRecOn with
  | nil =>
    have hnone : lastValid group [] = none := rfl
    have hmemory : (after mode []).memory i = (.default, 0) := by
      simp [after, ActuatorFallbackState.default, ActuatorFallbackState.memory]
    have hcount : (after mode []).consecutiveFallback[i] = 0 := by
      simp [after, ActuatorFallbackState.default]
    rw [hmemory, hcount]
    refine ⟨by rw [hnone]; rfl, rfl, ?_⟩
    unfold fallbackRun
    cases group.coupling with
    | strong => rfl
    | weak => rfl
  | append_singleton cmds cmd ih =>
    rw [after_concat]
    exact remembered_sanitize hdisjoint hgroup ih

/-- What a bad group falls back to, whatever it reports. -/
theorem fallbackSource_snd {fallback : ActuatorFallbackState F} :
    (fallbackSource fallback i group).2 =
      if fallback.lastGood[i].valid && fallback.age[i] < maxFallbackAgeCycles then
        fallback.lastGood[i].outputs
      else safeValues group := by
  unfold fallbackSource safeValues
  split
  · rfl
  · split
    · rfl
    · rfl

/-- A rejected group falls back to the source its history calls for. -/
theorem fallbackSource_after (hdisjoint : DisjointGroups mode.groups)
    (hgroup : mode.groups[i.val]? = some group) {ch : Fin 16} (hch : HasMember group.members ch)
    {fallback : ActuatorFallbackState F}
    (hmemory : fallback.memory i = (after mode cmds).memory i)
    (hinvalid : groupValid group.members cmd.outputs = false) :
    (fallbackSource fallback i group).2[ch] = (strongSource group cmds cmd)[ch] := by
  obtain ⟨hlastGood, hage, -⟩ := remembered_after hdisjoint hgroup cmds
  rw [← hmemory] at hlastGood hage
  simp only [ActuatorFallbackState.memory] at hlastGood hage
  have hlimit : maxFallbackAgeCycles.toNat = 100 := rfl
  -- The saturated age and the exact one agree below the limit.
  have hfresh : fallback.age[i] < maxFallbackAgeCycles ↔
      callsSinceValid group cmds < maxFallbackAgeCycles.toNat := by
    rw [UInt16.lt_iff_toNat_lt, hage]
    omega
  rw [fallbackSource_snd, strongSource, hinvalid]
  cases hgood : lastValid group cmds with
  | none =>
    rw [hgood] at hlastGood
    simp only [hlastGood, Bool.false_and, Bool.false_eq_true, if_false]
  | some good =>
    rw [hgood] at hlastGood
    simp only [hlastGood.1, Bool.true_and, decide_eq_true_eq, hfresh, Bool.false_eq_true, if_false]
    split
    · exact hlastGood.2 ch hch
    · rfl

/-- A call takes a strongly coupled group wholly from one source. -/
theorem sanitize_strong (hdisjoint : DisjointGroups mode.groups)
    (hgroup : mode.groups[i.val]? = some group) (hstrong : group.coupling = .strong)
    {ch : Fin 16} (hch : HasMember group.members ch) :
    (sanitize cmd mode (after mode cmds)).cmd.outputs[ch] =
      (strongSource group cmds cmd)[ch] := by
  have hvalid := groupValid_passBefore cmd (after mode cmds) hdisjoint hgroup
  rw [sanitize_turn_outputs cmd _ hdisjoint hgroup hch]
  cases hcommanded : groupValid group.members cmd.outputs with
  | true =>
    rw [hcommanded] at hvalid
    unfold sanitizeGroup strongSource
    rw [if_pos hvalid, if_pos hcommanded]
    exact passBefore_outputs cmd _ hdisjoint hgroup hch
  | false =>
    rw [hcommanded] at hvalid
    have hrejected : groupOutcome i group (passBefore cmd mode (after mode cmds) i) =
        .rejected _ _ := if_neg (by simp [hvalid])
    rw [strong_takes_source hstrong hrejected hch]
    exact fallbackSource_after hdisjoint hgroup hch (passBefore_memory _ _ _ i) hcommanded

/-- A call raises the limit flag when a group has fallen back too many calls in a row. -/
theorem sanitize_limit (hdisjoint : DisjointGroups mode.groups) :
    (sanitize cmd mode (after mode cmds)).report.consecutiveFallbackLimitExceeded = true ↔
      ∃ i : Fin 8, ∃ group, mode.groups[i.val]? = some group ∧
        maxConsecutiveFallback.toNat < fallbackRun group (cmds ++ [cmd]) := by
  have hlimit : maxConsecutiveFallback.toNat = 10 := rfl
  -- The saturated counter and the exact one agree on the limit.
  have hcount : ∀ i : Fin 8, ∀ group, mode.groups[i.val]? = some group →
      (maxConsecutiveFallback <
          (sanitize cmd mode (after mode cmds)).fallback.consecutiveFallback[i] ↔
        maxConsecutiveFallback.toNat < fallbackRun group (cmds ++ [cmd])) := by
    intro i group hgroup
    have h := (remembered_after hdisjoint hgroup (cmds ++ [cmd])).count
    rw [after_concat] at h
    rw [UInt16.lt_iff_toNat_lt, h]
    omega
  unfold sanitize at hcount ⊢
  rw [sanitizeGroups_limit]
  constructor
  · rintro (hdefault | ⟨j, -, hlt, hover⟩)
    · cases hdefault
    · rw [Nat.zero_add] at hlt
      have hgroup := List.getElem?_eq_getElem hlt
      exact ⟨j, _, hgroup, (hcount j _ hgroup).mp hover⟩
  · rintro ⟨j, group, hgroup, hover⟩
    obtain ⟨hlt, -⟩ := List.getElem?_eq_some_iff.mp hgroup
    exact .inr ⟨j, Nat.zero_le _, by omega, (hcount j group hgroup).mpr hover⟩

/-- A call leaves the channels of the groups past `MAX_GROUPS` as commanded. -/
theorem sanitize_unprocessed (hdisjoint : DisjointGroups mode.groups)
    (fallback : ActuatorFallbackState F) {n : Nat} (hn : 8 ≤ n)
    (hgroup : mode.groups[n]? = some group) {ch : Fin 16} (hch : HasMember group.members ch) :
    (sanitize cmd mode fallback).cmd.outputs[ch] = cmd.outputs[ch] := by
  obtain ⟨hlt, -⟩ := List.getElem?_eq_some_iff.mp hgroup
  have hlength : (mode.groups.take 8).length = 8 := by
    rw [List.length_take]
    omega
  have hstop : ∀ rest (pass : SanitizePass F), sanitizeGroups 8 rest pass = pass := by
    intro rest pass
    cases rest with
    | nil => rfl
    | cons g rest => rw [sanitizeGroups, dif_neg (Nat.lt_irrefl 8)]
  unfold sanitize
  rw [← List.take_append_drop 8 mode.groups, sanitizeGroups_append, hlength, hstop]
  refine sanitizeGroups_outputs_other fun g hg => ?_
  obtain ⟨m, hm⟩ := List.mem_iff_getElem?.mp hg
  rw [List.getElem?_take] at hm
  split at hm
  · exact not_hasMember_of_ne hdisjoint hgroup hm (by omega) hch
  · cases hm

/-- After every sequence of calls on disjoint groups, a call takes each strongly coupled group
among the first `MAX_GROUPS` wholly from one source and leaves the groups past them as
commanded, it counts for each group the calls in a row that it has fallen back in, and it
raises the limit flag exactly when one of these counts exceeds the limit. -/
theorem sanitize_law (mode : ModeConfig F) (hdisjoint : DisjointGroups mode.groups)
    (cmds : List (ActuatorCmd F)) (cmd : ActuatorCmd F) :
    let pass := sanitize cmd mode (after mode cmds)
    (∀ (i : Fin 8) group, mode.groups[i.val]? = some group → group.coupling = .strong →
        ∀ ch : Fin 16, HasMember group.members ch →
          pass.cmd.outputs[ch] = (strongSource group cmds cmd)[ch]) ∧
      (∀ n group, 8 ≤ n → mode.groups[n]? = some group → ∀ ch : Fin 16,
        HasMember group.members ch → pass.cmd.outputs[ch] = cmd.outputs[ch]) ∧
      (∀ (i : Fin 8) group, mode.groups[i.val]? = some group →
        pass.fallback.consecutiveFallback[i].toNat =
          min (fallbackRun group (cmds ++ [cmd])) (2 ^ 16 - 1)) ∧
      (pass.report.consecutiveFallbackLimitExceeded = true ↔
        ∃ i : Fin 8, ∃ group, mode.groups[i.val]? = some group ∧
          maxConsecutiveFallback.toNat < fallbackRun group (cmds ++ [cmd])) := by
  refine ⟨?_, ?_, ?_, sanitize_limit hdisjoint⟩
  · intro i group hgroup hstrong ch hch
    exact sanitize_strong hdisjoint hgroup hstrong hch
  · intro n group hn hgroup ch hch
    exact sanitize_unprocessed hdisjoint _ hn hgroup hch
  · intro i group hgroup
    have hcount := (remembered_after hdisjoint hgroup (cmds ++ [cmd])).count
    rwa [after_concat] at hcount

end Run

/-! ## Groups that fall back in turn -/

/-- A strongly coupled group without a safe pattern. -/
def strongGroup (members : List UInt8) : ActuatorGroupConfig (ExactFloat ℚ) :=
  ⟨.multirotor, .strong, .safePattern, members, .default⟩

/-- Two groups of two channels. -/
def twoGroups : ModeConfig (ExactFloat ℚ) := ⟨.hover, [strongGroup [0, 1], strongGroup [2, 3]]⟩

/-- A command at rest but for one channel that is not a number. -/
def badChannel (ch : Fin 16) : ActuatorCmd (ExactFloat ℚ) :=
  ⟨Vector.ofFn fun i => if i = ch then .nan else .fin 0, 0, 0, .default, 0, false⟩

/-- How many calls in a row, up to the last one, some group has fallen back in. -/
def callsSinceClean (mode : ModeConfig F) (cmds : List (ActuatorCmd F)) : Nat :=
  (((machine mode).trace .default cmds).reverse.takeWhile fun e => e.out.report.anyFallback).length

/-- After eleven bad commands for one group in a row the flag is up. -/
theorem sanitize_law_twoGroups :
    (sanitize (badChannel 0) twoGroups
      (after twoGroups (List.replicate 10 (badChannel 0)))).report.consecutiveFallbackLimitExceeded
        = true :=
  (sanitize_law twoGroups (by decide) (List.replicate 10 (badChannel 0))
    (badChannel 0)).2.2.2.mpr ⟨0, strongGroup [0, 1], rfl, by decide +kernel⟩

/-- Eleven calls that reject the two groups in turn: none is free of a fallback, yet the
counters stand at one and zero and the flag is down. And the ninth of nine groups keeps a bad
value. -/
theorem alternating_groups :
    let cmds := (List.range 10).map fun n => badChannel (if n % 2 = 0 then 0 else 2)
    let pass := sanitize (badChannel 0) twoGroups (after twoGroups cmds)
    let nineGroups : ModeConfig (ExactFloat ℚ) :=
      ⟨.hover, (List.range 9).map fun n => strongGroup [UInt8.ofNat n]⟩
    DisjointGroups twoGroups.groups ∧ DisjointGroups nineGroups.groups ∧
      callsSinceClean twoGroups (cmds ++ [badChannel 0]) = 11 ∧
      pass.fallback.consecutiveFallback[0] = 1 ∧ pass.fallback.consecutiveFallback[1] = 0 ∧
      pass.report.consecutiveFallbackLimitExceeded = false ∧
      (sanitize (badChannel 8) nineGroups .default).cmd.outputs[8] = .nan := by
  decide +kernel

end Sanitizer

end Aviate

end KernelGroupAtomicity

section DirectCommandMapping

/-!
# From messages to actions

What the direct endpoint does with a decoded message: queue a command, answer it at once or
ignore it (`link/mavlink_rx.rs`).
-/

/-- `v == FORCE_ARM_DISARM_MAGIC`, the value 21196. -/
def F32.isForceMagic (v : F32) : Bool := v.bits = 0x46A59800

namespace Aviate.Direct

open Mavlink

inductive InboundAction where
  | enqueue (command : SystemCommand F32)
  | immediateAck (command : UInt16) (result : UInt8)
  | ignore

def localNedFrame : UInt8 := 1

/-- The three body-rate bits. -/
def attitudeMask : UInt8 := 1 ||| 2 ||| 4

def positionMask : UInt16 := 1 ||| 2 ||| 4

def velocityMask : UInt16 := 8 ||| 16 ||| 32

def accelerationMask : UInt16 := 64 ||| 128 ||| 256

def forceSet : UInt16 := 512

def yawIgnore : UInt16 := 1024

def yawRateIgnore : UInt16 := 2048

def knownPositionMask : UInt16 :=
  positionMask ||| velocityMask ||| accelerationMask ||| forceSet ||| yawIgnore ||| yawRateIgnore

def resultDenied : UInt8 := 2

def resultUnsupported : UInt8 := 3

/-- All three bits clear, or all three set: the vector is used or not. -/
def vectorActive (typeMask vectorMask : UInt16) : Option Bool :=
  if typeMask &&& vectorMask = 0 then some true
  else if typeMask &&& vectorMask = vectorMask then some false
  else none

def allFinite (values : List F32) : Bool := values.all Scalar.isFinite

def mapAttitudeTarget (target : SetAttitudeTarget) (seq : UInt8) : Option (Command F32) :=
  let attitude : Quaternion F32 := ⟨target.q[0], target.q[1], target.q[2], target.q[3]⟩
  if target.typeMask ≠ attitudeMask then none
  else if !allFinite [target.q[0], target.q[1], target.q[2], target.q[3], target.thrust] then none
  else if !attitude.isNormalized quatNormEps ||
      !(Scalar.le (lit 0) target.thrust && Scalar.le target.thrust (lit 1)) then none
  else
    some {
      mode := .attitude
      setpoint := { Setpoint.default with
        attitude := some attitude
        collectiveThrust := target.thrust }
      configModeRequest := none
      sensorOverrides := none
      sequence := seq.toUInt32
      source := .gcs }

def mapPositionTarget (target : SetPositionTargetLocalNed) (seq : UInt8) :
    Option (Command F32) :=
  let mask := target.typeMask
  if target.coordinateFrame ≠ localNedFrame then none
  else do
    let positionActive ← vectorActive mask positionMask
    let velocityActive ← vectorActive mask velocityMask
    let unsupported := mask &&& ~~~knownPositionMask ≠ 0 ||
      mask &&& accelerationMask ≠ accelerationMask || mask &&& forceSet ≠ 0 ||
      mask &&& yawRateIgnore = 0
    let yawActive : Bool := mask &&& yawIgnore = 0
    if unsupported || (!positionActive && !velocityActive) then none
    else if positionActive && !allFinite [target.x, target.y, target.z] then none
    else if velocityActive && !allFinite [target.vx, target.vy, target.vz] then none
    else if yawActive && !Scalar.isFinite target.yaw then none
    else
      some {
        mode := if positionActive then .positionHold else .velocityControl
        setpoint := { Setpoint.default with
          position := if positionActive then some #v[target.x, target.y, target.z] else none
          velocity := if velocityActive then some #v[target.vx, target.vy, target.vz] else none
          heading := if yawActive then some target.yaw else none }
        configModeRequest := none
        sensorOverrides := none
        sequence := seq.toUInt32
        source := .gcs }

/-- Arm by exactly 1 and disarm by exactly 0; the force value makes a disarm a termination. -/
def mapCommandLong (cmd : CommandLong) (localAddress : LocalAddress) : InboundAction :=
  if !localAddress.accepts cmd.targetSystem cmd.targetComponent then .ignore
  else if cmd.command ≠ componentArmDisarm then .immediateAck cmd.command resultUnsupported
  else if cmd.param1.isOne then .enqueue .arm
  else if cmd.param1.isZero && cmd.param2.isForceMagic then .enqueue .emergencyTerminate
  else if cmd.param1.isZero then .enqueue .disarm
  else .immediateAck cmd.command resultDenied

/-- What a setpoint maps to, if it does. -/
def flightControlAction : Option (Command F32) → InboundAction
  | some cmd => .enqueue (.flightControl cmd)
  | none => .ignore

def mapMessage (message : MavMessage) (header : MavHeader) (localAddress : LocalAddress) :
    InboundAction :=
  match message with
  | .commandLong cmd => mapCommandLong cmd localAddress
  | .setAttitudeTarget target =>
    if !localAddress.accepts target.targetSystem target.targetComponent then .ignore
    else flightControlAction (mapAttitudeTarget target header.seq)
  | .setPositionTargetLocalNed target =>
    if !localAddress.accepts target.targetSystem target.targetComponent then .ignore
    else flightControlAction (mapPositionTarget target header.seq)
  | _ => .ignore

end Aviate.Direct

end DirectCommandMapping

section LinkSerializer

/-!
# The MAVLink serializer

`serialize_mavlink` and the message encoders it calls (`mavlink/protocol.rs`). The encoders
differ in their layout only: each is `serializeFields` on the message's length, identifier,
checksum seed and fields, with the offsets the source writes them at.
-/

namespace Aviate.Mavlink

open ByteBuffer

/-! ## Frames -/

/-- What a serializer returns: nothing if the buffer is too small, else the length of the
frame and the buffer it is written in. -/
abbrev Serialized := Checked Empty (Option (Nat × Bytes))

/-- A serializer takes the sequence number, the system and component identifiers, and the
buffer. -/
abbrev Serializer := UInt8 → UInt8 → UInt8 → Bytes → Serialized

/-- Write the header and return where the payload starts. -/
def writeHeader (buf : Bytes) (payloadLen seq sysId compId : UInt8) (msgid : UInt32) :
    Checked Empty (Nat × Bytes) := do
  let buf ← writeBytes buf 0
    [mavlinkStxV2, payloadLen, 0, 0, seq, sysId, compId, (msgid &&& 0xFF).toUInt8,
      ((msgid >>> 8) &&& 0xFF).toUInt8, ((msgid >>> 16) &&& 0xFF).toUInt8]
  return (MavHeader.size, buf)

/-- The end of the payload without its trailing zeros; one byte is always kept. -/
def trimPayloadEnd (buf : Bytes) : Nat → Checked Empty Nat
  | 0 => .ok 0
  | payloadEnd + 1 =>
    if payloadEnd + 1 > MavHeader.size + 1 then do
      if (← readU8 buf payloadEnd) = 0 then trimPayloadEnd buf payloadEnd
      else .ok (payloadEnd + 1)
    else .ok (payloadEnd + 1)

/-- Truncate the payload that ends at `offset`, patch the length and append the checksum. -/
def writeCrc (buf : Bytes) (offset : Nat) (crcExtra : UInt8) : Checked Empty (Nat × Bytes) := do
  let payloadEnd ← trimPayloadEnd buf offset
  let buf ← writeU8 buf 1 (.ofNat (payloadEnd - MavHeader.size))
  let crc := computeCrc (← slice buf 1 payloadEnd) crcExtra
  let buf ← writeU8 buf payloadEnd (crc &&& 0xFF).toUInt8
  let buf ← writeU8 buf (payloadEnd + 1) ((crc >>> 8) &&& 0xFF).toUInt8
  return (payloadEnd + 2, buf)

/-- Serialize a message by its layout. The buffer must hold the untruncated frame. -/
def serializeFields (payloadLen : Nat) (msgId : UInt32) (crcExtra : UInt8)
    (fields : List FieldWrite) (seq sysId compId : UInt8) (buf : Bytes) : Serialized :=
  if buf.length < MavHeader.size + payloadLen + 2 then .ok none
  else do
    let (offset, buf) ← writeHeader buf (.ofNat payloadLen) seq sysId compId msgId
    let buf ← writeFields buf offset fields
    let (length, buf) ← writeCrc buf (offset + payloadLen) crcExtra
    return some (length, buf)

/-! ## Message encoders -/

def serializeHeartbeat (msg : Heartbeat) : Serializer :=
  serializeFields Heartbeat.payloadLen Heartbeat.msgId 50
    [.u32Le 0 msg.customMode, .u8 4 msg.mavType, .u8 5 msg.autopilot, .u8 6 msg.baseMode,
      .u8 7 msg.systemStatus, .u8 8 msg.mavlinkVersion]

def serializeSystemTime (msg : SystemTime) : Serializer :=
  serializeFields SystemTime.payloadLen SystemTime.msgId 137
    [.u64Le 0 msg.timeUnixUsec, .u32Le 8 msg.timeBootMs]

def serializeAttitudeQuaternion (msg : AttitudeQuaternion) : Serializer :=
  serializeFields AttitudeQuaternion.payloadLen AttitudeQuaternion.msgId 246
    [.u32Le 0 msg.timeBootMs, .f32Le 4 msg.q1, .f32Le 8 msg.q2, .f32Le 12 msg.q3, .f32Le 16 msg.q4,
      .f32Le 20 msg.rollspeed, .f32Le 24 msg.pitchspeed, .f32Le 28 msg.yawspeed,
      .f32Le 32 msg.reprOffsetQ[0], .f32Le 36 msg.reprOffsetQ[1], .f32Le 40 msg.reprOffsetQ[2],
      .f32Le 44 msg.reprOffsetQ[3]]

def serializeLocalPositionNed (msg : LocalPositionNed) : Serializer :=
  serializeFields LocalPositionNed.payloadLen LocalPositionNed.msgId 185
    [.u32Le 0 msg.timeBootMs, .f32Le 4 msg.x, .f32Le 8 msg.y, .f32Le 12 msg.z, .f32Le 16 msg.vx,
      .f32Le 20 msg.vy, .f32Le 24 msg.vz]

def serializeGlobalPositionInt (msg : GlobalPositionInt) : Serializer :=
  serializeFields GlobalPositionInt.payloadLen GlobalPositionInt.msgId GlobalPositionInt.crcExtra
    [.u32Le 0 msg.timeBootMs, .i32Le 4 msg.lat, .i32Le 8 msg.lon, .i32Le 12 msg.alt,
      .i32Le 16 msg.relativeAlt, .i16Le 20 msg.vx, .i16Le 22 msg.vy, .i16Le 24 msg.vz,
      .u16Le 26 msg.hdg]

def serializeGpsRawInt (msg : GpsRawInt) : Serializer :=
  serializeFields GpsRawInt.payloadLen GpsRawInt.msgId GpsRawInt.crcExtra
    [.u64Le 0 msg.timeUsec, .i32Le 8 msg.lat, .i32Le 12 msg.lon, .i32Le 16 msg.alt,
      .u16Le 20 msg.eph, .u16Le 22 msg.epv, .u16Le 24 msg.vel, .u16Le 26 msg.cog,
      .u8 28 msg.fixType, .u8 29 msg.satellitesVisible, .i32Le 30 msg.altEllipsoid,
      .u32Le 34 msg.hAcc, .u32Le 38 msg.vAcc, .u32Le 42 msg.velAcc, .u32Le 46 msg.hdgAcc,
      .u16Le 50 msg.yaw]

def serializeScaledPressure (msg : ScaledPressure) : Serializer :=
  serializeFields ScaledPressure.payloadLen ScaledPressure.msgId 115
    [.u32Le 0 msg.timeBootMs, .f32Le 4 msg.pressAbs, .f32Le 8 msg.pressDiff,
      .u16Le 12 msg.temperature.toUInt16]

def serializeEstimatorStatus (msg : EstimatorStatus) : Serializer :=
  serializeFields EstimatorStatus.payloadLen EstimatorStatus.msgId EstimatorStatus.crcExtra
    [.u64Le 0 msg.timeUsec, .f32Le 8 msg.velRatio, .f32Le 12 msg.posHorizRatio,
      .f32Le 16 msg.posVertRatio, .f32Le 20 msg.magRatio, .f32Le 24 msg.haglRatio,
      .f32Le 28 msg.tasRatio, .f32Le 32 msg.posHorizAccuracy, .f32Le 36 msg.posVertAccuracy,
      .u16Le 40 msg.flags]

def serializeAviateEstimatorStatus (msg : AviateEstimatorStatus) : Serializer :=
  serializeFields AviateEstimatorStatus.payloadLen AviateEstimatorStatus.msgId
    AviateEstimatorStatus.crcExtra
    [.u64Le 0 msg.timeUsec, .u8 8 msg.validFlags, .u8 9 msg.quality]

def serializeAviateGeomagneticReference (msg : AviateGeomagneticReference) : Serializer :=
  serializeFields AviateGeomagneticReference.payloadLen AviateGeomagneticReference.msgId
    AviateGeomagneticReference.crcExtra
    [.u64Le 0 msg.timeUsec, .f32Le 8 msg.declination, .u8 12 msg.source]

def serializeSetAttitudeTarget (msg : SetAttitudeTarget) : Serializer :=
  serializeFields SetAttitudeTarget.payloadLen SetAttitudeTarget.msgId 49
    [.u32Le 0 msg.timeBootMs, .f32Le 4 msg.q[0], .f32Le 8 msg.q[1], .f32Le 12 msg.q[2],
      .f32Le 16 msg.q[3], .f32Le 20 msg.bodyRollRate, .f32Le 24 msg.bodyPitchRate,
      .f32Le 28 msg.bodyYawRate, .f32Le 32 msg.thrust, .u8 36 msg.targetSystem,
      .u8 37 msg.targetComponent, .u8 38 msg.typeMask, .f32Le 39 msg.thrustBody[0],
      .f32Le 43 msg.thrustBody[1], .f32Le 47 msg.thrustBody[2]]

def serializeSetPositionTargetLocalNed (msg : SetPositionTargetLocalNed) : Serializer :=
  serializeFields SetPositionTargetLocalNed.payloadLen SetPositionTargetLocalNed.msgId 143
    [.u32Le 0 msg.timeBootMs, .f32Le 4 msg.x, .f32Le 8 msg.y, .f32Le 12 msg.z, .f32Le 16 msg.vx,
      .f32Le 20 msg.vy, .f32Le 24 msg.vz, .f32Le 28 msg.afx, .f32Le 32 msg.afy, .f32Le 36 msg.afz,
      .f32Le 40 msg.yaw, .f32Le 44 msg.yawRate, .u16Le 48 msg.typeMask, .u8 50 msg.targetSystem,
      .u8 51 msg.targetComponent, .u8 52 msg.coordinateFrame]

def serializeCommandLong (msg : CommandLong) : Serializer :=
  serializeFields CommandLong.payloadLen CommandLong.msgId 152
    [.f32Le 0 msg.param1, .f32Le 4 msg.param2, .f32Le 8 msg.param3, .f32Le 12 msg.param4,
      .f32Le 16 msg.param5, .f32Le 20 msg.param6, .f32Le 24 msg.param7, .u16Le 28 msg.command,
      .u8 30 msg.targetSystem, .u8 31 msg.targetComponent, .u8 32 msg.confirmation]

def serializeCommandAck (msg : CommandAck) : Serializer :=
  serializeFields CommandAck.payloadLen CommandAck.msgId 143
    [.u16Le 0 msg.command, .u8 2 msg.result, .u8 3 msg.progress, .i32Le 4 msg.resultParam2,
      .u8 8 msg.targetSystem, .u8 9 msg.targetComponent]

def serializeRcChannelsOverride (msg : RcChannelsOverride) : Serializer :=
  serializeFields RcChannelsOverride.payloadLen RcChannelsOverride.msgId 124
    [.u16Le 0 msg.chan1Raw, .u16Le 2 msg.chan2Raw, .u16Le 4 msg.chan3Raw, .u16Le 6 msg.chan4Raw,
      .u16Le 8 msg.chan5Raw, .u16Le 10 msg.chan6Raw, .u16Le 12 msg.chan7Raw,
      .u16Le 14 msg.chan8Raw, .u8 16 msg.targetSystem, .u8 17 msg.targetComponent,
      .u16Le 18 msg.chan9Raw, .u16Le 20 msg.chan10Raw, .u16Le 22 msg.chan11Raw,
      .u16Le 24 msg.chan12Raw, .u16Le 26 msg.chan13Raw, .u16Le 28 msg.chan14Raw,
      .u16Le 30 msg.chan15Raw, .u16Le 32 msg.chan16Raw, .u16Le 34 msg.chan17Raw,
      .u16Le 36 msg.chan18Raw]

def serializeManualControl (msg : ManualControl) : Serializer :=
  serializeFields ManualControl.payloadLen ManualControl.msgId 243
    [.i16Le 0 msg.x, .i16Le 2 msg.y, .i16Le 4 msg.z, .i16Le 6 msg.r, .u16Le 8 msg.buttons,
      .u8 10 msg.target, .u16Le 11 msg.buttons2, .u8 13 msg.enabledExtensions, .i16Le 14 msg.s,
      .i16Le 16 msg.t, .i16Le 18 msg.aux1, .i16Le 20 msg.aux2, .i16Le 22 msg.aux3,
      .i16Le 24 msg.aux4, .i16Le 26 msg.aux5, .i16Le 28 msg.aux6]

def serializeSysStatus (msg : SysStatus) : Serializer :=
  serializeFields SysStatus.payloadLen SysStatus.msgId 124
    [.u32Le 0 msg.onboardControlSensorsPresent, .u32Le 4 msg.onboardControlSensorsEnabled,
      .u32Le 8 msg.onboardControlSensorsHealth, .u16Le 12 msg.load, .u16Le 14 msg.voltageBattery,
      .i16Le 16 msg.currentBattery, .u16Le 18 msg.dropRateComm, .u16Le 20 msg.errorsComm,
      .u16Le 22 msg.errorsCount1, .u16Le 24 msg.errorsCount2, .u16Le 26 msg.errorsCount3,
      .u16Le 28 msg.errorsCount4, .u8 30 msg.batteryRemaining.toUInt8,
      .u32Le 31 msg.onboardControlSensorsPresentExtended,
      .u32Le 35 msg.onboardControlSensorsEnabledExtended,
      .u32Le 39 msg.onboardControlSensorsHealthExtended]

def serializeStatustext (msg : Statustext) : Serializer :=
  serializeFields Statustext.payloadLen Statustext.msgId 83
    [.u8 0 msg.severity, ⟨1, msg.text.toList⟩, .u16Le 51 msg.id, .u8 53 msg.chunkSeq]

/-- Serialize a message into a buffer. -/
def serializeMavlink (msg : MavMessage) (seq sysId compId : UInt8) (buf : Bytes) : Serialized :=
  match msg with
  | .heartbeat m => serializeHeartbeat m seq sysId compId buf
  | .systemTime m => serializeSystemTime m seq sysId compId buf
  | .attitudeQuaternion m => serializeAttitudeQuaternion m seq sysId compId buf
  | .localPositionNed m => serializeLocalPositionNed m seq sysId compId buf
  | .globalPositionInt m => serializeGlobalPositionInt m seq sysId compId buf
  | .gpsRawInt m => serializeGpsRawInt m seq sysId compId buf
  | .scaledPressure m => serializeScaledPressure m seq sysId compId buf
  | .estimatorStatus m => serializeEstimatorStatus m seq sysId compId buf
  | .aviateEstimatorStatus m => serializeAviateEstimatorStatus m seq sysId compId buf
  | .aviateGeomagneticReference m => serializeAviateGeomagneticReference m seq sysId compId buf
  | .setAttitudeTarget m => serializeSetAttitudeTarget m seq sysId compId buf
  | .setPositionTargetLocalNed m => serializeSetPositionTargetLocalNed m seq sysId compId buf
  | .commandLong m => serializeCommandLong m seq sysId compId buf
  | .commandAck m => serializeCommandAck m seq sysId compId buf
  | .rcChannelsOverride m => serializeRcChannelsOverride m seq sysId compId buf
  | .manualControl m => serializeManualControl m seq sysId compId buf
  | .sysStatus m => serializeSysStatus m seq sysId compId buf
  | .statustext m => serializeStatustext m seq sysId compId buf
  | .unknown _ => .ok none

end Aviate.Mavlink

end LinkSerializer

section LinkRoundTrip

/-!
# The MAVLink round trip

What the serializer writes, the parser reads back.

Results:
1. The serializer writes a frame: its header, its fields without their trailing zeros, and
   the checksum of both (`serializeFields_writes_frame`).
2. A layout whose fields tile the payload, in agreement with the tables and the decoder,
   makes the round trip (`serializeFields_roundTrip`); every message kind has such a layout.
3. Every message but an unknown one survives the round trip (`mavlink_roundTrip`).
-/

namespace Aviate.Mavlink

open ByteBuffer

/-! ## Truncation -/

/-- The payload end is moved back over zeros only, and never over the first byte. -/
theorem trimPayloadEnd_spec {header body : Bytes} (rest : Bytes)
    (hheader : header.length = MavHeader.size) (hbody : body ≠ []) :
    ∃ (kept : Bytes) (zeros : Nat), body = kept ++ List.replicate zeros 0 ∧ kept ≠ [] ∧
      trimPayloadEnd (header ++ (body ++ rest)) (MavHeader.size + body.length) =
        .ok (MavHeader.size + kept.length) := by
  induction body using List.reverseRecOn generalizing rest with
  | nil => exact absurd rfl hbody
  | append_singleton body last ih =>
    have hread : (readU8 (header ++ (body ++ [last] ++ rest)) (MavHeader.size + body.length) :
        Checked Empty UInt8) = .ok last := by
      rw [readU8_skip hheader (by omega), Nat.add_sub_cancel_left, List.append_assoc,
        readU8_skip rfl (le_refl _), Nat.sub_self]
      rfl
    rw [List.length_append, List.length_singleton, ← Nat.add_assoc, trimPayloadEnd]
    cases body with
    | nil =>
      refine ⟨[last], 0, rfl, List.cons_ne_nil _ _, ?_⟩
      rw [if_neg (by simp)]
      rfl
    | cons first body =>
      rw [if_pos (by simp only [List.length_cons]; omega), hread]
      show ∃ kept zeros, _ ∧ kept ≠ [] ∧ (if last = 0 then _ else _) = _
      by_cases hlast : last = 0
      · subst hlast
        obtain ⟨kept, zeros, hsplit, hkept, htrim⟩ := ih (0 :: rest) (List.cons_ne_nil _ _)
        refine ⟨kept, zeros + 1, ?_, hkept, ?_⟩
        · rw [hsplit, List.replicate_succ', List.append_assoc]
        · rw [if_pos rfl, List.append_assoc, List.singleton_append]
          exact htrim
      · refine ⟨first :: body ++ [last], 0, by simp, by simp, ?_⟩
        rw [if_neg hlast, List.length_append]
        rfl

/-! ## The frame a serializer writes -/

section Frame

variable (seq sysId compId : UInt8) (msgId : UInt32)

/-- The header without its length byte. -/
def headerTail : Bytes :=
  [0, 0, seq, sysId, compId, (msgId &&& 0xFF).toUInt8, ((msgId >>> 8) &&& 0xFF).toUInt8,
    ((msgId >>> 16) &&& 0xFF).toUInt8]

/-- The checksum of a frame with the given payload. -/
def frameCrc (crcExtra : UInt8) (payload : Bytes) : UInt16 :=
  computeCrc (.ofNat payload.length :: headerTail seq sysId compId msgId ++ payload) crcExtra

/-- The unsigned frame of a message with the given payload. -/
def unsignedFrame (crcExtra : UInt8) (payload : Bytes) (hpayload : payload.length ≤ maxPayloadLen) :
    RawFrame where
  incompatFlags := 0
  compatFlags := 0
  seq := seq
  sysid := sysId
  compid := compId
  id0 := (msgId &&& 0xFF).toUInt8
  id1 := ((msgId >>> 8) &&& 0xFF).toUInt8
  id2 := ((msgId >>> 16) &&& 0xFF).toUInt8
  payload := payload
  crc0 := (frameCrc seq sysId compId msgId crcExtra payload &&& 0xFF).toUInt8
  crc1 := ((frameCrc seq sysId compId msgId crcExtra payload >>> 8) &&& 0xFF).toUInt8
  signature := []
  payload_le := hpayload
  signature_length := rfl

variable (crcExtra : UInt8)

/-- Finalizing a frame drops the trailing zeros of the payload and appends the checksum. -/
theorem writeCrc_writes (len : UInt8) {body rest : Bytes} (hbody : body ≠ [])
    (hlength : body.length ≤ maxPayloadLen) (hrest : 2 ≤ rest.length) :
    ∃ (kept : Bytes) (zeros : Nat) (hkept : kept.length ≤ maxPayloadLen) (after : Bytes),
      body = kept ++ List.replicate zeros 0 ∧ kept ≠ [] ∧
      writeCrc (mavlinkStxV2 :: len :: headerTail seq sysId compId msgId ++ (body ++ rest))
          (MavHeader.size + body.length) crcExtra =
        .ok ((unsignedFrame seq sysId compId msgId crcExtra kept hkept).bytes.length,
          (unsignedFrame seq sysId compId msgId crcExtra kept hkept).bytes ++ after) := by
  have hheader : (mavlinkStxV2 :: len :: headerTail seq sysId compId msgId).length =
      MavHeader.size := rfl
  obtain ⟨kept, zeros, rfl, hkept, htrim⟩ := trimPayloadEnd_spec rest hheader hbody
  have hle : kept.length ≤ maxPayloadLen := by
    rw [List.length_append] at hlength
    omega
  obtain ⟨z0, z1, after, hafter⟩ :
      ∃ z0 z1 after, List.replicate zeros (0 : UInt8) ++ rest = z0 :: z1 :: after := by
    have hlong : 2 ≤ (List.replicate zeros (0 : UInt8) ++ rest).length := by
      rw [List.length_append]
      omega
    match List.replicate zeros (0 : UInt8) ++ rest, hlong with
    | z0 :: z1 :: after, _ => exact ⟨z0, z1, after, rfl⟩
  let front : Bytes :=
    mavlinkStxV2 :: .ofNat kept.length :: headerTail seq sysId compId msgId ++ kept
  have hfront : front.length = MavHeader.size + kept.length := by
    rw [List.length_append]
    rfl
  have hpatch : (writeU8 (mavlinkStxV2 :: len :: headerTail seq sysId compId msgId ++
      (kept ++ (z0 :: z1 :: after))) 1 (.ofNat kept.length) : Checked Empty Bytes) =
        .ok (front ++ (z0 :: z1 :: after)) := by
    rw [List.append_assoc]
    exact writeU8_append [mavlinkStxV2] rfl (.ofNat kept.length)
  have hcovered : (slice (front ++ (z0 :: z1 :: after)) 1 (MavHeader.size + kept.length) :
      Checked Empty Bytes) =
        .ok (.ofNat kept.length :: headerTail seq sysId compId msgId ++ kept) := by
    rw [slice_of_le (by simp only [MavHeader.size]; omega) (by rw [List.length_append]; omega),
      List.take_left' hfront]
    rfl
  have hsecond (c0 c1 : UInt8) : (writeU8 (front ++ (c0 :: z1 :: after))
      (MavHeader.size + kept.length + 1) c1 : Checked Empty Bytes) =
        .ok (front ++ (c0 :: c1 :: after)) := by
    have hnext : (front ++ [c0]).length = MavHeader.size + kept.length + 1 := by
      rw [List.length_append, hfront, List.length_singleton]
    rw [List.append_cons, writeU8_append _ hnext, ← List.append_cons]
  refine ⟨kept, zeros, hle, after, rfl, hkept, ?_⟩
  refine Checked.bind_eq_ok.mpr ⟨_, htrim, ?_⟩
  rw [Nat.add_sub_cancel_left, List.append_assoc, hafter]
  refine Checked.bind_eq_ok.mpr ⟨_, hpatch, ?_⟩
  refine Checked.bind_eq_ok.mpr ⟨_, hcovered, ?_⟩
  refine Checked.bind_eq_ok.mpr ⟨_, writeU8_append _ hfront _, ?_⟩
  refine Checked.bind_eq_ok.mpr ⟨_, hsecond _ _, ?_⟩
  rw [RawFrame.bytes_append, RawFrame.length_bytes]
  rfl

/-- The serializer writes the frame of the message's fields without their trailing zeros. -/
theorem serializeFields_writes_frame {payloadLen : Nat} {fields : List FieldWrite} {buf : Bytes}
    (htiles : Tiles 0 payloadLen fields) (hpos : 0 < payloadLen)
    (hle : payloadLen ≤ maxPayloadLen) (hbuf : MavHeader.size + payloadLen + 2 ≤ buf.length) :
    ∃ (kept : Bytes) (zeros : Nat) (hkept : kept.length ≤ maxPayloadLen) (after : Bytes),
      recordBytes fields = kept ++ List.replicate zeros 0 ∧ kept ≠ [] ∧
      serializeFields payloadLen msgId crcExtra fields seq sysId compId buf =
        .ok (some ((unsignedFrame seq sysId compId msgId crcExtra kept hkept).bytes.length,
          (unsignedFrame seq sysId compId msgId crcExtra kept hkept).bytes ++ after)) := by
  have hrecord : (recordBytes fields).length = payloadLen := by
    have htotal := length_recordBytes htiles
    omega
  let header : Bytes := mavlinkStxV2 :: .ofNat payloadLen :: headerTail seq sysId compId msgId
  have hheader : writeHeader buf (.ofNat payloadLen) seq sysId compId msgId =
      .ok (MavHeader.size, header ++ buf.drop MavHeader.size) := by
    have hfit : 0 + header.length ≤ buf.length := by
      simp only [header, headerTail, MavHeader.size, List.length_cons, List.length_nil] at hbuf ⊢
      omega
    exact Checked.bind_eq_ok.mpr ⟨_, writeBytes_of_le hfit, rfl⟩
  have hfields : (writeFields (header ++ buf.drop MavHeader.size) MavHeader.size fields :
      Checked Empty Bytes) =
        .ok (header ++ (recordBytes fields ++ buf.drop (MavHeader.size + payloadLen))) := by
    have hlength : header.length = MavHeader.size := rfl
    rw [writeFields_of_tiles htiles (by rw [List.length_append, List.length_drop]; omega),
      Nat.add_zero, List.take_left' hlength, List.drop_append, hlength,
      List.drop_eq_nil_of_le (by omega), List.nil_append, Nat.add_sub_cancel_left, List.drop_drop]
  have hnonempty : recordBytes fields ≠ [] := by
    rw [← List.length_pos_iff, hrecord]
    exact hpos
  have hrest : 2 ≤ (buf.drop (MavHeader.size + payloadLen)).length := by
    rw [List.length_drop]
    omega
  obtain ⟨kept, zeros, hkept_le, after, hsplit, hkept, hwrite⟩ :=
    writeCrc_writes seq sysId compId msgId crcExtra (.ofNat payloadLen) hnonempty
      (hrecord.le.trans hle) hrest
  refine ⟨kept, zeros, hkept_le, after, hsplit, hkept, ?_⟩
  rw [serializeFields, if_neg (by omega)]
  refine Checked.bind_eq_ok.mpr ⟨_, hheader, ?_⟩
  refine Checked.bind_eq_ok.mpr ⟨_, hfields, ?_⟩
  rw [hrecord] at hwrite
  exact Checked.bind_eq_ok.mpr ⟨_, hwrite, rfl⟩

end Frame

/-! ## The buffer -/

section Buffer

variable {payloadLen : Nat} {msgId : UInt32} {crcExtra seq sysId compId : UInt8}
  {fields : List FieldWrite} {buf written : Bytes} {n offset : Nat}

theorem length_writeCrc (h : writeCrc buf offset crcExtra = .ok (n, written)) :
    written.length = buf.length := by
  obtain ⟨payloadEnd, -, h⟩ := Checked.bind_eq_ok.mp h
  obtain ⟨patched, hpatched, h⟩ := Checked.bind_eq_ok.mp h
  obtain ⟨covered, -, h⟩ := Checked.bind_eq_ok.mp h
  obtain ⟨low, hlow, h⟩ := Checked.bind_eq_ok.mp h
  obtain ⟨high, hhigh, h⟩ := Checked.bind_eq_ok.mp h
  obtain ⟨-, rfl⟩ := Prod.mk.inj (Except.ok.inj h)
  rw [length_writeU8 hhigh, length_writeU8 hlow, length_writeU8 hpatched]

theorem length_serializeFields
    (h : serializeFields payloadLen msgId crcExtra fields seq sysId compId buf =
      .ok (some (n, written))) : written.length = buf.length := by
  unfold serializeFields at h
  split at h
  · cases h
  obtain ⟨⟨start, first⟩, hheader, hrest⟩ := Checked.bind_eq_ok.mp h
  obtain ⟨second, hfields, hlast⟩ := Checked.bind_eq_ok.mp hrest
  obtain ⟨⟨length, third⟩, hcrc, hresult⟩ := Checked.bind_eq_ok.mp hlast
  obtain ⟨headed, hbytes, hstart⟩ := Checked.bind_eq_ok.mp hheader
  have hfirst : headed = first := (Prod.mk.inj (Except.ok.inj hstart)).2
  have hthird : third = written := (Prod.mk.inj (Option.some.inj (Except.ok.inj hresult))).2
  rw [← hthird, length_writeCrc hcrc, length_writeFields hfields, ← hfirst,
    length_writeBytes hbytes]

/-- The serializer writes inside the buffer. -/
theorem length_serializeMavlink {msg : MavMessage}
    (h : serializeMavlink msg seq sysId compId buf = .ok (some (n, written))) :
    written.length = buf.length := by
  cases msg with
  | unknown id => cases h
  | _ => exact length_serializeFields h

end Buffer

/-! ## Layouts that make the round trip -/

/-- What a serializer writes for `msg`, the parser reads back from exactly those bytes, with
the same header and without a signature. -/
def RoundTrips (msg : MavMessage) (serialize : Serializer) (payloadLen : Nat) : Prop :=
  ∀ (seq sysId compId : UInt8) (buf : Bytes), MavHeader.size + payloadLen + 2 ≤ buf.length →
    ∃ (n : Nat) (written : Bytes), serialize seq sysId compId buf = .ok (some (n, written)) ∧
      ∃ frame, parseMavlinkFrame (written.take n) = .ok frame ∧ frame.message = msg ∧
        frame.signature = none ∧ frame.header.seq = seq ∧ frame.header.sysid = sysId ∧
        frame.header.compid = compId ∧ frame.header.msgid = msg.msgId ∧ frame.consumed = n

/-- A layout makes the round trip if its fields tile the payload, its length and checksum
seed are those of the tables, and the decoder reads the fields back. -/
theorem serializeFields_roundTrip {msg : MavMessage} {payloadLen : Nat} {fields : List FieldWrite}
    {msgId : UInt32} {crcExtra : UInt8} (hmsgId : msg.msgId = msgId) (hid : msgId < 0x1000000)
    (hdeclared : declaredPayloadLen msgId = some payloadLen) (hcrc : getCrcExtra msgId = crcExtra)
    (hpos : 0 < payloadLen) (htiles : Tiles 0 payloadLen fields)
    (hdecode : parseMessagePayload msgId (recordBytes fields) = .ok msg) :
    RoundTrips msg (serializeFields payloadLen msgId crcExtra fields) payloadLen := by
  intro seq sysId compId buf hbuf
  have hle := declaredPayloadLen_le hdeclared
  obtain ⟨kept, zeros, hkept_le, after, hsplit, hkept, hwrite⟩ :=
    serializeFields_writes_frame seq sysId compId msgId crcExtra htiles hpos hle hbuf
  let frame := unsignedFrame seq sysId compId msgId crcExtra kept hkept_le
  have hframeId : frame.msgid = msgId := UInt32.join_three_bytes hid
  have hextend : zeroExtend kept payloadLen = recordBytes fields := by
    have htotal := length_recordBytes htiles
    rw [hsplit, List.length_append, List.length_replicate] at htotal
    rw [zeroExtend, List.take_of_length_le (by omega), hsplit]
    congr 2
    omega
  have hpayload : parsePayload msgId kept = .ok msg := by
    rw [parsePayload_known hdeclared hkept, hextend, hdecode]
  refine ⟨_, _, hwrite, ⟨msg, none, frame.header, frame.bytes.length⟩, ?_, rfl, rfl, rfl, rfl, rfl,
    hframeId.trans hmsgId.symm, rfl⟩
  have hchecked : ¬ frame.crc0.toUInt16 ||| frame.crc1.toUInt16 <<< 8 ≠
      computeCrc frame.covered (getCrcExtra frame.msgid) := by
    rw [hframeId, hcrc, not_not]
    exact UInt16.join_bytes _
  have hflags : ¬ frame.incompatFlags &&& ~~~mavlinkIflagSigned ≠ 0 :=
    show ¬ (0 : UInt8) &&& ~~~mavlinkIflagSigned ≠ 0 by decide
  have hunsigned : ¬ isSigned frame.incompatFlags = true := show ¬ isSigned 0 = true by decide
  have hinterpret : frame.interpret = .ok ⟨msg, none, frame.header, frame.bytes.length⟩ := by
    unfold RawFrame.interpret
    rw [if_neg hflags, if_neg hchecked, hframeId]
    refine Checked.bind_eq_ok.mpr ⟨none, if_neg hunsigned, ?_⟩
    exact Checked.bind_eq_ok.mpr ⟨msg, hpayload, rfl⟩
  rw [List.take_left, ← hinterpret]
  have hparse := frame.parse_bytes []
  rwa [List.append_nil] at hparse

/-! ## The layouts of the messages -/

section Layouts

theorem vector_three_eta {α : Type} (v : Vector α 3) : #v[v[0], v[1], v[2]] = v := by
  ext i hi
  match i, hi with
  | 0, _ => rfl
  | 1, _ => rfl
  | 2, _ => rfl

theorem vector_four_eta {α : Type} (v : Vector α 4) : #v[v[0], v[1], v[2], v[3]] = v := by
  ext i hi
  match i, hi with
  | 0, _ => rfl
  | 1, _ => rfl
  | 2, _ => rfl
  | 3, _ => rfl

theorem copyFromSlice_toList {ε : Type} {n : Nat} (v : Vector UInt8 n) :
    (copyFromSlice n v.toList : Checked ε (Vector UInt8 n)) = .ok v :=
  dif_pos v.length_toList

theorem roundTrips_heartbeat (msg : Heartbeat) :
    RoundTrips (.heartbeat msg) (serializeHeartbeat msg) Heartbeat.payloadLen := by
  refine serializeFields_roundTrip rfl (by decide) rfl rfl (by decide) ?_ ?_
  · simp [Heartbeat.payloadLen]
  · show parseHeartbeat _ = _
    simp (disch := simp) [parseHeartbeat, Heartbeat.payloadLen, readU8_skip (length_u32Bytes _),
      readU8_skip (length_u8Bytes _)]

theorem roundTrips_systemTime (msg : SystemTime) :
    RoundTrips (.systemTime msg) (serializeSystemTime msg) SystemTime.payloadLen := by
  refine serializeFields_roundTrip rfl (by decide) rfl rfl (by decide) ?_ ?_
  · simp [SystemTime.payloadLen]
  · show parseSystemTime _ = _
    simp (disch := simp) [parseSystemTime, SystemTime.payloadLen,
      readU32Le_skip (length_u64Bytes _)]

theorem roundTrips_attitudeQuaternion (msg : AttitudeQuaternion) :
    RoundTrips (.attitudeQuaternion msg) (serializeAttitudeQuaternion msg)
      AttitudeQuaternion.payloadLen := by
  refine serializeFields_roundTrip rfl (by decide) rfl rfl (by decide) ?_ ?_
  · simp [AttitudeQuaternion.payloadLen]
  · show parseAttitudeQuaternion _ = _
    simp (disch := simp) [parseAttitudeQuaternion, readF32Le_skip (length_u32Bytes _),
      readF32Le_skip (length_f32Bytes _), vector_four_eta]

theorem roundTrips_localPositionNed (msg : LocalPositionNed) :
    RoundTrips (.localPositionNed msg) (serializeLocalPositionNed msg)
      LocalPositionNed.payloadLen := by
  refine serializeFields_roundTrip rfl (by decide) rfl rfl (by decide) ?_ ?_
  · simp [LocalPositionNed.payloadLen]
  · show parseLocalPositionNed _ = _
    simp (disch := simp) [parseLocalPositionNed, LocalPositionNed.payloadLen,
      readF32Le_skip (length_u32Bytes _), readF32Le_skip (length_f32Bytes _)]

theorem roundTrips_globalPositionInt (msg : GlobalPositionInt) :
    RoundTrips (.globalPositionInt msg) (serializeGlobalPositionInt msg)
      GlobalPositionInt.payloadLen := by
  refine serializeFields_roundTrip rfl (by decide) rfl rfl (by decide) ?_ ?_
  · simp [GlobalPositionInt.payloadLen]
  · show parseGlobalPositionInt _ = _
    simp (disch := simp) [parseGlobalPositionInt, GlobalPositionInt.payloadLen,
      readI32Le_skip (length_u32Bytes _), readI32Le_skip (length_i32Bytes _),
      readI16Le_skip (length_u32Bytes _), readI16Le_skip (length_i32Bytes _),
      readI16Le_skip (length_i16Bytes _), readU16Le_skip (length_u32Bytes _),
      readU16Le_skip (length_i32Bytes _), readU16Le_skip (length_i16Bytes _)]

theorem roundTrips_gpsRawInt (msg : GpsRawInt) :
    RoundTrips (.gpsRawInt msg) (serializeGpsRawInt msg) GpsRawInt.payloadLen := by
  refine serializeFields_roundTrip rfl (by decide) rfl rfl (by decide) ?_ ?_
  · simp [GpsRawInt.payloadLen]
  · show parseGpsRawInt _ = _
    simp (disch := simp) [parseGpsRawInt, GpsRawInt.payloadLen, readI32Le_skip (length_u64Bytes _),
      readI32Le_skip (length_i32Bytes _), readU16Le_skip (length_u64Bytes _),
      readU16Le_skip (length_i32Bytes _), readU16Le_skip (length_u16Bytes _),
      readU8_skip (length_u64Bytes _), readU8_skip (length_i32Bytes _),
      readU8_skip (length_u16Bytes _), readU8_skip (length_u8Bytes _),
      readI32Le_skip (length_u16Bytes _), readI32Le_skip (length_u8Bytes _),
      readU32Le_skip (length_u64Bytes _), readU32Le_skip (length_i32Bytes _),
      readU32Le_skip (length_u16Bytes _), readU32Le_skip (length_u8Bytes _),
      readU32Le_skip (length_u32Bytes _), readU16Le_skip (length_u8Bytes _),
      readU16Le_skip (length_u32Bytes _)]

theorem roundTrips_scaledPressure (msg : ScaledPressure) :
    RoundTrips (.scaledPressure msg) (serializeScaledPressure msg) ScaledPressure.payloadLen := by
  refine serializeFields_roundTrip rfl (by decide) rfl rfl (by decide) ?_ ?_
  · simp [ScaledPressure.payloadLen]
  · show parseScaledPressure _ = _
    simp (disch := simp) [parseScaledPressure, ScaledPressure.payloadLen,
      readF32Le_skip (length_u32Bytes _), readF32Le_skip (length_f32Bytes _),
      readU16Le_skip (length_u32Bytes _), readU16Le_skip (length_f32Bytes _)]

theorem roundTrips_estimatorStatus (msg : EstimatorStatus) :
    RoundTrips (.estimatorStatus msg) (serializeEstimatorStatus msg)
      EstimatorStatus.payloadLen := by
  refine serializeFields_roundTrip rfl (by decide) rfl rfl (by decide) ?_ ?_
  · simp [EstimatorStatus.payloadLen]
  · show parseEstimatorStatus _ = _
    simp (disch := simp) [parseEstimatorStatus, EstimatorStatus.payloadLen,
      readF32Le_skip (length_u64Bytes _), readF32Le_skip (length_f32Bytes _),
      readU16Le_skip (length_u64Bytes _), readU16Le_skip (length_f32Bytes _)]

theorem roundTrips_aviateEstimatorStatus (msg : AviateEstimatorStatus) :
    RoundTrips (.aviateEstimatorStatus msg) (serializeAviateEstimatorStatus msg)
      AviateEstimatorStatus.payloadLen := by
  refine serializeFields_roundTrip rfl (by decide) rfl rfl (by decide) ?_ ?_
  · simp [AviateEstimatorStatus.payloadLen]
  · show parseAviateEstimatorStatus _ = _
    simp (disch := simp) [parseAviateEstimatorStatus, AviateEstimatorStatus.payloadLen,
      readU8_skip (length_u64Bytes _), readU8_skip (length_u8Bytes _)]

theorem roundTrips_aviateGeomagneticReference (msg : AviateGeomagneticReference) :
    RoundTrips (.aviateGeomagneticReference msg) (serializeAviateGeomagneticReference msg)
      AviateGeomagneticReference.payloadLen := by
  refine serializeFields_roundTrip rfl (by decide) rfl rfl (by decide) ?_ ?_
  · simp [AviateGeomagneticReference.payloadLen]
  · show parseAviateGeomagneticReference _ = _
    simp (disch := simp) [parseAviateGeomagneticReference, AviateGeomagneticReference.payloadLen,
      readF32Le_skip (length_u64Bytes _), readU8_skip (length_u64Bytes _),
      readU8_skip (length_f32Bytes _)]

theorem roundTrips_setAttitudeTarget (msg : SetAttitudeTarget) :
    RoundTrips (.setAttitudeTarget msg) (serializeSetAttitudeTarget msg)
      SetAttitudeTarget.payloadLen := by
  refine serializeFields_roundTrip rfl (by decide) rfl rfl (by decide) ?_ ?_
  · simp [SetAttitudeTarget.payloadLen]
  · show parseSetAttitudeTarget _ = _
    simp (disch := simp) [parseSetAttitudeTarget, readF32Le_skip (length_u32Bytes _),
      readF32Le_skip (length_f32Bytes _), readU8_skip (length_u32Bytes _),
      readU8_skip (length_f32Bytes _), readU8_skip (length_u8Bytes _),
      readF32Le_skip (length_u8Bytes _), vector_four_eta, vector_three_eta]

theorem roundTrips_setPositionTargetLocalNed (msg : SetPositionTargetLocalNed) :
    RoundTrips (.setPositionTargetLocalNed msg) (serializeSetPositionTargetLocalNed msg)
      SetPositionTargetLocalNed.payloadLen := by
  refine serializeFields_roundTrip rfl (by decide) rfl rfl (by decide) ?_ ?_
  · simp [SetPositionTargetLocalNed.payloadLen]
  · show parseSetPositionTargetLocalNed _ = _
    simp (disch := simp) [parseSetPositionTargetLocalNed, readF32Le_skip (length_u32Bytes _),
      readF32Le_skip (length_f32Bytes _), readU16Le_skip (length_u32Bytes _),
      readU16Le_skip (length_f32Bytes _), readU8_skip (length_u32Bytes _),
      readU8_skip (length_f32Bytes _), readU8_skip (length_u16Bytes _),
      readU8_skip (length_u8Bytes _)]

theorem roundTrips_commandLong (msg : CommandLong) :
    RoundTrips (.commandLong msg) (serializeCommandLong msg) CommandLong.payloadLen := by
  refine serializeFields_roundTrip rfl (by decide) rfl rfl (by decide) ?_ ?_
  · simp [CommandLong.payloadLen]
  · show parseCommandLong _ = _
    simp (disch := simp) [parseCommandLong, readF32Le_skip (length_f32Bytes _),
      readU16Le_skip (length_f32Bytes _), readU8_skip (length_f32Bytes _),
      readU8_skip (length_u16Bytes _), readU8_skip (length_u8Bytes _)]

theorem roundTrips_commandAck (msg : CommandAck) :
    RoundTrips (.commandAck msg) (serializeCommandAck msg) CommandAck.payloadLen := by
  refine serializeFields_roundTrip rfl (by decide) rfl rfl (by decide) ?_ ?_
  · simp [CommandAck.payloadLen]
  · show parseCommandAck _ = _
    simp (disch := simp) [parseCommandAck, readU8_skip (length_u16Bytes _),
      readU8_skip (length_u8Bytes _), readI32Le_skip (length_u16Bytes _),
      readI32Le_skip (length_u8Bytes _), readU8_skip (length_i32Bytes _)]

theorem roundTrips_rcChannelsOverride (msg : RcChannelsOverride) :
    RoundTrips (.rcChannelsOverride msg) (serializeRcChannelsOverride msg)
      RcChannelsOverride.payloadLen := by
  refine serializeFields_roundTrip rfl (by decide) rfl rfl (by decide) ?_ ?_
  · simp [RcChannelsOverride.payloadLen]
  · show parseRcChannelsOverride _ = _
    simp (disch := simp) [parseRcChannelsOverride, readU16Le_skip (length_u16Bytes _),
      readU8_skip (length_u16Bytes _), readU8_skip (length_u8Bytes _),
      readU16Le_skip (length_u8Bytes _)]

theorem roundTrips_manualControl (msg : ManualControl) :
    RoundTrips (.manualControl msg) (serializeManualControl msg) ManualControl.payloadLen := by
  refine serializeFields_roundTrip rfl (by decide) rfl rfl (by decide) ?_ ?_
  · simp [ManualControl.payloadLen]
  · show parseManualControl _ = _
    simp (disch := simp) [parseManualControl, readI16Le_skip (length_i16Bytes _),
      readU16Le_skip (length_i16Bytes _), readU8_skip (length_i16Bytes _),
      readU8_skip (length_u16Bytes _), readU16Le_skip (length_u16Bytes _),
      readU16Le_skip (length_u8Bytes _), readU8_skip (length_u8Bytes _),
      readI16Le_skip (length_u16Bytes _), readI16Le_skip (length_u8Bytes _)]

theorem roundTrips_sysStatus (msg : SysStatus) :
    RoundTrips (.sysStatus msg) (serializeSysStatus msg) SysStatus.payloadLen := by
  refine serializeFields_roundTrip rfl (by decide) rfl rfl (by decide) ?_ ?_
  · simp [SysStatus.payloadLen]
  · show parseSysStatus _ = _
    simp (disch := simp) [parseSysStatus, readU32Le_skip (length_u32Bytes _),
      readU16Le_skip (length_u32Bytes _), readU16Le_skip (length_u16Bytes _),
      readI16Le_skip (length_u32Bytes _), readI16Le_skip (length_u16Bytes _),
      readU16Le_skip (length_i16Bytes _), readU8_skip (length_u32Bytes _),
      readU8_skip (length_u16Bytes _), readU8_skip (length_i16Bytes _),
      readU32Le_skip (length_u16Bytes _), readU32Le_skip (length_i16Bytes _),
      readU32Le_skip (length_u8Bytes _)]

theorem roundTrips_statustext (msg : Statustext) :
    RoundTrips (.statustext msg) (serializeStatustext msg) Statustext.payloadLen := by
  refine serializeFields_roundTrip rfl (by decide) rfl rfl (by decide) ?_ ?_
  · simp [Statustext.payloadLen]
  · have htext : msg.text.toList.length = 50 := msg.text.length_toList
    show parseStatustext _ = _
    simp (disch := simp) [parseStatustext, slice_block (length_u8Bytes _), copyFromSlice_toList,
      readU16Le_skip (length_u8Bytes _), readU16Le_skip htext, readU8_skip (length_u8Bytes _),
      readU8_skip htext, readU8_skip (length_u16Bytes _)]

end Layouts

/-! ## Every message -/

/-- The length of a message's payload before truncation. -/
def MavMessage.payloadLen : MavMessage → Nat
  | .heartbeat _ => Heartbeat.payloadLen
  | .systemTime _ => SystemTime.payloadLen
  | .attitudeQuaternion _ => AttitudeQuaternion.payloadLen
  | .localPositionNed _ => LocalPositionNed.payloadLen
  | .globalPositionInt _ => GlobalPositionInt.payloadLen
  | .gpsRawInt _ => GpsRawInt.payloadLen
  | .scaledPressure _ => ScaledPressure.payloadLen
  | .estimatorStatus _ => EstimatorStatus.payloadLen
  | .aviateEstimatorStatus _ => AviateEstimatorStatus.payloadLen
  | .aviateGeomagneticReference _ => AviateGeomagneticReference.payloadLen
  | .setAttitudeTarget _ => SetAttitudeTarget.payloadLen
  | .setPositionTargetLocalNed _ => SetPositionTargetLocalNed.payloadLen
  | .commandLong _ => CommandLong.payloadLen
  | .commandAck _ => CommandAck.payloadLen
  | .rcChannelsOverride _ => RcChannelsOverride.payloadLen
  | .manualControl _ => ManualControl.payloadLen
  | .sysStatus _ => SysStatus.payloadLen
  | .statustext _ => Statustext.payloadLen
  | .unknown _ => 0

theorem roundTrips_known {msg : MavMessage} (hknown : ∀ id, msg ≠ .unknown id) :
    RoundTrips msg (serializeMavlink msg) msg.payloadLen := by
  cases msg with
  | heartbeat m => exact roundTrips_heartbeat m
  | systemTime m => exact roundTrips_systemTime m
  | attitudeQuaternion m => exact roundTrips_attitudeQuaternion m
  | localPositionNed m => exact roundTrips_localPositionNed m
  | globalPositionInt m => exact roundTrips_globalPositionInt m
  | gpsRawInt m => exact roundTrips_gpsRawInt m
  | scaledPressure m => exact roundTrips_scaledPressure m
  | estimatorStatus m => exact roundTrips_estimatorStatus m
  | aviateEstimatorStatus m => exact roundTrips_aviateEstimatorStatus m
  | aviateGeomagneticReference m => exact roundTrips_aviateGeomagneticReference m
  | setAttitudeTarget m => exact roundTrips_setAttitudeTarget m
  | setPositionTargetLocalNed m => exact roundTrips_setPositionTargetLocalNed m
  | commandLong m => exact roundTrips_commandLong m
  | commandAck m => exact roundTrips_commandAck m
  | rcChannelsOverride m => exact roundTrips_rcChannelsOverride m
  | manualControl m => exact roundTrips_manualControl m
  | sysStatus m => exact roundTrips_sysStatus m
  | statustext m => exact roundTrips_statustext m
  | unknown id => exact absurd rfl (hknown id)

/-- Every message but an unknown one makes the round trip, for every sequence number, system
and component, in every buffer that holds its untruncated frame. -/
theorem mavlink_roundTrip {msg : MavMessage} (hknown : ∀ id, msg ≠ .unknown id) :
    RoundTrips msg (serializeMavlink msg) msg.payloadLen :=
  roundTrips_known hknown

/-- An acknowledgement whose last field is zero, in a buffer of 64 bytes. -/
theorem mavlink_roundTrip_commandAck :
    let ack : MavMessage := .commandAck
      { command := 400, result := 4, progress := 0, resultParam2 := -1, targetSystem := 255,
        targetComponent := 0 }
    ∃ n written, serializeMavlink ack 7 1 190 (List.replicate 64 0) = .ok (some (n, written)) ∧
      ∃ frame, parseMavlinkFrame (written.take n) = .ok frame ∧ frame.message = ack ∧
        frame.signature = none ∧ frame.header.seq = 7 ∧ frame.header.sysid = 1 ∧
        frame.header.compid = 190 ∧ frame.header.msgid = CommandAck.msgId ∧ frame.consumed = n :=
  mavlink_roundTrip (by nofun) 7 1 190 _ (by decide)

end Aviate.Mavlink

end LinkRoundTrip

section LinkTelemetryQueue

/-!
# The telemetry frame queue

A ring of fixed slots, each with the length of the frame it holds. Equal cursors mean empty or
full; the `full` flag tells which.

Results:
1. The cursors determine the length (`len_unique`), and the write cursor is the read cursor plus
   the length (`head_eq`).
2. `push` appends to the contents or changes nothing, and `popWith` hands out the oldest frame
   (`push_spec`, `popWith_spec`).
3. The queue is a bounded queue of frames (`agrees`, `telemetryQueue_refines`).
-/

namespace Aviate

open RingBuffer

inductive QueueError where
  | full
deriving DecidableEq, Repr

/-- `N` slots of `frameSize` bytes. -/
structure TelemetryQueue (N frameSize : Nat) where
  frames : Vector (Vector UInt8 frameSize) N
  lens : Vector UInt16 N
  head : Nat
  tail : Nat
  full : Bool
  head_lt : head < N
  tail_lt : tail < N
  full_eq : full = true → head = tail
  lens_le : ∀ i : Fin N, lens[i].toNat ≤ frameSize

namespace TelemetryQueue

variable {N frameSize : Nat} {q : TelemetryQueue N frameSize} {frame : Bytes}

def new (hN : 0 < N) : TelemetryQueue N frameSize where
  frames := Vector.replicate N (Vector.replicate frameSize 0)
  lens := Vector.replicate N 0
  head := 0
  tail := 0
  full := false
  head_lt := hN
  tail_lt := hN
  full_eq := nofun
  lens_le i := by simp

def isEmpty (q : TelemetryQueue N frameSize) : Bool := !q.full && q.head == q.tail

def isFull (q : TelemetryQueue N frameSize) : Bool := q.full

/-- `slot[..frame.len()].copy_from_slice(frame)`. -/
def copyFrame (slot : Vector UInt8 frameSize) (frame : Bytes) : Vector UInt8 frameSize :=
  Vector.ofFn fun i => frame[i.val]?.getD slot[i]

/-- The slot after slot `i`. -/
def advance (N i : Nat) : Nat := (i + 1) % N

theorem advance_lt (q : TelemetryQueue N frameSize) (i : Nat) : advance N i < N :=
  Nat.mod_lt _ (Nat.zero_lt_of_lt q.head_lt)

theorem lens_set_le (q : TelemetryQueue N frameSize) (i : Fin N)
    (hframe : frame.length ≤ frameSize) (j : Fin N) :
    (q.lens.set i (UInt16.ofNat frame.length))[j].toNat ≤ frameSize := by
  rw [Fin.getElem_fin, Vector.getElem_set]
  split
  · exact (Nat.mod_le _ _).trans hframe
  · exact q.lens_le j

def push (q : TelemetryQueue N frameSize) (frame : Bytes) :
    Except QueueError Unit × TelemetryQueue N frameSize :=
  if h : q.full ∨ frameSize < frame.length then (.error .full, q)
  else
    let idx : Fin N := ⟨q.head, q.head_lt⟩
    (.ok (), { q with
      frames := q.frames.set idx (copyFrame q.frames[idx] frame)
      lens := q.lens.set idx (UInt16.ofNat frame.length)
      head := advance N q.head
      full := if advance N q.head = q.tail then true else q.full
      head_lt := q.advance_lt q.head
      full_eq hfull := by
        split at hfull
        · assumption
        · exact absurd (.inl hfull) h
      lens_le := q.lens_set_le idx (Nat.le_of_not_lt fun hlong => h (.inr hlong)) })

/-- The callback `f` gets the oldest frame, when there is one. -/
def popWith {α : Type} (q : TelemetryQueue N frameSize) (f : Bytes → α) :
    Option α × TelemetryQueue N frameSize :=
  if q.isEmpty then (none, q)
  else
    let idx : Fin N := ⟨q.tail, q.tail_lt⟩
    (some (f (q.frames[idx].toList.take q.lens[idx].toNat)), { q with
      tail := advance N q.tail
      full := false
      tail_lt := q.advance_lt q.tail
      full_eq := nofun })

def len (q : TelemetryQueue N frameSize) : Nat :=
  if q.full then N
  else if q.tail ≤ q.head then q.head - q.tail
  else N - (q.tail - q.head)

def remainingCapacity (q : TelemetryQueue N frameSize) : Nat := N - q.len

/-! ## The cursors -/

/-- Two distances round the ring between the same slots. -/
theorem tail_add_mod {tail n : Nat} (htail : tail < N) (hn : n < N) :
    (tail + n) % N = if tail + n < N then tail + n else tail + n - N := by
  split
  · next hlt => exact Nat.mod_eq_of_lt hlt
  · next hge =>
    rw [Nat.mod_eq_sub_mod (Nat.le_of_not_lt hge)]
    exact Nat.mod_eq_of_lt (by omega)

/-- The length is the distance from the read to the write cursor, or the capacity. -/
theorem len_unique {n : Nat} (hn : n ≤ N) (hhead : q.head = (q.tail + n) % N)
    (hfull : q.full = true ↔ n = N) : q.len = n := by
  unfold len
  cases hq : q.full with
  | true => exact (hfull.mp hq).symm
  | false =>
    have hlt : n < N := Nat.lt_of_le_of_ne hn fun h => Bool.noConfusion (hq ▸ hfull.mpr h)
    have htail := q.tail_lt
    rw [tail_add_mod htail hlt] at hhead
    simp only [Bool.false_eq_true, ↓reduceIte]
    split at hhead <;> split <;> omega

theorem len_le (q : TelemetryQueue N frameSize) : q.len ≤ N := by
  have hhead := q.head_lt
  unfold len
  split
  · exact Nat.le_refl N
  split <;> omega

theorem full_iff (q : TelemetryQueue N frameSize) : q.full = true ↔ q.len = N := by
  unfold len
  cases q.full with
  | true => exact iff_of_true rfl rfl
  | false =>
    have hhead := q.head_lt
    have htail := q.tail_lt
    simp only [Bool.false_eq_true, ↓reduceIte, false_iff]
    split <;> omega

theorem isEmpty_iff (q : TelemetryQueue N frameSize) : q.isEmpty = true ↔ q.len = 0 := by
  have hhead := q.head_lt
  have htail := q.tail_lt
  unfold isEmpty len
  cases q.full with
  | true => simpa using Nat.ne_of_gt (Nat.zero_lt_of_lt hhead)
  | false =>
    simp only [Bool.not_false, Bool.true_and, beq_iff_eq, Bool.false_eq_true, ↓reduceIte]
    split <;> omega

/-- The write cursor stands `len` slots behind the read cursor. -/
theorem head_eq (q : TelemetryQueue N frameSize) : q.head = (q.tail + q.len) % N := by
  have hhead := q.head_lt
  have htail := q.tail_lt
  cases hq : q.full with
  | true =>
    rw [(q.full_iff).mp hq, Nat.add_mod_right, Nat.mod_eq_of_lt htail]
    exact q.full_eq hq
  | false =>
    have hlt : q.len < N :=
      Nat.lt_of_le_of_ne q.len_le fun h => Bool.noConfusion (hq ▸ q.full_iff.mpr h)
    rw [tail_add_mod htail hlt]
    unfold len
    rw [hq]
    simp only [Bool.false_eq_true, ↓reduceIte]
    split <;> split <;> omega

/-! ## The contents -/

/-- The frame a slot holds. -/
def slot (q : TelemetryQueue N frameSize) (i : Fin N) : Bytes :=
  q.frames[i].toList.take q.lens[i].toNat

def slots (q : TelemetryQueue N frameSize) : List Bytes := List.ofFn q.slot

theorem getElem_slots {j : Nat} (h : j < q.slots.length) :
    q.slots[j] = q.slot ⟨j, h.trans_eq List.length_ofFn⟩ := List.getElem_ofFn h

/-- The frames in the queue, oldest first. -/
def contents (q : TelemetryQueue N frameSize) : List Bytes := window q.slots q.tail q.len

@[simp] theorem length_slots (q : TelemetryQueue N frameSize) : q.slots.length = N :=
  List.length_ofFn

@[simp] theorem length_contents (q : TelemetryQueue N frameSize) : q.contents.length = q.len :=
  length_window (q.length_slots.symm ▸ q.len_le)

@[simp] theorem contents_new (hN : 0 < N) :
    (new hN : TelemetryQueue N frameSize).contents = [] := by
  have hlen : (new hN : TelemetryQueue N frameSize).len = 0 := by simp [len, new]
  rw [contents, hlen, window_zero]

/-- The copied frame is what the slot holds. -/
theorem take_copyFrame (slot : Vector UInt8 frameSize) (hframe : frame.length ≤ frameSize) :
    (copyFrame slot frame).toList.take frame.length = frame := by
  apply List.ext_getElem
  · simpa using hframe
  · intro i hleft hright
    simp [copyFrame, List.getElem?_eq_getElem hright]

/-- A frame copied into one slot. -/
theorem slot_store {q' : TelemetryQueue N frameSize} (hsize : frameSize ≤ 65535)
    (hfits : frame.length ≤ frameSize) (i : Fin N)
    (hframes : q'.frames = q.frames.set i (copyFrame q.frames[i] frame))
    (hlens : q'.lens = q.lens.set i (UInt16.ofNat frame.length)) (j : Fin N) :
    q'.slot j = if i.val = j.val then frame else q.slot j := by
  have hlen : (UInt16.ofNat frame.length).toNat = frame.length :=
    Nat.mod_eq_of_lt (Nat.lt_succ_of_le (hfits.trans hsize))
  unfold slot
  rw [hframes, hlens]
  split
  · next heq => simp [heq, hlen, take_copyFrame _ hfits]
  · next hne => simp [hne]

theorem slots_store {q' : TelemetryQueue N frameSize} (i : Fin N)
    (hslot : ∀ j, q'.slot j = if i.val = j.val then frame else q.slot j) :
    q'.slots = q.slots.set i frame := by
  apply List.ext_getElem
  · simp
  · intro j hleft hright
    rw [getElem_slots, hslot, List.getElem_set, getElem_slots]

/-- What moves the write cursor behind a stored frame appends the frame. -/
theorem contents_store {q' : TelemetryQueue N frameSize} (hroom : q.len < N)
    (hslots : q'.slots = q.slots.set q.head frame) (hhead : q'.head = advance N q.head)
    (htail : q'.tail = q.tail) (hfull : q'.full = true ↔ q'.head = q'.tail) :
    q'.contents = q.contents ++ [frame] := by
  have hwrite : q'.head = (q'.tail + (q.len + 1)) % N := by
    rw [hhead, advance, q.head_eq, Nat.mod_add_mod, htail, Nat.add_assoc]
  have hlen : q'.len = q.len + 1 := by
    refine len_unique hroom hwrite (hfull.trans ?_)
    rcases Nat.lt_or_eq_of_le (Nat.succ_le_of_lt hroom) with hlt | heq
    · have hpos : (q'.tail + 0) % N ≠ (q'.tail + (q.len + 1)) % N :=
        mod_ne (Nat.succ_pos q.len) hlt
      rw [Nat.add_zero, Nat.mod_eq_of_lt q'.tail_lt, ← hwrite] at hpos
      exact iff_of_false hpos.symm hlt.ne
    · rw [← Nat.succ_eq_add_one, heq, Nat.add_mod_right, Nat.mod_eq_of_lt q'.tail_lt] at hwrite
      exact iff_of_true hwrite heq
  have hset : window (q.slots.set ((q.tail + q.len) % q.slots.length) frame) q.tail (q.len + 1) =
      window q.slots q.tail q.len ++ [frame] := window_set (hroom.trans_eq q.length_slots.symm)
  rw [length_slots, ← q.head_eq] at hset
  rw [contents, contents, hlen, hslots, htail, hset]

/-- A push is refused, or it appends. -/
theorem push_spec (hsize : frameSize ≤ 65535) (q : TelemetryQueue N frameSize) (frame : Bytes) :
    (q.push frame = (.error .full, q) ∧ ¬ (q.len < N ∧ frame.length ≤ frameSize)) ∨
      ((q.push frame).1 = .ok () ∧ (q.len < N ∧ frame.length ≤ frameSize) ∧
        (q.push frame).2.contents = q.contents ++ [frame]) := by
  by_cases h : q.full ∨ frameSize < frame.length
  · refine .inl ⟨dif_pos h, ?_⟩
    rw [q.full_iff] at h
    rintro ⟨hroom, hfits⟩
    exact h.elim hroom.ne (Nat.not_lt_of_le hfits)
  · have hfits : frame.length ≤ frameSize := Nat.le_of_not_lt fun hlong => h (.inr hlong)
    have hroom : q.len < N :=
      Nat.lt_of_le_of_ne q.len_le fun hlen => h (.inl (q.full_iff.mpr hlen))
    have hnot : q.full = false := Bool.eq_false_iff.mpr fun hfull => h (.inl hfull)
    refine .inr ?_
    rw [push, dif_neg h]
    refine ⟨rfl, ⟨hroom, hfits⟩, contents_store hroom ?_ rfl rfl ?_⟩
    · exact slots_store ⟨q.head, q.head_lt⟩ (slot_store hsize hfits _ rfl rfl)
    · simp [hnot]

theorem contents_eq_nil (h : q.len = 0) : q.contents = [] := by
  rw [contents, h, window_zero]

/-- What moves the read cursor on drops the oldest frame. -/
theorem contents_release {q' : TelemetryQueue N frameSize} (hpos : 0 < q.len)
    (hslots : q'.slots = q.slots) (hhead : q'.head = q.head)
    (htail : q'.tail = advance N q.tail) (hfull : q'.full = false) :
    q'.contents = q.contents.tail := by
  have hread : q'.head = (q'.tail + (q.len - 1)) % N := by
    rw [hhead, htail, advance, Nat.mod_add_mod, Nat.add_assoc, Nat.add_sub_cancel' hpos]
    exact q.head_eq
  have hlt : q.len - 1 < N := Nat.lt_of_lt_of_le (Nat.sub_lt hpos Nat.one_pos) q.len_le
  have hlen : q'.len = q.len - 1 := by
    refine len_unique hlt.le hread (iff_of_false ?_ hlt.ne)
    rw [hfull]
    exact Bool.false_ne_true
  have hadvance : window q.slots ((q.tail + 1) % q.slots.length) (q.len - 1) =
      (window q.slots q.tail q.len).drop 1 :=
    window_advance hpos (q.len_le.trans_eq q.length_slots.symm)
  rw [length_slots] at hadvance
  rw [contents, contents, hlen, hslots, htail, ← List.drop_one]
  exact hadvance

/-- The callback gets the oldest frame, which leaves the queue. -/
theorem popWith_spec {α : Type} (q : TelemetryQueue N frameSize) (f : Bytes → α) :
    (q.popWith f).1 = q.contents.head?.map f ∧ (q.popWith f).2.contents = q.contents.tail := by
  cases hempty : q.isEmpty with
  | true =>
    rw [popWith, if_pos hempty, contents_eq_nil (q.isEmpty_iff.mp hempty)]
    exact ⟨rfl, rfl⟩
  | false =>
    have hpos : 0 < q.len :=
      Nat.pos_of_ne_zero fun hlen => Bool.noConfusion (hempty ▸ q.isEmpty_iff.mpr hlen)
    have hcells : q.len ≤ q.slots.length := q.len_le.trans_eq q.length_slots.symm
    have htail : q.tail < q.slots.length := q.tail_lt.trans_eq q.length_slots.symm
    rw [popWith, hempty, if_neg Bool.false_ne_true]
    constructor
    · rw [List.head?_eq_getElem?, contents, window_head hpos hcells htail,
        List.getElem?_eq_getElem htail]
      simp [slots, slot]
    · exact contents_release hpos rfl rfl rfl rfl

/-! ## Refinement -/

/-- The queue as its users see it. -/
def interface (N frameSize : Nat) : QueueInterface (TelemetryQueue N frameSize) Bytes where
  push q frame := ((q.push frame).1.toBool, (q.push frame).2)
  pop q := q.popWith id
  remaining := remainingCapacity

/-- The frames in the queue as a bounded list. -/
def fifo (q : TelemetryQueue N frameSize) : BoundedFifo Bytes N :=
  ⟨q.contents, q.length_contents.trans_le q.len_le⟩

/-- A frame that fits into a slot. -/
def fits (frameSize : Nat) (frame : Bytes) : Bool := frame.length ≤ frameSize

/-- The bounded list of frames that fit. -/
def fifoInterface (N frameSize : Nat) : QueueInterface (BoundedFifo Bytes N) Bytes :=
  BoundedFifo.interface (fits frameSize)

theorem interface_push : (interface N frameSize).push q frame =
    ((q.push frame).1.toBool, (q.push frame).2) := rfl

/-- On the contents the operations are those of a bounded list. -/
theorem agrees (hsize : frameSize ≤ 65535) :
    (interface N frameSize).Agrees (fifoInterface N frameSize) fifo where
  push q frame := by
    have hcondition : (q.fifo.items.length < N ∧ fits frameSize frame) ↔
        (q.len < N ∧ frame.length ≤ frameSize) := by
      rw [fits, decide_eq_true_iff, fifo, length_contents]
    rcases push_spec hsize q frame with ⟨hpush, hnot⟩ | ⟨hok, hroom, hcontents⟩
    · rw [interface_push, hpush]
      exact BoundedFifo.push_refused (mt hcondition.mp hnot)
    · rw [interface_push, hok]
      exact BoundedFifo.push_accepted (hcondition.mpr hroom) hcontents
  pop q := by
    obtain ⟨hframe, hcontents⟩ := popWith_spec q id
    refine Prod.ext ?_ (BoundedFifo.ext hcontents.symm)
    exact (hframe.trans (Option.map_id_apply ..)).symm
  remaining q := congrArg (N - ·) q.length_contents

/-- What a client can ask of a queue, on the queue and on the list of its frames. -/
structure Observes (q : TelemetryQueue N frameSize) (items : BoundedFifo Bytes N) : Prop where
  contents : q.contents = items.items
  len : q.len = items.items.length
  is_empty : q.isEmpty = items.items.isEmpty
  is_full : q.isFull = items.isFull
  remaining : q.remainingCapacity = N - items.items.length

theorem observes_fifo (q : TelemetryQueue N frameSize) : q.Observes q.fifo where
  contents := rfl
  len := q.length_contents.symm
  is_empty := by
    rw [Bool.eq_iff_iff, q.isEmpty_iff, List.isEmpty_iff_length_eq_zero]
    exact q.length_contents ▸ Iff.rfl
  is_full := by
    rw [Bool.eq_iff_iff, isFull, q.full_iff, BoundedFifo.isFull, beq_iff_eq]
    exact q.length_contents ▸ Iff.rfl
  remaining := congrArg (N - ·) q.length_contents.symm

/-- Over every run from the empty queue, what the operations return and what the queue shows
afterwards are those of a list bounded by the capacity, and a refused push changes nothing. -/
theorem telemetryQueue_refines (N frameSize : Nat) (hN : 0 < N) (hsize : frameSize ≤ 65535) :
    (∀ ops : List (QueueOp Bytes),
      (interface N frameSize).machine.outputs (new hN) ops =
          (fifoInterface N frameSize).machine.outputs .empty ops ∧
        ((interface N frameSize).machine.run (new hN) ops).Observes
          ((fifoInterface N frameSize).machine.run .empty ops)) ∧
      ∀ (q : TelemetryQueue N frameSize) (frame : Bytes),
        (q.push frame).1 = .error .full → (q.push frame).2 = q := by
  have hcontents : (new hN : TelemetryQueue N frameSize).contents = [] := contents_new hN
  have hnew : (new hN : TelemetryQueue N frameSize).fifo = .empty := BoundedFifo.ext hcontents
  refine ⟨fun ops => ⟨?_, ?_⟩, fun q frame herror => ?_⟩
  · rw [← hnew, (agrees hsize).outputs]
  · rw [← hnew, (agrees hsize).run]
    exact observes_fifo _
  · rcases push_spec hsize q frame with ⟨hpush, -⟩ | ⟨hok, -⟩
    · rw [hpush]
    · rw [hok] at herror
      cases herror

/-- A queue of a single slot. -/
theorem telemetryQueue_refines_single :
    (∀ ops : List (QueueOp Bytes),
      (interface 1 280).machine.outputs (new Nat.one_pos) ops =
          (fifoInterface 1 280).machine.outputs .empty ops ∧
        ((interface 1 280).machine.run (new Nat.one_pos) ops).Observes
          ((fifoInterface 1 280).machine.run .empty ops)) ∧
      ∀ (q : TelemetryQueue 1 280) (frame : Bytes),
        (q.push frame).1 = .error .full → (q.push frame).2 = q :=
  telemetryQueue_refines 1 280 Nat.one_pos (by decide)

end TelemetryQueue

end Aviate

end LinkTelemetryQueue

section LinkEstimatorTelemetry

/-!
# The estimate group of the telemetry

`enqueue_estimate_group` (`mavlink/telemetry/estimator.rs`) and the formatters it calls. A group is
the pair of status frames and the numeric frames selected for the cycle.

Results:
1. A known message is written, sent with the next sequence number, and appended to a queue with
   room (`sent_message`).
2. One call appends the whole group or changes nothing (`estimate_group_atomic`).
-/

namespace Aviate

def telemetryMaxFrame : Nat := 280

def telemetryMaxQueue : Nat := 32

abbrev DefaultTelemetryQueue := TelemetryQueue telemetryMaxQueue telemetryMaxFrame

inductive TelemetryError where
  | bufferTooSmall
  | protocol
deriving DecidableEq, Repr

structure GeodeticOrigin where
  latitudeDeg : F64
  longitudeDeg : F64
  altitudeMslM : F32
deriving DecidableEq, Repr

/-- What the estimate group reads of the snapshot. -/
structure TelemetrySnapshot where
  timeMs : UInt32
  state : StateEstimate F32
  baroPressurePa : Option F32
  baroTemperatureC : F32
  geodeticOrigin : Option GeodeticOrigin

structure GeodeticPosition where
  latitudeDeg : F64
  longitudeDeg : F64
  ellipsoidalHeightM : F64
deriving DecidableEq, Repr

/-- The origin on the ellipsoid. -/
def GeodeticOrigin.wgs84 (origin : GeodeticOrigin) : GeodeticPosition where
  latitudeDeg := origin.latitudeDeg
  longitudeDeg := origin.longitudeDeg
  ellipsoidalHeightM := .ofFloat origin.altitudeMslM.toDouble

structure Ned where
  northM : F64
  eastM : F64
  downM : F64
deriving DecidableEq, Repr

/-- The local tangent planes of the external `world_core` crate. A plane has an origin that is a
well-formed position. -/
structure WorldCore where
  LocalTangentPlane : Type
  newPlane : GeodeticPosition → Option LocalTangentPlane
  toGeodetic : LocalTangentPlane → Ned → GeodeticPosition

namespace Mavlink

open ByteBuffer Libm

variable {world : WorldCore} {snapshot : TelemetrySnapshot} {ids : UInt8 × UInt8}
  {msg : MavMessage} {msgs msgs' : List MavMessage} {k : Nat}

/-! ## Messages -/

def standardEstimatorFlags (state : StateEstimate F32) : UInt16 :=
  if state.quality ≠ .good then 0
  else
    (if state.validFlags.contains StateValidFlags.attitude then 1 else 0) |||
      (if state.validFlags.contains StateValidFlags.velocity then 2 ||| 4 else 0) |||
      (if state.validFlags.contains StateValidFlags.position then 8 else 0)

def wireValidFlags (flags : StateValidFlags) : UInt8 :=
  (if flags.contains StateValidFlags.attitude then 1 else 0) |||
    (if flags.contains StateValidFlags.angularRate then 2 else 0) |||
    (if flags.contains StateValidFlags.position then 4 else 0) |||
    (if flags.contains StateValidFlags.velocity then 8 else 0)

def wireQuality : EstimateQuality → UInt8
  | .good => 2
  | .degraded => 1
  | .unusable => 0

/-- Ratios and accuracies that the estimator does not export are NaN. -/
def estimatorStatus (state : StateEstimate F32) (timeMs : UInt32) : MavMessage :=
  .estimatorStatus
    { timeUsec := timeMs.toUInt64 * 1000
      velRatio := F32.nan
      posHorizRatio := F32.nan
      posVertRatio := F32.nan
      magRatio := F32.nan
      haglRatio := F32.nan
      tasRatio := F32.nan
      posHorizAccuracy := F32.nan
      posVertAccuracy := F32.nan
      flags := standardEstimatorFlags state }

def aviateEstimatorStatus (state : StateEstimate F32) (timeMs : UInt32) : MavMessage :=
  .aviateEstimatorStatus
    { timeUsec := timeMs.toUInt64 * 1000
      validFlags := wireValidFlags state.validFlags
      quality := wireQuality state.quality }

def attitudeMessage (state : StateEstimate F32) (timeMs : UInt32) : MavMessage :=
  .attitudeQuaternion
    { timeBootMs := timeMs
      q1 := state.attitude.w
      q2 := state.attitude.x
      q3 := state.attitude.y
      q4 := state.attitude.z
      rollspeed := state.angularVelocity[0]
      pitchspeed := state.angularVelocity[1]
      yawspeed := state.angularVelocity[2]
      reprOffsetQ := .replicate 4 (lit 0) }

def localPositionMessage (state : StateEstimate F32) (timeMs : UInt32) : MavMessage :=
  .localPositionNed
    { timeBootMs := timeMs
      x := state.positionNed[0]
      y := state.positionNed[1]
      z := state.positionNed[2]
      vx := state.velocityNed[0]
      vy := state.velocityNed[1]
      vz := state.velocityNed[2] }

/-- MAVLink carries hectopascals and hundredths of a degree. -/
def scaledPressureMessage (pressurePa temperatureC : F32) (timeMs : UInt32) : MavMessage :=
  .scaledPressure
    { timeBootMs := timeMs
      pressAbs := pressurePa / lit 100
      pressDiff := lit 0
      temperature := (temperatureC * lit 100).toI16 }

def degreesE7 (deg : F64) : Int32 := (deg.toFloat * 1e7).toInt32

def metersToMm (m : F32) : Int32 := (m * lit 1000).toI32

def cmPerS (mps : F32) : Int16 :=
  let scaled := mps * lit 100
  let floored := if Scalar.lt scaled (lit (-32768)) then lit (-32768) else scaled
  (if Scalar.lt (lit 32767) floored then lit 32767 else floored).toI16

/-- `f32::to_degrees` multiplies by this. -/
def degreesPerRadian : F32 := ⟨0x42652EE1⟩

def centidegrees (rad : F32) : UInt16 :=
  let cdeg := (rad * degreesPerRadian * lit 100).rem (lit 36000)
  let cdeg := if Scalar.lt cdeg (lit 0) then cdeg + lit 36000 else cdeg
  min cdeg.toU16 35999

def yawRad (q : Quaternion F32) : F32 :=
  atan2f (lit 2 * (q.w * q.z + q.x * q.y)) (lit 1 - lit 2 * (q.y * q.y + q.z * q.z))

/-- No position for an origin that is not well formed. -/
def nedToGeodetic (world : WorldCore) (origin : GeodeticOrigin) (nedM : Vector F32 3) :
    Option GeodeticPosition := do
  let plane ← world.newPlane origin.wgs84
  return world.toGeodetic plane
    { northM := .ofFloat nedM[0].toDouble
      eastM := .ofFloat nedM[1].toDouble
      downM := .ofFloat nedM[2].toDouble }

def globalPositionMessage (state : StateEstimate F32) (position : GeodeticPosition)
    (timeMs : UInt32) : MavMessage :=
  .globalPositionInt
    { timeBootMs := timeMs
      lat := degreesE7 position.latitudeDeg
      lon := degreesE7 position.longitudeDeg
      alt := metersToMm (.ofDouble position.ellipsoidalHeightM.toFloat)
      relativeAlt := metersToMm (-state.positionNed[2])
      vx := cmPerS state.velocityNed[0]
      vy := cmPerS state.velocityNed[1]
      vz := cmPerS state.velocityNed[2]
      hdg := centidegrees (yawRad state.attitude) }

/-! ## Formatters -/

/-- The result of a formatter with the sequence number and the buffer after it. -/
abbrev Formatted := Checked Empty (Except TelemetryError Nat × UInt8 × Bytes)

/-- Serialize a message under the next sequence number; `err` is the error when the buffer is too
small. -/
def formatMessage (msg : MavMessage) (err : TelemetryError) (ids : UInt8 × UInt8) (seq : UInt8)
    (buf : Bytes) : Formatted := do
  match ← serializeMavlink msg seq ids.1 ids.2 buf with
  | none => return (.error err, seq, buf)
  | some (len, buf) => return (.ok len, seq + 1, buf)

def formatEstimatorStatus (state : StateEstimate F32) (timeMs : UInt32) :
    UInt8 × UInt8 → UInt8 → Bytes → Formatted :=
  formatMessage (estimatorStatus state timeMs) .protocol

def formatAviateEstimatorStatus (state : StateEstimate F32) (timeMs : UInt32) :
    UInt8 × UInt8 → UInt8 → Bytes → Formatted :=
  formatMessage (aviateEstimatorStatus state timeMs) .protocol

def formatAttitude (state : StateEstimate F32) (timeMs : UInt32) :
    UInt8 × UInt8 → UInt8 → Bytes → Formatted :=
  formatMessage (attitudeMessage state timeMs) .protocol

def formatLocalPosition (state : StateEstimate F32) (timeMs : UInt32) :
    UInt8 × UInt8 → UInt8 → Bytes → Formatted :=
  formatMessage (localPositionMessage state timeMs) .protocol

def formatScaledPressure (pressurePa temperatureC : F32) (timeMs : UInt32) :
    UInt8 × UInt8 → UInt8 → Bytes → Formatted :=
  formatMessage (scaledPressureMessage pressurePa temperatureC timeMs) .bufferTooSmall

def formatGlobalPosition (world : WorldCore) (state : StateEstimate F32) (origin : GeodeticOrigin)
    (timeMs : UInt32) (ids : UInt8 × UInt8) (seq : UInt8) (buf : Bytes) : Formatted :=
  match nedToGeodetic world origin state.positionNed with
  | none => .ok (.error .protocol, seq, buf)
  | some position =>
    formatMessage (globalPositionMessage state position timeMs) .protocol ids seq buf

/-! ## The group -/

/-- What the formatters write to: the sequence counter, the queue and the frame buffer. -/
structure Outbox where
  seq : UInt8
  queue : DefaultTelemetryQueue
  buf : Bytes

/-- Format a frame and push it. -/
def Outbox.enqueue (o : Outbox) (format : UInt8 → Bytes → Formatted) :
    Checked Empty (Bool × Outbox) := do
  let (result, seq, buf) ← format o.seq o.buf
  match result with
  | .error _ => return (false, { o with seq, buf })
  | .ok len =>
    let frame ← slice buf 0 len
    return ((o.queue.push frame).1.toBool, ⟨seq, (o.queue.push frame).2, buf⟩)

def enqueueEstimatorStatus (snapshot : TelemetrySnapshot) (ids : UInt8 × UInt8) (o : Outbox) :
    Checked Empty (Bool × Outbox) := do
  let (standard, o) ← o.enqueue (formatEstimatorStatus snapshot.state snapshot.timeMs ids)
  if standard then o.enqueue (formatAviateEstimatorStatus snapshot.state snapshot.timeMs ids)
  else return (false, o)

/-- A frame that is dropped when it cannot be pushed. -/
def Outbox.offer (o : Outbox) (format : UInt8 → Bytes → Formatted) : Checked Empty Outbox :=
  return (← o.enqueue format).2

def enqueueAttitude (snapshot : TelemetrySnapshot) (ids : UInt8 × UInt8) (o : Outbox) :
    Checked Empty Outbox :=
  o.offer (formatAttitude snapshot.state snapshot.timeMs ids)

def enqueuePosition (snapshot : TelemetrySnapshot) (ids : UInt8 × UInt8) (o : Outbox) :
    Checked Empty Outbox :=
  o.offer (formatLocalPosition snapshot.state snapshot.timeMs ids)

/-- How many numeric frames are selected. -/
def numericCount (snapshot : TelemetrySnapshot) (emitAttitude emitPosition : Bool) : Nat :=
  emitAttitude.toNat + emitPosition.toNat +
    (emitPosition && snapshot.baroPressurePa.isSome).toNat +
    (snapshot.geodeticOrigin.filter fun _ => emitPosition).isSome.toNat

def enqueueEstimateGroup (world : WorldCore) (snapshot : TelemetrySnapshot)
    (emitAttitude emitPosition emitPeriodicStatus : Bool) (ids : UInt8 × UInt8) (seq : UInt8)
    (queue : DefaultTelemetryQueue) : Checked Empty (UInt8 × DefaultTelemetryQueue) :=
  let emitPressure := emitPosition && snapshot.baroPressurePa.isSome
  let globalOrigin := snapshot.geodeticOrigin.filter fun _ => emitPosition
  let count := numericCount snapshot emitAttitude emitPosition
  if count = 0 && !emitPeriodicStatus then .ok (seq, queue)
  -- a snapshot is not admitted in part when the queue is backed up
  else if queue.remainingCapacity < count + 2 then .ok (seq, queue)
  else do
    let (admitted, o) ← enqueueEstimatorStatus snapshot ids
      ⟨seq, queue, List.replicate telemetryMaxFrame 0⟩
    if !admitted then return (o.seq, o.queue)
    else do
      let o ← (if emitAttitude then enqueueAttitude snapshot ids o else .ok o)
      let o ← (if emitPosition then enqueuePosition snapshot ids o else .ok o)
      let o ← (match globalOrigin with
        | some origin =>
          o.offer (formatGlobalPosition world snapshot.state origin snapshot.timeMs ids)
        | none => .ok o)
      let o ← (match emitPressure, snapshot.baroPressurePa with
        | true, some pressure =>
          o.offer (formatScaledPressure pressure snapshot.baroTemperatureC snapshot.timeMs ids)
        | _, _ => .ok o)
      return (o.seq, o.queue)

/-! ## Frames in the queue -/

/-- The frames carry the messages, under consecutive sequence numbers. -/
def Carries (ids : UInt8 × UInt8) : UInt8 → List MavMessage → List Bytes → Prop
  | _, [], [] => True
  | seq, msg :: msgs, frame :: frames =>
    (∃ parsed, parseMavlinkFrame frame = .ok parsed ∧ parsed.consumed = frame.length ∧
      parsed.message = msg ∧ parsed.header.seq = seq ∧ parsed.header.sysid = ids.1 ∧
      parsed.header.compid = ids.2) ∧ Carries ids (seq + 1) msgs frames
  | _, _, _ => False

theorem Carries.append {seq : UInt8} {frames frames' : List Bytes}
    (h : Carries ids seq msgs frames)
    (h' : Carries ids (seq + .ofNat msgs.length) msgs' frames') :
    Carries ids seq (msgs ++ msgs') (frames ++ frames') := by
  induction msgs generalizing seq frames with
  | nil =>
    cases frames with
    | nil =>
      have hseq : seq + .ofNat ([] : List MavMessage).length = seq := UInt8.add_zero seq
      rwa [hseq] at h'
    | cons frame frames => exact h.elim
  | cons msg msgs ih =>
    cases frames with
    | nil => exact h.elim
    | cons frame frames =>
      refine ⟨h.1, ih h.2 ?_⟩
      rw [List.length_cons, UInt8.ofNat_add, UInt8.add_comm (.ofNat msgs.length),
        ← UInt8.add_assoc] at h'
      exact h'

/-- `msgs` have been sent between the two states. -/
structure Sent (ids : UInt8 × UInt8) (o : Outbox) (msgs : List MavMessage) (o' : Outbox) :
    Prop where
  seq : o'.seq = o.seq + .ofNat msgs.length
  buf : o'.buf.length = o.buf.length
  queued : ∃ frames, Carries ids o.seq msgs frames ∧ frames.length = msgs.length ∧
    o'.queue.contents = o.queue.contents ++ frames

/-- There is a frame buffer, and room for `k` frames. -/
structure Room (k : Nat) (o : Outbox) : Prop where
  buf : o.buf.length = telemetryMaxFrame
  queue : o.queue.len + k ≤ telemetryMaxQueue

theorem Sent.refl (o : Outbox) : Sent ids o [] o where
  seq := (UInt8.add_zero o.seq).symm
  buf := rfl
  queued := ⟨[], trivial, rfl, (List.append_nil _).symm⟩

theorem Sent.trans {o o' o'' : Outbox} (h : Sent ids o msgs o') (h' : Sent ids o' msgs' o'') :
    Sent ids o (msgs ++ msgs') o'' where
  seq := by
    rw [h'.seq, h.seq, List.length_append, UInt8.ofNat_add, UInt8.add_assoc]
  buf := h'.buf.trans h.buf
  queued := by
    obtain ⟨frames, hcarries, hlength, hcontents⟩ := h.queued
    obtain ⟨frames', hcarries', hlength', hcontents'⟩ := h'.queued
    rw [h.seq] at hcarries'
    refine ⟨frames ++ frames', hcarries.append hcarries', ?_, ?_⟩
    · rw [List.length_append, List.length_append, hlength, hlength']
    · rw [hcontents', hcontents, List.append_assoc]

/-- What is left of the room. -/
theorem Room.after {o o' : Outbox} (hroom : Room (msgs.length + k) o) (h : Sent ids o msgs o') :
    Room k o' where
  buf := h.buf.trans hroom.buf
  queue := by
    obtain ⟨frames, -, hlength, hcontents⟩ := h.queued
    have hlen : o'.queue.len = o.queue.len + msgs.length := by
      rw [← TelemetryQueue.length_contents, hcontents, List.length_append, hlength,
        TelemetryQueue.length_contents]
    rw [hlen, Nat.add_assoc]
    exact hroom.queue

theorem payloadLen_le (msg : MavMessage) : msg.payloadLen ≤ maxPayloadLen := by
  cases msg <;> exact Nat.le_of_ble_eq_true rfl

/-- A known message is written, sent under the next sequence number, and appended. -/
theorem sent_message (hknown : ∀ id, msg ≠ .unknown id) (err : TelemetryError) {o : Outbox}
    (hroom : Room (k + 1) o) :
    ∃ o', o.enqueue (formatMessage msg err ids) = .ok (true, o') ∧ Sent ids o [msg] o' := by
  have hfits : MavHeader.size + msg.payloadLen + 2 ≤ o.buf.length := by
    have hpayload := payloadLen_le msg
    rw [hroom.buf]
    simp only [MavHeader.size, maxPayloadLen, telemetryMaxFrame] at hpayload ⊢
    omega
  obtain ⟨n, written, hserialize, parsed, hparse, hmessage, -, hseq, hsysid, hcompid, -,
    hconsumed⟩ := roundTrips_known hknown o.seq ids.1 ids.2 o.buf hfits
  have hlength : written.length = o.buf.length := length_serializeMavlink hserialize
  have hn : (written.take n).length = n := by
    have hle := consumed_le hparse
    rw [hconsumed, List.length_take] at hle
    rw [List.length_take]
    omega
  have hslice : (slice written 0 n : Checked Empty Bytes) = .ok (written.take n) := by
    rw [slice, if_pos ⟨Nat.zero_le n, by rw [List.length_take] at hn; omega⟩, List.drop_zero]
  have hle : (written.take n).length ≤ telemetryMaxFrame := by
    rw [← hroom.buf, ← hlength]
    exact List.length_take_le' _ _
  have hlen : o.queue.len < telemetryMaxQueue :=
    Nat.lt_of_lt_of_le (Nat.lt_add_of_pos_right k.succ_pos) hroom.queue
  rcases o.queue.push_spec (by decide) (written.take n) with ⟨-, hnot⟩ | ⟨hpush, -, hcontents⟩
  · exact absurd ⟨hlen, hle⟩ hnot
  refine ⟨⟨o.seq + 1, (o.queue.push (written.take n)).2, written⟩, ?_, ?_⟩
  · have hformat : formatMessage msg err ids o.seq o.buf = .ok (.ok n, o.seq + 1, written) :=
      Checked.bind_eq_ok.mpr ⟨_, hserialize, rfl⟩
    refine Checked.bind_eq_ok.mpr ⟨_, hformat, ?_⟩
    refine Checked.bind_eq_ok.mpr ⟨_, hslice, ?_⟩
    rw [hpush]
    rfl
  · refine ⟨rfl, hlength, [written.take n], ⟨?_, trivial⟩, rfl, hcontents⟩
    exact ⟨parsed, hparse, hconsumed.trans hn.symm, hmessage, hseq, hsysid, hcompid⟩

/-- A message that is offered under a condition. -/
theorem sent_offer (hknown : ∀ id, msg ≠ .unknown id) (err : TelemetryError) {o : Outbox}
    (hroom : Room (k + 1) o) :
    ∃ o', o.offer (formatMessage msg err ids) = .ok o' ∧ Sent ids o [msg] o' ∧ Room k o' := by
  obtain ⟨o', henqueue, hsent⟩ := sent_message hknown err hroom
  refine ⟨o', Checked.bind_eq_ok.mpr ⟨_, henqueue, rfl⟩, hsent, ?_⟩
  rw [Nat.add_comm] at hroom
  exact hroom.after hsent

/-! ## The messages of a group -/

/-- The status pair. -/
def statusMessages (snapshot : TelemetrySnapshot) : List MavMessage :=
  [estimatorStatus snapshot.state snapshot.timeMs,
    aviateEstimatorStatus snapshot.state snapshot.timeMs]

def attitudeMessages (snapshot : TelemetrySnapshot) (emitAttitude : Bool) : List MavMessage :=
  if emitAttitude then [attitudeMessage snapshot.state snapshot.timeMs] else []

def localPositionMessages (snapshot : TelemetrySnapshot) (emitPosition : Bool) :
    List MavMessage :=
  if emitPosition then [localPositionMessage snapshot.state snapshot.timeMs] else []

/-- The global position needs an origin. -/
def globalPositionMessages (world : WorldCore) (snapshot : TelemetrySnapshot)
    (emitPosition : Bool) : List MavMessage :=
  (do
    let origin ← snapshot.geodeticOrigin.filter fun _ => emitPosition
    let position ← nedToGeodetic world origin snapshot.state.positionNed
    return globalPositionMessage snapshot.state position snapshot.timeMs).toList

/-- The pressure needs a barometer reading. -/
def pressureMessages (snapshot : TelemetrySnapshot) (emitPosition : Bool) : List MavMessage :=
  (do
    let pressure ← snapshot.baroPressurePa.filter fun _ => emitPosition
    return scaledPressureMessage pressure snapshot.baroTemperatureC snapshot.timeMs).toList

/-- The numeric messages of the selected streams, in order. -/
def numericMessages (world : WorldCore) (snapshot : TelemetrySnapshot)
    (emitAttitude emitPosition : Bool) : List MavMessage :=
  attitudeMessages snapshot emitAttitude ++ localPositionMessages snapshot emitPosition ++
    globalPositionMessages world snapshot emitPosition ++ pressureMessages snapshot emitPosition

/-- The geodetic origin, if there is one, is a well-formed position. -/
def OriginWellFormed (world : WorldCore) (snapshot : TelemetrySnapshot) : Prop :=
  ∀ origin, snapshot.geodeticOrigin = some origin → (world.newPlane origin.wgs84).isSome

section Stages

variable {emitAttitude emitPosition : Bool} {o : Outbox}

/-- A well-formed origin has a global position. -/
theorem nedToGeodetic_of_wellFormed (horigin : OriginWellFormed world snapshot)
    {origin : GeodeticOrigin} (h : snapshot.geodeticOrigin = some origin) (nedM : Vector F32 3) :
    ∃ position, nedToGeodetic world origin nedM = some position := by
  obtain ⟨plane, hplane⟩ := Option.isSome_iff_exists.mp (horigin origin h)
  rw [nedToGeodetic, hplane]
  exact ⟨_, rfl⟩

theorem sent_status (snapshot : TelemetrySnapshot) (ids : UInt8 × UInt8)
    (hroom : Room (k + 2) o) :
    ∃ o', enqueueEstimatorStatus snapshot ids o = .ok (true, o') ∧
      Sent ids o (statusMessages snapshot) o' ∧ Room k o' := by
  obtain ⟨first, hfirst, hsent⟩ : ∃ o', o.enqueue
      (formatEstimatorStatus snapshot.state snapshot.timeMs ids) = .ok (true, o') ∧
        Sent ids o [estimatorStatus snapshot.state snapshot.timeMs] o' :=
    sent_message (fun _ => MavMessage.noConfusion) .protocol hroom
  have hroom' : Room (1 + (k + 1)) o := by rwa [Nat.add_comm]
  obtain ⟨second, hsecond, hsent'⟩ : ∃ o', first.enqueue
      (formatAviateEstimatorStatus snapshot.state snapshot.timeMs ids) = .ok (true, o') ∧
        Sent ids first [aviateEstimatorStatus snapshot.state snapshot.timeMs] o' :=
    sent_message (fun _ => MavMessage.noConfusion) .protocol (hroom'.after hsent)
  refine ⟨second, Checked.bind_eq_ok.mpr ⟨_, hfirst, hsecond⟩, hsent.trans hsent', ?_⟩
  rw [Nat.add_comm] at hroom
  exact hroom.after (hsent.trans hsent')

theorem sent_attitude (snapshot : TelemetrySnapshot) (ids : UInt8 × UInt8)
    (hroom : Room (k + emitAttitude.toNat) o) :
    ∃ o', (if emitAttitude then enqueueAttitude snapshot ids o else .ok o) = .ok o' ∧
      Sent ids o (attitudeMessages snapshot emitAttitude) o' ∧ Room k o' := by
  cases emitAttitude with
  | false => exact ⟨o, rfl, .refl o, hroom⟩
  | true => exact sent_offer (fun _ => MavMessage.noConfusion) .protocol hroom

theorem sent_position (snapshot : TelemetrySnapshot) (ids : UInt8 × UInt8)
    (hroom : Room (k + emitPosition.toNat) o) :
    ∃ o', (if emitPosition then enqueuePosition snapshot ids o else .ok o) = .ok o' ∧
      Sent ids o (localPositionMessages snapshot emitPosition) o' ∧ Room k o' := by
  cases emitPosition with
  | false => exact ⟨o, rfl, .refl o, hroom⟩
  | true => exact sent_offer (fun _ => MavMessage.noConfusion) .protocol hroom

theorem sent_globalPosition (ids : UInt8 × UInt8) (horigin : OriginWellFormed world snapshot)
    (hroom : Room (k + (snapshot.geodeticOrigin.filter fun _ => emitPosition).isSome.toNat) o) :
    ∃ o', (match snapshot.geodeticOrigin.filter fun _ => emitPosition with
        | some origin =>
          o.offer (formatGlobalPosition world snapshot.state origin snapshot.timeMs ids)
        | none => .ok o) = .ok o' ∧
      Sent ids o (globalPositionMessages world snapshot emitPosition) o' ∧ Room k o' := by
  unfold globalPositionMessages
  cases hselected : snapshot.geodeticOrigin.filter fun _ => emitPosition with
  | none =>
    rw [hselected] at hroom
    exact ⟨o, rfl, .refl o, hroom⟩
  | some origin =>
    rw [hselected] at hroom
    obtain ⟨position, hposition⟩ := nedToGeodetic_of_wellFormed horigin
      (Option.filter_eq_some_iff.mp hselected).1 snapshot.state.positionNed
    have hformat : formatGlobalPosition world snapshot.state origin snapshot.timeMs ids =
        formatMessage (globalPositionMessage snapshot.state position snapshot.timeMs) .protocol
          ids := by
      funext seq buf
      rw [formatGlobalPosition, hposition]
    simp only [hformat, Option.bind_eq_bind, Option.bind_some, hposition]
    exact sent_offer (fun _ => MavMessage.noConfusion) .protocol hroom

theorem sent_pressure (ids : UInt8 × UInt8)
    (hroom : Room (k + (emitPosition && snapshot.baroPressurePa.isSome).toNat) o) :
    ∃ o', (match emitPosition && snapshot.baroPressurePa.isSome, snapshot.baroPressurePa with
        | true, some pressure =>
          o.offer (formatScaledPressure pressure snapshot.baroTemperatureC snapshot.timeMs ids)
        | _, _ => .ok o) = .ok o' ∧
      Sent ids o (pressureMessages snapshot emitPosition) o' ∧ Room k o' := by
  unfold pressureMessages
  cases hpressure : snapshot.baroPressurePa with
  | none =>
    rw [hpressure, Option.isSome_none, Bool.and_false] at hroom
    rw [Option.isSome_none, Bool.and_false]
    exact ⟨o, rfl, .refl o, hroom⟩
  | some pressure =>
    rw [hpressure, Option.isSome_some, Bool.and_true] at hroom
    cases emitPosition with
    | false => exact ⟨o, rfl, .refl o, hroom⟩
    | true => exact sent_offer (fun _ => MavMessage.noConfusion) .bufferTooSmall hroom

/-- The numeric frames are counted before they are sent. -/
theorem length_numericMessages (horigin : OriginWellFormed world snapshot) :
    (numericMessages world snapshot emitAttitude emitPosition).length =
      numericCount snapshot emitAttitude emitPosition := by
  have hattitude : (attitudeMessages snapshot emitAttitude).length = emitAttitude.toNat := by
    cases emitAttitude <;> rfl
  have hlocal : (localPositionMessages snapshot emitPosition).length = emitPosition.toNat := by
    cases emitPosition <;> rfl
  have hpressure : (pressureMessages snapshot emitPosition).length =
      (emitPosition && snapshot.baroPressurePa.isSome).toNat := by
    unfold pressureMessages
    cases snapshot.baroPressurePa <;> cases emitPosition <;> rfl
  have hglobal : (globalPositionMessages world snapshot emitPosition).length =
      (snapshot.geodeticOrigin.filter fun _ => emitPosition).isSome.toNat := by
    unfold globalPositionMessages
    cases hselected : snapshot.geodeticOrigin.filter fun _ => emitPosition with
    | none => rfl
    | some origin =>
      obtain ⟨position, hposition⟩ := nedToGeodetic_of_wellFormed horigin
        (Option.filter_eq_some_iff.mp hselected).1 snapshot.state.positionNed
      simp only [Option.bind_eq_bind, Option.bind_some, hposition]
      rfl
  rw [numericMessages, List.length_append, List.length_append, List.length_append, hattitude,
    hlocal, hglobal, hpressure, numericCount]
  exact Nat.add_right_comm _ _ _

end Stages

/-- The group is due, and the queue has room for all of it. -/
def GroupAdmitted (snapshot : TelemetrySnapshot)
    (emitAttitude emitPosition emitPeriodicStatus : Bool) (queue : DefaultTelemetryQueue) : Prop :=
  (numericCount snapshot emitAttitude emitPosition ≠ 0 ∨ emitPeriodicStatus) ∧
    numericCount snapshot emitAttitude emitPosition + 2 ≤ queue.remainingCapacity

theorem group_refused {emitAttitude emitPosition emitPeriodicStatus : Bool} {seq : UInt8}
    {queue : DefaultTelemetryQueue}
    (h : ¬ GroupAdmitted snapshot emitAttitude emitPosition emitPeriodicStatus queue) :
    enqueueEstimateGroup world snapshot emitAttitude emitPosition emitPeriodicStatus ids seq queue =
      .ok (seq, queue) := by
  unfold enqueueEstimateGroup
  dsimp only
  split
  · rfl
  · next hdue =>
    refine if_pos (Nat.lt_of_not_le fun hroom => h ⟨?_, hroom⟩)
    simpa [Decidable.or_iff_not_imp_left] using hdue

theorem group_sent {emitAttitude emitPosition emitPeriodicStatus : Bool} {seq : UInt8}
    {queue : DefaultTelemetryQueue} (horigin : OriginWellFormed world snapshot)
    (h : GroupAdmitted snapshot emitAttitude emitPosition emitPeriodicStatus queue) :
    ∃ o : Outbox,
      enqueueEstimateGroup world snapshot emitAttitude emitPosition emitPeriodicStatus ids seq
          queue = .ok (o.seq, o.queue) ∧
        Sent ids ⟨seq, queue, List.replicate telemetryMaxFrame 0⟩
          (statusMessages snapshot ++
            numericMessages world snapshot emitAttitude emitPosition) o := by
  obtain ⟨hdue, hcapacity⟩ := h
  have hroom : Room ((emitPosition && snapshot.baroPressurePa.isSome).toNat +
      (snapshot.geodeticOrigin.filter fun _ => emitPosition).isSome.toNat + emitPosition.toNat +
        emitAttitude.toNat + 2)
      ⟨seq, queue, List.replicate telemetryMaxFrame 0⟩ := by
    refine ⟨List.length_replicate, ?_⟩
    have hlen := queue.len_le
    rw [TelemetryQueue.remainingCapacity, numericCount] at hcapacity
    dsimp only
    omega
  obtain ⟨o₁, hstatus, hsent₁, hroom₁⟩ := sent_status snapshot ids hroom
  obtain ⟨o₂, hattitude, hsent₂, hroom₂⟩ := sent_attitude snapshot ids hroom₁
  obtain ⟨o₃, hlocal, hsent₃, hroom₃⟩ := sent_position snapshot ids hroom₂
  obtain ⟨o₄, hglobal, hsent₄, hroom₄⟩ := sent_globalPosition ids horigin hroom₃
  rw [← Nat.zero_add (Bool.toNat _)] at hroom₄
  obtain ⟨o₅, hpressure, hsent₅, -⟩ := sent_pressure ids hroom₄
  refine ⟨o₅, ?_, ?_⟩
  · unfold enqueueEstimateGroup
    dsimp only
    rw [if_neg, if_neg (Nat.not_lt_of_le hcapacity)]
    · refine Checked.bind_eq_ok.mpr ⟨_, hstatus, ?_⟩
      refine Checked.bind_eq_ok.mpr ⟨_, hattitude, ?_⟩
      refine Checked.bind_eq_ok.mpr ⟨_, hlocal, ?_⟩
      refine Checked.bind_eq_ok.mpr ⟨_, hglobal, ?_⟩
      exact Checked.bind_eq_ok.mpr ⟨_, hpressure, rfl⟩
    · simpa [Decidable.or_iff_not_imp_left] using hdue
  · have hnumeric := ((hsent₂.trans hsent₃).trans hsent₄).trans hsent₅
    exact hsent₁.trans hnumeric

/-- What one call for the group does: nothing unless the group is admitted, and else it appends
the status pair and every selected numeric frame. -/
def AllOrNothing (world : WorldCore) (snapshot : TelemetrySnapshot)
    (emitAttitude emitPosition emitPeriodicStatus : Bool) (ids : UInt8 × UInt8) (seq : UInt8)
    (queue : DefaultTelemetryQueue) : Prop :=
  let call := enqueueEstimateGroup world snapshot emitAttitude emitPosition emitPeriodicStatus ids
    seq queue
  let group := statusMessages snapshot ++
    numericMessages world snapshot emitAttitude emitPosition
  group.length = numericCount snapshot emitAttitude emitPosition + 2 ∧
    (¬ GroupAdmitted snapshot emitAttitude emitPosition emitPeriodicStatus queue →
      call = .ok (seq, queue)) ∧
    (GroupAdmitted snapshot emitAttitude emitPosition emitPeriodicStatus queue →
      ∃ (queue' : DefaultTelemetryQueue) (frames : List Bytes),
        call = .ok (seq + .ofNat group.length, queue') ∧ Carries ids seq group frames ∧
          queue'.contents = queue.contents ++ frames)

/-- For every occupancy of the queue, every estimate and every selection, the group is sent as a
whole or not at all. -/
theorem estimate_group_atomic (world : WorldCore) (snapshot : TelemetrySnapshot)
    (emitAttitude emitPosition emitPeriodicStatus : Bool) (ids : UInt8 × UInt8) (seq : UInt8)
    (queue : DefaultTelemetryQueue) (horigin : OriginWellFormed world snapshot) :
    AllOrNothing world snapshot emitAttitude emitPosition emitPeriodicStatus ids seq queue := by
  have hcount : (numericMessages world snapshot emitAttitude emitPosition).length =
      numericCount snapshot emitAttitude emitPosition := length_numericMessages horigin
  refine ⟨?_, fun hnot => ?_, fun hadmitted => ?_⟩
  · rw [List.length_append, hcount, Nat.add_comm]
    rfl
  · exact group_refused hnot
  · obtain ⟨o, hcall, hsent⟩ := group_sent horigin hadmitted
    obtain ⟨frames, hcarries, -, hcontents⟩ := hsent.queued
    refine ⟨o.queue, frames, ?_, hcarries, hcontents⟩
    rw [hcall, hsent.seq]

/-- A world whose planes are their origins, for a vehicle at its origin. -/
def originWorld : WorldCore where
  LocalTangentPlane := GeodeticPosition
  newPlane := some
  toGeodetic plane _ := plane

/-- A vehicle level at an origin at 47° N, 8° E. -/
def restingSnapshot : TelemetrySnapshot where
  timeMs := 1000
  state :=
    { attitude := ⟨⟨0x3F800000⟩, ⟨0⟩, ⟨0⟩, ⟨0⟩⟩
      angularVelocity := .replicate 3 ⟨0⟩
      positionNed := .replicate 3 ⟨0⟩
      velocityNed := .replicate 3 ⟨0⟩
      quality := .good
      validFlags := .all }
  baroPressurePa := some ⟨0x47C5E680⟩
  baroTemperatureC := ⟨0x41A00000⟩
  geodeticOrigin := some ⟨⟨0x4047800000000000⟩, ⟨0x4020000000000000⟩, ⟨0x43C80000⟩⟩

/-- All streams selected, from an empty queue. -/
theorem estimate_group_atomic_resting :
    AllOrNothing originWorld restingSnapshot true true true (1, 1) 255 (.new (by decide)) :=
  estimate_group_atomic originWorld restingSnapshot true true true (1, 1) 255 (.new (by decide))
    fun _ _ => rfl

end Mavlink

end Aviate

end LinkEstimatorTelemetry

section LinkTruncation

/-!
# Truncated and extended payloads

A sender may leave out trailing zeros of a payload, all but its first byte, and a sender of a
later dialect may add fields behind the ones this dialect knows. Neither changes the message:
the decoders see every known payload at its declared length.

Results:
1. An accepted frame carries the message of its payload (`message_of_interpret`).
2. What a payload says is the payload cut or filled to the declared length
   (`zeroExtend_append_zeros`, `zeroExtend_extension`).
3. Valid frames of one identifier whose payloads differ by trailing zeros or unknown extension
   bytes parse to the same message (`truncation_equivalence`).
-/

namespace Aviate.Mavlink

open ByteBuffer

variable {payload : Bytes} {declared : Nat}

/-- An accepted frame carries the message of its payload. -/
theorem message_of_interpret {f : RawFrame} {frame : ParsedMavlinkFrame}
    (h : f.interpret = .ok frame) : parsePayload f.msgid f.payload = .ok frame.message := by
  unfold RawFrame.interpret at h
  split at h
  · cases h
  split at h
  · cases h
  obtain ⟨signature, -, h⟩ := Checked.bind_eq_ok.mp h
  obtain ⟨message, hmessage, h⟩ := Checked.bind_eq_ok.mp h
  rw [← Except.ok.inj h]
  exact hmessage

/-- Trailing zeros that were left out are filled in again. -/
theorem zeroExtend_append_zeros (n : Nat) :
    zeroExtend (payload ++ List.replicate n 0) declared = zeroExtend payload declared := by
  unfold zeroExtend
  rw [List.take_append, List.take_replicate, List.append_assoc, List.replicate_append_replicate,
    List.length_append, List.length_replicate]
  congr 2
  omega

/-- Bytes behind the declared length are cut. -/
theorem zeroExtend_extension (extension : Bytes) :
    zeroExtend (payload ++ List.replicate (declared - payload.length) 0 ++ extension) declared =
      zeroExtend payload declared := by
  have hlength : declared ≤
      (payload ++ List.replicate (declared - payload.length) 0).length := by
    rw [List.length_append, List.length_replicate]
    omega
  have hcut : zeroExtend (payload ++ List.replicate (declared - payload.length) 0 ++ extension)
      declared = zeroExtend (payload ++ List.replicate (declared - payload.length) 0) declared := by
    unfold zeroExtend
    rw [List.take_append_of_le_length hlength, List.length_append, Nat.sub_eq_zero_of_le hlength,
      Nat.sub_eq_zero_of_le (hlength.trans (Nat.le_add_right _ _))]
  rw [hcut, zeroExtend_append_zeros]

/-- `other` is `payload` without some of its trailing zeros, or with bytes added behind the
declared length, whether or not `payload` reaches it. -/
def SameContent (declared : Nat) (payload other : Bytes) : Prop :=
  (∃ n, payload = other ++ List.replicate n 0) ∨
    ∃ extension, other =
      payload ++ List.replicate (declared - payload.length) 0 ++ extension

theorem zeroExtend_of_sameContent {other : Bytes} (h : SameContent declared payload other) :
    zeroExtend other declared = zeroExtend payload declared := by
  rcases h with ⟨n, rfl⟩ | ⟨extension, rfl⟩
  · exact (zeroExtend_append_zeros n).symm
  · exact zeroExtend_extension extension

/-- Two valid frames of one known identifier parse to the same message when the payload of one
is that of the other with trailing zeros stripped or with unknown extension bytes behind it. -/
theorem truncation_equivalence (f g : RawFrame) (hf : f.WellFormed) (hg : g.WellFormed)
    (hmsgid : f.msgid = g.msgid) (hdeclared : declaredPayloadLen f.msgid = some declared)
    (hcontent : SameContent declared f.payload g.payload) (rest rest' : Bytes) :
    ∃ p q, parseMavlinkFrame (f.bytes ++ rest) = .ok p ∧
      parseMavlinkFrame (g.bytes ++ rest') = .ok q ∧ p.message = q.message := by
  obtain ⟨p, hp⟩ := RawFrame.interpret_of_wellFormed hf
  obtain ⟨q, hq⟩ := RawFrame.interpret_of_wellFormed hg
  refine ⟨p, q, (f.parse_bytes rest).trans hp, (g.parse_bytes rest').trans hq, ?_⟩
  have hmessage := message_of_interpret hp
  have hmessage' := message_of_interpret hq
  rw [parsePayload_known hdeclared hf.payload, ← zeroExtend_of_sameContent hcontent] at hmessage
  rw [← hmsgid, parsePayload_known hdeclared hg.payload] at hmessage'
  exact Except.ok.inj (hmessage.symm.trans hmessage')

/-! ## An acknowledgement -/

/-- `COMMAND_ACK` for command 22 with the given payload and checksum. -/
def ackFrame (payload : Bytes) (crc0 crc1 : UInt8) (h : payload.length ≤ maxPayloadLen) :
    RawFrame :=
  ⟨0, 0, 0, 1, 1, 77, 0, 0, payload, crc0, crc1, [], h, rfl⟩

def fullAck : RawFrame := ackFrame [22, 0, 4, 0, 0, 0, 0, 0, 0, 0] 0x49 0x41 (by decide)

def trimmedAck : RawFrame := ackFrame [22, 0, 4] 0x4C 0x88 (by decide)

theorem fullAck_wellFormed : fullAck.WellFormed :=
  ⟨by decide, by decide +kernel, ⟨10, by decide⟩, by decide⟩

theorem trimmedAck_wellFormed : trimmedAck.WellFormed :=
  ⟨by decide, by decide +kernel, ⟨10, by decide⟩, by decide⟩

/-- Three bytes of it say the same as all ten. -/
theorem truncation_equivalence_ack :
    ∃ p q, parseMavlinkFrame (fullAck.bytes ++ []) = .ok p ∧
      parseMavlinkFrame (trimmedAck.bytes ++ [0xFD]) = .ok q ∧ p.message = q.message := by
  have hdeclared : declaredPayloadLen fullAck.msgid = some 10 := by decide
  exact truncation_equivalence fullAck trimmedAck fullAck_wellFormed trimmedAck_wellFormed
    (by decide) hdeclared (.inl ⟨7, by decide⟩) [] [0xFD]

end Aviate.Mavlink

end LinkTruncation

section MissionCriteria

/-!
# Mission criteria

The verdicts a mission phase draws from its trace (`xil/src/runner/criteria.rs`): whether the
vehicle hovered, kept its station, stayed within bounds, visited its waypoints, kept its attitude,
and published a velocity that is the derivative of its position.

A slice outside the trace and a division by zero end a verdict with an `AccessFault`. The texts of
a result are lists of pieces; a number in a text stands with the digits it is printed with.
-/

namespace Aviate.Missions

variable {F : Type}

/-- One state sample from a mission phase. -/
structure TraceSample (F : Type) where
  elapsed : F
  simTimeUs : UInt64
  position : Vector F 3
  velocity : Vector F 3
  attitude : Vector F 4

inductive Criterion (F : Type) where
  | velocityTracksPosition (tolerance : F)
  | stableHover (altitude tolerance holdSecs : F)
  | stationKeeping (centerNed : Vector F 3) (xyTolerance zTolerance : F)
  | maxExcursion (centerNed : Vector F 3) (xyMax zMax : F)
  | trajectoryTracking (waypoints : List (Vector F 3)) (tolerance maxTimeS : F)
  | attitudeBounded (rollPitchMaxDeg : F)

/-- A piece of a formatted text. -/
inductive Piece (F : Type) where
  | text (s : String)
  | fixed (digits : Nat) (value : F)
  | count (n : Nat)
  | time (t : Option F)
  | debug (value : F)

structure CriterionResult (F : Type) where
  criterion : String
  passed : Bool
  actualValue : List (Piece F)
  expected : List (Piece F)

inductive AccessFault where
  | outOfRange
  | divideByZero
deriving DecidableEq, Repr

section

variable [Scalar F] [Libm F]

/-! ## Geometry -/

def distance (left right : Vector F 3) : F :=
  let north := left[0] - right[0]
  let east := left[1] - right[1]
  let down := left[2] - right[2]
  sqrtf (north * north + east * east + down * down)

def norm (v : Vector F 3) : F := sqrtf (v[0] * v[0] + v[1] * v[1] + v[2] * v[2])

def sub (a b : Vector F 3) : Vector F 3 := #v[a[0] - b[0], a[1] - b[1], a[2] - b[2]]

/-- An infinity. -/
def isInfinite (x : F) : Bool := !Scalar.isFinite x && Scalar.le x x

/-- `f32::hypot`: infinite as soon as a side is, also where the other is NaN. -/
def hypot (x y : F) : F :=
  if isInfinite x then Scalar.abs x
  else if isInfinite y then Scalar.abs y
  else sqrtf (x * x + y * y)

/-- Roll, pitch and yaw. -/
def quatToRpy (quaternion : Vector F 4) : F × F × F :=
  Quaternion.toEuler ⟨quaternion[0], quaternion[1], quaternion[2], quaternion[3]⟩

/-! ## Velocity against position -/

/-- Shortest span positions are differentiated over. -/
def derivativeBaselineUs : Nat := 100000

def movingMps : F := lit (1 / 2)

def divide (x y : F) : Except AccessFault F :=
  if Scalar.eq y (lit 0) then .error .divideByZero else .ok (x / y)

/-- `trace[start..=end]`. -/
def sliceInclusive {α : Type} (samples : List α) (start last : Nat) :
    Except AccessFault (List α) :=
  if start ≤ last + 1 ∧ last < samples.length then
    .ok ((samples.drop start).take (last + 1 - start))
  else .error .outOfRange

/-- `sim_time_us` of the one less that of the other, not below zero. -/
def simTimeSince (sample first : TraceSample F) : Nat :=
  sample.simTimeUs.toNat - first.simTimeUs.toNat

/-- The inner loop: `end` moves on to the first sample a baseline after `first`. -/
def advanceEnd (samples : List (TraceSample F)) (first : TraceSample F) (last : Nat) : Nat :=
  last + ((samples.drop last).takeWhile fun sample =>
    simTimeSince sample first < derivativeBaselineUs).length

/-- The mean velocity of a window. -/
def meanVelocity (window : List (TraceSample F)) : Except AccessFault (Vector F 3) :=
  window.foldlM (fun mean sample => do
    let n := lit window.length
    return #v[mean[0] + (← divide sample.velocity[0] n), mean[1] + (← divide sample.velocity[1] n),
      mean[2] + (← divide sample.velocity[2] n)]) (.replicate 3 (lit 0))

/-- What the outer loop accumulates. -/
structure Tracking (F : Type) where
  errorSum : F
  derivedSum : F
  publishedSum : F
  moving : UInt32

/-- The outer loop over the samples from index `start` on. It breaks when the trace has no sample
a baseline later. -/
def trackWindows (samples : List (TraceSample F)) :
    Nat → List (TraceSample F) → Nat → Tracking F → Except AccessFault (Tracking F)
  | _, [], _, sums => .ok sums
  | start, first :: rest, last, sums =>
    let last := advanceEnd samples first last
    match samples[last]? with
    | none => .ok sums
    | some sample => do
      let elapsed : F := lit (simTimeSince sample first) * lit (1 / 1000000)
      let derived ← divide (norm (sub sample.position first.position)) elapsed
      if Scalar.lt derived movingMps then trackWindows samples (start + 1) rest last sums
      else
        let window ← sliceInclusive samples start last
        let published := norm (← meanVelocity window)
        trackWindows samples (start + 1) rest last
          { errorSum := sums.errorSum + Scalar.abs (published - derived)
            derivedSum := sums.derivedSum + derived
            publishedSum := sums.publishedSum + published
            moving := sums.moving + 1 }

def velocityTracksPosition (samples : List (TraceSample F)) (tolerance : F) :
    Except AccessFault (CriterionResult F) := do
  let sums ← trackWindows samples 0 samples 0 ⟨lit 0, lit 0, lit 0, 0⟩
  if sums.moving = 0 then
    return {
      criterion := "velocity_tracks_position"
      passed := false
      actualValue := [.text "the vehicle never moved"]
      expected := [.text "motion above ", .fixed 2 movingMps, .text "m/s to compare against"] }
  let count : F := lit sums.moving.toNat
  let derived ← divide sums.derivedSum count
  let published ← divide sums.publishedSum count
  let error ← divide sums.errorSum count
  return {
    criterion := "velocity_tracks_position"
    passed := Scalar.le error tolerance
    actualValue := [.text "published ", .fixed 2 published, .text "m/s vs ", .fixed 2 derived,
      .text "m/s from position (error ", .fixed 2 error, .text "m/s over ",
      .count sums.moving.toNat, .text " samples)"]
    expected := [.text "<= ", .fixed 2 tolerance, .text "m/s"] }

/-! ## Hover -/

def inBand (altitude tolerance : F) (sample : TraceSample F) : Bool :=
  Scalar.le (Scalar.abs (-sample.position[2] - altitude)) tolerance

/-- The best run so far and the start of the current one, after one more sample. -/
def hoverStep (altitude tolerance : F) : F × Option F → TraceSample F → F × Option F
  | (bestRun, runStart), sample =>
    if inBand altitude tolerance sample then
      let start := runStart.getD sample.elapsed
      (Scalar.max bestRun (sample.elapsed - start), some start)
    else (bestRun, none)

def stableHover (samples : List (TraceSample F)) (altitude tolerance holdSeconds : F) :
    CriterionResult F :=
  let (bestRun, _) := samples.foldl (hoverStep altitude tolerance) (lit 0, none)
  { criterion := "stable_hover"
    passed := Scalar.le holdSeconds bestRun
    actualValue := [.text "best continuous interval: ", .fixed 2 bestRun, .text "s"]
    expected := [.text ">= ", .fixed 2 holdSeconds, .text "s in the altitude band"] }

/-! ## Excursions -/

/-- The horizontal deviation of a sample. -/
def xyDeviation (center : Vector F 3) (sample : TraceSample F) : F :=
  hypot (sample.position[0] - center[0]) (sample.position[1] - center[1])

/-- The vertical deviation of a sample. -/
def zDeviation (center : Vector F 3) (sample : TraceSample F) : F :=
  Scalar.abs (sample.position[2] - center[2])

/-- The worst horizontal deviation with its time, after one more sample. -/
def worstXyStep (center : Vector F 3) : F × F → TraceSample F → F × F
  | (worstXy, worstTime), sample =>
    let xy := xyDeviation center sample
    if Scalar.lt worstXy xy then (xy, sample.elapsed) else (worstXy, worstTime)

/-- The worst horizontal and vertical deviations, and the time of the former. -/
def worstExcursion (samples : List (TraceSample F)) (center : Vector F 3) : F × F × F :=
  let (worstXy, worstTime) := samples.foldl (worstXyStep center) (lit 0, lit 0)
  (worstXy, samples.foldl (fun worst sample => Scalar.max worst (zDeviation center sample)) (lit 0),
    worstTime)

def stationKeeping (samples : List (TraceSample F)) (center : Vector F 3)
    (xyTolerance zTolerance : F) : CriterionResult F :=
  let (worstXy, worstZ, worstTime) := worstExcursion samples center
  { criterion := "station_keeping"
    passed := !samples.isEmpty && Scalar.le worstXy xyTolerance && Scalar.le worstZ zTolerance
    actualValue := [.text "worst xy=", .fixed 2 worstXy, .text "m z=", .fixed 2 worstZ,
      .text "m at t=", .fixed 2 worstTime, .text "s"]
    expected := [.text "all samples have xy<=", .fixed 2 xyTolerance, .text "m and z<=",
      .fixed 2 zTolerance, .text "m"] }

def maxExcursion (samples : List (TraceSample F)) (center : Vector F 3) (xyMaximum zMaximum : F) :
    CriterionResult F :=
  let (worstXy, worstZ, _) := worstExcursion samples center
  { criterion := "max_excursion"
    passed := Scalar.le worstXy xyMaximum && Scalar.le worstZ zMaximum
    actualValue := [.text "xy=", .fixed 2 worstXy, .text "m z=", .fixed 2 worstZ, .text "m"]
    expected := [.text "xy<=", .fixed 2 xyMaximum, .text "m and z<=", .fixed 2 zMaximum,
      .text "m"] }

/-! ## Waypoints -/

/-- The loop over the samples within the time limit: the waypoints visited so far and the time of
the last visit. -/
def visitWaypoints (waypoints : List (Vector F 3)) (tolerance : F) :
    List (TraceSample F) → Nat × Option F → Nat × Option F
  | [], visits => visits
  | sample :: rest, (visited, visitTime) =>
    match waypoints[visited]? with
    | none => (visited, visitTime)
    | some waypoint =>
      if Scalar.le (distance sample.position waypoint) tolerance then
        visitWaypoints waypoints tolerance rest (visited + 1, some sample.elapsed)
      else visitWaypoints waypoints tolerance rest (visited, visitTime)

def trajectoryTracking (samples : List (TraceSample F)) (waypoints : List (Vector F 3))
    (tolerance maxTime : F) : CriterionResult F :=
  let (visited, visitTime) := visitWaypoints waypoints tolerance
    (samples.takeWhile fun sample => Scalar.le sample.elapsed maxTime) (0, none)
  { criterion := "trajectory_tracking"
    passed := visited == waypoints.length
    actualValue := [.text "visited ", .count visited, .text "/", .count waypoints.length,
      .text " at ", .time visitTime]
    expected := [.text "all waypoints within ", .fixed 2 tolerance, .text "m before ",
      .fixed 2 maxTime, .text "s"] }

/-! ## Attitude -/

def roll (sample : TraceSample F) : F := (quatToRpy sample.attitude).1

def pitch (sample : TraceSample F) : F := (quatToRpy sample.attitude).2.1

/-- The angle of larger magnitude. -/
def worseAngle (worst angle : F) : F :=
  if Scalar.lt (Scalar.abs worst) (Scalar.abs angle) then angle else worst

/-- `f32::to_radians`. -/
def toRadians (degrees : F) : F := degrees * (pi / lit 180)

/-- `f32::to_degrees`. -/
def toDegrees (radians : F) : F := radians * (lit 180 / pi)

def attitudeBounded (samples : List (TraceSample F)) (maximumDegrees : F) : CriterionResult F :=
  let worstRoll := samples.foldl (fun worst sample => worseAngle worst (roll sample)) (lit 0)
  let worstPitch := samples.foldl (fun worst sample => worseAngle worst (pitch sample)) (lit 0)
  let maximum := toRadians maximumDegrees
  { criterion := "attitude_bounded"
    passed := !samples.isEmpty && Scalar.le (Scalar.abs worstRoll) maximum &&
      Scalar.le (Scalar.abs worstPitch) maximum
    actualValue := [.text "worst roll=", .fixed 1 (toDegrees worstRoll),
      .text " degrees and pitch=", .fixed 1 (toDegrees worstPitch), .text " degrees"]
    expected := [.text "absolute roll and pitch <= ", .fixed 1 maximumDegrees, .text " degrees"] }

/-! ## Verdicts -/

def verifyCriterion (samples : List (TraceSample F)) :
    Criterion F → Except AccessFault (CriterionResult F)
  | .velocityTracksPosition tolerance => velocityTracksPosition samples tolerance
  | .stableHover altitude tolerance holdSecs =>
    .ok (stableHover samples altitude tolerance holdSecs)
  | .stationKeeping centerNed xyTolerance zTolerance =>
    .ok (stationKeeping samples centerNed xyTolerance zTolerance)
  | .maxExcursion centerNed xyMax zMax => .ok (maxExcursion samples centerNed xyMax zMax)
  | .trajectoryTracking waypoints tolerance maxTimeS =>
    .ok (trajectoryTracking samples waypoints tolerance maxTimeS)
  | .attitudeBounded rollPitchMaxDeg => .ok (attitudeBounded samples rollPitchMaxDeg)

end

end Aviate.Missions

end MissionCriteria

section MissionPlan

/-!
# Missions

What a mission is made of (`xil/src/mission.rs`), and the verdicts on the end of a phase
(`runner/criteria.rs`), which stand beside those on its trace. A `std::time::Duration` is a count
of nanoseconds here.
-/

namespace Aviate.Missions

variable {F : Type}

/-- A time or a span of it, in nanoseconds. -/
abbrev Duration := Nat

namespace Duration

def fromSecs (secs : Nat) : Duration := secs * 1000000000

def fromMillis (millis : Nat) : Duration := millis * 1000000

/-- `Duration::as_micros`, saturated to 64 bits. -/
def asMicros (d : Duration) : UInt64 := UInt64.ofNat (min (d / 1000) (2 ^ 64 - 1))

def asSecs [Scalar F] (d : Duration) : F :=
  lit (d / 1000000000 : Nat) + lit (d % 1000000000 : Nat) / lit 1000000000

end Duration

inductive SensorTarget where
  | imu
  | baro
  | mag
  | gnss
deriving DecidableEq, Repr

inductive FaultSpec (F : Type) where
  | healthDegraded
  | healthFailed
  | nan
  | dropout (cycles : UInt32)
  | biasShift (offset : Vector F 3)
  | biasScalar (offset : F)

inductive Action (F : Type) where
  | wait
  | arm
  | disarm
  | thrust (thrust : F)
  | attitudeTarget (q : Vector F 4) (thrust : F)
  | goTo (position : Vector F 3) (heading : F)
  | injectFault (sensor : SensorTarget) (fault : FaultSpec F)
  | clearFaults

/-- What a phase is verified by: its trace, or the state it ended in. -/
inductive PhaseCriterion (F : Type) where
  | ofTrace (criterion : Criterion F)
  | armed (expected : Bool)
  | minAltitude (minimum : F)
  | maxAltitude (maximum : F)
  | altitudeHold (target tolerance : F)
  | positionHold (target : Vector F 3) (tolerance : F)
  | maxDrift (maximum : F)
  | sensorDataReceived
  | reachedWaypoint (target : Vector F 3) (tolerance : F)
  | returnedNear (targetNed : Vector F 3) (tolerance : F)
  | touchdownVelocity (maxDescentMps groundTolerance : F)

structure Phase (F : Type) where
  name : String
  duration : Duration
  action : Action F
  verify : List (PhaseCriterion F)

structure VehicleConfig (F : Type) where
  model : String
  instance' : UInt8
  spawnPosition : Vector F 3
  spawnHeading : F

structure Mission (F : Type) where
  name : String
  description : String
  vehicle : VehicleConfig F
  lockstep : Bool
  phases : List (Phase F)
  resetBetweenRuns : Bool

structure PhaseResult (F : Type) where
  name : String
  passed : Bool
  durationActual : Duration
  maxAltitude : F
  finalPosition : Vector F 3
  criteriaResults : List (CriterionResult F)
  samples : List (TraceSample F)

structure MissionResult (F : Type) where
  missionName : String
  passed : Bool
  phases : List (PhaseResult F)
  totalDuration : Duration
  maxAltitude : F

/-! ## Verdicts on the end of a phase -/

/-- `f32::total_cmp`, as "not greater". -/
class TotalCmp (F : Type) where
  totalLe : F → F → Bool

instance {K : Type} [Field K] [LinearOrder K] : TotalCmp (ExactFloat K) where
  totalLe x y :=
    match y with
    | .nan => true
    | y => x.le y

def booleanResult (name : String) (actual expected : Bool) : CriterionResult F where
  criterion := name
  passed := actual == expected
  actualValue := [.text (toString actual)]
  expected := [.text (toString expected)]

def sensorDataReceived (lastStep : UInt64) : CriterionResult F where
  criterion := "sensor_data"
  passed := 0 < lastStep
  actualValue := [.count lastStep.toNat, .text " steps"]
  expected := [.text "> 0 steps"]

section

variable [Scalar F]

def minimumResult (name : String) (actual minimum : F) : CriterionResult F where
  criterion := name
  passed := Scalar.le minimum actual
  actualValue := [.fixed 2 actual, .text "m"]
  expected := [.text ">= ", .fixed 2 minimum, .text "m"]

def maximumResult (name : String) (actual maximum : F) : CriterionResult F where
  criterion := name
  passed := Scalar.le actual maximum
  actualValue := [.fixed 2 actual, .text "m"]
  expected := [.text "<= ", .fixed 2 maximum, .text "m"]

def altitudeHold (actual target tolerance : F) : CriterionResult F :=
  let error := Scalar.abs (actual - target)
  { criterion := "altitude_hold"
    passed := Scalar.le error tolerance
    actualValue := [.fixed 2 actual, .text "m (error: ", .fixed 2 error, .text "m)"]
    expected := [.fixed 2 target, .text "m +/- ", .fixed 2 tolerance, .text "m"] }

/-- The first of the least values. -/
def minBy {α : Type} (le : α → α → Bool) : List α → Option α
  | [] => none
  | x :: xs => some (xs.foldl (fun least y => if le least y then least else y) x)

/-- `f32::INFINITY`. -/
def infinity : F := lit 1 / lit 0

/-- The least of some values, an infinity if there is none. -/
def minimumOf (values : List F) : F := values.foldl Scalar.min infinity

/-- The sample the descent is measured from: the lowest one of the last tenth of a second. -/
def touchdownLookback [TotalCmp F] (samples : List (TraceSample F)) (current : TraceSample F) :
    Option (TraceSample F) :=
  let recent := samples.reverse.takeWhile fun sample =>
    Scalar.lt (current.elapsed - sample.elapsed) (lit (1 / 10))
  (minBy (fun left right => TotalCmp.totalLe left.position[2] right.position[2]) recent).or
    samples.getLast?

def touchdownAtStart (groundTolerance : F) : CriterionResult F where
  criterion := "touchdown_velocity"
  passed := false
  actualValue := [.text "the vehicle is on the ground at phase start"]
  expected := [.text "the vehicle reaches ", .fixed 2 groundTolerance, .text "m during the phase"]

def touchdownMissing (samples : List (TraceSample F)) (groundTolerance : F) :
    CriterionResult F where
  criterion := "touchdown_velocity"
  passed := false
  actualValue := [.text "no touchdown sample; minimum altitude=",
    .fixed 2 (minimumOf (samples.map fun sample => -sample.position[2])), .text "m"]
  expected := [.text "the vehicle reaches ", .fixed 2 groundTolerance, .text "m"]

/-- The descent into the first sample on the ground. There is none to measure it from only when
that sample is the first of the trace. -/
def touchdownVelocity [TotalCmp F] (samples : List (TraceSample F))
    (maxDescent groundTolerance : F) : CriterionResult F :=
  let (before, rest) := samples.span fun sample =>
    !Scalar.le (-groundTolerance) sample.position[2]
  match rest with
  | [] => touchdownMissing samples groundTolerance
  | current :: _ =>
    match touchdownLookback before current with
    | none => touchdownAtStart groundTolerance
    | some previous =>
      let elapsed := Scalar.max (current.elapsed - previous.elapsed) (lit (1 / 1000))
      let descent := (current.position[2] - previous.position[2]) / elapsed
      { criterion := "touchdown_velocity"
        passed := Scalar.le descent maxDescent
        actualValue := [.text "descent=", .fixed 2 descent, .text "m/s at t=",
          .fixed 2 current.elapsed, .text "s"]
        expected := [.text "descent <= ", .fixed 2 maxDescent, .text "m/s near the ground"] }

variable [Libm F]

def positionResult (name : String) (actual target : Vector F 3) (tolerance : F) :
    CriterionResult F :=
  let error := distance actual target
  { criterion := name
    passed := Scalar.le error tolerance
    actualValue := [.text "error: ", .fixed 2 error, .text "m"]
    expected := [.text "<= ", .fixed 2 tolerance, .text "m of [", .debug target[0], .text ", ",
      .debug target[1], .text ", ", .debug target[2], .text "]"] }

def maxDrift (actual start : Vector F 3) (maximum : F) : CriterionResult F :=
  maximumResult "max_drift" (hypot (actual[0] - start[0]) (actual[1] - start[1])) maximum

def reachedWaypoint (samples : List (TraceSample F)) (target : Vector F 3) (tolerance : F) :
    CriterionResult F :=
  let minimumError := minimumOf (samples.map fun sample => distance sample.position target)
  { criterion := "reached_waypoint"
    passed := Scalar.le minimumError tolerance
    actualValue := [.text "minimum error: ", .fixed 2 minimumError, .text "m"]
    expected := [.text "<= ", .fixed 2 tolerance, .text "m at one sample"] }

end

end Aviate.Missions

end MissionPlan

section MissionBackend

/-!
# The simulator backend contract

`xil/src/backend.rs`: a backend accepts one directive at a time, and answers with a receipt for
the same directive. A frame contains one reset generation, one simulation step and one
authoritative simulation time.

A `SimulatorBackend` is here any way to answer the calls of the contract, with a state of its own.
-/

namespace Aviate.Missions

variable {F : Type}

/-- A reset generation for one simulator session. -/
structure ResetGeneration where
  value : UInt32
deriving DecidableEq, Repr

/-- The first generation in a new session. -/
def ResetGeneration.initial : ResetGeneration := ⟨1⟩

def ResetGeneration.next (g : ResetGeneration) : ResetGeneration := ⟨g.value + 1⟩

/-- The acknowledged state of a simulator session. -/
inductive SimulatorLifecycle where
  | stopped
  | resetting
  | converging
  | ready
deriving DecidableEq, Repr

structure BackendStatus where
  generation : ResetGeneration
  lifecycle : SimulatorLifecycle
  step : UInt64
  simulationTime : Duration
  armed : Bool
deriving DecidableEq, Repr

/-- One command for the simulator session. -/
inductive SimulatorDirectiveKind (F : Type) where
  | start
  | stop
  | reset
  | checkArmReadiness
  | arm
  | setpoint (command : Command F)
  | disarm

inductive SimulatorOperation where
  | connect
  | start
  | stop
  | reset
  | checkArmReadiness
  | arm
  | setpoint
  | disarm
  | nextFrame
deriving DecidableEq, Repr

def SimulatorDirectiveKind.operation : SimulatorDirectiveKind F → SimulatorOperation
  | start => .start
  | stop => .stop
  | reset => .reset
  | checkArmReadiness => .checkArmReadiness
  | arm => .arm
  | setpoint _ => .setpoint
  | disarm => .disarm

/-- A directive that is valid only for one reset generation. -/
structure SimulatorDirective (F : Type) where
  id : UInt64
  generation : ResetGeneration
  kind : SimulatorDirectiveKind F

/-- The confirmed effect of a directive. -/
inductive DirectiveOutcome where
  | started
  | stopped
  | resetAccepted
  | armReady
  | armed
  | setpointAccepted
  | disarmed
deriving DecidableEq, Repr

/-- An acknowledgement for one directive. -/
structure DirectiveReceipt where
  id : UInt64
  generation : ResetGeneration
  step : UInt64
  simulationTime : Duration
  outcome : DirectiveOutcome
deriving DecidableEq, Repr

structure VehicleState (F : Type) where
  position : Vector F 3
  velocity : Vector F 3
  orientation : Vector F 4
  angularVelocity : Vector F 3
  valid : Bool

def VehicleState.default [Scalar F] : VehicleState F where
  position := .replicate 3 (lit 0)
  velocity := .replicate 3 (lit 0)
  orientation := .replicate 4 (lit 0)
  angularVelocity := .replicate 3 (lit 0)
  valid := false

/-- One sample-paced simulator frame. -/
structure SimulatorFrame (F : Type) where
  generation : ResetGeneration
  step : UInt64
  simulationTime : Duration
  lifecycle : SimulatorLifecycle
  vehicle : VehicleState F
  armed : Bool

/-- The result of one bounded frame request. -/
inductive FrameEvent (F : Type) where
  | frame (frame : SimulatorFrame F)
  | timedOut (generation : ResetGeneration) (lastStep : UInt64) (timeout : Duration)

/-- A typed simulator backend failure. -/
inductive SimulatorError where
  | connectionFailed (backend detail : String)
  | notAvailable (operation : SimulatorOperation) (detail : String)
  | io (operation : SimulatorOperation)
  | timeout (operation : SimulatorOperation) (generation : ResetGeneration) (timeout : Duration)
  | bridgeLost (generation : ResetGeneration) (lastStep : UInt64)
  | resetFailed (generation : ResetGeneration) (detail : String)
  | readinessFailed (generation : ResetGeneration) (detail : String)
  | armRefused (generation : ResetGeneration) (detail : String)
  | staleGeneration (expected received : ResetGeneration)
  | invalidLifecycle (operation : SimulatorOperation) (lifecycle : SimulatorLifecycle)
deriving DecidableEq, Repr

inductive FaultCommand (F : Type) where
  | inject (sensor : SensorTarget) (fault : FaultSpec F)
  | clearAll

/-- A sample-paced simulator backend. A call may change its state `σ`, also one that only asks.

`deadline` is the wall clock: given the length of a deadline, it tells what time each look at the
clock will find remaining. A look after those finds nothing. -/
structure SimulatorBackend (F σ : Type) where
  instance' : σ → UInt8
  connect : σ → UInt8 → Duration → Except SimulatorError BackendStatus × σ
  status : σ → BackendStatus × σ
  execute : σ → SimulatorDirective F → Duration → Except SimulatorError DirectiveReceipt × σ
  nextFrame : σ → Duration → Except SimulatorError (FrameEvent F) × σ
  applyFault : σ → FaultCommand F → σ
  deadline : σ → Duration → List Duration × σ

/-- The outcome that acknowledges an operation. -/
def expectedOutcome : SimulatorOperation → Option DirectiveOutcome
  | .start => some .started
  | .stop => some .stopped
  | .reset => some .resetAccepted
  | .checkArmReadiness => some .armReady
  | .arm => some .armed
  | .setpoint => some .setpointAccepted
  | .disarm => some .disarmed
  | .connect => none
  | .nextFrame => none

/-- The generation in which a directive takes effect. -/
def SimulatorDirective.expectedGeneration (d : SimulatorDirective F) : ResetGeneration :=
  if d.kind.operation = .reset then d.generation.next else d.generation

/-- The receipt acknowledges the directive: it repeats its identity and confirms its effect in the
generation it takes effect in. -/
def SimulatorDirective.Acknowledged (d : SimulatorDirective F) (receipt : DirectiveReceipt) :
    Prop :=
  receipt.id = d.id ∧ receipt.generation = d.expectedGeneration ∧
    some receipt.outcome = expectedOutcome d.kind.operation

instance (d : SimulatorDirective F) (receipt : DirectiveReceipt) :
    Decidable (d.Acknowledged receipt) :=
  inferInstanceAs (Decidable (_ ∧ _ ∧ _))

end Aviate.Missions

end MissionBackend

section MissionRunner

/-!
# The mission runner

A run of a mission on a simulator backend (`xil/src/runner/execution.rs`, `frames.rs`,
`commands.rs`). The vehicle's name and the client of the fault port are left out, with the lines
the runner logs and the trace file it writes.

A `Session` is the runner, its backend, and the log of what passed between them: each call with
its answer, and what the runner made of the frames.
-/

namespace Aviate.Missions

variable {F σ α : Type}

structure MissionRunner (F : Type) where
  lastStep : UInt64
  lastSimulationTime : Duration
  currentState : VehicleState F
  startPosition : Vector F 3
  armed : Bool
  maxAltitude : F
  generation : ResetGeneration
  nextDirectiveId : UInt64
  nextCommandSequence : UInt32

def MissionRunner.new [Scalar F] : MissionRunner F where
  lastStep := 0
  lastSimulationTime := 0
  currentState := .default
  startPosition := .replicate 3 (lit 0)
  armed := false
  maxAltitude := lit 0
  generation := .initial
  nextDirectiveId := 0
  nextCommandSequence := 0

/-- What a frame is requested for: to start from, to pass the time until the vehicle can arm, or
to fly a phase that began at `start`. -/
inductive FramePurpose (F : Type) where
  | initial
  | readiness
  | phase (phase : Phase F) (start : Duration)

/-- A look at the clock of the initial deadline, a call with its answer, a frame the runner
accepts, or a sample it traces. A request of a frame stands with the runner that makes it. -/
inductive Event (F : Type) where
  | connected (answer : Except SimulatorError BackendStatus)
  | status (status : BackendStatus)
  | directive (directive : SimulatorDirective F) (answer : Except SimulatorError DirectiveReceipt)
  | initialDeadline (remaining : Duration)
  | frame (purpose : FramePurpose F) (runner : MissionRunner F)
      (answer : Except SimulatorError (FrameEvent F))
  | accepted (frame : SimulatorFrame F)
  | sampled (sample : TraceSample F)

structure Session (F σ : Type) where
  runner : MissionRunner F
  backend : σ
  log : List (Event F)

abbrev RunnerM (F σ α : Type) := Fallible SimulatorError (Session F σ) α

def getRunner : RunnerM F σ (MissionRunner F) := Fallible.act fun s => (s.runner, s)

def update (f : MissionRunner F → MissionRunner F) : RunnerM F σ Unit :=
  Fallible.act fun s => ((), { s with runner := f s.runner })

def note (event : Event F) : RunnerM F σ Unit :=
  Fallible.act fun s => ((), { s with log := s.log ++ [event] })

/-! ## Calls -/

/-- A call that may fail, logged with its answer. -/
def call (f : σ → Except SimulatorError α × σ)
    (event : MissionRunner F → Except SimulatorError α → Event F) : RunnerM F σ α := fun s =>
  ((f s.backend).1, { s with
    backend := (f s.backend).2
    log := s.log ++ [event s.runner (f s.backend).1] })

section Calls

variable (B : SimulatorBackend F σ)

def callConnect (timeout : Duration) : RunnerM F σ BackendStatus :=
  call (fun b => B.connect b (B.instance' b) timeout) fun _ answer => .connected answer

def callStatus : RunnerM F σ BackendStatus := Fallible.act fun s =>
  let (status, backend) := B.status s.backend
  (status, { s with backend, log := s.log ++ [.status status] })

def callExecute (d : SimulatorDirective F) (timeout : Duration) : RunnerM F σ DirectiveReceipt :=
  call (B.execute · d timeout) fun _ answer => .directive d answer

def callNextFrame (purpose : FramePurpose F) (timeout : Duration) : RunnerM F σ (FrameEvent F) :=
  call (B.nextFrame · timeout) fun self answer => .frame purpose self answer

def callApplyFault (command : FaultCommand F) : RunnerM F σ Unit := Fallible.act fun s =>
  ((), { s with backend := B.applyFault s.backend command })

def setDeadline (timeout : Duration) : RunnerM F σ (List Duration) := Fallible.act fun s =>
  let (remaining, backend) := B.deadline s.backend timeout
  (remaining, { s with backend })

/-! ## Directives -/

/-- The directive that the runner sends next. -/
def MissionRunner.directive (self : MissionRunner F) (kind : SimulatorDirectiveKind F) :
    SimulatorDirective F :=
  ⟨self.nextDirectiveId, self.generation, kind⟩

/-- The runner after it took the identity of a directive. -/
def MissionRunner.sent (self : MissionRunner F) : MissionRunner F :=
  { self with nextDirectiveId := self.nextDirectiveId + 1 }

def executeDirective (kind : SimulatorDirectiveKind F) (timeout : Duration) :
    RunnerM F σ DirectiveReceipt := do
  let self ← getRunner
  let d := self.directive kind
  update MissionRunner.sent
  let receipt ← callExecute B d timeout
  if receipt.id ≠ d.id then
    throw (.notAvailable kind.operation "the receipt has another directive identity")
  else if receipt.generation ≠ d.expectedGeneration then
    throw (.staleGeneration d.expectedGeneration receipt.generation)
  else if some receipt.outcome ≠ expectedOutcome kind.operation then
    throw (.notAvailable kind.operation
      "the receipt does not acknowledge the requested operation")
  else pure receipt

/-! ## Frames -/

def nextFrame (purpose : FramePurpose F) (timeout : Duration) : RunnerM F σ (SimulatorFrame F) := do
  let self ← getRunner
  match ← callNextFrame B purpose timeout with
  | .frame frame =>
    if frame.generation = self.generation then pure frame
    else throw (.staleGeneration self.generation frame.generation)
  | .timedOut generation _ timeout => throw (.timeout .nextFrame generation timeout)

/-- The initial deadline has passed. -/
def initialTimeout (timeout : Duration) : RunnerM F σ (SimulatorFrame F) := do
  let self ← getRunner
  throw (.timeout .nextFrame self.generation timeout)

/-- The loop of `next_ready_frame`, over what the clock will find remaining. -/
def nextReadyFrameLoop (timeout : Duration) : List Duration → RunnerM F σ (SimulatorFrame F)
  | [] => do
    note (.initialDeadline 0)
    initialTimeout timeout
  | remaining :: later => do
    note (.initialDeadline remaining)
    if remaining = 0 then initialTimeout timeout
    else do
      let frame ← nextFrame B .initial remaining
      match frame.lifecycle with
      | .ready =>
        if frame.vehicle.valid then pure frame else throw (.invalidLifecycle .nextFrame .ready)
      | .resetting => nextReadyFrameLoop timeout later
      | .converging => nextReadyFrameLoop timeout later
      | .stopped => throw (.invalidLifecycle .nextFrame .stopped)

def nextReadyFrame (timeout : Duration) : RunnerM F σ (SimulatorFrame F) := do
  let remaining ← setDeadline B timeout
  nextReadyFrameLoop B timeout remaining

end Calls

/-- The checks of `accept_phase_frame`: why the frame is refused, and the runner after them. -/
def MissionRunner.inspect (self : MissionRunner F) (frame : SimulatorFrame F)
    (disarmSettling : Bool) : Option String × MissionRunner F :=
  let lifecycleAccepted :=
    frame.lifecycle = .ready ∨ (disarmSettling ∧ frame.lifecycle = .converging)
  if frame.step ≤ self.lastStep then (some "the simulation step did not advance", self)
  else if frame.simulationTime ≤ self.lastSimulationTime then
    (some "the simulation time did not advance", self)
  else if ¬ lifecycleAccepted then (some "the backend left the ready lifecycle", self)
  else if frame.armed ≠ self.armed then
    (some "the frame arm state does not match the directive receipt",
      { self with armed := frame.armed })
  else (none, self)

def acceptPhaseFrame (frame : SimulatorFrame F) (disarmSettling : Bool) : RunnerM F σ Unit := do
  let self ← getRunner
  update fun _ => (self.inspect frame disarmSettling).2
  match (self.inspect frame disarmSettling).1 with
  | some detail => throw (.readinessFailed frame.generation detail)
  | none => do
    update fun self => { self with
      lastStep := frame.step
      lastSimulationTime := frame.simulationTime
      armed := frame.armed }
    note (.accepted frame)

/-! ## Preparation -/

section Preparation

variable (B : SimulatorBackend F σ)

def resetIfAsked (timeout : Duration) (reset : Bool) : RunnerM F σ Unit :=
  if reset then do
    let receipt ← executeDirective B .reset timeout
    update fun self => { self with generation := receipt.generation }
  else pure ()

/-- Connect, reset if asked to, and start: up to the initial frame. -/
def startSession (timeout : Duration) (reset : Bool) : RunnerM F σ Unit := do
  let connected ← callConnect B timeout
  update fun self => { self with generation := connected.generation }
  resetIfAsked B timeout reset
  let _ ← executeDirective B .start timeout
  pure ()

variable [Scalar F]

/-- The runner flies from this frame on. -/
def adoptInitialFrame (initial : SimulatorFrame F) : RunnerM F σ Unit := do
  update fun self => { self with
    lastStep := initial.step
    lastSimulationTime := initial.simulationTime
    startPosition := initial.vehicle.position
    currentState := initial.vehicle
    armed := false
    maxAltitude := lit 0 }
  note (.accepted initial)

def prepareMission (timeout : Duration) (reset : Bool) : RunnerM F σ Duration := do
  startSession B timeout reset
  let initial ← nextReadyFrame B timeout
  adoptInitialFrame initial
  pure initial.simulationTime

end Preparation

/-! ## Actions -/

section Actions

variable (B : SimulatorBackend F σ)

def armReadinessTimeout : Duration := .fromSecs 15

/-- The check is worth another try. -/
def SimulatorError.isReadinessFailed : SimulatorError → Bool
  | readinessFailed _ _ => true
  | _ => false

/-- The loop of `await_arm_readiness`, over what the clock will find remaining. -/
def awaitArmReadinessLoop : List Duration → RunnerM F σ Unit
  | [] => do
    match ← (executeDirective B .checkArmReadiness (.fromSecs 1)).attempt with
    | .ok _ => pure ()
    | .error error => throw error
  | remaining :: later => do
    match ← (executeDirective B .checkArmReadiness (.fromSecs 1)).attempt with
    | .ok _ => pure ()
    | .error error =>
      if error.isReadinessFailed ∧ remaining ≠ 0 then do
        let _ ← nextFrame B .readiness (.fromSecs 1)
        awaitArmReadinessLoop later
      else throw error

def awaitArmReadiness : RunnerM F σ Unit := do
  let remaining ← setDeadline B armReadinessTimeout
  awaitArmReadinessLoop B remaining

def armIfReady : RunnerM F σ Unit := do
  let self ← getRunner
  if self.armed then pure ()
  else do
    awaitArmReadiness B
    let _ ← executeDirective B .arm (.fromSecs 1)
    update fun self => { self with armed := true }

def disarmIfArmed : RunnerM F σ Unit := do
  let self ← getRunner
  if self.armed then do
    let _ ← executeDirective B .disarm (.fromSecs 1)
    update fun self => { self with armed := false }
  else pure ()

variable [Scalar F]

/-- A command of the ground station, numbered in sequence. -/
def numberedCommand (mode : ControlMode) (setpoint : Setpoint F) : RunnerM F σ (Command F) := do
  let self ← getRunner
  update fun self => { self with nextCommandSequence := self.nextCommandSequence + 1 }
  pure {
    mode
    setpoint
    configModeRequest := none
    sensorOverrides := none
    sequence := self.nextCommandSequence
    source := .gcs }

def attitudeCommand (q : Vector F 4) (thrust : F) : RunnerM F σ (Command F) :=
  numberedCommand .attitude { (Setpoint.default : Setpoint F) with
    attitude := some ⟨q[0], q[1], q[2], q[3]⟩
    collectiveThrust := thrust }

def positionCommand (position : Vector F 3) (heading : F) : RunnerM F σ (Command F) :=
  numberedCommand .positionHold { (Setpoint.default : Setpoint F) with
    position := some position
    heading := some heading }

/-- A setpoint is sent only by an armed runner. -/
def sendIfArmed (command : RunnerM F σ (Command F)) : RunnerM F σ Unit := do
  let self ← getRunner
  if self.armed then do
    let command ← command
    let _ ← executeDirective B (.setpoint command) (.fromSecs 1)
    pure ()
  else pure ()

def executeAction : Action F → RunnerM F σ Unit
  | .wait => pure ()
  | .arm => armIfReady B
  | .disarm => disarmIfArmed B
  | .thrust t => sendIfArmed B (attitudeCommand #v[lit 1, lit 0, lit 0, lit 0] t)
  | .attitudeTarget q thrust => sendIfArmed B (attitudeCommand q thrust)
  | .goTo position heading => sendIfArmed B (positionCommand position heading)
  | .injectFault sensor fault => callApplyFault B (.inject sensor fault)
  | .clearFaults => callApplyFault B .clearAll

end Actions

end Aviate.Missions

end MissionRunner

section MissionExecution

/-!
# Running the phases of a mission

What each call of the runner leaves behind, as rules of `Triple`s on the runner and its log, and
the rest of `xil/src/runner/execution.rs`: the phases and the run. The loop of a phase ends because
every frame it accepts is later than the one before (`phaseRound_advances`).

A verdict on a phase may fault; a run that does has no result.
-/

namespace Aviate.Missions

open Fallible (Triple)

variable {F σ α β : Type} {B : SimulatorBackend F σ}

/-! ## What the calls leave behind -/

/-- A triple that speaks of the runner and the log only. -/
def Runs (P : MissionRunner F → List (Event F) → Prop) (op : RunnerM F σ α)
    (Q : α → MissionRunner F → List (Event F) → Prop)
    (E : MissionRunner F → List (Event F) → Prop) : Prop :=
  Triple (fun s => P s.runner s.log) op (fun a s => Q a s.runner s.log)
    fun _ s => E s.runner s.log

namespace Runs

variable {P P' : MissionRunner F → List (Event F) → Prop}
variable {Q Q' : α → MissionRunner F → List (Event F) → Prop}
variable {R : β → MissionRunner F → List (Event F) → Prop}
variable {D E E' : MissionRunner F → List (Event F) → Prop}

theorem imp {op : RunnerM F σ α} (h : Runs P op Q E) (hP : ∀ self log, P' self log → P self log)
    (hQ : ∀ a self log, Q a self log → Q' a self log)
    (hE : ∀ self log, E self log → E' self log) : Runs P' op Q' E' :=
  Triple.imp h (fun _ => hP _ _) (fun _ _ => hQ _ _ _) fun _ _ => hE _ _

theorem pure {a : α} (h : ∀ self log, P self log → Q a self log) :
    Runs (σ := σ) P (Pure.pure a) Q E :=
  Triple.pure fun _ => h _ _

theorem throw {e : SimulatorError} (h : ∀ self log, P self log → E self log) :
    Runs (σ := σ) P (MonadExcept.throw e) Q E :=
  Triple.throw fun _ => h _ _

theorem bind {op : RunnerM F σ α} {next : α → RunnerM F σ β} (h : Runs P op Q E)
    (hnext : ∀ a, Runs (Q a) (next a) R E) : Runs P (op >>= next) R E :=
  Triple.bind h hnext

theorem attempt {op : RunnerM F σ α} (h : Runs P op Q E) :
    Runs P op.attempt
      (fun r self log => match r with | .ok a => Q a self log | .error _ => E self log) D := by
  refine Triple.imp (Triple.attempt h) (fun _ => id) (fun r s hr => ?_) fun _ _ => id
  cases r with
  | ok a => exact hr
  | error e => exact hr

/-- The rest of an operation may depend on the runner it starts from. -/
theorem getRunner {next : MissionRunner F → RunnerM F σ β}
    (h : ∀ self, Runs (fun self' log => self' = self ∧ P self' log) (next self) R E) :
    Runs P (getRunner >>= next) R E :=
  bind (Triple.act fun _ hs => ⟨rfl, hs⟩) h

theorem ite {c : Prop} [Decidable c] {yes no : RunnerM F σ α} (hyes : c → Runs P yes Q E)
    (hno : ¬ c → Runs P no Q E) : Runs P (if c then yes else no) Q E := by
  by_cases hc : c
  · rw [if_pos hc]
    exact hyes hc
  · rw [if_neg hc]
    exact hno hc

variable {U : Unit → MissionRunner F → List (Event F) → Prop}

theorem update {f : MissionRunner F → MissionRunner F}
    (h : ∀ self log, P self log → U () (f self) log) : Runs (σ := σ) P (update f) U E :=
  Triple.act fun _ => h _ _

theorem note {event : Event F} (h : ∀ self log, P self log → U () self (log ++ [event])) :
    Runs (σ := σ) P (note event) U E :=
  Triple.act fun _ => h _ _

theorem applyFault {command : FaultCommand F} (h : ∀ self log, P self log → U () self log) :
    Runs P (callApplyFault B command) U E :=
  Triple.act fun _ => h _ _

theorem setDeadline {timeout : Duration} : Runs P (setDeadline B timeout) (fun _ => P) E :=
  Triple.act fun _ hs => hs

theorem callStatus {S : BackendStatus → MissionRunner F → List (Event F) → Prop}
    (h : ∀ self log status, P self log → S status self (log ++ [Event.status status])) :
    Runs P (callStatus B) S E :=
  Triple.act fun _ => h _ _ _

theorem call {f : σ → Except SimulatorError α × σ}
    {event : MissionRunner F → Except SimulatorError α → Event F}
    (hok : ∀ self log a, P self log → Q a self (log ++ [event self (.ok a)]))
    (herror : ∀ self log e, P self log → E self (log ++ [event self (.error e)])) :
    Runs P (call f event) Q E := by
  intro s hs
  constructor
  · intro a t hrun
    obtain ⟨hanswer, rfl⟩ := Prod.mk.inj hrun
    rw [hanswer]
    exact hok _ _ _ hs
  · intro e t hrun
    obtain ⟨hanswer, rfl⟩ := Prod.mk.inj hrun
    rw [hanswer]
    exact herror _ _ _ hs

/-- A directive is logged with its answer, and succeeds exactly when a receipt acknowledges it. -/
theorem executeDirective {kind : SimulatorDirectiveKind F} {timeout : Duration}
    {S : DirectiveReceipt → MissionRunner F → List (Event F) → Prop}
    (hok : ∀ self log receipt, P self log → (self.directive kind).Acknowledged receipt →
      S receipt self.sent (log ++ [Event.directive (self.directive kind) (.ok receipt)]))
    (herror : ∀ self log answer, P self log →
      (∀ receipt, answer = .ok receipt → ¬ (self.directive kind).Acknowledged receipt) →
      E self.sent (log ++ [Event.directive (self.directive kind) answer])) :
    Runs P (executeDirective B kind timeout) S E := by
  refine getRunner fun self => ?_
  refine bind (Q := fun _ self' log => self' = self.sent ∧ P self log) (update ?_) fun _ => ?_
  · rintro _ log ⟨rfl, hP⟩
    exact ⟨rfl, hP⟩
  -- The call has an answer; what is left is to tell whether it acknowledges the directive.
  refine bind (Q := fun receipt self' log' => ∃ log, P self log ∧ self' = self.sent ∧
    log' = log ++ [Event.directive (self.directive kind) (.ok receipt)])
    (call ?_ ?_) fun receipt => ?_
  · rintro _ log receipt ⟨rfl, hP⟩
    exact ⟨log, hP, rfl, rfl⟩
  · rintro _ log e ⟨rfl, hP⟩
    exact herror self log (.error e) hP fun receipt h => nomatch h
  have hrefused (hnot : ¬ (self.directive kind).Acknowledged receipt) (self' : MissionRunner F)
      (log' : List (Event F)) (h : ∃ log, P self log ∧ self' = self.sent ∧
        log' = log ++ [Event.directive (self.directive kind) (.ok receipt)]) : E self' log' := by
    obtain ⟨log, hP, rfl, rfl⟩ := h
    refine herror self log _ hP fun receipt' hreceipt => ?_
    cases hreceipt
    exact hnot
  refine ite (fun hid => throw (hrefused fun hack => hid hack.1)) fun hid => ?_
  refine ite (fun hgen => throw (hrefused fun hack => hgen hack.2.1)) fun hgen => ?_
  refine ite (fun hout => throw (hrefused fun hack => hout hack.2.2)) fun hout => ?_
  refine pure ?_
  rintro _ _ ⟨log, hP, rfl, rfl⟩
  exact hok self log receipt hP ⟨not_not.mp hid, not_not.mp hgen, not_not.mp hout⟩

/-- A request of a frame is logged with its answer, and succeeds exactly when a frame of the
runner's generation answers it. -/
theorem nextFrame {purpose : FramePurpose F} {timeout : Duration}
    {S : SimulatorFrame F → MissionRunner F → List (Event F) → Prop}
    (hok : ∀ self log frame, P self log → frame.generation = self.generation →
      S frame self (log ++ [Event.frame purpose self (.ok (.frame frame))]))
    (herror : ∀ self log answer, P self log →
      (∀ frame, answer = .ok (.frame frame) → frame.generation ≠ self.generation) →
      E self (log ++ [Event.frame purpose self answer])) :
    Runs P (nextFrame B purpose timeout) S E := by
  refine getRunner fun self => ?_
  refine bind (Q := fun event self' log' => ∃ log, P self log ∧ self' = self ∧
    log' = log ++ [Event.frame purpose self (.ok event)]) (call ?_ ?_) fun event => ?_
  · rintro _ log event ⟨rfl, hP⟩
    exact ⟨log, hP, rfl, rfl⟩
  · rintro _ log e ⟨rfl, hP⟩
    exact herror _ log (.error e) hP fun frame h => nomatch h
  cases event with
  | timedOut generation lastStep timeout =>
    refine throw ?_
    rintro _ _ ⟨log, hP, rfl, rfl⟩
    exact herror _ log _ hP fun frame h => nomatch h
  | frame frame =>
    refine ite (fun hgeneration => pure ?_) fun hgeneration => throw ?_
    · rintro _ _ ⟨log, hP, rfl, rfl⟩
      exact hok _ log frame hP hgeneration
    · rintro _ _ ⟨log, hP, rfl, rfl⟩
      refine herror _ log _ hP fun frame' h => ?_
      cases h
      exact hgeneration

end Runs

/-! ## Actions and accepted frames -/

section Actions

variable {I : MissionRunner F → List (Event F) → Prop} {E : MissionRunner F → List (Event F) → Prop}

/-- The actions of a phase preserve `I`, and leave `E` where they fail. -/
structure Carries (I E : MissionRunner F → List (Event F) → Prop) : Prop where
  failed : ∀ self log, I self log → E self log
  numbered : ∀ self log n, I self log → I { self with nextCommandSequence := n } log
  readiness : ∀ self log answer, I self log → I self (log ++ [Event.frame .readiness self answer])
  check : ∀ self log answer, I self log →
    I self.sent (log ++ [Event.directive (self.directive .checkArmReadiness) answer])
  arm : ∀ self log receipt, I self log → (self.directive .arm).Acknowledged receipt →
    I { self.sent with armed := true }
      (log ++ [Event.directive (self.directive .arm) (.ok receipt)])
  disarm : ∀ self log receipt, I self log → (self.directive .disarm).Acknowledged receipt →
    I { self.sent with armed := false }
      (log ++ [Event.directive (self.directive .disarm) (.ok receipt)])
  setpoint : ∀ self log command receipt, I self log → self.armed = true →
    (self.directive (.setpoint command)).Acknowledged receipt →
    I self.sent (log ++ [Event.directive (self.directive (.setpoint command)) (.ok receipt)])
  refused : ∀ self log kind answer, I self log →
    (kind.operation = .setpoint → self.armed = true) →
    (∀ receipt, answer = .ok receipt → ¬ (self.directive kind).Acknowledged receipt) →
    E self.sent (log ++ [Event.directive (self.directive kind) answer])

namespace Carries

variable (h : Carries I E)

include h

theorem checkReadiness : Runs I (executeDirective B .checkArmReadiness (.fromSecs 1)).attempt
    (fun _ => I) E := by
  have hcheck : Runs I (executeDirective B .checkArmReadiness (.fromSecs 1)) (fun _ => I) I :=
    .executeDirective (fun self log receipt hI _ => h.check self log _ hI)
      fun self log answer hI _ => h.check self log answer hI
  refine (Runs.attempt hcheck).imp (fun _ _ => id) (fun r self log hr => ?_) fun _ _ => id
  cases r with
  | ok receipt => exact hr
  | error e => exact hr

theorem awaitArmReadinessLoop (remaining : List Duration) :
    Runs I (awaitArmReadinessLoop B remaining) (fun _ => I) E := by
  induction remaining with
  | nil =>
    refine h.checkReadiness.bind fun r => ?_
    cases r with
    | ok receipt => exact .pure fun _ _ => id
    | error e => exact .throw h.failed
  | cons remaining later ih =>
    refine h.checkReadiness.bind fun r => ?_
    cases r with
    | ok receipt => exact .pure fun _ _ => id
    | error e =>
      refine .ite (fun _ => ?_) fun _ => .throw h.failed
      refine Runs.bind (.nextFrame (fun self log frame hI _ => h.readiness self log _ hI)
        fun self log answer hI _ => h.failed _ _ (h.readiness self log answer hI)) fun _ => ih

theorem armIfReady : Runs I (armIfReady B) (fun _ => I) E := by
  refine .getRunner fun self => .ite (fun _ => ?_) fun _ => ?_
  · exact .pure fun _ _ hI => hI.2
  refine Runs.bind (Q := fun _ => I) ?_ fun _ => ?_
  · refine Runs.bind (Q := fun _ => I) ?_ h.awaitArmReadinessLoop
    exact Runs.setDeadline.imp (fun _ _ hI => hI.2) (fun _ _ _ => id) fun _ _ => id
  refine Runs.bind (Q := fun _ self log => I { self with armed := true } log) ?_ fun _ => ?_
  · exact .executeDirective (fun self log receipt hI hack => h.arm self log receipt hI hack)
      fun self log answer hI hnot =>
        h.refused self log _ answer hI (fun hkind => nomatch hkind) hnot
  · exact .update fun _ _ => id

theorem disarmIfArmed : Runs I (disarmIfArmed B) (fun _ => I) E := by
  refine .getRunner fun self => .ite (fun _ => ?_) fun _ => .pure fun _ _ hI => hI.2
  refine Runs.bind (Q := fun _ self log => I { self with armed := false } log) ?_ fun _ => ?_
  · exact .executeDirective (fun self log receipt hI hack => h.disarm self log receipt hI.2 hack)
      fun self log answer hI hnot =>
        h.refused self log _ answer hI.2 (fun hkind => nomatch hkind) hnot
  · exact .update fun _ _ => id

theorem sendIfArmed {mode : ControlMode} {setpoint : Setpoint F} :
    Runs I (sendIfArmed B (numberedCommand mode setpoint)) (fun _ => I) E := by
  refine .getRunner fun self => .ite (fun harmed => ?_) fun _ => .pure fun _ _ hI => hI.2
  refine Runs.bind (Q := fun _ self log => I self log ∧ self.armed = true) ?_ fun command => ?_
  · refine .getRunner fun self' => Runs.bind (.update ?_) fun _ => .pure fun _ _ => id
    rintro _ log ⟨rfl, rfl, hI⟩
    exact ⟨h.numbered _ log _ hI, harmed⟩
  refine Runs.bind (Q := fun _ => I) ?_ fun _ => .pure fun _ _ => id
  exact .executeDirective
    (fun self log receipt hI hack => h.setpoint self log command receipt hI.1 hI.2 hack)
    fun self log answer hI hnot => h.refused self log _ answer hI.1 (fun _ => hI.2) hnot

variable [Scalar F]

/-- An action carries `I`. -/
theorem executeAction (action : Action F) : Runs I (executeAction B action) (fun _ => I) E := by
  cases action with
  | wait => exact .pure fun _ _ => id
  | arm => exact h.armIfReady
  | disarm => exact h.disarmIfArmed
  | thrust t => exact h.sendIfArmed
  | attitudeTarget q thrust => exact h.sendIfArmed
  | goTo position heading => exact h.sendIfArmed
  | injectFault sensor fault => exact .applyFault fun _ _ => id
  | clearFaults => exact .applyFault fun _ _ => id

end Carries

end Actions

/-- A frame passes the checks of a phase exactly when it is later than the last accepted one, in a
lifecycle the phase accepts and in the arm state the runner knows. -/
theorem inspect_eq_none {self : MissionRunner F} {frame : SimulatorFrame F} {settling : Bool} :
    (self.inspect frame settling).1 = none ↔
      self.lastStep < frame.step ∧ self.lastSimulationTime < frame.simulationTime ∧
        (frame.lifecycle = .ready ∨ (settling ∧ frame.lifecycle = .converging)) ∧
        frame.armed = self.armed := by
  unfold MissionRunner.inspect
  by_cases hstep : frame.step ≤ self.lastStep
  · simp [hstep]
  by_cases htime : frame.simulationTime ≤ self.lastSimulationTime
  · simp [hstep, htime]
  by_cases hlifecycle : frame.lifecycle = .ready ∨ (settling ∧ frame.lifecycle = .converging)
  · by_cases harmed : frame.armed = self.armed
    · simp only [hstep, htime, hlifecycle, harmed]
      simpa using And.intro (UInt64.not_le.mp hstep) (not_le.mp htime)
    · simp [hstep, htime, hlifecycle, harmed]
  · simp only [hstep, htime, hlifecycle]
    simp

/-- The checks change at most the arm state, and nothing for a frame that passes. -/
theorem inspect_snd (self : MissionRunner F) (frame : SimulatorFrame F) (settling : Bool) :
    ((self.inspect frame settling).1 = none → (self.inspect frame settling).2 = self) ∧
      (self.inspect frame settling).2.generation = self.generation := by
  simp only [MissionRunner.inspect]
  split_ifs <;> exact ⟨by simp, rfl⟩

/-- The runner after a phase frame it accepted. -/
def MissionRunner.advanced (self : MissionRunner F) (frame : SimulatorFrame F) : MissionRunner F :=
  { self with
    lastStep := frame.step
    lastSimulationTime := frame.simulationTime
    armed := frame.armed }

theorem Runs.acceptPhaseFrame {P E : MissionRunner F → List (Event F) → Prop}
    {U : Unit → MissionRunner F → List (Event F) → Prop} {frame : SimulatorFrame F}
    {settling : Bool}
    (hok : ∀ self log, P self log → (self.inspect frame settling).1 = none →
      U () (self.advanced frame) (log ++ [Event.accepted frame]))
    (herror : ∀ self log, P self log → E (self.inspect frame settling).2 log) :
    Runs (σ := σ) P (acceptPhaseFrame frame settling) U E := by
  refine .getRunner fun self => ?_
  refine .bind (Q := fun _ self' log => self' = (self.inspect frame settling).2 ∧ P self log)
    (.update ?_) fun _ => ?_
  · rintro _ log ⟨rfl, hP⟩
    exact ⟨rfl, hP⟩
  cases hdetail : (self.inspect frame settling).1 with
  | some detail =>
    refine .throw ?_
    rintro _ log ⟨rfl, hP⟩
    exact herror self log hP
  | none =>
    refine .bind (Q := fun _ self' log => self' = self.advanced frame ∧ P self log)
      (.update ?_) fun _ => .note ?_
    · rintro _ log ⟨rfl, hP⟩
      rw [(inspect_snd self frame settling).1 hdetail]
      exact ⟨rfl, hP⟩
    · rintro _ log ⟨rfl, hP⟩
      exact hok self log hP hdetail

/-! ## The loop of a phase -/

/-- No action turns the runner's time. -/
theorem carries_time (time : Duration) :
    Carries (F := F) (fun self _ => self.lastSimulationTime = time) fun _ _ => True where
  failed _ _ _ := trivial
  numbered _ _ _ h := h
  readiness _ _ _ h := h
  check _ _ _ h := h
  arm _ _ _ h _ := h
  disarm _ _ _ h _ := h
  setpoint _ _ _ _ h _ _ := h
  refused _ _ _ _ _ _ _ := trivial

section Phases

variable [Scalar F]

/-- The phase is one in which the vehicle disarms. -/
def Action.isDisarm : Action F → Bool
  | .disarm => true
  | _ => false

/-- One turn of the loop, up to the acceptance of a frame. -/
def phaseRound (B : SimulatorBackend F σ) (phase : Phase F) (start : Duration) :
    RunnerM F σ (SimulatorFrame F) := do
  executeAction B phase.action
  let frame ← nextFrame B (.phase phase start) (.fromSecs 1)
  acceptPhaseFrame frame phase.action.isDisarm
  pure frame

/-- An accepted frame is later than the one before. -/
theorem phaseRound_advances {phase : Phase F} {start : Duration} {s t : Session F σ}
    {frame : SimulatorFrame F} (h : (phaseRound B phase start).exec s = (.ok frame, t)) :
    s.runner.lastSimulationTime < t.runner.lastSimulationTime ∧
      t.runner.lastSimulationTime = frame.simulationTime := by
  have hround : Runs (fun self _ => self.lastSimulationTime = s.runner.lastSimulationTime)
      (phaseRound B phase start)
      (fun frame self _ => s.runner.lastSimulationTime < self.lastSimulationTime ∧
        self.lastSimulationTime = frame.simulationTime) fun _ _ => True := by
    refine ((carries_time _).executeAction phase.action).bind fun _ => ?_
    refine Runs.bind (Q := fun _ self _ =>
      self.lastSimulationTime = s.runner.lastSimulationTime)
      (.nextFrame (fun _ _ _ h _ => h) fun _ _ _ _ _ => trivial) fun frame => ?_
    refine Runs.bind (.acceptPhaseFrame (fun self log htime hpasses => ?_)
      fun _ _ _ => trivial) fun _ => .pure fun _ _ => id
    exact ⟨htime ▸ (inspect_eq_none.mp hpasses).2.1, rfl⟩
  exact (hround s rfl).1 frame t h

/-- What a phase gathers from its frames. -/
structure Progress (F : Type) where
  maxAltitude : F
  samples : List (TraceSample F)

/-- The sample of a frame, in a phase that began at `start`. -/
def SimulatorFrame.sample (frame : SimulatorFrame F) (start : Duration) : TraceSample F where
  elapsed := (frame.simulationTime - start : Duration).asSecs
  simTimeUs := Duration.asMicros frame.simulationTime
  position := frame.vehicle.position
  velocity := frame.vehicle.velocity
  attitude := frame.vehicle.orientation

def Progress.record (progress : Progress F) (frame : SimulatorFrame F) (start : Duration) :
    Progress F where
  maxAltitude := Scalar.max progress.maxAltitude (-frame.vehicle.position[2])
  samples := progress.samples ++ [frame.sample start]

/-- The runner after it traced an accepted frame. -/
def MissionRunner.traced (self : MissionRunner F) (frame : SimulatorFrame F)
    (maxAltitude : F) : MissionRunner F :=
  { self with
    currentState := frame.vehicle
    maxAltitude := Scalar.max self.maxAltitude maxAltitude }

def Session.traced (s : Session F σ) (frame : SimulatorFrame F) (start : Duration)
    (maxAltitude : F) : Session F σ :=
  { s with
    runner := s.runner.traced frame maxAltitude
    log := s.log ++ [Event.sampled (frame.sample start)] }

@[simp] theorem Session.traced_lastSimulationTime (s : Session F σ) (frame : SimulatorFrame F)
    (start : Duration) (maxAltitude : F) :
    (s.traced frame start maxAltitude).runner.lastSimulationTime =
      s.runner.lastSimulationTime := rfl

/-- A later time within the phase leaves less of it. -/
theorem remaining_lt {start duration last time : ℕ} (hlater : last < time)
    (hwithin : time - start < duration) : start + duration - time < start + duration - last := by
  omega

/-- The loop of a phase that began at `start`. -/
def phaseLoop (B : SimulatorBackend F σ) (phase : Phase F) (start : Duration)
    (progress : Progress F) (s : Session F σ) :
    Except SimulatorError (Progress F) × Session F σ :=
  match _hround : (phaseRound B phase start).exec s with
  | (.error e, t) => (.error e, t)
  | (.ok frame, t) =>
    let progress := progress.record frame start
    let t := t.traced frame start progress.maxAltitude
    if phase.duration ≤ frame.simulationTime - start then (.ok progress, t)
    else phaseLoop B phase start progress t
termination_by start + phase.duration - s.runner.lastSimulationTime
decreasing_by
  rename_i helapsed
  obtain ⟨hlater, htime⟩ := phaseRound_advances _hround
  rw [Session.traced_lastSimulationTime, htime]
  exact remaining_lt (htime ▸ hlater) (not_le.mp helapsed)

theorem phaseLoop_error {phase : Phase F} {start : Duration} {progress : Progress F}
    {s t : Session F σ} {e : SimulatorError}
    (h : (phaseRound B phase start).exec s = (.error e, t)) :
    phaseLoop B phase start progress s = (.error e, t) := by
  rw [phaseLoop, h]

theorem phaseLoop_ok {phase : Phase F} {start : Duration} {progress : Progress F}
    {s t : Session F σ} {frame : SimulatorFrame F}
    (h : (phaseRound B phase start).exec s = (.ok frame, t)) :
    phaseLoop B phase start progress s =
      if phase.duration ≤ frame.simulationTime - start then
        (.ok (progress.record frame start),
          t.traced frame start (progress.record frame start).maxAltitude)
      else phaseLoop B phase start (progress.record frame start)
        (t.traced frame start (progress.record frame start).maxAltitude) := by
  rw [phaseLoop, h]

/-- The rule of the loop: a round takes `I` to `M`, and a frame on which the loop ends takes `M`
to the postcondition, any other back to `I`. -/
theorem Runs.phaseLoop {phase : Phase F} {start : Duration}
    {I Q : Progress F → MissionRunner F → List (Event F) → Prop}
    {M : Progress F → SimulatorFrame F → MissionRunner F → List (Event F) → Prop}
    {E : MissionRunner F → List (Event F) → Prop}
    (hround : ∀ progress, Runs (I progress) (phaseRound B phase start) (M progress) E)
    (hlast : ∀ progress frame self log, M progress frame self log →
      phase.duration ≤ frame.simulationTime - start →
      Q (progress.record frame start)
        (self.traced frame (progress.record frame start).maxAltitude)
        (log ++ [Event.sampled (frame.sample start)]))
    (hnext : ∀ progress frame self log, M progress frame self log →
      I (progress.record frame start)
        (self.traced frame (progress.record frame start).maxAltitude)
        (log ++ [Event.sampled (frame.sample start)])) (progress : Progress F) :
    Runs (I progress) (Missions.phaseLoop B phase start progress) Q E := by
  intro s
  induction progress, s using Missions.phaseLoop.induct B phase start with
  | case1 progress s e t hexec =>
    intro hs
    have hloop : Fallible.exec (Missions.phaseLoop B phase start progress) s = (.error e, t) :=
      phaseLoop_error hexec
    rw [hloop]
    refine ⟨fun a u hrun => ?_, fun e' u hrun => ?_⟩
    · cases hrun
    · cases hrun
      exact (hround progress s hs).2 e _ hexec
  | case2 progress s frame t hexec helapsed =>
    intro hs
    have hM := (hround progress s hs).1 frame t hexec
    have hloop : Fallible.exec (Missions.phaseLoop B phase start progress) s =
        (.ok (progress.record frame start),
          t.traced frame start (progress.record frame start).maxAltitude) :=
      (phaseLoop_ok hexec).trans (if_pos helapsed)
    rw [hloop]
    refine ⟨fun a u hrun => ?_, fun e' u hrun => ?_⟩
    · cases hrun
      exact hlast progress frame _ _ hM helapsed
    · cases hrun
  | case3 progress s frame t hexec progress' t' helapsed ih =>
    intro hs
    have hM := (hround progress s hs).1 frame t hexec
    have hloop : Fallible.exec (Missions.phaseLoop B phase start progress) s =
        Fallible.exec (Missions.phaseLoop B phase start progress') t' :=
      (phaseLoop_ok hexec).trans (if_neg helapsed)
    rw [hloop]
    exact ih (hnext progress frame _ _ hM)

/-! ## Phases and missions -/

variable [TotalCmp F] [Libm F]

def MissionRunner.verifyCriterion (self : MissionRunner F) (phaseMaxAltitude : F)
    (samples : List (TraceSample F)) :
    PhaseCriterion F → Except AccessFault (CriterionResult F)
  | .ofTrace criterion => Missions.verifyCriterion samples criterion
  | .armed expected => .ok (booleanResult "armed" self.armed expected)
  | .minAltitude minimum => .ok (minimumResult "min_altitude" phaseMaxAltitude minimum)
  | .maxAltitude maximum =>
    .ok (maximumResult "max_altitude" (-self.currentState.position[2]) maximum)
  | .altitudeHold target tolerance =>
    .ok (altitudeHold (-self.currentState.position[2]) target tolerance)
  | .positionHold target tolerance =>
    .ok (positionResult "position_hold" self.currentState.position target tolerance)
  | .maxDrift maximum => .ok (maxDrift self.currentState.position self.startPosition maximum)
  | .sensorDataReceived => .ok (sensorDataReceived self.lastStep)
  | .reachedWaypoint target tolerance => .ok (reachedWaypoint samples target tolerance)
  | .returnedNear targetNed tolerance =>
    .ok (positionResult "returned_near" self.currentState.position targetNed tolerance)
  | .touchdownVelocity maxDescentMps groundTolerance =>
    .ok (touchdownVelocity samples maxDescentMps groundTolerance)

/-- The verdicts on all criteria of a phase. -/
def MissionRunner.verdicts (self : MissionRunner F) (phase : Phase F) (progress : Progress F) :
    Except AccessFault (List (CriterionResult F)) :=
  phase.verify.mapM (self.verifyCriterion progress.maxAltitude progress.samples)

variable (B : SimulatorBackend F σ)

def runPhase (phase : Phase F) : RunnerM F σ (Except AccessFault (PhaseResult F)) := do
  let status ← callStatus B
  let start := status.simulationTime
  let progress ← phaseLoop B phase start ⟨lit 0, []⟩
  let self ← getRunner
  match self.verdicts phase progress with
  | .error fault => pure (.error fault)
  | .ok criteriaResults => do
    let status ← callStatus B
    pure (.ok {
      name := phase.name
      passed := criteriaResults.all (·.passed)
      durationActual := status.simulationTime - start
      maxAltitude := progress.maxAltitude
      finalPosition := self.currentState.position
      criteriaResults
      samples := progress.samples })

/-- The phases still to run, after some results. -/
def runPhases (results : List (PhaseResult F)) (passed : Bool) :
    List (Phase F) → RunnerM F σ (Except AccessFault (List (PhaseResult F) × Bool))
  | [] => pure (.ok (results, passed))
  | phase :: later => do
    match ← (runPhase B phase).attempt with
    | .error _ => pure (.ok (results, false))
    | .ok (.error fault) => pure (.error fault)
    | .ok (.ok result) => runPhases (results ++ [result]) (passed && result.passed) later

def failedMission (mission : Mission F) : MissionResult F where
  missionName := mission.name
  passed := false
  phases := []
  totalDuration := 0
  maxAltitude := lit 0

def succeeded (answer : Except SimulatorError α) : Bool :=
  match answer with
  | .ok _ => true
  | .error _ => false

/-- The end of a run that was prepared: stop, and report. -/
def completeMission (mission : Mission F) (missionStart : Duration)
    (phases : List (PhaseResult F)) (passed : Bool) : RunnerM F σ (MissionResult F) := do
  let stopped ← (executeDirective B .stop (.fromSecs 10)).attempt
  let status ← callStatus B
  let self ← getRunner
  pure {
    missionName := mission.name
    passed := passed && succeeded stopped
    phases
    totalDuration := status.simulationTime - missionStart
    maxAltitude := self.maxAltitude }

def runWithPreparation (mission : Mission F) (reset : Bool) :
    RunnerM F σ (Except AccessFault (MissionResult F)) := do
  match ← (prepareMission B (.fromSecs 10) reset).attempt with
  | .error _ => pure (.ok (failedMission mission))
  | .ok missionStart => do
    match ← runPhases B [] true mission.phases with
    | .error fault => pure (.error fault)
    | .ok (phases, passed) => do
      let result ← completeMission B mission missionStart phases passed
      pure (.ok result)

/-- `run`. -/
def run (mission : Mission F) : RunnerM F σ (Except AccessFault (MissionResult F)) :=
  runWithPreparation B mission true

def runFromCurrentState (mission : Mission F) :
    RunnerM F σ (Except AccessFault (MissionResult F)) :=
  runWithPreparation B mission false

/-- A fresh runner on a backend. -/
def Session.fresh (backend : σ) : Session F σ := ⟨.new, backend, []⟩

end Phases

end Aviate.Missions

end MissionExecution

section MissionVerdicts

/-!
# What the mission criteria decide

Each criterion reads its trace once. This module compares the verdicts with what the criteria are
declared to mean, over exact arithmetic with explicit non-finite values.

Results:
1. `velocityTracksPosition_ok`: the windows of the velocity criterion never leave the trace, and
   none of its divisors is zero, for simulator times in any order.
2. `trajectoryTracking_passes_iff`: the greedy visit of the waypoints succeeds exactly when some
   strictly increasing samples within the time limit visit them in order.
3. `stableHover_passes_iff`: the hover criterion passes exactly when a run in the band spans the
   hold time, or the hold time is not positive.
4. `worst_le_iff`: a running maximum steps over NaN. So the criteria on every sample pass exactly
   when no deviation that is a number is beyond its bound.
5. `decides_iff`: a criterion means what it declares on a trace exactly when `MeasuredBy` holds:
   no sample it reads is non-finite, unless another one breaks a bound, and no hold time is met by
   no sample at all.
-/

namespace ExactFloat

variable {K : Type*} [LinearOrder K] {m x y t : ExactFloat K}

theorem le_iff : le x y = true ↔ x ≠ nan ∧ y ≠ nan ∧ lt y x = false := by
  cases x <;> cases y <;> simp [le]

theorem ne_nan_of_lt (h : lt x y = true) : y ≠ nan := by
  rintro rfl
  cases x <;> cases h

theorem lt_of_le_of_lt (h : le x y = true) (h' : lt y t = true) : lt x t = true := by
  cases x with
  | fin a =>
    cases y with
    | fin b =>
      cases t with
      | fin c =>
        have hab : a ≤ b := by simpa using h
        have hbc : b < c := by simpa using h'
        simpa using hab.trans_lt hbc
      | posInf => rfl
      | negInf => cases h'
      | nan => cases h'
    | posInf => cases t <;> cases h'
    | negInf => cases h
    | nan => cases h
  | posInf =>
    cases y with
    | posInf => exact h'
    | fin b => cases h
    | negInf => cases h
    | nan => cases h
  | negInf =>
    cases t with
    | fin c => rfl
    | posInf => rfl
    | negInf => cases y <;> cases h'
    | nan => cases y <;> cases h'
  | nan => cases y <;> cases h

theorem le_of_lt (h : lt x y = true) : le x y = true := by
  cases x with
  | fin a =>
    cases y with
    | fin b => simpa using (of_decide_eq_true h).le
    | posInf => rfl
    | negInf => cases h
    | nan => cases h
  | posInf => cases y <;> cases h
  | negInf => cases y <;> first | rfl | cases h
  | nan => cases y <;> cases h

theorem le_trans (h : le x y = true) (h' : le y t = true) : le x t = true := by
  refine le_iff.mpr ⟨(le_iff.mp h).1, (le_iff.mp h').2.1, ?_⟩
  by_contra hlt
  rw [Bool.not_eq_false] at hlt
  have hback := lt_of_le_of_lt h' hlt
  rw [(le_iff.mp h).2.2] at hback
  cases hback

/-- A maximum that steps over NaN is at most `t` when the one side is and the other is not
beyond it. -/
theorem le_ite_lt : le (if lt m x then x else m) t = true ↔ le m t = true ∧ lt t x = false := by
  split
  · next h =>
    constructor
    · intro hx
      exact ⟨le_trans (le_of_lt h) hx, (le_iff.mp hx).2.2⟩
    · rintro ⟨hm, hx⟩
      exact le_iff.mpr ⟨ne_nan_of_lt h, (le_iff.mp hm).2.1, hx⟩
  · next h =>
    refine ⟨fun hm => ⟨hm, ?_⟩, fun hm => hm.1⟩
    by_contra hlt
    rw [Bool.not_eq_false] at hlt
    exact h (lt_of_le_of_lt hm hlt)

/-- `f32::max` against a number keeps the larger. -/
theorem max_of_ne_nan {K : Type} [Field K] [LinearOrder K] {m x : ExactFloat K} (hm : m ≠ nan) :
    Aviate.Scalar.max m x = if lt m x then x else m := by
  have hself : ∀ {a : ExactFloat K}, a ≠ nan → le a a = true := by
    intro a ha
    cases a with
    | fin a => simp
    | posInf => rfl
    | negInf => rfl
    | nan => exact absurd rfl ha
  unfold Aviate.Scalar.max
  simp only [Aviate.le_exact, Aviate.lt_exact, hself hm, Bool.not_true, Bool.false_eq_true,
    if_false]
  cases x with
  | nan => cases m <;> rfl
  | fin b => simp
  | posInf => simp [le, lt]
  | negInf => simp [le, lt]

end ExactFloat

namespace Aviate.Missions

open ExactFloat (fin le lt)

variable {K : Type} [LinearOrder K]

/-! ## Running maxima -/

section Worst

variable {α : Type} {deviation : α → ExactFloat K} {xs : List α} {worst bound : ExactFloat K}

/-- A running maximum of deviations is within a bound exactly when its start is and no deviation
is beyond it. A NaN deviation is beyond nothing. -/
theorem worst_le_iff :
    le (xs.foldl (fun m x => if lt m (deviation x) then deviation x else m) worst) bound = true ↔
      le worst bound = true ∧ ∀ x ∈ xs, lt bound (deviation x) = false := by
  induction xs generalizing worst with
  | nil => simp
  | cons x xs ih =>
    rw [List.foldl_cons, ih, ExactFloat.le_ite_lt, List.forall_mem_cons, and_assoc]

variable [Field K]

theorem foldl_max_eq (hworst : worst ≠ .nan) :
    xs.foldl (fun m x => Scalar.max m (deviation x)) worst =
      xs.foldl (fun m x => if lt m (deviation x) then deviation x else m) worst := by
  induction xs generalizing worst with
  | nil => rfl
  | cons x xs ih =>
    rw [List.foldl_cons, List.foldl_cons, ExactFloat.max_of_ne_nan hworst]
    refine ih ?_
    split
    · next h => exact ExactFloat.ne_nan_of_lt h
    · exact hworst

/-- No bound is broken: both are at least 0, and no deviation is beyond its own. -/
def Unbroken (d₁ d₂ : α → ExactFloat K) (b₁ b₂ : ExactFloat K) (xs : List α) : Prop :=
  (le (fin 0) b₁ = true ∧ le (fin 0) b₂ = true) ∧
    ∀ x ∈ xs, lt b₁ (d₁ x) = false ∧ lt b₂ (d₂ x) = false

/-- Every element is finite and both its deviations are numbers. -/
def Measured (finite : α → Prop) (d₁ d₂ : α → ExactFloat K) (xs : List α) : Prop :=
  ∀ x ∈ xs, finite x ∧ d₁ x ≠ .nan ∧ d₂ x ≠ .nan

/-- Every element is finite and both its deviations are within their bounds. -/
def EveryWithin (finite : α → Prop) (d₁ d₂ : α → ExactFloat K) (b₁ b₂ : ExactFloat K)
    (xs : List α) : Prop :=
  ∀ x ∈ xs, finite x ∧ le (d₁ x) b₁ = true ∧ le (d₂ x) b₂ = true

variable {finite : α → Prop} {d₁ d₂ : α → ExactFloat K} {b₁ b₂ : ExactFloat K}

theorem unbroken_iff :
    le (xs.foldl (fun m x => if lt m (d₁ x) then d₁ x else m) (fin 0)) b₁ = true ∧
      le (xs.foldl (fun m x => if lt m (d₂ x) then d₂ x else m) (fin 0)) b₂ = true ↔
      Unbroken d₁ d₂ b₁ b₂ xs := by
  rw [worst_le_iff, worst_le_iff, Unbroken, and_and_and_comm, ← forall₂_and]

/-- Where no bound is broken, all elements are within their bounds exactly when they are
measured. -/
theorem everyWithin_iff_measured (h : Unbroken d₁ d₂ b₁ b₂ xs) :
    EveryWithin finite d₁ d₂ b₁ b₂ xs ↔ Measured finite d₁ d₂ xs := by
  obtain ⟨⟨hb₁, hb₂⟩, hxs⟩ := h
  refine forall₂_congr fun x hx => and_congr_right fun _ => ?_
  obtain ⟨h₁, h₂⟩ := hxs x hx
  have hside : ∀ {d b : ExactFloat K}, le (fin 0) b = true → lt b d = false →
      (le d b = true ↔ d ≠ .nan) := by
    intro d b hb hd
    rw [ExactFloat.le_iff]
    exact ⟨fun h => h.1, fun h => ⟨h, (ExactFloat.le_iff.mp hb).2.1, hd⟩⟩
  rw [hside hb₁ h₁, hside hb₂ h₂]

/-- A criterion that passes exactly when its bounds are unbroken decides what it declares exactly
when unbroken bounds come from measured samples. -/
theorem within_iff_measured :
    (Unbroken d₁ d₂ b₁ b₂ xs → EveryWithin finite d₁ d₂ b₁ b₂ xs) ↔
      (Unbroken d₁ d₂ b₁ b₂ xs → Measured finite d₁ d₂ xs) :=
  forall_congr' everyWithin_iff_measured

/-- An empty trace is within every bound. -/
theorem nonempty_within_iff :
    (xs ≠ [] ∧ Unbroken d₁ d₂ b₁ b₂ xs → EveryWithin finite d₁ d₂ b₁ b₂ xs) ↔
      (Unbroken d₁ d₂ b₁ b₂ xs → EveryWithin finite d₁ d₂ b₁ b₂ xs) := by
  constructor
  · intro h hunbroken
    cases xs with
    | nil => exact fun x hx => nomatch hx
    | cons x xs => exact h ⟨List.cons_ne_nil _ _, hunbroken⟩
  · exact fun h hboth => h hboth.2

end Worst

/-! ## Hover -/

section Hover

variable [Field K] {samples : List (TraceSample (ExactFloat K))}

/-- Elapsed times are numbers that do not decrease. -/
structure OrderedTimes (samples : List (TraceSample (ExactFloat K))) : Prop where
  finite : ∀ s ∈ samples, s.elapsed.isFinite = true
  ordered : samples.Pairwise fun s t => le s.elapsed t.elapsed = true

theorem OrderedTimes.vals (h : OrderedTimes samples) :
    samples.Pairwise fun s t => s.elapsed.val ≤ t.elapsed.val := by
  refine (List.pairwise_iff_forall_sublist.mpr fun {s t} hsub => ?_)
  have hle := List.pairwise_iff_forall_sublist.mp h.ordered hsub
  have hs := h.finite s (hsub.subset (by simp))
  have ht := h.finite t (hsub.subset (by simp))
  rw [ExactFloat.eq_fin_val hs, ExactFloat.eq_fin_val ht] at hle
  simpa using hle

/-- Over finite times the fold computes the longest run. -/
theorem foldl_hoverStep {altitude tolerance : ExactFloat K}
    (hfinite : ∀ s ∈ samples, s.elapsed.isFinite = true) (best : K) (start : Option K) :
    (samples.foldl (hoverStep altitude tolerance) (fin best, start.map fin)).1 =
      fin (samples.foldl (longestRunStep (inBand altitude tolerance) (·.elapsed.val))
        (best, start)).1 := by
  induction samples generalizing best start with
  | nil => rfl
  | cons s samples ih =>
    rw [List.forall_mem_cons] at hfinite
    obtain ⟨a, ha⟩ := ExactFloat.isFinite_iff.mp hfinite.1
    rw [List.foldl_cons, List.foldl_cons, longestRunStep, ha, ExactFloat.val_fin]
    by_cases hband : inBand altitude tolerance s = true
    · rw [if_pos hband, ← ih hfinite.2]
      congr 2
      have hstart : (start.map fin).getD (fin a) = fin (start.getD a) := by
        cases start <;> rfl
      rw [hoverStep, if_pos hband, ha]
      simp only [hstart]
      rw [ExactFloat.max_of_ne_nan (by simp), ExactFloat.fin_sub_fin, ExactFloat.lt_fin,
        Option.map_some]
      congr 1
      by_cases hlt : best < a - start.getD a
      · rw [if_pos (decide_eq_true hlt), max_eq_right hlt.le]
      · rw [if_neg (by rw [decide_eq_false hlt]; decide), max_eq_left (not_lt.mp hlt)]
    · rw [if_neg hband, hoverStep, if_neg hband]
      exact ih hfinite.2 best none

/-- A run in the band covers a span of time that reaches the hold time. -/
def HeldFor (altitude tolerance holdSecs : ExactFloat K)
    (samples : List (TraceSample (ExactFloat K))) : Prop :=
  RunSpans (inBand altitude tolerance) (·.elapsed) (fun span => le holdSecs span = true) samples

theorem heldFor_iff {altitude tolerance holdSecs : ExactFloat K}
    (hfinite : ∀ s ∈ samples, s.elapsed.isFinite = true) :
    HeldFor altitude tolerance holdSecs samples ↔
      RunSpans (inBand altitude tolerance) (·.elapsed.val)
        (fun span => le holdSecs (fin span) = true) samples := by
  refine exists₄_congr fun i j first last => and_congr_right fun _ => and_congr_right fun hfirst =>
    and_congr_right fun hlast => and_congr_right fun _ => ?_
  have h₁ := hfinite first (List.mem_of_getElem? hfirst)
  have h₂ := hfinite last (List.mem_of_getElem? hlast)
  have hsub : last.elapsed - first.elapsed = fin (last.elapsed.val - first.elapsed.val) := by
    conv_lhs => rw [ExactFloat.eq_fin_val h₁, ExactFloat.eq_fin_val h₂]
    exact ExactFloat.fin_sub_fin
  rw [hsub]

/-- A sample in the band is held for no time at all. -/
theorem HeldFor.of_inBand {altitude tolerance holdSecs : ExactFloat K}
    (hfinite : ∀ s ∈ samples, s.elapsed.isFinite = true)
    (hhold : le holdSecs (fin 0) = true)
    (hband : ∃ s ∈ samples, inBand altitude tolerance s = true) :
    HeldFor altitude tolerance holdSecs samples := by
  obtain ⟨s, hs, hin⟩ := hband
  obtain ⟨i, hi⟩ := List.mem_iff_getElem?.mp hs
  refine (heldFor_iff hfinite).mpr ⟨i, i, s, s, le_rfl, hi, hi, fun k t hik hki ht => ?_, ?_⟩
  · obtain rfl := le_antisymm hik hki
    rw [hi, Option.some.injEq] at ht
    exact ht ▸ hin
  · rwa [sub_self]

theorem HeldFor.exists_inBand {altitude tolerance holdSecs : ExactFloat K}
    (h : HeldFor altitude tolerance holdSecs samples) :
    ∃ s ∈ samples, inBand altitude tolerance s = true := by
  obtain ⟨i, j, first, last, hij, hfirst, -, haccept, -⟩ := h
  exact ⟨first, List.mem_of_getElem? hfirst, haccept i first le_rfl hij hfirst⟩

variable [IsStrictOrderedRing K]

theorem stableHover_passes_iff {altitude tolerance holdSecs : ExactFloat K}
    (htimes : OrderedTimes samples) :
    (stableHover samples altitude tolerance holdSecs).passed = true ↔
      le holdSecs (fin 0) = true ∨ HeldFor altitude tolerance holdSecs samples := by
  have hbest : (samples.foldl (hoverStep altitude tolerance) (fin 0, none)).1 = fin _ :=
    foldl_hoverStep htimes.finite 0 none
  have hpass : (stableHover samples altitude tolerance holdSecs).passed =
      le holdSecs (fin (longestRun (inBand altitude tolerance) (·.elapsed.val) samples).1) := by
    rw [longestRun, ← hbest]
    simp [stableHover]
  have hup : ∀ a b : K, a ≤ b → le holdSecs (fin a) = true → le holdSecs (fin b) = true := by
    intro a b hab ha
    exact ExactFloat.le_trans ha (by simpa using hab)
  rw [hpass, heldFor_iff htimes.finite]
  exact longestRun_iff hup htimes.vals

end Hover

/-! ## Waypoints -/

section Waypoints

variable [Field K] [Libm (ExactFloat K)] {samples : List (TraceSample (ExactFloat K))}
variable {waypoints : List (Vector (ExactFloat K) 3)} {tolerance : ExactFloat K}

/-- The sample is within the tolerance of the waypoint. -/
def near (tolerance : ExactFloat K) (sample : TraceSample (ExactFloat K))
    (waypoint : Vector (ExactFloat K) 3) : Bool :=
  le (distance sample.position waypoint) tolerance

/-- The loop leaves as many waypoints unvisited as the greedy match does. -/
theorem visitWaypoints_eq (visited : Nat) (time : Option (ExactFloat K))
    (hvisited : visited ≤ waypoints.length) :
    (visitWaypoints waypoints tolerance samples (visited, time)).1 +
      (matchInOrder (near tolerance) samples (waypoints.drop visited)).length =
      waypoints.length := by
  induction samples generalizing visited time with
  | nil =>
    have hnil : ∀ goals : List (Vector (ExactFloat K) 3),
        matchInOrder (near tolerance) ([] : List (TraceSample (ExactFloat K))) goals = goals := by
      intro goals
      cases goals <;> rfl
    rw [hnil, visitWaypoints, List.length_drop]
    exact Nat.add_sub_cancel' hvisited
  | cons s samples ih =>
    rw [visitWaypoints]
    rcases hvisited.lt_or_eq with hlt | heq
    · have hnear : Scalar.le (distance s.position waypoints[visited]) tolerance =
          near tolerance s waypoints[visited] := rfl
      rw [List.getElem?_eq_getElem hlt, List.drop_eq_getElem_cons hlt, matchInOrder]
      dsimp only
      rw [hnear]
      split
      · exact ih (visited + 1) _ hlt
      · rw [← List.drop_eq_getElem_cons hlt]
        exact ih visited time hvisited
    · rw [heq, List.getElem?_eq_none le_rfl, List.drop_length, matchInOrder_nil_right]
      rfl

theorem trajectoryTracking_passes_iff {maxTime : ExactFloat K}
    (hordered : samples.Pairwise fun s t => le s.elapsed t.elapsed = true) :
    (trajectoryTracking samples waypoints tolerance maxTime).passed = true ↔
      VisitsInOrder (fun s waypoint => le s.elapsed maxTime = true ∧
        near tolerance s waypoint = true) samples waypoints := by
  have hcut : samples.takeWhile (fun s => le s.elapsed maxTime) =
      samples.filter fun s => le s.elapsed maxTime :=
    takeWhile_eq_filter (hordered.imp fun hst ht => ExactFloat.le_trans hst ht)
  have hfilter : VisitsInOrder (fun s waypoint => near tolerance s waypoint = true)
      (samples.filter fun s => le s.elapsed maxTime) waypoints ↔
      VisitsInOrder (fun s waypoint => le s.elapsed maxTime = true ∧
        near tolerance s waypoint = true) samples waypoints := visitsInOrder_filter
  have hleft : (visitWaypoints waypoints tolerance
        (samples.takeWhile fun s => le s.elapsed maxTime) (0, none)).1 +
      (matchInOrder (near tolerance) (samples.takeWhile fun s => le s.elapsed maxTime)
        (waypoints.drop 0)).length = waypoints.length :=
    visitWaypoints_eq 0 none waypoints.length.zero_le
  rw [← hfilter, ← matchInOrder_eq_nil_iff, ← hcut, ← List.length_eq_zero_iff]
  rw [List.drop_zero] at hleft
  simp only [trajectoryTracking, le_exact, beq_iff_eq]
  omega

end Waypoints

/-! ## Excursions and attitudes -/

section Excursions

variable [Field K] {samples : List (TraceSample (ExactFloat K))}

/-- The magnitude of the worst angle is the running maximum of the magnitudes. -/
theorem abs_worseAngle (angle : TraceSample (ExactFloat K) → ExactFloat K)
    (worst : ExactFloat K) :
    (samples.foldl (fun m s => worseAngle m (angle s)) worst).abs =
      samples.foldl (fun m s => if lt m (angle s).abs then (angle s).abs else m) worst.abs := by
  induction samples generalizing worst with
  | nil => rfl
  | cons s samples ih =>
    rw [List.foldl_cons, List.foldl_cons, ih]
    congr 1
    simp only [worseAngle, lt_exact, abs_exact]
    split <;> rfl

variable [Libm (ExactFloat K)]

theorem worstXy_eq (center : Vector (ExactFloat K) 3) (worst : ExactFloat K × ExactFloat K) :
    (samples.foldl (worstXyStep center) worst).1 =
      samples.foldl (fun m s => if lt m (xyDeviation center s) then xyDeviation center s else m)
        worst.1 := by
  induction samples generalizing worst with
  | nil => rfl
  | cons s samples ih =>
    rw [List.foldl_cons, List.foldl_cons, ih]
    congr 1
    simp only [worstXyStep, lt_exact]
    split <;> rfl

theorem worstExcursion_le_iff {center : Vector (ExactFloat K) 3} {xy z : ExactFloat K} :
    (le (worstExcursion samples center).1 xy = true ∧
        le (worstExcursion samples center).2.1 z = true) ↔
      Unbroken (xyDeviation center) (zDeviation center) xy z samples := by
  have hz : samples.foldl (fun m s => Scalar.max m (zDeviation center s)) (fin 0) =
      samples.foldl (fun m s => if lt m (zDeviation center s) then zDeviation center s else m)
        (fin 0) := foldl_max_eq nofun
  rw [← unbroken_iff, ← hz]
  simp only [worstExcursion, worstXy_eq, lit_exact, Rat.cast_zero]

theorem stationKeeping_passes_iff {center : Vector (ExactFloat K) 3} {xy z : ExactFloat K} :
    (stationKeeping samples center xy z).passed = true ↔
      samples ≠ [] ∧ Unbroken (xyDeviation center) (zDeviation center) xy z samples := by
  rw [← worstExcursion_le_iff]
  simp [stationKeeping, and_assoc]

theorem maxExcursion_passes_iff {center : Vector (ExactFloat K) 3} {xy z : ExactFloat K} :
    (maxExcursion samples center xy z).passed = true ↔
      Unbroken (xyDeviation center) (zDeviation center) xy z samples := by
  rw [← worstExcursion_le_iff]
  simp [maxExcursion]

variable [IsStrictOrderedRing K]

theorem attitudeBounded_passes_iff {degrees : ExactFloat K} :
    (attitudeBounded samples degrees).passed = true ↔
      samples ≠ [] ∧ Unbroken (fun s => (roll s).abs) (fun s => (pitch s).abs)
        (toRadians degrees) (toRadians degrees) samples := by
  have hzero : (fin (0 : K)).abs = fin 0 := by
    simp [ExactFloat.abs]
  rw [← unbroken_iff]
  simp [attitudeBounded, abs_worseAngle, hzero, and_assoc]

end Excursions

/-! ## Velocity against position -/

section Velocity

/-- The element a `takeWhile` stops at does not meet the condition. -/
theorem getElem?_length_takeWhile {α : Type} {p : α → Bool} {xs : List α} {x : α}
    (h : xs[(xs.takeWhile p).length]? = some x) : p x = false := by
  induction xs with
  | nil => cases h
  | cons y xs ih =>
    cases hy : p y with
    | true =>
      rw [List.takeWhile_cons_of_pos hy, List.length_cons, List.getElem?_cons_succ] at h
      exact ih h
    | false =>
      rw [List.takeWhile_cons_of_neg (by simp [hy])] at h
      cases h
      exact hy

theorem foldlM_ok {α β ε : Type} {f : β → α → Except ε β} (hf : ∀ b x, ∃ r, f b x = .ok r)
    (xs : List α) (b : β) : ∃ r, xs.foldlM f b = .ok r := by
  induction xs generalizing b with
  | nil => exact ⟨b, rfl⟩
  | cons x xs ih =>
    obtain ⟨b', hb'⟩ := hf b x
    rw [List.foldlM_cons, hb']
    exact ih b'

/-- From a sample on, `end` stops strictly later, at a sample a whole baseline later. -/
theorem advanceEnd_spec {F : Type} {samples rest : List (TraceSample F)}
    {first sample : TraceSample F} {start last : Nat} (hdrop : samples.drop start = first :: rest)
    (hlast : start ≤ last) (h : samples[advanceEnd samples first last]? = some sample) :
    start < advanceEnd samples first last ∧ derivativeBaselineUs ≤ simTimeSince sample first := by
  constructor
  · rcases hlast.lt_or_eq with hlt | rfl
    · exact hlt.trans_le (Nat.le_add_right _ _)
    · have hself : simTimeSince first first < derivativeBaselineUs := by
        rw [simTimeSince, Nat.sub_self]
        decide
      rw [advanceEnd, hdrop, List.takeWhile_cons, if_pos (decide_eq_true hself), List.length_cons]
      exact Nat.lt_add_of_pos_right (Nat.succ_pos _)
  · rw [advanceEnd, ← List.getElem?_drop] at h
    have hstop := getElem?_length_takeWhile h
    exact not_lt.mp (of_decide_eq_false hstop)

variable [Field K] [IsStrictOrderedRing K]

theorem divide_ok {x : ExactFloat K} {q : ℚ} (hq : 0 < q) : ∃ r, divide x (lit q) = .ok r := by
  refine ⟨_, if_neg ?_⟩
  simp [Scalar.eq, hq]

theorem meanVelocity_ok {window : List (TraceSample (ExactFloat K))} (h : window ≠ []) :
    ∃ mean, meanVelocity window = .ok mean := by
  have hlength : (0 : ℚ) < window.length := by exact_mod_cast List.length_pos_iff.mpr h
  refine foldlM_ok (fun mean sample => ?_) _ _
  obtain ⟨x, hx⟩ := divide_ok (K := K) (x := sample.velocity[0]) hlength
  obtain ⟨y, hy⟩ := divide_ok (K := K) (x := sample.velocity[1]) hlength
  obtain ⟨z, hz⟩ := divide_ok (K := K) (x := sample.velocity[2]) hlength
  dsimp only
  rw [hx, hy, hz]
  exact ⟨_, rfl⟩

variable [Libm (ExactFloat K)] {samples : List (TraceSample (ExactFloat K))}

/-- The outer loop keeps `end` at or after `start`, so every window it opens lies in the trace
and spans a positive time. -/
theorem trackWindows_ok {start last : Nat} {rest : List (TraceSample (ExactFloat K))}
    {sums : Tracking (ExactFloat K)} (hdrop : samples.drop start = rest) (hlast : start ≤ last) :
    ∃ r, trackWindows samples start rest last sums = .ok r := by
  induction rest generalizing start last sums with
  | nil => exact ⟨sums, rfl⟩
  | cons first rest ih =>
    have hnext : samples.drop (start + 1) = rest := by
      rw [← List.drop_drop, hdrop, List.drop_one, List.tail_cons]
    unfold trackWindows
    dsimp only
    split
    · exact ⟨sums, rfl⟩
    · next sample hsample =>
      obtain ⟨hstart, hbaseline⟩ := advanceEnd_spec hdrop hlast hsample
      have helapsed : (0 : ℚ) < (simTimeSince sample first : ℚ) * (1 / 1000000) := by
        have hpos : (0 : ℚ) < simTimeSince sample first := by
          exact_mod_cast lt_of_lt_of_le (by decide) hbaseline
        positivity
      have hproduct : (lit (simTimeSince sample first : ℚ) * lit (1 / 1000000) : ExactFloat K) =
          lit ((simTimeSince sample first : ℚ) * (1 / 1000000)) := by
        simp only [lit_exact, ExactFloat.fin_mul_fin]
        congr 1
        push_cast
        ring
      obtain ⟨derived, hderived⟩ := divide_ok (K := K)
        (x := norm (sub sample.position first.position)) helapsed
      rw [hproduct, hderived]
      show ∃ r, (if Scalar.lt derived movingMps = true then _ else _) = Except.ok r
      split
      · exact ih hnext hstart
      · obtain ⟨hlength, -⟩ := List.getElem?_eq_some_iff.mp hsample
        have hslice : sliceInclusive samples start (advanceEnd samples first last) = .ok
            ((samples.drop start).take (advanceEnd samples first last + 1 - start)) :=
          if_pos ⟨by omega, hlength⟩
        have hwindow :
            (samples.drop start).take (advanceEnd samples first last + 1 - start) ≠ [] := by
          rw [hdrop, Nat.sub_add_comm hstart.le, List.take_succ_cons]
          exact List.cons_ne_nil _ _
        obtain ⟨mean, hmean⟩ := meanVelocity_ok hwindow
        rw [hslice]
        show ∃ r, (meanVelocity _ >>= _) = Except.ok r
        rw [hmean]
        exact ih hnext hstart

/-- The velocity criterion never indexes out of range or divides by zero. -/
theorem velocityTracksPosition_ok (tolerance : ExactFloat K) :
    ∃ r, velocityTracksPosition samples tolerance = .ok r := by
  obtain ⟨sums, hsums⟩ : ∃ r, trackWindows samples 0 samples 0 ⟨lit 0, lit 0, lit 0, 0⟩ = .ok r :=
    trackWindows_ok List.drop_zero le_rfl
  unfold velocityTracksPosition
  rw [hsums]
  show ∃ r, (if sums.moving = 0 then _ else _) = Except.ok r
  split
  · exact ⟨_, rfl⟩
  · next hmoving =>
    have hcount : (0 : ℚ) < sums.moving.toNat := by
      have : sums.moving.toNat ≠ 0 := fun h => hmoving (UInt32.toNat.inj h)
      exact_mod_cast Nat.pos_of_ne_zero this
    obtain ⟨derived, hderived⟩ := divide_ok (K := K) (x := sums.derivedSum) hcount
    obtain ⟨published, hpublished⟩ := divide_ok (K := K) (x := sums.publishedSum) hcount
    obtain ⟨error, herror⟩ := divide_ok (K := K) (x := sums.errorSum) hcount
    rw [hderived, hpublished, herror]
    exact ⟨_, rfl⟩

end Velocity

/-! ## The declared meaning -/

section Declared

variable [Field K] [Libm (ExactFloat K)]

def Passes (samples : List (TraceSample (ExactFloat K))) (c : Criterion (ExactFloat K)) : Prop :=
  ∃ r, verifyCriterion samples c = .ok r ∧ r.passed = true

/-- No component is an infinity or a NaN. -/
def AllFinite {n : Nat} (v : Vector (ExactFloat K) n) : Prop := ∀ i : Fin n, v[i].isFinite = true

/-- The verdict of a criterion on a trace is what the criterion declares. -/
def Decides (samples : List (TraceSample (ExactFloat K))) : Criterion (ExactFloat K) → Prop
  | .velocityTracksPosition tolerance =>
    ∃ r, verifyCriterion samples (.velocityTracksPosition tolerance) = .ok r
  | .stableHover altitude tolerance holdSecs =>
    Passes samples (.stableHover altitude tolerance holdSecs) ↔
      HeldFor altitude tolerance holdSecs samples
  | .stationKeeping center xyTolerance zTolerance =>
    Passes samples (.stationKeeping center xyTolerance zTolerance) →
      EveryWithin (fun s => AllFinite s.position) (xyDeviation center) (zDeviation center)
        xyTolerance zTolerance samples
  | .maxExcursion center xyMax zMax =>
    Passes samples (.maxExcursion center xyMax zMax) →
      EveryWithin (fun s => AllFinite s.position) (xyDeviation center) (zDeviation center)
        xyMax zMax samples
  | .trajectoryTracking waypoints tolerance maxTimeS =>
    Passes samples (.trajectoryTracking waypoints tolerance maxTimeS) ↔
      VisitsInOrder (fun s waypoint => le s.elapsed maxTimeS = true ∧
        le (distance s.position waypoint) tolerance = true) samples waypoints
  | .attitudeBounded maxDeg =>
    Passes samples (.attitudeBounded maxDeg) →
      EveryWithin (fun s => AllFinite s.attitude) (fun s => (roll s).abs) (fun s => (pitch s).abs)
        (toRadians maxDeg) (toRadians maxDeg) samples

/-- The verdict rests on measured samples: a criterion on every sample reads only finite ones, or
some bound is broken; a hold time that is not positive is asked for of a trace with a sample in
the band. -/
def MeasuredBy (samples : List (TraceSample (ExactFloat K))) : Criterion (ExactFloat K) → Prop
  | .velocityTracksPosition _ => True
  | .stableHover altitude tolerance holdSecs =>
    le holdSecs (fin 0) = true → ∃ s ∈ samples, inBand altitude tolerance s = true
  | .stationKeeping center xyTolerance zTolerance =>
    Unbroken (xyDeviation center) (zDeviation center) xyTolerance zTolerance samples →
      Measured (fun s => AllFinite s.position) (xyDeviation center) (zDeviation center) samples
  | .maxExcursion center xyMax zMax =>
    Unbroken (xyDeviation center) (zDeviation center) xyMax zMax samples →
      Measured (fun s => AllFinite s.position) (xyDeviation center) (zDeviation center) samples
  | .trajectoryTracking _ _ _ => True
  | .attitudeBounded maxDeg =>
    Unbroken (fun s => (roll s).abs) (fun s => (pitch s).abs) (toRadians maxDeg)
        (toRadians maxDeg) samples →
      Measured (fun s => AllFinite s.attitude) (fun s => (roll s).abs) (fun s => (pitch s).abs)
        samples

variable {samples : List (TraceSample (ExactFloat K))}

/-- For a criterion that does not fault, passing is the verdict of its function. -/
theorem passes_iff {c : Criterion (ExactFloat K)} {r : CriterionResult (ExactFloat K)}
    (h : verifyCriterion samples c = .ok r) : Passes samples c ↔ r.passed = true := by
  constructor
  · rintro ⟨r', hr', hpassed⟩
    obtain rfl := Except.ok.inj (h.symm.trans hr')
    exact hpassed
  · exact fun hpassed => ⟨r, h, hpassed⟩

/-- A sample of which the north position is not a number. -/
def unmeasuredTrace : List (TraceSample (ExactFloat ℚ)) :=
  [⟨.fin 0, 0, #v[.nan, .fin 0, .fin 0], .replicate 3 (.fin 0),
    #v[.fin 1, .fin 0, .fin 0, .fin 0]⟩]

/-- The vehicle of which no position is known keeps its station. -/
theorem unmeasured_stationKeeping :
    ¬ Decides unmeasuredTrace (.stationKeeping (.replicate 3 (.fin 0)) (.fin 1) (.fin 1)) := by
  intro h
  have hwithin := h ⟨_, rfl, by decide +kernel⟩ _ (List.mem_singleton_self _)
  exact absurd (hwithin.1 0) (by decide +kernel)

variable [IsStrictOrderedRing K]

/-- On a trace in order of time, each criterion decides what it declares exactly when its verdict
rests on measured samples. -/
theorem decides_iff (htimes : OrderedTimes samples) (c : Criterion (ExactFloat K)) :
    Decides samples c ↔ MeasuredBy samples c := by
  cases c with
  | velocityTracksPosition tolerance => exact iff_true_intro (velocityTracksPosition_ok tolerance)
  | stableHover altitude tolerance holdSecs =>
    show (Passes _ _ ↔ _) ↔ _
    rw [passes_iff rfl, stableHover_passes_iff htimes, or_iff_right_iff_imp]
    refine forall_congr' fun hhold => ?_
    exact ⟨HeldFor.exists_inBand, HeldFor.of_inBand htimes.finite hhold⟩
  | stationKeeping center xyTolerance zTolerance =>
    show (Passes _ _ → _) ↔ _
    rw [passes_iff rfl, stationKeeping_passes_iff, nonempty_within_iff, within_iff_measured]
    rfl
  | maxExcursion center xyMax zMax =>
    show (Passes _ _ → _) ↔ _
    rw [passes_iff rfl, maxExcursion_passes_iff, within_iff_measured]
    rfl
  | trajectoryTracking waypoints tolerance maxTimeS =>
    refine iff_true_intro ?_
    show Passes _ _ ↔ _
    rw [passes_iff rfl, trajectoryTracking_passes_iff htimes.ordered]
    rfl
  | attitudeBounded maxDeg =>
    show (Passes _ _ → _) ↔ _
    rw [passes_iff rfl, attitudeBounded_passes_iff, nonempty_within_iff, within_iff_measured]
    rfl

theorem decides_iff_unmeasured :
    Decides unmeasuredTrace (.stationKeeping (.replicate 3 (.fin 0)) (.fin 1) (.fin 1)) ↔
      MeasuredBy unmeasuredTrace (.stationKeeping (.replicate 3 (.fin 0)) (.fin 1) (.fin 1)) :=
  decides_iff ⟨fun s hs => by rw [List.mem_singleton.mp hs]; rfl, List.pairwise_singleton _ _⟩ _

end Declared

end Aviate.Missions

end MissionVerdicts

section HilSessions

/-!
# Sessions of the TCP link

`poll_truth`, `restart_session`, `sessions`, `send_actuators_at` and `wait_readable` of the backend
on its TCP link (`mavlink-hil/src/backend.rs`, `transport_tcp.rs`). A session is one connection of
the link. What the link does is noted in a log of its own, which says on which session bytes were
read; what a session says is what its own bytes are parsed to.

Results:
1. What a transport makes of its stream depends on its reassembly buffer alone (`feed_congr`), and
   it holds the newest truth states of it (`stateQuaternions_feed`).
2. The link holds truth states of the session it opened last and of no other, and those are states
   that were not taken before (`InStep`). It stays so at every operation of the backend.
-/

namespace Aviate.Hil

open Perturbation (SimActuatorCmd)

/-! ## Truth states of a stream -/

def HilMessage.truth? : HilMessage → Option HilStateQuaternion
  | .stateQuaternion state => some state
  | .heartbeat _ | .sensor _ | .gps _ | .actuatorControls _ => none

/-- The truth states among messages. -/
def truths (messages : List HilMessage) : List HilStateQuaternion :=
  messages.filterMap HilMessage.truth?

theorem truths_append (messages more : List HilMessage) :
    truths (messages ++ more) = truths messages ++ truths more := List.filterMap_append

namespace HilTcpTransport

variable {t u : HilTcpTransport} {data : Bytes}

theorem stateQuaternions_handleFrame (frame : MavFrame) :
    (t.handleFrame frame).stateQuaternions =
      (truths [frame.message]).foldl pushBounded t.stateQuaternions := by
  unfold handleFrame
  cases frame.message <;> rfl

theorem stateQuaternions_parseLoop (fuel offset : Nat) :
    (t.parseLoop fuel offset).2.1.stateQuaternions =
      (truths ((t.parseLoop fuel offset).1.map MavFrame.message)).foldl pushBounded
        t.stateQuaternions := by
  induction fuel generalizing t offset with
  | zero => rfl
  | succ fuel ih =>
    unfold parseLoop
    by_cases hoffset : offset < t.rx.length
    · simp only [if_pos hoffset]
      cases parseFrame (t.rx.drop offset) with
      | ok parsed =>
        dsimp only
        rw [ih, List.map_cons, ← List.singleton_append, truths_append, List.foldl_append]
        exact congrArg (List.foldl pushBounded · _) (stateQuaternions_handleFrame parsed.1)
      | error e =>
        cases e with
        | outOfRange => rfl
        | error e =>
          cases e with
          | incomplete => rfl
          | _ => exact ih _
    · simp only [if_neg hoffset]
      rfl

theorem stateQuaternions_processData :
    (t.processData data).2.stateQuaternions =
      (truths ((t.processData data).1.map MavFrame.message)).foldl pushBounded
        t.stateQuaternions := stateQuaternions_parseLoop _ 0

/-- The queue takes in the truth states of the stream. -/
theorem stateQuaternions_feed (chunks : List Bytes) :
    (t.feed chunks).2.stateQuaternions =
      (truths (t.feed chunks).1).foldl pushBounded t.stateQuaternions := by
  induction chunks generalizing t with
  | nil => rfl
  | cons chunk chunks ih =>
    simp only [feed]
    rw [ih, stateQuaternions_processData, truths_append, List.foldl_append]

/-- What is made of a chunk depends on the reassembly buffer alone. -/
theorem processData_congr (h : u.rx = t.rx) (data : Bytes) :
    (u.processData data).1 = (t.processData data).1 ∧
      (u.processData data).2.rx = (t.processData data).2.rx := by
  have hspec (v : HilTcpTransport) := @parseLoop_spec v.rx.length v 0 (Nat.le_refl _)
    (Nat.zero_le _)
  unfold processData
  rw [h]
  dsimp only
  generalize (if data.length > rxBufSize - t.rx.length then [] else t.rx) ++
    data.take rxBufSize = rx
  obtain ⟨hhandledU, hrxU, hdropU, -⟩ := hspec { u with rx }
  obtain ⟨hhandledT, hrxT, hdropT, -⟩ := hspec { t with rx }
  refine ⟨hhandledU.trans hhandledT.symm, ?_⟩
  rw [hrxU, hrxT]
  exact hdropU.trans hdropT.symm

/-- What is made of a stream depends on the reassembly buffer alone. -/
theorem feed_congr (h : u.rx = t.rx) (chunks : List Bytes) :
    (u.feed chunks).1 = (t.feed chunks).1 ∧ (u.feed chunks).2.rx = (t.feed chunks).2.rx := by
  induction chunks generalizing t u with
  | nil => exact ⟨rfl, h⟩
  | cons chunk chunks ih =>
    obtain ⟨hhandled, hrx⟩ := processData_congr h chunk
    obtain ⟨hlater, hend⟩ := ih hrx
    simp only [feed]
    exact ⟨by rw [hhandled, hlater], hend⟩

theorem feed_append (chunks more : List Bytes) :
    t.feed (chunks ++ more) =
      ((t.feed chunks).1 ++ ((t.feed chunks).2.feed more).1, ((t.feed chunks).2.feed more).2) := by
  induction chunks generalizing t with
  | nil => rfl
  | cons chunk chunks ih =>
    rw [List.cons_append]
    simp only [feed]
    rw [ih, List.append_assoc]

end HilTcpTransport

/-- A bounded queue holds the newest of what it held and takes in. -/
theorem foldl_pushBounded_suffix {α : Type} (values queue : List α) :
    values.foldl pushBounded queue <:+ queue ++ values := by
  induction values generalizing queue with
  | nil => rw [List.append_nil]; exact List.suffix_refl _
  | cons value values ih =>
    refine (ih _).trans ?_
    have hkept : (if queue.length = sensorQueueDepth then queue.tail else queue) <:+ queue := by
      split
      · exact List.tail_suffix _
      · exact List.suffix_refl _
    obtain ⟨lost, hlost⟩ := hkept
    refine ⟨lost, ?_⟩
    rw [pushBounded, List.append_assoc, ← List.append_assoc lost, hlost]
    rfl

/-! ## The log of the link -/

/-- What a poll does to the link: it opens a session, or reads from the one that is open. -/
inductive LinkReport where
  | quiet
  | opened
  | read (chunks : List Bytes)
deriving DecidableEq

/-- The sessions opened so far, numbered from one, and what was read on each. -/
structure LinkLog where
  opened : ℕ
  read : ℕ → List Bytes

namespace LinkLog

def empty : LinkLog := ⟨0, fun _ => []⟩

/-- Bytes are read on the session opened last: the link has one stream at a time. -/
def note (log : LinkLog) : LinkReport → LinkLog
  | .quiet => log
  | .opened => { log with opened := log.opened + 1 }
  | .read chunks =>
    { log with read := Function.update log.read log.opened (log.read log.opened ++ chunks) }

/-- The truth states of a session, parsed from its own bytes. -/
def heard (log : LinkLog) (session : ℕ) : List HilStateQuaternion :=
  truths (HilTcpTransport.idle.feed (log.read session)).1

end LinkLog

/-! ## The backend -/

namespace TcpLink

def report (link : TcpLink) (arrival : Arrival) : LinkReport :=
  if !link.connected then (if arrival.connects then .opened else .quiet)
  else .read arrival.chunks

/-- The newest truth sample; older ones are discarded. -/
def takeStateQuaternion (link : TcpLink) : Option HilStateQuaternion × TcpLink :=
  (link.transport.stateQuaternions.getLast?,
    { link with transport := { link.transport with stateQuaternions := [] } })

end TcpLink

/-- What a wait for a byte comes to. A link that cannot change its blocking mode fails. -/
inductive PeekOutcome where
  | data
  | ended
  | timedOut
  | failed
deriving DecidableEq, Repr

/-- `LOCKSTEP_ACTUATOR_FLAG`. -/
def lockstepActuatorFlag : UInt64 := 1

/-- `HilActuatorControls::MODE_FLAG_ARMED`. -/
def modeFlagArmed : UInt8 := 128

structure ActuatorSendReceipt where
  echoedTimestampUs : UInt64
  lockstep : Bool
deriving DecidableEq, Repr

def actuatorMessage (command : SimActuatorCmd) (lastSensorTimeUs linkTimeUs : UInt64) :
    HilActuatorControls where
  timeUsec := if lastSensorTimeUs = 0 then linkTimeUs else lastSensorTimeUs
  controls := Vector.ofFn fun i =>
    if i.val < min command.count.toNat 16 then command.outputs[i] else ⟨0⟩
  flags := lockstepActuatorFlag
  mode := if command.armed then modeFlagArmed else 0

/-- `SimActuatorCmd::default`. -/
def idleCommand : SimActuatorCmd := .new 0 4 false

/-- The backend on a TCP link, with the link's count of connections. -/
structure TruthBackend where
  backend : HilBackend
  connects : UInt64

namespace TruthBackend

/-- The link's connection attempt at the start. -/
def connectTcp (dialed : Bool) : TruthBackend :=
  let link : TcpLink := { connected := false, transport := .idle }
  { backend :=
      { link := if dialed then link.connect else link
        lastSensorTimeUs := 0
        resetPending := false
        resetTruth := none }
    connects := if dialed then 1 else 0 }

abbrev link (self : TruthBackend) : TcpLink := self.backend.link

def withLink (self : TruthBackend) (link : TcpLink) : TruthBackend :=
  { self with backend := { self.backend with link } }

def report (self : TruthBackend) (arrival : Arrival) : LinkReport := self.link.report arrival

/-- `connects` counts the sessions that polls open. -/
def countOpened (self : TruthBackend) : LinkReport → TruthBackend
  | .opened => { self with connects := self.connects + 1 }
  | .quiet | .read _ => self

def sessions (self : TruthBackend) : UInt64 := self.connects

/-- The session of the stream, while there is one. -/
def openSession (self : TruthBackend) : Option UInt64 :=
  if self.link.connected then some self.sessions else none

def poll (self : TruthBackend) (arrival : Arrival) : TruthBackend :=
  (self.countOpened (self.report arrival)).withLink (self.link.poll arrival).2

def pollTruth (self : TruthBackend) (arrival : Arrival) :
    Option HilStateQuaternion × TruthBackend :=
  let self := self.poll arrival
  let (state, link) := self.link.takeStateQuaternion
  (state, self.withLink link)

def clearGenerationState (self : TruthBackend) (arrival : Arrival) : TruthBackend :=
  { (self.countOpened (self.report arrival)) with
    backend := (self.backend.clearGenerationState arrival).2 }

/-- `reconnect`: drop the stream, so that the next poll redials. -/
def reconnect (self : TruthBackend) : TruthBackend := self.withLink self.link.disconnect

def restartSession (self : TruthBackend) (arrival : Arrival) : TruthBackend :=
  self.reconnect.clearGenerationState arrival

/-- Answer the truth sample of the time, which the reply echoes. -/
def sendActuatorsAt (self : TruthBackend) (command : SimActuatorCmd) (timeUsec : UInt64)
    (outcome : WriteOutcome) : Except SendError ActuatorSendReceipt × TruthBackend :=
  let message := actuatorMessage command timeUsec timeUsec
  let (result, link) := self.link.sendActuatorControls outcome
  (result.map fun _ =>
      { echoedTimestampUs := message.timeUsec
        lockstep := message.flags &&& lockstepActuatorFlag ≠ 0 },
    self.withLink link)

/-- A stream that ended or failed takes the link down. -/
def waitReadable (self : TruthBackend) (peek : PeekOutcome) : Bool × TruthBackend :=
  if !self.link.transport.sensors.isEmpty then (true, self)
  else if !self.link.connected then (false, self)
  else
    match peek with
    | .data => (true, self)
    | .timedOut => (false, self)
    | .ended | .failed => (false, self.withLink self.link.disconnect)

/-! ## In step with the log -/

/-- The backend against the log of its link. The first `settled` truth states of the session
opened last are not to be taken again. -/
structure InStep (adapter : TruthBackend) (log : LinkLog) (settled : ℕ) : Prop where
  connects : adapter.connects = .ofNat log.opened
  unopened : ∀ n, n = 0 ∨ log.opened < n → log.read n = []
  opened_pos : adapter.link.connected = true → 0 < log.opened
  rx : adapter.link.connected = true →
    adapter.link.transport.rx = (HilTcpTransport.idle.feed (log.read log.opened)).2.rx
  settled_le : settled ≤ (log.heard log.opened).length
  queue : adapter.link.transport.stateQuaternions <:+ (log.heard log.opened).drop settled

/-- Truth states to come are of sessions after the session. -/
def Past (self : TruthBackend) (log : LinkLog) (session : ℕ) : Prop :=
  session < log.opened ∨
    session = log.opened ∧ self.link.connected = false ∧
      self.link.transport.stateQuaternions = []

end TruthBackend

/-- On a new session nothing is settled. -/
def LinkReport.settled (settled : ℕ) : LinkReport → ℕ
  | .opened => 0
  | .quiet | .read _ => settled

namespace LinkLog

variable {log : LinkLog}

theorem opened_le_note (report : LinkReport) : log.opened ≤ (log.note report).opened := by
  cases report with
  | opened => exact Nat.le_succ _
  | quiet => exact Nat.le_refl _
  | read chunks => exact Nat.le_refl _

/-- What was heard stays heard. -/
theorem heard_prefix_note (report : LinkReport) (session : ℕ) :
    log.heard session <+: (log.note report).heard session := by
  cases report with
  | opened => exact List.prefix_refl _
  | quiet => exact List.prefix_refl _
  | read chunks =>
    unfold heard note
    by_cases h : session = log.opened
    · subst h
      simp only [Function.update_self]
      rw [HilTcpTransport.feed_append, truths_append]
      exact List.prefix_append _ _
    · simp only [Function.update_of_ne h]
      exact List.prefix_refl _

/-- What is read goes on where the reassembly buffer stands. -/
theorem heard_note_read {t : HilTcpTransport}
    (h : t.rx = (HilTcpTransport.idle.feed (log.read log.opened)).2.rx) (chunks : List Bytes) :
    (log.note (.read chunks)).heard log.opened =
        log.heard log.opened ++ truths (t.feed chunks).1 ∧
      (t.feed chunks).2.rx =
        (HilTcpTransport.idle.feed ((log.note (.read chunks)).read log.opened)).2.rx := by
  obtain ⟨hhandled, hrx⟩ := HilTcpTransport.feed_congr h chunks
  unfold heard note
  simp only [Function.update_self]
  rw [HilTcpTransport.feed_append, truths_append, hhandled, hrx]
  exact ⟨rfl, rfl⟩

end LinkLog

namespace TruthBackend

variable {self : TruthBackend} {log : LinkLog} {settled session : ℕ} {arrival : Arrival}
  {outcome : WriteOutcome} {peek : PeekOutcome} {command : SimActuatorCmd} {timeUsec : UInt64}

/-- What a poll does. -/
theorem poll_cases (self : TruthBackend) (arrival : Arrival) :
    (self.link.connected = false ∧ self.report arrival = .quiet ∧ self.poll arrival = self) ∨
    (self.link.connected = false ∧ self.report arrival = .opened ∧
      self.poll arrival =
        { self with connects := self.connects + 1 : TruthBackend }.withLink self.link.connect) ∨
    (self.link.connected = true ∧ self.report arrival = .read arrival.chunks ∧
      self.poll arrival = self.withLink (self.link.poll arrival).2) := by
  unfold poll
  rcases hup : self.link.connected with - | -
  · rcases hdial : arrival.connects with - | -
    · have hreport : self.report arrival = .quiet := by
        simp [report, TcpLink.report, hup, hdial]
      refine .inl ⟨rfl, hreport, ?_⟩
      rw [hreport]
      simp [TcpLink.poll, hup, hdial, countOpened, withLink]
    · have hreport : self.report arrival = .opened := by
        simp [report, TcpLink.report, hup, hdial]
      refine .inr (.inl ⟨rfl, hreport, ?_⟩)
      rw [hreport]
      simp [TcpLink.poll, hup, hdial, countOpened]
  · have hreport : self.report arrival = .read arrival.chunks := by
      simp [report, TcpLink.report, hup]
    refine .inr (.inr ⟨rfl, hreport, ?_⟩)
    rw [hreport]
    rfl

/-- The link's transport after a read. -/
theorem poll_read (arrival : Arrival) (h : self.link.connected = true) :
    (self.link.poll arrival).2.transport.stateQuaternions =
        (self.link.transport.feed arrival.chunks).2.stateQuaternions ∧
      ((self.link.poll arrival).2.connected = true →
        (self.link.poll arrival).2.transport.rx =
          (self.link.transport.feed arrival.chunks).2.rx) := by
  unfold TcpLink.poll
  simp only [h, Bool.not_true, Bool.false_eq_true, if_false]
  cases arrival.closes with
  | false => exact ⟨rfl, fun _ => rfl⟩
  | true => exact ⟨rfl, nofun⟩

/-- A reply takes the link down at most. -/
theorem sendActuatorsAt_cases (self : TruthBackend) (command : SimActuatorCmd) (timeUsec : UInt64)
    (outcome : WriteOutcome) :
    (self.sendActuatorsAt command timeUsec outcome).2 = self ∨
      (self.sendActuatorsAt command timeUsec outcome).2 = self.reconnect := by
  unfold sendActuatorsAt TcpLink.sendActuatorControls
  rcases self.link.connected with - | -
  · exact .inl rfl
  · cases outcome with
    | written => exact .inl rfl
    | wouldBlock => exact .inl rfl
    | short => exact .inr rfl
    | broken => exact .inr rfl

/-- A reply is written to the stream of the session opened last. -/
theorem openSession_of_sent {receipt : ActuatorSendReceipt}
    (h : (self.sendActuatorsAt command timeUsec outcome).1 = .ok receipt) :
    self.openSession = some self.sessions := by
  have hup : self.link.connected = true := by
    by_contra hdown
    unfold sendActuatorsAt TcpLink.sendActuatorControls at h
    rw [Bool.eq_false_of_not_eq_true hdown] at h
    cases h
  exact if_pos hup

/-- A wait takes the link down at most. -/
theorem waitReadable_cases (self : TruthBackend) (peek : PeekOutcome) :
    (self.waitReadable peek).2 = self ∨ (self.waitReadable peek).2 = self.reconnect := by
  unfold waitReadable
  split
  · exact .inl rfl
  · split
    · exact .inl rfl
    · cases peek with
      | data => exact .inl rfl
      | timedOut => exact .inl rfl
      | ended => exact .inr rfl
      | failed => exact .inr rfl

/-! ## The operations -/

namespace InStep

theorem connectTcp (dialed : Bool) :
    InStep (.connectTcp dialed) (LinkLog.empty.note (if dialed then .opened else .quiet)) 0 := by
  cases dialed with
  | false => exact ⟨rfl, fun _ _ => rfl, nofun, nofun, Nat.zero_le _, List.suffix_refl _⟩
  | true =>
    exact ⟨rfl, fun _ _ => rfl, fun _ => Nat.one_pos, fun _ => rfl, Nat.zero_le _,
      List.suffix_refl _⟩

/-- Taking the link down, or leaving it as it is, leaves the queue. -/
theorem withLink {link : TcpLink} (h : self.InStep log settled)
    (hlink : link.connected = true → self.link.connected = true ∧
      link.transport.rx = self.link.transport.rx)
    (hqueue : link.transport.stateQuaternions <:+ self.link.transport.stateQuaternions) :
    (self.withLink link).InStep log settled where
  connects := h.connects
  unopened := h.unopened
  opened_pos hup := h.opened_pos (hlink hup).1
  rx hup := (hlink hup).2.trans (h.rx (hlink hup).1)
  settled_le := h.settled_le
  queue := hqueue.trans h.queue

theorem poll (h : self.InStep log settled) (arrival : Arrival) :
    (self.poll arrival).InStep (log.note (self.report arrival))
      ((self.report arrival).settled settled) := by
  rcases poll_cases self arrival with ⟨-, hreport, hpoll⟩ | ⟨-, hreport, hpoll⟩ |
    ⟨hup, hreport, hpoll⟩
  · rw [hreport, hpoll]
    exact h
  · rw [hreport, hpoll]
    have hfresh : log.read (log.opened + 1) = [] := h.unopened _ (.inr (Nat.lt_succ_self _))
    refine ⟨?_, ?_, fun _ => Nat.succ_pos _, fun _ => ?_, Nat.zero_le _, List.nil_suffix⟩
    · show self.connects + 1 = .ofNat (log.opened + 1)
      rw [h.connects, UInt64.ofNat_add]
      rfl
    · rintro n (hzero | hn)
      · exact h.unopened n (.inl hzero)
      · exact h.unopened n (.inr (Nat.lt_of_succ_lt hn))
    · show [] = (HilTcpTransport.idle.feed (log.read (log.opened + 1))).2.rx
      rw [hfresh]
      rfl
  · rw [hreport, hpoll]
    obtain ⟨hstates, hrx⟩ := poll_read arrival hup
    obtain ⟨hheard, hend⟩ := LinkLog.heard_note_read (h.rx hup) arrival.chunks
    have hopened : (log.note (.read arrival.chunks)).opened = log.opened := rfl
    refine ⟨h.connects, ?_, fun _ => h.opened_pos hup, fun hstill => (hrx hstill).trans hend,
      ?_, ?_⟩
    · intro n hn
      have hother : n ≠ log.opened := by
        rcases hn with rfl | hn
        · exact Nat.ne_of_lt (h.opened_pos hup)
        · exact Nat.ne_of_gt hn
      exact (Function.update_of_ne hother _ _).trans (h.unopened n hn)
    · rw [hopened, hheard, List.length_append]
      exact Nat.le_add_right_of_le h.settled_le
    · show (self.link.poll arrival).2.transport.stateQuaternions <:+ _
      rw [hstates, HilTcpTransport.stateQuaternions_feed, hopened, hheard]
      refine (foldl_pushBounded_suffix _ _).trans ?_
      show _ <:+ List.drop settled _
      obtain ⟨skipped, hskipped⟩ := h.queue
      rw [List.drop_append_of_le_length h.settled_le, ← hskipped, List.append_assoc]
      exact List.suffix_append _ _

/-- A truth state taken is the newest one heard on the session opened last. Then all of that
session are settled. -/
theorem taken (h : self.InStep log settled) {state : HilStateQuaternion}
    (hstate : self.link.takeStateQuaternion.1 = some state) :
    0 < log.opened ∧ settled < (log.heard log.opened).length ∧
      (log.heard log.opened).getLast? = some state ∧
      (self.withLink self.link.takeStateQuaternion.2).InStep log
        (log.heard log.opened).length := by
  obtain ⟨skipped, hskipped⟩ := h.queue
  have hlast : ((log.heard log.opened).drop settled).getLast? = some state := by
    have hqueue : self.link.transport.stateQuaternions.getLast? = some state := hstate
    rw [← hskipped, List.getLast?_append, hqueue]
    rfl
  have hlong : settled < (log.heard log.opened).length := by
    by_contra hshort
    rw [List.drop_of_length_le (Nat.le_of_not_lt hshort)] at hlast
    cases hlast
  refine ⟨?_, hlong, ?_, ?_⟩
  · rcases Nat.eq_zero_or_pos log.opened with hzero | hpos
    · have hnone : log.heard log.opened = [] := by
        rw [LinkLog.heard, h.unopened _ (.inl hzero)]
        rfl
      rw [hnone] at hlong
      cases hlong
    · exact hpos
  · rw [List.getLast?_drop, if_neg (Nat.not_le_of_lt hlong)] at hlast
    exact hlast
  · exact ⟨h.connects, h.unopened, h.opened_pos, h.rx, Nat.le_refl _, List.nil_suffix⟩

theorem take_none (h : self.InStep log settled) :
    (self.withLink self.link.takeStateQuaternion.2).InStep log settled :=
  h.withLink (fun hup => ⟨hup, rfl⟩) List.nil_suffix

theorem reconnect (h : self.InStep log settled) : self.reconnect.InStep log settled :=
  h.withLink nofun (List.suffix_refl _)

theorem sendActuatorsAt (h : self.InStep log settled) :
    (self.sendActuatorsAt command timeUsec outcome).2.InStep log settled := by
  rcases self.sendActuatorsAt_cases command timeUsec outcome with hsame | hdown
  · rwa [hsame]
  · rw [hdown]
    exact h.reconnect

theorem waitReadable (h : self.InStep log settled) :
    (self.waitReadable peek).2.InStep log settled := by
  rcases self.waitReadable_cases peek with hsame | hdown
  · rwa [hsame]
  · rw [hdown]
    exact h.reconnect

/-- A restart is a poll of the link taken down, which keeps nothing. -/
theorem restartSession (h : self.InStep log settled) (arrival : Arrival) :
    (self.restartSession arrival).InStep (log.note (self.reconnect.report arrival))
      ((self.reconnect.report arrival).settled settled) := by
  have hpoll := h.reconnect.poll arrival
  refine ⟨hpoll.connects, hpoll.unopened, hpoll.opened_pos, fun hup => ?_, hpoll.settled_le,
    List.nil_suffix⟩
  have hempty : (self.reconnect.poll arrival).link.transport.rx = [] := by
    rcases poll_cases self.reconnect arrival with ⟨-, -, hsame⟩ | ⟨-, -, hopened⟩ | ⟨hup, -, -⟩
    · rw [hsame]
      rfl
    · rw [hopened]
      rfl
    · cases hup
  exact hempty.symm.trans (hpoll.rx hup)

end InStep

namespace Past

theorem lt_of_connected (h : self.Past log session) (hup : self.link.connected = true) :
    session < log.opened := by
  rcases h with hlater | ⟨-, hdown, -⟩
  · exact hlater
  · rw [hdown] at hup
    cases hup

theorem poll (h : self.Past log session) (arrival : Arrival) :
    (self.poll arrival).Past (log.note (self.report arrival)) session := by
  rcases poll_cases self arrival with ⟨-, hreport, hpoll⟩ | ⟨-, hreport, hpoll⟩ |
    ⟨hup, hreport, hpoll⟩
  · rw [hreport, hpoll]
    exact h
  · rw [hreport, hpoll]
    rcases h with hlater | ⟨hsame, -, -⟩
    · exact .inl (Nat.lt_succ_of_lt hlater)
    · exact .inl (Nat.lt_succ_of_le (Nat.le_of_eq hsame))
  · rw [hreport, hpoll]
    exact .inl (h.lt_of_connected hup)

/-- A truth state taken is of a later session. -/
theorem taken (h : self.Past log session) {state : HilStateQuaternion}
    (hstate : self.link.takeStateQuaternion.1 = some state) : session < log.opened := by
  rcases h with hlater | ⟨-, -, hempty⟩
  · exact hlater
  · rw [TcpLink.takeStateQuaternion, hempty] at hstate
    cases hstate

/-- A link that comes up only by a poll, and a queue that only shrinks. -/
theorem withLink {link : TcpLink} (h : self.Past log session)
    (hlink : link.connected = true → self.link.connected = true)
    (hqueue : link.transport.stateQuaternions <:+ self.link.transport.stateQuaternions) :
    (self.withLink link).Past log session := by
  rcases h with hlater | ⟨hsame, hdown, hempty⟩
  · exact .inl hlater
  · refine .inr ⟨hsame, ?_, ?_⟩
    · rw [hdown] at hlink
      exact Bool.eq_false_iff.mpr fun hup => nomatch hlink hup
    · rw [hempty] at hqueue
      exact List.suffix_nil.mp hqueue

theorem reconnect (h : self.Past log session) : self.reconnect.Past log session :=
  h.withLink nofun (List.suffix_refl _)

theorem sendActuatorsAt (h : self.Past log session) :
    (self.sendActuatorsAt command timeUsec outcome).2.Past log session := by
  rcases self.sendActuatorsAt_cases command timeUsec outcome with hsame | hdown
  · rwa [hsame]
  · rw [hdown]
    exact h.reconnect

theorem waitReadable (h : self.Past log session) : (self.waitReadable peek).2.Past log session := by
  rcases self.waitReadable_cases peek with hsame | hdown
  · rwa [hsame]
  · rw [hdown]
    exact h.reconnect

/-- After a restart every session opened before it is past. -/
theorem restartSession (hopened : session ≤ log.opened) :
    (self.restartSession arrival).Past (log.note (self.reconnect.report arrival)) session := by
  rcases Nat.lt_or_eq_of_le hopened with hlater | hsame
  · exact .inl (Nat.lt_of_lt_of_le hlater (LinkLog.opened_le_note _))
  · have hpoll : (self.reconnect.poll arrival).link.connected =
        (self.restartSession arrival).link.connected := rfl
    rcases poll_cases self.reconnect arrival with ⟨-, hreport, hpolled⟩ | ⟨-, hreport, -⟩ |
      ⟨hup, -, -⟩
    · refine .inr ⟨by rw [hreport]; exact hsame, ?_, rfl⟩
      rw [← hpoll, hpolled]
      rfl
    · rw [hreport]
      exact .inl (Nat.lt_succ_of_le hopened)
    · cases hup

end Past

end TruthBackend

end Aviate.Hil

end HilSessions

section PerturbationActuator

/-!
# Actuator perturbation

Authority scaling and the command hold. A hold works in decision intervals of eligible commands:
a seeded schedule selects positions of the interval, and a command at a selected position is
replaced by the last accepted one. A bypassed command passes through and starts a new epoch.
-/

namespace Aviate.Perturbation

open ByteBuffer

/-- `NOMINAL_BASIS_POINTS`. -/
def nominalBasisPoints : UInt16 := 10000

/-- `COMMAND_HOLD_DOMAIN`. -/
def commandHoldDomain : Bytes := "pilotage-command-hold-v1".toUTF8.toList

structure ActuatorApplication where
  requestedLanes : Lanes
  authorityScaledLanes : Lanes
  effectiveLanes : Lanes
  laneCount : UInt8
  requestedArmed : Bool
  kernelFallbackMask : UInt8
  eligibility : ActuatorEligibility
  prime : Bool
  intervalEpoch : Option UInt64
  intervalIndex : Option UInt64
  intervalPosition : Option UInt32
  intervalIdentity : Option Digest
  selectedHold : Bool
  appliedHold : Bool
  intervalComplete : Bool
deriving DecidableEq, Repr

structure HoldState where
  intervalEpoch : UInt64
  intervalIndex : UInt64
  intervalPosition : UInt32
  intervalFirstSequence : Option UInt64
  schedule : List Bool
  lastAccepted : Option Lanes
deriving DecidableEq, Repr

structure ActuatorEngine where
  identity : PerturbationIdentity
  config : ActuatorPerturbation
  state : HoldState
deriving DecidableEq, Repr

structure ApplicationInputs where
  requestedLanes : Lanes
  requestedArmed : Bool
  kernelFallbackMask : UInt8
  authorityScaledLanes : Lanes
deriving DecidableEq, Repr

structure HoldDecision where
  selected : Bool
  applied : Bool
  complete : Bool
deriving DecidableEq, Repr

/-! ## Configuration -/

/-- The held fraction times the interval, a product of a `u16` and a `u32` taken in `u64`. -/
def CommandHoldPerturbation.exactProduct (hold : CommandHoldPerturbation) : Nat :=
  hold.fractionBasisPoints.toNat * hold.decisionIntervalSamples.toNat

/-- How many commands of an interval are held. -/
def CommandHoldPerturbation.count (hold : CommandHoldPerturbation) : Nat :=
  hold.exactProduct / nominalBasisPoints.toNat

def validateActuatorConfig (config : ActuatorPerturbation) : Except PerturbationError Unit :=
  if !(5000 ≤ config.authorityScaleBasisPoints && config.authorityScaleBasisPoints ≤ 15000) then
    .error (.invalidAuthorityScale config.authorityScaleBasisPoints)
  else
    match config.commandHold with
    | none => .ok ()
    | some hold =>
      if !(1 ≤ hold.fractionBasisPoints && hold.fractionBasisPoints ≤ 1000) ||
          !(1 ≤ hold.decisionIntervalSamples && hold.decisionIntervalSamples ≤ 10000) ||
          hold.exactProduct % nominalBasisPoints.toNat != 0 then
        .error .invalidCommandHold
      else .ok ()

def scaleLane (lane : F32) (basisPoints : UInt16) : F32 :=
  F32.ofDouble (lane.toDouble * Float.ofNat basisPoints.toNat /
    Float.ofNat nominalBasisPoints.toNat)

/-- The first `count` lanes are scaled, in binary64. -/
def scaleAuthority (command : SimActuatorCmd) (basisPoints : UInt16) : SimActuatorCmd :=
  { command with
    outputs := Vector.ofFn fun i =>
      if i.val < command.count.toNat then scaleLane command.outputs[i] basisPoints
      else command.outputs[i] }

/-! ## Evidence -/

def bypassApplication (command : SimActuatorCmd) (inputs : ApplicationInputs)
    (reason : ActuatorBypassReason) : ActuatorApplication :=
  { requestedLanes := inputs.requestedLanes
    authorityScaledLanes := inputs.requestedLanes
    effectiveLanes := command.outputs
    laneCount := command.count
    requestedArmed := inputs.requestedArmed
    kernelFallbackMask := inputs.kernelFallbackMask
    eligibility := .bypass reason
    prime := false
    intervalEpoch := none
    intervalIndex := none
    intervalPosition := none
    intervalIdentity := none
    selectedHold := false
    appliedHold := false
    intervalComplete := false }

def eligibleApplication (command : SimActuatorCmd) (inputs : ApplicationInputs) :
    ActuatorApplication :=
  { requestedLanes := inputs.requestedLanes
    authorityScaledLanes := inputs.authorityScaledLanes
    effectiveLanes := command.outputs
    laneCount := command.count
    requestedArmed := inputs.requestedArmed
    kernelFallbackMask := inputs.kernelFallbackMask
    eligibility := .eligible
    prime := false
    intervalEpoch := none
    intervalIndex := none
    intervalPosition := none
    intervalIdentity := none
    selectedHold := false
    appliedHold := false
    intervalComplete := false }

def primeApplication (command : SimActuatorCmd) (inputs : ApplicationInputs) :
    ActuatorApplication :=
  { eligibleApplication command inputs with prime := true }

/-! ## Schedules -/

section Schedules

variable [Sha256]

/-- What the interval's hasher has taken in. -/
def intervalPreimage (identity : PerturbationIdentity) (epoch index firstSequence : UInt64) :
    Bytes :=
  commandHoldDomain ++ identity.conditionDigest.toList ++ u64Bytes identity.runSeed ++
    u64Bytes epoch ++ u64Bytes index ++ u64Bytes firstSequence

def intervalDigest (identity : PerturbationIdentity) (epoch index firstSequence : UInt64) :
    Digest :=
  Sha256.digest (intervalPreimage identity epoch index firstSequence)

/-- The first eight bytes of the digest, little-endian. -/
def permutationValue (identity : PerturbationIdentity) (epoch index firstSequence : UInt64)
    (cursor : UInt64) : UInt64 :=
  let bytes := Sha256.digest (intervalPreimage identity epoch index firstSequence ++
    u64Bytes cursor)
  bytes[0].toUInt64 ||| bytes[1].toUInt64 <<< 8 ||| bytes[2].toUInt64 <<< 16 |||
    bytes[3].toUInt64 <<< 24 ||| bytes[4].toUInt64 <<< 32 ||| bytes[5].toUInt64 <<< 40 |||
    bytes[6].toUInt64 <<< 48 ||| bytes[7].toUInt64 <<< 56

/-- Where the position at `cursor` is swapped to. -/
def swapTarget (identity : PerturbationIdentity) (epoch index firstSequence : UInt64)
    (cursor : Nat) : Nat :=
  let encoded := UInt64.ofNat cursor
  (permutationValue identity epoch index firstSequence encoded % (encoded + 1)).toNat

/-- `schedule`: the first positions of a shuffled interval are held. Its conversions between
`usize`, `u32` and `u64` are of values that all three hold. -/
def schedule (identity : PerturbationIdentity) (epoch index firstSequence : UInt64)
    (hold : CommandHoldPerturbation) : List Bool :=
  let size := hold.decisionIntervalSamples.toNat
  let positions := Shuffle.shuffle (swapTarget identity epoch index firstSequence) (size - 1)
    (Array.range size)
  Shuffle.mark (List.replicate size false) (positions.toList.take hold.count)

def intervalApplication (identity : PerturbationIdentity) (command : SimActuatorCmd)
    (inputs : ApplicationInputs) (state : HoldState) (decision : HoldDecision) :
    Except PerturbationError ActuatorApplication :=
  match state.intervalFirstSequence with
  | none => .error .invalidCommandHold
  | some firstSequence =>
    .ok
      { requestedLanes := inputs.requestedLanes
        authorityScaledLanes := inputs.authorityScaledLanes
        effectiveLanes := command.outputs
        laneCount := command.count
        requestedArmed := inputs.requestedArmed
        kernelFallbackMask := inputs.kernelFallbackMask
        eligibility := .eligible
        prime := false
        intervalEpoch := some state.intervalEpoch
        intervalIndex := some state.intervalIndex
        intervalPosition := some state.intervalPosition
        intervalIdentity := some
          (intervalDigest identity state.intervalEpoch state.intervalIndex firstSequence)
        selectedHold := decision.selected
        appliedHold := decision.applied
        intervalComplete := decision.complete }

end Schedules

/-! ## Hold state -/

namespace HoldState

def new : HoldState :=
  { intervalEpoch := 0, intervalIndex := 0, intervalPosition := 0, intervalFirstSequence := none
    schedule := [], lastAccepted := none }

def safetyReset (self : HoldState) : HoldState :=
  { intervalEpoch := self.intervalEpoch + 1, intervalIndex := 0, intervalPosition := 0
    intervalFirstSequence := none, schedule := [], lastAccepted := none }

def ensureSchedule [Sha256] (self : HoldState) (identity : PerturbationIdentity)
    (sequence : UInt64) (hold : CommandHoldPerturbation) : HoldState :=
  if !self.schedule.isEmpty then self
  else
    { self with
      intervalFirstSequence := some sequence
      schedule :=
        Perturbation.schedule identity self.intervalEpoch self.intervalIndex sequence hold }

def advance (self : HoldState) (intervalSize : UInt32) : HoldState :=
  let position := self.intervalPosition + 1
  if position = intervalSize then
    { self with
      intervalPosition := 0
      intervalIndex := self.intervalIndex + 1
      intervalFirstSequence := none
      schedule := [] }
  else { self with intervalPosition := position }

end HoldState

/-! ## The engine -/

namespace ActuatorEngine

def new (identity : PerturbationIdentity) (config : ActuatorPerturbation) :
    Except PerturbationError ActuatorEngine := do
  validateActuatorConfig config
  return { identity, config, state := HoldState.new }

variable [Sha256]

/-- An eligible command at a position of the interval. -/
def applyPosition (self : ActuatorEngine) (command : SimActuatorCmd)
    (inputs : ApplicationInputs) (hold : CommandHoldPerturbation) :
    Except PerturbationError ActuatorApplication × SimActuatorCmd × ActuatorEngine :=
  let position := self.state.intervalPosition
  match self.state.schedule[position.toNat]? with
  | none => (.error .invalidCommandHold, command, self)
  | some selected =>
    let decided : SimActuatorCmd × HoldState × Bool :=
      if selected then
        match self.state.lastAccepted with
        | some accepted => ({ command with outputs := accepted }, self.state, true)
        | none => (command, self.state, false)
      else (command, { self.state with lastAccepted := some inputs.authorityScaledLanes }, false)
    let (command, state, applied) := decided
    let decision :=
      { selected, applied, complete := position + 1 == hold.decisionIntervalSamples }
    match intervalApplication self.identity command inputs state decision with
    | .error e => (.error e, command, { self with state })
    | .ok application =>
      (.ok application, command,
        { self with state := state.advance hold.decisionIntervalSamples })

def applyHold (self : ActuatorEngine) (sequence : UInt64) (command : SimActuatorCmd)
    (inputs : ApplicationInputs) (hold : CommandHoldPerturbation) :
    Except PerturbationError ActuatorApplication × SimActuatorCmd × ActuatorEngine :=
  if self.state.lastAccepted.isNone then
    (.ok (primeApplication command inputs), command,
      { self with state := { self.state with lastAccepted := some inputs.authorityScaledLanes } })
  else
    { self with state := self.state.ensureSchedule self.identity sequence hold }.applyPosition
      command inputs hold

/-- The result, the caller's command afterwards and the engine. -/
def apply (self : ActuatorEngine) (sequence : UInt64) (command : SimActuatorCmd)
    (eligibility : ActuatorEligibility) (kernelFallbackMask : UInt8) :
    Except PerturbationError ActuatorApplication × SimActuatorCmd × ActuatorEngine :=
  let inputs : ApplicationInputs :=
    { requestedLanes := command.outputs, requestedArmed := command.armed, kernelFallbackMask
      authorityScaledLanes := command.outputs }
  match eligibility with
  | .bypass reason =>
    (.ok (bypassApplication command inputs reason), command,
      { self with state := self.state.safetyReset })
  | .eligible =>
    if 16 < command.count then (.error (.invalidActuatorCount command.count), command, self)
    else
      let command := scaleAuthority command self.config.authorityScaleBasisPoints
      let inputs := { inputs with authorityScaledLanes := command.outputs }
      match self.config.commandHold with
      | none => (.ok (eligibleApplication command inputs), command, self)
      | some hold => self.applyHold sequence command inputs hold

/-! ## What a call does -/

variable {self : ActuatorEngine} {identity : PerturbationIdentity} {config : ActuatorPerturbation}

omit [Sha256] in
theorem new_eq_ok (h : new identity config = .ok self) :
    validateActuatorConfig config = .ok () ∧
      self = { identity, config, state := HoldState.new } := by
  unfold new at h
  cases hconfig : validateActuatorConfig config with
  | error e => rw [hconfig] at h; cases h
  | ok _ =>
    rw [hconfig] at h
    cases h
    exact ⟨rfl, rfl⟩

/-- An engine without an accepted command takes the commands it bypasses and those with a valid
lane count. -/
theorem isOk_apply_unprimed (h : self.state.lastAccepted = none) (sequence : UInt64)
    (command : SimActuatorCmd) (eligibility : ActuatorEligibility) (mask : UInt8) :
    (self.apply sequence command eligibility mask).1.isOk = true ↔
      eligibility ≠ .eligible ∨ command.count ≤ 16 := by
  unfold apply
  cases eligibility with
  | bypass reason => simp [Except.isOk, Except.toBool]
  | eligible =>
    by_cases hcount : 16 < command.count
    · simp [hcount, Except.isOk, Except.toBool]
    · have hle : command.count ≤ 16 := UInt8.not_lt.mp hcount
      cases hhold : self.config.commandHold with
      | none => simp [hcount, hle, Except.isOk, Except.toBool]
      | some hold => simp [hcount, hle, applyHold, h, Except.isOk, Except.toBool]

end ActuatorEngine

end Aviate.Perturbation

end PerturbationActuator

section PerturbationSensor

/-!
# Sensor perturbation

Bounded noise on the lanes of a sensor packet, each lane's offset held for a number of samples.
The engine works on a copy: a packet it refuses is the packet it was given (`apply_error`).
-/

namespace Aviate.Perturbation

open ByteBuffer

/-- `SENSOR_NOISE_DOMAIN`, `pilotage-sensor-noise-v1`. -/
def sensorNoiseDomain : Bytes := "pilotage-sensor-noise-v1".toUTF8.toList

/-- `aviate-effective-sensor-v1`. -/
def effectiveSensorDomain : Bytes := "aviate-effective-sensor-v1".toUTF8.toList

def maxUpdateIntervalSamples : UInt32 := 100000

namespace SensorLane

def index : SensorLane → Fin 12
  | accelerometerX => 0
  | accelerometerY => 1
  | accelerometerZ => 2
  | gyroscopeX => 3
  | gyroscopeY => 4
  | gyroscopeZ => 5
  | magnetometerX => 6
  | magnetometerY => 7
  | magnetometerZ => 8
  | absolutePressure => 9
  | differentialPressure => 10
  | pressureAltitude => 11

def presenceBit (lane : SensorLane) : UInt16 := 1 <<< UInt16.ofNat lane.index

/-- The bits of 20, 10, 200, 20 000 and 2 000. -/
def maximumAmplitude : SensorLane → F32
  | accelerometerX | accelerometerY | accelerometerZ => ⟨0x41A00000⟩
  | gyroscopeX | gyroscopeY | gyroscopeZ => ⟨0x41200000⟩
  | magnetometerX | magnetometerY | magnetometerZ => ⟨0x43480000⟩
  | absolutePressure | differentialPressure => ⟨0x469C4000⟩
  | pressureAltitude => ⟨0x44FA0000⟩

end SensorLane

structure SensorApplication where
  rawDigest : Digest
  effectiveDigest : Digest
  rawValueBits : Vector (Option UInt32) 12
  effectiveValueBits : Vector (Option UInt32) 12
  presenceMask : UInt16
  changedMask : UInt16
  updateBuckets : Vector (Option UInt64) 12
deriving DecidableEq, Repr

structure SensorEngine where
  identity : PerturbationIdentity
  requests : List SensorNoise
deriving DecidableEq, Repr

/-! ## Validation -/

/-- One request, after the requests before it. -/
def validateRequest (prior : List SensorNoise) (request : SensorNoise) :
    Except PerturbationError Unit :=
  if prior.any (·.lane == request.lane) then .error (.duplicateSensorLane request.lane)
  else if !request.peakAmplitude.isFinite || request.peakAmplitude.atMost ⟨0⟩ ||
      request.lane.maximumAmplitude.below request.peakAmplitude then
    .error (.invalidSensorAmplitude request.lane)
  else if !(1 ≤ request.updateIntervalSamples &&
      request.updateIntervalSamples ≤ maxUpdateIntervalSamples) then
    .error (.invalidSensorInterval request.lane)
  else .ok ()

def validateRequestsAfter (prior : List SensorNoise) :
    List SensorNoise → Except PerturbationError Unit
  | [] => .ok ()
  | request :: requests => do
    validateRequest prior request
    validateRequestsAfter (prior ++ [request]) requests

def validateRequests (requests : List SensorNoise) : Except PerturbationError Unit :=
  validateRequestsAfter [] requests

def validatePressurePresence (packet : SimSensorPacket) : Except PerturbationError Unit :=
  let staticPresent := packet.presenceMask &&& ((1 : UInt16) <<< 9) != 0
  let dynamicPresent := packet.presenceMask &&& ((1 : UInt16) <<< 10) != 0
  let altitudePresent := packet.presenceMask &&& ((1 : UInt16) <<< 11) != 0
  if packet.baro.isSome != staticPresent || (dynamicPresent || altitudePresent) && !staticPresent
  then .error (.sensorPresenceMismatch "pressure")
  else
    match packet.baro with
    | none => .ok ()
    | some baro =>
      if baro.differentialPressurePa.isSome != dynamicPresent ||
          baro.pressureAltitudeM.isSome != altitudePresent then
        .error (.sensorPresenceMismatch "pressure")
      else .ok ()

/-- The presence bits agree with the decoded values. -/
def validatePresence (packet : SimSensorPacket) : Except PerturbationError Unit :=
  let accel := packet.presenceMask &&& 0b111
  let gyroscope := (0b111 : UInt16) <<< 3
  let gyro := packet.presenceMask &&& gyroscope
  let imuPresent := accel == 0b111 && gyro == gyroscope
  let magnetometer := (0b111 : UInt16) <<< 6
  let mag := packet.presenceMask &&& magnetometer
  if accel != 0 && accel != 0b111 || gyro != 0 && gyro != gyroscope then
    .error (.sensorPresenceMismatch "IMU")
  else if packet.imu.isSome != imuPresent then .error (.sensorPresenceMismatch "IMU")
  else if mag != 0 && mag != magnetometer then .error (.sensorPresenceMismatch "magnetometer")
  else if packet.mag.isSome != (mag == magnetometer) then
    .error (.sensorPresenceMismatch "magnetometer")
  else validatePressurePresence packet

/-! ## Lanes -/

/-- `lane_value_mut`, read. -/
def laneValue (packet : SimSensorPacket) : SensorLane → Option F32
  | .accelerometerX => packet.imu.map (·.accel[0])
  | .accelerometerY => packet.imu.map (·.accel[1])
  | .accelerometerZ => packet.imu.map (·.accel[2])
  | .gyroscopeX => packet.imu.map (·.gyro[0])
  | .gyroscopeY => packet.imu.map (·.gyro[1])
  | .gyroscopeZ => packet.imu.map (·.gyro[2])
  | .magnetometerX => packet.mag.map (·.fieldUt[0])
  | .magnetometerY => packet.mag.map (·.fieldUt[1])
  | .magnetometerZ => packet.mag.map (·.fieldUt[2])
  | .absolutePressure => packet.baro.map (·.pressurePa)
  | .differentialPressure => packet.baro.bind (·.differentialPressurePa)
  | .pressureAltitude => packet.baro.bind (·.pressureAltitudeM)

/-- `lane_value_mut`, written: a lane without a value stays without one. -/
def setLaneValue (packet : SimSensorPacket) (value : F32) : SensorLane → SimSensorPacket
  | .accelerometerX =>
    { packet with imu := packet.imu.map fun imu => { imu with accel := imu.accel.set 0 value } }
  | .accelerometerY =>
    { packet with imu := packet.imu.map fun imu => { imu with accel := imu.accel.set 1 value } }
  | .accelerometerZ =>
    { packet with imu := packet.imu.map fun imu => { imu with accel := imu.accel.set 2 value } }
  | .gyroscopeX =>
    { packet with imu := packet.imu.map fun imu => { imu with gyro := imu.gyro.set 0 value } }
  | .gyroscopeY =>
    { packet with imu := packet.imu.map fun imu => { imu with gyro := imu.gyro.set 1 value } }
  | .gyroscopeZ =>
    { packet with imu := packet.imu.map fun imu => { imu with gyro := imu.gyro.set 2 value } }
  | .magnetometerX => { packet with mag := packet.mag.map fun mag => ⟨mag.fieldUt.set 0 value⟩ }
  | .magnetometerY => { packet with mag := packet.mag.map fun mag => ⟨mag.fieldUt.set 1 value⟩ }
  | .magnetometerZ => { packet with mag := packet.mag.map fun mag => ⟨mag.fieldUt.set 2 value⟩ }
  | .absolutePressure =>
    { packet with baro := packet.baro.map fun baro => { baro with pressurePa := value } }
  | .differentialPressure =>
    { packet with
      baro := packet.baro.map fun baro =>
        { baro with differentialPressurePa := baro.differentialPressurePa.map fun _ => value } }
  | .pressureAltitude =>
    { packet with
      baro := packet.baro.map fun baro =>
        { baro with pressureAltitudeM := baro.pressureAltitudeM.map fun _ => value } }

def sensorValues (packet : SimSensorPacket) : Vector (Option F32) 12 :=
  #v[packet.imu.map (·.accel[0]), packet.imu.map (·.accel[1]), packet.imu.map (·.accel[2]),
    packet.imu.map (·.gyro[0]), packet.imu.map (·.gyro[1]), packet.imu.map (·.gyro[2]),
    packet.mag.map (·.fieldUt[0]), packet.mag.map (·.fieldUt[1]), packet.mag.map (·.fieldUt[2]),
    packet.baro.map (·.pressurePa), packet.baro.bind (·.differentialPressurePa),
    packet.baro.bind (·.pressureAltitudeM)]

def sensorValueBits (packet : SimSensorPacket) : Vector (Option UInt32) 12 :=
  (sensorValues packet).map fun value => value.map F32.bits

/-! ## Application -/

section Application

variable [Sha256]

def digestPacket (packet : SimSensorPacket) : Digest :=
  Sha256.digest (effectiveSensorDomain ++ u16Bytes packet.presenceMask ++
    (sensorValues packet).toList.flatMap fun value => u32Bytes (value.elim 0 F32.bits))

/-- The first four bytes of a digest over the identity, the lane and the bucket, scaled to
`[-amplitude, amplitude]` in binary64. -/
def boundedOffset (identity : PerturbationIdentity) (lane : SensorLane) (bucket : UInt64)
    (amplitude : F32) : F32 :=
  let bytes := Sha256.digest (sensorNoiseDomain ++ identity.conditionDigest.toList ++
    u64Bytes identity.runSeed ++ [UInt8.ofNat lane.index] ++ u64Bytes bucket)
  let sample : UInt32 := bytes[0].toUInt32 ||| bytes[1].toUInt32 <<< 8 |||
    bytes[2].toUInt32 <<< 16 ||| bytes[3].toUInt32 <<< 24
  let unit : Float := sample.toFloat / (0xFFFFFFFF : UInt32).toFloat
  -- Doubling is exact, so the fused `unit.mul_add(2.0, -1.0)` rounds only where this does.
  F32.ofDouble ((unit * Float.ofNat 2 - Float.ofNat 1) * amplitude.toDouble)

/-- A packet under way through the requests. -/
structure Perturbed where
  packet : SimSensorPacket
  changedMask : UInt16
  updateBuckets : Vector (Option UInt64) 12
deriving DecidableEq, Repr

def applyRequest (identity : PerturbationIdentity) (sequence : UInt64) (work : Perturbed)
    (request : SensorNoise) : Except PerturbationError Perturbed :=
  if work.packet.presenceMask &&& request.lane.presenceBit = 0 then .ok work
  else
    match laneValue work.packet request.lane with
    | none => .error (.sensorPresenceMismatch "requested sensor lane")
    | some value =>
      if !value.isFinite then .error (.nonFiniteSensor request.lane)
      else
        let bucket := sequence / request.updateIntervalSamples.toUInt64
        let offset := boundedOffset identity request.lane bucket request.peakAmplitude
        let perturbed := F32.ofFloat (value.toFloat + offset.toFloat)
        .ok
          { packet := setLaneValue work.packet perturbed request.lane
            changedMask :=
              if perturbed.bits ≠ value.bits then work.changedMask ||| request.lane.presenceBit
              else work.changedMask
            updateBuckets := work.updateBuckets.set request.lane.index (some bucket) }

namespace SensorEngine

omit [Sha256] in
def new (identity : PerturbationIdentity) (requests : List SensorNoise) :
    Except PerturbationError SensorEngine := do
  validateRequests requests
  return { identity, requests }

/-- The evidence of a perturbed packet, and the packet. -/
def perturb (self : SensorEngine) (sequence : UInt64) (packet : SimSensorPacket) :
    Except PerturbationError (SensorApplication × SimSensorPacket) := do
  validatePresence packet
  let work ← self.requests.foldlM (applyRequest self.identity sequence)
    { packet, changedMask := 0, updateBuckets := Vector.replicate 12 none }
  let application : SensorApplication :=
    { rawDigest := digestPacket packet
      effectiveDigest := digestPacket work.packet
      rawValueBits := sensorValueBits packet
      effectiveValueBits := sensorValueBits work.packet
      presenceMask := packet.presenceMask
      changedMask := work.changedMask
      updateBuckets := work.updateBuckets }
  return (application, work.packet)

/-- The result, and the caller's packet afterwards. -/
def apply (self : SensorEngine) (sequence : UInt64) (packet : SimSensorPacket) :
    Except PerturbationError SensorApplication × SimSensorPacket :=
  match self.perturb sequence packet with
  | .ok (application, effective) => (.ok application, effective)
  | .error e => (.error e, packet)

/-- A refused packet is the packet that was given. -/
theorem apply_error {self : SensorEngine} {sequence : UInt64} {packet : SimSensorPacket}
    {e : PerturbationError} (h : (self.apply sequence packet).1 = .error e) :
    (self.apply sequence packet).2 = packet := by
  unfold apply at h ⊢
  cases hresult : self.perturb sequence packet with
  | error e => rfl
  | ok perturbed =>
    rw [hresult] at h
    cases h

end SensorEngine

end Application

end Aviate.Perturbation

end PerturbationSensor

section PerturbationSensorFrame

/-!
# What sensor perturbation changes

The result of the sensor engine (`xil/src/perturbation/sensor.rs`) described lane by lane, whatever
the order of its requests.

Results:
1. A packet is its lanes and what is no lane (`packet_ext`), and writing a lane changes that lane
   alone (`laneValue_set`, `laneValue_set_other`, `blank_set`).
2. Requests are accepted whatever their order (`validateRequests_iff`), and the requests of an
   accepted packet lead to one result (`exists_reached_iff`, `Reached.unique`).
3. The engine accepts exactly the packets that are sound where a request names them, it is atomic,
   its result does not depend on the order of the requests, only lanes named and present change, the
   mask says which did, and an offset is held through its bucket (`sensor_contract`).
-/

namespace Aviate.Perturbation

/-! ## Lanes -/

section Lanes

variable {packet packet' : SimSensorPacket} {lane lane' : SensorLane} {value : F32}

/-- The packet with zero in every lane that has a value: what is left is no lane. -/
def blank (packet : SimSensorPacket) : SimSensorPacket :=
  { packet with
    imu := packet.imu.map fun imu =>
      { imu with accel := Vector.replicate 3 ⟨0⟩, gyro := Vector.replicate 3 ⟨0⟩ }
    mag := packet.mag.map fun _ => ⟨Vector.replicate 3 ⟨0⟩⟩
    baro := packet.baro.map fun baro =>
      { baro with
        pressurePa := ⟨0⟩
        differentialPressurePa := baro.differentialPressurePa.map fun _ => ⟨0⟩
        pressureAltitudeM := baro.pressureAltitudeM.map fun _ => ⟨0⟩ } }

theorem laneValue_eq (packet : SimSensorPacket) (lane : SensorLane) :
    laneValue packet lane = (sensorValues packet)[lane.index] := by
  cases lane <;> rfl

theorem index_injective (h : lane.index = lane'.index) : lane = lane' := by
  revert h
  cases lane <;> cases lane' <;> decide

/-- Writing a lane replaces its entry among the values. -/
theorem sensorValues_set (packet : SimSensorPacket) (value : F32) (lane : SensorLane) :
    sensorValues (setLaneValue packet value lane) =
      (sensorValues packet).set lane.index ((laneValue packet lane).map fun _ => value) := by
  obtain ⟨timestampUs, presenceMask, imu, baro, mag, gnss, resetGeneration⟩ := packet
  cases lane with
  | absolutePressure => cases baro <;> rfl
  | differentialPressure => rcases baro with _ | ⟨_, _ | _, _, _⟩ <;> rfl
  | pressureAltitude => rcases baro with _ | ⟨_, _, _ | _, _⟩ <;> rfl
  | magnetometerX | magnetometerY | magnetometerZ =>
    cases mag <;> simp [sensorValues, setLaneValue, laneValue, SensorLane.index]
  | accelerometerX | accelerometerY | accelerometerZ | gyroscopeX | gyroscopeY | gyroscopeZ =>
    cases imu <;> simp [sensorValues, setLaneValue, laneValue, SensorLane.index]

theorem laneValue_set :
    laneValue (setLaneValue packet value lane) lane =
      (laneValue packet lane).map fun _ => value := by
  rw [laneValue_eq, sensorValues_set]
  exact Vector.getElem_set_self _

theorem laneValue_set_other (h : lane' ≠ lane) :
    laneValue (setLaneValue packet value lane) lane' = laneValue packet lane' := by
  have hindex : lane.index.val ≠ lane'.index.val := fun hsame =>
    h (index_injective (Fin.ext hsame)).symm
  rw [laneValue_eq, laneValue_eq, sensorValues_set]
  exact Vector.getElem_set_ne _ _ hindex

@[simp] theorem blank_set : blank (setLaneValue packet value lane) = blank packet := by
  obtain ⟨timestampUs, presenceMask, imu, baro, mag, gnss, resetGeneration⟩ := packet
  cases lane <;> cases imu <;> cases mag <;> rcases baro with _ | ⟨_, _ | _, _ | _, _⟩ <;> rfl

theorem presenceMask_blank : (blank packet).presenceMask = packet.presenceMask := rfl

theorem vector_ext {v w : Vector F32 3} (h₀ : some v[0] = some w[0]) (h₁ : some v[1] = some w[1])
    (h₂ : some v[2] = some w[2]) : v = w := by
  apply Vector.ext
  intro i hi
  match i, hi with
  | 0, _ => exact Option.some.inj h₀
  | 1, _ => exact Option.some.inj h₁
  | 2, _ => exact Option.some.inj h₂

/-- A packet is its lanes and what is no lane. -/
theorem packet_ext (hblank : blank packet = blank packet')
    (hlanes : ∀ lane, laneValue packet lane = laneValue packet' lane) : packet = packet' := by
  obtain ⟨timestampUs, presenceMask, imu, baro, mag, gnss, resetGeneration⟩ := packet
  obtain ⟨timestampUs', presenceMask', imu', baro', mag', gnss', resetGeneration'⟩ := packet'
  simp only [blank, SimSensorPacket.mk.injEq] at hblank
  obtain ⟨rfl, rfl, himu, hbaro, hmag, rfl, rfl⟩ := hblank
  have himus : imu = imu' := by
    rcases imu with _ | ⟨accel, gyro, temperature⟩ <;>
      rcases imu' with _ | ⟨accel', gyro', temperature'⟩
    · rfl
    · cases himu
    · cases himu
    · have haccel : accel = accel' := vector_ext (hlanes .accelerometerX) (hlanes .accelerometerY)
        (hlanes .accelerometerZ)
      have hgyro : gyro = gyro' := vector_ext (hlanes .gyroscopeX) (hlanes .gyroscopeY)
        (hlanes .gyroscopeZ)
      simp only [Option.map_some, Option.some.injEq, SimImuData.mk.injEq] at himu
      rw [haccel, hgyro, himu.2.2]
  have hmags : mag = mag' := by
    rcases mag with _ | mag <;> rcases mag' with _ | mag'
    · rfl
    · cases hmag
    · cases hmag
    · have hfield : mag.fieldUt = mag'.fieldUt := vector_ext (hlanes .magnetometerX)
        (hlanes .magnetometerY) (hlanes .magnetometerZ)
      obtain ⟨fieldUt⟩ := mag
      obtain rfl : fieldUt = mag'.fieldUt := hfield
      rfl
  have hbaros : baro = baro' := by
    rcases baro with _ | baro <;> rcases baro' with _ | baro'
    · rfl
    · cases hbaro
    · cases hbaro
    · have hpressure : baro.pressurePa = baro'.pressurePa :=
        Option.some.inj (hlanes .absolutePressure)
      have hdifferential : baro.differentialPressurePa = baro'.differentialPressurePa :=
        hlanes .differentialPressure
      have haltitude : baro.pressureAltitudeM = baro'.pressureAltitudeM := hlanes .pressureAltitude
      simp only [Option.map_some, Option.some.injEq, SimBaroData.mk.injEq] at hbaro
      obtain ⟨pressurePa, differentialPressurePa, pressureAltitudeM, temperatureC⟩ := baro
      rw [show pressurePa = baro'.pressurePa from hpressure,
        show differentialPressurePa = baro'.differentialPressurePa from hdifferential,
        show pressureAltitudeM = baro'.pressureAltitudeM from haltitude,
        show temperatureC = baro'.temperatureC from hbaro.2.2.2]
  rw [himus, hmags, hbaros]

end Lanes

/-! ## Masks -/

section Masks

variable {mask : UInt16} {lane lane' : SensorLane}

/-- The mask has the lane's bit. -/
def Marks (mask : UInt16) (lane : SensorLane) : Prop := mask &&& lane.presenceBit ≠ 0

instance : Decidable (Marks mask lane) := inferInstanceAs (Decidable (_ ≠ _))

theorem and_bits : ∀ i j : Fin 12,
    ((1 : UInt16) <<< UInt16.ofNat i) &&& ((1 : UInt16) <<< UInt16.ofNat j) = 0 ↔ i ≠ j := by
  decide +kernel

theorem or_and_eq_zero {a b c : UInt16} : (a ||| b) &&& c = 0 ↔ a &&& c = 0 ∧ b &&& c = 0 := by
  have hdistrib : (a ||| b) &&& c = a &&& c ||| b &&& c :=
    UInt16.eq_of_toBitVec_eq BitVec.and_or_distrib_right
  rw [hdistrib, UInt16.or_eq_zero_iff]

theorem not_marks_zero : ¬ Marks 0 lane := fun h => h UInt16.zero_and

theorem marks_or : Marks (mask ||| lane.presenceBit) lane' ↔ Marks mask lane' ∨ lane = lane' := by
  have hbit : lane.presenceBit &&& lane'.presenceBit = 0 ↔ lane ≠ lane' := by
    rw [SensorLane.presenceBit, SensorLane.presenceBit, and_bits]
    exact not_congr ⟨index_injective, congrArg _⟩
  unfold Marks
  rw [Ne, or_and_eq_zero, hbit, not_and_or, not_not]

/-- The bits of no lane. -/
def spareBits : UInt16 := 0xF000

theorem spareBits_or (h : mask &&& spareBits = 0) :
    (mask ||| lane.presenceBit) &&& spareBits = 0 := by
  refine or_and_eq_zero.mpr ⟨h, ?_⟩
  cases lane <;> decide

end Masks

/-! ## Validation -/

section Validation

variable {requests prior : List SensorNoise} {request : SensorNoise}

/-- A request's amplitude and interval are inside the bounds of its lane. -/
def SensorNoise.Bounded (request : SensorNoise) : Prop :=
  (!request.peakAmplitude.isFinite || request.peakAmplitude.atMost ⟨0⟩ ||
      request.lane.maximumAmplitude.below request.peakAmplitude) = false ∧
    (1 ≤ request.updateIntervalSamples ∧ request.updateIntervalSamples ≤ maxUpdateIntervalSamples)

theorem validateRequest_iff :
    validateRequest prior request = .ok () ↔
      request.lane ∉ prior.map SensorNoise.lane ∧ request.Bounded := by
  have hprior : prior.any (·.lane == request.lane) = true ↔
      request.lane ∈ prior.map SensorNoise.lane := by
    simp only [List.any_eq_true, beq_iff_eq, List.mem_map]
  have hinterval : (!(1 ≤ request.updateIntervalSamples &&
      request.updateIntervalSamples ≤ maxUpdateIntervalSamples)) = true ↔
      ¬ (1 ≤ request.updateIntervalSamples ∧
        request.updateIntervalSamples ≤ maxUpdateIntervalSamples) := by
    rw [Bool.not_eq_true', ← Bool.not_eq_true, Bool.and_eq_true, decide_eq_true_eq,
      decide_eq_true_eq]
  unfold validateRequest SensorNoise.Bounded
  split
  next hduplicate => exact iff_of_false nofun fun h => h.1 (hprior.mp hduplicate)
  next hnew =>
    split
    next hamplitude =>
      exact iff_of_false nofun fun h => Bool.false_ne_true (h.2.1.symm.trans hamplitude)
    next hamplitude =>
      split
      next houtside => exact iff_of_false nofun fun h => hinterval.mp houtside h.2.2
      next hinside =>
        refine iff_of_true rfl ⟨fun h => hnew (hprior.mpr h), ?_, ?_⟩
        · exact Bool.eq_false_of_not_eq_true hamplitude
        · exact not_not.mp fun h => hinside (hinterval.mpr h)

theorem validateRequestsAfter_iff :
    validateRequestsAfter prior requests = .ok () ↔
      (requests.map SensorNoise.lane).Nodup ∧ ∀ request ∈ requests,
        request.lane ∉ prior.map SensorNoise.lane ∧ request.Bounded := by
  induction requests generalizing prior with
  | nil => exact iff_of_true rfl ⟨List.nodup_nil, nofun⟩
  | cons request requests ih =>
    have hstep : validateRequestsAfter prior (request :: requests) = .ok () ↔
        validateRequest prior request = .ok () ∧
          validateRequestsAfter (prior ++ [request]) requests = .ok () := by
      rw [validateRequestsAfter]
      cases validateRequest prior request with
      | error e => exact iff_of_false nofun fun h => nomatch h.1
      | ok _ => exact ⟨fun h => ⟨rfl, h⟩, fun h => h.2⟩
    rw [hstep, validateRequest_iff, ih, List.map_cons, List.nodup_cons, List.forall_mem_cons]
    simp only [List.map_append, List.map_cons, List.map_nil, List.mem_append, List.mem_singleton]
    constructor
    · rintro ⟨hfirst, hnodup, hrest⟩
      refine ⟨⟨fun hmem => ?_, hnodup⟩, hfirst, fun other hother => ?_⟩
      · obtain ⟨other, hother, hlane⟩ := List.mem_map.mp hmem
        exact (hrest other hother).1 (.inr hlane)
      · exact ⟨fun hmem => (hrest other hother).1 (.inl hmem), (hrest other hother).2⟩
    · rintro ⟨⟨hfresh, hnodup⟩, hfirst, hrest⟩
      refine ⟨hfirst, hnodup, fun other hother => ⟨?_, (hrest other hother).2⟩⟩
      rintro (hmem | hlane)
      · exact (hrest other hother).1 hmem
      · exact hfresh (List.mem_map.mpr ⟨other, hother, hlane⟩)

/-- Requests are accepted when their lanes differ and each is inside its bounds. -/
theorem validateRequests_iff :
    validateRequests requests = .ok () ↔
      (requests.map SensorNoise.lane).Nodup ∧ ∀ request ∈ requests, request.Bounded := by
  rw [validateRequests, validateRequestsAfter_iff]
  simp only [List.map_nil, List.not_mem_nil, not_false_eq_true, true_and]

end Validation

/-! ## The requests of a packet -/

section Requests

variable [Sha256] {identity : PerturbationIdentity} {sequence : UInt64} {packet : SimSensorPacket}
  {request : SensorNoise} {requests done : List SensorNoise} {work work' : Perturbed}

/-- The offset of a request at a sample. -/
def offsetAt (identity : PerturbationIdentity) (sequence : UInt64) (request : SensorNoise) : F32 :=
  boundedOffset identity request.lane (sequence / request.updateIntervalSamples.toUInt64)
    request.peakAmplitude

/-- `*value += offset`. -/
def plusOffset (offset value : F32) : F32 := F32.ofFloat (value.toFloat + offset.toFloat)

/-- The request's lane is absent, or it has a finite value. -/
def Accepts (packet : SimSensorPacket) (request : SensorNoise) : Prop :=
  Marks packet.presenceMask request.lane →
    ∃ value, laneValue packet request.lane = some value ∧ value.isFinite = true

/-- What the requests done so far have made of the packet. -/
structure Reached (identity : PerturbationIdentity) (sequence : UInt64) (packet : SimSensorPacket)
    (done : List SensorNoise) (work : Perturbed) : Prop where
  blank_eq : blank work.packet = blank packet
  named : ∀ request ∈ done, Marks packet.presenceMask request.lane →
    laneValue work.packet request.lane =
      (laneValue packet request.lane).map (plusOffset (offsetAt identity sequence request))
  other : ∀ lane, (Marks packet.presenceMask lane → lane ∉ done.map SensorNoise.lane) →
    laneValue work.packet lane = laneValue packet lane
  changed : ∀ lane, Marks work.changedMask lane ↔
    laneValue work.packet lane ≠ laneValue packet lane
  spare : work.changedMask &&& spareBits = 0

theorem reached_nil (identity : PerturbationIdentity) (sequence : UInt64)
    (packet : SimSensorPacket) :
    Reached identity sequence packet [] ⟨packet, 0, Vector.replicate 12 none⟩ where
  blank_eq := rfl
  named := nofun
  other _ _ := rfl
  changed _ := iff_of_false not_marks_zero fun h => h rfl
  spare := UInt16.zero_and

theorem Reached.presenceMask (h : Reached identity sequence packet done work) :
    work.packet.presenceMask = packet.presenceMask := by
  rw [← presenceMask_blank, h.blank_eq, presenceMask_blank]

/-- A request on an absent lane does nothing. -/
theorem Reached.skip (h : Reached identity sequence packet done work)
    (habsent : ¬ Marks packet.presenceMask request.lane) :
    Reached identity sequence packet (done ++ [request]) work := by
  refine ⟨h.blank_eq, ?_, ?_, h.changed, h.spare⟩
  · intro other hmem hmarks
    rcases List.mem_append.mp hmem with hdone | hlast
    · exact h.named other hdone hmarks
    · rw [List.mem_singleton.mp hlast] at hmarks
      exact absurd hmarks habsent
  · intro lane hlane
    refine h.other lane fun hmarks hmem => hlane hmarks ?_
    rw [List.map_append]
    exact List.mem_append_left _ hmem

/-- A request on a present lane writes the lane and marks it if its bits change. -/
theorem Reached.set {value perturbed : F32} {buckets : Vector (Option UInt64) 12}
    (h : Reached identity sequence packet done work)
    (hfresh : request.lane ∉ done.map SensorNoise.lane)
    (hpresent : Marks packet.presenceMask request.lane)
    (hsome : laneValue packet request.lane = some value)
    (hperturbed : plusOffset (offsetAt identity sequence request) value = perturbed) :
    Reached identity sequence packet (done ++ [request])
      { packet := setLaneValue work.packet perturbed request.lane
        changedMask :=
          if perturbed.bits ≠ value.bits then work.changedMask ||| request.lane.presenceBit
          else work.changedMask
        updateBuckets := buckets } := by
  have hvalue := h.other request.lane fun _ => hfresh
  have hset : laneValue (setLaneValue work.packet perturbed request.lane) request.lane =
      some perturbed := by
    rw [laneValue_set, hvalue, hsome]
    rfl
  have hunmarked : ¬ Marks work.changedMask request.lane := by
    rw [h.changed]
    exact not_not.mpr hvalue
  refine ⟨?_, ?_, ?_, ?_, ?_⟩
  · rw [blank_set, h.blank_eq]
  · intro other hmem hmarks
    rcases List.mem_append.mp hmem with hdone | hlast
    · have hlane : other.lane ≠ request.lane := fun hsame =>
        hfresh (List.mem_map.mpr ⟨other, hdone, hsame⟩)
      rw [laneValue_set_other hlane]
      exact h.named other hdone hmarks
    · obtain rfl := List.mem_singleton.mp hlast
      rw [hset, hsome, Option.map_some, hperturbed]
  · intro lane hlane
    have hne : lane ≠ request.lane := by
      rintro rfl
      exact hlane hpresent (List.mem_map.mpr ⟨request, List.mem_append_right _ (by simp), rfl⟩)
    rw [laneValue_set_other hne]
    refine h.other lane fun hmarks hmem => hlane hmarks ?_
    rw [List.map_append]
    exact List.mem_append_left _ hmem
  · intro lane
    by_cases hlane : lane = request.lane
    · subst hlane
      rw [hset, hsome]
      split
      next hbits =>
        refine iff_of_true (marks_or.mpr (.inr rfl)) fun hsame => hbits ?_
        rw [Option.some.inj hsame]
      next hbits =>
        refine iff_of_false hunmarked (not_not.mpr ?_)
        exact congrArg some (congrArg F32.mk (not_not.mp hbits))
    · rw [laneValue_set_other hlane, ← h.changed]
      split
      · rw [marks_or]
        exact or_iff_left fun hsame => hlane hsame.symm
      · exact Iff.rfl
  · split
    · exact spareBits_or h.spare
    · exact h.spare

/-- One request, on a lane that none before it names. -/
theorem Reached.step (h : Reached identity sequence packet done work)
    (hfresh : request.lane ∉ done.map SensorNoise.lane) :
    (¬ Accepts packet request ∧ ∃ e, applyRequest identity sequence work request = .error e) ∨
    (Accepts packet request ∧ ∃ work', applyRequest identity sequence work request = .ok work' ∧
      Reached identity sequence packet (done ++ [request]) work') := by
  unfold applyRequest Accepts
  rw [h.presenceMask, h.other request.lane fun _ => hfresh]
  split
  next habsent =>
    have hunmarked : ¬ Marks packet.presenceMask request.lane := fun hmarks => hmarks habsent
    exact .inr ⟨fun hmarks => absurd hmarks hunmarked, work, rfl, h.skip hunmarked⟩
  next hpresent =>
    cases hvalue : laneValue packet request.lane with
    | none => exact .inl ⟨fun haccepts => by simpa using haccepts hpresent, _, rfl⟩
    | some value =>
      dsimp only
      cases hfinite : value.isFinite with
      | false =>
        refine .inl ⟨fun haccepts => ?_, _, rfl⟩
        obtain ⟨_, hsame, hfin⟩ := haccepts hpresent
        rw [← Option.some.inj hsame, hfinite] at hfin
        cases hfin
      | true =>
        exact .inr ⟨fun _ => ⟨value, rfl, hfinite⟩, _, rfl, h.set hfresh hpresent hvalue rfl⟩

/-- The requests, on lanes that differ. -/
theorem Reached.run (h : Reached identity sequence packet done work)
    (hnodup : ((done ++ requests).map SensorNoise.lane).Nodup) :
    ((¬ ∀ request ∈ requests, Accepts packet request) ∧
      ∃ e, requests.foldlM (applyRequest identity sequence) work = .error e) ∨
    ((∀ request ∈ requests, Accepts packet request) ∧
      ∃ work', requests.foldlM (applyRequest identity sequence) work = .ok work' ∧
        Reached identity sequence packet (done ++ requests) work') := by
  induction requests generalizing done work with
  | nil => exact .inr ⟨nofun, work, rfl, by rwa [List.append_nil]⟩
  | cons request requests ih =>
    have hsplit : done ++ request :: requests = (done ++ [request]) ++ requests := by simp
    have hfresh : request.lane ∉ done.map SensorNoise.lane := by
      rw [List.map_append, List.map_cons, List.nodup_append] at hnodup
      exact fun hmem => hnodup.2.2 _ hmem _ List.mem_cons_self rfl
    rw [List.foldlM_cons, List.forall_mem_cons, hsplit]
    rcases h.step hfresh with ⟨hrefused, e, happly⟩ | ⟨haccepts, work', happly, hreached⟩
    · rw [happly]
      exact .inl ⟨fun hall => hrefused hall.1, e, rfl⟩
    · rw [happly]
      rcases ih hreached (hsplit ▸ hnodup) with ⟨hrest, hresult⟩ | ⟨hrest, hresult⟩
      · exact .inl ⟨fun hall => hrest hall.2, hresult⟩
      · exact .inr ⟨⟨haccepts, hrest⟩, hresult⟩

/-- What the requests make of a packet does not depend on their order. -/
theorem Reached.unique {requests' : List SensorNoise} (hperm : requests'.Perm requests)
    (h : Reached identity sequence packet requests work)
    (h' : Reached identity sequence packet requests' work') : work'.packet = work.packet := by
  refine packet_ext (h'.blank_eq.trans h.blank_eq.symm) fun lane => ?_
  by_cases hlane : Marks packet.presenceMask lane ∧ lane ∈ requests.map SensorNoise.lane
  · obtain ⟨hmarks, hmem⟩ := hlane
    obtain ⟨request, hrequest, rfl⟩ := List.mem_map.mp hmem
    rw [h.named request hrequest hmarks, h'.named request (hperm.mem_iff.mpr hrequest) hmarks]
  · have hmem : lane ∈ requests'.map SensorNoise.lane ↔ lane ∈ requests.map SensorNoise.lane :=
      (hperm.map _).mem_iff
    rw [h.other lane fun hmarks hnamed => hlane ⟨hmarks, hnamed⟩,
      h'.other lane fun hmarks hnamed => hlane ⟨hmarks, hmem.mp hnamed⟩]

end Requests

/-! ## The engine -/

namespace SensorEngine

variable [Sha256] {identity : PerturbationIdentity} {requests requests' : List SensorNoise}
  {engine : SensorEngine} {sequence : UInt64} {packet : SimSensorPacket}

omit [Sha256] in
theorem new_iff : SensorEngine.new identity requests = .ok engine ↔
    validateRequests requests = .ok () ∧ engine = ⟨identity, requests⟩ := by
  unfold SensorEngine.new
  cases validateRequests requests with
  | error e => exact iff_of_false nofun fun h => nomatch h.1
  | ok _ => exact ⟨fun h => ⟨rfl, (Except.ok.inj h).symm⟩, fun h => congrArg Except.ok h.2.symm⟩

/-- A packet is refused, or its requests are carried out. -/
theorem apply_cases (hnodup : (requests.map SensorNoise.lane).Nodup) :
    ((¬ (validatePresence packet = .ok () ∧ ∀ request ∈ requests, Accepts packet request)) ∧
      ∃ e, apply ⟨identity, requests⟩ sequence packet = (.error e, packet)) ∨
    ((validatePresence packet = .ok () ∧ ∀ request ∈ requests, Accepts packet request) ∧
      ∃ application work, Reached identity sequence packet requests work ∧
        application.changedMask = work.changedMask ∧
        apply ⟨identity, requests⟩ sequence packet = (.ok application, work.packet)) := by
  unfold apply perturb
  cases hpresence : validatePresence packet with
  | error e => exact .inl ⟨fun h => (nomatch h.1), e, rfl⟩
  | ok _ =>
    rcases (reached_nil identity sequence packet).run hnodup with
      ⟨hrefused, e, hfold⟩ | ⟨haccepts, work, hfold, hreached⟩
    · left
      refine ⟨fun h => hrefused h.2, e, ?_⟩
      dsimp only [bind, Except.bind]
      rw [hfold]
    · right
      refine ⟨⟨rfl, haccepts⟩, ?_⟩
      dsimp only [bind, Except.bind]
      rw [hfold]
      exact ⟨_, work, hreached, rfl, rfl⟩

/-- An accepted packet that has the lane gets the offset on it. -/
def AddsOffset (engine : SensorEngine) (sequence : UInt64) (packet : SimSensorPacket)
    (lane : SensorLane) (offset : F32) : Prop :=
  ∀ application, (engine.apply sequence packet).1 = .ok application →
    Marks packet.presenceMask lane →
    laneValue (engine.apply sequence packet).2 lane =
      (laneValue packet lane).map (plusOffset offset)

/-- What one call does, of requests that were accepted. Lane values are compared by their bits. -/
structure Contract (identity : PerturbationIdentity) (requests : List SensorNoise)
    (engine : SensorEngine) (sequence : UInt64) (packet : SimSensorPacket) : Prop where
  accepted : (engine.apply sequence packet).1.isOk = true ↔
    validatePresence packet = .ok () ∧ ∀ request ∈ requests, Accepts packet request
  atomic : ∀ e, (engine.apply sequence packet).1 = .error e →
    (engine.apply sequence packet).2 = packet
  orderFree : ∀ requests', requests'.Perm requests →
    ∃ engine', SensorEngine.new identity requests' = .ok engine' ∧
      (engine'.apply sequence packet).2 = (engine.apply sequence packet).2 ∧
      (engine'.apply sequence packet).1.isOk = (engine.apply sequence packet).1.isOk
  framed : blank (engine.apply sequence packet).2 = blank packet ∧
    ∀ lane, laneValue (engine.apply sequence packet).2 lane ≠ laneValue packet lane →
      (∃ request ∈ requests, request.lane = lane) ∧ Marks packet.presenceMask lane
  maskExact : ∀ application, (engine.apply sequence packet).1 = .ok application →
    (∀ lane, Marks application.changedMask lane ↔
      laneValue (engine.apply sequence packet).2 lane ≠ laneValue packet lane) ∧
    application.changedMask &&& spareBits = 0
  held : ∀ request ∈ requests, ∀ sequence' packet',
    sequence / request.updateIntervalSamples.toUInt64 =
      sequence' / request.updateIntervalSamples.toUInt64 →
    ∃ offset, AddsOffset engine sequence packet request.lane offset ∧
      AddsOffset engine sequence' packet' request.lane offset

theorem addsOffset (hnodup : (requests.map SensorNoise.lane).Nodup) {request : SensorNoise}
    (hmem : request ∈ requests) (sequence : UInt64) (packet : SimSensorPacket) :
    AddsOffset ⟨identity, requests⟩ sequence packet request.lane
      (offsetAt identity sequence request) := by
  intro application happlication hmarks
  rcases apply_cases hnodup with ⟨-, e, happly⟩ | ⟨-, _, work, hreached, -, happly⟩
  · rw [happly] at happlication
    cases happlication
  · rw [happly]
    exact hreached.named request hmem hmarks

/-- Sensor perturbation accepts a packet exactly when its mask agrees with its values and every
named lane it has is finite; it is atomic, does not depend on the order of its requests, changes
only lanes that a request names and the packet has, reports exactly these, and holds an offset for a
whole bucket. -/
theorem sensor_contract (hnew : SensorEngine.new identity requests = .ok engine)
    (sequence : UInt64) (packet : SimSensorPacket) :
    Contract identity requests engine sequence packet := by
  obtain ⟨hvalid, rfl⟩ := new_iff.mp hnew
  obtain ⟨hnodup, hbounded⟩ := validateRequests_iff.mp hvalid
  refine ⟨?_, fun e => apply_error, ?_, ?_, ?_, ?_⟩
  · rcases apply_cases hnodup with ⟨hrefused, e, happly⟩ | ⟨haccepts, application, _, -, -, happly⟩
    · rw [happly]
      exact iff_of_false nofun hrefused
    · rw [happly]
      exact iff_of_true rfl haccepts
  · intro requests' hperm
    have hnodup' : (requests'.map SensorNoise.lane).Nodup := (hperm.map _).nodup_iff.mpr hnodup
    have hvalid' : validateRequests requests' = .ok () := validateRequests_iff.mpr
      ⟨hnodup', fun request hmem => hbounded request (hperm.mem_iff.mp hmem)⟩
    have haccepts : (∀ request ∈ requests', Accepts packet request) ↔
        ∀ request ∈ requests, Accepts packet request :=
      forall_congr' fun _ => imp_congr_left hperm.mem_iff
    refine ⟨⟨identity, requests'⟩, new_iff.mpr ⟨hvalid', rfl⟩, ?_⟩
    rcases apply_cases hnodup with ⟨hrefused, e, happly⟩ | ⟨hall, _, work, hreached, -, happly⟩ <;>
      rcases apply_cases hnodup' with
        ⟨hrefused', e', happly'⟩ | ⟨hall', _, work', hreached', -, happly'⟩
    · rw [happly, happly']
      exact ⟨rfl, rfl⟩
    · exact absurd ⟨hall'.1, haccepts.mp hall'.2⟩ hrefused
    · exact absurd ⟨hall.1, haccepts.mpr hall.2⟩ hrefused'
    · rw [happly, happly']
      exact ⟨hreached.unique hperm hreached', rfl⟩
  · rcases apply_cases hnodup with ⟨-, e, happly⟩ | ⟨-, _, work, hreached, -, happly⟩
    · rw [happly]
      exact ⟨rfl, fun lane hchanged => absurd rfl hchanged⟩
    · rw [happly]
      refine ⟨hreached.blank_eq, fun lane hchanged => ?_⟩
      by_contra hframe
      refine hchanged (hreached.other lane fun hmarks hnamed => hframe ⟨?_, hmarks⟩)
      exact List.mem_map.mp hnamed
  · intro application happlication
    rcases apply_cases hnodup with ⟨-, e, happly⟩ | ⟨-, _, work, hreached, hmask, happly⟩
    · rw [happly] at happlication
      cases happlication
    · rw [happly] at happlication ⊢
      cases happlication
      rw [hmask]
      exact ⟨hreached.changed, hreached.spare⟩
  · intro request hmem sequence' packet' hbucket
    have hoffset : offsetAt identity sequence' request = offsetAt identity sequence request := by
      unfold offsetAt
      rw [hbucket]
    refine ⟨offsetAt identity sequence request, addsOffset hnodup hmem sequence packet, ?_⟩
    rw [← hoffset]
    exact addsOffset hnodup hmem sequence' packet'

omit [Sha256] in
/-- Noise on two lanes, of which the packet has one. -/
theorem sensor_contract_two_lanes :
    let identity : PerturbationIdentity :=
      { conditionDigest := Vector.replicate 32 1, runSeed := 7 }
    let requests : List SensorNoise :=
      [⟨.pressureAltitude, ⟨0x3F800000⟩, 10⟩, ⟨.gyroscopeX, ⟨0x3F800000⟩, 1⟩]
    let _ : Sha256 := ⟨fun _ => Vector.replicate 32 0⟩
    let imu : SimImuData := ⟨Vector.replicate 3 ⟨0⟩, Vector.replicate 3 ⟨0⟩, none⟩
    let packet : SimSensorPacket := { SimSensorPacket.new 0 with presenceMask := 63, imu := imu }
    Contract identity requests ⟨identity, requests⟩ 7 packet := by
  intro identity requests _ imu packet
  exact sensor_contract (by decide +kernel) 7 packet

end SensorEngine

end Aviate.Perturbation

end PerturbationSensorFrame

section ReplicationEncoding

/-!
# The canonical encoding of the kernel state

`Replicable` and its implementations for every part of the kernel state (`replicable.rs`,
and the module of each type). Scalars are `f32` and are written by their bits. Each encoder
is the chain of `copy_into` calls and nested encoders of the source.
-/

open ByteBuffer

/-! ## Blocks the encoders share -/

namespace Cursor

open Aviate

def copyVector3 (c : Cursor) (v : Vector3 F32) : Cursor :=
  c.copy (f32Bytes v.x) |>.copy (f32Bytes v.y) |>.copy (f32Bytes v.z)

/-- The measured positions: a discriminant, then the values, or zeros. -/
def copyActual (c : Cursor) : Option (ActuatorVector F32) → Cursor
  | some arr => arr.toList.foldl (fun c n => c.copy (f32Bytes n)) (c.copy [1])
  | none => (List.replicate 16 ()).foldl (fun c _ => c.copy (f32Bytes ⟨0⟩)) (c.copy [0])

end Cursor

namespace Aviate

/-- `trait Replicable`: the byte count of the encoding, and the encoder, which returns the
number of bytes written and the buffer. -/
class Replicable (α : Type) where
  encodedLen : Nat
  encodeCanonical : α → Bytes → Nat × Bytes

export Replicable (encodedLen encodeCanonical)

/-! ## Enumerations and flags -/

section Tags

def InitState.toU8 : InitState → UInt8
  | .powerOn => 0
  | .configLoading => 1
  | .sensorInit => 2
  | .estimatorConverging => 3
  | .preArm => 4
  | .ready => 5
  | .armed => 6
  | .disarmed => 7
  | .fault => 8

def ConfigMode.toU8 : ConfigMode → UInt8
  | .hover => 0
  | .cruise => 1
  | .transition => 2
  | .degraded => 3

def ControlLawV1.toU8 : ControlLawV1 → UInt8
  | .primary => 0
  | .alternate => 1
  | .direct => 2
  | .backup => 3

def TerminalCause.toU8 : TerminalCause → UInt8
  | .none => 0
  | .commandLoss => 1
  | .commanded => 2

def FlightPhase.toU8 : FlightPhase → UInt8
  | .onGround => 0
  | .airborne => 1

def ActuatorHealth.tag : ActuatorHealth → UInt8
  | .good => 0
  | .degraded => 1
  | .failed => 2
  | .stuck => 3
  | .unknown => 4

def TimeSource.sourceTag : TimeSource → UInt8
  | .internal => 0
  | .gps => 1
  | .ptp => 2

def modeOptionTag : Option ControlMode → UInt8
  | none => 0
  | some .attitude => 1
  | some .altitudeHold => 2
  | some .positionHold => 3
  | some .velocityControl => 4
  | some .rate => 5
  | some .deviationTracking => 6

def topologyOptionTag : Option EffectiveControlTopology → UInt8
  | none => 0
  | some .attitude => 1
  | some .vertical => 2
  | some .velocity => 3
  | some .position => 4
  | some .zeroThrust => 5
  | some .unsupported => 6

end Tags

instance : Replicable InitState where
  encodedLen := 1
  encodeCanonical s buf := copyInto buf 0 [s.toU8]

instance : Replicable ConfigMode where
  encodedLen := 1
  encodeCanonical m buf := copyInto buf 0 [m.toU8]

instance : Replicable ControlLawV1 where
  encodedLen := 1
  encodeCanonical law buf := copyInto buf 0 [law.toU8]

instance : Replicable TerminalCause where
  encodedLen := 1
  encodeCanonical cause buf := copyInto buf 0 [cause.toU8]

instance : Replicable FlightPhase where
  encodedLen := 1
  encodeCanonical phase buf := copyInto buf 0 [phase.toU8]

instance : Replicable ActuatorHealth where
  encodedLen := 1
  encodeCanonical health buf := copyInto buf 0 [health.tag]

instance : Replicable FaultFlags where
  encodedLen := 8
  encodeCanonical f buf := copyInto buf 0 (u64Bytes (.ofBitVec f.bits))

/-- The flags of the three check categories share one representation. -/
instance : Replicable (FlagSet 32) where
  encodedLen := 4
  encodeCanonical f buf := copyInto buf 0 (u32Bytes (.ofBitVec f.bits))

/-! ## Checks -/

instance : Replicable SampleCounts where
  encodedLen := 5 * 4
  encodeCanonical s buf :=
    (Cursor.start buf
      |>.copy (u32Bytes s.imu)
      |>.copy (u32Bytes s.baro)
      |>.copy (u32Bytes s.mag)
      |>.copy (u32Bytes s.gnss)
      |>.copy (u32Bytes s.minRequired)).result

instance : Replicable PreArmStatus where
  encodedLen := encodedLen PreArmFlags + encodedLen PreArmFlags + encodedLen SampleCounts
  encodeCanonical s buf :=
    (Cursor.resume (encodeCanonical s.required buf)
      |>.nest (encodeCanonical s.current)
      |>.nest (encodeCanonical s.samples)).result

instance : Replicable InFlightStatus where
  encodedLen := encodedLen InFlightFlags + encodedLen InFlightFlags
  encodeCanonical s buf :=
    (Cursor.resume (encodeCanonical s.required buf)
      |>.nest (encodeCanonical s.current)).result

instance : Replicable (TransitionLimits F32) where
  encodedLen := 4 * 4
  encodeCanonical l buf :=
    (Cursor.start buf
      |>.copy (f32Bytes l.minAltitude)
      |>.copy (f32Bytes l.maxAttitudeRate)
      |>.copy (f32Bytes l.minAirspeed)
      |>.copy (f32Bytes l.maxAsymmetry)).result

instance : Replicable (TransitionStatus F32) where
  encodedLen :=
    encodedLen TransitionFlags + encodedLen TransitionFlags + encodedLen (TransitionLimits F32)
  encodeCanonical s buf :=
    (Cursor.resume (encodeCanonical s.required buf)
      |>.nest (encodeCanonical s.current)
      |>.nest (encodeCanonical s.limits)).result

instance : Replicable (KernelChecks F32) where
  encodedLen :=
    encodedLen PreArmStatus + encodedLen InFlightStatus + encodedLen (TransitionStatus F32)
  encodeCanonical s buf :=
    (Cursor.resume (encodeCanonical s.preArm buf)
      |>.nest (encodeCanonical s.inFlight)
      |>.nest (encodeCanonical s.transition)).result

/-! ## Actuators, timing and flight phase -/

/-- A boolean as one byte. -/
def boolByte (b : Bool) : UInt8 := if b then 1 else 0

instance : Replicable (GroupVector F32) where
  encodedLen := 16 * 4 + 2 + 1
  encodeCanonical v buf :=
    (v.outputs.toList.foldl (fun c n => c.copy (f32Bytes n)) (Cursor.start buf)
      |>.copy (u16Bytes v.mask)
      |>.copy [boolByte v.valid]).result

instance : Replicable (ActuatorState F32) where
  encodedLen := 16 + 16 * 4 + 1 + 16 * 4 + 9
  encodeCanonical s buf :=
    let c := s.health.toList.foldl (fun c h => c.nestClamped (encodeCanonical h)) (Cursor.start buf)
    let c := s.commanded.toList.foldl (fun c n => c.copy (f32Bytes n)) c
    let c := c.copyActual s.actual
    (c.copy (u64Bytes s.timestamp.ticks) |>.copy [s.timestamp.source.sourceTag]).result

instance : Replicable (ActuatorFallbackState F32) where
  encodedLen := 8 * encodedLen (GroupVector F32) + 8 * 2 + 8 * 2
  encodeCanonical s buf :=
    let c := s.lastGood.toList.foldl (fun c v => c.nestClamped (encodeCanonical v))
      (Cursor.start buf)
    let c := s.age.toList.foldl (fun c a => c.copy (u16Bytes a)) c
    (s.consecutiveFallback.toList.foldl (fun c n => c.copy (u16Bytes n)) c).result

instance : Replicable TimingStats where
  encodedLen := 5 * 4 + 8
  encodeCanonical s buf :=
    (Cursor.start buf
      |>.copy (u32Bytes s.lastCycleUs)
      |>.copy (u32Bytes s.maxCycleUs)
      |>.copy (u32Bytes s.minCycleUs)
      |>.copy (u32Bytes s.deadlineViolations)
      |>.copy (u32Bytes s.consecutiveViolations)
      |>.copy (u64Bytes s.totalCycles)).result

instance : Replicable (FlightPhaseState F32) where
  encodedLen := encodedLen FlightPhase + 4 + 1 + 4
  encodeCanonical s buf :=
    (Cursor.resume (encodeCanonical s.phase buf)
      |>.copy (f32Bytes s.groundDatum)
      |>.copy [boolByte s.datumValid]
      |>.copy (f32Bytes s.landedElapsed)).result

/-! ## Runtime states -/

/-- The datum of the barometer: a presence byte, then the reference, or zero. -/
def baroRefBlock : Option F32 → UInt8 × F32
  | some r => (1, r)
  | none => (0, ⟨0⟩)

instance : Replicable (EkfState F32) where
  encodedLen := (19 + stateDim * stateDim) * 4 + 2 + 5 + 4 + 4 + 4
  encodeCanonical s buf :=
    let c := Cursor.start buf
      |>.copy (f32Bytes s.quat.w)
      |>.copy (f32Bytes s.quat.x)
      |>.copy (f32Bytes s.quat.y)
      |>.copy (f32Bytes s.quat.z)
      |>.copyVector3 s.pos
      |>.copyVector3 s.vel
      |>.copyVector3 s.gyroBias
      |>.copyVector3 s.accelBias
      |>.copyVector3 s.lastGyroBody
    let c := s.pCov.toList.foldl
      (fun c row => row.toList.foldl (fun c v => c.copy (f32Bytes v)) c) c
    let (present, baroRef) := baroRefBlock s.baroRef
    -- The three aiding ages of the state are not written.
    (c.copy [boolByte s.initialized]
      |>.copy [boolByte s.quatFault]
      |>.copy [present]
      |>.copy (f32Bytes baroRef)
      |>.copy (f32Bytes s.baroRefVar)
      |>.copy (f32Bytes s.imuAgeS)
      |>.copy (f32Bytes s.accelClipS)).result

/-- The zero-size state of a controller with gains only. -/
instance : Replicable Unit where
  encodedLen := 0
  encodeCanonical _ buf := (0, buf)

/-- A boolean as `1.0` or `0.0`. -/
def boolF32 (b : Bool) : F32 := if b then ⟨0x3F800000⟩ else ⟨0⟩

instance : Replicable (MultirotorRuntimeState F32) where
  encodedLen := 95
  encodeCanonical s buf :=
    let fields : List F32 :=
      [s.velocityLoop.integratorNed.x,
       s.velocityLoop.integratorNed.y,
       s.velocityLoop.integratorNed.z,
       s.velocityLoop.lastVelFiltNed.x,
       s.velocityLoop.lastVelFiltNed.y,
       s.velocityLoop.lastVelFiltNed.z,
       s.rateLoop.measFilteredPrev.x,
       s.rateLoop.measFilteredPrev.y,
       s.rateLoop.measFilteredPrev.z,
       s.rateLoop.integral[0],
       s.rateLoop.integral[1],
       s.rateLoop.integral[2],
       s.lastVelSpNed.x,
       s.lastVelSpNed.y,
       s.lastVelSpNed.z,
       boolF32 s.velSpPrimed,
       boolF32 s.velocityLoop.dPrimed,
       boolF32 s.rateLoop.primed,
       s.dtSec]
    let axis : List F32 :=
      [s.lastAxisCommand.roll, s.lastAxisCommand.pitch, s.lastAxisCommand.yaw,
       s.lastAxisCommand.collective]
    let c := fields.foldl (fun c v => c.copy (f32Bytes v)) (Cursor.start buf)
    let c := c.copy [modeOptionTag s.previousEffectiveMode]
    let c := c.copy [topologyOptionTag s.previousTopology]
    let c := axis.foldl (fun c v => c.copy (f32Bytes v)) c
    (c.copy [boolByte s.axisCommandPrimed]).result

/-! ## The kernel state -/

instance {E R : Type} [Replicable E] [Replicable R] : Replicable (KernelState F32 E R) where
  encodedLen :=
    encodedLen InitState + encodedLen ConfigMode + encodedLen FaultFlags +
      encodedLen ControlLawV1 + encodedLen TerminalCause + encodedLen (KernelChecks F32) +
      encodedLen (ActuatorState F32) + encodedLen TimingStats + encodedLen E +
      encodedLen (ActuatorFallbackState F32) + encodedLen R + encodedLen (FlightPhaseState F32)
  encodeCanonical s buf :=
    (Cursor.start buf
      |>.nest (encodeCanonical s.initState)
      |>.nest (encodeCanonical s.mode)
      |>.nest (encodeCanonical s.faults)
      |>.nest (encodeCanonical s.controlLaw)
      |>.nest (encodeCanonical s.terminalCause)
      |>.nest (encodeCanonical s.checks)
      |>.nest (encodeCanonical s.actuatorState)
      |>.nest (encodeCanonical s.timingStats)
      |>.nest (encodeCanonical s.estimator)
      |>.nest (encodeCanonical s.fallback)
      |>.nest (encodeCanonical s.controller)
      |>.nest (encodeCanonical s.flightPhase)).result

end Aviate

end ReplicationEncoding

section ReplicationCode

/-!
# What the canonical encoding tells apart

Every encoder writes a fixed-width code of its value. The code of a component is the code of
its fields, so two values with the same encoding agree in every field that is written: all
fields of every component but the filter, whose encoder leaves out the three aiding ages.

Results:
1. Every encoder of the kernel writes its code into every buffer, cut to what fits, and the
   declared length is the width of the code (`KernelState.writes`, `KernelState.width_eq`).
2. The runtime states of the controllers are told apart wholly, the filter's up to its
   aiding ages (`EkfState.written_eq_iff`).
3. Two kernel states have the same code exactly if they agree in every field, and in what is
   written of the estimator and the controller (`KernelState.written_eq_iff`).
-/

namespace Aviate

open ByteBuffer Cursor FixedCode

/-! ## Enumerations and flags -/

section Tags

/-- An enumeration by a byte for each variant. -/
@[simps! width bytes] def tagCode {α : Type} (tag : α → UInt8) (h : ∀ x y, tag x = tag y → x = y) :
    FixedCode α :=
  u8.comap tag h

/-- Copying a block into the whole buffer writes the block. -/
theorem copyInto_writes (block : Bytes) : Writes (fun buf => copyInto buf 0 block) block := by
  intro buf
  have hcopy : (start buf).copy block = after buf block := by simp
  rw [← hcopy]
  simp [copy, start, result]

def InitState.code : FixedCode InitState :=
  tagCode InitState.toU8 fun x y => by cases x <;> cases y <;> simp [InitState.toU8]

theorem InitState.writes (s : InitState) :
    Writes (encodeCanonical s) (InitState.code.bytes s) := copyInto_writes _

def ConfigMode.code : FixedCode ConfigMode :=
  tagCode ConfigMode.toU8 fun x y => by cases x <;> cases y <;> simp [ConfigMode.toU8]

theorem ConfigMode.writes (m : ConfigMode) :
    Writes (encodeCanonical m) (ConfigMode.code.bytes m) := copyInto_writes _

def ControlLawV1.code : FixedCode ControlLawV1 :=
  tagCode ControlLawV1.toU8 fun x y => by cases x <;> cases y <;> simp [ControlLawV1.toU8]

theorem ControlLawV1.writes (law : ControlLawV1) :
    Writes (encodeCanonical law) (ControlLawV1.code.bytes law) := copyInto_writes _

def TerminalCause.code : FixedCode TerminalCause :=
  tagCode TerminalCause.toU8 fun x y => by cases x <;> cases y <;> simp [TerminalCause.toU8]

theorem TerminalCause.writes (cause : TerminalCause) :
    Writes (encodeCanonical cause) (TerminalCause.code.bytes cause) := copyInto_writes _

def FlightPhase.code : FixedCode FlightPhase :=
  tagCode FlightPhase.toU8 fun x y => by cases x <;> cases y <;> simp [FlightPhase.toU8]

theorem FlightPhase.writes (phase : FlightPhase) :
    Writes (encodeCanonical phase) (FlightPhase.code.bytes phase) := copyInto_writes _

def ActuatorHealth.code : FixedCode ActuatorHealth :=
  tagCode ActuatorHealth.tag fun x y => by cases x <;> cases y <;> simp [ActuatorHealth.tag]

theorem ActuatorHealth.writes (health : ActuatorHealth) :
    Writes (encodeCanonical health) (ActuatorHealth.code.bytes health) := copyInto_writes _

def TimeSource.code : FixedCode TimeSource :=
  tagCode TimeSource.sourceTag fun x y => by cases x <;> cases y <;> simp [TimeSource.sourceTag]

def modeOptionCode : FixedCode (Option ControlMode) :=
  tagCode modeOptionTag fun x y => by
    rcases x with _ | x <;> rcases y with _ | y <;> try cases x
    all_goals try cases y
    all_goals simp [modeOptionTag]

def topologyOptionCode : FixedCode (Option EffectiveControlTopology) :=
  tagCode topologyOptionTag fun x y => by
    rcases x with _ | x <;> rcases y with _ | y <;> try cases x
    all_goals try cases y
    all_goals simp [topologyOptionTag]

def FaultFlags.code : FixedCode FaultFlags :=
  u64.comap (fun f => .ofBitVec f.bits) fun x y h => by
    cases x
    cases y
    simpa using h

theorem FaultFlags.writes (f : FaultFlags) :
    Writes (encodeCanonical f) (FaultFlags.code.bytes f) := copyInto_writes _

/-- The code of the flags of a check category. -/
def checkFlagsCode : FixedCode (FlagSet 32) :=
  u32.comap (fun f => .ofBitVec f.bits) fun x y h => by
    cases x
    cases y
    simpa using h

theorem checkFlags_writes (f : FlagSet 32) :
    Writes (encodeCanonical f) (checkFlagsCode.bytes f) := copyInto_writes _

end Tags

/-! ## Checks -/

section Checks

def SampleCounts.code : FixedCode SampleCounts :=
  (u32.prod <| u32.prod <| u32.prod <| u32.prod u32).comap
    (fun s => (s.imu, s.baro, s.mag, s.gnss, s.minRequired))
    (by rintro ⟨⟩ ⟨⟩ h; simpa using h)

theorem SampleCounts.writes (s : SampleCounts) :
    Writes (encodeCanonical s) (SampleCounts.code.bytes s) := by
  intro buf
  simp [encodeCanonical, SampleCounts.code]

def PreArmStatus.code : FixedCode PreArmStatus :=
  (checkFlagsCode.prod <| checkFlagsCode.prod SampleCounts.code).comap
    (fun s => (s.required, s.current, s.samples))
    (by rintro ⟨⟩ ⟨⟩ h; simpa using h)

theorem PreArmStatus.writes (s : PreArmStatus) :
    Writes (encodeCanonical s) (PreArmStatus.code.bytes s) := by
  intro buf
  show (((resume (encodeCanonical s.required buf)).nest (encodeCanonical s.current)).nest
    (encodeCanonical s.samples)).result = _
  rw [resume_after (checkFlags_writes _), nest_after (checkFlags_writes _),
    nest_after (SampleCounts.writes _), List.append_assoc]
  rfl

def InFlightStatus.code : FixedCode InFlightStatus :=
  (checkFlagsCode.prod checkFlagsCode).comap (fun s => (s.required, s.current))
    (by rintro ⟨⟩ ⟨⟩ h; simpa using h)

theorem InFlightStatus.writes (s : InFlightStatus) :
    Writes (encodeCanonical s) (InFlightStatus.code.bytes s) := by
  intro buf
  show ((resume (encodeCanonical s.required buf)).nest (encodeCanonical s.current)).result = _
  rw [resume_after (checkFlags_writes _), nest_after (checkFlags_writes _)]
  rfl

def TransitionLimits.code : FixedCode (TransitionLimits F32) :=
  (f32.prod <| f32.prod <| f32.prod f32).comap
    (fun l => (l.minAltitude, l.maxAttitudeRate, l.minAirspeed, l.maxAsymmetry))
    (by rintro ⟨⟩ ⟨⟩ h; simpa using h)

theorem TransitionLimits.writes (l : TransitionLimits F32) :
    Writes (encodeCanonical l) (TransitionLimits.code.bytes l) := by
  intro buf
  simp [encodeCanonical, TransitionLimits.code]

def TransitionStatus.code : FixedCode (TransitionStatus F32) :=
  (checkFlagsCode.prod <| checkFlagsCode.prod TransitionLimits.code).comap
    (fun s => (s.required, s.current, s.limits))
    (by rintro ⟨⟩ ⟨⟩ h; simpa using h)

theorem TransitionStatus.writes (s : TransitionStatus F32) :
    Writes (encodeCanonical s) (TransitionStatus.code.bytes s) := by
  intro buf
  show (((resume (encodeCanonical s.required buf)).nest (encodeCanonical s.current)).nest
    (encodeCanonical s.limits)).result = _
  rw [resume_after (checkFlags_writes _), nest_after (checkFlags_writes _),
    nest_after (TransitionLimits.writes _), List.append_assoc]
  rfl

def KernelChecks.code : FixedCode (KernelChecks F32) :=
  (PreArmStatus.code.prod <| InFlightStatus.code.prod TransitionStatus.code).comap
    (fun s => (s.preArm, s.inFlight, s.transition))
    (by rintro ⟨⟩ ⟨⟩ h; simpa using h)

theorem KernelChecks.writes (s : KernelChecks F32) :
    Writes (encodeCanonical s) (KernelChecks.code.bytes s) := by
  intro buf
  show (((resume (encodeCanonical s.preArm buf)).nest (encodeCanonical s.inFlight)).nest
    (encodeCanonical s.transition)).result = _
  rw [resume_after (PreArmStatus.writes _), nest_after (InFlightStatus.writes _),
    nest_after (TransitionStatus.writes _), List.append_assoc]
  rfl

end Checks

/-! ## Actuators, timing and flight phase -/

section Actuators

variable {buf bytes : Bytes}

def ActuatorVector.code : FixedCode (ActuatorVector F32) := f32.vector 16

def GroupVector.code : FixedCode (GroupVector F32) :=
  (ActuatorVector.code.prod <| u16.prod bool).comap (fun v => (v.outputs, v.mask, v.valid))
    (by rintro ⟨⟩ ⟨⟩ h; simpa using h)

theorem GroupVector.writes (v : GroupVector F32) :
    Writes (encodeCanonical v) (GroupVector.code.bytes v) := by
  intro buf
  show (((v.outputs.toList.foldl _ (start buf)).copy _).copy _).result = _
  rw [start_eq, foldl_copy, copy_after, copy_after, List.nil_append, List.append_assoc]
  rfl

/-- The measured positions, with zeros for a filler. -/
def actualCode : FixedCode (Option (ActuatorVector F32)) :=
  ActuatorVector.code.option (Vector.replicate 16 ⟨0⟩)

theorem copyActual_after (actual : Option (ActuatorVector F32)) :
    (after buf bytes).copyActual actual = after buf (bytes ++ actualCode.bytes actual) := by
  cases actual with
  | some arr =>
    rw [copyActual, copy_after, foldl_copy, List.append_assoc]
    rfl
  | none =>
    rw [copyActual, copy_after, foldl_copy, List.append_assoc]
    rfl

def ActuatorState.code : FixedCode (ActuatorState F32) :=
  ((ActuatorHealth.code.vector 16).prod <| ActuatorVector.code.prod <| actualCode.prod <|
    u64.prod TimeSource.code).comap
    (fun s => (s.health, s.commanded, s.actual, s.timestamp.ticks, s.timestamp.source))
    (by rintro ⟨_, _, _, ⟨⟩⟩ ⟨_, _, _, ⟨⟩⟩ h; simpa using h)

theorem ActuatorState.writes (s : ActuatorState F32) :
    Writes (encodeCanonical s) (ActuatorState.code.bytes s) := by
  intro buf
  show ((((s.commanded.toList.foldl _ (s.health.toList.foldl _ (start buf))).copyActual
    s.actual).copy _).copy _).result = _
  rw [start_eq, foldl_nestClamped ActuatorHealth.writes, foldl_copy,
    copyActual_after, copy_after, copy_after, List.nil_append]
  simp only [List.append_assoc]
  rfl

def ActuatorFallbackState.code : FixedCode (ActuatorFallbackState F32) :=
  ((GroupVector.code.vector 8).prod <| (u16.vector 8).prod (u16.vector 8)).comap
    (fun s => (s.lastGood, s.age, s.consecutiveFallback))
    (by rintro ⟨⟩ ⟨⟩ h; simpa using h)

theorem ActuatorFallbackState.writes (s : ActuatorFallbackState F32) :
    Writes (encodeCanonical s) (ActuatorFallbackState.code.bytes s) := by
  intro buf
  show (s.consecutiveFallback.toList.foldl _ (s.age.toList.foldl _
    (s.lastGood.toList.foldl _ (start buf)))).result = _
  rw [start_eq, foldl_nestClamped GroupVector.writes, foldl_copy, foldl_copy, List.nil_append,
    List.append_assoc]
  rfl

def TimingStats.code : FixedCode TimingStats :=
  (u32.prod <| u32.prod <| u32.prod <| u32.prod <| u32.prod u64).comap
    (fun s => (s.lastCycleUs, s.maxCycleUs, s.minCycleUs, s.deadlineViolations,
      s.consecutiveViolations, s.totalCycles))
    (by rintro ⟨⟩ ⟨⟩ h; simpa using h)

theorem TimingStats.writes (s : TimingStats) :
    Writes (encodeCanonical s) (TimingStats.code.bytes s) := by
  intro buf
  simp [encodeCanonical, TimingStats.code]

def FlightPhaseState.code : FixedCode (FlightPhaseState F32) :=
  (FlightPhase.code.prod <| f32.prod <| bool.prod f32).comap
    (fun s => (s.phase, s.groundDatum, s.datumValid, s.landedElapsed))
    (by rintro ⟨⟩ ⟨⟩ h; simpa using h)

theorem FlightPhaseState.writes (s : FlightPhaseState F32) :
    Writes (encodeCanonical s) (FlightPhaseState.code.bytes s) := by
  intro buf
  show ((((resume (encodeCanonical s.phase buf)).copy _).copy _).copy _).result = _
  rw [resume_after (FlightPhase.writes _), copy_after, copy_after, copy_after]
  simp only [List.append_assoc]
  rfl

end Actuators

/-! ## Runtime states -/

/-- A runtime state whose encoder writes the code of what `written` shows of it. -/
class CanonicalCode (α : Type) [Replicable α] where
  Written : Type
  written : α → Written
  code : FixedCode Written
  width_eq : code.width = encodedLen α
  writes : ∀ a, Writes (encodeCanonical a) (code.bytes (written a))

section RuntimeStates

variable {buf bytes : Bytes}

def Vector3.code : FixedCode (Vector3 F32) :=
  (f32.prod <| f32.prod f32).comap (fun v => (v.x, v.y, v.z)) (by rintro ⟨⟩ ⟨⟩ h; simpa using h)

theorem copyVector3_after (v : Vector3 F32) :
    (after buf bytes).copyVector3 v = after buf (bytes ++ Vector3.code.bytes v) := by
  simp [copyVector3, Vector3.code]

def Quaternion.code : FixedCode (Quaternion F32) :=
  (f32.prod <| f32.prod <| f32.prod f32).comap (fun q => (q.w, q.x, q.y, q.z))
    (by rintro ⟨⟩ ⟨⟩ h; simpa using h)

namespace EkfState

/-- The fields the encoder of the filter writes. -/
abbrev Written : Type :=
  Quaternion F32 × Vector3 F32 × Vector3 F32 × Vector3 F32 × Vector3 F32 × Vector3 F32 ×
    Vector (Vector F32 stateDim) stateDim × Bool × Bool × Option F32 × F32 × F32 × F32

def written (s : EkfState F32) : Written :=
  (s.quat, s.pos, s.vel, s.gyroBias, s.accelBias, s.lastGyroBody, s.pCov, s.initialized,
    s.quatFault, s.baroRef, s.baroRefVar, s.imuAgeS, s.accelClipS)

def code : FixedCode Written :=
  Quaternion.code.prod <| Vector3.code.prod <| Vector3.code.prod <| Vector3.code.prod <|
    Vector3.code.prod <| Vector3.code.prod <| ((f32.vector stateDim).vector stateDim).prod <|
    bool.prod <| bool.prod <| (f32.option ⟨0⟩).prod <| f32.prod <| f32.prod f32

theorem writes (s : EkfState F32) : Writes (encodeCanonical s) (code.bytes s.written) := by
  intro buf
  have hbaro : [(baroRefBlock s.baroRef).1] ++ f32Bytes (baroRefBlock s.baroRef).2 =
      (f32.option ⟨0⟩).bytes s.baroRef := by
    cases s.baroRef <;> rfl
  have hrows (bytes : Bytes) : s.pCov.toList.foldl
      (fun c row => row.toList.foldl (fun c v => c.copy (f32Bytes v)) c) (after buf bytes) =
        after buf (bytes ++ ((f32.vector stateDim).vector stateDim).bytes s.pCov) :=
    foldl_after fun _ _ => foldl_copy
  simp only [encodeCanonical, start_eq, copy_after, copyVector3_after, hrows]
  simp only [List.append_assoc, List.nil_append]
  rw [← List.append_assoc [(baroRefBlock s.baroRef).1], hbaro]
  simp only [code, written, prod_bytes, Quaternion.code, comap_bytes, f32_bytes, bool_bytes,
    List.append_assoc]
  rfl

instance : CanonicalCode (EkfState F32) where
  Written := Written
  written := written
  code := code
  width_eq := rfl
  writes := writes

example : encodedLen (EkfState F32) = 995 := rfl

/-- `t` is `s` up to the time since the last fusions. -/
def SameButAges (s t : EkfState F32) : Prop :=
  t = { s with gnssPosAgeS := t.gnssPosAgeS, gnssVelAgeS := t.gnssVelAgeS, baroAgeS := t.baroAgeS }

theorem written_eq_iff {s t : EkfState F32} : s.written = t.written ↔ s.SameButAges t := by
  obtain ⟨⟩ := s
  obtain ⟨⟩ := t
  simp only [written, SameButAges, Prod.mk.injEq, EkfState.mk.injEq, true_and]
  grind

/-- The time since the last accepted fusions: what the encoder leaves out. -/
def ages (s : EkfState F32) : F32 × F32 × F32 := (s.gnssPosAgeS, s.gnssVelAgeS, s.baroAgeS)

/-- States that agree up to the ages are equal exactly if the ages are. -/
theorem SameButAges.eq_iff {s t : EkfState F32} (h : s.SameButAges t) :
    s = t ↔ s.ages = t.ages := by
  constructor
  · exact congrArg ages
  · intro hages
    simp only [ages, Prod.mk.injEq] at hages
    rw [h, ← hages.1, ← hages.2.1, ← hages.2.2]

end EkfState

instance : CanonicalCode Unit where
  Written := Unit
  written := id
  code := unit
  width_eq := rfl
  writes _ buf := by simp [encodeCanonical, after, result]

namespace MultirotorRuntimeState

/-- A boolean as `1.0` or `0.0`. -/
def boolF32Code : FixedCode Bool :=
  f32.comap boolF32 fun x y => by cases x <;> cases y <;> simp [boolF32]

/-- The entries of a triple. -/
def tripleCode : FixedCode (Vector F32 3) :=
  (f32.prod <| f32.prod f32).comap (fun v => (v[0], v[1], v[2])) fun v w h => by
    simp only [Prod.mk.injEq] at h
    ext i hi
    match i, hi with
    | 0, _ => rw [h.1]
    | 1, _ => rw [h.2.1]
    | 2, _ => rw [h.2.2]

def code : FixedCode (MultirotorRuntimeState F32) :=
  (Vector3.code.prod <| Vector3.code.prod <| Vector3.code.prod <| tripleCode.prod <|
    Vector3.code.prod <| boolF32Code.prod <| boolF32Code.prod <| boolF32Code.prod <| f32.prod <|
    modeOptionCode.prod <| topologyOptionCode.prod <| f32.prod <| f32.prod <| f32.prod <|
    f32.prod bool).comap
    (fun s => (s.velocityLoop.integratorNed, s.velocityLoop.lastVelFiltNed,
      s.rateLoop.measFilteredPrev, s.rateLoop.integral, s.lastVelSpNed, s.velSpPrimed,
      s.velocityLoop.dPrimed, s.rateLoop.primed, s.dtSec, s.previousEffectiveMode,
      s.previousTopology, s.lastAxisCommand.roll, s.lastAxisCommand.pitch, s.lastAxisCommand.yaw,
      s.lastAxisCommand.collective, s.axisCommandPrimed))
    (by
      rintro ⟨⟨⟩, ⟨⟩, _, _, _, _, _, ⟨⟩, _⟩ ⟨⟨⟩, ⟨⟩, _, _, _, _, _, ⟨⟩, _⟩ h
      simp only [Prod.mk.injEq] at h
      grind)

theorem writes (s : MultirotorRuntimeState F32) :
    Writes (encodeCanonical s) (code.bytes s) := by
  intro buf
  simp only [encodeCanonical, start_eq, foldl_copy, copy_after]
  simp only [code, comap_bytes, prod_bytes, Vector3.code, tripleCode, boolF32Code,
    List.flatMap_cons, List.flatMap_nil, List.append_assoc, List.nil_append]
  rfl

instance : CanonicalCode (MultirotorRuntimeState F32) where
  Written := MultirotorRuntimeState F32
  written := id
  code := code
  width_eq := rfl
  writes := writes

end MultirotorRuntimeState

end RuntimeStates

/-! ## The kernel state -/

namespace KernelState

variable {E R : Type} [Replicable E] [Replicable R]

/-- The state is written field by field, whatever the runtime states write. -/
theorem writes_blocks (s : KernelState F32 E R) {estimator controller : Bytes}
    (hE : Writes (encodeCanonical s.estimator) estimator)
    (hR : Writes (encodeCanonical s.controller) controller) :
    Writes (encodeCanonical s) (InitState.code.bytes s.initState ++
      (ConfigMode.code.bytes s.mode ++ (FaultFlags.code.bytes s.faults ++
      (ControlLawV1.code.bytes s.controlLaw ++ (TerminalCause.code.bytes s.terminalCause ++
      (KernelChecks.code.bytes s.checks ++ (ActuatorState.code.bytes s.actuatorState ++
      (TimingStats.code.bytes s.timingStats ++ (estimator ++
      (ActuatorFallbackState.code.bytes s.fallback ++ (controller ++
      FlightPhaseState.code.bytes s.flightPhase))))))))))) := by
  intro buf
  show (start buf |>.nest _ |>.nest _ |>.nest _ |>.nest _ |>.nest _ |>.nest _ |>.nest _ |>.nest _
    |>.nest _ |>.nest _ |>.nest _ |>.nest _).result = _
  rw [start_eq, nest_after (InitState.writes _), nest_after (ConfigMode.writes _),
    nest_after (FaultFlags.writes _), nest_after (ControlLawV1.writes _),
    nest_after (TerminalCause.writes _), nest_after (KernelChecks.writes _),
    nest_after (ActuatorState.writes _), nest_after (TimingStats.writes _),
    nest_after hE, nest_after (ActuatorFallbackState.writes _),
    nest_after hR, nest_after (FlightPhaseState.writes _)]
  simp only [List.append_assoc, List.nil_append]

variable [CanonicalCode E] [CanonicalCode R]

/-- What is written of a kernel state: every field, and of the runtime states what their
encoders write. -/
abbrev Written (E R : Type) [Replicable E] [Replicable R] [CanonicalCode E] [CanonicalCode R] :
    Type :=
  InitState × ConfigMode × FaultFlags × ControlLawV1 × TerminalCause × KernelChecks F32 ×
    ActuatorState F32 × TimingStats × CanonicalCode.Written E × ActuatorFallbackState F32 ×
    CanonicalCode.Written R × FlightPhaseState F32

def written (s : KernelState F32 E R) : Written E R :=
  (s.initState, s.mode, s.faults, s.controlLaw, s.terminalCause, s.checks, s.actuatorState,
    s.timingStats, CanonicalCode.written s.estimator, s.fallback,
    CanonicalCode.written s.controller, s.flightPhase)

def code : FixedCode (Written E R) :=
  InitState.code.prod <| ConfigMode.code.prod <| FaultFlags.code.prod <| ControlLawV1.code.prod <|
    TerminalCause.code.prod <| KernelChecks.code.prod <| ActuatorState.code.prod <|
    TimingStats.code.prod <| CanonicalCode.code.prod <| ActuatorFallbackState.code.prod <|
    CanonicalCode.code.prod FlightPhaseState.code

theorem width_eq : (code : FixedCode (Written E R)).width = encodedLen (KernelState F32 E R) := by
  have hE : (CanonicalCode.code (α := E)).width = encodedLen E := CanonicalCode.width_eq
  have hR : (CanonicalCode.code (α := R)).width = encodedLen R := CanonicalCode.width_eq
  simp only [code, prod_width, hE, hR, ← Nat.add_assoc]
  rfl

theorem writes (s : KernelState F32 E R) : Writes (encodeCanonical s) (code.bytes s.written) :=
  s.writes_blocks (CanonicalCode.writes _) (CanonicalCode.writes _)

/-- `t` is `s` up to the aiding ages of the filter. -/
def SameButAges (s t : KernelState F32 (EkfState F32) R) : Prop :=
  t = { s with estimator := t.estimator } ∧ s.estimator.SameButAges t.estimator

omit [Replicable R] [CanonicalCode R] in
theorem SameButAges.eq_iff {s t : KernelState F32 (EkfState F32) R} (h : s.SameButAges t) :
    s = t ↔ s.estimator.ages = t.estimator.ages := by
  rw [← h.2.eq_iff]
  constructor
  · exact congrArg estimator
  · intro hestimator
    rw [h.1, ← hestimator]

/-- What is written of a state with the filter tells all but the ages, if what is written of
the controller tells all. -/
theorem written_eq_iff (hR : Function.Injective (CanonicalCode.written : R → _))
    {s t : KernelState F32 (EkfState F32) R} : s.written = t.written ↔ s.SameButAges t := by
  have hE : ∀ e e' : EkfState F32,
      CanonicalCode.written e = CanonicalCode.written e' ↔ e.SameButAges e' :=
    fun _ _ => EkfState.written_eq_iff
  obtain ⟨⟩ := s
  obtain ⟨⟩ := t
  simp only [written, SameButAges, Prod.mk.injEq, KernelState.mk.injEq, hE, hR.eq_iff]
  grind

end KernelState

end Aviate

end ReplicationCode

section RuntimeBoardHal

/-!
# Drivers and the board HAL

`BoardHal` (`board_hal.rs`) makes the readings of the flight core out of those of a board's
drivers (`traits.rs`, `error.rs`), and `SensorCache` (`sensor_cache.rs`) keeps the latest of them.
The four driver traits of the sensors have one shape. What a driver or a clock answers is a
function of its state; the environment may change that state between two calls.
-/

namespace Aviate

variable {F : Type}

/-! ## Drivers -/

inductive SensorError where
  | busError
  | timeout
  | deviceNotFound
  | invalidData
  | invalidState
  | calibrationError
  | initFailed
  | configFailed
deriving DecidableEq, Repr

def SensorError.toHealth : SensorError → SensorHealth
  | .busError | .deviceNotFound | .initFailed => .failed
  | .timeout | .invalidData => .degraded
  | .invalidState | .calibrationError | .configFailed => .degraded

abbrev SensorResult (α : Type) := Except SensorError α

structure RawImuReading (F : Type) where
  accel : Vector F 3
  gyro : Vector F 3
  temperature : Option F

structure RawBaroReading (F : Type) where
  pressurePa : F
  differentialPressurePa : Option F
  pressureAltitudeM : Option F
  temperatureC : F

/-- Pressure altitude in the standard atmosphere. -/
def RawBaroReading.altitudeM [Scalar F] [LibmPow F] (raw : RawBaroReading F) : F :=
  lit (4433077 / 100) * (lit 1 - powf (raw.pressurePa / lit 101325) (lit (190284 / 1000000)))

structure RawMagReading (F : Type) where
  fieldUt : Vector F 3

structure RawGnssReading (F : Type) where
  latDeg : F64
  lonDeg : F64
  altM : F
  positionNed : Vector F 3
  velNed : Vector F 3
  fix : GnssFix
  hAcc : F
  vAcc : F
  satellites : UInt8

/-- `ImuDriver`, `BaroDriver`, `MagDriver` and `GnssDriver` at their raw readings. -/
class SensorDriver (D : Type) (Raw : outParam Type) where
  read : D → SensorResult Raw × D
  dataReady : D → SensorResult Bool × D
  sourceId : D → UInt8

/-- `TimeSource`: what a clock shows. -/
class HalTimeSource (T : Type) where
  nowUs : T → UInt64

structure RawActuatorCmd (F : Type) where
  outputs : Vector F 16
  count : UInt8

/-- The result of a write is ignored by the board HAL. -/
class ActuatorDriver (A : Type) (F : outParam Type) where
  write : A → RawActuatorCmd F → A
  arm : A → A
  disarm : A → A
  isArmed : A → Bool

/-! ## The board HAL -/

structure BoardHal (I B M G T A : Type) where
  imu : I
  baro : B
  mag : M
  gnss : G
  time : T
  actuator : A

/-- A reading's value, whether it is valid, and its health. -/
structure Converted (α : Type) where
  value : α
  valid : Bool
  health : SensorHealth

/-- Read one driver that has data: a failed read becomes an invalid reading of the default
value. -/
def readSensor {D Raw α : Type} [SensorDriver D Raw] (driver : D) (timestamp : Timestamp)
    (default : α) (convert : Raw → Converted α) : Option (SensorReading α) × D :=
  match SensorDriver.dataReady driver with
  | (.ok true, driver) =>
    let (result, driver) := SensorDriver.read driver
    let converted := match result with
      | .ok raw => convert raw
      | .error e => ⟨default, false, e.toHealth⟩
    (some ⟨converted.value, converted.valid, SensorDriver.sourceId driver, timestamp,
      converted.health⟩, driver)
  | (.ok false, driver) => (none, driver)
  | (.error _, driver) => (none, driver)

theorem readSensor_timestamp {D Raw α : Type} [SensorDriver D Raw] {driver : D}
    {timestamp : Timestamp} {default : α} {convert : Raw → Converted α} {reading : SensorReading α}
    (h : (readSensor driver timestamp default convert).1 = some reading) :
    reading.timestamp = timestamp := by
  unfold readSensor at h
  split at h
  · obtain rfl := Option.some.inj h
    rfl
  · cases h
  · cases h

section Defaults

variable [Scalar F]

def zeros : Vector F 3 := Vector.replicate 3 (lit 0)

def ImuData.default : ImuData F := ⟨zeros, zeros⟩

def MagData.default : MagData F := ⟨zeros⟩

def BaroData.default : BaroData F := ⟨none, ⟨none, none, none, none, none, none⟩⟩

def GnssData.default : GnssData F := ⟨zeros, zeros, .none, .lost⟩

end Defaults

namespace BoardHal

variable {I B M G T A : Type} (hal : BoardHal I B M G T A)

def timestamp [HalTimeSource T] : Timestamp := ⟨HalTimeSource.nowUs hal.time, .internal⟩

section Sensors

variable [Scalar F] [HalTimeSource T]

def readImu [SensorDriver I (RawImuReading F)] :
    Option (SensorReading (ImuData F)) × BoardHal I B M G T A :=
  let (reading, imu) := readSensor hal.imu hal.timestamp ImuData.default fun raw =>
    ⟨⟨raw.accel, raw.gyro⟩, true, .good⟩
  (reading, { hal with imu })

def readBaro [LibmPow F] [SensorDriver B (RawBaroReading F)] :
    Option (SensorReading (BaroData F)) × BoardHal I B M G T A :=
  let (reading, baro) := readSensor hal.baro hal.timestamp BaroData.default fun raw =>
    { value :=
        { altitude := some (raw.pressureAltitudeM.getD raw.altitudeM)
          air :=
            { staticPressure := some raw.pressurePa
              dynamicPressure := raw.differentialPressurePa
              totalPressure := none
              temperature := some raw.temperatureC
              indicatedAirspeed := none
              trueAirspeed := none } }
      valid := true
      health := .good }
  (reading, { hal with baro })

def readMag [SensorDriver M (RawMagReading F)] :
    Option (SensorReading (MagData F)) × BoardHal I B M G T A :=
  let (reading, mag) := readSensor hal.mag hal.timestamp MagData.default fun raw =>
    ⟨⟨raw.fieldUt⟩, true, .good⟩
  (reading, { hal with mag })

/-- Without a fix the receiver counts as failed. -/
def readGnss [SensorDriver G (RawGnssReading F)] :
    Option (SensorReading (GnssData F)) × BoardHal I B M G T A :=
  let (reading, gnss) := readSensor hal.gnss hal.timestamp GnssData.default fun raw =>
    { value := ⟨raw.positionNed, raw.velNed, raw.fix, if raw.fix = .none then .lost else .good⟩
      valid := raw.fix ≠ .none
      health := if raw.fix = .none then .failed else .good }
  (reading, { hal with gnss })

/-- A sample carries the time of the clock. -/
theorem readImu_timestamp [SensorDriver I (RawImuReading F)] {imu : SensorReading (ImuData F)}
    (h : hal.readImu.1 = some imu) : imu.timestamp = hal.timestamp := by
  have hread : (readSensor hal.imu hal.timestamp ImuData.default fun raw : RawImuReading F =>
      ⟨⟨raw.accel, raw.gyro⟩, true, .good⟩).1 = some imu := h
  exact readSensor_timestamp hread

end Sensors

section Actuators

variable [ActuatorDriver A F]

/-- `count_ones`. -/
def countOnes (mask : UInt16) : UInt8 :=
  .ofNat ((List.range 16).countP fun i => mask.toNat.testBit i)

def write (cmd : ActuatorCmd F) : BoardHal I B M G T A :=
  { hal with actuator := ActuatorDriver.write hal.actuator ⟨cmd.outputs, countOnes cmd.activeMask⟩ }

def arm : BoardHal I B M G T A := { hal with actuator := ActuatorDriver.arm hal.actuator }

def disarm : BoardHal I B M G T A := { hal with actuator := ActuatorDriver.disarm hal.actuator }

def isArmed : Bool := ActuatorDriver.isArmed hal.actuator

end Actuators

end BoardHal

/-! ## The sensor cache -/

/-- The latest reading of each sensor. -/
structure SensorCache (F : Type) where
  imu : Option (SensorReading (ImuData F))
  gnss : Option (SensorReading (GnssData F))
  baro : Option (SensorReading (BaroData F))
  mag : Option (SensorReading (MagData F))

/-- `SensorReading::default()`. -/
def SensorReading.default {α : Type} (value : α) : SensorReading α :=
  ⟨value, false, 0, .default, .notAvailable⟩

namespace SensorCache

def new : SensorCache F := ⟨none, none, none, none⟩

variable [Scalar F]

def toSensorSet (cache : SensorCache F) : SensorSet F :=
  let imu := SensorReading.default ImuData.default
  let gnss := SensorReading.default GnssData.default
  let mag := SensorReading.default MagData.default
  let baro := SensorReading.default BaroData.default
  let airspeed := SensorReading.default ⟨⟨none, none, none, none, none, none⟩⟩
  { imus := #v[cache.imu.getD imu, imu, imu]
    gnss := #v[cache.gnss.getD gnss, gnss]
    mags := #v[cache.mag.getD mag, mag]
    baros := #v[cache.baro.getD baro, baro]
    airspeeds := #v[airspeed, airspeed]
    geometry := none
    geomagnetic := none }

end SensorCache

end Aviate

end RuntimeBoardHal

section DriversSpl06

/-!
# Sensor drivers on a bus

The reading side of the SPL06 barometer (`spl06.rs`) and of the QMC5883L magnetometer
(`qmc5883l.rs`). The barometer reads its data registers one transaction at a time, the magnetometer
all six in one. A 24-bit register value and its sign extension are far from the ends of `i32`, so
they are integers here.
-/

namespace Aviate.Drivers

variable {B F α β : Type}

/-- The `write_read` of an I²C bus: name a register, read bytes from it on. -/
class I2c (B : Type) where
  writeRead : B → UInt8 → UInt8 → (n : Nat) → Except Unit (Vector UInt8 n) × B

/-- A fallible operation on a driver; what it did to the bus stays also when it fails. -/
abbrev DriverM (σ : Type) := ExceptT SensorError (StateM σ)

/-- Run an operation on a driver. -/
def DriverM.exec {σ : Type} (op : DriverM σ α) (driver : σ) : SensorResult α × σ := op.run driver

section

variable {σ : Type} {driver : σ}

@[simp] theorem exec_pure (a : α) : (pure a : DriverM σ α).exec driver = (.ok a, driver) := rfl

theorem exec_bind (op : DriverM σ α) (next : α → DriverM σ β) :
    (op >>= next).exec driver =
      match op.exec driver with
      | (.ok a, driver) => (next a).exec driver
      | (.error e, driver) => (.error e, driver) := by
  change (ExceptT.bindCont next (op.exec driver).1) (op.exec driver).2 = _
  rcases op.exec driver with ⟨_ | _, _⟩ <;> rfl

theorem exec_bind_error {op : DriverM σ α} {e : SensorError} (next : α → DriverM σ β)
    (h : (op.exec driver).1 = .error e) : ((op >>= next).exec driver).1 = .error e := by
  rw [exec_bind]
  rcases hrun : op.exec driver with ⟨e' | a, after⟩
  · rw [hrun] at h
    cases h
    rfl
  · rw [hrun] at h
    cases h

end

/-! ## SPL06 -/

namespace Spl06

/-- Factory calibration. -/
structure Coefficients where
  c0 : Int16
  c1 : Int16
  c00 : Int32
  c10 : Int32
  c01 : Int16
  c11 : Int16
  c20 : Int16
  c21 : Int16
  c30 : Int16

end Spl06

structure Spl06 (B F : Type) where
  i2c : B
  address : UInt8
  coef : Spl06.Coefficients
  kp : F
  kt : F
  sourceId : UInt8

namespace Spl06

def psrB2 : UInt8 := 0x00

def psrB1 : UInt8 := 0x01

def psrB0 : UInt8 := 0x02

def tmpB2 : UInt8 := 0x03

def tmpB1 : UInt8 := 0x04

def tmpB0 : UInt8 := 0x05

section

variable [I2c B]

/-- Read a register, in a transaction of its own. -/
def readReg (reg : UInt8) : DriverM (Spl06 B F) UInt8 := fun self =>
  match I2c.writeRead self.i2c self.address reg 1 with
  | (.ok buf, i2c) => (.ok buf[0], { self with i2c })
  | (.error _, i2c) => (.error .busError, { self with i2c })

/-- The 24 bits of three bytes, sign extended. -/
def signExtend24 (b2 b1 b0 : UInt8) : ℤ :=
  let raw := (b2.toNat <<< 16) ||| (b1.toNat <<< 8) ||| b0.toNat
  if raw > 0x7FFFFF then raw - 0x1000000 else raw

/-- A raw value of three registers, the most significant byte first. -/
def readRaw24 (regB2 regB1 regB0 : UInt8) : DriverM (Spl06 B F) ℤ := do
  let b2 ← readReg regB2
  let b1 ← readReg regB1
  let b0 ← readReg regB0
  return signExtend24 b2 b1 b0

def readRawPressure : DriverM (Spl06 B F) ℤ := readRaw24 psrB2 psrB1 psrB0

def readRawTemperature : DriverM (Spl06 B F) ℤ := readRaw24 tmpB2 tmpB1 tmpB0

/-- The two raw values that a reading is made of. -/
def readRaw : DriverM (Spl06 B F) (ℤ × ℤ) := do
  let psrRaw ← readRawPressure
  let tmpRaw ← readRawTemperature
  return (psrRaw, tmpRaw)

variable [Scalar F]

/-- Pressure and temperature of raw values. -/
def compensate (self : Spl06 B F) (psrRaw tmpRaw : ℤ) : F × F :=
  let coef := self.coef
  let psrSc := lit psrRaw / self.kp
  let tmpSc := lit tmpRaw / self.kt
  let tempC := lit coef.c0.toInt * lit (1 / 2) + lit coef.c1.toInt * tmpSc
  let pressurePa :=
    lit coef.c00.toInt
      + psrSc * (lit coef.c10.toInt + psrSc * (lit coef.c20.toInt + psrSc * lit coef.c30.toInt))
      + tmpSc * (lit coef.c01.toInt + psrSc * lit coef.c11.toInt)
      + tmpSc * tmpSc * lit coef.c21.toInt
  (pressurePa, tempC)

def calculateCompensated : DriverM (Spl06 B F) (F × F) := do
  let (psrRaw, tmpRaw) ← readRaw
  return (← get).compensate psrRaw tmpRaw

/-- `BaroDriver::read`. -/
def read : DriverM (Spl06 B F) (RawBaroReading F) := do
  let (pressurePa, temperatureC) ← calculateCompensated
  return { pressurePa, temperatureC, differentialPressurePa := none, pressureAltitudeM := none }

end

end Spl06

/-! ## QMC5883L -/

structure Qmc5883l (B : Type) where
  i2c : B
  address : UInt8

namespace Qmc5883l

def dataXLsb : UInt8 := 0x00

/-- `i16::from_le_bytes`. -/
def int16OfLe (lsb msb : UInt8) : Int16 := (lsb.toUInt16 ||| (msb.toUInt16 <<< 8)).toInt16

/-- The three axes of six data registers. -/
def axes (buf : Vector UInt8 6) : Vector Int16 3 :=
  #v[int16OfLe buf[0] buf[1], int16OfLe buf[2] buf[3], int16OfLe buf[4] buf[5]]

/-- All six data registers, in one transaction. -/
def readData [I2c B] : DriverM (Qmc5883l B) (Vector Int16 3) := fun self =>
  match I2c.writeRead self.i2c self.address dataXLsb 6 with
  | (.ok buf, i2c) => (.ok (axes buf), { self with i2c })
  | (.error _, i2c) => (.error .busError, { self with i2c })

end Qmc5883l

end Aviate.Drivers

end DriversSpl06

section RuntimeFakeDrivers

/-!
# Fake drivers

The sensors and the actuator of a simulated board (`fake.rs`, built with fault injection): a
sensor is fed by the simulation, buffers one reading and may carry one fault. The four sensors
differ in what a reading of NaNs is and in the biases they know.
-/

namespace Aviate

/-! ## Faults -/

inductive SensorFault where
  | healthDegraded
  | healthFailed
  | nan
  | dropout (remainingCycles : UInt32)
  | biasShift (offset : Vector F32 3)
  | biasShiftScalar (offset : F32)

/-- What one kind of sensor makes of a fault: its reading of NaNs, and a bias it knows. -/
class FaultyReading (Raw : Type) where
  nan : Raw
  biased : SensorFault → Option (Raw → Raw)

/-- `FakeImu`, `FakeBaro`, `FakeMag` and `FakeGnss`. -/
structure FakeSensor (Raw : Type) where
  reading : Option Raw
  sourceId : UInt8
  fault : Option SensorFault

namespace FakeSensor

variable {Raw : Type}

def new : FakeSensor Raw := ⟨none, 0, none⟩

def withSourceId (sourceId : UInt8) : FakeSensor Raw := ⟨none, sourceId, none⟩

def feed (s : FakeSensor Raw) (reading : Raw) : FakeSensor Raw := { s with reading := some reading }

def clear (s : FakeSensor Raw) : FakeSensor Raw := { s with reading := none }

def hasData (s : FakeSensor Raw) : Bool := s.reading.isSome

def injectFault (s : FakeSensor Raw) (fault : SensorFault) : FakeSensor Raw :=
  { s with fault := some fault }

def clearFaults (s : FakeSensor Raw) : FakeSensor Raw := { s with fault := none }

/-- `self.reading.take().ok_or(InvalidState)`, the reading made into another one. -/
def take (s : FakeSensor Raw) (shift : Raw → Raw) : SensorResult Raw × FakeSensor Raw :=
  match s.reading with
  | some reading => (.ok (shift reading), { s with reading := none })
  | none => (.error .invalidState, s)

/-- A dropout counts down one cycle a read, and leaves the reading in the buffer. -/
def read [FaultyReading Raw] (s : FakeSensor Raw) : SensorResult Raw × FakeSensor Raw :=
  match s.fault with
  | none => s.take id
  | some .healthDegraded => (.error .invalidData, s)
  | some .healthFailed => (.error .deviceNotFound, s)
  | some .nan => (.ok FaultyReading.nan, { s with reading := none })
  | some (.dropout remainingCycles) =>
    if remainingCycles > 0 then
      (.error .invalidState, { s with fault := some (.dropout (remainingCycles - 1)) })
    else { s with fault := none }.take id
  | some fault => s.take ((FaultyReading.biased fault).getD id)

def dataReady (s : FakeSensor Raw) : SensorResult Bool × FakeSensor Raw :=
  match s.fault with
  | some .healthDegraded | some .healthFailed | some .nan => (.ok true, s)
  | some (.dropout remainingCycles) =>
    if remainingCycles > 0 then (.ok false, s) else (.ok s.reading.isSome, s)
  | _ => (.ok s.reading.isSome, s)

instance [FaultyReading Raw] : SensorDriver (FakeSensor Raw) Raw where
  read := read
  dataReady := dataReady
  sourceId := sourceId

end FakeSensor

/-! ## The four sensors -/

/-- Add the offsets axis by axis. -/
def addOffset (v offset : Vector F32 3) : Vector F32 3 := Vector.zipWith (· + ·) v offset

def nanVector : Vector F32 3 := Vector.replicate 3 F32.nan

/-- `f64::NAN`. -/
def F64.nan : F64 := ⟨0x7FF8000000000000⟩

abbrev FakeImu := FakeSensor (RawImuReading F32)

/-- A bias is one of the accelerometer. -/
instance : FaultyReading (RawImuReading F32) where
  nan := ⟨nanVector, nanVector, some F32.nan⟩
  biased
    | .biasShift offset => some fun r => { r with accel := addOffset r.accel offset }
    | _ => none

abbrev FakeBaro := FakeSensor (RawBaroReading F32)

instance : FaultyReading (RawBaroReading F32) where
  nan := ⟨F32.nan, none, none, F32.nan⟩
  biased
    | .biasShiftScalar offset => some fun r => { r with pressurePa := r.pressurePa + offset }
    | _ => none

abbrev FakeMag := FakeSensor (RawMagReading F32)

instance : FaultyReading (RawMagReading F32) where
  nan := ⟨nanVector⟩
  biased
    | .biasShift offset => some fun r => ⟨addOffset r.fieldUt offset⟩
    | _ => none

abbrev FakeGnss := FakeSensor (RawGnssReading F32)

/-- A bias moves the position: its first two components are metres north and east, at 111 km a
degree. -/
instance : FaultyReading (RawGnssReading F32) where
  nan :=
    { latDeg := F64.nan
      lonDeg := F64.nan
      altM := F32.nan
      positionNed := nanVector
      velNed := nanVector
      fix := .none
      hAcc := F32.nan
      vAcc := F32.nan
      satellites := 0 }
  biased
    | .biasShift offset => some fun r =>
      { r with
        latDeg := .ofFloat (r.latDeg.toFloat + offset[0].toDouble / 111000)
        lonDeg := .ofFloat (r.lonDeg.toFloat + offset[1].toDouble / 111000)
        altM := r.altM + offset[2] }
    | _ => none

/-! ## The actuator -/

/-- The command it buffers, and whether it is armed. -/
structure FakeActuator where
  cmd : Option (RawActuatorCmd F32)
  armed : Bool

namespace FakeActuator

def new : FakeActuator := ⟨none, false⟩

/-- Take the buffered command. -/
def takeCmd (a : FakeActuator) : Option (RawActuatorCmd F32) × FakeActuator :=
  (a.cmd, { a with cmd := none })

/-- Disarming discards the command that is buffered. -/
instance : ActuatorDriver FakeActuator F32 where
  write a cmd := { a with cmd := some cmd }
  arm a := { a with armed := true }
  disarm _ := ⟨none, false⟩
  isArmed := armed

end FakeActuator

end Aviate

end RuntimeFakeDrivers

section SecuritySourcePolicy

/-!
# Principals and the source policy

The scheme-neutral identity of a sender (`principal.rs`), the errors of the security
layer (`errors.rs`), the provenance stamped at admission (`gateway/receipt.rs`) and
the table that binds a principal to the authority it speaks for
(`gateway/source_policy.rs`).

A policy holds at most one binding for each `(scheme, credential)`. `SourcePolicy`
carries that as a field, so `new` and `bind` are its only constructors.
-/

namespace Aviate.Security

/-! ## Principals -/

inductive SecurityScheme where
  | mavlinkSigning
deriving DecidableEq, Repr

/-- Which credential authenticated a command, and the identity it asserts. -/
structure Principal where
  scheme : SecurityScheme
  credential : UInt16
  identity : UInt16
deriving DecidableEq, Repr

/-- The principal of a signed MAVLink frame: the key slot, and the sender ids packed
into one word. -/
def Principal.mavlink (systemId componentId linkId : UInt8) : Principal where
  scheme := .mavlinkSigning
  credential := linkId.toUInt16
  identity := (systemId.toUInt16 <<< 8) ||| componentId.toUInt16

/-! ## Errors and provenance -/

inductive CryptoError where
  | invalidKey
  | verificationFailed
  | unsupportedAlgo
  | hardwareFailure
deriving DecidableEq, Repr

inductive AuthError where
  | crypto (err : CryptoError)
  | invalidSignature
  | missingSignature
  | replayAttack
  | staleNewStream (counter localCounter : UInt64)
  | counterImplausiblyAhead (counter ceiling : UInt64)
  | replayCapacityExhausted
  | unauthorizedSource
deriving DecidableEq, Repr

inductive CommandSource where
  | rc
  | gcsDatalink
  | offboard
deriving DecidableEq, Repr

structure VerificationReceipt where
  source : CommandSource
  authorityEpoch : UInt32
  sequence : UInt64
  receivedAtUs : UInt64
  expiresAtUs : Option UInt64
deriving DecidableEq, Repr

/-! ## The policy -/

structure Binding where
  principal : Principal
  source : CommandSource
deriving DecidableEq, Repr

/-- The secret a binding rests on. -/
def Binding.key (b : Binding) : SecurityScheme × UInt16 :=
  (b.principal.scheme, b.principal.credential)

inductive CredentialError where
  | tableFull
  | duplicateCredential (credential : UInt16)
deriving DecidableEq, Repr

/-- `MAX_SOURCE_BINDINGS`. -/
abbrev maxSourceBindings : Nat := 8

/-- One credential speaks for one authority: no two bindings share a key. -/
structure SourcePolicy where
  bindings : SlotTable Binding maxSourceBindings
  oneAuthority : bindings.DistinctOn Binding.key

namespace SourcePolicy

/-- No principal is authorized until bound. -/
def new : SourcePolicy := ⟨.empty, SlotTable.distinctOn_empty⟩

/-- A binding on this principal's credential exists. -/
def CredentialBound (policy : SourcePolicy) (principal : Principal) : Prop :=
  ∃ b ∈ policy.bindings.entries,
    b.principal.scheme = principal.scheme ∧ b.principal.credential = principal.credential

instance (policy : SourcePolicy) (principal : Principal) :
    Decidable (policy.CredentialBound principal) :=
  inferInstanceAs (Decidable (∃ b ∈ policy.bindings.entries, _))

/-- Binding a fresh credential keeps the keys distinct. -/
theorem put_distinct {policy : SourcePolicy} {principal : Principal} (source : CommandSource)
    (hnew : ¬policy.CredentialBound principal) (free : Fin maxSourceBindings) :
    (policy.bindings.put free ⟨principal, source⟩).DistinctOn Binding.key := by
  refine policy.oneAuthority.insert fun b hb hkey => hnew ⟨b, SlotTable.mem_entries.mpr hb, ?_⟩
  exact Prod.mk.inj hkey

/-- Authorize `principal` as `source`; a taken credential and a full table are
reported and leave the policy as it is. -/
def bind (policy : SourcePolicy) (principal : Principal) (source : CommandSource) :
    SourcePolicy × Except CredentialError Unit :=
  if hdup : policy.CredentialBound principal then
    (policy, .error (.duplicateCredential principal.credential))
  else
    match policy.bindings.firstFree with
    | some free =>
      (⟨policy.bindings.put free ⟨principal, source⟩, put_distinct source hdup free⟩, .ok ())
    | none => (policy, .error .tableFull)

/-- The source of the first binding of exactly this principal. -/
def resolve (policy : SourcePolicy) (principal : Principal) : Option CommandSource :=
  policy.bindings.entries.findSome? fun b => if b.principal = principal then some b.source else none

/-- The principals the policy binds, in slot order. -/
def boundPrincipals (policy : SourcePolicy) : List Principal :=
  policy.bindings.entries.map Binding.principal

variable {policy : SourcePolicy} {p q : Principal} {source : CommandSource}

/-- A principal resolves if and only if the policy binds it. -/
theorem resolve_isSome_iff : (policy.resolve p).isSome ↔ p ∈ policy.boundPrincipals := by
  rw [resolve, List.findSome?_isSome_iff, boundPrincipals, List.mem_map]
  refine exists_congr fun b => and_congr_right fun _ => ?_
  split <;> simp_all

theorem mem_boundPrincipals_of_resolve (h : policy.resolve p = some source) :
    p ∈ policy.boundPrincipals :=
  resolve_isSome_iff.mp (by simp [h])

theorem boundPrincipals_length_le (policy : SourcePolicy) :
    policy.boundPrincipals.length ≤ maxSourceBindings := by
  rw [boundPrincipals, List.length_map]
  exact policy.bindings.entries_length_le

/-- Two authorized principals with the same credential are the same principal: the
key alone does not choose an identity. -/
theorem eq_of_same_credential (hp : p ∈ policy.boundPrincipals) (hq : q ∈ policy.boundPrincipals)
    (hscheme : p.scheme = q.scheme) (hcred : p.credential = q.credential) : p = q := by
  obtain ⟨b, hb, rfl⟩ := List.mem_map.mp hp
  obtain ⟨b', hb', rfl⟩ := List.mem_map.mp hq
  obtain ⟨i, hi⟩ := SlotTable.mem_entries.mp hb
  obtain ⟨j, hj⟩ := SlotTable.mem_entries.mp hb'
  have hij : i = j := policy.oneAuthority i j b b' hi hj (Prod.ext hscheme hcred)
  subst hij
  obtain rfl : b = b' := Option.some.inj (hi.symm.trans hj)
  rfl

end SourcePolicy

end Aviate.Security

end SecuritySourcePolicy

section SecurityAntiReplay

/-!
# The anti-replay window

`AntiReplayWindow` (`anti_replay.rs`) tracks the last accepted counter of each
principal in a fixed number of slots, a freshness floor for streams not seen before
and the highest counter accepted.

Results:
1. A refused counter leaves the window as it is (`checkAndUpdate_error`); an accepted one
   advances a tracked principal or opens a new stream (`checkAndUpdate_ok`).
2. On the ledger of last counters an accepted counter is one move (`Accepts.ledger`).
3. An accepted counter does not lag the floor by more than the age bound
   (`Accepts.fresh`), from an invariant of the marks (`Marked`).
4. The tracked principals stay pairwise distinct and among those allowed (`Tracks`), and
   a window of few enough principals has a free slot (`Tracks.exists_free`).
-/

/-- `u64::saturating_sub`. -/
def UInt64.saturatingSub (a b : UInt64) : UInt64 := if b ≤ a then a - b else 0

theorem UInt64.toNat_saturatingSub (a b : UInt64) :
    (a.saturatingSub b).toNat = a.toNat - b.toNat := by
  unfold UInt64.saturatingSub
  split
  · rename_i h
    exact UInt64.toNat_sub_of_le _ _ h
  · rename_i h
    rw [UInt64.le_iff_toNat_le] at h
    simp only [UInt64.toNat_zero]
    omega

theorem UInt64.toNat_saturatingAdd (a b : UInt64) :
    (a.saturatingAdd b).toNat = min (a.toNat + b.toNat) (2 ^ 64 - 1) := by
  unfold UInt64.saturatingAdd
  split
  · rename_i h
    simp only [UInt64.size] at h
    rw [UInt64.toNat_add]
    omega
  · rename_i h
    simp only [UInt64.size] at h ⊢
    simp only [UInt64.toNat_ofNat']
    omega

namespace Aviate.Security

/-- `MAX_SIGNING_PEERS`. -/
abbrev maxSigningPeers : Nat := 16

/-- `NEW_STREAM_MAX_AGE_10US`: one minute of MAVLink signing ticks. -/
def newStreamMaxAge10Us : UInt64 := 6000000

/-- One tracked principal and its last accepted counter. -/
structure Slot where
  principal : Principal
  lastCounter : UInt64
deriving DecidableEq, Repr

structure AntiReplayWindow where
  slots : SlotTable Slot maxSigningPeers
  freshnessFloor : UInt64
  highWater : UInt64
  newStreamMaxAge : UInt64
deriving DecidableEq

namespace AntiReplayWindow

/-- A window with no tracked principals. -/
def new (initialTrustedCounter newStreamMaxAge : UInt64) : AntiReplayWindow where
  slots := .empty
  freshnessFloor := initialTrustedCounter
  highWater := initialTrustedCounter
  newStreamMaxAge := newStreamMaxAge

/-- The value to persist across a reboot. -/
def localCounter (w : AntiReplayWindow) : UInt64 := w.highWater

/-- The slot of a tracked principal. -/
def find (w : AntiReplayWindow) (principal : Principal) : Option (Fin maxSigningPeers) :=
  w.slots.position fun s => s.principal = principal

/-- Store `counter` as the last one of `principal` in slot `i` and raise the high-water
mark. -/
def commit (w : AntiReplayWindow) (i : Fin maxSigningPeers) (principal : Principal)
    (counter : UInt64) : AntiReplayWindow :=
  { w with
    slots := w.slots.put i ⟨principal, counter⟩
    highWater := max w.highWater counter }

/-- The check against the principal's own stream, or against the freshness floor for a
stream not seen before. -/
def checkStream (w : AntiReplayWindow) (principal : Principal) (counter : UInt64) :
    AntiReplayWindow × Except AuthError Unit :=
  match w.find principal with
  | some idx =>
    match w.slots.slot idx with
    | some slot =>
      if counter ≤ slot.lastCounter then (w, .error .replayAttack)
      else (w.commit idx slot.principal counter, .ok ())
    | none => (w, .error .replayAttack)
  | none =>
    -- A principal not seen before has an implicit last counter of 0.
    if counter = 0 then (w, .error .replayAttack)
    else if counter < w.freshnessFloor.saturatingSub w.newStreamMaxAge then
      (w, .error (.staleNewStream counter w.freshnessFloor))
    else
      match w.slots.firstFree with
      | some free => (w.commit free principal counter, .ok ())
      | none => (w, .error .replayCapacityExhausted)

/-- Check whether `counter` is valid for `principal` and update the window. The forward
bound comes first, when the caller can derive one. -/
def checkAndUpdate (w : AntiReplayWindow) (principal : Principal) (counter : UInt64)
    (plausibleCeiling : Option UInt64) : AntiReplayWindow × Except AuthError Unit :=
  match plausibleCeiling with
  | some ceiling =>
    if ceiling < counter then (w, .error (.counterImplausiblyAhead counter ceiling))
    else w.checkStream principal counter
  | none => w.checkStream principal counter

/-- Last accepted counter of a principal, 0 when it has never been accepted. -/
def lastCounter (w : AntiReplayWindow) (principal : Principal) : UInt64 :=
  match w.find principal with
  | some idx =>
    match w.slots.slot idx with
    | some slot => slot.lastCounter
    | none => 0
  | none => 0

variable {w w' : AntiReplayWindow} {p q : Principal} {c : UInt64} {ceiling : Option UInt64}
  {err : AuthError}

/-! ## What a call does -/

/-- How an accepted counter changes the window: it advances the slot of a tracked
principal, or opens a stream in the first free slot. -/
inductive Accepts (w : AntiReplayWindow) (p : Principal) (c : UInt64) : AntiReplayWindow → Prop
  | advance {i : Fin maxSigningPeers} {s : Slot} (found : w.find p = some i)
      (held : w.slots.slot i = some s) (own : s.principal = p) (newer : s.lastCounter < c) :
      Accepts w p c (w.commit i p c)
  | start {i : Fin maxSigningPeers} (untracked : w.find p = none) (positive : c ≠ 0)
      (fresh : w.freshnessFloor.saturatingSub w.newStreamMaxAge ≤ c)
      (free : w.slots.firstFree = some i) : Accepts w p c (w.commit i p c)

theorem find_spec {i : Fin maxSigningPeers} (h : w.find p = some i) :
    ∃ s, w.slots.slot i = some s ∧ s.principal = p := by
  obtain ⟨s, hs, hp⟩ := SlotTable.position_spec h
  exact ⟨s, hs, by simpa using hp⟩

theorem checkStream_ok (h : w.checkStream p c = (w', .ok ())) : w.Accepts p c w' := by
  unfold checkStream at h
  cases hfind : w.find p with
  | some i =>
    obtain ⟨s, hs, hp⟩ := find_spec hfind
    simp only [hfind, hs, hp] at h
    split at h
    · simp at h
    · rename_i hlt
      obtain rfl := (Prod.mk.inj h).1
      exact .advance hfind hs hp (by simpa using hlt)
  | none =>
    simp only [hfind] at h
    split at h
    · simp at h
    · rename_i hpos
      split at h
      · simp at h
      · rename_i hfresh
        cases hfree : w.slots.firstFree with
        | none => simp [hfree] at h
        | some i =>
          simp only [hfree] at h
          obtain rfl := (Prod.mk.inj h).1
          exact .start hfind hpos (by simpa using hfresh) hfree

/-- An accepted counter advances or opens its stream. -/
theorem checkAndUpdate_ok (h : w.checkAndUpdate p c ceiling = (w', .ok ())) : w.Accepts p c w' := by
  unfold checkAndUpdate at h
  cases ceiling with
  | none => exact checkStream_ok h
  | some x =>
    simp only at h
    split at h
    · simp at h
    · exact checkStream_ok h

/-- A refused counter leaves the window as it is. -/
theorem checkAndUpdate_error (h : w.checkAndUpdate p c ceiling = (w', .error err)) : w' = w := by
  unfold checkAndUpdate checkStream at h
  grind

/-- Only the forward bound refuses a counter as too far ahead. -/
theorem checkAndUpdate_ahead_iff {c' x : UInt64} :
    (w.checkAndUpdate p c ceiling).2 = .error (.counterImplausiblyAhead c' x) ↔
      ceiling = some x ∧ x < c ∧ c' = c := by
  unfold checkAndUpdate checkStream
  grind

/-- The capacity error needs a principal not tracked and a full table. -/
theorem checkAndUpdate_exhausted
    (h : (w.checkAndUpdate p c ceiling).2 = .error .replayCapacityExhausted) :
    w.find p = none ∧ w.slots.firstFree = none := by
  unfold checkAndUpdate checkStream at h
  grind

/-! ## The ledger of last counters -/

/-- What the window knows of each principal, as numbers. -/
def ledger (w : AntiReplayWindow) : Ledger Principal ℕ := fun p =>
  (w.slots.lookup Slot.principal p).map fun s => s.lastCounter.toNat

/-- An accepted counter is the new entry of its principal, and no other entry changes. -/
theorem Accepts.lookup (h : w.Accepts p c w') :
    w'.slots.lookup Slot.principal q =
      if q = p then some ⟨p, c⟩ else w.slots.lookup Slot.principal q := by
  cases h with
  | advance found held own newer => exact SlotTable.lookup_replace found
  | start untracked positive fresh free =>
    have hnone : w.slots.lookup Slot.principal p = none :=
      SlotTable.lookup_eq_none_iff.mpr untracked
    exact SlotTable.lookup_insert hnone (SlotTable.firstFree_spec free)

/-- A principal the scan finds is looked up to the entry found. -/
theorem lookup_of_find {i : Fin maxSigningPeers} (h : w.find p = some i) :
    w.slots.lookup Slot.principal p = w.slots.slot i := by
  rw [SlotTable.lookup, show w.slots.position _ = some i from h, Option.bind_some]

/-- An accepted counter is one move of the ledger. -/
theorem Accepts.ledger (h : w.Accepts p c w') :
    (Ledger.system Principal ℕ).step w.ledger (p, c.toNat) w'.ledger := by
  constructor
  · intro last hlast
    cases h with
    | advance found held own newer =>
      simp only [AntiReplayWindow.ledger, lookup_of_find found, held, Option.map_some,
        Option.some.injEq] at hlast
      rw [← hlast]
      exact UInt64.lt_iff_toNat_lt.mp newer
    | start untracked positive fresh free =>
      have hnone : w.slots.lookup Slot.principal p = none :=
        SlotTable.lookup_eq_none_iff.mpr untracked
      simp [AntiReplayWindow.ledger, hnone] at hlast
  · funext q
    show (w'.slots.lookup Slot.principal q).map _ = _
    rw [h.lookup, Ledger.record]
    split <;> rfl

/-! ## The marks of the window -/

/-- The tracked counters lie between the freshness bound and the high-water mark. -/
structure Marked (w : AntiReplayWindow) : Prop where
  floor_le : w.freshnessFloor.toNat ≤ w.highWater.toNat
  floor_le_last : ∀ s, w.slots.Holds s →
    w.freshnessFloor.toNat ≤ s.lastCounter.toNat + w.newStreamMaxAge.toNat

theorem new_marked (seed maxAge : UInt64) : (new seed maxAge).Marked where
  floor_le := le_rfl
  floor_le_last s hs := by
    obtain ⟨i, hi⟩ := hs
    simp [new] at hi

theorem commit_highWater {i : Fin maxSigningPeers} :
    (w.commit i p c).highWater.toNat = max w.highWater.toNat c.toNat := UInt64.toNat_max ..

/-- Accepting a counter leaves the floor and the age bound alone and raises the
high-water mark to the counter. -/
theorem Accepts.marks (h : w.Accepts p c w') :
    w'.freshnessFloor = w.freshnessFloor ∧ w'.newStreamMaxAge = w.newStreamMaxAge ∧
      w'.highWater.toNat = max w.highWater.toNat c.toNat := by
  cases h with
  | advance => exact ⟨rfl, rfl, commit_highWater⟩
  | start => exact ⟨rfl, rfl, commit_highWater⟩

/-- An accepted counter does not lag the floor by more than the age bound. -/
theorem Accepts.fresh (h : w.Accepts p c w') (hw : w.Marked) :
    w.freshnessFloor.toNat ≤ c.toNat + w.newStreamMaxAge.toNat := by
  cases h with
  | @advance i s found held own newer =>
    have hlast := hw.floor_le_last s ⟨i, held⟩
    rw [UInt64.lt_iff_toNat_lt] at newer
    omega
  | start untracked positive fresh free =>
    rw [UInt64.le_iff_toNat_le, UInt64.toNat_saturatingSub] at fresh
    omega

theorem Accepts.marked (h : w.Accepts p c w') (hw : w.Marked) : w'.Marked := by
  have hfresh := h.fresh hw
  have hcommit : ∀ i, (w.commit i p c).Marked := by
    intro i
    refine ⟨?_, fun s hs => ?_⟩
    · rw [commit_highWater]
      exact le_max_of_le_left hw.floor_le
    · rcases SlotTable.Holds.of_set hs with rfl | hs
      · exact hfresh
      · exact hw.floor_le_last s hs
  cases h with
  | advance => exact hcommit _
  | start => exact hcommit _

/-! ## The tracked principals -/

/-- The occupied slots hold pairwise distinct principals, all of them allowed. -/
structure Tracks (w : AntiReplayWindow) (allowed : List Principal) : Prop where
  distinct : w.slots.DistinctOn Slot.principal
  allowed : ∀ s, w.slots.Holds s → s.principal ∈ allowed

variable {allowed : List Principal}

theorem new_tracks (seed maxAge : UInt64) : (new seed maxAge).Tracks allowed where
  distinct := SlotTable.distinctOn_empty
  allowed s hs := by
    obtain ⟨i, hi⟩ := hs
    simp [new] at hi

theorem Accepts.tracks (h : w.Accepts p c w') (hw : w.Tracks allowed) (hp : p ∈ allowed) :
    w'.Tracks allowed := by
  have hallowed : ∀ i s, (w.commit i p c).slots.Holds s → s.principal ∈ allowed := by
    intro i s hs
    rcases SlotTable.Holds.of_set hs with rfl | hs
    · exact hp
    · exact hw.allowed s hs
  cases h with
  | advance found held own newer => exact ⟨hw.distinct.replace held own, hallowed _⟩
  | start untracked positive fresh free =>
    refine ⟨hw.distinct.insert fun s hs => ?_, hallowed _⟩
    simpa using SlotTable.position_eq_none_iff.mp untracked s hs

/-- A window that tracks only allowed principals, fewer than it has slots, has a free
slot. -/
theorem Tracks.exists_free (hw : w.Tracks allowed) (hlt : allowed.length < maxSigningPeers) :
    ∃ i, w.slots.firstFree = some i :=
  SlotTable.exists_firstFree hw.distinct hw.allowed hlt

/-! ## A window without streams -/

/-- The counter 0 never opens a stream. -/
theorem checkStream_zero (h : w.find p = none) : w.checkStream p 0 = (w, .error .replayAttack) := by
  unfold checkStream
  simp [h]

theorem checkStream_start {i : Fin maxSigningPeers} (h : w.find p = none) (hpos : c ≠ 0)
    (hfresh : w.freshnessFloor.toNat ≤ c.toNat + w.newStreamMaxAge.toNat)
    (hfree : w.slots.firstFree = some i) : w.checkStream p c = (w.commit i p c, .ok ()) := by
  have hnot : ¬c < w.freshnessFloor.saturatingSub w.newStreamMaxAge := by
    rw [UInt64.lt_iff_toNat_lt, UInt64.toNat_saturatingSub]
    omega
  unfold checkStream
  simp [h, hpos, hnot, hfree]

theorem find_new (seed maxAge : UInt64) (p : Principal) : (new seed maxAge).find p = none := by
  refine SlotTable.position_eq_none_iff.mpr fun s hs => ?_
  obtain ⟨i, hi⟩ := hs
  simp [new] at hi

/-- A new window refuses the counter 0 and changes nothing. -/
theorem new_refuses_zero (seed maxAge : UInt64) (p : Principal) (ceiling : Option UInt64) :
    ∃ err, (new seed maxAge).checkAndUpdate p 0 ceiling = (new seed maxAge, .error err) := by
  have hstream := checkStream_zero (find_new seed maxAge p)
  unfold checkAndUpdate
  cases ceiling with
  | none => exact ⟨_, hstream⟩
  | some x =>
    simp only [hstream]
    split
    · exact ⟨_, rfl⟩
    · exact ⟨_, rfl⟩

/-- A new window accepts a positive counter from its seed on, up to the ceiling. -/
theorem new_accepts_iff {seed maxAge x : UInt64} (hpos : c ≠ 0) (hseed : seed ≤ c) :
    ((new seed maxAge).checkAndUpdate p c (some x)).2 = .ok () ↔ c ≤ x := by
  have htracks : (new seed maxAge).Tracks [] := new_tracks seed maxAge
  obtain ⟨i, hfree⟩ := htracks.exists_free (by decide)
  have hfresh : (new seed maxAge).freshnessFloor.toNat ≤
      c.toNat + (new seed maxAge).newStreamMaxAge.toNat :=
    (UInt64.le_iff_toNat_le.mp hseed).trans (Nat.le_add_right ..)
  have hstream := checkStream_start (find_new seed maxAge p) hpos hfresh hfree
  unfold checkAndUpdate
  simp only
  split
  · rename_i hlt
    simpa using hlt
  · rename_i hle
    simpa [hstream] using hle

end AntiReplayWindow

end Aviate.Security

end SecurityAntiReplay

section RuntimeCycleTime

/-!
# The time a control cycle integrates

`SitlRunner::cycle_delta` (`sim/step.rs`) and the time step of `MicoAirBoard::board_step`
(`hw.rs`). A cycle with an IMU sample integrates the time since the sample before it, a cycle
without one a nominal period.
-/

namespace Aviate

variable {I B M G T A F : Type}

/-! ## The two time steps -/

/-- The fields a runner keeps for reading sensors. -/
structure Sensing (I B M G T A F : Type) where
  boardHal : BoardHal I B M G T A
  lastImuTime : Option UInt64
  sensorCache : SensorCache F

/-- The simulator's clock, as it stands. -/
structure SitlTime where
  elapsedUs : UInt64

instance : HalTimeSource SitlTime := ⟨SitlTime.elapsedUs⟩

/-- The board's clock. It shows what `sync` was last given, and no caller has access to it once
the board HAL owns it. -/
structure HwTimeSource where
  timeUs : UInt64

namespace HwTimeSource

def new : HwTimeSource := ⟨0⟩

def sync (_ : HwTimeSource) (nowUs : UInt64) : HwTimeSource := ⟨nowUs⟩

end HwTimeSource

instance : HalTimeSource HwTimeSource := ⟨HwTimeSource.timeUs⟩

section Steps

variable [Scalar F]

/-- `(delta_us as f32) * 1e-6`. -/
def microSeconds (deltaUs : Nat) : F := lit deltaUs * lit (1 / 1000000)

/-- `clamp(0.0001, 0.1)`. -/
def clampDt (dt : F) : F := Scalar.clamp dt (lit (1 / 10000)) (lit (1 / 10))

namespace Sensing

variable [HalTimeSource T] [SensorDriver I (RawImuReading F)]

/-- Keep a sample and its time. -/
def cacheImu (self : Sensing I B M G T A F) (imu : SensorReading (ImuData F)) :
    Sensing I B M G T A F :=
  { self with
    lastImuTime := some imu.timestamp.ticks
    sensorCache := { self.sensorCache with imu := some imu } }

/-- `cycle_delta`: the step of the simulator when there is one, else the gap between samples. -/
def cycleDelta (self : Sensing I B M G T A F) (simDeltaUs : Option UInt64) :
    TimeDelta F × Sensing I B M G T A F :=
  let (reading, boardHal) := self.boardHal.readImu
  let self := { self with boardHal }
  let (deltaUs, self) : UInt64 × Sensing I B M G T A F :=
    match reading with
    | some imu =>
      (match self.lastImuTime with
        | some last => imu.timestamp.ticks.saturatingSub last
        | none => 1000, self.cacheImu imu)
    | none => (1000, self)
  let deltaUs := simDeltaUs.getD deltaUs
  (⟨clampDt (microSeconds deltaUs.toNat), deltaUs⟩, self)

/-- The first part of `board_step`: the sensors are read, and the time step is settled. -/
def boardTime [LibmPow F] [SensorDriver B (RawBaroReading F)] [SensorDriver M (RawMagReading F)]
    (self : Sensing I B M G T A F) (dtUs : UInt32) : TimeDelta F × Sensing I B M G T A F :=
  let (reading, boardHal) := self.boardHal.readImu
  let self := { self with boardHal }
  let (currentDt, self) : F × Sensing I B M G T A F :=
    match reading with
    | some imu =>
      (match self.lastImuTime with
        | some last => clampDt (microSeconds (imu.timestamp.ticks.saturatingSub last).toNat)
        | none => microSeconds dtUs.toNat, self.cacheImu imu)
    | none => (microSeconds dtUs.toNat, self)
  let (baro, boardHal) := self.boardHal.readBaro
  let (mag, boardHal) := boardHal.readMag
  (⟨currentDt, dtUs.toUInt64⟩,
    { self with
      boardHal
      sensorCache := { self.sensorCache with
        baro := baro <|> self.sensorCache.baro
        mag := mag <|> self.sensorCache.mag } })

/-! ### What a cycle takes from the clock -/

variable (self : Sensing I B M G T A F)

/-- The gap to the last sample, on a cycle with a sample. -/
def gap : Option UInt64 :=
  if self.boardHal.readImu.1.isSome then
    self.lastImuTime.map fun last => (HalTimeSource.nowUs self.boardHal.time).saturatingSub last
  else none

/-- The time of the last sample after the cycle. -/
def sampleTime : Option UInt64 :=
  if self.boardHal.readImu.1.isSome then some (HalTimeSource.nowUs self.boardHal.time)
  else self.lastImuTime

theorem cycleDelta_eq (simDeltaUs : Option UInt64) :
    (self.cycleDelta simDeltaUs).1.tickDelta = simDeltaUs.getD (self.gap.getD 1000) ∧
      (self.cycleDelta simDeltaUs).2.lastImuTime = self.sampleTime := by
  unfold cycleDelta gap sampleTime
  rcases hread : self.boardHal.readImu with ⟨reading, hal⟩
  cases reading with
  | none => exact ⟨rfl, rfl⟩
  | some imu =>
    have htime : imu.timestamp = self.boardHal.timestamp :=
      BoardHal.readImu_timestamp _ (congrArg Prod.fst hread)
    cases hlast : self.lastImuTime with
    | none => exact ⟨rfl, by simp [cacheImu, htime, BoardHal.timestamp]⟩
    | some last =>
      constructor
      · simp [htime, BoardHal.timestamp]
      · simp [cacheImu, htime, BoardHal.timestamp]

theorem boardTime_eq [LibmPow F] [SensorDriver B (RawBaroReading F)]
    [SensorDriver M (RawMagReading F)] (dtUs : UInt32) :
    (self.boardTime dtUs).1.dtSec =
        (match self.gap with
          | some deltaUs => clampDt (microSeconds deltaUs.toNat)
          | none => microSeconds dtUs.toNat) ∧
      (self.boardTime dtUs).2.lastImuTime = self.sampleTime ∧
        (self.boardTime dtUs).2.boardHal.time = self.boardHal.time := by
  unfold boardTime gap sampleTime
  rcases hread : self.boardHal.readImu with ⟨reading, hal⟩
  have hhal : hal.time = self.boardHal.time := by
    have hsnd : self.boardHal.readImu.2.time = self.boardHal.time := rfl
    rwa [hread] at hsnd
  cases reading with
  | none => exact ⟨rfl, rfl, hhal⟩
  | some imu =>
    have htime : imu.timestamp = self.boardHal.timestamp :=
      BoardHal.readImu_timestamp _ (congrArg Prod.fst hread)
    cases hlast : self.lastImuTime with
    | none => exact ⟨rfl, by simp [cacheImu, htime, BoardHal.timestamp], hhal⟩
    | some last =>
      refine ⟨?_, ?_, hhal⟩
      · simp [htime, BoardHal.timestamp]
      · simp [cacheImu, htime, BoardHal.timestamp]

end Sensing

end Steps

/-! ## Cycles -/

/-- What is known of an executed cycle: its true time, whether the world was reset before it,
its nominal period, whether it had an IMU sample, and the time step before and after the clamp. -/
structure Cycle (F : Type) where
  atUs : UInt64
  worldReset : Bool
  nominalUs : Nat
  bearing : Bool
  rawSec : F
  dtSec : F
deriving DecidableEq

/-- A cycle of the simulator's runner, with its driver as the cycle finds it. -/
structure SitlCycle (I : Type) where
  atUs : UInt64
  worldReset : Bool
  imu : I

/-- A cycle of the board, with its drivers as the cycle finds them. -/
structure BoardCycle (I B M : Type) where
  nowUs : UInt64
  dtUs : UInt32
  imu : I
  baro : B
  mag : M

section Machines

variable [Scalar F] [SensorDriver I (RawImuReading F)]

/-- A world reset forgets the last sample; the clock and the driver are as the cycle finds them. -/
def Sensing.enter (self : Sensing I B M G SitlTime A F) (input : SitlCycle I) :
    Sensing I B M G SitlTime A F where
  boardHal := { self.boardHal with imu := input.imu, time := SitlTime.mk input.atUs }
  lastImuTime := if input.worldReset then none else self.lastImuTime
  sensorCache := if input.worldReset then .new else self.sensorCache

/-- The part of `SitlRunner::step` that settles the time step. -/
def sitlCycles : Machine (Sensing I B M G SitlTime A F) (SitlCycle I) (Cycle F) where
  step self input :=
    let self := self.enter input
    let (time, next) := self.cycleDelta none
    (next,
      { atUs := input.atUs
        worldReset := input.worldReset
        nominalUs := 1000
        bearing := self.boardHal.readImu.1.isSome
        rawSec := microSeconds time.tickDelta.toNat
        dtSec := time.dtSec })

/-- The drivers are as the cycle finds them. -/
def Sensing.withDrivers (self : Sensing I B M G HwTimeSource A F) (input : BoardCycle I B M) :
    Sensing I B M G HwTimeSource A F :=
  { self with
    boardHal := { self.boardHal with imu := input.imu, baro := input.baro, mag := input.mag } }

/-- The part of `MicoAirBoard::board_step` that settles the time step. -/
def boardCycles [LibmPow F] [SensorDriver B (RawBaroReading F)] [SensorDriver M (RawMagReading F)] :
    Machine (Sensing I B M G HwTimeSource A F) (BoardCycle I B M) (Cycle F) where
  step self input :=
    let self := self.withDrivers input
    let (time, next) := self.boardTime input.dtUs
    (next,
      { atUs := input.nowUs
        worldReset := false
        nominalUs := input.dtUs.toNat
        bearing := self.boardHal.readImu.1.isSome
        rawSec := microSeconds ((self.gap.map UInt64.toNat).getD input.dtUs.toNat)
        dtSec := time.dtSec })

end Machines

end Aviate

end RuntimeCycleTime

section RuntimeElapsedTime

/-!
# Integrated and elapsed time

In exact arithmetic, for cycles with an IMU sample on any of them.

Results:
1. In the simulator the nominal periods of the cycles without a sample come on top of the time
   between two samples (`integrated_sitl`). On the board the clock that stamps the samples stands
   still, and every sample after the first integrates 100 microseconds (`integrated_board`).
2. `integratesElapsed_iff`: so what is integrated is the elapsed time exactly on the runs where
   the simulator skips no sample and the board's periods happen to make up for its clock.
   `integrated_time_departs` gives a run of each that does not.
-/

namespace Aviate

variable {I B M G T A : Type}

/-! ## The law -/

variable {K : Type} [Field K] [LinearOrder K]

namespace Cycle

variable {cycles mid : List (Cycle K)} {a b : Cycle K}

/-- The true time from one cycle to another. -/
def elapsed (a b : Cycle K) : K := ((b.atUs.toNat : K) - a.atUs.toNat) / 1000000

/-- The clamp has nothing to do for a gap of this length. -/
def Unclamped (dt : K) : Prop := 1 / 10000 ≤ dt ∧ dt ≤ 1 / 10

/-- The time handed to the kernel over some cycles. -/
def integrated (cycles : List (Cycle K)) : K := (cycles.map dtSec).sum

/-- The nominal time of some cycles. -/
def nominal (cycles : List (Cycle K)) : K := (cycles.map fun c => (c.nominalUs : K) / 1000000).sum

/-- The cycles between two with a sample. -/
def Segment (cycles : List (Cycle K)) (a : Cycle K) (mid : List (Cycle K)) (b : Cycle K) : Prop :=
  a.bearing = true ∧ b.bearing = true ∧
    ∃ front rest, cycles = front ++ a :: (mid ++ b :: rest)

/-- The two samples are successive. -/
def Successive (cycles : List (Cycle K)) (a : Cycle K) (mid : List (Cycle K)) (b : Cycle K) :
    Prop :=
  Segment cycles a mid b ∧ ∀ c ∈ mid, c.bearing = false

/-- The integrated time is the elapsed time. -/
structure IntegratesElapsed (cycles : List (Cycle K)) : Prop where
  /-- From one sample to the next, while the clamp changes no time step. -/
  successive : ∀ a mid b, Successive cycles a mid b → (∀ c ∈ mid ++ [b], c.dtSec = c.rawSec) →
    integrated (mid ++ [b]) = elapsed a b
  /-- Over a run of samples that are never too close nor too far apart for the clamp. -/
  run : ∀ a mid b, Segment cycles a mid b →
    (∀ x between y, Successive (a :: (mid ++ [b])) x between y → Unclamped (elapsed x y)) →
    integrated (mid ++ [b]) = elapsed a b

@[simp] theorem integrated_nil : integrated ([] : List (Cycle K)) = 0 := rfl

@[simp] theorem integrated_cons {c : Cycle K} :
    integrated (c :: cycles) = c.dtSec + integrated cycles := rfl

@[simp] theorem integrated_append {later : List (Cycle K)} :
    integrated (cycles ++ later) = integrated cycles + integrated later := by
  rw [integrated, List.map_append, List.sum_append]
  rfl

@[simp] theorem nominal_nil : nominal ([] : List (Cycle K)) = 0 := rfl

@[simp] theorem nominal_cons {c : Cycle K} :
    nominal (c :: cycles) = (c.nominalUs : K) / 1000000 + nominal cycles := rfl

@[simp] theorem nominal_append {later : List (Cycle K)} :
    nominal (cycles ++ later) = nominal cycles + nominal later := by
  rw [nominal, List.map_append, List.sum_append]
  rfl

/-- Periods of a thousand microseconds. -/
theorem nominal_of_nominalUs [IsStrictOrderedRing K] (h : ∀ c ∈ cycles, c.nominalUs = 1000) :
    nominal cycles = cycles.length / 1000 := by
  induction cycles with
  | nil => simp
  | cons c cycles ih =>
    rw [List.forall_mem_cons] at h
    rw [nominal_cons, h.1, ih h.2, List.length_cons]
    have hperiod : ((1000 : ℕ) : K) / 1000000 = 1 / 1000 := by norm_num
    rw [hperiod]
    push_cast
    ring

omit [Field K] [LinearOrder K] in
/-- Between two successive samples there is only that one pair. -/
theorem Successive.eq_of_successive (h : Successive cycles a mid b) {x y : Cycle K}
    {between : List (Cycle K)} (hxy : Successive (a :: (mid ++ [b])) x between y) :
    x = a ∧ y = b := by
  obtain ⟨⟨ha, hb, -⟩, hmid⟩ := h
  obtain ⟨⟨hx, hy, front, rest, hsplit⟩, hbetween⟩ := hxy
  have hnone : ∀ {l : List (Cycle K)}, (∀ c ∈ l, c.bearing = false) → l.filter bearing = [] := by
    intro l hl
    exact List.filter_eq_nil_iff.mpr fun c hc => by simp [hl c hc]
  have hsamples := congrArg (List.filter bearing) hsplit
  rw [List.filter_cons_of_pos ha, List.filter_append, hnone hmid, List.nil_append,
    List.filter_cons_of_pos hb, List.filter_nil, List.filter_append, List.filter_cons_of_pos hx,
    List.filter_append, hnone hbetween, List.nil_append, List.filter_cons_of_pos hy] at hsamples
  cases hfront : front.filter bearing with
  | nil =>
    rw [hfront, List.nil_append] at hsamples
    obtain ⟨hxa, hrest⟩ := List.cons.inj hsamples
    exact ⟨hxa.symm, (List.cons.inj hrest).1.symm⟩
  | cons c front' =>
    have hlength := congrArg List.length hsamples
    simp [hfront] at hlength
    omega

/-- What holds of every gap between successive samples holds over every run of them. -/
theorem integrated_segment
    (h : ∀ a mid b, Successive cycles a mid b → Unclamped (elapsed a b) →
      integrated (mid ++ [b]) = elapsed a b) (hseg : Segment cycles a mid b)
    (hpaced : ∀ x between y, Successive (a :: (mid ++ [b])) x between y →
      Unclamped (elapsed x y)) :
    integrated (mid ++ [b]) = elapsed a b := by
  induction hlength : mid.length using Nat.strongRecOn generalizing a mid with
  | _ n ih =>
  obtain ⟨ha, hb, front, rest, hcycles⟩ := hseg
  cases hfirst : mid.find? bearing with
  | none =>
    have hmid : ∀ c ∈ mid, c.bearing = false := by simpa using hfirst
    have hgap := hpaced a mid b ⟨⟨ha, hb, [], [], rfl⟩, hmid⟩
    exact h a mid b ⟨⟨ha, hb, front, rest, hcycles⟩, hmid⟩ hgap
  | some c =>
    obtain ⟨hc, before, after, rfl, hbefore⟩ := List.find?_eq_some_iff_append.mp hfirst
    have hbefore' : ∀ x ∈ before, x.bearing = false := by simpa using hbefore
    have hleft : integrated (before ++ [c]) = elapsed a c := by
      refine h a before c ⟨⟨ha, hc, front, after ++ b :: rest, ?_⟩, hbefore'⟩
        (hpaced a before c ⟨⟨ha, hc, [], after ++ [b], ?_⟩, hbefore'⟩)
      · simp [hcycles]
      · simp
    have hright : integrated (after ++ [b]) = elapsed c b := by
      refine ih after.length ?_ ⟨hc, hb, front ++ a :: before, rest, ?_⟩ ?_ rfl
      · rw [← hlength]
        simp
        omega
      · simp [hcycles]
      · rintro x between y ⟨⟨hx, hy, front', rest', hsplit⟩, hbetween⟩
        refine hpaced x between y ⟨⟨hx, hy, a :: before ++ front', rest', ?_⟩, hbetween⟩
        simp only [List.append_assoc, List.cons_append] at hsplit ⊢
        rw [hsplit]
    calc integrated (before ++ c :: after ++ [b])
        = integrated (before ++ [c]) + integrated (after ++ [b]) := by simp; ring
      _ = elapsed a b := by rw [hleft, hright, elapsed, elapsed, elapsed]; ring

/-- A run of two successive samples is paced as its only gap is. -/
theorem Successive.paced (h : Successive cycles a mid b) (hgap : Unclamped (elapsed a b)) :
    ∀ x between y, Successive (a :: (mid ++ [b])) x between y → Unclamped (elapsed x y) := by
  intro x between y hxy
  obtain ⟨rfl, rfl⟩ := h.eq_of_successive hxy
  exact hgap

end Cycle

open Aviate.Cycle

section Clamp

variable [IsStrictOrderedRing K] {dt : K}

theorem clampDt_eq_iff : clampDt dt = dt ↔ Unclamped dt := by
  have hbounds : ((1 / 10000 : ℚ) : K) ≤ ((1 / 10 : ℚ) : K) := by norm_num
  unfold clampDt Unclamped
  rw [lit_field, lit_field, clamp_field hbounds]
  push_cast
  constructor
  · intro h
    rw [← h]
    exact ⟨le_max_left _ _, max_le (by norm_num) (min_le_right _ _)⟩
  · rintro ⟨hlow, hhigh⟩
    rw [min_eq_left hhigh, max_eq_right hlow]

theorem microSeconds_eq (deltaUs : Nat) : (microSeconds deltaUs : K) = deltaUs / 1000000 := by
  unfold microSeconds
  rw [lit_field, lit_field]
  push_cast
  ring

/-- A difference that is not cut at zero is the elapsed time. -/
theorem microSeconds_elapsed {a b : Cycle K} (h : a.atUs.toNat ≤ b.atUs.toNat) :
    (microSeconds (b.atUs.saturatingSub a.atUs).toNat : K) = elapsed a b := by
  rw [microSeconds_eq, UInt64.toNat_saturatingSub, Nat.cast_sub h, elapsed]

theorem elapsed_neg {a b : Cycle K} (h : b.atUs.toNat < a.atUs.toNat) : elapsed a b < 0 :=
  div_neg_of_neg_of_pos (sub_neg.mpr (Nat.cast_lt.mpr h)) (by norm_num)

theorem not_unclamped_of_nonpos (h : dt ≤ 0) : ¬ Unclamped dt := by
  rintro ⟨hlow, -⟩
  linarith [show (0 : K) < 1 / 10000 by norm_num]

/-- The clamp leaves the difference of two times alone exactly when it leaves the elapsed time
alone. -/
theorem unclamped_iff {a b : Cycle K} :
    Unclamped (microSeconds (b.atUs.saturatingSub a.atUs).toNat : K) ↔
      Unclamped (elapsed a b) := by
  rcases le_or_gt a.atUs.toNat b.atUs.toNat with hle | hgt
  · rw [microSeconds_elapsed hle]
  · have hzero : (microSeconds (b.atUs.saturatingSub a.atUs).toNat : K) = 0 := by
      rw [microSeconds_eq, UInt64.toNat_saturatingSub, Nat.sub_eq_zero_of_le hgt.le]
      simp
    exact iff_of_false (not_unclamped_of_nonpos hzero.le)
      (not_unclamped_of_nonpos (elapsed_neg hgt).le)

theorem microSeconds_of_unclamped {a b : Cycle K} (h : Unclamped (elapsed a b)) :
    (microSeconds (b.atUs.saturatingSub a.atUs).toNat : K) = elapsed a b :=
  microSeconds_elapsed
    (le_of_not_gt fun hgt => not_unclamped_of_nonpos (elapsed_neg hgt).le h)

theorem clampDt_thousand : clampDt (microSeconds 1000 : K) = 1 / 1000 := by
  have heq : (microSeconds 1000 : K) = 1 / 1000 := by
    rw [microSeconds_eq]
    norm_num
  rw [heq, clampDt_eq_iff]
  constructor <;> norm_num

end Clamp

/-! ## The simulator -/

section Sitl

variable [SensorDriver I (RawImuReading K)] {s : Sensing I B M G SitlTime A K} {i : SitlCycle I}
  {ops : List (SitlCycle I)} {a b : Cycle K} {mid : List (Cycle K)}

theorem sitl_worldReset : (sitlCycles.step s i).2.worldReset = i.worldReset := rfl

theorem sitl_rawSec : (sitlCycles.step s i).2.rawSec =
    microSeconds (((s.enter i).gap (F := K)).getD 1000).toNat := by
  obtain ⟨hdelta, -⟩ := (s.enter i).cycleDelta_eq none
  show microSeconds ((s.enter i).cycleDelta none).1.tickDelta.toNat = _
  rw [hdelta, Option.getD_none]

variable [IsStrictOrderedRing K]

/-- A cycle without a sample integrates its nominal period, and leaves the last sample. -/
theorem sitl_skipped (h : (sitlCycles.step s i).2.bearing = false) :
    (sitlCycles.step s i).2.dtSec = 1 / 1000 ∧
      (sitlCycles.step s i).2.rawSec = 1 / 1000 ∧
      (sitlCycles.step s i).1.lastImuTime = if i.worldReset then none else s.lastImuTime := by
  have hbearing : ((s.enter i).boardHal.readImu (F := K)).1.isSome = false := h
  have hgap : (s.enter i).gap = none := by
    rw [Sensing.gap, hbearing]
    rfl
  have hraw : (sitlCycles.step s i).2.rawSec = microSeconds 1000 := by
    rw [sitl_rawSec, hgap]
    rfl
  have hdt : (sitlCycles.step s i).2.dtSec = clampDt (sitlCycles.step s i).2.rawSec := rfl
  refine ⟨?_, ?_, ?_⟩
  · rw [hdt, hraw, clampDt_thousand]
  · rw [hraw, microSeconds_eq]
    norm_num
  · refine ((s.enter i).cycleDelta_eq none).2.trans ?_
    rw [Sensing.sampleTime, hbearing]
    rfl

omit [IsStrictOrderedRing K] in
/-- A cycle with a sample integrates the gap to the last one, if there is one. -/
theorem sitl_sample (h : (sitlCycles.step s i).2.bearing = true) :
    (sitlCycles.step s i).2.rawSec = microSeconds
        (((if i.worldReset then none else s.lastImuTime).map fun last =>
          i.atUs.saturatingSub last).getD 1000).toNat ∧
      (sitlCycles.step s i).1.lastImuTime = some i.atUs := by
  have hbearing : ((s.enter i).boardHal.readImu (F := K)).1.isSome = true := h
  constructor
  · rw [sitl_rawSec, Sensing.gap, hbearing]
    rfl
  · refine ((s.enter i).cycleDelta_eq none).2.trans ?_
    rw [Sensing.sampleTime, hbearing]
    rfl

/-- Cycles without a sample integrate their nominal periods. -/
theorem sitl_between (h : ∀ c ∈ sitlCycles.outputs s ops, c.bearing = false) :
    integrated (sitlCycles.outputs s ops) = nominal (sitlCycles.outputs s ops) ∧
      (∀ c ∈ sitlCycles.outputs s ops, c.dtSec = c.rawSec ∧ c.nominalUs = 1000) ∧
      (sitlCycles.run s ops).lastImuTime =
        if (sitlCycles.outputs s ops).any worldReset then none else s.lastImuTime := by
  induction ops generalizing s with
  | nil => exact ⟨rfl, nofun, rfl⟩
  | cons i ops ih =>
    rw [Machine.outputs_cons, List.forall_mem_cons] at h
    obtain ⟨hdt, hraw, hlast⟩ := sitl_skipped h.1
    obtain ⟨hsum, hall, hrun⟩ := ih h.2
    have hnominal : (sitlCycles.step s i).2.nominalUs = 1000 := rfl
    rw [Machine.outputs_cons, Machine.run_cons, integrated_cons, nominal_cons, hsum, hdt, hnominal]
    refine ⟨by norm_num, ?_, ?_⟩
    · rw [List.forall_mem_cons]
      exact ⟨⟨hdt.trans hraw.symm, rfl⟩, hall⟩
    · rw [hrun, hlast, List.any_cons, sitl_worldReset]
      cases i.worldReset <;> simp

/-- The cycles between two successive samples of the simulator, and the second sample. -/
theorem sitl_successive (h : Successive (sitlCycles.outputs s ops) a mid b) :
    integrated mid = nominal mid ∧ (∀ c ∈ mid, c.dtSec = c.rawSec ∧ c.nominalUs = 1000) ∧
      b.nominalUs = 1000 ∧ b.dtSec = clampDt b.rawSec ∧
      b.rawSec = microSeconds
        (if (mid ++ [b]).any worldReset then 1000 else (b.atUs.saturatingSub a.atUs).toNat) := by
  obtain ⟨⟨ha, hb, front, rest, houtputs⟩, hmid⟩ := h
  obtain ⟨ops₀, ops₁, -, -, hfirst⟩ := Machine.outputs_eq_append houtputs
  obtain ⟨i, ops₂, -, rfl, hafter⟩ := Machine.outputs_eq_cons hfirst
  obtain ⟨ops₃, ops₄, -, rfl, hsecond⟩ := Machine.outputs_eq_append hafter
  obtain ⟨j, ops₅, -, rfl, -⟩ := Machine.outputs_eq_cons hsecond
  obtain ⟨hsum, hall, hlast⟩ := sitl_between hmid
  obtain ⟨-, hsample⟩ := sitl_sample ha
  obtain ⟨hraw, -⟩ := sitl_sample hb
  refine ⟨hsum, hall, rfl, rfl, ?_⟩
  rw [hraw, hlast, hsample, List.any_append, List.any_cons, List.any_nil, Bool.or_false,
    sitl_worldReset]
  generalize (sitlCycles.outputs (sitlCycles.step _ i).1 ops₃).any worldReset = between
  cases between with
  | true => cases j.worldReset <;> rfl
  | false => cases j.worldReset <;> rfl

/-- Without a world reset the nominal periods between two samples come on top of the elapsed
time, if the clamp leaves that alone. -/
theorem integrated_sitl (h : Successive (sitlCycles.outputs s ops) a mid b)
    (hworld : ¬ (mid ++ [b]).any worldReset) :
    ((∀ c ∈ mid ++ [b], c.dtSec = c.rawSec) ↔ Unclamped (elapsed a b)) ∧
      (Unclamped (elapsed a b) → integrated (mid ++ [b]) = mid.length / 1000 + elapsed a b) := by
  obtain ⟨hsum, hmid, -, hdt, hraw⟩ := sitl_successive h
  rw [if_neg hworld] at hraw
  constructor
  · constructor
    · intro hall
      have hb := hall b (by simp)
      rw [hdt, hraw, clampDt_eq_iff] at hb
      exact unclamped_iff.mp hb
    · intro hgap
      have hb : b.dtSec = b.rawSec := by rw [hdt, hraw, clampDt_eq_iff.mpr (unclamped_iff.mpr hgap)]
      intro c hc
      rcases List.mem_append.mp hc with hc | hc
      · exact (hmid c hc).1
      · rwa [List.mem_singleton.mp hc]
  · intro hgap
    rw [integrated_append, hsum, nominal_of_nominalUs fun c hc => (hmid c hc).2, integrated_cons,
      integrated_nil, add_zero, hdt, hraw, clampDt_eq_iff.mpr (unclamped_iff.mpr hgap),
      microSeconds_of_unclamped hgap]

/-- After a world reset only nominal periods are integrated. -/
theorem integrated_worldReset (h : Successive (sitlCycles.outputs s ops) a mid b)
    (hworld : (mid ++ [b]).any worldReset) :
    (∀ c ∈ mid ++ [b], c.dtSec = c.rawSec) ∧
      integrated (mid ++ [b]) = nominal (mid ++ [b]) := by
  obtain ⟨hsum, hmid, hnominal, hdt, hraw⟩ := sitl_successive h
  rw [if_pos hworld] at hraw
  have hthousand : (microSeconds 1000 : K) = 1 / 1000 := by
    rw [microSeconds_eq]
    norm_num
  constructor
  · intro c hc
    rcases List.mem_append.mp hc with hc | hc
    · exact (hmid c hc).1
    · rw [List.mem_singleton.mp hc, hdt, hraw, clampDt_thousand, hthousand]
  · rw [integrated_append, nominal_append, hsum, integrated_cons, nominal_cons, hdt, hraw,
      clampDt_thousand, hnominal]
    norm_num

/-- No cycle without a sample lies in a gap that the clamp leaves alone. In a gap with a world
reset the nominal periods happen to be the elapsed time. -/
def SitlInStep (cycles : List (Cycle K)) : Prop :=
  ∀ a mid b, Successive cycles a mid b →
    if (mid ++ [b]).any worldReset then elapsed a b = nominal (mid ++ [b])
    else Unclamped (elapsed a b) → mid = []

/-- The simulator's runner integrates the elapsed time exactly while it is in step. -/
theorem sitl_integratesElapsed_iff (s : Sensing I B M G SitlTime A K) (ops : List (SitlCycle I)) :
    IntegratesElapsed (sitlCycles.outputs s ops) ↔ SitlInStep (sitlCycles.outputs s ops) := by
  constructor
  · intro hlaw a mid b hgap
    split
    · next hworld =>
      obtain ⟨hall, hsum⟩ := integrated_worldReset hgap hworld
      rw [← hlaw.successive a mid b hgap hall, hsum]
    · next hworld =>
      intro hunclamped
      obtain ⟨hall, hsum⟩ := integrated_sitl hgap hworld
      have helapsed := hlaw.successive a mid b hgap (hall.mpr hunclamped)
      rw [hsum hunclamped, add_eq_right, div_eq_zero_iff] at helapsed
      have hlength : (mid.length : K) = 0 := helapsed.resolve_right (by norm_num)
      exact List.length_eq_zero_iff.mp (Nat.cast_eq_zero.mp hlength)
  · intro hstep
    have hgaps : ∀ a mid b, Successive (sitlCycles.outputs s ops) a mid b →
        Unclamped (elapsed a b) ∨ (∀ c ∈ mid ++ [b], c.dtSec = c.rawSec) →
          integrated (mid ++ [b]) = elapsed a b := by
      intro a mid b hgap hclamp
      have hhere := hstep a mid b hgap
      split at hhere
      · next hworld => rw [hhere, (integrated_worldReset hgap hworld).2]
      · next hworld =>
        obtain ⟨hall, hsum⟩ := integrated_sitl hgap hworld
        have hunclamped : Unclamped (elapsed a b) := hclamp.elim id hall.mp
        rw [hsum hunclamped, hhere hunclamped]
        simp
    exact
      { successive := fun a mid b hgap hall => hgaps a mid b hgap (.inr hall)
        run := fun a mid b hseg hpaced => integrated_segment
          (fun a mid b hgap hunclamped => hgaps a mid b hgap (.inl hunclamped)) hseg hpaced }

end Sitl

/-! ## The board -/

section Board

variable [IsStrictOrderedRing K] [LibmPow K] [SensorDriver I (RawImuReading K)]
  [SensorDriver B (RawBaroReading K)] [SensorDriver M (RawMagReading K)]
  {s : Sensing I B M G HwTimeSource A K}
  {i : BoardCycle I B M} {ops : List (BoardCycle I B M)} {a b : Cycle K} {mid : List (Cycle K)}

omit [IsStrictOrderedRing K] in
/-- The clock that stamps the samples stands still. -/
theorem time_board_step : (boardCycles.step s i).1.boardHal.time = s.boardHal.time :=
  ((s.withDrivers i).boardTime_eq i.dtUs).2.2

theorem board_skipped (h : (boardCycles.step s i).2.bearing = false) :
    (boardCycles.step s i).2.dtSec = i.dtUs.toNat / 1000000 ∧
      (boardCycles.step s i).1.lastImuTime = s.lastImuTime := by
  have hbearing : ((s.withDrivers i).boardHal.readImu (F := K)).1.isSome = false := h
  obtain ⟨hdt, hlast, -⟩ := (s.withDrivers i).boardTime_eq i.dtUs
  constructor
  · refine hdt.trans ?_
    rw [Sensing.gap, hbearing]
    exact microSeconds_eq _
  · refine hlast.trans ?_
    rw [Sensing.sampleTime, hbearing]
    rfl

theorem board_sample (h : (boardCycles.step s i).2.bearing = true) :
    (s.lastImuTime = some s.boardHal.time.timeUs →
      (boardCycles.step s i).2.dtSec = clampDt 0 ∧ (boardCycles.step s i).2.rawSec = 0) ∧
      (boardCycles.step s i).1.lastImuTime = some s.boardHal.time.timeUs := by
  have hbearing : ((s.withDrivers i).boardHal.readImu (F := K)).1.isSome = true := h
  obtain ⟨hdt, hlast, -⟩ := (s.withDrivers i).boardTime_eq i.dtUs
  constructor
  · intro hsame
    have hgap : (s.withDrivers i).gap = some 0 := by
      rw [Sensing.gap, hbearing]
      show (s.lastImuTime.map fun last => s.boardHal.time.timeUs.saturatingSub last) = some 0
      rw [hsame, Option.map_some, UInt64.saturatingSub, if_pos (UInt64.le_refl _), UInt64.sub_self]
    have hzero : (microSeconds 0 : K) = 0 := by
      rw [microSeconds_eq]
      simp
    constructor
    · refine hdt.trans ?_
      rw [hgap]
      exact congrArg clampDt hzero
    · show microSeconds (((s.withDrivers i).gap.map UInt64.toNat).getD i.dtUs.toNat) = 0
      rw [hgap]
      exact hzero
  · refine hlast.trans ?_
    rw [Sensing.sampleTime, hbearing]
    rfl

theorem board_between (h : ∀ c ∈ boardCycles.outputs s ops, c.bearing = false) :
    integrated (boardCycles.outputs s ops) = nominal (boardCycles.outputs s ops) ∧
      (boardCycles.run s ops).lastImuTime = s.lastImuTime ∧
        (boardCycles.run s ops).boardHal.time = s.boardHal.time := by
  induction ops generalizing s with
  | nil => exact ⟨rfl, rfl, rfl⟩
  | cons i ops ih =>
    rw [Machine.outputs_cons, List.forall_mem_cons] at h
    obtain ⟨hdt, hlast⟩ := board_skipped h.1
    obtain ⟨hsum, hrun, htime⟩ := ih h.2
    have hnominal : (boardCycles.step s i).2.nominalUs = i.dtUs.toNat := rfl
    rw [Machine.outputs_cons, Machine.run_cons, integrated_cons, nominal_cons, hsum, hdt, hnominal]
    exact ⟨rfl, hrun.trans hlast, htime.trans time_board_step⟩

/-- The second of two samples integrates the shortest step the clamp leaves, however long ago the
first one was. -/
theorem integrated_board (h : Successive (boardCycles.outputs s ops) a mid b) :
    b.rawSec = 0 ∧ b.dtSec = 1 / 10000 ∧
      integrated (mid ++ [b]) = nominal mid + 1 / 10000 := by
  obtain ⟨⟨ha, hb, front, rest, houtputs⟩, hmid⟩ := h
  obtain ⟨ops₀, ops₁, -, -, hfirst⟩ := Machine.outputs_eq_append houtputs
  obtain ⟨i, ops₂, -, rfl, hafter⟩ := Machine.outputs_eq_cons hfirst
  obtain ⟨ops₃, ops₄, -, rfl, hsecond⟩ := Machine.outputs_eq_append hafter
  obtain ⟨j, ops₅, -, rfl, -⟩ := Machine.outputs_eq_cons hsecond
  obtain ⟨hsum, hlast, htime⟩ := board_between hmid
  obtain ⟨-, hsample⟩ := board_sample ha
  obtain ⟨hdt, hraw⟩ := (board_sample hb).1 (by rw [hlast, hsample, htime, time_board_step])
  have hclamp : clampDt (0 : K) = 1 / 10000 := by
    unfold clampDt
    rw [lit_field, lit_field, clamp_field (by norm_num)]
    norm_num
  refine ⟨hraw, hdt.trans hclamp, ?_⟩
  rw [integrated_append, hsum, integrated_cons, integrated_nil, hdt, hclamp, add_zero]

/-- The nominal periods in a gap and the hundred microseconds of its second sample happen to be
the elapsed time. -/
def BoardInStep (cycles : List (Cycle K)) : Prop :=
  ∀ a mid b, Successive cycles a mid b → Unclamped (elapsed a b) →
    elapsed a b = nominal mid + 1 / 10000

/-- The board integrates the elapsed time exactly while its periods make up for its clock. -/
theorem board_integratesElapsed_iff (s : Sensing I B M G HwTimeSource A K)
    (ops : List (BoardCycle I B M)) :
    IntegratesElapsed (boardCycles.outputs s ops) ↔ BoardInStep (boardCycles.outputs s ops) := by
  constructor
  · intro hlaw a mid b hgap hunclamped
    rw [← hlaw.run a mid b hgap.1 (hgap.paced hunclamped), (integrated_board hgap).2.2]
  · intro hstep
    constructor
    · intro a mid b hgap hall
      obtain ⟨hraw, hdt, -⟩ := integrated_board hgap
      have hb := hall b (by simp)
      rw [hraw, hdt] at hb
      norm_num at hb
    · intro a mid b hseg hpaced
      refine integrated_segment (fun a mid b hgap hunclamped => ?_) hseg hpaced
      rw [(integrated_board hgap).2.2, hstep a mid b hgap hunclamped]

end Board

/-! ## Both runners -/

/-- Whatever cycles have a sample, the time integrated on a run is the elapsed time exactly while
the run is in step. -/
theorem integratesElapsed_iff [IsStrictOrderedRing K] [LibmPow K]
    {I' B' M' G' A' : Type} [SensorDriver I (RawImuReading K)] [SensorDriver I' (RawImuReading K)]
    [SensorDriver B' (RawBaroReading K)] [SensorDriver M' (RawMagReading K)]
    (sitl : Sensing I B M G SitlTime A K) (steps : List (SitlCycle I))
    (board : Sensing I' B' M' G' HwTimeSource A' K) (boardSteps : List (BoardCycle I' B' M')) :
    (IntegratesElapsed (sitlCycles.outputs sitl steps) ↔
        SitlInStep (sitlCycles.outputs sitl steps)) ∧
      (IntegratesElapsed (boardCycles.outputs board boardSteps) ↔
        BoardInStep (boardCycles.outputs board boardSteps)) :=
  ⟨sitl_integratesElapsed_iff sitl steps, board_integratesElapsed_iff board boardSteps⟩

/-! ## Runs out of step -/

/-- A driver with one sample or none. -/
structure OneSample (Raw : Type) where
  reading : Option Raw

instance {Raw : Type} : SensorDriver (OneSample Raw) Raw where
  read driver := (driver.reading.elim (.error .invalidState) .ok, ⟨none⟩)
  dataReady driver := (.ok driver.reading.isSome, driver)
  sourceId _ := 0

/-- No pressure is read on the runs below. -/
instance : LibmPow ℚ := ⟨fun x _ => x⟩

def noBaro : OneSample (RawBaroReading ℚ) := ⟨none⟩

def noMag : OneSample (RawMagReading ℚ) := ⟨none⟩

/-- The IMU, with a sample or without. -/
def imuWith (ready : Bool) : OneSample (RawImuReading ℚ) :=
  ⟨if ready then some ⟨zeros, zeros, none⟩ else none⟩

/-- A runner that has read nothing. -/
def freshSensing {T : Type} (time : T) :
    Sensing (OneSample (RawImuReading ℚ)) (OneSample (RawBaroReading ℚ))
      (OneSample (RawMagReading ℚ)) Unit T Unit ℚ :=
  ⟨⟨imuWith false, noBaro, noMag, (), time, ()⟩, none, .new⟩

/-- A sample every other millisecond. -/
def skippedSample : List (SitlCycle (OneSample (RawImuReading ℚ))) :=
  [⟨0, false, imuWith true⟩, ⟨1000, false, imuWith false⟩, ⟨2000, false, imuWith true⟩]

/-- A sample every millisecond. -/
def everySample : List (BoardCycle (OneSample (RawImuReading ℚ)) (OneSample (RawBaroReading ℚ))
    (OneSample (RawMagReading ℚ))) :=
  [⟨0, 1000, imuWith true, noBaro, noMag⟩, ⟨1000, 1000, imuWith true, noBaro, noMag⟩]

theorem integratesElapsed_iff_fresh :
    (IntegratesElapsed (sitlCycles.outputs (freshSensing ⟨0⟩) skippedSample) ↔
        SitlInStep (sitlCycles.outputs (freshSensing ⟨0⟩) skippedSample)) ∧
      (IntegratesElapsed (boardCycles.outputs (freshSensing .new) everySample) ↔
        BoardInStep (boardCycles.outputs (freshSensing .new) everySample)) :=
  integratesElapsed_iff (freshSensing ⟨0⟩) skippedSample (freshSensing .new) everySample

/-- The cycles of the two runs. -/
def sampleAt (atUs : UInt64) (rawSec dtSec : ℚ) : Cycle ℚ :=
  ⟨atUs, false, 1000, true, rawSec, dtSec⟩

theorem outputs_skippedSample : sitlCycles.outputs (freshSensing ⟨0⟩) skippedSample =
    [sampleAt 0 (1 / 1000) (1 / 1000), ⟨1000, false, 1000, false, 1 / 1000, 1 / 1000⟩,
      sampleAt 2000 (1 / 500) (1 / 500)] := by decide +kernel

theorem outputs_everySample : boardCycles.outputs (freshSensing .new) everySample =
    [sampleAt 0 (1 / 1000) (1 / 1000), sampleAt 1000 0 (1 / 10000)] := by decide +kernel

/-- The simulator integrates three milliseconds over two, and the board a tenth of a millisecond
over one. -/
theorem integrated_time_departs :
    ¬ IntegratesElapsed (sitlCycles.outputs (freshSensing ⟨0⟩) skippedSample) ∧
      ¬ IntegratesElapsed (boardCycles.outputs (freshSensing .new) everySample) := by
  rw [outputs_skippedSample, outputs_everySample]
  constructor
  · intro hlaw
    have hsum := hlaw.successive _ [_] _ ⟨⟨rfl, rfl, [], [], rfl⟩, by simp⟩ (by simp [sampleAt])
    revert hsum
    decide +kernel
  · intro hlaw
    have hgap : Successive [sampleAt 0 (1 / 1000) (1 / 1000), sampleAt 1000 0 (1 / 10000)]
        (sampleAt 0 (1 / 1000) (1 / 1000)) [] (sampleAt 1000 0 (1 / 10000)) :=
      ⟨⟨rfl, rfl, [], [], rfl⟩, by simp⟩
    have hsum := hlaw.run _ [] _ hgap.1
      (hgap.paced ⟨by decide +kernel, by decide +kernel⟩)
    revert hsum
    decide +kernel

end Aviate

end RuntimeElapsedTime

section ShmModelState

/-!
# The shared model state

One simulation writer publishes snapshots in a block of the shared memory, and one reader takes
them. Each atomic access is one step, and the steps of the two interleave freely. Floats are
their bit patterns. The first access of `read_model_state` is its look at `plugin_ready`, its
last one the look at the header's generation.
-/

namespace Aviate.Shm

/-- The atomic cells of the block's payload. -/
inductive Lane where
  | valid
  | resetGeneration
  | simStep
  | timeUs
  | pos (i : Fin 3)
  | quat (i : Fin 4)
  | vel (i : Fin 3)
  | angVel (i : Fin 3)
deriving DecidableEq

abbrev Lane.Word : Lane → Type
  | .valid | .resetGeneration => UInt32
  | _ => UInt64

abbrev Payload : Type := ∀ l : Lane, l.Word

/-- A cell with the value to store in it. -/
abbrev LaneStore : Type := Sigma Lane.Word

def Payload.zero : Payload
  | .valid | .resetGeneration => (0 : UInt32)
  | .simStep | .timeUs | .pos _ | .quat _ | .vel _ | .angVel _ => (0 : UInt64)

structure ModelStateSnapshot where
  resetGeneration : UInt32
  simStep : UInt64
  timeUs : UInt64
  pos : Vector UInt64 3
  quat : Vector UInt64 4
  vel : Vector UInt64 3
  angVel : Vector UInt64 3
deriving DecidableEq

/-- The snapshot in a payload. -/
def Payload.snapshot (p : Payload) : ModelStateSnapshot where
  resetGeneration := p .resetGeneration
  simStep := p .simStep
  timeUs := p .timeUs
  pos := Vector.ofFn fun i => p (.pos i)
  quat := Vector.ofFn fun i => p (.quat i)
  vel := Vector.ofFn fun i => p (.vel i)
  angVel := Vector.ofFn fun i => p (.angVel i)

/-- The order in which `read_model_state` loads the cells. -/
def loadOrder : List Lane :=
  [Lane.valid, .resetGeneration, .simStep, .timeUs] ++ List.ofFn Lane.pos ++ List.ofFn Lane.quat ++
    List.ofFn Lane.vel ++ List.ofFn Lane.angVel

/-- The stores of `write_model_state`, in order. -/
def writeStores (s : ModelStateSnapshot) : List LaneStore :=
  [⟨.resetGeneration, s.resetGeneration⟩, ⟨.simStep, s.simStep⟩, ⟨.timeUs, s.timeUs⟩] ++
    List.ofFn (fun i => ⟨.pos i, s.pos[i]⟩) ++ List.ofFn (fun i => ⟨.quat i, s.quat[i]⟩) ++
    List.ofFn (fun i => ⟨.vel i, s.vel[i]⟩) ++ List.ofFn (fun i => ⟨.angVel i, s.angVel[i]⟩) ++
    [⟨.valid, (1 : UInt32)⟩]

/-- The stores of `invalidate_model_state`, in order. -/
def invalidateStores (generation : UInt32) : List LaneStore :=
  [⟨.valid, (0 : UInt32)⟩, ⟨.resetGeneration, generation⟩]

/-! ## The two parties -/

inductive Call where
  | writeModelState (s : ModelStateSnapshot)
  | bumpResetGeneration
  | invalidateModelState (generation : UInt32)
deriving DecidableEq

/-- What the writer does next. -/
inductive WriterStep where
  | idle
  | bump
  | enter (stores : List LaneStore)
  | writing (stores : List LaneStore)
  | dropped

/-- The first step of a call. -/
def Call.begin : Call → WriterStep
  | .writeModelState s => .enter (writeStores s)
  | .bumpResetGeneration => .bump
  | .invalidateModelState generation => .enter (invalidateStores generation)

/-- What the reader does next, or the result of its last call. -/
inductive ReaderStep where
  | idle
  | loadReady
  | loadSeq (attempt : Nat)
  | copy (attempt : Nat) (window : Seqlock.Window Lane Lane.Word)
  | checkEpoch (snapshot : ModelStateSnapshot)
  | returned (result : Option ModelStateSnapshot)

/-- The shared words and the two parties. Which calls the writer has begun, and how many of
them have returned, is the history of the run; no step looks at it. -/
structure StateWorld where
  resetGeneration : UInt32
  pluginReady : UInt32
  state : Seqlock.Block Lane Lane.Word
  writer : WriterStep
  reader : ReaderStep
  calls : List Call
  returned : Nat

namespace StateWorld

/-- A block as `create` publishes it. -/
def created : StateWorld where
  resetGeneration := 1
  pluginReady := 1
  state := ⟨0, Payload.zero, 0, false⟩
  writer := .idle
  reader := .idle
  calls := []
  returned := 0

/-! ## The writer -/

/-- The writer's next atomic access. A bump retires the snapshot in the same act. -/
def writerStep (s : StateWorld) : WriterStep → Option StateWorld
  | .idle => none
  | .bump =>
    some { s with
      resetGeneration := s.resetGeneration + 1
      writer := .enter (invalidateStores (s.resetGeneration + 1)) }
  | .enter stores => some { s with state := s.state.enter, writer := .writing stores }
  | .writing (⟨l, v⟩ :: stores) =>
    some { s with state := s.state.store l v, writer := .writing stores }
  | .writing [] =>
    some { s with state := s.state.leave, writer := .idle, returned := s.returned + 1 }
  | .dropped => none

/-! ## The reader -/

/-- `SEQLOCK_MAX_RETRIES`. -/
def seqlockMaxRetries : Nat := 16

/-- After a failed attempt: the next one, while the budget lasts. -/
def retry (attempt : Nat) : ReaderStep :=
  if attempt + 1 < seqlockMaxRetries then .loadSeq (attempt + 1) else .returned none

/-- What an accepted copy makes of itself: only a valid one goes on to the epoch check. -/
def accept (p : Payload) : ReaderStep :=
  if p .valid = 0 then .returned none else .checkEpoch (Payload.snapshot p)

/-- The reader's next atomic access: `read_model_state` over `seqlock_read`. -/
def readerStep (s : StateWorld) : ReaderStep → Option ReaderStep
  | .idle => none
  | .loadReady => some (if s.pluginReady = 0 then .returned none else .loadSeq 0)
  | .loadSeq attempt =>
    some (if s.state.word &&& 1 ≠ 0 then retry attempt
      else .copy attempt ⟨s.state.word, loadOrder, Payload.zero⟩)
  | .copy attempt window =>
    match window.todo with
    | l :: rest => some (.copy attempt (window.load l rest (s.state.cells l)))
    | [] =>
      -- The second look at the sequence word decides whether the copy is whole.
      some (if window.word = s.state.word then accept window.got else retry attempt)
  | .checkEpoch snapshot =>
    some (.returned (if snapshot.resetGeneration ≠ s.resetGeneration then none else some snapshot))
  | .returned _ => none

/-! ## Steps -/

inductive Move where
  | call (c : Call)
  | writer
  | drop
  | read
  | reader
deriving DecidableEq

/-- The writer begins a call or makes the next access of one, or drops its session; the reader
likewise. -/
def step (s : StateWorld) : Move → Option StateWorld
  | .call c =>
    match s.writer with
    | .idle => some { s with writer := c.begin, calls := s.calls ++ [c] }
    | _ => none
  | .writer => s.writerStep s.writer
  | .drop =>
    match s.writer with
    | .idle => some { s with pluginReady := 0, writer := .dropped }
    | _ => none
  | .read =>
    match s.reader with
    | .idle | .returned _ => some { s with reader := .loadReady }
    | _ => none
  | .reader => (s.readerStep s.reader).map fun reader => { s with reader }

/-- The steps of one writer and one reader in any order. -/
def protocol : TransitionSystem StateWorld Move where
  step s a s' := s.step a = some s'

end StateWorld

end Aviate.Shm

end ShmModelState

section ShmSnapshotSafety

/-!
# What a snapshot of the model state is worth

Results:
1. A returned snapshot is what one returned call of `write_model_state` published, a call that
   began after every bump that had returned when the read began (`snapshot_origin`).
2. The generation a bump retired does not come back before the count of bumps wraps
   (`Sound.generation_retired`).
3. A returned snapshot carries the header's generation at the reader's last access, and not one
   that had been retired when the read began (`snapshot_safe`).
-/

namespace Aviate.Shm

open TransitionSystem

/-! ## Payloads -/

/-- Every cell is loaded. -/
theorem mem_loadOrder (l : Lane) : l ∈ loadOrder := by
  cases l with
  | pos i | quat i | vel i | angVel i => fin_cases i <;> simp [loadOrder]
  | valid | resetGeneration | simStep | timeUs => simp [loadOrder]

theorem writeStores_nodup (s : ModelStateSnapshot) : ((writeStores s).map Sigma.fst).Nodup := by
  have hlanes : (writeStores s).map Sigma.fst =
      [Lane.resetGeneration, .simStep, .timeUs] ++ List.ofFn Lane.pos ++ List.ofFn Lane.quat ++
        List.ofFn Lane.vel ++ List.ofFn Lane.angVel ++ [Lane.valid] := by
    simp [writeStores]
  rw [hlanes]
  decide

/-- A whole `write_model_state` leaves its snapshot, whatever the block held. -/
theorem snapshot_writeStores (s : ModelStateSnapshot) (p : Payload) :
    Payload.snapshot (Seqlock.storeAll (writeStores s) p) = s := by
  have hlane {l : Lane} {v : l.Word} (h : (⟨l, v⟩ : LaneStore) ∈ writeStores s) :
      Seqlock.storeAll (writeStores s) p l = v :=
    Seqlock.storeAll_eq (writeStores_nodup s) h
  have hpos (i : Fin 3) : Seqlock.storeAll (writeStores s) p (.pos i) = s.pos[i] :=
    hlane (by fin_cases i <;> simp [writeStores])
  have hquat (i : Fin 4) : Seqlock.storeAll (writeStores s) p (.quat i) = s.quat[i] :=
    hlane (by fin_cases i <;> simp [writeStores])
  have hvel (i : Fin 3) : Seqlock.storeAll (writeStores s) p (.vel i) = s.vel[i] :=
    hlane (by fin_cases i <;> simp [writeStores])
  have hang (i : Fin 3) : Seqlock.storeAll (writeStores s) p (.angVel i) = s.angVel[i] :=
    hlane (by fin_cases i <;> simp [writeStores])
  have hgeneration := hlane (l := .resetGeneration) (v := s.resetGeneration) (by simp [writeStores])
  have hstep := hlane (l := .simStep) (v := s.simStep) (by simp [writeStores])
  have htime := hlane (l := .timeUs) (v := s.timeUs) (by simp [writeStores])
  cases s
  simp [Payload.snapshot, hpos, hquat, hvel, hang, hgeneration, hstep, htime]

/-- An `invalidate_model_state` leaves an invalid payload. -/
theorem valid_invalidateStores (generation : UInt32) (p : Payload) :
    Seqlock.storeAll (invalidateStores generation) p .valid = (0 : UInt32) :=
  Seqlock.storeAll_eq (by simp [invalidateStores]) (by simp [invalidateStores])

/-! ## The writer's side -/

/-- A call is under way. -/
def WriterStep.busy : WriterStep → Bool
  | .idle | .dropped => false
  | .bump | .enter _ | .writing _ => true

/-- Its write is under way. -/
def WriterStep.inWrite : WriterStep → Bool
  | .writing _ => true
  | .idle | .dropped | .bump | .enter _ => false

namespace StateWorld

variable {s s' s₀ s₁ : StateWorld} {a : Move} {snapshot : ModelStateSnapshot} {p : Payload}
  {calls : List Call} {c : Call} {n : Nat}

/-- A valid payload is the snapshot of the last of `n` calls. -/
def LastWrite (calls : List Call) (n : Nat) (p : Payload) : Prop :=
  p .valid ≠ (0 : UInt32) →
    ∃ k, n = k + 1 ∧ calls[k]? = some (.writeModelState (Payload.snapshot p))

/-- What the block holds once the call under way has made its stores. -/
def Published (s : StateWorld) : WriterStep → Prop
  | .idle | .dropped => LastWrite s.calls s.returned s.state.cells
  | .bump =>
    LastWrite s.calls s.returned s.state.cells ∧ s.calls[s.returned]? = some .bumpResetGeneration
  | .enter stores =>
    LastWrite s.calls s.returned s.state.cells ∧
      ∀ p, LastWrite s.calls (s.returned + 1) (Seqlock.storeAll stores p)
  | .writing stores =>
    LastWrite s.calls (s.returned + 1) (Seqlock.storeAll stores s.state.cells)

/-- The bumps whose increment of the header has been made. -/
def bumps (s : StateWorld) : WriterStep → Nat
  | .bump => (s.calls.take s.returned).count .bumpResetGeneration
  | _ => s.calls.count .bumpResetGeneration

/-- The invariant of the writer's side. -/
structure Sound (s : StateWorld) : Prop where
  counted : s.state.Counted
  writing : s.state.writing = s.writer.inWrite
  calls : s.calls.length = s.returned + if s.writer.busy then 1 else 0
  published : s.Published s.writer
  generation : s.resetGeneration = 1 + UInt32.ofNat (s.bumps s.writer)

theorem sound_created : created.Sound where
  counted := rfl
  writing := rfl
  calls := rfl
  published h := absurd rfl h
  generation := rfl

theorem LastWrite.append (h : LastWrite calls n p) : LastWrite (calls ++ [c]) n p := by
  intro hvalid
  obtain ⟨k, rfl, hk⟩ := h hvalid
  exact ⟨k, rfl, by rw [List.getElem?_append_left (List.getElem?_eq_some_iff.mp hk).1, hk]⟩

/-- A write whose stores have all been made. -/
theorem lastWrite_writeStores (p : Payload) :
    LastWrite (calls ++ [Call.writeModelState snapshot]) (calls.length + 1)
      (Seqlock.storeAll (writeStores snapshot) p) := by
  intro _
  refine ⟨calls.length, rfl, ?_⟩
  rw [snapshot_writeStores, List.getElem?_concat_length]

theorem lastWrite_invalidateStores (generation : UInt32) (p : Payload) :
    LastWrite calls n (Seqlock.storeAll (invalidateStores generation) p) :=
  fun hvalid => absurd (valid_invalidateStores generation p) hvalid

/-- A call begins after the ones that have returned. -/
theorem Sound.call (hs : s.Sound) (hidle : s.writer = .idle) :
    Sound { s with writer := c.begin, calls := s.calls ++ [c] } := by
  obtain ⟨hcounted, hwriting, hcalls, hpublished, hgeneration⟩ := hs
  rw [hidle] at hwriting hcalls hpublished hgeneration
  have hlength : s.calls.length = s.returned := hcalls
  have hlast : LastWrite (s.calls ++ [c]) s.returned s.state.cells := hpublished.append
  refine ⟨hcounted, ?_, ?_, ?_, hgeneration.trans ?_⟩
  · cases c <;> exact hwriting
  · cases c <;> simp [Call.begin, WriterStep.busy, hlength]
  · cases c with
    | writeModelState snapshot =>
      refine ⟨hlast, fun p => ?_⟩
      rw [← hlength]
      exact lastWrite_writeStores p
    | bumpResetGeneration =>
      refine ⟨hlast, ?_⟩
      rw [← hlength]
      exact List.getElem?_concat_length
    | invalidateModelState generation =>
      exact ⟨hlast, fun p => lastWrite_invalidateStores generation p⟩
  · cases c with
    | bumpResetGeneration => simp [bumps, Call.begin, ← hlength]
    | writeModelState snapshot => simp [bumps, Call.begin]
    | invalidateModelState generation => simp [bumps, Call.begin]

/-- Each access of the writer keeps the invariant. -/
theorem Sound.writerStep (hs : s.Sound) (hstep : s.writerStep s.writer = some s') : s'.Sound := by
  obtain ⟨hcounted, hwriting, hcalls, hpublished, hgeneration⟩ := hs
  cases hwriter : s.writer with
  | idle | dropped =>
    rw [hwriter] at hstep
    cases hstep
  | bump =>
    rw [hwriter] at hstep hwriting hcalls hpublished hgeneration
    cases hstep
    obtain ⟨hlast, hcall⟩ := hpublished
    refine ⟨hcounted, hwriting, hcalls, ⟨hlast, fun p => lastWrite_invalidateStores _ p⟩, ?_⟩
    have hsplit : s.calls = s.calls.take s.returned ++ [Call.bumpResetGeneration] := by
      have hall : s.calls.take (s.returned + 1) = s.calls := List.take_of_length_le hcalls.le
      rw [← hall, List.take_add_one, hcall, List.take_append_of_le_length]
      · simp
      · simp [hcalls, WriterStep.busy]
    have hcount : s.calls.count .bumpResetGeneration =
        (s.calls.take s.returned).count .bumpResetGeneration + 1 := by
      conv_lhs => rw [hsplit]
      simp
    simp only [bumps] at hgeneration ⊢
    rw [hgeneration, hcount, UInt32.ofNat_add, UInt32.add_assoc]
    rfl
  | enter stores =>
    rw [hwriter] at hstep hwriting hcalls hpublished hgeneration
    cases hstep
    exact ⟨hcounted.enter hwriting, rfl, hcalls, hpublished.2 _, hgeneration⟩
  | writing stores =>
    rw [hwriter] at hstep hwriting hcalls hpublished hgeneration
    cases stores with
    | nil =>
      cases hstep
      exact ⟨hcounted.leave hwriting, rfl, hcalls, hpublished, hgeneration⟩
    | cons store stores =>
      cases hstep
      exact ⟨hcounted.store, hwriting, hcalls, hpublished, hgeneration⟩

/-- Every step keeps the invariant of the writer's side. -/
theorem sound_step (hs : s.Sound) (hstep : s.step a = some s') : s'.Sound := by
  cases a with
  | call c =>
    simp only [step] at hstep
    split at hstep
    · next hidle =>
      cases hstep
      exact hs.call hidle
    · cases hstep
  | writer => exact hs.writerStep hstep
  | drop =>
    simp only [step] at hstep
    split at hstep
    · next hidle =>
      cases hstep
      obtain ⟨hcounted, hwriting, hcalls, hpublished, hgeneration⟩ := hs
      rw [hidle] at hwriting hcalls hpublished hgeneration
      exact ⟨hcounted, hwriting, hcalls, hpublished, hgeneration⟩
    · cases hstep
  | read =>
    simp only [step] at hstep
    split at hstep <;> cases hstep <;>
      exact ⟨hs.counted, hs.writing, hs.calls, hs.published, hs.generation⟩
  | reader =>
    obtain ⟨reader, -, rfl⟩ := Option.map_eq_some_iff.mp hstep
    exact ⟨hs.counted, hs.writing, hs.calls, hs.published, hs.generation⟩

theorem sound_path {run : List Move} (hs : s.Sound) (hrun : protocol.Path s run s') : s'.Sound :=
  hrun.invariant (G := fun _ => True) (fun _ _ _ hstep _ hs => sound_step hs hstep)
    (fun _ _ => trivial) hs

/-! ## The reader's side -/

/-- The snapshot is what one returned call of `write_model_state` published, and the bumps among
the first `n` calls came before that call. -/
def Origin (s : StateWorld) (n : Nat) (snapshot : ModelStateSnapshot) : Prop :=
  ∃ k, s.calls[k]? = some (.writeModelState snapshot) ∧ k < s.returned ∧
    ∀ j, j < n → s.calls[j]? = some .bumpResetGeneration → j < k

/-- Where a read stands that began after `begun` writes had begun and `n` calls had returned. -/
def ReaderAt (s : StateWorld) (n begun : Nat) : ReaderStep → Prop
  | .copy _ window => Seqlock.Faithful s.state begun window
  | .checkEpoch snapshot => s.state.begun < begun + 2 ^ 31 → s.Origin n snapshot
  | _ => True

structure Reading (n begun : Nat) (s : StateWorld) : Prop where
  returned_le : n ≤ s.returned
  begun_le : begun ≤ s.state.begun
  reader : s.ReaderAt n begun s.reader

/-- What a step of the writer leaves to a read under way. -/
structure Advance (s s' : StateWorld) : Prop where
  reader : s'.reader = s.reader
  calls : ∃ later, s'.calls = s.calls ++ later
  returned : s.returned ≤ s'.returned
  begun : s.state.begun ≤ s'.state.begun
  faithful : ∀ {begun window}, Seqlock.Faithful s.state begun window →
    Seqlock.Faithful s'.state begun window

theorem Sound.returned_le (hs : s.Sound) : s.returned ≤ s.calls.length := by
  rw [hs.calls]
  exact Nat.le_add_right ..

theorem Sound.advance_writer (hs : s.Sound) (hstep : s.writerStep s.writer = some s') :
    s.Advance s' := by
  have hwriting := hs.writing
  cases hwriter : s.writer with
  | idle | dropped =>
    rw [hwriter] at hstep
    cases hstep
  | bump =>
    rw [hwriter] at hstep
    cases hstep
    exact ⟨rfl, ⟨[], by simp⟩, Nat.le_refl _, Nat.le_refl _, id⟩
  | enter stores =>
    rw [hwriter] at hstep
    cases hstep
    exact ⟨rfl, ⟨[], by simp⟩, Nat.le_refl _, Nat.le_succ _, Seqlock.Faithful.enter⟩
  | writing stores =>
    rw [hwriter] at hstep hwriting
    cases stores with
    | nil =>
      cases hstep
      exact ⟨rfl, ⟨[], by simp⟩, Nat.le_succ _, Nat.le_refl _, fun h => h.leave hwriting⟩
    | cons store stores =>
      cases hstep
      exact ⟨rfl, ⟨[], by simp⟩, Nat.le_refl _, Nat.le_refl _, fun h => h.store hwriting⟩

/-- A step that is not the reader's own. -/
theorem Sound.advance (hs : s.Sound) (hstep : s.step a = some s') (hread : a ≠ .read)
    (hreader : a ≠ .reader) : s.Advance s' := by
  cases a with
  | call c =>
    simp only [step] at hstep
    split at hstep <;> cases hstep
    exact ⟨rfl, ⟨[c], rfl⟩, Nat.le_refl _, Nat.le_refl _, id⟩
  | writer => exact hs.advance_writer hstep
  | drop =>
    simp only [step] at hstep
    split at hstep <;> cases hstep
    exact ⟨rfl, ⟨[], by simp⟩, Nat.le_refl _, Nat.le_refl _, id⟩
  | read => exact absurd rfl hread
  | reader => exact absurd rfl hreader

theorem Origin.advance (h : s.Origin n snapshot) (hs : s.Sound) (hn : n ≤ s.returned)
    (hadvance : s.Advance s') : s'.Origin n snapshot := by
  obtain ⟨k, hcall, hk, hbumps⟩ := h
  obtain ⟨later, hlater⟩ := hadvance.calls
  have hkept {j : Nat} (hj : j < s.returned) : s'.calls[j]? = s.calls[j]? := by
    rw [hlater, List.getElem?_append_left (Nat.lt_of_lt_of_le hj hs.returned_le)]
  refine ⟨k, (hkept hk).trans hcall, Nat.lt_of_lt_of_le hk hadvance.returned, fun j hj hbump => ?_⟩
  exact hbumps j hj ((hkept (Nat.lt_of_lt_of_le hj hn)).symm.trans hbump)

theorem Reading.advance {begun : Nat} (h : s.Reading n begun) (hs : s.Sound)
    (hadvance : s.Advance s') : s'.Reading n begun := by
  refine ⟨h.returned_le.trans hadvance.returned, h.begun_le.trans hadvance.begun, ?_⟩
  have hreader := h.reader
  rw [hadvance.reader]
  cases hpc : s.reader with
  | copy attempt window =>
    rw [hpc] at hreader
    exact hadvance.faithful hreader
  | checkEpoch snapshot =>
    rw [hpc] at hreader
    intro hfew
    exact (hreader (Nat.lt_of_le_of_lt hadvance.begun hfew)).advance hs h.returned_le hadvance
  | idle | loadReady | loadSeq | returned => trivial

/-- Between two writes, a valid payload has an origin. -/
theorem Sound.origin (hs : s.Sound) (hfree : s.state.writing = false)
    (hvalid : s.state.cells .valid ≠ (0 : UInt32)) (hn : n ≤ s.returned) :
    s.Origin n (Payload.snapshot s.state.cells) := by
  have hlast : LastWrite s.calls s.returned s.state.cells := by
    have hpublished := hs.published
    have hwriting := hs.writing
    cases hwriter : s.writer with
    | idle | dropped =>
      rw [hwriter] at hpublished
      exact hpublished
    | bump | enter _ =>
      rw [hwriter] at hpublished
      exact hpublished.1
    | writing _ =>
      rw [hwriter, hfree] at hwriting
      cases hwriting
  obtain ⟨k, hreturned, hcall⟩ := hlast hvalid
  refine ⟨k, hcall, by rw [hreturned]; exact Nat.lt_succ_self k, fun j hj hbump => ?_⟩
  rw [hreturned] at hn
  have hle : j ≤ k := Nat.le_of_lt_succ (Nat.lt_of_lt_of_le hj hn)
  refine Nat.lt_of_le_of_ne hle fun hjk => ?_
  rw [hjk, hcall] at hbump
  cases hbump

theorem readerAt_retry {begun attempt : Nat} : s.ReaderAt n begun (retry attempt) := by
  unfold retry
  split <;> trivial

/-- The word's lowest bit is its parity. -/
theorem even_of_and_one {w : UInt32} (h : w &&& 1 = 0) : w % 2 = 0 := by
  apply UInt32.toNat_inj.mp
  have hbit := congrArg UInt32.toNat h
  simpa [UInt32.toNat_and, Nat.and_one_is_mod] using hbit

/-- Each access of the reader keeps the read's invariant. -/
theorem Reading.readerStep {begun : Nat} {reader : ReaderStep} (h : s.Reading n begun)
    (hs : s.Sound) (hstep : s.readerStep s.reader = some reader) :
    Reading n begun { s with reader } := by
  refine ⟨h.returned_le, h.begun_le, ?_⟩
  have hreader := h.reader
  cases hpc : s.reader with
  | idle | returned =>
    rw [hpc] at hstep
    cases hstep
  | loadReady =>
    rw [hpc] at hstep
    cases hstep
    dsimp only
    split <;> trivial
  | loadSeq attempt =>
    rw [hpc] at hstep
    cases hstep
    dsimp only
    split
    · exact readerAt_retry
    · next heven =>
      exact Seqlock.Faithful.start hs.counted (even_of_and_one (not_not.mp heven)) h.begun_le
        mem_loadOrder
  | copy attempt window =>
    rw [hpc] at hstep hreader
    have hfaithful : Seqlock.Faithful s.state begun window := hreader
    simp only [StateWorld.readerStep] at hstep
    split at hstep
    · next l rest htodo =>
      cases hstep
      exact hfaithful.load htodo
    · next htodo =>
      cases hstep
      dsimp only
      split
      · next hsame =>
        unfold accept
        split
        · trivial
        · next hvalid =>
          intro hfew
          obtain ⟨hfree, hgot⟩ := hfaithful.accept hs.counted htodo hsame hfew
          rw [hgot] at hvalid ⊢
          exact hs.origin hfree hvalid h.returned_le
      · exact readerAt_retry
  | checkEpoch snapshot =>
    rw [hpc] at hstep
    cases hstep
    trivial

/-- A read under way stays one until the reader begins another. -/
theorem reading_path {run : List Move} {begun : Nat} (h : s.Reading n begun) (hs : s.Sound)
    (hrun : protocol.Path s run s') (hsame : .read ∉ run) : s'.Reading n begun := by
  have hinvariant : s'.Sound ∧ s'.Reading n begun := by
    refine hrun.invariant (I := fun t => t.Sound ∧ t.Reading n begun) (G := (· ≠ .read)) ?_ ?_
      ⟨hs, h⟩
    · rintro s a s' hstep hread ⟨hs, h⟩
      refine ⟨sound_step hs hstep, ?_⟩
      by_cases hreader : a = .reader
      · subst hreader
        obtain ⟨reader, hmove, rfl⟩ := Option.map_eq_some_iff.mp hstep
        exact h.readerStep hs hmove
      · exact h.advance hs (hs.advance hstep hread hreader)
    · exact fun a ha hread => hsame (hread ▸ ha)
  exact hinvariant.2

/-- The access that returns a snapshot is the epoch check. -/
theorem returns_snapshot (hstep : s.step .reader = some s')
    (hreturn : s'.reader = .returned (some snapshot)) :
    s.reader = .checkEpoch snapshot ∧ snapshot.resetGeneration = s.resetGeneration := by
  obtain ⟨reader, hmove, rfl⟩ := Option.map_eq_some_iff.mp hstep
  have hretry (attempt : Nat) (h : retry attempt = .returned (some snapshot)) : False := by
    unfold retry at h
    split at h <;> cases h
  replace hreturn : reader = .returned (some snapshot) := hreturn
  subst hreturn
  cases hpc : s.reader with
  | idle | returned =>
    rw [hpc] at hmove
    cases hmove
  | loadReady =>
    rw [hpc] at hmove
    have h := Option.some.inj hmove
    split at h <;> cases h
  | loadSeq attempt =>
    rw [hpc] at hmove
    have h := Option.some.inj hmove
    split at h
    · exact (hretry attempt h).elim
    · cases h
  | copy attempt window =>
    rw [hpc] at hmove
    simp only [readerStep] at hmove
    split at hmove
    · cases hmove
    · have h := Option.some.inj hmove
      split at h
      · unfold accept at h
        split at h <;> cases h
      · exact (hretry attempt h).elim
  | checkEpoch snapshot' =>
    rw [hpc] at hmove
    have h := Option.some.inj hmove
    split at h
    · cases h
    · next hepoch =>
      cases h
      exact ⟨rfl, not_not.mp hepoch⟩

/-! ## Generations -/

/-- The generation in the header when call `j` begins. -/
def generationBefore (s : StateWorld) (j : Nat) : UInt32 :=
  1 + UInt32.ofNat ((s.calls.take j).count .bumpResetGeneration)

/-- Generations differ as long as the count of the bumps between them does not wrap. -/
theorem generation_ne {b d : Nat} (hd : 0 < d) (hwrap : d < 2 ^ 32) :
    1 + UInt32.ofNat (b + d) ≠ 1 + UInt32.ofNat b := by
  intro h
  have hmod := congrArg UInt32.toNat ((UInt32.add_right_inj 1).mp h)
  simp only [UInt32.toNat_ofNat'] at hmod
  omega

/-- The generation a returned bump retired is not the header's again before the count of bumps
wraps. -/
theorem Sound.generation_retired (hs : s.Sound) {j : Nat} (hj : j < s.returned)
    (hbump : s.calls[j]? = some .bumpResetGeneration)
    (hwrap : (s.calls.drop j).count .bumpResetGeneration < 2 ^ 32) :
    s.resetGeneration ≠ s.generationBefore j := by
  have hsplit (m : Nat) : s.calls.count .bumpResetGeneration =
      (s.calls.take m).count .bumpResetGeneration +
        (s.calls.drop m).count .bumpResetGeneration := by
    rw [← List.count_append, List.take_append_drop]
  have hnext : (s.calls.take (j + 1)).count .bumpResetGeneration =
      (s.calls.take j).count .bumpResetGeneration + 1 := by
    rw [List.take_add_one, hbump, List.count_append]
    rfl
  have hreturned : (s.calls.take (j + 1)).count .bumpResetGeneration ≤
      (s.calls.take s.returned).count .bumpResetGeneration :=
    (List.take_sublist_take_left hj).count_le _
  have hmade : (s.calls.take s.returned).count .bumpResetGeneration ≤ s.bumps s.writer ∧
      s.bumps s.writer ≤ s.calls.count .bumpResetGeneration := by
    have hle := hsplit s.returned
    cases s.writer <;> simp only [bumps] <;> omega
  have hall := hsplit j
  obtain ⟨d, hd⟩ : ∃ d, s.bumps s.writer =
      (s.calls.take j).count .bumpResetGeneration + d :=
    Nat.exists_eq_add_of_le (by omega)
  rw [hs.generation, generationBefore, hd]
  exact generation_ne (by omega) (by omega)

/-! ## The results -/

theorem snapshot_origin {run during : List Move} (hrun : protocol.Path created run s₀)
    (hbegin : protocol.step s₀ .read s₁) (hread : protocol.Path s₁ during s)
    (hsame : .read ∉ during) (hlast : protocol.step s .reader s')
    (hreturn : s'.reader = .returned (some snapshot))
    (hfew : s.state.begun < s₀.state.begun + 2 ^ 31) : s.Origin s₀.returned snapshot := by
  have hs₀ : s₀.Sound := sound_path sound_created hrun
  have hreading : s₁.Reading s₀.returned s₀.state.begun := by
    simp only [protocol, step] at hbegin
    split at hbegin <;> cases hbegin <;> exact ⟨Nat.le_refl _, Nat.le_refl _, trivial⟩
  have hreading' := reading_path hreading (sound_step hs₀ hbegin) hread hsame
  have hreader := hreading'.reader
  rw [(returns_snapshot hlast hreturn).1] at hreader
  exact hreader hfew

/-- In every interleaving of the writer's and the reader's accesses: a snapshot that a read
returns, during which fewer than `2^31` writes began, is what one returned call of
`write_model_state` published; its generation is the header's at the read's last access; and
every bump that had returned when the read began came before that call, and what it retired is
not the snapshot's generation (unless the generation has wrapped since). -/
theorem snapshot_safe {run during : List Move} (hrun : protocol.Path created run s₀)
    (hbegin : protocol.step s₀ .read s₁) (hread : protocol.Path s₁ during s)
    (hsame : .read ∉ during) (hlast : protocol.step s .reader s')
    (hreturn : s'.reader = .returned (some snapshot))
    (hfew : s.state.begun < s₀.state.begun + 2 ^ 31) :
    snapshot.resetGeneration = s.resetGeneration ∧
    ∃ k, s.calls[k]? = some (.writeModelState snapshot) ∧ k < s.returned ∧
      ∀ j, j < s₀.returned → s.calls[j]? = some .bumpResetGeneration → j < k ∧
        ((s.calls.drop j).count .bumpResetGeneration < 2 ^ 32 →
          snapshot.resetGeneration ≠ s.generationBefore j) := by
  have hs₁ : s₁.Sound := sound_step (sound_path sound_created hrun) hbegin
  have hs : s.Sound := sound_path hs₁ hread
  have hepoch := (returns_snapshot hlast hreturn).2
  obtain ⟨k, hcall, hk, hbumps⟩ := snapshot_origin hrun hbegin hread hsame hlast hreturn hfew
  refine ⟨hepoch, k, hcall, hk, fun j hj hbump => ?_⟩
  have hjk := hbumps j hj hbump
  refine ⟨hjk, fun hwrap => ?_⟩
  rw [hepoch]
  exact hs.generation_retired (hjk.trans hk) hbump hwrap

/-! ## A reset and a read -/

/-- A snapshot of the world after one reset. -/
def hover : ModelStateSnapshot :=
  ⟨2, 7, 7000, #v[0, 0, 0x4024000000000000], #v[0x3FF0000000000000, 0, 0, 0], #v[0, 0, 0],
    #v[0, 0, 0]⟩

/-- The world is reset, and the new one publishes its first snapshot. -/
def resetMoves : List Move :=
  Move.call .bumpResetGeneration :: List.replicate 5 .writer ++
    Move.call (.writeModelState hover) :: List.replicate 19 .writer

/-- A read up to its epoch check. -/
def readMoves : List Move := List.replicate 20 .reader

theorem hover_returned :
    ((resetMoves.foldlM step created).any fun s₀ => (s₀.step .read).any fun s₁ =>
      (readMoves.foldlM step s₁).any fun s =>
        decide (s.state.begun < s₀.state.begun + 2 ^ 31) && (s.step .reader).any fun s' =>
          match s'.reader with
          | .returned result => result == some hover
          | _ => false) = true := by
  decide +kernel

theorem snapshot_safe_hover : ∃ s₀ s₁ s s', protocol.Path created resetMoves s₀ ∧
    protocol.step s₀ .read s₁ ∧ protocol.Path s₁ readMoves s ∧ protocol.step s .reader s' ∧
    s'.reader = .returned (some hover) ∧ hover.resetGeneration = s.resetGeneration ∧
    ∃ k, s.calls[k]? = some (.writeModelState hover) ∧ k < s.returned ∧
      ∀ j, j < s₀.returned → s.calls[j]? = some .bumpResetGeneration → j < k ∧
        ((s.calls.drop j).count .bumpResetGeneration < 2 ^ 32 →
          hover.resetGeneration ≠ s.generationBefore j) := by
  obtain ⟨s₀, hreset, h₀⟩ := (Option.any_eq_true _ _).mp hover_returned
  obtain ⟨s₁, hbegin, h₁⟩ := (Option.any_eq_true _ _).mp h₀
  obtain ⟨s, hread, h⟩ := (Option.any_eq_true _ _).mp h₁
  rw [Bool.and_eq_true, decide_eq_true_eq] at h
  obtain ⟨hfew, h⟩ := h
  obtain ⟨s', hlast, hcheck⟩ := (Option.any_eq_true _ _).mp h
  have hreturn : s'.reader = .returned (some hover) := by
    split at hcheck
    · next result hresult =>
      rw [hresult, beq_iff_eq.mp hcheck]
    · cases hcheck
  have hrun : protocol.Path created resetMoves s₀ := .of_foldlM (fun _ _ _ => id) hreset
  have hpath : protocol.Path s₁ readMoves s := .of_foldlM (fun _ _ _ => id) hread
  exact ⟨s₀, s₁, s, s', hrun, hbegin, hpath, hlast, hreturn,
    snapshot_safe hrun hbegin hpath (by decide) hlast hreturn hfew⟩

end StateWorld

end Aviate.Shm

end ShmSnapshotSafety

section SitlBridge

/-!
# From setpoint messages to commands

The simulator's mapping of setpoint messages, with its errors (`xil/src/bridge.rs`). The type
masks are those of the direct endpoint.
-/

namespace Aviate.Sitl

open Mavlink
open Direct (localNedFrame attitudeMask positionMask velocityMask accelerationMask forceSet
  yawIgnore yawRateIgnore knownPositionMask vectorActive)

inductive MavlinkCommandMappingError where
  | unsupportedAttitudeTypeMask (typeMask : UInt8)
  | nonFiniteField (field : String)
  | invalidAttitudeQuaternion
  | invalidCollectiveThrust
  | unsupportedCoordinateFrame (coordinateFrame : UInt8)
  | partialPositionVector (typeMask : UInt16)
  | partialVelocityVector (typeMask : UInt16)
  | unsupportedPositionTypeMask (typeMask : UInt16)
  | missingPositionOrVelocity
deriving DecidableEq

abbrev Mapped (α : Type) := Except MavlinkCommandMappingError α

/-- The first field that is not finite is reported. -/
def validateFiniteFields : List (String × F32) → Mapped Unit
  | [] => .ok ()
  | (field, value) :: fields =>
    if !Scalar.isFinite value then .error (.nonFiniteField field)
    else validateFiniteFields fields

/-- Convert a supported attitude target. -/
def mavlinkToCommand (target : SetAttitudeTarget) : Mapped (Command F32) := do
  if target.typeMask ≠ attitudeMask then
    throw (.unsupportedAttitudeTypeMask target.typeMask)
  validateFiniteFields [("SET_ATTITUDE_TARGET.q[0]", target.q[0]),
    ("SET_ATTITUDE_TARGET.q[1]", target.q[1]), ("SET_ATTITUDE_TARGET.q[2]", target.q[2]),
    ("SET_ATTITUDE_TARGET.q[3]", target.q[3]), ("SET_ATTITUDE_TARGET.thrust", target.thrust)]
  let attitude : Quaternion F32 := ⟨target.q[0], target.q[1], target.q[2], target.q[3]⟩
  if !attitude.isNormalized quatNormEps then throw .invalidAttitudeQuaternion
  if !(Scalar.le (lit 0) target.thrust && Scalar.le target.thrust (lit 1)) then
    throw .invalidCollectiveThrust
  return {
    mode := .attitude
    setpoint := { Setpoint.default with
      attitude := some attitude
      collectiveThrust := target.thrust }
    configModeRequest := none
    sensorOverrides := none
    sequence := 0
    source := .gcs }

/-- Which of position, velocity and yaw the mask activates. -/
def validatePositionMask (target : SetPositionTargetLocalNed) : Mapped (Bool × Bool × Bool) := do
  if target.coordinateFrame ≠ localNedFrame then
    throw (.unsupportedCoordinateFrame target.coordinateFrame)
  let mask := target.typeMask
  let positionActive ← (vectorActive mask positionMask).elim
    (throw (.partialPositionVector mask)) pure
  let velocityActive ← (vectorActive mask velocityMask).elim
    (throw (.partialVelocityVector mask)) pure
  if mask &&& ~~~knownPositionMask ≠ 0 || mask &&& accelerationMask ≠ accelerationMask ||
      mask &&& forceSet ≠ 0 || mask &&& yawRateIgnore = 0 then
    throw (.unsupportedPositionTypeMask mask)
  if !positionActive && !velocityActive then throw .missingPositionOrVelocity
  return (positionActive, velocityActive, mask &&& yawIgnore = 0)

/-- The active values are finite. -/
def validatePositionValues (target : SetPositionTargetLocalNed)
    (positionActive velocityActive yawActive : Bool) : Mapped Unit := do
  if positionActive then
    validateFiniteFields [("SET_POSITION_TARGET_LOCAL_NED.x", target.x),
      ("SET_POSITION_TARGET_LOCAL_NED.y", target.y), ("SET_POSITION_TARGET_LOCAL_NED.z", target.z)]
  if velocityActive then
    validateFiniteFields [("SET_POSITION_TARGET_LOCAL_NED.vx", target.vx),
      ("SET_POSITION_TARGET_LOCAL_NED.vy", target.vy),
      ("SET_POSITION_TARGET_LOCAL_NED.vz", target.vz)]
  if yawActive then validateFiniteFields [("SET_POSITION_TARGET_LOCAL_NED.yaw", target.yaw)]

/-- Convert a position target. -/
def mavlinkPositionToCommand (target : SetPositionTargetLocalNed) : Mapped (Command F32) := do
  let (positionActive, velocityActive, yawActive) ← validatePositionMask target
  validatePositionValues target positionActive velocityActive yawActive
  return {
    mode := if positionActive then .positionHold else .velocityControl
    setpoint := { Setpoint.default with
      position := if positionActive then some #v[target.x, target.y, target.z] else none
      velocity := if velocityActive then some #v[target.vx, target.vy, target.vz] else none
      heading := if yawActive then some target.yaw else none }
    configModeRequest := none
    sensorOverrides := none
    sequence := 0
    source := .gcs }

/-! ## What bounds a heading -/

theorem validateFiniteFields_ok_iff {fields : List (String × F32)} :
    validateFiniteFields fields = .ok () ↔ ∀ f ∈ fields, Scalar.isFinite f.2 = true := by
  induction fields with
  | nil => simp [validateFiniteFields]
  | cons f fields ih =>
    obtain ⟨field, value⟩ := f
    cases hvalue : Scalar.isFinite value with
    | true => simp [validateFiniteFields, hvalue, ih]
    | false => simp [validateFiniteFields, hvalue]

theorem validatePositionValues_ok_iff {target : SetPositionTargetLocalNed}
    {position velocity yawActive : Bool} :
    validatePositionValues target position velocity yawActive = .ok () ↔
      (position = true → ∀ v ∈ [target.x, target.y, target.z], Scalar.isFinite v = true) ∧
        (velocity = true → ∀ v ∈ [target.vx, target.vy, target.vz], Scalar.isFinite v = true) ∧
          (yawActive = true → Scalar.isFinite target.yaw = true) := by
  have hthen : ∀ {a b : Mapped Unit}, (do a; b) = .ok () ↔ a = .ok () ∧ b = .ok () := by
    intro a b
    rcases a with _ | ⟨⟩ <;> simp [bind, Except.bind]
  have hpure : (pure () : Mapped Unit) = .ok () := rfl
  unfold validatePositionValues
  cases position <;> cases velocity <;> cases yawActive <;>
    simp [hthen, hpure, validateFiniteFields_ok_iff]

/-- Every finite heading in the place of an accepted one is accepted and commanded. -/
theorem mavlinkPositionToCommand_withYaw {target : SetPositionTargetLocalNed}
    {command : Command F32} {yaw : F32} (h : mavlinkPositionToCommand target = .ok command)
    (hyaw : Scalar.isFinite yaw = true) :
    mavlinkPositionToCommand { target with yaw } = .ok { command with
      setpoint := { command.setpoint with
        heading := command.setpoint.heading.map fun _ => yaw } } := by
  have hmask : validatePositionMask { target with yaw } = validatePositionMask target := rfl
  unfold mavlinkPositionToCommand at h ⊢
  rw [hmask]
  rcases hactive : validatePositionMask target with error | ⟨position, velocity, yawActive⟩
  · rw [hactive] at h
    exact nomatch h
  · rw [hactive] at h
    rcases hok : validatePositionValues target position velocity yawActive with error | ⟨⟩
    · simp only [bind, Except.bind, hok] at h
      exact nomatch h
    · have hok' : validatePositionValues { target with yaw } position velocity yawActive =
          .ok () := by
        obtain ⟨hposition, hvelocity, -⟩ := validatePositionValues_ok_iff.mp hok
        exact validatePositionValues_ok_iff.mpr ⟨hposition, hvelocity, fun _ => hyaw⟩
      simp only [bind, Except.bind, hok] at h
      simp only [bind, Except.bind, hok']
      cases h
      cases yawActive <;> rfl

end Aviate.Sitl

end SitlBridge

section SynthesisAttitude

/-!
# Attitude arithmetic around the simulators

The rotation of a world vector into the body and the body rate between two attitudes
(`xil/src/synthesis.rs`), and the change of frames of the Gazebo plugin (`plugin.rs`), from its
ENU world and FLU body to NED and FRD. Attitudes are arrays `[w, x, y, z]`.
-/

namespace Aviate

variable {F G : Type}

/-- `as f32` of a value of the wider float type. -/
class Narrow (G F : Type) where
  narrow : G → F

export Narrow (narrow)

instance : Narrow F64 F32 where
  narrow v := .ofDouble v.toFloat

/-! ## Arrays -/

def Quaternion.ofArray (q : Vector F 4) : Quaternion F := ⟨q[0], q[1], q[2], q[3]⟩

def Quaternion.toArray (q : Quaternion F) : Vector F 4 := #v[q.w, q.x, q.y, q.z]

def Vector3.ofArray (v : Vector F 3) : Vector3 F := ⟨v[0], v[1], v[2]⟩

def Vector3.toArray (v : Vector3 F) : Vector F 3 := #v[v.x, v.y, v.z]

/-- `to_vec3` of a column. -/
def Mat.toVec3 (m : Mat F 3 1) : Vector3 F := ⟨m[0][0], m[1][0], m[2][0]⟩

/-- A vector as a column. -/
def Vector3.toColumn (v : Vector3 F) : Mat F 3 1 := #v[#v[v.x], #v[v.y], #v[v.z]]

namespace Synthesis

/-! ## The synthesizer -/

section

variable [Scalar F]

/-- The inverse of `q`, which rotates body to world, applied to `v`: the body-from-world
matrix. -/
def rotateWorldToBody (q : Vector F 4) (v : Vector F 3) : Vector F 3 :=
  let w := q[0]
  let x := q[1]
  let y := q[2]
  let z := q[3]
  let r00 := lit 1 - lit 2 * (y * y + z * z)
  let r01 := lit 2 * (x * y + w * z)
  let r02 := lit 2 * (x * z - w * y)
  let r10 := lit 2 * (x * y - w * z)
  let r11 := lit 1 - lit 2 * (x * x + z * z)
  let r12 := lit 2 * (y * z + w * x)
  let r20 := lit 2 * (x * z + w * y)
  let r21 := lit 2 * (y * z - w * x)
  let r22 := lit 1 - lit 2 * (x * x + y * y)
  #v[r00 * v[0] + r01 * v[1] + r02 * v[2],
     r10 * v[0] + r11 * v[1] + r12 * v[2],
     r20 * v[0] + r21 * v[1] + r22 * v[2]]

/-- The body angular velocity that turns attitude `prev` into `now` over `dt` seconds. -/
def bodyRate (now prev : Vector F 4) (dt : F) : Vector F 3 :=
  let qdW := now[0] * prev[0] + now[1] * prev[1] + now[2] * prev[2] + now[3] * prev[3]
  let qdX := -now[0] * prev[1] + now[1] * prev[0] - now[2] * prev[3] + now[3] * prev[2]
  let qdY := -now[0] * prev[2] + now[1] * prev[3] + now[2] * prev[0] - now[3] * prev[1]
  let qdZ := -now[0] * prev[3] - now[1] * prev[2] + now[2] * prev[1] + now[3] * prev[0]
  -- The shorter arc: `qd` and `-qd` are the same rotation.
  let sign := if Scalar.le (lit 0) qdW then lit 1 else -lit 1
  let omegaWorldNed := #v[lit 2 * sign * qdX / dt, lit 2 * sign * qdY / dt, lit 2 * sign * qdZ / dt]
  rotateWorldToBody now omegaWorldNed

end

/-! ## The Gazebo plugin -/

/-- `FRAC_1_SQRT_2`: the square root is correctly rounded, so it gives the constant. -/
def fracOneSqrt2 [Scalar F] [Libm F] : F := sqrtf (lit (1 / 2))

section

variable [Narrow G F]

def enuToNedF32 [Neg G] (enu : Vector G 3) : Vector F 3 :=
  #v[narrow enu[1], narrow enu[0], narrow (-enu[2])]

/-- The attitude of an FLU body in an ENU world as that of the FRD body in the NED world. -/
def enuQuatToNedF32 [Scalar F] [Libm F] (qEnuFlu : Vector G 4) : Vector F 4 :=
  let s : F := fracOneSqrt2
  let w : F := narrow qEnuFlu[0]
  let x : F := narrow qEnuFlu[1]
  let y : F := narrow qEnuFlu[2]
  let z : F := narrow qEnuFlu[3]
  #v[s * (w + z), s * (x + y), s * (x - y), s * (w - z)]

def fluToFrdF32 [Neg G] (vFlu : Vector G 3) : Vector F 3 :=
  #v[narrow vFlu[0], narrow (-vFlu[1]), narrow (-vFlu[2])]

end

end Synthesis

end Aviate

end SynthesisAttitude

section SynthesisAttitudeConvention

/-!
# One attitude convention

Every crate that touches an attitude has its own expanded formulas. In exact real arithmetic they
are the operations of one algebra: the product of the core is the product of the quaternions, its
rotation and its rotation matrix are `q v q*`, the synthesizer rotates by the conjugate, and the
Gazebo conversion multiplies by one fixed unit quaternion on each side. The laws of the convention
are then laws of that algebra.

Results:
1. The formulas as quaternion operations (`hamilton_mul`, `hamilton_rotateVector`,
   `hamilton_rotateWorldToBody`, `hamilton_enuQuatToNed`).
2. The body rate is exact on the shorter arc (`mul_shortArc`).
3. The convention as a whole (`attitude_convention`).
-/

open Quaternion Rotation

namespace Aviate

open Synthesis

instance : Narrow ℝ ℝ where
  narrow v := v

@[simp] theorem narrow_real (v : ℝ) : (narrow v : ℝ) = v := rfl

/-! ## The algebra -/

def Quaternion.hamilton (q : Quaternion ℝ) : ℍ[ℝ] := ⟨q.w, q.x, q.y, q.z⟩

def Vector3.hamilton (v : Vector3 ℝ) : ℍ[ℝ] := ⟨0, v.x, v.y, v.z⟩

/-- The dot product. -/
def Vector3.dot (v w : Vector3 ℝ) : ℝ := v.x * w.x + v.y * w.y + v.z * w.z

variable {q a b : Quaternion ℝ} {v w : Vector3 ℝ}

@[simp] theorem Quaternion.re_hamilton : q.hamilton.re = q.w := rfl

@[simp] theorem Quaternion.imI_hamilton : q.hamilton.imI = q.x := rfl

@[simp] theorem Quaternion.imJ_hamilton : q.hamilton.imJ = q.y := rfl

@[simp] theorem Quaternion.imK_hamilton : q.hamilton.imK = q.z := rfl

@[simp] theorem Vector3.re_hamilton : v.hamilton.re = 0 := rfl

@[simp] theorem Vector3.imI_hamilton : v.hamilton.imI = v.x := rfl

@[simp] theorem Vector3.imJ_hamilton : v.hamilton.imJ = v.y := rfl

@[simp] theorem Vector3.imK_hamilton : v.hamilton.imK = v.z := rfl

theorem Quaternion.hamilton_injective : Function.Injective Quaternion.hamilton := by
  intro a b h
  cases a
  cases b
  obtain ⟨rfl, rfl, rfl, rfl⟩ := QuaternionAlgebra.mk.inj h
  rfl

theorem Vector3.hamilton_injective : Function.Injective Vector3.hamilton := by
  intro v w h
  cases v
  cases w
  obtain ⟨-, rfl, rfl, rfl⟩ := QuaternionAlgebra.mk.inj h
  rfl

theorem normSq_hamilton (q : Quaternion ℝ) : normSq q.hamilton = q.normSq := by
  rw [normSq_def']
  simp only [Quaternion.re_hamilton, Quaternion.imI_hamilton, Quaternion.imJ_hamilton,
    Quaternion.imK_hamilton, Quaternion.normSq]
  ring

theorem unit_hamilton (hq : q.normSq = 1) : normSq q.hamilton = 1 := by
  rw [normSq_hamilton, hq]

theorem dot_eq_re (v w : Vector3 ℝ) : v.dot w = (v.hamilton * star w.hamilton).re := by
  simp [Vector3.dot]

/-! ## The formulas of the core -/

theorem hamilton_mul (a b : Quaternion ℝ) : (a.mul b).hamilton = a.hamilton * b.hamilton := by
  ext <;> simp [Quaternion.mul]

theorem hamilton_rotateVector (q : Quaternion ℝ) (v : Vector3 ℝ) :
    (q.rotateVector v).hamilton = rotate q.hamilton v.hamilton := by
  ext <;> simp [Quaternion.rotateVector, rotate] <;> ring

theorem normSq_sum (hq : q.normSq = 1) : q.w * q.w + q.x * q.x + q.y * q.y + q.z * q.z = 1 := hq

/-- The matrix is expanded with the norm put to one. -/
theorem toRotationMatrix_apply (hq : q.normSq = 1) (v : Vector3 ℝ) :
    (q.toRotationMatrix.mul v.toColumn).toVec3 = q.rotateVector v := by
  have hnorm := normSq_sum hq
  simp [Quaternion.toRotationMatrix, Mat.mul, Mat.toVec3, Vector3.toColumn, Mat.get, Mat.ofFn,
    Fin.foldl_succ, Quaternion.rotateVector]
  refine ⟨?_, ?_, ?_⟩
  · linear_combination -v.x * hnorm
  · linear_combination -v.y * hnorm
  · linear_combination -v.z * hnorm

/-! ## The formulas of the synthesizer -/

/-- The synthesizer rotates by the conjugate. -/
theorem hamilton_rotateWorldToBody (hq : q.normSq = 1) (v : Vector3 ℝ) :
    (Vector3.ofArray (rotateWorldToBody q.toArray v.toArray)).hamilton =
      rotate (star q.hamilton) v.hamilton := by
  have hnorm := normSq_sum hq
  ext <;> simp [Quaternion.toArray, Vector3.toArray, Vector3.ofArray, rotateWorldToBody, rotate]
  · ring
  · linear_combination -v.x * hnorm
  · linear_combination -v.y * hnorm
  · linear_combination -v.z * hnorm

/-- Half the angle that a body rate turns in `dt` seconds, as a vector. -/
noncomputable def halfTurn (rate : Vector ℝ 3) (dt : ℝ) : Vector3 ℝ :=
  ⟨dt / 2 * rate[0], dt / 2 * rate[1], dt / 2 * rate[2]⟩

/-- The unit quaternion on the shorter arc with vector part `g`. -/
noncomputable def Quaternion.ofHalfTurn (g : Vector3 ℝ) : Quaternion ℝ :=
  ⟨√(1 - g.dot g), g.x, g.y, g.z⟩

/-- The other quaternion of the same rotation. -/
noncomputable def Quaternion.neg (q : Quaternion ℝ) : Quaternion ℝ := ⟨-q.w, -q.x, -q.y, -q.z⟩

theorem hamilton_neg (q : Quaternion ℝ) : q.neg.hamilton = -q.hamilton := by
  ext <;> simp [Quaternion.neg]

theorem normSq_neg_eq (q : Quaternion ℝ) : q.neg.normSq = q.normSq := by
  rw [← normSq_hamilton, hamilton_neg, normSq_neg, normSq_hamilton]

theorem hamilton_ofHalfTurn (g : Vector3 ℝ) :
    (Quaternion.ofHalfTurn g).hamilton = (√(1 - normSq g.hamilton) : ℝ) + g.hamilton := by
  have hdot : g.dot g = normSq g.hamilton := by
    rw [dot_eq_re, normSq_def]
  ext <;> simp [Quaternion.ofHalfTurn, hdot]

/-- The sign by which the code takes the shorter arc. -/
noncomputable def arcSign (now prev : Quaternion ℝ) : ℝ :=
  if 0 ≤ (star prev.hamilton * now.hamilton).re then 1 else -1

theorem arcSign_mul_self (now prev : Quaternion ℝ) :
    arcSign now prev * arcSign now prev = 1 := by
  unfold arcSign
  split <;> norm_num

theorem arcSign_mul_re (now prev : Quaternion ℝ) :
    arcSign now prev * (star prev.hamilton * now.hamilton).re =
      |(star prev.hamilton * now.hamilton).re| := by
  unfold arcSign
  split
  case isTrue h => rw [one_mul, abs_of_nonneg h]
  case isFalse h => rw [neg_one_mul, abs_of_neg (not_le.1 h)]

/-- The world rate that `bodyRate` turns into the body. -/
theorem bodyRate_eq (now prev : Quaternion ℝ) (dt : ℝ) :
    ∃ world : Vector3 ℝ,
      bodyRate now.toArray prev.toArray dt = rotateWorldToBody now.toArray world.toArray ∧
      world.hamilton = (2 * arcSign now prev / dt) • (now.hamilton * star prev.hamilton).im := by
  have hre : (star prev.hamilton * now.hamilton).re =
      now.w * prev.w + now.x * prev.x + now.y * prev.y + now.z * prev.z := by
    simp
    ring
  have hsign : arcSign now prev =
      if 0 ≤ now.w * prev.w + now.x * prev.x + now.y * prev.y + now.z * prev.z then 1 else -1 := by
    rw [arcSign, hre]
  let turn := now.hamilton * star prev.hamilton
  refine ⟨⟨2 * arcSign now prev * turn.imI / dt, 2 * arcSign now prev * turn.imJ / dt,
    2 * arcSign now prev * turn.imK / dt⟩, ?_, ?_⟩
  · rw [bodyRate]
    congr 1
    by_cases hshort : 0 ≤ now.w * prev.w + now.x * prev.x + now.y * prev.y + now.z * prev.z
    all_goals
      simp only [hshort, if_true, if_false] at hsign
      simp [hsign, hshort, Vector3.toArray, Quaternion.toArray, turn]
      exact ⟨by ring, by ring, by ring⟩
  · ext <;> simp [turn] <;> ring

theorem hamilton_halfTurn {now prev : Quaternion ℝ} {dt : ℝ} (hnow : now.normSq = 1)
    (hdt : dt ≠ 0) :
    (halfTurn (bodyRate now.toArray prev.toArray dt) dt).hamilton =
      arcSign now prev • (star prev.hamilton * now.hamilton).im := by
  obtain ⟨world, hrate, hworld⟩ := bodyRate_eq now prev dt
  have hunit : normSq (star now.hamilton) = 1 := by
    rw [normSq_star, unit_hamilton hnow]
  have hbody : (Vector3.ofArray (bodyRate now.toArray prev.toArray dt)).hamilton =
      (2 * arcSign now prev / dt) • (star prev.hamilton * now.hamilton).im := by
    rw [hrate, hamilton_rotateWorldToBody hnow, hworld, rotate_smul, rotate_im hunit,
      rotate_star_turn (unit_hamilton hnow)]
  have hhalf : (halfTurn (bodyRate now.toArray prev.toArray dt) dt).hamilton =
      (dt / 2) • (Vector3.ofArray (bodyRate now.toArray prev.toArray dt)).hamilton := by
    ext <;> simp [halfTurn, Vector3.ofArray]
  rw [hhalf, hbody, smul_smul]
  congr 1
  field_simp

/-- The body rate over `dt` seconds leads from the previous attitude to the current one, up to
the overall sign. -/
theorem mul_bodyRate {now prev : Quaternion ℝ} {dt : ℝ} (hnow : now.normSq = 1)
    (hprev : prev.normSq = 1) (hdt : dt ≠ 0) :
    (prev.mul (.ofHalfTurn (halfTurn (bodyRate now.toArray prev.toArray dt) dt))).hamilton =
      arcSign now prev • now.hamilton := by
  rw [hamilton_mul, hamilton_ofHalfTurn, hamilton_halfTurn hnow hdt]
  exact mul_shortArc (unit_hamilton hprev) (unit_hamilton hnow) (arcSign_mul_self now prev)
    (arcSign_mul_re now prev)

/-! ## The formulas of the Gazebo plugin -/

/-- The turn of the world from ENU to NED: half a turn about the bisector of east and north. -/
noncomputable def enuToNedTurn : Quaternion ℝ := ⟨0, √(1 / 2), √(1 / 2), 0⟩

/-- The turn of the body from FRD to FLU: half a turn about the forward axis. -/
def frdToFluTurn : Quaternion ℝ := ⟨0, 1, 0, 0⟩

theorem sqrt_half_mul_self : √(1 / 2) * √(1 / 2) = (1 / 2 : ℝ) :=
  Real.mul_self_sqrt (by norm_num)

theorem normSq_enuToNedTurn : enuToNedTurn.normSq = 1 := by
  simp only [Quaternion.normSq, enuToNedTurn, sqrt_half_mul_self]
  norm_num

theorem normSq_frdToFluTurn : frdToFluTurn.normSq = 1 := by
  simp [Quaternion.normSq, frdToFluTurn]

theorem hamilton_enuToNed (v : Vector3 ℝ) :
    (Vector3.ofArray (enuToNedF32 v.toArray : Vector ℝ 3)).hamilton =
      rotate enuToNedTurn.hamilton v.hamilton := by
  have hs := sqrt_half_mul_self
  have hswap : Vector3.ofArray (enuToNedF32 v.toArray : Vector ℝ 3) = ⟨v.y, v.x, -v.z⟩ := rfl
  rw [hswap]
  ext <;> simp only [rotate, enuToNedTurn, Quaternion.re_hamilton, Quaternion.imI_hamilton,
    Quaternion.imJ_hamilton, Quaternion.imK_hamilton, Vector3.re_hamilton, Vector3.imI_hamilton,
    Vector3.imJ_hamilton, Vector3.imK_hamilton, re_mul, imI_mul, imJ_mul, imK_mul, re_star,
    imI_star, imJ_star, imK_star]
  · ring
  · linear_combination -2 * v.y * hs
  · linear_combination -2 * v.x * hs
  · linear_combination 2 * v.z * hs

theorem hamilton_fluToFrd (v : Vector3 ℝ) :
    (Vector3.ofArray (fluToFrdF32 v.toArray : Vector ℝ 3)).hamilton =
      rotate frdToFluTurn.hamilton v.hamilton := by
  ext <;> simp [rotate, frdToFluTurn, Vector3.ofArray, Vector3.toArray, fluToFrdF32]

/-- The converted attitude is the product of the three turns; the code has the other sign. -/
theorem hamilton_enuQuatToNed (q : Quaternion ℝ) :
    (Quaternion.ofArray (enuQuatToNedF32 q.toArray : Vector ℝ 4)).hamilton =
      -(enuToNedTurn.hamilton * q.hamilton * frdToFluTurn.hamilton) := by
  ext <;> simp [enuToNedTurn, frdToFluTurn, Quaternion.ofArray, Quaternion.toArray,
    enuQuatToNedF32, fracOneSqrt2]
  all_goals ring

theorem normSq_enuQuatToNed (hq : q.normSq = 1) :
    (Quaternion.ofArray (enuQuatToNedF32 q.toArray : Vector ℝ 4)).normSq = 1 := by
  rw [← normSq_hamilton, hamilton_enuQuatToNed, normSq_neg, map_mul, map_mul,
    unit_hamilton normSq_enuToNedTurn, unit_hamilton hq, unit_hamilton normSq_frdToFluTurn,
    one_mul, one_mul]

/-- Converting the attitude and the body vector converts the world vector. -/
theorem rotateVector_enuQuatToNed (q : Quaternion ℝ) (v : Vector3 ℝ) :
    (Quaternion.ofArray (enuQuatToNedF32 q.toArray : Vector ℝ 4)).rotateVector
        (.ofArray (fluToFrdF32 v.toArray)) =
      .ofArray (enuToNedF32 (q.rotateVector v).toArray) := by
  apply Vector3.hamilton_injective
  have hbody : frdToFluTurn.hamilton * frdToFluTurn.hamilton = -1 := by
    ext <;> simp [frdToFluTurn]
  rw [hamilton_rotateVector, hamilton_enuQuatToNed, rotate_neg, hamilton_fluToFrd, rotate_mul,
    ← rotate_mul frdToFluTurn.hamilton, hbody, rotate_neg_one, rotate_mul, hamilton_enuToNed,
    hamilton_rotateVector]

/-! ## The convention -/

/-- The laws of the attitude convention at two attitudes, two vectors and a period. -/
structure AttitudeConvention (q p : Quaternion ℝ) (v w : Vector3 ℝ) (dt : ℝ) : Prop where
  dot : (q.rotateVector v).dot (q.rotateVector w) = v.dot w
  matrix : (q.toRotationMatrix.mul v.toColumn).toVec3 = q.rotateVector v
  compose : (q.mul p).rotateVector v = q.rotateVector (p.rotateVector v)
  worldToBody : .ofArray (rotateWorldToBody q.toArray (q.rotateVector v).toArray) = v
  bodyToWorld : q.rotateVector (.ofArray (rotateWorldToBody q.toArray v.toArray)) = v
  gazebo :
    (Quaternion.ofArray (enuQuatToNedF32 q.toArray : Vector ℝ 4)).rotateVector
        (.ofArray (fluToFrdF32 v.toArray)) =
      .ofArray (enuToNedF32 (q.rotateVector v).toArray)
  gazeboUnit : (Quaternion.ofArray (enuQuatToNedF32 q.toArray : Vector ℝ 4)).normSq = 1
  bodyRate : ∀ now prev : Quaternion ℝ, now = q ∨ now = q.neg → prev = p ∨ prev = p.neg →
    let arrived := prev.mul (.ofHalfTurn (halfTurn (bodyRate now.toArray prev.toArray dt) dt))
    arrived = now ∨ arrived = now.neg

theorem arrives {now prev : Quaternion ℝ} {dt : ℝ} (hnow : now.normSq = 1)
    (hprev : prev.normSq = 1) (hdt : dt ≠ 0) :
    let arrived := prev.mul (.ofHalfTurn (halfTurn (bodyRate now.toArray prev.toArray dt) dt))
    arrived = now ∨ arrived = now.neg := by
  intro arrived
  have hmul : arrived.hamilton = arcSign now prev • now.hamilton := mul_bodyRate hnow hprev hdt
  by_cases hsign : 0 ≤ (star prev.hamilton * now.hamilton).re
  · left
    apply Quaternion.hamilton_injective
    rw [hmul, arcSign, if_pos hsign, one_smul]
  · right
    apply Quaternion.hamilton_injective
    rw [hmul, arcSign, if_neg hsign, hamilton_neg]
    ext <;> simp

theorem normSq_of_sign {now : Quaternion ℝ} (hq : q.normSq = 1) (h : now = q ∨ now = q.neg) :
    now.normSq = 1 := by
  rcases h with rfl | rfl
  · exact hq
  · rw [normSq_neg_eq, hq]

/-- In exact real arithmetic every unit attitude and every vector obey the one convention, in the
core, the synthesizer and the Gazebo plugin. -/
theorem attitude_convention {q p : Quaternion ℝ} (v w : Vector3 ℝ) {dt : ℝ}
    (hq : q.normSq = 1) (hp : p.normSq = 1) (hdt : dt ≠ 0) : AttitudeConvention q p v w dt where
  dot := by
    rw [dot_eq_re, dot_eq_re, hamilton_rotateVector, hamilton_rotateVector]
    exact re_rotate_mul_star (unit_hamilton hq) _ _
  matrix := toRotationMatrix_apply hq v
  compose := by
    apply Vector3.hamilton_injective
    simp only [hamilton_rotateVector, hamilton_mul, rotate_mul]
  worldToBody := by
    apply Vector3.hamilton_injective
    rw [hamilton_rotateWorldToBody hq, hamilton_rotateVector]
    exact rotate_star_rotate (unit_hamilton hq) _
  bodyToWorld := by
    apply Vector3.hamilton_injective
    rw [hamilton_rotateVector, hamilton_rotateWorldToBody hq]
    exact rotate_rotate_star (unit_hamilton hq) _
  gazebo := rotateVector_enuQuatToNed q v
  gazeboUnit := normSq_enuQuatToNed hq
  bodyRate := by
    intro now prev hnow hprev
    exact arrives (normSq_of_sign hq hnow) (normSq_of_sign hp hprev) hdt

theorem attitude_convention_tilted :
    AttitudeConvention ⟨3 / 5, 0, 4 / 5, 0⟩ ⟨0, 0, 0, -1⟩ ⟨1, 2, 3⟩ ⟨-1, 0, 5⟩ (1 / 250) :=
  attitude_convention _ _ (by norm_num [Quaternion.normSq]) (by norm_num [Quaternion.normSq])
    (by norm_num)

end Aviate

end SynthesisAttitudeConvention

section SynthesisWorld

/-!
# The environment of a simulated vehicle

The environment at a position, from the external world models (`synthesis/environment.rs` of both
simulator crates, which have the same text). A model may refuse a position; following the vehicle
then keeps that model's last value.
-/

namespace Aviate

/-- `f64::from`. -/
class Widen (F G : Type) where
  widen : F → G

export Widen (widen)

instance : Widen F32 F64 where
  widen v := .ofFloat v.toDouble

namespace Synthesis

/-- The external world models. A plane states the origin it was made at. -/
structure WorldModels where
  LocalTangentPlane : Type
  DecimalYear : Type
  AtmosphereState : Type
  PositionError : Type
  AtmosphereError : Type
  GeomagError : Type
  newPlane : GeodeticPosition → Except PositionError LocalTangentPlane
  origin : LocalTangentPlane → GeodeticPosition
  toGeodetic : LocalTangentPlane → Ned → GeodeticPosition
  normalGravity : GeodeticPosition → Except PositionError F64
  /-- `Isa.at` a height above mean sea level. -/
  isaAt : F64 → Except AtmosphereError AtmosphereState
  pressurePa : AtmosphereState → F64
  temperatureC : AtmosphereState → F64
  /-- The Earth field, NED, in nanotesla. -/
  wmm2025 : GeodeticPosition → DecimalYear → Except GeomagError (Vector F64 3)
  origin_newPlane : ∀ {position plane}, newPlane position = .ok plane → origin plane = position

inductive SynthesisError (world : WorldModels) where
  | origin (error : world.PositionError)
  | earthField (error : world.GeomagError)
  | atmosphere (error : world.AtmosphereError)

structure Environment (world : WorldModels) (F : Type) where
  position : GeodeticPosition
  gravityMps2 : F64
  air : world.AtmosphereState
  fieldNedUt : Vector F 3

variable {world : WorldModels} {F : Type}

/-- The standard atmosphere at the position's height, taken as that above mean sea level. -/
def airAt (world : WorldModels) (position : GeodeticPosition) :
    Except world.AtmosphereError world.AtmosphereState :=
  world.isaAt position.ellipsoidalHeightM

section

variable [Narrow F64 F]

/-- The Earth field in microtesla. -/
def fieldAt (world : WorldModels) (position : GeodeticPosition) (epoch : world.DecimalYear) :
    Except world.GeomagError (Vector F 3) :=
  (world.wmm2025 position epoch).map fun field =>
    field.map fun nanotesla => narrow (F64.ofFloat (nanotesla.toFloat / 1000))

/-- `if let Ok(value)`: the model's value, or the last one when it refuses. -/
def orLast {ε α : Type} (answer : Except ε α) (last : α) : α :=
  match answer with
  | .ok value => value
  | .error _ => last

namespace Environment

/-- `Environment::at`. -/
def ofPosition (position : GeodeticPosition) (epoch : world.DecimalYear) :
    Except (SynthesisError world) (Environment world F) := do
  let gravityMps2 ← (world.normalGravity position).mapError .origin
  let air ← (airAt world position).mapError .atmosphere
  let fieldNedUt ← (fieldAt world position epoch).mapError .earthField
  return { position, gravityMps2, air, fieldNedUt }

/-- The position of local coordinates in a plane. -/
def geodetic [Widen F F64] (plane : world.LocalTangentPlane) (ned : Vector F 3) :
    GeodeticPosition :=
  world.toGeodetic plane ⟨widen ned[0], widen ned[1], widen ned[2]⟩

/-- Move to local coordinates; a model that refuses the new position keeps its last value. -/
def follow [Widen F F64] (self : Environment world F) (plane : world.LocalTangentPlane)
    (ned : Vector F 3) (epoch : world.DecimalYear) : Environment world F :=
  let position := geodetic plane ned
  { position
    gravityMps2 := orLast (world.normalGravity position) self.gravityMps2
    air := orLast (airAt world position) self.air
    fieldNedUt := orLast (fieldAt world position epoch) self.fieldNedUt }

end Environment

end

section

variable {ε α : Type} {answer : Except ε α} {last last' : α}

theorem orLast_congr (h : last = last' ∨ answer.isOk = true) :
    orLast answer last = orLast answer last' := by
  cases answer with
  | ok value => rfl
  | error e =>
    rcases h with h | h
    · exact h
    · exact absurd h Bool.false_ne_true

theorem orLast_refused (h : answer.isOk = false) : orLast answer last = last := by
  cases answer with
  | ok value => exact absurd h.symm Bool.false_ne_true
  | error e => rfl

end

end Synthesis

end Aviate

end SynthesisWorld

section SynthesisNoise

/-!
# Sensor noise

The noise tiers and the generator of the in-process simulator (`direct/src/synthesis/noise.rs`).
The noise of tier `off` leaves a reading and the generator alone.
-/

namespace Aviate.Synthesis

variable {world : WorldModels} {F : Type}

inductive DirectNoiseTier where
  | off
  | consumer
  | industrial
  | tactical
deriving DecidableEq, Repr

namespace DirectNoiseTier

/-- A standard deviation for each tier; there is none without noise. -/
def sigma [Scalar F] (consumer industrial tactical : ℚ) : DirectNoiseTier → F
  | off => lit 0
  | .consumer => lit consumer
  | .industrial => lit industrial
  | .tactical => lit tactical

variable [Scalar F]

def accelSigmaMps2 : DirectNoiseTier → F := sigma (8 / 100) (4 / 100) (2 / 100)

def gyroSigmaRps : DirectNoiseTier → F := sigma (8 / 1000) (4 / 1000) (2 / 1000)

def baroSigmaPa : DirectNoiseTier → F := sigma 10 5 (25 / 10)

def magSigmaUt : DirectNoiseTier → F := sigma (4 / 10) (2 / 10) (1 / 10)

def gnssHSigmaM : DirectNoiseTier → F := sigma (5 / 10) (35 / 100) (2 / 10)

def gnssVSigmaM : DirectNoiseTier → F := sigma (8 / 10) (5 / 10) (3 / 10)

def gnssVelSigmaMps : DirectNoiseTier → F := sigma (5 / 100) (3 / 100) (2 / 100)

end DirectNoiseTier

/-! ## The generator -/

structure DirectNoiseRng (F : Type) where
  state : UInt64
  cachedNormal : Option F

namespace DirectNoiseRng

def new (seed : UInt64) : DirectNoiseRng F := ⟨seed, none⟩

/-- `splitmix64`. -/
def nextU64 (self : DirectNoiseRng F) : UInt64 × DirectNoiseRng F :=
  let state := self.state + 0x9E3779B97F4A7C15
  let z := state
  let z := (z ^^^ (z >>> 30)) * 0xBF58476D1CE4E5B9
  let z := (z ^^^ (z >>> 27)) * 0x94D049BB133111EB
  (z ^^^ (z >>> 31), { self with state })

/-- A uniform value in `[0, 1)`, from the top 24 bits. -/
def nextUniform [Scalar F] (self : DirectNoiseRng F) : F × DirectNoiseRng F :=
  let (word, self) := self.nextU64
  (lit (word >>> 40).toNat * (lit 1 / lit (2 ^ 24)), self)

end DirectNoiseRng

/-- `logf` of the external `libm` crate. -/
class LibmLog (F : Type) where
  logf : F → F

export LibmLog (logf)

instance : LibmLog F32 where
  logf a := .ofFloat a.toFloat.log

/-- A source of normal deviates. -/
class NormalSource (F : Type) where
  nextNormal : DirectNoiseRng F → F × DirectNoiseRng F

export NormalSource (nextNormal)

/-- Box and Muller: two uniform values give two deviates, and the second is kept. -/
instance boxMuller [Scalar F] [Libm F] [LibmLog F] : NormalSource F where
  nextNormal rng :=
    match rng.cachedNormal with
    | some z => (z, { rng with cachedNormal := none })
    | none =>
      let (u1, rng) := rng.nextUniform
      let u1 := Scalar.max u1 (lit (1 / 10000000))
      let (u2, rng) := rng.nextUniform
      let r := sqrtf (-lit 2 * logf u1)
      let theta := lit 2 * pi * u2
      let z0 := r * cosf theta
      let z1 := r * sinf theta
      (z0, { rng with cachedNormal := some z1 })

/-! ## Noise on the readings -/

section

variable [Scalar F] [NormalSource F]

/-- Add a deviate to every axis, in order. -/
def shakeAxes {n : Nat} (axes : Vector F n) (sigma : F) (rng : DirectNoiseRng F) :
    Vector F n × DirectNoiseRng F :=
  (List.finRange n).foldl (fun (axes, rng) (axis : Fin n) =>
    let (z, rng) := nextNormal rng
    (axes.set axis.val (axes[axis] + z * sigma) axis.isLt, rng)) (axes, rng)

def applyImuNoise (imu : RawImuReading F) (tier : DirectNoiseTier) (rng : DirectNoiseRng F) :
    RawImuReading F × DirectNoiseRng F :=
  if tier = .off then (imu, rng)
  else
    let (accel, rng) := shakeAxes imu.accel tier.accelSigmaMps2 rng
    let (gyro, rng) := shakeAxes imu.gyro tier.gyroSigmaRps rng
    ({ imu with accel, gyro }, rng)

def applyBaroNoise (baro : RawBaroReading F) (tier : DirectNoiseTier) (rng : DirectNoiseRng F) :
    RawBaroReading F × DirectNoiseRng F :=
  if tier = .off then (baro, rng)
  else
    let (z, rng) := nextNormal rng
    ({ baro with pressurePa := baro.pressurePa + z * tier.baroSigmaPa }, rng)

def applyMagNoise (mag : RawMagReading F) (tier : DirectNoiseTier) (rng : DirectNoiseRng F) :
    RawMagReading F × DirectNoiseRng F :=
  if tier = .off then (mag, rng)
  else
    let (fieldUt, rng) := shakeAxes mag.fieldUt tier.magSigmaUt rng
    ({ fieldUt }, rng)

/-- A fix that is no well-formed position has no frame to move in and keeps its coordinates. -/
def applyGnssNoise [Narrow F64 F] [Widen F F64] (world : WorldModels) (gnss : RawGnssReading F)
    (tier : DirectNoiseTier) (rng : DirectNoiseRng F) : RawGnssReading F × DirectNoiseRng F :=
  if tier = .off then (gnss, rng)
  else
    let (zn, rng) := nextNormal rng
    let dn := zn * tier.gnssHSigmaM
    let (ze, rng) := nextNormal rng
    let de := ze * tier.gnssHSigmaM
    let (za, rng) := nextNormal rng
    let dAlt := za * tier.gnssVSigmaM
    let position := gnss.positionNed
    let positionNed := #v[position[0] + dn, position[1] + de, position[2] - dAlt]
    let altM := gnss.altM + dAlt
    let fix : GeodeticPosition := ⟨gnss.latDeg, gnss.lonDeg, widen altM⟩
    let (latDeg, lonDeg) :=
      match world.newPlane fix with
      | .ok frame =>
        let moved := world.toGeodetic frame ⟨widen dn, widen de, .ofFloat 0⟩
        (moved.latitudeDeg, moved.longitudeDeg)
      | .error _ => (gnss.latDeg, gnss.lonDeg)
    let (velNed, rng) := shakeAxes gnss.velNed tier.gnssVelSigmaMps rng
    ({ gnss with positionNed, altM, latDeg, lonDeg, velNed }, rng)

end

section Off

variable [Scalar F] [NormalSource F] {rng : DirectNoiseRng F}

@[simp] theorem applyImuNoise_off (imu : RawImuReading F) :
    applyImuNoise imu .off rng = (imu, rng) := if_pos rfl

@[simp] theorem applyBaroNoise_off (baro : RawBaroReading F) :
    applyBaroNoise baro .off rng = (baro, rng) := if_pos rfl

@[simp] theorem applyMagNoise_off (mag : RawMagReading F) :
    applyMagNoise mag .off rng = (mag, rng) := if_pos rfl

@[simp] theorem applyGnssNoise_off [Narrow F64 F] [Widen F F64] (gnss : RawGnssReading F) :
    applyGnssNoise world gnss .off rng = (gnss, rng) := if_pos rfl

end Off

end Aviate.Synthesis

end SynthesisNoise

section SynthesisStep

/-!
# The step synthesizer

`StepSynthesizer` (`xil/src/synthesis.rs`): one sensor packet for each new step of the simulator,
made from two successive states. `SimImuData` and its siblings have the fields of the raw readings
of the HAL, which stand for them here.
-/

namespace Aviate.Synthesis

variable {world : WorldModels} {F : Type}

/-- Kinematics a simulator states directly. -/
structure MeasuredKinematics (F : Type) where
  velocityNedMps : Vector F 3
  bodyRatesRps : Vector F 3
  specificForceBodyMps2 : Vector F 3

/-- One read of the true state. -/
structure TruthSample (F : Type) where
  timeUs : UInt64
  resetGeneration : UInt32
  step : UInt64
  positionNedM : Vector F 3
  /-- `[w, x, y, z]`, body to world. -/
  attitude : Vector F 4
  measured : Option (MeasuredKinematics F)

structure SimSensorPacket (F : Type) where
  timestampUs : UInt64
  presenceMask : UInt16
  imu : Option (RawImuReading F)
  baro : Option (RawBaroReading F)
  mag : Option (RawMagReading F)
  gnss : Option (RawGnssReading F)
  resetGeneration : Option UInt32

structure StepSample (F : Type) where
  packet : SimSensorPacket F
  deltaUs : UInt64
  simStep : UInt64

structure StepSynthesizer (world : WorldModels) (F : Type) where
  plane : world.LocalTangentPlane
  epoch : world.DecimalYear
  environment : Environment world F
  prev : Option (TruthSample F)
  prevNedVel : Option (Vector F 3)

/-- `ACCELEROMETER | GYROSCOPE | MAGNETOMETER | ABSOLUTE_PRESSURE`. -/
def sensorPresence : UInt16 := 0x03FF

section

variable [Scalar F]

/-- Velocity, body rate and specific force from two successive states. Normal gravity is positive,
so the bounds of the clamps are ordered. -/
def derivedKinematics (truth prev : TruthSample F) (dt : F) (prevNedVel : Option (Vector F 3))
    (gravity : F) : Vector F 3 × Vector F 3 × Vector F 3 :=
  let nowNedPos := truth.positionNedM
  let prevNedPos := prev.positionNedM
  let nowNedVel := #v[(nowNedPos[0] - prevNedPos[0]) / dt, (nowNedPos[1] - prevNedPos[1]) / dt,
    (nowNedPos[2] - prevNedPos[2]) / dt]
  let gyro := bodyRate truth.attitude prev.attitude dt
  let accelInertialNed :=
    match prevNedVel with
    | some prevNedVel =>
      let lim := lit 3 * gravity
      #v[Scalar.clamp ((nowNedVel[0] - prevNedVel[0]) / dt) (-lim) lim,
         Scalar.clamp ((nowNedVel[1] - prevNedVel[1]) / dt) (-lim) lim,
         Scalar.clamp ((nowNedVel[2] - prevNedVel[2]) / dt) (-lim) lim]
    | none => #v[lit 0, lit 0, lit 0]
  let accelNed := #v[accelInertialNed[0], accelInertialNed[1], accelInertialNed[2] - gravity]
  (nowNedVel, gyro, rotateWorldToBody truth.attitude accelNed)

variable [Narrow F64 F]

/-- The packet of two successive states, and the velocity of the later one. -/
def synthesizePacket (truth prev : TruthSample F) (deltaUs : UInt64)
    (prevNedVel : Option (Vector F 3)) (environment : Environment world F) :
    SimSensorPacket F × Vector F 3 :=
  let gravity : F := narrow environment.gravityMps2
  let dt : F := microSeconds deltaUs.toNat
  let (nowNedVel, gyro, accelBody) :=
    match truth.measured with
    | some measured =>
      (measured.velocityNedMps, measured.bodyRatesRps, measured.specificForceBodyMps2)
    | none => derivedKinematics truth prev dt prevNedVel gravity
  let imu : RawImuReading F := { accel := accelBody, gyro, temperature := some (lit 25) }
  let baro : RawBaroReading F :=
    { pressurePa := narrow (world.pressurePa environment.air)
      temperatureC := narrow (world.temperatureC environment.air)
      differentialPressurePa := none
      pressureAltitudeM := none }
  let mag : RawMagReading F :=
    { fieldUt := rotateWorldToBody truth.attitude environment.fieldNedUt }
  let position := environment.position
  let gnss : RawGnssReading F :=
    { latDeg := position.latitudeDeg
      lonDeg := position.longitudeDeg
      altM := narrow position.ellipsoidalHeightM
      positionNed := truth.positionNedM
      velNed := nowNedVel
      fix := .threeD
      satellites := 14
      hAcc := lit (1 / 2)
      vAcc := lit (8 / 10) }
  ({ timestampUs := truth.timeUs
     presenceMask := sensorPresence
     imu := some imu
     baro := some baro
     mag := some mag
     gnss := some gnss
     resetGeneration := some truth.resetGeneration }, nowNedVel)

namespace StepSynthesizer

variable [Widen F F64]

/-- A synthesizer whose readings are made around an origin. -/
def new (origin : GeodeticPosition) (epoch : world.DecimalYear) :
    Except (SynthesisError world) (StepSynthesizer world F) := do
  let plane ← (world.newPlane origin).mapError .origin
  let environment ← Environment.ofPosition (world.origin plane) epoch
  return { plane, epoch, environment, prev := none, prevNedVel := none }

/-- Forget all history. -/
def reset (self : StepSynthesizer world F) : StepSynthesizer world F :=
  { self with prev := none, prevNedVel := none }

/-- A state that starts no sample but is the next one's past. -/
def anchor (self : StepSynthesizer world F) (truth : TruthSample F) :
    StepSynthesizer world F × Option (StepSample F) :=
  ({ self with prev := some truth, prevNedVel := none }, none)

/-- The sample of a new step. -/
def advance (self : StepSynthesizer world F) (truth prev : TruthSample F) (deltaUs : UInt64) :
    StepSynthesizer world F × Option (StepSample F) :=
  let environment := self.environment.follow self.plane truth.positionNedM self.epoch
  let (packet, nedVel) := synthesizePacket truth prev deltaUs self.prevNedVel environment
  ({ self with environment, prev := some truth, prevNedVel := some nedVel },
    some { packet, deltaUs, simStep := truth.step })

/-- The sample for `truth`, if it starts a new step. -/
def next (self : StepSynthesizer world F) (truth : TruthSample F) :
    StepSynthesizer world F × Option (StepSample F) :=
  match self.prev with
  | some prev =>
    if prev.resetGeneration = truth.resetGeneration ∧ prev.timeUs ≤ truth.timeUs then
      let deltaUs := truth.timeUs - prev.timeUs
      if deltaUs = 0 then (self, none) else self.advance truth prev deltaUs
    else self.anchor truth
  | none => self.anchor truth

end StepSynthesizer

end

end Aviate.Synthesis

end SynthesisStep

section SynthesisDirect

/-!
# The direct synthesizer

`DirectSynthesizer` (`xil/direct/src/synthesis.rs`), written apart from the step synthesizer: it
decimates the aiding sensors, adds noise on the way, and follows the vehicle on an anchor too.
`DirectTruthSample` has the fields of `TruthSample`.
-/

namespace Aviate.Synthesis

variable {world : WorldModels} {F : Type}

structure DirectOrigin (world : WorldModels) where
  position : GeodeticPosition
  epoch : world.DecimalYear

/-- The least periods between readings; a period of 0 reads on every step. -/
structure DirectSensorRates where
  baroPeriodUs : UInt64
  magPeriodUs : UInt64
  gnssPeriodUs : UInt64

namespace DirectSensorRates

def everyStep : DirectSensorRates := ⟨0, 0, 0⟩

protected def default : DirectSensorRates := ⟨20000, 10000, 100000⟩

end DirectSensorRates

structure DirectStepSample (F : Type) where
  timestampUs : UInt64
  deltaUs : UInt64
  simStep : UInt64
  resetGeneration : UInt32
  imu : RawImuReading F
  baro : Option (RawBaroReading F)
  mag : Option (RawMagReading F)
  gnss : Option (RawGnssReading F)

structure DirectSynthesizer (world : WorldModels) (F : Type) where
  origin : DirectOrigin world
  plane : world.LocalTangentPlane
  environment : Environment world F
  rates : DirectSensorRates
  noiseTier : DirectNoiseTier
  rng : DirectNoiseRng F
  prev : Option (TruthSample F)
  prevNedVel : Option (Vector F 3)
  lastBaroUs : Option UInt64
  lastMagUs : Option UInt64
  lastGnssUs : Option UInt64

def periodDue (lastUs : Option UInt64) (nowUs periodUs : UInt64) : Bool :=
  match lastUs with
  | none => true
  | some prevUs => periodUs ≤ nowUs.saturatingSub prevUs

namespace Direct

variable [Scalar F]

def rotateWorldToBody (qWxyz : Vector F 4) (vWorld : Vector F 3) : Vector F 3 :=
  let w := qWxyz[0]
  let x := qWxyz[1]
  let y := qWxyz[2]
  let z := qWxyz[3]
  let r00 := lit 1 - lit 2 * (y * y + z * z)
  let r01 := lit 2 * (x * y + w * z)
  let r02 := lit 2 * (x * z - w * y)
  let r10 := lit 2 * (x * y - w * z)
  let r11 := lit 1 - lit 2 * (x * x + z * z)
  let r12 := lit 2 * (y * z + w * x)
  let r20 := lit 2 * (x * z + w * y)
  let r21 := lit 2 * (y * z - w * x)
  let r22 := lit 1 - lit 2 * (x * x + y * y)
  #v[r00 * vWorld[0] + r01 * vWorld[1] + r02 * vWorld[2],
     r10 * vWorld[0] + r11 * vWorld[1] + r12 * vWorld[2],
     r20 * vWorld[0] + r21 * vWorld[1] + r22 * vWorld[2]]

def bodyRateFromQuats (now prev : Vector F 4) (dtS : F) : Vector F 3 :=
  let qdW := now[0] * prev[0] + now[1] * prev[1] + now[2] * prev[2] + now[3] * prev[3]
  let qdX := -now[0] * prev[1] + now[1] * prev[0] - now[2] * prev[3] + now[3] * prev[2]
  let qdY := -now[0] * prev[2] + now[1] * prev[3] + now[2] * prev[0] - now[3] * prev[1]
  let qdZ := -now[0] * prev[3] - now[1] * prev[2] + now[2] * prev[1] + now[3] * prev[0]
  let sign := if Scalar.le (lit 0) qdW then lit 1 else -lit 1
  let omegaNed := #v[lit 2 * sign * qdX / dtS, lit 2 * sign * qdY / dtS, lit 2 * sign * qdZ / dtS]
  rotateWorldToBody now omegaNed

def derivedKinematics (truth prev : TruthSample F) (dtS : F) (prevNedVel : Option (Vector F 3))
    (gravity : F) : Vector F 3 × Vector F 3 × Vector F 3 :=
  let nowVel := #v[(truth.positionNedM[0] - prev.positionNedM[0]) / dtS,
    (truth.positionNedM[1] - prev.positionNedM[1]) / dtS,
    (truth.positionNedM[2] - prev.positionNedM[2]) / dtS]
  let gyro := bodyRateFromQuats truth.attitude prev.attitude dtS
  let accelInertialNed :=
    match prevNedVel with
    | some vPrev =>
      let lim := lit 3 * gravity
      #v[Scalar.clamp ((nowVel[0] - vPrev[0]) / dtS) (-lim) lim,
         Scalar.clamp ((nowVel[1] - vPrev[1]) / dtS) (-lim) lim,
         Scalar.clamp ((nowVel[2] - vPrev[2]) / dtS) (-lim) lim]
    | none => #v[lit 0, lit 0, lit 0]
  let specificForceNed :=
    #v[accelInertialNed[0], accelInertialNed[1], accelInertialNed[2] - gravity]
  (nowVel, gyro, rotateWorldToBody truth.attitude specificForceNed)

end Direct

namespace DirectSynthesizer

variable [Scalar F] [NormalSource F] [Narrow F64 F] [Widen F F64]

omit [Scalar F] [NormalSource F] in
def new (origin : DirectOrigin world) (rates : DirectSensorRates) (noiseTier : DirectNoiseTier)
    (noiseSeed : UInt64) : Except (SynthesisError world) (DirectSynthesizer world F) := do
  let plane ← (world.newPlane origin.position).mapError .origin
  let environment ← Environment.ofPosition origin.position origin.epoch
  return { origin, plane, environment, rates, noiseTier, rng := .new noiseSeed, prev := none
           prevNedVel := none, lastBaroUs := none, lastMagUs := none, lastGnssUs := none }

/-- Forget the history and the decimation times. -/
def reset (self : DirectSynthesizer world F) : DirectSynthesizer world F :=
  { self with
    prev := none
    prevNedVel := none
    lastBaroUs := none
    lastMagUs := none
    lastGnssUs := none }

def synthesizeBaro (self : DirectSynthesizer world F) (timeUs : UInt64) :
    Option (RawBaroReading F) × DirectSynthesizer world F :=
  if !periodDue self.lastBaroUs timeUs self.rates.baroPeriodUs then (none, self)
  else
    let baro : RawBaroReading F :=
      { pressurePa := narrow (world.pressurePa self.environment.air)
        temperatureC := narrow (world.temperatureC self.environment.air)
        differentialPressurePa := none
        pressureAltitudeM := none }
    let (baro, rng) := applyBaroNoise baro self.noiseTier self.rng
    (some baro, { self with lastBaroUs := some timeUs, rng })

def synthesizeMag (self : DirectSynthesizer world F) (timeUs : UInt64) (attitude : Vector F 4) :
    Option (RawMagReading F) × DirectSynthesizer world F :=
  if !periodDue self.lastMagUs timeUs self.rates.magPeriodUs then (none, self)
  else
    let mag : RawMagReading F :=
      { fieldUt := Direct.rotateWorldToBody attitude self.environment.fieldNedUt }
    let (mag, rng) := applyMagNoise mag self.noiseTier self.rng
    (some mag, { self with lastMagUs := some timeUs, rng })

def synthesizeGnss (self : DirectSynthesizer world F) (timeUs : UInt64)
    (positionNedM velNed : Vector F 3) :
    Option (RawGnssReading F) × DirectSynthesizer world F :=
  if !periodDue self.lastGnssUs timeUs self.rates.gnssPeriodUs then (none, self)
  else
    let pos := self.environment.position
    let gnss : RawGnssReading F :=
      { latDeg := pos.latitudeDeg
        lonDeg := pos.longitudeDeg
        altM := narrow pos.ellipsoidalHeightM
        positionNed := positionNedM
        velNed
        fix := .threeD
        hAcc := lit (1 / 2)
        vAcc := lit (8 / 10)
        satellites := 14 }
    let (gnss, rng) := applyGnssNoise world gnss self.noiseTier self.rng
    (some gnss, { self with lastGnssUs := some timeUs, rng })

/-- A state that starts no sample but is the next one's past. The environment follows it. -/
def anchor (self : DirectSynthesizer world F) (truth : TruthSample F) :
    DirectSynthesizer world F × Option (DirectStepSample F) :=
  let self := self.reset
  let environment := self.environment.follow self.plane truth.positionNedM self.origin.epoch
  ({ self with environment, prev := some truth }, none)

/-- The sample of a new step. -/
def advance (self : DirectSynthesizer world F) (truth prev : TruthSample F) (deltaUs : UInt64) :
    DirectSynthesizer world F × Option (DirectStepSample F) :=
  let environment := self.environment.follow self.plane truth.positionNedM self.origin.epoch
  let self := { self with environment }
  let gravity : F := narrow self.environment.gravityMps2
  let dtS : F := microSeconds deltaUs.toNat
  let (nedVel, gyro, accel) :=
    match truth.measured with
    | some m => (m.velocityNedMps, m.bodyRatesRps, m.specificForceBodyMps2)
    | none => Direct.derivedKinematics truth prev dtS self.prevNedVel gravity
  let imu : RawImuReading F := { accel, gyro, temperature := some (lit 25) }
  let (imu, rng) := applyImuNoise imu self.noiseTier self.rng
  let self := { self with rng }
  let (baro, self) := self.synthesizeBaro truth.timeUs
  let (mag, self) := self.synthesizeMag truth.timeUs truth.attitude
  let (gnss, self) := self.synthesizeGnss truth.timeUs truth.positionNedM nedVel
  ({ self with prev := some truth, prevNedVel := some nedVel },
    some { timestampUs := truth.timeUs, deltaUs, simStep := truth.step
           resetGeneration := truth.resetGeneration, imu, baro, mag, gnss })

/-- The readings for `truth` when simulation time advances. -/
def synthesize (self : DirectSynthesizer world F) (truth : TruthSample F) :
    DirectSynthesizer world F × Option (DirectStepSample F) :=
  match self.prev with
  | some prev =>
    if prev.resetGeneration = truth.resetGeneration ∧ prev.timeUs ≤ truth.timeUs then
      let deltaUs := truth.timeUs.saturatingSub prev.timeUs
      if deltaUs = 0 then (self, none) else self.advance truth prev deltaUs
    else self.anchor truth
  | none => self.anchor truth

end DirectSynthesizer

end Aviate.Synthesis

end SynthesisDirect

section UsbSerial

/-!
# The USB serial link of the flight board

The receive ring of the USB driver (`stm32h7/src/usb_cdc.rs`), the frame parser, the decoding of
messages and the software request for the bootloader, which is typed on the same link
(`micoair-h743-v2/src/usb_cdc.rs`). The request is part of one build and not of the other.

What is sent is left out.
-/

namespace Aviate.Usb

open Mavlink

/-! ## The receive ring -/

def rxBufSize : Nat := 512

/-- `SERVICE_MAX_BYTES`. -/
def serviceMaxBytes : Nat := 128

/-- One cell stays free: the ring is empty when the cursors meet. -/
structure Stm32h7UsbCdc where
  rxBuf : Vector UInt8 rxBufSize
  rxHead : Nat
  rxTail : Nat

namespace Stm32h7UsbCdc

def new : Stm32h7UsbCdc := ⟨.replicate rxBufSize 0, 0, 0⟩

def rxPush (self : Stm32h7UsbCdc) (byte : UInt8) : Bool × Stm32h7UsbCdc :=
  let next := (self.rxHead + 1) % rxBufSize
  if next = self.rxTail then (false, self)
  else (true, { self with rxBuf := self.rxBuf.setIfInBounds self.rxHead byte, rxHead := next })

/-- Push bytes up to the first that finds no room; how many there are. -/
def rxPushSlice (self : Stm32h7UsbCdc) : Bytes → Nat × Stm32h7UsbCdc
  | [] => (0, self)
  | byte :: data =>
    match self.rxPush byte with
    | (false, self) => (0, self)
    | (true, self) =>
      let (count, self) := self.rxPushSlice data
      (count + 1, self)

def rxPop (self : Stm32h7UsbCdc) : Option UInt8 × Stm32h7UsbCdc :=
  if self.rxTail = self.rxHead then (none, self)
  else
    ((self.rxBuf[self.rxTail]?).getD 0 |> some,
      { self with rxTail := (self.rxTail + 1) % rxBufSize })

/-- Pop up to `max` bytes. -/
def rxPopMany (self : Stm32h7UsbCdc) : Nat → Bytes × Stm32h7UsbCdc
  | 0 => ([], self)
  | max + 1 =>
    match self.rxPop with
    | (none, self) => ([], self)
    | (some byte, self) =>
      let (bytes, self) := self.rxPopMany max
      (byte :: bytes, self)

def tryRead (self : Stm32h7UsbCdc) (bufLen : Nat) : Bytes × Stm32h7UsbCdc :=
  self.rxPopMany (min bufLen serviceMaxBytes)

end Stm32h7UsbCdc

/-! ## The frame parser -/

/-- `MAV_BUF_SIZE`. -/
def mavBufSize : Nat := 300

inductive LinkParserState where
  | waitingForStx
  | accumulating (expectedLen : Nat)
deriving DecidableEq, Repr

/-- `buf` is what the source has in `buf[..pos]`. -/
structure LinkParser where
  state : LinkParserState
  buf : Bytes
deriving DecidableEq, Repr

namespace LinkParser

def new : LinkParser := ⟨.waitingForStx, []⟩

/-- The length that a header of ten bytes declares. -/
def declaredLen (buf : Bytes) : Nat :=
  10 + (buf.getD 1 0).toNat + 2 + if buf.getD 2 0 &&& 0x01 ≠ 0 then 13 else 0

/-- Take a byte; whether the frame is complete. -/
def feed (self : LinkParser) (byte : UInt8) : Bool × LinkParser :=
  match self.state with
  | .waitingForStx =>
    if byte = mavlinkStxV2 then (false, ⟨.accumulating 0, [byte]⟩) else (false, self)
  | .accumulating expectedLen =>
    if mavBufSize ≤ self.buf.length then (false, ⟨.waitingForStx, []⟩)
    else
      let buf := self.buf ++ [byte]
      let expectedLen :=
        if buf.length = 10 ∧ expectedLen = 0 then declaredLen buf else expectedLen
      (decide (0 < expectedLen) && decide (expectedLen ≤ buf.length),
        ⟨.accumulating expectedLen, buf⟩)

def parseFrame (self : LinkParser) : Option MavMessage × LinkParser :=
  (match parseMavlinkFrame self.buf with
    | .ok frame => some frame.message
    | .error _ => none,
    ⟨.waitingForStx, []⟩)

end LinkParser

/-! ## Commands -/

/-- Z-Y-X. -/
def quaternionFromEuler (roll pitch yaw : F32) : Quaternion F32 :=
  let half : F32 := lit (1 / 2)
  let cr := cosf (roll * half)
  let sr := sinf (roll * half)
  let cp := cosf (pitch * half)
  let sp := sinf (pitch * half)
  let cy := cosf (yaw * half)
  let sy := sinf (yaw * half)
  { w := cr * cp * cy + sr * sp * sy
    x := sr * cp * cy - cr * sp * sy
    y := cr * sp * cy + sr * cp * sy
    z := cr * cp * sy - sr * sp * cy }

/-- `0.5`. -/
def armThreshold : F32 := ⟨0x3F000000⟩

def attitudeCommand (setpoint : Setpoint F32) (source : CommandSource) : Command F32 where
  mode := .attitude
  setpoint := setpoint
  configModeRequest := none
  sensorOverrides := none
  sequence := 0
  source := source

def decodePacket : MavMessage → Option (SystemCommand F32)
  | .commandLong cmd =>
    if cmd.command = componentArmDisarm then
      if armThreshold.below cmd.param1 then some .arm
      else if cmd.param2.isForceMagic then some .emergencyTerminate
      else some .disarm
    else none
  | .setAttitudeTarget target =>
    some <| .flightControl <| attitudeCommand
      { Setpoint.default with
        attitude := some ⟨target.q[0], target.q[1], target.q[2], target.q[3]⟩
        collectiveThrust := Scalar.clamp target.thrust (lit 0) (lit 1) }
      .gcs
  | .manualControl control =>
    let stick (v : Int16) (scale : F32) : F32 := lit v.toInt / lit 1000 * scale
    some <| .flightControl <| attitudeCommand
      { Setpoint.default with
        attitude := some (quaternionFromEuler (stick control.y (lit (1 / 2)))
          (stick control.x (lit (1 / 2))) (lit 0))
        angularRate := some #v[lit 0, lit 0, stick control.r (lit 1)]
        collectiveThrust := Scalar.clamp (lit control.z.toInt / lit 1000) (lit 0) (lit 1) }
      .pilot
  | _ => none

/-! ## The request for the bootloader -/

/-- 10 seconds of ticks. -/
def dfuTimeoutTicks : UInt32 := 10000

def dfuRetransmitTicks : UInt32 := 200

/-- `buf` is what the source has in `buf[..idx]`. -/
inductive DfuState where
  | idle
  | waitDfu (idx : Nat)
  | waitConfirm (code : UInt16) (buf : Bytes) (lastSent startTick : UInt32)
deriving DecidableEq, Repr

namespace DfuState

/-- `b"dfu"`. -/
def target : Bytes := [0x64, 0x66, 0x75]

def isDigit (byte : UInt8) : Bool := 0x30 ≤ byte && byte ≤ 0x39

def isNewline (byte : UInt8) : Bool := byte = 0x0D || byte = 0x0A

/-- 1000 to 9999, by the cycle counter. -/
def generateDfuCode (cyccnt : UInt32) : UInt16 := 1000 + (cyccnt % 9000).toUInt16

/-- The number that four digits are. -/
def parseCode (bytes : Bytes) : Option UInt16 :=
  if bytes.length < 4 then none
  else if (bytes.take 4).all isDigit then
    some ((bytes.take 4).foldl (fun val b => val * 10 + (b - 0x30).toUInt16) 0)
  else none

/-- What becomes of a byte. -/
inductive Sniffed where
  | passed
  | consumed
  | rebooted
deriving DecidableEq, Repr

/-- `cyccnt` is what a read of the cycle counter gives. -/
def handleDfuProtocol (tick cyccnt : UInt32) (byte : UInt8) : DfuState → Sniffed × DfuState
  | idle => if byte = 0x64 then (.consumed, .waitDfu 1) else (.passed, .idle)
  | waitDfu idx =>
    if target[idx]? = some byte then
      if idx = target.length - 1 then
        (.consumed, .waitConfirm (generateDfuCode cyccnt) [] tick tick)
      else (.consumed, .waitDfu (idx + 1))
    else (.passed, .idle)
  | waitConfirm code buf lastSent startTick =>
    if isNewline byte then
      if 4 ≤ buf.length then
        if parseCode buf = some code then (.rebooted, .waitConfirm code buf lastSent startTick)
        else (.consumed, .idle)
      else (.consumed, .waitConfirm code buf lastSent startTick)
    else if isDigit byte then
      if buf.length < 4 then
        let buf := buf ++ [byte]
        if buf.length = 4 ∧ parseCode buf = some code then
          (.rebooted, .waitConfirm code buf lastSent startTick)
        else (.consumed, .waitConfirm code buf lastSent startTick)
      else (.consumed, .idle)
    else (.passed, .waitConfirm code buf lastSent startTick)

def updateDfuState (tick : UInt32) : DfuState → DfuState
  | waitConfirm code buf lastSent startTick =>
    if dfuTimeoutTicks < tick - startTick then .idle
    else if dfuRetransmitTicks < tick - lastSent then .waitConfirm code buf tick startTick
    else .waitConfirm code buf lastSent startTick
  | state => state

end DfuState

/-! ## The transport -/

structure SerialTransport where
  usb : Stm32h7UsbCdc
  parser : LinkParser
  dfuState : DfuState
  tickCounter : UInt32

/-- What a call did: the states in which it met its bytes, the bytes that reached the parser, the
command and whether it ended in the reboot. -/
structure Parsed where
  met : List DfuState
  fed : Bytes
  command : Option (SystemCommand F32)
  rebooted : Bool

namespace Parsed

def nothing : Parsed := ⟨[], [], none, false⟩

/-- A byte met in `state` before the others. -/
def after (state : DfuState) (fed : Bytes) (rest : Parsed) : Parsed :=
  { rest with met := state :: rest.met, fed := fed ++ rest.fed }

end Parsed

namespace SerialTransport

def new : SerialTransport := ⟨.new, .new, .idle, 0⟩

/-- A byte for the parser. -/
def feedParser (parser : LinkParser) (byte : UInt8) : Option (SystemCommand F32) × LinkParser :=
  match parser.feed byte with
  | (false, parser) => (none, parser)
  | (true, parser) =>
    let (msg, parser) := parser.parseFrame
    (msg.bind decodePacket, parser)

/-- The loop over the bytes read, with the build's feature and the reads of the cycle counter. It
ends at the first command. -/
def parseBytes (softwareBootloader : Bool) (cyccnt : Nat → UInt32) (tick : UInt32) :
    LinkParser → DfuState → Nat → Bytes → Parsed × LinkParser × DfuState
  | parser, dfu, _, [] => (.nothing, parser, dfu)
  | parser, dfu, i, byte :: bytes =>
    let sniffed :=
      if softwareBootloader then dfu.handleDfuProtocol tick (cyccnt i) byte else (.passed, dfu)
    match sniffed.1 with
    | .rebooted => (⟨[dfu], [], none, true⟩, parser, sniffed.2)
    | .consumed =>
      let (rest, last) :=
        parseBytes softwareBootloader cyccnt tick parser sniffed.2 (i + 1) bytes
      (rest.after dfu [], last)
    | .passed =>
      let (command, parser) := feedParser parser byte
      match command with
      | some command => (⟨[dfu], [byte], some command, false⟩, parser, sniffed.2)
      | none =>
        let (rest, last) :=
          parseBytes softwareBootloader cyccnt tick parser sniffed.2 (i + 1) bytes
        (rest.after dfu [byte], last)

def tryParseCommand (softwareBootloader : Bool) (cyccnt : Nat → UInt32) (self : SerialTransport) :
    Parsed × SerialTransport :=
  let dfu :=
    if softwareBootloader then self.dfuState.updateDfuState self.tickCounter else self.dfuState
  let (bytes, usb) := self.usb.tryRead 64
  let (parsed, parser, dfu) :=
    parseBytes softwareBootloader cyccnt self.tickCounter self.parser dfu 0 bytes
  (parsed, { self with usb, parser, dfuState := dfu })

end SerialTransport

/-! ## Runs -/

/-- Bytes arrive, a tick passes, or a command is asked for. -/
inductive Op (α : Type) where
  | arrive (bytes : List α)
  | poll
  | tryRecvCommand (cyccnt : Nat → UInt32)

inductive Out where
  | accepted (count : Nat)
  | polled
  | parsed (result : Parsed)

/-- The transport of one build. -/
def machine (softwareBootloader : Bool) : Machine SerialTransport (Op UInt8) Out where
  step
    | self, .arrive bytes =>
      let (count, usb) := self.usb.rxPushSlice bytes
      ({ self with usb }, .accepted count)
    | self, .poll => ({ self with tickCounter := self.tickCounter + 1 }, .polled)
    | self, .tryRecvCommand cyccnt =>
      let (parsed, self) := self.tryParseCommand softwareBootloader cyccnt
      (self, .parsed parsed)

end Aviate.Usb

end UsbSerial

section ConfigCandidate

/-!
# Calibration candidates

The immutable calibration candidate of an airframe preset, the plant evidence it rests on and the
checks of their own shape (`airframe_preset/candidate.rs`, `candidate/digest.rs`,
`candidate/plant.rs`).

Results:
1. Slots tell stages apart (`CalibrationStage.slot_injective`), so a lineage of accepted shape has
   overlays with portable names and pairwise different stages (`validateLineageShape_spec`).
-/

namespace Aviate.Config

open Perturbation Validation
open XPlane (isAsciiHexdigit)

variable {F : Type}

/-! ## The data -/

abbrev ContentDigest := Digest

structure GainOverrides (F : Type) where
  posP : Option (Vector F 3)
  posAccelLimits : Option (Vector F 3)
  posVelCaps : Option (Vector F 3)
  velP : Option (Vector F 3)
  velI : Option (Vector F 3)
  velD : Option (Vector F 3)
  velMaxRollPitch : Option F
  velMaxYawStep : Option F
  velAccelFf : Option F
  attMaxRateCmd : Option F
  rateI : Option (Vector F 3)
  rateD : Option (Vector F 3)
  rateDLpfAlpha : Option F

namespace GainOverrides

variable (g : GainOverrides F)

/-- The overrides with one value for each axis, in the order of the identity. -/
def triples : List (Option (Vector F 3)) :=
  [g.posP, g.posAccelLimits, g.posVelCaps, g.velP, g.velI, g.velD, g.rateI, g.rateD]

/-- The other overrides, in the order of the identity. -/
def scalars : List (Option F) :=
  [g.velMaxRollPitch, g.velMaxYawStep, g.velAccelFf, g.attMaxRateCmd, g.rateDLpfAlpha]

/-- The override of a field; the attitude and rate P gains have none. -/
def triple : TripleField → Option (Vector F 3)
  | .posP => g.posP
  | .posAccelLimits => g.posAccelLimits
  | .posVelCaps => g.posVelCaps
  | .velP => g.velP
  | .velI => g.velI
  | .velD => g.velD
  | .attP => none
  | .rateP => none
  | .rateI => g.rateI
  | .rateD => g.rateD

def scalar : ScalarField → Option F
  | .velMaxRollPitch => g.velMaxRollPitch
  | .velMaxYawStep => g.velMaxYawStep
  | .velAccelFf => g.velAccelFf
  | .attMaxRateCmd => g.attMaxRateCmd
  | .rateDLpfAlpha => g.rateDLpfAlpha

/-- `== GainOverrides::default()`: nothing is overridden. -/
def isDefault : Bool := g.triples.all Option.isNone && g.scalars.all Option.isNone

end GainOverrides

structure InnerLoopDesign (F : Type) where
  naturalFrequencyRadS : Vector F 3
  loopSeparation : Vector F 3

inductive CalibrationStage where
  | innerLoop
  | rateIntegralDerivative
  | outerLoop
  | commandEnvelope
  | hover
deriving DecidableEq, Repr

/-- `as u8`, `as usize`. -/
def CalibrationStage.slot : CalibrationStage → Fin 5
  | innerLoop => 0
  | rateIntegralDerivative => 1
  | outerLoop => 2
  | commandEnvelope => 3
  | hover => 4

theorem CalibrationStage.slot_injective : Function.Injective slot := by
  intro a b h
  cases a <;> cases b <;> first | rfl | cases h

/-- What one overlay changes. -/
structure CandidateLayer (F : Type) where
  stage : CalibrationStage
  hoverThrustSeed : Option F
  innerLoop : Option (InnerLoopDesign F)
  gains : GainOverrides F

/-- One overlay of a lineage; the layer is `CandidateLayer::overlay`. -/
structure CalibrationOverlay (F : Type) extends CandidateLayer F where
  overlayId : Bytes
  parentDigest : Bytes

structure CalibrationCandidate (F : Type) where
  schemaVersion : UInt16
  candidateId : Bytes
  basePresetDigest : Bytes
  plantArtifactDigest : Bytes
  stage : Option CalibrationStage
  hoverThrustSeed : Option F
  innerLoop : Option (InnerLoopDesign F)
  gains : GainOverrides F
  overlays : List (CalibrationOverlay F)

inductive PlantSampleClock where
  | simulatorMicroseconds
deriving DecidableEq, Repr

structure PlantIdentificationArtifact (F : Type) where
  schemaVersion : UInt16
  artifactId : Bytes
  airframeId : Bytes
  simulatorModelDigest : Bytes
  runManifestDigest : Bytes
  traceDigest : Bytes
  sampleClock : PlantSampleClock
  operatingHoverForce : F
  probeRadS : Vector F 2
  sampleRateHz : F
  authorityK : Vector F 3
  delayS : Vector F 3
  delayCi95S : Vector F 3
  rSquared : Vector F 3
  authorityCi95 : Vector F 3
  coherence : Vector F 3
  appliedInputMax : Vector F 3
  sampleCount : Vector UInt32 3
  saturationFraction : Vector F 3
  responseSign : Vector Int8 3

inductive PlantArtifactError where
  | parse (error : String)
  | unsupportedSchema (version : UInt16)
  | invalidId (field : String)
  | invalidDigest (field : String)
  | fieldOutOfRange (field : String)
  | insufficientSamples (axis : Fin 3)
  | invalidResponseSign (axis : Fin 3)
  | excessiveUncertainty (axis : Fin 3)
deriving DecidableEq, Repr

inductive CandidateError where
  | parse (error : String)
  | unsupportedSchema (version : UInt16)
  | invalidCandidateId
  | invalidDigest (field : String)
  | basePresetMismatch
  | unsupportedBaseSchema (version : UInt32)
  | plantArtifactMismatch
  | plantArtifact (error : PlantArtifactError)
  | plantAirframeMismatch
  | plantSimulatorModelMismatch
  | fieldOutOfRange (field : String)
  | invalidRelation (relation : String)
  | resolvedPreset (error : PresetError)
  | lineageMismatch (index : Nat)
  | duplicateStage (stage : CalibrationStage)
  | invalidBasePreset (error : String)
deriving DecidableEq, Repr

/-! ## Digests -/

def hexValue (byte : UInt8) : UInt8 :=
  if 0x30 ≤ byte ∧ byte ≤ 0x39 then byte - 0x30
  else if 0x61 ≤ byte ∧ byte ≤ 0x66 then byte - 0x61 + 10
  else if 0x41 ≤ byte ∧ byte ≤ 0x46 then byte - 0x41 + 10
  else 0

namespace ContentDigest

/-- `calculate`. -/
def calculate [Sha256] (bytes : Bytes) : ContentDigest := Sha256.digest bytes

def fromHex (text : Bytes) : Except CandidateError ContentDigest := do
  refuse (!isHexDigest text) (.invalidDigest "digest")
  return .ofFn fun index =>
    (hexValue (text.getD (index * 2) 0) <<< 4) ||| hexValue (text.getD (index * 2 + 1) 0)

/-- `{byte:02x}` for every byte. -/
def display (digest : ContentDigest) : Bytes :=
  (Digest.toList digest).flatMap fun byte : UInt8 =>
    [hexDigit (byte >>> 4), hexDigit (byte &&& 0x0F)]
where
  hexDigit (nibble : UInt8) : UInt8 := if nibble < 10 then nibble + 0x30 else nibble - 10 + 0x61

end ContentDigest

def parseDigest (text : Bytes) (field : String) : Except CandidateError ContentDigest :=
  (ContentDigest.fromHex text).mapError fun _ => .invalidDigest field

/-! ## Plant evidence -/

def plantArtifactSchemaVersion : UInt16 := 1

def maxSaturationFraction [Scalar F] : F := lit (18 / 100)

def minCoherence [Scalar F] : F := lit (65 / 100)

/-- `for axis in 0..3`. -/
def axes : List (Fin 3) := [0, 1, 2]

theorem mem_axes (axis : Fin 3) : axis ∈ axes := by
  revert axis
  decide

namespace PlantIdentificationArtifact

variable [Scalar F] (p : PlantIdentificationArtifact F)

/-- `bounded`. -/
def bounded (field : String) (value lower upper : F) : Except PlantArtifactError Unit :=
  refuse (outside value lower upper) (.fieldOutOfRange field)

/-- The evidence of one axis. -/
def validateAxis (axis : Fin 3) : Except PlantArtifactError Unit := do
  bounded "authority_k" (p.authorityK.get axis) (lit (1 / 100)) (lit 100)
  bounded "delay_s" (p.delayS.get axis) (lit 0) (lit (1 / 2))
  bounded "delay_ci95_s" (p.delayCi95S.get axis) (lit 0) (lit (1 / 2))
  refuse (Scalar.lt (lit (1 / 2)) (p.delayS.get axis + p.delayCi95S.get axis))
    (.fieldOutOfRange "delay_s + delay_ci95_s")
  bounded "r_squared" (p.rSquared.get axis) (lit (1 / 4)) (lit 1)
  bounded "authority_ci95" (p.authorityCi95.get axis) (lit 0) (lit 100)
  bounded "coherence" (p.coherence.get axis) minCoherence (lit 1)
  bounded "applied_input_max" (p.appliedInputMax.get axis) (lit (1 / 20)) (lit 1)
  bounded "saturation_fraction" (p.saturationFraction.get axis) (lit 0) maxSaturationFraction
  refuse (p.sampleCount.get axis < 100) (.insufficientSamples axis)
  refuse (p.responseSign.get axis ≠ -1 ∧ p.responseSign.get axis ≠ 1) (.invalidResponseSign axis)
  refuse (Scalar.lt (p.authorityK.get axis * lit (1 / 4)) (p.authorityCi95.get axis))
    (.excessiveUncertainty axis)

def validate : Except PlantArtifactError Unit := do
  refuse (p.schemaVersion ≠ plantArtifactSchemaVersion) (.unsupportedSchema p.schemaVersion)
  refuse (!isPortableId p.artifactId) (.invalidId "artifact_id")
  refuse (!isPortableId p.airframeId) (.invalidId "airframe_id")
  refuse (!isHexDigest p.simulatorModelDigest) (.invalidDigest "simulator_model_digest")
  refuse (!isHexDigest p.runManifestDigest) (.invalidDigest "run_manifest_digest")
  refuse (!isHexDigest p.traceDigest) (.invalidDigest "trace_digest")
  bounded "operating_hover_force" p.operatingHoverForce (lit (1 / 20)) (lit (95 / 100))
  bounded "sample_rate_hz" p.sampleRateHz (lit 20) (lit 1000)
  p.probeRadS.toList.forM fun frequency =>
    bounded "probe_rad_s" frequency (lit (1 / 10)) (lit 20)
  refuse (Scalar.le (p.probeRadS.get 1) (p.probeRadS.get 0)) (.fieldOutOfRange "probe_rad_s")
  axes.forM p.validateAxis

def fromTomlStr [FromToml (PlantIdentificationArtifact F)] (text : Bytes) :
    Except PlantArtifactError (PlantIdentificationArtifact F) := do
  let artifact : PlantIdentificationArtifact F ← (FromToml.fromStr text).mapError .parse
  artifact.validate
  return artifact

theorem validate_of_fromTomlStr [FromToml (PlantIdentificationArtifact F)] {text : Bytes}
    {p : PlantIdentificationArtifact F} (h : fromTomlStr text = .ok p) : p.validate = .ok () := by
  unfold fromTomlStr at h
  obtain ⟨artifact, _, h⟩ := bind_eq_ok.mp h
  obtain ⟨hvalid, h⟩ := andThen_eq_ok.mp h
  cases h
  exact hvalid

end PlantIdentificationArtifact

/-! ## The shape of a candidate -/

def legacyCandidateSchemaVersion : UInt16 := 1

def lineageCandidateSchemaVersion : UInt16 := 2

def maxOverlays : Nat := 5

def validateCandidateId (value : Bytes) : Except CandidateError Unit :=
  refuse (!isPortableId value) .invalidCandidateId

def validateLegacyShape (candidate : CalibrationCandidate F) : Except CandidateError Unit :=
  refuse (candidate.stage.isNone || !candidate.overlays.isEmpty)
    (.invalidRelation "schema one candidate must contain one legacy stage")

/-- One pass of the loop over the overlays; `stages` marks the stages seen. -/
def validateOverlayShape (stages : Vector Bool 5) (overlay : CalibrationOverlay F) :
    Except CandidateError (Vector Bool 5) := do
  validateCandidateId overlay.overlayId
  let _ ← parseDigest overlay.parentDigest "overlays.parent_digest"
  refuse (stages.get overlay.stage.slot) (.duplicateStage overlay.stage)
  return stages.set overlay.stage.slot true

def validateLineageShape (candidate : CalibrationCandidate F) : Except CandidateError Unit := do
  refuse (candidate.stage.isSome || candidate.hoverThrustSeed.isSome ||
      candidate.innerLoop.isSome || !candidate.gains.isDefault || candidate.overlays.isEmpty ||
      maxOverlays < candidate.overlays.length)
    (.invalidRelation "schema two candidate must contain only cumulative overlays")
  let _ ← candidate.overlays.foldlM validateOverlayShape (.replicate 5 false)

def validateCandidate (candidate : CalibrationCandidate F) : Except CandidateError Unit := do
  refuse (candidate.schemaVersion ≠ legacyCandidateSchemaVersion ∧
    candidate.schemaVersion ≠ lineageCandidateSchemaVersion)
    (.unsupportedSchema candidate.schemaVersion)
  validateCandidateId candidate.candidateId
  let _ ← parseDigest candidate.basePresetDigest "base_preset_digest"
  let _ ← parseDigest candidate.plantArtifactDigest "plant_artifact_digest"
  if candidate.schemaVersion = legacyCandidateSchemaVersion then validateLegacyShape candidate
  else validateLineageShape candidate

/-! ## Accepted shapes -/

/-- The loop over the overlays refuses a stage that is marked, so no stage comes twice. -/
theorem foldlM_validateOverlayShape {overlays : List (CalibrationOverlay F)}
    {stages stages' : Vector Bool 5}
    (h : overlays.foldlM validateOverlayShape stages = .ok stages') :
    (∀ overlay ∈ overlays,
      isPortableId overlay.overlayId ∧ stages.get overlay.stage.slot = false) ∧
      (overlays.map (·.stage)).Nodup := by
  induction overlays generalizing stages with
  | nil => exact ⟨fun _ h => absurd h List.not_mem_nil, List.nodup_nil⟩
  | cons overlay overlays ih =>
    rw [List.foldlM_cons] at h
    obtain ⟨marked, hmark, h⟩ := bind_eq_ok.mp h
    unfold validateOverlayShape at hmark
    obtain ⟨hid, hmark⟩ := andThen_eq_ok.mp hmark
    obtain ⟨_, _, hmark⟩ := bind_eq_ok.mp hmark
    obtain ⟨hfresh, hmark⟩ := andThen_eq_ok.mp hmark
    cases hmark
    rw [refuse_eq_ok] at hfresh
    obtain ⟨hrest, hnodup⟩ := ih h
    have hother : ∀ next ∈ overlays,
        next.stage ≠ overlay.stage ∧ stages.get next.stage.slot = false := by
      intro next hnext
      have hget := (hrest next hnext).2
      change (stages.set _ true)[next.stage.slot.val] = false at hget
      rw [Vector.getElem_set] at hget
      split at hget
      · cases hget
      · next hslot => exact ⟨fun heq => hslot (by rw [heq]), hget⟩
    refine ⟨List.forall_mem_cons.mpr ⟨⟨by simpa [validateCandidateId] using hid, hfresh⟩, ?_⟩, ?_⟩
    · exact fun next hnext => ⟨(hrest next hnext).1, (hother next hnext).2⟩
    · rw [List.map_cons, List.nodup_cons]
      refine ⟨fun hmem => ?_, hnodup⟩
      obtain ⟨next, hnext, heq⟩ := List.mem_map.mp hmem
      exact (hother next hnext).1 heq

theorem validateLineageShape_spec {candidate : CalibrationCandidate F}
    (h : validateLineageShape candidate = .ok ()) :
    candidate.stage = none ∧ candidate.overlays ≠ [] ∧
      (∀ overlay ∈ candidate.overlays, isPortableId overlay.overlayId) ∧
      (candidate.overlays.map (·.stage)).Nodup := by
  unfold validateLineageShape at h
  obtain ⟨hshape, h⟩ := andThen_eq_ok.mp h
  obtain ⟨_, hloop, _⟩ := bind_eq_ok.mp h
  obtain ⟨hids, hnodup⟩ := foldlM_validateOverlayShape hloop
  simp only [refuse_eq_ok, Bool.or_eq_false_iff, Option.isSome_eq_false_iff,
    Option.isNone_iff_eq_none, List.isEmpty_eq_false_iff] at hshape
  obtain ⟨⟨⟨⟨⟨hstage, _⟩, _⟩, _⟩, hne⟩, _⟩ := hshape
  exact ⟨hstage, hne, fun overlay hmem => (hids overlay hmem).1, hnodup⟩

/-- A candidate of the legacy schema has one stage and no overlays. -/
theorem validateLegacyShape_spec {candidate : CalibrationCandidate F}
    (h : validateLegacyShape candidate = .ok ()) :
    (∃ stage, candidate.stage = some stage) ∧ candidate.overlays = [] := by
  simp only [validateLegacyShape, refuse_eq_ok, Bool.or_eq_false_iff, Bool.not_eq_false',
    List.isEmpty_iff, Option.isNone_eq_false_iff, Option.isSome_iff_exists] at h
  exact h

theorem validateCandidate_spec {candidate : CalibrationCandidate F}
    (h : validateCandidate candidate = .ok ()) :
    candidate.schemaVersion = legacyCandidateSchemaVersion ∧
        validateLegacyShape candidate = .ok () ∨
      candidate.schemaVersion = lineageCandidateSchemaVersion ∧
        validateLineageShape candidate = .ok () := by
  unfold validateCandidate at h
  obtain ⟨hschema, h⟩ := andThen_eq_ok.mp h
  obtain ⟨_, h⟩ := andThen_eq_ok.mp h
  obtain ⟨_, _, h⟩ := bind_eq_ok.mp h
  obtain ⟨_, _, h⟩ := bind_eq_ok.mp h
  split at h
  · next hlegacy => exact .inl ⟨hlegacy, h⟩
  · next hlegacy =>
    right
    refine ⟨?_, h⟩
    by_contra hlineage
    simp [hlegacy, hlineage] at hschema

end Aviate.Config

end ConfigCandidate

section ConfigDesign

/-!
# Applying a calibration layer

The bounded application of one stage to a preset and the dynamic checks of its result
(`candidate/design.rs`).

Results:
1. Every gain and the hover seed have one stage that owns them, and a layer of another stage sets
   none of them (`CandidateLayer.owned_triple`, `owned_scalar`, `owned_hover`).
2. An accepted layer leaves what its stage does not own as it was (`applyValidatedLayer_frame`),
   and its result passed every check (`applyValidatedLayer_checked`).
-/

namespace Aviate.Config

open Perturbation Validation

variable {F : Type} [Scalar F]

/-! ## Constants -/

def maxGainStep : F := lit (1 / 4)

def maxHoverStep : F := lit (15 / 100)

def zeroBaseStep : F := lit (1 / 10)

def minLoopSeparation : F := lit 5

def maxLoopSeparation : F := lit 10

def maxDelayProduct : F := lit (35 / 100)

def wireCollectiveHeadroom : F := lit (5 / 100)

/-- `f32::EPSILON`. -/
def epsilon : F := lit (1 / 2 ^ 23)

/-! ## Elementary checks -/

/-- `bounded` of a candidate field. -/
def bounded (field : String) (value lower upper : F) : Except CandidateError Unit :=
  refuse (outside value lower upper) (.fieldOutOfRange field)

def triples (field : String) (values : Vector F 3) (lower upper : F) : Except CandidateError Unit :=
  values.toList.forM fun value => bounded field value lower upper

def relativeDelta (base value : F) : F :=
  Scalar.abs (value - base) / Scalar.max (Scalar.abs base) epsilon

def adjacent (base next : F) : Except CandidateError Unit :=
  let permitted := Scalar.max (Scalar.abs base * maxGainStep) zeroBaseStep
  refuse (Scalar.lt permitted (Scalar.abs (next - base)))
    (.invalidRelation "candidate gain step must be adjacent to the champion")

/-! ## The fields of a stage -/

section Stage

variable (gains : GainOverrides F)

def onlyRateId : Bool :=
  (gains.rateI.isSome || gains.rateD.isSome || gains.rateDLpfAlpha.isSome) &&
    gains.posP.isNone && gains.posAccelLimits.isNone && gains.posVelCaps.isNone &&
    gains.velP.isNone && gains.velI.isNone && gains.velD.isNone &&
    gains.velMaxRollPitch.isNone && gains.velMaxYawStep.isNone && gains.velAccelFf.isNone &&
    gains.attMaxRateCmd.isNone

def onlyOuterLoop : Bool :=
  (gains.posP.isSome || gains.posAccelLimits.isSome || gains.posVelCaps.isSome ||
      gains.velP.isSome || gains.velI.isSome || gains.velD.isSome) &&
    gains.velMaxRollPitch.isNone && gains.velMaxYawStep.isNone && gains.velAccelFf.isNone &&
    gains.attMaxRateCmd.isNone && gains.rateI.isNone && gains.rateD.isNone &&
    gains.rateDLpfAlpha.isNone

def onlyCommandEnvelope : Bool :=
  (gains.velMaxRollPitch.isSome || gains.velMaxYawStep.isSome || gains.velAccelFf.isSome ||
      gains.attMaxRateCmd.isSome) &&
    gains.posP.isNone && gains.posAccelLimits.isNone && gains.posVelCaps.isNone &&
    gains.velP.isNone && gains.velI.isNone && gains.velD.isNone && gains.rateI.isNone &&
    gains.rateD.isNone && gains.rateDLpfAlpha.isNone

end Stage

/-- The layer sets fields of its own stage, and of no other. -/
def CandidateLayer.owned (layer : CandidateLayer F) : Bool :=
  match layer.stage with
  | .innerLoop =>
    layer.innerLoop.isSome && layer.hoverThrustSeed.isNone && layer.gains.isDefault
  | .hover => layer.innerLoop.isNone && layer.hoverThrustSeed.isSome && layer.gains.isDefault
  | .rateIntegralDerivative =>
    layer.innerLoop.isNone && layer.hoverThrustSeed.isNone && onlyRateId layer.gains
  | .outerLoop =>
    layer.innerLoop.isNone && layer.hoverThrustSeed.isNone && onlyOuterLoop layer.gains
  | .commandEnvelope =>
    layer.innerLoop.isNone && layer.hoverThrustSeed.isNone && onlyCommandEnvelope layer.gains

def validateStageFields (layer : CandidateLayer F) : Except CandidateError Unit :=
  refuse (!layer.owned) (.invalidRelation "candidate fields must belong to one calibration stage")

/-! ## Application -/

/-- `if let Some(value) = source { *target = value; }`. -/
def assign {α : Type} (target : α) (source : Option α) : α := source.getD target

def applyOverrides (target : GainsPreset F) (source : GainOverrides F) : GainsPreset F :=
  { target with
    posP := assign target.posP source.posP
    posAccelLimits := assign target.posAccelLimits source.posAccelLimits
    posVelCaps := assign target.posVelCaps source.posVelCaps
    velP := assign target.velP source.velP
    velI := assign target.velI source.velI
    velD := assign target.velD source.velD
    velMaxRollPitch := assign target.velMaxRollPitch source.velMaxRollPitch
    velMaxYawStep := assign target.velMaxYawStep source.velMaxYawStep
    velAccelFf := assign target.velAccelFf source.velAccelFf
    attMaxRateCmd := assign target.attMaxRateCmd source.attMaxRateCmd
    rateI := assign target.rateI source.rateI
    rateD := assign target.rateD source.rateD
    rateDLpfAlpha := assign target.rateDLpfAlpha source.rateDLpfAlpha }

/-- The design coordinates of one axis become its attitude and rate gains. -/
def applyInnerLoopAxis [Libm F] (design : InnerLoopDesign F) (plant : PlantIdentificationArtifact F)
    (gains : GainsPreset F) (axis : Fin 3) : Except CandidateError (GainsPreset F) := do
  let frequency := design.naturalFrequencyRadS.get axis
  let separation := design.loopSeparation.get axis
  bounded "inner_loop.natural_frequency_rad_s" frequency (lit (2 / 10)) (lit 4)
  bounded "inner_loop.loop_separation" separation minLoopSeparation maxLoopSeparation
  let separationRoot := sqrtf separation
  return { gains with
    attP := gains.attP.set axis (frequency / separationRoot)
    rateP := gains.rateP.set axis (frequency * separationRoot / plant.authorityK.get axis) }

def applyInnerLoopDesign [Libm F] (gains : GainsPreset F) (design : InnerLoopDesign F)
    (plant : PlantIdentificationArtifact F) : Except CandidateError (GainsPreset F) :=
  axes.foldlM (applyInnerLoopAxis design plant) gains

/-- `if let Some(design) = layer.inner_loop`. -/
def applyDesign [Libm F] (gains : GainsPreset F) (design : Option (InnerLoopDesign F))
    (plant : PlantIdentificationArtifact F) : Except CandidateError (GainsPreset F) :=
  match design with
  | some design => applyInnerLoopDesign gains design plant
  | none => .ok gains

/-- The preset with the fields of the layer in place, not yet checked. -/
def applyLayer [Libm F] (preset : AirframePreset F) (layer : CandidateLayer F)
    (plant : PlantIdentificationArtifact F) : Except CandidateError (AirframePreset F) := do
  let gains ← applyDesign (applyOverrides preset.gains layer.gains) layer.innerLoop plant
  return { preset with
    hoverThrustSeed := assign preset.hoverThrustSeed layer.hoverThrustSeed
    gains }

/-! ## Checks of the result -/

def validateCandidateBounds (preset : AirframePreset F) : Except CandidateError Unit := do
  bounded "hover_thrust_seed" preset.hoverThrustSeed (lit (1 / 10)) (lit (9 / 10))
  triples "gains.pos_p" preset.gains.posP (lit 0) (lit 10)
  triples "gains.pos_accel_limits" preset.gains.posAccelLimits (lit (5 / 100)) (lit 20)
  triples "gains.pos_vel_caps" preset.gains.posVelCaps (lit (5 / 100)) (lit 30)
  triples "gains.vel_p" preset.gains.velP (lit 0) (lit 20)
  triples "gains.vel_i" preset.gains.velI (lit 0) (lit 20)
  triples "gains.vel_d" preset.gains.velD (lit 0) (lit 20)
  bounded "gains.vel_max_roll_pitch" preset.gains.velMaxRollPitch (lit (5 / 100)) (lit (12 / 10))
  bounded "gains.vel_max_yaw_step" preset.gains.velMaxYawStep (lit 0) (lit (32 / 10))
  bounded "gains.vel_accel_ff" preset.gains.velAccelFf (lit 0) (lit 1)
  triples "gains.att_p" preset.gains.attP (lit (1 / 100)) (lit 20)
  bounded "gains.att_max_rate_cmd" preset.gains.attMaxRateCmd (lit (1 / 10)) (lit 10)
  triples "gains.rate_p" preset.gains.rateP (lit (1 / 100)) (lit 20)
  triples "gains.rate_i" preset.gains.rateI (lit 0) (lit 20)
  triples "gains.rate_d" preset.gains.rateD (lit 0) (lit 20)
  bounded "gains.rate_d_lpf_alpha" preset.gains.rateDLpfAlpha (lit (5 / 100)) (lit (95 / 100))

def validateRelativeSteps (candidate champion : AirframePreset F) : Except CandidateError Unit := do
  let new := candidate.gains
  let old := champion.gains
  [(new.posP, old.posP), (new.posAccelLimits, old.posAccelLimits), (new.posVelCaps, old.posVelCaps),
    (new.velP, old.velP), (new.velI, old.velI), (new.velD, old.velD), (new.attP, old.attP),
    (new.rateP, old.rateP), (new.rateI, old.rateI), (new.rateD, old.rateD)].forM
      fun (next, base) => axes.forM fun axis => adjacent (base.get axis) (next.get axis)
  [(new.velMaxRollPitch, old.velMaxRollPitch), (new.velMaxYawStep, old.velMaxYawStep),
    (new.velAccelFf, old.velAccelFf), (new.attMaxRateCmd, old.attMaxRateCmd),
    (new.rateDLpfAlpha, old.rateDLpfAlpha)].forM fun (next, base) => adjacent base next

def validateHover (preset champion : AirframePreset F) (layer : CandidateLayer F)
    (plant : PlantIdentificationArtifact F) (model : XPlaneSimulatorModel F) :
    Except CandidateError Unit := do
  let hover := preset.hoverThrustForceSeed
  let ceiling := model.wire.meanCeiling - wireCollectiveHeadroom
  refuse (Scalar.le ceiling hover)
    (.invalidRelation "hover force must keep wire collective headroom")
  refuse (Scalar.lt maxHoverStep (relativeDelta plant.operatingHoverForce hover))
    (.invalidRelation "hover force must stay inside the identified operating envelope")
  refuse (layer.stage = .hover &&
      Scalar.lt maxHoverStep (relativeDelta champion.hoverThrustForceSeed hover))
    (.invalidRelation "hover candidate step must be adjacent to the champion")

def validateEnvelopeRelations (preset : AirframePreset F) : Except CandidateError Unit := do
  let limits := preset.limits
  let rateLimit :=
    Scalar.min (Scalar.min limits.maxRollRate limits.maxPitchRate) limits.maxYawRate
  refuse (Scalar.lt rateLimit preset.gains.attMaxRateCmd)
    (.invalidRelation "att_max_rate_cmd <= airframe rate limits")
  refuse (Scalar.lt (Scalar.min limits.maxRoll limits.maxPitch) preset.gains.velMaxRollPitch)
    (.invalidRelation "vel_max_roll_pitch <= airframe tilt limits")
  let verticalLimit := Scalar.min limits.maxClimbRate limits.maxDescentRate
  refuse (Scalar.lt limits.maxHorizontalSpeed (preset.gains.posVelCaps.get 0) ||
      Scalar.lt limits.maxHorizontalSpeed (preset.gains.posVelCaps.get 1) ||
      Scalar.lt verticalLimit (preset.gains.posVelCaps.get 2))
    (.invalidRelation "position velocity caps <= airframe speed limits")

def validateRateId (preset : AirframePreset F) (axis : Fin 3) (frequency : F) :
    Except CandidateError Unit :=
  let rateP := preset.gains.rateP.get axis
  refuse (Scalar.lt (rateP * frequency * lit (1 / 4)) (preset.gains.rateI.get axis) ||
      Scalar.lt (rateP * lit (1 / 4)) (preset.gains.rateD.get axis * frequency))
    (.invalidRelation "rate I and D terms must stay below the inner-loop bandwidth")

def validateNominalDesign [Libm F] (preset : AirframePreset F)
    (plant : PlantIdentificationArtifact F) (design : InnerLoopDesign F) (axis : Fin 3) :
    Except CandidateError Unit :=
  let attP := preset.gains.attP.get axis
  let rateP := preset.gains.rateP.get axis
  let separation := plant.authorityK.get axis * rateP / attP
  let frequency := sqrtf (attP * plant.authorityK.get axis * rateP)
  refuse (Scalar.lt (lit (1 / 10000)) (relativeDelta separation (design.loopSeparation.get axis)) ||
      Scalar.lt (lit (1 / 10000))
        (relativeDelta frequency (design.naturalFrequencyRadS.get axis)))
    (.invalidRelation "derived inner-loop values must match the design")

/-- One pass of the loop of `validate_inner_loop`. -/
def validateInnerLoopAxis [Libm F] (preset : AirframePreset F)
    (design : Option (InnerLoopDesign F)) (plant : PlantIdentificationArtifact F) (axis : Fin 3) :
    Except CandidateError Unit := do
  refuse (plant.responseSign.get axis ≠ 1)
    (.invalidRelation "plant response signs must match the compiled mixer")
  let kLow := plant.authorityK.get axis - plant.authorityCi95.get axis
  let kHigh := plant.authorityK.get axis + plant.authorityCi95.get axis
  refuse (Scalar.le kLow (lit 0))
    (.invalidRelation "plant authority confidence interval must be positive")
  let attP := preset.gains.attP.get axis
  let rateP := preset.gains.rateP.get axis
  let separationLow := kLow * rateP / attP
  let separationHigh := kHigh * rateP / attP
  refuse (Scalar.lt separationLow minLoopSeparation || Scalar.lt maxLoopSeparation separationHigh)
    (.invalidRelation "loop separation must hold across the authority interval")
  let frequencyHigh := sqrtf (attP * kHigh * rateP)
  let delayHigh := plant.delayS.get axis + plant.delayCi95S.get axis
  refuse (Scalar.lt maxDelayProduct (frequencyHigh * delayHigh))
    (.invalidRelation "bandwidth must hold across the delay interval")
  validateRateId preset axis frequencyHigh
  match design with
  | some target => validateNominalDesign preset plant target axis
  | none => pure ()

def validateInnerLoop [Libm F] (preset : AirframePreset F) (design : Option (InnerLoopDesign F))
    (plant : PlantIdentificationArtifact F) : Except CandidateError Unit :=
  axes.forM (validateInnerLoopAxis preset design plant)

/-- `apply_validated_layer`; the preset before the layer is the champion. -/
def applyValidatedLayer [Libm F] (champion : AirframePreset F) (layer : CandidateLayer F)
    (plant : PlantIdentificationArtifact F) (model : XPlaneSimulatorModel F) :
    Except CandidateError (AirframePreset F) := do
  validateStageFields layer
  let preset ← applyLayer champion layer plant
  let declaredRate := lit model.sampleRateHz.toNat
  refuse (Scalar.lt (lit (1 / 4)) (relativeDelta declaredRate plant.sampleRateHz))
    (.invalidRelation "plant sample rate must match the simulator model")
  validateCandidateBounds preset
  validateRelativeSteps preset champion
  validateHover preset champion layer plant model
  validateEnvelopeRelations preset
  validateInnerLoop preset layer.innerLoop plant
  preset.validate.mapError .resolvedPreset
  return preset

/-! ## Owners -/

def TripleField.owner : TripleField → CalibrationStage
  | attP | rateP => .innerLoop
  | rateI | rateD => .rateIntegralDerivative
  | posP | posAccelLimits | posVelCaps | velP | velI | velD => .outerLoop

def ScalarField.owner : ScalarField → CalibrationStage
  | rateDLpfAlpha => .rateIntegralDerivative
  | velMaxRollPitch | velMaxYawStep | velAccelFf | attMaxRateCmd => .commandEnvelope

/-- The stage that may change a gain. -/
def Gain.owner : Gain → CalibrationStage
  | triple field _ => field.owner
  | scalar field => field.owner

namespace CandidateLayer

variable {layer : CandidateLayer F}

omit [Scalar F] in
theorem owned_triple (h : layer.owned) {field : TripleField} (hstage : field.owner ≠ layer.stage) :
    layer.gains.triple field = none := by
  obtain ⟨stage, seed, design, gains⟩ := layer
  cases stage <;> cases field <;>
    simp_all [owned, GainOverrides.isDefault, GainOverrides.triples, GainOverrides.triple,
      onlyRateId, onlyOuterLoop, onlyCommandEnvelope, TripleField.owner]

omit [Scalar F] in
theorem owned_scalar (h : layer.owned) {field : ScalarField} (hstage : field.owner ≠ layer.stage) :
    layer.gains.scalar field = none := by
  obtain ⟨stage, seed, design, gains⟩ := layer
  cases stage <;> cases field <;>
    simp_all [owned, GainOverrides.isDefault, GainOverrides.scalars, GainOverrides.scalar,
      onlyRateId, onlyOuterLoop, onlyCommandEnvelope, ScalarField.owner]

omit [Scalar F] in
theorem owned_hover (h : layer.owned) (hstage : layer.stage ≠ .hover) :
    layer.hoverThrustSeed = none := by
  obtain ⟨stage, seed, design, gains⟩ := layer
  cases stage <;> simp_all [owned]

omit [Scalar F] in
theorem owned_innerLoop (h : layer.owned) (hstage : layer.stage ≠ .innerLoop) :
    layer.innerLoop = none := by
  obtain ⟨stage, seed, design, gains⟩ := layer
  cases stage <;> simp_all [owned]

end CandidateLayer

/-! ## What a layer leaves alone -/

omit [Scalar F] in
theorem applyOverrides_triple {gains : GainsPreset F} {source : GainOverrides F}
    {field : TripleField} :
    (applyOverrides gains source).triple field =
      assign (gains.triple field) (source.triple field) := by
  cases field <;> rfl

omit [Scalar F] in
theorem applyOverrides_scalar {gains : GainsPreset F} {source : GainOverrides F}
    {field : ScalarField} :
    (applyOverrides gains source).scalar field =
      assign (gains.scalar field) (source.scalar field) := by
  cases field <;> rfl

variable [Libm F] {plant : PlantIdentificationArtifact F} {model : XPlaneSimulatorModel F}

omit [Scalar F] [Libm F] in
theorem triple_get_set {values : Vector F 3} {value : F} {axis other : Fin 3} :
    (values.set axis value).get other = if axis = other then value else values.get other := by
  change (values.set axis value)[other.val] = _
  rw [Vector.getElem_set]
  simp only [Fin.val_inj]
  rfl

/-- One axis of a design is in range, becomes the attitude and rate P gains of that axis and
changes nothing else. -/
theorem applyInnerLoopAxis_spec {gains gains' : GainsPreset F} {design : InnerLoopDesign F}
    {axis : Fin 3} (h : applyInnerLoopAxis design plant gains axis = .ok gains') :
    bounded "inner_loop.natural_frequency_rad_s" (design.naturalFrequencyRadS.get axis)
        (lit (2 / 10)) (lit 4) = .ok () ∧
      bounded "inner_loop.loop_separation" (design.loopSeparation.get axis) minLoopSeparation
        maxLoopSeparation = .ok () ∧
      (∀ other, gains'.attP.get other =
        if axis = other then design.naturalFrequencyRadS.get axis /
          sqrtf (design.loopSeparation.get axis)
        else gains.attP.get other) ∧
      (∀ other, gains'.rateP.get other =
        if axis = other then design.naturalFrequencyRadS.get axis *
          sqrtf (design.loopSeparation.get axis) / plant.authorityK.get axis
        else gains.rateP.get other) ∧
      ∀ gain : Gain, gain.owner ≠ .innerLoop → gains'.read gain = gains.read gain := by
  unfold applyInnerLoopAxis at h
  obtain ⟨hfrequency, h⟩ := andThen_eq_ok.mp h
  obtain ⟨hseparation, h⟩ := andThen_eq_ok.mp h
  cases h
  refine ⟨hfrequency, hseparation, fun other => triple_get_set, fun other => triple_get_set, ?_⟩
  intro gain howner
  cases gain with
  | triple field axis =>
    cases field with
    | attP | rateP => exact absurd rfl howner
    | _ => rfl
  | scalar field => cases field <;> rfl

/-- A design changes the attitude and rate P gains only. -/
theorem applyInnerLoopDesign_read {gains gains' : GainsPreset F} {design : InnerLoopDesign F}
    {gain : Gain} (h : applyInnerLoopDesign gains design plant = .ok gains')
    (howner : gain.owner ≠ .innerLoop) : gains'.read gain = gains.read gain := by
  refine foldlM_invariant (P := fun g => g.read gain = gains.read gain) ?_ rfl h
  intro axis before after _ hbefore hpass
  obtain ⟨-, -, -, -, hread⟩ := applyInnerLoopAxis_spec hpass
  exact (hread gain howner).trans hbefore

/-- Every axis of a design is in range and becomes the attitude and rate P gains of that axis. -/
theorem applyInnerLoopDesign_axis {gains gains' : GainsPreset F} {design : InnerLoopDesign F}
    (h : applyInnerLoopDesign gains design plant = .ok gains') (axis : Fin 3) :
    bounded "inner_loop.natural_frequency_rad_s" (design.naturalFrequencyRadS.get axis)
        (lit (2 / 10)) (lit 4) = .ok () ∧
      bounded "inner_loop.loop_separation" (design.loopSeparation.get axis) minLoopSeparation
        maxLoopSeparation = .ok () ∧
      gains'.attP.get axis = design.naturalFrequencyRadS.get axis /
        sqrtf (design.loopSeparation.get axis) ∧
      gains'.rateP.get axis = design.naturalFrequencyRadS.get axis *
        sqrtf (design.loopSeparation.get axis) / plant.authorityK.get axis := by
  obtain ⟨first, hfirst, h⟩ := bind_eq_ok.mp h
  obtain ⟨second, hsecond, h⟩ := bind_eq_ok.mp h
  obtain ⟨third, hthird, h⟩ := bind_eq_ok.mp h
  cases h
  obtain ⟨hfrequency₀, hseparation₀, hatt₀, hrate₀, -⟩ := applyInnerLoopAxis_spec hfirst
  obtain ⟨hfrequency₁, hseparation₁, hatt₁, hrate₁, -⟩ := applyInnerLoopAxis_spec hsecond
  obtain ⟨hfrequency₂, hseparation₂, hatt₂, hrate₂, -⟩ := applyInnerLoopAxis_spec hthird
  rw [hatt₂, hatt₁, hatt₀, hrate₂, hrate₁, hrate₀]
  match axis with
  | 0 => exact ⟨hfrequency₀, hseparation₀, rfl, rfl⟩
  | 1 => exact ⟨hfrequency₁, hseparation₁, rfl, rfl⟩
  | 2 => exact ⟨hfrequency₂, hseparation₂, rfl, rfl⟩

/-- The gains and the seed are all that a layer changes. -/
theorem applyLayer_eq {champion preset : AirframePreset F} {layer : CandidateLayer F}
    (h : applyLayer champion layer plant = .ok preset) :
    preset =
      { champion with gains := preset.gains, hoverThrustSeed := preset.hoverThrustSeed } := by
  unfold applyLayer at h
  obtain ⟨gains, -, h⟩ := bind_eq_ok.mp h
  cases h
  rfl

theorem applyLayer_seed {champion preset : AirframePreset F} {layer : CandidateLayer F}
    (h : applyLayer champion layer plant = .ok preset) :
    preset.hoverThrustSeed = assign champion.hoverThrustSeed layer.hoverThrustSeed := by
  unfold applyLayer at h
  obtain ⟨gains, -, h⟩ := bind_eq_ok.mp h
  cases h
  rfl

theorem applyLayer_gains {champion preset : AirframePreset F} {layer : CandidateLayer F}
    (h : applyLayer champion layer plant = .ok preset) :
    applyDesign (applyOverrides champion.gains layer.gains) layer.innerLoop plant =
      .ok preset.gains := by
  unfold applyLayer at h
  obtain ⟨gains, hgains, h⟩ := bind_eq_ok.mp h
  cases h
  exact hgains

/-- A gain that the stage of the layer does not own is left as it was. -/
theorem applyLayer_read {champion preset : AirframePreset F} {layer : CandidateLayer F}
    {gain : Gain} (h : applyLayer champion layer plant = .ok preset) (howned : layer.owned)
    (howner : gain.owner ≠ layer.stage) : preset.gains.read gain = champion.gains.read gain := by
  have hoverrides : (applyOverrides champion.gains layer.gains).read gain =
      champion.gains.read gain := by
    cases gain with
    | triple field axis =>
      rw [GainsPreset.read, applyOverrides_triple, layer.owned_triple howned howner]
      rfl
    | scalar field =>
      rw [GainsPreset.read, applyOverrides_scalar, layer.owned_scalar howned howner]
      rfl
  have hgains := applyLayer_gains h
  rw [← hoverrides]
  cases hdesign : layer.innerLoop with
  | none =>
    rw [hdesign] at hgains
    rw [Except.ok.inj hgains]
  | some design =>
    rw [hdesign] at hgains
    have hstage : layer.stage = .innerLoop := by
      by_contra hstage
      rw [layer.owned_innerLoop howned hstage] at hdesign
      cases hdesign
    exact applyInnerLoopDesign_read hgains (hstage ▸ howner)

/-! ## What an accepted layer passed -/

/-- The checks that an accepted layer passed. -/
structure Checked (champion preset : AirframePreset F) (layer : CandidateLayer F)
    (plant : PlantIdentificationArtifact F) (model : XPlaneSimulatorModel F) : Prop where
  owned : layer.owned
  applied : applyLayer champion layer plant = .ok preset
  bounds : validateCandidateBounds preset = .ok ()
  steps : validateRelativeSteps preset champion = .ok ()
  hover : validateHover preset champion layer plant model = .ok ()
  envelope : validateEnvelopeRelations preset = .ok ()
  innerLoop : validateInnerLoop preset layer.innerLoop plant = .ok ()

theorem applyValidatedLayer_checked {champion preset : AirframePreset F} {layer : CandidateLayer F}
    (h : applyValidatedLayer champion layer plant model = .ok preset) :
    Checked champion preset layer plant model := by
  unfold applyValidatedLayer at h
  obtain ⟨howned, h⟩ := andThen_eq_ok.mp h
  obtain ⟨applied, happlied, h⟩ := bind_eq_ok.mp h
  obtain ⟨_, h⟩ := andThen_eq_ok.mp h
  obtain ⟨hbounds, h⟩ := andThen_eq_ok.mp h
  obtain ⟨hsteps, h⟩ := andThen_eq_ok.mp h
  obtain ⟨hhover, h⟩ := andThen_eq_ok.mp h
  obtain ⟨henvelope, h⟩ := andThen_eq_ok.mp h
  obtain ⟨hinner, h⟩ := andThen_eq_ok.mp h
  obtain ⟨_, h⟩ := andThen_eq_ok.mp h
  cases h
  exact ⟨by simpa [validateStageFields] using howned, happlied, hbounds, hsteps, hhover, henvelope,
    hinner⟩

end Aviate.Config

end ConfigDesign

section ConfigLineage

/-!
# Resolving a candidate

The chain of overlays of a candidate with its cumulative identity (`candidate/lineage.rs`), and
the resolver that checks every document against the others (`resolve_candidate`).

Results:
1. An accepted chain applies its layers one after the other, and every overlay names the identity
   of the chain before it (`applyOverlays_spec`).
2. What an accepted candidate is made of (`resolveCandidate_spec`).
-/

namespace Aviate.Config

open ByteBuffer Perturbation Validation

variable {F : Type} [Scalar F] [FloatBits F] [Sha256]

/-! ## The lineage identity -/

def lineageTag : Bytes := "aviate-candidate-overlay-v1".toUTF8.toList

/-- `push_float`. -/
def floatBytes (value : F) : Bytes := u32Bytes (canonicalF32Bits value)

/-- `push_triple`. -/
def tripleBytes (values : Vector F 3) : Bytes := values.toList.flatMap floatBytes

/-- A presence byte, then the value if there is one. -/
def optionBytes {α : Type} (bytes : α → Bytes) (value : Option α) : Bytes :=
  match value with
  | some value => 1 :: bytes value
  | none => [0]

def designBytes (design : InnerLoopDesign F) : Bytes :=
  tripleBytes design.naturalFrequencyRadS ++ tripleBytes design.loopSeparation

/-- `push_gain_overrides`. -/
def gainOverridesBytes (gains : GainOverrides F) : Bytes :=
  gains.triples.flatMap (optionBytes tripleBytes) ++ gains.scalars.flatMap (optionBytes floatBytes)

/-- What is hashed for one overlay. -/
def overlayBytes (parent plantArtifact : ContentDigest) (overlay : CalibrationOverlay F) : Bytes :=
  lineageTag ++ Digest.toList parent ++ Digest.toList plantArtifact ++
    textBytes overlay.overlayId ++ [UInt8.ofNat overlay.stage.slot] ++
    optionBytes floatBytes overlay.hoverThrustSeed ++
    optionBytes designBytes overlay.innerLoop ++ gainOverridesBytes overlay.gains

def calculateOverlayLineageDigest (parent plantArtifact : ContentDigest)
    (overlay : CalibrationOverlay F) : ContentDigest :=
  ContentDigest.calculate (overlayBytes parent plantArtifact overlay)

/-! ## The layers of a candidate -/

/-- `CandidateLayer::legacy`. -/
def CandidateLayer.legacy (candidate : CalibrationCandidate F) :
    Except CandidateError (CandidateLayer F) :=
  match candidate.stage with
  | none => .error (.invalidRelation "schema one candidate requires one stage")
  | some stage => .ok
    { stage
      hoverThrustSeed := candidate.hoverThrustSeed
      innerLoop := candidate.innerLoop
      gains := candidate.gains }

variable [Libm F]

/-- The loop over the overlays from `index` on. -/
def applyOverlays (plantDigest : ContentDigest) (plant : PlantIdentificationArtifact F)
    (model : XPlaneSimulatorModel F) (index : Nat) (preset : AirframePreset F)
    (lineage : ContentDigest) :
    List (CalibrationOverlay F) → Except CandidateError (AirframePreset F × ContentDigest)
  | [] => .ok (preset, lineage)
  | overlay :: overlays => do
    let parent ← parseDigest overlay.parentDigest "overlays.parent_digest"
    refuse (parent ≠ lineage) (.lineageMismatch index)
    let preset ← applyValidatedLayer preset overlay.toCandidateLayer plant model
    applyOverlays plantDigest plant model (index + 1) preset
      (calculateOverlayLineageDigest lineage plantDigest overlay) overlays

def applyCandidateLayers (preset : AirframePreset F) (candidate : CalibrationCandidate F)
    (baseDigest plantDigest : ContentDigest) (plant : PlantIdentificationArtifact F)
    (model : XPlaneSimulatorModel F) (documentDigest : ContentDigest) :
    Except CandidateError (AirframePreset F × ContentDigest) := do
  if candidate.schemaVersion = legacyCandidateSchemaVersion then
    let layer ← CandidateLayer.legacy candidate
    let preset ← applyValidatedLayer preset layer plant model
    return (preset, documentDigest)
  else applyOverlays plantDigest plant model 0 preset baseDigest candidate.overlays

/-! ## Accepted chains -/

/-- Layer after layer takes the first preset to the last. -/
inductive Layered (plant : PlantIdentificationArtifact F) (model : XPlaneSimulatorModel F) :
    AirframePreset F → List (CandidateLayer F) → AirframePreset F → Prop
  | nil {preset : AirframePreset F} : Layered plant model preset [] preset
  | cons {champion preset last : AirframePreset F} {layer : CandidateLayer F}
      {layers : List (CandidateLayer F)} :
      applyValidatedLayer champion layer plant model = .ok preset →
      Layered plant model preset layers last → Layered plant model champion (layer :: layers) last

/-- The identity of the chain of overlays that starts from `lineage`. -/
def lineageDigest (plantDigest lineage : ContentDigest)
    (overlays : List (CalibrationOverlay F)) : ContentDigest :=
  HashChain.chain Sha256.digest (overlayBytes · plantDigest ·) lineage overlays

/-- The overlay names the identity of the chain before it. -/
def NamesParent (lineage : ContentDigest) (overlay : CalibrationOverlay F) : Prop :=
  parseDigest overlay.parentDigest "overlays.parent_digest" = .ok lineage

/-- Every overlay names the identity of the chain before it. -/
def Chained (plantDigest lineage : ContentDigest) (overlays : List (CalibrationOverlay F)) : Prop :=
  HashChain.Linked Sha256.digest (overlayBytes · plantDigest ·) NamesParent lineage overlays

variable {plant : PlantIdentificationArtifact F} {model : XPlaneSimulatorModel F}

theorem applyOverlays_spec {plantDigest lineage digest : ContentDigest} {index : Nat}
    {preset last : AirframePreset F} {overlays : List (CalibrationOverlay F)}
    (h : applyOverlays plantDigest plant model index preset lineage overlays = .ok (last, digest)) :
    Layered plant model preset (overlays.map (·.toCandidateLayer)) last ∧
      Chained plantDigest lineage overlays ∧
      digest = lineageDigest plantDigest lineage overlays := by
  induction overlays generalizing index preset lineage with
  | nil =>
    cases h
    exact ⟨.nil, trivial, rfl⟩
  | cons overlay overlays ih =>
    unfold applyOverlays at h
    obtain ⟨parent, hparent, h⟩ := bind_eq_ok.mp h
    obtain ⟨hmatch, h⟩ := andThen_eq_ok.mp h
    obtain ⟨next, hnext, h⟩ := bind_eq_ok.mp h
    obtain rfl : parent = lineage := by simpa using hmatch
    obtain ⟨hrun, hchained, hdigest⟩ := ih h
    exact ⟨.cons hnext hrun, ⟨hparent, hchained⟩, hdigest⟩

/-! ## The resolver -/

structure CandidateIdentity where
  basePreset : ContentDigest
  candidate : ContentDigest
  plantArtifact : ContentDigest
  lineage : ContentDigest

structure ResolvedCandidate (F : Type) where
  preset : AirframePreset F
  candidateId : Bytes
  identity : CandidateIdentity
  plantArtifact : PlantIdentificationArtifact F

variable [FromToml (AirframePreset F)] [FromToml (CalibrationCandidate F)]
  [FromToml (PlantIdentificationArtifact F)]

def resolveCandidate (basePresetText candidateText plantArtifactText : Bytes)
    (simulatorModel : XPlaneSimulatorModel F) : Except CandidateError (ResolvedCandidate F) := do
  let preset ← (presetFromTomlStr basePresetText).mapError .invalidBasePreset
  refuse (preset.schemaVersion ≠ 2) (.unsupportedBaseSchema preset.schemaVersion)
  let candidate : CalibrationCandidate F ← (FromToml.fromStr candidateText).mapError .parse
  validateCandidate candidate
  let plantArtifact ←
    (PlantIdentificationArtifact.fromTomlStr plantArtifactText).mapError .plantArtifact
  let actualPlantDigest := ContentDigest.calculate plantArtifactText
  let plantDigest ← parseDigest candidate.plantArtifactDigest "plant_artifact_digest"
  refuse (plantDigest ≠ actualPlantDigest) .plantArtifactMismatch
  refuse (plantArtifact.airframeId ≠ preset.name) .plantAirframeMismatch
  let modelDigest ← simulatorModel.canonicalDigest.mapError fun error =>
    .invalidBasePreset error.display
  let expectedSimulatorModelDigest ← ContentDigest.fromHex (ContentDigest.display modelDigest)
  let simulatorModelDigest ←
    parseDigest plantArtifact.simulatorModelDigest "simulator_model_digest"
  refuse (simulatorModelDigest ≠ expectedSimulatorModelDigest) .plantSimulatorModelMismatch
  let baseDigest := ContentDigest.calculate basePresetText
  let declaredBaseDigest ← parseDigest candidate.basePresetDigest "base_preset_digest"
  refuse (declaredBaseDigest ≠ baseDigest) .basePresetMismatch
  let candidateDocumentDigest := ContentDigest.calculate candidateText
  let (preset, lineage) ← applyCandidateLayers preset candidate baseDigest actualPlantDigest
    plantArtifact simulatorModel candidateDocumentDigest
  let plantDigest ← parseDigest candidate.plantArtifactDigest "plant_artifact_digest"
  return {
    preset
    candidateId := candidate.candidateId
    identity := {
      basePreset := baseDigest
      candidate := candidateDocumentDigest
      plantArtifact := plantDigest
      lineage }
    plantArtifact }

/-- The documents an accepted candidate is made of, and what was checked of them. -/
theorem resolveCandidate_spec {basePresetText candidateText plantArtifactText : Bytes}
    {r : ResolvedCandidate F}
    (h : resolveCandidate basePresetText candidateText plantArtifactText model = .ok r) :
    ∃ (base : AirframePreset F) (candidate : CalibrationCandidate F),
      presetFromTomlStr basePresetText = .ok base ∧ base.schemaVersion = 2 ∧
        FromToml.fromStr candidateText = .ok candidate ∧ validateCandidate candidate = .ok () ∧
        PlantIdentificationArtifact.fromTomlStr plantArtifactText = .ok r.plantArtifact ∧
        applyCandidateLayers base candidate (.calculate basePresetText)
          (.calculate plantArtifactText) r.plantArtifact model (.calculate candidateText) =
            .ok (r.preset, r.identity.lineage) := by
  unfold resolveCandidate at h
  obtain ⟨base, hbase, h⟩ := bind_eq_ok.mp h
  obtain ⟨hschema, h⟩ := andThen_eq_ok.mp h
  obtain ⟨candidate, hcandidate, h⟩ := bind_eq_ok.mp h
  obtain ⟨hvalid, h⟩ := andThen_eq_ok.mp h
  obtain ⟨plant, hplant, h⟩ := bind_eq_ok.mp h
  obtain ⟨_, _, h⟩ := bind_eq_ok.mp h
  obtain ⟨_, h⟩ := andThen_eq_ok.mp h
  obtain ⟨_, h⟩ := andThen_eq_ok.mp h
  obtain ⟨_, _, h⟩ := bind_eq_ok.mp h
  obtain ⟨_, _, h⟩ := bind_eq_ok.mp h
  obtain ⟨_, _, h⟩ := bind_eq_ok.mp h
  obtain ⟨_, h⟩ := andThen_eq_ok.mp h
  obtain ⟨_, _, h⟩ := bind_eq_ok.mp h
  obtain ⟨_, h⟩ := andThen_eq_ok.mp h
  obtain ⟨⟨preset, lineage⟩, hlayers, h⟩ := bind_eq_ok.mp h
  obtain ⟨_, _, h⟩ := bind_eq_ok.mp h
  cases h
  exact ⟨base, candidate, mapError_eq_ok.mp hbase, by simpa using hschema,
    mapError_eq_ok.mp hcandidate, hvalid, mapError_eq_ok.mp hplant, hlayers⟩

end Aviate.Config

end ConfigLineage

section ConfigCandidateBounds

/-!
# The envelope of a candidate

How far a resolved candidate can be from its base preset, in real arithmetic. A step is limited
against the preset before it, and the steps of a lineage do not add up because every gain has one
stage that owns it and no stage comes twice.

Results:
1. What one layer keeps of the drift since the base (`Drift.step`), a chain of layers of different
   stages keeps (`Drift.run`).
2. A check at the ends of the confidence intervals holds everywhere in them
   (`LoopMargins.of_validate`).
3. An accepted candidate is within the envelope of its base (`resolveCandidate_calibrated`).
-/

namespace Aviate.Config

open Perturbation Validation

/-! ## The envelope -/

/-- The bounds of `validate_candidate_bounds`. -/
def TripleField.bounds : TripleField → ℚ × ℚ
  | posP => (0, 10)
  | posAccelLimits => (5 / 100, 20)
  | posVelCaps => (5 / 100, 30)
  | velP | velI | velD | rateI | rateD => (0, 20)
  | attP | rateP => (1 / 100, 20)

def ScalarField.bounds : ScalarField → ℚ × ℚ
  | velMaxRollPitch => (5 / 100, 12 / 10)
  | velMaxYawStep => (0, 32 / 10)
  | velAccelFf => (0, 1)
  | attMaxRateCmd => (1 / 10, 10)
  | rateDLpfAlpha => (5 / 100, 95 / 100)

def Gain.bounds : Gain → ℚ × ℚ
  | triple field _ => field.bounds
  | scalar field => field.bounds

/-- The candidate bounds. -/
structure WithinBounds (preset : AirframePreset ℝ) : Prop where
  hover : preset.hoverThrustSeed ∈ Set.Icc (1 / 10) (9 / 10)
  gain (gain : Gain) :
    preset.gains.read gain ∈ Set.Icc (gain.bounds.1 : ℝ) (gain.bounds.2 : ℝ)

/-- The commands stay inside the limits of the airframe. -/
structure EnvelopeRelations (preset : AirframePreset ℝ) : Prop where
  rollRate : preset.gains.attMaxRateCmd ≤ preset.limits.maxRollRate
  pitchRate : preset.gains.attMaxRateCmd ≤ preset.limits.maxPitchRate
  yawRate : preset.gains.attMaxRateCmd ≤ preset.limits.maxYawRate
  roll : preset.gains.velMaxRollPitch ≤ preset.limits.maxRoll
  pitch : preset.gains.velMaxRollPitch ≤ preset.limits.maxPitch
  speedX : preset.gains.posVelCaps.get 0 ≤ preset.limits.maxHorizontalSpeed
  speedY : preset.gains.posVelCaps.get 1 ≤ preset.limits.maxHorizontalSpeed
  climb : preset.gains.posVelCaps.get 2 ≤ preset.limits.maxClimbRate
  descent : preset.gains.posVelCaps.get 2 ≤ preset.limits.maxDescentRate

/-- The loops are separated, and slow for the delay, at every authority and delay that the
evidence allows. -/
def LoopMargins (plant : PlantIdentificationArtifact ℝ) (preset : AirframePreset ℝ) : Prop :=
  ∀ axis, ∀ k ∈ Set.Icc (plant.authorityK.get axis - plant.authorityCi95.get axis)
      (plant.authorityK.get axis + plant.authorityCi95.get axis),
    ∀ delay ∈ Set.Icc (plant.delayS.get axis - plant.delayCi95S.get axis)
        (plant.delayS.get axis + plant.delayCi95S.get axis),
      k * preset.gains.rateP.get axis / preset.gains.attP.get axis ∈ Set.Icc 5 10 ∧
        √(preset.gains.attP.get axis * k * preset.gains.rateP.get axis) * delay ≤ 35 / 100

/-- How far a preset is from the base after layers of the given stages. -/
structure Drift (base : AirframePreset ℝ) (stages : List CalibrationStage)
    (preset : AirframePreset ℝ) : Prop where
  gain (gain : Gain) : |preset.gains.read gain - base.gains.read gain| ≤
    max (25 / 100 * |base.gains.read gain|) (1 / 10)
  hover : |preset.hoverThrustSeed - base.hoverThrustSeed| ≤ 15 / 100 * |base.hoverThrustSeed|
  gain_unowned (gain : Gain) : gain.owner ∉ stages → preset.gains.read gain = base.gains.read gain
  hover_unowned : .hover ∉ stages → preset.hoverThrustSeed = base.hoverThrustSeed
  schemaVersion : preset.schemaVersion = base.schemaVersion
  name : preset.name = base.name
  mixer : preset.mixer = base.mixer
  motorCount : preset.motorCount = base.motorCount
  actuatorCurve : preset.actuatorCurve = base.actuatorCurve
  limits : preset.limits = base.limits

/-- Within the envelope of the base. -/
structure Calibrated (base : AirframePreset ℝ) (stages : List CalibrationStage)
    (plant : PlantIdentificationArtifact ℝ) (preset : AirframePreset ℝ) : Prop where
  drift : Drift base stages preset
  bounds : WithinBounds preset
  envelope : EnvelopeRelations preset
  margins : LoopMargins plant preset

/-- The stages of a candidate of either schema. -/
def CalibrationCandidate.stages {F : Type} (candidate : CalibrationCandidate F) :
    List CalibrationStage :=
  candidate.stage.toList ++ candidate.overlays.map (·.stage)

/-! ## Elementary checks -/

section Checks

variable {field : String} {value lower upper base next : ℝ}

theorem outside_real : outside value lower upper = false ↔ value ∈ Set.Icc lower upper := by
  simp [outside]

theorem bounded_real : bounded field value lower upper = .ok () ↔ value ∈ Set.Icc lower upper := by
  rw [bounded, refuse_eq_ok, outside_real]

theorem triples_real {values : Vector ℝ 3} (h : triples field values lower upper = .ok ())
    (axis : Fin 3) : values.get axis ∈ Set.Icc lower upper :=
  bounded_real.mp (forM_eq_ok.mp h _ (Vector.mem_toList_iff.mpr (Vector.getElem_mem axis.isLt)))

theorem adjacent_real :
    adjacent base next = .ok () ↔ |next - base| ≤ max (25 / 100 * |base|) (1 / 10) := by
  have hgain : |base| * maxGainStep = 25 / 100 * |base| := by
    rw [maxGainStep, lit_field, mul_comm]
    norm_num
  have hzero : (zeroBaseStep : ℝ) = 1 / 10 := by norm_num [zeroBaseStep]
  rw [adjacent, refuse_eq_ok, lt_field, max_field, abs_field, abs_field, hgain, hzero,
    decide_eq_false_iff_not, not_lt]

theorem adjacent_self : adjacent base base = .ok () := by
  rw [adjacent_real, sub_self, abs_zero]
  exact le_max_of_le_right (by norm_num)

/-- A relative step from a base that is not almost zero. -/
theorem abs_sub_le_of_relativeDelta (hnext : 1 / 10 ≤ next)
    (h : Scalar.lt maxHoverStep (relativeDelta base next) = false) :
    |next - base| ≤ 15 / 100 * |base| := by
  have heps : (0 : ℝ) < 1 / 2 ^ 23 := by positivity
  have hdelta : |next - base| / max |base| (1 / 2 ^ 23) ≤ 15 / 100 := by
    simpa [maxHoverStep, relativeDelta, epsilon] using h
  rw [div_le_iff₀ (lt_max_of_lt_right heps)] at hdelta
  rcases le_total (1 / 2 ^ 23) |base| with hle | hle
  · rwa [max_eq_left hle] at hdelta
  · exfalso
    rw [max_eq_right hle] at hdelta
    have hbase := (le_abs_self base).trans hle
    have hdist := (le_abs_self (next - base)).trans hdelta
    norm_num at hbase hdist
    linarith

end Checks

/-! ## The result of a layer -/

section Layer

variable {champion preset : AirframePreset ℝ} {layer : CandidateLayer ℝ}
  {plant : PlantIdentificationArtifact ℝ} {model : XPlaneSimulatorModel ℝ}

theorem WithinBounds.of_validate (h : validateCandidateBounds preset = .ok ()) :
    WithinBounds preset := by
  unfold validateCandidateBounds at h
  simp only [andThen_eq_ok] at h
  obtain ⟨hhover, hposP, haccel, hcaps, hvelP, hvelI, hvelD, htilt, hyaw, hff, hattP, hcmd, hrateP,
    hrateI, hrateD, halpha⟩ := h
  refine ⟨by simpa using bounded_real.mp hhover, fun gain => ?_⟩
  cases gain with
  | triple field axis =>
    cases field with
    | posP => exact triples_real hposP axis
    | posAccelLimits => exact triples_real haccel axis
    | posVelCaps => exact triples_real hcaps axis
    | velP => exact triples_real hvelP axis
    | velI => exact triples_real hvelI axis
    | velD => exact triples_real hvelD axis
    | attP => exact triples_real hattP axis
    | rateP => exact triples_real hrateP axis
    | rateI => exact triples_real hrateI axis
    | rateD => exact triples_real hrateD axis
  | scalar field =>
    cases field with
    | velMaxRollPitch => exact bounded_real.mp htilt
    | velMaxYawStep => exact bounded_real.mp hyaw
    | velAccelFf => exact bounded_real.mp hff
    | attMaxRateCmd => exact bounded_real.mp hcmd
    | rateDLpfAlpha => exact bounded_real.mp halpha

/-- The step of every gain is checked against the champion. -/
theorem adjacent_of_validate (h : validateRelativeSteps preset champion = .ok ()) (gain : Gain) :
    |preset.gains.read gain - champion.gains.read gain| ≤
      max (25 / 100 * |champion.gains.read gain|) (1 / 10) := by
  unfold validateRelativeSteps at h
  obtain ⟨htriples, hscalars⟩ := andThen_eq_ok.mp h
  rw [← adjacent_real]
  cases gain with
  | triple field axis =>
    have hfield := forM_eq_ok.mp htriples (preset.gains.triple field, champion.gains.triple field)
      (by cases field <;> simp [GainsPreset.triple])
    exact forM_eq_ok.mp hfield axis (mem_axes axis)
  | scalar field =>
    exact forM_eq_ok.mp hscalars (preset.gains.scalar field, champion.gains.scalar field)
      (by cases field <;> simp [GainsPreset.scalar])

theorem EnvelopeRelations.of_validate (h : validateEnvelopeRelations preset = .ok ()) :
    EnvelopeRelations preset := by
  unfold validateEnvelopeRelations at h
  obtain ⟨hrate, h⟩ := andThen_eq_ok.mp h
  obtain ⟨htilt, hspeed⟩ := andThen_eq_ok.mp h
  simp only [refuse_eq_ok, Bool.or_eq_false_iff, lt_field, min_field, decide_eq_false_iff_not,
    not_lt, le_min_iff] at hrate htilt hspeed
  exact ⟨hrate.1.1, hrate.1.2, hrate.2, htilt.1, htilt.2, hspeed.1.1, hspeed.1.2, hspeed.2.1,
    hspeed.2.2⟩

theorem delay_nonneg (h : plant.validate = .ok ()) (axis : Fin 3) :
    0 ≤ plant.delayS.get axis + plant.delayCi95S.get axis := by
  unfold PlantIdentificationArtifact.validate at h
  simp only [andThen_eq_ok] at h
  obtain ⟨_, _, _, _, _, _, _, _, _, _, haxes⟩ := h
  have haxis := forM_eq_ok.mp haxes axis (mem_axes axis)
  unfold PlantIdentificationArtifact.validateAxis at haxis
  obtain ⟨_, haxis⟩ := andThen_eq_ok.mp haxis
  obtain ⟨hdelay, haxis⟩ := andThen_eq_ok.mp haxis
  obtain ⟨hci, _⟩ := andThen_eq_ok.mp haxis
  simp only [PlantIdentificationArtifact.bounded, refuse_eq_ok, outside_real] at hdelay hci
  have hdelay := hdelay.1
  have hci := hci.1
  norm_num at hdelay hci
  exact add_nonneg hdelay hci

/-- Separation and bandwidth grow with the authority, so its ends and the longest delay are
enough. -/
theorem LoopMargins.of_validate {design : Option (InnerLoopDesign ℝ)}
    (hplant : plant.validate = .ok ()) (hbounds : WithinBounds preset)
    (h : validateInnerLoop preset design plant = .ok ()) : LoopMargins plant preset := by
  intro axis k hk delay hdelay
  have hatt : 0 < preset.gains.attP.get axis := by
    have hlower := (hbounds.gain (.triple .attP axis)).1
    norm_num [Gain.bounds, TripleField.bounds, GainsPreset.read, GainsPreset.triple] at hlower
    linarith
  have hrate : 0 < preset.gains.rateP.get axis := by
    have hlower := (hbounds.gain (.triple .rateP axis)).1
    norm_num [Gain.bounds, TripleField.bounds, GainsPreset.read, GainsPreset.triple] at hlower
    linarith
  have haxis := forM_eq_ok.mp h axis (mem_axes axis)
  unfold validateInnerLoopAxis at haxis
  obtain ⟨_, haxis⟩ := andThen_eq_ok.mp haxis
  obtain ⟨hlow, haxis⟩ := andThen_eq_ok.mp haxis
  obtain ⟨hseparation, haxis⟩ := andThen_eq_ok.mp haxis
  obtain ⟨hproduct, _⟩ := andThen_eq_ok.mp haxis
  simp only [refuse_eq_ok, Bool.or_eq_false_iff, lt_field, le_field, lit_field, sqrtf_real,
    decide_eq_false_iff_not, not_lt, not_le, minLoopSeparation, maxLoopSeparation, maxDelayProduct]
    at hlow hseparation hproduct
  push_cast at hlow hseparation hproduct
  have hk0 : 0 < k := hlow.trans_le hk.1
  refine ⟨⟨?_, ?_⟩, ?_⟩
  · refine hseparation.1.trans ?_
    gcongr
    exact hk.1
  · refine le_trans ?_ hseparation.2
    gcongr
    exact hk.2
  · have hroot : √(preset.gains.attP.get axis * k * preset.gains.rateP.get axis) ≤
        √(preset.gains.attP.get axis *
          (plant.authorityK.get axis + plant.authorityCi95.get axis) *
          preset.gains.rateP.get axis) := by
      apply Real.sqrt_le_sqrt
      gcongr
      exact hk.2
    calc _ ≤ √(preset.gains.attP.get axis * k * preset.gains.rateP.get axis) *
          (plant.delayS.get axis + plant.delayCi95S.get axis) :=
        mul_le_mul_of_nonneg_left hdelay.2 (Real.sqrt_nonneg _)
      _ ≤ _ := mul_le_mul_of_nonneg_right hroot (delay_nonneg hplant axis)
      _ ≤ 35 / 100 := hproduct

end Layer

/-! ## The drift of a chain -/

section Chain

variable {base champion preset : AirframePreset ℝ} {layer : CandidateLayer ℝ}
  {layers : List (CandidateLayer ℝ)} {stages : List CalibrationStage}
  {plant : PlantIdentificationArtifact ℝ} {model : XPlaneSimulatorModel ℝ}

theorem Drift.start : Drift base [] base where
  gain gain := by
    rw [sub_self, abs_zero]
    exact le_max_of_le_right (by norm_num)
  hover := by
    rw [sub_self, abs_zero]
    positivity
  gain_unowned _ _ := rfl
  hover_unowned _ := rfl
  schemaVersion := rfl
  name := rfl
  mixer := rfl
  motorCount := rfl
  actuatorCurve := rfl
  limits := rfl

/-- A layer of a new stage changes only what is still as in the base, so its step against the
champion is a step against the base. -/
theorem Drift.step (hbase : base.schemaVersion = 2) (hdrift : Drift base stages champion)
    (hfresh : layer.stage ∉ stages)
    (h : applyValidatedLayer champion layer plant model = .ok preset) :
    Drift base (stages ++ [layer.stage]) preset := by
  have hchecked := applyValidatedLayer_checked h
  have hframe := applyLayer_eq hchecked.applied
  have hbounds := WithinBounds.of_validate hchecked.bounds
  have hseed : layer.stage ≠ .hover → preset.hoverThrustSeed = champion.hoverThrustSeed := by
    intro hstage
    rw [applyLayer_seed hchecked.applied, layer.owned_hover hchecked.owned hstage]
    rfl
  constructor
  case gain =>
    intro gain
    by_cases howner : gain.owner = layer.stage
    · rw [← hdrift.gain_unowned gain (howner ▸ hfresh)]
      exact adjacent_of_validate hchecked.steps gain
    · rw [applyLayer_read hchecked.applied hchecked.owned howner]
      exact hdrift.gain gain
  case hover =>
    by_cases hstage : layer.stage = .hover
    · have hstep := hchecked.hover
      unfold validateHover at hstep
      obtain ⟨_, hstep⟩ := andThen_eq_ok.mp hstep
      obtain ⟨_, hstep⟩ := andThen_eq_ok.mp hstep
      have hpreset : preset.schemaVersion = 2 := by rw [hframe, hdrift.schemaVersion, hbase]
      have hchampion : champion.schemaVersion = 2 := by rw [hdrift.schemaVersion, hbase]
      rw [refuse_eq_ok, hstage, decide_eq_true rfl, Bool.true_and,
        preset.hoverThrustForceSeed_of_schema_two hpreset,
        champion.hoverThrustForceSeed_of_schema_two hchampion,
        hdrift.hover_unowned (hstage ▸ hfresh)] at hstep
      exact abs_sub_le_of_relativeDelta hbounds.hover.1 hstep
    · rw [hseed hstage]
      exact hdrift.hover
  case gain_unowned =>
    intro gain howner
    rw [List.mem_append, List.mem_singleton, not_or] at howner
    rw [applyLayer_read hchecked.applied hchecked.owned howner.2]
    exact hdrift.gain_unowned gain howner.1
  case hover_unowned =>
    intro howner
    rw [List.mem_append, List.mem_singleton, not_or] at howner
    rw [hseed (Ne.symm howner.2)]
    exact hdrift.hover_unowned howner.1
  all_goals rw [hframe]
  case schemaVersion => exact hdrift.schemaVersion
  case name => exact hdrift.name
  case mixer => exact hdrift.mixer
  case motorCount => exact hdrift.motorCount
  case actuatorCurve => exact hdrift.actuatorCurve
  case limits => exact hdrift.limits

theorem Drift.run (hbase : base.schemaVersion = 2) (hdrift : Drift base stages champion)
    (hnodup : (layers.map (·.stage)).Nodup)
    (hfresh : ∀ layer ∈ layers, layer.stage ∉ stages)
    (h : Layered plant model champion layers preset) :
    Drift base (stages ++ layers.map (·.stage)) preset := by
  induction h generalizing stages with
  | nil => rwa [List.map_nil, List.append_nil]
  | cons hlayer _ ih =>
    rw [List.map_cons, List.nodup_cons] at hnodup
    rw [List.forall_mem_cons] at hfresh
    rw [List.map_cons, List.append_cons]
    refine ih (hdrift.step hbase hfresh.1 hlayer) hnodup.2 fun next hnext => ?_
    rw [List.mem_append, List.mem_singleton, not_or]
    exact ⟨hfresh.2 next hnext, fun heq => hnodup.1 (heq ▸ List.mem_map_of_mem hnext)⟩

/-- The last preset of a chain passed the checks of its last layer. -/
theorem Layered.last_checked (h : Layered plant model base layers preset) (hne : layers ≠ []) :
    ∃ champion layer, Checked champion preset layer plant model := by
  induction h with
  | nil => exact absurd rfl hne
  | cons hlayer hrest ih =>
    cases hrest with
    | nil => exact ⟨_, _, applyValidatedLayer_checked hlayer⟩
    | cons => exact ih (List.cons_ne_nil _ _)

end Chain

/-! ## Accepted candidates -/

section Resolved

variable [FloatBits ℝ] [Sha256] {base preset : AirframePreset ℝ}
  {candidate : CalibrationCandidate ℝ} {plant : PlantIdentificationArtifact ℝ}
  {model : XPlaneSimulatorModel ℝ}

/-- A candidate of either schema is a chain of layers of different stages. -/
theorem applyCandidateLayers_spec {baseDigest plantDigest documentDigest lineage : ContentDigest}
    (hvalid : validateCandidate candidate = .ok ())
    (h : applyCandidateLayers base candidate baseDigest plantDigest plant model documentDigest =
      .ok (preset, lineage)) :
    ∃ layers, Layered plant model base layers preset ∧ layers ≠ [] ∧
      layers.map (·.stage) = candidate.stages ∧ candidate.stages.Nodup := by
  unfold applyCandidateLayers at h
  rcases validateCandidate_spec hvalid with ⟨hschema, hshape⟩ | ⟨hschema, hshape⟩
  · obtain ⟨⟨stage, hstage⟩, hnone⟩ := validateLegacyShape_spec hshape
    rw [if_pos hschema] at h
    obtain ⟨layer, hlayer, h⟩ := bind_eq_ok.mp h
    obtain ⟨next, hnext, h⟩ := bind_eq_ok.mp h
    cases h
    rw [CandidateLayer.legacy, hstage] at hlayer
    cases hlayer
    refine ⟨_, .cons hnext .nil, List.cons_ne_nil _ _, ?_, ?_⟩
    · rw [CalibrationCandidate.stages, hstage, hnone]
      rfl
    · rw [CalibrationCandidate.stages, hstage, hnone]
      exact List.nodup_singleton _
  · obtain ⟨hstage, hne, _, hnodup⟩ := validateLineageShape_spec hshape
    rw [if_neg (by rw [hschema]; decide)] at h
    have hstages : candidate.stages = candidate.overlays.map (·.stage) := by
      rw [CalibrationCandidate.stages, hstage]
      rfl
    refine ⟨_, (applyOverlays_spec h).1, ?_, ?_, hstages ▸ hnodup⟩
    · rwa [ne_eq, List.map_eq_nil_iff]
    · rw [List.map_map, hstages]
      rfl

variable [FromToml (AirframePreset ℝ)] [FromToml (CalibrationCandidate ℝ)]
  [FromToml (PlantIdentificationArtifact ℝ)]

/-- Whatever a candidate does in however many overlays, what the resolver accepts is within the
envelope of the base preset. -/
theorem resolveCandidate_calibrated {basePresetText candidateText plantArtifactText : Bytes}
    {r : ResolvedCandidate ℝ}
    (h : resolveCandidate basePresetText candidateText plantArtifactText model = .ok r) :
    ∃ (base : AirframePreset ℝ) (candidate : CalibrationCandidate ℝ),
      presetFromTomlStr basePresetText = .ok base ∧ FromToml.fromStr candidateText = .ok candidate ∧
        PlantIdentificationArtifact.fromTomlStr plantArtifactText = .ok r.plantArtifact ∧
        Calibrated base candidate.stages r.plantArtifact r.preset := by
  obtain ⟨base, candidate, hbase, hschema, hcandidate, hvalid, hplant, hlayers⟩ :=
    resolveCandidate_spec h
  obtain ⟨layers, hrun, hne, hstages, hnodup⟩ := applyCandidateLayers_spec hvalid hlayers
  obtain ⟨champion, layer, hchecked⟩ := hrun.last_checked hne
  have hdrift := Drift.start.run hschema (hstages ▸ hnodup) (fun _ _ => List.not_mem_nil) hrun
  rw [List.nil_append, hstages] at hdrift
  have hbounds := WithinBounds.of_validate hchecked.bounds
  exact ⟨base, candidate, hbase, hcandidate, hplant, hdrift, hbounds,
    .of_validate hchecked.envelope,
    .of_validate (PlantIdentificationArtifact.validate_of_fromTomlStr hplant) hbounds
      hchecked.innerLoop⟩

end Resolved

/-! ## A sample candidate -/

section Sample

/-- The bytes of a text, given by its lines. -/
def document (lines : List String) : Bytes :=
  lines.flatMap fun line => line.toUTF8.toList ++ [0x0A]

/-- A hexadecimal text as the digest it writes. -/
def sampleDigest (hex : String) : ContentDigest :=
  (ContentDigest.fromHex hex.toUTF8.toList).toOption.getD (.replicate 32 0)

theorem fromHex_sample {hex : String} (h : isHexDigest hex.toUTF8.toList = true) :
    ContentDigest.fromHex hex.toUTF8.toList = .ok (sampleDigest hex) := by
  simp only [sampleDigest, ContentDigest.fromHex, h]
  rfl

def sampleBaseHex : String := "76707bc4f733fd952108398dbee2912b06831ee8f17dfb934b76376874b34f5f"

def sampleModelHex : String := "62222e7221ee99c18080320ade7de1ec46e56d5a2d82b707b0900571ecf6d415"

def samplePlantHex : String := "1ab0409b32d3165a54ce3b440200b7b8706a0684adce5d90ac9aaac06f23953a"

def sampleClimbHex : String := "556951cf22dcbc7cd113d720ff3ed66dd26a42d9eefeb6e137bc5a98f4320dac"

def sampleBaseText : Bytes :=
  document ["schema_version = 2", "name = \"quad\"", "mixer = \"quad-x\"", "motor_count = 4",
    "hover_thrust_seed = 0.5", "actuator_curve = \"linear\"", "[gains]", "pos_p = [1.0, 1.0, 1.0]",
    "pos_accel_limits = [1.0, 1.0, 1.0]", "pos_vel_caps = [1.0, 1.0, 1.0]",
    "vel_p = [1.0, 1.0, 1.0]", "vel_i = [0.0, 0.0, 0.0]", "vel_d = [0.0, 0.0, 0.0]",
    "att_p = [1.0, 1.0, 1.0]", "rate_p = [1.0, 1.0, 1.0]", "rate_i = [0.0, 0.0, 0.0]",
    "rate_d = [0.0, 0.0, 0.0]", "vel_max_roll_pitch = 1.0", "vel_max_yaw_step = 1.0",
    "vel_accel_ff = 1.0", "att_max_rate_cmd = 1.0", "rate_d_lpf_alpha = 0.5", "[limits]",
    "max_roll = 1.0", "max_pitch = 1.0", "max_roll_rate = 1.0", "max_pitch_rate = 1.0",
    "max_yaw_rate = 1.0", "max_horizontal_speed = 1.0", "max_climb_rate = 1.0",
    "max_descent_rate = 1.0", "max_altitude = 1.0", "min_altitude = 0.0"]

def samplePlantText : Bytes :=
  document ["schema_version = 1", "artifact_id = \"plant\"", "airframe_id = \"quad\"",
    "simulator_model_digest = \"62222e7221ee99c18080320ade7de1ec46e56d5a2d82b707b0900571ecf6d415\"",
    "run_manifest_digest = \"aaaaaaaaaaaaaaaaaaaaaaaaaaaaaaaaaaaaaaaaaaaaaaaaaaaaaaaaaaaaaaaa\"",
    "trace_digest = \"bbbbbbbbbbbbbbbbbbbbbbbbbbbbbbbbbbbbbbbbbbbbbbbbbbbbbbbbbbbbbbbb\"",
    "sample_clock = \"simulator-microseconds\"", "operating_hover_force = 0.5",
    "probe_rad_s = [1.0, 2.0]", "sample_rate_hz = 100.0", "authority_k = [8.0, 8.0, 8.0]",
    "delay_s = [0.0625, 0.0625, 0.0625]", "delay_ci95_s = [0.03125, 0.03125, 0.03125]",
    "r_squared = [1.0, 1.0, 1.0]", "authority_ci95 = [1.0, 1.0, 1.0]",
    "coherence = [1.0, 1.0, 1.0]", "applied_input_max = [1.0, 1.0, 1.0]",
    "sample_count = [100, 100, 100]", "saturation_fraction = [0.0, 0.0, 0.0]",
    "response_sign = [1, 1, 1]"]

/-- The first overlay raises the hover seed by an eighth, the second sets the velocity I gains. -/
def sampleText (candidateId overlayId gain : String) : Bytes :=
  document ["schema_version = 2", "candidate_id = \"" ++ candidateId ++ "\"",
    "base_preset_digest = \"" ++ sampleBaseHex ++ "\"",
    "plant_artifact_digest = \"" ++ samplePlantHex ++ "\"",
    "[[overlays]]", "overlay_id = \"climb\"", "parent_digest = \"" ++ sampleBaseHex ++ "\"",
    "stage = \"hover\"", "hover_thrust_seed = 0.5625",
    "[[overlays]]", "overlay_id = \"" ++ overlayId ++ "\"",
    "parent_digest = \"" ++ sampleClimbHex ++ "\"", "stage = \"outer-loop\"",
    "[overlays.gains]", "vel_i = [" ++ gain ++ ", " ++ gain ++ ", " ++ gain ++ "]"]

def sampleWindText : Bytes := sampleText "wind" "wind-up" "0.03125"

/-- Two bytes that tell the messages of the samples apart. -/
def sampleKey (message : Bytes) : Nat × Nat :=
  ((message.getD 35 0).toNat, (message.getD 91 0).toNat)

/-- The SHA-256 values of the messages of the samples. -/
def sampleHex : Nat × Nat → String
  | (120, 99) => sampleBaseHex
  | (108, 50) => samplePlantHex
  | (0, 55) => sampleModelHex
  | (33, 5) => sampleClimbHex
  | (119, 57) => "38b6b4e2a9485e0e767dd656b6e7cbbcb867a6ac64810452ab0ecb68deb425fa"
  | (112, 57) => "4bb2ba7093bbf34c8af57cb56f760614c0ab30929449d83b84712e5e36417869"
  | (109, 50) => "d04f9f7bf0152b0d51ac46524f92ce3b5fc7497fa2c39916dc9c86892236d074"
  | (209, 7) => "b2f3d6dd03d974a34eadbb8e4b9bcf9000a67df23c96fe5ee590df14f5dc1d3c"
  | _ => "37ee122802f39ccad20510c1736f297b31912de146df4d3ad4803b1ece12cc7b"

@[reducible] def sampleSha256 : Sha256 where
  digest message := sampleDigest (sampleHex (sampleKey message))

variable (F : Type) [Scalar F]

def sampleBase : AirframePreset F where
  schemaVersion := 2
  name := "quad".toUTF8.toList
  mixer := .quadX
  motorCount := 4
  hoverThrustSeed := lit (1 / 2)
  actuatorCurve := .linear
  gains :=
    { posP := .replicate 3 (lit 1)
      posAccelLimits := .replicate 3 (lit 1)
      posVelCaps := .replicate 3 (lit 1)
      velP := .replicate 3 (lit 1)
      velI := .replicate 3 (lit 0)
      velD := .replicate 3 (lit 0)
      velMaxRollPitch := lit 1
      velMaxYawStep := lit 1
      velAccelFf := lit 1
      attP := .replicate 3 (lit 1)
      attMaxRateCmd := lit 1
      rateP := .replicate 3 (lit 1)
      rateI := .replicate 3 (lit 0)
      rateD := .replicate 3 (lit 0)
      rateDLpfAlpha := lit (1 / 2) }
  limits :=
    { maxRoll := lit 1
      maxPitch := lit 1
      maxRollRate := lit 1
      maxPitchRate := lit 1
      maxYawRate := lit 1
      maxHorizontalSpeed := lit 1
      maxClimbRate := lit 1
      maxDescentRate := lit 1
      maxAltitude := lit 1
      minAltitude := lit 0 }

def samplePlant : PlantIdentificationArtifact F where
  schemaVersion := 1
  artifactId := "plant".toUTF8.toList
  airframeId := "quad".toUTF8.toList
  simulatorModelDigest := sampleModelHex.toUTF8.toList
  runManifestDigest := .replicate 64 0x61
  traceDigest := .replicate 64 0x62
  sampleClock := .simulatorMicroseconds
  operatingHoverForce := lit (1 / 2)
  probeRadS := #v[lit 1, lit 2]
  sampleRateHz := lit 100
  authorityK := .replicate 3 (lit 8)
  delayS := .replicate 3 (lit (1 / 16))
  delayCi95S := .replicate 3 (lit (1 / 32))
  rSquared := .replicate 3 (lit 1)
  authorityCi95 := .replicate 3 (lit 1)
  coherence := .replicate 3 (lit 1)
  appliedInputMax := .replicate 3 (lit 1)
  sampleCount := .replicate 3 100
  saturationFraction := .replicate 3 (lit 0)
  responseSign := .replicate 3 1

def sampleModel : XPlaneSimulatorModel F where
  schemaVersion := 1
  modelId := "quad-xplane".toUTF8.toList
  airframeId := "quad".toUTF8.toList
  airframePresetDigest := sampleBaseHex.toUTF8.toList
  aircraftId := "quad".toUTF8.toList
  simulatorId := "xplane-12".toUTF8.toList
  aircraftFileDigest := .replicate 64 0x61
  bridgeProtocol := .mavlinkHilTcpV1
  mixerGeometry := .quadX
  actuatorCurve := .linear
  motorCount := 4
  sampleRateHz := 100
  maxSamplesPerIteration := 1
  laneOrder := #v[0, 1, 2, 3]
  wire :=
    { risePerS := lit 1
      bandBoundary := lit 1
      lowBandRisePerS := lit 1
      fallPerS := lit 1
      meanCeiling := lit 1
      laneCeiling := lit 1
      airborneClearanceM := lit 1
      groundSqueeze := lit 1
      maxSampleDtS := lit (1 / 2) }

/-- The layer of one stage that overrides the hover seed and the velocity I gains. -/
def sampleLayer (stage : CalibrationStage) (hover : Option F) (velI : Option (Vector F 3)) :
    CandidateLayer F where
  stage := stage
  hoverThrustSeed := hover
  innerLoop := none
  gains := ⟨none, none, none, none, velI, none, none, none, none, none, none, none, none⟩

def climbLayer : CandidateLayer F := sampleLayer F .hover (some (lit (9 / 16))) none

/-- The layer that sets the velocity I gains to one value. -/
def dampLayer (value : F) : CandidateLayer F :=
  sampleLayer F .outerLoop none (some (.replicate 3 value))

def climbOverlay : CalibrationOverlay F :=
  { climbLayer F with
    overlayId := "climb".toUTF8.toList
    parentDigest := sampleBaseHex.toUTF8.toList }

def dampOverlay (overlayId : String) (value : F) : CalibrationOverlay F :=
  { dampLayer F value with
    overlayId := overlayId.toUTF8.toList
    parentDigest := sampleClimbHex.toUTF8.toList }

/-- A candidate of two stages. -/
def sampleCandidate (candidateId overlayId : String) (value : F) : CalibrationCandidate F where
  schemaVersion := 2
  candidateId := candidateId.toUTF8.toList
  basePresetDigest := sampleBaseHex.toUTF8.toList
  plantArtifactDigest := samplePlantHex.toUTF8.toList
  stage := none
  hoverThrustSeed := none
  innerLoop := none
  gains := ⟨none, none, none, none, none, none, none, none, none, none, none, none, none⟩
  overlays := [climbOverlay F, dampOverlay F overlayId value]

/-- The sample preset with a higher hover seed and one value for the velocity I gains. -/
def tunedPreset (value : F) : AirframePreset F :=
  { sampleBase F with
    hoverThrustSeed := lit (9 / 16)
    gains := { (sampleBase F).gains with velI := .replicate 3 value } }

/-- Decode the text of one document. -/
@[reducible] def sampleToml {α : Type} (text : Bytes) (value : α) : FromToml α where
  fromStr document := if document = text then .ok value else .error "not a sample"

variable [FloatBits F]

attribute [local instance] sampleSha256

/-- What the resolver makes of a sample candidate. -/
def sampleResolved (text : Bytes) (candidateId overlayId : String) (value : F) :
    ResolvedCandidate F where
  preset := tunedPreset F value
  candidateId := candidateId.toUTF8.toList
  identity :=
    { basePreset := sampleDigest sampleBaseHex
      candidate := .calculate text
      plantArtifact := sampleDigest samplePlantHex
      lineage := lineageDigest (sampleDigest samplePlantHex) (sampleDigest sampleBaseHex)
        (sampleCandidate F candidateId overlayId value).overlays }
  plantArtifact := samplePlant F

theorem digest_of_key {message : Bytes} {key : Nat × Nat} (h : sampleKey message = key) :
    Sha256.digest message = sampleDigest (sampleHex key) :=
  congrArg (fun key => sampleDigest (sampleHex key)) h

/-- What the resolver looks at in the bytes of the samples. -/
theorem sample_bytes :
    (∀ hex ∈ [sampleBaseHex, samplePlantHex, sampleModelHex, sampleClimbHex],
      isHexDigest hex.toUTF8.toList = true) ∧
    ContentDigest.display (sampleDigest sampleModelHex) = sampleModelHex.toUTF8.toList ∧
    lineageTag.length = 27 ∧
    sampleKey sampleBaseText = (120, 99) ∧ sampleKey samplePlantText = (108, 50) ∧
    sampleKey (lineageTag ++ Digest.toList (sampleDigest sampleBaseHex) ++
      Digest.toList (sampleDigest samplePlantHex) ++ textBytes "climb".toUTF8.toList) = (33, 5) := by
  decide +kernel

theorem sampleBaseText_digest :
    ContentDigest.calculate sampleBaseText = sampleDigest sampleBaseHex := by
  rw [ContentDigest.calculate, digest_of_key sample_bytes.2.2.2.1, sampleHex]

theorem samplePlantText_digest :
    ContentDigest.calculate samplePlantText = sampleDigest samplePlantHex := by
  rw [ContentDigest.calculate, digest_of_key sample_bytes.2.2.2.2.1, sampleHex]

theorem sampleKey_append {head tail : Bytes} (h : 91 < head.length) :
    sampleKey (head ++ tail) = sampleKey head := by
  rw [sampleKey, List.getD_append _ _ _ _ (by omega), List.getD_append _ _ _ _ h, sampleKey]

/-- What tells the messages of a chain apart stands before the overrides. -/
theorem sampleKey_overlayBytes (parent plant : ContentDigest) (overlay : CalibrationOverlay F) :
    sampleKey (overlayBytes parent plant overlay) = sampleKey (lineageTag ++ Digest.toList parent ++
      Digest.toList plant ++ textBytes overlay.overlayId) := by
  have hdigest (digest : ContentDigest) : (Digest.toList digest).length = 32 := digest.size_toArray
  rw [overlayBytes, List.append_assoc, List.append_assoc, List.append_assoc, sampleKey_append]
  simp only [textBytes, List.length_append, sample_bytes.2.2.1, hdigest, ByteBuffer.length_u64Bytes]
  omega

variable {F}

theorem climbOverlay_digest : calculateOverlayLineageDigest (sampleDigest sampleBaseHex)
    (sampleDigest samplePlantHex) (climbOverlay F) = sampleDigest sampleClimbHex := by
  have hkey := (sampleKey_overlayBytes F _ _ (climbOverlay F)).trans sample_bytes.2.2.2.2.2
  rw [calculateOverlayLineageDigest, ContentDigest.calculate, digest_of_key hkey, sampleHex]

variable [Libm F] [FromToml (AirframePreset F)] [FromToml (CalibrationCandidate F)]
  [FromToml (PlantIdentificationArtifact F)] {text : Bytes} {candidateId overlayId : String}
  {value : F}

/-- The documents of a sample fit together, so it is accepted as soon as its layers are. -/
theorem sample_accepted (hbase : FromToml.fromStr sampleBaseText = .ok (sampleBase F))
    (hbaseValid : (sampleBase F).validate = .ok ())
    (hplant : FromToml.fromStr samplePlantText = .ok (samplePlant F))
    (hplantValid : (samplePlant F).validate = .ok ())
    (hmodel : (sampleModel F).canonicalDigest = .ok (sampleDigest sampleModelHex))
    (hcandidate : FromToml.fromStr text = .ok (sampleCandidate F candidateId overlayId value))
    (hvalid : validateCandidate (sampleCandidate F candidateId overlayId value) = .ok ())
    (hclimb : applyValidatedLayer (sampleBase F) (climbLayer F) (samplePlant F) (sampleModel F) =
      .ok (tunedPreset F (lit 0)))
    (hdamp : applyValidatedLayer (tunedPreset F (lit 0)) (dampLayer F value) (samplePlant F)
      (sampleModel F) = .ok (tunedPreset F value)) :
    resolveCandidate sampleBaseText text samplePlantText (sampleModel F) =
      .ok (sampleResolved F text candidateId overlayId value) := by
  obtain ⟨hdigits, hmodelText, -⟩ := sample_bytes
  have hhex {hex : String}
      (hmem : hex ∈ [sampleBaseHex, samplePlantHex, sampleModelHex, sampleClimbHex]) :
      ContentDigest.fromHex hex.toUTF8.toList = .ok (sampleDigest hex) :=
    fromHex_sample (hdigits hex hmem)
  have hbaseHex := @hhex sampleBaseHex (by simp)
  have hplantHex := @hhex samplePlantHex (by simp)
  have hmodelHex := @hhex sampleModelHex (by simp)
  have hclimbHex := @hhex sampleClimbHex (by simp)
  have hmatch {digest : ContentDigest} {e : CandidateError} :
      refuse (digest ≠ digest) e = .ok () := by
    rw [refuse_eq_ok, decide_eq_false_iff_not, not_not]
  have hname : refuse ((samplePlant F).airframeId ≠ (sampleBase F).name)
      CandidateError.plantAirframeMismatch = .ok () := by
    rw [refuse_eq_ok, decide_eq_false_iff_not, not_not]
    rfl
  have hparsed : presetFromTomlStr sampleBaseText = .ok (sampleBase F) :=
    bind_eq_ok.mpr ⟨_, hbase, andThen_eq_ok.mpr ⟨mapError_eq_ok.mpr hbaseValid, rfl⟩⟩
  have hevidence : PlantIdentificationArtifact.fromTomlStr samplePlantText = .ok (samplePlant F) :=
    bind_eq_ok.mpr ⟨_, mapError_eq_ok.mpr hplant, andThen_eq_ok.mpr ⟨hplantValid, rfl⟩⟩
  have hlink : refuse (sampleDigest sampleClimbHex ≠ calculateOverlayLineageDigest
      (sampleDigest sampleBaseHex) (sampleDigest samplePlantHex) (climbOverlay F))
      (CandidateError.lineageMismatch 1) = .ok () := by
    rw [climbOverlay_digest]
    exact hmatch
  have hlayers : applyCandidateLayers (sampleBase F) (sampleCandidate F candidateId overlayId value)
      (sampleDigest sampleBaseHex) (sampleDigest samplePlantHex) (samplePlant F) (sampleModel F)
      (.calculate text) = .ok (tunedPreset F value,
        (sampleResolved F text candidateId overlayId value).identity.lineage) := by
    refine bind_eq_ok.mpr ⟨_, mapError_eq_ok.mpr hbaseHex, andThen_eq_ok.mpr ⟨hmatch, ?_⟩⟩
    refine bind_eq_ok.mpr ⟨_, hclimb, ?_⟩
    refine bind_eq_ok.mpr ⟨_, mapError_eq_ok.mpr hclimbHex, andThen_eq_ok.mpr ⟨hlink, ?_⟩⟩
    exact bind_eq_ok.mpr ⟨_, hdamp, rfl⟩
  unfold resolveCandidate
  rw [sampleBaseText_digest, samplePlantText_digest]
  refine bind_eq_ok.mpr ⟨_, mapError_eq_ok.mpr hparsed, andThen_eq_ok.mpr ⟨rfl, ?_⟩⟩
  refine bind_eq_ok.mpr ⟨_, mapError_eq_ok.mpr hcandidate, andThen_eq_ok.mpr ⟨hvalid, ?_⟩⟩
  refine bind_eq_ok.mpr ⟨_, mapError_eq_ok.mpr hevidence, ?_⟩
  refine bind_eq_ok.mpr ⟨_, mapError_eq_ok.mpr hplantHex, andThen_eq_ok.mpr ⟨hmatch, ?_⟩⟩
  refine andThen_eq_ok.mpr ⟨hname, bind_eq_ok.mpr ⟨_, mapError_eq_ok.mpr hmodel, ?_⟩⟩
  rw [hmodelText]
  refine bind_eq_ok.mpr ⟨_, hmodelHex, bind_eq_ok.mpr ⟨_, mapError_eq_ok.mpr hmodelHex, ?_⟩⟩
  refine andThen_eq_ok.mpr ⟨hmatch, bind_eq_ok.mpr ⟨_, mapError_eq_ok.mpr hbaseHex, ?_⟩⟩
  refine andThen_eq_ok.mpr ⟨hmatch, bind_eq_ok.mpr ⟨_, hlayers, ?_⟩⟩
  exact bind_eq_ok.mpr ⟨_, mapError_eq_ok.mpr hplantHex, rfl⟩

end Sample

/-! ## The sample is accepted -/

section Wind

/-- The bits of the numbers of the sample model. -/
@[reducible] noncomputable def sampleFloatBits : FloatBits ℝ where
  toBits x := if x = 1 then 0x3F800000 else 0x3F000000

@[reducible] noncomputable def windBaseToml : FromToml (AirframePreset ℝ) :=
  sampleToml sampleBaseText (sampleBase ℝ)

@[reducible] noncomputable def windPlantToml : FromToml (PlantIdentificationArtifact ℝ) :=
  sampleToml samplePlantText (samplePlant ℝ)

@[reducible] noncomputable def windToml : FromToml (CalibrationCandidate ℝ) :=
  sampleToml sampleWindText (sampleCandidate ℝ "wind" "wind-up" (1 / 32))

attribute [local instance] sampleSha256 sampleFloatBits windBaseToml windPlantToml windToml

noncomputable def windResolved : ResolvedCandidate ℝ :=
  sampleResolved ℝ sampleWindText "wind" "wind-up" (1 / 32)

variable {value : ℝ}

theorem sampleBase_validate : (sampleBase ℝ).validate = .ok () := by
  simp [AirframePreset.validate, AirframePreset.validateGains, AirframePreset.validateLimits,
    GainsPreset.triples, outside, sampleBase, MixerKind.motorCount]
  norm_num

theorem tunedPreset_validate (hlow : 0 ≤ value) : (tunedPreset ℝ value).validate = .ok () := by
  simp [AirframePreset.validate, AirframePreset.validateGains, AirframePreset.validateLimits,
    GainsPreset.triples, outside, tunedPreset, sampleBase, MixerKind.motorCount, hlow]
  norm_num

theorem samplePlant_validate : (samplePlant ℝ).validate = .ok () := by
  simp [PlantIdentificationArtifact.validate, PlantIdentificationArtifact.validateAxis,
    PlantIdentificationArtifact.bounded, outside, samplePlant, plantArtifactSchemaVersion, axes,
    Vector.get, maxSaturationFraction, minCoherence]
  norm_num
  decide +kernel

theorem sampleModel_canonicalDigest :
    (sampleModel ℝ).canonicalDigest = .ok (sampleDigest sampleModelHex) := by
  have hvalid : (sampleModel ℝ).validate = .ok () := by
    simp [XPlaneSimulatorModel.validate, sampleModel, XPlane.XPlaneWireModel.validate,
      XPlane.bounded, xplaneModelSchemaVersion]
    norm_num
    decide +kernel
  have hkey : sampleKey (sampleModel ℝ).canonicalBytes = (0, 55) := by
    simp only [XPlaneSimulatorModel.canonicalBytes, List.append_assoc]
    rw [← List.append_assoc, ← List.append_assoc, ← List.append_assoc, sampleKey_append] <;>
      decide +kernel
  have hdigest : Sha256.digest (sampleModel ℝ).canonicalBytes = sampleDigest sampleModelHex := by
    rw [digest_of_key hkey, sampleHex]
  refine andThen_eq_ok.mpr ⟨hvalid, ?_⟩
  rw [hdigest]
  rfl

/-- The sample preset passes the checks of a layer that tunes it in adjacent steps. -/
theorem tunedPreset_accepted {champion : AirframePreset ℝ} {layer : CandidateLayer ℝ}
    (hlow : 0 ≤ value) (hhigh : value ≤ 20) (hdesign : layer.innerLoop = none)
    (hfields : validateStageFields layer = .ok ())
    (hlayer : applyLayer champion layer (samplePlant ℝ) = .ok (tunedPreset ℝ value))
    (hsteps : validateRelativeSteps (tunedPreset ℝ value) champion = .ok ())
    (hhover : validateHover (tunedPreset ℝ value) champion layer (samplePlant ℝ)
      (sampleModel ℝ) = .ok ()) :
    applyValidatedLayer champion layer (samplePlant ℝ) (sampleModel ℝ) =
      .ok (tunedPreset ℝ value) := by
  have hrate : Scalar.lt (lit (1 / 4))
      (relativeDelta (lit (sampleModel ℝ).sampleRateHz.toNat) (samplePlant ℝ).sampleRateHz) =
        false := by
    simp [relativeDelta, sampleModel, samplePlant]
  have hbounds : validateCandidateBounds (tunedPreset ℝ value) = .ok () := by
    simp [validateCandidateBounds, bounded, triples, outside, tunedPreset, sampleBase, hlow]
    norm_num
    exact hhigh
  have henvelope : validateEnvelopeRelations (tunedPreset ℝ value) = .ok () := by
    simp [validateEnvelopeRelations, tunedPreset, sampleBase, Vector.get]
  have hinner : validateInnerLoop (tunedPreset ℝ value) layer.innerLoop (samplePlant ℝ) =
      .ok () := by
    have hroot : √(9 : ℝ) = 3 := by
      rw [show (9 : ℝ) = 3 ^ 2 by norm_num]
      exact Real.sqrt_sq (by norm_num)
    simp [validateInnerLoop, validateInnerLoopAxis, validateRateId, axes, tunedPreset, sampleBase,
      samplePlant, hdesign, Vector.get, minLoopSeparation, maxLoopSeparation, maxDelayProduct]
    norm_num [hroot]
  unfold applyValidatedLayer
  refine andThen_eq_ok.mpr ⟨hfields, bind_eq_ok.mpr ⟨_, hlayer, ?_⟩⟩
  refine andThen_eq_ok.mpr ⟨refuse_eq_ok.mpr hrate, andThen_eq_ok.mpr ⟨hbounds, ?_⟩⟩
  refine andThen_eq_ok.mpr ⟨hsteps, andThen_eq_ok.mpr ⟨hhover, ?_⟩⟩
  refine andThen_eq_ok.mpr ⟨henvelope, andThen_eq_ok.mpr ⟨hinner, ?_⟩⟩
  exact andThen_eq_ok.mpr ⟨mapError_eq_ok.mpr (tunedPreset_validate hlow), rfl⟩

theorem climb_accepted : applyValidatedLayer (sampleBase ℝ) (climbLayer ℝ) (samplePlant ℝ)
    (sampleModel ℝ) = .ok (tunedPreset ℝ (lit 0)) := by
  refine tunedPreset_accepted (by norm_num) (by norm_num) rfl rfl rfl ?_ ?_
  · simp [validateRelativeSteps, tunedPreset, sampleBase, adjacent_self]
  · rw [validateHover, (tunedPreset ℝ _).hoverThrustForceSeed_of_schema_two rfl,
      (sampleBase ℝ).hoverThrustForceSeed_of_schema_two rfl]
    simp [tunedPreset, sampleBase, sampleModel, samplePlant, wireCollectiveHeadroom, maxHoverStep,
      relativeDelta, epsilon]
    norm_num

theorem damp_accepted : applyValidatedLayer (tunedPreset ℝ (lit 0)) (dampLayer ℝ (1 / 32))
    (samplePlant ℝ) (sampleModel ℝ) = .ok (tunedPreset ℝ (1 / 32)) := by
  have hstep : adjacent (0 : ℝ) 32⁻¹ = .ok () := by
    rw [adjacent_real]
    norm_num
  refine tunedPreset_accepted (by norm_num) (by norm_num) rfl rfl rfl ?_ ?_
  · simp [validateRelativeSteps, tunedPreset, sampleBase, adjacent_self, axes, Vector.get, hstep]
  · rw [validateHover, (tunedPreset ℝ _).hoverThrustForceSeed_of_schema_two rfl,
      (tunedPreset ℝ _).hoverThrustForceSeed_of_schema_two rfl]
    simp [tunedPreset, sampleBase, sampleModel, samplePlant, wireCollectiveHeadroom, maxHoverStep,
      relativeDelta, epsilon]
    norm_num

theorem wind_accepted : resolveCandidate sampleBaseText sampleWindText samplePlantText
    (sampleModel ℝ) = .ok windResolved :=
  sample_accepted (if_pos rfl) sampleBase_validate (if_pos rfl) samplePlant_validate
    sampleModel_canonicalDigest (if_pos rfl) (by decide +kernel) climb_accepted damp_accepted

/-- The hover seed of the sample rises from 0.5 to 0.5625, then its velocity I gains from 0 to
0.03125, within the envelope. -/
theorem resolveCandidate_calibrated_wind :
    ∃ (base : AirframePreset ℝ) (candidate : CalibrationCandidate ℝ),
      presetFromTomlStr sampleBaseText = .ok base ∧
        FromToml.fromStr sampleWindText = .ok candidate ∧
        PlantIdentificationArtifact.fromTomlStr samplePlantText = .ok windResolved.plantArtifact ∧
        Calibrated base candidate.stages windResolved.plantArtifact windResolved.preset :=
  resolveCandidate_calibrated wind_accepted

end Wind

end Aviate.Config

end ConfigCandidateBounds

section XPlaneWireLaw

/-!
# What the wire constraints protect

In exact arithmetic. The shift that brings the mean to the allowed one clamps each lane to
`[0, 1]`. When a lane is cut there, the mean on the wire is not the one that is recorded.

Results:
1. From lanes with a mean under the lane ceiling, the squeezes keep the mean and bring every lane
   under the ceiling (`sent_of_le`). From a mean above it, a lane at zero is lifted over the
   ceiling (`exists_sent_gt`).
2. A command is sent as the law says exactly when its shift cuts no lane (`law_of_uncut`,
   `uncut_of_law`).
3. `wireLaw_iff`: so a history keeps the law exactly when no command of it is cut.
   `spread_lanes_break_law` is a history that breaks it.
-/

namespace Aviate.XPlane

open WireConstraints

variable {K : Type} [Field K] [LinearOrder K]

/-! ## Lanes as lists -/

section Lanes

variable {F : Type} {outputs : Vector F 16} {count : Nat} {f : F → F}

theorem length_lanes (h : count ≤ 16) : (lanes outputs count).length = count := by
  rw [lanes, List.length_take, Vector.length_toList, Nat.min_eq_left h]

@[simp] theorem lanes_mapLanes :
    lanes (mapLanes outputs count f) count = (lanes outputs count).map f := by
  unfold lanes mapLanes
  apply List.ext_getElem
  · simp
  · intro i hleft hright
    have hi : i < count := by
      rw [List.length_take] at hleft
      exact hleft.trans_le (Nat.min_le_left _ _)
    simp [hi]

end Lanes

theorem laneMean_eq {outputs : Vector K 16} {count : Nat} (h : count ≤ 16) :
    laneMean outputs count = (lanes outputs count).mean := by
  have hcount : (lit (count : ℚ) : K) = ((lanes outputs count).length : K) := by
    rw [length_lanes h, lit_field, Rat.cast_natCast]
  rw [laneMean, List.mean, hcount, lit_field, Rat.cast_zero, List.sum_eq_foldl]

/-! ## The squeeze -/

section Squeeze

variable [IsStrictOrderedRing K] {m c s x : K} {l : List K}

/-- A lane above the ceiling asks for the factor that brings it there. -/
theorem squeezeLane_eq (hx : 0 ≤ x) :
    squeezeLane m c s x = if m < x ∧ c < x then min s ((c - m) / (x - m)) else s := by
  unfold squeezeLane
  have hsum : m + (x - m) = x := by ring
  simp [hsum, not_lt.mpr hx]

theorem foldl_squeezeLane_le (hl : ∀ x ∈ l, 0 ≤ x) : l.foldl (squeezeLane m c) s ≤ s := by
  induction l generalizing s with
  | nil => exact le_rfl
  | cons y l ih =>
    rw [List.forall_mem_cons] at hl
    refine (ih hl.2).trans ?_
    rw [squeezeLane_eq hl.1]
    split
    · exact min_le_left _ _
    · exact le_rfl

theorem foldl_squeezeLane_le_lane (hl : ∀ x ∈ l, 0 ≤ x) (hx : x ∈ l) (hm : m < x) (hc : c < x) :
    l.foldl (squeezeLane m c) s ≤ (c - m) / (x - m) := by
  induction l generalizing s with
  | nil => cases hx
  | cons y l ih =>
    rw [List.forall_mem_cons] at hl
    rcases List.mem_cons.mp hx with rfl | hmem
    · refine (foldl_squeezeLane_le hl.2).trans ?_
      rw [squeezeLane_eq hl.1, if_pos ⟨hm, hc⟩]
      exact min_le_right _ _
    · exact ih hl.2 hmem

theorem foldl_squeezeLane_nonneg (hl : ∀ x ∈ l, 0 ≤ x) (hm : m ≤ c) (hs : 0 ≤ s) :
    0 ≤ l.foldl (squeezeLane m c) s := by
  induction l generalizing s with
  | nil => exact hs
  | cons y l ih =>
    rw [List.forall_mem_cons] at hl
    refine ih hl.2 ?_
    rw [squeezeLane_eq hl.1]
    split
    · next hy => exact le_min hs (div_nonneg (sub_nonneg.mpr hm) (sub_nonneg.mpr hy.1.le))
    · exact hs

/-- The lanes with their deviations scaled by the common factor. -/
def squeezedLanes (c : K) (l : List K) : List K :=
  l.map fun x => l.mean + (x - l.mean) * squeezeFactor l.mean c l

theorem mean_squeezedLanes (hl : l ≠ []) : (squeezedLanes c l).mean = l.mean :=
  List.mean_map_scale hl _

/-- Under the ceiling the squeeze brings every lane under it. -/
theorem squeezedLanes_mem (hl : ∀ x ∈ l, 0 ≤ x) (hm : l.mean ≤ c) :
    ∀ y ∈ squeezedLanes c l, 0 ≤ y ∧ y ≤ c := by
  intro y hy
  obtain ⟨x, hx, rfl⟩ := List.mem_map.mp hy
  have hone : squeezeFactor l.mean c l ≤ 1 := (foldl_squeezeLane_le hl).trans (by simp)
  have hzero : 0 ≤ squeezeFactor l.mean c l := foldl_squeezeLane_nonneg hl hm (by simp)
  have hmean : 0 ≤ l.mean := List.le_mean (List.ne_nil_of_mem hx) hl
  have hx0 := hl x hx
  rcases le_or_gt x l.mean with hlow | hhigh
  · constructor <;> nlinarith
  · refine ⟨by nlinarith, ?_⟩
    rcases le_or_gt x c with hin | hout
    · nlinarith
    · have hcut := foldl_squeezeLane_le_lane (s := lit 1) hl hx hhigh hout
      rw [le_div_iff₀ (sub_pos.mpr hhigh)] at hcut
      have hfactor : squeezeFactor l.mean c l * (x - l.mean) ≤ c - l.mean := hcut
      linarith

/-- Over the ceiling the factor is negative, and a lane at zero is lifted over the ceiling. -/
theorem exists_squeezed_gt (hl : ∀ x ∈ l, 0 ≤ x) (hzero : (0 : K) ∈ l) (hc : 0 ≤ c)
    (hm : c < l.mean) : ∃ y ∈ squeezedLanes c l, l.mean ≤ y := by
  obtain ⟨x, hx, hhigh⟩ := List.exists_mean_lt ⟨0, hzero, hc.trans_lt hm⟩
  have hcut : squeezeFactor l.mean c l ≤ (c - l.mean) / (x - l.mean) :=
    foldl_squeezeLane_le_lane hl hx hhigh (hm.trans hhigh)
  have hnegative : squeezeFactor l.mean c l ≤ 0 :=
    hcut.trans (div_nonpos_of_nonpos_of_nonneg (sub_nonpos.mpr hm.le) (sub_nonneg.mpr hhigh.le))
  refine ⟨_, List.mem_map_of_mem hzero, ?_⟩
  have hmean : 0 ≤ l.mean := hc.trans hm.le
  nlinarith

end Squeeze

/-! ## The lanes on the wire -/

section Wire

variable [IsStrictOrderedRing K] {w : WireConstraints K} {x : WireCommand K} {c g y : K}
  {l : List K}

/-- The limits of a validated model. -/
structure Validated (m : XPlaneWireModel K) : Prop where
  rise : 0 < m.risePerS
  low_rise : 0 < m.lowBandRisePerS
  fall : 0 < m.fallPerS
  mean_pos : 0 < m.meanCeiling
  mean_le : m.meanCeiling ≤ m.laneCeiling
  lane_le : m.laneCeiling ≤ 1
  squeeze_nonneg : 0 ≤ m.groundSqueeze
  squeeze_le : m.groundSqueeze ≤ 1
  dt_pos : 0 < m.maxSampleDtS

omit [IsStrictOrderedRing K] in
/-- A check that passes, and what follows it. -/
theorem bounded_bind {field : String} {value lower upper : K}
    {rest : Unit → Except XPlaneModelError Unit}
    (h : (bounded field value lower upper >>= rest) = .ok ()) :
    (lower ≤ value ∧ value ≤ upper) ∧ rest () = .ok () := by
  unfold bounded at h
  split at h
  · cases h
  · next hin => exact ⟨by simpa using hin, h⟩

theorem validated {m : XPlaneWireModel K} (h : m.validate = .ok ()) : Validated m := by
  unfold XPlaneWireModel.validate at h
  obtain ⟨⟨hrise, -⟩, h⟩ := bounded_bind h
  obtain ⟨-, h⟩ := bounded_bind h
  obtain ⟨⟨hlow, -⟩, h⟩ := bounded_bind h
  obtain ⟨⟨hfall, -⟩, h⟩ := bounded_bind h
  obtain ⟨⟨hmean, -⟩, h⟩ := bounded_bind h
  obtain ⟨⟨-, hlane⟩, h⟩ := bounded_bind h
  obtain ⟨-, h⟩ := bounded_bind h
  obtain ⟨⟨hsqueeze, hsqueeze'⟩, h⟩ := bounded_bind h
  obtain ⟨⟨hdt, -⟩, h⟩ := bounded_bind h
  have hceilings : m.meanCeiling ≤ m.laneCeiling := by
    split at h
    · cases h
    split at h
    · cases h
    split at h
    · cases h
    · next hle => simpa using hle
  simp only [lit_field] at hrise hlow hfall hmean hlane hsqueeze hsqueeze' hdt
  push_cast at hrise hlow hfall hmean hlane hsqueeze hsqueeze' hdt
  exact
    { rise := lt_of_lt_of_le (by norm_num) hrise
      low_rise := lt_of_lt_of_le (by norm_num) hlow
      fall := lt_of_lt_of_le (by norm_num) hfall
      mean_pos := lt_of_lt_of_le (by norm_num) hmean
      mean_le := hceilings
      lane_le := hlane
      squeeze_nonneg := hsqueeze
      squeeze_le := hsqueeze'
      dt_pos := lt_of_lt_of_le (by norm_num) hdt }

/-- The lanes as the ground squeeze leaves them. -/
def groundLanes (g : K) (l : List K) : List K :=
  l.map fun x => Scalar.clamp (l.mean + (x - l.mean) * g) 0 1

/-- Toward the mean of lanes in `[0, 1]` the clamp has nothing to cut. -/
theorem groundLanes_eq (hl : ∀ x ∈ l, 0 ≤ x ∧ x ≤ 1) (hg : 0 ≤ g) (hg1 : g ≤ 1) :
    groundLanes g l = l.map fun x => l.mean + (x - l.mean) * g := by
  refine List.map_congr_left fun x hx => ?_
  obtain ⟨h0, h1⟩ := hl x hx
  have hm0 : 0 ≤ l.mean := List.le_mean (List.ne_nil_of_mem hx) fun x hx => (hl x hx).1
  have hm1 : l.mean ≤ 1 := List.mean_le (List.ne_nil_of_mem hx) fun x hx => (hl x hx).2
  rw [clamp_field zero_le_one, min_eq_left (by nlinarith), max_eq_right (by nlinarith)]

/-! ## One command -/

/-- Commanded lanes are normalized forces. -/
def Normalized (x : WireCommand K) : Prop := ∀ lane ∈ lanes x.outputs x.count, 0 ≤ lane ∧ lane ≤ 1

/-- The mean the limits allow. -/
def allowedMean (w : WireConstraints K) (x : WireCommand K) : K :=
  w.allowed (lanes x.outputs x.count).mean x.armed (w.sampleDt x.dtSec)

/-- The shift that would bring the mean of the command to the allowed one. -/
def meanShift (w : WireConstraints K) (x : WireCommand K) : K :=
  allowedMean w x - (lanes x.outputs x.count).mean

/-- The lanes after the shift. -/
def shiftedLanes (w : WireConstraints K) (x : WireCommand K) : List K :=
  (lanes x.outputs x.count).map fun lane => Scalar.clamp (lane + meanShift w x) 0 1

/-- The lanes sent for a command. -/
def sent (w : WireConstraints K) (x : WireCommand K) : List K :=
  lanes (w.constrain x).2.1 x.count

omit [IsStrictOrderedRing K] in
theorem lastCollective_constrain : (w.constrain x).1.lastCollective = allowedMean w x := by
  unfold constrain allowedMean
  rw [laneMean_eq x.count_le]
  dsimp only
  split
  · rfl
  split <;> rfl

omit [IsStrictOrderedRing K] in
theorem config_constrain : (w.constrain x).1.config = w.config := by
  unfold constrain
  dsimp only
  split
  · rfl
  split <;> rfl

theorem lanes_shiftOutputs (hx : Normalized x) :
    lanes (shiftOutputs (meanShift w x) x.outputs x.count) x.count = shiftedLanes w x := by
  unfold shiftOutputs shiftedLanes
  split
  · rw [lanes_mapLanes]
    simp
  · next hshift =>
    have hzero : meanShift w x = 0 := by simpa using hshift
    symm
    rw [hzero]
    refine (List.map_congr_left fun lane hlane => ?_).trans (List.map_id _)
    obtain ⟨h0, h1⟩ := hx lane hlane
    rw [add_zero, clamp_field zero_le_one, min_eq_left h1, max_eq_right h0, id]

theorem lanes_squeezeOutputs {outputs : Vector K 16} {count : Nat} (hcount : count ≤ 16)
    (hl : ∀ lane ∈ lanes outputs count, 0 ≤ lane) :
    lanes (squeezeOutputs c outputs count).2 count = squeezedLanes c (lanes outputs count) := by
  unfold squeezeOutputs squeezedLanes
  rw [laneMean_eq hcount]
  dsimp only
  split
  · rw [lanes_mapLanes]
  · next hone =>
    have hle : squeezeFactor (lanes outputs count).mean c (lanes outputs count) ≤ 1 :=
      (foldl_squeezeLane_le hl).trans (by simp)
    have heq : squeezeFactor (lanes outputs count).mean c (lanes outputs count) = 1 :=
      le_antisymm hle (by simpa using hone)
    symm
    rw [heq]
    refine (List.map_congr_left fun lane _ => ?_).trans (List.map_id _)
    rw [id]
    ring

omit [IsStrictOrderedRing K] in
theorem lanes_groundOutputs {outputs : Vector K 16} {count : Nat} (hcount : count ≤ 16) :
    lanes (groundOutputs g outputs count) count = groundLanes g (lanes outputs count) := by
  unfold groundOutputs groundLanes
  rw [laneMean_eq hcount, lanes_mapLanes]
  simp

theorem shiftedLanes_mem : ∀ lane ∈ shiftedLanes w x, 0 ≤ lane ∧ lane ≤ 1 := by
  intro lane hlane
  obtain ⟨y, -, rfl⟩ := List.mem_map.mp hlane
  rw [clamp_field zero_le_one]
  exact ⟨le_max_left _ _, max_le zero_le_one (min_le_right _ _)⟩

/-- The stages of a command, in the air and on the ground. -/
theorem sent_cases (hx : Normalized x) :
    sent w x = squeezedLanes w.config.laneCeiling (shiftedLanes w x) ∨
      sent w x = groundLanes w.config.groundSqueeze
        (squeezedLanes w.config.laneCeiling (shiftedLanes w x)) := by
  have hshifted := lanes_shiftOutputs (w := w) hx
  have hsqueezed : lanes (squeezeOutputs w.config.laneCeiling
      (shiftOutputs (meanShift w x) x.outputs x.count) x.count).2 x.count =
        squeezedLanes w.config.laneCeiling (shiftedLanes w x) := by
    rw [lanes_squeezeOutputs x.count_le, hshifted]
    rw [hshifted]
    exact fun lane hlane => (shiftedLanes_mem lane hlane).1
  unfold sent constrain
  rw [laneMean_eq x.count_le]
  dsimp only
  split
  · exact .inl hsqueezed
  split
  · exact .inl hsqueezed
  · refine .inr ?_
    rw [← hsqueezed]
    exact lanes_groundOutputs x.count_le

omit [Field K] [LinearOrder K] [IsStrictOrderedRing K] in
theorem lanes_ne_nil : lanes x.outputs x.count ≠ [] := by
  rw [← List.length_pos_iff, length_lanes x.count_le]
  exact x.count_pos

omit [IsStrictOrderedRing K] in
theorem shiftedLanes_ne_nil : shiftedLanes w x ≠ [] := by
  rw [shiftedLanes, Ne, List.map_eq_nil_iff]
  exact lanes_ne_nil

/-- Under the lane ceiling the squeezes keep the mean, and every lane is under the ceiling. -/
theorem sent_of_le (hv : Validated w.config) (hx : Normalized x)
    (hm : (shiftedLanes w x).mean ≤ w.config.laneCeiling) :
    (∀ lane ∈ sent w x, 0 ≤ lane ∧ lane ≤ w.config.laneCeiling) ∧
      (sent w x).mean = (shiftedLanes w x).mean := by
  have hmem := squeezedLanes_mem (fun lane hlane => (shiftedLanes_mem lane hlane).1) hm
  have hmean :=
    mean_squeezedLanes (c := w.config.laneCeiling) (shiftedLanes_ne_nil (w := w) (x := x))
  have hne : squeezedLanes w.config.laneCeiling (shiftedLanes w x) ≠ [] := by
    rw [squeezedLanes, Ne, List.map_eq_nil_iff]
    exact shiftedLanes_ne_nil
  rcases sent_cases (w := w) hx with hsent | hsent
  · rw [hsent]
    exact ⟨hmem, hmean⟩
  · have hground := groundLanes_eq
      (fun lane hlane => ⟨(hmem lane hlane).1, (hmem lane hlane).2.trans hv.lane_le⟩)
      hv.squeeze_nonneg hv.squeeze_le
    rw [hsent, hground]
    refine ⟨fun lane hlane => ?_, (List.mean_map_scale hne _).trans hmean⟩
    obtain ⟨y, hy, rfl⟩ := List.mem_map.mp hlane
    obtain ⟨hy0, hyc⟩ := hmem y hy
    have hg0 := hv.squeeze_nonneg
    have hg1 := hv.squeeze_le
    have hm0 : 0 ≤ (squeezedLanes w.config.laneCeiling (shiftedLanes w x)).mean :=
      List.le_mean hne fun lane hlane => (hmem lane hlane).1
    rw [← hmean] at hm
    constructor <;> nlinarith

/-- Over it a lane at zero goes out above the ceiling. -/
theorem exists_sent_gt (hv : Validated w.config) (hx : Normalized x)
    (hzero : (0 : K) ∈ shiftedLanes w x) (hm : w.config.laneCeiling < (shiftedLanes w x).mean) :
    ∃ lane ∈ sent w x, w.config.laneCeiling < lane := by
  have hc : 0 ≤ w.config.laneCeiling := hv.mean_pos.le.trans hv.mean_le
  obtain ⟨y, hy, hhigh⟩ :=
    exists_squeezed_gt (fun lane hlane => (shiftedLanes_mem lane hlane).1) hzero hc hm
  have hmean :=
    mean_squeezedLanes (c := w.config.laneCeiling) (shiftedLanes_ne_nil (w := w) (x := x))
  rcases sent_cases (w := w) hx with hsent | hsent
  · rw [hsent]
    exact ⟨y, hy, hm.trans_le hhigh⟩
  · rw [hsent]
    refine ⟨_, List.mem_map_of_mem hy, ?_⟩
    have hone : (shiftedLanes w x).mean ≤ 1 :=
      List.mean_le shiftedLanes_ne_nil fun lane hlane => (shiftedLanes_mem lane hlane).2
    have hg0 := hv.squeeze_nonneg
    have hlift : (shiftedLanes w x).mean ≤ (shiftedLanes w x).mean +
        (y - (shiftedLanes w x).mean) * w.config.groundSqueeze := by nlinarith
    rw [hmean, clamp_field zero_le_one]
    exact lt_max_of_lt_right (lt_min (hm.trans_le hlift) (hm.trans_le hone))

/-! ## The law -/

/-- No lane leaves `[0, 1]` when every lane is shifted alike. -/
def Uncut (w : WireConstraints K) (x : WireCommand K) : Prop :=
  ∀ lane ∈ lanes x.outputs x.count, 0 ≤ lane + meanShift w x ∧ lane + meanShift w x ≤ 1

/-- The rise allowance of the band a collective is in. -/
def riseAllowance (m : XPlaneWireModel K) (collective : K) : K :=
  if collective < m.bandBoundary then m.lowBandRisePerS else m.risePerS

/-- The sample time clamped to what one sample may count. -/
def clampedDt (m : XPlaneWireModel K) (dtSec : K) : K := max 0 (min dtSec m.maxSampleDtS)

/-- What the plant is promised for one command after a mean of `previous`. -/
structure CommandLaw (m : XPlaneWireModel K) (previous : K) (x : WireCommand K) (sent : List K)
    (recorded : K) : Prop where
  lane : ∀ lane ∈ sent, 0 ≤ lane ∧ lane ≤ m.laneCeiling
  mean : sent.mean ≤ m.meanCeiling
  rise : sent.mean ≤ previous + riseAllowance m previous * clampedDt m x.dtSec
  recorded : recorded = sent.mean

section Law

variable (hv : Validated w.config)
include hv

omit [IsStrictOrderedRing K] in
theorem allowedMean_eq : allowedMean w x =
    min (if w.lastCollective < (lanes x.outputs x.count).mean then
        min (w.lastCollective +
          riseAllowance w.config w.lastCollective * clampedDt w.config x.dtSec)
          (lanes x.outputs x.count).mean
      else if x.armed then
        max (w.lastCollective - w.config.fallPerS * clampedDt w.config x.dtSec)
          (lanes x.outputs x.count).mean
      else (lanes x.outputs x.count).mean) w.config.meanCeiling := by
  have hdt : w.sampleDt x.dtSec = clampedDt w.config x.dtSec := by
    rw [sampleDt, lit_field, Rat.cast_zero, clamp_field hv.dt_pos.le, clampedDt]
  have hrise : w.rise = riseAllowance w.config w.lastCollective := by
    unfold rise riseAllowance
    simp
  unfold allowedMean allowed
  rw [hdt, hrise]
  simp

omit [IsStrictOrderedRing K] in
theorem allowedMean_le_ceiling : allowedMean w x ≤ w.config.meanCeiling := by
  rw [allowedMean_eq hv]
  exact min_le_right _ _

omit [IsStrictOrderedRing K] in
theorem riseAllowance_pos (collective : K) : 0 < riseAllowance w.config collective := by
  unfold riseAllowance
  split
  · exact hv.low_rise
  · exact hv.rise

theorem allowedMean_le_rise : allowedMean w x ≤
    w.lastCollective + riseAllowance w.config w.lastCollective * clampedDt w.config x.dtSec := by
  have hdt : 0 ≤ clampedDt w.config x.dtSec := le_max_left _ _
  have hup := mul_nonneg (riseAllowance_pos hv w.lastCollective).le hdt
  have hdown := mul_nonneg hv.fall.le hdt
  rw [allowedMean_eq hv]
  refine (min_le_left _ _).trans ?_
  split
  · exact min_le_left _ _
  · next hbelow =>
    have hmean := not_lt.mp hbelow
    split
    · exact max_le (by linarith) (by linarith)
    · linarith

end Law

section Cut

variable (hx : Normalized x)
include hx

theorem allowedMean_nonneg (hv : Validated w.config) (hlast : 0 ≤ w.lastCollective) :
    0 ≤ allowedMean w x := by
  have hdt : 0 ≤ clampedDt w.config x.dtSec := le_max_left _ _
  have hup := mul_nonneg (riseAllowance_pos hv w.lastCollective).le hdt
  have hmean : 0 ≤ (lanes x.outputs x.count).mean :=
    List.le_mean lanes_ne_nil fun lane hlane => (hx lane hlane).1
  rw [allowedMean_eq hv]
  refine le_min ?_ hv.mean_pos.le
  split
  · exact le_min (by linarith) hmean
  split
  · exact hmean.trans (le_max_right _ _)
  · exact hmean

omit hx in
theorem mean_shiftedLanes_of_uncut (h : Uncut w x) :
    (shiftedLanes w x).mean = allowedMean w x := by
  have hlanes : shiftedLanes w x = (lanes x.outputs x.count).map (· + meanShift w x) := by
    refine List.map_congr_left fun lane hlane => ?_
    obtain ⟨h0, h1⟩ := h lane hlane
    rw [clamp_field zero_le_one, min_eq_left h1, max_eq_right h0]
  rw [hlanes, List.mean_map_add lanes_ne_nil, meanShift, add_sub_cancel]

/-- A cut lane moves the mean away from the allowed one. -/
theorem mean_shiftedLanes_of_cut (h : ¬ Uncut w x) :
    (shiftedLanes w x).mean < allowedMean w x ∨
      allowedMean w x < (shiftedLanes w x).mean ∧ (0 : K) ∈ shiftedLanes w x := by
  unfold Uncut at h
  push Not at h
  obtain ⟨lane, hlane, hcut⟩ := h
  have hshift : ((lanes x.outputs x.count).map (· + meanShift w x)).mean = allowedMean w x := by
    rw [List.mean_map_add lanes_ne_nil, meanShift, add_sub_cancel]
  rw [← hshift]
  rcases lt_or_ge (lane + meanShift w x) 0 with hlow | hlow
  · have hneg : meanShift w x < 0 := by linarith [(hx lane hlane).1]
    refine .inr ⟨List.mean_lt_mean (fun y hy => ?_) ⟨lane, hlane, ?_⟩, ?_⟩
    · rw [clamp_field zero_le_one, min_eq_left (by linarith [(hx y hy).2])]
      exact le_max_right _ _
    · rw [clamp_field zero_le_one]
      exact lt_max_of_lt_left hlow
    · have hzero : Scalar.clamp (lane + meanShift w x) 0 1 = 0 := by
        rw [clamp_field zero_le_one, min_eq_left (by linarith), max_eq_left hlow.le]
      exact hzero ▸ List.mem_map_of_mem hlane
  · have hhigh : 1 < lane + meanShift w x := hcut hlow
    have hpos : 0 < meanShift w x := by linarith [(hx lane hlane).2]
    refine .inl (List.mean_lt_mean (fun y hy => ?_) ⟨lane, hlane, ?_⟩)
    · rw [clamp_field zero_le_one]
      exact max_le (by linarith [(hx y hy).1]) (min_le_left _ _)
    · rw [clamp_field zero_le_one, min_eq_right hhigh.le, max_eq_right zero_le_one]
      exact hhigh

/-- A command whose shift cuts no lane is sent as the law says. -/
theorem law_of_uncut (hv : Validated w.config) (h : Uncut w x) :
    CommandLaw w.config w.lastCollective x (sent w x) (w.constrain x).1.lastCollective := by
  have hmean := mean_shiftedLanes_of_uncut h
  have hceiling : allowedMean w x ≤ w.config.meanCeiling := allowedMean_le_ceiling hv
  obtain ⟨hlane, hsent⟩ := sent_of_le hv hx
    (hmean.trans_le (hceiling.trans hv.mean_le))
  rw [hmean] at hsent
  exact
    { lane := hlane
      mean := hsent.trans_le hceiling
      rise := hsent.trans_le (allowedMean_le_rise hv)
      recorded := lastCollective_constrain.trans hsent.symm }

/-- A command that is sent as the law says was not cut, whatever came before. -/
theorem uncut_of_law (previous : K) (hv : Validated w.config)
    (h : CommandLaw w.config previous x (sent w x) (w.constrain x).1.lastCollective) :
    Uncut w x := by
  by_contra hcut
  have hrecorded := h.recorded
  rw [lastCollective_constrain] at hrecorded
  rcases le_or_gt (shiftedLanes w x).mean w.config.laneCeiling with hle | hgt
  · rw [(sent_of_le hv hx hle).2] at hrecorded
    rcases mean_shiftedLanes_of_cut hx hcut with hlt | ⟨hlt, -⟩
    · exact hlt.ne hrecorded.symm
    · exact hlt.ne hrecorded
  · rcases mean_shiftedLanes_of_cut hx hcut with hlt | ⟨-, hzero⟩
    · have hceiling : allowedMean w x ≤ w.config.meanCeiling := allowedMean_le_ceiling hv
      exact absurd (hlt.trans_le (hceiling.trans hv.mean_le)) hgt.not_gt
    · obtain ⟨lane, hlane, hhigh⟩ := exists_sent_gt hv hx hzero hgt
      exact absurd (h.lane lane hlane).2 hhigh.not_ge

end Cut

end Wire

/-! ## Histories -/

section Histories

variable {config : XPlaneWireModel K}

/-- The mean on the wire after the last command. -/
def noteMean (previous : K)
    (e : Machine.Event (WireConstraints K) (WireOp K)
      (Option (Vector K 16 × WireConstraintFlags))) :
    K :=
  match e.op with
  | .constrain x => (sent e.pre x).mean
  | .arm _ => previous

/-- The mean actually sent for the last command of a history; nothing is sent before the first. -/
def previousMean (config : XPlaneWireModel K) (ops : List (WireOp K)) : K :=
  wireMachine.history noteMean 0 (.new config) ops

/-- Every command of a history is sent as the law says. -/
def WireLaw (config : XPlaneWireModel K) (ops : List (WireOp K)) : Prop :=
  ∀ (before after : List (WireOp K)) (x : WireCommand K),
    ops = before ++ WireOp.constrain x :: after →
      CommandLaw config (previousMean config before) x
        (sent (wireMachine.run (.new config) before) x)
        ((wireMachine.run (.new config) before).constrain x).1.lastCollective

/-- No command of a history is cut by its shift. -/
def NoneCut (config : XPlaneWireModel K) (ops : List (WireOp K)) : Prop :=
  ∀ (before after : List (WireOp K)) (x : WireCommand K),
    ops = before ++ WireOp.constrain x :: after → Uncut (wireMachine.run (.new config) before) x

variable [IsStrictOrderedRing K]

omit [IsStrictOrderedRing K] in
theorem normalized_of_mem {before : List (WireOp K)} {e}
    (hx : ∀ x, .constrain x ∈ before → Normalized x)
    (he : e ∈ wireMachine.trace (.new config) before) (x : WireCommand K)
    (hop : e.op = .constrain x) : Normalized x := by
  obtain ⟨front, op, rest, rfl, rfl⟩ := Machine.mem_trace.mp he
  obtain rfl : op = .constrain x := hop
  exact hx x (by simp)

/-- The limits stay what they are, and the recorded collective is not negative. -/
theorem wire_invariant (hv : Validated config) {before : List (WireOp K)}
    (hx : ∀ x, .constrain x ∈ before → Normalized x) :
    (wireMachine.run (.new config) before).config = config ∧
      0 ≤ (wireMachine.run (.new config) before).lastCollective := by
  refine Machine.run_invariant_of_guard
    (I := fun w : WireConstraints K => w.config = config ∧ 0 ≤ w.lastCollective)
    (G := fun e => ∀ x, e.op = .constrain x → Normalized x) ?_ ⟨rfl, by simp [new]⟩ ?_
  · rintro w op ⟨rfl, hlast⟩ hguard
    cases op with
    | arm fixAltM => exact ⟨rfl, hlast⟩
    | constrain x =>
      refine ⟨config_constrain, ?_⟩
      show 0 ≤ (w.constrain x).1.lastCollective
      rw [lastCollective_constrain]
      exact allowedMean_nonneg (hguard x rfl) hv hlast
  · exact fun e he x hop => normalized_of_mem hx he x hop

/-- While no command is cut, the recorded collective is the mean on the wire. -/
theorem lastCollective_eq_previousMean (hv : Validated config) {before : List (WireOp K)}
    (hx : ∀ x, .constrain x ∈ before → Normalized x) (hcut : NoneCut config before) :
    (wireMachine.run (.new config) before).lastCollective = previousMean config before := by
  suffices h : (wireMachine.run (.new config) before).config = config ∧
      (wireMachine.run (.new config) before).lastCollective =
        wireMachine.history noteMean 0 (.new config) before from h.2
  refine Machine.history_invariant
    (R := fun (w : WireConstraints K) previous => w.config = config ∧ w.lastCollective = previous)
    (G := fun e => ∀ x, e.op = .constrain x → Normalized x ∧ Uncut e.pre x) ?_
    ⟨rfl, by simp [new]⟩ ?_
  · rintro w op previous ⟨rfl, rfl⟩ hguard
    cases op with
    | arm fixAltM => exact ⟨rfl, rfl⟩
    | constrain x =>
      obtain ⟨hnormal, huncut⟩ := hguard x rfl
      exact ⟨config_constrain, (law_of_uncut hnormal hv huncut).recorded⟩
  · intro e he x hop
    refine ⟨normalized_of_mem hx he x hop, ?_⟩
    obtain ⟨front, op, rest, rfl, rfl⟩ := Machine.mem_trace.mp he
    obtain rfl : op = .constrain x := hop
    exact hcut front rest x rfl

omit [IsStrictOrderedRing K] in
theorem NoneCut.of_append {before after : List (WireOp K)} (h : NoneCut config (before ++ after)) :
    NoneCut config before := by
  rintro front rest x rfl
  exact h front (rest ++ after) x (by simp)

/-- A history keeps the law exactly when no command of it is cut by its shift. -/
theorem wireLaw_iff (config : XPlaneWireModel K) (hconfig : config.validate = .ok ())
    (ops : List (WireOp K)) (hx : ∀ x, .constrain x ∈ ops → Normalized x) :
    WireLaw config ops ↔ NoneCut config ops := by
  have hv := validated hconfig
  constructor
  · rintro hlaw before after x rfl
    have hbefore : ∀ y, .constrain y ∈ before → Normalized y := fun y hy => hx y (by simp [hy])
    obtain ⟨hkept, -⟩ := wire_invariant hv hbefore
    refine uncut_of_law (hx x (by simp)) (previousMean config before) (hkept.symm ▸ hv) ?_
    rw [hkept]
    exact hlaw before after x rfl
  · rintro hcut before after x rfl
    have hbefore : ∀ y, .constrain y ∈ before → Normalized y := fun y hy => hx y (by simp [hy])
    obtain ⟨hkept, -⟩ := wire_invariant hv hbefore
    have hprevious := lastCollective_eq_previousMean hv hbefore (NoneCut.of_append hcut)
    have hsent := law_of_uncut (hx x (by simp)) (hkept.symm ▸ hv) (hcut before after x rfl)
    rwa [hkept, hprevious] at hsent

end Histories

/-! ## Two histories -/

/-- Limits like those of the source's tests. -/
def testLimits : XPlaneWireModel ℚ where
  risePerS := 35 / 1000
  bandBoundary := 40 / 100
  lowBandRisePerS := 15 / 100
  fallPerS := 30 / 100
  meanCeiling := 55 / 100
  laneCeiling := 85 / 100
  airborneClearanceM := 1 / 2
  groundSqueeze := 1 / 2
  maxSampleDtS := 5 / 100

theorem testLimits_validate : testLimits.validate = .ok () := by decide +kernel

/-- Four lanes of an armed vehicle above its ground reference. -/
def fourLanes (a b c d : ℚ) : WireCommand ℚ where
  outputs := ⟨#[a, b, c, d, 0, 0, 0, 0, 0, 0, 0, 0, 0, 0, 0, 0], rfl⟩
  count := 4
  armed := true
  fixAltM := some 20
  dtSec := 1 / 100
  count_pos := by decide
  count_le := by decide

/-- Level lanes are shifted alike. -/
theorem wireLaw_iff_level :
    WireLaw testLimits [.arm (some 10), .constrain (fourLanes (1 / 2) (1 / 2) (1 / 2) (1 / 2))] ↔
      NoneCut testLimits
        [.arm (some 10), .constrain (fourLanes (1 / 2) (1 / 2) (1 / 2) (1 / 2))] := by
  refine wireLaw_iff testLimits testLimits_validate _ fun x hx => ?_
  obtain rfl : x = fourLanes (1 / 2) (1 / 2) (1 / 2) (1 / 2) := by simpa using hx
  unfold Normalized
  decide +kernel

/-- One full lane and three idle ones: the shift down is cut at the idle lanes, the mean goes up
by 0.187875 where 0.0015 is allowed, and 0.0015 is recorded. -/
theorem spread_lanes_break_law :
    testLimits.validate = .ok () ∧ Normalized (fourLanes 1 0 0 0) ∧
      ¬ WireLaw testLimits [.arm (some 10), .constrain (fourLanes 1 0 0 0)] := by
  refine ⟨testLimits_validate, by unfold Normalized; decide +kernel, fun hlaw => ?_⟩
  have hrise := (hlaw [.arm (some 10)] [] (fourLanes 1 0 0 0) rfl).rise
  revert hrise
  decide +kernel

end Aviate.XPlane

end XPlaneWireLaw
