import Mathlib.Algebra.Order.Field.Basic
import Mathlib.Algebra.Order.Field.Rat
import Mathlib.Data.List.Sort
import Mathlib.Tactic.FieldSimp
import Mathlib.Tactic.Linarith
import Mathlib.Tactic.NormNum
import Mathlib.Tactic.Ring
import Aviate.Foundations.ByteBuffer
import Aviate.Foundations.Machine

/-!
# The runtime identity gate

The gate that stays closed until a runtime identity has been accepted and the timestamps of the
samples prove the declared rate (`board/handshake.rs`, `xplane_runtime.rs`). Text is its bytes.

Results:
1. The gate's fields summarize the samples since the last reset after the acceptance
   (`tracks_observe`, `tracks_run`).
2. The gate is open exactly when a matching handshake was accepted and those samples are at least
   nine, strictly increasing, with a mean period within 25 % of the declared one
   (`isVerified_iff`).
3. The mean rate can be further off: a clock a third too fast is verified (`fast_clock_verified`).
-/

namespace Aviate.XPlane

/-! ## The handshake -/

inductive XPlaneBridgeProtocol where
  | mavlinkHilTcpV1
deriving DecidableEq, Repr

structure XPlaneRuntimeHandshake where
  schemaVersion : UInt16
  verifierId : Bytes
  sessionBindingDigest : Bytes
  bridgeEndpoint : Bytes
  bridgeProtocol : XPlaneBridgeProtocol
  bridgeBuildDigest : Bytes
  bridgeConfigDigest : Bytes
  simulatorId : Bytes
  aircraftId : Bytes
  aircraftFileDigest : Bytes
  sampleRateHz : UInt16
  motorCount : UInt8
  laneOrder : Vector UInt8 4

/-- What the validation of a handshake refuses. -/
inductive XPlaneRuntimeHandshakeError where
  | unsupportedSchema (version : UInt16)
  | unsupportedVerifier
  | invalidId (field : String)
  | invalidDigest (field : String)
  | fieldOutOfRange (field : String)
  | invalidLaneOrder
deriving DecidableEq, Repr

def runtimeHandshakeSchemaVersion : UInt16 := 1

/-- `VERIFIER_ID`. -/
def supportedVerifierId : Bytes := "pilotage-xplane-trial-v1".toUTF8.toList

def maxIdBytes : Nat := 64

def isAsciiAlphanumeric (byte : UInt8) : Bool :=
  (0x30 ≤ byte && byte ≤ 0x39) || (0x41 ≤ byte && byte ≤ 0x5A) || (0x61 ≤ byte && byte ≤ 0x7A)

def isAsciiHexdigit (byte : UInt8) : Bool :=
  (0x30 ≤ byte && byte ≤ 0x39) || (0x41 ≤ byte && byte ≤ 0x46) || (0x61 ≤ byte && byte ≤ 0x66)

def toAsciiLowercase (byte : UInt8) : UInt8 :=
  if 0x41 ≤ byte && byte ≤ 0x5A then byte + 0x20 else byte

def eqIgnoreAsciiCase (a b : Bytes) : Bool := a.map toAsciiLowercase = b.map toAsciiLowercase

/-- The characters `-`, `_`, `.` and `:` are allowed beside letters and digits. -/
def validateId (field : String) (value : Bytes) : Except XPlaneRuntimeHandshakeError Unit :=
  if value.isEmpty || value.length > maxIdBytes ||
      !value.all fun byte => isAsciiAlphanumeric byte || byte ∈ [0x2D, 0x5F, 0x2E, 0x3A] then
    .error (.invalidId field)
  else .ok ()

def validateDigest (field : String) (value : Bytes) : Except XPlaneRuntimeHandshakeError Unit :=
  if value.length ≠ 64 || !value.all isAsciiHexdigit then .error (.invalidDigest field) else .ok ()

def XPlaneRuntimeHandshake.validate (h : XPlaneRuntimeHandshake) :
    Except XPlaneRuntimeHandshakeError Unit := do
  if h.schemaVersion ≠ runtimeHandshakeSchemaVersion then
    throw (.unsupportedSchema h.schemaVersion)
  if h.verifierId ≠ supportedVerifierId then throw .unsupportedVerifier
  validateId "bridge_endpoint" h.bridgeEndpoint
  validateId "simulator_id" h.simulatorId
  validateId "aircraft_id" h.aircraftId
  validateDigest "session_binding_digest" h.sessionBindingDigest
  validateDigest "bridge_build_digest" h.bridgeBuildDigest
  validateDigest "bridge_config_digest" h.bridgeConfigDigest
  validateDigest "aircraft_file_digest" h.aircraftFileDigest
  if ¬ (20 ≤ h.sampleRateHz ∧ h.sampleRateHz ≤ 1000) then throw (.fieldOutOfRange "sample_rate_hz")
  if h.motorCount ≠ 4 then throw (.fieldOutOfRange "motor_count")
  if h.laneOrder.toList.insertionSort (· ≤ ·) ≠ [0, 1, 2, 3] then throw .invalidLaneOrder

/-- What a simulator model says about the runtime. -/
structure XPlaneSimulatorModel where
  bridgeProtocol : XPlaneBridgeProtocol
  simulatorId : Bytes
  aircraftId : Bytes
  aircraftFileDigest : Bytes
  sampleRateHz : UInt16
  motorCount : UInt8
  laneOrder : Vector UInt8 4

inductive RuntimeHandshakeError where
  | invalidBinding (error : XPlaneRuntimeHandshakeError)
  | alreadyAccepted
  | mismatch (field : String)
  | sampleClockRegression (previousUs nextUs : UInt64)
  | sampleRateMismatch (expectedHz : UInt16) (observedPeriodUs : UInt64)
deriving DecidableEq, Repr

def check (condition : Bool) (field : String) : Except RuntimeHandshakeError Unit :=
  if condition then .ok () else .error (.mismatch field)

def verify (expected : XPlaneSimulatorModel) (actual : XPlaneRuntimeHandshake) :
    Except RuntimeHandshakeError Unit := do
  actual.validate.mapError .invalidBinding
  check (expected.bridgeProtocol = actual.bridgeProtocol) "bridge_protocol"
  check (expected.simulatorId = actual.simulatorId) "simulator_id"
  check (expected.aircraftId = actual.aircraftId) "aircraft_id"
  check (eqIgnoreAsciiCase expected.aircraftFileDigest actual.aircraftFileDigest)
    "aircraft_file_digest"
  check (expected.sampleRateHz = actual.sampleRateHz) "sample_rate_hz"
  check (expected.motorCount = actual.motorCount) "motor_count"
  check (expected.laneOrder = actual.laneOrder) "lane_order"

/-! ## The gate -/

def sampleRateEvidenceIntervals : UInt16 := 8

def sampleRateTolerancePercent : Nat := 25

structure RuntimeIdentityGate where
  expected : XPlaneSimulatorModel
  accepted : Option XPlaneRuntimeHandshake
  firstTimestampUs : Option UInt64
  lastTimestampUs : Option UInt64
  intervals : UInt16
  verified : Bool
  failed : Bool

namespace RuntimeIdentityGate

def new (expected : XPlaneSimulatorModel) : RuntimeIdentityGate :=
  ⟨expected, none, none, none, 0, false, false⟩

def accept (g : RuntimeIdentityGate) (handshake : XPlaneRuntimeHandshake) :
    RuntimeIdentityGate × Except RuntimeHandshakeError Unit :=
  if g.accepted.isSome then (g, .error .alreadyAccepted)
  else
    match verify g.expected handshake with
    | .error e => (g, .error e)
    | .ok () => ({ g with accepted := some handshake }, .ok ())

/-- The products are of 128 bits and cannot overflow. -/
def verifySampleRate (g : RuntimeIdentityGate) :
    RuntimeIdentityGate × Except RuntimeHandshakeError Unit :=
  match g.firstTimestampUs, g.lastTimestampUs with
  | some firstUs, some lastUs =>
    let elapsedUs := lastUs.toNat - firstUs.toNat
    let expectedHz := g.expected.sampleRateHz
    let measuredScaled := elapsedUs * expectedHz.toNat
    let expectedScaled := g.intervals.toNat * 1000000
    let difference := max measuredScaled expectedScaled - min measuredScaled expectedScaled
    if difference * 100 > expectedScaled * sampleRateTolerancePercent then
      ({ g with failed := true },
        .error (.sampleRateMismatch expectedHz (.ofNat (elapsedUs / max g.intervals.toNat 1))))
    else (g, .ok ())
  | _, _ => (g, .ok ())

/-- Count a sample in, and verify the rate once there are enough intervals. -/
def countSample (g : RuntimeIdentityGate) :
    RuntimeIdentityGate × Except RuntimeHandshakeError Unit :=
  if !g.verified && g.intervals ≥ sampleRateEvidenceIntervals then
    match g.verifySampleRate with
    | (g, .error e) => (g, .error e)
    | (g, .ok ()) => ({ g with verified := true }, .ok ())
  else (g, .ok ())

def observeTimestamp (g : RuntimeIdentityGate) (timestampUs : UInt64) :
    RuntimeIdentityGate × Except RuntimeHandshakeError Unit :=
  if g.failed || g.accepted.isNone then (g, .ok ())
  else
    match g.lastTimestampUs with
    | some previousUs =>
      if timestampUs ≤ previousUs then
        ({ g with failed := true, verified := false },
          .error (.sampleClockRegression previousUs timestampUs))
      else
        countSample { g with intervals := g.intervals + 1, lastTimestampUs := some timestampUs }
    | none =>
      countSample
        { g with firstTimestampUs := some timestampUs, lastTimestampUs := some timestampUs }

def resetSampleEvidence (g : RuntimeIdentityGate) : RuntimeIdentityGate :=
  { g with
    firstTimestampUs := none
    lastTimestampUs := none
    intervals := 0
    verified := false
    failed := false }

def isVerified (g : RuntimeIdentityGate) : Bool := g.verified && !g.failed

/-- What happens to a gate. -/
inductive Op where
  | accept (handshake : XPlaneRuntimeHandshake)
  | observe (timestampUs : UInt64)
  | reset

def machine : Machine RuntimeIdentityGate Op (Except RuntimeHandshakeError Unit) where
  step g
    | .accept handshake => g.accept handshake
    | .observe timestampUs => g.observeTimestamp timestampUs
    | .reset => (g.resetSampleEvidence, .ok ())

end RuntimeIdentityGate

/-! ## The evidence -/

open RuntimeIdentityGate

/-- What an operation makes of the samples since the last reset. -/
def note (past : List UInt64) : Op → List UInt64
  | .accept _ => past
  | .observe timestampUs => past ++ [timestampUs]
  | .reset => []

/-- The timestamps observed since the last reset. -/
def evidence (ops : List Op) : List UInt64 := ops.foldl note []

/-- The mean period of the first nine samples, in microseconds. -/
def meanPeriodUs (samples : List UInt64) : ℚ :=
  (((samples[8]?).getD 0).toNat - ((samples[0]?).getD 0).toNat) / 8

/-- The mean period is within 25 % of the declared one. -/
def PeriodHolds (rate : UInt16) (samples : List UInt64) : Prop :=
  |meanPeriodUs samples - 1000000 / rate.toNat| ≤ 1000000 / rate.toNat * (25 / 100)

/-- The samples prove the declared rate. -/
structure Proves (rate : UInt16) (samples : List UInt64) : Prop where
  enough : 9 ≤ samples.length
  increasing : samples.Pairwise (· < ·)
  period : PeriodHolds rate samples

/-- The samples do not disprove the declared rate. -/
structure Sound (rate : UInt16) (samples : List UInt64) : Prop where
  increasing : samples.Pairwise (· < ·)
  period : 9 ≤ samples.length → PeriodHolds rate samples

variable {rate : UInt16} {samples : List UInt64} {t a b : UInt64} {g : RuntimeIdentityGate}
  {expected : XPlaneSimulatorModel} {h : XPlaneRuntimeHandshake} {ops : List Op} {op : Op}

theorem proves_iff : Proves rate samples ↔ Sound rate samples ∧ 9 ≤ samples.length :=
  ⟨fun h => ⟨⟨h.increasing, fun _ => h.period⟩, h.enough⟩,
    fun ⟨h, henough⟩ => ⟨henough, h.increasing, h.period henough⟩⟩

/-- The tenth sample and those after it are not looked at. -/
theorem periodHolds_concat (hlength : 9 ≤ samples.length) :
    PeriodHolds rate (samples ++ [t]) ↔ PeriodHolds rate samples := by
  unfold PeriodHolds meanPeriodUs
  rw [List.getElem?_append_left (by omega), List.getElem?_append_left (by omega)]

theorem Sound.of_concat (hsound : Sound rate (samples ++ [t])) : Sound rate samples where
  increasing := (List.pairwise_append.mp hsound.increasing).1
  period := by
    intro hlength
    rw [← periodHolds_concat (t := t) hlength]
    exact hsound.period (by rw [List.length_append]; omega)

/-- An elapsed time scaled by the rate is near eight seconds in microseconds exactly when the mean
period is near the declared one. -/
theorem near_iff {n hz : Nat} (hn : 0 < n) : 6000000 ≤ n * hz ∧ n * hz ≤ 10000000 ↔
    |(n : ℚ) / 8 - 1000000 / hz| ≤ 1000000 / hz * (25 / 100) := by
  have hnpos : (0 : ℚ) < n := Nat.cast_pos.mpr hn
  rcases Nat.eq_zero_or_pos hz with rfl | hhz
  · -- A rate of zero is near no period.
    simp only [Nat.cast_zero, div_zero, sub_zero, zero_mul, Nat.mul_zero]
    refine iff_of_false (by omega) (not_le.mpr ?_)
    exact abs_pos.mpr (div_ne_zero hnpos.ne' (by norm_num))
  · have hpos : (0 : ℚ) < hz := Nat.cast_pos.mpr hhz
    have hscaled : (n : ℚ) / 8 - 1000000 / hz = (n * hz - 8000000) / (8 * hz) := by
      field_simp
      ring
    have hbound : (1000000 : ℚ) / hz * (25 / 100) = 2000000 / (8 * hz) := by
      field_simp
      norm_num
    rw [hscaled, hbound, abs_div, abs_of_pos (by positivity : (0 : ℚ) < 8 * hz),
      div_le_div_iff_of_pos_right (by positivity), abs_le]
    have hcast : ((n * hz : ℕ) : ℚ) = n * hz := Nat.cast_mul n hz
    rw [← hcast]
    constructor
    · rintro ⟨hlow, hhigh⟩
      have hlow' : (6000000 : ℚ) ≤ (n * hz : ℕ) := by exact_mod_cast hlow
      have hhigh' : ((n * hz : ℕ) : ℚ) ≤ 10000000 := by exact_mod_cast hhigh
      constructor <;> linarith
    · rintro ⟨hlow, hhigh⟩
      have hlow' : (6000000 : ℚ) ≤ (n * hz : ℕ) := by linarith
      have hhigh' : ((n * hz : ℕ) : ℚ) ≤ 10000000 := by linarith
      exact ⟨by exact_mod_cast hlow', by exact_mod_cast hhigh'⟩

/-- The comparison of the gate at the ninth sample is the comparison of the periods. -/
theorem scaled_le_iff (hab : a < b) :
    (max ((b.toNat - a.toNat) * rate.toNat) (8 * 1000000) -
        min ((b.toNat - a.toNat) * rate.toNat) (8 * 1000000)) * 100 ≤ 8 * 1000000 * 25 ↔
      |((b.toNat : ℚ) - a.toNat) / 8 - 1000000 / rate.toNat| ≤
        1000000 / rate.toNat * (25 / 100) := by
  have hlt : a.toNat < b.toNat := hab
  rw [← Nat.cast_sub hlt.le, ← near_iff (Nat.sub_pos_of_lt hlt)]
  generalize (b.toNat - a.toNat) * rate.toNat = scaled
  omega

/-- The gate's fields are a summary of the samples. -/
structure Tracks (expected : XPlaneSimulatorModel) (g : RuntimeIdentityGate)
    (samples : List UInt64) : Prop where
  model : g.expected = expected
  accepted : g.accepted.isNone = false
  failed : g.failed = true ↔ ¬ Sound expected.sampleRateHz samples
  first : g.failed = false → g.firstTimestampUs = samples.head?
  last : g.failed = false → g.lastTimestampUs = samples.getLast?
  intervals : g.failed = false → samples.length ≤ 9 → g.intervals.toNat = samples.length - 1
  verified : g.failed = false → g.verified = decide (9 ≤ samples.length)

theorem Tracks.isVerified_eq (htracks : Tracks expected g samples) :
    g.isVerified = true ↔ Proves expected.sampleRateHz samples := by
  have hfailed := htracks.failed
  rw [proves_iff, isVerified]
  cases hf : g.failed with
  | true =>
    rw [hf] at hfailed
    simp [hfailed.mp rfl]
  | false =>
    rw [hf] at hfailed
    have hsound : Sound expected.sampleRateHz samples := by simpa using hfailed
    simp [htracks.verified hf, hsound]

/-- A gate that has just accepted a handshake, or was reset after that. -/
theorem tracks_nil (hexpected : g.expected = expected) (haccepted : g.accepted.isNone = false)
    (hclear : g.resetSampleEvidence = g) : Tracks expected g [] := by
  rw [← hclear]
  exact ⟨hexpected, haccepted, ⟨nofun, fun hunsound => absurd ⟨.nil, nofun⟩ hunsound⟩,
    fun _ => rfl, fun _ => rfl, fun _ _ => rfl, fun _ => rfl⟩

/-! ## Steps -/

/-- The state after a sample is counted in, when the rate is not up for verification. -/
theorem countSample_quiet (hquiet : g.verified = true ∨ g.intervals.toNat < 8) :
    g.countSample = (g, .ok ()) := by
  have hdue : ¬ ((!g.verified && decide (g.intervals ≥ sampleRateEvidenceIntervals)) = true) := by
    rw [Bool.and_eq_true, decide_eq_true_eq, Bool.not_eq_true']
    rintro ⟨hverified, hintervals⟩
    rcases hquiet with hquiet | hquiet
    · exact absurd (hverified.symm.trans hquiet) Bool.false_ne_true
    · exact absurd hquiet (Nat.not_lt.mpr hintervals)
  rw [countSample, if_neg hdue]

/-- At the eighth interval the gate opens or fails by the mean period. -/
theorem countSample_eighth (hverified : g.verified = false) (hintervals : g.intervals = 8)
    (hfirst : g.firstTimestampUs = some a) (hlast : g.lastTimestampUs = some b) (hab : a < b) :
    (|((b.toNat : ℚ) - a.toNat) / 8 - 1000000 / g.expected.sampleRateHz.toNat| ≤
        1000000 / g.expected.sampleRateHz.toNat * (25 / 100) →
      g.countSample.1 = { g with verified := true }) ∧
    (¬ |((b.toNat : ℚ) - a.toNat) / 8 - 1000000 / g.expected.sampleRateHz.toNat| ≤
        1000000 / g.expected.sampleRateHz.toNat * (25 / 100) →
      g.countSample.1 = { g with failed := true }) := by
  obtain ⟨expected, accepted, first, last, intervals, verified, failed⟩ := g
  dsimp only at hverified hintervals hfirst hlast ⊢
  subst hverified hintervals hfirst hlast
  have height : (8 : UInt16).toNat = 8 := rfl
  have hdue : (!false && decide ((8 : UInt16) ≥ sampleRateEvidenceIntervals)) = true := rfl
  rw [← scaled_le_iff hab, countSample]
  dsimp only
  rw [if_pos hdue, verifySampleRate]
  dsimp only
  rw [height, sampleRateTolerancePercent]
  constructor
  · intro hnear
    rw [if_neg (Nat.not_lt.mpr hnear)]
  · intro hfar
    rw [if_pos (Nat.not_le.mp hfar)]

/-- A sample behind the others that is later than them. -/
theorem pairwise_concat (hsorted : (samples ++ [a]).Pairwise (· < ·)) (hab : a < b) :
    (samples ++ [a] ++ [b]).Pairwise (· < ·) := by
  rw [List.pairwise_append] at hsorted ⊢
  refine ⟨List.pairwise_append.mpr hsorted, List.pairwise_singleton _ _, fun x hx y hy => ?_⟩
  rw [List.mem_singleton.mp hy]
  rcases List.mem_append.mp hx with hx | hx
  · exact UInt64.lt_trans (hsorted.2.2 x hx a (List.mem_singleton_self a)) hab
  · rwa [List.mem_singleton.mp hx]

/-- A later sample. -/
theorem tracks_later (htracks : Tracks expected g (samples ++ [a])) (hfailed : g.failed = false)
    (hab : a < b) :
    Tracks expected
      (countSample { g with intervals := g.intervals + 1, lastTimestampUs := some b }).1
      (samples ++ [a] ++ [b]) := by
  have hsound : Sound expected.sampleRateHz (samples ++ [a]) := by
    have hiff := htracks.failed
    rw [hfailed] at hiff
    simpa using hiff
  have hsorted := pairwise_concat hsound.increasing hab
  have hfirst : g.firstTimestampUs = (samples ++ [a] ++ [b]).head? := by
    rw [htracks.first hfailed, List.append_assoc, List.head?_append, List.head?_append]
    rfl
  have hlast : some b = (samples ++ [a] ++ [b]).getLast? := by rw [List.getLast?_concat]
  have hlength : (samples ++ [a] ++ [b]).length = samples.length + 2 := by simp
  have hbefore : (samples ++ [a]).length = samples.length + 1 := by simp
  have hverified := htracks.verified hfailed
  have hnext : samples.length < 8 → (g.intervals + 1).toNat = samples.length + 1 := by
    intro hshort
    have hintervals := htracks.intervals hfailed (by omega)
    rw [UInt16.toNat_add, hintervals, hbefore]
    have hone : (1 : UInt16).toNat = 1 := rfl
    omega
  rw [hbefore] at hverified
  rcases Nat.lt_trichotomy samples.length 7 with hshort | hseven | hlong
  · -- Not enough intervals yet.
    rw [countSample_quiet (.inr (by dsimp only; rw [hnext (by omega)]; omega))]
    refine ⟨htracks.model, htracks.accepted, ?_, fun _ => hfirst, fun _ => hlast, fun _ _ => ?_,
      fun _ => ?_⟩
    · refine iff_of_false (by simp [hfailed]) (not_not.mpr ⟨hsorted, fun hnine => ?_⟩)
      omega
    · rw [hlength, hnext (by omega)]
      omega
    · rw [hlength]
      simp only [hverified, decide_eq_decide]
      omega
  · -- The ninth sample.
    obtain ⟨first, middle, rfl⟩ : ∃ first middle, samples = first :: middle := by
      cases samples with
      | nil => exact absurd hseven nofun
      | cons first middle => exact ⟨first, middle, rfl⟩
    have hafter : first < b :=
      (List.pairwise_append.mp hsorted).2.2 first (by simp) b (List.mem_singleton_self b)
    have hintervals : g.intervals + 1 = 8 := by
      apply UInt16.toNat_inj.mp
      rw [hnext (by omega), hseven]
      rfl
    have hperiod : PeriodHolds expected.sampleRateHz (first :: middle ++ [a] ++ [b]) ↔
        |((b.toNat : ℚ) - first.toNat) / 8 - 1000000 / g.expected.sampleRateHz.toNat| ≤
          1000000 / g.expected.sampleRateHz.toNat * (25 / 100) := by
      have hninth : (first :: middle ++ [a] ++ [b])[8]? = some b := by
        rw [List.getElem?_append_right (by rw [hbefore]; omega), hbefore, hseven]
        rfl
      unfold PeriodHolds meanPeriodUs
      rw [hninth, htracks.model]
      rfl
    obtain ⟨hopens, hfails⟩ := countSample_eighth
      (g := { g with intervals := g.intervals + 1, lastTimestampUs := some b })
      (by dsimp only; rw [hverified, hseven]; rfl) hintervals hfirst rfl hafter
    dsimp only at hopens hfails
    rw [← hperiod] at hopens hfails
    by_cases hholds : PeriodHolds expected.sampleRateHz (first :: middle ++ [a] ++ [b])
    · rw [hopens hholds]
      refine ⟨htracks.model, htracks.accepted, ?_, fun _ => hfirst, fun _ => hlast, fun _ _ => ?_,
        fun _ => ?_⟩
      · exact iff_of_false (by simp [hfailed]) (not_not.mpr ⟨hsorted, fun _ => hholds⟩)
      · rw [hlength, hseven]
        exact (hnext (by omega)).trans (congrArg (· + 1) hseven)
      · rw [hlength, hseven]
        rfl
    · rw [hfails hholds]
      refine ⟨htracks.model, htracks.accepted, ?_, nofun, nofun, nofun, nofun⟩
      exact iff_of_true rfl fun hsound' => hholds (hsound'.period (by omega))
  · -- The rate has been verified.
    rw [countSample_quiet (.inl (by dsimp only; rw [hverified, decide_eq_true_eq]; omega))]
    refine ⟨htracks.model, htracks.accepted, ?_, fun _ => hfirst, fun _ => hlast, fun _ _ => ?_,
      fun _ => ?_⟩
    · refine iff_of_false (by simp [hfailed]) (not_not.mpr ⟨hsorted, fun _ => ?_⟩)
      rw [periodHolds_concat (by omega)]
      exact hsound.period (by omega)
    · omega
    · rw [hlength]
      simp only [hverified, decide_eq_decide]
      omega

/-- A sample that is observed. -/
theorem tracks_observe (htracks : Tracks expected g samples) (b : UInt64) :
    Tracks expected (g.observeTimestamp b).1 (samples ++ [b]) := by
  have hiff := htracks.failed
  cases hfailed : g.failed with
  | true =>
    have hunsound : ¬ Sound expected.sampleRateHz samples := hiff.mp hfailed
    rw [observeTimestamp, hfailed, Bool.true_or, if_pos rfl]
    refine ⟨htracks.model, htracks.accepted, ?_, ?_, ?_, ?_, ?_⟩
    · exact iff_of_true hfailed fun hsound => hunsound hsound.of_concat
    all_goals exact fun hopen => absurd (hfailed.symm.trans hopen) nofun
  | false =>
    have hopen : ¬ ((g.failed || g.accepted.isNone) = true) := by
      rw [hfailed, htracks.accepted]
      exact nofun
    rw [observeTimestamp, if_neg hopen, htracks.last hfailed]
    rcases List.eq_nil_or_concat' samples with rfl | ⟨front, a, rfl⟩
    · have hintervals := htracks.intervals hfailed (Nat.zero_le _)
      have hverified := htracks.verified hfailed
      rw [List.getLast?_nil]
      dsimp only
      rw [countSample_quiet (.inr (by dsimp only; rw [hintervals]; decide))]
      refine ⟨htracks.model, htracks.accepted, ?_, fun _ => rfl, fun _ => rfl,
        fun _ _ => hintervals, fun _ => hverified⟩
      exact iff_of_false (by simp [hfailed])
        (not_not.mpr ⟨List.pairwise_singleton _ _, fun hnine => absurd hnine (by simp)⟩)
    · rw [List.getLast?_concat]
      dsimp only
      split
      · next hregressed =>
        refine ⟨htracks.model, htracks.accepted, ?_, nofun, nofun, nofun, nofun⟩
        refine iff_of_true rfl fun hsound => ?_
        have hlater : a < b := (List.pairwise_append.mp hsound.increasing).2.2 a (by simp) b
          (List.mem_singleton_self b)
        exact absurd hregressed (UInt64.not_le.mpr hlater)
      · next hlater => exact tracks_later htracks hfailed (UInt64.not_le.mp hlater)

/-- Once a handshake is accepted the gate keeps track of the samples. -/
theorem tracks_run (htracks : Tracks expected g samples) (ops : List Op) :
    Tracks expected (machine.run g ops) (ops.foldl note samples) := by
  induction ops generalizing g samples with
  | nil => exact htracks
  | cons op ops ih =>
    refine ih ?_
    cases op with
    | accept h =>
      have haccepted : g.accepted.isSome = true := by
        rw [← Option.not_isNone, htracks.accepted]
        rfl
      have hkept : (machine.step g (.accept h)).1 = g := by
        show (g.accept h).1 = g
        rw [accept, if_pos haccepted]
      rw [hkept]
      exact htracks
    | observe timestampUs => exact tracks_observe htracks timestampUs
    | reset => exact tracks_nil htracks.model htracks.accepted rfl

/-! ## The gate over a run -/

/-- Before a handshake is accepted nothing changes the gate. -/
theorem step_new (hop : ∀ h, op = .accept h → verify expected h ≠ .ok ()) :
    (machine.step (.new expected) op).1 = .new expected := by
  cases op with
  | accept h =>
    show ((RuntimeIdentityGate.new expected).accept h).1 = _
    rw [accept, if_neg nofun]
    cases hverify : verify (RuntimeIdentityGate.new expected).expected h with
    | error e => rfl
    | ok u => exact absurd hverify (hop h rfl)
  | observe timestampUs => rfl
  | reset => rfl

/-- The gate is open exactly when a handshake that matches the model was accepted and the samples
since then and since the last reset are at least nine, strictly increasing, with a mean period
over the first nine within 25 % of the declared one. -/
theorem isVerified_iff (expected : XPlaneSimulatorModel) (ops : List Op) :
    (machine.run (.new expected) ops).isVerified = true ↔
      ∃ before h after, ops = before ++ Op.accept h :: after ∧ verify expected h = .ok () ∧
        (∀ h', .accept h' ∈ before → verify expected h' ≠ .ok ()) ∧
        Proves expected.sampleRateHz (evidence after) := by
  induction ops with
  | nil => exact iff_of_false nofun fun ⟨before, h, after, hops, _⟩ => absurd hops (by simp)
  | cons op ops ih =>
    by_cases hop : ∀ h, op = .accept h → verify expected h ≠ .ok ()
    · rw [Machine.run_cons, step_new hop, ih]
      constructor
      · rintro ⟨before, h, after, rfl, hverify, hbefore, hproves⟩
        refine ⟨op :: before, h, after, rfl, hverify, fun h' hmem => ?_, hproves⟩
        rcases List.mem_cons.mp hmem with heq | hmem
        · exact hop h' heq.symm
        · exact hbefore h' hmem
      · rintro ⟨before, h, after, hops, hverify, hbefore, hproves⟩
        cases before with
        | nil => exact absurd hverify (hop h (List.cons.inj hops).1)
        | cons first before =>
          obtain ⟨-, rfl⟩ := List.cons.inj hops
          exact ⟨before, h, after, rfl, hverify,
            fun h' hmem => hbefore h' (List.mem_cons_of_mem _ hmem), hproves⟩
    · push Not at hop
      obtain ⟨h, rfl, hverify⟩ := hop
      have haccepted : (machine.step (.new expected) (.accept h)).1 =
          { RuntimeIdentityGate.new expected with accepted := some h } := by
        show ((RuntimeIdentityGate.new expected).accept h).1 = _
        have hmodel : verify (RuntimeIdentityGate.new expected).expected h = .ok () := hverify
        rw [accept, if_neg nofun, hmodel]
      have hfresh :
          Tracks expected { RuntimeIdentityGate.new expected with accepted := some h } [] :=
        tracks_nil rfl rfl rfl
      have htracks := tracks_run hfresh ops
      rw [Machine.run_cons, haccepted, htracks.isVerified_eq]
      constructor
      · intro hproves
        exact ⟨[], h, ops, rfl, hverify, nofun, hproves⟩
      · rintro ⟨before, h', after, hops, hverify', hbefore, hproves⟩
        cases before with
        | nil =>
          obtain ⟨-, rfl⟩ := List.cons.inj hops
          exact hproves
        | cons first before =>
          have hfirst := (List.cons.inj hops).1
          exact absurd hverify (hbefore h (List.mem_cons.mpr (.inl hfirst)))

/-! ## A fast clock -/

/-- An aircraft sampled at 100 Hz. -/
def hundredHertzModel : XPlaneSimulatorModel where
  bridgeProtocol := .mavlinkHilTcpV1
  simulatorId := "xplane-12".toUTF8.toList
  aircraftId := "xplane12-laminar-alia250".toUTF8.toList
  aircraftFileDigest := List.replicate 64 0x64
  sampleRateHz := 100
  motorCount := 4
  laneOrder := #v[0, 2, 1, 3]

/-- The identity of a session with that aircraft. -/
def hundredHertzHandshake : XPlaneRuntimeHandshake where
  schemaVersion := 1
  verifierId := supportedVerifierId
  sessionBindingDigest := List.replicate 64 0x61
  bridgeEndpoint := "127.0.0.1:4560".toUTF8.toList
  bridgeProtocol := .mavlinkHilTcpV1
  bridgeBuildDigest := List.replicate 64 0x62
  bridgeConfigDigest := List.replicate 64 0x63
  simulatorId := "xplane-12".toUTF8.toList
  aircraftId := "xplane12-laminar-alia250".toUTF8.toList
  aircraftFileDigest := List.replicate 64 0x64
  sampleRateHz := 100
  motorCount := 4
  laneOrder := #v[0, 2, 1, 3]

/-- Nine samples, 7.6 ms apart, after the handshake. -/
def fastClock : List Op :=
  .accept hundredHertzHandshake ::
    [0, 7600, 15200, 22800, 30400, 38000, 45600, 53200, 60800].map Op.observe

/-- A clock of 131 Hz opens a gate that expects 100 Hz: its period is within 25 % of the declared
one, its rate is not. -/
theorem fast_clock_verified :
    (machine.run (.new hundredHertzModel) fastClock).isVerified = true ∧
      ¬ |1000000 / meanPeriodUs (evidence fastClock) - 100| ≤ 100 * (25 / 100) := by
  constructor
  · decide +kernel
  · have hperiod : meanPeriodUs (evidence fastClock) = 7600 := by
      unfold meanPeriodUs
      decide +kernel
    rw [hperiod]
    norm_num [abs_le]

end Aviate.XPlane
