import Aviate.Core.ExactReal
import Aviate.Model

/-!
# Clipping runs

A clipped accelerometer sample widens the covariance by what its time step adds to the run it
belongs to. A run is a stretch of the filter's operations whose samples are all clipped; whatever
else the filter does between them changes the covariance too, but not the length of the run.

Results:
1. Only the widening itself and a new seed touch the length of the run (`apply_accelClipS`).
2. A clipped sample moves the length towards one second and adds the variance between the two
   lengths (`widenForAccelClip_spec`).
3. Over a run the additions are never negative and sum up to the variance of its capped duration
   (`clip_additions_telescope`).
-/

namespace Aviate

/-! ## The length of the run -/

section Length

variable {F : Type} [Scalar F] [Libm F] {cfg : EkfConfig F} {s t : EkfState F} {dt x y : F}

theorem accelClipS_sanitizeQuat (q : Quaternion F) :
    (s.sanitizeQuat q).1.accelClipS = s.accelClipS := by
  unfold EkfState.sanitizeQuat
  dsimp only
  split <;> rfl

theorem accelClipS_rotateAttitude (v : Vector3 F) :
    (s.rotateAttitude v).accelClipS = s.accelClipS := by
  unfold EkfState.rotateAttitude
  exact (accelClipS_sanitizeQuat _).trans (accelClipS_sanitizeQuat _)

omit [Libm F] in
theorem accelClipS_clampBiases (h : cfg.clampBiases s = some t) : t.accelClipS = s.accelClipS := by
  obtain ⟨gyroBias, accelBias, -, -, rfl⟩ := clampBiases_cases h
  rfl

theorem accelClipS_scalarUpdate {idx : Fin stateDim} {accepted : Bool}
    (h : cfg.scalarUpdate s idx x y = some (t, accepted)) : t.accelClipS = s.accelClipS := by
  rcases scalarUpdate_cases h with ⟨-, rfl⟩ | ⟨-, pred, u, -, -, -, hclamp, rfl⟩
  · rfl
  · have hcorrected := accelClipS_clampBiases hclamp
    exact (accelClipS_rotateAttitude _).trans hcorrected

theorem accelClipS_headingUpdate (h : cfg.headingUpdate s x y = some t) :
    t.accelClipS = s.accelClipS := by
  rcases headingUpdate_cases h with rfl | ⟨u, -, -, hclamp, rfl⟩
  · rfl
  · exact (accelClipS_clampBiases hclamp).trans (accelClipS_rotateAttitude _)

theorem accelClipS_propagate (imu : ImuData F) :
    (cfg.propagate s imu dt).accelClipS = s.accelClipS := by
  unfold EkfConfig.propagate EkfState.integrate
  exact accelClipS_sanitizeQuat _

omit [Libm F] in
theorem accelClipS_widenForImuGap : (s.widenForImuGap dt).accelClipS = s.accelClipS := by
  unfold EkfState.widenForImuGap
  dsimp only
  split <;> rfl

omit [Libm F] in
theorem accelClipS_tickAidingAge : (s.tickAidingAge dt).accelClipS = s.accelClipS := by
  unfold EkfState.tickAidingAge
  split <;> rfl

omit [Libm F] in
theorem accelClipS_latchDatum : (s.latchDatum x).1.accelClipS = s.accelClipS := by
  unfold EkfState.latchDatum
  split <;> rfl

omit [Libm F] in
theorem accelClipS_correctBaroDatum :
    (cfg.correctBaroDatum s x y).accelClipS = s.accelClipS := by
  unfold EkfConfig.correctBaroDatum
  dsimp only
  split <;> rfl

end Length

/-! ## Runs -/

/-- Some axis is at the sensor's range. -/
def isClipped {F : Type} [Scalar F] (accel : Vector F 3) : Bool :=
  accel.toList.any fun a => Scalar.le accelClipMps2 (Scalar.abs a)

namespace FilterOperation

section Generic

variable {F : Type}

/-- The operation is neither a sample for the widening nor a new seed. -/
def KeepsRun : FilterOperation F → Prop
  | init .. | reset | accelClip .. => False
  | _ => True

variable [Scalar F] [Libm F] {cfg : EkfConfig F} {s t : EkfState F} {op : FilterOperation F}

theorem apply_accelClipS (h : op.apply cfg s = some t) (hop : op.KeepsRun) :
    t.accelClipS = s.accelClipS := by
  cases op with
  | init pos vel quat => exact hop.elim
  | reset => exact hop.elim
  | accelClip accel dt => exact hop.elim
  | tick dt =>
    cases h
    exact accelClipS_tickAidingAge
  | imuGap dt =>
    cases h
    exact accelClipS_widenForImuGap
  | propagate imu dt =>
    cases h
    exact accelClipS_propagate imu
  | scalar idx meas noise =>
    obtain ⟨⟨u, accepted⟩, hupdate, rfl⟩ := Option.map_eq_some_iff.mp h
    exact accelClipS_scalarUpdate hupdate
  | heading innov noise => exact accelClipS_headingUpdate h
  | clearPosAge =>
    cases h
    rfl
  | clearVelAge =>
    cases h
    rfl
  | clearBaroAge =>
    cases h
    rfl
  | latchDatum altitude =>
    cases h
    exact accelClipS_latchDatum
  | correctDatum altitude datum =>
    cases h
    exact accelClipS_correctBaroDatum

end Generic

variable {K : Type} [Field K] [LinearOrder K]

/-- What a run is made of: clipped samples with positive time steps, and whatever else the filter
does between them. -/
def Clipping : FilterOperation K → Prop
  | accelClip accel dt => isClipped accel = true ∧ 0 < dt
  | op => op.KeepsRun

/-- The time step an operation adds to the run. -/
def clipDt : FilterOperation K → K
  | accelClip _ dt => dt
  | _ => 0

/-- What the widening of an operation adds to a diagonal entry. -/
def clipAdded (s t : EkfState K) (i : Fin stateDim) : FilterOperation K → K
  | accelClip .. => Mat.get t.pCov i i - Mat.get s.pCov i i
  | _ => 0

end FilterOperation

section Run

variable {K : Type} [Field K] [LinearOrder K]

/-- The duration of a run. -/
def clipDuration (ops : List (FilterOperation K)) : K := (ops.map FilterOperation.clipDt).sum

/-- What the widening adds to a diagonal entry over a run, operation by operation. -/
def clipAdditions [Libm K] (cfg : EkfConfig K) (i : Fin stateDim) :
    EkfState K → List (FilterOperation K) → List K
  | _, [] => []
  | s, op :: ops =>
    match op.apply cfg s with
    | none => []
    | some t => op.clipAdded s t i :: clipAdditions cfg i t ops

/-- The variance a run of length `t` hides in a diagonal entry: the position's, the velocity's, or
none. -/
def clipVar (i : Fin stateDim) (t : K) : K :=
  if i.val < idxVel then EkfState.clipPosVar t
  else if i.val < idxAtt then EkfState.clipVelVar t
  else 0

variable [IsStrictOrderedRing K] {i : Fin stateDim} {s t : EkfState K} {a b dt : K}
  {accel : Vector K 3} {ops : List (FilterOperation K)}

theorem clipVar_zero : clipVar i (0 : K) = 0 := by
  simp [clipVar, EkfState.clipPosVar, EkfState.clipVelVar]

theorem clipVar_mono (ha : 0 ≤ a) (hab : a ≤ b) : clipVar i a ≤ clipVar i b := by
  have hb : 0 ≤ b := ha.trans hab
  have hsigma : (0 : K) ≤ accelClipExcessSigma := by simp [accelClipExcessSigma]
  have hhalf : (0 : K) ≤ lit (1 / 2) := by simp
  have hvel : EkfState.clipVelVar a ≤ EkfState.clipVelVar b :=
    mul_self_le_mul_self (mul_nonneg hsigma ha) (mul_le_mul_of_nonneg_left hab hsigma)
  have hhalves : lit (1 / 2) * a ≤ lit (1 / 2) * b := mul_le_mul_of_nonneg_left hab hhalf
  have hpos : EkfState.clipPosVar a ≤ EkfState.clipPosVar b :=
    mul_le_mul (mul_le_mul hvel hhalves (mul_nonneg hhalf ha) (mul_self_nonneg _)) hhalves
      (mul_nonneg hhalf ha) (mul_nonneg (mul_self_nonneg _) (mul_nonneg hhalf hb))
  unfold clipVar
  split
  · exact hpos
  · split
    · exact hvel
    · exact le_rfl

omit [IsStrictOrderedRing K] in
/-- A clipped sample lengthens the run up to the cap and adds the variance between the lengths. -/
theorem widenForAccelClip_spec (dt : K) (hclip : isClipped accel = true) :
    (s.widenForAccelClip accel dt).accelClipS = min (s.accelClipS + dt) 1 ∧
      Mat.get (s.widenForAccelClip accel dt).pCov i i - Mat.get s.pCov i i =
        clipVar i (min (s.accelClipS + dt) 1) - clipVar i s.accelClipS := by
  have hceiling : (accelClipCeilingS : K) = 1 := Rat.cast_one
  have hwiden : s.widenForAccelClip accel dt =
      { s with accelClipS := min (s.accelClipS + dt) 1 }.widenMotion
        (EkfState.clipVelVar (min (s.accelClipS + dt) 1) - EkfState.clipVelVar s.accelClipS)
        (EkfState.clipPosVar (min (s.accelClipS + dt) 1) - EkfState.clipPosVar s.accelClipS) := by
    rw [EkfState.widenForAccelClip, if_neg (by simpa [isClipped] using hclip)]
    dsimp only
    rw [min_field, hceiling]
  rw [hwiden]
  refine ⟨rfl, ?_⟩
  unfold clipVar EkfState.widenMotion Mat.widenDiagonal idxPos idxVel idxAtt
  dsimp only
  rw [Mat.get_ofFn, Mat.get_ofFn]
  by_cases hpos : i.val < 3
  · have hlow : ¬ 3 ≤ i.val := Nat.not_le.mpr hpos
    simp [hpos, hlow]
  · by_cases hvel : i.val < 6
    · have hhigh : 3 ≤ i.val := Nat.not_lt.mp hpos
      simp [hpos, hvel, hhigh]
    · simp [hpos, hvel]

/-- Adding to a capped length is capping the sum. -/
theorem min_add_min {c d e : K} (he : 0 ≤ e) : min (min (c + d) 1 + e) 1 = min (c + (d + e)) 1 := by
  rw [← add_assoc]
  rcases le_total (c + d) 1 with h | h
  · rw [min_eq_left h]
  · rw [min_eq_right h, min_eq_right (by linarith), min_eq_right (by linarith)]

theorem clipDuration_nonneg (hops : ∀ op ∈ ops, op.Clipping) : 0 ≤ clipDuration ops := by
  refine List.sum_nonneg fun x hx => ?_
  obtain ⟨op, hop, rfl⟩ := List.mem_map.mp hx
  cases op with
  | accelClip accel dt => exact (hops _ hop).2.le
  | _ => exact le_rfl

variable [Libm K] {cfg : EkfConfig K} {op : FilterOperation K}

/-- One operation of a run. -/
theorem clipping_step (h : op.apply cfg s = some t) (hop : op.Clipping)
    (hhigh : s.accelClipS ≤ 1) :
    t.accelClipS = min (s.accelClipS + op.clipDt) 1 ∧
      op.clipAdded s t i = clipVar i t.accelClipS - clipVar i s.accelClipS ∧
      s.accelClipS ≤ t.accelClipS := by
  have hquiet : op.KeepsRun → op.clipDt = 0 ∧ op.clipAdded s t i = 0 := by
    intro hkeeps
    cases op with
    | accelClip accel dt => exact hkeeps.elim
    | _ => exact ⟨rfl, rfl⟩
  have hkeeps : op.KeepsRun → t.accelClipS = min (s.accelClipS + op.clipDt) 1 ∧
      op.clipAdded s t i = clipVar i t.accelClipS - clipVar i s.accelClipS ∧
      s.accelClipS ≤ t.accelClipS := by
    intro hkeeps
    rw [(hquiet hkeeps).1, (hquiet hkeeps).2, FilterOperation.apply_accelClipS h hkeeps, add_zero,
      min_eq_left hhigh, sub_self]
    exact ⟨rfl, rfl, le_rfl⟩
  cases op with
  | accelClip accel dt =>
    cases h
    obtain ⟨hclip, hdt⟩ := hop
    obtain ⟨hafter, hadded⟩ := widenForAccelClip_spec (s := s) (i := i) dt hclip
    rw [hafter]
    exact ⟨rfl, hadded, le_min (by linarith) hhigh⟩
  | _ => exact hkeeps hop

/-- Over a run from a length `a` on the additions are not negative and telescope. -/
theorem clip_additions_from (hpath : cfg.operations.Path s ops t)
    (hops : ∀ op ∈ ops, op.Clipping) (hlow : 0 ≤ s.accelClipS) (hhigh : s.accelClipS ≤ 1) :
    (clipAdditions cfg i s ops).sum =
        clipVar i (min (s.accelClipS + clipDuration ops) 1) - clipVar i s.accelClipS ∧
      ∀ x ∈ clipAdditions cfg i s ops, 0 ≤ x := by
  induction hpath with
  | nil s =>
    have hdone : min (s.accelClipS + clipDuration []) 1 = s.accelClipS := by
      rw [clipDuration, List.map_nil, List.sum_nil, add_zero, min_eq_left hhigh]
    rw [hdone, sub_self]
    exact ⟨rfl, nofun⟩
  | @cons s u t op ops hstep hpath ih =>
    rw [List.forall_mem_cons] at hops
    obtain ⟨hafter, hadded, hgrows⟩ := clipping_step (i := i) hstep hops.1 hhigh
    obtain ⟨hsum, hnonneg⟩ := ih hops.2 (hlow.trans hgrows) (hafter ▸ min_le_right _ _)
    have hduration : min (u.accelClipS + clipDuration ops) 1 =
        min (s.accelClipS + clipDuration (op :: ops)) 1 := by
      rw [hafter, min_add_min (clipDuration_nonneg hops.2)]
      rfl
    have hunfold : clipAdditions cfg i s (op :: ops) =
        op.clipAdded s u i :: clipAdditions cfg i u ops := by
      have happly : op.apply cfg s = some u := hstep
      rw [clipAdditions, happly]
    rw [hunfold, List.sum_cons, hsum, hadded, hduration]
    refine ⟨by ring, ?_⟩
    rw [List.forall_mem_cons]
    refine ⟨?_, hnonneg⟩
    rw [sub_nonneg]
    exact clipVar_mono hlow hgrows

/-- Over a run that starts at length zero the widening adds to each diagonal entry the variance of
the run's duration, capped at one second, and no step subtracts. -/
theorem clip_additions_telescope (i : Fin stateDim) (hpath : cfg.operations.Path s ops t)
    (hops : ∀ op ∈ ops, op.Clipping) (hstart : s.accelClipS = 0) :
    (clipAdditions cfg i s ops).sum = clipVar i (min (clipDuration ops) 1) ∧
      ∀ x ∈ clipAdditions cfg i s ops, 0 ≤ x := by
  obtain ⟨hsum, hnonneg⟩ := clip_additions_from (i := i) hpath hops hstart.ge
    (hstart.le.trans zero_le_one)
  rw [hstart, zero_add, clipVar_zero, sub_zero] at hsum
  exact ⟨hsum, hnonneg⟩

/-- Half a second in two steps, with the ages ticked in between, on a fresh filter. -/
theorem clip_additions_telescope_halves :
    (clipAdditions EkfConfig.default 3 (EkfState.new : EkfState ℝ)
        [.accelClip #v[200, 0, 0] (1 / 4), .tick (1 / 4),
          .accelClip #v[0, -200, 0] (1 / 4)]).sum = clipVar 3 (min (1 / 2 : ℝ) 1) := by
  have hrange : (accelClipMps2 : ℝ) ≤ 200 := by norm_num [accelClipMps2]
  have hduration : clipDuration [.accelClip #v[(200 : ℝ), 0, 0] (1 / 4), .tick (1 / 4),
      .accelClip #v[0, -200, 0] (1 / 4)] = 1 / 2 := by
    norm_num [clipDuration, FilterOperation.clipDt]
  have hclipping : ∀ op ∈ ([.accelClip #v[200, 0, 0] (1 / 4), .tick (1 / 4),
      .accelClip #v[0, -200, 0] (1 / 4)] : List (FilterOperation ℝ)), op.Clipping := by
    simp [FilterOperation.Clipping, FilterOperation.KeepsRun, isClipped, hrange]
  have hpath : (EkfConfig.default : EkfConfig ℝ).operations.Path EkfState.new
      [.accelClip #v[200, 0, 0] (1 / 4), .tick (1 / 4), .accelClip #v[0, -200, 0] (1 / 4)] _ :=
    .of_foldlM (fun _ _ _ h => h) rfl
  rw [← hduration]
  exact (clip_additions_telescope 3 hpath hclipping (by simp [EkfState.new])).1

end Run

end Aviate
