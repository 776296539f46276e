import Aviate.Core.Ieee32
import Aviate.Synthesis.StepClock

/-!
# Two synthesizers, one vehicle

With readings on every step and no noise, the direct synthesizer gives a sample on exactly the
reads on which the step synthesizer does, from the same past. They differ in one thing: an anchor
moves the environment of the direct synthesizer only. A model that accepts the next position
brings both together again, so the difference shows where a model refuses a position after it
accepted that of an anchor.

Results:
1. Each reading agrees while the world models it depends on are in step (`step_agrees`,
   `run_agrees`).
2. On every stream the samples agree so, and within one generation the steps of each sum to the
   elapsed time exactly when time never goes back (`synthesizers_agree`).
3. A stream on which the pressures differ, and one whose steps sum to more than the elapsed time
   (`synthesizers_differ`).
-/

namespace Aviate.Synthesis

variable {world : WorldModels} {F : Type}

/-! ## Which models are in step -/

/-- The latest accepted state, and for each world model whether both synthesizers hold the same
value of it. -/
structure Watch (F : Type) where
  latest : Option (TruthSample F)
  gravity : Bool
  air : Bool
  field : Bool

/-- Before the first read all models are in step. -/
def Watch.start : Watch F := ⟨none, true, true, true⟩

section

variable [Narrow F64 F] [Widen F F64]

/-- An anchor at an accepted position takes a model out of step, and a new step at an accepted
position brings it back. -/
def Watch.read (world : WorldModels) (plane : world.LocalTangentPlane)
    (epoch : world.DecimalYear) (self : Watch F) (truth : TruthSample F) : Watch F :=
  let position := Environment.geodetic plane truth.positionNedM
  let gravity := (world.normalGravity position).isOk
  let air := (airAt world position).isOk
  let field := (fieldAt world position epoch : Except _ (Vector F 3)).isOk
  match classify self.latest truth with
  | .anchor =>
    ⟨some truth, self.gravity && !gravity, self.air && !air, self.field && !field⟩
  | .repeated => self
  | .fresh _ _ => ⟨some truth, self.gravity || gravity, self.air || air, self.field || field⟩

def Watch.step (world : WorldModels) (plane : world.LocalTangentPlane)
    (epoch : world.DecimalYear) (self : Watch F) : SynthOp F → Watch F
  | .read truth => self.read world plane epoch truth
  | .reset => { self with latest := none }

/-- The watch after a stream. -/
def Watch.after (world : WorldModels) (plane : world.LocalTangentPlane)
    (epoch : world.DecimalYear) (ops : List (SynthOp F)) : Watch F :=
  ops.foldl (Watch.step world plane epoch) .start

end

/-! ## Agreement -/

/-- Two samples of `truth`, with the models of `watch` in step. -/
structure SampleAgrees (watch : Watch F) (truth : TruthSample F) (std : StepSample F)
    (direct : DirectStepSample F) : Prop where
  deltaUs : std.deltaUs = direct.deltaUs
  simStep : std.simStep = direct.simStep
  timestampUs : std.packet.timestampUs = direct.timestampUs
  resetGeneration : std.packet.resetGeneration = some direct.resetGeneration
  gnss : std.packet.gnss = direct.gnss
  gyro : std.packet.imu.map (·.gyro) = some direct.imu.gyro
  imu : truth.measured.isSome ∨ watch.gravity = true → std.packet.imu = some direct.imu
  baro : watch.air = true → std.packet.baro = direct.baro
  mag : watch.field = true → std.packet.mag = direct.mag

/-- What the two return for `truth`: a sample each, and these agree, or none. -/
inductive ReadAgrees (watch : Watch F) (truth : TruthSample F) :
    Option (StepSample F) → Option (DirectStepSample F) → Prop
  | none : ReadAgrees watch truth none none
  | some {std : StepSample F} {direct : DirectStepSample F} :
      SampleAgrees watch truth std direct → ReadAgrees watch truth (some std) (some direct)

/-- The synthesizers share their frame, their past and the values of the models in step. -/
structure InStep (plane : world.LocalTangentPlane) (epoch : world.DecimalYear) (watch : Watch F)
    (std : StepSynthesizer world F) (direct : DirectSynthesizer world F) : Prop where
  stdPlane : std.plane = plane
  directPlane : direct.plane = plane
  stdEpoch : std.epoch = epoch
  directEpoch : direct.origin.epoch = epoch
  rates : direct.rates = .everyStep
  noiseTier : direct.noiseTier = .off
  stdPrev : std.prev = watch.latest
  directPrev : direct.prev = watch.latest
  prevNedVel : direct.prevNedVel = std.prevNedVel
  gravity : watch.gravity = true →
    std.environment.gravityMps2 = direct.environment.gravityMps2
  air : watch.air = true → std.environment.air = direct.environment.air
  field : watch.field = true →
    std.environment.fieldNedUt = direct.environment.fieldNedUt

/-- Readings on every step are always due. -/
theorem periodDue_zero (lastUs : Option UInt64) (nowUs : UInt64) : periodDue lastUs nowUs 0 := by
  cases lastUs with
  | none => rfl
  | some prevUs => simp [periodDue]

section

variable [Scalar F]

/-! The formulas were written twice; the two texts compute the same. -/

theorem rotateWorldToBody_eq (q : Vector F 4) (v : Vector F 3) :
    Direct.rotateWorldToBody q v = rotateWorldToBody q v := rfl

theorem derivedKinematics_eq (truth prev : TruthSample F) (dt : F)
    (prevNedVel : Option (Vector F 3)) (gravity : F) :
    Direct.derivedKinematics truth prev dt prevNedVel gravity =
      derivedKinematics truth prev dt prevNedVel gravity := by
  cases prevNedVel with
  | none => rfl
  | some prevNedVel => rfl

variable [Narrow F64 F]

/-- What a packet takes from the environment: each lane its own part. -/
theorem synthesizePacket_congr (truth prev : TruthSample F) (deltaUs : UInt64)
    (prevNedVel : Option (Vector F 3)) {env env' : Environment world F}
    (hposition : env.position = env'.position) :
    let packet := synthesizePacket truth prev deltaUs prevNedVel env
    let packet' := synthesizePacket truth prev deltaUs prevNedVel env'
    packet.2 = packet'.2 ∧ packet.1.gnss = packet'.1.gnss ∧
      packet.1.imu.map (·.gyro) = packet'.1.imu.map (·.gyro) ∧
      (truth.measured.isSome ∨ env.gravityMps2 = env'.gravityMps2 →
        packet.1.imu = packet'.1.imu) ∧
      (env.air = env'.air → packet.1.baro = packet'.1.baro) ∧
      (env.fieldNedUt = env'.fieldNedUt → packet.1.mag = packet'.1.mag) := by
  unfold synthesizePacket
  cases truth.measured with
  | some measured =>
    dsimp only
    rw [hposition]
    refine ⟨rfl, rfl, rfl, fun _ => rfl, ?_, ?_⟩
    · intro hair
      rw [hair]
    · intro hfield
      rw [hfield]
  | none =>
    dsimp only
    rw [hposition]
    refine ⟨rfl, rfl, rfl, ?_, ?_, ?_⟩
    · rintro (h | hgravity)
      · exact absurd h Bool.false_ne_true
      · rw [hgravity]
    · intro hair
      rw [hair]
    · intro hfield
      rw [hfield]

variable [Widen F F64] [NormalSource F]

/-! The readings of a direct synthesizer that reads on every step and adds no noise. -/

section EveryStep

variable {direct : DirectSynthesizer world F}

omit [Widen F F64] in
theorem synthesizeBaro_everyStep (hrates : direct.rates = .everyStep)
    (htier : direct.noiseTier = .off) (timeUs : UInt64) :
    direct.synthesizeBaro timeUs =
      (some { pressurePa := narrow (world.pressurePa direct.environment.air)
              temperatureC := narrow (world.temperatureC direct.environment.air)
              differentialPressurePa := none
              pressureAltitudeM := none }, { direct with lastBaroUs := some timeUs }) := by
  rw [DirectSynthesizer.synthesizeBaro, hrates, htier, DirectSensorRates.everyStep, periodDue_zero]
  rfl

omit [Widen F F64] [Narrow F64 F] in
theorem synthesizeMag_everyStep (hrates : direct.rates = .everyStep)
    (htier : direct.noiseTier = .off) (timeUs : UInt64) (attitude : Vector F 4) :
    direct.synthesizeMag timeUs attitude =
      (some { fieldUt := rotateWorldToBody attitude direct.environment.fieldNedUt },
        { direct with lastMagUs := some timeUs }) := by
  rw [DirectSynthesizer.synthesizeMag, hrates, htier, DirectSensorRates.everyStep, periodDue_zero]
  rfl

theorem synthesizeGnss_everyStep (hrates : direct.rates = .everyStep)
    (htier : direct.noiseTier = .off) (timeUs : UInt64) (positionNedM velNed : Vector F 3) :
    direct.synthesizeGnss timeUs positionNedM velNed =
      (some { latDeg := direct.environment.position.latitudeDeg
              lonDeg := direct.environment.position.longitudeDeg
              altM := narrow direct.environment.position.ellipsoidalHeightM
              positionNed := positionNedM
              velNed
              fix := .threeD
              hAcc := lit (1 / 2)
              vAcc := lit (8 / 10)
              satellites := 14 }, { direct with lastGnssUs := some timeUs }) := by
  rw [DirectSynthesizer.synthesizeGnss, hrates, htier, DirectSensorRates.everyStep, periodDue_zero]
  rfl

/-- A new step is then the packet of the step synthesizer in the direct one's environment. -/
theorem advance_everyStep (hrates : direct.rates = .everyStep) (htier : direct.noiseTier = .off)
    (truth prev : TruthSample F) (deltaUs : UInt64) :
    let environment :=
      direct.environment.follow direct.plane truth.positionNedM direct.origin.epoch
    let made := synthesizePacket truth prev deltaUs direct.prevNedVel environment
    ∃ imu, made.1.imu = some imu ∧
      direct.advance truth prev deltaUs =
        ({ direct with
            environment
            prev := some truth
            prevNedVel := some made.2
            lastBaroUs := some truth.timeUs
            lastMagUs := some truth.timeUs
            lastGnssUs := some truth.timeUs },
          some { timestampUs := truth.timeUs, deltaUs, simStep := truth.step
                 resetGeneration := truth.resetGeneration, imu, baro := made.1.baro
                 mag := made.1.mag, gnss := made.1.gnss }) := by
  cases direct
  cases hrates
  cases htier
  refine ⟨_, rfl, ?_⟩
  unfold DirectSynthesizer.advance
  dsimp only
  rw [applyImuNoise_off]
  dsimp only
  rw [synthesizeBaro_everyStep rfl rfl]
  dsimp only
  rw [synthesizeMag_everyStep rfl rfl]
  dsimp only
  rw [synthesizeGnss_everyStep rfl rfl]
  dsimp only
  unfold synthesizePacket
  cases truth.measured with
  | some measured => rfl
  | none => rfl

end EveryStep

/-! ## Every read -/

section Reads

variable {plane : world.LocalTangentPlane} {epoch : world.DecimalYear} {watch watch' : Watch F}
  {std : StepSynthesizer world F} {direct : DirectSynthesizer world F}

/-- A new step brings the environments together wherever a model is in step before it or accepts
its position. -/
theorem fresh_agrees (h : InStep plane epoch watch std direct) (truth prev : TruthSample F)
    (deltaUs : UInt64) (hlatest : watch'.latest = some truth)
    (hgravity : watch'.gravity = (watch.gravity ||
      (world.normalGravity (Environment.geodetic plane truth.positionNedM)).isOk))
    (hair : watch'.air = (watch.air ||
      (airAt world (Environment.geodetic plane truth.positionNedM)).isOk))
    (hfield : watch'.field = (watch.field ||
      (fieldAt world (Environment.geodetic plane truth.positionNedM) epoch :
        Except _ (Vector F 3)).isOk)) :
    ReadAgrees watch' truth (std.advance truth prev deltaUs).2
        (direct.advance truth prev deltaUs).2 ∧
      InStep plane epoch watch' (std.advance truth prev deltaUs).1
        (direct.advance truth prev deltaUs).1 := by
  have hsame : ∀ {α β : Type} {inStep : Bool} {a b : α} {answer : Except β α},
      (inStep = true → a = b) → (inStep || answer.isOk) = true →
      orLast answer a = orLast answer b := by
    intro α β inStep a b answer hab hor
    exact orLast_congr ((Bool.or_eq_true ..).mp hor |>.imp_left hab)
  obtain ⟨imu, himu, hadvance⟩ := advance_everyStep h.rates h.noiseTier truth prev deltaUs
  rw [h.directPlane, h.directEpoch, h.prevNedVel] at himu hadvance
  let env := std.environment.follow plane truth.positionNedM epoch
  let env' := direct.environment.follow plane truth.positionNedM epoch
  have hstd : std.advance truth prev deltaUs =
      ({ std with
          environment := env
          prev := some truth
          prevNedVel := some (synthesizePacket truth prev deltaUs std.prevNedVel env).2 },
        some { packet := (synthesizePacket truth prev deltaUs std.prevNedVel env).1, deltaUs
               simStep := truth.step }) := by
    unfold StepSynthesizer.advance
    rw [h.stdPlane, h.stdEpoch]
  have hposition : env.position = env'.position := rfl
  obtain ⟨hvelocity, hgnss, hgyro, himus, hbaro, hmag⟩ :=
    synthesizePacket_congr truth prev deltaUs std.prevNedVel hposition
  have hgravities : watch'.gravity = true → env.gravityMps2 = env'.gravityMps2 := by
    rw [hgravity]
    exact hsame h.gravity
  have hairs : watch'.air = true → env.air = env'.air := by
    rw [hair]
    exact hsame h.air
  have hfields : watch'.field = true → env.fieldNedUt = env'.fieldNedUt := by
    rw [hfield]
    exact hsame h.field
  rw [hadvance, hstd]
  refine ⟨.some ?_, ?_⟩
  · exact
      { deltaUs := rfl
        simStep := rfl
        timestampUs := rfl
        resetGeneration := rfl
        gnss := hgnss
        gyro := hgyro.trans (congrArg (Option.map _) himu)
        imu := by
          intro hknown
          exact (himus (hknown.imp_right hgravities)).trans himu
        baro := fun hwatch => hbaro (hairs hwatch)
        mag := fun hwatch => hmag (hfields hwatch) }
  · exact
      { stdPlane := h.stdPlane
        directPlane := rfl
        stdEpoch := h.stdEpoch
        directEpoch := h.directEpoch
        rates := h.rates
        noiseTier := h.noiseTier
        stdPrev := hlatest.symm
        directPrev := hlatest.symm
        prevNedVel := congrArg some hvelocity.symm
        gravity := hgravities
        air := hairs
        field := hfields }

/-- One read keeps the synthesizers in step, and what they return agrees. -/
theorem step_agrees (h : InStep plane epoch watch std direct) (truth : TruthSample F) :
    ReadAgrees (watch.read world plane epoch truth) truth (std.next truth).2
        (direct.synthesize truth).2 ∧
      InStep plane epoch (watch.read world plane epoch truth) (std.next truth).1
        (direct.synthesize truth).1 := by
  rw [next_eq, synthesize_eq, h.stdPrev, h.directPrev]
  unfold Watch.read
  cases hreading : classify watch.latest truth with
  | anchor =>
    have henv : (direct.anchor truth).1.environment =
        direct.environment.follow plane truth.positionNedM epoch := by
      rw [← h.directPlane, ← h.directEpoch]
      rfl
    refine ⟨.none, ?_⟩
    exact
      { stdPlane := h.stdPlane
        directPlane := h.directPlane
        stdEpoch := h.stdEpoch
        directEpoch := h.directEpoch
        rates := h.rates
        noiseTier := h.noiseTier
        stdPrev := rfl
        directPrev := rfl
        prevNedVel := rfl
        gravity := by
          intro hwatch
          rw [Bool.and_eq_true, Bool.not_eq_true'] at hwatch
          rw [henv]
          exact (h.gravity hwatch.1).trans (orLast_refused hwatch.2).symm
        air := by
          intro hwatch
          rw [Bool.and_eq_true, Bool.not_eq_true'] at hwatch
          rw [henv]
          exact (h.air hwatch.1).trans (orLast_refused hwatch.2).symm
        field := by
          intro hwatch
          rw [Bool.and_eq_true, Bool.not_eq_true'] at hwatch
          rw [henv]
          exact (h.field hwatch.1).trans (orLast_refused hwatch.2).symm }
  | repeated => exact ⟨.none, h⟩
  | fresh prev deltaUs => exact fresh_agrees h truth prev deltaUs rfl rfl rfl rfl

/-- A whole stream keeps them in step. -/
theorem run_inStep (h : InStep plane epoch watch std direct) (ops : List (SynthOp F)) :
    InStep plane epoch (ops.foldl (Watch.step world plane epoch) watch)
      ((stdMachine world).run std ops) ((directMachine world).run direct ops) := by
  induction ops generalizing watch std direct with
  | nil => exact h
  | cons op ops ih =>
    cases op with
    | read truth => exact ih (step_agrees h truth).2
    | reset =>
      exact ih
        { stdPlane := h.stdPlane
          directPlane := h.directPlane
          stdEpoch := h.stdEpoch
          directEpoch := h.directEpoch
          rates := h.rates
          noiseTier := h.noiseTier
          stdPrev := rfl
          directPrev := rfl
          prevNedVel := rfl
          gravity := h.gravity
          air := h.air
          field := h.field }

end Reads

/-! ## Every stream -/

omit [Scalar F] [Widen F F64] [NormalSource F] in
/-- Both refuse an origin for the same reason, or both start, in step. -/
theorem new_agrees (origin : GeodeticPosition) (epoch : world.DecimalYear) (seed : UInt64) :
    (∃ error,
      (StepSynthesizer.new origin epoch : Except _ (StepSynthesizer world F)) = .error error ∧
      (DirectSynthesizer.new ⟨origin, epoch⟩ .everyStep .off seed :
        Except _ (DirectSynthesizer world F)) = .error error) ∨
    ∃ std direct plane,
      (StepSynthesizer.new origin epoch : Except _ (StepSynthesizer world F)) = .ok std ∧
      (DirectSynthesizer.new ⟨origin, epoch⟩ .everyStep .off seed :
        Except _ (DirectSynthesizer world F)) = .ok direct ∧
      InStep plane epoch .start std direct := by
  cases hplane : world.newPlane origin with
  | error e =>
    refine .inl ⟨.origin e, ?_, ?_⟩
    · simp only [StepSynthesizer.new, hplane]
      rfl
    · simp only [DirectSynthesizer.new, hplane]
      rfl
  | ok plane =>
    have horigin : world.origin plane = origin := world.origin_newPlane hplane
    cases henv : (Environment.ofPosition origin epoch :
      Except (SynthesisError world) (Environment world F)) with
    | error e =>
      refine .inl ⟨e, ?_, ?_⟩
      · simp only [StepSynthesizer.new, hplane, Except.mapError, bind, Except.bind, horigin, henv]
      · simp only [DirectSynthesizer.new, hplane, Except.mapError, bind, Except.bind, henv]
    | ok environment =>
      refine .inr ⟨⟨plane, epoch, environment, none, none⟩,
        ⟨⟨origin, epoch⟩, plane, environment, .everyStep, .off, .new seed, none, none, none, none,
          none⟩, plane, ?_, ?_, ?_⟩
      · simp only [StepSynthesizer.new, hplane, Except.mapError, bind, Except.bind, horigin, henv]
        rfl
      · simp only [DirectSynthesizer.new, hplane, Except.mapError, bind, Except.bind, henv]
        rfl
      · exact ⟨rfl, rfl, rfl, rfl, rfl, rfl, rfl, rfl, rfl, fun _ => rfl, fun _ => rfl,
          fun _ => rfl⟩

/-- The steps of a run that starts a generation sum to the time between its first and its last
accepted state exactly when time never goes back in it. -/
def ElapsedSums {σ ο : Type} (machine : Machine σ (SynthOp F) (Option ο))
    (prev : σ → Option (TruthSample F)) (deltaUs : ο → UInt64) : Prop :=
  ∀ (synth : σ) (first : TruthSample F) (rest : List (TruthSample F)),
    classify (prev synth) first = .anchor →
    (∀ truth ∈ rest, truth.resetGeneration = first.resetGeneration) →
    ∃ last, prev (machine.run synth ((first :: rest).map .read)) = some last ∧
      ((totalUs ((machine.outputs synth ((first :: rest).map .read)).map (Option.map deltaUs)) : ℤ)
          = last.timeUs.toNat - first.timeUs.toNat ↔
        NeverBack (first :: rest))

/-- Both synthesizers start from the same origins. On every stream of reads and resets they then
give a sample on the same reads; the samples agree in their steps, times, fixes and body rates,
and in every reading whose world model is in step. Within one generation the steps of each sum to
the elapsed time exactly when time never goes back. -/
theorem synthesizers_agree (world : WorldModels) (origin : GeodeticPosition)
    (epoch : world.DecimalYear) (seed : UInt64) :
    ((∃ error, (StepSynthesizer.new origin epoch : Except _ (StepSynthesizer world F))
          = .error error ∧
        (DirectSynthesizer.new ⟨origin, epoch⟩ .everyStep .off seed :
          Except _ (DirectSynthesizer world F)) = .error error) ∨
      ∃ std direct,
        (StepSynthesizer.new origin epoch : Except _ (StepSynthesizer world F)) = .ok std ∧
        (DirectSynthesizer.new ⟨origin, epoch⟩ .everyStep .off seed :
          Except _ (DirectSynthesizer world F)) = .ok direct ∧
        ∀ (ops : List (SynthOp F)) (truth : TruthSample F),
          ReadAgrees (.after world std.plane epoch (ops ++ [SynthOp.read truth])) truth
            (((stdMachine world).run std ops).next truth).2
            (((directMachine world).run direct ops).synthesize truth).2) ∧
      ElapsedSums (stdMachine world : Machine (StepSynthesizer world F) _ _)
        StepSynthesizer.prev StepSample.deltaUs ∧
      ElapsedSums (directMachine world : Machine (DirectSynthesizer world F) _ _)
        DirectSynthesizer.prev DirectStepSample.deltaUs := by
  refine ⟨?_, ?_, ?_⟩
  · rcases new_agrees (F := F) origin epoch seed with
      ⟨error, hstd, hdirect⟩ | ⟨std, direct, plane, hstd, hdirect, h⟩
    · exact .inl ⟨error, hstd, hdirect⟩
    · refine .inr ⟨std, direct, hstd, hdirect, ?_⟩
      intro ops truth
      have hread := (step_agrees (run_inStep h ops) truth).1
      rwa [h.stdPlane, Watch.after, List.foldl_append]
  · intro synth first rest hfirst hgen
    obtain ⟨hrun, hout⟩ := std_clock synth ((first :: rest).map .read)
    rw [hrun, hout]
    exact elapsed_iff hfirst hgen
  · intro synth first rest hfirst hgen
    obtain ⟨hrun, hout⟩ := direct_clock synth ((first :: rest).map .read)
    rw [hrun, hout]
    exact elapsed_iff hfirst hgen

end

/-! ## Where they differ -/

section Difference

/-- The value of a double without its sign. -/
def doubleMagnitude (v : F64) : ExactFloat ℚ :=
  let exponent := ((v.bits >>> 52) &&& 0x7FF).toNat
  let fraction := (v.bits &&& 0xFFFFFFFFFFFFF).toNat
  if exponent = 0x7FF then if fraction = 0 then .posInf else .nan
  else if exponent = 0 then .fin (fraction * 2 ^ (-1074 : ℤ))
  else .fin ((fraction + 2 ^ 52) * 2 ^ ((exponent : ℤ) - 1075))

/-- The pattern of a single's magnitude as a double; every single but zero is a normal double. -/
def doubleBits : ExactFloat ℚ → UInt64
  | .fin q =>
    if q = 0 then 0
    else
      let unit := Int.log 2 q - 52
      .ofNat ((unit + 1074).toNat * 2 ^ 52 + (q / 2 ^ unit).floor.toNat)
  | .posInf | .negInf => 0x7FF0000000000000
  | .nan => 0x7FF8000000000000

instance : Narrow F64 Ieee32 where
  narrow v := Ieee32.signed (v.bits &&& 0x8000000000000000 ≠ 0) (doubleMagnitude v)

instance : Widen Ieee32 F64 where
  widen v := ⟨doubleBits v.magnitude ||| if v.negative then 0x8000000000000000 else 0⟩

/-- No noise is drawn without a noise tier. -/
instance : NormalSource Ieee32 where
  nextNormal rng := (lit 0, rng)

/-- An atmosphere of two layers that ends at 80 km; its state is the pressure. -/
def layeredAir (height : F64) : Except Unit F64 :=
  if height.bits ≤ 0x407F400000000000 then .ok ⟨0x40F8BCD000000000⟩
  else if height.bits ≤ 0x40F3880000000000 then .ok ⟨0x40F7318000000000⟩
  else .error ()

/-- A flat world with constant gravity and no Earth field. -/
@[reducible] def flatWorld : WorldModels where
  LocalTangentPlane := GeodeticPosition
  DecimalYear := Unit
  AtmosphereState := F64
  PositionError := Unit
  AtmosphereError := Unit
  GeomagError := Unit
  newPlane position := .ok position
  origin plane := plane
  toGeodetic plane ned :=
    { plane with ellipsoidalHeightM := ⟨ned.downM.bits ^^^ 0x8000000000000000⟩ }
  normalGravity _ := .ok ⟨0x40239D013A92A305⟩
  isaAt := layeredAir
  pressurePa air := air
  temperatureC _ := ⟨0x402E000000000000⟩
  wmm2025 _ _ := .ok #v[⟨0⟩, ⟨0⟩, ⟨0⟩]
  origin_newPlane h := by cases h; rfl

def seaLevel : GeodeticPosition := ⟨⟨0⟩, ⟨0⟩, ⟨0⟩⟩

/-- Level at a height above the origin. -/
def levelAt (timeUs : UInt64) (down : Ieee32) : TruthSample Ieee32 where
  timeUs
  resetGeneration := 0
  step := timeUs
  positionNedM := #v[⟨⟨0⟩⟩, ⟨⟨0⟩⟩, down]
  attitude := #v[⟨⟨0x3F800000⟩⟩, ⟨⟨0⟩⟩, ⟨⟨0⟩⟩, ⟨⟨0⟩⟩]
  measured := none

/-- An anchor at 1,000 m, where the atmosphere has its upper layer, and a step to 100 km, above
it. -/
def leavesAir : List (SynthOp Ieee32) :=
  [.read (levelAt 1000 ⟨⟨0xC47A0000⟩⟩), .read (levelAt 2000 ⟨⟨0xC7C35000⟩⟩)]

def stdStart : Except (SynthesisError flatWorld) (StepSynthesizer flatWorld Ieee32) :=
  StepSynthesizer.new seaLevel ()

def directStart : Except (SynthesisError flatWorld) (DirectSynthesizer flatWorld Ieee32) :=
  DirectSynthesizer.new ⟨seaLevel, ()⟩ .everyStep .off 0

/-- The pressures of a stream, in each crate. -/
def stdPressures (ops : List (SynthOp Ieee32)) : List (Option Ieee32) :=
  match stdStart with
  | .ok synth => ((stdMachine flatWorld).outputs synth ops).map fun sample =>
      sample.bind fun sample => sample.packet.baro.map (·.pressurePa)
  | .error _ => []

def directPressures (ops : List (SynthOp Ieee32)) : List (Option Ieee32) :=
  match directStart with
  | .ok synth => ((directMachine flatWorld).outputs synth ops).map fun sample =>
      sample.bind fun sample => sample.baro.map (·.pressurePa)
  | .error _ => []

/-- A stream of one generation whose time goes back once: the last accepted state is 5 µs after
the first. -/
def goesBack : List (SynthOp Ieee32) :=
  [10, 20, 5, 15].map fun timeUs => .read (levelAt timeUs ⟨⟨0xC47A0000⟩⟩)

/-- The steps of a stream, in each crate. -/
def stdSteps (ops : List (SynthOp Ieee32)) : List (Option UInt64) :=
  match stdStart with
  | .ok synth => ((stdMachine flatWorld).outputs synth ops).map (Option.map (·.deltaUs))
  | .error _ => []

def directSteps (ops : List (SynthOp Ieee32)) : List (Option UInt64) :=
  match directStart with
  | .ok synth => ((directMachine flatWorld).outputs synth ops).map (Option.map (·.deltaUs))
  | .error _ => []

/-- Above the atmosphere the step synthesizer still reads the pressure of sea level and the direct
one that of the anchor. A stream that goes back gives out 20 µs over 5 µs. -/
theorem synthesizers_differ :
    (stdPressures leavesAir = [none, some ⟨⟨0x47C5E680⟩⟩] ∧
      directPressures leavesAir = [none, some ⟨⟨0x47B98C00⟩⟩] ∧
      stdPressures leavesAir ≠ directPressures leavesAir) ∧
      totalUs (stdSteps goesBack) = 20 ∧ totalUs (directSteps goesBack) = 20 ∧
      totalUs (stdSteps goesBack) ≠ 15 - 10 := by
  have hstd : stdPressures leavesAir = [none, some ⟨⟨0x47C5E680⟩⟩] := by decide +kernel
  have hdirect : directPressures leavesAir = [none, some ⟨⟨0x47B98C00⟩⟩] := by decide +kernel
  have hsteps : totalUs (stdSteps goesBack) = 20 := by decide +kernel
  refine ⟨⟨hstd, hdirect, ?_⟩, hsteps, by decide +kernel, ?_⟩
  · rw [hstd, hdirect]
    decide
  · rw [hsteps]
    decide

end Difference

end Aviate.Synthesis
