import Aviate.Foundations.Machine
import Aviate.Model

/-!
# The clock of the synthesizers

What both synthesizers do with the time of a stream of states: a read anchors the clock, repeats
its latest state or starts a new step. The clock is the common abstraction of the two, and the
steps it gives out add up to the simulation time that passed.

Results:
1. Each synthesizer runs the clock (`next_eq`, `synthesize_eq`, `std_clock`, `direct_clock`).
2. Within one generation the steps sum to the time between the first and the last accepted state
   exactly when no state goes back in time (`elapsed_iff`).
-/

namespace Aviate.Synthesis

variable {world : WorldModels} {F : Type}

/-- What a read is to a synthesizer with latest state `latest`. -/
inductive Reading (F : Type) where
  | anchor
  | repeated
  | fresh (prev : TruthSample F) (deltaUs : UInt64)

def classify (latest : Option (TruthSample F)) (truth : TruthSample F) : Reading F :=
  match latest with
  | some prev =>
    if prev.resetGeneration = truth.resetGeneration ∧ prev.timeUs ≤ truth.timeUs then
      if truth.timeUs - prev.timeUs = 0 then .repeated
      else .fresh prev (truth.timeUs - prev.timeUs)
    else .anchor
  | none => .anchor

/-- A board reads the simulator, or forgets the history for a new attachment. -/
inductive SynthOp (F : Type) where
  | read (truth : TruthSample F)
  | reset

/-- The clock: its state is the latest accepted one, and it gives out the steps. -/
def stepClock : Machine (Option (TruthSample F)) (SynthOp F) (Option UInt64) where
  step latest op :=
    match op with
    | .read truth =>
      match classify latest truth with
      | .anchor => (some truth, none)
      | .repeated => (latest, none)
      | .fresh _ deltaUs => (some truth, some deltaUs)
    | .reset => (none, none)

/-! ## Both synthesizers run the clock -/

section

variable [Scalar F] [Narrow F64 F] [Widen F F64]

def stdMachine (world : WorldModels) :
    Machine (StepSynthesizer world F) (SynthOp F) (Option (StepSample F)) where
  step synth op :=
    match op with
    | .read truth => synth.next truth
    | .reset => (synth.reset, none)

theorem next_eq (synth : StepSynthesizer world F) (truth : TruthSample F) :
    synth.next truth =
      match classify synth.prev truth with
      | .anchor => synth.anchor truth
      | .repeated => (synth, none)
      | .fresh prev deltaUs => synth.advance truth prev deltaUs := by
  unfold StepSynthesizer.next classify
  cases synth.prev with
  | none => rfl
  | some prev =>
    dsimp only
    by_cases hsame : prev.resetGeneration = truth.resetGeneration ∧ prev.timeUs ≤ truth.timeUs
    · rw [if_pos hsame, if_pos hsame]
      by_cases hzero : truth.timeUs - prev.timeUs = 0
      · rw [if_pos hzero, if_pos hzero]
      · rw [if_neg hzero, if_neg hzero]
    · rw [if_neg hsame, if_neg hsame]

variable [NormalSource F]

def directMachine (world : WorldModels) :
    Machine (DirectSynthesizer world F) (SynthOp F) (Option (DirectStepSample F)) where
  step synth op :=
    match op with
    | .read truth => synth.synthesize truth
    | .reset => (synth.reset, none)

theorem synthesize_eq (synth : DirectSynthesizer world F) (truth : TruthSample F) :
    synth.synthesize truth =
      match classify synth.prev truth with
      | .anchor => synth.anchor truth
      | .repeated => (synth, none)
      | .fresh prev deltaUs => synth.advance truth prev deltaUs := by
  unfold DirectSynthesizer.synthesize classify
  cases synth.prev with
  | none => rfl
  | some prev =>
    dsimp only
    by_cases hsame : prev.resetGeneration = truth.resetGeneration ∧ prev.timeUs ≤ truth.timeUs
    · -- A subtraction of an earlier time does not saturate.
      have hsub : truth.timeUs.saturatingSub prev.timeUs = truth.timeUs - prev.timeUs :=
        if_pos hsame.2
      rw [if_pos hsame, if_pos hsame, hsub]
      by_cases hzero : truth.timeUs - prev.timeUs = 0
      · rw [if_pos hzero, if_pos hzero]
      · rw [if_neg hzero, if_neg hzero]
    · rw [if_neg hsame, if_neg hsame]

omit [NormalSource F] in
theorem std_step_clock (synth : StepSynthesizer world F) (op : SynthOp F) :
    ((stdMachine world).step synth op).1.prev = (stepClock.step synth.prev op).1 ∧
      ((stdMachine world).step synth op).2.map StepSample.deltaUs =
        (stepClock.step synth.prev op).2 := by
  cases op with
  | reset => exact ⟨rfl, rfl⟩
  | read truth =>
    simp only [stdMachine, stepClock, next_eq]
    cases classify synth.prev truth with
    | anchor => exact ⟨rfl, rfl⟩
    | repeated => exact ⟨rfl, rfl⟩
    | fresh prev deltaUs => exact ⟨rfl, rfl⟩

theorem direct_step_clock (synth : DirectSynthesizer world F) (op : SynthOp F) :
    ((directMachine world).step synth op).1.prev = (stepClock.step synth.prev op).1 ∧
      ((directMachine world).step synth op).2.map DirectStepSample.deltaUs =
        (stepClock.step synth.prev op).2 := by
  cases op with
  | reset => exact ⟨rfl, rfl⟩
  | read truth =>
    simp only [directMachine, stepClock, synthesize_eq]
    cases classify synth.prev truth with
    | anchor => exact ⟨rfl, rfl⟩
    | repeated => exact ⟨rfl, rfl⟩
    | fresh prev deltaUs => exact ⟨rfl, rfl⟩

omit [NormalSource F] in
theorem std_clock (synth : StepSynthesizer world F) (ops : List (SynthOp F)) :
    ((stdMachine world).run synth ops).prev = stepClock.run synth.prev ops ∧
      ((stdMachine world).outputs synth ops).map (Option.map StepSample.deltaUs) =
        stepClock.outputs synth.prev ops := by
  induction ops generalizing synth with
  | nil => exact ⟨rfl, rfl⟩
  | cons op ops ih =>
    obtain ⟨hprev, hout⟩ := std_step_clock synth op
    obtain ⟨hrun, hrest⟩ := ih ((stdMachine world).step synth op).1
    rw [hprev] at hrun hrest
    exact ⟨hrun, congrArg₂ List.cons hout hrest⟩

theorem direct_clock (synth : DirectSynthesizer world F) (ops : List (SynthOp F)) :
    ((directMachine world).run synth ops).prev = stepClock.run synth.prev ops ∧
      ((directMachine world).outputs synth ops).map (Option.map DirectStepSample.deltaUs) =
        stepClock.outputs synth.prev ops := by
  induction ops generalizing synth with
  | nil => exact ⟨rfl, rfl⟩
  | cons op ops ih =>
    obtain ⟨hprev, hout⟩ := direct_step_clock synth op
    obtain ⟨hrun, hrest⟩ := ih ((directMachine world).step synth op).1
    rw [hprev] at hrun hrest
    exact ⟨hrun, congrArg₂ List.cons hout hrest⟩

end

/-! ## The steps add up -/

/-- No state of a stream is older than the one before it. -/
def NeverBack (truths : List (TruthSample F)) : Prop :=
  truths.IsChain fun a b => a.timeUs ≤ b.timeUs

/-- The time a list of steps gives out, in whole microseconds. -/
def totalUs (steps : List (Option UInt64)) : Nat :=
  (steps.map fun step => (step.map UInt64.toNat).getD 0).sum

@[simp] theorem totalUs_nil : totalUs [] = 0 := rfl

@[simp] theorem totalUs_none (steps : List (Option UInt64)) :
    totalUs (none :: steps) = totalUs steps := by
  simp [totalUs]

@[simp] theorem totalUs_some (deltaUs : UInt64) (steps : List (Option UInt64)) :
    totalUs (some deltaUs :: steps) = deltaUs.toNat + totalUs steps := by
  simp [totalUs]

theorem neverBack_cons_of_eq {p t : TruthSample F} {rest : List (TruthSample F)}
    (ht : p.timeUs = t.timeUs) : NeverBack (p :: t :: rest) ↔ NeverBack (p :: rest) := by
  unfold NeverBack
  cases rest with
  | nil => simp [ht]
  | cons u rest => simp [ht]

/-- From state `p` on, the steps of a generation cover at least the time to the last accepted
state, and no more than it exactly when time never goes back. -/
theorem clock_elapsed (p : TruthSample F) (rest : List (TruthSample F))
    (hgen : ∀ t ∈ rest, t.resetGeneration = p.resetGeneration) :
    ∃ last, stepClock.run (some p) (rest.map .read) = some last ∧
      (last.timeUs.toNat : ℤ) - p.timeUs.toNat ≤
        totalUs (stepClock.outputs (some p) (rest.map .read)) ∧
      ((totalUs (stepClock.outputs (some p) (rest.map .read)) : ℤ) =
          last.timeUs.toNat - p.timeUs.toNat ↔ NeverBack (p :: rest)) := by
  induction rest generalizing p with
  | nil => exact ⟨p, rfl, by simp, by simp [NeverBack]⟩
  | cons t rest ih =>
    rw [List.forall_mem_cons] at hgen
    have hrest : ∀ u ∈ rest, u.resetGeneration = t.resetGeneration := by
      intro u hu
      rw [hgen.2 u hu, hgen.1]
    rw [List.map_cons, Machine.run_cons, Machine.outputs_cons]
    by_cases hback : p.timeUs ≤ t.timeUs
    · have hle' : p.timeUs.toNat ≤ t.timeUs.toNat := hback
      have hdelta : (t.timeUs - p.timeUs).toNat = t.timeUs.toNat - p.timeUs.toNat :=
        UInt64.toNat_sub_of_le _ _ hback
      by_cases hzero : t.timeUs - p.timeUs = 0
      · -- The same time again: the latest state stays.
        have hstep : stepClock.step (some p) (.read t) = (some p, none) := by
          simp [stepClock, classify, hgen.1, hback, hzero]
        have hsame : p.timeUs = t.timeUs := by
          apply UInt64.toNat_inj.1
          rw [hzero, UInt64.toNat_zero] at hdelta
          omega
        obtain ⟨last, hrun, hle, hiff⟩ := ih p hgen.2
        rw [hstep, totalUs_none, neverBack_cons_of_eq hsame]
        exact ⟨last, hrun, hle, hiff⟩
      · have hstep :
            stepClock.step (some p) (.read t) = (some t, some (t.timeUs - p.timeUs)) := by
          simp [stepClock, classify, hgen.1, hback, hzero]
        obtain ⟨last, hrun, hle, hiff⟩ := ih t hrest
        have hchain : NeverBack (p :: t :: rest) ↔ NeverBack (t :: rest) := by
          simp [NeverBack, hback]
        rw [hstep, totalUs_some, hdelta, hchain, ← hiff]
        dsimp only
        exact ⟨last, hrun, by omega, by omega⟩
    · -- A regression anchors the clock anew; the time it went back is passed a second time.
      have hstep : stepClock.step (some p) (.read t) = (some t, none) := by
        simp [stepClock, classify, hback]
      have hlt : t.timeUs.toNat < p.timeUs.toNat := Nat.lt_of_not_le hback
      obtain ⟨last, hrun, hle, -⟩ := ih t hrest
      have hchain : ¬ NeverBack (p :: t :: rest) := by
        simp [NeverBack, hback]
      rw [hstep, totalUs_none]
      dsimp only
      refine ⟨last, hrun, by omega, ?_⟩
      constructor
      · intro h
        omega
      · intro h
        exact absurd h hchain

/-- From the state that starts a generation on. -/
theorem elapsed_iff {latest : Option (TruthSample F)} {first : TruthSample F}
    {rest : List (TruthSample F)} (hfirst : classify latest first = .anchor)
    (hgen : ∀ t ∈ rest, t.resetGeneration = first.resetGeneration) :
    ∃ last, stepClock.run latest ((first :: rest).map .read) = some last ∧
      ((totalUs (stepClock.outputs latest ((first :: rest).map .read)) : ℤ) =
        last.timeUs.toNat - first.timeUs.toNat ↔ NeverBack (first :: rest)) := by
  have hstep : stepClock.step latest (.read first) = (some first, none) := by
    simp [stepClock, hfirst]
  obtain ⟨last, hrun, -, hiff⟩ := clock_elapsed first rest hgen
  rw [List.map_cons, Machine.run_cons, Machine.outputs_cons, hstep, totalUs_none]
  exact ⟨last, hrun, hiff⟩

end Aviate.Synthesis
