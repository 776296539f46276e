import Aviate.Model

/-!
# Truncated encodings

What does an encoder leave in a buffer that is too short? Every implementation of
`Replicable` in the kernel keeps the contract of the trait: it fills the buffer with as much
of the full encoding as fits, leaves the rest alone and returns how much that was. A short
buffer may end in the middle of any field, at any depth.

Results:
1. A value obeys the contract exactly if it has one block of the declared length that its
   encoder writes (`TruncationLaw.exists_block`, `truncationLaw_of_writes`).
2. A kernel state obeys it if its estimator and controller states do
   (`KernelState.truncationLaw`).
3. Every implementation in the kernel obeys it (`truncation_law`).
-/

namespace Aviate

open ByteBuffer Cursor FixedCode

/-- In every buffer the encoder leaves as much of the full encoding as fits in front of what
the buffer held, and returns how much that is. -/
def TruncationLaw (α : Type) [Replicable α] : Prop :=
  ∀ (a : α) (buf full : Bytes), full.length = encodedLen α →
    (encodeCanonical a buf).1 = min buf.length (encodedLen α) ∧
      (encodeCanonical a buf).2.length = buf.length ∧
      (encodeCanonical a buf).2.take (encodeCanonical a buf).1 =
        (encodeCanonical a full).2.take (encodeCanonical a buf).1 ∧
      (encodeCanonical a buf).2.drop (encodeCanonical a buf).1 =
        buf.drop (encodeCanonical a buf).1

section Law

variable {α : Type} [Replicable α]

/-- An encoder that writes one block of the declared length for each value obeys the law. -/
theorem truncationLaw_of_writes {block : α → Bytes}
    (hlength : ∀ a, (block a).length = encodedLen α)
    (hwrites : ∀ a, Writes (encodeCanonical a) (block a)) : TruncationLaw α := by
  intro a buf full hfull
  obtain ⟨hcount, hfront, hrest⟩ := writes_iff.mp (hwrites a) buf
  have hkept : (encodeCanonical a buf).2.length = buf.length := by
    rw [hwrites a buf]
    exact length_after
  have hblock : (encodeCanonical a full).2 = block a := by
    rw [hwrites a full, after_of_ge (by rw [hfull, hlength])]
    simp [result, hfull, ← hlength a]
  rw [hlength] at hcount
  rw [hblock]
  exact ⟨hcount, hkept, hfront, hrest⟩

/-- The law from a code of the values. -/
theorem truncationLaw_of_code (c : FixedCode α) (hwidth : c.width = encodedLen α)
    (hwrites : ∀ a, Writes (encodeCanonical a) (c.bytes a)) : TruncationLaw α :=
  truncationLaw_of_writes (fun a => (c.length_bytes a).trans hwidth) hwrites

/-- Under the law the full encoding is the block that the encoder writes. -/
theorem TruncationLaw.exists_block (h : TruncationLaw α) (a : α) :
    ∃ block, block.length = encodedLen α ∧ Writes (encodeCanonical a) block := by
  have hfull : (List.replicate (encodedLen α) (0 : UInt8)).length = encodedLen α :=
    List.length_replicate
  refine ⟨(encodeCanonical a (List.replicate (encodedLen α) 0)).2, ?_, ?_⟩
  · rw [(h a _ _ hfull).2.1, hfull]
  · rw [writes_iff, (h a _ _ hfull).2.1, hfull]
    intro buf
    obtain ⟨hcount, -, hfront, hrest⟩ := h a buf _ hfull
    exact ⟨hcount, hfront, hrest⟩

end Law

/-! ## The implementations -/

/-- A runtime state with a code obeys the law. -/
theorem CanonicalCode.truncationLaw (α : Type) [Replicable α] [CanonicalCode α] :
    TruncationLaw α :=
  truncationLaw_of_writes
    (fun a => (CanonicalCode.code.length_bytes (CanonicalCode.written a)).trans
      CanonicalCode.width_eq)
    CanonicalCode.writes

/-- A kernel state obeys the law over any runtime states that do. -/
theorem KernelState.truncationLaw {E R : Type} [Replicable E] [Replicable R]
    (hE : TruncationLaw E) (hR : TruncationLaw R) : TruncationLaw (KernelState F32 E R) := by
  choose estimator hestimator hwritesE using hE.exists_block
  choose controller hcontroller hwritesR using hR.exists_block
  refine truncationLaw_of_writes ?_ fun s =>
    s.writes_blocks (hwritesE s.estimator) (hwritesR s.controller)
  intro s
  simp only [List.length_append, hestimator, hcontroller, FixedCode.length_bytes, ← Nat.add_assoc]
  rfl

/-- The implementations of `Replicable` in the kernel. A kernel state is one over any
estimator and controller states that are. -/
inductive Implementation : (α : Type) → [Replicable α] → Prop
  | initState : Implementation InitState
  | configMode : Implementation ConfigMode
  | controlLawV1 : Implementation ControlLawV1
  | terminalCause : Implementation TerminalCause
  | flightPhase : Implementation FlightPhase
  | actuatorHealth : Implementation ActuatorHealth
  | faultFlags : Implementation FaultFlags
  | preArmFlags : Implementation PreArmFlags
  | inFlightFlags : Implementation InFlightFlags
  | transitionFlags : Implementation TransitionFlags
  | sampleCounts : Implementation SampleCounts
  | preArmStatus : Implementation PreArmStatus
  | inFlightStatus : Implementation InFlightStatus
  | transitionLimits : Implementation (TransitionLimits F32)
  | transitionStatus : Implementation (TransitionStatus F32)
  | kernelChecks : Implementation (KernelChecks F32)
  | groupVector : Implementation (GroupVector F32)
  | actuatorState : Implementation (ActuatorState F32)
  | actuatorFallbackState : Implementation (ActuatorFallbackState F32)
  | timingStats : Implementation TimingStats
  | flightPhaseState : Implementation (FlightPhaseState F32)
  | ekfState : Implementation (EkfState F32)
  | noControllerState : Implementation Unit
  | multirotorRuntimeState : Implementation (MultirotorRuntimeState F32)
  | kernelState {E R : Type} [Replicable E] [Replicable R] :
      Implementation E → Implementation R → Implementation (KernelState F32 E R)

/-- Every implementation fills every buffer with as much of the full encoding as fits, leaves
the rest alone and returns how much that was; the full encoding has the declared length. -/
theorem truncation_law {α : Type} [Replicable α] (h : Implementation α) : TruncationLaw α := by
  induction h with
  | initState => exact truncationLaw_of_code InitState.code rfl InitState.writes
  | configMode => exact truncationLaw_of_code ConfigMode.code rfl ConfigMode.writes
  | controlLawV1 => exact truncationLaw_of_code ControlLawV1.code rfl ControlLawV1.writes
  | terminalCause => exact truncationLaw_of_code TerminalCause.code rfl TerminalCause.writes
  | flightPhase => exact truncationLaw_of_code FlightPhase.code rfl FlightPhase.writes
  | actuatorHealth => exact truncationLaw_of_code ActuatorHealth.code rfl ActuatorHealth.writes
  | faultFlags => exact truncationLaw_of_code FaultFlags.code rfl FaultFlags.writes
  | preArmFlags => exact truncationLaw_of_code checkFlagsCode rfl checkFlags_writes
  | inFlightFlags => exact truncationLaw_of_code checkFlagsCode rfl checkFlags_writes
  | transitionFlags => exact truncationLaw_of_code checkFlagsCode rfl checkFlags_writes
  | sampleCounts => exact truncationLaw_of_code SampleCounts.code rfl SampleCounts.writes
  | preArmStatus => exact truncationLaw_of_code PreArmStatus.code rfl PreArmStatus.writes
  | inFlightStatus => exact truncationLaw_of_code InFlightStatus.code rfl InFlightStatus.writes
  | transitionLimits =>
    exact truncationLaw_of_code TransitionLimits.code rfl TransitionLimits.writes
  | transitionStatus =>
    exact truncationLaw_of_code TransitionStatus.code rfl TransitionStatus.writes
  | kernelChecks => exact truncationLaw_of_code KernelChecks.code rfl KernelChecks.writes
  | groupVector => exact truncationLaw_of_code GroupVector.code rfl GroupVector.writes
  | actuatorState => exact truncationLaw_of_code ActuatorState.code rfl ActuatorState.writes
  | actuatorFallbackState =>
    exact truncationLaw_of_code ActuatorFallbackState.code rfl ActuatorFallbackState.writes
  | timingStats => exact truncationLaw_of_code TimingStats.code rfl TimingStats.writes
  | flightPhaseState =>
    exact truncationLaw_of_code FlightPhaseState.code rfl FlightPhaseState.writes
  | ekfState => exact CanonicalCode.truncationLaw (EkfState F32)
  | noControllerState => exact CanonicalCode.truncationLaw Unit
  | multirotorRuntimeState => exact CanonicalCode.truncationLaw (MultirotorRuntimeState F32)
  | kernelState _ _ hE hR => exact KernelState.truncationLaw hE hR

/-- The kernel state with the filter and the multirotor controller obeys it. -/
theorem truncation_law_kernelState :
    TruncationLaw (KernelState F32 (EkfState F32) (MultirotorRuntimeState F32)) :=
  truncation_law (.kernelState .ekfState .multirotorRuntimeState)

end Aviate
