import Aviate.Model

/-!
# The lockstep gate

Snapshots of a channel and the gate that compares them (`kernel/snapshot.rs`, and the
projection in `kernel.rs`).

Results:
1. The gate enters lockstep exactly if enough peers are present and every present one agrees
   with the local snapshot (`decideLockstep_enter_iff`).
2. Snapshots of full projections agree exactly if the hashes are equal and so is all that is
   written of the states (`Projection.agreesWith_iff`).
3. The gate compares the states but for the aiding ages of their filters: it does what its
   contract says unless it admits a peer that differs in an age alone
   (`decideLockstep_sound_iff`).
-/

namespace Aviate

open ByteBuffer Cursor

/-! ## Snapshots and the gate -/

abbrev ChannelId := UInt8

structure ChannelSnapshot where
  channelId : ChannelId
  cycleSeq : UInt64
  algorithmIdentityHash : UInt64
  configHash : UInt64
  stateBytes : Bytes
deriving DecidableEq

/-- Equality of the two hashes and of the state bytes. -/
def ChannelSnapshot.agreesWith (s other : ChannelSnapshot) : Bool :=
  s.algorithmIdentityHash == other.algorithmIdentityHash && s.configHash == other.configHash &&
    s.stateBytes.length == other.stateBytes.length && s.stateBytes == other.stateBytes

inductive LockstepDecision where
  | enter
  | refuseHashMismatch (peer : ChannelId)
  | refuseConfigMismatch (peer : ChannelId)
  | refuseStateMismatch (peer : ChannelId)
  | refuseQuorum (present required : Nat)
deriving DecidableEq

/-- The first disagreement among the peers that are present. -/
def inspectPeers (own : ChannelSnapshot) : List (Option ChannelSnapshot) → LockstepDecision
  | [] => .enter
  | none :: peers => inspectPeers own peers
  | some peer :: peers =>
    if peer.algorithmIdentityHash ≠ own.algorithmIdentityHash then
      .refuseHashMismatch peer.channelId
    else if peer.configHash ≠ own.configHash then .refuseConfigMismatch peer.channelId
    else if peer.stateBytes.length ≠ own.stateBytes.length ∨ peer.stateBytes ≠ own.stateBytes then
      .refuseStateMismatch peer.channelId
    else inspectPeers own peers

/-- How many peers are present. -/
def presentCount {α : Type} (peers : List (Option α)) : Nat := peers.countP Option.isSome

/-- Decide whether to enter lockstep, given the local snapshot and those of the peers. -/
def decideLockstep (own : ChannelSnapshot) (peers : List (Option ChannelSnapshot))
    (quorum : Nat) : LockstepDecision :=
  let present := presentCount peers
  if present < quorum then .refuseQuorum present quorum else inspectPeers own peers

section Gate

variable {own : ChannelSnapshot} {peers : List (Option ChannelSnapshot)} {quorum : Nat}

theorem ChannelSnapshot.agreesWith_iff {s other : ChannelSnapshot} :
    s.agreesWith other = true ↔ s.algorithmIdentityHash = other.algorithmIdentityHash ∧
      s.configHash = other.configHash ∧ s.stateBytes = other.stateBytes := by
  simp only [agreesWith, Bool.and_eq_true, beq_iff_eq]
  constructor
  · rintro ⟨⟨⟨halgorithm, hconfig⟩, -⟩, hstate⟩
    exact ⟨halgorithm, hconfig, hstate⟩
  · rintro ⟨halgorithm, hconfig, hstate⟩
    exact ⟨⟨⟨halgorithm, hconfig⟩, congrArg List.length hstate⟩, hstate⟩

theorem inspectPeers_enter_iff :
    inspectPeers own peers = .enter ↔ ∀ peer, some peer ∈ peers → peer.agreesWith own = true := by
  induction peers with
  | nil => simp [inspectPeers]
  | cons slot peers ih =>
    cases slot with
    | none => simpa [inspectPeers] using ih
    | some peer =>
      have hslot : (∀ p, some p ∈ some peer :: peers → p.agreesWith own = true) ↔
          peer.agreesWith own = true ∧ ∀ p, some p ∈ peers → p.agreesWith own = true := by
        simp
      rw [hslot, ← ih, ChannelSnapshot.agreesWith_iff, inspectPeers]
      split
      next halgorithm => simp [halgorithm]
      next halgorithm =>
        split
        next hconfig => simp [hconfig]
        next hconfig =>
          split
          next hstate =>
            have hdiffers : peer.stateBytes ≠ own.stateBytes :=
              hstate.elim (fun hlength h => hlength (congrArg List.length h)) id
            simp [hdiffers]
          next hstate =>
            rw [not_or, not_not, not_not] at hstate
            rw [not_not] at halgorithm hconfig
            simp [halgorithm, hconfig, hstate.2]

/-- The gate opens exactly for a quorum of peers that all agree. -/
theorem decideLockstep_enter_iff :
    decideLockstep own peers quorum = .enter ↔ quorum ≤ presentCount peers ∧
      ∀ peer, some peer ∈ peers → peer.agreesWith own = true := by
  rw [← inspectPeers_enter_iff]
  show (if presentCount peers < quorum then _ else _) = _ ↔ _
  split
  next hquorum => simp [Nat.not_le.mpr hquorum]
  next hquorum => simp [Nat.le_of_not_lt hquorum]

end Gate

/-! ## Projections -/

/-- What a projection reads of a kernel: the hashes of its pipeline and of its configuration,
which construction fixes, and its state. -/
structure Channel (E R : Type) where
  algorithmIdentityHash : UInt64
  configHash : UInt64
  state : KernelState F32 E R

variable {E R : Type} [Replicable E] [Replicable R]

/-- Write the canonical encoding of the state into `stateBuf` and borrow what was written. -/
def projectForCrossChannel (k : Channel E R) (cycleSeq : UInt64) (channelId : ChannelId)
    (stateBuf : Bytes) : ChannelSnapshot :=
  let (n, stateBuf) := encodeCanonical k.state stateBuf
  { channelId := channelId
    cycleSeq := cycleSeq
    algorithmIdentityHash := k.algorithmIdentityHash
    configHash := k.configHash
    stateBytes := stateBuf.take n }

/-- The arguments of a projection whose buffer holds the whole encoding. -/
structure Projection (E R : Type) [Replicable E] [Replicable R] where
  channel : Channel E R
  cycleSeq : UInt64
  channelId : ChannelId
  stateBuf : Bytes
  fits : encodedLen (KernelState F32 E R) ≤ stateBuf.length

namespace Projection

def snapshot (p : Projection E R) : ChannelSnapshot :=
  projectForCrossChannel p.channel p.cycleSeq p.channelId p.stateBuf

variable [CanonicalCode E] [CanonicalCode R]

/-- Full projections agree exactly if the hashes do and all that is written of the states
does. -/
theorem agreesWith_iff {p q : Projection E R} :
    p.snapshot.agreesWith q.snapshot = true ↔
      p.channel.algorithmIdentityHash = q.channel.algorithmIdentityHash ∧
      p.channel.configHash = q.channel.configHash ∧
      p.channel.state.written = q.channel.state.written := by
  have hp := p.fits
  have hq := q.fits
  rw [← KernelState.width_eq] at hp hq
  rw [ChannelSnapshot.agreesWith_iff, ← KernelState.code.prefix_eq_iff hp hq]
  simp only [snapshot, projectForCrossChannel, p.channel.state.writes p.stateBuf,
    q.channel.state.writes q.stateBuf]
  rfl

end Projection

/-- A buffer that holds the whole encoding tells two states apart exactly as far as they are
written. -/
theorem encodeCanonical_eq_iff [CanonicalCode E] [CanonicalCode R] {s t : KernelState F32 E R}
    {buf : Bytes} (hbuf : encodedLen (KernelState F32 E R) ≤ buf.length) :
    encodeCanonical s buf = encodeCanonical t buf ↔ s.written = t.written := by
  rw [← KernelState.width_eq] at hbuf
  rw [s.writes buf, t.writes buf]
  constructor
  · intro h
    rw [← KernelState.code.prefix_eq_iff hbuf hbuf]
    have hwritten := congrArg Prod.fst h
    have hbytes := congrArg Prod.snd h
    simp only [result] at hwritten hbytes
    rw [hwritten, hbytes]
  · intro h
    rw [h]

/-! ## What the gate does not see -/

section Ages

/-- The channels agree in their hashes and in their states up to the aiding ages. -/
def Channel.SameButAges (c d : Channel (EkfState F32) R) : Prop :=
  c.algorithmIdentityHash = d.algorithmIdentityHash ∧ c.configHash = d.configHash ∧
    c.state.SameButAges d.state

def Channel.ages (c : Channel (EkfState F32) R) : F32 × F32 × F32 := c.state.estimator.ages

/-- What the gate promises: a quorum of peers, and every present one with the hashes and the
state of the local channel. -/
def InLockstep (own : Projection (EkfState F32) R)
    (peers : List (Option (Projection (EkfState F32) R))) (quorum : Nat) : Prop :=
  quorum ≤ presentCount peers ∧ ∀ peer, some peer ∈ peers →
    peer.channel.algorithmIdentityHash = own.channel.algorithmIdentityHash ∧
    peer.channel.configHash = own.channel.configHash ∧
    peer.channel.state = own.channel.state

variable {own : Projection (EkfState F32) R} {peers : List (Option (Projection (EkfState F32) R))}
  {quorum : Nat}

theorem presentCount_snapshots :
    presentCount (peers.map (Option.map Projection.snapshot)) = presentCount peers := by
  rw [presentCount, List.countP_map, presentCount]
  congr 1
  funext slot
  exact Option.isSome_map

theorem forall_mem_snapshots {P : ChannelSnapshot → Prop} :
    (∀ s, some s ∈ peers.map (Option.map Projection.snapshot) → P s) ↔
      ∀ peer, some peer ∈ peers → P peer.snapshot := by
  constructor
  · intro h peer hpeer
    exact h _ (List.mem_map.mpr ⟨some peer, hpeer, rfl⟩)
  · intro h s hs
    obtain ⟨slot, hslot, heq⟩ := List.mem_map.mp hs
    obtain ⟨peer, rfl, rfl⟩ := Option.map_eq_some_iff.mp heq
    exact h peer hslot

variable [CanonicalCode R] (hR : Function.Injective (CanonicalCode.written : R → _))

include hR in
/-- The gate compares the channels up to the aiding ages. -/
theorem decideLockstep_enter_iff_sameButAges :
    decideLockstep own.snapshot (peers.map (Option.map Projection.snapshot)) quorum = .enter ↔
      quorum ≤ presentCount peers ∧
        ∀ peer, some peer ∈ peers → own.channel.SameButAges peer.channel := by
  rw [decideLockstep_enter_iff, presentCount_snapshots, forall_mem_snapshots]
  refine and_congr_right fun _ => forall_congr' fun peer => imp_congr_right fun _ => ?_
  rw [Projection.agreesWith_iff, Channel.SameButAges, ← KernelState.written_eq_iff hR, eq_comm,
    eq_comm (a := peer.channel.configHash), eq_comm (a := peer.channel.state.written)]

include hR in
/-- The gate does what it promises unless a quorum of peers agrees with the local channel up
to the aiding ages and some present peer has other ages; a full encoding tells two states
apart unless they differ in the ages alone. -/
theorem decideLockstep_sound_iff (own : Projection (EkfState F32) R)
    (peers : List (Option (Projection (EkfState F32) R))) (quorum : Nat) :
    ((decideLockstep own.snapshot (peers.map (Option.map Projection.snapshot)) quorum = .enter ↔
        InLockstep own peers quorum) ↔
      ¬ (quorum ≤ presentCount peers ∧
        (∀ peer, some peer ∈ peers → own.channel.SameButAges peer.channel) ∧
        ∃ peer, some peer ∈ peers ∧ own.channel.ages ≠ peer.channel.ages)) ∧
    ∀ (s t : KernelState F32 (EkfState F32) R) (buf : Bytes),
      encodedLen (KernelState F32 (EkfState F32) R) ≤ buf.length →
        ((encodeCanonical s buf = encodeCanonical t buf → s = t) ↔
          ¬ (s.SameButAges t ∧ s.estimator.ages ≠ t.estimator.ages)) := by
  constructor
  · rw [decideLockstep_enter_iff_sameButAges hR]
    constructor
    · rintro hgate ⟨hquorum, hsame, peer, hpeer, hages⟩
      have hequal := (hgate.mp ⟨hquorum, hsame⟩).2 peer hpeer
      exact hages (congrArg (fun s => s.estimator.ages) hequal.2.2.symm)
    · intro hblind
      constructor
      · rintro ⟨hquorum, hsame⟩
        refine ⟨hquorum, fun peer hpeer => ?_⟩
        have hagree := hsame peer hpeer
        have hages : own.channel.ages = peer.channel.ages := by
          by_contra hages
          exact hblind ⟨hquorum, hsame, peer, hpeer, hages⟩
        exact ⟨hagree.1.symm, hagree.2.1.symm, (hagree.2.2.eq_iff.mpr hages).symm⟩
      · rintro ⟨hquorum, hequal⟩
        refine ⟨hquorum, fun peer hpeer => ?_⟩
        obtain ⟨halgorithm, hconfig, hstate⟩ := hequal peer hpeer
        exact ⟨halgorithm.symm, hconfig.symm, hstate ▸ ⟨rfl, rfl⟩⟩
  · intro s t buf hbuf
    rw [encodeCanonical_eq_iff hbuf, KernelState.written_eq_iff hR]
    constructor
    · rintro hinjective ⟨hsame, hages⟩
      exact hages (hsame.eq_iff.mp (hinjective hsame))
    · intro hblind hsame
      rw [hsame.eq_iff]
      by_contra hages
      exact hblind ⟨hsame, hages⟩

end Ages

/-! ## Two channels with the multirotor controller -/

/-- The state of an initialized kernel on the ground, with the given age of the GNSS position;
the velocity and the barometer have never been fused. -/
def groundState (gnssPosAgeS : F32) :
    KernelState F32 (EkfState F32) (MultirotorRuntimeState F32) where
  initState := .ready
  mode := .hover
  faults := .empty
  controlLaw := .primary
  terminalCause := .none
  checks :=
    ⟨.default, .default, TransitionFlags.vtolTransition, .empty,
      ⟨⟨0x41200000⟩, ⟨0x3F000000⟩, ⟨0x41700000⟩, ⟨0x3DCCCCCD⟩⟩⟩
  actuatorState := ⟨Vector.replicate 16 .unknown, Vector.replicate 16 ⟨0⟩, none, .default⟩
  timingStats := .default
  estimator :=
    { quat := ⟨⟨0x3F800000⟩, ⟨0⟩, ⟨0⟩, ⟨0⟩⟩
      pos := ⟨⟨0⟩, ⟨0⟩, ⟨0⟩⟩
      vel := ⟨⟨0⟩, ⟨0⟩, ⟨0⟩⟩
      gyroBias := ⟨⟨0⟩, ⟨0⟩, ⟨0⟩⟩
      accelBias := ⟨⟨0⟩, ⟨0⟩, ⟨0⟩⟩
      lastGyroBody := ⟨⟨0⟩, ⟨0⟩, ⟨0⟩⟩
      pCov := .ofFn fun row => .ofFn fun col => if row = col then ⟨0x3DCCCCCD⟩ else ⟨0⟩
      initialized := true
      quatFault := false
      baroRef := none
      baroRefVar := ⟨0⟩
      gnssPosAgeS := gnssPosAgeS
      gnssVelAgeS := ⟨0x461C4000⟩
      baroAgeS := ⟨0x461C4000⟩
      imuAgeS := ⟨0⟩
      accelClipS := ⟨0⟩ }
  fallback :=
    ⟨Vector.replicate 8 ⟨Vector.replicate 16 ⟨0⟩, 0, false⟩, Vector.replicate 8 0,
      Vector.replicate 8 0⟩
  controller :=
    { velocityLoop := ⟨⟨⟨0⟩, ⟨0⟩, ⟨0⟩⟩, ⟨⟨0⟩, ⟨0⟩, ⟨0⟩⟩, false⟩
      rateLoop := ⟨⟨⟨0⟩, ⟨0⟩, ⟨0⟩⟩, Vector.replicate 3 ⟨0⟩, false⟩
      lastVelSpNed := ⟨⟨0⟩, ⟨0⟩, ⟨0⟩⟩
      velSpPrimed := false
      dtSec := ⟨0⟩
      previousEffectiveMode := none
      previousTopology := none
      lastAxisCommand := ⟨⟨0⟩, ⟨0⟩, ⟨0⟩, ⟨0⟩⟩
      axisCommandPrimed := false }
  flightPhase := ⟨.onGround, ⟨0⟩, false, ⟨0⟩⟩

/-- Project that state into a buffer of exactly the encoded length. -/
def groundProjection (channelId : ChannelId) (gnssPosAgeS : F32) :
    Projection (EkfState F32) (MultirotorRuntimeState F32) where
  channel := ⟨0xABCD, 0xABCD, groundState gnssPosAgeS⟩
  cycleSeq := 42
  channelId := channelId
  stateBuf := List.replicate
    (encodedLen (KernelState F32 (EkfState F32) (MultirotorRuntimeState F32))) 0
  fits := by rw [List.length_replicate]

/-- For two channels whose GNSS position is equally old the gate keeps its promise. -/
theorem decideLockstep_sound_of_equal_ages :
    decideLockstep (groundProjection 0 ⟨0x3CA3D70A⟩).snapshot
        ([some (groundProjection 1 ⟨0x3CA3D70A⟩)].map (Option.map Projection.snapshot)) 1 = .enter ↔
      InLockstep (groundProjection 0 ⟨0x3CA3D70A⟩) [some (groundProjection 1 ⟨0x3CA3D70A⟩)] 1 :=
  (decideLockstep_sound_iff (fun _ _ h => h) (groundProjection 0 ⟨0x3CA3D70A⟩)
    [some (groundProjection 1 ⟨0x3CA3D70A⟩)] 1).1.mpr fun h => by
      obtain ⟨-, -, peer, hpeer, hages⟩ := h
      obtain rfl := Option.some.inj (List.mem_singleton.mp hpeer)
      exact hages rfl

/-- A channel that fused a GNSS position 20 ms ago enters lockstep with one that never did. -/
theorem decideLockstep_enters_across_ages :
    ¬ (decideLockstep (groundProjection 0 ⟨0x3CA3D70A⟩).snapshot
        ([some (groundProjection 1 ⟨0x461C4000⟩)].map (Option.map Projection.snapshot)) 1 = .enter ↔
      InLockstep (groundProjection 0 ⟨0x3CA3D70A⟩) [some (groundProjection 1 ⟨0x461C4000⟩)] 1) := by
  intro h
  have hsame : (groundProjection 0 ⟨0x3CA3D70A⟩).channel.SameButAges
      (groundProjection 1 ⟨0x461C4000⟩).channel := ⟨rfl, rfl, rfl, rfl⟩
  have hlockstep := h.mp <| (decideLockstep_enter_iff_sameButAges fun _ _ h => h).mpr
    ⟨le_refl _, fun peer hpeer => by
      obtain rfl := Option.some.inj (List.mem_singleton.mp hpeer)
      exact hsame⟩
  have hequal := (hlockstep.2 _ (List.mem_singleton_self _)).2.2
  have hage : (⟨0x461C4000⟩ : F32) = ⟨0x3CA3D70A⟩ :=
    congrArg (fun s => s.estimator.gnssPosAgeS) hequal
  exact absurd hage (by decide)

end Aviate
