import Aviate.Model
import Aviate.Replication.ConfigHash

/-!
# What the configuration hash tells apart

The stream that `canonical_hash` folds is a prefix code of the configuration: tables carry
their lengths, options and enumerations their tags, and every other field has a fixed width.
So no two configurations feed the hasher the same stream, with or without the separators, and
equal hashes of different configurations are a collision of the fold.

Results:
1. Every feeder feeds the code of its field (`feedLimits_eq` and the like), so the whole fold
   feeds the code of the configuration (`canonicalStream_eq`).
2. The stream determines the configuration, and the hash, also when it is taken up again
   before the hover force, is one pass over it (`canonical_stream_law`). So is the identity
   of the controller tuning (`controllerTuningIdentity_eq`).
-/

namespace Aviate

open ByteBuffer Hasher

variable {H : Type} [Hasher H]

/-! ## Scalars -/

theorem feedOptionF32_eq (h : H) (o : Option F32) :
    feedOptionF32 h o = feedBytes h ((PrefixCode.option FixedCode.f32).bytes o) := by
  cases o with
  | none => rfl
  | some v => rfl

theorem feedBool_eq (h : H) (b : Bool) : feedBool h b = feedBytes h (FixedCode.bool.bytes b) := by
  cases b with
  | false => rfl
  | true => rfl

theorem foldl_feedF32 {n : Nat} (h : H) (v : Vector F32 n) :
    v.toList.foldl feedF32 h = feedBytes h ((FixedCode.f32.vector n).bytes v) :=
  foldl_feed (fun _ _ => rfl) h v.toList

theorem foldl_feedF32_three {n : Nat} (h : H) (u v w : Vector F32 n) :
    (u.toList ++ v.toList ++ w.toList).foldl feedF32 h =
      feedBytes h ((FixedCode.f32.vector n).bytes u ++ ((FixedCode.f32.vector n).bytes v ++
        (FixedCode.f32.vector n).bytes w)) := by
  rw [List.foldl_append, List.foldl_append, foldl_feedF32, foldl_feedF32, foldl_feedF32,
    feedBytes_append, feedBytes_append]

/-! ## Fields -/

def limitsCode : PrefixCode (Limits F32) :=
  (((FixedCode.f32.vector 10).toPrefix.prod <| (PrefixCode.option FixedCode.f32).prod <|
    (PrefixCode.option FixedCode.f32).prod (FixedCode.f32.prod FixedCode.f32).toPrefix)).comap
    (fun l => (#v[l.maxRoll, l.maxPitch, l.maxRollRate, l.maxPitchRate, l.maxYawRate,
      l.maxHorizontalSpeed, l.maxClimbRate, l.maxDescentRate, l.maxAltitude, l.minAltitude],
      l.minAirspeed, l.maxAirspeed, l.maxLoadFactor, l.minLoadFactor))
    (by rintro ⟨⟩ ⟨⟩ h; simpa [and_assoc] using h)

theorem feedLimits_eq (h : H) (l : Limits F32) :
    feedLimits h l = feedBytes h (limitsCode.bytes l) := by
  simp only [feedLimits, feedOptionF32_eq, feedF32, ← feedBytes_append, limitsCode,
    PrefixCode.comap_bytes, PrefixCode.prod_bytes, FixedCode.toPrefix_bytes,
    FixedCode.prod_bytes, FixedCode.f32_bytes, FixedCode.vector_bytes, List.append_assoc]
  rfl

def groupKindCode : PrefixCode GroupKind :=
  .tagged
    (fun | .multirotor => 0 | .distributedThrust => 1 | .controlSurfaces => 2 | .morphing => 3
         | .auxiliary => 4 | .custom _ => 5)
    (fun | .custom code => [code] | _ => [])
    (by
      intro a b rest rest' htag h
      cases a <;> cases b <;> simp_all)

theorem feedGroupKind_eq (h : H) (k : GroupKind) :
    feedGroupKind h k = feedBytes h (groupKindCode.bytes k) := by
  cases k <;> rfl

def couplingKindCode : FixedCode CouplingKind :=
  tagCode couplingKindTag fun x y => by cases x <;> cases y <;> simp [couplingKindTag]

def fallbackPolicyCode : PrefixCode FallbackPolicy :=
  .tagged
    (fun | .holdLastGood => 0 | .decayToSafe _ => 1 | .safePattern => 2)
    (fun | .decayToSafe tauMs => u16Bytes tauMs | _ => [])
    (by
      intro a b rest rest' htag h
      cases a with
      | decayToSafe tauMs =>
        cases b with
        | decayToSafe tauMs' =>
          obtain ⟨rfl, hrest⟩ := FixedCode.u16.toPrefix.unique trivial trivial h
          exact ⟨rfl, hrest⟩
        | _ => simp at htag
      | _ => cases b <;> simp_all)

theorem feedFallbackPolicy_eq (h : H) (p : FallbackPolicy) :
    feedFallbackPolicy h p = feedBytes h (fallbackPolicyCode.bytes p) := by
  cases p <;> rfl

theorem feedGroupVector_eq (h : H) (v : GroupVector F32) :
    feedGroupVector h v = feedBytes h (GroupVector.code.bytes v) := by
  simp only [feedGroupVector, foldl_feedF32, feedU16, feedBool_eq, ← feedBytes_append,
    GroupVector.code, FixedCode.comap_bytes, FixedCode.prod_bytes, List.append_assoc]
  rfl

def actuatorGroupConfigCode : PrefixCode (ActuatorGroupConfig F32) :=
  (groupKindCode.prod <| couplingKindCode.toPrefix.prod <| fallbackPolicyCode.prod <|
    (PrefixCode.list FixedCode.u8.toPrefix).prod GroupVector.code.toPrefix).comap
    (fun g => (g.kind, g.coupling, g.fallback, g.members, g.safePattern))
    (by rintro ⟨⟩ ⟨⟩ h; simpa using h)

theorem feedActuatorGroupConfig_eq (h : H) (g : ActuatorGroupConfig F32) :
    feedActuatorGroupConfig h g = feedBytes h (actuatorGroupConfigCode.bytes g) := by
  have hmembers : g.members.flatMap FixedCode.u8.toPrefix.bytes = g.members :=
    List.flatMap_singleton' _
  simp only [feedActuatorGroupConfig, feedGroupKind_eq, feedFallbackPolicy_eq, feedUsize,
    feedGroupVector_eq, actuatorGroupConfigCode, PrefixCode.comap_bytes, PrefixCode.prod_bytes,
    PrefixCode.list_bytes, hmembers, FixedCode.toPrefix_bytes, feedBytes_append]
  rfl

def configModeCode : FixedCode ConfigMode :=
  tagCode configModeTag fun x y => by cases x <;> cases y <;> simp [configModeTag]

def modeConfigCode : PrefixCode (ModeConfig F32) :=
  (configModeCode.toPrefix.prod (PrefixCode.list actuatorGroupConfigCode)).comap
    (fun m => (m.mode, m.groups)) (by rintro ⟨⟩ ⟨⟩ h; simpa using h)

theorem feedModeConfig_eq (h : H) (m : ModeConfig F32) :
    feedModeConfig h m = feedBytes h (modeConfigCode.bytes m) := by
  simp only [feedModeConfig, foldl_feed feedActuatorGroupConfig_eq, feedUsize, modeConfigCode,
    PrefixCode.comap_bytes, PrefixCode.prod_bytes, PrefixCode.list_bytes,
    FixedCode.toPrefix_bytes, feedBytes_append]
  rfl

def faultCategoryCode : FixedCode FaultCategory :=
  tagCode faultCategoryTag fun x y h => by
    have hindex (c : FaultCategory) : (faultCategoryTag c).toNat = c.ctorIdx := by cases c <;> rfl
    rw [← FaultCategory.ofNat_ctorIdx x, ← FaultCategory.ofNat_ctorIdx y, ← hindex, ← hindex, h]

def faultActionCode : FixedCode FaultAction :=
  tagCode faultActionTag fun x y => by cases x <;> cases y <;> simp [faultActionTag]

def controlLawCode : FixedCode ControlLawV1 :=
  tagCode controlLawTag fun x y => by cases x <;> cases y <;> simp [controlLawTag]

def faultResponseCode : PrefixCode FaultResponse :=
  (faultCategoryCode.toPrefix.prod <| faultActionCode.toPrefix.prod <|
    (PrefixCode.option controlLawCode).prod FixedCode.u32.toPrefix).comap
    (fun r => (r.fault, r.action, r.degradeTo, r.maxResponseTimeMs))
    (by rintro ⟨⟩ ⟨⟩ h; simpa using h)

theorem feedFaultResponse_eq (h : H) (r : FaultResponse) :
    feedFaultResponse h r = feedBytes h (faultResponseCode.bytes r) := by
  have hlaw (h : H) : feedDegradeTo h r.degradeTo =
      feedBytes h ((PrefixCode.option controlLawCode).bytes r.degradeTo) := by
    cases r.degradeTo <;> rfl
  simp only [feedFaultResponse, hlaw, faultResponseCode, PrefixCode.comap_bytes,
    PrefixCode.prod_bytes, FixedCode.toPrefix_bytes, feedBytes_append]
  rfl

def faultTableCode : PrefixCode (List FaultResponse) := .list faultResponseCode

theorem feedFaultTable_eq (h : H) (entries : List FaultResponse) :
    feedFaultTable h entries = feedBytes h (faultTableCode.bytes entries) := by
  simp only [feedFaultTable, foldl_feed feedFaultResponse_eq, feedUsize, faultTableCode,
    PrefixCode.list_bytes, feedBytes_append]

/-- A gain of each axis. -/
def axisCode : FixedCode (Vector F32 3) := FixedCode.f32.vector 3

def cascadeGainsCode : FixedCode (CascadeGains F32) :=
  (axisCode.prod <| axisCode.prod <| axisCode.prod <| axisCode.prod <| axisCode.prod <|
    axisCode.prod <| FixedCode.f32.prod <| FixedCode.f32.prod <| FixedCode.f32.prod <|
    axisCode.prod <| FixedCode.f32.prod <| axisCode.prod <| axisCode.prod <| axisCode.prod
    FixedCode.f32).comap
    (fun g => (g.posP, g.posAccelLimits, g.posVelCaps, g.velP, g.velI, g.velD,
      g.velMaxRollPitch, g.velMaxYawStep, g.velAccelFf, g.attP, g.attMaxRateCmd, g.rateP,
      g.rateD, g.rateI, g.rateDLpfAlpha))
    (by
      rintro ⟨⟩ ⟨⟩ h
      simp only [Prod.mk.injEq] at h
      grind)

theorem feedCascadeGains_eq (h : H) (g : CascadeGains F32) :
    feedCascadeGains h g = feedBytes h (cascadeGainsCode.bytes g) := by
  simp only [feedCascadeGains, foldl_feedF32_three, foldl_feedF32, feedF32, ← feedBytes_append]
  simp only [cascadeGainsCode, FixedCode.comap_bytes, FixedCode.prod_bytes, FixedCode.f32_bytes,
    axisCode, List.append_assoc]

def mixerGeometryCode : FixedCode MixerGeometry :=
  tagCode mixerGeometryTag fun x y => by cases x <;> cases y <;> simp [mixerGeometryTag]

def actuatorCurveCode : FixedCode ActuatorCurveKind :=
  tagCode actuatorCurveTag fun x y => by cases x <;> cases y <;> simp [actuatorCurveTag]

/-! ## The configuration -/

/-- A field and the separator behind it. -/
def separated {α : Type} (c : PrefixCode α) : PrefixCode α := c.closed [0xff]

theorem feedSeparator_eq {α : Type} (c : PrefixCode α) (h : H) (a : α) :
    feedSeparator (feedBytes h (c.bytes a)) = feedBytes h ((separated c).bytes a) :=
  (feedBytes_append h (c.bytes a) [0xff]).symm

/-- The code of the whole configuration. -/
def configCode : PrefixCode FullKernelConfig :=
  ((separated limitsCode).prod <| (separated modeConfigCode).prod <|
    (separated faultTableCode).prod <| (separated FixedCode.u32.toPrefix).prod <|
    (separated (FixedCode.f32.vector 16).toPrefix).prod <|
    (separated (FixedCode.f32.vector 16).toPrefix).prod <|
    (separated cascadeGainsCode.toPrefix).prod <| (separated FixedCode.f32.toPrefix).prod <|
    (separated mixerGeometryCode.toPrefix).prod actuatorCurveCode.toPrefix).comap
    (fun cfg => (cfg.limits, cfg.modeConfig, cfg.faultTable, cfg.commandTimeoutMs,
      cfg.safeOutput, cfg.slewLimitPerCycle, cfg.cascadeGains, cfg.hoverThrustNorm,
      cfg.mixerGeometry, cfg.actuatorCurve))
    (by
      rintro ⟨⟨⟩⟩ ⟨⟨⟩⟩ h
      simp only [Prod.mk.injEq] at h
      simp [h])

/-- The slices of a configuration are short enough for their length prefixes. -/
theorem configCode_domain (cfg : FullKernelConfig) : configCode.Domain cfg := by
  simp only [configCode, separated, limitsCode, modeConfigCode, actuatorGroupConfigCode,
    faultTableCode, faultResponseCode, groupKindCode, fallbackPolicyCode, PrefixCode.option,
    PrefixCode.comap_Domain, PrefixCode.prod_Domain, PrefixCode.closed_Domain,
    PrefixCode.list_Domain, PrefixCode.tagged_Domain, FixedCode.toPrefix_Domain, true_and,
    and_true, implies_true]
  exact ⟨⟨cfg.groupsFit, cfg.membersFit⟩, cfg.entriesFit⟩

/-- Whatever hasher is fed a configuration, it is fed its code. -/
theorem feedConfig_eq (h : H) (cfg : FullKernelConfig) :
    feedAfterHoverPrefix (feedHoverKernelPrefix h cfg) cfg.hoverThrustNorm cfg.mixerGeometry
      cfg.actuatorCurve = feedBytes h (configCode.bytes cfg) := by
  have hu32 (h : H) (x : UInt32) : feedU32 h x = feedBytes h (FixedCode.u32.toPrefix.bytes x) := rfl
  simp only [feedAfterHoverPrefix, feedHoverKernelPrefix, feedLimits_eq, feedModeConfig_eq,
    feedFaultTable_eq, foldl_feedF32, feedCascadeGains_eq]
  simp only [configCode, PrefixCode.comap_bytes, PrefixCode.prod_bytes, feedBytes_append,
    ← feedSeparator_eq]
  rfl

/-- The recorded stream is the code of the configuration. -/
theorem canonicalStream_eq (cfg : FullKernelConfig) :
    canonicalStream cfg = configCode.bytes cfg := by
  rw [canonicalStream, feedConfig_eq, feedBytes_recorder, List.nil_append]

/-- Different configurations feed different streams. -/
theorem canonicalStream_injective : Function.Injective canonicalStream := by
  intro cfg cfg' h
  rw [canonicalStream_eq, canonicalStream_eq] at h
  exact configCode.bytes_inj (configCode_domain cfg) (configCode_domain cfg') h

/-- The state of the fold is its hash. -/
theorem Fnv1a64.fromHash_finish (h : Fnv1a64) : Fnv1a64.fromHash h.finish = h := rfl

/-- The hash is the fold of the stream. -/
theorem canonicalHash_eq (cfg : FullKernelConfig) :
    canonicalHash cfg = (feedBytes Fnv1a64.new (canonicalStream cfg)).finish := by
  rw [canonicalStream_eq, ← feedConfig_eq]
  rfl

/-- The code of what a multirotor controller copies. -/
def tuningCode : PrefixCode (CascadeGains F32 × F32) :=
  (separated cascadeGainsCode.toPrefix).prod FixedCode.f32.toPrefix

/-- The tuning identity is the same fold over a stream that tells any two tunings apart. -/
theorem controllerTuningIdentity_eq :
    Function.Injective tuningCode.bytes ∧ ∀ gains hoverThrustNorm,
      controllerTuningIdentity gains hoverThrustNorm =
        (feedBytes Fnv1a64.new (tuningCode.bytes (gains, hoverThrustNorm))).finish := by
  constructor
  · intro tuning tuning' h
    exact tuningCode.bytes_inj ⟨trivial, trivial⟩ ⟨trivial, trivial⟩ h
  · intro gains hoverThrustNorm
    rw [controllerTuningIdentity, feedCascadeGains_eq, tuningCode, PrefixCode.prod_bytes,
      feedBytes_append, ← feedSeparator_eq]
    rfl

/-- The stream tells any two configurations apart, so equal hashes of different ones are a
collision of the fold over different streams. The hash is one pass over the stream; taking
the fold up again from its state after any front gives the same as one pass. -/
theorem canonical_stream_law :
    Function.Injective canonicalStream ∧
      (∀ cfg, canonicalHash cfg = (feedBytes Fnv1a64.new (canonicalStream cfg)).finish) ∧
      (∀ cfg cfg' : FullKernelConfig, cfg ≠ cfg' → canonicalHash cfg = canonicalHash cfg' →
        canonicalStream cfg ≠ canonicalStream cfg' ∧
          feedBytes Fnv1a64.new (canonicalStream cfg) =
            feedBytes Fnv1a64.new (canonicalStream cfg')) ∧
      (∀ front back : Bytes,
        feedBytes (Fnv1a64.fromHash (feedBytes Fnv1a64.new front).finish) back =
          feedBytes Fnv1a64.new (front ++ back)) ∧
      ∀ cfg, canonicalHashFromHoverPrefix (hoverKernelPrefixHash cfg) cfg.hoverThrustNorm
        cfg.mixerGeometry cfg.actuatorCurve =
          (feedBytes Fnv1a64.new (canonicalStream cfg)).finish := by
  refine ⟨canonicalStream_injective, canonicalHash_eq, ?_, ?_, canonicalHash_eq⟩
  · intro cfg cfg' hne hhash
    rw [canonicalHash_eq, canonicalHash_eq] at hhash
    constructor
    · exact fun h => hne (canonicalStream_injective h)
    · rw [← Fnv1a64.fromHash_finish (feedBytes _ _), hhash, Fnv1a64.fromHash_finish]
  · intro front back
    rw [Fnv1a64.fromHash_finish, feedBytes_append]

end Aviate
