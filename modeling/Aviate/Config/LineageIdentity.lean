import Aviate.Model
import Aviate.Core.Ieee32
import Aviate.Foundations.PrefixCode

/-!
# The identity of a lineage

What the final lineage digest of a candidate says, over the patterns of `f32`. The message of an
overlay writes its fields in an order of its own, with a tag for every option and a length for the
only text, and both zeros alike.

Results:
1. The message of an overlay gives back the parent, the plant and every field by value
   (`overlayBytes_faithful`).
2. Layers that are the same by value take the same preset to the same preset (`Same.run`).
3. Accepted lineages with one digest have the same documents, overlays and result
   (`lineage_faithful`), as far as SHA-256 tells apart the messages that were hashed.
-/

namespace Aviate

instance : FloatBits Ieee32 where
  toBits v := v.raw.bits

namespace Config

open ByteBuffer Perturbation Validation

/-! ## Same by value -/

/-- Equal, or zeros of either sign. -/
def SameValue (x y : Ieee32) : Prop := x = y ∨ x.isZero ∧ y.isZero

def SameTriple (v w : Vector Ieee32 3) : Prop := ∀ axis, SameValue (v.get axis) (w.get axis)

structure SameDesign (d d' : InnerLoopDesign Ieee32) : Prop where
  naturalFrequencyRadS : SameTriple d.naturalFrequencyRadS d'.naturalFrequencyRadS
  loopSeparation : SameTriple d.loopSeparation d'.loopSeparation

structure SameLayer (l l' : CandidateLayer Ieee32) : Prop where
  stage : l.stage = l'.stage
  hoverThrustSeed : Option.Rel SameValue l.hoverThrustSeed l'.hoverThrustSeed
  innerLoop : Option.Rel SameDesign l.innerLoop l'.innerLoop
  triple (field : TripleField) :
    Option.Rel SameTriple (l.gains.triple field) (l'.gains.triple field)
  scalar (field : ScalarField) :
    Option.Rel SameValue (l.gains.scalar field) (l'.gains.scalar field)

/-- Equal but for the sign of zeros and the case of the digits of the parent digest. -/
structure SameOverlay (o o' : CalibrationOverlay Ieee32) : Prop extends
    SameLayer o.toCandidateLayer o'.toCandidateLayer where
  overlayId : o.overlayId = o'.overlayId
  parentDigest : ∃ parent, NamesParent parent o ∧ NamesParent parent o'

structure SamePreset (p p' : AirframePreset Ieee32) : Prop where
  schemaVersion : p.schemaVersion = p'.schemaVersion
  name : p.name = p'.name
  mixer : p.mixer = p'.mixer
  motorCount : p.motorCount = p'.motorCount
  hoverThrustSeed : SameValue p.hoverThrustSeed p'.hoverThrustSeed
  actuatorCurve : p.actuatorCurve = p'.actuatorCurve
  gain (gain : Gain) : SameValue (p.gains.read gain) (p'.gains.read gain)
  limits : p.limits = p'.limits

theorem SameValue.refl (x : Ieee32) : SameValue x x := .inl rfl

theorem SameValue.eq_of_not_isZero {x y : Ieee32} (h : SameValue x y) (hx : ¬ x.isZero) : x = y :=
  h.resolve_right fun hzero => hx hzero.1

theorem SamePreset.refl (p : AirframePreset Ieee32) : SamePreset p p :=
  ⟨rfl, rfl, rfl, rfl, .refl _, rfl, fun _ => .refl _, rfl⟩

/-! ## The message of an overlay -/

section Codes

variable {x y : Ieee32} {v w : Vector Ieee32 3} {rest rest' : Bytes}

theorem sameValue_of_bits (h : canonicalF32Bits x = canonicalF32Bits y) : SameValue x y := by
  have hcanonical (z : Ieee32) : canonicalF32Bits z = if z.isZero then 0 else z.raw.bits := by
    have hzero : (lit 0 : Ieee32).raw.bits = 0 := by decide +kernel
    rw [canonicalF32Bits, Ieee32.eq_zero]
    split
    · exact hzero
    · rfl
  have hbits {z : Ieee32} (hz : z.raw.bits = 0) : z.isZero := by
    rw [Ieee32.isZero, hz]
    decide
  rw [hcanonical, hcanonical] at h
  by_cases hx : x.isZero
  · by_cases hy : y.isZero
    · exact .inr ⟨hx, hy⟩
    · rw [if_pos hx, if_neg hy] at h
      exact absurd (hbits h.symm) hy
  · by_cases hy : y.isZero
    · rw [if_neg hx, if_pos hy] at h
      exact absurd (hbits h) hx
    · rw [if_neg hx, if_neg hy] at h
      exact .inl (congrArg (fun bits => Ieee32.mk ⟨bits⟩) h)

theorem floatBytes_eq (x : Ieee32) : floatBytes x = FixedCode.u32.bytes (canonicalF32Bits x) := rfl

theorem tripleBytes_eq (v : Vector Ieee32 3) :
    tripleBytes v = (FixedCode.u32.vector 3).bytes (v.map canonicalF32Bits) := by
  rw [FixedCode.vector_bytes, Vector.toList_map, List.flatMap_map]
  rfl

theorem sameTriple_of_map (h : v.map canonicalF32Bits = w.map canonicalF32Bits) :
    SameTriple v w := by
  intro axis
  apply sameValue_of_bits
  have hget := congrArg (fun bits => bits[axis.val]) h
  simp only [Vector.getElem_map] at hget
  exact hget

theorem designBytes_eq (d : InnerLoopDesign Ieee32) : designBytes d =
    ((FixedCode.u32.vector 3).prod (FixedCode.u32.vector 3)).bytes
      (d.naturalFrequencyRadS.map canonicalF32Bits, d.loopSeparation.map canonicalF32Bits) := by
  rw [designBytes, tripleBytes_eq, tripleBytes_eq, FixedCode.prod_bytes]

section Option

variable {α β : Type} {bytes : α → Bytes} {key : α → β} {R : α → α → Prop} {c : FixedCode β}

/-- Options that are written alike agree in presence and in what the code shows. -/
theorem optionBytes_unique (hbytes : ∀ a, bytes a = c.bytes (key a))
    (hR : ∀ {a b}, key a = key b → R a b) {o o' : Option α}
    (h : optionBytes bytes o ++ rest = optionBytes bytes o' ++ rest') :
    Option.Rel R o o' ∧ rest = rest' := by
  have hcode (o : Option α) : optionBytes bytes o = (PrefixCode.option c).bytes (o.map key) := by
    cases o with
    | none => rfl
    | some a => exact congrArg (List.cons 1) (hbytes a)
  rw [hcode, hcode] at h
  obtain ⟨hkey, hrest⟩ := (PrefixCode.option c).unique trivial trivial h
  refine ⟨?_, hrest⟩
  cases o with
  | none =>
    cases o' with
    | none => exact .none
    | some b => cases hkey
  | some a =>
    cases o' with
    | none => cases hkey
    | some b => exact .some (hR (Option.some.inj hkey))

/-- So do the options of two lists of one length. -/
theorem flatMap_optionBytes_unique (hbytes : ∀ a, bytes a = c.bytes (key a))
    (hR : ∀ {a b}, key a = key b → R a b) {os os' : List (Option α)}
    (hlength : os.length = os'.length)
    (h : os.flatMap (optionBytes bytes) ++ rest = os'.flatMap (optionBytes bytes) ++ rest') :
    List.Forall₂ (Option.Rel R) os os' ∧ rest = rest' := by
  induction os generalizing os' with
  | nil =>
    obtain rfl := List.eq_nil_of_length_eq_zero hlength.symm
    exact ⟨.nil, h⟩
  | cons o os ih =>
    cases os' with
    | nil => cases hlength
    | cons o' os' =>
      rw [List.flatMap_cons, List.flatMap_cons, List.append_assoc, List.append_assoc] at h
      obtain ⟨hhead, h⟩ := optionBytes_unique hbytes hR h
      obtain ⟨htail, h⟩ := ih (Nat.succ.inj hlength) h
      exact ⟨.cons hhead htail, h⟩

end Option

theorem flatMap_u8Bytes {bytes : Bytes} : bytes.flatMap u8Bytes = bytes := by
  induction bytes with
  | nil => rfl
  | cons byte bytes ih => rw [List.flatMap_cons, ih, u8Bytes, List.singleton_append]

theorem digest_unique {d d' : ContentDigest}
    (h : Digest.toList d ++ rest = Digest.toList d' ++ rest') : d = d' ∧ rest = rest' := by
  have hcode (d : ContentDigest) : Digest.toList d = (FixedCode.u8.vector 32).bytes d :=
    flatMap_u8Bytes.symm
  rw [hcode, hcode] at h
  exact (FixedCode.u8.vector 32).toPrefix.unique trivial trivial h

theorem text_unique {t t' : Bytes} (ht : t.length < 2 ^ 64) (ht' : t'.length < 2 ^ 64)
    (h : textBytes t ++ rest = textBytes t' ++ rest') : t = t' ∧ rest = rest' := by
  have hcode (t : Bytes) : textBytes t = (PrefixCode.list FixedCode.u8.toPrefix).bytes t :=
    congrArg (u64Bytes (.ofNat t.length) ++ ·) flatMap_u8Bytes.symm
  rw [hcode, hcode] at h
  exact (PrefixCode.list FixedCode.u8.toPrefix).unique ⟨ht, fun _ _ => trivial⟩
    ⟨ht', fun _ _ => trivial⟩ h

theorem stage_unique {s s' : CalibrationStage}
    (h : [UInt8.ofNat s.slot] ++ rest = [UInt8.ofNat s'.slot] ++ rest') :
    s = s' ∧ rest = rest' := by
  have hslot : UInt8.ofNat s.slot = UInt8.ofNat s'.slot := List.head_eq_of_cons_eq h
  refine ⟨?_, List.tail_eq_of_cons_eq h⟩
  cases s <;> cases s' <;> first | rfl | exact absurd hslot (by decide)

end Codes

section Message

variable {parent parent' plant plant' : ContentDigest} {o o' : CalibrationOverlay Ieee32}

/-- The overrides by field from the overrides in order. -/
theorem triple_of_forall₂ {g g' : GainOverrides Ieee32} {R : Option (Vector Ieee32 3) → _ → Prop}
    (hnone : R none none) (h : List.Forall₂ R g.triples g'.triples) (field : TripleField) :
    R (g.triple field) (g'.triple field) := by
  simp only [GainOverrides.triples, List.forall₂_cons, List.forall₂_nil_right_iff] at h
  cases field with
  | attP | rateP => exact hnone
  | _ => simp only [GainOverrides.triple, h]

theorem scalar_of_forall₂ {g g' : GainOverrides Ieee32} {R : Option Ieee32 → _ → Prop}
    (h : List.Forall₂ R g.scalars g'.scalars) (field : ScalarField) :
    R (g.scalar field) (g'.scalar field) := by
  simp only [GainOverrides.scalars, List.forall₂_cons, List.forall₂_nil_right_iff] at h
  cases field <;> simp only [GainOverrides.scalar, h]

/-- No two overlays that differ by value share a message, under whatever parents and plants. -/
theorem overlayBytes_faithful (hid : o.overlayId.length < 2 ^ 64)
    (hid' : o'.overlayId.length < 2 ^ 64)
    (h : overlayBytes parent plant o = overlayBytes parent' plant' o') :
    parent = parent' ∧ plant = plant' ∧ o.overlayId = o'.overlayId ∧
      SameLayer o.toCandidateLayer o'.toCandidateLayer := by
  unfold overlayBytes gainOverridesBytes at h
  simp only [List.append_assoc] at h
  obtain ⟨hparent, h⟩ := digest_unique (List.append_cancel_left h)
  obtain ⟨hplant, h⟩ := digest_unique h
  obtain ⟨hoverlayId, h⟩ := text_unique hid hid' h
  obtain ⟨hstage, h⟩ := stage_unique h
  obtain ⟨hhover, h⟩ := optionBytes_unique floatBytes_eq sameValue_of_bits h
  obtain ⟨hdesign, h⟩ := optionBytes_unique (R := SameDesign) designBytes_eq
    (fun hkey => ⟨sameTriple_of_map (congrArg Prod.fst hkey),
      sameTriple_of_map (congrArg Prod.snd hkey)⟩) h
  obtain ⟨htriples, h⟩ := flatMap_optionBytes_unique tripleBytes_eq sameTriple_of_map
    (by rfl) h
  obtain ⟨hscalars, -⟩ := flatMap_optionBytes_unique floatBytes_eq sameValue_of_bits
    (by rfl) (congrArg (· ++ ([] : Bytes)) h)
  exact ⟨hparent, hplant, hoverlayId, hstage, hhover, hdesign,
    triple_of_forall₂ .none htriples, scalar_of_forall₂ hscalars⟩

/-- The length of a portable name has zero bytes. -/
theorem zero_mem_overlayBytes (hid : isPortableId o.overlayId) :
    0 ∈ overlayBytes parent plant o := by
  have hlength := length_of_isPortableId hid
  have hbytes : ∀ n : Fin 65, 0 ∈ u64Bytes (.ofNat n.val) := by decide
  have hzero := hbytes ⟨o.overlayId.length, Nat.lt_succ_of_le hlength⟩
  simp only [overlayBytes, textBytes, List.mem_append]
  tauto

end Message

/-! ## The result of a chain -/

section Result

variable [Libm Ieee32] {p p' q q' : AirframePreset Ieee32} {l l' : CandidateLayer Ieee32}
  {ls ls' : List (CandidateLayer Ieee32)} {plant : PlantIdentificationArtifact Ieee32}
  {model model' : XPlaneSimulatorModel Ieee32}

omit [Libm Ieee32] in
theorem assign_same {α : Type} {R : α → α → Prop} {a a' : α} {o o' : Option α} (h : R a a')
    (ho : Option.Rel R o o') : R (assign a o) (assign a' o') := by
  cases ho with
  | none => exact h
  | some hvalue => exact hvalue

omit [Libm Ieee32] in
theorem not_isZero_of_bounded {field : String} {value lower upper : Ieee32}
    (hlower : 0 < lower.raw.place) (h : bounded field value lower upper = .ok ()) :
    ¬ value.isZero := by
  simp only [bounded, outside, refuse_eq_ok, Bool.or_eq_false_iff, Bool.not_eq_false',
    Bool.and_eq_true] at h
  exact Ieee32.not_isZero_of_le hlower h.2.1

/-- The coordinates of an accepted design are no zeros, so designs that are the same by value
give the same gains. -/
theorem applyInnerLoopDesign_same {gains gains' next next' : GainsPreset Ieee32}
    {d d' : InnerLoopDesign Ieee32} (hd : SameDesign d d')
    (hgains : ∀ gain, SameValue (gains.read gain) (gains'.read gain))
    (h : applyInnerLoopDesign gains d plant = .ok next)
    (h' : applyInnerLoopDesign gains' d' plant = .ok next') (gain : Gain) :
    SameValue (next.read gain) (next'.read gain) := by
  by_cases howner : gain.owner = .innerLoop
  · have haxis (axis : Fin 3) : next.attP.get axis = next'.attP.get axis ∧
        next.rateP.get axis = next'.rateP.get axis := by
      obtain ⟨hfrequency, hseparation, hatt, hrate⟩ := applyInnerLoopDesign_axis h axis
      obtain ⟨-, -, hatt', hrate'⟩ := applyInnerLoopDesign_axis h' axis
      have hfrequency := (hd.naturalFrequencyRadS axis).eq_of_not_isZero
        (not_isZero_of_bounded (by decide +kernel) hfrequency)
      have hseparation := (hd.loopSeparation axis).eq_of_not_isZero
        (not_isZero_of_bounded (by decide +kernel) hseparation)
      rw [hatt, hatt', hrate, hrate', hfrequency, hseparation]
      exact ⟨rfl, rfl⟩
    cases gain with
    | triple field axis =>
      cases field with
      | attP => exact .inl (haxis axis).1
      | rateP => exact .inl (haxis axis).2
      | _ => cases howner
    | scalar field => cases field <;> cases howner
  · rw [applyInnerLoopDesign_read h howner, applyInnerLoopDesign_read h' howner]
    exact hgains gain

theorem SamePreset.step (hp : SamePreset p p') (hl : SameLayer l l')
    (h : applyLayer p l plant = .ok q) (h' : applyLayer p' l' plant = .ok q') :
    SamePreset q q' := by
  have hframe := applyLayer_eq h
  have hframe' := applyLayer_eq h'
  have hoverrides (gain : Gain) : SameValue ((applyOverrides p.gains l.gains).read gain)
      ((applyOverrides p'.gains l'.gains).read gain) := by
    cases gain with
    | triple field axis =>
      have htriple : SameTriple (p.gains.triple field) (p'.gains.triple field) :=
        fun axis => hp.gain (.triple field axis)
      rw [GainsPreset.read, GainsPreset.read, applyOverrides_triple, applyOverrides_triple]
      exact assign_same htriple (hl.triple field) axis
    | scalar field =>
      rw [GainsPreset.read, GainsPreset.read, applyOverrides_scalar, applyOverrides_scalar]
      exact assign_same (hp.gain (.scalar field)) (hl.scalar field)
  have hgains := applyLayer_gains h
  have hgains' := applyLayer_gains h'
  refine ⟨?_, ?_, ?_, ?_, ?_, ?_, fun gain => ?_, ?_⟩
  case refine_5 =>
    rw [applyLayer_seed h, applyLayer_seed h']
    exact assign_same hp.hoverThrustSeed hl.hoverThrustSeed
  case refine_7 =>
    have hdesign := hl.innerLoop
    generalize l.innerLoop = d at hgains hdesign
    generalize l'.innerLoop = d' at hgains' hdesign
    cases hdesign with
    | none =>
      rw [← Except.ok.inj hgains, ← Except.ok.inj hgains']
      exact hoverrides gain
    | some hdesign => exact applyInnerLoopDesign_same hdesign hoverrides hgains hgains' gain
  all_goals rw [hframe, hframe']
  exacts [hp.schemaVersion, hp.name, hp.mixer, hp.motorCount, hp.actuatorCurve, hp.limits]

/-- Layers that are the same by value take the same preset to the same preset. -/
theorem SamePreset.run (hp : SamePreset p p') (hls : List.Forall₂ SameLayer ls ls')
    (h : Layered plant model p ls q) (h' : Layered plant model' p' ls' q') : SamePreset q q' := by
  induction h generalizing p' ls' with
  | nil =>
    cases hls
    cases h'
    exact hp
  | cons hlayer _ ih =>
    cases hls with
    | cons hl hls =>
      cases h' with
      | cons hlayer' hrest' =>
        exact ih (hp.step hl (applyValidatedLayer_checked hlayer).applied
          (applyValidatedLayer_checked hlayer').applied) hls hrest'

end Result

/-! ## Accepted lineages -/

section Accepted

variable [Libm Ieee32] [Sha256] [FromToml (AirframePreset Ieee32)]
  [FromToml (CalibrationCandidate Ieee32)] [FromToml (PlantIdentificationArtifact Ieee32)]

/-- What is hashed for the lineage of a candidate. -/
def hashedMessages (basePresetText plantArtifactText : Bytes)
    (overlays : List (CalibrationOverlay Ieee32)) : List Bytes :=
  plantArtifactText :: basePresetText ::
    HashChain.links Sha256.digest (overlayBytes · (ContentDigest.calculate plantArtifactText) ·)
      (ContentDigest.calculate basePresetText) overlays

/-- An accepted candidate of the second schema is a chain of overlays from the base text. -/
theorem resolveCandidate_lineage {basePresetText candidateText plantArtifactText : Bytes}
    {model : XPlaneSimulatorModel Ieee32} {r : ResolvedCandidate Ieee32}
    {candidate : CalibrationCandidate Ieee32}
    (h : resolveCandidate basePresetText candidateText plantArtifactText model = .ok r)
    (hcandidate : FromToml.fromStr candidateText = .ok candidate)
    (hschema : candidate.schemaVersion = 2) :
    ∃ base : AirframePreset Ieee32, presetFromTomlStr basePresetText = .ok base ∧
      PlantIdentificationArtifact.fromTomlStr plantArtifactText = .ok r.plantArtifact ∧
      candidate.overlays ≠ [] ∧
      (∀ overlay ∈ candidate.overlays, isPortableId overlay.overlayId) ∧
      Layered r.plantArtifact model base (candidate.overlays.map (·.toCandidateLayer)) r.preset ∧
      Chained (.calculate plantArtifactText) (.calculate basePresetText) candidate.overlays ∧
      r.identity.lineage = lineageDigest (.calculate plantArtifactText)
        (.calculate basePresetText) candidate.overlays := by
  obtain ⟨base, candidate', hbase, _, hcandidate', hvalid, hplant, hlayers⟩ :=
    resolveCandidate_spec h
  obtain rfl : candidate' = candidate := Except.ok.inj (hcandidate'.symm.trans hcandidate)
  rcases validateCandidate_spec hvalid with ⟨hlegacy, _⟩ | ⟨_, hshape⟩
  · rw [hschema] at hlegacy
    exact absurd hlegacy (by decide)
  · obtain ⟨_, hne, hids, _⟩ := validateLineageShape_spec hshape
    unfold applyCandidateLayers at hlayers
    rw [if_neg (by rw [hschema]; decide)] at hlayers
    exact ⟨base, hbase, hplant, hne, hids, applyOverlays_spec hlayers⟩

/-- A lineage digest is faithful to the documents it stands for, whatever the numbers and orders of
the overlays. A preset text is no message of an overlay, since TOML has no zero bytes. -/
theorem lineage_faithful
    {baseText baseText' candidateText candidateText' plantText plantText' : Bytes}
    {model model' : XPlaneSimulatorModel Ieee32} {r r' : ResolvedCandidate Ieee32}
    {candidate candidate' : CalibrationCandidate Ieee32}
    (htoml : ∀ {text} {preset : AirframePreset Ieee32},
      FromToml.fromStr text = .ok preset → 0 ∉ text)
    (h : resolveCandidate baseText candidateText plantText model = .ok r)
    (h' : resolveCandidate baseText' candidateText' plantText' model' = .ok r')
    (hcandidate : FromToml.fromStr candidateText = .ok candidate)
    (hcandidate' : FromToml.fromStr candidateText' = .ok candidate')
    (hschema : candidate.schemaVersion = 2) (hschema' : candidate'.schemaVersion = 2)
    (hsha : ∀ m ∈ hashedMessages baseText plantText candidate.overlays,
      ∀ m' ∈ hashedMessages baseText' plantText' candidate'.overlays,
        Sha256.digest m = Sha256.digest m' → m = m')
    (hlineage : r.identity.lineage = r'.identity.lineage) :
    baseText = baseText' ∧ plantText = plantText' ∧
      List.Forall₂ SameOverlay candidate.overlays candidate'.overlays ∧
      SamePreset r.preset r'.preset := by
  obtain ⟨base, hbase, hplant, hne, hids, hrun, hchained, hdigest⟩ :=
    resolveCandidate_lineage h hcandidate hschema
  obtain ⟨base', hbase', hplant', -, hids', hrun', hchained', hdigest'⟩ :=
    resolveCandidate_lineage h' hcandidate' hschema'
  have hlength {overlay : CalibrationOverlay Ieee32} (hid : isPortableId overlay.overlayId) :
      overlay.overlayId.length < 2 ^ 64 :=
    (length_of_isPortableId hid).trans_lt (by decide)
  rw [hdigest, hdigest'] at hlineage
  obtain ⟨rfl, hitems⟩ := HashChain.faithful
    (R := fun overlay overlay' => ContentDigest.calculate plantText = .calculate plantText' ∧
      SameOverlay overlay overlay')
    (fun overlay hmem overlay' hmem' d d' hnames hnames' hmessage => by
      obtain ⟨rfl, hplantDigest, hid, hlayer⟩ := overlayBytes_faithful (hlength (hids _ hmem))
        (hlength (hids' _ hmem')) hmessage
      exact ⟨rfl, hplantDigest, hlayer, hid, d, hnames, hnames'⟩)
    hchained hchained'
    (fun overlay hmem d heq => htoml (fromStr_of_presetFromTomlStr hbase)
      (heq ▸ zero_mem_overlayBytes (hids' _ hmem)))
    (fun overlay hmem d heq => htoml (fromStr_of_presetFromTomlStr hbase')
      (heq ▸ zero_mem_overlayBytes (hids _ hmem)))
    (fun m hm m' hm' => hsha m (List.mem_cons_of_mem _ hm) m' (List.mem_cons_of_mem _ hm'))
    hlineage
  have hoverlays : List.Forall₂ SameOverlay candidate.overlays candidate'.overlays :=
    hitems.imp fun _ _ hitem => hitem.2
  have hplantDigest : ContentDigest.calculate plantText = .calculate plantText' := by
    obtain ⟨overlay, overlays, hcons⟩ := List.exists_cons_of_ne_nil hne
    rw [hcons] at hitems
    obtain ⟨_, _, hitem, _⟩ := List.forall₂_cons_left_iff.mp hitems
    exact hitem.1
  obtain rfl := hsha plantText List.mem_cons_self plantText' List.mem_cons_self hplantDigest
  obtain rfl := Except.ok.inj (hbase.symm.trans hbase')
  rw [← Except.ok.inj (hplant.symm.trans hplant')] at hrun'
  refine ⟨rfl, rfl, hoverlays, (SamePreset.refl base).run ?_ hrun hrun'⟩
  rw [List.forall₂_map_left_iff, List.forall₂_map_right_iff]
  exact hoverlays.imp fun _ _ hsame => hsame.toSameLayer

end Accepted

/-! ## Two documents with one lineage -/

section Zeros

def samplePlusText : Bytes := sampleText "plus" "damp" "0.0"

def sampleMinusText : Bytes := sampleText "minus" "damp" "-0.0"

def plusCandidate : CalibrationCandidate Ieee32 := sampleCandidate Ieee32 "plus" "damp" (lit 0)

def minusCandidate : CalibrationCandidate Ieee32 := sampleCandidate Ieee32 "minus" "damp" (-lit 0)

def plusResolved : ResolvedCandidate Ieee32 :=
  letI := sampleSha256
  sampleResolved Ieee32 samplePlusText "plus" "damp" (lit 0)

def minusResolved : ResolvedCandidate Ieee32 :=
  letI := sampleSha256
  sampleResolved Ieee32 sampleMinusText "minus" "damp" (-lit 0)

/-- The only square root that the sample takes is the one of 9. -/
@[reducible] def zerosLibm : Libm Ieee32 where
  sqrtf x := if x = lit 9 then lit 3 else x
  sinf x := x
  cosf x := x
  asinf x := x
  atan2f y _ := y

@[reducible] def zerosBaseToml : FromToml (AirframePreset Ieee32) :=
  sampleToml sampleBaseText (sampleBase Ieee32)

@[reducible] def zerosPlantToml : FromToml (PlantIdentificationArtifact Ieee32) :=
  sampleToml samplePlantText (samplePlant Ieee32)

@[reducible] def zerosToml : FromToml (CalibrationCandidate Ieee32) where
  fromStr text :=
    if text = samplePlusText then .ok plusCandidate
    else if text = sampleMinusText then .ok minusCandidate
    else .error "not a sample"

attribute [local instance] sampleSha256 zerosLibm zerosBaseToml zerosPlantToml zerosToml

/-- The documents of the sample are accepted, and tell the two candidates apart. -/
theorem ieeeDocuments_accepted : (sampleBase Ieee32).validate = .ok () ∧
    (samplePlant Ieee32).validate = .ok () ∧
    (sampleModel Ieee32).canonicalDigest = .ok (sampleDigest sampleModelHex) ∧
    sampleMinusText ≠ samplePlusText := by
  decide +kernel

/-- A higher hover seed is accepted, and after it either zero for the velocity I gains. -/
theorem ieeeLayers_accepted :
    applyValidatedLayer (sampleBase Ieee32) (climbLayer Ieee32) (samplePlant Ieee32)
      (sampleModel Ieee32) = .ok (tunedPreset Ieee32 (lit 0)) ∧
    ∀ zero : Ieee32, zero = lit 0 ∨ zero = -lit 0 →
      (∀ candidateId ∈ ["plus", "minus"],
        validateCandidate (sampleCandidate Ieee32 candidateId "damp" zero) = .ok ()) ∧
      applyValidatedLayer (tunedPreset Ieee32 (lit 0)) (dampLayer Ieee32 zero)
        (samplePlant Ieee32) (sampleModel Ieee32) = .ok (tunedPreset Ieee32 zero) := by
  constructor
  · decide +kernel
  · rintro _ (rfl | rfl) <;> decide +kernel

theorem minus_fromStr : FromToml.fromStr sampleMinusText = .ok minusCandidate :=
  (if_neg ieeeDocuments_accepted.2.2.2).trans (if_pos rfl)

theorem plus_accepted : resolveCandidate sampleBaseText samplePlusText samplePlantText
    (sampleModel Ieee32) = .ok plusResolved := by
  obtain ⟨hbase, hplant, hmodel, -⟩ := ieeeDocuments_accepted
  obtain ⟨hclimb, hdamp⟩ := ieeeLayers_accepted
  obtain ⟨hvalid, hzero⟩ := hdamp (lit 0) (.inl rfl)
  exact sample_accepted (if_pos rfl) hbase (if_pos rfl) hplant hmodel (if_pos rfl)
    (hvalid "plus" (by simp)) hclimb hzero

theorem minus_accepted : resolveCandidate sampleBaseText sampleMinusText samplePlantText
    (sampleModel Ieee32) = .ok minusResolved := by
  obtain ⟨hbase, hplant, hmodel, -⟩ := ieeeDocuments_accepted
  obtain ⟨hclimb, hdamp⟩ := ieeeLayers_accepted
  obtain ⟨hvalid, hzero⟩ := hdamp (-lit 0) (.inr rfl)
  exact sample_accepted (if_pos rfl) hbase (if_pos rfl) hplant hmodel minus_fromStr
    (hvalid "minus" (by simp)) hclimb hzero

/-- The messages of a sample have digests of their own. -/
theorem plusDigests_nodup : ((hashedMessages sampleBaseText samplePlantText
    plusCandidate.overlays).map Sha256.digest).Nodup := by
  have hkey : sampleKey (lineageTag ++ Digest.toList (sampleDigest sampleClimbHex) ++
      Digest.toList (sampleDigest samplePlantHex) ++ textBytes "damp".toUTF8.toList) = (209, 4) := by
    decide +kernel
  have hdamp := digest_of_key ((sampleKey_overlayBytes Ieee32 _ _
    (dampOverlay Ieee32 "damp" (lit 0))).trans hkey)
  have hclimb := climbOverlay_digest (F := Ieee32)
  have hbase := sampleBaseText_digest
  have hplant := samplePlantText_digest
  simp only [calculateOverlayLineageDigest, ContentDigest.calculate] at hclimb hbase hplant
  have hdigests : (hashedMessages sampleBaseText samplePlantText plusCandidate.overlays).map
      Sha256.digest = [samplePlantHex, sampleBaseHex, sampleClimbHex, sampleHex (209, 4)].map
        sampleDigest := by
    simp only [hashedMessages, ContentDigest.calculate, plusCandidate, sampleCandidate,
      HashChain.links, List.map_cons, List.map_nil, hbase, hplant, hclimb, hdamp]
  rw [hdigests]
  decide +kernel

/-- Zeros of the other sign in another document give the same lineage and the same preset. -/
theorem lineage_faithful_zeros :
    sampleBaseText = sampleBaseText ∧ samplePlantText = samplePlantText ∧
      List.Forall₂ SameOverlay plusCandidate.overlays minusCandidate.overlays ∧
      SamePreset plusResolved.preset minusResolved.preset := by
  have hgains : gainOverridesBytes (dampLayer Ieee32 (-lit 0)).gains =
      gainOverridesBytes (dampLayer Ieee32 (lit 0)).gains := by decide +kernel
  have hlink (parent plant : ContentDigest) :
      overlayBytes parent plant (dampOverlay Ieee32 "damp" (-lit 0)) =
        overlayBytes parent plant (dampOverlay Ieee32 "damp" (lit 0)) :=
    congrArg (_ ++ ·) hgains
  have hmessages : hashedMessages sampleBaseText samplePlantText minusCandidate.overlays =
      hashedMessages sampleBaseText samplePlantText plusCandidate.overlays := by
    simp only [hashedMessages, plusCandidate, minusCandidate, sampleCandidate, HashChain.links,
      hlink]
  have hsha : ∀ m ∈ hashedMessages sampleBaseText samplePlantText plusCandidate.overlays,
      ∀ m' ∈ hashedMessages sampleBaseText samplePlantText minusCandidate.overlays,
        Sha256.digest m = Sha256.digest m' → m = m' := by
    rw [hmessages]
    exact fun m hm m' hm' => List.inj_on_of_nodup_map plusDigests_nodup hm hm'
  have hlineage : plusResolved.identity.lineage = minusResolved.identity.lineage := by
    simp only [plusResolved, minusResolved, sampleResolved, sampleCandidate, lineageDigest,
      HashChain.chain, List.foldl_cons, List.foldl_nil, hlink]
  refine lineage_faithful ?_ plus_accepted minus_accepted (if_pos rfl) minus_fromStr rfl rfl hsha
    hlineage
  intro text preset htext
  have hsample : text = sampleBaseText := by
    by_contra hne
    cases (if_neg hne).symm.trans htext
  rw [hsample]
  decide +kernel

end Zeros

end Config

end Aviate
