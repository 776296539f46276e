import Aviate.Security.Gateway

/-!
# The anchor of the plausibility ceiling

A gateway with a real-time clock seed measures elapsed time from an anchor that it takes
at the first claim of a bound principal, whether or not it accepts that claim.

Results:
1. `run_epochNowUs` says when the anchor is taken: it is the time of the first claim of a
   bound principal.
2. A counter is refused as implausibly ahead if and only if it exceeds what the time since
   the anchor justifies (`ahead_iff`). A clock that was right at construction is not
   enough (`correct_clock_refused_after_idle`).
3. A refused claim goes unnoticed by every later sequence if and only if it does not take
   an anchor that matters (`rejected_unnoticed_iff`).
-/

namespace Aviate.Security

variable {C : Type}

namespace CommandGateway

variable {g g' : CommandGateway} {policy : SourcePolicy} {freshness : FreshnessConfig}
  {cmd : AuthenticatedCommand C} {now : UInt64} {err : AuthError} {ops : List (GatewayOp C)}

/-! ## When the anchor is taken -/

/-- The time of a claim whose principal the policy binds. -/
def boundAt (policy : SourcePolicy) : GatewayOp C → Option UInt64
  | .admitCommand command nowUs =>
    if (policy.resolve command.principal).isSome then some nowUs else none
  | .beginAuthorityEpoch => none

/-- The time of the first claim of a run whose principal the policy binds. -/
def firstBoundAt (policy : SourcePolicy) (ops : List (GatewayOp C)) : Option UInt64 :=
  ops.findSome? (boundAt policy)

/-- The gateway measures time from an anchor. -/
def Anchors (g : CommandGateway) : Prop := g.freshness.initialTrustedCounter.boundsTheFuture = true

instance (g : CommandGateway) : Decidable g.Anchors := inferInstanceAs (Decidable (_ = _))

theorem plausibleCeiling_of_anchors (h : g.Anchors) :
    g.plausibleCeiling now = ({ g with epochNowUs := some (g.epochNowUs.getD now) },
      some (g.ceilingFrom (g.epochNowUs.getD now) now)) := by
  unfold plausibleCeiling
  exact if_pos h

theorem plausibleCeiling_of_not_anchors (h : ¬g.Anchors) : g.plausibleCeiling now = (g, none) := by
  unfold plausibleCeiling
  exact if_neg h

/-- The state a claim of a bound principal leaves: the anchor is asked for first, then the
window may accept. -/
theorem admit_fst (now : UInt64) (h : (g.sourcePolicy.resolve cmd.principal).isSome) :
    ∃ w', (g.admitCommand cmd now).1 = { (g.plausibleCeiling now).1 with antiReplay := w' } := by
  cases hclaim : g.admitCommand cmd now with
  | mk g' result =>
    cases result with
    | ok v =>
      obtain ⟨source, w', -, -, rfl⟩ := admit_ok hclaim
      exact ⟨w', rfl⟩
    | error err =>
      rcases admit_error hclaim with ⟨hnone, -, -⟩ | ⟨-, -, rfl⟩
      · simp [hnone] at h
      · exact ⟨(g.plausibleCeiling now).1.antiReplay, rfl⟩

/-- A claim of an unbound principal changes nothing. -/
theorem admit_unbound (h : g.sourcePolicy.resolve cmd.principal = none) :
    g.admitCommand cmd now = (g, .error .unauthorizedSource) := by
  unfold admitCommand
  rw [h]

/-- One step takes the anchor at a claim of a bound principal, when there is none yet. -/
theorem step_epochNowUs (g : CommandGateway) (op : GatewayOp C) :
    ((machine C).step g op).1.epochNowUs =
      if g.Anchors then g.epochNowUs.or (boundAt g.sourcePolicy op) else g.epochNowUs := by
  cases op with
  | beginAuthorityEpoch => simp [machine, step, beginAuthorityEpoch, boundAt]
  | admitCommand cmd now =>
    show (g.admitCommand cmd now).1.epochNowUs = _
    cases hsource : g.sourcePolicy.resolve cmd.principal with
    | none => simp [admit_unbound hsource, boundAt, hsource]
    | some source =>
      obtain ⟨w', hstate⟩ := admit_fst now (Option.isSome_iff_exists.mpr ⟨source, hsource⟩)
      rw [hstate]
      split
      · rename_i hg
        simp only [plausibleCeiling_of_anchors hg, boundAt, hsource, Option.isSome_some, if_true]
        cases g.epochNowUs <;> rfl
      · rename_i hg
        rw [plausibleCeiling_of_not_anchors hg]

/-- The anchor of a run is the time of its first claim of a bound principal. -/
theorem run_epochNowUs (g : CommandGateway) (ops : List (GatewayOp C)) :
    ((machine C).run g ops).epochNowUs =
      if g.Anchors then g.epochNowUs.or (firstBoundAt g.sourcePolicy ops) else g.epochNowUs := by
  induction ops generalizing g with
  | nil => simp [firstBoundAt]
  | cons op ops ih =>
    obtain ⟨hpolicy, hfreshness⟩ := step_config g op
    have hanchors : ((machine C).step g op).1.Anchors ↔ g.Anchors := by
      rw [Anchors, hfreshness, Anchors]
    rw [Machine.run_cons, ih, hpolicy, step_epochNowUs]
    simp only [hanchors, firstBoundAt, List.findSome?_cons]
    split
    · cases g.epochNowUs with
      | some t => rfl
      | none => cases boundAt g.sourcePolicy op <;> rfl
    · rfl

section After

variable (policy freshness ops)

theorem after_epochNowUs : (after policy freshness ops).epochNowUs =
    if freshness.initialTrustedCounter.boundsTheFuture = true then firstBoundAt policy ops
    else none :=
  run_epochNowUs (.new policy freshness) ops

theorem after_config :
    (after policy freshness ops).sourcePolicy = policy ∧
      (after policy freshness ops).freshness = freshness :=
  Machine.run_invariant (I := fun g => g.sourcePolicy = policy ∧ g.freshness = freshness)
    (fun g op hg => ⟨(step_config g op).1.trans hg.1, (step_config g op).2.trans hg.2⟩) ⟨rfl, rfl⟩

end After

/-- A step without a claim of a bound principal leaves the window as it is. -/
theorem step_antiReplay_of_unbound {op : GatewayOp C} (h : boundAt g.sourcePolicy op = none) :
    ((machine C).step g op).1.antiReplay = g.antiReplay := by
  cases op with
  | beginAuthorityEpoch => rfl
  | admitCommand cmd now =>
    show (g.admitCommand cmd now).1.antiReplay = _
    cases hsource : g.sourcePolicy.resolve cmd.principal with
    | none => rw [admit_unbound hsource]
    | some source => simp [boundAt, hsource] at h

/-- So does a run. -/
theorem run_antiReplay_of_unbound (g : CommandGateway)
    (h : firstBoundAt g.sourcePolicy ops = none) :
    ((machine C).run g ops).antiReplay = g.antiReplay := by
  induction ops generalizing g with
  | nil => rfl
  | cons op ops ih =>
    rw [firstBoundAt, List.findSome?_cons] at h
    cases hop : boundAt g.sourcePolicy op with
    | some t => simp [hop] at h
    | none =>
      rw [hop] at h
      have hrest := ih ((machine C).step g op).1 (by rwa [(step_config g op).1])
      rw [Machine.run_cons, hrest, step_antiReplay_of_unbound hop]

theorem after_antiReplay_of_unbound (h : firstBoundAt policy ops = none) :
    (after policy freshness ops).antiReplay =
      .new freshness.initialTrustedCounter.value freshness.newStreamMaxAge :=
  run_antiReplay_of_unbound (.new policy freshness) h

/-! ## The ceiling -/

/-- The ceiling as a number. -/
theorem toNat_ceilingFrom (g : CommandGateway) (anchor now : UInt64) :
    (g.ceilingFrom anchor now).toNat =
      min (g.freshness.initialTrustedCounter.value.toNat +
        (now.toNat - anchor.toNat) / max g.freshness.counterTickUs.toNat 1 +
        g.freshness.maxSkew.toNat) (2 ^ 64 - 1) := by
  unfold ceilingFrom
  simp only [UInt64.toNat_saturatingAdd, UInt64.toNat_div, UInt64.toNat_saturatingSub,
    UInt64.toNat_max, UInt64.toNat_one]
  omega

/-- A claim is refused as implausibly ahead when its principal is bound and its counter is
above the ceiling. -/
theorem admit_ahead_iff :
    (∃ c x, (g.admitCommand cmd now).2 = .error (.counterImplausiblyAhead c x)) ↔
      (g.sourcePolicy.resolve cmd.principal).isSome ∧
        ∃ x, (g.plausibleCeiling now).2 = some x ∧ x < cmd.counter := by
  cases hsource : g.sourcePolicy.resolve cmd.principal with
  | none => simp [admit_unbound hsource]
  | some source =>
    have hresult : ∀ c x, (g.admitCommand cmd now).2 = .error (.counterImplausiblyAhead c x) ↔
        (g.antiReplay.checkAndUpdate cmd.principal cmd.counter (g.plausibleCeiling now).2).2 =
          .error (.counterImplausiblyAhead c x) := by
      intro c x
      unfold admitCommand
      simp only [hsource, plausibleCeiling_antiReplay]
      cases (g.antiReplay.checkAndUpdate cmd.principal cmd.counter
        (g.plausibleCeiling now).2).2 with
      | error err => simp
      | ok u => simp
    simp only [hresult, AntiReplayWindow.checkAndUpdate_ahead_iff, Option.isSome_some, true_and]
    exact ⟨fun ⟨c, x, hx, hlt, _⟩ => ⟨x, hx, hlt⟩, fun ⟨x, hx, hlt⟩ => ⟨_, x, hx, hlt, rfl⟩⟩

/-- After any history, a claim is refused as implausibly ahead if and only if its principal
is bound and its counter exceeds the seed by more than the tolerated skew and the time
since the first claim of a bound principal. -/
theorem ahead_iff (policy : SourcePolicy) (seed maxAge tick skew : UInt64)
    (ops : List (GatewayOp C)) (cmd : AuthenticatedCommand C) (now : UInt64) :
    (∃ c x, ((after policy ⟨.rtc seed, maxAge, tick, skew⟩ ops).admitCommand cmd now).2 =
      .error (.counterImplausiblyAhead c x)) ↔
    (policy.resolve cmd.principal).isSome ∧
      seed.toNat + (now.toNat - ((firstBoundAt policy ops).getD now).toNat) / max tick.toNat 1 +
        skew.toNat < cmd.counter.toNat := by
  obtain ⟨hpolicy, hfreshness⟩ := after_config policy
    ⟨.rtc seed, maxAge, tick, skew⟩ ops
  have hanchors : (after policy ⟨.rtc seed, maxAge, tick, skew⟩ ops).Anchors := by
    rw [Anchors, hfreshness]
    rfl
  have hepoch : (after policy ⟨.rtc seed, maxAge, tick, skew⟩ ops).epochNowUs =
      firstBoundAt policy ops := after_epochNowUs ..
  rw [admit_ahead_iff, hpolicy, plausibleCeiling_of_anchors hanchors, hepoch]
  refine and_congr_right fun _ => ?_
  simp only [Option.some.injEq, exists_eq_left', UInt64.lt_iff_toNat_lt, toNat_ceilingFrom,
    hfreshness, TrustedCounter.value]
  have hlt := cmd.counter.toNat_lt
  omega

/-- A gateway seeded by a clock that is right at time 0, and a station whose clock is right
too. The station's first command comes after two minutes, twice the tolerated skew: it is
refused as implausibly ahead. -/
theorem correct_clock_refused_after_idle :
    let now : UInt64 := 120000000
    let cmd : AuthenticatedCommand Unit := ⟨.mavlink 1 1 5, 1000000000 + now / 10, ()⟩
    cmd.counter.toNat ≤ 1000000000 + (now.toNat - 0) / 10 + newStreamMaxAge10Us.toNat ∧
    ((CommandGateway.new stationPolicy (clockFreshness 1000000000)).admitCommand cmd now).2 =
      .error (.counterImplausiblyAhead cmd.counter (1000000000 + newStreamMaxAge10Us)) := by
  decide

/-! ## Refused claims -/

/-- Whether an event accepted a claim. -/
def admitted (e : Event C) : Bool := (accepted e).isSome

/-- Every later sequence meets the same verdicts and leaves the same exported counter from
either state. -/
def Unnoticed (C : Type) (g g' : CommandGateway) : Prop := ∀ later : List (GatewayOp C),
  ((machine C).trace g later).map admitted = ((machine C).trace g' later).map admitted ∧
  ((machine C).run g later).localFreshnessCounter = ((machine C).run g' later).localFreshnessCounter

/-- The claim takes the anchor of a ceiling that can refuse something: the seed is a
real-time clock, no claim of a bound principal came before, this one's principal is bound,
and the ceiling does not start saturated. -/
def TakesAnchor (policy : SourcePolicy) (freshness : FreshnessConfig) (ops : List (GatewayOp C))
    (cmd : AuthenticatedCommand C) : Prop :=
  freshness.initialTrustedCounter.boundsTheFuture = true ∧ firstBoundAt policy ops = none ∧
  (policy.resolve cmd.principal).isSome ∧
  freshness.initialTrustedCounter.value.toNat + freshness.maxSkew.toNat < 2 ^ 64 - 1

instance (policy : SourcePolicy) (freshness : FreshnessConfig) (ops : List (GatewayOp C))
    (cmd : AuthenticatedCommand C) : Decidable (TakesAnchor policy freshness ops cmd) :=
  inferInstanceAs (Decidable (_ ∧ _ ∧ _ ∧ _))

/-- The two gateways differ at most in the anchor of a ceiling that never refuses. -/
structure SaturatedTwin (g g' : CommandGateway) : Prop where
  anchors : g.Anchors
  saturated : 2 ^ 64 - 1 ≤
    g.freshness.initialTrustedCounter.value.toNat + g.freshness.maxSkew.toNat
  twin : g' = { g with epochNowUs := g'.epochNowUs }

/-- A saturated ceiling is the largest counter. -/
theorem ceilingFrom_saturated (h : 2 ^ 64 - 1 ≤
    g.freshness.initialTrustedCounter.value.toNat + g.freshness.maxSkew.toNat)
    (anchor now : UInt64) : g.ceilingFrom anchor now = .ofNat (2 ^ 64 - 1) := by
  apply UInt64.toNat_inj.mp
  rw [toNat_ceilingFrom]
  generalize (now.toNat - anchor.toNat) / max g.freshness.counterTickUs.toNat 1 = elapsed
  show _ = 2 ^ 64 - 1
  omega

/-- A claim is treated alike by twins. -/
theorem SaturatedTwin.admitCommand (h : SaturatedTwin g g') (cmd : AuthenticatedCommand C)
    (now : UInt64) :
    SaturatedTwin (g.admitCommand cmd now).1 (g'.admitCommand cmd now).1 ∧
      (g.admitCommand cmd now).2 = (g'.admitCommand cmd now).2 := by
  obtain ⟨hanchors, hsat, htwin⟩ := h
  have hceil := ceilingFrom_saturated hsat
  generalize g'.epochNowUs = epoch at htwin
  subst htwin
  have hanchors' : ({ g with epochNowUs := epoch } : CommandGateway).Anchors := hanchors
  have hceil' : ∀ anchor now, ({ g with epochNowUs := epoch } : CommandGateway).ceilingFrom anchor
      now = .ofNat (2 ^ 64 - 1) := fun anchor now => hceil anchor now
  unfold CommandGateway.admitCommand
  rw [plausibleCeiling_of_anchors hanchors, plausibleCeiling_of_anchors hanchors', hceil, hceil']
  cases hsource : g.sourcePolicy.resolve cmd.principal with
  | none => exact ⟨⟨hanchors, hsat, rfl⟩, rfl⟩
  | some source =>
    simp only
    generalize g.antiReplay.checkAndUpdate cmd.principal cmd.counter _ = checked
    obtain ⟨w', result⟩ := checked
    cases result with
    | error err => exact ⟨⟨hanchors, hsat, rfl⟩, rfl⟩
    | ok u => exact ⟨⟨hanchors, hsat, rfl⟩, rfl⟩

/-- Twins stay twins and meet the same verdicts. -/
theorem SaturatedTwin.step (h : SaturatedTwin g g') (op : GatewayOp C) :
    SaturatedTwin ((machine C).step g op).1 ((machine C).step g' op).1 ∧
      admitted ((machine C).event g op) = admitted ((machine C).event g' op) := by
  cases op with
  | beginAuthorityEpoch =>
    obtain ⟨hanchors, hsat, htwin⟩ := h
    refine ⟨⟨hanchors, hsat, ?_⟩, rfl⟩
    show g'.beginAuthorityEpoch = _
    rw [htwin]
    rfl
  | admitCommand cmd now =>
    obtain ⟨htwin, hresult⟩ := h.admitCommand cmd now
    refine ⟨htwin, ?_⟩
    show (accepted ⟨g, .admitCommand cmd now, .admission (g.admitCommand cmd now).2, _⟩).isSome =
      (accepted ⟨g', .admitCommand cmd now, .admission (g'.admitCommand cmd now).2, _⟩).isSome
    rw [hresult]
    cases (g'.admitCommand cmd now).2 <;> rfl

theorem SaturatedTwin.unnoticed (h : SaturatedTwin g g') : Unnoticed C g g' := by
  intro later
  induction later generalizing g g' with
  | nil =>
    refine ⟨rfl, ?_⟩
    show g.antiReplay.highWater = g'.antiReplay.highWater
    rw [h.twin]
  | cons op later ih =>
    obtain ⟨hnext, hverdict⟩ := h.step op
    obtain ⟨hverdicts, hcounter⟩ := ih hnext
    refine ⟨?_, hcounter⟩
    rw [Machine.trace_cons, Machine.trace_cons, List.map_cons, List.map_cons, hverdict, hverdicts]

/-- No claim has reached the window of a gateway whose ceiling can refuse something. -/
structure Untouched (g : CommandGateway) (p : Principal) : Prop where
  anchors : g.Anchors
  window : ∃ maxAge, g.antiReplay = .new g.freshness.initialTrustedCounter.value maxAge
  bound : (g.sourcePolicy.resolve p).isSome
  room : g.freshness.initialTrustedCounter.value.toNat + g.freshness.maxSkew.toNat < 2 ^ 64 - 1

/-- The least counter that the ceiling refuses at the anchor. -/
def firstBeyond (g : CommandGateway) : UInt64 :=
  .ofNat (g.freshness.initialTrustedCounter.value.toNat + g.freshness.maxSkew.toNat + 1)

theorem admitted_iff {t : UInt64} :
    admitted ((machine C).event g (.admitCommand cmd t)) = true ↔
      ∃ v, (g.admitCommand cmd t).2 = .ok v := by
  show (accepted ⟨g, .admitCommand cmd t, .admission (g.admitCommand cmd t).2, _⟩).isSome = true ↔ _
  cases (g.admitCommand cmd t).2 with
  | error err => simp [accepted]
  | ok v => simp [accepted]

/-- A claim of a bound principal is admitted when the window accepts its counter. -/
theorem admit_ok_iff (cmd : AuthenticatedCommand C) (t : UInt64)
    (hbound : (g.sourcePolicy.resolve cmd.principal).isSome) :
    (∃ v, (g.admitCommand cmd t).2 = .ok v) ↔
      (g.antiReplay.checkAndUpdate cmd.principal cmd.counter
        (g.plausibleCeiling t).2).2 = .ok () := by
  obtain ⟨source, hsource⟩ := Option.isSome_iff_exists.mp hbound
  unfold admitCommand
  simp only [hsource, plausibleCeiling_antiReplay]
  cases (g.antiReplay.checkAndUpdate cmd.principal cmd.counter (g.plausibleCeiling t).2).2 with
  | error err => simp
  | ok u => simp

/-- The first counter beyond the ceiling is admitted one tick after the anchor. -/
theorem Untouched.admits_beyond_iff {p : Principal} (h : g.Untouched p) (x : C) (t : UInt64) :
    admitted ((machine C).event g (.admitCommand ⟨p, g.firstBeyond, x⟩ t)) = true ↔
      max g.freshness.counterTickUs.toNat 1 ≤ t.toNat - (g.epochNowUs.getD t).toNat := by
  obtain ⟨hanchors, ⟨maxAge, hwindow⟩, hbound, hroom⟩ := h
  have hbeyond : g.firstBeyond.toNat =
      g.freshness.initialTrustedCounter.value.toNat + g.freshness.maxSkew.toNat + 1 := by
    show (UInt64.ofNat _).toNat = _
    rw [UInt64.toNat_ofNat']
    omega
  have hpos : g.firstBeyond ≠ 0 := by
    intro hzero
    rw [hzero, UInt64.toNat_zero] at hbeyond
    omega
  have hseed : g.freshness.initialTrustedCounter.value ≤ g.firstBeyond := by
    rw [UInt64.le_iff_toNat_le, hbeyond]
    omega
  rw [admitted_iff, admit_ok_iff _ _ hbound, hwindow, plausibleCeiling_of_anchors hanchors]
  rw [AntiReplayWindow.new_accepts_iff hpos hseed, UInt64.le_iff_toNat_le, hbeyond,
    toNat_ceilingFrom]
  have htick : 0 < max g.freshness.counterTickUs.toNat 1 := by omega
  rw [← Nat.one_le_div_iff htick]
  omega

/-- A claim with the counter 0 takes the anchor and nothing else. -/
theorem Untouched.admit_zero {p : Principal} (h : g.Untouched p) (x : C) (t : UInt64) :
    ((machine C).step g (.admitCommand ⟨p, 0, x⟩ t)).1 =
      { g with epochNowUs := some (g.epochNowUs.getD t) } := by
  obtain ⟨hanchors, ⟨maxAge, hwindow⟩, hbound, -⟩ := h
  show (g.admitCommand ⟨p, 0, x⟩ t).1 = _
  cases hclaim : g.admitCommand ⟨p, 0, x⟩ t with
  | mk g' result =>
    cases result with
    | ok v =>
      have hok := (admit_ok_iff ⟨p, 0, x⟩ t hbound).mp ⟨v, by rw [hclaim]⟩
      obtain ⟨err, herr⟩ := AntiReplayWindow.new_refuses_zero
        g.freshness.initialTrustedCounter.value maxAge p (g.plausibleCeiling t).2
      rw [hwindow, herr] at hok
      cases hok
    | error err =>
      rcases admit_error hclaim with ⟨hnone, -, -⟩ | ⟨-, -, rfl⟩
      · simp [show g.sourcePolicy.resolve p = none from hnone] at hbound
      · rw [plausibleCeiling_of_anchors hanchors]

/-- An anchor taken early is noticed: some later sequence meets another verdict. -/
theorem Untouched.anchor_noticed {p : Principal} (h : g.Untouched p) (hnone : g.epochNowUs = none)
    (x : C) (now : UInt64) : ¬Unnoticed C g { g with epochNowUs := some now } := by
  intro hsame
  have hanchored : ({ g with epochNowUs := some now } : CommandGateway).Untouched p :=
    ⟨h.1, h.2, h.3, h.4⟩
  have hnow := now.toNat_lt
  have htick := g.freshness.counterTickUs.toNat_lt
  by_cases hfits : now.toNat + max g.freshness.counterTickUs.toNat 1 < 2 ^ 64
  · -- One tick after `now` only the anchored gateway admits the counter.
    have hverdict := (hsame [.admitCommand ⟨p, g.firstBeyond, x⟩
      (.ofNat (now.toNat + max g.freshness.counterTickUs.toNat 1))]).1
    simp only [Machine.trace_cons, Machine.trace_nil, List.map_cons, List.map_nil, List.cons.injEq,
      and_true] at hverdict
    rw [Bool.eq_iff_iff, h.admits_beyond_iff, hnone] at hverdict
    have hlate := (hanchored.admits_beyond_iff x
      (.ofNat (now.toNat + max g.freshness.counterTickUs.toNat 1))).mpr (by
        simp only [Option.getD_some, UInt64.toNat_ofNat']
        omega)
    have hearly := hverdict.mpr hlate
    simp only [Option.getD_none] at hearly
    omega
  · -- The clock cannot pass `now` by a tick; a claim at time 0 anchors only the other gateway.
    have hverdict := (hsame [.admitCommand ⟨p, 0, x⟩ 0, .admitCommand ⟨p, g.firstBeyond, x⟩
      (.ofNat (max g.freshness.counterTickUs.toNat 1))]).1
    simp only [Machine.trace_cons, Machine.trace_nil, List.map_cons, List.map_nil, List.cons.injEq,
      and_true] at hverdict
    replace hverdict := Bool.eq_iff_iff.mp hverdict.2
    rw [h.admit_zero, hanchored.admit_zero, hnone] at hverdict
    simp only [Option.getD_none, Option.getD_some] at hverdict
    have hzero : ({ g with epochNowUs := some 0 } : CommandGateway).Untouched p :=
      ⟨h.1, h.2, h.3, h.4⟩
    have hearly := (hzero.admits_beyond_iff x
      (.ofNat (max g.freshness.counterTickUs.toNat 1))).mpr (by
      simp only [Option.getD_some, UInt64.toNat_ofNat', UInt64.toNat_zero]
      omega)
    have hlate := (hanchored.admits_beyond_iff x
      (.ofNat (max g.freshness.counterTickUs.toNat 1))).mp (hverdict.mp hearly)
    simp only [Option.getD_some, UInt64.toNat_ofNat'] at hlate
    omega

/-- A refused claim goes unnoticed by every later sequence if and only if it does not take
an anchor that matters. -/
theorem rejected_unnoticed_iff (policy : SourcePolicy) (freshness : FreshnessConfig)
    (ops : List (GatewayOp C)) (cmd : AuthenticatedCommand C) (now : UInt64) (err : AuthError)
    (hrejected : ((after policy freshness ops).admitCommand cmd now).2 = .error err) :
    Unnoticed C (after policy freshness ops) ((after policy freshness ops).admitCommand cmd now).1 ↔
      ¬TakesAnchor policy freshness ops cmd := by
  obtain ⟨hpolicy, hfreshness⟩ := after_config policy freshness ops
  have hepoch := after_epochNowUs policy freshness ops
  have hwindow : firstBoundAt policy ops = none → (after policy freshness ops).antiReplay = _ :=
    after_antiReplay_of_unbound
  generalize after policy freshness ops = g at *
  subst hpolicy hfreshness
  have hclaim : g.admitCommand cmd now = ((g.admitCommand cmd now).1, .error err) :=
    Prod.ext rfl hrejected
  rcases admit_error hclaim with ⟨hunbound, -, hsame⟩ | ⟨hbound, -, hasked⟩
  · rw [hsame]
    refine iff_of_true (fun later => ⟨rfl, rfl⟩) fun h => ?_
    have hbound := h.2.2.1
    rw [hunbound] at hbound
    cases hbound
  · rw [hasked]
    constructor
    · intro hsame htakes
      obtain ⟨hanchors, hfirst, -, hroom⟩ := htakes
      rw [if_pos hanchors, hfirst] at hepoch
      rw [plausibleCeiling_of_anchors hanchors, hepoch] at hsame
      have huntouched : g.Untouched cmd.principal :=
        ⟨hanchors, ⟨_, hwindow hfirst⟩, hbound, hroom⟩
      exact huntouched.anchor_noticed hepoch cmd.command now hsame
    · intro hnot
      by_cases hanchors : g.Anchors
      · rw [plausibleCeiling_of_anchors hanchors]
        rw [if_pos (show _ = true from hanchors)] at hepoch
        cases hfirst : firstBoundAt g.sourcePolicy ops with
        | some t =>
          have hsame :
              ({ g with epochNowUs := some (g.epochNowUs.getD now) } : CommandGateway) = g := by
            rw [hepoch, hfirst, Option.getD_some, ← hfirst, ← hepoch]
          exact hsame ▸ fun later => ⟨rfl, rfl⟩
        | none =>
          have hsat := Nat.le_of_not_lt fun hroom => hnot ⟨hanchors, hfirst, hbound, hroom⟩
          exact SaturatedTwin.unnoticed ⟨hanchors, hsat, rfl⟩
      · rw [plausibleCeiling_of_not_anchors hanchors]
        exact fun later => ⟨rfl, rfl⟩

theorem rejected_unnoticed_after_first :
    let ops : List (GatewayOp Unit) := [.admitCommand ⟨.mavlink 1 1 5, 1000000001, ()⟩ 0]
    let g := after stationPolicy (clockFreshness 1000000000) ops
    Unnoticed Unit g
      (g.admitCommand (⟨.mavlink 1 1 5, 1000000001, ()⟩ : AuthenticatedCommand Unit) 10).1 :=
  (rejected_unnoticed_iff stationPolicy (clockFreshness 1000000000)
    [.admitCommand ⟨.mavlink 1 1 5, 1000000001, ()⟩ 0] ⟨.mavlink 1 1 5, 1000000001, ()⟩ 10
    .replayAttack (by decide)).mpr (by decide)

/-- A claim with a clock a year ahead is refused at time 0. Because of it a command sent two
minutes later is admitted, which the gateway would have refused. -/
theorem rejected_claim_noticed :
    let g := CommandGateway.new stationPolicy (clockFreshness 1000000000)
    let bad : AuthenticatedCommand Unit := ⟨.mavlink 1 1 5, 1000000000 + 3153600000000, ()⟩
    (g.admitCommand bad 0).2 =
      .error (.counterImplausiblyAhead bad.counter (1000000000 + newStreamMaxAge10Us)) ∧
    ((g.admitCommand bad 0).1.admitCommand
      (⟨.mavlink 1 1 5, 1012000000, ()⟩ : AuthenticatedCommand Unit) 120000000).2.isOk = true ∧
    (g.admitCommand
      (⟨.mavlink 1 1 5, 1012000000, ()⟩ : AuthenticatedCommand Unit) 120000000).2.isOk = false ∧
    ¬Unnoticed Unit g (g.admitCommand bad 0).1 := by
  refine ⟨by decide, by decide, by decide, fun h => ?_⟩
  exact absurd (h [.admitCommand ⟨.mavlink 1 1 5, 1012000000, ()⟩ 120000000]).1 (by decide)

end CommandGateway

end Aviate.Security
