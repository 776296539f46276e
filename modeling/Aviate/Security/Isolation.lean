import Aviate.Foundations.Noninterference
import Aviate.Security.Replay

/-!
# Principals do not interfere

All principals share one replay table, one high-water mark and one freshness floor. Yet
what a gateway answers to a principal rests on that principal's own `Standing` alone:
the authority it is bound to, its last accepted counter and the floor, which never
moves. A clock in the seed would add the anchor, which any bound principal can set.

Results:
1. A gateway without a clock answers a claim as the sender's standing judges it
   (`admit_judge`).
2. A claim advances the standing of its sender only (`standing_claim`).
3. What a run answers to a principal is fixed by that principal's own claims
   (`admission_noninterference`).
-/

namespace Aviate.Security

variable {C : Type}

/-! ## The standing of one principal -/

/-- What a gateway knows that bears on the claims of one principal. -/
structure Standing where
  source : Option CommandSource
  last : Option UInt64
  floor : UInt64
  maxAge : UInt64
deriving DecidableEq, Repr

namespace Standing

/-- The check of a counter against the principal's own stream, or against the floor for a
stream not seen before. -/
def check (s : Standing) (counter : UInt64) : Except AuthError Unit :=
  match s.last with
  | some last => if counter ≤ last then .error .replayAttack else .ok ()
  | none =>
    if counter = 0 then .error .replayAttack
    else if counter < s.floor.saturatingSub s.maxAge then .error (.staleNewStream counter s.floor)
    else .ok ()

/-- What a claim with this counter is answered. -/
def judge (s : Standing) (counter : UInt64) : Except AuthError CommandSource :=
  match s.source with
  | none => .error .unauthorizedSource
  | some source => (s.check counter).map fun _ => source

/-- The standing after a claim with this counter. -/
def advance (s : Standing) (counter : UInt64) : Standing :=
  match s.judge counter with
  | .ok _ => { s with last := some counter }
  | .error _ => s

end Standing

/-- The verified command minted for an admitted claim. -/
def AuthenticatedCommand.stamp (cmd : AuthenticatedCommand C) (epoch : UInt32) (nowUs : UInt64)
    (source : CommandSource) : VerifiedSystemCommand C where
  command := cmd.command
  receipt :=
    { source := source
      authorityEpoch := epoch
      sequence := cmd.counter
      receivedAtUs := nowUs
      expiresAtUs := none }

namespace AntiReplayWindow

variable {w : AntiReplayWindow} {p q : Principal} {c : UInt64}

/-- The last accepted counter of a principal, if it has a stream. -/
def stream (w : AntiReplayWindow) (p : Principal) : Option UInt64 :=
  (w.slots.lookup Slot.principal p).map Slot.lastCounter

/-- With a free slot the verdict on a counter is that of the principal's own standing. -/
theorem checkStream_verdict (hfree : ∃ i, w.slots.firstFree = some i)
    (source : Option CommandSource) :
    (w.checkStream p c).2 =
      Standing.check ⟨source, w.stream p, w.freshnessFloor, w.newStreamMaxAge⟩ c := by
  unfold checkStream Standing.check stream
  cases hfind : w.find p with
  | some i =>
    obtain ⟨s, hs, -⟩ := find_spec hfind
    simp only [hs, lookup_of_find hfind, Option.map_some]
    split <;> rfl
  | none =>
    obtain ⟨i, hi⟩ := hfree
    have hnone : w.slots.lookup Slot.principal p = none := SlotTable.lookup_eq_none_iff.mpr hfind
    simp only [hnone, Option.map_none, hi]
    split
    · rfl
    · split <;> rfl

/-- An accepted counter becomes the stream of its principal and leaves the others. -/
theorem Accepts.stream {w' : AntiReplayWindow} (h : w.Accepts p c w') :
    w'.stream q = if q = p then some c else w.stream q := by
  unfold AntiReplayWindow.stream
  rw [h.lookup]
  split <;> rfl

end AntiReplayWindow

namespace CommandGateway

variable {g g' : CommandGateway} {cmd : AuthenticatedCommand C} {now : UInt64} {p : Principal}

/-- The standing of a principal with a gateway. -/
def standing (g : CommandGateway) (p : Principal) : Standing where
  source := g.sourcePolicy.resolve p
  last := g.antiReplay.stream p
  floor := g.antiReplay.freshnessFloor
  maxAge := g.antiReplay.newStreamMaxAge

/-- The gateway has no clock in its seed, tracks only bound principals and has room for
another. -/
structure Clockless (g : CommandGateway) : Prop where
  noClock : g.freshness.initialTrustedCounter.boundsTheFuture = false
  tracks : g.antiReplay.Tracks g.sourcePolicy.boundPrincipals

theorem Clockless.exists_free (hg : g.Clockless) : ∃ i, g.antiReplay.slots.firstFree = some i :=
  hg.tracks.exists_free
    (Nat.lt_of_le_of_lt g.sourcePolicy.boundPrincipals_length_le (by decide))

theorem Clockless.plausibleCeiling (hg : g.Clockless) : g.plausibleCeiling now = (g, none) := by
  unfold CommandGateway.plausibleCeiling
  simp [hg.noClock]

theorem step_clockless (g : CommandGateway) (op : GatewayOp C) (hg : g.Clockless) :
    ((machine C).step g op).1.Clockless := by
  obtain ⟨hpolicy, hfreshness⟩ := step_config g op
  refine ⟨hfreshness ▸ hg.noClock, ?_⟩
  rw [hpolicy]
  exact (step_tracks g op ⟨rfl, hg.tracks⟩).2

/-! ## What one claim does -/

/-- A gateway without a clock answers a claim as the standing of its sender judges it. -/
theorem admit_judge (hg : g.Clockless) :
    (g.admitCommand cmd now).2 =
      ((g.standing cmd.principal).judge cmd.counter).map (cmd.stamp g.authorityEpoch now) := by
  unfold admitCommand Standing.judge
  cases hsource : g.sourcePolicy.resolve cmd.principal with
  | none => simp only [standing, hsource, Except.map]
  | some source =>
    have hverdict := AntiReplayWindow.checkStream_verdict (p := cmd.principal) (c := cmd.counter)
      hg.exists_free (some source)
    have hcheck : (g.standing cmd.principal).check cmd.counter =
        (g.antiReplay.checkStream cmd.principal cmd.counter).2 := by
      rw [hverdict, standing, hsource]
    simp only [hg.plausibleCeiling, AntiReplayWindow.checkAndUpdate, hcheck]
    simp only [standing, hsource]
    cases (g.antiReplay.checkStream cmd.principal cmd.counter).2 with
    | ok _ => rfl
    | error err => rfl

/-- A claim advances the standing of its sender and no other. -/
theorem standing_claim (hg : g.Clockless) (q : Principal) :
    ((g.admitCommand cmd now).1.standing q) =
      if q = cmd.principal then (g.standing q).advance cmd.counter else g.standing q := by
  have hjudge : (g.admitCommand cmd now).2 = _ := admit_judge hg
  cases hclaim : g.admitCommand cmd now with
  | mk g' result =>
    rw [hclaim] at hjudge
    simp only at hjudge
    cases result with
    | ok v =>
      obtain ⟨source, w', hsource, haccepts, rfl⟩ := admit_ok hclaim
      obtain ⟨hfloor, hage, -⟩ := haccepts.marks
      have hstanding : ({ (g.plausibleCeiling now).1 with antiReplay := w' } :
          CommandGateway).standing q =
            { g.standing q with last := w'.stream q } := by
        rw [hg.plausibleCeiling]
        simp only [standing, hfloor, hage]
      simp only [hstanding, haccepts.stream]
      split
      · rename_i hq
        subst hq
        cases hj : (g.standing cmd.principal).judge cmd.counter with
        | error err => simp [hj, Except.map] at hjudge
        | ok source => simp only [Standing.advance, hj]
      · rfl
    | error err =>
      have hsame : g' = g := by
        rcases admit_error hclaim with ⟨-, -, rfl⟩ | ⟨-, -, rfl⟩
        · rfl
        · rw [hg.plausibleCeiling]
      subst hsame
      split
      · rename_i hq
        subst hq
        cases hj : (g'.standing cmd.principal).judge cmd.counter with
        | error err => simp only [Standing.advance, hj]
        | ok source => simp [hj, Except.map] at hjudge
      · rfl

/-- A claim does not touch the authority epoch. -/
theorem admit_epoch (g : CommandGateway) (cmd : AuthenticatedCommand C) (now : UInt64) :
    (g.admitCommand cmd now).1.authorityEpoch = g.authorityEpoch := by
  cases hclaim : g.admitCommand cmd now with
  | mk g' result =>
    cases result with
    | ok v =>
      obtain ⟨source, w', hsource, haccepts, rfl⟩ := admit_ok hclaim
      rw [plausibleCeiling_fst]
    | error err =>
      rcases admit_error hclaim with ⟨-, -, rfl⟩ | ⟨-, -, rfl⟩
      · rfl
      · rw [plausibleCeiling_fst]

/-! ## What a principal sees of a run -/

/-- The operation is a claim of `p`. -/
def isClaimOf (p : Principal) : GatewayOp C → Bool
  | .admitCommand cmd _ => cmd.principal = p
  | .beginAuthorityEpoch => false

/-- The operation is a claim of `p` or begins an authority epoch. -/
def concerns (p : Principal) : GatewayOp C → Bool
  | .admitCommand cmd _ => cmd.principal = p
  | .beginAuthorityEpoch => true

/-- Whether a claim was accepted, with its command, or why it was refused. -/
def verdict : GatewayOut C → Option (Except AuthError C)
  | .admission result => some (result.map VerifiedSystemCommand.command)
  | .epochBegun => none

/-- The verdicts on the claims of `p`, in order. -/
def verdictsFor (p : Principal) (events : List (Event C)) : List (Option (Except AuthError C)) :=
  (events.filter fun e => isClaimOf p e.op).map fun e => verdict e.out

/-- What `p`'s claims were answered in full, receipts included, among the epochs begun. -/
def answersFor (p : Principal) (events : List (Event C)) : List (GatewayOut C) :=
  (events.filter fun e => concerns p e.op).map Machine.Event.out

/-- The claims of `p` are all that bears on the verdicts it gets. -/
def verdictUnwinding (C : Type) (p : Principal) :
    (machine C).Unwinding Standing (Option (Except AuthError C)) where
  Inv := Clockless
  view g := g.standing p
  visible := isClaimOf p
  shown := verdict
  inv_step := step_clockless
  silent g op hg hop := by
    cases op with
    | beginAuthorityEpoch => rfl
    | admitCommand cmd now =>
      have hother : p ≠ cmd.principal := fun h => by simp [isClaimOf, h] at hop
      exact (standing_claim hg p).trans (if_neg hother)
  seen g g' op hg hg' hview hop := by
    cases op with
    | beginAuthorityEpoch => simp [isClaimOf] at hop
    | admitCommand cmd now =>
      have hown : cmd.principal = p := by simpa [isClaimOf] using hop
      subst hown
      refine ⟨?_, ?_⟩
      · show (g.admitCommand cmd now).1.standing _ = (g'.admitCommand cmd now).1.standing _
        rw [standing_claim hg, standing_claim hg', hview]
      · show verdict (.admission (g.admitCommand cmd now).2) =
          verdict (.admission (g'.admitCommand cmd now).2)
        rw [admit_judge hg, admit_judge hg', hview]
        cases (g'.standing cmd.principal).judge cmd.counter <;> rfl

/-- The claims of `p` and the epochs begun are all that bears on the answers it gets. -/
def answerUnwinding (C : Type) (p : Principal) :
    (machine C).Unwinding (Standing × UInt32) (GatewayOut C) where
  Inv := Clockless
  view g := (g.standing p, g.authorityEpoch)
  visible := concerns p
  shown := id
  inv_step := step_clockless
  silent g op hg hop := by
    cases op with
    | beginAuthorityEpoch => simp [concerns] at hop
    | admitCommand cmd now =>
      have hother : p ≠ cmd.principal := fun h => by simp [concerns, h] at hop
      exact Prod.ext ((standing_claim hg p).trans (if_neg hother)) (admit_epoch g cmd now)
  seen g g' op hg hg' hview hop := by
    obtain ⟨hstanding, hepoch⟩ := Prod.mk.inj hview
    cases op with
    | beginAuthorityEpoch =>
      exact ⟨Prod.ext hstanding (congrArg (· + 1) hepoch), rfl⟩
    | admitCommand cmd now =>
      have hown : cmd.principal = p := by simpa [concerns] using hop
      subst hown
      refine ⟨Prod.ext ?_ ?_, ?_⟩
      · show (g.admitCommand cmd now).1.standing _ = (g'.admitCommand cmd now).1.standing _
        rw [standing_claim hg, standing_claim hg', hstanding]
      · show (g.admitCommand cmd now).1.authorityEpoch = (g'.admitCommand cmd now).1.authorityEpoch
        rw [admit_epoch, admit_epoch, hepoch]
      · show GatewayOut.admission (g.admitCommand cmd now).2 =
          .admission (g'.admitCommand cmd now).2
        rw [admit_judge hg, admit_judge hg', hstanding, hepoch]

theorem new_clockless {policy : SourcePolicy} {freshness : FreshnessConfig}
    (hseed : ∀ v, freshness.initialTrustedCounter ≠ .rtc v) :
    (CommandGateway.new policy freshness).Clockless where
  noClock := by
    show freshness.initialTrustedCounter.boundsTheFuture = false
    cases h : freshness.initialTrustedCounter with
    | rtc v => exact absurd h (hseed v)
    | persistedHighWater v => rfl
    | noTrustedTimeSource => rfl
  tracks := AntiReplayWindow.new_tracks _ _

/-- Without a clock in the seed, two runs with the same claims of `p` give these claims the
same verdicts, whatever the other principals send in between. The full answers are the
same when the epochs begin at the same places among them. -/
theorem admission_noninterference (policy : SourcePolicy) (freshness : FreshnessConfig)
    (hseed : ∀ v, freshness.initialTrustedCounter ≠ .rtc v) (p : Principal)
    (ops₁ ops₂ : List (GatewayOp C))
    (hclaims : ops₁.filter (isClaimOf p) = ops₂.filter (isClaimOf p)) :
    verdictsFor p (events policy freshness ops₁) = verdictsFor p (events policy freshness ops₂) ∧
      (ops₁.filter (concerns p) = ops₂.filter (concerns p) →
        answersFor p (events policy freshness ops₁) =
          answersFor p (events policy freshness ops₂)) := by
  have hnew : (CommandGateway.new policy freshness).Clockless := new_clockless hseed
  constructor
  · exact (verdictUnwinding C p).noninterference hnew hclaims
  · intro hconcerns
    exact (answerUnwinding C p).noninterference hnew hconcerns

/-- A policy that binds a ground station and an offboard computer. -/
def stationAndOffboard : SourcePolicy := (stationPolicy.bind (.mavlink 2 1 6) .offboard).1

/-- A gateway seeded from storage, that has no clock. -/
def storedFreshness : FreshnessConfig :=
  ⟨.persistedHighWater 7000000, newStreamMaxAge10Us, 10, newStreamMaxAge10Us⟩

/-- The station's claims: two that advance and one that repeats. -/
def stationClaims : List (GatewayOp Unit) :=
  [.admitCommand ⟨.mavlink 1 1 5, 1000000, ()⟩ 10, .admitCommand ⟨.mavlink 1 1 5, 1000001, ()⟩ 20,
    .admitCommand ⟨.mavlink 1 1 5, 1000001, ()⟩ 30]

/-- The station is not held up by a computer that counts far ahead and an unknown sender. -/
theorem admission_noninterference_station :
    (verdictsFor (.mavlink 1 1 5)
      (events stationAndOffboard storedFreshness stationClaims)).length = 3 ∧
    verdictsFor (.mavlink 1 1 5) (events stationAndOffboard storedFreshness
        (.admitCommand ⟨.mavlink 2 1 6, 281474976710655, ()⟩ 1 ::
          .admitCommand ⟨.mavlink 9 9 9, 5, ()⟩ 2 :: stationClaims)) =
      verdictsFor (.mavlink 1 1 5) (events stationAndOffboard storedFreshness stationClaims) :=
  ⟨by decide, (admission_noninterference stationAndOffboard storedFreshness
    (by simp [storedFreshness]) (.mavlink 1 1 5) _ _ (by rfl)).1⟩

end CommandGateway

end Aviate.Security
