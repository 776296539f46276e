import Mathlib.Data.List.Chain
import Aviate.Security.Gateway

/-!
# No replay through the gateway

What the accepted counters of a gateway look like over whole runs, and over the boots
of an aircraft.

Results:
1. The counters accepted for one principal strictly increase
   (`accepted_counters_increase`), because every step is a path of the ledger of last
   counters (`ledgerLabelling`).
2. Across boots chained by the persisted high-water mark, no boot accepts a counter that
   lags an earlier accepted one by more than its age bound (`boot_chain_fresh`).
3. The replay table only ever holds distinct bound principals and never runs out
   (`replay_table_never_exhausted`).
-/

namespace Aviate.Security

variable {C : Type}

namespace CommandGateway

/-! ## Within one boot -/

/-- The claims a run accepted, in order. -/
def acceptedClaims (events : List (Event C)) : List (Principal × UInt64) :=
  events.filterMap accepted

/-- Each step of a gateway is the path of the ledger that accepts what the step
accepted. -/
def ledgerLabelling (C : Type) : (machine C).Labelling (Ledger.system Principal ℕ) where
  view g := g.antiReplay.ledger
  moves e := (acceptedClaims [e]).map fun claim => (claim.1, claim.2.toNat)
  path g op := by
    rcases step_cases g op with ⟨hnone, hsame⟩ | ⟨p, c, hsome, -, haccepts⟩
    · rw [acceptedClaims, List.filterMap_cons_none hnone, hsame]
      exact .nil _
    · rw [acceptedClaims, List.filterMap_cons_some hsome]
      exact .single haccepts.ledger

/-- The accepted claims of a run, as numbers, are the moves of a path of the ledger. -/
theorem acceptedClaims_path (g : CommandGateway) (ops : List (GatewayOp C)) :
    (Ledger.system Principal ℕ).Path g.antiReplay.ledger
      ((acceptedClaims ((machine C).trace g ops)).map fun claim => (claim.1, claim.2.toNat))
      ((machine C).run g ops).antiReplay.ledger := by
  have hmoves : ∀ events : List (Event C),
      events.flatMap (ledgerLabelling C).moves =
        (acceptedClaims events).map fun claim => (claim.1, claim.2.toNat) := by
    intro events
    simp only [ledgerLabelling, acceptedClaims]
    induction events with
    | nil => rfl
    | cons e events ih =>
      rw [List.flatMap_cons, ih, ← List.map_append, ← List.filterMap_append]
      rfl
  rw [← hmoves]
  exact (ledgerLabelling C).run_path

/-- Counters accepted under one principal increase, from any state of the gateway. -/
theorem acceptedClaims_pairwise (g : CommandGateway) (ops : List (GatewayOp C)) :
    (acceptedClaims ((machine C).trace g ops)).Pairwise fun a b => a.1 = b.1 → a.2 < b.2 := by
  have hpairwise := Ledger.accepted_increasing (acceptedClaims_path g ops)
  refine (List.pairwise_map.mp hpairwise).imp fun {a b} hab hp => ?_
  exact UInt64.lt_iff_toNat_lt.mpr (hab hp)

/-- In every run the counters accepted for each principal are strictly increasing, and no
pair of principal and counter is accepted twice. -/
theorem accepted_counters_increase (policy : SourcePolicy) (freshness : FreshnessConfig)
    (ops : List (GatewayOp C)) :
    (∀ p, (((acceptedClaims (events policy freshness ops)).filter (·.1 = p)).map
      Prod.snd).Pairwise (· < ·)) ∧
    (acceptedClaims (events policy freshness ops)).Nodup := by
  have hpairwise := acceptedClaims_pairwise (.new policy freshness) ops
  constructor
  · intro p
    rw [List.pairwise_map]
    refine (hpairwise.filter _).imp_of_mem fun {a b} ha hb hab => ?_
    have ha := of_decide_eq_true (List.mem_filter.mp ha).2
    have hb := of_decide_eq_true (List.mem_filter.mp hb).2
    exact hab (ha.trans hb.symm)
  · refine hpairwise.imp fun {a b} hab heq => ?_
    subst heq
    exact absurd (hab rfl) (by simp)

/-! ## The marks along a run -/

/-- The window of a gateway is marked, and its floor and age bound are the ones it was
built with. -/
structure Seeded (seed maxAge : UInt64) (g : CommandGateway) : Prop where
  marked : g.antiReplay.Marked
  floor : g.antiReplay.freshnessFloor = seed
  maxAge : g.antiReplay.newStreamMaxAge = maxAge

variable {seed maxAge : UInt64} {g : CommandGateway}

theorem step_seeded (g : CommandGateway) (op : GatewayOp C) (hg : g.Seeded seed maxAge) :
    ((machine C).step g op).1.Seeded seed maxAge := by
  rcases step_cases g op with ⟨-, hsame⟩ | ⟨p, c, -, -, haccepts⟩
  · exact ⟨hsame ▸ hg.marked, hsame ▸ hg.floor, hsame ▸ hg.maxAge⟩
  · obtain ⟨hfloor, hage, -⟩ := haccepts.marks
    exact ⟨haccepts.marked hg.marked, hfloor.trans hg.floor, hage.trans hg.maxAge⟩

theorem run_seeded (policy : SourcePolicy) (freshness : FreshnessConfig)
    (ops : List (GatewayOp C)) :
    (after policy freshness ops).Seeded freshness.initialTrustedCounter.value
      freshness.newStreamMaxAge :=
  Machine.run_invariant step_seeded ⟨AntiReplayWindow.new_marked _ _, rfl, rfl⟩

/-- A step never lowers the high-water mark. -/
theorem step_highWater_le (g : CommandGateway) (op : GatewayOp C) :
    g.localFreshnessCounter.toNat ≤ ((machine C).step g op).1.localFreshnessCounter.toNat := by
  show g.antiReplay.highWater.toNat ≤ ((machine C).step g op).1.antiReplay.highWater.toNat
  rcases step_cases g op with ⟨-, hsame⟩ | ⟨p, c, -, -, haccepts⟩
  · rw [hsame]
  · rw [haccepts.marks.2.2]
    exact le_max_left _ _

theorem run_highWater_le (g : CommandGateway) (ops : List (GatewayOp C)) :
    g.localFreshnessCounter.toNat ≤ ((machine C).run g ops).localFreshnessCounter.toNat :=
  Machine.run_invariant (I := fun g' => g.localFreshnessCounter.toNat ≤
    g'.localFreshnessCounter.toNat) (fun g' op h => h.trans (step_highWater_le g' op)) le_rfl

/-- An accepted claim of a run is accepted by the window reached before it. -/
theorem accepted_event {ops : List (GatewayOp C)} {claim : Principal × UInt64}
    (h : claim ∈ acceptedClaims ((machine C).trace g ops)) :
    ∃ ops₁ op ops₂, ops = ops₁ ++ op :: ops₂ ∧
      ((machine C).run g ops₁).antiReplay.Accepts claim.1 claim.2
        ((machine C).run g (ops₁ ++ [op])).antiReplay := by
  obtain ⟨e, he, haccepted⟩ := List.mem_filterMap.mp h
  obtain ⟨ops₁, op, ops₂, hops, rfl⟩ := Machine.mem_trace.mp he
  refine ⟨ops₁, op, ops₂, hops, ?_⟩
  rw [Machine.run_append, Machine.run_cons, Machine.run_nil]
  rcases step_cases ((machine C).run g ops₁) op with ⟨hnone, -⟩ | ⟨p, c, hsome, -, haccepts⟩
  · rw [hnone] at haccepted
    cases haccepted
  · rw [hsome] at haccepted
    cases haccepted
    exact haccepts

/-! ## Across boots -/

/-- One boot: what its gateway is built from, and what it is asked to do. -/
structure Boot (C : Type) where
  policy : SourcePolicy
  freshness : FreshnessConfig
  ops : List (GatewayOp C)

namespace Boot

/-- The gateway at the end of the boot. -/
def final (b : Boot C) : CommandGateway := after b.policy b.freshness b.ops

/-- The claims accepted during the boot. -/
def accepted (b : Boot C) : List (Principal × UInt64) :=
  acceptedClaims (events b.policy b.freshness b.ops)

/-- The next boot is seeded with the high-water mark this one persisted. -/
def Seeds (b next : Boot C) : Prop :=
  next.freshness.initialTrustedCounter = .persistedHighWater b.final.localFreshnessCounter

instance (b next : Boot C) : Decidable (b.Seeds next) := inferInstanceAs (Decidable (_ = _))

/-- A boot as a session of the ledger. -/
def session (b : Boot C) : Session where
  seed := b.freshness.initialTrustedCounter.value.toNat
  maxAge := b.freshness.newStreamMaxAge.toNat
  accepted := b.accepted.map fun claim => claim.2.toNat
  mark := b.final.localFreshnessCounter.toNat

theorem session_bounded (b : Boot C) : b.session.Bounded where
  seed_le_mark := run_highWater_le (.new b.policy b.freshness) b.ops
  accepted_le_mark v hv := by
    obtain ⟨claim, hclaim, rfl⟩ := List.mem_map.mp hv
    obtain ⟨ops₁, op, ops₂, hops, haccepts⟩ := accepted_event hclaim
    have hlater :=
      run_highWater_le ((machine C).run (.new b.policy b.freshness) (ops₁ ++ [op])) ops₂
    rw [← Machine.run_append, List.append_assoc, List.singleton_append, ← hops] at hlater
    have hraised : claim.2.toNat ≤
        ((machine C).run (.new b.policy b.freshness) (ops₁ ++ [op])).localFreshnessCounter.toNat :=
      haccepts.marks.2.2 ▸ le_max_right _ _
    exact hraised.trans hlater
  seed_le_accepted v hv := by
    obtain ⟨claim, hclaim, rfl⟩ := List.mem_map.mp hv
    obtain ⟨ops₁, op, ops₂, -, haccepts⟩ := accepted_event hclaim
    have hseeded := run_seeded b.policy b.freshness ops₁
    have hfresh := haccepts.fresh hseeded.marked
    rw [show ((machine C).run (.new b.policy b.freshness) ops₁) = after _ _ ops₁ from rfl,
      hseeded.floor, hseeded.maxAge] at hfresh
    exact hfresh

end Boot

/-- In a chain of boots, each seeded with the mark the one before persisted, no boot
accepts a counter that lags one accepted in an earlier boot, by any principal, by more
than its own age bound. -/
theorem boot_chain_fresh (boots : List (Boot C)) (hchain : boots.IsChain Boot.Seeds) :
    boots.Pairwise fun b b' => ∀ claim ∈ b.accepted, ∀ claim' ∈ b'.accepted,
      claim.2.toNat ≤ claim'.2.toNat + b'.freshness.newStreamMaxAge.toNat := by
  have hsessions : (boots.map Boot.session).IsChain fun s s' => s'.seed = s.mark := by
    refine List.isChain_map_of_isChain Boot.session (fun b b' hseeds => ?_) hchain
    show b'.freshness.initialTrustedCounter.value.toNat = b.final.localFreshnessCounter.toNat
    rw [hseeds]
    rfl
  have hbounded : ∀ s ∈ boots.map Boot.session, s.Bounded := by
    intro s hs
    obtain ⟨b, -, rfl⟩ := List.mem_map.mp hs
    exact b.session_bounded
  refine (List.pairwise_map.mp (Session.chain_fresh hbounded hsessions)).imp ?_
  intro b b' hfresh claim hclaim claim' hclaim'
  exact hfresh _ (List.mem_map_of_mem hclaim) _ (List.mem_map_of_mem hclaim')

/-- A boot with the station's policy in which the station sends one command. -/
def stationBoot (seed counter : UInt64) : Boot Unit where
  policy := stationPolicy
  freshness := ⟨.persistedHighWater seed, newStreamMaxAge10Us, 10, newStreamMaxAge10Us⟩
  ops := [.admitCommand ⟨.mavlink 1 1 5, counter, ()⟩ 0]

theorem boot_chain_fresh_station :
    [stationBoot 100 7000000, stationBoot 7000000 1000000].map Boot.accepted =
      [[(.mavlink 1 1 5, 7000000)], [(.mavlink 1 1 5, 1000000)]] ∧
    [stationBoot 100 7000000, stationBoot 7000000 1000000].Pairwise fun b b' =>
      ∀ claim ∈ b.accepted, ∀ claim' ∈ b'.accepted,
        claim.2.toNat ≤ claim'.2.toNat + b'.freshness.newStreamMaxAge.toNat :=
  ⟨by decide, boot_chain_fresh _ (by decide)⟩

/-! ## The replay table -/

/-- The window tracks distinct principals that the policy binds. -/
theorem step_tracks {allowed : List Principal} (g : CommandGateway) (op : GatewayOp C)
    (hg : g.sourcePolicy.boundPrincipals = allowed ∧ g.antiReplay.Tracks allowed) :
    ((machine C).step g op).1.sourcePolicy.boundPrincipals = allowed ∧
      ((machine C).step g op).1.antiReplay.Tracks allowed := by
  rw [(step_config g op).1]
  refine ⟨hg.1, ?_⟩
  rcases step_cases g op with ⟨-, hsame⟩ | ⟨p, c, -, hbound, haccepts⟩
  · exact hsame ▸ hg.2
  · exact haccepts.tracks hg.2 (hg.1 ▸ hbound)

/-- Every state a run visits tracks bound principals and has a free slot. -/
theorem visits_tracks {policy : SourcePolicy} {freshness : FreshnessConfig}
    {ops : List (GatewayOp C)} (h : (machine C).Visits (.new policy freshness) ops g) :
    g.antiReplay.Tracks policy.boundPrincipals ∧ ∃ i, g.antiReplay.slots.firstFree = some i := by
  have htracks := Machine.visits_invariant_of_guard (G := fun _ => True)
    (fun g op hg _ => step_tracks g op hg) ⟨rfl, AntiReplayWindow.new_tracks _ _⟩
    (fun _ _ => trivial) h
  -- The policy has fewer bindings than the window has slots.
  have hfew : policy.boundPrincipals.length < maxSigningPeers :=
    Nat.lt_of_le_of_lt policy.boundPrincipals_length_le (by decide)
  exact ⟨htracks.2, htracks.2.exists_free hfew⟩

/-- A gateway with a free slot does not answer with the capacity error. -/
theorem step_not_exhausted (op : GatewayOp C) (hfree : ∃ i, g.antiReplay.slots.firstFree = some i) :
    ((machine C).step g op).2 ≠ .admission (.error .replayCapacityExhausted) := by
  obtain ⟨i, hi⟩ := hfree
  cases op with
  | beginAuthorityEpoch => simp [machine, step]
  | admitCommand cmd now =>
    intro hout
    cases h : g.admitCommand cmd now with
    | mk g' result =>
      simp only [machine, step, h, GatewayOut.admission.injEq] at hout
      subst hout
      rcases admit_error h with ⟨-, herr, -⟩ | ⟨-, hcheck, -⟩
      · cases herr
      · rw [(AntiReplayWindow.checkAndUpdate_exhausted hcheck).2] at hi
        cases hi

/-- In every state of every run the occupied slots hold pairwise distinct principals that
the policy binds and a slot is free, so no claim is ever refused for lack of
capacity. -/
theorem replay_table_never_exhausted (policy : SourcePolicy) (freshness : FreshnessConfig)
    (ops : List (GatewayOp C)) :
    (∀ g, (machine C).Visits (.new policy freshness) ops g →
      g.antiReplay.slots.DistinctOn Slot.principal ∧
      (∀ s, g.antiReplay.slots.Holds s → (policy.resolve s.principal).isSome) ∧
      ∃ i, g.antiReplay.slots.firstFree = some i) ∧
    ∀ e ∈ events policy freshness ops, e.out ≠ .admission (.error .replayCapacityExhausted) := by
  constructor
  · intro g hg
    obtain ⟨htracks, hfree⟩ := visits_tracks hg
    exact ⟨htracks.distinct,
      fun s hs => SourcePolicy.resolve_isSome_iff.mpr (htracks.allowed s hs), hfree⟩
  · intro e he
    obtain ⟨ops₁, op, ops₂, hops, rfl⟩ := Machine.mem_trace.mp he
    exact step_not_exhausted op (visits_tracks ⟨ops₁, op :: ops₂, hops, rfl⟩).2

end CommandGateway

end Aviate.Security
