import Aviate.Foundations.Machine
import Aviate.Model

/-!
# The command gateway

`CommandGateway` (`gateway.rs`) takes an authenticated command to a verified one: it
authorizes the principal, commits the anti-replay counter and stamps the receipt. The
command itself passes through, so the model is generic in it.

A run of a gateway is a list of operations from `CommandGateway.new`; `machine` is its
step function.
-/

namespace Aviate.Security

variable {C : Type}

/-! ## Claims and verified commands -/

structure AuthenticatedCommand (C : Type) where
  principal : Principal
  counter : UInt64
  command : C
deriving DecidableEq, Repr

structure VerifiedSystemCommand (C : Type) where
  command : C
  receipt : VerificationReceipt
deriving DecidableEq, Repr

/-! ## Configuration -/

inductive TrustedCounter where
  | rtc (v : UInt64)
  | persistedHighWater (v : UInt64)
  | noTrustedTimeSource
deriving DecidableEq, Repr

namespace TrustedCounter

def value : TrustedCounter → UInt64
  | .rtc v | .persistedHighWater v => v
  | .noTrustedTimeSource => 0

/-- Only a clock that tracks real time justifies a forward bound. -/
def boundsTheFuture : TrustedCounter → Bool
  | .rtc _ => true
  | _ => false

end TrustedCounter

structure FreshnessConfig where
  initialTrustedCounter : TrustedCounter
  newStreamMaxAge : UInt64
  counterTickUs : UInt64
  maxSkew : UInt64
deriving DecidableEq, Repr

/-! ## The gateway -/

structure CommandGateway where
  sourcePolicy : SourcePolicy
  antiReplay : AntiReplayWindow
  authorityEpoch : UInt32
  freshness : FreshnessConfig
  epochNowUs : Option UInt64

namespace CommandGateway

def new (sourcePolicy : SourcePolicy) (freshness : FreshnessConfig) : CommandGateway where
  sourcePolicy := sourcePolicy
  antiReplay := .new freshness.initialTrustedCounter.value freshness.newStreamMaxAge
  authorityEpoch := 0
  freshness := freshness
  epochNowUs := none

/-- The highest counter that the time elapsed since `anchor` can justify. -/
def ceilingFrom (g : CommandGateway) (anchor nowUs : UInt64) : UInt64 :=
  let elapsedUs := nowUs.saturatingSub anchor
  let elapsedCounts := elapsedUs / max g.freshness.counterTickUs 1
  (g.freshness.initialTrustedCounter.value.saturatingAdd elapsedCounts).saturatingAdd
    g.freshness.maxSkew

/-- The highest counter local elapsed time can justify, with the anchor taken at the
first call. -/
def plausibleCeiling (g : CommandGateway) (nowUs : UInt64) : CommandGateway × Option UInt64 :=
  if g.freshness.initialTrustedCounter.boundsTheFuture then
    let anchor := g.epochNowUs.getD nowUs
    ({ g with epochNowUs := some anchor }, some (g.ceilingFrom anchor nowUs))
  else (g, none)

/-- Admit an authenticated command: authorize its principal, commit anti-replay and mint
a verified command. -/
def admitCommand (g : CommandGateway) (command : AuthenticatedCommand C) (nowUs : UInt64) :
    CommandGateway × Except AuthError (VerifiedSystemCommand C) :=
  match g.sourcePolicy.resolve command.principal with
  | none => (g, .error .unauthorizedSource)
  | some source =>
    let (g, ceiling) := g.plausibleCeiling nowUs
    let (antiReplay, result) :=
      g.antiReplay.checkAndUpdate command.principal command.counter ceiling
    let g := { g with antiReplay := antiReplay }
    match result with
    | .error err => (g, .error err)
    | .ok () =>
      let receipt : VerificationReceipt :=
        { source := source
          authorityEpoch := g.authorityEpoch
          sequence := command.counter
          receivedAtUs := nowUs
          expiresAtUs := none }
      (g, .ok ⟨command.command, receipt⟩)

/-- Advance the authority epoch, wrapping. -/
def beginAuthorityEpoch (g : CommandGateway) : CommandGateway :=
  { g with authorityEpoch := g.authorityEpoch + 1 }

def localFreshnessCounter (g : CommandGateway) : UInt64 := g.antiReplay.localCounter

end CommandGateway

/-! ## Runs -/

/-- The operations of a gateway that change its state. -/
inductive GatewayOp (C : Type) where
  | admitCommand (command : AuthenticatedCommand C) (nowUs : UInt64)
  | beginAuthorityEpoch

/-- What an operation returns. -/
inductive GatewayOut (C : Type) where
  | admission (result : Except AuthError (VerifiedSystemCommand C))
  | epochBegun

namespace CommandGateway

def step (g : CommandGateway) : GatewayOp C → CommandGateway × GatewayOut C
  | .admitCommand command nowUs =>
    let (g, result) := g.admitCommand command nowUs
    (g, .admission result)
  | .beginAuthorityEpoch => (g.beginAuthorityEpoch, .epochBegun)

/-- The gateway as a machine: a run is a list of operations in any order. -/
def machine (C : Type) : Machine CommandGateway (GatewayOp C) (GatewayOut C) := ⟨step⟩

abbrev Event (C : Type) := Machine.Event CommandGateway (GatewayOp C) (GatewayOut C)

/-- The state after a run from a new gateway. -/
def after (policy : SourcePolicy) (freshness : FreshnessConfig) (ops : List (GatewayOp C)) :
    CommandGateway :=
  (machine C).run (.new policy freshness) ops

/-- The events of a run from a new gateway. -/
def events (policy : SourcePolicy) (freshness : FreshnessConfig) (ops : List (GatewayOp C)) :
    List (Event C) :=
  (machine C).trace (.new policy freshness) ops

/-- The principal and counter of an event that accepted a claim. -/
def accepted : Event C → Option (Principal × UInt64)
  | ⟨_, .admitCommand command _, .admission (.ok _), _⟩ => some (command.principal, command.counter)
  | _ => none

/-- A policy that binds one ground station. -/
def stationPolicy : SourcePolicy := (SourcePolicy.new.bind (.mavlink 1 1 5) .gcsDatalink).1

/-- The freshness of a MAVLink gateway with a clock that reads `seed`. -/
def clockFreshness (seed : UInt64) : FreshnessConfig where
  initialTrustedCounter := .rtc seed
  newStreamMaxAge := newStreamMaxAge10Us
  counterTickUs := 10
  maxSkew := newStreamMaxAge10Us

/-! ## What a step does -/

variable {g g' : CommandGateway} {cmd : AuthenticatedCommand C} {now : UInt64} {err : AuthError}
  {v : VerifiedSystemCommand C}

/-- Asking for the ceiling touches nothing but the anchor. -/
theorem plausibleCeiling_fst :
    (g.plausibleCeiling now).1 =
      { g with epochNowUs := (g.plausibleCeiling now).1.epochNowUs } := by
  unfold plausibleCeiling
  split <;> rfl

@[simp] theorem plausibleCeiling_antiReplay :
    (g.plausibleCeiling now).1.antiReplay = g.antiReplay := by rw [plausibleCeiling_fst]

/-- A claim is admitted when its principal is bound and the window accepts its counter. -/
theorem admit_ok (h : g.admitCommand cmd now = (g', .ok v)) :
    ∃ source w', g.sourcePolicy.resolve cmd.principal = some source ∧
      g.antiReplay.Accepts cmd.principal cmd.counter w' ∧
      g' = { (g.plausibleCeiling now).1 with antiReplay := w' } := by
  unfold admitCommand at h
  cases hsource : g.sourcePolicy.resolve cmd.principal with
  | none => simp [hsource] at h
  | some source =>
    simp only [hsource, plausibleCeiling_antiReplay] at h
    cases hcheck : g.antiReplay.checkAndUpdate cmd.principal cmd.counter
        (g.plausibleCeiling now).2 with
    | mk w' result =>
      cases result with
      | error err => simp [hcheck] at h
      | ok _ =>
        simp only [hcheck] at h
        exact ⟨source, w', rfl, AntiReplayWindow.checkAndUpdate_ok hcheck, (Prod.mk.inj h).1.symm⟩

/-- A claim is refused because its principal is unbound, and nothing changes, or because
the window refuses its counter, and only the anchor may. -/
theorem admit_error (h : g.admitCommand cmd now = (g', .error err)) :
    (g.sourcePolicy.resolve cmd.principal = none ∧ err = .unauthorizedSource ∧ g' = g) ∨
    ((g.sourcePolicy.resolve cmd.principal).isSome ∧
      (g.antiReplay.checkAndUpdate cmd.principal cmd.counter (g.plausibleCeiling now).2).2 =
        .error err ∧
      g' = (g.plausibleCeiling now).1) := by
  unfold admitCommand at h
  cases hsource : g.sourcePolicy.resolve cmd.principal with
  | none =>
    simp only [hsource, Prod.mk.injEq, Except.error.injEq] at h
    exact .inl ⟨rfl, h.2.symm, h.1.symm⟩
  | some source =>
    simp only [hsource, plausibleCeiling_antiReplay] at h
    cases hcheck : g.antiReplay.checkAndUpdate cmd.principal cmd.counter
        (g.plausibleCeiling now).2 with
    | mk w' result =>
      cases result with
      | ok _ => simp [hcheck] at h
      | error e =>
        simp only [hcheck, Prod.mk.injEq, Except.error.injEq] at h
        obtain ⟨rfl, rfl⟩ := h
        rw [AntiReplayWindow.checkAndUpdate_error hcheck]
        refine .inr ⟨rfl, rfl, ?_⟩
        rw [← plausibleCeiling_antiReplay]

/-- What one step does to the window: nothing is accepted and it stays, or it accepts the
counter of a bound principal. -/
theorem step_cases (g : CommandGateway) (op : GatewayOp C) :
    (accepted ((machine C).event g op) = none ∧
      ((machine C).step g op).1.antiReplay = g.antiReplay) ∨
    ∃ p c, accepted ((machine C).event g op) = some (p, c) ∧
      p ∈ g.sourcePolicy.boundPrincipals ∧
      g.antiReplay.Accepts p c ((machine C).step g op).1.antiReplay := by
  cases op with
  | beginAuthorityEpoch => exact .inl ⟨rfl, rfl⟩
  | admitCommand cmd now =>
    cases h : g.admitCommand cmd now with
    | mk g' result =>
      cases result with
      | ok v =>
        obtain ⟨source, w', hsource, haccepts, rfl⟩ := admit_ok h
        simp only [machine, Machine.event, step, h, accepted]
        exact .inr ⟨cmd.principal, cmd.counter, rfl,
          SourcePolicy.mem_boundPrincipals_of_resolve hsource, haccepts⟩
      | error err =>
        refine .inl ⟨by simp only [machine, Machine.event, step, h, accepted], ?_⟩
        simp only [machine, step, h]
        rcases admit_error h with ⟨-, -, rfl⟩ | ⟨-, -, rfl⟩
        · rfl
        · exact plausibleCeiling_antiReplay

/-- No step changes the policy or the freshness configuration. -/
theorem step_config (g : CommandGateway) (op : GatewayOp C) :
    ((machine C).step g op).1.sourcePolicy = g.sourcePolicy ∧
      ((machine C).step g op).1.freshness = g.freshness := by
  cases op with
  | beginAuthorityEpoch => exact ⟨rfl, rfl⟩
  | admitCommand cmd now =>
    cases h : g.admitCommand cmd now with
    | mk g' result =>
      simp only [machine, step, h]
      cases result with
      | ok v =>
        obtain ⟨source, w', hsource, haccepts, rfl⟩ := admit_ok h
        rw [plausibleCeiling_fst]
        exact ⟨rfl, rfl⟩
      | error err =>
        rcases admit_error h with ⟨-, -, rfl⟩ | ⟨-, -, rfl⟩
        · exact ⟨rfl, rfl⟩
        · rw [plausibleCeiling_fst]
          exact ⟨rfl, rfl⟩

end CommandGateway

end Aviate.Security
