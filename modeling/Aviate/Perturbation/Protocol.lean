import Mathlib.Data.List.Chain
import Aviate.Foundations.Refinement
import Aviate.Perturbation.Engine

/-!
# The protocol of samples, decisions and sends

Each sample is to be answered by one decision and one completed send before the next sample.

Results:
1. `protocol_of_path`: what the phases of that cycle allow keeps the protocol.
2. The engine moves through the phases, one move a call (`phase_step`), but for a decision taken
   before the first sample.
3. `protocol_iff`: a run keeps the protocol if and only if it does not begin with a decision for
   the sequence `u64::MAX` that the actuator engine takes. That sequence stands for the missing
   current sample.
-/

namespace Aviate.Perturbation

/-! ## Outcomes -/

/-- What a call comes to: accepted for a sequence, or refused. -/
inductive Outcome where
  | sampled (sequence : UInt64)
  | decided (sequence : UInt64)
  | sent (sequence : UInt64)
  | refused (e : PerturbationError)
deriving DecidableEq, Repr

namespace Outcome

def sample? : Outcome → Option UInt64
  | sampled n => some n
  | _ => none

def decision? : Outcome → Option UInt64
  | decided n => some n
  | _ => none

def send? : Outcome → Option UInt64
  | sent n => some n
  | _ => none

end Outcome

/-- The sequences of the accepted samples, in order. -/
def samples (outcomes : List Outcome) : List UInt64 := outcomes.filterMap Outcome.sample?

/-- The sequences of the accepted decisions, in order. -/
def decisions (outcomes : List Outcome) : List UInt64 := outcomes.filterMap Outcome.decision?

/-- The sequences of the accepted send completions, in order. -/
def sends (outcomes : List Outcome) : List UInt64 := outcomes.filterMap Outcome.send?

/-- The second sequence is the successor of the first, which is not the last one. -/
def Follows (m n : UInt64) : Prop := n.toNat = m.toNat + 1

/-- The protocol of a run. -/
structure Protocol (outcomes : List Outcome) : Prop where
  consecutive : (samples outcomes).IsChain Follows
  current : ∀ before n after, outcomes = before ++ Outcome.decided n :: after →
    (samples before).getLast? = some n
  one_decision : (decisions outcomes).Nodup
  one_send : (sends outcomes).Nodup
  completed : ∀ before n after, outcomes = before ++ Outcome.sampled n :: after →
    ∀ m, (samples before).getLast? = some m → m ∈ sends before
  quarantine : ∀ before e after, outcomes = before ++ Outcome.refused e :: after →
    ∀ outcome ∈ after, outcome = .refused .quarantined

/-! ## Phases -/

/-- Where a run stands in its cycle. -/
inductive Phase where
  | fresh
  | sampled (sequence : UInt64)
  | decided (sequence : UInt64)
  | sent (sequence : UInt64)
  | quarantined
deriving DecidableEq, Repr

inductive Phase.Move : Phase → Outcome → Phase → Prop
  | first (n : UInt64) : Move .fresh (.sampled n) (.sampled n)
  | next {m n : UInt64} (h : Follows m n) : Move (.sent m) (.sampled n) (.sampled n)
  | decide (n : UInt64) : Move (.sampled n) (.decided n) (.decided n)
  | send (n : UInt64) : Move (.decided n) (.sent n) (.sent n)
  | refuse {phase : Phase} (h : phase ≠ .quarantined) (e : PerturbationError) :
      Move phase (.refused e) .quarantined
  | quarantined : Move .quarantined (.refused .quarantined) .quarantined

def Phase.system : TransitionSystem Phase Outcome := ⟨Phase.Move⟩

/-- The accepted sequences increase, those of the samples by one. -/
structure Ordered (outcomes : List Outcome) : Prop where
  samples : (samples outcomes).IsChain Follows
  decisions : (decisions outcomes).Pairwise (· < ·)
  sends : (sends outcomes).Pairwise (· < ·)

/-- What the outcomes so far are in a phase. -/
def Phase.Accounts (outcomes : List Outcome) : Phase → Prop
  | .fresh => samples outcomes = [] ∧ decisions outcomes = [] ∧ sends outcomes = []
  | .sampled n => (samples outcomes).getLast? = some n ∧ (∀ d ∈ decisions outcomes, d < n) ∧
      ∀ s ∈ sends outcomes, s < n
  | .decided n => (samples outcomes).getLast? = some n ∧ (∀ d ∈ decisions outcomes, d ≤ n) ∧
      ∀ s ∈ sends outcomes, s < n
  | .sent n => (samples outcomes).getLast? = some n ∧ (∀ d ∈ decisions outcomes, d ≤ n) ∧
      (∀ s ∈ sends outcomes, s ≤ n) ∧ n ∈ sends outcomes
  | .quarantined => True

section Paths

variable {outcomes : List Outcome} {phase : Phase} {m n : UInt64} {e : PerturbationError}

theorem Follows.lt (h : Follows m n) : m < n := by
  rw [UInt64.lt_iff_toNat_lt, h]
  exact Nat.lt_succ_self _

@[simp] theorem samples_concat (outcome : Outcome) :
    samples (outcomes ++ [outcome]) = samples outcomes ++ outcome.sample?.toList := by
  cases outcome <;> simp [samples, Outcome.sample?]

@[simp] theorem decisions_concat (outcome : Outcome) :
    decisions (outcomes ++ [outcome]) = decisions outcomes ++ outcome.decision?.toList := by
  cases outcome <;> simp [decisions, Outcome.decision?]

@[simp] theorem sends_concat (outcome : Outcome) :
    sends (outcomes ++ [outcome]) = sends outcomes ++ outcome.send?.toList := by
  cases outcome <;> simp [sends, Outcome.send?]

/-- A sample after the last one. -/
theorem Ordered.sampled (h : Ordered outcomes)
    (hlast : ∀ m, (Perturbation.samples outcomes).getLast? = some m → Follows m n) :
    Ordered (outcomes ++ [Outcome.sampled n]) := by
  refine ⟨?_, by simpa [Outcome.decision?] using h.decisions,
    by simpa [Outcome.send?] using h.sends⟩
  rw [samples_concat]
  refine h.samples.append (.singleton n) fun m hm k hk => ?_
  obtain rfl : n = k := by simpa [Outcome.sample?] using hk
  exact hlast m hm

/-- A decision after the earlier ones. -/
theorem Ordered.decided (h : Ordered outcomes)
    (hlt : ∀ d ∈ Perturbation.decisions outcomes, d < n) :
    Ordered (outcomes ++ [Outcome.decided n]) := by
  refine ⟨by simpa [Outcome.sample?] using h.samples, ?_, by simpa [Outcome.send?] using h.sends⟩
  simpa [Outcome.decision?, List.pairwise_append] using ⟨h.decisions, hlt⟩

/-- A send completion after the earlier ones. -/
theorem Ordered.sent (h : Ordered outcomes) (hlt : ∀ s ∈ Perturbation.sends outcomes, s < n) :
    Ordered (outcomes ++ [Outcome.sent n]) := by
  refine ⟨by simpa [Outcome.sample?] using h.samples,
    by simpa [Outcome.decision?] using h.decisions, ?_⟩
  simpa [Outcome.send?, List.pairwise_append] using ⟨h.sends, hlt⟩

theorem Ordered.refused (h : Ordered outcomes) : Ordered (outcomes ++ [Outcome.refused e]) :=
  ⟨by simpa [Outcome.sample?] using h.samples, by simpa [Outcome.decision?] using h.decisions,
    by simpa [Outcome.send?] using h.sends⟩

/-- One move of the cycle. -/
theorem accounts_move {p q : Phase} {outcome : Outcome}
    (h : Ordered outcomes ∧ p.Accounts outcomes) (hmove : Phase.Move p outcome q) :
    Ordered (outcomes ++ [outcome]) ∧ q.Accounts (outcomes ++ [outcome]) := by
  obtain ⟨hordered, haccounts⟩ := h
  cases hmove with
  | first n =>
    obtain ⟨hsamples, hdecisions, hsends⟩ := haccounts
    refine ⟨hordered.sampled (by simp [hsamples]), ?_⟩
    simp [Phase.Accounts, Outcome.sample?, Outcome.decision?, Outcome.send?, hdecisions, hsends]
  | @next m n hfollows =>
    obtain ⟨hlast, hdecisions, hsends, -⟩ := haccounts
    refine ⟨hordered.sampled fun k hk => ?_, ?_⟩
    · obtain rfl : m = k := Option.some.inj (hlast.symm.trans hk)
      exact hfollows
    · simp only [Phase.Accounts, samples_concat, decisions_concat, sends_concat,
        Outcome.sample?, Outcome.decision?, Outcome.send?, Option.toList_some, Option.toList_none,
        List.append_nil, List.getLast?_concat, true_and]
      exact ⟨fun d hd => UInt64.lt_of_le_of_lt (hdecisions d hd) hfollows.lt,
        fun s hs => UInt64.lt_of_le_of_lt (hsends s hs) hfollows.lt⟩
  | decide n =>
    obtain ⟨hlast, hdecisions, hsends⟩ := haccounts
    refine ⟨hordered.decided hdecisions, ?_⟩
    simp only [Phase.Accounts, samples_concat, decisions_concat, sends_concat,
      Outcome.sample?, Outcome.decision?, Outcome.send?, Option.toList_some, Option.toList_none,
      List.append_nil, List.forall_mem_append, List.forall_mem_singleton]
    exact ⟨hlast, ⟨fun d hd => UInt64.le_of_lt (hdecisions d hd), UInt64.le_refl n⟩, hsends⟩
  | send n =>
    obtain ⟨hlast, hdecisions, hsends⟩ := haccounts
    refine ⟨hordered.sent hsends, ?_⟩
    simp only [Phase.Accounts, samples_concat, decisions_concat, sends_concat,
      Outcome.sample?, Outcome.decision?, Outcome.send?, Option.toList_some, Option.toList_none,
      List.append_nil, List.forall_mem_append, List.forall_mem_singleton]
    exact ⟨hlast, hdecisions, ⟨fun s hs => UInt64.le_of_lt (hsends s hs), UInt64.le_refl n⟩,
      List.mem_append_right _ (List.mem_singleton.mpr rfl)⟩
  | refuse _ e => exact ⟨hordered.refused, trivial⟩
  | quarantined => exact ⟨hordered.refused, trivial⟩

theorem accounts_of_path (h : Phase.system.Path .fresh outcomes phase) :
    Ordered outcomes ∧ phase.Accounts outcomes :=
  h.relates (R := fun outcomes phase => Ordered outcomes ∧ phase.Accounts outcomes)
    (fun _ _ _ _ hprior hmove => accounts_move hprior hmove)
    ⟨⟨.nil, .nil, .nil⟩, rfl, rfl, rfl⟩

/-- Nothing but the refusal of a quarantined engine follows a quarantine. -/
theorem refused_of_path (h : Phase.system.Path .quarantined outcomes phase) :
    ∀ outcome ∈ outcomes, outcome = .refused .quarantined := by
  generalize hstart : Phase.quarantined = start at h
  induction h with
  | nil => simp
  | cons hmove hpath ih =>
    subst hstart
    cases hmove with
    | refuse hne e => exact absurd rfl hne
    | quarantined => exact List.forall_mem_cons.mpr ⟨rfl, ih rfl⟩

/-- A path of the cycle keeps the protocol. -/
theorem protocol_of_path (h : Phase.system.Path .fresh outcomes phase) : Protocol outcomes where
  consecutive := (accounts_of_path h).1.samples
  one_decision := (accounts_of_path h).1.decisions.imp UInt64.ne_of_lt
  one_send := (accounts_of_path h).1.sends.imp UInt64.ne_of_lt
  current := by
    rintro before n after rfl
    obtain ⟨p, hbefore, hafter⟩ := h.split
    have haccounts := (accounts_of_path hbefore).2
    cases hafter with
    | cons hmove _ =>
      cases hmove
      exact haccounts.1
  completed := by
    rintro before n after rfl m hm
    obtain ⟨p, hbefore, hafter⟩ := h.split
    have haccounts := (accounts_of_path hbefore).2
    cases hafter with
    | cons hmove _ =>
      cases hmove with
      | first =>
        rw [haccounts.1] at hm
        cases hm
      | @next k =>
        obtain rfl : k = m := Option.some.inj (haccounts.1.symm.trans hm)
        exact haccounts.2.2.2
  quarantine := by
    rintro before e after rfl
    obtain ⟨p, -, hafter⟩ := h.split
    cases hafter with
    | cons hmove hrest =>
      cases hmove <;> exact refused_of_path hrest

end Paths

/-! ## The engine's phases -/

namespace PerturbationEngine

/-- Where the engine stands in its cycle. -/
def phase (self : PerturbationEngine) : Phase :=
  if self.quarantined then .quarantined
  else
    match self.currentSequence with
    | none => .fresh
    | some n =>
      if self.sendCompleted then .sent n
      else if self.actuatorApplied then .decided n
      else .sampled n

/-- The fields agree with each other: without a current sample nothing is applied, and with one
the next sequence is its successor. -/
structure Consistent (engine : PerturbationEngine) : Prop where
  fresh : engine.currentSequence = none → engine.nextSequence = none ∧
    engine.sequenceExhausted = false ∧ engine.actuatorApplied = false ∧ engine.sendCompleted = false
  next : ∀ n, engine.currentSequence = some n → engine.nextSequence = some (n + 1) ∧
    engine.sequenceExhausted = (n == u64Max)
  applied : engine.sendCompleted = true → engine.actuatorApplied = true

variable {self : PerturbationEngine} {n : UInt64}

/-- What the check of a sample's sequence does. -/
theorem checkSensorSequence_cases (self : PerturbationEngine) (n : UInt64) :
    (∃ e, self.checkSensorSequence n = (.error e, { self with quarantined := true }) ∧
      (self.quarantined = true → e = .quarantined)) ∨
    (self.quarantined = false ∧ (self.currentSequence.isSome = true → self.sendCompleted = true) ∧
      self.sequenceExhausted = false ∧ (∀ m, self.nextSequence = some m → n = m) ∧
      self.checkSensorSequence n = (.ok (), { self with
        nextSequence := some (n + 1)
        currentSequence := some n
        sequenceExhausted := n == u64Max
        actuatorApplied := false
        sendCompleted := false })) := by
  unfold checkSensorSequence
  by_cases hquarantined : self.quarantined = true
  · rw [if_pos hquarantined]
    refine .inl ⟨.quarantined, ?_, fun _ => rfl⟩
    rw [← hquarantined]
  rw [if_neg hquarantined]
  cases hcurrent : self.currentSequence.filter fun _ => !self.sendCompleted with
  | some current => exact .inl ⟨_, rfl, fun h => absurd h hquarantined⟩
  | none =>
    dsimp only
    by_cases hexhausted : self.sequenceExhausted = true
    · rw [if_pos hexhausted]
      exact .inl ⟨_, rfl, fun h => absurd h hquarantined⟩
    rw [if_neg hexhausted]
    by_cases hnext : self.nextSequence.any (n != ·) = true
    · rw [if_pos hnext]
      exact .inl ⟨_, rfl, fun h => absurd h hquarantined⟩
    rw [if_neg hnext]
    refine .inr ⟨Bool.eq_false_iff.mpr hquarantined, ?_, Bool.eq_false_iff.mpr hexhausted, ?_, rfl⟩
    · intro hsome
      obtain ⟨m, hm⟩ := Option.isSome_iff_exists.mp hsome
      simpa [hm, Option.filter] using hcurrent
    · intro m hm
      simpa [hm] using hnext

/-- What the check of a decision's sequence does. -/
theorem checkActuatorSequence_cases (self : PerturbationEngine) (n : UInt64) :
    (∃ e, self.checkActuatorSequence n = (.error e, { self with quarantined := true }) ∧
      (self.quarantined = true → e = .quarantined)) ∨
    (self.quarantined = false ∧ self.currentSequence.getD u64Max = n ∧
      self.actuatorApplied = false ∧ self.checkActuatorSequence n = (.ok (), self)) := by
  unfold checkActuatorSequence
  by_cases hquarantined : self.quarantined = true
  · rw [if_pos hquarantined]
    refine .inl ⟨.quarantined, ?_, fun _ => rfl⟩
    rw [← hquarantined]
  rw [if_neg hquarantined]
  dsimp only
  by_cases hcurrent : self.currentSequence.getD u64Max ≠ n
  · rw [if_pos hcurrent]
    exact .inl ⟨_, rfl, fun h => absurd h hquarantined⟩
  rw [if_neg hcurrent]
  by_cases happlied : self.actuatorApplied = true
  · rw [if_pos happlied]
    exact .inl ⟨_, rfl, fun h => absurd h hquarantined⟩
  rw [if_neg happlied]
  exact .inr ⟨Bool.eq_false_iff.mpr hquarantined, not_not.mp hcurrent,
    Bool.eq_false_iff.mpr happlied, rfl⟩

/-- What the check of a send's sequence does. -/
theorem checkSendSequence_cases (self : PerturbationEngine) (n : UInt64) :
    (∃ e, self.checkSendSequence n = (.error e, { self with quarantined := true }) ∧
      (self.quarantined = true → e = .quarantined)) ∨
    (self.quarantined = false ∧ self.currentSequence.getD u64Max = n ∧
      self.actuatorApplied = true ∧ self.sendCompleted = false ∧
      self.checkSendSequence n = (.ok (), self)) := by
  unfold checkSendSequence
  by_cases hquarantined : self.quarantined = true
  · rw [if_pos hquarantined]
    refine .inl ⟨.quarantined, ?_, fun _ => rfl⟩
    rw [← hquarantined]
  rw [if_neg hquarantined]
  dsimp only
  by_cases hcurrent : (self.currentSequence.getD u64Max ≠ n || !self.actuatorApplied) = true
  · rw [if_pos hcurrent]
    exact .inl ⟨_, rfl, fun h => absurd h hquarantined⟩
  rw [if_neg hcurrent]
  by_cases hcompleted : self.sendCompleted = true
  · rw [if_pos hcompleted]
    exact .inl ⟨_, rfl, fun h => absurd h hquarantined⟩
  rw [if_neg hcompleted]
  simp only [Bool.or_eq_true, decide_eq_true_eq, Bool.not_eq_true', not_or, not_not,
    Bool.not_eq_false] at hcurrent
  exact .inr ⟨Bool.eq_false_iff.mpr hquarantined, hcurrent.1, hcurrent.2,
    Bool.eq_false_iff.mpr hcompleted, rfl⟩

/-! ## One call, one move -/

theorem phase_of_quarantined (h : self.quarantined = true) : self.phase = .quarantined := if_pos h

/-- A refusal is a move, which quarantines. -/
theorem move_refused {e : PerturbationError} {next : PerturbationEngine}
    (he : self.quarantined = true → e = .quarantined) (hnext : next.quarantined = true) :
    Phase.Move self.phase (.refused e) next.phase := by
  rw [phase_of_quarantined hnext]
  by_cases hquarantined : self.quarantined = true
  · rw [phase_of_quarantined hquarantined, he hquarantined]
    exact .quarantined
  · refine .refuse ?_ e
    unfold phase
    rw [if_neg hquarantined]
    repeat' split
    all_goals nofun

theorem Consistent.quarantine (h : self.Consistent) :
    Consistent { self with quarantined := true } :=
  ⟨h.fresh, h.next, h.applied⟩

/-- The successor of a sequence that is not the last one does not wrap. -/
theorem follows_succ {m : UInt64} (h : (m == u64Max) = false) : Follows m (m + 1) := by
  have hne : m ≠ u64Max := by simpa using h
  have hlt : m.toNat < 2 ^ 64 - 1 := by
    have hne' : m.toNat ≠ u64Max.toNat := fun h => hne (UInt64.toNat_inj.mp h)
    have hbound := m.toNat_lt
    have hmax : u64Max.toNat = 2 ^ 64 - 1 := rfl
    omega
  rw [Follows, UInt64.toNat_add, UInt64.toNat_one, Nat.mod_eq_of_lt (by omega)]

section Steps

variable [Sha256]

/-- What a call came to. -/
def outcome (event : Machine.Event PerturbationEngine Call Answer) : Outcome :=
  match event.out.refusal with
  | some e => .refused e
  | none =>
    match event.op with
    | .applySensor n _ => .sampled n
    | .applyActuator n _ _ _ => .decided n
    | .completeActuatorSend n _ => .sent n

theorem phase_applySensor (h : self.Consistent) (packet : SimSensorPacket) :
    Phase.Move self.phase (outcome (machine.event self (.applySensor n packet)))
        (machine.step self (.applySensor n packet)).1.phase ∧
      (machine.step self (.applySensor n packet)).1.Consistent := by
  rcases self.checkSensorSequence_cases n with
    ⟨e, hcheck, he⟩ | ⟨hquarantined, hsent, hexhausted, hnext, hcheck⟩
  · simp only [outcome, Machine.event, machine, applySensor, hcheck, Answer.refusal]
    exact ⟨move_refused he rfl, h.quarantine⟩
  -- What the cycle allows here is a first sample, or the next one after a completed send.
  have hmove : ∀ next : PerturbationEngine, next.quarantined = false →
      next.currentSequence = some n → next.sendCompleted = false → next.actuatorApplied = false →
      Phase.Move self.phase (.sampled n) next.phase := by
    intro next hopen hcurrent hsend happlied
    have hphase : next.phase = .sampled n := by
      simp [phase, hopen, hcurrent, hsend, happlied]
    rw [hphase]
    cases hbefore : self.currentSequence with
    | none =>
      have hfresh : self.phase = .fresh := by simp [phase, hquarantined, hbefore]
      rw [hfresh]
      exact .first n
    | some m =>
      have hdone : self.phase = .sent m := by
        simp [phase, hquarantined, hbefore, hsent (by rw [hbefore]; rfl)]
      obtain ⟨hsuccessor, hlast⟩ := h.next m hbefore
      rw [hdone, hnext _ hsuccessor]
      exact .next (follows_succ (hlast.symm.trans hexhausted))
  simp only [outcome, Machine.event, machine, applySensor, hcheck]
  rcases self.sensor.apply n packet with ⟨e | application, effective⟩
  · refine ⟨move_refused (fun hset => absurd hset (by simp [hquarantined])) rfl, ?_⟩
    exact ⟨(fun h => by cases h), fun m hm => by cases hm; exact ⟨rfl, rfl⟩, fun h => by cases h⟩
  · refine ⟨hmove _ hquarantined rfl rfl rfl, ?_⟩
    exact ⟨(fun h => by cases h), fun m hm => by cases hm; exact ⟨rfl, rfl⟩, fun h => by cases h⟩

/-- A decision is a move, unless it is accepted without a current sample. -/
theorem phase_applyActuator (h : self.Consistent) (command : SimActuatorCmd)
    (eligibility : ActuatorEligibility) (mask : UInt8)
    (hcurrent : self.currentSequence = none →
      (self.applyActuator n command eligibility mask).1.isOk = false) :
    Phase.Move self.phase
        (outcome (machine.event self (.applyActuator n command eligibility mask)))
        (machine.step self (.applyActuator n command eligibility mask)).1.phase ∧
      (machine.step self (.applyActuator n command eligibility mask)).1.Consistent := by
  rcases self.checkActuatorSequence_cases n with
    ⟨e, hcheck, he⟩ | ⟨hquarantined, hsequence, happlied, hcheck⟩
  · simp only [outcome, Machine.event, machine, applyActuator, hcheck, Answer.refusal]
    exact ⟨move_refused he rfl, h.quarantine⟩
  simp only [applyActuator, hcheck] at hcurrent
  simp only [outcome, Machine.event, machine, applyActuator, hcheck]
  rcases hresult : self.actuator.apply n command eligibility mask with
    ⟨e | application, changed, actuator⟩
  · exact ⟨move_refused (fun hset => absurd hset (by simp [hquarantined])) rfl,
      h.fresh, h.next, h.applied⟩
  · obtain ⟨m, hbefore⟩ : ∃ m, self.currentSequence = some m := by
      cases hbefore : self.currentSequence with
      | none =>
        have hrefused := hcurrent hbefore
        rw [hresult] at hrefused
        cases hrefused
      | some m => exact ⟨m, rfl⟩
    obtain rfl : m = n := by simpa [hbefore] using hsequence
    have hunsent : self.sendCompleted = false := by
      cases hsent : self.sendCompleted with
      | false => rfl
      | true => exact absurd (h.applied hsent) (by simp [happlied])
    have hsampled : self.phase = .sampled m := by
      simp [phase, hquarantined, hbefore, hunsent, happlied]
    have hdecided : phase { self with actuator, actuatorApplied := true } = .decided m := by
      simp [phase, hquarantined, hbefore, hunsent]
    have hmove : Phase.Move (.sampled m) (.decided m)
        (phase { self with actuator, actuatorApplied := true }) := by
      rw [hdecided]
      exact .decide m
    rw [hsampled]
    exact ⟨hmove, fun hnone => Option.some_ne_none m (hbefore.symm.trans hnone) |>.elim, h.next,
      fun _ => rfl⟩

theorem phase_completeActuatorSend (h : self.Consistent) (succeeded : Bool) :
    Phase.Move self.phase (outcome (machine.event self (.completeActuatorSend n succeeded)))
        (machine.step self (.completeActuatorSend n succeeded)).1.phase ∧
      (machine.step self (.completeActuatorSend n succeeded)).1.Consistent := by
  rcases self.checkSendSequence_cases n with
    ⟨e, hcheck, he⟩ | ⟨hquarantined, hsequence, happlied, hunsent, hcheck⟩
  · simp only [outcome, Machine.event, machine, completeActuatorSend, hcheck, Answer.refusal]
    exact ⟨move_refused he rfl, h.quarantine⟩
  obtain ⟨m, hbefore⟩ : ∃ m, self.currentSequence = some m := by
    cases hcurrent : self.currentSequence with
    | none => exact absurd (h.fresh hcurrent).2.2.1 (by simp [happlied])
    | some m => exact ⟨m, rfl⟩
  obtain rfl : m = n := by simpa [hbefore] using hsequence
  have hsome : self.currentSequence ≠ none := by simp [hbefore]
  simp only [outcome, Machine.event, machine, completeActuatorSend, hcheck]
  cases succeeded with
  | false =>
    exact ⟨move_refused (fun hset => absurd hset (by simp [hquarantined])) rfl,
      fun hnone => absurd hnone hsome, h.next, fun _ => happlied⟩
  | true =>
    have hdecided : self.phase = .decided m := by
      simp [phase, hquarantined, hbefore, hunsent, happlied]
    have hsent : phase { self with sendCompleted := true } = .sent m := by
      simp [phase, hquarantined, hbefore]
    have hmove : Phase.Move (.decided m) (.sent m)
        (phase { self with sendCompleted := true }) := by
      rw [hsent]
      exact .send m
    rw [hdecided]
    exact ⟨hmove, fun hnone => absurd hnone hsome, h.next, fun _ => happlied⟩

/-! ## Runs -/

/-- What the calls of a run came to, in order. -/
def outcomes (self : PerturbationEngine) (calls : List Call) : List Outcome :=
  (machine.trace self calls).map outcome

omit [Sha256] in
/-- The actuator engine takes a command: it bypasses it, or its lane count is valid. -/
def Takes (command : SimActuatorCmd) (eligibility : ActuatorEligibility) : Prop :=
  eligibility ≠ .eligible ∨ command.count ≤ 16

/-- The run begins with a decision for `u64::MAX` that the actuator engine takes. -/
def BeginsUnsampled : List Call → Prop
  | .applyActuator n command eligibility _ :: _ => n = u64Max ∧ Takes command eligibility
  | _ => False

/-- Without a current sample a decision is accepted in the first phase only. -/
theorem refused_of_phase_ne_fresh (h : self.phase ≠ .fresh) (hcurrent : self.currentSequence = none)
    (command : SimActuatorCmd) (eligibility : ActuatorEligibility) (mask : UInt8) :
    (self.applyActuator n command eligibility mask).1.isOk = false := by
  have hquarantined : self.quarantined = true := by
    by_contra hopen
    exact h (by simp [phase, hopen, hcurrent])
  simp [applyActuator, checkActuatorSequence, hquarantined, Except.isOk, Except.toBool]

/-- Every call is one move of the cycle, if a decision needs a current sample. -/
theorem phase_step (h : self.Consistent) (call : Call)
    (hcurrent : ∀ n command eligibility mask, call = .applyActuator n command eligibility mask →
      self.currentSequence = none →
      (self.applyActuator n command eligibility mask).1.isOk = false) :
    Phase.Move self.phase (outcome (machine.event self call)) (machine.step self call).1.phase ∧
      (machine.step self call).1.Consistent := by
  cases call with
  | applySensor n packet => exact phase_applySensor h packet
  | applyActuator n command eligibility mask =>
    exact phase_applyActuator h command eligibility mask (hcurrent _ _ _ _ rfl)
  | completeActuatorSend n succeeded => exact phase_completeActuatorSend h succeeded

omit [Sha256] in
/-- Every call leads out of the first phase. -/
theorem ne_fresh_of_move {p q : Phase} {x : Outcome} (h : Phase.Move p x q) : q ≠ .fresh := by
  cases h <;> nofun

/-- A run out of the first phase is a path of the cycle. -/
theorem path_of_ne_fresh (h : self.Consistent) (hphase : self.phase ≠ .fresh)
    (calls : List Call) :
    Phase.system.Path self.phase (outcomes self calls) (machine.run self calls).phase := by
  induction calls generalizing self with
  | nil => exact .nil _
  | cons call calls ih =>
    obtain ⟨hmove, hconsistent⟩ := phase_step h call fun _ _ _ _ _ hcurrent =>
      refused_of_phase_ne_fresh hphase hcurrent _ _ _
    exact .cons hmove (ih hconsistent (ne_fresh_of_move hmove))

section Created

variable {config : PerturbationConfig} {engine : PerturbationEngine}

omit [Sha256] in
/-- A new engine has nothing under way. -/
theorem new_eq_ok (h : PerturbationEngine.new config = .ok engine) :
    ∃ sensor actuator, ActuatorEngine.new config.identity config.actuator = .ok actuator ∧
      engine =
        { sensor, actuator, nextSequence := none, currentSequence := none
          sequenceExhausted := false, actuatorApplied := false, sendCompleted := false
          quarantined := false } := by
  unfold PerturbationEngine.new at h
  cases hidentity : validateIdentity config.identity with
  | error e => rw [hidentity] at h; cases h
  | ok _ =>
  cases hsensor : SensorEngine.new config.identity config.sensorNoise with
  | error e => rw [hidentity, hsensor] at h; cases h
  | ok sensor =>
  cases hactuator : ActuatorEngine.new config.identity config.actuator with
  | error e => rw [hidentity, hsensor, hactuator] at h; cases h
  | ok actuator =>
    rw [hidentity, hsensor, hactuator] at h
    cases h
    exact ⟨sensor, actuator, rfl, rfl⟩

omit [Sha256] in
theorem consistent_new (h : PerturbationEngine.new config = .ok engine) :
    engine.Consistent ∧ engine.phase = .fresh := by
  obtain ⟨sensor, actuator, -, rfl⟩ := new_eq_ok h
  exact ⟨⟨fun _ => ⟨rfl, rfl, rfl, rfl⟩, nofun, nofun⟩, rfl⟩

/-- A new engine accepts a decision without a sample exactly for `u64::MAX`, if the actuator
engine takes it. -/
theorem isOk_applyActuator_new (h : PerturbationEngine.new config = .ok engine)
    (command : SimActuatorCmd) (eligibility : ActuatorEligibility) (mask : UInt8) :
    (engine.applyActuator n command eligibility mask).1.isOk = true ↔
      n = u64Max ∧ Takes command eligibility := by
  obtain ⟨sensor, actuator, hactuator, rfl⟩ := new_eq_ok h
  obtain ⟨-, rfl⟩ := ActuatorEngine.new_eq_ok hactuator
  by_cases hn : u64Max = n
  · subst hn
    have hcheck := @ActuatorEngine.isOk_apply_unprimed _
      { identity := config.identity, config := config.actuator, state := HoldState.new }
      rfl u64Max command eligibility mask
    rw [Takes, ← hcheck]
    simp only [applyActuator, checkActuatorSequence, Option.getD_none, ne_eq, not_true_eq_false,
      if_false, Bool.false_eq_true, true_and]
    rcases ActuatorEngine.apply _ u64Max command eligibility mask with ⟨e | application, _, _⟩ <;>
      simp [Except.isOk, Except.toBool]
  · simp [applyActuator, checkActuatorSequence, refuse, hn, Ne.symm hn, Except.isOk, Except.toBool]

/-- A run that does not begin with an unsampled decision is a path of the cycle. -/
theorem path_of_not_begins (h : PerturbationEngine.new config = .ok engine) {calls : List Call}
    (hbegins : ¬ BeginsUnsampled calls) :
    Phase.system.Path .fresh (outcomes engine calls) (machine.run engine calls).phase := by
  obtain ⟨hconsistent, hfresh⟩ := consistent_new h
  rw [← hfresh]
  cases calls with
  | nil => exact .nil _
  | cons call calls =>
    obtain ⟨hmove, hnext⟩ := phase_step hconsistent call
      fun n command eligibility mask hcall _ => by
      subst hcall
      rw [← Bool.not_eq_true, isOk_applyActuator_new h]
      exact hbegins
    exact .cons hmove (path_of_ne_fresh hnext (ne_fresh_of_move hmove) calls)

/-- A decision accepted before the first sample breaks the protocol. -/
theorem not_protocol_of_begins (h : PerturbationEngine.new config = .ok engine) {calls : List Call}
    (hbegins : BeginsUnsampled calls) : ¬ Protocol (outcomes engine calls) := by
  intro hprotocol
  rcases calls with _ | ⟨call, rest⟩
  · exact hbegins.elim
  cases call with
  | applySensor | completeActuatorSend => exact hbegins.elim
  | applyActuator n command eligibility mask =>
    have haccepted := (isOk_applyActuator_new h command eligibility mask).mpr hbegins
    have hfirst : outcome (machine.event engine (.applyActuator n command eligibility mask)) =
        .decided n := by
      simp only [outcome, Machine.event, machine]
      rcases hresult : engine.applyActuator n command eligibility mask with
        ⟨e | application, _, _⟩
      · rw [hresult] at haccepted
        cases haccepted
      · rfl
    have hcurrent := hprotocol.current [] n
      (outcomes (machine.step engine (.applyActuator n command eligibility mask)).1 rest)
      (congrArg (· :: _) hfirst)
    cases hcurrent

/-- A run keeps the protocol if and only if its first call is no decision for `u64::MAX` that the
actuator engine takes. -/
theorem protocol_iff (h : PerturbationEngine.new config = .ok engine) (calls : List Call) :
    Protocol (outcomes engine calls) ↔ ¬ BeginsUnsampled calls :=
  ⟨fun hprotocol hbegins => not_protocol_of_begins h hbegins hprotocol,
    fun hbegins => protocol_of_path (path_of_not_begins h hbegins)⟩

/-! ## Examples -/

def exampleConfig : PerturbationConfig :=
  { identity := { conditionDigest := Vector.replicate 32 1, runSeed := 7 }
    sensorNoise := []
    actuator := { authorityScaleBasisPoints := nominalBasisPoints, commandHold := none } }

def exampleEngine : PerturbationEngine :=
  { sensor := { identity := exampleConfig.identity, requests := [] }
    actuator := { identity := exampleConfig.identity, config := exampleConfig.actuator
                  state := HoldState.new }
    nextSequence := none
    currentSequence := none
    sequenceExhausted := false
    actuatorApplied := false
    sendCompleted := false
    quarantined := false }

abbrev exampleSha256 : Sha256 := ⟨fun _ => Vector.replicate 32 0⟩

omit [Sha256] in
/-- A sample, its decision and its send. -/
theorem protocol_iff_cycle :
    PerturbationEngine.new exampleConfig = .ok exampleEngine ∧
      Protocol (@outcomes exampleSha256 exampleEngine
        [.applySensor 7 (.new 0), .applyActuator 7 (.new 0 4 true) .eligible 0,
          .completeActuatorSend 7 true]) :=
  ⟨by decide +kernel,
    (@protocol_iff exampleSha256 exampleConfig exampleEngine (by decide +kernel) _).mpr id⟩

omit [Sha256] in
/-- A decision for `u64::MAX` is accepted before any sample. -/
theorem unsampled_decision :
    PerturbationEngine.new exampleConfig = .ok exampleEngine ∧
      ¬ Protocol (@outcomes exampleSha256 exampleEngine
        [.applyActuator u64Max (.new 0 4 true) .eligible 0]) :=
  ⟨by decide +kernel, @not_protocol_of_begins exampleSha256 exampleConfig exampleEngine
    (by decide +kernel) _ ⟨rfl, .inr (by decide)⟩⟩

end Created

end Steps

end PerturbationEngine

end Aviate.Perturbation
