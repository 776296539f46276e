import Aviate.XPlane.Board

/-!
# The reset lifecycle of the X-Plane board

The board's lifecycle and the backend's pending reset are two states that have to agree.

Results:
1. `coherent_pollSample`, `coherent_beginReset`: the board is resetting only under a pending
   reset, and leaves it at a complete marked group received after the request, as long as every
   request is written.
2. `resetContract_iff`: a run keeps the contract of a reset if and only if every request that is
   made finds the link up and is written whole. Otherwise the board stays resetting without a
   pending reset, and the next sample ends it.
-/

namespace Aviate.XPlane

open Hil Perturbation HilBackend

/-! ## The contract -/

/-- The group ends the reset of the generation accepted last, and was received after that. -/
def OfGeneration (before : List LogEntry) (acknowledgment : Acknowledgment) : Prop :=
  ∃ early late, before = early ++ LogEntry.accepted acknowledgment.generation :: late ∧
    (∀ generation, LogEntry.accepted generation ∉ late) ∧
    Consists (fun message => .received message ∈ late) acknowledgment.group acknowledgment.truth

/-- Every acknowledgment is a complete marked group of its generation. -/
def Acknowledged (log : List LogEntry) : Prop :=
  ∀ before acknowledgment after, log = before ++ LogEntry.acknowledged acknowledgment :: after →
    CompleteReset acknowledgment.group acknowledgment.truth ∧ OfGeneration before acknowledgment

namespace XPlaneBoard

abbrev Event := Machine.Event XPlaneBoard Op Output

/-- What happens in a run, in order. -/
def log (trace : List Event) : List LogEntry := trace.flatMap fun event => event.out.log

/-- What a run of the board has to keep. -/
structure ResetContract (trace : List Event) : Prop where
  resetting : ∀ event ∈ trace, event.post.session.lifecycle = .resetting →
    event.post.hilBackend.resetPending = true
  left : ∀ event ∈ trace, event.pre.session.lifecycle = .resetting →
    event.post.session.lifecycle = .converging ∨ event.post.session.lifecycle = .ready →
    ∃ acknowledgment, LogEntry.acknowledged acknowledgment ∈ event.out.log
  acknowledged : Acknowledged (log trace)
  retriable : ∀ event ∈ trace, ∀ e, event.out.reset = some (.error e) →
    event.post.session.lifecycle = event.pre.session.lifecycle

/-- The operation makes a reset request that is not written whole. -/
def FailsRequest (self : XPlaneBoard) : Op → Prop
  | .beginReset arrival outcome =>
    self.session.lifecycle ≠ .resetting ∧ self.hilBackend.resetPending = false ∧
      ¬ self.hilBackend.TakesRequest arrival outcome
  | _ => False

end XPlaneBoard

/-! ## Logs -/

section Logs

variable {entries : List LogEntry} {past : List LogEntry} {acknowledgment : Acknowledgment}

theorem acknowledged_append (h : Acknowledged past)
    (hentries : ∀ a, LogEntry.acknowledged a ∉ entries) : Acknowledged (past ++ entries) := by
  intro before a after hlog
  rcases List.append_eq_append_iff.mp hlog with ⟨tail, rfl, htail⟩ | ⟨tail, hpast, htail⟩
  · exact absurd (htail ▸ List.mem_append_right _ List.mem_cons_self) (hentries a)
  · cases tail with
    | nil =>
      rw [List.nil_append] at htail
      exact absurd (htail ▸ List.mem_cons_self) (hentries a)
    | cons entry tail =>
      obtain ⟨rfl, rfl⟩ := List.cons.inj htail
      exact h before a tail hpast

theorem acknowledged_concat (h : Acknowledged past)
    (hcomplete : CompleteReset acknowledgment.group acknowledgment.truth)
    (hgeneration : OfGeneration past acknowledgment) :
    Acknowledged (past ++ [LogEntry.acknowledged acknowledgment]) := by
  intro before a after hlog
  rcases List.eq_nil_or_concat after with rfl | ⟨rest, last, rfl⟩
  · obtain ⟨rfl, hlast⟩ := List.append_inj' hlog rfl
    cases hlast
    exact ⟨hcomplete, hgeneration⟩
  · rw [List.concat_eq_append, ← List.cons_append, ← List.append_assoc] at hlog
    obtain ⟨rfl, -⟩ := List.append_inj' hlog rfl
    exact h before a rest rfl

end Logs

namespace XPlaneBoard

/-! ## The invariant -/

/-- The two states agree, and what the link holds under a pending reset was received after its
generation was accepted. -/
structure Coherent (board : XPlaneBoard) (past : List LogEntry) : Prop where
  valid : ∃ engine, newPerturbation board.session.perturbation = .ok engine
  resetting : board.session.lifecycle = .resetting → board.hilBackend.resetPending = true
  since : board.hilBackend.resetPending = true → ∃ early late,
    past = early ++ LogEntry.accepted board.session.generation :: late ∧
      (∀ generation, LogEntry.accepted generation ∉ late) ∧
      ∀ message, board.hilBackend.Held message → .received message ∈ late
  acknowledged : Acknowledged past

variable {self : XPlaneBoard} {past : List LogEntry} {input : PollInput}

theorem not_mem_received (messages : List HilMessage) :
    (∀ a, LogEntry.acknowledged a ∉ messages.map LogEntry.received) ∧
      ∀ g, LogEntry.accepted g ∉ messages.map LogEntry.received := by
  constructor
  · intro a h
    obtain ⟨_, -, hsame⟩ := List.mem_map.mp h
    cases hsame
  · intro g h
    obtain ⟨_, -, hsame⟩ := List.mem_map.mp h
    cases hsame

theorem isResetting_iff :
    self.session.isResetting = true ↔ self.session.lifecycle = .resetting := by
  simp [XPlaneSessionState.isResetting]

/-- The messages a round receives. -/
def receivedIn (self : XPlaneBoard) (input : PollInput) : List HilMessage :=
  (self.hilBackend.poll input.arrival input.resend).1

/-- A round without a pending reset, outside a reset. -/
theorem pollSample_idle (hpending : self.hilBackend.resetPending = false)
    (hlifecycle : self.session.isResetting = false) :
    (self.pollSample input).1 = (self.receivedIn input).map .received ∧
      (self.pollSample input).2.2.session = self.session ∧
      (self.pollSample input).2.2.hilBackend.resetPending = false := by
  have hstill : (self.hilBackend.poll input.arrival input.resend).2.2.resetPending = false :=
    resetPending_poll hpending
  unfold pollSample receivedIn
  generalize self.hilBackend.poll input.arrival input.resend = polled at hstill
  obtain ⟨received, group, hil⟩ := polled
  cases group with
  | none => exact ⟨rfl, rfl, hstill⟩
  | some group =>
    simp only [hlifecycle, Bool.false_and, Bool.false_eq_true, if_false, List.append_nil]
    exact ⟨trivial, trivial, hstill⟩

/-- A round under a pending reset holds the sample back, or ends the reset. -/
theorem pollSample_pending (hpending : self.hilBackend.resetPending = true) :
    ((self.pollSample input).1 = (self.receivedIn input).map .received ∧
      (self.pollSample input).2.2.session = self.session ∧
      (self.pollSample input).2.2.hilBackend.resetPending = true ∧
      ∀ message, (self.pollSample input).2.2.hilBackend.Held message →
        self.hilBackend.Held message ∨ message ∈ self.receivedIn input) ∨
    ∃ group truth,
      (self.pollSample input).1 = (self.receivedIn input).map .received ++
        (if self.session.isResetting then
          [.acknowledged { generation := self.session.generation, group, truth }] else []) ∧
      (self.pollSample input).2.2.session = self.session.resetAcknowledged ∧
      (self.pollSample input).2.2.hilBackend.resetPending = false ∧
      CompleteReset group truth ∧
      Consists (fun message => self.hilBackend.Held message ∨ message ∈ self.receivedIn input)
        group truth := by
  have hheld : ∀ message, (self.hilBackend.poll input.arrival input.resend).2.2.Held message →
      self.hilBackend.Held message ∨
        message ∈ (self.hilBackend.poll input.arrival input.resend).1 := fun _ => held_poll
  have hcases := @poll_pending self.hilBackend input.arrival input.resend hpending
  unfold pollSample receivedIn
  generalize self.hilBackend.poll input.arrival input.resend = polled at hheld hcases
  obtain ⟨received, group, hil⟩ := polled
  rcases hcases with ⟨hgroup, hstill⟩ | ⟨group, hgroup, hdone, hcomplete, hconsists⟩
  · obtain rfl : group = none := hgroup
    exact .inl ⟨rfl, rfl, hstill, hheld⟩
  · obtain rfl : _ = some group := hgroup
    have hdone' : hil.resetPending = false := hdone
    refine .inr ⟨group, hil.resetTruth, ?_⟩
    cases hlifecycle : self.session.isResetting with
    | true =>
      simp only [hlifecycle, hdone', Bool.not_false, Bool.and_self, if_true]
      exact ⟨trivial, trivial, hdone', hcomplete, hconsists⟩
    | false =>
      have hsame : self.session.resetAcknowledged = self.session := by
        simp [XPlaneSessionState.resetAcknowledged, hlifecycle]
      simp only [hlifecycle, Bool.false_and, Bool.false_eq_true, if_false, hsame]
      exact ⟨trivial, trivial, hdone', hcomplete, hconsists⟩

/-- A round keeps the states together: a reset ends at its group, which was received since. -/
theorem coherent_pollSample (h : self.Coherent past) (input : PollInput) :
    (self.pollSample input).2.2.Coherent (past ++ (self.pollSample input).1) := by
  have hreceived := not_mem_received (self.receivedIn input)
  have hlog := acknowledged_append h.acknowledged hreceived.1
  cases hpending : self.hilBackend.resetPending with
  | false =>
    have hlifecycle : self.session.isResetting = false := by
      by_contra hresetting
      rw [Bool.not_eq_false, isResetting_iff] at hresetting
      exact absurd ((h.resetting hresetting).symm.trans hpending) Bool.false_ne_true.symm
    obtain ⟨hentries, hsession, hstill⟩ := @pollSample_idle _ input hpending hlifecycle
    rw [hentries]
    refine ⟨?_, ?_, fun hset => absurd (hstill.symm.trans hset) Bool.false_ne_true, hlog⟩
    · rw [hsession]
      exact h.valid
    · rw [hsession]
      intro hresetting
      exact absurd (isResetting_iff.mpr hresetting) (by simp [hlifecycle])
  | true =>
    obtain ⟨early, late, hpast, hlate, hheld⟩ := h.since hpending
    have hlate' : ∀ g, LogEntry.accepted g ∉ late ++ (self.receivedIn input).map .received := by
      intro g hmem
      exact (List.mem_append.mp hmem).elim (hlate g) (hreceived.2 g)
    have hmem : ∀ message, self.hilBackend.Held message ∨ message ∈ self.receivedIn input →
        LogEntry.received message ∈ late ++ (self.receivedIn input).map .received := by
      rintro message (hbefore | hnow)
      · exact List.mem_append_left _ (hheld message hbefore)
      · exact List.mem_append_right _ (List.mem_map_of_mem hnow)
    have hsplit : past ++ (self.receivedIn input).map .received =
        early ++ LogEntry.accepted self.session.generation ::
          (late ++ (self.receivedIn input).map .received) := by
      rw [hpast, List.append_assoc, List.cons_append]
    rcases @pollSample_pending _ input hpending with
      ⟨hentries, hsession, hstill, hqueues⟩ |
        ⟨group, truth, hentries, hsession, hdone, hcomplete, hconsists⟩
    · rw [hentries]
      refine ⟨?_, fun _ => hstill, fun _ => ⟨early, _, ?_, hlate', ?_⟩, hlog⟩
      · rw [hsession]
        exact h.valid
      · rw [hsession]
        exact hsplit
      · exact fun message hnow => hmem message (hqueues message hnow)
    · have hended : (self.pollSample input).2.2.session.lifecycle ≠ .resetting := by
        rw [hsession]
        unfold XPlaneSessionState.resetAcknowledged
        split
        · exact fun h => by cases h
        · rename_i hnot
          exact fun hresetting => hnot (isResetting_iff.mpr hresetting)
      have hvalid : ∃ engine,
          newPerturbation (self.pollSample input).2.2.session.perturbation = .ok engine := by
        rw [hsession]
        unfold XPlaneSessionState.resetAcknowledged
        split <;> exact h.valid
      refine ⟨hvalid, fun hresetting => absurd hresetting hended,
        fun hset => absurd (hdone.symm.trans hset) Bool.false_ne_true, ?_⟩
      rw [hentries]
      split
      · rw [← List.append_assoc]
        refine acknowledged_concat hlog hcomplete ⟨early, _, hsplit, hlate', ?_⟩
        exact ⟨hmem _ hconsists.sensor, fun gps hgps => hmem _ (hconsists.gps gps hgps),
          fun state hstate => hmem _ (hconsists.truth state hstate)⟩
      · rwa [List.append_nil]

/-- The loop keeps the states together. -/
theorem coherent_drain (h : self.Coherent past) (samples : Nat) (inputs : List PollInput) :
    (self.drain samples inputs).2.Coherent (past ++ (self.drain samples inputs).1) := by
  induction samples generalizing self past inputs with
  | zero =>
    rw [drain, List.append_nil]
    exact h
  | succ samples ih =>
    have hround := coherent_pollSample h (inputs.headD .quiet)
    unfold drain
    dsimp only
    split
    · have hrest := ih hround inputs.tail
      rwa [List.append_assoc] at hrest
    · exact hround

/-- What does not touch the backend or start a reset keeps the states together. -/
theorem Coherent.of_session {board : XPlaneBoard} (h : self.Coherent past)
    (hbackend : board.hilBackend = self.hilBackend)
    (hperturbation : board.session.perturbation = self.session.perturbation)
    (hgeneration : board.session.generation = self.session.generation)
    (hlifecycle : board.session.lifecycle = .resetting → self.session.lifecycle = .resetting) :
    board.Coherent past := by
  refine ⟨?_, ?_, ?_, h.acknowledged⟩
  · rw [hperturbation]
    exact h.valid
  · rw [hbackend]
    exact fun hresetting => h.resetting (hlifecycle hresetting)
  · rw [hbackend, hgeneration]
    exact h.since

theorem observeHealth_spec (session : XPlaneSessionState) (ready healthy : Bool) :
    (session.observeHealth ready healthy).perturbation = session.perturbation ∧
      (session.observeHealth ready healthy).generation = session.generation ∧
      ((session.observeHealth ready healthy).lifecycle = .resetting ↔
        session.lifecycle = .resetting) := by
  unfold XPlaneSessionState.observeHealth
  cases hlifecycle : session.lifecycle with
  | stopped => simp [hlifecycle]
  | resetting => simp [hlifecycle]
  | converging => cases ready <;> simp [hlifecycle]
  | ready => cases healthy <;> simp [hlifecycle]

/-! ## Reset requests -/

variable {arrival : Arrival} {outcome : WriteOutcome}

/-- A request while one is under way changes nothing. -/
theorem beginReset_busy
    (h : self.session.lifecycle = .resetting ∨ self.hilBackend.resetPending = true) :
    self.beginReset arrival outcome =
      (.error (.resetInProgress self.session.generation), [], self) := by
  unfold beginReset
  rw [if_pos]
  rw [Bool.or_eq_true, isResetting_iff]
  exact h

/-- A request that is made is accepted if it is written whole; else the board resets without a
pending reset. -/
theorem beginReset_cases
    (hvalid : ∃ engine, newPerturbation self.session.perturbation = .ok engine)
    (hlifecycle : self.session.lifecycle ≠ .resetting)
    (hpending : self.hilBackend.resetPending = false) (arrival : Arrival)
    (outcome : WriteOutcome) :
    (∃ received : List HilMessage, self.hilBackend.TakesRequest arrival outcome ∧
      (self.beginReset arrival outcome).1 = .ok (self.session.generation + 1) ∧
      (self.beginReset arrival outcome).2.1 =
        received.map .received ++ [LogEntry.accepted (self.session.generation + 1)] ∧
      (self.beginReset arrival outcome).2.2.session =
        { self.session with generation := self.session.generation + 1, lifecycle := .resetting } ∧
      (self.beginReset arrival outcome).2.2.hilBackend.resetPending = true ∧
      ∀ message, ¬ (self.beginReset arrival outcome).2.2.hilBackend.Held message) ∨
    ¬ self.hilBackend.TakesRequest arrival outcome ∧
      (∃ e, (self.beginReset arrival outcome).1 = .error e) ∧
      (self.beginReset arrival outcome).2.2.session.lifecycle = .resetting := by
  obtain ⟨engine, hengine⟩ := hvalid
  have hidle : (self.session.isResetting || self.hilBackend.resetPending) = false := by
    rw [hpending, Bool.or_false, ← Bool.not_eq_true, isResetting_iff]
    exact hlifecycle
  have hcases := requestReset_cases self.hilBackend arrival outcome hpending
  unfold beginReset
  rw [if_neg (by simp [hidle])]
  simp only [XPlaneSessionState.beginReset, hengine]
  generalize self.hilBackend.requestReset arrival outcome = requested at hcases
  obtain ⟨result, received, hil⟩ := requested
  rcases hcases with ⟨hok, htakes, hset, hheld⟩ | ⟨⟨e, herror⟩, htakes, hclear⟩
  · obtain rfl : result = .ok () := hok
    exact .inl ⟨received, htakes, rfl, rfl, rfl, hset, hheld⟩
  · obtain rfl : result = .error e := herror
    exact .inr ⟨htakes, ⟨_, rfl⟩, rfl⟩

/-- An accepted request keeps the states together. -/
theorem coherent_beginReset (h : self.Coherent past)
    (hrequest : ¬ self.FailsRequest (.beginReset arrival outcome)) :
    (self.beginReset arrival outcome).2.2.Coherent
        (past ++ (self.beginReset arrival outcome).2.1) ∧
      ∀ e, (self.beginReset arrival outcome).1 = .error e →
        (self.beginReset arrival outcome).2.2.session.lifecycle = self.session.lifecycle := by
  by_cases hbusy : self.session.lifecycle = .resetting ∨ self.hilBackend.resetPending = true
  · rw [beginReset_busy hbusy, List.append_nil]
    exact ⟨h, fun _ _ => rfl⟩
  rw [not_or, Bool.not_eq_true] at hbusy
  rcases beginReset_cases h.valid hbusy.1 hbusy.2 arrival outcome with
    ⟨received, -, hresult, hentries, hsession, hset, hheld⟩ | ⟨hfails, -, -⟩
  · refine ⟨⟨?_, fun _ => hset, fun _ => ⟨past ++ received.map .received, [], ?_, nofun, ?_⟩, ?_⟩,
      ?_⟩
    · rw [hsession]
      exact h.valid
    · rw [hentries, hsession, List.append_assoc]
    · exact fun message hmessage => absurd hmessage (hheld message)
    · rw [hentries, ← List.append_assoc]
      refine acknowledged_append (acknowledged_append h.acknowledged
        (not_mem_received received).1) fun a hmem => ?_
      exact nomatch List.mem_singleton.mp hmem
    · intro e herror
      rw [hresult] at herror
      cases herror
  · exact absurd ⟨hbusy.1, hbusy.2, hfails⟩ hrequest

/-! ## Runs -/

/-- One operation whose request, if it makes one, is written whole. -/
theorem coherent_step (h : self.Coherent past) {op : Op} (hrequest : ¬ self.FailsRequest op) :
    (machine.step self op).1.Coherent (past ++ (machine.step self op).2.log) := by
  cases op with
  | beginReset arrival outcome => exact (coherent_beginReset h hrequest).1
  | step inputs ready healthy =>
    simp only [machine, step]
    split
    · rw [List.append_nil]
      exact h
    · obtain ⟨hperturbation, hgeneration, hlifecycle⟩ := observeHealth_spec
        (self.drain (max 1 self.maxSamplesPerIteration) inputs).2.session ready healthy
      exact (coherent_drain h _ inputs).of_session rfl hperturbation hgeneration hlifecycle.mp
  | startSession ready =>
    simp only [machine, startSession, List.append_nil]
    split
    · refine h.of_session rfl rfl rfl fun hresetting => ?_
      cases ready <;> cases hresetting
    · exact h
  | stopSession =>
    simp only [machine, stopSession, List.append_nil]
    exact h.of_session rfl rfl rfl nofun

theorem pollSample_session (input : PollInput) :
    (self.pollSample input).2.2.session = self.session ∨
      ∃ acknowledgment, LogEntry.acknowledged acknowledgment ∈ (self.pollSample input).1 := by
  unfold pollSample
  obtain ⟨received, group, hil⟩ := self.hilBackend.poll input.arrival input.resend
  cases group with
  | none => exact .inl rfl
  | some group =>
    dsimp only
    split
    · exact .inr ⟨_, List.mem_append_right _ List.mem_cons_self⟩
    · exact .inl rfl

/-- The loop leaves a reset with an acknowledgment only. -/
theorem drain_session (samples : Nat) (inputs : List PollInput) :
    (self.drain samples inputs).2.session = self.session ∨
      ∃ acknowledgment, LogEntry.acknowledged acknowledgment ∈ (self.drain samples inputs).1 := by
  induction samples generalizing self inputs with
  | zero => exact .inl rfl
  | succ samples ih =>
    have hround := @pollSample_session self (inputs.headD .quiet)
    unfold drain
    dsimp only
    split
    · rcases hround with hsame | ⟨acknowledgment, hmem⟩
      · rcases @ih (self.pollSample (inputs.headD .quiet)).2.2 inputs.tail with
          hrest | ⟨acknowledgment, hmem⟩
        · exact .inl (hrest.trans hsame)
        · exact .inr ⟨acknowledgment, List.mem_append_right _ hmem⟩
      · exact .inr ⟨acknowledgment, List.mem_append_left _ hmem⟩
    · exact hround

/-- An operation that leaves a reset for another lifecycle than the stopped one acknowledges. -/
theorem acknowledged_of_left (op : Op) (hpre : self.session.lifecycle = .resetting)
    (hpost : (machine.step self op).1.session.lifecycle = .converging ∨
      (machine.step self op).1.session.lifecycle = .ready) :
    ∃ acknowledgment, LogEntry.acknowledged acknowledgment ∈ (machine.step self op).2.log := by
  have hstays : (machine.step self op).1.session.lifecycle ≠ .resetting := by
    rcases hpost with h | h <;> rw [h] <;> nofun
  cases op with
  | beginReset arrival outcome =>
    simp only [machine, beginReset_busy (.inl hpre)] at hstays
    exact absurd hpre hstays
  | step inputs ready healthy =>
    have hrunning : self.session.isStopped = false := by
      simp [XPlaneSessionState.isStopped, hpre]
    simp only [machine, step, hrunning, Bool.false_eq_true, if_false] at hstays ⊢
    rcases @drain_session self (max 1 self.maxSamplesPerIteration) inputs with
      hsame | hmem
    · rw [ne_eq, (observeHealth_spec _ ready healthy).2.2, hsame] at hstays
      exact absurd hpre hstays
    · exact hmem
  | startSession ready =>
    simp only [machine, startSession, hpre, reduceCtorEq, if_false] at hstays
    exact absurd rfl hstays
  | stopSession =>
    rcases hpost with h | h <;> cases h

/-! ### The condition of a session never changes -/

theorem pollSample_perturbation (input : PollInput) :
    (self.pollSample input).2.2.session.perturbation = self.session.perturbation := by
  unfold pollSample
  obtain ⟨received, group, hil⟩ := self.hilBackend.poll input.arrival input.resend
  cases group with
  | none => rfl
  | some group =>
    dsimp only
    split
    · unfold XPlaneSessionState.resetAcknowledged
      dsimp only
      split <;> rfl
    · rfl

theorem drain_perturbation (samples : Nat) (inputs : List PollInput) :
    (self.drain samples inputs).2.session.perturbation = self.session.perturbation := by
  induction samples generalizing self inputs with
  | zero => rfl
  | succ samples ih =>
    have hround := @pollSample_perturbation self (inputs.headD .quiet)
    unfold drain
    dsimp only
    split
    · exact (ih inputs.tail).trans hround
    · exact hround

theorem step_perturbation (op : Op) :
    (machine.step self op).1.session.perturbation = self.session.perturbation := by
  cases op with
  | beginReset arrival outcome =>
    simp only [machine, beginReset]
    split
    · rfl
    · cases newPerturbation self.session.beginReset.perturbation with
      | error source => rfl
      | ok engine =>
        dsimp only
        obtain ⟨e | _, received, hil⟩ := self.hilBackend.requestReset arrival outcome <;> rfl
  | step inputs ready healthy =>
    simp only [machine, step]
    split
    · rfl
    · exact (observeHealth_spec _ ready healthy).1.trans (drain_perturbation _ inputs)
  | startSession ready =>
    simp only [machine, startSession]
    split <;> rfl
  | stopSession => rfl

section Created

variable {board : XPlaneBoard} {connected : Bool} {perturbation : Option PerturbationConfig}
  {maxSamples : Nat}

theorem coherent_withConfig (h : withConfig connected perturbation maxSamples = .ok board) :
    board.Coherent [] := by
  unfold withConfig at h
  cases hengine : newPerturbation perturbation with
  | error e => rw [hengine] at h; cases h
  | ok engine =>
    rw [hengine] at h
    cases h
    refine ⟨⟨engine, hengine⟩, nofun, nofun, fun before _ after hlog => ?_⟩
    simp at hlog

/-- What a run whose requests are all written whole keeps. -/
theorem coherent_run (h : self.Coherent past) (ops : List Op)
    (hrequests : ∀ event ∈ machine.trace self ops, ¬ event.pre.FailsRequest event.op) :
    (machine.run self ops).Coherent (past ++ log (machine.trace self ops)) := by
  induction ops generalizing self past with
  | nil =>
    rw [Machine.trace_nil, log, List.flatMap_nil, List.append_nil]
    exact h
  | cons op ops ih =>
    rw [Machine.trace_cons, List.forall_mem_cons] at hrequests
    have hrest := ih (coherent_step h hrequests.1) hrequests.2
    rwa [List.append_assoc] at hrest

/-- Both ends of an event of such a run are coherent. -/
theorem coherent_event (h : self.Coherent []) {ops : List Op}
    (hrequests : ∀ event ∈ machine.trace self ops, ¬ event.pre.FailsRequest event.op)
    {event : Event} (hevent : event ∈ machine.trace self ops) :
    ∃ past, event.pre.Coherent past ∧ event.post.Coherent (past ++ event.out.log) ∧
      ¬ event.pre.FailsRequest event.op := by
  have hrequest := hrequests event hevent
  obtain ⟨ops₁, op, ops₂, rfl, rfl⟩ := Machine.mem_trace.mp hevent
  have hpre := coherent_run h ops₁ fun earlier hearlier => hrequests earlier (by
    rw [Machine.trace_append]
    exact List.mem_append_left _ hearlier)
  exact ⟨_, hpre, coherent_step hpre hrequest, hrequest⟩

/-- In a coherent run the board is resetting only under a pending reset, and a failed request
changes nothing. -/
theorem resetContract_of_coherent (h : self.Coherent []) (ops : List Op)
    (hrequests : ∀ event ∈ machine.trace self ops, ¬ event.pre.FailsRequest event.op) :
    ResetContract (machine.trace self ops) where
  acknowledged := by
    have hrun := coherent_run h ops hrequests
    rw [List.nil_append] at hrun
    exact hrun.acknowledged
  resetting := by
    intro event hevent
    obtain ⟨past, -, hpost, -⟩ := coherent_event h hrequests hevent
    exact hpost.resetting
  left := by
    intro event hevent hpre hpost
    obtain ⟨ops₁, op, ops₂, rfl, rfl⟩ := Machine.mem_trace.mp hevent
    exact acknowledged_of_left op hpre hpost
  retriable := by
    intro event hevent e herror
    obtain ⟨past, hpre, -, hrequest⟩ := coherent_event h hrequests hevent
    obtain ⟨ops₁, op, ops₂, rfl, rfl⟩ := Machine.mem_trace.mp hevent
    cases op with
    | beginReset arrival outcome =>
      exact (coherent_beginReset hpre hrequest).2 e (Option.some.inj herror)
    | step inputs ready healthy => cases herror
    | startSession ready => cases herror
    | stopSession => cases herror

/-- A request that is not written whole breaks the contract: the board is resetting, and cannot
be asked again. -/
theorem not_resetContract_of_failsRequest (h : self.Coherent []) {ops : List Op}
    (hfails : ∃ event ∈ machine.trace self ops, event.pre.FailsRequest event.op) :
    ¬ ResetContract (machine.trace self ops) := by
  rintro ⟨-, -, -, hretriable⟩
  obtain ⟨event, hevent, hfails⟩ := hfails
  have hkept := hretriable event hevent
  obtain ⟨ops₁, op, ops₂, rfl, rfl⟩ := Machine.mem_trace.mp hevent
  have hvalid : ∃ engine,
      newPerturbation (machine.run self ops₁).session.perturbation = .ok engine :=
    Machine.run_invariant
      (I := fun board : XPlaneBoard =>
        ∃ engine, newPerturbation board.session.perturbation = .ok engine)
      (fun _ op hengine => by rwa [step_perturbation op]) h.valid
  cases op with
  | beginReset arrival outcome =>
    obtain ⟨hlifecycle, hpending, htakes⟩ := hfails
    rcases beginReset_cases hvalid hlifecycle hpending arrival outcome with
      ⟨-, htaken, -⟩ | ⟨-, ⟨e, herror⟩, hresetting⟩
    · exact htakes htaken
    · exact hlifecycle ((hkept e (congrArg some herror)).symm.trans hresetting)
  | step inputs ready healthy => exact hfails
  | startSession ready => exact hfails
  | stopSession => exact hfails

/-- A run keeps the contract if and only if every reset request it makes is written whole. -/
theorem resetContract_iff (h : withConfig connected perturbation maxSamples = .ok board)
    (ops : List Op) :
    ResetContract (machine.trace board ops) ↔
      ∀ event ∈ machine.trace board ops, ¬ event.pre.FailsRequest event.op := by
  have hstart := coherent_withConfig h
  constructor
  · intro hcontract event hevent hfails
    exact not_resetContract_of_failsRequest hstart ⟨event, hevent, hfails⟩ hcontract
  · exact resetContract_of_coherent hstart ops

end Created

/-- A board without perturbations whose first connection attempt came out as given. -/
def freshBoard (connected : Bool) : XPlaneBoard :=
  { hilBackend :=
      { link :=
          { connected
            transport :=
              { rx := [], rxCount := 0, crcErrors := 0, sensors := [], droppedSensors := 0
                gps := [], stateQuaternions := [] } }
        lastSensorTimeUs := 0
        resetPending := false
        resetTruth := none }
    session := .new none
    sampleSequence := 0
    maxSamplesPerIteration := 4 }

/-- A request on a link that is up, a step, and a stop. -/
theorem resetContract_iff_connected :
    withConfig true none 4 = .ok (freshBoard true) ∧
      ResetContract (machine.trace (freshBoard true)
        [.beginReset .quiet .written, .step [.quiet] true true, .stopSession]) := by
  refine ⟨rfl, (@resetContract_iff (freshBoard true) true none 4 rfl _).mpr ?_⟩
  simp only [Machine.trace_cons, Machine.trace_nil, Machine.event, List.forall_mem_cons,
    FailsRequest, not_false_eq_true, true_and]
  exact ⟨fun hfails => hfails.2.2 ⟨rfl, rfl⟩, fun _ hmem => absurd hmem List.not_mem_nil⟩

/-- A request while the link is down leaves the board resetting, and the link has nothing
pending. -/
theorem request_lost :
    withConfig false none 4 = .ok (freshBoard false) ∧
      ¬ ResetContract (machine.trace (freshBoard false) [.beginReset .quiet .written]) := by
  refine ⟨rfl, not_resetContract_of_failsRequest (@coherent_withConfig _ false none 4 rfl)
    ⟨_, List.mem_cons_self, ?_⟩⟩
  exact ⟨nofun, rfl, fun htakes => nomatch htakes.1⟩

end XPlaneBoard

end Aviate.XPlane
