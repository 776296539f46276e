import Aviate.Foundations.Machine
import Aviate.Jsbsim.Board
import Aviate.Synthesis.Agreement

/-!
# One TCP session is one world

The board under every order of its steps, waits, resets, starts and stops, of failed and successful
dials, and of connections that end at any moment.

Results:
1. Where the times of each session do not run backwards, two truth states that are taken have the
   same generation exactly when they were sent on the same session; the steps of a generation are
   counted from zero; and a reply is idle or computed on a state of its own session, to which it is
   written (`one_session_one_world`).
2. States taken after a reset were sent on sessions opened after it.
-/

namespace Aviate.Jsbsim

open Hil (ActuatorSendReceipt Arrival HilStateQuaternion LinkLog LinkReport PeekOutcome TruthBackend
  WriteOutcome idleCommand)
open Perturbation (SimActuatorCmd)
open Synthesis (TruthSample StepSynthesizer SynthesisError)

/-! ## Runs of the board -/

/-- One call of the board. `fly` is any other work on the flight controller, such as arming. -/
inductive BoardOp (fc : FlightController) where
  | step (arrival : Arrival) (input : fc.Input) (outcome : WriteOutcome)
  | waitForTruth (peek : PeekOutcome)
  | beginReset (arrival : Arrival)
  | startSession
  | stopSession
  | fly (change : fc.State → fc.State)

/-- What a call did: to the link, and to a truth state. -/
structure BoardReport where
  link : LinkReport
  answered : Option Answered

variable {models : JsbsimModels} {fc : FlightController}

/-- The board under its calls. -/
def machine (models : JsbsimModels) (fc : FlightController) :
    Machine (JsbsimBoard models fc) (BoardOp fc) BoardReport where
  step board
    | .step arrival input outcome =>
      let (answered, next) := board.step arrival input outcome
      (next, ⟨board.backend.report arrival, answered⟩)
    | .waitForTruth peek => ((board.waitForTruth peek).2, ⟨.quiet, none⟩)
    | .beginReset arrival =>
      (board.beginReset arrival, ⟨board.backend.reconnect.report arrival, none⟩)
    | .startSession => (board.startSession, ⟨.quiet, none⟩)
    | .stopSession => (board.stopSession, ⟨.quiet, none⟩)
    | .fly change => ({ board with runner := change board.runner }, ⟨.quiet, none⟩)

/-- A truth state that was taken, with the session it was sent on and its place among the states
of that session, the generation and step it was given, and its reply: the receipt if it was
written, and the session it was for. -/
structure Taken where
  state : HilStateQuaternion
  session : ℕ
  position : ℕ
  generation : UInt32
  step : UInt64
  computed : Option SimActuatorCmd
  command : SimActuatorCmd
  reply : Option ActuatorSendReceipt
  replySession : Option UInt64

/-- The newest state of the session opened last is the one that is taken. -/
def Answered.taken (answered : Answered) (log : LinkLog) : Taken where
  state := answered.state
  session := log.opened
  position := (log.heard log.opened).length - 1
  generation := answered.generation
  step := answered.step
  computed := answered.computed
  command := answered.command
  reply := answered.reply
  replySession := answered.replySession

/-- The link's log, and the truth states taken in order. -/
structure Journal where
  log : LinkLog
  taken : List Taken

namespace Journal

/-- The journal of a board that is built. -/
def start (dialed : Bool) : Journal :=
  ⟨LinkLog.empty.note (if dialed then .opened else .quiet), []⟩

def note (journal : Journal)
    (event : Machine.Event (JsbsimBoard models fc) (BoardOp fc) BoardReport) : Journal :=
  let log := journal.log.note event.out.link
  ⟨log, journal.taken ++ (event.out.answered.map fun answered => answered.taken log).toList⟩

/-- The journal of a run. -/
def ofRun (dialed : Bool) (board : JsbsimBoard models fc) (ops : List (BoardOp fc)) : Journal :=
  (machine models fc).history note (start dialed) board ops

/-- Fewer than 2^32 sessions, in none of which time runs backwards. -/
structure Orderly (journal : Journal) : Prop where
  few : journal.log.opened < 2 ^ 32
  forward : ∀ session, (journal.log.heard session).Pairwise (·.timeUsec ≤ ·.timeUsec)

end Journal

/-! ## What holds of a state that is taken -/

/-- What holds of each member of a list and those before it. -/
def Each {α : Type} (P : List α → α → Prop) (l : List α) : Prop :=
  ∀ before x after, l = before ++ x :: after → P before x

theorem each_nil {α : Type} {P : List α → α → Prop} : Each P [] := fun _ _ _ hsplit =>
  absurd hsplit (by simp)

theorem each_concat {α : Type} {P : List α → α → Prop} {l : List α} {x : α} (hl : Each P l)
    (hx : P l x) : Each P (l ++ [x]) := by
  intro before y after hsplit
  rcases List.eq_nil_or_concat after with rfl | ⟨front, last, rfl⟩
  · obtain ⟨rfl, hlast⟩ := List.append_inj' hsplit rfl
    obtain rfl := List.singleton_inj.mp hlast
    exact hx
  · rw [List.concat_eq_append, ← List.cons_append, ← List.append_assoc] at hsplit
    exact hl before y front (List.append_inj' hsplit rfl).1

/-- The board sees worlds as sessions: a state taken against those taken before it. -/
structure SeenAsSent (before : List Taken) (t : Taken) : Prop where
  /-- No state is taken twice. -/
  later : ∀ u ∈ before,
    u.session < t.session ∨ u.session = t.session ∧ u.position < t.position
  world : ∀ u ∈ before, u.generation = t.generation ↔ u.session = t.session
  step : t.step = .ofNat (before.countP (·.generation = t.generation))
  reply : t.command = idleCommand ∨
    ∃ u ∈ before ++ [t], u.session = t.session ∧ u.computed = some t.command

/-- The states taken were sent on their sessions, are seen so, and are replied to on them. -/
structure Journal.OneWorldPerSession (journal : Journal) : Prop where
  sent : ∀ t ∈ journal.taken, (journal.log.heard t.session)[t.position]? = some t.state
  seen : Each SeenAsSent journal.taken
  replied : ∀ t ∈ journal.taken, t.reply.isSome = true →
    t.replySession = some (.ofNat t.session)

/-! ## The tracker -/

/-- Of the same session and generation, or of an earlier session and a smaller generation. -/
def Earlier (u t : Taken) : Prop :=
  u.session = t.session ∧ u.generation = t.generation ∧ u.position < t.position ∨
    u.session < t.session ∧ u.generation.toNat < t.generation.toNat

theorem Earlier.trans {u v w : Taken} (huv : Earlier u v) (hvw : Earlier v w) : Earlier u w := by
  rcases huv with ⟨hs, hg, hp⟩ | ⟨hs, hg⟩
  · rcases hvw with ⟨hs', hg', hp'⟩ | ⟨hs', hg'⟩
    · exact .inl ⟨hs.trans hs', hg.trans hg', hp.trans hp'⟩
    · exact .inr ⟨hs ▸ hs', hg ▸ hg'⟩
  · rcases hvw with ⟨hs', hg', -⟩ | ⟨hs', hg'⟩
    · exact .inr ⟨hs' ▸ hs, hg' ▸ hg⟩
    · exact .inr ⟨hs.trans hs', hg.trans hg'⟩

theorem Earlier.world {u t : Taken} (h : Earlier u t) :
    u.generation = t.generation ↔ u.session = t.session := by
  rcases h with ⟨hs, hg, -⟩ | ⟨hs, hg⟩
  · exact iff_of_true hg hs
  · exact iff_of_false (fun heq => Nat.ne_of_lt hg (congrArg UInt32.toNat heq)) (Nat.ne_of_lt hs)

/-- The tracker and the board stand at the state taken last. -/
def Follows (tracker : GenerationTracker) (generation : Option UInt32) : Option Taken → Prop
  | none =>
    tracker.session = none ∧ tracker.lastTimeUs = none ∧ tracker.generation = 0 ∧
      tracker.steps = 0 ∧ generation = none
  | some last =>
    tracker.session = some (.ofNat last.session) ∧
      tracker.lastTimeUs = some last.state.timeUsec ∧ tracker.generation = last.generation ∧
      tracker.steps = last.step + 1 ∧ generation = some last.generation

/-- The reply is idle, or was computed on a state of the session. -/
def RepliesFor (session : ℕ) (taken : List Taken) (reply : SimActuatorCmd) : Prop :=
  reply = idleCommand ∨ ∃ u ∈ taken, u.session = session ∧ u.computed = some reply

theorem RepliesFor.mono {session : ℕ} {taken more : List Taken} {reply : SimActuatorCmd}
    (h : RepliesFor session taken reply) : RepliesFor session (taken ++ more) reply :=
  h.imp_right fun ⟨u, hu, hreply⟩ => ⟨u, List.mem_append_left _ hu, hreply⟩

/-- The tracker against the states taken. -/
structure Tracked (tracker : GenerationTracker) (generation : Option UInt32)
    (lastReply : SimActuatorCmd) (taken : List Taken) : Prop where
  earlier : Each (fun before t => ∀ u ∈ before, Earlier u t) taken
  /-- A generation is opened by a session, so the counter does not wrap. -/
  bounded : ∀ t ∈ taken, t.generation.toNat ≤ t.session
  numbered : Each (fun before t => t.step = .ofNat (before.countP (·.generation = t.generation)))
    taken
  replies : Each (fun before t => RepliesFor t.session (before ++ [t]) t.command) taken
  follows : Follows tracker generation taken.getLast?
  lastReply : ∀ last ∈ taken.getLast?, RepliesFor last.session taken lastReply

section Observe

variable {tracker next : GenerationTracker} {generation : Option UInt32}
  {lastReply : SimActuatorCmd} {taken : List Taken} {t : Taken}

/-- How a state that is taken stands to those taken before. -/
structure Succeeds (t : Taken) (tracker : GenerationTracker) (taken : List Taken) : Prop where
  opened : 0 < t.session
  few : t.session < 2 ^ 32
  le : ∀ u ∈ taken, u.session ≤ t.session
  position : ∀ u ∈ taken, u.session = t.session → u.position < t.position
  time : ∀ u ∈ taken, u.session = t.session → u.state.timeUsec ≤ t.state.timeUsec
  requested : tracker.newWorldRequested = true → ∀ u ∈ taken, u.session < t.session

/-- The three signs of a new world agree: it is new exactly when the session is. -/
theorem changed_iff {last : Taken} (hfollows : Follows tracker generation (some last))
    (hlast : last ∈ taken) (h : Succeeds t tracker taken) :
    tracker.changed (.ofNat t.session) t.state.timeUsec = true ↔ last.session < t.session := by
  obtain ⟨hsession, htime, -⟩ := hfollows
  unfold GenerationTracker.changed
  rw [hsession, htime]
  simp only [Option.any_some, Bool.or_eq_true, decide_eq_true_eq]
  constructor
  · rintro ((hrequested | hother) | hrewound)
    · exact h.requested hrequested last hlast
    · refine Nat.lt_of_le_of_ne (h.le last hlast) fun hsame => hother ?_
      rw [hsame]
    · refine Nat.lt_of_le_of_ne (h.le last hlast) fun hsame => ?_
      exact absurd (h.time last hlast hsame) (UInt64.not_le.mpr hrewound)
  · intro hnew
    refine .inl (.inr fun hsame => Nat.ne_of_lt hnew ?_)
    have hbound : t.session < 2 ^ 64 := Nat.lt_trans h.few (by decide)
    have hnat := congrArg UInt64.toNat hsame
    rwa [UInt64.toNat_ofNat_of_lt' (hnew.trans hbound), UInt64.toNat_ofNat_of_lt' hbound] at hnat

theorem toNat_succ {last : Taken} (hbounded : last.generation.toNat ≤ last.session)
    (hnew : last.session < t.session) (hfew : t.session < 2 ^ 32) :
    (last.generation + 1).toNat = last.generation.toNat + 1 := by
  rw [UInt32.toNat_add]
  exact Nat.mod_eq_of_lt (Nat.lt_of_le_of_lt (Nat.succ_le_of_lt (hbounded.trans_lt hnew)) hfew)

/-- What the tracker gives a state, against the states taken before. -/
structure Given (t : Taken) (taken : List Taken) : Prop where
  earlier : ∀ u ∈ taken, Earlier u t
  bounded : t.generation.toNat ≤ t.session
  step : t.step = .ofNat (taken.countP (·.generation = t.generation))

/-- The first state of all. -/
theorem Tracked.given_nil (h : Tracked tracker generation lastReply [])
    (hnew : Succeeds t tracker [])
    (hobserve : tracker.observe (.ofNat t.session) t.state.timeUsec =
      ((t.generation, t.step), next)) : Given t [] := by
  obtain ⟨-, -, hgeneration, hsteps, -⟩ := h.follows
  simp only [GenerationTracker.observe, hgeneration, hsteps, ite_self, Prod.mk.injEq] at hobserve
  obtain ⟨⟨hgiven, hstep⟩, -⟩ := hobserve
  refine ⟨List.forall_mem_nil _, ?_, hstep.symm⟩
  rw [← hgiven]
  split
  · exact hnew.opened
  · exact Nat.zero_le _

/-- A state after others. -/
theorem Tracked.given_concat {front : List Taken} {last : Taken}
    (h : Tracked tracker generation lastReply (front ++ [last]))
    (hnew : Succeeds t tracker (front ++ [last]))
    (hobserve : tracker.observe (.ofNat t.session) t.state.timeUsec =
      ((t.generation, t.step), next)) : Given t (front ++ [last]) := by
  have hmem : last ∈ front ++ [last] := List.mem_concat_self
  have hfollows : Follows tracker generation (some last) := by
    simpa only [List.getLast?_concat] using h.follows
  have hchanged := changed_iff hfollows hmem hnew
  have hbounded := h.bounded last hmem
  have hfront : ∀ u ∈ front, Earlier u last := h.earlier front last [] rfl
  obtain ⟨-, -, hgeneration, hsteps, -⟩ := hfollows
  simp only [GenerationTracker.observe, hgeneration, hsteps, hchanged, Prod.mk.injEq] at hobserve
  obtain ⟨⟨hgiven, hstep⟩, -⟩ := hobserve
  -- All follows from how the state stands to the last one.
  have hall (hlast : Earlier last t) : ∀ u ∈ front ++ [last], Earlier u t := by
    intro u hu
    rcases List.mem_append.mp hu with hu | hu
    · exact (hfront u hu).trans hlast
    · rwa [List.mem_singleton.mp hu]
  by_cases hsession : last.session < t.session
  · rw [if_pos hsession] at hgiven hstep
    have hnat : t.generation.toNat = last.generation.toNat + 1 := by
      rw [← hgiven]
      exact toNat_succ hbounded hsession hnew.few
    have hearlier := hall (.inr ⟨hsession, hnat ▸ Nat.lt_succ_self _⟩)
    refine ⟨hearlier, ?_, ?_⟩
    · rw [hnat]
      exact Nat.succ_le_of_lt (hbounded.trans_lt hsession)
    · have hnone : (front ++ [last]).countP (·.generation = t.generation) = 0 := by
        refine List.countP_eq_zero.mpr fun u hu => ?_
        have hother : u.session ≠ t.session := by
          rcases List.mem_append.mp hu with hu | hu
          · rcases hfront u hu with ⟨hs, -⟩ | ⟨hs, -⟩
            · exact hs ▸ Nat.ne_of_lt hsession
            · exact Nat.ne_of_lt (hs.trans hsession)
          · rw [List.mem_singleton.mp hu]
            exact Nat.ne_of_lt hsession
        simpa using fun hsame => hother ((hearlier u hu).world.mp hsame)
      rw [hnone, ← hstep]
      rfl
  · rw [if_neg hsession] at hgiven hstep
    have hsame : last.session = t.session :=
      Nat.le_antisymm (hnew.le last hmem) (Nat.le_of_not_lt hsession)
    refine ⟨hall (.inl ⟨hsame, hgiven, hnew.position last hmem hsame⟩), ?_, ?_⟩
    · rw [← hgiven, ← hsame]
      exact hbounded
    · have hnumbered := h.numbered front last [] rfl
      rw [List.countP_append, ← hgiven, ← hstep, hnumbered, UInt64.ofNat_add]
      simp

theorem Tracked.given (h : Tracked tracker generation lastReply taken)
    (hnew : Succeeds t tracker taken)
    (hobserve : tracker.observe (.ofNat t.session) t.state.timeUsec =
      ((t.generation, t.step), next)) : Given t taken := by
  rcases List.eq_nil_or_concat' taken with rfl | ⟨front, last, rfl⟩
  · exact h.given_nil hnew hobserve
  · exact h.given_concat hnew hobserve

theorem Tracked.requestNewWorld (h : Tracked tracker generation lastReply taken) :
    Tracked tracker.requestNewWorld generation lastReply taken where
  earlier := h.earlier
  bounded := h.bounded
  numbered := h.numbered
  replies := h.replies
  follows := by
    have hfollows := h.follows
    cases hlast : taken.getLast? with
    | none => rwa [hlast] at hfollows
    | some last => rwa [hlast] at hfollows
  lastReply := h.lastReply

/-- A reply that is sent again was computed in the same world. -/
theorem Tracked.kept (h : Tracked tracker generation lastReply taken)
    (hsame : generation = some t.generation) (hgiven : Given t taken) :
    RepliesFor t.session taken lastReply := by
  have hfollows := h.follows
  cases hlast : taken.getLast? with
  | none =>
    rw [hlast] at hfollows
    obtain ⟨-, -, -, -, hnone⟩ := hfollows
    rw [hnone] at hsame
    cases hsame
  | some last =>
    rw [hlast] at hfollows
    obtain ⟨-, -, -, -, hgeneration⟩ := hfollows
    have hmem : last ∈ taken := List.mem_of_getLast? hlast
    rw [hgeneration] at hsame
    have hsession := (hgiven.earlier last hmem).world.mp (Option.some.inj hsame)
    rw [← hsession]
    exact h.lastReply last hlast

/-- The tracker is carried over one more state. -/
theorem Tracked.observe (h : Tracked tracker generation lastReply taken)
    (hnew : Succeeds t tracker taken)
    (hobserve : tracker.observe (.ofNat t.session) t.state.timeUsec =
      ((t.generation, t.step), next))
    (hreply : t.command = idleCommand ∨ t.computed = some t.command ∨
      generation = some t.generation ∧ t.command = lastReply) :
    Tracked next (some t.generation) t.command (taken ++ [t]) := by
  have hgiven := h.given hnew hobserve
  have hreplies : RepliesFor t.session (taken ++ [t]) t.command := by
    rcases hreply with hidle | hcomputed | ⟨hsame, hlast⟩
    · exact .inl hidle
    · exact .inr ⟨t, List.mem_concat_self, rfl, hcomputed⟩
    · exact hlast ▸ (h.kept hsame hgiven).mono
  refine ⟨each_concat h.earlier hgiven.earlier, ?_, each_concat h.numbered hgiven.step,
    each_concat h.replies hreplies, ?_, ?_⟩
  · intro u hu
    rcases List.mem_append.mp hu with hu | hu
    · exact h.bounded u hu
    · rw [List.mem_singleton.mp hu]
      exact hgiven.bounded
  · rw [List.getLast?_concat]
    simp only [GenerationTracker.observe, Prod.mk.injEq] at hobserve
    obtain ⟨⟨hgeneration, hstep⟩, rfl⟩ := hobserve
    exact ⟨rfl, rfl, hgeneration, congrArg (· + 1) hstep, rfl⟩
  · intro last hlast
    rw [List.getLast?_concat] at hlast
    obtain rfl := Option.some.inj hlast
    exact hreplies

end Observe

/-! ## The board -/

namespace JsbsimBoard

variable {board : JsbsimBoard models fc} {state : HilStateQuaternion} {input : fc.Input}
  {outcome : WriteOutcome}

/-- What an answer leaves: the tracker as the state puts it, and a reply that is idle, computed by
this cycle, or that of the state before in the same generation. -/
structure Answers (board : JsbsimBoard models fc) (sample : HilStateQuaternion)
    (outcome : WriteOutcome) (answered : Answered) (next : JsbsimBoard models fc) : Prop where
  state : answered.state = sample
  observe : board.generations.observe board.backend.sessions sample.timeUsec =
    ((answered.generation, answered.step), next.generations)
  generation : next.generation = some answered.generation
  command : answered.command = next.lastReply
  reply : next.lastReply = idleCommand ∨ answered.computed = some next.lastReply ∨
    board.generation = some answered.generation ∧ next.lastReply = board.lastReply
  backend : ∃ command, next.backend =
    (board.backend.sendActuatorsAt command sample.timeUsec outcome).2
  replied : answered.reply.isSome = true → answered.replySession = some board.backend.sessions

theorem observeHealth_eq (board : JsbsimBoard models fc) :
    ∃ lifecycle, board.observeHealth = { board with lifecycle } := by
  unfold observeHealth
  cases board.lifecycle with
  | stopped => exact ⟨board.lifecycle, rfl⟩
  | resetting => exact ⟨board.lifecycle, rfl⟩
  | converging =>
    dsimp only
    split
    · exact ⟨.ready, rfl⟩
    · exact ⟨board.lifecycle, rfl⟩
  | ready =>
    dsimp only
    split
    · exact ⟨.converging, rfl⟩
    · exact ⟨board.lifecycle, rfl⟩

theorem enterNewWorld_eq (board : JsbsimBoard models fc) :
    ∃ lifecycle, board.enterNewWorld = { board with lifecycle } := by
  unfold enterNewWorld
  split
  · exact ⟨.converging, rfl⟩
  · exact ⟨board.lifecycle, rfl⟩

/-- A state of the same generation leaves the reply; a new one makes it idle. -/
theorem adopt_spec (board : JsbsimBoard models fc) (state : HilStateQuaternion) :
    board.generations.observe board.backend.sessions state.timeUsec =
        ((board.adopt state).1, (board.adopt state).2.generations) ∧
      (board.adopt state).2.backend = board.backend ∧
      (board.adopt state).2.generation = some (board.adopt state).1.1 ∧
      ((board.adopt state).2.lastReply = idleCommand ∨
        board.generation = some (board.adopt state).1.1 ∧
          (board.adopt state).2.lastReply = board.lastReply) := by
  unfold adopt
  dsimp only
  split
  next =>
    obtain ⟨lifecycle, hentered⟩ := enterNewWorld_eq
      { board with
        generations := (board.generations.observe board.backend.sessions state.timeUsec).2 }
    rw [hentered]
    exact ⟨rfl, rfl, rfl, .inl rfl⟩
  next hsame =>
    have hsame := not_not.mp hsame
    exact ⟨rfl, rfl, hsame, .inr ⟨hsame, rfl⟩⟩

/-- A cycle puts its command in the reply. -/
theorem cycle_spec (board : JsbsimBoard models fc) (truth : Option (TruthSample F32))
    (input : fc.Input) :
    ∃ synthesizer runner lastReply,
      (board.cycle truth input).2 = { board with synthesizer, runner, lastReply } ∧
        (lastReply = board.lastReply ∨
          (board.cycle truth input).1.map Prod.snd = some lastReply) := by
  unfold cycle
  cases truth.filter fun _ => board.running with
  | none => exact ⟨_, _, _, rfl, .inl rfl⟩
  | some truth =>
    dsimp only
    rcases board.synthesizer.next truth with ⟨synthesizer, - | sample⟩
    · exact ⟨_, _, _, rfl, .inl rfl⟩
    · exact ⟨_, _, _, rfl, .inr rfl⟩

/-- A reply that was written was for the session opened last. -/
theorem replySession_of_isSome {backend : TruthBackend} {command : SimActuatorCmd}
    {timeUsec : UInt64}
    (h : (backend.sendActuatorsAt command timeUsec outcome).1.toOption.isSome = true) :
    backend.openSession = some backend.sessions := by
  cases hsent : (backend.sendActuatorsAt command timeUsec outcome).1 with
  | error e =>
    rw [hsent] at h
    cases h
  | ok receipt => exact TruthBackend.openSession_of_sent hsent

theorem answer_spec (board : JsbsimBoard models fc) (state : HilStateQuaternion)
    (input : fc.Input) (outcome : WriteOutcome) :
    Answers board state outcome (board.answer state input outcome).1
      (board.answer state input outcome).2 := by
  obtain ⟨hobserve, hbackend, hgeneration, hreply⟩ := adopt_spec board state
  unfold answer
  generalize board.adopt state = adopted at *
  obtain ⟨⟨generation, step⟩, adopted⟩ := adopted
  dsimp only at *
  generalize truthSample state adopted.plane generation step = truth
  generalize hseen : ({ adopted with
    vehicle := (truth.map (vehicleState state)).getD adopted.vehicle } : JsbsimBoard models fc) =
    seen
  obtain ⟨synthesizer, runner, lastReply, hcycled, hlast⟩ := cycle_spec seen truth input
  generalize seen.cycle truth input = cycled at *
  obtain ⟨cycled, flown⟩ := cycled
  obtain rfl : flown = { seen with synthesizer, runner, lastReply } := hcycled
  subst hseen
  dsimp only at *
  generalize (JsbsimBoard.running _ : Bool) = running
  cases running with
  | false =>
    simp only [Bool.false_eq_true, if_false]
    obtain ⟨lifecycle, hhealth⟩ := observeHealth_eq _
    rw [hhealth]
    refine ⟨rfl, hobserve, hgeneration, rfl, .inl rfl, ⟨idleCommand, by rw [← hbackend]⟩, ?_⟩
    rw [← hbackend]
    exact replySession_of_isSome
  | true =>
    simp only [if_true]
    obtain ⟨lifecycle, hhealth⟩ := observeHealth_eq _
    rw [hhealth]
    refine ⟨rfl, hobserve, hgeneration, rfl, ?_, ⟨lastReply, by rw [← hbackend]⟩, ?_⟩
    swap
    · rw [← hbackend]
      exact replySession_of_isSome
    rcases hlast with hkept | hcomputed
    · rw [← hkept] at hreply
      exact hreply.imp_right .inr
    · exact .inr (.inl hcomputed)

theorem new_spec {runner : fc.State} {config : JsbsimConfig models} {bound dialed : Bool}
    (h : JsbsimBoard.new runner config bound dialed = .ok board) :
    board.backend = .connectTcp dialed ∧ board.generations = .default ∧ board.generation = none ∧
      board.lastReply = idleCommand := by
  unfold new at h
  cases hplane : models.newPlane config.origin with
  | error e =>
    rw [hplane] at h
    cases h
  | ok plane =>
    rw [hplane] at h
    cases hsynthesizer :
        (StepSynthesizer.new config.origin config.epoch :
          Except (SynthesisError models.toWorldModels)
            (StepSynthesizer models.toWorldModels F32)) with
    | error e =>
      rw [hsynthesizer] at h
      cases h
    | ok synthesizer =>
      rw [hsynthesizer] at h
      cases bound with
      | false => cases h
      | true =>
        obtain rfl := Except.ok.inj h
        exact ⟨rfl, rfl, rfl, rfl⟩

/-- A step answers the truth state its poll brings, if any. -/
theorem step_cases (board : JsbsimBoard models fc) (arrival : Arrival) (input : fc.Input)
    (outcome : WriteOutcome) :
    ((board.backend.pollTruth arrival).1 = none ∧
      board.step arrival input outcome =
        (none, { board with backend := (board.backend.pollTruth arrival).2 })) ∨
    ∃ state answered next, (board.backend.pollTruth arrival).1 = some state ∧
      board.step arrival input outcome = (some answered, next) ∧
      Answers { board with backend := (board.backend.pollTruth arrival).2 } state outcome answered
        next := by
  unfold step
  rcases board.backend.pollTruth arrival with ⟨- | state, backend⟩
  · exact .inl ⟨rfl, rfl⟩
  · exact .inr ⟨state, _, _, rfl, rfl, answer_spec _ _ _ _⟩

theorem startSession_eq (board : JsbsimBoard models fc) :
    ∃ lifecycle, board.startSession = { board with lifecycle } := by
  unfold startSession
  split
  · obtain ⟨lifecycle, hhealth⟩ := observeHealth_eq { board with lifecycle := .converging }
    exact ⟨lifecycle, hhealth⟩
  · exact ⟨board.lifecycle, rfl⟩

end JsbsimBoard

/-! ## The link -/

/-- The states taken against the link: they are among those heard, and of the session opened last
none is to come that was taken. -/
structure Linked (adapter : TruthBackend) (journal : Journal) : Prop where
  inStep : ∃ settled, adapter.InStep journal.log settled ∧
    ∀ t ∈ journal.taken, t.session = journal.log.opened → t.position < settled
  le_opened : ∀ t ∈ journal.taken, t.session ≤ journal.log.opened
  sent : ∀ t ∈ journal.taken, (journal.log.heard t.session)[t.position]? = some t.state
  replied : ∀ t ∈ journal.taken, t.reply.isSome = true →
    t.replySession = some (.ofNat t.session)

namespace Linked

variable {adapter next : TruthBackend} {journal : Journal} {report : LinkReport}

/-- A change of the link that takes no state. -/
theorem note (h : Linked adapter journal)
    (hnext : ∀ settled, adapter.InStep journal.log settled →
      next.InStep (journal.log.note report) (report.settled settled)) :
    Linked next ⟨journal.log.note report, journal.taken⟩ := by
  obtain ⟨settled, hstep, hpositions⟩ := h.inStep
  refine ⟨⟨report.settled settled, hnext settled hstep, ?_⟩, ?_, ?_, h.replied⟩
  · intro t ht hlast
    cases report with
    | quiet => exact hpositions t ht hlast
    | read chunks => exact hpositions t ht hlast
    | opened => exact absurd (h.le_opened t ht) (by rw [hlast]; exact Nat.not_succ_le_self _)
  · exact fun t ht => (h.le_opened t ht).trans (LinkLog.opened_le_note _)
  · intro t ht
    obtain ⟨more, hmore⟩ :
        journal.log.heard t.session <+: (journal.log.note report).heard t.session :=
      LinkLog.heard_prefix_note report t.session
    have hsent := h.sent t ht
    obtain ⟨hposition, -⟩ := List.getElem?_eq_some_iff.mp hsent
    show ((journal.log.note report).heard t.session)[t.position]? = _
    rw [← hmore, List.getElem?_append_left hposition, hsent]

/-- Taking the newest state. -/
theorem taken (h : Linked adapter journal) {answered : Answered}
    (hstate : adapter.link.takeStateQuaternion.1 = some answered.state)
    (hreplied : answered.reply.isSome = true → answered.replySession = some adapter.sessions) :
    Linked (adapter.withLink adapter.link.takeStateQuaternion.2)
      ⟨journal.log, journal.taken ++ [answered.taken journal.log]⟩ := by
  obtain ⟨settled, hstep, hpositions⟩ := h.inStep
  obtain ⟨-, hlong, hlast, hnext⟩ := hstep.taken hstate
  refine ⟨⟨_, hnext, ?_⟩, ?_, ?_, ?_⟩
  · intro t ht hopened
    rcases List.mem_append.mp ht with ht | ht
    · exact (hpositions t ht hopened).trans hlong
    · rw [List.mem_singleton.mp ht]
      exact Nat.sub_one_lt (Nat.ne_of_gt (Nat.zero_lt_of_lt hlong))
  · intro t ht
    rcases List.mem_append.mp ht with ht | ht
    · exact h.le_opened t ht
    · rw [List.mem_singleton.mp ht]
      exact Nat.le_refl _
  · intro t ht
    rcases List.mem_append.mp ht with ht | ht
    · exact h.sent t ht
    · rw [List.mem_singleton.mp ht]
      rw [List.getLast?_eq_getElem?] at hlast
      exact hlast
  · intro t ht hwritten
    rcases List.mem_append.mp ht with ht | ht
    · exact h.replied t ht hwritten
    · rw [List.mem_singleton.mp ht] at hwritten ⊢
      exact (hreplied hwritten).trans (congrArg some hstep.connects)

/-- The newest state succeeds those taken before. -/
theorem succeeds (h : Linked adapter journal) {answered : Answered} {tracker : GenerationTracker}
    (hstate : adapter.link.takeStateQuaternion.1 = some answered.state)
    (horderly : journal.Orderly)
    (hrequested : tracker.newWorldRequested = true →
      ∀ t ∈ journal.taken, adapter.Past journal.log t.session) :
    Succeeds (answered.taken journal.log) tracker journal.taken := by
  obtain ⟨settled, hstep, hpositions⟩ := h.inStep
  obtain ⟨hopened, hlong, hlast, -⟩ := hstep.taken hstate
  have hbefore : ∀ u ∈ journal.taken, u.session = journal.log.opened →
      u.position < (journal.log.heard journal.log.opened).length - 1 := fun u hu hsame =>
    (hpositions u hu hsame).trans_le (Nat.le_sub_one_of_lt hlong)
  refine ⟨hopened, horderly.few, h.le_opened, hbefore, ?_, ?_⟩
  · intro u hu hsame
    have hsent := h.sent u hu
    have hposition := hbefore u hu hsame
    rw [List.getLast?_eq_getElem?] at hlast
    rw [show u.session = journal.log.opened from hsame] at hsent
    obtain ⟨hi, hu⟩ := List.getElem?_eq_some_iff.mp hsent
    obtain ⟨hj, ht⟩ := List.getElem?_eq_some_iff.mp hlast
    have hsorted := List.pairwise_iff_getElem.mp (horderly.forward journal.log.opened) _ _ hi hj
      hposition
    rwa [hu, ht] at hsorted
  · exact fun hnew u hu => (hrequested hnew u hu).taken hstate

end Linked

/-! ## Runs -/

/-- The board against the journal. -/
structure Inv (board : JsbsimBoard models fc) (journal : Journal) : Prop where
  linked : Linked board.backend journal
  tracked : Tracked board.generations board.generation board.lastReply journal.taken
  requested : board.generations.newWorldRequested = true →
    ∀ t ∈ journal.taken, board.backend.Past journal.log t.session

namespace Inv

variable {board next : JsbsimBoard models fc} {journal : Journal} {report : LinkReport}

/-- A call that takes no state and leaves the tracker. -/
theorem note (h : Inv board journal)
    (htracker : next.generations = board.generations ∧ next.generation = board.generation ∧
      next.lastReply = board.lastReply)
    (hstep : ∀ settled, board.backend.InStep journal.log settled →
      next.backend.InStep (journal.log.note report) (report.settled settled))
    (hpast : ∀ session, board.backend.Past journal.log session →
      next.backend.Past (journal.log.note report) session) :
    Inv next ⟨journal.log.note report, journal.taken⟩ := by
  obtain ⟨hgenerations, hgeneration, hreply⟩ := htracker
  refine ⟨h.linked.note hstep, ?_, ?_⟩
  · rw [hgenerations, hgeneration, hreply]
    exact h.tracked
  · rw [hgenerations]
    exact fun hnew t ht => hpast _ (h.requested hnew t ht)

/-- A call that leaves the link too. -/
theorem same (h : Inv board journal)
    (hsame : next.generations = board.generations ∧ next.generation = board.generation ∧
      next.lastReply = board.lastReply)
    (hbackend : next.backend = board.backend) : Inv next journal := by
  have hnext : Inv next ⟨journal.log.note .quiet, journal.taken⟩ :=
    h.note hsame (fun _ hstep => hbackend ▸ hstep) (fun _ hpast => hbackend ▸ hpast)
  exact hnext

/-- The next state after a reset is of a new world, and of a new session. -/
theorem beginReset (h : Inv board journal) (arrival : Arrival) :
    Inv (board.beginReset arrival)
      ⟨journal.log.note (board.backend.reconnect.report arrival), journal.taken⟩ where
  linked := h.linked.note fun _ hstep => hstep.restartSession arrival
  tracked := h.tracked.requestNewWorld
  requested := fun _ t ht => TruthBackend.Past.restartSession (h.linked.le_opened t ht)

/-- A poll that brings no state. -/
theorem pollTruth (h : Inv board journal) (arrival : Arrival) :
    Inv { board with backend := (board.backend.pollTruth arrival).2 }
      ⟨journal.log.note (board.backend.report arrival), journal.taken⟩ :=
  h.note ⟨rfl, rfl, rfl⟩ (fun _ hstep => (hstep.poll arrival).take_none)
    (fun _ hpast => (hpast.poll arrival).withLink id List.nil_suffix)

/-- A state that is taken and answered. -/
theorem answer (h : Inv board journal) {arrival : Arrival} {outcome : WriteOutcome}
    {state : HilStateQuaternion} {answered : Answered}
    (hstate : (board.backend.pollTruth arrival).1 = some state)
    (hanswers : JsbsimBoard.Answers
      { board with backend := (board.backend.pollTruth arrival).2 } state outcome answered next)
    (horderly : (⟨journal.log.note (board.backend.report arrival), journal.taken⟩ :
      Journal).Orderly) :
    Inv next
      ⟨journal.log.note (board.backend.report arrival), journal.taken ++
        [answered.taken (journal.log.note (board.backend.report arrival))]⟩ := by
  obtain ⟨hsame, hobserve, hgeneration, hcommand, hreply, ⟨command, hbackend⟩, hreplied⟩ := hanswers
  rw [← hsame] at hstate
  have hpolled : Linked (board.backend.poll arrival)
      ⟨journal.log.note (board.backend.report arrival), journal.taken⟩ :=
    h.linked.note fun _ hstep => hstep.poll arrival
  have hpast : ∀ session, board.backend.Past journal.log session →
      (board.backend.poll arrival).Past (journal.log.note (board.backend.report arrival))
        session := fun _ hpast => hpast.poll arrival
  have hsucceeds := hpolled.succeeds hstate horderly fun hnew t ht =>
    hpast _ (h.requested hnew t ht)
  have htaken := hpolled.taken hstate hreplied
  obtain ⟨settled, hinStep, -⟩ := htaken.inStep
  refine ⟨?_, ?_, ?_⟩
  · rw [hbackend]
    exact ⟨htaken.inStep.imp fun _ hstep => ⟨hstep.1.sendActuatorsAt, hstep.2⟩,
      htaken.le_opened, htaken.sent, htaken.replied⟩
  · rw [hgeneration, ← hcommand]
    refine h.tracked.observe hsucceeds ?_ ?_
    · have hsessions : (board.backend.pollTruth arrival).2.sessions =
          .ofNat (journal.log.note (board.backend.report arrival)).opened := hinStep.connects
      rw [← hsame] at hobserve
      rw [hsessions] at hobserve
      exact hobserve
    · rw [← hcommand] at hreply
      exact hreply
  · have hdone : next.generations.newWorldRequested = false := by
      have hnext := congrArg (fun given => given.2.newWorldRequested) hobserve
      exact hnext.symm
    rw [hdone]
    exact nofun

end Inv

/-- A journal is orderly as long as its continuation is. -/
theorem Journal.Orderly.of_note {journal : Journal}
    {event : Machine.Event (JsbsimBoard models fc) (BoardOp fc) BoardReport}
    (h : (journal.note event).Orderly) : journal.Orderly where
  few := Nat.lt_of_le_of_lt (LinkLog.opened_le_note _) h.few
  forward session :=
    (h.forward session).sublist (LinkLog.heard_prefix_note event.out.link session).sublist

section Run

variable {board : JsbsimBoard models fc} {journal : Journal}

theorem inv_note (h : Inv board journal) (op : BoardOp fc)
    (horderly : (journal.note ((machine models fc).event board op)).Orderly) :
    Inv ((machine models fc).step board op).1
      (journal.note ((machine models fc).event board op)) := by
  have hquiet (next : JsbsimBoard models fc) (hnext : Inv next journal) :
      Inv next ⟨journal.log.note .quiet, journal.taken ++ []⟩ := by
    rwa [List.append_nil]
  cases op with
  | step arrival input outcome =>
    show Inv (board.step arrival input outcome).2
      ⟨journal.log.note (board.backend.report arrival),
        journal.taken ++ ((board.step arrival input outcome).1.map fun answered =>
          answered.taken (journal.log.note (board.backend.report arrival))).toList⟩
    rcases board.step_cases arrival input outcome with ⟨-, hstep⟩ |
      ⟨state, answered, next, hstate, hstep, hanswers⟩
    · rw [hstep]
      have hpolled := h.pollTruth arrival
      rw [← List.append_nil journal.taken] at hpolled
      exact hpolled
    · rw [hstep]
      exact h.answer hstate hanswers ⟨horderly.few, horderly.forward⟩
  | waitForTruth peek =>
    have hwaited : Inv (board.waitForTruth peek).2 ⟨journal.log.note .quiet, journal.taken⟩ :=
      h.note ⟨rfl, rfl, rfl⟩ (fun _ hstep => hstep.waitReadable) (fun _ hpast => hpast.waitReadable)
    exact hquiet _ hwaited
  | beginReset arrival =>
    have hnext := h.beginReset arrival
    rw [← List.append_nil journal.taken] at hnext
    exact hnext
  | startSession =>
    have hstarted : Inv board.startSession journal := by
      obtain ⟨lifecycle, hstart⟩ := board.startSession_eq
      rw [hstart]
      exact h.same ⟨rfl, rfl, rfl⟩ rfl
    exact hquiet _ hstarted
  | stopSession => exact hquiet _ (h.same ⟨rfl, rfl, rfl⟩ rfl)
  | fly change => exact hquiet _ (h.same ⟨rfl, rfl, rfl⟩ rfl)

theorem inv_new {runner : fc.State} {config : JsbsimConfig models} {bound dialed : Bool}
    (h : JsbsimBoard.new runner config bound dialed = .ok board) :
    Inv board (.start dialed) := by
  obtain ⟨hbackend, hgenerations, hgeneration, hreply⟩ := JsbsimBoard.new_spec h
  refine ⟨⟨⟨0, ?_, List.forall_mem_nil _⟩, List.forall_mem_nil _, List.forall_mem_nil _,
    List.forall_mem_nil _⟩, ?_, ?_⟩
  · rw [hbackend]
    exact .connectTcp dialed
  · rw [hgenerations, hgeneration, hreply]
    exact ⟨each_nil, List.forall_mem_nil _, each_nil, each_nil, ⟨rfl, rfl, rfl, rfl, rfl⟩,
      nofun⟩
  · exact fun _ => List.forall_mem_nil _

/-- The invariant holds after every run whose journal is orderly. -/
theorem inv_ofRun {dialed : Bool} (h : Inv board (.start dialed)) (ops : List (BoardOp fc))
    (horderly : (Journal.ofRun dialed board ops).Orderly) :
    Inv ((machine models fc).run board ops) (.ofRun dialed board ops) := by
  induction ops using List.reverseRecOn with
  | nil => exact h
  | append_singleton ops op ih =>
    unfold Journal.ofRun at horderly ih ⊢
    rw [Machine.history_concat] at horderly ⊢
    rw [Machine.run_append]
    exact inv_note (ih horderly.of_note) op horderly

/-- A session that is past stays past, and no state of it is taken any more. -/
theorem past_note {session : ℕ} (h : board.backend.Past journal.log session) (op : BoardOp fc) :
    ((machine models fc).step board op).1.backend.Past
        (journal.note ((machine models fc).event board op)).log session ∧
      ∃ later, (journal.note ((machine models fc).event board op)).taken = journal.taken ++ later ∧
        ∀ t ∈ later, session < t.session := by
  cases op with
  | step arrival input outcome =>
    have hpolled := h.poll arrival
    have htaken : (board.backend.pollTruth arrival).2.Past
        (journal.log.note (board.backend.report arrival)) session :=
      hpolled.withLink id List.nil_suffix
    show (board.step arrival input outcome).2.backend.Past
        (journal.log.note (board.backend.report arrival)) session ∧
      ∃ later, journal.taken ++ ((board.step arrival input outcome).1.map fun answered =>
          answered.taken (journal.log.note (board.backend.report arrival))).toList =
        journal.taken ++ later ∧ _
    rcases board.step_cases arrival input outcome with ⟨-, hstep⟩ |
      ⟨state, answered, next, hstate, hstep, hanswers⟩
    · rw [hstep]
      exact ⟨htaken, [], rfl, List.forall_mem_nil _⟩
    · rw [hstep]
      obtain ⟨command, hbackend⟩ := hanswers.backend
      refine ⟨?_, _, rfl, ?_⟩
      · rw [hbackend]
        exact htaken.sendActuatorsAt
      · intro t ht
        rw [List.mem_singleton.mp ht]
        exact hpolled.taken hstate
  | waitForTruth peek => exact ⟨h.waitReadable, [], rfl, List.forall_mem_nil _⟩
  | beginReset arrival =>
    refine ⟨TruthBackend.Past.restartSession ?_, [], rfl, List.forall_mem_nil _⟩
    rcases h with hlater | ⟨hsame, -⟩
    · exact Nat.le_of_lt hlater
    · exact Nat.le_of_eq hsame
  | startSession =>
    have hstarted : board.startSession.backend.Past journal.log session := by
      obtain ⟨lifecycle, hstart⟩ := board.startSession_eq
      rwa [hstart]
    exact ⟨hstarted, [], rfl, List.forall_mem_nil _⟩
  | stopSession => exact ⟨h, [], rfl, List.forall_mem_nil _⟩
  | fly change => exact ⟨h, [], rfl, List.forall_mem_nil _⟩

/-- States taken in a run are of sessions after one that is past. -/
theorem past_run {session : ℕ} (h : board.backend.Past journal.log session)
    (ops : List (BoardOp fc)) :
    ∃ later, ((machine models fc).history Journal.note journal board ops).taken =
        journal.taken ++ later ∧ ∀ t ∈ later, session < t.session := by
  induction ops generalizing board journal with
  | nil => exact ⟨[], (List.append_nil _).symm, List.forall_mem_nil _⟩
  | cons op ops ih =>
    obtain ⟨hpast, first, hfirst, hsessions⟩ := past_note h op
    obtain ⟨later, hlater, hrest⟩ := ih hpast
    refine ⟨first ++ later, ?_, List.forall_mem_append.mpr ⟨hsessions, hrest⟩⟩
    rw [← List.append_assoc, ← hfirst]
    exact hlater

/-- States taken after a reset are of sessions opened after it. -/
theorem taken_after_reset {dialed : Bool} (before : List (BoardOp fc)) (arrival : Arrival)
    (after : List (BoardOp fc)) :
    ∃ later, (Journal.ofRun dialed board (before ++ BoardOp.beginReset arrival :: after)).taken =
        (Journal.ofRun dialed board before).taken ++ later ∧
      ∀ t ∈ later, (Journal.ofRun dialed board before).log.opened < t.session := by
  unfold Journal.ofRun
  generalize hjournal : (machine models fc).history Journal.note (.start dialed) board before =
    journal
  have hsplit : (machine models fc).history Journal.note (.start dialed) board
      (before ++ BoardOp.beginReset arrival :: after) =
        (machine models fc).history Journal.note
          (journal.note ((machine models fc).event ((machine models fc).run board before)
            (.beginReset arrival)))
          (((machine models fc).run board before).beginReset arrival) after := by
    rw [← hjournal]
    unfold Machine.history
    rw [Machine.trace_append, List.foldl_append]
    rfl
  have hpast : (((machine models fc).run board before).beginReset arrival).backend.Past
      (journal.note ((machine models fc).event ((machine models fc).run board before)
        (.beginReset arrival))).log journal.log.opened :=
    TruthBackend.Past.restartSession (Nat.le_refl _)
  obtain ⟨later, hlater, hsessions⟩ := past_run hpast after
  refine ⟨later, ?_, hsessions⟩
  rw [hsplit, hlater]
  exact congrArg (· ++ later) (List.append_nil _)

/-- Two states have the same generation exactly when they were sent on the same session; the steps
of a generation are counted; a reply is idle or computed in its own session, to which it is
written; and a reset leaves every session opened before it. -/
theorem one_session_one_world {runner : fc.State} {config : JsbsimConfig models}
    {bound dialed : Bool} (hnew : JsbsimBoard.new runner config bound dialed = .ok board)
    (ops : List (BoardOp fc)) (horderly : (Journal.ofRun dialed board ops).Orderly) :
    (Journal.ofRun dialed board ops).OneWorldPerSession ∧
      ∀ before arrival after, ops = before ++ BoardOp.beginReset arrival :: after →
        ∃ later, (Journal.ofRun dialed board ops).taken =
            (Journal.ofRun dialed board before).taken ++ later ∧
          ∀ t ∈ later, (Journal.ofRun dialed board before).log.opened < t.session := by
  have hinv := inv_ofRun (inv_new hnew) ops horderly
  refine ⟨⟨hinv.linked.sent, fun before t after hsplit => ?_, hinv.linked.replied⟩, ?_⟩
  · have hearlier := hinv.tracked.earlier before t after hsplit
    refine ⟨fun u hu => ?_, fun u hu => (hearlier u hu).world,
      hinv.tracked.numbered before t after hsplit, hinv.tracked.replies before t after hsplit⟩
    exact (hearlier u hu).imp (fun h => ⟨h.1, h.2.2⟩) And.left |>.symm
  · rintro before arrival after rfl
    exact taken_after_reset before arrival after

end Run

/-! ## A run -/

/-- The log is that of the reports. -/
theorem log_ofRun (dialed : Bool) (board : JsbsimBoard models fc) (ops : List (BoardOp fc)) :
    (Journal.ofRun dialed board ops).log =
      (((machine models fc).outputs board ops).map BoardReport.link).foldl LinkLog.note
        (Journal.start dialed).log := by
  induction ops using List.reverseRecOn with
  | nil => rfl
  | append_singleton ops op ih =>
    unfold Journal.ofRun at ih ⊢
    rw [Machine.history_concat, Machine.outputs_append, List.map_append, List.foldl_append, ← ih]
    rfl

/-- A flat world whose every position is the origin. -/
def stillModels : JsbsimModels where
  toWorldModels := Synthesis.flatWorld
  toNed _ _ := .ok ⟨⟨0⟩, ⟨0⟩, ⟨0⟩⟩

/-- A flight controller that always commands the same. -/
def steadyController : FlightController where
  State := Unit
  Input := Unit
  ActuatorCmd := Unit
  applyPacketNoise _ packet := ((), packet)
  feedSensorPacket _ _ := ()
  stepSim _ _ _ := ((), ())
  isReady _ := true
  isArmed _ := true
  terminate _ := ()
  actuatorMap _ armed := .new 0 8 armed

/-- Truth states of 4 ms and 8 ms, at rest at the origin. -/
def truthAt4Ms : Bytes := [253, 2, 0, 0, 0, 1, 1, 115, 0, 0, 160, 15, 183, 128]

def truthAt8Ms : Bytes := [253, 2, 0, 0, 0, 1, 1, 115, 0, 0, 64, 31, 135, 28]

/-- The first dial is refused. The first session is closed by the sidecar after two states; the
second, opened by a reset, starts over. -/
def twoSessions : List (BoardOp steadyController) :=
  [.step ⟨true, [], false⟩ () .written,
    .step ⟨false, [truthAt4Ms], false⟩ () .written,
    .step ⟨false, [truthAt8Ms], false⟩ () .written,
    .waitForTruth .ended,
    .step .quiet () .written,
    .beginReset ⟨true, [], false⟩,
    .step ⟨false, [truthAt4Ms, truthAt8Ms], false⟩ () .written]

/-- Times run forward on both. -/
theorem twoSessions_orderly {board : JsbsimBoard stillModels steadyController}
    (hreports : ((machine stillModels steadyController).outputs board twoSessions).map
        BoardReport.link =
      [.opened, .read [truthAt4Ms], .read [truthAt8Ms], .quiet, .quiet, .opened,
        .read [truthAt4Ms, truthAt8Ms]]) :
    (Journal.ofRun false board twoSessions).Orderly := by
  have hlog := log_ofRun false board twoSessions
  rw [hreports] at hlog
  have hread (session : ℕ) : (Journal.ofRun false board twoSessions).log.read session =
      if session = 1 ∨ session = 2 then [truthAt4Ms, truthAt8Ms] else [] := by
    rw [hlog]
    by_cases hfirst : session = 1
    · subst hfirst
      rfl
    · by_cases hsecond : session = 2
      · subst hsecond
        rfl
      · simp [Journal.start, LinkLog.note, LinkLog.empty, hfirst, hsecond]
  constructor
  · rw [hlog]
    decide
  · intro session
    unfold LinkLog.heard
    rw [hread]
    split
    · decide +kernel
    · exact .nil

theorem one_session_one_world_twoSessions :
    ∃ board : JsbsimBoard stillModels steadyController,
      JsbsimBoard.new () ⟨⟨⟨0⟩, ⟨0⟩, ⟨0⟩⟩, ()⟩ true false = .ok board ∧
        (Journal.ofRun false board twoSessions).taken.map
            (fun t => (t.session, t.generation, t.step)) = [(1, 0, 0), (1, 0, 1), (2, 1, 0)] ∧
        (Journal.ofRun false board twoSessions).OneWorldPerSession ∧
        ∀ before arrival after, twoSessions = before ++ BoardOp.beginReset arrival :: after →
          ∃ later, (Journal.ofRun false board twoSessions).taken =
              (Journal.ofRun false board before).taken ++ later ∧
            ∀ t ∈ later, (Journal.ofRun false board before).log.opened < t.session := by
  have hnew : JsbsimBoard.new () ⟨⟨⟨0⟩, ⟨0⟩, ⟨0⟩⟩, ()⟩ true false =
    .ok (_ : JsbsimBoard stillModels steadyController) := rfl
  refine ⟨_, hnew, ?_, one_session_one_world hnew twoSessions (twoSessions_orderly ?_)⟩
  · decide +kernel
  · decide +kernel

end Aviate.Jsbsim
