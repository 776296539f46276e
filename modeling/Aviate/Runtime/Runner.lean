import Mathlib.Data.List.Induction
import Aviate.Foundations.Machine
import Aviate.Runtime.CommandIngress

/-!
# The flight runner

`FlightRunner::step` (`runner.rs`) runs one control tick: it polls the transport once,
updates the health record, presents the commands to the board and kicks the watchdog. The
board and the watchdog are the hardware's; the command the transport hands over and the
two times are inputs of a step.

Results:
1. The link status compares the time of a step with the last receive, and with 0 before
   there was any (`after_linkOk`); so it is honest exactly on the runs that begin late
   enough (`link_honest_iff`).
2. The board is handed each command on the tick it was received and on no other, and always
   the last setpoint with its own age (`command_delivery`).
-/

namespace Aviate

variable {B W Cmd : Type}

/-- `LINK_TIMEOUT_US`: one second. -/
def linkTimeoutUs : UInt64 := 1000000

/-! ## Health -/

structure RunnerHealth where
  sensorsOk : Bool
  ekfConverged : Bool
  linkOk : Bool
  lastCmdTimeUs : UInt64
  everReceived : Bool
  overrunCount : UInt32
deriving DecidableEq, Repr

namespace RunnerHealth

def new : RunnerHealth := ⟨false, false, false, 0, false, 0⟩

/-- The link is alive while the last receive is less than the timeout ago, on a clock that
wraps. -/
def updateLinkStatus (health : RunnerHealth) (nowUs : UInt64) : RunnerHealth :=
  { health with linkOk := nowUs - health.lastCmdTimeUs < linkTimeoutUs }

def commandReceived (health : RunnerHealth) (nowUs : UInt64) : RunnerHealth :=
  { health with lastCmdTimeUs := nowUs, everReceived := true, linkOk := true }

/-- Age of the last receive in milliseconds; `u32::MAX` before the first. -/
def commandAgeMs (health : RunnerHealth) (nowUs : UInt64) : UInt32 :=
  if health.everReceived then elapsedMs (nowUs - health.lastCmdTimeUs) else 0xFFFFFFFF

end RunnerHealth

/-! ## The runner -/

/-- One tick's view of the commands. -/
structure CommandTick (Cmd : Type) where
  event : Option Cmd
  setpoint : Option Cmd
  setpointAgeMs : UInt32

/-- The board's own stepping logic. -/
class BoardStep (B : Type) (Cmd : outParam Type) where
  boardStep (board : B) (tickUs nowUs : UInt64) (dtUs : UInt32) (cmd : CommandTick Cmd)
    (linkOk : Bool) : B
  sensorsOk : B → Bool
  ekfConverged : B → Bool

class WatchdogHal (W : Type) where
  kick : W → W

structure FlightRunner (B W Cmd : Type) where
  board : B
  watchdog : W
  ingress : CommandIngress Cmd
  lastEvent : Option Cmd
  health : RunnerHealth

/-- What one tick is executed with: the scheduled time, the actual time, the period and what
the transport hands over. -/
structure TickInput (Cmd : Type) where
  tickUs : UInt64
  nowUs : UInt64
  dtUs : UInt32
  received : Option Cmd

/-- What the board is handed. -/
structure BoardCall (Cmd : Type) where
  cmd : CommandTick Cmd
  linkOk : Bool

namespace FlightRunner

def new (board : B) (watchdog : W) : FlightRunner B W Cmd where
  board := board
  watchdog := watchdog
  ingress := .default
  lastEvent := none
  health := .new

/-! ## What a run has received -/

/-- The commands a run received, with their times. -/
def receipts (inputs : List (TickInput Cmd)) : List (Cmd × UInt64) :=
  inputs.filterMap fun input => input.received.map fun cmd => (cmd, input.nowUs)

/-- The time of the last receive. -/
def lastReceiveUs (inputs : List (TickInput Cmd)) : Option UInt64 :=
  ((receipts inputs).map Prod.snd).getLast?

variable {inputs : List (TickInput Cmd)} {input : TickInput Cmd}

theorem receipts_concat_some {cmd : Cmd} (h : input.received = some cmd) :
    receipts (inputs ++ [input]) = receipts inputs ++ [(cmd, input.nowUs)] := by
  simp [receipts, List.filterMap_append, h]

theorem receipts_concat_none (h : input.received = none) :
    receipts (inputs ++ [input]) = receipts inputs := by
  simp [receipts, List.filterMap_append, h]

theorem lastReceiveUs_eq_none_iff :
    lastReceiveUs inputs = none ↔ ∀ input ∈ inputs, input.received = none := by
  rw [lastReceiveUs, List.getLast?_eq_none_iff, List.map_eq_nil_iff, receipts,
    List.filterMap_eq_nil_iff]
  simp

/-- The last receive is one of the run's. -/
theorem exists_of_lastReceiveUs {rxUs : UInt64} (h : lastReceiveUs inputs = some rxUs) :
    ∃ input ∈ inputs, input.received.isSome ∧ input.nowUs = rxUs := by
  obtain ⟨⟨cmd, time⟩, hmem, rfl⟩ := List.mem_map.mp (List.mem_of_getLast? h)
  obtain ⟨input, hinput, hreceived⟩ := List.mem_filterMap.mp hmem
  obtain ⟨cmd', hcmd, hpair⟩ := Option.map_eq_some_iff.mp hreceived
  exact ⟨input, hinput, by rw [hcmd]; rfl, (Prod.mk.inj hpair).2⟩

/-! ## One tick -/

variable [ClassifyCommand Cmd]

/-- Take up what the transport hands over. -/
def poll (r : FlightRunner B W Cmd) (received : Option Cmd) (nowUs : UInt64) :
    FlightRunner B W Cmd :=
  match received with
  | some cmd =>
    { r with
      lastEvent := some cmd
      health := r.health.commandReceived nowUs
      ingress := (r.ingress.receive cmd nowUs).1 }
  | none => { r with lastEvent := none }

/-- What the runner remembers of its receives. -/
structure Remembers (r : FlightRunner B W Cmd) (inputs : List (TickInput Cmd)) : Prop where
  ingress : r.ingress.Holds (receipts inputs)
  lastCmdTimeUs : r.health.lastCmdTimeUs = (lastReceiveUs inputs).getD 0

variable {r : FlightRunner B W Cmd}

theorem new_remembers {board : B} {watchdog : W} :
    (new board watchdog : FlightRunner B W Cmd).Remembers [] :=
  ⟨CommandIngress.default_holds, rfl⟩

@[simp] theorem poll_lastEvent :
    (r.poll input.received input.nowUs).lastEvent = input.received := by
  cases hreceived : input.received with
  | some cmd => rfl
  | none => rfl

/-- A tick takes its command up and forgets nothing of the earlier ones. -/
theorem poll_remembers (h : r.Remembers inputs) :
    (r.poll input.received input.nowUs).Remembers (inputs ++ [input]) := by
  cases hreceived : input.received with
  | some cmd =>
    constructor
    · rw [receipts_concat_some hreceived]
      exact r.ingress.receive_holds cmd input.nowUs h.ingress
    · rw [lastReceiveUs, receipts_concat_some hreceived]
      simp [poll, RunnerHealth.commandReceived]
  | none =>
    constructor
    · rw [receipts_concat_none hreceived]
      exact h.ingress
    · rw [lastReceiveUs, receipts_concat_none hreceived]
      exact h.lastCmdTimeUs

variable [BoardStep B Cmd] [WatchdogHal W]

/-- Execute one control tick. -/
def step (r : FlightRunner B W Cmd) (input : TickInput Cmd) :
    FlightRunner B W Cmd × BoardCall Cmd :=
  let r := r.poll input.received input.nowUs
  let health := r.health.updateLinkStatus input.nowUs
  let cmdTick : CommandTick Cmd :=
    { event := r.lastEvent
      setpoint := r.ingress.setpoint
      setpointAgeMs := r.ingress.setpointAgeMs input.nowUs }
  let board := BoardStep.boardStep r.board input.tickUs input.nowUs input.dtUs cmdTick health.linkOk
  let health :=
    { health with
      sensorsOk := BoardStep.sensorsOk board
      ekfConverged := BoardStep.ekfConverged board }
  ({ r with board := board, health := health, watchdog := WatchdogHal.kick r.watchdog },
    ⟨cmdTick, health.linkOk⟩)

theorem step_remembers (h : r.Remembers inputs) :
    (r.step input).1.Remembers (inputs ++ [input]) :=
  ⟨(poll_remembers h).ingress, (poll_remembers h).lastCmdTimeUs⟩

/-- A tick compares its time with that of the last receive. -/
theorem step_linkOk (input : TickInput Cmd) (h : r.Remembers inputs) :
    (r.step input).1.health.linkOk =
      decide (input.nowUs - (lastReceiveUs (inputs ++ [input])).getD 0 < linkTimeoutUs) := by
  rw [← (poll_remembers h).lastCmdTimeUs]
  rfl

/-- A tick presents its own command as its event, and the last setpoint with its own age. -/
theorem step_cmd (h : r.Remembers inputs) :
    (r.step input).2.cmd.event = input.received ∧
      CommandIngress.Current (r.step input).2.cmd.setpoint (r.step input).2.cmd.setpointAgeMs
        input.nowUs (receipts (inputs ++ [input])) :=
  ⟨poll_lastEvent, (poll_remembers h).ingress.current⟩

/-! ## Runs -/

/-- The runner as a machine: a run is a list of ticks. -/
def machine (B W Cmd : Type) [ClassifyCommand Cmd] [BoardStep B Cmd] [WatchdogHal W] :
    Machine (FlightRunner B W Cmd) (TickInput Cmd) (BoardCall Cmd) := ⟨step⟩

/-- The runner after a run from its construction. -/
def after (board : B) (watchdog : W) (inputs : List (TickInput Cmd)) : FlightRunner B W Cmd :=
  (machine B W Cmd).run (.new board watchdog) inputs

/-- What the board is handed on each tick of a run from construction. -/
def calls (board : B) (watchdog : W) (inputs : List (TickInput Cmd)) : List (BoardCall Cmd) :=
  ((machine B W Cmd).trace (.new board watchdog) inputs).map Machine.Event.out

variable {board : B} {watchdog : W}

theorem after_concat :
    after board watchdog (inputs ++ [input]) = ((after board watchdog inputs).step input).1 :=
  Machine.run_append

theorem calls_concat :
    calls board watchdog (inputs ++ [input]) =
      calls board watchdog inputs ++ [((after board watchdog inputs).step input).2] := by
  rw [calls, Machine.trace_append, List.map_append]
  rfl

theorem after_remembers (board : B) (watchdog : W) (inputs : List (TickInput Cmd)) :
    (after board watchdog inputs).Remembers inputs := by
  induction inputs using List.reverseRecOn with
  | nil => exact new_remembers
  | append_singleton inputs input ih =>
    rw [after_concat]
    exact step_remembers ih

/-! ## The link status -/

/-- After each tick the link is reported alive only if a command was received, on that tick
or before, less than the timeout ago. -/
def LinkHonest (board : B) (watchdog : W) (inputs : List (TickInput Cmd)) : Prop :=
  ∀ before input later, inputs = before ++ input :: later →
    (after board watchdog (before ++ [input])).health.linkOk = true →
      ∃ rx ∈ before ++ [input], rx.received.isSome ∧ input.nowUs - rx.nowUs < linkTimeoutUs

/-- The link status is honest exactly on the runs without a tick in the first second of the
clock up to which nothing was received. -/
theorem link_honest_iff (board : B) (watchdog : W) (inputs : List (TickInput Cmd)) :
    LinkHonest board watchdog inputs ↔
      ∀ before input later, inputs = before ++ input :: later →
        (∀ rx ∈ before ++ [input], rx.received = none) → linkTimeoutUs ≤ input.nowUs := by
  refine forall₄_congr fun before input later _ => ?_
  have hlinkOk := step_linkOk input (after_remembers board watchdog before)
  rw [after_concat, hlinkOk, decide_eq_true_iff]
  cases hlast : lastReceiveUs (before ++ [input]) with
  | none =>
    have hnone := lastReceiveUs_eq_none_iff.mp hlast
    rw [Option.getD_none, UInt64.sub_zero]
    constructor
    · intro h _
      refine UInt64.not_lt.mp fun hearly => ?_
      obtain ⟨rx, hrx, hreceived, -⟩ := h hearly
      rw [hnone rx hrx] at hreceived
      cases hreceived
    · intro h hearly
      exact absurd hearly (UInt64.not_lt.mpr (h hnone))
  | some rxUs =>
    obtain ⟨rx, hrx, hreceived, rfl⟩ := exists_of_lastReceiveUs hlast
    rw [Option.getD_some]
    constructor
    · intro _ hnone
      rw [hnone rx hrx] at hreceived
      cases hreceived
    · intro _ hrecent
      exact ⟨rx, hrx, hreceived, hrecent⟩

/-- A board that does nothing. -/
structure IdleBoard where

instance : BoardStep IdleBoard (SystemCommand Unit) where
  boardStep board _ _ _ _ _ := board
  sensorsOk _ := true
  ekfConverged _ := true

/-- A watchdog that is never armed. -/
structure IdleWatchdog where

instance : WatchdogHal IdleWatchdog where
  kick watchdog := watchdog

/-- On the first tick after boot, with no command received, the link is reported alive. -/
theorem link_alive_at_boot :
    ¬LinkHonest IdleBoard.mk IdleWatchdog.mk
      [(⟨0, 0, 1000, none⟩ : TickInput (SystemCommand Unit))] := by
  intro h
  obtain ⟨rx, hrx, hreceived, -⟩ := h [] ⟨0, 0, 1000, none⟩ [] rfl (by decide)
  rw [List.mem_singleton.mp hrx] at hreceived
  cases hreceived

/-! ## Delivery of commands -/

/-- The call a run makes on the tick after `before`. -/
theorem getElem?_calls {before later : List (TickInput Cmd)} :
    (calls board watchdog (before ++ input :: later))[before.length]? =
      some ((after board watchdog before).step input).2 := by
  rw [calls, List.getElem?_map, Machine.getElem?_trace]
  rfl

/-- The events of a run are the commands it received, each on its own tick. -/
theorem calls_event :
    (calls board watchdog inputs).map (·.cmd.event) = inputs.map (·.received) := by
  induction inputs using List.reverseRecOn with
  | nil => rfl
  | append_singleton inputs input ih =>
    rw [calls_concat, List.map_append, List.map_append, ih]
    exact congrArg (_ ++ [·]) (step_cmd (after_remembers ..)).1

/-- Over every run each received command is the event of the tick it was received on and of
no other, and each tick presents the last setpoint-class command received so far with its
own age. The same holds of an ingress that is handed a batch of commands on each tick,
where the events are the discrete ones. -/
theorem command_delivery (board : B) (watchdog : W) :
    (∀ inputs : List (TickInput Cmd),
      (calls board watchdog inputs).map (·.cmd.event) = inputs.map (·.received) ∧
      ∀ before input later, inputs = before ++ input :: later →
        ∃ call, (calls board watchdog inputs)[before.length]? = some call ∧
          CommandIngress.Current call.cmd.setpoint call.cmd.setpointAgeMs input.nowUs
            (receipts (before ++ [input]))) ∧
    ∀ (batches before later : List (CommandIngress.Batch Cmd)) (b : CommandIngress.Batch Cmd),
      batches = before ++ b :: later →
        ∃ view, (((CommandIngress.machine Cmd).trace .default batches).map
            Machine.Event.out)[before.length]? = some view ∧
          view.events = b.commands.filter (fun cmd => commandClass cmd = .discrete) ∧
          CommandIngress.Current view.setpoint view.setpointAgeMs b.nowUs
            (CommandIngress.receipts (before ++ [b])) := by
  constructor
  · intro inputs
    refine ⟨calls_event, ?_⟩
    rintro before input later rfl
    exact ⟨_, getElem?_calls, (step_cmd (after_remembers ..)).2⟩
  · rintro batches before later b rfl
    refine ⟨_, ?_, CommandIngress.tick_view CommandIngress.run_holds⟩
    rw [List.getElem?_map, Machine.getElem?_trace]
    rfl

end FlightRunner

end Aviate
