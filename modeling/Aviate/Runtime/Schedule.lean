import Mathlib.Data.List.Chain
import Aviate.Runtime.Runner

/-!
# The control loop

`FlightRunner::run` (`runner.rs`) reads the clock before each tick. A reading before the next
scheduled tick ends the catch-up and the loop sleeps; any other executes that tick. The third
tick in a row ends the catch-up too, counts an overrun and moves the schedule to the
reading.

Results:
1. What one reading does to the schedule (`runReading_early`, `runReading_tick`,
   `runReading_overrun`).
2. Where the third tick in a row leaves the loop still behind, the schedule only moves on:
   a run's ticks lie a period apart from the first scheduled one (`ticks_spaced`) and no more
   of them are executed than are due (`ticks_due`).
3. The schedule is kept exactly on the runs whose every third tick in a row leaves the loop
   still behind (`schedule_kept_iff`).
-/

/-- The sign bit of a word read as a signed one. -/
theorem UInt64.toInt64_neg_iff (x : UInt64) : x.toInt64 < 0 ↔ 2 ^ 63 ≤ x.toNat := by
  rw [Int64.lt_iff_toInt_lt]
  show (BitVec.toInt x.toBitVec) < _ ↔ _
  rw [BitVec.toInt_eq_toNat_cond]
  have hlt := x.toNat_lt
  simp only [UInt64.toNat_toBitVec, Int64.toInt_zero]
  split <;> omega

namespace Aviate

variable {B W Cmd : Type} [ClassifyCommand Cmd] [BoardStep B Cmd] [WatchdogHal W]

/-- `MAX_CATCH_UP`. -/
def maxCatchUp : UInt8 := 3

/-! ## The loop -/

/-- The loop between two clock readings: the next scheduled tick, and the ticks executed
since it last slept. -/
structure RunLoop (B W Cmd : Type) where
  runner : FlightRunner B W Cmd
  nextTick : UInt64
  steps : UInt8

/-- One clock reading, and what the transport hands over if a tick is executed. -/
structure Reading (Cmd : Type) where
  nowUs : UInt64
  received : Option Cmd

/-- What a reading leads to. -/
inductive RunOut where
  | early
  | tick (tickUs : UInt64) (overrun : Bool)
deriving DecidableEq, Repr

namespace RunLoop

/-- The loop before its first iteration: the first reading is the first scheduled tick. -/
def start (runner : FlightRunner B W Cmd) (nowUs : UInt64) : RunLoop B W Cmd :=
  ⟨runner, nowUs, 0⟩

/-- The reading is before the next scheduled tick, on a clock that wraps. -/
def early (l : RunLoop B W Cmd) (reading : Reading Cmd) : Prop :=
  (reading.nowUs - l.nextTick).toInt64 < 0

instance (l : RunLoop B W Cmd) (reading : Reading Cmd) : Decidable (l.early reading) :=
  inferInstanceAs (Decidable (_ < _))

/-- Count an overrun, saturating. -/
def countOverrun (r : FlightRunner B W Cmd) : FlightRunner B W Cmd :=
  { r with
    health :=
      { r.health with
        overrunCount :=
          if r.health.overrunCount = 0xFFFFFFFF then 0xFFFFFFFF else r.health.overrunCount + 1 } }

/-- What the loop does with one clock reading. -/
def runReading (period : UInt32) (l : RunLoop B W Cmd) (reading : Reading Cmd) :
    RunLoop B W Cmd × RunOut :=
  if l.early reading then
    -- Not yet time: the loop sleeps and begins a new catch-up.
    ({ l with steps := 0 }, .early)
  else
    let runner := (l.runner.step ⟨l.nextTick, reading.nowUs, period, reading.received⟩).1
    if maxCatchUp ≤ l.steps + 1 then
      (⟨countOverrun runner, reading.nowUs, 0⟩, .tick l.nextTick true)
    else (⟨runner, l.nextTick + period.toUInt64, l.steps + 1⟩, .tick l.nextTick false)

/-- The loop as a machine: a run is a list of clock readings. -/
def machine (B W Cmd : Type) [ClassifyCommand Cmd] [BoardStep B Cmd] [WatchdogHal W]
    (period : UInt32) : Machine (RunLoop B W Cmd) (Reading Cmd) RunOut := ⟨runReading period⟩

abbrev Event (B W Cmd : Type) := Machine.Event (RunLoop B W Cmd) (Reading Cmd) RunOut

/-- The events of the loop from its first reading on. -/
def events (period : UInt32) (runner : FlightRunner B W Cmd) (first : UInt64)
    (readings : List (Reading Cmd)) : List (Event B W Cmd) :=
  (machine B W Cmd period).trace (start runner first) readings

/-- The scheduled time of the tick an event executed. -/
def tickOf : Event B W Cmd → Option ℕ
  | ⟨_, _, .tick tickUs _, _⟩ => some tickUs.toNat
  | ⟨_, _, .early, _⟩ => none

/-- The scheduled times of the ticks executed, in order. -/
def ticks (events : List (Event B W Cmd)) : List ℕ := events.filterMap tickOf

/-- If the reading executes the third tick in a row, the tick after it is due as well. -/
def StillBehind (period : UInt32) (l : RunLoop B W Cmd) (reading : Reading Cmd) : Prop :=
  ¬l.early reading → maxCatchUp ≤ l.steps + 1 →
    l.nextTick.toNat + period.toNat ≤ reading.nowUs.toNat

instance (period : UInt32) (l : RunLoop B W Cmd) (reading : Reading Cmd) :
    Decidable (l.StillBehind period reading) :=
  inferInstanceAs (Decidable (¬l.early reading → _ → _))

/-! ## One reading -/

/-- `next` is the next scheduled tick, not wrapped, and at most a period after the last
reading. -/
structure Scheduled (period : UInt32) (l : RunLoop B W Cmd) (next last : ℕ) : Prop where
  nextTick : l.nextTick.toNat = next % 2 ^ 64
  ahead : next ≤ last + period.toNat
  clock : last < 2 ^ 64

variable {period : UInt32} {l : RunLoop B W Cmd} {reading : Reading Cmd} {next last : ℕ}

omit [ClassifyCommand Cmd] [BoardStep B Cmd] [WatchdogHal W] in
/-- A tick is executed only when it is due. -/
theorem Scheduled.due (h : l.Scheduled period next last) (hclock : last ≤ reading.nowUs.toNat)
    (hdue : ¬l.early reading) : next ≤ reading.nowUs.toNat := by
  by_contra hlt
  refine hdue ((UInt64.toInt64_neg_iff _).mpr ?_)
  have hnext := h.nextTick
  have hahead := h.ahead
  have hperiod := period.toNat_lt
  have hnow := reading.nowUs.toNat_lt
  rw [UInt64.toNat_sub]
  omega

/-- A reading before the next tick moves the clock and leaves the schedule. -/
theorem runReading_early (h : l.Scheduled period next last)
    (hclock : last ≤ reading.nowUs.toNat) (hearly : l.early reading) :
    (l.runReading period reading).2 = .early ∧
      (l.runReading period reading).1.Scheduled period next reading.nowUs.toNat := by
  unfold runReading
  rw [if_pos hearly]
  exact ⟨rfl, h.nextTick, h.ahead.trans (Nat.add_le_add_right hclock _), reading.nowUs.toNat_lt⟩

/-- Any other reading executes the next tick, and moves the schedule on by at least a
period if the third tick in a row leaves the loop still behind. -/
theorem runReading_tick (h : l.Scheduled period next last) (hclock : last ≤ reading.nowUs.toNat)
    (hdue : ¬l.early reading) (hbehind : l.StillBehind period reading) :
    ∃ tickUs overrun next', (l.runReading period reading).2 = .tick tickUs overrun ∧
      tickUs.toNat = next ∧ next ≤ reading.nowUs.toNat ∧ next + period.toNat ≤ next' ∧
      (l.runReading period reading).1.Scheduled period next' reading.nowUs.toNat := by
  have hle := h.due hclock hdue
  have hnow := reading.nowUs.toNat_lt
  have hnext : l.nextTick.toNat = next := by
    rw [h.nextTick, Nat.mod_eq_of_lt (by omega)]
  unfold runReading
  rw [if_neg hdue]
  by_cases hthird : maxCatchUp ≤ l.steps + 1
  · have hmoved := hbehind hdue hthird
    rw [hnext] at hmoved
    simp only [if_pos hthird]
    exact ⟨_, _, reading.nowUs.toNat, rfl, hnext, hle, hmoved,
      (Nat.mod_eq_of_lt hnow).symm, Nat.le_add_right _ _, hnow⟩
  · simp only [if_neg hthird]
    refine ⟨_, _, next + period.toNat, rfl, hnext, hle, le_rfl, ?_, by omega, hnow⟩
    rw [UInt64.toNat_add, hnext, UInt32.toNat_toUInt64]

/-- A tick does not touch the overrun count. -/
theorem step_overrunCount {r : FlightRunner B W Cmd} {input : TickInput Cmd} :
    (r.step input).1.health.overrunCount = r.health.overrunCount := by
  show (r.poll input.received input.nowUs).health.overrunCount = _
  cases input.received with
  | some cmd => rfl
  | none => rfl

/-- The overruns flagged are the ones counted. -/
theorem runReading_overrunCount {tickUs : UInt64} {overrun : Bool}
    (h : (l.runReading period reading).2 = .tick tickUs overrun) :
    (l.runReading period reading).1.runner.health.overrunCount =
      if overrun then (countOverrun l.runner).health.overrunCount
      else l.runner.health.overrunCount := by
  unfold runReading at h ⊢
  split at h
  · cases h
  rename_i hdue
  rw [if_neg hdue]
  split at h
  · rename_i hthird
    cases h
    simp only [if_pos hthird, countOverrun, step_overrunCount, if_true]
  · rename_i hthird
    cases h
    simp only [if_neg hthird, step_overrunCount, Bool.false_eq_true, if_false]

/-- An overrun is flagged on the third tick in a row. -/
theorem stillBehind_iff :
    l.StillBehind period reading ↔
      ∀ tickUs, (l.runReading period reading).2 = .tick tickUs true →
        tickUs.toNat + period.toNat ≤ reading.nowUs.toNat := by
  unfold runReading StillBehind
  by_cases hearly : l.early reading
  · rw [if_pos hearly]
    exact ⟨fun _ _ h => (nomatch h), fun _ h => absurd hearly h⟩
  · rw [if_neg hearly]
    by_cases hthird : maxCatchUp ≤ l.steps + 1
    · simp only [if_pos hthird]
      constructor
      · rintro h tickUs ⟨⟩
        exact h hearly hthird
      · intro h _ _
        exact h l.nextTick rfl
    · simp only [if_neg hthird]
      exact ⟨fun _ _ h => (nomatch h), fun _ _ h => absurd h hthird⟩

/-! ## Runs -/

variable {readings : List (Reading Cmd)}

/-- The last reading of a run. -/
def lastReading (last : ℕ) (readings : List (Reading Cmd)) : ℕ :=
  readings.foldl (fun _ reading => reading.nowUs.toNat) last

/-- Every third tick in a row of the run leaves the loop still behind. -/
def CatchesUp (period : UInt32) (events : List (Event B W Cmd)) : Prop :=
  ∀ e ∈ events, e.pre.StillBehind period e.op

instance (period : UInt32) (events : List (Event B W Cmd)) : Decidable (CatchesUp period events) :=
  inferInstanceAs (Decidable (∀ e ∈ events, _))

omit [ClassifyCommand Cmd] in
theorem le_lastReading (hclock : (last :: readings.map fun r => r.nowUs.toNat).IsChain (· ≤ ·)) :
    last ≤ lastReading last readings := by
  induction readings generalizing last with
  | nil => exact le_rfl
  | cons reading readings ih =>
    rw [List.map_cons, List.isChain_cons_cons] at hclock
    exact hclock.1.trans (ih hclock.2)

/-- The ticks of a run lie a period apart, from the next scheduled one on. -/
theorem ticks_spaced (h : l.Scheduled period next last)
    (hclock : (last :: readings.map fun r => r.nowUs.toNat).IsChain (· ≤ ·))
    (hcatch : CatchesUp period ((machine B W Cmd period).trace l readings)) :
    (∀ t ∈ ticks ((machine B W Cmd period).trace l readings), next ≤ t) ∧
      (ticks ((machine B W Cmd period).trace l readings)).Pairwise fun a b =>
        a + period.toNat ≤ b := by
  induction readings generalizing l next last with
  | nil => exact ⟨by simp [ticks], .nil⟩
  | cons reading readings ih =>
    rw [List.map_cons, List.isChain_cons_cons] at hclock
    obtain ⟨hle, hclock⟩ := hclock
    rw [CatchesUp, Machine.trace_cons, List.forall_mem_cons] at hcatch
    obtain ⟨hbehind, hcatch⟩ := hcatch
    rw [Machine.trace_cons]
    by_cases hearly : l.early reading
    · obtain ⟨hout, hscheduled⟩ := runReading_early h hle hearly
      have hnone : tickOf ((machine B W Cmd period).event l reading) = none := by
        simp only [Machine.event, machine, tickOf, hout]
      rw [ticks, List.filterMap_cons_none hnone]
      exact ih hscheduled hclock hcatch
    · obtain ⟨tickUs, overrun, next', hout, rfl, -, hnext, hscheduled⟩ :=
        runReading_tick h hle hearly hbehind
      have hsome : tickOf ((machine B W Cmd period).event l reading) = some tickUs.toNat := by
        simp only [Machine.event, machine, tickOf, hout]
      obtain ⟨hlower, hspaced⟩ := ih hscheduled hclock hcatch
      rw [ticks, List.filterMap_cons_some hsome]
      constructor
      · intro t ht
        rcases List.mem_cons.mp ht with rfl | ht
        · exact le_rfl
        · have := hlower t ht
          omega
      · exact List.pairwise_cons.mpr ⟨fun t ht => hnext.trans (hlower t ht), hspaced⟩

/-- No more ticks are executed than are due: the last of `k` ticks is scheduled `k - 1`
periods after the first. -/
theorem ticks_due (h : l.Scheduled period next last)
    (hclock : (last :: readings.map fun r => r.nowUs.toNat).IsChain (· ≤ ·))
    (hcatch : CatchesUp period ((machine B W Cmd period).trace l readings)) {k : ℕ}
    (hk : (ticks ((machine B W Cmd period).trace l readings)).length = k + 1) :
    next + k * period.toNat ≤ lastReading last readings := by
  induction readings generalizing l next last k with
  | nil => simp [ticks] at hk
  | cons reading readings ih =>
    rw [List.map_cons, List.isChain_cons_cons] at hclock
    obtain ⟨hle, hclock⟩ := hclock
    rw [CatchesUp, Machine.trace_cons, List.forall_mem_cons] at hcatch
    obtain ⟨hbehind, hcatch⟩ := hcatch
    rw [Machine.trace_cons] at hk
    by_cases hearly : l.early reading
    · obtain ⟨hout, hscheduled⟩ := runReading_early h hle hearly
      have hnone : tickOf ((machine B W Cmd period).event l reading) = none := by
        simp only [Machine.event, machine, tickOf, hout]
      rw [ticks, List.filterMap_cons_none hnone] at hk
      exact ih hscheduled hclock hcatch hk
    · obtain ⟨tickUs, overrun, next', hout, rfl, hdue, hnext, hscheduled⟩ :=
        runReading_tick h hle hearly hbehind
      have hsome : tickOf ((machine B W Cmd period).event l reading) = some tickUs.toNat := by
        simp only [Machine.event, machine, tickOf, hout]
      rw [ticks, List.filterMap_cons_some hsome, List.length_cons, Nat.add_right_cancel_iff] at hk
      cases k with
      | zero =>
        rw [Nat.zero_mul, Nat.add_zero]
        exact hdue.trans (le_lastReading hclock)
      | succ k =>
        have hrest := ih hscheduled hclock hcatch hk
        calc tickUs.toNat + (k + 1) * period.toNat
            = (tickUs.toNat + period.toNat) + k * period.toNat := by rw [Nat.succ_mul]; omega
          _ ≤ next' + k * period.toNat := Nat.add_le_add_right hnext _
          _ ≤ lastReading reading.nowUs.toNat readings := hrest

/-! ## The schedule of a run -/

/-- Ticks strictly increase and lie a period apart, no more are executed up to a reading
than are due, and an overrun is counted only where the loop is still behind. -/
structure ScheduleKept (period : UInt32) (runner : FlightRunner B W Cmd) (first : UInt64)
    (readings : List (Reading Cmd)) : Prop where
  spaced : (ticks (events period runner first readings)).Pairwise fun a b =>
    a < b ∧ a + period.toNat ≤ b
  due : ∀ before reading later, readings = before ++ reading :: later →
    (ticks (events period runner first (before ++ [reading]))).length ≤
      (reading.nowUs.toNat - first.toNat) / period.toNat + 1
  overruns : ∀ e ∈ events period runner first readings, ∀ tickUs, e.out = .tick tickUs true →
    tickUs.toNat + period.toNat ≤ e.op.nowUs.toNat

/-- With a positive period and a clock that does not go back, the schedule is kept exactly on
the runs whose every third tick in a row leaves the loop still behind. -/
theorem schedule_kept_iff {period : UInt32} (runner : FlightRunner B W Cmd) {first : UInt64}
    {readings : List (Reading Cmd)} (hperiod : 0 < period)
    (hclock : (first :: readings.map Reading.nowUs).IsChain (· ≤ ·)) :
    ScheduleKept period runner first readings ↔
      CatchesUp period (events period runner first readings) := by
  have hpos : 0 < period.toNat := UInt32.lt_iff_toNat_lt.mp hperiod
  have hstart : (start runner first).Scheduled period first.toNat first.toNat :=
    ⟨(Nat.mod_eq_of_lt first.toNat_lt).symm, Nat.le_add_right _ _, first.toNat_lt⟩
  have hnat : (first.toNat :: readings.map fun r => r.nowUs.toNat).IsChain (· ≤ ·) := by
    have hmap := List.isChain_map_of_isChain UInt64.toNat
      (fun a b hab => UInt64.le_iff_toNat_le.mp hab) hclock
    simpa [List.map_map, Function.comp_def] using hmap
  have hoverruns : CatchesUp period (events period runner first readings) ↔
      ∀ e ∈ events period runner first readings, ∀ tickUs, e.out = .tick tickUs true →
        tickUs.toNat + period.toNat ≤ e.op.nowUs.toNat :=
    Machine.forall_trace_congr fun l reading => stillBehind_iff
  constructor
  · intro h
    exact hoverruns.mpr h.overruns
  · intro hcatch
    refine ⟨?_, ?_, hoverruns.mp hcatch⟩
    · refine (ticks_spaced hstart hnat hcatch).2.imp fun {a b} hab => ⟨?_, hab⟩
      omega
    · rintro before reading later rfl
      have hbegins : (first.toNat :: (before ++ [reading]).map fun r => r.nowUs.toNat).IsChain
          (· ≤ ·) := by
        rw [List.append_cons, List.map_append, ← List.cons_append] at hnat
        exact hnat.left_of_append
      have hcatch' : CatchesUp period (events period runner first (before ++ [reading])) := by
        intro e he
        refine hcatch e ?_
        rw [events, List.append_cons, Machine.trace_append]
        exact List.mem_append_left _ he
      cases hk : (ticks (events period runner first (before ++ [reading]))).length with
      | zero => exact Nat.zero_le _
      | succ k =>
        have hdue := ticks_due hstart hbegins hcatch' hk
        rw [lastReading, List.foldl_append] at hdue
        refine Nat.succ_le_succ ((Nat.le_div_iff_mul_le hpos).mpr ?_)
        exact Nat.le_sub_of_add_le' hdue

/-- A runner of a board that does nothing. -/
def idleRunner :
    FlightRunner FlightRunner.IdleBoard FlightRunner.IdleWatchdog (SystemCommand Unit) :=
  .new ⟨⟩ ⟨⟩

/-- Clock readings without commands. -/
def readingsAt (times : List UInt64) : List (Reading (SystemCommand Unit)) :=
  times.map fun nowUs => ⟨nowUs, none⟩

theorem schedule_kept_after_stall :
    ScheduleKept 1000 idleRunner 0 (readingsAt [0, 500, 7000, 7000, 7000, 7000, 7500]) :=
  (schedule_kept_iff idleRunner (by decide) (by decide)).mpr (by decide)

/-- Two periods late, three ticks catch up exactly; the third counts an overrun and draws
the schedule back, and the tick it executed is executed again. -/
theorem schedule_repeats_tick :
    ticks (events 1000 idleRunner 0 (readingsAt [2000, 2000, 2000, 2000])) =
        [0, 1000, 2000, 2000] ∧
      ¬ScheduleKept 1000 idleRunner 0 (readingsAt [2000, 2000, 2000, 2000]) := by
  have hticks : ticks (events 1000 idleRunner 0 (readingsAt [2000, 2000, 2000, 2000])) =
      [0, 1000, 2000, 2000] := by decide
  refine ⟨hticks, fun h => ?_⟩
  have hspaced := h.spaced
  rw [hticks] at hspaced
  revert hspaced
  decide

end RunLoop

end Aviate
