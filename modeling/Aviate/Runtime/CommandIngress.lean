import Mathlib.Data.List.Induction
import Aviate.Foundations.Machine
import Aviate.Link.Command

/-!
# Command ingress

`CommandIngress` (`command_ingress.rs`) keeps the last setpoint-class command with its
receive time. A discrete command passes through and leaves no trace. Both runners
route what they receive through it.

Results:
1. What the ingress holds after any run is the last setpoint-class command received and its
   receive time (`run_holds`).
2. A tick presents its own discrete commands and no others, and the last setpoint with the
   time elapsed since its receive, in whole milliseconds (`tick_view`).
-/

namespace Aviate

/-! ## Command classes -/

inductive CommandClass where
  | setpoint
  | discrete
deriving DecidableEq, Repr

/-- `ClassifyCommand`: which lifecycle a command follows. -/
class ClassifyCommand (Cmd : Type) where
  commandClass : Cmd → CommandClass

export ClassifyCommand (commandClass)

instance {F : Type} : ClassifyCommand (SystemCommand F) where
  commandClass
    | .flightControl _ => .setpoint
    | .arm | .disarm | .emergencyTerminate => .discrete

/-! ## The ingress -/

/-- `u32::try_from(elapsed_us / 1_000).unwrap_or(u32::MAX)`. -/
def elapsedMs (elapsedUs : UInt64) : UInt32 :=
  if elapsedUs / 1000 ≤ 0xFFFFFFFF then (elapsedUs / 1000).toUInt32 else 0xFFFFFFFF

/-- Whole milliseconds, up to `u32::MAX`. -/
theorem elapsedMs_toNat (elapsedUs : UInt64) :
    (elapsedMs elapsedUs).toNat = min (elapsedUs.toNat / 1000) (2 ^ 32 - 1) := by
  have hdiv : (elapsedUs / 1000).toNat = elapsedUs.toNat / 1000 := UInt64.toNat_div _ _
  have hmax : UInt64.toNat 0xFFFFFFFF = 2 ^ 32 - 1 := rfl
  unfold elapsedMs
  split
  · rename_i hle
    rw [UInt64.le_iff_toNat_le, hdiv, hmax] at hle
    rw [UInt64.toNat_toUInt32, hdiv, Nat.mod_eq_of_lt (by omega), min_eq_left hle]
  · rename_i hlt
    rw [UInt64.le_iff_toNat_le, hdiv, hmax, not_le] at hlt
    rw [min_eq_right hlt.le]
    rfl

structure CommandIngress (Cmd : Type) where
  setpoint : Option Cmd
  setpointRxUs : Option UInt64

namespace CommandIngress

variable {Cmd : Type}

def default : CommandIngress Cmd := ⟨none, none⟩

/-- Age of the last setpoint-class receive in milliseconds, saturating; `u32::MAX` before
the first. -/
def setpointAgeMs (ingress : CommandIngress Cmd) (nowUs : UInt64) : UInt32 :=
  match ingress.setpointRxUs with
  | some rx => elapsedMs (nowUs - rx)
  | none => 0xFFFFFFFF

variable [ClassifyCommand Cmd]

/-- Route one received command: a setpoint is retained and stamped, and the class is
returned. -/
def receive (ingress : CommandIngress Cmd) (cmd : Cmd) (nowUs : UInt64) :
    CommandIngress Cmd × CommandClass :=
  match commandClass cmd with
  | .setpoint => (⟨some cmd, some nowUs⟩, .setpoint)
  | .discrete => (ingress, .discrete)

/-- The commands a runner received on one tick, and its time. -/
structure Batch (Cmd : Type) where
  commands : List Cmd
  nowUs : UInt64

/-- What a runner makes of a tick: the one-shot events, and the retained setpoint with its
age. -/
structure View (Cmd : Type) where
  events : List Cmd
  setpoint : Option Cmd
  setpointAgeMs : UInt32

/-- Route a batch; the commands reported as discrete are the caller's to act on, once. -/
def receiveAll (ingress : CommandIngress Cmd) (nowUs : UInt64) :
    List Cmd → CommandIngress Cmd × List Cmd
  | [] => (ingress, [])
  | cmd :: batch =>
    let (ingress, reported) := ingress.receive cmd nowUs
    let (ingress, events) := ingress.receiveAll nowUs batch
    match reported with
    | .setpoint => (ingress, events)
    | .discrete => (ingress, cmd :: events)

/-- Route what was received and present the view. -/
def tick (ingress : CommandIngress Cmd) (b : Batch Cmd) : CommandIngress Cmd × View Cmd :=
  let (ingress, events) := ingress.receiveAll b.nowUs b.commands
  (ingress, ⟨events, ingress.setpoint, ingress.setpointAgeMs b.nowUs⟩)

/-- The ingress as a machine: a run is a list of ticks. -/
def machine (Cmd : Type) [ClassifyCommand Cmd] :
    Machine (CommandIngress Cmd) (Batch Cmd) (View Cmd) := ⟨tick⟩

/-! ## What the ingress holds -/

/-- The last setpoint-class command of a history of receives. -/
def lastSetpoint (past : List (Cmd × UInt64)) : Option (Cmd × UInt64) :=
  (past.filter fun r => commandClass r.1 = .setpoint).getLast?

variable {ingress : CommandIngress Cmd} {cmd : Cmd} {nowUs : UInt64} {batch : List Cmd}
  {past : List (Cmd × UInt64)} {b : Batch Cmd} {batches : List (Batch Cmd)}

/-- The ingress holds the last setpoint of the history. -/
structure Holds (ingress : CommandIngress Cmd) (past : List (Cmd × UInt64)) : Prop where
  setpoint : ingress.setpoint = (lastSetpoint past).map Prod.fst
  rx : ingress.setpointRxUs = (lastSetpoint past).map Prod.snd

theorem default_holds : (default : CommandIngress Cmd).Holds [] := ⟨rfl, rfl⟩

/-- A receive is one more entry of the history. -/
theorem receive_holds (ingress : CommandIngress Cmd) (cmd : Cmd) (nowUs : UInt64)
    (h : ingress.Holds past) :
    (ingress.receive cmd nowUs).1.Holds (past ++ [(cmd, nowUs)]) := by
  cases hclass : commandClass cmd with
  | setpoint =>
    have hlast : lastSetpoint (past ++ [(cmd, nowUs)]) = some (cmd, nowUs) := by
      simp [lastSetpoint, List.filter_append, hclass]
    constructor
    · rw [hlast]
      simp only [receive, hclass, Option.map_some]
    · rw [hlast]
      simp only [receive, hclass, Option.map_some]
  | discrete =>
    have hlast : lastSetpoint (past ++ [(cmd, nowUs)]) = lastSetpoint past := by
      simp [lastSetpoint, List.filter_append, hclass]
    constructor
    · rw [hlast]
      simp only [receive, hclass]
      exact h.setpoint
    · rw [hlast]
      simp only [receive, hclass]
      exact h.rx

/-- A batch is a stretch of the history, and its discrete commands are reported. -/
theorem receiveAll_spec (h : ingress.Holds past) :
    (ingress.receiveAll nowUs batch).1.Holds (past ++ batch.map fun cmd => (cmd, nowUs)) ∧
      (ingress.receiveAll nowUs batch).2 =
        batch.filter fun cmd => commandClass cmd = .discrete := by
  induction batch generalizing ingress past with
  | nil =>
    rw [List.map_nil, List.append_nil]
    exact ⟨h, rfl⟩
  | cons cmd batch ih =>
    rw [List.map_cons, List.append_cons]
    obtain ⟨hholds, hevents⟩ := ih (ingress.receive_holds cmd nowUs h)
    cases hclass : commandClass cmd with
    | setpoint =>
      rw [List.filter_cons_of_neg (by simp [hclass]), ← hevents]
      simp only [receiveAll, receive, hclass] at hholds ⊢
      exact ⟨hholds, trivial⟩
    | discrete =>
      rw [List.filter_cons_of_pos (by simp [hclass]), ← hevents]
      simp only [receiveAll, receive, hclass] at hholds ⊢
      exact ⟨hholds, trivial⟩

/-- The setpoint and the age presented at `nowUs` are those of the last setpoint-class
command of the past: the whole milliseconds since its receive, up to `u32::MAX`, and
`u32::MAX` when there is none. -/
def Current (setpoint : Option Cmd) (setpointAgeMs : UInt32) (nowUs : UInt64)
    (past : List (Cmd × UInt64)) : Prop :=
  match lastSetpoint past with
  | some (cmd, rxUs) => setpoint = some cmd ∧
      setpointAgeMs.toNat = min ((nowUs - rxUs).toNat / 1000) (2 ^ 32 - 1)
  | none => setpoint = none ∧ setpointAgeMs.toNat = 2 ^ 32 - 1

theorem Holds.current (h : ingress.Holds past) :
    Current ingress.setpoint (ingress.setpointAgeMs nowUs) nowUs past := by
  unfold Current setpointAgeMs
  rw [h.setpoint, h.rx]
  cases lastSetpoint past with
  | some last => exact ⟨rfl, elapsedMs_toNat _⟩
  | none => exact ⟨rfl, rfl⟩

/-! ## Runs -/

/-- Everything the batches received, with their times. -/
def receipts (batches : List (Batch Cmd)) : List (Cmd × UInt64) :=
  batches.flatMap fun b => b.commands.map fun cmd => (cmd, b.nowUs)

omit [ClassifyCommand Cmd] in
theorem receipts_concat :
    receipts (batches ++ [b]) = receipts batches ++ b.commands.map fun cmd => (cmd, b.nowUs) := by
  simp [receipts]

theorem tick_holds (h : ingress.Holds (receipts batches)) :
    (ingress.tick b).1.Holds (receipts (batches ++ [b])) := by
  rw [receipts_concat]
  exact (receiveAll_spec h).1

/-- A tick reports its own discrete commands and presents the last setpoint. -/
theorem tick_view (h : ingress.Holds (receipts batches)) :
    (ingress.tick b).2.events = b.commands.filter (fun cmd => commandClass cmd = .discrete) ∧
      Current (ingress.tick b).2.setpoint (ingress.tick b).2.setpointAgeMs b.nowUs
        (receipts (batches ++ [b])) :=
  ⟨(receiveAll_spec h).2, (tick_holds h).current⟩

theorem run_holds : ((machine Cmd).run .default batches).Holds (receipts batches) := by
  induction batches using List.reverseRecOn with
  | nil => exact default_holds
  | append_singleton batches b ih =>
    rw [Machine.run_append]
    exact tick_holds ih

end CommandIngress

end Aviate
