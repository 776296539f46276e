import Aviate.Foundations.Machine

/-!
# Boot flags in the backup registers

The application and the bootloader talk through four registers that keep their content over a
reset: the panic handler (`panic.rs`), the reboot into the bootloader (`bootloader.rs`), the boot
(`stm32h743/src/lib.rs`) and the boot sequence with its flags (`aviate-boot-core`,
`rtc_crash_backend.rs`). The build is the one with `software-dfu`.

Results:
1. `recorded_step_iff`: what an action leaves in the registers is what it has to record, if and
   only if the registers were in a state that its own layout agrees with.
2. `handles_boot`: a boot does what the registers record.
3. `bootContract_iff`: the boots of a run, and two boots after any part of it, do what the events
   before them ask for, if and only if every action is taken in such a state.
-/

namespace Aviate.Boot

/-! ## The registers -/

namespace Magic

def bootToBootloader : UInt32 := 0xb007b007

def crashDetected : UInt32 := 0xdeadbeef

def firmwareOk : UInt32 := 0xb0093a26

end Magic

/-- `BOOT_FLAGS_MAGIC`, the header of the flags. -/
def bootFlagsMagic : UInt32 := 0x52414D42

structure BackupRegisters where
  bk0 : UInt32
  bk1 : UInt32
  bk2 : UInt32
  bk3 : UInt32
deriving DecidableEq, Repr

structure BootFlags where
  wantBootloader : Bool
  crashDetected : Bool
  firmwareOk : Bool
deriving DecidableEq, Repr

/-! ## The flags behind the header -/

namespace RtcCrashBackend

def loadFlags (regs : BackupRegisters) : BootFlags :=
  if regs.bk0 ≠ bootFlagsMagic then ⟨false, false, false⟩
  else
    { wantBootloader := regs.bk1 == Magic.bootToBootloader
      crashDetected := regs.bk2 == Magic.crashDetected
      firmwareOk := regs.bk3 == Magic.firmwareOk }

def storeFlags (flags : BootFlags) : BackupRegisters :=
  { bk0 := bootFlagsMagic
    bk1 := if flags.wantBootloader then Magic.bootToBootloader else 0
    bk2 := if flags.crashDetected then Magic.crashDetected else 0
    bk3 := if flags.firmwareOk then Magic.firmwareOk else 0 }

def clearCrashDetected (regs : BackupRegisters) : BackupRegisters :=
  storeFlags { loadFlags regs with crashDetected := false }

def clearBootloaderRequest (regs : BackupRegisters) : BackupRegisters :=
  storeFlags { loadFlags regs with wantBootloader := false }

end RtcCrashBackend

/-! ## The application -/

/-- The panic handler writes the second register. -/
def panic (regs : BackupRegisters) : BackupRegisters :=
  { regs with bk1 := Magic.crashDetected }

/-- `BOOT_RTC_SIGNATURE` goes to the first register. -/
def rebootToBootloader (regs : BackupRegisters) : BackupRegisters :=
  { regs with bk0 := Magic.bootToBootloader }

def markFirmwareOk (regs : BackupRegisters) : BackupRegisters :=
  { regs with bk0 := Magic.firmwareOk }

/-! ## The boot -/

/-- Where a boot ends. -/
inductive Entered where
  | updateMode
  | application
deriving DecidableEq, Repr

/-- What a boot does: whether it signals a crash, and where it ends. -/
structure BootOutcome where
  crashReported : Bool
  entered : Entered
deriving DecidableEq, Repr

/-- `valid` is what `validate_app` finds. -/
def bootSequence (regs : BackupRegisters) (valid : Bool) : BackupRegisters × BootOutcome :=
  let flags := RtcCrashBackend.loadFlags regs
  if flags.crashDetected then (RtcCrashBackend.clearCrashDetected regs, ⟨true, .updateMode⟩)
  else if flags.wantBootloader then
    (RtcCrashBackend.clearBootloaderRequest regs, ⟨false, .updateMode⟩)
  else if valid then (regs, ⟨false, .application⟩)
  else (regs, ⟨false, .updateMode⟩)

def chipMain (regs : BackupRegisters) (valid : Bool) : BackupRegisters × BootOutcome :=
  if regs.bk0 = Magic.bootToBootloader then ({ regs with bk0 := 0 }, ⟨false, .updateMode⟩)
  else bootSequence regs valid

inductive Action where
  | panic
  | rebootToBootloader
  | markFirmwareOk
  | boot (valid : Bool)
deriving DecidableEq, Repr

/-- The registers over runs and boots of the application. -/
def bootMachine : Machine BackupRegisters Action (Option BootOutcome) where
  step
    | regs, .panic => (panic regs, none)
    | regs, .rebootToBootloader => (rebootToBootloader regs, none)
    | regs, .markFirmwareOk => (markFirmwareOk regs, none)
    | regs, .boot valid =>
      let (regs, boot) := chipMain regs valid
      (regs, some boot)

/-! ## The contract -/

/-- The events that no boot has handled yet. -/
structure Pending where
  crash : Bool
  request : Bool
deriving DecidableEq, Repr

namespace Pending

/-- A boot handles one event, a crash first. -/
def note (pending : Pending) : Action → Pending
  | .panic => { pending with crash := true }
  | .rebootToBootloader => { pending with request := true }
  | .markFirmwareOk => pending
  | .boot _ =>
    if pending.crash then { pending with crash := false } else { pending with request := false }

/-- The boot does what the pending events ask for. -/
structure Handles (pending : Pending) (valid : Bool) (boot : BootOutcome) : Prop where
  crash : boot.crashReported = pending.crash
  update : pending.crash = true ∨ pending.request = true → boot.entered = .updateMode
  jump : pending = ⟨false, false⟩ → valid = true → boot.entered = .application

end Pending

/-- What the registers record, as the boot reads them. -/
def BackupRegisters.recorded (regs : BackupRegisters) : Pending :=
  { crash := (RtcCrashBackend.loadFlags regs).crashDetected
    request :=
      regs.bk0 == Magic.bootToBootloader || (RtcCrashBackend.loadFlags regs).wantBootloader }

/-- Every boot of the run handles what is pending before it. What the registers hold at the start
is pending from before. -/
def BootContract (regs : BackupRegisters) (actions : List Action) : Prop :=
  ∀ before valid after, actions = before ++ Action.boot valid :: after →
    (before.foldl Pending.note regs.recorded).Handles valid
      (chipMain (bootMachine.run regs before) valid).2

/-- The action records its event where the boot looks for it, over nothing else. -/
def Keeps (regs : BackupRegisters) : Action → Prop
  | .panic => regs.recorded.crash = true ∧ regs.recorded.request = false
  | .rebootToBootloader => regs.recorded.crash = false
  | .markFirmwareOk => regs.recorded = ⟨false, false⟩
  | .boot _ => True

/-! ## Steps -/

section Steps

variable {regs : BackupRegisters} {valid : Bool} {flags : BootFlags}

theorem magic_distinct :
    Magic.bootToBootloader ≠ bootFlagsMagic ∧ Magic.crashDetected ≠ Magic.bootToBootloader ∧
      Magic.firmwareOk ≠ Magic.bootToBootloader ∧ Magic.firmwareOk ≠ bootFlagsMagic ∧
      (0 : UInt32) ≠ bootFlagsMagic ∧ (0 : UInt32) ≠ Magic.bootToBootloader := by
  decide

/-- Stored flags are loaded as they were. -/
theorem loadFlags_storeFlags :
    RtcCrashBackend.loadFlags (RtcCrashBackend.storeFlags flags) = flags := by
  obtain ⟨want, crash, ok⟩ := flags
  cases want <;> cases crash <;> cases ok <;> rfl

theorem recorded_storeFlags :
    (RtcCrashBackend.storeFlags flags).recorded = ⟨flags.crashDetected, flags.wantBootloader⟩ := by
  have hheader : ((RtcCrashBackend.storeFlags flags).bk0 == Magic.bootToBootloader) = false := rfl
  rw [BackupRegisters.recorded, loadFlags_storeFlags, hheader, Bool.false_or]

/-- Without the header there are no flags. -/
theorem loadFlags_of_ne (h : regs.bk0 ≠ bootFlagsMagic) :
    RtcCrashBackend.loadFlags regs = ⟨false, false, false⟩ := if_pos h

theorem recorded_of_ne (h : regs.bk0 ≠ bootFlagsMagic) :
    regs.recorded = ⟨false, regs.bk0 == Magic.bootToBootloader⟩ := by
  rw [BackupRegisters.recorded, loadFlags_of_ne h, Bool.or_false]

theorem recorded_of_flags (h : regs.bk0 ≠ Magic.bootToBootloader) :
    regs.recorded = ⟨(RtcCrashBackend.loadFlags regs).crashDetected,
      (RtcCrashBackend.loadFlags regs).wantBootloader⟩ := by
  rw [BackupRegisters.recorded, beq_eq_false_iff_ne.mpr h, Bool.false_or]

/-- A boot does what the registers record, and takes it from them. -/
theorem chipMain_spec :
    regs.recorded.Handles valid (chipMain regs valid).2 ∧
      (chipMain regs valid).1.recorded = regs.recorded.note (.boot valid) := by
  unfold chipMain
  split
  next h =>
    have hheader : regs.bk0 ≠ bootFlagsMagic := h ▸ magic_distinct.1
    have hrecorded : regs.recorded = ⟨false, true⟩ := by
      rw [recorded_of_ne hheader, h, beq_self_eq_true]
    have hafter : ({ regs with bk0 := 0 } : BackupRegisters).recorded = ⟨false, false⟩ :=
      recorded_of_ne magic_distinct.2.2.2.2.1
    rw [hrecorded, hafter]
    exact ⟨⟨rfl, fun _ => rfl, nofun⟩, rfl⟩
  next h =>
    have hrecorded := recorded_of_flags h
    unfold bootSequence
    cases hcrash : (RtcCrashBackend.loadFlags regs).crashDetected with
    | true =>
      rw [hcrash] at hrecorded
      simp only [hcrash, if_true, RtcCrashBackend.clearCrashDetected, recorded_storeFlags,
        hrecorded]
      exact ⟨⟨rfl, fun _ => rfl, nofun⟩, rfl⟩
    | false =>
      cases hwant : (RtcCrashBackend.loadFlags regs).wantBootloader with
      | true =>
        rw [hcrash, hwant] at hrecorded
        simp only [hcrash, hwant, Bool.false_eq_true, if_false, if_true,
          RtcCrashBackend.clearBootloaderRequest, recorded_storeFlags, hrecorded]
        exact ⟨⟨rfl, fun _ => rfl, nofun⟩, rfl⟩
      | false =>
        rw [hcrash, hwant] at hrecorded
        cases valid with
        | true =>
          simp only [hcrash, hwant, Bool.false_eq_true, if_false, if_true, hrecorded]
          exact ⟨⟨rfl, nofun, fun _ _ => rfl⟩, rfl⟩
        | false =>
          simp only [hcrash, hwant, Bool.false_eq_true, if_false, hrecorded]
          exact ⟨⟨rfl, nofun, nofun⟩, rfl⟩

theorem handles_boot : regs.recorded.Handles valid (chipMain regs valid).2 := chipMain_spec.1

theorem recorded_panic :
    (panic regs).recorded = ⟨regs.recorded.crash, regs.bk0 == Magic.bootToBootloader⟩ := by
  by_cases hheader : regs.bk0 = bootFlagsMagic
  · have hwant : (Magic.crashDetected == Magic.bootToBootloader) = false := by decide
    simp [BackupRegisters.recorded, panic, RtcCrashBackend.loadFlags, hheader, hwant]
  · rw [recorded_of_ne hheader, @recorded_of_ne (panic regs) hheader]
    rfl

theorem recorded_rebootToBootloader : (rebootToBootloader regs).recorded = ⟨false, true⟩ :=
  recorded_of_ne magic_distinct.1

theorem recorded_markFirmwareOk : (markFirmwareOk regs).recorded = ⟨false, false⟩ :=
  recorded_of_ne magic_distinct.2.2.2.1

/-- A recorded crash stands behind the header. -/
theorem bk0_of_crash (h : regs.recorded.crash = true) : regs.bk0 = bootFlagsMagic := by
  by_contra hheader
  rw [recorded_of_ne hheader] at h
  cases h

/-- An action records its event, and keeps the others, if and only if `Keeps` holds of it. -/
theorem recorded_step_iff (action : Action) :
    (bootMachine.step regs action).1.recorded = regs.recorded.note action ↔ Keeps regs action := by
  cases action with
  | panic =>
    show (panic regs).recorded = { regs.recorded with crash := true } ↔ _
    rw [recorded_panic, Pending.mk.injEq, Keeps]
    constructor
    · rintro ⟨hcrash, hrequest⟩
      refine ⟨hcrash, hrequest.symm.trans ?_⟩
      rw [bk0_of_crash hcrash]
      rfl
    · rintro ⟨hcrash, hrequest⟩
      refine ⟨hcrash, Eq.trans ?_ hrequest.symm⟩
      rw [bk0_of_crash hcrash]
      rfl
  | rebootToBootloader =>
    show (rebootToBootloader regs).recorded = { regs.recorded with request := true } ↔ _
    rw [recorded_rebootToBootloader, Pending.mk.injEq, Keeps]
    exact ⟨fun h => h.1.symm, fun h => ⟨h.symm, rfl⟩⟩
  | markFirmwareOk =>
    show (markFirmwareOk regs).recorded = regs.recorded ↔ _
    rw [recorded_markFirmwareOk, Keeps]
    exact eq_comm
  | boot valid => exact iff_of_true chipMain_spec.2 trivial

end Steps

/-! ## Runs -/

section Runs

variable {regs : BackupRegisters} {actions before : List Action} {pending : Pending}

/-- As long as every action keeps what is recorded, the registers record what is pending. -/
theorem recorded_run (h : ∀ event ∈ bootMachine.trace regs actions, Keeps event.pre event.op) :
    (bootMachine.run regs actions).recorded = actions.foldl Pending.note regs.recorded := by
  induction actions generalizing regs with
  | nil => rfl
  | cons action actions ih =>
    rw [Machine.trace_cons, List.forall_mem_cons] at h
    have hstep : (bootMachine.step regs action).1.recorded = regs.recorded.note action :=
      (recorded_step_iff action).mpr h.1
    rw [Machine.run_cons, ih h.2, hstep, List.foldl_cons]

/-- Two boots with a valid application show what the registers record. -/
theorem recorded_of_boots (hfirst : pending.Handles true (chipMain regs true).2)
    (hsecond : (pending.note (.boot true)).Handles true
      (chipMain (chipMain regs true).1 true).2) : regs.recorded = pending := by
  have hown : regs.recorded.Handles true (chipMain regs true).2 := handles_boot
  have hnext : (chipMain regs true).1.recorded.Handles true
      (chipMain (chipMain regs true).1 true).2 := handles_boot
  rw [chipMain_spec.2] at hnext
  have hcrash : regs.recorded.crash = pending.crash := hown.crash.symm.trans hfirst.crash
  generalize regs.recorded = recorded at hown hnext hcrash
  generalize (chipMain regs true).2 = first at hown hfirst
  generalize (chipMain (chipMain regs true).1 true).2 = second at hnext hsecond
  obtain ⟨crash, request⟩ := recorded
  obtain ⟨_, request'⟩ := pending
  obtain rfl : crash = _ := hcrash
  -- The boot that finds no crash tells whether there is a request.
  have hsame {p q : Bool} {boot : BootOutcome} (hp : Pending.Handles ⟨false, p⟩ true boot)
      (hq : Pending.Handles ⟨false, q⟩ true boot) : p = q := by
    cases p <;> cases q
    · rfl
    · cases (hp.jump rfl rfl).symm.trans (hq.update (.inr rfl))
    · cases (hq.jump rfl rfl).symm.trans (hp.update (.inr rfl))
    · rfl
  cases crash with
  | true => exact congrArg (Pending.mk true) (hsame hnext hsecond)
  | false => exact congrArg (Pending.mk false) (hsame hown hfirst)

/-- If two boots after the actions handle what is pending, it is what the registers record. -/
theorem recorded_of_contract
    (h : BootContract regs (before ++ [Action.boot true, .boot true])) :
    (bootMachine.run regs before).recorded = before.foldl Pending.note regs.recorded := by
  refine recorded_of_boots (h before true [.boot true] rfl) ?_
  have hsecond := h (before ++ [Action.boot true]) true [] (by simp)
  rw [Machine.run_append, List.foldl_append] at hsecond
  exact hsecond

/-- The boots of a run, and two boots after any part of it, do what the events before them ask
for, if and only if every action keeps what the registers record. -/
theorem bootContract_iff (regs : BackupRegisters) (actions : List Action) :
    (∀ before, before <+: actions →
        BootContract regs (before ++ [Action.boot true, .boot true])) ↔
      ∀ event ∈ bootMachine.trace regs actions, Keeps event.pre event.op := by
  constructor
  · intro hcontract event hevent
    obtain ⟨before, action, after, rfl, rfl⟩ := Machine.mem_trace.mp hevent
    have hbegins : before ++ [action] <+: before ++ action :: after := ⟨after, by simp⟩
    have hpre := recorded_of_contract
      (hcontract before ((List.prefix_append before [action]).trans hbegins))
    have hpost := recorded_of_contract (hcontract (before ++ [action]) hbegins)
    rw [Machine.run_append, List.foldl_append, ← hpre] at hpost
    exact (recorded_step_iff action).mp hpost
  · rintro hkeeps part ⟨rest, rfl⟩ before valid after hsplit
    rw [Machine.trace_append] at hkeeps
    -- The two boots keep what is recorded as every boot does.
    have hboots : ∀ event ∈ bootMachine.trace regs (part ++ [Action.boot true, .boot true]),
        Keeps event.pre event.op := by
      intro event hevent
      rw [Machine.trace_append] at hevent
      rcases List.mem_append.mp hevent with hpart | hboot
      · exact hkeeps event (List.mem_append_left _ hpart)
      · rcases List.mem_cons.mp hboot with rfl | hboot
        · trivial
        · obtain rfl := List.mem_singleton.mp hboot
          trivial
    rw [hsplit, Machine.trace_append] at hboots
    have hrecorded := recorded_run fun event hevent => hboots event (List.mem_append_left _ hevent)
    rw [← hrecorded]
    exact handles_boot

/-- The boot after a panic starts the application and reports nothing. -/
theorem panic_unreported :
    let regs : BackupRegisters := ⟨0, 0, 0, 0⟩
    (chipMain (bootMachine.run regs [.panic]) true).2 = ⟨false, .application⟩ ∧
      ¬ BootContract regs [.panic, .boot true] := by
  intro regs
  have hboot : (chipMain (bootMachine.run regs [.panic]) true).2 = ⟨false, .application⟩ := rfl
  refine ⟨hboot, ?_⟩
  intro hcontract
  have hhandles := hcontract [.panic] true [] rfl
  rw [hboot] at hhandles
  cases hhandles.crash

end Runs

end Aviate.Boot
