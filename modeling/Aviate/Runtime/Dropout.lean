import Aviate.Foundations.Machine
import Aviate.Model

/-!
# Injected dropouts

A dropout of `n` cycles is injected into one sensor of a simulated board, which is then fed and
read through the HAL. The HAL asks whether data is ready before it reads, a sensor in a dropout
says that none is, and only a read counts the dropout down.

Results:
1. A dropout that has begun is never counted down: nothing is delivered any more
   (`run_dropout`).
2. The first `n` reads of a buffered reading deliver nothing and all later ones deliver it exactly
   when `n` is zero or there are no more than `n` such reads (`dropout_expires_iff`).
-/

namespace Aviate

/-- A board with fake drivers. -/
abbrev FakeBoard (T : Type) := BoardHal FakeImu FakeBaro FakeMag FakeGnss T FakeActuator

/-- One sensor of the board, and how the HAL reads it. -/
structure SensorPort (T Raw α : Type) [HalTimeSource T] [FaultyReading Raw] where
  sensor : FakeBoard T → FakeSensor Raw
  withSensor : FakeBoard T → FakeSensor Raw → FakeBoard T
  default : α
  convert : Raw → Converted α
  read : FakeBoard T → Option (SensorReading α) × FakeBoard T
  sensor_withSensor : ∀ hal s, sensor (withSensor hal s) = s
  read_eq : ∀ hal, read hal =
    ((readSensor (sensor hal) hal.timestamp default convert).1,
      withSensor hal (readSensor (sensor hal) hal.timestamp default convert).2)

section Ports

variable {T : Type} [HalTimeSource T]

def imuPort : SensorPort T (RawImuReading F32) (ImuData F32) where
  sensor hal := hal.imu
  withSensor hal imu := { hal with imu }
  default := ImuData.default
  convert raw := ⟨⟨raw.accel, raw.gyro⟩, true, .good⟩
  read hal := hal.readImu
  sensor_withSensor _ _ := rfl
  read_eq _ := rfl

def baroPort [LibmPow F32] : SensorPort T (RawBaroReading F32) (BaroData F32) where
  sensor hal := hal.baro
  withSensor hal baro := { hal with baro }
  default := BaroData.default
  convert raw :=
    { value :=
        { altitude := some (raw.pressureAltitudeM.getD raw.altitudeM)
          air :=
            { staticPressure := some raw.pressurePa
              dynamicPressure := raw.differentialPressurePa
              totalPressure := none
              temperature := some raw.temperatureC
              indicatedAirspeed := none
              trueAirspeed := none } }
      valid := true
      health := .good }
  read hal := hal.readBaro
  sensor_withSensor _ _ := rfl
  read_eq _ := rfl

def magPort : SensorPort T (RawMagReading F32) (MagData F32) where
  sensor hal := hal.mag
  withSensor hal mag := { hal with mag }
  default := MagData.default
  convert raw := ⟨⟨raw.fieldUt⟩, true, .good⟩
  read hal := hal.readMag
  sensor_withSensor _ _ := rfl
  read_eq _ := rfl

def gnssPort : SensorPort T (RawGnssReading F32) (GnssData F32) where
  sensor hal := hal.gnss
  withSensor hal gnss := { hal with gnss }
  default := GnssData.default
  convert raw :=
    { value := ⟨raw.positionNed, raw.velNed, raw.fix, if raw.fix = .none then .lost else .good⟩
      valid := raw.fix ≠ .none
      health := if raw.fix = .none then .failed else .good }
  read hal := hal.readGnss
  sensor_withSensor _ _ := rfl
  read_eq _ := rfl

end Ports

/-! ## Runs -/

/-- What happens between the injection and the end of a run: the sensor is fed or read, or
anything happens to the rest of the board. -/
inductive PortOp (T Raw : Type) where
  | feed (reading : Raw)
  | read
  | elsewhere (rest : FakeBoard T)

section Runs

variable {T Raw α : Type} [HalTimeSource T] [FaultyReading Raw] (port : SensorPort T Raw α)

def SensorPort.machine :
    Machine (FakeBoard T) (PortOp T Raw) (Option (SensorReading α)) where
  step hal
    | .feed reading => (port.withSensor hal ((port.sensor hal).feed reading), none)
    | .read => ((port.read hal).2, (port.read hal).1)
    | .elsewhere rest => (port.withSensor rest (port.sensor hal), none)

/-- Inject a dropout of `n` cycles. -/
def SensorPort.inject (hal : FakeBoard T) (n : UInt32) : FakeBoard T :=
  port.withSensor hal ((port.sensor hal).injectFault (.dropout n))

/-- What the HAL delivers of a raw reading. -/
def SensorPort.delivered (hal : FakeBoard T) (raw : Raw) : SensorReading α :=
  ⟨(port.convert raw).value, (port.convert raw).valid, (port.sensor hal).sourceId, hal.timestamp,
    (port.convert raw).health⟩

/-- A read while a reading is buffered. -/
def SensorPort.isDue (e : Machine.Event (FakeBoard T) (PortOp T Raw) (Option (SensorReading α))) :
    Bool :=
  match e.op with
  | .read => (port.sensor e.pre).hasData
  | _ => false

/-- How many reads of a run found a reading buffered. -/
def SensorPort.dueReads (hal : FakeBoard T) (ops : List (PortOp T Raw)) : Nat :=
  (port.machine.trace hal ops).countP port.isDue

/-- Of the reads that find a reading buffered the first `n` deliver no data, and every later one
delivers the reading. -/
def SensorPort.DropoutExpires (hal : FakeBoard T) (n : UInt32) (ops : List (PortOp T Raw)) : Prop :=
  ∀ before after, ops = before ++ PortOp.read :: after →
    ∀ raw, (port.sensor (port.machine.run (port.inject hal n) before)).reading = some raw →
      (port.dueReads (port.inject hal n) before < n.toNat →
        ∀ reading, (port.read (port.machine.run (port.inject hal n) before)).1 = some reading →
          reading.valid = false) ∧
      (n.toNat ≤ port.dueReads (port.inject hal n) before →
        (port.read (port.machine.run (port.inject hal n) before)).1 =
          some (port.delivered (port.machine.run (port.inject hal n) before) raw))

end Runs

/-- How many reads of a run come after a first reading was fed, or buffered before the run. -/
def readsAfterFeed {T Raw : Type} (buffered : Bool) : List (PortOp T Raw) → Nat
  | [] => 0
  | .feed _ :: ops => readsAfterFeed true ops
  | .read :: ops => (if buffered then 1 else 0) + readsAfterFeed buffered ops
  | .elsewhere _ :: ops => readsAfterFeed buffered ops

section Steps

variable {T Raw α : Type} [HalTimeSource T] [FaultyReading Raw] {port : SensorPort T Raw α}
  {hal : FakeBoard T} {n : UInt32} {ops : List (PortOp T Raw)} {raw : Raw}

/-- Without a fault, or with a dropout that has run out, a buffered reading is delivered. -/
theorem read_clear (hfault : (port.sensor hal).fault = none ∨
    (port.sensor hal).fault = some (.dropout 0)) :
    (port.read hal).1 = (port.sensor hal).reading.map (port.delivered hal) ∧
      (port.sensor (port.read hal).2).reading = none ∧
      ((port.sensor (port.read hal).2).fault = none ∨
        (port.sensor (port.read hal).2).fault = some (.dropout 0)) := by
  rw [port.read_eq, port.sensor_withSensor]
  generalize hsensor : port.sensor hal = s at hfault
  obtain ⟨reading, sourceId, fault⟩ := s
  have hdelivered : ∀ raw, port.delivered hal raw =
      ⟨(port.convert raw).value, (port.convert raw).valid, sourceId, hal.timestamp,
        (port.convert raw).health⟩ := by
    intro raw
    rw [SensorPort.delivered, hsensor]
  cases reading with
  | none =>
    rcases hfault with hfault | hfault
    · cases hfault
      exact ⟨rfl, rfl, .inl rfl⟩
    · cases hfault
      exact ⟨rfl, rfl, .inr rfl⟩
  | some raw =>
    rw [Option.map_some, hdelivered]
    rcases hfault with hfault | hfault <;> cases hfault <;> exact ⟨rfl, rfl, .inl rfl⟩

/-- A sensor in a dropout is not read. -/
theorem read_dropout (hfault : (port.sensor hal).fault = some (.dropout n)) (hn : 0 < n) :
    (port.read hal).1 = none ∧ port.sensor (port.read hal).2 = port.sensor hal := by
  have hready : SensorDriver.dataReady (port.sensor hal) = (.ok false, port.sensor hal) := by
    show (port.sensor hal).dataReady = _
    unfold FakeSensor.dataReady
    rw [hfault]
    exact if_pos hn
  rw [port.read_eq, port.sensor_withSensor]
  unfold readSensor
  rw [hready]
  exact ⟨rfl, rfl⟩

/-- An operation on a sensor in a dropout leaves the dropout as it is. -/
theorem step_dropout (hfault : (port.sensor hal).fault = some (.dropout n)) (hn : 0 < n)
    (op : PortOp T Raw) :
    (port.sensor (port.machine.step hal op).1).fault = some (.dropout n) ∧
      (port.sensor (port.machine.step hal op).1).hasData =
        match op with
        | .feed _ => true
        | _ => (port.sensor hal).hasData := by
  cases op with
  | feed reading =>
    have hfed : port.sensor (port.machine.step hal (.feed reading)).1 =
        (port.sensor hal).feed reading := port.sensor_withSensor _ _
    rw [hfed]
    exact ⟨hfault, rfl⟩
  | read =>
    have hread : port.sensor (port.machine.step hal .read).1 = port.sensor hal :=
      (read_dropout hfault hn).2
    rw [hread]
    exact ⟨hfault, rfl⟩
  | elsewhere rest =>
    have hkept : port.sensor (port.machine.step hal (.elsewhere rest)).1 = port.sensor hal :=
      port.sensor_withSensor _ _
    rw [hkept]
    exact ⟨hfault, rfl⟩

/-- A dropout of at least one cycle lasts over every run. -/
theorem run_dropout (hfault : (port.sensor hal).fault = some (.dropout n)) (hn : 0 < n) :
    (port.sensor (port.machine.run hal ops)).fault = some (.dropout n) :=
  Machine.run_invariant (I := fun hal => (port.sensor hal).fault = some (.dropout n))
    (fun _ op h => (step_dropout h hn op).1) hfault

/-- In a dropout a reading that is buffered stays, so that every read from then on finds it. -/
theorem dueReads_dropout (hfault : (port.sensor hal).fault = some (.dropout n)) (hn : 0 < n)
    (ops : List (PortOp T Raw)) :
    port.dueReads hal ops = readsAfterFeed (port.sensor hal).hasData ops := by
  induction ops generalizing hal with
  | nil => rfl
  | cons op ops ih =>
    obtain ⟨hnext, hdata⟩ := step_dropout hfault hn op
    have hrest := ih hnext
    rw [hdata] at hrest
    rw [SensorPort.dueReads, Machine.trace_cons, List.countP_cons]
    rw [SensorPort.dueReads] at hrest
    rw [hrest]
    cases op with
    | feed reading => rfl
    | read => exact Nat.add_comm _ _
    | elsewhere rest => rfl

/-- Without a dropout of at least one cycle nothing keeps a sensor from being read. -/
theorem run_clear (hfault : (port.sensor hal).fault = none ∨
    (port.sensor hal).fault = some (.dropout 0)) :
    (port.sensor (port.machine.run hal ops)).fault = none ∨
      (port.sensor (port.machine.run hal ops)).fault = some (.dropout 0) := by
  refine Machine.run_invariant (I := fun hal => (port.sensor hal).fault = none ∨
    (port.sensor hal).fault = some (.dropout 0)) (fun hal op h => ?_) hfault
  cases op with
  | feed reading =>
    have hfed : port.sensor (port.machine.step hal (.feed reading)).1 =
        (port.sensor hal).feed reading := port.sensor_withSensor _ _
    rw [hfed]
    exact h
  | read => exact (read_clear h).2.2
  | elsewhere rest =>
    have hkept : port.sensor (port.machine.step hal (.elsewhere rest)).1 = port.sensor hal :=
      port.sensor_withSensor _ _
    rw [hkept]
    exact h

/-- A run with more than `m` due reads has one with `m` of them before it. -/
theorem exists_due {m : Nat} (hm : m < port.dueReads hal ops) :
    ∃ before after, ops = before ++ PortOp.read :: after ∧ port.dueReads hal before = m ∧
      (port.sensor (port.machine.run hal before)).hasData = true := by
  induction ops generalizing hal m with
  | nil => exact absurd hm (Nat.not_lt_zero m)
  | cons op ops ih =>
    rw [SensorPort.dueReads, Machine.trace_cons, List.countP_cons] at hm
    have hcount : ∀ before, port.dueReads hal (op :: before) =
        port.dueReads (port.machine.step hal op).1 before +
          if port.isDue (port.machine.event hal op) = true then 1 else 0 := fun before => by
      rw [SensorPort.dueReads, Machine.trace_cons, List.countP_cons]
      rfl
    cases hdue : port.isDue (port.machine.event hal op) with
    | false =>
      rw [hdue, if_neg Bool.false_ne_true, Nat.add_zero] at hm
      obtain ⟨before, after, rfl, hbefore, hdata⟩ := ih hm
      refine ⟨op :: before, after, rfl, ?_, hdata⟩
      rw [hcount, hdue, hbefore]
      rfl
    | true =>
      cases m with
      | zero =>
        cases op with
        | feed reading => cases hdue
        | read => exact ⟨[], ops, rfl, rfl, hdue⟩
        | elsewhere rest => cases hdue
      | succ m =>
        rw [hdue, if_pos rfl] at hm
        obtain ⟨before, after, rfl, hbefore, hdata⟩ := ih (Nat.lt_of_succ_lt_succ hm)
        refine ⟨op :: before, after, rfl, ?_, hdata⟩
        rw [hcount, hdue, hbefore]
        rfl

/-- The reads of a stretch and a due read behind it. -/
theorem dueReads_lt {before : List (PortOp T Raw)} (after : List (PortOp T Raw))
    (hdata : (port.sensor (port.machine.run hal before)).hasData = true) :
    port.dueReads hal before < port.dueReads hal (before ++ PortOp.read :: after) := by
  have hdue : port.isDue (port.machine.event (port.machine.run hal before) .read) = true := hdata
  unfold SensorPort.dueReads
  rw [Machine.trace_append, List.countP_append, Machine.trace_cons, List.countP_cons, if_pos hdue]
  omega

theorem port_expires_iff : port.DropoutExpires hal n ops ↔
    n = 0 ∨ readsAfterFeed (port.sensor hal).hasData ops ≤ n.toNat := by
  have hfault : (port.sensor (port.inject hal n)).fault = some (.dropout n) := by
    rw [SensorPort.inject, port.sensor_withSensor]
    rfl
  have hdata : (port.sensor (port.inject hal n)).hasData = (port.sensor hal).hasData := by
    rw [SensorPort.inject, port.sensor_withSensor]
    rfl
  rcases Nat.eq_zero_or_pos n.toNat with hzero | hpos
  · have hn : n = 0 := UInt32.toNat_inj.mp hzero
    subst hn
    refine iff_of_true (fun before after _ raw hraw => ⟨fun hlt => absurd hlt (Nat.not_lt_zero _),
      fun _ => ?_⟩) (.inl rfl)
    rw [(read_clear (run_clear (.inr hfault))).1, hraw]
    rfl
  · have hn : 0 < n := hpos
    have hnone : ∀ before, (port.read (port.machine.run (port.inject hal n) before)).1 = none :=
      fun before => (read_dropout (run_dropout hfault hn) hn).1
    have hcount := dueReads_dropout hfault hn ops
    rw [hdata] at hcount
    rw [← hcount, or_iff_right (fun hzero => absurd hn (by rw [hzero]; exact nofun))]
    constructor
    · -- With one due read more, that read would have to deliver.
      intro hexpires
      by_contra hmore
      obtain ⟨before, after, hops, hbefore, hbuffered⟩ := exists_due (Nat.not_le.mp hmore)
      obtain ⟨raw, hraw⟩ := Option.isSome_iff_exists.mp hbuffered
      have hdelivers := (hexpires before after hops raw hraw).2 hbefore.ge
      rw [hnone] at hdelivers
      cases hdelivers
    · intro hfew before after hops raw hraw
      refine ⟨fun _ reading hread => ?_, fun hmany => ?_⟩
      · rw [hnone] at hread
        cases hread
      · have hdue : (port.sensor (port.machine.run (port.inject hal n) before)).hasData = true :=
          Option.isSome_iff_exists.mpr ⟨raw, hraw⟩
        have hlt := dueReads_lt after hdue
        rw [← hops] at hlt
        omega

end Steps

/-! ## The four sensors -/

/-- For every sensor, an injected dropout of `n` cycles expires over a run of feeds and reads if
and only if `n` is zero or no more than `n` reads come after a first reading was fed. -/
theorem dropout_expires_iff {T : Type} [HalTimeSource T] [LibmPow F32] (hal : FakeBoard T)
    (n : UInt32) :
    (∀ ops, imuPort.DropoutExpires hal n ops ↔
      n = 0 ∨ readsAfterFeed hal.imu.hasData ops ≤ n.toNat) ∧
    (∀ ops, baroPort.DropoutExpires hal n ops ↔
      n = 0 ∨ readsAfterFeed hal.baro.hasData ops ≤ n.toNat) ∧
    (∀ ops, magPort.DropoutExpires hal n ops ↔
      n = 0 ∨ readsAfterFeed hal.mag.hasData ops ≤ n.toNat) ∧
    ∀ ops, gnssPort.DropoutExpires hal n ops ↔
      n = 0 ∨ readsAfterFeed hal.gnss.hasData ops ≤ n.toNat :=
  ⟨fun _ => port_expires_iff, fun _ => port_expires_iff, fun _ => port_expires_iff,
    fun _ => port_expires_iff⟩

/-- A board that has not been fed, at time zero. -/
def freshBoard : FakeBoard SitlTime := ⟨.new, .new, .new, .new, ⟨0⟩, .new⟩

/-- After a dropout of one cycle the second magnetometer reading is due, and is not delivered. -/
theorem single_dropout_persists :
    ¬ magPort.DropoutExpires freshBoard 1
      [.feed ⟨nanVector⟩, .read, .feed ⟨nanVector⟩, .read] := by
  intro hexpires
  obtain ⟨-, hdelivers⟩ := hexpires [.feed ⟨nanVector⟩, .read, .feed ⟨nanVector⟩] [] rfl
    ⟨nanVector⟩ rfl
  exact nomatch hdelivers (by decide +kernel)

end Aviate
