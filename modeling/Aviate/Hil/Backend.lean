import Aviate.Hil.Transport

/-!
# The HIL backend on a TCP link

The link under what its stream does at each poll and each write, and the backend's reset request
(`mavlink-hil/src/backend.rs`). A pending reset holds samples back until a group of samples with
one timestamp arrives whose sensor sample is marked.

Results:
1. What a poll leaves in the link's queues was there before, or is a message the poll received
   (`held_poll`).
2. A pending reset ends with a complete marked group, whose samples come from the link
   (`poll_acknowledged`).
-/

namespace Aviate.Hil

/-! ## The link -/

/-- What a poll meets: whether a connection attempt succeeds, what the stream delivers, and
whether it ends or fails after that. -/
structure Arrival where
  connects : Bool
  chunks : List Bytes
  closes : Bool

/-- Nothing arrives. -/
def Arrival.quiet : Arrival := ⟨false, [], false⟩

/-- What becomes of a write on the stream. -/
inductive WriteOutcome where
  | written
  | short
  | wouldBlock
  | broken
deriving DecidableEq, Repr

/-- The kinds of `io::Error` of the backend. -/
inductive SendError where
  | alreadyExists
  | notConnected
  | writeZero
  | wouldBlock
  | broken
deriving DecidableEq, Repr

structure TcpLink where
  connected : Bool
  transport : HilTcpTransport

namespace HilTcpTransport

/-- Every queue emptied, and the reassembly buffer. -/
def cleared (t : HilTcpTransport) : HilTcpTransport :=
  { t with rx := [], sensors := [], gps := [], stateQuaternions := [] }

/-- The stream's chunks, with the messages handled. -/
def feed (t : HilTcpTransport) : List Bytes → List HilMessage × HilTcpTransport
  | [] => ([], t)
  | chunk :: chunks =>
    let (handled, t) := t.processData chunk
    let (rest, t) := t.feed chunks
    (handled.map MavFrame.message ++ rest, t)

/-- The message is in a queue. -/
def Held (t : HilTcpTransport) : HilMessage → Prop
  | .sensor sensor => sensor ∈ t.sensors
  | .gps gps => gps ∈ t.gps
  | .stateQuaternion state => state ∈ t.stateQuaternions
  | .heartbeat _ | .actuatorControls _ => False

variable {t : HilTcpTransport} {message : HilMessage}

theorem not_held_cleared : ¬ t.cleared.Held message := by
  cases message <;> simp [Held, cleared]

/-- What is held depends on the queues alone. -/
theorem held_of_queues {u : HilTcpTransport} (hsensors : u.sensors = t.sensors)
    (hgps : u.gps = t.gps) (hstates : u.stateQuaternions = t.stateQuaternions)
    (h : u.Held message) : t.Held message := by
  cases message <;> simp_all only [Held]

theorem mem_pushBounded {α : Type} {queue : List α} {value x : α}
    (h : x ∈ pushBounded queue value) : x ∈ queue ∨ x = value := by
  unfold pushBounded at h
  rw [List.mem_append, List.mem_singleton] at h
  split at h
  · exact h.imp_left List.mem_of_mem_tail
  · exact h

theorem held_handleFrame {frame : MavFrame} (h : (t.handleFrame frame).Held message) :
    t.Held message ∨ message = frame.message := by
  unfold handleFrame at h
  cases hframe : frame.message with
  | heartbeat m => rw [hframe] at h; exact .inl h
  | actuatorControls m => rw [hframe] at h; exact .inl h
  | sensor sensor =>
    rw [hframe] at h
    cases message with
    | sensor s => exact (mem_pushBounded h).imp_right (congrArg HilMessage.sensor)
    | _ => exact .inl h
  | gps gps =>
    rw [hframe] at h
    cases message with
    | gps g => exact (mem_pushBounded h).imp_right (congrArg HilMessage.gps)
    | _ => exact .inl h
  | stateQuaternion state =>
    rw [hframe] at h
    cases message with
    | stateQuaternion s => exact (mem_pushBounded h).imp_right (congrArg HilMessage.stateQuaternion)
    | _ => exact .inl h

/-- Parsing adds to the queues what it handles. -/
theorem held_parseLoop (fuel offset : Nat) (h : (t.parseLoop fuel offset).2.1.Held message) :
    t.Held message ∨ message ∈ (t.parseLoop fuel offset).1.map MavFrame.message := by
  induction fuel generalizing t offset with
  | zero => exact .inl h
  | succ fuel ih =>
    unfold parseLoop at h ⊢
    by_cases hoffset : offset < t.rx.length
    · simp only [if_pos hoffset] at h ⊢
      cases hparse : parseFrame (t.rx.drop offset) with
      | ok parsed =>
        rw [hparse] at h
        rcases ih _ h with hheld | hmem
        · have hframe : (t.handleFrame parsed.1).Held message :=
            held_of_queues rfl rfl rfl hheld
          rcases held_handleFrame hframe with hheld | hsame
          · exact .inl hheld
          · exact .inr (hsame ▸ List.mem_cons_self)
        · exact .inr (List.mem_cons_of_mem _ hmem)
      | error e =>
        rw [hparse] at h
        cases e with
        | outOfRange => exact .inl h
        | error e =>
          cases e with
          | incomplete => exact .inl h
          | crcMismatch => exact (ih _ h).imp_left (held_of_queues rfl rfl rfl)
          | _ => exact ih _ h
    · simp only [if_neg hoffset] at h ⊢
      exact .inl h

theorem held_processData {data : Bytes} (h : (t.processData data).2.Held message) :
    t.Held message ∨ message ∈ (t.processData data).1.map MavFrame.message := by
  unfold processData at h ⊢
  dsimp only at h ⊢
  exact (held_parseLoop _ 0 (held_of_queues rfl rfl rfl h)).imp_left (held_of_queues rfl rfl rfl)

theorem held_feed {chunks : List Bytes} (h : (t.feed chunks).2.Held message) :
    t.Held message ∨ message ∈ (t.feed chunks).1 := by
  induction chunks generalizing t with
  | nil => exact .inl h
  | cons chunk chunks ih =>
    simp only [feed] at h ⊢
    rcases ih h with hheld | hmem
    · exact (held_processData hheld).imp_right (List.mem_append_left _)
    · exact .inr (List.mem_append_right _ hmem)

end HilTcpTransport

namespace TcpLink

/-- `try_connect`, when the attempt succeeds: nothing of the last stream is left. -/
def connect (link : TcpLink) : TcpLink := { connected := true, transport := link.transport.cleared }

def disconnect (link : TcpLink) : TcpLink :=
  { connected := false, transport := { link.transport with rx := [] } }

/-- Read everything available, or redial, with the messages received. -/
def poll (link : TcpLink) (arrival : Arrival) : List HilMessage × TcpLink :=
  if !link.connected then ([], if arrival.connects then link.connect else link)
  else
    let (received, transport) := link.transport.feed arrival.chunks
    let link := { link with transport }
    (received, if arrival.closes then link.disconnect else link)

/-- The oldest sensor sample. -/
def takeSensor (link : TcpLink) : Option HilSensor × TcpLink :=
  (link.transport.sensors.head?,
    { link with transport := { link.transport with sensors := link.transport.sensors.tail } })

/-- The GNSS sample with the timestamp. -/
def takeGpsAt (link : TcpLink) (timestampUs : UInt64) : Option HilGps × TcpLink :=
  let sameTime := fun sample : HilGps => sample.timeUsec == timestampUs
  (link.transport.gps.find? sameTime,
    { link with transport := { link.transport with gps := link.transport.gps.eraseP sameTime } })

/-- The truth sample with the timestamp. -/
def takeStateQuaternionAt (link : TcpLink) (timestampUs : UInt64) :
    Option HilStateQuaternion × TcpLink :=
  let sameTime := fun sample : HilStateQuaternion => sample.timeUsec == timestampUs
  (link.transport.stateQuaternions.find? sameTime,
    { link with
      transport :=
        { link.transport with
          stateQuaternions := link.transport.stateQuaternions.eraseP sameTime } })

/-- Discard all input of the current generation. -/
def clearGenerationState (link : TcpLink) (arrival : Arrival) : List HilMessage × TcpLink :=
  let (received, link) := link.poll arrival
  (received, { link with transport := link.transport.cleared })

/-- A short write and a broken stream take the link down. -/
def sendActuatorControls (link : TcpLink) (outcome : WriteOutcome) :
    Except SendError Unit × TcpLink :=
  if !link.connected then (.error .notConnected, link)
  else
    match outcome with
    | .written => (.ok (), link)
    | .short => (.error .writeZero, link.disconnect)
    | .wouldBlock => (.error .wouldBlock, link)
    | .broken => (.error .broken, link.disconnect)

end TcpLink

/-! ## The backend -/

/-- `RESET_ACK_SENSOR_FLAG`. -/
def resetAckSensorFlag : UInt32 := 0x80000000

structure HilBackend where
  link : TcpLink
  lastSensorTimeUs : UInt64
  resetPending : Bool
  resetTruth : Option HilStateQuaternion

/-- The samples that make up one packet. -/
structure SampleGroup where
  sensor : HilSensor
  gps : Option HilGps

/-- The sensor sample carries the simulator's reset marker. -/
def HilSensor.resetMarked (sensor : HilSensor) : Bool :=
  sensor.fieldsUpdated &&& resetAckSensorFlag ≠ 0

namespace HilBackend

def sendResetRequest (self : HilBackend) (outcome : WriteOutcome) :
    Except SendError Unit × HilBackend :=
  let (result, link) := self.link.sendActuatorControls outcome
  (result, { self with link })

/-- Ask again and hold the sample back. -/
def askAgain (self : HilBackend) (outcome : WriteOutcome) : Option SampleGroup × HilBackend :=
  (none, (self.sendResetRequest outcome).2)

def pollResetAck (self : HilBackend) (sensor : Option HilSensor) (resend : WriteOutcome) :
    Option SampleGroup × HilBackend :=
  match sensor with
  | none => (none, self)
  | some sensor =>
    if !sensor.resetMarked then self.askAgain resend
    else
      let (gps, link) := self.link.takeGpsAt sensor.timeUsec
      let (truth, link) := link.takeStateQuaternionAt sensor.timeUsec
      let self := { self with link }
      if !(gps.isSome && truth.isSome) then self.askAgain resend
      else
        (some { sensor, gps },
          { self with
            resetPending := false, resetTruth := truth, lastSensorTimeUs := sensor.timeUsec })

/-- One group of samples, with the messages received. Without a pending reset it is the oldest
sensor sample and the GNSS sample of its time. -/
def poll (self : HilBackend) (arrival : Arrival) (resend : WriteOutcome) :
    List HilMessage × Option SampleGroup × HilBackend :=
  let (received, link) := self.link.poll arrival
  let (sensor, link) := link.takeSensor
  let self := { self with link }
  if self.resetPending then (received, self.pollResetAck sensor resend)
  else
    match sensor with
    | none => (received, none, self)
    | some sensor =>
      let (gps, link) := self.link.takeGpsAt sensor.timeUsec
      (received, some { sensor, gps }, { self with link, lastSensorTimeUs := sensor.timeUsec })

def clearGenerationState (self : HilBackend) (arrival : Arrival) :
    List HilMessage × HilBackend :=
  let (received, link) := self.link.clearGenerationState arrival
  (received, { self with link, lastSensorTimeUs := 0, resetTruth := none })

/-- The result, with the messages received and discarded. A request that is not sent is not
pending. -/
def requestReset (self : HilBackend) (arrival : Arrival) (outcome : WriteOutcome) :
    Except SendError Unit × List HilMessage × HilBackend :=
  if self.resetPending then (.error .alreadyExists, [], self)
  else
    let (received, self) := self.clearGenerationState arrival
    match { self with resetPending := true }.sendResetRequest outcome with
    | (.ok (), self) => (.ok (), received, self)
    | (.error e, self) => (.error e, received, { self with resetPending := false })

/-- Send one actuator command. -/
def sendActuators (self : HilBackend) (outcome : WriteOutcome) :
    Except SendError Unit × HilBackend :=
  let (result, link) := self.link.sendActuatorControls outcome
  (result, { self with link })

end HilBackend

namespace TcpLink

variable {link : TcpLink} {arrival : Arrival} {outcome : WriteOutcome} {message : HilMessage}
  {timestampUs : UInt64}

theorem held_poll (h : (link.poll arrival).2.transport.Held message) :
    link.transport.Held message ∨ message ∈ (link.poll arrival).1 := by
  unfold poll at h ⊢
  by_cases hconnected : link.connected = true
  · simp only [hconnected, Bool.not_true, Bool.false_eq_true, if_false] at h ⊢
    refine HilTcpTransport.held_feed ?_
    split at h
    · exact HilTcpTransport.held_of_queues rfl rfl rfl h
    · exact h
  · simp only [hconnected, Bool.not_false, if_true] at h ⊢
    split at h
    · exact absurd h HilTcpTransport.not_held_cleared
    · exact .inl h

theorem held_sendActuatorControls
    (h : (link.sendActuatorControls outcome).2.transport.Held message) :
    link.transport.Held message := by
  unfold sendActuatorControls at h
  split at h
  · exact h
  · cases outcome with
    | written => exact h
    | wouldBlock => exact h
    | short => exact HilTcpTransport.held_of_queues rfl rfl rfl h
    | broken => exact HilTcpTransport.held_of_queues rfl rfl rfl h

theorem held_takeSensor (h : (link.takeSensor).2.transport.Held message) :
    link.transport.Held message := by
  cases message with
  | sensor s => exact List.mem_of_mem_tail h
  | _ => exact h

theorem takeSensor_held {sensor : HilSensor} (h : link.takeSensor.1 = some sensor) :
    link.transport.Held (.sensor sensor) := List.mem_of_head? h

theorem held_takeGpsAt (h : (link.takeGpsAt timestampUs).2.transport.Held message) :
    link.transport.Held message := by
  cases message with
  | gps g => exact List.mem_of_mem_eraseP h
  | _ => exact h

theorem takeGpsAt_held {gps : HilGps} (h : (link.takeGpsAt timestampUs).1 = some gps) :
    link.transport.Held (.gps gps) ∧ gps.timeUsec = timestampUs :=
  ⟨List.mem_of_find?_eq_some h, by simpa using List.find?_some h⟩

theorem held_takeStateQuaternionAt
    (h : (link.takeStateQuaternionAt timestampUs).2.transport.Held message) :
    link.transport.Held message := by
  cases message with
  | stateQuaternion q => exact List.mem_of_mem_eraseP h
  | _ => exact h

theorem takeStateQuaternionAt_held {state : HilStateQuaternion}
    (h : (link.takeStateQuaternionAt timestampUs).1 = some state) :
    link.transport.Held (.stateQuaternion state) ∧ state.timeUsec = timestampUs :=
  ⟨List.mem_of_find?_eq_some h, by simpa using List.find?_some h⟩

end TcpLink

/-! ## What the backend hands out -/

namespace HilBackend

/-- The message is in a queue of the link. -/
abbrev Held (self : HilBackend) (message : HilMessage) : Prop := self.link.transport.Held message

/-- The request is written whole on a link that is up after what arrives. -/
def TakesRequest (self : HilBackend) (arrival : Arrival) (outcome : WriteOutcome) : Prop :=
  (self.link.poll arrival).2.connected = true ∧ outcome = .written

/-- A group with one timestamp whose sensor sample is marked. -/
structure CompleteReset (group : SampleGroup) (truth : Option HilStateQuaternion) : Prop where
  marked : group.sensor.resetMarked = true
  gps : ∃ gps, group.gps = some gps ∧ gps.timeUsec = group.sensor.timeUsec
  truth : ∃ state, truth = some state ∧ state.timeUsec = group.sensor.timeUsec

/-- The samples of a group that ends a reset are messages with `P`. -/
structure Consists (P : HilMessage → Prop) (group : SampleGroup)
    (truth : Option HilStateQuaternion) : Prop where
  sensor : P (.sensor group.sensor)
  gps : ∀ gps, group.gps = some gps → P (.gps gps)
  truth : ∀ state, truth = some state → P (.stateQuaternion state)

variable {self : HilBackend} {arrival : Arrival} {resend outcome : WriteOutcome}
  {message : HilMessage} {sensor : Option HilSensor}

theorem held_pollResetAck (h : (self.pollResetAck sensor resend).2.Held message) :
    self.Held message := by
  unfold pollResetAck at h
  cases sensor with
  | none => exact h
  | some sensor =>
    dsimp only at h
    split at h
    · exact TcpLink.held_sendActuatorControls h
    · split at h
      · exact TcpLink.held_takeGpsAt
          (TcpLink.held_takeStateQuaternionAt (TcpLink.held_sendActuatorControls h))
      · exact TcpLink.held_takeGpsAt (TcpLink.held_takeStateQuaternionAt h)

/-- What a poll leaves in the queues was there, or is received. -/
theorem held_poll (h : (self.poll arrival resend).2.2.Held message) :
    self.Held message ∨ message ∈ (self.poll arrival resend).1 := by
  have hreceived : (self.poll arrival resend).1 = (self.link.poll arrival).1 := by
    unfold poll
    dsimp only
    split
    · rfl
    · split <;> rfl
  rw [hreceived]
  refine TcpLink.held_poll (TcpLink.held_takeSensor ?_)
  unfold poll at h
  dsimp only at h
  split at h
  · exact held_pollResetAck h
  · split at h
    · exact h
    · exact TcpLink.held_takeGpsAt h

/-- Without a pending reset a poll starts none. -/
theorem resetPending_poll (h : self.resetPending = false) :
    (self.poll arrival resend).2.2.resetPending = false := by
  unfold poll
  simp only [h, Bool.false_eq_true, if_false]
  split <;> rfl

/-- A pending reset holds samples back until a complete marked group. -/
theorem pollResetAck_cases (h : self.resetPending = true) :
    ((self.pollResetAck sensor resend).1 = none ∧
      (self.pollResetAck sensor resend).2.resetPending = true) ∨
    ∃ group, (self.pollResetAck sensor resend).1 = some group ∧
      sensor = some group.sensor ∧
      (self.pollResetAck sensor resend).2.resetPending = false ∧
      CompleteReset group (self.pollResetAck sensor resend).2.resetTruth ∧
      (∀ gps, group.gps = some gps → self.Held (.gps gps)) ∧
      ∀ state, (self.pollResetAck sensor resend).2.resetTruth = some state →
        self.Held (.stateQuaternion state) := by
  have hagain : ∀ link, ({ self with link : HilBackend }.askAgain resend).1 = none ∧
      ({ self with link : HilBackend }.askAgain resend).2.resetPending = true :=
    fun _ => ⟨rfl, h⟩
  unfold pollResetAck
  cases sensor with
  | none => exact .inl ⟨rfl, h⟩
  | some sensor =>
    dsimp only
    by_cases hmarked : sensor.resetMarked = true
    · rw [if_neg (by simp [hmarked])]
      cases hgps : (self.link.takeGpsAt sensor.timeUsec).1 with
      | none =>
        simp only [Option.isSome_none, Bool.false_and, Bool.not_false, if_true]
        exact .inl (hagain _)
      | some gps =>
        obtain ⟨hheldGps, htimeGps⟩ := TcpLink.takeGpsAt_held hgps
        generalize hlink : (self.link.takeGpsAt sensor.timeUsec).2 = link
        cases htruth : (link.takeStateQuaternionAt sensor.timeUsec).1 with
        | none =>
          simp only [Option.isSome_none, Bool.and_false, Bool.not_false, if_true]
          exact .inl (hagain _)
        | some state =>
          obtain ⟨hheldState, htimeState⟩ := TcpLink.takeStateQuaternionAt_held htruth
          rw [← hlink] at hheldState
          simp only [Option.isSome_some, Bool.and_self, Bool.not_true, Bool.false_eq_true,
            if_false]
          refine .inr ⟨_, rfl, rfl, trivial,
            ⟨hmarked, ⟨gps, rfl, htimeGps⟩, ⟨state, rfl, htimeState⟩⟩, ?_, ?_⟩
          · intro other hother
            cases hother
            exact hheldGps
          · intro other hother
            cases hother
            exact TcpLink.held_takeGpsAt hheldState
    · rw [if_pos (by simpa using hmarked)]
      exact .inl (hagain _)

/-- A poll under a pending reset: the samples of the group that ends it come from the link. -/
theorem poll_pending (h : self.resetPending = true) :
    ((self.poll arrival resend).2.1 = none ∧
      (self.poll arrival resend).2.2.resetPending = true) ∨
    ∃ group, (self.poll arrival resend).2.1 = some group ∧
      (self.poll arrival resend).2.2.resetPending = false ∧
      CompleteReset group (self.poll arrival resend).2.2.resetTruth ∧
      Consists (fun message => self.Held message ∨ message ∈ (self.poll arrival resend).1) group
        (self.poll arrival resend).2.2.resetTruth := by
  have hpoll : self.poll arrival resend = ((self.link.poll arrival).1,
      { self with link := (self.link.poll arrival).2.takeSensor.2 : HilBackend }.pollResetAck
        (self.link.poll arrival).2.takeSensor.1 resend) := by
    unfold poll
    dsimp only
    rw [if_pos h]
  rw [hpoll]
  rcases @pollResetAck_cases
      { self with link := (self.link.poll arrival).2.takeSensor.2 } resend
      (self.link.poll arrival).2.takeSensor.1 h with
    hheld | ⟨group, hgroup, hsensor, hdone, hcomplete, hgps, htruth⟩
  · exact .inl hheld
  · refine .inr ⟨group, hgroup, hdone, hcomplete, ?_, ?_, ?_⟩
    · exact TcpLink.held_poll (TcpLink.takeSensor_held hsensor)
    · exact fun gps h => TcpLink.held_poll (TcpLink.held_takeSensor (hgps gps h))
    · exact fun state h => TcpLink.held_poll (TcpLink.held_takeSensor (htruth state h))

/-- What a request comes to. -/
theorem requestReset_cases (self : HilBackend) (arrival : Arrival) (outcome : WriteOutcome)
    (h : self.resetPending = false) :
    ((self.requestReset arrival outcome).1 = .ok () ∧ self.TakesRequest arrival outcome ∧
      (self.requestReset arrival outcome).2.2.resetPending = true ∧
      ∀ message, ¬ (self.requestReset arrival outcome).2.2.Held message) ∨
    (∃ e, (self.requestReset arrival outcome).1 = .error e) ∧
      ¬ self.TakesRequest arrival outcome ∧
      (self.requestReset arrival outcome).2.2.resetPending = false := by
  have hempty : ∀ message,
      ¬ (self.link.clearGenerationState arrival).2.transport.Held message :=
    fun _ => HilTcpTransport.not_held_cleared
  have hconnected : (self.link.clearGenerationState arrival).2.connected =
      (self.link.poll arrival).2.connected := rfl
  unfold requestReset TakesRequest
  rw [if_neg (by simp [h]), ← hconnected]
  simp only [clearGenerationState, sendResetRequest]
  generalize (self.link.clearGenerationState arrival).2 = link at hempty
  unfold TcpLink.sendActuatorControls
  by_cases hup : link.connected = true
  · rw [if_neg (by simp [hup])]
    cases outcome with
    | written => exact .inl ⟨rfl, ⟨hup, rfl⟩, rfl, hempty⟩
    | short => exact .inr ⟨⟨_, rfl⟩, fun htakes => (nomatch htakes.2), rfl⟩
    | wouldBlock => exact .inr ⟨⟨_, rfl⟩, fun htakes => (nomatch htakes.2), rfl⟩
    | broken => exact .inr ⟨⟨_, rfl⟩, fun htakes => (nomatch htakes.2), rfl⟩
  · rw [if_pos (by simpa using hup)]
    exact .inr ⟨⟨_, rfl⟩, fun htakes => hup htakes.1, rfl⟩

end HilBackend

end Aviate.Hil
