import Aviate.Sitl.CommandLink

/-!
# Discrete commands on the simulator's link

Arming, disarming and termination share one slot. Whether each of them is returned.

Results:
1. What one datagram does to the slot (`processMavlinkData_command`); setpoints leave it alone.
2. Every discrete command accepted is returned once and in order, or still in the slot, if and
   only if no two are accepted without a `recv_command` between them (`discrete_returned_iff`).
-/

namespace Aviate.Sitl

open Mavlink

/-- The command is not a setpoint. -/
def isDiscrete : SystemCommand F32 → Bool
  | .flightControl _ => false
  | .arm | .disarm | .emergencyTerminate => true

/-- The discrete command a message asks for, if it is accepted. -/
def discreteCommand : MavMessage → Option (SystemCommand F32)
  | .commandLong cmd =>
    if cmd.command ≠ componentArmDisarm then none
    else if cmd.param1.isOne then some .arm
    else if cmd.param1.isZero then
      some (if cmd.param2.isForceMagic then .emergencyTerminate else .disarm)
    else none
  | _ => none

namespace SitlIo

variable {Addr : Type}

/-- The discrete command the link decodes from a datagram and accepts. -/
def acceptedFrom (datagram : Addr × Bytes) : Option (SystemCommand F32) :=
  match parseMavlinkFrame (datagram.2.take bufSize) with
  | .ok parsed => discreteCommand parsed.message
  | .error _ => none

/-- The discrete commands of datagrams, in order. -/
def accepted (arrived : List (Addr × Bytes)) : List (SystemCommand F32) :=
  arrived.filterMap acceptedFrom

def Op.arrived : Op Addr → List (Addr × Bytes)
  | .poll arrived => arrived
  | .recvCommand arrived => arrived

/-- The discrete commands accepted in a run, in order. -/
def acceptedIn (ops : List (Op Addr)) : List (SystemCommand F32) :=
  ops.flatMap fun op => accepted op.arrived

/-- The discrete commands returned in a run, in order. -/
def returnedIn
    (trace : List (Machine.Event (SitlIo Addr) (Op Addr) (Option (SystemCommand F32)))) :
    List (SystemCommand F32) :=
  trace.flatMap fun event => (event.out.filter isDiscrete).toList

/-- Between two calls of `recv_command` at most one discrete command is accepted; `waiting` of
them since the last call. -/
def Spaced : Nat → List (Op Addr) → Prop
  | waiting, [] => waiting ≤ 1
  | waiting, .poll arrived :: ops => Spaced (waiting + (accepted arrived).length) ops
  | waiting, .recvCommand arrived :: ops =>
    waiting + (accepted arrived).length ≤ 1 ∧ Spaced 0 ops

variable {io : SitlIo Addr}

/-! ## The slot -/

theorem sendCommandAck_slots (command : UInt16) (result : UInt8) (detail : Int32) :
    (io.sendCommandAck command result detail).command = io.command ∧
      (io.sendCommandAck command result detail).flightCmd = io.flightCmd := by
  unfold sendCommandAck
  split <;> exact ⟨rfl, rfl⟩

/-- A command message fills the slot or leaves it. -/
theorem handleCommandLong_slots (cmd : CommandLong) :
    (io.handleCommandLong cmd).command = (discreteCommand (.commandLong cmd)).or io.command ∧
      (io.handleCommandLong cmd).flightCmd = io.flightCmd := by
  unfold handleCommandLong discreteCommand
  by_cases hcommand : cmd.command ≠ componentArmDisarm
  · simp only [if_pos hcommand]
    exact sendCommandAck_slots _ _ _
  simp only [if_neg hcommand]
  by_cases harm : cmd.param1.isOne = true
  · simp only [if_pos harm]
    exact ⟨rfl, trivial⟩
  simp only [if_neg harm]
  by_cases hzero : cmd.param1.isZero = true
  · cases hforced : cmd.param2.isForceMagic <;> simp [hzero]
  · simp only [Bool.not_eq_true] at hzero
    simp only [hzero, Bool.false_and, Bool.false_eq_true, if_false]
    exact sendCommandAck_slots _ _ _

/-- The setpoint slot holds no discrete command. -/
def SetpointOnly (io : SitlIo Addr) : Prop :=
  ∀ received, io.flightCmd = some received → isDiscrete received.command = false

theorem isDiscrete_of_acceptedFrom {datagram : Addr × Bytes} {cmd : SystemCommand F32}
    (h : acceptedFrom datagram = some cmd) : isDiscrete cmd = true := by
  have hmessage (message : MavMessage) (hcmd : discreteCommand message = some cmd) :
      isDiscrete cmd = true := by
    unfold discreteCommand at hcmd
    split at hcmd
    · grind [isDiscrete]
    · cases hcmd
  unfold acceptedFrom at h
  split at h
  · exact hmessage _ h
  · cases h

theorem isDiscrete_of_accepted {arrived : List (Addr × Bytes)} :
    ∀ cmd ∈ accepted arrived, isDiscrete cmd = true := by
  intro cmd hcmd
  obtain ⟨datagram, -, haccepted⟩ := List.mem_filterMap.mp hcmd
  exact isDiscrete_of_acceptedFrom haccepted

variable [DecidableEq Addr] (sha256 : Bytes → Vector UInt8 32)

/-- A setpoint leaves the discrete slot alone. -/
theorem handleSetpoint_slots (h : io.SetpointOnly) (mapped : Mapped (Command F32)) (source : Addr)
    (header : MavHeader) (timeBootMs : UInt32) (family : MavlinkCommandFamily) (frame : Bytes) :
    (io.handleSetpoint sha256 mapped source header timeBootMs family frame).command = io.command ∧
      (io.handleSetpoint sha256 mapped source header timeBootMs family frame).SetpointOnly := by
  unfold handleSetpoint
  cases mapped with
  | error fault => exact ⟨rfl, h⟩
  | ok command =>
    refine ⟨rfl, fun received hreceived => ?_⟩
    cases hreceived
    rfl

theorem handleMessage_slots (h : io.SetpointOnly) (message : MavMessage) (source : Addr)
    (header : MavHeader) (frame : Bytes) :
    (io.handleMessage sha256 message source header frame).command =
        (discreteCommand message).or io.command ∧
      (io.handleMessage sha256 message source header frame).SetpointOnly := by
  let io' : SitlIo Addr := { io with gcsAddr := some source }
  have h' : io'.SetpointOnly := h
  cases message with
  | setAttitudeTarget target => exact handleSetpoint_slots sha256 h' _ _ _ _ _ _
  | setPositionTargetLocalNed target => exact handleSetpoint_slots sha256 h' _ _ _ _ _ _
  | commandLong cmd =>
    obtain ⟨hcommand, hflight⟩ : (io'.handleCommandLong cmd).command = _ ∧ _ :=
      handleCommandLong_slots cmd
    refine ⟨hcommand, fun received hreceived => h received ?_⟩
    exact hflight.symm.trans hreceived
  | _ => exact ⟨rfl, h⟩

/-- A datagram fills the slot or leaves it. -/
theorem processMavlinkData_slots (h : io.SetpointOnly) (datagram : Addr × Bytes) :
    (io.processMavlinkData sha256 (datagram.2.take bufSize) datagram.1).command =
        (acceptedFrom datagram).or io.command ∧
      (io.processMavlinkData sha256 (datagram.2.take bufSize) datagram.1).SetpointOnly := by
  let io' : SitlIo Addr := { io with rxCount := io.rxCount + 1 }
  have h' : io'.SetpointOnly := h
  unfold processMavlinkData acceptedFrom
  cases parseMavlinkFrame (datagram.2.take bufSize) with
  | error fault => exact ⟨rfl, h⟩
  | ok parsed => exact handleMessage_slots sha256 h' _ _ _ _

/-- The slot holds the last command accepted. -/
theorem poll_slots (h : io.SetpointOnly) {waiting : List (SystemCommand F32)}
    (hwaiting : io.command = waiting.getLast?) (arrived : List (Addr × Bytes)) :
    (io.poll sha256 arrived).command = (waiting ++ accepted arrived).getLast? ∧
      (io.poll sha256 arrived).SetpointOnly := by
  induction arrived generalizing io waiting with
  | nil =>
    have hnone : accepted ([] : List (Addr × Bytes)) = [] := rfl
    rw [hnone, List.append_nil]
    exact ⟨hwaiting, h⟩
  | cons datagram arrived ih =>
    obtain ⟨hcommand, honly⟩ := processMavlinkData_slots sha256 h datagram
    have hsplit : waiting ++ accepted (datagram :: arrived) =
        (waiting ++ (acceptedFrom datagram).toList) ++ accepted arrived := by
      rw [List.append_assoc]
      cases haccepted : acceptedFrom datagram <;> simp [accepted, haccepted]
    rw [hsplit]
    refine ih honly ?_
    rw [hcommand, hwaiting]
    cases acceptedFrom datagram with
    | none => simp
    | some cmd => simp

/-- A call of `recv_command` returns the discrete command in the slot, and empties it. -/
theorem recvCommand_slots (h : io.SetpointOnly) {waiting : List (SystemCommand F32)}
    (hwaiting : io.command = waiting.getLast?) (hdiscrete : ∀ cmd ∈ waiting, isDiscrete cmd = true)
    (arrived : List (Addr × Bytes)) :
    ((machine sha256).step io (.recvCommand arrived)).2.filter isDiscrete =
        (waiting ++ accepted arrived).getLast? ∧
      ((machine sha256).step io (.recvCommand arrived)).1.command = none ∧
      ((machine sha256).step io (.recvCommand arrived)).1.SetpointOnly := by
  obtain ⟨hcommand, honly⟩ := poll_slots sha256 h hwaiting arrived
  have hall : ∀ cmd ∈ waiting ++ accepted arrived, isDiscrete cmd = true := fun cmd hcmd =>
    (List.mem_append.mp hcmd).elim (hdiscrete cmd) (isDiscrete_of_accepted cmd)
  have hstep : (machine sha256).step io (.recvCommand arrived) =
      ((io.recvCommandWithProvenance sha256 arrived).2,
        (io.recvCommandWithProvenance sha256 arrived).1.map ReceivedCommand.command) := rfl
  rw [hstep, recvCommandWithProvenance]
  generalize io.poll sha256 arrived = io' at hcommand honly
  cases hslot : io'.command with
  | some cmd =>
    rw [hslot] at hcommand
    have hcmd : isDiscrete cmd = true := hall cmd (List.mem_of_getLast? hcommand.symm)
    rw [← hcommand]
    exact ⟨Option.filter_some_pos hcmd, rfl, honly⟩
  | none =>
    rw [hslot] at hcommand
    rw [← hcommand]
    refine ⟨?_, rfl, fun received hreceived => (Option.some_ne_none _ hreceived.symm).elim⟩
    cases hflight : io'.flightCmd with
    | none => rfl
    | some received => exact Option.filter_some_neg (by simp [honly received hflight])

/-! ## Runs -/

/-- What is waiting for the next `recv_command`: the discrete commands accepted since the last,
of which the slot holds the last one. -/
structure Waits (io : SitlIo Addr) (waiting : List (SystemCommand F32)) : Prop where
  slot : io.command = waiting.getLast?
  discrete : ∀ cmd ∈ waiting, isDiscrete cmd = true
  setpoints : io.SetpointOnly

theorem Waits.poll {waiting : List (SystemCommand F32)} (h : io.Waits waiting)
    (arrived : List (Addr × Bytes)) :
    (io.poll sha256 arrived).Waits (waiting ++ accepted arrived) := by
  obtain ⟨hslot, honly⟩ := poll_slots sha256 h.setpoints h.slot arrived
  exact ⟨hslot, fun cmd hcmd =>
    (List.mem_append.mp hcmd).elim (h.discrete cmd) (isDiscrete_of_accepted cmd), honly⟩

theorem Waits.recvCommand {waiting : List (SystemCommand F32)} (h : io.Waits waiting)
    (arrived : List (Addr × Bytes)) :
    ((machine sha256).step io (.recvCommand arrived)).2.filter isDiscrete =
        (waiting ++ accepted arrived).getLast? ∧
      ((machine sha256).step io (.recvCommand arrived)).1.Waits [] := by
  obtain ⟨hreturned, hslot, honly⟩ := recvCommand_slots sha256 h.setpoints h.slot h.discrete arrived
  exact ⟨hreturned, hslot, List.forall_mem_nil _, honly⟩

omit [DecidableEq Addr] in
theorem acceptedIn_cons (op : Op Addr) (ops : List (Op Addr)) :
    acceptedIn (op :: ops) = accepted op.arrived ++ acceptedIn ops := List.flatMap_cons

theorem returnedIn_poll (arrived : List (Addr × Bytes)) (ops : List (Op Addr)) :
    returnedIn ((machine sha256).trace io (.poll arrived :: ops)) =
      returnedIn ((machine sha256).trace (io.poll sha256 arrived) ops) := rfl

theorem returnedIn_recvCommand (arrived : List (Addr × Bytes)) (ops : List (Op Addr)) :
    returnedIn ((machine sha256).trace io (.recvCommand arrived :: ops)) =
      (((machine sha256).step io (.recvCommand arrived)).2.filter isDiscrete).toList ++
        returnedIn
          ((machine sha256).trace ((machine sha256).step io (.recvCommand arrived)).1 ops) :=
  rfl

/-- The last element alone. -/
theorem getLast?_sublist {α : Type} (l : List α) : l.getLast?.toList.Sublist l := by
  cases hlast : l.getLast? with
  | none => exact List.nil_sublist l
  | some a => exact List.singleton_sublist.mpr (List.mem_of_getLast? hlast)

theorem getLast?_eq_self_iff {α : Type} (l : List α) :
    l.getLast?.toList = l ↔ l.length ≤ 1 := by
  rcases List.eq_nil_or_concat l with rfl | ⟨front, a, rfl⟩
  · exact iff_of_true rfl (Nat.zero_le 1)
  · rw [List.concat_eq_append, List.getLast?_concat, List.length_append]
    cases front with
    | nil => exact iff_of_true rfl (Nat.le_refl 1)
    | cons b front => simp

/-- What has been returned and what is in the slot was accepted, in this order and each at most
once. -/
theorem returned_sublist (ops : List (Op Addr)) : ∀ {io : SitlIo Addr}
    {waiting : List (SystemCommand F32)}, io.Waits waiting →
      (returnedIn ((machine sha256).trace io ops) ++
        ((machine sha256).run io ops).command.toList).Sublist (waiting ++ acceptedIn ops) := by
  induction ops with
  | nil =>
    intro io waiting h
    have hnone : acceptedIn ([] : List (Op Addr)) = [] := rfl
    rw [hnone, List.append_nil]
    show io.command.toList.Sublist waiting
    rw [h.slot]
    exact getLast?_sublist waiting
  | cons op ops ih =>
    intro io waiting h
    rw [acceptedIn_cons, ← List.append_assoc]
    cases op with
    | poll arrived => exact ih (h.poll sha256 arrived)
    | recvCommand arrived =>
      obtain ⟨hreturned, hnext⟩ := h.recvCommand sha256 arrived
      rw [returnedIn_recvCommand, hreturned, List.append_assoc]
      exact (getLast?_sublist _).append (ih hnext)

/-- Every discrete command waiting or accepted is returned or in the slot, if and only if the
calls of `recv_command` keep up. -/
theorem returned_eq_iff (ops : List (Op Addr)) : ∀ {io : SitlIo Addr}
    {waiting : List (SystemCommand F32)}, io.Waits waiting →
      (returnedIn ((machine sha256).trace io ops) ++
          ((machine sha256).run io ops).command.toList = waiting ++ acceptedIn ops ↔
        Spaced waiting.length ops) := by
  induction ops with
  | nil =>
    intro io waiting h
    have hnone : acceptedIn ([] : List (Op Addr)) = [] := rfl
    rw [hnone, List.append_nil]
    show io.command.toList = waiting ↔ waiting.length ≤ 1
    rw [h.slot]
    exact getLast?_eq_self_iff waiting
  | cons op ops ih =>
    intro io waiting h
    rw [acceptedIn_cons, ← List.append_assoc]
    cases op with
    | poll arrived =>
      have hrest := ih (h.poll sha256 arrived)
      rw [List.length_append] at hrest
      exact hrest
    | recvCommand arrived =>
      obtain ⟨hreturned, hnext⟩ := h.recvCommand sha256 arrived
      have hrest := ih hnext
      have hsub := returned_sublist sha256 ops hnext
      have harrived : (Op.recvCommand arrived).arrived = arrived := rfl
      rw [returnedIn_recvCommand, hreturned, List.append_assoc, Machine.run_cons, harrived]
      rw [List.nil_append] at hrest hsub
      have hspaced : Spaced waiting.length (.recvCommand arrived :: ops) ↔
          (waiting ++ accepted arrived).length ≤ 1 ∧ Spaced 0 ops := by
        rw [List.length_append]
        exact Iff.rfl
      rw [hspaced, ← getLast?_eq_self_iff]
      constructor
      · -- What the slot lost cannot be made up for later.
        intro hall
        have hlast :
            (waiting ++ accepted arrived).getLast?.toList = waiting ++ accepted arrived := by
          have hlengths := congrArg List.length hall
          have hle := hsub.length_le
          have hfirst := (getLast?_sublist (waiting ++ accepted arrived)).length_le
          refine (getLast?_sublist _).eq_of_length_le ?_
          simp only [List.length_append] at hlengths hle ⊢
          omega
        rw [hlast, List.append_cancel_left_eq] at hall
        exact ⟨hlast, hrest.mp hall⟩
      · rintro ⟨hlast, hops⟩
        rw [hlast, hrest.mpr hops]

omit [DecidableEq Addr] in
theorem waits_new (epoch : UInt64) : (new epoch : SitlIo Addr).Waits [] :=
  ⟨rfl, List.forall_mem_nil _, fun _ h => (Option.some_ne_none _ h.symm).elim⟩

/-- In every run the discrete commands returned, and the one in the slot, are those accepted, each
once and in order, if and only if no two are accepted without a `recv_command` between them. -/
theorem discrete_returned_iff (epoch : UInt64) (ops : List (Op Addr)) :
    returnedIn ((machine sha256).trace (new epoch) ops) ++
        ((machine sha256).run (new epoch) ops).command.toList = acceptedIn ops ↔
      Spaced 0 ops :=
  returned_eq_iff sha256 ops (waits_new epoch)

/-- A forced disarm. -/
def terminateDatagram : Bytes :=
  [0xFD, 33, 0, 0, 8, 255, 190, 76, 0, 0] ++ [0, 0, 0, 0, 0, 0x98, 0xA5, 0x46] ++
    List.replicate 20 0 ++ [144, 1, 1, 1, 0] ++ [0x45, 0xAE]

def armDatagram : Bytes :=
  [0xFD, 33, 0, 0, 8, 255, 190, 76, 0, 0] ++ [0, 0, 0x80, 0x3F, 0, 0, 0, 0] ++
    List.replicate 20 0 ++ [144, 1, 1, 1, 0] ++ [0xF1, 0xAC]

/-- A termination followed by an arming before the next `recv_command` is lost. -/
theorem termination_overwritten :
    ¬ ∀ (sha256 : Bytes → Vector UInt8 32) (epoch : UInt64) (ops : List (Op Unit)),
      returnedIn ((machine sha256).trace (new epoch) ops) ++
        ((machine sha256).run (new epoch) ops).command.toList = acceptedIn ops := by
  intro hclaim
  have hlengths := congrArg List.length (hclaim (fun _ => Vector.replicate 32 0) 1
    [.recvCommand [((), terminateDatagram), ((), armDatagram)]])
  revert hlengths
  decide +kernel

end SitlIo

end Aviate.Sitl
