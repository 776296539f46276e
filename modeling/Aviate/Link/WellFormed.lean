import Aviate.Link.Framing

/-!
# Well-formed frames

Results:
1. No decoder rejects a payload of its message's declared length (`silent_parseMessagePayload`).
2. A frame with supported flags, the right checksum, a known identifier and a payload is
   accepted (`RawFrame.interpret_of_wellFormed`).
-/

namespace Checked

variable {ε α β : Type}

/-- No error is reported. -/
def Silent (x : Checked ε α) : Prop := ∀ e, x ≠ fail e

theorem silent_ok (a : α) : Silent (.ok a : Checked ε α) := nofun

theorem silent_pure (a : α) : Silent (pure a : Checked ε α) := nofun

theorem silent_bind {x : Checked ε α} {f : α → Checked ε β} (hx : Silent x)
    (hf : ∀ a, Silent (f a)) : Silent (x >>= f) := by
  cases x with
  | error fault =>
    intro e h
    exact hx e (congrArg Except.error (Except.error.inj h))
  | ok a => exact hf a

theorem silent_ite {c : Prop} [Decidable c] {x y : Checked ε α} (hx : Silent x) (hy : Silent y) :
    Silent (if c then x else y) := by
  split
  · exact hx
  · exact hy

/-- Without a fault and without an error there is a result. -/
theorem exists_ok {x : Checked ε α} (hsafe : Safe x) (hsilent : Silent x) : ∃ a, x = .ok a := by
  cases x with
  | ok a => exact ⟨a, rfl⟩
  | error fault =>
    cases fault with
    | outOfRange => exact absurd rfl hsafe
    | error e => exact absurd rfl (hsilent e)

end Checked

namespace ByteBuffer

open Checked

variable {ε : Type} {buf : Bytes} {offset start stop : Nat}

theorem silent_readU8 : Silent (readU8 buf offset : Checked ε UInt8) := by
  intro e
  unfold readU8
  split <;> nofun

theorem silent_readU16Le : Silent (readU16Le buf offset : Checked ε UInt16) := by
  refine silent_bind silent_readU8 fun _ => ?_
  exact silent_bind silent_readU8 fun _ => silent_ok _

theorem silent_readI16Le : Silent (readI16Le buf offset : Checked ε Int16) :=
  silent_bind silent_readU16Le fun _ => silent_ok _

theorem silent_readU32Le : Silent (readU32Le buf offset : Checked ε UInt32) := by
  iterate 3 refine silent_bind silent_readU8 fun _ => ?_
  exact silent_bind silent_readU8 fun _ => silent_ok _

theorem silent_readI32Le : Silent (readI32Le buf offset : Checked ε Int32) :=
  silent_bind silent_readU32Le fun _ => silent_ok _

theorem silent_readF32Le : Silent (readF32Le buf offset : Checked ε F32) :=
  silent_bind silent_readU32Le fun _ => silent_ok _

theorem silent_readU64Le : Silent (readU64Le buf offset : Checked ε UInt64) := by
  iterate 7 refine silent_bind silent_readU8 fun _ => ?_
  exact silent_bind silent_readU8 fun _ => silent_ok _

theorem silent_slice : Silent (slice buf start stop : Checked ε Bytes) := by
  intro e
  unfold slice
  split <;> nofun

end ByteBuffer

namespace Aviate.Mavlink

open ByteBuffer Checked

theorem silent_copyFromSlice {ε : Type} {n : Nat} {bytes : Bytes} :
    Silent (copyFromSlice n bytes : Checked ε (Vector UInt8 n)) := by
  intro e
  unfold copyFromSlice
  split <;> nofun

variable {payload : Bytes}

/-- A decoder that checks the length of its payload first. -/
theorem silent_guard {n : Nat} {x : Checked ParseError MavMessage} (h : n ≤ payload.length)
    (hx : Silent x) : Silent (if payload.length < n then Checked.fail .invalidPayload else x) := by
  rw [if_neg (Nat.not_lt.mpr h)]
  exact hx

/-- No decoder rejects a payload of its message's declared length: past the length check there
are only reads. -/
theorem silent_parseMessagePayload {msgid : UInt32} {declared : Nat}
    (hdeclared : declaredPayloadLen msgid = some declared) (hlength : declared ≤ payload.length) :
    Silent (parseMessagePayload msgid payload) := by
  unfold declaredPayloadLen at hdeclared
  split at hdeclared
  all_goals cases hdeclared
  all_goals
    simp only [parseMessagePayload, parseHeartbeat, parseSystemTime, parseAttitudeQuaternion,
      parseLocalPositionNed, parseGlobalPositionInt, parseGpsRawInt, parseScaledPressure,
      parseEstimatorStatus, parseAviateEstimatorStatus, parseAviateGeomagneticReference,
      parseSetAttitudeTarget, parseSetPositionTargetLocalNed, parseCommandLong, parseCommandAck,
      parseRcChannelsOverride, parseManualControl, parseSysStatus, parseStatustext]
    refine silent_guard (Nat.le_trans (by decide) hlength) ?_
    repeat' with_reducible first
      | exact silent_readU8
      | exact silent_readU16Le
      | exact silent_readI16Le
      | exact silent_readU32Le
      | exact silent_readI32Le
      | exact silent_readF32Le
      | exact silent_readU64Le
      | exact silent_slice
      | exact silent_copyFromSlice
      | exact silent_pure _
      | refine silent_ite ?_ ?_
      | refine silent_bind ?_ fun _ => ?_

theorem silent_parseSignature {systemId componentId : UInt8} {block : Bytes} :
    Silent (parseSignature systemId componentId block) := by
  unfold parseSignature
  iterate 7 refine silent_bind silent_readU8 fun _ => ?_
  refine silent_bind silent_slice fun _ => ?_
  refine silent_bind silent_copyFromSlice fun _ => ?_
  exact silent_pure _

theorem length_zeroExtend (declared : Nat) : (zeroExtend payload declared).length = declared := by
  rw [zeroExtend, List.length_append, List.length_take, List.length_replicate]
  omega

/-- The flags are supported, the checksum is right, the message is known and the payload keeps a
byte. -/
structure RawFrame.WellFormed (f : RawFrame) : Prop where
  flags : f.incompatFlags &&& ~~~mavlinkIflagSigned = 0
  crc : f.crc0.toUInt16 ||| f.crc1.toUInt16 <<< 8 = computeCrc f.covered (getCrcExtra f.msgid)
  known : ∃ declared, declaredPayloadLen f.msgid = some declared
  payload : f.payload ≠ []

/-- A well-formed frame is accepted. -/
theorem RawFrame.interpret_of_wellFormed {f : RawFrame} (h : f.WellFormed) :
    ∃ p, f.interpret = .ok p := by
  obtain ⟨declared, hdeclared⟩ := h.known
  refine exists_ok (safe_interpret f) ?_
  unfold RawFrame.interpret
  rw [if_neg (not_not.mpr h.flags), if_neg (not_not.mpr h.crc)]
  refine silent_bind (silent_ite ?_ (silent_pure _)) fun _ => silent_bind ?_ fun _ => silent_pure _
  · exact silent_bind silent_parseSignature fun _ => silent_pure _
  · rw [parsePayload_known hdeclared h.payload]
    exact silent_parseMessagePayload hdeclared (length_zeroExtend declared).ge

end Aviate.Mavlink
