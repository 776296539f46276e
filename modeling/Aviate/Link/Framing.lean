import Aviate.Link.Parser

/-!
# Frames on the wire

`RawFrame` is a frame as it stands on the wire, with the lengths its header declares. A
buffer either is rejected for its header or starts with such a frame, and then the parser
reads that frame and nothing else.

Results:
1. No message decoder reads out of range, whatever the identifier and the length of the
   payload (`safe_parseMessagePayload`).
2. The parser's result on a buffer that starts with a frame depends on that frame alone
   (`parse_bytes`), and every buffer it does not reject for its header starts with one
   (`parse_cases`).
3. Parsing is safe on every buffer, and what it accepts is determined by the bytes it
   consumes (`parse_prefix_determined`).
-/

namespace Aviate.Mavlink

open ByteBuffer Checked

variable {payload : Bytes}

/-! ## The decoders stay in range -/

section Decoders

/-- A decoder that checks the length of its payload first. -/
theorem safe_guard {n : Nat} {x : Checked ParseError MavMessage}
    (hx : n ≤ payload.length → Safe x) :
    Safe (if payload.length < n then Checked.fail .invalidPayload else x) :=
  safe_ite (fun _ => safe_fail _) fun h => hx (Nat.le_of_not_lt h)

/-- A decoder that reads on if the payload is long enough. -/
theorem safe_extension {α : Type} {n : Nat} {x : Checked ParseError α} {a : α}
    (hx : n ≤ payload.length → Safe x) :
    Safe (if payload.length ≥ n then x else pure a) :=
  safe_ite hx fun _ => safe_ok a

theorem safe_parseHeartbeat : Safe (parseHeartbeat payload) := by
  refine safe_guard (n := 9) fun h => ?_
  refine safe_bind (safe_readU32Le (by omega)) fun _ _ => ?_
  iterate 5 refine safe_bind (safe_readU8 (by omega)) fun _ _ => ?_
  exact safe_ok _

theorem safe_parseSystemTime : Safe (parseSystemTime payload) := by
  refine safe_guard (n := 12) fun h => ?_
  refine safe_bind (safe_readU64Le (by omega)) fun _ _ => ?_
  refine safe_bind (safe_readU32Le (by omega)) fun _ _ => ?_
  exact safe_ok _

theorem safe_parseAttitudeQuaternion : Safe (parseAttitudeQuaternion payload) := by
  refine safe_guard (n := 32) fun h => ?_
  refine safe_bind (safe_extension fun hext => ?_) fun _ _ => ?_
  · iterate 4 refine safe_bind (safe_readF32Le (by omega)) fun _ _ => ?_
    exact safe_ok _
  · refine safe_bind (safe_readU32Le (by omega)) fun _ _ => ?_
    iterate 7 refine safe_bind (safe_readF32Le (by omega)) fun _ _ => ?_
    exact safe_ok _

theorem safe_parseLocalPositionNed : Safe (parseLocalPositionNed payload) := by
  refine safe_guard (n := 28) fun h => ?_
  refine safe_bind (safe_readU32Le (by omega)) fun _ _ => ?_
  iterate 6 refine safe_bind (safe_readF32Le (by omega)) fun _ _ => ?_
  exact safe_ok _

theorem safe_parseGlobalPositionInt : Safe (parseGlobalPositionInt payload) := by
  refine safe_guard (n := 28) fun h => ?_
  refine safe_bind (safe_readU32Le (by omega)) fun _ _ => ?_
  iterate 4 refine safe_bind (safe_readI32Le (by omega)) fun _ _ => ?_
  iterate 3 refine safe_bind (safe_readI16Le (by omega)) fun _ _ => ?_
  refine safe_bind (safe_readU16Le (by omega)) fun _ _ => ?_
  exact safe_ok _

theorem safe_parseGpsRawInt : Safe (parseGpsRawInt payload) := by
  refine safe_guard (n := 52) fun h => ?_
  refine safe_bind (safe_readU64Le (by omega)) fun _ _ => ?_
  iterate 3 refine safe_bind (safe_readI32Le (by omega)) fun _ _ => ?_
  iterate 4 refine safe_bind (safe_readU16Le (by omega)) fun _ _ => ?_
  iterate 2 refine safe_bind (safe_readU8 (by omega)) fun _ _ => ?_
  refine safe_bind (safe_readI32Le (by omega)) fun _ _ => ?_
  iterate 4 refine safe_bind (safe_readU32Le (by omega)) fun _ _ => ?_
  refine safe_bind (safe_readU16Le (by omega)) fun _ _ => ?_
  exact safe_ok _

theorem safe_parseScaledPressure : Safe (parseScaledPressure payload) := by
  refine safe_guard (n := 14) fun h => ?_
  refine safe_bind (safe_readU32Le (by omega)) fun _ _ => ?_
  iterate 2 refine safe_bind (safe_readF32Le (by omega)) fun _ _ => ?_
  refine safe_bind (safe_readU16Le (by omega)) fun _ _ => ?_
  exact safe_ok _

theorem safe_parseEstimatorStatus : Safe (parseEstimatorStatus payload) := by
  refine safe_guard (n := 42) fun h => ?_
  refine safe_bind (safe_readU64Le (by omega)) fun _ _ => ?_
  iterate 8 refine safe_bind (safe_readF32Le (by omega)) fun _ _ => ?_
  refine safe_bind (safe_readU16Le (by omega)) fun _ _ => ?_
  exact safe_ok _

theorem safe_parseAviateEstimatorStatus : Safe (parseAviateEstimatorStatus payload) := by
  refine safe_guard (n := 10) fun h => ?_
  refine safe_bind (safe_readU64Le (by omega)) fun _ _ => ?_
  iterate 2 refine safe_bind (safe_readU8 (by omega)) fun _ _ => ?_
  exact safe_ok _

theorem safe_parseAviateGeomagneticReference :
    Safe (parseAviateGeomagneticReference payload) := by
  refine safe_guard (n := 13) fun h => ?_
  refine safe_bind (safe_readU64Le (by omega)) fun _ _ => ?_
  refine safe_bind (safe_readF32Le (by omega)) fun _ _ => ?_
  refine safe_bind (safe_readU8 (by omega)) fun _ _ => ?_
  exact safe_ok _

theorem safe_parseSetAttitudeTarget : Safe (parseSetAttitudeTarget payload) := by
  refine safe_guard (n := 39) fun h => ?_
  refine safe_bind (safe_extension fun hext => ?_) fun _ _ => ?_
  · iterate 3 refine safe_bind (safe_readF32Le (by omega)) fun _ _ => ?_
    exact safe_ok _
  · refine safe_bind (safe_readU32Le (by omega)) fun _ _ => ?_
    iterate 8 refine safe_bind (safe_readF32Le (by omega)) fun _ _ => ?_
    iterate 3 refine safe_bind (safe_readU8 (by omega)) fun _ _ => ?_
    exact safe_ok _

theorem safe_parseSetPositionTargetLocalNed : Safe (parseSetPositionTargetLocalNed payload) := by
  refine safe_guard (n := 51) fun h => ?_
  refine safe_bind (safe_readU32Le (by omega)) fun _ _ => ?_
  iterate 11 refine safe_bind (safe_readF32Le (by omega)) fun _ _ => ?_
  refine safe_bind (safe_readU16Le (by omega)) fun _ _ => ?_
  refine safe_bind (safe_readU8 (by omega)) fun _ _ => ?_
  refine safe_bind (safe_extension fun hext => safe_readU8 hext) fun _ _ => ?_
  refine safe_bind (safe_extension fun hext => safe_readU8 hext) fun _ _ => ?_
  exact safe_ok _

theorem safe_parseCommandLong : Safe (parseCommandLong payload) := by
  refine safe_guard (n := 32) fun h => ?_
  iterate 7 refine safe_bind (safe_readF32Le (by omega)) fun _ _ => ?_
  refine safe_bind (safe_readU16Le (by omega)) fun _ _ => ?_
  iterate 2 refine safe_bind (safe_readU8 (by omega)) fun _ _ => ?_
  refine safe_bind (safe_extension fun hext => safe_readU8 hext) fun _ _ => ?_
  exact safe_ok _

theorem safe_parseCommandAck : Safe (parseCommandAck payload) := by
  refine safe_guard (n := 3) fun h => ?_
  refine safe_bind (safe_extension fun hext => safe_readU8 hext) fun _ _ => ?_
  refine safe_bind (safe_extension fun hext => safe_readI32Le hext) fun _ _ => ?_
  refine safe_bind (safe_extension fun hext => safe_readU8 hext) fun _ _ => ?_
  refine safe_bind (safe_extension fun hext => safe_readU8 hext) fun _ _ => ?_
  refine safe_bind (safe_readU16Le (by omega)) fun _ _ => ?_
  refine safe_bind (safe_readU8 (by omega)) fun _ _ => ?_
  exact safe_ok _

theorem safe_parseRcChannelsOverride : Safe (parseRcChannelsOverride payload) := by
  refine safe_guard (n := 18) fun h => ?_
  iterate 8 refine safe_bind (safe_readU16Le (by omega)) fun _ _ => ?_
  iterate 2 refine safe_bind (safe_readU8 (by omega)) fun _ _ => ?_
  refine safe_bind (safe_extension fun hext => ?_) fun _ _ => safe_ok _
  iterate 10 refine safe_bind (safe_readU16Le (by omega)) fun _ _ => ?_
  exact safe_ok _

theorem safe_parseManualControl : Safe (parseManualControl payload) := by
  refine safe_guard (n := 11) fun h => ?_
  iterate 4 refine safe_bind (safe_readI16Le (by omega)) fun _ _ => ?_
  refine safe_bind (safe_readU16Le (by omega)) fun _ _ => ?_
  refine safe_bind (safe_readU8 (by omega)) fun _ _ => ?_
  refine safe_bind (safe_extension fun hext => ?_) fun _ _ => ?_
  · exact safe_bind (safe_readU16Le (by omega)) fun _ _ => safe_ok _
  refine safe_bind (safe_extension fun hext => ?_) fun _ _ => ?_
  · exact safe_bind (safe_readU8 (by omega)) fun _ _ => safe_ok _
  iterate 8
    refine safe_bind (safe_extension fun hext =>
      safe_bind (safe_readI16Le (by omega)) fun _ _ => safe_ok _) fun _ _ => ?_
  exact safe_ok _

theorem safe_parseSysStatus : Safe (parseSysStatus payload) := by
  refine safe_guard (n := 31) fun h => ?_
  iterate 3 refine safe_bind (safe_readU32Le (by omega)) fun _ _ => ?_
  iterate 2 refine safe_bind (safe_readU16Le (by omega)) fun _ _ => ?_
  refine safe_bind (safe_readI16Le (by omega)) fun _ _ => ?_
  iterate 6 refine safe_bind (safe_readU16Le (by omega)) fun _ _ => ?_
  refine safe_bind (safe_readU8 (by omega)) fun _ _ => ?_
  refine safe_bind (safe_extension fun hext => ?_) fun _ _ => safe_ok _
  iterate 3 refine safe_bind (safe_readU32Le (by omega)) fun _ _ => ?_
  exact safe_ok _

/-- A slice of the array's length is copied into it. -/
theorem safe_copySlice {start stop n : Nat} (hstart : start + n = stop)
    (hstop : stop ≤ payload.length) :
    Safe (slice payload start stop >>= copyFromSlice n : Checked ParseError (Vector UInt8 n)) := by
  rw [slice_of_le (by omega) hstop]
  show Safe (copyFromSlice n ((payload.take stop).drop start))
  have hlength : ((payload.take stop).drop start).length = n := by
    rw [List.length_drop, List.length_take]
    omega
  rw [copyFromSlice, dif_pos hlength]
  exact safe_ok _

theorem safe_parseStatustext : Safe (parseStatustext payload) := by
  refine safe_guard (n := 51) fun h => ?_
  rw [← bind_assoc]
  refine safe_bind (safe_copySlice rfl h) fun _ _ => ?_
  refine safe_bind (safe_readU8 (by omega)) fun _ _ => ?_
  refine safe_bind (safe_extension fun hext => ?_) fun _ _ => safe_ok _
  refine safe_bind (safe_readU16Le (by omega)) fun _ _ => ?_
  refine safe_bind (safe_readU8 (by omega)) fun _ _ => ?_
  exact safe_ok _

/-- No decoder reads out of range, whatever the identifier and the payload. -/
theorem safe_parseMessagePayload (msgId : UInt32) : Safe (parseMessagePayload msgId payload) := by
  unfold parseMessagePayload
  split
  · exact safe_parseHeartbeat
  · exact safe_parseSystemTime
  · exact safe_parseAttitudeQuaternion
  · exact safe_parseLocalPositionNed
  · exact safe_parseGlobalPositionInt
  · exact safe_parseGpsRawInt
  · exact safe_parseScaledPressure
  · exact safe_parseEstimatorStatus
  · exact safe_parseAviateEstimatorStatus
  · exact safe_parseAviateGeomagneticReference
  · exact safe_parseSetAttitudeTarget
  · exact safe_parseSetPositionTargetLocalNed
  · exact safe_parseCommandLong
  · exact safe_parseCommandAck
  · exact safe_parseRcChannelsOverride
  · exact safe_parseManualControl
  · exact safe_parseSysStatus
  · exact safe_parseStatustext
  · exact safe_ok _

end Decoders

/-! ## Payloads and signatures -/

/-- A payload cut or extended with zeros to its declared length. -/
def zeroExtend (payload : Bytes) (declared : Nat) : Bytes :=
  payload.take declared ++ List.replicate (declared - payload.length) 0

theorem parsePayload_known {msgid : UInt32} {declared : Nat}
    (hdeclared : declaredPayloadLen msgid = some declared) (hpayload : payload ≠ []) :
    parsePayload msgid payload = parseMessagePayload msgid (zeroExtend payload declared) := by
  have hdeclared_le := declaredPayloadLen_le hdeclared
  have hcopy : (slice payload 0 (min payload.length declared) : Checked ParseError Bytes) =
      .ok (payload.take declared) := by
    rw [slice_of_le (Nat.zero_le _) (Nat.min_le_left _ _), List.drop_zero]
    congr 1
    rw [Nat.min_comm, ← List.take_take, List.take_length]
  have hlength : (payload.take declared).length ≤ declared := List.length_take_le _ _
  have hfull : (writeBytes (List.replicate maxPayloadLen 0) 0 (payload.take declared) :
      Checked ParseError Bytes) = .ok (payload.take declared ++
        List.replicate (maxPayloadLen - (payload.take declared).length) 0) := by
    rw [writeBytes_of_le (by rw [List.length_replicate]; omega), List.take_zero, List.nil_append,
      Nat.zero_add, List.drop_replicate]
  have hwhole : (slice (payload.take declared ++
      List.replicate (maxPayloadLen - (payload.take declared).length) 0) 0 declared :
        Checked ParseError Bytes) = .ok (zeroExtend payload declared) := by
    rw [slice_of_le (Nat.zero_le _) (by rw [List.length_append, List.length_replicate]; omega),
      List.drop_zero, List.take_append, List.take_of_length_le hlength, List.take_replicate,
      zeroExtend]
    congr 3
    rw [List.length_take]
    omega
  have hnonempty : payload.isEmpty = false := by simpa using hpayload
  unfold parsePayload
  rw [hdeclared]
  simp only [hnonempty, Bool.false_eq_true, if_false, hcopy]
  show (writeBytes _ 0 (payload.take declared) >>= _) = _
  rw [hfull]
  show (slice _ 0 declared >>= _) = _
  rw [hwhole]
  rfl

theorem safe_parsePayload (msgid : UInt32) : Safe (parsePayload msgid payload) := by
  cases hdeclared : declaredPayloadLen msgid with
  | some declared =>
    rcases List.eq_nil_or_concat payload with rfl | hpayload
    · unfold parsePayload
      rw [hdeclared]
      exact safe_fail _
    · rw [parsePayload_known hdeclared (by rintro rfl; simp at hpayload)]
      exact safe_parseMessagePayload msgid
  | none =>
    unfold parsePayload
    rw [hdeclared]
    exact safe_parseMessagePayload msgid

theorem safe_parseSignature {systemId componentId : UInt8} {block : Bytes}
    (h : block.length = mavlinkSignatureLen) :
    Safe (parseSignature systemId componentId block) := by
  have hlength : 13 ≤ block.length := h.ge
  unfold parseSignature
  iterate 7 refine safe_bind (safe_readU8 (by omega)) fun _ _ => ?_
  simp only
  rw [← bind_assoc]
  refine safe_bind (safe_copySlice rfl hlength) fun _ _ => ?_
  exact safe_ok _

/-! ## Frames -/

/-- A frame as it stands on the wire: the payload and the signature block are as long as
the header declares. -/
structure RawFrame where
  incompatFlags : UInt8
  compatFlags : UInt8
  seq : UInt8
  sysid : UInt8
  compid : UInt8
  id0 : UInt8
  id1 : UInt8
  id2 : UInt8
  payload : Bytes
  crc0 : UInt8
  crc1 : UInt8
  signature : Bytes
  payload_le : payload.length ≤ maxPayloadLen
  signature_length : signature.length = if isSigned incompatFlags then mavlinkSignatureLen else 0

namespace RawFrame

/-- A frame without a signature block. -/
theorem unsigned_length : ([] : Bytes).length = if isSigned 0 then mavlinkSignatureLen else 0 := by
  decide

variable (f : RawFrame)

/-- The header after the start byte, and the payload: what the checksum covers. -/
def covered : Bytes :=
  [.ofNat f.payload.length, f.incompatFlags, f.compatFlags, f.seq, f.sysid, f.compid, f.id0, f.id1,
    f.id2] ++ f.payload

def bytes : Bytes := mavlinkStxV2 :: f.covered ++ (f.crc0 :: f.crc1 :: f.signature)

def msgid : UInt32 := f.id0.toUInt32 ||| f.id1.toUInt32 <<< 8 ||| f.id2.toUInt32 <<< 16

def header : MavHeader where
  payloadLen := .ofNat f.payload.length
  incompatFlags := f.incompatFlags
  compatFlags := f.compatFlags
  seq := f.seq
  sysid := f.sysid
  compid := f.compid
  msgid := f.msgid

/-- What the parser makes of a complete frame. -/
def interpret : Checked ParseError ParsedMavlinkFrame :=
  if f.incompatFlags &&& ~~~mavlinkIflagSigned ≠ 0 then
    Checked.fail (.unsupportedIncompatFlags f.incompatFlags)
  else if f.crc0.toUInt16 ||| f.crc1.toUInt16 <<< 8 ≠
      computeCrc f.covered (getCrcExtra f.msgid) then Checked.fail .crcMismatch
  else do
    let signature ← (if isSigned f.incompatFlags then do
        pure (some (← parseSignature f.sysid f.compid f.signature))
      else pure none)
    return {
      message := ← parsePayload f.msgid f.payload
      signature := signature
      header := f.header
      consumed := f.bytes.length }

theorem length_bytes :
    f.bytes.length = MavHeader.size + f.payload.length + 2 + f.signature.length := by
  simp only [bytes, covered, MavHeader.size, List.length_append, List.length_cons, List.length_nil]
  omega

theorem toNat_length : (UInt8.ofNat f.payload.length).toNat = f.payload.length := by
  have hle := f.payload_le
  rw [UInt8.toNat_ofNat', Nat.mod_eq_of_lt]
  simp only [maxPayloadLen] at hle
  omega

variable (rest : Bytes)

theorem length_front : (mavlinkStxV2 :: f.covered).length = MavHeader.size + f.payload.length := by
  simp only [covered, MavHeader.size, List.length_append, List.length_cons, List.length_nil]
  omega

theorem bytes_append :
    f.bytes ++ rest = (mavlinkStxV2 :: f.covered) ++ (f.crc0 :: f.crc1 :: (f.signature ++ rest)) :=
  List.append_assoc _ _ _

theorem slice_front {start : Nat} (hstart : start ≤ MavHeader.size) :
    (slice (f.bytes ++ rest) start (MavHeader.size + f.payload.length) : Checked ParseError Bytes) =
      .ok ((mavlinkStxV2 :: f.covered).drop start) := by
  have hlength := f.length_bytes
  rw [slice_of_le (by omega) (by rw [List.length_append]; omega), bytes_append,
    List.take_left' f.length_front]

theorem read_crc :
    (readU16Le (f.bytes ++ rest) (MavHeader.size + f.payload.length) : Checked ParseError UInt16) =
      .ok (f.crc0.toUInt16 ||| f.crc1.toUInt16 <<< 8) := by
  rw [bytes_append, readU16Le_skip f.length_front (le_refl _), Nat.sub_self]
  rfl

theorem slice_signature (hsigned : isSigned f.incompatFlags = true) :
    (slice (f.bytes ++ rest) (MavHeader.size + f.payload.length + 2)
      (MavHeader.size + f.payload.length + 2 + mavlinkSignatureLen) : Checked ParseError Bytes) =
      .ok f.signature := by
  have hlength := f.length_bytes
  have hblock := f.signature_length
  rw [if_pos hsigned] at hblock
  rw [slice_of_le (Nat.le_add_right _ _) (by rw [List.length_append]; omega), List.drop_take,
    Nat.add_sub_cancel_left, ← List.drop_drop, bytes_append, List.drop_left' f.length_front]
  show Except.ok ((f.signature ++ rest).take mavlinkSignatureLen) = _
  rw [List.take_left' hblock]

/-- The parser reads the frame a buffer starts with and nothing else. -/
theorem parse_bytes : parseMavlinkFrame (f.bytes ++ rest) = f.interpret := by
  have hlength := f.length_bytes
  have hlong : ¬ (f.bytes ++ rest).length < 12 := by
    rw [List.length_append, hlength]
    simp only [MavHeader.size]
    omega
  have hfits : ¬ maxPayloadLen < f.payload.length := Nat.not_lt.mpr f.payload_le
  unfold parseMavlinkFrame
  rw [if_neg hlong]
  show (if (UInt8.ofNat f.payload.length).toNat > maxPayloadLen then _ else _) = _
  rw [toNat_length, if_neg hfits]
  show (if f.incompatFlags &&& ~~~mavlinkIflagSigned ≠ 0 then _ else _) = _
  unfold interpret
  split
  next => rfl
  next =>
    have hconsumed : f.bytes.length =
        if isSigned f.incompatFlags then
          MavHeader.size + f.payload.length + 2 + mavlinkSignatureLen
        else MavHeader.size + f.payload.length + 2 := by
      rw [hlength, f.signature_length]
      split <;> rfl
    have hsignature : (if isSigned f.incompatFlags then do
          let block ← slice (f.bytes ++ rest) (MavHeader.size + f.payload.length + 2)
            (MavHeader.size + f.payload.length + 2 + mavlinkSignatureLen)
          pure (some (← parseSignature f.sysid f.compid block))
        else pure none : Checked ParseError (Option MavSignature)) =
          if isSigned f.incompatFlags then do
            pure (some (← parseSignature f.sysid f.compid f.signature))
          else pure none := by
      split
      next hsigned =>
        rw [f.slice_signature rest hsigned]
        rfl
      next => rfl
    have hframe : ¬ (f.bytes ++ rest).length < f.bytes.length := by
      rw [List.length_append]
      omega
    rw [hconsumed] at hframe
    show (if (f.bytes ++ rest).length < _ then _ else
      slice (f.bytes ++ rest) MavHeader.size (MavHeader.size + f.payload.length) >>= _) = _
    rw [if_neg hframe, f.slice_front rest (le_refl _)]
    show (readU16Le (f.bytes ++ rest) (MavHeader.size + f.payload.length) >>= _) = _
    rw [f.read_crc rest]
    show (slice (f.bytes ++ rest) 1 (MavHeader.size + f.payload.length) >>= _) = _
    rw [f.slice_front rest (by decide), hconsumed]
    show (if f.crc0.toUInt16 ||| f.crc1.toUInt16 <<< 8 ≠
      computeCrc f.covered (getCrcExtra f.msgid) then _ else _) = _
    split
    next => rfl
    next => exact congrArg (· >>= _) hsignature

end RawFrame

/-! ## Parsing a buffer -/

/-- A list of at least ten bytes has ten bytes. -/
theorem exists_ten {buf : Bytes} (h : 10 ≤ buf.length) :
    ∃ b0 b1 b2 b3 b4 b5 b6 b7 b8 b9 tail,
      buf = b0 :: b1 :: b2 :: b3 :: b4 :: b5 :: b6 :: b7 :: b8 :: b9 :: tail := by
  rcases buf with _ | ⟨b0, _ | ⟨b1, _ | ⟨b2, _ | ⟨b3, _ | ⟨b4, _ | ⟨b5, _ | ⟨b6, _ | ⟨b7,
    _ | ⟨b8, _ | ⟨b9, tail⟩⟩⟩⟩⟩⟩⟩⟩⟩⟩
  case cons.cons.cons.cons.cons.cons.cons.cons.cons.cons =>
    exact ⟨b0, b1, b2, b3, b4, b5, b6, b7, b8, b9, tail, rfl⟩
  all_goals
    simp only [List.length_cons, List.length_nil] at h
    omega

/-- A buffer is rejected for its header, or starts with a frame. -/
theorem parse_cases (buf : Bytes) :
    (∃ e, parseMavlinkFrame buf = Checked.fail e) ∨
      ∃ (f : RawFrame) (rest : Bytes), buf = f.bytes ++ rest := by
  by_cases hshort : buf.length < 12
  · exact .inl ⟨.bufferTooShort, if_pos hshort⟩
  have hten : 10 ≤ buf.length := by omega
  obtain ⟨stx, len, incompat, compat, seq, sysid, compid, id0, id1, id2, tail, rfl⟩ :=
    exists_ten hten
  by_cases hstx : stx ≠ mavlinkStxV2
  · refine .inl ⟨.invalidStartByte, ?_⟩
    rw [parseMavlinkFrame, if_neg hshort]
    exact if_pos hstx
  rw [not_not] at hstx
  subst hstx
  have hlen : len.toNat ≤ maxPayloadLen := Nat.le_of_lt_succ len.toNat_lt
  by_cases hfit : tail.length <
      len.toNat + 2 + (if isSigned incompat then mavlinkSignatureLen else 0)
  -- The header is complete and the frame is not.
  · left
    rw [parseMavlinkFrame, if_neg hshort]
    show ∃ e, (if len.toNat > maxPayloadLen then _ else _) = _
    rw [if_neg (Nat.not_lt.mpr hlen)]
    by_cases hflags : incompat &&& ~~~mavlinkIflagSigned ≠ 0
    · exact ⟨_, if_pos hflags⟩
    · refine ⟨.bufferTooShort, (if_neg hflags).trans (if_pos ?_)⟩
      show tail.length + 10 < if isSigned incompat then
        MavHeader.size + len.toNat + 2 + mavlinkSignatureLen else MavHeader.size + len.toNat + 2
      simp only [MavHeader.size]
      split at hfit
      next hsigned =>
        rw [if_pos hsigned]
        omega
      next hunsigned =>
        rw [if_neg hunsigned]
        omega
  · right
    have hcrc0 : len.toNat < tail.length := by omega
    have hcrc1 : len.toNat + 1 < tail.length := by omega
    have hpayload : (tail.take len.toNat).length = len.toNat := by
      rw [List.length_take]
      omega
    have hsignature : ((tail.drop (len.toNat + 2)).take
        (if isSigned incompat then mavlinkSignatureLen else 0)).length =
          if isSigned incompat then mavlinkSignatureLen else 0 := by
      rw [List.length_take, List.length_drop]
      omega
    refine ⟨⟨incompat, compat, seq, sysid, compid, id0, id1, id2, tail.take len.toNat,
      tail[len.toNat], tail[len.toNat + 1], _, hpayload.le.trans hlen, hsignature⟩,
      (tail.drop (len.toNat + 2)).drop (if isSigned incompat then mavlinkSignatureLen else 0), ?_⟩
    have htail : tail = tail.take len.toNat ++ (tail[len.toNat] :: tail[len.toNat + 1] ::
        tail.drop (len.toNat + 2)) := by
      rw [← List.drop_eq_getElem_cons hcrc1, ← List.drop_eq_getElem_cons hcrc0,
        List.take_append_drop]
    rw [RawFrame.bytes_append]
    simp only [RawFrame.covered, hpayload, UInt8.ofNat_toNat, List.take_append_drop]
    simp only [List.cons_append, List.nil_append]
    rw [← htail]

theorem safe_interpret (f : RawFrame) : Safe f.interpret := by
  unfold RawFrame.interpret
  refine safe_ite (fun _ => safe_fail _) fun _ => ?_
  refine safe_ite (fun _ => safe_fail _) fun _ => ?_
  refine safe_bind (safe_ite (fun hsigned => ?_) fun _ => safe_ok _) fun _ _ => ?_
  · have hblock := f.signature_length
    rw [if_pos hsigned] at hblock
    exact safe_bind (safe_parseSignature hblock) fun _ _ => safe_ok _
  · exact safe_bind (safe_parsePayload _) fun _ _ => safe_ok _

/-- An accepted frame consumes its own bytes. -/
theorem consumed_of_interpret {f : RawFrame} {frame : ParsedMavlinkFrame}
    (h : f.interpret = .ok frame) : frame.consumed = f.bytes.length := by
  unfold RawFrame.interpret at h
  split at h
  · cases h
  split at h
  · cases h
  obtain ⟨signature, -, h⟩ := Checked.bind_eq_ok.mp h
  obtain ⟨message, -, h⟩ := Checked.bind_eq_ok.mp h
  rw [← Except.ok.inj h]

theorem consumed_le {buf : Bytes} {frame : ParsedMavlinkFrame}
    (h : parseMavlinkFrame buf = .ok frame) : frame.consumed ≤ buf.length := by
  rcases parse_cases buf with ⟨e, hfail⟩ | ⟨f, rest, rfl⟩
  · rw [hfail] at h
    cases h
  · rw [f.parse_bytes rest] at h
    rw [consumed_of_interpret h, List.length_append]
    exact Nat.le_add_right _ _

/-- On every byte string the parser never reads out of range, and what it accepts is
determined by the bytes it consumes, which are within the string. -/
theorem parse_prefix_determined (buf : Bytes) :
    parseMavlinkFrame buf ≠ .error .outOfRange ∧
      ∀ frame, parseMavlinkFrame buf = .ok frame → frame.consumed ≤ buf.length ∧
        ∀ other : Bytes, other.take frame.consumed = buf.take frame.consumed →
          parseMavlinkFrame other = .ok frame := by
  rcases parse_cases buf with ⟨e, hfail⟩ | ⟨f, rest, rfl⟩
  · rw [hfail]
    refine ⟨safe_fail e, fun frame hframe => ?_⟩
    cases hframe
  · rw [f.parse_bytes rest]
    refine ⟨safe_interpret f, fun frame hframe => ?_⟩
    rw [consumed_of_interpret hframe]
    refine ⟨by rw [List.length_append]; omega, fun other hother => ?_⟩
    rw [List.take_left] at hother
    rw [← List.take_append_drop f.bytes.length other, hother, f.parse_bytes]
    exact hframe

end Aviate.Mavlink
