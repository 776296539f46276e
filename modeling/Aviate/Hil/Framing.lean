import Aviate.Hil.Wire
import Aviate.Link.WellFormed

/-!
# Frames of the simulator link

Results:
1. A payload is rejected only if it is a position without all its base fields
   (`parseMessage_cases`).
2. A complete frame is read alone, after any bytes that start none (`parseFrame_raw`).
3. Parsing never runs out of range, and once the parser does not wait for more bytes, later ones
   do not change what it makes of the first (`parseFrame_cases`).
-/

namespace ByteBuffer

variable {ε : Type} {buf : Bytes} {offset start stop : Nat}

theorem readU8_append_left (h : offset < buf.length) (more : Bytes) :
    (readU8 (buf ++ more) offset : Checked ε UInt8) = readU8 buf offset := by
  rw [readU8, List.getElem?_append_left h]
  rfl

theorem readU16Le_append_left (h : offset + 1 < buf.length) (more : Bytes) :
    (readU16Le (buf ++ more) offset : Checked ε UInt16) = readU16Le buf offset := by
  rw [readU16Le, readU16Le, readU8_append_left (Nat.lt_of_succ_lt h), readU8_append_left h]

theorem slice_append_left (h : stop ≤ buf.length) (more : Bytes) :
    (slice (buf ++ more) start stop : Checked ε Bytes) = slice buf start stop := by
  have hlonger : stop ≤ (buf ++ more).length := by
    rw [List.length_append]
    exact Nat.le_add_right_of_le h
  unfold slice
  simp only [h, hlonger, and_true, List.take_append_of_le_length h]

theorem silent_readF32sLe {n : Nat} :
    Checked.Silent (readF32sLe buf offset n : Checked ε (Vector F32 n)) := by
  induction n with
  | zero => exact Checked.silent_ok _
  | succ n ih =>
    refine Checked.silent_bind ih fun _ => ?_
    exact Checked.silent_bind silent_readF32Le fun _ => Checked.silent_ok _

theorem safe_readF32sLe {n : Nat} (h : offset + n * 4 ≤ buf.length) :
    Checked.Safe (readF32sLe buf offset n : Checked ε (Vector F32 n)) := by
  induction n with
  | zero => exact Checked.safe_ok _
  | succ n ih =>
    refine Checked.safe_bind (ih (by omega)) fun _ _ => ?_
    exact Checked.safe_bind (safe_readF32Le (by omega)) fun _ _ => Checked.safe_ok _

end ByteBuffer

namespace Aviate.Hil

open ByteBuffer Checked
open Mavlink (RawFrame)

/-! ## Payloads -/

theorem length_zeroExtended (n : Nat) (payload : Bytes) : (zeroExtended n payload).length = n := by
  rw [zeroExtended, List.length_append, List.length_take, List.length_replicate]
  omega

section Decoders

variable {data : Bytes}

theorem Heartbeat.exists_fromBytes (h : size ≤ data.length) : ∃ m, fromBytes data = .ok m := by
  rw [fromBytes, if_neg (Nat.not_lt.mpr h)]
  simp only [size] at h
  refine exists_ok ?_ ?_
  · refine safe_bind (safe_readU32Le (by omega)) fun _ _ => ?_
    iterate 5 refine safe_bind (safe_readU8 (by omega)) fun _ _ => ?_
    exact safe_ok _
  · refine silent_bind silent_readU32Le fun _ => ?_
    iterate 5 refine silent_bind silent_readU8 fun _ => ?_
    exact silent_ok _

theorem HilSensor.exists_fromBytes (h : size ≤ data.length) : ∃ m, fromBytes data = .ok m := by
  rw [fromBytes, if_neg (Nat.not_lt.mpr h)]
  simp only [size] at h
  refine exists_ok ?_ ?_
  · refine safe_bind (safe_readU64Le (by omega)) fun _ _ => ?_
    iterate 13 refine safe_bind (safe_readF32Le (by omega)) fun _ _ => ?_
    refine safe_bind (safe_readU32Le (by omega)) fun _ _ => ?_
    refine safe_bind (safe_readU8 (by omega)) fun _ _ => ?_
    exact safe_ok _
  · refine silent_bind silent_readU64Le fun _ => ?_
    iterate 13 refine silent_bind silent_readF32Le fun _ => ?_
    refine silent_bind silent_readU32Le fun _ => ?_
    refine silent_bind silent_readU8 fun _ => ?_
    exact silent_ok _

theorem HilGps.exists_fromBytes (h : minSize ≤ data.length) : ∃ m, fromBytes data = .ok m := by
  rw [fromBytes, if_neg (Nat.not_lt.mpr h)]
  simp only [minSize] at h
  refine exists_ok (safe_bind ?_ fun _ _ => safe_ite (fun hfull => ?_) fun _ => safe_ok _)
    (silent_bind ?_ fun _ => silent_ite ?_ (silent_ok _))
  · refine safe_bind (safe_readU64Le (by omega)) fun _ _ => ?_
    iterate 3 refine safe_bind (safe_readI32Le (by omega)) fun _ _ => ?_
    iterate 3 refine safe_bind (safe_readU16Le (by omega)) fun _ _ => ?_
    iterate 3 refine safe_bind (safe_readI16Le (by omega)) fun _ _ => ?_
    refine safe_bind (safe_readU16Le (by omega)) fun _ _ => ?_
    iterate 2 refine safe_bind (safe_readU8 (by omega)) fun _ _ => ?_
    exact safe_ok _
  · simp only [size] at hfull
    refine safe_bind (safe_readU8 (by omega)) fun _ _ => ?_
    refine safe_bind (safe_readU16Le (by omega)) fun _ _ => ?_
    exact safe_ok _
  · refine silent_bind silent_readU64Le fun _ => ?_
    iterate 3 refine silent_bind silent_readI32Le fun _ => ?_
    iterate 3 refine silent_bind silent_readU16Le fun _ => ?_
    iterate 3 refine silent_bind silent_readI16Le fun _ => ?_
    refine silent_bind silent_readU16Le fun _ => ?_
    iterate 2 refine silent_bind silent_readU8 fun _ => ?_
    exact silent_ok _
  · refine silent_bind silent_readU8 fun _ => ?_
    refine silent_bind silent_readU16Le fun _ => ?_
    exact silent_ok _

theorem HilStateQuaternion.exists_fromBytes (h : size ≤ data.length) :
    ∃ m, fromBytes data = .ok m := by
  rw [fromBytes, if_neg (Nat.not_lt.mpr h)]
  simp only [size] at h
  refine exists_ok ?_ ?_
  · refine safe_bind (safe_readF32sLe (by omega)) fun _ _ => ?_
    refine safe_bind (safe_readU64Le (by omega)) fun _ _ => ?_
    iterate 3 refine safe_bind (safe_readF32Le (by omega)) fun _ _ => ?_
    iterate 3 refine safe_bind (safe_readI32Le (by omega)) fun _ _ => ?_
    iterate 3 refine safe_bind (safe_readI16Le (by omega)) fun _ _ => ?_
    iterate 2 refine safe_bind (safe_readU16Le (by omega)) fun _ _ => ?_
    iterate 3 refine safe_bind (safe_readI16Le (by omega)) fun _ _ => ?_
    exact safe_ok _
  · refine silent_bind silent_readF32sLe fun _ => ?_
    refine silent_bind silent_readU64Le fun _ => ?_
    iterate 3 refine silent_bind silent_readF32Le fun _ => ?_
    iterate 3 refine silent_bind silent_readI32Le fun _ => ?_
    iterate 3 refine silent_bind silent_readI16Le fun _ => ?_
    iterate 2 refine silent_bind silent_readU16Le fun _ => ?_
    iterate 3 refine silent_bind silent_readI16Le fun _ => ?_
    exact silent_ok _

theorem HilActuatorControls.exists_fromBytes (h : size ≤ data.length) :
    ∃ m, fromBytes data = .ok m := by
  rw [fromBytes, if_neg (Nat.not_lt.mpr h)]
  simp only [size] at h
  refine exists_ok ?_ ?_
  · refine safe_bind (safe_readF32sLe (by omega)) fun _ _ => ?_
    iterate 2 refine safe_bind (safe_readU64Le (by omega)) fun _ _ => ?_
    refine safe_bind (safe_readU8 (by omega)) fun _ _ => ?_
    exact safe_ok _
  · refine silent_bind silent_readF32sLe fun _ => ?_
    iterate 2 refine silent_bind silent_readU64Le fun _ => ?_
    refine silent_bind silent_readU8 fun _ => ?_
    exact silent_ok _

end Decoders

/-- The message identifiers that are decoded. -/
theorem crcExtra_known {msgId extra : UInt8} (h : crcExtra msgId = some extra) :
    msgId = heartbeatId ∨ msgId = hilSensorId ∨ msgId = hilGpsId ∨ msgId = hilStateQuaternionId ∨
      msgId = hilActuatorControlsId := by
  unfold crcExtra at h
  grind

/-- A payload is a message's, or it is a position without all its base fields. -/
theorem parseMessage_cases {msgId extra : UInt8} (h : crcExtra msgId = some extra)
    (payload : Bytes) :
    (msgId = hilGpsId ∧ payload.length < HilGps.minSize ∧
        parseMessage msgId payload = fail .invalidPayload) ∨
      ((msgId = hilGpsId → HilGps.minSize ≤ payload.length) ∧
        ∃ m, parseMessage msgId payload = .ok m) := by
  have hlength (n : Nat) : n ≤ (zeroExtended n payload).length := (length_zeroExtended n payload).ge
  rcases crcExtra_known h with rfl | rfl | rfl | rfl | rfl
  · obtain ⟨m, hm⟩ := Heartbeat.exists_fromBytes (hlength _)
    have hparse : parseMessage heartbeatId payload =
        Heartbeat.fromBytes (zeroExtended _ payload) >>= fun m => pure (.heartbeat m) := rfl
    exact .inr ⟨fun hgps => absurd hgps (by decide), .heartbeat m, by rw [hparse, hm]; rfl⟩
  · obtain ⟨m, hm⟩ := HilSensor.exists_fromBytes (hlength _)
    have hparse : parseMessage hilSensorId payload =
        HilSensor.fromBytes (zeroExtended _ payload) >>= fun m => pure (.sensor m) := rfl
    exact .inr ⟨fun hgps => absurd hgps (by decide), .sensor m, by rw [hparse, hm]; rfl⟩
  · have hparse : parseMessage hilGpsId payload =
        HilGps.fromBytes payload >>= fun m => pure (.gps m) := rfl
    rw [hparse]
    by_cases hshort : payload.length < HilGps.minSize
    · refine .inl ⟨rfl, hshort, ?_⟩
      rw [HilGps.fromBytes, if_pos hshort]
      rfl
    · obtain ⟨m, hm⟩ := HilGps.exists_fromBytes (Nat.le_of_not_lt hshort)
      exact .inr ⟨fun _ => Nat.le_of_not_lt hshort, .gps m, by rw [hm]; rfl⟩
  · obtain ⟨m, hm⟩ := HilStateQuaternion.exists_fromBytes (hlength _)
    have hparse : parseMessage hilStateQuaternionId payload =
        HilStateQuaternion.fromBytes (zeroExtended _ payload) >>=
          fun m => pure (.stateQuaternion m) := rfl
    exact .inr ⟨fun hgps => absurd hgps (by decide), .stateQuaternion m, by rw [hparse, hm]; rfl⟩
  · obtain ⟨m, hm⟩ := HilActuatorControls.exists_fromBytes (hlength _)
    have hparse : parseMessage hilActuatorControlsId payload =
        HilActuatorControls.fromBytes (zeroExtended _ payload) >>=
          fun m => pure (.actuatorControls m) := rfl
    exact .inr ⟨fun hgps => absurd hgps (by decide), .actuatorControls m, by rw [hparse, hm]; rfl⟩

/-! ## Complete frames -/

section Frames

/-- The bytes of a frame that the parser knows of: all but the signature. -/
def wireBytes (f : RawFrame) : Bytes := mavlinkStxV2 :: f.covered ++ [f.crc0, f.crc1]

theorem bytes_eq (f : RawFrame) : f.bytes = wireBytes f ++ f.signature := by
  rw [wireBytes, List.append_assoc]
  rfl

theorem length_front (f : RawFrame) :
    (mavlinkStxV2 :: f.covered).length = headerSize + f.payload.length := f.length_front

theorem length_wireBytes (f : RawFrame) :
    (wireBytes f).length = headerSize + f.payload.length + crcSize := by
  rw [wireBytes, List.length_append, length_front]
  rfl

/-- What the parser makes of a complete frame that starts at `startPos`. -/
def readFrame (f : RawFrame) (startPos : Nat) : Checked ParseError (MavFrame × Nat) :=
  match crcExtra f.id0 with
  | none => fail (.unknownMessage f.id0 (startPos + (wireBytes f).length))
  | some extra =>
    if crcCalculate f.covered extra ≠ f.crc0.toUInt16 ||| f.crc1.toUInt16 <<< 8 then
      fail .crcMismatch
    else do
      let message ← parseMessage f.id0 f.payload
      return (⟨f.seq, f.sysid, f.compid, message⟩, startPos + (wireBytes f).length)

variable {gap : Bytes}

theorem findIdx?_gap (hgap : ∀ b ∈ gap, isStart b = false) (rest : Bytes) :
    (gap ++ mavlinkStxV2 :: rest).findIdx? isStart = some gap.length := by
  have hnone : gap.findIdx? isStart = none := List.findIdx?_eq_none_iff.mpr hgap
  have hstart : (mavlinkStxV2 :: rest).findIdx? isStart = some 0 := rfl
  rw [List.findIdx?_append, hnone, hstart]
  simp

/-- A complete frame is read alone, after any bytes that start none. -/
theorem parseFrame_raw (hgap : ∀ b ∈ gap, isStart b = false) (f : RawFrame) (rest : Bytes) :
    parseFrame (gap ++ (wireBytes f ++ rest)) = readFrame f gap.length := by
  have hlength := length_wireBytes f
  have hheader : ¬ (wireBytes f ++ rest).length < headerSize := by
    rw [List.length_append, hlength]
    omega
  have hframe : ¬ (wireBytes f ++ rest).length < headerSize + f.payload.length + crcSize := by
    rw [List.length_append, hlength]
    omega
  have hsplit : wireBytes f ++ rest =
      (mavlinkStxV2 :: f.covered) ++ (f.crc0 :: f.crc1 :: rest) := by
    rw [wireBytes, List.append_assoc]
    rfl
  have hslice {start : Nat} (hstart : start ≤ headerSize) :
      (slice (wireBytes f ++ rest) start (headerSize + f.payload.length) :
        Checked ParseError Bytes) = .ok ((mavlinkStxV2 :: f.covered).drop start) := by
    rw [slice_of_le (by omega) (by rw [crcSize] at hframe; omega), hsplit,
      List.take_left' (length_front f)]
  have hpayload : (mavlinkStxV2 :: f.covered).drop headerSize = f.payload := rfl
  have hcrc : (readU16Le (wireBytes f ++ rest) (headerSize + f.payload.length) :
      Checked ParseError UInt16) = .ok (f.crc0.toUInt16 ||| f.crc1.toUInt16 <<< 8) := by
    rw [hsplit, readU16Le_skip (length_front f) (Nat.le_refl _), Nat.sub_self]
    rfl
  have hbyte (i : Nat) {b : UInt8} (hb : (wireBytes f ++ rest)[i]? = some b) :
      (readU8 (wireBytes f ++ rest) i : Checked ParseError UInt8) = .ok b := by
    rw [readU8, hb]
  have hstart : (gap ++ (wireBytes f ++ rest)).findIdx? isStart = some gap.length :=
    findIdx?_gap hgap _
  have hfirst : (wireBytes f ++ rest)[0]? = some mavlinkStxV2 := rfl
  unfold parseFrame
  rw [hstart]
  simp only [List.drop_left]
  rw [hbyte 0 hfirst, ok_bind, if_pos rfl, parseFrameV2, parseFrameAt, if_neg hheader,
    hbyte 1 rfl, ok_bind]
  simp only [hbyte 4 rfl, hbyte (4 + 1) rfl, hbyte (4 + 2) rfl, hbyte (4 + 3) rfl, ok_bind,
    f.toNat_length, if_neg hframe]
  unfold readFrame
  cases crcExtra f.id0 with
  | none => rw [hlength]
  | some extra =>
    simp only [hslice (show 1 ≤ headerSize by decide), hslice (Nat.le_refl _), hpayload, hcrc,
      ok_bind, List.drop_one, List.tail_cons, hlength]

/-- Until the checksum has arrived the parser waits. -/
theorem parseFrame_part (hgap : ∀ b ∈ gap, isStart b = false) {f : RawFrame} {part more : Bytes}
    (hpart : part ++ more = wireBytes f) (hmore : more ≠ []) :
    parseFrame (gap ++ part) = fail .incomplete := by
  cases part with
  | nil =>
    have hnone : gap.findIdx? isStart = none := List.findIdx?_eq_none_iff.mpr hgap
    rw [List.append_nil, parseFrame, hnone]
  | cons first part =>
    have hfirst : first = mavlinkStxV2 := (List.cons.inj hpart).1
    subst hfirst
    unfold parseFrame
    rw [findIdx?_gap hgap]
    simp only [List.drop_left]
    show parseFrameAt headerSize 4 (mavlinkStxV2 :: part) gap.length = _
    by_cases hheader : (mavlinkStxV2 :: part).length < headerSize
    · exact if_pos hheader
    have hlong : 10 ≤ (mavlinkStxV2 :: part).length := Nat.le_of_not_lt hheader
    have hlen : (readU8 (mavlinkStxV2 :: part) 1 : Checked ParseError UInt8) =
        .ok (.ofNat f.payload.length) := by
      rw [← readU8_append_left (by omega) more, hpart]
      rfl
    have hread {i : Nat} (hi : i < 10) :
        ∃ b, (readU8 (mavlinkStxV2 :: part) i : Checked ParseError UInt8) = .ok b :=
      ⟨_, readU8_of_lt (Nat.lt_of_lt_of_le hi hlong)⟩
    obtain ⟨seq, hseq⟩ := hread (show 4 < 10 by decide)
    obtain ⟨sysId, hsysId⟩ := hread (show 4 + 1 < 10 by decide)
    obtain ⟨compId, hcompId⟩ := hread (show 4 + 2 < 10 by decide)
    obtain ⟨msgId, hmsgId⟩ := hread (show 4 + 3 < 10 by decide)
    have hframe : (mavlinkStxV2 :: part).length < headerSize + f.payload.length + crcSize := by
      have htotal := congrArg List.length hpart
      have hpos := List.length_pos_of_ne_nil hmore
      rw [List.length_append, length_wireBytes] at htotal
      omega
    rw [parseFrameAt, if_neg hheader, hlen, hseq, hsysId, hcompId, hmsgId]
    simp only [ok_bind, f.toNat_length, if_pos hframe]

end Frames

/-! ## Any bytes -/

/-- What the parser makes of bytes it does not wait on: it consumes `n` of them, or it rejects
them. -/
inductive Settled : Checked ParseError (MavFrame × Nat) → Nat → Prop
  | parsed (frame : MavFrame) (n : Nat) : Settled (.ok (frame, n)) n
  | unknown (msgId : UInt8) (n : Nat) : Settled (fail (.unknownMessage msgId n)) n
  | mismatch (n : Nat) : Settled (fail .crcMismatch) n
  | invalid (n : Nat) : Settled (fail .invalidPayload) n

/-- The bytes that a frame's header announces; a length byte that has not arrived counts nothing. -/
def announced (header : Nat) (data : Bytes) : Nat :=
  header + (data[1]?.elim 0 UInt8.toNat) + crcSize

/-- What the parser makes of a whole frame. -/
inductive Reading where
  | parsed (frame : MavFrame)
  | unknown (msgId : UInt8)
  | mismatch
  | invalid

/-- The parser's result for a reading that ends at `n`. -/
def Reading.result (n : Nat) : Reading → Checked ParseError (MavFrame × Nat)
  | parsed frame => .ok (frame, n)
  | unknown msgId => fail (.unknownMessage msgId n)
  | mismatch => fail .crcMismatch
  | invalid => fail .invalidPayload

theorem Reading.settled (reading : Reading) (n : Nat) : Settled (reading.result n) n := by
  cases reading with
  | parsed frame => exact .parsed frame n
  | unknown msgId => exact .unknown msgId n
  | mismatch => exact .mismatch n
  | invalid => exact .invalid n

section Announced

variable {header seqAt : Nat} {data : Bytes}

/-- The parser waits for all that the header announces. -/
theorem parseFrameAt_short (hlen : 1 < header) (hseq : seqAt + 3 < header)
    (h : data.length < announced header data) (startPos : Nat) :
    parseFrameAt header seqAt data startPos = fail .incomplete := by
  by_cases hheader : data.length < header
  · exact if_pos hheader
  have hle : header ≤ data.length := Nat.le_of_not_lt hheader
  have hread {i : Nat} (hi : i < data.length) :
      ∃ b, (readU8 data i : Checked ParseError UInt8) = .ok b :=
    ⟨_, readU8_of_lt hi⟩
  have hone : 1 < data.length := Nat.lt_of_lt_of_le hlen hle
  have hlen' : (readU8 data 1 : Checked ParseError UInt8) = .ok (data.get ⟨1, hone⟩) :=
    readU8_of_lt hone
  obtain ⟨seq, hseq'⟩ := hread (show seqAt < data.length by omega)
  obtain ⟨sysId, hsysId⟩ := hread (show seqAt + 1 < data.length by omega)
  obtain ⟨compId, hcompId⟩ := hread (show seqAt + 2 < data.length by omega)
  obtain ⟨msgId, hmsgId⟩ := hread (show seqAt + 3 < data.length by omega)
  rw [announced, List.getElem?_eq_getElem hone] at h
  rw [parseFrameAt, if_neg hheader, hlen', ok_bind, hseq', ok_bind, hsysId, ok_bind, hcompId,
    ok_bind, hmsgId, ok_bind]
  exact if_pos h

/-- What the parser makes of a whole frame depends on its bytes alone. -/
theorem parseFrameAt_whole (hlen : 1 < header) (hseq : seqAt + 3 < header)
    (h : announced header data ≤ data.length) :
    ∃ reading : Reading, ∀ startPos more, parseFrameAt header seqAt (data ++ more) startPos =
      reading.result (startPos + announced header data) := by
  have hle : header ≤ data.length :=
    (Nat.le_add_right_of_le (Nat.le_add_right header _)).trans h
  have hread {i : Nat} (hi : i < data.length) :
      ∃ b, (readU8 data i : Checked ParseError UInt8) = .ok b :=
    ⟨_, readU8_of_lt hi⟩
  have hone : 1 < data.length := Nat.lt_of_lt_of_le hlen hle
  generalize hbyte : data.get ⟨1, hone⟩ = len
  have hlen' : (readU8 data 1 : Checked ParseError UInt8) = .ok len :=
    hbyte ▸ readU8_of_lt hone
  obtain ⟨seq, hseq'⟩ := hread (show seqAt < data.length by omega)
  obtain ⟨sysId, hsysId⟩ := hread (show seqAt + 1 < data.length by omega)
  obtain ⟨compId, hcompId⟩ := hread (show seqAt + 2 < data.length by omega)
  obtain ⟨msgId, hmsgId⟩ := hread (show seqAt + 3 < data.length by omega)
  have hend : announced header data = header + len.toNat + crcSize := by
    rw [announced, List.getElem?_eq_getElem hone, ← hbyte]
    rfl
  rw [hend] at h ⊢
  -- The header is read alike whatever follows.
  have hbody (startPos : Nat) (more : Bytes) : parseFrameAt header seqAt (data ++ more) startPos =
      match crcExtra msgId with
      | none => fail (.unknownMessage msgId (startPos + (header + len.toNat + crcSize)))
      | some extra => do
        let expectedCrc := crcCalculate (← slice data 1 (header + len.toNat)) extra
        let receivedCrc ← readU16Le data (header + len.toNat)
        if expectedCrc ≠ receivedCrc then fail .crcMismatch
        else
          let message ← parseMessage msgId (← slice data header (header + len.toNat))
          return (⟨seq, sysId, compId, message⟩,
            startPos + (header + len.toNat + crcSize)) := by
    have hmore : ¬ (data ++ more).length < header := by
      rw [List.length_append]
      omega
    have hframe : ¬ (data ++ more).length < header + len.toNat + crcSize := by
      rw [List.length_append]
      omega
    rw [crcSize] at h hframe
    rw [parseFrameAt, if_neg hmore]
    cases hextra : crcExtra msgId <;> simp only [readU8_append_left (show 1 < data.length by omega),
      readU8_append_left (show seqAt < data.length by omega),
      readU8_append_left (show seqAt + 1 < data.length by omega),
      readU8_append_left (show seqAt + 2 < data.length by omega),
      readU8_append_left (show seqAt + 3 < data.length by omega), hlen', hseq', hsysId, hcompId,
      hmsgId, hextra, ok_bind, crcSize, if_neg hframe,
      slice_append_left (show header + len.toNat ≤ data.length by omega),
      readU16Le_append_left (show header + len.toNat + 1 < data.length by omega)]
  simp only [hbody]
  rw [crcSize] at h
  cases hextra : crcExtra msgId with
  | none => exact ⟨.unknown msgId, fun _ _ => rfl⟩
  | some extra =>
    obtain ⟨b₀, hb₀⟩ := hread (show header + len.toNat < data.length by omega)
    obtain ⟨b₁, hb₁⟩ := hread (show header + len.toNat + 1 < data.length by omega)
    have hcrc : ∃ crc, (readU16Le data (header + len.toNat) : Checked ParseError UInt16) =
        .ok crc := ⟨_, by rw [readU16Le, hb₀, ok_bind, hb₁]; rfl⟩
    obtain ⟨crc, hcrc⟩ := hcrc
    have hslice {start : Nat} (hstart : start ≤ header + len.toNat) :
        (slice data start (header + len.toNat) : Checked ParseError Bytes) =
          .ok ((data.take (header + len.toNat)).drop start) :=
      slice_of_le hstart (by omega)
    simp only [hslice (show 1 ≤ header + len.toNat by omega), hslice (Nat.le_add_right _ _), hcrc,
      ok_bind]
    split
    · exact ⟨.mismatch, fun _ _ => rfl⟩
    · rcases parseMessage_cases hextra
        ((data.take (header + len.toNat)).drop header) with ⟨-, -, hfail⟩ | ⟨-, m, hm⟩
      · rw [hfail]
        exact ⟨.invalid, fun _ _ => rfl⟩
      · rw [hm]
        exact ⟨.parsed _, fun _ _ => rfl⟩

theorem parseFrameAt_cases (hlen : 1 < header) (hseq : seqAt + 3 < header) (data : Bytes)
    (startPos : Nat) :
    parseFrameAt header seqAt data startPos = fail .incomplete ∨
      ∃ n, 0 < n ∧ n ≤ data.length ∧
        Settled (parseFrameAt header seqAt data startPos) (startPos + n) ∧
        ∀ more, parseFrameAt header seqAt (data ++ more) startPos =
          parseFrameAt header seqAt data startPos := by
  rcases Nat.lt_or_ge data.length (announced header data) with hshort | hwhole
  · exact .inl (parseFrameAt_short hlen hseq hshort startPos)
  · obtain ⟨reading, hreading⟩ := parseFrameAt_whole hlen hseq hwhole
    have halone := hreading startPos []
    rw [List.append_nil] at halone
    refine .inr ⟨announced header data, Nat.succ_pos _, hwhole, ?_, fun more => ?_⟩
    · rw [halone]
      exact reading.settled _
    · rw [hreading, halone]

end Announced

/-- Parsing never runs out of range, and once the parser does not wait, later bytes do not
matter. -/
theorem parseFrame_cases (data : Bytes) :
    parseFrame data = fail .incomplete ∨
      ∃ n, 0 < n ∧ n ≤ data.length ∧ Settled (parseFrame data) n ∧
        ∀ more, parseFrame (data ++ more) = parseFrame data := by
  cases hstart : data.findIdx? isStart with
  | none => exact .inl (by rw [parseFrame, hstart])
  | some startPos =>
    have hlt : startPos < data.length := (List.findIdx?_eq_some_iff_getElem.mp hstart).1
    have hfirst : 0 < (data.drop startPos).length := by
      rw [List.length_drop]
      omega
    obtain ⟨first, hread⟩ :
        ∃ b, (readU8 (data.drop startPos) 0 : Checked ParseError UInt8) = .ok b :=
      ⟨_, readU8_of_lt hfirst⟩
    have hparse (more : Bytes) : parseFrame (data ++ more) =
        if first = mavlinkStxV2 then parseFrameV2 (data.drop startPos ++ more) startPos
        else parseFrameV1 (data.drop startPos ++ more) startPos := by
      have hstart' : (data ++ more).findIdx? isStart = some startPos := by
        rw [List.findIdx?_append, hstart]
        rfl
      rw [parseFrame, hstart']
      simp only [List.drop_append_of_le_length hlt.le, readU8_append_left hfirst, hread, ok_bind]
    have hcases : ∀ {header seqAt : Nat}, 1 < header → seqAt + 3 < header →
        (∀ more, parseFrame (data ++ more) =
          parseFrameAt header seqAt (data.drop startPos ++ more) startPos) →
        parseFrame data = fail .incomplete ∨
          ∃ n, 0 < n ∧ n ≤ data.length ∧ Settled (parseFrame data) n ∧
            ∀ more, parseFrame (data ++ more) = parseFrame data := by
      intro header seqAt hlen hseq hat
      have hdata := hat []
      simp only [List.append_nil] at hdata
      rw [hdata]
      rcases parseFrameAt_cases hlen hseq (data.drop startPos) startPos with
        hwait | ⟨n, hpos, hle, hsettled, hstable⟩
      · exact .inl hwait
      · rw [List.length_drop] at hle
        exact .inr ⟨startPos + n, by omega, by omega, hsettled, fun more =>
          (hat more).trans (hstable more)⟩
    by_cases hv2 : first = mavlinkStxV2
    · simp only [if_pos hv2] at hparse
      exact hcases (by decide) (by decide) hparse
    · simp only [if_neg hv2] at hparse
      exact hcases (by decide) (by decide) hparse

end Aviate.Hil
