import Aviate.Hil.Framing

/-!
# The HIL wire round trip

A sender of MAVLink 2 drops zeros at the end of a payload. Which of the frames shortened so the
parser still reads as the message sent.

Results:
1. The serializer writes the message's frame (`serializeFrame_eq`).
2. Every shortened frame of every message reads back as the message sent, except for positions:
   these only full, or with all base fields kept and zero extension fields
   (`parse_truncated_iff`). A position without a fix is lost (`noFix_lost`).
-/

namespace Aviate.Hil

open ByteBuffer Checked
open Mavlink (RawFrame)

/-! ## The frame of a payload -/

/-- The header after the start byte, and the payload. -/
def coveredBy (msgId seq sysId compId : UInt8) (payload : Bytes) : Bytes :=
  [.ofNat payload.length, 0, 0, seq, sysId, compId, msgId, 0, 0] ++ payload

/-- A frame with its checksum. -/
def frameBytes (msgId seq sysId compId extra : UInt8) (payload : Bytes) : Bytes :=
  mavlinkStxV2 :: coveredBy msgId seq sysId compId payload ++
    u16Bytes (crcCalculate (coveredBy msgId seq sysId compId payload) extra)

variable {msgId seq sysId compId extra : UInt8} {payload buf : Bytes}

theorem length_frameBytes :
    (frameBytes msgId seq sysId compId extra payload).length =
      headerSize + payload.length + crcSize := by
  simp only [frameBytes, coveredBy, headerSize, crcSize, List.length_append, List.length_cons,
    List.length_nil, length_u16Bytes]
  omega

theorem HilMessage.size_le (msg : HilMessage) : msg.size ≤ maxPayloadSize := by
  cases msg with
  | heartbeat m => exact show Heartbeat.size ≤ _ by decide
  | sensor m => exact show HilSensor.size ≤ _ by decide
  | gps m => exact show HilGps.size ≤ _ by decide
  | stateQuaternion m => exact show HilStateQuaternion.size ≤ _ by decide
  | actuatorControls m => exact show HilActuatorControls.size ≤ _ by decide

/-- The serializer writes the message's frame. -/
theorem serializeFrame_eq (msg : HilMessage) (seq sysId compId : UInt8)
    (hbuf : headerSize + msg.size + crcSize ≤ buf.length) :
    ∃ extra, crcExtra msg.msgId = some extra ∧
      serializeFrame msg seq sysId compId buf =
        .ok (some (headerSize + msg.size + crcSize,
          frameBytes msg.msgId seq sysId compId extra (recordBytes msg.fields) ++
            buf.drop (headerSize + msg.size + crcSize))) := by
  obtain ⟨extra, hextra⟩ : ∃ extra, crcExtra msg.msgId = some extra := by
    cases msg <;> exact ⟨_, rfl⟩
  refine ⟨extra, hextra, ?_⟩
  have hlength := msg.length_payload
  generalize hpayload : recordBytes msg.fields = payload at hlength
  generalize hheader : [mavlinkStxV2, .ofNat payload.length, 0, 0, seq, sysId, compId, msg.msgId,
    0, 0] = header
  have hsize : header.length = headerSize := by rw [← hheader]; rfl
  have hcovered : (header ++ payload).drop 1 = coveredBy msg.msgId seq sysId compId payload := by
    rw [← hheader]
    rfl
  have hfront : (header ++ payload).length = headerSize + payload.length := by
    rw [List.length_append, hsize]
  have hfits : ¬ buf.length < headerSize + payload.length + crcSize := by
    rw [hlength]
    exact Nat.not_lt.mpr hbuf
  have hwriteHeader : (writeBytes buf 0 header : Checked Empty Bytes) =
      .ok (header ++ buf.drop headerSize) := by
    rw [writeBytes_of_le (by omega), List.take_zero, List.nil_append, Nat.zero_add, hsize]
  have hwritePayload : (writeBytes (header ++ buf.drop headerSize) headerSize payload :
      Checked Empty Bytes) =
        .ok ((header ++ payload) ++ buf.drop (headerSize + payload.length)) := by
    rw [writeBytes_append hsize (by rw [List.length_drop]; omega), List.drop_drop,
      List.append_assoc]
  have hslice : (slice ((header ++ payload) ++ buf.drop (headerSize + payload.length)) 1
      (headerSize + payload.length) : Checked Empty Bytes) =
        .ok (coveredBy msg.msgId seq sysId compId payload) := by
    rw [slice_of_le (by rw [headerSize]; omega) (by rw [List.length_append, hfront]; omega),
      List.take_left' hfront, hcovered]
  have hwriteCrc (crc : UInt16) : (writeBytes ((header ++ payload) ++
      buf.drop (headerSize + payload.length)) (headerSize + payload.length) (u16Bytes crc) :
        Checked Empty Bytes) = .ok ((header ++ payload) ++ (u16Bytes crc ++
          buf.drop (headerSize + payload.length + crcSize))) := by
    have hroom : (u16Bytes crc).length ≤ (buf.drop (headerSize + payload.length)).length := by
      rw [List.length_drop, length_u16Bytes]
      rw [crcSize] at hfits
      omega
    rw [writeBytes_append hfront hroom, List.drop_drop]
    rfl
  unfold serializeFrame
  rw [msg.toBytes_eq, hpayload, ok_bind]
  simp only [hextra, if_neg hfits, hheader, hwriteHeader, hwritePayload, hslice, hwriteCrc, ok_bind,
    ← hlength, frameBytes, coveredBy]
  rw [← hheader]
  simp

/-- A frame is read back as the message of its payload. -/
theorem parseFrame_frameBytes (hextra : crcExtra msgId = some extra)
    (hpayload : payload.length ≤ maxPayloadSize) :
    parseFrame (frameBytes msgId seq sysId compId extra payload) =
      parseMessage msgId payload >>= fun message =>
        pure (⟨seq, sysId, compId, message⟩,
          (frameBytes msgId seq sysId compId extra payload).length) := by
  let crc := crcCalculate (coveredBy msgId seq sysId compId payload) extra
  let frame : RawFrame :=
    { incompatFlags := 0
      compatFlags := 0
      seq := seq
      sysid := sysId
      compid := compId
      id0 := msgId
      id1 := 0
      id2 := 0
      payload := payload
      crc0 := (crc &&& 0xFF).toUInt8
      crc1 := ((crc >>> 8) &&& 0xFF).toUInt8
      signature := []
      payload_le := hpayload
      signature_length := rfl }
  have hbytes : wireBytes frame = frameBytes msgId seq sysId compId extra payload := rfl
  have hchecked : ¬ crcCalculate frame.covered extra ≠
      frame.crc0.toUInt16 ||| frame.crc1.toUInt16 <<< 8 :=
    not_not.mpr (UInt16.join_bytes crc).symm
  have hparse : parseFrame ([] ++ (wireBytes frame ++ [])) = readFrame frame 0 :=
    parseFrame_raw (List.forall_mem_nil _) frame []
  rw [List.nil_append, List.append_nil, hbytes] at hparse
  rw [hparse, readFrame, hbytes]
  simp only [show frame.id0 = msgId from rfl, hextra, if_neg hchecked, Nat.zero_add]
  rfl

/-! ## Shortened frames -/

/-- Drop bytes from the end of a frame's payload; the length and the checksum follow. -/
def truncateFrame (frame : Bytes) (extra : UInt8) (drop : Nat) : Bytes :=
  let payloadLen := ((frame[1]?).getD 0).toNat - drop
  let covered := .ofNat payloadLen :: (frame.take (headerSize + payloadLen)).drop 2
  mavlinkStxV2 :: covered ++ u16Bytes (crcCalculate covered extra)

/-- The bytes dropped from the end of the payload are zeros, and a byte is kept. -/
def Droppable (frame : Bytes) (drop : Nat) : Prop :=
  let payloadLen := ((frame[1]?).getD 0).toNat
  drop < payloadLen ∧
    ∀ b ∈ (frame.take (headerSize + payloadLen)).drop (headerSize + payloadLen - drop), b = 0

theorem payloadLen_frameBytes (hpayload : payload.length ≤ maxPayloadSize) :
    (((frameBytes msgId seq sysId compId extra payload)[1]?).getD 0).toNat = payload.length := by
  show (UInt8.ofNat payload.length).toNat = payload.length
  rw [UInt8.toNat_ofNat']
  exact Nat.mod_eq_of_lt (Nat.lt_succ_of_le hpayload)

theorem take_frameBytes (n : Nat) (h : n ≤ payload.length) :
    (frameBytes msgId seq sysId compId extra payload).take (headerSize + n) =
      [mavlinkStxV2, .ofNat payload.length, 0, 0, seq, sysId, compId, msgId, 0, 0] ++
        payload.take n := by
  have hsplit : frameBytes msgId seq sysId compId extra payload =
      [mavlinkStxV2, .ofNat payload.length, 0, 0, seq, sysId, compId, msgId, 0, 0] ++
        (payload ++ u16Bytes (crcCalculate (coveredBy msgId seq sysId compId payload) extra)) := by
    simp [frameBytes, coveredBy]
  rw [hsplit, List.take_append, List.take_of_length_le (by simp [headerSize])]
  congr 1
  show List.take (headerSize + n - headerSize) _ = _
  rw [Nat.add_sub_cancel_left, List.take_append_of_le_length h]

/-- A shortened frame is the frame of the shortened payload. -/
theorem truncateFrame_frameBytes (hpayload : payload.length ≤ maxPayloadSize) (drop : Nat) :
    truncateFrame (frameBytes msgId seq sysId compId extra payload) extra drop =
      frameBytes msgId seq sysId compId extra (payload.take (payload.length - drop)) := by
  have hkept : (payload.take (payload.length - drop)).length = payload.length - drop := by
    rw [List.length_take]
    omega
  unfold truncateFrame
  simp only [payloadLen_frameBytes hpayload,
    take_frameBytes (payload.length - drop) (Nat.sub_le _ _)]
  rw [frameBytes, coveredBy, hkept]
  rfl

/-- What a droppable frame drops. -/
theorem Droppable.payload_eq {drop : Nat} (hpayload : payload.length ≤ maxPayloadSize)
    (h : Droppable (frameBytes msgId seq sysId compId extra payload) drop) :
    drop < payload.length ∧
      payload = payload.take (payload.length - drop) ++ List.replicate drop 0 := by
  unfold Droppable at h
  simp only [payloadLen_frameBytes hpayload, take_frameBytes _ (Nat.le_refl _), List.take_length]
    at h
  obtain ⟨hlt, hzero⟩ := h
  have hdropped : (payload.drop (payload.length - drop)) = List.replicate drop 0 := by
    refine List.eq_replicate_iff.mpr ⟨by rw [List.length_drop]; omega, fun b hb => hzero b ?_⟩
    rw [Nat.add_sub_assoc hlt.le, List.drop_append]
    exact List.mem_append_right _ (by simpa [headerSize] using hb)
  refine ⟨hlt, ?_⟩
  rw [← hdropped, List.take_append_drop]

/-- A payload whose end was zeros is restored. -/
theorem zeroExtended_of_eq {kept : Bytes} {n drop : Nat}
    (h : payload = kept ++ List.replicate drop 0) (hlength : payload.length = n) :
    zeroExtended n kept = payload := by
  subst hlength
  have htotal : payload.length = kept.length + drop := by
    rw [h, List.length_append, List.length_replicate]
  rw [zeroExtended, List.take_of_length_le (by omega), htotal, Nat.add_sub_cancel_left, ← h]

/-- The message comes through without its last bytes: a position only if they are extension
fields, which are then zeros. -/
def HilMessage.Survives (drop : Nat) : HilMessage → Prop
  | .gps m => drop = 0 ∨ (drop ≤ 3 ∧ m.id = 0 ∧ m.yaw = 0)
  | _ => True

/-- A position without its last bytes. -/
theorem HilGps.fromBytes_kept_iff (m : HilGps) {kept : Bytes} {drop : Nat}
    (hpayload : recordBytes m.fields = kept ++ List.replicate drop 0) :
    HilGps.fromBytes kept = .ok m ↔ drop = 0 ∨ (drop ≤ 3 ∧ m.id = 0 ∧ m.yaw = 0) := by
  have htotal : kept.length + drop = size := by
    have hlength : (recordBytes m.fields).length = size := (HilMessage.gps m).length_payload
    rw [← hlength, hpayload, List.length_append, List.length_replicate]
  by_cases hzero : drop = 0
  · subst hzero
    rw [List.replicate_zero, List.append_nil] at hpayload
    rw [← hpayload, m.fromBytes_payload]
    exact iff_of_true rfl (.inl rfl)
  by_cases hfew : drop ≤ 3
  · -- The base fields are kept, and some bytes of the extension fields.
    have hkept : kept = m.base ++ (u8Bytes m.id ++ (u16Bytes m.yaw ++ [])).take (3 - drop) := by
      have htake : kept = (recordBytes m.fields).take kept.length := by
        rw [hpayload, List.take_left]
      have hbase : m.base.length ≤ kept.length := by
        rw [m.length_base, minSize]
        rw [size] at htotal
        omega
      rw [htake, m.payload_eq, List.take_append, List.take_of_length_le hbase, m.length_base]
      congr 2
      rw [size] at htotal
      rw [minSize]
      omega
    rw [hkept, m.fromBytes_base (by rw [List.length_take]; omega)]
    constructor
    · intro h
      have hm : { m with id := 0, yaw := 0 } = m := Except.ok.inj h
      refine .inr ⟨hfew, ?_, ?_⟩
      · rw [← hm]
      · rw [← hm]
    · rintro (h | ⟨-, hid, hyaw⟩)
      · exact absurd h hzero
      · rw [← hid, ← hyaw]
  · have hshort : kept.length < minSize := by
      rw [size] at htotal
      rw [minSize]
      omega
    rw [fromBytes, if_pos hshort]
    refine iff_of_false (fun h => by cases h) ?_
    rintro (h | ⟨h, -⟩)
    · exact hzero h
    · exact hfew h

/-- What the decoder makes of a shortened payload. -/
theorem parseMessage_kept_iff (msg : HilMessage) {kept : Bytes} {drop : Nat}
    (hpayload : recordBytes msg.fields = kept ++ List.replicate drop 0) :
    parseMessage msg.msgId kept = .ok msg ↔ msg.Survives drop := by
  have hrestored : zeroExtended msg.size kept = recordBytes msg.fields :=
    zeroExtended_of_eq hpayload msg.length_payload
  cases msg with
  | heartbeat m =>
    have hparse : parseMessage heartbeatId kept =
        Heartbeat.fromBytes (zeroExtended _ kept) >>= fun m => pure (.heartbeat m) := rfl
    replace hrestored : zeroExtended Heartbeat.size kept = recordBytes m.fields := hrestored
    rw [hrestored, m.fromBytes_payload] at hparse
    exact iff_of_true hparse trivial
  | sensor m =>
    have hparse : parseMessage hilSensorId kept =
        HilSensor.fromBytes (zeroExtended _ kept) >>= fun m => pure (.sensor m) := rfl
    replace hrestored : zeroExtended HilSensor.size kept = recordBytes m.fields := hrestored
    rw [hrestored, m.fromBytes_payload] at hparse
    exact iff_of_true hparse trivial
  | gps m =>
    have hparse : parseMessage hilGpsId kept =
        HilGps.fromBytes kept >>= fun m => pure (.gps m) := rfl
    have hmsg : parseMessage hilGpsId kept = .ok (.gps m) ↔ HilGps.fromBytes kept = .ok m := by
      rw [hparse]
      cases HilGps.fromBytes kept with
      | error fault => exact iff_of_false nofun nofun
      | ok m' =>
        constructor
        · intro h
          cases h
          rfl
        · intro h
          cases h
          rfl
    exact hmsg.trans (m.fromBytes_kept_iff hpayload)
  | stateQuaternion m =>
    have hparse : parseMessage hilStateQuaternionId kept =
        HilStateQuaternion.fromBytes (zeroExtended _ kept) >>=
          fun m => pure (.stateQuaternion m) := rfl
    replace hrestored : zeroExtended HilStateQuaternion.size kept = recordBytes m.fields :=
      hrestored
    rw [hrestored, m.fromBytes_payload] at hparse
    exact iff_of_true hparse trivial
  | actuatorControls m =>
    have hparse : parseMessage hilActuatorControlsId kept =
        HilActuatorControls.fromBytes (zeroExtended _ kept) >>=
          fun m => pure (.actuatorControls m) := rfl
    replace hrestored : zeroExtended HilActuatorControls.size kept = recordBytes m.fields :=
      hrestored
    rw [hrestored, m.fromBytes_payload] at hparse
    exact iff_of_true hparse trivial

/-- Every shortened frame reads back as the message sent, if and only if the message survives
the loss. -/
theorem parse_truncated_iff (msg : HilMessage) (seq sysId compId : UInt8)
    (hbuf : headerSize + msg.size + crcSize ≤ buf.length) :
    ∃ n written extra, serializeFrame msg seq sysId compId buf = .ok (some (n, written)) ∧
      crcExtra msg.msgId = some extra ∧
      ∀ drop, Droppable (written.take n) drop →
        (parseFrame (truncateFrame (written.take n) extra drop) =
            .ok (⟨seq, sysId, compId, msg⟩, (truncateFrame (written.take n) extra drop).length) ↔
          msg.Survives drop) := by
  obtain ⟨extra, hextra, hwrite⟩ := serializeFrame_eq msg seq sysId compId hbuf
  refine ⟨_, _, extra, hwrite, hextra, ?_⟩
  have hlength := msg.length_payload
  have hle : (recordBytes msg.fields).length ≤ maxPayloadSize := hlength.trans_le msg.size_le
  rw [List.take_left' (by rw [length_frameBytes, hlength])]
  intro drop hdrop
  obtain ⟨-, hpayload⟩ := hdrop.payload_eq hle
  have hkept : ((recordBytes msg.fields).take ((recordBytes msg.fields).length - drop)).length ≤
      maxPayloadSize := (List.length_take_le' _ _).trans hle
  rw [truncateFrame_frameBytes hle, parseFrame_frameBytes hextra hkept,
    ← parseMessage_kept_iff msg hpayload]
  constructor
  · intro h
    obtain ⟨m, hm, hresult⟩ := bind_eq_ok.mp h
    cases hresult
    exact hm
  · intro h
    rw [h]
    rfl

/-- A receiver without a fix reports its time and zeros. -/
def noFix : HilMessage :=
  .gps ⟨1000000, 0, 0, 0, 0, 0, 0, 0, 0, 0, 0, 0, 0, 0, 0⟩

theorem parse_truncated_iff_noFix :
    ∃ n written extra,
      serializeFrame noFix 0 1 1 (List.replicate 51 0) = .ok (some (n, written)) ∧
        crcExtra noFix.msgId = some extra ∧
        ∀ drop, Droppable (written.take n) drop →
          (parseFrame (truncateFrame (written.take n) extra drop) =
              .ok (⟨0, 1, 1, noFix⟩, (truncateFrame (written.take n) extra drop).length) ↔
            noFix.Survives drop) :=
  parse_truncated_iff noFix 0 1 1 (by decide)

/-- Sent without its zeros, it is lost. -/
theorem noFix_lost :
    ¬ ∀ (msg : HilMessage) (seq sysId compId : UInt8) (buf : Bytes),
      headerSize + msg.size + crcSize ≤ buf.length →
      ∀ n written extra, serializeFrame msg seq sysId compId buf = .ok (some (n, written)) →
        crcExtra msg.msgId = some extra → ∀ drop, Droppable (written.take n) drop →
          parseFrame (truncateFrame (written.take n) extra drop) =
            .ok (⟨seq, sysId, compId, msg⟩,
              (truncateFrame (written.take n) extra drop).length) := by
  intro hclaim
  obtain ⟨extra, hextra, hwrite⟩ : ∃ extra, crcExtra noFix.msgId = some extra ∧
      serializeFrame noFix 0 1 1 (List.replicate 51 0) = .ok (some (51, frameBytes hilGpsId 0 1 1
        extra (recordBytes noFix.fields) ++ (List.replicate 51 0).drop 51)) :=
    serializeFrame_eq noFix 0 1 1 (by decide)
  cases hextra
  have hdrop : Droppable ((frameBytes hilGpsId 0 1 1 124 (recordBytes noFix.fields) ++
      (List.replicate 51 0).drop 51).take 51) 36 := by
    unfold Droppable
    decide +kernel
  have hlost : parseFrame (truncateFrame ((frameBytes hilGpsId 0 1 1 124
      (recordBytes noFix.fields) ++ (List.replicate 51 0).drop 51).take 51) 124 36) =
        fail .invalidPayload := by
    decide +kernel
  have hok := hclaim noFix 0 1 1 _ (by decide) _ _ _ hwrite rfl 36 hdrop
  rw [hlost] at hok
  cases hok

end Aviate.Hil
