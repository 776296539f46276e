import Aviate.Hil.UdpTransport
import Mathlib.Data.List.Infix

/-!
# Resynchronisation of the UDP transport

After arbitrary input the UDP transport meets datagrams that each hold a sensor frame.

Results:
1. The decoder waits for what the first header announces, and no longer (`wireNext_short`,
   `wireNext_whole`); bytes before it do not matter (`decode_gap_append`).
2. Whatever bytes came before them, one of the datagrams is handled if no header that the decoder
   comes to inside a datagram reaches beyond it (`delivered_after`). A buffer that holds no start
   byte hands over the first one (`delivered_quiet`).
3. A transport whose buffer cannot hold the frame announced handles nothing any more
   (`stuck_run`); any other handles one of the next datagrams (`reassembly_resumes_iff`). A
   buffer full of bytes that start no frame is of the first kind (`full_buffer_wedges`).
-/

namespace Aviate.Hil

open Checked StreamDecoder

/-! ## What the first header announces -/

section Announced

variable {gap data more : Bytes} {b : UInt8} {rest : Bytes}

/-- The size of the header that begins with the first byte. -/
def headerLen (data : Bytes) : Nat :=
  if data.head? = some mavlinkStxV2 then headerSize else headerSizeV1

/-- The length of the frame that begins with the first byte, as far as its header is there. -/
def frameLen (data : Bytes) : Nat := announced (headerLen data) data

/-- The bytes begin with a start byte. -/
def Starts (data : Bytes) : Prop := data.head?.any isStart = true

/-- The bytes hold no start byte. -/
def Quiet (data : Bytes) : Prop := ∀ b ∈ data, isStart b = false

/-- Where the frame of the first start byte ends, as far as its header is there. -/
def announcedEnd (buf : Bytes) : Nat :=
  match buf.findIdx? isStart with
  | some p => p + frameLen (buf.drop p)
  | none => 0

/-- The verdict for a reading that ends at `n`. -/
def Reading.verdict (n : Nat) : Reading → Verdict WireEvent
  | parsed frame => .take n (some (.handled frame))
  | unknown _ => .take n none
  | mismatch => .take 1 (some .crcError)
  | invalid => .take 1 none

theorem starts_append (h : Starts data) (more : Bytes) : Starts (data ++ more) := by
  cases data with
  | nil => cases h
  | cons b rest => exact h

theorem frameLen_bounds (data : Bytes) : headerSizeV1 + crcSize ≤ frameLen data ∧
    frameLen data ≤ maxFrameSize := by
  have hbyte : data[1]?.elim 0 UInt8.toNat ≤ maxPayloadSize := by
    cases data[1]? with
    | none => exact Nat.zero_le _
    | some len => exact Nat.le_of_lt_succ len.toNat_lt
  unfold frameLen announced headerLen
  simp only [headerSize, headerSizeV1, crcSize, maxPayloadSize, maxFrameSize] at *
  split <;> omega

theorem frameLen_append (h : 2 ≤ data.length) (more : Bytes) :
    frameLen (data ++ more) = frameLen data := by
  cases data with
  | nil => exact absurd h (by decide)
  | cons b rest =>
    unfold frameLen announced headerLen
    rw [List.getElem?_append_left h]
    rfl

theorem starts_take {n : Nat} (h : Starts data) (hpos : 0 < n) : Starts (data.take n) := by
  obtain ⟨n, rfl⟩ := Nat.exists_eq_succ_of_ne_zero (Nat.ne_of_gt hpos)
  cases data with
  | nil => cases h
  | cons b rest => exact h

theorem frameLen_take {n : Nat} (h : 2 ≤ (data.take n).length) :
    frameLen (data.take n) = frameLen data := by
  have hwhole := frameLen_append h (data.drop n)
  rw [List.take_append_drop] at hwhole
  exact hwhole.symm

/-- Any bytes are quiet, or quiet up to a start byte. -/
theorem quiet_or_starts (buf : Bytes) :
    Quiet buf ∨ ∃ gap data, buf = gap ++ data ∧ Quiet gap ∧ Starts data := by
  induction buf with
  | nil => exact .inl nofun
  | cons b buf ih =>
    cases hb : isStart b with
    | true => exact .inr ⟨[], b :: buf, rfl, nofun, hb⟩
    | false =>
      rcases ih with hquiet | ⟨gap, data, rfl, hgap, hdata⟩
      · exact .inl (List.forall_mem_cons.mpr ⟨hb, hquiet⟩)
      · exact .inr ⟨b :: gap, data, rfl, List.forall_mem_cons.mpr ⟨hb, hgap⟩, hdata⟩

theorem findIdx?_start (hgap : Quiet gap) (hdata : Starts data) :
    (gap ++ data).findIdx? isStart = some gap.length := by
  have hnone : gap.findIdx? isStart = none := List.findIdx?_eq_none_iff.mpr hgap
  cases data with
  | nil => cases hdata
  | cons b rest =>
    have hb : isStart b = true := hdata
    rw [List.findIdx?_append, hnone, List.findIdx?_cons, hb]
    simp

theorem announcedEnd_eq (hgap : Quiet gap) (hdata : Starts data) :
    announcedEnd (gap ++ data) = gap.length + frameLen data := by
  unfold announcedEnd
  rw [findIdx?_start hgap hdata]
  simp only [List.drop_left]

/-- The parser reads from the first start byte, with the header of its version. -/
theorem parseFrame_start (hdata : Starts data) :
    ∃ seqAt, seqAt + 3 < headerLen data ∧ ∀ gap more, Quiet gap →
      parseFrame (gap ++ (data ++ more)) =
        parseFrameAt (headerLen data) seqAt (data ++ more) gap.length := by
  cases data with
  | nil => cases hdata
  | cons b rest =>
    have hparse (gap more : Bytes) (hgap : Quiet gap) :
        parseFrame (gap ++ (b :: rest ++ more)) =
          if b = mavlinkStxV2 then parseFrameV2 (b :: rest ++ more) gap.length
          else parseFrameV1 (b :: rest ++ more) gap.length := by
      rw [parseFrame, findIdx?_start hgap (starts_append hdata more)]
      simp only [List.drop_left]
      rfl
    by_cases hb : b = mavlinkStxV2
    · have hheader : headerLen (b :: rest) = headerSize := if_pos (congrArg some hb)
      refine ⟨4, by rw [hheader]; decide, fun gap more hgap => ?_⟩
      rw [hparse gap more hgap, if_pos hb, hheader]
      rfl
    · have hheader : headerLen (b :: rest) = headerSizeV1 :=
        if_neg fun hsame => hb (Option.some.inj hsame)
      refine ⟨2, by rw [hheader]; decide, fun gap more hgap => ?_⟩
      rw [hparse gap more hgap, if_neg hb, hheader]
      rfl

theorem one_lt_headerLen (data : Bytes) : 1 < headerLen data := by
  unfold headerLen
  split <;> decide

theorem parseFrame_short (hgap : Quiet gap) (hdata : Starts data)
    (h : data.length < frameLen data) : parseFrame (gap ++ data) = fail .incomplete := by
  obtain ⟨seqAt, hseq, hparse⟩ := parseFrame_start hdata
  have halone := hparse gap [] hgap
  rw [List.append_nil] at halone
  rw [halone]
  exact parseFrameAt_short (one_lt_headerLen data) hseq h gap.length

/-- What the parser makes of a whole frame depends on its bytes alone. -/
theorem parseFrame_whole (hdata : Starts data) (h : frameLen data ≤ data.length) :
    ∃ reading : Reading, ∀ gap more, Quiet gap →
      parseFrame (gap ++ (data ++ more)) = reading.result (gap.length + frameLen data) := by
  obtain ⟨seqAt, hseq, hparse⟩ := parseFrame_start hdata
  obtain ⟨reading, hreading⟩ := parseFrameAt_whole (one_lt_headerLen data) hseq h
  exact ⟨reading, fun gap more hgap => (hparse gap more hgap).trans (hreading gap.length more)⟩

theorem wireNext_of_result {buf : Bytes} {reading : Reading} {n : Nat}
    (h : parseFrame buf = reading.result n) : wireNext buf = reading.verdict n := by
  rw [wireNext, h]
  cases reading <;> rfl

theorem wireNext_quiet (h : Quiet gap) : wireNext gap = .wait := by
  have hnone : gap.findIdx? isStart = none := List.findIdx?_eq_none_iff.mpr h
  rw [wireNext, parseFrame, hnone]
  rfl

/-- The decoder waits for all that the first header announces. -/
theorem wireNext_short (hgap : Quiet gap) (hdata : Starts data)
    (h : data.length < frameLen data) : wireNext (gap ++ data) = .wait := by
  rw [wireNext, parseFrame_short hgap hdata h]
  rfl

/-- Nothing announced is left to come in what the decoder does not wait on. -/
theorem short_of_wait (hgap : Quiet gap) (hdata : Starts data)
    (h : wireNext (gap ++ data) = .wait) : data.length < frameLen data := by
  by_contra hwhole
  obtain ⟨reading, hreading⟩ := parseFrame_whole hdata (Nat.le_of_not_lt hwhole)
  have halone := wireNext_of_result (hreading gap [] hgap)
  rw [List.append_nil, h] at halone
  cases reading <;> cases halone

/-! ## Bytes before the first header -/

/-- What the decoder leaves over of a whole frame and what follows it. -/
theorem length_rest_le (hgap : Quiet gap) (hdata : Starts data)
    (h : frameLen data ≤ data.length) :
    (wireDecoder.decode (gap ++ data)).2.length ≤ data.length := by
  obtain ⟨reading, hreading⟩ := parseFrame_whole hdata h
  have hrest (n : Nat) : (wireDecoder.decode (data.drop n)).2.length ≤ data.length :=
    (decode_rest_suffix _).length_le.trans (List.drop_suffix n data).length_le
  induction gap with
  | nil =>
    cases hnext : wireDecoder.next ([] ++ data) with
    | wait =>
      rw [decode_of_wait hnext]
      exact Nat.le_refl _
    | take n event =>
      rw [decode_of_take hnext]
      exact hrest n
  | cons b gap ih =>
    have hquiet : Quiet gap := fun b hb => hgap b (List.mem_cons_of_mem _ hb)
    have hnext := wireNext_of_result (hreading (b :: gap) [] hgap)
    rw [List.append_nil] at hnext
    have hskip : (b :: gap ++ data).drop ((b :: gap).length + frameLen data) =
        data.drop (frameLen data) := by
      rw [← List.drop_drop, List.drop_left]
    cases reading with
    | parsed frame =>
      rw [decode_of_take hnext, hskip]
      exact hrest _
    | unknown msgId =>
      rw [decode_of_take hnext, hskip]
      exact hrest _
    | mismatch =>
      rw [decode_of_take hnext]
      exact ih hquiet
    | invalid =>
      rw [decode_of_take hnext]
      exact ih hquiet

end Announced

/-! ## Datagrams -/

/-- A datagram that begins with a whole frame of a sensor message. -/
structure SensorDatagram (d : Bytes) : Prop where
  starts : Starts d
  parses : ∃ frame n sensor, parseFrame d = .ok (frame, n) ∧ frame.message = .sensor sensor
  length_le : d.length ≤ maxFrameSize

/-- The parser consumes `n` bytes as a frame, read or of a message it does not decode. -/
def Consumes (buf : Bytes) (n : Nat) : Prop :=
  (∃ frame, parseFrame buf = .ok (frame, n)) ∨
    ∃ msgId, parseFrame buf = fail (.unknownMessage msgId n)

/-- Decoding these bytes, the decoder comes to a header at this end of them. -/
def Meets (whole data : Bytes) : Prop :=
  Starts data ∧ ∃ gap, Quiet gap ∧ wireDecoder.Stands whole (gap ++ data)

/-- No header that the decoder comes to among these bytes is consumed as a frame that reaches into
what follows them. -/
def Inside (whole t following : Bytes) : Prop :=
  ∀ q < t.length, Meets whole (t.drop q ++ following) →
    ∀ n, Consumes (t.drop q ++ following) n → q + n ≤ t.length

/-- Decoding the buffer with the datagrams, the decoder comes to no header behind the first byte of
a datagram that is consumed as a frame reaching beyond the datagram. -/
def InStep (rx : Bytes) (datagrams : List Bytes) : Prop :=
  ∀ before d after, datagrams = before ++ d :: after →
    Inside (rx ++ datagrams.flatten) (d.drop 1) after.flatten

/-- One of the datagrams' frames is among these. -/
def Delivered (datagrams : List Bytes) (frames : List MavFrame) : Prop :=
  ∃ d ∈ datagrams, ∃ frame n, parseFrame d = .ok (frame, n) ∧ frame ∈ frames

section Datagrams

variable {d t y whole : Bytes} {ds ds' front : List Bytes} {frames frames' : List MavFrame}

/-- The datagram's frame is whole. -/
theorem SensorDatagram.reading (h : SensorDatagram d) : frameLen d ≤ d.length ∧
    ∃ frame, parseFrame d = .ok (frame, frameLen d) ∧ ∀ gap more, Quiet gap →
      wireNext (gap ++ (d ++ more)) = .take (gap.length + frameLen d) (some (.handled frame)) := by
  obtain ⟨frame, n, sensor, hparse, -⟩ := h.parses
  have hquiet : Quiet [] := nofun
  have hwhole : frameLen d ≤ d.length := by
    by_contra hshort
    have hwait := parseFrame_short hquiet h.starts (Nat.lt_of_not_le hshort)
    rw [List.nil_append, hparse] at hwait
    cases hwait
  refine ⟨hwhole, ?_⟩
  obtain ⟨reading, hreading⟩ := parseFrame_whole h.starts hwhole
  have halone := hreading [] [] hquiet
  rw [List.nil_append, List.append_nil, hparse] at halone
  cases reading with
  | parsed frame' =>
    have hsame := Except.ok.inj halone
    rw [List.length_nil, Nat.zero_add] at hsame
    obtain ⟨rfl, rfl⟩ := Prod.mk.inj hsame
    exact ⟨frame, hparse, fun gap more hgap => wireNext_of_result (hreading gap more hgap)⟩
  | unknown msgId => cases halone
  | mismatch => cases halone
  | invalid => cases halone

theorem SensorDatagram.two_le (h : SensorDatagram d) : 2 ≤ d.length := by
  have hbounds := (frameLen_bounds d).1
  have hwhole := h.reading.1
  simp only [headerSizeV1, crcSize] at hbounds
  omega

/-- The datagram's frame is there when its length is. -/
theorem SensorDatagram.take {n : Nat} (h : SensorDatagram d) (hn : frameLen d ≤ n) :
    SensorDatagram (d.take n) ∧ parseFrame (d.take n) = parseFrame d := by
  have hbounds := (frameLen_bounds d).1
  simp only [headerSizeV1, crcSize] at hbounds
  have hwhole := h.reading.1
  have hlength : (d.take n).length = min n d.length := List.length_take
  have hstarts : Starts (d.take n) := starts_take h.starts (by omega)
  have hframe : frameLen (d.take n) = frameLen d := frameLen_take (by omega)
  obtain ⟨reading, hreading⟩ := parseFrame_whole hstarts (by omega)
  have hshort := hreading [] [] (List.forall_mem_nil _)
  have hlong := hreading [] (d.drop n) (List.forall_mem_nil _)
  rw [List.take_append_drop] at hlong
  rw [List.append_nil] at hshort
  have hsame : parseFrame (d.take n) = parseFrame d := hshort.trans hlong.symm
  refine ⟨⟨hstarts, ?_, ?_⟩, hsame⟩
  · rw [hsame]
    exact h.parses
  · exact hlength.le.trans ((Nat.min_le_right ..).trans h.length_le)

theorem Delivered.mono (h : Delivered ds frames) (hds : ds ⊆ ds') (hframes : frames ⊆ frames') :
    Delivered ds' frames' := by
  obtain ⟨d, hd, frame, n, hparse, hmem⟩ := h
  exact ⟨d, hds hd, frame, n, hparse, hframes hmem⟩

/-- What is delivered from where the decoder stands is delivered. -/
theorem Delivered.of_stands (hstands : wireDecoder.Stands whole t)
    (h : Delivered ds (framesOf t)) : Delivered ds (framesOf whole) :=
  h.mono (List.Subset.refl ds) (hstands.decode_suffix.filterMap _).subset

/-- A datagram at the front, or behind quiet bytes, is delivered. -/
theorem delivered_front {gap : Bytes} (hgap : Quiet gap) (hd : SensorDatagram d) :
    Delivered (d :: ds) (framesOf (gap ++ (d :: ds).flatten)) := by
  obtain ⟨-, frame, hparse, hnext⟩ := hd.reading
  refine ⟨d, List.mem_cons_self, frame, _, hparse, ?_⟩
  have hdecode := decode_of_event (d := wireDecoder) (hnext gap ds.flatten hgap)
  rw [List.flatten_cons, framesOf, hdecode]
  exact List.mem_cons_self

theorem Inside.drop {following : Bytes} (h : Inside whole t following) (k : Nat) :
    Inside whole (t.drop k) following := by
  intro q hq hmeets n hconsumes
  rw [List.length_drop] at hq ⊢
  rw [List.drop_drop] at hmeets hconsumes
  have hle := h (k + q) (by omega) hmeets n hconsumes
  omega

/-- From inside a datagram the next one is found. -/
theorem delivered_inside (hds : ∀ d ∈ ds, SensorDatagram d)
    (hinside : Inside whole t ds.flatten) (hlong : maxFrameSize ≤ ds.flatten.length)
    (hstands : wireDecoder.Stands whole (t ++ ds.flatten)) : Delivered ds (framesOf whole) := by
  induction hk : t.length using Nat.strongRecOn generalizing t with
  | ind k ih =>
    -- After `n` of the bytes inside, at least one of them.
    have hrest {n : Nat} {event : Option WireEvent} (hpos : 0 < n) (hle : n ≤ t.length)
        (hnext : wireNext (t ++ ds.flatten) = .take n event) :
        Delivered ds (framesOf whole) := by
      refine ih _ ?_ (hinside.drop n) ?_ rfl
      · rw [List.length_drop]
        omega
      · rw [← List.drop_append_of_le_length hle]
        exact hstands.trans (.take hnext (.here _))
    rcases quiet_or_starts t with hquiet | ⟨gap, data, rfl, hgap, hdata⟩
    · cases ds with
      | nil => exact absurd hlong (by decide)
      | cons d ds => exact .of_stands hstands (delivered_front hquiet (hds d List.mem_cons_self))
    · have hsize := frameLen_bounds (data ++ ds.flatten)
      have hwhole : frameLen (data ++ ds.flatten) ≤ (data ++ ds.flatten).length := by
        rw [List.length_append]
        omega
      have hstarts : Starts (data ++ ds.flatten) := starts_append hdata _
      obtain ⟨reading, hreading⟩ := parseFrame_whole hstarts hwhole
      have hdatapos : 0 < data.length := by
        cases data with
        | nil => cases hdata
        | cons b rest => exact Nat.succ_pos _
      have hnext := wireNext_of_result (hreading gap [] hgap)
      rw [List.append_nil, ← List.append_assoc] at hnext
      have halone := hreading [] [] nofun
      rw [List.nil_append, List.append_nil, List.length_nil, Nat.zero_add] at halone
      have hdrop : (gap ++ data).drop gap.length = data := List.drop_left
      have hlength : (gap ++ data).length = gap.length + data.length := List.length_append
      rw [List.append_assoc] at hstands
      have hreach (hconsumes : Consumes (data ++ ds.flatten) (frameLen (data ++ ds.flatten))) :
          gap.length + frameLen (data ++ ds.flatten) ≤ (gap ++ data).length := by
        refine hinside gap.length (by omega) ?_ _ ?_
        · rw [hdrop]
          exact ⟨hstarts, gap, hgap, hstands⟩
        · rw [hdrop]
          exact hconsumes
      have hone : 1 ≤ (gap ++ data).length := by omega
      have hposEnd : 0 < gap.length + frameLen (data ++ ds.flatten) := by
        simp only [headerSizeV1, crcSize] at hsize
        omega
      cases reading with
      | parsed frame => exact hrest hposEnd (hreach (.inl ⟨frame, halone⟩)) hnext
      | unknown msgId => exact hrest hposEnd (hreach (.inr ⟨msgId, halone⟩)) hnext
      | mismatch => exact hrest Nat.one_pos hone hnext
      | invalid => exact hrest Nat.one_pos hone hnext

/-- A position behind the front of the datagrams is in one of them, or at its end. -/
theorem drop_flatten {k : Nat} (hpos : 0 < k) (hle : k ≤ ds.flatten.length) :
    ∃ before d after q, ds = before ++ d :: after ∧ 0 < q ∧ q ≤ d.length ∧
      ds.flatten.drop k = d.drop q ++ after.flatten ∧ k = before.flatten.length + q := by
  induction ds generalizing k with
  | nil => exact absurd hle (Nat.not_le.mpr hpos)
  | cons d ds ih =>
    rw [List.flatten_cons] at hle ⊢
    by_cases hin : k ≤ d.length
    · exact ⟨[], d, ds, k, rfl, hpos, hin, List.drop_append_of_le_length hin, (Nat.zero_add k).symm⟩
    · rw [List.length_append] at hle
      obtain ⟨before, d', after, q, rfl, hq, hqle, hdrop, hk⟩ :=
        @ih (k - d.length) (by omega) (by omega)
      refine ⟨d :: before, d', after, q, rfl, hq, hqle, ?_, ?_⟩
      · rw [← hdrop, List.drop_append, List.drop_eq_nil_of_le (Nat.le_of_not_le hin),
          List.nil_append]
      · rw [List.flatten_cons, List.length_append]
        omega

/-- After any bytes, one of the datagrams is delivered if there are enough. -/
theorem delivered_after {rx : Bytes} (hds : ∀ d ∈ ds, SensorDatagram d)
    (hstep : InStep rx (front ++ ds)) (hlong : 3 * maxFrameSize ≤ ds.flatten.length)
    (hstands : wireDecoder.Stands (rx ++ (front ++ ds).flatten) (y ++ ds.flatten)) :
    Delivered ds (framesOf (rx ++ (front ++ ds).flatten)) := by
  induction hk : y.length using Nat.strongRecOn generalizing y with
  | ind k ih =>
    rcases quiet_or_starts y with hquiet | ⟨gap, data, rfl, hgap, hdata⟩
    · cases ds with
      | nil => exact absurd hlong (by decide)
      | cons d ds => exact .of_stands hstands (delivered_front hquiet (hds d List.mem_cons_self))
    · have hsize := frameLen_bounds (data ++ ds.flatten)
      have hwhole : frameLen (data ++ ds.flatten) ≤ (data ++ ds.flatten).length := by
        rw [List.length_append]
        omega
      obtain ⟨reading, hreading⟩ := parseFrame_whole (starts_append hdata _) hwhole
      have hnext := wireNext_of_result (hreading gap [] hgap)
      rw [List.append_nil, ← List.append_assoc] at hnext
      have hbounds : ∃ n event, wireNext (gap ++ data ++ ds.flatten) = .take n event ∧ 0 < n ∧
          n ≤ (gap ++ data).length + maxFrameSize := by
        have hlength : (gap ++ data).length = gap.length + data.length := List.length_append
        simp only [headerSizeV1, crcSize] at hsize
        have hone : 1 ≤ (gap ++ data).length + maxFrameSize := by
          simp only [maxFrameSize, headerSize]
          omega
        cases reading with
        | parsed frame => exact ⟨_, _, hnext, by omega, by omega⟩
        | unknown msgId => exact ⟨_, _, hnext, by omega, by omega⟩
        | mismatch => exact ⟨_, _, hnext, Nat.one_pos, hone⟩
        | invalid => exact ⟨_, _, hnext, Nat.one_pos, hone⟩
      obtain ⟨n, event, hnext, hpos, hle⟩ := hbounds
      have hlater := hstands.trans (.take hnext (.here _))
      by_cases hin : n ≤ (gap ++ data).length
      · rw [List.drop_append_of_le_length hin] at hlater
        refine ih _ ?_ hlater rfl
        rw [List.length_drop]
        omega
      · -- The frame reaches into a datagram.
        rw [List.drop_append, List.drop_eq_nil_of_le (Nat.le_of_not_le hin), List.nil_append]
          at hlater
        have hbeyond : n - (gap ++ data).length ≤ maxFrameSize := by omega
        obtain ⟨before, d, after, q, rfl, hq, hqle, hdrop, hn⟩ :=
          @drop_flatten ds (n - (gap ++ data).length) (by omega) (by omega)
        have hinside := (hstep (front ++ before) d after (List.append_assoc ..).symm).drop (q - 1)
        rw [List.drop_drop, Nat.add_sub_cancel' hq] at hinside
        have hafter : maxFrameSize ≤ after.flatten.length := by
          have hdle := (hds d (by simp)).length_le
          have htotal : (before ++ d :: after).flatten.length =
              before.flatten.length + d.length + after.flatten.length := by
            rw [List.flatten_append, List.flatten_cons, List.length_append, List.length_append,
              Nat.add_assoc]
          omega
        rw [hdrop] at hlater
        have hbehind : after ⊆ before ++ d :: after := fun e he =>
          List.mem_append_right _ (List.mem_cons_of_mem _ he)
        exact (delivered_inside (fun e he => hds e (hbehind he)) hinside hafter hlater).mono
          hbehind (List.Subset.refl _)

/-- What comes after the datagrams does not matter. -/
theorem InStep.prefix {rx : Bytes} (h : InStep rx (ds ++ ds')) : InStep rx ds := by
  intro before d after hds q hq hmeets n hconsumes
  have hsplit : ds ++ ds' = before ++ d :: (after ++ ds') := by
    rw [hds, List.append_assoc, List.cons_append]
  have hlonger : (d.drop 1).drop q ++ (after ++ ds').flatten =
      (d.drop 1).drop q ++ after.flatten ++ ds'.flatten := by
    rw [List.flatten_append, List.append_assoc]
  refine h before d (after ++ ds') hsplit q hq ?_ n ?_
  · obtain ⟨hstarts, gap, hgap, hstands⟩ := hmeets
    have hmore := hstands.append ds'.flatten
    rw [List.append_assoc, ← List.flatten_append, List.append_assoc, ← hlonger] at hmore
    rw [hlonger] at hmore ⊢
    exact ⟨starts_append hstarts _, gap, hgap, hmore⟩
  · rw [hlonger]
    rcases parseFrame_cases ((d.drop 1).drop q ++ after.flatten) with hwait | ⟨-, -, -, -, hstable⟩
    · rcases hconsumes with ⟨frame, hparse⟩ | ⟨msgId, hparse⟩
      all_goals
        rw [hwait] at hparse
        cases hparse
    · unfold Consumes
      rw [hstable]
      exact hconsumes

/-- Datagrams without a second start byte. -/
theorem inStep_of_quiet {rx : Bytes} (h : ∀ d ∈ ds, Quiet (d.drop 1)) : InStep rx ds := by
  intro before d after hds q hq hmeets
  have hb : (d.drop 1)[q] ∈ d.drop 1 := List.getElem_mem hq
  have hquiet := h d (by rw [hds]; simp) _ hb
  have hstarts := hmeets.1
  rw [List.drop_eq_getElem_cons hq] at hstarts
  have hstart : isStart (d.drop 1)[q] = true := hstarts
  exact absurd hstart (by rw [hquiet]; exact Bool.false_ne_true)

end Datagrams

/-! ## The buffer -/

/-- The frame announced by the first header in the buffer and the datagram ends inside the
buffer. -/
def Fits (rx d : Bytes) : Prop := announcedEnd (rx ++ d) ≤ rxBufSize

instance (rx d : Bytes) : Decidable (Fits rx d) := inferInstanceAs (Decidable (_ ≤ _))

section Buffer

variable {rx d d' : Bytes}

/-- The first header before a datagram's end. -/
theorem split_first (rx : Bytes) (hd : SensorDatagram d) :
    ∃ gap data, rx ++ d = gap ++ data ∧ Quiet gap ∧ Starts data ∧ 2 ≤ data.length ∧
      gap.length ≤ rx.length ∧ (wireNext rx = .wait → data.length ≤ 2 * maxFrameSize) := by
  have htwo := hd.two_le
  have hsize := hd.length_le
  rcases quiet_or_starts rx with hquiet | ⟨gap, data, rfl, hgap, hdata⟩
  · exact ⟨rx, d, rfl, hquiet, hd.starts, htwo, Nat.le_refl _, fun _ => by omega⟩
  · refine ⟨gap, data ++ d, List.append_assoc .., hgap, starts_append hdata d, ?_, ?_, ?_⟩
    · rw [List.length_append]
      omega
    · rw [List.length_append]
      exact Nat.le_add_right ..
    · intro hwait
      have hshort := short_of_wait hgap hdata hwait
      have hbounds := (frameLen_bounds data).2
      rw [List.length_append]
      omega

theorem filled_eq_take (h : rx.length ≤ rxBufSize) : filled rx d = (rx ++ d).take rxBufSize := by
  rw [filled, List.take_append, List.take_of_length_le h]

/-- A datagram that announces too much leaves a buffer that waits, and to which every other
datagram announces too much. -/
theorem stuck_step (hrx : rx.length ≤ rxBufSize) (hd : SensorDatagram d) (hstuck : ¬ Fits rx d) :
    wireNext (filled rx d) = .wait ∧ ∀ d', SensorDatagram d' → ¬ Fits (filled rx d) d' := by
  obtain ⟨gap, data, hsplit, hgap, hdata, htwo, hle, -⟩ := split_first rx hd
  unfold Fits at hstuck
  rw [hsplit, announcedEnd_eq hgap hdata] at hstuck
  have hgaple : gap.length ≤ rxBufSize := hle.trans hrx
  have hfilled : filled rx d = gap ++ data.take (rxBufSize - gap.length) := by
    rw [filled_eq_take hrx, hsplit, List.take_append, List.take_of_length_le hgaple]
  have htake : (data.take (rxBufSize - gap.length)).length = min (rxBufSize - gap.length)
      data.length := List.length_take
  rw [hfilled]
  rcases Nat.eq_zero_or_pos (rxBufSize - gap.length) with hfull | hroom
  · rw [hfull, List.take_zero, List.append_nil]
    refine ⟨wireNext_quiet hgap, fun d' hd' hfits => ?_⟩
    have hbounds := (frameLen_bounds d').1
    unfold Fits at hfits
    rw [announcedEnd_eq hgap hd'.starts] at hfits
    simp only [headerSizeV1, crcSize] at hbounds
    omega
  · have hstarts := starts_take hdata hroom
    -- The length byte is there, or it would lie beyond the buffer.
    have hlen : ∀ more,
        rxBufSize < gap.length + frameLen (data.take (rxBufSize - gap.length) ++ more) := by
      intro more
      by_cases hone : 2 ≤ (data.take (rxBufSize - gap.length)).length
      · rw [frameLen_append hone, frameLen_take hone]
        omega
      · have hbounds :=
          (frameLen_bounds (data.take (rxBufSize - gap.length) ++ more)).1
        simp only [headerSizeV1, crcSize] at hbounds
        omega
    refine ⟨wireNext_short hgap hstarts ?_, fun d' hd' hfits => ?_⟩
    · have hnow := hlen []
      rw [List.append_nil] at hnow
      omega
    · unfold Fits at hfits
      rw [List.append_assoc, announcedEnd_eq hgap (starts_append hstarts d')] at hfits
      exact absurd hfits (Nat.not_le.mpr (hlen d'))

/-- A datagram before which the decoder waits is waited on with the buffer, and announces the same,
or it leaves little in the buffer. -/
theorem fits_step (hrx : rx.length ≤ rxBufSize) (hwait : wireNext rx = .wait)
    (hd : SensorDatagram d) (hfits : Fits rx d) :
    ((wireDecoder.decode (filled rx d)).2 = rx ++ d ∧ (rx ++ d).length ≤ rxBufSize ∧
        ∀ d', Fits (rx ++ d) d') ∨
      (wireDecoder.decode (filled rx d)).2.length ≤ 2 * maxFrameSize := by
  obtain ⟨gap, data, hsplit, hgap, hdata, htwo, hle, hsmall⟩ := split_first rx hd
  unfold Fits at hfits
  rw [hsplit, announcedEnd_eq hgap hdata] at hfits
  have hgaple : gap.length ≤ rxBufSize := hle.trans hrx
  have hfilled : filled rx d = gap ++ data.take (rxBufSize - gap.length) := by
    rw [filled_eq_take hrx, hsplit, List.take_append, List.take_of_length_le hgaple]
  rcases Nat.lt_or_ge data.length (frameLen data) with hshort | hwhole
  · left
    have hall : data.take (rxBufSize - gap.length) = data := List.take_of_length_le (by omega)
    rw [hfilled, hall, hsplit]
    refine ⟨?_, ?_, fun d' => ?_⟩
    · rw [decode_of_wait (wireNext_short hgap hdata hshort)]
    · rw [List.length_append]
      omega
    · unfold Fits
      rw [List.append_assoc, announcedEnd_eq hgap (starts_append hdata d'), frameLen_append htwo]
      exact hfits
  · right
    have hbounds := (frameLen_bounds data).1
    simp only [headerSizeV1, crcSize] at hbounds
    have htake : (data.take (rxBufSize - gap.length)).length = min (rxBufSize - gap.length)
        data.length := List.length_take
    have hstarts : Starts (data.take (rxBufSize - gap.length)) := starts_take hdata (by omega)
    have hsame := @frameLen_take data (rxBufSize - gap.length) (by omega)
    have hrest := length_rest_le hgap hstarts (by omega)
    rw [hfilled]
    exact hrest.trans ((htake.le.trans (Nat.min_le_right ..)).trans (hsmall hwait))

end Buffer

/-! ## Runs -/

/-- The datagrams arrive one after the other. -/
def received (ds : List Bytes) : List UdpOp := ds.map UdpOp.receive

/-- The frames handled while they do. -/
def handledOf (t : HilTransport) (ds : List Bytes) : List MavFrame :=
  (HilTransport.machine.outputs t (received ds)).flatten

/-- What there is room for of each datagram. -/
def taken (t : HilTransport) : List Bytes → List Bytes
  | [] => []
  | d :: ds =>
    d.take (rxBufSize - t.rx.length) :: taken (HilTransport.machine.step t (.receive d)).1 ds

section Runs

open HilTransport

variable {t : HilTransport} {d : Bytes} {ds later : List Bytes}

/-- One datagram. -/
theorem step_receive (t : HilTransport) (hd : d.length ≤ maxFrameSize) :
    (machine.step t (.receive d)).2 = framesOf (filled t.rx d) ∧
      (machine.step t (.receive d)).1.rx = (wireDecoder.decode (filled t.rx d)).2 := by
  have hwhole : d.take maxFrameSize = d := List.take_of_length_le hd
  have hspec := processData_spec t d
  rw [← hwhole] at hspec
  rw [hwhole] at hspec
  simp only [machine, receive, hwhole]
  exact hspec

theorem handledOf_cons (t : HilTransport) (hd : d.length ≤ maxFrameSize) (ds : List Bytes) :
    handledOf t (d :: ds) =
      framesOf (filled t.rx d) ++ handledOf (machine.step t (.receive d)).1 ds := by
  rw [← (step_receive t hd).1]
  rfl

theorem handledOf_append (t : HilTransport) (ds later : List Bytes) :
    handledOf t (ds ++ later) =
      handledOf t ds ++ handledOf (machine.run t (received ds)) later := by
  unfold handledOf received
  rw [List.map_append, Machine.outputs_append, List.flatten_append]

theorem taken_append (t : HilTransport) (ds later : List Bytes) :
    taken t (ds ++ later) = taken t ds ++ taken (machine.run t (received ds)) later := by
  induction ds generalizing t with
  | nil => rfl
  | cons d ds ih => exact congrArg (_ :: ·) (ih _)

/-- Datagrams that all fit are taken whole. -/
theorem taken_of_room (hds : ∀ d ∈ ds, d.length ≤ maxFrameSize)
    (hroom : t.rx.length + ds.flatten.length ≤ rxBufSize) : taken t ds = ds := by
  induction ds generalizing t with
  | nil => rfl
  | cons d ds ih =>
    have hd := hds d List.mem_cons_self
    rw [List.flatten_cons, List.length_append] at hroom
    have hwhole : d.take (rxBufSize - t.rx.length) = d := List.take_of_length_le (by omega)
    have hrest : (machine.step t (.receive d)).1.rx.length ≤ t.rx.length + d.length := by
      have hsuffix := (decode_rest_suffix (d := wireDecoder) (t.rx ++ d)).length_le
      rw [(step_receive t hd).2, filled, hwhole]
      rwa [List.length_append] at hsuffix
    rw [taken, hwhole, ih (fun e he => hds e (List.mem_cons_of_mem _ he)) (by omega)]

theorem prefix_of_mem_taken {c : Bytes} (hc : c ∈ taken t ds) : ∃ d ∈ ds, c <+: d := by
  induction ds generalizing t with
  | nil => cases hc
  | cons d ds ih =>
    rcases List.mem_cons.mp hc with rfl | hlater
    · exact ⟨d, List.mem_cons_self, List.take_prefix ..⟩
    · obtain ⟨e, he, hbegins⟩ := ih hlater
      exact ⟨e, List.mem_cons_of_mem d he, hbegins⟩

/-- Datagrams without a second start byte, however much of them is taken. -/
theorem inStep_taken {rx : Bytes} (h : ∀ d ∈ ds, Quiet (d.drop 1)) : InStep rx (taken t ds) := by
  refine inStep_of_quiet fun c hc b hb => ?_
  obtain ⟨d, hd, hbegins⟩ := prefix_of_mem_taken hc
  exact h d hd b ((hbegins.drop 1).subset hb)

/-- The transport decodes its buffer and what it takes of the datagrams as one stream, and comes to
stand before the buffer it ends with. -/
theorem decoded_run (h : t.Waiting) (hds : ∀ d ∈ ds, d.length ≤ maxFrameSize) :
    handledOf t ds = framesOf (t.rx ++ (taken t ds).flatten) ∧
      wireDecoder.Stands (t.rx ++ (taken t ds).flatten) (machine.run t (received ds)).rx := by
  induction ds generalizing t with
  | nil =>
    have hnone : wireDecoder.decode t.rx = ([], t.rx) := decode_of_wait h.next
    rw [taken, List.flatten_nil, List.append_nil, framesOf, hnone]
    exact ⟨rfl, .here _⟩
  | cons d ds ih =>
    have hd := hds d List.mem_cons_self
    obtain ⟨hhandled, hstands⟩ :=
      ih (h.step (.receive d)) (fun e he => hds e (List.mem_cons_of_mem _ he))
    obtain ⟨-, hrx⟩ := step_receive t hd
    rw [hrx] at hhandled hstands
    have hstream : t.rx ++ (taken t (d :: ds)).flatten =
        filled t.rx d ++ (taken (machine.step t (.receive d)).1 ds).flatten := by
      rw [taken, List.flatten_cons, filled, List.append_assoc]
    rw [hstream]
    constructor
    · rw [handledOf_cons t hd, hhandled, framesOf, framesOf, framesOf,
        decode_append (filled t.rx d), List.filterMap_append]
    · exact ((stands_rest (filled t.rx d)).append _).trans hstands

/-- A buffer without a start byte hands over the next datagram if its frame fits. -/
theorem delivered_quiet (hquiet : Quiet t.rx) (hd : SensorDatagram d) (hfits : Fits t.rx d) :
    Delivered (d :: ds) (handledOf t (d :: ds)) := by
  unfold Fits at hfits
  rw [announcedEnd_eq hquiet hd.starts] at hfits
  obtain ⟨htaken, hsame⟩ := hd.take (n := rxBufSize - t.rx.length) (by omega)
  have hfront : Delivered [d.take (rxBufSize - t.rx.length)]
      (framesOf (t.rx ++ [d.take (rxBufSize - t.rx.length)].flatten)) :=
    delivered_front hquiet htaken
  obtain ⟨_, hmem, frame, n, hparse, hframe⟩ := hfront
  rw [List.mem_singleton.mp hmem, hsame] at hparse
  rw [List.flatten_singleton] at hframe
  refine ⟨d, List.mem_cons_self, frame, n, hparse, ?_⟩
  rw [handledOf_cons t hd.length_le]
  exact List.mem_append_left _ hframe

/-- A transport that cannot hold the frame announced handles no datagram any more. -/
theorem stuck_run (h : t.Waiting) (hds : ∀ e ∈ d :: ds, SensorDatagram e)
    (hstuck : ¬ Fits t.rx d) : handledOf t (d :: ds) = [] := by
  induction ds generalizing t d with
  | nil =>
    have hd := hds d List.mem_cons_self
    obtain ⟨hwait, -⟩ := stuck_step h.length_le hd hstuck
    have hdecode : wireDecoder.decode (filled t.rx d) = ([], filled t.rx d) := decode_of_wait hwait
    rw [handledOf_cons t hd.length_le, framesOf, hdecode]
    rfl
  | cons d' ds ih =>
    have hd := hds d List.mem_cons_self
    obtain ⟨hwait, hnext⟩ := stuck_step h.length_le hd hstuck
    have hdecode : wireDecoder.decode (filled t.rx d) = ([], filled t.rx d) := decode_of_wait hwait
    obtain ⟨-, hrx⟩ := step_receive t hd.length_le
    rw [hdecode] at hrx
    have hrest : ∀ e ∈ d' :: ds, SensorDatagram e := fun e he => hds e (List.mem_cons_of_mem _ he)
    have hstuck' := hnext d' (hrest d' List.mem_cons_self)
    rw [← show (machine.step t (.receive d)).1.rx = filled t.rx d from hrx] at hstuck'
    rw [handledOf_cons t hd.length_le, framesOf, hdecode, ih (h.step _) hrest hstuck']
    rfl

/-- The frame announced completes, and little is left in the buffer. -/
theorem settles (h : t.Waiting) (hds : ∀ d ∈ ds, SensorDatagram d)
    (hfits : ∀ d, ds.head? = some d → Fits t.rx d) (hlong : rxBufSize < ds.length + t.rx.length) :
    ∃ before after, ds = before ++ after ∧ before.length ≤ rxBufSize + 1 - t.rx.length ∧
      (machine.run t (received before)).rx.length ≤ 2 * maxFrameSize := by
  induction ds generalizing t with
  | nil =>
    have hle := h.length_le
    rw [List.length_nil, Nat.zero_add] at hlong
    exact absurd hle (Nat.not_le.mpr hlong)
  | cons d ds ih =>
    have hd := hds d List.mem_cons_self
    have htwo := hd.two_le
    obtain ⟨-, hrx⟩ := step_receive t hd.length_le
    rw [List.length_cons] at hlong
    rcases fits_step h.length_le h.next hd (hfits d rfl) with ⟨hrest, hroom, hnext⟩ | hsmall
    · rw [hrest] at hrx
      rw [List.length_append] at hroom
      have hgrown : (machine.step t (.receive d)).1.rx.length = t.rx.length + d.length := by
        rw [hrx, List.length_append]
      obtain ⟨before, after, hsplit, hlength, hlast⟩ :=
        ih (h.step (.receive d)) (fun e he => hds e (List.mem_cons_of_mem _ he))
          (fun e _ => hrx ▸ hnext e) (by omega)
      refine ⟨d :: before, after, congrArg (d :: ·) hsplit, ?_, hlast⟩
      rw [List.length_cons]
      omega
    · have hle := h.length_le
      refine ⟨[d], ds, rfl, ?_, ?_⟩
      · rw [List.length_singleton]
        omega
      · show (machine.step t (.receive d)).1.rx.length ≤ _
        rw [hrx]
        exact hsmall

/-- Datagrams enough for a number of bytes, and not many more bytes. -/
theorem exists_stretch (hds : ∀ d ∈ ds, 1 ≤ d.length ∧ d.length ≤ maxFrameSize) (n : Nat)
    (hlong : n ≤ ds.length) :
    ∃ before after, ds = before ++ after ∧ n ≤ before.flatten.length ∧
      before.flatten.length ≤ n + maxFrameSize := by
  induction ds generalizing n with
  | nil => exact ⟨[], [], rfl, hlong, Nat.zero_le _⟩
  | cons d ds ih =>
    obtain ⟨hone, hsize⟩ := hds d List.mem_cons_self
    rw [List.length_cons] at hlong
    rcases Nat.le_total n d.length with hdone | hmore
    · refine ⟨[d], ds, rfl, ?_, ?_⟩
      · rw [List.flatten_singleton]
        exact hdone
      · rw [List.flatten_singleton]
        omega
    · obtain ⟨before, after, hsplit, hle, hbound⟩ :=
        ih (fun e he => hds e (List.mem_cons_of_mem _ he)) (n - d.length) (by omega)
      refine ⟨d :: before, after, congrArg (d :: ·) hsplit, ?_, ?_⟩
      · rw [List.flatten_cons, List.length_append]
        omega
      · rw [List.flatten_cons, List.length_append]
        omega

/-- Enough datagrams for the buffer to be filled twice. -/
def resumeWithin : Nat := 2 * rxBufSize

/-- A transport that can hold the frame announced handles one of the datagrams. -/
theorem delivered_run (h : t.Waiting) (hds : ∀ d ∈ ds, SensorDatagram d)
    (hstep : InStep t.rx (taken t ds)) (hlong : resumeWithin ≤ ds.length)
    (hfits : ∀ d, ds.head? = some d → Fits t.rx d) : Delivered ds (handledOf t ds) := by
  unfold resumeWithin at hlong
  obtain ⟨before, after, rfl, hlength, hsmall⟩ := settles h hds hfits (by
    simp only [rxBufSize] at *
    omega)
  have hafter : ∀ d ∈ after, SensorDatagram d := fun d hd => hds d (List.mem_append_right _ hd)
  obtain ⟨stretch, rest, rfl, henough, hbound⟩ := exists_stretch
    (fun d hd => ⟨(Nat.le_succ 1).trans (hafter d hd).two_le, (hafter d hd).length_le⟩)
    (3 * maxFrameSize) (by
      rw [List.length_append] at hlong
      simp only [rxBufSize, maxFrameSize, headerSize, maxPayloadSize, crcSize] at *
      omega)
  have hstretch : ∀ d ∈ stretch, SensorDatagram d := fun d hd =>
    hafter d (List.mem_append_left _ hd)
  -- The datagrams of the stretch are taken whole.
  have hwhole : taken (machine.run t (received before)) stretch = stretch :=
    taken_of_room (fun d hd => (hstretch d hd).length_le) (by
      simp only [rxBufSize, maxFrameSize, headerSize, maxPayloadSize, crcSize] at *
      omega)
  have htaken : taken t (before ++ stretch) = taken t before ++ stretch := by
    rw [taken_append, hwhole]
  have hfirst : ∀ d ∈ before ++ stretch, d.length ≤ maxFrameSize := fun d hd => by
    rcases List.mem_append.mp hd with hd | hd
    · exact (hds d (List.mem_append_left _ hd)).length_le
    · exact (hstretch d hd).length_le
  obtain ⟨-, hstands⟩ := decoded_run h fun d hd => hfirst d (List.mem_append_left _ hd)
  obtain ⟨hhandled, -⟩ := decoded_run h hfirst
  have hdelivered : Delivered stretch (handledOf t (before ++ stretch)) := by
    rw [← List.append_assoc, taken_append, htaken] at hstep
    rw [hhandled, htaken]
    refine delivered_after hstretch hstep.prefix henough
      (y := (machine.run t (received before)).rx) ?_
    rw [List.flatten_append, ← List.append_assoc]
    exact hstands.append stretch.flatten
  rw [← List.append_assoc, handledOf_append]
  refine hdelivered.mono ?_ (List.subset_append_left ..)
  intro d hd
  exact List.mem_append_left _ (List.mem_append_right _ hd)

/-- After any operations, the transport handles one of the next datagrams exactly when the first
header it then knows of announces a frame that ends inside its buffer. When the buffer holds a
start byte, this supposes that the decoder comes to no header inside one of these datagrams that is
consumed as a frame reaching beyond it. -/
theorem reassembly_resumes_iff {history : List UdpOp} (hds : ∀ d ∈ ds, SensorDatagram d)
    (hstep : ¬ Quiet (machine.run .new history).rx →
      InStep (machine.run .new history).rx
        (taken (machine.run .new history) (ds.take resumeWithin)))
    (hlong : resumeWithin ≤ ds.length) :
    Delivered (ds.take resumeWithin)
        (handledOf (machine.run .new history) (ds.take resumeWithin)) ↔
      ∀ d, ds.head? = some d → Fits (machine.run .new history).rx d := by
  have hwaiting := waiting_run history
  have hfirst : ∀ d ∈ ds.take resumeWithin, SensorDatagram d := fun d hd =>
    hds d (List.mem_of_mem_take hd)
  have hhead : (ds.take resumeWithin).head? = ds.head? := by
    rw [List.head?_take, if_neg (by decide)]
  have hlength : resumeWithin ≤ (ds.take resumeWithin).length := by
    rw [List.length_take]
    omega
  constructor
  · intro hdelivered d hd
    by_contra hstuck
    obtain ⟨later, hsplit⟩ := List.head?_eq_some_iff.mp (hhead.trans hd)
    rw [hsplit] at hdelivered hfirst
    obtain ⟨_, _, _, _, _, hmem⟩ := hdelivered
    rw [stuck_run hwaiting hfirst hstuck] at hmem
    cases hmem
  · intro hfits
    rw [← hhead] at hfits
    by_cases hquiet : Quiet (machine.run .new history).rx
    · cases hdatagrams : ds.take resumeWithin with
      | nil =>
        rw [hdatagrams] at hlength
        exact absurd hlength (by decide)
      | cons d later =>
        rw [hdatagrams] at hfirst hfits
        exact delivered_quiet hquiet (hfirst d List.mem_cons_self) (hfits d rfl)
    · exact delivered_run hwaiting hfirst (hstep hquiet) hlength hfits

end Runs

/-! ## Examples -/

/-- A sensor frame whose payload is cut to its first byte. -/
def sensorFrame : Bytes := [0xFD, 1, 0, 0, 0, 1, 1, 107, 0, 0, 1, 169, 104]

def sensorReading : HilSensor :=
  { timeUsec := 1, xacc := ⟨0⟩, yacc := ⟨0⟩, zacc := ⟨0⟩, xgyro := ⟨0⟩, ygyro := ⟨0⟩, zgyro := ⟨0⟩
    xmag := ⟨0⟩, ymag := ⟨0⟩, zmag := ⟨0⟩, absPressure := ⟨0⟩, diffPressure := ⟨0⟩
    pressureAlt := ⟨0⟩, temperature := ⟨0⟩, fieldsUpdated := 0, id := 0 }

theorem sensorFrame_sensor : SensorDatagram sensorFrame where
  starts := rfl
  parses := ⟨⟨0, 1, 1, .sensor sensorReading⟩, 13, sensorReading, by decide +kernel, rfl⟩
  length_le := by decide

/-- A sensor frame whose payload ends with a start byte. -/
def startingFrame : Bytes := [0xFD, 2, 0, 0, 0, 1, 1, 107, 0, 0, 1, 0xFD, 162, 22]

theorem startingFrame_sensor : SensorDatagram startingFrame where
  starts := rfl
  parses := ⟨⟨0, 1, 1, .sensor { sensorReading with timeUsec := 0xFD01 }⟩, 14, _,
    by decide +kernel, rfl⟩
  length_le := by decide

/-- The beginning of a frame of 212 bytes that does not come. -/
def cutFrame : UdpOp := .receive [0xFD, 200, 0, 0]

/-- A datagram of bytes that start no frame. -/
def noise : UdpOp := .receive [1, 2, 3]

/-- Sensor frames behind a frame that was cut, and sensor frames with a second start byte behind
noise. -/
theorem reassembly_resumes_iff_sensorFrame :
    (Delivered ((List.replicate resumeWithin sensorFrame).take resumeWithin)
        (handledOf (HilTransport.machine.run .new [cutFrame])
          ((List.replicate resumeWithin sensorFrame).take resumeWithin)) ↔
      ∀ d, (List.replicate resumeWithin sensorFrame).head? = some d →
        Fits (HilTransport.machine.run .new [cutFrame]).rx d) ∧
    (Delivered ((List.replicate resumeWithin startingFrame).take resumeWithin)
        (handledOf (HilTransport.machine.run .new [noise])
          ((List.replicate resumeWithin startingFrame).take resumeWithin)) ↔
      ∀ d, (List.replicate resumeWithin startingFrame).head? = some d →
        Fits (HilTransport.machine.run .new [noise]).rx d) := by
  constructor
  · refine reassembly_resumes_iff (fun d hd => ?_) (fun _ => inStep_taken fun d hd => ?_)
      List.length_replicate.ge
    · rw [List.eq_of_mem_replicate hd]
      exact sensorFrame_sensor
    · rw [List.eq_of_mem_replicate (List.mem_of_mem_take hd)]
      unfold Quiet
      decide +kernel
  · have hquiet : Quiet (HilTransport.machine.run .new [noise]).rx := by
      have hrx : (HilTransport.machine.run .new [noise]).rx = [1, 2, 3] := by decide +kernel
      rw [hrx]
      unfold Quiet
      decide +kernel
    refine reassembly_resumes_iff (fun d hd => ?_) (absurd hquiet) List.length_replicate.ge
    rw [List.eq_of_mem_replicate hd]
    exact startingFrame_sensor

/-- Eight datagrams of zeros. -/
def zeros : List UdpOp := List.replicate 8 (.receive (List.replicate 256 0))

/-- Bytes without a start byte stay in the buffer. -/
theorem rx_quiet {t : HilTransport} {d : Bytes} (hquiet : Quiet (t.rx ++ d))
    (hsize : d.length ≤ maxFrameSize) (hroom : (t.rx ++ d).length ≤ rxBufSize) :
    (HilTransport.machine.step t (.receive d)).1.rx = t.rx ++ d := by
  rw [List.length_append] at hroom
  rw [(step_receive t hsize).2, filled, List.take_of_length_le (by omega)]
  rw [decode_of_wait (d := wireDecoder) (wireNext_quiet hquiet)]

theorem rx_zeros : (HilTransport.machine.run .new zeros).rx = List.replicate 2048 0 := by
  have hrun (n : Nat) (hn : n ≤ 8) : (HilTransport.machine.run .new
      (List.replicate n (.receive (List.replicate 256 0)))).rx = List.replicate (256 * n) 0 := by
    induction n with
    | zero => rfl
    | succ n ih =>
      have hbefore := ih (Nat.le_of_succ_le hn)
      have hjoin : List.replicate (256 * n) (0 : UInt8) ++ List.replicate 256 0 =
          List.replicate (256 * (n + 1)) 0 := List.replicate_append_replicate
      rw [List.replicate_succ', Machine.run_append, Machine.run_cons, Machine.run_nil, rx_quiet]
      · rw [hbefore, hjoin]
      · rw [hbefore, hjoin]
        intro b hb
        rw [List.eq_of_mem_replicate hb]
        rfl
      · rw [List.length_replicate]
        decide
      · rw [hbefore, hjoin, List.length_replicate]
        simp only [rxBufSize]
        omega
  exact hrun 8 (Nat.le_refl 8)

/-- Behind 2048 zeros no number of datagrams brings one that is handled. -/
theorem full_buffer_wedges : ¬ ∃ count, ∀ (history : List UdpOp) (ds : List Bytes),
    (∀ d ∈ ds, SensorDatagram d) → count ≤ ds.length →
    Delivered (ds.take count)
      (handledOf (HilTransport.machine.run .new history) (ds.take count)) := by
  rintro ⟨count, hclaim⟩
  have hsensor : ∀ n, ∀ d ∈ List.replicate n sensorFrame, SensorDatagram d := fun n d hd => by
    rw [List.eq_of_mem_replicate hd]
    exact sensorFrame_sensor
  obtain ⟨d, hd, _, _, _, hmem⟩ :=
    hclaim zeros (List.replicate count sensorFrame) (hsensor count) List.length_replicate.ge
  rw [List.take_of_length_le List.length_replicate.le] at hd hmem
  cases count with
  | zero => cases hd
  | succ count =>
    have hstuck : ¬ Fits (HilTransport.machine.run .new zeros).rx sensorFrame := by
      have hquiet : Quiet (List.replicate 2048 0) := fun b hb => by
        rw [List.eq_of_mem_replicate hb]
        rfl
      rw [rx_zeros, Fits, announcedEnd_eq hquiet sensorFrame_sensor.starts, List.length_replicate]
      decide
    rw [List.replicate_succ, stuck_run (HilTransport.waiting_run zeros)
      (List.replicate_succ ▸ hsensor (count + 1)) hstuck] at hmem
    cases hmem

end Aviate.Hil
