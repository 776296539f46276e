import Aviate.Foundations.StreamDecoder
import Aviate.Hil.Framing
import Aviate.Hil.Transport
import Mathlib.Data.List.Forall2

/-!
# Reassembly of the HIL stream

Results:
1. `process_data` carries out what a decoder of the stream makes of the buffer and the chunk
   (`processData_spec`), so chunks do not matter while the buffer has room (`run_decodes`).
2. Frames that the parser reads as what they are come through whole, however the stream is cut,
   and it reads no others so (`reassembled_iff`).
-/

namespace Aviate.Hil

open Checked StreamDecoder
open Mavlink (RawFrame)

/-! ## The decoder of the stream -/

/-- What the transport notes of its stream. -/
inductive WireEvent where
  | handled (frame : MavFrame)
  | crcError

def WireEvent.frame? : WireEvent → Option MavFrame
  | handled frame => some frame
  | crcError => none

/-- The parser's verdict on the bytes before it. -/
def wireNext (buf : Bytes) : Verdict WireEvent :=
  match parseFrame buf with
  | .ok (frame, consumed) => .take consumed (some (.handled frame))
  | .error (.error .incomplete) => .wait
  | .error (.error .crcMismatch) => .take 1 (some .crcError)
  | .error (.error (.unknownMessage _ consumed)) => .take consumed none
  | .error (.error _) => .take 1 none
  | .error .outOfRange => .wait

/-- What `wireNext` takes, and from what. -/
theorem wireNext_cases {buf : Bytes} {n : Nat} {event : Option WireEvent}
    (h : wireNext buf = .take n event) :
    0 < n ∧ n ≤ buf.length ∧ ∀ more, wireNext (buf ++ more) = .take n event := by
  rcases parseFrame_cases buf with hwait | ⟨k, hpos, hle, hsettled, hstable⟩
  · rw [wireNext, hwait] at h
    cases h
  · have hsame (more : Bytes) : wireNext (buf ++ more) = wireNext buf := by
      rw [wireNext, hstable more, wireNext]
    have htaken : 0 < n ∧ n ≤ buf.length := by
      unfold wireNext at h
      generalize parseFrame buf = result at h hsettled
      cases hsettled with
      | parsed frame =>
        cases h
        exact ⟨hpos, hle⟩
      | unknown msgId =>
        cases h
        exact ⟨hpos, hle⟩
      | mismatch =>
        cases h
        exact ⟨Nat.one_pos, Nat.le_trans hpos hle⟩
      | invalid =>
        cases h
        exact ⟨Nat.one_pos, Nat.le_trans hpos hle⟩
    exact ⟨htaken.1, htaken.2, fun more => (hsame more).trans h⟩

/-- The decoder of the stream into frames and checksum errors. -/
def wireDecoder : StreamDecoder UInt8 WireEvent where
  next := wireNext
  take_pos h := (wireNext_cases h).1
  take_le h := (wireNext_cases h).2.1
  stable more h := (wireNext_cases h).2.2 more

/-! ## Frames on the stream -/

/-- The frame carries one of the messages that are decoded. -/
def Known (f : RawFrame) : Prop := f.id1 = 0 ∧ f.id2 = 0 ∧ (crcExtra f.id0).isSome

instance : DecidablePred Known := fun f =>
  inferInstanceAs (Decidable (f.id1 = 0 ∧ f.id2 = 0 ∧ (crcExtra f.id0).isSome))

/-- The checksum, as the receiver reads it. -/
def receivedCrc (f : RawFrame) : UInt16 := f.crc0.toUInt16 ||| f.crc1.toUInt16 <<< 8

/-- A frame of MAVLink 2: no flag but the signature's, and the checksum of its message, which for
a message not decoded here may have any seed. -/
structure WellFormed (f : RawFrame) : Prop where
  flags : f.incompatFlags &&& ~~~Mavlink.mavlinkIflagSigned = 0
  crc : ∃ extra, (Known f → crcExtra f.id0 = some extra) ∧
    crcCalculate f.covered extra = receivedCrc f

/-- The bytes of frames that follow each other. -/
def stream (frames : List RawFrame) : Bytes := frames.flatMap RawFrame.bytes

/-- The parser takes the frame for what it is. -/
structure Readable (f : RawFrame) : Prop where
  /-- An identifier whose low byte is a decoded message's is that message's. -/
  low : (crcExtra f.id0).isSome → f.id1 = 0 ∧ f.id2 = 0
  /-- A position keeps its base fields. -/
  position : f.id0 = hilGpsId → HilGps.minSize ≤ f.payload.length
  signature : ∀ b ∈ f.signature, isStart b = false

/-- The frame handled is this one. -/
def HandledAs (f : RawFrame) (frame : MavFrame) : Prop :=
  frame.seq = f.seq ∧ frame.sysId = f.sysid ∧ frame.compId = f.compid ∧
    parseMessage f.id0 f.payload = .ok frame.message

section Frames

variable {gap rest : Bytes} {f : RawFrame}

/-- A frame of a message not decoded is skipped whole. -/
theorem next_unknown (hgap : ∀ b ∈ gap, isStart b = false) (hextra : crcExtra f.id0 = none) :
    wireDecoder.next (gap ++ (wireBytes f ++ rest)) =
      .take (gap.length + (wireBytes f).length) none := by
  show wireNext _ = _
  rw [wireNext, parseFrame_raw hgap, readFrame, hextra]
  rfl

/-- A frame whose checksum is not the one its low identifier byte asks for. -/
theorem next_mismatch (hgap : ∀ b ∈ gap, isStart b = false) {extra : UInt8}
    (hextra : crcExtra f.id0 = some extra) (hcrc : crcCalculate f.covered extra ≠ receivedCrc f) :
    wireDecoder.next (gap ++ (wireBytes f ++ rest)) = .take 1 (some .crcError) := by
  show wireNext _ = _
  rw [wireNext, parseFrame_raw hgap, readFrame, hextra]
  simp only [receivedCrc] at hcrc
  simp only [if_pos hcrc]
  rfl

/-- A frame whose checksum and payload are its low identifier byte's is handled. -/
theorem next_handled (hgap : ∀ b ∈ gap, isStart b = false) {extra : UInt8}
    (hextra : crcExtra f.id0 = some extra) (hcrc : crcCalculate f.covered extra = receivedCrc f)
    (hposition : f.id0 = hilGpsId → HilGps.minSize ≤ f.payload.length) :
    ∃ frame, HandledAs f frame ∧ ∀ rest, wireDecoder.next (gap ++ (wireBytes f ++ rest)) =
      .take (gap.length + (wireBytes f).length) (some (.handled frame)) := by
  rcases parseMessage_cases hextra f.payload with ⟨hgps, hshort, -⟩ | ⟨-, m, hm⟩
  · exact absurd (hposition hgps) (Nat.not_le.mpr hshort)
  refine ⟨⟨f.seq, f.sysid, f.compid, m⟩, ⟨rfl, rfl, rfl, hm⟩, fun rest => ?_⟩
  show wireNext _ = _
  rw [wireNext, parseFrame_raw hgap, readFrame, hextra]
  simp only [receivedCrc] at hcrc
  simp only [hcrc, ne_eq, not_true_eq_false, if_false, hm]
  rfl

theorem drop_wireBytes :
    (gap ++ (wireBytes f ++ rest)).drop (gap.length + (wireBytes f).length) = rest := by
  rw [← List.append_assoc, ← List.length_append, List.drop_left]

/-- Bytes that start no frame are waited on. -/
theorem decode_gap (hgap : ∀ b ∈ gap, isStart b = false) : wireDecoder.decode gap = ([], gap) := by
  refine decode_of_wait (show wireNext gap = _ from ?_)
  have hnone : gap.findIdx? isStart = none := List.findIdx?_eq_none_iff.mpr hgap
  rw [wireNext, parseFrame, hnone]
  rfl

/-- An incomplete frame is waited on. -/
theorem decode_part (hgap : ∀ b ∈ gap, isStart b = false) {part more : Bytes}
    (hpart : part ++ more = wireBytes f) (hmore : more ≠ []) :
    wireDecoder.decode (gap ++ part) = ([], gap ++ part) := by
  refine decode_of_wait (show wireNext (gap ++ part) = _ from ?_)
  rw [wireNext, parseFrame_part hgap hpart hmore]
  rfl

/-- A frame that is read for what it is brings its own event, if any. -/
theorem decode_readable (hgap : ∀ b ∈ gap, isStart b = false) (hwf : WellFormed f)
    (hread : Readable f) :
    ∃ handled : List MavFrame, List.Forall₂ HandledAs ([f].filter Known) handled ∧
      ∀ rest, wireDecoder.decode (gap ++ (wireBytes f ++ rest)) =
        (handled.map WireEvent.handled ++ (wireDecoder.decode rest).1,
          (wireDecoder.decode rest).2) := by
  cases hextra : crcExtra f.id0 with
  | none =>
    have hunknown : ¬ Known f := by
      rintro ⟨-, -, hsome⟩
      rw [hextra] at hsome
      cases hsome
    refine ⟨[], ?_, fun rest => ?_⟩
    · rw [List.filter_cons_of_neg (by simpa using hunknown)]
      exact .nil
    · rw [decode_of_skip (next_unknown hgap hextra), drop_wireBytes]
      rfl
  | some extra =>
    have hknown : Known f := by
      obtain ⟨hlow₁, hlow₂⟩ := hread.low (by rw [hextra]; rfl)
      exact ⟨hlow₁, hlow₂, by rw [hextra]; rfl⟩
    have hcrc : crcCalculate f.covered extra = receivedCrc f := by
      obtain ⟨seed, hseed, hcrc⟩ := hwf.crc
      rw [hextra] at hseed
      rwa [Option.some.inj (hseed hknown)]
    obtain ⟨frame, hframe, hnext⟩ := next_handled hgap hextra hcrc hread.position
    refine ⟨[frame], ?_, fun rest => ?_⟩
    · rw [List.filter_cons_of_pos (by simpa using hknown)]
      exact .cons hframe .nil
    · rw [decode_of_event (hnext rest), drop_wireBytes]
      rfl

theorem signature_length_le (f : RawFrame) : f.signature.length ≤ 13 := by
  rw [f.signature_length]
  split <;> decide

/-- Frames that are read for what they are bring their own events; what follows is decoded after
the last signature. -/
theorem decode_frames {frames : List RawFrame} (hwf : ∀ f ∈ frames, WellFormed f)
    (hread : ∀ f ∈ frames, Readable f) (hgap : ∀ b ∈ gap, isStart b = false)
    (hshort : gap.length ≤ 13) :
    ∃ (handled : List MavFrame) (gap' : Bytes), (∀ b ∈ gap', isStart b = false) ∧
      gap'.length ≤ 13 ∧ List.Forall₂ HandledAs (frames.filter Known) handled ∧
      ∀ tail, wireDecoder.decode (gap ++ (stream frames ++ tail)) =
        (handled.map WireEvent.handled ++ (wireDecoder.decode (gap' ++ tail)).1,
          (wireDecoder.decode (gap' ++ tail)).2) := by
  induction frames generalizing gap with
  | nil => exact ⟨[], gap, hgap, hshort, .nil, fun tail => rfl⟩
  | cons f frames ih =>
    have hreadable := hread f List.mem_cons_self
    obtain ⟨later, gap', hgap', hshort', hlater, hrest⟩ :=
      ih (fun g hg => hwf g (List.mem_cons_of_mem _ hg))
        (fun g hg => hread g (List.mem_cons_of_mem _ hg)) hreadable.signature
        (signature_length_le f)
    obtain ⟨handled, hhandled, hfirst⟩ := decode_readable hgap (hwf f List.mem_cons_self) hreadable
    refine ⟨handled ++ later, gap', hgap', hshort', ?_, fun tail => ?_⟩
    · have hsplit : (f :: frames).filter Known = [f].filter Known ++ frames.filter Known := by
        rw [← List.filter_append]
        rfl
      rw [hsplit]
      exact List.rel_append hhandled hlater
    · have hbytes : stream (f :: frames) ++ tail =
          wireBytes f ++ (f.signature ++ (stream frames ++ tail)) := by
        rw [stream, List.flatMap_cons, bytes_eq, List.append_assoc, List.append_assoc, stream]
      rw [hbytes, hfirst, hrest, List.map_append, List.append_assoc]

/-- A cut of the stream falls between two frames or inside one. -/
theorem prefix_stream {frames : List RawFrame} {s : Bytes} (h : s <+: stream frames) :
    (∃ frames₁, frames₁ <+: frames ∧ s = stream frames₁) ∨
      ∃ frames₁ f frames₂ tail more, frames = frames₁ ++ f :: frames₂ ∧
        s = stream frames₁ ++ tail ∧ tail ++ more = f.bytes ∧ more ≠ [] := by
  induction frames generalizing s with
  | nil => exact .inl ⟨[], List.prefix_refl _, List.prefix_nil.mp h⟩
  | cons f frames ih =>
    have hcons : stream (f :: frames) = f.bytes ++ stream frames := List.flatMap_cons
    by_cases hlong : f.bytes.length ≤ s.length
    · obtain ⟨rest, hrest⟩ := h
      obtain ⟨s', rfl⟩ : f.bytes <+: s := by
        refine List.prefix_of_prefix_length_le ?_ ⟨rest, hrest⟩ hlong
        rw [hcons]
        exact List.prefix_append _ _
      rw [hcons, List.append_assoc, List.append_cancel_left_eq] at hrest
      rcases ih ⟨rest, hrest⟩ with ⟨frames₁, hframes₁, rfl⟩ |
          ⟨frames₁, g, frames₂, tail, more, rfl, rfl, hbytes, hmore⟩
      · refine .inl ⟨f :: frames₁, (List.prefix_cons_inj f).mpr hframes₁, ?_⟩
        exact List.flatMap_cons.symm
      · refine .inr ⟨f :: frames₁, g, frames₂, tail, more, rfl, ?_, hbytes, hmore⟩
        rw [← List.append_assoc]
        congr 1
    · have hshort : s.length < f.bytes.length := Nat.lt_of_not_le hlong
      obtain ⟨more, hmore⟩ : s <+: f.bytes := by
        refine List.prefix_of_prefix_length_le h ?_ hshort.le
        rw [hcons]
        exact List.prefix_append _ _
      refine .inr ⟨[], f, frames, s, more, rfl, rfl, hmore, ?_⟩
      rintro rfl
      rw [List.append_nil] at hmore
      rw [hmore] at hshort
      exact Nat.lt_irrefl _ hshort

/-- A frame whose checksum has not arrived is kept whole, after the end of a signature at most. -/
theorem decode_waiting {frames : List RawFrame} (hwf : ∀ f ∈ frames, WellFormed f)
    (hread : ∀ f ∈ frames, Readable f) {part more : Bytes} (hpart : part ++ more = wireBytes f)
    (hmore : more ≠ []) :
    ∃ (handled : List MavFrame) (gap' : Bytes), gap'.length ≤ 13 ∧
      wireDecoder.decode (stream frames ++ part) =
        (handled.map WireEvent.handled, gap' ++ part) := by
  obtain ⟨handled, gap', hgap', hshort, -, hdecode⟩ :=
    decode_frames hwf hread (List.forall_mem_nil _) (Nat.zero_le 13)
  refine ⟨handled, gap', hshort, ?_⟩
  have hall := hdecode part
  rw [decode_part hgap' hpart hmore, List.append_nil] at hall
  exact hall

/-- Wherever the stream is cut, no checksum was wrong and few bytes are waited on. -/
theorem decode_cut {frames : List RawFrame} (hwf : ∀ f ∈ frames, WellFormed f)
    (hread : ∀ f ∈ frames, Readable f) {s : Bytes} (h : s <+: stream frames) :
    (∃ handled : List MavFrame, (wireDecoder.decode s).1 = handled.map WireEvent.handled) ∧
      (wireDecoder.decode s).2.length ≤ 13 + maxFrameSize := by
  rcases prefix_stream h with ⟨frames₁, hframes₁, rfl⟩ |
      ⟨frames₁, f, frames₂, tail, more, rfl, rfl, hbytes, hmore⟩
  · obtain ⟨handled, gap', hgap', hshort, -, hdecode⟩ :=
      decode_frames (fun f hf => hwf f (hframes₁.subset hf))
        (fun f hf => hread f (hframes₁.subset hf)) (List.forall_mem_nil _) (Nat.zero_le 13)
    have hall := hdecode []
    rw [List.append_nil, List.append_nil, decode_gap hgap', List.append_nil] at hall
    replace hall : wireDecoder.decode (stream frames₁) =
      (handled.map WireEvent.handled, gap') := hall
    rw [hall]
    exact ⟨⟨handled, rfl⟩, Nat.le_add_right_of_le hshort⟩
  · have hmem : ∀ g ∈ frames₁, g ∈ frames₁ ++ f :: frames₂ := fun g hg =>
      List.mem_append_left _ hg
    have hf : f ∈ frames₁ ++ f :: frames₂ := List.mem_append_right _ List.mem_cons_self
    rw [bytes_eq] at hbytes
    by_cases hwhole : (wireBytes f).length ≤ tail.length
    · obtain ⟨signature, rfl⟩ : wireBytes f <+: tail :=
        List.prefix_of_prefix_length_le (List.prefix_append _ _) ⟨more, hbytes⟩ hwhole
      rw [List.append_assoc, List.append_cancel_left_eq] at hbytes
      obtain ⟨handled, gap', hgap', -, -, hdecode⟩ :=
        decode_frames (fun g hg => hwf g (hmem g hg)) (fun g hg => hread g (hmem g hg))
          (List.forall_mem_nil _) (Nat.zero_le 13)
      obtain ⟨last, -, hlast⟩ := decode_readable hgap' (hwf f hf) (hread f hf)
      have hsignature : ∀ b ∈ signature, isStart b = false := fun b hb =>
        (hread f hf).signature b (hbytes ▸ List.mem_append_left _ hb)
      have hall := hdecode (wireBytes f ++ signature)
      rw [hlast, decode_gap hsignature, List.append_nil, ← List.map_append] at hall
      replace hall : wireDecoder.decode (stream frames₁ ++ (wireBytes f ++ signature)) =
        ((handled ++ last).map WireEvent.handled, signature) := hall
      rw [hall]
      refine ⟨⟨handled ++ last, rfl⟩, Nat.le_add_right_of_le ?_⟩
      have hlength := congrArg List.length hbytes
      rw [List.length_append] at hlength
      have hle := signature_length_le f
      show signature.length ≤ 13
      omega
    · obtain ⟨missing, hmissing⟩ : tail <+: wireBytes f :=
        List.prefix_of_prefix_length_le ⟨more, hbytes⟩ (List.prefix_append _ _)
          (Nat.le_of_not_le hwhole)
      have hnonempty : missing ≠ [] := by
        rintro rfl
        rw [List.append_nil] at hmissing
        exact hwhole (Nat.le_of_eq (congrArg List.length hmissing.symm))
      obtain ⟨handled, gap', hshort, hall⟩ := decode_waiting (fun g hg => hwf g (hmem g hg))
        (fun g hg => hread g (hmem g hg)) hmissing hnonempty
      rw [hall]
      refine ⟨⟨handled, rfl⟩, ?_⟩
      have hlength := length_wireBytes f
      have hpayload := f.payload_le
      simp only [Mavlink.maxPayloadLen] at hpayload
      simp only [headerSize, crcSize] at hlength
      simp only [List.length_append, maxFrameSize, headerSize, maxPayloadSize, crcSize]
      omega

end Frames

/-! ## The transport runs the decoder -/

/-- The checksum errors among events. -/
def crcErrorsOf (events : List WireEvent) : Nat := events.countP fun
  | .crcError => true
  | .handled _ => false

theorem crcErrorsOf_cons (events : List WireEvent) :
    crcErrorsOf (.crcError :: events) = crcErrorsOf events + 1 :=
  List.countP_cons_of_pos rfl

/-- Frames alone bring no checksum error. -/
theorem crcErrorsOf_handled (frames : List MavFrame) :
    crcErrorsOf (frames.map WireEvent.handled) = 0 := by
  refine List.countP_eq_zero.mpr fun event hevent => ?_
  obtain ⟨frame, -, rfl⟩ := List.mem_map.mp hevent
  exact Bool.false_ne_true

theorem filterMap_handled (frames : List MavFrame) :
    (frames.map WireEvent.handled).filterMap WireEvent.frame? = frames := by
  rw [List.filterMap_map]
  exact List.filterMap_some

namespace HilTcpTransport

variable {t : HilTcpTransport} {chunks : List Bytes} {data : Bytes}

theorem handleFrame_rx (t : HilTcpTransport) (frame : MavFrame) :
    (t.handleFrame frame).rx = t.rx := by
  unfold handleFrame
  split <;> rfl

theorem handleFrame_crcErrors (t : HilTcpTransport) (frame : MavFrame) :
    (t.handleFrame frame).crcErrors = t.crcErrors := by
  unfold handleFrame
  split <;> rfl

/-- The loop carries out the decoder's events on what follows the offset. -/
theorem parseLoop_spec (fuel : Nat) :
    ∀ {t : HilTcpTransport} {offset : Nat}, (t.rx.drop offset).length ≤ fuel →
      offset ≤ t.rx.length →
      (t.parseLoop fuel offset).1 =
          (wireDecoder.decode (t.rx.drop offset)).1.filterMap WireEvent.frame? ∧
        (t.parseLoop fuel offset).2.1.rx = t.rx ∧
        t.rx.drop (t.parseLoop fuel offset).2.2 = (wireDecoder.decode (t.rx.drop offset)).2 ∧
        (t.parseLoop fuel offset).2.1.crcErrors = t.crcErrors +
          .ofNat (crcErrorsOf (wireDecoder.decode (t.rx.drop offset)).1) := by
  induction fuel with
  | zero =>
    intro t offset hfuel _
    have hnil : t.rx.drop offset = [] := List.eq_nil_of_length_eq_zero (Nat.le_zero.mp hfuel)
    rw [hnil, decode_nil]
    exact ⟨rfl, rfl, hnil, (UInt64.add_zero _).symm⟩
  | succ fuel ih =>
    intro t offset hfuel hoffset
    unfold parseLoop
    by_cases hmore : offset < t.rx.length
    · rw [if_pos hmore]
      have hlength : (t.rx.drop offset).length = t.rx.length - offset := List.length_drop
      -- The rest of the loop, after `n` bytes consumed.
      have hrest (t' : HilTcpTransport) (hrx : t'.rx = t.rx) {n : Nat} (hpos : 0 < n)
          (hle : n ≤ (t.rx.drop offset).length) := by
        have hnext := @ih t' (offset + n) (by rw [hrx, List.length_drop]; omega)
          (by rw [hrx]; omega)
        rw [hrx, ← List.drop_drop] at hnext
        exact hnext
      have hnext : wireDecoder.next (t.rx.drop offset) = wireNext (t.rx.drop offset) := rfl
      unfold wireNext at hnext
      rcases parseFrame_cases (t.rx.drop offset) with hwait | ⟨k, hpos, hle, hsettled, -⟩
      · rw [hwait] at hnext ⊢
        rw [decode_of_wait hnext]
        exact ⟨rfl, rfl, rfl, (UInt64.add_zero _).symm⟩
      · generalize parseFrame (t.rx.drop offset) = result at hnext hsettled
        cases hsettled with
        | parsed frame =>
          obtain ⟨hhandled, hrx, hdrop, hcrc⟩ :=
            hrest { t.handleFrame frame with rxCount := (t.handleFrame frame).rxCount + 1 }
              (handleFrame_rx t frame) hpos hle
          rw [decode_of_event hnext]
          refine ⟨congrArg (frame :: ·) hhandled, hrx, hdrop, hcrc.trans ?_⟩
          exact congrArg (· + _) (handleFrame_crcErrors t frame)
        | unknown msgId =>
          rw [decode_of_skip hnext]
          exact hrest t rfl hpos hle
        | mismatch =>
          obtain ⟨hhandled, hrx, hdrop, hcrc⟩ :=
            hrest { t with crcErrors := t.crcErrors + 1 } rfl Nat.one_pos (Nat.le_trans hpos hle)
          rw [decode_of_event hnext]
          refine ⟨hhandled, hrx, hdrop, hcrc.trans ?_⟩
          rw [crcErrorsOf_cons, Nat.add_comm, UInt64.ofNat_add, ← UInt64.add_assoc]
          rfl
        | invalid =>
          rw [decode_of_skip hnext]
          exact hrest t rfl Nat.one_pos (Nat.le_trans hpos hle)
    · have hnil : t.rx.drop offset = [] := List.drop_eq_nil_of_le (Nat.le_of_not_lt hmore)
      rw [if_neg hmore, hnil, decode_nil]
      exact ⟨rfl, rfl, rfl, (UInt64.add_zero _).symm⟩

/-- The chunk fits the buffer. -/
def Room (event : Machine.Event HilTcpTransport Bytes (List MavFrame)) : Prop :=
  event.op.length ≤ rxBufSize - event.pre.rx.length

/-- A chunk that fits is decoded after what the buffer holds. -/
theorem processData_spec (hroom : data.length ≤ rxBufSize - t.rx.length) :
    (t.processData data).1 = (wireDecoder.decode (t.rx ++ data)).1.filterMap WireEvent.frame? ∧
      (t.processData data).2.rx = (wireDecoder.decode (t.rx ++ data)).2 ∧
      (t.processData data).2.crcErrors =
        t.crcErrors + .ofNat (crcErrorsOf (wireDecoder.decode (t.rx ++ data)).1) := by
  have hwhole : data.take rxBufSize = data :=
    List.take_of_length_le (hroom.trans (Nat.sub_le _ _))
  have hspec := @parseLoop_spec (t.rx ++ data).length { t with rx := t.rx ++ data } 0
    (Nat.le_refl _) (Nat.zero_le _)
  simp only [List.drop_zero] at hspec
  obtain ⟨hhandled, hrx, hdrop, hcrc⟩ := hspec
  unfold processData
  simp only [if_neg (Nat.not_lt.mpr hroom), hwhole]
  refine ⟨hhandled, ?_, hcrc⟩
  rw [hrx]
  exact hdrop

/-- The frames handled, in order. -/
def handled (trace : List (Machine.Event HilTcpTransport Bytes (List MavFrame))) :
    List MavFrame := trace.flatMap Machine.Event.out

/-- A run over chunks that all fit decodes the stream. -/
theorem run_decodes (hroom : ∀ event ∈ machine.trace t chunks, Room event)
    (hwait : wireDecoder.decode t.rx = ([], t.rx)) :
    handled (machine.trace t chunks) =
        (wireDecoder.decode (t.rx ++ chunks.flatten)).1.filterMap WireEvent.frame? ∧
      (machine.run t chunks).rx = (wireDecoder.decode (t.rx ++ chunks.flatten)).2 ∧
      (machine.run t chunks).crcErrors = t.crcErrors +
        .ofNat (crcErrorsOf (wireDecoder.decode (t.rx ++ chunks.flatten)).1) := by
  induction chunks generalizing t with
  | nil =>
    rw [List.flatten_nil, List.append_nil, hwait]
    exact ⟨rfl, rfl, (UInt64.add_zero _).symm⟩
  | cons chunk chunks ih =>
    have hfirst : chunk.length ≤ rxBufSize - t.rx.length := hroom _ List.mem_cons_self
    obtain ⟨hhandled, hrx, hcrc⟩ := processData_spec hfirst
    have hnext : wireDecoder.decode (t.processData chunk).2.rx =
        ([], (t.processData chunk).2.rx) := by
      rw [hrx]
      exact decode_of_wait (decode_rest _)
    obtain ⟨hlater, hend, hcrcs⟩ :
        handled (machine.trace (t.processData chunk).2 chunks) = _ ∧ _ :=
      ih (fun event hevent => hroom event (List.mem_cons_of_mem _ hevent)) hnext
    have hsplit := decode_append (d := wireDecoder) (t.rx ++ chunk) chunks.flatten
    rw [← hrx] at hsplit
    rw [List.flatten_cons, ← List.append_assoc, hsplit, List.filterMap_append, ← hhandled,
      crcErrorsOf, List.countP_append, UInt64.ofNat_add, ← UInt64.add_assoc]
    refine ⟨congrArg (_ ++ ·) hlater, hend, ?_⟩
    rw [hcrc] at hcrcs
    exact hcrcs

/-- Where few bytes are waited on, chunks of the receive size fit. -/
theorem room_of_bounded (hsize : ∀ chunk ∈ chunks, chunk.length ≤ maxFrameSize)
    (hwait : wireDecoder.decode t.rx = ([], t.rx))
    (hbound : ∀ s, s <+: chunks.flatten →
      (wireDecoder.decode (t.rx ++ s)).2.length ≤ 13 + maxFrameSize) :
    ∀ event ∈ machine.trace t chunks, Room event := by
  induction chunks generalizing t with
  | nil => exact List.forall_mem_nil _
  | cons chunk chunks ih =>
    have hfirst : chunk.length ≤ rxBufSize - t.rx.length := by
      have hleft := hbound [] List.nil_prefix
      have hchunk := hsize chunk List.mem_cons_self
      rw [List.append_nil, hwait] at hleft
      simp only [maxFrameSize, headerSize, maxPayloadSize, crcSize] at hleft hchunk
      rw [rxBufSize]
      omega
    obtain ⟨-, hrx, -⟩ := processData_spec hfirst
    intro event hevent
    rcases List.mem_cons.mp hevent with rfl | hevent
    · exact hfirst
    · refine ih (fun c hc => hsize c (List.mem_cons_of_mem _ hc)) ?_ (fun s hs => ?_) event hevent
      · show wireDecoder.decode (t.processData chunk).2.rx = ([], (t.processData chunk).2.rx)
        rw [hrx]
        exact decode_of_wait (decode_rest _)
      · have hcut := hbound (chunk ++ s) ((List.prefix_append_right_inj chunk).mpr hs)
        rw [← List.append_assoc, decode_append, ← hrx] at hcut
        exact hcut

/-- If the counter never moves, no checksum was wrong. -/
theorem crcErrorsOf_eq_zero (hroom : ∀ event ∈ machine.trace t chunks, Room event)
    (hwait : wireDecoder.decode t.rx = ([], t.rx))
    (hcrc : ∀ event ∈ machine.trace t chunks, event.post.crcErrors = t.crcErrors) :
    crcErrorsOf (wireDecoder.decode (t.rx ++ chunks.flatten)).1 = 0 := by
  induction chunks generalizing t with
  | nil =>
    rw [List.flatten_nil, List.append_nil, hwait]
    rfl
  | cons chunk chunks ih =>
    have hfirst : chunk.length ≤ rxBufSize - t.rx.length := hroom _ List.mem_cons_self
    obtain ⟨-, hrx, hcount⟩ := processData_spec hfirst
    have hsame : (t.processData chunk).2.crcErrors = t.crcErrors := hcrc _ List.mem_cons_self
    have hnone : crcErrorsOf (wireDecoder.decode (t.rx ++ chunk)).1 = 0 := by
      by_cases hempty : chunk = []
      · rw [hempty, List.append_nil, hwait]
        rfl
      -- A call sees fewer bytes than the counter has values.
      have hpos := List.length_pos_of_ne_nil hempty
      have hle : crcErrorsOf (wireDecoder.decode (t.rx ++ chunk)).1 ≤ rxBufSize := by
        have hevents := length_decode_le (d := wireDecoder) (t.rx ++ chunk)
        have herrors : crcErrorsOf (wireDecoder.decode (t.rx ++ chunk)).1 ≤
            (wireDecoder.decode (t.rx ++ chunk)).1.length := List.countP_le_length
        rw [List.length_append] at hevents
        omega
      rw [hcount, UInt64.add_eq_left] at hsame
      have hzero := congrArg UInt64.toNat hsame
      rw [UInt64.toNat_ofNat', UInt64.toNat_zero] at hzero
      rw [rxBufSize] at hle
      omega
    have hsame : (t.processData chunk).2.crcErrors = t.crcErrors := hcrc _ List.mem_cons_self
    have hnext : wireDecoder.decode (t.processData chunk).2.rx =
        ([], (t.processData chunk).2.rx) := by
      rw [hrx]
      exact decode_of_wait (decode_rest _)
    have hlater : crcErrorsOf (wireDecoder.decode
        ((t.processData chunk).2.rx ++ chunks.flatten)).1 = 0 :=
      ih (fun event hevent => hroom event (List.mem_cons_of_mem _ hevent)) hnext
        fun event hevent => (hcrc event (List.mem_cons_of_mem _ hevent)).trans hsame.symm
    have hsplit := decode_append (d := wireDecoder) (t.rx ++ chunk) chunks.flatten
    rw [← hrx] at hsplit
    rw [List.flatten_cons, ← List.append_assoc, hsplit, crcErrorsOf, List.countP_append]
    exact Nat.add_eq_zero_iff.mpr ⟨hnone, hlater⟩

end HilTcpTransport

/-! ## The claim about lists of frames -/

/-- A frame of a message not decoded that passes for a position, too short to be one. -/
def Disguised (f : RawFrame) : Prop :=
  ¬ Known f ∧ f.id0 = hilGpsId ∧ f.payload.length < HilGps.minSize ∧
    crcCalculate f.covered 124 = receivedCrc f

/-- Without a checksum error, as many frames are handled as have the low identifier byte of a
decoded message, if those of decoded messages can all be handled. -/
theorem handled_count {frames : List RawFrame} {gap : Bytes}
    (hgap : ∀ b ∈ gap, isStart b = false)
    (hsignature : ∀ f ∈ frames, ∀ b ∈ f.signature, isStart b = false)
    (hplain : ∀ f ∈ frames, ¬ Disguised f)
    (hhandled : ∀ f ∈ frames, Known f → ∃ frame, HandledAs f frame)
    (hcrc : crcErrorsOf (wireDecoder.decode (gap ++ stream frames)).1 = 0) :
    ((wireDecoder.decode (gap ++ stream frames)).1.filterMap WireEvent.frame?).length =
      (frames.filter fun f => (crcExtra f.id0).isSome).length := by
  induction frames generalizing gap with
  | nil =>
    have hnil : gap ++ stream [] = gap := List.append_nil _
    rw [hnil, decode_gap hgap]
    rfl
  | cons f frames ih =>
    have hnext (hrest : crcErrorsOf
        (wireDecoder.decode (f.signature ++ stream frames)).1 = 0) :=
      ih (hsignature f List.mem_cons_self) (fun g hg => hsignature g (List.mem_cons_of_mem _ hg))
        (fun g hg => hplain g (List.mem_cons_of_mem _ hg))
        (fun g hg => hhandled g (List.mem_cons_of_mem _ hg)) hrest
    have hbytes : gap ++ stream (f :: frames) =
        gap ++ (wireBytes f ++ (f.signature ++ stream frames)) := by
      rw [stream, List.flatMap_cons, bytes_eq, List.append_assoc, stream]
    rw [hbytes] at hcrc ⊢
    cases hextra : crcExtra f.id0 with
    | none =>
      rw [decode_of_skip (next_unknown hgap hextra), drop_wireBytes] at hcrc ⊢
      rw [List.filter_cons_of_neg (by simp [hextra]), hnext hcrc]
    | some extra =>
      by_cases hmatch : crcCalculate f.covered extra = receivedCrc f
      · have hposition : f.id0 = hilGpsId → HilGps.minSize ≤ f.payload.length := by
          intro hgps
          refine Nat.le_of_not_lt fun hshort => ?_
          by_cases hknown : Known f
          · obtain ⟨frame, -, -, -, hframe⟩ := hhandled f List.mem_cons_self hknown
            rcases parseMessage_cases hextra f.payload with ⟨-, -, hfail⟩ | ⟨hlong, -⟩
            · rw [hfail] at hframe
              cases hframe
            · exact Nat.not_le.mpr hshort (hlong hgps)
          · rw [hgps] at hextra
            cases hextra
            exact hplain f List.mem_cons_self ⟨hknown, hgps, hshort, hmatch⟩
        obtain ⟨frame, -, hframe⟩ := next_handled hgap hextra hmatch hposition
        rw [decode_of_event (hframe _), drop_wireBytes] at hcrc ⊢
        have hcount := hnext hcrc
        rw [List.filter_cons_of_pos (by simp [hextra]), List.length_cons, ← hcount]
        rfl
      · rw [decode_of_event (next_mismatch hgap hextra hmatch), crcErrorsOf_cons] at hcrc
        exact absurd hcrc (Nat.succ_ne_zero _)

open HilTcpTransport in
/-- The chunks' calls handle exactly the frames of decoded messages, each once and in order, note
no checksum error, never outrun the buffer, and keep the bytes of an incomplete frame. -/
structure Reassembled (t : HilTcpTransport) (chunks : List Bytes) (frames : List RawFrame) :
    Prop where
  handled : List.Forall₂ HandledAs (frames.filter Known) (handled (machine.trace t chunks))
  crc : ∀ event ∈ machine.trace t chunks, event.post.crcErrors = t.crcErrors
  room : ∀ event ∈ machine.trace t chunks, Room event
  kept : ∀ frames₁ f frames₂ chunks₁ chunks₂ part more, frames = frames₁ ++ f :: frames₂ →
    chunks = chunks₁ ++ chunks₂ → chunks₁.flatten = stream frames₁ ++ part →
    part ++ more = wireBytes f → more ≠ [] → part <:+ (machine.run t chunks₁).rx

variable {t : HilTcpTransport} {chunks : List Bytes} {frames : List RawFrame}

/-- Frames that are read for what they are come through. -/
theorem reassembled_of_readable (hwf : ∀ f ∈ frames, WellFormed f)
    (hread : ∀ f ∈ frames, Readable f) (hempty : t.rx = [])
    (hsize : ∀ chunk ∈ chunks, chunk.length ≤ maxFrameSize)
    (hstream : chunks.flatten = stream frames) : Reassembled t chunks frames := by
  have hwait : wireDecoder.decode t.rx = ([], t.rx) := by rw [hempty, decode_nil]
  have hroom : ∀ event ∈ HilTcpTransport.machine.trace t chunks, HilTcpTransport.Room event := by
    refine HilTcpTransport.room_of_bounded hsize hwait fun s hs => ?_
    rw [hempty, List.nil_append]
    rw [hstream] at hs
    exact (decode_cut hwf hread hs).2
  have hcut {chunks₁ chunks₂ : List Bytes} (hchunks : chunks = chunks₁ ++ chunks₂) :
      chunks₁.flatten <+: stream frames := by
    rw [← hstream, hchunks, List.flatten_append]
    exact List.prefix_append _ _
  have hrun {chunks₁ chunks₂ : List Bytes} (hchunks : chunks = chunks₁ ++ chunks₂) :=
    @HilTcpTransport.run_decodes t chunks₁ (fun event hevent => hroom event (by
      rw [hchunks, Machine.trace_append]
      exact List.mem_append_left _ hevent)) hwait
  refine ⟨?_, ?_, hroom, ?_⟩
  · obtain ⟨frames', gap', hgap', -, hhandled, hdecode⟩ :=
      decode_frames hwf hread (List.forall_mem_nil _) (Nat.zero_le 13)
    have hall := hdecode []
    rw [List.append_nil, List.append_nil, decode_gap hgap', List.append_nil] at hall
    replace hall : wireDecoder.decode (stream frames) =
      (frames'.map WireEvent.handled, gap') := hall
    obtain ⟨houtput, -⟩ := hrun (List.append_nil chunks).symm
    rw [houtput, hempty, List.nil_append, hstream, hall, filterMap_handled]
    exact hhandled
  · intro event hevent
    obtain ⟨chunks₁, chunk, chunks₂, rfl, rfl⟩ := Machine.mem_trace.mp hevent
    have hsplit : chunks₁ ++ chunk :: chunks₂ = (chunks₁ ++ [chunk]) ++ chunks₂ := by simp
    obtain ⟨-, -, hcrc⟩ := hrun hsplit
    obtain ⟨⟨frames', hevents⟩, -⟩ := decode_cut hwf hread (hcut hsplit)
    rw [hempty, List.nil_append, hevents, crcErrorsOf_handled, Machine.run_append] at hcrc
    exact hcrc.trans (UInt64.add_zero _)
  · intro frames₁ f frames₂ chunks₁ chunks₂ part more hframes hchunks hflat hpart hmore
    subst hframes
    obtain ⟨-, hrx, -⟩ := hrun hchunks
    obtain ⟨frames', gap', -, hdecode⟩ :=
      decode_waiting (fun g hg => hwf g (List.mem_append_left _ hg))
        (fun g hg => hread g (List.mem_append_left _ hg)) hpart hmore
    rw [hrx, hempty, List.nil_append, hflat, hdecode]
    exact List.suffix_append gap' part

/-- If frames without a start byte in their signatures come through, each is read for what it is;
a frame of another message must not pass for a position. -/
theorem readable_of_reassembled (hempty : t.rx = []) (hstream : chunks.flatten = stream frames)
    (hsignature : ∀ f ∈ frames, ∀ b ∈ f.signature, isStart b = false)
    (hplain : ∀ f ∈ frames, ¬ Disguised f) (h : Reassembled t chunks frames) :
    ∀ f ∈ frames, Readable f := by
  have hwait : wireDecoder.decode t.rx = ([], t.rx) := by rw [hempty, decode_nil]
  have hdone := HilTcpTransport.crcErrorsOf_eq_zero h.room hwait h.crc
  obtain ⟨houtput, -⟩ := HilTcpTransport.run_decodes h.room hwait
  rw [hempty, List.nil_append, hstream] at hdone houtput
  have hhandled := h.handled
  have hknown : ∀ f ∈ frames, Known f → ∃ frame, HandledAs f frame := by
    intro f hf hknown
    obtain ⟨hlength, hget⟩ := List.forall₂_iff_get.mp hhandled
    have hmem : f ∈ frames.filter Known := List.mem_filter.mpr ⟨hf, decide_eq_true hknown⟩
    obtain ⟨i, hi, rfl⟩ := List.getElem_of_mem hmem
    exact ⟨_, hget i hi (hlength ▸ hi)⟩
  have hcount := handled_count (List.forall_mem_nil _) hsignature hplain hknown hdone
  rw [List.nil_append, ← houtput, ← hhandled.length_eq] at hcount
  -- As many frames are known as look known, so these are the same.
  have hsame : frames.filter Known = frames.filter fun f => (crcExtra f.id0).isSome := by
    refine List.Sublist.eq_of_length (List.monotone_filter_right _ fun f hf => ?_) hcount
    exact (of_decide_eq_true hf).2.2
  have hlow : ∀ f ∈ frames, (crcExtra f.id0).isSome → Known f := by
    intro f hf hsome
    have hmem : f ∈ frames.filter fun f => (crcExtra f.id0).isSome :=
      List.mem_filter.mpr ⟨hf, hsome⟩
    rw [← hsame] at hmem
    exact of_decide_eq_true (List.mem_filter.mp hmem).2
  intro f hf
  refine ⟨fun hsome => ⟨(hlow f hf hsome).1, (hlow f hf hsome).2.1⟩, fun hgps => ?_,
    hsignature f hf⟩
  have hextra : crcExtra f.id0 = some 124 := by
    rw [hgps]
    rfl
  obtain ⟨frame, -, -, -, hframe⟩ := hknown f hf (hlow f hf (by rw [hextra]; rfl))
  rcases parseMessage_cases hextra f.payload with ⟨-, -, hfail⟩ | ⟨hlong, -⟩
  · rw [hfail] at hframe
    cases hframe
  · exact hlong hgps

/-- Well-formed frames come through the transport, in whatever chunks their bytes arrive, if each
is read for what it is; and only then, as long as no signature holds a start byte and no frame
passes for a position. -/
theorem reassembled_iff (hwf : ∀ f ∈ frames, WellFormed f) (hempty : t.rx = [])
    (hsize : ∀ chunk ∈ chunks, chunk.length ≤ maxFrameSize)
    (hstream : chunks.flatten = stream frames) :
    ((∀ f ∈ frames, Readable f) → Reassembled t chunks frames) ∧
      ((∀ f ∈ frames, (∀ b ∈ f.signature, isStart b = false) ∧ ¬ Disguised f) →
        (Reassembled t chunks frames ↔ ∀ f ∈ frames, Readable f)) := by
  have hsound (hread : ∀ f ∈ frames, Readable f) :=
    reassembled_of_readable hwf hread hempty hsize hstream
  refine ⟨hsound, fun hscope => ⟨fun h => ?_, hsound⟩⟩
  exact readable_of_reassembled hempty hstream (fun f hf => (hscope f hf).1)
    (fun f hf => (hscope f hf).2) h

/-- A position without a fix, sent without its zeros. -/
def noFixFrame : RawFrame where
  incompatFlags := 0
  compatFlags := 0
  seq := 0
  sysid := 1
  compid := 1
  id0 := 113
  id1 := 0
  id2 := 0
  payload := [0x40, 0x42, 0x0F]
  crc0 := 0x62
  crc1 := 0xE3
  signature := []
  payload_le := by decide
  signature_length := RawFrame.unsigned_length

theorem noFixFrame_wellFormed : WellFormed noFixFrame :=
  ⟨by decide, 124, fun _ => rfl, by decide +kernel⟩

/-- A transport that has received nothing. -/
def HilTcpTransport.idle : HilTcpTransport := ⟨[], 0, 0, [], 0, [], []⟩

/-- A sensor frame whose payload is cut to its first byte. -/
def oneByteFrame : RawFrame :=
  { noFixFrame with
    id0 := 107, payload := [1], crc0 := 0xA9, crc1 := 0x68, payload_le := by decide }

/-- A position with a fix, all 36 bytes of it. -/
def fixFrame : RawFrame :=
  { noFixFrame with
    seq := 1
    payload := [0x40, 0x42, 0x0F] ++ List.replicate 32 0 ++ [3]
    crc0 := 0x92
    crc1 := 0x77
    payload_le := by decide }

/-- An attitude, which is not decoded. -/
def attitudeFrame : RawFrame :=
  { noFixFrame with
    seq := 2
    id0 := 30
    payload := [5, 6]
    crc0 := 0xC8
    crc1 := 0x5B
    payload_le := by decide }

def readableFrames : List RawFrame := [oneByteFrame, fixFrame, attitudeFrame]

/-- The first frame comes in two pieces, and so does the second. -/
def cutChunks : List Bytes :=
  [(stream readableFrames).take 5, ((stream readableFrames).drop 5).take 30,
    (stream readableFrames).drop 35]

/-- Frames that are cut come through, and the position without a fix does not. -/
theorem reassembled_iff_cutFrames :
    Reassembled .idle cutChunks readableFrames ∧
      (Reassembled .idle [noFixFrame.bytes] [noFixFrame] ↔ ∀ f ∈ [noFixFrame], Readable f) := by
  constructor
  · have hwf : ∀ f ∈ readableFrames, WellFormed f := by
      refine List.forall_mem_cons.mpr ⟨⟨by decide, 108, fun _ => rfl, by decide +kernel⟩, ?_⟩
      refine List.forall_mem_cons.mpr ⟨⟨by decide, 124, fun _ => rfl, by decide +kernel⟩, ?_⟩
      exact List.forall_mem_singleton.mpr
        ⟨by decide, 39, fun hknown => absurd hknown (by decide), by decide +kernel⟩
    have hread : ∀ f ∈ readableFrames, Readable f := by
      refine List.forall_mem_cons.mpr ⟨⟨fun _ => ⟨rfl, rfl⟩, nofun, nofun⟩, ?_⟩
      refine List.forall_mem_cons.mpr ⟨⟨fun _ => ⟨rfl, rfl⟩, fun _ => by decide, nofun⟩, ?_⟩
      exact List.forall_mem_singleton.mpr ⟨fun _ => ⟨rfl, rfl⟩, nofun, nofun⟩
    exact (reassembled_iff hwf rfl (by decide +kernel) (by decide +kernel)).1 hread
  · have hknown : Known noFixFrame := by decide
    have hwf : ∀ f ∈ [noFixFrame], WellFormed f :=
      List.forall_mem_singleton.mpr noFixFrame_wellFormed
    exact (reassembled_iff hwf rfl (by decide) rfl).2
      (List.forall_mem_singleton.mpr ⟨nofun, fun hdisguised => hdisguised.1 hknown⟩)

/-- It is not handled. -/
theorem noFixFrame_lost :
    ¬ ∀ (t : HilTcpTransport) (chunks : List Bytes) (frames : List RawFrame),
      (∀ f ∈ frames, WellFormed f) → t.rx = [] →
        (∀ chunk ∈ chunks, chunk.length ≤ maxFrameSize) → chunks.flatten = stream frames →
        Reassembled t chunks frames := by
  intro hclaim
  have hdone := (hclaim .idle [noFixFrame.bytes] [noFixFrame] (by simpa using noFixFrame_wellFormed)
    rfl (by decide) rfl).handled
  have hknown : [noFixFrame].filter Known = [noFixFrame] := rfl
  rw [hknown] at hdone
  obtain ⟨frame, -, ⟨-, -, -, hframe⟩, -, -⟩ := List.forall₂_cons_left_iff.mp hdone
  have hfail : parseMessage noFixFrame.id0 noFixFrame.payload = fail .invalidPayload := by
    decide +kernel
  rw [hfail] at hframe
  cases hframe

end Aviate.Hil
