import Aviate.Direct.Queues
import Aviate.Foundations.StreamDecoder
import Aviate.Link.WellFormed

/-!
# Chunk invariance of the direct endpoint

The decoder of the byte stream, apart from rings and chunks, is `inboundDecoder`; the endpoint
computes what it does.

Results:
1. Well-formed frames between bytes that start none decode to the actions of their messages, in
   order (`decode_frames`).
2. `next_inbound_action` returns the decoder's next event and consumes what leads up to it
   (`nextInboundAction_spec`).
3. A poll decodes until the queue is full or the decoder waits, and takes the oldest command
   (`pollCommand_spec`).
-/

namespace Aviate.Direct

open Mavlink StreamDecoder

variable {localAddress : LocalAddress}

/-! ## The decoder of the stream -/

/-- A byte that cannot start a frame is skipped alone, and so is the start byte of a frame that
turns out wrong. -/
def inboundNext (localAddress : LocalAddress) (buf : Bytes) : Verdict InboundAction :=
  match buf[0]? with
  | none => .wait
  | some first =>
    if first ≠ mavlinkStxV2 then .take 1 none
    else if buf.length < minMavlinkV2FrameLen then .wait
    else
      let payloadLen := (buf[1]?).getD 0
      let incompat := (buf[2]?).getD 0
      if incompat &&& ~~~mavlinkIflagSigned ≠ 0 then .take 1 none
      else
        let len := frameLen payloadLen incompat
        if buf.length < len then .wait
        else
          match parseMavlinkFrame (buf.take len) with
          | .ok parsed =>
            .take parsed.consumed (some (mapMessage parsed.message parsed.header localAddress))
          | .error _ => .take 1 none

theorem consumed_pos {buf : Bytes} {p : ParsedMavlinkFrame} (h : parseMavlinkFrame buf = .ok p) :
    0 < p.consumed := by
  rcases parse_cases buf with ⟨e, hfail⟩ | ⟨f, rest, rfl⟩
  · rw [hfail] at h
    cases h
  · rw [f.parse_bytes] at h
    rw [consumed_of_interpret h, f.length_bytes]
    exact Nat.add_pos_left (Nat.succ_pos _) _

/-- What `inboundNext` takes, and from what. -/
theorem inboundNext_cases {buf : Bytes} {n : Nat} {event : Option InboundAction}
    (h : inboundNext localAddress buf = .take n event) :
    0 < n ∧ n ≤ buf.length ∧
      ∀ more, inboundNext localAddress (buf ++ more) = .take n event := by
  unfold inboundNext at h
  cases hfirst : buf[0]? with
  | none =>
    rw [hfirst] at h
    cases h
  | some first =>
    have hpos : 0 < buf.length := (List.getElem?_eq_some_iff.mp hfirst).1
    have hleft (more : Bytes) {i : Nat} (hi : i < buf.length) : (buf ++ more)[i]? = buf[i]? :=
      List.getElem?_append_left hi
    rw [hfirst] at h
    simp only at h
    unfold inboundNext
    simp only [hleft _ hpos, hfirst]
    split at h
    · next hstx =>
      cases h
      exact ⟨Nat.one_pos, hpos, fun more => if_pos hstx⟩
    split at h
    · cases h
    next hstx hlong =>
    have htwelve : 12 ≤ buf.length := Nat.le_of_not_lt hlong
    have hlong' (more : Bytes) : ¬ (buf ++ more).length < minMavlinkV2FrameLen := by
      rw [List.length_append]
      simp only [minMavlinkV2FrameLen] at hlong ⊢
      omega
    simp only [if_neg hstx, hlong', if_false, hleft _ (show 1 < buf.length by omega),
      hleft _ (show 2 < buf.length by omega)]
    split at h
    · next hflags =>
      cases h
      exact ⟨Nat.one_pos, hpos, fun more => if_pos hflags⟩
    split at h
    · cases h
    next hflags hwhole =>
    have hwhole' (more : Bytes) :
        ¬ (buf ++ more).length < frameLen ((buf[1]?).getD 0) ((buf[2]?).getD 0) := by
      rw [List.length_append]
      omega
    have htake (more : Bytes) :
        (buf ++ more).take (frameLen ((buf[1]?).getD 0) ((buf[2]?).getD 0)) =
          buf.take (frameLen ((buf[1]?).getD 0) ((buf[2]?).getD 0)) :=
      List.take_append_of_le_length (Nat.le_of_not_lt hwhole)
    simp only [if_neg hflags, hwhole', if_false, htake]
    cases hparse : parseMavlinkFrame
        (buf.take (frameLen ((buf[1]?).getD 0) ((buf[2]?).getD 0))) with
    | ok parsed =>
      rw [hparse] at h
      cases h
      have hle := ((parse_prefix_determined _).2 _ hparse).1
      exact ⟨consumed_pos hparse, hle.trans (List.length_take_le' _ _), fun _ => rfl⟩
    | error fault =>
      rw [hparse] at h
      cases h
      exact ⟨Nat.one_pos, hpos, fun _ => rfl⟩

/-- The decoder of a byte stream into actions. -/
def inboundDecoder (localAddress : LocalAddress) : StreamDecoder UInt8 InboundAction where
  next := inboundNext localAddress
  take_pos h := (inboundNext_cases h).1
  take_le h := (inboundNext_cases h).2.1
  stable more h := (inboundNext_cases h).2.2 more

/-- Bytes before the next start byte bring no event. -/
theorem decode_skip {gap : Bytes} (hgap : ∀ b ∈ gap, b ≠ mavlinkStxV2) (rest : Bytes) :
    (inboundDecoder localAddress).decode (gap ++ rest) =
      (inboundDecoder localAddress).decode rest := by
  induction gap with
  | nil => rfl
  | cons b gap ih =>
    have hnext : (inboundDecoder localAddress).next (b :: gap ++ rest) = .take 1 none :=
      if_pos (hgap b List.mem_cons_self)
    rw [decode_of_skip hnext]
    exact ih fun b hb => hgap b (List.mem_cons_of_mem _ hb)

/-- A well-formed frame brings its message's action. -/
theorem inboundNext_frame {f : RawFrame} {p : ParsedMavlinkFrame} (h : f.WellFormed)
    (hp : f.interpret = .ok p) (rest : Bytes) :
    inboundNext localAddress (f.bytes ++ rest) =
      .take f.bytes.length (some (mapMessage p.message p.header localAddress)) := by
  have hlong : ¬ (f.bytes ++ rest).length < minMavlinkV2FrameLen := by
    rw [List.length_append, f.length_bytes]
    simp only [MavHeader.size, minMavlinkV2FrameLen]
    omega
  have hwhole : frameLen (.ofNat f.payload.length) f.incompatFlags = f.bytes.length := by
    rw [frameLen, f.toNat_length, f.length_bytes, f.signature_length]
  have hlength : ¬ (f.bytes ++ rest).length < f.bytes.length := by
    rw [List.length_append]
    exact Nat.not_lt.mpr (Nat.le_add_right _ _)
  have hparse : parseMavlinkFrame ((f.bytes ++ rest).take f.bytes.length) = .ok p := by
    have halone := f.parse_bytes []
    rw [List.append_nil] at halone
    rw [List.take_left, halone, hp]
  have hstart : (f.bytes ++ rest)[0]? = some mavlinkStxV2 := rfl
  have hdeclared : (f.bytes ++ rest)[1]? = some (.ofNat f.payload.length) := rfl
  have hflags : (f.bytes ++ rest)[2]? = some f.incompatFlags := rfl
  unfold inboundNext
  simp only [hstart, hdeclared, hflags, Option.getD_some, hwhole, hparse, if_neg hlong,
    if_neg hlength, if_neg (not_not.mpr h.flags), ne_eq, not_true_eq_false, if_false,
    consumed_of_interpret hp]

/-- Well-formed frames, each after bytes that start none, bring the actions of their messages in
order. -/
theorem decode_frames {frames : List (Bytes × RawFrame)} {last : Bytes}
    (hgaps : ∀ g ∈ frames, ∀ b ∈ g.1, b ≠ mavlinkStxV2) (hlast : ∀ b ∈ last, b ≠ mavlinkStxV2)
    (hframes : ∀ g ∈ frames, g.2.WellFormed) :
    ∃ parsed, List.Forall₂ (fun g p => g.2.interpret = .ok p) frames parsed ∧
      (inboundDecoder localAddress).decode
          (frames.flatMap (fun g => g.1 ++ g.2.bytes) ++ last) =
        (parsed.map fun p => mapMessage p.message p.header localAddress, []) := by
  induction frames with
  | nil =>
    refine ⟨[], .nil, ?_⟩
    have hskip : (inboundDecoder localAddress).decode (last ++ []) =
        (inboundDecoder localAddress).decode [] := decode_skip hlast []
    rw [List.append_nil, decode_nil] at hskip
    exact hskip
  | cons g frames ih =>
    obtain ⟨parsed, hparsed, hrest⟩ := ih (fun g hg => hgaps g (List.mem_cons_of_mem _ hg))
      fun g hg => hframes g (List.mem_cons_of_mem _ hg)
    have hformed := hframes g List.mem_cons_self
    obtain ⟨p, hp⟩ := RawFrame.interpret_of_wellFormed hformed
    refine ⟨p :: parsed, .cons hp hparsed, ?_⟩
    rw [List.flatMap_cons, List.append_assoc, List.append_assoc,
      decode_skip (hgaps g List.mem_cons_self), decode_of_event (inboundNext_frame hformed hp _),
      List.drop_left, hrest]
    rfl

/-! ## Extracting one action -/

/-- The decoder's next event, with what it leaves; or nothing, with what the decoder waits on. -/
def Extracted (localAddress : LocalAddress) (buf : Bytes) : Option InboundAction → Bytes → Prop
  | none, left => (inboundDecoder localAddress).decode buf = ([], left)
  | some action, left => left.length < buf.length ∧
    (inboundDecoder localAddress).decode buf =
      (action :: ((inboundDecoder localAddress).decode left).1,
        ((inboundDecoder localAddress).decode left).2)

/-- Bytes that bring no event may be consumed first. -/
theorem Extracted.of_skip {buf left : Bytes} {n : Nat} {action : Option InboundAction}
    (hskip : (inboundDecoder localAddress).decode buf =
      (inboundDecoder localAddress).decode (buf.drop n))
    (h : Extracted localAddress (buf.drop n) action left) :
    Extracted localAddress buf action left := by
  cases action with
  | none => exact hskip.trans h
  | some action =>
    refine ⟨Nat.lt_of_lt_of_le h.1 ?_, hskip.trans h.2⟩
    rw [List.length_drop]
    exact Nat.sub_le _ _

theorem frameLen_le (payloadLen incompat : UInt8) :
    frameLen payloadLen incompat ≤ maxMavlinkV2FrameLen := by
  have hlen := payloadLen.toNat_lt
  simp only [frameLen, MavHeader.size, maxMavlinkV2FrameLen, mavlinkSignatureLen]
  split <;> omega

/-- The bytes before the first start byte of a buffer that does not begin with one. -/
theorem decode_findIdx {buf : Bytes} {first : UInt8} {k : Nat} (hfirst : buf[0]? = some first)
    (hstx : first ≠ mavlinkStxV2) (hk : 0 < k) :
    (inboundDecoder localAddress).decode buf = (inboundDecoder localAddress).decode (buf.drop
      (max (((buf.take k).findIdx? (· = mavlinkStxV2)).getD (min k buf.length)) 1)) := by
  have hgap : ∀ b ∈ buf.take
      (max (((buf.take k).findIdx? (· = mavlinkStxV2)).getD (min k buf.length)) 1),
      b ≠ mavlinkStxV2 := by
    intro b hb hstart
    subst hstart
    obtain ⟨i, hi⟩ := List.mem_iff_getElem?.mp hb
    have hlt : i < max (((buf.take k).findIdx? (· = mavlinkStxV2)).getD (min k buf.length)) 1 := by
      have hlength := (List.getElem?_eq_some_iff.mp hi).1
      rw [List.length_take] at hlength
      omega
    rw [List.getElem?_take_of_lt hlt] at hi
    cases hfind : (buf.take k).findIdx? (· = mavlinkStxV2) with
    | none =>
      rw [hfind] at hlt
      have hik : i < k := by
        simp only [Option.getD_none] at hlt
        omega
      have hmem : mavlinkStxV2 ∈ buf.take k :=
        List.mem_of_getElem? ((List.getElem?_take_of_lt hik).trans hi)
      simpa using List.findIdx?_eq_none_iff.mp hfind _ hmem
    | some j =>
      rw [hfind] at hlt
      simp only [Option.getD_some] at hlt
      obtain ⟨hj, -, hbefore⟩ := List.findIdx?_eq_some_iff_getElem.mp hfind
      by_cases hij : i < j
      · have hik : i < (buf.take k).length := Nat.lt_trans hij hj
        have hget : (buf.take k)[i] = mavlinkStxV2 := by
          rw [List.getElem_take]
          exact (List.getElem?_eq_some_iff.mp hi).2
        simpa [hget] using hbefore i hij
      · have hzero : i = 0 := by omega
        rw [hzero, hfirst] at hi
        exact hstx (Option.some.inj hi)
  conv_lhs => rw [← List.take_append_drop
    (max (((buf.take k).findIdx? (· = mavlinkStxV2)).getD (min k buf.length)) 1) buf]
  exact decode_skip hgap _

variable {N : Nat} {ring : DirectByteRing N}

theorem nextInboundActionLoop_spec (hN : maxMavlinkV2FrameLen ≤ N) (fuel : Nat) :
    ∀ {ring : DirectByteRing N} {scratch : Bytes}, ring.Valid → ring.len ≤ fuel →
      scratch.length = maxMavlinkV2FrameLen →
      (nextInboundActionLoop localAddress fuel ring scratch).2.Valid ∧
        Extracted localAddress ring.contents
          (nextInboundActionLoop localAddress fuel ring scratch).1
          (nextInboundActionLoop localAddress fuel ring scratch).2.contents := by
  induction fuel with
  | zero =>
    intro ring scratch hring hfuel _
    have hnil : ring.contents = [] := by
      refine List.eq_nil_of_length_eq_zero ?_
      rw [hring.length_contents]
      exact Nat.le_zero.mp hfuel
    refine ⟨hring, ?_⟩
    show (inboundDecoder localAddress).decode ring.contents = ([], ring.contents)
    rw [hnil, decode_nil]
  | succ fuel ih =>
    intro ring scratch hring hfuel hscratch
    have hlength := hring.length_contents
    -- Consuming without an event and going on.
    have hagain {n : Nat} {scratch' : Bytes} (hn : 0 < n) (hpos : 0 < ring.len)
        (hscratch' : scratch'.length = maxMavlinkV2FrameLen)
        (hskip : (inboundDecoder localAddress).decode ring.contents =
          (inboundDecoder localAddress).decode (ring.contents.drop n)) :
        (nextInboundActionLoop localAddress fuel (ring.consume n) scratch').2.Valid ∧
          Extracted localAddress ring.contents
            (nextInboundActionLoop localAddress fuel (ring.consume n) scratch').1
            (nextInboundActionLoop localAddress fuel (ring.consume n) scratch').2.contents := by
      obtain ⟨hvalid, hcontents, hlen⟩ : (ring.consume n).Valid ∧
          (ring.consume n).contents = ring.contents.drop n ∧ (ring.consume n).len = ring.len - n :=
        DirectByteRing.consume_spec hring
      obtain ⟨hvalid', hextracted⟩ := ih hvalid (by omega) hscratch'
      rw [hcontents] at hextracted
      exact ⟨hvalid', hextracted.of_skip hskip⟩
    have hwait {r : Option InboundAction × DirectByteRing N} (hr : r = (none, ring))
        (hnext : (inboundDecoder localAddress).next ring.contents = .wait) :
        r.2.Valid ∧ Extracted localAddress ring.contents r.1 r.2.contents := by
      subst hr
      exact ⟨hring, decode_of_wait hnext⟩
    by_cases hempty : ring.len = 0
    · have hnil : ring.contents = [] := by
        refine List.eq_nil_of_length_eq_zero ?_
        rw [hlength, hempty]
      refine hwait (if_pos (by simpa [DirectByteRing.isEmpty] using hempty)) ?_
      rw [hnil]
      rfl
    have hpos : 0 < ring.len := Nat.pos_of_ne_zero hempty
    -- What the scratch buffer holds after the peek.
    obtain ⟨buffer, hpeek, hbuffer, hget, htake⟩ : ∃ buffer : Bytes,
        ring.peek scratch = (min maxMavlinkV2FrameLen ring.len, buffer) ∧
        buffer.length = maxMavlinkV2FrameLen ∧
        (∀ i, i < min maxMavlinkV2FrameLen ring.len → buffer[i]? = ring.contents[i]?) ∧
        ∀ k, k ≤ min maxMavlinkV2FrameLen ring.len → buffer.take k = ring.contents.take k := by
      refine ⟨_, by rw [DirectByteRing.peek_spec hring, hscratch], ?_, fun i hi => ?_,
        fun k hk => ?_⟩
      · rw [List.length_append, List.length_take, List.length_drop, hscratch, hlength]
        omega
      · rw [List.getElem?_append_left (by rw [List.length_take]; omega),
          List.getElem?_take_of_lt (by omega)]
      · rw [List.take_append_of_le_length (by rw [List.length_take]; omega), List.take_take,
          Nat.min_eq_left (by omega)]
    have hmax : 12 < maxMavlinkV2FrameLen := by decide
    obtain ⟨first, hfirst⟩ : ∃ first, ring.contents[0]? = some first :=
      ⟨_, List.getElem?_eq_getElem (hlength ▸ hpos)⟩
    have hnext : (inboundDecoder localAddress).next ring.contents =
        inboundNext localAddress ring.contents := rfl
    unfold inboundNext at hnext
    simp only [hfirst] at hnext
    unfold nextInboundActionLoop
    simp only [DirectByteRing.isEmpty, hempty, decide_false, Bool.false_eq_true, if_false, hpeek,
      hget 0 (by omega), hfirst]
    by_cases hstx : first ≠ mavlinkStxV2
    · rw [if_pos hstx]
      have hskip : (inboundDecoder localAddress).decode ring.contents = _ :=
        decode_findIdx hfirst hstx (Nat.lt_of_le_of_lt (Nat.zero_le 12) hmax)
      have hwhole : buffer.take (min maxMavlinkV2FrameLen ring.len) =
          ring.contents.take maxMavlinkV2FrameLen := by
        rw [htake _ (Nat.le_refl _), ← hlength, ← List.take_take, List.take_length]
      rw [hlength] at hskip
      rw [hwhole]
      exact hagain (Nat.lt_of_lt_of_le Nat.one_pos (Nat.le_max_right _ _)) hpos hbuffer hskip
    rw [if_neg hstx] at hnext ⊢
    have hskipOne (h : (inboundDecoder localAddress).next ring.contents = .take 1 none) :=
      decode_of_skip h
    by_cases hshort : min maxMavlinkV2FrameLen ring.len < minMavlinkV2FrameLen
    · have hfew : ring.contents.length < minMavlinkV2FrameLen := by
        simp only [minMavlinkV2FrameLen] at hshort ⊢
        omega
      have hroom : ring.remainingCapacity ≠ 0 := by
        simp only [DirectByteRing.remainingCapacity, minMavlinkV2FrameLen] at hshort ⊢
        omega
      rw [if_pos hfew] at hnext
      rw [if_pos hshort, if_neg hroom]
      exact hwait rfl hnext
    have hlong : ¬ ring.contents.length < minMavlinkV2FrameLen := by
      simp only [minMavlinkV2FrameLen] at hshort ⊢
      omega
    simp only [minMavlinkV2FrameLen] at hshort
    rw [if_neg hlong] at hnext
    rw [if_neg (show ¬ min maxMavlinkV2FrameLen ring.len < minMavlinkV2FrameLen from hshort)]
    simp only [hget 1 (by omega), hget 2 (by omega)]
    generalize hpayloadLen : (ring.contents[1]?).getD 0 = payloadLen at hnext ⊢
    generalize hincompat : (ring.contents[2]?).getD 0 = incompat at hnext ⊢
    by_cases hflags : incompat &&& ~~~mavlinkIflagSigned ≠ 0
    · rw [if_pos hflags] at hnext ⊢
      exact hagain Nat.one_pos hpos hbuffer (hskipOne hnext)
    rw [if_neg hflags] at hnext ⊢
    have hframe := frameLen_le payloadLen incompat
    by_cases hpart : min maxMavlinkV2FrameLen ring.len < frameLen payloadLen incompat
    · have hfew : ring.contents.length < frameLen payloadLen incompat := by omega
      have hroom : ¬ (ring.remainingCapacity = 0 && N < frameLen payloadLen incompat) = true := by
        simp only [Bool.and_eq_true, decide_eq_true_eq, not_and]
        omega
      rw [if_pos hfew] at hnext
      rw [if_pos hpart, if_neg hroom]
      exact hwait rfl hnext
    rw [if_neg (show ¬ ring.contents.length < frameLen payloadLen incompat by omega)] at hnext
    rw [if_neg hpart, if_neg (show ¬ buffer.length < frameLen payloadLen incompat by omega),
      htake _ (Nat.le_of_not_lt hpart)]
    cases hparse : parseMavlinkFrame (ring.contents.take (frameLen payloadLen incompat)) with
    | ok parsed =>
      rw [hparse] at hnext
      obtain ⟨hvalid, hcontents, hlen⟩ : (ring.consume parsed.consumed).Valid ∧
          (ring.consume parsed.consumed).contents = ring.contents.drop parsed.consumed ∧
            (ring.consume parsed.consumed).len = ring.len - parsed.consumed :=
        DirectByteRing.consume_spec hring
      have hconsumed := consumed_pos hparse
      refine ⟨hvalid, ?_, ?_⟩
      · rw [hvalid.length_contents, hlength, hlen]
        omega
      · rw [hcontents]
        exact decode_of_event hnext
    | error fault =>
      rw [hparse] at hnext
      exact hagain Nat.one_pos hpos hbuffer (hskipOne hnext)

/-- `next_inbound_action` returns the decoder's next event, if there is one. -/
theorem nextInboundAction_spec (hN : maxMavlinkV2FrameLen ≤ N) (hring : ring.Valid) :
    (nextInboundAction localAddress ring).2.Valid ∧
      Extracted localAddress ring.contents (nextInboundAction localAddress ring).1
        (nextInboundAction localAddress ring).2.contents :=
  nextInboundActionLoop_spec hN ring.len hring (Nat.le_refl _) List.length_replicate

/-! ## Polling -/

/-- The command an action queues. -/
def InboundAction.command? : InboundAction → Option (SystemCommand F32)
  | .enqueue cmd => some cmd
  | .immediateAck _ _ | .ignore => none

namespace DirectMavlinkEndpoint

variable {RX TX : Nat} {e : DirectMavlinkEndpoint RX TX} {cmds : List (SystemCommand F32)}
  {buf : Bytes}

/-- The bytes in the receive ring and the commands in the queue. -/
structure Stands (e : DirectMavlinkEndpoint RX TX) (localAddress : LocalAddress)
    (cmds : List (SystemCommand F32)) (buf : Bytes) : Prop where
  address : e.localAddress = localAddress
  ring : e.rxRing.Valid
  contents : e.rxRing.contents = buf
  queued : e.Queued cmds

theorem Queued.congr {e' : DirectMavlinkEndpoint RX TX} (h : e.Queued cmds)
    (hqueue : e'.cmdQueue = e.cmdQueue) (hhead : e'.cmdHead = e.cmdHead)
    (hlen : e'.cmdLen = e.cmdLen) : e'.Queued cmds := by
  refine ⟨hlen.le.trans h.len_le, hhead.trans_lt h.head_lt, ?_⟩
  rw [hqueue, hhead, hlen, h.window]

/-- Sending touches the transmit ring and the sequence number only. -/
theorem pushMavMessage_eq (e : DirectMavlinkEndpoint RX TX) (msg : MavMessage) :
    ∃ txRing seq, e.pushMavMessage msg = { e with txRing, seq } := by
  unfold pushMavMessage
  split
  · split
    · exact ⟨_, _, rfl⟩
    · exact ⟨e.txRing, e.seq, rfl⟩
  · exact ⟨e.txRing, e.seq, rfl⟩

/-- An action queues its command and leaves the receive ring alone. -/
theorem Stands.perform (h : e.Stands localAddress cmds buf) (hroom : e.cmdLen < commandQueueCap)
    (action : InboundAction) :
    (e.perform action).Stands localAddress (cmds ++ action.command?.toList) buf := by
  obtain ⟨haddress, hring, hcontents, hqueued⟩ := h
  cases action with
  | enqueue cmd =>
    have heq : ∃ queue len, e.enqueueCommand cmd = { e with cmdQueue := queue, cmdLen := len } :=
      ⟨_, _, if_neg (Nat.not_le.mpr hroom)⟩
    have hnew : (e.enqueueCommand cmd).Queued (cmds ++ [cmd]) := hqueued.enqueueCommand hroom
    obtain ⟨queue, len, heq⟩ := heq
    show (e.enqueueCommand cmd).Stands localAddress (cmds ++ [cmd]) buf
    rw [heq] at hnew ⊢
    exact ⟨haddress, hring, hcontents, hnew⟩
  | immediateAck command result =>
    obtain ⟨txRing, seq, heq⟩ := e.pushMavMessage_eq (.commandAck ⟨command, result, 0, 0, 255, 0⟩)
    have hperform : e.perform (.immediateAck command result) = { e with txRing, seq } := heq
    have hnone : (InboundAction.immediateAck command result).command?.toList = [] := rfl
    rw [hperform, hnone, List.append_nil]
    exact ⟨haddress, hring, hcontents, hqueued.congr rfl rfl rfl⟩
  | ignore =>
    show e.Stands localAddress (cmds ++ []) buf
    rw [List.append_nil]
    exact ⟨haddress, hring, hcontents, hqueued⟩

/-- Decoding carries out the decoder's events in order, until the queue is full or the decoder
waits. -/
theorem decodeInboundFramesLoop_spec (hRX : maxMavlinkV2FrameLen ≤ RX) (fuel : Nat) :
    ∀ {e : DirectMavlinkEndpoint RX TX} {cmds : List (SystemCommand F32)} {buf : Bytes},
      e.Stands localAddress cmds buf → e.rxRing.len < fuel →
      ∃ left, (e.decodeInboundFramesLoop fuel).2.Stands localAddress
          (cmds ++ (e.decodeInboundFramesLoop fuel).1.filterMap InboundAction.command?) left ∧
        (inboundDecoder localAddress).decode buf =
          ((e.decodeInboundFramesLoop fuel).1 ++ ((inboundDecoder localAddress).decode left).1,
            ((inboundDecoder localAddress).decode left).2) ∧
        ((e.decodeInboundFramesLoop fuel).2.cmdLen = commandQueueCap ∨
          ((inboundDecoder localAddress).decode left).1 = []) := by
  induction fuel with
  | zero =>
    intro e cmds buf _ hfuel
    exact absurd hfuel (Nat.not_lt_zero _)
  | succ fuel ih =>
    intro e cmds buf h hfuel
    unfold decodeInboundFramesLoop
    by_cases hroom : e.cmdLen < commandQueueCap
    · rw [if_pos hroom, h.address]
      obtain ⟨hvalid, hextracted⟩ : (nextInboundAction localAddress e.rxRing).2.Valid ∧ _ :=
        nextInboundAction_spec hRX h.ring
      rw [h.contents] at hextracted
      cases hout : nextInboundAction localAddress e.rxRing with
      | mk action rxRing =>
        rw [hout] at hvalid hextracted
        replace hvalid : rxRing.Valid := hvalid
        have hkept : ({ e with rxRing } : DirectMavlinkEndpoint RX TX).Queued cmds :=
          h.queued.congr rfl rfl rfl
        cases action with
        | none =>
          have hdone : (inboundDecoder localAddress).decode buf = ([], rxRing.contents) :=
            hextracted
          have hleft : (inboundDecoder localAddress).decode rxRing.contents =
              ([], rxRing.contents) := by
            refine decode_of_wait ?_
            have hrest := decode_rest (d := inboundDecoder localAddress) buf
            rwa [hdone] at hrest
          refine ⟨rxRing.contents, ⟨h.address, hvalid, rfl, ?_⟩, ?_, .inr ?_⟩
          · rw [List.filterMap_nil, List.append_nil]
            exact hkept
          · rw [hdone, hleft]
            rfl
          · rw [hleft]
        | some action =>
          obtain ⟨hshorter, hdecode⟩ := hextracted
          have hnext : ({ e with rxRing }.perform action).Stands localAddress
              (cmds ++ action.command?.toList) rxRing.contents :=
            Stands.perform (e := { e with rxRing }) ⟨h.address, hvalid, rfl, hkept⟩ hroom action
          have hlen : ({ e with rxRing }.perform action).rxRing.len < fuel := by
            have hlength := hnext.ring.length_contents
            have hbefore := h.ring.length_contents
            rw [hnext.contents] at hlength
            rw [h.contents] at hbefore
            rw [← hlength]
            refine Nat.lt_of_lt_of_le hshorter ?_
            rw [hbefore]
            exact Nat.le_of_lt_succ hfuel
          obtain ⟨left, hstands, hrest, hstop⟩ := ih hnext hlen
          refine ⟨left, ?_, ?_, hstop⟩
          · have hcommands : (action :: (decodeInboundFramesLoop fuel
                ({ e with rxRing }.perform action)).1).filterMap InboundAction.command? =
                  action.command?.toList ++ (decodeInboundFramesLoop fuel
                    ({ e with rxRing }.perform action)).1.filterMap InboundAction.command? := by
              cases hcommand : action.command? <;> simp [hcommand]
            show (decodeInboundFramesLoop fuel _).2.Stands localAddress
              (cmds ++ (action :: (decodeInboundFramesLoop fuel _).1).filterMap _) left
            rw [hcommands, ← List.append_assoc]
            exact hstands
          · rw [hdecode, hrest]
            rfl
    · rw [if_neg hroom]
      refine ⟨buf, by simpa using h, rfl, .inl ?_⟩
      exact Nat.le_antisymm h.queued.len_le (Nat.le_of_not_lt hroom)

/-- A poll decodes, and takes the oldest command. It takes none only when nothing is queued and
the decoder waits. -/
theorem pollCommand_spec (hRX : maxMavlinkV2FrameLen ≤ RX) (h : e.Stands localAddress cmds buf) :
    ∃ left cmds', e.pollCommand.2.Stands localAddress cmds' left ∧
      (inboundDecoder localAddress).decode buf =
        (e.pollCommand.1.1 ++ ((inboundDecoder localAddress).decode left).1,
          ((inboundDecoder localAddress).decode left).2) ∧
      cmds ++ e.pollCommand.1.1.filterMap InboundAction.command? =
        e.pollCommand.1.2.toList ++ cmds' ∧
      (e.pollCommand.1.2 = none →
        cmds' = [] ∧ ((inboundDecoder localAddress).decode left).1 = []) := by
  obtain ⟨left, hstands, hdecode, hstop⟩ :=
    decodeInboundFramesLoop_spec hRX (e.rxRing.len + 1) h (Nat.lt_succ_self _)
  generalize hdecoded : e.decodeInboundFramesLoop (e.rxRing.len + 1) = decoded
    at hstands hdecode hstop
  obtain ⟨actions, e'⟩ := decoded
  have hpoll : e.pollCommand = ((actions, e'.takeCommand.1), e'.takeCommand.2) := by
    simp only [pollCommand, decodeInboundFrames, hdecoded]
  rw [hpoll]
  refine ⟨left, ?_⟩
  cases hqueue : cmds ++ actions.filterMap InboundAction.command? with
  | nil =>
    rw [hqueue] at hstands
    have htake := hstands.queued.takeCommand_nil
    refine ⟨[], by rwa [htake], hdecode, by rw [htake]; rfl, fun _ => ⟨rfl, ?_⟩⟩
    -- An empty queue is not full.
    rcases hstop with hfull | hwait
    · have hlength := hstands.queued.length
      rw [show e'.cmdLen = commandQueueCap from hfull] at hlength
      cases hlength
    · exact hwait
  | cons cmd cmds' =>
    rw [hqueue] at hstands
    obtain ⟨htake, hleft⟩ := hstands.queued.takeCommand_cons
    refine ⟨cmds', ⟨?_, ?_, ?_, hleft⟩, hdecode, by rw [htake]; rfl, fun hnone => ?_⟩
    · rw [← hstands.address]
      unfold takeCommand
      split <;> rfl
    · have hsame : e'.takeCommand.2.rxRing = e'.rxRing := by
        unfold takeCommand
        split <;> rfl
      rw [hsame]
      exact hstands.ring
    · have hsame : e'.takeCommand.2.rxRing = e'.rxRing := by
        unfold takeCommand
        split <;> rfl
      rw [hsame]
      exact hstands.contents
    · rw [htake] at hnone
      cases hnone

end DirectMavlinkEndpoint

end Aviate.Direct
