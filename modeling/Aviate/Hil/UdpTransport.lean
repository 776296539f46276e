import Aviate.Hil.Reassembly

/-!
# The HIL UDP transport

What the UDP transport does with its datagrams (`mavlink-hil/src/transport.rs`). Its buffer is that
of the TCP transport, but bytes without room are dropped and nothing else is.

Results:
1. `process_data` carries out what the decoder of the stream makes of the buffer and of what it
   takes of the datagram (`processData_spec`).
2. After any operations the decoder waits on the buffer (`waiting_run`).
-/

namespace Aviate.Hil

open StreamDecoder

/-- `rx` is the part of the buffer in use. -/
structure HilTransport where
  rx : Bytes
  rxCount : UInt64
  crcErrors : UInt64
  lastSensor : Option HilSensor
  lastGps : Option HilGps
  lastStateQuaternion : Option HilStateQuaternion

/-- A datagram arrives, a cached message is taken, or the world is reset. -/
inductive UdpOp where
  | receive (datagram : Bytes)
  | takeSensor
  | takeGps
  | takeStateQuaternion
  | clearGenerationState

/-- What a buffer holds after a datagram: what has room of it is appended. -/
def filled (rx data : Bytes) : Bytes := rx ++ data.take (rxBufSize - rx.length)

/-- The frames that the decoder makes of bytes. -/
def framesOf (buf : Bytes) : List MavFrame :=
  (wireDecoder.decode buf).1.filterMap WireEvent.frame?

namespace HilTransport

def new : HilTransport := ⟨[], 0, 0, none, none, none⟩

def handleFrame (t : HilTransport) (frame : MavFrame) : HilTransport :=
  match frame.message with
  | .sensor sensor => { t with lastSensor := some sensor }
  | .gps gps => { t with lastGps := some gps }
  | .stateQuaternion state => { t with lastStateQuaternion := some state }
  | .heartbeat _ | .actuatorControls _ => t

/-- Parse frames from `offset` on, with the frames handled. Every round but the last consumes a
byte at least. -/
def parseLoop : Nat → HilTransport → Nat → List MavFrame × HilTransport × Nat
  | 0, t, offset => ([], t, offset)
  | fuel + 1, t, offset =>
    if offset < t.rx.length then
      match parseFrame (t.rx.drop offset) with
      | .ok (frame, consumed) =>
        let t := t.handleFrame frame
        let (handled, t, offset) :=
          parseLoop fuel { t with rxCount := t.rxCount + 1 } (offset + consumed)
        (frame :: handled, t, offset)
      | .error (.error .incomplete) => ([], t, offset)
      | .error (.error .crcMismatch) =>
        parseLoop fuel { t with crcErrors := t.crcErrors + 1 } (offset + 1)
      | .error (.error (.unknownMessage _ consumed)) => parseLoop fuel t (offset + consumed)
      | .error (.error _) => parseLoop fuel t (offset + 1)
      -- Parsing never runs out of range.
      | .error .outOfRange => ([], t, offset)
    else ([], t, offset)

/-- Append what the buffer has room for, and parse whole frames out of it. -/
def processData (t : HilTransport) (data : Bytes) : List MavFrame × HilTransport :=
  let space := rxBufSize - t.rx.length
  let t := { t with rx := t.rx ++ data.take (min data.length space) }
  let (handled, t, offset) := parseLoop t.rx.length t 0
  (handled, { t with rx := t.rx.drop offset })

/-- A round of `poll`: a datagram is received into a buffer of one frame's size. -/
def receive (t : HilTransport) (datagram : Bytes) : List MavFrame × HilTransport :=
  t.processData (datagram.take maxFrameSize)

def clearGenerationState (t : HilTransport) : HilTransport :=
  { t with rx := [], lastSensor := none, lastGps := none, lastStateQuaternion := none }

/-- The output is the frames handled. -/
def machine : Machine HilTransport UdpOp (List MavFrame) where
  step t
    | .receive datagram => ((t.receive datagram).2, (t.receive datagram).1)
    | .takeSensor => ({ t with lastSensor := none }, [])
    | .takeGps => ({ t with lastGps := none }, [])
    | .takeStateQuaternion => ({ t with lastStateQuaternion := none }, [])
    | .clearGenerationState => (t.clearGenerationState, [])

/-! ## The transport runs the decoder -/

variable {t : HilTransport} {data : Bytes}

@[simp] theorem handleFrame_rx (t : HilTransport) (frame : MavFrame) :
    (t.handleFrame frame).rx = t.rx := by
  unfold handleFrame
  split <;> rfl

/-- The loop carries out the decoder's events on what follows the offset. -/
theorem parseLoop_spec (fuel : Nat) {t : HilTransport} {offset : Nat}
    (hfuel : (t.rx.drop offset).length ≤ fuel) (hoffset : offset ≤ t.rx.length) :
    (t.parseLoop fuel offset).1 =
        (wireDecoder.decode (t.rx.drop offset)).1.filterMap WireEvent.frame? ∧
      (t.parseLoop fuel offset).2.1.rx = t.rx ∧
      t.rx.drop (t.parseLoop fuel offset).2.2 = (wireDecoder.decode (t.rx.drop offset)).2 := by
  induction fuel generalizing t offset with
  | zero =>
    have hnil : t.rx.drop offset = [] := List.eq_nil_of_length_eq_zero (Nat.le_zero.mp hfuel)
    rw [hnil, decode_nil]
    exact ⟨rfl, rfl, hnil⟩
  | succ fuel ih =>
    unfold parseLoop
    by_cases hmore : offset < t.rx.length
    · rw [if_pos hmore]
      have hlength : (t.rx.drop offset).length = t.rx.length - offset := List.length_drop
      -- The rest of the loop, after `n` bytes consumed.
      have hrest (t' : HilTransport) (hrx : t'.rx = t.rx) {n : Nat} (hpos : 0 < n)
          (hle : n ≤ (t.rx.drop offset).length) := by
        have hnext := @ih t' (offset + n) (by rw [hrx, List.length_drop]; omega)
          (by rw [hrx]; omega)
        rw [hrx, ← List.drop_drop] at hnext
        exact hnext
      have hnext : wireDecoder.next (t.rx.drop offset) = wireNext (t.rx.drop offset) := rfl
      unfold wireNext at hnext
      rcases parseFrame_cases (t.rx.drop offset) with hwait | ⟨k, hpos, hle, hsettled, -⟩
      · rw [hwait] at hnext ⊢
        rw [decode_of_wait hnext]
        exact ⟨rfl, rfl, rfl⟩
      · generalize parseFrame (t.rx.drop offset) = result at hnext hsettled
        cases hsettled with
        | parsed frame =>
          obtain ⟨hhandled, hrx, hdrop⟩ :=
            hrest { t.handleFrame frame with rxCount := (t.handleFrame frame).rxCount + 1 }
              (handleFrame_rx t frame) hpos hle
          rw [decode_of_event hnext]
          exact ⟨congrArg (frame :: ·) hhandled, hrx, hdrop⟩
        | unknown msgId =>
          rw [decode_of_skip hnext]
          exact hrest t rfl hpos hle
        | mismatch =>
          rw [decode_of_event hnext]
          exact hrest { t with crcErrors := t.crcErrors + 1 } rfl Nat.one_pos (by omega)
        | invalid =>
          rw [decode_of_skip hnext]
          exact hrest t rfl Nat.one_pos (by omega)
    · rw [if_neg hmore]
      have hnil : t.rx.drop offset = [] := List.drop_eq_nil_of_le (Nat.le_of_not_lt hmore)
      rw [hnil, decode_nil]
      exact ⟨rfl, rfl, rfl⟩

theorem processData_spec (t : HilTransport) (data : Bytes) :
    (t.processData data).1 = framesOf (filled t.rx data) ∧
      (t.processData data).2.rx = (wireDecoder.decode (filled t.rx data)).2 := by
  have htake : data.take (min data.length (rxBufSize - t.rx.length)) =
      data.take (rxBufSize - t.rx.length) := by
    rw [List.take_eq_take_iff]
    omega
  have hspec := @parseLoop_spec (filled t.rx data).length { t with rx := filled t.rx data } 0
    (Nat.le_refl _) (Nat.zero_le _)
  simp only [List.drop_zero] at hspec
  obtain ⟨hhandled, hrx, hdrop⟩ := hspec
  unfold processData
  simp only [htake]
  exact ⟨hhandled, (congrArg (List.drop _) hrx).trans hdrop⟩

theorem length_filled (h : t.rx.length ≤ rxBufSize) :
    (filled t.rx data).length = min (t.rx.length + data.length) rxBufSize := by
  rw [filled, List.length_append, List.length_take]
  omega

/-- The decoder waits on the buffer. -/
structure Waiting (t : HilTransport) : Prop where
  next : wireNext t.rx = .wait
  length_le : t.rx.length ≤ rxBufSize

theorem waiting_empty (h : t.rx = []) : t.Waiting := ⟨h ▸ rfl, h ▸ Nat.zero_le _⟩

/-- What the decoder leaves over fits the buffer. -/
theorem Waiting.processData (h : t.Waiting) (data : Bytes) : (t.processData data).2.Waiting := by
  obtain ⟨-, hrx⟩ := processData_spec t data
  refine ⟨hrx ▸ decode_rest (d := wireDecoder) _, ?_⟩
  have hsuffix := (decode_rest_suffix (d := wireDecoder) (filled t.rx data)).length_le
  rw [length_filled h.length_le] at hsuffix
  rw [hrx]
  exact hsuffix.trans (Nat.min_le_right ..)

theorem Waiting.step (h : t.Waiting) (op : UdpOp) : (machine.step t op).1.Waiting := by
  cases op with
  | receive datagram => exact h.processData _
  | takeSensor => exact ⟨h.next, h.length_le⟩
  | takeGps => exact ⟨h.next, h.length_le⟩
  | takeStateQuaternion => exact ⟨h.next, h.length_le⟩
  | clearGenerationState => exact waiting_empty rfl

/-- After any operations the decoder waits on the buffer. -/
theorem waiting_run (ops : List UdpOp) : (machine.run new ops).Waiting :=
  Machine.run_invariant (fun _ op h => h.step op) (waiting_empty rfl)

end HilTransport

end Aviate.Hil
