import Aviate.Foundations.Machine
import Aviate.Foundations.RingBuffer
import Aviate.Model

/-!
# The transmit half of the USB link

The transmit ring of the USB driver, the writes into it and the service loop that offers its bytes
to the endpoint (`stm32h7/src/usb_cdc.rs`), and the sends of the flight board
(`micoair-h743-v2/src/usb_cdc.rs`). The endpoint takes any number of the bytes it is offered, or
refuses.

Results:
1. A write appends what its budget and the ring have room for, and the service hands the front of
   the ring to the endpoint (`tryWrite_spec`, `service_spec`).
2. What was handed over and what waits are the frames whose send returned true, and a send that
   returns false leaves the ring alone, exactly when every frame fits or meets a full ring
   (`notTorn_iff`).
-/

namespace Aviate.Usb

open RingBuffer

/-! ## The ring -/

def txBufSize : Nat := 512

/-- `SERVICE_MAX_ITERS`. -/
def serviceMaxIters : Nat := 8

/-- The fields of `Stm32h7UsbCdc` that sending uses. One cell of the ring stays free. -/
structure UsbSender where
  txBuf : Vector UInt8 txBufSize
  txHead : Nat
  txTail : Nat
  degraded : Bool
  usbInitialized : Bool

namespace UsbSender

def new : UsbSender := ⟨.replicate txBufSize 0, 0, 0, false, false⟩

def txPush (self : UsbSender) (byte : UInt8) : Bool × UsbSender :=
  let next := (self.txHead + 1) % txBufSize
  if next = self.txTail then (false, self)
  else (true, { self with txBuf := self.txBuf.setIfInBounds self.txHead byte, txHead := next })

def txLen (self : UsbSender) : Nat :=
  if self.txHead ≥ self.txTail then self.txHead - self.txTail
  else txBufSize - self.txTail + self.txHead

/-- `count` cells from `idx` on. -/
def peekFrom (self : UsbSender) : Nat → Nat → Bytes
  | 0, _ => []
  | count + 1, idx => (self.txBuf[idx]?).getD 0 :: self.peekFrom count ((idx + 1) % txBufSize)

/-- The first bytes of the ring, as many as the buffer takes. -/
def txPeek (self : UsbSender) (bufLen : Nat) : Bytes :=
  self.peekFrom (min bufLen self.txLen) self.txTail

def txConsume (self : UsbSender) (count : Nat) : UsbSender :=
  { self with txTail := (self.txTail + count) % txBufSize }

/-- Push bytes up to the first that finds no room; how many there are. -/
def pushBytes (self : UsbSender) : Bytes → Nat × UsbSender
  | [] => (0, self)
  | byte :: data =>
    match self.txPush byte with
    | (false, self) => (0, self)
    | (true, self) =>
      let (count, self) := self.pushBytes data
      (count + 1, self)

def tryWrite (self : UsbSender) (data : Bytes) : Nat × UsbSender :=
  if self.degraded then (0, self) else self.pushBytes (data.take (min data.length serviceMaxBytes))

/-- The loop that offers chunks of up to 64 bytes; what the endpoint took. `answers` is how many
bytes it takes in each round, `none` when it refuses. -/
def offer (answers : Nat → Option Nat) : Nat → Nat → UsbSender → Bytes × UsbSender
  | 0, _, self => ([], self)
  | rounds + 1, bytesWritten, self =>
    if self.txLen = 0 then ([], self)
    else
      let chunk := self.txPeek (min self.txLen 64)
      match answers rounds with
      | none => ([], self)
      | some taken =>
        let written := min taken chunk.length
        let self := self.txConsume written
        if bytesWritten + written ≥ serviceMaxBytes then (chunk.take written, self)
        else
          let (rest, self) := offer answers rounds (bytesWritten + written) self
          (chunk.take written ++ rest, self)

/-- The transmit part of `service`. -/
def service (self : UsbSender) (answers : Nat → Option Nat) : Bytes × UsbSender :=
  if !self.usbInitialized || self.degraded then ([], self)
  else offer answers serviceMaxIters 0 self

/-- `try_send_telemetry`: whether all of the frame was written. -/
def trySendTelemetry (self : UsbSender) (frame : Bytes) : Bool × UsbSender :=
  let (count, self) := self.tryWrite frame
  (count = frame.length, self)

end UsbSender

/-- `init`, a telemetry frame, a heartbeat's frame or a service call. -/
inductive SendOp where
  | init
  | telemetry (frame : Bytes)
  | heartbeat (frame : Bytes)
  | service (answers : Nat → Option Nat)

/-- Whether all of a frame was written, and what the endpoint took. -/
inductive SendOut where
  | initialized
  | sent (all : Bool)
  | handed (bytes : Bytes)

/-- The sends of a board. The board ignores what its own heartbeats report. -/
def sender : Machine UsbSender SendOp SendOut where
  step self
    | .init => ({ self with usbInitialized := true }, .initialized)
    | .telemetry frame => ((self.trySendTelemetry frame).2, .sent (self.trySendTelemetry frame).1)
    | .heartbeat frame =>
      ((self.tryWrite frame).2, .sent ((self.tryWrite frame).1 = frame.length))
    | .service answers => ((self.service answers).2, .handed (self.service answers).1)

/-! ## The ring is a queue -/

namespace UsbSender

variable {usb : UsbSender} {byte : UInt8} {data frame : Bytes} {n : Nat}

/-- The bytes in the ring, oldest first. -/
def contents (usb : UsbSender) : Bytes := window usb.txBuf.toList usb.txTail usb.txLen

/-- Both cursors are inside the array. -/
structure Valid (usb : UsbSender) : Prop where
  head_lt : usb.txHead < txBufSize
  tail_lt : usb.txTail < txBufSize

theorem valid_new : new.Valid := ⟨by decide, by decide⟩

@[simp] theorem contents_new : new.contents = [] := window_zero

theorem length_txBuf : usb.txBuf.toList.length = txBufSize := Vector.length_toList

theorem Valid.txLen_eq (h : usb.Valid) :
    usb.txLen = (usb.txHead + txBufSize - usb.txTail) % txBufSize := by
  have hhead := h.head_lt
  have htail := h.tail_lt
  unfold txLen
  simp only [txBufSize] at *
  split <;> omega

theorem Valid.txLen_lt (h : usb.Valid) : usb.txLen < txBufSize := by
  rw [h.txLen_eq]
  exact Nat.mod_lt _ (by decide)

theorem Valid.length_contents (h : usb.Valid) : usb.contents.length = usb.txLen :=
  length_window (h.txLen_lt.le.trans length_txBuf.ge)

/-- A push into a full ring is refused; otherwise the byte is appended. -/
theorem txPush_spec (h : usb.Valid) (byte : UInt8) :
    (usb.txLen + 1 = txBufSize ∧ usb.txPush byte = (false, usb)) ∨
      (usb.txLen + 1 < txBufSize ∧ (usb.txPush byte).1 = true ∧ (usb.txPush byte).2.Valid ∧
        (usb.txPush byte).2.contents = usb.contents ++ [byte]) := by
  have hhead := h.head_lt
  have htail := h.tail_lt
  have hlen := h.txLen_eq
  unfold txPush
  dsimp only
  split
  next hnext =>
    refine .inl ⟨?_, rfl⟩
    simp only [txBufSize] at *
    omega
  next hnext =>
    have hcell : (usb.txTail + usb.txLen) % txBufSize = usb.txHead := by
      simp only [txBufSize] at *
      omega
    have hroom : usb.txLen + 1 < txBufSize := by
      simp only [txBufSize] at *
      omega
    have hvalid : ({ usb with
        txBuf := usb.txBuf.setIfInBounds usb.txHead byte
        txHead := (usb.txHead + 1) % txBufSize } : UsbSender).Valid :=
      ⟨Nat.mod_lt _ (by decide), h.tail_lt⟩
    have hlast := hvalid.txLen_eq
    have hnextLen : ((usb.txHead + 1) % txBufSize + txBufSize - usb.txTail) % txBufSize =
        usb.txLen + 1 := by
      simp only [txBufSize] at *
      omega
    rw [hnextLen] at hlast
    refine .inr ⟨hroom, rfl, hvalid, ?_⟩
    have hset : window (usb.txBuf.toList.set ((usb.txTail + usb.txLen) % txBufSize) byte)
        usb.txTail (usb.txLen + 1) = window usb.txBuf.toList usb.txTail usb.txLen ++ [byte] := by
      rw [← window_set (h.txLen_lt.trans_eq length_txBuf.symm), length_txBuf]
    rw [hcell] at hset
    rw [contents, hlast, Vector.toList_setIfInBounds]
    exact hset

/-- What fits is appended. -/
theorem pushBytes_spec (h : usb.Valid) (data : Bytes) :
    (usb.pushBytes data).1 = min data.length (txBufSize - 1 - usb.contents.length) ∧
      (usb.pushBytes data).2.Valid ∧ (usb.pushBytes data).2.contents =
        usb.contents ++ data.take (txBufSize - 1 - usb.contents.length) := by
  induction data generalizing usb with
  | nil => exact ⟨(Nat.zero_min _).symm, h, by rw [List.take_nil, List.append_nil]; rfl⟩
  | cons byte data ih =>
    rw [pushBytes, h.length_contents]
    rcases txPush_spec h byte with ⟨hfull, hpush⟩ | ⟨hroom, hpush, hvalid, hcontents⟩
    · have hnone : txBufSize - 1 - usb.txLen = 0 := by omega
      rw [hpush, hnone, Nat.min_zero, List.take_zero, List.append_nil]
      exact ⟨rfl, h, rfl⟩
    · generalize usb.txPush byte = pushed at hpush hvalid hcontents ⊢
      obtain ⟨fits, usb'⟩ := pushed
      obtain rfl : fits = true := hpush
      have hcontents : usb'.contents = usb.contents ++ [byte] := hcontents
      obtain ⟨hcount, hvalid', hcontents'⟩ := ih hvalid
      have hlength : usb'.contents.length = usb.txLen + 1 := by
        rw [hcontents, List.length_append, h.length_contents, List.length_singleton]
      have hone : txBufSize - 1 - usb.txLen = (txBufSize - 1 - (usb.txLen + 1)) + 1 := by omega
      rw [hlength] at hcount hcontents'
      refine ⟨?_, hvalid', ?_⟩
      · rw [hone, List.length_cons, Nat.succ_min_succ]
        exact congrArg (· + 1) hcount
      · rw [hone, List.take_succ_cons]
        show (usb'.pushBytes data).2.contents = _
        rw [hcontents', hcontents, List.append_assoc]
        rfl

/-- How many bytes of a frame a write takes. -/
def written (usb : UsbSender) (frame : Bytes) : Nat :=
  if usb.degraded then 0
  else min frame.length (min serviceMaxBytes (txBufSize - 1 - usb.contents.length))

/-- A write appends the bytes it takes. -/
theorem tryWrite_spec (h : usb.Valid) (frame : Bytes) :
    (usb.tryWrite frame).1 = usb.written frame ∧ (usb.tryWrite frame).2.Valid ∧
      (usb.tryWrite frame).2.contents = usb.contents ++ frame.take (usb.written frame) := by
  unfold tryWrite written
  split
  · exact ⟨rfl, h, by rw [List.take_zero, List.append_nil]⟩
  · obtain ⟨hcount, hvalid, hcontents⟩ :=
      pushBytes_spec h (frame.take (min frame.length serviceMaxBytes))
    refine ⟨?_, hvalid, ?_⟩
    · rw [hcount, List.length_take]
      omega
    · rw [hcontents, List.take_take]
      congr 1
      rw [List.take_eq_take_iff]
      omega

/-- Peeking shows the front of the ring. -/
theorem peekFrom_eq (idx : Nat) (hidx : idx < txBufSize) (hn : n ≤ txBufSize) :
    usb.peekFrom n idx = window usb.txBuf.toList idx n := by
  induction n generalizing idx with
  | zero => exact window_zero.symm
  | succ n ih =>
    have hlength : usb.txBuf.toList.length = txBufSize := length_txBuf
    have hfits : n + 1 ≤ usb.txBuf.toList.length := by rwa [hlength]
    have hfirst : (window usb.txBuf.toList idx (n + 1))[0]? = some ((usb.txBuf[idx]?).getD 0) := by
      rw [window_head (Nat.succ_pos n) hfits (by rwa [hlength]), Vector.getElem?_toList,
        Vector.getElem?_eq_getElem hidx]
      rfl
    have hrest : (window usb.txBuf.toList idx (n + 1)).drop 1 =
        window usb.txBuf.toList ((idx + 1) % txBufSize) n := by
      have hadvance : window usb.txBuf.toList ((idx + 1) % usb.txBuf.toList.length) (n + 1 - 1) =
          (window usb.txBuf.toList idx (n + 1)).drop 1 :=
        window_advance (Nat.succ_le_succ (Nat.zero_le n)) hfits
      rw [hlength] at hadvance
      exact hadvance.symm
    rw [peekFrom, ih _ (Nat.mod_lt _ (by decide)) (Nat.le_of_succ_le hn), ← hrest]
    cases hwindow : window usb.txBuf.toList idx (n + 1) with
    | nil => rw [hwindow] at hfirst; cases hfirst
    | cons first rest =>
      rw [hwindow] at hfirst
      cases hfirst
      rfl

theorem Valid.txPeek_eq (h : usb.Valid) (hn : n ≤ usb.txLen) :
    usb.txPeek n = usb.contents.take n := by
  rw [txPeek, Nat.min_eq_left hn, contents, window_take hn]
  exact peekFrom_eq _ h.tail_lt (hn.trans h.txLen_lt.le)

/-- Consuming removes from the front. -/
theorem txConsume_spec (h : usb.Valid) (hn : n ≤ usb.txLen) :
    (usb.txConsume n).Valid ∧ (usb.txConsume n).contents = usb.contents.drop n := by
  have hvalid : (usb.txConsume n).Valid := ⟨h.head_lt, Nat.mod_lt _ (by decide)⟩
  have hlen : (usb.txConsume n).txLen = usb.txLen - n := by
    have hhead := h.head_lt
    have htail := h.tail_lt
    have hbefore := h.txLen_eq
    rw [hvalid.txLen_eq]
    unfold txConsume
    simp only [txBufSize] at *
    omega
  refine ⟨hvalid, ?_⟩
  rw [contents, hlen, contents, ← window_advance hn (h.txLen_lt.le.trans length_txBuf.ge),
    length_txBuf]
  rfl

/-- What the rounds hand over is the front of the ring. -/
theorem offer_spec (answers : Nat → Option Nat) (rounds bytesWritten : Nat) (h : usb.Valid) :
    (offer answers rounds bytesWritten usb).2.Valid ∧
      (offer answers rounds bytesWritten usb).1 ++
        (offer answers rounds bytesWritten usb).2.contents = usb.contents := by
  induction rounds generalizing usb bytesWritten with
  | zero => exact ⟨h, rfl⟩
  | succ rounds ih =>
    unfold offer
    split
    · exact ⟨h, rfl⟩
    dsimp only
    cases answers rounds with
    | none => exact ⟨h, rfl⟩
    | some taken =>
      dsimp only
      have hpeek := h.txPeek_eq (Nat.min_le_left usb.txLen 64)
      have hsize : (usb.txPeek (min usb.txLen 64)).length ≤ usb.txLen := by
        rw [hpeek, List.length_take]
        exact (Nat.min_le_left ..).trans (Nat.min_le_left ..)
      generalize hcount : min taken (usb.txPeek (min usb.txLen 64)).length = count
      have hle : count ≤ (usb.txPeek (min usb.txLen 64)).length := hcount ▸ Nat.min_le_right ..
      have hfront : (usb.txPeek (min usb.txLen 64)).take count = usb.contents.take count := by
        rw [hpeek, List.take_take]
        rw [hpeek, List.length_take] at hle
        congr 1
        omega
      obtain ⟨hvalid, hrest⟩ := txConsume_spec h (hle.trans hsize)
      split
      · refine ⟨hvalid, ?_⟩
        rw [hfront, hrest, List.take_append_drop]
      · obtain ⟨hvalid', hrest'⟩ := ih (bytesWritten + count) hvalid
        refine ⟨hvalid', ?_⟩
        dsimp only
        rw [List.append_assoc, hrest', hfront, hrest, List.take_append_drop]

/-- A service call hands over the front of the ring. -/
theorem service_spec (answers : Nat → Option Nat) (h : usb.Valid) :
    (usb.service answers).2.Valid ∧
      (usb.service answers).1 ++ (usb.service answers).2.contents = usb.contents := by
  unfold service
  split
  · exact ⟨h, rfl⟩
  · exact offer_spec answers serviceMaxIters 0 h

/-- The frame fits the budget of a call and the room in the ring, or none of it is taken. -/
def Fits (usb : UsbSender) (frame : Bytes) : Prop :=
  usb.degraded = true ∨ usb.contents.length = txBufSize - 1 ∨
    frame.length ≤ serviceMaxBytes ∧ frame.length + usb.contents.length ≤ txBufSize - 1

/-- A frame that fits is taken whole or not at all. -/
theorem Fits.written_eq (hfits : usb.Fits frame) :
    usb.written frame = frame.length ∨ usb.written frame = 0 := by
  unfold written
  rcases hfits with hdegraded | hfull | ⟨hbudget, hroom⟩
  · exact .inr (if_pos hdegraded)
  · right
    split <;> omega
  · split
    · exact .inr rfl
    · left
      omega

/-- Of a frame that does not fit, a proper prefix is taken. -/
theorem written_of_not_fits (h : usb.Valid) (hfits : ¬ usb.Fits frame) :
    0 < usb.written frame ∧ usb.written frame < frame.length := by
  have hlt := h.txLen_lt
  rw [← h.length_contents] at hlt
  unfold Fits at hfits
  push Not at hfits
  obtain ⟨hdegraded, hfull, hroom⟩ := hfits
  rw [written, if_neg hdegraded]
  simp only [serviceMaxBytes, txBufSize] at *
  omega

end UsbSender

/-! ## Runs -/

abbrev SendEvent := Machine.Event UsbSender SendOp SendOut

/-- The frame an operation writes. -/
def SendOp.frame : SendOp → Option Bytes
  | .telemetry frame => some frame
  | .heartbeat frame => some frame
  | .init => none
  | .service _ => none

/-- The frame of a send that returned true. -/
def reportedBy (e : SendEvent) : Bytes :=
  match e.out with
  | .sent true => e.op.frame.getD []
  | _ => []

def handedBy (e : SendEvent) : Bytes :=
  match e.out with
  | .handed bytes => bytes
  | _ => []

/-- What a write appended to the ring. -/
def enteredBy (e : SendEvent) : Bytes :=
  match e.op.frame with
  | some frame => frame.take (e.pre.written frame)
  | none => []

/-- The frames reported sent. -/
def reported (trace : List SendEvent) : Bytes := trace.flatMap reportedBy

/-- The bytes handed to the host. -/
def handed (trace : List SendEvent) : Bytes := trace.flatMap handedBy

/-- At every moment the bytes handed over and those in the ring are the frames reported sent, and
a send that returns false leaves the ring as it was. -/
structure NotTorn (ops : List SendOp) : Prop where
  delivered : ∀ front, front <+: ops →
    handed (sender.trace .new front) ++ (sender.run .new front).contents =
      reported (sender.trace .new front)
  dropped : ∀ e ∈ sender.trace .new ops, e.out = .sent false → e.post.contents = e.pre.contents

section Runs

variable {usb : UsbSender} {ops : List SendOp}

/-- A write through either operation. -/
theorem step_frame {op : SendOp} {frame : Bytes} (hop : op.frame = some frame) :
    sender.step usb op =
      ((usb.tryWrite frame).2, .sent ((usb.tryWrite frame).1 = frame.length)) := by
  cases op with
  | telemetry frame' =>
    cases hop
    rfl
  | heartbeat frame' =>
    cases hop
    rfl
  | init => cases hop
  | service answers => cases hop

/-- One step moves bytes from the frames through the ring to the host. -/
theorem step_spec (h : usb.Valid) (op : SendOp) :
    (sender.step usb op).1.Valid ∧ usb.contents ++ enteredBy (sender.event usb op) =
      handedBy (sender.event usb op) ++ (sender.step usb op).1.contents := by
  cases op with
  | init => exact ⟨⟨h.head_lt, h.tail_lt⟩, List.append_nil _⟩
  | telemetry frame =>
    obtain ⟨-, hvalid, hcontents⟩ := UsbSender.tryWrite_spec h frame
    exact ⟨hvalid, hcontents.symm⟩
  | heartbeat frame =>
    obtain ⟨-, hvalid, hcontents⟩ := UsbSender.tryWrite_spec h frame
    exact ⟨hvalid, hcontents.symm⟩
  | service answers =>
    obtain ⟨hvalid, hcontents⟩ := UsbSender.service_spec answers h
    exact ⟨hvalid, (List.append_nil _).trans hcontents.symm⟩

/-- What entered the ring was handed over or waits. -/
theorem run_spec (h : usb.Valid) (ops : List SendOp) :
    (sender.run usb ops).Valid ∧ usb.contents ++ (sender.trace usb ops).flatMap enteredBy =
      handed (sender.trace usb ops) ++ (sender.run usb ops).contents := by
  induction ops generalizing usb with
  | nil => exact ⟨h, List.append_nil _⟩
  | cons op ops ih =>
    obtain ⟨hvalid, hstep⟩ := step_spec h op
    obtain ⟨hvalid', hrest⟩ := ih hvalid
    refine ⟨hvalid', ?_⟩
    rw [Machine.trace_cons, Machine.run_cons, handed, List.flatMap_cons, List.flatMap_cons,
      ← List.append_assoc, hstep, List.append_assoc, hrest, List.append_assoc]
    rfl

/-- A frame that fits enters the ring if it is reported sent, and else leaves it alone. -/
theorem fitting_event (h : usb.Valid) (op : SendOp)
    (hfits : ∀ frame, op.frame = some frame → usb.Fits frame) :
    enteredBy (sender.event usb op) = reportedBy (sender.event usb op) ∧
      ((sender.event usb op).out = .sent false →
        (sender.event usb op).post.contents = usb.contents) := by
  cases hop : op.frame with
  | none =>
    cases op with
    | init => exact ⟨rfl, fun h => by cases h⟩
    | service answers => exact ⟨rfl, fun h => by cases h⟩
    | telemetry frame => cases hop
    | heartbeat frame => cases hop
  | some frame =>
    obtain ⟨hcount, -, hcontents⟩ := UsbSender.tryWrite_spec h frame
    have hentered : enteredBy (sender.event usb op) = frame.take (usb.written frame) := by
      simp only [enteredBy, Machine.event, hop]
    have hout : (sender.event usb op).out = .sent (usb.written frame = frame.length) := by
      simp only [Machine.event, step_frame hop, hcount]
    have hpost : (sender.event usb op).post.contents =
        usb.contents ++ frame.take (usb.written frame) := by
      simp only [Machine.event, step_frame hop, hcontents]
    have hframe : (sender.event usb op).op.frame.getD [] = frame := by
      simp only [Machine.event, hop, Option.getD_some]
    unfold reportedBy
    rw [hentered, hout, hpost, hframe]
    rcases (hfits frame hop).written_eq with hall | hnone
    · rw [hall, List.take_length, decide_eq_true rfl]
      exact ⟨rfl, fun h => by cases h⟩
    · rw [hnone, List.take_zero, List.append_nil]
      refine ⟨?_, fun _ => rfl⟩
      by_cases hempty : 0 = frame.length
      · rw [decide_eq_true hempty]
        exact (List.eq_nil_of_length_eq_zero hempty.symm).symm
      · rw [decide_eq_false hempty]

/-- A send of a frame that does not fit returns false and leaves a part of it in the ring. -/
theorem torn_event {op : SendOp} {frame : Bytes} (h : usb.Valid) (hop : op.frame = some frame)
    (hfits : ¬ usb.Fits frame) :
    (sender.event usb op).out = .sent false ∧
      (sender.event usb op).post.contents ≠ usb.contents := by
  obtain ⟨hcount, -, hcontents⟩ := UsbSender.tryWrite_spec h frame
  obtain ⟨hsome, hpart⟩ := UsbSender.written_of_not_fits h hfits
  simp only [Machine.event, step_frame hop, hcount]
  refine ⟨?_, fun hsame => ?_⟩
  · rw [decide_eq_false hpart.ne]
  · have hlength := congrArg List.length (hcontents.symm.trans hsame)
    rw [List.length_append, List.length_take] at hlength
    omega

/-- Telemetry is not torn exactly when every frame fits the budget and the room left, or meets a
full ring. -/
theorem notTorn_iff (ops : List SendOp) :
    NotTorn ops ↔ ∀ e ∈ sender.trace .new ops, ∀ frame, e.op.frame = some frame →
      e.pre.Fits frame := by
  have hreach : ∀ front, (sender.run .new front).Valid := fun front =>
    (run_spec UsbSender.valid_new front).1
  constructor
  · intro htorn e he frame hop
    by_contra hfits
    obtain ⟨front, op, rest, -, rfl⟩ := Machine.mem_trace.mp he
    obtain ⟨hfalse, hchanged⟩ := torn_event (hreach front) hop hfits
    exact hchanged (htorn.dropped _ he hfalse)
  · intro hfits
    have hevent : ∀ e ∈ sender.trace .new ops, enteredBy e = reportedBy e ∧
        (e.out = .sent false → e.post.contents = e.pre.contents) := by
      intro e he
      have hframes := hfits e he
      obtain ⟨front, op, rest, -, rfl⟩ := Machine.mem_trace.mp he
      exact fitting_event (hreach front) op hframes
    refine ⟨fun front hfront => ?_, fun e he => (hevent e he).2⟩
    obtain ⟨rest, rfl⟩ := hfront
    have hrun := (run_spec UsbSender.valid_new front).2
    rw [UsbSender.contents_new, List.nil_append] at hrun
    rw [← hrun, reported]
    refine List.flatMap_congr fun e he => (hevent e ?_).1
    rw [Machine.trace_append]
    exact List.mem_append_left _ he

end Runs

/-- A frame of 129 bytes, one over the budget of a write. -/
def longFrame : Bytes := List.replicate 129 0

/-- The send of the long frame returns false and leaves its first 128 bytes in the ring. -/
theorem long_frame_torn : ¬ NotTorn [.telemetry longFrame] := by
  intro htorn
  have hfits : ¬ UsbSender.new.Fits longFrame := by
    unfold UsbSender.Fits longFrame
    rw [UsbSender.contents_new, List.length_replicate]
    decide
  have hop : (SendOp.telemetry longFrame).frame = some longFrame := rfl
  obtain ⟨hfalse, hchanged⟩ := torn_event UsbSender.valid_new hop hfits
  exact hchanged (htorn.dropped _ List.mem_cons_self hfalse)

end Aviate.Usb
