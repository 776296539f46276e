import Aviate.Foundations.RingBuffer
import Aviate.Model

/-!
# The receive ring is a queue

`Stream` is the transport with a list in the place of the ring, and with ticks that do not wrap. The
elements of the list may carry more than the byte, such as who sent it.

Results:
1. A push appends what fits, and a read takes the front (`rxPushSlice_spec`, `tryRead_spec`).
2. The transport does what the stream does (`results_machine`, `carries_run`).
-/

namespace Aviate.Usb

open RingBuffer

namespace Stm32h7UsbCdc

variable {usb : Stm32h7UsbCdc} {byte : UInt8} {data : Bytes} {n : Nat}

/-- `rx_depth`. -/
def depth (usb : Stm32h7UsbCdc) : Nat := (usb.rxHead + rxBufSize - usb.rxTail) % rxBufSize

/-- The bytes in the ring, oldest first. -/
def contents (usb : Stm32h7UsbCdc) : Bytes := window usb.rxBuf.toList usb.rxTail usb.depth

/-- Both cursors are inside the array. -/
structure Valid (usb : Stm32h7UsbCdc) : Prop where
  head_lt : usb.rxHead < rxBufSize
  tail_lt : usb.rxTail < rxBufSize

theorem valid_new : new.Valid := ⟨by decide, by decide⟩

@[simp] theorem contents_new : new.contents = [] := window_zero

theorem depth_lt : usb.depth < rxBufSize := Nat.mod_lt _ (by decide)

theorem length_buf : usb.rxBuf.toList.length = rxBufSize := Vector.length_toList

theorem length_contents : usb.contents.length = usb.depth :=
  length_window (depth_lt.le.trans length_buf.ge)

/-- The cell at the head is the one behind the last. -/
theorem tail_add_depth (h : usb.Valid) : (usb.rxTail + usb.depth) % rxBufSize = usb.rxHead := by
  have hhead := h.head_lt
  have htail := h.tail_lt
  simp only [depth, rxBufSize] at *
  omega

/-- A push into a full ring is refused; otherwise the byte is appended. -/
theorem rxPush_spec (h : usb.Valid) :
    (usb.depth + 1 = rxBufSize ∧ usb.rxPush byte = (false, usb)) ∨
      (usb.depth + 1 < rxBufSize ∧ (usb.rxPush byte).1 = true ∧ (usb.rxPush byte).2.Valid ∧
        (usb.rxPush byte).2.contents = usb.contents ++ [byte]) := by
  have hhead := h.head_lt
  have htail := h.tail_lt
  unfold rxPush
  dsimp only
  split
  next hnext =>
    refine .inl ⟨?_, rfl⟩
    simp only [depth, rxBufSize] at *
    omega
  next hnext =>
    have hcell := tail_add_depth h
    have hdepth : ((usb.rxHead + 1) % rxBufSize + rxBufSize - usb.rxTail) % rxBufSize =
        usb.depth + 1 ∧ usb.depth + 1 < rxBufSize := by
      simp only [depth, rxBufSize] at *
      omega
    refine .inr ⟨hdepth.2, rfl, ⟨Nat.mod_lt _ (by decide), h.tail_lt⟩, ?_⟩
    have hset : window (usb.rxBuf.toList.set ((usb.rxTail + usb.depth) % rxBufSize) byte)
        usb.rxTail (usb.depth + 1) = window usb.rxBuf.toList usb.rxTail usb.depth ++ [byte] := by
      rw [← window_set (depth_lt.trans_eq length_buf.symm), length_buf]
    rw [hcell] at hset
    rw [contents, depth, hdepth.1, Vector.toList_setIfInBounds]
    exact hset

/-- What fits is appended. -/
theorem rxPushSlice_spec (h : usb.Valid) :
    (usb.rxPushSlice data).1 = min data.length (rxBufSize - 1 - usb.contents.length) ∧
      (usb.rxPushSlice data).2.Valid ∧ (usb.rxPushSlice data).2.contents =
        usb.contents ++ data.take (rxBufSize - 1 - usb.contents.length) := by
  induction data generalizing usb with
  | nil => exact ⟨(Nat.zero_min _).symm, h, by rw [List.take_nil, List.append_nil]; rfl⟩
  | cons byte data ih =>
    rw [rxPushSlice, length_contents]
    rcases @rxPush_spec usb byte h with ⟨hfull, hpush⟩ | ⟨hroom, hpush, hvalid, hcontents⟩
    · have hnone : rxBufSize - 1 - usb.depth = 0 := by omega
      rw [hpush, hnone, Nat.min_zero, List.take_zero, List.append_nil]
      exact ⟨rfl, h, rfl⟩
    · generalize usb.rxPush byte = pushed at hpush hvalid hcontents ⊢
      obtain ⟨fits, usb'⟩ := pushed
      obtain rfl : fits = true := hpush
      have hcontents : usb'.contents = usb.contents ++ [byte] := hcontents
      obtain ⟨hcount, hvalid', hcontents'⟩ := ih hvalid
      have hlength : usb'.contents.length = usb.depth + 1 := by
        rw [hcontents, List.length_append, length_contents, List.length_singleton]
      have hone : rxBufSize - 1 - usb.depth = (rxBufSize - 1 - (usb.depth + 1)) + 1 := by omega
      rw [hlength] at hcount hcontents'
      refine ⟨?_, hvalid', ?_⟩
      · rw [hone, List.length_cons, Nat.succ_min_succ]
        exact congrArg (· + 1) hcount
      · rw [hone, List.take_succ_cons]
        show (usb'.rxPushSlice data).2.contents = _
        rw [hcontents', hcontents, List.append_assoc]
        rfl

/-- A pop takes the oldest byte. -/
theorem rxPop_spec (h : usb.Valid) :
    usb.rxPop.2.Valid ∧ usb.rxPop.1 = usb.contents.head? ∧
      usb.rxPop.2.contents = usb.contents.drop 1 := by
  have hhead := h.head_lt
  have htail := h.tail_lt
  have hlength : usb.contents.length = usb.depth := length_contents
  unfold rxPop
  split
  next hempty =>
    have hdepth : usb.depth = 0 := by
      rw [depth, hempty, Nat.add_sub_cancel_left, Nat.mod_self]
    have hnil : usb.contents = [] := List.eq_nil_of_length_eq_zero (hlength.trans hdepth)
    rw [hnil]
    exact ⟨h, rfl, rfl⟩
  next hcells =>
    have hdepth : 0 < usb.depth := by
      simp only [depth, rxBufSize] at *
      omega
    have hfits : usb.depth ≤ usb.rxBuf.toList.length := depth_lt.le.trans length_buf.ge
    refine ⟨⟨h.head_lt, Nat.mod_lt _ (by decide)⟩, ?_, ?_⟩
    · have hfirst : usb.contents[0]? = usb.rxBuf.toList[usb.rxTail]? :=
        window_head hdepth hfits (htail.trans_eq length_buf.symm)
      rw [List.head?_eq_getElem?, hfirst, Vector.getElem?_toList]
      rw [show usb.rxBuf[usb.rxTail]? = some usb.rxBuf[usb.rxTail] from
        Vector.getElem?_eq_getElem htail]
      rfl
    · have hadvance : window usb.rxBuf.toList ((usb.rxTail + 1) % rxBufSize) (usb.depth - 1) =
          (window usb.rxBuf.toList usb.rxTail usb.depth).drop 1 := by
        rw [← window_advance hdepth hfits, length_buf]
      have hshorter : (usb.rxHead + rxBufSize - (usb.rxTail + 1) % rxBufSize) % rxBufSize =
          usb.depth - 1 := by
        simp only [depth, rxBufSize] at *
        omega
      rw [contents, depth, hshorter]
      exact hadvance

theorem rxPopMany_spec (h : usb.Valid) :
    (usb.rxPopMany n).2.Valid ∧ (usb.rxPopMany n).1 = usb.contents.take n ∧
      (usb.rxPopMany n).2.contents = usb.contents.drop n := by
  induction n generalizing usb with
  | zero => exact ⟨h, rfl, rfl⟩
  | succ n ih =>
    obtain ⟨hvalid, hbyte, hrest⟩ := rxPop_spec h
    rw [rxPopMany]
    generalize usb.rxPop = popped at hvalid hbyte hrest
    obtain ⟨byte, usb'⟩ := popped
    cases hcontents : usb.contents with
    | nil =>
      rw [hcontents] at hbyte hrest
      obtain rfl : byte = none := hbyte
      exact ⟨hvalid, rfl, hrest⟩
    | cons oldest later =>
      rw [hcontents] at hbyte hrest
      obtain rfl : byte = some oldest := hbyte
      obtain ⟨hvalid', htake, hdrop⟩ := ih hvalid
      have hlater : usb'.contents = later := hrest
      rw [hlater] at htake hdrop
      exact ⟨hvalid', congrArg (oldest :: ·) htake, hdrop⟩

/-- A read takes up to 64 bytes. -/
theorem tryRead_spec (h : usb.Valid) :
    (usb.tryRead 64).2.Valid ∧ (usb.tryRead 64).1 = usb.contents.take 64 ∧
      (usb.tryRead 64).2.contents = usb.contents.drop 64 :=
  rxPopMany_spec h

end Stm32h7UsbCdc

/-! ## The stream -/

section Stream

variable {α : Type}

/-- The transport with a list in the place of the ring. -/
structure Stream (α : Type) where
  pending : List α
  parser : LinkParser
  dfuState : DfuState
  ticks : Nat

namespace Stream

def new : Stream α := ⟨[], .new, .idle, 0⟩

def tickCounter (self : Stream α) : UInt32 := .ofNat self.ticks

/-- The state a call starts with. -/
def polledState (softwareBootloader : Bool) (self : Stream α) : DfuState :=
  if softwareBootloader then self.dfuState.updateDfuState self.tickCounter else self.dfuState

/-- What a call does with the next 64 elements. -/
def call (byte : α → UInt8) (softwareBootloader : Bool) (cyccnt : Nat → UInt32)
    (self : Stream α) : Parsed × LinkParser × DfuState :=
  SerialTransport.parseBytes softwareBootloader cyccnt self.tickCounter self.parser
    (self.polledState softwareBootloader) 0 ((self.pending.take 64).map byte)

/-- One cell of the ring stays free. -/
def machine (byte : α → UInt8) (softwareBootloader : Bool) :
    Machine (Stream α) (Op α) (Option Parsed) where
  step
    | self, .arrive items =>
      ({ self with
          pending := self.pending ++ items.take (rxBufSize - 1 - self.pending.length) }, none)
    | self, .poll => ({ self with ticks := self.ticks + 1 }, none)
    | self, .tryRecvCommand cyccnt =>
      let (parsed, parser, dfu) := self.call byte softwareBootloader cyccnt
      ({ self with pending := self.pending.drop 64, parser, dfuState := dfu }, some parsed)

/-- What the calls of a run did, in order. -/
def results (trace : List (Machine.Event (Stream α) (Op α) (Option Parsed))) : List Parsed :=
  trace.filterMap Machine.Event.out

end Stream

/-- Only the bytes of what arrives. -/
def Op.map {β : Type} (f : α → β) : Op α → Op β
  | .arrive items => .arrive (items.map f)
  | .poll => .poll
  | .tryRecvCommand cyccnt => .tryRecvCommand cyccnt

theorem Op.map_id (op : Op α) : op.map id = op := by
  cases op with
  | arrive items => exact congrArg Op.arrive (List.map_id items)
  | poll => rfl
  | tryRecvCommand cyccnt => rfl

namespace SerialTransport

abbrev Event := Machine.Event SerialTransport (Op UInt8) Out

/-- What the calls of a run did, in order. -/
def results (trace : List Event) : List Parsed :=
  trace.filterMap fun event =>
    match event.out with
    | .parsed result => some result
    | _ => none

/-- The ring is never full. -/
def NoOverflow (trace : List Event) : Prop :=
  ∀ event ∈ trace, ∀ bytes, event.op = .arrive bytes → event.out = .accepted bytes.length

variable {byte : α → UInt8} {transport : SerialTransport} {stream : Stream α} {ops : List (Op α)}
  (softwareBootloader : Bool)

/-- The ring holds the bytes of the stream's list, and the rest is alike. -/
structure Carries (transport : SerialTransport) (byte : α → UInt8) (stream : Stream α) : Prop where
  valid : transport.usb.Valid
  contents : transport.usb.contents = stream.pending.map byte
  parser : transport.parser = stream.parser
  dfuState : transport.dfuState = stream.dfuState
  tickCounter : transport.tickCounter = stream.tickCounter

theorem carries_new : new.Carries byte .new :=
  ⟨Stm32h7UsbCdc.valid_new, Stm32h7UsbCdc.contents_new, rfl, rfl, rfl⟩

/-- One operation. -/
theorem Carries.step (h : transport.Carries byte stream) (op : Op α) :
    ((machine softwareBootloader).step transport (op.map byte)).1.Carries byte
        ((Stream.machine byte softwareBootloader).step stream op).1 ∧
      results [(machine softwareBootloader).event transport (op.map byte)] =
        Stream.results [(Stream.machine byte softwareBootloader).event stream op] := by
  obtain ⟨usb, parser, dfu, tick⟩ := transport
  obtain ⟨pending, parser', dfu', ticks⟩ := stream
  obtain ⟨hvalid, hcontents, hparser, hdfu, htick⟩ := h
  dsimp only [Stream.tickCounter] at hvalid hcontents hparser hdfu htick
  subst hparser hdfu htick
  cases op with
  | arrive items =>
    obtain ⟨-, hvalid', hcontents'⟩ := @Stm32h7UsbCdc.rxPushSlice_spec usb (items.map byte) hvalid
    refine ⟨⟨hvalid', hcontents'.trans ?_, rfl, rfl, rfl⟩, rfl⟩
    rw [hcontents, List.length_map, ← List.map_take, ← List.map_append]
    rfl
  | poll =>
    refine ⟨⟨hvalid, hcontents, rfl, rfl, ?_⟩, rfl⟩
    exact (UInt32.ofNat_add ticks 1).symm
  | tryRecvCommand cyccnt =>
    obtain ⟨hvalid', hbytes, hcontents'⟩ := Stm32h7UsbCdc.tryRead_spec hvalid
    rw [hcontents, ← List.map_take] at hbytes
    rw [hcontents, ← List.map_drop] at hcontents'
    have hcall : SerialTransport.tryParseCommand softwareBootloader cyccnt
          ⟨usb, parser, dfu, .ofNat ticks⟩ =
        let parsed := Stream.call byte softwareBootloader cyccnt ⟨pending, parser, dfu, ticks⟩
        (parsed.1, ⟨(usb.tryRead 64).2, parsed.2.1, parsed.2.2, .ofNat ticks⟩) := by
      rw [Stream.call, ← hbytes]
      rfl
    refine ⟨?_, ?_⟩
    · show (SerialTransport.tryParseCommand softwareBootloader cyccnt _).2.Carries byte _
      rw [hcall]
      exact ⟨hvalid', hcontents', rfl, rfl, rfl⟩
    · show [(SerialTransport.tryParseCommand softwareBootloader cyccnt _).1] = _
      rw [hcall]
      rfl

theorem Carries.call_eq (h : transport.Carries byte stream) (cyccnt : Nat → UInt32) :
    (transport.tryParseCommand softwareBootloader cyccnt).1 =
      (stream.call byte softwareBootloader cyccnt).1 :=
  (List.cons.inj (h.step softwareBootloader (.tryRecvCommand cyccnt)).2).1

/-- A run of the transport does what the stream does. -/
theorem results_machine (h : transport.Carries byte stream) :
    results ((machine softwareBootloader).trace transport (ops.map (Op.map byte))) =
      Stream.results ((Stream.machine byte softwareBootloader).trace stream ops) := by
  induction ops generalizing transport stream with
  | nil => rfl
  | cons op ops ih =>
    obtain ⟨hnext, hsame⟩ := h.step softwareBootloader op
    have happend := congrArg₂ (· ++ ·) hsame (ih hnext)
    simp only [results, Stream.results, ← List.filterMap_append] at happend
    exact happend

theorem carries_run (h : transport.Carries byte stream) :
    ((machine softwareBootloader).run transport (ops.map (Op.map byte))).Carries byte
      ((Stream.machine byte softwareBootloader).run stream ops) := by
  induction ops generalizing transport stream with
  | nil => exact h
  | cons op ops ih => exact ih (h.step softwareBootloader op).1

/-- The bytes that arrive, in order. -/
def arrived (ops : List (Op α)) : List α :=
  ops.flatMap fun
    | .arrive items => items
    | .poll => []
    | .tryRecvCommand _ => []

theorem arrived_cons {op : Op α} : arrived (op :: ops) = arrived [op] ++ arrived ops := by
  simp [arrived]

/-- The ring is not filled by fewer bytes than it has cells. -/
theorem noOverflow_of_length {ops : List (Op UInt8)} (hvalid : transport.usb.Valid)
    (hroom : transport.usb.contents.length + (arrived ops).length < rxBufSize) :
    NoOverflow ((machine softwareBootloader).trace transport ops) := by
  induction ops generalizing transport with
  | nil =>
    intro event hevent
    exact absurd hevent List.not_mem_nil
  | cons op ops ih =>
    rw [arrived_cons, List.length_append] at hroom
    rw [NoOverflow, Machine.trace_cons, List.forall_mem_cons]
    cases op with
    | arrive data =>
      have hlength : (arrived [Op.arrive data]).length = data.length := by simp [arrived]
      rw [hlength] at hroom
      obtain ⟨hcount, hvalid', hcontents⟩ := @Stm32h7UsbCdc.rxPushSlice_spec _ data hvalid
      rw [Nat.min_eq_left (by omega)] at hcount
      rw [List.take_of_length_le (by omega)] at hcontents
      refine ⟨?_, ih hvalid' ?_⟩
      · rintro _ ⟨⟩
        exact congrArg Out.accepted hcount
      · show (transport.usb.rxPushSlice data).2.contents.length + _ < _
        rw [hcontents, List.length_append]
        omega
    | poll =>
      refine ⟨nofun, ih hvalid ?_⟩
      show transport.usb.contents.length + _ < _
      omega
    | tryRecvCommand cyccnt =>
      obtain ⟨hvalid', -, hcontents⟩ := Stm32h7UsbCdc.tryRead_spec hvalid
      refine ⟨nofun, ih hvalid' ?_⟩
      show (transport.usb.tryRead 64).2.contents.length + _ < _
      rw [hcontents, List.length_drop]
      omega

/-- An arrival that found room was not cut. -/
theorem take_of_room {ops : List (Op UInt8)} {stream : Stream UInt8} {items : Bytes}
    (h : transport.Carries id stream)
    (hroom : NoOverflow ((machine softwareBootloader).trace transport (.arrive items :: ops))) :
    items.take (rxBufSize - 1 - stream.pending.length) = items := by
  have hall : (transport.usb.rxPushSlice items).1 = items.length :=
    Out.accepted.inj (hroom _ List.mem_cons_self _ rfl)
  obtain ⟨hcount, -, -⟩ := @Stm32h7UsbCdc.rxPushSlice_spec _ items h.valid
  rw [h.contents, List.length_map] at hcount
  exact List.take_of_length_le (by omega)

end SerialTransport

end Stream

end Aviate.Usb
