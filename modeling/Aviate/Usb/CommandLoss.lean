import Aviate.Direct.ChunkInvariance
import Aviate.Usb.Reads

/-!
# Commands on the flight board's link

The build without the request for the bootloader. A call reads up to 64 bytes and returns at the
first command; what it has read behind that command is gone.

Results:
1. The parser takes the bytes of a frame to the frame's command (`feedParser_within`).
2. `commands_of_frames`: if no read goes on behind the end of a frame that bears a command, the
   calls return the commands of the frames, each once and in order.
3. `second_command_lost`: two commands in one read, and the second is lost.
-/

namespace Aviate.Usb

open Mavlink

/-- The command that a frame bears. -/
def frameCommand (f : RawFrame) : Option (SystemCommand F32) :=
  match f.interpret with
  | .ok frame => decodePacket frame.message
  | .error _ => none

/-! ## The parser inside a frame -/

namespace LinkParser

variable {f : RawFrame} {k : Nat}

/-- The parser after the first `k` bytes of a frame. -/
def inside (f : RawFrame) (k : Nat) : LinkParser :=
  ⟨.accumulating (if k < 10 then 0 else f.bytes.length), f.bytes.take k⟩

theorem length_bytes_le (f : RawFrame) : 12 ≤ f.bytes.length ∧ f.bytes.length < mavBufSize := by
  have hlength := f.length_bytes
  have hpayload := f.payload_le
  have hsignature : f.signature.length ≤ 13 := by
    rw [f.signature_length]
    split <;> decide
  simp only [MavHeader.size, maxPayloadLen, mavBufSize] at *
  omega

theorem bytes_eq_cons (f : RawFrame) : f.bytes = mavlinkStxV2 :: f.bytes.drop 1 := rfl

/-- The header declares the length of the frame. -/
theorem declaredLen_header (f : RawFrame) : declaredLen (f.bytes.take 10) = f.bytes.length := by
  have hpayload : declaredLen (f.bytes.take 10) = 10 + (UInt8.ofNat f.payload.length).toNat + 2 +
      if f.incompatFlags &&& 0x01 ≠ 0 then 13 else 0 := rfl
  rw [hpayload, f.toNat_length, f.length_bytes, f.signature_length]
  simp only [isSigned, mavlinkIflagSigned, mavlinkSignatureLen, MavHeader.size, bne_iff_ne]

theorem feed_first (f : RawFrame) : new.feed mavlinkStxV2 = (false, inside f 1) := rfl

/-- A byte of a frame; the last one completes it. -/
theorem feed_inside (hk : 0 < k) (hlt : k < f.bytes.length) :
    (inside f k).feed f.bytes[k] = (decide (f.bytes.length = k + 1), inside f (k + 1)) := by
  obtain ⟨hmin, hmax⟩ := length_bytes_le f
  have htake : f.bytes.take k ++ [f.bytes[k]] = f.bytes.take (k + 1) := List.take_append_getElem hlt
  have hlen : (f.bytes.take k).length = k := List.length_take_of_le hlt.le
  have hlen' : (f.bytes.take (k + 1)).length = k + 1 := List.length_take_of_le hlt
  have hroom : ¬ mavBufSize ≤ (f.bytes.take k).length := by omega
  simp only [inside, feed, if_neg hroom, htake, hlen']
  rcases Nat.lt_trichotomy (k + 1) 10 with hbefore | hheader | hafter
  · have hk10 : k < 10 := by omega
    have hne : f.bytes.length ≠ k + 1 := by omega
    simp [hk10, hbefore, hbefore.ne, hne]
  · obtain rfl : k = 9 := by omega
    have hne : f.bytes.length ≠ 10 := by omega
    have hmore : ¬ f.bytes.length ≤ 10 := by omega
    simp [declaredLen_header, hne, hmore]
  · have hk10 : ¬ k < 10 := by omega
    have hk11 : ¬ k + 1 < 10 := by omega
    have hpos : 0 < f.bytes.length := by omega
    have hdone : f.bytes.length ≤ k + 1 ↔ f.bytes.length = k + 1 := by omega
    simp [hk10, hk11, hafter.ne', hpos, hdone]

theorem parseFrame_inside : (inside f f.bytes.length).parseFrame.1.bind decodePacket =
    frameCommand f := by
  have hparse : parseMavlinkFrame f.bytes = f.interpret := by
    have hrest := f.parse_bytes []
    rwa [List.append_nil] at hrest
  rw [parseFrame, inside, List.take_length]
  dsimp only
  rw [hparse, frameCommand]
  cases f.interpret <;> rfl

end LinkParser

/-! ## The parser on a stream of frames -/

open LinkParser

variable {frames : List RawFrame} {left bytes : Bytes} {parser : LinkParser} {b : UInt8}

/-- The bytes of frames, one after the other. -/
def wire (frames : List RawFrame) : Bytes := frames.flatMap RawFrame.bytes

@[simp] theorem wire_nil : wire [] = [] := rfl

@[simp] theorem wire_cons {f : RawFrame} : wire (f :: frames) = f.bytes ++ wire frames := rfl

theorem wire_append {later : List RawFrame} : wire (frames ++ later) = wire frames ++ wire later :=
  List.flatMap_append

/-- The parser stands in the first of the frames, with these bytes of them left. -/
inductive Within : LinkParser → List RawFrame → Bytes → Prop
  | between (frames : List RawFrame) : Within .new frames (wire frames)
  | inside (f : RawFrame) (rest : List RawFrame) (k : Nat) (hk : 0 < k)
      (hlt : k < f.bytes.length) :
      Within (inside f k) (f :: rest) (f.bytes.drop k ++ wire rest)

/-- With nothing left there are no frames. -/
theorem Within.frames_nil (h : Within parser frames []) : frames = [] := by
  generalize hleft : ([] : Bytes) = left at h
  cases h with
  | between frames =>
    cases frames with
    | nil => rfl
    | cons f rest =>
      rw [wire_cons, bytes_eq_cons] at hleft
      cases hleft
  | inside f rest k hk hlt =>
    have hdrop := congrArg List.length hleft
    rw [List.length_append, List.length_drop, List.length_nil] at hdrop
    omega

/-- One byte: the parser goes on in the frame, or completes it. -/
theorem feedParser_within (h : Within parser frames (b :: left)) :
    (∃ parser', SerialTransport.feedParser parser b = (none, parser') ∧
      Within parser' frames left) ∨
    ∃ f rest, frames = f :: rest ∧ left = wire rest ∧
      SerialTransport.feedParser parser b = (frameCommand f, .new) := by
  generalize hbytes : b :: left = stream at h
  cases h with
  | between frames =>
    cases frames with
    | nil => cases hbytes
    | cons f rest =>
      rw [wire_cons, bytes_eq_cons, List.cons_append] at hbytes
      obtain ⟨rfl, rfl⟩ := List.cons.inj hbytes
      have hmin := (length_bytes_le f).1
      refine .inl ⟨inside f 1, ?_, .inside f rest 1 Nat.one_pos (by omega)⟩
      rw [SerialTransport.feedParser, feed_first f]
  | inside f rest k hk hlt =>
    rw [List.drop_eq_getElem_cons hlt, List.cons_append] at hbytes
    obtain ⟨rfl, rfl⟩ := List.cons.inj hbytes
    by_cases hlast : f.bytes.length = k + 1
    · refine .inr ⟨f, rest, rfl, ?_, ?_⟩
      · rw [List.drop_eq_nil_of_le hlast.le, List.nil_append]
      · rw [SerialTransport.feedParser, feed_inside hk hlt, decide_eq_true hlast, ← hlast]
        exact Prod.ext parseFrame_inside rfl
    · refine .inl ⟨inside f (k + 1), ?_, .inside f rest (k + 1) (Nat.succ_pos k) (by omega)⟩
      rw [SerialTransport.feedParser, feed_inside hk hlt, decide_eq_false hlast]

/-! ## One read -/

/-- A read of `bytes` before `left`, none of them behind a command: the command returned is that of
the frames completed. -/
theorem parseBytes_within {cyccnt : Nat → UInt32} {tick : UInt32} {dfu : DfuState} (i : Nat)
    (h : Within parser frames (bytes ++ left))
    (hends : ∀ before f after, frames = before ++ f :: after → (frameCommand f).isSome →
      (wire after).length < left.length + bytes.length →
      (wire after).length ≤ left.length) :
    ∃ ended frames', frames = ended ++ frames' ∧
      (SerialTransport.parseBytes false cyccnt tick parser dfu i bytes).1.command.toList =
        ended.filterMap frameCommand ∧
      Within (SerialTransport.parseBytes false cyccnt tick parser dfu i bytes).2.1 frames'
        left := by
  induction bytes generalizing parser frames i with
  | nil => exact ⟨[], frames, rfl, rfl, h⟩
  | cons b bytes ih =>
    rw [List.cons_append] at h
    rcases feedParser_within h with ⟨parser', hfeed, hwithin⟩ | ⟨f, rest, rfl, hleft, hfeed⟩
    · obtain ⟨ended, frames', hframes, hcommand, hrest⟩ := ih (i + 1) hwithin
        fun before f after hsplit hsome hlt =>
          hends before f after hsplit hsome (Nat.lt_succ_of_lt hlt)
      simp only [SerialTransport.parseBytes, Bool.false_eq_true, if_false, hfeed]
      exact ⟨ended, frames', hframes, hcommand, hrest⟩
    · have hlength : (wire rest).length = left.length + bytes.length := by
        rw [← hleft, List.length_append, Nat.add_comm]
      cases hcmd : frameCommand f with
      | none =>
        rw [hcmd] at hfeed
        have hwithin : Within .new rest (bytes ++ left) := hleft ▸ .between rest
        obtain ⟨ended, frames', hframes, hcommand, hrest⟩ := ih (i + 1) hwithin
          fun before g after hsplit hsome hlt =>
            hends (f :: before) g after (congrArg (f :: ·) hsplit) hsome (Nat.lt_succ_of_lt hlt)
        simp only [SerialTransport.parseBytes, Bool.false_eq_true, if_false, hfeed]
        refine ⟨f :: ended, frames', congrArg (f :: ·) hframes, ?_, hrest⟩
        rw [List.filterMap_cons_none hcmd]
        exact hcommand
      | some command =>
        -- The command ends the loop, and the condition the read.
        rw [hcmd] at hfeed
        have hend := hends [] f rest rfl (hcmd ▸ rfl) (by rw [hlength]; exact Nat.lt_succ_self _)
        obtain rfl : bytes = [] := List.eq_nil_of_length_eq_zero (by omega)
        simp only [SerialTransport.parseBytes, Bool.false_eq_true, if_false, hfeed]
        refine ⟨[f], rest, rfl, ?_, ?_⟩
        · rw [List.filterMap_cons_some hcmd]
          rfl
        · rw [show left = wire rest from hleft]
          exact .between rest

/-! ## Runs -/

/-- The commands that calls returned, in order. -/
def commands (results : List Parsed) : List (SystemCommand F32) :=
  results.flatMap fun result => result.command.toList

/-- The stretches of the stream that the calls read, after so many bytes have arrived and been
read. -/
def reads {α : Type} (came read : Nat) : List (Op α) → List (Nat × Nat)
  | [] => []
  | .arrive items :: ops => reads (came + items.length) read ops
  | .poll :: ops => reads came read ops
  | .tryRecvCommand _ :: ops =>
    let stop := min came (read + 64)
    (read, stop) :: reads came stop ops

/-- The stretch goes on behind the end of a frame that bears a command. -/
def Overruns (frames : List RawFrame) (stretch : Nat × Nat) : Prop :=
  ∃ before f after, frames = before ++ f :: after ∧ (frameCommand f).isSome ∧
    stretch.1 < (wire (before ++ [f])).length ∧ (wire (before ++ [f])).length < stretch.2

section Runs

open SerialTransport

variable {ops : List (Op UInt8)} {stream : Stream UInt8} {gone : List RawFrame} {came read : Nat}

/-- A run over the frames still to come, after the frames gone. -/
theorem commands_run {transport : SerialTransport} (hcarries : transport.Carries id stream)
    (hroom : NoOverflow ((machine false).trace transport ops))
    (hread : read = (wire (gone ++ frames)).length - left.length)
    (hcame : came = read + stream.pending.length)
    (hleft : left = stream.pending ++ arrived ops) (h : Within stream.parser frames left)
    (hsize : left.length ≤ (wire (gone ++ frames)).length)
    (hreads : ∀ stretch ∈ reads came read ops, ¬ Overruns (gone ++ frames) stretch) :
    ∃ ended frames', frames = ended ++ frames' ∧
      commands (Stream.results ((Stream.machine id false).trace stream ops)) =
        ended.filterMap frameCommand ∧
      Within ((Stream.machine id false).run stream ops).parser frames'
        ((Stream.machine id false).run stream ops).pending := by
  induction ops generalizing transport stream frames gone came read left with
  | nil =>
    rw [hleft, show arrived ([] : List (Op UInt8)) = [] from rfl, List.append_nil] at h
    exact ⟨[], frames, rfl, rfl, h⟩
  | cons op ops ih =>
    have hnext := (hcarries.step false op).1
    rw [Op.map_id] at hnext
    have hroom' : NoOverflow ((machine false).trace ((machine false).step transport op).1 ops) :=
      fun event hevent => hroom event (List.mem_cons_of_mem _ hevent)
    cases op with
    | arrive items =>
      have hall := take_of_room false hcarries hroom
      have hleft' : left = (stream.pending ++ items) ++ arrived ops := by
        rw [hleft, arrived_cons, List.append_assoc]
        simp [arrived]
      have hcame' : came + items.length = read + (stream.pending ++ items).length := by
        rw [List.length_append, hcame, Nat.add_assoc]
      rw [← hall] at hleft'
      have hstep : came + items.length =
          read + (stream.pending ++ items.take (rxBufSize - 1 - stream.pending.length)).length := by
        rw [hall]
        exact hcame'
      exact @ih frames left ((Stream.machine id false).step stream (.arrive items)).1 gone _ read _
        hnext hroom' hread hstep hleft' h hsize hreads
    | poll =>
      exact @ih frames left ((Stream.machine id false).step stream .poll).1 gone came read _ hnext
        hroom' hread hcame hleft h hsize hreads
    | tryRecvCommand cyccnt =>
      have hstretch := hreads _ List.mem_cons_self
      have hleft' : left = stream.pending.take 64 ++ (stream.pending.drop 64 ++ arrived ops) := by
        rw [← List.append_assoc, List.take_append_drop]
        exact hleft
      have hlength := congrArg List.length hleft'
      rw [List.length_append] at hlength
      have htake : (stream.pending.take 64).length = min 64 stream.pending.length :=
        List.length_take
      rw [hleft'] at h
      obtain ⟨ended, frames', rfl, hcommand, hwithin⟩ :=
        @parseBytes_within _ _ _ _ cyccnt stream.tickCounter (stream.polledState false) 0 h
          fun before f after hsplit hsome hlt => by
            by_contra hover
            refine hstretch ⟨gone ++ before, f, after, ?_, hsome, ?_, ?_⟩
            · rw [hsplit, List.append_assoc]
            all_goals
              have hparts : (wire (gone ++ frames)).length =
                  (wire (gone ++ before ++ [f])).length + (wire after).length := by
                rw [hsplit, ← List.length_append, ← wire_append]
                simp
              simp only
              omega
      have hsplit : (wire (gone ++ (ended ++ frames'))).length =
          (wire ((gone ++ ended) ++ frames')).length := by rw [List.append_assoc]
      have hstop : min came (read + 64) = (wire ((gone ++ ended) ++ frames')).length -
          (stream.pending.drop 64 ++ arrived ops).length := by
        rw [← hsplit]
        omega
      have hcame' : came = min came (read + 64) + (stream.pending.drop 64).length := by
        rw [List.length_drop]
        omega
      have hparser :
          Within ((Stream.machine id false).step stream (.tryRecvCommand cyccnt)).1.parser
            frames' (stream.pending.drop 64 ++ arrived ops) := by
        simp only [Stream.machine, Stream.call, List.map_id]
        exact hwithin
      rw [← List.append_assoc] at hreads
      obtain ⟨ended', frames'', hframes, hcommands, hlast⟩ :=
        @ih frames' (stream.pending.drop 64 ++ arrived ops)
          ((Stream.machine id false).step stream (.tryRecvCommand cyccnt)).1 (gone ++ ended) came
          _ _ hnext hroom' hstop hcame' rfl hparser (by rw [← hsplit]; omega)
          fun stretch hmem => hreads stretch (List.mem_cons_of_mem _ hmem)
      refine ⟨ended ++ ended', frames'', ?_, ?_, hlast⟩
      · rw [hframes, List.append_assoc]
      · rw [List.filterMap_append, ← hcommand, ← hcommands]
        simp [Stream.results, commands, Machine.event, Stream.machine, Stream.call]

/-- A run holds back no more than there was and has come. -/
theorem length_pending_run :
    ((Stream.machine id false).run stream ops).pending.length ≤
      stream.pending.length + (arrived ops).length := by
  induction ops generalizing stream with
  | nil => exact Nat.le_add_right _ _
  | cons op ops ih =>
    have hrest := @ih ((Stream.machine id false).step stream op).1
    rw [Machine.run_cons, arrived_cons, List.length_append]
    refine hrest.trans ?_
    cases op with
    | arrive items =>
      simp only [Stream.machine, arrived, List.flatMap_singleton, List.length_append,
        List.length_take]
      omega
    | poll =>
      simp only [Stream.machine]
      omega
    | tryRecvCommand cyccnt =>
      simp only [Stream.machine, List.length_drop]
      omega

theorem pending_calls (n : Nat) (cyccnt : Nat → UInt32) :
    ((Stream.machine id false).run stream (List.replicate n (Op.tryRecvCommand cyccnt))).pending =
      stream.pending.drop (64 * n) := by
  induction n generalizing stream with
  | zero => rfl
  | succ n ih =>
    rw [List.replicate_succ, Machine.run_cons, ih]
    show (stream.pending.drop 64).drop (64 * n) = _
    rw [List.drop_drop]
    congr 1
    omega

theorem arrived_calls (n : Nat) (cyccnt : Nat → UInt32) :
    arrived (ops ++ List.replicate n (Op.tryRecvCommand cyccnt)) = arrived ops := by
  rw [arrived, List.flatMap_append, List.flatMap_replicate]
  simp [arrived]

/-- Calls need no room. -/
theorem noOverflow_calls {softwareBootloader : Bool} (n : Nat) (cyccnt : Nat → UInt32)
    (hroom : NoOverflow ((machine softwareBootloader).trace SerialTransport.new ops)) :
    NoOverflow ((machine softwareBootloader).trace SerialTransport.new
      (ops ++ List.replicate n (Op.tryRecvCommand cyccnt))) := by
  intro event hevent bytes hop
  rw [Machine.trace_append] at hevent
  rcases List.mem_append.mp hevent with hbefore | hcall
  · exact hroom event hbefore bytes hop
  · obtain ⟨ops₁, op, ops₂, hops, rfl⟩ := Machine.mem_trace.mp hcall
    have hmem : op ∈ List.replicate n (Op.tryRecvCommand cyccnt) := by
      rw [hops]
      exact List.mem_append_right _ List.mem_cons_self
    rw [List.eq_of_mem_replicate hmem] at hop
    cases hop

/-- However the bytes of the frames arrive and whatever calls fall between, after enough calls the
commands returned are those of the frames, if no read goes on behind the end of a frame that bears
one. -/
theorem commands_of_frames (frames : List RawFrame) (ops : List (Op UInt8)) (n : Nat)
    (cyccnt : Nat → UInt32) (harrived : arrived ops = wire frames)
    (hroom : NoOverflow ((machine false).trace SerialTransport.new ops))
    (hn : (wire frames).length ≤ n)
    (hreads : ∀ stretch ∈ reads 0 0 (ops ++ List.replicate n (Op.tryRecvCommand cyccnt)),
      ¬ Overruns frames stretch) :
    commands (results ((machine false).trace SerialTransport.new
      (ops ++ List.replicate n (Op.tryRecvCommand cyccnt)))) = frames.filterMap frameCommand := by
  have hmap (list : List (Op UInt8)) : list.map (Op.map id) = list := by
    rw [funext Op.map_id]
    exact List.map_id list
  have hsame := @results_machine _ id .new .new
    (ops ++ List.replicate n (Op.tryRecvCommand cyccnt)) false carries_new
  rw [hmap] at hsame
  rw [hsame]
  have hleft : wire frames = Stream.new.pending ++
      arrived (ops ++ List.replicate n (Op.tryRecvCommand cyccnt)) := by
    rw [arrived_calls, harrived]
    rfl
  obtain ⟨ended, frames', hframes, hcommands, hwithin⟩ :=
    @commands_run frames (wire frames) (ops ++ List.replicate n (Op.tryRecvCommand cyccnt)) .new []
      0 0 _ carries_new (noOverflow_calls n cyccnt hroom) (Nat.sub_self _).symm rfl hleft
      (.between frames) (le_refl _) hreads
  have hpending : ((Stream.machine id false).run Stream.new
      (ops ++ List.replicate n (Op.tryRecvCommand cyccnt))).pending = [] := by
    rw [Machine.run_append, pending_calls]
    refine List.drop_eq_nil_of_le ?_
    have hheld := @length_pending_run ops Stream.new
    rw [harrived, show (Stream.new : Stream UInt8).pending = [] from rfl, List.length_nil] at hheld
    omega
  rw [hpending] at hwithin
  obtain rfl := hwithin.frames_nil
  rw [hcommands, hframes, List.append_nil]

/-- The command to disarm. -/
def disarmFrame : RawFrame :=
  { Direct.DirectMavlinkEndpoint.armFrame with
    payload := [0, 0, 0, 0] ++ Direct.DirectMavlinkEndpoint.armFrame.payload.drop 4
    crc0 := 0x12
    crc1 := 0xEA
    payload_le := by decide }

theorem disarmFrame_interpret : disarmFrame.interpret =
    .ok ⟨.commandLong ⟨⟨0⟩, ⟨0⟩, ⟨0⟩, ⟨0⟩, ⟨0⟩, ⟨0⟩, ⟨0⟩, 400, 1, 1, 0⟩, none,
      disarmFrame.header, 44⟩ := by
  decide +kernel

/-- Two commands that each arrive in two pieces, and each end their read. -/
theorem commands_of_frames_armDisarm :
    let frame := Direct.DirectMavlinkEndpoint.armFrame
    let ops : List (Op UInt8) := [.arrive (frame.bytes.take 20), .tryRecvCommand fun _ => 0,
      .arrive (frame.bytes.drop 20), .tryRecvCommand fun _ => 0,
      .arrive (disarmFrame.bytes.take 30), .poll, .arrive (disarmFrame.bytes.drop 30)]
    commands (results ((machine false).trace SerialTransport.new
      (ops ++ List.replicate 88 (Op.tryRecvCommand fun _ => 0)))) = [.arm, .disarm] := by
  intro frame ops
  have hroom : NoOverflow ((machine false).trace SerialTransport.new ops) :=
    noOverflow_of_length false Stm32h7UsbCdc.valid_new (by decide +kernel)
  have hstops : ∀ stretch ∈ reads 0 0 (ops ++ List.replicate 88 (Op.tryRecvCommand fun _ => 0)),
      stretch.2 ≤ 44 ∨ 44 ≤ stretch.1 ∧ stretch.2 ≤ 88 := by
    decide +kernel
  have harm : frameCommand frame = some .arm := by
    rw [frameCommand, Direct.DirectMavlinkEndpoint.armFrame_interpret]
    rfl
  have hdisarm : frameCommand disarmFrame = some .disarm := by
    rw [frameCommand, disarmFrame_interpret]
    rfl
  have hone : (wire [frame]).length = 44 := by decide +kernel
  have htwo : (wire [frame, disarmFrame]).length = 88 := by decide +kernel
  have hall := commands_of_frames [frame, disarmFrame] ops 88 (fun _ => 0)
    (by decide +kernel) hroom htwo.le fun stretch hmem hover => by
      obtain ⟨before, f, after, hframes, -, hstart, hstop⟩ := hover
      have hbound := hstops stretch hmem
      match before, hframes with
      | [], hframes =>
        obtain ⟨rfl, -⟩ := List.cons.inj hframes
        rw [List.nil_append, hone] at hstart hstop
        omega
      | [g], hframes =>
        obtain ⟨rfl, hrest⟩ := List.cons.inj hframes
        obtain ⟨rfl, -⟩ := List.cons.inj hrest
        rw [List.singleton_append, htwo] at hstop
        omega
      | g :: h :: before, hframes =>
        have hlength := congrArg List.length hframes
        simp at hlength
  rw [hall, List.filterMap_cons_some harm, List.filterMap_cons_some hdisarm]
  rfl

/-- Two commands that arrive together: the second is not returned, however often it is asked
for. -/
theorem second_command_lost :
    let frame := Direct.DirectMavlinkEndpoint.armFrame
    let ops : List (Op UInt8) := [.arrive (wire [frame, frame])]
    NoOverflow ((machine false).trace SerialTransport.new ops) ∧
      commands (results ((machine false).trace SerialTransport.new
        (ops ++ List.replicate 88 (Op.tryRecvCommand fun _ => 0)))) ≠
      [frame, frame].filterMap frameCommand := by
  intro frame ops
  refine ⟨noOverflow_of_length false Stm32h7UsbCdc.valid_new (by decide +kernel), ?_⟩
  intro hsame
  have hone : (commands (results ((machine false).trace SerialTransport.new
      (ops ++ List.replicate 88 (Op.tryRecvCommand fun _ => 0))))).length = 1 := by
    decide +kernel
  have htwo : ([frame, frame].filterMap frameCommand).length = 2 := by decide +kernel
  rw [hsame, htwo] at hone
  exact absurd hone (by decide)

end Runs

end Aviate.Usb
