import Aviate.Direct.Streaming

/-!
# Runs of the direct endpoint

Results:
1. Whatever the chunks and the polls between them, the actions carried out and the commands
   returned so far are the first ones of the stream's; polling on gives them all
   (`run_produces`, `polls_drain`).
2. The stream alone determines the actions and the commands; those of well-formed frames between
   bytes that start none are the frames' messages, in order (`stream_determines_actions`).
-/

namespace Aviate.Direct

open Mavlink StreamDecoder

variable {localAddress : LocalAddress}

namespace DirectMavlinkEndpoint

variable {RX TX : Nat} {e : DirectMavlinkEndpoint RX TX} {ops : List Op}
  {cmds returned : List (SystemCommand F32)} {done : List InboundAction} {stream : Bytes}

/-! ## What a run takes in and gives out -/

/-- The bytes pushed, in order. -/
def pushed (ops : List Op) : Bytes :=
  ops.flatMap fun
    | .pushRx bytes => bytes
    | .pollCommand => []

/-- The actions carried out, in order. -/
def actions (trace : List (Machine.Event (DirectMavlinkEndpoint RX TX) Op Out)) :
    List InboundAction :=
  trace.flatMap fun event =>
    match event.out with
    | .accepted _ => []
    | .polled actions _ => actions

/-- The commands returned, in order. -/
def commands (trace : List (Machine.Event (DirectMavlinkEndpoint RX TX) Op Out)) :
    List (SystemCommand F32) :=
  trace.flatMap fun event =>
    match event.out with
    | .accepted _ => []
    | .polled _ command => command.toList

/-- Every byte pushed found room. -/
def NoOverflow (trace : List (Machine.Event (DirectMavlinkEndpoint RX TX) Op Out)) : Prop :=
  ∀ event ∈ trace, ∀ bytes, event.op = .pushRx bytes → event.out = .accepted bytes.length

/-- The stream so far is the actions carried out, followed by what the ring still holds; the
commands of these actions are those returned, followed by those queued. -/
def Produced (localAddress : LocalAddress) (stream : Bytes) (done : List InboundAction)
    (returned : List (SystemCommand F32)) (e : DirectMavlinkEndpoint RX TX) : Prop :=
  ∃ buf cmds, e.Stands localAddress cmds buf ∧
    (inboundDecoder localAddress).decode stream =
      (done ++ ((inboundDecoder localAddress).decode buf).1,
        ((inboundDecoder localAddress).decode buf).2) ∧
    done.filterMap InboundAction.command? = returned ++ cmds

theorem produced_new (hRX : maxMavlinkV2FrameLen ≤ RX) (sysId compId : UInt8) :
    Produced ⟨sysId, compId⟩ [] [] [] (new sysId compId : DirectMavlinkEndpoint RX TX) := by
  have hpos : 0 < RX := Nat.lt_of_lt_of_le (by decide) hRX
  refine ⟨[], [], ⟨rfl, DirectByteRing.valid_new hpos, DirectByteRing.contents_new, queued_new⟩,
    ?_, rfl⟩
  rw [decode_nil]
  rfl

/-- One call. -/
theorem Produced.step (hRX : maxMavlinkV2FrameLen ≤ RX)
    (h : Produced localAddress stream done returned e) (op : Op)
    (hroom : NoOverflow [(machine RX TX).event e op]) :
    Produced localAddress (stream ++ pushed [op]) (done ++ actions [(machine RX TX).event e op])
      (returned ++ commands [(machine RX TX).event e op]) ((machine RX TX).step e op).1 := by
  obtain ⟨buf, cmds, hstands, hstream, hcommands⟩ := h
  cases op with
  | pushRx bytes =>
    obtain ⟨-, hvalid, hcontents⟩ : _ ∧ (e.rxRing.push bytes).2.Valid ∧ _ :=
      DirectByteRing.push_spec hstands.ring
    have hall : (e.rxRing.push bytes).1 = bytes.length :=
      Out.accepted.inj (hroom _ List.mem_cons_self bytes rfl)
    rw [hall, List.take_length, hstands.contents] at hcontents
    have hbytes : pushed [.pushRx bytes] = bytes := List.append_nil _
    have hnone : actions [(machine RX TX).event e (.pushRx bytes)] = [] := rfl
    have hnone' : commands [(machine RX TX).event e (.pushRx bytes)] = [] := rfl
    rw [hbytes, hnone, hnone', List.append_nil, List.append_nil]
    refine ⟨buf ++ bytes, cmds, ⟨hstands.address, hvalid, hcontents,
      hstands.queued.congr rfl rfl rfl⟩, ?_, hcommands⟩
    rw [decode_append stream, decode_append buf, hstream, List.append_assoc]
  | pollCommand =>
    obtain ⟨left, cmds', hstands', hdecode, hqueue, -⟩ := pollCommand_spec hRX hstands
    have hactions : actions [(machine RX TX).event e .pollCommand] = e.pollCommand.1.1 :=
      List.append_nil _
    have hcommand : commands [(machine RX TX).event e .pollCommand] = e.pollCommand.1.2.toList :=
      List.append_nil _
    have hbytes : pushed [.pollCommand] = [] := rfl
    rw [hactions, hcommand, hbytes, List.append_nil]
    refine ⟨left, cmds', hstands', ?_, ?_⟩
    · rw [hstream, hdecode, List.append_assoc]
    · rw [List.filterMap_append, hcommands, List.append_assoc, hqueue, List.append_assoc]

/-- A run. -/
theorem run_produces (hRX : maxMavlinkV2FrameLen ≤ RX)
    (h : Produced localAddress stream done returned e)
    (hroom : NoOverflow ((machine RX TX).trace e ops)) :
    Produced localAddress (stream ++ pushed ops) (done ++ actions ((machine RX TX).trace e ops))
      (returned ++ commands ((machine RX TX).trace e ops)) ((machine RX TX).run e ops) := by
  induction ops generalizing e stream done returned with
  | nil => simpa [pushed, actions, commands] using h
  | cons op ops ih =>
    have hfirst := h.step hRX op fun event hevent => by
      rw [List.mem_singleton] at hevent
      subst hevent
      exact hroom _ List.mem_cons_self
    have hrest := ih hfirst fun event hevent => hroom event (List.mem_cons_of_mem _ hevent)
    have hbytes : pushed (op :: ops) = pushed [op] ++ pushed ops := by simp [pushed]
    have hactions : actions ((machine RX TX).trace e (op :: ops)) =
        actions [(machine RX TX).event e op] ++
          actions ((machine RX TX).trace ((machine RX TX).step e op).1 ops) := by
      simp [actions]
    have hcommands : commands ((machine RX TX).trace e (op :: ops)) =
        commands [(machine RX TX).event e op] ++
          commands ((machine RX TX).trace ((machine RX TX).step e op).1 ops) := by
      simp [commands]
    rw [hbytes, hactions, hcommands, ← List.append_assoc, ← List.append_assoc, ← List.append_assoc]
    exact hrest

/-- Polling more often than there are commands left empties the queue and brings the decoder to
wait. -/
theorem polls_drain (hRX : maxMavlinkV2FrameLen ≤ RX) (k : Nat) :
    ∀ {e : DirectMavlinkEndpoint RX TX} {cmds : List (SystemCommand F32)} {buf : Bytes},
      e.Stands localAddress cmds buf →
      (cmds ++ ((inboundDecoder localAddress).decode buf).1.filterMap
        InboundAction.command?).length < k →
      ∃ left,
        ((machine RX TX).run e (List.replicate k Op.pollCommand)).Stands localAddress [] left ∧
        ((inboundDecoder localAddress).decode left).1 = [] := by
  induction k with
  | zero =>
    intro e cmds buf _ hk
    exact absurd hk (Nat.not_lt_zero _)
  | succ k ih =>
    intro e cmds buf h hk
    obtain ⟨left, cmds', hstands, hdecode, hqueue, hdry⟩ := pollCommand_spec hRX h
    rw [List.replicate_succ, Machine.run_cons]
    have hremaining : cmds ++ ((inboundDecoder localAddress).decode buf).1.filterMap
        InboundAction.command? = e.pollCommand.1.2.toList ++ (cmds' ++
          ((inboundDecoder localAddress).decode left).1.filterMap InboundAction.command?) := by
      rw [hdecode, List.filterMap_append, ← List.append_assoc, hqueue, List.append_assoc]
    rw [hremaining, List.length_append] at hk
    cases hcommand : e.pollCommand.1.2 with
    | none =>
      obtain ⟨rfl, hwait⟩ := hdry hcommand
      cases k with
      | zero => exact ⟨left, hstands, hwait⟩
      | succ k =>
        refine ih hstands ?_
        rw [hwait]
        exact Nat.succ_pos k
    | some cmd =>
      rw [hcommand] at hk
      refine ih hstands ?_
      simp only [Option.toList_some, List.length_singleton] at hk
      omega

theorem pushed_polls (k : Nat) : pushed (List.replicate k Op.pollCommand) = [] := by
  induction k with
  | zero => rfl
  | succ k ih => exact ih

/-- Polls push nothing. -/
theorem noOverflow_polls (k : Nat) :
    NoOverflow ((machine RX TX).trace e (List.replicate k Op.pollCommand)) := by
  intro event hevent bytes hop
  obtain ⟨ops₁, op, ops₂, hops, rfl⟩ := Machine.mem_trace.mp hevent
  have hmem : op ∈ List.replicate k Op.pollCommand := by
    rw [hops]
    exact List.mem_append_right _ List.mem_cons_self
  rw [List.eq_of_mem_replicate hmem] at hop
  cases hop

/-- Once polled often enough, the endpoint has carried out every action of its stream and
returned every command. -/
theorem polled_out (hRX : maxMavlinkV2FrameLen ≤ RX) (sysId compId : UInt8)
    (hroom : NoOverflow ((machine RX TX).trace (new sysId compId) ops)) {k : Nat}
    (hk : (((inboundDecoder ⟨sysId, compId⟩).decode (pushed ops)).1.filterMap
      InboundAction.command?).length < k) :
    actions ((machine RX TX).trace (new sysId compId) (ops ++ List.replicate k Op.pollCommand)) =
        ((inboundDecoder ⟨sysId, compId⟩).decode (pushed ops)).1 ∧
      commands ((machine RX TX).trace (new sysId compId) (ops ++ List.replicate k Op.pollCommand)) =
        ((inboundDecoder ⟨sysId, compId⟩).decode (pushed ops)).1.filterMap
          InboundAction.command? := by
  have hrun := run_produces hRX (produced_new hRX sysId compId) hroom
  simp only [List.nil_append] at hrun
  obtain ⟨buf, cmds, hstands, hstream, hcommands⟩ := hrun
  have hleft : (cmds ++ ((inboundDecoder ⟨sysId, compId⟩).decode buf).1.filterMap
      InboundAction.command?).length < k := by
    refine Nat.lt_of_le_of_lt ?_ hk
    rw [hstream, List.filterMap_append, hcommands, List.append_assoc]
    exact (List.sublist_append_right _ _).length_le
  obtain ⟨left, hdrained, hwait⟩ := polls_drain hRX k hstands hleft
  have hpolled := run_produces hRX ⟨buf, cmds, hstands, hstream, hcommands⟩ (noOverflow_polls k)
  rw [pushed_polls, List.append_nil] at hpolled
  obtain ⟨buf', cmds', hstands', hstream', hcommands'⟩ := hpolled
  have hbuf : buf' = left := hstands'.contents.symm.trans hdrained.contents
  have hcmds : cmds' = [] := by
    have hlength := hstands'.queued.length
    rw [← hdrained.queued.length] at hlength
    exact List.eq_nil_of_length_eq_zero hlength
  have hdone := congrArg Prod.fst hstream'
  rw [hbuf, hwait, List.append_nil] at hdone
  rw [hcmds, List.append_nil] at hcommands'
  have hactions (trace₁ trace₂ : List (Machine.Event (DirectMavlinkEndpoint RX TX) Op Out)) :
      actions (trace₁ ++ trace₂) = actions trace₁ ++ actions trace₂ := List.flatMap_append
  have htrace (trace₁ trace₂ : List (Machine.Event (DirectMavlinkEndpoint RX TX) Op Out)) :
      commands (trace₁ ++ trace₂) = commands trace₁ ++ commands trace₂ := List.flatMap_append
  rw [Machine.trace_append, hactions, htrace, ← hcommands', hdone]
  exact ⟨rfl, rfl⟩

/-- The stream determines the actions and the commands. Whatever chunks it comes in and wherever
the polls fall, what has been carried out and returned is a prefix of what the decoder makes of
the whole stream, and polling on gives all of it. The actions of well-formed frames between bytes
that start none are those of their messages, in order. -/
theorem stream_determines_actions (hRX : maxMavlinkV2FrameLen ≤ RX) (sysId compId : UInt8) :
    (∀ ops, NoOverflow ((machine RX TX).trace (new sysId compId) ops) →
      let expected := ((inboundDecoder ⟨sysId, compId⟩).decode (pushed ops)).1
      actions ((machine RX TX).trace (new sysId compId) ops) <+: expected ∧
        commands ((machine RX TX).trace (new sysId compId) ops) <+:
          expected.filterMap InboundAction.command? ∧
        ∀ k, (expected.filterMap InboundAction.command?).length < k →
          let polled := (machine RX TX).trace (new sysId compId)
            (ops ++ List.replicate k Op.pollCommand)
          actions polled = expected ∧
            commands polled = expected.filterMap InboundAction.command?) ∧
      ∀ (frames : List (Bytes × RawFrame)) (last : Bytes),
        (∀ g ∈ frames, ∀ b ∈ g.1, b ≠ mavlinkStxV2) → (∀ b ∈ last, b ≠ mavlinkStxV2) →
        (∀ g ∈ frames, g.2.WellFormed) →
        ∃ parsed, List.Forall₂ (fun g p => g.2.interpret = .ok p) frames parsed ∧
          ((inboundDecoder ⟨sysId, compId⟩).decode
              (frames.flatMap (fun g => g.1 ++ g.2.bytes) ++ last)).1 =
            parsed.map fun p => mapMessage p.message p.header ⟨sysId, compId⟩ := by
  refine ⟨fun ops hroom => ?_, fun frames last hgaps hlast hframes => ?_⟩
  · obtain ⟨buf, cmds, -, hstream, hcommands⟩ :=
      run_produces hRX (produced_new hRX sysId compId) hroom
    simp only [List.nil_append] at hstream hcommands
    refine ⟨⟨_, (congrArg Prod.fst hstream).symm⟩, ?_,
      fun k hk => polled_out hRX sysId compId hroom hk⟩
    rw [hstream, List.filterMap_append, hcommands, List.append_assoc]
    exact List.prefix_append _ _
  · obtain ⟨parsed, hparsed, hdecode⟩ := decode_frames hgaps hlast hframes
    exact ⟨parsed, hparsed, by rw [hdecode]⟩

/-- An arm command for system 1, component 1. -/
def armFrame : RawFrame where
  incompatFlags := 0
  compatFlags := 0
  seq := 7
  sysid := 255
  compid := 190
  id0 := 76
  id1 := 0
  id2 := 0
  payload := [0, 0, 128, 63, 0, 0, 0, 0, 0, 0, 0, 0, 0, 0, 0, 0, 0, 0, 0, 0, 0, 0, 0, 0, 0, 0, 0, 0,
    144, 1, 1, 1]
  crc0 := 0x05
  crc1 := 0xB2
  signature := []
  payload_le := by decide
  signature_length := RawFrame.unsigned_length

theorem armFrame_wellFormed : armFrame.WellFormed :=
  ⟨by decide, by decide +kernel, ⟨33, by decide⟩, by decide⟩

theorem armFrame_interpret : armFrame.interpret =
    .ok ⟨.commandLong ⟨⟨0x3F800000⟩, ⟨0⟩, ⟨0⟩, ⟨0⟩, ⟨0⟩, ⟨0⟩, ⟨0⟩, 400, 1, 1, 0⟩, none,
      armFrame.header, 44⟩ := by
  decide +kernel

theorem stream_determines_actions_arm :
    let chunks := [.pushRx (85 :: armFrame.bytes.take 20), .pollCommand,
      .pushRx (armFrame.bytes.drop 20)]
    commands ((machine 280 64).trace (new 1 1) (chunks ++ List.replicate 2 Op.pollCommand)) =
      [.arm] := by
  intro chunks
  have hroom : NoOverflow ((machine 280 64).trace (new 1 1) chunks) := by
    intro event hevent bytes hop
    simp only [chunks, Machine.trace_cons, Machine.trace_nil, List.mem_cons, List.not_mem_nil,
      or_false] at hevent
    rcases hevent with rfl | rfl | rfl
    · cases hop
      rfl
    · cases hop
    · cases hop
      refine congrArg Out.accepted ?_
      decide +kernel
  obtain ⟨hrun, hframes⟩ := @stream_determines_actions 280 64 (by decide) 1 1
  obtain ⟨parsed, hparsed, hdecode⟩ := hframes [([85], armFrame)] [] (by decide +kernel)
    (by decide +kernel) (by simpa using armFrame_wellFormed)
  cases hparsed with
  | cons hp hnil =>
    cases hnil
    cases armFrame_interpret.symm.trans hp
    have hexpected : ((inboundDecoder ⟨1, 1⟩).decode (pushed chunks)).1 = [.enqueue .arm] :=
      hdecode
    have hall := ((hrun chunks hroom).2.2 2 (by rw [hexpected]; decide)).2
    rw [hexpected] at hall
    exact hall

end DirectMavlinkEndpoint

end Aviate.Direct
