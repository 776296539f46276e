import Aviate.Usb.CommandLoss

/-!
# The request for the bootloader on the MAVLink stream

The build with the request for the bootloader looks at every byte before the frame parser does,
and does not know where frames begin and end.

Results:
1. `handleDfuProtocol_explained`: what the request's state holds was typed by an operator, as long
   as no byte of a frame is taken for a letter of the request or a digit of the code.
2. `parseBytes_passes`: as long as no byte is taken, all of them reach the frame parser.
3. `sniffer_isolated`: under that condition, and with calls that are frequent enough for the tick
   counter, frames are parsed as without the request, and a reboot follows only the typed request
   and the code issued for it within the timeout.
4. `frame_reboots`: one well-formed frame reboots the board.
-/

namespace Aviate.Usb

open Mavlink DfuState

/-! ## Who sent what -/

/-- A byte, typed by an operator outside of any frame or part of a frame. -/
structure Sent where
  byte : UInt8
  typed : Bool
deriving DecidableEq, Repr

/-- A byte that the sniffer has met: in which state, at which tick, and what a read of the cycle
counter gives. -/
structure Handled where
  sent : Sent
  met : DfuState
  time : Nat
  cyccnt : UInt32

/-- The bytes that a call has met. -/
def handledFrom (cyccnt : Nat → UInt32) (time : Nat) :
    Nat → List DfuState → List Sent → List Handled
  | i, met :: states, sent :: items =>
    ⟨sent, met, time, cyccnt i⟩ :: handledFrom cyccnt time (i + 1) states items
  | _, _, _ => []

/-- The bytes that an event has met. -/
def handledIn (event : Machine.Event (Stream Sent) (Op Sent) (Option Parsed)) : List Handled :=
  match event.op, event.out with
  | .tryRecvCommand cyccnt, some parsed =>
    handledFrom cyccnt event.pre.ticks 0 parsed.met (event.pre.pending.take 64)
  | _, _ => []

/-- The bytes met in a run, in order. -/
def history (trace : List (Machine.Event (Stream Sent) (Op Sent) (Option Parsed))) :
    List Handled :=
  trace.flatMap handledIn

/-- The state takes the byte for a letter of the request or a digit of the code. -/
def Swallows (byte : UInt8) : DfuState → Prop
  | .idle => byte = 0x64
  | .waitDfu idx => target[idx]? = some byte
  | .waitConfirm _ buf _ _ => isDigit byte = true ∧ isNewline byte = false ∧ buf.length < 4

instance (byte : UInt8) : (met : DfuState) → Decidable (Swallows byte met)
  | .idle => inferInstanceAs (Decidable (byte = 0x64))
  | .waitDfu idx => inferInstanceAs (Decidable (target[idx]? = some byte))
  | .waitConfirm _ buf _ _ =>
    inferInstanceAs (Decidable (isDigit byte = true ∧ isNewline byte = false ∧ buf.length < 4))

/-- No byte of a frame is taken. -/
def Quiet (handled : List Handled) : Prop :=
  ∀ h ∈ handled, h.sent.typed = false → ¬ Swallows h.sent.byte h.met

/-- Fewer than `2^32 - 10000` ticks pass from one call to the next. -/
def FrequentCalls (since : Nat) : List (Op Sent) → Prop
  | [] => True
  | .arrive _ :: ops => FrequentCalls since ops
  | .poll :: ops => since + 1 < 2 ^ 32 - dfuTimeoutTicks.toNat ∧ FrequentCalls (since + 1) ops
  | .tryRecvCommand _ :: ops => FrequentCalls 0 ops

/-! ## What was typed -/

/-- An operator typed the text. -/
def Spells (letters : List Handled) (text : Bytes) : Prop :=
  letters.map Handled.sent = text.map fun byte => ⟨byte, true⟩

/-- An operator typed the request, `code` was issued for it at `time`, and the digits since then
are these, all typed. -/
def Requested (past : List Handled) (code : UInt16) (time : Nat) (digits : Bytes) : Prop :=
  ∃ before letters last after, past = before ++ (letters ++ [last]) ++ after ∧
    Spells (letters ++ [last]) target ∧ code = generateDfuCode last.cyccnt ∧ last.time = time ∧
    Spells (after.filter fun h => isDigit h.sent.byte) digits

/-- An operator typed the request and then the code issued for it, within the timeout. -/
def TypedReboot (past : List Handled) (now : Nat) : Prop :=
  ∃ code time digits, Requested past code time digits ∧ digits.length = 4 ∧
    parseCode digits = some code ∧ time ≤ now ∧ now ≤ time + dfuTimeoutTicks.toNat

/-- What the state holds was typed. `last` is the tick of the last call. -/
def Explained (past : List Handled) (last : Nat) : DfuState → Prop
  | .idle => True
  | .waitDfu idx => idx < target.length ∧ ∃ before letters, past = before ++ letters ∧
      Spells letters (target.take idx)
  | .waitConfirm code buf _ startTick => buf.length ≤ 4 ∧ ∃ time, Requested past code time buf ∧
      startTick = .ofNat time ∧ time ≤ last ∧ last ≤ time + dfuTimeoutTicks.toNat

section Steps

variable {past : List Handled} {now : Nat} {h : Handled} {code : UInt16} {time : Nat}
  {digits : Bytes} {dfu : DfuState}

/-- A byte that is no digit changes nothing about the request. -/
theorem Requested.skip (hrequested : Requested past code time digits)
    (hbyte : isDigit h.sent.byte = false) : Requested (past ++ [h]) code time digits := by
  obtain ⟨before, letters, last, after, rfl, hspells, hcode, htime, hdigits⟩ := hrequested
  refine ⟨before, letters, last, after ++ [h], ?_, hspells, hcode, htime, ?_⟩
  · rw [List.append_assoc]
  · rwa [List.filter_append, List.filter_cons_of_neg (by simp [hbyte]), List.filter_nil,
      List.append_nil]

/-- A typed digit is one more digit. -/
theorem Requested.digit (hrequested : Requested past code time digits)
    (hbyte : isDigit h.sent.byte = true) (htyped : h.sent.typed = true) :
    Requested (past ++ [h]) code time (digits ++ [h.sent.byte]) := by
  obtain ⟨before, letters, last, after, rfl, hspells, hcode, htime, hdigits⟩ := hrequested
  refine ⟨before, letters, last, after ++ [h], ?_, hspells, hcode, htime, ?_⟩
  · rw [List.append_assoc]
  · have hsent : h.sent = ⟨h.sent.byte, true⟩ := by rw [← htyped]
    have hone : [h].filter (fun h => isDigit h.sent.byte) = [h] := by simp [hbyte]
    rw [List.filter_append, hone, Spells, List.map_append, List.map_append,
      show (after.filter _).map Handled.sent = _ from hdigits, List.map_singleton,
      List.map_singleton, ← hsent]

theorem isDigit_of_newline {byte : UInt8} (hnewline : isNewline byte = true) :
    isDigit byte = false := by
  simp only [isNewline, Bool.or_eq_true, decide_eq_true_eq] at hnewline
  rcases hnewline with rfl | rfl <;> rfl

/-- One byte keeps the state explained; if it reboots, the request and its code were typed. -/
theorem handleDfuProtocol_explained (hdfu : Explained past h.time dfu)
    (hquiet : h.sent.typed = false → ¬ Swallows h.sent.byte dfu) :
    let sniffed := dfu.handleDfuProtocol (.ofNat h.time) h.cyccnt h.sent.byte
    Explained (past ++ [h]) h.time sniffed.2 ∧
      (sniffed.1 = .rebooted → TypedReboot (past ++ [h]) h.time) := by
  have htyped (hswallows : Swallows h.sent.byte dfu) : h.sent = ⟨h.sent.byte, true⟩ := by
    cases hsent : h.sent.typed with
    | true => rw [← hsent]
    | false => exact absurd hswallows (hquiet hsent)
  cases dfu with
  | idle =>
    unfold handleDfuProtocol
    dsimp only
    split
    next hbyte =>
      refine ⟨⟨by decide, past, [h], rfl, ?_⟩, nofun⟩
      rw [Spells, List.map_singleton, htyped hbyte, hbyte]
      rfl
    next => exact ⟨trivial, nofun⟩
  | waitDfu idx =>
    obtain ⟨hidx, before, letters, rfl, hspells⟩ := hdfu
    unfold handleDfuProtocol
    dsimp only
    split
    next hbyte =>
      have hmore : Spells (letters ++ [h]) (target.take (idx + 1)) := by
        rw [Spells, List.map_append, show letters.map Handled.sent = _ from hspells,
          List.map_singleton, htyped hbyte, List.take_add_one, hbyte, List.map_append]
        rfl
      split
      next hlast =>
        refine ⟨⟨Nat.zero_le _, h.time, ⟨before, letters, h, [], ?_, ?_, rfl, rfl, rfl⟩, rfl,
          le_refl _, Nat.le_add_right _ _⟩, nofun⟩
        · rw [List.append_nil, List.append_assoc]
        · rwa [hlast, show target.take (target.length - 1 + 1) = target from rfl] at hmore
      next hlast =>
        refine ⟨⟨by omega, before, letters ++ [h], ?_, hmore⟩, nofun⟩
        rw [List.append_assoc]
    next => exact ⟨trivial, nofun⟩
  | waitConfirm code buf lastSent startTick =>
    obtain ⟨hfour, time, hrequested, hstart, hbefore, hafter⟩ := hdfu
    unfold handleDfuProtocol
    dsimp only
    split
    next hnewline =>
      have hskip := hrequested.skip (h := h) (isDigit_of_newline hnewline)
      split
      next hfull =>
        split
        next hcode =>
          exact ⟨⟨hfour, time, hskip, hstart, hbefore, hafter⟩, fun _ =>
            ⟨code, time, buf, hskip, hfour.antisymm hfull, hcode, hbefore, hafter⟩⟩
        next => exact ⟨trivial, nofun⟩
      next => exact ⟨⟨hfour, time, hskip, hstart, hbefore, hafter⟩, nofun⟩
    next hnewline =>
      rw [Bool.not_eq_true] at hnewline
      split
      next hdigit =>
        split
        next hroom =>
          have hsent := htyped ⟨hdigit, hnewline, hroom⟩
          have hmore := hrequested.digit hdigit (congrArg Sent.typed hsent)
          have hlength : (buf ++ [h.sent.byte]).length ≤ 4 := by
            rw [List.length_append]
            exact hroom
          split
          next hcode =>
            exact ⟨⟨hlength, time, hmore, hstart, hbefore, hafter⟩, fun _ =>
              ⟨code, time, _, hmore, hcode.1, hcode.2, hbefore, hafter⟩⟩
          next => exact ⟨⟨hlength, time, hmore, hstart, hbefore, hafter⟩, nofun⟩
        next => exact ⟨trivial, nofun⟩
      next hdigit =>
        have hskip := hrequested.skip (h := h) (Bool.not_eq_true _ ▸ hdigit)
        exact ⟨⟨hfour, time, hskip, hstart, hbefore, hafter⟩, nofun⟩

/-! ## The loop over the bytes of a call -/

section Loop

variable {softwareBootloader : Bool} {cyccnt : Nat → UInt32} {tick : UInt32} {parser : LinkParser}
  {dfu' : DfuState} {i : Nat} {byte : UInt8} {bytes : Bytes}

open SerialTransport

/-- What the build does with a byte before the parser. -/
def sniff (softwareBootloader : Bool) (cyccnt : Nat → UInt32) (tick : UInt32) (dfu : DfuState)
    (i : Nat) (byte : UInt8) : Sniffed × DfuState :=
  if softwareBootloader then dfu.handleDfuProtocol tick (cyccnt i) byte else (.passed, dfu)

theorem parseBytes_rebooted
    (h : sniff softwareBootloader cyccnt tick dfu i byte = (.rebooted, dfu')) :
    parseBytes softwareBootloader cyccnt tick parser dfu i (byte :: bytes) =
      (⟨[dfu], [], none, true⟩, parser, dfu') := by
  rw [sniff] at h
  simp only [parseBytes, h]

theorem parseBytes_consumed
    (h : sniff softwareBootloader cyccnt tick dfu i byte = (.consumed, dfu')) :
    parseBytes softwareBootloader cyccnt tick parser dfu i (byte :: bytes) =
      ((parseBytes softwareBootloader cyccnt tick parser dfu' (i + 1) bytes).1.after dfu [],
        (parseBytes softwareBootloader cyccnt tick parser dfu' (i + 1) bytes).2) := by
  rw [sniff] at h
  simp only [parseBytes, h]

theorem parseBytes_passed (h : sniff softwareBootloader cyccnt tick dfu i byte = (.passed, dfu')) :
    parseBytes softwareBootloader cyccnt tick parser dfu i (byte :: bytes) =
      match feedParser parser byte with
      | (some command, parser) => (⟨[dfu], [byte], some command, false⟩, parser, dfu')
      | (none, parser) =>
        ((parseBytes softwareBootloader cyccnt tick parser dfu' (i + 1) bytes).1.after dfu [byte],
          (parseBytes softwareBootloader cyccnt tick parser dfu' (i + 1) bytes).2) := by
  rw [sniff] at h
  simp only [parseBytes, h]
  rcases feedParser parser byte with ⟨_ | command, parser⟩ <;> rfl

/-- The loop keeps the state explained; if it reboots, the request and its code were typed. -/
theorem parseBytes_explained {items : List Sent} {result : Parsed × LinkParser × DfuState}
    (hresult : parseBytes true cyccnt (.ofNat now) parser dfu i (items.map Sent.byte) = result)
    (hdfu : Explained past now dfu)
    (hquiet : Quiet (handledFrom cyccnt now i result.1.met items)) :
    Explained (past ++ handledFrom cyccnt now i result.1.met items) now result.2.2 ∧
      (result.1.rebooted = true →
        TypedReboot (past ++ handledFrom cyccnt now i result.1.met items) now) := by
  induction items generalizing past parser dfu i result with
  | nil =>
    subst hresult
    exact ⟨(List.append_nil past).symm ▸ hdfu, nofun⟩
  | cons sent items ih =>
    have hstep := @handleDfuProtocol_explained past ⟨sent, dfu, now, cyccnt i⟩ dfu hdfu
    cases hsniff : sniff true cyccnt (.ofNat now) dfu i sent.byte with
    | mk what dfu' =>
    rw [show dfu.handleDfuProtocol (.ofNat now) (cyccnt i) sent.byte = (what, dfu') from hsniff]
      at hstep
    rw [List.map_cons] at hresult
    cases what with
    | rebooted =>
      rw [parseBytes_rebooted hsniff] at hresult
      subst hresult
      obtain ⟨hnext, hreboot⟩ := hstep (hquiet _ List.mem_cons_self)
      exact ⟨hnext, fun _ => hreboot rfl⟩
    | consumed =>
      rw [parseBytes_consumed hsniff] at hresult
      subst hresult
      obtain ⟨hnext, -⟩ := hstep (hquiet _ List.mem_cons_self)
      have hrest := ih rfl hnext fun h hmem => hquiet h (List.mem_cons_of_mem _ hmem)
      rw [List.append_assoc] at hrest
      exact hrest
    | passed =>
      rw [parseBytes_passed hsniff] at hresult
      rcases hfeed : feedParser parser sent.byte with ⟨_ | command, parser'⟩
      · rw [hfeed] at hresult
        subst hresult
        obtain ⟨hnext, -⟩ := hstep (hquiet _ List.mem_cons_self)
        have hrest := ih rfl hnext fun h hmem => hquiet h (List.mem_cons_of_mem _ hmem)
        rw [List.append_assoc] at hrest
        exact hrest
      · rw [hfeed] at hresult
        subst hresult
        exact ⟨(hstep (hquiet _ List.mem_cons_self)).1, nofun⟩

/-- No request has been typed to its end. -/
def NoRequest : DfuState → Prop
  | .waitConfirm .. => False
  | _ => True

/-- Without a request, a byte that is not taken is passed on. -/
theorem handleDfuProtocol_passed (hdfu : NoRequest dfu) (hquiet : ¬ Swallows byte dfu)
    (cyccnt : UInt32) :
    ∃ dfu', dfu.handleDfuProtocol tick cyccnt byte = (.passed, dfu') ∧ NoRequest dfu' := by
  cases dfu with
  | idle => exact ⟨.idle, if_neg hquiet, trivial⟩
  | waitDfu idx => exact ⟨.idle, if_neg hquiet, trivial⟩
  | waitConfirm code buf lastSent startTick => exact hdfu.elim

/-- Without a request, and as long as no byte is taken, the loop does what it does without the
sniffer. -/
theorem parseBytes_passes {result : Parsed × LinkParser × DfuState}
    (hresult : parseBytes true cyccnt tick parser dfu i bytes = result) (hdfu : NoRequest dfu)
    (hquiet : ∀ h ∈ result.1.met.zip bytes, ¬ Swallows h.2 h.1) (plain : DfuState) :
    NoRequest result.2.2 ∧ result.1.rebooted = false ∧
      ∃ met, parseBytes false cyccnt tick parser plain i bytes =
        (⟨met, result.1.fed, result.1.command, false⟩, result.2.1, plain) := by
  induction bytes generalizing parser dfu i result with
  | nil =>
    subst hresult
    exact ⟨hdfu, rfl, [], rfl⟩
  | cons byte bytes ih =>
    have hmet : ∃ states, result.1.met = dfu :: states := by
      rw [← hresult, parseBytes]
      split
      · exact ⟨_, rfl⟩
      · exact ⟨_, rfl⟩
      · split
        split <;> exact ⟨_, rfl⟩
    obtain ⟨states, hstates⟩ := hmet
    have hbyte : ¬ Swallows byte dfu :=
      hquiet (dfu, byte) (by rw [hstates]; exact List.mem_cons_self)
    obtain ⟨dfu', hpassed, hnext⟩ : ∃ dfu', dfu.handleDfuProtocol tick (cyccnt i) byte =
        (.passed, dfu') ∧ NoRequest dfu' := handleDfuProtocol_passed hdfu hbyte (cyccnt i)
    rw [parseBytes_passed (show sniff true cyccnt tick dfu i byte = _ from hpassed)] at hresult
    rw [parseBytes_passed (show sniff false cyccnt tick plain i byte = (.passed, plain) from rfl)]
    rcases hfeed : feedParser parser byte with ⟨_ | command, parser'⟩
    · rw [hfeed] at hresult
      subst hresult
      obtain ⟨hrequest, hrebooted, met, hplain⟩ := ih rfl hnext fun h hmem =>
        hquiet h (List.mem_cons_of_mem _ hmem)
      refine ⟨hrequest, hrebooted, plain :: met, ?_⟩
      simp only [hplain]
      rfl
    · rw [hfeed] at hresult
      subst hresult
      exact ⟨hnext, rfl, [plain], rfl⟩

end Loop

end Steps

/-! ## Runs -/

section Runs

open SerialTransport

variable {past : List Handled} {last since : Nat} {stream : Stream Sent} {ops : List (Op Sent)}
  {cyccnt : Nat → UInt32}

/-- A call gives up a request whose timeout has passed: since the last call the tick counter has
not come round. -/
theorem explained_polledState (hdfu : Explained past last stream.dfuState)
    (hticks : stream.ticks = last + since) (hsince : since < 2 ^ 32 - dfuTimeoutTicks.toNat) :
    Explained past stream.ticks (stream.polledState true) := by
  unfold Stream.polledState
  rw [if_pos rfl]
  cases hstate : stream.dfuState with
  | idle => trivial
  | waitDfu idx =>
    rw [hstate] at hdfu
    exact hdfu
  | waitConfirm code buf lastSent startTick =>
    rw [hstate] at hdfu
    obtain ⟨hfour, time, hrequested, rfl, hbefore, hafter⟩ := hdfu
    have htimeout : dfuTimeoutTicks.toNat = 10000 := rfl
    have hage : (stream.tickCounter - .ofNat time).toNat = stream.ticks - time := by
      rw [Stream.tickCounter, ← UInt32.ofNat_sub (by omega), UInt32.toNat_ofNat']
      exact Nat.mod_eq_of_lt (by omega)
    rw [updateDfuState]
    split
    next => trivial
    next hfresh =>
      rw [UInt32.not_lt, UInt32.le_iff_toNat_le, hage] at hfresh
      split
      · exact ⟨hfour, time, hrequested, rfl, by omega, by omega⟩
      · exact ⟨hfour, time, hrequested, rfl, by omega, by omega⟩

/-- A call keeps the state explained; if it reboots, the request and its code were typed. -/
theorem call_explained (hdfu : Explained past last stream.dfuState)
    (hticks : stream.ticks = last + since) (hsince : since < 2 ^ 32 - dfuTimeoutTicks.toNat)
    (hquiet : Quiet (handledIn ((Stream.machine Sent.byte true).event stream
      (.tryRecvCommand cyccnt)))) :
    let met := handledIn ((Stream.machine Sent.byte true).event stream (.tryRecvCommand cyccnt))
    Explained (past ++ met) stream.ticks (stream.call Sent.byte true cyccnt).2.2 ∧
      ((stream.call Sent.byte true cyccnt).1.rebooted = true →
        TypedReboot (past ++ met) stream.ticks) := by
  have hpolled := explained_polledState hdfu hticks hsince
  exact parseBytes_explained rfl hpolled hquiet

/-- A run keeps the state explained. -/
theorem run_explained (hdfu : Explained past last stream.dfuState)
    (hticks : stream.ticks = last + since) (hsince : since < 2 ^ 32 - dfuTimeoutTicks.toNat)
    (hcalls : FrequentCalls since ops)
    (hquiet : Quiet (history ((Stream.machine Sent.byte true).trace stream ops))) :
    ∃ last' since', Explained (past ++ history ((Stream.machine Sent.byte true).trace stream ops))
        last' ((Stream.machine Sent.byte true).run stream ops).dfuState ∧
      ((Stream.machine Sent.byte true).run stream ops).ticks = last' + since' ∧
      since' < 2 ^ 32 - dfuTimeoutTicks.toNat := by
  induction ops generalizing stream past last since with
  | nil =>
    refine ⟨last, since, ?_, hticks, hsince⟩
    rw [show history _ = [] from rfl, List.append_nil]
    exact hdfu
  | cons op ops ih =>
    cases op with
    | arrive items => exact @ih past last since _ hdfu hticks hsince hcalls hquiet
    | poll =>
      exact @ih past last (since + 1) _ hdfu (congrArg (· + 1) hticks) hcalls.1 hcalls.2 hquiet
    | tryRecvCommand cyccnt =>
      have hfirst := call_explained hdfu hticks hsince fun h hmem =>
        hquiet h (List.mem_append_left _ hmem)
      obtain ⟨last', since', hrest⟩ := @ih _ stream.ticks 0
        ((Stream.machine Sent.byte true).step stream (.tryRecvCommand cyccnt)).1 hfirst.1 rfl
        (by decide) hcalls fun h hmem => hquiet h (List.mem_append_right _ hmem)
      rw [List.append_assoc] at hrest
      exact ⟨last', since', hrest⟩

theorem frequentCalls_of_append {later : List (Op Sent)} (h : FrequentCalls since (ops ++ later)) :
    FrequentCalls since ops := by
  induction ops generalizing since with
  | nil => trivial
  | cons op ops ih =>
    cases op with
    | arrive items => exact ih h
    | poll => exact ⟨h.1, ih h.2⟩
    | tryRecvCommand cyccnt => exact ih h

/-- What a call shows: the bytes that reached the parser and the command. -/
def shown (result : Parsed) : Bytes × Option (SystemCommand F32) := (result.fed, result.command)

/-- Bytes of frames that are not taken are all passed on. -/
theorem swallows_of_quiet {states : List DfuState} {items : List Sent} {time i : Nat}
    (hquiet : Quiet (handledFrom cyccnt time i states items))
    (hframes : ∀ sent ∈ items, sent.typed = false) :
    ∀ h ∈ states.zip (items.map Sent.byte), ¬ Swallows h.2 h.1 := by
  induction states generalizing items i with
  | nil => exact fun h hmem => absurd hmem List.not_mem_nil
  | cons state states ih =>
    cases items with
    | nil => exact fun h hmem => absurd hmem List.not_mem_nil
    | cons sent items =>
      rw [List.map_cons, List.zip_cons_cons, List.forall_mem_cons]
      rw [List.forall_mem_cons] at hframes
      exact ⟨hquiet _ List.mem_cons_self hframes.1,
        ih (fun h hmem => hquiet h (List.mem_cons_of_mem _ hmem)) hframes.2⟩

/-- On frames alone the two builds do the same. -/
theorem results_passes {plain : Stream Sent} (hpending : plain.pending = stream.pending)
    (hparser : plain.parser = stream.parser) (hticks : plain.ticks = stream.ticks)
    (hdfu : NoRequest stream.dfuState)
    (hframes : ∀ sent ∈ stream.pending ++ arrived ops, sent.typed = false)
    (hquiet : Quiet (history ((Stream.machine Sent.byte true).trace stream ops))) :
    (Stream.results ((Stream.machine Sent.byte true).trace stream ops)).map shown =
        (Stream.results ((Stream.machine Sent.byte false).trace plain ops)).map shown ∧
      ∀ result ∈ Stream.results ((Stream.machine Sent.byte true).trace stream ops),
        result.rebooted = false := by
  induction ops generalizing stream plain with
  | nil => exact ⟨rfl, fun result hmem => absurd hmem List.not_mem_nil⟩
  | cons op ops ih =>
    rw [arrived_cons, ← List.append_assoc] at hframes
    cases op with
    | arrive items =>
      refine @ih ((Stream.machine Sent.byte true).step stream (.arrive items)).1
        ((Stream.machine Sent.byte false).step plain (.arrive items)).1 ?_ hparser hticks hdfu ?_
        hquiet
      · simp only [Stream.machine, hpending]
      · intro sent hmem
        refine hframes sent ?_
        simp only [Stream.machine, List.mem_append] at hmem ⊢
        rcases hmem with (hold | hnew) | hlater
        · exact .inl (.inl hold)
        · exact .inl (.inr (by simpa [arrived] using List.mem_of_mem_take hnew))
        · exact .inr hlater
    | poll =>
      refine @ih ((Stream.machine Sent.byte true).step stream .poll).1
        ((Stream.machine Sent.byte false).step plain .poll).1 hpending hparser
        (congrArg (· + 1) hticks) hdfu ?_ hquiet
      rwa [show arrived [(Op.poll : Op Sent)] = [] from rfl, List.append_nil] at hframes
    | tryRecvCommand cyccnt =>
      have hpolled : stream.polledState true = stream.dfuState := by
        rw [Stream.polledState, if_pos rfl]
        cases hstate : stream.dfuState with
        | idle => rfl
        | waitDfu idx => rfl
        | waitConfirm code buf lastSent startTick =>
          rw [hstate] at hdfu
          exact hdfu.elim
      have htaken : ∀ sent ∈ stream.pending.take 64, sent.typed = false := fun sent hmem =>
        hframes sent (List.mem_append_left _ (List.mem_append_left _ (List.mem_of_mem_take hmem)))
      have hmet := swallows_of_quiet
        (fun h hmem => hquiet h (List.mem_append_left _ hmem)) htaken
      have hcalled : parseBytes true cyccnt stream.tickCounter stream.parser
          (stream.polledState true) 0 ((stream.pending.take 64).map Sent.byte) =
          stream.call Sent.byte true cyccnt := rfl
      obtain ⟨hrequest, hrebooted, met, hplain⟩ :=
        parseBytes_passes hcalled (hpolled ▸ hdfu) hmet (plain.polledState false)
      have hcall : plain.call Sent.byte false cyccnt =
          (⟨met, (stream.call Sent.byte true cyccnt).1.fed,
            (stream.call Sent.byte true cyccnt).1.command, false⟩,
            (stream.call Sent.byte true cyccnt).2.1, plain.polledState false) := by
        rw [← hplain, Stream.call, hpending, hparser, Stream.tickCounter, hticks]
        rfl
      have hlater : ∀ sent ∈ stream.pending.drop 64 ++ arrived ops, sent.typed = false := by
        intro sent hmem
        rcases List.mem_append.mp hmem with hold | hlater
        · exact hframes sent (List.mem_append_left _
            (List.mem_append_left _ (List.mem_of_mem_drop hold)))
        · exact hframes sent (List.mem_append_right _ hlater)
      obtain ⟨hsame, hnone⟩ := @ih
        ((Stream.machine Sent.byte true).step stream (.tryRecvCommand cyccnt)).1
        ((Stream.machine Sent.byte false).step plain (.tryRecvCommand cyccnt)).1
        (congrArg (List.drop 64) hpending) (congrArg (fun call => call.2.1) hcall) hticks hrequest
        hlater fun h hmem => hquiet h (List.mem_append_right _ hmem)
      refine ⟨?_, List.forall_mem_cons.mpr ⟨hrebooted, hnone⟩⟩
      refine congrArg₂ List.cons ?_ hsame
      exact (congrArg (fun call => shown call.1) hcall).symm

/-- The sniffer is out of the way of frames, and reboots only for an operator, as long as it takes
no byte of a frame and calls are frequent. What was typed before the run is in `past`. -/
theorem sniffer_isolated (past : List Handled) (transport : SerialTransport)
    (stream : Stream Sent) (ops : List (Op Sent)) (hcarries : transport.Carries Sent.byte stream)
    (hstart : Explained past stream.ticks stream.dfuState) (hcalls : FrequentCalls 0 ops)
    (hquiet : Quiet (history ((Stream.machine Sent.byte true).trace stream ops))) :
    (NoRequest transport.dfuState → (∀ sent ∈ stream.pending ++ arrived ops, sent.typed = false) →
      (results ((machine true).trace transport (ops.map (Op.map Sent.byte)))).map shown =
          (results ((machine false).trace transport (ops.map (Op.map Sent.byte)))).map shown ∧
        ∀ result ∈ results ((machine true).trace transport (ops.map (Op.map Sent.byte))),
          result.rebooted = false) ∧
    ∀ before cyccnt after, ops = before ++ Op.tryRecvCommand cyccnt :: after →
      (((machine true).run transport (before.map (Op.map Sent.byte))).tryParseCommand true
        cyccnt).1.rebooted = true →
      TypedReboot
        (past ++ history ((Stream.machine Sent.byte true).trace stream
          (before ++ [Op.tryRecvCommand cyccnt])))
        ((Stream.machine Sent.byte true).run stream before).ticks := by
  constructor
  · intro hrequest hframes
    rw [results_machine true hcarries, results_machine false hcarries]
    exact results_passes rfl rfl rfl (hcarries.dfuState ▸ hrequest) hframes hquiet
  · rintro before cyccnt after rfl hrebooted
    rw [Machine.trace_append, history, List.flatMap_append] at hquiet
    obtain ⟨last, since, hdfu, hticks, hsince⟩ := run_explained hstart (Nat.add_zero _).symm
      (by decide) (frequentCalls_of_append hcalls)
      fun h hmem => hquiet h (List.mem_append_left _ hmem)
    have hcall := call_explained hdfu hticks hsince fun h hmem =>
      hquiet h (List.mem_append_right _ (List.mem_append_left _ hmem))
    have hsame :=
      (@carries_run _ Sent.byte transport stream before true hcarries).call_eq true cyccnt
    rw [hsame] at hrebooted
    have htyped := hcall.2 hrebooted
    rw [Machine.trace_append, history, List.flatMap_append, ← List.append_assoc]
    simpa [history] using htyped

/-- A frame comes before, between and behind what an operator types: the frame that comes alone is
handled as without the request, and the typed request reboots the board. -/
theorem sniffer_isolated_typed :
    let framed : Op Sent :=
      .arrive (Direct.DirectMavlinkEndpoint.armFrame.bytes.map fun byte => ⟨byte, false⟩)
    let typed (text : Bytes) : Op Sent := .arrive (text.map fun byte => ⟨byte, true⟩)
    let call : Op Sent := .tryRecvCommand fun _ => 0
    let before := [framed, call, typed target, call, .poll, framed, call,
      typed [0x31, 0x30, 0x30, 0x30], framed]
    (∀ result ∈ results ((machine true).trace SerialTransport.new
        ([framed, call].map (Op.map Sent.byte))), result.rebooted = false) ∧
      TypedReboot (history ((Stream.machine Sent.byte true).trace .new (before ++ [call]))) 1 := by
  intro framed typed call before
  have hquiet :
      Quiet (history ((Stream.machine Sent.byte true).trace .new (before ++ [call]))) := by
    unfold Quiet
    decide +kernel
  have hcalls : FrequentCalls 0 (before ++ [call]) := ⟨by decide, trivial⟩
  have hfirst : Quiet (history ((Stream.machine Sent.byte true).trace .new [framed, call])) := by
    unfold Quiet
    decide +kernel
  have hticks : ((Stream.machine Sent.byte true).run .new before).ticks = 1 := by decide +kernel
  constructor
  · exact ((sniffer_isolated [] .new .new [framed, call] carries_new trivial trivial hfirst).1
      trivial (by decide +kernel)).2
  · have hrebooted := (sniffer_isolated [] .new .new (before ++ [call]) carries_new trivial hcalls
      hquiet).2 before (fun _ => 0) [] rfl (by decide +kernel)
    rwa [hticks, List.nil_append] at hrebooted

/-- A status text of `dfu1000`. -/
def requestFrame : RawFrame where
  incompatFlags := 0
  compatFlags := 0
  seq := 7
  sysid := 255
  compid := 190
  id0 := 253
  id1 := 0
  id2 := 0
  payload := [6, 0x64, 0x66, 0x75, 0x31, 0x30, 0x30, 0x30]
  crc0 := 0x3F
  crc1 := 0x28
  signature := []
  payload_le := by decide
  signature_length := RawFrame.unsigned_length

/-- One well-formed frame, with nothing typed, does not reach the parser whole and reboots the
board. -/
theorem frame_reboots :
    let waiting := (machine true).run .new [.arrive requestFrame.bytes]
    requestFrame.WellFormed ∧
      (waiting.tryParseCommand true fun _ => 0).1.fed ≠
        (waiting.tryParseCommand false fun _ => 0).1.fed ∧
      (waiting.tryParseCommand true fun _ => 0).1.rebooted = true := by
  intro waiting
  refine ⟨⟨by decide, by decide +kernel, ⟨54, by decide⟩, by decide⟩, ?_, ?_⟩
  · decide +kernel
  · decide +kernel

end Runs

end Aviate.Usb
