import Aviate.Core.Control
import Aviate.Link.Framing

/-!
# Commands and their signatures from one frame

`parse_system_command` (`mavlink/command.rs`) decodes a command and its signature metadata
from the same frame, which must occupy the buffer exactly. `SignatureMeta`
(`command.rs`) keeps the frame for the signature check.

Results:
1. What an accepted buffer is: one frame, whose message and signature block the parser
   read (`parseSystemCommand_ok`).
2. The signed message of an accepted frame is the frame without its last six bytes
   (`signedMessage_ofFrame`).
3. Replacing these six bytes changes nothing the parser reads but the signature itself
   (`RawFrame.interpret_resign`).
-/

namespace Aviate

/-- A command at the kernel's door (`comm.rs`). -/
inductive SystemCommand (F : Type) where
  | flightControl (command : Command F)
  | arm
  | disarm
  | emergencyTerminate

end Aviate

namespace Checked

variable {ε ε' α : Type}

/-- Report the errors of `x` as errors of another kind. -/
def mapFail (f : ε → ε') : Checked ε α → Checked ε' α
  | .ok a => .ok a
  | .error .outOfRange => .error .outOfRange
  | .error (.error e) => fail (f e)

theorem mapFail_eq_ok {f : ε → ε'} {x : Checked ε α} {a : α} :
    x.mapFail f = .ok a ↔ x = .ok a := by
  cases x with
  | ok b =>
    constructor
    · intro h
      exact congrArg Except.ok (Except.ok.inj h)
    · intro h
      exact congrArg Except.ok (Except.ok.inj h)
  | error fault => cases fault <;> exact ⟨nofun, nofun⟩

end Checked

/-- `v == 1.0`. -/
def F32.isOne (v : F32) : Bool := v.bits = 0x3F800000

/-- `v == 0.0`, of either sign. -/
def F32.isZero (v : F32) : Bool := v.bits = 0 ∨ v.bits = 0x80000000

namespace Aviate.Mavlink

open ByteBuffer Checked

variable {F : Type}

/-! ## Signature metadata -/

/-- `MAX_SIGNED_FRAME_SIZE`. -/
def maxSignedFrameSize : Nat := 300

/-- `MAVLINK_SIGNATURE_TRAILER_LEN`: the bytes of a signed frame that the signature does not
cover. -/
def mavlinkSignatureTrailerLen : Nat := 6

structure SignatureMeta where
  systemId : UInt8
  componentId : UInt8
  linkId : UInt8
  timestamp : UInt64
  sig : Vector UInt8 6
  rawFrame : Bytes
  rawFrameLen : Nat
deriving DecidableEq

/-- The bytes the signature is computed over; none when the stored length is shorter than
the trailer or beyond the buffer. -/
def SignatureMeta.signedMessage (m : SignatureMeta) : Option Bytes :=
  if mavlinkSignatureTrailerLen ≤ m.rawFrameLen then
    let stop := m.rawFrameLen - mavlinkSignatureTrailerLen
    if stop ≤ m.rawFrame.length then some (m.rawFrame.take stop) else none
  else none

/-! ## Decoding a command -/

inductive LinkError where
  | parse (err : ParseError)
  | unsupportedMsg
  | wrongAddressee (targetSystem targetComponent : UInt8)
  | frameLengthMismatch (frameLen consumed : Nat)
deriving DecidableEq

structure ParsedSystemCommand (F : Type) where
  command : SystemCommand F
  signature : Option SignatureMeta

structure LocalAddress where
  systemId : UInt8
  componentId : UInt8
deriving DecidableEq, Repr

/-- Whether a command with these target ids is for this vehicle; zero is the broadcast
address. -/
def LocalAddress.accepts (a : LocalAddress) (targetSystem targetComponent : UInt8) : Bool :=
  (targetSystem = 0 ∨ targetSystem = a.systemId) ∧
    (targetComponent = 0 ∨ targetComponent = a.componentId)

/-- `mav_cmd::COMPONENT_ARM_DISARM`. -/
def componentArmDisarm : UInt16 := 400

/-- The system command a message maps to. Only arm and disarm do, and only by the exact
values 1 and 0 of their parameter. -/
def systemCommand (msg : MavMessage) (localAddress : LocalAddress) :
    Checked LinkError (SystemCommand F) :=
  match msg with
  | .commandLong cmd =>
    if cmd.command = componentArmDisarm then
      if localAddress.accepts cmd.targetSystem cmd.targetComponent then
        if cmd.param1.isOne then .ok .arm
        else if cmd.param1.isZero then .ok .disarm
        else Checked.fail .unsupportedMsg
      else Checked.fail (.wrongAddressee cmd.targetSystem cmd.targetComponent)
    else Checked.fail .unsupportedMsg
  | _ => Checked.fail .unsupportedMsg

/-- The metadata of a signed frame, with the frame copied into the fixed buffer. -/
def signatureMeta (frame : Bytes) (sig : MavSignature) : Checked LinkError SignatureMeta := do
  let rawFrame ← writeBytes (List.replicate maxSignedFrameSize 0) 0 frame
  return {
    systemId := sig.systemId
    componentId := sig.componentId
    linkId := sig.linkId
    timestamp := sig.timestamp
    sig := sig.signature
    rawFrame := rawFrame
    rawFrameLen := frame.length }

/-- Decode a system command and its signature metadata from one frame, which must occupy
the buffer exactly. -/
def parseSystemCommand (frame : Bytes) (localAddress : LocalAddress) :
    Checked LinkError (ParsedSystemCommand F) := do
  let parsed ← (parseMavlinkFrame frame).mapFail .parse
  if parsed.consumed ≠ frame.length ∨ maxSignedFrameSize < frame.length then
    Checked.fail (.frameLengthMismatch frame.length parsed.consumed)
  else
    let signature ← (match parsed.signature with
      | some sig => do pure (some (← signatureMeta frame sig))
      | none => pure none)
    let command ← systemCommand parsed.message localAddress
    return ⟨command, signature⟩

variable {frame : Bytes} {localAddress : LocalAddress} {msg : MavMessage}

/-! ## What is accepted -/

/-- A mapped message maps to the same command for every vehicle that accepts it. -/
theorem systemCommand_congr {a₁ a₂ : LocalAddress} {c₁ c₂ : SystemCommand F}
    (h₁ : systemCommand msg a₁ = .ok c₁) (h₂ : systemCommand msg a₂ = .ok c₂) : c₁ = c₂ := by
  cases msg with
  | commandLong cmd =>
    simp only [systemCommand] at h₁ h₂
    split at h₁
    · rename_i hcmd
      rw [if_pos hcmd] at h₂
      split at h₁
      · split at h₂
        · exact Except.ok.inj (h₁.symm.trans h₂)
        · cases h₂
      · cases h₁
    · cases h₁
  | _ => cases h₁

/-- The metadata of a frame that fits: the fields of its signature block, and the frame
extended with zeros. -/
def SignatureMeta.ofFrame (frame : Bytes) (sig : MavSignature) : SignatureMeta where
  systemId := sig.systemId
  componentId := sig.componentId
  linkId := sig.linkId
  timestamp := sig.timestamp
  sig := sig.signature
  rawFrame := frame ++ List.replicate (maxSignedFrameSize - frame.length) 0
  rawFrameLen := frame.length

theorem signatureMeta_of_le {sig : MavSignature} (h : frame.length ≤ maxSignedFrameSize) :
    signatureMeta frame sig = .ok (.ofFrame frame sig) := by
  unfold signatureMeta
  rw [writeBytes_of_le (by rw [List.length_replicate]; omega)]
  simp only [List.take_zero, List.nil_append, Nat.zero_add, List.drop_replicate, ok_bind]
  rfl

/-- The signed message of a frame is the frame without its last six bytes. -/
theorem signedMessage_ofFrame {sig : MavSignature} (h : mavlinkSignatureTrailerLen ≤ frame.length) :
    (SignatureMeta.ofFrame frame sig).signedMessage =
      some (frame.take (frame.length - mavlinkSignatureTrailerLen)) := by
  have hfits : frame.length - mavlinkSignatureTrailerLen ≤
      (frame ++ List.replicate (maxSignedFrameSize - frame.length) 0).length := by
    rw [List.length_append]
    omega
  unfold SignatureMeta.signedMessage SignatureMeta.ofFrame
  rw [if_pos h]
  simp only
  rw [if_pos hfits, List.take_append_of_le_length (Nat.sub_le _ _)]

/-- An accepted buffer is one frame; its message maps to the command and its signature
block, if it has one, is the metadata. -/
theorem parseSystemCommand_ok {parsed : ParsedSystemCommand F}
    (h : parseSystemCommand frame localAddress = .ok parsed) :
    ∃ (f : RawFrame) (p : ParsedMavlinkFrame), frame = f.bytes ∧ f.interpret = .ok p ∧
      systemCommand p.message localAddress = .ok parsed.command ∧
      parsed.signature = p.signature.map (.ofFrame frame) := by
  unfold parseSystemCommand at h
  obtain ⟨p, hparse, h⟩ := Checked.bind_eq_ok.mp h
  rw [mapFail_eq_ok] at hparse
  split at h
  · cases h
  rename_i hlength
  obtain ⟨hconsumed, hfits⟩ := not_or.mp hlength
  rw [not_not] at hconsumed
  obtain ⟨signature, hsignature, h⟩ := Checked.bind_eq_ok.mp h
  obtain ⟨command, hcommand, h⟩ := Checked.bind_eq_ok.mp h
  obtain rfl := Except.ok.inj h
  have hmeta : signature = p.signature.map (.ofFrame frame) := by
    cases hp : p.signature with
    | none =>
      rw [hp] at hsignature
      exact (Except.ok.inj hsignature).symm
    | some sig =>
      simp only [hp, signatureMeta_of_le (Nat.le_of_not_lt hfits)] at hsignature
      exact (Except.ok.inj hsignature).symm
  rcases parse_cases frame with ⟨e, hfail⟩ | ⟨f, rest, hframe⟩
  · rw [hfail] at hparse
    cases hparse
  · have hinterpret : f.interpret = .ok p := by
      rw [← f.parse_bytes rest, ← hframe]
      exact hparse
    -- The frame is the whole buffer: what it consumes is the buffer's length.
    have hrest : rest = [] := by
      have hlen := congrArg List.length hframe
      rw [List.length_append, ← hconsumed, consumed_of_interpret hinterpret] at hlen
      exact List.eq_nil_of_length_eq_zero (by omega)
    subst hrest
    rw [List.append_nil] at hframe
    exact ⟨f, p, hframe, hinterpret, hcommand, hmeta⟩

/-! ## The bytes the signature does not cover -/

/-- The signature block is read by position: its last six bytes are the signature and bear
on nothing else. -/
theorem parseSignature_append (systemId componentId : UInt8) {front : Bytes}
    (hfront : front.length = 7) :
    ∃ sig : MavSignature, ∀ six : Vector UInt8 6,
      parseSignature systemId componentId (front ++ six.toList) =
        .ok { sig with signature := six } := by
  rcases front with _ | ⟨linkId, _ | ⟨t0, _ | ⟨t1, _ | ⟨t2, _ | ⟨t3, _ | ⟨t4, _ | ⟨t5, tail⟩⟩⟩⟩⟩⟩⟩
  case cons.cons.cons.cons.cons.cons.cons =>
    obtain rfl : tail = [] := List.eq_nil_of_length_eq_zero (by simpa using hfront)
    refine ⟨⟨systemId, componentId, linkId, t0.toUInt64 ||| t1.toUInt64 <<< 8 |||
      t2.toUInt64 <<< 16 ||| t3.toUInt64 <<< 24 ||| t4.toUInt64 <<< 32 ||| t5.toUInt64 <<< 40,
      .replicate 6 0⟩, fun six => ?_⟩
    have hslice : (slice ([linkId, t0, t1, t2, t3, t4, t5] ++ six.toList) 7 13 :
        Checked ParseError Bytes) = .ok six.toList := by
      have hblock : (slice ([linkId, t0, t1, t2, t3, t4, t5] ++ (six.toList ++ [])) 7 13 :
          Checked ParseError Bytes) = .ok six.toList := slice_block rfl (by simp)
      rwa [List.append_nil] at hblock
    have hcopy : (copyFromSlice 6 six.toList : Checked ParseError (Vector UInt8 6)) = .ok six := by
      rw [copyFromSlice, dif_pos (by simp)]
      simp [Vector.toList]
    unfold parseSignature
    rw [hslice]
    simp only [ok_bind, hcopy]
    rfl
  all_goals
    simp only [List.length_cons, List.length_nil] at hfront
    omega

namespace RawFrame

variable (f : RawFrame)

/-- The frame with other signature bytes. -/
def resign (hsigned : isSigned f.incompatFlags = true) (six : Vector UInt8 6) : RawFrame :=
  { f with
    signature := f.signature.take 7 ++ six.toList
    signature_length := by
      have hblock := f.signature_length
      rw [if_pos hsigned] at hblock ⊢
      simp [hblock, mavlinkSignatureLen] }

variable (hsigned : isSigned f.incompatFlags = true) (six : Vector UInt8 6)

/-- Signing anew keeps the covered bytes and replaces the others. -/
theorem bytes_resign :
    (f.resign hsigned six).bytes =
      f.bytes.take (f.bytes.length - mavlinkSignatureTrailerLen) ++ six.toList := by
  have hblock := f.signature_length
  rw [if_pos hsigned] at hblock
  have hbytes : f.bytes = (mavlinkStxV2 :: f.covered ++ [f.crc0, f.crc1]) ++ f.signature := by
    simp [bytes]
  have hlength : f.bytes.length - mavlinkSignatureTrailerLen =
      (mavlinkStxV2 :: f.covered ++ [f.crc0, f.crc1]).length + 7 := by
    rw [hbytes, List.length_append, hblock]
    simp only [mavlinkSignatureLen, mavlinkSignatureTrailerLen]
    omega
  rw [hlength, hbytes, List.take_length_add_append]
  simp [resign, bytes, covered]

/-- A signed frame is interpreted with its signature, and signing it anew changes nothing
but the signature. -/
theorem interpret_resign {p : ParsedMavlinkFrame} (h : f.interpret = .ok p) :
    ∃ sig, p.signature = some sig ∧ (f.resign hsigned six).interpret =
      .ok { p with signature := some { sig with signature := six } } := by
  have hblock := f.signature_length
  rw [if_pos hsigned] at hblock
  have hfront : (f.signature.take 7).length = 7 := by
    rw [List.length_take, hblock]
    rfl
  obtain ⟨sig, hsig⟩ := parseSignature_append f.sysid f.compid hfront
  have hlast : (f.signature.drop 7).toArray.size = 6 := by
    simp [hblock, mavlinkSignatureLen]
  have hown : parseSignature f.sysid f.compid f.signature =
      .ok { sig with signature := ⟨(f.signature.drop 7).toArray, hlast⟩ } := by
    rw [← hsig]
    congr 1
    exact (List.take_append_drop 7 f.signature).symm
  have hconsumed : (f.resign hsigned six).bytes.length = f.bytes.length := by
    rw [length_bytes, length_bytes, (f.resign hsigned six).signature_length, f.signature_length]
    rfl
  unfold interpret at h ⊢
  split at h
  · cases h
  rename_i hflags
  split at h
  · cases h
  rename_i hcrc
  rw [hown] at h
  obtain ⟨signature, hsignature, h⟩ := Checked.bind_eq_ok.mp h
  obtain rfl := Except.ok.inj hsignature
  obtain ⟨message, hmessage, h⟩ := Checked.bind_eq_ok.mp h
  obtain rfl := Except.ok.inj h
  refine ⟨_, rfl, ?_⟩
  refine (if_neg hflags).trans ((if_neg hcrc).trans ?_)
  show (do
    let signature ← (if isSigned f.incompatFlags then do
        pure (some (← parseSignature f.sysid f.compid (f.signature.take 7 ++ six.toList)))
      else pure none)
    return (⟨← parsePayload f.msgid f.payload, signature, f.header,
      (f.resign hsigned six).bytes.length⟩ : ParsedMavlinkFrame)) = _
  rw [if_pos hsigned, hsig six, hconsumed]
  show (parsePayload f.msgid f.payload >>= _) = _
  rw [hmessage]
  rfl

/-- Only signed frames are interpreted with a signature. -/
theorem isSigned_of_interpret {f : RawFrame} {p : ParsedMavlinkFrame} {sig : MavSignature}
    (h : f.interpret = .ok p) (hsig : p.signature = some sig) :
    isSigned f.incompatFlags = true := by
  by_contra hunsigned
  unfold interpret at h
  split at h
  · cases h
  split at h
  · cases h
  obtain ⟨signature, hnone, h⟩ := Checked.bind_eq_ok.mp h
  obtain rfl := Except.ok.inj hnone
  obtain ⟨message, -, h⟩ := Checked.bind_eq_ok.mp h
  obtain rfl := Except.ok.inj h
  cases hsig

end RawFrame

end Aviate.Mavlink
