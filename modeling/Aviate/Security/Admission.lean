import Aviate.Link.Command
import Aviate.Security.Gateway

/-!
# Admission of signed frames

`MavlinkAdmission` (`admission/mavlink.rs`) takes a frame to an authenticated command:
it decodes the command and its signature metadata, and `SignedAuth` (`auth.rs`) checks the
signature. Key store and crypto engine are the board's; here they are functions, and the
calls of the engine are recorded.

Results:
1. An accepted frame is signed, and the engine was called once, on the covered bytes
   (`authenticate_ok`).
2. Whatever a claim holds comes from the covered bytes (`signature_covers_claim`).
-/

namespace Aviate.Security

open Mavlink

variable {F : Type}

/-! ## The board's security devices -/

inductive KeyPurpose where
  | command
  | firmware
deriving DecidableEq, Repr

structure KeySelector where
  linkId : UInt8
  purpose : KeyPurpose
deriving DecidableEq, Repr

inductive CryptoAlgo where
  | sha256KeyedPrefix
  | hmacSha256
  | aesGcm128
  | ed25519
deriving DecidableEq, Repr

structure KeyStore where
  loadKey : KeySelector → Except CryptoError Bytes

/-- A deterministic engine: the digest is a function of algorithm, key and message. -/
structure CryptoEngine where
  sign : CryptoAlgo → Bytes → Bytes → Except CryptoError (Vector UInt8 32)

/-- One call of the engine. -/
structure SignCall where
  algo : CryptoAlgo
  key : Bytes
  msg : Bytes
deriving DecidableEq, Repr

/-! ## Verifying a signature -/

structure SignedAuth where
  keystore : KeyStore
  crypto : CryptoEngine

namespace SignedAuth

/-- The bits in which two byte strings differ, folded into one byte. -/
def difference (a b : Bytes) : UInt8 :=
  (a.zip b).foldl (fun acc pair => acc ||| (pair.1 ^^^ pair.2)) 0

/-- Check a signature over `signedBytes` with the key of the link. -/
def verifySignature (auth : SignedAuth) (linkId : UInt8) (signedBytes : Bytes)
    (expectedSig : Vector UInt8 6) : List SignCall × Except AuthError Unit :=
  match auth.keystore.loadKey ⟨linkId, .command⟩ with
  | .error err => ([], .error (.crypto err))
  | .ok key =>
    let calls := [⟨.sha256KeyedPrefix, key, signedBytes⟩]
    match auth.crypto.sign .sha256KeyedPrefix key signedBytes with
    | .error err => (calls, .error (.crypto err))
    | .ok computed =>
      if difference (computed.toList.take 6) expectedSig.toList = 0 then (calls, .ok ())
      else (calls, .error .invalidSignature)

/-- Check the signature of a frame over the bytes it covers. -/
def verifyFrame (auth : SignedAuth) (sig : SignatureMeta) : List SignCall × Except AuthError Unit :=
  match sig.signedMessage with
  | none => ([], .error .invalidSignature)
  | some message => auth.verifySignature sig.linkId message sig.sig

end SignedAuth

/-! ## Admitting a frame -/

inductive GatewayError where
  | link (err : LinkError)
  | auth (err : AuthError)
deriving DecidableEq

structure MavlinkAdmission where
  auth : SignedAuth
  localAddress : LocalAddress

/-- Decode and authenticate one frame. -/
def MavlinkAdmission.authenticate (a : MavlinkAdmission) (frame : Bytes) :
    List SignCall × Checked GatewayError (AuthenticatedCommand (SystemCommand F)) :=
  match (parseSystemCommand frame a.localAddress).mapFail GatewayError.link with
  | .error fault => ([], .error fault)
  | .ok parsed =>
    match parsed.signature with
    | none => ([], Checked.fail (.auth .missingSignature))
    | some sig =>
      match a.auth.verifyFrame sig with
      | (calls, .error err) => (calls, Checked.fail (.auth err))
      | (calls, .ok ()) =>
        (calls, .ok
          { principal := .mavlink sig.systemId sig.componentId sig.linkId
            counter := sig.timestamp
            command := parsed.command })

/-- The bytes of a frame that its signature covers. -/
def signedBytes (frame : Bytes) : Bytes := frame.take (frame.length - mavlinkSignatureTrailerLen)

variable {a : MavlinkAdmission} {frame : Bytes} {calls : List SignCall}
  {claim : AuthenticatedCommand (SystemCommand F)}

/-! ## What an accepted frame is -/

/-- An accepted signature took one call of the engine, on the bytes given. -/
theorem SignedAuth.verifySignature_ok {auth : SignedAuth} {linkId : UInt8} {message : Bytes}
    {sig : Vector UInt8 6} (h : auth.verifySignature linkId message sig = (calls, .ok ())) :
    ∃ key, auth.keystore.loadKey ⟨linkId, .command⟩ = .ok key ∧
      calls = [⟨.sha256KeyedPrefix, key, message⟩] := by
  unfold verifySignature at h
  cases hkey : auth.keystore.loadKey ⟨linkId, .command⟩ with
  | error err => simp [hkey] at h
  | ok key =>
    refine ⟨key, rfl, ?_⟩
    simp only [hkey] at h
    split at h
    · simp at h
    · split at h
      · exact (Prod.mk.inj h).1.symm
      · simp at h

/-- An accepted buffer is a signed frame. The engine was called once, on its covered bytes
with the key of its link, and the claim holds the fields of its signature block and the
command of its message. -/
theorem MavlinkAdmission.authenticate_ok (h : a.authenticate frame = (calls, .ok claim)) :
    ∃ (f : RawFrame) (p : ParsedMavlinkFrame) (sig : MavSignature) (key : Bytes),
      frame = f.bytes ∧ f.interpret = .ok p ∧ p.signature = some sig ∧
      a.auth.keystore.loadKey ⟨sig.linkId, .command⟩ = .ok key ∧
      calls = [⟨.sha256KeyedPrefix, key, signedBytes frame⟩] ∧
      systemCommand p.message a.localAddress = .ok claim.command ∧
      claim.principal = .mavlink sig.systemId sig.componentId sig.linkId ∧
      claim.counter = sig.timestamp := by
  unfold authenticate at h
  cases hparse : (parseSystemCommand (F := F) frame a.localAddress).mapFail GatewayError.link with
  | error fault => simp [hparse] at h
  | ok parsed =>
    obtain ⟨f, p, hframe, hinterpret, hcommand, hmeta⟩ :=
      parseSystemCommand_ok (Checked.mapFail_eq_ok.mp hparse)
    simp only [hparse] at h
    cases hsig : p.signature with
    | none =>
      simp only [hmeta, hsig, Option.map_none] at h
      cases (Prod.mk.inj h).2
    | some sig =>
      simp only [hmeta, hsig, Option.map_some] at h
      have hlong : mavlinkSignatureTrailerLen ≤ frame.length := by
        rw [hframe, f.length_bytes]
        simp only [mavlinkSignatureTrailerLen, MavHeader.size]
        omega
      have hverify : a.auth.verifyFrame (.ofFrame frame sig) =
          a.auth.verifySignature sig.linkId (signedBytes frame) sig.signature := by
        unfold SignedAuth.verifyFrame
        rw [signedMessage_ofFrame hlong]
        rfl
      rw [hverify] at h
      split at h
      · cases (Prod.mk.inj h).2
      · rename_i calls' hok
        obtain ⟨rfl, hclaim⟩ := Prod.mk.inj h
        obtain rfl := Except.ok.inj hclaim
        obtain ⟨key, hkey, hcalls⟩ := SignedAuth.verifySignature_ok hok
        exact ⟨f, p, sig, key, hframe, hinterpret, hsig, hkey, hcalls, hcommand, rfl, rfl⟩

/-! ## What the signature covers -/

/-- A frame of at least six bytes is its covered bytes and six more. -/
theorem exists_signedBytes_append (h : mavlinkSignatureTrailerLen ≤ frame.length) :
    ∃ six : Vector UInt8 6, frame = signedBytes frame ++ six.toList := by
  have hsize : (frame.drop (frame.length - mavlinkSignatureTrailerLen)).toArray.size = 6 := by
    simp only [List.size_toArray, List.length_drop, mavlinkSignatureTrailerLen] at h ⊢
    omega
  refine ⟨⟨_, hsize⟩, ?_⟩
  exact (List.take_append_drop _ frame).symm

theorem trailer_le_length (f : RawFrame) : mavlinkSignatureTrailerLen ≤ f.bytes.length := by
  rw [f.length_bytes]
  simp only [mavlinkSignatureTrailerLen, MavHeader.size]
  omega

/-- A frame with the covered bytes of a signed frame is that frame signed anew: the parser
reads the same from both but the signature. -/
theorem interpret_of_signedBytes {f g : RawFrame} {p : ParsedMavlinkFrame}
    (hsigned : isSigned f.incompatFlags = true) (hinterpret : f.interpret = .ok p)
    (hcovered : signedBytes g.bytes = signedBytes f.bytes) :
    ∃ (sig : MavSignature) (six : Vector UInt8 6), p.signature = some sig ∧
      g.interpret = .ok { p with signature := some { sig with signature := six } } := by
  obtain ⟨six, hsix⟩ := exists_signedBytes_append (trailer_le_length g)
  have hbytes : g.bytes = (f.resign hsigned six).bytes := by
    rw [hsix, hcovered, RawFrame.bytes_resign]
    rfl
  have hsame : g.interpret = (f.resign hsigned six).interpret := by
    rw [← g.parse_bytes [], ← (f.resign hsigned six).parse_bytes [], hbytes]
  obtain ⟨sig, hsig, hresign⟩ := f.interpret_resign hsigned six hinterpret
  exact ⟨sig, six, hsig, hsame.trans hresign⟩

/-- When a frame is accepted, the engine was called once, on exactly the frame without its
last six bytes and with the key of the link the claim is credited to; and every accepted
frame with the same covered bytes, at whatever adapter, gives the same claim. -/
theorem signature_covers_claim {a₁ : MavlinkAdmission} {frame₁ : Bytes} {calls₁ : List SignCall}
    {claim₁ : AuthenticatedCommand (SystemCommand F)}
    (h₁ : a₁.authenticate frame₁ = (calls₁, .ok claim₁)) :
    (∃ linkId key, claim₁.principal.credential = linkId.toUInt16 ∧
      a₁.auth.keystore.loadKey ⟨linkId, .command⟩ = .ok key ∧
      calls₁ = [⟨.sha256KeyedPrefix, key, signedBytes frame₁⟩] ∧
      frame₁.length = (signedBytes frame₁).length + 6) ∧
    ∀ (a₂ : MavlinkAdmission) (frame₂ : Bytes) (calls₂ : List SignCall)
      (claim₂ : AuthenticatedCommand (SystemCommand F)),
      a₂.authenticate frame₂ = (calls₂, .ok claim₂) →
      signedBytes frame₂ = signedBytes frame₁ → claim₂ = claim₁ := by
  obtain ⟨f, p, sig, key, rfl, hinterpret, hsig, hkey, hcalls, hcommand, hprincipal, hcounter⟩ :=
    a₁.authenticate_ok h₁
  constructor
  · refine ⟨sig.linkId, key, by rw [hprincipal]; rfl, hkey, hcalls, ?_⟩
    obtain ⟨six, hsix⟩ := exists_signedBytes_append (trailer_le_length f)
    conv_lhs => rw [hsix]
    simp
  · intro a₂ frame₂ calls₂ claim₂ h₂ hcovered
    obtain ⟨g, p', sig', -, rfl, hinterpret', hsig', -, -, hcommand', hprincipal', hcounter'⟩ :=
      a₂.authenticate_ok h₂
    obtain ⟨sig₀, six, hsig₀, hg⟩ :=
      interpret_of_signedBytes (RawFrame.isSigned_of_interpret hinterpret hsig) hinterpret hcovered
    obtain rfl : sig = sig₀ := Option.some.inj (hsig.symm.trans hsig₀)
    obtain rfl := Except.ok.inj (hinterpret'.symm.trans hg)
    obtain rfl := Option.some.inj hsig'
    have hsame : claim₂.command = claim₁.command := systemCommand_congr hcommand' hcommand
    cases claim₁
    cases claim₂
    simp_all

/-- The key of a ground station: the bytes 0 to 31. -/
def stationKey : Bytes := (List.range 32).map UInt8.ofNat

/-- An arming command the station signed for link 5, without its signature. -/
def armCovered : Bytes :=
  [0xFD, 0x1E, 0x01, 0x00, 0x00, 0x01, 0x01, 0x4C, 0x00, 0x00, 0x00, 0x00, 0x80, 0x3F] ++
    List.replicate 24 0 ++
    [0x90, 0x01, 0x8A, 0x9F, 0x05, 0xD2, 0x02, 0x96, 0x49, 0x00, 0x00]

/-- The signed frame. -/
def armFrame : Bytes := armCovered ++ [0x26, 0x33, 0xF7, 0x37, 0x16, 0x14]

/-- The SHA-256 digest of `stationKey` and `armCovered`. -/
def armDigest : Vector UInt8 32 :=
  #v[0x26, 0x33, 0xF7, 0x37, 0x16, 0x14, 0x72, 0x93, 0x6A, 0x94, 0x44, 0x3E, 0x8F, 0x03, 0x37, 0x98,
    0x71, 0x71, 0xB5, 0x11, 0xB4, 0x2A, 0x78, 0xFA, 0xE7, 0xB2, 0x33, 0xEA, 0x22, 0x42, 0x45, 0x15]

/-- A vehicle that holds the station's key, with an engine that knows this one digest. -/
def stationAdmission : MavlinkAdmission where
  auth :=
    { keystore := ⟨fun _ => .ok stationKey⟩
      crypto := ⟨fun algo key msg =>
        if algo = .sha256KeyedPrefix ∧ key = stationKey ∧ msg = armCovered then .ok armDigest
        else .error .hardwareFailure⟩ }
  localAddress := ⟨1, 1⟩

theorem signature_covers_claim_arm :
    ∃ claim : AuthenticatedCommand (SystemCommand Unit),
      (stationAdmission.authenticate armFrame).2 = .ok claim ∧
      claim.principal = .mavlink 1 1 5 ∧ claim.counter = 1234567890 ∧
      ∃ key, (stationAdmission.authenticate (F := Unit) armFrame).1 =
        [⟨.sha256KeyedPrefix, key, armCovered⟩] := by
  have haccepted : (stationAdmission.authenticate (F := Unit) armFrame).2.map
      (fun claim => (claim.principal, claim.counter)) = .ok (.mavlink 1 1 5, 1234567890) := by
    decide +kernel
  cases h : stationAdmission.authenticate (F := Unit) armFrame with
  | mk calls result =>
    rw [h] at haccepted
    cases result with
    | error fault => cases haccepted
    | ok claim =>
      obtain ⟨hprincipal, hcounter⟩ := Prod.mk.inj (Except.ok.inj haccepted)
      obtain ⟨⟨linkId, key, -, -, hcalls, -⟩, -⟩ := signature_covers_claim h
      exact ⟨claim, rfl, hprincipal, hcounter, key, hcalls⟩

end Aviate.Security
