import Aviate.Foundations.Checksum
import Aviate.Link.Parser
import Aviate.Hil.Wire
import Mathlib.Data.Fintype.EquivFin

/-!
# What the MAVLink checksum detects

`crc_accumulate` moves the state down one byte and brings in one word of a table of 256. The high
byte of that word names its index, so an update can be undone: it determines the byte from the
state and the state from the byte. By the law of folded checksums every corruption of one byte is
seen. The simulator's codec computes the same sum and inherits the law.

Results: `crcIndex_table`, `crcAccumulate_cancels`, `computeCrc_detects`,
`Hil.crcCalculate_detects`.
-/

namespace Aviate.Mavlink

open ByteBuffer

/-! ## One update is one table word -/

/-- The word that the byte of index `t` brings into the state. -/
def crcTable (t : UInt8) : UInt16 :=
  let tmp := t.toUInt16 ^^^ ((t.toUInt16 <<< 4) &&& 0xFF)
  (tmp <<< 8) ^^^ (tmp <<< 3) ^^^ (tmp >>> 4)

/-- The index of a table word, read off its high byte. -/
def crcIndex (word : UInt16) : UInt8 :=
  let high := (word >>> 8).toUInt8
  let tmp := high ^^^ (high >>> 5)
  tmp ^^^ (tmp <<< 4)

theorem crcAccumulate_eq_table (byte : UInt8) (crc : UInt16) :
    crcAccumulate byte crc = (crc >>> 8) ^^^ crcTable (byte ^^^ crc.toUInt8) := by
  simp only [crcAccumulate, crcTable]
  ac_rfl

theorem crcIndex_table (t : UInt8) : crcIndex (crcTable t) = t := by
  have h : ∀ n : BitVec 8, crcIndex (crcTable ⟨n⟩) = ⟨n⟩ := by decide +kernel
  exact h t.toBitVec

theorem shiftRight_twice (crc : UInt16) : (crc >>> 8) >>> 8 = 0 := by
  apply UInt16.toBitVec_inj.1
  apply BitVec.eq_of_getLsbD_eq
  intro i hi
  simp

theorem eq_of_bytes {a b : UInt16} (hlow : a.toUInt8 = b.toUInt8) (hhigh : a >>> 8 = b >>> 8) :
    a = b := by
  have hl : a.toNat % 256 = b.toNat % 256 := by simpa using congrArg UInt8.toNat hlow
  have hh : a.toNat / 256 = b.toNat / 256 := by
    simpa [Nat.shiftRight_eq_div_pow] using congrArg UInt16.toNat hhigh
  apply UInt16.toNat_inj.1
  rw [← Nat.div_add_mod a.toNat 256, ← Nat.div_add_mod b.toNat 256, hl, hh]

/-- What the state keeps lies below the high byte, so it does not disturb the index. -/
theorem crcIndex_shifted (crc word : UInt16) : crcIndex ((crc >>> 8) ^^^ word) = crcIndex word := by
  have hhigh : ((crc >>> 8) ^^^ word) >>> 8 = word >>> 8 := by
    rw [UInt16.shiftRight_xor, shiftRight_twice, UInt16.zero_xor]
  simp only [crcIndex, hhigh]

theorem crcIndex_accumulate (byte : UInt8) (crc : UInt16) :
    crcIndex (crcAccumulate byte crc) = byte ^^^ crc.toUInt8 := by
  rw [crcAccumulate_eq_table, crcIndex_shifted, crcIndex_table]

/-! ## An update can be undone -/

theorem crcAccumulate_injective (crc : UInt16) :
    Function.Injective fun byte => crcAccumulate byte crc := by
  intro a b h
  have hindex : a ^^^ crc.toUInt8 = b ^^^ crc.toUInt8 := by
    rw [← crcIndex_accumulate, ← crcIndex_accumulate]
    exact congrArg crcIndex h
  exact (UInt8.xor_left_inj _).1 hindex

theorem crcAccumulate_state_injective (byte : UInt8) :
    Function.Injective (crcAccumulate byte) := by
  intro a b h
  have hindex : byte ^^^ a.toUInt8 = byte ^^^ b.toUInt8 := by
    rw [← crcIndex_accumulate, ← crcIndex_accumulate, h]
  have hlow : a.toUInt8 = b.toUInt8 := (UInt8.xor_right_inj _).1 hindex
  -- Both updates now bring in the same table word.
  rw [crcAccumulate_eq_table, crcAccumulate_eq_table, hlow] at h
  exact eq_of_bytes hlow ((UInt16.xor_left_inj _).1 h)

theorem crcAccumulate_cancels :
    Checksum.Cancels fun (crc : UInt16) byte => crcAccumulate byte crc where
  symbol := crcAccumulate_injective
  state := crcAccumulate_state_injective

/-- The states are finitely many, so an injective update reaches each of them. -/
theorem crcAccumulate_bijective (byte : UInt8) : Function.Bijective (crcAccumulate byte) := by
  have hfinite : Finite UInt16 := Finite.of_injective UInt16.toFin fun _ _ h => UInt16.toFin_inj.1 h
  exact (crcAccumulate_state_injective byte).bijective_of_finite

/-! ## Every corrupted byte is seen -/

/-- From any seed and under any extra byte, two strings of one length that differ in exactly one
position have different checksums; one update is injective in the byte and bijective in the
state. -/
theorem computeCrc_detects :
    (∀ (data corrupted : Bytes) (crcExtra : UInt8), data.length = corrupted.length →
        (∃! i : Nat, data[i]? ≠ corrupted[i]?) →
        computeCrc data crcExtra ≠ computeCrc corrupted crcExtra) ∧
      (∀ (seed : UInt16) (data corrupted : Bytes), data.length = corrupted.length →
        (∃! i : Nat, data[i]? ≠ corrupted[i]?) →
        data.foldl (fun crc byte => crcAccumulate byte crc) seed
          ≠ corrupted.foldl (fun crc byte => crcAccumulate byte crc) seed) ∧
      (∀ crc : UInt16, Function.Injective fun byte => crcAccumulate byte crc) ∧
      ∀ byte : UInt8, Function.Bijective (crcAccumulate byte) := by
  refine ⟨?_, ?_, crcAccumulate_injective, crcAccumulate_bijective⟩
  · intro data corrupted crcExtra hlen hdiff h
    have hfold := crcAccumulate_state_injective crcExtra h
    exact Checksum.detects crcAccumulate_cancels 0xFFFF hlen hdiff hfold
  · intro seed data corrupted hlen hdiff
    exact Checksum.detects crcAccumulate_cancels seed hlen hdiff

theorem computeCrc_detects_flip :
    computeCrc [0x55, 0x0F, 0xAA] 50 ≠ computeCrc [0x55, 0xF0, 0xAA] 50 := by
  refine computeCrc_detects.1 _ _ _ rfl ⟨1, by decide, ?_⟩
  intro i hi
  match i with
  | 0 => exact absurd rfl hi
  | 1 => rfl
  | 2 => exact absurd rfl hi
  | _ + 3 => exact absurd rfl hi

end Aviate.Mavlink

/-! ## The simulator's codec -/

namespace Aviate.Hil

open ByteBuffer

/-- The two codecs take a byte in by the same update. -/
theorem crcAccumulate_eq (byte : UInt8) (crc : UInt16) :
    crcAccumulate byte crc = Mavlink.crcAccumulate byte crc := by
  have hmask : (byte.toUInt16 ^^^ crc) &&& 0xff = (byte ^^^ crc.toUInt8).toUInt16 := by
    apply UInt16.toNat_inj.1
    have hbyte : byte.toNat % 2 ^ 8 = byte.toNat := Nat.mod_eq_of_lt byte.toNat_lt
    simp only [UInt16.toNat_and, UInt16.toNat_xor, UInt8.toNat_toUInt16, UInt8.toNat_xor,
      UInt16.toNat_toUInt8]
    rw [show (0xff : UInt16).toNat = 2 ^ 8 - 1 by rfl, Nat.and_two_pow_sub_one_eq_mod,
      Nat.xor_mod_two_pow, hbyte]
  simp only [crcAccumulate, Mavlink.crcAccumulate, hmask]

theorem crcCalculate_eq (data : Bytes) (extra : UInt8) :
    crcCalculate data extra = Mavlink.computeCrc data extra := by
  unfold crcCalculate Mavlink.computeCrc
  simp only [crcAccumulate_eq]

/-- The sum of the simulator's codec sees every corrupted byte too. -/
theorem crcCalculate_detects (data corrupted : Bytes) (extra : UInt8)
    (hlen : data.length = corrupted.length) (hdiff : ∃! i : Nat, data[i]? ≠ corrupted[i]?) :
    crcCalculate data extra ≠ crcCalculate corrupted extra := by
  rw [crcCalculate_eq, crcCalculate_eq]
  intro h
  exact Checksum.detects Mavlink.crcAccumulate_cancels 0xFFFF hlen hdiff
    (Mavlink.crcAccumulate_state_injective extra h)

end Aviate.Hil
