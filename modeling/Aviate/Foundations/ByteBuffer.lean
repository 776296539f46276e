import Mathlib.Data.Nat.Bitwise
import Mathlib.Data.List.Basic

/-!
# Checked access to byte buffers

A buffer is a list of bytes. A read, a slice or a write outside it is a fault of its own,
apart from the errors a function reports, so that "no access is out of range" is a
statement about the result.

Results:
1. Every read of a fixed width inside the buffer succeeds (`safe_readU32Le` and the like),
   and a computation of such reads is safe (`Checked.safe_bind`).
2. What a write stores, a read of the same width gives back (`readU32Le_u32Bytes` and the
   like); a read beyond a block is a read of what follows it (`readU32Le_skip`).
3. Writing fields that tile a stretch of the buffer replaces that stretch by their
   concatenation (`writeFields_of_tiles`).
-/

/-- A binary32 value, by its bits. -/
structure F32 where
  bits : UInt32
deriving DecidableEq, Repr

abbrev Bytes := List UInt8

/-! ## Faults -/

/-- Why a computation stops: an access out of range, or an error it reports. -/
inductive Fault (ε : Type) where
  | outOfRange
  | error (e : ε)
deriving DecidableEq, Repr

abbrev Checked (ε : Type) := Except (Fault ε)

namespace Checked

variable {ε α β : Type}

/-- Report an error. -/
def fail (e : ε) : Checked ε α := .error (.error e)

/-- No access was out of range. -/
def Safe (x : Checked ε α) : Prop := x ≠ .error .outOfRange

theorem safe_ok (a : α) : Safe (.ok a : Checked ε α) := nofun

theorem safe_fail (e : ε) : Safe (fail e : Checked ε α) := nofun

@[simp] theorem ok_bind (a : α) (f : α → Checked ε β) : (.ok a >>= f) = f a := rfl

@[simp] theorem pure_eq_ok (a : α) : (pure a : Checked ε α) = .ok a := rfl

/-- A computation succeeds if both of its parts do. -/
theorem bind_eq_ok {x : Checked ε α} {f : α → Checked ε β} {b : β} :
    x >>= f = .ok b ↔ ∃ a, x = .ok a ∧ f a = .ok b := by
  cases x with
  | error fault => exact ⟨nofun, nofun⟩
  | ok a =>
    constructor
    · intro h
      exact ⟨a, rfl, h⟩
    · rintro ⟨_, ha, h⟩
      obtain rfl := Except.ok.inj ha
      exact h

theorem safe_bind {x : Checked ε α} {f : α → Checked ε β} (hx : Safe x)
    (hf : ∀ a, x = .ok a → Safe (f a)) : Safe (x >>= f) := by
  cases x with
  | error fault =>
    intro h
    exact hx (congrArg Except.error (Except.error.inj h))
  | ok a => exact hf a rfl

theorem safe_ite {c : Prop} [Decidable c] {x y : Checked ε α} (hx : c → Safe x)
    (hy : ¬ c → Safe y) : Safe (if c then x else y) := by
  split
  next h => exact hx h
  next h => exact hy h

end Checked

namespace ByteBuffer

variable {ε : Type}

/-! ## Reads -/

def readU8 (buf : Bytes) (offset : Nat) : Checked ε UInt8 :=
  match buf[offset]? with
  | some byte => .ok byte
  | none => .error .outOfRange

def readU16Le (buf : Bytes) (offset : Nat) : Checked ε UInt16 := do
  let b0 ← readU8 buf offset
  let b1 ← readU8 buf (offset + 1)
  return b0.toUInt16 ||| b1.toUInt16 <<< 8

def readI16Le (buf : Bytes) (offset : Nat) : Checked ε Int16 :=
  return (← readU16Le buf offset).toInt16

def readU32Le (buf : Bytes) (offset : Nat) : Checked ε UInt32 := do
  let b0 ← readU8 buf offset
  let b1 ← readU8 buf (offset + 1)
  let b2 ← readU8 buf (offset + 2)
  let b3 ← readU8 buf (offset + 3)
  return b0.toUInt32 ||| b1.toUInt32 <<< 8 ||| b2.toUInt32 <<< 16 ||| b3.toUInt32 <<< 24

def readI32Le (buf : Bytes) (offset : Nat) : Checked ε Int32 :=
  return (← readU32Le buf offset).toInt32

def readF32Le (buf : Bytes) (offset : Nat) : Checked ε F32 :=
  return ⟨← readU32Le buf offset⟩

def readU64Le (buf : Bytes) (offset : Nat) : Checked ε UInt64 := do
  let b0 ← readU8 buf offset
  let b1 ← readU8 buf (offset + 1)
  let b2 ← readU8 buf (offset + 2)
  let b3 ← readU8 buf (offset + 3)
  let b4 ← readU8 buf (offset + 4)
  let b5 ← readU8 buf (offset + 5)
  let b6 ← readU8 buf (offset + 6)
  let b7 ← readU8 buf (offset + 7)
  return b0.toUInt64 ||| b1.toUInt64 <<< 8 ||| b2.toUInt64 <<< 16 ||| b3.toUInt64 <<< 24 |||
    b4.toUInt64 <<< 32 ||| b5.toUInt64 <<< 40 ||| b6.toUInt64 <<< 48 ||| b7.toUInt64 <<< 56

/-- The bytes from `start` up to `stop`. -/
def slice (buf : Bytes) (start stop : Nat) : Checked ε Bytes :=
  if start ≤ stop ∧ stop ≤ buf.length then .ok ((buf.take stop).drop start)
  else .error .outOfRange

/-! ## Writes -/

def writeU8 (buf : Bytes) (offset : Nat) (byte : UInt8) : Checked ε Bytes :=
  if offset < buf.length then .ok (buf.set offset byte) else .error .outOfRange

/-- Write one byte after the other. -/
def writeBytes (buf : Bytes) (offset : Nat) : Bytes → Checked ε Bytes
  | [] => .ok buf
  | byte :: bytes => do writeBytes (← writeU8 buf offset byte) (offset + 1) bytes

def u8Bytes (v : UInt8) : Bytes := [v]

def u16Bytes (v : UInt16) : Bytes := [(v &&& 0xFF).toUInt8, ((v >>> 8) &&& 0xFF).toUInt8]

def i16Bytes (v : Int16) : Bytes := u16Bytes v.toUInt16

def u32Bytes (v : UInt32) : Bytes :=
  [(v &&& 0xFF).toUInt8, ((v >>> 8) &&& 0xFF).toUInt8, ((v >>> 16) &&& 0xFF).toUInt8,
    ((v >>> 24) &&& 0xFF).toUInt8]

def i32Bytes (v : Int32) : Bytes := u32Bytes v.toUInt32

def f32Bytes (v : F32) : Bytes := u32Bytes v.bits

def u64Bytes (v : UInt64) : Bytes :=
  [(v &&& 0xFF).toUInt8, ((v >>> 8) &&& 0xFF).toUInt8, ((v >>> 16) &&& 0xFF).toUInt8,
    ((v >>> 24) &&& 0xFF).toUInt8, ((v >>> 32) &&& 0xFF).toUInt8, ((v >>> 40) &&& 0xFF).toUInt8,
    ((v >>> 48) &&& 0xFF).toUInt8, ((v >>> 56) &&& 0xFF).toUInt8]

end ByteBuffer

/-! ## Words from their bytes -/

theorem Nat.lor_shiftLeft_mod {a b k w : Nat} (ha : a < 2 ^ k) (hb : b * 2 ^ k < 2 ^ w) :
    a ||| b <<< k % 2 ^ w = a + b * 2 ^ k := by
  rw [Nat.shiftLeft_eq, Nat.mod_eq_of_lt hb, Nat.lor_comm, Nat.mul_comm,
    ← Nat.two_pow_add_eq_or_of_lt ha, Nat.add_comm]

theorem UInt16.join_bytes (v : UInt16) :
    (v &&& 0xFF).toUInt8.toUInt16 ||| ((v >>> 8) &&& 0xFF).toUInt8.toUInt16 <<< 8 = v := by
  have hv := v.toNat_lt
  have hmask : (255 : Nat) = 2 ^ 8 - 1 := rfl
  apply UInt16.toNat_inj.mp
  simp [hmask, -Nat.reducePow, -Nat.reduceSub]
  rw [Nat.lor_shiftLeft_mod (k := 8) (by omega) (by omega)]
  omega

theorem UInt32.join_bytes (v : UInt32) :
    (v &&& 0xFF).toUInt8.toUInt32 ||| ((v >>> 8) &&& 0xFF).toUInt8.toUInt32 <<< 8 |||
      ((v >>> 16) &&& 0xFF).toUInt8.toUInt32 <<< 16 |||
      ((v >>> 24) &&& 0xFF).toUInt8.toUInt32 <<< 24 = v := by
  have hv := v.toNat_lt
  have hmask : (255 : Nat) = 2 ^ 8 - 1 := rfl
  apply UInt32.toNat_inj.mp
  simp [hmask, -Nat.reducePow, -Nat.reduceSub]
  rw [Nat.lor_shiftLeft_mod (k := 8) (by omega) (by omega),
    Nat.lor_shiftLeft_mod (k := 16) (by omega) (by omega),
    Nat.lor_shiftLeft_mod (k := 24) (by omega) (by omega)]
  omega

/-- A word below 2^24 from its first three bytes. -/
theorem UInt32.join_three_bytes {v : UInt32} (h : v < 0x1000000) :
    (v &&& 0xFF).toUInt8.toUInt32 ||| ((v >>> 8) &&& 0xFF).toUInt8.toUInt32 <<< 8 |||
      ((v >>> 16) &&& 0xFF).toUInt8.toUInt32 <<< 16 = v := by
  have hv : v.toNat < 2 ^ 24 := UInt32.lt_iff_toNat_lt.mp h
  have hmask : (255 : Nat) = 2 ^ 8 - 1 := rfl
  apply UInt32.toNat_inj.mp
  simp [hmask, -Nat.reducePow, -Nat.reduceSub]
  rw [Nat.lor_shiftLeft_mod (k := 8) (by omega) (by omega),
    Nat.lor_shiftLeft_mod (k := 16) (by omega) (by omega)]
  omega

theorem UInt64.join_bytes (v : UInt64) :
    (v &&& 0xFF).toUInt8.toUInt64 ||| ((v >>> 8) &&& 0xFF).toUInt8.toUInt64 <<< 8 |||
      ((v >>> 16) &&& 0xFF).toUInt8.toUInt64 <<< 16 |||
      ((v >>> 24) &&& 0xFF).toUInt8.toUInt64 <<< 24 |||
      ((v >>> 32) &&& 0xFF).toUInt8.toUInt64 <<< 32 |||
      ((v >>> 40) &&& 0xFF).toUInt8.toUInt64 <<< 40 |||
      ((v >>> 48) &&& 0xFF).toUInt8.toUInt64 <<< 48 |||
      ((v >>> 56) &&& 0xFF).toUInt8.toUInt64 <<< 56 = v := by
  have hv := v.toNat_lt
  have hmask : (255 : Nat) = 2 ^ 8 - 1 := rfl
  apply UInt64.toNat_inj.mp
  simp [hmask, -Nat.reducePow, -Nat.reduceSub]
  rw [Nat.lor_shiftLeft_mod (k := 8) (by omega) (by omega),
    Nat.lor_shiftLeft_mod (k := 16) (by omega) (by omega),
    Nat.lor_shiftLeft_mod (k := 24) (by omega) (by omega),
    Nat.lor_shiftLeft_mod (k := 32) (by omega) (by omega),
    Nat.lor_shiftLeft_mod (k := 40) (by omega) (by omega),
    Nat.lor_shiftLeft_mod (k := 48) (by omega) (by omega),
    Nat.lor_shiftLeft_mod (k := 56) (by omega) (by omega)]
  omega

namespace ByteBuffer

variable {ε : Type} {buf p : Bytes} {offset : Nat}

/-! ## Reads inside the buffer -/

theorem readU8_of_lt (h : offset < buf.length) :
    (readU8 buf offset : Checked ε UInt8) = .ok buf[offset] := by
  simp [readU8, h]

theorem safe_readU8 (h : offset < buf.length) :
    Checked.Safe (readU8 buf offset : Checked ε UInt8) := by
  rw [readU8_of_lt h]
  exact Checked.safe_ok _

theorem safe_readU16Le (h : offset + 1 < buf.length) :
    Checked.Safe (readU16Le buf offset : Checked ε UInt16) := by
  refine Checked.safe_bind (safe_readU8 (by omega)) fun _ _ => ?_
  refine Checked.safe_bind (safe_readU8 h) fun _ _ => ?_
  exact Checked.safe_ok _

theorem safe_readU32Le (h : offset + 3 < buf.length) :
    Checked.Safe (readU32Le buf offset : Checked ε UInt32) := by
  refine Checked.safe_bind (safe_readU8 (by omega)) fun _ _ => ?_
  refine Checked.safe_bind (safe_readU8 (by omega)) fun _ _ => ?_
  refine Checked.safe_bind (safe_readU8 (by omega)) fun _ _ => ?_
  refine Checked.safe_bind (safe_readU8 h) fun _ _ => ?_
  exact Checked.safe_ok _

theorem safe_readU64Le (h : offset + 7 < buf.length) :
    Checked.Safe (readU64Le buf offset : Checked ε UInt64) := by
  refine Checked.safe_bind (safe_readU8 (by omega)) fun _ _ => ?_
  refine Checked.safe_bind (safe_readU8 (by omega)) fun _ _ => ?_
  refine Checked.safe_bind (safe_readU8 (by omega)) fun _ _ => ?_
  refine Checked.safe_bind (safe_readU8 (by omega)) fun _ _ => ?_
  refine Checked.safe_bind (safe_readU8 (by omega)) fun _ _ => ?_
  refine Checked.safe_bind (safe_readU8 (by omega)) fun _ _ => ?_
  refine Checked.safe_bind (safe_readU8 (by omega)) fun _ _ => ?_
  refine Checked.safe_bind (safe_readU8 h) fun _ _ => ?_
  exact Checked.safe_ok _

theorem safe_readI16Le (h : offset + 1 < buf.length) :
    Checked.Safe (readI16Le buf offset : Checked ε Int16) :=
  Checked.safe_bind (safe_readU16Le h) fun _ _ => Checked.safe_ok _

theorem safe_readI32Le (h : offset + 3 < buf.length) :
    Checked.Safe (readI32Le buf offset : Checked ε Int32) :=
  Checked.safe_bind (safe_readU32Le h) fun _ _ => Checked.safe_ok _

theorem safe_readF32Le (h : offset + 3 < buf.length) :
    Checked.Safe (readF32Le buf offset : Checked ε F32) :=
  Checked.safe_bind (safe_readU32Le h) fun _ _ => Checked.safe_ok _

theorem slice_of_le {start stop : Nat} (hstart : start ≤ stop) (hstop : stop ≤ buf.length) :
    (slice buf start stop : Checked ε Bytes) = .ok ((buf.take stop).drop start) :=
  if_pos ⟨hstart, hstop⟩

/-- The slice of a block. -/
theorem slice_block {front block : Bytes} {start stop : Nat} (hfront : front.length = start)
    (hstop : start + block.length = stop) :
    (slice (front ++ (block ++ p)) start stop : Checked ε Bytes) = .ok block := by
  subst hfront hstop
  rw [slice_of_le (Nat.le_add_right _ _) (by simp), ← List.append_assoc, ← List.length_append,
    List.take_left, List.drop_left]

/-! ## Reading what was written -/

@[simp] theorem readU8_u8Bytes (v : UInt8) :
    (readU8 (u8Bytes v ++ p) 0 : Checked ε UInt8) = .ok v := rfl

@[simp] theorem readU16Le_u16Bytes (v : UInt16) :
    (readU16Le (u16Bytes v ++ p) 0 : Checked ε UInt16) = .ok v :=
  congrArg Except.ok v.join_bytes

@[simp] theorem readI16Le_i16Bytes (v : Int16) :
    (readI16Le (i16Bytes v ++ p) 0 : Checked ε Int16) = .ok v := by
  rw [readI16Le, i16Bytes, readU16Le_u16Bytes]
  rfl

@[simp] theorem readU32Le_u32Bytes (v : UInt32) :
    (readU32Le (u32Bytes v ++ p) 0 : Checked ε UInt32) = .ok v :=
  congrArg Except.ok v.join_bytes

@[simp] theorem readI32Le_i32Bytes (v : Int32) :
    (readI32Le (i32Bytes v ++ p) 0 : Checked ε Int32) = .ok v := by
  rw [readI32Le, i32Bytes, readU32Le_u32Bytes]
  rfl

@[simp] theorem readF32Le_f32Bytes (v : F32) :
    (readF32Le (f32Bytes v ++ p) 0 : Checked ε F32) = .ok v := by
  rw [readF32Le, f32Bytes, readU32Le_u32Bytes]
  rfl

@[simp] theorem readU64Le_u64Bytes (v : UInt64) :
    (readU64Le (u64Bytes v ++ p) 0 : Checked ε UInt64) = .ok v :=
  congrArg Except.ok v.join_bytes

section Skip

variable {block : Bytes} {k : Nat}

/-- A read beyond a block is a read of what follows it. -/
theorem readU8_skip (hblock : block.length = k) (h : k ≤ offset) :
    (readU8 (block ++ p) offset : Checked ε UInt8) = readU8 p (offset - k) := by
  subst hblock
  rw [readU8, List.getElem?_append_right h]
  rfl

theorem readU16Le_skip (hblock : block.length = k) (h : k ≤ offset) :
    (readU16Le (block ++ p) offset : Checked ε UInt16) = readU16Le p (offset - k) := by
  have hnext : offset + 1 - k = offset - k + 1 := by omega
  rw [readU16Le, readU16Le, readU8_skip hblock h, readU8_skip hblock (by omega), hnext]

theorem readI16Le_skip (hblock : block.length = k) (h : k ≤ offset) :
    (readI16Le (block ++ p) offset : Checked ε Int16) = readI16Le p (offset - k) := by
  rw [readI16Le, readI16Le, readU16Le_skip hblock h]

theorem readU32Le_skip (hblock : block.length = k) (h : k ≤ offset) :
    (readU32Le (block ++ p) offset : Checked ε UInt32) = readU32Le p (offset - k) := by
  have hnext (i : Nat) : offset + i - k = offset - k + i := by omega
  simp only [readU32Le, readU8_skip hblock h, readU8_skip hblock (Nat.le_add_right_of_le h), hnext]

theorem readI32Le_skip (hblock : block.length = k) (h : k ≤ offset) :
    (readI32Le (block ++ p) offset : Checked ε Int32) = readI32Le p (offset - k) := by
  rw [readI32Le, readI32Le, readU32Le_skip hblock h]

theorem readF32Le_skip (hblock : block.length = k) (h : k ≤ offset) :
    (readF32Le (block ++ p) offset : Checked ε F32) = readF32Le p (offset - k) := by
  rw [readF32Le, readF32Le, readU32Le_skip hblock h]

theorem readU64Le_skip (hblock : block.length = k) (h : k ≤ offset) :
    (readU64Le (block ++ p) offset : Checked ε UInt64) = readU64Le p (offset - k) := by
  have hnext (i : Nat) : offset + i - k = offset - k + i := by omega
  simp only [readU64Le, readU8_skip hblock h, readU8_skip hblock (Nat.le_add_right_of_le h), hnext]

end Skip

/-! ## Blocks of fields -/

@[simp] theorem length_u8Bytes (v : UInt8) : (u8Bytes v).length = 1 := rfl

@[simp] theorem length_u16Bytes (v : UInt16) : (u16Bytes v).length = 2 := rfl

@[simp] theorem length_i16Bytes (v : Int16) : (i16Bytes v).length = 2 := rfl

@[simp] theorem length_u32Bytes (v : UInt32) : (u32Bytes v).length = 4 := rfl

@[simp] theorem length_i32Bytes (v : Int32) : (i32Bytes v).length = 4 := rfl

@[simp] theorem length_f32Bytes (v : F32) : (f32Bytes v).length = 4 := rfl

@[simp] theorem length_u64Bytes (v : UInt64) : (u64Bytes v).length = 8 := rfl

/-! Writes keep the length of the buffer. -/

section Lengths

variable {buf' : Bytes}

theorem length_writeU8 {byte : UInt8}
    (h : (writeU8 buf offset byte : Checked ε Bytes) = .ok buf') : buf'.length = buf.length := by
  unfold writeU8 at h
  split at h
  · rw [← Except.ok.inj h, List.length_set]
  · cases h

theorem length_writeBytes {bytes : Bytes}
    (h : (writeBytes buf offset bytes : Checked ε Bytes) = .ok buf') :
    buf'.length = buf.length := by
  induction bytes generalizing buf offset with
  | nil => rw [Except.ok.inj h]
  | cons byte bytes ih =>
    obtain ⟨next, hbyte, hrest⟩ := Checked.bind_eq_ok.mp h
    exact (ih hrest).trans (length_writeU8 hbyte)

end Lengths

/-- Writing a byte replaces the one at its offset. -/
theorem writeU8_append (front : Bytes) {back : Bytes} {byte : UInt8}
    (h : front.length = offset) (v : UInt8) :
    (writeU8 (front ++ byte :: back) offset v : Checked ε Bytes) = .ok (front ++ v :: back) := by
  subst h
  rw [writeU8, if_pos (by simp)]
  simp

/-- Writing a block replaces as many bytes. -/
theorem writeBytes_of_le {bytes : Bytes} (h : offset + bytes.length ≤ buf.length) :
    (writeBytes buf offset bytes : Checked ε Bytes) =
      .ok (buf.take offset ++ (bytes ++ buf.drop (offset + bytes.length))) := by
  induction bytes generalizing buf offset with
  | nil => simp [writeBytes]
  | cons byte bytes ih =>
    rw [List.length_cons] at h
    have hlt : offset < buf.length := by omega
    have hrest : offset + 1 + bytes.length ≤ (buf.set offset byte).length := by
      rw [List.length_set]
      omega
    have htake : (buf.set offset byte).take (offset + 1) = buf.take offset ++ [byte] := by
      rw [List.take_succ_eq_append_getElem (by simpa using hlt), List.take_set_of_le (le_refl _)]
      simp
    have hdrop : (buf.set offset byte).drop (offset + 1 + bytes.length) =
        buf.drop (offset + (bytes.length + 1)) := by
      rw [List.drop_set_of_lt (by omega), Nat.add_right_comm, Nat.add_assoc]
    rw [writeBytes, writeU8, if_pos hlt]
    show writeBytes (buf.set offset byte) (offset + 1) bytes = _
    rw [ih hrest, htake, hdrop, List.length_cons, List.append_assoc]
    rfl

/-- Writing a block after the front of a buffer. -/
theorem writeBytes_append {front back bytes : Bytes} (hfront : front.length = offset)
    (h : bytes.length ≤ back.length) :
    (writeBytes (front ++ back) offset bytes : Checked ε Bytes) =
      .ok (front ++ (bytes ++ back.drop bytes.length)) := by
  subst hfront
  have hfit : front.length + bytes.length ≤ (front ++ back).length := by
    rw [List.length_append]
    exact Nat.add_le_add_left h _
  rw [writeBytes_of_le hfit, List.take_left, List.drop_append]
  simp

/-- A field of a record on the wire: its offset and its bytes. -/
structure FieldWrite where
  offset : Nat
  bytes : Bytes

namespace FieldWrite

@[simp] def u8 (offset : Nat) (v : UInt8) : FieldWrite := ⟨offset, u8Bytes v⟩

@[simp] def u16Le (offset : Nat) (v : UInt16) : FieldWrite := ⟨offset, u16Bytes v⟩

@[simp] def i16Le (offset : Nat) (v : Int16) : FieldWrite := ⟨offset, i16Bytes v⟩

@[simp] def u32Le (offset : Nat) (v : UInt32) : FieldWrite := ⟨offset, u32Bytes v⟩

@[simp] def i32Le (offset : Nat) (v : Int32) : FieldWrite := ⟨offset, i32Bytes v⟩

@[simp] def f32Le (offset : Nat) (v : F32) : FieldWrite := ⟨offset, f32Bytes v⟩

@[simp] def u64Le (offset : Nat) (v : UInt64) : FieldWrite := ⟨offset, u64Bytes v⟩

end FieldWrite

/-- Write the fields of a record that starts at `base`. -/
def writeFields (buf : Bytes) (base : Nat) : List FieldWrite → Checked ε Bytes
  | [] => .ok buf
  | field :: fields => do
    writeFields (← writeBytes buf (base + field.offset) field.bytes) base fields

theorem length_writeFields {buf' : Bytes} {base : Nat} {fields : List FieldWrite}
    (h : (writeFields buf base fields : Checked ε Bytes) = .ok buf') :
    buf'.length = buf.length := by
  induction fields generalizing buf with
  | nil => rw [Except.ok.inj h]
  | cons field fields ih =>
    obtain ⟨next, hfield, hrest⟩ := Checked.bind_eq_ok.mp h
    exact (ih hrest).trans (length_writeBytes hfield)

/-- The fields follow each other without a gap from `start` to `stop`. -/
@[simp] def Tiles (start stop : Nat) : List FieldWrite → Prop
  | [] => start = stop
  | field :: fields => field.offset = start ∧ Tiles (start + field.bytes.length) stop fields

/-- The bytes of a record. -/
def recordBytes (fields : List FieldWrite) : Bytes := fields.flatMap FieldWrite.bytes

@[simp] theorem length_recordBytes_nil : (recordBytes []).length = 0 := rfl

@[simp] theorem recordBytes_cons (field : FieldWrite) (fields : List FieldWrite) :
    recordBytes (field :: fields) = field.bytes ++ recordBytes fields := rfl

theorem length_recordBytes {start stop : Nat} {fields : List FieldWrite}
    (h : Tiles start stop fields) : start + (recordBytes fields).length = stop := by
  induction fields generalizing start with
  | nil => exact h
  | cons field fields ih =>
    have hrest := ih h.2
    simp only [recordBytes, List.flatMap_cons, List.length_append] at hrest ⊢
    omega

/-- Writing fields that tile a record replaces its bytes. -/
theorem writeFields_of_tiles {base start stop : Nat} {fields : List FieldWrite}
    (htiles : Tiles start stop fields) (hlength : base + stop ≤ buf.length) :
    (writeFields buf base fields : Checked ε Bytes) =
      .ok (buf.take (base + start) ++ (recordBytes fields ++ buf.drop (base + stop))) := by
  induction fields generalizing buf start with
  | nil =>
    obtain rfl : start = stop := htiles
    simp [writeFields, recordBytes]
  | cons field fields ih =>
    obtain ⟨rfl, hrest⟩ := htiles
    have hstop := length_recordBytes hrest
    have hfit : base + field.offset + field.bytes.length ≤ buf.length := by omega
    have hblock : (buf.take (base + field.offset) ++ field.bytes).length =
        base + (field.offset + field.bytes.length) := by
      rw [List.length_append, List.length_take]
      omega
    have hlonger : base + stop ≤ ((buf.take (base + field.offset) ++ field.bytes) ++
        buf.drop (base + field.offset + field.bytes.length)).length := by
      rw [List.length_append, hblock, List.length_drop]
      omega
    have htail : ((buf.take (base + field.offset) ++ field.bytes) ++
        buf.drop (base + field.offset + field.bytes.length)).drop (base + stop) =
          buf.drop (base + stop) := by
      rw [List.drop_append, List.drop_eq_nil_of_le (by omega), List.nil_append, List.drop_drop,
        hblock]
      congr 1
      omega
    rw [writeFields, writeBytes_of_le hfit]
    show writeFields _ base fields = _
    rw [← List.append_assoc, ih hrest hlonger, List.take_left' hblock, htail, recordBytes,
      recordBytes, List.flatMap_cons, List.append_assoc, List.append_assoc]

end ByteBuffer
