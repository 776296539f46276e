import Aviate.Foundations.ByteBuffer

/-!
# Fixed-width codes

A `FixedCode` writes every value of a type with the same number of bytes and never writes
two values alike. Codes compose, so a record has the code of its fields. An encoder writes a
code into a buffer block by block, and cuts what does not fit.

Results:
1. Codes of products, vectors, options and records are codes again (`FixedCode.prod`,
   `FixedCode.vector`, `FixedCode.option`, `FixedCode.comap`).
2. An encoder that copies block after block leaves the prefix of the blocks that fits, and
   leaves the rest of the buffer alone (`Cursor.copy_after`, `Cursor.nest_after`).
3. In a buffer that is long enough, two encoders of one code leave the same prefix only for
   the same value (`FixedCode.prefix_eq_iff`).
-/

open ByteBuffer

/-- A code of the values of `α` by byte strings of one length. -/
structure FixedCode (α : Type) where
  width : Nat
  bytes : α → Bytes
  length_bytes : ∀ a, (bytes a).length = width
  injective : Function.Injective bytes

namespace FixedCode

variable {α β : Type} {n : Nat}

/-! ## Scalars -/

section Scalars

@[simps width bytes] def u8 : FixedCode UInt8 where
  width := 1
  bytes := u8Bytes
  length_bytes _ := rfl
  injective _ _ h := List.head_eq_of_cons_eq h

/-- A read that gives back what was written tells two values apart. -/
theorem injective_of_read {write : α → Bytes} {read : Bytes → Nat → Checked Empty α}
    (h : ∀ a, read (write a ++ []) 0 = .ok a) : Function.Injective write := by
  intro a b hab
  have ha := h a
  rw [hab, h b] at ha
  exact (Except.ok.inj ha).symm

@[simps width bytes] def u16 : FixedCode UInt16 where
  width := 2
  bytes := u16Bytes
  length_bytes _ := rfl
  injective := injective_of_read readU16Le_u16Bytes

@[simps width bytes] def u32 : FixedCode UInt32 where
  width := 4
  bytes := u32Bytes
  length_bytes _ := rfl
  injective := injective_of_read readU32Le_u32Bytes

@[simps width bytes] def f32 : FixedCode F32 where
  width := 4
  bytes := f32Bytes
  length_bytes _ := rfl
  injective := injective_of_read readF32Le_f32Bytes

@[simps width bytes] def u64 : FixedCode UInt64 where
  width := 8
  bytes := u64Bytes
  length_bytes _ := rfl
  injective := injective_of_read readU64Le_u64Bytes

end Scalars

/-! ## Composition -/

/-- A value with nothing to tell. -/
@[simps width bytes] def unit : FixedCode Unit where
  width := 0
  bytes _ := []
  length_bytes _ := rfl
  injective _ _ _ := rfl

/-- One code after the other. -/
@[simps width bytes] def prod (a : FixedCode α) (b : FixedCode β) : FixedCode (α × β) where
  width := a.width + b.width
  bytes p := a.bytes p.1 ++ b.bytes p.2
  length_bytes p := by rw [List.length_append, a.length_bytes, b.length_bytes]
  injective := by
    rintro ⟨x, y⟩ ⟨x', y'⟩ h
    have hlength : (a.bytes x).length = (a.bytes x').length := by
      rw [a.length_bytes, a.length_bytes]
    obtain ⟨hx, hy⟩ := List.append_inj h hlength
    exact Prod.ext (a.injective hx) (b.injective hy)

/-- Code a value by what an injective function shows of it. -/
@[simps width bytes] def comap (b : FixedCode β) (f : α → β) (hf : ∀ x y, f x = f y → x = y) :
    FixedCode α where
  width := b.width
  bytes a := b.bytes (f a)
  length_bytes a := b.length_bytes (f a)
  injective x y h := hf x y (b.injective h)

theorem flatMap_inj (c : FixedCode α) {xs ys : List α} (hlength : xs.length = ys.length)
    (h : xs.flatMap c.bytes = ys.flatMap c.bytes) : xs = ys := by
  induction xs generalizing ys with
  | nil => exact (List.eq_nil_of_length_eq_zero hlength.symm).symm
  | cons x xs ih =>
    cases ys with
    | nil => cases hlength
    | cons y ys =>
      rw [List.flatMap_cons, List.flatMap_cons] at h
      obtain ⟨hx, hrest⟩ := List.append_inj h (by rw [c.length_bytes, c.length_bytes])
      rw [c.injective hx, ih (Nat.succ.inj hlength) hrest]

/-- The entries of a vector in order. -/
@[simps width bytes] def vector (c : FixedCode α) (n : Nat) : FixedCode (Vector α n) where
  width := n * c.width
  bytes v := v.toList.flatMap c.bytes
  length_bytes v := by
    have hmap : v.toList.map (fun a => (c.bytes a).length) = List.replicate n c.width := by
      rw [List.map_congr_left fun a _ => c.length_bytes a, List.map_const', v.length_toList]
    rw [List.length_flatMap, hmap, List.sum_replicate_nat]
  injective v w h := Vector.toList_inj.mp
    (c.flatMap_inj (v.length_toList.trans w.length_toList.symm) h)

/-- A presence byte, then the value, or a filler of the same width. -/
def option (c : FixedCode α) (filler : α) : FixedCode (Option α) where
  width := 1 + c.width
  bytes
    | some a => u8Bytes 1 ++ c.bytes a
    | none => u8Bytes 0 ++ c.bytes filler
  length_bytes
    | some a => by rw [List.length_append, c.length_bytes, length_u8Bytes]
    | none => by rw [List.length_append, c.length_bytes, length_u8Bytes]
  injective
    | some _, some _, h => congrArg some (c.injective (List.tail_eq_of_cons_eq h))
    | some _, none, h => absurd (List.head_eq_of_cons_eq h) (by decide)
    | none, some _, h => absurd (List.head_eq_of_cons_eq h) (by decide)
    | none, none, _ => rfl

/-- A byte for each of two values. -/
@[simps! width bytes] def bool : FixedCode Bool :=
  u8.comap (fun b => if b then 1 else 0) fun a b => by cases a <;> cases b <;> decide

end FixedCode

/-! ## Writing into a buffer -/

/-- Copy `bytes` to `offset`, cut to what remains of the buffer; the number of bytes copied
comes first. -/
def copyInto (buf : Bytes) (offset : Nat) (bytes : Bytes) : Nat × Bytes :=
  let n := min (buf.length - offset) bytes.length
  (n, buf.take offset ++ (bytes.take n ++ buf.drop (offset + n)))

/-- How far an encoder has come. -/
@[ext] structure Cursor where
  written : Nat
  buf : Bytes

namespace Cursor

def start (buf : Bytes) : Cursor := ⟨0, buf⟩

/-- Go on from what an encoder of the whole buffer returned. -/
def resume (result : Nat × Bytes) : Cursor := ⟨result.1, result.2⟩

/-- Copy a block behind what is written. -/
def copy (c : Cursor) (bytes : Bytes) : Cursor :=
  let (n, buf) := copyInto c.buf c.written bytes
  ⟨c.written + n, buf⟩

/-- Run an encoder on the rest of the buffer from `offset`. -/
def nestAt (c : Cursor) (offset : Nat) (encode : Bytes → Nat × Bytes) : Cursor :=
  let (n, rest) := encode (c.buf.drop offset)
  ⟨c.written + n, c.buf.take offset ++ rest⟩

/-- Run an encoder on what is left of the buffer, if something is. -/
def nest (c : Cursor) (encode : Bytes → Nat × Bytes) : Cursor :=
  if c.written < c.buf.length then c.nestAt c.written encode else c

/-- Run an encoder on what is left of the buffer, even if nothing is. -/
def nestClamped (c : Cursor) (encode : Bytes → Nat × Bytes) : Cursor :=
  c.nestAt (min c.written c.buf.length) encode

/-- The number of bytes written and the buffer. -/
def result (c : Cursor) : Nat × Bytes := (c.written, c.buf)

/-- The cursor after writing `bytes` into `buf`, as far as they fit. -/
def after (buf bytes : Bytes) : Cursor where
  written := min buf.length bytes.length
  buf := bytes.take buf.length ++ buf.drop bytes.length

/-- The encoder writes `block` into every buffer, cut to what fits, and returns how much that
was. -/
def Writes (encode : Bytes → Nat × Bytes) (block : Bytes) : Prop :=
  ∀ buf, encode buf = (after buf block).result

variable {buf bytes block : Bytes} {encode : Bytes → Nat × Bytes}

@[simp] theorem start_eq : start buf = after buf [] := by
  ext <;> simp [start, after]

theorem length_after : (after buf bytes).buf.length = buf.length := by
  simp only [after, List.length_append, List.length_take, List.length_drop]
  omega

theorem after_of_le (h : bytes.length ≤ buf.length) :
    after buf bytes = ⟨bytes.length, bytes ++ buf.drop bytes.length⟩ := by
  rw [after, Nat.min_eq_right h, List.take_of_length_le h]

theorem after_of_ge (h : buf.length ≤ bytes.length) :
    after buf bytes = ⟨buf.length, bytes.take buf.length⟩ := by
  rw [after, Nat.min_eq_left h, List.drop_eq_nil_of_le h, List.append_nil]

theorem resume_after (hencode : Writes encode block) : resume (encode buf) = after buf block := by
  rw [hencode buf]
  rfl

/-- What an encoder of `block` returns and leaves in a buffer. -/
theorem writes_iff : Writes encode block ↔ ∀ buf,
    (encode buf).1 = min buf.length block.length ∧
      (encode buf).2.take (encode buf).1 = block.take (encode buf).1 ∧
      (encode buf).2.drop (encode buf).1 = buf.drop (encode buf).1 := by
  refine forall_congr' fun buf => ⟨fun h => ?_, fun h => ?_⟩
  · rw [h]
    rcases Nat.le_total block.length buf.length with hle | hle
    · rw [after_of_le hle]
      simp [result, Nat.min_eq_right hle]
    · rw [after_of_ge hle]
      simp [result, Nat.min_eq_left hle, List.take_take]
  · obtain ⟨hcount, hfront, hrest⟩ := h
    have hbuf : (encode buf).2 = block.take (encode buf).1 ++ buf.drop (encode buf).1 := by
      rw [← hfront, ← hrest, List.take_append_drop]
    refine Prod.ext hcount ?_
    rw [hbuf, hcount]
    rcases Nat.le_total block.length buf.length with hle | hle
    · rw [after_of_le hle, Nat.min_eq_right hle, List.take_length]
      rfl
    · rw [after_of_ge hle, Nat.min_eq_left hle, List.drop_length, List.append_nil]
      rfl

/-- An encoder that writes `block` writes it behind what is written. -/
theorem nestAt_after (hencode : Writes encode block) :
    (after buf bytes).nestAt (after buf bytes).written encode = after buf (bytes ++ block) := by
  rcases Nat.le_total bytes.length buf.length with h | h
  · have hrest : buf.length - bytes.length = (buf.drop bytes.length).length := by
      rw [List.length_drop]
    rw [after_of_le h, nestAt]
    simp only [List.drop_left, List.take_left, hencode _, result]
    ext1
    · simp only [after, List.length_append, List.length_drop]
      omega
    · simp only [after, List.take_append, List.take_of_length_le h, hrest, List.length_append,
        List.drop_drop, List.append_assoc]
  · have htake : (bytes.take buf.length).length = buf.length := by
      rw [List.length_take, Nat.min_eq_left h]
    rw [after_of_ge h, nestAt]
    simp only [List.drop_of_length_le htake.le, List.take_of_length_le htake.le, hencode _]
    rw [after_of_ge (h.trans (by rw [List.length_append]; omega)),
      List.take_append_of_le_length h]
    simp [result, after]

/-- The guarded step does the same: where nothing is left, nothing would be written. -/
theorem nest_after (hencode : Writes encode block) :
    (after buf bytes).nest encode = after buf (bytes ++ block) := by
  unfold nest
  split
  next => exact nestAt_after hencode
  next hfull =>
    rw [length_after] at hfull
    have h : buf.length ≤ bytes.length := by
      simp only [after] at hfull
      omega
    rw [after_of_ge h, after_of_ge (h.trans (by rw [List.length_append]; omega)),
      List.take_append_of_le_length h]

/-- So does the clamped one. -/
theorem nestClamped_after (hencode : Writes encode block) :
    (after buf bytes).nestClamped encode = after buf (bytes ++ block) := by
  have hwritten : (after buf bytes).written ≤ (after buf bytes).buf.length := by
    rw [length_after]
    exact Nat.min_le_left _ _
  rw [nestClamped, Nat.min_eq_left hwritten, nestAt_after hencode]

/-- Copying a block is the encoder that writes the block. -/
@[simp] theorem copy_after : (after buf bytes).copy block = after buf (bytes ++ block) := by
  rw [← nestAt_after fun _ => rfl]
  generalize hc : after buf bytes = c
  have hwritten : c.written ≤ c.buf.length := by
    rw [← hc, length_after]
    exact Nat.min_le_left _ _
  have hrest : c.buf.length - c.written = (c.buf.drop c.written).length := by
    rw [List.length_drop]
  ext1
  · simp only [copy, copyInto, nestAt, result, after, hrest]
  · simp only [copy, copyInto, nestAt, result, after, hrest, ← List.drop_drop]
    rcases Nat.le_total block.length (c.buf.drop c.written).length with h | h
    · rw [Nat.min_eq_right h, List.take_of_length_le h, List.take_of_length_le le_rfl]
    · rw [Nat.min_eq_left h, List.drop_of_length_le h, List.drop_of_length_le le_rfl]

/-- A loop that writes one block for each entry. -/
theorem foldl_after {α : Type} {step : Cursor → α → Cursor} {f : α → Bytes} {xs : List α}
    (hstep : ∀ bytes a, step (after buf bytes) a = after buf (bytes ++ f a)) :
    xs.foldl step (after buf bytes) = after buf (bytes ++ xs.flatMap f) := by
  induction xs generalizing bytes with
  | nil => simp
  | cons x xs ih => rw [List.foldl_cons, hstep, ih, List.flatMap_cons, List.append_assoc]

theorem foldl_copy {α : Type} {f : α → Bytes} {xs : List α} :
    xs.foldl (fun c a => c.copy (f a)) (after buf bytes) = after buf (bytes ++ xs.flatMap f) :=
  foldl_after fun _ _ => copy_after

theorem foldl_nestClamped {α : Type} {encode : α → Bytes → Nat × Bytes} {f : α → Bytes}
    {xs : List α} (hencode : ∀ a, Writes (encode a) (f a)) :
    xs.foldl (fun c a => c.nestClamped (encode a)) (after buf bytes) =
      after buf (bytes ++ xs.flatMap f) :=
  foldl_after fun _ a => nestClamped_after (hencode a)

end Cursor

/-! ## Buffers that hold a whole code -/

namespace FixedCode

variable {α : Type} (c : FixedCode α) {a b : α} {buf buf' : Bytes}

/-- In buffers that hold the whole code, the written prefixes agree only for equal values. -/
theorem prefix_eq_iff (hbuf : c.width ≤ buf.length) (hbuf' : c.width ≤ buf'.length) :
    (Cursor.after buf (c.bytes a)).buf.take (Cursor.after buf (c.bytes a)).written =
        (Cursor.after buf' (c.bytes b)).buf.take (Cursor.after buf' (c.bytes b)).written ↔
      a = b := by
  rw [← c.length_bytes a] at hbuf
  rw [← c.length_bytes b] at hbuf'
  rw [Cursor.after_of_le hbuf, Cursor.after_of_le hbuf', List.take_left, List.take_left]
  exact c.injective.eq_iff

end FixedCode
