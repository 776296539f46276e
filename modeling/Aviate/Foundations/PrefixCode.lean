import Aviate.Foundations.FixedCode

/-!
# Codes that are their own delimiter

A `PrefixCode` writes the values of its domain so that a reader who knows the code can tell
where a value ends, whatever follows. Such codes compose: a record may be written field by
field with no delimiter between the fields, tags and length prefixes included. A hasher that
is fed field by field is fed the code of the record.

Results:
1. Fixed-width codes are prefix codes (`FixedCode.toPrefix`), and records, options, tagged
   unions and length-prefixed lists have prefix codes (`PrefixCode.prod`, `PrefixCode.option`,
   `PrefixCode.tagged`, `PrefixCode.list`).
2. A prefix code writes no two values of its domain alike (`PrefixCode.bytes_inj`).
3. Feeding a stream and going on with another is feeding both in one pass
   (`Hasher.feedBytes_append`).
-/

open ByteBuffer

/-! ## Codes -/

/-- A code of the values of a domain whose end does not depend on what follows. -/
structure PrefixCode (α : Type) where
  bytes : α → Bytes
  Domain : α → Prop
  unique : ∀ {a b : α} {rest rest' : Bytes}, Domain a → Domain b →
    bytes a ++ rest = bytes b ++ rest' → a = b ∧ rest = rest'

/-- A code of fixed width is read off the front. -/
@[simps bytes Domain] def FixedCode.toPrefix {α : Type} (c : FixedCode α) : PrefixCode α where
  bytes := c.bytes
  Domain _ := True
  unique := by
    intro a b rest rest' _ _ h
    obtain ⟨hvalue, hrest⟩ := List.append_inj h (by rw [c.length_bytes, c.length_bytes])
    exact ⟨c.injective hvalue, hrest⟩

namespace PrefixCode

variable {α β : Type}

/-- No two values of the domain are written alike. -/
theorem bytes_inj (c : PrefixCode α) {a b : α} (ha : c.Domain a) (hb : c.Domain b)
    (h : c.bytes a = c.bytes b) : a = b :=
  (c.unique ha hb (congrArg (· ++ ([] : Bytes)) h)).1

/-- A block that does not depend on the value. -/
@[simps bytes Domain] def const (block : Bytes) : PrefixCode Unit where
  bytes _ := block
  Domain _ := True
  unique _ _ h := ⟨rfl, List.append_cancel_left h⟩

/-- One code after the other. -/
@[simps bytes Domain] def prod (a : PrefixCode α) (b : PrefixCode β) : PrefixCode (α × β) where
  bytes p := a.bytes p.1 ++ b.bytes p.2
  Domain p := a.Domain p.1 ∧ b.Domain p.2
  unique := by
    rintro ⟨x, y⟩ ⟨x', y'⟩ rest rest' hx hx' h
    rw [List.append_assoc, List.append_assoc] at h
    obtain ⟨hfirst, h⟩ := a.unique hx.1 hx'.1 h
    obtain ⟨hsecond, h⟩ := b.unique hx.2 hx'.2 h
    exact ⟨Prod.ext hfirst hsecond, h⟩

/-- A code followed by a fixed block. -/
@[simps bytes Domain] def closed (a : PrefixCode α) (block : Bytes) : PrefixCode α where
  bytes x := a.bytes x ++ block
  Domain := a.Domain
  unique := by
    intro x y rest rest' hx hy h
    rw [List.append_assoc, List.append_assoc] at h
    obtain ⟨hvalue, h⟩ := a.unique hx hy h
    exact ⟨hvalue, List.append_cancel_left h⟩

/-- Code a value by what an injective function shows of it. -/
@[simps bytes Domain] def comap (b : PrefixCode β) (f : α → β) (hf : ∀ x y, f x = f y → x = y) :
    PrefixCode α where
  bytes a := b.bytes (f a)
  Domain a := b.Domain (f a)
  unique hx hy h := ⟨hf _ _ (b.unique hx hy h).1, (b.unique hx hy h).2⟩

/-- A tag byte, then the payload that goes with the tag. -/
@[simps bytes Domain] def tagged (tag : α → UInt8) (payload : α → Bytes)
    (h : ∀ {a b rest rest'}, tag a = tag b → payload a ++ rest = payload b ++ rest' →
      a = b ∧ rest = rest') : PrefixCode α where
  bytes a := tag a :: payload a
  Domain _ := True
  unique _ _ heq := h (List.head_eq_of_cons_eq heq) (List.tail_eq_of_cons_eq heq)

/-- A presence byte, then the value if there is one. -/
def option (c : FixedCode α) : PrefixCode (Option α) :=
  tagged (fun o => if o.isSome then 1 else 0) (fun o => o.elim [] c.bytes) <| by
    intro a b rest rest' htag h
    cases a with
    | none =>
      cases b with
      | none => exact ⟨rfl, h⟩
      | some b => simp at htag
    | some a =>
      cases b with
      | none => simp at htag
      | some b =>
        obtain ⟨hvalue, hrest⟩ := c.toPrefix.unique trivial trivial h
        exact ⟨congrArg some hvalue, hrest⟩

/-- Two lists of one length are read entry by entry. -/
theorem flatMap_unique (c : PrefixCode α) {xs ys : List α} {rest rest' : Bytes}
    (hxs : ∀ x ∈ xs, c.Domain x) (hys : ∀ y ∈ ys, c.Domain y) (hlength : xs.length = ys.length)
    (h : xs.flatMap c.bytes ++ rest = ys.flatMap c.bytes ++ rest') : xs = ys ∧ rest = rest' := by
  induction xs generalizing ys with
  | nil =>
    obtain rfl := List.eq_nil_of_length_eq_zero hlength.symm
    exact ⟨rfl, h⟩
  | cons x xs ih =>
    cases ys with
    | nil => cases hlength
    | cons y ys =>
      rw [List.forall_mem_cons] at hxs hys
      rw [List.flatMap_cons, List.flatMap_cons, List.append_assoc, List.append_assoc] at h
      obtain ⟨hhead, h⟩ := c.unique hxs.1 hys.1 h
      obtain ⟨htail, h⟩ := ih hxs.2 hys.2 (Nat.succ.inj hlength) h
      exact ⟨by rw [hhead, htail], h⟩

/-- The length in eight bytes, then the entries. The length has to fit. -/
@[simps bytes Domain] def list (c : PrefixCode α) : PrefixCode (List α) where
  bytes xs := u64Bytes (.ofNat xs.length) ++ xs.flatMap c.bytes
  Domain xs := xs.length < 2 ^ 64 ∧ ∀ x ∈ xs, c.Domain x
  unique := by
    intro xs ys rest rest' hxs hys h
    rw [List.append_assoc, List.append_assoc] at h
    obtain ⟨hcount, h⟩ := FixedCode.u64.toPrefix.unique trivial trivial h
    have hlength : xs.length = ys.length := by
      have hcount := congrArg UInt64.toNat hcount
      rwa [UInt64.toNat_ofNat', UInt64.toNat_ofNat', Nat.mod_eq_of_lt hxs.1,
        Nat.mod_eq_of_lt hys.1] at hcount
    exact c.flatMap_unique hxs.2 hys.2 hlength h

end PrefixCode

/-! ## Hashers -/

/-- A state that is fed one byte after the other. -/
class Hasher (H : Type) where
  feedByte : H → UInt8 → H

/-- A recorder keeps the bytes it is fed. -/
instance : Hasher Bytes := ⟨fun stream byte => stream ++ [byte]⟩

namespace Hasher

variable {H α : Type} [Hasher H]

def feedBytes (h : H) (bytes : Bytes) : H := bytes.foldl feedByte h

@[simp] theorem feedBytes_nil (h : H) : feedBytes h [] = h := rfl

/-- Feeding a stream and going on with another is one pass over both. -/
theorem feedBytes_append (h : H) (bytes bytes' : Bytes) :
    feedBytes h (bytes ++ bytes') = feedBytes (feedBytes h bytes) bytes' :=
  List.foldl_append

/-- What a recorder is fed, it holds. -/
theorem feedBytes_recorder (stream bytes : Bytes) : feedBytes stream bytes = stream ++ bytes := by
  induction bytes generalizing stream with
  | nil => exact (List.append_nil stream).symm
  | cons byte bytes ih =>
    show feedBytes (stream ++ [byte]) bytes = _
    rw [ih, List.append_assoc, List.singleton_append]

/-- A loop that feeds one block for each entry. -/
theorem foldl_feed {feed : H → α → H} {f : α → Bytes} (hfeed : ∀ h a, feed h a = feedBytes h (f a))
    (h : H) (xs : List α) : xs.foldl feed h = feedBytes h (xs.flatMap f) := by
  induction xs generalizing h with
  | nil => rfl
  | cons x xs ih => rw [List.foldl_cons, hfeed, ih, List.flatMap_cons, feedBytes_append]

end Hasher
