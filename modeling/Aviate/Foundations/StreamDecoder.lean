import Mathlib.Data.List.Basic

/-!
# Decoders of a byte stream

A decoder looks at the bytes it has not consumed. It waits for more, or it consumes some of
them, with or without an event. Its verdict is stable: once it does not wait, bytes that arrive
later do not change what it consumes.

Results:
1. Decoding is its first consumption followed by decoding the rest (`decode_of_take`), and the
   rest is one the decoder waits on (`decode_rest`).
2. Decoding a stream in two pieces, the second together with what the first left over, is
   decoding it whole (`decode_append`).
3. Where a decoder comes to stand does not depend on what follows (`Stands.append`); it comes to
   stand before what it leaves over (`stands_rest`), and from where it stands the events are the
   last of the stream's (`Stands.decode_suffix`).
-/

/-- What a decoder does with the bytes before it: wait for more, or consume some. -/
inductive Verdict (α : Type*) where
  | wait
  | take (n : Nat) (event : Option α)
deriving DecidableEq

/-- A decoder of a stream of `β` into events of `α`. -/
structure StreamDecoder (β α : Type*) where
  next : List β → Verdict α
  take_pos : ∀ {buf n event}, next buf = .take n event → 0 < n
  take_le : ∀ {buf n event}, next buf = .take n event → n ≤ buf.length
  stable : ∀ {buf n event} (more : List β), next buf = .take n event →
    next (buf ++ more) = .take n event

namespace StreamDecoder

variable {α β : Type*} (d : StreamDecoder β α)

/-- Consume until the decoder waits, at most `fuel` times. -/
def decodeFor : Nat → List β → List α × List β
  | 0, buf => ([], buf)
  | fuel + 1, buf =>
    match d.next buf with
    | .wait => ([], buf)
    | .take n event =>
      let (events, rest) := decodeFor fuel (buf.drop n)
      (event.toList ++ events, rest)

/-- The events of a stream, and what is left to wait on. -/
def decode (buf : List β) : List α × List β := d.decodeFor buf.length buf

/-- Consuming from the front of a stream, the decoder comes to stand before this end of it. -/
inductive Stands : List β → List β → Prop where
  | here (buf : List β) : Stands buf buf
  | take {buf rest : List β} {n : Nat} {event : Option α} (next : d.next buf = .take n event)
      (later : Stands (buf.drop n) rest) : Stands buf rest

variable {d} {buf mid more rest : List β} {n fuel : Nat} {event : Option α} {events : List α}

/-- Fuel beyond the length of the stream changes nothing. -/
theorem decodeFor_of_le (h : buf.length ≤ fuel) : d.decodeFor fuel buf = d.decode buf := by
  have hfuel (k : Nat) : ∀ (buf : List β) (fuel : Nat), buf.length ≤ k → k ≤ fuel →
      d.decodeFor fuel buf = d.decodeFor k buf := by
    induction k with
    | zero =>
      intro buf fuel hlength _
      have hnil : buf = [] := List.eq_nil_of_length_eq_zero (Nat.le_zero.mp hlength)
      subst hnil
      cases fuel with
      | zero => rfl
      | succ fuel =>
        cases hnext : d.next [] with
        | wait => simp [decodeFor, hnext]
        | take n event =>
          exact absurd (d.take_pos hnext) (Nat.not_lt.mpr (d.take_le hnext))
    | succ k ih =>
      intro buf fuel hlength hle
      cases fuel with
      | zero => exact absurd hle (Nat.not_succ_le_zero k)
      | succ fuel =>
        cases hnext : d.next buf with
        | wait => simp [decodeFor, hnext]
        | take n event =>
          have hshort : (buf.drop n).length ≤ k := by
            have hpos := d.take_pos hnext
            rw [List.length_drop]
            omega
          simp only [decodeFor, hnext, ih _ fuel hshort (Nat.le_of_succ_le_succ hle)]
  exact hfuel buf.length buf fuel (Nat.le_refl _) h

theorem decode_of_wait (h : d.next buf = .wait) : d.decode buf = ([], buf) := by
  unfold decode
  cases buf.length <;> simp [decodeFor, h]

theorem decode_of_take (h : d.next buf = .take n event) :
    d.decode buf =
      (event.toList ++ (d.decode (buf.drop n)).1, (d.decode (buf.drop n)).2) := by
  have hpos := d.take_pos h
  have hle := d.take_le h
  obtain ⟨k, hk⟩ : ∃ k, buf.length = k + 1 := Nat.exists_eq_succ_of_ne_zero (by omega)
  have hrest : d.decodeFor k (buf.drop n) = d.decode (buf.drop n) := by
    refine decodeFor_of_le ?_
    rw [List.length_drop]
    omega
  have hfirst : d.decode buf = d.decodeFor (k + 1) buf := by rw [decode, hk]
  rw [hfirst]
  simp only [decodeFor, h, hrest]

@[simp] theorem decode_nil : d.decode [] = ([], []) := by
  cases h : d.next [] with
  | wait => exact decode_of_wait h
  | take n event => exact absurd (d.take_pos h) (Nat.not_lt.mpr (d.take_le h))

/-- What decoding consumes leads to the rest: a fact about the whole stream follows from one
about streams to wait on and one about a single consumption. -/
theorem decode_induction {motive : List β → Prop} (hwait : ∀ buf, d.next buf = .wait → motive buf)
    (htake : ∀ buf n event, d.next buf = .take n event → motive (buf.drop n) → motive buf)
    (buf : List β) : motive buf := by
  induction hk : buf.length using Nat.strongRecOn generalizing buf with
  | ind k ih =>
    cases h : d.next buf with
    | wait => exact hwait buf h
    | take n event =>
      refine htake buf n event h (ih (buf.drop n).length ?_ _ rfl)
      have hpos := d.take_pos h
      have hle := d.take_le h
      rw [List.length_drop]
      omega

/-- The decoder waits on what is left. -/
theorem decode_rest (buf : List β) : d.next (d.decode buf).2 = .wait := by
  induction buf using decode_induction (d := d) with
  | hwait buf h => rw [decode_of_wait h, h]
  | htake buf n event h ih => rw [decode_of_take h, ih]

/-- What is left is the end of the stream. -/
theorem decode_rest_suffix (buf : List β) : (d.decode buf).2 <:+ buf := by
  induction buf using decode_induction (d := d) with
  | hwait buf h =>
    simp only [decode_of_wait h, List.suffix_refl]
  | htake buf n event h ih =>
    rw [decode_of_take h]
    exact ih.trans (List.drop_suffix n buf)

/-- There are no more events than elements. -/
theorem length_decode_le (buf : List β) : (d.decode buf).1.length ≤ buf.length := by
  induction buf using decode_induction (d := d) with
  | hwait buf h =>
    rw [decode_of_wait h]
    exact Nat.zero_le _
  | htake buf n event h ih =>
    have hpos := d.take_pos h
    have hle := d.take_le h
    have hevent : event.toList.length ≤ 1 := by cases event <;> simp
    rw [decode_of_take h, List.length_append]
    rw [List.length_drop] at ih
    omega

/-- A stream in two pieces. -/
theorem decode_append (buf more : List β) :
    d.decode (buf ++ more) =
      ((d.decode buf).1 ++ (d.decode ((d.decode buf).2 ++ more)).1,
        (d.decode ((d.decode buf).2 ++ more)).2) := by
  induction buf using decode_induction (d := d) with
  | hwait buf h => rw [decode_of_wait h, List.nil_append]
  | htake buf n event h ih =>
    have hdrop : (buf ++ more).drop n = buf.drop n ++ more :=
      List.drop_append_of_le_length (d.take_le h)
    rw [decode_of_take (d.stable more h), hdrop, ih, decode_of_take h, List.append_assoc]

theorem Stands.trans (h : d.Stands buf mid) (hrest : d.Stands mid rest) : d.Stands buf rest := by
  induction h with
  | here buf => exact hrest
  | take next _ ih => exact .take next (ih hrest)

/-- What follows the stream does not matter. -/
theorem Stands.append (h : d.Stands buf rest) (more : List β) :
    d.Stands (buf ++ more) (rest ++ more) := by
  induction h with
  | here buf => exact .here _
  | take next _ ih =>
    refine .take (d.stable more next) ?_
    rwa [List.drop_append_of_le_length (d.take_le next)]

/-- The decoder comes to stand before what it leaves over. -/
theorem stands_rest (buf : List β) : d.Stands buf (d.decode buf).2 := by
  induction buf using decode_induction (d := d) with
  | hwait buf h =>
    rw [decode_of_wait h]
    exact .here buf
  | htake buf n event h ih =>
    rw [decode_of_take h]
    exact .take h ih

/-- The events from where the decoder stands are the last of the stream. -/
theorem Stands.decode_suffix (h : d.Stands buf rest) : (d.decode rest).1 <:+ (d.decode buf).1 := by
  induction h with
  | here buf => exact List.suffix_refl _
  | take next _ ih =>
    rw [decode_of_take next]
    exact ih.trans (List.suffix_append ..)

/-- A consumption without an event. -/
theorem decode_of_skip (h : d.next buf = .take n none) : d.decode buf = d.decode (buf.drop n) := by
  rw [decode_of_take h]
  simp

/-- A consumption with an event. -/
theorem decode_of_event {a : α} (h : d.next buf = .take n (some a)) :
    d.decode buf = (a :: (d.decode (buf.drop n)).1, (d.decode (buf.drop n)).2) := by
  rw [decode_of_take h]
  rfl

end StreamDecoder
