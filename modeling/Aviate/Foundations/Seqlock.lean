import Mathlib.Logic.Function.Basic
import Mathlib.Data.List.Nodup
import Mathlib.Data.UInt

/-!
# Sequence locks

A block of cells guarded by a 32-bit sequence word. One writer makes the word odd, stores
cells one at a time and makes it even again; a reader loads the word, copies the cells one at a
time and loads the word a second time. The word wraps.

Results:
1. `Faithful`, what a copy under way is worth, survives every step of the writer
   (`Faithful.enter`, `Faithful.store`, `Faithful.leave`) and every load (`Faithful.load`).
2. Two equal words around a copy make it the block's contents between two writes, if fewer
   than `2^31` writes began since the read did (`Faithful.accept`).
3. A list of stores leaves in each cell it names what it stores there (`storeAll_eq`).
-/

namespace Seqlock

variable {ι : Type*} {V : ι → Type*}

/-- Cells guarded by a sequence word. How many writes were begun and whether one is under way
are the history of the block; no reader looks at them. -/
structure Block (ι : Type*) (V : ι → Type*) where
  word : UInt32
  cells : ∀ i, V i
  begun : Nat
  writing : Bool

/-! ## Writes -/

namespace Block

/-- The increment before the first store. -/
def enter (b : Block ι V) : Block ι V :=
  { b with word := b.word + 1, begun := b.begun + 1, writing := true }

/-- The increment after the last store. -/
def leave (b : Block ι V) : Block ι V := { b with word := b.word + 1, writing := false }

def store [DecidableEq ι] (b : Block ι V) (i : ι) (v : V i) : Block ι V :=
  { b with cells := Function.update b.cells i v }

/-- The word counts two increments for each write, the last of them yet to come while a write
is under way. -/
def Counted (b : Block ι V) : Prop :=
  b.word + (if b.writing then 1 else 0) = UInt32.ofNat (2 * b.begun)

variable {b : Block ι V}

theorem Counted.enter (h : b.Counted) (hfree : b.writing = false) : b.enter.Counted := by
  simp only [Counted, hfree, Bool.false_eq_true, if_false, UInt32.add_zero] at h
  have hsucc : UInt32.ofNat (2 * (b.begun + 1)) = UInt32.ofNat (2 * b.begun) + 1 + 1 := by
    rw [show 2 * (b.begun + 1) = 2 * b.begun + 1 + 1 from rfl, UInt32.ofNat_add, UInt32.ofNat_add]
    rfl
  simp only [Counted, Block.enter, if_true, h, hsucc]

theorem Counted.leave (h : b.Counted) (hwriting : b.writing = true) : b.leave.Counted := by
  simp only [Counted, hwriting, if_true] at h
  simpa [Counted, Block.leave] using h

theorem Counted.store [DecidableEq ι] {i : ι} {v : V i} (h : b.Counted) : (b.store i v).Counted :=
  h

/-- An even word tells that no write is under way. -/
theorem Counted.not_writing (h : b.Counted) (heven : b.word % 2 = 0) : b.writing = false := by
  cases hwriting : b.writing with
  | false => rfl
  | true =>
    simp only [Counted, hwriting, if_true] at h
    have hword := congrArg UInt32.toNat h
    have hmod := congrArg UInt32.toNat heven
    simp only [UInt32.toNat_add, UInt32.toNat_mod, UInt32.toNat_ofNat'] at hword hmod
    simp at hword hmod
    omega

end Block

/-! ## Lists of stores -/

section StoreAll

variable [DecidableEq ι]

/-- The cells after a list of stores. -/
def storeAll (stores : List (Sigma V)) (cells : ∀ i, V i) : ∀ i, V i :=
  stores.foldl (fun p s => Function.update p s.1 s.2) cells

variable {stores : List (Sigma V)} {cells : ∀ i, V i} {i : ι} {v : V i}

@[simp] theorem storeAll_nil : storeAll [] cells = cells := rfl

@[simp] theorem storeAll_cons {s : Sigma V} :
    storeAll (s :: stores) cells = storeAll stores (Function.update cells s.1 s.2) := rfl

theorem storeAll_of_notMem (h : i ∉ stores.map Sigma.fst) : storeAll stores cells i = cells i := by
  induction stores generalizing cells with
  | nil => rfl
  | cons s stores ih =>
    rw [List.map_cons, List.mem_cons, not_or] at h
    rw [storeAll_cons, ih h.2]
    exact Function.update_of_ne h.1 ..

theorem storeAll_eq (hnodup : (stores.map Sigma.fst).Nodup) (h : ⟨i, v⟩ ∈ stores) :
    storeAll stores cells i = v := by
  induction stores generalizing cells with
  | nil => cases h
  | cons s stores ih =>
    rw [List.map_cons, List.nodup_cons] at hnodup
    cases h with
    | head =>
      rw [storeAll_cons, storeAll_of_notMem hnodup.1]
      exact Function.update_self ..
    | tail _ h => exact ih hnodup.2 h

end StoreAll

/-! ## Copies -/

/-- A copy under way: the word it was begun under, the cells still to load, and what was
loaded. -/
structure Window (ι : Type*) (V : ι → Type*) where
  word : UInt32
  todo : List ι
  got : ∀ i, V i

namespace Window

/-- Load one cell. -/
def load [DecidableEq ι] (w : Window ι V) (i : ι) (rest : List ι) (v : V i) : Window ι V :=
  { w with todo := rest, got := Function.update w.got i v }

end Window

/-- The copy was begun between two writes, after `since` writes had begun; while no further
write begins, what was loaded is what the block holds. -/
def Faithful (b : Block ι V) (since : Nat) (w : Window ι V) : Prop :=
  ∃ n, since ≤ n ∧ n ≤ b.begun ∧ w.word = UInt32.ofNat (2 * n) ∧
    (n = b.begun → b.writing = false ∧ ∀ i, i ∉ w.todo → w.got i = b.cells i)

variable {b : Block ι V} {w : Window ι V} {since : Nat}

/-- A copy that begins under an even word is faithful. -/
theorem Faithful.start {lanes : List ι} {got : ∀ i, V i} (hb : b.Counted)
    (heven : b.word % 2 = 0) (hsince : since ≤ b.begun) (hlanes : ∀ i, i ∈ lanes) :
    Faithful b since ⟨b.word, lanes, got⟩ := by
  have hfree := hb.not_writing heven
  have hword : b.word = UInt32.ofNat (2 * b.begun) := by
    simpa [Block.Counted, hfree] using hb
  exact ⟨b.begun, hsince, Nat.le_refl _, hword, fun _ => ⟨hfree, fun i hi => absurd (hlanes i) hi⟩⟩

theorem Faithful.load [DecidableEq ι] {i : ι} {rest : List ι} (h : Faithful b since w)
    (htodo : w.todo = i :: rest) : Faithful b since (w.load i rest (b.cells i)) := by
  obtain ⟨n, hsince, hn, hword, hgot⟩ := h
  refine ⟨n, hsince, hn, hword, fun hbegun => ⟨(hgot hbegun).1, fun j hj => ?_⟩⟩
  by_cases hji : j = i
  · subst hji
    exact Function.update_self ..
  · have hold : w.got j = b.cells j := by
      refine (hgot hbegun).2 j ?_
      rw [htodo, List.mem_cons, not_or]
      exact ⟨hji, hj⟩
    exact (Function.update_of_ne hji ..).trans hold

theorem Faithful.enter (h : Faithful b since w) : Faithful b.enter since w := by
  obtain ⟨n, hsince, hn, hword, -⟩ := h
  refine ⟨n, hsince, Nat.le_succ_of_le hn, hword, fun hbegun => ?_⟩
  -- A new write moves the count past the one the copy began under.
  exact absurd (hbegun ▸ hn) (Nat.not_succ_le_self _)

theorem Faithful.store [DecidableEq ι] {i : ι} {v : V i} (h : Faithful b since w)
    (hwriting : b.writing = true) : Faithful (b.store i v) since w := by
  obtain ⟨n, hsince, hn, hword, hgot⟩ := h
  refine ⟨n, hsince, hn, hword, fun hbegun => ?_⟩
  cases hwriting.symm.trans (hgot hbegun).1

theorem Faithful.leave (h : Faithful b since w) (hwriting : b.writing = true) :
    Faithful b.leave since w := by
  obtain ⟨n, hsince, hn, hword, hgot⟩ := h
  refine ⟨n, hsince, hn, hword, fun hbegun => ?_⟩
  cases hwriting.symm.trans (hgot hbegun).1

/-- Equal words around a full copy: no write touched the block meanwhile. -/
theorem Faithful.accept (h : Faithful b since w) (hb : b.Counted) (htodo : w.todo = [])
    (hsame : w.word = b.word) (hfew : b.begun < since + 2 ^ 31) :
    b.writing = false ∧ w.got = b.cells := by
  obtain ⟨n, hsince, hn, hword, hgot⟩ := h
  have heven : b.word % 2 = 0 := by
    rw [← hsame, hword]
    apply UInt32.toNat_inj.mp
    simp only [UInt32.toNat_mod, UInt32.toNat_ofNat']
    simp
  have hfree := hb.not_writing heven
  have hcount : UInt32.ofNat (2 * n) = UInt32.ofNat (2 * b.begun) := by
    rw [← hword, hsame]
    simpa [Block.Counted, hfree] using hb
  have hbegun : n = b.begun := by
    have hmod := congrArg UInt32.toNat hcount
    simp only [UInt32.toNat_ofNat'] at hmod
    omega
  refine ⟨hfree, funext fun i => (hgot hbegun).2 i ?_⟩
  rw [htodo]
  exact List.not_mem_nil

end Seqlock
