import Mathlib.Data.Set.Basic

/-!
# Flag sets: finite sets of bits packed in a machine word

A `FlagSet w` is a word of `w` bits read as a set of bit positions. The
operations are those of the `bitflags` crate: `insert` and `remove` are an "or"
and an "and not", `contains` asks that every bit of the argument is set, and
`intersects` that at least one is.

Results:
1. Every operation is the set operation it is named after (`mem_insert`,
   `mem_remove`, `mem_set`, `mem_union`, `mem_difference`).
2. `contains` is inclusion (`contains_iff`) and `intersects` is a common member
   (`intersects_iff`).
3. The frame rules a flag register needs: an operation on bits that are
   disjoint from `g` neither adds nor drops a bit of `g`
   (`contains_remove_of_disjoint`, `contains_set_of_disjoint`).
-/

/-- A set of bit positions below `w`, packed in a word. -/
structure FlagSet (w : Nat) where
  bits : BitVec w
deriving DecidableEq, Repr

namespace FlagSet

variable {w : Nat} {f g h : FlagSet w} {i j : Nat} {v : Bool}

/-! ## Operations -/

/-- The word with no bit set. -/
def empty : FlagSet w := ⟨0#w⟩

/-- The word whose only bit is `i` (`1 << i`). -/
def flag (i : Nat) : FlagSet w := ⟨1#w <<< i⟩

/-- All `w` bits set. -/
def all : FlagSet w := ⟨BitVec.allOnes w⟩

/-- Bits of either word (`|`). -/
def union (f g : FlagSet w) : FlagSet w := ⟨f.bits ||| g.bits⟩

/-- Bits of `f` that are not bits of `g` (`-`). -/
def difference (f g : FlagSet w) : FlagSet w := ⟨f.bits &&& ~~~g.bits⟩

/-- Set every bit of `g`. -/
def insert (f g : FlagSet w) : FlagSet w := f.union g

/-- Clear every bit of `g`. -/
def remove (f g : FlagSet w) : FlagSet w := f.difference g

/-- Set or clear every bit of `g`, as `value` says. -/
def set (f g : FlagSet w) (value : Bool) : FlagSet w :=
  if value then f.insert g else f.remove g

/-- Every bit of `g` is set in `f`. -/
def contains (f g : FlagSet w) : Bool := f.bits &&& g.bits == g.bits

/-- Some bit of `g` is set in `f`. -/
def intersects (f g : FlagSet w) : Bool := f.bits &&& g.bits != 0#w

/-- No bit is set. -/
def isEmpty (f : FlagSet w) : Bool := f.bits == 0#w

instance : Membership Nat (FlagSet w) := ⟨fun f i => f.bits.getLsbD i = true⟩

instance (i : Nat) (f : FlagSet w) : Decidable (i ∈ f) :=
  inferInstanceAs (Decidable (f.bits.getLsbD i = true))

theorem mem_def : i ∈ f ↔ f.bits.getLsbD i = true := Iff.rfl

theorem lt_of_mem (hi : i ∈ f) : i < w := BitVec.lt_of_getLsbD hi

/-! ## Every operation is a set operation -/

@[simp] theorem not_mem_empty : i ∉ (empty : FlagSet w) := by
  simp [mem_def, empty]

@[simp] theorem mem_flag : i ∈ (flag j : FlagSet w) ↔ i = j ∧ j < w := by
  simp only [mem_def, flag, BitVec.getLsbD_shiftLeft, BitVec.getLsbD_one, Bool.and_eq_true,
    decide_eq_true_eq, Bool.not_eq_true', decide_eq_false_iff_not]
  omega

@[simp] theorem mem_union : i ∈ f.union g ↔ i ∈ f ∨ i ∈ g := by
  simp [mem_def, union]

@[simp] theorem mem_difference : i ∈ f.difference g ↔ i ∈ f ∧ i ∉ g := by
  simp only [mem_def, difference, BitVec.getLsbD_and, BitVec.getLsbD_not, Bool.and_eq_true,
    decide_eq_true_eq, Bool.not_eq_true', Bool.not_eq_true]
  constructor
  · rintro ⟨hf, -, hg⟩
    exact ⟨hf, hg⟩
  · rintro ⟨hf, hg⟩
    exact ⟨hf, lt_of_mem hf, hg⟩

@[simp] theorem mem_insert : i ∈ f.insert g ↔ i ∈ f ∨ i ∈ g := mem_union

@[simp] theorem mem_remove : i ∈ f.remove g ↔ i ∈ f ∧ i ∉ g := mem_difference

theorem mem_set : i ∈ f.set g v ↔ if v then i ∈ f ∨ i ∈ g else i ∈ f ∧ i ∉ g := by
  cases v <;> simp [set]

/-! ## Inclusion -/

theorem contains_iff : f.contains g = true ↔ ∀ i, i ∈ g → i ∈ f := by
  rw [contains, beq_iff_eq]
  constructor
  · intro hfg i hi
    have hand : (f.bits &&& g.bits).getLsbD i = true := by rw [hfg]; exact hi
    rw [BitVec.getLsbD_and, Bool.and_eq_true] at hand
    exact hand.1
  · intro hsub
    refine BitVec.eq_of_getLsbD_eq fun i _ => ?_
    rw [BitVec.getLsbD_and]
    cases hg : g.bits.getLsbD i with
    | false => simp
    | true => simp [show f.bits.getLsbD i = true from hsub i hg]

theorem contains_flag (hi : i < w) : f.contains (flag i) = true ↔ i ∈ f := by
  rw [contains_iff]
  constructor
  · intro hsub
    exact hsub i (mem_flag.mpr ⟨rfl, hi⟩)
  · intro hf j hj
    obtain ⟨rfl, -⟩ := mem_flag.mp hj
    exact hf

@[simp] theorem contains_empty : f.contains empty = true := by
  rw [contains_iff]
  intro i hi
  exact absurd hi not_mem_empty

theorem contains_trans (hfg : f.contains g = true) (hgh : g.contains h = true) :
    f.contains h = true := by
  rw [contains_iff] at *
  exact fun i hi => hfg i (hgh i hi)

theorem isEmpty_iff : f.isEmpty = true ↔ ∀ i, i ∉ f := by
  rw [isEmpty, beq_iff_eq]
  constructor
  · intro hf i hi
    rw [mem_def, hf] at hi
    simp at hi
  · intro hf
    refine BitVec.eq_of_getLsbD_eq fun i _ => ?_
    simpa [mem_def] using hf i

theorem intersects_iff : f.intersects g = true ↔ ∃ i, i ∈ f ∧ i ∈ g := by
  rw [← not_iff_not]
  have hempty : ¬ f.intersects g = true ↔ (⟨f.bits &&& g.bits⟩ : FlagSet w).isEmpty = true := by
    simp [intersects, isEmpty]
  rw [hempty, isEmpty_iff]
  simp [mem_def]

/-- A word that contains a non-empty one is not empty. -/
theorem not_isEmpty_of_contains (hfg : f.contains g = true) (hi : i ∈ g) :
    f.isEmpty = false := by
  rw [← Bool.not_eq_true, isEmpty_iff]
  intro hf
  exact hf i (contains_iff.mp hfg i hi)

/-! ## Frame rules -/

theorem contains_insert_self : (f.insert g).contains g = true := by
  rw [contains_iff]
  exact fun i hi => mem_insert.mpr (.inr hi)

/-- Setting bits drops none. -/
theorem contains_insert (hf : f.contains h = true) : (f.insert g).contains h = true := by
  rw [contains_iff] at *
  exact fun i hi => mem_insert.mpr (.inl (hf i hi))

/-- Clearing bits that are disjoint from `h` drops no bit of `h`. -/
theorem contains_remove_of_disjoint (hgh : h.intersects g = false)
    (hf : f.contains h = true) : (f.remove g).contains h = true := by
  rw [contains_iff] at *
  rw [← Bool.not_eq_true, intersects_iff] at hgh
  intro i hi
  exact mem_remove.mpr ⟨hf i hi, fun hg => hgh ⟨i, hi, hg⟩⟩

theorem contains_set_of_disjoint (hgh : h.intersects g = false)
    (hf : f.contains h = true) : (f.set g v).contains h = true := by
  cases v with
  | false => exact contains_remove_of_disjoint hgh hf
  | true => exact contains_insert hf

/-- Writing one bit and asking for it gives what was written. -/
@[simp] theorem contains_set_flag_self (hi : i < w) :
    (f.set (flag i) v).contains (flag i) = v := by
  rw [Bool.eq_iff_iff, contains_flag hi, mem_set]
  cases v <;> simp [hi]

/-- Writing one bit leaves the others. -/
theorem mem_set_flag_of_ne (hij : i ≠ j) : i ∈ f.set (flag j) v ↔ i ∈ f := by
  rw [mem_set]
  cases v <;> simp [hij]

theorem contains_set_flag_of_ne (hij : i ≠ j) (hi : i < w) :
    (f.set (flag j) v).contains (flag i) = f.contains (flag i) := by
  rw [Bool.eq_iff_iff, contains_flag hi, contains_flag hi, mem_set_flag_of_ne hij]

/-- A bit is missing from `g` when it is in `f` but not in `g`. -/
theorem contains_difference_flag (hi : i < w) :
    (f.difference g).contains (flag i) = (f.contains (flag i) && !g.contains (flag i)) := by
  rw [Bool.eq_iff_iff, contains_flag hi, mem_difference, Bool.and_eq_true, contains_flag hi,
    Bool.not_eq_true', ← Bool.not_eq_true, contains_flag hi]

end FlagSet
