import Mathlib.Data.List.Basic

/-!
# Free-running register files

A sensor that publishes samples into its registers while a bus master reads them. Between two
transactions it may publish any number of samples; within one transaction the registers stand
still. What a master that makes several transactions sees is one sample for each of them.

Results:
1. The sample of a later transaction, before and after an earlier one (`sampleAt_advance`).
2. It is the sample before, or one that was published since (`sampleAt_mem`), and while nothing is
   published it stays (`sampleAt_succ_of_quiet`).
-/

namespace RegisterFile

universe u

variable {S : Type u}

/-- What happens before a transaction, and whether the transaction fails. -/
structure Turn (S : Type u) where
  published : List S
  fails : Bool

/-- The current sample, and what is to come, one turn for each transaction. -/
structure Bus (S : Type u) where
  sample : S
  turns : List (Turn S)

namespace Bus

variable (bus : Bus S) (k : Nat)

/-- The sample in the registers after `k` turns. -/
def sampleAt : S := ((bus.turns.take k).flatMap Turn.published).getLastD bus.sample

/-- Whether transaction `k` fails; one that the turns do not name succeeds. -/
def failsAt : Bool := bus.turns[k]?.any Turn.fails

/-- The samples published right before transaction `k`. -/
def publishedAt : List S := (bus.turns[k]?.map Turn.published).getD []

/-- Every sample that is in the registers during the first `k` transactions, the oldest first. -/
def visible : List S := bus.sample :: (bus.turns.take k).flatMap Turn.published

/-- The file at the next transaction. -/
def advance : Bus S := { sample := bus.sampleAt 1, turns := bus.turns.tail }

variable {bus : Bus S} {k : Nat}

@[simp] theorem sampleAt_zero : bus.sampleAt 0 = bus.sample := rfl

theorem getLastD_append (xs ys : List S) (last : S) :
    (xs ++ ys).getLastD last = ys.getLastD (xs.getLastD last) := by
  induction xs generalizing last with
  | nil => rfl
  | cons x xs ih => rw [List.cons_append, List.getLastD_cons, List.getLastD_cons, ih]

theorem sampleAt_succ : bus.sampleAt (k + 1) = (bus.publishedAt k).getLastD (bus.sampleAt k) := by
  unfold sampleAt publishedAt
  rw [List.take_add_one, List.flatMap_append, getLastD_append]
  cases bus.turns[k]? with
  | none => rfl
  | some turn => simp only [Option.toList_some, List.flatMap_singleton, Option.map_some,
      Option.getD_some]

theorem sampleAt_succ_of_quiet (h : bus.publishedAt k = []) :
    bus.sampleAt (k + 1) = bus.sampleAt k := by
  rw [sampleAt_succ, h, List.getLastD_nil]

@[simp] theorem publishedAt_advance : bus.advance.publishedAt k = bus.publishedAt (k + 1) := by
  simp [advance, publishedAt]

@[simp] theorem failsAt_advance : bus.advance.failsAt k = bus.failsAt (k + 1) := by
  simp [advance, failsAt]

@[simp] theorem sampleAt_advance : bus.advance.sampleAt k = bus.sampleAt (k + 1) := by
  induction k with
  | zero => rfl
  | succ k ih => rw [sampleAt_succ, sampleAt_succ, publishedAt_advance, ih]

/-- The sample of a transaction is one of the visible ones. -/
theorem sampleAt_mem {n : Nat} (h : k ≤ n) : bus.sampleAt k ∈ bus.visible n := by
  have hsub : (bus.turns.take k).flatMap Turn.published ⊆
      (bus.turns.take n).flatMap Turn.published := by
    intro s hs
    obtain ⟨turn, hturn, hmem⟩ := List.mem_flatMap.1 hs
    exact List.mem_flatMap.2 ⟨turn, List.take_subset_take_left _ h hturn, hmem⟩
  rcases List.mem_cons.1 (List.getLastD_mem_cons :
      bus.sampleAt k ∈ bus.sample :: (bus.turns.take k).flatMap Turn.published) with hfirst | hlater
  · exact List.mem_cons.2 (.inl hfirst)
  · exact List.mem_cons_of_mem _ (hsub hlater)

end Bus

end RegisterFile
