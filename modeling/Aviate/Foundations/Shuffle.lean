import Mathlib.Data.List.Basic

/-!
# Shuffles and marked selections

A `shuffle` swaps the element at each place, from the last down to the second, with the element
at some target. A `mark` sets the flags at given places.

Results:
1. A shuffle rearranges, whatever the targets are (`shuffle_perm`).
2. Marking distinct places of unset flags sets exactly as many (`count_mark`).
3. Hence the first `count` places of a shuffled range mark exactly `count` flags
   (`count_mark_shuffle`).
-/

namespace Shuffle

variable {α : Type*}

/-- Swap places `cursor`, `cursor - 1`, …, 1 with their targets. A target out of range swaps
nothing. -/
def shuffle (target : ℕ → ℕ) : ℕ → Array α → Array α
  | 0, xs => xs
  | cursor + 1, xs =>
    shuffle target cursor (xs.swapIfInBounds (cursor + 1) (target (cursor + 1)))

/-- Set the flags at the given places. -/
def mark (flags : List Bool) (places : List ℕ) : List Bool :=
  places.foldl (fun flags place => flags.set place true) flags

variable {target : ℕ → ℕ} {cursor : ℕ} {xs : Array α} {flags : List Bool} {places : List ℕ}

/-! ## Shuffles -/

theorem swapIfInBounds_perm (i j : ℕ) : (xs.swapIfInBounds i j).Perm xs := by
  rw [Array.swapIfInBounds_def]
  split
  · split
    · exact Array.swap_perm _ _
    · exact .refl _
  · exact .refl _

theorem shuffle_perm : (shuffle target cursor xs).Perm xs := by
  induction cursor generalizing xs with
  | zero => exact .refl _
  | succ cursor ih => exact ih.trans (swapIfInBounds_perm _ _)

/-! ## Marks -/

@[simp] theorem length_mark : (mark flags places).length = flags.length := by
  induction places generalizing flags with
  | nil => rfl
  | cons place places ih =>
    have hrest : (mark (flags.set place true) places).length = _ := ih
    rwa [List.length_set] at hrest

/-- Distinct places whose flags are unset. -/
theorem count_mark (hnodup : places.Nodup) (hunset : ∀ place ∈ places, flags[place]? = some false) :
    (mark flags places).count true = flags.count true + places.length := by
  induction places generalizing flags with
  | nil => rfl
  | cons place places ih =>
    rw [List.nodup_cons] at hnodup
    rw [List.forall_mem_cons] at hunset
    obtain ⟨hlt, hflag⟩ := List.getElem?_eq_some_iff.mp hunset.1
    have hrest : ∀ other ∈ places, (flags.set place true)[other]? = some false := by
      intro other hother
      have hne : place ≠ other := fun h => hnodup.1 (h ▸ hother)
      rw [List.getElem?_set_ne hne]
      exact hunset.2 other hother
    have hset : (flags.set place true).count true = flags.count true + 1 := by
      rw [List.count_set hlt, hflag]
      simp
    calc (mark (flags.set place true) places).count true
        = (flags.set place true).count true + places.length := ih hnodup.2 hrest
      _ = flags.count true + (places.length + 1) := by rw [hset]; omega

/-- The first places of a shuffled range are distinct places of the range. -/
theorem count_mark_shuffle {size count : ℕ} (hcount : count ≤ size) :
    (mark (List.replicate size false)
      ((shuffle target cursor (Array.range size)).toList.take count)).count true = count := by
  have hperm : (shuffle target cursor (Array.range size)).toList.Perm (List.range size) := by
    have h : (shuffle target cursor (Array.range size)).Perm (Array.range size) := shuffle_perm
    rwa [Array.perm_iff_toList_perm, Array.toList_range] at h
  have hnodup := hperm.nodup_iff.mpr List.nodup_range
  have hunset : ∀ place ∈ (shuffle target cursor (Array.range size)).toList.take count,
      (List.replicate size false)[place]? = some false := by
    intro place hplace
    have hmem := hperm.mem_iff.mp (List.mem_of_mem_take hplace)
    exact List.getElem?_replicate_of_lt (List.mem_range.mp hmem)
  rw [count_mark (hnodup.sublist (List.take_sublist _ _)) hunset, List.length_take,
    hperm.length_eq, List.length_range, Nat.min_eq_left hcount]
  simp [List.count_replicate]

end Shuffle
