import Mathlib.Logic.Function.Basic
import Mathlib.Data.List.Basic

/-!
# Advisory file locks

A lock on a file is held exclusively by one party or shared by several. A party asks without
waiting: an exclusive lock is granted when nobody holds the file, a shared one when nobody
holds it exclusively. Closing the file releases what the party holds.

Results:
1. An exclusive lock is granted only while nobody holds one, and then to the party that asked
   (`tryExclusive_eq_some`).
2. A shared lock is refused exactly while somebody holds an exclusive one
   (`tryShared_eq_none_iff`).
3. What one party does leaves alone which other party holds the lock exclusively
   (`exclusive_tryExclusive_other`, `exclusive_tryShared`, `exclusive_release_other`).
-/

/-- A file's lock: an exclusive holder excludes shared ones. -/
structure FileLock (α : Type*) where
  exclusive : Option α
  shared : List α
  compatible : exclusive.isSome = true → shared = []

namespace FileLock

variable {α : Type*}

/-- Nobody holds the file. -/
def free : FileLock α := ⟨none, [], fun _ => rfl⟩

/-- Ask for the exclusive lock. -/
def tryExclusive (l : FileLock α) (a : α) : Option (FileLock α) :=
  if l.exclusive.isNone && l.shared.isEmpty then some ⟨some a, [], fun _ => rfl⟩ else none

/-- Ask for a shared lock. -/
def tryShared (l : FileLock α) (a : α) : Option (FileLock α) :=
  if h : l.exclusive = none then some ⟨none, a :: l.shared, by simp⟩ else none

variable [DecidableEq α]

/-- Give up what the party holds. -/
def release (l : FileLock α) (a : α) : FileLock α where
  exclusive := if l.exclusive = some a then none else l.exclusive
  shared := l.shared.filter (· ≠ a)
  compatible h := by
    split at h
    · cases h
    · rw [l.compatible h, List.filter_nil]

variable {l l' : FileLock α} {a b : α}

omit [DecidableEq α] in
@[simp] theorem exclusive_free : (free : FileLock α).exclusive = none := rfl

omit [DecidableEq α] in
/-- A grant of the exclusive lock. -/
theorem tryExclusive_eq_some (h : l.tryExclusive a = some l') :
    l.exclusive = none ∧ l'.exclusive = some a := by
  unfold tryExclusive at h
  split at h
  · next hfree =>
    cases h
    rw [Bool.and_eq_true, Option.isNone_iff_eq_none] at hfree
    exact ⟨hfree.1, rfl⟩
  · cases h

omit [DecidableEq α] in
/-- A grant of a shared lock leaves the exclusive holder, who is nobody. -/
theorem exclusive_tryShared (h : l.tryShared a = some l') : l'.exclusive = l.exclusive := by
  unfold tryShared at h
  split at h
  · next hfree =>
    cases h
    exact hfree.symm
  · cases h

omit [DecidableEq α] in
/-- A shared lock is refused exactly while somebody holds an exclusive one. -/
theorem tryShared_eq_none_iff : l.tryShared a = none ↔ ∃ b, l.exclusive = some b := by
  unfold tryShared
  rw [← Option.isSome_iff_exists]
  cases l.exclusive <;> simp

omit [DecidableEq α] in
theorem exclusive_tryExclusive_other (h : l.tryExclusive a = some l') (hne : b ≠ a) :
    l'.exclusive = some b ↔ l.exclusive = some b := by
  obtain ⟨hbefore, hafter⟩ := tryExclusive_eq_some h
  rw [hbefore, hafter, Option.some.injEq]
  exact iff_of_false (fun hb => hne hb.symm) nofun

theorem exclusive_release_self : (l.release a).exclusive ≠ some a := by
  unfold release
  dsimp only
  split
  · exact nofun
  · next h => exact h

theorem exclusive_release_other (hne : b ≠ a) :
    (l.release a).exclusive = some b ↔ l.exclusive = some b := by
  unfold release
  dsimp only
  split
  · next h =>
    rw [h, Option.some.injEq]
    exact iff_of_false nofun fun hb => hne hb.symm
  · exact Iff.rfl

/-- A release hands the lock to nobody. -/
theorem exclusive_of_release (h : (l.release a).exclusive = some b) : l.exclusive = some b := by
  unfold release at h
  dsimp only at h
  split at h
  · cases h
  · exact h

end FileLock
