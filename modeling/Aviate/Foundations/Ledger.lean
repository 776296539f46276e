import Mathlib.Order.Defs.LinearOrder
import Mathlib.Order.Nat
import Aviate.Foundations.Refinement

/-!
# Ledgers of accepted values

A `Ledger` keeps, for each key, the last value accepted under it. Its only move
accepts a value that is greater than the last one of its key. A `Session` is what is
left of a ledger's life when it ends: the mark it was seeded with, the mark it hands
on, and the values it accepted.

Results:
1. The values a path of the ledger accepts under one key are strictly increasing
   (`Ledger.accepted_increasing`).
2. In a chain of sessions, each seeded with the mark the one before handed on, no
   session accepts a value that lags an earlier accepted one by more than its age
   bound (`Session.chain_fresh`).
-/

/-- The last value accepted under each key. -/
def Ledger (κ γ : Type*) := κ → Option γ

namespace Ledger

variable {κ γ : Type*} [DecidableEq κ] [Preorder γ]

/-- The value `v` is newer than the last one of the key `k`. -/
def Newer (l : Ledger κ γ) (k : κ) (v : γ) : Prop := ∀ last, l k = some last → last < v

/-- Record `v` as the last value of `k`. -/
def record (l : Ledger κ γ) (k : κ) (v : γ) : Ledger κ γ := fun k' =>
  if k' = k then some v else l k'

/-- Accepting a newer value is the only move. -/
def system (κ γ : Type*) [DecidableEq κ] [Preorder γ] : TransitionSystem (Ledger κ γ) (κ × γ) where
  step l accepted l' := l.Newer accepted.1 accepted.2 ∧ l' = l.record accepted.1 accepted.2

variable {l l' : Ledger κ γ} {accepted : List (κ × γ)}

/-- Every value a path accepts is newer than what the ledger knew at its start. -/
theorem newer_of_path (hpath : (system κ γ).Path l accepted l') :
    ∀ x ∈ accepted, l.Newer x.1 x.2 := by
  induction hpath with
  | nil l => simp
  | @cons l mid l' x xs hstep hpath ih =>
    obtain ⟨hnew, rfl⟩ := hstep
    rw [List.forall_mem_cons]
    refine ⟨hnew, fun y hy last hlast => ?_⟩
    have hmid := ih y hy
    by_cases hk : y.1 = x.1
    · -- The head was accepted in between, under the same key.
      have hxy : x.2 < y.2 := hmid x.2 (by simp [record, hk])
      exact (hnew last (hk ▸ hlast)).trans hxy
    · exact hmid last (by simpa [record, hk] using hlast)

/-- The values accepted under one key are strictly increasing. -/
theorem accepted_increasing (hpath : (system κ γ).Path l accepted l') :
    accepted.Pairwise fun x y => x.1 = y.1 → x.2 < y.2 := by
  induction hpath with
  | nil l => exact .nil
  | @cons l mid l' x xs hstep hpath ih =>
    obtain ⟨-, rfl⟩ := hstep
    refine .cons (fun y hy hk => ?_) ih
    exact newer_of_path hpath y hy x.2 (by simp [record, hk])

end Ledger

/-! ## Chains of sessions -/

/-- One life of a ledger: the mark it starts from, how far below it a value may lag,
the values it accepts and the mark it hands on. -/
structure Session where
  seed : ℕ
  maxAge : ℕ
  accepted : List ℕ
  mark : ℕ

namespace Session

/-- The mark covers the seed and every accepted value, and no accepted value lags the
seed by more than the age bound. -/
structure Bounded (s : Session) : Prop where
  seed_le_mark : s.seed ≤ s.mark
  accepted_le_mark : ∀ v ∈ s.accepted, v ≤ s.mark
  seed_le_accepted : ∀ v ∈ s.accepted, s.seed ≤ v + s.maxAge

/-- In a chain of bounded sessions no accepted value lags an earlier session's by
more than the age bound of the session accepting it. -/
theorem chain_fresh {sessions : List Session} (hbounded : ∀ s ∈ sessions, s.Bounded)
    (hchain : sessions.IsChain fun s s' => s'.seed = s.mark) :
    sessions.Pairwise fun s s' => ∀ v ∈ s.accepted, ∀ v' ∈ s'.accepted, v ≤ v' + s'.maxAge := by
  -- The mark handed on is carried through every session in between.
  have hmark : sessions.Pairwise fun s s' => s.mark ≤ s'.seed := by
    induction sessions with
    | nil => exact .nil
    | cons s rest ih =>
      rw [List.forall_mem_cons] at hbounded
      have hrest := ih hbounded.2 (List.isChain_of_isChain_cons hchain)
      refine .cons (fun s' hs' => ?_) hrest
      cases rest with
      | nil => simp at hs'
      | cons next rest =>
        have hnext : next.seed = s.mark := (List.isChain_cons_cons.mp hchain).1
        rcases List.mem_cons.mp hs' with rfl | hs'
        · exact hnext.ge
        · have hseed := (hbounded.2 next (List.mem_cons_self ..)).seed_le_mark
          have hlater := (List.pairwise_cons.mp hrest).1 s' hs'
          omega
  refine hmark.imp_of_mem fun {s s'} hs hs' hle v hv v' hv' => ?_
  have hv := (hbounded s hs).accepted_le_mark v hv
  have hv' := (hbounded s' hs').seed_le_accepted v' hv'
  omega

end Session
