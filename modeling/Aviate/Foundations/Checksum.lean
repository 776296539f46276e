import Mathlib.Logic.ExistsUnique
import Mathlib.Logic.Function.Basic
import Mathlib.Data.List.Basic

/-!
# Folded checksums

A checksum that takes one symbol at a time, `s ↦ update s x`. When one update can be undone on
either argument, a corrupted symbol changes the state and every later update keeps the two states
apart. Hence the folded checksum detects every corruption of a single symbol, at any position and
under any suffix.

Results: `foldl_injective`, `foldl_ne`, `detects`.
-/

namespace Checksum

universe u v

variable {σ : Type u} {α : Type v} {update : σ → α → σ}

/-- One update determines each argument from the result and the other. -/
structure Cancels (update : σ → α → σ) : Prop where
  symbol : ∀ s, Function.Injective (update s)
  state : ∀ x, Function.Injective fun s => update s x

/-- A whole suffix determines the state it starts from. -/
theorem foldl_injective (hc : Cancels update) (suffix : List α) :
    Function.Injective fun s => suffix.foldl update s := by
  induction suffix with
  | nil => exact Function.injective_id
  | cons x suffix ih =>
    intro s t h
    exact hc.state x (ih h)

theorem foldl_ne (hc : Cancels update) (s : σ) (before after : List α) {x y : α} (hne : x ≠ y) :
    (before ++ x :: after).foldl update s ≠ (before ++ y :: after).foldl update s := by
  intro h
  rw [List.foldl_append, List.foldl_append] at h
  exact hne (hc.symbol _ (foldl_injective hc after h))

/-- Two words that differ in one place are one word with that symbol replaced. -/
theorem split_at_difference {xs ys : List α} (hlen : xs.length = ys.length)
    (hdiff : ∃! i : Nat, xs[i]? ≠ ys[i]?) :
    ∃ before x y after, xs = before ++ x :: after ∧ ys = before ++ y :: after ∧ x ≠ y := by
  obtain ⟨i, hi, honly⟩ := hdiff
  have hsame : ∀ j, j ≠ i → xs[j]? = ys[j]? := by
    intro j hj
    by_contra h
    exact hj (honly j h)
  have hx : i < xs.length := by
    by_contra h
    have hle : xs.length ≤ i := Nat.le_of_not_lt h
    exact hi (by rw [List.getElem?_eq_none hle, List.getElem?_eq_none (hlen ▸ hle)])
  have hy : i < ys.length := hlen ▸ hx
  have hbefore : xs.take i = ys.take i := by
    apply List.ext_getElem?
    intro j
    rw [List.getElem?_take, List.getElem?_take]
    split
    · exact hsame j (by omega)
    · rfl
  have hafter : xs.drop (i + 1) = ys.drop (i + 1) := by
    apply List.ext_getElem?
    intro j
    rw [List.getElem?_drop, List.getElem?_drop]
    exact hsame _ (by omega)
  refine ⟨xs.take i, xs[i], ys[i], xs.drop (i + 1), ?_, ?_, ?_⟩
  · rw [← List.drop_eq_getElem_cons hx, List.take_append_drop]
  · rw [hbefore, hafter, ← List.drop_eq_getElem_cons hy, List.take_append_drop]
  · intro h
    exact hi (by rw [List.getElem?_eq_getElem hx, List.getElem?_eq_getElem hy, h])

/-- Words of one length that differ in exactly one place have different checksums. -/
theorem detects (hc : Cancels update) (s : σ) {xs ys : List α} (hlen : xs.length = ys.length)
    (hdiff : ∃! i : Nat, xs[i]? ≠ ys[i]?) : xs.foldl update s ≠ ys.foldl update s := by
  obtain ⟨before, x, y, after, rfl, rfl, hne⟩ := split_at_difference hlen hdiff
  exact foldl_ne hc s before after hne

end Checksum
