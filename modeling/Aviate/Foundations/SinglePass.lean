import Mathlib.Algebra.Order.Group.Defs
import Mathlib.Data.List.Forall2
import Mathlib.Data.List.Induction
import Mathlib.Data.List.NodupEquivFin
import Mathlib.Order.Fin.Basic

/-!
# What single-pass folds over a list decide

Three folds that read a list once, from left to right, and the statement about the whole list each
of them decides.

Results:
1. `longestRun`: the longest span of time that a contiguous run of accepted elements covers.
   `longestRun_iff`: it reaches a length exactly when some run does, for times that do not
   decrease.
2. `matchInOrder`: match goals in order against the elements, each with the first element that
   fits. `matchInOrder_eq_nil_iff`: the greedy choice matches all of them exactly when any choice
   of strictly later and later elements does.
3. `takeWhile_eq_filter`: a limit on times that do not decrease cuts off a tail.
-/

variable {α β K : Type*}

/-! ## The longest run -/

section LongestRun

/-- The elements from index `i` to the end are all accepted. -/
def AcceptedFrom (accept : α → Bool) (xs : List α) (i : Nat) : Prop :=
  ∀ k x, i ≤ k → xs[k]? = some x → accept x = true

/-- Some run of accepted elements has a first and a last element whose times differ by a span
that meets `P`. -/
def RunSpans [Sub K] (accept : α → Bool) (time : α → K) (P : K → Prop) (xs : List α) :
    Prop :=
  ∃ (i j : Nat) (first last : α), i ≤ j ∧ xs[i]? = some first ∧ xs[j]? = some last ∧
    (∀ k x, i ≤ k → k ≤ j → xs[k]? = some x → accept x = true) ∧ P (time last - time first)

variable {accept : α → Bool} {time : α → K} {P : K → Prop} {xs : List α} {x : α}

theorem getElem?_concat_of_some {k : Nat} {y : α} (h : xs[k]? = some y) :
    (xs ++ [x])[k]? = some y := by
  obtain ⟨hk, -⟩ := List.getElem?_eq_some_iff.mp h
  rw [List.getElem?_append_left hk, h]

theorem le_length_of_getElem?_concat {k : Nat} {y : α} (h : (xs ++ [x])[k]? = some y) :
    k ≤ xs.length := by
  obtain ⟨hk, -⟩ := List.getElem?_eq_some_iff.mp h
  rw [List.length_append, List.length_singleton] at hk
  exact Nat.lt_succ_iff.mp hk

theorem acceptedFrom_concat {i : Nat} :
    AcceptedFrom accept (xs ++ [x]) i ↔
      AcceptedFrom accept xs i ∧ (i ≤ xs.length → accept x = true) := by
  constructor
  · intro h
    refine ⟨fun k y hk hy => h k y hk (getElem?_concat_of_some hy), fun hi => ?_⟩
    exact h xs.length x hi (by simp)
  · rintro ⟨hxs, hx⟩ k y hk hy
    rcases (le_length_of_getElem?_concat hy).lt_or_eq with hlt | rfl
    · exact hxs k y hk (by rwa [List.getElem?_append_left hlt] at hy)
    · rw [List.getElem?_concat_length, Option.some.injEq] at hy
      exact hy ▸ hx hk

/-- A run of the longer list is one of the shorter, or ends at the new element. -/
theorem runSpans_concat [Sub K] :
    RunSpans accept time P (xs ++ [x]) ↔ RunSpans accept time P xs ∨
      ∃ i first, (xs ++ [x])[i]? = some first ∧ AcceptedFrom accept (xs ++ [x]) i ∧
        P (time x - time first) := by
  constructor
  · rintro ⟨i, j, first, last, hij, hfirst, hlast, haccept, hP⟩
    rcases (le_length_of_getElem?_concat hlast).lt_or_eq with hlt | rfl
    · refine .inl ⟨i, j, first, last, hij, ?_, ?_, fun k y hik hkj hy => ?_, hP⟩
      · rwa [List.getElem?_append_left (hij.trans_lt hlt)] at hfirst
      · rwa [List.getElem?_append_left hlt] at hlast
      · exact haccept k y hik hkj (getElem?_concat_of_some hy)
    · rw [List.getElem?_concat_length, Option.some.injEq] at hlast
      subst hlast
      exact .inr ⟨i, first, hfirst,
        fun k y hik hy => haccept k y hik (le_length_of_getElem?_concat hy) hy, hP⟩
  · rintro (⟨i, j, first, last, hij, hfirst, hlast, haccept, hP⟩ |
      ⟨i, first, hfirst, haccept, hP⟩)
    · obtain ⟨hj, -⟩ := List.getElem?_eq_some_iff.mp hlast
      refine ⟨i, j, first, last, hij, getElem?_concat_of_some hfirst,
        getElem?_concat_of_some hlast, fun k y hik hkj hy => haccept k y hik hkj ?_, hP⟩
      rwa [List.getElem?_append_left (hkj.trans_lt hj)] at hy
    · exact ⟨i, xs.length, first, x, le_length_of_getElem?_concat hfirst, hfirst, by simp,
        fun k y hik _ hy => haccept k y hik hy, hP⟩

/-- What the fold keeps about the current run: its start is the time of an element from which on
all are accepted, and no such element is earlier. -/
structure CurrentRun [LE K] (accept : α → Bool) (time : α → K) (xs : List α) (start : Option K) :
    Prop where
  started : ∀ s, start = some s → ∃ i first, xs[i]? = some first ∧ time first = s ∧
    AcceptedFrom accept xs i
  earliest : ∀ i first, xs[i]? = some first → AcceptedFrom accept xs i →
    ∃ s, start = some s ∧ s ≤ time first

theorem CurrentRun.concat [Preorder K] {start : Option K} (h : CurrentRun accept time xs start)
    (hlast : ∀ y ∈ xs, time y ≤ time x) :
    CurrentRun accept time (xs ++ [x])
      (if accept x then some (start.getD (time x)) else none) := by
  by_cases hx : accept x = true
  · rw [if_pos hx]
    refine ⟨fun s hs => ?_, fun i first hfirst haccept => ⟨_, rfl, ?_⟩⟩
    · rw [Option.some.injEq] at hs
      cases start with
      | none =>
        refine ⟨xs.length, x, by simp, hs, ?_⟩
        refine acceptedFrom_concat.mpr ⟨fun k y hk hy => ?_, fun _ => hx⟩
        exact absurd (List.getElem?_eq_some_iff.mp hy).1 (Nat.not_lt.mpr hk)
      | some s₀ =>
        obtain ⟨i, first, hfirst, htime, haccept⟩ := h.started s₀ rfl
        refine ⟨i, first, getElem?_concat_of_some hfirst, htime.trans hs, ?_⟩
        exact acceptedFrom_concat.mpr ⟨haccept, fun _ => hx⟩
    · rcases (le_length_of_getElem?_concat hfirst).lt_or_eq with hlt | rfl
      · rw [List.getElem?_append_left hlt] at hfirst
        obtain ⟨s, rfl, hs⟩ := h.earliest i first hfirst (acceptedFrom_concat.mp haccept).1
        exact hs
      · rw [List.getElem?_concat_length, Option.some.injEq] at hfirst
        subst hfirst
        cases start with
        | none => exact le_rfl
        | some s₀ =>
          obtain ⟨i, first, hfirst, rfl, -⟩ := h.started s₀ rfl
          exact hlast first (List.mem_of_getElem? hfirst)
  · rw [if_neg hx]
    refine ⟨nofun, fun i first hfirst haccept => absurd ?_ hx⟩
    exact (acceptedFrom_concat.mp haccept).2 (le_length_of_getElem?_concat hfirst)

variable [AddCommGroup K] [LinearOrder K]

/-- The best span so far and the start of the current run, after one more element. -/
def longestRunStep (accept : α → Bool) (time : α → K) : K × Option K → α → K × Option K
  | (best, start), x =>
    if accept x then (max best (time x - start.getD (time x)), some (start.getD (time x)))
    else (best, none)

/-- The longest span of a run of accepted elements, at least 0, and the start of the last run. -/
def longestRun (accept : α → Bool) (time : α → K) (xs : List α) : K × Option K :=
  xs.foldl (longestRunStep accept time) (0, none)

theorem longestRun_concat :
    longestRun accept time (xs ++ [x]) =
      longestRunStep accept time (longestRun accept time xs) x := by
  rw [longestRun, List.foldl_append]
  rfl

variable [IsOrderedAddMonoid K]

theorem longestRun_spec (hP : ∀ a b, a ≤ b → P a → P b)
    (htime : xs.Pairwise fun a b => time a ≤ time b) :
    CurrentRun accept time xs (longestRun accept time xs).2 ∧
      (P (longestRun accept time xs).1 ↔ P 0 ∨ RunSpans accept time P xs) := by
  induction xs using List.reverseRecOn with
  | nil =>
    refine ⟨⟨nofun, fun i first h => by simp at h⟩, ?_⟩
    have hnone : ¬ RunSpans accept time P ([] : List α) := by
      rintro ⟨i, j, first, last, -, h, -⟩
      simp at h
    simp [longestRun, hnone]
  | append_singleton xs x ih =>
    rw [List.pairwise_append] at htime
    obtain ⟨hxs, -, hlast⟩ := htime
    have hlast' : ∀ y ∈ xs, time y ≤ time x := fun y hy => hlast y hy x (by simp)
    obtain ⟨hrun, hbest⟩ := ih hxs
    have hnext := hrun.concat hlast'
    rw [longestRun_concat, longestRunStep]
    by_cases hx : accept x = true
    · rw [if_pos hx] at hnext ⊢
      refine ⟨hnext, ?_⟩
      dsimp only
      -- The best span is now the old one or the one from the start of the current run.
      have hmax : ∀ a b, P (max a b) ↔ P a ∨ P b := by
        intro a b
        refine ⟨fun h => ?_, ?_⟩
        · rcases max_choice a b with hab | hab
          · exact .inl (hab ▸ h)
          · exact .inr (hab ▸ h)
        · rintro (h | h)
          · exact hP _ _ (le_max_left a b) h
          · exact hP _ _ (le_max_right a b) h
      rw [hmax, hbest, runSpans_concat, or_assoc]
      refine or_congr_right (or_congr_right ⟨fun h => ?_, ?_⟩)
      · obtain ⟨i, first, hfirst, hstart, haccept⟩ := hnext.started _ rfl
        exact ⟨i, first, hfirst, haccept, hstart ▸ h⟩
      · rintro ⟨i, first, hfirst, haccept, h⟩
        obtain ⟨s, hs, hle⟩ := hnext.earliest i first hfirst haccept
        rw [Option.some.injEq] at hs
        exact hP _ _ (sub_le_sub_left (hs ▸ hle) _) h
    · rw [if_neg hx] at hnext ⊢
      refine ⟨hnext, ?_⟩
      rw [hbest, runSpans_concat]
      refine or_congr_right (or_iff_left ?_).symm
      rintro ⟨i, first, hfirst, haccept, -⟩
      obtain ⟨s, hs, -⟩ := hnext.earliest i first hfirst haccept
      cases hs

/-- The longest run meets an upward closed condition exactly when 0 or the span of some run
does. -/
theorem longestRun_iff (hP : ∀ a b, a ≤ b → P a → P b)
    (htime : xs.Pairwise fun a b => time a ≤ time b) :
    P (longestRun accept time xs).1 ↔ P 0 ∨ RunSpans accept time P xs :=
  (longestRun_spec hP htime).2

end LongestRun

/-! ## Matching in order -/

section MatchInOrder

variable {near : α → β → Bool} {xs : List α} {goals : List β}

/-- The goals that stay unmatched when each is matched with the first element that fits. -/
def matchInOrder (near : α → β → Bool) : List α → List β → List β
  | _, [] => []
  | [], goals => goals
  | x :: xs, goal :: goals =>
    if near x goal then matchInOrder near xs goals else matchInOrder near xs (goal :: goals)

theorem matchInOrder_nil_right : matchInOrder near xs [] = [] := by
  cases xs <;> rfl

/-- The greedy match succeeds whenever some sublist fits the goals one by one. -/
theorem matchInOrder_eq_nil_of_sublist {ys : List α} (hsub : ys.Sublist xs)
    (hfit : List.Forall₂ (fun y goal => near y goal = true) ys goals) :
    matchInOrder near xs goals = [] := by
  induction xs generalizing ys goals with
  | nil =>
    cases List.sublist_nil.mp hsub
    cases hfit
    rfl
  | cons x xs ih =>
    cases hfit with
    | nil => rfl
    | cons hhead htail =>
      unfold matchInOrder
      split
      · -- An element that comes earlier takes the first goal; the others still fit the rest.
        exact ih (hsub.of_cons_cons) htail
      · next hx =>
        cases hsub with
        | cons _ hsub => exact ih hsub (.cons hhead htail)
        | cons_cons _ hsub => exact absurd hhead hx

theorem exists_sublist_of_matchInOrder (h : matchInOrder near xs goals = []) :
    ∃ ys, ys.Sublist xs ∧ List.Forall₂ (fun y goal => near y goal = true) ys goals := by
  induction xs generalizing goals with
  | nil =>
    cases goals with
    | nil => exact ⟨[], .slnil, .nil⟩
    | cons goal goals => cases h
  | cons x xs ih =>
    cases goals with
    | nil => exact ⟨[], List.nil_sublist _, .nil⟩
    | cons goal goals =>
      unfold matchInOrder at h
      split at h
      · next hx =>
        obtain ⟨ys, hsub, hfit⟩ := ih h
        exact ⟨x :: ys, hsub.cons_cons x, .cons hx hfit⟩
      · obtain ⟨ys, hsub, hfit⟩ := ih h
        exact ⟨ys, hsub.cons x, hfit⟩

/-- Goals visited in order: strictly increasing indices whose elements fit the goals. -/
def VisitsInOrder (fits : α → β → Prop) (xs : List α) (goals : List β) : Prop :=
  ∃ idx : Fin goals.length → Fin xs.length, StrictMono idx ∧
    ∀ k, fits (xs.get (idx k)) (goals.get k)

theorem visitsInOrder_iff_sublist {fits : α → β → Prop} :
    VisitsInOrder fits xs goals ↔ ∃ ys, ys.Sublist xs ∧ List.Forall₂ fits ys goals := by
  constructor
  · rintro ⟨idx, hmono, hfits⟩
    refine ⟨List.ofFn fun k => xs.get (idx k), ?_, ?_⟩
    · rw [List.sublist_iff_exists_fin_orderEmbedding_get_eq]
      refine ⟨OrderEmbedding.ofStrictMono (fun k => idx (Fin.cast (by simp) k)) ?_,
        fun k => ?_⟩
      · exact fun a b hab => hmono hab
      · simp
        rfl
    · rw [List.forall₂_iff_get]
      exact ⟨by simp, fun k h₁ h₂ => by simpa using hfits ⟨k, h₂⟩⟩
  · rintro ⟨ys, hsub, hfit⟩
    obtain ⟨f, hf⟩ := List.sublist_iff_exists_fin_orderEmbedding_get_eq.mp hsub
    obtain ⟨hlength, hget⟩ := List.forall₂_iff_get.mp hfit
    refine ⟨fun k => f (Fin.cast hlength.symm k), fun a b hab => f.strictMono hab, fun k => ?_⟩
    rw [← hf]
    exact hget k _ k.isLt

/-- The greedy match succeeds exactly when the goals can be visited in order. -/
theorem matchInOrder_eq_nil_iff :
    matchInOrder near xs goals = [] ↔
      VisitsInOrder (fun x goal => near x goal = true) xs goals := by
  rw [visitsInOrder_iff_sublist]
  exact ⟨exists_sublist_of_matchInOrder, fun ⟨_, hsub, hfit⟩ =>
    matchInOrder_eq_nil_of_sublist hsub hfit⟩

/-- Visits that all meet a limit are visits among the elements that meet it. -/
theorem visitsInOrder_filter {fits : α → β → Prop} {limit : α → Bool} :
    VisitsInOrder fits (xs.filter limit) goals ↔
      VisitsInOrder (fun x goal => limit x = true ∧ fits x goal) xs goals := by
  rw [visitsInOrder_iff_sublist, visitsInOrder_iff_sublist]
  constructor
  · rintro ⟨ys, hsub, hfit⟩
    refine ⟨ys, hsub.trans List.filter_sublist, ?_⟩
    rw [List.forall₂_and_left]
    exact ⟨fun y hy => List.of_mem_filter (hsub.subset hy), hfit⟩
  · rintro ⟨ys, hsub, hfit⟩
    rw [List.forall₂_and_left] at hfit
    refine ⟨ys, ?_, hfit.2⟩
    have hfilter := hsub.filter limit
    rwa [List.filter_eq_self.mpr hfit.1] at hfilter

end MatchInOrder

/-! ## Limits -/

/-- Where an element past the limit is followed only by such elements, cutting the list at the
first of them leaves exactly the elements within the limit. -/
theorem takeWhile_eq_filter {limit : α → Bool} {xs : List α}
    (h : xs.Pairwise fun a b => limit b = true → limit a = true) :
    xs.takeWhile limit = xs.filter limit := by
  induction xs with
  | nil => rfl
  | cons x xs ih =>
    rw [List.pairwise_cons] at h
    cases hx : limit x with
    | true => rw [List.takeWhile_cons_of_pos hx, List.filter_cons_of_pos hx, ih h.2]
    | false =>
      have hnone : xs.filter limit = [] := by
        rw [List.filter_eq_nil_iff]
        intro y hy hlimit
        rw [h.1 y hy hlimit] at hx
        cases hx
      rw [List.takeWhile_cons_of_neg (by simp [hx]), List.filter_cons_of_neg (by simp [hx]), hnone]
