import Mathlib.Data.List.Basic

/-!
# Validation

A validator runs checks in order and stops at the first that refuses; some of them build a value
on the way. It accepts exactly when every check does.

Results:
1. What a check, a sequence of checks and a loop of checks accept (`refuse_eq_ok`,
   `andThen_eq_ok`, `bind_eq_ok`, `forM_eq_ok`).
2. What every pass of a loop that rebuilds a value keeps, the loop keeps (`foldlM_invariant`).
-/

namespace Validation

variable {ε ε' α β : Type}

/-- Refuse with `e` when `bad` holds. -/
def refuse (bad : Bool) (e : ε) : Except ε Unit := if bad then .error e else .ok ()

@[simp] theorem refuse_eq_ok {bad : Bool} {e : ε} : refuse bad e = .ok () ↔ bad = false := by
  cases bad with
  | false => exact ⟨fun _ => rfl, fun _ => rfl⟩
  | true => exact ⟨nofun, nofun⟩

theorem bind_eq_ok {x : Except ε α} {f : α → Except ε β} {b : β} :
    x >>= f = .ok b ↔ ∃ a, x = .ok a ∧ f a = .ok b := by
  cases x with
  | error e => exact ⟨nofun, nofun⟩
  | ok a =>
    constructor
    · intro h
      exact ⟨a, rfl, h⟩
    · rintro ⟨_, ⟨⟩, h⟩
      exact h

/-- A check followed by the rest. -/
@[simp] theorem andThen_eq_ok {x : Except ε Unit} {y : Except ε β} {b : β} :
    (x >>= fun _ => y) = .ok b ↔ x = .ok () ∧ y = .ok b := by
  rw [bind_eq_ok]
  exact ⟨fun ⟨_, h⟩ => h, fun h => ⟨(), h⟩⟩

@[simp] theorem mapError_eq_ok {x : Except ε α} {f : ε → ε'} {a : α} :
    x.mapError f = .ok a ↔ x = .ok a := by
  cases x with
  | error e => exact ⟨nofun, nofun⟩
  | ok b => simp [Except.mapError]

/-- A loop of checks. -/
@[simp] theorem forM_eq_ok {f : α → Except ε Unit} {xs : List α} :
    forM xs f = .ok () ↔ ∀ x ∈ xs, f x = .ok () := by
  induction xs with
  | nil => exact ⟨fun _ _ h => absurd h List.not_mem_nil, fun _ => rfl⟩
  | cons x xs ih =>
    rw [List.forall_mem_cons, ← ih]
    exact andThen_eq_ok

/-- A loop that rebuilds a value keeps what each of its passes keeps. -/
theorem foldlM_invariant {f : β → α → Except ε β} {P : β → Prop} {xs : List α} {b b' : β}
    (hstep : ∀ {x b b'}, x ∈ xs → P b → f b x = .ok b' → P b') (hb : P b)
    (h : xs.foldlM f b = .ok b') : P b' := by
  induction xs generalizing b with
  | nil =>
    cases h
    exact hb
  | cons x xs ih =>
    rw [List.foldlM_cons] at h
    obtain ⟨c, hc, h⟩ := bind_eq_ok.mp h
    exact ih (fun hmem => hstep (List.mem_cons_of_mem _ hmem)) (hstep List.mem_cons_self hb hc) h

end Validation
