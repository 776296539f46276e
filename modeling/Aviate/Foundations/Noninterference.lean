import Aviate.Foundations.Machine

/-!
# Noninterference by unwinding

An observer sees some operations of a machine and something of what they return. An
`Unwinding` names the part of the state that decides what the observer sees (`view`)
and says what one step does to it: an operation the observer does not see keeps the
view, and an operation it does see gives, on equal views, equal observations and equal
views.

Results:
1. A run and the run of its visible operations alone are observed alike
   (`observed_purge`).
2. Two runs with the same visible operations are observed alike
   (`Unwinding.noninterference`).
-/

namespace Machine

variable {σ ι ο V O : Type*} {m : Machine σ ι ο}

/-- What one observer sees of `m`, and the step conditions that make it independent of
the rest. -/
structure Unwinding (m : Machine σ ι ο) (V O : Type*) where
  Inv : σ → Prop
  view : σ → V
  visible : ι → Bool
  shown : ο → O
  inv_step : ∀ s op, Inv s → Inv (m.step s op).1
  silent : ∀ s op, Inv s → visible op = false → view (m.step s op).1 = view s
  seen : ∀ s t op, Inv s → Inv t → view s = view t → visible op = true →
    view (m.step s op).1 = view (m.step t op).1 ∧ shown (m.step s op).2 = shown (m.step t op).2

namespace Unwinding

variable (u : m.Unwinding V O) {s t : σ} {ops ops₁ ops₂ : List ι}

/-- What the observer sees of a list of events. -/
def observed (events : List (Event σ ι ο)) : List O :=
  (events.filter fun e => u.visible e.op).map fun e => u.shown e.out

/-- A run is observed as the run of its visible operations alone. -/
theorem observed_purge (hs : u.Inv s) (ht : u.Inv t) (hview : u.view s = u.view t) :
    u.observed (m.trace s ops) = u.observed (m.trace t (ops.filter u.visible)) := by
  induction ops generalizing s t with
  | nil => rfl
  | cons op ops ih =>
    cases hop : u.visible op with
    | false =>
      have hkeep := u.silent s op hs hop
      rw [List.filter_cons_of_neg (by simp [hop]), trace_cons, observed,
        List.filter_cons_of_neg (by simp [event, hop])]
      exact ih (u.inv_step s op hs) ht (hkeep.trans hview)
    | true =>
      obtain ⟨hnext, hout⟩ := u.seen s t op hs ht hview hop
      rw [List.filter_cons_of_pos hop, trace_cons, trace_cons, observed, observed,
        List.filter_cons_of_pos (by simpa [event] using hop),
        List.filter_cons_of_pos (by simpa [event] using hop), List.map_cons, List.map_cons]
      exact congrArg₂ List.cons hout (ih (u.inv_step s op hs) (u.inv_step t op ht) hnext)

/-- Runs with the same visible operations are observed alike. -/
theorem noninterference (hs : u.Inv s) (hops : ops₁.filter u.visible = ops₂.filter u.visible) :
    u.observed (m.trace s ops₁) = u.observed (m.trace s ops₂) := by
  rw [u.observed_purge hs hs rfl, hops]
  exact (u.observed_purge hs hs rfl).symm

end Unwinding

end Machine
