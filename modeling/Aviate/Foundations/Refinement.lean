import Aviate.Foundations.Machine

/-!
# Transition systems and refinement by paths

An abstract model is a `TransitionSystem`: states related by labelled moves. A
machine refines it when each of its steps is matched by a path of moves that the
executed operation is allowed to make; the path may be empty.

Results:
1. What every move of a path preserves, the path preserves (`Path.invariant`).
2. A step of the machine preserves what the moves of its operation preserve
   (`Refinement.step_invariant`), and a run preserves what the moves of its
   operations preserve (`Refinement.run_invariant`).
3. The state after a run is reached by a path of the abstract model
   (`Refinement.run_path`).
4. When every event determines its moves, the moves of a whole run are those of its
   events, in order (`Labelling.run_path`).
-/

/-- States of `α` related by moves of `μ`. -/
structure TransitionSystem (α μ : Type*) where
  step : α → μ → α → Prop

namespace TransitionSystem

variable {α μ : Type*}

/-- A path of the system with its moves, in order. -/
inductive Path (sys : TransitionSystem α μ) : α → List μ → α → Prop
  | nil (a : α) : Path sys a [] a
  | cons {a b c : α} {x : μ} {xs : List μ} (hstep : sys.step a x b) (hpath : Path sys b xs c) :
      Path sys a (x :: xs) c

variable {sys : TransitionSystem α μ} {a b c : α} {x : μ} {xs ys : List μ}

namespace Path

theorem single (hstep : sys.step a x b) : sys.Path a [x] b := .cons hstep (.nil b)

theorem append (hab : sys.Path a xs b) (hbc : sys.Path b ys c) : sys.Path a (xs ++ ys) c := by
  induction hab with
  | nil a => exact hbc
  | cons hstep hpath ih => exact .cons hstep (ih hbc)

/-- A path over two stretches of moves passes through a state between them. -/
theorem split (hpath : sys.Path a (xs ++ ys) c) : ∃ b, sys.Path a xs b ∧ sys.Path b ys c := by
  induction xs generalizing a with
  | nil => exact ⟨a, .nil a, hpath⟩
  | cons x xs ih =>
    cases hpath with
    | cons hstep hrest =>
      obtain ⟨b, hxs, hys⟩ := ih hrest
      exact ⟨b, .cons hstep hxs, hys⟩

/-- A relation between the moves made so far and the state that every further move carries over
holds along a path. -/
theorem relates {R : List μ → α → Prop}
    (hmove : ∀ xs b x c, R xs b → sys.step b x c → R (xs ++ [x]) c) (hpath : sys.Path a xs b)
    (ha : R [] a) : R xs b := by
  suffices h : ∀ done, R done a → R (done ++ xs) b from h [] ha
  clear ha
  induction hpath with
  | nil a =>
    intro done hdone
    rwa [List.append_nil]
  | cons hstep hpath ih =>
    intro done hdone
    have hrest := ih (done ++ [_]) (hmove done _ _ _ hdone hstep)
    rwa [List.append_assoc] at hrest

/-- A path whose moves all meet `G` preserves what every such move preserves. -/
theorem invariant {I : α → Prop} {G : μ → Prop}
    (hmove : ∀ a x b, sys.step a x b → G x → I a → I b) (hpath : sys.Path a xs b)
    (hG : ∀ x ∈ xs, G x) (ha : I a) : I b := by
  induction hpath with
  | nil a => exact ha
  | cons hstep hpath ih =>
    rw [List.forall_mem_cons] at hG
    exact ih hG.2 (hmove _ _ _ hstep hG.1 ha)

/-- A run of a partial step function is a path of a system that allows its steps. -/
theorem of_foldlM {f : α → μ → Option α} (hf : ∀ a x b, f a x = some b → sys.step a x b)
    (h : xs.foldlM f a = some b) : sys.Path a xs b := by
  induction xs generalizing a with
  | nil =>
    cases h
    exact .nil _
  | cons x xs ih =>
    obtain ⟨c, hc, hrest⟩ := Option.bind_eq_some_iff.mp h
    exact .cons (hf _ _ _ hc) (ih hrest)

end Path

end TransitionSystem

namespace Machine

variable {σ ι ο α μ : Type*}

/-- Each step of `m` is, through `view`, a path of `sys` whose moves its operation is
allowed to make. -/
structure Refinement (m : Machine σ ι ο) (sys : TransitionSystem α μ) where
  view : σ → α
  makes : ι → μ → Prop
  path : ∀ s op, ∃ moves, (∀ x ∈ moves, makes op x) ∧
    sys.Path (view s) moves (view (m.step s op).1)

namespace Refinement

variable {m : Machine σ ι ο} {sys : TransitionSystem α μ} (r : Refinement m sys) {s : σ} {op : ι}
  {ops : List ι} {I : α → Prop} {G : μ → Prop}

/-- A step preserves what the moves its operation may make preserve. -/
theorem step_invariant (hmove : ∀ a x b, sys.step a x b → G x → I a → I b)
    (hG : ∀ x, r.makes op x → G x) (hs : I (r.view s)) : I (r.view (m.step s op).1) := by
  obtain ⟨moves, hmoves, hpath⟩ := r.path s op
  exact hpath.invariant hmove (fun x hx => hG x (hmoves x hx)) hs

/-- A run preserves what the moves its operations may make preserve. -/
theorem run_invariant (hmove : ∀ a x b, sys.step a x b → G x → I a → I b)
    (hG : ∀ op ∈ ops, ∀ x, r.makes op x → G x) (hs : I (r.view s)) :
    I (r.view (m.run s ops)) := by
  induction ops generalizing s with
  | nil => exact hs
  | cons op ops ih =>
    rw [List.forall_mem_cons] at hG
    exact ih hG.2 (r.step_invariant hmove hG.1 hs)

/-- A run is a path of the abstract model. -/
theorem run_path : ∃ moves, sys.Path (r.view s) moves (r.view (m.run s ops)) := by
  induction ops generalizing s with
  | nil => exact ⟨[], .nil _⟩
  | cons op ops ih =>
    obtain ⟨first, -, hfirst⟩ := r.path s op
    obtain ⟨rest, hrest⟩ := ih (s := (m.step s op).1)
    exact ⟨first ++ rest, hfirst.append hrest⟩

end Refinement

/-- Each event of `m` is, through `view`, the path of `sys` with the moves it is
labelled with. -/
structure Labelling (m : Machine σ ι ο) (sys : TransitionSystem α μ) where
  view : σ → α
  moves : Event σ ι ο → List μ
  path : ∀ s op, sys.Path (view s) (moves (m.event s op)) (view (m.step s op).1)

/-- The labels of a run, in order, are the moves of a path. -/
theorem Labelling.run_path {m : Machine σ ι ο} {sys : TransitionSystem α μ} (l : Labelling m sys)
    {s : σ} {ops : List ι} :
    sys.Path (l.view s) ((m.trace s ops).flatMap l.moves) (l.view (m.run s ops)) := by
  induction ops generalizing s with
  | nil => exact .nil _
  | cons op ops ih =>
    rw [trace_cons, List.flatMap_cons]
    exact (l.path s op).append ih

end Machine
