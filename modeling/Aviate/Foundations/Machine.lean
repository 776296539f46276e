import Mathlib.Data.List.Basic

/-!
# Deterministic machines and their runs

A `Machine` takes a state and an operation to the next state and an observation.
A run is a list of operations; its `trace` is the list of the events it
executes, each with the state before, the operation, the observation and the
state after.

Results:
1. The trace of a concatenation is the concatenation of the traces
   (`trace_append`), and an event of a trace is one operation executed after
   some prefix of the run (`mem_trace`).
2. `run_invariant`: what every step preserves holds after every run.
   `run_invariant_of_guard` is the same for runs whose events all meet a guard, and
   `visits_invariant_of_guard` for every state on the way. `trace_invariant` is for a relation
   between the state and the events so far.
3. `forall_trace_congr`: two properties that agree on every step agree on whole
   runs.
4. `history_invariant`: a relation between the state and a summary of the past
   is carried along a run.
5. A view of the states that commutes with every step commutes with every run
   (`run_view`, `outputs_view`). A relation that every pair of steps keeps, with equal outputs,
   holds after every run (`simulation`).
-/

/-- A deterministic machine over states `σ`, operations `ι` and observations `ο`. -/
structure Machine (σ ι ο : Type*) where
  step : σ → ι → σ × ο

namespace Machine

variable {σ ι ο γ : Type*} (m : Machine σ ι ο)

/-- One executed operation: the state before it, the operation, what it returned
and the state after it. -/
structure Event (σ ι ο : Type*) where
  pre : σ
  op : ι
  out : ο
  post : σ

/-- The event of executing `op` in `s`. -/
def event (s : σ) (op : ι) : Event σ ι ο :=
  ⟨s, op, (m.step s op).2, (m.step s op).1⟩

/-- The state after executing `ops` from `s`. -/
def run : σ → List ι → σ
  | s, [] => s
  | s, op :: ops => run (m.step s op).1 ops

/-- The events of executing `ops` from `s`, in order. -/
def trace : σ → List ι → List (Event σ ι ο)
  | _, [] => []
  | s, op :: ops => m.event s op :: trace (m.step s op).1 ops

/-- What the operations of a run return, in order. -/
def outputs (s : σ) (ops : List ι) : List ο := (m.trace s ops).map Event.out

/-- The states a run from `s` passes through: the one after each prefix. -/
def Visits (s : σ) (ops : List ι) (t : σ) : Prop :=
  ∃ ops₁ ops₂, ops = ops₁ ++ ops₂ ∧ t = m.run s ops₁

/-- A summary of the past, folded over the events of a run. -/
def history (note : γ → Event σ ι ο → γ) (start : γ) (s : σ) (ops : List ι) : γ :=
  (m.trace s ops).foldl note start

variable {m} {s t : σ} {op : ι} {ops ops₁ ops₂ : List ι}

/-! ## Runs and traces -/

@[simp] theorem run_nil : m.run s [] = s := rfl

@[simp] theorem run_cons : m.run s (op :: ops) = m.run (m.step s op).1 ops := rfl

@[simp] theorem trace_nil : m.trace s [] = [] := rfl

@[simp] theorem trace_cons :
    m.trace s (op :: ops) = m.event s op :: m.trace (m.step s op).1 ops := rfl

theorem run_append : m.run s (ops₁ ++ ops₂) = m.run (m.run s ops₁) ops₂ := by
  induction ops₁ generalizing s with
  | nil => rfl
  | cons op ops₁ ih => exact ih

theorem trace_append :
    m.trace s (ops₁ ++ ops₂) = m.trace s ops₁ ++ m.trace (m.run s ops₁) ops₂ := by
  induction ops₁ generalizing s with
  | nil => rfl
  | cons op ops₁ ih => exact congrArg (m.event s op :: ·) ih

/-- An event of a run is one of its operations executed after the operations
before it. -/
theorem mem_trace {e : Event σ ι ο} :
    e ∈ m.trace s ops ↔
      ∃ ops₁ op ops₂, ops = ops₁ ++ op :: ops₂ ∧ e = m.event (m.run s ops₁) op := by
  induction ops generalizing s with
  | nil => simp
  | cons op ops ih =>
    rw [trace_cons, List.mem_cons, ih]
    constructor
    · rintro (rfl | ⟨ops₁, op', ops₂, rfl, rfl⟩)
      · exact ⟨[], op, ops, rfl, rfl⟩
      · exact ⟨op :: ops₁, op', ops₂, rfl, rfl⟩
    · rintro ⟨ops₁, op', ops₂, hops, rfl⟩
      cases ops₁ with
      | nil =>
        obtain ⟨rfl, rfl⟩ := List.cons.inj hops
        exact .inl rfl
      | cons op₁ ops₁ =>
        obtain ⟨rfl, rfl⟩ := List.cons.inj hops
        exact .inr ⟨ops₁, op', ops₂, rfl, rfl⟩

@[simp] theorem length_trace : (m.trace s ops).length = ops.length := by
  induction ops generalizing s with
  | nil => rfl
  | cons op ops ih => exact congrArg (· + 1) ih

/-- The events of a run stand in the order of its operations. -/
theorem getElem?_trace :
    (m.trace s (ops₁ ++ op :: ops₂))[ops₁.length]? = some (m.event (m.run s ops₁) op) := by
  have hlength : (m.trace s ops₁).length = ops₁.length := length_trace
  rw [trace_append, List.getElem?_append_right (Nat.le_of_eq hlength), hlength, Nat.sub_self]
  rfl

theorem visits_self : m.Visits s ops (m.run s ops) := ⟨ops, [], by simp, rfl⟩

/-- A state a run visits is the start or the state after one of its events. -/
theorem visits_iff : m.Visits s ops t ↔ t = s ∨ ∃ e ∈ m.trace s ops, t = e.post := by
  constructor
  · rintro ⟨ops₁, ops₂, rfl, rfl⟩
    rcases List.eq_nil_or_concat ops₁ with rfl | ⟨front, op, rfl⟩
    · exact .inl rfl
    · refine .inr ⟨m.event (m.run s front) op, ?_, ?_⟩
      · exact mem_trace.mpr ⟨front, op, ops₂, by simp, rfl⟩
      · simp [run_append, event]
  · rintro (rfl | ⟨e, he, rfl⟩)
    · exact ⟨[], ops, rfl, rfl⟩
    · obtain ⟨ops₁, op, ops₂, rfl, rfl⟩ := mem_trace.mp he
      exact ⟨ops₁ ++ [op], ops₂, by simp, by simp [run_append, event]⟩

/-! ## Invariants -/

/-- What every step preserves under a guard on its event holds after every run
whose events meet the guard. -/
theorem run_invariant_of_guard {I : σ → Prop} {G : Event σ ι ο → Prop}
    (hstep : ∀ s op, I s → G (m.event s op) → I (m.step s op).1) (hs : I s)
    (hG : ∀ e ∈ m.trace s ops, G e) : I (m.run s ops) := by
  induction ops generalizing s with
  | nil => exact hs
  | cons op ops ih =>
    rw [trace_cons, List.forall_mem_cons] at hG
    exact ih (hstep s op hs hG.1) hG.2

/-- What every step preserves holds after every run. -/
theorem run_invariant {I : σ → Prop} (hstep : ∀ s op, I s → I (m.step s op).1) (hs : I s) :
    I (m.run s ops) :=
  run_invariant_of_guard (G := fun _ => True) (fun s op h _ => hstep s op h) hs
    (fun _ _ => trivial)

/-- A guarded invariant holds in every state a run visits. -/
theorem visits_invariant_of_guard {I : σ → Prop} {G : Event σ ι ο → Prop}
    (hstep : ∀ s op, I s → G (m.event s op) → I (m.step s op).1) (hs : I s)
    (hG : ∀ e ∈ m.trace s ops, G e) (ht : m.Visits s ops t) : I t := by
  obtain ⟨ops₁, ops₂, rfl, rfl⟩ := ht
  refine run_invariant_of_guard hstep hs fun e he => hG e ?_
  rw [trace_append]
  exact List.mem_append_left _ he

/-- A relation between the state and the events so far that every step carries over holds after
every run. -/
theorem trace_invariant {R : σ → List (Event σ ι ο) → Prop}
    (hstep : ∀ s op past, R s past → R (m.step s op).1 (past ++ [m.event s op])) (hs : R s []) :
    R (m.run s ops) (m.trace s ops) := by
  suffices h : ∀ past, R s past → R (m.run s ops) (past ++ m.trace s ops) from h [] hs
  clear hs
  induction ops generalizing s with
  | nil =>
    intro past hpast
    rwa [trace_nil, List.append_nil]
  | cons op ops ih =>
    intro past hpast
    have hrest := ih (past ++ [m.event s op]) (hstep s op past hpast)
    rwa [List.append_assoc] at hrest

/-- Two properties that agree on the event of every step agree on every run. -/
theorem forall_trace_congr {P Q : Event σ ι ο → Prop}
    (hPQ : ∀ s op, P (m.event s op) ↔ Q (m.event s op)) :
    (∀ e ∈ m.trace s ops, P e) ↔ ∀ e ∈ m.trace s ops, Q e := by
  refine forall₂_congr fun e he => ?_
  obtain ⟨ops₁, op, ops₂, -, rfl⟩ := mem_trace.mp he
  exact hPQ _ _

/-! ## Outputs -/

@[simp] theorem outputs_nil : m.outputs s [] = [] := rfl

@[simp] theorem outputs_cons :
    m.outputs s (op :: ops) = (m.step s op).2 :: m.outputs (m.step s op).1 ops := rfl

theorem outputs_append :
    m.outputs s (ops₁ ++ ops₂) = m.outputs s ops₁ ++ m.outputs (m.run s ops₁) ops₂ := by
  rw [outputs, trace_append, List.map_append]
  rfl

/-- Where the outputs of a run split, the run does. -/
theorem outputs_eq_append {l₁ l₂ : List ο} (h : m.outputs s ops = l₁ ++ l₂) :
    ∃ ops₁ ops₂, ops = ops₁ ++ ops₂ ∧ m.outputs s ops₁ = l₁ ∧
      m.outputs (m.run s ops₁) ops₂ = l₂ := by
  induction l₁ generalizing s ops with
  | nil => exact ⟨[], ops, rfl, rfl, h⟩
  | cons o l₁ ih =>
    cases ops with
    | nil => exact nomatch h
    | cons op ops =>
      obtain ⟨hout, hrest⟩ := List.cons.inj h
      obtain ⟨ops₁, ops₂, rfl, h₁, h₂⟩ := ih hrest
      exact ⟨op :: ops₁, ops₂, rfl, congrArg₂ List.cons hout h₁, h₂⟩

theorem outputs_eq_cons {o : ο} {l : List ο} (h : m.outputs s ops = o :: l) :
    ∃ op rest, ops = op :: rest ∧ (m.step s op).2 = o ∧ m.outputs (m.step s op).1 rest = l := by
  cases ops with
  | nil => exact nomatch h
  | cons op rest =>
    obtain ⟨hout, hrest⟩ := List.cons.inj h
    exact ⟨op, rest, rfl, hout, hrest⟩

/-! ## Views -/

section View

variable {τ : Type*} {other : Machine τ ι ο} {view : σ → τ}

theorem run_view
    (hstep : ∀ s op, other.step (view s) op = (view (m.step s op).1, (m.step s op).2)) :
    other.run (view s) ops = view (m.run s ops) := by
  induction ops generalizing s with
  | nil => rfl
  | cons op ops ih => rw [run_cons, run_cons, hstep, ih]

/-- Two machines with a common view of their states return the same. -/
theorem outputs_view
    (hstep : ∀ s op, other.step (view s) op = (view (m.step s op).1, (m.step s op).2)) :
    other.outputs (view s) ops = m.outputs s ops := by
  unfold outputs
  induction ops generalizing s with
  | nil => rfl
  | cons op ops ih =>
    rw [trace_cons, trace_cons, List.map_cons, List.map_cons, hstep, ih]
    unfold event
    rw [hstep]

/-- Related states stay related and return the same. -/
theorem simulation {R : σ → τ → Prop} {t : τ}
    (hstep : ∀ s t op, R s t →
      R (m.step s op).1 (other.step t op).1 ∧ (m.step s op).2 = (other.step t op).2)
    (h : R s t) (ops : List ι) :
    R (m.run s ops) (other.run t ops) ∧ m.outputs s ops = other.outputs t ops := by
  induction ops generalizing s t with
  | nil => exact ⟨h, rfl⟩
  | cons op ops ih =>
    obtain ⟨hnext, hout⟩ := hstep s t op h
    obtain ⟨hrun, hrest⟩ := ih hnext
    exact ⟨hrun, congrArg₂ List.cons hout hrest⟩

end View

/-! ## Summaries of the past -/

section History

variable {note : γ → Event σ ι ο → γ} {start : γ}

/-- One more operation is noted last. -/
theorem history_concat :
    m.history note start s (ops ++ [op]) =
      note (m.history note start s ops) (m.event (m.run s ops) op) := by
  simp [history, trace_append]

/-- A relation between the state and the summary that every guarded step carries
over holds after every run whose events meet the guard. -/
theorem history_invariant {R : σ → γ → Prop} {G : Event σ ι ο → Prop}
    (hstep : ∀ s op c, R s c → G (m.event s op) → R (m.step s op).1 (note c (m.event s op)))
    (hs : R s start) (hG : ∀ e ∈ m.trace s ops, G e) :
    R (m.run s ops) (m.history note start s ops) := by
  induction ops generalizing s start with
  | nil => exact hs
  | cons op ops ih =>
    rw [trace_cons, List.forall_mem_cons] at hG
    exact ih (hstep s op start hs hG.1) hG.2

end History

end Machine
