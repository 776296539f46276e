import Mathlib.Data.List.Basic

/-!
# Fallible operations on a state, and logs

A `Fallible` operation works on a state and may fail; what it did to the state stays also when it
fails. A `Triple` says where it may leave the state, on success and on failure.

A log is `Lawful` when its past allows each of its entries.

Results:
1. One rule of triples for each way to build an operation (`Triple.pure`, `Triple.bind`,
   `Triple.attempt`), and the rule of consequence (`Triple.imp`).
2. A log stays lawful exactly when it allows the next entry (`lawful_concat`).
-/

/-- A stateful operation that may fail. -/
abbrev Fallible (ε σ α : Type) := ExceptT ε (StateM σ) α

namespace Fallible

variable {ε σ α β : Type} {s : σ}

def exec (op : Fallible ε σ α) (s : σ) : Except ε α × σ := op.run s

/-- An operation that reads and changes the state, and does not fail. -/
def act (f : σ → α × σ) : Fallible ε σ α := fun s => (.ok (f s).1, (f s).2)

/-- Catch the failure of an operation. -/
def attempt (op : Fallible ε σ α) : Fallible ε σ (Except ε α) := fun s =>
  (.ok (op.exec s).1, (op.exec s).2)

@[simp] theorem exec_pure (a : α) : (pure a : Fallible ε σ α).exec s = (.ok a, s) := rfl

@[simp] theorem exec_throw (e : ε) : (throw e : Fallible ε σ α).exec s = (.error e, s) := rfl

@[simp] theorem exec_act (f : σ → α × σ) :
    (act f : Fallible ε σ α).exec s = (.ok (f s).1, (f s).2) := rfl

@[simp] theorem exec_attempt (op : Fallible ε σ α) :
    op.attempt.exec s = (.ok (op.exec s).1, (op.exec s).2) := rfl

theorem exec_bind (op : Fallible ε σ α) (next : α → Fallible ε σ β) :
    (op >>= next).exec s =
      match op.exec s with
      | (.ok a, s) => (next a).exec s
      | (.error e, s) => (.error e, s) := by
  change (ExceptT.bindCont next (op.exec s).1) (op.exec s).2 = _
  rcases op.exec s with ⟨_ | _, _⟩ <;> rfl

/-- From a state of `P` the operation ends in a state of `Q`, or fails in one of `E`. -/
def Triple (P : σ → Prop) (op : Fallible ε σ α) (Q : α → σ → Prop) (E : ε → σ → Prop) : Prop :=
  ∀ s, P s →
    (∀ a t, op.exec s = (.ok a, t) → Q a t) ∧ ∀ e t, op.exec s = (.error e, t) → E e t

namespace Triple

variable {P P' : σ → Prop} {Q Q' : α → σ → Prop} {R : β → σ → Prop} {E E' : ε → σ → Prop}
variable {op : Fallible ε σ α}

theorem imp (h : Triple P op Q E) (hP : ∀ s, P' s → P s) (hQ : ∀ a s, Q a s → Q' a s)
    (hE : ∀ e s, E e s → E' e s) : Triple P' op Q' E' := fun s hs =>
  ⟨fun a t hrun => hQ a t ((h s (hP s hs)).1 a t hrun),
    fun e t hrun => hE e t ((h s (hP s hs)).2 e t hrun)⟩

theorem pure {a : α} (h : ∀ s, P s → Q a s) : Triple P (Pure.pure a) Q E := by
  intro s hs
  constructor
  · intro b t hrun
    cases hrun
    exact h s hs
  · intro e t hrun
    cases hrun

theorem throw {e : ε} (h : ∀ s, P s → E e s) : Triple P (MonadExcept.throw e) Q E := by
  intro s hs
  constructor
  · intro b t hrun
    cases hrun
  · intro e t hrun
    cases hrun
    exact h s hs

theorem act {f : σ → α × σ} (h : ∀ s, P s → Q (f s).1 (f s).2) :
    Triple P (Fallible.act f) Q E := by
  intro s hs
  constructor
  · intro b t hrun
    cases hrun
    exact h s hs
  · intro e t hrun
    cases hrun

theorem bind {next : α → Fallible ε σ β} (h : Triple P op Q E)
    (hnext : ∀ a, Triple (Q a) (next a) R E) : Triple P (op >>= next) R E := by
  intro s hs
  have hop := h s hs
  rw [exec_bind]
  rcases hrun : op.exec s with ⟨e | a, t⟩
  · refine ⟨fun b u hrun' => ?_, fun e' u hrun' => ?_⟩
    · cases hrun'
    · cases hrun'
      exact hop.2 e _ hrun
  · exact hnext a t (hop.1 a t hrun)

theorem attempt (h : Triple P op Q E) :
    Triple P op.attempt
      (fun r t => match r with | .ok a => Q a t | .error e => E e t) E' := by
  intro s hs
  constructor
  · intro r t hrun
    cases hrun
    rcases hexec : op.exec s with ⟨e | a, u⟩
    · exact (h s hs).2 e u hexec
    · exact (h s hs).1 a u hexec
  · intro e t hrun
    cases hrun

end Triple

end Fallible

/-! ## Logs -/

section

variable {η : Type}

/-- Each entry of the log is allowed by the entries before it. -/
def Lawful (allowed : List η → η → Prop) (log : List η) : Prop :=
  ∀ past entry future, log = past ++ entry :: future → allowed past entry

variable {allowed : List η → η → Prop} {log : List η} {entry : η}

theorem lawful_nil : Lawful allowed [] := by
  intro past entry future hlog
  exact absurd hlog (by simp)

/-- An entry of a log that grew is its last one or one of the log before. -/
theorem concat_eq_append_cons {last : η} {past future : List η}
    (h : log ++ [last] = past ++ entry :: future) :
    (log = past ∧ last = entry ∧ future = []) ∨
      ∃ front, future = front ++ [last] ∧ log = past ++ entry :: front := by
  rcases List.eq_nil_or_concat' future with rfl | ⟨front, x, rfl⟩
  · obtain ⟨hlog, hlast⟩ := List.append_inj' h rfl
    exact .inl ⟨hlog, List.head_eq_of_cons_eq hlast, rfl⟩
  · rw [← List.cons_append, ← List.append_assoc] at h
    obtain ⟨hlog, hlast⟩ := List.append_inj' h rfl
    exact .inr ⟨front, by rw [List.head_eq_of_cons_eq hlast], hlog⟩

theorem lawful_concat :
    Lawful allowed (log ++ [entry]) ↔ Lawful allowed log ∧ allowed log entry := by
  constructor
  · intro h
    refine ⟨fun past e future hlog => ?_, h log entry [] rfl⟩
    exact h past e (future ++ [entry]) (by simp [hlog])
  · rintro ⟨h, hentry⟩ past e future hlog
    rcases concat_eq_append_cons hlog with ⟨rfl, rfl, -⟩ | ⟨front, -, hfront⟩
    · exact hentry
    · exact h past e front hfront

end
