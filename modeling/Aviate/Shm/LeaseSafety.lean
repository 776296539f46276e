import Aviate.Shm.LeaseSound
import Mathlib.Data.List.Nodup

/-!
# Safety of the writer lease

Results:
1. At most one writer lives behind a name (`one_live_writer`).
2. Stamped incarnations are nonzero and pairwise distinct (`stamps_distinct`).
3. An object a writer unlinks belongs to no other live writer (`unlinked_not_live`).
4. When `attach` succeeds or `writer_state` answers `Current`, the writer that stamped the
   block's incarnation lives at the probe (`alive_at_probe`).
-/

namespace Aviate.Shm

open TransitionSystem

namespace World

variable {s s' : World} {w w' p o : Nat} {i : UInt64} {a : Action}

/-- A writer that was granted the lease and has neither released it nor died. -/
def Live (s : World) (w : Nat) : Prop := (s.writers w).holdsLease = true

/-- The object of a live writer. -/
def Owns (s : World) (w o : Nat) : Prop := s.Live w ∧ (s.writers w).object? = some o

/-- The writer lives, holds the token of the incarnation, and stamped it into the object. -/
def AliveWith (s : World) (o : Nat) (i : UInt64) : Prop :=
  ∃ w lease, s.Live w ∧ (s.writers w).lease? = some lease ∧ lease.incarnation = i ∧
    ⟨w, i, o⟩ ∈ s.stamps

theorem Sound.stamp_unique (hs : s.Sound) {t u : Stamp} (ht : t ∈ s.stamps) (hu : u ∈ s.stamps)
    (h : t.incarnation = u.incarnation) : t = u :=
  List.inj_on_of_nodup_map hs.record.distinct ht hu h

/-- The exclusive holder of a stamped incarnation's token is the live writer that stamped
it. -/
theorem Sound.aliveWith {token : TokenFile} {party : Party} (hs : s.Sound) (hc : s.Carries o i)
    (htoken : token.incarnation = i) (hheld : (s.tokens token).exclusive = some party) :
    s.AliveWith o i := by
  cases party with
  | observer q => exact absurd hheld (hs.tokens token q)
  | writer w =>
    have hok := hs.writers w
    have hpc := (hok.token token).mp hheld
    obtain ⟨lease, hlease, rfl⟩ := Option.map_eq_some_iff.mp hpc
    have hincarnation : lease.incarnation = i := lease.named.symm.trans htoken
    subst hincarnation
    obtain ⟨w', hstamp⟩ := hc
    refine ⟨w, lease, WriterPc.holdsLease_of_token hpc, hlease, rfl, ?_⟩
    rcases fresh_or_stamped hlease hok.facts with ⟨-, -, hunused⟩ | ⟨o', hstamp'⟩
    · exact absurd rfl (hunused _ hstamp)
    · cases hs.stamp_unique hstamp hstamp' rfl
      exact hstamp

/-- A name stops resolving to an object only by a step of the writer that holds the lease. -/
theorem unlink_cases (hs : s.Sound) (hstep : s.step a = some s') (hname : s.name = some o)
    (hgone : s'.name ≠ some o) : ∃ w fault, a = .writer w fault ∧ s.Live w := by
  have hsame (h : s'.name = s.name) : False := hgone (h.trans hname)
  -- Without the lease a writer only opens and locks the lease file.
  cases a with
  | start w =>
    simp only [step] at hstep
    split at hstep <;> cases hstep
    exact (hsame rfl).elim
  | writer w fault =>
    obtain ⟨⟨t, pc⟩, hmove, rfl⟩ := Option.map_eq_some_iff.mp hstep
    refine ⟨w, fault, rfl, ?_⟩
    by_contra hfree
    rw [Live, Bool.not_eq_true] at hfree
    refine hsame ?_
    cases hpc : s.writers w with
    | idle | finished =>
      rw [hpc] at hmove
      cases hmove
    | openLease =>
      rw [hpc] at hmove
      simp only [writerStep] at hmove
      split at hmove <;> cases hmove <;> rfl
    | lockLease attempt =>
      rw [hpc] at hmove
      simp only [writerStep] at hmove
      split at hmove
      · cases hmove
        rfl
      · split at hmove
        · cases hmove
          rfl
        · split at hmove <;> cases hmove <;> rfl
    | _ =>
      rw [hpc] at hfree
      cases hfree
  | drop w =>
    simp only [step] at hstep
    split at hstep <;> cases hstep
    exact (hsame rfl).elim
  | crash w =>
    cases hstep
    exact (hsame rfl).elim
  | attach p =>
    simp only [step] at hstep
    split at hstep <;> cases hstep <;> exact (hsame rfl).elim
  | poll p =>
    simp only [step] at hstep
    split at hstep <;> cases hstep <;> exact (hsame rfl).elim
  | observer p fault =>
    obtain ⟨⟨t, pc⟩, hmove, rfl⟩ := Option.map_eq_some_iff.mp hstep
    obtain ⟨hobserved, -⟩ := observerStep_cases hs.record (hs.observers p) hmove
    exact (hsame hobserved.name).elim
  | leave p =>
    cases hstep
    exact (hsame rfl).elim

/-- A writer's step moves no observer. -/
theorem writerStep_observers {t : World} {pc₀ pc : WriterPc} {fault : Bool}
    (h : s.writerStep w fault pc₀ = some (t, pc)) : t.observers = s.observers := by
  cases pc₀ with
  | store lease o field =>
    have hstored : s.storeField w lease o field = (t, pc) := Option.some.inj h
    cases field <;> cases hstored <;> rfl
  | inspect lease o inspection => cases inspection <;> cases h <;> rfl
  | unlinkName | unlinkOwn | discard => cases fault <;> cases h <;> rfl
  | _ =>
    simp only [writerStep] at h
    repeat' split at h
    all_goals cases h
    all_goals rfl

/-! ## The results -/

theorem one_live_writer (hs : s.Sound) (hw : s.Live w) (hw' : s.Live w') : w = w' :=
  hs.unique hw hw'

/-- An object a writer unlinks belongs to no other live writer, and one that a writer unlinks
to create its own belongs to no live writer at all. -/
theorem unlinked_not_live (hs : s.Sound) (hstep : s.step a = some s') (hname : s.name = some o)
    (hgone : s'.name ≠ some o) :
    ∃ w fault, a = .writer w fault ∧ (∀ w', s.Owns w' o → w' = w) ∧
      ∀ lease, s.writers w = .unlinkName lease → ∀ w', ¬s.Owns w' o := by
  obtain ⟨w, fault, ha, hlive⟩ := unlink_cases hs hstep hname hgone
  have hown (w' : Nat) (h : s.Owns w' o) : w' = w := hs.unique h.1 hlive
  refine ⟨w, fault, ha, hown, fun lease hpc w' h => ?_⟩
  cases hown w' h
  have hobject := h.2
  rw [hpc] at hobject
  cases hobject

/-- A call that comes to vouch for a block finds the block's writer alive. -/
theorem alive_at_probe (hs : s.Sound) (hstep : s.step a = some s')
    (hreturn : s'.observers p ≠ s.observers p) (htrusts : (s'.observers p).trusts = some (o, i)) :
    s.AliveWith o i := by
  have hkept (h : s'.observers = s.observers) : s.AliveWith o i :=
    (hreturn (congrFun h p)).elim
  -- The move of another observer leaves this one where it is.
  have hmoved {t : World} {q : Nat} {pc : ObserverPc} (ht : t.observers = s.observers)
      (hs' : s' = t.setObserver q pc) : q = p ∧ pc.trusts = some (o, i) := by
    subst hs'
    by_cases hq : p = q
    · subst hq
      have hself : (t.setObserver p pc).observers p = pc := Function.update_self ..
      rw [hself] at htrusts
      exact ⟨rfl, htrusts⟩
    · refine absurd ?_ hreturn
      rw [← ht]
      exact Function.update_of_ne hq ..
  cases a with
  | start w =>
    simp only [step] at hstep
    split at hstep <;> cases hstep
    exact hkept rfl
  | writer w fault =>
    obtain ⟨⟨t, pc⟩, hmove, rfl⟩ := Option.map_eq_some_iff.mp hstep
    have hobservers : t.observers = s.observers := writerStep_observers hmove
    exact hkept hobservers
  | drop w =>
    simp only [step] at hstep
    split at hstep <;> cases hstep
    exact hkept rfl
  | crash w =>
    cases hstep
    exact hkept rfl
  | attach q =>
    simp only [step] at hstep
    split at hstep <;> cases hstep <;> cases (hmoved rfl rfl).2
  | poll q =>
    simp only [step] at hstep
    split at hstep <;> cases hstep <;> cases (hmoved rfl rfl).2
  | observer q fault =>
    obtain ⟨⟨t, pc⟩, hmove, hs'⟩ := Option.map_eq_some_iff.mp hstep
    obtain ⟨hobserved, -, hvouched⟩ := observerStep_cases hs.record (hs.observers q) hmove
    obtain ⟨hcarries, token, party, htoken, hheld⟩ :=
      hvouched o i (hmoved hobserved.observers hs'.symm).2
    exact hs.aliveWith hcarries htoken hheld
  | leave q =>
    cases hstep
    cases (hmoved (t := s.releaseAll (.observer q)) rfl rfl).2

/-- In every state of every interleaving: at most one writer lives; stamped incarnations are
nonzero and pairwise distinct, and no header carries another; what a writer's creation unlinks
belongs to no live writer; and a call that comes to vouch for a block does so at a moment when
the writer that stamped the block's incarnation lives. -/
theorem lease_protocol_safe {run : List Action} (hrun : protocol.Path initial run s) :
    (∀ w w', s.Live w → s.Live w' → w = w') ∧
    ((∀ t ∈ s.stamps, t.incarnation ≠ 0) ∧ (s.stamps.map Stamp.incarnation).Nodup ∧
      ∀ o, (s.header o).writerIncarnation ≠ 0 → s.Carries o (s.header o).writerIncarnation) ∧
    (∀ a s' o, protocol.step s a s' → s.name = some o → s'.name ≠ some o →
      ∃ w fault, a = .writer w fault ∧ (∀ w', s.Owns w' o → w' = w) ∧
        ∀ lease, s.writers w = .unlinkName lease → ∀ w', ¬s.Owns w' o) ∧
    (∀ a s' p o i, protocol.step s a s' → s'.observers p ≠ s.observers p →
      (s'.observers p).trusts = some (o, i) → s.AliveWith o i) := by
  have hs := sound_path hrun
  refine ⟨fun _ _ => one_live_writer hs,
    ⟨fun t ht => (hs.record.stamps t ht).1, hs.record.distinct, hs.record.carried⟩, ?_, ?_⟩
  · exact fun _ _ _ hstep => unlinked_not_live hs hstep.1
  · exact fun _ _ _ _ _ hstep => alive_at_probe hs hstep.1

/-! ## A writer and an observer -/

/-- The state after a list of actions, if each is possible and none wraps the counter. -/
def exec (s : World) : List Action → Option World
  | [] => some s
  | a :: run =>
    match s.step a with
    | none => none
    | some s' => if s.counter ≤ s'.counter then s'.exec run else none

theorem path_of_exec {run : List Action} {s : World} (h : s.exec run = some s') :
    protocol.Path s run s' := by
  induction run generalizing s with
  | nil =>
    cases h
    exact .nil _
  | cons a run ih =>
    simp only [exec] at h
    split at h
    · cases h
    · next t hstep =>
      split at h
      · next hcounter => exact .cons ⟨hstep, hcounter⟩ (ih h)
      · cases h

/-- A writer creates the block and an observer attaches to it, up to its probe. -/
def attachRun : List Action :=
  Action.start 0 :: List.replicate 17 (.writer 0 false) ++
    Action.attach 0 :: List.replicate 10 (.observer 0 false)

/-- The probe finds the writer's token held, and the attachment is made. -/
theorem attachRun_probe :
    ((initial.exec attachRun).any fun s =>
      (s.step (.observer 0 false)).any fun s' =>
        s.counter ≤ s'.counter && (s'.observers 0).trusts == some (0, 1) &&
          (s.observers 0).trusts == none) = true := by
  decide +kernel

theorem lease_protocol_safe_attach : ∃ s s', protocol.Path initial attachRun s ∧
    protocol.step s (.observer 0 false) s' ∧ (s'.observers 0).trusts = some (0, 1) ∧
    s.AliveWith 0 1 := by
  obtain ⟨s, hexec, hprobe⟩ := (Option.any_eq_true _ _).mp attachRun_probe
  obtain ⟨s', hstep, hcheck⟩ := (Option.any_eq_true _ _).mp hprobe
  simp only [Bool.and_eq_true, decide_eq_true_eq, beq_iff_eq] at hcheck
  obtain ⟨⟨hcounter, htrusts⟩, hbefore⟩ := hcheck
  have hrun := path_of_exec hexec
  refine ⟨s, s', hrun, ⟨hstep, hcounter⟩, htrusts, ?_⟩
  refine (lease_protocol_safe hrun).2.2.2 _ s' 0 0 1 ⟨hstep, hcounter⟩ (fun h => ?_) htrusts
  rw [h, hbefore] at htrusts
  cases htrusts

end World

end Aviate.Shm
