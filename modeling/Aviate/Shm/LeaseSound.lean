import Aviate.Shm.LeaseWriters

/-!
# The lease protocol is sound

Results:
1. An observer's step keeps the protocol sound, and its probe answers `Alive` only if somebody
   holds the probed token exclusively (`sound_observerStep`, `probeStep_cases`).
2. Every action keeps the protocol sound, and every state a run reaches is sound (`sound_step`,
   `sound_path`).
-/

namespace Aviate.Shm

open TransitionSystem

namespace World

variable {s s' t : World} {w p o : Nat} {fault : Bool}

/-! ## An observer's move -/

/-- An observer changes nothing a writer or the record depends on. -/
structure Observed (s t : World) : Prop where
  writers : t.writers = s.writers
  observers : t.observers = s.observers
  counter : t.counter = s.counter
  stamps : t.stamps = s.stamps
  objects : t.objects = s.objects
  name : t.name = s.name
  lease : ∀ w, t.lease.exclusive = some (.writer w) ↔ s.lease.exclusive = some (.writer w)
  token : ∀ w f, (t.tokens f).exclusive = some (.writer w) ↔
    (s.tokens f).exclusive = some (.writer w)
  tokens : ∀ f p, (t.tokens f).exclusive = some (.observer p) →
    (s.tokens f).exclusive = some (.observer p)

theorem Observed.refl : Observed s s :=
  ⟨rfl, rfl, rfl, rfl, rfl, rfl, fun _ => Iff.rfl, fun _ _ => Iff.rfl, fun _ _ h => h⟩

theorem Observed.record (h : Observed s t) : SameRecord s t := by
  have hheader (o : Nat) : t.header o = s.header o := by
    unfold header
    rw [h.objects]
  exact ⟨h.counter, h.stamps, fun o => by rw [hheader], fun o => by rw [hheader]⟩

theorem Observed.carries {i : UInt64} (h : Observed s t) (hs : s.Carries o i) : t.Carries o i := by
  unfold Carries
  rw [h.stamps]
  exact hs

theorem Observed.lease_eq {lock : FileLock Party} (h : lock.exclusive = s.lease.exclusive) :
    Observed s { s with lease := lock } := by
  refine ⟨rfl, rfl, rfl, rfl, rfl, rfl, fun w => ?_, fun _ _ => Iff.rfl, fun _ _ h => h⟩
  rw [show ({ s with lease := lock } : World).lease = lock from rfl, h]

theorem Observed.setToken {token : TokenFile} {lock : FileLock Party}
    (hwriter : ∀ w, lock.exclusive = some (.writer w) ↔
      (s.tokens token).exclusive = some (.writer w))
    (hobserver : ∀ p, lock.exclusive = some (.observer p) →
      (s.tokens token).exclusive = some (.observer p)) : Observed s (s.setToken token lock) := by
  have hothers (w : Nat) : Others s (s.setToken token lock) w :=
    others_setToken (fun w' _ => hwriter w') hobserver
  exact ⟨rfl, rfl, rfl, rfl, rfl, rfl, fun _ => Iff.rfl,
    fun w f => (hothers (w + 1)).token w (Nat.succ_ne_self w).symm f, (hothers 0).tokens⟩

/-- A move of an observer that keeps what it knows. -/
theorem Sound.observe {pc : ObserverPc} (hs : s.Sound) (ht : Observed s t)
    (hok : t.ObserverOk pc) : (t.setObserver p pc).Sound := by
  have hrecord := ht.record.record hs.record
  refine ⟨fun w => ?_, fun f q h => hs.tokens f q (ht.tokens f q h),
    ⟨hrecord.1, hrecord.2, hrecord.3, hrecord.4⟩, fun q => ?_⟩
  · have hwriter : (t.setObserver p pc).writers w = s.writers w := congrFun ht.writers w
    have hw := hs.writers w
    rw [hwriter]
    refine ⟨(ht.lease w).trans hw.lease, fun f => (ht.token w f).trans (hw.token f), ?_⟩
    exact writerFacts_congr ht.counter ht.stamps ht.objects hw.facts
  · by_cases hq : q = p
    · subst hq
      have hself : (t.setObserver q pc).observers q = pc := Function.update_self ..
      rw [hself]
      exact hok.mono (fun _ h => h) fun _ h => h
    · have hother : (t.setObserver p pc).observers q = s.observers q := by
        rw [← ht.observers]
        exact Function.update_of_ne hq ..
      rw [hother]
      exact (ht.record.observer (hs.observers q)).mono (fun _ h => h) fun _ h => h

/-- A probe's access: it keeps to its incarnation's token, and its verdict is `Alive` only if
somebody holds that token exclusively. -/
theorem probeStep_cases {i : UInt64} {probe : Probe} {r : Probe ⊕ WriterLiveness}
    (hprobe : ProbeOk i probe) (h : s.probeStep p i fault probe = (t, r)) :
    Observed s t ∧ (∀ next, r = .inl next → ProbeOk i next) ∧
      (r = .inr .alive → ∃ token party, token.incarnation = i ∧
        (s.tokens token).exclusive = some party) := by
  cases probe with
  | openToken =>
    simp only [probeStep] at h
    split at h
    · split at h
      · cases h
        exact ⟨.refl, nofun, nofun⟩
      · cases h
        exact ⟨.refl, fun next hnext => by cases hnext; trivial, nofun⟩
    · split at h
      · cases h
        exact ⟨.refl, nofun, nofun⟩
      · cases h
        exact ⟨.refl, fun next hnext => by cases hnext; rfl, nofun⟩
  | lockToken token =>
    simp only [probeStep] at h
    split at h
    · cases h
      exact ⟨.refl, nofun, nofun⟩
    · split at h
      · next hheld =>
        cases h
        obtain ⟨party, hparty⟩ := FileLock.tryShared_eq_none_iff.mp hheld
        exact ⟨.refl, nofun, fun _ => ⟨token, party, hprobe, hparty⟩⟩
      · next lock hlock =>
        cases h
        have hsame := FileLock.exclusive_tryShared hlock
        refine ⟨.setToken (fun w => ?_) fun q hq => ?_, fun next hnext => by cases hnext; trivial,
          nofun⟩
        · rw [hsame]
        · rw [← hsame]
          exact hq
  | closeToken token =>
    cases h
    refine ⟨.setToken (fun w => ?_) fun q hq => ?_, fun next hnext => by cases hnext; trivial,
      nofun⟩
    · exact FileLock.exclusive_release_other nofun
    · exact FileLock.exclusive_of_release hq
  | openLease =>
    simp only [probeStep] at h
    split at h
    · cases h
      exact ⟨.refl, nofun, nofun⟩
    · split at h
      · cases h
        exact ⟨.refl, fun next hnext => by cases hnext; trivial, nofun⟩
      · cases h
        exact ⟨.refl, nofun, nofun⟩
  | lockLease =>
    simp only [probeStep] at h
    split at h
    · cases h
      exact ⟨.refl, nofun, nofun⟩
    · split at h
      · cases h
        exact ⟨.refl, nofun, nofun⟩
      · next lock hlock =>
        cases h
        exact ⟨.lease_eq (FileLock.exclusive_tryShared hlock),
          fun next hnext => by cases hnext; trivial, nofun⟩
  | closeLease =>
    cases h
    refine ⟨⟨rfl, rfl, rfl, rfl, rfl, rfl, fun w => ?_, fun _ _ => Iff.rfl, fun _ _ h => h⟩, nofun,
      nofun⟩
    exact FileLock.exclusive_release_other nofun

/-- An access of `attach` before its probe: once the block was seen ready, its incarnation is
one somebody stamped into it. -/
theorem observerOk_attachStep {attach : Attach} (hs : s.RecordOk)
    (hok : s.ObserverOk (.attaching attach)) :
    s.ObserverOk (s.attachStep fault attach) ∧ (s.attachStep fault attach).trusts = none := by
  cases attach with
  | shmOpen =>
    simp only [attachStep]
    split
    · exact ⟨trivial, rfl⟩
    · split <;> exact ⟨trivial, rfl⟩
  | fstat o =>
    simp only [attachStep]
    split
    · exact ⟨trivial, rfl⟩
    · split
      · exact ⟨trivial, rfl⟩
      · split <;> exact ⟨trivial, rfl⟩
  | mmap o actual =>
    simp only [attachStep]
    split <;> exact ⟨trivial, rfl⟩
  | loadReady o actual =>
    simp only [attachStep]
    split
    · exact ⟨trivial, rfl⟩
    · next hready => exact ⟨hs.ready o hready, rfl⟩
  | loadMagic o actual => exact ⟨hok, rfl⟩
  | loadVersion o actual magic => exact ⟨hok, rfl⟩
  | loadDeclared o actual magic version =>
    simp only [attachStep]
    split
    · exact ⟨trivial, rfl⟩
    · exact ⟨hok, rfl⟩
  | loadIncarnation o => exact ⟨hs.carried o hok, rfl⟩
  | readyAgain o incarnation =>
    simp only [attachStep]
    split
    · exact ⟨trivial, rfl⟩
    · exact ⟨⟨hok, trivial⟩, rfl⟩

/-- The token of the incarnation is held exclusively. -/
def TokenHeld (s : World) (i : UInt64) : Prop :=
  ∃ token party, token.incarnation = i ∧ (s.tokens token).exclusive = some party

/-- A step of an observer: it changes nothing of the others', knows what it has read, and
trusts a block only if the token of the block's incarnation is held. -/
theorem observerStep_cases {pc₀ pc : ObserverPc} (hs : s.RecordOk) (hok : s.ObserverOk pc₀)
    (hstep : s.observerStep p fault pc₀ = some (t, pc)) :
    Observed s t ∧ t.ObserverOk pc ∧
      ∀ o i, pc.trusts = some (o, i) → s.Carries o i ∧ s.TokenHeld i := by
  cases pc₀ with
  | idle | attached | refused | reported | left => cases hstep
  | attaching attach =>
    cases hstep
    obtain ⟨hnext, htrusts⟩ := observerOk_attachStep hs hok
    exact ⟨.refl, hnext, fun o i h => by rw [htrusts] at h; cases h⟩
  | attachProbe o i probe =>
    simp only [observerStep] at hstep
    split at hstep
    · next u next hprobe =>
      cases hstep
      obtain ⟨hobserved, hnext, -⟩ := probeStep_cases hok.2 hprobe
      exact ⟨hobserved, ⟨hobserved.carries hok.1, hnext next rfl⟩, nofun⟩
    · next u verdict hprobe =>
      cases hstep
      obtain ⟨hobserved, -, halive⟩ := probeStep_cases hok.2 hprobe
      cases verdict with
      | alive =>
        refine ⟨hobserved, hobserved.carries hok.1, fun o' i' h => ?_⟩
        cases h
        exact ⟨hok.1, halive rfl⟩
      | dead | unknown => exact ⟨hobserved, trivial, nofun⟩
  | inspecting o i inspection =>
    cases inspection with
    | done state =>
      cases state with
      | current =>
        cases hstep
        exact ⟨.refl, ⟨hok, trivial⟩, nofun⟩
      | gone | initializing | replaced | contractMismatch =>
        cases hstep
        exact ⟨.refl, hok, nofun⟩
    | _ =>
      cases hstep
      exact ⟨.refl, hok, nofun⟩
  | confirming o i probe =>
    simp only [observerStep] at hstep
    split at hstep
    · next u next hprobe =>
      cases hstep
      obtain ⟨hobserved, hnext, -⟩ := probeStep_cases hok.2 hprobe
      exact ⟨hobserved, ⟨hobserved.carries hok.1, hnext next rfl⟩, nofun⟩
    · next u verdict hprobe =>
      cases hstep
      obtain ⟨hobserved, -, halive⟩ := probeStep_cases hok.2 hprobe
      refine ⟨hobserved, hobserved.carries hok.1, fun o' i' h => ?_⟩
      cases verdict with
      | alive =>
        cases h
        exact ⟨hok.1, halive rfl⟩
      | dead takeover => cases takeover <;> cases h
      | unknown => cases h

theorem sound_observerStep {pc : ObserverPc} (hs : s.Sound)
    (hstep : s.observerStep p fault (s.observers p) = some (t, pc)) :
    (t.setObserver p pc).Sound := by
  obtain ⟨hobserved, hnext, -⟩ := observerStep_cases hs.record (hs.observers p) hstep
  exact hs.observe hobserved hnext

/-! ## Every action -/

/-- The death of a writer releases its locks. -/
theorem sound_crash (hs : s.Sound) : ((s.releaseAll (.writer w)).setWriter w .finished).Sound := by
  refine hs.keepRecord ⟨rfl, rfl, fun w' hne => ?_, fun w' hne f => ?_, fun f p h => ?_⟩
    ⟨rfl, rfl, fun _ => rfl, fun _ => rfl⟩ (.inr rfl) ⟨?_, fun f => ?_, trivial⟩
  · exact FileLock.exclusive_release_other fun h => hne (Party.writer.inj h)
  · exact FileLock.exclusive_release_other fun h => hne (Party.writer.inj h)
  · exact FileLock.exclusive_of_release h
  · exact iff_of_false FileLock.exclusive_release_self nofun
  · exact iff_of_false FileLock.exclusive_release_self nofun

theorem sound_leave (hs : s.Sound) : ((s.releaseAll (.observer p)).setObserver p .left).Sound := by
  refine hs.observe
    ⟨rfl, rfl, rfl, rfl, rfl, rfl, fun w => ?_, fun w f => ?_, fun f q h => ?_⟩ trivial
  · exact FileLock.exclusive_release_other nofun
  · exact FileLock.exclusive_release_other nofun
  · exact FileLock.exclusive_of_release h

/-- Every action keeps the protocol sound, unless it wraps the counter. -/
theorem sound_step {a : Action} (hs : s.Sound) (hstep : s.step a = some s')
    (hwrap : s.counter ≤ s'.counter) : s'.Sound := by
  cases a with
  | start w =>
    simp only [step] at hstep
    split at hstep
    · next hpc =>
      cases hstep
      exact hs.quiet hpc .refl (.inr rfl) rfl rfl trivial
    · cases hstep
  | writer w fault =>
    obtain ⟨⟨t, pc⟩, hmove, rfl⟩ := Option.map_eq_some_iff.mp hstep
    exact sound_writerStep hs rfl hmove hwrap
  | drop w =>
    simp only [step] at hstep
    split at hstep
    · next lease o hpc =>
      cases hstep
      have hok := hs.writers w
      rw [hpc] at hok
      exact hs.quiet hpc .refl (.inr rfl) rfl rfl hok.facts
    · cases hstep
  | crash w =>
    cases hstep
    exact sound_crash hs
  | attach p =>
    simp only [step] at hstep
    split at hstep
    · cases hstep
      exact hs.observe .refl trivial
    · cases hstep
      exact hs.observe .refl trivial
    · cases hstep
      exact hs.observe .refl trivial
    · cases hstep
      exact hs.observe .refl trivial
    · cases hstep
  | poll p =>
    have hok := hs.observers p
    simp only [step] at hstep
    split at hstep
    · next o i hpc =>
      cases hstep
      rw [hpc] at hok
      exact hs.observe .refl hok
    · next o i state hpc =>
      cases hstep
      rw [hpc] at hok
      exact hs.observe .refl hok
    · cases hstep
  | observer p fault =>
    obtain ⟨⟨t, pc⟩, hmove, rfl⟩ := Option.map_eq_some_iff.mp hstep
    exact sound_observerStep hs hmove
  | leave p =>
    cases hstep
    exact sound_leave hs

theorem sound_initial : initial.Sound where
  writers _ := ⟨iff_of_false nofun nofun, fun _ => iff_of_false nofun nofun, trivial⟩
  tokens _ _ := nofun
  record := ⟨nofun, .nil, fun _ h => absurd rfl h, fun _ h => absurd rfl h⟩
  observers _ := trivial

/-- Every state a run reaches is sound. -/
theorem sound_path {run : List Action} (hrun : protocol.Path initial run s) : s.Sound := by
  have hmove : ∀ a x b, protocol.step a x b → True → a.Sound → b.Sound :=
    fun _ _ _ hstep _ h => sound_step h hstep.1 hstep.2
  exact hrun.invariant hmove (fun _ _ => trivial) sound_initial

end World

end Aviate.Shm
