import Aviate.Shm.LeaseInvariant

/-!
# A writer's steps keep the lease protocol sound

Results:
1. Granting and releasing the lease and the token, advancing the counter, stamping the
   incarnation and storing the ready flag keep the protocol sound (`sound_lockLease`,
   `sound_closeLease`, `sound_lockToken`, `sound_closeToken`, `sound_writeCounter`,
   `sound_stampIncarnation`, `sound_modifyReady`).
2. So does every step of a writer that does not wrap the counter (`sound_writerStep`).
-/

namespace Aviate.Shm

namespace World

variable {s s' t : World} {w p o : Nat} {pc : WriterPc} {fault : Bool}
  {f : SharedStateHeader → SharedStateHeader}

/-! ## Grants and releases -/

theorem sound_lockLease {attempt : Nat} {lock : FileLock Party} (hs : s.Sound)
    (hpc : s.writers w = .lockLease attempt)
    (hlock : s.lease.tryExclusive (.writer w) = some lock) :
    ({ s with lease := lock }.setWriter w .readCounter).Sound := by
  have hok := hs.writers w
  rw [hpc] at hok
  obtain ⟨-, hafter⟩ := FileLock.tryExclusive_eq_some hlock
  refine hs.keepRecord ⟨rfl, rfl, fun w' hne => ?_, fun _ _ _ => Iff.rfl, fun _ _ h => h⟩
    ⟨rfl, rfl, fun _ => rfl, fun _ => rfl⟩ (.inr rfl) ⟨iff_of_true hafter rfl, hok.token, trivial⟩
  exact FileLock.exclusive_tryExclusive_other hlock fun h => hne (Party.writer.inj h)

theorem sound_closeLease (hs : s.Sound) (hpc : s.writers w = .closeLease) :
    ({ s with lease := s.lease.release (.writer w) }.setWriter w .finished).Sound := by
  have hok := hs.writers w
  rw [hpc] at hok
  refine hs.keepRecord ⟨rfl, rfl, fun w' hne => ?_, fun _ _ _ => Iff.rfl, fun _ _ h => h⟩
    ⟨rfl, rfl, fun _ => rfl, fun _ => rfl⟩ (.inr rfl)
    ⟨iff_of_false FileLock.exclusive_release_self nofun, hok.token, trivial⟩
  exact FileLock.exclusive_release_other fun h => hne (Party.writer.inj h)

/-- What changes when one token's lock does. -/
theorem others_setToken {token : TokenFile} {lock : FileLock Party}
    (hwriter : ∀ w', w' ≠ w → (lock.exclusive = some (.writer w') ↔
      (s.tokens token).exclusive = some (.writer w')))
    (hobserver : ∀ p, lock.exclusive = some (.observer p) →
      (s.tokens token).exclusive = some (.observer p)) : Others s (s.setToken token lock) w := by
  refine ⟨rfl, rfl, fun _ _ => Iff.rfl, fun w' hne f => ?_, fun f p hf => ?_⟩
  · by_cases hf : f = token
    · subst hf
      simpa [setToken] using hwriter w' hne
    · simp [setToken, hf]
  · by_cases hft : f = token
    · subst hft
      simp only [setToken, Function.update_self] at hf
      exact hobserver p hf
    · simpa [setToken, hft] using hf

theorem sound_lockToken {prev : UInt64} {token : TokenFile} {attempt : Nat}
    {lock : FileLock Party} (hs : s.Sound) (hpc : s.writers w = .lockToken prev token attempt)
    (hlock : (s.tokens token).tryExclusive (.writer w) = some lock) :
    ((s.setToken token lock).setWriter w
      (.unlinkToken prev ⟨token.incarnation, token, rfl⟩)).Sound := by
  have hok := hs.writers w
  rw [hpc] at hok
  obtain ⟨-, hafter⟩ := FileLock.tryExclusive_eq_some hlock
  refine hs.keepRecord (others_setToken (fun w' hne => ?_) fun p hp => ?_)
    ⟨rfl, rfl, fun _ => rfl, fun _ => rfl⟩ (.inr rfl) ⟨hok.lease, fun f => ?_, hok.facts⟩
  · exact FileLock.exclusive_tryExclusive_other hlock fun h => hne (Party.writer.inj h)
  · rw [hafter] at hp
    cases hp
  · by_cases hf : f = token
    · subst hf
      simp [setToken, hafter, WriterPc.token?, WriterPc.lease?]
    · have hfree := hok.token f
      simp only [setToken, Function.update_of_ne hf, hfree, WriterPc.token?, WriterPc.lease?,
        Option.map_none, Option.map_some, Option.some.injEq]
      exact iff_of_false nofun fun h => hf h.symm

theorem sound_closeToken {lease : WriterLease} (hs : s.Sound)
    (hpc : s.writers w = .closeToken lease) :
    ((s.setToken lease.token ((s.tokens lease.token).release (.writer w))).setWriter w
      .closeLease).Sound := by
  have hok := hs.writers w
  rw [hpc] at hok
  refine hs.keepRecord (others_setToken (fun w' hne => ?_) fun p hp => ?_)
    ⟨rfl, rfl, fun _ => rfl, fun _ => rfl⟩ (.inr rfl) ⟨hok.lease, fun f => ?_, trivial⟩
  · exact FileLock.exclusive_release_other fun h => hne (Party.writer.inj h)
  · exact FileLock.exclusive_of_release hp
  · refine iff_of_false ?_ nofun
    by_cases hf : f = lease.token
    · subst hf
      simpa [setToken] using FileLock.exclusive_release_self
    · simp only [setToken, Function.update_of_ne hf, hok.token f, WriterPc.token?,
        WriterPc.lease?, Option.map_some, Option.some.injEq]
      exact fun h => hf h.symm

/-! ## Counting and stamping -/

theorem nextIncarnation_ne_zero (c : UInt64) : nextIncarnation c ≠ 0 := by
  unfold nextIncarnation
  split
  · decide
  · next h => exact h

/-- A counter that does not wrap grows. -/
theorem lt_nextIncarnation {c : UInt64} (h : c ≤ nextIncarnation c) : c < nextIncarnation c := by
  refine UInt64.lt_of_le_of_ne h fun heq => ?_
  unfold nextIncarnation at heq
  split at heq
  · next hzero =>
    rw [heq] at hzero
    cases hzero
  · have hnat := congrArg UInt64.toNat heq
    rw [UInt64.toNat_add] at hnat
    have hlt := c.toNat_lt
    simp at hnat
    omega

theorem sound_writeCounter {prev : UInt64} (hs : s.Sound) (hpc : s.writers w = .writeCounter prev)
    (hwrap : s.counter ≤ nextIncarnation prev) :
    ({ s with counter := nextIncarnation prev }.setWriter w
      (.openToken prev (nextIncarnation prev))).Sound := by
  have hok := hs.writers w
  rw [hpc] at hok
  have hprev : prev = s.counter := hok.facts
  subst hprev
  have hgrows := lt_nextIncarnation hwrap
  refine hs.move ⟨rfl, rfl, fun _ _ => Iff.rfl, fun _ _ _ => Iff.rfl, fun _ _ h => h⟩ (.inl ?_)
    ⟨hok.lease, hok.token, rfl, nextIncarnation_ne_zero _, fun t ht heq => ?_⟩
    ⟨fun t ht => ?_, hs.record.distinct, hs.record.carried, hs.record.ready⟩ fun p =>
      (hs.observers p).mono (fun _ ht => ht) fun _ ho => ho
  · rw [hpc]
    rfl
  · have hle := (hs.record.stamps t ht).2
    rw [heq] at hle
    exact absurd (UInt64.lt_of_le_of_lt hle hgrows) (UInt64.lt_irrefl _)
  · obtain ⟨hne, hle⟩ := hs.record.stamps t ht
    exact ⟨hne, UInt64.le_trans hle hwrap⟩

/-- A store that keeps the incarnation, and raises the ready flag only of a stamped block. -/
theorem recordOk_modifyHeader (hs : s.RecordOk)
    (hincarnation : ∀ h, (f h).writerIncarnation = h.writerIncarnation)
    (hready : o < s.objects.length → (f (s.header o)).pluginReady ≠ 0 →
      (s.header o).writerIncarnation ≠ 0) : (s.modifyHeader o f).RecordOk := by
  have hsame (o' : Nat) : ((s.modifyHeader o f).header o').writerIncarnation =
      (s.header o').writerIncarnation := by
    rcases header_modifyHeader (f := f) o' with h | ⟨-, -, h⟩
    · rw [h]
    · rw [h, hincarnation]
  refine ⟨hs.stamps, hs.distinct, fun o' hne => ?_, fun o' hne => ?_⟩
  · rw [hsame] at hne ⊢
    exact hs.carried o' hne
  · rw [hsame]
    rcases header_modifyHeader (s := s) (o := o) (f := f) o' with h | ⟨rfl, hlt, h⟩
    · rw [h] at hne
      exact hs.ready o' hne
    · rw [h] at hne
      exact hready hlt hne

theorem sound_stampIncarnation {lease : WriterLease} (hs : s.Sound)
    (hpc : s.writers w = .store lease o .writerIncarnation) :
    ((s.storeField w lease o .writerIncarnation).1.setWriter w
      (.store lease o .pluginReady)).Sound := by
  have hok := hs.writers w
  rw [hpc] at hok
  obtain ⟨hcounter, hne, hunused⟩ : s.Fresh lease.incarnation := hok.facts
  have hheader (o' : Nat) : (s.storeField w lease o .writerIncarnation).1.header o' = s.header o' ∨
      o' = o ∧ o < s.objects.length ∧ (s.storeField w lease o .writerIncarnation).1.header o' =
        { s.header o' with writerIncarnation := lease.incarnation } :=
    header_modifyHeader (s := s) (o := o)
      (f := fun h => { h with writerIncarnation := lease.incarnation }) o'
  refine hs.move ⟨rfl, rfl, fun _ _ => Iff.rfl, fun _ _ _ => Iff.rfl, fun _ _ h => h⟩ (.inl ?_)
    ⟨hok.lease, hok.token, ⟨o, List.mem_cons_self⟩, fun hlt => ?_⟩
    ⟨?_, ?_, fun o' hcarried => ?_, fun o' hready => ?_⟩ fun p =>
      (hs.observers p).mono (fun _ ht => List.mem_cons_of_mem _ ht) fun o' ho => ?_
  · rw [hpc]
    rfl
  · have hexists : o < s.objects.length := by simpa [storeField, modifyHeader] using hlt
    have hstamped : (s.storeField w lease o .writerIncarnation).1.header o =
        { s.header o with writerIncarnation := lease.incarnation } :=
      header_modifyHeader_self (s := s)
        (f := fun h => { h with writerIncarnation := lease.incarnation }) hexists
    rw [hstamped]
    exact hne
  · intro t ht
    rcases List.mem_cons.mp ht with rfl | ht
    · exact ⟨hne, hcounter ▸ UInt64.le_refl _⟩
    · exact hs.record.stamps t ht
  · refine List.nodup_cons.mpr ⟨fun hmem => ?_, hs.record.distinct⟩
    obtain ⟨t, ht, heq⟩ := List.mem_map.mp hmem
    exact hunused t ht heq
  · rcases hheader o' with h | ⟨rfl, -, h⟩
    · rw [h] at hcarried ⊢
      obtain ⟨w', hw'⟩ := hs.record.carried o' hcarried
      exact ⟨w', List.mem_cons_of_mem _ hw'⟩
    · rw [h]
      exact ⟨w, List.mem_cons_self⟩
  · rcases hheader o' with h | ⟨rfl, -, h⟩
    · rw [h] at hready ⊢
      exact hs.record.ready o' hready
    · rw [h]
      exact hne
  · rcases hheader o' with h | ⟨rfl, -, h⟩
    · rw [h]
      exact ho
    · rw [h]
      exact hne

/-- A store into the ready flag of the writer's own block. -/
theorem sound_modifyReady {pc₀ : WriterPc} {v : UInt32} (hs : s.Sound)
    (hpc : s.writers w = pc₀) (hholds : pc₀.holdsLease = true)
    (hready : o < s.objects.length → v ≠ 0 → (s.header o).writerIncarnation ≠ 0)
    (hlease : pc.holdsLease = true) (htoken : pc.token? = pc₀.token?)
    (hfacts : (s.modifyHeader o fun h => { h with pluginReady := v }).WriterFacts w pc) :
    ((s.modifyHeader o fun h => { h with pluginReady := v }).setWriter w pc).Sound := by
  have hok := hs.writers w
  rw [hpc] at hok
  refine hs.move ⟨rfl, rfl, fun _ _ => Iff.rfl, fun _ _ _ => Iff.rfl, fun _ _ h => h⟩ (.inl ?_)
    ⟨hok.lease.trans (iff_of_true hholds hlease), fun f => ?_, hfacts⟩
    (recordOk_modifyHeader hs.record (fun _ => rfl) hready) fun p =>
      (hs.observers p).mono (fun _ ht => ht) fun o' ho => ?_
  · rw [hpc]
    exact hholds
  · rw [htoken]
    exact hok.token f
  · rcases header_modifyHeader (s := s) (o := o) (f := fun h => { h with pluginReady := v }) o' with
      h | ⟨-, -, h⟩
    · rw [h]
      exact ho
    · rw [h]
      exact ho

/-! ## Every step of a writer -/

theorem sound_storeField {lease : WriterLease} {field : HeaderField} (hs : s.Sound)
    (hpc : s.writers w = .store lease o field) :
    ((s.storeField w lease o field).1.setWriter w (s.storeField w lease o field).2).Sound := by
  have hok := hs.writers w
  rw [hpc] at hok
  have hquiet {f : SharedStateHeader → SharedStateHeader} {next : HeaderField}
      (hincarnation : ∀ h, (f h).writerIncarnation = h.writerIncarnation)
      (hready : ∀ h, (f h).pluginReady = h.pluginReady) (hfresh : s.Fresh lease.incarnation)
      (hnext : next ≠ .pluginReady) :
      ((s.modifyHeader o f).setWriter w (.store lease o next)).Sound := by
    refine hs.quiet hpc ⟨rfl, rfl, rfl, rfl, sameRecord_modifyHeader hincarnation hready⟩
      (.inl rfl) rfl rfl ?_
    cases next with
    | pluginReady => exact absurd rfl hnext
    | _ => exact hfresh
  cases field with
  | magic => exact hquiet (fun _ => rfl) (fun _ => rfl) hok.facts nofun
  | layoutVersion => exact hquiet (fun _ => rfl) (fun _ => rfl) hok.facts nofun
  | declaredSize => exact hquiet (fun _ => rfl) (fun _ => rfl) hok.facts nofun
  | resetGeneration => exact hquiet (fun _ => rfl) (fun _ => rfl) hok.facts nofun
  | writerIncarnation => exact sound_stampIncarnation hs hpc
  | pluginReady =>
    exact sound_modifyReady hs hpc rfl (fun hlt _ => hok.facts.2 hlt) rfl rfl hok.facts.1

/-- Sizing an object changes no header. -/
theorem header_resize (o' : Nat) :
    ((s.objects.modify o fun obj => { obj with size := expectedSize }).getD o' .zero).header =
      s.header o' := by
  by_cases ho : o' = o
  · subst ho
    rcases Nat.lt_or_ge o' s.objects.length with hlt | hge
    · simp [header, List.getD_eq_getElem?_getD, hlt]
    · simp [header, List.getD_eq_getElem?_getD, hge]
  · simp [header, List.getD_eq_getElem?_getD, Ne.symm ho]

/-- A step of a writer that does not wrap the counter. -/
theorem sound_writerStep {pc₀ : WriterPc} (hs : s.Sound) (hpc : s.writers w = pc₀)
    (hstep : s.writerStep w fault pc₀ = some (t, pc)) (hwrap : s.counter ≤ t.counter) :
    (t.setWriter w pc).Sound := by
  have hok := hs.writers w
  rw [hpc] at hok
  have hfiles : ∀ o, (s.objects.getD o .zero).header = s.header o := fun _ => rfl
  cases pc₀ with
  | idle | running | finished => cases hstep
  | openLease =>
    simp only [writerStep] at hstep
    split at hstep
    · cases hstep
      exact hs.quiet hpc .refl (.inr rfl) rfl rfl trivial
    · cases hstep
      exact hs.quiet hpc (.files hfiles) (.inr rfl) rfl rfl trivial
  | lockLease attempt =>
    simp only [writerStep] at hstep
    split at hstep
    · cases hstep
      exact hs.quiet hpc .refl (.inr rfl) rfl rfl trivial
    · split at hstep
      · next lock hlock =>
        cases hstep
        exact sound_lockLease hs hpc hlock
      · split at hstep
        · cases hstep
          exact hs.quiet hpc .refl (.inr rfl) rfl rfl trivial
        · cases hstep
          exact hs.quiet hpc .refl (.inr rfl) rfl rfl trivial
  | readCounter =>
    simp only [writerStep] at hstep
    split at hstep
    · cases hstep
      exact hs.quiet hpc .refl (.inr rfl) rfl rfl trivial
    · cases hstep
      exact hs.quiet hpc .refl (.inr rfl) rfl rfl rfl
  | writeCounter prev =>
    simp only [writerStep] at hstep
    split at hstep
    · cases hstep
      exact hs.quiet hpc .refl (.inr rfl) rfl rfl trivial
    · cases hstep
      exact sound_writeCounter hs hpc hwrap
  | openToken prev incarnation =>
    simp only [writerStep] at hstep
    split at hstep
    · cases hstep
      exact hs.quiet hpc .refl (.inr rfl) rfl rfl trivial
    · split at hstep
      · cases hstep
        exact hs.quiet hpc .refl (.inr rfl) rfl rfl hok.facts
      · cases hstep
        exact hs.quiet hpc (.files hfiles) (.inr rfl) rfl rfl hok.facts
  | lockToken prev token attempt =>
    simp only [writerStep] at hstep
    split at hstep
    · cases hstep
      exact hs.quiet hpc .refl (.inr rfl) rfl rfl trivial
    · split at hstep
      · next lock hlock =>
        cases hstep
        exact sound_lockToken hs hpc hlock
      · split at hstep
        · cases hstep
          exact hs.quiet hpc .refl (.inr rfl) rfl rfl hok.facts
        · cases hstep
          exact hs.quiet hpc .refl (.inr rfl) rfl rfl trivial
  | unlinkToken prev lease =>
    simp only [writerStep] at hstep
    split at hstep
    · cases hstep
      exact hs.quiet hpc (.files hfiles) (.inr rfl) rfl rfl hok.facts
    · cases hstep
      exact hs.quiet hpc .refl (.inr rfl) rfl rfl hok.facts
  | unlinkName lease =>
    cases fault with
    | true =>
      cases hstep
      exact hs.quiet hpc .refl (.inr rfl) rfl rfl hok.facts
    | false =>
      cases hstep
      exact hs.quiet hpc (.files hfiles) (.inr rfl) rfl rfl hok.facts
  | openObject lease =>
    simp only [writerStep] at hstep
    split at hstep
    · cases hstep
      exact hs.quiet hpc .refl (.inr rfl) rfl rfl (.inl hok.facts)
    · split at hstep
      · cases hstep
        exact hs.quiet hpc .refl (.inr rfl) rfl rfl hok.facts
      · cases hstep
        exact hs.quiet hpc (.files header_append_zero) (.inl rfl) rfl rfl hok.facts
  | truncate lease o =>
    simp only [writerStep] at hstep
    split at hstep
    · cases hstep
      exact hs.quiet hpc .refl (.inr rfl) rfl rfl (.inl hok.facts)
    · cases hstep
      exact hs.quiet hpc (.files header_resize) (.inl rfl) rfl rfl hok.facts
  | map lease o =>
    simp only [writerStep] at hstep
    split at hstep
    · cases hstep
      exact hs.quiet hpc .refl (.inr rfl) rfl rfl (.inl hok.facts)
    · cases hstep
      exact hs.quiet hpc .refl (.inr rfl) rfl rfl hok.facts
  | store lease o field =>
    have hstored : (s.storeField w lease o field) = (t, pc) := Option.some.inj hstep
    have hsound := sound_storeField hs hpc
    rw [hstored] at hsound
    exact hsound
  | inspect lease o inspection =>
    have hmoved : t = s ∧ pc.holdsLease = true ∧ pc.token? = some lease.token ∧
        s.WriterFacts w pc := by
      cases inspection <;> cases hstep <;> exact ⟨rfl, rfl, rfl, hok.facts⟩
    obtain ⟨rfl, hlease, htoken, hfacts⟩ := hmoved
    exact hs.quiet hpc .refl (.inr rfl) hlease htoken hfacts
  | clearReady lease o ours =>
    cases hstep
    refine sound_modifyReady hs hpc rfl (fun _ h => absurd rfl h) ?_ ?_ ?_
    · cases ours <;> rfl
    · cases ours <;> rfl
    · cases ours with
      | true => exact hok.facts
      | false => exact .inr hok.facts
  | unlinkOwn lease o =>
    cases fault with
    | true =>
      cases hstep
      exact hs.quiet hpc .refl (.inr rfl) rfl rfl (.inr hok.facts)
    | false =>
      cases hstep
      exact hs.quiet hpc (.files hfiles) (.inr rfl) rfl rfl (.inr hok.facts)
  | discard lease =>
    cases fault with
    | true =>
      cases hstep
      exact hs.quiet hpc .refl (.inr rfl) rfl rfl hok.facts
    | false =>
      cases hstep
      exact hs.quiet hpc (.files hfiles) (.inr rfl) rfl rfl hok.facts
  | closeToken lease =>
    cases hstep
    exact sound_closeToken hs hpc
  | closeLease =>
    cases hstep
    exact sound_closeLease hs hpc

end World

end Aviate.Shm
