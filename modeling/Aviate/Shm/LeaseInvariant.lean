import Aviate.Shm.Lease

/-!
# What every state of the lease protocol meets

The lease file is held by exactly the one writer that is between its grant and its release,
each token file by exactly the writer that locked it, and an incarnation is fresh until its
writer stamps it. What an observer has read of a ready block is an incarnation that somebody
stamped into that block.

Results:
1. At most one writer holds the lease (`World.Sound.unique`).
2. A move of one writer keeps the protocol sound if that writer and the record end up sound
   (`World.Sound.move`); a move that changes neither locks nor the record keeps what it held
   (`World.Sound.quiet`).
-/

namespace Aviate.Shm

/-! ## Where a writer is -/

namespace WriterPc

/-- From the grant of the lease to its release. -/
def holdsLease : WriterPc → Bool
  | idle | openLease | lockLease _ | finished => false
  | _ => true

/-- The granted lease, from the lock on the token to its release. -/
def lease? : WriterPc → Option WriterLease
  | unlinkToken _ lease | unlinkName lease | openObject lease | truncate lease _ | map lease _
  | store lease _ _ | running lease _ | inspect lease _ _ | clearReady lease _ _
  | unlinkOwn lease _ | discard lease | closeToken lease => some lease
  | _ => none

/-- The token file it holds. -/
def token? (pc : WriterPc) : Option TokenFile := pc.lease?.map WriterLease.token

/-- The object it created and not yet let go. -/
def object? : WriterPc → Option Nat
  | truncate _ o | map _ o | store _ o _ | running _ o | inspect _ o _ | clearReady _ o _
  | unlinkOwn _ o => some o
  | _ => none

theorem holdsLease_of_token {pc : WriterPc} {f : TokenFile} (h : pc.token? = some f) :
    pc.holdsLease = true := by
  cases pc with
  | idle | openLease | lockLease | finished => cases h
  | _ => rfl

end WriterPc

/-- The block and incarnation that a returned call vouches for: an attachment, or `Current`. -/
def ObserverPc.trusts : ObserverPc → Option (Nat × UInt64)
  | attached o i => some (o, i)
  | reported o i .current => some (o, i)
  | _ => none

/-! ## The record of incarnations -/

namespace World

/-- A granted incarnation that nobody has stamped. -/
def Fresh (s : World) (incarnation : UInt64) : Prop :=
  incarnation = s.counter ∧ incarnation ≠ 0 ∧ ∀ t ∈ s.stamps, t.incarnation ≠ incarnation

/-- The writer stamped the incarnation. -/
def Stamped (s : World) (w : Nat) (incarnation : UInt64) : Prop :=
  ∃ o, ⟨w, incarnation, o⟩ ∈ s.stamps

/-- Somebody stamped the incarnation into the object. -/
def Carries (s : World) (o : Nat) (incarnation : UInt64) : Prop :=
  ∃ w, ⟨w, incarnation, o⟩ ∈ s.stamps

/-- What holds of a writer's incarnation where the writer is. -/
def WriterFacts (s : World) (w : Nat) : WriterPc → Prop
  | .writeCounter prev => prev = s.counter
  | .openToken _ incarnation => s.Fresh incarnation
  | .lockToken _ token _ => s.Fresh token.incarnation
  | .unlinkToken _ lease | .unlinkName lease | .openObject lease | .truncate lease _
  | .map lease _ => s.Fresh lease.incarnation
  | .store lease o .pluginReady =>
    s.Stamped w lease.incarnation ∧
      (o < s.objects.length → (s.header o).writerIncarnation ≠ 0)
  | .store lease _ _ => s.Fresh lease.incarnation
  | .running lease _ | .inspect lease _ _ | .clearReady lease _ _ | .unlinkOwn lease _ =>
    s.Stamped w lease.incarnation
  | .discard lease | .closeToken lease =>
    s.Fresh lease.incarnation ∨ s.Stamped w lease.incarnation
  | _ => True

/-- A writer holds what its place in the protocol says. -/
structure WriterOk (s : World) (w : Nat) (pc : WriterPc) : Prop where
  lease : s.lease.exclusive = some (.writer w) ↔ pc.holdsLease = true
  token : ∀ f, (s.tokens f).exclusive = some (.writer w) ↔ pc.token? = some f
  facts : s.WriterFacts w pc

/-- The token file a probe opened is that of its incarnation. -/
def ProbeOk (incarnation : UInt64) : Probe → Prop
  | .lockToken token => token.incarnation = incarnation
  | _ => True

/-- What an observer has read of a block is what somebody stamped into it. -/
def ObserverOk (s : World) : ObserverPc → Prop
  | .attaching (.loadMagic o _) | .attaching (.loadVersion o _ _)
  | .attaching (.loadDeclared o _ _ _) | .attaching (.loadIncarnation o) =>
    (s.header o).writerIncarnation ≠ 0
  | .attaching (.readyAgain o incarnation) => s.Carries o incarnation
  | .attachProbe o incarnation probe | .confirming o incarnation probe =>
    s.Carries o incarnation ∧ ProbeOk incarnation probe
  | .attached o incarnation | .inspecting o incarnation _ | .reported o incarnation _ =>
    s.Carries o incarnation
  | _ => True

/-- The stamps so far, and the headers that carry them. -/
structure RecordOk (s : World) : Prop where
  stamps : ∀ t ∈ s.stamps, t.incarnation ≠ 0 ∧ t.incarnation ≤ s.counter
  distinct : (s.stamps.map Stamp.incarnation).Nodup
  carried : ∀ o, (s.header o).writerIncarnation ≠ 0 →
    s.Carries o (s.header o).writerIncarnation
  ready : ∀ o, (s.header o).pluginReady ≠ 0 → (s.header o).writerIncarnation ≠ 0

/-- What every state of the protocol meets. -/
structure Sound (s : World) : Prop where
  writers : ∀ w, s.WriterOk w (s.writers w)
  tokens : ∀ f p, (s.tokens f).exclusive ≠ some (.observer p)
  record : s.RecordOk
  observers : ∀ p, s.ObserverOk (s.observers p)

/-! ## Steps that leave the record alone -/

/-- The counter, the stamps and what headers say of their writer are the same. -/
structure SameRecord (s s' : World) : Prop where
  counter : s'.counter = s.counter
  stamps : s'.stamps = s.stamps
  incarnation : ∀ o, (s'.header o).writerIncarnation = (s.header o).writerIncarnation
  ready : ∀ o, (s'.header o).pluginReady = (s.header o).pluginReady

variable {s s' t : World} {w p o : Nat} {pc : WriterPc} {party : Party} {fault : Bool}
  {f : SharedStateHeader → SharedStateHeader}

theorem SameRecord.refl : SameRecord s s := ⟨rfl, rfl, fun _ => rfl, fun _ => rfl⟩

theorem SameRecord.record (h : SameRecord s s') (hs : s.RecordOk) : s'.RecordOk := by
  refine ⟨?_, ?_, fun o hne => ?_, fun o hready => ?_⟩
  · rw [h.stamps, h.counter]
    exact hs.stamps
  · rw [h.stamps]
    exact hs.distinct
  · rw [h.incarnation] at hne ⊢
    unfold Carries
    rw [h.stamps]
    exact hs.carried o hne
  · rw [h.ready] at hready
    rw [h.incarnation]
    exact hs.ready o hready

/-- An observer keeps what it knows while stamps are only added. -/
theorem ObserverOk.mono {pc : ObserverPc} (hok : s.ObserverOk pc)
    (hstamps : ∀ t ∈ s.stamps, t ∈ s'.stamps)
    (hheader : ∀ o, (s.header o).writerIncarnation ≠ 0 → (s'.header o).writerIncarnation ≠ 0) :
    s'.ObserverOk pc := by
  have hcarries {o : Nat} {i : UInt64} (h : s.Carries o i) : s'.Carries o i := by
    obtain ⟨w, hw⟩ := h
    exact ⟨w, hstamps _ hw⟩
  cases pc with
  | attaching attach =>
    cases attach with
    | loadMagic | loadVersion | loadDeclared | loadIncarnation => exact hheader _ hok
    | readyAgain => exact hcarries hok
    | shmOpen | fstat | mmap | loadReady => trivial
  | attachProbe | confirming => exact ⟨hcarries hok.1, hok.2⟩
  | attached | inspecting | reported => exact hcarries hok
  | idle | refused | left => trivial

theorem SameRecord.observer {pc : ObserverPc} (h : SameRecord s s') (hok : s.ObserverOk pc) :
    s'.ObserverOk pc := by
  refine hok.mono (fun t ht => ?_) fun o hne => ?_
  · rw [h.stamps]
    exact ht
  · rw [h.incarnation]
    exact hne

/-! ## Headers -/

/-- A store changes one header, if the object exists. -/
theorem header_modifyHeader (o' : Nat) :
    (s.modifyHeader o f).header o' = s.header o' ∨
      o' = o ∧ o < s.objects.length ∧ (s.modifyHeader o f).header o' = f (s.header o') := by
  by_cases ho : o' = o
  · subst ho
    rcases Nat.lt_or_ge o' s.objects.length with hlt | hge
    · refine .inr ⟨rfl, hlt, ?_⟩
      simp [header, modifyHeader, List.getD_eq_getElem?_getD, hlt]
    · refine .inl ?_
      simp [header, modifyHeader, List.getD_eq_getElem?_getD, hge]
  · refine .inl ?_
    simp [header, modifyHeader, List.getD_eq_getElem?_getD, Ne.symm ho]

theorem header_modifyHeader_self (ho : o < s.objects.length) :
    (s.modifyHeader o f).header o = f (s.header o) := by
  simp [header, modifyHeader, List.getD_eq_getElem?_getD, ho]

/-- A store that keeps the writer's fields keeps the record. -/
theorem sameRecord_modifyHeader
    (hincarnation : ∀ h, (f h).writerIncarnation = h.writerIncarnation)
    (hready : ∀ h, (f h).pluginReady = h.pluginReady) : SameRecord s (s.modifyHeader o f) := by
  refine ⟨rfl, rfl, fun o' => ?_, fun o' => ?_⟩
  · rcases header_modifyHeader (f := f) o' with h | ⟨-, -, h⟩
    · rw [h]
    · rw [h, hincarnation]
  · rcases header_modifyHeader (f := f) o' with h | ⟨-, -, h⟩
    · rw [h]
    · rw [h, hready]

/-- Creating an object changes no header. -/
theorem header_append_zero (o : Nat) :
    ((s.objects ++ [SharedObject.zero]).getD o .zero).header = s.header o := by
  simp only [header, List.getD_eq_getElem?_getD]
  rcases Nat.lt_trichotomy o s.objects.length with hlt | rfl | hgt
  · rw [List.getElem?_append_left hlt]
  · simp
  · rw [List.getElem?_eq_none (by simp; omega), List.getElem?_eq_none (by omega)]

/-! ## A writer's move -/

/-- What the other parties see of a move of writer `w`. -/
structure Others (s t : World) (w : Nat) : Prop where
  writers : t.writers = s.writers
  observers : t.observers = s.observers
  lease : ∀ w', w' ≠ w → (t.lease.exclusive = some (.writer w') ↔
    s.lease.exclusive = some (.writer w'))
  token : ∀ w', w' ≠ w → ∀ f, ((t.tokens f).exclusive = some (.writer w') ↔
    (s.tokens f).exclusive = some (.writer w'))
  tokens : ∀ f p, (t.tokens f).exclusive = some (.observer p) →
    (s.tokens f).exclusive = some (.observer p)

/-- At most one writer holds the lease. -/
theorem Sound.unique (hs : s.Sound) {w w' : Nat} (hw : (s.writers w).holdsLease = true)
    (hw' : (s.writers w').holdsLease = true) : w = w' := by
  have h := (hs.writers w).lease.mpr hw
  have h' := (hs.writers w').lease.mpr hw'
  rw [h, Option.some.injEq, Party.writer.injEq] at h'
  exact h'

theorem writerFacts_of_not_holdsLease (h : pc.holdsLease = false) : s.WriterFacts w pc := by
  cases pc with
  | idle | openLease | lockLease | finished => trivial
  | _ => cases h

/-- A granted incarnation is fresh until its writer stamps it. -/
theorem fresh_or_stamped {lease : WriterLease} (hlease : pc.lease? = some lease)
    (hfacts : s.WriterFacts w pc) : s.Fresh lease.incarnation ∨ s.Stamped w lease.incarnation := by
  cases pc with
  | idle | openLease | lockLease | readCounter | writeCounter | openToken | lockToken | closeLease
  | finished => cases hlease
  | unlinkToken | unlinkName | openObject | truncate | map =>
    cases hlease
    exact .inl hfacts
  | store lease o field =>
    cases hlease
    cases field with
    | pluginReady => exact .inr hfacts.1
    | _ => exact .inl hfacts
  | running | inspect | clearReady | unlinkOwn =>
    cases hlease
    exact .inr hfacts
  | discard | closeToken =>
    cases hlease
    exact hfacts

theorem writerFacts_congr (hcounter : t.counter = s.counter) (hstamps : t.stamps = s.stamps)
    (hobjects : t.objects = s.objects) (h : s.WriterFacts w pc) : t.WriterFacts w pc := by
  cases s
  cases t
  cases hcounter
  cases hstamps
  cases hobjects
  cases pc with
  | store lease o field => cases field <;> exact h
  | _ => exact h

/-- A move of writer `w` that keeps what it and the record have to meet. -/
theorem Sound.move (hs : s.Sound) (hothers : Others s t w)
    (hchange : (s.writers w).holdsLease = true ∨
      t.counter = s.counter ∧ t.stamps = s.stamps ∧ t.objects = s.objects)
    (hw : t.WriterOk w pc) (hrecord : t.RecordOk) (hobservers : ∀ p, t.ObserverOk (s.observers p)) :
    (t.setWriter w pc).Sound := by
  have hself : (t.setWriter w pc).writers w = pc := Function.update_self ..
  refine ⟨fun w' => ?_, fun f p h => ?_, ⟨hrecord.1, hrecord.2, hrecord.3, hrecord.4⟩, fun p => ?_⟩
  · by_cases hne : w' = w
    · subst hne
      rw [hself]
      exact ⟨hw.lease, hw.token, hw.facts⟩
    · have hother : (t.setWriter w pc).writers w' = s.writers w' := by
        rw [← hothers.writers]
        exact Function.update_of_ne hne ..
      have hok := hs.writers w'
      rw [hother]
      refine ⟨(hothers.lease w' hne).trans hok.lease,
        fun f => (hothers.token w' hne f).trans (hok.token f), ?_⟩
      rcases hchange with hholds | ⟨hcounter, hstamps, hobjects⟩
      · refine writerFacts_of_not_holdsLease (Bool.eq_false_iff.mpr fun hholds' => ?_)
        exact hne (hs.unique hholds' hholds)
      · exact writerFacts_congr hcounter hstamps hobjects hok.facts
  · exact hs.tokens f p (hothers.tokens f p h)
  · have hok := hobservers p
    rw [← hothers.observers] at hok
    exact hok.mono (fun _ ht => ht) fun _ ho => ho

/-- A move that keeps the record. -/
theorem Sound.keepRecord (hs : s.Sound) (hothers : Others s t w) (hsame : SameRecord s t)
    (hchange : (s.writers w).holdsLease = true ∨ t.objects = s.objects) (hw : t.WriterOk w pc) :
    (t.setWriter w pc).Sound :=
  hs.move hothers (hchange.imp_right fun h => ⟨hsame.counter, hsame.stamps, h⟩) hw
    (hsame.record hs.record) fun p => hsame.observer (hs.observers p)

/-- No lock changes hands and the record stays. -/
structure Quiet (s t : World) : Prop where
  lease : t.lease = s.lease
  tokens : t.tokens = s.tokens
  writers : t.writers = s.writers
  observers : t.observers = s.observers
  record : SameRecord s t

theorem Quiet.refl : Quiet s s := ⟨rfl, rfl, rfl, rfl, .refl⟩

/-- Files appear and disappear, and objects change in size. -/
theorem Quiet.files {leaseExists : Bool} {tokenPath : UInt64 → Option Nat}
    {tokenBirths : UInt64 → Nat} {name : Option Nat} {objects : List SharedObject}
    (h : ∀ o, (objects.getD o .zero).header = s.header o) :
    Quiet s { s with
      leaseExists := leaseExists, tokenPath := tokenPath, tokenBirths := tokenBirths
      name := name, objects := objects } :=
  ⟨rfl, rfl, rfl, rfl, rfl, rfl, fun o => congrArg SharedStateHeader.writerIncarnation (h o),
    fun o => congrArg SharedStateHeader.pluginReady (h o)⟩

theorem Quiet.others (h : Quiet s t) : Others s t w := by
  refine ⟨h.writers, h.observers, fun w' _ => ?_, fun w' _ f => ?_, fun f p hf => ?_⟩
  · rw [h.lease]
  · rw [h.tokens]
  · rw [← h.tokens]
    exact hf

theorem Quiet.fresh {i : UInt64} (h : Quiet s t) (hi : s.Fresh i) : t.Fresh i := by
  unfold Fresh
  rw [h.record.counter, h.record.stamps]
  exact hi

theorem Quiet.stamped {i : UInt64} (h : Quiet s t) (hi : s.Stamped w i) : t.Stamped w i := by
  unfold Stamped
  rw [h.record.stamps]
  exact hi

/-- A quiet move to a place where the writer holds the same. -/
theorem Sound.quiet {pc₀ : WriterPc} (hs : s.Sound) (hpc : s.writers w = pc₀) (ht : Quiet s t)
    (hchange : pc₀.holdsLease = true ∨ t.objects = s.objects)
    (hlease : pc.holdsLease = pc₀.holdsLease) (htoken : pc.token? = pc₀.token?)
    (hfacts : t.WriterFacts w pc) : (t.setWriter w pc).Sound := by
  have hok := hs.writers w
  rw [hpc] at hok
  refine hs.keepRecord ht.others ht.record ?_ ⟨?_, fun f => ?_, hfacts⟩
  · rw [hpc]
    exact hchange
  · rw [ht.lease, hlease]
    exact hok.lease
  · rw [ht.tokens, htoken]
    exact hok.token f

end World

end Aviate.Shm
