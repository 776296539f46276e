import Aviate.Foundations.FileLock
import Aviate.Foundations.Refinement
import Aviate.Shm.Contract

/-!
# The writer lease of a shared block

The parties that meet behind one shared-memory name: writers that create the block, and
observers that attach to it and ask later whether its writer is still the one they attached
to. Each system call and each access to the shared memory is one step, in which a call may
fail; steps of different parties interleave freely, and a party can die between any two of
them, when the kernel releases its locks. A step that touches nothing shared, such as
unmapping or closing a descriptor without a lock, is part of the step before it. The eight
bytes of the counter are read or written in one step.
-/

namespace Aviate.Shm

/-- Who opened a file: a writer's start or an observer. -/
inductive Party where
  | writer (w : Nat)
  | observer (p : Nat)
deriving DecidableEq

/-- A file created at a token path: the incarnation in the path, and how many files had been
created there before. -/
structure TokenFile where
  incarnation : UInt64
  birth : Nat
deriving DecidableEq

structure SharedObject where
  size : Nat
  header : SharedStateHeader

def SharedObject.zero : SharedObject := ⟨0, .zero⟩

/-- An incarnation a writer stamped into an object. -/
structure Stamp where
  writer : Nat
  incarnation : UInt64
  object : Nat

/-! ## Writers -/

/-- An exclusively held lease. The token's path carries the incarnation. -/
structure WriterLease where
  incarnation : UInt64
  token : TokenFile
  named : token.incarnation = incarnation

/-- The header fields in the order a writer stores them. -/
inductive HeaderField where
  | magic
  | layoutVersion
  | declaredSize
  | resetGeneration
  | writerIncarnation
  | pluginReady
deriving DecidableEq

/-- The next access of `writer_state`, with what it has read. -/
inductive Inspection where
  | shmOpen
  | fstat (object : Nat)
  | mmap (object : Nat)
  | readyFirst (object : Nat)
  | loadMagic (object : Nat)
  | loadVersion (object : Nat) (magic : UInt64)
  | loadDeclared (object : Nat) (magic : UInt64) (version : UInt32)
  | loadIncarnation (object : Nat) (magic : UInt64) (version declared : UInt32)
  | readyAgain (object : Nat) (magic : UInt64) (version declared : UInt32) (incarnation : UInt64)
  | done (state : WriterState)

/-- What a writer does next. -/
inductive WriterPc where
  | idle
  | openLease
  | lockLease (attempt : Nat)
  | readCounter
  | writeCounter (prev : UInt64)
  | openToken (prev incarnation : UInt64)
  | lockToken (prev : UInt64) (token : TokenFile) (attempt : Nat)
  | unlinkToken (prev : UInt64) (lease : WriterLease)
  | unlinkName (lease : WriterLease)
  | openObject (lease : WriterLease)
  | truncate (lease : WriterLease) (object : Nat)
  | map (lease : WriterLease) (object : Nat)
  | store (lease : WriterLease) (object : Nat) (field : HeaderField)
  | running (lease : WriterLease) (object : Nat)
  | inspect (lease : WriterLease) (object : Nat) (inspection : Inspection)
  | clearReady (lease : WriterLease) (object : Nat) (ours : Bool)
  | unlinkOwn (lease : WriterLease) (object : Nat)
  | discard (lease : WriterLease)
  | closeToken (lease : WriterLease)
  | closeLease
  | finished

/-! ## Observers -/

/-- The next access of `writer_liveness`. -/
inductive Probe where
  | openToken
  | lockToken (token : TokenFile)
  | closeToken (token : TokenFile)
  | openLease
  | lockLease
  | closeLease

inductive WriterLiveness where
  | alive
  | dead (takeoverInProgress : Bool)
  | unknown
deriving DecidableEq

/-- The next access of `attach`, with what it has read. -/
inductive Attach where
  | shmOpen
  | fstat (object : Nat)
  | mmap (object actual : Nat)
  | loadReady (object actual : Nat)
  | loadMagic (object actual : Nat)
  | loadVersion (object actual : Nat) (magic : UInt64)
  | loadDeclared (object actual : Nat) (magic : UInt64) (version : UInt32)
  | loadIncarnation (object : Nat)
  | readyAgain (object : Nat) (incarnation : UInt64)

/-- What an observer does next, or the result of its last call. -/
inductive ObserverPc where
  | idle
  | attaching (attach : Attach)
  | attachProbe (object : Nat) (incarnation : UInt64) (probe : Probe)
  | attached (object : Nat) (incarnation : UInt64)
  | refused (failure : AttachFailure)
  | inspecting (object : Nat) (incarnation : UInt64) (inspection : Inspection)
  | confirming (object : Nat) (incarnation : UInt64) (probe : Probe)
  | reported (object : Nat) (incarnation : UInt64) (state : WriterState)
  | left

/-! ## The world behind a name -/

/-- What the parties share, and where each of them is. Lease and token files exist from their
first opening; `stamps` is the history of the incarnations stamped so far. -/
structure World where
  leaseExists : Bool
  counter : UInt64
  lease : FileLock Party
  tokenPath : UInt64 → Option Nat
  tokenBirths : UInt64 → Nat
  tokens : TokenFile → FileLock Party
  name : Option Nat
  objects : List SharedObject
  writers : Nat → WriterPc
  observers : Nat → ObserverPc
  stamps : List Stamp

namespace World

/-- Before any writer: no file and no object. -/
def initial : World where
  leaseExists := false
  counter := 0
  lease := .free
  tokenPath _ := none
  tokenBirths _ := 0
  tokens _ := .free
  name := none
  objects := []
  writers _ := .idle
  observers _ := .idle
  stamps := []

/-- The header of an object; a created object is filled with zeros. -/
def header (s : World) (object : Nat) : SharedStateHeader :=
  (s.objects.getD object .zero).header

def size (s : World) (object : Nat) : Nat := (s.objects.getD object .zero).size

/-- Change the header of an object. -/
def modifyHeader (s : World) (object : Nat) (f : SharedStateHeader → SharedStateHeader) : World :=
  { s with objects := s.objects.modify object fun o => { o with header := f o.header } }

def setToken (s : World) (token : TokenFile) (lock : FileLock Party) : World :=
  { s with tokens := Function.update s.tokens token lock }

/-- Everything a party holds is released. -/
def releaseAll (s : World) (party : Party) : World :=
  { s with
    lease := s.lease.release party
    tokens := fun token => (s.tokens token).release party }

/-! ## Reading a block -/

/-- `validate_attach` on a mapped block, as `inspect` uses it. -/
def classify (magic : UInt64) (version declared : UInt32) (incarnation attached : UInt64) :
    WriterState :=
  match validateAttach magic version declared expectedSize with
  | .error _ => .contractMismatch
  | .ok _ => if incarnation ≠ attached then .replaced else .current

/-- One access of `writer_state` and `inspect`. -/
def inspectStep (s : World) (attached : UInt64) (fault : Bool) : Inspection → Inspection
  | .shmOpen =>
    match s.name with
    | none => .done .gone
    | some o => if fault then .done .gone else .fstat o
  | .fstat o =>
    if fault then .done .gone
    else if s.size o = 0 then .done .initializing
    else if s.size o < expectedSize then .done .contractMismatch
    else .mmap o
  | .mmap o => if fault then .done .gone else .readyFirst o
  | .readyFirst o => if (s.header o).pluginReady = 0 then .done .initializing else .loadMagic o
  | .loadMagic o => .loadVersion o (s.header o).magic
  | .loadVersion o magic => .loadDeclared o magic (s.header o).layoutVersion
  | .loadDeclared o magic version => .loadIncarnation o magic version (s.header o).declaredSize
  | .loadIncarnation o magic version declared =>
    .readyAgain o magic version declared (s.header o).writerIncarnation
  | .readyAgain o magic version declared incarnation =>
    if (s.header o).pluginReady = 0 then .done .initializing
    else .done (classify magic version declared incarnation attached)
  | .done state => .done state

/-! ## Writers -/

/-- `ACQUIRE_ATTEMPTS`. -/
def acquireAttempts : Nat := 25

/-- The counter's next value: zero is skipped. -/
def nextIncarnation (prev : UInt64) : UInt64 := if prev + 1 = 0 then 1 else prev + 1

/-- Store one header field, and the next access. Stamping the incarnation is recorded. -/
def storeField (s : World) (w : Nat) (lease : WriterLease) (o : Nat) :
    HeaderField → World × WriterPc
  | .magic =>
    (s.modifyHeader o fun h => { h with magic := Shm.magic }, .store lease o .layoutVersion)
  | .layoutVersion =>
    (s.modifyHeader o fun h => { h with layoutVersion := Shm.layoutVersion },
      .store lease o .declaredSize)
  | .declaredSize =>
    (s.modifyHeader o fun h => { h with declaredSize := UInt32.ofNat expectedSize },
      .store lease o .resetGeneration)
  | .resetGeneration =>
    (s.modifyHeader o fun h => { h with resetGeneration := 1 }, .store lease o .writerIncarnation)
  | .writerIncarnation =>
    ({ s.modifyHeader o fun h => { h with writerIncarnation := lease.incarnation } with
        stamps := ⟨w, lease.incarnation, o⟩ :: s.stamps }, .store lease o .pluginReady)
  | .pluginReady => (s.modifyHeader o fun h => { h with pluginReady := 1 }, .running lease o)

/-- The next step of writer `w`, in which the system call it makes may fail: `acquire`,
`create` and the two `drop`s. -/
def writerStep (s : World) (w : Nat) (fault : Bool) : WriterPc → Option (World × WriterPc)
  | .idle => none
  | .openLease =>
    if fault then some (s, .finished) else some ({ s with leaseExists := true }, .lockLease 0)
  | .lockLease attempt =>
    if fault then some (s, .finished)
    else
      match s.lease.tryExclusive (.writer w) with
      | some lock => some ({ s with lease := lock }, .readCounter)
      | none =>
        if attempt + 1 < acquireAttempts then some (s, .lockLease (attempt + 1))
        else some (s, .finished)
  | .readCounter => if fault then some (s, .closeLease) else some (s, .writeCounter s.counter)
  | .writeCounter prev =>
    if fault then some (s, .closeLease)
    else
      some ({ s with counter := nextIncarnation prev }, .openToken prev (nextIncarnation prev))
  | .openToken prev incarnation =>
    if fault then some (s, .closeLease)
    else
      match s.tokenPath incarnation with
      | some birth => some (s, .lockToken prev ⟨incarnation, birth⟩ 0)
      | none =>
        let birth := s.tokenBirths incarnation
        some ({ s with
          tokenPath := Function.update s.tokenPath incarnation (some birth)
          tokenBirths := Function.update s.tokenBirths incarnation (birth + 1) },
          .lockToken prev ⟨incarnation, birth⟩ 0)
  | .lockToken prev token attempt =>
    if fault then some (s, .closeLease)
    else
      match (s.tokens token).tryExclusive (.writer w) with
      | some lock => some (s.setToken token lock, .unlinkToken prev ⟨token.incarnation, token, rfl⟩)
      | none =>
        if attempt + 1 < acquireAttempts then some (s, .lockToken prev token (attempt + 1))
        else some (s, .closeLease)
  | .unlinkToken prev lease =>
    -- A predecessor's token that stays behind is not an error.
    if prev ≠ 0 ∧ prev ≠ lease.incarnation ∧ fault = false then
      some ({ s with tokenPath := Function.update s.tokenPath prev none }, .unlinkName lease)
    else some (s, .unlinkName lease)
  | .unlinkName lease =>
    -- The result of this `shm_unlink` is not looked at.
    some (if fault then s else { s with name := none }, .openObject lease)
  | .openObject lease =>
    if fault then some (s, .closeToken lease)
    else
      match s.name with
      | some o => some (s, .truncate lease o)
      | none =>
        some ({ s with name := some s.objects.length, objects := s.objects ++ [.zero] },
          .truncate lease s.objects.length)
  | .truncate lease o =>
    if fault then some (s, .discard lease)
    else
      some ({ s with objects := s.objects.modify o fun obj => { obj with size := expectedSize } },
        .map lease o)
  | .map lease o => if fault then some (s, .discard lease) else some (s, .store lease o .magic)
  | .store lease o field => some (s.storeField w lease o field)
  | .running _ _ => none
  | .inspect lease o (.done state) =>
    some (s, .clearReady lease o (state = .current || state = .initializing))
  | .inspect lease o inspection =>
    some (s, .inspect lease o (s.inspectStep lease.incarnation fault inspection))
  | .clearReady lease o ours =>
    some (s.modifyHeader o fun h => { h with pluginReady := 0 },
      if ours then .unlinkOwn lease o else .closeToken lease)
  | .unlinkOwn lease _ => some (if fault then s else { s with name := none }, .closeToken lease)
  | .discard lease => some (if fault then s else { s with name := none }, .closeToken lease)
  | .closeToken lease =>
    some (s.setToken lease.token ((s.tokens lease.token).release (.writer w)), .closeLease)
  | .closeLease => some ({ s with lease := s.lease.release (.writer w) }, .finished)
  | .finished => none

/-! ## Observers -/

/-- One access of `writer_liveness`: what to do next, or the verdict. -/
def probeStep (s : World) (p : Nat) (incarnation : UInt64) (fault : Bool) :
    Probe → World × (Probe ⊕ WriterLiveness)
  | .openToken =>
    match s.tokenPath incarnation with
    | none => if fault then (s, .inr .unknown) else (s, .inl .openLease)
    | some birth =>
      if fault then (s, .inr .unknown) else (s, .inl (.lockToken ⟨incarnation, birth⟩))
  | .lockToken token =>
    if fault then (s, .inr .unknown)
    else
      match (s.tokens token).tryShared (.observer p) with
      | none => (s, .inr .alive)
      | some lock => (s.setToken token lock, .inl (.closeToken token))
  | .closeToken token =>
    (s.setToken token ((s.tokens token).release (.observer p)), .inl .openLease)
  | .openLease =>
    if fault then (s, .inr .unknown)
    else if s.leaseExists then (s, .inl .lockLease)
    else (s, .inr (.dead false))
  | .lockLease =>
    if fault then (s, .inr .unknown)
    else
      match s.lease.tryShared (.observer p) with
      | none => (s, .inr (.dead true))
      | some lock => ({ s with lease := lock }, .inl .closeLease)
  | .closeLease => ({ s with lease := s.lease.release (.observer p) }, .inr (.dead false))

/-- One access of `attach` before its liveness probe. -/
def attachStep (s : World) (fault : Bool) : Attach → ObserverPc
  | .shmOpen =>
    match s.name with
    | none => .refused .io
    | some o => if fault then .refused .io else .attaching (.fstat o)
  | .fstat o =>
    if fault then .refused .io
    else if s.size o = 0 then .refused .notReady
    else if s.size o < expectedSize then .refused (.contract (.mappingTooSmall (s.size o)))
    else .attaching (.mmap o (s.size o))
  | .mmap o actual => if fault then .refused .io else .attaching (.loadReady o actual)
  | .loadReady o actual =>
    if (s.header o).pluginReady = 0 then .refused .notReady else .attaching (.loadMagic o actual)
  | .loadMagic o actual => .attaching (.loadVersion o actual (s.header o).magic)
  | .loadVersion o actual magic =>
    .attaching (.loadDeclared o actual magic (s.header o).layoutVersion)
  | .loadDeclared o actual magic version =>
    match validateAttach magic version (s.header o).declaredSize actual with
    | .error e => .refused (.contract e)
    | .ok _ => .attaching (.loadIncarnation o)
  | .loadIncarnation o => .attaching (.readyAgain o (s.header o).writerIncarnation)
  | .readyAgain o incarnation =>
    if (s.header o).pluginReady = 0 then .refused .notReady
    else .attachProbe o incarnation .openToken

/-- The result of `attach` for a verdict on the block's writer. -/
def attachVerdict (o : Nat) (incarnation : UInt64) : WriterLiveness → ObserverPc
  | .alive => .attached o incarnation
  | .dead _ => .refused .notReady
  | .unknown => .refused .io

/-- `confirm_alive`: what a verdict makes of a raw `Current`. -/
def confirmAlive : WriterLiveness → WriterState
  | .alive => .current
  | .dead true => .replaced
  | .dead false => .gone
  | .unknown => .gone

/-- The next step of observer `p`: `attach` and `writer_state`. -/
def observerStep (s : World) (p : Nat) (fault : Bool) : ObserverPc → Option (World × ObserverPc)
  | .attaching attach => some (s, s.attachStep fault attach)
  | .attachProbe o incarnation probe =>
    match s.probeStep p incarnation fault probe with
    | (t, .inl next) => some (t, .attachProbe o incarnation next)
    | (t, .inr verdict) => some (t, attachVerdict o incarnation verdict)
  | .inspecting o incarnation (.done .current) =>
    some (s, .confirming o incarnation .openToken)
  | .inspecting o incarnation (.done state) => some (s, .reported o incarnation state)
  | .inspecting o incarnation inspection =>
    some (s, .inspecting o incarnation (s.inspectStep incarnation fault inspection))
  | .confirming o incarnation probe =>
    match s.probeStep p incarnation fault probe with
    | (t, .inl next) => some (t, .confirming o incarnation next)
    | (t, .inr verdict) => some (t, .reported o incarnation (confirmAlive verdict))
  | _ => none

/-! ## Steps -/

/-- A writer or observer makes its next step, begins a call or dies. -/
inductive Action where
  | start (w : Nat)
  | writer (w : Nat) (fault : Bool)
  | drop (w : Nat)
  | crash (w : Nat)
  | attach (p : Nat)
  | poll (p : Nat)
  | observer (p : Nat) (fault : Bool)
  | leave (p : Nat)

def setWriter (s : World) (w : Nat) (pc : WriterPc) : World :=
  { s with writers := Function.update s.writers w pc }

def setObserver (s : World) (p : Nat) (pc : ObserverPc) : World :=
  { s with observers := Function.update s.observers p pc }

/-- The world after an action, if the action is possible. -/
def step (s : World) : Action → Option World
  | .start w =>
    match s.writers w with
    | .idle => some (s.setWriter w .openLease)
    | _ => none
  | .writer w fault =>
    (s.writerStep w fault (s.writers w)).map fun r => r.1.setWriter w r.2
  | .drop w =>
    match s.writers w with
    | .running lease o => some (s.setWriter w (.inspect lease o .shmOpen))
    | _ => none
  | .crash w => some ((s.releaseAll (.writer w)).setWriter w .finished)
  | .attach p =>
    match s.observers p with
    | .idle | .refused _ | .attached _ _ | .reported _ _ _ =>
      some (s.setObserver p (.attaching .shmOpen))
    | _ => none
  | .poll p =>
    match s.observers p with
    | .attached o incarnation | .reported o incarnation _ =>
      some (s.setObserver p (.inspecting o incarnation .shmOpen))
    | _ => none
  | .observer p fault =>
    (s.observerStep p fault (s.observers p)).map fun r => r.1.setObserver p r.2
  | .leave p => some ((s.releaseAll (.observer p)).setObserver p .left)

end World

open World in
/-- Any interleaving of the parties' steps while the counter does not wrap. -/
def protocol : TransitionSystem World Action where
  step s a s' := s.step a = some s' ∧ s.counter ≤ s'.counter

end Aviate.Shm
