/-!
# The shared block's header and its attach rules

What a session may conclude about a block before it interprets a payload field, and what the
name it attached to can resolve to later.
-/

namespace Aviate.Shm

/-- `MAGIC`: the bytes `AVIATEGZ`. -/
def magic : UInt64 := 0x415649415445475A

def layoutVersion : UInt32 := 3

/-- `size_of::<SharedStateV2>()`: header, model state, motor command and control blocks. -/
def expectedSize : Nat := 64 + 192 + 128 + 64

structure SharedStateHeader where
  magic : UInt64
  layoutVersion : UInt32
  declaredSize : UInt32
  resetGeneration : UInt32
  pluginReady : UInt32
  writerIncarnation : UInt64
deriving DecidableEq

/-- The header of a block that was only created. -/
def SharedStateHeader.zero : SharedStateHeader := ⟨0, 0, 0, 0, 0, 0⟩

inductive AttachError where
  | badMagic (found : UInt64)
  | versionMismatch (found : UInt32)
  | declaredSizeMismatch (found : UInt32)
  | mappingTooSmall (actual : Nat)
  | initializing
deriving DecidableEq, Repr

/-- Magic, layout version, declared size and object size must agree with the contract. -/
def validateAttach (magic : UInt64) (layoutVersion declaredSize : UInt32)
    (actualObjectSize : Nat) : Except AttachError Unit :=
  if actualObjectSize = 0 then .error .initializing
  else if actualObjectSize < expectedSize then .error (.mappingTooSmall actualObjectSize)
  else if magic ≠ Shm.magic then .error (.badMagic magic)
  else if layoutVersion ≠ Shm.layoutVersion then .error (.versionMismatch layoutVersion)
  else if declaredSize.toNat ≠ expectedSize then .error (.declaredSizeMismatch declaredSize)
  else .ok ()

/-- What the object a name resolves to is, relative to the session that attached to it. -/
inductive WriterState where
  | current
  | gone
  | initializing
  | replaced
  | contractMismatch
deriving DecidableEq, Repr

inductive AttachFailure where
  | io
  | contract (error : AttachError)
  | notReady
deriving DecidableEq, Repr

/-- The header a writer stamps passes the attach rules. -/
example : validateAttach magic layoutVersion (UInt32.ofNat expectedSize) expectedSize = .ok () :=
  rfl

end Aviate.Shm
