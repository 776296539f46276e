import Aviate.Foundations.ByteBuffer
import Aviate.Foundations.Machine

/-!
# Flash memory under firmware update

The memory layout (`stm32h743/src/memory.rs`) and the flash interface that the USB DFU class
drives (`stm32h743/src/update_backend.rs`). The flash is in sectors of 128 KB; a start with
sector number `s` in the control register of bank 1 erases the sector `s` of that bank.

An operation leaves what it did to the flash as its effects.
-/

namespace Aviate.Boot

/-! ## Layout -/

def sectorSize : UInt32 := 128 * 1024

def bootloaderSize : UInt32 := sectorSize

def flashBase : UInt32 := 0x08000000

def appStart : UInt32 := flashBase + bootloaderSize

def flashEnd : UInt32 := flashBase + 2 * 1024 * 1024

/-- The first address of bank 2. -/
def bank2Start : UInt32 := 0x08100000

/-- The sector of an address, counted over both banks. -/
def sectorOf (address : UInt32) : Nat := ((address - flashBase) / sectorSize).toNat

/-- The address lies in a sector of bank 1. -/
def inSector (sector : UInt8) (address : UInt32) : Bool :=
  flashBase ≤ address && sectorOf address == sector.toNat

/-! ## Requests -/

/-- `BUFFER_SIZE`, and the transfer size of the DFU class. -/
def bufferSize : Nat := 128

/-- A length up to the transfer size. -/
abbrev TransferLength := { n : Nat // n ≤ bufferSize }

inductive DfuMemError where
  | address
deriving DecidableEq, Repr

inductive Request where
  | read (address : UInt32) (length : TransferLength)
  | erase (address : UInt32)
  | eraseAll
  | storeWriteBuffer (src : Bytes)
  | program (address : UInt32) (length : TransferLength)

inductive Response where
  | data (result : Except DfuMemError Bytes)
  | done (result : Except DfuMemError Unit)
  | stored (result : Except Unit Unit)

/-- What is done to the flash: a sector of bank 1 erased, a byte programmed or read. -/
inductive Effect where
  | erased (sector : UInt8)
  | programmed (address : UInt32)
  | read (address : UInt32)
deriving DecidableEq, Repr

/-! ## The flash interface -/

/-- The bits of the control register of bank 1 that the code sets. -/
structure ControlRegister where
  lock : Bool
  ser : Bool
  pg : Bool
  snb : UInt8
deriving DecidableEq, Repr

structure FlashMemory where
  cr : ControlRegister
  memory : UInt32 → UInt8
  buffer : Vector UInt8 bufferSize
  bufferLen : Nat
  erasePending : Bool

namespace FlashMemory

def new (memory : UInt32 → UInt8) (cr : ControlRegister) : FlashMemory :=
  { cr, memory, buffer := Vector.replicate bufferSize 0xFF, bufferLen := 0, erasePending := false }

/-- Both keys are written when the register is locked. -/
def unlock (self : FlashMemory) : FlashMemory := { self with cr := { self.cr with lock := false } }

def lock (self : FlashMemory) : FlashMemory := { self with cr := { self.cr with lock := true } }

/-- The flash becomes ready at last. -/
def completePendingErase (self : FlashMemory) : FlashMemory :=
  if self.erasePending then
    let self := { self with cr := { self.cr with ser := false } }.lock
    { self with erasePending := false }
  else self

/-- An unlocked start with `SER` erases the sector in `SNB`. -/
def start (self : FlashMemory) : List Effect × FlashMemory :=
  if !self.cr.lock && self.cr.ser then
    ([.erased self.cr.snb],
      { self with
        memory := fun address =>
          if inSector self.cr.snb address then 0xFF else self.memory address })
  else ([], self)

def startEraseSector (self : FlashMemory) (sector : UInt8) : List Effect × FlashMemory :=
  let self := self.completePendingErase.unlock
  let (effects, self) :=
    { self with cr := { self.cr with ser := true, snb := sector &&& 0x7 } }.start
  (effects, { self with erasePending := true })

/-- The `i`-th byte that a word at `address` programs, under wrapping addresses. -/
def wordByte (address : UInt32) (i : Nat) : UInt32 := address + UInt32.ofNat i

/-- Programming clears bits. The word is filled up with erased bytes. -/
def programWord (self : FlashMemory) (address : UInt32) (data : Bytes) :
    List Effect × FlashMemory :=
  let buffer := (data.take 32).rightpad 32 0xFF
  ((List.range 32).map fun i => .programmed (wordByte address i),
    { self with
      cr := { self.cr with pg := false }
      memory := fun target =>
        match buffer[(target - address).toNat]? with
        | some byte => self.memory target &&& byte
        | none => self.memory target })

def read (self : FlashMemory) (address : UInt32) (length : Nat) :
    Except DfuMemError Bytes × List Effect × FlashMemory :=
  let self := self.completePendingErase
  if address < appStart || flashEnd < address + UInt32.ofNat length then
    (.error .address, [], self)
  else
    let addresses := (List.range length).map (wordByte address)
    (.ok (addresses.map self.memory), addresses.map .read, self)

def erase (self : FlashMemory) (address : UInt32) :
    Except DfuMemError Unit × List Effect × FlashMemory :=
  if address < appStart || flashEnd ≤ address then (.error .address, [], self)
  else
    let sector := ((address - flashBase) / sectorSize).toUInt8
    if sector = 0 then (.error .address, [], self)
    else (.ok (), self.startEraseSector sector)

/-- Sectors 1 to 7, one after the other. -/
def eraseSectors (self : FlashMemory) : List UInt8 → List Effect × FlashMemory
  | [] => ([], self)
  | sector :: sectors =>
    let (effects, self) := self.startEraseSector sector
    let (rest, self) := self.completePendingErase.eraseSectors sectors
    (effects ++ rest, self)

def eraseAll (self : FlashMemory) : Except DfuMemError Unit × List Effect × FlashMemory :=
  (.ok (), self.eraseSectors [1, 2, 3, 4, 5, 6, 7])

def storeWriteBuffer (self : FlashMemory) (src : Bytes) : Except Unit Unit × FlashMemory :=
  if bufferSize < src.length then (.error (), self)
  else
    (.ok (),
      { self with
        buffer := Vector.ofFn fun i => src.getD i self.buffer[i]
        bufferLen := src.length })

/-- The loop of `program`, with a round for each offset below `length`. A round programs 32
bytes, so that fewer rounds are made. -/
def programLoop (self : FlashMemory) (address : UInt32) (length : Nat) :
    Nat → Nat → List Effect × FlashMemory
  | 0, _ => ([], self)
  | rounds + 1, offset =>
    if offset < length && offset < self.bufferLen then
      let stop := min (offset + 32) self.bufferLen
      let chunk := (self.buffer.toList.take stop).drop offset
      let (effects, self) := self.programWord (address + UInt32.ofNat offset) chunk
      let (rest, self) := self.programLoop address length rounds (offset + 32)
      (effects ++ rest, self)
    else ([], self)

def program (self : FlashMemory) (address : UInt32) (length : Nat) :
    Except DfuMemError Unit × List Effect × FlashMemory :=
  let self := self.completePendingErase
  if address < appStart || flashEnd < address + UInt32.ofNat length then
    (.error .address, [], self)
  else if address % 32 ≠ 0 then (.error .address, [], self)
  else
    let (effects, self) := self.unlock.programLoop address length length 0
    (.ok (), effects, { self.lock with bufferLen := 0 })

/-! ## Runs -/

structure Output where
  response : Response
  effects : List Effect

/-- The flash under the requests of the DFU class. -/
def machine : Machine FlashMemory Request Output where
  step
    | self, .read address length =>
      let (result, effects, self) := self.read address length
      (self, ⟨.data result, effects⟩)
    | self, .erase address =>
      let (result, effects, self) := self.erase address
      (self, ⟨.done result, effects⟩)
    | self, .eraseAll =>
      let (result, effects, self) := self.eraseAll
      (self, ⟨.done result, effects⟩)
    | self, .storeWriteBuffer src =>
      let (result, self) := self.storeWriteBuffer src
      (self, ⟨.stored result, []⟩)
    | self, .program address length =>
      let (result, effects, self) := self.program address length
      (self, ⟨.done result, effects⟩)

end FlashMemory

end Aviate.Boot
