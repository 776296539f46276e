import Aviate.Boot.Flash

/-!
# The update path and the bootloader

What a sequence of DFU requests does to the flash. The range checks are on addresses, in both
banks and with wrapping sums; the erase is by a sector number of three bits, in bank 1.

Results:
1. `allowed_read`, `allowed_program`: what does not wrap stays in the application.
   `read_escapes`, `program_escapes`: what wraps passes the check and leaves it.
2. `erase_bank1`, `erase_bank2`: an erase in bank 2 erases the sector of bank 1 with the same
   number, the bootloader among them. `eraseAll_memory`: a full erase is of bank 1.
3. `dfuContract_iff`: a sequence keeps the contract if and only if no sum wraps, no erase is in
   bank 2 and a full erase finds bank 2 erased.
-/

namespace Aviate.Boot

/-! ## The contract -/

/-- The address is in `[APP_START, FLASH_END)`. -/
def InApplication (address : UInt32) : Prop := appStart ≤ address ∧ address < flashEnd

/-- The bootloader is not erased, and no byte outside the application is touched. -/
def Effect.Allowed : Effect → Prop
  | .erased sector => sector ≠ 0
  | .programmed address => InApplication address
  | .read address => InApplication address

namespace FlashMemory

/-- The sector is erased and the rest is as it was. -/
def ErasesSector (pre post : FlashMemory) (sector : Nat) : Prop :=
  ∀ address, post.memory address =
    if flashBase ≤ address ∧ sectorOf address = sector then 0xFF else pre.memory address

/-- What a request has to keep. -/
structure DfuContract (event : Machine.Event FlashMemory Request Output) : Prop where
  allowed : ∀ effect ∈ event.out.effects, effect.Allowed
  erase : ∀ address, event.op = .erase address → event.out.response = .done (.ok ()) →
    (∃ sector : UInt8, event.out.effects = [.erased sector] ∧
      sector.toNat = sectorOf address) ∧
    ErasesSector event.pre event.post (sectorOf address)
  eraseAll : event.op = .eraseAll → ∀ address, InApplication address →
    event.post.memory address = 0xFF

/-- The request reaches beyond what the checks see. -/
def Misses (self : FlashMemory) : Request → Prop
  | .read address length => 2 ^ 32 ≤ address.toNat + length.1
  | .erase address => bank2Start ≤ address ∧ address < flashEnd
  | .eraseAll => ∃ address, bank2Start ≤ address ∧ address < flashEnd ∧ self.memory address ≠ 0xFF
  | .storeWriteBuffer _ => False
  | .program address length =>
    address % 32 = 0 ∧ 2 ^ 32 ≤ address.toNat + length.1 ∧ 0 < self.bufferLen

/-! ## Addresses -/

section Addresses

variable {address : UInt32} {n : Nat}

theorem toNat_appStart : appStart.toNat = 0x08020000 := rfl

theorem toNat_flashEnd : flashEnd.toNat = 0x08200000 := rfl

theorem toNat_bank2Start : bank2Start.toNat = 0x08100000 := rfl

theorem inApplication_iff :
    InApplication address ↔ 0x08020000 ≤ address.toNat ∧ address.toNat < 0x08200000 := by
  rw [InApplication, UInt32.le_iff_toNat_le, UInt32.lt_iff_toNat_lt, toNat_appStart,
    toNat_flashEnd]

theorem toNat_wordByte :
    (wordByte address n).toNat = (address.toNat + n) % 2 ^ 32 := by
  rw [wordByte, UInt32.toNat_add, UInt32.toNat_ofNat', Nat.add_mod_mod]

/-- An address is not of the application when its range wraps. -/
theorem not_inApplication_of_wraps (h : 2 ^ 32 ≤ address.toNat + n) (hn : n ≤ bufferSize) :
    ¬ InApplication address := by
  intro hin
  have hupper := (inApplication_iff.mp hin).2
  have hsize : bufferSize = 128 := rfl
  omega

theorem sectorOf_eq (h : flashBase ≤ address) :
    sectorOf address = (address.toNat - 0x08000000) / 0x20000 := by
  rw [sectorOf, UInt32.toNat_div, UInt32.toNat_sub_of_le _ _ h]
  rfl

theorem flashBase_le (h : appStart ≤ address) : flashBase ≤ address := by
  rw [UInt32.le_iff_toNat_le] at h ⊢
  exact Nat.le_trans (by decide) h

/-- The range check, on numbers: it is passed within the application, or by a sum that wraps. -/
theorem check_iff (hn : n ≤ bufferSize) :
    (address < appStart || flashEnd < wordByte address n) = false ↔
      0x08020000 ≤ address.toNat ∧
        (address.toNat + n ≤ 0x08200000 ∨ 2 ^ 32 ≤ address.toNat + n) := by
  have haddress := address.toNat_lt
  have hsize : bufferSize = 128 := rfl
  rw [Bool.or_eq_false_iff, decide_eq_false_iff_not, decide_eq_false_iff_not, UInt32.not_lt,
    UInt32.not_lt, UInt32.le_iff_toNat_le, UInt32.le_iff_toNat_le, toNat_wordByte, toNat_appStart,
    toNat_flashEnd]
  omega

end Addresses

/-! ## Reading -/

section Requests

variable {self : FlashMemory} {address : UInt32} {length n : Nat} {effect : Effect}

@[simp] theorem completePendingErase_memory :
    self.completePendingErase.memory = self.memory := by
  unfold completePendingErase
  split <;> rfl

@[simp] theorem completePendingErase_bufferLen :
    self.completePendingErase.bufferLen = self.bufferLen := by
  unfold completePendingErase
  split <;> rfl

theorem read_eq (h : (address < appStart || flashEnd < wordByte address length) = false) :
    (self.read address length).2.1 =
      ((List.range length).map (wordByte address)).map .read := by
  rw [wordByte] at h
  simp [read, h]

theorem read_rejected (h : (address < appStart || flashEnd < wordByte address length) = true) :
    (self.read address length).2.1 = [] := by
  rw [wordByte] at h
  simp only [read, h, if_true]

/-- A read that does not wrap stays in the application. -/
theorem allowed_read (hlength : length ≤ bufferSize) (h : address.toNat + length < 2 ^ 32)
    (heffect : effect ∈ (self.read address length).2.1) : effect.Allowed := by
  cases hcheck : (address < appStart || flashEnd < wordByte address length) with
  | true =>
    rw [read_rejected hcheck] at heffect
    exact absurd heffect List.not_mem_nil
  | false =>
    rw [read_eq hcheck, List.mem_map] at heffect
    obtain ⟨target, htarget, rfl⟩ := heffect
    obtain ⟨i, hi, rfl⟩ := List.mem_map.mp htarget
    obtain ⟨hlower, hupper⟩ := (check_iff hlength).mp hcheck
    have hi' : i < length := List.mem_range.mp hi
    refine inApplication_iff.mpr ?_
    rw [toNat_wordByte, Nat.mod_eq_of_lt (by omega)]
    omega

/-- A read that wraps passes the check and starts outside the application. -/
theorem read_escapes (hlength : length ≤ bufferSize) (h : 2 ^ 32 ≤ address.toNat + length) :
    .read address ∈ (self.read address length).2.1 := by
  have haddress := address.toNat_lt
  have hsize : bufferSize = 128 := rfl
  have hcheck := (check_iff hlength).mpr ⟨show 0x08020000 ≤ address.toNat by omega, .inr h⟩
  rw [read_eq hcheck]
  refine List.mem_map_of_mem (List.mem_map.mpr ⟨0, List.mem_range.mpr (by omega), ?_⟩)
  exact UInt32.add_zero address

/-! ## Programming -/

/-- The loop programs words at the multiples of 32 below the length. -/
theorem mem_programLoop {rounds offset : Nat} (hoffset : offset % 32 = 0)
    (h : effect ∈ (self.programLoop address length rounds offset).1) :
    ∃ word i, word % 32 = 0 ∧ word < length ∧ i < 32 ∧
      effect = .programmed (wordByte (wordByte address word) i) := by
  induction rounds generalizing self offset with
  | zero => exact absurd h List.not_mem_nil
  | succ rounds ih =>
    rw [programLoop] at h
    split at h
    next hround =>
      rw [Bool.and_eq_true, decide_eq_true_eq, decide_eq_true_eq] at hround
      rcases List.mem_append.mp h with hword | hrest
      · obtain ⟨i, hi, rfl⟩ := List.mem_map.mp hword
        exact ⟨offset, i, hoffset, hround.1, List.mem_range.mp hi, rfl⟩
      · exact ih (by omega) hrest
    next => exact absurd h List.not_mem_nil

/-- The first word is at the address itself. -/
theorem programLoop_first {rounds : Nat} (hlength : 0 < length) (hbuffer : 0 < self.bufferLen) :
    .programmed address ∈ (self.programLoop address length (rounds + 1) 0).1 := by
  have hround : (decide (0 < length) && decide (0 < self.bufferLen)) = true := by
    simp [hlength, hbuffer]
  rw [programLoop, if_pos hround]
  refine List.mem_append_left _ (List.mem_map.mpr ⟨0, by decide, ?_⟩)
  exact congrArg Effect.programmed ((UInt32.add_zero _).trans (UInt32.add_zero address))

theorem program_eq (h : (address < appStart || flashEnd < wordByte address length) = false)
    (haligned : address % 32 = 0) :
    (self.program address length).2.1 =
      (self.completePendingErase.unlock.programLoop address length length 0).1 := by
  rw [wordByte] at h
  simp only [program, h, haligned, Bool.false_eq_true, if_false, ne_eq, not_true]

theorem program_rejected
    (h : (address < appStart || flashEnd < wordByte address length) = true ∨ address % 32 ≠ 0) :
    (self.program address length).2.1 = [] := by
  rw [wordByte] at h
  unfold program
  rcases h with h | h
  · simp only [h, if_true]
  · dsimp only
    split <;> rfl

/-- Programming that does not wrap stays in the application: the words are aligned. -/
theorem allowed_program (hlength : length ≤ bufferSize) (h : address.toNat + length < 2 ^ 32)
    (heffect : effect ∈ (self.program address length).2.1) : effect.Allowed := by
  cases hcheck : (address < appStart || flashEnd < wordByte address length) with
  | true =>
    rw [program_rejected (.inl hcheck)] at heffect
    exact absurd heffect List.not_mem_nil
  | false =>
    by_cases haligned : address % 32 = 0
    · rw [program_eq hcheck haligned] at heffect
      obtain ⟨word, i, hword, hbelow, hi, rfl⟩ := mem_programLoop rfl heffect
      obtain ⟨hlower, hupper⟩ := (check_iff hlength).mp hcheck
      have hmod : address.toNat % 32 = 0 := congrArg UInt32.toNat haligned
      refine inApplication_iff.mpr ?_
      rw [toNat_wordByte, toNat_wordByte, Nat.mod_eq_of_lt (show address.toNat + word < _ by omega),
        Nat.mod_eq_of_lt (by omega)]
      omega
    · rw [program_rejected (.inr haligned)] at heffect
      exact absurd heffect List.not_mem_nil

/-- Programming that wraps passes the check and starts outside the application. -/
theorem program_escapes (hlength : length ≤ bufferSize) (h : 2 ^ 32 ≤ address.toNat + length)
    (haligned : address % 32 = 0) (hbuffer : 0 < self.bufferLen) :
    .programmed address ∈ (self.program address length).2.1 := by
  have haddress := address.toNat_lt
  have hsize : bufferSize = 128 := rfl
  have hcheck := (check_iff hlength).mpr ⟨show 0x08020000 ≤ address.toNat by omega, .inr h⟩
  rw [program_eq hcheck haligned]
  cases length with
  | zero => omega
  | succ rounds =>
    refine programLoop_first (Nat.zero_lt_succ _) ?_
    exact completePendingErase_bufferLen.symm ▸ hbuffer

/-- Without a buffer nothing is programmed. -/
theorem program_empty (hbuffer : self.bufferLen = 0) :
    (self.program address length).2.1 = [] := by
  cases hcheck : (address < appStart || flashEnd < wordByte address length) with
  | true => exact program_rejected (.inl hcheck)
  | false =>
    by_cases haligned : address % 32 = 0
    · rw [program_eq hcheck haligned]
      have hempty : self.completePendingErase.unlock.bufferLen = 0 :=
        completePendingErase_bufferLen.trans hbuffer
      cases length with
      | zero => rfl
      | succ rounds => simp [programLoop, hempty]
    · exact program_rejected (.inr haligned)

/-! ## Erasing -/

variable {sector : UInt8}

/-- The sector number is cut to three bits. -/
theorem startEraseSector_effects :
    (self.startEraseSector sector).1 = [.erased (sector &&& 0x7)] := by
  simp [startEraseSector, start, unlock]

theorem startEraseSector_memory :
    (self.startEraseSector sector).2.memory = fun address =>
      if inSector (sector &&& 0x7) address then 0xFF else self.memory address := by
  simp [startEraseSector, start, unlock]

theorem eraseSectors_effects {sectors : List UInt8} :
    (self.eraseSectors sectors).1 = sectors.map fun sector => .erased (sector &&& 0x7) := by
  induction sectors generalizing self with
  | nil => rfl
  | cons sector sectors ih =>
    simp only [eraseSectors, startEraseSector_effects, ih, List.map_cons, List.singleton_append]

/-- What one of the sectors contains is erased. -/
theorem eraseSectors_memory {sectors : List UInt8} :
    (self.eraseSectors sectors).2.memory = fun address =>
      if sectors.any fun sector => inSector (sector &&& 0x7) address then 0xFF
      else self.memory address := by
  induction sectors generalizing self with
  | nil => rfl
  | cons sector sectors ih =>
    funext address
    simp only [eraseSectors, ih, completePendingErase_memory, startEraseSector_memory,
      List.any_cons, Bool.or_eq_true]
    cases inSector (sector &&& 0x7) address <;> simp

/-- A full erase is of the application sectors of bank 1. -/
theorem eraseAll_memory (h : InApplication address) :
    self.eraseAll.2.2.memory address =
      if address < bank2Start then 0xFF else self.memory address := by
  obtain ⟨hlower, hupper⟩ := inApplication_iff.mp h
  have hbase : flashBase ≤ address := flashBase_le h.1
  have hsector := sectorOf_eq hbase
  have hany : ([1, 2, 3, 4, 5, 6, 7].any fun sector => inSector (sector &&& 0x7) address) =
      decide (address < bank2Start) := by
    rw [Bool.eq_iff_iff, decide_eq_true_eq, UInt32.lt_iff_toNat_lt, toNat_bank2Start]
    simp [inSector, hbase, hsector]
    omega
  rw [eraseAll, eraseSectors_memory]
  simp only [hany, decide_eq_true_eq]

theorem erase_rejected (h : address < appStart || flashEnd ≤ address) :
    self.erase address = (.error .address, [], self) := by
  rw [erase, if_pos h]

theorem toNat_sector (h : InApplication address) :
    ((address - flashBase) / sectorSize).toUInt8.toNat = sectorOf address := by
  obtain ⟨hlower, hupper⟩ := inApplication_iff.mp h
  have hsector := sectorOf_eq (flashBase_le h.1)
  rw [UInt32.toNat_toUInt8]
  refine Nat.mod_eq_of_lt ?_
  rw [show ((address - flashBase) / sectorSize).toNat = sectorOf address from rfl, hsector]
  omega

theorem erase_accepted (h : InApplication address) :
    self.erase address =
      (.ok (), self.startEraseSector ((address - flashBase) / sectorSize).toUInt8) := by
  have hrange : (decide (address < appStart) || decide (flashEnd ≤ address)) = false := by
    simp [UInt32.not_lt.mpr h.1, UInt32.not_le.mpr h.2]
  have hsector : ((address - flashBase) / sectorSize).toUInt8 ≠ 0 := by
    intro hzero
    have hnumber := toNat_sector h
    obtain ⟨hlower, hupper⟩ := inApplication_iff.mp h
    rw [hzero, sectorOf_eq (flashBase_le h.1), UInt8.toNat_zero] at hnumber
    omega
  simp only [erase, hrange, hsector, Bool.false_eq_true, if_false]

/-- The number of the sector that is erased. -/
theorem toNat_erasedSector (h : InApplication address) :
    (((address - flashBase) / sectorSize).toUInt8 &&& 0x7).toNat = sectorOf address % 8 := by
  rw [UInt8.toNat_and, toNat_sector h]
  exact Nat.and_two_pow_sub_one_eq_mod _ 3

/-- An erase in bank 1 is of the sector of its address. -/
theorem erase_bank1 (h : InApplication address) (hbank : address < bank2Start) :
    ∃ sector : UInt8, (self.erase address).2.1 = [.erased sector] ∧
      sector.toNat = sectorOf address ∧ sector ≠ 0 ∧
      ErasesSector self (self.erase address).2.2 (sectorOf address) := by
  obtain ⟨hlower, hupper⟩ := inApplication_iff.mp h
  rw [UInt32.lt_iff_toNat_lt, toNat_bank2Start] at hbank
  have hsector := sectorOf_eq (flashBase_le h.1)
  have hnumber := toNat_erasedSector h
  rw [Nat.mod_eq_of_lt (by omega)] at hnumber
  rw [erase_accepted h]
  refine ⟨_, startEraseSector_effects, hnumber, ?_, ?_⟩
  · intro hzero
    rw [hzero, UInt8.toNat_zero] at hnumber
    omega
  · intro target
    simp only [startEraseSector_memory, inSector, hnumber, Bool.and_eq_true, decide_eq_true_eq,
      beq_iff_eq]

/-- An erase in bank 2 is of another sector, eight below. -/
theorem erase_bank2 (h : InApplication address) (hbank : bank2Start ≤ address) :
    (self.erase address).1 = .ok () ∧ ∀ sector : UInt8,
      (self.erase address).2.1 = [.erased sector] → sector.toNat + 8 = sectorOf address := by
  obtain ⟨hlower, hupper⟩ := inApplication_iff.mp h
  rw [UInt32.le_iff_toNat_le, toNat_bank2Start] at hbank
  have hsector := sectorOf_eq (flashBase_le h.1)
  have hnumber := toNat_erasedSector h
  rw [erase_accepted h]
  refine ⟨rfl, fun sector hsame => ?_⟩
  rw [startEraseSector_effects] at hsame
  cases hsame
  omega

/-! ## Runs -/

theorem dfuContract_read {length : TransferLength} :
    DfuContract (machine.event self (.read address length)) ↔
      ¬ self.Misses (.read address length) := by
  constructor
  · intro hcontract hwraps
    have hallowed := hcontract.allowed _ (read_escapes length.2 hwraps)
    exact not_inApplication_of_wraps hwraps length.2 hallowed
  · intro hfits
    refine ⟨?_, nofun, nofun⟩
    intro effect heffect
    exact allowed_read length.2 (Nat.lt_of_not_le hfits) heffect

theorem dfuContract_program {length : TransferLength} :
    DfuContract (machine.event self (.program address length)) ↔
      ¬ self.Misses (.program address length) := by
  constructor
  · rintro hcontract ⟨haligned, hwraps, hbuffer⟩
    have hallowed := hcontract.allowed _ (program_escapes length.2 hwraps haligned hbuffer)
    exact not_inApplication_of_wraps hwraps length.2 hallowed
  · intro hfits
    refine ⟨?_, nofun, nofun⟩
    intro effect heffect
    rcases Nat.lt_or_ge (address.toNat + length.1) (2 ^ 32) with hbelow | hwraps
    · exact allowed_program length.2 hbelow heffect
    · have hnone : (self.program address length.1).2.1 = [] := by
        by_cases haligned : address % 32 = 0
        · refine program_empty (Nat.eq_zero_of_not_pos fun hbuffer => ?_)
          exact hfits ⟨haligned, hwraps, hbuffer⟩
        · exact program_rejected (.inr haligned)
      have heffect' : effect ∈ (self.program address length.1).2.1 := heffect
      rw [hnone] at heffect'
      exact absurd heffect' List.not_mem_nil

theorem dfuContract_erase :
    DfuContract (machine.event self (.erase address)) ↔ ¬ self.Misses (.erase address) := by
  by_cases hin : InApplication address
  · rcases UInt32.lt_or_le address bank2Start with hbank | hbank
    · obtain ⟨sector, heffects, hnumber, hnonzero, herases⟩ := @erase_bank1 self _ hin hbank
      refine iff_of_true ⟨?_, ?_, nofun⟩ fun hmisses => UInt32.not_le.mpr hbank hmisses.1
      · intro effect heffect
        have heffect' : effect ∈ (self.erase address).2.1 := heffect
        rw [heffects, List.mem_singleton] at heffect'
        rw [heffect']
        exact hnonzero
      · rintro _ ⟨⟩ -
        exact ⟨⟨sector, heffects, hnumber⟩, herases⟩
    · obtain ⟨hok, hother⟩ := @erase_bank2 self _ hin hbank
      refine iff_of_false ?_ (not_not_intro ⟨hbank, hin.2⟩)
      intro hcontract
      obtain ⟨⟨sector, heffects, hnumber⟩, -⟩ :=
        hcontract.erase address rfl (congrArg Response.done hok)
      have hbelow := hother sector heffects
      omega
  · have hout : decide (address < appStart) || decide (flashEnd ≤ address) := by
      rw [InApplication, not_and_or, UInt32.not_le, UInt32.not_lt] at hin
      simpa using hin
    have hrejected : self.erase address = (.error .address, [], self) := erase_rejected hout
    refine iff_of_true ⟨?_, ?_, nofun⟩ ?_
    · intro effect heffect
      have heffect' : effect ∈ (self.erase address).2.1 := heffect
      rw [hrejected] at heffect'
      exact absurd heffect' List.not_mem_nil
    · rintro _ ⟨⟩ hresponse
      have hresult : (self.erase address).1 = .ok () := Response.done.inj hresponse
      rw [hrejected] at hresult
      cases hresult
    · intro hmisses
      exact hin ⟨UInt32.le_trans (by decide) hmisses.1, hmisses.2⟩

theorem dfuContract_eraseAll :
    DfuContract (machine.event self .eraseAll) ↔ ¬ self.Misses .eraseAll := by
  have hpost : (machine.event self .eraseAll).post = self.eraseAll.2.2 := rfl
  constructor
  · rintro hcontract ⟨address, hbank, hend, hdirty⟩
    have hin : InApplication address := ⟨UInt32.le_trans (by decide) hbank, hend⟩
    have herased := hcontract.eraseAll rfl address hin
    rw [hpost, eraseAll_memory hin, if_neg (UInt32.not_lt.mpr hbank)] at herased
    exact hdirty herased
  · intro hclean
    refine ⟨?_, nofun, fun _ address hin => ?_⟩
    · intro effect heffect
      have heffect' : effect ∈ self.eraseAll.2.1 := heffect
      rw [eraseAll, eraseSectors_effects, List.mem_map] at heffect'
      obtain ⟨sector, hsector, rfl⟩ := heffect'
      have hmasked : ∀ sector ∈ ([1, 2, 3, 4, 5, 6, 7] : List UInt8), sector &&& 0x7 ≠ 0 := by
        decide +kernel
      exact hmasked sector hsector
    · rw [hpost, eraseAll_memory hin]
      split
      next => rfl
      next hbank =>
        by_contra hdirty
        exact hclean ⟨address, UInt32.not_lt.mp hbank, hin.2, hdirty⟩

/-- One request keeps the contract if and only if the checks see all it reaches. -/
theorem dfuContract_event (request : Request) :
    DfuContract (machine.event self request) ↔ ¬ self.Misses request := by
  cases request with
  | read address length => exact dfuContract_read
  | erase address => exact dfuContract_erase
  | eraseAll => exact dfuContract_eraseAll
  | storeWriteBuffer src =>
    exact iff_of_true ⟨fun _ heffect => absurd heffect List.not_mem_nil, nofun, nofun⟩ id
  | program address length => exact dfuContract_program

/-- A sequence of requests keeps the contract if and only if no request misses. -/
theorem dfuContract_iff (self : FlashMemory) (requests : List Request) :
    (∀ event ∈ machine.trace self requests, DfuContract event) ↔
      ∀ event ∈ machine.trace self requests, ¬ event.pre.Misses event.op :=
  Machine.forall_trace_congr fun _ request => dfuContract_event request

/-- An erase of the first sector of bank 2 is answered with success and erases the bootloader. -/
theorem bootloader_erased :
    let flash := new (fun _ => 0) ⟨true, false, false, 0⟩
    flash.erase bank2Start = (.ok (), flash.startEraseSector 8) ∧
      (flash.erase bank2Start).2.1 = [.erased 0] ∧
      ¬ ∀ event ∈ machine.trace flash [.erase bank2Start], DfuContract event := by
  intro flash
  refine ⟨by rfl, by rfl, ?_⟩
  intro hall
  have hevent := hall _ List.mem_cons_self
  exact hevent.allowed (.erased 0) List.mem_cons_self rfl

end Requests

end FlashMemory

end Aviate.Boot
