import Aviate.Core.ExactField
import Aviate.Model
import Aviate.Foundations.RegisterFile

/-!
# Torn barometer readings

The SPL06 measures on its own and replaces its six data registers at once, between any two bus
transactions. The driver reads a value in three transactions, so a sample that is published between
them gives a value of neither sample. The magnetometer driver of the same crate reads its registers
in one transaction and gives one sample always.

Results:
1. The raw values a reading is made of, byte by byte (`exec_readRaw`).
2. A reading is untorn, whatever is published, exactly when nothing is published between the first
   and the last byte of a value or the bus fails on the way (`untorn_iff`).
3. A reading that is 65,535 counts off (`carry_torn`).
4. The magnetometer's reading is one sample (`readData_untorn`).
-/

namespace Aviate.Drivers

open RegisterFile

/-! ## A sensor on a bus -/

/-- The registers that show a sample. -/
class Registers (S : Type) where
  layout : S → UInt8 → UInt8

export Registers (layout)

/-- A free-running sensor at an address of the bus. -/
structure Wired (S : Type) where
  address : UInt8
  file : Bus S

/-- The bytes of one transaction are those of one sample. -/
instance {S : Type} [Registers S] : I2c (Wired S) where
  writeRead wired address reg _ :=
    let after : Wired S := { wired with file := wired.file.advance }
    if wired.file.failsAt 0 ∨ address ≠ wired.address then (.error (), after)
    else (.ok (Vector.ofFn fun i => layout after.file.sample (reg + .ofNat i)), after)

namespace Spl06

variable {F : Type}

/-- A pair of results, in two's complement. -/
structure Sample where
  pressure : BitVec 24
  temperature : BitVec 24

/-- Byte `k` of a register value, from the least significant one on. -/
def byteOf (value : BitVec 24) (k : Nat) : UInt8 := ⟨value.extractLsb' (8 * k) 8⟩

instance : Registers Sample where
  layout sample reg :=
    if reg = psrB2 then byteOf sample.pressure 2
    else if reg = psrB1 then byteOf sample.pressure 1
    else if reg = psrB0 then byteOf sample.pressure 0
    else if reg = tmpB2 then byteOf sample.temperature 2
    else if reg = tmpB1 then byteOf sample.temperature 1
    else if reg = tmpB0 then byteOf sample.temperature 0
    else 0

section Layout

variable (sample : Sample)

@[simp] theorem layout_psrB2 : layout sample psrB2 = byteOf sample.pressure 2 := rfl

@[simp] theorem layout_psrB1 : layout sample psrB1 = byteOf sample.pressure 1 := rfl

@[simp] theorem layout_psrB0 : layout sample psrB0 = byteOf sample.pressure 0 := rfl

@[simp] theorem layout_tmpB2 : layout sample tmpB2 = byteOf sample.temperature 2 := rfl

@[simp] theorem layout_tmpB1 : layout sample tmpB1 = byteOf sample.temperature 1 := rfl

@[simp] theorem layout_tmpB0 : layout sample tmpB0 = byteOf sample.temperature 0 := rfl

end Layout

/-! ## Bytes and values -/

theorem toNat_byteOf (value : BitVec 24) (k : Nat) :
    (byteOf value k).toNat = value.toNat / 2 ^ (8 * k) % 256 := by
  change (value.extractLsb' (8 * k) 8).toNat = _
  rw [BitVec.extractLsb'_toNat, Nat.shiftRight_eq_div_pow]

/-- The shifts put the bytes side by side. -/
theorem or_bytes (b2 b1 b0 : UInt8) :
    (b2.toNat <<< 16) ||| (b1.toNat <<< 8) ||| b0.toNat =
      b2.toNat * 65536 + b1.toNat * 256 + b0.toNat := by
  have h0 : b0.toNat < 2 ^ 8 := b0.toNat_lt
  have h1 : b1.toNat < 2 ^ 8 := b1.toNat_lt
  have hlow : b1.toNat <<< 8 ||| b0.toNat = b1.toNat * 256 + b0.toNat := by
    rw [← Nat.shiftLeft_add_eq_or_of_lt h0, Nat.shiftLeft_eq]
  rw [Nat.or_assoc, hlow, ← Nat.shiftLeft_add_eq_or_of_lt (by omega), Nat.shiftLeft_eq]
  omega

/-- The bytes of one value give its two's complement. -/
theorem signExtend24_byteOf (value : BitVec 24) :
    signExtend24 (byteOf value 2) (byteOf value 1) (byteOf value 0) = value.toInt := by
  have hlt : value.toNat < 2 ^ 24 := value.isLt
  have hraw : (byteOf value 2).toNat * 65536 + (byteOf value 1).toNat * 256 +
      (byteOf value 0).toNat = value.toNat := by
    simp only [toNat_byteOf]
    omega
  rw [signExtend24, or_bytes, hraw, BitVec.toInt_eq_toNat_cond]
  split
  · rw [if_neg (by omega)]
    norm_num
  · rw [if_pos (by omega)]

/-! ## What a reading is made of -/

variable {self : Spl06 (Wired Sample) F} {reg : UInt8}

/-- The driver talks to the address of its sensor. -/
def Connected (self : Spl06 (Wired Sample) F) : Prop := self.address = self.i2c.address

/-- The driver after a transaction. -/
def advance (self : Spl06 (Wired Sample) F) : Spl06 (Wired Sample) F :=
  { self with i2c := { self.i2c with file := self.i2c.file.advance } }

@[simp] theorem connected_advance : self.advance.Connected ↔ self.Connected := Iff.rfl

@[simp] theorem file_advance : self.advance.i2c.file = self.i2c.file.advance := rfl

/-- One register is read from the sample of its own transaction. -/
theorem exec_readReg (h : self.Connected) (reg : UInt8) :
    (readReg reg).exec self =
      (if self.i2c.file.failsAt 0 then .error .busError
        else .ok (layout (self.i2c.file.sampleAt 1) reg), self.advance) := by
  have haddress : self.address = self.i2c.address := h
  change readReg reg self = _
  cases hfails : self.i2c.file.failsAt 0 with
  | true =>
    simp [readReg, I2c.writeRead, hfails]
    rfl
  | false =>
    simp [readReg, I2c.writeRead, hfails, haddress, advance]
    rfl

/-- Three registers are read from the samples of three transactions. -/
theorem exec_readRaw24 (h : self.Connected) (regB2 regB1 regB0 : UInt8)
    (hfails : ∀ k < 3, self.i2c.file.failsAt k = false) :
    (readRaw24 regB2 regB1 regB0).exec self =
      (.ok (signExtend24 (layout (self.i2c.file.sampleAt 1) regB2)
        (layout (self.i2c.file.sampleAt 2) regB1) (layout (self.i2c.file.sampleAt 3) regB0)),
        self.advance.advance.advance) := by
  have h0 := hfails 0 (by decide)
  have h1 := hfails 1 (by decide)
  have h2 := hfails 2 (by decide)
  simp only [readRaw24, exec_bind, exec_readReg, h, h0, h1, h2, connected_advance, file_advance,
    Bus.failsAt_advance, Bus.sampleAt_advance, Bool.false_eq_true, if_false, exec_pure]

/-- One failed transaction is enough for no value. -/
theorem exec_readRaw24_fails (h : self.Connected) (regB2 regB1 regB0 : UInt8) {k : Nat}
    (hk : k < 3) (hfails : self.i2c.file.failsAt k = true) :
    ((readRaw24 regB2 regB1 regB0).exec self).1 = .error .busError := by
  cases h0 : self.i2c.file.failsAt 0
  case true =>
    simp only [readRaw24, exec_bind, exec_readReg, h, h0, if_true]
  cases h1 : self.i2c.file.failsAt 1
  case true =>
    simp only [readRaw24, exec_bind, exec_readReg, h, h0, h1, connected_advance, file_advance,
      Bus.failsAt_advance, Bool.false_eq_true, if_false, if_true]
  cases h2 : self.i2c.file.failsAt 2
  case true =>
    simp only [readRaw24, exec_bind, exec_readReg, h, h0, h1, h2, connected_advance, file_advance,
      Bus.failsAt_advance, Bool.false_eq_true, if_false, if_true]
  match k, hk with
  | 0, _ => exact absurd (h0.symm.trans hfails) Bool.false_ne_true
  | 1, _ => exact absurd (h1.symm.trans hfails) Bool.false_ne_true
  | 2, _ => exact absurd (h2.symm.trans hfails) Bool.false_ne_true

/-- A read whose six transactions succeed uses one byte of each transaction's sample. -/
theorem exec_readRaw (h : self.Connected) (hfails : ∀ k < 6, self.i2c.file.failsAt k = false) :
    (readRaw.exec self).1 =
      .ok (signExtend24 (byteOf (self.i2c.file.sampleAt 1).pressure 2)
          (byteOf (self.i2c.file.sampleAt 2).pressure 1)
          (byteOf (self.i2c.file.sampleAt 3).pressure 0),
        signExtend24 (byteOf (self.i2c.file.sampleAt 4).temperature 2)
          (byteOf (self.i2c.file.sampleAt 5).temperature 1)
          (byteOf (self.i2c.file.sampleAt 6).temperature 0)) := by
  have hpressure := exec_readRaw24 h psrB2 psrB1 psrB0 fun k hk => hfails k (by omega)
  have hlater : self.advance.advance.advance.Connected := h
  have htemperature := exec_readRaw24 hlater tmpB2 tmpB1 tmpB0
    fun k hk => by simpa using hfails (k + 3) (by omega)
  simp only [readRaw, readRawPressure, readRawTemperature, exec_bind, hpressure, htemperature,
    exec_pure, file_advance, Bus.sampleAt_advance, layout_psrB2, layout_psrB1, layout_psrB0,
    layout_tmpB2, layout_tmpB1, layout_tmpB0]

/-- A read with a failed transaction has no raw values. -/
theorem exec_readRaw_fails (h : self.Connected) {k : Nat} (hk : k < 6)
    (hfails : self.i2c.file.failsAt k = true) : (readRaw.exec self).1 = .error .busError := by
  by_cases hfirst : ∃ j < 3, self.i2c.file.failsAt j = true
  · obtain ⟨j, hj, hfails⟩ := hfirst
    have hpressure := exec_readRaw24_fails h psrB2 psrB1 psrB0 hj hfails
    exact exec_bind_error _ hpressure
  · push Not at hfirst
    have hpressure := exec_readRaw24 h psrB2 psrB1 psrB0 fun j hj =>
      Bool.eq_false_of_not_eq_true (hfirst j hj)
    have hthree : 3 ≤ k := by
      by_contra hlt
      exact hfirst k (by omega) hfails
    have hlater : self.advance.advance.advance.Connected := h
    have htemperature := exec_readRaw24_fails (k := k - 3) hlater tmpB2 tmpB1 tmpB0 (by omega)
      (by simpa [Nat.sub_add_cancel hthree] using hfails)
    rw [readRaw, readRawPressure, exec_bind, hpressure]
    exact exec_bind_error _ htemperature

/-! ## Torn values -/

section Reading

variable [Scalar F]

/-- A reading is made of the raw values of the same read. -/
theorem exec_read_ok {psrRaw tmpRaw : ℤ} {self' : Spl06 (Wired Sample) F}
    (hraw : readRaw.exec self = (.ok (psrRaw, tmpRaw), self')) :
    read.exec self =
      (.ok { pressurePa := (self'.compensate psrRaw tmpRaw).1
             temperatureC := (self'.compensate psrRaw tmpRaw).2
             differentialPressurePa := none
             pressureAltitudeM := none }, self') := by
  rw [read, exec_bind, calculateCompensated, exec_bind, hraw]
  rfl

theorem exec_read_error {e : SensorError} (hraw : (readRaw.exec self).1 = .error e) :
    (read.exec self).1 = .error e :=
  exec_bind_error _ (exec_bind_error _ hraw)

/-- Each raw value a successful read makes its reading of is that of one sample that is in the
registers during the read. -/
def Untorn (self : Spl06 (Wired Sample) F) : Prop :=
  ∀ reading self', read.exec self = (.ok reading, self') →
    ∃ p ∈ self.i2c.file.visible 6, ∃ t ∈ self.i2c.file.visible 6,
      (readRaw.exec self).1 = .ok (p.pressure.toInt, t.temperature.toInt)

/-- A read that fails has no reading to tear. -/
theorem untorn_of_fails (h : self.Connected) {k : Nat} (hk : k < 6)
    (hfails : self.i2c.file.failsAt k = true) : self.Untorn := by
  intro reading self' hread
  have herror := exec_read_error (exec_readRaw_fails h hk hfails)
  rw [hread] at herror
  exact absurd herror nofun

/-- Nothing published within a value leaves all its bytes to one sample. -/
theorem untorn_of_quiet (h : self.Connected)
    (hquiet : ∀ k ∈ [1, 2, 4, 5], self.i2c.file.publishedAt k = []) : self.Untorn := by
  by_cases hfails : ∃ k < 6, self.i2c.file.failsAt k = true
  · obtain ⟨k, hk, hfails⟩ := hfails
    exact untorn_of_fails h hk hfails
  · push Not at hfails
    intro reading self' _
    have hstays : ∀ k ∈ [1, 2, 4, 5],
        self.i2c.file.sampleAt (k + 1) = self.i2c.file.sampleAt k := by
      intro k hk
      exact Bus.sampleAt_succ_of_quiet (hquiet k hk)
    refine ⟨self.i2c.file.sampleAt 1, Bus.sampleAt_mem (by decide), self.i2c.file.sampleAt 4,
      Bus.sampleAt_mem (by decide), ?_⟩
    rw [exec_readRaw h fun k hk => Bool.eq_false_of_not_eq_true (hfails k hk),
      hstays 2 (by decide), hstays 1 (by decide), hstays 5 (by decide), hstays 4 (by decide),
      signExtend24_byteOf, signExtend24_byteOf]

end Reading

/-! ## Every interleaving -/

/-- When things happen: for each transaction, how many samples are published before it and whether
it fails. -/
abbrev Plan := List (Nat × Bool)

def plan (self : Spl06 (Wired Sample) F) : Plan :=
  self.i2c.file.turns.map fun turn => (turn.published.length, turn.fails)

/-- How many samples are published before transaction `k`. -/
def Plan.count (plan : Plan) (k : Nat) : Nat := (plan[k]?.map Prod.fst).getD 0

def Plan.fails (plan : Plan) (k : Nat) : Bool := (plan[k]?.map Prod.snd).getD false

theorem count_plan (k : Nat) : self.plan.count k = (self.i2c.file.publishedAt k).length := by
  unfold plan Plan.count Bus.publishedAt
  rw [List.getElem?_map]
  cases self.i2c.file.turns[k]? with
  | none => rfl
  | some turn => rfl

theorem fails_plan (k : Nat) : self.plan.fails k = self.i2c.file.failsAt k := by
  unfold plan Plan.fails Bus.failsAt
  rw [List.getElem?_map]
  cases self.i2c.file.turns[k]? with
  | none => rfl
  | some turn => rfl

/-! ### The samples that tear -/

/-- All bytes 0, and all bytes 1. -/
def zeros : Sample := ⟨0, 0⟩

def ones : Sample := ⟨0x010101, 0x010101⟩

/-- Publish by a plan: zeros before transaction `k`, ones from there on. -/
def fill (plan : Plan) (k : Nat) : Bus Sample where
  sample := zeros
  turns := plan.mapIdx fun i turn => ⟨List.replicate turn.1 (if i < k then zeros else ones), turn.2⟩

theorem publishedAt_fill (plan : Plan) (k i : Nat) :
    (fill plan k).publishedAt i =
      List.replicate (plan.count i) (if i < k then zeros else ones) := by
  unfold fill Bus.publishedAt Plan.count
  rw [List.getElem?_mapIdx]
  cases plan[i]? with
  | none => rfl
  | some turn => rfl

theorem getLastD_replicate (count : Nat) (s last : Sample) :
    (List.replicate count s).getLastD last = if count = 0 then last else s := by
  cases count with
  | zero => rfl
  | succ count => simp [List.getLast?_replicate]

theorem sampleAt_fill_le (plan : Plan) {k i : Nat} (h : i ≤ k) :
    (fill plan k).sampleAt i = zeros := by
  induction i with
  | zero => rfl
  | succ i ih =>
    have hlt : i < k := h
    rw [Bus.sampleAt_succ, publishedAt_fill, getLastD_replicate, ih hlt.le, if_pos hlt]
    split <;> rfl

theorem sampleAt_fill_gt {plan : Plan} {k i : Nat} (hk : plan.count k ≠ 0) (h : k < i) :
    (fill plan k).sampleAt i = ones := by
  induction i with
  | zero => exact absurd h (Nat.not_lt_zero k)
  | succ i ih =>
    have hle : k ≤ i := Nat.le_of_lt_succ h
    have hones : (if i < k then zeros else ones) = ones := if_neg (Nat.not_lt.2 hle)
    rw [Bus.sampleAt_succ, publishedAt_fill, getLastD_replicate, hones]
    rcases Nat.lt_or_eq_of_le hle with hlt | rfl
    · rw [ih hlt]
      split <;> rfl
    · exact if_neg hk

theorem visible_fill {plan : Plan} {k n : Nat} {s : Sample} (hs : s ∈ (fill plan k).visible n) :
    s = zeros ∨ s = ones := by
  rcases List.mem_cons.1 hs with rfl | hs
  · exact .inl rfl
  · obtain ⟨turn, hturn, hmem⟩ := List.mem_flatMap.1 hs
    obtain ⟨i, hi, rfl⟩ := List.mem_mapIdx.1 (List.mem_of_mem_take hturn)
    rw [List.eq_of_mem_replicate hmem]
    split
    · exact .inl rfl
    · exact .inr rfl

/-- The driver of a sensor that publishes by a plan. -/
def filled [Scalar F] (plan : Plan) (k : Nat) : Spl06 (Wired Sample) F where
  i2c := ⟨0x77, fill plan k⟩
  address := 0x77
  coef := ⟨0, 0, 0, 0, 0, 0, 0, 0, 0⟩
  kp := lit 253952
  kt := lit 253952
  sourceId := 0

theorem plan_filled [Scalar F] (p : Plan) (k : Nat) :
    (filled p k : Spl06 (Wired Sample) F).plan = p := by
  unfold plan filled fill
  apply List.ext_getElem?
  intro i
  rw [List.getElem?_map, List.getElem?_mapIdx]
  cases p[i]? with
  | none => rfl
  | some turn => simp

/-- A publication within a value tears it, with these samples. -/
theorem torn_filled [Scalar F] {p : Plan} {k : Nat} (hk : k ∈ [1, 2, 4, 5])
    (hfails : ∀ i < 6, p.fails i = false) (hcount : p.count k ≠ 0) :
    ¬ (filled p k : Spl06 (Wired Sample) F).Untorn := by
  intro huntorn
  have hconnected : (filled p k : Spl06 (Wired Sample) F).Connected := rfl
  have hok : ∀ i < 6, (filled p k : Spl06 (Wired Sample) F).i2c.file.failsAt i = false := by
    intro i hi
    rw [← fails_plan, plan_filled]
    exact hfails i hi
  have hraw := exec_readRaw hconnected hok
  have hfirst : ∀ i ≤ k, (filled p k : Spl06 (Wired Sample) F).i2c.file.sampleAt i = zeros :=
    fun i hi => sampleAt_fill_le p hi
  have hlater : ∀ i, k < i → (filled p k : Spl06 (Wired Sample) F).i2c.file.sampleAt i = ones :=
    fun i hi => sampleAt_fill_gt hcount hi
  obtain ⟨s, hs, t, ht, hvalues⟩ := huntorn _ _ (exec_read_ok (Prod.ext hraw rfl))
  rw [hraw] at hvalues
  obtain ⟨hp, ht'⟩ := Prod.mk.inj (Except.ok.inj hvalues)
  have hpressure : s.pressure.toInt = 0 ∨ s.pressure.toInt = 65793 := by
    rcases visible_fill hs with rfl | rfl
    · exact .inl (by decide)
    · exact .inr (by decide)
  have htemperature : t.temperature.toInt = 0 ∨ t.temperature.toInt = 65793 := by
    rcases visible_fill ht with rfl | rfl
    · exact .inl (by decide)
    · exact .inr (by decide)
  simp only [List.mem_cons, List.not_mem_nil, or_false] at hk
  rcases hk with rfl | rfl | rfl | rfl
  · rw [hfirst 1 (by decide), hlater 2 (by decide), hlater 3 (by decide)] at hp
    rw [← hp] at hpressure
    exact absurd hpressure (by decide)
  · rw [hfirst 1 (by decide), hfirst 2 (by decide), hlater 3 (by decide)] at hp
    rw [← hp] at hpressure
    exact absurd hpressure (by decide)
  · rw [hfirst 4 (by decide), hlater 5 (by decide), hlater 6 (by decide)] at ht'
    rw [← ht'] at htemperature
    exact absurd htemperature (by decide)
  · rw [hfirst 4 (by decide), hfirst 5 (by decide), hlater 6 (by decide)] at ht'
    rw [← ht'] at htemperature
    exact absurd htemperature (by decide)

/-- For every interleaving of publications with a read: no reading is torn, whatever the samples,
exactly when a transaction of the read fails, or nothing is published between the first and the
last byte of the pressure, nor between those of the temperature. -/
theorem untorn_iff [Scalar F] (p : Plan) :
    (∀ self : Spl06 (Wired Sample) F, self.Connected → self.plan = p → self.Untorn) ↔
      (∃ k < 6, p.fails k = true) ∨ ∀ k ∈ [1, 2, 4, 5], p.count k = 0 := by
  constructor
  · intro huntorn
    by_contra hnot
    push Not at hnot
    obtain ⟨hfails, k, hk, hcount⟩ := hnot
    exact torn_filled (F := F) hk (fun i hi => Bool.eq_false_of_not_eq_true (hfails i hi)) hcount
      (huntorn (filled p k) rfl (plan_filled p k))
  · rintro (⟨k, hk, hfails⟩ | hquiet) self hconnected rfl
    · rw [fails_plan] at hfails
      exact untorn_of_fails hconnected hk hfails
    · refine untorn_of_quiet hconnected fun k hk => ?_
      have hcount := hquiet k hk
      rw [count_plan] at hcount
      exact List.eq_nil_of_length_eq_zero hcount

/-- One count up, published after the first byte of the pressure. -/
def carry : Spl06 (Wired Sample) ℚ where
  i2c :=
    { address := 0x77
      file :=
        { sample := ⟨0xF0FFFF, 0x0A1B2C⟩
          turns := [⟨[], false⟩, ⟨[⟨0xF10000, 0x0A1B2C⟩], false⟩] } }
  address := 0x77
  coef := ⟨204, -261, 81469, -54769, -2803, 1226, -10787, 183, -1603⟩
  kp := 253952
  kt := 253952
  sourceId := 0

/-- The pressures are −983,041 and −983,040 counts; the reading uses −1,048,576. -/
theorem carry_torn : (readRaw.exec carry).1 = .ok (-1048576, 662316) ∧ ¬ carry.Untorn := by
  have hraw : (readRaw.exec carry).1 = .ok (-1048576, 662316) := by decide +kernel
  refine ⟨hraw, ?_⟩
  intro huntorn
  obtain ⟨s, hs, t, -, hvalues⟩ := huntorn _ _ (exec_read_ok (Prod.ext hraw rfl))
  rw [hraw] at hvalues
  obtain ⟨hp, -⟩ := Prod.mk.inj (Except.ok.inj hvalues)
  have hvisible : carry.i2c.file.visible 6 =
      [⟨0xF0FFFF, 0x0A1B2C⟩, ⟨0xF10000, 0x0A1B2C⟩] := rfl
  rw [hvisible] at hs
  rcases List.mem_cons.1 hs with rfl | hs
  · exact absurd hp (by decide)
  · rw [List.mem_singleton.1 hs] at hp
    exact absurd hp (by decide)

end Spl06

/-! ## The magnetometer -/

namespace Qmc5883l

/-- The six data registers of one measurement. -/
abbrev Sample := Vector UInt8 6

instance : Registers Sample where
  layout sample reg := if h : reg.toNat < 6 then sample[reg.toNat] else 0

/-- One transaction reads all axes of one sample. -/
theorem readData_untorn {self : Qmc5883l (Wired Sample)} {field : Vector Int16 3}
    {self' : Qmc5883l (Wired Sample)} (h : readData.exec self = (.ok field, self')) :
    ∃ sample ∈ self.i2c.file.visible 1, field = axes sample := by
  refine ⟨self.i2c.file.sampleAt 1, Bus.sampleAt_mem le_rfl, ?_⟩
  change readData self = _ at h
  unfold readData at h
  cases hread : I2c.writeRead self.i2c self.address dataXLsb 6 with
  | mk result i2c =>
    rw [hread] at h
    cases result with
    | error e => exact nomatch h
    | ok buf =>
      have hbuf : buf = self.i2c.file.sampleAt 1 := by
        simp only [I2c.writeRead] at hread
        split at hread
        · exact nomatch hread
        · obtain ⟨hbytes, -⟩ := Prod.mk.inj hread
          rw [← Except.ok.inj hbytes]
          ext i hi
          rw [Vector.getElem_ofFn]
          match i, hi with
          | 0, _ => rfl
          | 1, _ => rfl
          | 2, _ => rfl
          | 3, _ => rfl
          | 4, _ => rfl
          | 5, _ => rfl
      rw [← Except.ok.inj (Prod.mk.inj h).1, hbuf]

end Qmc5883l

end Aviate.Drivers
