import Mathlib
import Aviate.Foundations.Machine

/-!
# The extended cycle clock

`now_us` of the STM32H7 time source extends the 32-bit cycle counter to 64-bit microseconds: each
read adds the whole microseconds since the read before it. A gap between two reads is a number of
true cycles below 2³², so that a run of reads is the true count at the first one and the gaps.

Results:
1. Whatever the counter wrapped to, a read adds its gap's whole microseconds (`nowUs_spec`).
2. The cycles of the gaps that are not whole microseconds are dropped: the time returned stays
   within one microsecond of the true one exactly while they sum up to less than two
   (`noDrift_iff`).
-/

namespace Aviate

/-- A cycle rate in megahertz; `Stm32h7Time::new` panics at zero. -/
structure CpuFreqMhz where
  mhz : UInt32
  pos : 0 < mhz.toNat

structure Stm32h7Time where
  lastCyccnt : UInt32
  timeUs : UInt64
  cpuFreqMhz : CpuFreqMhz

namespace Stm32h7Time

def new (cpuFreqMhz : CpuFreqMhz) : Stm32h7Time := ⟨0, 0, cpuFreqMhz⟩

/-- The cycles since the last read, over a rollover of the counter. -/
def elapsedCycles (last cyccnt : UInt32) : UInt32 :=
  if cyccnt ≥ last then cyccnt - last else (0xFFFFFFFF - last) + cyccnt + 1

/-- `now_us`, with the counter as it is read. -/
def nowUs (t : Stm32h7Time) (cyccnt : UInt32) : Stm32h7Time × UInt64 :=
  let elapsedUs := elapsedCycles t.lastCyccnt cyccnt / t.cpuFreqMhz.mhz
  let timeUs := t.timeUs + elapsedUs.toUInt64
  ({ t with timeUs := timeUs, lastCyccnt := cyccnt }, timeUs)

/-- A run of reads. -/
def clock : Machine Stm32h7Time UInt32 UInt64 := ⟨nowUs⟩

end Stm32h7Time

/-! ## True cycles -/

namespace CycleClock

/-- What the counter shows after each gap, from a true count of `start` on. -/
def counters (start : Nat) : List UInt32 → List UInt32
  | [] => []
  | gap :: gaps => .ofNat (start + gap.toNat) :: counters (start + gap.toNat) gaps

/-- What the counter shows at each read of a run. -/
def readings (start : Nat) (gaps : List UInt32) : List UInt32 := .ofNat start :: counters start gaps

/-- The true cycles of a stretch of gaps. -/
def cycles (gaps : List UInt32) : Nat := (gaps.map UInt32.toNat).sum

/-- The whole microseconds of each gap. -/
def whole (freq : CpuFreqMhz) (gaps : List UInt32) : Nat :=
  (gaps.map fun gap => gap.toNat / freq.mhz.toNat).sum

/-- The cycles each gap has beyond its whole microseconds. -/
def rests (freq : CpuFreqMhz) (gaps : List UInt32) : Nat :=
  (gaps.map fun gap => gap.toNat % freq.mhz.toNat).sum

/-- The whole microseconds of the counter at the first read. -/
def firstUs (freq : CpuFreqMhz) (start : Nat) : Nat := start % 2 ^ 32 / freq.mhz.toNat

/-- The times the reads of a run return. -/
def times (freq : CpuFreqMhz) (start : Nat) (gaps : List UInt32) : List UInt64 :=
  Stm32h7Time.clock.outputs (.new freq) (readings start gaps)

/-- Every time returned is within a microsecond of `origin` and the true time since the first
read. -/
def Follows (freq : CpuFreqMhz) (start origin : Nat) (gaps : List UInt32) : Prop :=
  ∀ k t, (times freq start gaps)[k]? = some t →
    t.toNat ≤ origin + cycles (gaps.take k) / freq.mhz.toNat + 1 ∧
      origin + cycles (gaps.take k) / freq.mhz.toNat ≤ t.toNat + 1

/-- The time each read returns is the true time since the first read to within a microsecond. -/
def NoDrift (freq : CpuFreqMhz) (start : Nat) (gaps : List UInt32) : Prop :=
  Follows freq start 0 gaps

variable {freq : CpuFreqMhz} {start : Nat} {gaps gaps' : List UInt32} {k : Nat}

theorem cycles_div : cycles gaps / freq.mhz.toNat =
    whole freq gaps + rests freq gaps / freq.mhz.toNat := by
  have hsplit : cycles gaps = freq.mhz.toNat * whole freq gaps + rests freq gaps := by
    induction gaps with
    | nil => rfl
    | cons gap gaps ih =>
      have hgap := Nat.div_add_mod gap.toNat freq.mhz.toNat
      unfold cycles whole rests at ih ⊢
      simp only [List.map_cons, List.sum_cons, Nat.mul_add] at ih ⊢
      omega
  rw [hsplit, Nat.mul_add_div freq.pos]

theorem whole_append : whole freq (gaps ++ gaps') = whole freq gaps + whole freq gaps' := by
  rw [whole, List.map_append, List.sum_append]
  rfl

theorem rests_append : rests freq (gaps ++ gaps') = rests freq gaps + rests freq gaps' := by
  rw [rests, List.map_append, List.sum_append]
  rfl

theorem whole_take_le (freq : CpuFreqMhz) (gaps : List UInt32) (k : Nat) :
    whole freq (gaps.take k) ≤ whole freq gaps := by
  conv_rhs => rw [← List.take_append_drop k gaps, whole_append]
  exact Nat.le_add_right _ _

theorem rests_take_le (freq : CpuFreqMhz) (gaps : List UInt32) (k : Nat) :
    rests freq (gaps.take k) ≤ rests freq gaps := by
  conv_rhs => rw [← List.take_append_drop k gaps, rests_append]
  exact Nat.le_add_right _ _

/-- One more gap has fewer than 2³² microseconds. -/
theorem whole_take_succ (freq : CpuFreqMhz) (gaps : List UInt32) (k : Nat) :
    whole freq (gaps.take (k + 1)) < whole freq (gaps.take k) + 2 ^ 32 := by
  rw [List.take_add_one, whole_append]
  refine Nat.add_lt_add_left ?_ _
  cases gaps[k]? with
  | none => exact Nat.two_pow_pos 32
  | some gap =>
    have hgap : gap.toNat / freq.mhz.toNat < 2 ^ 32 :=
      Nat.lt_of_le_of_lt (Nat.div_le_self _ _) gap.toNat_lt
    simpa [whole] using hgap

/-! ## The reads -/

/-- Over a rollover the difference wraps back. -/
theorem elapsedCycles_eq (last cyccnt : UInt32) :
    Stm32h7Time.elapsedCycles last cyccnt = cyccnt - last := by
  unfold Stm32h7Time.elapsedCycles
  split
  · rfl
  · have hlast := last.toNat_lt
    have hcyccnt := cyccnt.toNat_lt
    apply UInt32.toNat_inj.mp
    simp only [UInt32.toNat_add, UInt32.toNat_sub, UInt32.reduceToNat]
    omega

theorem nowUs_spec {t : Stm32h7Time} (gap : UInt32) (ht : t.lastCyccnt = .ofNat start) :
    t.nowUs (.ofNat (start + gap.toNat)) =
      ({ t with
          timeUs := t.timeUs + .ofNat (gap.toNat / t.cpuFreqMhz.mhz.toNat)
          lastCyccnt := .ofNat (start + gap.toNat) },
        t.timeUs + .ofNat (gap.toNat / t.cpuFreqMhz.mhz.toNat)) := by
  have helapsed : Stm32h7Time.elapsedCycles t.lastCyccnt (.ofNat (start + gap.toNat)) = gap := by
    rw [elapsedCycles_eq, ht, UInt32.ofNat_add, UInt32.ofNat_toNat, UInt32.add_comm,
      UInt32.add_sub_cancel]
  have hus : (gap / t.cpuFreqMhz.mhz).toUInt64 =
      .ofNat (gap.toNat / t.cpuFreqMhz.mhz.toNat) := by
    apply UInt64.toNat_inj.mp
    rw [UInt32.toNat_toUInt64, UInt32.toNat_div, UInt64.toNat_ofNat', Nat.mod_eq_of_lt]
    exact (Nat.div_le_self _ _).trans_lt (gap.toNat_lt.trans (by decide))
  rw [Stm32h7Time.nowUs, helapsed, hus]

/-- The times of the reads after `start`. -/
theorem getElem?_outputs {t : Stm32h7Time} (ht : t.lastCyccnt = .ofNat start)
    (hfreq : t.cpuFreqMhz = freq) (hk : k < gaps.length) :
    (Stm32h7Time.clock.outputs t (counters start gaps))[k]? =
      some (t.timeUs + .ofNat (whole freq (gaps.take (k + 1)))) := by
  induction gaps generalizing start t k with
  | nil => exact absurd hk (Nat.not_lt_zero k)
  | cons gap gaps ih =>
    have hstep : Stm32h7Time.clock.step t (.ofNat (start + gap.toNat)) = _ := nowUs_spec gap ht
    rw [hfreq] at hstep
    rw [counters, Machine.outputs_cons, hstep]
    cases k with
    | zero => simp [whole]
    | succ k =>
      rw [List.getElem?_cons_succ, ih rfl rfl (Nat.lt_of_succ_lt_succ hk), List.take_succ_cons]
      have hwhole : whole freq (gap :: gaps.take (k + 1)) =
          gap.toNat / freq.mhz.toNat + whole freq (gaps.take (k + 1)) := rfl
      rw [hwhole, UInt64.ofNat_add, ← UInt64.add_assoc]

/-- The time of each read: the microseconds of the counter at the first one and the whole
microseconds of the gaps, modulo 2⁶⁴. -/
theorem getElem?_times (hk : k ≤ gaps.length) :
    (times freq start gaps)[k]? =
      some (.ofNat (firstUs freq start + whole freq (gaps.take k))) := by
  have hstart : (UInt32.ofNat start).toNat = start % 2 ^ 32 := UInt32.toNat_ofNat'
  have hcounter : UInt32.ofNat (0 + (UInt32.ofNat start).toNat) = .ofNat start := by
    rw [Nat.zero_add, UInt32.ofNat_toNat]
  have hfirst : (Stm32h7Time.new freq).nowUs (.ofNat (0 + (UInt32.ofNat start).toNat)) = _ :=
    nowUs_spec (.ofNat start) rfl
  rw [hcounter, hstart] at hfirst
  have hstep : Stm32h7Time.clock.step (.new freq) (.ofNat start) = _ := hfirst
  rw [times, readings, Machine.outputs_cons, hstep]
  cases k with
  | zero => simp [Stm32h7Time.new, firstUs, whole]
  | succ k =>
    rw [List.getElem?_cons_succ, getElem?_outputs rfl rfl hk, UInt64.ofNat_add]
    simp [Stm32h7Time.new, firstUs]

theorem length_times (freq : CpuFreqMhz) (start : Nat) (gaps : List UInt32) :
    (times freq start gaps).length = gaps.length + 1 := by
  have hcounters : (counters start gaps).length = gaps.length := by
    induction gaps generalizing start with
    | nil => rfl
    | cons gap gaps ih => exact congrArg (· + 1) (ih _)
  rw [times, Machine.outputs, List.length_map, Machine.length_trace, readings, List.length_cons,
    hcounters]

/-! ## Drift -/

/-- Following is a property of every stretch of gaps. -/
theorem follows_iff {origin : Nat} : Follows freq start origin gaps ↔ ∀ k ≤ gaps.length,
    (firstUs freq start + whole freq (gaps.take k)) % 2 ^ 64 ≤
        origin + cycles (gaps.take k) / freq.mhz.toNat + 1 ∧
      origin + cycles (gaps.take k) / freq.mhz.toNat ≤
        (firstUs freq start + whole freq (gaps.take k)) % 2 ^ 64 + 1 := by
  constructor
  · intro h k hk
    have hread := h k _ (getElem?_times hk)
    rwa [UInt64.toNat_ofNat'] at hread
  · intro h k t ht
    have hk : k < gaps.length + 1 := by
      rw [← length_times freq start]
      exact (List.getElem?_eq_some_iff.mp ht).1
    have hread := h k (Nat.le_of_lt_succ hk)
    rw [getElem?_times (Nat.le_of_lt_succ hk)] at ht
    cases ht
    rwa [UInt64.toNat_ofNat']

theorem firstUs_lt (freq : CpuFreqMhz) (start : Nat) : firstUs freq start < 2 ^ 32 :=
  (Nat.div_le_self _ _).trans_lt (Nat.mod_lt _ (Nat.two_pow_pos 32))

/-- A clock that has wrapped is off by more than a microsecond, so that one that follows the true
time has not. -/
theorem not_wrapped {origin : Nat} (h : Follows freq start origin gaps) (hk : k ≤ gaps.length) :
    firstUs freq start + whole freq (gaps.take k) < 2 ^ 64 := by
  have hfirst := firstUs_lt freq start
  induction k with
  | zero => exact hfirst.trans (by decide)
  | succ k ih =>
    have hbefore := ih (Nat.le_of_succ_le hk)
    have hgap := whole_take_succ freq gaps k
    obtain ⟨-, hread⟩ := follows_iff.mp h (k + 1) hk
    rw [cycles_div] at hread
    generalize rests freq (gaps.take (k + 1)) / freq.mhz.toNat = dropped at hread
    by_contra hwrapped
    have hmod : (firstUs freq start + whole freq (gaps.take (k + 1))) % 2 ^ 64 < 2 ^ 32 := by
      omega
    omega

/-- The clock follows the true time from `origin` on exactly when the first read does, the dropped
cycles stay below what would put it behind, and the time fits its type. -/
theorem follows_iff_rests {origin : Nat} (horigin : origin ≤ firstUs freq start) :
    Follows freq start origin gaps ↔
      firstUs freq start ≤ origin + 1 ∧
        origin + rests freq gaps / freq.mhz.toNat ≤ firstUs freq start + 1 ∧
        firstUs freq start + cycles gaps / freq.mhz.toNat <
          2 ^ 64 + rests freq gaps / freq.mhz.toNat := by
  have hcycles : cycles gaps / freq.mhz.toNat =
      whole freq gaps + rests freq gaps / freq.mhz.toNat := cycles_div
  constructor
  · intro h
    have hlast := not_wrapped h le_rfl
    obtain ⟨hstart, -⟩ := follows_iff.mp h 0 (Nat.zero_le _)
    obtain ⟨-, hend⟩ := follows_iff.mp h gaps.length le_rfl
    have hfirst := firstUs_lt freq start
    rw [List.take_length] at hlast hend
    rw [Nat.mod_eq_of_lt hlast, hcycles] at hend
    rw [List.take_zero] at hstart
    have hzero : cycles [] / freq.mhz.toNat = 0 := Nat.zero_div _
    have hwhole : whole freq [] = 0 := rfl
    rw [hzero, hwhole, Nat.mod_eq_of_lt (by omega)] at hstart
    omega
  · rintro ⟨hstart, hend, hfit⟩
    refine follows_iff.mpr fun k _ => ?_
    have hwhole := whole_take_le freq gaps k
    have hrests : rests freq (gaps.take k) / freq.mhz.toNat ≤ rests freq gaps / freq.mhz.toNat :=
      Nat.div_le_div_right (rests_take_le freq gaps k)
    rw [Nat.mod_eq_of_lt (by omega), cycles_div]
    generalize rests freq (gaps.take k) / freq.mhz.toNat = dropped at hrests ⊢
    omega

/-- The time every read returns is the true time since the first read to within a microsecond if
and only if the counter stands below two microseconds at the first read, the cycles the gaps have
beyond whole microseconds sum up to less than two microseconds past it, and the time fits its
type. Measured from the time the first read returns, the first condition falls away. -/
theorem noDrift_iff (freq : CpuFreqMhz) (start : Nat) (gaps : List UInt32) :
    (NoDrift freq start gaps ↔
      start % 2 ^ 32 < 2 * freq.mhz.toNat ∧
        rests freq gaps < (firstUs freq start + 2) * freq.mhz.toNat ∧
        firstUs freq start + cycles gaps / freq.mhz.toNat <
          2 ^ 64 + rests freq gaps / freq.mhz.toNat) ∧
    (Follows freq start (firstUs freq start) gaps ↔
      rests freq gaps < 2 * freq.mhz.toNat ∧
        firstUs freq start + cycles gaps / freq.mhz.toNat <
          2 ^ 64 + rests freq gaps / freq.mhz.toNat) := by
  have hdiv : ∀ {x n : Nat}, x < (n + 1) * freq.mhz.toNat ↔ x / freq.mhz.toNat ≤ n := by
    intro x n
    rw [← Nat.div_lt_iff_lt_mul freq.pos, Nat.lt_succ_iff]
  constructor
  · rw [NoDrift, follows_iff_rests (Nat.zero_le _), hdiv, hdiv, Nat.zero_add, Nat.zero_add]
    rfl
  · rw [follows_iff_rests le_rfl, hdiv]
    omega

/-- At 480 MHz five gaps of just under a microsecond pass unnoticed. -/
theorem short_gaps_drift :
    ¬ NoDrift ⟨480, by decide⟩ 0 (List.replicate 5 479) ∧
      ¬ Follows ⟨480, by decide⟩ 0 (firstUs ⟨480, by decide⟩ 0) (List.replicate 5 479) := by
  constructor
  · intro h
    exact absurd (h 5 0 (by decide +kernel)) (by decide)
  · intro h
    exact absurd (h 5 0 (by decide +kernel)) (by decide)

end CycleClock

end Aviate
