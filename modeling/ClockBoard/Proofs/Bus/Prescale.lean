import Mathlib.Order.Bounds.Basic
import ClockBoard.Bus.Config

/-!
The clock divider of a core, worked out in words of 32 bits. A product that does not fit stops at
the largest word, a difference stops at zero, and the result stops at the largest word of 16 bits.

The main statement says that the words never show: the divider is the one that whole numbers of any
size lead to, up to the largest that the core can hold.
-/

namespace ClockBoard.Bus.Config

/-! ## Words -/

def divisor (config : Config) : UInt32 :=
  UInt32.ofNat (min (5 * max config.sclHz.toNat 1) (UInt32.size - 1))

def divided (config : Config) : UInt32 :=
  config.clockHz / config.divisor

def lowered (config : Config) : UInt32 :=
  if config.divided = 0 then 0 else config.divided - 1

/-- Whether every word holds the number that it stands for. -/
structure Holds (config : Config) : Prop where
  divisor : config.divisor.toNat = min (5 * max config.sclHz.toNat 1) (UInt32.size - 1)
  nonzero : config.divisor ≠ 0
  divided : config.divided.toNat = config.clockHz.toNat / config.divisor.toNat
  lowered : config.lowered.toNat = config.divided.toNat - 1
  prescale : config.prescale.toNat = min config.lowered.toNat (UInt16.size - 1)

section Words

variable (config : Config)

theorem toNat_divisor :
    config.divisor.toNat = min (5 * max config.sclHz.toNat 1) (UInt32.size - 1) := by
  have size : UInt32.size = 4294967296 := rfl
  apply UInt32.toNat_ofNat_of_lt'
  omega

theorem toNat_divisor_pos : 0 < config.divisor.toNat := by
  have size : UInt32.size = 4294967296 := rfl
  rw [toNat_divisor]
  omega

theorem toNat_lowered : config.lowered.toNat = config.divided.toNat - 1 := by
  unfold lowered
  split
  · rename_i zero
    rw [zero]
    rfl
  · rename_i some
    have positive : config.divided.toNat ≠ 0 := fun zero => some (UInt32.toNat_inj.mp zero)
    apply UInt32.toNat_sub_of_le
    apply UInt32.le_iff_toNat_le.mpr
    change 1 ≤ config.divided.toNat
    omega

theorem holds : config.Holds where
  divisor := config.toNat_divisor
  nonzero zero := by
    have positive := config.toNat_divisor_pos
    rw [zero] at positive
    exact absurd positive (Nat.lt_irrefl 0)
  divided := UInt32.toNat_div _ _
  lowered := config.toNat_lowered
  prescale := by
    have size : UInt16.size = 65536 := rfl
    rw [toNat_lowered, divided, UInt32.toNat_div, toNat_divisor, Nat.mul_comm 5]
    apply UInt16.toNat_ofNat_of_lt'
    omega

end Words

/-! ## Whole numbers -/

def quotient (config : Config) : Nat :=
  config.clockHz.toNat / (5 * max config.sclHz.toNat 1)

/-- A divisor that has stopped goes into any frequency once at most, where the whole one does not go
into it at all. One less is nothing in both cases. -/
theorem toNat_divided_sub_one (config : Config) :
    config.divided.toNat - 1 = config.quotient - 1 := by
  have size : UInt32.size = 4294967296 := rfl
  have bound := config.clockHz.toNat_lt
  rw [config.holds.divided, toNat_divisor, quotient]
  by_cases fits : 5 * max config.sclHz.toNat 1 ≤ UInt32.size - 1
  · rw [Nat.min_eq_left fits]
  · have once : config.clockHz.toNat / (UInt32.size - 1) < 2 := by
      apply Nat.div_lt_of_lt_mul
      omega
    have never : config.clockHz.toNat / (5 * max config.sclHz.toNat 1) = 0 := by
      apply Nat.div_eq_of_lt
      omega
    rw [Nat.min_eq_right (by omega)]
    omega

theorem toNat_prescale (config : Config) :
    config.prescale.toNat = min (config.quotient - 1) (UInt16.size - 1) := by
  rw [config.holds.prescale, toNat_lowered, toNat_divided_sub_one]

variable {config : Config}

theorem le_clockHz_iff {prescale : Nat} :
    5 * max config.sclHz.toNat 1 * (prescale + 1) ≤ config.clockHz.toNat ↔
      prescale < config.quotient := by
  have positive : 0 < 5 * max config.sclHz.toNat 1 := by omega
  rw [quotient, ← Nat.succ_le_iff, Nat.le_div_iff_mul_le positive, Nat.mul_comm]

theorem isGreatest_prescale (some : 1 ≤ config.quotient) (few : config.quotient ≤ UInt16.size) :
    IsGreatest {prescale : Nat |
      5 * max config.sclHz.toNat 1 * (prescale + 1) ≤ config.clockHz.toNat}
      config.prescale.toNat := by
  have exact : config.prescale.toNat = config.quotient - 1 := by
    rw [toNat_prescale]
    omega
  rw [exact]
  constructor
  · apply le_clockHz_iff.mpr
    omega
  · intro prescale slow
    have less := le_clockHz_iff.mp slow
    omega

theorem quotient_mono {other : Config} (clock : config.clockHz ≤ other.clockHz)
    (wire : other.sclHz ≤ config.sclHz) : config.quotient ≤ other.quotient := by
  have clocks := UInt32.le_iff_toNat_le.mp clock
  have wires := UInt32.le_iff_toNat_le.mp wire
  calc config.clockHz.toNat / (5 * max config.sclHz.toNat 1)
    _ ≤ other.clockHz.toNat / (5 * max config.sclHz.toNat 1) := Nat.div_le_div_right clocks
    _ ≤ other.clockHz.toNat / (5 * max other.sclHz.toNat 1) := by
        apply Nat.div_le_div_left <;> omega

/-- The prescale is one less than the quotient of the frequencies, cut off at both ends. Where it is
not cut off, it is the largest with which the wire is no faster than it should be, and it follows
both frequencies. -/
theorem prescale_exact (config : Config) :
    let divisor := 5 * max config.sclHz.toNat 1
    let quotient := config.clockHz.toNat / divisor
    (config.prescale.toNat : Int) = min 65535 (max 0 ((quotient : Int) - 1)) ∧ config.Holds ∧
      (1 ≤ quotient → quotient ≤ 65536 →
        IsGreatest {prescale : Nat | divisor * (prescale + 1) ≤ config.clockHz.toNat}
          config.prescale.toNat) ∧
      ∀ other : Config, config.clockHz ≤ other.clockHz → other.sclHz ≤ config.sclHz →
        config.prescale ≤ other.prescale := by
  intro divisor quotient
  have size : UInt16.size = 65536 := rfl
  have same : config.quotient = quotient := rfl
  refine ⟨?_, config.holds, isGreatest_prescale, ?_⟩
  · rw [toNat_prescale]
    omega
  · intro other clock wire
    have apart := quotient_mono clock wire
    rw [UInt16.le_iff_toNat_le, toNat_prescale, toNat_prescale]
    omega

theorem prescale_exact_fast :
    let config : Config := { clockHz := 50000000, sclHz := 400000 }
    IsGreatest {prescale : Nat | 5 * max 400000 1 * (prescale + 1) ≤ 50000000} 24 ∧
      config.prescale ≤ ({ config with sclHz := 0 } : Config).prescale := by
  intro config
  rcases prescale_exact config with ⟨_, _, greatest, follows⟩
  have exact : config.prescale.toNat = 24 := by decide
  exact ⟨exact ▸ greatest (by decide) (by decide), follows _ (by decide) (by decide)⟩

end ClockBoard.Bus.Config
