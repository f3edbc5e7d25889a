import NootedBlue.Backlight.Parse
import NootedBlue.Semantics.Rounding

/-! What `scale` makes of a value: it takes one range to another, and rounds. -/
namespace NootedBlue.Backlight

open Rounding

/-- The two ranges of a call, in 32 bits. -/
structure Ranges where
  sourceMin : Nat
  sourceMax : Nat
  targetMin : Nat
  targetMax : Nat
  source_lt : sourceMin < sourceMax
  target_le : targetMin ≤ targetMax
  sourceMax_lt : sourceMax < 2 ^ 32
  targetMax_lt : targetMax < 2 ^ 32

namespace Ranges

variable (ranges : Ranges)

/-- The call. -/
def scaled (sourceVal : Nat) : Nat :=
  scale sourceVal ranges.sourceMin ranges.sourceMax ranges.targetMin ranges.targetMax

/-- The value of the source range that is next to a value. -/
def within (sourceVal : Nat) : Nat := max ranges.sourceMin (min sourceVal ranges.sourceMax)

def sourceRange : Nat := ranges.sourceMax - ranges.sourceMin

def targetRange : Nat := ranges.targetMax - ranges.targetMin

/-- The product, without a wrap. -/
def product (sourceVal : Nat) : Nat :=
  (ranges.within sourceVal - ranges.sourceMin) * ranges.targetRange

/-- The place of a value in the target range as a rational number. -/
def image (sourceVal : Nat) : ℚ :=
  ranges.targetMin +
    ((ranges.within sourceVal - ranges.sourceMin : Nat) : ℚ) * ranges.targetRange /
      ranges.sourceRange

theorem sourceRange_pos : 0 < ranges.sourceRange := Nat.sub_pos_of_lt ranges.source_lt

theorem within_mem (sourceVal : Nat) :
    ranges.sourceMin ≤ ranges.within sourceVal ∧ ranges.within sourceVal ≤ ranges.sourceMax :=
  ⟨Nat.le_max_left _ _, Nat.max_le.mpr ⟨Nat.le_of_lt ranges.source_lt, Nat.min_le_right _ _⟩⟩

theorem within_mono {first second : Nat} (h : first ≤ second) :
    ranges.within first ≤ ranges.within second := by
  rw [within, within]
  omega

theorem within_of_mem {sourceVal : Nat} (hLow : ranges.sourceMin ≤ sourceVal)
    (hHigh : sourceVal ≤ ranges.sourceMax) : ranges.within sourceVal = sourceVal := by
  rw [within, Nat.min_eq_left hHigh, Nat.max_eq_right hLow]

theorem product_le (sourceVal : Nat) :
    ranges.product sourceVal ≤ ranges.targetRange * ranges.sourceRange := by
  rw [product, Nat.mul_comm]
  exact Nat.mul_le_mul_left _ (Nat.sub_le_sub_right (ranges.within_mem sourceVal).2 _)

/-- Two ranges of 32 bits have a product of 64, and there is room for the half that is
added. -/
theorem sum_lt (sourceVal : Nat) :
    ranges.product sourceVal + ranges.sourceRange / 2 < 2 ^ 64 := by
  have hSource : ranges.sourceRange ≤ 2 ^ 32 - 1 := by
    have hMax := ranges.sourceMax_lt
    rw [sourceRange]
    omega
  have hTarget : ranges.targetRange ≤ 2 ^ 32 - 1 := by
    have hMax := ranges.targetMax_lt
    rw [targetRange]
    omega
  have hProduct : ranges.product sourceVal ≤ (2 ^ 32 - 1) * (2 ^ 32 - 1) :=
    Nat.le_trans (ranges.product_le sourceVal) (Nat.mul_le_mul hTarget hSource)
  omega

/-- The call without the cuts to 64 and 32 bits. -/
theorem scaled_eq (sourceVal : Nat) :
    ranges.scaled sourceVal =
      closest (ranges.product sourceVal) ranges.sourceRange + ranges.targetMin := by
  have hLess := ranges.source_lt
  have hSourceMax := ranges.sourceMax_lt
  have hTarget := ranges.target_le
  have hTargetMax := ranges.targetMax_lt
  have hWithin : (if sourceVal < ranges.sourceMin then ranges.sourceMin
      else if sourceVal > ranges.sourceMax then ranges.sourceMax else sourceVal) =
      ranges.within sourceVal := by
    rw [within]
    split_ifs <;> omega
  have hDiff {low high : Nat} (hLe : low ≤ high) (hHigh : high < 2 ^ 32) :
      (high + 2 ^ 64 - low) % 2 ^ 64 = high - low := by omega
  obtain ⟨hLow, hHigh⟩ := ranges.within_mem sourceVal
  have hSum := ranges.sum_lt sourceVal
  have hQuotient : closest (ranges.product sourceVal) ranges.sourceRange ≤ ranges.targetRange :=
    closest_le ranges.sourceRange_pos (ranges.product_le sourceVal)
  simp only [scaled, scale, hWithin, hDiff (Nat.le_of_lt hLess) hSourceMax,
    hDiff hTarget hTargetMax, hDiff hLow (Nat.lt_of_le_of_lt hHigh hSourceMax)]
  rw [product, targetRange, sourceRange] at hSum
  rw [Nat.mod_eq_of_lt (show (ranges.within sourceVal - ranges.sourceMin) *
    (ranges.targetMax - ranges.targetMin) < 2 ^ 64 by omega), Nat.mod_eq_of_lt hSum]
  show (closest (ranges.product sourceVal) ranges.sourceRange + ranges.targetMin) % 2 ^ 64 %
    2 ^ 32 = _
  rw [targetRange] at hQuotient
  omega

theorem scaled_mem (sourceVal : Nat) :
    ranges.targetMin ≤ ranges.scaled sourceVal ∧ ranges.scaled sourceVal ≤ ranges.targetMax := by
  have hTarget := ranges.target_le
  have hQuotient : closest (ranges.product sourceVal) ranges.sourceRange ≤ ranges.targetRange :=
    closest_le ranges.sourceRange_pos (ranges.product_le sourceVal)
  rw [targetRange] at hQuotient
  rw [scaled_eq]
  omega

theorem scaled_low {sourceVal : Nat} (h : sourceVal ≤ ranges.sourceMin) :
    ranges.scaled sourceVal = ranges.targetMin := by
  have hLess := ranges.source_lt
  have hWithin : ranges.within sourceVal = ranges.sourceMin := by
    rw [within]
    omega
  have hProduct : ranges.product sourceVal = 0 * ranges.sourceRange := by
    rw [product, hWithin, Nat.sub_self, Nat.zero_mul, Nat.zero_mul]
  rw [scaled_eq, hProduct, closest_mul _ ranges.sourceRange_pos, Nat.zero_add]

theorem scaled_high {sourceVal : Nat} (h : ranges.sourceMax ≤ sourceVal) :
    ranges.scaled sourceVal = ranges.targetMax := by
  have hLess := ranges.source_lt
  have hTarget := ranges.target_le
  have hWithin : ranges.within sourceVal = ranges.sourceMax := by
    rw [within]
    omega
  have hProduct : ranges.product sourceVal = ranges.targetRange * ranges.sourceRange := by
    rw [product, hWithin, Nat.mul_comm, sourceRange]
  rw [scaled_eq, hProduct, closest_mul _ ranges.sourceRange_pos, targetRange]
  omega

theorem scaled_mono {first second : Nat} (h : first ≤ second) :
    ranges.scaled first ≤ ranges.scaled second := by
  rw [scaled_eq, scaled_eq]
  apply Nat.add_le_add_right
  apply closest_mono
  rw [product, product]
  exact Nat.mul_le_mul_right _ (Nat.sub_le_sub_right (ranges.within_mono h) _)

theorem scaled_eq_round (sourceVal : Nat) :
    (ranges.scaled sourceVal : ℤ) = round (ranges.image sourceVal) := by
  have hRound := closest_eq_round (ranges.product sourceVal) ranges.sourceRange_pos
  rw [image, add_comm, round_add_natCast, ← Nat.cast_mul, ← product, ← hRound, scaled_eq]
  exact Nat.cast_add _ _

/-- The ranges the other way round. -/
def swap (hTarget : ranges.targetMin < ranges.targetMax) : Ranges where
  sourceMin := ranges.targetMin
  sourceMax := ranges.targetMax
  targetMin := ranges.sourceMin
  targetMax := ranges.sourceMax
  source_lt := hTarget
  target_le := Nat.le_of_lt ranges.source_lt
  sourceMax_lt := ranges.targetMax_lt
  targetMax_lt := ranges.sourceMax_lt

/-- A target range that is not smaller is not a point. -/
theorem target_lt (h : ranges.sourceRange ≤ ranges.targetRange) :
    ranges.targetMin < ranges.targetMax :=
  Nat.lt_of_sub_pos (Nat.lt_of_lt_of_le ranges.sourceRange_pos h)

/-- On the way back a value of the source range comes out. -/
theorem swap_scaled (h : ranges.sourceRange ≤ ranges.targetRange) (sourceVal : Nat) :
    (ranges.swap (ranges.target_lt h)).scaled (ranges.scaled sourceVal) =
      ranges.within sourceVal := by
  obtain ⟨hLow, -⟩ := ranges.within_mem sourceVal
  obtain ⟨hFirst, hLast⟩ := ranges.scaled_mem sourceVal
  have hInside : (ranges.swap (ranges.target_lt h)).within (ranges.scaled sourceVal) =
      ranges.scaled sourceVal := within_of_mem _ hFirst hLast
  have hOffset : ranges.scaled sourceVal - ranges.targetMin =
      closest (ranges.product sourceVal) ranges.sourceRange := by
    rw [scaled_eq, Nat.add_sub_cancel]
  have hProduct : (ranges.swap (ranges.target_lt h)).product (ranges.scaled sourceVal) =
      closest (ranges.product sourceVal) ranges.sourceRange * ranges.sourceRange := by
    rw [product, hInside]
    exact congrArg (· * ranges.sourceRange) hOffset
  have hBack := closest_back (ranges.within sourceVal - ranges.sourceMin)
    ranges.sourceRange_pos h
  rw [scaled_eq, hProduct]
  exact (congrArg (· + ranges.sourceMin) hBack).trans (Nat.sub_add_cancel hLow)

/-- What a scaling does, with the intermediate values of the C code as they are in the
numbers without a bound. -/
structure Exact : Prop where
  mem : ∀ sourceVal,
    ranges.targetMin ≤ ranges.scaled sourceVal ∧ ranges.scaled sourceVal ≤ ranges.targetMax
  low : ∀ sourceVal ≤ ranges.sourceMin, ranges.scaled sourceVal = ranges.targetMin
  high : ∀ sourceVal ≥ ranges.sourceMax, ranges.scaled sourceVal = ranges.targetMax
  mono : Monotone ranges.scaled
  rounded : ∀ sourceVal, (ranges.scaled sourceVal : ℤ) = round (ranges.image sourceVal)
  product_lt : ∀ sourceVal, ranges.product sourceVal < 2 ^ 64
  sum_lt : ∀ sourceVal, ranges.product sourceVal + ranges.sourceRange / 2 < 2 ^ 64
  total_lt : ∀ sourceVal,
    closest (ranges.product sourceVal) ranges.sourceRange + ranges.targetMin < 2 ^ 32

theorem exact : ranges.Exact where
  mem := ranges.scaled_mem
  low _ := ranges.scaled_low
  high _ := ranges.scaled_high
  mono _ _ := ranges.scaled_mono
  rounded := ranges.scaled_eq_round
  product_lt sourceVal := Nat.lt_of_le_of_lt (Nat.le_add_right _ _) (ranges.sum_lt sourceVal)
  sum_lt := ranges.sum_lt
  total_lt sourceVal := by
    rw [← scaled_eq]
    exact Nat.lt_of_le_of_lt (ranges.scaled_mem sourceVal).2 ranges.targetMax_lt

end Ranges

/-- Every scaling is exact up to the rounding, and where the target range is not the
smaller one the way back undoes it inside the source range. From outside of it the end
comes back. -/
theorem scale_exact (sourceMin sourceMax targetMin targetMax : Nat)
    (hSource : sourceMin < sourceMax) (hTarget : targetMin ≤ targetMax)
    (hSourceMax : sourceMax < 2 ^ 32) (hTargetMax : targetMax < 2 ^ 32) :
    Ranges.Exact ⟨sourceMin, sourceMax, targetMin, targetMax, hSource, hTarget, hSourceMax,
        hTargetMax⟩ ∧
      (sourceMax - sourceMin ≤ targetMax - targetMin → ∀ sourceVal,
        scale (scale sourceVal sourceMin sourceMax targetMin targetMax)
          targetMin targetMax sourceMin sourceMax = max sourceMin (min sourceVal sourceMax)) ∧
      (sourceMax - sourceMin ≤ targetMax - targetMin → ∀ sourceVal, sourceMin ≤ sourceVal →
        sourceVal ≤ sourceMax →
        scale (scale sourceVal sourceMin sourceMax targetMin targetMax)
          targetMin targetMax sourceMin sourceMax = sourceVal) := by
  let ranges : Ranges := ⟨sourceMin, sourceMax, targetMin, targetMax, hSource, hTarget,
    hSourceMax, hTargetMax⟩
  refine ⟨ranges.exact, fun h => ranges.swap_scaled h, ?_⟩
  intro h sourceVal hLow hHigh
  exact (ranges.swap_scaled h sourceVal).trans (ranges.within_of_mem hLow hHigh)

/-- A byte goes to the range up to 100000 and comes back. -/
theorem scale_exact_byte :
    scale (scale 7 0 255 0 100000) 0 100000 0 255 = 7 :=
  (scale_exact 0 255 0 100000 (by decide) (by decide) (by decide) (by decide)).2.2 (by decide) 7
    (by decide) (by decide)

/-- From outside of the source range there is no way back. -/
theorem scale_back_outside :
    ¬ ∀ sourceVal sourceMin sourceMax targetMin targetMax : Nat, sourceVal < 2 ^ 32 →
      sourceMin < sourceMax → targetMin ≤ targetMax → sourceMax < 2 ^ 32 → targetMax < 2 ^ 32 →
      sourceMax - sourceMin ≤ targetMax - targetMin →
      scale (scale sourceVal sourceMin sourceMax targetMin targetMax)
        targetMin targetMax sourceMin sourceMax = sourceVal := by
  intro hBack
  have hSame := hBack 300 0 255 0 255 (by decide) (by decide) (by decide) (by decide) (by decide)
    (by decide)
  exact absurd hSame (by decide)

end NootedBlue.Backlight
