import NootedBlue.Semantics.Rounding
import NootedBlue.Vbt.Timing

/-! The refresh rate of a mode that was read from the VBT, and the time of a frame. The
product of the two lengths has the type `int`, and only the products that are made of it
are checked. Where something does not fit, the rate is zero, and the time of a frame is
divided by it. -/
namespace NootedBlue.Vbt

open Bytes Rounding

/-- What has no meaning in C: an `int` that is too large, or a zero divisor. -/
inductive Fault where
  | overflow
  | zeroDivisor
  deriving DecidableEq, Repr

/-- A value of the type `int`. -/
def checkInt (value : Int) : Except Fault Int :=
  if -2 ^ 31 ≤ value ∧ value < 2 ^ 31 then pure value else throw .overflow

/-- `__builtin_mul_overflow` with an unsigned place for the product; nothing means that it
does not fit. -/
def builtinMulOverflow (a : Int) (b : Nat) : Option Nat :=
  if 0 ≤ a * b ∧ a * b < 2 ^ 32 then some (a * b).toNat else none

/-- `DIV_ROUND_CLOSEST_ULL`. -/
def divRoundClosestUll (x divisor : Nat) : Except Fault Nat :=
  if divisor = 0 then throw .zeroDivisor else pure ((x + divisor / 2) % 2 ^ 64 / divisor)

/-- `DIV_ROUND_UP` of two values of the type `int`. -/
def divRoundUp (n d : Int) : Except Fault Int := do
  let sum ← checkInt (n + d)
  let less ← checkInt (sum - 1)
  if d = 0 then throw .zeroDivisor else pure (less.tdiv d)

/-- `DRM_MODE_FLAG_DBLSCAN` is bit 5. -/
def doubleScanned (flags : Nat) : Bool := flags.testBit 5

/-- `vscan`, the second of the members that no parser writes. -/
def Mode.vscan (mode : Mode) : Nat :=
  (mode.unwritten.getD 2 0).toNat + 0x100 * (mode.unwritten.getD 3 0).toNat

/-- `num` before the clock, and `den` before the two lengths. -/
def Mode.num (mode : Mode) : Nat := if interlaced mode.flags then 2 else 1

def Mode.den (mode : Mode) : Nat :=
  (if doubleScanned mode.flags then 2 else 1) * if mode.vscan > 1 then mode.vscan else 1

/-- `drm_mode_vrefresh`. -/
def drmModeVrefresh (mode : Mode) : Except Fault Int :=
  if mode.h.total = 0 ∨ mode.v.total = 0 then pure 0
  else
    match builtinMulOverflow mode.clock mode.num with
    | none => pure 0
    | some num => do
        let product ← checkInt (mode.h.total * mode.v.total)
        match builtinMulOverflow product mode.den with
        | none => pure 0
        | some den => toInt <$> divRoundClosestUll (num * 1000) den

/-- `intel_get_frame_time_us`, with `hw.active` and `hw.adjusted_mode`. -/
def intelGetFrameTimeUs (active : Bool) (adjustedMode : Mode) : Except Fault Nat :=
  if active then do
    let vrefresh ← drmModeVrefresh adjustedMode
    let time ← divRoundUp (1000 * 1000) vrefresh
    return (time % 2 ^ 32).toNat
  else pure 0

section Checks

theorem checkInt_natCast {value : Nat} (h : value < 2 ^ 31) : checkInt value = pure (value : Int) := by
  apply if_pos
  omega

theorem checkInt_eq_error {value : Nat} (h : 2 ^ 31 ≤ value) :
    checkInt value = throw .overflow := by
  apply if_neg
  omega

theorem builtinMulOverflow_eq_some {a : Int} {b product : Nat} (hProduct : a * b = product)
    (h : product < 2 ^ 32) : builtinMulOverflow a b = some product := by
  rw [builtinMulOverflow, hProduct, if_pos (by omega), Int.toNat_natCast]

theorem builtinMulOverflow_eq_none {a : Int} {b : Nat} (h : a * b < 0 ∨ 2 ^ 32 ≤ a * b) :
    builtinMulOverflow a b = none := by
  apply if_neg
  omega

theorem divRoundClosestUll_eq {x divisor : Nat} (hPos : 0 < divisor)
    (hSum : x + divisor / 2 < 2 ^ 64) : divRoundClosestUll x divisor = pure (closest x divisor) := by
  rw [divRoundClosestUll, if_neg (Nat.ne_of_gt hPos), Nat.mod_eq_of_lt hSum, closest]

theorem checkInt_cases (value : Int) :
    checkInt value = pure value ∨ checkInt value = throw .overflow := by
  rw [checkInt]
  split
  next => exact .inl rfl
  next => exact .inr rfl

theorem toInt_of_lt {value : Nat} (h : value < 2 ^ 31) : toInt value = value :=
  Int.bmod_eq_of_le_mul_two (by omega) (by omega)

theorem toInt_lt (value : Nat) : toInt value < 2 ^ 31 :=
  Int.bmod_lt (by decide)

end Checks

namespace Mode

/-- What the clock is divided by. -/
def divisor (mode : Mode) : Nat := mode.h.total * mode.v.total * mode.den

/-- The refresh rate as a rational number. -/
def refreshRate (mode : Mode) : ℚ := (1000 * (mode.clock * mode.num) : ℤ) / mode.divisor

/-- The rate is computed without a fault and is the nearest integer, and the time of a
frame of an active crtc is not divided by zero. -/
structure Refreshes (mode : Mode) : Prop where
  rate : drmModeVrefresh mode = .ok (round mode.refreshRate)
  frame : intelGetFrameTimeUs true mode ≠ .error .zeroDivisor

/-- Both lengths are there, the products fit, and the rate is not below a half and fits as
well. -/
structure Measurable (mode : Mode) : Prop where
  h : 0 < mode.h.total
  v : 0 < mode.v.total
  product : mode.h.total * mode.v.total < 2 ^ 31
  divisor : mode.divisor < 2 ^ 32
  low : mode.divisor ≤ 2 * (1000 * (mode.clock * mode.num))
  high : 2 * (1000 * (mode.clock * mode.num)) + mode.divisor < 2 * (2 ^ 31 * mode.divisor)

variable {mode : Mode}

theorem num_pos (mode : Mode) : 0 < mode.num := by
  rw [num]
  split <;> decide

theorem num_le (mode : Mode) : mode.num ≤ 2 := by
  rw [num]
  split <;> decide

theorem den_pos (mode : Mode) : 0 < mode.den := by
  rw [den]
  apply Nat.mul_pos
  · split <;> decide
  · split
    next hMany => omega
    next => decide

theorem divisor_pos (hH : 0 < mode.h.total) (hV : 0 < mode.v.total) : 0 < mode.divisor :=
  Nat.mul_pos (Nat.mul_pos hH hV) mode.den_pos

/-- The ways through the function: one of the three early exits, the overflow, or the
division. -/
inductive Computed (mode : Mode) : Except Fault Int → Prop where
  | empty (h : mode.h.total = 0 ∨ mode.v.total = 0) : Computed mode (.ok 0)
  | negative (h : mode.clock * mode.num < 0) : Computed mode (.ok 0)
  | overflow (h : 2 ^ 31 ≤ mode.h.total * mode.v.total) : Computed mode (.error .overflow)
  | long (h : 2 ^ 32 ≤ mode.divisor) : Computed mode (.ok 0)
  | divided (clock : Nat) (hClock : mode.clock * mode.num = clock)
      (hH : 0 < mode.h.total) (hV : 0 < mode.v.total)
      (hProduct : mode.h.total * mode.v.total < 2 ^ 31) (hDivisor : mode.divisor < 2 ^ 32) :
      Computed mode (.ok (toInt (closest (1000 * clock) mode.divisor)))

/-- A clock is an `int`, and twice of it is not too large. -/
theorem clock_mul_lt (hClock : mode.clock < 2 ^ 31) : mode.clock * mode.num < 2 ^ 32 := by
  have hPos := mode.num_pos
  have hTwo := mode.num_le
  obtain hOne | hBoth : mode.num = 1 ∨ mode.num = 2 := by omega
  · rw [hOne]
    omega
  · rw [hBoth]
    omega

theorem computed (hClock : mode.clock < 2 ^ 31) : Computed mode (drmModeVrefresh mode) := by
  have hMul := clock_mul_lt hClock
  rw [drmModeVrefresh]
  split
  next hEmpty => exact .empty hEmpty
  next hLengths =>
    rw [not_or] at hLengths
    have hH := Nat.pos_of_ne_zero hLengths.1
    have hV := Nat.pos_of_ne_zero hLengths.2
    rw [← Nat.cast_mul]
    by_cases hSign : mode.clock * mode.num < 0
    · rw [builtinMulOverflow_eq_none (.inl hSign)]
      exact .negative hSign
    · obtain ⟨clock, hEq⟩ := Int.eq_ofNat_of_zero_le (Int.not_lt.mp hSign)
      rw [hEq] at hMul
      rw [builtinMulOverflow_eq_some hEq (by omega)]
      by_cases hProduct : mode.h.total * mode.v.total < 2 ^ 31
      · rw [checkInt_natCast hProduct]
        dsimp only
        rw [pure_bind]
        have hMulDen : ((mode.h.total * mode.v.total : ℕ) : ℤ) * mode.den = mode.divisor :=
          (Nat.cast_mul _ _).symm
        by_cases hDivisor : mode.divisor < 2 ^ 32
        · rw [builtinMulOverflow_eq_some hMulDen hDivisor]
          dsimp only
          rw [divRoundClosestUll_eq (divisor_pos hH hV) (by omega), Nat.mul_comm clock, map_pure]
          exact .divided clock hEq hH hV hProduct hDivisor
        · rw [builtinMulOverflow_eq_none (.inr (by omega))]
          exact .long (Nat.not_lt.mp hDivisor)
      · rw [checkInt_eq_error (Nat.not_lt.mp hProduct)]
        exact .overflow (Nat.not_lt.mp hProduct)

/-- The time of a frame is divided by zero just where the rate is zero. -/
theorem frame_eq_error_iff {rate : Int} (hRate : drmModeVrefresh mode = .ok rate) :
    intelGetFrameTimeUs true mode = .error .zeroDivisor ↔ rate = 0 := by
  have hRun : intelGetFrameTimeUs true mode =
      (divRoundUp (1000 * 1000) rate >>= fun time => pure (time % 2 ^ 32).toNat) := by
    rw [intelGetFrameTimeUs, if_pos rfl, hRate]
    rfl
  by_cases hZero : rate = 0
  · subst hZero
    rw [hRun]
    exact iff_of_true rfl rfl
  · refine iff_of_false (fun hError => ?_) hZero
    rw [hRun, divRoundUp] at hError
    rcases checkInt_cases (1000 * 1000 + rate) with hSum | hSum
    · rw [hSum, pure_bind] at hError
      rcases checkInt_cases (1000 * 1000 + rate - 1) with hLess | hLess
      · rw [hLess, pure_bind, if_neg hZero] at hError
        cases hError
      · rw [hLess] at hError
        cases hError
    · rw [hSum] at hError
      cases hError

/-- The rate of a mode whose clock is not negative. -/
theorem round_refreshRate {clock : Nat} (hClock : mode.clock * mode.num = clock)
    (hPos : 0 < mode.divisor) :
    round mode.refreshRate = closest (1000 * clock) mode.divisor := by
  rw [closest_eq_round _ hPos, refreshRate, hClock]
  push_cast
  rfl

/-- A rate that is divided out is right just when it is positive and fits in an `int`. -/
theorem refreshes_iff_of_divided {rate : Nat} (hRate : drmModeVrefresh mode = .ok (toInt rate))
    (hRound : round mode.refreshRate = rate) :
    mode.Refreshes ↔ 0 < rate ∧ rate < 2 ^ 31 := by
  constructor
  · rintro ⟨hSame, hFrame⟩
    rw [hRate, hRound] at hSame
    have hInt : toInt rate = rate := Except.ok.inj hSame
    have hLess := toInt_lt rate
    refine ⟨Nat.pos_of_ne_zero ?_, by omega⟩
    rintro rfl
    exact hFrame ((frame_eq_error_iff hRate).mpr rfl)
  · rintro ⟨hPositive, hLess⟩
    rw [toInt_of_lt hLess] at hRate
    refine ⟨?_, fun hFrame => ?_⟩
    · rw [hRate, hRound]
    · have hZero := (frame_eq_error_iff hRate).mp hFrame
      omega

/-- The rate is right where the products fit and where it is neither zero nor too large. -/
theorem refreshes_iff (hClock : mode.clock < 2 ^ 31) : mode.Refreshes ↔ mode.Measurable := by
  have hComputed := computed hClock
  generalize hRate : drmModeVrefresh mode = result at hComputed
  have hNot (hZero : drmModeVrefresh mode = .ok 0) (refreshes : mode.Refreshes) : False :=
    refreshes.frame ((frame_eq_error_iff hZero).mpr rfl)
  cases hComputed with
  | empty hEmpty =>
      refine iff_of_false (hNot hRate) fun measurable => ?_
      rcases hEmpty with hH | hV
      · exact Nat.ne_of_gt measurable.h hH
      · exact Nat.ne_of_gt measurable.v hV
  | negative hNegative =>
      refine iff_of_false (hNot hRate) fun measurable => ?_
      have hLow := measurable.low
      omega
  | overflow hLong =>
      refine iff_of_false (fun refreshes => ?_) fun measurable =>
        Nat.not_lt.mpr hLong measurable.product
      have hError := refreshes.rate
      rw [hRate] at hError
      cases hError
  | long hLong =>
      exact iff_of_false (hNot hRate) fun measurable => Nat.not_lt.mpr hLong measurable.divisor
  | divided clock hEq hH hV hProduct hDivisor =>
      have hPos := divisor_pos hH hV
      rw [refreshes_iff_of_divided hRate (round_refreshRate hEq hPos), closest_pos_iff hPos,
        closest_lt_iff hPos]
      constructor
      · rintro ⟨hHalf, hFits⟩
        refine { h := hH, v := hV, product := hProduct, divisor := hDivisor, low := ?_, high := ?_ }
        · omega
        · omega
      · intro measurable
        have hHalf := measurable.low
        have hFits := measurable.high
        omega

end Mode

/-- Of the modes that the two parsers store, in memory that held anything before, exactly
those have the right rate whose products fit and whose rate is neither zero nor too
large. -/
theorem stored_refreshes_iff (fresh : Mode) (memory : Memory) (dtd : Nat) :
    ((genericMode fresh memory dtd).Refreshes ↔ (genericMode fresh memory dtd).Measurable) ∧
      ((fillDetailTimingData fresh memory dtd).Refreshes ↔
        (fillDetailTimingData fresh memory dtd).Measurable) := by
  constructor
  · apply Mode.refreshes_iff
    simp only [genericMode, Mode.fill]
    exact toInt_lt _
  · apply Mode.refreshes_iff
    have hClock := u16_lt memory dtd
    show (u16 memory dtd * 10 : ℤ) < 2 ^ 31
    omega

/-- An entry of generic timings with 65535 pixels and as many lines. -/
def longestEntry : Memory := fun i =>
  [0, 0, 0, 0x10, 0xFF, 0xFF, 0, 0, 0, 0, 0, 0, 0xFF, 0xFF, 0, 0].getD i 0

theorem longest_overflows :
    ¬ ∀ (fresh : Mode) (memory : Memory) (dtd : Nat),
      (genericMode fresh memory dtd).Refreshes ∧
        (fillDetailTimingData fresh memory dtd).Refreshes := by
  intro hAll
  have hRate := (hAll .cleared longestEntry 0).1.rate
  have hOverflow : drmModeVrefresh (genericMode .cleared longestEntry 0) = .error .overflow := by
    decide
  rw [hOverflow] at hRate
  cases hRate

end NootedBlue.Vbt
