import Mathlib.Algebra.Order.Round
import Mathlib.Data.Rat.Floor

/-! Division of natural numbers that gives the nearest one. A half goes up. -/
namespace Rounding

/-- The quotient, to the nearest number. -/
def closest (n d : Nat) : Nat := (n + d / 2) / d

variable {n m d k : Nat}

/-- It is the rounding of the rational quotient. -/
theorem closest_eq_round (n : Nat) (hPos : 0 < d) : (closest n d : ℤ) = round ((n : ℚ) / d) := by
  have hDouble : closest n d = (2 * n + d) / (2 * d) := by
    have hHalf : n + d / 2 = (2 * n + d) / 2 := by omega
    rw [closest, hHalf, Nat.div_div_eq_div_mul]
  have hCast : (d : ℚ) ≠ 0 := Nat.cast_ne_zero.mpr (Nat.ne_of_gt hPos)
  have hSum : (n : ℚ) / d + 1 / 2 = ((2 * n + d : Nat) : ℚ) / ((2 * d : Nat) : ℚ) := by
    push_cast
    field_simp
  rw [round_eq, hSum, Rat.floor_natCast_div_natCast, hDouble, Int.natCast_ediv]

theorem closest_mono (h : n ≤ m) : closest n d ≤ closest m d :=
  Nat.div_le_div_right (Nat.add_le_add_right h _)

theorem closest_mul (k : Nat) (hPos : 0 < d) : closest (k * d) d = k := by
  rw [closest, Nat.mul_comm, Nat.mul_add_div hPos, Nat.div_eq_of_lt (by omega), Nat.add_zero]

/-- It does not leave a bound that is a whole number. -/
theorem closest_le (hPos : 0 < d) (h : n ≤ k * d) : closest n d ≤ k := by
  calc closest n d ≤ closest (k * d) d := closest_mono h
    _ = k := closest_mul k hPos

theorem closest_pos_iff (hPos : 0 < d) : 0 < closest n d ↔ d ≤ 2 * n := by
  rw [closest, Nat.div_pos_iff]
  omega

theorem closest_lt_iff (hPos : 0 < d) : closest n d < k ↔ 2 * n + d < 2 * (k * d) := by
  rw [closest, Nat.div_lt_iff_lt_mul hPos]
  omega

/-- What was rounded after it was stretched comes back: the error was at most a half,
and it is less than that after the way back. -/
theorem closest_back {s t : Nat} (x : Nat) (hPos : 0 < s) (h : s ≤ t) :
    closest (closest (x * t) s * s) t = x := by
  rcases Nat.eq_or_lt_of_le h with rfl | hLess
  · rw [closest_mul x hPos, closest_mul x hPos]
  · have hLow : x * t + s / 2 < closest (x * t) s * s + s := by
      have hDiv := Nat.lt_mul_div_succ (x * t + s / 2) hPos
      rw [Nat.mul_succ, Nat.mul_comm s] at hDiv
      exact hDiv
    have hHigh : closest (x * t) s * s ≤ x * t + s / 2 := Nat.div_mul_le_self _ _
    have hNext : (x + 1) * t = x * t + t := by rw [Nat.add_mul, Nat.one_mul]
    apply Nat.div_eq_of_lt_le
    · omega
    · omega

end Rounding
