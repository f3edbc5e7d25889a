import Mathlib.Algebra.Group.Nat.Defs
import Mathlib.Logic.Basic

/-! Positions on a circle. What lies between a head and a tail is told by distances
from the head; the position after the last one is the first one again. -/
namespace Circular

/-- How far it is from a head to a position. -/
def distance (size head position : Nat) : Nat := (position + size - head) % size

/-- A position from the head up to the tail. -/
def Between (size head tail position : Nat) : Prop :=
  distance size head position < distance size head tail

instance (size head tail position : Nat) : Decidable (Between size head tail position) :=
  inferInstanceAs (Decidable (_ < _))

variable {size head tail : Nat}

theorem distance_lt (hSize : 0 < size) (position : Nat) : distance size head position < size :=
  Nat.mod_lt _ hSize

theorem distance_of_le (hLe : head ≤ tail) (hTail : tail - head < size) :
    distance size head tail = tail - head := by
  have hSplit : tail + size - head = (tail - head) + size := by omega
  rw [distance, hSplit, Nat.add_mod_right, Nat.mod_eq_of_lt hTail]

theorem distance_of_lt (hLt : tail < head) (hHead : head < size) :
    distance size head tail = tail + size - head :=
  Nat.mod_eq_of_lt (by omega)

/-- A position further on is further from the head, unless the head is passed. -/
theorem distance_add (hHead : head < size) {n : Nat} (hRoom : distance size head tail + n < size) :
    distance size head (tail + n) = distance size head tail + n := by
  have hSplit : tail + n + size - head = tail + size - head + n := by omega
  rw [distance, hSplit, ← Nat.mod_add_mod]
  exact Nat.mod_eq_of_lt hRoom

theorem distance_add_size (hHead : head < size) (position : Nat) :
    distance size head (size + position) = distance size head position := by
  have hSplit : size + position + size - head = position + size - head + size := by omega
  rw [distance, hSplit, Nat.add_mod_right]
  rfl

/-- A head that goes on, up to the tail, comes nearer to it. -/
theorem distance_advance (hHead : head < size) {k : Nat} (hK : k ≤ distance size head tail) :
    distance size ((head + k) % size) tail = distance size head tail - k := by
  have hDistance : tail + size - head = distance size head tail +
      size * ((tail + size - head) / size) := (Nat.mod_add_div _ _).symm
  have hMoved : head + k = (head + k) % size + size * ((head + k) / size) :=
    (Nat.mod_add_div _ _).symm
  have hSplit : tail + size - (head + k) % size = distance size head tail - k +
      size * ((tail + size - head) / size + (head + k) / size) := by
    rw [Nat.mul_add]
    omega
  have hLess : distance size head tail - k < size :=
    Nat.lt_of_le_of_lt (Nat.sub_le _ _) (distance_lt (Nat.zero_lt_of_lt hHead) tail)
  rw [distance, hSplit, Nat.add_mul_mod_self_left, Nat.mod_eq_of_lt hLess]

/-- What comes after the tail is not between the head and the tail. -/
theorem not_between_add (hHead : head < size) {n : Nat}
    (hRoom : distance size head tail + n < size) : ¬ Between size head tail (tail + n) := by
  rw [Between, distance_add hHead hRoom]
  exact Nat.not_lt.mpr (Nat.le_add_right _ _)

end Circular
