import Mathlib.Logic.Function.Basic

/-! Bitmaps in words of 32 bits. A bit has a place: a word and a number in it. -/
namespace Bitmap

abbrev Words := Nat → BitVec 32

structure Place where
  word : Nat
  bit : Nat
  deriving DecidableEq, Repr

/-- The word of a bit alone. -/
def bit (b : Nat) : BitVec 32 := 1 <<< b

def Has (words : Words) (place : Place) : Prop := (words place.word).getLsbD place.bit = true

instance (words : Words) (place : Place) : Decidable (Has words place) :=
  inferInstanceAs (Decidable (_ = _))

def set (words : Words) (place : Place) : Words :=
  Function.update words place.word (words place.word ||| bit place.bit)

def clear (words : Words) (place : Place) : Words :=
  Function.update words place.word (words place.word &&& ~~~bit place.bit)

/-- The first bit of a word that is not set. -/
def firstClear (bits : BitVec 32) : Option Nat :=
  (List.range 32).find? fun b => bits &&& bit b = 0

variable {words : Words} {place other : Place} {bits : BitVec 32} {b : Nat}

theorem getLsbD_bit (i : Nat) (hBit : b < 32) : (bit b).getLsbD i = decide (i = b) := by
  have hTwoPow : bit b = BitVec.twoPow 32 b := rfl
  rw [hTwoPow, BitVec.getLsbD_twoPow, decide_eq_true hBit, Bool.true_and]
  exact decide_eq_decide.mpr eq_comm

theorem has_set (hBit : place.bit < 32) :
    Has (set words place) other ↔ other = place ∨ Has words other := by
  rcases other with ⟨word, i⟩
  rcases place with ⟨word', j⟩
  simp only [Has, set, Place.mk.injEq]
  by_cases hWord : word = word'
  · subst hWord
    rw [Function.update_self, BitVec.getLsbD_or, getLsbD_bit i hBit, Bool.or_eq_true,
      decide_eq_true_eq, and_iff_right rfl, or_comm]
  · rw [Function.update_of_ne hWord]
    exact (or_iff_right fun h => hWord h.1).symm

theorem has_clear (hBit : place.bit < 32) :
    Has (clear words place) other ↔ other ≠ place ∧ Has words other := by
  rcases other with ⟨word, i⟩
  rcases place with ⟨word', j⟩
  simp only [Has, clear, ne_eq, Place.mk.injEq]
  by_cases hWord : word = word'
  · subst hWord
    rw [Function.update_self, BitVec.getLsbD_and, BitVec.getLsbD_not, getLsbD_bit i hBit]
    by_cases hOver : i < 32
    · simp [hOver, and_comm]
    · simp [hOver, BitVec.getLsbD_of_ge _ _ (Nat.not_lt.mp hOver)]
  · rw [Function.update_of_ne hWord]
    exact (and_iff_right fun h => hWord h.1).symm

theorem and_bit_eq_zero (hBit : b < 32) : bits &&& bit b = 0 ↔ bits.getLsbD b = false := by
  have hAnd : bits &&& bit b = if bits.getLsbD b then bit b else 0 := BitVec.and_twoPow bits b
  rw [hAnd]
  cases hHas : bits.getLsbD b with
  | false => simp
  | true =>
      simp only [if_true, Bool.true_eq_false, iff_false]
      intro hZero
      have hSelf := getLsbD_bit b hBit
      rw [hZero] at hSelf
      simp at hSelf

theorem firstClear_eq_some (h : firstClear bits = some b) :
    b < 32 ∧ bits.getLsbD b = false := by
  have hBit := List.mem_range.mp (List.mem_of_find?_eq_some h)
  have hClear := List.find?_some h
  exact ⟨hBit, (and_bit_eq_zero hBit).mp (of_decide_eq_true hClear)⟩

theorem firstClear_eq_none (h : firstClear bits = none) {i : Nat} (hBit : i < 32) :
    bits.getLsbD i = true := by
  have hNot := List.find?_eq_none.mp h i (List.mem_range.mpr hBit)
  rw [decide_eq_true_eq, and_bit_eq_zero hBit, Bool.not_eq_false] at hNot
  exact hNot

end Bitmap
