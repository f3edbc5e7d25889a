import Mathlib.Algebra.Group.Nat.Defs
import Mathlib.Logic.Basic

/-! Fields of bits in a word: a mask, a value taken out of the word and a value
put in its place. -/
namespace Bits

/-- A word with the bits of a mask replaced by those of a value. -/
def merge {w : Nat} (mask word value : BitVec w) : BitVec w := (word &&& ~~~mask) ||| value

section Merge

variable {w : Nat} {mask word value : BitVec w}

/-- Under the mask the value is seen. -/
theorem merge_and_mask (h : value &&& mask = value) : merge mask word value &&& mask = value := by
  apply BitVec.eq_of_getLsbD_eq
  intro i hi
  have hBit := congrArg (fun v : BitVec w => v.getLsbD i) h
  simp only [BitVec.getLsbD_and] at hBit
  simp only [merge, BitVec.getLsbD_and, BitVec.getLsbD_or, BitVec.getLsbD_not, hi]
  rw [← hBit]
  cases word.getLsbD i <;> cases mask.getLsbD i <;> cases value.getLsbD i <;> rfl

/-- Everywhere else the word is. -/
theorem merge_and_not_mask (h : value &&& mask = value) :
    merge mask word value &&& ~~~mask = word &&& ~~~mask := by
  apply BitVec.eq_of_getLsbD_eq
  intro i hi
  have hBit := congrArg (fun v : BitVec w => v.getLsbD i) h
  simp only [BitVec.getLsbD_and] at hBit
  simp only [merge, BitVec.getLsbD_and, BitVec.getLsbD_or, BitVec.getLsbD_not, hi]
  rw [← hBit]
  cases word.getLsbD i <;> cases mask.getLsbD i <;> cases value.getLsbD i <;> rfl

/-- Nothing is seen of a merge under a mask that has no bits with it in common. -/
theorem merge_and_of_disjoint {other : BitVec w} (hMask : mask &&& other = 0)
    (hValue : value &&& other = 0) : merge mask word value &&& other = word &&& other := by
  apply BitVec.eq_of_getLsbD_eq
  intro i hi
  have hBit := congrArg (fun v : BitVec w => v.getLsbD i) hMask
  have hOther := congrArg (fun v : BitVec w => v.getLsbD i) hValue
  simp only [BitVec.getLsbD_and] at hBit hOther
  simp only [merge, BitVec.getLsbD_and, BitVec.getLsbD_or, BitVec.getLsbD_not, hi]
  revert hBit hOther
  cases word.getLsbD i <;> cases mask.getLsbD i <;> cases value.getLsbD i <;>
    cases other.getLsbD i <;> simp

/-- Values within their masks are together within the masks together. -/
theorem or_and_or {a b m n : BitVec w} (ha : a &&& m = a) (hb : b &&& n = b) :
    (a ||| b) &&& (m ||| n) = a ||| b := by
  apply BitVec.eq_of_getLsbD_eq
  intro i _
  have hA := congrArg (fun v : BitVec w => v.getLsbD i) ha
  have hB := congrArg (fun v : BitVec w => v.getLsbD i) hb
  simp only [BitVec.getLsbD_and] at hA hB
  simp only [BitVec.getLsbD_and, BitVec.getLsbD_or]
  revert hA hB
  cases a.getLsbD i <;> cases b.getLsbD i <;> cases m.getLsbD i <;> cases n.getLsbD i <;> simp

/-- A value within a mask has no bits in common with what the mask has none with. -/
theorem and_of_within {value mask other : BitVec w} (h : value &&& mask = value)
    (hMask : mask &&& other = 0) : value &&& other = 0 := by
  rw [← h, BitVec.and_assoc, hMask]
  exact BitVec.and_zero

/-- Bits that are set are seen. -/
theorem or_and_self : (word ||| value) &&& value = value := by
  apply BitVec.eq_of_getLsbD_eq
  intro i _
  rw [BitVec.getLsbD_and, BitVec.getLsbD_or]
  cases word.getLsbD i <;> cases value.getLsbD i <;> rfl

/-- Bits that are set need not be cleared before. -/
theorem merge_zero : merge 0 word value = merge value word value := by
  apply BitVec.eq_of_getLsbD_eq
  intro i hi
  simp only [merge, BitVec.getLsbD_and, BitVec.getLsbD_or, BitVec.getLsbD_not, hi]
  cases word.getLsbD i <;> cases value.getLsbD i <;> simp

theorem and_or_self : word &&& value ||| value = value := by
  apply BitVec.eq_of_getLsbD_eq
  intro i _
  rw [BitVec.getLsbD_or, BitVec.getLsbD_and]
  cases word.getLsbD i <;> cases value.getLsbD i <;> rfl

theorem and_not_and_self : word &&& ~~~mask &&& mask = 0 := by
  rw [BitVec.and_assoc, BitVec.not_and_self]
  exact BitVec.and_zero

end Merge

/-- The number of the bits that are set. -/
def hweight {w : Nat} (word : BitVec w) : Nat := (List.range w).countP word.getLsbD

/-- A field that starts at a bit and has a number of them. -/
structure Field where
  low : Nat
  width : Nat
  deriving DecidableEq, Repr

namespace Field

variable {w : Nat}

def mask (f : Field) : BitVec w := BitVec.ofNat w (2 ^ f.width - 1) <<< f.low

/-- The value of a field. -/
def get (f : Field) (word : BitVec w) : BitVec w := (word &&& f.mask) >>> f.low

/-- A value at the place of a field; what is too wide for it is cut off. -/
def prep (f : Field) (value : BitVec w) : BitVec w := (value <<< f.low) &&& f.mask

/-- A word with another value in a field. -/
def update (f : Field) (word value : BitVec w) : BitVec w := (word &&& ~~~f.mask) ||| f.prep value

def Disjoint (f g : Field) : Prop := f.low + f.width ≤ g.low ∨ g.low + g.width ≤ f.low

section Lemmas

variable {f g : Field} {word value : BitVec w} {i : Nat}

theorem getLsbD_mask :
    (f.mask : BitVec w).getLsbD i = decide (i < w ∧ f.low ≤ i ∧ i < f.low + f.width) := by
  simp only [mask, BitVec.getLsbD_shiftLeft, BitVec.getLsbD_ofNat, Nat.testBit_two_pow_sub_one]
  rw [Bool.eq_iff_iff]
  simp
  omega

theorem getLsbD_get (h : f.low + f.width ≤ w) :
    (f.get word).getLsbD i = (decide (i < f.width) && word.getLsbD (f.low + i)) := by
  rw [get, BitVec.getLsbD_ushiftRight, BitVec.getLsbD_and, getLsbD_mask]
  by_cases hi : i < f.width
  · have hWidth : f.low + i < w := by omega
    simp [hi, hWidth]
  · simp [hi]

theorem getLsbD_prep (h : f.low + f.width ≤ w) :
    (f.prep value).getLsbD i =
      (decide (f.low ≤ i ∧ i < f.low + f.width) && value.getLsbD (i - f.low)) := by
  rw [prep, BitVec.getLsbD_and, BitVec.getLsbD_shiftLeft, getLsbD_mask]
  by_cases hi : f.low ≤ i ∧ i < f.low + f.width
  · have hWidth : i < w := by omega
    have hLow : ¬ i < f.low := by omega
    simp [hi, hWidth, hLow]
  · have hOutside : ¬ (i < w ∧ f.low ≤ i ∧ i < f.low + f.width) := fun hIn => hi hIn.2
    rw [decide_eq_false hi, decide_eq_false hOutside, Bool.and_false, Bool.false_and]

/-- A field is read back as it was put, cut to its width. -/
theorem toNat_get_prep (h : f.low + f.width ≤ w) :
    (f.get (f.prep value)).toNat = value.toNat % 2 ^ f.width := by
  apply Nat.eq_of_testBit_eq
  intro i
  rw [← BitVec.getLsbD, getLsbD_get h, getLsbD_prep h, Nat.testBit_mod_two_pow]
  by_cases hi : i < f.width
  · simp [hi, BitVec.getLsbD]
  · simp [hi]

/-- At the lowest place a value is only cut to the width. -/
theorem toNat_prep_low {width : Nat} (h : width ≤ w) :
    ((⟨0, width⟩ : Field).prep value).toNat = value.toNat % 2 ^ width := by
  apply Nat.eq_of_testBit_eq
  intro i
  rw [← BitVec.getLsbD, getLsbD_prep (by simpa using h), Nat.testBit_mod_two_pow]
  simp [BitVec.getLsbD]

theorem prep_within (f : Field) (value : BitVec w) : f.prep value &&& f.mask = f.prep value := by
  rw [prep, BitVec.and_assoc, BitVec.and_self]

theorem get_or (a b : BitVec w) : f.get (a ||| b) = f.get a ||| f.get b := by
  apply BitVec.eq_of_getLsbD_eq
  intro i _
  simp only [get, BitVec.getLsbD_ushiftRight, BitVec.getLsbD_and, BitVec.getLsbD_or,
    Bool.and_or_distrib_right]

/-- Nothing of one field is seen through another. -/
theorem get_prep_of_disjoint (h : f.low + f.width ≤ w) (hg : g.low + g.width ≤ w)
    (hDisjoint : f.Disjoint g) : f.get (g.prep value) = 0 := by
  apply BitVec.eq_of_getLsbD_eq
  intro i _
  rw [getLsbD_get h, getLsbD_prep hg]
  rcases hDisjoint with hLeft | hRight
  · simp
    omega
  · simp
    omega

theorem get_update (h : f.low + f.width ≤ w) : f.get (f.update word value) = f.get (f.prep value) := by
  apply BitVec.eq_of_getLsbD_eq
  intro i _
  rw [getLsbD_get h, getLsbD_get h, update, BitVec.getLsbD_or, BitVec.getLsbD_and,
    BitVec.getLsbD_not, getLsbD_mask]
  by_cases hi : i < f.width
  · have hWidth : f.low + i < w := by omega
    simp [hi, hWidth]
  · simp [hi]

/-- Two fields that are put into a word together are both read back. -/
theorem toNat_get_merge_pair (hf : f.low + f.width ≤ w) (hg : g.low + g.width ≤ w)
    (hDisjoint : f.Disjoint g) (first second : BitVec w) :
    (f.get (merge (f.mask ||| g.mask) word (f.prep first ||| g.prep second))).toNat =
        first.toNat % 2 ^ f.width ∧
      (g.get (merge (f.mask ||| g.mask) word (f.prep first ||| g.prep second))).toNat =
        second.toNat % 2 ^ g.width := by
  have hCleared {h : Field} (hh : h.low + h.width ≤ w) (hIn : h = f ∨ h = g) :
      h.get (word &&& ~~~(f.mask ||| g.mask)) = 0 := by
    apply BitVec.eq_of_getLsbD_eq
    intro i _
    rw [getLsbD_get hh, BitVec.getLsbD_and, BitVec.getLsbD_not, BitVec.getLsbD_or]
    by_cases hi : i < h.width
    · have hMask : (h.mask : BitVec w).getLsbD (h.low + i) = true := by
        rw [getLsbD_mask]
        exact decide_eq_true ⟨by omega, by omega, by omega⟩
      rcases hIn with rfl | rfl <;> simp [hMask]
    · simp [hi]
  have hOther : g.Disjoint f := hDisjoint.symm
  simp only [merge, get_or, hCleared hf (.inl rfl), hCleared hg (.inr rfl),
    get_prep_of_disjoint hf hg hDisjoint, get_prep_of_disjoint hg hf hOther]
  constructor
  · rw [← toNat_get_prep hf]
    simp
  · rw [← toNat_get_prep hg]
    simp

end Lemmas

end Field

end Bits
