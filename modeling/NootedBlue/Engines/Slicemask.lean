import NootedBlue.Ads.Masks
import NootedBlue.Semantics.Loop

/-! The compute engines that the fuses leave. The mask of the slices is scanned
group by group, and the engines of the groups without a bit are turned off. What
is scanned is not the bitmap but its address, and the loop over the clear bits
takes each bit it finds for one that is counted from zero. -/
namespace NootedBlue.Engines

open Interaction Bits Ads

/-- A bitmap of subslices, `intel_sseu_ss_mask_t`, that is passed by value: where the
copy lies, and the word `xehp` in it. -/
structure SsMask where
  address : BitVec 64
  xehp : BitVec 64

/-- The variables of the loop of `intel_slicemask_from_xehp_dssmask`. -/
structure SliceScan where
  bits : BitVec 64
  i : Nat
  sliceMask : BitVec 16

def perSliceMask (dssPerSlice : Nat) : BitVec 64 :=
  if dssPerSlice ≥ 64 then ~~~0 else ((1 : BitVec 64) <<< dssPerSlice) - 1

/-- One round of the loop. The language gives no meaning to a shift of an `int` by 32
or more, nor to one of a long word by 64 or more. -/
def sliceRound (dssPerSlice : Nat) (s : SliceScan) : Iteration SliceScan (Option (BitVec 16)) :=
  if s.bits = 0 then .stop (some s.sliceMask)
  else
    let found := s.bits &&& perSliceMask dssPerSlice ≠ 0
    if found ∧ 32 ≤ s.i then .stop none
    else if 64 ≤ dssPerSlice then .stop none
    else .next {
      bits := s.bits >>> dssPerSlice
      i := s.i + 1
      sliceMask :=
        if found then s.sliceMask ||| (BitVec.twoPow 32 s.i).setWidth 16 else s.sliceMask }

/-- `intel_slicemask_from_xehp_dssmask`. The array decays to its address. No result
means that the fuel ran out, and an inner one that the code has no meaning. -/
def intelSlicemaskFromXehpDssmask (fuel : Nat) (dssMask : SsMask) (dssPerSlice : Nat) :
    Option (Option (BitVec 16)) :=
  iterate (sliceRound dssPerSlice) fuel ⟨dssMask.address, 0, 0⟩

/-- The place of the lowest bit that is set. -/
def lowestOne (val : BitVec 64) : Option Nat := (List.range 64).find? val.getLsbD

/-- `find_next_zero_bit`. The place in the shifted word is taken for the place in the
word. -/
def findNextZeroBit (addr : Nat → BitVec 64) (size offset : Nat) : Nat :=
  if offset ≥ size then size
  else
    let wordOffset := offset / 64
    match lowestOne (~~~(addr wordOffset >>> (offset % 64))) with
    | some bit => min (wordOffset * 64 + bit) size
    | none =>
        let maxWords := (size + 63) / 64
        let later := (List.range maxWords).drop (wordOffset + 1)
        (later.findSome? fun i => (lowestOne (~~~addr i)).map fun bit => min (i * 64 + bit) size).getD
          size

/-- One round of `for_each_clear_bit`, over the engines that are left. -/
def clearRound (sliceMask : BitVec 16) (s : Nat × BitVec 32) :
    Iteration (Nat × BitVec 32) (BitVec 32) :=
  if s.1 < i915MaxCcs then
    .next (findNextZeroBit (fun _ => sliceMask.setWidth 64) i915MaxCcs (s.1 + 1),
      clearBit s.2 (ccs0 + s.1))
  else .stop s.2

def clearLoop (fuel : Nat) (sliceMask : BitVec 16) (engineMask : BitVec 32) : Option (BitVec 32) :=
  iterate (clearRound sliceMask) fuel
    (findNextZeroBit (fun _ => sliceMask.setWidth 64) i915MaxCcs 0, engineMask)

/-- `engine_mask_apply_compute_fuses`, with the results of its loops. -/
def engineMaskApplyComputeFuses (fuel graphicsVer : Nat) (maxSubslices : BitVec 8)
    (computeSubsliceMask : SsMask) (engineMask : BitVec 32) : Option (Option (BitVec 32)) :=
  let ssPerCcs := maxSubslices.toNat / i915MaxCcs
  if graphicsVer < 11 then some (some engineMask)
  else if hweight (ccsMask engineMask) ≤ 1 then some (some engineMask)
  else match intelSlicemaskFromXehpDssmask fuel computeSubsliceMask ssPerCcs with
    | none => none
    | some none => some none
    | some (some ccsMask0) => (clearLoop fuel ccsMask0 engineMask).map some

/-- A bitmap has a bit in a group. -/
def HasDss (bits : BitVec 64) (dssPerSlice i : Nat) : Prop :=
  ∃ j < (i + 1) * dssPerSlice, i * dssPerSlice ≤ j ∧ bits.getLsbD j = true

instance (bits : BitVec 64) (dssPerSlice i : Nat) : Decidable (HasDss bits dssPerSlice i) :=
  inferInstanceAs (Decidable (∃ j < (i + 1) * dssPerSlice, _))

section Scan

variable {bits : BitVec 64} {dssPerSlice i : Nat}

theorem getLsbD_perSliceMask (h : dssPerSlice < 64) (j : Nat) :
    (perSliceMask dssPerSlice).getLsbD j = decide (j < dssPerSlice) := by
  have hPow : 2 ^ dssPerSlice < 2 ^ 64 := Nat.pow_lt_pow_right (by decide) h
  have hNat : (perSliceMask dssPerSlice).toNat = 2 ^ dssPerSlice - 1 := by
    have hPos : 0 < 2 ^ dssPerSlice := Nat.two_pow_pos _
    rw [perSliceMask, if_neg (Nat.not_le.mpr h), BitVec.toNat_sub, BitVec.toNat_shiftLeft]
    have hOne : (1 : BitVec 64).toNat = 1 := rfl
    rw [hOne, Nat.shiftLeft_eq, Nat.one_mul]
    omega
  rw [BitVec.getLsbD, hNat, Nat.testBit_two_pow_sub_one]

/-- What the mask of a group leaves of a word. -/
theorem and_perSliceMask_ne_zero_iff (h : dssPerSlice < 64) :
    bits &&& perSliceMask dssPerSlice ≠ 0 ↔ HasDss bits dssPerSlice 0 := by
  constructor
  · intro hFound
    by_contra hNone
    apply hFound
    apply BitVec.eq_of_getLsbD_eq
    intro j _
    rw [BitVec.getLsbD_and, getLsbD_perSliceMask h, BitVec.ofNat_eq_ofNat, BitVec.getLsbD_zero]
    by_contra hBit
    simp only [Bool.not_eq_false, Bool.and_eq_true, decide_eq_true_eq] at hBit
    exact hNone ⟨j, by simpa using hBit.2, by simp, hBit.1⟩
  · rintro ⟨j, hj, -, hBit⟩ hZero
    have hAnd := congrArg (fun word => word.getLsbD j) hZero
    simp only [BitVec.getLsbD_and, getLsbD_perSliceMask h, BitVec.ofNat_eq_ofNat,
      BitVec.getLsbD_zero, hBit, Bool.true_and] at hAnd
    rw [decide_eq_false_iff_not] at hAnd
    omega

/-- The groups behind the first one are those of the shifted word. -/
theorem hasDss_ushiftRight_iff (k : Nat) :
    HasDss (bits >>> dssPerSlice) dssPerSlice k ↔ HasDss bits dssPerSlice (k + 1) := by
  have hNext : (k + 1 + 1) * dssPerSlice = (k + 1) * dssPerSlice + dssPerSlice := Nat.succ_mul _ _
  have hThis : (k + 1) * dssPerSlice = k * dssPerSlice + dssPerSlice := Nat.succ_mul _ _
  constructor
  · rintro ⟨j, hj, hLow, hBit⟩
    rw [BitVec.getLsbD_ushiftRight] at hBit
    exact ⟨dssPerSlice + j, by omega, by omega, hBit⟩
  · rintro ⟨j, hj, hLow, hBit⟩
    refine ⟨j - dssPerSlice, by omega, by omega, ?_⟩
    rw [BitVec.getLsbD_ushiftRight, Nat.add_sub_of_le (by omega), hBit]

theorem not_hasDss_zero (k : Nat) : ¬ HasDss 0 dssPerSlice k := by
  rintro ⟨j, -, -, hBit⟩
  simp at hBit

/-- A round over a word with bits. -/
theorem sliceRound_of_ne_zero (h : dssPerSlice < 64) {s : SliceScan} (hBits : s.bits ≠ 0) :
    sliceRound dssPerSlice s =
      if HasDss s.bits dssPerSlice 0 ∧ 32 ≤ s.i then .stop none
      else .next {
        bits := s.bits >>> dssPerSlice
        i := s.i + 1
        sliceMask :=
          if HasDss s.bits dssPerSlice 0 then s.sliceMask ||| (BitVec.twoPow 32 s.i).setWidth 16
          else s.sliceMask } := by
  rw [sliceRound, if_neg hBits]
  simp only [and_perSliceMask_ne_zero_iff h]
  split
  · rfl
  · rw [if_neg (Nat.not_le.mpr h)]

/-- What a scan comes to: it has no meaning if a group is counted that an `int` has no
bit for, and otherwise the bits of the groups are added to the mask. -/
inductive Scanned (dssPerSlice fuel : Nat) (s : SliceScan) : Prop where
  | undefined {k : Nat} (run : iterate (sliceRound dssPerSlice) fuel s = some none)
      (group : HasDss s.bits dssPerSlice k) (large : 32 ≤ s.i + k)
  | mask (mask : BitVec 16) (run : iterate (sliceRound dssPerSlice) fuel s = some (some mask))
      (small : ∀ k, HasDss s.bits dssPerSlice k → s.i + k < 32)
      (bits : ∀ i < 16, mask.getLsbD i = true ↔
        s.sliceMask.getLsbD i = true ∨ ∃ k, i = s.i + k ∧ HasDss s.bits dssPerSlice k)

theorem scanned_of_zero (fuel : Nat) {s : SliceScan} (hZero : s.bits = 0) :
    Scanned dssPerSlice (fuel + 1) s := by
  have hNone : ∀ k, ¬ HasDss s.bits dssPerSlice k := by
    rw [hZero]
    exact not_hasDss_zero
  refine .mask s.sliceMask ?_ (fun k hGroup => absurd hGroup (hNone k)) fun i _ => ?_
  · rw [iterate, sliceRound, if_pos hZero]
  · refine (or_iff_left ?_).symm
    rintro ⟨k, -, hGroup⟩
    exact hNone k hGroup

/-- The bits of the groups that are left, with the one of a round. -/
theorem groups_succ_iff {start i : Nat} :
    (∃ k, i = start + k ∧ HasDss bits dssPerSlice k) ↔
      (i = start ∧ HasDss bits dssPerSlice 0) ∨
        ∃ k, i = start + 1 + k ∧ HasDss (bits >>> dssPerSlice) dssPerSlice k := by
  constructor
  · rintro ⟨k, hi, hGroup⟩
    cases k with
    | zero => exact .inl ⟨hi, hGroup⟩
    | succ k => exact .inr ⟨k, by omega, (hasDss_ushiftRight_iff k).mpr hGroup⟩
  · rintro (⟨hi, hGroup⟩ | ⟨k, hi, hGroup⟩)
    · exact ⟨0, hi, hGroup⟩
    · exact ⟨k + 1, by omega, (hasDss_ushiftRight_iff k).mp hGroup⟩

theorem getLsbD_add_iff {sliceMask : BitVec 16} {start i : Nat} {found : Prop} [Decidable found]
    (hi : i < 16) (hSmall : found → start < 32) :
    (if found then sliceMask ||| (BitVec.twoPow 32 start).setWidth 16 else sliceMask).getLsbD i = true ↔
      sliceMask.getLsbD i = true ∨ i = start ∧ found := by
  by_cases hFound : found
  · rw [if_pos hFound, and_iff_left hFound, BitVec.getLsbD_or, Bool.or_eq_true,
      BitVec.getLsbD_setWidth, BitVec.getLsbD_twoPow, decide_eq_true hi,
      decide_eq_true (hSmall hFound), Bool.true_and, Bool.true_and, decide_eq_true_eq]
    exact or_congr_right eq_comm
  · rw [if_neg hFound]
    exact (or_iff_left fun h => hFound h.2).symm

/-- A round that goes on leaves the rest of the scan. -/
theorem Scanned.round {fuel : Nat} {s : SliceScan} (hLt : dssPerSlice < 64) (hBits : s.bits ≠ 0)
    (hSmall : HasDss s.bits dssPerSlice 0 → s.i < 32)
    (rest : Scanned dssPerSlice fuel {
      bits := s.bits >>> dssPerSlice
      i := s.i + 1
      sliceMask :=
        if HasDss s.bits dssPerSlice 0 then s.sliceMask ||| (BitVec.twoPow 32 s.i).setWidth 16
        else s.sliceMask }) :
    Scanned dssPerSlice (fuel + 1) s := by
  have hStep := sliceRound_of_ne_zero hLt hBits
  rw [if_neg fun h => absurd h.2 (Nat.not_le.mpr (hSmall h.1))] at hStep
  cases rest with
  | undefined run group large =>
      refine .undefined ?_ ((hasDss_ushiftRight_iff _).mp group) ?_
      · rw [iterate, hStep]
        exact run
      · simp only at large
        omega
  | mask mask run small bits =>
      refine .mask mask ?_ ?_ ?_
      · rw [iterate, hStep]
        exact run
      · intro k hGroup
        cases k with
        | zero => exact hSmall hGroup
        | succ k =>
            have hLater := small k ((hasDss_ushiftRight_iff k).mpr hGroup)
            simp only at hLater
            omega
      · intro i hi
        refine (bits i hi).trans (Iff.trans ?_ (or_congr_right groups_succ_iff.symm))
        rw [← or_assoc]
        refine or_congr_left ?_
        exact getLsbD_add_iff hi hSmall

/-- The scan of a word that has no bits behind some groups. -/
theorem scanned (hLt : dssPerSlice < 64) (n : Nat) {s : SliceScan}
    (hRest : ∀ j, n * dssPerSlice ≤ j → s.bits.getLsbD j = false) :
    Scanned dssPerSlice (n + 1) s := by
  induction n generalizing s with
  | zero =>
      refine scanned_of_zero 0 (BitVec.eq_of_getLsbD_eq fun j _ => ?_)
      rw [hRest j (by simp), BitVec.ofNat_eq_ofNat, BitVec.getLsbD_zero]
  | succ n ih =>
      by_cases hZero : s.bits = 0
      · exact scanned_of_zero (n + 1) hZero
      · by_cases hUndefined : HasDss s.bits dssPerSlice 0 ∧ 32 ≤ s.i
        · have hStep := sliceRound_of_ne_zero hLt hZero
          rw [if_pos hUndefined] at hStep
          refine .undefined ?_ hUndefined.1 hUndefined.2
          rw [iterate, hStep]
        · refine .round hLt hZero (fun hGroup => ?_) (ih fun j hj => ?_)
          · exact Nat.not_le.mp fun hLarge => hUndefined ⟨hGroup, hLarge⟩
          · rw [BitVec.getLsbD_ushiftRight]
            refine hRest _ ?_
            rw [Nat.succ_mul]
            omega

/-- Without a width the same bits are looked at again and again. -/
theorem scan_of_no_width (hBits : bits ≠ 0) (fuel i : Nat) (sliceMask : BitVec 16) :
    iterate (sliceRound 0) fuel ⟨bits, i, sliceMask⟩ = none := by
  have hNone : ¬ HasDss bits 0 0 := fun ⟨j, hj, _⟩ => absurd hj (by simp)
  have hRound : ∀ s : SliceScan, s.bits = bits →
      ∃ t, sliceRound 0 s = .next t ∧ t.bits = bits := by
    intro s hSame
    have hStep := sliceRound_of_ne_zero (by decide : 0 < 64) (s := s) (hSame ▸ hBits)
    rw [hSame, if_neg fun h => hNone h.1] at hStep
    exact ⟨_, hStep, by simp⟩
  exact iterate_of_endless hRound rfl fuel

/-- The loop ends with a mask just when there is nothing to be scanned, or there is a
width and the groups are those that an `int` has a bit for. -/
theorem slicemask_iff {dssMask : SsMask} (hLt : dssPerSlice < 64) (content : BitVec 64) :
    (∃ mask, (∃ fuel, intelSlicemaskFromXehpDssmask fuel dssMask dssPerSlice = some (some mask)) ∧
        ∀ i < 16, mask.getLsbD i = true ↔ HasDss content dssPerSlice i) ↔
      (dssMask.address = 0 ∨
          0 < dssPerSlice ∧ ∀ j, 32 * dssPerSlice ≤ j → dssMask.address.getLsbD j = false) ∧
        ∀ i < 16, HasDss dssMask.address dssPerSlice i ↔ HasDss content dssPerSlice i := by
  by_cases hZero : dssMask.address = 0
  · have hEnd : intelSlicemaskFromXehpDssmask 1 dssMask dssPerSlice = some (some 0) := by
      rw [intelSlicemaskFromXehpDssmask, iterate, sliceRound, if_pos hZero]
    rw [and_iff_right (Or.inl hZero), hZero]
    constructor
    · rintro ⟨mask, ⟨fuel, hRun⟩, hBits⟩ i hi
      obtain rfl := Option.some.inj (iterate_unique hRun hEnd)
      rw [← hBits i hi]
      exact iff_of_false (not_hasDss_zero i) (by simp)
    · intro hGroups
      refine ⟨0, ⟨1, hEnd⟩, fun i hi => ?_⟩
      rw [← hGroups i hi]
      exact iff_of_false (by simp) (not_hasDss_zero i)
  · rw [or_iff_right hZero]
    rcases Nat.eq_zero_or_pos dssPerSlice with rfl | hPos
    · refine iff_of_false ?_ fun h => absurd h.1.1 (Nat.lt_irrefl 0)
      rintro ⟨mask, ⟨fuel, hRun⟩, -⟩
      rw [intelSlicemaskFromXehpDssmask, scan_of_no_width hZero] at hRun
      cases hRun
    · rw [and_iff_right hPos]
      have hAll : ∀ j, 64 * dssPerSlice ≤ j → dssMask.address.getLsbD j = false :=
        fun j hj => BitVec.getLsbD_of_ge _ _ (Nat.le_trans (Nat.le_mul_of_pos_right 64 hPos) hj)
      cases scanned hLt 64 (s := ⟨dssMask.address, 0, 0⟩) hAll with
      | @undefined k run group large =>
          refine iff_of_false ?_ ?_
          · rintro ⟨mask, ⟨fuel, hRun⟩, -⟩
            cases iterate_unique run hRun
          · rintro ⟨hNone, -⟩
            obtain ⟨j, -, hLow, hBit⟩ := group
            have hLarge : 32 * dssPerSlice ≤ k * dssPerSlice :=
              Nat.mul_le_mul_right _ (by simpa using large)
            rw [hNone j (by omega)] at hBit
            cases hBit
      | mask mask run small bits =>
          have hBits : ∀ i < 16, mask.getLsbD i = true ↔ HasDss dssMask.address dssPerSlice i := by
            intro i hi
            rw [bits i hi]
            simp
          have hNone : ∀ j, 32 * dssPerSlice ≤ j → dssMask.address.getLsbD j = false := by
            intro j hj
            by_contra hBit
            have hDiv : j / dssPerSlice * dssPerSlice ≤ j := Nat.div_mul_le_self j dssPerSlice
            have hNext : j < (j / dssPerSlice + 1) * dssPerSlice := by
              rw [Nat.succ_mul]
              exact Nat.lt_div_mul_add hPos
            have hGroup : HasDss dssMask.address dssPerSlice (j / dssPerSlice) :=
              ⟨j, hNext, hDiv, by simpa using hBit⟩
            have hSmall := small _ hGroup
            have hLarge := (Nat.le_div_iff_mul_le hPos).mpr hj
            simp only [Nat.zero_add] at hSmall
            omega
          rw [and_iff_right hNone]
          constructor
          · rintro ⟨other, ⟨fuel, hRun⟩, hOther⟩ i hi
            obtain rfl := Option.some.inj (iterate_unique run hRun)
            rw [← hBits i hi, hOther i hi]
          · intro hGroups
            refine ⟨mask, ⟨65, run⟩, fun i hi => ?_⟩
            rw [hBits i hi, hGroups i hi]

end Scan

section Clear

variable {sliceMask : BitVec 16} {engineMask : BitVec 32}

/-- What `find_next_zero_bit` finds in a word: the number of bits that are set from the
offset on. -/
structure ZeroBit (word : BitVec 64) (size offset r : Nat) : Prop where
  le : r ≤ size
  set : ∀ k < r, word.getLsbD (offset + k) = true
  clear : r < size → word.getLsbD (offset + r) = false

theorem findNextZeroBit_spec (addr : Nat → BitVec 64) {size offset : Nat} (hSize : size ≤ 64)
    (hOffset : offset < size) :
    ZeroBit (addr 0) size offset (findNextZeroBit addr size offset) := by
  have hBit : ∀ k < 64, (~~~(addr 0 >>> offset)).getLsbD k = !(addr 0).getLsbD (offset + k) := by
    intro k hk
    rw [BitVec.getLsbD_not, BitVec.getLsbD_ushiftRight, decide_eq_true hk, Bool.true_and]
  have hWord : offset / 64 = 0 := Nat.div_eq_of_lt (by omega)
  have hPlace : offset % 64 = offset := Nat.mod_eq_of_lt (by omega)
  rw [findNextZeroBit, if_neg (Nat.not_le.mpr hOffset)]
  simp only [hWord, hPlace, Nat.zero_mul, Nat.zero_add]
  cases hLowest : lowestOne (~~~(addr 0 >>> offset)) with
  | none =>
      have hWords : (List.range ((size + 63) / 64)).drop 1 = [] := by
        rw [List.drop_eq_nil_iff, List.length_range]
        omega
      have hAll : ∀ k < 64, (addr 0).getLsbD (offset + k) = true := by
        intro k hk
        have hNone := List.find?_eq_none.mp hLowest k (List.mem_range.mpr hk)
        rw [hBit k hk] at hNone
        simpa using hNone
      simp only [hWords, List.findSome?_nil, Option.getD_none]
      exact {
        le := Nat.le_refl size
        set := fun k hk => hAll k (by omega)
        clear := fun hLt => absurd hLt (Nat.lt_irrefl size) }
  | some bit =>
      obtain ⟨hClear, hIn, hBefore⟩ := List.find?_range_eq_some.mp hLowest
      have hIn := List.mem_range.mp hIn
      rw [hBit bit hIn] at hClear
      show ZeroBit (addr 0) size offset (min bit size)
      exact {
        le := Nat.min_le_right bit size
        set := by
          intro k hk
          have hLt : k < bit := Nat.lt_of_lt_of_le hk (Nat.min_le_left bit size)
          have hSet := hBefore k hLt
          rw [hBit k (by omega)] at hSet
          simpa using hSet
        clear := by
          intro hLt
          rw [Nat.min_eq_left (by omega)]
          simpa using hClear }

/-- The same for the mask of the slices, whose upper bits are clear. -/
structure NextClear (sliceMask : BitVec 16) (offset r : Nat) : Prop where
  le : r ≤ 4
  set : ∀ k < r, sliceMask.getLsbD (offset + k) = true
  clear : r < 4 → sliceMask.getLsbD (offset + r) = false

theorem nextClear {offset : Nat} (hOffset : offset < 4) :
    NextClear sliceMask offset
      (findNextZeroBit (fun _ => sliceMask.setWidth 64) i915MaxCcs offset) := by
  have hSpec : ZeroBit (sliceMask.setWidth 64) i915MaxCcs offset
      (findNextZeroBit (fun _ => sliceMask.setWidth 64) i915MaxCcs offset) :=
    findNextZeroBit_spec (fun _ => sliceMask.setWidth 64) (by decide) hOffset
  generalize findNextZeroBit (fun _ => sliceMask.setWidth 64) i915MaxCcs offset = r at hSpec
  have hLe : r ≤ 4 := hSpec.le
  have hBit : ∀ k ≤ 4, (sliceMask.setWidth 64).getLsbD (offset + k) =
      sliceMask.getLsbD (offset + k) := by
    intro k hk
    have hIn : offset + k < 64 := by omega
    rw [BitVec.getLsbD_setWidth, decide_eq_true hIn, Bool.true_and]
  exact {
    le := hLe
    set := fun k hk => (hBit k (by omega)).symm.trans (hSpec.set k hk)
    clear := fun hLt => (hBit r hLe).symm.trans (hSpec.clear hLt) }

theorem findNextZeroBit_end (addr : Nat → BitVec 64) (size : Nat) :
    findNextZeroBit addr size size = size := if_pos (Nat.le_refl size)

/-- The engines that a mask of slices lets be used are those that are left. -/
def ClearsUnset (sliceMask : BitVec 16) (engineMask out : BitVec 32) : Prop :=
  (∀ i < i915MaxCcs, hasEngine out (ccs0 + i) = (hasEngine engineMask (ccs0 + i) &&
      sliceMask.getLsbD i)) ∧
    ∀ id, id < ccs0 ∨ gsc0 ≤ id → hasEngine out id = hasEngine engineMask id

/-- The loop clears right when the first clear bit, if it is one of the first three, is
followed by three bits that are set, and by a fourth if the last engine is there. -/
def ClearsRight (hasSlice : Nat → Prop) (engineMask : BitVec 32) : Prop :=
  ∀ i < 3, (∀ j < i, hasSlice j) → ¬ hasSlice i →
    (∀ k, i < k → k ≤ i + 3 → hasSlice k) ∧
      (hasSlice (i + 4) ∨ hasEngine engineMask (ccs0 + 3) = false)

/-- A round with a bit left goes to the next one that is found. -/
theorem clearRound_next {i : Nat} (hi : i < 4) (mask : BitVec 32) :
    clearRound sliceMask (i, mask) =
      .next (findNextZeroBit (fun _ => sliceMask.setWidth 64) i915MaxCcs (i + 1),
        clearBit mask (ccs0 + i)) := if_pos hi

theorem clearRound_stop (mask : BitVec 32) : clearRound sliceMask (4, mask) = .stop mask :=
  if_neg (Nat.lt_irrefl 4)

theorem iterate_clear_stop (fuel : Nat) (mask : BitVec 32) :
    iterate (clearRound sliceMask) (fuel + 1) (4, mask) = some mask := by
  rw [iterate, clearRound_stop]

/-- With a second clear bit close behind the first one the loop goes round and round. -/
theorem clear_endless {first second i : Nat} (hFirst : sliceMask.getLsbD first = false)
    (hSecond : sliceMask.getLsbD second = false) (hLt : first < second) (hNear : second ≤ first + 3)
    (hLow : first < 3) (hi : i < 3) (hBefore : i < second) (fuel : Nat) (mask : BitVec 32) :
    iterate (clearRound sliceMask) fuel (i, mask) = none := by
  have hRound : ∀ s : Nat × BitVec 32, s.1 < 3 ∧ s.1 < second →
      ∃ t, clearRound sliceMask s = .next t ∧ t.1 < 3 ∧ t.1 < second := by
    rintro ⟨i, mask⟩ ⟨hi, hBefore⟩
    have hIn : i + 1 < 4 := Nat.succ_lt_succ hi
    refine ⟨_, clearRound_next (Nat.lt_of_succ_lt hIn) mask, ?_⟩
    have hNext : NextClear sliceMask (i + 1) _ := nextClear hIn
    generalize findNextZeroBit (fun _ => sliceMask.setWidth 64) i915MaxCcs (i + 1) = r at hNext
    simp only at hi hBefore ⊢
    have hStops : ∀ bit, sliceMask.getLsbD bit = false → i < bit → r ≤ bit - (i + 1) := by
      intro bit hClear hBehind
      by_contra hLarge
      have hSet := hNext.set (bit - (i + 1)) (by omega)
      rw [Nat.add_sub_of_le (by omega), hClear] at hSet
      cases hSet
    by_cases hBeforeFirst : i < first
    · have := hStops first hFirst hBeforeFirst
      omega
    · have := hStops second hSecond hBefore
      omega
  exact iterate_of_endless hRound ⟨hi, hBefore⟩ fuel

/-- The last bit is behind all others, and the loop ends. -/
theorem iterate_clear_last (fuel : Nat) (mask : BitVec 32) :
    iterate (clearRound sliceMask) (fuel + 2) (3, mask) = some (clearBit mask (ccs0 + 3)) := by
  have hEnd : findNextZeroBit (fun _ => sliceMask.setWidth 64) i915MaxCcs (3 + 1) = 4 :=
    findNextZeroBit_end _ _
  rw [iterate, clearRound_next (by decide), hEnd]
  exact iterate_clear_stop fuel _

theorem clearsUnset_self (hSet : ∀ j < 4, sliceMask.getLsbD j = true) :
    ClearsUnset sliceMask engineMask engineMask := by
  refine ⟨fun i hi => ?_, fun _ _ => rfl⟩
  rw [hSet i hi, Bool.and_true]

/-- With one clear bit, one engine is turned off. -/
theorem clearsUnset_clearBit {first : Nat} (hFirst : first < 4)
    (hClear : sliceMask.getLsbD first = false)
    (hOthers : ∀ j < 4, j ≠ first → sliceMask.getLsbD j = true) :
    ClearsUnset sliceMask engineMask (clearBit engineMask (ccs0 + first)) := by
  refine ⟨fun i hi => ?_, fun id hId => ?_⟩
  · rw [hasEngine, getLsbD_clearBit, hasEngine]
    by_cases hSame : i = first
    · rw [hSame, hClear, Bool.and_false]
      simp
    · have hNe : ccs0 + first ≠ ccs0 + i := by omega
      rw [hOthers i hi hSame, decide_eq_true hNe]
  · have hNe : ccs0 + first ≠ id := by
      simp only [ccs0, gsc0] at hId ⊢
      omega
    rw [hasEngine, getLsbD_clearBit, decide_eq_true hNe, Bool.and_true, hasEngine]

section First

variable {hasSlice : Nat → Prop} {first : Nat}

theorem clearsRight_of_set (hBefore : ∀ j < 3, hasSlice j) : ClearsRight hasSlice engineMask :=
  fun i hi _ hClear => absurd (hBefore i hi) hClear

/-- Only the first clear bit counts. -/
theorem clearsRight_iff (hLow : first < 3) (hBefore : ∀ j < first, hasSlice j)
    (hClear : ¬ hasSlice first) :
    ClearsRight hasSlice engineMask ↔
      (∀ k, first < k → k ≤ first + 3 → hasSlice k) ∧
        (hasSlice (first + 4) ∨ hasEngine engineMask (ccs0 + 3) = false) := by
  constructor
  · exact fun h => h first hLow hBefore hClear
  · intro h i _ hSet hUnset
    have hLe : i ≤ first := Nat.not_lt.mp fun hLt => hClear (hSet first hLt)
    have hGe : first ≤ i := Nat.not_lt.mp fun hLt => hUnset (hBefore i hLt)
    rw [Nat.le_antisymm hLe hGe]
    exact h

end First

/-- Turning off the last engine as well is right just when it is not there. -/
theorem clearsUnset_clearLast_iff {first : Nat} (hFirst : first < 3)
    (hClear : sliceMask.getLsbD first = false)
    (hOthers : ∀ j < 4, j ≠ first → sliceMask.getLsbD j = true) :
    ClearsUnset sliceMask engineMask (clearBit (clearBit engineMask (ccs0 + first)) (ccs0 + 3)) ↔
      hasEngine engineMask (ccs0 + 3) = false := by
  constructor
  · intro h
    have hLast := h.1 3 (by decide)
    rw [hOthers 3 (by decide) (by omega), Bool.and_true, hasEngine, getLsbD_clearBit] at hLast
    rw [← hLast]
    simp
  · intro hAbsent
    have hSame : clearBit (clearBit engineMask (ccs0 + first)) (ccs0 + 3) =
        clearBit engineMask (ccs0 + first) := by
      apply BitVec.eq_of_getLsbD_eq
      intro id _
      rw [getLsbD_clearBit]
      by_cases hLast : ccs0 + 3 = id
      · rw [← hLast, getLsbD_clearBit]
        rw [hasEngine] at hAbsent
        rw [hAbsent, Bool.false_and, Bool.false_and]
      · rw [decide_eq_true hLast, Bool.and_true]
    rw [hSame]
    exact clearsUnset_clearBit (by omega) hClear hOthers

/-- The loop ends with the engines of the slices just when it clears right. -/
theorem clearLoop_iff :
    (∃ out, (∃ fuel, clearLoop fuel sliceMask engineMask = some out) ∧
        ClearsUnset sliceMask engineMask out) ↔
      ClearsRight (fun i => sliceMask.getLsbD i = true) engineMask := by
  have hStart : NextClear sliceMask 0 _ := nextClear (by decide)
  simp only [clearLoop]
  generalize findNextZeroBit (fun _ => sliceMask.setWidth 64) i915MaxCcs 0 = first at hStart
  have hBefore : ∀ j < first, sliceMask.getLsbD j = true := by
    intro j hj
    rw [← Nat.zero_add j]
    exact hStart.set j hj
  have hLe := hStart.le
  by_cases hLow : first < 3
  · have hClear : sliceMask.getLsbD first = false := by
      rw [← Nat.zero_add first]
      exact hStart.clear (by omega)
    rw [clearsRight_iff hLow hBefore (by simp [hClear])]
    have hNext : NextClear sliceMask (first + 1) _ := nextClear (by omega)
    have hRound : clearRound sliceMask (first, engineMask) = _ := clearRound_next (by omega) engineMask
    generalize findNextZeroBit (fun _ => sliceMask.setWidth 64) i915MaxCcs (first + 1) = second
      at hNext hRound
    have hBehind : ∀ k, first < k → k < first + 1 + second → sliceMask.getLsbD k = true := by
      intro k hLarge hSmall
      have hSet := hNext.set (k - (first + 1)) (by omega)
      rwa [Nat.add_sub_of_le (by omega)] at hSet
    have hSecondLe := hNext.le
    by_cases hNear : second < 3
    · have hSecond := hNext.clear (by omega)
      refine iff_of_false ?_ fun h => ?_
      · rintro ⟨out, ⟨fuel, hRun⟩, -⟩
        rw [clear_endless hClear hSecond (by omega) (by omega) hLow hLow (by omega)] at hRun
        cases hRun
      · have hSet := h.1 (first + 1 + second) (by omega) (by omega)
        rw [hSecond] at hSet
        cases hSet
    · have hOthers : ∀ j < 4, j ≠ first → sliceMask.getLsbD j = true := by
        intro j hj hNe
        by_cases hj' : j < first
        · exact hBefore j hj'
        · exact hBehind j (by omega) (by omega)
      have hThree : ∀ k, first < k → k ≤ first + 3 → sliceMask.getLsbD k = true :=
        fun k hLarge hSmall => hBehind k hLarge (by omega)
      rw [and_iff_right hThree]
      by_cases hFour : second = 4
      · have hSet := hBehind (first + 4) (by omega) (by omega)
        refine iff_of_true ⟨clearBit engineMask (ccs0 + first), ⟨2, ?_⟩, ?_⟩ (.inl hSet)
        · rw [iterate, hRound, hFour]
          exact iterate_clear_stop 0 _
        · exact clearsUnset_clearBit (by omega) hClear hOthers
      · obtain rfl : second = 3 := by omega
        have hUnset : ¬ sliceMask.getLsbD (first + 4) = true := by
          have hFourth := hNext.clear (by decide)
          rw [Nat.add_assoc] at hFourth
          simp [hFourth]
        have hRun : iterate (clearRound sliceMask) 3 (first, engineMask) =
            some (clearBit (clearBit engineMask (ccs0 + first)) (ccs0 + 3)) := by
          rw [iterate, hRound]
          exact iterate_clear_last 0 _
        rw [or_iff_right hUnset, ← clearsUnset_clearLast_iff hLow hClear hOthers]
        constructor
        · rintro ⟨out, ⟨fuel, hOther⟩, hOut⟩
          obtain rfl := iterate_unique hOther hRun
          exact hOut
        · exact fun hOut => ⟨_, ⟨3, hRun⟩, hOut⟩
  · refine iff_of_true ?_ (clearsRight_of_set fun j hj => hBefore j (by omega))
    by_cases hAll : first = 4
    · rw [hAll]
      exact ⟨engineMask, ⟨1, iterate_clear_stop 0 _⟩,
        clearsUnset_self fun j hj => hBefore j (by omega)⟩
    · obtain rfl : first = 3 := by omega
      have hClear : sliceMask.getLsbD 3 = false := hStart.clear (by decide)
      exact ⟨_, ⟨2, iterate_clear_last 0 _⟩,
        clearsUnset_clearBit (by decide) hClear fun j hj hNe => hBefore j (by omega)⟩

end Clear

section Fuses

variable (graphicsVer : Nat) (maxSubslices : BitVec 8) (dssMask : SsMask) (engineMask : BitVec 32)

/-- The width that `engine_mask_apply_compute_fuses` passes. -/
def ssPerCcs : Nat := maxSubslices.toNat / i915MaxCcs

/-- The fuses are applied to devices with more than one compute engine. -/
def AppliesComputeFuses : Prop := 11 ≤ graphicsVer ∧ 1 < hweight (ccsMask engineMask)

/-- The mask of the slices has a bit for every group with a DSS, and the compute
engines that are left are those that were there and whose group has one. Other devices
keep all their engines. -/
structure ComputeFused : Prop where
  slicemask : ∃ mask,
    (∃ fuel, intelSlicemaskFromXehpDssmask fuel dssMask (ssPerCcs maxSubslices) = some (some mask)) ∧
      ∀ i < 16, mask.getLsbD i = true ↔ HasDss dssMask.xehp (ssPerCcs maxSubslices) i
  engines : AppliesComputeFuses graphicsVer engineMask → ∃ out,
    (∃ fuel, engineMaskApplyComputeFuses fuel graphicsVer maxSubslices dssMask engineMask =
        some (some out)) ∧
      (∀ i < i915MaxCcs, hasEngine out (ccs0 + i) = (hasEngine engineMask (ccs0 + i) &&
        decide (HasDss dssMask.xehp (ssPerCcs maxSubslices) i))) ∧
      ∀ id, id < ccs0 ∨ gsc0 ≤ id → hasEngine out id = hasEngine engineMask id
  untouched : ¬ AppliesComputeFuses graphicsVer engineMask → ∀ fuel,
    engineMaskApplyComputeFuses fuel graphicsVer maxSubslices dssMask engineMask =
      some (some engineMask)

/-- The condition for it: the address has bits in the same groups as the bitmap, in no
group from 32 on, and in none if there is no width; and the first clear bit is
followed by set ones. -/
structure ComputeFusable : Prop where
  width : dssMask.address = 0 ∨ 0 < ssPerCcs maxSubslices ∧
    ∀ j, 32 * ssPerCcs maxSubslices ≤ j → dssMask.address.getLsbD j = false
  groups : ∀ i < 16, HasDss dssMask.address (ssPerCcs maxSubslices) i ↔
    HasDss dssMask.xehp (ssPerCcs maxSubslices) i
  clears : AppliesComputeFuses graphicsVer engineMask →
    ClearsRight (HasDss dssMask.xehp (ssPerCcs maxSubslices)) engineMask

variable {graphicsVer maxSubslices dssMask engineMask}

theorem ssPerCcs_lt : ssPerCcs maxSubslices < 64 := by
  have hByte := maxSubslices.isLt
  simp only [ssPerCcs, i915MaxCcs]
  omega

/-- An old device, or one with no more than one compute engine. -/
theorem applyComputeFuses_of_not_applies (h : ¬ AppliesComputeFuses graphicsVer engineMask)
    (fuel : Nat) :
    engineMaskApplyComputeFuses fuel graphicsVer maxSubslices dssMask engineMask =
      some (some engineMask) := by
  rw [engineMaskApplyComputeFuses]
  split
  · rfl
  · next hVer =>
      rw [if_pos]
      exact Nat.not_lt.mp fun hMany => h ⟨Nat.not_lt.mp hVer, hMany⟩

theorem clearsRight_congr {hasSlice other : Nat → Prop} (h : ∀ i < 16, hasSlice i ↔ other i) :
    ClearsRight hasSlice engineMask ↔ ClearsRight other engineMask := by
  have hOne : ∀ {one another : Nat → Prop}, (∀ i < 16, one i ↔ another i) →
      ClearsRight one engineMask → ClearsRight another engineMask := by
    intro one another hSame hRight i hi hBefore hClear
    obtain ⟨hSet, hLast⟩ := hRight i hi (fun j hj => (hSame j (by omega)).mpr (hBefore j hj))
      fun hHas => hClear ((hSame i (by omega)).mp hHas)
    refine ⟨fun k hLow hHigh => (hSame k (by omega)).mp (hSet k hLow hHigh), ?_⟩
    exact hLast.imp_left (hSame (i + 4) (by omega)).mp
  exact ⟨hOne h, hOne fun i hi => (h i hi).symm⟩

/-- With the mask of the slices, the fuses are applied by the loop over it. -/
theorem applyComputeFuses_eq_some_iff (hApplies : AppliesComputeFuses graphicsVer engineMask)
    {mask : BitVec 16} {out : BitVec 32}
    (hMask : ∃ fuel, intelSlicemaskFromXehpDssmask fuel dssMask (ssPerCcs maxSubslices) =
      some (some mask)) :
    (∃ fuel, engineMaskApplyComputeFuses fuel graphicsVer maxSubslices dssMask engineMask =
        some (some out)) ↔ ∃ fuel, clearLoop fuel mask engineMask = some out := by
  obtain ⟨scanFuel, hScan⟩ := hMask
  have hBody : ∀ fuel, engineMaskApplyComputeFuses fuel graphicsVer maxSubslices dssMask engineMask =
      match intelSlicemaskFromXehpDssmask fuel dssMask (ssPerCcs maxSubslices) with
      | none => none
      | some none => some none
      | some (some ccsMask0) => (clearLoop fuel ccsMask0 engineMask).map some := by
    intro fuel
    rw [engineMaskApplyComputeFuses, if_neg (Nat.not_lt.mpr hApplies.1),
      if_neg (Nat.not_le.mpr hApplies.2)]
    rfl
  constructor
  · rintro ⟨fuel, hRun⟩
    rw [hBody] at hRun
    cases hResult : intelSlicemaskFromXehpDssmask fuel dssMask (ssPerCcs maxSubslices) with
    | none =>
        rw [hResult] at hRun
        cases hRun
    | some result =>
        obtain rfl := iterate_unique hScan hResult
        rw [hResult] at hRun
        obtain ⟨found, hFound, hSame⟩ := Option.map_eq_some_iff.mp hRun
        cases hSame
        exact ⟨fuel, hFound⟩
  · rintro ⟨fuel, hRun⟩
    refine ⟨max scanFuel fuel, ?_⟩
    have hScanned : intelSlicemaskFromXehpDssmask (max scanFuel fuel) dssMask
        (ssPerCcs maxSubslices) = some (some mask) := iterate_mono (Nat.le_max_left _ _) hScan
    have hCleared : clearLoop (max scanFuel fuel) mask engineMask = some out :=
      iterate_mono (Nat.le_max_right _ _) hRun
    rw [hBody, hScanned]
    simp only [hCleared, Option.map_some]

end Fuses

/-- The compute engines are fused as their groups say just when the address of the
bitmap stands for its content and the loop over the clear bits finds them. -/
theorem compute_fused_iff (graphicsVer : Nat) (maxSubslices : BitVec 8) (dssMask : SsMask)
    (engineMask : BitVec 32) :
    ComputeFused graphicsVer maxSubslices dssMask engineMask ↔
      ComputeFusable graphicsVer maxSubslices dssMask engineMask := by
  have hScan := @slicemask_iff (ssPerCcs maxSubslices) dssMask ssPerCcs_lt dssMask.xehp
  have hClears : ∀ mask : BitVec 16,
      (∃ fuel, intelSlicemaskFromXehpDssmask fuel dssMask (ssPerCcs maxSubslices) =
        some (some mask)) →
      (∀ i < 16, mask.getLsbD i = true ↔ HasDss dssMask.xehp (ssPerCcs maxSubslices) i) →
      AppliesComputeFuses graphicsVer engineMask →
      ((∃ out, (∃ fuel, engineMaskApplyComputeFuses fuel graphicsVer maxSubslices dssMask engineMask =
            some (some out)) ∧
          (∀ i < i915MaxCcs, hasEngine out (ccs0 + i) = (hasEngine engineMask (ccs0 + i) &&
            decide (HasDss dssMask.xehp (ssPerCcs maxSubslices) i))) ∧
          ∀ id, id < ccs0 ∨ gsc0 ≤ id → hasEngine out id = hasEngine engineMask id) ↔
        ClearsRight (HasDss dssMask.xehp (ssPerCcs maxSubslices)) engineMask) := by
    intro mask hMask hBits hApplies
    rw [← clearsRight_congr hBits, ← clearLoop_iff]
    refine exists_congr fun out => ?_
    rw [applyComputeFuses_eq_some_iff hApplies hMask, ClearsUnset]
    refine and_congr_right fun _ => and_congr_left fun _ => ?_
    refine forall₂_congr fun i hi => ?_
    have hBit : mask.getLsbD i = decide (HasDss dssMask.xehp (ssPerCcs maxSubslices) i) := by
      have hIn : i < 4 := hi
      rw [Bool.eq_iff_iff, decide_eq_true_eq]
      exact hBits i (by omega)
    rw [hBit]
  constructor
  · intro h
    obtain ⟨hWidth, hGroups⟩ := hScan.mp h.slicemask
    obtain ⟨mask, hMask, hBits⟩ := h.slicemask
    exact {
      width := hWidth
      groups := hGroups
      clears := fun hApplies => (hClears mask hMask hBits hApplies).mp (h.engines hApplies) }
  · intro h
    have hSlicemask := hScan.mpr ⟨h.width, h.groups⟩
    obtain ⟨mask, hMask, hBits⟩ := hSlicemask
    exact {
      slicemask := ⟨mask, hMask, hBits⟩
      engines := fun hApplies => (hClears mask hMask hBits hApplies).mpr (h.clears hApplies)
      untouched := applyComputeFuses_of_not_applies }

/-- All six subslices, in a word on a stack of the kernel. -/
def sixSubslices : SsMask := ⟨0xffffff8012345670, 0x3f⟩

/-- The mask of the slices has no meaning there: the address has bits in groups that
an `int` has no bit for. -/
theorem six_subslices_not_fused : ¬ ComputeFused 12 6 sixSubslices (BitVec.ofNat 32 (0xf <<< ccs0)) := by
  intro h
  have hGroups := (slicemask_iff ssPerCcs_lt sixSubslices.xehp).mp h.slicemask
  exact absurd hGroups.2 (by decide)

end NootedBlue.Engines
