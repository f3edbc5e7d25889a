import NootedBlue.Wa.List

/-! When the folded list means what its additions mean. The fold can go wrong
in three ways: a later addition clears a bit and the fold keeps it, the fold of
additions that clear nothing overwrites its register, and a masked register
keeps a bit that a later addition takes back. -/
namespace NootedBlue.Wa

variable {list before after : List I915Wa} {wa merged old : I915Wa} {bit : Nat}

/-- Every bit that one of the additions clears, over what was cleared before. -/
def clearedFrom (mask : Word) (list : List I915Wa) : Word :=
  list.foldl (fun mask wa => mask ||| wa.clr) mask

def cleared (list : List I915Wa) : Word := clearedFrom 0 list

/-- Additions to an unmasked register that the fold gets right. One of them
clears something, or they set whatever is in the register. Where the last
addition to set a bit is followed by one that clears it, one of those that
follow and clear it clears nothing else than what was cleared before it. -/
structure KeepsPlain (list : List I915Wa) (value : Word) : Prop where
  reads : (∃ wa ∈ list, wa.clr ≠ 0) ∨
    ∀ bit, value.getLsbD bit = true → ∃ wa ∈ list, wa.set.getLsbD bit = true
  clears : ∀ bit before wa after, list = before ++ wa :: after → wa.set.getLsbD bit = true →
    (∀ later ∈ after, later.set.getLsbD bit = false) →
    (∃ later ∈ after, later.clr.getLsbD bit = true) →
    ∃ early later late, after = early ++ later :: late ∧ later.clr.getLsbD bit = true ∧
      later.clr &&& ~~~cleared (before ++ wa :: early) = 0

/-- Additions to a masked register that the fold gets right: a bit that one of
them has is set by the last one to select it. -/
def KeepsMasked (list : List I915Wa) : Prop :=
  ∀ bit before wa after, list = before ++ wa :: after → wa.set.getLsbD (16 + bit) = true →
    (∀ later ∈ after, later.set.getLsbD (16 + bit) = false) →
    (∃ other ∈ list, other.set.getLsbD bit = true) → wa.set.getLsbD bit = true

theorem exists_last {α : Type} {p : α → Prop} {list : List α} (h : ∃ a ∈ list, p a) :
    ∃ before a after, list = before ++ a :: after ∧ p a ∧ ∀ later ∈ after, ¬ p later := by
  induction list using List.reverseRecOn with
  | nil => simp at h
  | append_singleton rest last ih =>
      by_cases hLast : p last
      · exact ⟨rest, last, [], rfl, hLast, by simp⟩
      · obtain ⟨a, hMem, hp⟩ := h
        have hRest : a ∈ rest := by
          rcases List.mem_append.mp hMem with hRest | hEq
          · exact hRest
          · simp only [List.mem_singleton] at hEq
            exact absurd (hEq ▸ hp) hLast
        obtain ⟨before, b, after, rfl, hb, hAfter⟩ := ih ⟨a, hRest, hp⟩
        refine ⟨before, b, after ++ [last], by simp, hb, ?_⟩
        intro later hLater
        rcases List.mem_append.mp hLater with hIn | hEq
        · exact hAfter later hIn
        · simp only [List.mem_singleton] at hEq
          exact hEq ▸ hLast

section Masks

theorem getLsbD_clearedFrom (mask : Word) (list : List I915Wa) (bit : Nat) :
    (clearedFrom mask list).getLsbD bit = true ↔
      mask.getLsbD bit = true ∨ ∃ wa ∈ list, wa.clr.getLsbD bit = true := by
  induction list generalizing mask with
  | nil => simp [clearedFrom]
  | cons first rest ih =>
      have ih := ih (mask ||| first.clr)
      simp only [clearedFrom, List.foldl_cons] at ih ⊢
      rw [ih]
      simp [or_assoc]

theorem getLsbD_cleared : (cleared list).getLsbD bit = true ↔
    ∃ wa ∈ list, wa.clr.getLsbD bit = true := by
  simp [cleared, getLsbD_clearedFrom]

theorem clearedFrom_append (mask : Word) (first second : List I915Wa) :
    clearedFrom mask (first ++ second) = clearedFrom (clearedFrom mask first) second :=
  List.foldl_append

/-- Two words are equal when each bit of one is set just when that of the other
is. -/
theorem word_ext {a b : Word} (h : ∀ bit, a.getLsbD bit = true ↔ b.getLsbD bit = true) : a = b := by
  apply BitVec.eq_of_getLsbD_eq
  intro bit _
  exact Bool.eq_iff_iff.mpr (h bit)

theorem cleared_eq_zero (h : ∀ wa ∈ list, wa.clr = 0) : cleared list = 0 := by
  apply word_ext
  intro bit
  rw [getLsbD_cleared]
  constructor
  · rintro ⟨wa, hMem, hBit⟩
    simp [h wa hMem] at hBit
  · simp

theorem clr_eq_zero_of_mem {wa : I915Wa} (h : cleared list = 0) (hMem : wa ∈ list) :
    wa.clr = 0 := by
  apply word_ext
  intro bit
  have hBit : (cleared list).getLsbD bit = false := by simp [h]
  constructor
  · intro hClr
    rw [getLsbD_cleared.mpr ⟨wa, hMem, hClr⟩] at hBit
    cases hBit
  · simp

end Masks

section Fold

theorem merge_set_bit (old wa : I915Wa) (bit : Nat) :
    (old.merge wa).set.getLsbD bit = true ↔
      old.set.getLsbD bit = true ∧
          (wa.clr.getLsbD bit = true → wa.clr &&& ~~~old.clr ≠ 0) ∨
        wa.set.getLsbD bit = true := by
  have hWidth : old.set.getLsbD bit = true → bit < 32 := BitVec.lt_of_getLsbD
  simp only [I915Wa.merge]
  split
  · next hWithin =>
      simp only [BitVec.getLsbD_or, BitVec.getLsbD_and, BitVec.getLsbD_not, hWithin.2,
        Bool.or_eq_true, Bool.and_eq_true, Bool.not_eq_true', decide_eq_true_eq, ne_eq,
        not_true_eq_false, imp_false, Bool.not_eq_true]
      tauto
  · next hKept =>
      -- A mask that lies within nothing is empty.
      have hClr : wa.clr.getLsbD bit = true → wa.clr &&& ~~~old.clr ≠ 0 := by
        intro hBit hWithin
        have hZero : wa.clr ||| old.clr = 0 := by
          by_contra hNe
          exact hKept ⟨hNe, hWithin⟩
        have hNone := congrArg (·.getLsbD bit) hZero
        simp [hBit] at hNone
      rw [BitVec.getLsbD_or, Bool.or_eq_true, and_iff_left hClr]

theorem foldl_merge_clr (old : I915Wa) (list : List I915Wa) :
    (list.foldl I915Wa.merge old).clr = clearedFrom old.clr list := by
  induction list generalizing old with
  | nil => rfl
  | cons first rest ih =>
      simp only [List.foldl_cons, ih]
      rfl

theorem mergeAll_clr (h : mergeAll list = some merged) : merged.clr = cleared list := by
  cases list with
  | nil => cases h
  | cons first rest =>
      simp only [mergeAll, Option.some.injEq] at h
      rw [← h, foldl_merge_clr]
      simp [cleared, clearedFrom]

/-- A bit that is set and not set again stays until an addition clears it whose
mask lies within what was cleared before. -/
theorem foldl_merge_set (old : I915Wa) (hAfter : ∀ later ∈ after, later.set.getLsbD bit = false) :
    (after.foldl I915Wa.merge old).set.getLsbD bit = true ↔
      old.set.getLsbD bit = true ∧
        ∀ early later late, after = early ++ later :: late → later.clr.getLsbD bit = true →
          later.clr &&& ~~~clearedFrom old.clr early ≠ 0 := by
  induction after generalizing old with
  | nil => simp
  | cons first rest ih =>
      have hFirst := hAfter first List.mem_cons_self
      rw [List.foldl_cons, ih _ fun later h => hAfter later (List.mem_cons_of_mem _ h),
        merge_set_bit, hFirst]
      constructor
      · rintro ⟨hOld, hRest⟩
        simp only [Bool.false_eq_true, or_false] at hOld
        refine ⟨hOld.1, ?_⟩
        intro early later late hSplit
        rcases List.cons_eq_append_iff.mp hSplit with ⟨rfl, hEq⟩ | ⟨early, rfl, hEq⟩
        · cases hEq
          exact hOld.2
        · exact hRest early later late hEq
      · rintro ⟨hOld, hAll⟩
        exact ⟨.inl ⟨hOld, hAll [] first rest rfl⟩,
          fun early later late hSplit => hAll (first :: early) later late (by rw [hSplit]; rfl)⟩

theorem foldl_update_plain (value : Word) (hPlain : ∀ later ∈ after, later.maskedReg = false)
    (hAfter : ∀ later ∈ after, later.set.getLsbD bit = false) :
    (after.foldl (fun value wa => wa.update value) value).getLsbD bit = true ↔
      value.getLsbD bit = true ∧ ∀ later ∈ after, later.clr.getLsbD bit = false := by
  induction after generalizing value with
  | nil => simp
  | cons first rest ih =>
      have hWidth : value.getLsbD bit = true → bit < 32 := BitVec.lt_of_getLsbD
      rw [List.foldl_cons, ih _ (fun later h => hPlain later (List.mem_cons_of_mem _ h))
        fun later h => hAfter later (List.mem_cons_of_mem _ h)]
      simp [I915Wa.update, hPlain first List.mem_cons_self, hAfter first List.mem_cons_self]
      tauto

end Fold

section Plain

/-- An entry that reads its register replaces what it clears. -/
theorem applied_plain {value : Word} (hClr : wa.clr ≠ 0) :
    wa.applied false value = (value &&& ~~~wa.clr) ||| wa.set := by
  simp only [I915Wa.applied, hClr, ne_eq, not_false_eq_true, if_true, or_false, written,
    Bool.false_eq_true, if_false]
  split
  · rfl
  · next hSame => exact (not_not.mp hSame).symm

/-- An entry that clears nothing does not read its register. -/
theorem applied_unread {masked : Bool} {value : Word} (hClr : wa.clr = 0) :
    wa.applied masked value = written masked value wa.set := by
  simp [I915Wa.applied, hClr]

theorem mergeAll_split (bit : Nat) (before : List I915Wa) (wa : I915Wa) (after : List I915Wa) :
    ∃ middle, mergeAll (before ++ [wa]) = some middle ∧
      (wa.set.getLsbD bit = true → middle.set.getLsbD bit = true) ∧
      mergeAll (before ++ wa :: after) = some (after.foldl I915Wa.merge middle) := by
  cases before with
  | nil => exact ⟨wa, rfl, id, rfl⟩
  | cons first rest =>
      refine ⟨(rest.foldl I915Wa.merge first).merge wa, by simp [mergeAll], ?_, by simp [mergeAll]⟩
      intro hSet
      exact (merge_set_bit _ wa bit).mpr (.inr hSet)

/-- The last addition to set a bit decides, with those that follow and clear
it, whether the fold has it. -/
theorem merged_bit_of_last (hMerged : mergeAll (before ++ wa :: after) = some merged)
    (hSet : wa.set.getLsbD bit = true)
    (hAfter : ∀ later ∈ after, later.set.getLsbD bit = false) :
    merged.set.getLsbD bit = true ↔
      ∀ early later late, after = early ++ later :: late → later.clr.getLsbD bit = true →
        later.clr &&& ~~~cleared (before ++ wa :: early) ≠ 0 := by
  obtain ⟨middle, hMiddle, hBit, hFold⟩ := mergeAll_split bit before wa after
  rw [hFold, Option.some.injEq] at hMerged
  have hClr : ∀ early, clearedFrom middle.clr early = cleared (before ++ wa :: early) := by
    intro early
    rw [mergeAll_clr hMiddle, cleared, cleared, ← clearedFrom_append, List.append_assoc]
    rfl
  rw [← hMerged, foldl_merge_set middle hAfter, and_iff_right (hBit hSet)]
  simp only [hClr]

theorem merged_bit_of_none (hMerged : mergeAll list = some merged)
    (hNone : ∀ wa ∈ list, wa.set.getLsbD bit = false) : merged.set.getLsbD bit = false := by
  cases list with
  | nil => cases hMerged
  | cons first rest =>
      simp only [mergeAll, Option.some.injEq] at hMerged
      rw [← hMerged, ← Bool.not_eq_true,
        foldl_merge_set first fun later h => hNone later (List.mem_cons_of_mem _ h)]
      simp [hNone first List.mem_cons_self]

/-- The last addition to set a bit leaves it set unless a later one clears it. -/
theorem performed_bit_of_last (value : Word)
    (hPlain : ∀ other ∈ before ++ wa :: after, other.maskedReg = false)
    (hSet : wa.set.getLsbD bit = true)
    (hAfter : ∀ later ∈ after, later.set.getLsbD bit = false) :
    ((before ++ wa :: after).foldl (fun value wa => wa.update value) value).getLsbD bit = true ↔
      ∀ later ∈ after, later.clr.getLsbD bit = false := by
  rw [List.foldl_append, List.foldl_cons,
    foldl_update_plain _ (fun later h => hPlain later (by simp [h])) hAfter]
  simp [I915Wa.update, hPlain wa (by simp), hSet]

theorem merged_clr_ne_zero (hMerged : mergeAll list = some merged) (hMem : wa ∈ list)
    (hNe : wa.clr ≠ 0) : merged.clr ≠ 0 := by
  intro hZero
  rw [mergeAll_clr hMerged] at hZero
  exact hNe (clr_eq_zero_of_mem hZero hMem)

theorem clr_ne_zero_of_bit (hBit : wa.clr.getLsbD bit = true) : wa.clr ≠ 0 := by
  intro hZero
  simp [hZero] at hBit

/-- The fold and the additions agree on a bit that some addition sets. -/
theorem plain_bit_of_last (value : Word) (hMerged : mergeAll (before ++ wa :: after) = some merged)
    (hPlain : ∀ other ∈ before ++ wa :: after, other.maskedReg = false)
    (hSet : wa.set.getLsbD bit = true)
    (hAfter : ∀ later ∈ after, later.set.getLsbD bit = false)
    (h : KeepsPlain (before ++ wa :: after) value) :
    (merged.applied false value).getLsbD bit = true ↔
      ((before ++ wa :: after).foldl (fun value wa => wa.update value) value).getLsbD bit =
        true := by
  rw [performed_bit_of_last value hPlain hSet hAfter]
  by_cases hClears : ∃ later ∈ after, later.clr.getLsbD bit = true
  · have hGone : merged.set.getLsbD bit = false := by
      obtain ⟨early, later, late, hEq, hBit, hWithin⟩ :=
        h.clears bit before wa after rfl hSet hAfter hClears
      rw [← Bool.not_eq_true, merged_bit_of_last hMerged hSet hAfter]
      intro hAll
      exact hAll early later late hEq hBit hWithin
    obtain ⟨later, hMem, hLater⟩ := hClears
    have hMask : merged.clr.getLsbD bit = true := by
      rw [mergeAll_clr hMerged, getLsbD_cleared]
      exact ⟨later, by simp [hMem], hLater⟩
    have hNot : ¬ ∀ later ∈ after, later.clr.getLsbD bit = false := by
      intro hAll
      rw [hAll later hMem] at hLater
      cases hLater
    simp [applied_plain (clr_ne_zero_of_bit hMask), hGone, hMask, hNot]
  · have hKept : ∀ later ∈ after, later.clr.getLsbD bit = false := by
      intro later hMem
      rw [← Bool.not_eq_true]
      exact fun hBit => hClears ⟨later, hMem, hBit⟩
    have hMergedBit : merged.set.getLsbD bit = true := by
      rw [merged_bit_of_last hMerged hSet hAfter]
      intro early later late hEq hBit
      rw [hKept later (by simp [hEq])] at hBit
      cases hBit
    by_cases hZero : merged.clr = 0
    · simpa [applied_unread hZero, written, hMergedBit] using hKept
    · simpa [applied_plain hZero, hMergedBit] using hKept

/-- The fold and the additions agree on a bit that no addition sets, where the
fold reads the register. -/
theorem plain_bit_of_none (value : Word) (hMerged : mergeAll list = some merged)
    (hPlain : ∀ wa ∈ list, wa.maskedReg = false) (hClr : merged.clr ≠ 0)
    (hNone : ∀ wa ∈ list, wa.set.getLsbD bit = false) :
    (merged.applied false value).getLsbD bit = true ↔
      (list.foldl (fun value wa => wa.update value) value).getLsbD bit = true := by
  have hWidth : value.getLsbD bit = true → bit < 32 := BitVec.lt_of_getLsbD
  have hMask : merged.clr.getLsbD bit = false ↔ ∀ wa ∈ list, wa.clr.getLsbD bit = false := by
    rw [mergeAll_clr hMerged, ← Bool.not_eq_true, getLsbD_cleared]
    simp
  rw [foldl_update_plain value hPlain hNone, applied_plain hClr, ← hMask]
  simp only [BitVec.getLsbD_or, BitVec.getLsbD_and, BitVec.getLsbD_not,
    merged_bit_of_none hMerged hNone, Bool.or_false, Bool.and_eq_true, decide_eq_true_eq,
    Bool.not_eq_true']
  tauto

/-- A fold that does not read the register loses what it does not set. -/
theorem reads_of_eq {value : Word} (hMerged : mergeAll list = some merged)
    (hPlain : ∀ wa ∈ list, wa.maskedReg = false)
    (h : merged.applied false value = list.foldl (fun value wa => wa.update value) value) :
    (∃ wa ∈ list, wa.clr ≠ 0) ∨
      ∀ bit, value.getLsbD bit = true → ∃ wa ∈ list, wa.set.getLsbD bit = true := by
  by_contra hNot
  simp only [not_or, not_exists, not_and, not_forall, ne_eq, not_not, Bool.not_eq_true] at hNot
  obtain ⟨hClrs, bit, hValue, hUnset⟩ := hNot
  have hZero : merged.clr = 0 := (mergeAll_clr hMerged).trans (cleared_eq_zero hClrs)
  have hKept := (foldl_update_plain value hPlain hUnset).mpr
    ⟨hValue, fun wa hMem => by simp [hClrs wa hMem]⟩
  rw [← h, applied_unread hZero] at hKept
  simp only [written, Bool.false_eq_true, if_false, merged_bit_of_none hMerged hUnset] at hKept

/-- A bit that is set and then cleared is lost from the fold. -/
theorem clears_of_eq {value : Word} (hMerged : mergeAll (before ++ wa :: after) = some merged)
    (hPlain : ∀ other ∈ before ++ wa :: after, other.maskedReg = false)
    (h : merged.applied false value =
      (before ++ wa :: after).foldl (fun value wa => wa.update value) value)
    (hSet : wa.set.getLsbD bit = true) (hAfter : ∀ later ∈ after, later.set.getLsbD bit = false)
    (hClears : ∃ later ∈ after, later.clr.getLsbD bit = true) :
    ∃ early later late, after = early ++ later :: late ∧ later.clr.getLsbD bit = true ∧
      later.clr &&& ~~~cleared (before ++ wa :: early) = 0 := by
  by_contra hNot
  have hKept : merged.set.getLsbD bit = true := by
    rw [merged_bit_of_last hMerged hSet hAfter]
    intro early later late hEq hBit hWithin
    exact hNot ⟨early, later, late, hEq, hBit, hWithin⟩
  obtain ⟨later, hMem, hLater⟩ := hClears
  have hClr := merged_clr_ne_zero hMerged (by simp [hMem]) (clr_ne_zero_of_bit hLater)
  have hBit := congrArg (·.getLsbD bit) h
  simp only [applied_plain hClr, BitVec.getLsbD_or, hKept, Bool.or_true] at hBit
  have hAll := (performed_bit_of_last value hPlain hSet hAfter).mp hBit.symm
  rw [hAll later hMem] at hLater
  cases hLater

theorem applied_eq_performed_iff_plain (value : Word) (hMerged : mergeAll list = some merged)
    (hPlain : ∀ wa ∈ list, wa.maskedReg = false) :
    merged.applied false value = list.foldl (fun value wa => wa.update value) value ↔
      KeepsPlain list value := by
  constructor
  · intro h
    refine ⟨reads_of_eq hMerged hPlain h, ?_⟩
    rintro bit before wa after rfl hSet hAfter hClears
    exact clears_of_eq hMerged hPlain h hSet hAfter hClears
  · intro h
    apply word_ext
    intro bit
    by_cases hSome : ∃ wa ∈ list, wa.set.getLsbD bit = true
    · obtain ⟨before, wa, after, rfl, hSet, hAfter⟩ := exists_last hSome
      simp only [Bool.not_eq_true] at hAfter
      exact plain_bit_of_last value hMerged hPlain hSet hAfter h
    · have hNone : ∀ wa ∈ list, wa.set.getLsbD bit = false := by
        intro wa hMem
        rw [← Bool.not_eq_true]
        exact fun hBit => hSome ⟨wa, hMem, hBit⟩
      by_cases hClr : merged.clr = 0
      · have hUnread : ∀ wa ∈ list, wa.clr = 0 := by
          intro wa hMem
          exact clr_eq_zero_of_mem ((mergeAll_clr hMerged).symm.trans hClr) hMem
        have hValue : value.getLsbD bit = false := by
          rcases h.reads with ⟨wa, hMem, hNe⟩ | hAll
          · exact absurd (hUnread wa hMem) hNe
          · rw [← Bool.not_eq_true]
            exact fun hBit => hSome (hAll bit hBit)
        rw [foldl_update_plain value hPlain hNone]
        simp [applied_unread hClr, written, merged_bit_of_none hMerged hNone, hValue]
      · exact plain_bit_of_none value hMerged hPlain hClr hNone

end Plain

section Masked

/-- A masked write takes over the bits that it selects. -/
theorem written_bit (value set : Word) (bit : Nat) :
    (written true value set).getLsbD bit =
      if set.getLsbD (16 + bit) then set.getLsbD bit else value.getLsbD bit := by
  have hWidth : value.getLsbD bit = true → bit < 32 := BitVec.lt_of_getLsbD
  simp only [written, if_true, BitVec.getLsbD_or, BitVec.getLsbD_and, BitVec.getLsbD_not,
    BitVec.getLsbD_ushiftRight]
  split
  · next hSelect => simp [hSelect]
  · next hSelect =>
      cases hValue : value.getLsbD bit with
      | false => simp [hSelect]
      | true => simp [hSelect, hWidth hValue]

theorem update_masked {value : Word} (hMasked : wa.maskedReg = true) :
    wa.update value = written true value wa.set := by
  simp [I915Wa.update, written, hMasked]

theorem foldl_update_masked (value : Word) (hMasked : ∀ later ∈ after, later.maskedReg = true)
    (hAfter : ∀ later ∈ after, later.set.getLsbD (16 + bit) = false) :
    (after.foldl (fun value wa => wa.update value) value).getLsbD bit = value.getLsbD bit := by
  induction after generalizing value with
  | nil => rfl
  | cons first rest ih =>
      rw [List.foldl_cons, ih _ (fun later h => hMasked later (List.mem_cons_of_mem _ h))
        fun later h => hAfter later (List.mem_cons_of_mem _ h),
        update_masked (hMasked first List.mem_cons_self), written_bit,
        hAfter first List.mem_cons_self]
      simp

/-- Where nothing is cleared the fold has every bit that one of the additions
has. -/
theorem merged_bit_of_unread (hMerged : mergeAll list = some merged)
    (hClr : ∀ wa ∈ list, wa.clr = 0) :
    merged.set.getLsbD bit = true ↔ ∃ wa ∈ list, wa.set.getLsbD bit = true := by
  constructor
  · intro hBit
    by_contra hNot
    have hNone : ∀ wa ∈ list, wa.set.getLsbD bit = false := by
      intro wa hMem
      rw [← Bool.not_eq_true]
      exact fun hSet => hNot ⟨wa, hMem, hSet⟩
    rw [merged_bit_of_none hMerged hNone] at hBit
    cases hBit
  · intro hSome
    obtain ⟨before, wa, after, rfl, hSet, hAfter⟩ := exists_last hSome
    simp only [Bool.not_eq_true] at hAfter
    rw [merged_bit_of_last hMerged hSet hAfter]
    intro early later late hEq hBit
    rw [hClr later (by simp [hEq])] at hBit
    simp at hBit

theorem performed_bit_of_selected (value : Word)
    (hMasked : ∀ other ∈ before ++ wa :: after, other.maskedReg = true)
    (hSelect : wa.set.getLsbD (16 + bit) = true)
    (hAfter : ∀ later ∈ after, later.set.getLsbD (16 + bit) = false) :
    ((before ++ wa :: after).foldl (fun value wa => wa.update value) value).getLsbD bit =
      wa.set.getLsbD bit := by
  rw [List.foldl_append, List.foldl_cons,
    foldl_update_masked _ (fun later h => hMasked later (by simp [h])) hAfter,
    update_masked (hMasked wa (by simp)), written_bit, hSelect]
  rfl

theorem applied_eq_performed_iff_masked (value : Word) (hMerged : mergeAll list = some merged)
    (hMasked : ∀ wa ∈ list, wa.maskedReg = true) (hClr : ∀ wa ∈ list, wa.clr = 0) :
    merged.applied true value = list.foldl (fun value wa => wa.update value) value ↔
      KeepsMasked list := by
  have hZero : merged.clr = 0 := (mergeAll_clr hMerged).trans (cleared_eq_zero hClr)
  have hHas : ∀ bit, merged.set.getLsbD bit = true ↔ ∃ wa ∈ list, wa.set.getLsbD bit = true :=
    fun bit => merged_bit_of_unread hMerged hClr
  rw [applied_unread hZero]
  constructor
  · rintro h bit before wa after rfl hSelect hAfter hSome
    have hBit := congrArg (·.getLsbD bit) h
    rw [performed_bit_of_selected value hMasked hSelect hAfter, written_bit,
      (hHas (16 + bit)).mpr ⟨wa, by simp, hSelect⟩, (hHas bit).mpr hSome] at hBit
    exact hBit.symm
  · intro h
    apply word_ext
    intro bit
    rw [written_bit]
    by_cases hSome : ∃ wa ∈ list, wa.set.getLsbD (16 + bit) = true
    · rw [if_pos ((hHas (16 + bit)).mpr hSome), hHas]
      obtain ⟨before, wa, after, rfl, hSelect, hAfter⟩ := exists_last hSome
      simp only [Bool.not_eq_true] at hAfter
      rw [performed_bit_of_selected value hMasked hSelect hAfter]
      constructor
      · exact h bit before wa after rfl hSelect hAfter
      · intro hSet
        exact ⟨wa, by simp, hSet⟩
    · rw [if_neg fun hBit => hSome ((hHas (16 + bit)).mp hBit),
        foldl_update_masked value hMasked fun wa hMem => by
          rw [← Bool.not_eq_true]
          exact fun hBit => hSome ⟨wa, hMem, hBit⟩]

end Masked

/-- Additions that use each register either as a masked one or not. -/
def Consistent (masked : Nat → Bool) (additions : List Addition) : Prop :=
  ∀ addition ∈ additions, addition.wa.maskedReg = masked addition.wa.reg

/-- The fold gets the additions to every register right. -/
def Keeps (masked : Nat → Bool) (additions : List Addition) (regs : Registers) : Prop :=
  ∀ reg, own reg (additions.map Addition.wa) ≠ [] →
    if masked reg then KeepsMasked (own reg (additions.map Addition.wa))
    else KeepsPlain (own reg (additions.map Addition.wa)) (regs reg)

theorem Addition.clr_of_masked (addition : Addition) (h : addition.wa.maskedReg = true) :
    addition.wa.clr = 0 := by
  cases addition <;> first | rfl | cases h

theorem mem_own {reg : Nat} {entries : List I915Wa} :
    wa ∈ own reg entries ↔ wa ∈ entries ∧ wa.reg = reg := by
  simp [own]

/-- Applying the list does what the additions say, one after the other, just
when the fold gets the additions to every register right. -/
theorem apply_eq_perform_iff (masked : Nat → Bool) (additions : List Addition) (regs : Registers)
    (hConsistent : Consistent masked additions) :
    waListApply masked (addAll (additions.map Addition.wa)).list regs =
        performAll (additions.map Addition.wa) regs ↔
      Keeps masked additions regs := by
  rw [apply_eq_perform_iff_registers]
  apply forall_congr'
  intro reg
  have hKind : ∀ wa ∈ own reg (additions.map Addition.wa), wa.maskedReg = masked reg := by
    intro wa hMem
    obtain ⟨hIn, rfl⟩ := mem_own.mp hMem
    obtain ⟨addition, hAddition, rfl⟩ := List.mem_map.mp hIn
    exact hConsistent addition hAddition
  have hClr : masked reg = true → ∀ wa ∈ own reg (additions.map Addition.wa), wa.clr = 0 := by
    intro hMasked wa hMem
    obtain ⟨addition, -, rfl⟩ := List.mem_map.mp (mem_own.mp hMem).1
    exact addition.clr_of_masked ((hKind _ hMem).trans hMasked)
  cases hOwn : own reg (additions.map Addition.wa) with
  | nil => simp [mergeAll]
  | cons first rest =>
      rw [hOwn] at hKind hClr
      have hMerged : mergeAll (first :: rest) = some (rest.foldl I915Wa.merge first) := rfl
      simp only [hMerged, Option.some.injEq, forall_eq', ne_eq, reduceCtorEq, not_false_eq_true,
        true_implies]
      cases hMasked : masked reg with
      | true =>
          rw [hMasked] at hKind
          simpa using applied_eq_performed_iff_masked (regs reg) hMerged hKind (hClr hMasked)
      | false =>
          rw [hMasked] at hKind
          simpa using applied_eq_performed_iff_plain (regs reg) hMerged hKind

/-- A bit of a register is set and then cleared, by a mask that was set before. -/
theorem keeps_set_then_clear :
    Consistent (fun _ => false) [.writeOr false 0x2000 3, .writeClr false 0x2000 1] ∧
      Keeps (fun _ => false) [.writeOr false 0x2000 3, .writeClr false 0x2000 1] (fun _ => 0) := by
  have hConsistent :
      Consistent (fun _ => false) [.writeOr false 0x2000 3, .writeClr false 0x2000 1] := by
    simp [Consistent, Addition.wa, waWriteOr, waWriteClr, waWriteClrSet, waAdd]
  refine ⟨hConsistent, (apply_eq_perform_iff _ _ _ hConsistent).mp ?_⟩
  have hList : (addAll [waWriteOr false 0x2000 3, waWriteClr false 0x2000 1]).list =
      [⟨0x2000, 3, 2, 3, false, false⟩] := by decide
  simp only [List.map_cons, List.map_nil, Addition.wa, hList]
  funext reg
  by_cases hReg : reg = 0x2000
  · subst hReg
    decide
  · simp [waListApply, performAll, waWriteOr, waWriteClr, waWriteClrSet, waAdd, hReg]

/-- The clear mask goes beyond what was cleared before, and the bit stays. -/
theorem cleared_bit_survives :
    Consistent (fun _ => false) [.writeOr false 0x2000 1, .writeClr false 0x2000 3] ∧
      waListApply (fun _ => false)
        (addAll [waWriteOr false 0x2000 1, waWriteClr false 0x2000 3]).list (fun _ => 0) 0x2000 = 1 ∧
      performAll [waWriteOr false 0x2000 1, waWriteClr false 0x2000 3] (fun _ => 0) 0x2000 = 0 := by
  refine ⟨?_, by decide, by decide⟩
  simp [Consistent, Addition.wa, waWriteOr, waWriteClr, waWriteClrSet, waAdd]

end NootedBlue.Wa
