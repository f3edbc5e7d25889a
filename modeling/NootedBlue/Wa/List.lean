import Mathlib.Algebra.Group.Nat.Defs
import Mathlib.Data.List.Induction
import Mathlib.Logic.Function.Basic
import NootedBlue.Semantics.Keyed

/-! The list of workarounds. It has one entry for a register, in the order of
the registers, and an addition to a register that has an entry is folded into
it. Applying the list goes once over the entries. -/
namespace NootedBlue.Wa

abbrev Word := BitVec 32

/-- `struct i915_wa`. -/
structure I915Wa where
  reg : Nat
  clr : Word
  set : Word
  read : Word
  maskedReg : Bool
  isMcr : Bool
  deriving DecidableEq, Repr

/-- `struct i915_wa_list`: the entries in use, the number of entries that there
is room for, and the number of additions. -/
structure I915WaList where
  list : List I915Wa
  capacity : Nat
  waCount : Nat

def I915WaList.empty : I915WaList := ⟨[], 0, 0⟩

/-- `WA_LIST_CHUNK`. -/
def waListChunk : Nat := 16

/-- The first part of `_wa_add`: a list whose length is a multiple of the chunk
is moved to a larger one. The number of entries is not cut to 32 bits here; in the
source the list has no room any more for an entry behind 2^32 - 16 of them. -/
def I915WaList.grow (wal : I915WaList) : I915WaList :=
  if wal.list.length % waListChunk = 0 then
    { wal with
      capacity := (wal.list.length + 1 + (waListChunk - 1)) / waListChunk * waListChunk }
  else wal

/-- What `_wa_add` does with the entry of a register that has one already. Bits
that the new one clears are taken out of the old value only where the new mask
lies within the old one. -/
def I915Wa.merge (old wa : I915Wa) : I915Wa :=
  { old with
    set :=
      (if wa.clr ||| old.clr ≠ 0 ∧ wa.clr &&& ~~~old.clr = 0 then old.set &&& ~~~wa.clr
        else old.set) ||| wa.set
    clr := old.clr ||| wa.clr
    read := old.read ||| wa.read }

/-- `_wa_add`. -/
def I915WaList.add (wal : I915WaList) (wa : I915Wa) : I915WaList :=
  let wal := wal.grow
  match Keyed.search I915Wa.reg wal.list wa.reg with
  | some mid =>
      { wal with
        list := wal.list.modify mid (·.merge wa)
        waCount := wal.waCount + 1 }
  | none =>
      { wal with
        list := Keyed.insertLast I915Wa.reg wal.list wa
        waCount := wal.waCount + 1 }

/-- The entry that `wa_add` or `wa_mcr_add` passes on. -/
def waAdd (isMcr : Bool) (reg : Nat) (clear set readMask : Word) (maskedReg : Bool) : I915Wa where
  reg
  clr := clear
  set
  read := readMask
  maskedReg
  isMcr

/-- `REG_MASKED_FIELD_ENABLE`, `REG_MASKED_FIELD_DISABLE` and
`REG_MASKED_FIELD`. -/
def regMaskedFieldEnable (mask : Word) : Word := mask <<< 16 ||| mask
def regMaskedFieldDisable (mask : Word) : Word := mask <<< 16
def regMaskedField (mask value : Word) : Word := mask <<< 16 ||| (value &&& 0xFFFF)

/-- `wa_write_clr_set` and `wa_mcr_write_clr_set`. -/
def waWriteClrSet (isMcr : Bool) (reg : Nat) (clear set : Word) : I915Wa :=
  waAdd isMcr reg clear set (clear ||| set) false

/-- `wa_write`. -/
def waWrite (reg : Nat) (set : Word) : I915Wa := waWriteClrSet false reg (~~~0) set

/-- `wa_write_or` and `wa_mcr_write_or`. -/
def waWriteOr (isMcr : Bool) (reg : Nat) (set : Word) : I915Wa := waWriteClrSet isMcr reg set set

/-- `wa_write_clr` and `wa_mcr_write_clr`. -/
def waWriteClr (isMcr : Bool) (reg : Nat) (clr : Word) : I915Wa := waWriteClrSet isMcr reg clr 0

/-- `wa_masked_en` and `wa_mcr_masked_en`. -/
def waMaskedEn (isMcr : Bool) (reg : Nat) (val : Word) : I915Wa :=
  waAdd isMcr reg 0 (regMaskedFieldEnable val) val true

/-- `wa_masked_dis` and `wa_mcr_masked_dis`. -/
def waMaskedDis (isMcr : Bool) (reg : Nat) (val : Word) : I915Wa :=
  waAdd isMcr reg 0 (regMaskedFieldDisable val) val true

/-- `wa_masked_field_set` and `wa_mcr_masked_field_set`. -/
def waMaskedFieldSet (isMcr : Bool) (reg : Nat) (mask val : Word) : I915Wa :=
  waAdd isMcr reg 0 (regMaskedField mask val) mask true

/-- A call of one of the functions that add a workaround. -/
inductive Addition where
  | write (reg : Nat) (set : Word)
  | writeOr (isMcr : Bool) (reg : Nat) (set : Word)
  | writeClr (isMcr : Bool) (reg : Nat) (clr : Word)
  | writeClrSet (isMcr : Bool) (reg : Nat) (clear set : Word)
  | maskedEn (isMcr : Bool) (reg : Nat) (val : Word)
  | maskedDis (isMcr : Bool) (reg : Nat) (val : Word)
  | maskedFieldSet (isMcr : Bool) (reg : Nat) (mask val : Word)

def Addition.wa : Addition → I915Wa
  | write reg set => waWrite reg set
  | writeOr isMcr reg set => waWriteOr isMcr reg set
  | writeClr isMcr reg clr => waWriteClr isMcr reg clr
  | writeClrSet isMcr reg clear set => waWriteClrSet isMcr reg clear set
  | maskedEn isMcr reg val => waMaskedEn isMcr reg val
  | maskedDis isMcr reg val => waMaskedDis isMcr reg val
  | maskedFieldSet isMcr reg mask val => waMaskedFieldSet isMcr reg mask val

/-- The list after some entries were added to an empty one. -/
def addAll (entries : List I915Wa) : I915WaList := entries.foldl I915WaList.add .empty

abbrev Registers := Nat → Word

/-- What a write leaves in a register: a masked one takes over the lower bits
that the upper half of the value selects. -/
def written (masked : Bool) (old value : Word) : Word :=
  if masked then (old &&& ~~~(value >>> 16)) ||| (value &&& value >>> 16) else value

/-- What `wa_list_apply` leaves in the register of an entry. It reads the
register only when there is something to clear. -/
def I915Wa.applied (masked : Bool) (wa : I915Wa) (old : Word) : Word :=
  let seen := if wa.clr ≠ 0 then old else 0
  let val := (seen &&& ~~~wa.clr) ||| wa.set
  if val ≠ seen ∨ wa.clr = 0 then written masked old val else old

/-- `wa_list_apply`, on registers some of which are masked. -/
def waListApply (masked : Nat → Bool) (list : List I915Wa) (regs : Registers) : Registers :=
  list.foldl (fun regs wa => Function.update regs wa.reg (wa.applied (masked wa.reg) (regs wa.reg)))
    regs

/-- What an addition means for its register. -/
def I915Wa.update (wa : I915Wa) (old : Word) : Word :=
  if wa.maskedReg then (old &&& ~~~(wa.set >>> 16)) ||| (wa.set &&& wa.set >>> 16)
  else (old &&& ~~~wa.clr) ||| wa.set

/-- The additions one at a time, in their order. -/
def performAll (entries : List I915Wa) (regs : Registers) : Registers :=
  entries.foldl (fun regs wa => Function.update regs wa.reg (wa.update (regs wa.reg))) regs

/-- The additions to one register. -/
def own (reg : Nat) (entries : List I915Wa) : List I915Wa := entries.filter (·.reg = reg)

/-- The entry that additions to one register are folded into. -/
def mergeAll : List I915Wa → Option I915Wa
  | [] => none
  | first :: rest => some (rest.foldl I915Wa.merge first)

section Representation

variable {entries : List I915Wa}

@[simp] theorem I915Wa.merge_reg (old wa : I915Wa) : (old.merge wa).reg = old.reg := rfl

theorem own_append (reg : Nat) (wa : I915Wa) :
    own reg (entries ++ [wa]) = own reg entries ++ if wa.reg = reg then [wa] else [] := by
  simp only [own, List.filter_append, List.filter_cons, List.filter_nil, decide_eq_true_eq]

theorem mergeAll_append (list : List I915Wa) (wa : I915Wa) :
    mergeAll (list ++ [wa]) =
      match mergeAll list with
      | none => some wa
      | some old => some (old.merge wa) := by
  cases list with
  | nil => rfl
  | cons first rest => simp [mergeAll, List.foldl_append]

theorem mergeAll_reg {reg : Nat} {wa : I915Wa} (h : mergeAll (own reg entries) = some wa) :
    wa.reg = reg := by
  induction entries using List.reverseRecOn generalizing wa with
  | nil => cases h
  | append_singleton entries last ih =>
      rw [own_append] at h
      split at h
      · next hReg =>
          rw [mergeAll_append] at h
          cases hOld : mergeAll (own reg entries) with
          | none =>
              rw [hOld] at h
              cases h
              exact hReg
          | some old =>
              rw [hOld] at h
              cases h
              exact (show old.reg = reg from ih hOld)
      · rw [List.append_nil] at h
        exact ih h

/-- The list is in order and has, for every register, what the additions to it
are folded into. -/
structure Represents (entries list : List I915Wa) : Prop where
  increasing : Keyed.Increasing I915Wa.reg list
  mem_iff : ∀ wa, wa ∈ list ↔ mergeAll (own wa.reg entries) = some wa

@[simp] theorem I915WaList.grow_list (wal : I915WaList) : wal.grow.list = wal.list := by
  simp only [I915WaList.grow]
  split <;> rfl

/-- An addition to a register that has no entry gets one. -/
theorem Represents.insert {list : List I915Wa} {wa : I915Wa} (h : Represents entries list)
    (hFresh : ∀ old ∈ list, old.reg ≠ wa.reg) :
    Represents (entries ++ [wa]) (Keyed.insertLast I915Wa.reg list wa) where
  increasing := Keyed.increasing_insertLast h.increasing hFresh
  mem_iff := by
    have hNone : mergeAll (own wa.reg entries) = none := by
      cases hOld : mergeAll (own wa.reg entries) with
      | none => rfl
      | some old =>
          have hReg := mergeAll_reg hOld
          exact absurd hReg (hFresh old ((h.mem_iff old).mpr (by rw [hReg]; exact hOld)))
    intro other
    rw [Keyed.mem_insertLast, h.mem_iff, own_append]
    by_cases hReg : wa.reg = other.reg
    · rw [if_pos hReg, mergeAll_append, ← hReg, hNone]
      simp [eq_comm]
    · rw [if_neg hReg, List.append_nil]
      constructor
      · rintro (rfl | hOld)
        · exact absurd rfl hReg
        · exact hOld
      · exact .inr

/-- An addition to a register that has an entry is folded into it. -/
theorem Represents.modify {list : List I915Wa} {wa old : I915Wa} {mid : Nat}
    (h : Represents entries list) (hMid : list[mid]? = some old) (hReg : old.reg = wa.reg) :
    Represents (entries ++ [wa]) (list.modify mid (·.merge wa)) where
  increasing := Keyed.increasing_modify (fun old => old.merge_reg wa) mid h.increasing
  mem_iff := by
    have hOld : mergeAll (own old.reg entries) = some old :=
      (h.mem_iff old).mp (List.mem_of_getElem? hMid)
    intro other
    rw [Keyed.mem_modify h.increasing hMid, h.mem_iff, own_append]
    by_cases hSame : wa.reg = other.reg
    · rw [if_pos hSame, mergeAll_append, ← hSame, ← hReg, hOld]
      simp [eq_comm]
    · rw [if_neg hSame, List.append_nil]
      constructor
      · rintro (rfl | hOther)
        · exact absurd hReg.symm hSame
        · exact hOther.1
      · intro hOther
        exact .inr ⟨hOther, fun hEq => hSame (hReg.symm.trans hEq.symm)⟩

theorem Represents.add {wal : I915WaList} (h : Represents entries wal.list) (wa : I915Wa) :
    Represents (entries ++ [wa]) (wal.add wa).list := by
  simp only [I915WaList.add, I915WaList.grow_list]
  split
  · next mid hFound =>
      obtain ⟨old, hMid, hReg⟩ := Keyed.search_found hFound
      exact h.modify hMid hReg
  · next hMissing => exact h.insert (Keyed.search_missing h.increasing hMissing)

theorem represents_addAll (entries : List I915Wa) : Represents entries (addAll entries).list := by
  induction entries using List.reverseRecOn with
  | nil =>
      exact {
        increasing := List.Pairwise.nil
        mem_iff := by simp [addAll, I915WaList.empty, own, mergeAll] }
  | append_singleton entries wa ih =>
      rw [addAll, List.foldl_append]
      exact ih.add wa

end Representation

section Registers

variable (masked : Nat → Bool) (regs : Registers)

/-- Each register gets what its own entry says. -/
theorem waListApply_apply {list : List I915Wa} (h : Keyed.Increasing I915Wa.reg list) (reg : Nat) :
    (∀ wa ∈ list, wa.reg ≠ reg) ∧ waListApply masked list regs reg = regs reg ∨
      ∃ wa ∈ list, wa.reg = reg ∧
        waListApply masked list regs reg = wa.applied (masked reg) (regs reg) := by
  induction list generalizing regs with
  | nil => simp [waListApply]
  | cons first rest ih =>
      obtain ⟨hHead, hTail⟩ := List.pairwise_cons.mp h
      simp only [waListApply, List.foldl_cons] at ih ⊢
      have ih := ih (Function.update regs first.reg
        (first.applied (masked first.reg) (regs first.reg))) hTail
      by_cases hReg : first.reg = reg
      · subst hReg
        have hRest : ∀ wa ∈ rest, wa.reg ≠ first.reg := fun wa hwa => Nat.ne_of_gt (hHead wa hwa)
        rcases ih with hNone | ⟨wa, hwa, hEq, -⟩
        · exact .inr ⟨first, List.mem_cons_self, rfl, by simpa using hNone.2⟩
        · exact absurd hEq (hRest wa hwa)
      · rcases ih with hNone | hSome
        · refine .inl ⟨?_, ?_⟩
          · simpa [hReg] using hNone.1
          · simpa [Function.update_of_ne (Ne.symm hReg)] using hNone.2
        · obtain ⟨wa, hwa, hEq, hValue⟩ := hSome
          refine .inr ⟨wa, List.mem_cons_of_mem _ hwa, hEq, ?_⟩
          simpa [Function.update_of_ne (Ne.symm hReg)] using hValue

/-- A register changes by the additions to it, in their order. -/
theorem performAll_apply (entries : List I915Wa) (reg : Nat) :
    performAll entries regs reg =
      (own reg entries).foldl (fun value wa => wa.update value) (regs reg) := by
  induction entries generalizing regs with
  | nil => rfl
  | cons first rest ih =>
      simp only [performAll, List.foldl_cons] at ih ⊢
      rw [ih]
      by_cases hReg : first.reg = reg
      · subst hReg
        simp [own]
      · simp [own, hReg, Function.update_of_ne (Ne.symm hReg)]

/-- A list means the same as its additions when each of its entries does. -/
theorem apply_eq_perform_iff_registers (entries : List I915Wa) :
    waListApply masked (addAll entries).list regs = performAll entries regs ↔
      ∀ reg wa, mergeAll (own reg entries) = some wa →
        wa.applied (masked reg) (regs reg) =
          (own reg entries).foldl (fun value wa => wa.update value) (regs reg) := by
  have hList := represents_addAll entries
  constructor
  · intro h reg wa hMerged
    have hReg := mergeAll_reg hMerged
    have hMem : wa ∈ (addAll entries).list := (hList.mem_iff wa).mpr (by rw [hReg]; exact hMerged)
    rw [← performAll_apply, ← h]
    rcases waListApply_apply masked regs hList.increasing reg
      with hNone | ⟨found, hFound, hFoundReg, hValue⟩
    · exact absurd hReg (hNone.1 wa hMem)
    · have hFoundMerged := (hList.mem_iff found).mp hFound
      rw [hFoundReg, hMerged] at hFoundMerged
      cases hFoundMerged
      exact hValue.symm
  · intro h
    funext reg
    rw [performAll_apply]
    rcases waListApply_apply masked regs hList.increasing reg
      with hNone | ⟨found, hFound, hFoundReg, hValue⟩
    · rw [hNone.2]
      cases hOwn : own reg entries with
      | nil => rfl
      | cons first rest =>
          have hMerged : mergeAll (own reg entries) = some (rest.foldl I915Wa.merge first) := by
            rw [hOwn]
            rfl
          have hReg := mergeAll_reg hMerged
          exact absurd hReg
            (hNone.1 _ ((hList.mem_iff _).mpr (by rw [hReg]; exact hMerged)))
    · have hFoundMerged := (hList.mem_iff found).mp hFound
      rw [hFoundReg] at hFoundMerged
      exact hValue.trans (h reg found hFoundMerged)

end Registers

end NootedBlue.Wa
