import NootedBlue.Vbt.Bounds

/-! The tables that the panel data pointers lead to. Pointers that pass the
checks describe sixteen records of one length, from the start of the panel data
on, and each record is filled by its three tables. The pointers go through the
bytes of their block when they are stored and parsed. -/
namespace NootedBlue.Vbt

open Interaction Bytes

namespace LfpTable

/-- A table ends before the other one starts. -/
def Before (first second : LfpTable) : Prop := first.offset + first.size ≤ second.offset

/-- The fields of the packed structure have 16 and 8 bits. -/
def Packed (table : LfpTable) : Prop := table.offset < 2 ^ 16 ∧ table.size < 2 ^ 8

@[simp] theorem bytes_length (table : LfpTable) : table.bytes.length = 3 := rfl

theorem packed_read (memory : Memory) (offset : Nat) : (read memory offset).Packed :=
  ⟨u16_lt memory offset, u8_lt memory (offset + 2)⟩

theorem read_of_stored {memory : Memory} {offset : Nat} {table : LfpTable} (packed : table.Packed)
    (h : Stored memory offset table.bytes) : read memory offset = table := by
  obtain ⟨hOffset, hSize⟩ := stored_append_iff.mp h
  have hByte : memory (offset + 2) = table.size.toUInt8 := (stored_cons_iff.mp hSize).1
  have hRead : u8 memory (offset + 2) = table.size := by
    unfold u8
    rw [hByte, Nat.toUInt8_eq, UInt8.toNat_ofNat']
    exact Nat.mod_eq_of_lt packed.2
  unfold read
  rw [u16_of_stored hOffset, hRead, Nat.mod_eq_of_lt packed.1]

end LfpTable

namespace LfpDataPtr

def Packed (ptr : LfpDataPtr) : Prop :=
  ptr.fpTiming.Packed ∧ ptr.dvoTiming.Packed ∧ ptr.panelPnpId.Packed

@[simp] theorem bytes_length (ptr : LfpDataPtr) : ptr.bytes.length = 9 := rfl

theorem packed_read (memory : Memory) (offset : Nat) : (read memory offset).Packed :=
  ⟨LfpTable.packed_read _ _, LfpTable.packed_read _ _, LfpTable.packed_read _ _⟩

theorem read_of_stored {memory : Memory} {offset : Nat} {ptr : LfpDataPtr} (packed : ptr.Packed)
    (h : Stored memory offset ptr.bytes) : read memory offset = ptr := by
  obtain ⟨hTimings, hPnpId⟩ := stored_append_iff.mp h
  obtain ⟨hFp, hDvo⟩ := stored_append_iff.mp hTimings
  have hSecond : LfpTable.read memory (offset + 3) = _ := LfpTable.read_of_stored packed.2.1 hDvo
  have hThird : LfpTable.read memory (offset + 6) = _ := LfpTable.read_of_stored packed.2.2 hPnpId
  rw [read, LfpTable.read_of_stored packed.1 hFp, hSecond, hThird]

end LfpDataPtr

namespace LfpDataPtrs

/-- All numbers fit into their fields. -/
structure Packed (ptrs : LfpDataPtrs) : Prop where
  numEntries : ptrs.numEntries < 2 ^ 8
  ptr : ∀ i < 16, (ptrs.ptr i).Packed
  panelName : ptrs.panelName.Packed

/-- The same pointers, as far as there are entries. -/
structure Same (first second : LfpDataPtrs) : Prop where
  numEntries : first.numEntries = second.numEntries
  ptr : ∀ i < 16, first.ptr i = second.ptr i
  panelName : first.panelName = second.panelName

theorem packed_read (memory : Memory) (offset : Nat) : (read memory offset).Packed where
  numEntries := u8_lt memory offset
  ptr _ _ := LfpDataPtr.packed_read _ _
  panelName := LfpTable.packed_read _ _

theorem entries_length (ptrs : LfpDataPtrs) :
    ((List.range 16).flatMap fun i => (ptrs.ptr i).bytes).length = 144 := by
  simp [List.length_flatMap, List.map_const']

@[simp] theorem bytes_length (ptrs : LfpDataPtrs) : ptrs.bytes.length = lfpDataPtrsSize := by
  rw [bytes, List.length_append, List.length_cons, entries_length, LfpTable.bytes_length]
  rfl

/-- Pointers that went through the bytes of their block are the same. -/
theorem read_of_stored {memory : Memory} {offset : Nat} {ptrs : LfpDataPtrs} (packed : ptrs.Packed)
    (h : Stored memory offset ptrs.bytes) : (read memory offset).Same ptrs := by
  obtain ⟨hEntries, hName⟩ := stored_append_iff.mp h
  obtain ⟨hNum, hTables⟩ := stored_cons_iff.mp hEntries
  rw [List.length_cons, entries_length] at hName
  rw [stored_flatMap_iff fun i => (ptrs.ptr i).bytes_length] at hTables
  refine ⟨?_, fun i hi => ?_, ?_⟩
  · show u8 memory offset = _
    unfold u8
    rw [hNum, Nat.toUInt8_eq, UInt8.toNat_ofNat']
    exact Nat.mod_eq_of_lt packed.numEntries
  · exact LfpDataPtr.read_of_stored (packed.ptr i hi) (hTables i hi)
  · exact LfpTable.read_of_stored packed.panelName hName

/-- Offsets only get smaller when they are corrected. -/
theorem packed_relative {ptrs : LfpDataPtrs} (packed : ptrs.Packed) (offset : Nat) :
    (ptrs.relative offset).Packed := by
  have hShift : ∀ table : LfpTable, table.Packed →
      ({ table with offset := table.offset - offset } : LfpTable).Packed := by
    intro table hPacked
    exact ⟨Nat.lt_of_le_of_lt (Nat.sub_le _ _) hPacked.1, hPacked.2⟩
  refine ⟨packed.numEntries, fun i hi => ?_, ?_⟩
  · obtain ⟨hFp, hDvo, hPnp⟩ := packed.ptr i hi
    exact ⟨hShift _ hFp, hShift _ hDvo, hShift _ hPnp⟩
  · unfold relative
    dsimp only
    split
    · exact packed.panelName
    · exact hShift _ packed.panelName

/-- The three tables of a record, the first one with its unaccounted bytes. -/
def tables (ptrs : LfpDataPtrs) (i : Nat) : List LfpTable :=
  [{ (ptrs.ptr i).fpTiming with size := ptrs.paddedSize }, (ptrs.ptr i).dvoTiming,
    (ptrs.ptr i).panelPnpId]

/-- The records as the checks promise them. -/
structure LaidOut (ptrs : LfpDataPtrs) (blockSize : Nat) : Prop where
  fpTimingSize : ∀ i < 16, (ptrs.ptr i).fpTiming.size = (ptrs.ptr 0).fpTiming.size
  dvoTimingSize : ∀ i < 16, (ptrs.ptr i).dvoTiming.size = edidDtdSize
  panelPnpIdSize : ∀ i < 16, (ptrs.ptr i).panelPnpId.size = edidPnpIdSize
  padding : ptrs.paddedSize = (ptrs.ptr 0).fpTiming.size ∨
    ptrs.paddedSize = (ptrs.ptr 0).fpTiming.size + 6
  stridePos : 0 < ptrs.stride
  strideEq : ptrs.stride = (ptrs.paddedSize + edidDtdSize + edidPnpIdSize : Nat)
  start : ∀ i < 16, ((ptrs.ptr i).fpTiming.offset : Int) = i * ptrs.stride
  fpTimingEnd : ∀ i < 16,
    (ptrs.ptr i).fpTiming.offset + ptrs.paddedSize = (ptrs.ptr i).dvoTiming.offset
  dvoTimingEnd : ∀ i < 16,
    (ptrs.ptr i).dvoTiming.offset + edidDtdSize = (ptrs.ptr i).panelPnpId.offset
  disjoint : ((List.range 16).flatMap ptrs.tables).Pairwise LfpTable.Before
  inside : ∀ table ∈ (List.range 16).flatMap ptrs.tables, table.offset + table.size ≤ blockSize

/-- Equal distances add up. -/
theorem offset_of_uniform (offset : Nat → Nat) {stride : Int} {count : Nat}
    (hUniform : ∀ i < count, (offset (i + 1) - offset i : Int) = stride) {i : Nat} (hi : i ≤ count) :
    (offset i : Int) = offset 0 + i * stride := by
  induction i with
  | zero => simp
  | succ i ih =>
      have hStep := hUniform i (Nat.lt_of_succ_le hi)
      have hBefore := ih (Nat.le_of_succ_le hi)
      push_cast
      rw [Int.add_mul, Int.one_mul]
      omega

variable {ptrs : LfpDataPtrs} {blockSize : Nat}

/-- The offsets of an entry that is as far from the first one as the checks
make it. -/
theorem offsets_of_uniform (hUniform : ∀ i < 15, ptrs.uniformAt i = true) {i : Nat} (hi : i < 16) :
    ((ptrs.ptr i).fpTiming.offset : Int) = (ptrs.ptr 0).fpTiming.offset + i * ptrs.stride ∧
      ((ptrs.ptr i).dvoTiming.offset : Int) = (ptrs.ptr 0).dvoTiming.offset + i * ptrs.stride ∧
      ((ptrs.ptr i).panelPnpId.offset : Int) = (ptrs.ptr 0).panelPnpId.offset + i * ptrs.stride := by
  simp only [uniformAt, Bool.and_eq_true, decide_eq_true_eq] at hUniform
  have hLast : i ≤ 15 := Nat.le_of_lt_succ hi
  refine ⟨?_, ?_, ?_⟩
  · exact offset_of_uniform (fun j => (ptrs.ptr j).fpTiming.offset)
      (fun j hj => (hUniform j hj).1.1.2) hLast
  · exact offset_of_uniform (fun j => (ptrs.ptr j).dvoTiming.offset)
      (fun j hj => (hUniform j hj).1.2) hLast
  · exact offset_of_uniform (fun j => (ptrs.ptr j).panelPnpId.offset)
      (fun j hj => (hUniform j hj).2) hLast

/-- The sizes of an entry are those of the first one. -/
theorem sizes_of_uniform (hUniform : ∀ i < 15, ptrs.uniformAt i = true) {i : Nat} (hi : i < 16) :
    (ptrs.ptr i).fpTiming.size = (ptrs.ptr 0).fpTiming.size ∧
      (ptrs.ptr i).dvoTiming.size = (ptrs.ptr 0).dvoTiming.size ∧
      (ptrs.ptr i).panelPnpId.size = (ptrs.ptr 0).panelPnpId.size := by
  cases i with
  | zero => exact ⟨rfl, rfl, rfl⟩
  | succ i =>
      have hStep := hUniform i (Nat.lt_of_succ_lt_succ hi)
      simp only [uniformAt, Bool.and_eq_true, decide_eq_true_eq] at hStep
      exact ⟨hStep.1.1.1.1.1, hStep.1.1.1.1.2, hStep.1.1.1.2⟩

/-- Three tables one behind the other. -/
theorem pairwise_tables {i : Nat}
    (hFirst : (ptrs.ptr i).fpTiming.offset + ptrs.paddedSize = (ptrs.ptr i).dvoTiming.offset)
    (hSecond : (ptrs.ptr i).dvoTiming.offset + (ptrs.ptr i).dvoTiming.size =
      (ptrs.ptr i).panelPnpId.offset) : (ptrs.tables i).Pairwise LfpTable.Before := by
  simp only [tables, List.pairwise_cons, List.mem_cons, List.not_mem_nil, or_false,
    LfpTable.Before, forall_eq_or_imp, forall_eq, false_implies, implies_true, List.Pairwise.nil,
    and_true]
  omega

/-- Records of which each fills its own stretch do not overlap. -/
theorem pairwise_of_offsets {stride : Int}
    (hTables : ∀ i < 16, (ptrs.tables i).Pairwise LfpTable.Before ∧ ∀ table ∈ ptrs.tables i,
      i * stride ≤ table.offset ∧ ((table.offset + table.size : Nat) : Int) ≤ (i + 1) * stride)
    (hStride : 0 ≤ stride) : ((List.range 16).flatMap ptrs.tables).Pairwise LfpTable.Before := by
  refine List.pairwise_flatMap.mpr ⟨fun i hi => (hTables i (List.mem_range.mp hi)).1, ?_⟩
  refine List.Pairwise.imp_of_mem ?_ List.pairwise_lt_range
  intro i j hi hj hLt first hFirst second hSecond
  have hEnd := ((hTables i (List.mem_range.mp hi)).2 first hFirst).2
  have hStart := ((hTables j (List.mem_range.mp hj)).2 second hSecond).1
  have hBetween : ((i : Int) + 1) * stride ≤ j * stride :=
    Int.mul_le_mul_of_nonneg_right (by omega) hStride
  unfold LfpTable.Before
  omega

/-- What the checks say of the first record, and of the others beside it. -/
structure Checked (ptrs : LfpDataPtrs) (blockSize : Nat) : Prop where
  padded : 32 ≤ ptrs.paddedSize
  dvoTimingSize : (ptrs.ptr 0).dvoTiming.size = edidDtdSize
  panelPnpIdSize : (ptrs.ptr 0).panelPnpId.size = edidPnpIdSize
  strideEq : ((ptrs.paddedSize + edidDtdSize + edidPnpIdSize : Nat) : Int) = ptrs.stride
  fpTimingEnd : (ptrs.ptr 0).fpTiming.offset + ptrs.paddedSize = (ptrs.ptr 0).dvoTiming.offset
  dvoTimingEnd : (ptrs.ptr 0).dvoTiming.offset + edidDtdSize = (ptrs.ptr 0).panelPnpId.offset
  panelPnpIdEnd : (((ptrs.ptr 0).panelPnpId.offset + edidPnpIdSize : Nat) : Int) = ptrs.stride
  uniform : ∀ i < 15, ptrs.uniformAt i = true
  fits : ∀ i < 16, ptrs.fitsAt blockSize i = true

theorem checked_of_consistent (h : ptrs.consistent blockSize = true) : ptrs.Checked blockSize := by
  have hPadded := (fits_of_consistent h).1
  simp only [consistent, Bool.and_eq_true, List.all_eq_true, List.mem_range] at h
  obtain ⟨⟨⟨⟨⟨⟨-, hSizes⟩, -⟩, hUniform⟩, hContiguous⟩, hFits⟩, -⟩ := h
  simp only [sizesKnown, Bool.and_eq_true, decide_eq_true_eq] at hSizes
  obtain ⟨⟨⟨-, hDvo⟩, hPnp⟩, -⟩ := hSizes
  simp only [contiguous, Bool.and_eq_true, decide_eq_true_eq, hDvo, hPnp] at hContiguous
  obtain ⟨⟨⟨hTotal, hFirst⟩, hSecond⟩, hThird⟩ := hContiguous
  exact ⟨hPadded, hDvo, hPnp, hTotal, hFirst, hSecond, hThird, hUniform, hFits⟩

theorem Checked.start (checked : ptrs.Checked blockSize) {i : Nat} (hi : i < 16) :
    ((ptrs.ptr i).fpTiming.offset : Int) = i * ptrs.stride := by
  have hFirst := checked.fpTimingEnd
  have hSecond := checked.dvoTimingEnd
  have hThird := checked.panelPnpIdEnd
  have hTotal := checked.strideEq
  have hOffset := (offsets_of_uniform checked.uniform hi).1
  omega

theorem Checked.tableEnds (checked : ptrs.Checked blockSize) {i : Nat} (hi : i < 16) :
    (ptrs.ptr i).fpTiming.offset + ptrs.paddedSize = (ptrs.ptr i).dvoTiming.offset ∧
      (ptrs.ptr i).dvoTiming.offset + edidDtdSize = (ptrs.ptr i).panelPnpId.offset := by
  have hFirst := checked.fpTimingEnd
  have hSecond := checked.dvoTimingEnd
  obtain ⟨hFp, hDvo, hPnp⟩ := offsets_of_uniform checked.uniform hi
  omega

/-- A record fills the stretch of its number. -/
theorem Checked.recordEnd (checked : ptrs.Checked blockSize) {i : Nat} (hi : i < 16) :
    (((ptrs.ptr i).panelPnpId.offset + edidPnpIdSize : Nat) : Int) = (i + 1) * ptrs.stride := by
  have hThird := checked.panelPnpIdEnd
  have hPnp := (offsets_of_uniform checked.uniform hi).2.2
  rw [Int.add_mul, Int.one_mul]
  omega

/-- Each table of a record lies in the stretch of the record and in the block. -/
theorem Checked.table (checked : ptrs.Checked blockSize) {i : Nat} (hi : i < 16) {table : LfpTable}
    (hTable : table ∈ ptrs.tables i) :
    i * ptrs.stride ≤ table.offset ∧
      ((table.offset + table.size : Nat) : Int) ≤ (i + 1) * ptrs.stride ∧
      table.offset + table.size ≤ blockSize := by
  have hFit := checked.fits i hi
  simp only [fitsAt, Bool.and_eq_true, decide_eq_true_eq, checked.dvoTimingSize,
    checked.panelPnpIdSize] at hFit
  have hStart := checked.start hi
  have hEnd := checked.recordEnd hi
  obtain ⟨hFpEnd, hDvoEnd⟩ := checked.tableEnds hi
  obtain ⟨-, hDvo, hPnp⟩ := sizes_of_uniform checked.uniform hi
  rw [checked.dvoTimingSize] at hDvo
  rw [checked.panelPnpIdSize] at hPnp
  simp only [tables, List.mem_cons, List.not_mem_nil, or_false] at hTable
  rcases hTable with rfl | rfl | rfl
  · dsimp only
    omega
  · omega
  · omega

/-- Pointers that pass the checks describe records as promised. -/
theorem laidOut_of_consistent (h : ptrs.consistent blockSize = true) : ptrs.LaidOut blockSize := by
  have checked := checked_of_consistent h
  have hSame := fun i (hi : i < 16) => sizes_of_uniform checked.uniform hi
  have hPositive : 0 < ptrs.stride := by
    have hTotal := checked.strideEq
    have hPadded := checked.padded
    omega
  refine {
    fpTimingSize := fun i hi => (hSame i hi).1
    dvoTimingSize := fun i hi => (hSame i hi).2.1.trans checked.dvoTimingSize
    panelPnpIdSize := fun i hi => (hSame i hi).2.2.trans checked.panelPnpIdSize
    padding := ?_
    stridePos := hPositive
    strideEq := checked.strideEq.symm
    start := fun i hi => checked.start hi
    fpTimingEnd := fun i hi => (checked.tableEnds hi).1
    dvoTimingEnd := fun i hi => (checked.tableEnds hi).2
    disjoint := ?_
    inside := ?_ }
  · unfold paddedSize
    dsimp only
    split
    · exact .inr rfl
    · exact .inl rfl
  · refine pairwise_of_offsets (fun i hi => ⟨?_, fun table hTable => ?_⟩) (Int.le_of_lt hPositive)
    · refine pairwise_tables (checked.tableEnds hi).1 ?_
      rw [(hSame i hi).2.1, checked.dvoTimingSize]
      exact (checked.tableEnds hi).2
    · obtain ⟨hStart, hEnd, -⟩ := checked.table hi hTable
      exact ⟨hStart, hEnd⟩
  · intro table hTable
    obtain ⟨i, hi, hMem⟩ := List.mem_flatMap.mp hTable
    exact (checked.table (List.mem_range.mp hi) hMem).2.2

end LfpDataPtrs

section Fixup

variable {memory : Memory} {fuel bdb : Nat} {ptrs : LfpDataPtrs}

theorem answer_terminatorsPresent {block : Nat} (entries : List Nat) :
    (terminatorsPresent bdb block ptrs entries).answer memory = true ↔
      ∀ i ∈ entries,
        u16 memory (bdb + block + (ptrs.ptr i).fpTiming.offset + ptrs.paddedSize - 2) = 0xFFFF := by
  induction entries with
  | nil => exact iff_of_true rfl fun _ hi => absurd hi List.not_mem_nil
  | cons i rest ih =>
      rw [terminatorsPresent, Program.answer_bind, answer_readU16, List.forall_mem_cons, ← ih]
      split
      · next hOther => exact iff_of_false Bool.false_ne_true fun h => hOther h.1
      · next hTerminator => exact (and_iff_right (Decidable.not_not.mp hTerminator)).symm

/-- The checks of pointers against the panel data that the walk finds. -/
theorem answer_validateLfpDataPtrs {block : Nat}
    (hFound : (find fuel bdb .lfpData).run.answer memory = some (some block)) :
    (validateLfpDataPtrs fuel bdb ptrs).run.answer memory = some (
      ptrs.consistent (blocksize memory (bdb + block - 3)) &&
        (terminatorsPresent bdb block ptrs (List.range 16)).answer memory) := by
  unfold validateLfpDataPtrs
  rw [answer_search_bind, hFound, Option.bind_some]
  dsimp only
  rw [answer_search_bind, answer_search_lift, answer_getBlocksize, Option.bind_some]
  split
  · next hConsistent => rw [answer_search_lift, hConsistent, Bool.true_and]
  · next hOther =>
      rw [Bool.not_eq_true] at hOther
      rw [hOther, Bool.false_and]
      rfl

/-- The correction ends when the walk does, and accepts pointers behind the
start of the panel data that pass the checks. -/
theorem answer_fixupLfpDataPtrs {block : Nat}
    (hFound : (find fuel bdb .lfpData).run.answer memory = some (some block)) :
    (fixupLfpDataPtrs fuel bdb ptrs).run.answer memory = some (
      if ptrs.behind block && ((ptrs.relative block).consistent (blocksize memory (bdb + block - 3)) &&
          (terminatorsPresent bdb block (ptrs.relative block) (List.range 16)).answer memory) then
        some (ptrs.relative block)
      else none) := by
  have hOffset : (rawBlockOffset fuel bdb .lfpData).run.answer memory = some block := by
    unfold rawBlockOffset
    rw [answer_search_bind, hFound]
    rfl
  unfold fixupLfpDataPtrs
  rw [answer_search_bind, hOffset, Option.bind_some]
  by_cases hBehind : ptrs.behind block = true
  · rw [if_pos hBehind, answer_search_bind, answer_validateLfpDataPtrs hFound, hBehind,
      Bool.true_and]
    rfl
  · rw [if_neg hBehind, if_neg]
    · rfl
    · intro h
      exact hBehind ((Bool.and_eq_true _ _).mp h).1

/-- Pointers that were accepted have been checked against panel data. -/
theorem found_of_fixup {fixed : LfpDataPtrs}
    (h : (fixupLfpDataPtrs fuel bdb ptrs).run.answer memory = some (some fixed)) :
    ∃ block, (find fuel bdb .lfpData).run.answer memory = some (some block) ∧
      fixed = ptrs.relative block ∧
      fixed.consistent (blocksize memory (bdb + block - 3)) = true := by
  obtain ⟨offset, hOffset, -⟩ := answers_bind_iff.mp ⟨_, h⟩
  obtain ⟨found, hFound, -⟩ := answers_bind_iff.mp ⟨_, hOffset⟩
  cases found with
  | some block =>
      refine ⟨block, hFound, ?_⟩
      rw [answer_fixupLfpDataPtrs hFound, Option.some.injEq] at h
      split at h
      · next hPassed =>
          simp only [Bool.and_eq_true] at hPassed
          cases h
          exact ⟨rfl, hPassed.2.1⟩
      · cases h
  | none =>
      have hZero : offset = 0 := by
        unfold rawBlockOffset at hOffset
        rw [answer_search_bind, hFound] at hOffset
        exact (Option.some.inj hOffset).symm
      have hInvalid : (validateLfpDataPtrs fuel bdb (ptrs.relative 0)).run.answer memory =
          some false := by
        unfold validateLfpDataPtrs
        rw [answer_search_bind, hFound]
        rfl
      unfold fixupLfpDataPtrs at h
      rw [answer_search_bind, hOffset, hZero, Option.bind_some] at h
      split at h
      · rw [answer_search_bind, hInvalid] at h
        cases h
      · cases h

end Fixup

end NootedBlue.Vbt
