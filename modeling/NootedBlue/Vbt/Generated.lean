import NootedBlue.Vbt.Tables

/-! The panel data pointers that are made up when the VBT has none. They pass
the checks of real ones whenever the panel data end each timing table with the
terminator. -/
namespace NootedBlue.Vbt

open Interaction Bytes

/-- Pointers in cleared memory. -/
def LfpDataPtrs.zeroed : LfpDataPtrs where
  numEntries := 0
  ptr _ := ⟨⟨0, 0⟩, ⟨0, 0⟩, ⟨0, 0⟩⟩
  panelName := ⟨0, 0⟩

/-- The length of the data of one panel. -/
def recordSize : Nat := fpTimingSize + edidDtdSize + edidPnpIdSize

/-- The tables of a panel, from the start of the panel data. -/
def generatedPtr (i : Nat) : LfpDataPtr where
  fpTiming := ⟨i * recordSize, fpTimingSize⟩
  dvoTiming := ⟨i * recordSize + fpTimingSize, edidDtdSize⟩
  panelPnpId := ⟨i * recordSize + fpTimingSize + edidDtdSize, edidPnpIdSize⟩

/-- The names of sixteen panels, when there is room for them. -/
def generatedName (blockSize : Nat) : LfpTable :=
  if 16 * (recordSize + productNameSize) ≤ blockSize then ⟨16 * recordSize, productNameSize⟩
  else ⟨0, 0⟩

/-- What the pointers to panel data of a size are to be in the end. -/
def LfpDataPtrs.IsGenerated (blockSize : Nat) (fixed : LfpDataPtrs) : Prop :=
  fixed.Same ⟨3, generatedPtr, generatedName blockSize⟩

/-- Each of the sixteen timing tables ends with the terminator. -/
def Terminated (memory : Memory) (data : Nat) : Prop :=
  ∀ i < 16, u16 memory (data + i * recordSize + (fpTimingSize - 2)) = 0xFFFF

instance (memory : Memory) (data : Nat) : Decidable (Terminated memory data) :=
  inferInstanceAs (Decidable (∀ i < 16, _))

section Generated

theorem chain_generated {i : Nat} (hi : i < 16) :
    LfpDataPtr.chain (generatedPtr 0) recordSize i = generatedPtr i := by
  induction i with
  | zero => rfl
  | succ i ih =>
      rw [LfpDataPtr.chain, ih (Nat.lt_of_succ_lt hi)]
      unfold generatedPtr LfpDataPtr.map LfpTable.next recordSize fpTimingSize edidDtdSize edidPnpIdSize
      simp only [LfpDataPtr.mk.injEq, LfpTable.mk.injEq, and_true]
      omega

/-- In cleared memory every table gets its place. -/
theorem generatedPtrs_zeroed (block blockSize : Nat) :
    generatedPtrs .zeroed block blockSize = some {
      numEntries := 3
      ptr := fun i => (LfpDataPtr.chain (generatedPtr 0) recordSize i).map (·.next block)
      panelName :=
        if 16 * (recordSize + productNameSize) ≤ blockSize then
          LfpTable.next ⟨recordSize * 16, productNameSize⟩ block
        else ⟨0, 0⟩ } := by
  unfold generatedPtrs
  by_cases hRoom : 16 * (recordSize + productNameSize) ≤ blockSize
  · rw [if_pos hRoom]
    unfold recordSize at hRoom
    simp only [if_pos hRoom]
    rfl
  · rw [if_neg hRoom]
    unfold recordSize at hRoom
    simp only [if_neg hRoom]
    rfl

variable {memory : Memory} {fuel bdb version block : Nat}

/-- The panel data that the walk finds end inside the BDB. -/
theorem end_of_find (hFound : (find fuel bdb .lfpData).run.answer memory = some (some block)) :
    block + blocksize memory (bdb + block - 3) < 2 ^ 16 := by
  obtain ⟨index, rfl, visits, hStop, -⟩ := visits_of_find hFound
  have hId := id_of_stop hStop
  have hTotal := bdbSize_lt memory bdb
  have hIndex := visits_index_lt visits
  have hPlain : ¬ IsMipi3 memory (bdb + index) := by
    rintro ⟨hMipi, -⟩
    rw [hId] at hMipi
    exact absurd hMipi (by decide)
  have hSize : blocksize memory (bdb + index) < 2 ^ 16 := by
    rw [blocksize, if_neg hPlain]
    exact u16_lt memory _
  have hEnds : following memory bdb index ≤ bdbSize memory bdb := by
    rw [walkStep_eq] at hStop
    split at hStop
    · split at hStop
      · cases hStop
      · next hEnds => exact Nat.not_lt.mp hEnds
    · cases hStop
  unfold following at hEnds
  rw [show bdb + (index + 3) - 3 = bdb + index by omega]
  omega

/-- The pointers of a block that starts at an index of the BDB. -/
structure Placed (block blockSize : Nat) (ptrs : LfpDataPtrs) : Prop where
  numEntries : ptrs.numEntries = 3
  ptr : ∀ i < 16, ptrs.ptr i =
    (generatedPtr i).map fun table => { table with offset := table.offset + block }
  panelName : ptrs.panelName =
    if (generatedName blockSize).size = 0 then generatedName blockSize
    else { generatedName blockSize with offset := (generatedName blockSize).offset + block }

/-- The offsets of the made up pointers do not wrap around. -/
theorem placed_of_generatedPtrs {blockSize : Nat} (hBlock : block + blockSize < 2 ^ 16)
    (hSize : 16 * recordSize ≤ blockSize) :
    ∃ ptrs, generatedPtrs .zeroed block blockSize = some ptrs ∧ Placed block blockSize ptrs := by
  have hRecord : recordSize = 66 := rfl
  refine ⟨_, generatedPtrs_zeroed block blockSize, rfl, fun i hi => ?_, ?_⟩
  · dsimp only
    rw [chain_generated hi]
    unfold generatedPtr LfpDataPtr.map LfpTable.next fpTimingSize edidDtdSize
    simp only [hRecord, LfpDataPtr.mk.injEq, LfpTable.mk.injEq, and_true]
    omega
  · unfold generatedName
    dsimp only
    split
    · next hRoom =>
        rw [if_neg (by decide)]
        unfold LfpTable.next
        simp only [hRecord, LfpTable.mk.injEq, and_true]
        omega
    · rfl

theorem Placed.packed {blockSize : Nat} {ptrs : LfpDataPtrs} (placed : Placed block blockSize ptrs)
    (hBlock : block + blockSize < 2 ^ 16) (hSize : 16 * recordSize ≤ blockSize) : ptrs.Packed := by
  have hRecord : recordSize = 66 := rfl
  refine ⟨placed.numEntries ▸ by decide, fun i hi => ?_, ?_⟩
  · rw [placed.ptr i hi]
    unfold generatedPtr LfpDataPtr.map LfpDataPtr.Packed LfpTable.Packed fpTimingSize edidDtdSize
      edidPnpIdSize
    simp only [hRecord]
    omega
  · rw [placed.panelName]
    unfold generatedName LfpTable.Packed
    by_cases hRoom : 16 * (recordSize + productNameSize) ≤ blockSize
    · rw [if_pos hRoom, if_neg (by decide)]
      unfold productNameSize
      simp only [hRecord]
      omega
    · rw [if_neg hRoom, if_pos rfl]
      decide

/-- Corrected pointers lie where they are to be. -/
theorem Placed.relative {blockSize : Nat} {raw ptrs : LfpDataPtrs}
    (placed : Placed block blockSize ptrs) (same : raw.Same ptrs) :
    raw.behind block = true ∧ (raw.relative block).IsGenerated blockSize := by
  have hPtr : ∀ i < 16, raw.ptr i =
      (generatedPtr i).map fun table => { table with offset := table.offset + block } := by
    intro i hi
    rw [same.ptr i hi, placed.ptr i hi]
  have hName := same.panelName.trans placed.panelName
  constructor
  · simp only [LfpDataPtrs.behind, Bool.and_eq_true, List.all_eq_true, List.mem_range, hName]
    constructor
    · intro i hi
      rw [hPtr i hi]
      simp [LfpDataPtr.all, LfpDataPtr.map]
    · split
      · next hNone => simp [hNone]
      · simp
  · refine ⟨same.numEntries.trans placed.numEntries, fun i hi => ?_, ?_⟩
    · unfold LfpDataPtrs.relative
      dsimp only
      rw [hPtr i hi]
      simp [LfpDataPtr.map]
    · show (if raw.panelName.size = 0 then _ else _) = _
      rw [hName]
      by_cases hNone : (generatedName blockSize).size = 0
      · rw [if_pos hNone, if_pos hNone]
      · rw [if_neg hNone, if_neg hNone]
        simp

/-- The made up pointers pass the checks, without unaccounted bytes. -/
theorem consistent_of_isGenerated {blockSize : Nat} {fixed : LfpDataPtrs}
    (generated : fixed.IsGenerated blockSize) (hSize : 16 * recordSize ≤ blockSize) :
    fixed.consistent blockSize = true ∧ fixed.paddedSize = fpTimingSize := by
  have hRecord : recordSize = 66 := rfl
  have hStride : fixed.stride = recordSize := by
    rw [LfpDataPtrs.stride, generated.ptr 0 (by decide), generated.ptr 1 (by decide)]
    rfl
  have hPadded : fixed.paddedSize = fpTimingSize := by
    rw [LfpDataPtrs.paddedSize, generated.ptr 0 (by decide), hStride]
    rfl
  refine ⟨?_, hPadded⟩
  have hSizes : fixed.sizesKnown = true := by
    rw [LfpDataPtrs.sizesKnown, generated.ptr 0 (by decide), generated.panelName]
    unfold generatedName
    dsimp only
    split <;> rfl
  have hUniform : (List.range 15).all fixed.uniformAt = true := by
    simp only [List.all_eq_true, List.mem_range]
    intro i hi
    rw [LfpDataPtrs.uniformAt, generated.ptr 0 (by decide), generated.ptr i (by omega),
      generated.ptr (i + 1) (by omega), hStride]
    simp only [generatedPtr, Bool.and_eq_true, decide_eq_true_eq, true_and, hRecord]
    omega
  have hContiguous : fixed.contiguous = true := by
    rw [LfpDataPtrs.contiguous, generated.ptr 0 (by decide), hPadded, hStride]
    rfl
  have hFits : (List.range 16).all (fixed.fitsAt blockSize) = true := by
    simp only [List.all_eq_true, List.mem_range]
    intro i hi
    rw [LfpDataPtrs.fitsAt, generated.ptr 0 (by decide), generated.ptr i hi, hPadded]
    simp only [generatedPtr, Bool.and_eq_true, decide_eq_true_eq, hRecord]
    unfold fpTimingSize edidDtdSize edidPnpIdSize
    omega
  have hName : fixed.panelName.offset + 16 * fixed.panelName.size ≤ blockSize := by
    rw [generated.panelName]
    unfold generatedName
    dsimp only
    split <;> dsimp only <;> omega
  have hNumEntries := generated.numEntries
  simp only [LfpDataPtrs.consistent, Bool.and_eq_true, decide_eq_true_eq]
  refine ⟨⟨⟨⟨⟨⟨⟨?_, hNumEntries⟩, hSizes⟩, ?_⟩, hUniform⟩, hContiguous⟩, hFits⟩, hName⟩
  · omega
  · omega

/-- The terminators of made up pointers are those of the panel data. -/
theorem terminators_of_isGenerated {blockSize : Nat} {fixed : LfpDataPtrs}
    (generated : fixed.IsGenerated blockSize) (hPadded : fixed.paddedSize = fpTimingSize) :
    (terminatorsPresent bdb block fixed (List.range 16)).answer memory = true ↔
      Terminated memory (bdb + block) := by
  rw [answer_terminatorsPresent]
  unfold Terminated
  simp only [List.mem_range, hPadded]
  refine forall₂_congr fun i hi => ?_
  rw [generated.ptr i hi]
  rfl

/-- In cleared memory the pointers are made up for any panel data that are long
enough. -/
theorem generate_placed (hVersion : 155 ≤ version)
    (hFound : (find fuel bdb .lfpData).run.answer memory = some (some block))
    (hSize : 16 * recordSize ≤ blocksize memory (bdb + block - 3)) :
    ∃ ptrs, (generateLfpDataPtrs fuel bdb version .zeroed).run.answer memory = some (some ptrs) ∧
      Placed block (blocksize memory (bdb + block - 3)) ptrs := by
  obtain ⟨ptrs, hPtrs, placed⟩ := placed_of_generatedPtrs (end_of_find hFound) hSize
  refine ⟨ptrs, ?_, placed⟩
  unfold generateLfpDataPtrs
  rw [if_neg (Nat.not_lt.mpr hVersion), answer_search_bind, hFound, Option.bind_some,
    answer_search_bind, answer_search_lift, answer_getBlocksize, Option.bind_some, if_neg, hPtrs]
  · rfl
  · unfold recordSize at hSize
    omega

/-- The correction of made up pointers that went through the bytes of a block. -/
theorem Placed.fixup {ptrs : LfpDataPtrs}
    (placed : Placed block (blocksize memory (bdb + block - 3)) ptrs)
    (hFound : (find fuel bdb .lfpData).run.answer memory = some (some block))
    (hSize : 16 * recordSize ≤ blocksize memory (bdb + block - 3)) {copy : Memory} {offset : Nat}
    (hStored : Stored copy offset ptrs.bytes) :
    ∃ fixed : LfpDataPtrs, fixed.IsGenerated (blocksize memory (bdb + block - 3)) ∧
      (fixupLfpDataPtrs fuel bdb (.read copy offset)).run.answer memory =
        some (if Terminated memory (bdb + block) then some fixed else none) := by
  have same := LfpDataPtrs.read_of_stored (placed.packed (end_of_find hFound) hSize) hStored
  obtain ⟨hBehind, generated⟩ := placed.relative same
  obtain ⟨hConsistent, hPadded⟩ := consistent_of_isGenerated generated hSize
  refine ⟨_, generated, ?_⟩
  rw [answer_fixupLfpDataPtrs hFound, hBehind, hConsistent, Bool.true_and, Bool.true_and]
  simp only [terminators_of_isGenerated generated hPadded]

theorem keepEntry_of_fixup {entry : BlockEntry} {fixed : Option LfpDataPtrs}
    (hPtrs : entry.id = .lfpDataPtrs)
    (hFixed : (fixupLfpDataPtrs fuel bdb (.read entry.payload 0)).run.answer memory = some fixed) :
    (keepEntry fuel bdb entry).run.answer memory = some (fixed.map entry.patch) := by
  unfold keepEntry
  rw [if_pos hPtrs, answer_search_bind, hFixed, Option.bind_some]
  cases fixed <;> rfl

/-- Without a block of pointers the list gets one exactly when the panel data
are terminated. -/
theorem initBdbBlock_generated {fresh : Fresh} {minSize : Nat} (hFresh : fresh.lfpDataPtrs = .zeroed)
    (hVersion : 155 ≤ version)
    (hNone : (find fuel bdb .lfpDataPtrs).run.answer memory = some none)
    (hFound : (find fuel bdb .lfpData).run.answer memory = some (some block))
    (hSize : 16 * recordSize ≤ blocksize memory (bdb + block - 3)) :
    ∃ entry, (initBdbBlock fuel bdb version fresh .lfpDataPtrs minSize).run.answer memory =
      some (if Terminated memory (bdb + block) then some entry else none) := by
  obtain ⟨ptrs, hPtrs, placed⟩ := generate_placed hVersion hFound hSize
  have hStored : Stored (BlockEntry.ofBytes fresh .lfpDataPtrs minSize
      (BlockId.lfpDataPtrs.code.toUInt8 :: le16 lfpDataPtrsSize ++ ptrs.bytes)).payload 0
        ptrs.bytes := by
    intro i hi
    show List.getD _ (0 + i + 3) _ = _
    rw [Nat.zero_add, Nat.add_comm, List.getD_eq_getElem?_getD,
      List.getElem?_append_right (Nat.le_add_right 3 i)]
    show (ptrs.bytes[3 + i - 3]?).getD _ = _
    rw [Nat.add_sub_cancel_left, List.getElem?_eq_getElem hi]
    rfl
  obtain ⟨fixed, -, hFixed⟩ := placed.fixup hFound hSize hStored
  unfold initBdbBlock
  rw [answer_search_bind, hNone, Option.bind_some]
  dsimp only
  rw [if_pos rfl, answer_search_bind, hFresh, hPtrs, Option.bind_some]
  have hKept := keepEntry_of_fixup rfl hFixed
  rw [apply_ite (Option.map _), Option.map_some, Option.map_none] at hKept
  exact ⟨_, hKept⟩

end Generated

/-- Made up pointers are accepted exactly when the panel data end each timing
table with the terminator, and are then what they are to be. They go through
the bytes of a block in between. -/
theorem generated_ptrs_validate (memory : Memory) (fuel bdb version block : Nat)
    (hVersion : 155 ≤ version)
    (hFound : (find fuel bdb .lfpData).run.answer memory = some (some block))
    (hSize : 16 * recordSize ≤ blocksize memory (bdb + block - 3)) :
    ∃ ptrs, (generateLfpDataPtrs fuel bdb version .zeroed).run.answer memory = some (some ptrs) ∧
      ∀ copy offset, Stored copy offset ptrs.bytes →
        ∃ fixed : LfpDataPtrs, fixed.IsGenerated (blocksize memory (bdb + block - 3)) ∧
          (fixupLfpDataPtrs fuel bdb (.read copy offset)).run.answer memory =
            some (if Terminated memory (bdb + block) then some fixed else none) := by
  obtain ⟨ptrs, hPtrs, placed⟩ := generate_placed hVersion hFound hSize
  exact ⟨ptrs, hPtrs, fun copy offset hStored => placed.fixup hFound hSize hStored⟩

/-- A BDB of which the only block has 1056 bytes of panel data, each of them
0xFF. -/
def terminatedBdb : Memory := fun offset =>
  match offset with
  | 18 => 22
  | 19 => 0
  | 20 => 0x39
  | 21 => 4
  | 22 => 42
  | 23 => 0x20
  | 24 => 4
  | _ => 0xFF

theorem generated_ptrs_accepted :
    155 ≤ 155 ∧ Terminated terminatedBdb (0 + 25) ∧
      ∃ ptrs, (generateLfpDataPtrs 1 0 155 .zeroed).run.answer terminatedBdb = some (some ptrs) ∧
        ∀ copy offset, Stored copy offset ptrs.bytes →
          ∃ fixed : LfpDataPtrs, fixed.IsGenerated (blocksize terminatedBdb (0 + 25 - 3)) ∧
            (fixupLfpDataPtrs 1 0 (.read copy offset)).run.answer terminatedBdb =
              some (if Terminated terminatedBdb (0 + 25) then some fixed else none) :=
  ⟨by decide, by decide, generated_ptrs_validate terminatedBdb 1 0 155 25 (by decide) (by decide)
    (by decide)⟩

end NootedBlue.Vbt
