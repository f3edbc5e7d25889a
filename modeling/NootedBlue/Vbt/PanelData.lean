import NootedBlue.Vbt.Bounds
import NootedBlue.Vbt.Generated
import NootedBlue.Vbt.Timing

/-! The bytes of the panel data that the parsers read. The pointers in the list
of blocks have passed the checks, and the copy of the panel data is as long as
the block, or as long as the structures that are read of it. -/
namespace NootedBlue.Vbt

open Interaction Bytes

section Kept

variable {memory : Memory} {fuel bdb version : Nat} {fresh : Fresh}

/-- The pointers of an entry that is kept have been corrected. -/
theorem answer_keepEntry {entry kept : BlockEntry}
    (h : (keepEntry fuel bdb entry).run.answer memory = some (some kept)) :
    kept.id = entry.id ∧
      (entry.id ≠ .lfpDataPtrs → kept = entry) ∧
      (entry.id = .lfpDataPtrs → ∃ fixed,
        (fixupLfpDataPtrs fuel bdb (.read entry.payload 0)).run.answer memory = some (some fixed) ∧
          kept = entry.patch fixed) := by
  unfold keepEntry at h
  split at h
  · next hPtrs =>
      rw [answer_search_bind] at h
      obtain ⟨fixed, hFixed, hKept⟩ := Option.bind_eq_some_iff.mp h
      cases fixed with
      | none => cases hKept
      | some ptrs =>
          cases hKept
          exact ⟨rfl, fun hOther => absurd hPtrs hOther, fun _ => ⟨ptrs, hFixed, rfl⟩⟩
  · next hOther =>
      cases h
      exact ⟨rfl, fun _ => rfl, fun hPtrs => absurd hPtrs hOther⟩

/-- An entry holds the copy of the block that was found, or the pointers that
were made up. -/
theorem kept_of_initBdbBlock {minSize : Nat} {id : BlockId} {entry : BlockEntry}
    (h : (initBdbBlock fuel bdb version fresh id minSize).run.answer memory = some (some entry)) :
    ∃ bytes, (keepEntry fuel bdb (.ofBytes fresh id minSize bytes)).run.answer memory =
        some (some entry) ∧
      (id ≠ .lfpDataPtrs → ∃ block, (find fuel bdb id).run.answer memory = some (some block) ∧
        bytes = (copyBlock bdb id.code block).answer memory) := by
  unfold initBdbBlock at h
  rw [answer_search_bind] at h
  obtain ⟨found, hFound, hKept⟩ := Option.bind_eq_some_iff.mp h
  cases found with
  | some block =>
      rw [answer_search_bind, answer_search_lift, Option.bind_some] at hKept
      exact ⟨_, hKept, fun _ => ⟨block, hFound, rfl⟩⟩
  | none =>
      dsimp only at hKept
      split at hKept
      · next hPtrs =>
          rw [answer_search_bind] at hKept
          obtain ⟨generated, -, hKept⟩ := Option.bind_eq_some_iff.mp hKept
          cases generated with
          | none => cases hKept
          | some ptrs => exact ⟨_, hKept, fun hOther => absurd hPtrs hOther⟩
      · cases hKept

theorem id_of_initBdbBlock {minSize : Nat} {id : BlockId} {entry : BlockEntry}
    (h : (initBdbBlock fuel bdb version fresh id minSize).run.answer memory = some (some entry)) :
    entry.id = id := by
  obtain ⟨bytes, hKept, -⟩ := kept_of_initBdbBlock h
  exact (answer_keepEntry hKept).1

/-- The sections that are left only add entries of their own. -/
theorem added_of_initBdbBlocks {rest : List BlockId} {blocks final : List BlockEntry}
    (h : (initBdbBlocks fuel bdb version fresh rest blocks).run.answer memory = some final) :
    ∃ added, final = blocks ++ added ∧ ∀ entry ∈ added, entry.id ∈ rest := by
  induction rest generalizing blocks with
  | nil =>
      cases h
      exact ⟨[], (List.append_nil _).symm, fun _ hMem => absurd hMem List.not_mem_nil⟩
  | cons id rest ih =>
      rw [initBdbBlocks, answer_search_bind] at h
      obtain ⟨entry, hEntry, hRest⟩ := Option.bind_eq_some_iff.mp h
      obtain ⟨added, rfl, hAdded⟩ := ih hRest
      refine ⟨entry.toList ++ added, List.append_assoc _ _ _, fun other hOther => ?_⟩
      rcases List.mem_append.mp hOther with hFirst | hLater
      · rw [Option.mem_toList] at hFirst
        rw [hFirst] at hEntry
        rw [id_of_initBdbBlock hEntry]
        exact List.mem_cons_self
      · exact List.mem_cons_of_mem id (hAdded other hLater)

/-- The sections before a certain one come first. -/
theorem split_of_initBdbBlocks {before rest : List BlockId} {blocks final : List BlockEntry}
    (h : (initBdbBlocks fuel bdb version fresh (before ++ rest) blocks).run.answer memory =
      some final) :
    ∃ kept, (initBdbBlocks fuel bdb version fresh before blocks).run.answer memory = some kept ∧
      (initBdbBlocks fuel bdb version fresh rest kept).run.answer memory = some final := by
  induction before generalizing blocks with
  | nil => exact ⟨blocks, rfl, h⟩
  | cons id before ih =>
      rw [List.cons_append, initBdbBlocks, answer_search_bind] at h
      obtain ⟨entry, hEntry, hRest⟩ := Option.bind_eq_some_iff.mp h
      obtain ⟨kept, hBefore, hAfter⟩ := ih hRest
      refine ⟨kept, ?_, hAfter⟩
      rw [initBdbBlocks, answer_search_bind, hEntry]
      exact hBefore

theorem bdbFindSection_eq_none {blocks : List BlockEntry} {id : BlockId}
    (h : ∀ entry ∈ blocks, entry.id ≠ id) : bdbFindSection blocks id = none := by
  rw [bdbFindSection, List.find?_eq_none]
  simpa using h

theorem bdbFindSection_append (first second : List BlockEntry) (id : BlockId) :
    bdbFindSection (first ++ second) id =
      (bdbFindSection first id).or (bdbFindSection second id) := List.find?_append

theorem bdbFindSection_toList {entry : Option BlockEntry} {id : BlockId}
    (h : ∀ kept ∈ entry, kept.id = id) : bdbFindSection entry.toList id = entry := by
  cases entry with
  | none => rfl
  | some kept =>
      rw [bdbFindSection, Option.toList_some, List.find?_cons_of_pos]
      simpa using h kept rfl

/-- The entry of a section is the one that its own step adds. -/
theorem step_of_initBdbBlocks {before after : List BlockId} {id : BlockId} {final : List BlockEntry}
    (h : (initBdbBlocks fuel bdb version fresh (before ++ id :: after) []).run.answer memory =
      some final) (hBefore : id ∉ before) (hAfter : id ∉ after) :
    ∃ kept added, final = kept ++ added ∧ (∀ entry ∈ added, entry.id ∈ id :: after) ∧
      (initBdbBlock fuel bdb version fresh id
        (if id = .lfpData then lfpDataMinSize kept else id.minSize)).run.answer memory =
          some (bdbFindSection final id) := by
  obtain ⟨kept, hKept, hRest⟩ := split_of_initBdbBlocks h
  obtain ⟨added, hFinal, hAdded⟩ := added_of_initBdbBlocks hRest
  refine ⟨kept, added, hFinal, hAdded, ?_⟩
  rw [initBdbBlocks, answer_search_bind] at hRest
  obtain ⟨entry, hEntry, hLater⟩ := Option.bind_eq_some_iff.mp hRest
  obtain ⟨more, rfl, hMore⟩ := added_of_initBdbBlocks hLater
  have hNoKept : bdbFindSection kept id = none := by
    obtain ⟨earlier, hEarlier, hIds⟩ := added_of_initBdbBlocks hKept
    rw [hEarlier, List.nil_append]
    exact bdbFindSection_eq_none fun other hOther hSame => hBefore (hSame ▸ hIds other hOther)
  have hNoMore : bdbFindSection more id = none :=
    bdbFindSection_eq_none fun other hOther hSame => hAfter (hSame ▸ hMore other hOther)
  have hOwn : bdbFindSection entry.toList id = entry := by
    refine bdbFindSection_toList fun other hOther => ?_
    rw [Option.mem_def.mp hOther] at hEntry
    exact id_of_initBdbBlock hEntry
  rw [bdbFindSection_append, bdbFindSection_append, hNoKept, hOwn, hNoMore, Option.none_or,
    Option.or_none]
  exact hEntry

/-- The entries of the pointers and of the panel data, each by its own step. -/
theorem entries_of_initBdbBlocks {blocks : List BlockEntry}
    (h : (initBdbBlocks fuel bdb version fresh bdbBlocks []).run.answer memory = some blocks) :
    (initBdbBlock fuel bdb version fresh .lfpDataPtrs BlockId.lfpDataPtrs.minSize).run.answer memory =
        some (bdbFindSection blocks .lfpDataPtrs) ∧
      (initBdbBlock fuel bdb version fresh .lfpData (lfpDataMinSize blocks)).run.answer memory =
        some (bdbFindSection blocks .lfpData) := by
  obtain ⟨afterPtrs, hPtrs⟩ := table_split .lfpDataPtrs
  obtain ⟨afterData, hData⟩ := table_split .lfpData
  have hDistinct : bdbBlocks.Nodup := by decide
  constructor
  · rw [hPtrs] at h hDistinct
    obtain ⟨-, hHead, hApart⟩ := List.nodup_append.mp hDistinct
    obtain ⟨kept, added, -, -, hStep⟩ := step_of_initBdbBlocks h
      (fun hMem => hApart _ hMem _ List.mem_cons_self rfl) (List.nodup_cons.mp hHead).1
    exact hStep
  · have hLater : .lfpDataPtrs ∉ BlockId.lfpData :: afterData := by
      intro hMem
      rw [hData] at hDistinct
      exact (List.nodup_append.mp hDistinct).2.2 _ (by decide) _ hMem rfl
    rw [hData] at h hDistinct
    obtain ⟨-, hHead, hApart⟩ := List.nodup_append.mp hDistinct
    obtain ⟨kept, added, hFinal, hAdded, hStep⟩ := step_of_initBdbBlocks h
      (fun hMem => hApart _ hMem _ List.mem_cons_self rfl) (List.nodup_cons.mp hHead).1
    have hNone : bdbFindSection added .lfpDataPtrs = none :=
      bdbFindSection_eq_none fun other hOther hSame => hLater (hSame ▸ hAdded other hOther)
    have hSize : lfpDataMinSize kept = lfpDataMinSize blocks := by
      rw [lfpDataMinSize, lfpDataMinSize, hFinal, bdbFindSection_append, hNone, Option.or_none]
    rw [if_pos rfl, hSize] at hStep
    exact hStep

theorem stored_patch (entry : BlockEntry) (ptrs : LfpDataPtrs) :
    Stored (entry.patch ptrs).payload 0 ptrs.bytes := by
  intro i hi
  show (if 3 ≤ 0 + i + 3 then ptrs.bytes.getD (0 + i + 3 - 3) (entry.memory (0 + i + 3))
    else entry.memory (0 + i + 3)) = _
  rw [if_pos (Nat.le_add_left 3 _), Nat.add_sub_cancel, Nat.zero_add, List.getD_eq_getElem _ _ hi]

/-- The pointers of the list have passed the checks. -/
theorem fixed_of_initBdbBlock {minSize : Nat} {ptrs : BlockEntry}
    (h : (initBdbBlock fuel bdb version fresh .lfpDataPtrs minSize).run.answer memory =
      some (some ptrs)) :
    ∃ raw fixed, (fixupLfpDataPtrs fuel bdb raw).run.answer memory = some (some fixed) ∧
      (LfpDataPtrs.read ptrs.payload 0).Same fixed := by
  obtain ⟨bytes, hKept, -⟩ := kept_of_initBdbBlock h
  obtain ⟨fixed, hFixed, hPatch⟩ := (answer_keepEntry hKept).2.2 rfl
  refine ⟨_, fixed, hFixed, ?_⟩
  obtain ⟨block, -, hRelative, -⟩ := found_of_fixup hFixed
  have hPacked : fixed.Packed := by
    rw [hRelative]
    exact LfpDataPtrs.packed_relative (LfpDataPtrs.packed_read _ _) block
  rw [hPatch]
  exact LfpDataPtrs.read_of_stored hPacked (stored_patch _ _)

theorem blocksize_of_id {memory : Memory} {block : Nat}
    (hId : u8 memory block = BlockId.lfpData.code) : blocksize memory block = u16 memory (block + 1) := by
  rw [blocksize, if_neg]
  rintro ⟨hMipi, -⟩
  rw [hId] at hMipi
  exact absurd hMipi (by decide)

/-- The size is one of the three header bytes that are copied. -/
theorem blocksize_of_header {copy memory : Memory} {block : Nat}
    (hId : u8 memory block = BlockId.lfpData.code) (hHeader : ∀ i < 3, copy i = memory (block + i)) :
    blocksize copy 0 = blocksize memory block := by
  have hFirst : u8 copy 0 = BlockId.lfpData.code := by
    rw [← hId, u8, hHeader 0 (by decide), Nat.add_zero, u8]
  rw [blocksize_of_id hFirst, blocksize_of_id hId, u16, u16, u8, u8, hHeader _ (by decide),
    hHeader _ (by decide)]
  rfl

/-- An entry begins with the bytes of its block. -/
theorem ofBytes_memory {id : BlockId} {minSize offset count i : Nat} (hi : i < count) :
    (BlockEntry.ofBytes fresh id minSize
      ((List.range count).map fun i => memory (offset + i))).memory i = memory (offset + i) := by
  have hLength : i < ((List.range count).map fun i => memory (offset + i)).length := by simpa using hi
  show List.getD _ i _ = _
  rw [List.getD_eq_getElem _ _ hLength, List.getElem_map, List.getElem_range]

/-- The copy of the panel data has the size of the block, and room for it and
for the structures. -/
theorem data_of_initBdbBlock {minSize : Nat} {data : BlockEntry}
    (h : (initBdbBlock fuel bdb version fresh .lfpData minSize).run.answer memory =
      some (some data)) :
    ∃ block, (find fuel bdb .lfpData).run.answer memory = some (some block) ∧
      data.size = blocksize memory (bdb + block - 3) ∧
      data.allocated = max minSize (blocksize memory (bdb + block - 3)) + 3 := by
  obtain ⟨bytes, hKept, hBytes⟩ := kept_of_initBdbBlock h
  obtain ⟨block, hFound, hCopy⟩ := hBytes (by decide)
  have hData : data = _ := (answer_keepEntry hKept).2.1 (show BlockId.lfpData ≠ _ by decide)
  refine ⟨block, hFound, ?_⟩
  obtain ⟨index, rfl, -, hStop, -⟩ := visits_of_find hFound
  have hId := id_of_stop hStop
  rw [copyBlock, Program.answer_bind, answer_copySize, copyLength,
    if_neg fun h => absurd h.1 (by decide), answer_readBytes] at hCopy
  rw [show bdb + (index + 3) - 3 = bdb + index by omega] at hCopy ⊢
  rw [hData, hCopy]
  constructor
  · refine blocksize_of_header hId fun i hi => ?_
    exact ofBytes_memory (by omega)
  · show max minSize (List.length _ - 3) + 3 = _
    rw [List.length_map, List.length_range, Nat.add_sub_cancel]

end Kept

/-! The parsers of the panel data, as programs that read its copy. -/

/-- `sizeof(struct bdb_edid_dtd)` bytes are read, and the mode filled in. -/
def readDetailTimingData (fresh : Mode) (dtd : Nat) : Read Mode := do
  let bytes ← readBytes dtd edidDtdSize
  return fillDetailTimingData fresh (fun i => bytes.getD i 0) 0

/-- The reads of `parse_lfp_panel_dtd`. -/
def readLfpPanelDtd (ptrs : BlockEntry) (fresh : Mode) (panel : Panel) : Read Panel := do
  let ptr := lfpDataPtr ptrs panel.panelType
  let mode ← readDetailTimingData fresh (ptr.dvoTiming.offset + 3)
  let stored := { panel with lfpVbtMode := .written mode }
  let fpTiming := ptr.fpTiming.offset + 3
  let xRes ← readU16 fpTiming
  if xRes = mode.h.display then do
    let yRes ← readU16 (fpTiming + 2)
    if yRes = mode.v.display then do
      let value ← readU32 (fpTiming + 8)
      return { stored with biosLvdsVal := value }
    else return stored
  else return stored

def readLfpMode (ptrs : BlockEntry) (fresh : Mode) (panel : Panel) : Read Panel :=
  match panel.lfpVbtMode with
  | .stale .null => readLfpPanelDtd ptrs fresh panel
  | _ => return panel

/-- The reads of `parse_lfp_data`, once both blocks are found. -/
def readLfpData (version : Nat) (ptrs : BlockEntry) (fresh : Mode) (panel : Panel) : Read Panel := do
  let stored ← readLfpMode ptrs fresh panel
  let panelName := (LfpDataPtrs.read ptrs.payload 0).panelName
  if panelName.size = 0 ∨ version < 188 then return stored
  else do
    let rate ← readU8 (entryOffset (panelName.offset + 210) 1 panel.panelType)
    return { stored with seamlessDrrsMinRefreshRate := rate }

section Reads

variable {memory : Memory} {fresh : Mode} {panel : Panel} {data ptrs : BlockEntry}

/-- The mode depends on the bytes of the structure only. -/
theorem fillDetailTimingData_congr {first second : Memory} {at' at'' : Nat}
    (h : ∀ i < edidDtdSize, first (at' + i) = second (at'' + i)) :
    fillDetailTimingData fresh first at' = fillDetailTimingData fresh second at'' := by
  have hByte : ∀ i < edidDtdSize, u8 first (at' + i) = u8 second (at'' + i) :=
    fun i hi => congrArg UInt8.toNat (h i hi)
  have hClock : u16 first at' = u16 second at'' := by
    unfold u16
    rw [hByte 1 (by decide)]
    exact congrArg (· + _) (hByte 0 (by decide))
  unfold fillDetailTimingData
  simp only [hClock, hByte 2 (by decide), hByte 3 (by decide), hByte 4 (by decide),
    hByte 5 (by decide), hByte 6 (by decide), hByte 7 (by decide), hByte 8 (by decide),
    hByte 9 (by decide), hByte 10 (by decide), hByte 11 (by decide), hByte 12 (by decide),
    hByte 13 (by decide), hByte 14 (by decide), hByte 17 (by decide)]

theorem answer_readDetailTimingData (dtd : Nat) :
    (readDetailTimingData fresh dtd).answer memory = fillDetailTimingData fresh memory dtd := by
  unfold readDetailTimingData
  rw [Program.answer_bind, answer_readBytes]
  apply fillDetailTimingData_congr
  intro i hi
  have hLength : i < ((List.range edidDtdSize).map fun i => memory (dtd + i)).length := by simpa using hi
  rw [Nat.zero_add, List.getD_eq_getElem _ _ hLength, List.getElem_map, List.getElem_range]

/-- The reads of a parser return what the parser computes from the copy. -/
theorem answer_readLfpPanelDtd :
    (readLfpPanelDtd ptrs fresh panel).answer data.memory = parseLfpPanelDtd data ptrs fresh panel := by
  have hMode : ∀ dtd, fillDetailTimingData fresh data.memory (dtd + 3) =
      fillDetailTimingData fresh data.payload dtd := by
    intro dtd
    apply fillDetailTimingData_congr
    intro i _
    rw [Nat.add_right_comm]
    rfl
  unfold readLfpPanelDtd parseLfpPanelDtd
  dsimp only
  rw [Program.answer_bind, answer_readDetailTimingData, hMode, Program.answer_bind, answer_readU16,
    u16_payload, u16_payload, u32_payload, Nat.add_right_comm _ 2 3, Nat.add_right_comm _ 8 3]
  generalize fillDetailTimingData fresh data.payload _ = mode
  generalize (lfpDataPtr ptrs panel.panelType).fpTiming.offset = fpTiming
  by_cases hX : u16 data.memory (fpTiming + 3) = mode.h.display
  · rw [if_pos hX, Program.answer_bind, answer_readU16]
    by_cases hY : u16 data.memory (fpTiming + 3 + 2) = mode.v.display
    · rw [if_pos hY, if_pos ⟨hX, hY⟩, Program.answer_bind, answer_readU32]
      rfl
    · rw [if_neg hY, if_neg fun h => hY h.2]
      rfl
  · rw [if_neg hX, if_neg fun h => hX h.1]
    rfl

theorem answer_readLfpMode :
    (readLfpMode ptrs fresh panel).answer data.memory = parseLfpMode data ptrs fresh panel := by
  unfold readLfpMode
  split
  · next hNull =>
      rw [parseLfpMode, hNull]
      exact answer_readLfpPanelDtd
  · next hOther =>
      rw [parseLfpMode_of_set hOther]
      rfl

theorem answer_readLfpData {version : Nat} {blocks : List BlockEntry}
    (hPtrs : bdbFindSection blocks .lfpDataPtrs = some ptrs)
    (hData : bdbFindSection blocks .lfpData = some data) :
    (readLfpData version ptrs fresh panel).answer data.memory =
      parseLfpData version blocks fresh panel := by
  unfold readLfpData
  simp only [parseLfpData, hPtrs, hData, Program.answer_bind, answer_readLfpMode]
  split
  · rfl
  · rfl

/-- A record whose tables lie inside is read inside. -/
theorem inside_readLfpPanelDtd {size : Nat}
    (hDvo : (lfpDataPtr ptrs panel.panelType).dvoTiming.offset + edidDtdSize ≤ size)
    (hFp : (lfpDataPtr ptrs panel.panelType).fpTiming.offset + 12 ≤ size) :
    Inside (size + 3) memory (readLfpPanelDtd ptrs fresh panel) := by
  unfold readLfpPanelDtd readDetailTimingData
  unfold edidDtdSize at hDvo ⊢
  simp only [inside_bind_iff]
  refine ⟨⟨inside_readBytes_iff.mpr (by omega), inside_done _⟩, inside_readU16_iff.mpr (by omega), ?_⟩
  split
  · refine inside_bind_iff.mpr ⟨inside_readU16_iff.mpr (by omega), ?_⟩
    split
    · refine inside_bind_iff.mpr ⟨inside_readU32_iff.mpr (by omega), inside_done _⟩
    · exact inside_done _
  · exact inside_done _

theorem inside_readLfpData {version size : Nat}
    (hDvo : (lfpDataPtr ptrs panel.panelType).dvoTiming.offset + edidDtdSize ≤ size)
    (hFp : (lfpDataPtr ptrs panel.panelType).fpTiming.offset + 12 ≤ size)
    (hTail : (LfpDataPtrs.read ptrs.payload 0).panelName.size ≠ 0 →
      entryOffset ((LfpDataPtrs.read ptrs.payload 0).panelName.offset + 210) 1 panel.panelType <
        size + 3) :
    Inside (size + 3) memory (readLfpData version ptrs fresh panel) := by
  unfold readLfpData
  refine inside_bind_iff.mpr ⟨?_, ?_⟩
  · unfold readLfpMode
    split
    · exact inside_readLfpPanelDtd hDvo hFp
    · exact inside_done _
  · dsimp only
    split
    · exact inside_done _
    · next hName =>
        refine inside_bind_iff.mpr ⟨inside_readU8_iff.mpr (hTail fun hNone => hName (.inl hNone)), ?_⟩
        exact inside_done _

end Reads

section Sound

/-- The index of a panel below sixteen is not wrapped around. -/
theorem entryOffset_of_lt {base stride : Nat} {panelType : Int} (hPositive : 0 ≤ panelType)
    (hPanel : panelType < 16) (hBase : base < 2 ^ 32) (hStride : stride < 2 ^ 8) :
    entryOffset base stride panelType = 3 + (base + stride * panelType.toNat) := by
  obtain ⟨panel, rfl⟩ := Int.eq_ofNat_of_zero_le hPositive
  have hProduct : stride * panel ≤ 2 ^ 8 * 16 := Nat.mul_le_mul (by omega) (by omega)
  unfold entryOffset
  rw [Int.toNat_natCast, Int.emod_eq_of_lt]
  · omega
  · omega
  · omega

theorem LfpTable.read_payload (entry : BlockEntry) (offset : Nat) :
    LfpTable.read entry.memory (3 + offset) = .read entry.payload offset := by
  unfold LfpTable.read
  rw [u16_payload, u8, u8, BlockEntry.payload, Nat.add_assoc, Nat.add_comm 3, Nat.add_comm 3]

theorem LfpDataPtr.read_payload (entry : BlockEntry) (offset : Nat) :
    LfpDataPtr.read entry.memory (3 + offset) = .read entry.payload offset := by
  unfold LfpDataPtr.read
  rw [Nat.add_assoc 3 offset 3, Nat.add_assoc 3 offset 6, LfpTable.read_payload,
    LfpTable.read_payload, LfpTable.read_payload]

/-- The pointers of a panel are those of its entry. -/
theorem lfpDataPtr_of_same {ptrs : BlockEntry} {fixed : LfpDataPtrs} {panelType : Int}
    (same : (LfpDataPtrs.read ptrs.payload 0).Same fixed) (hPositive : 0 ≤ panelType)
    (hPanel : panelType < 16) : lfpDataPtr ptrs panelType = fixed.ptr panelType.toNat := by
  rw [← same.ptr panelType.toNat (by omega), lfpDataPtr,
    entryOffset_of_lt hPositive hPanel (by decide) (by decide), LfpDataPtr.read_payload]
  show _ = LfpDataPtr.read ptrs.payload (0 + 1 + 9 * panelType.toNat)
  rw [Nat.zero_add]

/-- Pointers that are accepted describe sixteen disjoint records inside the
panel data, and all that is then read of the copy, for a panel type below
sixteen, lies inside the memory of the copy. -/
theorem lfp_pointers_sound (memory : Memory) (fuel bdb version : Nat) (fresh : Fresh) :
    (∀ ptrs fixed,
      (fixupLfpDataPtrs fuel bdb ptrs).run.answer memory = some (some fixed) →
      ∃ block, (find fuel bdb .lfpData).run.answer memory = some (some block) ∧
        fixed.LaidOut (blocksize memory (bdb + block - 3))) ∧
    (∀ blocks data,
      (initBdbBlocks fuel bdb version fresh bdbBlocks []).run.answer memory = some blocks →
      bdbFindSection blocks .lfpData = some data →
      data.allocated = max (lfpDataMinSize blocks) data.size + 3 ∧
        ∀ ptrs mode (panel : Panel), bdbFindSection blocks .lfpDataPtrs = some ptrs →
          0 ≤ panel.panelType → panel.panelType < 16 →
          (readLfpData version ptrs mode panel).answer data.memory =
              parseLfpData version blocks mode panel ∧
            Inside data.allocated data.memory (readLfpData version ptrs mode panel)) := by
  constructor
  · intro ptrs fixed hFixed
    obtain ⟨block, hFound, -, hConsistent⟩ := found_of_fixup hFixed
    exact ⟨block, hFound, LfpDataPtrs.laidOut_of_consistent hConsistent⟩
  · intro blocks data hBlocks hData
    obtain ⟨hPtrsStep, hDataStep⟩ := entries_of_initBdbBlocks hBlocks
    rw [hData] at hDataStep
    obtain ⟨block, hFound, hSize, hAllocated⟩ := data_of_initBdbBlock hDataStep
    rw [hAllocated, hSize]
    refine ⟨rfl, fun ptrs mode panel hPtrs hPositive hPanel => ⟨answer_readLfpData hPtrs hData, ?_⟩⟩
    rw [hPtrs] at hPtrsStep
    obtain ⟨raw, fixed, hFixed, same⟩ := fixed_of_initBdbBlock hPtrsStep
    obtain ⟨other, hOther, -, hConsistent⟩ := found_of_fixup hFixed
    cases hFound.symm.trans hOther
    have hPtr := lfpDataPtr_of_same same hPositive hPanel
    have hEntry : panel.panelType.toNat < 16 := by omega
    have hPadded := (LfpDataPtrs.fits_of_consistent hConsistent).1
    have laidOut := LfpDataPtrs.laidOut_of_consistent hConsistent
    have hFp := (LfpDataPtrs.fits_of_consistent hConsistent).2 _ hEntry
    have hDvo := laidOut.inside (fixed.ptr panel.panelType.toNat).dvoTiming
      (List.mem_flatMap.mpr ⟨_, List.mem_range.mpr hEntry, by simp [LfpDataPtrs.tables]⟩)
    rw [laidOut.dvoTimingSize _ hEntry] at hDvo
    apply inside_readLfpData
    · rw [hPtr]
      exact Nat.le_trans hDvo (Nat.le_max_right _ _)
    · rw [hPtr]
      omega
    · intro hName
      have hOffset := (LfpDataPtrs.packed_read ptrs.payload 0).panelName.1
      rw [entryOffset_of_lt hPositive hPanel (by omega) (by decide), lfpDataMinSize, hPtrs]
      dsimp only
      rw [if_neg hName]
      unfold lfpDataTailSize
      omega

end Sound

section Terminated

/-- The sections of that BDB, with the pointers that are made up for it. -/
def terminatedBlocks : Option (List BlockEntry) :=
  (initBdbBlocks 2 0 155 ⟨fun _ _ => 0, .zeroed⟩ bdbBlocks []).run.answer terminatedBdb

def lastPanel : Panel := { Panel.cleared with panelType := 15 }

theorem terminatedBlocks_sections : ∃ blocks data ptrs, terminatedBlocks = some blocks ∧
    bdbFindSection blocks .lfpData = some data ∧ bdbFindSection blocks .lfpDataPtrs = some ptrs := by
  have hWalks : ∀ id ∈ bdbBlocks, ((find 2 0 id).run.answer terminatedBdb).isSome = true := by
    decide +kernel
  have hAnswers (id : BlockId) (hMem : id ∈ bdbBlocks) : Answers terminatedBdb (find 2 0 id) :=
    Option.isSome_iff_exists.mp (hWalks id hMem)
  obtain ⟨blocks, hBlocks⟩ := answers_initBdbBlocks (hAnswers .lfpData (by decide)) hAnswers []
  obtain ⟨hPtrs, hData⟩ := entries_of_initBdbBlocks hBlocks
  have hFound : (find 2 0 .lfpData).run.answer terminatedBdb = some (some 25) := by decide +kernel
  have hVersion : 155 ≤ 155 := Nat.le_refl _
  obtain ⟨ptrs, hEntry⟩ := @initBdbBlock_generated terminatedBdb 2 0 155 25 ⟨fun _ _ => 0, .zeroed⟩
    BlockId.lfpDataPtrs.minSize rfl hVersion (by decide +kernel) hFound (by decide +kernel)
  rw [if_pos (by decide), hPtrs] at hEntry
  rw [initBdbBlock, answer_search_bind, hFound, Option.bind_some, answer_search_bind,
    answer_search_lift, Option.bind_some] at hData
  exact ⟨blocks, _, ptrs, hBlocks, (Option.some.inj hData).symm, Option.some.inj hEntry⟩

/-- The tables are laid out, and the last panel is read inside of the copy. -/
theorem lfp_pointers_sound_generated : ∃ (blocks : List BlockEntry) (data ptrs : BlockEntry),
    terminatedBlocks = some blocks ∧
      (∃ (fixed : LfpDataPtrs) (block : Nat), fixed.LaidOut (blocksize terminatedBdb (0 + block - 3)) ∧
        (find 2 0 .lfpData).run.answer terminatedBdb = some (some block)) ∧
      data.allocated = max (lfpDataMinSize blocks) data.size + 3 ∧
      ∀ mode, (readLfpData 155 ptrs mode lastPanel).answer data.memory =
          parseLfpData 155 blocks mode lastPanel ∧
        Inside data.allocated data.memory (readLfpData 155 ptrs mode lastPanel) := by
  obtain ⟨blocks, data, ptrs, hBlocks, hData, hPtrs⟩ := terminatedBlocks_sections
  have hStep := (entries_of_initBdbBlocks hBlocks).1
  rw [hPtrs] at hStep
  obtain ⟨raw, fixed, hFixed, -⟩ := fixed_of_initBdbBlock hStep
  have sound := lfp_pointers_sound terminatedBdb 2 0 155 ⟨fun _ _ => 0, .zeroed⟩
  obtain ⟨block, hFound, laidOut⟩ := sound.1 _ fixed hFixed
  obtain ⟨hAllocated, hReads⟩ := sound.2 blocks data hBlocks hData
  exact ⟨blocks, data, ptrs, hBlocks, ⟨fixed, block, laidOut, hFound⟩, hAllocated,
    fun mode => hReads ptrs mode lastPanel hPtrs (by decide) (by decide)⟩

end Terminated

end NootedBlue.Vbt
