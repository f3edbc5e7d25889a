import NootedBlue.Vbt.Blocks

/-! Which bytes of the VBT are read. No length is compared with the size of
the VBT, so the reads stay inside it exactly when all the headers on the way
and all the blocks that are copied happen to lie inside. -/
namespace NootedBlue.Vbt

open Interaction Bytes

section Fields

variable (memory : Memory) (size bdb : Nat)

/-- Where the bytes end that `_get_blocksize` looks at. -/
def fieldEnd (block : Nat) : Nat :=
  if IsMipi3 memory block then 8 else if u8 memory block = mipiSequence then 4 else 3

/-- The size fields of all blocks that the walk for a section looks at lie
inside the VBT. -/
def FieldsInside (sectionId : Nat) : Prop :=
  ∀ index, Visits (walkStep memory bdb sectionId) (headerSize memory bdb) index →
    (index + 3) % 2 ^ 32 < bdbSize memory bdb →
    bdb + index + fieldEnd memory (bdb + index) ≤ size

/-- The length of the copy of a block behind its three header bytes. -/
def copyLength (sectionId block : Nat) : Nat :=
  if sectionId = mipiSequence ∧ 3 ≤ u8 memory (block + 3) then blocksize memory block + 5
  else blocksize memory block

/-- The block at which the walk for a section stops lies inside the VBT, with
all that is copied of it. -/
def CopyInside (sectionId : Nat) : Prop :=
  ∀ index, Visits (walkStep memory bdb sectionId) (headerSize memory bdb) index →
    walkStep memory bdb sectionId index = .stop (some (index + 3)) →
    bdb + index + 3 + copyLength memory sectionId (bdb + index) ≤ size

/-- The walk for a section comes to an end. -/
def Ends (id : BlockId) : Prop := ∃ fuel, Answers memory (find fuel bdb id)

/-- The setup comes to a section when the walks for all earlier ones end. -/
def Reached (id : BlockId) : Prop :=
  ∀ other ∈ bdbBlocks.takeWhile (· ≠ id), Ends memory bdb other

/-- Every header and every block that the setup goes by lies inside the VBT. -/
structure HeadersInside : Prop where
  vbtHeader : bdbOffsetOffset + 4 ≤ size
  bdbHeader : u32 memory bdbOffsetOffset + bdbSizeOffset + 2 ≤ size
  fields : ∀ id, Reached memory (u32 memory bdbOffsetOffset) id →
    FieldsInside memory size (u32 memory bdbOffsetOffset) id.code
  copies : ∀ id, Reached memory (u32 memory bdbOffsetOffset) id →
    CopyInside memory size (u32 memory bdbOffsetOffset) id.code

end Fields

section Walk

variable {memory : Memory} {size bdb : Nat}

theorem inside_getBlocksize_iff {block : Nat} :
    Inside size memory (getBlocksize block) ↔ block + fieldEnd memory block ≤ size := by
  unfold getBlocksize fieldEnd
  rw [inside_bind_iff, answer_readU8, inside_readU8_iff]
  by_cases hId : u8 memory block = mipiSequence
  · rw [if_pos hId, inside_bind_iff, answer_readU8, inside_readU8_iff, if_pos hId]
    by_cases hVersion : u8 memory (block + 3) ≥ 3
    · have hMipi : IsMipi3 memory block := ⟨hId, hVersion⟩
      rw [if_pos hVersion, if_pos hMipi, inside_readU32_iff]
      omega
    · rw [if_neg hVersion, if_neg (fun h : IsMipi3 memory block => hVersion h.2),
        inside_readU16_iff]
      omega
  · rw [if_neg hId, if_neg (fun h : IsMipi3 memory block => hId h.1), if_neg hId,
      inside_readU16_iff]
    omega

theorem inside_walkIteration_iff {sectionId total index : Nat} :
    Inside size memory (walkIteration bdb sectionId total index) ↔
      ((index + 3) % 2 ^ 32 < total → bdb + index + fieldEnd memory (bdb + index) ≤ size) := by
  unfold walkIteration
  by_cases hInside : (index + 3) % 2 ^ 32 < total
  · rw [if_pos hInside, inside_bind_iff, inside_readU8_iff, inside_bind_iff,
      inside_getBlocksize_iff]
    have hPositive : 3 ≤ fieldEnd memory (bdb + index) := by
      unfold fieldEnd
      split
      · omega
      · split <;> omega
    have hRest : ∀ currentId currentSize, Inside size memory
        (if (index + 3 + currentSize) % 2 ^ 32 > total then return .stop none
          else if currentId = sectionId then return .stop (some (index + 3))
          else return .next ((index + 3 + currentSize) % 2 ^ 32) :
          Read (Iteration Nat (Option Nat))) := by
      intro currentId currentSize
      split
      · exact inside_done _
      · split <;> exact inside_done _
    constructor
    · intro h _
      exact h.2.1
    · intro h
      have hEnd := h hInside
      exact ⟨by omega, hEnd, hRest _ _⟩
  · rw [if_neg hInside]
    exact iff_of_true (inside_done _) fun h => absurd h hInside

/-- What the walk for a section reads, for any amount of fuel. -/
theorem inside_find_iff {id : BlockId} :
    (∀ fuel, Inside size memory (find fuel bdb id).run) ↔
      bdb + bdbSizeOffset + 1 < size ∧ FieldsInside memory size bdb id.code := by
  have hFind : ∀ fuel, Inside size memory (find fuel bdb id).run ↔
      bdb + headerSizeOffset + 1 < size ∧ bdb + bdbSizeOffset + 1 < size ∧
        Inside size memory (loop (walkIteration bdb id.code (bdbSize memory bdb)) fuel
          (headerSize memory bdb)) := by
    intro fuel
    change Inside size memory (findRawSection fuel bdb id.code) ↔ _
    unfold findRawSection
    rw [inside_bind_iff, inside_bind_iff, inside_readU16_iff, inside_readU16_iff]
    rfl
  have hLoop : (∀ fuel, Inside size memory
      (loop (walkIteration bdb id.code (bdbSize memory bdb)) fuel (headerSize memory bdb))) ↔
      FieldsInside memory size bdb id.code := by
    constructor
    · intro h index visits
      apply inside_walkIteration_iff.mp
      intro offset hMem
      obtain ⟨fuel, hAsked⟩ := mem_asked_loop_iff.mpr ⟨index, visits, hMem⟩
      exact h fuel offset hAsked
    · intro h fuel offset hMem
      obtain ⟨index, visits, hAsked⟩ := mem_asked_loop_iff.mp ⟨fuel, hMem⟩
      exact inside_walkIteration_iff.mpr (h index visits) offset hAsked
  rw [← hLoop]
  constructor
  · intro h
    exact ⟨((hFind 0).mp (h 0)).2.1, fun fuel => ((hFind fuel).mp (h fuel)).2.2⟩
  · intro ⟨hSize, h⟩ fuel
    refine (hFind fuel).mpr ⟨?_, hSize, h fuel⟩
    unfold headerSizeOffset bdbSizeOffset at *
    omega

/-- Less fuel does not read more. -/
theorem inside_find_of_le {fuel more : Nat} {id : BlockId} (hLe : fuel ≤ more)
    (h : Inside size memory (find more bdb id).run) :
    Inside size memory (find fuel bdb id).run := by
  change Inside size memory (findRawSection more bdb id.code) at h
  change Inside size memory (findRawSection fuel bdb id.code)
  unfold findRawSection at h ⊢
  rw [inside_bind_iff, inside_bind_iff] at h ⊢
  exact ⟨h.1, h.2.1, fun offset hMem => h.2.2 offset (mem_asked_loop_mono hLe hMem)⟩

theorem answer_find (fuel : Nat) (id : BlockId) :
    (find fuel bdb id).run.answer memory =
      iterate (walkStep memory bdb id.code) fuel (headerSize memory bdb) :=
  answer_findRawSection memory fuel bdb id.code

/-- A block that is found is the one at which the walk stops. -/
theorem visits_of_find {fuel block : Nat} {id : BlockId}
    (h : (find fuel bdb id).run.answer memory = some (some block)) :
    ∃ index, block = index + 3 ∧
      Visits (walkStep memory bdb id.code) (headerSize memory bdb) index ∧
      walkStep memory bdb id.code index = .stop (some (index + 3)) ∧
      (index + 3) % 2 ^ 32 < bdbSize memory bdb := by
  rw [answer_find] at h
  obtain ⟨index, visits, hStop⟩ := iterate_eq_some_iff.mp ⟨fuel, h⟩
  have hStep := hStop
  rw [walkStep_eq] at hStep
  split at hStep
  · next hInside =>
      split at hStep
      · cases hStep
      · split at hStep
        · cases hStep
          exact ⟨index, rfl, visits, hStop, hInside⟩
        · cases hStep
  · cases hStep

theorem answer_copySize (sectionId index : Nat) :
    (copySize bdb sectionId (index + 3)).answer memory =
      copyLength memory sectionId (bdb + index) := by
  unfold copySize copyLength
  rw [Program.answer_bind, show bdb + (index + 3) - 3 = bdb + index by omega, answer_getBlocksize,
    ← Nat.add_assoc]
  by_cases hSection : sectionId = mipiSequence
  · rw [if_pos hSection, Program.answer_bind, answer_readU8]
    by_cases hVersion : u8 memory (bdb + index + 3) ≥ 3
    · rw [if_pos hVersion, if_pos ⟨hSection, hVersion⟩]
      rfl
    · rw [if_neg hVersion, if_neg fun h => hVersion h.2]
      rfl
  · rw [if_neg hSection, if_neg fun h => hSection h.1]
    rfl

theorem inside_copySize_iff {sectionId index : Nat} :
    Inside size memory (copySize bdb sectionId (index + 3)) ↔
      bdb + index + fieldEnd memory (bdb + index) ≤ size ∧
        (sectionId = mipiSequence → bdb + index + 3 < size) := by
  unfold copySize
  rw [inside_bind_iff, show bdb + (index + 3) - 3 = bdb + index by omega, inside_getBlocksize_iff,
    ← Nat.add_assoc]
  apply and_congr_right
  intro _
  by_cases hSection : sectionId = mipiSequence
  · rw [if_pos hSection, inside_bind_iff, inside_readU8_iff]
    exact ⟨fun h _ => h.1, fun h => ⟨h hSection, inside_done _⟩⟩
  · rw [if_neg hSection]
    exact iff_of_true (inside_done _) fun h => absurd h hSection

/-- What the copy of a block reads, at the index where the walk stopped. -/
theorem inside_copyBlock_iff {sectionId index : Nat} :
    Inside size memory (copyBlock bdb sectionId (index + 3)) ↔
      (bdb + index + fieldEnd memory (bdb + index) ≤ size ∧
        (sectionId = mipiSequence → bdb + index + 3 < size)) ∧
        bdb + index + 3 + copyLength memory sectionId (bdb + index) ≤ size := by
  unfold copyBlock
  rw [inside_bind_iff, inside_copySize_iff, answer_copySize,
    show bdb + (index + 3) - 3 = bdb + index by omega, inside_readBytes_iff]
  apply and_congr_right
  intro _
  omega

/-- The id byte at which the walk for a section stops is that of the section. -/
theorem id_of_stop {sectionId index : Nat}
    (h : walkStep memory bdb sectionId index = .stop (some (index + 3))) :
    u8 memory (bdb + index) = sectionId := by
  rw [walkStep_eq] at h
  split at h
  · split at h
    · cases h
    · split at h
      · next hId => exact hId
      · cases h
  · cases h

/-- A section whose headers and block lie inside is looked up and copied
inside. -/
theorem inside_copy_of_find {fuel block : Nat} {id : BlockId}
    (hFields : FieldsInside memory size bdb id.code) (hCopy : CopyInside memory size bdb id.code)
    (hFound : (find fuel bdb id).run.answer memory = some (some block)) :
    Inside size memory (copyBlock bdb id.code block) := by
  obtain ⟨index, rfl, visits, hStop, hInside⟩ := visits_of_find hFound
  have hField := hFields index visits hInside
  refine inside_copyBlock_iff.mpr ⟨⟨hField, fun hSection => ?_⟩, hCopy index visits hStop⟩
  have hId := (id_of_stop hStop).trans hSection
  have hEnd : 4 ≤ fieldEnd memory (bdb + index) := by
    unfold fieldEnd
    rw [if_pos hId]
    split <;> omega
  omega

end Walk

section PanelData

variable {memory : Memory} {size bdb : Nat}

/-- The timing tables that pass the checks lie inside the panel data. -/
theorem LfpDataPtrs.fits_of_consistent {ptrs : LfpDataPtrs} {blockSize : Nat}
    (h : ptrs.consistent blockSize = true) :
    32 ≤ ptrs.paddedSize ∧ ∀ i < 16, (ptrs.ptr i).fpTiming.offset + ptrs.paddedSize ≤ blockSize := by
  simp only [LfpDataPtrs.consistent, Bool.and_eq_true, List.all_eq_true, List.mem_range] at h
  obtain ⟨⟨⟨⟨⟨⟨-, hSizes⟩, -⟩, -⟩, -⟩, hFits⟩, -⟩ := h
  simp only [LfpDataPtrs.sizesKnown, Bool.and_eq_true, decide_eq_true_eq] at hSizes
  constructor
  · have hTiming := hSizes.1.1.1
    unfold LfpDataPtrs.paddedSize
    simp only
    split <;> omega
  · intro i hi
    have hFit := hFits i hi
    simp only [LfpDataPtrs.fitsAt, Bool.and_eq_true, decide_eq_true_eq] at hFit
    exact hFit.1.1

/-- The terminators lie inside the panel data. -/
theorem inside_terminatorsPresent {block blockSize : Nat} {ptrs : LfpDataPtrs}
    (hConsistent : ptrs.consistent blockSize = true) (hBlock : bdb + block + blockSize ≤ size)
    (entries : List Nat) (hEntries : ∀ i ∈ entries, i < 16) :
    Inside size memory (terminatorsPresent bdb block ptrs entries) := by
  obtain ⟨hPadded, hFits⟩ := LfpDataPtrs.fits_of_consistent hConsistent
  induction entries with
  | nil => exact inside_done _
  | cons i rest ih =>
      rw [terminatorsPresent, inside_bind_iff, inside_readU16_iff]
      have hFit := hFits i (hEntries i List.mem_cons_self)
      refine ⟨by omega, ?_⟩
      split
      · exact inside_done _
      · exact ih fun j hj => hEntries j (List.mem_cons_of_mem i hj)

/-- The panel data is looked up and read inside the VBT. -/
structure DataInside (memory : Memory) (size bdb : Nat) : Prop where
  walk : ∀ fuel, Inside size memory (find fuel bdb .lfpData).run
  copy : CopyInside memory size bdb BlockId.lfpData.code

theorem DataInside.fields (data : DataInside memory size bdb) :
    FieldsInside memory size bdb BlockId.lfpData.code :=
  (inside_find_iff.mp data.walk).2

/-- Where the panel data lies, once it is found. -/
theorem DataInside.found (data : DataInside memory size bdb) {fuel block : Nat}
    (hFound : (find fuel bdb .lfpData).run.answer memory = some (some block)) :
    Inside size memory (getBlocksize (bdb + block - 3)) ∧
      bdb + block + (getBlocksize (bdb + block - 3)).answer memory ≤ size := by
  obtain ⟨index, rfl, visits, hStop, hInside⟩ := visits_of_find hFound
  have hCopy := data.copy index visits hStop
  rw [show bdb + (index + 3) - 3 = bdb + index by omega, inside_getBlocksize_iff,
    answer_getBlocksize]
  refine ⟨data.fields index visits hInside, ?_⟩
  have hLength : copyLength memory BlockId.lfpData.code (bdb + index) =
      blocksize memory (bdb + index) := if_neg fun h => absurd h.1 (by decide)
  omega

theorem inside_generateLfpDataPtrs (data : DataInside memory size bdb) (fuel version : Nat)
    (fresh : LfpDataPtrs) :
    Inside size memory (generateLfpDataPtrs fuel bdb version fresh).run := by
  unfold generateLfpDataPtrs
  split
  · exact inside_done _
  · refine inside_search_bind_iff.mpr ⟨data.walk fuel, fun found hFound => ?_⟩
    cases found with
    | none => exact inside_done _
    | some block =>
        refine inside_lift_bind_iff.mpr ⟨(data.found hFound).1, ?_⟩
        split <;> exact inside_done _

theorem inside_validateLfpDataPtrs (data : DataInside memory size bdb) (fuel : Nat)
    (ptrs : LfpDataPtrs) : Inside size memory (validateLfpDataPtrs fuel bdb ptrs).run := by
  unfold validateLfpDataPtrs
  refine inside_search_bind_iff.mpr ⟨data.walk fuel, fun found hFound => ?_⟩
  cases found with
  | none => exact inside_done _
  | some block =>
      obtain ⟨hSize, hBlock⟩ := data.found hFound
      refine inside_lift_bind_iff.mpr ⟨hSize, ?_⟩
      split
      · next hConsistent =>
          apply inside_search_lift_iff.mpr
          exact inside_terminatorsPresent hConsistent hBlock _ fun i hi => List.mem_range.mp hi
      · exact inside_done _

theorem inside_rawBlockOffset (data : DataInside memory size bdb) (fuel : Nat) :
    Inside size memory (rawBlockOffset fuel bdb .lfpData).run := by
  refine inside_search_bind_iff.mpr ⟨data.walk fuel, fun found _ => ?_⟩
  cases found <;> exact inside_done _

theorem inside_keepEntry {fuel : Nat} {entry : BlockEntry}
    (hData : entry.id = .lfpDataPtrs → DataInside memory size bdb) :
    Inside size memory (keepEntry fuel bdb entry).run := by
  unfold keepEntry
  split
  · next hPtrs =>
      have data := hData hPtrs
      refine inside_search_bind_iff.mpr ⟨?_, fun fixed _ => ?_⟩
      · refine inside_search_bind_iff.mpr ⟨inside_rawBlockOffset data fuel, fun offset _ => ?_⟩
        split
        · refine inside_search_bind_iff.mpr ⟨inside_validateLfpDataPtrs data fuel _, ?_⟩
          intro valid _
          exact inside_done _
        · exact inside_done _
      · cases fixed <;> exact inside_done _
  · exact inside_done _

end PanelData

section Sections

variable {memory : Memory} {size bdb : Nat} {version : Nat} {fresh : Fresh}

theorem ends_of_answers {fuel minSize : Nat} {id : BlockId}
    (h : Answers memory (initBdbBlock fuel bdb version fresh id minSize)) : Ends memory bdb id := by
  obtain ⟨found, hFound, -⟩ := answers_bind_iff.mp h
  exact ⟨fuel, found, hFound⟩

/-- One section is looked up, copied and checked inside the VBT. -/
theorem inside_initBdbBlock {fuel minSize : Nat} {id : BlockId}
    (hWalk : ∀ fuel, Inside size memory (find fuel bdb id).run)
    (hCopy : CopyInside memory size bdb id.code)
    (hData : id = .lfpDataPtrs → Ends memory bdb id → DataInside memory size bdb) :
    Inside size memory (initBdbBlock fuel bdb version fresh id minSize).run := by
  unfold initBdbBlock
  refine inside_search_bind_iff.mpr ⟨hWalk fuel, fun found hFound => ?_⟩
  have hEnds : Ends memory bdb id := ⟨fuel, found, hFound⟩
  cases found with
  | some block =>
      have hFields := (inside_find_iff.mp hWalk).2
      refine inside_lift_bind_iff.mpr ⟨inside_copy_of_find hFields hCopy hFound, ?_⟩
      exact inside_keepEntry fun hPtrs => hData hPtrs hEnds
  | none =>
      dsimp only
      split
      · next hPtrs =>
          refine inside_search_bind_iff.mpr
            ⟨inside_generateLfpDataPtrs (hData hPtrs hEnds) _ _ _, fun generated _ => ?_⟩
          cases generated with
          | none => exact inside_done _
          | some ptrs => exact inside_keepEntry fun hId => hData hId hEnds
      · exact inside_done _

theorem takeWhile_of_split {before after : List BlockId} {id : BlockId}
    (h : bdbBlocks = before ++ id :: after) : bdbBlocks.takeWhile (· ≠ id) = before := by
  have hDistinct : (before ++ id :: after).Nodup := h ▸ (by decide : bdbBlocks.Nodup)
  rw [h, List.takeWhile_append_of_pos]
  · simp
  · intro other hOther
    have hNe : other ≠ id := by
      rintro rfl
      exact (List.nodup_append.mp hDistinct).2.2 other hOther other List.mem_cons_self rfl
    simpa using hNe

/-- The sections that are left of the table, once the earlier walks ended. -/
theorem inside_initBdbBlocks (inside : HeadersInside memory size)
    (hBdb : bdb = u32 memory bdbOffsetOffset) {before rest : List BlockId} (fuel : Nat)
    (blocks : List BlockEntry) (hTable : bdbBlocks = before ++ rest)
    (hBefore : ∀ other ∈ before, Ends memory bdb other) :
    Inside size memory (initBdbBlocks fuel bdb version fresh rest blocks).run := by
  subst hBdb
  have hWalk : ∀ id, Reached memory (u32 memory bdbOffsetOffset) id →
      ∀ fuel, Inside size memory (find fuel (u32 memory bdbOffsetOffset) id).run := by
    intro id hReached
    have hHeader := inside.bdbHeader
    exact inside_find_iff.mpr ⟨by omega, inside.fields id hReached⟩
  induction rest generalizing before blocks with
  | nil => exact inside_done _
  | cons id rest ih =>
      have hReached : Reached memory (u32 memory bdbOffsetOffset) id := by
        unfold Reached
        rwa [takeWhile_of_split hTable]
      refine inside_search_bind_iff.mpr ⟨?_, fun entry hEntry => ?_⟩
      · refine inside_initBdbBlock (hWalk id hReached) (inside.copies id hReached) ?_
        intro hPtrs hEnds
        subst hPtrs
        have hData : Reached memory (u32 memory bdbOffsetOffset) .lfpData := by
          intro other hOther
          have hSplit : bdbBlocks.takeWhile (· ≠ .lfpData) =
              bdbBlocks.takeWhile (· ≠ .lfpDataPtrs) ++ [.lfpDataPtrs] := by decide
          rw [hSplit, List.mem_append, List.mem_singleton] at hOther
          rcases hOther with hEarlier | rfl
          · exact hReached other hEarlier
          · exact hEnds
        exact ⟨hWalk _ hData, inside.copies _ hData⟩
      · have hNext : bdbBlocks = (before ++ [id]) ++ rest := by rw [hTable, List.append_assoc]; rfl
        refine ih _ hNext ?_
        intro other hOther
        rcases List.mem_append.mp hOther with hEarlier | hLast
        · exact hBefore other hEarlier
        · rw [List.mem_singleton.mp hLast]
          exact ends_of_answers ⟨entry, hEntry⟩

/-- The checks of the pointers end when the walk for the panel data does. -/
theorem answers_keepEntry {fuel : Nat} {entry : BlockEntry}
    (hData : entry.id = .lfpDataPtrs → Answers memory (find fuel bdb .lfpData)) :
    Answers memory (keepEntry fuel bdb entry) := by
  unfold keepEntry
  split
  · next hPtrs =>
      have data := hData hPtrs
      refine answers_bind ?_ fun fixed => by cases fixed <;> exact answers_pure _
      refine answers_bind (answers_bind data fun found => ?_) fun offset => ?_
      · cases found <;> exact answers_pure _
      · split
        · refine answers_bind (answers_bind data fun found => ?_) fun valid => answers_pure _
          cases found with
          | none => exact answers_pure _
          | some block =>
              apply answers_lift_bind_iff.mpr
              split
              · exact ⟨_, answer_search_lift _⟩
              · exact answers_pure _
        · exact answers_pure _
  · exact answers_pure _

theorem answers_initBdbBlock {fuel minSize : Nat} {id : BlockId}
    (hFind : Answers memory (find fuel bdb id))
    (hData : id = .lfpDataPtrs → Answers memory (find fuel bdb .lfpData)) :
    Answers memory (initBdbBlock fuel bdb version fresh id minSize) := by
  refine answers_bind hFind fun found => ?_
  cases found with
  | some block =>
      apply answers_lift_bind_iff.mpr
      exact answers_keepEntry hData
  | none =>
      dsimp only
      split
      · next hPtrs =>
          refine answers_bind ?_ fun generated => ?_
          · unfold generateLfpDataPtrs
            split
            · exact answers_pure _
            · refine answers_bind (hData hPtrs) fun found => ?_
              cases found with
              | none => exact answers_pure _
              | some block =>
                  apply answers_lift_bind_iff.mpr
                  split <;> exact answers_pure _
          · cases generated with
            | none => exact answers_pure _
            | some ptrs => exact answers_keepEntry hData
      · exact answers_pure _

/-- The step for the pointers either ends or looks up the panel data. -/
theorem answers_or_inside_data {fuel minSize : Nat}
    (hFind : Answers memory (find fuel bdb .lfpDataPtrs))
    (hInside : Inside size memory
      (initBdbBlock fuel bdb version fresh .lfpDataPtrs minSize).run) :
    Answers memory (initBdbBlock fuel bdb version fresh .lfpDataPtrs minSize) ∨
      Inside size memory (find fuel bdb .lfpData).run := by
  obtain ⟨found, hFound⟩ := hFind
  have hRest := (inside_search_bind_iff.mp hInside).2 found hFound
  cases found with
  | some block =>
      have hKeep := (inside_lift_bind_iff.mp hRest).2
      unfold keepEntry at hKeep
      rw [if_pos (by rfl)] at hKeep
      have hFixup := (inside_search_bind_iff.mp hKeep).1
      have hOffset := (inside_search_bind_iff.mp hFixup).1
      exact .inr (inside_search_bind_iff.mp hOffset).1
  | none =>
      by_cases hOld : version < 155
      · refine .inl (answers_bind_iff.mpr ⟨none, hFound, ?_⟩)
        dsimp only
        rw [if_pos rfl, generateLfpDataPtrs, if_pos hOld]
        exact answers_pure _
      · dsimp only at hRest
        rw [if_pos rfl] at hRest
        have hGenerate := (inside_search_bind_iff.mp hRest).1
        rw [generateLfpDataPtrs, if_neg hOld] at hGenerate
        exact .inr (inside_search_bind_iff.mp hGenerate).1

/-- What the whole table reads includes what its later part reads, once the
steps before have ended. -/
theorem inside_rest_of_answers {fuel : Nat} {before rest : List BlockId} {blocks : List BlockEntry}
    (hBefore : ∀ other ∈ before, ∀ minSize,
      Answers memory (initBdbBlock fuel bdb version fresh other minSize))
    (h : Inside size memory (initBdbBlocks fuel bdb version fresh (before ++ rest) blocks).run) :
    ∃ kept, Inside size memory (initBdbBlocks fuel bdb version fresh rest kept).run := by
  induction before generalizing blocks with
  | nil => exact ⟨blocks, h⟩
  | cons id before ih =>
      have hSplit := inside_search_bind_iff.mp h
      obtain ⟨entry, hEntry⟩ := hBefore id List.mem_cons_self _
      exact ih (fun other hOther => hBefore other (List.mem_cons_of_mem id hOther))
        (hSplit.2 entry hEntry)

theorem answers_find_mono {fuel more : Nat} {id : BlockId} (hLe : fuel ≤ more)
    (h : Answers memory (find fuel bdb id)) : Answers memory (find more bdb id) := by
  obtain ⟨found, hFound⟩ := h
  rw [answer_find] at hFound
  exact ⟨found, (answer_find more id).trans (iterate_mono hLe hFound)⟩

/-- Walks that all end do so with one amount of fuel. -/
theorem exists_fuel (sections : List BlockId) (h : ∀ id ∈ sections, Ends memory bdb id) :
    ∃ fuel, ∀ more ≥ fuel, ∀ id ∈ sections, Answers memory (find more bdb id) := by
  induction sections with
  | nil => exact ⟨0, fun _ _ id hId => absurd hId List.not_mem_nil⟩
  | cons first rest ih =>
      obtain ⟨fuel, hRest⟩ := ih fun id hId => h id (List.mem_cons_of_mem first hId)
      obtain ⟨own, hOwn⟩ := h first List.mem_cons_self
      refine ⟨max fuel own, fun more hMore id hId => ?_⟩
      rcases List.mem_cons.mp hId with rfl | hLater
      · exact answers_find_mono (by omega) hOwn
      · exact hRest more (by omega) id hLater

/-- Every walk ends when all sections have been looked up. -/
theorem ends_of_initBdbBlocks {fuel : Nat} {rest : List BlockId} {blocks : List BlockEntry}
    (h : Answers memory (initBdbBlocks fuel bdb version fresh rest blocks)) :
    ∀ id ∈ rest, Ends memory bdb id := by
  induction rest generalizing blocks with
  | nil => exact fun _ hId => absurd hId List.not_mem_nil
  | cons first rest ih =>
      obtain ⟨entry, hEntry, hRest⟩ := answers_bind_iff.mp h
      intro id hId
      cases List.mem_cons.mp hId with
      | inl hFirst =>
          rw [hFirst]
          exact ends_of_answers ⟨entry, hEntry⟩
      | inr hLater => exact ih hRest id hLater

theorem answers_initBdbBlocks {fuel : Nat} (hData : Answers memory (find fuel bdb .lfpData))
    {rest : List BlockId} (hRest : ∀ id ∈ rest, Answers memory (find fuel bdb id))
    (blocks : List BlockEntry) :
    Answers memory (initBdbBlocks fuel bdb version fresh rest blocks) := by
  induction rest generalizing blocks with
  | nil => exact answers_pure _
  | cons first rest ih =>
      apply answers_bind
      · exact answers_initBdbBlock (hRest first List.mem_cons_self) fun _ => hData
      · intro entry
        exact ih (fun id hId => hRest id (List.mem_cons_of_mem first hId)) _

theorem answers_readVbt_split {fuel : Nat} :
    Answers memory (readVbt fuel fresh) ↔
      Answers memory (initBdbBlocks fuel (u32 memory bdbOffsetOffset)
        (u16 memory (u32 memory bdbOffsetOffset + versionOffset)) fresh bdbBlocks []) := by
  unfold readVbt
  rw [answers_lift_bind_iff, answers_lift_bind_iff, answers_bind_iff]
  constructor
  · intro ⟨blocks, hBlocks, _⟩
    exact ⟨blocks, hBlocks⟩
  · intro ⟨blocks, hBlocks⟩
    exact ⟨blocks, hBlocks, answers_pure _⟩

/-- The blocks are read to the end exactly when every walk ends. -/
theorem answers_readVbt_iff :
    (∃ fuel, Answers memory (readVbt fuel fresh)) ↔
      ∀ id, Ends memory (u32 memory bdbOffsetOffset) id := by
  have hTable : ∀ id, id ∈ bdbBlocks := by
    intro id
    cases id <;> decide
  constructor
  · intro ⟨fuel, h⟩ id
    exact ends_of_initBdbBlocks (answers_readVbt_split.mp h) id (hTable id)
  · intro h
    obtain ⟨fuel, hFuel⟩ := exists_fuel bdbBlocks fun id _ => h id
    have hFind := hFuel fuel (Nat.le_refl fuel)
    exact ⟨fuel, answers_readVbt_split.mpr
      (answers_initBdbBlocks (hFind _ (hTable _)) hFind [])⟩

theorem table_split (id : BlockId) :
    ∃ after, bdbBlocks = bdbBlocks.takeWhile (· ≠ id) ++ id :: after := by
  cases id <;> exact ⟨_, rfl⟩

/-- The pointers come right before the panel data. -/
theorem data_of_ptrs {id : BlockId} (h : .lfpDataPtrs ∈ bdbBlocks.takeWhile (· ≠ id)) :
    id = .lfpData ∨ .lfpData ∈ bdbBlocks.takeWhile (· ≠ id) := by
  revert h
  cases id <;> decide

variable (hAll : ∀ fuel, Inside size memory
  (initBdbBlocks fuel bdb version fresh bdbBlocks []).run)

include hAll

/-- With enough fuel the setup comes to the step of a section, when the walk
for the panel data is not what keeps it from there. -/
theorem inside_step {id : BlockId} (hReached : Reached memory bdb id)
    (hData : id = .lfpData → Ends memory bdb .lfpData) :
    ∃ fuel, ∀ more ≥ fuel, ∃ minSize,
      Inside size memory (initBdbBlock more bdb version fresh id minSize).run := by
  obtain ⟨after, hTable⟩ := table_split id
  obtain ⟨fuel, hBefore⟩ := exists_fuel _ hReached
  obtain ⟨own, hOwn⟩ : ∃ own, id = .lfpData → ∀ more ≥ own, Answers memory (find more bdb .lfpData) := by
    by_cases hId : id = .lfpData
    · obtain ⟨own, hEnds⟩ := hData hId
      exact ⟨own, fun _ more hMore => answers_find_mono hMore hEnds⟩
    · exact ⟨0, fun h => absurd h hId⟩
  refine ⟨max fuel own, fun more hMore => ?_⟩
  have hEarlier := hBefore more (by omega)
  have hInside := hAll more
  rw [hTable] at hInside
  obtain ⟨kept, hRest⟩ := inside_rest_of_answers (fun other hOther minSize => by
    refine answers_initBdbBlock (hEarlier other hOther) fun hPtrs => ?_
    subst hPtrs
    rcases data_of_ptrs hOther with hId | hMem
    · exact hOwn hId more (by omega)
    · exact hEarlier _ hMem) hInside
  exact ⟨_, (inside_search_bind_iff.mp hRest).1⟩

/-- A walk for the panel data that does not end is the last thing read. -/
theorem inside_data_of_not_ends (hReached : Reached memory bdb .lfpData) (fuel : Nat) :
    Inside size memory (find fuel bdb .lfpData).run := by
  obtain ⟨enough, hBefore⟩ := exists_fuel _ hReached
  apply inside_find_of_le (Nat.le_max_left fuel enough)
  have hEarlier := hBefore (max fuel enough) (Nat.le_max_right fuel enough)
  have hInside := hAll (max fuel enough)
  have hSplit : bdbBlocks.takeWhile (· ≠ .lfpData) =
      bdbBlocks.takeWhile (· ≠ .lfpDataPtrs) ++ [.lfpDataPtrs] := by decide
  obtain ⟨after, hTable⟩ := table_split .lfpData
  rw [hTable, hSplit, List.append_assoc] at hInside
  rw [hSplit] at hEarlier
  obtain ⟨kept, hRest⟩ := inside_rest_of_answers (fun other hOther minSize => by
    refine answers_initBdbBlock (hEarlier other (List.mem_append_left _ hOther)) fun hPtrs => ?_
    subst hPtrs
    exact absurd hOther (by decide)) hInside
  obtain ⟨hPtrs, hLater⟩ := inside_search_bind_iff.mp hRest
  rcases answers_or_inside_data (hEarlier _ (List.mem_append_right _ List.mem_cons_self)) hPtrs with
    ⟨entry, hEntry⟩ | hFind
  · have hData := (inside_search_bind_iff.mp (hLater entry hEntry)).1
    exact (inside_search_bind_iff.mp hData).1
  · exact hFind

theorem fields_of_inside {id : BlockId} (hReached : Reached memory bdb id) :
    FieldsInside memory size bdb id.code := by
  refine (inside_find_iff.mp fun fuel => ?_).2
  by_cases hId : id = .lfpData
  · subst hId
    exact inside_data_of_not_ends hAll hReached fuel
  · obtain ⟨enough, hStep⟩ := inside_step hAll hReached fun h => absurd h hId
    obtain ⟨minSize, hInside⟩ := hStep (max fuel enough) (Nat.le_max_right fuel enough)
    exact inside_find_of_le (Nat.le_max_left fuel enough) (inside_search_bind_iff.mp hInside).1

theorem copies_of_inside {id : BlockId} (hReached : Reached memory bdb id) :
    CopyInside memory size bdb id.code := by
  intro index visits hStop
  obtain ⟨own, hRun⟩ := iterate_eq_some_iff.mpr ⟨index, visits, hStop⟩
  have hEnds : Ends memory bdb id := ⟨own, _, (answer_find own id).trans hRun⟩
  obtain ⟨enough, hStep⟩ := inside_step hAll hReached fun h => h ▸ hEnds
  obtain ⟨minSize, hInside⟩ := hStep (max own enough) (Nat.le_max_right own enough)
  have hFound := (answer_find (max own enough) id).trans
    (iterate_mono (Nat.le_max_left own enough) hRun)
  have hBlock := (inside_search_bind_iff.mp hInside).2 _ hFound
  exact (inside_copyBlock_iff.mp (inside_lift_bind_iff.mp hBlock).1).2

end Sections

/-- The reads of the setup stay below a bound, for any amount of fuel, exactly
when every header and every block that it goes by lies below it. -/
theorem inside_readVbt_iff {memory : Memory} {size : Nat} {fresh : Fresh} :
    (∀ fuel, Inside size memory (readVbt fuel fresh).run) ↔ HeadersInside memory size := by
  have hSplit : ∀ fuel, Inside size memory (readVbt fuel fresh).run ↔
      bdbOffsetOffset + 3 < size ∧ u32 memory bdbOffsetOffset + versionOffset + 1 < size ∧
        Inside size memory (initBdbBlocks fuel (u32 memory bdbOffsetOffset)
          (u16 memory (u32 memory bdbOffsetOffset + versionOffset)) fresh bdbBlocks []).run := by
    intro fuel
    unfold readVbt
    rw [inside_lift_bind_iff, inside_lift_bind_iff, inside_search_bind_iff, inside_readU32_iff,
      inside_readU16_iff, answer_readU32, answer_readU16]
    refine and_congr_right fun _ => and_congr_right fun _ => and_iff_left ?_
    intro blocks _
    exact inside_done _
  constructor
  · intro h
    have hAll := fun fuel => ((hSplit fuel).mp (h fuel)).2.2
    have hFirst : Inside size memory (find 0 (u32 memory bdbOffsetOffset) .generalFeatures).run :=
      (inside_search_bind_iff.mp (inside_search_bind_iff.mp (hAll 0)).1).1
    refine ⟨((hSplit 0).mp (h 0)).1, ?_, fun id => fields_of_inside hAll,
      fun id => copies_of_inside hAll⟩
    have hSize := (inside_bind_iff.mp (inside_bind_iff.mp hFirst).2).1
    exact inside_readU16_iff.mp hSize
  · intro inside fuel
    have hHeader := inside.bdbHeader
    refine (hSplit fuel).mpr ⟨inside.vbtHeader, ?_, ?_⟩
    · unfold versionOffset
      unfold bdbSizeOffset at hHeader
      omega
    · exact inside_initBdbBlocks inside rfl fuel [] rfl fun other h => absurd h List.not_mem_nil

end NootedBlue.Vbt
