import NootedBlue.Vbt.Blocks

/-! The layout that the blocks of a BDB are meant to have, and the lookup that
the layout promises. The walk follows the layout up to the first block with a
32-bit size; that block is five bytes longer than its stride. -/
namespace NootedBlue.Vbt

open Interaction Bytes

/-- A block as firmware lays it out. A block of id 53 is of the second kind
from version 3 on, where the 16-bit size is unused. -/
inductive Block where
  | plain (id : UInt8) (payload : List UInt8) (hSize : payload.length < 2 ^ 16)
      (hOld : id.toNat = mipiSequence → ∀ version ∈ payload.head?, version.toNat < 3)
  | mipi (unused : Nat) (version : UInt8) (data : List UInt8) (hSize : data.length < 2 ^ 32)
      (hVersion : 3 ≤ version.toNat)

namespace Block

def id : Block → UInt8
  | plain id _ _ _ => id
  | mipi .. => 53

/-- The size field in bytes 1 and 2. -/
def size16 : Block → Nat
  | plain _ payload _ _ => payload.length
  | mipi unused .. => unused

def payload : Block → List UInt8
  | plain _ payload _ _ => payload
  | mipi _ version data _ _ => version :: (le32 data.length ++ data)

def bytes (block : Block) : List UInt8 := block.id :: (le16 block.size16 ++ block.payload)

def IsMipi : Block → Prop
  | plain .. => False
  | mipi .. => True

/-- The size that the walk takes for the payload: without the version byte and
the size itself, when that has 32 bits. -/
def stride : Block → Nat
  | plain _ payload _ _ => payload.length
  | mipi _ _ data _ _ => data.length

theorem stride_le (block : Block) : block.stride ≤ block.payload.length := by
  cases block with
  | plain => exact Nat.le_refl _
  | mipi =>
      simp only [stride, payload, List.length_cons, List.length_append]
      omega

/-- Only a block with a 32-bit size is longer than its stride. -/
theorem stride_eq {block : Block} (hPlain : ¬ block.IsMipi) :
    block.stride = block.payload.length := by
  cases block with
  | plain => rfl
  | mipi => exact absurd trivial hPlain

@[simp] theorem bytes_length (block : Block) : block.bytes.length = block.payload.length + 3 := by
  simp [bytes, le16]

/-- A block with a payload, or with another block behind it, does not end the
BDB with its three header bytes. -/
theorem length_pos_of_more {block : Block} {rest : List Block}
    (hMore : block.payload ≠ [] ∨ rest ≠ []) :
    0 < block.payload.length + (rest.flatMap Block.bytes).length := by
  rcases hMore with hPayload | hRest
  · have := List.length_pos_iff.mpr hPayload
    omega
  · obtain ⟨next, others, rfl⟩ := List.exists_cons_of_ne_nil hRest
    rw [List.flatMap_cons, List.length_append, Block.bytes_length]
    omega

end Block

/-- The first block with an id, with the index of its first byte. -/
def locate (sectionId : Nat) : Nat → List Block → Option (Nat × Block)
  | _, [] => none
  | index, block :: rest =>
      if block.id.toNat = sectionId then some (index, block)
      else locate sectionId (index + block.bytes.length) rest

/-- The blocks fill the BDB behind its header. -/
structure Holds (memory : Memory) (bdb : Nat) (blocks : List Block) : Prop where
  content : Stored memory (bdb + headerSize memory bdb) (blocks.flatMap Block.bytes)
  total : headerSize memory bdb + (blocks.flatMap Block.bytes).length = bdbSize memory bdb

/-- The promise of the layout for one section: the walk ends with the payload
of the first block of that id, or with nothing when there is none, and the
copy of a block that was found is that block. -/
def LookupCorrect (memory : Memory) (bdb : Nat) (blocks : List Block) (sectionId : Nat) : Prop :=
  match locate sectionId (headerSize memory bdb) blocks with
  | none => ∃ fuel, (findRawSection fuel bdb sectionId).answer memory = some none
  | some (index, block) =>
      (∃ fuel, (findRawSection fuel bdb sectionId).answer memory = some (some (index + 3))) ∧
        (copyBlock bdb sectionId (index + 3)).answer memory = block.bytes ∧
        index + block.bytes.length ≤ bdbSize memory bdb

/-- `_get_blocksize` sees the size of a block. The byte behind an empty block
of id 53 is the id of the next one, and is taken for a version. -/
def Block.Legible (block : Block) (rest : List Block) : Prop :=
  block.id.toNat = mipiSequence → block.payload = [] → ∀ next ∈ rest.head?, next.id.toNat < 3

/-- Nothing on the way to a section misleads the walk: no block with a 32-bit
size has to be passed, and a section that is found is not an empty block at
the very end. -/
def Undisturbed (sectionId : Nat) : List Block → Prop
  | [] => True
  | block :: rest => block.Legible rest ∧
      if block.id.toNat = sectionId then block.payload ≠ [] ∨ rest ≠ []
      else ¬ block.IsMipi ∧ Undisturbed sectionId rest

section Walk

variable {memory : Memory} {bdb index : Nat} {block : Block} {rest : List Block}

theorem stored_block (h : Stored memory (bdb + index) ((block :: rest).flatMap Block.bytes)) :
    u8 memory (bdb + index) = block.id.toNat ∧
      u16 memory (bdb + index + 1) = block.size16 % 2 ^ 16 ∧
      Stored memory (bdb + index + 3) block.payload ∧
      Stored memory (bdb + (index + block.bytes.length)) (rest.flatMap Block.bytes) := by
  rw [List.flatMap_cons, stored_append_iff] at h
  obtain ⟨hId, hTail⟩ := stored_cons_iff.mp h.1
  obtain ⟨hSize, hPayload⟩ := stored_append_iff.mp hTail
  refine ⟨congrArg UInt8.toNat hId, u16_of_stored hSize, hPayload, ?_⟩
  rw [← Nat.add_assoc]
  exact h.2

/-- `_get_blocksize` at a legible block. -/
theorem blocksize_of_stored
    (h : Stored memory (bdb + index) ((block :: rest).flatMap Block.bytes))
    (hLegible : block.Legible rest) (hMore : block.payload ≠ [] ∨ rest ≠ []) :
    blocksize memory (bdb + index) = block.stride ∧ (IsMipi3 memory (bdb + index) ↔ block.IsMipi) := by
  obtain ⟨hId, hSize, hPayload, hRest⟩ := stored_block h
  cases block with
  | plain id payload hLength hOld =>
      have hPlain : ¬ IsMipi3 memory (bdb + index) := by
        intro ⟨hMipi, hVersion⟩
        rw [hId] at hMipi
        cases payload with
        | nil =>
            obtain ⟨next, others, rfl⟩ := List.exists_cons_of_ne_nil (hMore.resolve_left (absurd rfl))
            have hNext := hLegible hMipi rfl next rfl
            rw [List.flatMap_cons] at hRest
            have hByte := (stored_cons_iff.mp (stored_append_iff.mp hRest).1).1
            have : u8 memory (bdb + index + 3) = next.id.toNat := congrArg UInt8.toNat hByte
            omega
        | cons version data =>
            have hNew := hOld hMipi version rfl
            have : u8 memory (bdb + index + 3) = version.toNat :=
              congrArg UInt8.toNat (stored_cons_iff.mp hPayload).1
            omega
      refine ⟨?_, iff_of_false hPlain fun hMipi => hMipi⟩
      rw [blocksize, if_neg hPlain, hSize]
      exact Nat.mod_eq_of_lt hLength
  | mipi unused version data hLength hVersion =>
      obtain ⟨hFirst, hTail⟩ := stored_cons_iff.mp hPayload
      have hMipi : IsMipi3 memory (bdb + index) := by
        refine ⟨hId, ?_⟩
        have : u8 memory (bdb + index + 3) = version.toNat := congrArg UInt8.toNat hFirst
        omega
      refine ⟨?_, iff_of_true hMipi trivial⟩
      rw [blocksize, if_pos hMipi, u32_of_stored (stored_append_iff.mp hTail).1]
      exact Nat.mod_eq_of_lt hLength

/-- The copy of a legible block is that block. -/
theorem copyBlock_of_stored
    (h : Stored memory (bdb + index) ((block :: rest).flatMap Block.bytes))
    (hLegible : block.Legible rest) (hMore : block.payload ≠ [] ∨ rest ≠ []) :
    (copyBlock bdb block.id.toNat (index + 3)).answer memory = block.bytes := by
  obtain ⟨hSize, hMipi⟩ := blocksize_of_stored h hLegible hMore
  have hCopy : (copySize bdb block.id.toNat (index + 3)).answer memory = block.payload.length := by
    have hId := (stored_block h).1
    unfold copySize
    rw [Program.answer_bind, show bdb + (index + 3) - 3 = bdb + index by omega,
      answer_getBlocksize, hSize, ← Nat.add_assoc]
    cases block with
    | plain id payload _ _ =>
        split
        · next hSection =>
            have hOld : ¬ u8 memory (bdb + index + 3) ≥ 3 := fun hVersion =>
              hMipi.mp ⟨hId.trans hSection, hVersion⟩
            rw [Program.answer_bind, answer_readU8, if_neg hOld]
            rfl
        · rfl
    | mipi unused version data hLength hVersion =>
        have hNew := (hMipi.mpr trivial).2
        have hSection : (Block.mipi unused version data hLength hVersion).id.toNat = mipiSequence := rfl
        rw [if_pos hSection, Program.answer_bind, answer_readU8, if_pos hNew]
        simp [Block.stride, Block.payload, le32, le16]
  unfold copyBlock
  rw [Program.answer_bind, hCopy, show bdb + (index + 3) - 3 = bdb + index by omega,
    ← Block.bytes_length]
  rw [List.flatMap_cons] at h
  exact answer_readBytes_of_stored (stored_append_iff.mp h).1

theorem locate_le {sectionId start : Nat} {blocks : List Block} {found : Nat × Block}
    (h : locate sectionId start blocks = some found) :
    found.1 + found.2.bytes.length ≤ start + (blocks.flatMap Block.bytes).length := by
  induction blocks generalizing start with
  | nil => cases h
  | cons block rest ih =>
      rw [locate] at h
      rw [List.flatMap_cons, List.length_append]
      split at h
      · cases h
        show start + block.bytes.length ≤ _
        omega
      · have := ih h
        omega

/-- What the walk returns for a section, by the layout. -/
def payloadIndex (found : Option (Nat × Block)) : Option Nat := found.map (·.1 + 3)

/-- The step at a block that is not empty or not the last one. -/
theorem walkStep_of_stored {sectionId : Nat}
    (h : Stored memory (bdb + index) ((block :: rest).flatMap Block.bytes))
    (hTotal : index + ((block :: rest).flatMap Block.bytes).length = bdbSize memory bdb)
    (hLegible : block.Legible rest) (hMore : block.payload ≠ [] ∨ rest ≠ []) :
    walkStep memory bdb sectionId index =
      if block.id.toNat = sectionId then .stop (some (index + 3))
      else .next (following memory bdb index) := by
  have hBound := bdbSize_lt memory bdb
  have hSize := (blocksize_of_stored h hLegible hMore).1
  have hLong := block.stride_le
  rw [List.flatMap_cons, List.length_append, Block.bytes_length] at hTotal
  have hInside : (index + 3) % 2 ^ 32 < bdbSize memory bdb := by
    have := Block.length_pos_of_more hMore
    omega
  have hEnds : ¬ bdbSize memory bdb < following memory bdb index := by
    unfold following
    rw [hSize]
    omega
  rw [walkStep_eq, if_pos hInside, if_neg hEnds, (stored_block h).1]

/-- The step to the block behind one with a size of 16 bits. -/
theorem following_of_stored
    (h : Stored memory (bdb + index) ((block :: rest).flatMap Block.bytes))
    (hTotal : index + ((block :: rest).flatMap Block.bytes).length = bdbSize memory bdb)
    (hLegible : block.Legible rest) (hMore : block.payload ≠ [] ∨ rest ≠ []) (hPlain : ¬ block.IsMipi) :
    following memory bdb index = index + block.bytes.length := by
  have hBound := bdbSize_lt memory bdb
  have hSize := (blocksize_of_stored h hLegible hMore).1
  rw [List.flatMap_cons, List.length_append, Block.bytes_length] at hTotal
  unfold following
  rw [hSize, Block.stride_eq hPlain, Block.bytes_length]
  omega

/-- The walk stops where no header fits any more. -/
theorem walkStep_at_end {sectionId : Nat} (hIndex : index ≤ bdbSize memory bdb)
    (hEnd : bdbSize memory bdb ≤ index + 3) : walkStep memory bdb sectionId index = .stop none := by
  have hBound := bdbSize_lt memory bdb
  rw [walkStep_eq, if_neg (by omega)]

/-- From the start of an undisturbed list of blocks the walk comes to the
section that the layout gives. -/
theorem walk_of_undisturbed {sectionId : Nat} {blocks : List Block}
    (h : Stored memory (bdb + index) (blocks.flatMap Block.bytes))
    (hTotal : index + (blocks.flatMap Block.bytes).length = bdbSize memory bdb)
    (hClear : Undisturbed sectionId blocks) :
    ∃ last, Visits (walkStep memory bdb sectionId) index last ∧
      walkStep memory bdb sectionId last =
        .stop (payloadIndex (locate sectionId index blocks)) := by
  induction blocks generalizing index with
  | nil =>
      rw [List.flatMap_nil, List.length_nil, Nat.add_zero] at hTotal
      exact ⟨index, .start, walkStep_at_end (Nat.le_of_eq hTotal) (hTotal ▸ Nat.le_add_right _ _)⟩
  | cons block rest ih =>
      obtain ⟨hLegible, hClear⟩ := hClear
      by_cases hMore : block.payload ≠ [] ∨ rest ≠ []
      · have hStep : walkStep memory bdb sectionId index = _ :=
          walkStep_of_stored h hTotal hLegible hMore
        by_cases hSection : block.id.toNat = sectionId
        · refine ⟨index, .start, ?_⟩
          rw [hStep, if_pos hSection, locate, if_pos hSection]
          rfl
        · rw [if_neg hSection] at hClear hStep
          have hNext := following_of_stored h hTotal hLegible hMore hClear.1
          rw [List.flatMap_cons, List.length_append, ← Nat.add_assoc] at hTotal
          obtain ⟨last, hVisits, hStop⟩ := ih (stored_block h).2.2.2 hTotal hClear.2
          refine ⟨last, hVisits.head ?_, ?_⟩
          · rw [hStep, hNext]
          · rw [hStop, locate, if_neg hSection]
      · have hEmpty : block.payload = [] ∧ rest = [] := by simpa using hMore
        obtain ⟨hPayload, rfl⟩ := hEmpty
        by_cases hSection : block.id.toNat = sectionId
        · rw [if_pos hSection] at hClear
          exact absurd hClear hMore
        · refine ⟨index, .start, ?_⟩
          have hEnd : index + 3 = bdbSize memory bdb := by
            rwa [List.flatMap_cons, List.length_append, Block.bytes_length, hPayload] at hTotal
          rw [walkStep_at_end (by omega) (Nat.le_of_eq hEnd.symm), locate, if_neg hSection]
          rfl

/-- A section that is found and undisturbed is a legible block of the list. -/
theorem copy_of_undisturbed {sectionId : Nat} {blocks : List Block} {found : Nat × Block}
    (h : Stored memory (bdb + index) (blocks.flatMap Block.bytes))
    (hClear : Undisturbed sectionId blocks)
    (hFound : locate sectionId index blocks = some found) :
    (copyBlock bdb sectionId (found.1 + 3)).answer memory = found.2.bytes := by
  induction blocks generalizing index with
  | nil => cases hFound
  | cons block rest ih =>
      obtain ⟨hLegible, hClear⟩ := hClear
      rw [locate] at hFound
      split at hFound
      · next hSection =>
          rw [if_pos hSection] at hClear
          cases hFound
          rw [← hSection]
          exact copyBlock_of_stored h hLegible hClear
      · next hSection =>
          rw [if_neg hSection] at hClear
          exact ih (stored_block h).2.2.2 hClear.2 hFound

end Walk

/-- The lookup of a section keeps the promise of the layout when nothing on
the way to it disturbs the walk. -/
theorem lookup_of_undisturbed (memory : Memory) (bdb : Nat) (blocks : List Block) (sectionId : Nat)
    (hHolds : Holds memory bdb blocks) (hClear : Undisturbed sectionId blocks) :
    LookupCorrect memory bdb blocks sectionId := by
  have hWalk := walk_of_undisturbed hHolds.content hHolds.total hClear
  rw [← iterate_eq_some_iff] at hWalk
  unfold LookupCorrect
  split
  · next hNone =>
      rw [hNone] at hWalk
      obtain ⟨fuel, hRun⟩ := hWalk
      exact ⟨fuel, (answer_findRawSection memory fuel bdb sectionId).trans hRun⟩
  · next found block hSome =>
      rw [hSome] at hWalk
      obtain ⟨fuel, hRun⟩ := hWalk
      have hCopy := copy_of_undisturbed hHolds.content hClear hSome
      refine ⟨⟨fuel, (answer_findRawSection memory fuel bdb sectionId).trans hRun⟩, hCopy, ?_⟩
      have hEnd : found + block.bytes.length ≤ _ := locate_le hSome
      have hTotal := hHolds.total
      omega

section Scenarios

/-- The header and the blocks one behind the other. -/
def memoryOf (header : List UInt8) (blocks : List Block) : Memory := fun i =>
  (header ++ blocks.flatMap Block.bytes).getD i 0

theorem holds_memoryOf {header : List UInt8} {blocks : List Block}
    (hHeader : headerSize (memoryOf header blocks) 0 = header.length)
    (hTotal : bdbSize (memoryOf header blocks) 0 =
      header.length + (blocks.flatMap Block.bytes).length) :
    Holds (memoryOf header blocks) 0 blocks where
  content := by
    intro i hi
    rw [hHeader, Nat.zero_add]
    show (header ++ blocks.flatMap Block.bytes).getD (header.length + i) 0 = _
    rw [List.getD_eq_getElem?_getD, List.getElem?_append_right (Nat.le_add_right _ _),
      Nat.add_sub_cancel_left, List.getElem?_eq_getElem hi]
    rfl
  total := by rw [hHeader, hTotal]

/-- A BDB header of 22 bytes for blocks of `size` bytes. -/
def bdbHeader (size : UInt8) : List UInt8 := List.replicate 18 0 ++ [22, 0, 22 + size, 0]

/-- A block of general definitions with one byte. -/
def oneByteBlock : Block := .plain 2 [7] (by decide) (by decide)

/-- A MIPI sequence block of version 3 without data. -/
def emptyMipiBlock : Block := .mipi 0 3 [] (by decide) (by decide)

theorem lookup_before_mipi_block :
    LookupCorrect (memoryOf (bdbHeader 12) [oneByteBlock, emptyMipiBlock]) 0
      [oneByteBlock, emptyMipiBlock] 2 :=
  lookup_of_undisturbed _ _ _ _ (holds_memoryOf (by decide) (by decide))
    ⟨fun h => absurd h (by decide), .inl (by decide)⟩

/-- Behind a MIPI sequence block of version 3 the walk reads the last bytes of
that block as a block of their own, and does not find the one that follows. -/
theorem lookup_behind_mipi_block :
    Holds (memoryOf (bdbHeader 12) [emptyMipiBlock, oneByteBlock]) 0
        [emptyMipiBlock, oneByteBlock] ∧
      ¬ LookupCorrect (memoryOf (bdbHeader 12) [emptyMipiBlock, oneByteBlock]) 0
        [emptyMipiBlock, oneByteBlock] 2 := by
  refine ⟨holds_memoryOf (by decide) (by decide), fun hCorrect => ?_⟩
  obtain ⟨⟨fuel, hRun⟩, -⟩ := hCorrect
  rw [answer_findRawSection] at hRun
  have hNone : iterate (walkStep (memoryOf (bdbHeader 12) [emptyMipiBlock, oneByteBlock]) 0 2) 3
      (headerSize (memoryOf (bdbHeader 12) [emptyMipiBlock, oneByteBlock]) 0) = some none := by
    decide
  have hFirst := iterate_mono (Nat.le_max_left fuel 3) hRun
  have hSecond := iterate_mono (Nat.le_max_right fuel 3) hNone
  rw [hFirst] at hSecond
  cases hSecond

end Scenarios

end NootedBlue.Vbt
