import NootedBlue.Vbt.Walk

/-! The copies of the blocks that the driver uses. Each is found by a walk of
its own and copied into fresh memory, which holds whatever it held before; the
table of panel data pointers is made up when it is missing, and checked
against the panel data it points into. -/
namespace NootedBlue.Vbt

open Interaction Bytes

/-- The sections of the table `bdb_blocks`. -/
inductive BlockId where
  | generalFeatures
  | generalDefinitions
  | psr
  | driverFeatures
  | sdvoLvdsOptions
  | sdvoLvdsDtd
  | edp
  | lfpOptions
  | lfpDataPtrs
  | lfpData
  | lfpBacklight
  | lfpPower
  | mipiConfig
  | mipiSequence
  | compressionParameters
  | genericDtd
  deriving DecidableEq, Repr

namespace BlockId

/-- The id byte of `enum bdb_block_id`. -/
def code : BlockId → Nat
  | generalFeatures => 1
  | generalDefinitions => 2
  | psr => 9
  | driverFeatures => 12
  | sdvoLvdsOptions => 22
  | sdvoLvdsDtd => 23
  | edp => 27
  | lfpOptions => 40
  | lfpDataPtrs => 41
  | lfpData => 42
  | lfpBacklight => 43
  | lfpPower => 44
  | mipiConfig => 52
  | mipiSequence => 53
  | compressionParameters => 56
  | genericDtd => 58

/-- The size of the structure that each section is read as; the one of the
panel data depends on the pointers to it. -/
def minSize : BlockId → Nat
  | generalFeatures => 7
  | generalDefinitions => 5
  | psr => 100
  | driverFeatures => 19
  | sdvoLvdsOptions => 22
  | sdvoLvdsDtd => 72
  | edp => 850
  | lfpOptions => 34
  | lfpDataPtrs => 148
  | lfpData => 0
  | lfpBacklight => 305
  | lfpPower => 136
  | mipiConfig => 822
  | mipiSequence => 1
  | compressionParameters => 210
  | genericDtd => 2

end BlockId

/-- `bdb_blocks`, in the order of the table. -/
def bdbBlocks : List BlockId :=
  [.generalFeatures, .generalDefinitions, .psr, .driverFeatures, .sdvoLvdsOptions, .sdvoLvdsDtd,
    .edp, .lfpOptions, .lfpDataPtrs, .lfpData, .lfpBacklight, .lfpPower, .mipiConfig,
    .mipiSequence, .compressionParameters, .genericDtd]

/-- `find_raw_section` for a section of the table. -/
def find (fuel bdb : Nat) (id : BlockId) : Search (Option Nat) :=
  OptionT.mk (findRawSection fuel bdb id.code)

/-- `struct lfp_data_ptr_table`. -/
structure LfpTable where
  offset : Nat
  size : Nat
  deriving DecidableEq

/-- `struct lfp_data_ptr`. -/
structure LfpDataPtr where
  fpTiming : LfpTable
  dvoTiming : LfpTable
  panelPnpId : LfpTable
  deriving DecidableEq

/-- `struct bdb_lfp_data_ptrs`, with its sixteen entries. -/
structure LfpDataPtrs where
  numEntries : Nat
  ptr : Nat → LfpDataPtr
  panelName : LfpTable

def fpTimingSize : Nat := 38
def edidDtdSize : Nat := 18
def edidPnpIdSize : Nat := 10
def productNameSize : Nat := 13
def lfpDataPtrsSize : Nat := 148

/-- `sizeof(struct bdb_lfp_data)` and `sizeof(struct bdb_lfp_data_tail)`. -/
def lfpDataSize : Nat := 1184
def lfpDataTailSize : Nat := 310

namespace LfpTable

def read (memory : Memory) (offset : Nat) : LfpTable :=
  ⟨u16 memory offset, u8 memory (offset + 2)⟩

def bytes (table : LfpTable) : List UInt8 := le16 table.offset ++ [table.size.toUInt8]

/-- `next_lfp_data_ptr`. -/
def next (table : LfpTable) (size : Nat) : LfpTable := { table with offset := (table.offset + size) % 2 ^ 16 }

end LfpTable

namespace LfpDataPtr

def read (memory : Memory) (offset : Nat) : LfpDataPtr :=
  ⟨.read memory offset, .read memory (offset + 3), .read memory (offset + 6)⟩

def bytes (ptr : LfpDataPtr) : List UInt8 :=
  ptr.fpTiming.bytes ++ ptr.dvoTiming.bytes ++ ptr.panelPnpId.bytes

def map (f : LfpTable → LfpTable) (ptr : LfpDataPtr) : LfpDataPtr :=
  ⟨f ptr.fpTiming, f ptr.dvoTiming, f ptr.panelPnpId⟩

/-- Every one of the three tables satisfies a test. -/
def all (test : LfpTable → Bool) (ptr : LfpDataPtr) : Bool :=
  test ptr.fpTiming && test ptr.dvoTiming && test ptr.panelPnpId

/-- The entries from the first one on, each `size` bytes behind the one before. -/
def chain (first : LfpDataPtr) (size : Nat) : Nat → LfpDataPtr
  | 0 => first
  | i + 1 => (first.chain size i).map (·.next size)

end LfpDataPtr

namespace LfpDataPtrs

def read (memory : Memory) (offset : Nat) : LfpDataPtrs where
  numEntries := u8 memory offset
  ptr i := .read memory (offset + 1 + 9 * i)
  panelName := .read memory (offset + 145)

def bytes (ptrs : LfpDataPtrs) : List UInt8 :=
  ptrs.numEntries.toUInt8 :: ((List.range 16).flatMap fun i => (ptrs.ptr i).bytes) ++
    ptrs.panelName.bytes

/-- No offset lies before the panel data. -/
def behind (ptrs : LfpDataPtrs) (offset : Nat) : Bool :=
  ((List.range 16).all fun i => (ptrs.ptr i).all (offset ≤ ·.offset)) &&
    (ptrs.panelName.size = 0 || offset ≤ ptrs.panelName.offset)

end LfpDataPtrs

/-- `make_lfp_data_ptr`: put a table at the end of what is left. -/
def makeLfpDataPtr (table : LfpTable) (tableSize totalSize : Nat) : LfpTable × Nat :=
  if totalSize < tableSize then (table, totalSize)
  else (⟨totalSize - tableSize, tableSize⟩, totalSize - tableSize)

/-- One more entry when a table has a size. -/
def LfpTable.count (table : LfpTable) : Nat := if table.size = 0 then 0 else 1

/-- The pointers that `generate_lfp_data_ptrs` writes, for panel data whose
payload is at index `block`. The number of entries and, in a short block, the
panel names are counted on from what the fresh memory held. -/
def generatedPtrs (fresh : LfpDataPtrs) (block blockSize : Nat) : Option LfpDataPtrs :=
  let size := fpTimingSize + edidDtdSize + edidPnpIdSize
  let (panelPnpId, left) := makeLfpDataPtr (fresh.ptr 0).panelPnpId edidPnpIdSize size
  let (dvoTiming, left) := makeLfpDataPtr (fresh.ptr 0).dvoTiming edidDtdSize left
  let (fpTiming, left) := makeLfpDataPtr (fresh.ptr 0).fpTiming fpTimingSize left
  let numEntries :=
    (fresh.numEntries + fpTiming.count + dvoTiming.count + panelPnpId.count) % 2 ^ 8
  if left ≠ 0 ∨ numEntries ≠ 3 then none
  else
    let panelName : LfpTable :=
      if 16 * (size + productNameSize) ≤ blockSize then ⟨size * 16, productNameSize⟩
      else fresh.panelName
    some {
      numEntries
      ptr := fun i => (LfpDataPtr.chain ⟨fpTiming, dvoTiming, panelPnpId⟩ size i).map (·.next block)
      panelName := if panelName.size = 0 then panelName else panelName.next block }

/-- `generate_lfp_data_ptrs`. -/
def generateLfpDataPtrs (fuel bdb version : Nat) (fresh : LfpDataPtrs) :
    Search (Option LfpDataPtrs) := do
  if version < 155 then return none
  else
    match ← find fuel bdb .lfpData with
    | none => return none
    | some block =>
        let blockSize ← getBlocksize (bdb + block - 3)
        if (fpTimingSize + edidDtdSize + edidPnpIdSize) * 16 > blockSize then return none
        else return generatedPtrs fresh block blockSize

/-- `raw_block_offset` of the panel data: zero when there is none. -/
def rawBlockOffset (fuel bdb : Nat) (id : BlockId) : Search Nat := do
  match ← find fuel bdb id with
  | none => return 0
  | some block => return block

namespace LfpDataPtrs

/-- The distance between the data of two panels, which may be negative. -/
def stride (ptrs : LfpDataPtrs) : Int := (ptrs.ptr 1).fpTiming.offset - (ptrs.ptr 0).fpTiming.offset

/-- The size of a panel's timing table, with the six bytes that real tables do
not account for. -/
def paddedSize (ptrs : LfpDataPtrs) : Nat :=
  let first := ptrs.ptr 0
  if ((first.fpTiming.size + 6 + first.dvoTiming.size + first.panelPnpId.size : Nat) : Int) =
      ptrs.stride then
    first.fpTiming.size + 6
  else first.fpTiming.size

/-- The tables have known sizes. -/
def sizesKnown (ptrs : LfpDataPtrs) : Bool :=
  32 ≤ (ptrs.ptr 0).fpTiming.size && (ptrs.ptr 0).dvoTiming.size = edidDtdSize &&
    (ptrs.ptr 0).panelPnpId.size = edidPnpIdSize &&
    (ptrs.panelName.size = 0 || ptrs.panelName.size = productNameSize)

/-- An entry has the sizes of the first one and the distance to the one before. -/
def uniformAt (ptrs : LfpDataPtrs) (i : Nat) : Bool :=
  let first := ptrs.ptr 0
  let prior := ptrs.ptr i
  let entry := ptrs.ptr (i + 1)
  entry.fpTiming.size = first.fpTiming.size && entry.dvoTiming.size = first.dvoTiming.size &&
    entry.panelPnpId.size = first.panelPnpId.size &&
    (entry.fpTiming.offset - prior.fpTiming.offset : Int) = ptrs.stride &&
    (entry.dvoTiming.offset - prior.dvoTiming.offset : Int) = ptrs.stride &&
    (entry.panelPnpId.offset - prior.panelPnpId.offset : Int) = ptrs.stride

/-- The three tables of the first panel fill its data, one behind the other. -/
def contiguous (ptrs : LfpDataPtrs) : Bool :=
  let first := ptrs.ptr 0
  ((ptrs.paddedSize + first.dvoTiming.size + first.panelPnpId.size : Nat) : Int) = ptrs.stride &&
    first.fpTiming.offset + ptrs.paddedSize = first.dvoTiming.offset &&
    first.dvoTiming.offset + first.dvoTiming.size = first.panelPnpId.offset &&
    ((first.panelPnpId.offset + first.panelPnpId.size : Nat) : Int) = ptrs.stride

/-- The tables of an entry lie inside the panel data. -/
def fitsAt (ptrs : LfpDataPtrs) (blockSize i : Nat) : Bool :=
  (ptrs.ptr i).fpTiming.offset + ptrs.paddedSize ≤ blockSize &&
    (ptrs.ptr i).dvoTiming.offset + (ptrs.ptr 0).dvoTiming.size ≤ blockSize &&
    (ptrs.ptr i).panelPnpId.offset + (ptrs.ptr 0).panelPnpId.size ≤ blockSize

/-- The checks of `validate_lfp_data_ptrs` that look at nothing but the
pointers and the size of the panel data. -/
def consistent (ptrs : LfpDataPtrs) (blockSize : Nat) : Bool :=
  blockSize ≠ 0 && ptrs.numEntries = 3 && ptrs.sizesKnown && 16 * ptrs.stride ≤ blockSize &&
    (List.range 15).all ptrs.uniformAt && ptrs.contiguous &&
    (List.range 16).all (ptrs.fitsAt blockSize) &&
    ptrs.panelName.offset + 16 * ptrs.panelName.size ≤ blockSize

end LfpDataPtrs

/-- The last check: each timing table of the panel data ends with the
terminator. -/
def terminatorsPresent (bdb block : Nat) (ptrs : LfpDataPtrs) : List Nat → Read Bool
  | [] => return true
  | i :: rest => do
      let terminator ← readU16 (bdb + block + (ptrs.ptr i).fpTiming.offset + ptrs.paddedSize - 2)
      if terminator ≠ 0xFFFF then return false else terminatorsPresent bdb block ptrs rest

/-- `validate_lfp_data_ptrs`. -/
def validateLfpDataPtrs (fuel bdb : Nat) (ptrs : LfpDataPtrs) : Search Bool := do
  match ← find fuel bdb .lfpData with
  | none => return false
  | some block =>
      let blockSize ← getBlocksize (bdb + block - 3)
      if ptrs.consistent blockSize then terminatorsPresent bdb block ptrs (List.range 16)
      else return false

/-- Make the offsets relative to the panel data, as `fixup_lfp_data_ptrs` does. -/
def LfpDataPtrs.relative (ptrs : LfpDataPtrs) (offset : Nat) : LfpDataPtrs :=
  let shift (table : LfpTable) : LfpTable := { table with offset := table.offset - offset }
  { numEntries := ptrs.numEntries
    ptr := fun i => (ptrs.ptr i).map shift
    panelName := if ptrs.panelName.size = 0 then ptrs.panelName else shift ptrs.panelName }

/-- `fixup_lfp_data_ptrs`: the corrected pointers, unless they are rejected. -/
def fixupLfpDataPtrs (fuel bdb : Nat) (ptrs : LfpDataPtrs) : Search (Option LfpDataPtrs) := do
  let offset ← rawBlockOffset fuel bdb .lfpData
  if ptrs.behind offset then
    let valid ← validateLfpDataPtrs fuel bdb (ptrs.relative offset)
    return if valid then some (ptrs.relative offset) else none
  else return none

/-- `struct bdb_block_entry`: `memory` is the copy with its three header bytes
and everything behind it, of which `allocated` bytes belong to the entry. -/
structure BlockEntry where
  id : BlockId
  memory : Memory
  allocated : Nat

namespace BlockEntry

/-- The bytes behind the header, as the parsers see them. -/
def payload (entry : BlockEntry) : Memory := fun i => entry.memory (i + 3)

/-- `get_blocksize` of a copied block. -/
def size (entry : BlockEntry) : Nat := blocksize entry.memory 0

end BlockEntry

theorem u16_payload (entry : BlockEntry) (i : Nat) :
    u16 entry.payload i = u16 entry.memory (i + 3) := by
  unfold u16
  rw [Nat.add_right_comm i 3 1]
  rfl

theorem u32_payload (entry : BlockEntry) (i : Nat) :
    u32 entry.payload i = u32 entry.memory (i + 3) := by
  unfold u32
  rw [u16_payload, u16_payload, Nat.add_right_comm i 3 2]

/-- `bdb_find_section`. -/
def bdbFindSection (blocks : List BlockEntry) (id : BlockId) : Option BlockEntry :=
  blocks.find? (·.id = id)

/-- `lfp_data_min_size`. -/
def lfpDataMinSize (blocks : List BlockEntry) : Nat :=
  match bdbFindSection blocks .lfpDataPtrs with
  | none => 0
  | some entry =>
      let ptrs := LfpDataPtrs.read entry.payload 0
      if ptrs.panelName.size = 0 then lfpDataSize
      else max lfpDataSize (ptrs.panelName.offset + lfpDataTailSize)

/-- The length that `init_bdb_block` copies behind the three header bytes. -/
def copySize (bdb sectionId block : Nat) : Read Nat := do
  let size ← getBlocksize (bdb + block - 3)
  if sectionId = mipiSequence then do
    let version ← readU8 (bdb + block)
    return if version ≥ 3 then size + 5 else size
  else return size

/-- The copy of a block that was found at an index. -/
def copyBlock (bdb sectionId block : Nat) : Read (List UInt8) := do
  let size ← copySize bdb sectionId block
  readBytes (bdb + block - 3) (size + 3)

/-- What memory held before it was allocated. -/
structure Fresh where
  entry : BlockId → Memory
  lfpDataPtrs : LfpDataPtrs

/-- An entry for a block and its header bytes, in fresh memory. -/
def BlockEntry.ofBytes (fresh : Fresh) (id : BlockId) (minSize : Nat) (bytes : List UInt8) :
    BlockEntry where
  id := id
  memory i := bytes.getD i (fresh.entry id i)
  allocated := max minSize (bytes.length - 3) + 3

/-- Write the corrected pointers into their entry. -/
def BlockEntry.patch (entry : BlockEntry) (ptrs : LfpDataPtrs) : BlockEntry :=
  { entry with
    memory := fun i =>
      if 3 ≤ i then ptrs.bytes.getD (i - 3) (entry.memory i) else entry.memory i }

/-- The end of `init_bdb_block`: only the panel data pointers are checked. -/
def keepEntry (fuel bdb : Nat) (entry : BlockEntry) : Search (Option BlockEntry) := do
  if entry.id = .lfpDataPtrs then
    match ← fixupLfpDataPtrs fuel bdb (.read entry.payload 0) with
    | none => return none
    | some ptrs => return some (entry.patch ptrs)
  else return some entry

/-- `init_bdb_block`: the entry that is added to the list, if any. -/
def initBdbBlock (fuel bdb version : Nat) (fresh : Fresh) (id : BlockId) (minSize : Nat) :
    Search (Option BlockEntry) := do
  match ← find fuel bdb id with
  | some block =>
      let bytes ← copyBlock bdb id.code block
      keepEntry fuel bdb (.ofBytes fresh id minSize bytes)
  | none =>
      if id = .lfpDataPtrs then
        match ← generateLfpDataPtrs fuel bdb version fresh.lfpDataPtrs with
        | none => return none
        | some ptrs =>
            let header := id.code.toUInt8 :: le16 lfpDataPtrsSize
            keepEntry fuel bdb (.ofBytes fresh id minSize (header ++ ptrs.bytes))
      else return none

/-- `init_bdb_blocks`, over the sections that are left of the table. -/
def initBdbBlocks (fuel bdb version : Nat) (fresh : Fresh) :
    List BlockId → List BlockEntry → Search (List BlockEntry)
  | [], blocks => return blocks
  | id :: rest, blocks => do
      let minSize := if id = .lfpData then lfpDataMinSize blocks else id.minSize
      let entry ← initBdbBlock fuel bdb version fresh id minSize
      initBdbBlocks fuel bdb version fresh rest (blocks ++ entry.toList)

/-- Offsets of `bdb_offset` in `struct vbt_header` and of `version` in
`struct bdb_header`. -/
def bdbOffsetOffset : Nat := 28
def versionOffset : Nat := 16

/-- What `intel_opregion_setup` reads of the VBT itself: where the BDB is, its
version and its blocks. Everything else is parsed from the copies. -/
def readVbt (fuel : Nat) (fresh : Fresh) : Search (Nat × List BlockEntry) := do
  let bdb ← readU32 bdbOffsetOffset
  let version ← readU16 (bdb + versionOffset)
  let blocks ← initBdbBlocks fuel bdb version fresh bdbBlocks []
  return (version, blocks)

end NootedBlue.Vbt
