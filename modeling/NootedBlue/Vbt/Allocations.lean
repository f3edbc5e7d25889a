import Mathlib.Order.BooleanAlgebra.Set
import NootedBlue.Semantics.Heap
import NootedBlue.Vbt.Generated
import NootedBlue.Vbt.PanelData

/-! The memory of the copies of the blocks. Each copy is an allocation of its own, and
pointers that are made up are another one until they have been copied. What is given
back is right only where there is a made up block to give back. -/
namespace NootedBlue.Vbt.Allocating

open Interaction Bytes Heap

/-- A BDB, at its address, with what fresh memory holds. Every walk has some fuel. -/
structure Bdb where
  memory : Memory
  fuel : Nat
  start : Nat
  version : Nat
  fresh : Fresh

/-- `sizeof(struct bdb_block_entry)`, and the offset of its `data`. -/
def sizeofBdbBlockEntry : Nat := 24
def dataOffset : Nat := 20

/-- The bytes of a block of made up pointers, with its header. -/
def ptrsBlockSize : Nat := lfpDataPtrsSize + 3

/-- The bytes of an entry up to the end of its copy. -/
def entrySize (entry : BlockEntry) : Nat := dataOffset + entry.allocated

namespace Bdb

variable (bdb : Bdb)

/-- Read the BDB. No result means that a walk does not end. -/
def reading {β : Type} (search : Search β) : Run BlockEntry β := fun heap =>
  (search.run.answer bdb.memory).map (·, heap)

/-- `generate_lfp_data_ptrs`: the block and the pointers in it. -/
def generateLfpDataPtrs : Run BlockEntry (Option (Option Heap.Pointer × LfpDataPtrs)) := do
  if bdb.version < 155 then pure none
  else
    match ← bdb.reading (find bdb.fuel bdb.start .lfpData) with
    | none => pure none
    | some block => do
        let blockSize ← bdb.reading (liftM (getBlocksize (bdb.start + block - 3)))
        if (fpTimingSize + edidDtdSize + edidPnpIdSize) * 16 > blockSize then pure none
        else do
          let ptrsBlock ← malloc ptrsBlockSize
          match generatedPtrs bdb.fresh.lfpDataPtrs block blockSize with
          | none => do
              free ptrsBlock ptrsBlockSize
              pure none
          | some ptrs => pure (some (ptrsBlock, ptrs))

/-- The first part of `init_bdb_block`: `temp_block`, and the bytes that are copied. -/
def sourceBlock (id : BlockId) : Run BlockEntry (Option (Option Heap.Pointer × List UInt8)) := do
  match ← bdb.reading (find bdb.fuel bdb.start id) with
  | some block => do
      let bytes ← bdb.reading (liftM (copyBlock bdb.start id.code block))
      pure (some (none, bytes))
  | none =>
      if id = .lfpDataPtrs then do
        match ← bdb.generateLfpDataPtrs with
        | none => pure none
        | some (tempBlock, ptrs) =>
            let header := id.code.toUInt8 :: le16 lfpDataPtrsSize
            pure (some (tempBlock, header ++ ptrs.bytes))
      else pure none

/-- The second part of `init_bdb_block`, up to where the entry is in the list. A pointer
block that is rejected is given back from its data on. -/
def addEntry (id : BlockId) (minSize : Nat) (tempBlock : Option Heap.Pointer) (bytes : List UInt8)
    (blocks : List Heap.Pointer) : Run BlockEntry (List Heap.Pointer) := do
  let entry := BlockEntry.ofBytes bdb.fresh id minSize bytes
  let node ← malloc (sizeofBdbBlockEntry + entry.allocated)
  store (entrySize entry) node 0 entry
  free tempBlock ptrsBlockSize
  if id = .lfpDataPtrs then do
    match ← bdb.reading (fixupLfpDataPtrs bdb.fuel bdb.start (.read entry.payload 0)) with
    | none => do
        free (node.map fun p => ⟨p.allocation, p.offset + dataOffset⟩) entry.allocated
        pure blocks
    | some ptrs => do
        store (entrySize entry) node 0 (entry.patch ptrs)
        pure (blocks ++ node.toList)
  else pure (blocks ++ node.toList)

/-- `init_bdb_block`, with the nodes of `bdb_blocks`. -/
def initBdbBlock (id : BlockId) (minSize : Nat) (blocks : List Heap.Pointer) :
    Run BlockEntry (List Heap.Pointer) := do
  match ← bdb.sourceBlock id with
  | none => pure blocks
  | some (tempBlock, bytes) => bdb.addEntry id minSize tempBlock bytes blocks

end Bdb

/-- `bdb_find_section`: the node of a section. -/
def bdbFindSection (id : BlockId) : List Heap.Pointer → Run BlockEntry (Option Heap.Pointer)
  | [] => pure none
  | node :: rest => do
      let entry ← load dataOffset (some node) 0
      if entry.id = id then pure (some node) else bdbFindSection id rest

/-- `lfp_data_min_size`. -/
def lfpDataMinSize (blocks : List Heap.Pointer) : Run BlockEntry Nat := do
  match ← bdbFindSection .lfpDataPtrs blocks with
  | none => pure 0
  | some node => do
      let entry ← load dataOffset (some node) 0
      let ptrs := LfpDataPtrs.read entry.payload 0
      pure (if ptrs.panelName.size = 0 then lfpDataSize
        else max lfpDataSize (ptrs.panelName.offset + lfpDataTailSize))

/-- The `min_size` that `init_bdb_blocks` passes on. -/
def minSizeIn (blocks : List Heap.Pointer) (id : BlockId) : Run BlockEntry Nat :=
  if id = .lfpData then lfpDataMinSize blocks else pure id.minSize

/-- `init_bdb_blocks`, over the sections that are left of the table. -/
def Bdb.initBdbBlocks (bdb : Bdb) :
    List BlockId → List Heap.Pointer → Run BlockEntry (List Heap.Pointer)
  | [], blocks => pure blocks
  | id :: rest, blocks => do
      let minSize ← minSizeIn blocks id
      let blocks ← bdb.initBdbBlock id minSize blocks
      bdb.initBdbBlocks rest blocks

namespace Bdb

variable (bdb : Bdb)

/-- The BDB has a section. -/
def Found (id : BlockId) : Prop :=
  ∃ block, (find bdb.fuel bdb.start id).run.answer bdb.memory = some (some block)

/-- The bytes that are copied for a section: those of its block, or made up pointers. -/
inductive Copied (id : BlockId) : List UInt8 → Prop
  | found {block : Nat} :
      (find bdb.fuel bdb.start id).run.answer bdb.memory = some (some block) →
      Copied id ((copyBlock bdb.start id.code block).answer bdb.memory)
  | generated {ptrs : LfpDataPtrs} :
      id = .lfpDataPtrs → (find bdb.fuel bdb.start id).run.answer bdb.memory = some none →
      (Vbt.generateLfpDataPtrs bdb.fuel bdb.start bdb.version bdb.fresh.lfpDataPtrs).run.answer
        bdb.memory = some (some ptrs) →
      Copied id (id.code.toUInt8 :: le16 lfpDataPtrsSize ++ ptrs.bytes)

/-- The panel data pointers are there or are made up, and do not pass the checks. -/
def Rejected (id : BlockId) : Prop :=
  id = .lfpDataPtrs ∧ ∃ bytes, bdb.Copied id bytes ∧
    (fixupLfpDataPtrs bdb.fuel bdb.start
      (.read (BlockEntry.ofBytes bdb.fresh id id.minSize bytes).payload 0)).run.answer
        bdb.memory = some none

end Bdb

/-- A node is the start of a live block with its entry, and with room for the copy. -/
structure NodeOf (heap : State BlockEntry) (node : Heap.Pointer) (entry : BlockEntry) : Prop where
  start : node.offset = 0
  holds : Heap.Holds heap (entrySize entry) node.allocation (sizeofBdbBlockEntry + entry.allocated)
    [entry]

section Steps

variable {bdb : Bdb} {heap heap' : State BlockEntry} {id : BlockId}

theorem reading_eq {β : Type} {search : Search β} {b : β}
    (h : search.run.answer bdb.memory = some b) : bdb.reading search heap = some (b, heap) := by
  rw [Bdb.reading, h]
  rfl

theorem reading_some {β : Type} {search : Search β} {b : β}
    (h : bdb.reading search heap = some (b, heap')) :
    search.run.answer bdb.memory = some b ∧ heap' = heap := by
  obtain ⟨result, hAnswer, hPair⟩ := Option.map_eq_some_iff.mp h
  cases hPair
  exact ⟨hAnswer, rfl⟩

/-- What a plain reading is, in the middle of a program. -/
theorem reading_lift {β γ : Type} (p : Read β) (next : β → Run BlockEntry γ) :
    (bdb.reading (liftM p) >>= next) heap = next (p.answer bdb.memory) heap :=
  run_bind (reading_eq (answer_search_lift p))

/-- Memory that was allocated has been given back with its size. -/
structure Settled (heap heap' : State BlockEntry) : Prop where
  releases : ∃ settled, heap'.releases = heap.releases ++ settled ∧
    ∀ release ∈ settled, release.Right
  live : heap'.live = heap.live
  ordered : heap'.Ordered
  nodes : ∀ {node entry}, NodeOf heap node entry → NodeOf heap' node entry

theorem Settled.refl (ordered : heap.Ordered) : Settled heap heap :=
  ⟨⟨[], (List.append_nil _).symm, by simp⟩, rfl, ordered, fun node => node⟩

theorem NodeOf.lt_next {node : Heap.Pointer} {entry : BlockEntry} (h : NodeOf heap node entry)
    (ordered : heap.Ordered) : node.allocation < heap.next :=
  ordered _ h.holds.mem_live

theorem Settled.of_free {fresh : State BlockEntry} {bytes : Nat} (ordered : heap.Ordered)
    (allocated : Allocated heap fresh 1 bytes) (released : Released fresh heap' heap.next bytes bytes) :
    Settled heap heap' where
  releases := by
    refine ⟨_, by rw [released.releases, allocated.releases], ?_⟩
    simp [Release.Right]
  live := by
    have hNew : heap.next ∉ heap.live := fun h => Nat.lt_irrefl _ (ordered _ h)
    rw [released.live, allocated.live]
    exact Set.insert_sdiff_self_of_notMem hNew
  ordered := released.ordered (allocated.ordered ordered)
  nodes := fun node =>
    ⟨node.start, released.others (Nat.ne_of_lt (node.lt_next ordered)) (allocated.others node.holds)⟩

/-- The pointers that are made up, in a block of their own, or memory as it was. -/
inductive Generated (heap : State BlockEntry) :
    State BlockEntry → Option (Option Heap.Pointer × LfpDataPtrs) → Prop
  | none {heap' : State BlockEntry} : Settled heap heap' → Generated heap heap' none
  | some {heap' : State BlockEntry} {ptrs : LfpDataPtrs} :
      Allocated heap heap' 1 ptrsBlockSize → Generated heap heap' (some (some ⟨heap.next, 0⟩, ptrs))

theorem generate_cases {result : Option (Option Heap.Pointer × LfpDataPtrs)}
    (ordered : heap.Ordered) (h : bdb.generateLfpDataPtrs heap = some (result, heap')) :
    (Vbt.generateLfpDataPtrs bdb.fuel bdb.start bdb.version bdb.fresh.lfpDataPtrs).run.answer
        bdb.memory = some (result.map Prod.snd) ∧ Generated heap heap' result := by
  unfold Bdb.generateLfpDataPtrs at h
  unfold Vbt.generateLfpDataPtrs
  by_cases hVersion : bdb.version < 155
  · rw [if_pos hVersion] at h ⊢
    cases h
    exact ⟨rfl, .none (Settled.refl ordered)⟩
  · rw [if_neg hVersion] at h ⊢
    obtain ⟨found, _, hFind, h⟩ := run_bind_some h
    obtain ⟨hFound, rfl⟩ := reading_some hFind
    rw [answer_search_bind, hFound, Option.bind_some]
    cases found with
    | none =>
        cases h
        exact ⟨rfl, .none (Settled.refl ordered)⟩
    | some block =>
        dsimp only at h ⊢
        rw [reading_lift] at h
        rw [answer_search_bind, answer_search_lift, Option.bind_some]
        split at h
        · next hShort =>
            rw [if_pos hShort]
            cases h
            exact ⟨rfl, .none (Settled.refl ordered)⟩
        · next hShort =>
            rw [if_neg hShort]
            obtain ⟨fresh, hMalloc, allocated⟩ := malloc_spec ordered 1 ptrsBlockSize
            rw [run_bind hMalloc] at h
            cases hPtrs : generatedPtrs bdb.fresh.lfpDataPtrs block
                ((getBlocksize (bdb.start + block - 3)).answer bdb.memory) with
            | none =>
                obtain ⟨freed, hFree, released⟩ := allocated.holds.free ptrsBlockSize
                rw [hPtrs] at h
                dsimp only at h
                rw [run_bind hFree] at h
                cases h
                exact ⟨rfl, .none (Settled.of_free ordered allocated released)⟩
            | some ptrs =>
                rw [hPtrs] at h
                cases h
                exact ⟨rfl, .some allocated⟩

/-- A block for made up pointers, or none for a block that is found. -/
inductive TempBlock (bdb : Bdb) (id : BlockId) (heap : State BlockEntry) :
    State BlockEntry → Option Heap.Pointer → Prop
  | found : bdb.Found id → TempBlock bdb id heap heap none
  | generated {fresh : State BlockEntry} :
      ¬bdb.Found id → Allocated heap fresh 1 ptrsBlockSize →
      TempBlock bdb id heap fresh (some ⟨heap.next, 0⟩)

/-- What is copied for a section, and from where. -/
inductive Sourced (bdb : Bdb) (id : BlockId) (heap : State BlockEntry) :
    State BlockEntry → Option (Option Heap.Pointer × List UInt8) → Prop
  | absent {heap' : State BlockEntry} :
      (∀ bytes, ¬bdb.Copied id bytes) → Settled heap heap' → Sourced bdb id heap heap' none
  | copied {heap' : State BlockEntry} {tempBlock : Option Heap.Pointer} {bytes : List UInt8} :
      bdb.Copied id bytes → TempBlock bdb id heap heap' tempBlock →
      Sourced bdb id heap heap' (some (tempBlock, bytes))

/-- Nothing is copied for a section that is not found, unless pointers are made up. -/
theorem absent_of_none (hNone : (find bdb.fuel bdb.start id).run.answer bdb.memory = some none)
    (hMade : id = .lfpDataPtrs →
      (Vbt.generateLfpDataPtrs bdb.fuel bdb.start bdb.version bdb.fresh.lfpDataPtrs).run.answer
        bdb.memory = some none) :
    (∀ bytes, ¬bdb.Copied id bytes) ∧ ∀ minSize,
      (Vbt.initBdbBlock bdb.fuel bdb.start bdb.version bdb.fresh id minSize).run.answer
        bdb.memory = some none := by
  constructor
  · intro bytes hCopied
    cases hCopied with
    | found hFound => cases hFound.symm.trans hNone
    | generated hPtrs _ hSome => cases hSome.symm.trans (hMade hPtrs)
  · intro minSize
    rw [Vbt.initBdbBlock, answer_search_bind, hNone, Option.bind_some]
    dsimp only
    split
    · next hPtrs =>
        rw [answer_search_bind, hMade hPtrs]
        rfl
    · rfl

theorem sourceBlock_cases {result : Option (Option Heap.Pointer × List UInt8)}
    (ordered : heap.Ordered) (h : bdb.sourceBlock id heap = some (result, heap')) :
    (result = none → ∀ minSize,
      (Vbt.initBdbBlock bdb.fuel bdb.start bdb.version bdb.fresh id minSize).run.answer
        bdb.memory = some none) ∧ Sourced bdb id heap heap' result := by
  obtain ⟨found, _, hFind, h⟩ := run_bind_some h
  obtain ⟨hFound, rfl⟩ := reading_some hFind
  cases found with
  | some block =>
      dsimp only at h
      rw [reading_lift] at h
      cases h
      exact ⟨nofun, .copied (.found hFound) (.found ⟨block, hFound⟩)⟩
  | none =>
      have hNot : ¬bdb.Found id := fun ⟨_, hBlock⟩ => by cases hBlock.symm.trans hFound
      dsimp only at h
      split at h
      · next hPtrs =>
          obtain ⟨generated, middle, hGenerate, h⟩ := run_bind_some h
          obtain ⟨hAnswer, hCases⟩ := generate_cases ordered hGenerate
          cases hCases with
          | none settled =>
              obtain ⟨hNothing, hAbsent⟩ := absent_of_none hFound fun _ => hAnswer
              cases h
              exact ⟨fun _ => hAbsent, .absent hNothing settled⟩
          | some allocated =>
              cases h
              exact ⟨nofun, .copied (.generated hPtrs hFound hAnswer) (.generated hNot allocated)⟩
      · next hPtrs =>
          obtain ⟨hNothing, hAbsent⟩ := absent_of_none hFound fun hId => absurd hId hPtrs
          cases h
          exact ⟨fun _ => hAbsent, .absent hNothing (Settled.refl ordered)⟩

/-- An entry in a block of its own, beside what was live, after `temp_block` was given
back. -/
structure Entered (bdb : Bdb) (id : BlockId) (heap heap' : State BlockEntry) (b : Nat)
    (entry : BlockEntry) : Prop where
  fresh : b ∉ heap.live
  holds : Heap.Holds heap' (entrySize entry) b (sizeofBdbBlockEntry + entry.allocated) [entry]
  nodes : ∀ {node entry}, NodeOf heap node entry → NodeOf heap' node entry
  live : heap'.live = insert b heap.live
  ordered : heap'.Ordered
  release : ∃ release, heap'.releases = heap.releases ++ [release] ∧
    (bdb.Found id → release = ⟨none, ptrsBlockSize, none⟩) ∧ (¬bdb.Found id → release.Right)

theorem entered_spec {source : State BlockEntry} {tempBlock : Option Heap.Pointer}
    (ordered : heap.Ordered) (temp : TempBlock bdb id heap source tempBlock) (entry : BlockEntry) :
    ∃ allocated stored entered,
      malloc (sizeofBdbBlockEntry + entry.allocated) source =
        some (some ⟨source.next, 0⟩, allocated) ∧
      store (entrySize entry) (some ⟨source.next, 0⟩) 0 entry allocated = some ((), stored) ∧
      free tempBlock ptrsBlockSize stored = some ((), entered) ∧
      Entered bdb id heap entered source.next entry := by
  have hRoom : (0 + 1) * entrySize entry ≤ sizeofBdbBlockEntry + entry.allocated := by
    simp only [entrySize, dataOffset, sizeofBdbBlockEntry]
    omega
  cases temp with
  | found hFound =>
      obtain ⟨first, hMalloc, allocated⟩ := malloc_spec ordered (entrySize entry)
        (sizeofBdbBlockEntry + entry.allocated)
      obtain ⟨second, hStore, holds, frame⟩ := allocated.holds.push hRoom entry
      refine ⟨first, second, _, hMalloc, hStore, free_null _, ?_⟩
      exact {
        fresh := fun h => Nat.lt_irrefl _ (ordered _ h)
        holds := holds.log _
        nodes := fun node => ⟨node.start, (frame.holds (allocated.others node.holds)
          (Nat.ne_of_lt (node.lt_next ordered))).log _⟩
        live := frame.live.trans allocated.live
        ordered := frame.ordered (allocated.ordered ordered)
        release := ⟨_, by rw [frame.releases, allocated.releases], fun _ => rfl,
          fun hNot => absurd hFound hNot⟩ }
  | generated hNot made =>
      have orderedSource := made.ordered ordered
      obtain ⟨first, hMalloc, allocated⟩ := malloc_spec orderedSource (entrySize entry)
        (sizeofBdbBlockEntry + entry.allocated)
      obtain ⟨second, hStore, holds, frame⟩ := allocated.holds.push hRoom entry
      have hApart : heap.next ≠ source.next := by
        rw [made.next]
        exact Nat.ne_of_lt (Nat.lt_succ_self _)
      obtain ⟨third, hFree, released⟩ :=
        (frame.holds (allocated.others made.holds) hApart).free ptrsBlockSize
      refine ⟨first, second, third, hMalloc, hStore, hFree, ?_⟩
      exact {
        fresh := by
          intro h
          have hLt := ordered _ h
          rw [made.next] at hLt
          omega
        holds := released.others hApart.symm holds
        nodes := by
          intro node entry nodeOf
          have hLt := nodeOf.lt_next ordered
          have hOther : node.allocation ≠ source.next := by
            rw [made.next]
            omega
          exact ⟨nodeOf.start, released.others (Nat.ne_of_lt hLt)
            (frame.holds (allocated.others (made.others nodeOf.holds)) hOther)⟩
        live := by
          have hNew : heap.next ∉ insert source.next heap.live := by
            rintro (hSame | hOld)
            · exact hApart hSame
            · exact Nat.lt_irrefl _ (ordered _ hOld)
          rw [released.live, frame.live, allocated.live, made.live, Set.insert_comm]
          exact Set.insert_sdiff_self_of_notMem hNew
        ordered := released.ordered (frame.ordered (allocated.ordered orderedSource))
        release := ⟨⟨some ⟨heap.next, 0⟩, ptrsBlockSize, some ptrsBlockSize⟩,
          by rw [released.releases, frame.releases, allocated.releases, made.releases],
          fun hFound => absurd hFound hNot, fun _ => rfl⟩ }

/-- The corrected pointers are written into their entry. -/
theorem Entered.patch {b : Nat} {entry : BlockEntry} (h : Entered bdb id heap heap' b entry)
    (ptrs : LfpDataPtrs) :
    ∃ patched, store (entrySize entry) (some ⟨b, 0⟩) 0 (entry.patch ptrs) heap' =
        some ((), patched) ∧ Entered bdb id heap patched b (entry.patch ptrs) := by
  obtain ⟨patched, hStore, holds, frame⟩ :=
    h.holds.set (show 0 < [entry].length from Nat.zero_lt_one) (entry.patch ptrs)
  refine ⟨patched, hStore, ?_⟩
  exact {
    fresh := h.fresh
    holds := holds
    nodes := by
      intro node other nodeOf
      have hOther : node.allocation ≠ b := fun hSame => h.fresh (hSame ▸ nodeOf.holds.mem_live)
      exact ⟨nodeOf.start, frame.holds (h.nodes nodeOf).holds hOther⟩
    live := frame.live.trans h.live
    ordered := frame.ordered h.ordered
    release := by
      rw [frame.releases]
      exact h.release }

/-- What becomes of bytes that were copied. -/
inductive Added (bdb : Bdb) (id : BlockId) (minSize : Nat) (bytes : List UInt8)
    (heap : State BlockEntry) (blocks : List Heap.Pointer) :
    State BlockEntry → List Heap.Pointer → Option BlockEntry → Prop
  | kept {heap' : State BlockEntry} {b : Nat} {entry : BlockEntry} :
      (id = .lfpDataPtrs → (fixupLfpDataPtrs bdb.fuel bdb.start
        (.read (BlockEntry.ofBytes bdb.fresh id minSize bytes).payload 0)).run.answer
          bdb.memory ≠ some none) →
      entry.id = id → entry.allocated = max minSize (bytes.length - 3) + 3 →
      Entered bdb id heap heap' b entry →
      Added bdb id minSize bytes heap blocks heap' (blocks ++ [⟨b, 0⟩]) (some entry)
  | rejected {entered : State BlockEntry} {b : Nat} {entry : BlockEntry} :
      id = .lfpDataPtrs → (fixupLfpDataPtrs bdb.fuel bdb.start
        (.read (BlockEntry.ofBytes bdb.fresh id minSize bytes).payload 0)).run.answer
          bdb.memory = some none →
      Entered bdb id heap entered b entry →
      Added bdb id minSize bytes heap blocks
        { entered with
          releases := entered.releases ++ [⟨some ⟨b, dataOffset⟩, entry.allocated, none⟩] }
        blocks none

theorem addEntry_cases {source : State BlockEntry} {tempBlock : Option Heap.Pointer} {minSize : Nat}
    {bytes : List UInt8} {blocks blocks' : List Heap.Pointer} (ordered : heap.Ordered)
    (temp : TempBlock bdb id heap source tempBlock)
    (h : bdb.addEntry id minSize tempBlock bytes blocks source = some (blocks', heap')) :
    ∃ entry, (keepEntry bdb.fuel bdb.start (.ofBytes bdb.fresh id minSize bytes)).run.answer
        bdb.memory = some entry ∧
      Added bdb id minSize bytes heap blocks heap' blocks' entry := by
  obtain ⟨allocated, stored, entered, hMalloc, hStore, hFree, hEntered⟩ :=
    entered_spec ordered temp (.ofBytes bdb.fresh id minSize bytes)
  unfold Bdb.addEntry at h
  rw [run_bind hMalloc, run_bind hStore, run_bind hFree] at h
  by_cases hPtrs : id = .lfpDataPtrs
  · rw [if_pos hPtrs] at h
    obtain ⟨fixed, _, hFixup, h⟩ := run_bind_some h
    obtain ⟨hFixed, rfl⟩ := reading_some hFixup
    refine ⟨_, keepEntry_of_fixup hPtrs hFixed, ?_⟩
    cases fixed with
    | none =>
        cases h
        exact .rejected hPtrs hFixed hEntered
    | some ptrs =>
        obtain ⟨patched, hPatch, hEntered⟩ := hEntered.patch ptrs
        dsimp only at h
        rw [run_bind hPatch] at h
        cases h
        refine .kept (fun _ => ?_) rfl rfl hEntered
        rw [hFixed]
        exact nofun
  · rw [if_neg hPtrs] at h
    cases h
    refine ⟨_, ?_, .kept (fun hId => absurd hId hPtrs) rfl rfl hEntered⟩
    have hOther : (BlockEntry.ofBytes bdb.fresh id minSize bytes).id ≠ .lfpDataPtrs := hPtrs
    rw [keepEntry, if_neg hOther]
    rfl

/-- The entry of a section depends on the bytes that are copied for it. -/
theorem answer_of_copied {bytes : List UInt8} (h : bdb.Copied id bytes) (minSize : Nat) :
    (Vbt.initBdbBlock bdb.fuel bdb.start bdb.version bdb.fresh id minSize).run.answer bdb.memory =
      (keepEntry bdb.fuel bdb.start (.ofBytes bdb.fresh id minSize bytes)).run.answer
        bdb.memory := by
  unfold Vbt.initBdbBlock
  cases h with
  | found hFound =>
      rw [answer_search_bind, hFound, Option.bind_some]
      dsimp only
      rw [answer_search_bind, answer_search_lift, Option.bind_some]
  | generated hPtrs hNone hMade =>
      rw [answer_search_bind, hNone, Option.bind_some]
      dsimp only
      rw [if_pos hPtrs, answer_search_bind, hMade, Option.bind_some]

/-- A call of `init_bdb_block`, and the entry that it adds. -/
inductive Called (bdb : Bdb) (id : BlockId) (minSize : Nat) (heap : State BlockEntry)
    (blocks : List Heap.Pointer) :
    State BlockEntry → List Heap.Pointer → Option BlockEntry → Prop
  | absent {heap' : State BlockEntry} :
      (∀ bytes, ¬bdb.Copied id bytes) → Settled heap heap' →
      Called bdb id minSize heap blocks heap' blocks none
  | copied {heap' : State BlockEntry} {blocks' : List Heap.Pointer} {entry : Option BlockEntry}
      {bytes : List UInt8} :
      bdb.Copied id bytes → Added bdb id minSize bytes heap blocks heap' blocks' entry →
      Called bdb id minSize heap blocks heap' blocks' entry

theorem initBdbBlock_cases {minSize : Nat} {blocks blocks' : List Heap.Pointer}
    (ordered : heap.Ordered)
    (h : bdb.initBdbBlock id minSize blocks heap = some (blocks', heap')) :
    ∃ entry, (Vbt.initBdbBlock bdb.fuel bdb.start bdb.version bdb.fresh id minSize).run.answer
        bdb.memory = some entry ∧
      Called bdb id minSize heap blocks heap' blocks' entry := by
  obtain ⟨result, middle, hSource, h⟩ := run_bind_some h
  obtain ⟨hAnswer, sourced⟩ := sourceBlock_cases ordered hSource
  cases sourced with
  | absent hNot settled =>
      cases h
      exact ⟨none, hAnswer rfl minSize, .absent hNot settled⟩
  | copied hCopied temp =>
      obtain ⟨entry, hKept, added⟩ := addEntry_cases ordered temp h
      exact ⟨entry, (answer_of_copied hCopied minSize).trans hKept, .copied hCopied added⟩

end Steps

end NootedBlue.Vbt.Allocating
