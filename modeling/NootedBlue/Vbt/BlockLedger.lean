import Mathlib.Data.List.Forall2
import NootedBlue.Vbt.Allocations

/-! The ledger of the copies of the blocks, over the whole table of sections. The entries
are where they should be in every run. The releases are right only in runs that find no
section, since there is no block of made up pointers to give back for one that is found. -/
namespace NootedBlue.Vbt.Allocating

open Interaction Bytes Heap

/-- The least number of bytes of a section, behind some entries. -/
def minSizeBehind (entries : List BlockEntry) (id : BlockId) : Nat :=
  if id = .lfpData then Vbt.lfpDataMinSize entries else id.minSize

/-- The list after the calls for some sections. Each node has its entry, and each entry
has room for the bytes that were copied and for the least size. -/
structure Listed (bdb : Bdb) (done : List BlockId) (entries : List BlockEntry)
    (blocks : List Heap.Pointer) (heap : State BlockEntry) : Prop where
  ordered : heap.Ordered
  nodes : List.Forall₂ (NodeOf heap) blocks entries
  room : ∀ entry ∈ entries, ∃ earlier bytes, earlier <+: entries ∧ bdb.Copied entry.id bytes ∧
    entry.allocated = max (minSizeBehind earlier entry.id) (bytes.length - 3) + 3
  ids : (entries.map BlockEntry.id).Sublist done

/-- Every release is of a kind, and what is live is in the list. -/
structure Clean (ok : Release → Prop) (blocks : List Heap.Pointer) (heap : State BlockEntry) :
    Prop where
  releases : ∀ release ∈ heap.releases, ok release
  live : ∀ a ∈ heap.live, ⟨a, 0⟩ ∈ blocks

/-- The ledger of the list of blocks: only blocks that are live are given back, with
their size, nothing else is live than the nodes of the list, and each of these has room
for its copy and is found at its section. -/
structure Ledger (bdb : Bdb) (ok : Release → Prop) (done : List BlockId)
    (entries : List BlockEntry) (blocks : List Heap.Pointer) (heap : State BlockEntry) :
    Prop where
  clean : Clean ok blocks heap
  listed : Listed bdb done entries blocks heap
  found : ∀ node ∈ blocks, ∃ entry ∈ entries, NodeOf heap node entry ∧
    bdbFindSection entry.id blocks heap = some (some node, heap)

section Find

variable {heap : State BlockEntry} {blocks : List Heap.Pointer} {entries : List BlockEntry}

theorem NodeOf.load {node : Heap.Pointer} {entry : BlockEntry} (h : NodeOf heap node entry) :
    load dataOffset (some node) 0 heap = some (entry, heap) := by
  obtain ⟨a, offset⟩ := node
  obtain ⟨rfl, holds⟩ := h
  exact (holds.smaller (Nat.le_add_right _ _)).load rfl

/-- The section of a list in memory. -/
theorem bdbFindSection_spec (nodes : List.Forall₂ (NodeOf heap) blocks entries) (id : BlockId) :
    ∃ node, bdbFindSection id blocks heap = some (node, heap) ∧
      Option.Rel (NodeOf heap) node (Vbt.bdbFindSection entries id) := by
  induction nodes with
  | nil => exact ⟨none, rfl, .none⟩
  | @cons node entry _ _ first _ ih =>
      rw [bdbFindSection, run_bind first.load, Vbt.bdbFindSection, List.find?_cons]
      by_cases hId : entry.id = id
      · rw [if_pos hId, decide_eq_true hId]
        exact ⟨some node, rfl, .some first⟩
      · rw [if_neg hId, decide_eq_false hId]
        exact ih

theorem lfpDataMinSize_spec (nodes : List.Forall₂ (NodeOf heap) blocks entries) :
    lfpDataMinSize blocks heap = some (Vbt.lfpDataMinSize entries, heap) := by
  obtain ⟨node, hFind, hNode⟩ := bdbFindSection_spec nodes .lfpDataPtrs
  rw [lfpDataMinSize, run_bind hFind, Vbt.lfpDataMinSize]
  generalize Vbt.bdbFindSection entries .lfpDataPtrs = found at *
  cases hNode with
  | none => rfl
  | some nodeOf =>
      dsimp only
      rw [run_bind nodeOf.load]
      rfl

theorem minSizeIn_spec (nodes : List.Forall₂ (NodeOf heap) blocks entries) (id : BlockId) :
    minSizeIn blocks id heap = some (minSizeBehind entries id, heap) := by
  rw [minSizeIn, minSizeBehind]
  split
  · exact lfpDataMinSize_spec nodes
  · rfl

/-- Each node is found at its section when no section is there twice. -/
theorem found_of_nodup (nodes : List.Forall₂ (NodeOf heap) blocks entries)
    (hNodup : (entries.map BlockEntry.id).Nodup) :
    ∀ node ∈ blocks, ∃ entry ∈ entries, NodeOf heap node entry ∧
      bdbFindSection entry.id blocks heap = some (some node, heap) := by
  induction nodes with
  | nil => simp
  | @cons first firstEntry rest restEntries nodeOf _ ih =>
      obtain ⟨hFirst, hRest⟩ := List.nodup_cons.mp hNodup
      intro node hMem
      rcases List.mem_cons.mp hMem with rfl | hMem
      · refine ⟨firstEntry, List.mem_cons_self, nodeOf, ?_⟩
        rw [bdbFindSection, run_bind nodeOf.load, if_pos rfl]
        rfl
      · obtain ⟨entry, hEntry, hNode, hFind⟩ := ih hRest node hMem
        have hOther : firstEntry.id ≠ entry.id := by
          intro hSame
          rw [hSame] at hFirst
          exact hFirst (List.mem_map_of_mem hEntry)
        refine ⟨entry, List.mem_cons_of_mem _ hEntry, hNode, ?_⟩
        rw [bdbFindSection, run_bind nodeOf.load, if_neg hOther, hFind]

end Find

section Calls

variable {bdb : Bdb} {heap heap' : State BlockEntry} {id : BlockId} {minSize : Nat}
  {blocks blocks' : List Heap.Pointer} {entries : List BlockEntry} {entry : Option BlockEntry}
  {done : List BlockId}

theorem Bdb.Copied.unique {first second : List UInt8} (h : bdb.Copied id first)
    (h' : bdb.Copied id second) : first = second := by
  cases h with
  | found hFound =>
      cases h' with
      | found hFound' =>
          cases hFound.symm.trans hFound'
          rfl
      | generated _ hNone => cases hFound.symm.trans hNone
  | generated _ hNone hMade =>
      cases h' with
      | found hFound' => cases hNone.symm.trans hFound'
      | generated _ _ hMade' =>
          cases hMade.symm.trans hMade'
          rfl

/-- The list after a call. -/
theorem Called.listed (called : Called bdb id minSize heap blocks heap' blocks' entry)
    (h : Listed bdb done entries blocks heap) (hMinSize : minSize = minSizeBehind entries id) :
    Listed bdb (done ++ [id]) (entries ++ entry.toList) blocks' heap' := by
  have hIds := h.ids.trans (List.sublist_append_left done [id])
  cases called with
  | absent _ settled =>
      rw [Option.toList_none, List.append_nil]
      exact ⟨settled.ordered, h.nodes.imp fun _ _ => settled.nodes, h.room, hIds⟩
  | copied hCopied added =>
      cases added with
      | rejected _ _ entered =>
          rw [Option.toList_none, List.append_nil]
          refine ⟨entered.ordered, h.nodes.imp fun _ _ node => ?_, h.room, hIds⟩
          exact ⟨node.start, (entered.nodes node).holds.log _⟩
      | @kept _ b entry _ hId hAllocated entered =>
          rw [Option.toList_some]
          exact {
            ordered := entered.ordered
            nodes := List.rel_append (h.nodes.imp fun _ _ => entered.nodes)
              (.cons ⟨rfl, entered.holds⟩ .nil)
            room := by
              intro other hOther
              rcases List.mem_append.mp hOther with hOld | hNew
              · obtain ⟨earlier, bytes, hEarlier, hRoom⟩ := h.room other hOld
                exact ⟨earlier, bytes, hEarlier.trans (List.prefix_append _ _), hRoom⟩
              · rw [List.mem_singleton.mp hNew, hId]
                rw [hMinSize] at hAllocated
                exact ⟨entries, _, List.prefix_append _ _, hCopied, hAllocated⟩
            ids := by
              rw [List.map_append, List.map_singleton, hId]
              exact h.ids.append (List.Sublist.refl _) }

/-- A call keeps the ledger clean exactly when the release of `temp_block` is of the
kind, and no pointers are rejected. -/
theorem Called.clean_iff {ok : Release → Prop}
    (hRight : ∀ release : Release, release.Right → ok release)
    (hInside : ∀ b bytes, ¬ok ⟨some ⟨b, dataOffset⟩, bytes, none⟩)
    (called : Called bdb id minSize heap blocks heap' blocks' entry) :
    Clean ok blocks' heap' ↔
      Clean ok blocks heap ∧ (bdb.Found id → ok ⟨none, ptrsBlockSize, none⟩) ∧
        ¬bdb.Rejected id := by
  cases called with
  | absent hNot settled =>
      obtain ⟨settledReleases, hReleases, hSettled⟩ := settled.releases
      have hNotFound : ¬bdb.Found id := fun ⟨_, hFound⟩ => hNot _ (.found hFound)
      have hNotRejected : ¬bdb.Rejected id := fun ⟨_, bytes, hCopied, _⟩ => hNot bytes hCopied
      constructor
      · intro clean
        refine ⟨⟨fun release hMem => clean.releases release ?_, ?_⟩,
          fun hFound => absurd hFound hNotFound, hNotRejected⟩
        · rw [hReleases]
          exact List.mem_append_left _ hMem
        · rw [← settled.live]
          exact clean.live
      · rintro ⟨clean, -, -⟩
        refine ⟨?_, ?_⟩
        · rw [hReleases]
          exact List.forall_mem_append.mpr
            ⟨clean.releases, fun release hMem => hRight release (hSettled release hMem)⟩
        · rw [settled.live]
          exact clean.live
  | copied hCopied added =>
      cases added with
      | rejected hPtrs hFixed entered =>
          have hRejected : bdb.Rejected id := ⟨hPtrs, _, hCopied, hFixed⟩
          refine iff_of_false (fun clean => ?_) fun h => h.2.2 hRejected
          exact hInside _ _ (clean.releases _ (List.mem_append_right _ List.mem_cons_self))
      | @kept _ b entry hAccepted _ _ entered =>
          obtain ⟨release, hReleases, hNull, hTemp⟩ := entered.release
          have hNotRejected : ¬bdb.Rejected id := by
            rintro ⟨hPtrs, other, hOther, hFixed⟩
            rw [hOther.unique hCopied] at hFixed
            exact hAccepted hPtrs hFixed
          have hRelease : ok release ↔ (bdb.Found id → ok ⟨none, ptrsBlockSize, none⟩) := by
            by_cases hFound : bdb.Found id
            · rw [hNull hFound]
              exact ⟨fun h _ => h, fun h => h hFound⟩
            · exact iff_of_true (hRight _ (hTemp hFound)) fun h => absurd h hFound
          constructor
          · intro clean
            have hAll := clean.releases
            have hLive := clean.live
            rw [hReleases, List.forall_mem_append, List.forall_mem_singleton] at hAll
            rw [entered.live] at hLive
            refine ⟨⟨hAll.1, fun a ha => ?_⟩, hRelease.mp hAll.2, hNotRejected⟩
            rcases List.mem_append.mp (hLive a (.inr ha)) with hOld | hNew
            · exact hOld
            · cases List.mem_singleton.mp hNew
              exact absurd ha entered.fresh
          · rintro ⟨clean, hOk, -⟩
            refine ⟨?_, ?_⟩
            · rw [hReleases, List.forall_mem_append, List.forall_mem_singleton]
              exact ⟨clean.releases, hRelease.mpr hOk⟩
            · rw [entered.live]
              rintro a (rfl | hOld)
              · exact List.mem_append_right _ List.mem_cons_self
              · exact List.mem_append_left _ (clean.live a hOld)

/-- The calls for the sections of a table, which end with the entries of the model. -/
theorem initBdbBlocks_cases {ok : Release → Prop}
    (hRight : ∀ release : Release, release.Right → ok release)
    (hInside : ∀ b bytes, ¬ok ⟨some ⟨b, dataOffset⟩, bytes, none⟩) {rest : List BlockId}
    (h : bdb.initBdbBlocks rest blocks heap = some (blocks', heap'))
    (listed : Listed bdb done entries blocks heap) :
    ∃ final, (Vbt.initBdbBlocks bdb.fuel bdb.start bdb.version bdb.fresh rest entries).run.answer
        bdb.memory = some final ∧
      Listed bdb (done ++ rest) final blocks' heap' ∧
      (Clean ok blocks' heap' ↔ Clean ok blocks heap ∧ ∀ id ∈ rest,
        (bdb.Found id → ok ⟨none, ptrsBlockSize, none⟩) ∧ ¬bdb.Rejected id) := by
  induction rest generalizing done entries blocks heap with
  | nil =>
      cases h
      refine ⟨entries, rfl, ?_, by simp⟩
      rwa [List.append_nil]
  | cons id rest ih =>
      rw [Bdb.initBdbBlocks, run_bind (minSizeIn_spec listed.nodes id)] at h
      obtain ⟨middle, between, hCall, h⟩ := run_bind_some h
      obtain ⟨entry, hAnswer, called⟩ := initBdbBlock_cases listed.ordered hCall
      obtain ⟨final, hFinal, hListed, hClean⟩ := ih h (called.listed listed rfl)
      refine ⟨final, ?_, ?_, ?_⟩
      · rw [Vbt.initBdbBlocks, answer_search_bind]
        exact (congrArg (Option.bind · _) hAnswer).trans hFinal
      · rwa [List.append_assoc, List.singleton_append] at hListed
      · rw [hClean, called.clean_iff hRight hInside, List.forall_mem_cons, and_assoc]

end Calls

/-- The table has no section twice, so every node is found. -/
theorem found_of_prefix {bdb : Bdb} {heap : State BlockEntry} {blocks : List Heap.Pointer}
    {entries : List BlockEntry} {done : List BlockId} (hPrefix : done <+: bdbBlocks)
    (listed : Listed bdb done entries blocks heap) :
    ∀ node ∈ blocks, ∃ entry ∈ entries, NodeOf heap node entry ∧
      bdbFindSection entry.id blocks heap = some (some node, heap) := by
  have hTable : bdbBlocks.Nodup := by decide
  exact found_of_nodup listed.nodes ((hTable.sublist hPrefix.sublist).sublist listed.ids)

/-- The ledger of a run, for releases of a kind: what is given back wrongly is the
`temp_block` of a section that is found, and the data of pointers that are rejected. -/
theorem ledger_of_run {ok : Release → Prop}
    (hRight : ∀ release : Release, release.Right → ok release)
    (hInside : ∀ b bytes, ¬ok ⟨some ⟨b, dataOffset⟩, bytes, none⟩) {bdb : Bdb} {done : List BlockId}
    (hPrefix : done <+: bdbBlocks) {blocks : List Heap.Pointer} {heap : State BlockEntry}
    (hRun : bdb.initBdbBlocks done [] .empty = some (blocks, heap)) :
    ∃ entries, (Vbt.initBdbBlocks bdb.fuel bdb.start bdb.version bdb.fresh done []).run.answer
        bdb.memory = some entries ∧
      (Ledger bdb ok done entries blocks heap ↔ ∀ id ∈ done,
        (bdb.Found id → ok ⟨none, ptrsBlockSize, none⟩) ∧ ¬bdb.Rejected id) := by
  have hEmpty : ∀ a, a ∉ (State.empty : State BlockEntry).live := by
    intro a ha
    cases ha
  have listed : Listed bdb [] [] [] .empty :=
    ⟨fun a ha => absurd ha (hEmpty a), .nil, by simp, List.Sublist.refl _⟩
  have clean : Clean ok [] .empty := ⟨by simp [State.empty], fun a ha => absurd ha (hEmpty a)⟩
  obtain ⟨entries, hEntries, hListed, hClean⟩ := initBdbBlocks_cases hRight hInside hRun listed
  refine ⟨entries, hEntries, ?_⟩
  rw [and_iff_right clean] at hClean
  exact ⟨fun ledger => hClean.mp ledger.clean,
    fun h => ⟨hClean.mpr h, hListed, found_of_prefix hPrefix hListed⟩⟩

/-- The ledger is right, after the calls for the first sections of the table, exactly
when none of them is in the BDB, and pointers that were made up passed the checks. -/
theorem block_ledger_iff (bdb : Bdb) {done : List BlockId} (hPrefix : done <+: bdbBlocks)
    {blocks : List Heap.Pointer} {heap : State BlockEntry}
    (hRun : bdb.initBdbBlocks done [] .empty = some (blocks, heap)) :
    ∃ entries, (Vbt.initBdbBlocks bdb.fuel bdb.start bdb.version bdb.fresh done []).run.answer
        bdb.memory = some entries ∧
      (Ledger bdb Release.Right done entries blocks heap ↔
        ∀ id ∈ done, ¬bdb.Found id ∧ ¬bdb.Rejected id) := by
  have hNull : ¬Release.Right ⟨none, ptrsBlockSize, none⟩ := nofun
  obtain ⟨entries, hEntries, hLedger⟩ :=
    ledger_of_run (fun _ hRight => hRight) (fun _ _ => nofun) hPrefix hRun
  refine ⟨entries, hEntries, hLedger.trans ?_⟩
  simp only [hNull, imp_false]

/-- A BDB with two blocks of 4 and of 6 bytes, for which the table has no section. -/
def otherBdb : Bdb where
  memory offset :=
    match offset with
    | 18 => 22
    | 20 => 38
    | 22 => 250
    | 23 => 4
    | 29 => 251
    | 30 => 6
    | _ => 0
  fuel := 3
  start := 0
  version := 155
  fresh := ⟨fun _ _ => 0, .zeroed⟩

theorem otherBdb_not_found : ∀ id ∈ bdbBlocks,
    (find otherBdb.fuel otherBdb.start id).run.answer otherBdb.memory = some none := by
  decide +kernel

/-- All walks pass by both blocks, no pointers are made up, and nothing is given back. -/
theorem block_ledger_other : ∃ entries, Ledger otherBdb Release.Right bdbBlocks entries [] .empty := by
  have hNotFound (id : BlockId) (hMem : id ∈ bdbBlocks) : ¬ otherBdb.Found id := by
    intro ⟨block, hFound⟩
    rw [otherBdb_not_found id hMem] at hFound
    cases hFound
  obtain ⟨entries, -, hLedger⟩ := block_ledger_iff otherBdb (List.prefix_refl _) rfl
  refine ⟨entries, hLedger.mpr fun id hMem => ⟨hNotFound id hMem, ?_⟩⟩
  rintro ⟨rfl, bytes, hCopied, -⟩
  cases hCopied with
  | found hFound => exact hNotFound _ hMem ⟨_, hFound⟩
  | generated _ _ hGenerated =>
      have hNone : ((Vbt.generateLfpDataPtrs otherBdb.fuel otherBdb.start otherBdb.version
          otherBdb.fresh.lfpDataPtrs).run.answer otherBdb.memory).map Option.isSome =
            some false := by
        decide +kernel
      rw [hGenerated] at hNone
      cases hNone

/-- A BDB whose only block is one of 148 bytes of panel data pointers. -/
def pointersOnlyBdb : Bdb where
  memory offset :=
    match offset with
    | 18 => 22
    | 20 => 173
    | 22 => 41
    | 23 => 148
    | _ => 0
  fuel := 2
  start := 0
  version := 155
  fresh := ⟨fun _ _ => 0, .zeroed⟩

theorem pointers_only_run :
    (pointersOnlyBdb.initBdbBlocks bdbBlocks [] .empty).map (fun result =>
        (result.1, result.2.releases, (result.2.blocks 0).map Heap.Block.bytes)) =
      some ([], [⟨none, 151, none⟩, ⟨some ⟨0, 20⟩, 151, none⟩], some 175) := by
  decide +kernel

/-- The pointers are rejected, since there is no panel data. Nothing is given back for
`temp_block`, and the entry of 175 bytes is given back from its data on and stays live. -/
theorem rejected_pointers_leak :
    ∃ blocks heap, pointersOnlyBdb.initBdbBlocks bdbBlocks [] .empty = some (blocks, heap) ∧
      heap.releases = [⟨none, 151, none⟩, ⟨some ⟨0, 20⟩, 151, none⟩] ∧
      (heap.blocks 0).map Heap.Block.bytes = some 175 ∧
      ∀ entries, ¬Ledger pointersOnlyBdb Release.Right bdbBlocks entries blocks heap := by
  obtain ⟨⟨blocks, heap⟩, hRun, hResult⟩ := Option.map_eq_some_iff.mp pointers_only_run
  obtain ⟨-, hResult⟩ := Prod.mk.inj hResult
  obtain ⟨hReleases, hBlock⟩ := Prod.mk.inj hResult
  refine ⟨blocks, heap, hRun, hReleases, hBlock, fun entries ledger => ?_⟩
  have hFirst := ledger.clean.releases ⟨none, 151, none⟩
  rw [hReleases] at hFirst
  exact absurd (hFirst List.mem_cons_self) nofun

/-- Where the release of a null pointer counts for nothing, the ledger is right exactly
when no pointers are rejected. -/
theorem block_ledger_null_iff (bdb : Bdb) {done : List BlockId} (hPrefix : done <+: bdbBlocks)
    {blocks : List Heap.Pointer} {heap : State BlockEntry}
    (hRun : bdb.initBdbBlocks done [] .empty = some (blocks, heap)) :
    ∃ entries, (Vbt.initBdbBlocks bdb.fuel bdb.start bdb.version bdb.fresh done []).run.answer
        bdb.memory = some entries ∧
      (Ledger bdb (fun release => release.pointer = none ∨ release.Right) done entries blocks heap ↔
        ∀ id ∈ done, ¬bdb.Rejected id) := by
  obtain ⟨entries, hEntries, hLedger⟩ :=
    @ledger_of_run (fun release => release.pointer = none ∨ release.Right)
      (fun _ hRight => .inr hRight) (fun _ _ h => h.elim nofun nofun) bdb done hPrefix blocks heap hRun
  refine ⟨entries, hEntries, hLedger.trans ?_⟩
  simp

end NootedBlue.Vbt.Allocating
