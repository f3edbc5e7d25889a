import Mathlib.Data.Finset.Card
import NootedBlue.Wa.Storage

/-! Additions to a list of workarounds in memory. What the list holds does not depend
on its memory, as long as its length stays below the largest one that can be aligned
up. What is given back does: a chunk that is full moves with every addition, and the
size that comes with the release is that of the entries in it. -/
namespace NootedBlue.Wa

open Heap

/-- Calls of `_wa_add`, from an empty list on. -/
def additions (entries : List I915Wa) : Run I915Wa StoredList :=
  entries.foldlM StoredList.add .empty

/-- The calls, and `wa_init_finish` after them. -/
def finished (entries : List I915Wa) : Run I915Wa StoredList := do
  let wal ← additions entries
  wal.finish

/-- The registers of some additions. -/
def registers (entries : List I915Wa) : Finset Nat := (entries.map I915Wa.reg).toFinset

/-- An addition to a register of a list whose last chunk is full. -/
def MergesFull (entries : List I915Wa) (wa : I915Wa) : Prop :=
  wa.reg ∈ registers entries ∧ waListChunk ∣ (registers entries).card

/-- No addition is to a register of a list whose last chunk is full. -/
def NoneMergesFull (entries : List I915Wa) : Prop :=
  ∀ before wa, before ++ [wa] <+: entries → ¬MergesFull before wa

/-- The bits of an addition are in an entry. -/
structure I915Wa.Contains (wa addition : I915Wa) : Prop where
  set : addition.set &&& wa.set = addition.set
  clr : addition.clr &&& wa.clr = addition.clr
  read : addition.read &&& wa.read = addition.read

/-- The entries that a list in memory has. -/
structure StoredList.Reads (wal : StoredList) (heap : State I915Wa) (list : List I915Wa) :
    Prop where
  count : wal.count = list.length
  entries : ∀ i wa, list[i]? = some wa →
    load sizeofI915Wa wal.list i heap = some (wa, heap)

/-- Every release is of a block with its size, and the list is the only block at the
end, if something was added. -/
def LedgerRight (entries : List I915Wa) : Prop :=
  ∃ wal heap, finished entries .empty = some (wal, heap) ∧
    (∀ release ∈ heap.releases, release.Right) ∧ (entries = [] → heap.live = ∅) ∧
    (entries ≠ [] → ∃ a, wal.list = some ⟨a, 0⟩ ∧ heap.live = {a})

/-- What a list keeps of some additions. -/
structure KeepsAdditions (list entries : List I915Wa) : Prop where
  increasing : Keyed.Increasing I915Wa.reg list
  offsets : ∀ reg, (∃ wa ∈ list, wa.reg = reg) ↔ ∃ wa ∈ entries, wa.reg = reg
  last : ∀ wa ∈ list, ∀ addition, (own wa.reg entries).getLast? = some addition →
    wa.Contains addition

/-- The additions return, so that every access is inside of its block, and the list has
what it keeps of them and counts them. -/
def AdditionsKept (entries : List I915Wa) (waCount : Nat) : Prop :=
  ∃ wal heap list, additions entries .empty = some (wal, heap) ∧ wal.Reads heap list ∧
    KeepsAdditions list entries ∧ wal.waCount = waCount

section Model

variable {entries : List I915Wa} {wa : I915Wa}

theorem addAll_append (entries : List I915Wa) (wa : I915Wa) :
    addAll (entries ++ [wa]) = (addAll entries).add wa := by
  simp [addAll, List.foldl_append]

theorem mem_registers {reg : Nat} : reg ∈ registers entries ↔ ∃ wa ∈ entries, wa.reg = reg := by
  simp [registers]

/-- The entries are for the registers of the additions. -/
theorem offsets_addAll (entries : List I915Wa) (reg : Nat) :
    (∃ wa ∈ (addAll entries).list, wa.reg = reg) ↔ ∃ wa ∈ entries, wa.reg = reg := by
  have hList := represents_addAll entries
  constructor
  · rintro ⟨wa, hMem, rfl⟩
    have hMerged := (hList.mem_iff wa).mp hMem
    cases hOwn : own wa.reg entries with
    | nil =>
        rw [hOwn] at hMerged
        cases hMerged
    | cons first rest =>
        have hFirst : first ∈ own wa.reg entries := by
          rw [hOwn]
          exact List.mem_cons_self
        obtain ⟨hMem, hReg⟩ := List.mem_filter.mp hFirst
        exact ⟨first, hMem, of_decide_eq_true hReg⟩
  · rintro ⟨wa, hMem, rfl⟩
    have hOwn : wa ∈ own wa.reg entries := List.mem_filter.mpr ⟨hMem, decide_eq_true rfl⟩
    cases hMerged : mergeAll (own wa.reg entries) with
    | none =>
        cases hEmpty : own wa.reg entries with
        | nil =>
            rw [hEmpty] at hOwn
            cases hOwn
        | cons first rest =>
            rw [hEmpty] at hMerged
            cases hMerged
    | some merged =>
        have hReg := mergeAll_reg hMerged
        exact ⟨merged, (hList.mem_iff merged).mpr (by rw [hReg]; exact hMerged), hReg⟩

/-- There are as many entries as registers. -/
theorem length_addAll (entries : List I915Wa) :
    (addAll entries).list.length = (registers entries).card := by
  apply Keyed.length_eq_card (represents_addAll entries).increasing
  intro reg
  rw [mem_registers, offsets_addAll]

/-- An entry contains the addition that was merged last. -/
theorem contains_last {list : List I915Wa} {addition : I915Wa} (h : mergeAll list = some wa)
    (hLast : list.getLast? = some addition) : wa.Contains addition := by
  obtain ⟨before, rfl⟩ := List.getLast?_eq_some_iff.mp hLast
  rw [mergeAll_append] at h
  have hBits (old new : Word) : new &&& (old ||| new) = new := by
    ext i
    rw [BitVec.getElem_and, BitVec.getElem_or]
    cases old[i] <;> cases new[i] <;> rfl
  cases hOld : mergeAll before with
  | none =>
      rw [hOld] at h
      cases h
      exact ⟨BitVec.and_self, BitVec.and_self, BitVec.and_self⟩
  | some old =>
      rw [hOld] at h
      cases h
      exact ⟨hBits _ _, hBits _ _, hBits _ _⟩

theorem keeps_addAll (entries : List I915Wa) : KeepsAdditions (addAll entries).list entries where
  increasing := (represents_addAll entries).increasing
  offsets := offsets_addAll entries
  last := fun wa hMem _ hLast =>
    contains_last (((represents_addAll entries).mem_iff wa).mp hMem) hLast

theorem waCount_addAll (entries : List I915Wa) : (addAll entries).waCount = entries.length := by
  induction entries using List.reverseRecOn with
  | nil => rfl
  | append_singleton entries wa ih =>
      rw [addAll_append, List.length_append, List.length_singleton, ← ih]
      cases hFound : Keyed.search I915Wa.reg (addAll entries).list wa.reg with
      | some mid => rw [add_found hFound]
      | none => rw [add_missing hFound]

/-- A list that is not full has the room of a whole chunk, and a chunk that was
filled by a merge has another one behind it. -/
theorem room_grow {model : I915WaList} (room : model.Room) :
    model.grow.capacity = (model.list.length / waListChunk + 1) * waListChunk := by
  rw [I915WaList.grow]
  split
  · simp only [waListChunk] at *
    omega
  · next hPart => exact room hPart

theorem room_addAll (entries : List I915Wa) : (addAll entries).Room := by
  induction entries using List.reverseRecOn with
  | nil => exact fun hPart => absurd rfl hPart
  | append_singleton entries wa ih =>
      have hGrow := room_grow ih
      rw [addAll_append]
      cases hFound : Keyed.search I915Wa.reg (addAll entries).list wa.reg with
      | some mid =>
          rw [add_found hFound, I915WaList.Room, List.length_modify]
          exact fun _ => hGrow
      | none =>
          rw [add_missing hFound, I915WaList.Room, Keyed.length_insertLast]
          intro hPart
          simp only [hGrow, waListChunk] at hPart ⊢
          omega

theorem length_lt_grow (entries : List I915Wa) :
    (addAll entries).list.length < (addAll entries).grow.capacity := by
  rw [room_grow (room_addAll entries)]
  simp only [waListChunk]
  omega

/-- The registers after an addition. -/
theorem registers_append (entries : List I915Wa) (wa : I915Wa) :
    registers (entries ++ [wa]) = insert wa.reg (registers entries) := by
  ext reg
  simp [registers]

/-- What is given back has the size of its block when the list fills the block. -/
theorem addReleases_right (model : I915WaList) (pointer : Option Pointer) :
    (∀ release ∈ model.addReleases pointer, release.Right) ↔
      (model.list.length % waListChunk = 0 → model.list ≠ [] →
        model.capacity = model.list.length) := by
  rw [I915WaList.addReleases]
  split
  · next h =>
      simp only [List.forall_mem_singleton, Release.Right, Option.some_inj, sizeofI915Wa]
      exact ⟨fun hSame _ _ => by omega, fun hSame => by rw [hSame h.1 h.2]⟩
  · next h => exact iff_of_true (by simp) fun hFull hNonempty => absurd ⟨hFull, hNonempty⟩ h

/-- The release of the next addition has the size of the block, unless the last
one was merged into a full list. -/
theorem addReleases_right_iff (entries : List I915Wa) (wa : I915Wa) (pointer : Option Pointer) :
    (∀ release ∈ (addAll (entries ++ [wa])).addReleases pointer, release.Right) ↔
      ¬MergesFull entries wa := by
  have hLength := length_addAll (entries ++ [wa])
  have hGrow := room_grow (room_addAll entries)
  rw [length_addAll] at hGrow
  have hCapacity : (addAll (entries ++ [wa])).capacity = (addAll entries).grow.capacity := by
    rw [addAll_append]
    cases hFound : Keyed.search I915Wa.reg (addAll entries).list wa.reg with
    | some mid => rw [add_found hFound]
    | none => rw [add_missing hFound]
  rw [addReleases_right, hCapacity, hGrow, hLength, registers_append, MergesFull]
  by_cases hMem : wa.reg ∈ registers entries
  · have hSome : (registers entries).card ≠ 0 := Finset.card_ne_zero_of_mem hMem
    rw [Finset.insert_eq_of_mem hMem]
    constructor
    · rintro hRight ⟨-, hFull⟩
      have hSame := hRight (Nat.mod_eq_zero_of_dvd hFull) ?_
      · simp only [waListChunk] at *
        omega
      · apply List.ne_nil_of_length_pos
        rw [hLength, registers_append, Finset.insert_eq_of_mem hMem]
        exact Nat.pos_of_ne_zero hSome
    · intro hPart hFull _
      exact absurd ⟨hMem, Nat.dvd_of_mod_eq_zero hFull⟩ hPart
  · rw [Finset.card_insert_of_notMem hMem]
    simp only [waListChunk] at *
    refine iff_of_true (fun hFull _ => by omega) fun h => hMem h.1

theorem finishReleases_right (h : (addAll entries).list.length ≤ 2 ^ 32 - 16)
    (pointer : Option Pointer) :
    ∀ release ∈ (addAll entries).finishReleases pointer, release.Right := by
  rw [I915WaList.finishReleases]
  split
  · next hPart =>
      rw [List.forall_mem_singleton, Release.Right, room_addAll entries hPart, align2, unsigned]
      simp only [waListChunk] at *
      congr 2
      omega
  · simp

end Model

section Runs

variable {entries : List I915Wa} {wa : I915Wa}

theorem additions_append (entries : List I915Wa) (wa : I915Wa) :
    additions (entries ++ [wa]) = additions entries >>= fun wal => wal.add wa := by
  simp [additions, List.foldlM_append]

theorem card_dropLast (entries : List I915Wa) :
    (registers entries.dropLast).card ≤ (registers entries).card := by
  apply Finset.card_le_card
  intro reg hReg
  obtain ⟨wa, hMem, rfl⟩ := mem_registers.mp hReg
  exact mem_registers.mpr ⟨wa, List.mem_of_mem_dropLast hMem, rfl⟩

theorem card_le_dropLast (entries : List I915Wa) :
    (registers entries).card ≤ (registers entries.dropLast).card + 1 := by
  induction entries using List.reverseRecOn with
  | nil => exact Nat.zero_le _
  | append_singleton entries wa _ =>
      rw [List.dropLast_concat, registers_append]
      exact Finset.card_insert_le _ _

theorem noneMergesFull_append :
    NoneMergesFull (entries ++ [wa]) ↔ NoneMergesFull entries ∧ ¬MergesFull entries wa := by
  constructor
  · intro h
    exact ⟨fun before other hPrefix => h before other (hPrefix.trans (List.prefix_append _ _)),
      h entries wa (List.prefix_refl _)⟩
  · rintro ⟨hBefore, hLast⟩ before other hPrefix
    rcases List.prefix_concat_iff.mp hPrefix with hEq | hPrefix
    · obtain ⟨rfl, hSame⟩ := List.append_inj' hEq rfl
      cases hSame
      exact hLast
    · exact hBefore before other hPrefix

/-- The releases up to the next addition. -/
theorem noneMergesFull_iff (entries : List I915Wa) (pointer : Option Pointer) :
    NoneMergesFull entries ↔ NoneMergesFull entries.dropLast ∧
      ∀ release ∈ (addAll entries).addReleases pointer, release.Right := by
  induction entries using List.reverseRecOn with
  | nil => simp [addAll, I915WaList.empty, I915WaList.addReleases]
  | append_singleton entries wa _ =>
      rw [noneMergesFull_append, addReleases_right_iff, List.dropLast_concat]

/-- Additions in memory are those of the model. -/
theorem additions_spec (hSmall : (registers entries.dropLast).card < 2 ^ 32 - 16) :
    ∃ wal heap, additions entries .empty = some (wal, heap) ∧
      wal.Refines heap (addAll entries) ∧
      ((∀ release ∈ heap.releases, release.Right) ↔ NoneMergesFull entries.dropLast) := by
  induction entries using List.reverseRecOn with
  | nil =>
      refine ⟨.empty, .empty, rfl, ?_, ?_⟩
      · exact {
          stores := .none (by ext; simp [State.live, State.empty])
          count := rfl
          waCount := rfl
          ordered := fun a ha => by simp [State.live, State.empty] at ha }
      · simp [State.empty, NoneMergesFull]
  | append_singleton entries wa ih =>
      rw [List.dropLast_concat] at hSmall ⊢
      obtain ⟨wal, heap, hRun, refines, hRight⟩ :=
        ih (Nat.lt_of_le_of_lt (card_dropLast entries) hSmall)
      rw [← length_addAll] at hSmall
      obtain ⟨wal', heap', hAdd, refines', hReleases⟩ :=
        add_spec refines hSmall (length_lt_grow entries) wa
      refine ⟨wal', heap', ?_, ?_, ?_⟩
      · rw [additions_append, run_bind hRun, hAdd]
      · rw [addAll_append]
        exact refines'
      · rw [hReleases, List.forall_mem_append, hRight, ← noneMergesFull_iff]

/-- An addition to a list that is too long to be aligned up does not return. -/
theorem additions_none (hLarge : 2 ^ 32 - 16 ≤ (registers entries.dropLast).card) :
    additions entries .empty = none := by
  induction entries using List.reverseRecOn with
  | nil => simp [registers] at hLarge
  | append_singleton entries wa ih =>
      rw [List.dropLast_concat] at hLarge
      rw [additions_append]
      rcases Nat.lt_or_ge (registers entries.dropLast).card (2 ^ 32 - 16) with hSmall | hBefore
      · obtain ⟨wal, heap, hRun, refines, -⟩ := additions_spec hSmall
        have hFull : (addAll entries).list.length = 2 ^ 32 - 16 := by
          have hStep := card_le_dropLast entries
          rw [length_addAll]
          omega
        rw [run_bind hRun, add_none refines hFull]
      · exact run_bind_none (ih hBefore)

/-- What a run ends with, after its additions. -/
theorem finished_spec (hSmall : (registers entries.dropLast).card < 2 ^ 32 - 16) :
    ∃ wal heap, finished entries .empty = some (wal, heap) ∧
      ((∀ release ∈ heap.releases, release.Right) ↔ NoneMergesFull entries.dropLast) ∧
      (entries = [] → heap.live = ∅) ∧
      (entries ≠ [] → ∃ a, wal.list = some ⟨a, 0⟩ ∧ heap.live = {a}) := by
  obtain ⟨wal, heap, hRun, refines, hRight⟩ := additions_spec hSmall
  obtain ⟨wal', heap', capacity, hFinish, stores, hReleases⟩ := finish_spec refines
  have hLength : (addAll entries).list.length ≤ 2 ^ 32 - 16 := by
    have hStep := card_le_dropLast entries
    rw [length_addAll]
    omega
  have hEmpty : entries = [] ↔ (addAll entries).list = [] := by
    rw [← List.length_eq_zero_iff, ← List.length_eq_zero_iff, length_addAll, Finset.card_eq_zero,
      List.length_eq_zero_iff]
    simp [registers]
  refine ⟨wal', heap', ?_, ?_, ?_⟩
  · exact (run_bind hRun).trans hFinish
  · rw [hReleases, List.forall_mem_append, hRight]
    exact and_iff_left (finishReleases_right hLength wal.list)
  · rw [hEmpty, ne_eq, hEmpty]
    generalize wal'.list = pointer at *
    generalize (addAll entries).list = list at *
    cases stores with
    | none hLive => exact ⟨fun _ => hLive, fun h => absurd rfl h⟩
    | some hNonempty _ hLive => exact ⟨fun h => absurd h hNonempty, fun _ => ⟨_, rfl, hLive⟩⟩

/-- Every release is right and one block is left, exactly when the list stays short
enough to be aligned up and only the last addition may be one to a register of a list
whose last chunk is full. -/
theorem ledger_right_iff (entries : List I915Wa) :
    LedgerRight entries ↔
      (registers entries.dropLast).card < 2 ^ 32 - 16 ∧ NoneMergesFull entries.dropLast := by
  constructor
  · rintro ⟨wal, heap, hRun, hRight, -⟩
    rcases Nat.lt_or_ge (registers entries.dropLast).card (2 ^ 32 - 16) with hSmall | hLarge
    · obtain ⟨wal', heap', hRun', hIff, -⟩ := finished_spec hSmall
      cases hRun.symm.trans hRun'
      exact ⟨hSmall, hIff.mp hRight⟩
    · cases hRun.symm.trans (run_bind_none (additions_none hLarge))
  · rintro ⟨hSmall, hNone⟩
    obtain ⟨wal, heap, hRun, hIff, hLive⟩ := finished_spec hSmall
    exact ⟨wal, heap, hRun, hIff.mpr hNone, hLive⟩

/-- Sixteen registers fill the first chunk. An addition that is merged into it moves
the list, and the next one gives back 320 bytes of a block of 640. -/
theorem merge_into_full_not_right :
    ¬LedgerRight ((List.range 16).map (fun i => waWrite (4 * i) 1) ++
      [waWrite 0 2, waWrite 64 1]) := by
  rintro ⟨wal, heap, hRun, hRight, -⟩
  have hSmall : (registers ((List.range 16).map (fun i => waWrite (4 * i) 1) ++
      [waWrite 0 2, waWrite 64 1]).dropLast).card < 2 ^ 32 - 16 := by decide
  obtain ⟨wal', heap', hRun', hIff, -⟩ := finished_spec hSmall
  cases hRun.symm.trans hRun'
  exact hIff.mp hRight ((List.range 16).map fun i => waWrite (4 * i) 1) (waWrite 0 2)
    (List.prefix_refl _) ⟨by decide, by decide⟩

/-- The list has one entry for every register that was added, in their order, and
counts the additions up to what an `unsigned int` holds, as long as it stays short enough
to be aligned up. -/
theorem additions_kept (hSmall : (registers entries.dropLast).card < 2 ^ 32 - 16) :
    AdditionsKept entries (entries.length % 2 ^ 32) := by
  obtain ⟨wal, heap, hRun, refines, -⟩ := additions_spec hSmall
  refine ⟨wal, heap, (addAll entries).list, hRun, ?_, keeps_addAll entries, ?_⟩
  · exact {
      count := refines.count
      entries := by
        intro i wa hEntry
        have stores := refines.stores
        generalize wal.list = pointer at *
        generalize (addAll entries).list = list at *
        cases stores with
        | none => cases hEntry
        | some _ holds _ => exact holds.load hEntry }
  · rw [refines.waCount, waCount_addAll, unsigned]

/-- Two registers, one of them twice. -/
theorem additions_kept_twice :
    AdditionsKept [waWrite 4 1, waWrite 0 2, waWrite 4 8] (3 % 2 ^ 32) :=
  additions_kept (by decide)

theorem not_additionsKept_replicate {n : Nat} (hWrap : n % 2 ^ 32 ≠ n) (wa : I915Wa) :
    ¬AdditionsKept (List.replicate n wa) n := by
  rintro ⟨wal, heap, -, hRun, -, -, hCount⟩
  have hSmall : (registers (List.replicate n wa).dropLast).card < 2 ^ 32 - 16 := by
    apply Nat.lt_of_le_of_lt (card_dropLast _)
    apply Nat.lt_of_le_of_lt _ (show 1 < 2 ^ 32 - 16 by decide)
    apply Finset.card_le_one.mpr
    intro first hFirst second hSecond
    obtain ⟨_, hMem, rfl⟩ := mem_registers.mp hFirst
    obtain ⟨_, hMem', rfl⟩ := mem_registers.mp hSecond
    rw [List.eq_of_mem_replicate hMem, List.eq_of_mem_replicate hMem']
  obtain ⟨wal', heap', hRun', refines, -⟩ := additions_spec hSmall
  cases hRun.symm.trans hRun'
  rw [refines.waCount, waCount_addAll, List.length_replicate] at hCount
  exact hWrap hCount

theorem additions_range_none {n : Nat} (hLarge : 2 ^ 32 - 16 ≤ n) :
    additions ((List.range (n + 1)).map fun reg => waWrite reg 0) .empty = none := by
  apply additions_none
  have hRegisters : registers ((List.range (n + 1)).map fun reg => waWrite reg 0).dropLast =
      Finset.range n := by
    ext reg
    rw [List.range_succ, List.map_append, List.map_singleton, List.dropLast_concat, mem_registers,
      Finset.mem_range]
    simp [waWrite, waWriteClrSet, waAdd]
  rw [hRegisters, Finset.card_range]
  exact hLarge

/-- The count of the additions wraps around, and an addition to a list of 2 ^ 32 - 16
registers copies them to a block of no bytes. -/
theorem count_wraps_and_copy_faults :
    ¬AdditionsKept (List.replicate (2 ^ 32) (waWrite 0 0)) (2 ^ 32) ∧
      additions ((List.range (2 ^ 32 - 16 + 1)).map fun reg => waWrite reg 0) .empty = none :=
  ⟨not_additionsKept_replicate (by decide) _, additions_range_none (Nat.le_refl _)⟩

end Runs

end NootedBlue.Wa
