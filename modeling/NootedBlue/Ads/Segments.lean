import Mathlib.Algebra.GroupWithZero.Nat
import Mathlib.Data.Finset.Card
import NootedBlue.Ads.Storage

/-! The sections of the engines in memory. At every point of a run the storage has the
section of each engine as the additions alone determine it, wherever it was moved, as long
as the entries can be counted in whole pages. -/
open Heap

namespace NootedBlue.Ads

/-- What the loop of `guc_mmio_reg_state_create` works on, with the storage in memory. The
counts are in the order of the engines. -/
structure StoredState where
  tempSet : StoredRegset
  adsRegsetCount : List Nat
  total : Nat

/-- One round of `for_each_engine`, with the registers that are added for the engine. -/
def StoredState.round (s : StoredState) (requests : List RegRequest) : Run MmioReg StoredState := do
  let used := s.tempSet.storageUsed
  let tempSet ← s.tempSet.init requests
  let count := (((tempSet.storageUsed : Int) - used) % 2 ^ 32).toNat
  pure ⟨tempSet, s.adsRegsetCount ++ [count], s.total + count⟩

/-- The rounds of `guc_mmio_reg_state_create`. -/
def stateCreate (engines : List (List RegRequest)) : Run MmioReg StoredState :=
  engines.foldlM StoredState.round ⟨.empty, [], 0⟩

/-- The entries of some engines: one for each offset that was added for an engine. -/
def entryCount (engines : List (List RegRequest)) : Nat :=
  (engines.map fun requests => (requests.map RegRequest.offset).toFinset.card).sum

/-- What holds at a point of a run, where some registers of an engine were added and `s` is
what the rounds of the engines before it have left. -/
structure SegmentsKept (engines : List (List RegRequest)) (requests : List RegRequest)
    (s : StoredState) (heap : State MmioReg) (current : StoredRegset) (heap' : State MmioReg) :
    Prop where
  entries : ∀ i reg, ((engines ++ [requests]).flatMap sectionOf)[i]? = some reg →
    load mmioRegSize current.storage i heap' = some (reg, heap')
  used : current.storageUsed = ((engines ++ [requests]).flatMap sectionOf).length
  unchanged : ∀ i < s.tempSet.storageUsed, ∃ reg,
    load mmioRegSize s.tempSet.storage i heap = some (reg, heap) ∧
      load mmioRegSize current.storage i heap' = some (reg, heap')
  counts : s.adsRegsetCount = engines.map fun added => (sectionOf added).length
  sum : s.adsRegsetCount.sum = s.tempSet.storageUsed
  search : ∀ entry, ∃ found, current.search entry heap' = some (found, heap') ∧
    (found.isSome ↔ ∃ reg ∈ sectionOf requests, reg.offset = entry.offset) ∧
    (found.isSome → ∃ reg ∈ sectionOf requests, reg.offset = entry.offset ∧
      loadAt mmioRegSize found heap' = some (reg, heap'))
  releases : ∀ release ∈ heap'.releases, release.Right

/-- The run returns, so that every access is inside of its block, and the sections hold what
was added. -/
def RegsetKept (engines : List (List RegRequest)) (requests : List RegRequest) : Prop :=
  (∀ added ∈ engines ++ [requests], HoldsRequests added (sectionOf added)) ∧
    ∃ s heap current heap', stateCreate engines .empty = some (s, heap) ∧
      s.tempSet.init requests heap = some (current, heap') ∧
      SegmentsKept engines requests s heap current heap'

section Sections

variable {requests : List RegRequest} {engines : List (List RegRequest)}

theorem sectionOf_append (requests : List RegRequest) (request : RegRequest) :
    sectionOf (requests ++ [request]) = addReg (sectionOf requests) request := by
  simp [sectionOf, List.foldl_append]

/-- A section has one entry for each offset. -/
theorem length_sectionOf (requests : List RegRequest) :
    (sectionOf requests).length = (requests.map RegRequest.offset).toFinset.card := by
  have holds := holds_sectionOf requests
  apply Keyed.length_eq_card holds.increasing
  intro offset
  rw [List.mem_toFinset, List.mem_map]
  constructor
  · rintro ⟨request, hRequest, rfl⟩
    exact holds.complete request hRequest
  · rintro ⟨reg, hReg, rfl⟩
    obtain ⟨request, hFirst, -⟩ := Option.map_eq_some_iff.mp (holds.sound reg hReg)
    have hSame := List.find?_some hFirst
    exact ⟨request, List.mem_of_find?_eq_some hFirst, of_decide_eq_true hSame⟩

theorem length_flatMap_sectionOf (engines : List (List RegRequest)) :
    (engines.flatMap sectionOf).length = entryCount engines := by
  rw [List.length_flatMap, entryCount]
  simp only [length_sectionOf]

theorem flatMap_sectionOf_append (engines : List (List RegRequest)) (requests : List RegRequest) :
    (engines ++ [requests]).flatMap sectionOf = engines.flatMap sectionOf ++ sectionOf requests := by
  rw [List.flatMap_append, List.flatMap_singleton]

end Sections

section Runs

variable {requests : List RegRequest} {engines : List (List RegRequest)}
  {regset : StoredRegset} {heap : State MmioReg} {earlier : List MmioReg}

/-- The releases of a run with some entries. -/
def ReleasesRight (heap : State MmioReg) (entries : List MmioReg) : Prop :=
  (∀ release ∈ heap.releases, release.Right) ↔ entries.length ≤ 2 ^ 32 - 255

/-- The additions for an engine, as long as the entries can be counted. -/
theorem additions_spec (refines : regset.Refines heap earlier [])
    (hRight : ReleasesRight heap earlier)
    (hShort : (earlier ++ sectionOf requests).length < 2 ^ 32) :
    ∃ after heap', requests.foldlM StoredRegset.add regset heap = some (after, heap') ∧
      after.Refines heap' earlier (sectionOf requests) ∧
      ReleasesRight heap' (earlier ++ sectionOf requests) := by
  induction requests using List.reverseRecOn with
  | nil =>
      refine ⟨regset, heap, rfl, refines, ?_⟩
      rw [show earlier ++ sectionOf [] = earlier from List.append_nil earlier]
      exact hRight
  | append_singleton requests request ih =>
      rw [sectionOf_append, addReg] at hShort ⊢
      rw [List.foldlM_append]
      by_cases hFound :
          (Keyed.bsearch MmioReg.offset (sectionOf requests) request.offset).isSome
      · rw [if_pos hFound] at hShort ⊢
        obtain ⟨after, heap', hRun, refines', hRight'⟩ := ih hShort
        refine ⟨after, heap', ?_, refines', hRight'⟩
        rw [run_bind hRun, List.foldlM_cons, run_bind (add_found refines' hFound)]
        rfl
      · rw [if_neg hFound] at hShort ⊢
        have hLength : (earlier ++ Keyed.insertLast MmioReg.offset (sectionOf requests)
            request.reg).length = (earlier ++ sectionOf requests).length + 1 := by
          rw [List.length_append, Keyed.length_insertLast, List.length_append, Nat.add_assoc]
        rw [hLength] at hShort
        obtain ⟨after, heap', hRun, refines', hRight'⟩ := ih (Nat.lt_of_succ_lt hShort)
        obtain ⟨final, heap'', hAdd, refinesFinal, hReleases⟩ :=
          add_missing refines' hShort hFound
        refine ⟨final, heap'', ?_, refinesFinal, ?_⟩
        · rw [run_bind hRun, List.foldlM_cons, run_bind hAdd]
          rfl
        · rw [ReleasesRight] at hRight' ⊢
          rw [hReleases, List.forall_mem_append, hRight', growReleases_right_iff refines', hLength]
          omega

/-- Additions that cannot be counted have no result. -/
theorem additions_none (refines : regset.Refines heap earlier [])
    (hRight : ReleasesRight heap earlier)
    (hLong : 2 ^ 32 ≤ (earlier ++ sectionOf requests).length) :
    requests.foldlM StoredRegset.add regset heap = none := by
  induction requests using List.reverseRecOn with
  | nil =>
      have hShort : earlier.length < 2 ^ 32 := by simpa using refines.short
      rw [show earlier ++ sectionOf [] = earlier from List.append_nil earlier] at hLong
      omega
  | append_singleton requests request ih =>
      rw [List.foldlM_append]
      rcases Nat.lt_or_ge (earlier ++ sectionOf requests).length (2 ^ 32) with hShort | hBefore
      · obtain ⟨after, heap', hRun, refines', -⟩ := additions_spec refines hRight hShort
        rw [sectionOf_append, addReg] at hLong
        by_cases hFound :
            (Keyed.bsearch MmioReg.offset (sectionOf requests) request.offset).isSome
        · rw [if_pos hFound] at hLong
          omega
        · have hFull : (earlier ++ sectionOf requests).length = 2 ^ 32 - 1 := by
            rw [if_neg hFound, List.length_append, Keyed.length_insertLast] at hLong
            rw [List.length_append] at hShort ⊢
            omega
          rw [run_bind hRun, List.foldlM_cons]
          exact run_bind_none (add_none refines' hFull hFound)
      · exact run_bind_none (ih hBefore)

/-- The rounds of some engines have left their sections. -/
structure StoredState.Refines (s : StoredState) (heap : State MmioReg)
    (engines : List (List RegRequest)) : Prop where
  stores : ∃ earlier registers, s.tempSet.Refines heap earlier registers ∧
    earlier ++ registers = engines.flatMap sectionOf
  counts : s.adsRegsetCount = engines.map fun added => (sectionOf added).length
  total : s.total = (engines.flatMap sectionOf).length
  right : ReleasesRight heap (engines.flatMap sectionOf)

/-- The start of the next engine, behind the sections of those before it. -/
theorem StoredState.Refines.start {s : StoredState} (refines : s.Refines heap engines) :
    ∃ pointer, (∀ requests, s.tempSet.init requests heap =
        requests.foldlM StoredRegset.add { s.tempSet with registers := pointer } heap) ∧
      StoredRegset.Refines { s.tempSet with registers := pointer } heap
        (engines.flatMap sectionOf) [] := by
  obtain ⟨earlier, registers, hRefines, hEntries⟩ := refines.stores
  obtain ⟨pointer, hAdvance, hStart⟩ := start_spec hRefines
  rw [hEntries] at hStart
  exact ⟨pointer, fun requests => run_bind hAdvance, hStart⟩

theorem init_spec {s : StoredState} (refines : s.Refines heap engines)
    (hShort : (engines.flatMap sectionOf ++ sectionOf requests).length < 2 ^ 32) :
    ∃ current heap', s.tempSet.init requests heap = some (current, heap') ∧
      current.Refines heap' (engines.flatMap sectionOf) (sectionOf requests) ∧
      ReleasesRight heap' (engines.flatMap sectionOf ++ sectionOf requests) := by
  obtain ⟨pointer, hInit, hStart⟩ := refines.start
  rw [hInit]
  exact additions_spec hStart refines.right hShort

theorem init_none {s : StoredState} (refines : s.Refines heap engines)
    (hLong : 2 ^ 32 ≤ (engines.flatMap sectionOf ++ sectionOf requests).length) :
    s.tempSet.init requests heap = none := by
  obtain ⟨pointer, hInit, hStart⟩ := refines.start
  rw [hInit]
  exact additions_none hStart refines.right hLong

theorem StoredState.Refines.used {s : StoredState} (refines : s.Refines heap engines) :
    s.tempSet.storageUsed = (engines.flatMap sectionOf).length := by
  obtain ⟨earlier, registers, hRefines, hEntries⟩ := refines.stores
  rw [hRefines.used, hEntries]

theorem stateCreate_append (engines : List (List RegRequest)) (requests : List RegRequest) :
    stateCreate (engines ++ [requests]) = stateCreate engines >>= fun s => s.round requests := by
  simp [stateCreate, List.foldlM_append]

theorem stateCreate_spec (hShort : (engines.flatMap sectionOf).length < 2 ^ 32) :
    ∃ s heap, stateCreate engines .empty = some (s, heap) ∧ s.Refines heap engines := by
  induction engines using List.reverseRecOn with
  | nil =>
      refine ⟨_, .empty, rfl, ?_⟩
      exact {
        stores := by
          refine ⟨[], [], ?_, rfl⟩
          exact {
            stores := .none rfl rfl rfl (by ext; simp [State.live, State.empty])
            used := rfl
            max := rfl
            short := Nat.two_pow_pos 32
            ordered := fun a ha => by simp [State.live, State.empty] at ha }
        counts := rfl
        total := rfl
        right := iff_of_true (by simp [State.empty]) (Nat.zero_le _) }
  | append_singleton engines requests ih =>
      rw [flatMap_sectionOf_append] at hShort
      have hBefore : (engines.flatMap sectionOf).length < 2 ^ 32 :=
        Nat.lt_of_le_of_lt (by simp) hShort
      obtain ⟨s, heap, hRun, refines⟩ := ih hBefore
      obtain ⟨current, heap', hInit, hCurrent, hRight⟩ := init_spec refines hShort
      have hCount : (((current.storageUsed : Int) - s.tempSet.storageUsed) % 2 ^ 32).toNat =
          (sectionOf requests).length := by
        rw [hCurrent.used, refines.used]
        rw [List.length_append] at hShort ⊢
        omega
      refine ⟨⟨current, s.adsRegsetCount ++ [(sectionOf requests).length],
        s.total + (sectionOf requests).length⟩, heap', ?_, ?_⟩
      · rw [stateCreate_append, run_bind hRun, StoredState.round, run_bind hInit, hCount]
        rfl
      · rw [← flatMap_sectionOf_append] at hRight
        exact {
          stores := ⟨_, _, hCurrent, (flatMap_sectionOf_append _ _).symm⟩
          counts := by rw [refines.counts, List.map_append, List.map_singleton]
          total := by rw [refines.total, flatMap_sectionOf_append, List.length_append]
          right := hRight }

theorem stateCreate_none (hLong : 2 ^ 32 ≤ (engines.flatMap sectionOf).length) :
    stateCreate engines .empty = none := by
  induction engines using List.reverseRecOn with
  | nil => exact absurd hLong (by decide)
  | append_singleton engines requests ih =>
      rw [stateCreate_append]
      rcases Nat.lt_or_ge (engines.flatMap sectionOf).length (2 ^ 32) with hShort | hBefore
      · obtain ⟨s, heap, hRun, refines⟩ := stateCreate_spec hShort
        rw [flatMap_sectionOf_append] at hLong
        rw [run_bind hRun, StoredState.round]
        exact run_bind_none (init_none refines hLong)
      · exact run_bind_none (ih hBefore)

/-- An entry of the storage is read. -/
theorem load_entry {registers : List MmioReg} (refines : regset.Refines heap earlier registers)
    {i : Nat} {reg : MmioReg} (hEntry : (earlier ++ registers)[i]? = some reg) :
    load mmioRegSize regset.storage i heap = some (reg, heap) := by
  cases refines.stores with
  | none hStorage hRegisters hEmpty hLive =>
      rw [hEmpty] at hEntry
      cases hEntry
  | some hStorage hRegisters hNonempty holds hLive =>
      rw [hStorage, element_zero]
      exact holds.load hEntry

/-- The entries of a point of a run. -/
theorem entryCount_append (engines : List (List RegRequest)) (requests : List RegRequest) :
    (engines.flatMap sectionOf ++ sectionOf requests).length = entryCount (engines ++ [requests]) := by
  rw [← flatMap_sectionOf_append, length_flatMap_sectionOf]

theorem segments_kept {s : StoredState} {current : StoredRegset} {heap' : State MmioReg}
    (refines : s.Refines heap engines)
    (hCurrent : current.Refines heap' (engines.flatMap sectionOf) (sectionOf requests))
    (hRight : ∀ release ∈ heap'.releases, release.Right) :
    SegmentsKept engines requests s heap current heap' where
  entries := by
    intro i reg hEntry
    rw [flatMap_sectionOf_append] at hEntry
    exact load_entry hCurrent hEntry
  used := by rw [flatMap_sectionOf_append, hCurrent.used]
  unchanged := by
    intro i hIn
    obtain ⟨earlier, registers, hRefines, hEntries⟩ := refines.stores
    rw [refines.used] at hIn
    have hEntry := List.getElem?_eq_getElem hIn
    refine ⟨(engines.flatMap sectionOf)[i], load_entry hRefines ?_, load_entry hCurrent ?_⟩
    · rw [hEntries, hEntry]
    · rw [List.getElem?_append_left hIn, hEntry]
  counts := refines.counts
  sum := by
    rw [refines.counts, refines.used, List.length_flatMap]
  search := by
    intro entry
    obtain ⟨found, hSearch, hSome, hFound⟩ := search_spec hCurrent entry
    refine ⟨found, hSearch, ?_, hFound⟩
    rw [hSome]
    exact Keyed.bsearch_isSome (holds_sectionOf requests).increasing
  releases := hRight

theorem regsetKept_of_count (hCount : entryCount (engines ++ [requests]) ≤ 2 ^ 32 - 255) :
    RegsetKept engines requests := by
  rw [← entryCount_append] at hCount
  have hEngines : (engines.flatMap sectionOf).length ≤
      (engines.flatMap sectionOf ++ sectionOf requests).length := by simp
  obtain ⟨s, heap, hRun, refines⟩ := @stateCreate_spec engines (by omega)
  obtain ⟨current, heap', hInit, hCurrent, hRight⟩ := @init_spec requests _ _ _ refines (by omega)
  exact ⟨fun added _ => holds_sectionOf added, s, heap, current, heap', hRun, hInit,
    segments_kept refines hCurrent (hRight.mpr hCount)⟩

theorem count_of_regsetKept (kept : RegsetKept engines requests) :
    entryCount (engines ++ [requests]) ≤ 2 ^ 32 - 255 := by
  obtain ⟨-, s, heap, current, heap', hRun, hInit, kept⟩ := kept
  rw [← entryCount_append]
  rcases Nat.lt_or_ge (engines.flatMap sectionOf).length (2 ^ 32) with hEngines | hEngines
  · obtain ⟨t, heapT, hRunT, refines⟩ := stateCreate_spec hEngines
    cases hRun.symm.trans hRunT
    rcases Nat.lt_or_ge (engines.flatMap sectionOf ++ sectionOf requests).length (2 ^ 32) with
      hShort | hLong
    · obtain ⟨final, heapFinal, hInitFinal, -, hRight⟩ := init_spec refines hShort
      cases hInit.symm.trans hInitFinal
      exact hRight.mp kept.releases
    · cases hInit.symm.trans (init_none refines hLong)
  · cases hRun.symm.trans (stateCreate_none hEngines)

/-- At every point of a run, the sections of the engines are kept just when the entries so
far can be counted in whole pages. -/
theorem regset_kept_iff (engines : List (List RegRequest)) (requests : List RegRequest) :
    RegsetKept engines requests ↔ entryCount (engines ++ [requests]) ≤ 2 ^ 32 - 255 :=
  ⟨count_of_regsetKept, regsetKept_of_count⟩

/-- One engine with a register at each offset below a bound. -/
def lowOffsets (bound : Nat) : List RegRequest := (List.range bound).map fun offset => ⟨offset, 0⟩

theorem entryCount_lowOffsets (bound : Nat) : entryCount [lowOffsets bound] = bound := by
  have hOffsets : (lowOffsets bound).map RegRequest.offset = List.range bound := by
    rw [lowOffsets, List.map_map]
    exact List.map_id _
  rw [entryCount, List.map_singleton, List.sum_singleton, hOffsets,
    List.toFinset_card_of_nodup List.nodup_range, List.length_range]

/-- The entry before fills a block of 2 ^ 32 entries, whose number is 0 in a `u32`. So the
storage moves once more, and its block is given back with a size of 0. -/
theorem full_count_not_kept : ¬ RegsetKept [] (lowOffsets (2 ^ 32 - 254)) := by
  intro hKept
  have hCount := count_of_regsetKept hKept
  rw [List.nil_append, entryCount_lowOffsets] at hCount
  omega

end Runs

section Device

open Engines

variable {ioMalloc : Nat → Bool} {gt : Device} {steering : Steering} {regs : EngineId → EngineRegs}

/-- The additions for the engines that there are, in the order of the loop. -/
def engineRequests (gt : Device) (steering : Steering) (regs : EngineId → EngineRegs) :
    List (List RegRequest) :=
  ((List.finRange i915NumEngines).filter fun id2 => (gt.engines.engine id2).isSome).map fun id2 =>
    regsetRequests gt steering (regs id2)

theorem flatMap_engineSection (ids : List EngineId) :
    ids.flatMap (engineSection gt steering regs) =
      ((ids.filter fun id2 => (gt.engines.engine id2).isSome).map fun id2 =>
        regsetRequests gt steering (regs id2)).flatMap sectionOf := by
  induction ids with
  | nil => rfl
  | cons id2 rest ih =>
      rw [List.flatMap_cons, ih, engineSection, List.filter_cons]
      cases gt.engines.engine id2 with
      | none => rfl
      | some e => rfl

/-- The storage in memory is what `guc_mmio_reg_state_create` makes of the lists, and so
are the counts and the size. -/
theorem stateCreate_refines {adsRegsetCount counts : EngineId → Nat} {adsRegset : List MmioReg}
    {size : Nat} (h : gucMmioRegStateCreate ioMalloc gt steering regs adsRegsetCount =
      .ok (adsRegset, counts, size)) (hShort : adsRegset.length < 2 ^ 32) :
    ∃ s heap, stateCreate (engineRequests gt steering regs) .empty = some (s, heap) ∧
      (∀ i reg, adsRegset[i]? = some reg →
        load mmioRegSize s.tempSet.storage i heap = some (reg, heap)) ∧
      s.adsRegsetCount = (((List.finRange i915NumEngines).filter fun id2 =>
        (gt.engines.engine id2).isSome).map counts) ∧
      s.total * mmioRegSize = size := by
  obtain ⟨hStorage, hCounts, hSize⟩ := gucMmioRegStateCreate_ok h
  rw [flatMap_engineSection] at hStorage
  have hEntries : adsRegset = (engineRequests gt steering regs).flatMap sectionOf := hStorage
  rw [hEntries] at hShort
  obtain ⟨s, heap, hRun, refines⟩ := stateCreate_spec hShort
  refine ⟨s, heap, hRun, ?_, ?_, ?_⟩
  · intro i reg hEntry
    obtain ⟨earlier, registers, hRefines, hAll⟩ := refines.stores
    rw [hEntries, ← hAll] at hEntry
    exact load_entry hRefines hEntry
  · rw [refines.counts, engineRequests, List.map_map]
    apply List.map_congr_left
    intro id2 hMem
    have hSome := (List.mem_filter.mp hMem).2
    rw [hCounts id2 hSome, engineSection]
    cases hEngine : gt.engines.engine id2 with
    | none =>
        rw [hEngine] at hSome
        cases hSome
    | some e => rfl
  · rw [refines.total, hSize, hEntries]

end Device

end NootedBlue.Ads
