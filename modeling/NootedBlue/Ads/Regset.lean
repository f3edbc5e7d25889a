import NootedBlue.Ads.Layout
import NootedBlue.Ads.Masks
import NootedBlue.Semantics.Serial
import NootedBlue.Wa.List

/-! The registers that the firmware saves and restores for each engine. They are
collected in one storage, engine by engine, and kept in the order of their
offsets within the section of an engine, where each offset occurs once. -/
namespace NootedBlue.Ads

open Engines Bits

/-- What `guc_mmio_reg_add` is called with. -/
structure RegRequest where
  offset : Nat
  flags : BitVec 32

/-- The entry for it. -/
def RegRequest.reg (request : RegRequest) : MmioReg := ⟨request.offset, 0, request.flags, 0⟩

/-- `struct temp_regset`: the storage up to `registers`, the section of the engine
that is being worked on, and the number of entries that there is room for. -/
structure TempRegset where
  earlier : List MmioReg
  registers : List MmioReg
  storageMax : Nat

namespace TempRegset

def empty : TempRegset := ⟨[], [], 0⟩

def storage (regset : TempRegset) : List MmioReg := regset.earlier ++ regset.registers

def storageUsed (regset : TempRegset) : Nat := regset.storage.length

/-- The first part of `__mmio_reg_add`: without room, the storage is moved to
memory of whole pages. -/
def grow (ioMalloc : Nat → Bool) (regset : TempRegset) : Except Int TempRegset :=
  if regset.storageUsed ≥ regset.storageMax then
    let newSize := pageAlign 64 ((regset.storageUsed + 1) * mmioRegSize)
    if ioMalloc newSize then .ok { regset with storageMax := newSize / mmioRegSize } else .error enomem
  else .ok regset

end TempRegset

/-- `guc_mmio_reg_add`. An offset that the section has already is left alone. A
new one is put at the end by `__mmio_reg_add` and then swapped down. -/
def gucMmioRegAdd (ioMalloc : Nat → Bool) (regset : TempRegset) (request : RegRequest) :
    Except Int TempRegset :=
  if (Keyed.bsearch MmioReg.offset regset.registers request.offset).isSome then .ok regset
  else do
    let grown ← regset.grow ioMalloc
    return { grown with registers := Keyed.insertLast MmioReg.offset grown.registers request.reg }

/-- `GUC_REGSET_MASKED` and `GUC_REGSET_NEEDS_STEERING`. -/
def gucRegsetMasked : BitVec 32 := .twoPow 32 0
def gucRegsetNeedsSteering : BitVec 32 := .twoPow 32 1

/-- `GUC_REGSET_STEERING`. -/
def gucRegsetSteering (group instanceb : BitVec 8) : BitVec 32 :=
  Field.prep ⟨12, 4⟩ (group.setWidth 32) ||| Field.prep ⟨20, 4⟩ (instanceb.setWidth 32) |||
    gucRegsetNeedsSteering

/-- The group and the instance that `intel_gt_mcr_get_nonterminated_steering`
finds for a register. -/
abbrev Steering := Nat → BitVec 8 × BitVec 8

/-- `GUC_MMIO_REG_ADD` and `GUC_MCR_REG_ADD`. -/
def mmioReg (offset : Nat) (masked : Bool) : RegRequest :=
  ⟨offset, if masked then gucRegsetMasked else 0⟩
def mcrReg (steering : Steering) (offset : Nat) (masked : Bool) : RegRequest :=
  ⟨offset, (if masked then gucRegsetMasked else 0) |||
    gucRegsetSteering (steering offset).1 (steering offset).2⟩

/-- The part of `struct intel_engine_cs` that its registers depend on. -/
structure EngineRegs where
  mmioBase : BitVec 32
  firstRenderCompute : Bool
  waList : List Wa.I915Wa

/-- `RING_MODE_GEN7` and the other registers that are at an offset from the base. -/
def EngineRegs.at (regs : EngineRegs) (offset : Nat) : Nat := (regs.mmioBase + .ofNat 32 offset).toNat

def ringModeGen7 : Nat := 0x29c
def ringHwsPga : Nat := 0x80
def ringImr : Nat := 0xa8
def ringForceToNonpriv (i : Nat) : Nat := 0x4D0 + i * 4
def ringMaxNonprivSlots : Nat := 12

def gen12RcuMode : Nat := 0x14800

/-- `GEN9_LNCFCMOCS` and `XEHP_LNCFCMOCS`. -/
def lncfcmocs (i : Nat) : Nat := 0xb020 + i * 4
def lncfcmocsRegCount : Nat := 32

/-- `EU_PERF_CNTL0` to `EU_PERF_CNTL6`. -/
def euPerfCntl : List Nat := [0xe458, 0xe558, 0xe658, 0xe758, 0xe45c, 0xe55c, 0xe65c]

/-- The registers that `guc_mmio_regset_init` adds, in its order. -/
def regsetRequests (gt : Device) (steering : Steering) (regs : EngineRegs) : List RegRequest :=
  [mmioReg (regs.at ringModeGen7) true, mmioReg (regs.at ringHwsPga) false,
    mmioReg (regs.at ringImr) false] ++
  (if regs.firstRenderCompute && ccsMask gt.engineMask != 0 then [mmioReg gen12RcuMode true] else []) ++
  regs.waList.map (fun wa => mcrReg steering wa.reg wa.maskedReg) ++
  (List.range ringMaxNonprivSlots).map (fun i => mmioReg (regs.at (ringForceToNonpriv i)) false) ++
  (List.range lncfcmocsRegCount).map (fun i =>
    if gt.graphics.full ≥ ipVer 12 55 then mcrReg steering (lncfcmocs i) false
    else mmioReg (lncfcmocs i) false) ++
  if gt.graphics.ver ≥ 12 then euPerfCntl.map fun reg => mcrReg steering reg false else []

/-- One addition of `guc_mmio_regset_init`. An error does not end it, but is kept
for its result. -/
def regsetRound (ioMalloc : Nat → Bool) (s : TempRegset × Bool) (request : RegRequest) :
    TempRegset × Bool :=
  match gucMmioRegAdd ioMalloc s.1 request with
  | .ok regset => (regset, s.2)
  | .error _ => (s.1, true)

/-- `guc_mmio_regset_init`, with the registers that it adds. -/
def gucMmioRegsetInit (ioMalloc : Nat → Bool) (requests : List RegRequest) (regset : TempRegset) :
    Except Int TempRegset :=
  let last := requests.foldl (regsetRound ioMalloc)
    ({ regset with earlier := regset.storage, registers := [] }, false)
  if last.2 then .error (-1) else .ok last.1

/-- What the loop of `guc_mmio_reg_state_create` works on. -/
structure CreateState where
  regset : TempRegset
  adsRegsetCount : EngineId → Nat
  total : Nat

section Create

variable (ioMalloc : Nat → Bool) (gt : Device) (steering : Steering) (regs : EngineId → EngineRegs)

/-- One round of `for_each_engine`. -/
def createRound (s : CreateState) (id2 : EngineId) : Except Int CreateState :=
  match gt.engines.engine id2 with
  | none => .ok s
  | some _ => do
      let regset ← gucMmioRegsetInit ioMalloc (regsetRequests gt steering (regs id2)) s.regset
      let count := regset.storageUsed - s.regset.storageUsed
      return {
        regset
        adsRegsetCount := Function.update s.adsRegsetCount id2 count
        total := s.total + count }

/-- `guc_mmio_reg_state_create`: the registers of all engines, how many there are
of each, and the size of them all. -/
def gucMmioRegStateCreate (adsRegsetCount : EngineId → Nat) :
    Except Int (List MmioReg × (EngineId → Nat) × Nat) := do
  let last ← (List.finRange i915NumEngines).foldlM (createRound ioMalloc gt steering regs)
    ⟨.empty, adsRegsetCount, 0⟩
  return (last.regset.storage, last.adsRegsetCount, last.total * mmioRegSize)

end Create

/-- The section of an engine after an addition that finds room. -/
def addReg (registers : List MmioReg) (request : RegRequest) : List MmioReg :=
  if (Keyed.bsearch MmioReg.offset registers request.offset).isSome then registers
  else Keyed.insertLast MmioReg.offset registers request.reg

/-- The section of an engine after some additions. -/
def sectionOf (requests : List RegRequest) : List MmioReg := requests.foldl addReg []

/-- A section holds the registers of an engine: one entry for each offset that was
added, in their order, as it was added first. -/
structure HoldsRequests (requests : List RegRequest) (registers : List MmioReg) : Prop where
  increasing : Keyed.Increasing MmioReg.offset registers
  complete : ∀ request ∈ requests, ∃ reg ∈ registers, reg.offset = request.offset
  sound : ∀ reg ∈ registers,
    (requests.find? fun request => request.offset = reg.offset).map RegRequest.reg = some reg

section Sections

variable {requests : List RegRequest} {registers : List MmioReg} {request : RegRequest}

/-- The entries stay those that were added first. -/
theorem HoldsRequests.keep (holds : HoldsRequests requests registers) (request : RegRequest)
    {reg : MmioReg} (hReg : reg ∈ registers) :
    ((requests ++ [request]).find? fun request => request.offset = reg.offset).map RegRequest.reg =
      some reg := by
  obtain ⟨first, hFirst, hSame⟩ := Option.map_eq_some_iff.mp (holds.sound reg hReg)
  rw [List.find?_append, hFirst, Option.some_or, Option.map_some, hSame]

/-- An offset that no entry has was not added before. -/
theorem HoldsRequests.fresh (holds : HoldsRequests requests registers)
    (hFresh : ∀ reg ∈ registers, reg.offset ≠ request.offset) :
    ((requests ++ [request]).find? fun added => added.offset = request.reg.offset).map RegRequest.reg =
      some request.reg := by
  have hNone : (requests.find? fun added => added.offset = request.reg.offset) = none := by
    refine List.find?_eq_none.mpr fun added hAdded hSame => ?_
    obtain ⟨reg, hReg, hOffset⟩ := holds.complete added hAdded
    exact hFresh reg hReg (hOffset.trans (of_decide_eq_true hSame))
  have hThis : decide (request.offset = request.reg.offset) = true := decide_eq_true rfl
  rw [List.find?_append, hNone, Option.none_or, List.find?_singleton, if_pos hThis]
  rfl

theorem HoldsRequests.add (holds : HoldsRequests requests registers) (request : RegRequest) :
    HoldsRequests (requests ++ [request]) (addReg registers request) := by
  have hFound : (Keyed.bsearch MmioReg.offset registers request.offset).isSome ↔
      ∃ reg ∈ registers, reg.offset = request.offset := Keyed.bsearch_isSome holds.increasing
  unfold addReg
  by_cases hSome : (Keyed.bsearch MmioReg.offset registers request.offset).isSome
  · rw [if_pos hSome]
    refine ⟨holds.increasing, ?_, fun reg hReg => holds.keep request hReg⟩
    intro added hAdded
    rcases List.mem_append.mp hAdded with hBefore | hLast
    · exact holds.complete added hBefore
    · rw [List.mem_singleton.mp hLast]
      exact hFound.mp hSome
  · rw [if_neg hSome]
    have hFresh : ∀ reg ∈ registers, reg.offset ≠ request.offset := fun reg hReg hSame =>
      hSome (hFound.mpr ⟨reg, hReg, hSame⟩)
    refine ⟨Keyed.increasing_insertLast holds.increasing hFresh, ?_, ?_⟩
    · intro added hAdded
      rcases List.mem_append.mp hAdded with hBefore | hLast
      · obtain ⟨reg, hReg, hSame⟩ := holds.complete added hBefore
        exact ⟨reg, Keyed.mem_insertLast.mpr (.inr hReg), hSame⟩
      · rw [List.mem_singleton.mp hLast]
        exact ⟨request.reg, Keyed.mem_insertLast.mpr (.inl rfl), rfl⟩
    · intro reg hReg
      rcases Keyed.mem_insertLast.mp hReg with rfl | hBefore
      · exact holds.fresh hFresh
      · exact holds.keep request hBefore

theorem holds_sectionOf (requests : List RegRequest) : HoldsRequests requests (sectionOf requests) := by
  induction requests using List.reverseRecOn with
  | nil =>
      refine ⟨.nil, ?_, ?_⟩
      · intro request hRequest
        exact absurd hRequest List.not_mem_nil
      · intro reg hReg
        exact absurd hReg List.not_mem_nil
  | append_singleton requests request ih =>
      unfold sectionOf
      rw [List.foldl_append]
      exact ih.add request

end Sections

section Create

variable {ioMalloc : Nat → Bool} {gt : Device} {steering : Steering} {regs : EngineId → EngineRegs}
  {regset after : TempRegset} {request : RegRequest}

theorem grow_ok (h : regset.grow ioMalloc = .ok after) :
    after.earlier = regset.earlier ∧ after.registers = regset.registers := by
  unfold TempRegset.grow at h
  split at h
  · dsimp only at h
    split at h
    · cases h
      exact ⟨rfl, rfl⟩
    · cases h
  · cases h
    exact ⟨rfl, rfl⟩

/-- An addition only changes the section it is made to. -/
theorem gucMmioRegAdd_ok (h : gucMmioRegAdd ioMalloc regset request = .ok after) :
    after.earlier = regset.earlier ∧ after.registers = addReg regset.registers request := by
  unfold gucMmioRegAdd at h
  unfold addReg
  split at h
  · next hSome =>
      cases h
      exact ⟨rfl, (if_pos hSome).symm⟩
  · next hNone =>
      cases hGrow : regset.grow ioMalloc with
      | error e =>
          rw [hGrow] at h
          cases h
      | ok grown =>
          rw [hGrow] at h
          cases h
          obtain ⟨hEarlier, hRegisters⟩ := grow_ok hGrow
          exact ⟨hEarlier, by rw [if_neg hNone, hRegisters]⟩

theorem foldl_regsetRound (requests : List RegRequest) {s : TempRegset × Bool}
    (h : (requests.foldl (regsetRound ioMalloc) s).2 = false) :
    s.2 = false ∧ (requests.foldl (regsetRound ioMalloc) s).1.earlier = s.1.earlier ∧
      (requests.foldl (regsetRound ioMalloc) s).1.registers =
        requests.foldl addReg s.1.registers := by
  induction requests generalizing s with
  | nil => exact ⟨h, rfl, rfl⟩
  | cons request rest ih =>
      rw [List.foldl_cons] at h
      obtain ⟨hFlag, hEarlier, hRegisters⟩ := ih h
      rw [List.foldl_cons, List.foldl_cons, hEarlier, hRegisters]
      unfold regsetRound at hFlag ⊢
      cases hAdd : gucMmioRegAdd ioMalloc s.1 request with
      | error e =>
          rw [hAdd] at hFlag
          cases hFlag
      | ok next =>
          rw [hAdd] at hFlag
          obtain ⟨hKeeps, hAdds⟩ := gucMmioRegAdd_ok hAdd
          exact ⟨hFlag, hKeeps, congrArg (rest.foldl addReg) hAdds⟩

/-- The registers of an engine are put behind those of the engines before it. -/
theorem gucMmioRegsetInit_ok {requests : List RegRequest}
    (h : gucMmioRegsetInit ioMalloc requests regset = .ok after) :
    after.storage = regset.storage ++ sectionOf requests := by
  unfold gucMmioRegsetInit at h
  dsimp only at h
  split at h
  · cases h
  · next hFlag =>
      cases h
      obtain ⟨-, hEarlier, hRegisters⟩ := foldl_regsetRound requests (Bool.not_eq_true _ ▸ hFlag)
      exact congrArg₂ (fun x y : List MmioReg => x ++ y) hEarlier hRegisters

/-- The registers of an engine, if there is one. -/
def engineSection (gt : Device) (steering : Steering) (regs : EngineId → EngineRegs) (id2 : EngineId) :
    List MmioReg :=
  match gt.engines.engine id2 with
  | none => []
  | some _ => sectionOf (regsetRequests gt steering (regs id2))

/-- The storage after the rounds of some engines. -/
structure Created (gt : Device) (steering : Steering) (regs : EngineId → EngineRegs)
    (done : List EngineId) (s : CreateState) : Prop where
  storage : s.regset.storage = done.flatMap (engineSection gt steering regs)
  count : ∀ id2 ∈ done, (gt.engines.engine id2).isSome →
    s.adsRegsetCount id2 = (engineSection gt steering regs id2).length
  total : s.total = s.regset.storageUsed

/-- A round that succeeds: there is no engine, or its registers were added. -/
theorem createRound_cases {s t : CreateState} {id2 : EngineId}
    (h : createRound ioMalloc gt steering regs s id2 = .ok t) :
    (gt.engines.engine id2 = none ∧ t = s) ∨
      ∃ regset, regset.storage = s.regset.storage ++ engineSection gt steering regs id2 ∧
        t = {
          regset
          adsRegsetCount := Function.update s.adsRegsetCount id2
            (regset.storageUsed - s.regset.storageUsed)
          total := s.total + (regset.storageUsed - s.regset.storageUsed) } := by
  unfold createRound at h
  cases hEngine : gt.engines.engine id2 with
  | none =>
      rw [hEngine] at h
      cases h
      exact .inl ⟨rfl, rfl⟩
  | some e =>
      rw [hEngine] at h
      dsimp only at h
      cases hInit : gucMmioRegsetInit ioMalloc (regsetRequests gt steering (regs id2)) s.regset with
      | error e =>
          rw [hInit] at h
          cases h
      | ok regset =>
          rw [hInit] at h
          cases h
          refine .inr ⟨regset, ?_, rfl⟩
          unfold engineSection
          rw [hEngine]
          exact gucMmioRegsetInit_ok hInit

/-- The engine of a round has its section behind those of the engines before it. -/
theorem Created.round {done : List EngineId} {s t : CreateState} {id2 : EngineId}
    (created : Created gt steering regs done s) (h : createRound ioMalloc gt steering regs s id2 = .ok t) :
    Created gt steering regs (done ++ [id2]) t := by
  obtain ⟨hNone, rfl⟩ | ⟨regset, hStorage, rfl⟩ := createRound_cases h
  · refine ⟨?_, ?_, created.total⟩
    · have hSection : engineSection gt steering regs id2 = [] := by
        unfold engineSection
        rw [hNone]
      rw [List.flatMap_append, List.flatMap_singleton, hSection, List.append_nil]
      exact created.storage
    · intro other hOther hSome
      refine created.count other (Serial.mem_of_mem_concat hOther ?_) hSome
      rintro rfl
      rw [hNone] at hSome
      cases hSome
  · have hUsed : regset.storageUsed =
        s.regset.storageUsed + (engineSection gt steering regs id2).length := by
      unfold TempRegset.storageUsed
      rw [hStorage, List.length_append]
    refine ⟨?_, ?_, ?_⟩
    · rw [List.flatMap_append, List.flatMap_singleton, ← created.storage]
      exact hStorage
    · intro other hOther hSome
      by_cases hSame : other = id2
      · rw [hSame]
        refine (Function.update_self _ _ _).trans ?_
        omega
      · exact (Function.update_of_ne hSame _ _).trans
          (created.count other (Serial.mem_of_mem_concat hOther hSame) hSome)
    · have hTotal := created.total
      show s.total + (regset.storageUsed - s.regset.storageUsed) = regset.storageUsed
      omega

theorem Created.foldlM {done rest : List EngineId} {s t : CreateState}
    (created : Created gt steering regs done s)
    (h : rest.foldlM (createRound ioMalloc gt steering regs) s = .ok t) :
    Created gt steering regs (done ++ rest) t := by
  induction rest generalizing done s with
  | nil =>
      cases h
      rwa [List.append_nil]
  | cons id2 rest ih =>
      rw [List.foldlM_cons] at h
      cases hRound : createRound ioMalloc gt steering regs s id2 with
      | error e =>
          rw [hRound] at h
          cases h
      | ok next =>
          rw [hRound] at h
          rw [List.append_cons]
          exact ih (created.round hRound) h

/-- The storage holds the registers of the engines, one engine behind the other,
and the size is that of them all. -/
theorem gucMmioRegStateCreate_ok {adsRegsetCount counts : EngineId → Nat} {adsRegset : List MmioReg}
    {size : Nat} (h : gucMmioRegStateCreate ioMalloc gt steering regs adsRegsetCount =
      .ok (adsRegset, counts, size)) :
    adsRegset = (List.finRange i915NumEngines).flatMap (engineSection gt steering regs) ∧
      (∀ id2, (gt.engines.engine id2).isSome →
        counts id2 = (engineSection gt steering regs id2).length) ∧
      size = adsRegset.length * mmioRegSize := by
  unfold gucMmioRegStateCreate at h
  have hStart : Created gt steering regs [] ⟨.empty, adsRegsetCount, 0⟩ := by
    refine ⟨rfl, ?_, rfl⟩
    intro id2 hMem
    exact absurd hMem List.not_mem_nil
  cases hRun : (List.finRange i915NumEngines).foldlM (createRound ioMalloc gt steering regs)
      ⟨.empty, adsRegsetCount, 0⟩ with
  | error e =>
      rw [hRun] at h
      cases h
  | ok last =>
      rw [hRun] at h
      cases h
      have created := hStart.foldlM hRun
      exact ⟨created.storage, fun id2 => created.count id2 (List.mem_finRange id2),
        congrArg (· * mmioRegSize) created.total⟩

end Create

end NootedBlue.Ads
