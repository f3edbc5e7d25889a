import NootedBlue.Ads.Regset
import NootedBlue.Ads.Slices
import NootedBlue.Ads.SteeredLists
import NootedBlue.Wa.Merge

/-! The units that a multicast register is steered to. One that the fuses have turned off
terminates an access, so each register is steered to one that is there: those of the banks
of the L3 cache by a table, and all others to the first subslice, to which the selector of
the device is set as well. -/
namespace NootedBlue.Ads

open Engines Bits Wa

/-- `enum intel_steering_type`. -/
inductive SteeringType where
  | l3bank
  | mslice
  | lncf
  | gam
  | dss
  | oaddrm
  | instance0
  deriving DecidableEq, Repr

/-- The types below `NUM_STEERING_TYPES`. -/
def SteeringType.all : List SteeringType := [.l3bank, .mslice, .lncf, .gam, .dss, .oaddrm, .instance0]

/-- `__ffs`: the lowest bit of a word that is set, or its width. -/
def ffs {w : Nat} (word : BitVec w) : Nat := ((List.range w).find? word.getLsbD).getD w

/-- The members of `struct intel_gt` that steering depends on. -/
structure McrGt where
  graphics : IpVersion
  isDg2 : Bool
  engineMask : BitVec 32
  sfcMask : BitVec 8
  sseu : SseuDevInfo
  l3bankMask : BitVec 32
  msliceMask : BitVec 64
  steeringTable : SteeringType → Option (List (Nat × Nat))
  defaultSteering : BitVec 8 × BitVec 8

/-- `icl_l3bank_steering_table`. -/
def iclL3bankSteeringTable : List (Nat × Nat) := [(0x00B100, 0x00B3FF)]

/-- `GEN8_MCR_SELECTOR`, with the fields of `GEN11_MCR_SLICE` and `GEN11_MCR_SUBSLICE`. -/
def gen8McrSelector : Nat := 0xfdc
def gen11McrSlice : Field := ⟨27, 4⟩
def gen11McrSubslice : Field := ⟨24, 3⟩

/-- `GEN10_MIRROR_FUSE3` and `GEN10_L3BANK_MASK`. -/
def gen10MirrorFuse3 : Nat := 0x9118
def gen10L3bankMask : BitVec 32 := 0x0F

namespace McrGt

variable (gt : McrGt)

/-- `reg_needs_read_steering`. -/
def regNeedsReadSteering (reg : Nat) (type : SteeringType) : Bool :=
  match gt.steeringTable type with
  | none => false
  | some entries => entries.any fun entry => entry.1 ≤ reg && reg ≤ entry.2

/-- `get_nonterminated_steering`. -/
def getNonterminatedSteering : SteeringType → BitVec 8 × BitVec 8
  | .l3bank => (0, .ofNat 8 (ffs gt.l3bankMask))
  | .mslice => (.ofNat 8 (ffs gt.msliceMask), 0)
  | .lncf => (.ofNat 8 (ffs gt.msliceMask <<< 1), 0)
  | .gam => (if gt.isDg2 then 1 else 0, 0)
  | .dss =>
      let dss := ffs gt.sseu.subsliceMask
      (.ofNat 8 (dss / genDssPerGslice), .ofNat 8 (dss % genDssPerGslice))
  | .oaddrm =>
      (if (vdboxMask gt.engineMask ||| veboxMask gt.engineMask ||| gt.sfcMask.setWidth 32).getLsbD 0
        then 0 else 1, 0)
  | .instance0 => (0, 0)

/-- `intel_gt_mcr_get_nonterminated_steering`. -/
def intelGtMcrGetNonterminatedSteering : Steering := fun reg =>
  match SteeringType.all.find? (gt.regNeedsReadSteering reg) with
  | some type => gt.getNonterminatedSteering type
  | none => gt.defaultSteering

/-- `intel_sseu_get_hsw_subslices`. -/
def intelSseuGetHswSubslices (slice : Nat) : BitVec 32 :=
  if slice ≥ gt.sseu.maxSlices then 0 else (gt.sseu.hsw slice).setWidth 32

/-- `__set_mcr_steering`. -/
def setMcrSteering (steeringReg slice subslice : Nat) : I915Wa :=
  waWriteClrSet false steeringReg (gen11McrSlice.mask ||| gen11McrSubslice.mask)
    (gen11McrSlice.prep (.ofNat 32 slice) ||| gen11McrSubslice.prep (.ofNat 32 subslice))

/-- `icl_wa_init_mcr`, with `__add_mcr_wa`: a table that is not needed is dropped. -/
def iclWaInitMcr : McrGt × I915Wa :=
  let subslice := ffs (gt.intelSseuGetHswSubslices 0)
  let steeringTable :=
    if gt.l3bankMask.getLsbD subslice then Function.update gt.steeringTable .l3bank none
    else gt.steeringTable
  ({ gt with steeringTable, defaultSteering := (0, .ofNat 8 subslice) },
    setMcrSteering gen8McrSelector 0 subslice)

end McrGt

/-- `mmio_bases` of `intel_engines`: versions of the graphics with their bases. -/
def mmioBases (id : EngineId) : List (Nat × Nat) :=
  [[(1, 0x02000)], [(6, 0x22000)], [(12, 0x3e0000)], [(12, 0x3e2000)], [(12, 0x3e4000)],
    [(12, 0x3e6000)], [(12, 0x3e8000)], [(12, 0x3ea000)], [(12, 0x3ec000)], [(12, 0x3ee000)],
    [(11, 0x1c0000), (6, 0x12000), (4, 0x04000)], [(11, 0x1c4000), (8, 0x1c000)],
    [(11, 0x1d0000)], [(11, 0x1d4000)], [(12, 0x1e0000)], [(12, 0x1e4000)], [(12, 0x1f0000)],
    [(12, 0x1f4000)], [(11, 0x1c8000), (7, 0x1a000)], [(11, 0x1d8000)], [(12, 0x1e8000)],
    [(12, 0x1f8000)], [(12, 0x1a000)], [(12, 0x1c000)], [(12, 0x1e000)], [(12, 0x26000)],
    [(12, 0x11a000)]].getD id []

/-- `__engine_mmio_base`. The rest of the three bases is zero. -/
def engineMmioBase (ver : Nat) (id : EngineId) : Nat :=
  (((mmioBases id).find? fun base => ver ≥ base.1).map Prod.snd).getD 0

/-- `VDBOX_CGCTL3F10` and `IECPUNIT_CLKGATE_DIS`. -/
def vdboxCgctl3f10 (base : Nat) : Nat := base + 0x3f10
def iecpunitClkgateDis : BitVec 32 := .twoPow 32 22

/-- `wa_14011060649`. -/
def wa14011060649 (device : Device) : List I915Wa :=
  (List.finRange i915NumEngines).filterMap fun id =>
    match device.engines.engine id with
    | none => none
    | some engine =>
        if engine.classb ≠ .videoDecode ∨ engine.instanceb % 2 ≠ 0 then none
        else some (waWriteOr false (vdboxCgctl3f10 (engineMmioBase device.graphics.ver id))
          iecpunitClkgateDis)

/-- `GEN10_DFR_RATIO_EN_AND_CHICKEN` and `GEN7_MISCCPCTL`, with `DFR_DISABLE` and
`GEN12_DOP_CLOCK_GATE_RENDER_ENABLE`. -/
def gen10DfrRatioEnAndChicken : Nat := 0x9550
def gen7Misccpctl : Nat := 0x9424
def dfrDisable : BitVec 32 := .twoPow 32 9
def gen12DopClockGateRenderEnable : BitVec 32 := .twoPow 32 1

/-- `gen12_gt_workarounds_init`. -/
def gen12GtWorkaroundsInit (device : Device) (gt : McrGt) : McrGt × List I915Wa :=
  (gt.iclWaInitMcr.1,
    [gt.iclWaInitMcr.2] ++ wa14011060649 device ++
      [waWriteOr true gen10DfrRatioEnAndChicken dfrDisable,
        waAdd false gen7Misccpctl gen12DopClockGateRenderEnable 0 0 false])

/-- What `Gen11::engines` reads from the fuses. A count of execution units that uses a value
that was not read changes nothing else. -/
def readFuses (device : Device) (registers : SseuRegisters) (gt : McrGt) : McrGt :=
  let sseu := (gt.sseu.ofEngines registers).getD (gt.sseu.gen12SseuInfoInit registers)
  if device.graphics.ver ≥ 11 ∧ device.graphics.full < ipVer 12 55 then
    { gt with
      sseu
      steeringTable := Function.update gt.steeringTable .l3bank (some iclL3bankSteeringTable)
      l3bankMask := ~~~device.deRead gen10MirrorFuse3 &&& gen10L3bankMask }
  else { gt with sseu }

/-- The part of `Gen11::engines` about steering: the fuses, and `intel_gt_init_workarounds`
with the list of workarounds. -/
def initSteering (device : Device) (registers : SseuRegisters) (gt : McrGt) : McrGt × I915WaList :=
  let last := gen12GtWorkaroundsInit device (readFuses device registers gt)
  (last.1, addAll last.2)

section Fuses

variable {device : Device} {registers : SseuRegisters} {start : McrGt}

theorem ffs_spec {w : Nat} (word : BitVec w) :
    word = 0 ∧ ffs word = w ∨ ffs word < w ∧ word.getLsbD (ffs word) = true := by
  rw [ffs]
  cases hFound : (List.range w).find? word.getLsbD with
  | none =>
      refine .inl ⟨BitVec.eq_of_getLsbD_eq fun i hi => ?_, rfl⟩
      have hClear := List.find?_eq_none.mp hFound i (List.mem_range.mpr hi)
      rw [Bool.not_eq_true] at hClear
      rw [hClear]
      exact BitVec.getLsbD_zero.symm
  | some i =>
      exact .inr ⟨List.mem_range.mp (List.mem_of_find?_eq_some hFound), List.find?_some hFound⟩

/-- The subslices that the fuses leave, and the banks of the L3 cache. -/
def fusedSubslices (registers : SseuRegisters) : BitVec 32 := registers.geometryDssEnable &&& 0x3f
def fusedBanks (device : Device) : BitVec 32 := ~~~device.deRead gen10MirrorFuse3 &&& gen10L3bankMask

/-- A register of the banks, on a device that has the table for them. -/
def L3Steered (device : Device) (reg : Nat) : Prop :=
  (device.graphics.ver ≥ 11 ∧ device.graphics.full < ipVer 12 55) ∧ 0xB100 ≤ reg ∧ reg ≤ 0xB3FF

instance (device : Device) (reg : Nat) : Decidable (L3Steered device reg) :=
  inferInstanceAs (Decidable (_ ∧ _))

/-- The second pass over the execution units leaves the masks of the subslices. -/
theorem hsw_ofEngines (sseu : SseuDevInfo) :
    ((sseu.ofEngines registers).getD (sseu.gen12SseuInfoInit registers)).maxSlices = 1 ∧
      ((sseu.ofEngines registers).getD (sseu.gen12SseuInfoInit registers)).hsw 0 =
        (fusedSubslices registers).setWidth 8 := by
  have first := SseuDevInfo.fused registers sseu
  rw [SseuDevInfo.ofEngines]
  generalize sseu.gen12SseuInfoInit registers = fusedSseu at first ⊢
  cases hAck : (registers.slicePgctlAck 0).getLsbD 0 with
  | false =>
      rw [SseuDevInfo.status_of_not_acked first hAck]
      exact ⟨first.maxSlices, first.hsw⟩
  | true =>
      cases hGated : sseu.hasSubslicePg with
      | false =>
          rw [SseuDevInfo.status_of_ungated first hAck hGated]
          exact ⟨first.maxSlices, first.hsw⟩
      | true =>
          have hCounts (list : List Nat) (s : SseuDevInfo) :
              (list.foldl (fun s ss => s.addEus (SseuDevInfo.ackedEus registers ss)) s).maxSlices =
                  s.maxSlices ∧
                (list.foldl (fun s ss => s.addEus (SseuDevInfo.ackedEus registers ss)) s).hsw 0 =
                  s.hsw 0 := by
            induction list generalizing s with
            | nil => exact ⟨rfl, rfl⟩
            | cons ss rest ih => exact ih _
          rw [SseuDevInfo.status_of_gated first hAck hGated, Option.getD_some]
          refine ⟨(hCounts _ _).1.trans first.maxSlices, (hCounts _ _).2.trans ?_⟩
          rw [SseuDevInfo.hsw_marked, first.hsw]
          rfl

theorem subslices_readFuses :
    (readFuses device registers start).intelSseuGetHswSubslices 0 = fusedSubslices registers := by
  obtain ⟨hSlices, hMask⟩ := @hsw_ofEngines registers start.sseu
  have hSseu : (readFuses device registers start).sseu =
      (start.sseu.ofEngines registers).getD (start.sseu.gen12SseuInfoInit registers) := by
    rw [readFuses]
    generalize (start.sseu.ofEngines registers).getD (start.sseu.gen12SseuInfoInit registers) = sseu
    split
    · rfl
    · rfl
  have hSmall : (fusedSubslices registers).toNat ≤ 0x3f := by
    rw [fusedSubslices, BitVec.toNat_and]
    exact Nat.and_le_right
  rw [McrGt.intelSseuGetHswSubslices, hSseu, hSlices, if_neg (by decide), hMask]
  apply BitVec.eq_of_toNat_eq
  rw [BitVec.toNat_setWidth, BitVec.toNat_setWidth]
  omega

/-- The only table is that of the banks, on a device that has it and whose first subslice
has no bank of its number. -/
theorem steeringTable_eq (hTables : ∀ type, start.steeringTable type = none) (type : SteeringType) :
    (initSteering device registers start).1.steeringTable type =
      if type = .l3bank ∧ (device.graphics.ver ≥ 11 ∧ device.graphics.full < ipVer 12 55) ∧
        (fusedBanks device).getLsbD (ffs (fusedSubslices registers)) = false
      then some iclL3bankSteeringTable else none := by
  have hTable : (initSteering device registers start).1.steeringTable =
      if (readFuses device registers start).l3bankMask.getLsbD (ffs (fusedSubslices registers)) then
        Function.update (readFuses device registers start).steeringTable .l3bank none
      else (readFuses device registers start).steeringTable := by
    rw [← @subslices_readFuses device registers start]
    rfl
  rw [hTable]
  by_cases hVersion : device.graphics.ver ≥ 11 ∧ device.graphics.full < ipVer 12 55
  · have hBanks : (readFuses device registers start).l3bankMask = fusedBanks device := by
      rw [readFuses, if_pos hVersion]
      rfl
    have hFirst : (readFuses device registers start).steeringTable =
        Function.update start.steeringTable .l3bank (some iclL3bankSteeringTable) := by
      rw [readFuses, if_pos hVersion]
    rw [hBanks, hFirst]
    cases hBank : (fusedBanks device).getLsbD (ffs (fusedSubslices registers)) with
    | true =>
        rw [if_pos rfl, Function.update_idem, if_neg (by simp)]
        by_cases hType : type = .l3bank
        · rw [hType]
          exact Function.update_self ..
        · rw [Function.update_of_ne hType, hTables]
    | false =>
        rw [if_neg Bool.false_ne_true]
        by_cases hType : type = .l3bank
        · rw [if_pos ⟨hType, hVersion, rfl⟩, hType]
          exact Function.update_self ..
        · rw [if_neg fun h => hType h.1, Function.update_of_ne hType, hTables]
  · have hFirst : (readFuses device registers start).steeringTable = start.steeringTable := by
      rw [readFuses, if_neg hVersion]
    rw [hFirst, if_neg (c := type = .l3bank ∧ _) fun h => hVersion h.2.1]
    split
    · by_cases hType : type = .l3bank
      · rw [hType]
        exact Function.update_self ..
      · rw [Function.update_of_ne hType, hTables]
    · exact hTables type

/-- Where a register is steered to after the fuses were read. -/
theorem nonterminated_eq (hTables : ∀ type, start.steeringTable type = none) (reg : Nat) :
    (initSteering device registers start).1.intelGtMcrGetNonterminatedSteering reg =
      if L3Steered device reg ∧ (fusedBanks device).getLsbD (ffs (fusedSubslices registers)) = false
      then (0, .ofNat 8 (ffs (fusedBanks device)))
      else (0, .ofNat 8 (ffs (fusedSubslices registers))) := by
  have hNeeds (type : SteeringType) :
      (initSteering device registers start).1.regNeedsReadSteering reg type =
        decide (type = .l3bank ∧ L3Steered device reg ∧
          (fusedBanks device).getLsbD (ffs (fusedSubslices registers)) = false) := by
    rw [McrGt.regNeedsReadSteering, steeringTable_eq hTables]
    by_cases hHas : type = .l3bank ∧ (device.graphics.ver ≥ 11 ∧ device.graphics.full < ipVer 12 55) ∧
        (fusedBanks device).getLsbD (ffs (fusedSubslices registers)) = false
    · rw [if_pos hHas]
      simp [iclL3bankSteeringTable, L3Steered, hHas]
    · rw [if_neg hHas]
      refine (decide_eq_false fun h => hHas ⟨h.1, h.2.1.1, h.2.2⟩).symm
  have hDefault : (initSteering device registers start).1.defaultSteering =
      (0, .ofNat 8 (ffs (fusedSubslices registers))) := by
    rw [← @subslices_readFuses device registers start]
    rfl
  rw [McrGt.intelGtMcrGetNonterminatedSteering, SteeringType.all]
  simp only [List.find?_cons, hNeeds, hDefault]
  by_cases hSteered : L3Steered device reg ∧
      (fusedBanks device).getLsbD (ffs (fusedSubslices registers)) = false
  · have hBanks : (initSteering device registers start).1.l3bankMask = fusedBanks device := by
      have hLast : (initSteering device registers start).1.l3bankMask =
        (readFuses device registers start).l3bankMask := rfl
      rw [hLast, readFuses, if_pos hSteered.1.1]
      rfl
    simp [hSteered, McrGt.getNonterminatedSteering, hBanks]
  · simp [hSteered]

end Fuses

/-- The group and the instance in the flags of an entry. -/
def steerFields (flags : BitVec 32) : Nat × Nat :=
  ((steeringGroup.get flags).toNat, (steeringInstance.get flags).toNat)

/-- The unit that an access to a register goes to is there: a bank of the L3 cache, or a
subslice of the only slice. -/
def Live (device : Device) (registers : SseuRegisters) (reg : Nat) (steering : Nat × Nat) : Prop :=
  steering.1 = 0 ∧
    if L3Steered device reg then (fusedBanks device).getLsbD steering.2 = true
    else (fusedSubslices registers).getLsbD steering.2 = true

/-- The fuses leave a unit of the kind that a register is read from. -/
def Reachable (device : Device) (registers : SseuRegisters) (reg : Nat) : Prop :=
  if L3Steered device reg then fusedBanks device ≠ 0 else fusedSubslices registers ≠ 0

section Flags

variable {device : Device} {registers : SseuRegisters} {start : McrGt}

/-- The flags of a multicast register say where it is steered to, in four bits each. -/
theorem steerFields_mcrReg (steering : Steering) (offset : Nat) (masked : Bool) :
    steerFields (mcrReg steering offset masked).flags =
      ((steering offset).1.toNat % 16, (steering offset).2.toNat % 16) := by
  have hMasked (f : Field) (hf : f = steeringGroup ∨ f = steeringInstance) :
      f.get (if masked then gucRegsetMasked else 0) = 0 ∧ f.get gucRegsetNeedsSteering = 0 := by
    rcases hf with rfl | rfl <;> cases masked <;> decide
  have hOwn (f g : Field) (hf : f.low + f.width ≤ 32) (hg : g.low + g.width ≤ 32)
      (hDisjoint : f.Disjoint g) (hWidth : f.width = 4) (value : BitVec 8) (other : BitVec 32) :
      f.get (g.prep other) = 0 ∧ (f.get (f.prep (value.setWidth 32))).toNat = value.toNat % 16 := by
    refine ⟨Field.get_prep_of_disjoint hf hg hDisjoint, ?_⟩
    rw [Field.toNat_get_prep hf, hWidth, BitVec.toNat_setWidth]
    omega
  obtain ⟨hFirst, hGroup⟩ := hOwn steeringGroup steeringInstance (by decide) (by decide)
    (.inl (by decide)) rfl (steering offset).1 ((steering offset).2.setWidth 32)
  obtain ⟨hSecond, hInstance⟩ := hOwn steeringInstance steeringGroup (by decide) (by decide)
    (.inr (by decide)) rfl (steering offset).2 ((steering offset).1.setWidth 32)
  have hGroupMasked := hMasked steeringGroup (.inl rfl)
  have hInstanceMasked := hMasked steeringInstance (.inr rfl)
  have hGroupField : (⟨12, 4⟩ : Field) = steeringGroup := rfl
  have hInstanceField : (⟨20, 4⟩ : Field) = steeringInstance := rfl
  rw [mcrReg, steerFields, gucRegsetSteering, hGroupField, hInstanceField]
  simp only [Field.get_or, hFirst, hSecond, hGroupMasked, hInstanceMasked]
  rw [Prod.mk.injEq]
  constructor
  · simpa using hGroup
  · simpa using hInstance

theorem getLsbD_mmioReg (offset : Nat) (masked : Bool) :
    (mmioReg offset masked).flags.getLsbD 1 = false := by
  cases masked <;> simp [mmioReg, gucRegsetMasked]

/-- A register is added plainly or with its steering. -/
theorem mem_regsetRequests {steering : Steering} {regs : EngineRegs} {request : RegRequest}
    (h : request ∈ regsetRequests device steering regs) :
    (∃ masked, request = mmioReg request.offset masked) ∨
      ∃ masked, request = mcrReg steering request.offset masked := by
  simp only [regsetRequests, List.mem_append] at h
  rcases h with ((((h | h) | h) | h) | h) | h
  · simp only [List.mem_cons, List.not_mem_nil, or_false] at h
    rcases h with rfl | rfl | rfl
    · exact .inl ⟨true, rfl⟩
    · exact .inl ⟨false, rfl⟩
    · exact .inl ⟨false, rfl⟩
  · split at h
    · rw [List.mem_singleton] at h
      exact .inl ⟨true, by rw [h]; rfl⟩
    · cases h
  · obtain ⟨wa, -, rfl⟩ := List.mem_map.mp h
    exact .inr ⟨wa.maskedReg, rfl⟩
  · obtain ⟨i, -, rfl⟩ := List.mem_map.mp h
    exact .inl ⟨false, rfl⟩
  · obtain ⟨i, -, rfl⟩ := List.mem_map.mp h
    split
    · exact .inr ⟨false, rfl⟩
    · exact .inl ⟨false, rfl⟩
  · split at h
    · obtain ⟨reg, -, rfl⟩ := List.mem_map.mp h
      exact .inr ⟨false, rfl⟩
    · cases h

theorem toNat_short {n : Nat} (h : n < 16) : (BitVec.ofNat 8 n).toNat % 16 = n := by
  rw [BitVec.toNat_ofNat]
  omega

/-- Only four bits of a mask matter to an instance that has four bits. -/
theorem getLsbD_ffs_iff {word : BitVec 32} (hSmall : ∀ i, word.getLsbD i = true → i < 16) :
    word.getLsbD ((BitVec.ofNat 8 (ffs word)).toNat % 16) = true ↔ word ≠ 0 := by
  rcases ffs_spec word with ⟨hZero, hAll⟩ | ⟨hLt, hBit⟩
  · rw [hZero]
    simp
  · rw [toNat_short (hSmall _ hBit)]
    refine iff_of_true hBit fun hZero => ?_
    rw [hZero] at hBit
    simp at hBit

theorem lt_of_getLsbD {word mask : BitVec 32} {n i : Nat} (hMask : mask.toNat < 2 ^ n)
    (hBit : (word &&& mask).getLsbD i = true) : i < n := by
  by_contra hLarge
  have hPower : 2 ^ n ≤ 2 ^ i := Nat.pow_le_pow_right (by decide) (Nat.not_lt.mp hLarge)
  rw [BitVec.getLsbD_and, Bool.and_eq_true] at hBit
  have hClear : mask.getLsbD i = false := Nat.testBit_lt_two_pow (Nat.lt_of_lt_of_le hMask hPower)
  exact Bool.false_ne_true (hClear.symm.trans hBit.2)

theorem fusedBanks_lt {i : Nat} (h : (fusedBanks device).getLsbD i = true) : i < 4 :=
  lt_of_getLsbD (n := 4) (by decide) h

theorem fusedSubslices_lt {i : Nat} (h : (fusedSubslices registers).getLsbD i = true) : i < 6 :=
  lt_of_getLsbD (n := 6) (by decide) h

/-- The steering that the setup finds reaches a unit whenever there is one. -/
theorem live_iff (hTables : ∀ type, start.steeringTable type = none) (reg : Nat) (masked : Bool) :
    Live device registers reg (steerFields (mcrReg
        (initSteering device registers start).1.intelGtMcrGetNonterminatedSteering reg masked).flags) ↔
      Reachable device registers reg := by
  have hBanks : (fusedBanks device).getLsbD
      ((BitVec.ofNat 8 (ffs (fusedBanks device))).toNat % 16) = true ↔ fusedBanks device ≠ 0 :=
    getLsbD_ffs_iff fun i h => (fusedBanks_lt h).trans (by decide)
  have hSubslices : (fusedSubslices registers).getLsbD
      ((BitVec.ofNat 8 (ffs (fusedSubslices registers))).toNat % 16) = true ↔
        fusedSubslices registers ≠ 0 := getLsbD_ffs_iff fun i h => (fusedSubslices_lt h).trans (by decide)
  rw [steerFields_mcrReg, nonterminated_eq hTables, Live, Reachable]
  by_cases hL3 : L3Steered device reg
  · rw [if_pos hL3, if_pos hL3]
    cases hHit : (fusedBanks device).getLsbD (ffs (fusedSubslices registers)) with
    | false =>
        rw [if_pos ⟨hL3, rfl⟩]
        exact (and_iff_right rfl).trans hBanks
    | true =>
        -- The first subslice has the number of a bank, and so a short one.
        have hLt : ffs (fusedSubslices registers) < 16 := (fusedBanks_lt hHit).trans (by decide)
        rw [if_neg fun h => Bool.false_ne_true h.2.symm]
        refine iff_of_true ⟨rfl, ?_⟩ fun hZero => ?_
        · dsimp only
          rw [toNat_short hLt]
          exact hHit
        · rw [hZero] at hHit
          simp at hHit
  · rw [if_neg hL3, if_neg hL3, if_neg fun h => hL3 h.1]
    exact (and_iff_right rfl).trans hSubslices

end Flags

section Registers

variable {device : Device} {registers : SseuRegisters} {start : McrGt}

/-- The workarounds of the device that are for the selector. -/
theorem own_selector :
    own gen8McrSelector (gen12GtWorkaroundsInit device (readFuses device registers start)).2 =
      [McrGt.setMcrSteering gen8McrSelector 0 (ffs (fusedSubslices registers))] := by
  have hVideo : own gen8McrSelector (wa14011060649 device) = [] := by
    refine List.filter_eq_nil_iff.mpr fun wa hMem => ?_
    obtain ⟨id, -, hWa⟩ := List.mem_filterMap.mp hMem
    split at hWa
    · cases hWa
    · split at hWa
      · cases hWa
      · obtain rfl := Option.some.inj hWa
        intro hReg
        have hBase : engineMmioBase device.graphics.ver id + 0x3f10 = 0xfdc := of_decide_eq_true hReg
        omega
  have hFirst : (readFuses device registers start).iclWaInitMcr.2 =
      McrGt.setMcrSteering gen8McrSelector 0 (ffs (fusedSubslices registers)) := by
    rw [← @subslices_readFuses device registers start]
    rfl
  have hOthers : own gen8McrSelector [waWriteOr true gen10DfrRatioEnAndChicken dfrDisable,
      waAdd false gen7Misccpctl gen12DopClockGateRenderEnable 0 0 false] = [] := by
    rfl
  rw [gen12GtWorkaroundsInit, own, List.filter_append, List.filter_append, hFirst]
  change own gen8McrSelector [_] ++ own gen8McrSelector _ ++ own gen8McrSelector _ = _
  rw [hVideo, hOthers]
  rfl

/-- The selector after the workarounds of the device were applied. -/
theorem selector_applied {masked : Nat → Bool} (hPlain : masked gen8McrSelector = false)
    (regs : Registers) :
    waListApply masked (initSteering device registers start).2.list regs gen8McrSelector =
      merge (gen11McrSlice.mask ||| gen11McrSubslice.mask) (regs gen8McrSelector)
        (gen11McrSlice.prep 0 ||| gen11McrSubslice.prep (.ofNat 32 (ffs (fusedSubslices registers)))) := by
  have represents := represents_addAll
    (gen12GtWorkaroundsInit device (readFuses device registers start)).2
  have hMerged (wa : I915Wa) (hReg : wa.reg = gen8McrSelector) :
      wa ∈ (initSteering device registers start).2.list ↔
        wa = McrGt.setMcrSteering gen8McrSelector 0 (ffs (fusedSubslices registers)) := by
    refine (represents.mem_iff wa).trans ?_
    rw [hReg, own_selector]
    exact Option.some_inj.trans eq_comm
  rcases waListApply_apply masked regs represents.increasing gen8McrSelector with
    ⟨hNone, -⟩ | ⟨wa, hMem, hReg, hApplied⟩
  · exact (hNone _ ((hMerged _ rfl).mpr rfl) rfl).elim
  · obtain rfl := (hMerged wa hReg).mp hMem
    have hMask : gen11McrSlice.mask ||| gen11McrSubslice.mask ≠ (0 : BitVec 32) := by decide
    have hClr : (McrGt.setMcrSteering gen8McrSelector 0 (ffs (fusedSubslices registers))).clr ≠ 0 :=
      hMask
    refine hApplied.trans ?_
    rw [hPlain, applied_plain hClr]
    rfl

/-- Where the selector of the device is set to. -/
def selectorFields (selector : BitVec 32) : Nat × Nat :=
  ((gen11McrSlice.get selector).toNat, (gen11McrSubslice.get selector).toNat)

theorem selector_live_iff {masked : Nat → Bool} (hPlain : masked gen8McrSelector = false)
    (regs : Registers) :
    (selectorFields
        (waListApply masked (initSteering device registers start).2.list regs gen8McrSelector)).1 = 0 ∧
      ((fusedSubslices registers).getLsbD (selectorFields
          (waListApply masked (initSteering device registers start).2.list regs
            gen8McrSelector)).2 = true ↔ fusedSubslices registers ≠ 0) := by
  obtain ⟨hSlice, hSubslice⟩ := @Field.toNat_get_merge_pair 32 gen11McrSlice gen11McrSubslice
    (regs gen8McrSelector) (by decide) (by decide) (.inr (by decide)) 0
    (.ofNat 32 (ffs (fusedSubslices registers)))
  rw [selector_applied hPlain, selectorFields, hSlice, hSubslice]
  refine ⟨rfl, ?_⟩
  rcases ffs_spec (fusedSubslices registers) with ⟨hZero, -⟩ | ⟨-, hBit⟩
  · rw [hZero]
    simp
  · have hFew := fusedSubslices_lt hBit
    have hShort : (BitVec.ofNat 32 (ffs (fusedSubslices registers))).toNat % 2 ^ gen11McrSubslice.width =
        ffs (fusedSubslices registers) := by
      rw [show gen11McrSubslice.width = 3 from rfl, BitVec.toNat_ofNat]
      omega
    dsimp only
    rw [hShort]
    refine iff_of_true hBit fun hZero => ?_
    rw [hZero] at hBit
    simp at hBit

/-- Every multicast register that the firmware is told about is steered to a unit that is
there, if the fuses leave one of its kind, and so is the selector of the device. -/
theorem registers_steered (device : Device) (registers : SseuRegisters) (start : McrGt)
    (ioMalloc : Nat → Bool) (regs : EngineId → EngineRegs) (adsRegsetCount counts : EngineId → Nat)
    (adsRegset : List MmioReg) (size : Nat) (masked : Nat → Bool) (before : Registers)
    (hTables : ∀ type, start.steeringTable type = none) (hPlain : masked gen8McrSelector = false)
    (hCreate : gucMmioRegStateCreate ioMalloc device
      (initSteering device registers start).1.intelGtMcrGetNonterminatedSteering regs
      adsRegsetCount = .ok (adsRegset, counts, size)) :
    (∀ reg ∈ adsRegset, reg.flags.getLsbD 1 = true →
      (Live device registers reg.offset (steerFields reg.flags) ↔
        Reachable device registers reg.offset)) ∧
      ((selectorFields (waListApply masked (initSteering device registers start).2.list before
          gen8McrSelector)).1 = 0 ∧
        ((fusedSubslices registers).getLsbD (selectorFields
            (waListApply masked (initSteering device registers start).2.list before
              gen8McrSelector)).2 = true ↔ fusedSubslices registers ≠ 0)) := by
  refine ⟨fun reg hReg hSteered => ?_, selector_live_iff hPlain before⟩
  rw [(gucMmioRegStateCreate_ok hCreate).1, List.mem_flatMap] at hReg
  obtain ⟨id2, -, hReg⟩ := hReg
  rw [engineSection] at hReg
  split at hReg
  · cases hReg
  · obtain ⟨request, hFound, rfl⟩ := Option.map_eq_some_iff.mp ((holds_sectionOf _).sound reg hReg)
    rcases mem_regsetRequests (List.mem_of_find?_eq_some hFound) with ⟨plain, hPlainReg⟩ | ⟨bit, hMcr⟩
    · have hClear : request.flags.getLsbD 1 = false := by
        rw [hPlainReg]
        exact getLsbD_mmioReg request.offset plain
      exact (Bool.false_ne_true (hClear.symm.trans hSteered)).elim
    · have hLive := @live_iff device registers start hTables request.offset bit
      rw [← hMcr] at hLive
      exact hLive

/-- A device with the render engine, whose first subslice is the third one and whose only
bank is the second one. -/
def thirdSubslice : Device where
  engines := renderOnly
  engineMask := 1
  graphics := ⟨12, 0⟩
  isHaswell := false
  deRead := fun reg => if reg = gen10MirrorFuse3 then 0xd else 0

def thirdRegisters : SseuRegisters := ⟨0x3c, 0, fun _ => 0, fun _ => 0, fun _ => 0⟩

/-- A device before anything is known about it. -/
def freshMcrGt : McrGt :=
  ⟨⟨12, 0⟩, false, 1, 0, ⟨0, 0, fun _ => 0, 0, 0, false, false, false, 0, 0, 0⟩, 0, 0, fun _ => none,
    (0, 0)⟩

/-- The engine has a workaround in a register of the banks. -/
def bankRegs (_ : EngineId) : EngineRegs := ⟨0x2000, true, [waWriteOr true 0xB100 1]⟩

/-- What the firmware is told. -/
def thirdRegset : Except Int (List MmioReg × (EngineId → Nat) × Nat) :=
  gucMmioRegStateCreate (fun _ => true) thirdSubslice
    (initSteering thirdSubslice thirdRegisters freshMcrGt).1.intelGtMcrGetNonterminatedSteering
    bankRegs fun _ => 0

theorem registers_steered_third :
    ∃ adsRegset counts size, thirdRegset = .ok (adsRegset, counts, size) ∧
      (adsRegset.filter fun reg => reg.offset = 0xB100 ∨ reg.offset = 0xe458).map
          (fun reg => (reg.offset, steerFields reg.flags)) =
        [(0xB100, (0, 1)), (0xe458, (0, 2))] ∧
      ∀ reg ∈ adsRegset, reg.flags.getLsbD 1 = true →
        (Live thirdSubslice thirdRegisters reg.offset (steerFields reg.flags) ↔
          Reachable thirdSubslice thirdRegisters reg.offset) := by
  have hRegset : thirdRegset.toOption.map (fun result =>
      (result.1.filter fun reg => reg.offset = 0xB100 ∨ reg.offset = 0xe458).map
        fun reg => (reg.offset, steerFields reg.flags)) =
      some [(0xB100, (0, 1)), (0xe458, (0, 2))] := by decide +kernel
  cases hCreate : thirdRegset with
  | error e =>
      rw [hCreate] at hRegset
      cases hRegset
  | ok result =>
      obtain ⟨adsRegset, counts, size⟩ := result
      rw [hCreate] at hRegset
      refine ⟨adsRegset, counts, size, rfl, Option.some.inj hRegset, ?_⟩
      exact (registers_steered thirdSubslice thirdRegisters freshMcrGt _ _ _ _ _ _ (fun _ => false)
        (fun _ => 0) (fun _ => rfl) rfl hCreate).1

end Registers

end NootedBlue.Ads
