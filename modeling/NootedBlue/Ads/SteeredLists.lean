import Mathlib.Data.List.Nodup
import NootedBlue.Ads.CaptureLists
import NootedBlue.Engines.Sseu
import NootedBlue.Semantics.Transcript

/-! The registers that are captured once for every subslice. Their list is made when the
capture is set up: one pass over the subslices counts, and another one fills the memory
that was allocated for that many. -/
namespace NootedBlue.Ads

open Engines Bits Interaction

/-- What the steering of a device depends on. -/
structure SteeredGt where
  graphics : IpVersion
  sseu : SseuDevInfo

/-- `I915_MAX_SS_FUSE_BITS`, `GEN_DSS_PER_GSLICE` and `GEN_MAX_SS_PER_HSW_SLICE`. -/
def i915MaxSsFuseBits : Nat := 64
def genDssPerGslice : Nat := 4
def genMaxSsPerHswSlice : Nat := 8

/-- The registers of `gen8_extregs` and `xehpg_extregs`. -/
def gen8Extregs : List Nat := [0xe160, 0xe164]
def xehpgExtregs : List Nat := [0x666c]

/-- `GUC_REGSET_STEERING_GROUP` and `GUC_REGSET_STEERING_INSTANCE`. -/
def steeringGroup : Field := ⟨12, 4⟩
def steeringInstance : Field := ⟨20, 4⟩

namespace SteeredGt

variable (gt : SteeredGt)

/-- `has_xehpg_extregs`. -/
def hasXehpgExtregs : Bool := decide (gt.graphics.full ≥ ipVer 12 55)

/-- `intel_gt_mcr_get_ss_steering`. -/
def intelGtMcrGetSsSteering (dss : Nat) : Nat × Nat :=
  if gt.graphics.full ≥ ipVer 12 55 then (dss / genDssPerGslice, dss % genDssPerGslice)
  else (dss / genMaxSsPerHswSlice, dss % genMaxSsPerHswSlice)

/-- `_HAS_SS`. -/
def hasSs (ss group instanceb : Nat) : Bool :=
  if gt.graphics.full ≥ ipVer 12 55 then gt.sseu.intelSseuHasSubslice 0 ss
  else gt.sseu.intelSseuHasSubslice group instanceb

/-- `for_each_ss_steering`. -/
def forEachSsSteering {σ : Type} (body : σ → Nat → Nat → σ) (s : σ) : σ :=
  (List.range i915MaxSsFuseBits).foldl (fun s ss =>
    let steering := gt.intelGtMcrGetSsSteering ss
    if gt.hasSs ss steering.1 steering.2 then body s steering.1 steering.2 else s) s

/-- `num_steer_regs`. -/
def numSteerRegs : Nat :=
  if gt.hasXehpgExtregs then gen8Extregs.length + xehpgExtregs.length else gen8Extregs.length

/-- `num_tot_regs` after the first pass. -/
def numTotRegs : Nat := gt.forEachSsSteering (fun total _ _ => total + gt.numSteerRegs) 0

end SteeredGt

/-- `extarray` and the memory that it points into. -/
structure ExtArray where
  array : Nat → RegDescr
  place : Nat

/-- `__fill_ext_reg`, and the step of `extarray` behind it. The mask is not written. -/
def fillExtReg (sliceId subsliceId : Nat) (ext : ExtArray) (reg : Nat) : ExtArray where
  array := Function.update ext.array ext.place
    { ext.array ext.place with
      reg := reg
      flags := steeringGroup.prep (.ofNat 32 sliceId) |||
        steeringInstance.prep (.ofNat 32 subsliceId) }
  place := ext.place + 1

/-- The body of the second pass. -/
def SteeredGt.fillSubslice (gt : SteeredGt) (ext : ExtArray) (slice subslice : Nat) : ExtArray :=
  let ext := gen8Extregs.foldl (fillExtReg slice subslice) ext
  if gt.hasXehpgExtregs then xehpgExtregs.foldl (fillExtReg slice subslice) ext else ext

/-- The array after the second pass. -/
def SteeredGt.filled (gt : SteeredGt) (array : Nat → RegDescr) : Nat → RegDescr :=
  (gt.forEachSsSteering gt.fillSubslice ⟨array, 0⟩).array

/-- What the allocator is asked for. Memory comes as it is: that of the capture, the
groups that a walk finds behind the first one, and the registers. -/
inductive SteerOp where
  | mallocCapture
  | mallocGroups (count : Nat)
  | mallocRegs (count : Nat)
  | freeGroups (address count : Nat)
  deriving DecidableEq, Repr

abbrev SteerAnswer : SteerOp → Type
  | .mallocCapture => Option Capture
  | .mallocGroups _ => Option (Nat × List DescrGroup)
  | .mallocRegs _ => Option (Nat → RegDescr)
  | .freeGroups _ _ => Unit

abbrev SteerProgram := Program SteerOp SteerAnswer

/-- The list of the render and compute class. -/
def renderSlot : Slot := ⟨gucCaptureListIndexPf, .engineClass, 0⟩

section Passes

variable {gt : SteeredGt} {σ : Type}

/-- The subslices that there are. -/
def SteeredGt.present (gt : SteeredGt) : List Nat :=
  (List.range i915MaxSsFuseBits).filter fun ss =>
    gt.hasSs ss (gt.intelGtMcrGetSsSteering ss).1 (gt.intelGtMcrGetSsSteering ss).2

/-- The registers that there are for each of them. -/
def SteeredGt.extregs (gt : SteeredGt) : List Nat :=
  if gt.hasXehpgExtregs then gen8Extregs ++ xehpgExtregs else gen8Extregs

theorem forEachSsSteering_eq (body : σ → Nat → Nat → σ) (s : σ) :
    gt.forEachSsSteering body s = gt.present.foldl (fun s ss =>
      body s (gt.intelGtMcrGetSsSteering ss).1 (gt.intelGtMcrGetSsSteering ss).2) s := by
  rw [SteeredGt.present, List.foldl_filter]
  rfl

theorem length_extregs : gt.extregs.length = gt.numSteerRegs := by
  rw [SteeredGt.extregs, SteeredGt.numSteerRegs]
  split
  · rw [List.length_append]
  · rfl

theorem numTotRegs_eq : gt.numTotRegs = gt.present.length * gt.extregs.length := by
  have hTotal (list : List Nat) (start : Nat) :
      list.foldl (fun total _ => total + gt.numSteerRegs) start =
        start + list.length * gt.numSteerRegs := by
    induction list generalizing start with
    | nil => simp
    | cons ss rest ih =>
        rw [List.foldl_cons, ih, List.length_cons, Nat.succ_mul]
        omega
  rw [SteeredGt.numTotRegs, forEachSsSteering_eq, hTotal, length_extregs, Nat.zero_add]

theorem numTotRegs_le (gt : SteeredGt) : gt.numTotRegs ≤ 192 := by
  have hPresent : gt.present.length ≤ 64 :=
    (List.length_filter_le _ _).trans (by simp [i915MaxSsFuseBits])
  have hRegs : gt.extregs.length ≤ 3 := by
    rw [SteeredGt.extregs]
    split <;> decide
  rw [numTotRegs_eq]
  exact Nat.mul_le_mul hPresent hRegs

end Passes

/-- The group that `__alloc_ext_regs` sets up for the one of the table, once it is filled. -/
def SteeredGt.extGroup (gt : SteeredGt) (rootlist : DescrGroup) (array : Nat → RegDescr) :
    DescrGroup where
  regs := (List.range gt.numTotRegs).map (gt.filled array)
  owner := rootlist.owner
  type := rootlist.type
  engine := rootlist.engine
  hNumRegs := by
    rw [List.length_map, List.length_range]
    exact Nat.lt_of_le_of_lt (numTotRegs_le gt) (by decide)

/-- The allocations of `guc_capture_alloc_steered_lists`, once there is something to list. -/
def SteeredGt.makeExtlists (gt : SteeredGt) (list : DescrGroup) (capture : Capture) :
    SteerProgram Capture := do
  match ← Program.perform (SteerOp.mallocGroups 2) with
  | none => return capture
  | some (address, behind) => do
      match ← Program.perform (SteerOp.mallocRegs gt.numTotRegs) with
      | none => do
          let _ ← Program.perform (SteerOp.freeGroups address 2)
          return capture
      | some array => return { capture with extlists := some (gt.extGroup list array :: behind) }

/-- `guc_capture_alloc_steered_lists`. -/
def SteeredGt.gucCaptureAllocSteeredLists (gt : SteeredGt) (lists : Option (List DescrGroup))
    (capture : Capture) : SteerProgram Capture :=
  match findGroup lists renderSlot with
  | none => return capture
  | some list =>
      if capture.extlists.isSome then return capture
      else if gt.numTotRegs = 0 then return capture
      else gt.makeExtlists list capture

/-- A register of a table, without flags or a mask. -/
def plainDescr (reg : Nat) : RegDescr := ⟨reg, 0, 0⟩

/-- `MAKE_REGLIST` for the physical function. -/
def makeReglist (regs : List Nat) (type : CaptureType) (classb : Nat)
    (hNumRegs : (regs.map plainDescr).length < 2 ^ 32) : DescrGroup :=
  ⟨regs.map plainDescr, gucCaptureListIndexPf, type.code, classb, hNumRegs⟩

/-- `xe_lp_global_regs`, `xe_lp_rc_class_regs` and `xe_lp_vec_class_regs`. -/
def xeLpGlobalRegs : List Nat :=
  [0xa188, 0x40a0, 0x40b0, 0x4024, 0xceb8, 0xcebc, 0x43f4, 0xcf68, 0xcec4]
def xeLpRcClassRegs : List Nat := [0x7100, 0x7104, 0x7108]
def xeLpVecClassRegs : List Nat := [0x1cc000, 0x1cd000, 0x1ce000, 0x1cf000]

/-- `COMMON_BASE_ENGINE_INSTANCE`. -/
def commonBaseEngineInstance : List Nat :=
  [0x50, 0xb8, 0x78, 0x60, 0xb0, 0x64, 0x68, 0x70, 0x140, 0x168, 0x110, 0x180, 0x74, 0x5c, 0xc0,
    0x6c, 0x94, 0x38, 0x34, 0x30, 0x3c, 0x9c, 0x244, 0x80, 0x29c, 0x270, 0x274, 0x278, 0x27c,
    0x280, 0x284, 0x288, 0x28c]

/-- `xe_lp_lists`. -/
def xeLpLists : List DescrGroup :=
  [makeReglist xeLpGlobalRegs .global 0 (by decide),
    makeReglist xeLpRcClassRegs .engineClass 0 (by decide),
    makeReglist commonBaseEngineInstance .engineInstance 0 (by decide),
    makeReglist [] .engineClass 1 (by decide),
    makeReglist commonBaseEngineInstance .engineInstance 1 (by decide),
    makeReglist xeLpVecClassRegs .engineClass 2 (by decide),
    makeReglist commonBaseEngineInstance .engineInstance 2 (by decide),
    makeReglist [] .engineClass 3 (by decide),
    makeReglist commonBaseEngineInstance .engineInstance 3 (by decide),
    makeReglist [] .engineClass 4 (by decide),
    makeReglist commonBaseEngineInstance .engineInstance 4 (by decide)]

/-- `intel_guc_capture_init`, with `guc_capture_get_device_reglist`. The capture keeps what
was in its memory, but for the table. -/
def SteeredGt.intelGucCaptureInit (gt : SteeredGt) : SteerProgram (Except Int Capture) := do
  match ← Program.perform SteerOp.mallocCapture with
  | none => return .error enomem
  | some capture => do
      let capture ← gt.gucCaptureAllocSteeredLists (some xeLpLists) capture
      return .ok { capture with reglists := some xeLpLists }

/-- The group and the instance that the flags of a register steer to. -/
def RegDescr.steering (descr : RegDescr) : Nat × Nat :=
  ((steeringGroup.get descr.flags).toNat, (steeringInstance.get descr.flags).toNat)

/-- The registers of the subslices: each of them once for every subslice that there is, and
steered to it. -/
structure Steered (gt : SteeredGt) (array : Nat → RegDescr) (regs : List RegDescr) : Prop where
  length : regs.length = gt.present.length * gt.extregs.length
  only : ∀ descr ∈ regs, ∃ ss ∈ gt.present, descr.reg ∈ gt.extregs ∧
    descr.steering = gt.intelGtMcrGetSsSteering ss
  every : ∀ ss ∈ gt.present, ∀ reg ∈ gt.extregs,
    ∃ descr ∈ regs, descr.reg = reg ∧ descr.steering = gt.intelGtMcrGetSsSteering ss
  distinct : (regs.map fun descr => (descr.reg, descr.steering)).Nodup
  masks : regs.map RegDescr.mask = (List.range regs.length).map fun i => (array i).mask
  inside : ∀ i, regs.length ≤ i → gt.filled array i = array i

/-- What the capture is after it is set up, by what its memory held and by what the
allocator gave. -/
inductive CaptureOutcome (gt : SteeredGt) : Transcript SteerAnswer → Except Int Capture → Prop where
  | refused : CaptureOutcome gt [⟨.mallocCapture, none⟩] (.error enomem)
  | nothing (fresh : Capture) (hNothing : fresh.extlists.isSome ∨ gt.present = []) :
      CaptureOutcome gt [⟨.mallocCapture, some fresh⟩]
        (.ok { fresh with reglists := some xeLpLists })
  | noGroups (fresh : Capture) (hEmpty : fresh.extlists = none) (hPresent : gt.present ≠ []) :
      CaptureOutcome gt [⟨.mallocCapture, some fresh⟩, ⟨.mallocGroups 2, none⟩]
        (.ok { fresh with reglists := some xeLpLists })
  | noRegs (fresh : Capture) (address : Nat) (behind : List DescrGroup)
      (hEmpty : fresh.extlists = none) (hPresent : gt.present ≠ []) :
      CaptureOutcome gt
        [⟨.mallocCapture, some fresh⟩, ⟨.mallocGroups 2, some (address, behind)⟩,
          ⟨.mallocRegs (gt.present.length * gt.extregs.length), none⟩, ⟨.freeGroups address 2, ()⟩]
        (.ok { fresh with reglists := some xeLpLists })
  | steered (fresh : Capture) (address : Nat) (behind : List DescrGroup) (array : Nat → RegDescr)
      (regs : List RegDescr) (capture : Capture) (hEmpty : fresh.extlists = none)
      (hPresent : gt.present ≠ []) (hSteered : Steered gt array regs)
      (hList : capture.descrs renderSlot = xeLpRcClassRegs.map plainDescr ++ regs)
      (hFilled : ∀ caplist, Bytes.Stored (capture.fillList renderSlot caplist) 0
        (Bytes.le32 (xeLpRcClassRegs.length + regs.length) ++
          ((xeLpRcClassRegs.map plainDescr ++ regs).map RegDescr.entry).flatMap MmioReg.bytes))
      (hGetlist : ∀ heap, (capture.intelGucCaptureGetlist heap renderSlot).1 =
        match fresh.adsCache renderSlot with
        | some (.list ptr _) => .ok ptr
        | some (.failed status) => .error status
        | none =>
            match heap.list renderSlot with
            | none => .error enomem
            | some caplist => .ok (capture.fillList renderSlot caplist))
      (hOthers : ∀ slot, slot ≠ renderSlot →
        capture.gucCaptureGetOneExtList slot = findGroup (some behind) slot)
      (hCache : capture.adsCache = fresh.adsCache) :
      CaptureOutcome gt
        [⟨.mallocCapture, some fresh⟩, ⟨.mallocGroups 2, some (address, behind)⟩,
          ⟨.mallocRegs (gt.present.length * gt.extregs.length), some array⟩]
        (.ok capture)

section Fill

variable {gt : SteeredGt} {ext : ExtArray}

/-- The registers in the order in which they are filled in, each with its steering. -/
def SteeredGt.plan (gt : SteeredGt) : List (Nat × (Nat × Nat)) :=
  gt.present.flatMap fun ss => gt.extregs.map fun reg => (reg, gt.intelGtMcrGetSsSteering ss)

/-- What is written for one of them. -/
def steerDescr (item : Nat × (Nat × Nat)) (old : RegDescr) : RegDescr :=
  { old with
    reg := item.1
    flags := steeringGroup.prep (.ofNat 32 item.2.1) ||| steeringInstance.prep (.ofNat 32 item.2.2) }

def fillItem (ext : ExtArray) (item : Nat × (Nat × Nat)) : ExtArray :=
  fillExtReg item.2.1 item.2.2 ext item.1

theorem fillSubslice_eq (steering : Nat × Nat) :
    gt.fillSubslice ext steering.1 steering.2 =
      (gt.extregs.map fun reg => (reg, steering)).foldl fillItem ext := by
  rw [List.foldl_map, SteeredGt.fillSubslice, SteeredGt.extregs]
  split
  · rw [List.foldl_append]
    rfl
  · rfl

theorem forEach_fill (start : ExtArray) :
    gt.forEachSsSteering gt.fillSubslice start = gt.plan.foldl fillItem start := by
  rw [forEachSsSteering_eq, SteeredGt.plan, List.foldl_flatMap]
  congr 1
  funext ext ss
  exact fillSubslice_eq _

/-- The items go to the places in a row, and the rest of the memory stays. -/
theorem foldl_fillItem (items : List (Nat × (Nat × Nat))) (ext : ExtArray) (i : Nat) :
    (items.foldl fillItem ext).array i =
      if ext.place ≤ i then
        match items[i - ext.place]? with
        | some item => steerDescr item (ext.array i)
        | none => ext.array i
      else ext.array i := by
  induction items generalizing ext with
  | nil => simp
  | cons item rest ih =>
      rw [List.foldl_cons, ih]
      have hPlace : (fillItem ext item).place = ext.place + 1 := rfl
      rw [hPlace]
      rcases Nat.lt_trichotomy i ext.place with hBefore | rfl | hAfter
      · rw [if_neg (by omega), if_neg (by omega)]
        exact Function.update_of_ne (by omega) ..
      · rw [if_neg (by omega), if_pos (Nat.le_refl _), Nat.sub_self]
        exact Function.update_self ..
      · have hOld : (fillItem ext item).array i = ext.array i :=
          Function.update_of_ne (by omega) ..
        rw [if_pos (by omega), if_pos (by omega), hOld]
        obtain ⟨gap, rfl⟩ : ∃ gap, i = ext.place + 1 + gap := ⟨i - ext.place - 1, by omega⟩
        have hRest : ext.place + 1 + gap - ext.place = gap + 1 := by omega
        rw [Nat.add_sub_cancel_left, hRest, List.getElem?_cons_succ]

theorem length_plan : gt.plan.length = gt.present.length * gt.extregs.length := by
  rw [SteeredGt.plan, List.length_flatMap]
  simp

theorem filled_eq (array : Nat → RegDescr) (i : Nat) :
    gt.filled array i =
      match gt.plan[i]? with
      | some item => steerDescr item (array i)
      | none => array i := by
  rw [SteeredGt.filled, forEach_fill, foldl_fillItem, if_pos (Nat.zero_le i), Nat.sub_zero]

/-- A steering fits into the two fields of the flags. -/
theorem steering_lt {ss : Nat} (h : ss ∈ gt.present) :
    (gt.intelGtMcrGetSsSteering ss).1 < 16 ∧ (gt.intelGtMcrGetSsSteering ss).2 < 16 := by
  have hLt : ss < 64 := List.mem_range.mp (List.mem_filter.mp h).1
  rw [SteeredGt.intelGtMcrGetSsSteering, genDssPerGslice, genMaxSsPerHswSlice]
  split
  · exact ⟨by dsimp only; omega, by dsimp only; omega⟩
  · exact ⟨by dsimp only; omega, by dsimp only; omega⟩

/-- Two subslices are not steered to in the same way. -/
theorem steering_inj {first second : Nat}
    (h : gt.intelGtMcrGetSsSteering first = gt.intelGtMcrGetSsSteering second) : first = second := by
  rw [SteeredGt.intelGtMcrGetSsSteering, SteeredGt.intelGtMcrGetSsSteering, genDssPerGslice,
    genMaxSsPerHswSlice] at h
  split at h
  · obtain ⟨hGroup, hInstance⟩ := Prod.mk.inj h
    omega
  · obtain ⟨hGroup, hInstance⟩ := Prod.mk.inj h
    omega

theorem steering_steerDescr {item : Nat × (Nat × Nat)} (hGroup : item.2.1 < 16)
    (hInstance : item.2.2 < 16) (old : RegDescr) : (steerDescr item old).steering = item.2 := by
  have hBack {value : Nat} {f g : Field} (hf : f.low + f.width ≤ 32) (hg : g.low + g.width ≤ 32)
      (hDisjoint : f.Disjoint g) (hWidth : f.width = 4) (hValue : value < 16) (other : BitVec 32) :
      (f.get (f.prep (.ofNat 32 value) ||| g.prep other)).toNat = value := by
    have hZero : f.get (f.prep (.ofNat 32 value) ||| g.prep other) =
        f.get (f.prep (.ofNat 32 value)) := by
      rw [Field.get_or, Field.get_prep_of_disjoint hf hg hDisjoint]
      exact BitVec.or_zero
    rw [hZero, Field.toNat_get_prep hf, hWidth, BitVec.toNat_ofNat]
    omega
  have hFirst := hBack (f := steeringGroup) (g := steeringInstance) (by decide) (by decide)
    (.inl (by decide)) rfl hGroup (.ofNat 32 item.2.2)
  have hSecond := hBack (f := steeringInstance) (g := steeringGroup) (by decide) (by decide)
    (.inr (by decide)) rfl hInstance (.ofNat 32 item.2.1)
  rw [BitVec.or_comm] at hSecond
  exact Prod.ext hFirst hSecond

theorem mem_plan {item : Nat × (Nat × Nat)} :
    item ∈ gt.plan ↔
      ∃ ss ∈ gt.present, item.1 ∈ gt.extregs ∧ item.2 = gt.intelGtMcrGetSsSteering ss := by
  rw [SteeredGt.plan, List.mem_flatMap]
  constructor
  · rintro ⟨ss, hss, hMem⟩
    obtain ⟨reg, hReg, rfl⟩ := List.mem_map.mp hMem
    exact ⟨ss, hss, hReg, rfl⟩
  · rintro ⟨ss, hss, hReg, hSteering⟩
    exact ⟨ss, hss, List.mem_map.mpr ⟨item.1, hReg, by rw [← hSteering]⟩⟩

theorem nodup_plan : gt.plan.Nodup := by
  have hPresent : gt.present.Nodup := List.nodup_range.filter _
  have hRegs : gt.extregs.Nodup := by
    rw [SteeredGt.extregs]
    split <;> decide
  rw [SteeredGt.plan, List.nodup_flatMap]
  constructor
  · intro ss _
    exact hRegs.map fun first second hEq => (Prod.mk.inj hEq).1
  · refine hPresent.imp fun {first second} hNe item hFirst hSecond => hNe ?_
    obtain ⟨_, _, rfl⟩ := List.mem_map.mp hFirst
    obtain ⟨_, _, hEq⟩ := List.mem_map.mp hSecond
    exact steering_inj (Prod.mk.inj hEq).2.symm

/-- Both passes agree: the array is filled with the plan, and with nothing else. -/
theorem steered_filled (array : Nat → RegDescr) :
    Steered gt array ((List.range gt.numTotRegs).map (gt.filled array)) := by
  have hTotal : gt.numTotRegs = gt.plan.length := by rw [numTotRegs_eq, length_plan]
  have hItem (i : Nat) (hi : i < gt.plan.length) :
      gt.filled array i = steerDescr gt.plan[i] (array i) := by
    rw [filled_eq, List.getElem?_eq_getElem hi]
  have hKeys (i : Nat) (hi : i < gt.plan.length) :
      ((gt.filled array i).reg, (gt.filled array i).steering) = gt.plan[i] := by
    obtain ⟨ss, hss, hReg, hSteering⟩ := mem_plan.mp (List.getElem_mem hi)
    obtain ⟨hGroup, hInstance⟩ := steering_lt hss
    rw [← hSteering] at hGroup hInstance
    rw [hItem i hi, steering_steerDescr hGroup hInstance]
    rfl
  have hAll : ((List.range gt.numTotRegs).map (gt.filled array)).map
      (fun descr => (descr.reg, descr.steering)) = gt.plan := by
    rw [hTotal, List.map_map]
    refine List.ext_getElem (by simp) fun i hLeft hRight => ?_
    rw [List.getElem_map, List.getElem_range]
    exact hKeys i hRight
  exact {
    length := by rw [List.length_map, List.length_range, numTotRegs_eq]
    only := by
      intro descr hMem
      have hPlan : (descr.reg, descr.steering) ∈ gt.plan := hAll ▸ List.mem_map_of_mem hMem
      exact mem_plan.mp hPlan
    every := by
      intro ss hss reg hReg
      have hPlan : (reg, gt.intelGtMcrGetSsSteering ss) ∈ gt.plan :=
        mem_plan.mpr ⟨ss, hss, hReg, rfl⟩
      rw [← hAll] at hPlan
      obtain ⟨descr, hMem, hEq⟩ := List.mem_map.mp hPlan
      obtain ⟨hReg, hSteering⟩ := Prod.mk.inj hEq
      exact ⟨descr, hMem, hReg, hSteering⟩
    distinct := by
      rw [hAll]
      exact nodup_plan
    masks := by
      rw [List.length_map, List.length_range, List.map_map, hTotal]
      refine List.map_congr_left fun i hi => ?_
      rw [Function.comp_apply, hItem i (List.mem_range.mp hi)]
      rfl
    inside := by
      intro i hi
      rw [List.length_map, List.length_range, hTotal] at hi
      rw [filled_eq, List.getElem?_eq_none hi] }

end Fill

section Init

variable {gt : SteeredGt}

/-- The group of the table that the registers of the subslices extend. -/
def renderGroup : DescrGroup := makeReglist xeLpRcClassRegs .engineClass 0 (by decide)

theorem findGroup_render : findGroup (some xeLpLists) renderSlot = some renderGroup := by rfl

/-- What a walk finds behind the extension is found for every other list. -/
theorem findGroup_behind (array : Nat → RegDescr) (behind : List DescrGroup) {slot : Slot}
    (hOther : slot ≠ renderSlot) :
    findGroup (some (gt.extGroup renderGroup array :: behind)) slot =
      findGroup (some behind) slot := by
  rw [findGroup, findGroup, Option.getD_some, Option.getD_some, List.find?_cons_of_neg]
  intro hMatch
  apply hOther
  obtain ⟨owner, type, classid⟩ := slot
  have hOwner : (gt.extGroup renderGroup array).owner = 0 := rfl
  have hType : (gt.extGroup renderGroup array).type = 1 := rfl
  have hEngine : (gt.extGroup renderGroup array).engine = 0 := rfl
  rw [hOwner, hType, hEngine] at hMatch
  cases type <;> simp [CaptureType.code] at hMatch
  rw [← hMatch.1, ← hMatch.2]
  rfl

theorem numTotRegs_eq_zero_iff : gt.numTotRegs = 0 ↔ gt.present = [] := by
  have hRegs : gt.extregs.length ≠ 0 := by
    rw [SteeredGt.extregs]
    split <;> decide
  rw [numTotRegs_eq, Nat.mul_eq_zero, List.length_eq_zero_iff]
  exact or_iff_left hRegs

/-- The list that is copied to the blob has all its registers. -/
theorem stored_steered (capture : Capture) {regs : List RegDescr} (hRegs : regs.length ≤ 192)
    (hList : capture.descrs renderSlot = xeLpRcClassRegs.map plainDescr ++ regs)
    (caplist : Bytes.Memory) :
    Bytes.Stored (capture.fillList renderSlot caplist) 0
      (Bytes.le32 (xeLpRcClassRegs.length + regs.length) ++
        ((xeLpRcClassRegs.map plainDescr ++ regs).map RegDescr.entry).flatMap MmioReg.bytes) := by
  have hLength : (capture.descrs renderSlot).length = xeLpRcClassRegs.length + regs.length := by
    rw [hList, List.length_append, List.length_map]
  have hShort : (capture.descrs renderSlot).length < 2 ^ 16 := by
    rw [hLength, show xeLpRcClassRegs.length = 3 from rfl]
    omega
  have hStored := stored_fillList capture renderSlot caplist
  rwa [listBytes_eq hShort, hLength, hList] at hStored

/-- The list is made when it is first asked for, unless the cache, which nobody cleared, knows
about it already: then that is what is given out. -/
theorem getlist_steered {capture : Capture} {regs : List RegDescr} (hRegs : regs.length ≤ 192)
    (hTable : capture.reglists = some xeLpLists)
    (hList : capture.descrs renderSlot = xeLpRcClassRegs.map plainDescr ++ regs) (heap : Heap) :
    (capture.intelGucCaptureGetlist heap renderSlot).1 =
      match capture.adsCache renderSlot with
      | some (.list ptr _) => .ok ptr
      | some (.failed status) => .error status
      | none =>
          match heap.list renderSlot with
          | none => .error enomem
          | some caplist => .ok (capture.fillList renderSlot caplist) := by
  have hSome : capture.reglists.isNone = false := by rw [hTable]; rfl
  have hGroup : capture.gucCaptureGetOneList renderSlot = some renderGroup := by
    rw [Capture.gucCaptureGetOneList, hTable]
    exact findGroup_render
  have hLength : (capture.descrs renderSlot).length = 3 + regs.length := by
    rw [hList, List.length_append, List.length_map]
    rfl
  have hNumRegs : capture.gucCapListNumRegs renderSlot ≠ 0 := by
    intro hZero
    have hNat := congrArg BitVec.toNat hZero
    rw [gucCapListNumRegs_eq, hLength, BitVec.toNat_ofNat, Nat.mod_eq_of_lt (by omega)] at hNat
    exact Nat.ne_of_gt (Nat.lt_of_lt_of_le (by decide) (Nat.le_add_right 3 regs.length)) hNat
  unfold Capture.intelGucCaptureGetlist
  rw [if_neg (by simp [hSome])]
  cases hCache : capture.adsCache renderSlot with
  | some cached => cases cached <;> rfl
  | none =>
      have hSize : capture.intelGucCaptureGetlistsize renderSlot =
          .ok (Capture.listSize (capture.gucCapListNumRegs renderSlot)) := by
        rw [Capture.intelGucCaptureGetlistsize, Capture.gucCaptureGetlistsize,
          if_neg (by simp [hSome]), hCache, hGroup]
        exact if_neg hNumRegs
      rw [hSize]
      cases heap.list renderSlot <;> rfl

/-- Setting the capture up: the passes over the subslices agree, and whatever the allocator
does, the list of the render and compute class captures every extra register of every
subslice that there is, once and steered to it, or it was not extended at all. -/
theorem capture_initialised (gt : SteeredGt) (transcript : Transcript SteerAnswer)
    (result : Except Int Capture) (plays : Plays gt.intelGucCaptureInit transcript result) :
    CaptureOutcome gt transcript result := by
  obtain ⟨answer, rest, rfl, hRest⟩ := plays_perform_iff.mp plays
  cases answer with
  | none =>
      obtain ⟨rfl, rfl⟩ := plays_done_iff.mp hRest
      exact .refused
  | some fresh =>
      obtain ⟨alloc, last, capture, rfl, hAlloc, hDone⟩ := plays_bind_iff.mp hRest
      obtain ⟨rfl, rfl⟩ := plays_done_iff.mp hDone
      rw [List.append_nil]
      rw [SteeredGt.gucCaptureAllocSteeredLists, findGroup_render] at hAlloc
      dsimp only at hAlloc
      split at hAlloc
      · next hSome =>
          obtain ⟨rfl, rfl⟩ := plays_done_iff.mp hAlloc
          exact .nothing _ (.inl hSome)
      · next hNone =>
          have hEmpty : fresh.extlists = none := Option.not_isSome_iff_eq_none.mp hNone
          split at hAlloc
          · next hZero =>
              obtain ⟨rfl, rfl⟩ := plays_done_iff.mp hAlloc
              exact .nothing _ (.inr (numTotRegs_eq_zero_iff.mp hZero))
          · next hTotal =>
              have hPresent : gt.present ≠ [] := fun h => hTotal (numTotRegs_eq_zero_iff.mpr h)
              obtain ⟨answer, rest, rfl, hGroups⟩ := plays_perform_iff.mp hAlloc
              cases answer with
              | none =>
                  obtain ⟨rfl, rfl⟩ := plays_done_iff.mp hGroups
                  exact .noGroups _ hEmpty hPresent
              | some given =>
                  obtain ⟨address, behind⟩ := given
                  obtain ⟨answer, rest, rfl, hRegs⟩ := plays_perform_iff.mp hGroups
                  rw [numTotRegs_eq]
                  cases answer with
                  | none =>
                      obtain ⟨_, rest, rfl, hFreed⟩ := plays_perform_iff.mp hRegs
                      obtain ⟨rfl, rfl⟩ := plays_done_iff.mp hFreed
                      exact .noRegs _ address behind hEmpty hPresent
                  | some array =>
                      obtain ⟨rfl, rfl⟩ := plays_done_iff.mp hRegs
                      have hLe : (gt.extGroup renderGroup array).regs.length ≤ 192 := by
                        rw [SteeredGt.extGroup, List.length_map, List.length_range]
                        exact numTotRegs_le gt
                      exact .steered fresh address behind array _ _ hEmpty hPresent
                        (steered_filled array) rfl (stored_steered _ hLe rfl)
                        (getlist_steered hLe rfl rfl)
                        (fun slot hOther => findGroup_behind array behind hOther) rfl

/-- A device with one slice, whose first and third subslices are there. -/
def twoSubslices : SteeredGt where
  graphics := ⟨12, 0⟩
  sseu := ⟨1, 0x5, fun _ => 0, 0, 0, false, false, false, 1, 6, 16⟩

/-- An allocator that gives memory that was cleared. -/
def cleared : Opponent SteerAnswer
  | _, .mallocCapture => some ⟨none, none, fun _ => none, none⟩
  | _, .mallocGroups _ => some (0x1000, [])
  | _, .mallocRegs _ => some fun _ => ⟨0, 0, 0⟩
  | _, .freeGroups _ _ => ()

theorem capture_initialised_two :
    (∃ capture, (twoSubslices.intelGucCaptureInit.against cleared).1 = .ok capture ∧
      (capture.descrs renderSlot).map (fun descr => (descr.reg, descr.steering)) =
        [(0x7100, 0, 0), (0x7104, 0, 0), (0x7108, 0, 0), (0xe160, 0, 0), (0xe164, 0, 0),
          (0xe160, 0, 2), (0xe164, 0, 2)]) ∧
      CaptureOutcome twoSubslices (twoSubslices.intelGucCaptureInit.against cleared).2
        (twoSubslices.intelGucCaptureInit.against cleared).1 := by
  refine ⟨⟨_, rfl, by decide +kernel⟩, ?_⟩
  exact capture_initialised twoSubslices _ _ (plays_against _ cleared)

end Init

end NootedBlue.Ads
