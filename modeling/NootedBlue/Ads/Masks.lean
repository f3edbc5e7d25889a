import NootedBlue.Engines.MappingTable

/-! The masks of the engines that the firmware may use, one for each of its
classes. The driver fills them once in memory of its own, to find out sizes, and
once in the blob. -/
namespace NootedBlue.Ads

open Engines Bits

/-- The engines of a device, as `intel_engine_setup` leaves them: each has the
class and the instance that the table of engines gives it. -/
structure EngineSet where
  engine : EngineId → Option Engine
  hBuilt : ∀ id2 e, engine id2 = some e →
    e.classb = (intelEngines id2).classb ∧ e.instanceb = (intelEngines id2).instanceb

/-- What the setup of the engines comes to is such a set. -/
def EngineSet.ofInit {allocates : EngineId → Bool} {mediaVer : Nat} {engineMask : BitVec 32}
    {stack : Nat → Nat} {result : Gt × BitVec 32}
    (h : intelEnginesInitMmio allocates mediaVer engineMask stack .empty = .ok result) :
    EngineSet where
  engine := result.1.engine
  hBuilt := by
    intro id2 e hEngine
    have hSpec := intelEnginesInitMmio_spec allocates mediaVer engineMask stack
    rw [h] at hSpec
    have hThis := hSpec.2.1 id2
    rw [hEngine] at hThis
    split at hThis
    · cases hThis
      exact ⟨rfl, rfl⟩
    · cases hThis

/-- Different engines differ in the class of the firmware or in the instance. -/
theorem EngineSet.place_injective (engines : EngineSet) {one other : EngineId} {e e' : Engine}
    (hOne : engines.engine one = some e) (hOther : engines.engine other = some e')
    (h : (engineClassToGucClass e.classb, e.instanceb) =
      (engineClassToGucClass e'.classb, e'.instanceb)) : one = other := by
  obtain ⟨hClass, hInstance⟩ := engines.hBuilt one e hOne
  obtain ⟨hClass', hInstance'⟩ := engines.hBuilt other e' hOther
  obtain ⟨hGuc, hSame⟩ := Prod.mk.inj h
  have hClasses := engineClassToGucClass_injective _ _ hGuc
  rw [hClass, hClass'] at hClasses
  rw [hInstance, hInstance'] at hSame
  exact intelEngines_injective one other (EngineInfo.mk.injEq .. ▸ ⟨hClasses, hSame⟩)

/-- The part of `struct intel_gt` that the ADS is built from: the engines, their
mask in `info`, the version of the graphics and the registers that are read. -/
structure Device where
  engines : EngineSet
  engineMask : BitVec 32
  graphics : IpVersion
  isHaswell : Bool
  deRead : Nat → BitVec 32

/-- `GUC_RENDER_CLASS` and the other classes of the firmware. -/
def gucRenderClass : Nat := 0
def gucVideoClass : Nat := 1
def gucVideoenhanceClass : Nat := 2
def gucBlitterClass : Nat := 3
def gucComputeClass : Nat := 4
def gucGscOtherClass : Nat := 5

def i915MaxRcs : Nat := 1
def i915MaxBcs : Nat := 9
def i915MaxCcs : Nat := 4

/-- `RCS_MASK`, `BCS_MASK` and `CCS_MASK`. -/
def rcsMask (engineMask : BitVec 32) : BitVec 32 := Field.get ⟨rcs0, i915MaxRcs⟩ engineMask
def bcsMask (engineMask : BitVec 32) : BitVec 32 := Field.get ⟨bcs0, i915MaxBcs⟩ engineMask
def ccsMask (engineMask : BitVec 32) : BitVec 32 := Field.get ⟨ccs0, i915MaxCcs⟩ engineMask

/-- `engine_enabled_masks` of `struct guc_gt_system_info`. -/
abbrev EnabledMasks := Nat → BitVec 32

/-- What `fill_engine_enable_masks` writes. The mask of the last class is written
only when there is such an engine. -/
def enableWrites (gt : Device) : List (Writes.Write Nat (BitVec 32)) :=
  [(gucRenderClass, rcsMask gt.engineMask), (gucComputeClass, ccsMask gt.engineMask),
    (gucBlitterClass, bcsMask gt.engineMask), (gucVideoClass, vdboxMask gt.engineMask),
    (gucVideoenhanceClass, veboxMask gt.engineMask)] ++
  ((gt.engines.engine ⟨gsc0, by decide⟩).map fun e => (gucGscOtherClass, .twoPow 32 e.instanceb)).toList

/-- `fill_engine_enable_masks`. -/
def fillEngineEnableMasks (gt : Device) (infoMap : EnabledMasks) : EnabledMasks :=
  Writes.perform (enableWrites gt) infoMap

/-- The masks in `local_info`, which is cleared first. -/
def localInfo (gt : Device) : EnabledMasks := fillEngineEnableMasks gt fun _ => 0

/-- `system_info` holds the masks of the engines. -/
def HoldsMasks (gt : Device) (infoMap : EnabledMasks) : Prop :=
  ∀ classb : EngineClass,
    infoMap (engineClassToGucClass classb) = localInfo gt (engineClassToGucClass classb)

/-- It does once they are filled in, when the blob was cleared or the last class
has an engine. -/
theorem holdsMasks_fill {gt : Device} {infoMap : EnabledMasks}
    (h : infoMap gucGscOtherClass = 0 ∨ (gt.engines.engine ⟨gsc0, by decide⟩).isSome) :
    HoldsMasks gt (fillEngineEnableMasks gt infoMap) := by
  intro classb
  unfold localInfo fillEngineEnableMasks enableWrites
  cases hGsc : gt.engines.engine ⟨gsc0, by decide⟩ with
  | none =>
      rw [hGsc] at h
      have hCleared := h.resolve_right Bool.false_ne_true
      cases classb with
      | other => exact hCleared
      | render | videoDecode | videoEnhancement | copyEngine | compute => rfl
  | some e => cases classb <;> rfl

/-- `guc_get_capture_engine_mask`. -/
def gucGetCaptureEngineMask (infoMap : EnabledMasks) : Nat → BitVec 32
  | 0 => infoMap gucRenderClass ||| infoMap gucComputeClass
  | 1 => infoMap gucVideoClass
  | 2 => infoMap gucVideoenhanceClass
  | 3 => infoMap gucBlitterClass
  | 4 => infoMap gucGscOtherClass
  | _ => 0

/-- The masks of the capture classes are the same for both. -/
theorem gucGetCaptureEngineMask_congr {gt : Device} {infoMap : EnabledMasks}
    (h : HoldsMasks gt infoMap) (captureClass : Nat) :
    gucGetCaptureEngineMask infoMap captureClass =
      gucGetCaptureEngineMask (localInfo gt) captureClass := by
  match captureClass with
  | 0 => exact congrArg₂ (fun x y : BitVec 32 => x ||| y) (h .render) (h .compute)
  | 1 => exact h .videoDecode
  | 2 => exact h .videoEnhancement
  | 3 => exact h .copyEngine
  | 4 => exact h .other
  | _ + 5 => rfl

end NootedBlue.Ads
