import NootedBlue.Ads.CaptureLists
import NootedBlue.Semantics.Serial

/-! `guc_capture_prep_lists`, which finds out how much room the capture lists take,
and puts them into the blob once that is mapped. -/
namespace NootedBlue.Ads

open Engines Bytes

/-- What `guc_capture_prep_lists` uses of a blob that is mapped: its address, the
masks in `system_info`, the pointers `capture_class`, `capture_instance` and
`capture_global` of `ads`, and its bytes. -/
structure CaptureBlob where
  ggttOffset : Nat
  engineEnabledMasks : EnabledMasks
  pointers : Slot → Nat
  memory : Memory

/-- The variables of `guc_capture_prep_lists`; there is no blob while it is not
mapped. -/
structure PrepRun where
  totalSize : Nat
  captureOffset : Nat
  nullGgtt : Nat
  capture : Capture
  adsMap : Option CaptureBlob

/-- Point a list to the null header, when the blob is mapped. -/
def PrepRun.pointNull (s : PrepRun) (slot : Slot) : PrepRun :=
  { s with adsMap := s.adsMap.map fun blob =>
    { blob with pointers := Function.update blob.pointers slot s.nullGgtt } }

/-- Put a list into the blob behind those before it. -/
def PrepRun.place (s : PrepRun) (blob : CaptureBlob) (slot : Slot) (ptr : Memory) (size : Nat) : PrepRun :=
  { s with
    captureOffset := (s.captureOffset + size) % 2 ^ 32
    adsMap := some { blob with
      pointers := Function.update blob.pointers slot ((blob.ggttOffset + s.captureOffset) % 2 ^ 32)
      memory := move blob.memory s.captureOffset ptr size } }

/-- The steps that the three kinds of lists have in common. The flag says that a
list was counted and then left out, where the loop over the classes goes on with
the next class. -/
def placeList (guc : Sizes) (heap : Heap) (s : PrepRun) (slot : Slot) : PrepRun × Bool :=
  match s.capture.intelGucCaptureGetlistsize slot with
  | .error _ => (s.pointNull slot, false)
  | .ok size =>
      let counted := { s with totalSize := (s.totalSize + size) % 2 ^ 32 }
      match s.adsMap with
      | none => (counted, false)
      | some blob =>
          if counted.totalSize > guc.adsCaptureSize then (counted.pointNull slot, true)
          else
            match s.capture.intelGucCaptureGetlist heap slot with
            | (.error _, capture) => (({ counted with capture }).pointNull slot, true)
            | (.ok ptr, capture) => (({ counted with capture }).place blob slot ptr size, false)

/-- One round of the loop over the classes. -/
def captureClassRound (guc : Sizes) (heap : Heap) (infoMap : EnabledMasks) (i : Nat) (s : PrepRun)
    (j : Nat) : PrepRun :=
  if gucGetCaptureEngineMask infoMap j = 0 then
    (s.pointNull ⟨i, .engineClass, j⟩).pointNull ⟨i, .engineInstance, j⟩
  else
    match placeList guc heap s ⟨i, .engineClass, j⟩ with
    | (s, true) => s
    | (s, false) => (placeList guc heap s ⟨i, .engineInstance, j⟩).1

/-- One round of the loop over the owners. -/
def captureOwnerRound (guc : Sizes) (heap : Heap) (infoMap : EnabledMasks) (s : PrepRun) (i : Nat) :
    PrepRun :=
  let classes := (List.range gucMaxEngineClasses).foldl (captureClassRound guc heap infoMap i) s
  (placeList guc heap classes ⟨i, .global, 0⟩).1

/-- What the loops start from: a blob that is mapped gets the null header first. -/
def prepStart (guc : Sizes) (heap : Heap) (capture : Capture) : Option CaptureBlob → PrepRun
  | none => ⟨pageSize, 0, 0, capture, none⟩
  | some blob =>
      let captureOffset := guc.gucAdsCaptureOffset
      let nullHeader := capture.intelGucCaptureGetnullheader heap
      { totalSize := pageSize
        captureOffset := (captureOffset + pageSize) % 2 ^ 32
        nullGgtt := (blob.ggttOffset + captureOffset) % 2 ^ 32
        capture := nullHeader.2
        adsMap := some { blob with
          memory :=
            match nullHeader.1 with
            | .error _ => blob.memory
            | .ok ptr => move blob.memory captureOffset ptr nullHeaderSize } }

/-- The masks that `guc_capture_prep_lists` goes by. -/
def captureInfo (gt : Device) : Option CaptureBlob → EnabledMasks
  | none => localInfo gt
  | some blob => blob.engineEnabledMasks

/-- The loops of `guc_capture_prep_lists`. -/
def prepRun (gt : Device) (guc : Sizes) (heap : Heap) (capture : Capture) (adsMap : Option CaptureBlob) :
    PrepRun :=
  (List.range gucCaptureListIndexMax).foldl (captureOwnerRound guc heap (captureInfo gt adsMap))
    (prepStart guc heap capture adsMap)

/-- `guc_capture_prep_lists`: what it returns, and what it leaves. -/
def gucCapturePrepLists (gt : Device) (guc : Sizes) (heap : Heap) (capture : Capture)
    (adsMap : Option CaptureBlob) : Nat × PrepRun :=
  let last := prepRun gt guc heap capture adsMap
  (pageAlign 32 last.totalSize, last)

/-! The loops come to the lists one after another. What holds of the lists so far
is carried to the next one by either way of handling it. -/

/-- The lists of a class. -/
def classSlots (i j : Nat) : List Slot := [⟨i, .engineClass, j⟩, ⟨i, .engineInstance, j⟩]

/-- The lists of an owner, in the order of the loops. -/
def ownerSlots (i : Nat) : List Slot :=
  (List.range gucMaxEngineClasses).flatMap (classSlots i) ++ [⟨i, .global, 0⟩]

def captureSlots : List Slot := (List.range gucCaptureListIndexMax).flatMap ownerSlots

theorem nodup_captureSlots : captureSlots.Nodup := by decide +kernel

/-- A list belongs to a class that has engines, or to no class. -/
def Enabled (infoMap : EnabledMasks) (slot : Slot) : Prop :=
  slot.type ≠ .global → gucGetCaptureEngineMask infoMap slot.classid ≠ 0

instance (infoMap : EnabledMasks) (slot : Slot) : Decidable (Enabled infoMap slot) :=
  inferInstanceAs (Decidable (_ → _))

/-- What holds of the lists in front of one holds with that one too. -/
structure Carries (guc : Sizes) (heap : Heap) (infoMap : EnabledMasks)
    (property : List Slot → PrepRun → Prop) : Prop where
  placed : ∀ done s slot, property done s → done ++ [slot] <+: captureSlots → Enabled infoMap slot →
    property (done ++ [slot]) (placeList guc heap s slot).1
  kept : ∀ done s slot, property done s → done ++ [slot] <+: captureSlots → Enabled infoMap slot →
    slot.type = .engineClass → (placeList guc heap s slot).2 = false
  skipped : ∀ done s slot, property done s → done ++ [slot] <+: captureSlots → ¬ Enabled infoMap slot →
    property (done ++ [slot]) (s.pointNull slot)

section Loops

variable {guc : Sizes} {heap : Heap} {infoMap : EnabledMasks} {property : List Slot → PrepRun → Prop}
  {done : List Slot} {s : PrepRun}

theorem Carries.classRound (carries : Carries guc heap infoMap property) (i j : Nat)
    (h : property done s) (hPrefix : done ++ classSlots i j <+: captureSlots) :
    property (done ++ classSlots i j) (captureClassRound guc heap infoMap i s j) := by
  have hSplit : done ++ classSlots i j =
      done ++ [⟨i, .engineClass, j⟩] ++ [⟨i, .engineInstance, j⟩] := by
    rw [List.append_assoc]
    rfl
  rw [hSplit] at hPrefix ⊢
  have hFirst := (List.prefix_append _ _).trans hPrefix
  unfold captureClassRound
  by_cases hMask : gucGetCaptureEngineMask infoMap j = 0
  · rw [if_pos hMask]
    have hSkips : ∀ type, type ≠ CaptureType.global → ¬ Enabled infoMap ⟨i, type, j⟩ :=
      fun type hType hEnabled => hEnabled hType hMask
    have hClass := carries.skipped done s ⟨i, .engineClass, j⟩ h hFirst (hSkips _ nofun)
    exact carries.skipped _ _ _ hClass hPrefix (hSkips _ nofun)
  · rw [if_neg hMask]
    have hEnabled : ∀ type, Enabled infoMap ⟨i, type, j⟩ := fun _ _ => hMask
    have hClass := carries.placed done s _ h hFirst (hEnabled .engineClass)
    have hKept := carries.kept done s _ h hFirst (hEnabled .engineClass) rfl
    cases hPlace : placeList guc heap s ⟨i, .engineClass, j⟩ with
    | mk next flag =>
        rw [hPlace] at hClass hKept
        obtain rfl : flag = false := hKept
        exact carries.placed _ next _ hClass hPrefix (hEnabled .engineInstance)

theorem Carries.ownerRound (carries : Carries guc heap infoMap property) (i : Nat) (h : property done s)
    (hPrefix : done ++ ownerSlots i <+: captureSlots) :
    property (done ++ ownerSlots i) (captureOwnerRound guc heap infoMap s i) := by
  unfold ownerSlots at hPrefix ⊢
  rw [← List.append_assoc] at hPrefix ⊢
  have hClasses := Serial.foldl_groups (fun _ _ j => carries.classRound i j) _ h
    ((List.prefix_append _ _).trans hPrefix)
  exact carries.placed _ _ _ hClasses hPrefix fun hGlobal => absurd rfl hGlobal

/-- What the loops start from is carried to their end. -/
theorem Carries.run (carries : Carries guc heap infoMap property) (h : property [] s) :
    property captureSlots
      ((List.range gucCaptureListIndexMax).foldl (captureOwnerRound guc heap infoMap) s) := by
  have hWhole : [] ++ (List.range gucCaptureListIndexMax).flatMap ownerSlots <+: captureSlots :=
    List.prefix_refl captureSlots
  exact Serial.foldl_groups (fun _ _ i => carries.ownerRound i) _ h hWhole

end Loops

end NootedBlue.Ads
