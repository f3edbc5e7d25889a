import NootedBlue.Ads.CaptureFill
import NootedBlue.Ads.Slices

/-! What the two passes over the capture lists come to: the room that the first one
finds is what the second one fills, and a further one leaves the blob as it is. -/
namespace NootedBlue.Ads

open Engines Bytes

/-- The pass over a blob, with the null header cached. -/
def fillPass (guc : Sizes) (heap : Heap) (gc : Capture) (blob : CaptureBlob) : FillPass where
  infoMap := blob.engineEnabledMasks
  capture := (gc.intelGucCaptureGetnullheader heap).2
  heap
  start := guc.gucAdsCaptureOffset
  ggttOffset := blob.ggttOffset

/-- The blob with the null header. -/
def withNullHeader (guc : Sizes) (heap : Heap) (gc : Capture) (blob : CaptureBlob) : CaptureBlob :=
  { blob with
    memory :=
      match (gc.intelGucCaptureGetnullheader heap).1 with
      | .error _ => blob.memory
      | .ok ptr => move blob.memory guc.gucAdsCaptureOffset ptr nullHeaderSize }

/-- A list of a class with engines, or of no class, that has registers. -/
def Wanted (infoMap : EnabledMasks) (gc : Capture) (slot : Slot) : Prop :=
  Enabled infoMap slot ∧ gc.descrs slot ≠ []

instance (infoMap : EnabledMasks) (gc : Capture) (slot : Slot) : Decidable (Wanted infoMap gc slot) :=
  inferInstanceAs (Decidable (_ ∧ _))

/-- The lists in the blob: where each of them is, if it is there. -/
structure Laid (guc : Sizes) (heap : Heap) (gc : Capture) (first after : CaptureBlob)
    (place : Slot → Option Nat) : Prop where
  present : ∀ slot ∈ captureSlots, (place slot).isSome ↔
    Wanted first.engineEnabledMasks gc slot ∧ (gc.available heap slot).isSome
  pointers : ∀ slot ∈ captureSlots, after.pointers slot =
    (first.ggttOffset + (place slot).getD guc.gucAdsCaptureOffset) % 2 ^ 32
  inside : ∀ slot ∈ captureSlots, ∀ offset ∈ place slot,
    guc.gucAdsCaptureOffset + pageSize ≤ offset ∧
      offset + gc.needs slot ≤ guc.gucAdsCaptureOffset + guc.adsCaptureSize
  disjoint : ∀ one ∈ captureSlots, ∀ other ∈ captureSlots, one ≠ other →
    ∀ offset ∈ place one, ∀ offset' ∈ place other,
      offset + gc.needs one ≤ offset' ∨ offset' + gc.needs other ≤ offset
  entries : ∀ slot ∈ captureSlots, ∀ offset ∈ place slot,
    Stored after.memory offset (gc.listBytes slot)
  lists : ∀ slot ∈ captureSlots, ∀ offset ∈ place slot, (gc.descrs slot).length < 2 ^ 16 →
    Stored after.memory offset (le32 (gc.descrs slot).length ++
      ((gc.descrs slot).map RegDescr.entry).flatMap MmioReg.bytes)
  others : ∀ slot, slot ∉ captureSlots → after.pointers slot = first.pointers slot
  outside : ∀ at', at' < guc.gucAdsCaptureOffset ∨ guc.gucAdsCaptureOffset + guc.adsCaptureSize ≤ at' →
    after.memory at' = first.memory at'

section Nullheader

variable {guc : Sizes} {heap : Heap} {gc : Capture} {blob : CaptureBlob} {slot : Slot}

/-- The null header only concerns its own entry of the cache. -/
theorem nullheader_cases (heap : Heap) (gc : Capture) : ∃ cache,
    (gc.intelGucCaptureGetnullheader heap).2 = { gc with adsNullCache := cache } := by
  unfold Capture.intelGucCaptureGetnullheader
  split
  · exact ⟨gc.adsNullCache, rfl⟩
  · split
    · exact ⟨gc.adsNullCache, rfl⟩
    · exact ⟨_, rfl⟩

theorem descrs_fillPass : (fillPass guc heap gc blob).capture.descrs slot = gc.descrs slot := by
  obtain ⟨cache, hCache⟩ := nullheader_cases heap gc
  show ((gc.intelGucCaptureGetnullheader heap).2).descrs slot = _
  rw [hCache]
  rfl

theorem needs_fillPass : (fillPass guc heap gc blob).capture.needs slot = gc.needs slot := by
  unfold Capture.needs
  rw [descrs_fillPass]

theorem listBytes_fillPass : (fillPass guc heap gc blob).capture.listBytes slot = gc.listBytes slot := by
  unfold Capture.listBytes Capture.numEntries
  rw [descrs_fillPass]

theorem available_fillPass :
    (fillPass guc heap gc blob).capture.available heap slot = gc.available heap slot := by
  obtain ⟨cache, hCache⟩ := nullheader_cases heap gc
  show ((gc.intelGucCaptureGetnullheader heap).2).available heap slot = _
  rw [hCache]
  rfl

theorem adsCache_fillPass : (fillPass guc heap gc blob).capture.adsCache = gc.adsCache := by
  obtain ⟨cache, hCache⟩ := nullheader_cases heap gc
  show ((gc.intelGucCaptureGetnullheader heap).2).adsCache = _
  rw [hCache]

theorem sound_fillPass (hSound : gc.Sound) : (fillPass guc heap gc blob).capture.Sound := by
  intro slot cached hCached
  rw [adsCache_fillPass] at hCached
  rw [descrs_fillPass, needs_fillPass, listBytes_fillPass]
  exact hSound slot cached hCached

theorem buffer_fillPass : (fillPass guc heap gc blob).buffer slot =
    if Wanted blob.engineEnabledMasks gc slot then gc.available heap slot else none := by
  unfold FillPass.buffer
  rw [descrs_fillPass]
  show (if Wanted blob.engineEnabledMasks gc slot then
    (fillPass guc heap gc blob).capture.available heap slot else none) = _
  rw [available_fillPass]

theorem captureNeeded_fillPass :
    captureNeeded blob.engineEnabledMasks (fillPass guc heap gc blob).capture =
      captureNeeded blob.engineEnabledMasks gc := by
  refine congrArg (pageSize + ·) (Serial.total_congr fun slot _ => ?_)
  unfold room
  rw [needs_fillPass]

/-- Beside the null header the blob is as before. -/
theorem withNullHeader_memory {at' : Nat}
    (h : at' < guc.gucAdsCaptureOffset ∨ guc.gucAdsCaptureOffset + pageSize ≤ at') :
    (withNullHeader guc heap gc blob).memory at' = blob.memory at' := by
  unfold withNullHeader
  dsimp only
  cases (gc.intelGucCaptureGetnullheader heap).1 with
  | error e => rfl
  | ok ptr =>
      refine move_of_outside ?_
      unfold nullHeaderSize
      unfold pageSize at h
      omega

end Nullheader

theorem sound_of_empty {gc : Capture} (hEmpty : ∀ slot, gc.adsCache slot = none) : gc.Sound := by
  intro slot cached hCached
  rw [hEmpty slot] at hCached
  cases hCached

section Passes

variable {gt : Device} {guc : Sizes} {heap : Heap} {gc : Capture} {blob : CaptureBlob}

/-- What a pass over a blob needs: a sound cache, the size that the first pass found,
a region below 2³², and the lists of the classes. -/
structure Ready (guc : Sizes) (heap : Heap) (gc : Capture) (blob : CaptureBlob) : Prop where
  sound : gc.Sound
  size : guc.adsCaptureSize = captureNeeded blob.engineEnabledMasks gc
  region : guc.gucAdsCaptureOffset + guc.adsCaptureSize < 2 ^ 32
  classes : ∀ slot ∈ captureSlots, slot.type = .engineClass → Wanted blob.engineEnabledMasks gc slot →
    (gc.available heap slot).isSome

theorem Ready.fits (ready : Ready guc heap gc blob) :
    guc.gucAdsCaptureOffset + captureNeeded blob.engineEnabledMasks gc < 2 ^ 32 :=
  ready.size ▸ ready.region

theorem Ready.filling (ready : Ready guc heap gc blob) (gt : Device) :
    Filling (fillPass guc heap gc blob) (withNullHeader guc heap gc blob) captureSlots
      (prepRun gt guc heap gc (some blob)) := by
  have hFits := ready.fits
  have hCarries : Carries guc (fillPass guc heap gc blob).heap (fillPass guc heap gc blob).infoMap
      (Filling (fillPass guc heap gc blob) (withNullHeader guc heap gc blob)) := by
    refine carries_filling (sound_fillPass ready.sound) ?_ ?_ ?_
    · show guc.gucAdsCaptureOffset + captureNeeded blob.engineEnabledMasks _ < 2 ^ 32
      rw [captureNeeded_fillPass]
      exact hFits
    · show captureNeeded blob.engineEnabledMasks _ ≤ guc.adsCaptureSize
      rw [captureNeeded_fillPass, ready.size]
    · intro slot hMem hType hEnabled hDescrs
      rw [descrs_fillPass] at hDescrs
      show ((fillPass guc heap gc blob).capture.available heap slot).isSome
      rw [available_fillPass]
      exact ready.classes slot hMem hType ⟨hEnabled, hDescrs⟩
  apply hCarries.run
  refine ⟨rfl, ?_, rfl, ?_, ?_⟩
  · show (guc.gucAdsCaptureOffset + pageSize) % 2 ^ 32 = guc.gucAdsCaptureOffset + pageSize + 0
    have hPage : pageSize ≤ captureNeeded blob.engineEnabledMasks gc := Nat.le_add_right _ _
    rw [Nat.mod_eq_of_lt (by omega), Nat.add_zero]
  · rfl
  · refine ⟨withNullHeader guc heap gc blob, rfl, ?_⟩
    refine ⟨rfl, rfl, ?_, fun _ _ => rfl, ?_, fun _ _ => rfl⟩
    · intro slot hMem
      exact absurd hMem List.not_mem_nil
    · intro slot hMem
      exact absurd hMem List.not_mem_nil

/-- Where a list is, if it is in the blob. -/
def placeOf (pass : FillPass) (slot : Slot) : Option Nat :=
  if (pass.buffer slot).isSome then some (pass.place slot) else none

theorem mem_placeOf {pass : FillPass} {slot : Slot} {offset : Nat} (h : offset ∈ placeOf pass slot) :
    (∃ ptr, pass.buffer slot = some ptr) ∧ offset = pass.place slot := by
  unfold placeOf at h
  split at h
  · next hSome =>
      cases h
      exact ⟨Option.isSome_iff_exists.mp hSome, rfl⟩
  · cases h

/-- The lists that were laid are apart, and in the region. -/
theorem placeOf_apart {pass : FillPass} {one other : Slot} {offset offset' : Nat}
    (hOne : one ∈ captureSlots) (hOther : other ∈ captureSlots) (hNe : one ≠ other)
    (hPlace : offset ∈ placeOf pass one) (hPlace' : offset' ∈ placeOf pass other) :
    offset + pass.capture.needs one ≤ offset' ∨ offset' + pass.capture.needs other ≤ offset := by
  obtain ⟨⟨ptr, hBuffer⟩, rfl⟩ := mem_placeOf hPlace
  obtain ⟨⟨ptr', hBuffer'⟩, rfl⟩ := mem_placeOf hPlace'
  have hApart : Serial.before pass.takes captureSlots one + pass.takes one ≤
      Serial.before pass.takes captureSlots other ∨
    Serial.before pass.takes captureSlots other + pass.takes other ≤
      Serial.before pass.takes captureSlots one := Serial.disjoint hOne hOther hNe
  rw [takes_of_buffer hBuffer, takes_of_buffer hBuffer'] at hApart
  unfold FillPass.place
  omega

theorem placeOf_inside {pass : FillPass} {slot : Slot} {offset : Nat} (hMem : slot ∈ captureSlots)
    (hPlace : offset ∈ placeOf pass slot) :
    pass.start + pageSize ≤ offset ∧
      offset + pass.capture.needs slot ≤ pass.start + captureNeeded pass.infoMap pass.capture := by
  obtain ⟨⟨ptr, hBuffer⟩, rfl⟩ := mem_placeOf hPlace
  have hEnd : Serial.before pass.takes captureSlots slot + pass.takes slot ≤
      Serial.total pass.takes captureSlots := Serial.before_add_size_le hMem
  have hRoom : Serial.total pass.takes captureSlots ≤
      Serial.total (room pass.infoMap pass.capture) captureSlots := Serial.total_le_total takes_le_room
  rw [takes_of_buffer hBuffer] at hEnd
  unfold FillPass.place captureNeeded
  omega

/-- A pass returns what the first one did. -/
theorem Ready.totalSize (ready : Ready guc heap gc blob) {s : PrepRun}
    (filling : Filling (fillPass guc heap gc blob) (withNullHeader guc heap gc blob) captureSlots s) :
    pageAlign 32 s.totalSize = guc.adsCaptureSize := by
  have hTotal : s.totalSize = captureNeeded blob.engineEnabledMasks gc :=
    filling.totalSize.trans captureNeeded_fillPass
  have hFits : captureNeeded blob.engineEnabledMasks gc < 2 ^ 32 :=
    Nat.lt_of_le_of_lt (Nat.le_add_left _ _) ready.fits
  rw [hTotal, ready.size]
  exact pageAlign_captureNeeded hFits

/-- A list that was laid has its bytes. -/
theorem Ready.entries (ready : Ready guc heap gc blob) {after : CaptureBlob}
    (filled : Filled (fillPass guc heap gc blob) (withNullHeader guc heap gc blob) captureSlots after)
    {slot : Slot} (hMem : slot ∈ captureSlots) {offset : Nat}
    (hPlace : offset ∈ placeOf (fillPass guc heap gc blob) slot) :
    Stored after.memory offset (gc.listBytes slot) := by
  obtain ⟨⟨ptr, hBuffer⟩, rfl⟩ := mem_placeOf hPlace
  have hMatches := filled.lists slot hMem ptr hBuffer
  rw [needs_fillPass] at hMatches
  rw [buffer_fillPass] at hBuffer
  split at hBuffer
  · next hWanted =>
      exact hMatches.stored (stored_available ready.sound hBuffer) (length_listBytes_le hWanted.2)
  · cases hBuffer

/-- Nothing is written beside the region. -/
theorem Ready.outside (ready : Ready guc heap gc blob) {after : CaptureBlob}
    (filled : Filled (fillPass guc heap gc blob) (withNullHeader guc heap gc blob) captureSlots after)
    {at' : Nat} (h : at' < guc.gucAdsCaptureOffset ∨ guc.gucAdsCaptureOffset + guc.adsCaptureSize ≤ at') :
    after.memory at' = blob.memory at' := by
  have hTakes : Serial.total (fillPass guc heap gc blob).takes captureSlots ≤
      Serial.total (room (fillPass guc heap gc blob).infoMap (fillPass guc heap gc blob).capture)
        captureSlots := Serial.total_le_total takes_le_room
  have hAll : pageSize + Serial.total (room (fillPass guc heap gc blob).infoMap
      (fillPass guc heap gc blob).capture) captureSlots = guc.adsCaptureSize :=
    captureNeeded_fillPass.trans ready.size.symm
  have hStart : (fillPass guc heap gc blob).start = guc.gucAdsCaptureOffset := rfl
  rw [filled.outside at' (by omega)]
  exact withNullHeader_memory (by omega)

/-- The blob after a pass. -/
theorem Ready.laid (ready : Ready guc heap gc blob) {after : CaptureBlob}
    (filled : Filled (fillPass guc heap gc blob) (withNullHeader guc heap gc blob) captureSlots after) :
    Laid guc heap gc blob after (placeOf (fillPass guc heap gc blob)) := by
  refine ⟨?_, ?_, ?_, ?_, ?_, ?_, ?_, ?_⟩
  · intro slot _
    unfold placeOf
    rw [buffer_fillPass]
    by_cases hWanted : Wanted blob.engineEnabledMasks gc slot
    · rw [if_pos hWanted]
      split <;> simp_all
    · simp [hWanted]
  · intro slot hMem
    rw [filled.pointers slot hMem]
    unfold FillPass.pointer placeOf
    split
    · rfl
    · rfl
  · intro slot hMem offset hPlace
    have hInside := placeOf_inside hMem hPlace
    have hNeeded : captureNeeded (fillPass guc heap gc blob).infoMap
        (fillPass guc heap gc blob).capture = guc.adsCaptureSize :=
      captureNeeded_fillPass.trans ready.size.symm
    rw [hNeeded, needs_fillPass] at hInside
    exact hInside
  · intro one hOne other hOther hNe offset hPlace offset' hPlace'
    have hApart := placeOf_apart hOne hOther hNe hPlace hPlace'
    rwa [needs_fillPass, needs_fillPass] at hApart
  · intro slot hMem offset hPlace
    exact ready.entries filled hMem hPlace
  · intro slot hMem offset hPlace hCountable
    rw [← listBytes_eq hCountable]
    exact ready.entries filled hMem hPlace
  · intro slot hOther
    exact filled.others slot hOther
  · intro at' hAt
    exact ready.outside filled hAt

end Passes

/-- The pass over the blob that a pass has left, with the cache that it has left. -/
def FillPass.again (pass : FillPass) (heap : Heap) : FillPass :=
  { pass with
    capture := { pass.capture with adsCache := pass.cacheAfter captureSlots }
    heap }

section Again

variable {pass : FillPass} {heap : Heap} {slot : Slot}

/-- All lists are there. -/
def Complete (pass : FillPass) : Prop :=
  ∀ slot ∈ captureSlots, Enabled pass.infoMap slot → pass.capture.descrs slot ≠ [] →
    (pass.capture.available pass.heap slot).isSome

/-- They come from the cache now. -/
theorem buffer_again (complete : Complete pass) (heap : Heap) (hMem : slot ∈ captureSlots) :
    (pass.again heap).buffer slot = pass.buffer slot := by
  by_cases hWanted : Enabled pass.infoMap slot ∧ pass.capture.descrs slot ≠ []
  · obtain ⟨ptr, hPtr⟩ := Option.isSome_iff_exists.mp (complete slot hMem hWanted.1 hWanted.2)
    have hBuffer : pass.buffer slot = some ptr := (if_pos hWanted).trans hPtr
    have hCache : pass.cacheAfter captureSlots slot = some (.list ptr (pass.capture.needs slot)) := by
      unfold FillPass.cacheAfter
      rw [if_pos hMem, hBuffer]
    have hAgain : (pass.again heap).buffer slot = (pass.again heap).capture.available heap slot :=
      if_pos hWanted
    have hCached : (pass.again heap).capture.adsCache slot =
        some (.list ptr (pass.capture.needs slot)) := hCache
    rw [hAgain, hBuffer, Capture.available, hCached]
  · exact (if_neg hWanted).trans (if_neg hWanted).symm

theorem takes_again (complete : Complete pass) (heap : Heap) (hMem : slot ∈ captureSlots) :
    (pass.again heap).takes slot = pass.takes slot := by
  unfold FillPass.takes
  rw [buffer_again complete heap hMem]
  rfl

theorem place_again (complete : Complete pass) (heap : Heap) (slot : Slot) :
    (pass.again heap).place slot = pass.place slot :=
  congrArg (pass.start + pageSize + ·)
    (Serial.before_congr fun _ hMem => takes_again complete heap hMem)

theorem pointer_again (complete : Complete pass) (heap : Heap) (hMem : slot ∈ captureSlots) :
    (pass.again heap).pointer slot = pass.pointer slot := by
  unfold FillPass.pointer
  rw [buffer_again complete heap hMem, place_again complete heap]
  rfl

theorem cacheAfter_again (complete : Complete pass) (heap : Heap) :
    (pass.again heap).cacheAfter captureSlots = pass.cacheAfter captureSlots := by
  funext slot
  by_cases hMem : slot ∈ captureSlots
  · unfold FillPass.cacheAfter
    rw [if_pos hMem, if_pos hMem, buffer_again complete heap hMem]
    cases hBuffer : pass.buffer slot with
    | some ptr => rfl
    | none =>
        show pass.cacheAfter captureSlots slot = _
        unfold FillPass.cacheAfter
        rw [if_pos hMem, hBuffer]
  · unfold FillPass.cacheAfter
    rw [if_neg hMem, if_neg hMem]
    show pass.cacheAfter captureSlots slot = _
    unfold FillPass.cacheAfter
    rw [if_neg hMem]

/-- A byte between the null header and the end of the last list is one of a list. -/
theorem exists_list {at' : Nat} (hStart : pass.start + pageSize ≤ at')
    (hEnd : at' < pass.start + pageSize + Serial.total pass.takes captureSlots) :
    ∃ slot ∈ captureSlots, ∃ ptr, pass.buffer slot = some ptr ∧
      ∃ i < pass.capture.needs slot, at' = pass.place slot + i := by
  have hPosition : at' - (pass.start + pageSize) < Serial.total pass.takes captureSlots := by omega
  obtain ⟨slot, hMem, hLe, hLt⟩ := Serial.covered nodup_captureSlots hPosition
  cases hBuffer : pass.buffer slot with
  | none =>
      rw [takes_of_none hBuffer] at hLt
      omega
  | some ptr =>
      rw [takes_of_buffer hBuffer] at hLt
      refine ⟨slot, hMem, ptr, hBuffer, at' - pass.place slot, ?_, ?_⟩
      · unfold FillPass.place
        omega
      · unfold FillPass.place
        omega

theorem Filled.memory_again {first blob after : CaptureBlob}
    (filled : Filled pass first captureSlots blob) (complete : Complete pass)
    (refilled : Filled (pass.again heap) blob captureSlots after) : after.memory = blob.memory := by
  funext at'
  have hTotal : Serial.total (pass.again heap).takes captureSlots =
      Serial.total pass.takes captureSlots :=
    Serial.total_congr fun _ hMem => takes_again complete heap hMem
  by_cases hInside : pass.start + pageSize ≤ at' ∧
      at' < pass.start + pageSize + Serial.total pass.takes captureSlots
  · obtain ⟨slot, hMem, ptr, hBuffer, i, hIndex, rfl⟩ := exists_list hInside.1 hInside.2
    have hAfter := refilled.lists slot hMem ptr ((buffer_again complete heap hMem).trans hBuffer) i hIndex
    rw [place_again complete heap] at hAfter
    exact hAfter.trans (filled.lists slot hMem ptr hBuffer i hIndex).symm
  · refine refilled.outside at' ?_
    rw [hTotal]
    show at' < pass.start + pageSize ∨ pass.start + pageSize + _ ≤ at'
    omega

/-- What is filled in again is what was there. -/
theorem Filled.again {first blob after : CaptureBlob} (filled : Filled pass first captureSlots blob)
    (complete : Complete pass) (refilled : Filled (pass.again heap) blob captureSlots after) :
    after = blob := by
  have hPointers : after.pointers = blob.pointers := by
    funext slot
    by_cases hMem : slot ∈ captureSlots
    · rw [refilled.pointers slot hMem, filled.pointers slot hMem, pointer_again complete heap hMem]
    · exact refilled.others slot hMem
  have hMemory : after.memory = blob.memory := filled.memory_again complete refilled
  obtain ⟨ggttOffset, masks, pointers, memory⟩ := after
  obtain rfl : ggttOffset = blob.ggttOffset := refilled.ggttOffset.trans filled.ggttOffset.symm
  obtain rfl : masks = blob.engineEnabledMasks := refilled.masks
  obtain rfl : pointers = blob.pointers := hPointers
  obtain rfl : memory = blob.memory := hMemory
  rfl

/-- All variables come to the same. -/
theorem Filling.again {first blob : CaptureBlob} {s t : PrepRun}
    (filling : Filling pass first captureSlots s) (complete : Complete pass) (hMap : s.adsMap = some blob)
    (refilling : Filling (pass.again heap) blob captureSlots t) : t = s := by
  obtain ⟨blob', hMap', filled⟩ := filling.blob
  obtain rfl : blob = blob' := Option.some.inj (hMap.symm.trans hMap')
  obtain ⟨after, hAfter, refilled⟩ := refilling.blob
  obtain rfl := filled.again complete refilled
  have hOffset : t.captureOffset = s.captureOffset := by
    rw [refilling.captureOffset, filling.captureOffset,
      Serial.total_congr fun _ hMem => takes_again complete heap hMem]
    rfl
  have hCapture : t.capture = s.capture := by
    rw [refilling.capture, filling.capture, cacheAfter_again complete heap]
    rfl
  obtain ⟨totalSize, captureOffset, nullGgtt, capture, adsMap⟩ := t
  obtain rfl : totalSize = s.totalSize := refilling.totalSize.trans filling.totalSize.symm
  obtain rfl : captureOffset = s.captureOffset := hOffset
  obtain rfl : nullGgtt = s.nullGgtt := refilling.nullGgtt.trans filling.nullGgtt.symm
  obtain rfl : capture = s.capture := hCapture
  obtain rfl : adsMap = s.adsMap := hAfter.trans hMap.symm
  rfl

end Again

section Calls

variable {gt : Device} {guc : Sizes} {heap : Heap} {gc : Capture} {blob : CaptureBlob}

/-- There is a null header in the cache, or memory for one. -/
theorem exists_nullheader (h : gc.adsNullCache.isSome ∨ heap.nullHeader.isSome) :
    ∃ ptr, (gc.intelGucCaptureGetnullheader heap).1 = .ok ptr := by
  unfold Capture.intelGucCaptureGetnullheader
  cases hCache : gc.adsNullCache with
  | some ptr => exact ⟨ptr, rfl⟩
  | none =>
      rw [hCache] at h
      obtain ⟨ptr, hPtr⟩ := Option.isSome_iff_exists.mp (h.resolve_left Bool.false_ne_true)
      rw [hPtr]
      exact ⟨ptr, rfl⟩

/-- A null header that was found once is found again. -/
theorem nullheader_again {ptr : Memory} (h : (gc.intelGucCaptureGetnullheader heap).1 = .ok ptr)
    (cache : Slot → Option AdsCache) (heap' : Heap) :
    Capture.intelGucCaptureGetnullheader
        { (gc.intelGucCaptureGetnullheader heap).2 with adsCache := cache } heap' =
      (.ok ptr, { (gc.intelGucCaptureGetnullheader heap).2 with adsCache := cache }) := by
  have hCached : (gc.intelGucCaptureGetnullheader heap).2.adsNullCache = some ptr := by
    unfold Capture.intelGucCaptureGetnullheader at h ⊢
    cases hCache : gc.adsNullCache with
    | some kept =>
        rw [hCache] at h
        cases h
        exact hCache
    | none =>
        rw [hCache] at h
        cases hHeap : heap.nullHeader with
        | none =>
            rw [hHeap] at h
            cases h
        | some new =>
            rw [hHeap] at h
            cases h
            rfl
  rw [Capture.intelGucCaptureGetnullheader]
  dsimp only
  rw [hCached]

/-- The null header that was put into the blob is put there again. -/
theorem withNullHeader_again {after : CaptureBlob} {capture : Capture} {heap' : Heap} {ptr : Memory}
    (hNull : (gc.intelGucCaptureGetnullheader heap).1 = .ok ptr)
    (hAgain : capture.intelGucCaptureGetnullheader heap' = (.ok ptr, capture))
    (filled : Filled (fillPass guc heap gc blob) (withNullHeader guc heap gc blob) captureSlots after) :
    withNullHeader guc heap' capture after = after := by
  have hMatches : Matches after.memory guc.gucAdsCaptureOffset ptr nullHeaderSize := by
    intro i hi
    have hBefore : guc.gucAdsCaptureOffset + i < guc.gucAdsCaptureOffset + pageSize := by
      unfold nullHeaderSize at hi
      unfold pageSize
      omega
    rw [filled.outside (guc.gucAdsCaptureOffset + i) (.inl hBefore)]
    unfold withNullHeader
    rw [hNull]
    exact matches_move _ _ _ _ i hi
  unfold withNullHeader
  rw [hAgain]
  show { after with memory := move after.memory guc.gucAdsCaptureOffset ptr nullHeaderSize } = after
  rw [hMatches.move_self]

/-- With all lists in the cache, the next pass has what it needs. -/
theorem Ready.next (ready : Ready guc heap gc blob)
    (hLists : ∀ slot ∈ captureSlots, Wanted blob.engineEnabledMasks gc slot →
      (gc.available heap slot).isSome)
    {s : PrepRun} {after : CaptureBlob}
    (filling : Filling (fillPass guc heap gc blob) (withNullHeader guc heap gc blob) captureSlots s)
    (hMasks : after.engineEnabledMasks = blob.engineEnabledMasks) (heap' : Heap)
    (hBuffers : ∀ slot ∈ captureSlots, (fillPass guc heap' s.capture after).buffer slot =
      (fillPass guc heap gc blob).buffer slot) :
    Ready guc heap' s.capture after := by
  have hDescrs : ∀ slot, s.capture.descrs slot = gc.descrs slot := fun slot => by
    rw [filling.capture]
    exact descrs_fillPass
  refine ⟨filling.capture ▸ sound_cacheAfter (sound_fillPass ready.sound) _, ?_, ready.region, ?_⟩
  · rw [ready.size, hMasks]
    refine congrArg (pageSize + ·) (Serial.total_congr fun slot _ => ?_)
    unfold room Capture.needs
    rw [hDescrs]
  · intro slot hMem _ hWanted
    have hBuffer := hBuffers slot hMem
    rw [buffer_fillPass, if_pos hWanted] at hBuffer
    rw [hBuffer]
    have hWanted' : Wanted blob.engineEnabledMasks gc slot := by
      unfold Wanted at hWanted
      rwa [hMasks, hDescrs] at hWanted
    rw [buffer_fillPass, if_pos hWanted']
    exact hLists slot hMem hWanted'

/-- A further call, with all lists and the null header in the cache, comes to the
same as the one that put them there. -/
theorem Ready.again (ready : Ready guc heap gc blob) (gt : Device)
    (hLists : ∀ slot ∈ captureSlots, Wanted blob.engineEnabledMasks gc slot →
      (gc.available heap slot).isSome)
    {ptr : Memory} (hNull : (gc.intelGucCaptureGetnullheader heap).1 = .ok ptr) (heap' : Heap) :
    prepRun gt guc heap' (prepRun gt guc heap gc (some blob)).capture
        (prepRun gt guc heap gc (some blob)).adsMap =
      prepRun gt guc heap gc (some blob) := by
  have filling := ready.filling gt
  generalize prepRun gt guc heap gc (some blob) = s at filling ⊢
  obtain ⟨after, hMap, filled⟩ := filling.blob
  have complete : Complete (fillPass guc heap gc blob) := by
    intro slot hMem hEnabled hDescrs
    rw [descrs_fillPass] at hDescrs
    show ((fillPass guc heap gc blob).capture.available heap slot).isSome
    rw [available_fillPass]
    exact hLists slot hMem ⟨hEnabled, hDescrs⟩
  have hNull' : s.capture.intelGucCaptureGetnullheader heap' = (.ok ptr, s.capture) := by
    rw [filling.capture]
    exact nullheader_again hNull _ heap'
  have hPass : fillPass guc heap' s.capture after = (fillPass guc heap gc blob).again heap' := by
    unfold fillPass FillPass.again
    rw [hNull', filled.masks, filled.ggttOffset, filling.capture]
    rfl
  have hBuffers : ∀ slot ∈ captureSlots, (fillPass guc heap' s.capture after).buffer slot =
      (fillPass guc heap gc blob).buffer slot := fun slot hMem => by
    rw [hPass]
    exact buffer_again complete heap' hMem
  have refilling := (ready.next hLists filling filled.masks heap' hBuffers).filling gt
  rw [hPass, withNullHeader_again hNull hNull' filled] at refilling
  rw [hMap]
  exact filling.again complete hMap refilling

/-- The masks in the blob lead to the same sizes. -/
theorem captureNeeded_congr {infoMap : EnabledMasks} (hHolds : HoldsMasks gt infoMap) :
    captureNeeded infoMap gc = captureNeeded (localInfo gt) gc := by
  refine congrArg (pageSize + ·) (Serial.total_congr fun slot _ => ?_)
  have hEnabled : Enabled infoMap slot ↔ Enabled (localInfo gt) slot := by
    unfold Enabled
    rw [gucGetCaptureEngineMask_congr hHolds]
  exact if_congr hEnabled rfl rfl

end Calls

/-- The room that the first pass finds is what the second one uses: it lays the lists
in the region, one behind the other, and points to each of them, or to the null
header. With all memory found, a further call leaves everything as it is. -/
theorem capture_lists (gt : Device) (gc : Capture) (hEmpty : ∀ slot, gc.adsCache slot = none)
    (hNeeded : captureNeeded (localInfo gt) gc < 2 ^ 32) (guc₀ guc : Sizes) (heap₀ heap : Heap)
    (hSize : guc.adsCaptureSize = (gucCapturePrepLists gt guc₀ heap₀ gc none).1)
    (hRegion : guc.gucAdsCaptureOffset + guc.adsCaptureSize < 2 ^ 32) (blob : CaptureBlob)
    (hHolds : HoldsMasks gt blob.engineEnabledMasks)
    (hClasses : ∀ slot ∈ captureSlots, slot.type = .engineClass →
      Wanted blob.engineEnabledMasks gc slot → (heap.list slot).isSome) :
    (gucCapturePrepLists gt guc₀ heap₀ gc none).2.capture = gc ∧
      (gucCapturePrepLists gt guc heap gc (some blob)).1 = guc.adsCaptureSize ∧
      (∃ after place, (gucCapturePrepLists gt guc heap gc (some blob)).2.adsMap = some after ∧
        Laid guc heap gc blob after place) ∧
      ((∀ slot ∈ captureSlots, Wanted blob.engineEnabledMasks gc slot → (heap.list slot).isSome) →
        (gc.adsNullCache.isSome ∨ heap.nullHeader.isSome) →
        ∀ heap', gucCapturePrepLists gt guc heap'
            (gucCapturePrepLists gt guc heap gc (some blob)).2.capture
            (gucCapturePrepLists gt guc heap gc (some blob)).2.adsMap =
          gucCapturePrepLists gt guc heap gc (some blob)) := by
  have hSound : gc.Sound := sound_of_empty hEmpty
  have hAvailable : ∀ slot, (gc.available heap slot).isSome = (heap.list slot).isSome := by
    intro slot
    unfold Capture.available
    rw [hEmpty slot]
    exact Option.isSome_map
  have hMasks : captureNeeded blob.engineEnabledMasks gc = captureNeeded (localInfo gt) gc :=
    captureNeeded_congr hHolds
  have hFirst := gucCapturePrepLists_unmapped hSound hNeeded guc₀ heap₀
  have ready : Ready guc heap gc blob := by
    refine ⟨hSound, hSize.trans (hFirst.trans hMasks.symm), hRegion, fun slot hMem hType hWanted => ?_⟩
    rw [hAvailable]
    exact hClasses slot hMem hType hWanted
  have filling := ready.filling gt
  refine ⟨?_, ?_, ?_, ?_⟩
  · have hStart : Estimated (localInfo gt) gc [] (prepStart guc₀ heap₀ gc none) := ⟨rfl, rfl, rfl⟩
    exact ((carries_estimated hSound hNeeded).run hStart).capture
  · exact ready.totalSize filling
  · obtain ⟨after, hMap, filled⟩ := filling.blob
    exact ⟨after, _, hMap, ready.laid filled⟩
  · intro hLists hNull heap'
    obtain ⟨ptr, hPtr⟩ := exists_nullheader hNull
    have hAgain := ready.again gt (fun slot hMem hWanted => hAvailable slot ▸ hLists slot hMem hWanted)
      hPtr heap'
    exact congrArg (fun s : PrepRun => (pageAlign 32 s.totalSize, s)) hAgain

/-- Two registers of the render class and an extension, one of its instances, and a
global one. -/
def smallTables : Capture where
  reglists := some [⟨[⟨0xB004, 0, 0⟩, ⟨0xB104, 0, 0⟩], 0, 1, 0, by decide⟩,
    ⟨[⟨0x34, 0, 0⟩], 0, 2, 0, by decide⟩, ⟨[⟨0xA188, 0, 0⟩], 0, 0, 0, by decide⟩]
  extlists := some [⟨[⟨0xE160, 0, 0⟩], 0, 1, 0, by decide⟩]
  adsCache := fun _ => none
  adsNullCache := none

def clearHeap : Heap := ⟨some fun _ => 0, fun _ => some fun _ => 0⟩

/-- A blob that holds the masks; its pointers are not written yet. -/
def markedBlob : CaptureBlob := ⟨0, localInfo renderDevice, fun _ => 7, fun _ => 0⟩

def smallSizes : Sizes := ⟨0, 0, 0, 4 * pageSize, 0⟩

theorem small_lists :
    (gucCapturePrepLists renderDevice smallSizes clearHeap smallTables (some markedBlob)).1 = 4 * pageSize ∧
      ∃ after place, (gucCapturePrepLists renderDevice smallSizes clearHeap smallTables
          (some markedBlob)).2.adsMap = some after ∧
        Laid smallSizes clearHeap smallTables markedBlob after place := by
  have hLists := capture_lists renderDevice smallTables (fun _ => rfl) (by decide +kernel) smallSizes
    smallSizes clearHeap clearHeap (by decide +kernel) (by decide +kernel) markedBlob (fun _ => rfl)
    fun _ _ _ _ => rfl
  exact ⟨hLists.2.1, hLists.2.2.1⟩

/-- A global list of 2¹⁶ registers. -/
def longGroup : DescrGroup :=
  ⟨List.replicate (2 ^ 16) ⟨0xB004, 0, 0⟩, 0, 0, 0, by rw [List.length_replicate]; decide⟩

def longTables : Capture where
  reglists := some [longGroup]
  extlists := none
  adsCache := fun _ => none
  adsNullCache := none

/-- The sizes with what the first pass returns. -/
def longSizes : Sizes :=
  ⟨0, 0, 0, (gucCapturePrepLists renderDevice smallSizes clearHeap longTables none).1, 0⟩

section Long

variable {slot : Slot}

theorem length_longTables_global : (longTables.descrs ⟨0, .global, 0⟩).length = 2 ^ 16 := by
  unfold Capture.descrs
  have hList : longTables.gucCaptureGetOneList ⟨0, .global, 0⟩ = some longGroup := rfl
  have hExt : longTables.gucCaptureGetOneExtList ⟨0, .global, 0⟩ = none := rfl
  rw [hList, hExt]
  dsimp only
  rw [List.append_nil]
  exact List.length_replicate

theorem length_longTables (slot : Slot) :
    (longTables.descrs slot).length = 0 ∨ (longTables.descrs slot).length = 2 ^ 16 := by
  unfold Capture.descrs
  cases hList : longTables.gucCaptureGetOneList slot with
  | none => exact .inl rfl
  | some group =>
      unfold Capture.gucCaptureGetOneList findGroup at hList
      have hMem : group ∈ [longGroup] := List.mem_of_find?_eq_some hList
      obtain rfl := List.mem_singleton.mp hMem
      have hExt : longTables.gucCaptureGetOneExtList slot = none := rfl
      rw [hExt]
      dsimp only
      rw [List.append_nil]
      exact .inr List.length_replicate

/-- Their number is 0 in 16 bits. -/
theorem numEntries_longTables (slot : Slot) : longTables.numEntries slot = 0 := by
  unfold Capture.numEntries
  rcases length_longTables slot with hLength | hLength
  · rw [hLength, Nat.zero_mod]
  · rw [hLength, Nat.mod_self]

theorem header_longTables {memory : Memory} {offset : Nat}
    (h : Stored memory offset (longTables.listBytes slot)) : u32 memory offset = 0 := by
  unfold Capture.listBytes at h
  rw [numEntries_longTables, List.take_zero] at h
  exact u32_of_stored h

theorem needs_longTables_le (slot : Slot) : longTables.needs slot ≤ 2 ^ 21 := by
  unfold Capture.needs
  split
  · exact Nat.zero_le _
  · rcases length_longTables slot with hLength | hLength
    · rw [hLength]
      decide
    · rw [hLength]
      decide

theorem captureNeeded_longTables (infoMap : EnabledMasks) : captureNeeded infoMap longTables ≤ 2 ^ 28 := by
  have hRoom : ∀ slot, room infoMap longTables slot ≤ 2 ^ 21 := by
    intro slot
    unfold room
    split
    · exact needs_longTables_le slot
    · exact Nat.zero_le _
  have hTotal : Serial.total (room infoMap longTables) captureSlots ≤ captureSlots.length * 2 ^ 21 :=
    Serial.total_le hRoom
  have hLength : captureSlots.length = 66 := by decide
  rw [hLength] at hTotal
  unfold captureNeeded pageSize
  omega

theorem ready_longTables {size : Nat} (hSize : size = captureNeeded (localInfo renderDevice) longTables) :
    Ready ⟨0, 0, 0, size, 0⟩ clearHeap longTables markedBlob := by
  refine ⟨sound_of_empty fun _ => rfl, hSize, ?_, fun _ _ _ _ => rfl⟩
  have hNeeded := captureNeeded_longTables (localInfo renderDevice)
  have hStart : Sizes.gucAdsCaptureOffset ⟨0, 0, 0, 0, 0⟩ = 6 * pageSize := by decide
  have hOffset : Sizes.gucAdsCaptureOffset ⟨0, 0, 0, size, 0⟩ = 6 * pageSize := hStart
  rw [hOffset]
  unfold pageSize
  dsimp only
  omega

/-- They get their room in the blob, and a header that says that there are none. -/
theorem laid_longTables : ∃ after offset,
    (gucCapturePrepLists renderDevice longSizes clearHeap longTables (some markedBlob)).2.adsMap =
      some after ∧
    after.pointers ⟨0, .global, 0⟩ = (markedBlob.ggttOffset + offset) % 2 ^ 32 ∧
    longSizes.gucAdsCaptureOffset + pageSize ≤ offset ∧ u32 after.memory offset = 0 := by
  have hNeeded := captureNeeded_longTables (localInfo renderDevice)
  have hSize : longSizes.adsCaptureSize = captureNeeded (localInfo renderDevice) longTables :=
    gucCapturePrepLists_unmapped (sound_of_empty fun _ => rfl) (by omega) smallSizes clearHeap
  have ready : Ready longSizes clearHeap longTables markedBlob := ready_longTables hSize
  obtain ⟨after, hMap, filled⟩ := (ready.filling renderDevice).blob
  have laid := ready.laid filled
  have hMem : (⟨0, .global, 0⟩ : Slot) ∈ captureSlots := by decide +kernel
  have hSome : longTables.descrs ⟨0, .global, 0⟩ ≠ [] := by
    intro hNone
    have hLength := length_longTables_global
    rw [hNone] at hLength
    exact absurd hLength (by decide)
  have hPresent := (laid.present _ hMem).mpr ⟨⟨fun h => absurd rfl h, hSome⟩, rfl⟩
  obtain ⟨offset, hPlace⟩ := Option.isSome_iff_exists.mp hPresent
  have hPointer := laid.pointers _ hMem
  rw [hPlace] at hPointer
  exact ⟨after, offset, hMap, hPointer, (laid.inside _ hMem offset hPlace).1,
    header_longTables (laid.entries _ hMem offset hPlace)⟩

end Long

/-- There is no memory for the list of the render class. -/
def fullHeap : Heap where
  nullHeader := some fun _ => 0
  list := fun slot => if slot.type = .engineClass then none else some fun _ => 0

/-- Sizes with which the capture lists start in the last page below 2³². -/
def lastSizes : Sizes := ⟨0, 0, 2 ^ 32 - 0x7000, 4 * pageSize, 0⟩

/-- Where the passes do not agree: 16 bits do not count 2¹⁶ registers; without the
memory for the list of a class, that of its instances is not counted and its pointer
is not written; and an offset may not go beyond 2³². -/
theorem capture_lists_limits :
    ((longTables.descrs ⟨0, .global, 0⟩).length = 2 ^ 16 ∧ ∃ after offset,
      (gucCapturePrepLists renderDevice longSizes clearHeap longTables (some markedBlob)).2.adsMap =
        some after ∧
      after.pointers ⟨0, .global, 0⟩ = (markedBlob.ggttOffset + offset) % 2 ^ 32 ∧
      longSizes.gucAdsCaptureOffset + pageSize ≤ offset ∧ u32 after.memory offset = 0) ∧
    ((gucCapturePrepLists renderDevice smallSizes clearHeap smallTables none).1 = 4 * pageSize ∧
      (gucCapturePrepLists renderDevice smallSizes fullHeap smallTables (some markedBlob)).1 =
        3 * pageSize ∧
      ((gucCapturePrepLists renderDevice smallSizes fullHeap smallTables (some markedBlob)).2.adsMap.map
        fun after => after.pointers ⟨0, .engineInstance, 0⟩) = some 7) ∧
    (lastSizes.gucAdsCaptureOffset = 2 ^ 32 - pageSize ∧
      ((gucCapturePrepLists renderDevice lastSizes clearHeap smallTables (some markedBlob)).2.adsMap.map
        fun after => after.pointers ⟨0, .engineClass, 0⟩) = some 0) :=
  ⟨⟨length_longTables_global, laid_longTables⟩, by decide +kernel, by decide +kernel⟩

end NootedBlue.Ads
