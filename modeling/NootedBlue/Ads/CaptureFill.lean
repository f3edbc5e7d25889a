import NootedBlue.Ads.CapturePrep

/-! The two passes of `guc_capture_prep_lists`. The first one adds up what the lists
need. The second one lays them one behind the other, from the cache or from memory
that it allocates, and needs as much. -/
namespace NootedBlue.Ads

open Engines Bytes

/-- What the cache holds is what would be made anew, in some memory. -/
def Capture.Sound (gc : Capture) : Prop :=
  ∀ slot cached, gc.adsCache slot = some cached →
    gc.descrs slot ≠ [] ∧ ∃ ptr, cached = .list ptr (gc.needs slot) ∧ Stored ptr 0 (gc.listBytes slot)

/-- The memory with a list, from the cache or newly allocated. -/
def Capture.available (gc : Capture) (heap : Heap) (slot : Slot) : Option Memory :=
  match gc.adsCache slot with
  | some (.list ptr _) => some ptr
  | _ => (heap.list slot).map (gc.fillList slot)

section Getlist

variable {gc : Capture} {heap : Heap} {slot : Slot}

theorem descrs_of_reglists (h : gc.reglists.isNone) : gc.descrs slot = [] := by
  unfold Capture.descrs Capture.gucCaptureGetOneList findGroup
  rw [Option.isNone_iff_eq_none.mp h]
  rfl

/-- There is no size for a list without registers. -/
theorem getlistsize_missing (hSound : gc.Sound) (hNone : gc.descrs slot = []) :
    ∃ e, gc.intelGucCaptureGetlistsize slot = .error e := by
  unfold Capture.intelGucCaptureGetlistsize Capture.gucCaptureGetlistsize
  split
  · exact ⟨_, rfl⟩
  · cases hCache : gc.adsCache slot with
    | some cached => exact absurd hNone (hSound slot cached hCache).1
    | none =>
        have hNeeds : gc.needs slot < 2 ^ 32 := needs_eq_zero_iff.mpr hNone ▸ Nat.two_pow_pos 32
        dsimp only
        rw [if_pos ((numRegs_eq_zero_iff hNeeds).mpr hNone)]
        split <;> exact ⟨_, rfl⟩

/-- The size of any other list is what it needs. -/
theorem getlistsize_ok (hSound : gc.Sound) (hNeeds : gc.needs slot < 2 ^ 32) (hSome : gc.descrs slot ≠ []) :
    gc.intelGucCaptureGetlistsize slot = .ok (gc.needs slot) := by
  unfold Capture.intelGucCaptureGetlistsize Capture.gucCaptureGetlistsize
  rw [if_neg fun hNone => hSome (descrs_of_reglists hNone)]
  cases hCache : gc.adsCache slot with
  | some cached =>
      obtain ⟨-, ptr, rfl, -⟩ := hSound slot cached hCache
      rfl
  | none =>
      have hGroup : ¬ (gc.gucCaptureGetOneList slot).isNone := by
        intro hNone
        apply hSome
        unfold Capture.descrs
        rw [Option.isNone_iff_eq_none.mp hNone]
      have hFirst : ¬ (!false && slot.owner = gucCaptureListIndexPf &&
          (gc.gucCaptureGetOneList slot).isNone) = true := fun h => hGroup (Bool.and_eq_true _ _ ▸ h).2
      dsimp only
      rw [if_neg hFirst, if_neg (mt (numRegs_eq_zero_iff hNeeds).mp hSome), listSize_eq hNeeds hSome]

/-- A list that is available is returned, and is in the cache from then on. -/
theorem getlist_available (hSound : gc.Sound) (hNeeds : gc.needs slot < 2 ^ 32)
    (hSome : gc.descrs slot ≠ []) {ptr : Memory} (hAvailable : gc.available heap slot = some ptr) :
    gc.intelGucCaptureGetlist heap slot = (.ok ptr, { gc with
      adsCache := Function.update gc.adsCache slot (some (.list ptr (gc.needs slot))) }) := by
  unfold Capture.intelGucCaptureGetlist
  rw [if_neg fun hNone => hSome (descrs_of_reglists hNone)]
  unfold Capture.available at hAvailable
  cases hCache : gc.adsCache slot with
  | some cached =>
      obtain ⟨-, kept, rfl, -⟩ := hSound slot cached hCache
      rw [hCache] at hAvailable
      cases hAvailable
      rw [← hCache, Function.update_eq_self, hCache]
  | none =>
      rw [hCache] at hAvailable
      obtain ⟨caplist, hHeap, rfl⟩ := Option.map_eq_some_iff.mp hAvailable
      dsimp only
      rw [getlistsize_ok hSound hNeeds hSome, hHeap]

/-- A list that is not available is not returned, and leaves the cache alone. -/
theorem getlist_unavailable (hSound : gc.Sound) (hNeeds : gc.needs slot < 2 ^ 32)
    (hSome : gc.descrs slot ≠ []) (hAvailable : gc.available heap slot = none) :
    ∃ e, gc.intelGucCaptureGetlist heap slot = (.error e, gc) := by
  unfold Capture.intelGucCaptureGetlist
  rw [if_neg fun hNone => hSome (descrs_of_reglists hNone)]
  unfold Capture.available at hAvailable
  cases hCache : gc.adsCache slot with
  | some cached =>
      obtain ⟨-, kept, rfl, -⟩ := hSound slot cached hCache
      rw [hCache] at hAvailable
      cases hAvailable
  | none =>
      rw [hCache] at hAvailable
      dsimp only
      rw [getlistsize_ok hSound hNeeds hSome, Option.map_eq_none_iff.mp hAvailable]
      exact ⟨_, rfl⟩

/-- What is available holds the list. -/
theorem stored_available (hSound : gc.Sound) {ptr : Memory}
    (hAvailable : gc.available heap slot = some ptr) : Stored ptr 0 (gc.listBytes slot) := by
  unfold Capture.available at hAvailable
  cases hCache : gc.adsCache slot with
  | some cached =>
      obtain ⟨-, kept, rfl, hStored⟩ := hSound slot cached hCache
      rw [hCache] at hAvailable
      cases hAvailable
      exact hStored
  | none =>
      rw [hCache] at hAvailable
      obtain ⟨caplist, -, rfl⟩ := Option.map_eq_some_iff.mp hAvailable
      exact stored_fillList gc slot caplist

end Getlist

/-! What the steps for a list come to. -/

section Place

variable {guc : Sizes} {heap : Heap} {s : PrepRun} {slot : Slot} {blob : CaptureBlob} {size : Nat}
  {capture : Capture} {ptr : Memory} {e : Int}

theorem placeList_missing (h : s.capture.intelGucCaptureGetlistsize slot = .error e) :
    placeList guc heap s slot = (s.pointNull slot, false) := by
  unfold placeList
  rw [h]

theorem placeList_estimate (h : s.capture.intelGucCaptureGetlistsize slot = .ok size)
    (hMap : s.adsMap = none) :
    placeList guc heap s slot = ({ s with totalSize := (s.totalSize + size) % 2 ^ 32 }, false) := by
  unfold placeList
  rw [h, hMap]

theorem placeList_unavailable (h : s.capture.intelGucCaptureGetlistsize slot = .ok size)
    (hMap : s.adsMap = some blob) (hCounted : (s.totalSize + size) % 2 ^ 32 ≤ guc.adsCaptureSize)
    (hGetlist : s.capture.intelGucCaptureGetlist heap slot = (.error e, s.capture)) :
    placeList guc heap s slot =
      (({ s with totalSize := (s.totalSize + size) % 2 ^ 32 } : PrepRun).pointNull slot, true) := by
  unfold placeList
  rw [h, hMap]
  dsimp only
  rw [if_neg (Nat.not_lt.mpr hCounted), hGetlist]

theorem placeList_placed (h : s.capture.intelGucCaptureGetlistsize slot = .ok size)
    (hMap : s.adsMap = some blob) (hCounted : (s.totalSize + size) % 2 ^ 32 ≤ guc.adsCaptureSize)
    (hGetlist : s.capture.intelGucCaptureGetlist heap slot = (.ok ptr, capture)) :
    placeList guc heap s slot =
      (({ s with totalSize := (s.totalSize + size) % 2 ^ 32, capture } : PrepRun).place blob slot ptr size,
        false) := by
  unfold placeList
  rw [h, hMap]
  dsimp only
  rw [if_neg (Nat.not_lt.mpr hCounted), hGetlist]

end Place

/-- What a list takes of the total. -/
def room (infoMap : EnabledMasks) (gc : Capture) (slot : Slot) : Nat :=
  if Enabled infoMap slot then gc.needs slot else 0

/-- What all lists take, behind the page of the null header. -/
def captureNeeded (infoMap : EnabledMasks) (gc : Capture) : Nat :=
  pageSize + Serial.total (room infoMap gc) captureSlots

section Needed

variable {infoMap : EnabledMasks} {gc : Capture} {done : List Slot} {slot : Slot}

theorem total_room_of_enabled (hEnabled : Enabled infoMap slot) :
    Serial.total (room infoMap gc) (done ++ [slot]) =
      Serial.total (room infoMap gc) done + gc.needs slot := by
  rw [Serial.total_concat, room, if_pos hEnabled]

theorem total_room_of_disabled (hDisabled : ¬ Enabled infoMap slot) :
    Serial.total (room infoMap gc) (done ++ [slot]) = Serial.total (room infoMap gc) done := by
  rw [Serial.total_concat, room, if_neg hDisabled, Nat.add_zero]

theorem dvd_room (infoMap : EnabledMasks) (gc : Capture) (slot : Slot) :
    pageSize ∣ room infoMap gc slot := by
  unfold room
  split
  · exact dvd_needs gc slot
  · exact Nat.dvd_zero _

theorem dvd_captureNeeded : pageSize ∣ captureNeeded infoMap gc :=
  Nat.dvd_add (Nat.dvd_refl _) (Serial.dvd_total fun slot _ => dvd_room infoMap gc slot)

theorem prefix_le_captureNeeded (hPrefix : done <+: captureSlots) :
    pageSize + Serial.total (room infoMap gc) done ≤ captureNeeded infoMap gc :=
  Nat.add_le_add_left (Serial.total_le_of_prefix hPrefix) _

end Needed

/-- What a pass over a blob starts from: the masks in the blob, the tables with the
cache as it was before, the memory there is for lists that are not in it, the
offset of the null header, and the address of the blob. -/
structure FillPass where
  infoMap : EnabledMasks
  capture : Capture
  heap : Heap
  start : Nat
  ggttOffset : Nat

namespace FillPass

variable (pass : FillPass)

/-- The memory with a list that goes to the blob. -/
def buffer (slot : Slot) : Option Memory :=
  if Enabled pass.infoMap slot ∧ pass.capture.descrs slot ≠ [] then pass.capture.available pass.heap slot
  else none

/-- What a list takes of the blob. -/
def takes (slot : Slot) : Nat := if (pass.buffer slot).isSome then pass.capture.needs slot else 0

/-- Where a list is laid. -/
def place (slot : Slot) : Nat :=
  pass.start + pageSize + Serial.before pass.takes captureSlots slot

/-- The address of the null header. -/
def nullGgtt : Nat := (pass.ggttOffset + pass.start) % 2 ^ 32

/-- The pointer to a list: to its place, or to the null header. -/
def pointer (slot : Slot) : Nat :=
  if (pass.buffer slot).isSome then (pass.ggttOffset + pass.place slot) % 2 ^ 32 else pass.nullGgtt

/-- The cache after some lists. -/
def cacheAfter (done : List Slot) (slot : Slot) : Option AdsCache :=
  match if slot ∈ done then pass.buffer slot else none with
  | some ptr => some (.list ptr (pass.capture.needs slot))
  | none => pass.capture.adsCache slot

end FillPass

/-- The blob after some lists: their pointers and the lists themselves are written,
and everything else is as before. -/
structure Filled (pass : FillPass) (first : CaptureBlob) (done : List Slot) (blob : CaptureBlob) :
    Prop where
  ggttOffset : blob.ggttOffset = pass.ggttOffset
  masks : blob.engineEnabledMasks = first.engineEnabledMasks
  pointers : ∀ slot ∈ done, blob.pointers slot = pass.pointer slot
  others : ∀ slot, slot ∉ done → blob.pointers slot = first.pointers slot
  lists : ∀ slot ∈ done, ∀ ptr, pass.buffer slot = some ptr →
    Matches blob.memory (pass.place slot) ptr (pass.capture.needs slot)
  outside : ∀ at', at' < pass.start + pageSize ∨
      pass.start + pageSize + Serial.total pass.takes done ≤ at' →
    blob.memory at' = first.memory at'

/-- The variables after some lists. -/
structure Filling (pass : FillPass) (first : CaptureBlob) (done : List Slot) (s : PrepRun) : Prop where
  totalSize : s.totalSize = pageSize + Serial.total (room pass.infoMap pass.capture) done
  captureOffset : s.captureOffset = pass.start + pageSize + Serial.total pass.takes done
  nullGgtt : s.nullGgtt = pass.nullGgtt
  capture : s.capture = { pass.capture with adsCache := pass.cacheAfter done }
  blob : ∃ blob, s.adsMap = some blob ∧ Filled pass first done blob

section Fill

variable {pass : FillPass} {first : CaptureBlob} {done : List Slot} {s : PrepRun} {slot : Slot}

theorem takes_of_buffer {ptr : Memory} (h : pass.buffer slot = some ptr) :
    pass.takes slot = pass.capture.needs slot := by
  unfold FillPass.takes
  rw [h]
  rfl

theorem takes_of_none (h : pass.buffer slot = none) : pass.takes slot = 0 := by
  unfold FillPass.takes
  rw [h]
  rfl

theorem takes_le_room (slot : Slot) : pass.takes slot ≤ room pass.infoMap pass.capture slot := by
  unfold FillPass.takes FillPass.buffer room
  by_cases hWanted : Enabled pass.infoMap slot ∧ pass.capture.descrs slot ≠ []
  · rw [if_pos hWanted, if_pos hWanted.1]
    split
    · exact Nat.le_refl _
    · exact Nat.zero_le _
  · rw [if_neg hWanted]
    exact Nat.zero_le _

theorem cacheAfter_of_none (h : pass.buffer slot = none) :
    pass.cacheAfter (done ++ [slot]) = pass.cacheAfter done := by
  funext other
  unfold FillPass.cacheAfter
  by_cases hSame : other = slot
  · rw [hSame, h, ite_self, ite_self]
  · simp only [List.mem_append, List.mem_singleton, hSame, or_false]

theorem cacheAfter_of_buffer {ptr : Memory} (h : pass.buffer slot = some ptr) :
    pass.cacheAfter (done ++ [slot]) = Function.update (pass.cacheAfter done) slot
      (some (.list ptr (pass.capture.needs slot))) := by
  funext other
  unfold FillPass.cacheAfter
  by_cases hSame : other = slot
  · rw [hSame, Function.update_self, if_pos (List.mem_append_right _ List.mem_cons_self), h]
  · rw [Function.update_of_ne hSame]
    simp only [List.mem_append, List.mem_singleton, hSame, or_false]

/-- A table that agrees on some lists, and is written for the next one. -/
theorem update_concat {f g : Slot → Nat} (h : ∀ other ∈ done, f other = g other) {value : Nat}
    (hValue : value = g slot) : ∀ other ∈ done ++ [slot], Function.update f slot value other = g other := by
  intro other hOther
  by_cases hSame : other = slot
  · rw [hSame, hValue]
    exact Function.update_self _ _ _
  · rw [Function.update_of_ne hSame]
    exact h other (Serial.mem_of_mem_concat hOther hSame)

theorem update_beside {f g : Slot → Nat} (h : ∀ other, other ∉ done → f other = g other) (value : Nat) :
    ∀ other, other ∉ done ++ [slot] → Function.update f slot value other = g other := by
  intro other hOther
  have hNe : other ≠ slot := fun hSame => hOther (hSame ▸ List.mem_append_right _ List.mem_cons_self)
  rw [Function.update_of_ne hNe]
  exact h other fun hMem => hOther (List.mem_append_left _ hMem)

theorem total_takes_of_none (hNone : pass.buffer slot = none) :
    Serial.total pass.takes (done ++ [slot]) = Serial.total pass.takes done := by
  rw [Serial.total_concat, takes_of_none hNone, Nat.add_zero]

theorem total_takes_of_buffer {ptr : Memory} (hBuffer : pass.buffer slot = some ptr) :
    Serial.total pass.takes (done ++ [slot]) =
      Serial.total pass.takes done + pass.capture.needs slot := by
  rw [Serial.total_concat, takes_of_buffer hBuffer]

/-- The next list is laid behind those before it. -/
theorem place_of_next (hPrefix : done ++ [slot] <+: captureSlots) :
    pass.place slot = pass.start + pageSize + Serial.total pass.takes done := by
  unfold FillPass.place
  rw [Serial.before_of_next nodup_captureSlots hPrefix]

/-- All of them end in front of it. -/
theorem place_add_needs_le {other : Slot} (hPrefix : done <+: captureSlots) (hMem : other ∈ done)
    {ptr : Memory} (hBuffer : pass.buffer other = some ptr) :
    pass.place other + pass.capture.needs other ≤
      pass.start + pageSize + Serial.total pass.takes done := by
  have hEnds : Serial.before pass.takes captureSlots other + pass.takes other ≤
      Serial.total pass.takes done := Serial.before_add_size_le_of_prefix hPrefix hMem
  rw [takes_of_buffer hBuffer] at hEnds
  unfold FillPass.place
  omega

/-- A list that is not in the blob. -/
theorem Filled.null {blob : CaptureBlob} (filled : Filled pass first done blob)
    (hNone : pass.buffer slot = none) :
    Filled pass first (done ++ [slot])
      { blob with pointers := Function.update blob.pointers slot pass.nullGgtt } := by
  have hPointer : pass.pointer slot = pass.nullGgtt := if_neg (by rw [hNone]; exact Bool.false_ne_true)
  refine ⟨filled.ggttOffset, filled.masks, ?_, ?_, ?_, ?_⟩
  · exact update_concat filled.pointers hPointer.symm
  · exact update_beside filled.others _
  · intro other hOther ptr hPtr
    have hNe : other ≠ slot := by
      rintro rfl
      rw [hNone] at hPtr
      cases hPtr
    exact filled.lists other (Serial.mem_of_mem_concat hOther hNe) ptr hPtr
  · rw [total_takes_of_none hNone]
    exact filled.outside

/-- A list that is laid behind the others. -/
theorem Filled.place {blob : CaptureBlob} (filled : Filled pass first done blob)
    (hPrefix : done ++ [slot] <+: captureSlots) {ptr : Memory} (hBuffer : pass.buffer slot = some ptr) :
    Filled pass first (done ++ [slot])
      { blob with
        pointers := Function.update blob.pointers slot ((pass.ggttOffset + pass.place slot) % 2 ^ 32)
        memory := move blob.memory (pass.place slot) ptr (pass.capture.needs slot) } := by
  have hPlace : pass.place slot = pass.start + pageSize + Serial.total pass.takes done :=
    place_of_next hPrefix
  have hPointer : pass.pointer slot = (pass.ggttOffset + pass.place slot) % 2 ^ 32 :=
    if_pos (Option.isSome_of_eq_some hBuffer)
  refine ⟨filled.ggttOffset, filled.masks, ?_, ?_, ?_, ?_⟩
  · exact update_concat filled.pointers hPointer.symm
  · exact update_beside filled.others _
  · intro other hOther kept hKept
    by_cases hSame : other = slot
    · rw [hSame] at hKept ⊢
      obtain rfl : kept = ptr := Option.some.inj (hKept.symm.trans hBuffer)
      exact matches_move _ _ _ _
    · have hDone := Serial.mem_of_mem_concat hOther hSame
      have hEnds := place_add_needs_le ((List.prefix_append _ _).trans hPrefix) hDone hKept
      rw [← hPlace] at hEnds
      exact (filled.lists other hDone kept hKept).move (.inl hEnds)
  · intro at' hAt
    rw [total_takes_of_buffer hBuffer] at hAt
    have hBeside : at' < pass.place slot ∨ pass.place slot + pass.capture.needs slot ≤ at' := by omega
    exact (move_of_outside hBeside).trans (filled.outside at' (by omega))

/-- The variables behind a list that is not in the blob. -/
theorem Filling.null (filling : Filling pass first done s) (hNone : pass.buffer slot = none)
    {totalSize : Nat}
    (hTotal : totalSize = pageSize + Serial.total (room pass.infoMap pass.capture) (done ++ [slot])) :
    Filling pass first (done ++ [slot]) (({ s with totalSize } : PrepRun).pointNull slot) := by
  obtain ⟨blob, hMap, filled⟩ := filling.blob
  refine ⟨hTotal, ?_, filling.nullGgtt, ?_, ?_⟩
  · rw [total_takes_of_none hNone]
    exact filling.captureOffset
  · rw [cacheAfter_of_none hNone]
    exact filling.capture
  · have hBlob := filled.null hNone
    rw [← filling.nullGgtt] at hBlob
    exact ⟨_, congrArg (Option.map _) hMap, hBlob⟩

/-- The variables behind a list that was laid. -/
theorem Filling.place (filling : Filling pass first done s) (hPrefix : done ++ [slot] <+: captureSlots)
    (hFits : pass.start + captureNeeded pass.infoMap pass.capture < 2 ^ 32) {ptr : Memory}
    (hBuffer : pass.buffer slot = some ptr) {totalSize : Nat}
    (hTotal : totalSize = pageSize + Serial.total (room pass.infoMap pass.capture) (done ++ [slot]))
    {blob : CaptureBlob} (hMap : s.adsMap = some blob) {capture : Capture}
    (hCapture : capture = { s.capture with
      adsCache :=
        Function.update s.capture.adsCache slot (some (.list ptr (pass.capture.needs slot))) }) :
    Filling pass first (done ++ [slot])
      (({ s with totalSize, capture } : PrepRun).place blob slot ptr (pass.capture.needs slot)) := by
  obtain ⟨blob', hMap', filled⟩ := filling.blob
  obtain rfl : blob = blob' := Option.some.inj (hMap.symm.trans hMap')
  have hOffset : s.captureOffset = pass.place slot := by
    rw [filling.captureOffset, place_of_next hPrefix]
  have hEnd : pass.start + pageSize + Serial.total pass.takes (done ++ [slot]) < 2 ^ 32 := by
    have hRoom : Serial.total pass.takes (done ++ [slot]) ≤
        Serial.total (room pass.infoMap pass.capture) (done ++ [slot]) :=
      Serial.total_le_total takes_le_room
    have hNeeded : pageSize + Serial.total (room pass.infoMap pass.capture) (done ++ [slot]) ≤
        captureNeeded pass.infoMap pass.capture := prefix_le_captureNeeded hPrefix
    omega
  refine ⟨hTotal, ?_, filling.nullGgtt, ?_, ?_⟩
  · show (s.captureOffset + pass.capture.needs slot) % 2 ^ 32 = _
    rw [filling.captureOffset, Nat.add_assoc, ← total_takes_of_buffer hBuffer, Nat.mod_eq_of_lt hEnd]
  · rw [cacheAfter_of_buffer hBuffer]
    exact hCapture.trans (by rw [filling.capture])
  · have hBlob := filled.place hPrefix hBuffer
    rw [← filled.ggttOffset, ← hOffset] at hBlob
    exact ⟨_, rfl, hBlob⟩

/-- The cache after some lists is sound too. -/
theorem sound_cacheAfter (hSound : pass.capture.Sound) (done : List Slot) :
    Capture.Sound { pass.capture with adsCache := pass.cacheAfter done } := by
  intro slot cached hCached
  have hCases : pass.cacheAfter done slot = some cached := hCached
  unfold FillPass.cacheAfter at hCases
  split at hCases
  · next ptr hPtr =>
      cases hCases
      split at hPtr
      · unfold FillPass.buffer at hPtr
        split at hPtr
        · next hWanted =>
            exact ⟨hWanted.2, ptr, rfl, stored_available hSound hPtr⟩
        · cases hPtr
      · cases hPtr
  · exact hSound slot cached hCases

/-- A list that is still to come is as available as before. -/
theorem available_cacheAfter (hNew : slot ∉ done) :
    Capture.available { pass.capture with adsCache := pass.cacheAfter done } pass.heap slot =
      pass.capture.available pass.heap slot := by
  have hCache : pass.cacheAfter done slot = pass.capture.adsCache slot := by
    unfold FillPass.cacheAfter
    rw [if_neg hNew]
  show (match pass.cacheAfter done slot with
    | some (.list ptr _) => some ptr
    | _ => (pass.heap.list slot).map (pass.capture.fillList slot)) = _
  rw [hCache]
  rfl

/-- One list of a class with engines, or of no class. -/
theorem Filling.step {guc : Sizes} (filling : Filling pass first done s) (hSound : pass.capture.Sound)
    (hFits : pass.start + captureNeeded pass.infoMap pass.capture < 2 ^ 32)
    (hSize : captureNeeded pass.infoMap pass.capture ≤ guc.adsCaptureSize)
    (hPrefix : done ++ [slot] <+: captureSlots) (hEnabled : Enabled pass.infoMap slot) :
    Filling pass first (done ++ [slot]) (placeList guc pass.heap s slot).1 ∧
      (pass.capture.descrs slot = [] ∨ (pass.capture.available pass.heap slot).isSome →
        (placeList guc pass.heap s slot).2 = false) := by
  have hNew : slot ∉ done := Serial.not_mem_of_next nodup_captureSlots hPrefix
  have hSound' : s.capture.Sound := filling.capture ▸ sound_cacheAfter hSound done
  have hDescrs' : s.capture.descrs slot = pass.capture.descrs slot := by
    rw [filling.capture]
    rfl
  have hNeeds' : s.capture.needs slot = pass.capture.needs slot := by
    rw [filling.capture]
    rfl
  have hAvailable' : s.capture.available pass.heap slot = pass.capture.available pass.heap slot := by
    rw [filling.capture]
    exact available_cacheAfter hNew
  obtain ⟨blob, hMap, -⟩ := filling.blob
  have hRoom : Serial.total (room pass.infoMap pass.capture) (done ++ [slot]) = _ :=
    total_room_of_enabled hEnabled
  have hNeeded : pageSize + Serial.total (room pass.infoMap pass.capture) (done ++ [slot]) ≤
      captureNeeded pass.infoMap pass.capture := prefix_le_captureNeeded hPrefix
  by_cases hDescrs : pass.capture.descrs slot = []
  · obtain ⟨e, hMissing⟩ := getlistsize_missing hSound' (hDescrs'.trans hDescrs)
    have hNone : pass.buffer slot = none := if_neg fun hWanted => hWanted.2 hDescrs
    rw [placeList_missing hMissing]
    refine ⟨filling.null hNone ?_, fun _ => rfl⟩
    rw [hRoom, needs_eq_zero_iff.mpr hDescrs, Nat.add_zero]
    exact filling.totalSize
  · have hDescrs'' : s.capture.descrs slot ≠ [] := hDescrs'.symm ▸ hDescrs
    have hNeeds : s.capture.needs slot < 2 ^ 32 := by omega
    have hOk := getlistsize_ok hSound' hNeeds hDescrs''
    have hTotal : (s.totalSize + s.capture.needs slot) % 2 ^ 32 =
        pageSize + Serial.total (room pass.infoMap pass.capture) (done ++ [slot]) := by
      rw [filling.totalSize, hNeeds', Nat.add_assoc, ← hRoom, Nat.mod_eq_of_lt (by omega)]
    have hCounted : (s.totalSize + s.capture.needs slot) % 2 ^ 32 ≤ guc.adsCaptureSize := by omega
    have hBuffer : pass.buffer slot = pass.capture.available pass.heap slot := if_pos ⟨hEnabled, hDescrs⟩
    cases hAvailable : pass.capture.available pass.heap slot with
    | none =>
        obtain ⟨e, hGetlist⟩ :=
          getlist_unavailable hSound' hNeeds hDescrs'' (hAvailable'.trans hAvailable)
        rw [placeList_unavailable hOk hMap hCounted hGetlist]
        refine ⟨filling.null (hBuffer.trans hAvailable) hTotal, fun hKept => ?_⟩
        exact absurd hKept (by simp [hDescrs])
    | some ptr =>
        have hGetlist := getlist_available hSound' hNeeds hDescrs'' (hAvailable'.trans hAvailable)
        rw [placeList_placed hOk hMap hCounted hGetlist, hNeeds']
        rw [hNeeds'] at hTotal
        exact ⟨filling.place hPrefix hFits (hBuffer.trans hAvailable) hTotal hMap rfl, fun _ => rfl⟩

/-- The lists of the classes are there, so that no round goes on without its second
list. -/
def ClassListsAvailable (pass : FillPass) : Prop :=
  ∀ slot ∈ captureSlots, slot.type = .engineClass → Enabled pass.infoMap slot →
    pass.capture.descrs slot ≠ [] → (pass.capture.available pass.heap slot).isSome

/-- The pass carries what it has laid. -/
theorem carries_filling {guc : Sizes} (hSound : pass.capture.Sound)
    (hFits : pass.start + captureNeeded pass.infoMap pass.capture < 2 ^ 32)
    (hSize : captureNeeded pass.infoMap pass.capture ≤ guc.adsCaptureSize)
    (hClasses : ClassListsAvailable pass) :
    Carries guc pass.heap pass.infoMap (Filling pass first) where
  placed := by
    intro done s slot filling hPrefix hEnabled
    exact (filling.step hSound hFits hSize hPrefix hEnabled).1
  kept := by
    intro done s slot filling hPrefix hEnabled hType
    apply (filling.step hSound hFits hSize hPrefix hEnabled).2
    have hMem : slot ∈ captureSlots :=
      hPrefix.subset (List.mem_append_right _ List.mem_cons_self)
    exact or_iff_not_imp_left.mpr (hClasses slot hMem hType hEnabled)
  skipped := by
    intro done s slot filling _ hDisabled
    have hNone : pass.buffer slot = none := if_neg fun hWanted => hDisabled hWanted.1
    refine filling.null hNone ?_
    rw [total_room_of_disabled hDisabled]
    exact filling.totalSize

end Fill

section Estimate

variable {gt : Device} {guc : Sizes} {heap : Heap} {gc : Capture} {infoMap : EnabledMasks}

/-- The variables of a pass that only adds up. -/
structure Estimated (infoMap : EnabledMasks) (gc : Capture) (done : List Slot) (s : PrepRun) : Prop where
  totalSize : s.totalSize = pageSize + Serial.total (room infoMap gc) done
  capture : s.capture = gc
  adsMap : s.adsMap = none

theorem Estimated.step {done : List Slot} {s : PrepRun} {slot : Slot}
    (estimated : Estimated infoMap gc done s) (hSound : gc.Sound)
    (hFits : captureNeeded infoMap gc < 2 ^ 32) (hPrefix : done ++ [slot] <+: captureSlots)
    (hEnabled : Enabled infoMap slot) :
    Estimated infoMap gc (done ++ [slot]) (placeList guc heap s slot).1 ∧
      (placeList guc heap s slot).2 = false := by
  have hRoom : Serial.total (room infoMap gc) (done ++ [slot]) = _ := total_room_of_enabled hEnabled
  have hNeeded : pageSize + Serial.total (room infoMap gc) (done ++ [slot]) ≤
      captureNeeded infoMap gc := prefix_le_captureNeeded hPrefix
  have hSound' : s.capture.Sound := estimated.capture ▸ hSound
  by_cases hDescrs : gc.descrs slot = []
  · obtain ⟨e, hMissing⟩ := getlistsize_missing hSound' (estimated.capture ▸ hDescrs)
    rw [placeList_missing hMissing]
    refine ⟨⟨?_, estimated.capture, ?_⟩, rfl⟩
    · rw [hRoom, needs_eq_zero_iff.mpr hDescrs]
      exact estimated.totalSize
    · exact congrArg (Option.map _) estimated.adsMap
  · have hNeeds : gc.needs slot < 2 ^ 32 := by omega
    have hOk := getlistsize_ok hSound' (estimated.capture.symm ▸ hNeeds) (estimated.capture.symm ▸ hDescrs)
    rw [placeList_estimate hOk estimated.adsMap]
    refine ⟨⟨?_, estimated.capture, estimated.adsMap⟩, rfl⟩
    show (s.totalSize + s.capture.needs slot) % 2 ^ 32 = _
    rw [estimated.totalSize, estimated.capture, Nat.add_assoc, ← hRoom, Nat.mod_eq_of_lt (by omega)]

theorem carries_estimated (hSound : gc.Sound) (hFits : captureNeeded infoMap gc < 2 ^ 32) :
    Carries guc heap infoMap (Estimated infoMap gc) where
  placed := fun _ _ _ estimated hPrefix hEnabled => (estimated.step hSound hFits hPrefix hEnabled).1
  kept := fun _ _ _ estimated hPrefix hEnabled _ => (estimated.step hSound hFits hPrefix hEnabled).2
  skipped := by
    intro done s slot estimated _ hDisabled
    refine ⟨?_, estimated.capture, congrArg (Option.map _) estimated.adsMap⟩
    rw [total_room_of_disabled hDisabled]
    exact estimated.totalSize

theorem pageAlign_captureNeeded (hFits : captureNeeded infoMap gc < 2 ^ 32) :
    pageAlign 32 (captureNeeded infoMap gc) = captureNeeded infoMap gc := by
  have hPages : pages (captureNeeded infoMap gc) = captureNeeded infoMap gc :=
    pages_of_dvd dvd_captureNeeded
  rw [pageAlign_eq (by decide) (hPages.symm ▸ hFits), hPages]

/-- The first pass returns what the lists need. -/
theorem gucCapturePrepLists_unmapped (hSound : gc.Sound)
    (hFits : captureNeeded (localInfo gt) gc < 2 ^ 32) (guc : Sizes) (heap : Heap) :
    (gucCapturePrepLists gt guc heap gc none).1 = captureNeeded (localInfo gt) gc := by
  have hStart : Estimated (localInfo gt) gc [] (prepStart guc heap gc none) := ⟨rfl, rfl, rfl⟩
  have hCarries : Carries guc heap (localInfo gt) (Estimated (localInfo gt) gc) :=
    carries_estimated hSound hFits
  have estimated := hCarries.run hStart
  exact (congrArg (pageAlign 32) estimated.totalSize).trans (pageAlign_captureNeeded hFits)

end Estimate

end NootedBlue.Ads
