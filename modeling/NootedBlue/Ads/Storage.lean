import NootedBlue.Ads.Regset
import NootedBlue.Semantics.Heap

/-! The memory of the register sets. The storage moves to a larger block when it is full,
and the pointer to the section of the engine that is being worked on moves with it. -/
open Heap

namespace NootedBlue.Ads

/-- A value of type `u32`. -/
def u32 (n : Nat) : Nat := n % 2 ^ 32

/-- `struct temp_regset`, with the entries in memory. -/
structure StoredRegset where
  registers : Option Pointer
  storage : Option Pointer
  storageUsed : Nat
  storageMax : Nat

def StoredRegset.empty : StoredRegset := ⟨none, none, 0, 0⟩

/-- `guc_mmio_reg_cmp`. -/
def gucMmioRegCmp (ra rb : MmioReg) : Int :=
  if ra.offset > rb.offset then 1 else if ra.offset < rb.offset then -1 else 0

/-- `bsearch`, of a number of entries from a pointer on. There is no result when the steps
do not suffice. -/
def bsearch (key : MmioReg) : Nat → Option Pointer → Nat → Run MmioReg (Option Pointer)
  | 0, _, num => if num > 0 then failure else pure none
  | fuel + 1, base, num =>
      if num > 0 then do
        let pivot ← advance mmioRegSize base (num / 2 : Nat)
        let reg ← loadAt mmioRegSize pivot
        let result := gucMmioRegCmp key reg
        if result = 0 then pure pivot
        else if result > 0 then do
          let base ← advance mmioRegSize pivot 1
          bsearch key fuel base ((num - 1) / 2)
        else bsearch key fuel base (num / 2)
      else pure none

namespace StoredRegset

/-- The section of the engine in a storage that moves to another block. -/
def rebase (regset : StoredRegset) (r : Option Pointer) : Run MmioReg (Option Pointer) :=
  if regset.registers.isNone then pure r
  else do
    let before ← distance mmioRegSize regset.registers regset.storage
    advance mmioRegSize r before

/-- The first part of `__mmio_reg_add`: without room, the storage and the pointer into it
are moved to memory of whole pages. -/
def grow (regset : StoredRegset) : Run MmioReg StoredRegset :=
  if regset.storageUsed ≥ regset.storageMax then do
    let newSize := pageAlign 64 (u32 (regset.storageUsed + 1) * mmioRegSize)
    let oldBytes := regset.storageMax * mmioRegSize
    let r ← malloc newSize
    if regset.storage.isSome ∧ regset.storageUsed ≠ 0 then
      copy mmioRegSize r regset.storage regset.storageUsed
    let registers ← regset.rebase r
    if regset.storage.isSome then free regset.storage oldBytes
    pure { regset with registers, storage := r, storageMax := u32 (newSize / mmioRegSize) }
  else pure regset

/-- `__mmio_reg_add`, with the slot of the entry. -/
def mmioRegAdd (regset : StoredRegset) (reg : MmioReg) :
    Run MmioReg (StoredRegset × Option Pointer) := do
  let pos := regset.storageUsed
  let regset ← regset.grow
  let slot ← advance mmioRegSize regset.storage pos
  storeAt mmioRegSize slot reg
  pure ({ regset with storageUsed := u32 (regset.storageUsed + 1) }, slot)

/-- The loop of `guc_mmio_reg_add`: an entry is swapped down from a slot. -/
def swapDown (regset : StoredRegset) : Nat → Option Pointer → Run MmioReg Unit
  | 0, _ => failure
  | fuel + 1, upper => do
      if ← isAfter upper regset.registers then
        let slot ← advance mmioRegSize upper (-1)
        let above ← loadAt mmioRegSize upper
        let below ← loadAt mmioRegSize slot
        if above.offset > below.offset then pure ()
        else do
          storeAt mmioRegSize upper below
          storeAt mmioRegSize slot above
          regset.swapDown fuel slot
      else pure ()

/-- The search of `guc_mmio_reg_add` in the section of the engine. -/
def search (regset : StoredRegset) (entry : MmioReg) : Run MmioReg (Option Pointer) := do
  let before ← distance mmioRegSize regset.registers regset.storage
  let count := ((regset.storageUsed - before) % 2 ^ 32).toNat
  bsearch entry count regset.registers count

/-- `guc_mmio_reg_add`. An entry is swapped down no further than the storage goes. -/
def add (regset : StoredRegset) (request : RegRequest) : Run MmioReg StoredRegset := do
  let entry := request.reg
  if (← regset.search entry).isSome then pure regset
  else do
    let (regset, slot) ← regset.mmioRegAdd entry
    regset.swapDown (regset.storageUsed + 1) slot
    pure regset

/-- `guc_mmio_regset_init`, with the registers that it adds. -/
def init (regset : StoredRegset) (requests : List RegRequest) : Run MmioReg StoredRegset := do
  let registers ← advance mmioRegSize regset.storage regset.storageUsed
  requests.foldlM add { regset with registers }

end StoredRegset

/-- The bytes of the block for some entries. -/
def roomFor (count : Nat) : Nat := pages (count * mmioRegSize)

/-- What memory has of a storage: its entries in a block of whole pages, which is all that
is live, with the section of the engine behind those of earlier ones, or nothing at all. -/
inductive Stores (heap : State MmioReg) (regset : StoredRegset) (earlier registers : List MmioReg) :
    Prop
  | none : regset.storage = none → regset.registers = none → earlier ++ registers = [] →
      heap.live = ∅ → Stores heap regset earlier registers
  | some {a : Nat} : regset.storage = element mmioRegSize a 0 →
      regset.registers = element mmioRegSize a earlier.length → earlier ++ registers ≠ [] →
      Holds heap mmioRegSize a (roomFor (earlier ++ registers).length) (earlier ++ registers) →
      heap.live = {a} → Stores heap regset earlier registers

/-- A storage in memory has some entries of earlier engines and some of this one. -/
structure StoredRegset.Refines (regset : StoredRegset) (heap : State MmioReg)
    (earlier registers : List MmioReg) : Prop where
  stores : Stores heap regset earlier registers
  used : regset.storageUsed = (earlier ++ registers).length
  max : regset.storageMax = u32 (roomFor (earlier ++ registers).length / mmioRegSize)
  short : (earlier ++ registers).length < 2 ^ 32
  ordered : heap.Ordered

/-- The release of a storage that is full. -/
def StoredRegset.growReleases (regset : StoredRegset) : List Release :=
  if regset.storageUsed ≥ regset.storageMax ∧ regset.storage.isSome then
    [⟨regset.storage, regset.storageMax * mmioRegSize, some (roomFor regset.storageUsed)⟩]
  else []

section Steps

variable {regset : StoredRegset} {heap : State MmioReg} {earlier registers : List MmioReg}
  {a bytes : Nat}

theorem mmioRegSize_pos : 0 < mmioRegSize := Nat.zero_lt_succ 15

/-- An entry of the section, through a pointer to it. -/
theorem loadAt_section (holds : Holds heap mmioRegSize a bytes (earlier ++ registers)) {i : Nat}
    {reg : MmioReg} (hEntry : registers[i]? = some reg) :
    loadAt mmioRegSize (element mmioRegSize a (earlier.length + i)) heap = some (reg, heap) := by
  rw [loadAt_element mmioRegSize_pos]
  apply holds.load
  rw [List.getElem?_append_right (Nat.le_add_right _ _), Nat.add_sub_cancel_left, hEntry]

/-- A search in memory is the search of the section. -/
theorem bsearch_spec (holds : Holds heap mmioRegSize a bytes (earlier ++ registers))
    (entry : MmioReg) {fuel base num : Nat} (hStop : base + num ≤ registers.length)
    (hFuel : num ≤ fuel) :
    bsearch entry fuel (element mmioRegSize a (earlier.length + base)) num heap =
      some ((Keyed.bsearchFrom MmioReg.offset registers entry.offset fuel base num).bind
        fun i => element mmioRegSize a (earlier.length + i), heap) := by
  induction fuel generalizing base num with
  | zero =>
      rw [bsearch, if_neg (by omega)]
      rfl
  | succ fuel ih =>
      rw [bsearch, Keyed.bsearchFrom]
      by_cases hNum : num = 0
      · rw [if_neg (by omega), if_pos hNum]
        rfl
      · have hMid : base + num / 2 < registers.length := by omega
        have hEntry := List.getElem?_eq_getElem hMid
        have hPivot : advance mmioRegSize (element mmioRegSize a (earlier.length + base))
            (num / 2 : Nat) heap =
              some (element mmioRegSize a (earlier.length + (base + num / 2)), heap) :=
          advance_element (by omega)
        rw [if_pos (Nat.pos_of_ne_zero hNum), if_neg hNum, hEntry, run_bind hPivot,
          run_bind (loadAt_section holds hEntry)]
        rcases Nat.lt_trichotomy registers[base + num / 2].offset entry.offset with
          hLess | hSame | hMore
        · have hResult : gucMmioRegCmp entry registers[base + num / 2] = 1 := if_pos hLess
          have hNext : advance mmioRegSize
              (element mmioRegSize a (earlier.length + (base + num / 2))) 1 heap =
                some (element mmioRegSize a (earlier.length + (base + num / 2 + 1)), heap) :=
            advance_element (by omega)
          dsimp only
          rw [hResult, if_neg (by decide), if_pos (by decide), if_neg (Nat.ne_of_lt hLess),
            if_pos hLess, run_bind hNext]
          exact ih (by omega) (by omega)
        · have hResult : gucMmioRegCmp entry registers[base + num / 2] = 0 := by
            rw [gucMmioRegCmp, hSame, if_neg (Nat.lt_irrefl _), if_neg (Nat.lt_irrefl _)]
          dsimp only
          rw [hResult, if_pos rfl, if_pos hSame]
          rfl
        · have hResult : gucMmioRegCmp entry registers[base + num / 2] = -1 := by
            rw [gucMmioRegCmp, if_neg (Nat.lt_asymm hMore), if_pos hMore]
          dsimp only
          rw [hResult, if_neg (by decide), if_neg (by decide), if_neg (Nat.ne_of_gt hMore),
            if_neg (Nat.lt_asymm hMore)]
          exact ih (by omega) (by omega)

/-- The search of an addition finds an entry when the section has one of the offset. -/
theorem search_spec (refines : regset.Refines heap earlier registers) (entry : MmioReg) :
    ∃ found, regset.search entry heap = some (found, heap) ∧
      found.isSome = (Keyed.bsearch MmioReg.offset registers entry.offset).isSome ∧
      (found.isSome → ∃ reg ∈ registers, reg.offset = entry.offset ∧
        loadAt mmioRegSize found heap = some (reg, heap)) := by
  cases refines.stores with
  | none hStorage hRegisters hEmpty hLive =>
      obtain ⟨rfl, rfl⟩ := List.append_eq_nil_iff.mp hEmpty
      refine ⟨none, ?_, rfl, fun h => nomatch h⟩
      rw [StoredRegset.search, hStorage, hRegisters, refines.used]
      rfl
  | @some a hStorage hRegisters hNonempty holds hLive =>
      have short := refines.short
      have hBefore : distance mmioRegSize (element mmioRegSize a earlier.length)
          (element mmioRegSize a 0) heap = some ((earlier.length : Int) - (0 : Nat), heap) :=
        distance_element mmioRegSize_pos
      have hCount : ((((earlier ++ registers).length : Int) - ((earlier.length : Int) - (0 : Nat))) %
          2 ^ 32).toNat = registers.length := by
        rw [List.length_append] at short ⊢
        omega
      have hRun : regset.search entry heap =
          bsearch entry registers.length (element mmioRegSize a (earlier.length + 0))
            registers.length heap := by
        rw [StoredRegset.search, hStorage, hRegisters, refines.used, run_bind hBefore, hCount]
        rfl
      rw [hRun, bsearch_spec holds entry (Nat.le_of_eq (Nat.zero_add _)) (Nat.le_refl _), Keyed.bsearch]
      cases hFound : Keyed.bsearchFrom MmioReg.offset registers entry.offset registers.length 0
          registers.length with
      | none => exact ⟨none, rfl, rfl, fun h => nomatch h⟩
      | some i =>
          obtain ⟨reg, hEntry, hOffset⟩ := Keyed.bsearchFrom_found hFound
          exact ⟨element mmioRegSize a (earlier.length + i), rfl, rfl,
            fun _ => ⟨reg, List.mem_of_getElem? hEntry, hOffset, loadAt_section holds hEntry⟩⟩

/-- An entry that is swapped down comes to its place in the section. -/
theorem swapDown_spec (hRegisters : regset.registers = element mmioRegSize a earlier.length)
    (front back : List MmioReg) (reg : MmioReg)
    (holds : Holds heap mmioRegSize a bytes (earlier ++ (front ++ reg :: back))) {fuel : Nat}
    (hFuel : front.length < fuel) :
    ∃ heap', regset.swapDown fuel (element mmioRegSize a (earlier.length + front.length)) heap =
        some ((), heap') ∧
      Holds heap' mmioRegSize a bytes
        (earlier ++ (Keyed.insertLast MmioReg.offset front reg ++ back)) ∧
      Frame a heap heap' := by
  induction front using List.reverseRecOn generalizing heap back fuel with
  | nil =>
      obtain ⟨fuel, rfl⟩ := Nat.exists_eq_add_one_of_ne_zero (Nat.ne_of_gt hFuel)
      refine ⟨heap, ?_, holds, Frame.refl a heap⟩
      rw [StoredRegset.swapDown, hRegisters, run_bind (isAfter_element mmioRegSize_pos)]
      simp
      rfl
  | append_singleton front below ih =>
      obtain ⟨fuel, rfl⟩ :=
        Nat.exists_eq_add_one_of_ne_zero (Nat.ne_of_gt (Nat.zero_lt_of_lt hFuel))
      rw [List.append_assoc, List.singleton_append] at holds
      have hLength : (front ++ [below]).length = front.length + 1 := List.length_append
      have hUpper :
          earlier.length + (front ++ [below]).length = earlier.length + front.length + 1 := by
        rw [hLength, Nat.add_assoc]
      have hAfter : isAfter (element mmioRegSize a (earlier.length + (front ++ [below]).length))
          regset.registers heap = some (true, heap) := by
        rw [hRegisters, isAfter_element mmioRegSize_pos, decide_eq_true (by omega)]
      have hSlot : advance mmioRegSize
          (element mmioRegSize a (earlier.length + (front ++ [below]).length)) (-1) heap =
            some (element mmioRegSize a (earlier.length + front.length), heap) :=
        advance_element (by omega)
      have hAbove : loadAt mmioRegSize
          (element mmioRegSize a (earlier.length + (front ++ [below]).length)) heap =
            some (reg, heap) := loadAt_section holds (by simp)
      have hBelow : loadAt mmioRegSize (element mmioRegSize a (earlier.length + front.length)) heap =
          some (below, heap) := loadAt_section holds (by simp)
      rw [StoredRegset.swapDown, run_bind hAfter, if_pos rfl, run_bind hSlot, run_bind hAbove,
        run_bind hBelow, Keyed.insertLast_concat]
      by_cases hPlace : below.offset < reg.offset
      · rw [if_pos hPlace, if_pos hPlace]
        refine ⟨heap, rfl, ?_, Frame.refl a heap⟩
        simpa using holds
      · rw [← List.append_assoc] at holds
        obtain ⟨raised, lowered, hRaise, hLower, holdsLowered, frame⟩ := holds.swap
        rw [List.append_assoc] at holdsLowered
        rw [List.length_append] at hRaise hLower
        rw [← storeAt_element mmioRegSize_pos, ← hUpper] at hRaise
        rw [← storeAt_element mmioRegSize_pos] at hLower
        rw [if_neg hPlace, if_neg hPlace, run_bind hRaise, run_bind hLower]
        obtain ⟨final, hFinal, holdsFinal, frameFinal⟩ :=
          ih (below :: back) holdsLowered (Nat.lt_of_succ_lt_succ (hLength ▸ hFuel))
        refine ⟨final, hFinal, ?_, frame.trans frameFinal⟩
        simpa using holdsFinal

theorem pageAlign_room {count : Nat} (hShort : count + 1 < 2 ^ 32) :
    pageAlign 64 (u32 (count + 1) * mmioRegSize) = roomFor (count + 1) := by
  rw [u32, Nat.mod_eq_of_lt hShort]
  refine pageAlign_eq (by decide) ?_
  simp only [pages, pageSize, mmioRegSize]
  omega

/-- A block that is not full has room for one more entry. -/
theorem roomFor_succ {count : Nat} (hRoom : count < u32 (roomFor count / mmioRegSize)) :
    roomFor (count + 1) = roomFor count := by
  simp only [roomFor, pages, pageSize, mmioRegSize, u32] at *
  omega

theorem roomFor_mono (count : Nat) : count * mmioRegSize ≤ roomFor (count + 1) :=
  Nat.le_trans (Nat.mul_le_mul_right _ (Nat.le_succ _)) (le_pages _)

/-- What the first part of `__mmio_reg_add` leaves: a block with room for one more entry. -/
structure Grown (regset after : StoredRegset) (heap heap' : State MmioReg)
    (earlier registers : List MmioReg) (a : Nat) : Prop where
  storage : after.storage = element mmioRegSize a 0
  pointer : after.registers = element mmioRegSize a earlier.length
  used : after.storageUsed = (earlier ++ registers).length
  max : after.storageMax = u32 (roomFor ((earlier ++ registers).length + 1) / mmioRegSize)
  holds : Holds heap' mmioRegSize a (roomFor ((earlier ++ registers).length + 1)) (earlier ++ registers)
  live : heap'.live = {a}
  ordered : heap'.Ordered
  releases : heap'.releases = heap.releases ++ regset.growReleases

/-- The first block. -/
theorem grow_first (refines : regset.Refines heap [] []) (hStorage : regset.storage = none)
    (hRegisters : regset.registers = none) (hLive : heap.live = ∅) :
    ∃ a after heap', regset.grow heap = some (after, heap') ∧
      Grown regset after heap heap' [] [] a := by
  have hFull : regset.storageUsed ≥ regset.storageMax := by
    rw [refines.max]
    exact Nat.zero_le _
  have hNull : ¬(none : Option Pointer).isSome := Bool.false_ne_true
  obtain ⟨fresh, hMalloc, allocated⟩ := malloc_spec refines.ordered mmioRegSize (roomFor 1)
  have hRebase : regset.rebase (some ⟨heap.next, 0⟩) fresh =
      some (some ⟨heap.next, 0⟩, fresh) := by
    rw [StoredRegset.rebase, hRegisters]
    rfl
  refine ⟨heap.next, ⟨some ⟨heap.next, 0⟩, some ⟨heap.next, 0⟩, 0,
    u32 (roomFor 1 / mmioRegSize)⟩, fresh, ?_, ?_⟩
  · rw [StoredRegset.grow, if_pos hFull, refines.used, hStorage, pageAlign_room (by decide)]
    refine (run_bind hMalloc).trans ?_
    dsimp only
    rw [if_neg fun h => hNull h.1, run_bind hRebase, if_neg hNull]
    rfl
  · exact {
      storage := (element_zero ..).symm
      pointer := (element_zero ..).symm
      used := rfl
      max := rfl
      holds := allocated.holds
      live := by rw [allocated.live, hLive, insert_empty_eq]
      ordered := allocated.ordered refines.ordered
      releases := by simp [allocated.releases, StoredRegset.growReleases, hStorage] }

/-- The section of the engine is as far behind the start of the new block as it was behind
that of the old one. -/
theorem rebase_spec (hStorage : regset.storage = element mmioRegSize a 0)
    (hRegisters : regset.registers = element mmioRegSize a earlier.length) (new : Nat) :
    regset.rebase (some ⟨new, 0⟩) heap = some (element mmioRegSize new earlier.length, heap) := by
  have hBefore : distance mmioRegSize (element mmioRegSize a earlier.length)
      (element mmioRegSize a 0) heap = some ((earlier.length : Int) - (0 : Nat), heap) :=
    distance_element mmioRegSize_pos
  have hPointer : ¬(element mmioRegSize a earlier.length).isNone := Bool.false_ne_true
  rw [StoredRegset.rebase, hStorage, hRegisters, if_neg hPointer, run_bind hBefore,
    ← element_zero mmioRegSize]
  exact advance_element (by omega)

/-- A storage that is full moves to a larger block. -/
theorem grow_full (refines : regset.Refines heap earlier registers)
    (hShort : (earlier ++ registers).length + 1 < 2 ^ 32)
    (hFull : regset.storageUsed ≥ regset.storageMax)
    (hStorage : regset.storage = element mmioRegSize a 0)
    (hRegisters : regset.registers = element mmioRegSize a earlier.length)
    (hNonempty : earlier ++ registers ≠ [])
    (holds : Holds heap mmioRegSize a (roomFor (earlier ++ registers).length) (earlier ++ registers))
    (hLive : heap.live = {a}) :
    ∃ a after heap', regset.grow heap = some (after, heap') ∧
      Grown regset after heap heap' earlier registers a := by
  obtain ⟨fresh, copied, freed, hMalloc, hCopy, hFree, moved⟩ :=
    holds.move refines.ordered (roomFor_mono _) (regset.storageMax * mmioRegSize)
  have hRebase := @rebase_spec regset copied earlier a hStorage hRegisters heap.next
  have hSome : (element mmioRegSize a 0).isSome := rfl
  have hCount : (earlier ++ registers).length ≠ 0 := by
    rwa [ne_eq, List.length_eq_zero_iff]
  rw [← element_zero mmioRegSize a] at hCopy hFree
  refine ⟨heap.next, ⟨element mmioRegSize heap.next earlier.length, some ⟨heap.next, 0⟩,
    (earlier ++ registers).length,
    u32 (roomFor ((earlier ++ registers).length + 1) / mmioRegSize)⟩, freed, ?_, ?_⟩
  · rw [StoredRegset.grow, if_pos hFull, refines.used, pageAlign_room hShort, hStorage,
      run_bind hMalloc, if_pos ⟨hSome, hCount⟩, run_bind hCopy]
    dsimp only
    rw [run_bind hRebase, if_pos hSome, run_bind hFree]
    rfl
  · exact {
      storage := (element_zero ..).symm
      pointer := rfl
      used := rfl
      max := rfl
      holds := moved.holds
      live := moved.only refines.ordered hLive
      ordered := moved.ordered
      releases := by
        rw [moved.releases, StoredRegset.growReleases, hStorage, if_pos ⟨hFull, hSome⟩, refines.used]
        rfl }

theorem grow_spec (refines : regset.Refines heap earlier registers)
    (hShort : (earlier ++ registers).length + 1 < 2 ^ 32) :
    ∃ a after heap', regset.grow heap = some (after, heap') ∧
      Grown regset after heap heap' earlier registers a := by
  cases refines.stores with
  | none hStorage hRegisters hEmpty hLive =>
      obtain ⟨rfl, rfl⟩ := List.append_eq_nil_iff.mp hEmpty
      exact grow_first refines hStorage hRegisters hLive
  | @some a hStorage hRegisters hNonempty holds hLive =>
      rcases Nat.lt_or_ge regset.storageUsed regset.storageMax with hRoom | hFull
      · have hSame : roomFor ((earlier ++ registers).length + 1) =
            roomFor (earlier ++ registers).length := by
          rw [refines.used, refines.max] at hRoom
          exact roomFor_succ hRoom
        refine ⟨a, regset, heap, ?_, ?_⟩
        · rw [StoredRegset.grow, if_neg (Nat.not_le_of_lt hRoom)]
          rfl
        · exact {
            storage := hStorage
            pointer := hRegisters
            used := refines.used
            max := by rw [hSame, refines.max]
            holds := by
              rw [hSame]
              exact holds
            live := hLive
            ordered := refines.ordered
            releases := by
              rw [StoredRegset.growReleases, if_neg fun h => Nat.not_le_of_lt hRoom h.1,
                List.append_nil] }
      · exact grow_full refines hShort hFull hStorage hRegisters hNonempty holds hLive

theorem add_found {request : RegRequest} (refines : regset.Refines heap earlier registers)
    (hFound : (Keyed.bsearch MmioReg.offset registers request.offset).isSome) :
    regset.add request heap = some (regset, heap) := by
  obtain ⟨found, hSearch, hSome, -⟩ := search_spec refines request.reg
  rw [StoredRegset.add, run_bind hSearch, if_pos (hSome.trans hFound)]
  rfl

/-- An entry that is missing is put at the end of the storage and swapped down in the
section of its engine. -/
theorem add_missing {request : RegRequest} (refines : regset.Refines heap earlier registers)
    (hShort : (earlier ++ registers).length + 1 < 2 ^ 32)
    (hMissing : ¬(Keyed.bsearch MmioReg.offset registers request.offset).isSome) :
    ∃ after heap', regset.add request heap = some (after, heap') ∧
      after.Refines heap' earlier (Keyed.insertLast MmioReg.offset registers request.reg) ∧
      heap'.releases = heap.releases ++ regset.growReleases := by
  obtain ⟨found, hSearch, hSome, -⟩ := search_spec refines request.reg
  obtain ⟨a, after, grown, hGrow, hGrown⟩ := grow_spec refines hShort
  obtain ⟨pushed, hPush, holdsPushed, framePushed⟩ :=
    hGrown.holds.push (le_pages _) request.reg
  have hSlot : advance mmioRegSize after.storage regset.storageUsed grown =
      some (element mmioRegSize a (earlier ++ registers).length, grown) := by
    rw [hGrown.storage, refines.used]
    exact advance_element (Int.zero_add _)
  have hUsed : u32 (after.storageUsed + 1) = (earlier ++ registers).length + 1 := by
    rw [hGrown.used, u32, Nat.mod_eq_of_lt hShort]
  have hAdd : regset.mmioRegAdd request.reg heap =
      some (({ after with storageUsed := (earlier ++ registers).length + 1 },
        element mmioRegSize a (earlier ++ registers).length), pushed) := by
    rw [← storeAt_element mmioRegSize_pos] at hPush
    rw [StoredRegset.mmioRegAdd, run_bind hGrow, run_bind hSlot, run_bind hPush, hUsed]
    rfl
  rw [List.append_assoc] at holdsPushed
  obtain ⟨final, hSwap, holdsFinal, frame⟩ :=
    @swapDown_spec { after with storageUsed := (earlier ++ registers).length + 1 } pushed earlier a _
      hGrown.pointer registers [] request.reg holdsPushed ((earlier ++ registers).length + 1 + 1)
      (by rw [List.length_append]; omega)
  have hLength : (earlier ++ Keyed.insertLast MmioReg.offset registers request.reg).length =
      (earlier ++ registers).length + 1 := by
    rw [List.length_append, Keyed.length_insertLast, List.length_append, Nat.add_assoc]
  rw [← List.length_append] at hSwap
  rw [List.append_nil] at holdsFinal
  refine ⟨{ after with storageUsed := (earlier ++ registers).length + 1 }, final, ?_, ?_, ?_⟩
  · have hNone : ¬found.isSome := fun h => hMissing (hSome.symm.trans h)
    rw [StoredRegset.add, run_bind hSearch, if_neg hNone, run_bind hAdd]
    dsimp only
    rw [run_bind hSwap]
    rfl
  · exact {
      stores := by
        refine .some hGrown.storage hGrown.pointer ?_ ?_ ?_
        · apply List.ne_nil_of_length_pos
          rw [hLength]
          exact Nat.succ_pos _
        · rw [hLength]
          exact holdsFinal
        · rw [frame.live, framePushed.live, hGrown.live]
      used := hLength.symm
      max := by
        rw [hLength]
        exact hGrown.max
      short := by
        rw [hLength]
        exact hShort
      ordered := frame.ordered (framePushed.ordered hGrown.ordered) }
  · rw [frame.releases, framePushed.releases, hGrown.releases]

/-- The section of the next engine starts behind all entries. -/
theorem start_spec (refines : regset.Refines heap earlier registers) :
    ∃ pointer, advance mmioRegSize regset.storage regset.storageUsed heap = some (pointer, heap) ∧
      StoredRegset.Refines { regset with registers := pointer } heap (earlier ++ registers) [] := by
  have hAll : (earlier ++ registers) ++ [] = earlier ++ registers := List.append_nil _
  have hStores (pointer : Option Pointer)
      (stores : Stores heap { regset with registers := pointer } (earlier ++ registers) []) :
      StoredRegset.Refines { regset with registers := pointer } heap (earlier ++ registers) [] := by
    exact {
      stores
      used := by rw [hAll]; exact refines.used
      max := by rw [hAll]; exact refines.max
      short := by rw [hAll]; exact refines.short
      ordered := refines.ordered }
  cases refines.stores with
  | none hStorage hRegisters hEmpty hLive =>
      refine ⟨none, ?_, hStores none (.none hStorage rfl (hAll.trans hEmpty) hLive)⟩
      rw [hStorage, refines.used, hEmpty]
      rfl
  | @some a hStorage hRegisters hNonempty holds hLive =>
      refine ⟨element mmioRegSize a (earlier ++ registers).length, ?_, hStores _ ?_⟩
      · rw [hStorage, refines.used]
        exact advance_element (Int.zero_add _)
      · refine .some hStorage rfl ?_ ?_ hLive
        · rw [hAll]
          exact hNonempty
        · rw [hAll]
          exact holds

/-- A storage that moves is given back with its size, as long as the size fits. -/
theorem growReleases_right_iff (refines : regset.Refines heap earlier registers) :
    (∀ release ∈ regset.growReleases, release.Right) ↔
      (earlier ++ registers).length ≤ 2 ^ 32 - 256 := by
  cases refines.stores with
  | none hStorage hRegisters hEmpty hLive =>
      rw [StoredRegset.growReleases, hStorage, hEmpty]
      simp
  | @some a hStorage hRegisters hNonempty holds hLive =>
      have short := refines.short
      have hSome : regset.storage.isSome := by
        rw [hStorage]
        rfl
      rw [StoredRegset.growReleases, refines.used, refines.max]
      generalize (earlier ++ registers).length = count at short ⊢
      split
      next hFull =>
        rw [List.forall_mem_singleton, Release.Right, Option.some_inj]
        simp only [roomFor, pages, pageSize, mmioRegSize, u32] at *
        omega
      next hRoom =>
        refine iff_of_true (List.forall_mem_nil _) ?_
        have hRoom : ¬count ≥ u32 (roomFor count / mmioRegSize) := fun h => hRoom ⟨h, hSome⟩
        simp only [roomFor, pages, pageSize, mmioRegSize, u32] at hRoom
        omega

/-- There is no addition to a storage of as many entries as a `u32` can count. -/
theorem add_none {request : RegRequest} (refines : regset.Refines heap earlier registers)
    (hFull : (earlier ++ registers).length = 2 ^ 32 - 1)
    (hMissing : ¬(Keyed.bsearch MmioReg.offset registers request.offset).isSome) :
    regset.add request heap = none := by
  obtain ⟨found, hSearch, hSome, -⟩ := search_spec refines request.reg
  obtain ⟨fresh, hMalloc, allocated⟩ := malloc_spec refines.ordered mmioRegSize 0
  have hNone : ¬found.isSome := fun h => hMissing (hSome.symm.trans h)
  have hSome : regset.storage.isSome := by
    cases refines.stores with
    | none hStorage hRegisters hEmpty hLive =>
        rw [hEmpty] at hFull
        cases hFull
    | some hStorage hRegisters hNonempty holds hLive =>
        rw [hStorage]
        rfl
  have hGrow : regset.grow heap = none := by
    have hSize : pageAlign 64 (u32 (2 ^ 32 - 1 + 1) * mmioRegSize) = 0 := rfl
    have hMax : regset.storageMax = 0 := by
      rw [refines.max, hFull]
      rfl
    have hCopy := allocated.holds.copy_none
      (show 0 < (2 ^ 32 - 1) * mmioRegSize by decide) regset.storage
    rw [StoredRegset.grow, refines.used, hFull, hMax, if_pos (Nat.zero_le _), hSize,
      run_bind hMalloc, if_pos ⟨hSome, by decide⟩, run_bind_none hCopy]
  rw [StoredRegset.add, run_bind hSearch, if_neg hNone]
  exact run_bind_none (run_bind_none hGrow)

end Steps

end NootedBlue.Ads
