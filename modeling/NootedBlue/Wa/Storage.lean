import NootedBlue.Semantics.Heap
import NootedBlue.Wa.List

/-! The memory of the list of workarounds. There is no capacity in the list: it
moves to a larger block whenever the number of its entries is a multiple of the
chunk, and the size of the block that it gives back is computed from that
number. -/
namespace NootedBlue.Wa

open Heap

/-- A value of type `unsigned int`. -/
def unsigned (n : Nat) : Nat := n % 2 ^ 32

/-- `sizeof(struct i915_wa)`. -/
def sizeofI915Wa : Nat := 20

/-- `ALIGN2` to the chunk, of an `unsigned int`. -/
def align2 (n : Nat) : Nat := unsigned (n + (waListChunk - 1)) / waListChunk * waListChunk

/-- `struct i915_wa_list`, with its entries in memory. -/
structure StoredList where
  list : Option Pointer
  count : Nat
  waCount : Nat

def StoredList.empty : StoredList := ⟨none, 0, 0⟩

/-- The first part of `_wa_add`. -/
def StoredList.grow (wal : StoredList) : Run I915Wa StoredList :=
  if wal.count % waListChunk = 0 then do
    let list ← malloc (align2 (unsigned (wal.count + 1)) * sizeofI915Wa)
    if wal.list.isSome then do
      copy sizeofI915Wa list wal.list wal.count
      free wal.list (wal.count * sizeofI915Wa)
    pure { wal with list }
  else pure wal

/-- The search in `_wa_add`: the position of a register between two positions.
There is no result when the steps do not suffice. -/
def StoredList.search (wal : StoredList) (addr : Nat) : Nat → Nat → Nat → Run I915Wa (Option Nat)
  | 0, start, stop => if start < stop then failure else pure none
  | fuel + 1, start, stop =>
      if start < stop then do
        let mid := start + (stop - start) / 2
        let wa ← load sizeofI915Wa wal.list mid
        if wa.reg < addr then wal.search addr fuel (mid + 1) stop
        else if wa.reg > addr then wal.search addr fuel start mid
        else pure (some mid)
      else pure none

/-- The last loop of `_wa_add`: an entry is swapped down from a position. -/
def StoredList.sink (wal : StoredList) : Nat → Run I915Wa Unit
  | 0 => pure ()
  | i + 1 => do
      let above ← load sizeofI915Wa wal.list (i + 1)
      let below ← load sizeofI915Wa wal.list i
      if above.reg > below.reg then pure ()
      else do
        store sizeofI915Wa wal.list (i + 1) below
        store sizeofI915Wa wal.list i above
        wal.sink i

/-- `_wa_add`. A search halves its part of the list, so it ends within as many
steps as there are entries. -/
def StoredList.add (wal : StoredList) (wa : I915Wa) : Run I915Wa StoredList := do
  let wal ← wal.grow
  match ← wal.search wa.reg wal.count 0 wal.count with
  | some mid => do
      let old ← load sizeofI915Wa wal.list mid
      store sizeofI915Wa wal.list mid (old.merge wa)
      pure { wal with waCount := unsigned (wal.waCount + 1) }
  | none => do
      store sizeofI915Wa wal.list wal.count wa
      wal.sink wal.count
      pure { wal with count := unsigned (wal.count + 1), waCount := unsigned (wal.waCount + 1) }

/-- `wa_init_finish`: the list moves to a block of its own size. -/
def StoredList.finish (wal : StoredList) : Run I915Wa StoredList :=
  if wal.count % waListChunk ≠ 0 then do
    let list ← malloc (wal.count * sizeofI915Wa)
    copy sizeofI915Wa list wal.list wal.count
    free wal.list (align2 wal.count * sizeofI915Wa)
    pure { wal with list }
  else pure wal

/-- What memory has of a list: its entries in a block with room for a capacity,
which is all that is live, or nothing at all. -/
inductive Stores (heap : State I915Wa) (capacity : Nat) : Option Pointer → List I915Wa → Prop
  | none : heap.live = ∅ → Stores heap capacity none []
  | some {a : Nat} {list : List I915Wa} : list ≠ [] →
      Holds heap sizeofI915Wa a (capacity * sizeofI915Wa) list → heap.live = {a} →
      Stores heap capacity (some ⟨a, 0⟩) list

/-- A list in memory is the list of the model. -/
structure StoredList.Refines (wal : StoredList) (heap : State I915Wa) (model : I915WaList) :
    Prop where
  stores : Stores heap model.capacity wal.list model.list
  count : wal.count = model.list.length
  waCount : wal.waCount = unsigned model.waCount
  ordered : heap.Ordered

/-- The capacity that a list has when it is not full. -/
def I915WaList.Room (wal : I915WaList) : Prop :=
  wal.list.length % waListChunk ≠ 0 →
    wal.capacity = (wal.list.length / waListChunk + 1) * waListChunk

/-- The releases of an addition, of the block of the list. -/
def I915WaList.addReleases (wal : I915WaList) (pointer : Option Pointer) : List Release :=
  if wal.list.length % waListChunk = 0 ∧ wal.list ≠ [] then
    [⟨pointer, wal.list.length * sizeofI915Wa, some (wal.capacity * sizeofI915Wa)⟩]
  else []

/-- The releases of `wa_init_finish`. -/
def I915WaList.finishReleases (wal : I915WaList) (pointer : Option Pointer) : List Release :=
  if wal.list.length % waListChunk ≠ 0 then
    [⟨pointer, align2 wal.list.length * sizeofI915Wa, some (wal.capacity * sizeofI915Wa)⟩]
  else []

section Steps

variable {wal : StoredList} {heap : State I915Wa} {a bytes : Nat} {list : List I915Wa}

theorem align2_succ {n : Nat} (hSmall : n < 2 ^ 32 - 16) (hFull : n % waListChunk = 0) :
    align2 (unsigned (n + 1)) = n + waListChunk := by
  simp only [align2, unsigned, waListChunk] at *
  omega

/-- A search in memory is the search of the list. -/
theorem search_spec (hList : wal.list = some ⟨a, 0⟩)
    (holds : Holds heap sizeofI915Wa a bytes list) (addr : Nat) {fuel start stop : Nat}
    (hStop : stop ≤ list.length) (hFuel : stop ≤ start + fuel) :
    wal.search addr fuel start stop heap =
      some (Keyed.searchFrom I915Wa.reg list addr fuel start stop, heap) := by
  induction fuel generalizing start stop with
  | zero =>
      rw [StoredList.search, if_neg (by omega)]
      rfl
  | succ fuel ih =>
      rw [StoredList.search, Keyed.searchFrom]
      by_cases hMore : start < stop
      · have hMid : start + (stop - start) / 2 < list.length := by omega
        have hEntry := List.getElem?_eq_getElem hMid
        have hLoad := holds.load hEntry
        rw [← hList] at hLoad
        rw [if_pos hMore, if_pos hMore, hEntry]
        refine (run_bind hLoad).trans ?_
        dsimp only
        split
        · exact ih hStop (by omega)
        · split
          · exact ih (by omega) (by omega)
          · rfl
      · rw [if_neg hMore, if_neg hMore]
        rfl

/-- An entry that is swapped down comes to its place among those below it. -/
theorem sink_spec (hList : wal.list = some ⟨a, 0⟩) (front back : List I915Wa) (wa : I915Wa)
    (holds : Holds heap sizeofI915Wa a bytes (front ++ wa :: back)) :
    ∃ heap', wal.sink front.length heap = some ((), heap') ∧
      Holds heap' sizeofI915Wa a bytes (Keyed.insertLast I915Wa.reg front wa ++ back) ∧
      Frame a heap heap' := by
  induction front using List.reverseRecOn generalizing heap back with
  | nil => exact ⟨heap, rfl, holds, Frame.refl a heap⟩
  | append_singleton front below ih =>
      rw [List.append_assoc, List.singleton_append] at holds
      have hBelow := holds.load_behind
      have hAbove := holds.load
        (show (front ++ below :: wa :: back)[front.length + 1]? = some wa by simp)
      obtain ⟨raised, lowered, hRaise, hLower, holdsLowered, frame⟩ := holds.swap
      rw [← hList] at hAbove hBelow hRaise hLower
      rw [List.length_append, List.length_singleton, StoredList.sink, run_bind hAbove,
        run_bind hBelow, Keyed.insertLast_concat]
      by_cases hPlace : below.reg < wa.reg
      · rw [if_pos hPlace, if_pos hPlace]
        refine ⟨heap, rfl, ?_, Frame.refl a heap⟩
        simpa using holds
      · rw [if_neg hPlace, if_neg hPlace, run_bind hRaise, run_bind hLower]
        obtain ⟨final, hFinal, holdsFinal, frameFinal⟩ := ih (below :: back) holdsLowered
        refine ⟨final, hFinal, ?_, frame.trans frameFinal⟩
        simpa using holdsFinal

/-- What the first part of `_wa_add` leaves: a block with room for the entries. -/
structure Grown (wal : StoredList) (heap heap' : State I915Wa) (model : I915WaList) (a : Nat) :
    Prop where
  holds : Holds heap' sizeofI915Wa a (model.grow.capacity * sizeofI915Wa) model.list
  live : heap'.live = {a}
  ordered : heap'.Ordered
  releases : heap'.releases = heap.releases ++ model.addReleases wal.list

theorem grow_capacity {model : I915WaList} (hFull : model.list.length % waListChunk = 0) :
    model.grow.capacity = model.list.length + waListChunk := by
  rw [I915WaList.grow, if_pos hFull]
  simp only [waListChunk] at *
  omega

theorem grow_spec {model : I915WaList} (h : wal.Refines heap model)
    (hSmall : model.list.length < 2 ^ 32 - 16) :
    ∃ a heap', wal.grow heap = some ({ wal with list := some ⟨a, 0⟩ }, heap') ∧
      Grown wal heap heap' model a := by
  obtain ⟨pointer, count, waCount⟩ := wal
  obtain ⟨stores, rfl, -, ordered⟩ := h
  simp only [StoredList.grow]
  by_cases hFull : model.list.length % waListChunk = 0
  · have hCapacity := grow_capacity hFull
    rw [if_pos hFull, align2_succ hSmall hFull]
    generalize hEntries : model.list = list at *
    cases stores with
    | none hLive =>
        obtain ⟨fresh, hMalloc, allocated⟩ :=
          malloc_spec ordered sizeofI915Wa ((0 + waListChunk) * sizeofI915Wa)
        refine ⟨heap.next, fresh, run_bind hMalloc, ?_⟩
        exact {
          holds := by
            rw [hCapacity, hEntries]
            exact allocated.holds
          live := by rw [allocated.live, hLive, insert_empty_eq]
          ordered := allocated.ordered ordered
          releases := by simp [allocated.releases, I915WaList.addReleases, hEntries] }
    | @some old _ hNonempty holds hLive =>
        obtain ⟨fresh, copied, freed, hMalloc, hCopy, hFree, moved⟩ :=
          holds.move ordered (Nat.mul_le_mul_right _ (Nat.le_add_right _ waListChunk))
            (list.length * sizeofI915Wa)
        refine ⟨heap.next, freed, ?_, ?_⟩
        · rw [run_bind hMalloc, Option.isSome_some, if_pos rfl, run_bind hCopy, run_bind hFree]
          rfl
        · exact {
            holds := by
              rw [hCapacity, hEntries]
              exact moved.holds
            live := moved.only ordered hLive
            ordered := moved.ordered
            releases := by
              rw [moved.releases, I915WaList.addReleases, hEntries, if_pos ⟨hFull, hNonempty⟩] }
  · rw [if_neg hFull]
    generalize hEntries : model.list = list at *
    cases stores with
    | none hLive => exact absurd rfl hFull
    | @some old _ hNonempty holds hLive =>
        refine ⟨old, heap, rfl, ?_⟩
        exact {
          holds := by
            rw [I915WaList.grow, hEntries, if_neg hFull]
            exact holds
          live := hLive
          ordered := ordered
          releases := by simp [I915WaList.addReleases, hEntries, hFull] }

theorem grow_waCount (model : I915WaList) : model.grow.waCount = model.waCount := by
  rw [I915WaList.grow]
  split <;> rfl

theorem add_found {model : I915WaList} {wa : I915Wa} {mid : Nat}
    (h : Keyed.search I915Wa.reg model.list wa.reg = some mid) :
    model.add wa =
      ⟨model.list.modify mid (·.merge wa), model.grow.capacity, model.waCount + 1⟩ := by
  simp only [I915WaList.add, I915WaList.grow_list, grow_waCount, h]

theorem add_missing {model : I915WaList} {wa : I915Wa}
    (h : Keyed.search I915Wa.reg model.list wa.reg = none) :
    model.add wa =
      ⟨Keyed.insertLast I915Wa.reg model.list wa, model.grow.capacity, model.waCount + 1⟩ := by
  simp only [I915WaList.add, I915WaList.grow_list, grow_waCount, h]

theorem unsigned_succ (n : Nat) : unsigned (unsigned n + 1) = unsigned (n + 1) := by
  simp only [unsigned]
  omega

/-- An addition in memory is the addition of the model, and gives back what the
model says. -/
theorem add_spec {model : I915WaList} (h : wal.Refines heap model)
    (hSmall : model.list.length < 2 ^ 32 - 16)
    (hRoom : model.list.length < model.grow.capacity) (wa : I915Wa) :
    ∃ wal' heap', wal.add wa heap = some (wal', heap') ∧ wal'.Refines heap' (model.add wa) ∧
      heap'.releases = heap.releases ++ model.addReleases wal.list := by
  obtain ⟨a, grown, hGrow, holds, hLive, ordered, hReleases⟩ := grow_spec h hSmall
  obtain ⟨pointer, count, waCount⟩ := wal
  obtain ⟨-, rfl, rfl, -⟩ := h
  have hSearch :
      StoredList.search ⟨some ⟨a, 0⟩, model.list.length, unsigned model.waCount⟩ wa.reg
          model.list.length 0 model.list.length grown =
        some (Keyed.search I915Wa.reg model.list wa.reg, grown) :=
    search_spec rfl holds wa.reg (Nat.le_refl _) (Nat.le_add_left _ _)
  rw [StoredList.add, run_bind hGrow]
  dsimp only
  rw [run_bind hSearch, unsigned_succ]
  cases hFound : Keyed.search I915Wa.reg model.list wa.reg with
  | some mid =>
      obtain ⟨old, hOld, -⟩ := Keyed.search_found hFound
      obtain ⟨hMid, rfl⟩ := List.getElem?_eq_some_iff.mp hOld
      obtain ⟨final, hStore, holdsFinal, frame⟩ := holds.set hMid (model.list[mid].merge wa)
      rw [List.set_eq_take_append_cons_drop, if_pos hMid] at holdsFinal
      refine ⟨⟨some ⟨a, 0⟩, model.list.length, unsigned (model.waCount + 1)⟩, final, ?_, ?_, ?_⟩
      · dsimp only
        rw [run_bind (holds.load hOld), run_bind hStore]
        rfl
      · rw [add_found hFound]
        exact {
          stores := by
            dsimp only
            rw [List.modify_eq_take_cons_drop hMid]
            exact .some (by simp) holdsFinal (frame.live.trans hLive)
          count := by simp
          waCount := rfl
          ordered := frame.ordered ordered }
      · rw [frame.releases, hReleases]
  | none =>
      obtain ⟨pushed, hPush, holdsPushed, framePushed⟩ :=
        holds.push (Nat.mul_le_mul_right sizeofI915Wa hRoom) wa
      obtain ⟨final, hSink, holdsFinal, frame⟩ :=
        @sink_spec ⟨some ⟨a, 0⟩, model.list.length, unsigned model.waCount⟩ _ _ _ rfl
          model.list [] wa holdsPushed
      have hCount : unsigned (model.list.length + 1) = model.list.length + 1 :=
        Nat.mod_eq_of_lt (by omega)
      refine ⟨⟨some ⟨a, 0⟩, model.list.length + 1, unsigned (model.waCount + 1)⟩, final,
        ?_, ?_, ?_⟩
      · dsimp only
        rw [run_bind hPush, run_bind hSink, hCount]
        rfl
      · rw [add_missing hFound]
        rw [List.append_nil] at holdsFinal
        exact {
          stores := by
            refine .some ?_ holdsFinal (frame.live.trans (framePushed.live.trans hLive))
            apply List.ne_nil_of_length_pos
            rw [Keyed.length_insertLast]
            exact Nat.succ_pos _
          count := Keyed.length_insertLast.symm
          waCount := rfl
          ordered := frame.ordered (framePushed.ordered ordered) }
      · rw [frame.releases, framePushed.releases, hReleases]

/-- There is no addition to a list of as many entries as an `unsigned int` can
be aligned up to. -/
theorem add_none {model : I915WaList} (h : wal.Refines heap model)
    (hFull : model.list.length = 2 ^ 32 - 16) (wa : I915Wa) : wal.add wa heap = none := by
  obtain ⟨pointer, count, waCount⟩ := wal
  obtain ⟨stores, rfl, -, ordered⟩ := h
  obtain ⟨fresh, hMalloc, allocated⟩ := malloc_spec ordered sizeofI915Wa 0
  have hGrow : StoredList.grow ⟨pointer, model.list.length, waCount⟩ heap = none := by
    have hPointer : pointer.isSome := by
      generalize model.list = list at *
      cases stores with
      | none => cases hFull
      | some => rfl
    have hChunk : model.list.length % waListChunk = 0 := by rw [hFull]; rfl
    have hBytes : align2 (unsigned (model.list.length + 1)) * sizeofI915Wa = 0 := by
      rw [hFull]
      rfl
    have hCopy := allocated.holds.copy_none
      (show 0 < model.list.length * sizeofI915Wa by rw [hFull]; decide) pointer
    simp only [StoredList.grow]
    rw [if_pos hChunk, hBytes, run_bind hMalloc, if_pos hPointer, run_bind_none hCopy]
  exact run_bind_none hGrow

/-- The end of a list in memory, which then is all that is live. -/
theorem finish_spec {model : I915WaList} (h : wal.Refines heap model) :
    ∃ wal' heap' capacity, wal.finish heap = some (wal', heap') ∧
      Stores heap' capacity wal'.list model.list ∧
      heap'.releases = heap.releases ++ model.finishReleases wal.list := by
  obtain ⟨pointer, count, waCount⟩ := wal
  obtain ⟨stores, rfl, -, ordered⟩ := h
  simp only [StoredList.finish]
  by_cases hPart : model.list.length % waListChunk ≠ 0
  · rw [if_pos hPart, I915WaList.finishReleases, if_pos hPart]
    generalize model.list = list at *
    cases stores with
    | none hLive => exact absurd rfl hPart
    | @some old _ hNonempty holds hLive =>
        obtain ⟨fresh, copied, freed, hMalloc, hCopy, hFree, moved⟩ :=
          holds.move ordered (Nat.le_refl _) (align2 list.length * sizeofI915Wa)
        refine ⟨⟨some ⟨heap.next, 0⟩, list.length, waCount⟩, freed, list.length, ?_, ?_, ?_⟩
        · rw [run_bind hMalloc, run_bind hCopy, run_bind hFree]
          rfl
        · exact .some hNonempty moved.holds (moved.only ordered hLive)
        · exact moved.releases
  · rw [if_neg hPart, I915WaList.finishReleases, if_neg hPart, List.append_nil]
    exact ⟨_, heap, model.capacity, rfl, stores, rfl⟩

end Steps

end NootedBlue.Wa
