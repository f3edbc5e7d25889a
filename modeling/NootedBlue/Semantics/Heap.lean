import Mathlib.Data.List.Basic
import Mathlib.Data.Set.Insert

/-! Memory that is allocated and released. Every allocation is a block of its own, with a
number of bytes and elements in them. An access that is not inside of a live block has
no result. A release is written down with the size that came with it and with the size
of the block, and it ends the block whatever size came with it. -/
namespace Heap

/-- A pointer that is not null: an allocation and an offset in bytes. -/
structure Pointer where
  allocation : Nat
  offset : Nat
  deriving DecidableEq

/-- A block. An element that was never written has no value. -/
structure Block (α : Type) where
  bytes : Nat
  cells : Nat → Option α

/-- A release: the pointer and the size that came with it, and the size of the live
block that the pointer is the start of, if there is one. -/
structure Release where
  pointer : Option Pointer
  bytes : Nat
  allocated : Option Nat
  deriving DecidableEq

/-- A release is right when it gives back a live block with its size. -/
def Release.Right (release : Release) : Prop := release.allocated = some release.bytes

instance (release : Release) : Decidable release.Right :=
  inferInstanceAs (Decidable (_ = _))

/-- The live blocks, the number of the next allocation, and the releases so far. -/
structure State (α : Type) where
  next : Nat
  blocks : Nat → Option (Block α)
  releases : List Release

/-- Programs that allocate. No result is an access outside of what is live. -/
abbrev Run (α β : Type) := StateT (State α) Option β

variable {α β : Type}

namespace State

def empty : State α := ⟨0, fun _ => none, []⟩

/-- The block that a pointer is the start of. -/
def block (heap : State α) (p : Option Pointer) : Option (Block α) :=
  match p with
  | some ⟨a, 0⟩ => heap.blocks a
  | _ => none

/-- Another block, or none, in the place of one. -/
def set (heap : State α) (a : Nat) (block : Option (Block α)) : State α :=
  { heap with blocks := Function.update heap.blocks a block }

/-- The allocations that are live. -/
def live (heap : State α) : Set Nat := {a | (heap.blocks a).isSome}

/-- Every live allocation has a number that was given out. -/
def Ordered (heap : State α) : Prop := ∀ a ∈ heap.live, a < heap.next

end State

/-- Allocate some bytes, which hold nothing. -/
def malloc (bytes : Nat) : Run α (Option Pointer) := fun heap =>
  some (some ⟨heap.next, 0⟩,
    { heap.set heap.next (some ⟨bytes, fun _ => none⟩) with next := heap.next + 1 })

/-- Release a pointer, with a size. -/
def free (p : Option Pointer) (bytes : Nat) : Run α Unit := fun heap =>
  let release : Release := ⟨p, bytes, (heap.block p).map Block.bytes⟩
  let freed :=
    match p with
    | some ⟨a, 0⟩ => heap.set a none
    | _ => heap
  some ((), { freed with releases := heap.releases ++ [release] })

/-- Read an element of an array, in elements of some size. -/
def load (size : Nat) (p : Option Pointer) (i : Nat) : Run α α := fun heap =>
  match heap.block p with
  | none => none
  | some block => if (i + 1) * size ≤ block.bytes then (block.cells i).map (·, heap) else none

/-- Write an element of an array. -/
def store (size : Nat) (p : Option Pointer) (i : Nat) (value : α) : Run α Unit := fun heap =>
  match p, heap.block p with
  | some q, some block =>
      if (i + 1) * size ≤ block.bytes then
        some ((), heap.set q.allocation
          (some { block with cells := Function.update block.cells i (some value) }))
      else none
  | _, _ => none

/-- Copy the first elements of an array to another one. -/
def copy (size : Nat) (target source : Option Pointer) (count : Nat) : Run α Unit := fun heap =>
  match target, heap.block target, heap.block source with
  | some q, some old, some block =>
      if count * size ≤ old.bytes ∧ count * size ≤ block.bytes then
        some ((), heap.set q.allocation
          (some { old with cells := fun i => if i < count then block.cells i else old.cells i }))
      else none
  | _, _, _ => none

/-- The pointer some elements away. A null pointer can only stay where it is. -/
def advance (size : Nat) (p : Option Pointer) (count : Int) : Run α (Option Pointer) :=
  match p with
  | some p =>
      let offset := p.offset + count * size
      if 0 ≤ offset then pure (some { p with offset := offset.toNat }) else failure
  | none => if count = 0 then pure none else failure

/-- The elements from the second pointer to the first one, which is in the same block. -/
def distance (size : Nat) (p q : Option Pointer) : Run α Int :=
  match p, q with
  | some p, some q =>
      if p.allocation = q.allocation then pure (((p.offset : Int) - q.offset) / size) else failure
  | none, none => pure 0
  | _, _ => failure

/-- Whether the first pointer is behind the second one, in the same block. -/
def isAfter (p q : Option Pointer) : Run α Bool :=
  match p, q with
  | some p, some q =>
      if p.allocation = q.allocation then pure (decide (q.offset < p.offset)) else failure
  | _, _ => failure

/-- Read the element that a pointer is at. -/
def loadAt (size : Nat) (p : Option Pointer) : Run α α :=
  match p with
  | some p =>
      if size ∣ p.offset then load size (some ⟨p.allocation, 0⟩) (p.offset / size) else failure
  | none => failure

/-- Write the element that a pointer is at. -/
def storeAt (size : Nat) (p : Option Pointer) (value : α) : Run α Unit :=
  match p with
  | some p =>
      if size ∣ p.offset then store size (some ⟨p.allocation, 0⟩) (p.offset / size) value
      else failure
  | none => failure

/-- The pointer to an element of an allocation. -/
def element (size a i : Nat) : Option Pointer := some ⟨a, i * size⟩

/-- An allocation is a live block of a size, whose first elements are those of a list. -/
structure Holds (heap : State α) (size a bytes : Nat) (xs : List α) : Prop where
  block : ∃ cells, heap.blocks a = some ⟨bytes, cells⟩ ∧ ∀ i < xs.length, cells i = xs[i]?
  fits : xs.length * size ≤ bytes

/-- What reads and writes of one allocation leave alone. -/
structure Frame (a : Nat) (heap heap' : State α) : Prop where
  others : ∀ {b}, b ≠ a → heap'.blocks b = heap.blocks b
  next : heap'.next = heap.next
  releases : heap'.releases = heap.releases
  live : heap'.live = heap.live

section Laws

variable {heap heap' : State α} {size a bytes : Nat} {xs : List α} {i : Nat} {value : α}

theorem run_bind {γ : Type} {first : Run α β} {next : β → Run α γ} {b : β}
    (h : first heap = some (b, heap')) : (first >>= next) heap = next b heap' := by
  change (first heap).bind (fun r => next r.1 r.2) = _
  rw [h]
  rfl

/-- What a sequence ends with is what its second part makes of the first. -/
theorem run_bind_some {γ : Type} {first : Run α β} {next : β → Run α γ} {result : γ × State α}
    (h : (first >>= next) heap = some result) :
    ∃ b heap', first heap = some (b, heap') ∧ next b heap' = some result := by
  obtain ⟨⟨b, heap'⟩, hFirst, hNext⟩ := Option.bind_eq_some_iff.mp h
  exact ⟨b, heap', hFirst, hNext⟩

theorem run_bind_none {γ : Type} {first : Run α β} {next : β → Run α γ}
    (h : first heap = none) : (first >>= next) heap = none := by
  change (first heap).bind (fun r => next r.1 r.2) = _
  rw [h]
  rfl

theorem Frame.refl (a : Nat) (heap : State α) : Frame a heap heap :=
  ⟨fun _ => rfl, rfl, rfl, rfl⟩

theorem Frame.trans {heap'' : State α} (first : Frame a heap heap') (second : Frame a heap' heap'') :
    Frame a heap heap'' :=
  ⟨fun hOther => (second.others hOther).trans (first.others hOther),
    second.next.trans first.next, second.releases.trans first.releases,
    second.live.trans first.live⟩

theorem Frame.ordered (frame : Frame a heap heap') (ordered : heap.Ordered) : heap'.Ordered := by
  intro a ha
  rw [frame.live] at ha
  rw [frame.next]
  exact ordered a ha

/-- Another block in the place of a live one changes nothing else. -/
theorem frame_set {block : Block α} (hLive : a ∈ heap.live) :
    Frame a heap (heap.set a (some block)) where
  others := fun hOther => Function.update_of_ne hOther ..
  next := rfl
  releases := rfl
  live := by
    ext b
    by_cases hSame : b = a
    · subst hSame
      exact iff_of_true (by simp [State.live, State.set]) hLive
    · simp [State.live, State.set, hSame]

theorem Holds.mem_live (holds : Holds heap size a bytes xs) : a ∈ heap.live := by
  obtain ⟨cells, hBlock, -⟩ := holds.block
  simp [State.live, hBlock]

/-- What another block holds is left alone. -/
theorem Frame.holds (frame : Frame a heap heap') {b : Nat} (holds : Holds heap size b bytes xs)
    (hOther : b ≠ a) : Holds heap' size b bytes xs where
  block := by
    rw [frame.others hOther]
    exact holds.block
  fits := holds.fits

/-- What another block holds does not change. -/
theorem Holds.set_other (holds : Holds heap size a bytes xs) {b : Nat} {block : Option (Block α)}
    (hOther : a ≠ b) : Holds (heap.set b block) size a bytes xs where
  block := by
    obtain ⟨cells, hBlock, hCells⟩ := holds.block
    exact ⟨cells, by simp [State.set, hOther, hBlock], hCells⟩
  fits := holds.fits

/-- An element that is held is read. -/
theorem Holds.load (holds : Holds heap size a bytes xs) (h : xs[i]? = some value) :
    load size (some ⟨a, 0⟩) i heap = some (value, heap) := by
  obtain ⟨cells, hBlock, hCells⟩ := holds.block
  have hIn : i < xs.length := (List.getElem?_eq_some_iff.mp h).1
  have hRoom : (i + 1) * size ≤ bytes := Nat.le_trans (Nat.mul_le_mul_right size hIn) holds.fits
  simp [Heap.load, State.block, hBlock, hRoom, hCells i hIn, h]

/-- A write inside of a block, up to the end of its list. -/
theorem Holds.store (holds : Holds heap size a bytes xs) (hRoom : (i + 1) * size ≤ bytes)
    (h : i ≤ xs.length) (value : α) :
    ∃ heap', store size (some ⟨a, 0⟩) i value heap = some ((), heap') ∧
      Holds heap' size a bytes (xs.take i ++ value :: xs.drop (i + 1)) ∧ Frame a heap heap' := by
  obtain ⟨cells, hBlock, hCells⟩ := holds.block
  have hState : heap.block (some ⟨a, 0⟩) = some ⟨bytes, cells⟩ := hBlock
  refine ⟨heap.set a (some ⟨bytes, Function.update cells i (some value)⟩), ?_,
    ⟨⟨Function.update cells i (some value), ?_, ?_⟩, ?_⟩, frame_set holds.mem_live⟩
  · simp [Heap.store, hState, hRoom]
  · exact Function.update_self ..
  · intro j hj
    simp only [List.length_append, List.length_take, List.length_cons, List.length_drop] at hj
    rw [Function.update_apply, List.getElem?_append, List.length_take, Nat.min_eq_left h]
    rcases Nat.lt_trichotomy j i with hBefore | rfl | hAfter
    · rw [if_neg (by omega), if_pos hBefore, List.getElem?_take_of_lt hBefore, hCells j (by omega)]
    · simp
    · rw [if_neg (by omega), if_neg (by omega), List.getElem?_cons, if_neg (by omega),
        List.getElem?_drop, hCells j (by omega)]
      congr 1
      omega
  · have hFits := holds.fits
    simp only [List.length_append, List.length_take, List.length_cons, List.length_drop]
    rcases Nat.lt_or_ge i xs.length with hIn | hEnd
    · rw [show min i xs.length + (xs.length - (i + 1) + 1) = xs.length by omega]
      exact hFits
    · rw [show min i xs.length + (xs.length - (i + 1) + 1) = i + 1 by omega]
      exact hRoom

/-- A write to an element that is held. -/
theorem Holds.set (holds : Holds heap size a bytes xs) (h : i < xs.length) (value : α) :
    ∃ heap', Heap.store size (some ⟨a, 0⟩) i value heap = some ((), heap') ∧
      Holds heap' size a bytes (xs.set i value) ∧ Frame a heap heap' := by
  rw [List.set_eq_take_append_cons_drop, if_pos h]
  exact holds.store (Nat.le_trans (Nat.mul_le_mul_right size h) holds.fits) (Nat.le_of_lt h) value

/-- An element behind some others is read. -/
theorem Holds.load_behind {front back : List α}
    (holds : Holds heap size a bytes (front ++ value :: back)) :
    Heap.load size (some ⟨a, 0⟩) front.length heap = some (value, heap) := by
  apply holds.load
  rw [List.getElem?_append_right (Nat.le_refl _), Nat.sub_self]
  rfl

/-- Two writes swap neighbours. -/
theorem Holds.swap {front back : List α} {below above : α}
    (holds : Holds heap size a bytes (front ++ below :: above :: back)) :
    ∃ raised lowered, Heap.store size (some ⟨a, 0⟩) (front.length + 1) below heap =
        some ((), raised) ∧
      Heap.store size (some ⟨a, 0⟩) front.length above raised = some ((), lowered) ∧
      Holds lowered size a bytes (front ++ above :: below :: back) ∧ Frame a heap lowered := by
  have hUpper : (front ++ below :: above :: back).set (front.length + 1) below =
      front ++ below :: below :: back := by simp
  have hLower : (front ++ below :: below :: back).set front.length above =
      front ++ above :: below :: back := by simp
  obtain ⟨raised, hRaise, holdsRaised, frameRaised⟩ := holds.set
    (show front.length + 1 < (front ++ below :: above :: back).length by simp) below
  rw [hUpper] at holdsRaised
  obtain ⟨lowered, hLowered, holdsLowered, frameLowered⟩ := holdsRaised.set
    (show front.length < (front ++ below :: below :: back).length by simp) above
  rw [hLower] at holdsLowered
  exact ⟨raised, lowered, hRaise, hLowered, holdsLowered, frameRaised.trans frameLowered⟩

/-- A write behind the elements that are held. -/
theorem Holds.push (holds : Holds heap size a bytes xs) (hRoom : (xs.length + 1) * size ≤ bytes)
    (value : α) :
    ∃ heap', Heap.store size (some ⟨a, 0⟩) xs.length value heap = some ((), heap') ∧
      Holds heap' size a bytes (xs ++ [value]) ∧ Frame a heap heap' := by
  have hStore := holds.store hRoom (Nat.le_refl _) value
  rwa [List.take_length, List.drop_eq_nil_of_le (Nat.le_succ _)] at hStore

/-- A fresh block, beside those that are live. -/
structure Allocated (heap heap' : State α) (size bytes : Nat) : Prop where
  holds : Holds heap' size heap.next bytes []
  others : ∀ {a size bytes : Nat} {xs : List α}, Holds heap size a bytes xs →
    Holds heap' size a bytes xs
  live : heap'.live = insert heap.next heap.live
  next : heap'.next = heap.next + 1
  releases : heap'.releases = heap.releases

theorem malloc_spec (ordered : heap.Ordered) (size bytes : Nat) :
    ∃ heap', malloc bytes heap = some (some ⟨heap.next, 0⟩, heap') ∧
      Allocated heap heap' size bytes := by
  refine ⟨_, rfl, ?_⟩
  exact {
    holds := ⟨⟨fun _ => none, Function.update_self .., by simp⟩, by simp⟩
    others := by
      intro a size bytes xs holds
      have hOld := ordered a holds.mem_live
      obtain ⟨⟨cells, hBlock, hCells⟩, hFits⟩ :=
        @Holds.set_other α heap size a bytes xs holds heap.next (some ⟨_, fun _ => none⟩)
          (Nat.ne_of_lt hOld)
      exact ⟨⟨cells, hBlock, hCells⟩, hFits⟩
    live := by
      ext b
      by_cases hNew : b = heap.next
      · subst hNew
        simp [State.live, State.set]
      · simp [State.live, State.set, hNew]
    next := rfl
    releases := rfl }

theorem Allocated.ordered (allocated : Allocated heap heap' size bytes) (ordered : heap.Ordered) :
    heap'.Ordered := by
  intro a ha
  rw [allocated.live] at ha
  rw [allocated.next]
  rcases ha with rfl | hOld
  · exact Nat.lt_succ_self _
  · exact Nat.lt_succ_of_lt (ordered a hOld)

/-- The elements of a list are copied to a block with room for them. -/
theorem Holds.copy (holds : Holds heap size a bytes xs) {b newBytes : Nat}
    (target : Holds heap size b newBytes []) (hOther : a ≠ b)
    (hRoom : xs.length * size ≤ newBytes) :
    ∃ heap', Heap.copy size (some ⟨b, 0⟩) (some ⟨a, 0⟩) xs.length heap = some ((), heap') ∧
      Holds heap' size b newBytes xs ∧ Holds heap' size a bytes xs ∧ Frame b heap heap' := by
  obtain ⟨cells, hBlock, hCells⟩ := holds.block
  obtain ⟨targetCells, hTarget, -⟩ := target.block
  have hSource : heap.block (some ⟨a, 0⟩) = some ⟨bytes, cells⟩ := hBlock
  have hState : heap.block (some ⟨b, 0⟩) = some ⟨newBytes, targetCells⟩ := hTarget
  refine ⟨heap.set b (some ⟨newBytes, fun i => if i < xs.length then cells i else targetCells i⟩),
    ?_, ⟨⟨fun i => if i < xs.length then cells i else targetCells i, Function.update_self .., ?_⟩,
    hRoom⟩, holds.set_other hOther, frame_set target.mem_live⟩
  · simp [Heap.copy, hSource, hState, hRoom, holds.fits]
  · intro i hi
    exact (if_pos hi).trans (hCells i hi)

/-- There is no copy to a block that is too small. -/
theorem Holds.copy_none (target : Holds heap size a bytes xs) {count : Nat}
    (hSmall : bytes < count * size) (source : Option Pointer) :
    Heap.copy size (some ⟨a, 0⟩) source count heap = none := by
  obtain ⟨cells, hBlock, -⟩ := target.block
  have hState : heap.block (some ⟨a, 0⟩) = some ⟨bytes, cells⟩ := hBlock
  cases hSource : heap.block source with
  | none => simp [Heap.copy, hSource]
  | some block => simp [Heap.copy, hSource, hState, hSmall]

/-- An array of smaller elements. -/
theorem Holds.smaller (holds : Holds heap size a bytes xs) {smaller : Nat} (h : smaller ≤ size) :
    Holds heap smaller a bytes xs :=
  ⟨holds.block, Nat.le_trans (Nat.mul_le_mul_left _ h) holds.fits⟩

/-- What is written down of releases changes no block. -/
theorem Holds.log (holds : Holds heap size a bytes xs) (releases : List Release) :
    Holds { heap with releases } size a bytes xs :=
  ⟨holds.block, holds.fits⟩

theorem free_null (given : Nat) : Heap.free none given heap =
    some ((), { heap with releases := heap.releases ++ [⟨none, given, none⟩] }) := rfl

/-- A block that is given back. -/
structure Released (heap heap' : State α) (a bytes given : Nat) : Prop where
  others : ∀ {b size bytes : Nat} {xs : List α}, b ≠ a → Holds heap size b bytes xs →
    Holds heap' size b bytes xs
  live : heap'.live = heap.live \ {a}
  next : heap'.next = heap.next
  releases : heap'.releases = heap.releases ++ [⟨some ⟨a, 0⟩, given, some bytes⟩]

theorem Released.ordered {given : Nat} (released : Released heap heap' a bytes given)
    (ordered : heap.Ordered) : heap'.Ordered := by
  intro b hb
  rw [released.live] at hb
  rw [released.next]
  exact ordered b hb.1

theorem Holds.free (holds : Holds heap size a bytes xs) (given : Nat) :
    ∃ heap', Heap.free (some ⟨a, 0⟩) given heap = some ((), heap') ∧
      Released heap heap' a bytes given := by
  obtain ⟨cells, hBlock, -⟩ := holds.block
  have hState : heap.block (some ⟨a, 0⟩) = some ⟨bytes, cells⟩ := hBlock
  refine ⟨_, rfl, ?_⟩
  exact {
    others := by
      intro b size bytes xs hOther holdsOther
      obtain ⟨⟨otherCells, hOtherBlock, hOtherCells⟩, hFits⟩ :=
        @Holds.set_other α heap size b bytes xs holdsOther a none hOther
      exact ⟨⟨otherCells, hOtherBlock, hOtherCells⟩, hFits⟩
    live := by
      ext b
      by_cases hSame : b = a
      · subst hSame
        simp [State.live, State.set]
      · simp [State.live, State.set, hSame]
    next := rfl
    releases := by simp [hState] }

/-- A list that is in another block now. -/
structure Moved (heap heap' : State α) (size a bytes given newBytes : Nat) (xs : List α) : Prop where
  holds : Holds heap' size heap.next newBytes xs
  live : heap'.live = insert heap.next heap.live \ {a}
  ordered : heap'.Ordered
  releases : heap'.releases = heap.releases ++ [⟨some ⟨a, 0⟩, given, some bytes⟩]

/-- The only block that is live, after it moved. -/
theorem Moved.only {given newBytes : Nat}
    (moved : Moved heap heap' size a bytes given newBytes xs) (ordered : heap.Ordered)
    (hLive : heap.live = {a}) : heap'.live = {heap.next} := by
  have hOld : a < heap.next := ordered a (by rw [hLive]; exact Set.mem_singleton a)
  rw [moved.live, hLive]
  exact Set.insert_sdiff_eq_singleton (Nat.ne_of_gt hOld)

/-- A fresh block, a copy to it and the release of the old one move a list. -/
theorem Holds.move (holds : Holds heap size a bytes xs) (ordered : heap.Ordered) {newBytes : Nat}
    (hRoom : xs.length * size ≤ newBytes) (given : Nat) :
    ∃ fresh copied freed, malloc newBytes heap = some (some ⟨heap.next, 0⟩, fresh) ∧
      Heap.copy size (some ⟨heap.next, 0⟩) (some ⟨a, 0⟩) xs.length fresh = some ((), copied) ∧
      Heap.free (some ⟨a, 0⟩) given copied = some ((), freed) ∧
      Moved heap freed size a bytes given newBytes xs := by
  have hOther : a ≠ heap.next := Nat.ne_of_lt (ordered a holds.mem_live)
  obtain ⟨fresh, hMalloc, allocated⟩ := malloc_spec ordered size newBytes
  obtain ⟨copied, hCopy, holdsNew, holdsOld, frame⟩ :=
    (allocated.others holds).copy allocated.holds hOther hRoom
  obtain ⟨freed, hFree, released⟩ := holdsOld.free given
  refine ⟨fresh, copied, freed, hMalloc, hCopy, hFree, ?_⟩
  exact {
    holds := released.others hOther.symm holdsNew
    live := by rw [released.live, frame.live, allocated.live]
    ordered := released.ordered (frame.ordered (allocated.ordered ordered))
    releases := by rw [released.releases, frame.releases, allocated.releases] }

section Elements

variable {j : Nat} {count : Int}

theorem element_zero (size a : Nat) : element size a 0 = some ⟨a, 0⟩ := by
  rw [element, Nat.zero_mul]

theorem advance_element (h : (i : Int) + count = j) :
    advance size (element size a i) count heap = some (element size a j, heap) := by
  have hOffset : ((i * size : Nat) : Int) + count * size = ((j * size : Nat) : Int) := by
    rw [Int.natCast_mul, Int.natCast_mul, ← h, Int.add_mul]
  simp only [advance, element]
  rw [hOffset, if_pos (Int.natCast_nonneg _), Int.toNat_natCast]
  rfl

theorem distance_element (hSize : 0 < size) :
    distance size (element size a i) (element size a j) heap = some ((i : Int) - j, heap) := by
  have hOffset : (((i * size : Nat) : Int) - ((j * size : Nat) : Int)) / size = (i : Int) - j := by
    rw [Int.natCast_mul, Int.natCast_mul, ← Int.sub_mul]
    exact Int.mul_ediv_cancel _ (Int.natCast_ne_zero.mpr (Nat.ne_of_gt hSize))
  simp only [distance, element]
  rw [if_pos trivial, hOffset]
  rfl

theorem isAfter_element (hSize : 0 < size) :
    isAfter (element size a i) (element size a j) heap = some (decide (j < i), heap) := by
  simp only [isAfter, element]
  rw [if_pos trivial, decide_eq_decide.mpr (Nat.mul_lt_mul_right hSize)]
  rfl

theorem loadAt_element (hSize : 0 < size) :
    loadAt size (element size a i) heap = load size (some ⟨a, 0⟩) i heap := by
  simp only [loadAt, element]
  rw [if_pos (Nat.dvd_mul_left size i), Nat.mul_div_cancel _ hSize]

theorem storeAt_element (hSize : 0 < size) :
    storeAt size (element size a i) value heap = store size (some ⟨a, 0⟩) i value heap := by
  simp only [storeAt, element]
  rw [if_pos (Nat.dvd_mul_left size i), Nat.mul_div_cancel _ hSize]

end Elements

end Laws

end Heap
