import NootedBlue.Semantics.Bytes

/-! The walk over the blocks of the BIOS data block (BDB) inside the video
BIOS table. Every length is supplied by firmware, and the index is advanced
with the wrap-around of 32-bit arithmetic. -/
namespace NootedBlue.Vbt

open Interaction Bytes

/-- `BDB_MIPI_SEQUENCE`, the block whose size has 32 bits from version 3 on. -/
def mipiSequence : Nat := 53

/-- Offsets of `header_size` and `bdb_size` in `struct bdb_header`. -/
def headerSizeOffset : Nat := 18
def bdbSizeOffset : Nat := 20

/-- `_get_blocksize`, at the address of a block's id byte. -/
def getBlocksize (block : Nat) : Read Nat := do
  let id ← readU8 block
  if id = mipiSequence then do
    let version ← readU8 (block + 3)
    if version ≥ 3 then readU32 (block + 4) else readU16 (block + 1)
  else readU16 (block + 1)

/-- One iteration of the loop of `find_raw_section`, at an index from the
start of the BDB. It stops with the index of the payload. -/
def walkIteration (bdb sectionId total index : Nat) : Read (Iteration Nat (Option Nat)) :=
  if (index + 3) % 2 ^ 32 < total then do
    let currentId ← readU8 (bdb + index)
    let currentSize ← getBlocksize (bdb + index)
    let payload := index + 3
    if (payload + currentSize) % 2 ^ 32 > total then return .stop none
    else if currentId = sectionId then return .stop (some payload)
    else return .next ((payload + currentSize) % 2 ^ 32)
  else return .stop none

/-- `find_raw_section`. No result means that the walk is still going on when
the fuel is used up; the result is the index of the payload, or nothing. -/
def findRawSection (fuel bdb sectionId : Nat) : Read (Option (Option Nat)) := do
  let headerSize ← readU16 (bdb + headerSizeOffset)
  let total ← readU16 (bdb + bdbSizeOffset)
  loop (walkIteration bdb sectionId total) fuel headerSize

section Memory

variable (memory : Memory)

/-- A block of version 3 or later with a 32-bit size. -/
def IsMipi3 (block : Nat) : Prop := u8 memory block = mipiSequence ∧ 3 ≤ u8 memory (block + 3)

instance (block : Nat) : Decidable (IsMipi3 memory block) := inferInstanceAs (Decidable (_ ∧ _))

/-- The size that `_get_blocksize` returns. -/
def blocksize (block : Nat) : Nat :=
  if IsMipi3 memory block then u32 memory (block + 4) else u16 memory (block + 1)

def headerSize (bdb : Nat) : Nat := u16 memory (bdb + headerSizeOffset)

def bdbSize (bdb : Nat) : Nat := u16 memory (bdb + bdbSizeOffset)

theorem answer_getBlocksize (block : Nat) :
    (getBlocksize block).answer memory = blocksize memory block := by
  unfold getBlocksize blocksize
  rw [Program.answer_bind, answer_readU8]
  by_cases hId : u8 memory block = mipiSequence
  · rw [if_pos hId, Program.answer_bind, answer_readU8]
    by_cases hVersion : u8 memory (block + 3) ≥ 3
    · have hMipi : IsMipi3 memory block := ⟨hId, hVersion⟩
      rw [if_pos hVersion, if_pos hMipi, answer_readU32]
    · rw [if_neg hVersion, if_neg (fun h : IsMipi3 memory block => hVersion h.2),
        answer_readU16]
  · rw [if_neg hId, if_neg (fun h : IsMipi3 memory block => hId h.1), answer_readU16]

theorem bdbSize_lt (bdb : Nat) : bdbSize memory bdb < 2 ^ 16 := u16_lt memory _

theorem headerSize_lt (bdb : Nat) : headerSize memory bdb < 2 ^ 16 := u16_lt memory _

/-- The walk as a step function on the index. -/
def walkStep (bdb sectionId index : Nat) : Iteration Nat (Option Nat) :=
  (walkIteration bdb sectionId (bdbSize memory bdb) index).answer memory

theorem answer_findRawSection (fuel bdb sectionId : Nat) :
    (findRawSection fuel bdb sectionId).answer memory =
      iterate (walkStep memory bdb sectionId) fuel (headerSize memory bdb) := by
  unfold findRawSection
  simp only [Program.answer_bind, answer_readU16]
  exact answer_loop memory _ fuel _

/-- The index at which the walk looks next, when it goes on. -/
def following (bdb index : Nat) : Nat := (index + 3 + blocksize memory (bdb + index)) % 2 ^ 32

/-- The walk goes on past a block that starts inside the BDB, ends inside it,
and is not the one looked for. -/
def GoesOn (bdb sectionId index : Nat) : Prop :=
  (index + 3) % 2 ^ 32 < bdbSize memory bdb ∧ following memory bdb index ≤ bdbSize memory bdb ∧
    u8 memory (bdb + index) ≠ sectionId

theorem walkStep_eq (bdb sectionId index : Nat) :
    walkStep memory bdb sectionId index =
      if (index + 3) % 2 ^ 32 < bdbSize memory bdb then
        if bdbSize memory bdb < following memory bdb index then .stop none
        else if u8 memory (bdb + index) = sectionId then .stop (some (index + 3))
        else .next (following memory bdb index)
      else .stop none := by
  unfold walkStep walkIteration
  split
  · simp only [Program.answer_bind, answer_readU8, answer_getBlocksize]
    show Program.answer memory (if bdbSize memory bdb < following memory bdb index then _ else _) = _
    split
    · rfl
    · split <;> rfl
  · rfl

theorem walkStep_next_iff {bdb sectionId index next : Nat} :
    walkStep memory bdb sectionId index = .next next ↔
      GoesOn memory bdb sectionId index ∧ next = following memory bdb index := by
  rw [walkStep_eq]
  unfold GoesOn
  by_cases hInside : (index + 3) % 2 ^ 32 < bdbSize memory bdb
  · rw [if_pos hInside]
    by_cases hEnds : bdbSize memory bdb < following memory bdb index
    · rw [if_pos hEnds]
      simp only [reduceCtorEq, false_iff]
      omega
    · rw [if_neg hEnds]
      by_cases hId : u8 memory (bdb + index) = sectionId
      · rw [if_pos hId]
        simp [hId]
      · rw [if_neg hId, Iteration.next.injEq, eq_comm]
        simp only [hInside, ne_eq, hId, Nat.not_lt.mp hEnds, not_false_eq_true, true_and]
  · rw [if_neg hInside]
    simp only [reduceCtorEq, hInside, false_and]

/-- The offsets of the blocks that lie one behind the other from the first
one on, up to the one looked for and as long as each ends behind its start. -/
inductive BlockAt (bdb sectionId : Nat) : Nat → Prop where
  | first : BlockAt bdb sectionId (headerSize memory bdb)
  | behind {index : Nat} (before : BlockAt bdb sectionId index)
      (goesOn : GoesOn memory bdb sectionId index)
      (hBehind : index < following memory bdb index) :
      BlockAt bdb sectionId (following memory bdb index)

/-- A block whose 32-bit size makes the index wrap around to its own start or
to a place before it. The two largest sizes step forward by one and two. -/
def Wraps (bdb index : Nat) : Prop :=
  IsMipi3 memory (bdb + index) ∧ 2 ^ 32 ≤ index + 3 + u32 memory (bdb + index + 4) ∧
    u32 memory (bdb + index + 4) ≤ 2 ^ 32 - 3

/-- What the loop of `find_raw_section` is to do: every iteration moves the
index forward and keeps it inside the BDB, and the walk comes to an end. -/
structure Progresses (bdb sectionId : Nat) : Prop where
  forward : ∀ index next,
    Visits (walkStep memory bdb sectionId) (headerSize memory bdb) index →
    walkStep memory bdb sectionId index = .next next → index < next ∧ next ≤ bdbSize memory bdb
  ends : ∃ fuel result, (findRawSection fuel bdb sectionId).answer memory = some result

variable {memory}

theorem visits_index_lt {bdb sectionId index : Nat}
    (visits : Visits (walkStep memory bdb sectionId) (headerSize memory bdb) index) :
    index < 2 ^ 16 := by
  cases visits with
  | start => exact headerSize_lt memory bdb
  | next _ hNext =>
      obtain ⟨goesOn, rfl⟩ := (walkStep_next_iff memory).mp hNext
      have hEnds := goesOn.2.1
      have hTotal := bdbSize_lt memory bdb
      omega

/-- A block with a 16-bit size never takes the walk back; one with a 32-bit
size does exactly when it wraps. -/
theorem following_le_iff {bdb index : Nat} (hIndex : index < 2 ^ 16) :
    following memory bdb index ≤ index ↔ Wraps memory bdb index := by
  unfold following blocksize Wraps
  by_cases hMipi : IsMipi3 memory (bdb + index)
  · rw [if_pos hMipi]
    have hSize := u32_lt memory (bdb + index + 4)
    simp only [hMipi, true_and]
    omega
  · rw [if_neg hMipi]
    have hSize := u16_lt memory (bdb + index + 1)
    simp only [hMipi, false_and, iff_false]
    omega

end Memory

/-- The walk progresses through exactly those tables in which no block on its
way wraps. -/
theorem walk_progresses_iff (memory : Memory) (bdb sectionId : Nat) :
    Progresses memory bdb sectionId ↔
      ∀ index, BlockAt memory bdb sectionId index → GoesOn memory bdb sectionId index →
        ¬ Wraps memory bdb index := by
  constructor
  · intro progress index block goesOn hWraps
    have hVisits : Visits (walkStep memory bdb sectionId) (headerSize memory bdb) index := by
      clear goesOn hWraps
      induction block with
      | first => exact .start
      | behind _ goesOn _ ih => exact ih.next ((walkStep_next_iff memory).mpr ⟨goesOn, rfl⟩)
    have hBack := (following_le_iff (visits_index_lt hVisits)).mpr hWraps
    have hForward := progress.forward index _ hVisits
      ((walkStep_next_iff memory).mpr ⟨goesOn, rfl⟩)
    omega
  · intro hNever
    have hBlock : ∀ index, Visits (walkStep memory bdb sectionId) (headerSize memory bdb) index →
        BlockAt memory bdb sectionId index := by
      intro index visits
      induction visits with
      | start => exact .first
      | next before hNext ih =>
          obtain ⟨goesOn, rfl⟩ := (walkStep_next_iff memory).mp hNext
          refine .behind ih goesOn (Nat.lt_of_not_le fun hBack => ?_)
          exact hNever _ ih goesOn ((following_le_iff (visits_index_lt before)).mp hBack)
    have hForward : ∀ index next,
        Visits (walkStep memory bdb sectionId) (headerSize memory bdb) index →
        walkStep memory bdb sectionId index = .next next →
        index < next ∧ next ≤ bdbSize memory bdb := by
      intro index next visits hNext
      obtain ⟨goesOn, rfl⟩ := (walkStep_next_iff memory).mp hNext
      refine ⟨Nat.lt_of_not_le fun hBack => ?_, goesOn.2.1⟩
      exact hNever index (hBlock index visits) goesOn ((following_le_iff (visits_index_lt visits)).mp hBack)
    refine ⟨hForward, 2 ^ 16, ?_⟩
    rw [answer_findRawSection]
    have hTotal := bdbSize_lt memory bdb
    exact iterate_of_increasing id (by show _ - id _ < _; omega) hForward

/-- A BDB of 64 bytes whose only block, of id 53 and version 3, claims a size of
2^32 - 3 bytes. -/
def wrappingBdb : Memory := fun offset =>
  match offset with
  | 18 => 22
  | 20 => 64
  | 22 => 53
  | 25 => 3
  | 26 => 0xFD
  | 27 => 0xFF
  | 28 => 0xFF
  | 29 => 0xFF
  | _ => 0

/-- The walk comes back to that block for ever. -/
theorem walk_revisits_wrapping_block :
    (∀ fuel, (findRawSection fuel 0 1).answer wrappingBdb = none) ∧
      ¬ Progresses wrappingBdb 0 1 := by
  have hStep : walkStep wrappingBdb 0 1 22 = .next 22 := by decide
  refine ⟨fun fuel => ?_, fun progress => ?_⟩
  · rw [answer_findRawSection]
    exact iterate_of_cycle hStep fuel
  · have hForward := progress.forward 22 22 .start hStep
    omega

end NootedBlue.Vbt
