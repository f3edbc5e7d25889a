import Mathlib.Algebra.Group.Nat.Defs
import Mathlib.Algebra.GroupWithZero.Nat
import NootedBlue.Semantics.Loop

/-! Little-endian numbers in a memory of bytes, and programs that read it.
The questions of such a program are the offsets it touches. -/
namespace Bytes

open Interaction

abbrev Memory := Nat → UInt8

abbrev Read := Program Nat (fun _ => UInt8)

def u8 (memory : Memory) (offset : Nat) : Nat := (memory offset).toNat

def u16 (memory : Memory) (offset : Nat) : Nat :=
  u8 memory offset + 0x100 * u8 memory (offset + 1)

def u32 (memory : Memory) (offset : Nat) : Nat :=
  u16 memory offset + 0x10000 * u16 memory (offset + 2)

def u64 (memory : Memory) (offset : Nat) : Nat :=
  u32 memory offset + 2 ^ 32 * u32 memory (offset + 4)

theorem u8_lt (memory : Memory) (offset : Nat) : u8 memory offset < 0x100 :=
  (memory offset).toNat_lt

theorem u16_lt (memory : Memory) (offset : Nat) : u16 memory offset < 0x10000 := by
  have hLow := u8_lt memory offset
  have hHigh := u8_lt memory (offset + 1)
  unfold u16
  omega

theorem u32_lt (memory : Memory) (offset : Nat) : u32 memory offset < 0x100000000 := by
  have hLow := u16_lt memory offset
  have hHigh := u16_lt memory (offset + 2)
  unfold u32
  omega

def readU8 (offset : Nat) : Read Nat := do
  let byte ← Program.perform offset
  return byte.toNat

def readU16 (offset : Nat) : Read Nat := do
  let low ← readU8 offset
  let high ← readU8 (offset + 1)
  return low + 0x100 * high

def readU32 (offset : Nat) : Read Nat := do
  let low ← readU16 offset
  let high ← readU16 (offset + 2)
  return low + 0x10000 * high

/-- Read `count` bytes in a row. -/
def readBytes (offset : Nat) : Nat → Read (List UInt8)
  | 0 => return []
  | count + 1 => do
      let first ← Program.perform offset
      let rest ← readBytes (offset + 1) count
      return first :: rest

/-- Read `count` numbers of 32 bits in a row. -/
def readU32s (offset : Nat) : Nat → Read (List Nat)
  | 0 => return []
  | count + 1 => do
      let first ← readU32 offset
      let rest ← readU32s (offset + 4) count
      return first :: rest

def u32s (memory : Memory) (offset count : Nat) : List Nat :=
  (List.range count).map fun i => u32 memory (offset + 4 * i)

section Answers

variable (memory : Memory) (offset : Nat)

@[simp] theorem answer_readU8 : (readU8 offset).answer memory = u8 memory offset := rfl

@[simp] theorem answer_readU16 : (readU16 offset).answer memory = u16 memory offset := rfl

@[simp] theorem answer_readU32 : (readU32 offset).answer memory = u32 memory offset := rfl

@[simp] theorem asked_readU8 : (readU8 offset).asked memory = [offset] := rfl

@[simp] theorem asked_readU16 : (readU16 offset).asked memory = [offset, offset + 1] := rfl

@[simp] theorem asked_readU32 :
    (readU32 offset).asked memory = [offset, offset + 1, offset + 2, offset + 3] := rfl

@[simp] theorem answer_readBytes (count : Nat) :
    (readBytes offset count).answer memory =
      (List.range count).map (fun i => memory (offset + i)) := by
  induction count generalizing offset with
  | zero => rfl
  | succ count ih =>
      rw [List.range_succ_eq_map, List.map_cons, List.map_map]
      simp only [readBytes, Program.perform_bind, Program.answer, Program.answer_bind, ih,
        Program.pure_eq]
      refine congrArg (memory offset :: ·) ?_
      apply List.map_congr_left
      intro i _
      show memory (offset + 1 + i) = memory (offset + (i + 1))
      rw [Nat.add_assoc, Nat.add_comm 1 i]

@[simp] theorem answer_readU32s (count : Nat) :
    (readU32s offset count).answer memory = u32s memory offset count := by
  induction count generalizing offset with
  | zero => rfl
  | succ count ih =>
      rw [u32s, List.range_succ_eq_map, List.map_cons, List.map_map]
      simp only [readU32s, Program.answer_bind, answer_readU32, ih, Program.pure_eq,
        Program.answer_done]
      refine congrArg (u32 memory offset :: ·) ?_
      apply List.map_congr_left
      intro i _
      show u32 memory (offset + 4 + 4 * i) = u32 memory (offset + 4 * (i + 1))
      congr 1
      omega

@[simp] theorem mem_asked_readBytes (count at' : Nat) :
    at' ∈ (readBytes offset count).asked memory ↔ offset ≤ at' ∧ at' < offset + count := by
  induction count generalizing offset with
  | zero =>
      show at' ∈ [] ↔ _
      simp only [List.not_mem_nil, false_iff]
      omega
  | succ count ih =>
      simp only [readBytes, Program.perform_bind, Program.asked, Program.asked_bind,
        List.mem_cons, List.mem_append, ih, Program.pure_eq, List.not_mem_nil, or_false]
      omega

end Answers

/-- Reading that may still be going on when its fuel is used up. -/
abbrev Search := OptionT Read

/-- Everything a program reads lies below a bound. -/
def Inside {α : Type} (size : Nat) (memory : Memory) (p : Read α) : Prop :=
  ∀ offset ∈ p.asked memory, offset < size

section Inside

variable {α β : Type} {size : Nat} {memory : Memory} {offset : Nat}

theorem inside_done (a : α) : Inside size memory (.done a) := fun _ h => absurd h List.not_mem_nil

theorem inside_bind_iff {p : Read α} {f : α → Read β} :
    Inside size memory (p >>= f) ↔
      Inside size memory p ∧ Inside size memory (f (p.answer memory)) := by
  unfold Inside
  rw [Program.asked_bind]
  exact List.forall_mem_append

theorem inside_readU8_iff : Inside size memory (readU8 offset) ↔ offset < size := by
  simp [Inside]

theorem inside_readU16_iff : Inside size memory (readU16 offset) ↔ offset + 1 < size := by
  simp only [Inside, asked_readU16, List.mem_cons, List.not_mem_nil, or_false,
    forall_eq_or_imp, forall_eq]
  omega

theorem inside_readU32_iff : Inside size memory (readU32 offset) ↔ offset + 3 < size := by
  simp only [Inside, asked_readU32, List.mem_cons, List.not_mem_nil, or_false,
    forall_eq_or_imp, forall_eq]
  omega

theorem inside_readBytes_iff {count : Nat} :
    Inside size memory (readBytes offset (count + 1)) ↔ offset + count < size := by
  simp only [Inside, mem_asked_readBytes]
  constructor
  · intro h
    exact h (offset + count) ⟨by omega, by omega⟩
  · intro h at' hAt
    omega

theorem inside_readU32s {count : Nat} (h : offset + 4 * count ≤ size) :
    Inside size memory (readU32s offset count) := by
  induction count generalizing offset with
  | zero => exact inside_done _
  | succ count ih =>
      simp only [readU32s, inside_bind_iff, inside_readU32_iff]
      exact ⟨by omega, ih (by omega), inside_done _⟩

theorem answer_search_bind (x : Search α) (f : α → Search β) :
    (x >>= f).run.answer memory =
      (x.run.answer memory).bind fun a => (f a).run.answer memory := by
  refine (Program.answer_bind memory x.run _).trans ?_
  cases x.run.answer memory with
  | none => rfl
  | some a => rfl

theorem inside_search_bind_iff {x : Search α} {f : α → Search β} :
    Inside size memory (x >>= f).run ↔ Inside size memory x.run ∧
      ∀ a, x.run.answer memory = some a → Inside size memory (f a).run := by
  refine (inside_bind_iff (p := x.run)).trans (and_congr_right fun _ => ?_)
  cases hAnswer : x.run.answer memory with
  | none =>
      refine iff_of_true (inside_done _) ?_
      intro a ha
      cases ha
  | some a =>
      constructor
      · intro h b hb
        cases hb
        exact h
      · intro h
        exact h a rfl

theorem answer_search_lift (p : Read α) :
    (liftM p : Search α).run.answer memory = some (p.answer memory) :=
  Program.answer_bind memory p _

theorem inside_search_lift_iff {p : Read α} :
    Inside size memory (liftM p : Search α).run ↔ Inside size memory p :=
  inside_bind_iff.trans (and_iff_left (inside_done _))

/-- A search that starts with a plain reading. -/
theorem inside_lift_bind_iff {p : Read α} {f : α → Search β} :
    Inside size memory ((liftM p : Search α) >>= f).run ↔
      Inside size memory p ∧ Inside size memory (f (p.answer memory)).run := by
  rw [inside_search_bind_iff, inside_search_lift_iff, answer_search_lift]
  simp

/-- A search has come to its result. -/
def Answers (memory : Memory) (x : Search α) : Prop := ∃ a, x.run.answer memory = some a

theorem answers_pure (a : α) : Answers memory (pure a : Search α) := ⟨a, rfl⟩

theorem answers_bind_iff {x : Search α} {f : α → Search β} :
    Answers memory (x >>= f) ↔ ∃ a, x.run.answer memory = some a ∧ Answers memory (f a) := by
  unfold Answers
  simp only [answer_search_bind, Option.bind_eq_some_iff]
  constructor
  · intro ⟨b, a, hFirst, hRest⟩
    exact ⟨a, hFirst, b, hRest⟩
  · intro ⟨a, hFirst, b, hRest⟩
    exact ⟨b, a, hFirst, hRest⟩

theorem answers_lift_bind_iff {p : Read α} {f : α → Search β} :
    Answers memory ((liftM p : Search α) >>= f) ↔ Answers memory (f (p.answer memory)) := by
  rw [answers_bind_iff, answer_search_lift]
  simp

/-- A sequence answers when its first part does and the rest always does. -/
theorem answers_bind {x : Search α} {f : α → Search β} (hFirst : Answers memory x)
    (hRest : ∀ a, Answers memory (f a)) : Answers memory (x >>= f) := by
  obtain ⟨a, ha⟩ := hFirst
  exact answers_bind_iff.mpr ⟨a, ha, hRest a⟩

end Inside

def le16 (value : Nat) : List UInt8 := [value.toUInt8, (value / 0x100).toUInt8]

def le32 (value : Nat) : List UInt8 := le16 value ++ le16 (value / 0x10000)

/-- The bytes lie in memory from an offset on. -/
def Stored (memory : Memory) (offset : Nat) (bytes : List UInt8) : Prop :=
  ∀ i (h : i < bytes.length), memory (offset + i) = bytes[i]

section Stored

variable {memory : Memory} {offset : Nat}

theorem stored_cons_iff {byte : UInt8} {bytes : List UInt8} :
    Stored memory offset (byte :: bytes) ↔
      memory offset = byte ∧ Stored memory (offset + 1) bytes := by
  constructor
  · intro h
    refine ⟨h 0 (Nat.succ_pos _), fun i hi => ?_⟩
    rw [Nat.add_assoc, Nat.add_comm 1 i]
    exact h (i + 1) (Nat.succ_lt_succ hi)
  · intro ⟨hFirst, hRest⟩ i hi
    cases i with
    | zero => exact hFirst
    | succ i =>
        have := hRest i (Nat.lt_of_succ_lt_succ hi)
        rwa [Nat.add_assoc, Nat.add_comm 1 i] at this

theorem stored_append_iff {first second : List UInt8} :
    Stored memory offset (first ++ second) ↔
      Stored memory offset first ∧ Stored memory (offset + first.length) second := by
  induction first generalizing offset with
  | nil => simp [Stored]
  | cons byte rest ih =>
      rw [List.cons_append, stored_cons_iff, stored_cons_iff, ih, and_assoc, List.length_cons]
      rw [Nat.add_assoc, Nat.add_comm 1]

/-- Parts of one length lie behind each other. -/
theorem stored_flatMap_iff {count size : Nat} {parts : Nat → List UInt8}
    (hSize : ∀ i, (parts i).length = size) :
    Stored memory offset ((List.range count).flatMap parts) ↔
      ∀ i < count, Stored memory (offset + size * i) (parts i) := by
  induction count with
  | zero => simp [Stored]
  | succ count ih =>
      have hLength : ((List.range count).flatMap parts).length = size * count := by
        simp [List.length_flatMap, hSize, List.map_const', Nat.mul_comm]
      rw [List.range_succ, List.flatMap_append, stored_append_iff, ih, hLength, List.flatMap_cons,
        List.flatMap_nil, List.append_nil, Nat.forall_lt_succ_right]

/-- Reading stored bytes returns them. -/
theorem answer_readBytes_of_stored {bytes : List UInt8} (h : Stored memory offset bytes) :
    (readBytes offset bytes.length).answer memory = bytes := by
  rw [answer_readBytes]
  apply List.ext_getElem (by simp)
  intro i _ hi
  rw [List.getElem_map, List.getElem_range]
  exact h i hi

theorem u16_of_stored {value : Nat} (h : Stored memory offset (le16 value)) :
    u16 memory offset = value % 2 ^ 16 := by
  obtain ⟨hLow, hRest⟩ := stored_cons_iff.mp h
  obtain ⟨hHigh, -⟩ := stored_cons_iff.mp hRest
  unfold u16 u8
  rw [hLow, hHigh]
  simp only [Nat.toUInt8_eq, UInt8.toNat_ofNat']
  omega

theorem u32_of_stored {value : Nat} (h : Stored memory offset (le32 value)) :
    u32 memory offset = value % 2 ^ 32 := by
  obtain ⟨hLow, hHigh⟩ := stored_append_iff.mp h
  have hFirst := u16_of_stored hLow
  have hSecond : u16 memory (offset + 2) = value / 0x10000 % 2 ^ 16 := u16_of_stored hHigh
  unfold u32
  omega

/-- Parts laid behind each other, in the order of a list. -/
theorem stored_flatMap {α : Type} {parts : α → List UInt8} {done rest : List α} {a : α}
    (h : Stored memory offset ((done ++ a :: rest).flatMap parts)) :
    Stored memory (offset + (done.map fun a => (parts a).length).sum) (parts a) := by
  rw [List.flatMap_append, stored_append_iff, List.flatMap_cons, stored_append_iff,
    List.length_flatMap] at h
  exact h.2.1

/-- What a copy of some bytes leaves. -/
def copy (memory : Memory) (offset : Nat) (bytes : List UInt8) : Memory := fun at' =>
  if offset ≤ at' then bytes[at' - offset]?.getD (memory at') else memory at'

theorem stored_copy (memory : Memory) (offset : Nat) (bytes : List UInt8) :
    Stored (copy memory offset bytes) offset bytes := by
  intro i hi
  unfold copy
  rw [if_pos (Nat.le_add_right offset i), Nat.add_sub_cancel_left, List.getElem?_eq_getElem hi]
  rfl

/-- A copy beside stored bytes leaves them. -/
theorem Stored.copy {bytes other : List UInt8} {start : Nat} (h : Stored memory offset bytes)
    (hApart : offset + bytes.length ≤ start ∨ start + other.length ≤ offset) :
    Stored (copy memory start other) offset bytes := by
  intro i hi
  rw [← h i hi]
  unfold Bytes.copy
  split
  · rw [List.getElem?_eq_none (by omega)]
    rfl
  · rfl

end Stored

/-- What is left after `size` bytes from the start of another memory are copied. -/
def move (memory : Memory) (offset : Nat) (source : Memory) (size : Nat) : Memory := fun at' =>
  if offset ≤ at' ∧ at' < offset + size then source (at' - offset) else memory at'

/-- A stretch of memory is the same as the start of another one. -/
def Matches (memory : Memory) (offset : Nat) (source : Memory) (size : Nat) : Prop :=
  ∀ i < size, memory (offset + i) = source i

section Move

variable {memory source other : Memory} {offset start size count : Nat}

theorem matches_move (memory : Memory) (offset : Nat) (source : Memory) (size : Nat) :
    Matches (move memory offset source size) offset source size := by
  intro i hi
  unfold move
  rw [if_pos (by omega), Nat.add_sub_cancel_left]

/-- A copy leaves what is beside it. -/
theorem move_of_outside {at' : Nat} (h : at' < offset ∨ offset + size ≤ at') :
    move memory offset source size at' = memory at' := by
  unfold move
  exact if_neg (by omega)

theorem Matches.move (h : Matches memory offset source size)
    (hApart : offset + size ≤ start ∨ start + count ≤ offset) :
    Matches (move memory start other count) offset source size := by
  intro i hi
  rw [move_of_outside (by omega)]
  exact h i hi

/-- A copy of what is there changes nothing. -/
theorem Matches.move_self (h : Matches memory offset source size) :
    Bytes.move memory offset source size = memory := by
  funext at'
  unfold Bytes.move
  split
  · next hIn => rw [← h (at' - offset) (by omega), Nat.add_sub_of_le hIn.1]
  · rfl

theorem Matches.stored {bytes : List UInt8} (h : Matches memory offset source size)
    (hStored : Stored source 0 bytes) (hLe : bytes.length ≤ size) : Stored memory offset bytes := by
  intro i hi
  rw [h i (Nat.lt_of_lt_of_le hi hLe), ← hStored i hi, Nat.zero_add]

end Move

end Bytes
