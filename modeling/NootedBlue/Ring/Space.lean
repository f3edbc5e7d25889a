import NootedBlue.Semantics.Circular
import NootedBlue.Semantics.Run

/-! The space of a ring. The driver reserves bytes at its own position and keeps a
count of the free ones, which it computes from the head that the hardware shows. -/
namespace NootedBlue.Ring

abbrev Word := BitVec 32

/-- `RING_HEAD_MASK`. -/
def ringHeadMask : Word := 0x1ffffc

/-- What does not change of a ring: its size is a power of two. -/
structure RingShape where
  order : Nat
  effectiveSize : Word
  order_ge : 4 ≤ order
  order_lt : order < 32
  effective_le : effectiveSize.toNat ≤ 2 ^ order

namespace RingShape

/-- The size as a number, and `RING_SIZE`. -/
def bytes (shape : RingShape) : Nat := 2 ^ shape.order
def size (shape : RingShape) : Word := .ofNat 32 shape.bytes

end RingShape

/-- `RING_HEAD`, `RING_EMIT` and `RING_SPACE`, and the position of the hardware, which
is in the register at `RING_HEAD_REG`. -/
structure RingState where
  ringHead : Word
  emit : Word
  space : Word
  head : Word
  deriving DecidableEq, Repr

/-- The number of bytes that the hardware has not consumed, and where they are. -/
def unconsumed (shape : RingShape) (state : RingState) : Nat :=
  Circular.distance shape.bytes state.head.toNat state.emit.toNat

/-- The hardware goes on, but not past the position of the driver. -/
def advance (shape : RingShape) (k : Nat) (state : RingState) : RingState :=
  { state with
    head := .ofNat 32 ((state.head.toNat + min k (unconsumed shape state)) % shape.bytes) }

/-- The space for a head. It is computed with a sign. -/
def spaceFor (shape : RingShape) (emit head : Word) : Word :=
  let space := head - emit - 8
  if space.toInt < 0 then space + shape.size else space

/-- One reading of the head. -/
def refresh (shape : RingShape) (state : RingState) : Option RingState :=
  let head := state.head &&& ringHeadMask
  if head < shape.size then
    let head := head &&& (shape.size - 1)
    some { state with ringHead := head, space := spaceFor shape state.emit head }
  else none

/-- `linux_wait_for_space`. Before each reading the hardware can go on; after the last
one the time is over. -/
def linuxWaitForSpace (shape : RingShape) (totalBytes : Word) :
    List Nat → RingState → Bool × RingState
  | [], state => (false, state)
  | poll :: rest, state =>
      let state := advance shape poll state
      match refresh shape state with
      | some state =>
          if state.space ≥ totalBytes then (true, state)
          else linuxWaitForSpace shape totalBytes rest state
      | none => linuxWaitForSpace shape totalBytes rest state

/-- What a call returns, the ranges it sets to zero, and the state after it. -/
structure Outcome where
  value : BitVec 64
  zeroed : List (Word × Word)
  state : RingState
  deriving DecidableEq, Repr

/-- The value for a number of dwords that were reserved. -/
def granted (numDwords : Word) : BitVec 64 := numDwords.setWidth 64 <<< 8 ||| 1

/-- The last part of `waitForSpace`. -/
def reserve (shape : RingShape) (numDwords bytes : Word) (zeroed : List (Word × Word))
    (state : RingState) : Outcome :=
  if state.space < bytes ∨ state.emit > shape.size - bytes then ⟨0, zeroed, state⟩
  else
    ⟨granted numDwords, zeroed ++ [(state.emit, bytes)],
      { state with emit := state.emit + bytes, space := state.space - bytes }⟩

/-- The part of `waitForSpace` after it has waited. -/
def fillAndReserve (shape : RingShape) (numDwords bytes needWrap : Word) (state : RingState) :
    Outcome :=
  if needWrap ≠ 0 then
    let wrapBytes := needWrap &&& ~~~3
    if wrapBytes > state.space then ⟨0, [], state⟩
    else
      reserve shape numDwords bytes [(state.emit, wrapBytes)]
        { state with space := state.space - wrapBytes, emit := 0 }
  else reserve shape numDwords bytes [] state

/-- The reservation does not fit before the effective end. -/
def Wraps (shape : RingShape) (state : RingState) (bytes : Word) : Prop :=
  bytes > shape.effectiveSize - state.emit

instance (shape : RingShape) (state : RingState) (bytes : Word) :
    Decidable (Wraps shape state bytes) := inferInstanceAs (Decidable (_ > _))

/-- `total_bytes`, with the filler in front. -/
def totalBytes (shape : RingShape) (state : RingState) (bytes : Word) : Word :=
  if Wraps shape state bytes then bytes + (shape.size - state.emit) else bytes

/-- `need_wrap`. -/
def needWrap (shape : RingShape) (state : RingState) (bytes : Word) : Word :=
  if Wraps shape state bytes then shape.size - state.emit else 0

/-- The part of `waitForSpace` that waits, if the known space is not enough. -/
def wait (shape : RingShape) (total : Word) (polls : List Nat) (state : RingState) :
    Bool × RingState :=
  if total > state.space then linuxWaitForSpace shape total polls state else (true, state)

/-- `waitForSpace`, with the readings of the head if it has to wait. -/
def waitForSpace (shape : RingShape) (numDwords : Word) (polls : List Nat) (state : RingState) :
    Outcome :=
  let bytes := numDwords * 4
  if shape.size - 8 < bytes then ⟨0, [], state⟩
  else
    let waited := wait shape (totalBytes shape state bytes) polls state
    if waited.1 then
      fillAndReserve shape numDwords bytes (needWrap shape state bytes) waited.2
    else ⟨0, [], waited.2⟩

/-- The hardware goes on, or a call is made, in which the head is read at least once if
it has to wait. -/
inductive RingEvent where
  | advance (k : Nat)
  | call (numDwords : Word) (first : Nat) (later : List Nat)
  deriving DecidableEq, Repr

def ringStep (shape : RingShape) (state : RingState) : RingEvent → RingState
  | .advance k => advance shape k state
  | .call numDwords first later => (waitForSpace shape numDwords (first :: later) state).state

section Shape

variable (shape : RingShape)

theorem bytes_ge : 16 ≤ shape.bytes :=
  Nat.pow_le_pow_right (show 0 < 2 by decide) shape.order_ge

theorem bytes_le : shape.bytes ≤ 2 ^ 31 :=
  Nat.pow_le_pow_right (show 0 < 2 by decide) (Nat.le_of_lt_succ shape.order_lt)

theorem four_dvd_bytes : 4 ∣ shape.bytes :=
  Nat.pow_dvd_pow 2 (Nat.le_trans (show 2 ≤ 4 by decide) shape.order_ge)

theorem size_toNat : shape.size.toNat = shape.bytes := by
  have hLe := bytes_le shape
  rw [RingShape.size, BitVec.toNat_ofNat]
  exact Nat.mod_eq_of_lt (by omega)

end Shape

section Head

/-- The mask leaves the dwords of the first two megabytes. -/
theorem masked_toNat (head : Word) :
    (head &&& ringHeadMask).toNat = head.toNat % 2 ^ 21 / 4 * 4 := by
  have hMask : ringHeadMask.toNat = (2 ^ 19 - 1) * 2 ^ 2 := by decide
  have hFour : (4 : Nat) = 2 ^ 2 := rfl
  rw [BitVec.toNat_and, hMask, hFour]
  apply Nat.eq_of_testBit_eq
  intro i
  rw [Nat.testBit_and, Nat.testBit_mul_two_pow, Nat.testBit_two_pow_sub_one,
    Nat.testBit_mul_two_pow, Nat.testBit_div_two_pow, Nat.testBit_mod_two_pow]
  by_cases hLow : 2 ≤ i
  · have hSame : i - 2 + 2 = i := by omega
    simp only [hLow, hSame, decide_true, Bool.true_and]
    rw [Bool.and_comm]
    congr 1
    simp
    omega
  · simp [hLow]

variable {shape : RingShape} {state : RingState}

@[simp] theorem advance_emit (k : Nat) : (advance shape k state).emit = state.emit := rfl
@[simp] theorem advance_space (k : Nat) : (advance shape k state).space = state.space := rfl

theorem advance_head_toNat (k : Nat) :
    (advance shape k state).head.toNat =
      (state.head.toNat + min k (unconsumed shape state)) % shape.bytes := by
  have hLe := bytes_le shape
  have hGe := bytes_ge shape
  have hLt := Nat.mod_lt (state.head.toNat + min k (unconsumed shape state))
    (show 0 < shape.bytes by omega)
  rw [advance, BitVec.toNat_ofNat]
  exact Nat.mod_eq_of_lt (by omega)

theorem advance_head_lt (k : Nat) : (advance shape k state).head.toNat < shape.bytes := by
  have hGe := bytes_ge shape
  rw [advance_head_toNat]
  exact Nat.mod_lt _ (by omega)

theorem unconsumed_advance (hHead : state.head.toNat < shape.bytes) (k : Nat) :
    unconsumed shape (advance shape k state) =
      unconsumed shape state - min k (unconsumed shape state) := by
  rw [unconsumed, advance_head_toNat, advance_emit]
  exact Circular.distance_advance hHead (Nat.min_le_right _ _)

/-- Where everything is consumed, the hardware stays. -/
theorem advance_of_empty (hHead : state.head.toNat < shape.bytes)
    (hEmpty : unconsumed shape state = 0) (k : Nat) : advance shape k state = state := by
  have hMod : state.head.toNat % shape.bytes = state.head.toNat := Nat.mod_eq_of_lt hHead
  rw [advance, hEmpty, Nat.min_zero, Nat.add_zero, hMod, BitVec.ofNat_toNat,
    BitVec.setWidth_eq]

/-- A head that is inside of the ring is taken as it is. -/
theorem refresh_of_lt (hHead : (state.head &&& ringHeadMask).toNat < shape.bytes) :
    refresh shape state = some { state with
      ringHead := state.head &&& ringHeadMask
      space := spaceFor shape state.emit (state.head &&& ringHeadMask) } := by
  have hGe := bytes_ge shape
  have hSize := size_toNat shape
  have hLt : state.head &&& ringHeadMask < shape.size := by
    rw [BitVec.lt_def, hSize]
    exact hHead
  have hMinus : (shape.size - 1).toNat = 2 ^ shape.order - 1 := by
    rw [← RingShape.bytes]
    have hOne : (1 : Word).toNat = 1 := rfl
    rw [BitVec.toNat_sub_of_le (BitVec.le_def.mpr (by rw [hSize, hOne]; omega)), hSize, hOne]
  have hSame : state.head &&& ringHeadMask &&& (shape.size - 1) = state.head &&& ringHeadMask := by
    apply BitVec.eq_of_toNat_eq
    rw [BitVec.toNat_and, hMinus, Nat.and_two_pow_sub_one_eq_mod]
    exact Nat.mod_eq_of_lt hHead
  simp only [refresh, hLt, if_true, hSame]

theorem masked_le (head : Word) : (head &&& ringHeadMask).toNat ≤ head.toNat := by
  rw [masked_toNat]
  omega

end Head

section Space

variable {shape : RingShape} {emit head : Word}

/-- The space behind a head that is not before the position. -/
theorem spaceFor_of_le (hLe : head.toNat ≤ emit.toNat)
    (hRoom : emit.toNat - head.toNat + 8 ≤ shape.bytes) :
    (spaceFor shape emit head).toNat = shape.bytes - (emit.toNat - head.toNat) - 8 := by
  have hBytes := bytes_le shape
  have hSize := size_toNat shape
  have hEight : (8 : Word).toNat = 8 := rfl
  have hRaw : (head - emit - 8).toNat = 2 ^ 32 - (emit.toNat - head.toNat + 8) := by
    rw [BitVec.toNat_sub, BitVec.toNat_sub, hEight]
    omega
  have hNegative : (head - emit - 8).toInt < 0 := by
    rw [BitVec.toInt_eq_toNat_cond, hRaw]
    split
    · omega
    · omega
  rw [spaceFor]
  simp only [hNegative, if_true]
  rw [BitVec.toNat_add, hRaw, hSize]
  omega

/-- The space up to a head that is further on. -/
theorem spaceFor_of_ge (hGe : emit.toNat + 8 ≤ head.toNat) (hHead : head.toNat < shape.bytes) :
    (spaceFor shape emit head).toNat = head.toNat - emit.toNat - 8 := by
  have hBytes := bytes_le shape
  have hEight : (8 : Word).toNat = 8 := rfl
  have hRaw : (head - emit - 8).toNat = head.toNat - emit.toNat - 8 := by
    rw [BitVec.toNat_sub, BitVec.toNat_sub, hEight]
    omega
  have hPositive : ¬ (head - emit - 8).toInt < 0 := by
    rw [BitVec.toInt_eq_toNat_cond, hRaw]
    split
    · omega
    · omega
  rw [spaceFor]
  simp only [hPositive, if_false]
  exact hRaw

end Space

section Wait

variable {shape : RingShape} {total : Word}

/-- What the hardware and a reading keep, waiting keeps. -/
theorem linuxWaitForSpace_invariant (property : RingState → Prop)
    (hAdvance : ∀ state k, property state → property (advance shape k state))
    (hRefresh : ∀ state after, property state → refresh shape state = some after → property after)
    {polls : List Nat} {state : RingState} (hStart : property state) :
    property (linuxWaitForSpace shape total polls state).2 := by
  induction polls generalizing state with
  | nil => exact hStart
  | cons poll rest ih =>
      have hMoved := hAdvance state poll hStart
      rw [linuxWaitForSpace]
      split
      next after hRead =>
        have hAfter := hRefresh _ after hMoved hRead
        split
        · exact hAfter
        · exact ih hAfter
      next => exact ih hMoved

theorem linuxWaitForSpace_space {polls : List Nat} {state : RingState}
    (hTrue : (linuxWaitForSpace shape total polls state).1 = true) :
    total ≤ (linuxWaitForSpace shape total polls state).2.space := by
  induction polls generalizing state with
  | nil => cases hTrue
  | cons poll rest ih =>
      rw [linuxWaitForSpace] at hTrue ⊢
      split at hTrue
      next after hRead =>
        split at hTrue
        next hEnough => simp only [hEnough, if_true]
        next hNot =>
          simp only [hNot, if_false]
          exact ih hTrue
      next hRead => exact ih hTrue

theorem refresh_eq_some {state after : RingState} (h : refresh shape state = some after) :
    after.emit = state.emit ∧ after.head = state.head ∧
      (state.head &&& ringHeadMask).toNat < shape.bytes ∧
      after.space = spaceFor shape state.emit (state.head &&& ringHeadMask) := by
  by_cases hHead : (state.head &&& ringHeadMask).toNat < shape.bytes
  · rw [refresh_of_lt hHead] at h
    cases h
    exact ⟨rfl, rfl, hHead, rfl⟩
  · have hNot : ¬ state.head &&& ringHeadMask < shape.size := by
      rw [BitVec.lt_def, size_toNat]
      exact hHead
    rw [refresh] at h
    simp only [hNot, if_false] at h
    cases h

theorem wait_invariant (property : RingState → Prop)
    (hAdvance : ∀ state k, property state → property (advance shape k state))
    (hRefresh : ∀ state after, property state → refresh shape state = some after → property after)
    {polls : List Nat} {state : RingState} (hStart : property state) :
    property (wait shape total polls state).2 := by
  rw [wait]
  split
  · exact linuxWaitForSpace_invariant property hAdvance hRefresh hStart
  · exact hStart

theorem wait_space (shape : RingShape) (total : Word) (polls : List Nat) (state : RingState)
    (hTrue : (wait shape total polls state).1 = true) :
    total ≤ (wait shape total polls state).2.space := by
  rw [wait] at hTrue ⊢
  by_cases hMore : total > state.space
  · rw [if_pos hMore] at hTrue ⊢
    exact linuxWaitForSpace_space hTrue
  · rw [if_neg hMore]
    exact BitVec.not_lt.mp hMore

/-- Waiting does not move the position. -/
theorem wait_emit (shape : RingShape) (total : Word) (polls : List Nat) (state : RingState) :
    (wait shape total polls state).2.emit = state.emit := by
  apply wait_invariant (fun after => after.emit = state.emit)
  · intro middle k h
    exact h
  · intro middle after h hRead
    rw [(refresh_eq_some hRead).1, h]
  · rfl

end Wait

end NootedBlue.Ring
