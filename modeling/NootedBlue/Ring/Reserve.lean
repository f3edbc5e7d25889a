import NootedBlue.Ring.Space

/-! What a reservation sets to zero. Between the position of the driver and the head
that it knows there are always eight bytes more than it counts as free. -/
namespace NootedBlue.Ring

open Transition

section Equation

variable {shape : RingShape} {state : RingState}

/-- A reservation at the position. -/
def straight (numDwords : Word) (state : RingState) : Outcome :=
  ⟨granted numDwords, [(state.emit, numDwords * 4)],
    { state with emit := state.emit + numDwords * 4, space := state.space - numDwords * 4 }⟩

/-- A reservation at the start, with a filler up to the end. -/
def wrapped (shape : RingShape) (numDwords : Word) (state : RingState) : Outcome :=
  ⟨granted numDwords, [(state.emit, shape.size - state.emit), (0, numDwords * 4)],
    { state with
      emit := 0 + numDwords * 4
      space := state.space - (shape.size - state.emit) - numDwords * 4 }⟩

theorem size_sub_toNat (hEmit : state.emit.toNat ≤ shape.bytes) :
    (shape.size - state.emit).toNat = shape.bytes - state.emit.toNat := by
  have hSize := size_toNat shape
  rw [BitVec.toNat_sub_of_le (BitVec.le_def.mpr (by omega)), hSize]

theorem reserve_eq {numDwords : Word} {zeroed : List (Word × Word)}
    (hBytes : (numDwords * 4).toNat ≤ shape.bytes)
    (hSpace : numDwords * 4 ≤ state.space) :
    reserve shape numDwords (numDwords * 4) zeroed state =
      if state.emit.toNat + (numDwords * 4).toNat ≤ shape.bytes then
        ⟨granted numDwords, zeroed ++ [(state.emit, numDwords * 4)],
          { state with
            emit := state.emit + numDwords * 4, space := state.space - numDwords * 4 }⟩
      else ⟨0, zeroed, state⟩ := by
  have hSize := size_toNat shape
  have hRest : (shape.size - numDwords * 4).toNat = shape.bytes - (numDwords * 4).toNat := by
    rw [BitVec.toNat_sub_of_le (BitVec.le_def.mpr (by omega)), hSize]
  have hEnough : ¬ state.space < numDwords * 4 := BitVec.not_lt.mpr hSpace
  by_cases hFits : state.emit.toNat + (numDwords * 4).toNat ≤ shape.bytes
  · have hBefore : ¬ state.emit > shape.size - numDwords * 4 := by
      rw [gt_iff_lt, BitVec.lt_def, hRest]
      omega
    rw [if_pos hFits, reserve, if_neg (not_or.mpr ⟨hEnough, hBefore⟩)]
  · have hPast : state.emit > shape.size - numDwords * 4 := by
      rw [gt_iff_lt, BitVec.lt_def, hRest]
      omega
    rw [if_neg hFits, reserve, if_pos (Or.inr hPast)]

/-- The filler is a multiple of four anyway. -/
theorem wrapBytes_eq {word : Word} (h : 4 ∣ word.toNat) : word &&& ~~~3 = word := by
  obtain ⟨k, hK⟩ := h
  apply BitVec.eq_of_getLsbD_eq
  intro i hi
  have hThree : (3 : Word).getLsbD i = decide (i < 2) := Nat.testBit_two_pow_sub_one 2 i
  rw [BitVec.getLsbD_and, BitVec.getLsbD_not, hThree]
  by_cases hLow : i < 2
  · have hBit : word.getLsbD i = false := by
      rw [BitVec.getLsbD, hK, show (4 : Nat) = 2 ^ 2 from rfl, Nat.testBit_two_pow_mul]
      simp
      omega
    rw [hBit, Bool.false_and]
  · simp [hi, hLow]

/-- With nothing to fill, the reservation is at the position or nowhere. -/
theorem fillAndReserve_zero {numDwords : Word}
    (hBytes : (numDwords * 4).toNat ≤ shape.bytes) (hSpace : numDwords * 4 ≤ state.space) :
    fillAndReserve shape numDwords (numDwords * 4) 0 state =
      if state.emit.toNat + (numDwords * 4).toNat ≤ shape.bytes then straight numDwords state
      else ⟨0, [], state⟩ := by
  rw [fillAndReserve, if_neg (not_not.mpr rfl), reserve_eq hBytes hSpace]
  rfl

/-- With a filler that fits together with it, the reservation is at the start. -/
theorem fillAndReserve_wrap {numDwords : Word} (hFour : 4 ∣ state.emit.toNat)
    (hEmit : state.emit.toNat < shape.bytes)
    (hSpace : (numDwords * 4).toNat + (shape.bytes - state.emit.toNat) ≤ state.space.toNat)
    (hBytes : (numDwords * 4).toNat ≤ shape.bytes) :
    fillAndReserve shape numDwords (numDwords * 4) (shape.size - state.emit) state =
      wrapped shape numDwords state := by
  have hFill := size_sub_toNat (Nat.le_of_lt hEmit)
  have hSome : shape.size - state.emit ≠ 0 := by
    intro hZero
    rw [hZero] at hFill
    have hNone : (0 : Word).toNat = 0 := rfl
    omega
  have hAligned : (shape.size - state.emit) &&& ~~~3 = shape.size - state.emit := by
    apply wrapBytes_eq
    rw [hFill]
    exact Nat.dvd_sub (four_dvd_bytes shape) hFour
  have hEnough : ¬ shape.size - state.emit > state.space := by
    rw [gt_iff_lt, BitVec.lt_def, hFill]
    omega
  have hLeft : numDwords * 4 ≤ state.space - (shape.size - state.emit) := by
    rw [BitVec.le_def, BitVec.toNat_sub_of_le (BitVec.not_lt.mp hEnough), hFill]
    omega
  have hStart : (0 : Word).toNat + (numDwords * 4).toNat ≤ shape.bytes := by
    have hNone : (0 : Word).toNat = 0 := rfl
    omega
  rw [fillAndReserve, if_pos hSome]
  simp only [hAligned, if_neg hEnough]
  rw [reserve_eq hBytes hLeft, if_pos hStart]
  rfl

theorem totalBytes_toNat (hEmit : state.emit.toNat ≤ shape.bytes) {bytes : Word}
    (hBytes : bytes.toNat + 8 ≤ shape.bytes) :
    (totalBytes shape state bytes).toNat =
      if Wraps shape state bytes then bytes.toNat + (shape.bytes - state.emit.toNat)
      else bytes.toNat := by
  have hLe := bytes_le shape
  rw [totalBytes]
  split
  · rw [BitVec.toNat_add, size_sub_toNat hEmit]
    exact Nat.mod_eq_of_lt (by omega)
  · rfl

/-- A call that is too large for the ring does nothing. -/
theorem waitForSpace_of_large {numDwords : Word}
    (hLarge : shape.bytes < (numDwords * 4).toNat + 8) (polls : List Nat) :
    waitForSpace shape numDwords polls state = ⟨0, [], state⟩ := by
  have hSize := size_toNat shape
  have hGe := bytes_ge shape
  have hEight : (8 : Word).toNat = 8 := rfl
  apply if_pos
  rw [BitVec.lt_def, BitVec.toNat_sub_of_le (BitVec.le_def.mpr (by omega)), hSize, hEight]
  omega

/-- What a call does that is not too large for the ring. -/
theorem waitForSpace_eq (hEmit : state.emit.toNat ≤ shape.bytes) (hFour : 4 ∣ state.emit.toNat)
    {numDwords : Word} (hBytes : (numDwords * 4).toNat + 8 ≤ shape.bytes) (polls : List Nat) :
    waitForSpace shape numDwords polls state =
      let waited := wait shape (totalBytes shape state (numDwords * 4)) polls state
      if waited.1 then
        if Wraps shape state (numDwords * 4) ∧ state.emit.toNat < shape.bytes then
          wrapped shape numDwords waited.2
        else if state.emit.toNat + (numDwords * 4).toNat ≤ shape.bytes then
          straight numDwords waited.2
        else ⟨0, [], waited.2⟩
      else ⟨0, [], waited.2⟩ := by
  have hSize := size_toNat shape
  have hEight : (8 : Word).toNat = 8 := rfl
  have hSmall : ¬ shape.size - 8 < numDwords * 4 := by
    rw [BitVec.lt_def, BitVec.toNat_sub_of_le (BitVec.le_def.mpr (by omega)), hSize, hEight]
    omega
  rw [waitForSpace]
  simp only [hSmall, if_false]
  split
  next hWaited =>
    have hSpace := wait_space _ _ _ _ hWaited
    have hTotal := totalBytes_toNat hEmit hBytes
    have hMid := wait_emit shape (totalBytes shape state (numDwords * 4)) polls state
    generalize (wait shape (totalBytes shape state (numDwords * 4)) polls state).2 = mid at *
    rw [BitVec.le_def, hTotal] at hSpace
    have hBytesSpace : numDwords * 4 ≤ mid.space := by
      rw [BitVec.le_def]
      split at hSpace
      · omega
      · exact hSpace
    by_cases hWraps : Wraps shape state (numDwords * 4)
    · rw [if_pos hWraps, ← hMid] at hSpace
      by_cases hEnd : state.emit.toNat < shape.bytes
      · rw [if_pos ⟨hWraps, hEnd⟩, needWrap, if_pos hWraps, ← hMid]
        exact fillAndReserve_wrap (hMid ▸ hFour) (hMid ▸ hEnd) hSpace (by omega)
      · have hNone : needWrap shape state (numDwords * 4) = 0 := by
          apply BitVec.eq_of_toNat_eq
          rw [needWrap, if_pos hWraps, size_sub_toNat hEmit]
          exact Nat.sub_eq_zero_of_le (Nat.not_lt.mp hEnd)
        rw [if_neg fun h => hEnd h.2, hNone, fillAndReserve_zero (by omega) hBytesSpace, hMid]
    · have hNone : needWrap shape state (numDwords * 4) = 0 := if_neg hWraps
      rw [if_neg fun h => hWraps h.1, hNone, fillAndReserve_zero (by omega) hBytesSpace, hMid]
  next hNot => rfl

/-- The wait of a call, for its bytes and a filler. -/
def waited (shape : RingShape) (numDwords : Word) (polls : List Nat) (state : RingState) :
    Bool × RingState :=
  wait shape (totalBytes shape state (numDwords * 4)) polls state

theorem waited_emit (numDwords : Word) (polls : List Nat) :
    (waited shape numDwords polls state).2.emit = state.emit := wait_emit ..

/-- What a call can come to. It is too large for the ring, it waits in vain, or it has
waited and then reserves at the start, at the position or nowhere. -/
inductive CallEnds (shape : RingShape) (state : RingState) (numDwords : Word) (polls : List Nat) :
    Outcome → Prop where
  | large (hLarge : shape.bytes < (numDwords * 4).toNat + 8) :
      CallEnds shape state numDwords polls ⟨0, [], state⟩
  | timeout (hSmall : (numDwords * 4).toNat + 8 ≤ shape.bytes)
      (hWaited : (waited shape numDwords polls state).1 = false) :
      CallEnds shape state numDwords polls ⟨0, [], (waited shape numDwords polls state).2⟩
  | start (hSmall : (numDwords * 4).toNat + 8 ≤ shape.bytes)
      (hWaited : (waited shape numDwords polls state).1 = true)
      (hWraps : Wraps shape state (numDwords * 4)) (hEnd : state.emit.toNat < shape.bytes) :
      CallEnds shape state numDwords polls
        (wrapped shape numDwords (waited shape numDwords polls state).2)
  | position (hSmall : (numDwords * 4).toNat + 8 ≤ shape.bytes)
      (hWaited : (waited shape numDwords polls state).1 = true)
      (hStraight : ¬ (Wraps shape state (numDwords * 4) ∧ state.emit.toNat < shape.bytes))
      (hFits : state.emit.toNat + (numDwords * 4).toNat ≤ shape.bytes) :
      CallEnds shape state numDwords polls
        (straight numDwords (waited shape numDwords polls state).2)
  | nowhere (hSmall : (numDwords * 4).toNat + 8 ≤ shape.bytes)
      (hStraight : ¬ (Wraps shape state (numDwords * 4) ∧ state.emit.toNat < shape.bytes))
      (hPast : ¬ state.emit.toNat + (numDwords * 4).toNat ≤ shape.bytes) :
      CallEnds shape state numDwords polls ⟨0, [], (waited shape numDwords polls state).2⟩

theorem waitForSpace_ends (hEmit : state.emit.toNat ≤ shape.bytes) (hFour : 4 ∣ state.emit.toNat)
    (numDwords : Word) (polls : List Nat) :
    CallEnds shape state numDwords polls (waitForSpace shape numDwords polls state) := by
  by_cases hSmall : (numDwords * 4).toNat + 8 ≤ shape.bytes
  · rw [waitForSpace_eq hEmit hFour hSmall, ← waited]
    simp only
    split
    next hWaited =>
      split
      next hWraps => exact .start hSmall hWaited hWraps.1 hWraps.2
      next hStraight =>
        split
        next hFits => exact .position hSmall hWaited hStraight hFits
        next hPast => exact .nowhere hSmall hStraight hPast
    next hWaited => exact .timeout hSmall (Bool.eq_false_iff.mpr hWaited)
  · have hLarge := Nat.lt_of_not_le hSmall
    rw [waitForSpace_of_large hLarge]
    exact .large hLarge

/-- A wait that ends well has found the bytes, and a filler where the call wraps. -/
theorem waited_space {numDwords : Word} {polls : List Nat}
    (hEmit : state.emit.toNat ≤ shape.bytes) (hSmall : (numDwords * 4).toNat + 8 ≤ shape.bytes)
    (hWaited : (waited shape numDwords polls state).1 = true) :
    (if Wraps shape state (numDwords * 4) then
        (numDwords * 4).toNat + (shape.bytes - state.emit.toNat)
      else (numDwords * 4).toNat) ≤ (waited shape numDwords polls state).2.space.toNat := by
  rw [← totalBytes_toNat hEmit hSmall]
  exact BitVec.le_def.mp (wait_space _ _ _ _ hWaited)

end Equation

section Gap

/-- The position is a dword of the ring or its end, the hardware is inside of the ring,
and between the free bytes that are counted and the head there are eight more. At the end
of the ring nothing is reserved any more, so what is counted there does not matter. -/
structure Gap (shape : RingShape) (state : RingState) : Prop where
  emit_le : state.emit.toNat ≤ shape.bytes
  emit_dvd : 4 ∣ state.emit.toNat
  head_lt : state.head.toNat < shape.bytes
  gap : state.emit.toNat < shape.bytes →
    unconsumed shape state + 8 + state.space.toNat ≤ shape.bytes

/-- All is consumed: the hardware is where the driver is. -/
structure Empty (shape : RingShape) (state : RingState) : Prop where
  emit_le : state.emit.toNat ≤ shape.bytes
  emit_dvd : 4 ∣ state.emit.toNat
  head_eq : state.head.toNat = state.emit.toNat % shape.bytes

variable {shape : RingShape} {state : RingState}

theorem Empty.head_lt (h : Empty shape state) : state.head.toNat < shape.bytes := by
  have hGe := bytes_ge shape
  rw [h.head_eq]
  exact Nat.mod_lt _ (by omega)

theorem Empty.unconsumed_eq (h : Empty shape state) : unconsumed shape state = 0 := by
  have hGe := bytes_ge shape
  rw [unconsumed, h.head_eq]
  rcases Nat.lt_or_eq_of_le h.emit_le with hLt | hEq
  · rw [Nat.mod_eq_of_lt hLt, Circular.distance_of_le (Nat.le_refl _) (by omega), Nat.sub_self]
  · rw [hEq, Nat.mod_self, Circular.distance, Nat.sub_zero, Nat.add_mod_right, Nat.mod_self]

theorem Empty.gap (h : Empty shape state) (hSpace : state.space.toNat + 8 ≤ shape.bytes) :
    Gap shape state :=
  { emit_le := h.emit_le
    emit_dvd := h.emit_dvd
    head_lt := h.head_lt
    gap := fun _ => by
      rw [h.unconsumed_eq]
      omega }

theorem Gap.advance (h : Gap shape state) (k : Nat) : Gap shape (advance shape k state) :=
  { emit_le := h.emit_le
    emit_dvd := h.emit_dvd
    head_lt := advance_head_lt k
    gap := fun hEnd => by
      have hGap := h.gap hEnd
      rw [unconsumed_advance h.head_lt, advance_space]
      omega }

/-- A reading of the head keeps the gap, where the mask leaves all positions of the
ring. -/
theorem Gap.refresh (hOrder : shape.order ≤ 21) (h : Gap shape state) {after : RingState}
    (hRead : refresh shape state = some after) : Gap shape after := by
  obtain ⟨hEmit, hHead, hMasked, hSpace⟩ := refresh_eq_some hRead
  have hGap := h.gap
  have hLt := h.head_lt
  have hSame : unconsumed shape after = unconsumed shape state := by
    rw [unconsumed, unconsumed, hEmit, hHead]
  refine { emit_le := hEmit ▸ h.emit_le, emit_dvd := hEmit ▸ h.emit_dvd
           head_lt := hHead ▸ h.head_lt, gap := ?_ }
  intro hEnd
  rw [hEmit] at hEnd
  have hRoom := hGap hEnd
  rw [hSame, hSpace]
  have hTwo : shape.bytes ≤ 2 ^ 21 := Nat.pow_le_pow_right (by decide) hOrder
  have hR : (state.head &&& ringHeadMask).toNat = state.head.toNat / 4 * 4 := by
    rw [masked_toNat, Nat.mod_eq_of_lt (by omega)]
  obtain ⟨e, hE⟩ := h.emit_dvd
  obtain ⟨q, hQ⟩ := four_dvd_bytes shape
  rcases Nat.lt_or_ge state.emit.toNat state.head.toNat with hBehind | hBefore
  · have hDistance := Circular.distance_of_lt hBehind hLt
    rw [← unconsumed] at hDistance
    rw [spaceFor_of_ge (by omega) hMasked]
    omega
  · have hDistance : Circular.distance shape.bytes state.head.toNat state.emit.toNat =
        state.emit.toNat - state.head.toNat := Circular.distance_of_le hBefore (by omega)
    rw [← unconsumed] at hDistance
    rw [spaceFor_of_le (by omega) (by omega)]
    omega

theorem Gap.wait (hOrder : shape.order ≤ 21) (h : Gap shape state) (total : Word)
    (polls : List Nat) : Gap shape (wait shape total polls state).2 := by
  apply wait_invariant (Gap shape)
  · intro middle k hMiddle
    exact hMiddle.advance k
  · intro middle after hMiddle hRead
    exact hMiddle.refresh hOrder hRead
  · exact h

end Gap

section Safe

/-- The call returns 0, has not moved the position and has set nothing to zero. -/
structure Refuses (state : RingState) (out : Outcome) : Prop where
  value : out.value = 0
  zeroed : out.zeroed = []
  emit : out.state.emit = state.emit

/-- The call has reserved four bytes for each dword at a start, after a filler. -/
structure ReservesAt (numDwords start : Word) (filler : List (Word × Word)) (out : Outcome) :
    Prop where
  value : out.value = granted numDwords
  zeroed : ∃ bytes : Word, bytes.toNat = 4 * numDwords.toNat ∧
    out.zeroed = filler ++ [(start, bytes)]
  emit : out.state.emit.toNat = start.toNat + 4 * numDwords.toNat

/-- What a call has to do. The ranges that it sets to zero are apart from what is not
consumed when it does so. -/
structure SafeCall (shape : RingShape) (state : RingState) (numDwords : Word) (out : Outcome) :
    Prop where
  inside : ∀ range ∈ out.zeroed, range.1.toNat + range.2.toNat ≤ shape.bytes
  apart : ∀ range ∈ out.zeroed, ∀ x, range.1.toNat ≤ x → x < range.1.toNat + range.2.toNat →
    ¬ Circular.Between shape.bytes out.state.head.toNat state.emit.toNat x
  emit_le : out.state.emit.toNat ≤ shape.bytes
  emit_dvd : 4 ∣ out.state.emit.toNat
  result : numDwords.toNat < 2 ^ 30 →
    Refuses state out ∨ ReservesAt numDwords state.emit [] out ∨
      ReservesAt numDwords 0 [(state.emit, shape.size - state.emit)] out

/-- What a step has to do. -/
def SafeStep (shape : RingShape) (state : RingState) : RingEvent → Prop
  | .advance k => (advance shape k state).emit.toNat ≤ shape.bytes ∧
      4 ∣ (advance shape k state).emit.toNat
  | .call numDwords first later =>
      SafeCall shape state numDwords (waitForSpace shape numDwords (first :: later) state)

variable {shape : RingShape} {state : RingState} {numDwords : Word}

/-- A call that does nothing but wait is safe. -/
theorem safeCall_refused (h : Gap shape state) {after : RingState} (hEmit : after.emit = state.emit) :
    SafeCall shape state numDwords ⟨0, [], after⟩ :=
  { inside := fun _ hMem => absurd hMem List.not_mem_nil
    apart := fun _ hMem => absurd hMem List.not_mem_nil
    emit_le := hEmit ▸ h.emit_le
    emit_dvd := hEmit ▸ h.emit_dvd
    result := fun _ => Or.inl { value := rfl, zeroed := rfl, emit := hEmit } }

theorem bytes_toNat (h : numDwords.toNat < 2 ^ 30) : (numDwords * 4).toNat = 4 * numDwords.toNat := by
  have hFour : (4 : Word).toNat = 4 := rfl
  rw [BitVec.toNat_mul, hFour]
  omega

theorem four_dvd_bytes_toNat (numDwords : Word) : 4 ∣ (numDwords * 4).toNat := by
  have hFour : (4 : Word).toNat = 4 := rfl
  rw [BitVec.toNat_mul, hFour]
  omega

/-- What lies after the position, up to the head and less than the space. -/
theorem not_between_of_gap (h : Gap shape state) (hEnd : state.emit.toNat < shape.bytes) {n : Nat}
    (hRoom : n ≤ state.space.toNat) :
    ¬ Circular.Between shape.bytes state.head.toNat state.emit.toNat (state.emit.toNat + n) := by
  have hGap := h.gap hEnd
  rw [unconsumed] at hGap
  exact Circular.not_between_add h.head_lt (by omega)

theorem emit_add_toNat (state : RingState)
    (hFits : state.emit.toNat + (numDwords * 4).toNat ≤ shape.bytes) :
    (state.emit + numDwords * 4).toNat = state.emit.toNat + (numDwords * 4).toNat := by
  have hLe := bytes_le shape
  rw [BitVec.toNat_add]
  exact Nat.mod_eq_of_lt (by omega)

theorem straight_dvd (h : Gap shape state)
    (hFits : state.emit.toNat + (numDwords * 4).toNat ≤ shape.bytes) :
    4 ∣ (state.emit + numDwords * 4).toNat := by
  rw [emit_add_toNat state hFits]
  exact Nat.dvd_add h.emit_dvd (four_dvd_bytes_toNat numDwords)

theorem straight_safe (h : Gap shape state) (hSpace : (numDwords * 4).toNat ≤ state.space.toNat)
    (hFits : state.emit.toNat + (numDwords * 4).toNat ≤ shape.bytes) :
    SafeCall shape state numDwords (straight numDwords state) := by
  have hEmit := emit_add_toNat state hFits
  refine { inside := ?_, apart := ?_, emit_le := hEmit ▸ hFits, emit_dvd := straight_dvd h hFits
           result := ?_ }
  · intro range hMem
    rw [List.mem_singleton.mp hMem]
    exact hFits
  · intro range hMem x hLow hHigh
    have hRange := List.mem_singleton.mp hMem
    subst hRange
    change state.emit.toNat ≤ x at hLow
    change x < state.emit.toNat + (numDwords * 4).toNat at hHigh
    obtain ⟨n, rfl⟩ := Nat.exists_eq_add_of_le hLow
    exact not_between_of_gap h (by omega) (by omega)
  · intro hSmall
    refine Or.inr (Or.inl { value := rfl, zeroed := ⟨_, bytes_toNat hSmall, rfl⟩, emit := ?_ })
    rw [← bytes_toNat hSmall]
    exact hEmit

/-- What is reserved at the position was free, so the gap stays. -/
theorem straight_gap (h : Gap shape state) (hSpace : (numDwords * 4).toNat ≤ state.space.toNat)
    (hFits : state.emit.toNat + (numDwords * 4).toNat ≤ shape.bytes) :
    Gap shape (straight numDwords state).state := by
  have hEmit := emit_add_toNat state hFits
  refine { emit_le := hEmit ▸ hFits, emit_dvd := straight_dvd h hFits, head_lt := h.head_lt
           gap := ?_ }
  intro hEnd
  have hSpaceAfter : (state.space - numDwords * 4).toNat =
      state.space.toNat - (numDwords * 4).toNat :=
    BitVec.toNat_sub_of_le (BitVec.le_def.mpr hSpace)
  change (state.emit + numDwords * 4).toNat < shape.bytes at hEnd
  change Circular.distance shape.bytes state.head.toNat (state.emit + numDwords * 4).toNat + 8 +
    (state.space - numDwords * 4).toNat ≤ shape.bytes
  have hGap := h.gap (by omega)
  rw [unconsumed] at hGap
  rw [hEmit, hSpaceAfter, Circular.distance_add h.head_lt (by omega)]
  omega

/-- The start of the ring comes after its end. -/
theorem distance_from_start (h : Gap shape state) {n : Nat} :
    Circular.distance shape.bytes state.head.toNat n =
      Circular.distance shape.bytes state.head.toNat
        (state.emit.toNat + (shape.bytes - state.emit.toNat + n)) := by
  have hEmit := h.emit_le
  have hSplit : state.emit.toNat + (shape.bytes - state.emit.toNat + n) = shape.bytes + n := by
    omega
  rw [hSplit, Circular.distance_add_size h.head_lt]

theorem start_add_toNat (numDwords : Word) :
    (0 + numDwords * 4).toNat = (numDwords * 4).toNat :=
  congrArg BitVec.toNat (BitVec.zero_add _)

theorem start_dvd (numDwords : Word) : 4 ∣ (0 + numDwords * 4).toNat := by
  rw [start_add_toNat]
  exact four_dvd_bytes_toNat numDwords

theorem wrapped_safe (h : Gap shape state) (hEnd : state.emit.toNat < shape.bytes)
    (hSpace : (numDwords * 4).toNat + (shape.bytes - state.emit.toNat) ≤ state.space.toNat) :
    SafeCall shape state numDwords (wrapped shape numDwords state) := by
  have hGap := h.gap hEnd
  have hFill := size_sub_toNat h.emit_le
  have hZero : (0 : Word).toNat = 0 := rfl
  have hEmit := start_add_toNat numDwords
  refine { inside := ?_, apart := ?_, emit_le := ?_, emit_dvd := start_dvd numDwords, result := ?_ }
  · intro range hMem
    rcases List.mem_cons.mp hMem with rfl | hRest
    · show state.emit.toNat + (shape.size - state.emit).toNat ≤ shape.bytes
      omega
    · rw [List.mem_singleton.mp hRest]
      show (0 : Word).toNat + (numDwords * 4).toNat ≤ shape.bytes
      omega
  · intro range hMem x hLow hHigh
    rcases List.mem_cons.mp hMem with rfl | hRest
    · change state.emit.toNat ≤ x at hLow
      change x < state.emit.toNat + (shape.size - state.emit).toNat at hHigh
      obtain ⟨n, rfl⟩ := Nat.exists_eq_add_of_le hLow
      exact not_between_of_gap h hEnd (by omega)
    · have hRange := List.mem_singleton.mp hRest
      subst hRange
      change x < (0 : Word).toNat + (numDwords * 4).toNat at hHigh
      have hRoom : shape.bytes - state.emit.toNat + x ≤ state.space.toNat := by omega
      have hNot := not_between_of_gap h hEnd hRoom
      rw [Circular.Between, ← distance_from_start h] at hNot
      exact hNot
  · show (0 + numDwords * 4).toNat ≤ shape.bytes
    omega
  · intro hSmall
    refine Or.inr (Or.inr { value := rfl, zeroed := ⟨_, bytes_toNat hSmall, rfl⟩, emit := ?_ })
    rw [← bytes_toNat hSmall, hZero, Nat.zero_add]
    exact hEmit

/-- What is reserved at the start was free, and so was the filler. -/
theorem wrapped_gap (h : Gap shape state) (hEnd : state.emit.toNat < shape.bytes)
    (hSpace : (numDwords * 4).toNat + (shape.bytes - state.emit.toNat) ≤ state.space.toNat) :
    Gap shape (wrapped shape numDwords state).state := by
  have hGap := h.gap hEnd
  rw [unconsumed] at hGap
  have hFill := size_sub_toNat h.emit_le
  have hEmit := start_add_toNat numDwords
  refine { emit_le := ?_, emit_dvd := start_dvd numDwords, head_lt := h.head_lt, gap := ?_ }
  · show (0 + numDwords * 4).toNat ≤ shape.bytes
    omega
  · intro _
    have hLeft : (state.space - (shape.size - state.emit)).toNat =
        state.space.toNat - (shape.bytes - state.emit.toNat) := by
      rw [BitVec.toNat_sub_of_le (BitVec.le_def.mpr (by omega)), hFill]
    have hSpaceAfter : (state.space - (shape.size - state.emit) - numDwords * 4).toNat =
        state.space.toNat - (shape.bytes - state.emit.toNat) - (numDwords * 4).toNat := by
      rw [BitVec.toNat_sub_of_le (BitVec.le_def.mpr (by omega)), hLeft]
    show Circular.distance shape.bytes state.head.toNat (0 + numDwords * 4).toNat + 8 +
      (state.space - (shape.size - state.emit) - numDwords * 4).toNat ≤ shape.bytes
    rw [hEmit, hSpaceAfter, distance_from_start h, Circular.distance_add h.head_lt (by omega)]
    omega

/-- What is safe for the state that was reached by waiting is safe for the one before. -/
theorem SafeCall.of_emit {before : RingState} {out : Outcome} (hEmit : state.emit = before.emit)
    (h : SafeCall shape state numDwords out) : SafeCall shape before numDwords out := by
  obtain ⟨hInside, hApart, hLe, hDvd, hResult⟩ := h
  rw [hEmit] at hApart hResult
  refine { inside := hInside, apart := hApart, emit_le := hLe, emit_dvd := hDvd, result := ?_ }
  intro hSmall
  rcases hResult hSmall with hRefuses | hReserves
  · exact Or.inl { value := hRefuses.value, zeroed := hRefuses.zeroed
                   emit := hRefuses.emit.trans hEmit }
  · exact Or.inr hReserves

/-- One call keeps the gap, and is safe because of it. -/
theorem waitForSpace_safe (hOrder : shape.order ≤ 21) (h : Gap shape state) (polls : List Nat) :
    SafeCall shape state numDwords (waitForSpace shape numDwords polls state) ∧
      Gap shape (waitForSpace shape numDwords polls state).state := by
  have hMid : Gap shape (waited shape numDwords polls state).2 := h.wait hOrder _ polls
  have hEmit : (waited shape numDwords polls state).2.emit = state.emit := waited_emit ..
  have hEnds := waitForSpace_ends h.emit_le h.emit_dvd numDwords polls
  generalize waitForSpace shape numDwords polls state = out at hEnds
  cases hEnds with
  | large hLarge => exact ⟨safeCall_refused h rfl, h⟩
  | timeout hSmall hWaited => exact ⟨safeCall_refused h hEmit, hMid⟩
  | nowhere hSmall hStraight hPast => exact ⟨safeCall_refused h hEmit, hMid⟩
  | start hSmall hWaited hWraps hEnd =>
      have hSpace := waited_space h.emit_le hSmall hWaited
      rw [if_pos hWraps, ← hEmit] at hSpace
      have hBefore := hEmit ▸ hEnd
      exact ⟨(wrapped_safe hMid hBefore hSpace).of_emit hEmit, wrapped_gap hMid hBefore hSpace⟩
  | position hSmall hWaited hStraight hFits =>
      have hSpace := waited_space h.emit_le hSmall hWaited
      have hEnough : (numDwords * 4).toNat ≤ (waited shape numDwords polls state).2.space.toNat := by
        split at hSpace
        · omega
        · exact hSpace
      have hInside := hEmit ▸ hFits
      exact ⟨(straight_safe hMid hEnough hInside).of_emit hEmit,
        straight_gap hMid hEnough hInside⟩

end Safe

/-- In a ring of up to two megabytes, the most that the head register can tell, every
step of every run that starts with an empty ring is safe. -/
theorem reservation_safe (shape : RingShape) (hOrder : shape.order ≤ 21) {state : RingState}
    (hEmpty : Empty shape state) (hSpace : state.space.toNat + 8 ≤ shape.bytes)
    (events : List RingEvent) : Along (ringStep shape) (SafeStep shape) state events := by
  apply along_of_invariant (Gap shape)
  · intro s event hGap
    cases event with
    | advance k =>
        have hAfter := hGap.advance k
        exact ⟨⟨hAfter.emit_le, hAfter.emit_dvd⟩, hAfter⟩
    | call numDwords first later => exact waitForSpace_safe hOrder hGap (first :: later)
  · exact hEmpty.gap hSpace

/-- A ring of sixteen bytes, and one of four megabytes. -/
def smallRing : RingShape :=
  { order := 4, effectiveSize := 16, order_ge := by decide, order_lt := by decide
    effective_le := by decide }

def largeRing : RingShape :=
  { order := 22, effectiveSize := 0x400000, order_ge := by decide, order_lt := by decide
    effective_le := by decide }

/-- A ring at its start, with all but eight bytes free. -/
def startOf (shape : RingShape) : RingState :=
  { ringHead := 0, emit := 0, space := shape.size - 8, head := 0 }

theorem reservation_safe_small :
    Along (ringStep smallRing) (SafeStep smallRing) (startOf smallRing)
      [.call 2 0 [], .advance 8, .call 2 0 [], .advance 8, .call 1 0 []] :=
  reservation_safe smallRing (by decide)
    { emit_le := by decide, emit_dvd := by decide, head_eq := by decide } (by decide) _

/-- The hardware has just passed two megabytes, and the driver takes it for being at
the start. -/
def passedHead : List RingEvent :=
  [.call 0xFFFF0 0 [], .advance 0x1FFFFC, .call 0x7FFF0 0 [], .advance 68]

/-- The next call sets bytes to zero that are not consumed. -/
theorem large_overwrites :
    Empty largeRing (startOf largeRing) ∧
      (startOf largeRing).space.toNat + 8 ≤ largeRing.bytes ∧
      ¬ Along (ringStep largeRing) (SafeStep largeRing) (startOf largeRing)
        (passedHead ++ [.call 0x80000 0 []]) := by
  refine ⟨{ emit_le := by decide, emit_dvd := by decide, head_eq := by decide }, by decide, ?_⟩
  intro h
  have hLast := h.2.2.2.2.1
  have hZeroed := hLast.apart (0x1FFFC0, 0x200000) (by decide) 0x200040 (by decide) (by decide)
  exact hZeroed (by decide)

end NootedBlue.Ring
