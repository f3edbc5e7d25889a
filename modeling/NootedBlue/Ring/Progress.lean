import NootedBlue.Ring.Reserve

/-! When a ring that the hardware has emptied takes a reservation. A position at the
end of the ring is never left again. -/
namespace NootedBlue.Ring

open Transition

variable {shape : RingShape} {state : RingState} {numDwords : Word}

/-- The position is a dword of the ring or its end, and the hardware is inside of it. -/
structure OnRing (shape : RingShape) (state : RingState) : Prop where
  emit_le : state.emit.toNat ≤ shape.bytes
  emit_dvd : 4 ∣ state.emit.toNat
  head_lt : state.head.toNat < shape.bytes

/-- The hardware has consumed everything. -/
def Consumed (shape : RingShape) (state : RingState) : Prop :=
  state.head.toNat = state.emit.toNat % shape.bytes

instance (shape : RingShape) (state : RingState) : Decidable (Consumed shape state) :=
  inferInstanceAs (Decidable (_ = _))

/-- By how much the head that is read lies behind a position that the mask cuts. -/
def lag (state : RingState) : Nat := state.emit.toNat - state.emit.toNat % 2 ^ 21

/-- The position is not the end, a reservation that does not wrap ends inside of the ring,
and the space that is known, or that an empty ring shows, is enough. -/
structure Fits (shape : RingShape) (state : RingState) (numDwords : Word) : Prop where
  emit_lt : state.emit.toNat < shape.bytes
  ends : ¬ Wraps shape state (numDwords * 4) →
    state.emit.toNat + 4 * numDwords.toNat ≤ shape.bytes
  space : (totalBytes shape state (numDwords * 4)).toNat ≤ state.space.toNat ∨
    (totalBytes shape state (numDwords * 4)).toNat + 8 + lag state ≤ shape.bytes

section Invariant

theorem onRing_wait (h : OnRing shape state) (total : Word) (polls : List Nat) :
    OnRing shape (wait shape total polls state).2 := by
  apply wait_invariant (OnRing shape)
  · intro middle k hMiddle
    exact { emit_le := hMiddle.emit_le, emit_dvd := hMiddle.emit_dvd, head_lt := advance_head_lt k }
  · intro middle after hMiddle hRead
    obtain ⟨hEmit, hHead, -, -⟩ := refresh_eq_some hRead
    exact { emit_le := hEmit ▸ hMiddle.emit_le, emit_dvd := hEmit ▸ hMiddle.emit_dvd
            head_lt := hHead ▸ hMiddle.head_lt }
  · exact h

theorem onRing_step (h : OnRing shape state) (event : RingEvent) :
    OnRing shape (ringStep shape state event) := by
  cases event with
  | advance k =>
      exact { emit_le := h.emit_le, emit_dvd := h.emit_dvd, head_lt := advance_head_lt k }
  | call numDwords first later =>
      rw [ringStep]
      have hMid : OnRing shape (waited shape numDwords (first :: later) state).2 :=
        onRing_wait h _ _
      have hEmit : (waited shape numDwords (first :: later) state).2.emit = state.emit :=
        waited_emit ..
      have hDvd := four_dvd_bytes_toNat numDwords
      have hEnds := waitForSpace_ends h.emit_le h.emit_dvd numDwords (first :: later)
      generalize waitForSpace shape numDwords (first :: later) state = out at hEnds
      cases hEnds with
      | large hLarge => exact h
      | timeout hSmall hWaited => exact hMid
      | nowhere hSmall hStraight hPast => exact hMid
      | start hSmall hWaited hWraps hEnd =>
          refine { emit_le := ?_, emit_dvd := start_dvd numDwords, head_lt := hMid.head_lt }
          show (0 + numDwords * 4).toNat ≤ shape.bytes
          rw [start_add_toNat]
          omega
      | position hSmall hWaited hStraight hFits =>
          have hAdd := emit_add_toNat _ (hEmit ▸ hFits)
          refine { emit_le := ?_, emit_dvd := ?_, head_lt := hMid.head_lt }
          · show ((waited shape numDwords (first :: later) state).2.emit + numDwords * 4).toNat ≤ _
            rw [hAdd, hEmit]
            exact hFits
          · show 4 ∣ ((waited shape numDwords (first :: later) state).2.emit + numDwords * 4).toNat
            rw [hAdd]
            exact Nat.dvd_add hMid.emit_dvd hDvd

end Invariant

section Progress

theorem granted_ne_zero (numDwords : Word) : granted numDwords ≠ 0 := by
  intro hZero
  have hBit := congrArg (fun value : BitVec 64 => value.getLsbD 0) hZero
  simp [granted] at hBit

/-- The head of a ring that is empty and not at its end lies behind by the lag. -/
theorem spaceFor_consumed (hEnd : state.emit.toNat < shape.bytes) (hDvd : 4 ∣ state.emit.toNat)
    (hConsumed : Consumed shape state) :
    (spaceFor shape state.emit (state.head &&& ringHeadMask)).toNat + 8 + lag state =
      shape.bytes := by
  have hGe := bytes_ge shape
  have hHead : state.head.toNat = state.emit.toNat := by
    rw [hConsumed]
    exact Nat.mod_eq_of_lt hEnd
  have hMasked : (state.head &&& ringHeadMask).toNat = state.emit.toNat % 2 ^ 21 := by
    rw [masked_toNat, hHead]
    omega
  have hLag : lag state + 8 ≤ shape.bytes := by
    rw [lag]
    rcases Nat.lt_or_ge 21 shape.order with hLarge | hSmall
    · have hDvdBytes : 2 ^ 21 ∣ shape.bytes := Nat.pow_dvd_pow 2 (Nat.le_of_lt hLarge)
      omega
    · have hTwo : shape.bytes ≤ 2 ^ 21 := Nat.pow_le_pow_right (by decide) hSmall
      omega
  rw [spaceFor_of_le (by rw [hMasked]; exact Nat.mod_le _ _) (by rw [hMasked]; exact hLag), hMasked,
    ← lag]
  omega

/-- Waiting for an empty ring is decided by the first reading. -/
theorem linuxWaitForSpace_consumed {total : Word} {polls : List Nat} {s : RingState}
    (hRing : OnRing shape s) (hConsumed : Consumed shape s) :
    (linuxWaitForSpace shape total polls s).1 = true ↔
      polls ≠ [] ∧ total ≤ spaceFor shape s.emit (s.head &&& ringHeadMask) := by
  induction polls generalizing s with
  | nil => simp [linuxWaitForSpace]
  | cons poll rest ih =>
      have hEmpty : Empty shape s :=
        { emit_le := hRing.emit_le, emit_dvd := hRing.emit_dvd, head_eq := hConsumed }
      have hStays := advance_of_empty hRing.head_lt hEmpty.unconsumed_eq poll
      have hMasked := Nat.lt_of_le_of_lt (masked_le s.head) hRing.head_lt
      rw [linuxWaitForSpace, hStays, refresh_of_lt hMasked]
      simp only [ge_iff_le]
      split
      next hEnough => simp [hEnough]
      next hNot =>
        have hLater := ih (s := { s with
          ringHead := s.head &&& ringHeadMask
          space := spaceFor shape s.emit (s.head &&& ringHeadMask) })
          { emit_le := hRing.emit_le, emit_dvd := hRing.emit_dvd, head_lt := hRing.head_lt } hConsumed
        refine iff_of_false (fun h => hNot (hLater.mp h).2) fun h => hNot h.2

theorem wait_consumed (total : Word) {polls : List Nat} (hPolls : polls ≠ [])
    (hRing : OnRing shape state) (hConsumed : Consumed shape state) :
    (wait shape total polls state).1 = true ↔
      total ≤ state.space ∨ total ≤ spaceFor shape state.emit (state.head &&& ringHeadMask) := by
  rw [wait]
  split
  next hMore =>
    rw [linuxWaitForSpace_consumed hRing hConsumed, and_iff_right hPolls]
    exact (or_iff_right (BitVec.not_le.mpr hMore)).symm
  next hEnough => exact iff_of_true rfl (Or.inl (BitVec.not_lt.mp hEnough))

/-- A call in an empty ring has waited well just when the space that is known or that
the ring shows is enough. -/
theorem waited_consumed (hRing : OnRing shape state) (hConsumed : Consumed shape state)
    {polls : List Nat} (hPolls : polls ≠ []) (hEnd : state.emit.toNat < shape.bytes) :
    (waited shape numDwords polls state).1 = true ↔
      (totalBytes shape state (numDwords * 4)).toNat ≤ state.space.toNat ∨
        (totalBytes shape state (numDwords * 4)).toNat + 8 + lag state ≤ shape.bytes := by
  have hSpace := spaceFor_consumed hEnd hRing.emit_dvd hConsumed
  rw [waited, wait_consumed _ hPolls hRing hConsumed, BitVec.le_def, BitVec.le_def]
  omega

/-- Exactly the reservations that fit succeed in an empty ring. -/
theorem succeeds_iff_fits (hRing : OnRing shape state) (hConsumed : Consumed shape state)
    (hSome : 0 < numDwords.toNat)
    (hHalf : 4 * numDwords.toNat ≤ shape.effectiveSize.toNat / 2) {polls : List Nat}
    (hPolls : polls ≠ []) :
    (waitForSpace shape numDwords polls state).value ≠ 0 ↔ Fits shape state numDwords := by
  have hLe := bytes_le shape
  have hGe := bytes_ge shape
  have hEffective := shape.effective_le
  rw [← RingShape.bytes] at hEffective
  have hBytes : (numDwords * 4).toNat = 4 * numDwords.toNat := bytes_toNat (by omega)
  have hEnds := waitForSpace_ends hRing.emit_le hRing.emit_dvd numDwords polls
  generalize waitForSpace shape numDwords polls state = out at hEnds
  cases hEnds with
  | large hLarge => omega
  | timeout hSmall hWaited =>
      apply iff_of_false (fun h => h rfl)
      intro hFits
      rw [(waited_consumed hRing hConsumed hPolls hFits.emit_lt).mpr hFits.space] at hWaited
      cases hWaited
  | start hSmall hWaited hWraps hEnd =>
      apply iff_of_true (granted_ne_zero numDwords)
      exact {
        emit_lt := hEnd
        ends := fun hNot => absurd hWraps hNot
        space := (waited_consumed hRing hConsumed hPolls hEnd).mp hWaited }
  | position hSmall hWaited hStraight hFits =>
      have hEnd : state.emit.toNat < shape.bytes := by omega
      apply iff_of_true (granted_ne_zero numDwords)
      exact {
        emit_lt := hEnd
        ends := fun _ => by omega
        space := (waited_consumed hRing hConsumed hPolls hEnd).mp hWaited }
  | nowhere hSmall hStraight hPast =>
      apply iff_of_false (fun h => h rfl)
      intro hFits
      have hInside := hFits.ends fun hWraps => hStraight ⟨hWraps, hFits.emit_lt⟩
      omega

/-- In a ring of up to two megabytes, from before its effective end: what fits is what
ends before the effective end, or leaves eight bytes before the position when it starts
over. -/
theorem fits_iff (hOrder : shape.order ≤ 21) (hGap : Gap shape state)
    (hConsumed : Consumed shape state) (hBefore : state.emit.toNat ≤ shape.effectiveSize.toNat)
    (hHalf : 4 * numDwords.toNat ≤ shape.effectiveSize.toNat / 2) :
    Fits shape state numDwords ↔
      state.emit.toNat < shape.bytes ∧
        (state.emit.toNat + 4 * numDwords.toNat ≤ shape.effectiveSize.toNat ∨
          4 * numDwords.toNat + 8 ≤ state.emit.toNat) := by
  have hLe := bytes_le shape
  have hGe := bytes_ge shape
  have hEffective := shape.effective_le
  rw [← RingShape.bytes] at hEffective
  have hTwo : shape.bytes ≤ 2 ^ 21 := Nat.pow_le_pow_right (by decide) hOrder
  have hBytes : (numDwords * 4).toNat = 4 * numDwords.toNat := bytes_toNat (by omega)
  have hTotal : (totalBytes shape state (numDwords * 4)).toNat = _ :=
    totalBytes_toNat hGap.emit_le (by omega)
  have hWraps : Wraps shape state (numDwords * 4) ↔
      shape.effectiveSize.toNat < state.emit.toNat + 4 * numDwords.toNat := by
    rw [Wraps, gt_iff_lt, BitVec.lt_def, BitVec.toNat_sub_of_le (BitVec.le_def.mpr hBefore), hBytes]
    omega
  have hEmpty : Empty shape state :=
    { emit_le := hGap.emit_le, emit_dvd := hGap.emit_dvd, head_eq := hConsumed }
  have hNone := hEmpty.unconsumed_eq
  rw [hBytes] at hTotal
  constructor
  · intro h
    have hSpace := hGap.gap h.emit_lt
    have hEnough := h.space
    refine ⟨h.emit_lt, ?_⟩
    by_cases hWrap : Wraps shape state (numDwords * 4)
    · rw [if_pos hWrap] at hTotal
      exact Or.inr (by omega)
    · exact Or.inl (by have hNot := mt hWraps.mpr hWrap; omega)
  · rintro ⟨hEnd, hRoom⟩
    have hLag : lag state = 0 := by
      rw [lag]
      omega
    refine { emit_lt := hEnd, ends := ?_, space := Or.inr ?_ }
    · intro hNot
      have hBound := mt hWraps.mpr hNot
      omega
    · rw [hTotal, hLag]
      split
      next hWrap =>
        have hBound := hWraps.mp hWrap
        omega
      next hNot =>
        have hBound := mt hWraps.mpr hNot
        omega

end Progress

section End

/-- The position is the end of the ring. -/
structure AtEnd (shape : RingShape) (state : RingState) : Prop extends OnRing shape state where
  emit_eq : state.emit.toNat = shape.bytes

/-- The step leaves the position at the end, and reserves nothing. -/
structure Stuck (shape : RingShape) (state : RingState) (event : RingEvent) : Prop where
  emit : (ringStep shape state event).emit = state.emit
  refused : ∀ numDwords first later, event = .call numDwords first later →
    0 < (numDwords * 4).toNat →
      (waitForSpace shape numDwords (first :: later) state).value = 0

/-- A call at the end of the ring reserves nothing. -/
theorem call_atEnd (h : AtEnd shape state) (numDwords : Word) (polls : List Nat) :
    (waitForSpace shape numDwords polls state).state.emit = state.emit ∧
      (0 < (numDwords * 4).toNat → (waitForSpace shape numDwords polls state).value = 0) := by
  have hEmit : (waited shape numDwords polls state).2.emit = state.emit := waited_emit ..
  have hAt := h.emit_eq
  have hEnds := waitForSpace_ends h.emit_le h.emit_dvd numDwords polls
  generalize waitForSpace shape numDwords polls state = out at hEnds
  cases hEnds with
  | large hLarge => exact ⟨rfl, fun _ => rfl⟩
  | timeout hSmall hWaited => exact ⟨hEmit, fun _ => rfl⟩
  | nowhere hSmall hStraight hPast => exact ⟨hEmit, fun _ => rfl⟩
  | start hSmall hWaited hWraps hEnd => omega
  | position hSmall hWaited hStraight hFits =>
      have hNone : (numDwords * 4).toNat = 0 := by omega
      have hZero : numDwords * 4 = 0 := BitVec.eq_of_toNat_eq hNone
      refine ⟨?_, fun hSome => absurd hNone (Nat.ne_of_gt hSome)⟩
      rw [straight, hZero, hEmit]
      exact BitVec.add_zero _

theorem stuck_of_atEnd (h : AtEnd shape state) (event : RingEvent) : Stuck shape state event := by
  cases event with
  | advance k =>
      exact { emit := rfl, refused := fun _ _ _ hEvent => nomatch hEvent }
  | call numDwords first later =>
      obtain ⟨hEmit, hRefused⟩ := call_atEnd h numDwords (first :: later)
      refine { emit := hEmit, refused := ?_ }
      intro other first' later' hEvent hSome
      cases hEvent
      exact hRefused hSome

/-- Once the position is the end, every later reservation is refused. -/
theorem stuck_for_ever (h : AtEnd shape state) (events : List RingEvent) :
    Along (ringStep shape) (Stuck shape) state events := by
  apply along_of_invariant (AtEnd shape)
  · intro s event hEnd
    have hStuck := stuck_of_atEnd hEnd event
    refine ⟨hStuck, { toOnRing := onRing_step hEnd.toOnRing event, emit_eq := ?_ }⟩
    rw [hStuck.emit]
    exact hEnd.emit_eq
  · exact h

end End

/-- A call for up to half of the effective size, in an empty ring, succeeds. -/
def Progresses (shape : RingShape) (state : RingState) : RingEvent → Prop
  | .advance _ => True
  | .call numDwords first later =>
      Consumed shape state → 0 < numDwords.toNat →
        4 * numDwords.toNat ≤ shape.effectiveSize.toNat / 2 →
          (waitForSpace shape numDwords (first :: later) state).value ≠ 0

/-- A call for up to half of the effective size, in an empty ring, fits. -/
def FitsThen (shape : RingShape) (state : RingState) : RingEvent → Prop
  | .advance _ => True
  | .call numDwords _ _ =>
      Consumed shape state → 0 < numDwords.toNat →
        4 * numDwords.toNat ≤ shape.effectiveSize.toNat / 2 → Fits shape state numDwords

/-- In a run from an empty ring every such call succeeds just when every one fits. -/
theorem progress_iff (shape : RingShape) {state : RingState} (hEmpty : Empty shape state)
    (events : List RingEvent) :
    Along (ringStep shape) (Progresses shape) state events ↔
      Along (ringStep shape) (FitsThen shape) state events := by
  apply along_iff_of_invariant (OnRing shape)
  · intro s event hRing
    cases event with
    | advance k => exact Iff.rfl
    | call numDwords first later =>
        constructor
        · intro h hConsumed hSome hHalf
          exact (succeeds_iff_fits hRing hConsumed hSome hHalf (List.cons_ne_nil _ _)).mp
            (h hConsumed hSome hHalf)
        · intro h hConsumed hSome hHalf
          exact (succeeds_iff_fits hRing hConsumed hSome hHalf (List.cons_ne_nil _ _)).mpr
            (h hConsumed hSome hHalf)
  · intro s event hRing _
    exact onRing_step hRing event
  · exact { emit_le := hEmpty.emit_le, emit_dvd := hEmpty.emit_dvd, head_lt := hEmpty.head_lt }

/-- A ring of which the driver uses the first 48 of 64 bytes. -/
def tightRing : RingShape :=
  { order := 6, effectiveSize := 48, order_ge := by decide, order_lt := by decide
    effective_le := by decide }

/-- The driver goes round the ring; the hardware takes its time in the middle of it. -/
def roundTheRing : List RingEvent :=
  [.call 5 0 [], .advance 20, .call 5 0 [], .advance 8, .call 6 4 [4, 64], .advance 64, .call 5 0 []]

/-- The third call has to wait and to wrap around, and the last one does not. -/
theorem progress_iff_round :
    Along (ringStep tightRing) (FitsThen tightRing) (startOf tightRing) roundTheRing ∧
      (roundTheRing.foldl (ringStep tightRing) (startOf tightRing)).emit = 44 := by
  refine ⟨(progress_iff tightRing { emit_le := by decide, emit_dvd := by decide, head_eq := by decide }
    roundTheRing).mp ?_, by decide⟩
  have hFirst : Progresses tightRing (startOf tightRing) (.call 5 0 []) := fun _ _ _ => by decide
  refine ⟨hFirst, trivial, fun _ _ _ => by decide, trivial, fun _ _ _ => by decide, trivial,
    fun _ _ _ => by decide, trivial⟩

/-- Two reservations of eight bytes fill the small ring up to its end, and when they are
consumed not even four bytes can be reserved. -/
theorem small_gets_stuck :
    Empty smallRing (startOf smallRing) ∧
      ¬ Along (ringStep smallRing) (Progresses smallRing) (startOf smallRing)
        [.call 2 0 [], .advance 8, .call 2 0 [], .advance 8, .call 1 0 []] := by
  refine ⟨{ emit_le := by decide, emit_dvd := by decide, head_eq := by decide }, ?_⟩
  intro h
  exact h.2.2.2.2.1 (by decide) (by decide) (by decide) (by decide)

end NootedBlue.Ring
