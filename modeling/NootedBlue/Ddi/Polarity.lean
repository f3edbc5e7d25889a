import NootedBlue.Ddi.FuncCtl

/-! The polarities over a run. The flags start with one polarity of each signal, and
each reading is ORed into them: they keep it as long as all readings agree. -/
namespace NootedBlue.Ddi

open Transition

section Flags

variable {flags other : Word} {horizontal vertical : Bool}

/-- Flags that are ORed into others keep what was wrong with them. -/
theorem NotBoth.of_or (h : NotBoth (flags ||| other)) : NotBoth flags :=
  { horizontal := fun hBoth =>
      h.horizontal ⟨(hasBit_or ..).mpr (.inl hBoth.1), (hasBit_or ..).mpr (.inl hBoth.2)⟩
    vertical := fun hBoth =>
      h.vertical ⟨(hasBit_or ..).mpr (.inl hBoth.1), (hasBit_or ..).mpr (.inl hBoth.2)⟩ }

theorem OnePolarity.notBoth (h : OnePolarity flags) : NotBoth flags :=
  { horizontal := fun hBoth => h.horizontal.mp hBoth.1 hBoth.2
    vertical := fun hBoth => h.vertical.mp hBoth.1 hBoth.2 }

/-- A reading that says the same changes no polarity. -/
theorem hasBit_or_syncFlags (hFlags : OnePolarity flags)
    (hSame : SamePolarity flags (horizontal = true) (vertical = true)) :
    (HasBit (flags ||| syncFlags horizontal vertical) phsync ↔ HasBit flags phsync) ∧
      (HasBit (flags ||| syncFlags horizontal vertical) nhsync ↔ HasBit flags nhsync) ∧
      (HasBit (flags ||| syncFlags horizontal vertical) pvsync ↔ HasBit flags pvsync) ∧
      (HasBit (flags ||| syncFlags horizontal vertical) nvsync ↔ HasBit flags nvsync) := by
  obtain ⟨hPh, hNh, hPv, hNv⟩ := hasBit_syncFlags horizontal vertical
  refine ⟨?_, ?_, ?_, ?_⟩
  · rw [hasBit_or, hPh, hSame.1, or_self]
  · rw [hasBit_or, hNh, ← Bool.not_eq_true, ← hSame.1, hFlags.horizontal, not_not, or_self]
  · rw [hasBit_or, hPv, hSame.2, or_self]
  · rw [hasBit_or, hNv, ← Bool.not_eq_true, ← hSame.2, hFlags.vertical, not_not, or_self]

theorem OnePolarity.or_syncFlags (hFlags : OnePolarity flags)
    (hSame : SamePolarity flags (horizontal = true) (vertical = true)) :
    OnePolarity (flags ||| syncFlags horizontal vertical) := by
  obtain ⟨hPh, hNh, hPv, hNv⟩ := hasBit_or_syncFlags hFlags hSame
  exact { horizontal := by rw [hPh, hNh, hFlags.horizontal]
          vertical := by rw [hPv, hNv, hFlags.vertical] }

/-- Both polarities are there as soon as a reading says the other one. -/
theorem notBoth_or_syncFlags (hFlags : OnePolarity flags) :
    NotBoth (flags ||| syncFlags horizontal vertical) ↔
      SamePolarity flags (horizontal = true) (vertical = true) := by
  constructor
  · intro h
    have hHorizontal := h.horizontal
    have hVertical := h.vertical
    obtain ⟨hPh, hNh, hPv, hNv⟩ := hasBit_syncFlags horizontal vertical
    rw [hasBit_or, hasBit_or, hPh, hNh, hFlags.horizontal] at hHorizontal
    rw [hasBit_or, hasBit_or, hPv, hNv, hFlags.vertical] at hVertical
    constructor
    · rw [hFlags.horizontal]
      cases horizontal
      · simpa using hHorizontal
      · simpa using hHorizontal
    · rw [hFlags.vertical]
      cases vertical
      · simpa using hVertical
      · simpa using hVertical
  · intro hSame
    exact (hFlags.or_syncFlags hSame).notBoth

/-- The flag of an interlaced mode is none of the polarities. -/
theorem hasBit_or_interlace (flags : Word) (p : Prop) [Decidable p] {bit : Word}
    (hBit : ¬ HasBit interlace bit) :
    HasBit (flags ||| (if p then interlace else 0)) bit ↔ HasBit flags bit := by
  rw [hasBit_or, hasBit_ite]
  exact or_iff_left fun h => hBit h.2

theorem OnePolarity.or_interlace (hFlags : OnePolarity flags) (p : Prop) [Decidable p] :
    OnePolarity (flags ||| (if p then interlace else 0)) := by
  have hPh := hasBit_or_interlace flags p (show ¬ HasBit interlace phsync by decide)
  have hNh := hasBit_or_interlace flags p (show ¬ HasBit interlace nhsync by decide)
  have hPv := hasBit_or_interlace flags p (show ¬ HasBit interlace pvsync by decide)
  have hNv := hasBit_or_interlace flags p (show ¬ HasBit interlace nvsync by decide)
  exact { horizontal := by rw [hPh, hNh, hFlags.horizontal]
          vertical := by rw [hPv, hNv, hFlags.vertical] }

end Flags

section Step

variable (display : DdiDisplay)

/-- After the step no signal has both polarities. -/
def StepsToNotBoth (state : DdiState) (event : DdiEvent) : Prop :=
  NotBoth (ddiStep display state event).crtc.flags

/-- The flags after the first part of `SetupParams`, which a reading of the other
register is ORed into. -/
def setupFlags (flags adpa : Word) (interlaced : Bool) : Word :=
  flags ||| syncFlags (HasBit adpa (1 <<< 3)) (HasBit adpa (1 <<< 4)) |||
    (if interlaced then interlace else 0)

variable {flags adpa : Word} {interlaced : Bool}

theorem setupFlags_onePolarity (hFlags : OnePolarity flags)
    (hSame : SamePolarity flags (HasBit adpa (1 <<< 3)) (HasBit adpa (1 <<< 4))) :
    OnePolarity (setupFlags flags adpa interlaced) := by
  have hRead : SamePolarity flags (decide (HasBit adpa (1 <<< 3)) = true)
      (decide (HasBit adpa (1 <<< 4)) = true) := by
    simpa only [decide_eq_true_eq] using hSame
  exact (hFlags.or_syncFlags hRead).or_interlace _

theorem setupFlags_samePolarity (hFlags : OnePolarity flags)
    (hSame : SamePolarity flags (HasBit adpa (1 <<< 3)) (HasBit adpa (1 <<< 4))) (h v : Prop) :
    SamePolarity (setupFlags flags adpa interlaced) h v ↔ SamePolarity flags h v := by
  have hRead : SamePolarity flags (decide (HasBit adpa (1 <<< 3)) = true)
      (decide (HasBit adpa (1 <<< 4)) = true) := by
    simpa only [decide_eq_true_eq] using hSame
  obtain ⟨hPh, -, hPv, -⟩ := hasBit_or_syncFlags hFlags hRead
  rw [SamePolarity, setupFlags, hasBit_or_interlace _ _ (by decide), hPh,
    hasBit_or_interlace _ _ (by decide), hPv]
  rfl

/-- One step keeps the polarities apart just when its registers agree with them. -/
theorem stepsToNotBoth_iff {state : DdiState} (hFlags : OnePolarity state.crtc.flags)
    (event : DdiEvent) : StepsToNotBoth display state event ↔ Agrees state event := by
  cases event with
  | setupParams index adpa interlaced ddiFuncCtl =>
      rw [StepsToNotBoth, ddiStep, Agrees]
      split
      next hWork =>
        rw [readFuncCtl_flags]
        change NotBoth (setupFlags state.crtc.flags adpa interlaced ||| _) ↔ _
        constructor
        · intro h _
          have hFirst : NotBoth (state.crtc.flags |||
              syncFlags (HasBit adpa (1 <<< 3)) (HasBit adpa (1 <<< 4))) := h.of_or.of_or
          have hSame := (notBoth_or_syncFlags hFlags).mp hFirst
          rw [decide_eq_true_eq, decide_eq_true_eq] at hSame
          have hSecond := (notBoth_or_syncFlags (setupFlags_onePolarity hFlags hSame)).mp h
          rw [decide_eq_true_eq, decide_eq_true_eq, setupFlags_samePolarity hFlags hSame] at hSecond
          exact ⟨hSame, hSecond⟩
        · intro h
          obtain ⟨hSame, hSecond⟩ := h hWork
          apply (notBoth_or_syncFlags (setupFlags_onePolarity hFlags hSame)).mpr
          rw [decide_eq_true_eq, decide_eq_true_eq, setupFlags_samePolarity hFlags hSame]
          exact hSecond
      next hDone => exact iff_of_true hFlags.notBoth fun h => absurd h hDone
  | readOut ddiFuncCtl =>
      rw [StepsToNotBoth, ddiStep, Agrees, readFuncCtl_flags, notBoth_or_syncFlags hFlags,
        decide_eq_true_eq, decide_eq_true_eq]

/-- Registers that agree leave one polarity of each signal. -/
theorem onePolarity_step {state : DdiState} (hFlags : OnePolarity state.crtc.flags)
    (event : DdiEvent) (hAgrees : Agrees state event) :
    OnePolarity (ddiStep display state event).crtc.flags := by
  cases event with
  | setupParams index adpa interlaced ddiFuncCtl =>
      rw [ddiStep]
      split
      next hWork =>
        obtain ⟨hSame, hSecond⟩ := hAgrees hWork
        rw [readFuncCtl_flags]
        apply (setupFlags_onePolarity hFlags hSame).or_syncFlags
        rw [decide_eq_true_eq, decide_eq_true_eq, setupFlags_samePolarity hFlags hSame]
        exact hSecond
      next => exact hFlags
  | readOut ddiFuncCtl =>
      rw [ddiStep, readFuncCtl_flags]
      apply hFlags.or_syncFlags
      rw [decide_eq_true_eq, decide_eq_true_eq]
      exact hAgrees

end Step

/-- From a mode with one polarity of each signal: a value is read and computed again
just when no positive polarity of the mode is missing in it and the type is not HDMI,
and over a run no signal has both polarities just when every reading agrees with the
flags that are there. -/
theorem funcCtl_iff (display : DdiDisplay) (state : DdiState)
    (hMode : OnePolarity state.crtc.flags) :
    (∀ ddiFuncCtl, SstValue ddiFuncCtl →
      (RoundTrip display ddiFuncCtl state.crtc ↔
        (HasBit state.crtc.flags phsync → HasBit ddiFuncCtl transDdiPhsync) ∧
          (HasBit state.crtc.flags pvsync → HasBit ddiFuncCtl transDdiPvsync) ∧
          ¬ HasBit state.crtc.outputTypes outputHdmi)) ∧
      ∀ events, Along (ddiStep display) (StepsToNotBoth display) state events ↔
        Along (ddiStep display) Agrees state events := by
  constructor
  · intro ddiFuncCtl hValue
    exact roundTrip_iff display state.crtc hValue
  · intro events
    apply along_iff_of_invariant (fun s => OnePolarity s.crtc.flags)
    · intro s event hFlags
      exact stepsToNotBoth_iff display hFlags event
    · intro s event hFlags hAgrees
      exact onePolarity_step display hFlags event hAgrees
    · exact hMode

/-- A panel of version 12 whose mode has two positive polarities. -/
def positiveMode : DdiState :=
  { crtc :=
      { flags := phsync ||| pvsync, pipeBpp := 24, outputTypes := 0, laneCount := 4
        isTranscoderEdp := false, forceThru := false, hasHdmiSink := false
        hdmiScrambling := false, hdmiHighTmdsClockRatio := false }
    dpcdconf := false }

/-- A transcoder of version 12 on the first port. -/
def firstPort : DdiDisplay :=
  { info := { ver := 12 }, port := 0, pipe := .a, supportsEdp := true }

/-- A value in the mode DP SST with a BPC of 8 and two negative polarities. -/
def negativeValue : Word := (1 : Word) <<< 31 ||| transDdiModeSelectDpSst

theorem positiveMode_onePolarity : OnePolarity positiveMode.crtc.flags :=
  { horizontal := by decide
    vertical := by decide }

/-- The negative value is computed with positive polarities, and once it is read the
flags have both. -/
theorem negativeValue_comes_back_positive :
    OnePolarity positiveMode.crtc.flags ∧ SstValue negativeValue ∧
      ¬ RoundTrip firstPort negativeValue positiveMode.crtc ∧
      ¬ Along (ddiStep firstPort) (StepsToNotBoth firstPort) positiveMode
        [.setupParams 0 0x18 false negativeValue] := by
  have hValue : SstValue negativeValue := { mode := by decide, bpc := by decide }
  refine ⟨positiveMode_onePolarity, hValue, ?_, ?_⟩
  · rw [RoundTrip]
    decide
  · intro h
    exact h.1.horizontal (by decide)

theorem funcCtl_iff_positive :
    OnePolarity positiveMode.crtc.flags ∧
      ((∀ ddiFuncCtl, SstValue ddiFuncCtl →
        (RoundTrip firstPort ddiFuncCtl positiveMode.crtc ↔
          (HasBit positiveMode.crtc.flags phsync → HasBit ddiFuncCtl transDdiPhsync) ∧
            (HasBit positiveMode.crtc.flags pvsync → HasBit ddiFuncCtl transDdiPvsync) ∧
            ¬ HasBit positiveMode.crtc.outputTypes outputHdmi)) ∧
        ∀ events,
          Along (ddiStep firstPort) (StepsToNotBoth firstPort) positiveMode events ↔
            Along (ddiStep firstPort) Agrees positiveMode events) :=
  ⟨positiveMode_onePolarity, funcCtl_iff _ positiveMode positiveMode_onePolarity⟩

end NootedBlue.Ddi
