import Mathlib.Logic.Basic
import NootedBlue.Display.Platform
import NootedBlue.Semantics.Fields
import NootedBlue.Semantics.Run

/-! The function register of a transcoder. The driver reads it into its state, beside
the mode that came from the VBT, and later computes the register from that state
again. Each reading is ORed into the flags of the mode. -/
namespace NootedBlue.Ddi

open Bits Transition Display

abbrev Word := BitVec 32

/-- `DRM_MODE_FLAG_PHSYNC`, `_NHSYNC`, `_PVSYNC`, `_NVSYNC` and `_INTERLACE`. -/
def phsync : Word := 1 <<< 0
def nhsync : Word := 1 <<< 1
def pvsync : Word := 1 <<< 2
def nvsync : Word := 1 <<< 3
def interlace : Word := 1 <<< 4

/-- `TRANS_DDI_PVSYNC`, `TRANS_DDI_PHSYNC`, `TRANS_DDI_BPC_MASK` and
`TRANS_DDI_MODE_SELECT_MASK`. -/
def transDdiPvsync : Word := 1 <<< 17
def transDdiPhsync : Word := 1 <<< 16
def transDdiBpcMask : Word := 7 <<< 20
def transDdiModeSelectMask : Word := 7 <<< 24

/-- `TRANS_DDI_BPC_8`, `_10` and `_12`. -/
def transDdiBpc8 : Word := 0 <<< 20
def transDdiBpc10 : Word := 1 <<< 20
def transDdiBpc12 : Word := 3 <<< 20

/-- `TRANS_DDI_MODE_SELECT_HDMI`, `_DVI` and `_DP_SST`. -/
def transDdiModeSelectHdmi : Word := 0 <<< 24
def transDdiModeSelectDvi : Word := 1 <<< 24
def transDdiModeSelectDpSst : Word := 2 <<< 24

/-- A bit of a word. -/
def HasBit (word bit : Word) : Prop := word &&& bit ≠ 0

instance (word bit : Word) : Decidable (HasBit word bit) := inferInstanceAs (Decidable (_ ≠ _))

/-- The part of `struct intel_crtc_state` that goes into the register. -/
structure CrtcState where
  flags : Word
  pipeBpp : Int
  outputTypes : Word
  laneCount : BitVec 8
  isTranscoderEdp : Bool
  forceThru : Bool
  hasHdmiSink : Bool
  hdmiScrambling : Bool
  hdmiHighTmdsClockRatio : Bool
  deriving DecidableEq, Repr

/-- The pipe of the transcoder. -/
inductive Pipe where
  | a
  | b
  | c
  | d
  deriving DecidableEq, Repr

/-- What the register depends on beside the state. -/
structure DdiDisplay where
  info : DisplayInfo
  port : Nat
  pipe : Pipe
  supportsEdp : Bool
  deriving DecidableEq, Repr

/-- `intel_crtc_has_type` for `INTEL_OUTPUT_HDMI`, and the bits of the types that a
read-out sets. -/
def outputHdmi : Word := 1 <<< 6
def outputDp : Word := 1 <<< 7
def outputEdp : Word := 1 <<< 8

/-- `TRANS_DDI_PORT_WIDTH_MASK`, and `DDI_PORT_WIDTH_MASK`. -/
def portWidth : Field := ⟨1, 3⟩

/-- `TGL_TRANS_DDI_SELECT_PORT` and `TRANS_DDI_SELECT_PORT`. -/
def selectPort (display : DdiDisplay) : Word :=
  if display.info.ver ≥ 12 then (BitVec.ofNat 32 display.port + 1) <<< 27
  else BitVec.ofNat 32 display.port <<< 28

def bpcBits (pipeBpp : Int) : Word :=
  match pipeBpp with
  | 30 => transDdiBpc10
  | 36 => transDdiBpc12
  | _ => transDdiBpc8

/-- The input of the eDP transcoder. -/
def edpInput (display : DdiDisplay) (state : CrtcState) : Word :=
  if state.isTranscoderEdp then
    match display.pipe with
    | .b => 5 <<< 12
    | .c => 6 <<< 12
    | _ => if state.forceThru then 4 <<< 12 else 0 <<< 12
  else 0

/-- The mode, with what belongs to it. -/
def modeBits (display : DdiDisplay) (state : CrtcState) : Word :=
  if HasBit state.outputTypes outputHdmi then
    (if state.hasHdmiSink then transDdiModeSelectHdmi else transDdiModeSelectDvi) |||
      (if state.hdmiScrambling then (1 : Word) <<< 0 else 0) |||
      (if state.hdmiHighTmdsClockRatio then (1 : Word) <<< 4 else 0) |||
      (if display.info.ver ≥ 14 then portWidth.prep (state.laneCount.setWidth 32 - 1) else 0)
  else
    transDdiModeSelectDpSst |||
      portWidth.prep (if state.laneCount = 3 then 4 else state.laneCount.setWidth 32 - 1)

/-- `intel_ddi_transcoder_func_reg_val_get`. -/
def intelDdiTranscoderFuncRegValGet (display : DdiDisplay) (state : CrtcState) : Word :=
  (1 : Word) <<< 31 ||| selectPort display ||| bpcBits state.pipeBpp |||
    (if HasBit state.flags pvsync then transDdiPvsync else 0) |||
    (if HasBit state.flags phsync then transDdiPhsync else 0) |||
    edpInput display state ||| modeBits display state

/-- The sync flags for two polarities, of which `true` is the positive one. -/
def syncFlags (horizontal vertical : Bool) : Word :=
  (if horizontal then phsync else nhsync) ||| (if vertical then pvsync else nvsync)

/-- `intel_ddi_read_func_ctl_dp_sst`, as far as it sets these fields. -/
def intelDdiReadFuncCtlDpSst (display : DdiDisplay) (state : CrtcState) : CrtcState :=
  if state.outputTypes = 0 then
    { state with outputTypes := if display.supportsEdp then outputEdp else outputDp }
  else state

/-- `intel_ddi_read_func_ctl`. In the mode DP SST the last part is run twice. -/
def intelDdiReadFuncCtl (display : DdiDisplay) (ddiFuncCtl : Word) (state : CrtcState) :
    CrtcState :=
  let flags := syncFlags (HasBit ddiFuncCtl transDdiPhsync) (HasBit ddiFuncCtl transDdiPvsync)
  let bpc := ddiFuncCtl &&& transDdiBpcMask
  let pipeBpp := if bpc = transDdiBpc10 then 30 else if bpc = transDdiBpc12 then 36 else 24
  let state := { state with flags := state.flags ||| flags, pipeBpp }
  let state := if ddiFuncCtl &&& transDdiModeSelectMask = transDdiModeSelectDpSst then
    intelDdiReadFuncCtlDpSst display state else state
  intelDdiReadFuncCtlDpSst display state

/-- `intel_crt_get_flags`, from the value of its register. -/
def intelCrtGetFlags (adpa : Word) : Word :=
  syncFlags (HasBit adpa (1 <<< 3)) (HasBit adpa (1 <<< 4))

/-- What changes these fields: a call of `SetupParams` for the port of an index, with
the values of its registers, or a read-out. -/
inductive DdiEvent where
  | setupParams (index : Nat) (adpa : Word) (interlaced : Bool) (ddiFuncCtl : Word)
  | readOut (ddiFuncCtl : Word)
  deriving DecidableEq, Repr

/-- The state, and whether `SetupParams` has done its work. -/
structure DdiState where
  crtc : CrtcState
  dpcdconf : Bool
  deriving DecidableEq, Repr

/-- One event. `SetupParams` does its work once, and for the first port. -/
def ddiStep (display : DdiDisplay) (state : DdiState) : DdiEvent → DdiState
  | .setupParams index adpa interlaced ddiFuncCtl =>
      if ¬ state.dpcdconf ∧ index = 0 then
        let flags := state.crtc.flags ||| intelCrtGetFlags adpa |||
          (if interlaced then interlace else 0)
        { crtc := intelDdiReadFuncCtl display ddiFuncCtl { state.crtc with flags }
          dpcdconf := true }
      else state
  | .readOut ddiFuncCtl =>
      { state with crtc := intelDdiReadFuncCtl display ddiFuncCtl state.crtc }

/-- The bits of sync polarity, BPC and mode select. -/
def funcBits : Word :=
  transDdiPvsync ||| transDdiPhsync ||| transDdiBpcMask ||| transDdiModeSelectMask

/-- A value of the register in the mode DP SST, with a BPC of 8, 10 or 12. -/
structure SstValue (ddiFuncCtl : Word) : Prop where
  mode : ddiFuncCtl &&& transDdiModeSelectMask = transDdiModeSelectDpSst
  bpc : ddiFuncCtl &&& transDdiBpcMask = transDdiBpc8 ∨
    ddiFuncCtl &&& transDdiBpcMask = transDdiBpc10 ∨
    ddiFuncCtl &&& transDdiBpcMask = transDdiBpc12

/-- A value that is read is computed again. -/
def RoundTrip (display : DdiDisplay) (ddiFuncCtl : Word) (state : CrtcState) : Prop :=
  intelDdiTranscoderFuncRegValGet display (intelDdiReadFuncCtl display ddiFuncCtl state) &&&
    funcBits = ddiFuncCtl &&& funcBits

/-- Exactly one polarity of each signal, as in a mode of the VBT. -/
structure OnePolarity (flags : Word) : Prop where
  horizontal : HasBit flags phsync ↔ ¬ HasBit flags nhsync
  vertical : HasBit flags pvsync ↔ ¬ HasBit flags nvsync

/-- Not both polarities of a signal. -/
structure NotBoth (flags : Word) : Prop where
  horizontal : ¬ (HasBit flags phsync ∧ HasBit flags nhsync)
  vertical : ¬ (HasBit flags pvsync ∧ HasBit flags nvsync)

/-- What a register says of the polarities is what the flags say. -/
def SamePolarity (flags : Word) (horizontal vertical : Prop) : Prop :=
  (HasBit flags phsync ↔ horizontal) ∧ (HasBit flags pvsync ↔ vertical)

/-- The registers that an event reads agree with the flags. -/
def Agrees (state : DdiState) : DdiEvent → Prop
  | .setupParams index adpa _ ddiFuncCtl =>
      ¬ state.dpcdconf ∧ index = 0 →
        SamePolarity state.crtc.flags (HasBit adpa (1 <<< 3)) (HasBit adpa (1 <<< 4)) ∧
          SamePolarity state.crtc.flags (HasBit ddiFuncCtl transDdiPhsync)
            (HasBit ddiFuncCtl transDdiPvsync)
  | .readOut ddiFuncCtl =>
      SamePolarity state.crtc.flags (HasBit ddiFuncCtl transDdiPhsync)
        (HasBit ddiFuncCtl transDdiPvsync)

section Masks

theorem hasBit_or (a b bit : Word) : HasBit (a ||| b) bit ↔ HasBit a bit ∨ HasBit b bit := by
  rw [HasBit, BitVec.and_or_distrib_right]
  show ¬ (a &&& bit ||| b &&& bit = 0#32) ↔ _
  rw [BitVec.or_eq_zero_iff]
  exact not_and_or

theorem hasBit_ite (p : Prop) [Decidable p] (a bit : Word) :
    HasBit (if p then a else 0) bit ↔ p ∧ HasBit a bit := by
  have hZero : ¬ HasBit 0 bit := fun h => h BitVec.zero_and
  split
  next h => simp [h]
  next h => exact iff_of_false hZero fun hBoth => h hBoth.1

/-- What a mask leaves has no bit outside of it. -/
theorem not_hasBit_and {mask bit : Word} (h : mask &&& bit = 0) (word : Word) :
    ¬ HasBit (word &&& mask) bit := by
  intro hBit
  apply hBit
  rw [BitVec.and_assoc, h]
  exact BitVec.and_zero

/-- One bit of a word is there, or nothing is. -/
theorem and_shiftLeft (word : Word) {k : Nat} (hBit : (1 : Word) <<< k ≠ 0) :
    word &&& (1 : Word) <<< k = if HasBit word ((1 : Word) <<< k) then (1 : Word) <<< k else 0 := by
  have hAnd : word &&& (1 : Word) <<< k = if word.getLsbD k then (1 : Word) <<< k else 0 :=
    BitVec.and_twoPow word k
  by_cases hWord : word.getLsbD k = true
  · rw [if_pos hWord] at hAnd
    have hHas : HasBit word ((1 : Word) <<< k) := fun hZero => hBit (hAnd.symm.trans hZero)
    rw [if_pos hHas, hAnd]
  · rw [if_neg hWord] at hAnd
    have hNot : ¬ HasBit word ((1 : Word) <<< k) := not_not.mpr hAnd
    rw [if_neg hNot, hAnd]

/-- What is shifted above a mask does not meet it. -/
theorem shiftLeft_and_eq_zero {k : Nat} {mask : Word} (h : mask.toNat < 2 ^ k) (x : Word) :
    x <<< k &&& mask = 0 := by
  apply BitVec.eq_of_getLsbD_eq
  intro i _
  rw [BitVec.getLsbD_and, BitVec.getLsbD_shiftLeft]
  by_cases hLow : i < k
  · simp [hLow]
  · have hMask : mask.getLsbD i = false := by
      apply Nat.testBit_lt_two_pow
      exact Nat.lt_of_lt_of_le h (Nat.pow_le_pow_right (by decide) (Nat.not_lt.mp hLow))
    rw [hMask, Bool.and_false]
    exact BitVec.getLsbD_zero.symm

end Masks

section Encoder

variable (display : DdiDisplay) (state : CrtcState)

theorem selectPort_and : selectPort display &&& funcBits = 0 := by
  rw [selectPort]
  split
  · exact shiftLeft_and_eq_zero (by decide) _
  · exact shiftLeft_and_eq_zero (by decide) _

theorem edpInput_and : edpInput display state &&& funcBits = 0 := by
  rw [edpInput]
  split
  · split
    · decide
    · decide
    · split
      · decide
      · decide
  · decide

theorem portWidth_and (value : Word) : portWidth.prep value &&& funcBits = 0 := by
  have hMask : (portWidth.mask : Word) &&& funcBits = 0#32 := by decide
  rw [Field.prep, BitVec.and_assoc, hMask]
  exact BitVec.and_zero

/-- Of the mode only its select bits are left. -/
theorem modeBits_and :
    modeBits display state &&& funcBits =
      if HasBit state.outputTypes outputHdmi then
        if state.hasHdmiSink then transDdiModeSelectHdmi else transDdiModeSelectDvi
      else transDdiModeSelectDpSst := by
  have hIf (p : Prop) [Decidable p] (a b : Word) : (if p then a else b) &&& funcBits =
      if p then a &&& funcBits else b &&& funcBits := by
    split
    · rfl
    · rfl
  rw [modeBits, hIf]
  split
  · rw [BitVec.and_or_distrib_right, BitVec.and_or_distrib_right, BitVec.and_or_distrib_right,
      hIf, hIf, hIf, hIf, portWidth_and]
    cases state.hasHdmiSink <;> cases state.hdmiScrambling <;>
      cases state.hdmiHighTmdsClockRatio <;> by_cases hVer : display.info.ver ≥ 14 <;>
      simp only [hVer, if_true, if_false] <;> decide
  · rw [BitVec.and_or_distrib_right, portWidth_and]
    decide

theorem bpcBits_and (pipeBpp : Int) : bpcBits pipeBpp &&& funcBits = bpcBits pipeBpp := by
  unfold bpcBits
  split
  · decide
  · decide
  · decide

/-- The bits that matter of the register. -/
theorem funcReg_and :
    intelDdiTranscoderFuncRegValGet display state &&& funcBits =
      bpcBits state.pipeBpp ||| (if HasBit state.flags pvsync then transDdiPvsync else 0) |||
        (if HasBit state.flags phsync then transDdiPhsync else 0) |||
        (modeBits display state &&& funcBits) := by
  have hEnable : (1 : Word) <<< 31 &&& funcBits = 0 := by decide
  have hBit (p : Prop) [Decidable p] (bit : Word) (h : bit &&& funcBits = bit) :
      (if p then bit else 0) &&& funcBits = if p then bit else 0 := by
    split
    · exact h
    · rfl
  rw [intelDdiTranscoderFuncRegValGet]
  simp only [BitVec.and_or_distrib_right, hEnable, selectPort_and, edpInput_and, bpcBits_and,
    hBit _ _ (show transDdiPvsync &&& funcBits = transDdiPvsync by decide),
    hBit _ _ (show transDdiPhsync &&& funcBits = transDdiPhsync by decide)]
  simp

end Encoder

section Decoder

variable (display : DdiDisplay) (state : CrtcState) {ddiFuncCtl : Word}

@[simp] theorem dpSst_flags : (intelDdiReadFuncCtlDpSst display state).flags = state.flags := by
  rw [intelDdiReadFuncCtlDpSst]
  split
  · rfl
  · rfl

@[simp] theorem dpSst_pipeBpp :
    (intelDdiReadFuncCtlDpSst display state).pipeBpp = state.pipeBpp := by
  rw [intelDdiReadFuncCtlDpSst]
  split
  · rfl
  · rfl

/-- A type is given only to a state that has none, and it is not HDMI. -/
@[simp] theorem dpSst_hdmi :
    HasBit (intelDdiReadFuncCtlDpSst display state).outputTypes outputHdmi ↔
      HasBit state.outputTypes outputHdmi := by
  rw [intelDdiReadFuncCtlDpSst]
  split
  next hNone =>
    have hNot : ¬ HasBit 0 outputHdmi := by decide
    have hGiven : ¬ HasBit (if display.supportsEdp then outputEdp else outputDp) outputHdmi := by
      cases display.supportsEdp
      · decide
      · decide
    rw [hNone]
    exact iff_of_false hGiven hNot
  next => rfl

theorem readFuncCtl_flags :
    (intelDdiReadFuncCtl display ddiFuncCtl state).flags = state.flags |||
      syncFlags (HasBit ddiFuncCtl transDdiPhsync) (HasBit ddiFuncCtl transDdiPvsync) := by
  rw [intelDdiReadFuncCtl, dpSst_flags]
  split
  · rw [dpSst_flags]
  · rfl

theorem readFuncCtl_pipeBpp (h : SstValue ddiFuncCtl) :
    bpcBits (intelDdiReadFuncCtl display ddiFuncCtl state).pipeBpp =
      ddiFuncCtl &&& transDdiBpcMask := by
  rw [intelDdiReadFuncCtl, dpSst_pipeBpp, if_pos h.mode, dpSst_pipeBpp]
  rcases h.bpc with hBpc | hBpc | hBpc
  · rw [hBpc]
    rfl
  · rw [hBpc]
    rfl
  · rw [hBpc]
    rfl

theorem readFuncCtl_hdmi :
    HasBit (intelDdiReadFuncCtl display ddiFuncCtl state).outputTypes outputHdmi ↔
      HasBit state.outputTypes outputHdmi := by
  rw [intelDdiReadFuncCtl, dpSst_hdmi]
  split
  · rw [dpSst_hdmi]
  · rfl

/-- What the sync flags of a reading say. -/
theorem hasBit_syncFlags (horizontal vertical : Bool) :
    (HasBit (syncFlags horizontal vertical) phsync ↔ horizontal = true) ∧
      (HasBit (syncFlags horizontal vertical) nhsync ↔ horizontal = false) ∧
      (HasBit (syncFlags horizontal vertical) pvsync ↔ vertical = true) ∧
      (HasBit (syncFlags horizontal vertical) nvsync ↔ vertical = false) := by
  cases horizontal <;> cases vertical <;> decide

/-- The bits that matter of a value in the mode DP SST. -/
theorem sstValue_and (h : SstValue ddiFuncCtl) :
    ddiFuncCtl &&& funcBits = (ddiFuncCtl &&& transDdiBpcMask) |||
      (if HasBit ddiFuncCtl transDdiPvsync then transDdiPvsync else 0) |||
      (if HasBit ddiFuncCtl transDdiPhsync then transDdiPhsync else 0) |||
      transDdiModeSelectDpSst := by
  have hPv : ddiFuncCtl &&& transDdiPvsync =
      if HasBit ddiFuncCtl transDdiPvsync then transDdiPvsync else 0 :=
    and_shiftLeft ddiFuncCtl (by decide)
  have hPh : ddiFuncCtl &&& transDdiPhsync =
      if HasBit ddiFuncCtl transDdiPhsync then transDdiPhsync else 0 :=
    and_shiftLeft ddiFuncCtl (by decide)
  rw [← hPv, ← hPh, ← h.mode, ← BitVec.and_or_distrib_left, ← BitVec.and_or_distrib_left,
    ← BitVec.and_or_distrib_left]
  rfl

/-- What the bits of a computed register say. -/
theorem hasBit_computed (v h : Prop) [Decidable v] [Decidable h] {mode : Word}
    (hMode : mode &&& (transDdiPvsync ||| transDdiPhsync) = 0) (word : Word) :
    let computed := (word &&& transDdiBpcMask) ||| (if v then transDdiPvsync else 0) |||
      (if h then transDdiPhsync else 0) ||| mode
    (HasBit computed transDdiPhsync ↔ h) ∧ (HasBit computed transDdiPvsync ↔ v) ∧
      (HasBit computed transDdiModeSelectDpSst ↔ HasBit mode transDdiModeSelectDpSst) := by
  have hBpc {bit : Word} (hBit : transDdiBpcMask &&& bit = 0) :
      ¬ HasBit (word &&& transDdiBpcMask) bit := not_hasBit_and hBit word
  have hSync (bit : Word) (hBit : (transDdiPvsync ||| transDdiPhsync) &&& bit = bit) :
      ¬ HasBit mode bit := by
    rw [HasBit, ← hBit, ← BitVec.and_assoc, hMode]
    exact not_not.mpr BitVec.zero_and
  have hPh : HasBit transDdiPhsync transDdiPhsync := by decide
  have hPv : HasBit transDdiPvsync transDdiPvsync := by decide
  have hPhPv : ¬ HasBit transDdiPhsync transDdiPvsync := by decide
  have hPvPh : ¬ HasBit transDdiPvsync transDdiPhsync := by decide
  have hPhSst : ¬ HasBit transDdiPhsync transDdiModeSelectDpSst := by decide
  have hPvSst : ¬ HasBit transDdiPvsync transDdiModeSelectDpSst := by decide
  refine ⟨?_, ?_, ?_⟩
  · have hNone := hBpc (show transDdiBpcMask &&& transDdiPhsync = 0 by decide)
    have hOther := hSync transDdiPhsync (by decide)
    simp only [hasBit_or, hasBit_ite, hNone, hOther, hPh, hPvPh, false_or, or_false, and_true,
      and_false]
  · have hNone := hBpc (show transDdiBpcMask &&& transDdiPvsync = 0 by decide)
    have hOther := hSync transDdiPvsync (by decide)
    simp only [hasBit_or, hasBit_ite, hNone, hOther, hPv, hPhPv, false_or, or_false, and_true,
      and_false]
  · have hNone := hBpc (show transDdiBpcMask &&& transDdiModeSelectDpSst = 0 by decide)
    simp only [hasBit_or, hasBit_ite, hNone, hPhSst, hPvSst, false_or, and_false]

/-- The bits of a mode are none of the polarities. -/
theorem mode_and_sync (p q : Prop) [Decidable p] [Decidable q] :
    (if p then if q then transDdiModeSelectHdmi else transDdiModeSelectDvi
      else transDdiModeSelectDpSst) &&& (transDdiPvsync ||| transDdiPhsync) = 0 := by
  split
  · split
    · decide
    · decide
  · decide

/-- A mode that has the bit of DP is the one of DP. -/
theorem not_of_mode_hasBit {p q : Prop} [Decidable p] [Decidable q]
    (h : HasBit (if p then if q then transDdiModeSelectHdmi else transDdiModeSelectDvi
      else transDdiModeSelectDpSst) transDdiModeSelectDpSst) : ¬ p := by
  intro hType
  have hHdmi : ¬ HasBit transDdiModeSelectHdmi transDdiModeSelectDpSst := by decide
  have hDvi : ¬ HasBit transDdiModeSelectDvi transDdiModeSelectDpSst := by decide
  rw [if_pos hType] at h
  split at h
  · exact hHdmi h
  · exact hDvi h

/-- A value survives the round trip just when the state has no positive polarity that
the value has not, and is not one of HDMI. -/
theorem roundTrip_iff (h : SstValue ddiFuncCtl) :
    RoundTrip display ddiFuncCtl state ↔
      (HasBit state.flags phsync → HasBit ddiFuncCtl transDdiPhsync) ∧
        (HasBit state.flags pvsync → HasBit ddiFuncCtl transDdiPvsync) ∧
        ¬ HasBit state.outputTypes outputHdmi := by
  rw [RoundTrip, funcReg_and, sstValue_and h, readFuncCtl_pipeBpp display state h, modeBits_and,
    readFuncCtl_flags]
  simp only [hasBit_or, readFuncCtl_hdmi, hasBit_syncFlags, decide_eq_true_eq]
  constructor
  · intro hSame
    have hSst : HasBit transDdiModeSelectDpSst transDdiModeSelectDpSst := by decide
    have hRead := hasBit_computed (HasBit ddiFuncCtl transDdiPvsync)
      (HasBit ddiFuncCtl transDdiPhsync)
      (show transDdiModeSelectDpSst &&& (transDdiPvsync ||| transDdiPhsync) = 0 by decide)
      ddiFuncCtl
    have hWritten := hasBit_computed
      (HasBit state.flags pvsync ∨ HasBit ddiFuncCtl transDdiPvsync)
      (HasBit state.flags phsync ∨ HasBit ddiFuncCtl transDdiPhsync)
      (mode_and_sync (HasBit state.outputTypes outputHdmi)
        ((intelDdiReadFuncCtl display ddiFuncCtl state).hasHdmiSink = true)) ddiFuncCtl
    rw [hSame] at hWritten
    refine ⟨?_, ?_, ?_⟩
    · intro hFlag
      exact hRead.1.mp (hWritten.1.mpr (Or.inl hFlag))
    · intro hFlag
      exact hRead.2.1.mp (hWritten.2.1.mpr (Or.inl hFlag))
    · exact not_of_mode_hasBit (hWritten.2.2.mp (hRead.2.2.mpr hSst))
  · intro ⟨hPhsync, hPvsync, hHdmi⟩
    have hPh := or_iff_right_of_imp hPhsync
    have hPv := or_iff_right_of_imp hPvsync
    simp only [hPh, hPv, if_neg hHdmi]

end Decoder

end NootedBlue.Ddi
