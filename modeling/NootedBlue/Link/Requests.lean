import Mathlib.Algebra.Order.Group.Int
import NootedBlue.Link.Drive

/-! The comparison of two link statuses: whether the sink asks for something else
on an active lane. With a UHBR port clock a preset is compared with a swing and a
pre-emphasis, in whose encoding the upper two bits stand one place higher. -/
namespace NootedBlue.Link

/-- The request of a lane as the driver reports it: `voltage` and `preEmphasis` of
`para0`, and the same of `para`, if there is one. -/
structure DpParameters where
  para : Option (Nat × Nat)
  para0 : Nat × Nat
  deriving DecidableEq

/-- The lines that report a request. -/
def DpParameters.report (parameters : DpParameters) (n1 n2 : Nat) : DpParameters where
  para := parameters.para.map fun _ => (n1, n2)
  para0 := (n1, n2)

theorem DpParameters.report_report (parameters : DpParameters) (a b c d : Nat) :
    (parameters.report a b).report c d = parameters.report c d := by
  cases parameters with
  | mk para para0 => cases para <;> rfl

/-- The value that a lane of the new status is compared with. -/
def oldRequest (uhbr : Bool) (old : LinkStatus) (lane : Nat) : Nat :=
  if uhbr then drmDpGetAdjustTxFfePreset old lane
  else drmDpGetAdjustRequestVoltage old lane ||| drmDpGetAdjustRequestPreEmphasis old lane

/-- The loop of `intel_dp_adjust_request_changed` over the lanes that are left. The
preset of the new status is overwritten before it is used. -/
def requestChangedLoop (uhbr : Bool) (old new : LinkStatus) :
    List Nat → DpParameters → Bool × DpParameters
  | [], parameters => (false, parameters)
  | lane :: rest, parameters =>
      let n1 := drmDpGetAdjustRequestVoltage new lane
      let n2 := drmDpGetAdjustRequestPreEmphasis new lane
      let new2 := n1 ||| n2
      if oldRequest uhbr old lane ≠ new2 then (true, parameters.report n1 n2)
      else requestChangedLoop uhbr old new rest (parameters.report n1 n2)

/-- `intel_dp_adjust_request_changed`, for any number of the four lanes of a status. -/
def requestChanged (portClock : Int) (lanes : Nat) (old new : LinkStatus)
    (parameters : DpParameters) : Bool × DpParameters :=
  requestChangedLoop (1000000 ≤ portClock) old new (List.range lanes) parameters

/-- A lane asks for something else: for another preset with a UHBR port clock, for
another swing or pre-emphasis otherwise. -/
def RequestDiffers (portClock : Int) (old new : LinkStatus) (lane : Nat) : Prop :=
  if 1000000 ≤ portClock then
    drmDpGetAdjustTxFfePreset old lane ≠ drmDpGetAdjustTxFfePreset new lane
  else
    drmDpGetAdjustRequestVoltage old lane ≠ drmDpGetAdjustRequestVoltage new lane ∨
      drmDpGetAdjustRequestPreEmphasis old lane ≠ drmDpGetAdjustRequestPreEmphasis new lane

/-- The comparison finds a change just when an active lane asks for something
else. -/
def ReportsChange (portClock : Int) (lanes : Nat) (old new : LinkStatus)
    (parameters : DpParameters) : Prop :=
  (requestChanged portClock lanes old new parameters).1 = true ↔
    ∃ lane < lanes, RequestDiffers portClock old new lane

/-- A preset in the encoding of swing and pre-emphasis: its upper two bits stand
one place higher. -/
def asLevels (preset : Nat) : Nat := preset / 4 * 8 + preset % 4

/-- When the comparison is right with a UHBR port clock: no lane asks for a preset
of 4 or more, or some lane asks for another preset, and not every old preset reads
like the new one in the other encoding. -/
def PresetsComparable (lanes : Nat) (old new : LinkStatus) : Prop :=
  (∀ lane < lanes, drmDpGetAdjustTxFfePreset new lane < 4) ∨
    (∃ lane < lanes, drmDpGetAdjustTxFfePreset old lane ≠ drmDpGetAdjustTxFfePreset new lane) ∧
      ∃ lane < lanes,
        drmDpGetAdjustTxFfePreset old lane ≠ asLevels (drmDpGetAdjustTxFfePreset new lane)

section Loop

variable {uhbr : Bool} {old new : LinkStatus} {parameters : DpParameters}

theorem levels_eq_asLevels (status : LinkStatus) (lane : Nat) :
    (drmDpGetAdjustRequestVoltage status lane ||| drmDpGetAdjustRequestPreEmphasis status lane) =
      asLevels (request status lane) := adjustRequest_eq status lane

/-- The early exit does not change the answer. -/
theorem requestChangedLoop_iff (lanes : List Nat) :
    (requestChangedLoop uhbr old new lanes parameters).1 = true ↔
      ∃ lane ∈ lanes, oldRequest uhbr old lane ≠ asLevels (request new lane) := by
  induction lanes generalizing parameters with
  | nil => simp [requestChangedLoop]
  | cons lane rest ih =>
      simp only [requestChangedLoop, levels_eq_asLevels, List.mem_cons, exists_eq_or_imp]
      by_cases hChanged : oldRequest uhbr old lane ≠ asLevels (request new lane)
      · rw [if_pos hChanged]
        exact iff_of_true rfl (Or.inl hChanged)
      · rw [if_neg hChanged, ih, or_iff_right hChanged]

/-- Without a change the request of the last lane is reported. -/
theorem requestChangedLoop_parameters {lane : Nat} {lanes : List Nat}
    (h : (requestChangedLoop uhbr old new (lanes ++ [lane]) parameters).1 = false) :
    (requestChangedLoop uhbr old new (lanes ++ [lane]) parameters).2 =
      parameters.report (drmDpGetAdjustRequestVoltage new lane)
        (drmDpGetAdjustRequestPreEmphasis new lane) := by
  induction lanes generalizing parameters with
  | nil =>
      simp only [List.nil_append, requestChangedLoop]
      split <;> rfl
  | cons first rest ih =>
      simp only [List.cons_append, requestChangedLoop] at h ⊢
      split at h
      · cases h
      · rename_i hSame
        rw [if_neg hSame, ih h, DpParameters.report_report]

end Loop

section Comparison

variable {portClock : Int} {lanes : Nat} {old new : LinkStatus} {parameters : DpParameters}

/-- What a training run takes from the comparison. -/
theorem requestChanged_eq (link : DpLink) :
    (requestChanged link.portClock link.lanes.toNat old new parameters).1 =
      intelDpAdjustRequestChanged link old new := by
  rw [Bool.eq_iff_iff, requestChanged, requestChangedLoop_iff, intelDpAdjustRequestChanged,
    List.any_eq_true]
  simp only [oldRequest, DpLink.isUhbr, levels_eq_asLevels, List.mem_range, decide_eq_true_eq]

theorem requestChanged_iff :
    (requestChanged portClock lanes old new parameters).1 = true ↔
      ∃ lane < lanes, oldRequest (1000000 ≤ portClock) old lane ≠ asLevels (request new lane) := by
  simp only [requestChanged, requestChangedLoop_iff, List.mem_range]

theorem asLevels_eq_self {preset : Nat} : asLevels preset = preset ↔ preset < 4 := by
  rw [asLevels]
  omega

/-- Swing and pre-emphasis are all of a request. -/
theorem levels_differ_iff {lane : Nat} :
    (drmDpGetAdjustRequestVoltage old lane ≠ drmDpGetAdjustRequestVoltage new lane ∨
        drmDpGetAdjustRequestPreEmphasis old lane ≠ drmDpGetAdjustRequestPreEmphasis new lane) ↔
      asLevels (request old lane) ≠ asLevels (request new lane) := by
  simp only [adjustRequestVoltage_eq, adjustRequestPreEmphasis_eq, Nat.shiftLeft_eq, asLevels]
  omega

/-- With an 8b/10b port clock the comparison is right. -/
theorem reportsChange_of_levels (hClock : portClock < 1000000) :
    ReportsChange portClock lanes old new parameters := by
  have hNot : ¬ 1000000 ≤ portClock := not_le.mpr hClock
  simp only [ReportsChange, requestChanged_iff, RequestDiffers, oldRequest, hNot, decide_false,
    Bool.false_eq_true, if_false, levels_eq_asLevels, levels_differ_iff]

/-- With a UHBR port clock the loop compares two encodings. -/
theorem reportsChange_iff_of_presets (hClock : 1000000 ≤ portClock) :
    ReportsChange portClock lanes old new parameters ↔
      ((∃ lane < lanes, request old lane ≠ asLevels (request new lane)) ↔
        ∃ lane < lanes, request old lane ≠ request new lane) := by
  simp only [ReportsChange, requestChanged_iff, RequestDiffers, oldRequest, hClock, decide_true,
    if_true, txFfePreset_eq_request]

theorem presetsComparable_iff :
    PresetsComparable lanes old new ↔
      ((∃ lane < lanes, request old lane ≠ asLevels (request new lane)) ↔
        ∃ lane < lanes, request old lane ≠ request new lane) := by
  simp only [PresetsComparable, txFfePreset_eq_request]
  constructor
  · rintro (hSmall | ⟨hDiffers, hReads⟩)
    · refine exists_congr fun lane => and_congr_right fun hActive => ?_
      rw [asLevels_eq_self.mpr (hSmall lane hActive)]
    · exact iff_of_true hReads hDiffers
  · intro h
    by_cases hDiffers : ∃ lane < lanes, request old lane ≠ request new lane
    · exact Or.inr ⟨hDiffers, h.mpr hDiffers⟩
    · refine Or.inl fun lane hActive => asLevels_eq_self.mp ?_
      have hSame : request old lane = request new lane :=
        not_not.mp fun hNe => hDiffers ⟨lane, hActive, hNe⟩
      have hReads : request old lane = asLevels (request new lane) :=
        not_not.mp fun hNe => hDiffers (h.mp ⟨lane, hActive, hNe⟩)
      exact hReads.symm.trans hSame

end Comparison

/-- The comparison is right with an 8b/10b port clock, and with a UHBR port clock just
when the two encodings do not get in the way. -/
theorem reports_change_iff (portClock : Int) (lanes : Nat) (old new : LinkStatus)
    (parameters : DpParameters) :
    ReportsChange portClock lanes old new parameters ↔
      portClock < 1000000 ∨ PresetsComparable lanes old new := by
  rcases lt_or_ge portClock 1000000 with hLevels | hPresets
  · exact iff_of_true (reportsChange_of_levels hLevels) (Or.inl hLevels)
  · rw [reportsChange_iff_of_presets hPresets, or_iff_right (not_lt.mpr hPresets),
      presetsComparable_iff]

/-- A status that asks for preset 4 on the first lane. -/
def presetFour : LinkStatus := fun i => if i.val = 4 then 4 else 0

/-- The status is found to differ from itself. -/
theorem same_preset_reported :
    ¬ ReportsChange 1000000 1 presetFour presetFour ⟨none, (0, 0)⟩ := by
  intro h
  obtain ⟨lane, _, hDiffers⟩ := h.mp (by decide)
  exact hDiffers rfl

end NootedBlue.Link
