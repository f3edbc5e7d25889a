import NootedBlue.Link.Status

/-! The drive settings of the source: what each lane is driven with, in answer
to what the sink asks for, within what the selected table of levels allows. -/
namespace NootedBlue.Link

/-- The tables of buffer translations that `tgl_get_combo_buf_trans` chooses
from. -/
inductive BufTrans where
  | iclComboPhyTransHdmi
  | iclComboPhyTransDpHbr2EdpHbr3
  | tglComboPhyTransEdpHbr2Hobl
  | iclComboPhyTransEdpHbr2
  | tglUyComboPhyTransDpHbr2
  | tglComboPhyTransDpHbr2
  | tglComboPhyTransDpHbr
  deriving DecidableEq, Repr

def BufTrans.numEntries : BufTrans → Nat
  | iclComboPhyTransHdmi => 7
  | tglComboPhyTransEdpHbr2Hobl => 9
  | _ => 10

/-- `index_to_dp_signal_levels`: the swing in bits 0 and 1, the pre-emphasis in
bits 3 and 4. -/
def indexToDpSignalLevels : List Nat :=
  [0 ||| 0 <<< 3, 0 ||| 1 <<< 3, 0 ||| 2 <<< 3, 0 ||| 3 <<< 3, 1 ||| 0 <<< 3, 1 ||| 1 <<< 3,
    1 ||| 2 <<< 3, 2 ||| 0 <<< 3, 2 ||| 1 <<< 3, 3 ||| 0 <<< 3]

/-- What the training of a link goes by: the panel, whose lanes are also those
of the pipe, the outputs of the pipe, the port clock and some bytes of the
DPCD. -/
structure DpLink where
  lanes : LaneCount
  hdmi : Bool
  edp : Bool
  hobl : Bool
  hoblFailed : Bool
  lowVswing : Bool
  tigerlakeUy : Bool
  portClock : Int
  displayVer : Nat
  dpcdRev : Nat
  dpcdMaxLaneCount : Nat
  dpcdMaxDownspread : Nat

namespace DpLink

/-- `intel_dp_is_uhbr`. -/
def isUhbr (link : DpLink) : Bool := 1000000 ≤ link.portClock

/-- `tgl_get_combo_buf_trans_dp`. -/
def tglGetComboBufTransDp (link : DpLink) : BufTrans :=
  if link.portClock > 270000 then
    if link.tigerlakeUy then .tglUyComboPhyTransDpHbr2 else .tglComboPhyTransDpHbr2
  else .tglComboPhyTransDpHbr

/-- `tgl_get_combo_buf_trans_edp`. -/
def tglGetComboBufTransEdp (link : DpLink) : BufTrans :=
  if link.portClock > 540000 then .iclComboPhyTransDpHbr2EdpHbr3
  else if link.hobl && !link.hoblFailed then .tglComboPhyTransEdpHbr2Hobl
  else if link.lowVswing then .iclComboPhyTransEdpHbr2
  else link.tglGetComboBufTransDp

/-- `tgl_get_combo_buf_trans`. -/
def tglGetComboBufTrans (link : DpLink) : BufTrans :=
  if link.hdmi then .iclComboPhyTransHdmi
  else if link.edp then link.tglGetComboBufTransEdp
  else link.tglGetComboBufTransDp

/-- `intel_ddi_dp_voltage_max`. -/
def intelDdiDpVoltageMax (link : DpLink) : Nat :=
  indexToDpSignalLevels.getD (link.tglGetComboBufTrans.numEntries - 1) 0 &&& 3

end DpLink

/-- Bits of `DP_TRAINING_LANEx_SET`. -/
def dpTrainMaxSwingReached : Nat := 1 <<< 2
def dpTrainMaxPreEmphasisReached : Nat := 1 <<< 5
def dpTrainVoltageSwingMask : Nat := 3
def dpTrainPreEmphasisMask : Nat := 3 <<< 3

/-- `dp_voltage_max`. -/
def dpVoltageMax (preemph : Nat) : Nat :=
  match (preemph &&& dpTrainPreEmphasisMask) >>> 3 with
  | 0 => 3
  | 1 => 2
  | 2 => 1
  | _ => 0

/-- `intel_dp_phy_preemph_max`. -/
def preemphMax : Nat := 3 <<< 3

/-- `intel_dp_get_lane_adjust_vswing_preemph`. A lane that is not in use is
driven like the last one that is. -/
def intelDpGetLaneAdjustVswingPreemph (link : DpLink) (status : LinkStatus) (lane : Nat) : Nat :=
  let lane := min lane (link.lanes.toNat - 1)
  let p := drmDpGetAdjustRequestPreEmphasis status lane
  let p := if p ≥ preemphMax then preemphMax ||| dpTrainMaxPreEmphasisReached else p
  let v := min (drmDpGetAdjustRequestVoltage status lane) (dpVoltageMax p)
  let v :=
    if v ≥ link.intelDdiDpVoltageMax then link.intelDdiDpVoltageMax ||| dpTrainMaxSwingReached else v
  v ||| p

/-- `intel_dp_get_lane_adjust_tx_ffe_preset`: all lanes get the highest preset
that an active one asks for. -/
def intelDpGetLaneAdjustTxFfePreset (link : DpLink) (status : LinkStatus) : Nat :=
  ((List.range link.lanes.toNat).map (drmDpGetAdjustTxFfePreset status)).foldl max 0

/-- `intel_dp_get_lane_adjust_train`. -/
def intelDpGetLaneAdjustTrain (link : DpLink) (status : LinkStatus) (lane : Nat) : Nat :=
  if link.isUhbr then intelDpGetLaneAdjustTxFfePreset link status
  else intelDpGetLaneAdjustVswingPreemph link status lane

/-- The `train_set` of all four lanes. -/
abbrev TrainSet := Fin 4 → Nat

/-- `intel_dp_get_adjust_train`: a lane that has its new setting already keeps
it. -/
def intelDpGetAdjustTrain (link : DpLink) (status : LinkStatus) (trainSet : TrainSet) : TrainSet :=
  fun lane =>
    let new := intelDpGetLaneAdjustTrain link status lane
    if trainSet lane = new then trainSet lane else new

/-- `intel_dp_adjust_request_changed`. -/
def intelDpAdjustRequestChanged (link : DpLink) (old new : LinkStatus) : Bool :=
  (List.range link.lanes.toNat).any fun lane =>
    let before :=
      if link.isUhbr then drmDpGetAdjustTxFfePreset old lane
      else drmDpGetAdjustRequestVoltage old lane ||| drmDpGetAdjustRequestPreEmphasis old lane
    before ≠ (drmDpGetAdjustRequestVoltage new lane ||| drmDpGetAdjustRequestPreEmphasis new lane)

/-- The voltage swing and the pre-emphasis of a drive setting. -/
def swing (setting : Nat) : Nat := setting &&& dpTrainVoltageSwingMask

def preEmphasis (setting : Nat) : Nat := (setting &&& dpTrainPreEmphasisMask) >>> 3

/-- `intel_dp_lane_max_vswing_reached`. -/
def intelDpLaneMaxVswingReached (setting : Nat) : Bool :=
  setting &&& dpTrainMaxSwingReached ≠ 0 && swing setting + preEmphasis setting = 3

/-- `intel_dp_lane_max_tx_ffe_reached`. -/
def intelDpLaneMaxTxFfeReached (setting : Nat) : Bool := setting &&& 0xF = 0xF

/-- The settings of the lanes in use. -/
def LaneCount.active (lanes : LaneCount) (trainSet : TrainSet) : List Nat :=
  match lanes with
  | one => [trainSet 0]
  | two => [trainSet 0, trainSet 1]
  | four => [trainSet 0, trainSet 1, trainSet 2, trainSet 3]

/-- The last lane in use. -/
def LaneCount.last : LaneCount → Fin 4
  | one => 0
  | two => 1
  | four => 3

/-- `intel_dp_link_max_vswing_reached`. -/
def intelDpLinkMaxVswingReached (link : DpLink) (trainSet : TrainSet) : Bool :=
  (link.lanes.active trainSet).all
    (if link.isUhbr then intelDpLaneMaxTxFfeReached else intelDpLaneMaxVswingReached)

theorem LaneCount.toNat_le_four (lanes : LaneCount) : lanes.toNat ≤ 4 := by
  cases lanes <;> decide

theorem LaneCount.all_active_iff (lanes : LaneCount) (trainSet : TrainSet) (p : Nat → Bool) :
    (lanes.active trainSet).all p = true ↔
      ∀ lane : Fin 4, lane < lanes.toNat → p (trainSet lane) = true := by
  cases lanes <;> simp [LaneCount.active, LaneCount.toNat, Fin.forall_fin_succ]

/-- The drive settings depend on the last status only. -/
theorem adjustTrain_apply (link : DpLink) (status : LinkStatus) (trainSet : TrainSet) (lane : Fin 4) :
    intelDpGetAdjustTrain link status trainSet lane = intelDpGetLaneAdjustTrain link status lane := by
  unfold intelDpGetAdjustTrain
  dsimp only
  split
  · next hSame => exact hSame
  · rfl

end NootedBlue.Link
