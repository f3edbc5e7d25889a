import NootedBlue.Combo.Registers
import NootedBlue.Ddi.PortSync
import NootedBlue.Link.Levels
import NootedBlue.Link.Rates

/-! The source side of a link: the transport of the transcoder, which sends the training
patterns, the buffer of the port, and the PHY, which drives the lanes. -/
namespace NootedBlue.Bringup

open Interaction Bits Link
open Combo (PhyOp PhyAnswer Phy iclPortClDw iclPortTxDwGrp iclPortTxDwLn iclPortPcsDwGrp iclPortPcsDwLn)
open Ddi (Transcoder DdiDisplay CrtcState SyncState HasBit outputHdmi outputEdp)

abbrev Word := BitVec 32

/-- What bringing up a link does: to the registers of the source, to those of the sink over
the AUX channel, or nothing but wait. The power of the panel is in the hands of the
controller's own function, which only writes the registers of the panel power sequencer. -/
inductive LinkOp where
  | mmio (op : PhyOp)
  | aux (op : Aux)
  | readAux (register count : Nat)
  | fsleep (usecs : Nat)
  | ioSleep (msecs : Nat)
  | intelDeWaitMs (reg : Nat) (mask value : Word) (timeoutMs : Nat)
  | hwSetPanelPower (state : Nat)
  deriving DecidableEq, Repr

/-- A read over the AUX channel answers what is in the buffer afterwards, too. -/
abbrev LinkAnswer : LinkOp → Type
  | .mmio op => PhyAnswer op
  | .aux op => AuxAnswer op
  | .readAux _ count => Int × (Fin count → Byte)
  | .fsleep _ => Unit
  | .ioSleep _ => Unit
  | .intelDeWaitMs _ _ _ _ => Int
  | .hwSetPanelPower _ => Unit

abbrev LinkProgram := Program LinkOp LinkAnswer

abbrev LinkExchange := Exchange LinkAnswer

def intelDeRead (reg : Nat) : LinkProgram Word := Program.perform (LinkOp.mmio (.read reg))

def intelDePostingRead (reg : Nat) : LinkProgram Unit := do
  let _ ← intelDeRead reg
  return ()

def intelDeWrite (reg : Nat) (value : Word) : LinkProgram Unit :=
  Program.perform (LinkOp.mmio (.write reg value))

def intelDeRmw (reg : Nat) (clear set : Word) : LinkProgram Unit := do
  let old ← intelDeRead reg
  intelDeWrite reg ((old &&& ~~~clear) ||| set)

def intelDeWaitForSetMs (reg : Nat) (mask : Word) (timeoutMs : Nat) : LinkProgram Int :=
  Program.perform (LinkOp.intelDeWaitMs reg mask mask timeoutMs)

def intelDeWaitForClearMs (reg : Nat) (mask : Word) (timeoutMs : Nat) : LinkProgram Int :=
  Program.perform (LinkOp.intelDeWaitMs reg mask 0 timeoutMs)

def ioSleep (msecs : Nat) : LinkProgram Unit := Program.perform (LinkOp.ioSleep msecs)

def writeAux (register : Nat) (bytes : List Nat) : LinkProgram Int :=
  Program.perform (LinkOp.aux (.write register bytes))

def readAux (register count : Nat) : LinkProgram (Int × (Fin count → Byte)) :=
  Program.perform (LinkOp.readAux register count)

/-- What `intel_dp->dpcd` holds. -/
abbrev Dpcd := Fin 15 → Byte

namespace Dpcd

/-- `DP_DPCD_REV`, `DP_MAX_LANE_COUNT`, `DP_MAX_DOWNSPREAD`, `DP_DOWNSTREAMPORT_PRESENT` and
`DP_TRAINING_AUX_RD_INTERVAL`. -/
def rev (dpcd : Dpcd) : Byte := dpcd 0
def maxLaneCount (dpcd : Dpcd) : Byte := dpcd 2
def maxDownspread (dpcd : Dpcd) : Byte := dpcd 3
def downstreamportPresent (dpcd : Dpcd) : Byte := dpcd 5
def trainingAuxRdInterval (dpcd : Dpcd) : Byte := dpcd 14

end Dpcd

/-- What the source of a link is: its port, with a combo PHY, the transcoder and the state of
the pipe, and what is kept in the display and in `intel_dp` beside them. -/
structure LinkSource where
  ddi : DdiDisplay
  hPort : ddi.port < 9
  phy : Phy
  hPhy : phy.index ≤ 4
  crtc : CrtcState
  transcoder : Transcoder
  hTranscoder : crtc.isTranscoderEdp = decide (transcoder = .edp)
  sync : SyncState
  laneReversal : Bool
  lanes : LaneCount
  hLanes : crtc.laneCount = .ofNat 8 lanes.toNat
  portClock : Int
  displayPortClock : Nat
  enhancedFraming : Bool
  vrrInRange : Bool
  hobl : Bool
  hoblFailed : Bool
  lowVswing : Bool
  tigerlakeUy : Bool
  dp : IntelDp

/-- The registers of a transcoder, from those of the first one on. -/
def transOffset : Transcoder → Nat
  | .a => 0
  | .b => 0x1000
  | .c => 0x2000
  | .d => 0x3000
  | .edp => 0xf000
  | .dsi0 => 0xb000
  | .dsi1 => 0xb800

/-- `INTEL_OUTPUT_DP_MST`. -/
def outputDpMst : Word := 1 <<< 11

namespace LinkSource

variable (source : LinkSource)

/-- The link as its training finds it, when the sink has said this of itself. -/
def link (dpcd : Dpcd) : DpLink where
  lanes := source.lanes
  hdmi := HasBit source.crtc.outputTypes outputHdmi
  edp := HasBit source.crtc.outputTypes outputEdp
  hobl := source.hobl
  hoblFailed := source.hoblFailed
  lowVswing := source.lowVswing
  tigerlakeUy := source.tigerlakeUy
  portClock := source.portClock
  displayVer := source.ddi.info.ver
  dpcdRev := dpcd.rev.toNat
  dpcdMaxLaneCount := dpcd.maxLaneCount.toNat
  dpcdMaxDownspread := dpcd.maxDownspread.toNat

/-- The link as far as the PHY goes by it, which is not by what the sink says of itself. -/
def levels : DpLink := source.link fun _ => 0

/-- `intel_crtc_has_type(crtc_state, INTEL_OUTPUT_DP_MST)`. -/
def isMst : Bool := HasBit source.crtc.outputTypes outputDpMst

/-- `intel_dp_is_uhbr`. -/
def isUhbr : Bool := 1000000 ≤ source.portClock

/-- `is_trans_port_sync_mode`: the transcoder leads others, or follows one. -/
def isTransPortSyncMode : Bool :=
  source.sync.syncModeSlavesMask ≠ 0 ∨ source.sync.masterTranscoder ≠ none

/-- `dp_tp_ctl_reg`, `dp_tp_status_reg` and `DDI_BUF_CTL`. -/
def dpTpCtlReg : Nat := 0x60540 + transOffset source.transcoder

def dpTpStatusReg : Nat :=
  if source.ddi.info.ver ≥ 12 then 0x60544 + transOffset source.transcoder
  else 0x64044 + source.ddi.port * 0x100

def ddiBufCtl : Nat := 0x64000 + source.ddi.port * 0x100

/-- `TRANS_DDI_FUNC_CTL`, `TRANS_CLK_SEL` and `TRANSCONF`. -/
def funcCtlReg : Nat := 0x60400 + transOffset source.transcoder

def transClkSelReg : Nat := 0x46140 + source.transcoder.index * 4

def transConfReg : Nat := 0x70008 + transOffset source.transcoder

end LinkSource

/-- `DP_TP_CTL_ENABLE`, `DP_TP_CTL_MODE_MST`, `DP_TP_CTL_ENHANCED_FRAME_ENABLE` and the field of
`DP_TP_CTL_LINK_TRAIN_MASK`. -/
def dpTpCtlEnable : Word := 1 <<< 31
def dpTpCtlModeMst : Word := 1 <<< 27
def dpTpCtlEnhancedFrameEnable : Word := 1 <<< 18
def dpTpCtlLinkTrain : Field := ⟨8, 3⟩

/-- `DP_TP_CTL_LINK_TRAIN_IDLE`, `_NORMAL`, `_PAT1`, `_PAT2`, `_PAT3` and `_PAT4`. -/
def linkTrainIdle : Word := dpTpCtlLinkTrain.prep 2
def linkTrainNormal : Word := dpTpCtlLinkTrain.prep 3
def linkTrainPat1 : Word := dpTpCtlLinkTrain.prep 0
def linkTrainPat2 : Word := dpTpCtlLinkTrain.prep 1
def linkTrainPat3 : Word := dpTpCtlLinkTrain.prep 4
def linkTrainPat4 : Word := dpTpCtlLinkTrain.prep 5

/-- `DDI_BUF_CTL_ENABLE`, `DDI_BUF_IS_IDLE` and `DP_TP_STATUS_IDLE_DONE`. -/
def ddiBufCtlEnable : Word := 1 <<< 31
def ddiBufIsIdle : Word := 1 <<< 7
def dpTpStatusIdleDone : Word := 1 <<< 25

/-- `intel_dp_training_pattern_symbol`. -/
def intelDpTrainingPatternSymbol (pattern : Nat) : BitVec 8 :=
  .ofNat 8 pattern &&& ~~~(.ofNat 8 dpLinkScramblingDisable)

/-- The bits for a pattern. No other pattern has any. -/
def linkTrainBits (pattern : Nat) : Word :=
  let symbol := intelDpTrainingPatternSymbol pattern
  if symbol = 0 then linkTrainNormal
  else if symbol = 1 then linkTrainPat1
  else if symbol = 2 then linkTrainPat2
  else if symbol = 3 then linkTrainPat3
  else if symbol = 7 then linkTrainPat4
  else 0

/-- `intel_ddi_set_link_train`, which is all of `intel_dp_program_link_training_pattern`. -/
def intelDdiSetLinkTrain (source : LinkSource) (pattern : Nat) : LinkProgram Unit := do
  let temp ← intelDeRead source.dpTpCtlReg
  intelDeWrite source.dpTpCtlReg ((temp &&& ~~~dpTpCtlLinkTrain.mask) ||| linkTrainBits pattern)

/-- `struct icl_ddi_buf_trans`. -/
structure IclDdiBufTrans where
  dw2SwingSel : Word
  dw7NScalar : Word
  dw4CursorCoeff : Word
  dw4PostCursor2 : Word
  dw4PostCursor1 : Word
  deriving DecidableEq, Repr

/-- The entries of a table. -/
def entries : BufTrans → List IclDdiBufTrans
  | .iclComboPhyTransHdmi =>
      [⟨0xA, 0x60, 0x3F, 0x00, 0x00⟩, ⟨0xB, 0x73, 0x36, 0x00, 0x09⟩, ⟨0x6, 0x7F, 0x31, 0x00, 0x0E⟩,
        ⟨0xB, 0x73, 0x3F, 0x00, 0x00⟩, ⟨0x6, 0x7F, 0x37, 0x00, 0x08⟩, ⟨0x6, 0x7F, 0x3F, 0x00, 0x00⟩,
        ⟨0x6, 0x7F, 0x35, 0x00, 0x0A⟩]
  | .iclComboPhyTransDpHbr2EdpHbr3 =>
      [⟨0xA, 0x35, 0x3F, 0x00, 0x00⟩, ⟨0xA, 0x4F, 0x37, 0x00, 0x08⟩, ⟨0xC, 0x71, 0x2F, 0x00, 0x10⟩,
        ⟨0x6, 0x7F, 0x2B, 0x00, 0x14⟩, ⟨0xA, 0x4C, 0x3F, 0x00, 0x00⟩, ⟨0xC, 0x73, 0x34, 0x00, 0x0B⟩,
        ⟨0x6, 0x7F, 0x2F, 0x00, 0x10⟩, ⟨0xC, 0x6C, 0x3C, 0x00, 0x03⟩, ⟨0x6, 0x7F, 0x35, 0x00, 0x0A⟩,
        ⟨0x6, 0x7F, 0x3F, 0x00, 0x00⟩]
  | .tglComboPhyTransEdpHbr2Hobl => List.replicate 9 ⟨0x6, 0x7F, 0x3F, 0x00, 0x00⟩
  | .iclComboPhyTransEdpHbr2 =>
      [⟨0x0, 0x7F, 0x3F, 0x00, 0x00⟩, ⟨0x8, 0x7F, 0x38, 0x00, 0x07⟩, ⟨0x1, 0x7F, 0x33, 0x00, 0x0C⟩,
        ⟨0x9, 0x7F, 0x31, 0x00, 0x0E⟩, ⟨0x8, 0x7F, 0x3F, 0x00, 0x00⟩, ⟨0x1, 0x7F, 0x38, 0x00, 0x07⟩,
        ⟨0x9, 0x7F, 0x35, 0x00, 0x0A⟩, ⟨0x1, 0x7F, 0x3F, 0x00, 0x00⟩, ⟨0x9, 0x7F, 0x38, 0x00, 0x07⟩,
        ⟨0x9, 0x7F, 0x3F, 0x00, 0x00⟩]
  | .tglUyComboPhyTransDpHbr2 =>
      [⟨0xA, 0x35, 0x3F, 0x00, 0x00⟩, ⟨0xA, 0x4F, 0x36, 0x00, 0x09⟩, ⟨0xC, 0x60, 0x32, 0x00, 0x0D⟩,
        ⟨0xC, 0x7F, 0x2D, 0x00, 0x12⟩, ⟨0xC, 0x47, 0x3F, 0x00, 0x00⟩, ⟨0xC, 0x6F, 0x36, 0x00, 0x09⟩,
        ⟨0x6, 0x7D, 0x32, 0x00, 0x0D⟩, ⟨0x6, 0x60, 0x3C, 0x00, 0x03⟩, ⟨0x6, 0x7F, 0x34, 0x00, 0x0B⟩,
        ⟨0x6, 0x7F, 0x3F, 0x00, 0x00⟩]
  | .tglComboPhyTransDpHbr2 =>
      [⟨0xA, 0x35, 0x3F, 0x00, 0x00⟩, ⟨0xA, 0x4F, 0x37, 0x00, 0x08⟩, ⟨0xC, 0x63, 0x2F, 0x00, 0x10⟩,
        ⟨0x6, 0x7F, 0x2B, 0x00, 0x14⟩, ⟨0xA, 0x47, 0x3F, 0x00, 0x00⟩, ⟨0xC, 0x63, 0x34, 0x00, 0x0B⟩,
        ⟨0x6, 0x7F, 0x2F, 0x00, 0x10⟩, ⟨0xC, 0x61, 0x3C, 0x00, 0x03⟩, ⟨0x6, 0x7B, 0x35, 0x00, 0x0A⟩,
        ⟨0x6, 0x7F, 0x3F, 0x00, 0x00⟩]
  | .tglComboPhyTransDpHbr =>
      [⟨0xA, 0x32, 0x3F, 0x00, 0x00⟩, ⟨0xA, 0x4F, 0x37, 0x00, 0x08⟩, ⟨0xC, 0x71, 0x2F, 0x00, 0x10⟩,
        ⟨0x6, 0x7D, 0x2B, 0x00, 0x14⟩, ⟨0xA, 0x4C, 0x3F, 0x00, 0x00⟩, ⟨0xC, 0x73, 0x34, 0x00, 0x0B⟩,
        ⟨0x6, 0x7F, 0x2F, 0x00, 0x10⟩, ⟨0xC, 0x6C, 0x3C, 0x00, 0x03⟩, ⟨0x6, 0x7F, 0x35, 0x00, 0x0A⟩,
        ⟨0x6, 0x7F, 0x3F, 0x00, 0x00⟩]

/-- The tables have as many entries as they say. -/
theorem entries_length (trans : BufTrans) : (entries trans).length = trans.numEntries := by
  cases trans <;> rfl

/-- `trans->entries[level]`, for the level of a lane. -/
def entryOf (source : LinkSource) (trainSet : TrainSet) (ln : Fin 4) : IclDdiBufTrans :=
  (entries source.levels.tglGetComboBufTrans).getD (intelDdiLevel source.levels trainSet ln)
    ⟨0, 0, 0, 0, 0⟩

/-- No lane is driven with anything that is not in the table. -/
theorem entryOf_mem (source : LinkSource) (trainSet : TrainSet) (ln : Fin 4) :
    entryOf source trainSet ln ∈ entries source.levels.tglGetComboBufTrans := by
  have hPos := BufTrans.numEntries_pos source.levels.tglGetComboBufTrans
  have hLt : intelDdiLevel source.levels trainSet ln <
      (entries source.levels.tglGetComboBufTrans).length := by
    rw [entries_length, intelDdiLevel]
    split <;> omega
  rw [entryOf, List.getD_eq_getElem _ _ hLt]
  exact List.getElem_mem hLt

/-- `SWING_SEL_UPPER`, `SWING_SEL_LOWER` and `RCOMP_SCALAR`. -/
def swingSelUpper : Field := ⟨15, 1⟩
def swingSelLower : Field := ⟨11, 3⟩
def rcompScalar : Field := ⟨0, 8⟩

/-- `POST_CURSOR_1`, `POST_CURSOR_2` and `CURSOR_COEFF`. -/
def postCursor1 : Field := ⟨12, 6⟩
def postCursor2 : Field := ⟨6, 6⟩
def cursorCoeff : Field := ⟨0, 6⟩

/-- `N_SCALAR`, `SCALING_MODE_SEL` and `RTERM_SELECT`. -/
def nScalar : Field := ⟨24, 7⟩
def scalingModeSel : Field := ⟨18, 3⟩
def rtermSelect : Field := ⟨3, 3⟩

/-- `COEFF_POLARITY`, `CURSOR_PROGRAM`, `TAP2_DISABLE`, `TAP3_DISABLE` and `TX_TRAINING_EN`. -/
def coeffPolarity : Word := 1 <<< 25
def cursorProgram : Word := 1 <<< 26
def tap2Disable : Word := 1 <<< 30
def tap3Disable : Word := 1 <<< 29
def txTrainingEn : Word := 1 <<< 31

/-- `LOADGEN_SELECT`, `COMMON_KEEPER_EN`, `SUS_CLOCK_CONFIG` and the two bits
`EDP4K2K_MODE_OVRD_EN` and `EDP4K2K_MODE_OVRD_OPTIMIZED`. -/
def loadgenSelect : Word := 1 <<< 31
def commonKeeperEn : Word := 1 <<< 26
def susClockConfig : Word := 3
def edp4k2kModeOvrd : Word := 1 <<< 3 ||| 1 <<< 2

/-- The bits of `ICL_PORT_TX_DW2`, `_DW4` and `_DW7` for an entry, and their masks. -/
def dw2Mask : Word := swingSelUpper.mask ||| swingSelLower.mask ||| rcompScalar.mask

def dw2Bits (entry : IclDdiBufTrans) : Word :=
  swingSelUpper.prep (entry.dw2SwingSel >>> 3) ||| swingSelLower.prep (entry.dw2SwingSel &&& 7) |||
    rcompScalar.prep 0x98

def dw4Mask : Word := postCursor1.mask ||| postCursor2.mask ||| cursorCoeff.mask

def dw4Bits (entry : IclDdiBufTrans) : Word :=
  postCursor1.prep entry.dw4PostCursor1 ||| postCursor2.prep entry.dw4PostCursor2 |||
    cursorCoeff.prep entry.dw4CursorCoeff

def dw7Bits (entry : IclDdiBufTrans) : Word := nScalar.prep entry.dw7NScalar

theorem zero_lt_four : 0 < 4 := by decide
theorem one_lt_four : 1 < 4 := by decide
theorem two_lt_four : 2 < 4 := by decide
theorem three_lt_four : 3 < 4 := by decide

/-- The lane whose registers are read for all. -/
def firstLane : Fin 4 := ⟨0, zero_lt_four⟩

/-- A loop over the four lanes. -/
def eachLane (body : Fin 4 → LinkProgram Unit) : LinkProgram Unit := do
  body firstLane
  body ⟨1, one_lt_four⟩
  body ⟨2, two_lt_four⟩
  body ⟨3, three_lt_four⟩

/-- What `icl_ddi_combo_vswing_program` does for an eDP output. -/
def programHobl (source : LinkSource) : LinkProgram Unit :=
  if source.levels.edp then
    intelDeRmw (iclPortClDw 10 source.phy) edp4k2kModeOvrd
      (if source.levels.tglGetComboBufTrans = .tglComboPhyTransEdpHbr2Hobl then edp4k2kModeOvrd
        else 0)
  else return ()

/-- `icl_ddi_combo_vswing_program`. -/
def iclDdiComboVswingProgram (source : LinkSource) (trainSet : TrainSet) : LinkProgram Unit := do
  programHobl source
  let val ← intelDeRead (iclPortTxDwLn 5 0 source.phy)
  intelDeWrite (iclPortTxDwGrp 5 source.phy)
    ((val &&& ~~~(scalingModeSel.mask ||| rtermSelect.mask ||| coeffPolarity ||| cursorProgram |||
        tap2Disable ||| tap3Disable)) |||
      scalingModeSel.prep 2 ||| rtermSelect.prep 6 ||| tap3Disable)
  eachLane fun ln => intelDeRmw (iclPortTxDwLn 2 ln source.phy) dw2Mask
    (dw2Bits (entryOf source trainSet ln))
  eachLane fun ln => intelDeRmw (iclPortTxDwLn 4 ln source.phy) dw4Mask
    (dw4Bits (entryOf source trainSet ln))
  eachLane fun ln => intelDeRmw (iclPortTxDwLn 7 ln source.phy) nScalar.mask
    (dw7Bits (entryOf source trainSet ln))

/-- `icl_combo_phy_loadgen_select`. -/
def iclComboPhyLoadgenSelect (source : LinkSource) (lane : Fin 4) : Word :=
  if source.displayPortClock > 600000 then 0
  else if source.lanes.toNat = 4 then if (lane : Nat) ≥ 1 then loadgenSelect else 0
  else if (lane : Nat) = 1 ∨ (lane : Nat) = 2 then loadgenSelect else 0

/-- `icl_combo_phy_set_signal_levels`. -/
def iclComboPhySetSignalLevels (source : LinkSource) (trainSet : TrainSet) : LinkProgram Unit := do
  let val ← intelDeRead (iclPortPcsDwLn 1 0 source.phy)
  intelDeWrite (iclPortPcsDwGrp 1 source.phy)
    (if source.levels.hdmi then val &&& ~~~commonKeeperEn else val ||| commonKeeperEn)
  eachLane fun ln => intelDeRmw (iclPortTxDwLn 4 ln source.phy) loadgenSelect
    (iclComboPhyLoadgenSelect source ln)
  intelDeRmw (iclPortClDw 5 source.phy) 0 susClockConfig
  let val ← intelDeRead (iclPortTxDwLn 5 0 source.phy)
  intelDeWrite (iclPortTxDwGrp 5 source.phy) (val &&& ~~~txTrainingEn)
  iclDdiComboVswingProgram source trainSet
  let val ← intelDeRead (iclPortTxDwLn 5 0 source.phy)
  intelDeWrite (iclPortTxDwGrp 5 source.phy) (val ||| txTrainingEn)

/-- `intel_wait_ddi_buf_active`. -/
def intelWaitDdiBufActive (source : LinkSource) : LinkProgram Unit := do
  let _ ← intelDeWaitForClearMs (if source.ddi.info.ver ≥ 14 then 0 else source.ddiBufCtl)
    ddiBufIsIdle 10
  return ()

/-- `intel_ddi_buf_enable`. -/
def intelDdiBufEnable (source : LinkSource) (bufCtl : Word) : LinkProgram Unit := do
  intelDeWrite source.ddiBufCtl (bufCtl ||| ddiBufCtlEnable)
  intelDePostingRead source.ddiBufCtl
  intelWaitDdiBufActive source

/-- `DP_TP_CTL` as `intel_ddi_prepare_link_retrain` computes it. -/
def retrainCtl (source : LinkSource) : Word :=
  dpTpCtlEnable ||| linkTrainPat1 |||
    if source.isMst || source.isUhbr then dpTpCtlModeMst
    else if source.enhancedFraming then dpTpCtlEnhancedFrameEnable else 0

/-- `intel_ddi_prepare_link_retrain`, for what is in `intel_dp->DP`. -/
def intelDdiPrepareLinkRetrain (source : LinkSource) (dp : Word) : LinkProgram Unit := do
  intelDeWrite source.dpTpCtlReg (retrainCtl source)
  intelDePostingRead source.dpTpCtlReg
  intelDdiBufEnable source dp

/-- `TRANS_DDI_FUNC_ENABLE`, and `TRANSCONF_ENABLE`. -/
def transDdiFuncEnable : Word := 1 <<< 31
def transConfEnable : Word := 1 <<< 31

/-- `DDI_BUF_PORT_REVERSAL` and `DDI_A_4_LANES`. -/
def ddiBufPortReversal : Word := 1 <<< 16
def ddiA4Lanes : Word := 1 <<< 4

/-- `intel_ddi_init_dp_buf_reg`, with what it leaves in `intel_dp->DP`. The translation that
it selects is the first one. -/
def intelDdiInitDpBufReg (source : LinkSource) : LinkProgram Word := do
  let ddiBufCtl ← intelDeRead source.ddiBufCtl
  return Ddi.portWidth.prep (.ofNat 32 source.lanes.toNat - 1) |||
    (if source.laneReversal ∨ HasBit ddiBufCtl ddiBufPortReversal then ddiBufPortReversal else 0) |||
    (if source.ddi.info.ver < 11 ∧ HasBit ddiBufCtl ddiA4Lanes then ddiA4Lanes else 0)

/-- `intel_dp_enable_port`, with what it leaves in `intel_dp->DP`. The buffer is enabled
before it has a clock. -/
def intelDpEnablePort (source : LinkSource) (dp : Word) : LinkProgram Word := do
  intelDdiSetLinkTrain source dpTrainingPattern1
  intelDeWrite source.ddiBufCtl (dp ||| ddiBufCtlEnable)
  intelDePostingRead source.ddiBufCtl
  return dp ||| ddiBufCtlEnable

/-- `ICL_DPCLKA_CFGCR0`, with `ICL_DPCLKA_CFGCR0_DDI_CLK_SEL_MASK` and `_DDI_CLK_OFF`. The
selection of `DPLL_ID_ICL_DPLL0` is 0. -/
def iclDpclkaCfgcr0 : Nat := 0x164280

def ddiClkSelMask (phy : Phy) : Word := 3 <<< (phy.index * 2)

def ddiClkOff : Phy → Word
  | .a => 1 <<< 10
  | .b => 1 <<< 11
  | .c => 1 <<< 24
  | .d => 1 <<< 4
  | _ => 1 <<< 5

/-- `_icl_ddi_enable_clock`, as it is called. -/
def iclDdiEnableClock (source : LinkSource) : LinkProgram Unit := do
  intelDeRmw iclDpclkaCfgcr0 (ddiClkSelMask source.phy) 0
  intelDeRmw iclDpclkaCfgcr0 (ddiClkOff source.phy) 0

/-- The port for the clock of the transcoder. -/
def transClkSelPort (source : LinkSource) : Word :=
  if source.ddi.info.ver ≥ 13 then BitVec.ofNat 32 (source.phy.index + 1) <<< 28
  else if source.ddi.info.ver ≥ 12 then BitVec.ofNat 32 (source.ddi.port + 1) <<< 28
  else BitVec.ofNat 32 (source.ddi.port + 1) <<< 29

/-- `intel_ddi_enable_transcoder_clock`. -/
def intelDdiEnableTranscoderClock (source : LinkSource) : LinkProgram Unit :=
  if source.transcoder = .edp then return ()
  else intelDeWrite source.transClkSelReg (transClkSelPort source)

/-- What `intel_ddi_transcoder_func_reg_val_get` computes. -/
def LinkSource.funcCtl (source : LinkSource) : Word :=
  Ddi.intelDdiTranscoderFuncRegValGet source.ddi source.crtc

/-- `intel_ddi_config_transcoder_func`. -/
def intelDdiConfigTranscoderFunc (source : LinkSource) : LinkProgram Unit :=
  intelDeWrite source.funcCtlReg (source.funcCtl &&& ~~~transDdiFuncEnable)

/-- `PWR_DOWN_LN_MASK`, with the lanes that get no power. -/
def pwrDownLn : Field := ⟨4, 4⟩

def pwrDownLanes (source : LinkSource) : Word :=
  if source.lanes.toNat = 2 then
    if source.laneReversal then pwrDownLn.prep 0x3 else pwrDownLn.prep 0xC
  else pwrDownLn.prep 0

/-- `intel_combo_phy_power_up_lanes`, for a link that is not DSI. -/
def intelComboPhyPowerUpLanes (source : LinkSource) : LinkProgram Unit :=
  intelDeRmw (iclPortClDw 10 source.phy) pwrDownLn.mask (pwrDownLanes source)

/-- `intel_ddi_set_idle_link_train`. -/
def intelDdiSetIdleLinkTrain (source : LinkSource) : LinkProgram Unit := do
  intelDeRmw source.dpTpCtlReg dpTpCtlLinkTrain.mask linkTrainIdle
  if source.ddi.port = 0 ∧ source.ddi.info.ver < 12 then return ()
  else do
    let _ ← intelDeWaitForSetMs source.dpTpStatusReg dpTpStatusIdleDone 2
    return ()

end NootedBlue.Bringup
