import NootedBlue.Bringup.Training
import NootedBlue.Ddi.Splitter

/-! The bring-up of a link as a whole: the panel and the port are powered and get their
clocks, the sink is woken and the link trained, and then the transcoder sends to it. -/
namespace NootedBlue.Bringup

open Interaction Bits Link
open Ddi (Transcoder HasBit outputDp outputEdp)

/-- `enum intel_output_format`. -/
inductive OutputFormat where
  | rgb
  | ycbcr420
  | ycbcr444
  deriving DecidableEq, Repr

/-- What a bring-up finds beside the source of its link: the panel, with its power sequencer,
what is known of the sink, and the rest of the state of the pipe. -/
structure Modeset extends LinkSource where
  hasDdi : Bool
  internalConnector : Bool
  ppsIdx : Byte
  panelPowerUpDelay : Nat
  wantPanelVdd : Bool
  vbtBpp : Nat
  downstreamPort : Byte
  ouiValid : Bool
  sinkFormat : OutputFormat
  outputFormat : OutputFormat
  limitedColorRange : Bool
  splitter : Ddi.Splitter
  fecEnable : Bool
  dscCompressionEnable : Bool
  tu : Word

/-- Something that is done under a condition only. -/
def onlyIf (c : Prop) [Decidable c] (p : LinkProgram Unit) : LinkProgram Unit :=
  if c then p else return ()

section Panel

variable (modeset : Modeset)

/-- `PP_CONTROL` and `PP_STATUS`, which are those of the PCH. -/
def Modeset.ppCtrl : Nat := 0xC7204 + modeset.ppsIdx.toNat * 0x100

def Modeset.ppStat : Nat := 0xC7200 + modeset.ppsIdx.toNat * 0x100

/-- `EDP_FORCE_VDD`, `PP_ON`, `PANEL_UNLOCK_MASK` and `PANEL_UNLOCK_REGS`. -/
def edpForceVdd : Word := 1 <<< 3
def ppOn : Word := 1 <<< 31
def panelUnlock : Field := ⟨16, 16⟩
def panelUnlockRegs : Word := panelUnlock.prep 0xABCD

/-- `IDLE_CYCLE_MASK`; `IDLE_CYCLE_VALUE` is 0. -/
def idleCycleMask : Word := ppOn ||| 3 <<< 28 ||| 1 <<< 27 ||| 0xF

/-- `edp_have_panel_vdd`. -/
def edpHavePanelVdd : LinkProgram Bool := do
  let control ← intelDeRead modeset.ppCtrl
  return HasBit control edpForceVdd

/-- `edp_have_panel_power`. -/
def edpHavePanelPower : LinkProgram Bool := do
  let status ← intelDeRead modeset.ppStat
  return HasBit status ppOn

/-- `ilk_get_pp_control`. -/
def ilkGetPpControl : LinkProgram Word := do
  let control ← intelDeRead modeset.ppCtrl
  return if modeset.hasDdi = false ∧ control &&& panelUnlock.mask ≠ panelUnlockRegs then
    (control &&& ~~~panelUnlock.mask) ||| panelUnlockRegs
  else control

/-- `wait_panel_power_cycle`. What it waits for is not checked afterwards. -/
def waitPanelPowerCycle : LinkProgram Unit := do
  ioSleep 10
  let _ ← Program.perform (LinkOp.intelDeWaitMs modeset.ppStat idleCycleMask 0 5000)
  return ()

/-- `intel_pps_vdd_on`. -/
def intelPpsVddOn : LinkProgram Bool := do
  let vdd ← edpHavePanelVdd modeset
  if vdd then return !modeset.wantPanelVdd
  else do
    let powered ← edpHavePanelPower modeset
    onlyIf (powered = false) (waitPanelPowerCycle modeset)
    let pp ← ilkGetPpControl modeset
    intelDeWrite modeset.ppCtrl (pp ||| edpForceVdd)
    intelDePostingRead modeset.ppCtrl
    let powered ← edpHavePanelPower modeset
    onlyIf (powered = false) (ioSleep modeset.panelPowerUpDelay)
    return !modeset.wantPanelVdd

/-- `intel_pps_vdd_off`. -/
def intelPpsVddOff : LinkProgram Unit := do
  let pp ← ilkGetPpControl modeset
  intelDeWrite modeset.ppCtrl (pp &&& ~~~edpForceVdd)
  intelDePostingRead modeset.ppCtrl

/-- `SOUTH_DSPCLK_GATE_D` and `PCH_DPLSUNIT_CLOCK_GATE_DISABLE`. -/
def southDspclkGateD : Nat := 0xC2020
def pchDplsunitClockGateDisable : Word := 1 <<< 29

/-- `Gen11::hwSetPanelPower`, around the function of the controller. -/
def hwSetPanelPower (state : Nat) : LinkProgram Unit := do
  onlyIf (13 ≤ modeset.ddi.info.ver ∧ modeset.ddi.info.ver ≤ 14)
    (intelDeRmw southDspclkGateD 0 pchDplsunitClockGateDisable)
  Program.perform (LinkOp.hwSetPanelPower state)
  onlyIf (13 ≤ modeset.ddi.info.ver ∧ modeset.ddi.info.ver ≤ 14)
    (intelDeRmw southDspclkGateD pchDplsunitClockGateDisable 0)

end Panel

section Sink

variable (modeset : Modeset)

/-- `drm_dp_read_extended_dpcd_caps`. Capabilities that are the same are copied here, too. -/
def drmDpReadExtendedDpcdCaps (dpcd : Dpcd) : LinkProgram (Int × Dpcd) :=
  if dpcd.trainingAuxRdInterval &&& 0x80 = 0 then return (0, dpcd)
  else do
    let answer ← readAux 0x2200 15
    if answer.1 < 0 then return (answer.1, dpcd)
    else if Dpcd.rev answer.2 < dpcd.rev then return (0, dpcd)
    else return (0, answer.2)

/-- `drm_dp_read_dpcd_caps`, which reads into what is kept of the capabilities, also when it
fails. -/
def drmDpReadDpcdCaps : LinkProgram (Int × Dpcd) := do
  let answer ← readAux 0 15
  if answer.1 < 0 then return answer
  else if Dpcd.rev answer.2 = 0 then return (-5, answer.2)
  else drmDpReadExtendedDpcdCaps answer.2

/-- `intel_dp_init_lttpr_and_dprx_caps`, with what it leaves of the capabilities. -/
def intelDpInitLttprAndDprxCaps : LinkProgram (Int × Dpcd) := do
  let answer ← drmDpReadDpcdCaps
  return (if answer.1 ≠ 0 then -5 else 0, answer.2)

/-- `intel_dp_init_source_oui`. -/
def intelDpInitSourceOui : LinkProgram Unit :=
  onlyIf (modeset.ouiValid = false) do
    let answer ← readAux 0x300 3
    onlyIf (0 ≤ answer.1 ∧ ¬ (answer.2 0 = 0x00 ∧ answer.2 1 = 0xAA ∧ answer.2 2 = 0x01)) do
      let _ ← writeAux 0x300 [0x00, 0xAA, 0x01]
      return ()

/-- `downstream_hpd_needs_d0`. -/
def downstreamHpdNeedsD0 (dpcd : Dpcd) : Bool :=
  dpcd.rev = 0x11 ∧ dpcd.downstreamportPresent &&& 1 ≠ 0 ∧ modeset.downstreamPort &&& 8 ≠ 0

/-- One of the attempts to wake the sink. -/
def setPowerOnce (mode : Nat) (_ : Unit) : LinkProgram (Iteration Unit Unit) := do
  let ret ← writeAux 0x600 [mode]
  if ret = 1 then return .stop ()
  else do
    ioSleep 1
    return .next ()

/-- `intel_dp_set_power`, for what is known of the sink. `DP_SET_POWER_D0` is 1. -/
def intelDpSetPower (dpcd : Dpcd) (mode : Nat) : LinkProgram Unit :=
  if dpcd.rev < 0x11 then return ()
  else if mode ≠ 1 then
    onlyIf (downstreamHpdNeedsD0 modeset dpcd = false) do
      let _ ← writeAux 0x600 [mode]
      return ()
  else do
    intelDpInitSourceOui modeset
    let _ ← loop (setPowerOnce mode) 3 ()
    return ()

/-- `drm_dp_pcon_convert_rgb_to_ycbcr`. -/
def drmDpPconConvertRgbToYcbcr (colorSpc : Byte) : LinkProgram Int := do
  let answer ← readAux 0x3052 1
  if answer.1 < 0 then return answer.1
  else
    let bits := colorSpc &&& 0x70
    writeAux 0x3052
      [(if bits ≠ 0 then answer.2 0 ||| bits else answer.2 0 &&& ~~~0x70).toNat]

/-- `intel_dp_configure_protocol_converter`. -/
def intelDpConfigureProtocolConverter (dpcd : Dpcd) : LinkProgram Unit :=
  onlyIf (¬ dpcd.rev < 0x13) do
    let _ ← writeAux 0x3050 [0]
    let to420 := modeset.sinkFormat = .ycbcr420 ∧ modeset.outputFormat ≠ .ycbcr420
    let toYcbcr := modeset.sinkFormat ≠ .rgb ∧ modeset.outputFormat = .rgb
    let _ ← writeAux 0x3051 [if to420 then 1 else 0]
    let _ ← drmDpPconConvertRgbToYcbcr (if toYcbcr then 1 <<< 5 else 0)
    return ()

/-- `intel_dp_sink_set_fec_ready`. -/
def intelDpSinkSetFecReady (enable : Bool) : LinkProgram Unit :=
  onlyIf modeset.fecEnable do
    let _ ← writeAux 0x120 [if enable then 1 else 0]
    onlyIf enable do
      let _ ← writeAux 0x280 [3]
      return ()

/-- `intel_dp_link_training_set_mode`, as `intel_dp_update_downspread_ctrl` calls it. -/
def intelDpUpdateDownspreadCtrl : LinkProgram Unit := do
  let _ ← writeAux 0x107 [if modeset.vrrInRange then 1 <<< 7 else 0,
    if 1000000 ≤ modeset.displayPortClock then 2 else 1]
  return ()

/-- `intel_dp_link_training_set_bw`, as `intel_dp_update_link_bw_set` calls it. -/
def intelDpUpdateLinkBwSet (linkBw rateSelect : Byte) : LinkProgram Unit :=
  let laneCount := modeset.lanes.toNat ||| if modeset.enhancedFraming then 1 <<< 7 else 0
  if linkBw ≠ 0 then do
    let _ ← writeAux 0x100 [linkBw.toNat, laneCount]
    return ()
  else do
    let _ ← writeAux 0x101 [laneCount]
    let _ ← writeAux 0x115 [rateSelect.toNat]
    return ()

/-- One look at the payload table, for a number of those that found it unchanged. -/
def payloadOnce (retries : Nat) : LinkProgram (Iteration Nat Int) := do
  let answer ← readAux 0x2C0 1
  if answer.1 < 0 then return .stop answer.1
  else if answer.2 0 &&& 1 ≠ 0 then return .stop 0
  else if retries + 1 < 20 then do
    ioSleep 10000
    return .next (retries + 1)
  else return .stop (-22)

/-- `drm_dp_dpcd_write_payload`. -/
def drmDpDpcdWritePayload (vcpid startTimeSlot timeSlotCount : Byte) : LinkProgram Int := do
  let _ ← writeAux 0x2C0 [1]
  let ret ← writeAux 0x1C0 [vcpid.toNat, startTimeSlot.toNat, timeSlotCount.toNat]
  if ret < 0 then return ret
  else do
    let result ← loop payloadOnce 20 0
    return result.getD (-22)

end Sink

section Start

variable (modeset : Modeset)

/-- `intel_dp_prepare_link_train`. The rates that it reads when the sink has a table of them go
nowhere. -/
def intelDpPrepareLinkTrain (dp : Word) : LinkProgram Unit := do
  intelDdiPrepareLinkRetrain modeset.toLinkSource dp
  let rate := intelDpComputeRate modeset.dp modeset.displayPortClock
  onlyIf (rate.1 = 0) do
    let _ ← readAux 0x10 16
    return ()
  intelDpUpdateDownspreadCtrl modeset
  intelDpUpdateLinkBwSet modeset rate.1 rate.2

/-- `intel_dp_link_train_all_phys`. -/
def intelDpLinkTrainAllPhys (dpcd : Dpcd) : LinkProgram Bool := do
  let passed ← intelDpLinkTrainPhy modeset.toLinkSource dpcd
  let _ ← writeAux dpTrainingPatternSet [0]
  intelDdiSetIdleLinkTrain modeset.toLinkSource
  return passed

/-- `intel_dp_start_link_train`, without its account of failures. -/
def intelDpStartLinkTrain (dp : Word) : LinkProgram Bool := do
  let caps ← intelDpInitLttprAndDprxCaps
  intelDpPrepareLinkTrain modeset dp
  intelDpLinkTrainAllPhys modeset caps.2

/-- `intel_dp_stop_link_train`. -/
def intelDpStopLinkTrain : LinkProgram Unit := intelDdiSetLinkTrain modeset.toLinkSource 0

/-- `DP_TP_CTL_FEC_ENABLE` and `DP_TP_STATUS_FEC_ENABLE_LIVE`. -/
def dpTpCtlFecEnable : Word := 1 <<< 30
def dpTpStatusFecEnableLive : Word := 1 <<< 28

/-- `intel_ddi_wait_for_fec_status`. It answers 1 when FEC is on. -/
def intelDdiWaitForFecStatus (enabled : Bool) : LinkProgram Int :=
  if modeset.fecEnable = false then return 0
  else do
    let ret ← (if enabled then
        intelDeWaitForSetMs modeset.dpTpStatusReg dpTpStatusFecEnableLive 1
      else intelDeWaitForClearMs modeset.dpTpStatusReg dpTpStatusFecEnableLive 1 : LinkProgram Int)
    if ret ≠ 0 then return ret
    else if enabled then do
      ioSleep 1000
      return 1
    else return 0

/-- One of the attempts to turn FEC off and on again. -/
def enableFecOnce (_ : Unit) : LinkProgram (Iteration Unit Unit) := do
  intelDeRmw modeset.dpTpCtlReg dpTpCtlFecEnable 0
  let ret ← intelDdiWaitForFecStatus modeset false
  if ret ≠ 0 then return .next ()
  else do
    intelDeRmw modeset.dpTpCtlReg 0 dpTpCtlFecEnable
    let ret ← intelDdiWaitForFecStatus modeset true
    return if ret = 0 then .stop () else .next ()

/-- `intel_ddi_enable_fec`. -/
def intelDdiEnableFec : LinkProgram Unit :=
  onlyIf modeset.fecEnable do
    intelDeRmw modeset.dpTpCtlReg 0 dpTpCtlFecEnable
    onlyIf (30 ≤ modeset.ddi.info.ver) do
      let ret ← intelDdiWaitForFecStatus modeset true
      onlyIf (ret ≠ 0) do
        let _ ← loop (enableFecOnce modeset) 3 ()
        return ()

/-- `ICL_PIPE_DSS_CTL1`. -/
def dssCtl1 : Ddi.Pipe → Nat
  | .a => 0x78000
  | .b => 0x78200
  | .c => 0x78400
  | .d => 0x78600

/-- `intel_ddi_mso_configure`. -/
def intelDdiMsoConfigure : LinkProgram Unit :=
  onlyIf (12 ≤ modeset.ddi.info.ver)
    (intelDeRmw (dssCtl1 modeset.ddi.pipe) Ddi.splitterBits (Ddi.splitterValue modeset.splitter))

/-- The part of `tgl_ddi_pre_enable_dp` before the sink is told anything, with what it leaves
in `intel_dp->DP`. -/
def preEnableSource : LinkProgram Word := do
  let dp ← intelDdiInitDpBufReg modeset.toLinkSource
  let dp ← intelDpEnablePort modeset.toLinkSource dp
  let _ ← intelPpsVddOn modeset
  onlyIf modeset.internalConnector (hwSetPanelPower modeset 2)
  intelPpsVddOff modeset
  iclDdiEnableClock modeset.toLinkSource
  intelDdiEnableTranscoderClock modeset.toLinkSource
  intelDdiConfigTranscoderFunc modeset.toLinkSource
  iclComboPhySetSignalLevels modeset.toLinkSource noDrive
  intelComboPhyPowerUpLanes modeset.toLinkSource
  intelDdiMsoConfigure modeset
  return dp

/-- The capabilities of the sink that are known before. -/
def Modeset.knownDpcd (modeset : Modeset) : Dpcd := fun i => modeset.dp.dpcd i

/-- The part in which the sink is woken. `intel_dp_sink_enable_decompression` does nothing. -/
def preEnableSink : LinkProgram Unit := do
  onlyIf (modeset.isMst = false) (intelDpSetPower modeset modeset.knownDpcd 1)
  intelDpConfigureProtocolConverter modeset modeset.knownDpcd
  intelDpSinkSetFecReady modeset true

/-- `tgl_ddi_pre_enable_dp`. With 128b/132b coding the result of the training is lost: the
payload decides, and the other way round. -/
def tglDdiPreEnableDp : LinkProgram Bool := do
  let dp ← preEnableSource modeset
  preEnableSink modeset
  let passed ← intelDpStartLinkTrain modeset dp
  onlyIf (modeset.isTransPortSyncMode = false) (intelDpStopLinkTrain modeset)
  intelDdiEnableFec modeset
  if modeset.isMst = false ∧ modeset.isUhbr then do
    let ret ← drmDpDpcdWritePayload 1 0 (modeset.tu.setWidth 8)
    return ret ≠ 0
  else return passed

end Start

section Enable

variable (modeset : Modeset)

/-- `TRANS_MSA_MISC`, `TRANS_DDI_FUNC_CTL2` and `PIPE_ARB_CTL`. -/
def Modeset.msaMiscReg : Nat := 0x60410 + transOffset modeset.transcoder

def Modeset.funcCtl2Reg : Nat := 0x60404 + transOffset modeset.transcoder

def Modeset.pipeArbCtl : Nat :=
  0x70028 + match modeset.ddi.pipe with
    | .a => 0
    | .b => 0x1000
    | .c => 0x2000
    | .d => 0x3000

/-- What `intel_ddi_set_dp_msa` writes. -/
def dpMsaMisc : Word :=
  (1 : Word) ||| (match modeset.vbtBpp with | 30 => 2 <<< 5 | 36 => 3 <<< 5 | _ => 1 <<< 5) |||
    (if modeset.limitedColorRange then 1 <<< 3 else 0) |||
    (if modeset.outputFormat = .ycbcr444 then 0x1C else 0)

/-- `intel_ddi_set_dp_msa`. -/
def intelDdiSetDpMsa : LinkProgram Unit :=
  onlyIf (HasBit modeset.crtc.outputTypes (outputDp ||| outputDpMst ||| outputEdp))
    (intelDeWrite modeset.msaMiscReg (dpMsaMisc modeset))

/-- `intel_ddi_enable_transcoder_func`. -/
def intelDdiEnableTranscoderFunc : LinkProgram Unit := do
  onlyIf (11 ≤ modeset.ddi.info.ver)
    (intelDeWrite modeset.funcCtl2Reg (Ddi.funcCtl2Value modeset.sync.masterTranscoder))
  intelDeWrite modeset.funcCtlReg modeset.funcCtl

/-- The value for a pipe that is not enabled yet. -/
def transConfValue (val : Word) : Word :=
  (if 13 ≤ modeset.ddi.info.ver ∧ modeset.dscCompressionEnable then (val &&& ~~~3) ||| 1 else val) |||
    transConfEnable

/-- `intel_enable_transcoder`, after the assertion about the PLL of the FDI receiver. -/
def enableTranscoderPipe : LinkProgram Unit := do
  onlyIf (modeset.ddi.info.ver = 13) (intelDeRmw modeset.pipeArbCtl 0 (1 <<< 13))
  let val ← intelDeRead modeset.transConfReg
  onlyIf (¬ HasBit val transConfEnable) do
    intelDeWrite modeset.transConfReg (transConfValue modeset val)
    intelDePostingRead modeset.transConfReg

/-- `intel_enable_transcoder`. An assertion that fails is a panic, and there is no result. -/
def intelEnableTranscoder : LinkProgram (Option Unit) := do
  let rx ← intelDeRead 0xF000C
  if HasBit rx (1 <<< 13) then do
    enableTranscoderPipe modeset
    return some ()
  else return none

/-- `Gen11::linkTraining`, for the first port. -/
def linkTraining : LinkProgram (Option Int) := do
  let ret ← tglDdiPreEnableDp modeset
  onlyIf (modeset.isMst = false) (intelDdiSetDpMsa modeset)
  intelDdiEnableTranscoderFunc modeset
  let enabled ← intelEnableTranscoder modeset
  return enabled.map fun _ => if ret then 0 else -1

end Enable

end NootedBlue.Bringup
