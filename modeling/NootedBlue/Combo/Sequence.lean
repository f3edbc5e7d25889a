import NootedBlue.Combo.Registers
import NootedBlue.Semantics.Fields

/-! How a combo PHY is verified, and how it is initialised. -/
namespace NootedBlue.Combo

open Display Interaction Bits

/-- `COMP_INIT`, `IREFGEN`, `CL_POWER_DOWN_ENABLE` and
`ICL_PHY_MISC_DE_IO_COMP_PWR_DOWN`. -/
def compInit : Word := 1 <<< 31
def irefgen : Word := 1 <<< 24
def clPowerDownEnable : Word := 1 <<< 4
def iclPhyMiscDeIoCompPwrDown : Word := 1 <<< 23

/-- `DCC_MODE_SELECT_MASK` and `RUN_DCC_ONCE`. -/
def dccModeSelectMask : Word := 3 <<< 20
def runDccOnce : Word := 0 <<< 20

/-- `ICL_PORT_TX_DW8_ODCC_CLK_SEL`, `_ODCC_CLK_DIV_SEL_MASK` and `_DIV2`. -/
def odccClkSel : Word := 1 <<< 31
def odccClkDivSelMask : Word := 3 <<< 29
def odccClkDivSelDiv2 : Word := 1 <<< 29

/-- `PROCESS_INFO_MASK`, `PROCESS_INFO_DOT_0` and `_DOT_1`. -/
def processInfoMask : Word := 7 <<< 26
def processInfoDot0 : Word := 0 <<< 26
def processInfoDot1 : Word := 1 <<< 26

/-- `VOLTAGE_INFO_MASK`, `VOLTAGE_INFO_0_95V` and `_1_05V`. -/
def voltageInfoMask : Word := 3 <<< 24
def voltageInfo095V : Word := 1 <<< 24
def voltageInfo105V : Word := 2 <<< 24

/-- The bits of `ICL_PORT_COMP_DW1` that are set from the reference values. -/
def procmonMask : Word := (0xff <<< 16) ||| 0xff

/-- `struct icl_procmon`. -/
structure IclProcmon where
  dw1 : Word
  dw9 : Word
  dw10 : Word
  deriving DecidableEq, Repr

/-- The reference values for what `ICL_PORT_COMP_DW3` says. -/
def procmonOf (dw3 : Word) : IclProcmon :=
  let val := dw3 &&& (processInfoMask ||| voltageInfoMask)
  if val = voltageInfo095V ||| processInfoDot0 then ⟨0x00000000, 0x86E172C7, 0x77CA5EAB⟩
  else if val = voltageInfo095V ||| processInfoDot1 then ⟨0x00000000, 0x93F87FE1, 0x8AE871C5⟩
  else if val = voltageInfo105V ||| processInfoDot0 then ⟨0x00000000, 0x98FA82DD, 0x89E46DC1⟩
  else if val = voltageInfo105V ||| processInfoDot1 then ⟨0x00440000, 0x9A00AB25, 0x8AE38FF1⟩
  else ⟨0x00000000, 0x62AB67BB, 0x51914F96⟩

/-- `icl_get_procmon_ref_values`. -/
def iclGetProcmonRefValues (phy : Phy) : PhyProgram IclProcmon := do
  let val ← intelDeRead (iclPortCompDw 3 phy)
  return procmonOf val

/-- `check_phy_reg`. -/
def checkPhyReg (reg : Nat) (mask expectedVal : Word) : PhyProgram Bool := do
  let val ← intelDeRead reg
  return val &&& mask = expectedVal

/-- `icl_verify_procmon_ref_values`. -/
def iclVerifyProcmonRefValues (phy : Phy) : PhyProgram Bool := do
  let procmon ← iclGetProcmonRefValues phy
  let dw1 ← checkPhyReg (iclPortCompDw 1 phy) procmonMask procmon.dw1
  let dw9 ← checkPhyReg (iclPortCompDw 9 phy) (-1) procmon.dw9
  let dw10 ← checkPhyReg (iclPortCompDw 10 phy) (-1) procmon.dw10
  return dw1 && dw9 && dw10

/-- `has_phy_misc`. -/
def hasPhyMisc (info : PhyPlatform) (phy : Phy) : Bool :=
  if info.alderlakeS then phy = .a
  else if info.jasperlake || info.elkhartlake || info.rocketlake || info.dg1 then
    phy.index < Phy.c.index
  else true

/-- `icl_combo_phy_enabled`. -/
def iclComboPhyEnabled (info : PhyPlatform) (phy : Phy) : PhyProgram Bool :=
  if ¬ hasPhyMisc info phy then do
    let val ← intelDeRead (iclPortCompDw 0 phy)
    return val &&& compInit ≠ 0
  else do
    let misc ← intelDeRead (iclPhyMisc phy)
    if misc &&& iclPhyMiscDeIoCompPwrDown = 0 then do
      let val ← intelDeRead (iclPortCompDw 0 phy)
      return val &&& compInit ≠ 0
    else return false

/-- `phy_is_master`. -/
def phyIsMaster (info : PhyPlatform) (phy : Phy) : Bool :=
  if phy = .a then true
  else if info.alderlakeS then phy = .d
  else if info.dg1 || info.rocketlake then phy = .c
  else false

/-- The checks of `icl_combo_phy_verify_state` from display version 12 on. -/
def verifyClocks (info : PhyPlatform) (phy : Phy) : PhyProgram Bool :=
  if info.ver ≥ 12 then do
    let tx ← checkPhyReg (iclPortTxDwLn 8 0 phy) (odccClkSel ||| odccClkDivSelMask)
      (odccClkSel ||| odccClkDivSelDiv2)
    let pcs ← checkPhyReg (iclPortPcsDwLn 1 0 phy) dccModeSelectMask runDccOnce
    return tx && pcs
  else return true

/-- The check of a master. -/
def verifyMaster (info : PhyPlatform) (phy : Phy) : PhyProgram Bool :=
  if phyIsMaster info phy then checkPhyReg (iclPortCompDw 8 phy) irefgen irefgen
  else return true

/-- `icl_combo_phy_verify_state`. -/
def iclComboPhyVerifyState (info : PhyPlatform) (phy : Phy) : PhyProgram Bool := do
  let enabled ← iclComboPhyEnabled info phy
  if ¬ enabled then return false
  else do
    let clocks ← verifyClocks info phy
    let procmon ← iclVerifyProcmonRefValues phy
    let master ← verifyMaster info phy
    let cl ← checkPhyReg (iclPortClDw 5 phy) clPowerDownEnable clPowerDownEnable
    return clocks && procmon && master && cl

/-- `icl_set_procmon_ref_values`. -/
def iclSetProcmonRefValues (phy : Phy) : PhyProgram Unit := do
  let procmon ← iclGetProcmonRefValues phy
  intelDeRmw (iclPortCompDw 1 phy) procmonMask procmon.dw1
  intelDeWrite (iclPortCompDw 9 phy) procmon.dw9
  intelDeWrite (iclPortCompDw 10 phy) procmon.dw10

/-- The first part of what `icl_combo_phys_init` does to a PHY. -/
def powerUpMisc (info : PhyPlatform) (phy : Phy) : PhyProgram Unit :=
  if ¬ hasPhyMisc info phy then return ()
  else do
    let val ← intelDeRead (iclPhyMisc phy)
    intelDeWrite (iclPhyMisc phy) (val &&& ~~~iclPhyMiscDeIoCompPwrDown)

/-- The second part, from display version 12 on. -/
def selectClocks (info : PhyPlatform) (phy : Phy) : PhyProgram Unit :=
  if info.ver ≥ 12 then do
    let tx ← intelDeRead (iclPortTxDwLn 8 0 phy)
    intelDeWrite (iclPortTxDwGrp 8 phy)
      ((tx &&& ~~~odccClkDivSelMask) ||| odccClkSel ||| odccClkDivSelDiv2)
    let pcs ← intelDeRead (iclPortPcsDwLn 1 0 phy)
    intelDeWrite (iclPortPcsDwGrp 1 phy) ((pcs &&& ~~~dccModeSelectMask) ||| runDccOnce)
  else return ()

/-- What is done to a master. -/
def setMaster (info : PhyPlatform) (phy : Phy) : PhyProgram Unit :=
  if phyIsMaster info phy then intelDeRmw (iclPortCompDw 8 phy) 0 irefgen else return ()

/-- What `icl_combo_phys_init` does to a PHY that does not verify. The reference values
are read once more than they are used. -/
def initComboPhy (info : PhyPlatform) (phy : Phy) : PhyProgram Unit := do
  let _ ← iclGetProcmonRefValues phy
  powerUpMisc info phy
  selectClocks info phy
  iclSetProcmonRefValues phy
  setMaster info phy
  intelDeRmw (iclPortCompDw 0 phy) 0 compInit
  intelDeRmw (iclPortClDw 5 phy) 0 clPowerDownEnable

/-- The body of the loop of `icl_combo_phys_init` for one PHY after the other. -/
def initPhys (info : PhyPlatform) : List Phy → PhyProgram Unit
  | [] => return ()
  | phy :: rest => do
      let verified ← iclComboPhyVerifyState info phy
      if verified then initPhys info rest
      else do
        initComboPhy info phy
        initPhys info rest

/-- The PHYs of `for_each_combo_phy`. -/
def comboPhys (info : PhyPlatform) : List Phy := Phy.all.filter (intelPhyIsCombo info ·)

/-- `icl_combo_phys_init`. -/
def iclComboPhysInit (info : PhyPlatform) : PhyProgram Unit := initPhys info (comboPhys info)

section Verify

/-- What the verifier asks of the registers of a PHY. -/
structure Verifies (info : PhyPlatform) (phy : Phy) (regs : PhyRegs) : Prop where
  misc : hasPhyMisc info phy = true → regs.misc &&& iclPhyMiscDeIoCompPwrDown = 0
  dw0 : regs.dw0 &&& compInit ≠ 0
  txDw8 : info.ver ≥ 12 → regs.txDw8 &&& (odccClkSel ||| odccClkDivSelMask) =
    odccClkSel ||| odccClkDivSelDiv2
  pcsDw1 : info.ver ≥ 12 → regs.pcsDw1 &&& dccModeSelectMask = runDccOnce
  dw1 : regs.dw1 &&& procmonMask = (procmonOf regs.dw3).dw1
  dw9 : regs.dw9 = (procmonOf regs.dw3).dw9
  dw10 : regs.dw10 = (procmonOf regs.dw3).dw10
  dw8 : phyIsMaster info phy = true → regs.dw8 &&& irefgen = irefgen
  clDw5 : regs.clDw5 &&& clPowerDownEnable = clPowerDownEnable

variable (info : PhyPlatform) (phy : Phy) (file : RegisterFile)

theorem eval_checkPhyReg (reg : Nat) (mask expectedVal : Word) :
    (checkPhyReg reg mask expectedVal).eval phyWorld file =
      (decide (file.regs reg &&& mask = expectedVal), file) := rfl

theorem eval_iclComboPhyEnabled :
    ∃ enabled, (iclComboPhyEnabled info phy).eval phyWorld file = (enabled, file) ∧
      (enabled = true ↔
        (hasPhyMisc info phy = true →
          (file.phyRegs phy).misc &&& iclPhyMiscDeIoCompPwrDown = 0) ∧
        (file.phyRegs phy).dw0 &&& compInit ≠ 0) := by
  rw [iclComboPhyEnabled]
  split
  next hNone =>
    refine ⟨_, rfl, ?_⟩
    rw [decide_eq_true_eq]
    exact (and_iff_right fun h => absurd h hNone).symm
  next hHas =>
    have hMisc : hasPhyMisc info phy = true := not_not.mp hHas
    simp only [Program.eval_bind, eval_intelDeRead, hMisc, forall_const]
    change ∃ enabled, Program.eval phyWorld (if (file.phyRegs phy).misc &&& _ = 0 then _ else _)
      file = _ ∧ _
    split
    next hUp =>
      refine ⟨_, rfl, ?_⟩
      rw [decide_eq_true_eq]
      exact (and_iff_right hUp).symm
    next hDown =>
      refine ⟨false, rfl, ?_⟩
      exact iff_of_false Bool.false_ne_true fun h => hDown h.1

theorem eval_verifyClocks :
    ∃ clocks, (verifyClocks info phy).eval phyWorld file = (clocks, file) ∧
      (clocks = true ↔ info.ver ≥ 12 →
        (file.phyRegs phy).txDw8 &&& (odccClkSel ||| odccClkDivSelMask) =
            odccClkSel ||| odccClkDivSelDiv2 ∧
          (file.phyRegs phy).pcsDw1 &&& dccModeSelectMask = runDccOnce) := by
  rw [verifyClocks]
  split
  next hVer =>
    refine ⟨decide ((file.phyRegs phy).txDw8 &&& (odccClkSel ||| odccClkDivSelMask) =
        odccClkSel ||| odccClkDivSelDiv2) &&
      decide ((file.phyRegs phy).pcsDw1 &&& dccModeSelectMask = runDccOnce), rfl, ?_⟩
    rw [Bool.and_eq_true, decide_eq_true_eq, decide_eq_true_eq]
    exact ⟨fun h _ => h, fun h => h hVer⟩
  next hVer =>
    refine ⟨true, rfl, ?_⟩
    exact iff_of_true rfl fun h => absurd h hVer

theorem eval_iclVerifyProcmonRefValues :
    ∃ procmon, (iclVerifyProcmonRefValues phy).eval phyWorld file = (procmon, file) ∧
      (procmon = true ↔
        (file.phyRegs phy).dw1 &&& procmonMask = (procmonOf (file.phyRegs phy).dw3).dw1 ∧
          (file.phyRegs phy).dw9 = (procmonOf (file.phyRegs phy).dw3).dw9 ∧
          (file.phyRegs phy).dw10 = (procmonOf (file.phyRegs phy).dw3).dw10) := by
  let regs := file.phyRegs phy
  refine ⟨decide (regs.dw1 &&& procmonMask = (procmonOf regs.dw3).dw1) &&
    decide (regs.dw9 &&& -1 = (procmonOf regs.dw3).dw9) &&
    decide (regs.dw10 &&& -1 = (procmonOf regs.dw3).dw10), rfl, ?_⟩
  have hAll (word : Word) : word &&& -1 = word := BitVec.and_allOnes
  rw [hAll, hAll, Bool.and_eq_true, Bool.and_eq_true, decide_eq_true_eq, decide_eq_true_eq,
    decide_eq_true_eq, and_assoc]

theorem eval_verifyMaster :
    ∃ master, (verifyMaster info phy).eval phyWorld file = (master, file) ∧
      (master = true ↔
        (phyIsMaster info phy = true → (file.phyRegs phy).dw8 &&& irefgen = irefgen)) := by
  rw [verifyMaster]
  split
  next hMaster =>
    refine ⟨decide ((file.phyRegs phy).dw8 &&& irefgen = irefgen), rfl, ?_⟩
    rw [decide_eq_true_eq]
    exact ⟨fun h _ => h, fun h => h hMaster⟩
  next hNot => exact ⟨true, rfl, iff_of_true rfl fun h => absurd h hNot⟩

/-- The verifier changes nothing, and says whether the registers verify. -/
theorem eval_iclComboPhyVerifyState :
    ∃ verified, (iclComboPhyVerifyState info phy).eval phyWorld file = (verified, file) ∧
      (verified = true ↔ Verifies info phy (file.phyRegs phy)) := by
  obtain ⟨enabled, hEnabled, hEnabledIff⟩ := eval_iclComboPhyEnabled info phy file
  obtain ⟨clocks, hClocks, hClocksIff⟩ := eval_verifyClocks info phy file
  obtain ⟨procmon, hProcmon, hProcmonIff⟩ := eval_iclVerifyProcmonRefValues phy file
  obtain ⟨master, hMaster, hMasterIff⟩ := eval_verifyMaster info phy file
  simp only [iclComboPhyVerifyState, Program.eval_bind, hEnabled]
  cases enabled with
  | false =>
      refine ⟨false, rfl, ?_⟩
      apply iff_of_false Bool.false_ne_true
      intro hVerifies
      exact Bool.false_ne_true (hEnabledIff.mpr ⟨hVerifies.misc, hVerifies.dw0⟩)
  | true =>
      obtain ⟨hMisc, hDw0⟩ := hEnabledIff.mp rfl
      simp only [not_true_eq_false, if_false, Program.eval_bind, hClocks, hProcmon, hMaster,
        eval_checkPhyReg]
      refine ⟨_, rfl, ?_⟩
      rw [Bool.and_eq_true, Bool.and_eq_true, Bool.and_eq_true, decide_eq_true_eq, hClocksIff,
        hProcmonIff, hMasterIff]
      constructor
      · intro ⟨⟨⟨hClk, hDw1, hDw9, hDw10⟩, hDw8⟩, hCl⟩
        exact { misc := hMisc, dw0 := hDw0, txDw8 := fun h => (hClk h).1
                pcsDw1 := fun h => (hClk h).2, dw1 := hDw1, dw9 := hDw9, dw10 := hDw10
                dw8 := hDw8, clDw5 := hCl }
      · intro h
        exact ⟨⟨⟨fun hVer => ⟨h.txDw8 hVer, h.pcsDw1 hVer⟩, h.dw1, h.dw9, h.dw10⟩, h.dw8⟩, h.clDw5⟩

end Verify

end NootedBlue.Combo
