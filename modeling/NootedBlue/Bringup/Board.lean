import NootedBlue.Bringup.Training
import NootedBlue.Semantics.Ensures

/-! The registers of both sides of a link, as their exchanges change them, and what the
programming of the source makes of its own. -/
namespace NootedBlue.Bringup

open Interaction Bits Link
open Ddi (Transcoder)
open Combo (PhyOp RegisterFile iclCombophy iclPortClDw iclPortTxDwGrp iclPortTxDwLn iclPortPcsDwGrp
  iclPortPcsDwLn)

/-- The registers of the source, those of the sink, and the status that was read from it last. -/
structure Board where
  file : RegisterFile
  dpcd : Nat → Nat
  status : Option LinkStatus

/-- Bytes are written to a register and to those that follow it. -/
def storeBytes (register : Nat) (bytes : List Nat) (dpcd : Nat → Nat) : Nat → Nat := fun a =>
  if register ≤ a ∧ a < register + bytes.length then bytes.getD (a - register) 0 else dpcd a

namespace Board

def regs (board : Board) (reg : Nat) : Word := board.file.regs reg

def write (board : Board) (reg : Nat) (value : Word) : Board :=
  { board with file := board.file.write reg value }

def told (board : Board) (register : Nat) (bytes : List Nat) : Board :=
  { board with dpcd := storeBytes register bytes board.dpcd }

def heard (board : Board) (answer : Int × LinkStatus) : Board :=
  if 0 ≤ answer.1 then { board with status := some answer.2 } else board

/-- What an exchange changes. A transfer that fails over the AUX channel changes nothing. -/
def next (board : Board) : LinkExchange → Board
  | ⟨.mmio (.write reg value), _⟩ => board.write reg value
  | ⟨.mmio (.read _), _⟩ => board
  | ⟨.aux (.write register bytes), ret⟩ => if (0 : Int) ≤ ret then board.told register bytes else board
  | ⟨.aux .readStatus, answer⟩ => board.heard answer
  | ⟨.readAux _ _, _⟩ => board
  | ⟨.fsleep _, _⟩ => board
  | ⟨.ioSleep _, _⟩ => board
  | ⟨.intelDeWaitMs _ _ _ _, _⟩ => board
  | ⟨.hwSetPanelPower _, _⟩ => board

end Board

/-- The registers that a bring-up goes by, beside those of the PHY: the controls of the
transport, of the buffer, of the clock of the port and of that of the transcoder, and the
function of the transcoder. -/
inductive Control where
  | transport
  | buffer
  | clock
  | transcoderClock
  | function
  deriving DecidableEq, Repr

namespace LinkSource

def control (source : LinkSource) : Control → Nat
  | .transport => source.dpTpCtlReg
  | .buffer => source.ddiBufCtl
  | .clock => iclDpclkaCfgcr0
  | .transcoderClock => source.transClkSelReg
  | .function => source.funcCtlReg

def controls (source : LinkSource) (board : Board) (control : Control) : Word :=
  board.regs (source.control control)

/-- `ICL_PORT_TX_DW`, of each lane. -/
def tx (source : LinkSource) (board : Board) (dw : Fin 32) (ln : Fin 4) : Word :=
  board.regs (iclPortTxDwLn dw ln source.phy)

/-- The lanes that get no power. -/
def power (source : LinkSource) (board : Board) : Word :=
  board.regs (iclPortClDw 10 source.phy) &&& pwrDownLn.mask

/-- The registers that are read before they are written, and that only the driver writes. -/
def Kept (source : LinkSource) (reg : Nat) : Prop :=
  reg = source.control .transport ∨ reg = source.control .clock ∨ source.phy.Owns reg

end LinkSource

/-- Such a register is read as it was written. -/
def KeptReads (source : LinkSource) (board : Board) : LinkExchange → Prop
  | ⟨.mmio (.read reg), value⟩ => source.Kept reg → value = board.regs reg
  | ⟨.mmio (.write _ _), _⟩ => True
  | ⟨.aux _, _⟩ => True
  | ⟨.readAux _ _, _⟩ => True
  | ⟨.fsleep _, _⟩ => True
  | ⟨.ioSleep _, _⟩ => True
  | ⟨.intelDeWaitMs _ _ _ _, _⟩ => True
  | ⟨.hwSetPanelPower _, _⟩ => True

section Addresses

variable {source : LinkSource} {board : Board} {value : Word}

theorem owns_txDwLn (dw : Fin 32) (ln : Fin 4) : source.phy.Owns (iclPortTxDwLn dw ln source.phy) := by
  rw [iclPortTxDwLn]
  exact Combo.owns_block (by omega)

theorem owns_clDw {dw : Nat} (h : dw < 32) : source.phy.Owns (iclPortClDw dw source.phy) := by
  rw [iclPortClDw]
  exact Combo.owns_block (by omega)

theorem owns_pcsDwLn (ln : Fin 4) : source.phy.Owns (iclPortPcsDwLn 1 ln source.phy) := by
  rw [iclPortPcsDwLn]
  exact Combo.owns_block (by omega)

/-- Where the registers of a transcoder are. -/
theorem transOffset_lt (transcoder : Transcoder) :
    transOffset transcoder ≤ 0x3000 ∨ 0xb000 ≤ transOffset transcoder ∧
      transOffset transcoder ≤ 0xb800 ∨ transOffset transcoder = 0xf000 := by
  cases transcoder <;> decide

/-- Where the registers of a combo PHY are. -/
theorem not_owns_of_range {phy : Combo.Phy} {reg : Nat} (hPhy : phy.index ≤ 4)
    (hB : ¬ (0x6C000 ≤ reg ∧ reg < 0x6D000)) (hMisc : ¬ (0x64C00 ≤ reg ∧ reg < 0x64C14))
    (hOther : ¬ (0x160000 ≤ reg ∧ reg < 0x163000)) (hE : ¬ (0x16B000 ≤ reg ∧ reg < 0x16C000)) :
    ¬ phy.Owns reg := by
  cases phy <;> simp [Combo.Phy.index] at hPhy <;>
    simp [Combo.Phy.Owns, iclCombophy, Combo.iclPhyMisc, Combo.Phy.index] <;> omega

/-- A register that has nothing to do with a PHY. -/
def Outside (reg : Nat) : Prop :=
  ¬ (0x6C000 ≤ reg ∧ reg < 0x6D000) ∧ ¬ (0x64C00 ≤ reg ∧ reg < 0x64C14) ∧
    ¬ (0x160000 ≤ reg ∧ reg < 0x163000) ∧ ¬ (0x16B000 ≤ reg ∧ reg < 0x16C000)

theorem Outside.not_owns {reg : Nat} (h : Outside reg) : ¬ source.phy.Owns reg :=
  not_owns_of_range source.hPhy h.1 h.2.1 h.2.2.1 h.2.2.2

theorem Outside.not_isGroup {reg : Nat} (h : Outside reg) : ¬ Combo.IsGroup reg := by
  obtain ⟨hB, hMisc, hOther, hE⟩ := h
  simp only [Combo.IsGroup, iclCombophy, List.mem_cons, List.not_mem_nil, or_false, exists_eq_or_imp,
    exists_eq_left]
  omega

theorem outside_control (control : Control) : Outside (source.control control) := by
  have hPort := source.hPort
  have hOffset := transOffset_lt source.transcoder
  cases control with
  | transport =>
      simp only [Outside, LinkSource.control, LinkSource.dpTpCtlReg]
      omega
  | buffer =>
      simp only [Outside, LinkSource.control, LinkSource.ddiBufCtl]
      omega
  | clock =>
      simp only [Outside, LinkSource.control, iclDpclkaCfgcr0]
      omega
  | transcoderClock =>
      simp only [Outside, LinkSource.control, LinkSource.transClkSelReg]
      cases source.transcoder <;> decide
  | function =>
      simp only [Outside, LinkSource.control, LinkSource.funcCtlReg]
      omega

/-- No two controls are one register. -/
theorem control_injective : Function.Injective source.control := by
  have hPort := source.hPort
  have hOffset := transOffset_lt source.transcoder
  have hIndex : source.transcoder.index ≤ 6 := by cases source.transcoder <;> decide
  intro one other hSame
  cases one <;> cases other <;>
    simp only [LinkSource.control, LinkSource.dpTpCtlReg, LinkSource.ddiBufCtl, iclDpclkaCfgcr0,
      LinkSource.transClkSelReg, LinkSource.funcCtlReg] at hSame ⊢ <;>
    omega

/-- A register that is neither of the PHY nor one of the controls. -/
structure Elsewhere (source : LinkSource) (reg : Nat) : Prop where
  outside : Outside reg
  ne_control : ∀ control, source.control control ≠ reg

@[simp] theorem regs_write_self (reg : Nat) : (board.write reg value).regs reg = value :=
  Combo.regs_write_self reg

theorem regs_write_of_ne {reg other : Nat} (hReg : Outside reg) (hNe : other ≠ reg) :
    (board.write reg value).regs other = board.regs other :=
  Combo.regs_write_of_not_isGroup hReg.not_isGroup hNe

/-- A write to the PHY leaves all other registers. -/
theorem regs_write_of_owns {reg other : Nat} (hReg : source.phy.Owns reg)
    (hOther : ¬ source.phy.Owns other) : (board.write reg value).regs other = board.regs other := by
  have hNe : other ≠ reg := by
    rintro rfl
    exact hOther hReg
  have hLane : ¬ Combo.IsLaneOf other reg := fun h => hOther (Combo.owns_lane source.hPhy hReg h)
  simp [Board.write, Board.regs, RegisterFile.write, hNe, hLane]

theorem controls_write_phy {reg : Nat} (hReg : source.phy.Owns reg) :
    source.controls (board.write reg value) = source.controls board := by
  funext control
  exact regs_write_of_owns hReg (outside_control control).not_owns

theorem controls_write_elsewhere {reg : Nat} (hReg : Elsewhere source reg) :
    source.controls (board.write reg value) = source.controls board := by
  funext control
  exact regs_write_of_ne hReg.outside (hReg.ne_control control)

theorem controls_write (control : Control) :
    source.controls (board.write (source.control control) value) =
      Function.update (source.controls board) control value := by
  funext other
  by_cases hSame : other = control
  · subst hSame
    rw [Function.update_self]
    exact regs_write_self _
  · rw [Function.update_of_ne hSame]
    exact regs_write_of_ne (outside_control control) fun h => hSame (control_injective h)

/-- What a write to the block of the PHY does to its lanes. -/
theorem tx_write_block {off : Nat} (hOff : off < 0x1000) (dw : Fin 32) (ln : Fin 4) :
    source.tx (board.write (iclCombophy source.phy + off) value) dw ln =
      if off = 0x880 + ln * 0x100 + 4 * dw ∨ off = 0x680 + 4 * dw then value
      else source.tx board dw ln := by
  have hIff : (0x880 + (ln : Nat) * 0x100 + 4 * dw = off ∨ (0x600 ≤ off ∧ off < 0x700) ∧
      ∃ other ∈ [0, 1, 2, 3], 0x880 + (ln : Nat) * 0x100 + 4 * dw = off + 0x200 + other * 0x100) ↔
      (off = 0x880 + ln * 0x100 + 4 * dw ∨ off = 0x680 + 4 * dw) := by
    simp only [List.mem_cons, List.not_mem_nil, or_false, exists_eq_or_imp, exists_eq_left]
    omega
  have hWrite := @Combo.regs_write_block source.phy board.file value off
    (0x880 + ln * 0x100 + 4 * dw) source.hPhy hOff
  simp only [hIff] at hWrite
  exact hWrite

/-- A register of a lane. -/
theorem tx_write_ln (dw : Fin 32) (ln : Fin 4) :
    source.tx (board.write (iclPortTxDwLn dw ln source.phy) value) =
      Function.update (source.tx board) dw (Function.update (source.tx board dw) ln value) := by
  funext other lane
  rw [iclPortTxDwLn, tx_write_block (by omega)]
  by_cases hDw : other = dw
  · subst hDw
    by_cases hLn : lane = ln
    · subst hLn
      simp
    · have hNe : (lane : Nat) ≠ ln := fun h => hLn (Fin.ext h)
      rw [if_neg (by omega)]
      simp [hLn]
  · have hNe : (other : Nat) ≠ dw := fun h => hDw (Fin.ext h)
    rw [if_neg (by omega)]
    simp [hDw]

/-- A register of all lanes. -/
theorem tx_write_grp (dw : Fin 32) :
    source.tx (board.write (iclPortTxDwGrp dw source.phy) value) =
      Function.update (source.tx board) dw fun _ => value := by
  funext other lane
  rw [iclPortTxDwGrp, tx_write_block (by omega)]
  by_cases hDw : other = dw
  · subst hDw
    simp
  · have hNe : (other : Nat) ≠ dw := fun h => hDw (Fin.ext h)
    rw [if_neg (by omega)]
    simp [hDw]

theorem tx_write_clDw {dw : Nat} (h : dw < 32) :
    source.tx (board.write (iclPortClDw dw source.phy) value) = source.tx board := by
  funext other lane
  rw [iclPortClDw, tx_write_block (by omega), if_neg (by omega)]

theorem tx_write_pcsDwGrp :
    source.tx (board.write (iclPortPcsDwGrp 1 source.phy) value) = source.tx board := by
  funext other lane
  rw [iclPortPcsDwGrp, tx_write_block (by omega), if_neg (by omega)]

theorem tx_write_outside {reg : Nat} (hReg : Outside reg) :
    source.tx (board.write reg value) = source.tx board := by
  funext dw ln
  apply regs_write_of_ne hReg
  intro h
  exact hReg.not_owns (h ▸ owns_txDwLn dw ln)

/-- The power of the lanes is in a register of its own. -/
theorem power_write_block {off : Nat} (hOff : off < 0x1000) (hNe : off ≠ 0x28) :
    source.power (board.write (iclCombophy source.phy + off) value) = source.power board := by
  have hWrite := @Combo.regs_write_block source.phy board.file value off (4 * 10) source.hPhy hOff
  rw [if_neg] at hWrite
  · rw [LinkSource.power, LinkSource.power]
    exact congrArg (· &&& pwrDownLn.mask) hWrite
  · simp only [List.mem_cons, List.not_mem_nil, or_false, exists_eq_or_imp, exists_eq_left]
    omega

theorem power_write_outside {reg : Nat} (hReg : Outside reg) :
    source.power (board.write reg value) = source.power board := by
  rw [LinkSource.power, LinkSource.power, regs_write_of_ne hReg]
  intro h
  exact hReg.not_owns (h ▸ owns_clDw (by decide))

end Addresses

end NootedBlue.Bringup
