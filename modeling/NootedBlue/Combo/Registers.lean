import NootedBlue.Display.Platform
import NootedBlue.Semantics.Program

/-! The PHYs of a display and their registers. A write to a group register of a PHY
goes to the registers of its four lanes; everything else is memory. -/
namespace NootedBlue.Combo

open Display Interaction

abbrev Word := BitVec 32

/-- `enum phy`. -/
inductive Phy where
  | a
  | b
  | c
  | d
  | e
  | f
  | g
  | h
  | i
  deriving DecidableEq, Repr

namespace Phy

def index : Phy → Nat
  | a => 0
  | b => 1
  | c => 2
  | d => 3
  | e => 4
  | f => 5
  | g => 6
  | h => 7
  | i => 8

/-- All below `I915_MAX_PHYS`, in their order. -/
def all : List Phy := [a, b, c, d, e, f, g, h, i]

end Phy

/-- The platform, as far as the PHYs depend on it. -/
structure PhyPlatform extends DisplayInfo where
  jasperlake : Bool := false
  elkhartlake : Bool := false
  alderlakeP : Bool := false
  deriving DecidableEq, Repr

/-- `intel_phy_is_combo`. -/
def intelPhyIsCombo (info : PhyPlatform) (phy : Phy) : Bool :=
  if info.alderlakeS then phy.index ≤ Phy.e.index
  else if info.dg1 || info.rocketlake then phy.index ≤ Phy.d.index
  else if info.jasperlake || info.elkhartlake then phy.index ≤ Phy.c.index
  else if info.alderlakeP || (info.ver ≥ 11 && info.ver ≤ 12) then phy.index ≤ Phy.b.index
  else false

/-- `_ICL_COMBOPHY`. There is nothing in the table for the PHYs after `PHY_E`. -/
def iclCombophy : Phy → Nat
  | .a => 0x162000
  | .b => 0x6C000
  | .c => 0x160000
  | .d => 0x161000
  | .e => 0x16B000
  | _ => 0

/-- `ICL_PORT_CL_DW5`, `ICL_PORT_COMP_DW0` and the like. -/
def iclPortClDw (dw : Nat) (phy : Phy) : Nat := iclCombophy phy + 4 * dw
def iclPortCompDw (dw : Nat) (phy : Phy) : Nat := iclCombophy phy + (0x100 + 4 * dw)

/-- `ICL_PORT_TX_DW8_GRP`, `ICL_PORT_TX_DW8_LN`, `ICL_PORT_PCS_DW1_GRP` and
`ICL_PORT_PCS_DW1_LN`. -/
def iclPortTxDwGrp (dw : Nat) (phy : Phy) : Nat := iclCombophy phy + (0x680 + 4 * dw)
def iclPortTxDwLn (dw ln : Nat) (phy : Phy) : Nat := iclCombophy phy + (0x880 + ln * 0x100 + 4 * dw)
def iclPortPcsDwGrp (dw : Nat) (phy : Phy) : Nat := iclCombophy phy + (0x600 + 4 * dw)
def iclPortPcsDwLn (dw ln : Nat) (phy : Phy) : Nat := iclCombophy phy + (0x800 + ln * 0x100 + 4 * dw)

/-- `ICL_PHY_MISC`. -/
def iclPhyMisc (phy : Phy) : Nat := 0x64C00 + phy.index * (0x64C04 - 0x64C00)

/-- The registers of a combo PHY: its block, and the one outside of it. -/
def Phy.Owns (phy : Phy) (reg : Nat) : Prop :=
  iclCombophy phy ≤ reg ∧ reg < iclCombophy phy + 0x1000 ∨ reg = iclPhyMisc phy

/-- A group register of one of the combo PHYs. -/
def IsGroup (reg : Nat) : Prop :=
  ∃ phy ∈ [Phy.a, .b, .c, .d, .e], iclCombophy phy + 0x600 ≤ reg ∧ reg < iclCombophy phy + 0x700

instance (reg : Nat) : Decidable (IsGroup reg) := inferInstanceAs (Decidable (∃ _ ∈ _, _))

/-- The register of one of the four lanes for a group register. -/
def IsLaneOf (lane group : Nat) : Prop :=
  IsGroup group ∧ ∃ ln ∈ [0, 1, 2, 3], lane = group + 0x200 + ln * 0x100

instance (lane group : Nat) : Decidable (IsLaneOf lane group) :=
  inferInstanceAs (Decidable (_ ∧ _))

/-- The registers, and what was written to them. -/
structure RegisterFile where
  regs : Nat → Word
  written : List (Nat × Word)

/-- A write to a group register is a write to its lanes, too. -/
def RegisterFile.write (file : RegisterFile) (reg : Nat) (value : Word) : RegisterFile :=
  { regs := fun other => if other = reg ∨ IsLaneOf other reg then value else file.regs other
    written := file.written ++ [(reg, value)] }

inductive PhyOp where
  | read (reg : Nat)
  | write (reg : Nat) (value : Word)
  deriving DecidableEq, Repr

abbrev PhyAnswer : PhyOp → Type
  | .read _ => Word
  | .write _ _ => Unit

abbrev PhyProgram := Program PhyOp PhyAnswer

/-- The registers as a world. -/
def phyWorld (file : RegisterFile) : (op : PhyOp) → PhyAnswer op × RegisterFile
  | .read reg => (file.regs reg, file)
  | .write reg value => ((), file.write reg value)

/-- `intel_de_read`, `intel_de_write` and `intel_de_rmw`. -/
def intelDeRead (reg : Nat) : PhyProgram Word := Program.perform (PhyOp.read reg)

def intelDeWrite (reg : Nat) (value : Word) : PhyProgram Unit :=
  Program.perform (PhyOp.write reg value)

def intelDeRmw (reg : Nat) (clear set : Word) : PhyProgram Unit := do
  let old ← intelDeRead reg
  intelDeWrite reg ((old &&& ~~~clear) ||| set)

@[simp] theorem eval_intelDeRead (reg : Nat) (file : RegisterFile) :
    (intelDeRead reg).eval phyWorld file = (file.regs reg, file) := rfl

@[simp] theorem eval_intelDeWrite (reg : Nat) (value : Word) (file : RegisterFile) :
    (intelDeWrite reg value).eval phyWorld file = ((), file.write reg value) := rfl

@[simp] theorem eval_intelDeRmw (reg : Nat) (clear set : Word) (file : RegisterFile) :
    (intelDeRmw reg clear set).eval phyWorld file =
      ((), file.write reg ((file.regs reg &&& ~~~clear) ||| set)) := rfl

/-- A PHY that can be a combo PHY has its own block. -/
theorem index_of_combo {info : PhyPlatform} {phy : Phy} (h : intelPhyIsCombo info phy = true) :
    phy.index ≤ 4 := by
  rw [intelPhyIsCombo] at h
  split at h
  · exact of_decide_eq_true h
  · split at h
    · exact Nat.le_trans (of_decide_eq_true h) (by decide)
    · split at h
      · exact Nat.le_trans (of_decide_eq_true h) (by decide)
      · split at h
        · exact Nat.le_trans (of_decide_eq_true h) (by decide)
        · cases h

section Addresses

variable {phy other : Phy} {file : RegisterFile} {value : Word} {off k reg lane : Nat}

theorem isGroup_block (hPhy : phy.index ≤ 4) (hOff : off < 0x1000) :
    IsGroup (iclCombophy phy + off) ↔ 0x600 ≤ off ∧ off < 0x700 := by
  cases phy <;> simp [Phy.index, IsGroup, iclCombophy] at hPhy ⊢ <;> omega

theorem not_isGroup_misc (hPhy : phy.index ≤ 4) : ¬ IsGroup (iclPhyMisc phy) := by
  cases phy <;> simp [Phy.index] at hPhy <;> decide

theorem misc_ne_block (hPhy : phy.index ≤ 4) (hOff : off < 0x1000) :
    iclPhyMisc phy ≠ iclCombophy phy + off := by
  cases phy <;> simp [Phy.index, iclPhyMisc, iclCombophy] at hPhy ⊢ <;> omega

/-- No register belongs to two PHYs. -/
theorem owner_unique (hPhy : phy.index ≤ 4) (hOther : other.index ≤ 4) (hOwns : phy.Owns reg)
    (hOwnsOther : other.Owns reg) : phy = other := by
  cases phy <;> cases other <;>
    simp [Phy.index, Phy.Owns, iclPhyMisc, iclCombophy] at hPhy hOther hOwns hOwnsOther ⊢ <;>
    omega

theorem owns_block (hOff : off < 0x1000) : phy.Owns (iclCombophy phy + off) :=
  Or.inl ⟨Nat.le_add_right _ _, Nat.add_lt_add_left hOff _⟩

theorem owns_misc : phy.Owns (iclPhyMisc phy) := Or.inr rfl

/-- The lanes belong to the PHY of the group. -/
theorem owns_lane (hPhy : phy.index ≤ 4) (hOwns : phy.Owns reg) (hLane : IsLaneOf lane reg) :
    phy.Owns lane := by
  obtain ⟨hGroup, ln, hLn, rfl⟩ := hLane
  have hFour : ln < 4 := by
    simp at hLn
    omega
  rcases hOwns with ⟨hLow, hHigh⟩ | hMisc
  · obtain ⟨off, rfl⟩ := Nat.exists_eq_add_of_le hLow
    have hOff := (isGroup_block hPhy (by omega)).mp hGroup
    refine Or.inl ⟨by omega, by omega⟩
  · rw [hMisc] at hGroup
    exact absurd hGroup (not_isGroup_misc hPhy)

end Addresses

section Write

variable {phy : Phy} {file : RegisterFile} {value : Word} {off k : Nat}

theorem regs_write_self (reg : Nat) : (file.write reg value).regs reg = value := by
  simp [RegisterFile.write]

theorem regs_write_of_not_isGroup {reg other : Nat} (hGroup : ¬ IsGroup reg) (hNe : other ≠ reg) :
    (file.write reg value).regs other = file.regs other := by
  simp [RegisterFile.write, IsLaneOf, hGroup, hNe]

/-- What a write to the block of a PHY does to the block. -/
theorem regs_write_block (hPhy : phy.index ≤ 4) (hOff : off < 0x1000) :
    (file.write (iclCombophy phy + off) value).regs (iclCombophy phy + k) =
      if k = off ∨ (0x600 ≤ off ∧ off < 0x700) ∧ ∃ ln ∈ [0, 1, 2, 3], k = off + 0x200 + ln * 0x100
      then value else file.regs (iclCombophy phy + k) := by
  have hLane : IsLaneOf (iclCombophy phy + k) (iclCombophy phy + off) ↔
      (0x600 ≤ off ∧ off < 0x700) ∧ ∃ ln ∈ [0, 1, 2, 3], k = off + 0x200 + ln * 0x100 := by
    rw [IsLaneOf, isGroup_block hPhy hOff]
    simp only [Nat.add_assoc, Nat.add_left_cancel_iff]
  simp only [RegisterFile.write, hLane, Nat.add_left_cancel_iff]

theorem regs_write_block_misc (hPhy : phy.index ≤ 4) (hOff : off < 0x1000) :
    (file.write (iclCombophy phy + off) value).regs (iclPhyMisc phy) =
      file.regs (iclPhyMisc phy) := by
  have hNe := misc_ne_block hPhy hOff
  have hLane : ¬ IsLaneOf (iclPhyMisc phy) (iclCombophy phy + off) := by
    rw [IsLaneOf, isGroup_block hPhy hOff]
    intro ⟨hGroup, ln, hLn, hSame⟩
    simp at hLn
    apply misc_ne_block hPhy (show off + 0x200 + ln * 0x100 < 0x1000 by omega)
    rw [hSame]
    omega
  simp [RegisterFile.write, hNe, hLane]

theorem regs_write_misc (hPhy : phy.index ≤ 4) (hK : k < 0x1000) :
    (file.write (iclPhyMisc phy) value).regs (iclCombophy phy + k) =
      file.regs (iclCombophy phy + k) :=
  regs_write_of_not_isGroup (not_isGroup_misc hPhy) (misc_ne_block hPhy hK).symm

end Write

section View

/-- The registers of a PHY that the sequence reads. -/
structure PhyRegs where
  misc : Word
  dw0 : Word
  dw1 : Word
  dw3 : Word
  dw8 : Word
  dw9 : Word
  dw10 : Word
  clDw5 : Word
  txDw8 : Word
  pcsDw1 : Word
  deriving DecidableEq, Repr

def RegisterFile.phyRegs (file : RegisterFile) (phy : Phy) : PhyRegs :=
  { misc := file.regs (iclPhyMisc phy)
    dw0 := file.regs (iclPortCompDw 0 phy)
    dw1 := file.regs (iclPortCompDw 1 phy)
    dw3 := file.regs (iclPortCompDw 3 phy)
    dw8 := file.regs (iclPortCompDw 8 phy)
    dw9 := file.regs (iclPortCompDw 9 phy)
    dw10 := file.regs (iclPortCompDw 10 phy)
    clDw5 := file.regs (iclPortClDw 5 phy)
    txDw8 := file.regs (iclPortTxDwLn 8 0 phy)
    pcsDw1 := file.regs (iclPortPcsDwLn 1 0 phy) }

variable {phy : Phy} (hPhy : phy.index ≤ 4) (file : RegisterFile) (value : Word)
include hPhy

theorem phyRegs_write_misc :
    (file.write (iclPhyMisc phy) value).phyRegs phy =
      { file.phyRegs phy with misc := value } := by
  simp [RegisterFile.phyRegs, iclPortCompDw, iclPortClDw, iclPortTxDwLn, iclPortPcsDwLn,
    regs_write_misc hPhy, regs_write_self]

theorem phyRegs_write_dw0 :
    (file.write (iclPortCompDw 0 phy) value).phyRegs phy =
      { file.phyRegs phy with dw0 := value } := by
  simp [RegisterFile.phyRegs, iclPortCompDw, iclPortClDw, iclPortTxDwLn, iclPortPcsDwLn,
    regs_write_block hPhy, regs_write_block_misc hPhy]

theorem phyRegs_write_dw1 :
    (file.write (iclPortCompDw 1 phy) value).phyRegs phy =
      { file.phyRegs phy with dw1 := value } := by
  simp [RegisterFile.phyRegs, iclPortCompDw, iclPortClDw, iclPortTxDwLn, iclPortPcsDwLn,
    regs_write_block hPhy, regs_write_block_misc hPhy]

theorem phyRegs_write_dw8 :
    (file.write (iclPortCompDw 8 phy) value).phyRegs phy =
      { file.phyRegs phy with dw8 := value } := by
  simp [RegisterFile.phyRegs, iclPortCompDw, iclPortClDw, iclPortTxDwLn, iclPortPcsDwLn,
    regs_write_block hPhy, regs_write_block_misc hPhy]

theorem phyRegs_write_dw9 :
    (file.write (iclPortCompDw 9 phy) value).phyRegs phy =
      { file.phyRegs phy with dw9 := value } := by
  simp [RegisterFile.phyRegs, iclPortCompDw, iclPortClDw, iclPortTxDwLn, iclPortPcsDwLn,
    regs_write_block hPhy, regs_write_block_misc hPhy]

theorem phyRegs_write_dw10 :
    (file.write (iclPortCompDw 10 phy) value).phyRegs phy =
      { file.phyRegs phy with dw10 := value } := by
  simp [RegisterFile.phyRegs, iclPortCompDw, iclPortClDw, iclPortTxDwLn, iclPortPcsDwLn,
    regs_write_block hPhy, regs_write_block_misc hPhy]

theorem phyRegs_write_clDw5 :
    (file.write (iclPortClDw 5 phy) value).phyRegs phy =
      { file.phyRegs phy with clDw5 := value } := by
  simp [RegisterFile.phyRegs, iclPortCompDw, iclPortClDw, iclPortTxDwLn, iclPortPcsDwLn,
    regs_write_block hPhy, regs_write_block_misc hPhy]

/-- What goes to the group is read from the first lane. -/
theorem phyRegs_write_txDw8Grp :
    (file.write (iclPortTxDwGrp 8 phy) value).phyRegs phy =
      { file.phyRegs phy with txDw8 := value } := by
  simp [RegisterFile.phyRegs, iclPortCompDw, iclPortClDw, iclPortTxDwLn, iclPortPcsDwLn,
    iclPortTxDwGrp, regs_write_block hPhy, regs_write_block_misc hPhy]

theorem phyRegs_write_pcsDw1Grp :
    (file.write (iclPortPcsDwGrp 1 phy) value).phyRegs phy =
      { file.phyRegs phy with pcsDw1 := value } := by
  simp [RegisterFile.phyRegs, iclPortCompDw, iclPortClDw, iclPortTxDwLn, iclPortPcsDwLn,
    iclPortPcsDwGrp, regs_write_block hPhy, regs_write_block_misc hPhy]

end View

end NootedBlue.Combo
