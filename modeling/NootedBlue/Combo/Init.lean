import NootedBlue.Combo.Sequence

/-! The sequence establishes what the verifier asks, each PHY for itself. -/
namespace NootedBlue.Combo

open Display Interaction Bits

section Effect

variable (info : PhyPlatform) (phy : Phy) (file : RegisterFile)

/-- The registers of a PHY after it was initialised. -/
def initialised (info : PhyPlatform) (phy : Phy) (regs : PhyRegs) : PhyRegs :=
  { misc := if hasPhyMisc info phy then regs.misc &&& ~~~iclPhyMiscDeIoCompPwrDown else regs.misc
    dw0 := (regs.dw0 &&& ~~~0) ||| compInit
    dw1 := merge procmonMask regs.dw1 (procmonOf regs.dw3).dw1
    dw3 := regs.dw3
    dw8 := if phyIsMaster info phy then (regs.dw8 &&& ~~~0) ||| irefgen else regs.dw8
    dw9 := (procmonOf regs.dw3).dw9
    dw10 := (procmonOf regs.dw3).dw10
    clDw5 := (regs.clDw5 &&& ~~~0) ||| clPowerDownEnable
    txDw8 := if info.ver ≥ 12 then
      (regs.txDw8 &&& ~~~odccClkDivSelMask) ||| odccClkSel ||| odccClkDivSelDiv2 else regs.txDw8
    pcsDw1 := if info.ver ≥ 12 then merge dccModeSelectMask regs.pcsDw1 runDccOnce
      else regs.pcsDw1 }

variable {phy} (hPhy : phy.index ≤ 4)
include hPhy

theorem phyRegs_powerUpMisc :
    ((powerUpMisc info phy).eval phyWorld file).2.phyRegs phy =
      { file.phyRegs phy with misc := (initialised info phy (file.phyRegs phy)).misc } := by
  rw [powerUpMisc, initialised]
  by_cases hHas : hasPhyMisc info phy = true
  · simp only [hHas, not_true_eq_false, if_false, if_true, Program.eval_bind, eval_intelDeRead,
      eval_intelDeWrite, phyRegs_write_misc hPhy]
    rfl
  · simp only [hHas]
    rfl

theorem phyRegs_selectClocks :
    ((selectClocks info phy).eval phyWorld file).2.phyRegs phy =
      { file.phyRegs phy with
        txDw8 := (initialised info phy (file.phyRegs phy)).txDw8
        pcsDw1 := (initialised info phy (file.phyRegs phy)).pcsDw1 } := by
  rw [selectClocks, initialised]
  by_cases hVer : info.ver ≥ 12
  · have hTxDw8 (file : RegisterFile) :
        file.regs (iclPortTxDwLn 8 0 phy) = (file.phyRegs phy).txDw8 := rfl
    have hPcsDw1 (file : RegisterFile) :
        file.regs (iclPortPcsDwLn 1 0 phy) = (file.phyRegs phy).pcsDw1 := rfl
    simp only [hVer, if_true, Program.eval_bind, eval_intelDeRead, eval_intelDeWrite,
      phyRegs_write_txDw8Grp hPhy, phyRegs_write_pcsDw1Grp hPhy, hTxDw8, hPcsDw1]
    rfl
  · simp only [hVer, if_false]
    rfl

theorem phyRegs_iclSetProcmonRefValues :
    ((iclSetProcmonRefValues phy).eval phyWorld file).2.phyRegs phy =
      { file.phyRegs phy with
        dw1 := (initialised info phy (file.phyRegs phy)).dw1
        dw9 := (initialised info phy (file.phyRegs phy)).dw9
        dw10 := (initialised info phy (file.phyRegs phy)).dw10 } := by
  simp only [iclSetProcmonRefValues, iclGetProcmonRefValues, Program.eval_bind, eval_intelDeRead,
    eval_intelDeWrite, eval_intelDeRmw, Program.pure_eq, Program.eval_done,
    phyRegs_write_dw1 hPhy, phyRegs_write_dw9 hPhy, phyRegs_write_dw10 hPhy]
  rfl

theorem phyRegs_setMaster :
    ((setMaster info phy).eval phyWorld file).2.phyRegs phy =
      { file.phyRegs phy with dw8 := (initialised info phy (file.phyRegs phy)).dw8 } := by
  rw [setMaster, initialised]
  by_cases hMaster : phyIsMaster info phy = true
  · simp only [hMaster, if_true, eval_intelDeRmw, phyRegs_write_dw8 hPhy]
    rfl
  · simp only [hMaster]
    rfl

theorem phyRegs_initComboPhy :
    ((initComboPhy info phy).eval phyWorld file).2.phyRegs phy =
      initialised info phy (file.phyRegs phy) := by
  have hDw0 (file : RegisterFile) : file.regs (iclPortCompDw 0 phy) = (file.phyRegs phy).dw0 := rfl
  have hClDw5 (file : RegisterFile) : file.regs (iclPortClDw 5 phy) = (file.phyRegs phy).clDw5 :=
    rfl
  simp only [initComboPhy, iclGetProcmonRefValues, Program.eval_bind, eval_intelDeRead,
    Program.pure_eq, Program.eval_done, eval_intelDeRmw, hDw0, hClDw5, phyRegs_write_clDw5 hPhy,
    phyRegs_write_dw0 hPhy, phyRegs_setMaster info _ hPhy,
    phyRegs_iclSetProcmonRefValues info _ hPhy, phyRegs_selectClocks info _ hPhy,
    phyRegs_powerUpMisc info _ hPhy]
  rfl

end Effect

/-- The divider is cleared, and then it and the clock are set. -/
theorem txDw8_and (word : Word) :
    ((word &&& ~~~odccClkDivSelMask) ||| odccClkSel ||| odccClkDivSelDiv2) &&&
      (odccClkSel ||| odccClkDivSelMask) = odccClkSel ||| odccClkDivSelDiv2 := by
  have hSet : (odccClkSel ||| odccClkDivSelDiv2) &&& (odccClkSel ||| odccClkDivSelMask) =
      odccClkSel ||| odccClkDivSelDiv2 := by decide
  have hClear : ~~~odccClkDivSelMask &&& (odccClkSel ||| odccClkDivSelMask) = odccClkSel := by
    decide
  rw [BitVec.or_assoc, BitVec.and_or_distrib_right, hSet, BitVec.and_assoc, hClear,
    ← BitVec.or_assoc, and_or_self]

/-- The reference values fit into the bits that are set from them. -/
theorem procmonOf_dw1 (dw3 : Word) : (procmonOf dw3).dw1 &&& procmonMask = (procmonOf dw3).dw1 := by
  simp only [procmonOf]
  split
  · decide
  · split
    · decide
    · split
      · decide
      · split
        · decide
        · decide

/-- Whatever the registers were, an initialised PHY verifies. -/
theorem verifies_initialised (info : PhyPlatform) (phy : Phy) (regs : PhyRegs) :
    Verifies info phy (initialised info phy regs) :=
  { misc := fun h => by
      simp only [initialised, h, if_true]
      exact and_not_and_self
    dw0 := by
      have hBit : compInit ≠ 0 := by decide
      simp only [initialised, or_and_self]
      exact hBit
    txDw8 := fun h => by
      simp only [initialised, h, if_true]
      exact txDw8_and regs.txDw8
    pcsDw1 := fun h => by
      simp only [initialised, h, if_true]
      exact merge_and_mask (by decide)
    dw1 := merge_and_mask (procmonOf_dw1 regs.dw3)
    dw9 := rfl
    dw10 := rfl
    dw8 := fun h => by
      simp only [initialised, h, if_true]
      exact or_and_self
    clDw5 := or_and_self }

section Frame

/-- Operations that write only registers of one PHY. -/
def StaysAt (phy : Phy) : PhyOp → Prop
  | .read _ => True
  | .write reg _ => phy.Owns reg

/-- From one state to a later one nothing was written to a PHY, and none of its
registers changed. -/
structure Untouched (phy : Phy) (file after : RegisterFile) : Prop where
  written : ∃ writes, after.written = file.written ++ writes ∧
    ∀ write ∈ writes, ¬ phy.Owns write.1
  regs : ∀ reg, phy.Owns reg → after.regs reg = file.regs reg

variable {info : PhyPlatform} {phy other : Phy} {file middle after : RegisterFile}

theorem Untouched.refl : Untouched phy file file :=
  { written := ⟨[], (List.append_nil _).symm, fun _ h => absurd h List.not_mem_nil⟩
    regs := fun _ _ => rfl }

theorem Untouched.trans (first : Untouched phy file middle) (rest : Untouched phy middle after) :
    Untouched phy file after := by
  obtain ⟨before, hMiddle, hBefore⟩ := first.written
  obtain ⟨later, hAfter, hLater⟩ := rest.written
  refine { written := ⟨before ++ later, ?_, ?_⟩, regs := ?_ }
  · rw [hAfter, hMiddle, List.append_assoc]
  · intro write hMem
    rcases List.mem_append.mp hMem with hFirst | hRest
    · exact hBefore write hFirst
    · exact hLater write hRest
  · intro reg hOwns
    rw [rest.regs reg hOwns, first.regs reg hOwns]

theorem Untouched.phyRegs_eq (h : Untouched phy file after) :
    after.phyRegs phy = file.phyRegs phy := by
  have hBlock {off : Nat} (hOff : off < 0x1000) :
      after.regs (iclCombophy phy + off) = file.regs (iclCombophy phy + off) :=
    h.regs _ (owns_block hOff)
  simp only [RegisterFile.phyRegs, iclPortCompDw, iclPortClDw, iclPortTxDwLn, iclPortPcsDwLn,
    h.regs _ owns_misc]
  simp [hBlock]

/-- A write to one PHY does not touch another. -/
theorem untouched_write (hPhy : phy.index ≤ 4) (hOther : other.index ≤ 4) (hNe : phy ≠ other)
    {reg : Nat} (hOwns : phy.Owns reg) (value : Word) :
    Untouched other file (file.write reg value) := by
  have hNot {lane : Nat} (hLane : phy.Owns lane) : ¬ other.Owns lane := fun hOwnsOther =>
    hNe (owner_unique hPhy hOther hLane hOwnsOther)
  refine { written := ⟨[(reg, value)], rfl, ?_⟩, regs := ?_ }
  · intro write hMem
    rw [List.mem_singleton.mp hMem]
    exact hNot hOwns
  · intro lane hLane
    apply if_neg
    intro hSame
    rcases hSame with hReg | hOf
    · exact hNot hOwns (hReg ▸ hLane)
    · exact hNot (owns_lane hPhy hOwns hOf) hLane

theorem performs_read (phy : Phy) (reg : Nat) : (intelDeRead reg).Performs (StaysAt phy) := by
  rw [intelDeRead, Program.performs_perform]
  exact trivial

theorem performs_write {reg : Nat} (hOwns : phy.Owns reg) (value : Word) :
    (intelDeWrite reg value).Performs (StaysAt phy) := by
  rw [intelDeWrite, Program.performs_perform]
  exact hOwns

theorem performs_rmw {reg : Nat} (hOwns : phy.Owns reg) (clear set : Word) :
    (intelDeRmw reg clear set).Performs (StaysAt phy) :=
  Program.performs_bind (performs_read phy reg) fun _ => performs_write hOwns _

theorem owns_compDw {dw : Nat} (hDw : dw ≤ 10) : phy.Owns (iclPortCompDw dw phy) :=
  owns_block (by omega)

theorem performs_iclGetProcmonRefValues : (iclGetProcmonRefValues phy).Performs (StaysAt phy) :=
  Program.performs_bind (performs_read phy _) fun _ => Program.performs_done _

theorem performs_iclSetProcmonRefValues : (iclSetProcmonRefValues phy).Performs (StaysAt phy) := by
  refine Program.performs_bind performs_iclGetProcmonRefValues fun procmon =>
    Program.performs_bind ?_ fun _ => Program.performs_bind ?_ fun _ =>
    performs_write (owns_compDw (by decide)) _
  · exact performs_rmw (owns_compDw (by decide)) _ _
  · exact performs_write (owns_compDw (by decide)) _

theorem performs_selectClocks : (selectClocks info phy).Performs (StaysAt phy) := by
  rw [selectClocks]
  split
  · refine Program.performs_bind (performs_read phy _) fun tx => Program.performs_bind ?_ fun _ =>
      Program.performs_bind (performs_read phy _) fun pcs => performs_write (owns_block (by decide)) _
    exact performs_write (owns_block (by decide)) _
  · exact Program.performs_done _

/-- The sequence of a PHY writes registers of this PHY only. -/
theorem performs_initComboPhy : (initComboPhy info phy).Performs (StaysAt phy) := by
  rw [initComboPhy]
  refine Program.performs_bind performs_iclGetProcmonRefValues fun _ =>
    Program.performs_bind ?_ fun _ => Program.performs_bind performs_selectClocks fun _ =>
    Program.performs_bind performs_iclSetProcmonRefValues fun _ => Program.performs_bind ?_ fun _ =>
    Program.performs_bind (performs_rmw (owns_compDw (by decide)) _ _) fun _ =>
    performs_rmw (owns_block (by decide)) _ _
  · rw [powerUpMisc]
    split
    · exact Program.performs_done _
    · exact Program.performs_bind (performs_read phy _) fun _ => performs_write owns_misc _
  · rw [setMaster]
    split
    · exact performs_rmw (owns_compDw (by decide)) _ _
    · exact Program.performs_done _

/-- One PHY is initialised without another. -/
theorem untouched_initComboPhy (hPhy : phy.index ≤ 4) (hOther : other.index ≤ 4)
    (hNe : phy ≠ other) :
    Untouched other file ((initComboPhy info phy).eval phyWorld file).2 := by
  apply Program.eval_invariant (Untouched other file) ?_ performs_initComboPhy .refl
  intro middle op hStays hUntouched
  cases op with
  | read reg => exact hUntouched
  | write reg value => exact hUntouched.trans (untouched_write hPhy hOther hNe hStays value)

end Frame

section Loop

variable {info : PhyPlatform} {phys : List Phy} {file : RegisterFile}

/-- One PHY of the loop. -/
theorem eval_initPhys_cons (info : PhyPlatform) (phy : Phy) :
    ((initPhys info (phy :: phys)).eval phyWorld file =
        (initPhys info phys).eval phyWorld file ∧ Verifies info phy (file.phyRegs phy)) ∨
      ((initPhys info (phy :: phys)).eval phyWorld file = (initPhys info phys).eval phyWorld
        ((initComboPhy info phy).eval phyWorld file).2 ∧ ¬ Verifies info phy (file.phyRegs phy)) := by
  obtain ⟨verified, hEval, hIff⟩ := eval_iclComboPhyVerifyState info phy file
  rw [initPhys, Program.eval_bind, hEval]
  cases verified with
  | true => exact Or.inl ⟨rfl, hIff.mp rfl⟩
  | false =>
      refine Or.inr ⟨?_, fun h => Bool.false_ne_true (hIff.mpr h)⟩
      exact Program.eval_bind phyWorld (initComboPhy info phy) (fun _ => initPhys info phys) file

/-- A PHY that verifies at the start is not touched. -/
theorem untouched_initPhys (hPhys : ∀ phy ∈ phys, phy.index ≤ 4) {other : Phy}
    (hOther : other.index ≤ 4) (hVerifies : Verifies info other (file.phyRegs other)) :
    Untouched other file ((initPhys info phys).eval phyWorld file).2 := by
  induction phys generalizing file with
  | nil => exact .refl
  | cons phy rest ih =>
      have hRest : ∀ phy ∈ rest, phy.index ≤ 4 := fun p hMem => hPhys p (List.mem_cons_of_mem _ hMem)
      rcases eval_initPhys_cons info phy with ⟨hSkip, -⟩ | ⟨hInit, hNot⟩
      · rw [hSkip]
        exact ih hRest hVerifies
      · have hNe : phy ≠ other := by
          rintro rfl
          exact hNot hVerifies
        have hFirst : Untouched other file ((initComboPhy info phy).eval phyWorld file).2 :=
          untouched_initComboPhy (hPhys phy List.mem_cons_self) hOther hNe
        rw [hInit]
        apply hFirst.trans
        apply ih hRest
        rw [hFirst.phyRegs_eq]
        exact hVerifies

/-- At the end all PHYs of the loop verify. -/
theorem verifies_initPhys (hPhys : ∀ phy ∈ phys, phy.index ≤ 4) {phy : Phy} (hMem : phy ∈ phys) :
    Verifies info phy (((initPhys info phys).eval phyWorld file).2.phyRegs phy) := by
  induction phys generalizing file with
  | nil => cases hMem
  | cons head rest ih =>
      have hRest : ∀ phy ∈ rest, phy.index ≤ 4 := fun p hMem => hPhys p (List.mem_cons_of_mem _ hMem)
      have hHead : head.index ≤ 4 := hPhys head List.mem_cons_self
      -- The later PHYs do not undo what was done for the first one.
      have hStays {file : RegisterFile} (hVerifies : Verifies info head (file.phyRegs head)) :
          Verifies info head (((initPhys info rest).eval phyWorld file).2.phyRegs head) := by
        rw [(untouched_initPhys hRest hHead hVerifies).phyRegs_eq]
        exact hVerifies
      rcases eval_initPhys_cons info head with ⟨hSkip, hVerifies⟩ | ⟨hInit, -⟩
      · rw [hSkip]
        rcases List.mem_cons.mp hMem with rfl | hLater
        · exact hStays hVerifies
        · exact ih hRest hLater
      · rw [hInit]
        rcases List.mem_cons.mp hMem with rfl | hLater
        · apply hStays
          rw [phyRegs_initComboPhy info file hHead]
          exact verifies_initialised info phy _
        · exact ih hRest hLater

/-- Where all PHYs verify, the loop does nothing. -/
theorem initPhys_of_verifies (hVerifies : ∀ phy ∈ phys, Verifies info phy (file.phyRegs phy)) :
    (initPhys info phys).eval phyWorld file = ((), file) := by
  induction phys with
  | nil => rfl
  | cons phy rest ih =>
      rcases eval_initPhys_cons info phy with ⟨hSkip, -⟩ | ⟨-, hNot⟩
      · rw [hSkip]
        exact ih fun p hMem => hVerifies p (List.mem_cons_of_mem _ hMem)
      · exact absurd (hVerifies phy List.mem_cons_self) hNot

end Loop

/-- From any contents of the registers, all combo PHYs verify afterwards, another
initialisation does nothing at all, and a PHY that verified before is not touched. -/
theorem iclComboPhysInit_establishes (info : PhyPlatform) (file : RegisterFile) :
    let after := ((iclComboPhysInit info).eval phyWorld file).2
    (∀ phy ∈ comboPhys info,
      ((iclComboPhyVerifyState info phy).eval phyWorld after).1 = true) ∧
      (iclComboPhysInit info).eval phyWorld after = ((), after) ∧
      ∀ phy ∈ comboPhys info, ((iclComboPhyVerifyState info phy).eval phyWorld file).1 = true →
        Untouched phy file after := by
  intro after
  have hCombo : ∀ phy ∈ comboPhys info, phy.index ≤ 4 := fun phy hMem =>
    index_of_combo (List.mem_filter.mp hMem).2
  have hVerifies (phy : Phy) (file : RegisterFile) :
      ((iclComboPhyVerifyState info phy).eval phyWorld file).1 = true ↔
        Verifies info phy (file.phyRegs phy) := by
    obtain ⟨verified, hEval, hIff⟩ := eval_iclComboPhyVerifyState info phy file
    rw [hEval]
    exact hIff
  refine ⟨?_, ?_, ?_⟩
  · intro phy hMem
    exact (hVerifies phy after).mpr (verifies_initPhys hCombo hMem)
  · exact initPhys_of_verifies fun phy hMem => verifies_initPhys hCombo hMem
  · intro phy hMem hBefore
    exact untouched_initPhys hCombo (hCombo phy hMem) ((hVerifies phy file).mp hBefore)

end NootedBlue.Combo
