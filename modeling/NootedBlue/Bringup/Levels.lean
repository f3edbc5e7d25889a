import NootedBlue.Bringup.Board

/-! What a bring-up keeps to, and what the programming of the drive levels comes to: a lane
is trained by the PHY only while its levels stay. -/
namespace NootedBlue.Bringup

open Interaction Bits Link
open Ddi (HasBit)
open Combo (iclCombophy iclPortClDw iclPortTxDwGrp iclPortTxDwLn iclPortPcsDwGrp iclPortPcsDwLn)

/-- The PHY drives all lanes with these settings, and trains them. -/
structure Driven (source : LinkSource) (trainSet : TrainSet) (tx : Fin 32 → Fin 4 → Word) : Prop where
  dw2 : ∀ ln, tx 2 ln &&& dw2Mask = dw2Bits (entryOf source trainSet ln)
  dw4 : ∀ ln, tx 4 ln &&& dw4Mask = dw4Bits (entryOf source trainSet ln)
  dw7 : ∀ ln, tx 7 ln &&& nScalar.mask = dw7Bits (entryOf source trainSet ln)
  loadgen : ∀ ln, tx 4 ln &&& loadgenSelect = iclComboPhyLoadgenSelect source ln
  training : ∀ ln, tx 5 ln &&& txTrainingEn = txTrainingEn

/-- The training patterns that a sink is told of. -/
def trainingPatterns : List Nat :=
  [dpTrainingPattern1 ||| dpLinkScramblingDisable, dpTrainingPattern2 ||| dpLinkScramblingDisable,
    dpTrainingPattern3 ||| dpLinkScramblingDisable, dpTrainingPattern4]

/-- The port has the clock of the first PLL, and the transcoder that of the port. -/
structure Clocked (source : LinkSource) (controls : Control → Word) : Prop where
  selected : controls .clock &&& ddiClkSelMask source.phy = 0
  on : controls .clock &&& ddiClkOff source.phy = 0
  transcoder : source.transcoder ≠ .edp → controls .transcoderClock = transClkSelPort source

/-- The transport and the buffer of the port are on, and the lanes in use have power. -/
structure Running (source : LinkSource) (board : Board) : Prop where
  clocked : Clocked source (source.controls board)
  power : source.power board = pwrDownLanes source
  transport : source.controls board .transport &&& dpTpCtlEnable = dpTpCtlEnable
  buffer : source.controls board .buffer &&& ddiBufCtlEnable = ddiBufCtlEnable

/-- All is there for the training, and the transcoder does not send yet. -/
structure Enabled (source : LinkSource) (board : Board) : Prop extends Running source board where
  silent : source.controls board .function &&& transDdiFuncEnable = 0

/-- The lanes in use are driven as the sink has been told. -/
structure Settled (source : LinkSource) (trainSet : TrainSet) (board : Board) : Prop where
  driven : Driven source trainSet (source.tx board)
  told : ∀ ln : Fin 4, (ln : Nat) < source.lanes.toNat →
    board.dpcd (dpTrainingLane0Set + ln) = trainSet ln

/-- The pattern that the transport sends. -/
def LinkSource.sent (source : LinkSource) (board : Board) : Word :=
  source.controls board .transport &&& dpTpCtlLinkTrain.mask

/-- The source sends the pattern that the sink has been told of, on lanes that it drives as
the sink has been told. -/
structure InStep (source : LinkSource) (pattern : Nat) (trainSet : TrainSet) (board : Board) : Prop
    where
  enabled : Enabled source board
  settled : Settled source trainSet board
  told : board.dpcd dpTrainingPatternSet = pattern
  sent : source.sent board = linkTrainBits pattern

/-- The pattern that follows the training: transcoders that run in the time of one another
start together, later. -/
def LinkSource.lastPattern (source : LinkSource) : Word :=
  if source.isTransPortSyncMode then linkTrainIdle else linkTrainNormal

/-- The swing of the lanes changes only while the PHY does not train them. -/
def Quiet (before after : Fin 32 → Fin 4 → Word) : Prop :=
  ∀ ln, before 2 ln ≠ after 2 ln ∨ before 7 ln ≠ after 7 ln → before 5 ln &&& txTrainingEn = 0

/-- What a write keeps to. The transcoder is made to send when its link is there and has been
trained, and the pipe is enabled after it. -/
structure WriteInOrder (source : LinkSource) (board : Board) (reg : Nat) (value : Word) : Prop where
  swing : Quiet (source.tx board) (source.tx (board.write reg value))
  function : reg = source.funcCtlReg → HasBit value transDdiFuncEnable →
    Running source board ∧ source.sent board = source.lastPattern
  pipe : reg = source.transConfReg → HasBit value transConfEnable →
    source.controls board .function = source.funcCtl

/-- The status of the sink is read only when both sides are in step, and writes keep to
their order. -/
def InOrder (source : LinkSource) (board : Board) : LinkExchange → Prop
  | ⟨.aux .readStatus, _⟩ =>
      ∃ pattern ∈ trainingPatterns, ∃ trainSet, InStep source pattern trainSet board
  | ⟨.mmio (.write reg value), _⟩ => WriteInOrder source board reg value
  | ⟨.mmio (.read _), _⟩ => True
  | ⟨.aux (.write _ _), _⟩ => True
  | ⟨.readAux _ _, _⟩ => True
  | ⟨.fsleep _, _⟩ => True
  | ⟨.ioSleep _, _⟩ => True
  | ⟨.intelDeWaitMs _ _ _ _, _⟩ => True
  | ⟨.hwSetPanelPower _, _⟩ => True

def rules (source : LinkSource) : Rules LinkAnswer Board where
  next := Board.next
  allows := KeptReads source
  promises := InOrder source

/-- A part of the programming of the PHY: what becomes of the registers of the lanes, and
that nothing else changes that a bring-up goes by. -/
structure PhyStep (source : LinkSource) (before : Board) (tx : Fin 32 → Fin 4 → Word)
    (after : Board) : Prop where
  tx_eq : source.tx after = tx
  controls_eq : source.controls after = source.controls before
  power_eq : source.power after = source.power before
  dpcd_eq : after.dpcd = before.dpcd
  status_eq : after.status = before.status

/-- The levels of all lanes, for their entries of the table. -/
def levelTx (source : LinkSource) (trainSet : TrainSet) (tx : Fin 32 → Fin 4 → Word) :
    Fin 32 → Fin 4 → Word :=
  let tx := Function.update tx 2 fun ln => merge dw2Mask (tx 2 ln) (dw2Bits (entryOf source trainSet ln))
  let tx := Function.update tx 4 fun ln => merge dw4Mask (tx 4 ln) (dw4Bits (entryOf source trainSet ln))
  Function.update tx 7 fun ln =>
    merge nScalar.mask (tx 7 ln) (dw7Bits (entryOf source trainSet ln))

/-- The bits of `ICL_PORT_TX_DW5` that stay, and those that are set, for all levels. -/
def scalingMask : Word :=
  scalingModeSel.mask ||| rtermSelect.mask ||| coeffPolarity ||| cursorProgram ||| tap2Disable |||
    tap3Disable

def scalingBits : Word := scalingModeSel.prep 2 ||| rtermSelect.prep 6 ||| tap3Disable

/-- The registers of the lanes when their levels are programmed. -/
def quietTx (source : LinkSource) (tx : Fin 32 → Fin 4 → Word) : Fin 32 → Fin 4 → Word :=
  let tx := Function.update tx 4 fun ln =>
    merge loadgenSelect (tx 4 ln) (iclComboPhyLoadgenSelect source ln)
  Function.update tx 5 fun _ => merge scalingMask (tx 5 firstLane &&& ~~~txTrainingEn) scalingBits

/-- The registers of the lanes after their levels have been programmed. -/
def drivenTx (source : LinkSource) (trainSet : TrainSet) (tx : Fin 32 → Fin 4 → Word) :
    Fin 32 → Fin 4 → Word :=
  let tx := levelTx source trainSet (quietTx source tx)
  Function.update tx 5 fun _ => tx 5 firstLane ||| txTrainingEn

section Bits

theorem dw2Bits_within (entry : IclDdiBufTrans) : dw2Bits entry &&& dw2Mask = dw2Bits entry :=
  or_and_or (or_and_or (Field.prep_within _ _) (Field.prep_within _ _)) (Field.prep_within _ _)

theorem dw4Bits_within (entry : IclDdiBufTrans) : dw4Bits entry &&& dw4Mask = dw4Bits entry :=
  or_and_or (or_and_or (Field.prep_within _ _) (Field.prep_within _ _)) (Field.prep_within _ _)

theorem dw7Bits_within (entry : IclDdiBufTrans) : dw7Bits entry &&& nScalar.mask = dw7Bits entry :=
  Field.prep_within _ _

theorem loadgen_within (source : LinkSource) (lane : Fin 4) :
    iclComboPhyLoadgenSelect source lane &&& loadgenSelect =
      iclComboPhyLoadgenSelect source lane := by
  rw [iclComboPhyLoadgenSelect]
  split
  · rfl
  · split
    · split <;> rfl
    · split <;> rfl

variable {source : LinkSource} {trainSet : TrainSet} {tx : Fin 32 → Fin 4 → Word}

theorem scaling_eq (val : Word) :
    (val &&& ~~~(scalingModeSel.mask ||| rtermSelect.mask ||| coeffPolarity ||| cursorProgram |||
        tap2Disable ||| tap3Disable)) ||| scalingModeSel.prep 2 ||| rtermSelect.prep 6 ||| tap3Disable =
      merge scalingMask val scalingBits := by
  simp only [merge, scalingMask, scalingBits, BitVec.or_assoc]

theorem driven_drivenTx : Driven source trainSet (drivenTx source trainSet tx) where
  dw2 := by
    intro ln
    simp only [drivenTx, levelTx]
    simpa using merge_and_mask (dw2Bits_within _)
  dw4 := by
    intro ln
    simp only [drivenTx, levelTx]
    simpa using merge_and_mask (dw4Bits_within _)
  dw7 := by
    intro ln
    simp only [drivenTx, levelTx]
    simpa using merge_and_mask (dw7Bits_within _)
  loadgen := by
    intro ln
    have hMask : dw4Mask &&& loadgenSelect = 0 := by decide
    have hBits := and_of_within (dw4Bits_within (entryOf source trainSet ln)) hMask
    have hLoadgen : quietTx source tx 4 ln &&& loadgenSelect =
        iclComboPhyLoadgenSelect source ln := by
      simp only [quietTx]
      simpa using merge_and_mask (loadgen_within source ln)
    simp only [drivenTx, levelTx]
    simpa [merge_and_of_disjoint hMask hBits] using hLoadgen
  training := by
    intro ln
    simp only [drivenTx, Function.update_self]
    exact or_and_self

end Bits

section Quiet

variable {tx later : Fin 32 → Fin 4 → Word}

theorem quiet_refl (tx : Fin 32 → Fin 4 → Word) : Quiet tx tx := by
  intro ln h
  rcases h with h | h
  · exact (h rfl).elim
  · exact (h rfl).elim

/-- One register of the lanes is written. -/
theorem quiet_update {dw : Fin 32} {row : Fin 4 → Word}
    (h : dw = 2 ∨ dw = 7 → ∀ ln, tx 5 ln &&& txTrainingEn = 0) :
    Quiet tx (Function.update tx dw row) := by
  intro ln hChange
  by_cases hSwing : dw = 2 ∨ dw = 7
  · exact h hSwing ln
  · have hTwo : (2 : Fin 32) ≠ dw := fun hEq => hSwing (.inl hEq.symm)
    have hSeven : (7 : Fin 32) ≠ dw := fun hEq => hSwing (.inr hEq.symm)
    rw [Function.update_of_ne hTwo, Function.update_of_ne hSeven] at hChange
    exact quiet_refl tx ln hChange

end Quiet

section Programs

variable {source : LinkSource} {board : Board} {tx later : Fin 32 → Fin 4 → Word}

theorem PhyStep.refl : PhyStep source board (source.tx board) board := ⟨rfl, rfl, rfl, rfl, rfl⟩

theorem PhyStep.trans {middle after : Board} (first : PhyStep source board tx middle)
    (second : PhyStep source middle later after) : PhyStep source board later after where
  tx_eq := second.tx_eq
  controls_eq := second.controls_eq.trans first.controls_eq
  power_eq := second.power_eq.trans first.power_eq
  dpcd_eq := second.dpcd_eq.trans first.dpcd_eq
  status_eq := second.status_eq.trans first.status_eq

/-- A register that only the driver writes is read. -/
theorem ensures_read {reg : Nat} {post : Word → Board → Prop} (hKept : source.Kept reg)
    (h : post (board.regs reg) board) : (intelDeRead reg).Ensures (rules source) post board := by
  intro answer hAllowed
  have hAnswer : answer = board.regs reg := hAllowed hKept
  exact ⟨trivial, hAnswer ▸ h⟩

theorem ensures_read_bind {α : Type} {reg : Nat} {f : Word → LinkProgram α}
    {post : α → Board → Prop} (hKept : source.Kept reg)
    (h : (f (board.regs reg)).Ensures (rules source) post board) :
    (intelDeRead reg >>= f).Ensures (rules source) post board :=
  ensures_bind.mpr (ensures_read hKept h)

theorem kept_of_owns {reg : Nat} (h : source.phy.Owns reg) : source.Kept reg := .inr (.inr h)

theorem outside_transConf : Outside source.transConfReg := by
  have hOffset := transOffset_lt source.transcoder
  simp only [Outside, LinkSource.transConfReg]
  omega

/-- A write to the PHY. -/
theorem writeInOrder_phy {reg : Nat} {value : Word} (hReg : source.phy.Owns reg)
    (hQuiet : Quiet (source.tx board) (source.tx (board.write reg value))) :
    WriteInOrder source board reg value where
  swing := hQuiet
  function := fun h => ((@outside_control source .function).not_owns (h ▸ hReg)).elim
  pipe := fun h => (outside_transConf.not_owns (h ▸ hReg)).elim

theorem ensures_phyWrite {off : Nat} {value : Word} (hOff : off < 0x1000)
    (hTx : source.tx (board.write (iclCombophy source.phy + off) value) = tx)
    (hPower : source.power (board.write (iclCombophy source.phy + off) value) = source.power board)
    (hQuiet : Quiet (source.tx board) tx) :
    (intelDeWrite (iclCombophy source.phy + off) value).Ensures (rules source)
      (fun _ => PhyStep source board tx) board := by
  have hReg : source.phy.Owns (iclCombophy source.phy + off) := Combo.owns_block hOff
  intro _ _
  exact ⟨writeInOrder_phy hReg (hTx ▸ hQuiet), hTx, controls_write_phy hReg, hPower, rfl, rfl⟩

theorem ensures_phyRmw {off : Nat} {clear set : Word} (hOff : off < 0x1000)
    (hTx : source.tx (board.write (iclCombophy source.phy + off)
      (merge clear (board.regs (iclCombophy source.phy + off)) set)) = tx)
    (hPower : source.power (board.write (iclCombophy source.phy + off)
      (merge clear (board.regs (iclCombophy source.phy + off)) set)) = source.power board)
    (hQuiet : Quiet (source.tx board) tx) :
    (intelDeRmw (iclCombophy source.phy + off) clear set).Ensures (rules source)
      (fun _ => PhyStep source board tx) board :=
  ensures_read_bind (kept_of_owns (Combo.owns_block hOff)) (ensures_phyWrite hOff hTx hPower hQuiet)

/-- One part after the other. -/
theorem ensures_phySeq {p q : LinkProgram Unit}
    (first : p.Ensures (rules source) (fun _ => PhyStep source board tx) board)
    (second : ∀ middle, source.tx middle = tx →
      q.Ensures (rules source) (fun _ => PhyStep source middle later) middle) :
    (p >>= fun _ => q).Ensures (rules source) (fun _ => PhyStep source board later) board := by
  rw [ensures_bind]
  apply first.mono
  intro _ middle hFirst
  exact (second middle hFirst.tx_eq).mono fun _ after hSecond => hFirst.trans hSecond

theorem lane_cases : ∀ lane : Fin 4, lane = 0 ∨ lane = 1 ∨ lane = 2 ∨ lane = 3 := by decide

/-- Four lanes, one after the other, are all four lanes. -/
theorem update_lanes (tx : Fin 32 → Fin 4 → Word) (dw : Fin 32) (f : Fin 4 → Word → Word) :
    (List.finRange 4).foldl (fun (tx : Fin 32 → Fin 4 → Word) ln =>
      Function.update tx dw (Function.update (tx dw) ln (f ln (tx dw ln)))) tx =
      Function.update tx dw fun ln => f ln (tx dw ln) := by
  funext other lane
  by_cases hDw : other = dw
  · subst hDw
    simp only [List.finRange_succ, List.finRange_zero, List.map_cons, List.map_nil, List.foldl_cons,
      List.foldl_nil, Function.update_self]
    rcases lane_cases lane with rfl | rfl | rfl | rfl <;> simp [Function.update]
  · simp [List.finRange_succ, hDw]

/-- A loop over the lanes. -/
theorem ensures_eachLane (dw : Fin 32) {clear : Word} {set : Fin 4 → Word} (hFive : dw ≠ 5)
    (hQuiet : dw = 2 ∨ dw = 7 → ∀ ln, source.tx board 5 ln &&& txTrainingEn = 0) :
    (eachLane fun ln => intelDeRmw (iclPortTxDwLn dw ln source.phy) clear (set ln)).Ensures
      (rules source) (fun _ => PhyStep source board
        (Function.update (source.tx board) dw fun ln => merge clear (source.tx board dw ln) (set ln)))
      board := by
  have hBody : ∀ (ln : Fin 4) (middle : Board), source.tx middle 5 = source.tx board 5 →
      (intelDeRmw (iclPortTxDwLn dw ln source.phy) clear (set ln)).Ensures (rules source)
        (fun _ => PhyStep source middle (Function.update (source.tx middle) dw
          (Function.update (source.tx middle dw) ln (merge clear (source.tx middle dw ln) (set ln)))))
        middle := by
    intro ln middle hMiddle
    refine ensures_phyRmw (by omega) (tx_write_ln dw ln) (power_write_block (by omega) (by omega))
      (quiet_update ?_)
    rw [hMiddle]
    exact hQuiet
  have hKeep : ∀ (tx : Fin 32 → Fin 4 → Word) (row : Fin 4 → Word),
      Function.update tx dw row 5 = tx 5 := fun tx row => Function.update_of_ne (Ne.symm hFive) _ _
  rw [← update_lanes (source.tx board) dw fun ln word => merge clear word (set ln)]
  refine ensures_phySeq (hBody 0 board rfl) fun one hOne => ?_
  have hOne' : source.tx one 5 = source.tx board 5 := by rw [hOne, hKeep]
  refine ensures_phySeq (hBody 1 one hOne') fun two hTwo => ?_
  have hTwo' : source.tx two 5 = source.tx board 5 := by rw [hTwo, hKeep, hOne']
  refine ensures_phySeq (hBody 2 two hTwo') fun three hThree => ?_
  have hThree' : source.tx three 5 = source.tx board 5 := by rw [hThree, hKeep, hTwo']
  apply (hBody 3 three hThree').mono
  intro _ after hAfter
  rw [hThree, hTwo, hOne] at hAfter
  exact hAfter

/-- All lanes get one value in a register that does not decide about the swing. -/
theorem ensures_group (dw : Fin 32) (value : Word) (hTwo : dw ≠ 2) (hSeven : dw ≠ 7) :
    (intelDeWrite (iclPortTxDwGrp dw source.phy) value).Ensures (rules source)
      (fun _ => PhyStep source board (Function.update (source.tx board) dw fun _ => value)) board := by
  refine ensures_phyWrite (by omega) (tx_write_grp dw) (power_write_block (by omega) (by omega))
    (quiet_update ?_)
  intro hSwing
  rcases hSwing with h | h
  · exact (hTwo h).elim
  · exact (hSeven h).elim

/-- The bits for a panel with a high output bandwidth are none of those for the power. -/
theorem power_write_clDw10 {value : Word} :
    source.power (board.write (iclPortClDw 10 source.phy) value) = value &&& pwrDownLn.mask := by
  rw [LinkSource.power, regs_write_self]

theorem ensures_programHobl : (programHobl source).Ensures (rules source)
    (fun _ => PhyStep source board (source.tx board)) board := by
  have hMask : edp4k2kModeOvrd &&& pwrDownLn.mask = 0 := by decide
  rw [programHobl]
  split
  · refine ensures_phyRmw (by decide) (tx_write_clDw (by decide)) ?_ (quiet_refl _)
    refine power_write_clDw10.trans ?_
    split
    · exact merge_and_of_disjoint hMask hMask
    · exact merge_and_of_disjoint hMask BitVec.zero_and
  · exact PhyStep.refl

/-- The registers of the lanes when their levels have been programmed, from those they had
then. -/
theorem ensures_vswingProgram (trainSet : TrainSet)
    (hQuiet : ∀ ln, source.tx board 5 ln &&& txTrainingEn = 0) :
    (iclDdiComboVswingProgram source trainSet).Ensures (rules source)
      (fun _ => PhyStep source board (levelTx source trainSet (Function.update (source.tx board) 5
        fun _ => merge scalingMask (source.tx board 5 0) scalingBits))) board := by
  refine ensures_phySeq ensures_programHobl fun one hOne => ?_
  refine ensures_read_bind (kept_of_owns (owns_txDwLn 5 0)) ?_
  refine ensures_phySeq (ensures_group 5 _ (by decide) (by decide)) ?_
  intro two hTwo
  have hScaling : source.tx two = Function.update (source.tx board) 5
      fun _ => merge scalingMask (source.tx board 5 0) scalingBits := by
    rw [hTwo, scaling_eq, hOne]
    exact congrArg (fun row : Fin 4 → Word => Function.update (source.tx board) 5 fun _ =>
      merge scalingMask (row 0) scalingBits) (congrFun hOne 5)
  have hStill : ∀ ln, source.tx two 5 ln &&& txTrainingEn = 0 := by
    intro ln
    have hMask : scalingMask &&& txTrainingEn = 0 := by decide
    have hBits : scalingBits &&& txTrainingEn = 0 := by decide
    rw [hScaling, Function.update_self, merge_and_of_disjoint hMask hBits]
    exact hQuiet 0
  rw [← hScaling]
  refine ensures_phySeq (ensures_eachLane 2 (by decide) fun _ => hStill) ?_
  intro three hThree
  have hStill' : ∀ ln, source.tx three 5 ln &&& txTrainingEn = 0 := by
    intro ln
    rw [hThree]
    simpa using hStill ln
  refine ensures_phySeq (ensures_eachLane 4 (by decide) fun _ => hStill') ?_
  intro four hFour
  apply (ensures_eachLane 7 (by decide) ?_).mono
  · intro _ after hAfter
    rw [hFour, hThree] at hAfter
    exact hAfter
  · intro _ ln
    rw [hFour]
    simpa using hStill' ln

/-- `icl_combo_phy_set_signal_levels` drives all lanes as it is told. -/
theorem ensures_setSignalLevels (trainSet : TrainSet) :
    (iclComboPhySetSignalLevels source trainSet).Ensures (rules source)
      (fun _ => PhyStep source board (drivenTx source trainSet (source.tx board))) board := by
  refine ensures_read_bind (kept_of_owns (owns_pcsDwLn 0)) ?_
  refine ensures_phySeq (ensures_phyWrite (by decide) tx_write_pcsDwGrp
    (power_write_block (by decide) (by decide)) (quiet_refl _)) ?_
  intro one hOne
  have hSwing : ¬ ((4 : Fin 32) = 2 ∨ (4 : Fin 32) = 7) := by decide
  refine ensures_phySeq (ensures_eachLane 4 (by decide) fun h => (hSwing h).elim) ?_
  intro two hTwo
  refine ensures_phySeq (ensures_phyRmw (by decide) (tx_write_clDw (by decide))
    (power_write_block (by decide) (by decide)) (quiet_refl _)) ?_
  intro three hThree
  refine ensures_read_bind (kept_of_owns (owns_txDwLn 5 0)) ?_
  refine ensures_phySeq (ensures_group 5 _ (by decide) (by decide)) ?_
  intro four hFour
  have hStill : ∀ ln, source.tx four 5 ln &&& txTrainingEn = 0 := by
    intro ln
    rw [hFour, Function.update_self]
    exact and_not_and_self
  refine ensures_phySeq (ensures_vswingProgram trainSet hStill) ?_
  intro five hFive
  refine ensures_read_bind (kept_of_owns (owns_txDwLn 5 0)) ?_
  apply (ensures_group 5 _ (by decide) (by decide)).mono
  intro _ after hAfter
  have hLoadgen : source.tx three = Function.update (source.tx board) 4 fun ln =>
      merge loadgenSelect (source.tx board 4 ln) (iclComboPhyLoadgenSelect source ln) := by
    rw [hThree, hTwo, hOne]
  have hOff : source.tx four = Function.update (source.tx three) 5
      fun _ => source.tx three 5 0 &&& ~~~txTrainingEn := hFour
  have hLevels : source.tx five = levelTx source trainSet (quietTx source (source.tx board)) := by
    rw [hFive, hOff, Function.update_self, Function.update_idem, hLoadgen]
    rfl
  have hOn : source.tx after = Function.update (source.tx five) 5
      fun _ => source.tx five 5 0 ||| txTrainingEn := hAfter.tx_eq
  rw [hLevels] at hOn
  exact { hAfter with tx_eq := hOn }

end Programs

end NootedBlue.Bringup
