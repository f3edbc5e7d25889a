import NootedBlue.Bringup.Idle

/-! The order of a bring-up. Whatever the registers and the sink answer, the link is trained
when the port has its clock and its power, the transcoder sends when the training is over, and
success is reported when the sink has confirmed what the lanes are driven with. -/
namespace NootedBlue.Bringup

open Interaction Transition Bits Link
open Ddi (HasBit)
open Combo (iclPortClDw)

/-- What comes before the training: the clocks are on, the lanes in use have power, and the
transcoder does not send. -/
structure Prepared (source : LinkSource) (board : Board) : Prop where
  clocked : Clocked source (source.controls board)
  power : source.power board = pwrDownLanes source
  silent : source.controls board .function &&& transDdiFuncEnable = 0

/-- What comes after it: a pattern is sent, and a link that has passed is driven as the sink
has confirmed. -/
structure Trained (source : LinkSource) (passed : Bool) (pattern : Word) (board : Board) : Prop where
  enabled : Enabled source board
  sent : source.sent board = pattern
  passes : passed = true → Confirmed source board ∧ ∃ trainSet, Settled source trainSet board

/-- What a bring-up comes to. The transcoder sends on a link that failed, too. -/
structure BroughtUp (modeset : Modeset) (result : Option Int) (board : Board) : Prop where
  running : Running modeset.toLinkSource board
  sent : modeset.sent board = modeset.lastPattern
  function : modeset.controls board .function = modeset.funcCtl
  passes : result = some 0 → modeset.isMst = true ∨ modeset.isUhbr = false →
    Confirmed modeset.toLinkSource board ∧
      ∃ trainSet, Settled modeset.toLinkSource trainSet board

section Writes

variable {source : LinkSource} {board after : Board} {passed : Bool} {pattern : Word}

/-- What the driver knows of a control is changed. -/
theorem ensures_controlRmw (control : Control) {clear set : Word} {post : Unit → Board → Prop}
    (hKept : source.Kept (source.control control)) (hOther : control ≠ .function)
    (h : post () (board.write (source.control control)
      (merge clear (source.controls board control) set))) :
    (intelDeRmw (source.control control) clear set).Ensures (rules source) post board :=
  ensures_read_bind hKept (ensures_control control hOther h)

theorem Same.prepared (h : Same source board after) (hPrepared : Prepared source board) :
    Prepared source after where
  clocked := h.controls_eq ▸ hPrepared.clocked
  power := h.power_eq.trans hPrepared.power
  silent := h.controls_eq ▸ hPrepared.silent

theorem Same.enabled (h : Same source board after) (hEnabled : Enabled source board) :
    Enabled source after := hEnabled.congr h.controls_eq h.power_eq

theorem Same.sent_eq (h : Same source board after) : source.sent after = source.sent board := by
  rw [LinkSource.sent, h.controls_eq, LinkSource.sent]

/-- What the sink has confirmed is about the lanes and what the sink was told of them. -/
theorem passes_congr (hTx : source.tx after = source.tx board) (hStatus : after.status = board.status)
    (hLanes : ∀ ln : Fin 4, after.dpcd (dpTrainingLane0Set + ln) = board.dpcd (dpTrainingLane0Set + ln))
    (h : Confirmed source board ∧ ∃ trainSet, Settled source trainSet board) :
    Confirmed source after ∧ ∃ trainSet, Settled source trainSet after := by
  obtain ⟨⟨status, hSome, hTrained⟩, trainSet, hSettled⟩ := h
  refine ⟨⟨status, hStatus.trans hSome, hTrained⟩, trainSet, hTx ▸ hSettled.driven, ?_⟩
  intro ln hLn
  exact (hLanes ln).trans (hSettled.told ln hLn)

theorem Same.trained (h : Same source board after) (hTrained : Trained source passed pattern board) :
    Trained source passed pattern after where
  enabled := h.enabled hTrained.enabled
  sent := h.sent_eq.trans hTrained.sent
  passes := fun hPassed => passes_congr h.tx_eq h.status_eq h.lanes_eq (hTrained.passes hPassed)

/-- Another control is written, with what the lanes are driven with left as it is. -/
theorem passes_write (control : Control) {value : Word}
    (h : Confirmed source board ∧ ∃ trainSet, Settled source trainSet board) :
    Confirmed source (board.write (source.control control) value) ∧
      ∃ trainSet, Settled source trainSet (board.write (source.control control) value) :=
  passes_congr (tx_write_control control value) rfl (fun _ => rfl) h

/-- The pattern changes. -/
theorem Trained.setPattern {bits : Word} (h : Trained source passed pattern board)
    (hBits : bits &&& dpTpCtlLinkTrain.mask = bits) :
    Trained source passed bits (board.write (source.control .transport)
      (merge dpTpCtlLinkTrain.mask (board.regs source.dpTpCtlReg) bits)) where
  enabled := h.enabled.setField hBits
  sent := sent_setField hBits _
  passes := fun hPassed => passes_write .transport (h.passes hPassed)

/-- FEC is turned on or off. -/
theorem Trained.setFec {bits : Word} (h : Trained source passed pattern board)
    (hBits : bits &&& dpTpCtlFecEnable = bits) :
    Trained source passed pattern (board.write (source.control .transport)
      (merge dpTpCtlFecEnable (board.regs source.dpTpCtlReg) bits)) where
  enabled := h.enabled.setBits (by decide) hBits
  sent := by
    have hMask : dpTpCtlFecEnable &&& dpTpCtlLinkTrain.mask = 0 := by decide
    rw [LinkSource.sent, controls_write, Function.update_self,
      merge_and_of_disjoint hMask (and_of_within hBits hMask)]
    exact h.sent
  passes := fun hPassed => passes_write .transport (h.passes hPassed)

end Writes

section Source

variable {source : LinkSource} {modeset : Modeset} {board : Board}

theorem idle_initDpBufReg : (intelDdiInitDpBufReg source).Performs (Idle source) :=
  ⟨trivial, fun _ => trivial⟩

theorem ensures_enablePort (dp : Word) :
    (intelDpEnablePort source dp).Ensures (rules source) (fun _ _ => True) board := by
  rw [intelDpEnablePort, ensures_bind]
  refine ensures_ddiSetLinkTrain _ (ensures_bind.mpr (ensures_control .buffer (by decide) ?_))
  exact ensures_idle_bind (idle_postingRead _) fun _ _ _ => trivial

/-- The clock of the port is that of the first PLL, and on. -/
theorem ensures_enableClock :
    (iclDdiEnableClock source).Ensures (rules source) (fun _ after =>
      source.controls after .clock &&& ddiClkSelMask source.phy = 0 ∧
        source.controls after .clock &&& ddiClkOff source.phy = 0) board := by
  have hMask : ddiClkOff source.phy &&& ddiClkSelMask source.phy = 0 := by
    have hPhy := source.hPhy
    cases hKind : source.phy <;> simp [hKind, Combo.Phy.index] at hPhy <;> decide
  have hKept : source.Kept (source.control .clock) := .inr (.inl rfl)
  rw [iclDdiEnableClock, ensures_bind]
  refine ensures_controlRmw .clock hKept (by decide) ?_
  refine ensures_controlRmw .clock hKept (by decide) ?_
  have hZero : ∀ mask : Word, 0 &&& mask = 0 := fun _ => BitVec.zero_and
  rw [controls_write, controls_write, Function.update_self, Function.update_self]
  constructor
  · rw [merge_and_of_disjoint hMask (hZero _)]
    exact merge_and_mask (hZero _)
  · exact merge_and_mask (hZero _)

/-- The transcoder has the clock of the port. -/
theorem ensures_transcoderClock (hSelected : source.controls board .clock &&& ddiClkSelMask source.phy = 0)
    (hOn : source.controls board .clock &&& ddiClkOff source.phy = 0) :
    (intelDdiEnableTranscoderClock source).Ensures (rules source)
      (fun _ after => Clocked source (source.controls after)) board := by
  rw [intelDdiEnableTranscoderClock]
  split
  · next hEdp => exact ⟨hSelected, hOn, fun hNot => (hNot hEdp).elim⟩
  · refine ensures_control .transcoderClock (by decide) ?_
    rw [controls_write]
    refine ⟨?_, ?_, fun _ => Function.update_self _ _ _⟩
    · rw [Function.update_of_ne (by decide)]
      exact hSelected
    · rw [Function.update_of_ne (by decide)]
      exact hOn

theorem ensures_configTranscoderFunc (hClocked : Clocked source (source.controls board)) :
    (intelDdiConfigTranscoderFunc source).Ensures (rules source) (fun _ after =>
      Clocked source (source.controls after) ∧
        source.controls after .function &&& transDdiFuncEnable = 0) board := by
  intro _ _
  refine ⟨writeInOrder_control .function fun _ hBit => (hBit and_not_and_self).elim, ?_, ?_⟩
  · show Clocked source (source.controls (board.write (source.control .function) _))
    rw [controls_write]
    exact hClocked.update .function (by decide) (by decide)
  · show source.controls (board.write (source.control .function) _) .function &&& _ = 0
    rw [controls_write, Function.update_self]
    exact and_not_and_self

theorem pwrDownLanes_within : pwrDownLanes source &&& pwrDownLn.mask = pwrDownLanes source := by
  rw [pwrDownLanes]
  split
  · split
    · exact Field.prep_within _ _
    · exact Field.prep_within _ _
  · exact Field.prep_within _ _

/-- The lanes in use get their power. -/
theorem ensures_powerUpLanes (hClocked : Clocked source (source.controls board))
    (hSilent : source.controls board .function &&& transDdiFuncEnable = 0) :
    (intelComboPhyPowerUpLanes source).Ensures (rules source)
      (fun _ after => Prepared source after) board := by
  have hReg : source.phy.Owns (iclPortClDw 10 source.phy) := owns_clDw (by decide)
  refine ensures_read_bind (kept_of_owns hReg) ?_
  intro _ _
  refine ⟨writeInOrder_phy hReg ?_, ?_, ?_, ?_⟩
  · rw [tx_write_clDw (by decide)]
    exact quiet_refl _
  · show Clocked source (source.controls (board.write _ _))
    rw [controls_write_phy hReg]
    exact hClocked
  · exact power_write_clDw10.trans (merge_and_mask pwrDownLanes_within)
  · show source.controls (board.write _ _) .function &&& _ = 0
    rw [controls_write_phy hReg]
    exact hSilent

/-- The source is prepared, from whatever its registers are. -/
theorem ensures_preEnableSource :
    (preEnableSource modeset).Ensures (rules modeset.toLinkSource)
      (fun _ after => Prepared modeset.toLinkSource after) board := by
  rw [preEnableSource]
  refine ensures_idle_bind idle_initDpBufReg fun dp _ _ => ?_
  refine ensures_bind.mpr ((ensures_enablePort dp).mono fun dp _ _ => ?_)
  refine ensures_idle_bind idle_intelPpsVddOn fun _ _ _ => ?_
  refine ensures_idle_bind (performs_onlyIf (idle_hwSetPanelPower 2)) fun _ _ _ => ?_
  refine ensures_idle_bind idle_intelPpsVddOff fun _ _ _ => ?_
  refine ensures_bind.mpr (ensures_enableClock.mono fun _ _ hClock => ?_)
  refine ensures_bind.mpr ((ensures_transcoderClock hClock.1 hClock.2).mono fun _ _ hClocked => ?_)
  refine ensures_bind.mpr ((ensures_configTranscoderFunc hClocked).mono fun _ _ hFunction => ?_)
  refine ensures_bind.mpr ((ensures_setSignalLevels noDrive).mono fun _ after hLevels => ?_)
  have hClocked' : Clocked modeset.toLinkSource (modeset.controls after) :=
    hLevels.controls_eq ▸ hFunction.1
  have hSilent : modeset.controls after .function &&& transDdiFuncEnable = 0 :=
    hLevels.controls_eq ▸ hFunction.2
  refine ensures_bind.mpr ((ensures_powerUpLanes hClocked' hSilent).mono fun _ _ hPrepared => ?_)
  exact ensures_idle_bind idle_msoConfigure fun _ _ hSame => hSame.prepared hPrepared

end Source

section Training

variable {source : LinkSource} {modeset : Modeset} {board : Board} {passed : Bool} {pattern : Word}

theorem idle_waitDdiBufActive : (intelWaitDdiBufActive source).Performs (Idle source) :=
  ⟨trivial, fun _ => trivial⟩

theorem retrainCtl_enable : retrainCtl source &&& dpTpCtlEnable = dpTpCtlEnable := by
  rw [retrainCtl]
  split
  · decide
  · split <;> decide

/-- The transport and the buffer are turned on. -/
theorem ensures_prepareLinkRetrain (dp : Word) (h : Prepared source board) :
    (intelDdiPrepareLinkRetrain source dp).Ensures (rules source)
      (fun _ after => Enabled source after) board := by
  rw [intelDdiPrepareLinkRetrain, ensures_bind]
  refine ensures_control .transport (by decide) ?_
  refine ensures_idle_bind (idle_postingRead _) fun _ one hOne => ?_
  rw [intelDdiBufEnable, ensures_bind]
  refine ensures_control .buffer (by decide) ?_
  have hEnabled : Enabled source (one.write (source.control .buffer) (dp ||| ddiBufCtlEnable)) := by
    have hControls : source.controls (one.write (source.control .buffer) (dp ||| ddiBufCtlEnable)) =
        Function.update (Function.update (source.controls board) .transport (retrainCtl source))
          .buffer (dp ||| ddiBufCtlEnable) := by
      rw [controls_write, hOne.controls_eq, controls_write]
    refine ⟨⟨?_, ?_, ?_, ?_⟩, ?_⟩
    · rw [hControls]
      exact (h.clocked.update .transport (by decide) (by decide)).update .buffer (by decide)
        (by decide)
    · rw [power_write_outside (outside_control .buffer), hOne.power_eq,
        power_write_outside (outside_control .transport)]
      exact h.power
    · rw [hControls, Function.update_of_ne (by decide), Function.update_self]
      exact retrainCtl_enable
    · rw [hControls, Function.update_self]
      exact or_and_self
    · rw [hControls, Function.update_of_ne (by decide), Function.update_of_ne (by decide)]
      exact h.silent
  refine ensures_idle_bind (idle_postingRead _) fun _ two hTwo => ?_
  apply (ensures_idle idle_waitDdiBufActive).mono
  intro _ three hThree
  exact hThree.enabled (hTwo.enabled hEnabled)

theorem ensures_prepareLinkTrain (dp : Word) (h : Prepared modeset.toLinkSource board) :
    (intelDpPrepareLinkTrain modeset dp).Ensures (rules modeset.toLinkSource)
      (fun _ after => Enabled modeset.toLinkSource after) board := by
  rw [intelDpPrepareLinkTrain]
  refine ensures_bind.mpr ((ensures_prepareLinkRetrain dp h).mono fun _ one hOne => ?_)
  refine ensures_idle_bind (performs_onlyIf ⟨trivial, fun _ => trivial⟩) fun _ two hTwo => ?_
  refine ensures_idle_bind idle_updateDownspreadCtrl fun _ three hThree => ?_
  apply (ensures_idle (idle_updateLinkBwSet _ _)).mono
  intro _ four hFour
  exact hFour.enabled (hThree.enabled (hTwo.enabled hOne))

/-- The training, and the idle pattern after it. -/
theorem ensures_linkTrainAllPhys (dpcd : Dpcd) (h : Enabled modeset.toLinkSource board) :
    (intelDpLinkTrainAllPhys modeset dpcd).Ensures (rules modeset.toLinkSource)
      (fun passed after => Trained modeset.toLinkSource passed linkTrainIdle after) board := by
  rw [intelDpLinkTrainAllPhys]
  refine ensures_bind.mpr ((ensures_linkTrainPhy h dpcd).mono fun passed one hOne => ?_)
  have hTrained : Trained modeset.toLinkSource passed (modeset.sent one) one := ⟨hOne.1, rfl, hOne.2⟩
  refine ensures_idle_bind (idle_writeAux (.inl (by decide))) fun _ two hTwo => ?_
  rw [ensures_bind, intelDdiSetIdleLinkTrain, ensures_bind]
  refine ensures_controlRmw .transport (.inl rfl) (by decide) ?_
  have hBits : linkTrainIdle &&& dpTpCtlLinkTrain.mask = linkTrainIdle := by decide
  have hIdle := (hTwo.trained hTrained).setPattern hBits
  split
  · exact hIdle
  · exact ensures_idle_bind ⟨trivial, fun _ => trivial⟩ fun _ three hThree => hThree.trained hIdle

theorem ensures_startLinkTrain (dp : Word) (h : Prepared modeset.toLinkSource board) :
    (intelDpStartLinkTrain modeset dp).Ensures (rules modeset.toLinkSource)
      (fun passed after => Trained modeset.toLinkSource passed linkTrainIdle after) board := by
  rw [intelDpStartLinkTrain]
  refine ensures_idle_bind idle_initLttprAndDprxCaps fun caps one hOne => ?_
  refine ensures_bind.mpr ((ensures_prepareLinkTrain dp (hOne.prepared h)).mono fun _ two hTwo => ?_)
  exact ensures_linkTrainAllPhys caps.2 hTwo

/-- The training ends with its last pattern. -/
theorem ensures_stopLinkTrain (h : Trained modeset.toLinkSource passed linkTrainIdle board) :
    (onlyIf (modeset.isTransPortSyncMode = false) (intelDpStopLinkTrain modeset)).Ensures
      (rules modeset.toLinkSource)
      (fun _ after => Trained modeset.toLinkSource passed modeset.lastPattern after) board := by
  rw [onlyIf, LinkSource.lastPattern]
  cases hSync : modeset.isTransPortSyncMode with
  | true => exact h
  | false => exact ensures_ddiSetLinkTrain 0 (h.setPattern (linkTrainBits_within 0))

/-- FEC is turned on, or off, and the rest is as before. -/
theorem ensures_fecRmw {clear set : Word} (h : Trained modeset.toLinkSource passed pattern board)
    (hBits : ∀ old : Word, ∃ bits, bits &&& dpTpCtlFecEnable = bits ∧
      merge clear old set = merge dpTpCtlFecEnable old bits) :
    (intelDeRmw modeset.dpTpCtlReg clear set).Ensures (rules modeset.toLinkSource)
      (fun _ after => Trained modeset.toLinkSource passed pattern after) board := by
  refine ensures_controlRmw .transport (.inl rfl) (by decide) ?_
  obtain ⟨bits, hWithin, hMerge⟩ := hBits (modeset.controls board .transport)
  rw [hMerge]
  exact h.setFec hWithin

theorem fecOn (old : Word) : ∃ bits, bits &&& dpTpCtlFecEnable = bits ∧
    merge 0 old dpTpCtlFecEnable = merge dpTpCtlFecEnable old bits :=
  ⟨dpTpCtlFecEnable, BitVec.and_self, merge_zero⟩

theorem fecOff (old : Word) : ∃ bits, bits &&& dpTpCtlFecEnable = bits ∧
    merge dpTpCtlFecEnable old 0 = merge dpTpCtlFecEnable old bits :=
  ⟨0, BitVec.zero_and, rfl⟩

theorem ensures_enableFec (h : Trained modeset.toLinkSource passed pattern board) :
    (intelDdiEnableFec modeset).Ensures (rules modeset.toLinkSource)
      (fun _ after => Trained modeset.toLinkSource passed pattern after) board := by
  rw [intelDdiEnableFec, onlyIf]
  split
  · refine ensures_bind.mpr ((ensures_fecRmw h fecOn).mono fun _ one hOne => ?_)
    rw [onlyIf]
    split
    · refine ensures_idle_bind (idle_waitForFecStatus true) fun ret two hTwo => ?_
      rw [onlyIf]
      split
      · rw [ensures_bind]
        refine ensures_loop (fun _ middle => Trained modeset.toLinkSource passed pattern middle)
          ?_ (fun _ _ hMiddle => hMiddle) 3 (hTwo.trained hOne)
        intro _ middle hMiddle
        refine ensures_bind.mpr ((ensures_fecRmw hMiddle fecOff).mono fun _ three hThree => ?_)
        refine ensures_idle_bind (idle_waitForFecStatus false) fun ret four hFour => ?_
        split
        · exact hFour.trained hThree
        · refine ensures_bind.mpr
            ((ensures_fecRmw (hFour.trained hThree) fecOn).mono fun _ five hFive => ?_)
          refine ensures_idle_bind (idle_waitForFecStatus true) fun ret six hSix => ?_
          split
          · exact hSix.trained hFive
          · exact hSix.trained hFive
      · exact hTwo.trained hOne
    · exact hOne
  · exact h

/-- All before the transcoder sends. -/
theorem ensures_preEnableDp :
    (tglDdiPreEnableDp modeset).Ensures (rules modeset.toLinkSource) (fun ret after =>
      ∃ passed, Trained modeset.toLinkSource passed modeset.lastPattern after ∧
        (modeset.isMst = true ∨ modeset.isUhbr = false → ret = passed)) board := by
  rw [tglDdiPreEnableDp]
  refine ensures_bind.mpr (ensures_preEnableSource.mono fun dp one hOne => ?_)
  refine ensures_idle_bind idle_preEnableSink fun _ two hTwo => ?_
  refine ensures_bind.mpr
    ((ensures_startLinkTrain dp (hTwo.prepared hOne)).mono fun passed three hThree => ?_)
  refine ensures_bind.mpr ((ensures_stopLinkTrain hThree).mono fun _ four hFour => ?_)
  refine ensures_bind.mpr ((ensures_enableFec hFour).mono fun _ five hFive => ?_)
  split
  · next hPayload =>
    refine ensures_idle_bind (idle_writePayload _ _ _) fun ret six hSix => ?_
    refine ⟨passed, hSix.trained hFive, fun hKind => ?_⟩
    rcases hKind with hMst | hUhbr
    · exact absurd (hMst.symm.trans hPayload.1) (by decide)
    · exact absurd (hPayload.2.symm.trans hUhbr) (by decide)
  · exact ⟨passed, hFive, fun _ => rfl⟩

end Training

section Enable

variable {modeset : Modeset} {board : Board} {passed : Bool}

/-- The transcoder sends. -/
structure Sending (modeset : Modeset) (passed : Bool) (board : Board) : Prop where
  running : Running modeset.toLinkSource board
  sent : modeset.sent board = modeset.lastPattern
  function : modeset.controls board .function = modeset.funcCtl
  passes : passed = true → Confirmed modeset.toLinkSource board ∧
    ∃ trainSet, Settled modeset.toLinkSource trainSet board

theorem Same.sending {after : Board} (h : Same modeset.toLinkSource board after)
    (hSending : Sending modeset passed board) : Sending modeset passed after where
  running := hSending.running.congr h.controls_eq h.power_eq
  sent := h.sent_eq.trans hSending.sent
  function := h.controls_eq ▸ hSending.function
  passes := fun hPassed => passes_congr h.tx_eq h.status_eq h.lanes_eq (hSending.passes hPassed)

theorem ensures_enableTranscoderFunc
    (h : Trained modeset.toLinkSource passed modeset.lastPattern board) :
    (intelDdiEnableTranscoderFunc modeset).Ensures (rules modeset.toLinkSource)
      (fun _ after => Sending modeset passed after) board := by
  rw [intelDdiEnableTranscoderFunc]
  refine ensures_idle_bind (performs_onlyIf idle_funcCtl2) fun _ one hOne => ?_
  have hTrained := hOne.trained h
  intro _ _
  have hWrite : modeset.controls (one.write (modeset.control .function) modeset.funcCtl) =
      Function.update (modeset.controls one) .function modeset.funcCtl := controls_write .function
  refine ⟨writeInOrder_control .function fun _ _ => ⟨hTrained.enabled.toRunning, hTrained.sent⟩,
    ⟨?_, ?_, ?_, ?_⟩, ?_, ?_, ?_⟩
  · exact hWrite ▸ hTrained.enabled.clocked.update .function (by decide) (by decide)
  · exact (power_write_outside (outside_control .function)).trans hTrained.enabled.power
  · exact hWrite ▸ hTrained.enabled.transport
  · exact hWrite ▸ hTrained.enabled.buffer
  · show modeset.controls (one.write (modeset.control .function) _) .transport &&& _ = _
    rw [hWrite]
    exact hTrained.sent
  · exact hWrite ▸ Function.update_self _ _ _
  · exact fun hPassed => passes_write .function (hTrained.passes hPassed)

theorem elsewhere_transConf : Elsewhere modeset.toLinkSource modeset.transConfReg :=
  elsewhere_high lt_transConf (Nat.lt_trans transConf_lt (by decide))

theorem idle_intelDeRead (reg : Nat) : (intelDeRead reg).Performs (Idle modeset.toLinkSource) :=
  ⟨trivial, fun _ => trivial⟩

/-- The pipe is enabled after the function of its transcoder. -/
theorem ensures_enableTranscoder (h : Sending modeset passed board) :
    (intelEnableTranscoder modeset).Ensures (rules modeset.toLinkSource)
      (fun _ after => Sending modeset passed after) board := by
  rw [intelEnableTranscoder]
  refine ensures_idle_bind (idle_intelDeRead _) fun rx one hOne => ?_
  split
  · rw [ensures_bind, enableTranscoderPipe]
    refine ensures_idle_bind (performs_onlyIf idle_pipeArbCtl) fun _ two hTwo => ?_
    refine ensures_idle_bind (idle_intelDeRead _) fun val three hThree => ?_
    have hSending := hThree.sending (hTwo.sending (hOne.sending h))
    rw [onlyIf]
    split
    · rw [ensures_bind]
      intro _ _
      refine ⟨⟨?_, ?_, fun _ _ => hSending.function⟩, ?_⟩
      · rw [tx_write_outside outside_transConf]
        exact quiet_refl _
      · intro hReg
        exact (transConf_ne_control .function hReg).elim
      apply (ensures_idle (idle_postingRead _)).mono
      intro _ four hFour
      exact hFour.sending ((same_write elsewhere_transConf).sending hSending)
    · exact hSending
  · exact hOne.sending h

/-- All of a bring-up. -/
theorem ensures_linkTraining :
    (linkTraining modeset).Ensures (rules modeset.toLinkSource)
      (fun result after => BroughtUp modeset result after) board := by
  rw [linkTraining]
  refine ensures_bind.mpr (ensures_preEnableDp.mono fun ret one hOne => ?_)
  obtain ⟨passed, hTrained, hRet⟩ := hOne
  refine ensures_idle_bind (performs_onlyIf idle_setDpMsa) fun _ two hTwo => ?_
  refine ensures_bind.mpr
    ((ensures_enableTranscoderFunc (hTwo.trained hTrained)).mono fun _ three hThree => ?_)
  refine ensures_bind.mpr ((ensures_enableTranscoder hThree).mono fun enabled four hFour => ?_)
  refine ⟨hFour.running, hFour.sent, hFour.function, fun hZero hKind => hFour.passes ?_⟩
  rw [← hRet hKind]
  cases enabled with
  | none => cases hZero
  | some _ =>
      cases ret with
      | true => rfl
      | false =>
          have hFailed : (-1 : Int) = 0 := Option.some.inj hZero
          exact absurd hFailed (by decide)

end Enable

/-- In every run of a bring-up the sink is asked about its training only while both sides are
in step, the transcoder and the pipe are enabled in their order, and what is reported is what
the sink has confirmed. -/
theorem linkTraining_inOrder (modeset : Modeset) (board : Board) {transcript : Transcript LinkAnswer}
    {result : Option Int} (plays : Plays (linkTraining modeset) transcript result)
    (hReads : Along Board.next (KeptReads modeset.toLinkSource) board transcript) :
    Along Board.next (InOrder modeset.toLinkSource) board transcript ∧
      BroughtUp modeset result (transcript.foldl Board.next board) :=
  ensures_linkTraining.plays plays hReads

/-- A laptop with such a panel, whose registers are all clear but for the PLL of the FDI
receiver, and are memory. -/
def laptop : Modeset where
  toLinkSource := panelSource
  hasDdi := true
  internalConnector := true
  ppsIdx := 0
  panelPowerUpDelay := 200
  wantPanelVdd := false
  vbtBpp := 24
  downstreamPort := 0
  ouiValid := false
  sinkFormat := .rgb
  outputFormat := .rgb
  limitedColorRange := false
  splitter := ⟨false, 0, 0⟩
  fecEnable := false
  dscCompressionEnable := false
  tu := 64

def darkBoard : Board where
  file := ⟨fun reg => if reg = 0xF000C then 1 <<< 13 else 0, []⟩
  dpcd := fun _ => 0
  status := none

def memory : Opponent LinkAnswer
  | past, .mmio (.read reg) => (past.foldl Board.next darkBoard).regs reg
  | past, op => readySink past op

theorem honest_memory : Honest Board.next (KeptReads laptop.toLinkSource) darkBoard memory := by
  intro past op
  cases op with
  | mmio op =>
      cases op with
      | read reg => exact fun _ => rfl
      | write reg value => exact trivial
  | aux op => exact trivial
  | readAux register count => exact trivial
  | fsleep usecs => exact trivial
  | ioSleep msecs => exact trivial
  | intelDeWaitMs reg mask value timeoutMs => exact trivial
  | hwSetPanelPower state => exact trivial

theorem linkTraining_inOrder_laptop : ∃ transcript result,
    Plays (linkTraining laptop) transcript result ∧
      Along Board.next (InOrder laptop.toLinkSource) darkBoard transcript ∧
        BroughtUp laptop result (transcript.foldl Board.next darkBoard) := by
  obtain ⟨transcript, result, plays, hReads⟩ := honest_memory.exists_run (linkTraining laptop)
  obtain ⟨hOrder, hUp⟩ := linkTraining_inOrder laptop darkBoard plays hReads
  exact ⟨transcript, result, plays, hOrder, hUp⟩

end NootedBlue.Bringup
