import NootedBlue.Bringup.Levels

/-! Training keeps the two sides of a link in step: whenever the status of the sink is
read, the source sends the pattern that the sink waits for, on lanes that it drives as
the sink has been told. -/
namespace NootedBlue.Bringup

open Interaction Bits Link
open Ddi (HasBit)

section Told

variable {source : LinkSource} {board : Board}

theorem active_length (lanes : LaneCount) (trainSet : TrainSet) :
    (lanes.active trainSet).length = lanes.toNat := by
  cases lanes <;> rfl

theorem active_getD (lanes : LaneCount) (trainSet : TrainSet) {ln : Fin 4} (h : (ln : Nat) < lanes.toNat) :
    (lanes.active trainSet).getD ln 0 = trainSet ln := by
  cases lanes <;> rcases lane_cases ln with rfl | rfl | rfl | rfl <;>
    first | rfl | exact absurd h (by decide)

theorem storeBytes_of_lt {register a : Nat} (bytes : List Nat) (dpcd : Nat → Nat)
    (h : a < register) : storeBytes register bytes dpcd a = dpcd a := by
  rw [storeBytes, if_neg (by omega)]

theorem storeBytes_of_lt_length {register k : Nat} {bytes : List Nat} {dpcd : Nat → Nat}
    (h : k < bytes.length) : storeBytes register bytes dpcd (register + k) = bytes.getD k 0 := by
  rw [storeBytes, if_pos (by omega), Nat.add_sub_cancel_left]

theorem storeBytes_beyond {register a : Nat} {bytes : List Nat} (dpcd : Nat → Nat)
    (h : register + bytes.length ≤ a) : storeBytes register bytes dpcd a = dpcd a := by
  rw [storeBytes, if_neg (by omega)]

/-- The sink has been told of a pattern and of drive settings at once. -/
theorem told_pattern (pattern : Nat) (trainSet : TrainSet) :
    (board.told dpTrainingPatternSet (pattern :: source.lanes.active trainSet)).dpcd
        dpTrainingPatternSet = pattern ∧
      ∀ ln : Fin 4, (ln : Nat) < source.lanes.toNat →
        (board.told dpTrainingPatternSet (pattern :: source.lanes.active trainSet)).dpcd
          (dpTrainingLane0Set + ln) = trainSet ln := by
  constructor
  · exact storeBytes_of_lt_length (k := 0) (Nat.succ_pos _)
  · intro ln hLn
    have hIndex : dpTrainingLane0Set + (ln : Nat) = dpTrainingPatternSet + (ln + 1) := by
      simp only [dpTrainingLane0Set, dpTrainingPatternSet]
      omega
    rw [hIndex]
    refine (storeBytes_of_lt_length (k := ln + 1) ?_).trans ?_
    · rw [List.length_cons, active_length]
      omega
    · rw [List.getD_cons_succ]
      exact active_getD _ _ hLn

/-- The sink has been told of drive settings alone. -/
theorem told_lanes (trainSet : TrainSet) :
    (board.told dpTrainingLane0Set (source.lanes.active trainSet)).dpcd dpTrainingPatternSet =
        board.dpcd dpTrainingPatternSet ∧
      ∀ ln : Fin 4, (ln : Nat) < source.lanes.toNat →
        (board.told dpTrainingLane0Set (source.lanes.active trainSet)).dpcd (dpTrainingLane0Set + ln) =
          trainSet ln := by
  constructor
  · have hLt : dpTrainingPatternSet < dpTrainingLane0Set := by decide
    exact storeBytes_of_lt (source.lanes.active trainSet) board.dpcd hLt
  · intro ln hLn
    refine (storeBytes_of_lt_length (k := ln) ?_).trans (active_getD _ _ hLn)
    rw [active_length]
    exact hLn

end Told

section Transport

variable {source : LinkSource} {board : Board}

theorem linkTrainBits_within (pattern : Nat) :
    linkTrainBits pattern &&& dpTpCtlLinkTrain.mask = linkTrainBits pattern := by
  rw [linkTrainBits]
  repeat' split
  all_goals decide

theorem Clocked.update {controls : Control → Word} (h : Clocked source controls) (control : Control)
    {value : Word} (hClock : control ≠ .clock) (hTranscoder : control ≠ .transcoderClock) :
    Clocked source (Function.update controls control value) where
  selected := by
    rw [Function.update_of_ne hClock.symm]
    exact h.selected
  on := by
    rw [Function.update_of_ne hClock.symm]
    exact h.on
  transcoder := by
    rw [Function.update_of_ne hTranscoder.symm]
    exact h.transcoder

/-- The controls and the power decide about what is enabled. -/
theorem Running.congr {after : Board} (h : Running source board)
    (hControls : source.controls after = source.controls board)
    (hPower : source.power after = source.power board) : Running source after where
  clocked := hControls ▸ h.clocked
  power := hPower.trans h.power
  transport := hControls ▸ h.transport
  buffer := hControls ▸ h.buffer

theorem Enabled.congr {after : Board} (h : Enabled source board)
    (hControls : source.controls after = source.controls board)
    (hPower : source.power after = source.power board) : Enabled source after where
  toRunning := h.toRunning.congr hControls hPower
  silent := hControls ▸ h.silent

theorem transConf_ne_control (control : Control) : source.transConfReg ≠ source.control control := by
  have hPort := source.hPort
  have hOffset := transOffset_lt source.transcoder
  have hIndex : source.transcoder.index ≤ 6 := by cases source.transcoder <;> decide
  cases control <;>
    simp only [LinkSource.control, LinkSource.dpTpCtlReg, LinkSource.ddiBufCtl, iclDpclkaCfgcr0,
      LinkSource.transClkSelReg, LinkSource.funcCtlReg, LinkSource.transConfReg] <;>
    omega

/-- A write to one of the controls. -/
theorem writeInOrder_control (control : Control) {value : Word}
    (hFunction : control = .function → HasBit value transDdiFuncEnable →
      Running source board ∧ source.sent board = source.lastPattern) :
    WriteInOrder source board (source.control control) value where
  swing := by
    rw [tx_write_outside (outside_control control)]
    exact quiet_refl _
  function := fun h => hFunction (control_injective h)
  pipe := fun h => (transConf_ne_control control h.symm).elim

theorem ensures_control (control : Control) {value : Word} {post : Unit → Board → Prop}
    (hOther : control ≠ .function) (h : post () (board.write (source.control control) value)) :
    (intelDeWrite (source.control control) value).Ensures (rules source) post board :=
  fun _ _ => ⟨writeInOrder_control control fun hEq => (hOther hEq).elim, h⟩

/-- Bits beside the enable bit of the control of the transport are set. -/
theorem Enabled.setBits {mask bits : Word} (h : Enabled source board)
    (hMask : mask &&& dpTpCtlEnable = 0) (hBits : bits &&& mask = bits) :
    Enabled source (board.write (source.control .transport)
      (merge mask (board.regs source.dpTpCtlReg) bits)) where
  clocked := by
    rw [controls_write]
    exact h.clocked.update .transport (by decide) (by decide)
  power := (power_write_outside (outside_control .transport)).trans h.power
  transport := by
    rw [controls_write, Function.update_self, merge_and_of_disjoint hMask (and_of_within hBits hMask)]
    exact h.transport
  buffer := by
    rw [controls_write, Function.update_of_ne (by decide)]
    exact h.buffer
  silent := by
    rw [controls_write, Function.update_of_ne (by decide)]
    exact h.silent

/-- The field of the pattern is set. -/
theorem Enabled.setField {bits : Word} (h : Enabled source board)
    (hBits : bits &&& dpTpCtlLinkTrain.mask = bits) :
    Enabled source (board.write (source.control .transport)
      (merge dpTpCtlLinkTrain.mask (board.regs source.dpTpCtlReg) bits)) :=
  h.setBits (by decide) hBits

theorem sent_setField {bits : Word} (hBits : bits &&& dpTpCtlLinkTrain.mask = bits) (old : Word) :
    source.sent (board.write (source.control .transport) (merge dpTpCtlLinkTrain.mask old bits)) =
      bits := by
  rw [LinkSource.sent, controls_write, Function.update_self]
  exact merge_and_mask hBits

/-- The transport sends another pattern. -/
theorem ensures_ddiSetLinkTrain (pattern : Nat) {post : Unit → Board → Prop}
    (h : post () (board.write (source.control .transport) (merge dpTpCtlLinkTrain.mask
      (board.regs source.dpTpCtlReg) (linkTrainBits pattern)))) :
    (intelDdiSetLinkTrain source pattern).Ensures (rules source) post board :=
  ensures_read_bind (.inl rfl) (ensures_control .transport (by decide) h)

theorem tx_write_control (control : Control) (value : Word) :
    source.tx (board.write (source.control control) value) = source.tx board :=
  tx_write_outside (outside_control control)

/-- A write over the AUX channel, which may fail. -/
theorem ensures_writeAux {register : Nat} {bytes : List Nat} {post : Int → Board → Prop}
    (hDone : ∀ ret, (0 : Int) ≤ ret → post ret (board.told register bytes))
    (hFailed : ∀ ret, ret < (0 : Int) → post ret board) :
    (writeAux register bytes).Ensures (rules source) post board := by
  intro ret _
  refine ⟨trivial, ?_⟩
  show post ret (if (0 : Int) ≤ ret then board.told register bytes else board)
  split
  · next hRet => exact hDone ret hRet
  · next hRet => exact hFailed ret (Int.not_le.mp hRet)

theorem PhyStep.enabled {after : Board} {tx : Fin 32 → Fin 4 → Word}
    (h : PhyStep source board tx after) (hEnabled : Enabled source board) : Enabled source after :=
  hEnabled.congr h.controls_eq h.power_eq

theorem Enabled.told (h : Enabled source board) (register : Nat) (bytes : List Nat) :
    Enabled source (board.told register bytes) := h.congr rfl rfl

end Transport

section Training

variable {source : LinkSource} {board : Board} {pattern : Nat} {trainSet : TrainSet}

/-- `intel_dp_set_link_train`, when the lanes are driven as the sink will be told. -/
theorem ensures_setLinkTrain (hEnabled : Enabled source board)
    (hDriven : Driven source trainSet (source.tx board)) :
    (intelDpSetLinkTrain source pattern trainSet).Ensures (rules source)
      (fun written after => Enabled source after ∧
        (written = true → InStep source pattern trainSet after)) board := by
  rw [intelDpSetLinkTrain, ensures_bind]
  refine ensures_ddiSetLinkTrain pattern ?_
  have hOn := hEnabled.setField (linkTrainBits_within pattern)
  rw [ensures_bind]
  apply ensures_writeAux
  · intro ret _
    refine ⟨hOn.told _ _, fun _ => ⟨hOn.told _ _, ⟨?_, (told_pattern pattern trainSet).2⟩,
      (told_pattern pattern trainSet).1, sent_setField (linkTrainBits_within pattern) _⟩⟩
    exact (tx_write_control .transport _).symm ▸ hDriven
  · intro ret hRet
    refine ⟨hOn, fun hWritten => ?_⟩
    have hNot : ¬ (0 : Int) ≤ ret := Int.not_le.mpr hRet
    simp [hNot] at hWritten

/-- `intel_dp_reset_link_train`. -/
theorem ensures_resetLinkTrain (hEnabled : Enabled source board) :
    (intelDpResetLinkTrain source pattern).Ensures (rules source)
      (fun written after => Enabled source after ∧
        (written = true → InStep source pattern noDrive after)) board := by
  rw [intelDpResetLinkTrain, ensures_bind]
  apply (ensures_setSignalLevels noDrive).mono
  intro _ after hStep
  exact ensures_setLinkTrain (hStep.enabled hEnabled) (hStep.tx_eq ▸ driven_drivenTx)

/-- `intel_dp_update_link_train`. -/
theorem ensures_updateLinkTrain (hStep : InStep source pattern trainSet board)
    (adjusted : TrainSet) :
    (intelDpUpdateLinkTrain source adjusted).Ensures (rules source)
      (fun written after => Enabled source after ∧
        (written = true → InStep source pattern adjusted after)) board := by
  rw [intelDpUpdateLinkTrain, ensures_bind]
  apply (ensures_setSignalLevels adjusted).mono
  intro _ after hLevels
  have hOn := hLevels.enabled hStep.enabled
  rw [ensures_bind]
  apply ensures_writeAux
  · intro ret _
    refine ⟨hOn.told _ _, fun _ => ⟨hOn.told _ _, ⟨?_, (told_lanes adjusted).2⟩, ?_, ?_⟩⟩
    · show Driven source adjusted (source.tx after)
      exact hLevels.tx_eq ▸ driven_drivenTx
    · rw [(told_lanes adjusted).1, hLevels.dpcd_eq]
      exact hStep.told
    · show source.controls after .transport &&& _ = _
      rw [hLevels.controls_eq]
      exact hStep.sent
  · intro ret hRet
    refine ⟨hOn, fun hWritten => ?_⟩
    have hNot : ¬ (0 : Int) ≤ ret := Int.not_le.mpr hRet
    simp [hNot] at hWritten

/-- What training leaves: settings with which both sides are in step, or none. -/
def Leaves (source : LinkSource) (pattern : Nat) (result : Option TrainSet)
    (board : Board) : Prop :=
  Enabled source board ∧ ∀ trainSet, result = some trainSet → InStep source pattern trainSet board

theorem leaves_none (h : Enabled source board) : Leaves source pattern none board :=
  ⟨h, fun _ hSome => by cases hSome⟩

theorem InStep.leaves (h : InStep source pattern trainSet board) :
    Leaves source pattern (some trainSet) board :=
  ⟨h.enabled, fun _ hSome => by cases hSome; exact h⟩

/-- What clock recovery does with a status. -/
theorem ensures_recoverFrom (dpcd : Dpcd) {s : Recovery}
    (hStep : InStep source pattern s.trainSet board) (ret : Int) (status : LinkStatus) :
    (recoverFrom source dpcd s ret status).Ensures (rules source) (fun iteration after =>
      match iteration with
      | .next t => InStep source pattern t.trainSet after
      | .stop result => Leaves source pattern result after) board := by
  rw [recoverFrom]
  split
  · exact leaves_none hStep.enabled
  · split
    · exact hStep.leaves
    · split
      · exact leaves_none hStep.enabled
      · split
        · exact leaves_none hStep.enabled
        · rw [ensures_bind]
          apply (ensures_updateLinkTrain hStep _).mono
          intro written after hAfter
          cases written with
          | true => exact hAfter.2 rfl
          | false => exact leaves_none hAfter.1

/-- Only the status changes when it is read. -/
theorem InStep.heard (h : InStep source pattern trainSet board) (answer : Int × LinkStatus) :
    InStep source pattern trainSet (board.heard answer) := by
  rw [Board.heard]
  split
  · exact ⟨h.enabled.congr rfl rfl, ⟨h.settled.driven, h.settled.told⟩, h.told, h.sent⟩
  · exact h

theorem status_heard {answer : Int × LinkStatus} (h : 0 ≤ answer.1) :
    (board.heard answer).status = some answer.2 := by
  rw [Board.heard, if_pos h]

/-- A status is read while both sides are in step. -/
theorem ensures_status {α : Type} {delayUs : Nat} {f : Int × LinkStatus → LinkProgram α}
    {post : α → Board → Prop} (hPattern : pattern ∈ trainingPatterns)
    (hStep : InStep source pattern trainSet board)
    (h : ∀ answer, (f answer).Ensures (rules source) post (board.heard answer)) :
    (Program.perform (LinkOp.fsleep delayUs) >>= fun _ =>
      Program.perform (LinkOp.aux .readStatus) >>= f).Ensures (rules source) post board :=
  fun _ _ => ⟨trivial, fun answer _ => ⟨⟨pattern, hPattern, trainSet, hStep⟩, h answer⟩⟩

/-- `intel_dp_link_training_clock_recovery`. -/
theorem ensures_clockRecovery (hEnabled : Enabled source board) (dpcd : Dpcd) :
    (clockRecovery source dpcd).Ensures (rules source)
      (Leaves source (dpTrainingPattern1 ||| dpLinkScramblingDisable)) board := by
  rw [clockRecovery, ensures_bind]
  apply (ensures_resetLinkTrain hEnabled).mono
  intro written after hAfter
  cases written with
  | false => exact leaves_none hAfter.1
  | true =>
      rw [if_pos rfl, recover, ensures_bind]
      refine ensures_loop (fun s middle =>
        InStep source (dpTrainingPattern1 ||| dpLinkScramblingDisable) s.trainSet middle)
        ?_ ?_ _ (hAfter.2 rfl)
      · intro s middle hStep
        refine ensures_status (by decide) hStep fun answer => ?_
        apply (ensures_recoverFrom dpcd (hStep.heard answer) _ _).mono
        intro iteration after hAfter
        cases iteration with
        | next t => exact hAfter
        | stop result => exact hAfter
      · intro s middle hStep
        exact leaves_none hStep.enabled

/-- The last status of the sink says that all lanes in use are trained. -/
def Confirmed (source : LinkSource) (board : Board) : Prop :=
  ∃ status, board.status = some status ∧
    drmDpClockRecoveryOk status source.lanes.toNat = true ∧
      drmDpChannelEqOk status source.lanes.toNat = true

/-- What training comes to: a link that passes is driven as the sink has been told, and the
sink has confirmed it. -/
def Passes (source : LinkSource) (passed : Bool) (board : Board) : Prop :=
  Enabled source board ∧
    (passed = true → Confirmed source board ∧ ∃ trainSet, Settled source trainSet board)

theorem passes_false (h : Enabled source board) : Passes source false board :=
  ⟨h, fun hFalse => by cases hFalse⟩

theorem ensures_equaliseFrom (dpcd : Dpcd) (hStep : InStep source pattern trainSet board) {ret : Int}
    {status : LinkStatus} (hStatus : 0 ≤ ret → board.status = some status) :
    (equaliseFrom source dpcd trainSet ret status).Ensures (rules source) (fun iteration after =>
      match iteration with
      | .next adjusted => InStep source pattern adjusted after
      | .stop passed => Passes source passed after) board := by
  rw [equaliseFrom]
  split
  · exact passes_false hStep.enabled
  · next hRet =>
    split
    · exact passes_false hStep.enabled
    · next hRecovered =>
      split
      · next hEqualised =>
        have hClock : drmDpClockRecoveryOk status (source.link dpcd).lanes.toNat = true := by
          simpa using hRecovered
        exact ⟨hStep.enabled, fun _ =>
          ⟨⟨status, hStatus (Int.not_lt.mp hRet), hClock, hEqualised⟩, trainSet, hStep.settled⟩⟩
      · rw [ensures_bind]
        apply (ensures_updateLinkTrain hStep _).mono
        intro written after hAfter
        cases written with
        | true => exact hAfter.2 rfl
        | false => exact passes_false hAfter.1

theorem eqPattern_mem (link : DpLink) : eqPattern link ∈ trainingPatterns := by
  rw [eqPattern, intelDpTrainingPattern]
  repeat' split
  all_goals first | decide | (rename_i h; exact absurd (by decide) h)

/-- `intel_dp_link_training_channel_equalization`, after clock recovery. -/
theorem ensures_equaliseAfter (dpcd : Dpcd) {recovered : Option TrainSet}
    (h : Leaves source pattern recovered board) :
    (equaliseAfter source dpcd recovered).Ensures (rules source)
      (Passes source) board := by
  cases recovered with
  | none => exact passes_false h.1
  | some trainSet =>
      have hStep := h.2 trainSet rfl
      rw [equaliseAfter, channelEqualization, ensures_bind]
      apply (ensures_setLinkTrain h.1 hStep.settled.driven).mono
      intro written after hAfter
      cases written with
      | false => exact passes_false hAfter.1
      | true =>
          rw [if_pos rfl, equalise, ensures_bind]
          refine ensures_loop (fun adjusted middle =>
            InStep source (eqPattern (source.link dpcd)) adjusted middle) ?_ ?_ _ (hAfter.2 rfl)
          · intro adjusted middle hMiddle
            refine ensures_status (eqPattern_mem _) hMiddle fun answer => ?_
            apply (ensures_equaliseFrom dpcd (hMiddle.heard answer) status_heard).mono
            intro iteration after hAfter
            cases iteration with
            | next t => exact hAfter
            | stop result => exact hAfter
          · intro adjusted middle hMiddle
            exact passes_false hMiddle.enabled

/-- `intel_dp_link_train_phy`. -/
theorem ensures_linkTrainPhy (hEnabled : Enabled source board) (dpcd : Dpcd) :
    (intelDpLinkTrainPhy source dpcd).Ensures (rules source) (Passes source) board := by
  rw [intelDpLinkTrainPhy, ensures_bind]
  apply (ensures_clockRecovery hEnabled dpcd).mono
  intro recovered after hAfter
  exact ensures_equaliseAfter dpcd hAfter

end Training

end NootedBlue.Bringup
