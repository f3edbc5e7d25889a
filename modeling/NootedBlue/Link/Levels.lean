import NootedBlue.Link.Contract

/-! The drive settings through a whole training run. They are kept in memory
for all four lanes, while the sink is told about the lanes in use only, so the
transcript of a run is read together with the settings that each of its
transfers finds in memory. -/
namespace NootedBlue.Link

open Interaction

/-- `translate_signal_level`. -/
def translateSignalLevel (signalLevels : Nat) : Nat :=
  (indexToDpSignalLevels.findIdx? (· = signalLevels)).getD 0

/-- `DP_TX_FFE_PRESET_VALUE_MASK`. -/
def dpTxFfePresetValueMask : Nat := 0xF

/-- `intel_ddi_dp_level`. -/
def intelDdiDpLevel (link : DpLink) (trainSet : TrainSet) (lane : Fin 4) : Nat :=
  if link.isUhbr then trainSet lane &&& dpTxFfePresetValueMask
  else translateSignalLevel
    (trainSet lane &&& (dpTrainVoltageSwingMask ||| dpTrainPreEmphasisMask))

/-- `intel_ddi_level`. -/
def intelDdiLevel (link : DpLink) (trainSet : TrainSet) (lane : Fin 4) : Nat :=
  let level := intelDdiDpLevel link trainSet lane
  if level ≥ link.tglGetComboBufTrans.numEntries then link.tglGetComboBufTrans.numEntries - 1
  else level

/-- The indices into `trans->entries` that `icl_ddi_combo_vswing_program` uses,
in order: it goes over the four lanes for each of three registers. -/
def iclDdiComboVswingProgram (link : DpLink) (trainSet : TrainSet) : List Nat :=
  (List.range 3).flatMap fun _ => (List.finRange 4).map (intelDdiLevel link trainSet)

/-- The highest swing of a table. -/
def BufTrans.maxSwing (table : BufTrans) : Nat :=
  ((indexToDpSignalLevels.take table.numEntries).map swing).foldl max 0

/-- What the source may be driven with. -/
structure Legal (link : DpLink) (trainSet : TrainSet) : Prop where
  total : ∀ lane, swing (trainSet lane) + preEmphasis (trainSet lane) ≤ 3
  swing_le : ∀ lane, swing (trainSet lane) ≤ link.tglGetComboBufTrans.maxSwing
  maxSwingReached : ∀ lane, (trainSet lane).testBit 2 = true ↔
    swing (trainSet lane) = link.tglGetComboBufTrans.maxSwing
  maxPreEmphasisReached : ∀ lane, (trainSet lane).testBit 5 = true ↔
    preEmphasis (trainSet lane) = 3
  unused : ∀ lane : Fin 4, link.lanes.toNat ≤ lane → trainSet lane = trainSet link.lanes.last
  level : ∀ index ∈ iclDdiComboVswingProgram link trainSet,
    index < link.tglGetComboBufTrans.numEntries

section Settings

variable {link : DpLink}

/-- The drive setting for a requested swing and pre-emphasis, on a table with a
highest swing. -/
def setting (v p maximum : Nat) : Nat :=
  let p := if p <<< 3 ≥ preemphMax then preemphMax ||| dpTrainMaxPreEmphasisReached else p <<< 3
  let v := min v (dpVoltageMax p)
  let v := if v ≥ maximum then maximum ||| dpTrainMaxSwingReached else v
  v ||| p

theorem BufTrans.maxSwing_eq (table : BufTrans) :
    table.maxSwing = indexToDpSignalLevels.getD (table.numEntries - 1) 0 &&& 3 := by
  cases table <;> decide

theorem BufTrans.maxSwing_mem (table : BufTrans) : table.maxSwing ∈ [1, 2, 3] := by
  cases table <;> decide

theorem BufTrans.numEntries_pos (table : BufTrans) : 0 < table.numEntries := by
  cases table <;> decide

/-- A lane is driven by what it asks for alone. -/
theorem adjustVswingPreemph_eq (status : LinkStatus) (lane : Nat) :
    intelDpGetLaneAdjustVswingPreemph link status lane =
      setting (request status (min lane (link.lanes.toNat - 1)) % 4)
        (request status (min lane (link.lanes.toNat - 1)) / 4)
        link.tglGetComboBufTrans.maxSwing := by
  simp only [intelDpGetLaneAdjustVswingPreemph, adjustRequestVoltage_eq,
    adjustRequestPreEmphasis_eq, setting, DpLink.intelDdiDpVoltageMax, BufTrans.maxSwing_eq]

/-- Both clamps and both flags, for everything that can be asked of every table. -/
theorem setting_spec : ∀ v < 4, ∀ p < 4, ∀ maximum ∈ [1, 2, 3],
    swing (setting v p maximum) + preEmphasis (setting v p maximum) ≤ 3 ∧
      swing (setting v p maximum) ≤ maximum ∧
      ((setting v p maximum).testBit 2 = true ↔ swing (setting v p maximum) = maximum) ∧
      ((setting v p maximum).testBit 5 = true ↔ preEmphasis (setting v p maximum) = 3) := by
  decide

/-- The index is cut to the table, whatever the settings are. -/
theorem vswingProgram_lt (trainSet : TrainSet) :
    ∀ index ∈ iclDdiComboVswingProgram link trainSet,
      index < link.tglGetComboBufTrans.numEntries := by
  intro index hIndex
  simp only [iclDdiComboVswingProgram, List.mem_flatMap, List.mem_map] at hIndex
  obtain ⟨_, _, lane, _, rfl⟩ := hIndex
  have hPos := BufTrans.numEntries_pos link.tglGetComboBufTrans
  simp only [intelDdiLevel]
  split <;> omega

/-- Before the first request nothing is driven. -/
theorem legal_noDrive : Legal link noDrive := by
  have hMaximum := BufTrans.maxSwing_mem link.tglGetComboBufTrans
  simp only [List.mem_cons, List.not_mem_nil, or_false] at hMaximum
  have hSwing : swing 0 = 0 := rfl
  have hPreEmphasis : preEmphasis 0 = 0 := rfl
  exact {
    total := by simp [noDrive, hSwing, hPreEmphasis]
    swing_le := by simp [noDrive, hSwing]
    maxSwingReached := by
      intro lane
      simp only [noDrive, hSwing, Nat.zero_testBit, Bool.false_eq_true, false_iff]
      omega
    maxPreEmphasisReached := by simp [noDrive, hPreEmphasis]
    unused := fun _ _ => rfl
    level := vswingProgram_lt noDrive }

theorem LaneCount.min_last (lanes : LaneCount) {lane : Fin 4} (h : lanes.toNat ≤ lane) :
    min (lane : Nat) (lanes.toNat - 1) = min (lanes.last : Nat) (lanes.toNat - 1) := by
  cases lanes <;> simp only [LaneCount.toNat, LaneCount.last] at h ⊢ <;> omega

/-- What is driven after a request is legal, whatever was driven before. -/
theorem legal_adjustTrain (hRate : link.isUhbr = false) (status : LinkStatus)
    (trainSet : TrainSet) : Legal link (intelDpGetAdjustTrain link status trainSet) := by
  have hLane : ∀ lane : Fin 4, intelDpGetAdjustTrain link status trainSet lane =
      setting (request status (min lane (link.lanes.toNat - 1)) % 4)
        (request status (min lane (link.lanes.toNat - 1)) / 4)
        link.tglGetComboBufTrans.maxSwing := by
    intro lane
    rw [adjustTrain_apply, intelDpGetLaneAdjustTrain, hRate]
    simpa using adjustVswingPreemph_eq status lane
  have hSpec := fun lane : Fin 4 =>
    setting_spec (request status (min lane (link.lanes.toNat - 1)) % 4) (by omega)
      (request status (min lane (link.lanes.toNat - 1)) / 4)
      (by have := request_lt status (min lane (link.lanes.toNat - 1)); omega)
      link.tglGetComboBufTrans.maxSwing (BufTrans.maxSwing_mem _)
  exact {
    total := by simpa only [hLane] using fun lane => (hSpec lane).1
    swing_le := by simpa only [hLane] using fun lane => (hSpec lane).2.1
    maxSwingReached := by simpa only [hLane] using fun lane => (hSpec lane).2.2.1
    maxPreEmphasisReached := by simpa only [hLane] using fun lane => (hSpec lane).2.2.2
    unused := by
      intro lane hUnused
      rw [hLane, hLane, link.lanes.min_last hUnused]
    level := vswingProgram_lt _ }

end Settings

/-- The drive settings in memory, and the status that was read last. -/
structure Drive where
  trainSet : TrainSet
  status : LinkStatus

namespace Drive

/-- After `intel_dp_reset_link_train`. -/
def reset : Drive := ⟨noDrive, .zero⟩

/-- What a transfer finds in memory: the settings are adjusted to the status
that was read before they are written to the lanes. -/
def next (link : DpLink) (drive : Drive) : AuxExchange → Drive
  | ⟨.readStatus, answer⟩ => { drive with status := answer.2 }
  | ⟨.write register _, _⟩ =>
      if register = dpTrainingLane0Set then
        { drive with trainSet := intelDpGetAdjustTrain link drive.status drive.trainSet }
      else drive

/-- The memory after the transfers of a transcript. -/
def after (link : DpLink) (drive : Drive) (transcript : Transcript AuxAnswer) : Drive :=
  transcript.foldl (next link) drive

/-- The sink is told the settings in memory, those of the lanes in use. -/
def Tells (link : DpLink) (drive : Drive) : AuxExchange → Prop
  | ⟨.readStatus, _⟩ => True
  | ⟨.write register bytes, _⟩ =>
      if register = dpTrainingLane0Set then bytes = link.lanes.active drive.trainSet
      else bytes.tail = link.lanes.active drive.trainSet

/-- Every transfer of a transcript tells the settings it finds in memory. -/
def Follows (link : DpLink) (drive : Drive) : Transcript AuxAnswer → Prop
  | [] => True
  | exchange :: rest =>
      (drive.next link exchange).Tells link exchange ∧ (drive.next link exchange).Follows link rest

end Drive

section Run

variable {link : DpLink} {drive : Drive} {transcript rest : Transcript AuxAnswer}

theorem Drive.after_append :
    drive.after link (transcript ++ rest) = (drive.after link transcript).after link rest :=
  List.foldl_append

theorem Drive.follows_append :
    drive.Follows link (transcript ++ rest) ↔
      drive.Follows link transcript ∧ (drive.after link transcript).Follows link rest := by
  induction transcript generalizing drive with
  | nil => simp [Drive.Follows, Drive.after]
  | cons exchange transcript ih => simp [Drive.Follows, Drive.after, ih, and_assoc]

/-- A program that starts with some settings in memory plays a transcript that
follows them, and leaves other settings behind. -/
structure Drive.Leads (link : DpLink) (drive : Drive) (transcript : Transcript AuxAnswer)
    (trainSet : TrainSet) : Prop where
  follows : drive.Follows link transcript
  trainSet : (drive.after link transcript).trainSet = trainSet

/-- A round that adjusts the settings to the status it has read. -/
theorem Drive.leads_update {ret written : Int} {status : LinkStatus} :
    drive.Leads link [⟨.readStatus, (ret, status)⟩, ⟨.write dpTrainingLane0Set
        (link.lanes.active (intelDpGetAdjustTrain link status drive.trainSet)), written⟩]
      (intelDpGetAdjustTrain link status drive.trainSet) where
  follows := by simp [Drive.Follows, Drive.Tells, Drive.next]
  trainSet := by simp [Drive.after, Drive.next]

theorem Drive.leads_read {answer : Int × LinkStatus} :
    drive.Leads link [⟨.readStatus, answer⟩] drive.trainSet where
  follows := by simp [Drive.Follows, Drive.Tells]
  trainSet := rfl

theorem Drive.leads_pattern (link : DpLink) (drive : Drive) (pattern : Nat) (written : Int) :
    drive.Leads link
      [⟨.write dpTrainingPatternSet (pattern :: link.lanes.active drive.trainSet), written⟩]
      drive.trainSet where
  follows := by simp [Drive.Follows, Drive.Tells, Drive.next, dpTrainingPatternSet, dpTrainingLane0Set]
  trainSet := by simp [Drive.after, Drive.next, dpTrainingPatternSet, dpTrainingLane0Set]

theorem Drive.Leads.append {first last : TrainSet} (head : drive.Leads link transcript first)
    (tail : (drive.after link transcript).Leads link rest last) :
    drive.Leads link (transcript ++ rest) last where
  follows := Drive.follows_append.mpr ⟨head.follows, tail.follows⟩
  trainSet := by rw [Drive.after_append, tail.trainSet]

/-- What a round of clock recovery does with the settings in memory. -/
theorem leads_recoverOnce {s : Recovery} {iteration : Iteration Recovery (Option TrainSet)}
    (plays : Plays (recoverOnce link s) transcript iteration)
    (hDrive : drive.trainSet = s.trainSet) :
    ∃ trainSet, drive.Leads link transcript trainSet ∧
      (∀ t, iteration = .next t → t.trainSet = trainSet) ∧
      ∀ found, iteration = .stop (some found) → found = trainSet := by
  obtain ⟨⟨ret, status⟩, rest, rfl, later⟩ := plays_call_iff.mp plays
  change Plays (recoverFrom link s ret status) rest iteration at later
  have hRead : ∀ found : Option TrainSet, (∀ k, found = some k → k = s.trainSet) →
      Plays (.done (.stop found) : Training _) rest iteration →
      ∃ trainSet, drive.Leads link (⟨.readStatus, (ret, status)⟩ :: rest) trainSet ∧
        (∀ t, iteration = .next t → t.trainSet = trainSet) ∧
        ∀ found, iteration = .stop (some found) → found = trainSet := by
    intro found hFound later
    obtain ⟨rfl, rfl⟩ := plays_done_iff.mp later
    exact ⟨_, Drive.leads_read, by simp, by simpa [hDrive] using hFound⟩
  simp only [recoverFrom] at later
  split_ifs at later
  · exact hRead none (by simp) later
  · exact hRead (some s.trainSet) (by simp) later
  · exact hRead none (by simp) later
  · exact hRead none (by simp) later
  · obtain ⟨written, rfl, hResult⟩ := plays_update later
    have hAfter : (s.after link status).trainSet =
        intelDpGetAdjustTrain link status drive.trainSet := by rw [hDrive]; rfl
    rw [hAfter]
    exact ⟨_, Drive.leads_update, by rcases hResult with ⟨_, rfl⟩ | ⟨_, rfl⟩ <;> simp [← hAfter],
      by rcases hResult with ⟨_, rfl⟩ | ⟨_, rfl⟩ <;> simp⟩

/-- What clock recovery returns is what it leaves in memory. -/
theorem leads_recoverLoop {tries : Nat} {s : Recovery} {result : Option (Option TrainSet)}
    (plays : Plays (loop (recoverOnce link) tries s) transcript result)
    (hDrive : drive.trainSet = s.trainSet) :
    ∃ trainSet, drive.Leads link transcript trainSet ∧
      ∀ found, result.join = some found → found = trainSet := by
  revert drive
  -- The settings in memory move on from round to round.
  apply plays_loop_rule ?_ ?_ ?_ plays
  · intro s drive _
    exact ⟨drive.trainSet, ⟨trivial, rfl⟩, by simp⟩
  · intro tries s transcript value round drive hDrive
    obtain ⟨trainSet, leads, -, hFound⟩ := leads_recoverOnce round hDrive
    exact ⟨trainSet, leads, by simpa using hFound⟩
  · intro tries s first t rest result round ih drive hDrive
    obtain ⟨trainSet, leads, hNext, -⟩ := leads_recoverOnce round hDrive
    have hHere : (drive.after link first).trainSet = t.trainSet :=
      leads.trainSet.trans (hNext t rfl).symm
    obtain ⟨last, tail, hFound⟩ := ih hHere
    exact ⟨last, leads.append tail, hFound⟩

theorem leads_clockRecovery {result : Option TrainSet}
    (plays : Plays (clockRecovery link) transcript result) (hDrive : drive.trainSet = noDrive) :
    ∃ trainSet, drive.Leads link transcript trainSet ∧
      ∀ found, result = some found → found = trainSet := by
  obtain ⟨written, rest, rfl, hWritten⟩ := plays_pattern plays
  rw [← hDrive]
  rcases hWritten with ⟨_, later⟩ | ⟨_, rfl, rfl⟩
  · obtain ⟨first, last, value, rfl, hLoop, hJoin⟩ := plays_bind_iff.mp later
    obtain ⟨rfl, rfl⟩ := plays_done_iff.mp hJoin
    have hHere := drive.leads_pattern link (dpTrainingPattern1 ||| dpLinkScramblingDisable) written
    obtain ⟨trainSet, leads, hFound⟩ := leads_recoverLoop hLoop (hHere.trainSet.trans hDrive)
    rw [List.append_nil]
    exact ⟨trainSet, hHere.append leads, hFound⟩
  · exact ⟨_, drive.leads_pattern link _ _, by simp⟩

theorem leads_equaliseOnce {trainSet : TrainSet} {iteration : Iteration TrainSet Bool}
    (plays : Plays (equaliseOnce link trainSet) transcript iteration)
    (hDrive : drive.trainSet = trainSet) :
    ∃ last, drive.Leads link transcript last ∧ ∀ t, iteration = .next t → t = last := by
  obtain ⟨⟨ret, status⟩, rest, rfl, later⟩ := plays_call_iff.mp plays
  change Plays (equaliseFrom link trainSet ret status) rest iteration at later
  have hRead : ∀ value, Plays (.done (.stop value) : Training _) rest iteration →
      ∃ last, drive.Leads link (⟨.readStatus, (ret, status)⟩ :: rest) last ∧
        ∀ t, iteration = .next t → t = last := by
    intro value later
    obtain ⟨rfl, rfl⟩ := plays_done_iff.mp later
    exact ⟨_, Drive.leads_read, by simp⟩
  simp only [equaliseFrom] at later
  split_ifs at later
  · exact hRead _ later
  · exact hRead _ later
  · exact hRead _ later
  · obtain ⟨written, rfl, hResult⟩ := plays_update later
    rw [← hDrive]
    exact ⟨_, Drive.leads_update, by rcases hResult with ⟨_, rfl⟩ | ⟨_, rfl⟩ <;> simp [hDrive]⟩

theorem leads_equaliseLoop {tries : Nat} {trainSet : TrainSet} {result : Option Bool}
    (plays : Plays (loop (equaliseOnce link) tries trainSet) transcript result)
    (hDrive : drive.trainSet = trainSet) : ∃ last, drive.Leads link transcript last := by
  revert drive
  apply plays_loop_rule ?_ ?_ ?_ plays
  · intro trainSet drive _
    exact ⟨drive.trainSet, trivial, rfl⟩
  · intro tries trainSet transcript value round drive hDrive
    obtain ⟨last, leads, -⟩ := leads_equaliseOnce round hDrive
    exact ⟨last, leads⟩
  · intro tries trainSet first t rest result round ih drive hDrive
    obtain ⟨middle, leads, hNext⟩ := leads_equaliseOnce round hDrive
    obtain ⟨last, tail⟩ := ih (leads.trainSet.trans (hNext t rfl).symm)
    exact ⟨last, leads.append tail⟩

theorem leads_equaliseAfter {recovered : Option TrainSet} {result : Bool}
    (plays : Plays (equaliseAfter link recovered) transcript result)
    (hDrive : ∀ trainSet, recovered = some trainSet → trainSet = drive.trainSet) :
    ∃ last, drive.Leads link transcript last := by
  cases recovered with
  | none =>
      obtain ⟨rfl, rfl⟩ := plays_done_iff.mp plays
      exact ⟨drive.trainSet, trivial, rfl⟩
  | some trainSet =>
      obtain ⟨written, rest, rfl, hWritten⟩ := plays_pattern plays
      rw [hDrive trainSet rfl]
      rcases hWritten with ⟨_, later⟩ | ⟨_, rfl, rfl⟩
      · obtain ⟨first, last, value, rfl, hLoop, hValue⟩ := plays_bind_iff.mp later
        obtain ⟨rfl, rfl⟩ := plays_done_iff.mp hValue
        have hHere := drive.leads_pattern link (eqPattern link) written
        obtain ⟨last, leads⟩ :=
          leads_equaliseLoop hLoop (hHere.trainSet.trans (hDrive trainSet rfl).symm)
        rw [List.append_nil]
        exact ⟨last, hHere.append leads⟩
      · exact ⟨_, drive.leads_pattern link _ _⟩

/-- The settings in memory are legal after any transfers whatsoever. -/
theorem legal_after (hRate : link.isUhbr = false) (transcript : Transcript AuxAnswer) :
    Legal link ((Drive.reset.after link transcript).trainSet) := by
  have hFrom : ∀ drive : Drive, Legal link drive.trainSet →
      Legal link (drive.after link transcript).trainSet := by
    induction transcript with
    | nil => exact fun _ h => h
    | cons exchange rest ih =>
        intro drive hLegal
        apply ih
        match exchange with
        | ⟨.readStatus, _⟩ => exact hLegal
        | ⟨.write _ _, _⟩ =>
            simp only [Drive.next]
            split
            · exact legal_adjustTrain hRate _ _
            · exact hLegal
  exact hFrom _ legal_noDrive

end Run

/-- Whatever the sink asks for, in whatever order: the lanes are told what is
in memory, and what is in memory is legal at every point of the run. -/
theorem drive_settings_stay_legal (link : DpLink) (hRate : link.isUhbr = false)
    (sink : Opponent AuxAnswer) :
    Drive.reset.Follows link ((intelDpLinkTrainPhy link).against sink).2 ∧
      ∀ before, before <+: ((intelDpLinkTrainPhy link).against sink).2 →
        Legal link (Drive.reset.after link before).trainSet := by
  obtain ⟨equalisation, hSplit, later⟩ :=
    against_bind (clockRecovery link) (equaliseAfter link) sink
  obtain ⟨trainSet, first, hFound⟩ :=
    leads_clockRecovery (plays_against (clockRecovery link) sink)
      (rfl : Drive.reset.trainSet = noDrive)
  obtain ⟨last, second⟩ :=
    leads_equaliseAfter later fun found h => (hFound found h).trans first.trainSet.symm
  constructor
  · change Drive.reset.Follows link ((clockRecovery link >>= equaliseAfter link).against sink).2
    rw [hSplit]
    exact (first.append second).follows
  · intro before _
    exact legal_after hRate before

/-- A panel of two lanes on the table for low power, and a sink that never
recovers the clock and asks for everything. -/
def hoblLink : DpLink where
  lanes := .two
  hdmi := false
  edp := true
  hobl := true
  hoblFailed := false
  lowVswing := true
  tigerlakeUy := false
  portClock := 270000
  displayVer := 12
  dpcdRev := 0x14
  dpcdMaxLaneCount := 0xC4
  dpcdMaxDownspread := 0x81

def greedySink : Opponent AuxAnswer
  | _, .readStatus => (6, fun i => if i.val < 4 then 0 else 0xFF)
  | _, .write _ bytes => bytes.length

theorem hobl_settings_stay_legal : hoblLink.isUhbr = false ∧
    Legal hoblLink
      (Drive.reset.after hoblLink ((intelDpLinkTrainPhy hoblLink).against greedySink).2).trainSet :=
  ⟨rfl, (drive_settings_stay_legal hoblLink rfl greedySink).2 _ List.prefix_rfl⟩

end NootedBlue.Link
