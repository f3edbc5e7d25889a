import NootedBlue.Bringup.Source
import NootedBlue.Semantics.View

/-! Link training with both of its sides. Before the sink is told of a pattern or of drive
settings, the source is programmed with them; on the AUX channel alone, the training is
the one of the link. -/
namespace NootedBlue.Bringup

open Interaction Link

/-- `__read_delay`: one of the intervals that a sink may ask for. The register is always in
what has been read. -/
def readDelay (dpcd : Dpcd) (cr : Bool) : Nat :=
  if cr ∧ dpcd.rev ≥ 0x14 then 100
  else
    let rdInterval := dpcd.trainingAuxRdInterval &&& 0x7F
    if rdInterval = 0 then if cr then 100 else 400 else rdInterval.toNat * 4 * 1000

/-- `intel_dp_set_link_train`. -/
def intelDpSetLinkTrain (source : LinkSource) (pattern : Nat) (trainSet : TrainSet) :
    LinkProgram Bool := do
  intelDdiSetLinkTrain source pattern
  let ret ← writeAux dpTrainingPatternSet (pattern :: source.lanes.active trainSet)
  return ret ≥ 0

/-- `intel_dp_reset_link_train`. -/
def intelDpResetLinkTrain (source : LinkSource) (pattern : Nat) : LinkProgram Bool := do
  iclComboPhySetSignalLevels source noDrive
  intelDpSetLinkTrain source pattern noDrive

/-- `intel_dp_update_link_train`. -/
def intelDpUpdateLinkTrain (source : LinkSource) (trainSet : TrainSet) : LinkProgram Bool := do
  iclComboPhySetSignalLevels source trainSet
  let ret ← writeAux dpTrainingLane0Set (source.lanes.active trainSet)
  return ret ≥ 0

/-- What clock recovery does with a status. -/
def recoverFrom (source : LinkSource) (dpcd : Dpcd) (s : Recovery) (ret : Int)
    (status : LinkStatus) : LinkProgram (Iteration Recovery (Option TrainSet)) :=
  if ret < 0 then return .stop none
  else if drmDpClockRecoveryOk status (source.link dpcd).lanes.toNat then return .stop (some s.trainSet)
  else if s.voltageTries = 5 then return .stop none
  else if s.maxVswingReached then return .stop none
  else do
    let written ← intelDpUpdateLinkTrain source (s.after (source.link dpcd) status).trainSet
    return if written then .next (s.after (source.link dpcd) status) else .stop none

/-- One round of clock recovery. -/
def recoverOnce (source : LinkSource) (dpcd : Dpcd) (delayUs : Nat) (s : Recovery) :
    LinkProgram (Iteration Recovery (Option TrainSet)) := do
  let _ ← Program.perform (LinkOp.fsleep delayUs)
  let answer ← Program.perform (LinkOp.aux .readStatus)
  recoverFrom source dpcd s answer.1 answer.2

/-- The loop of clock recovery. -/
def recover (source : LinkSource) (dpcd : Dpcd) (delayUs : Nat) : LinkProgram (Option TrainSet) := do
  let result ← loop (recoverOnce source dpcd delayUs) (source.link dpcd).maxCrTries .initial
  return result.join

/-- `intel_dp_link_training_clock_recovery`. -/
def clockRecovery (source : LinkSource) (dpcd : Dpcd) :
    LinkProgram (Option TrainSet) := do
  let written ← intelDpResetLinkTrain source (dpTrainingPattern1 ||| dpLinkScramblingDisable)
  if written then recover source dpcd (readDelay dpcd true) else return none

/-- What channel equalisation does with a status. -/
def equaliseFrom (source : LinkSource) (dpcd : Dpcd) (trainSet : TrainSet) (ret : Int)
    (status : LinkStatus) : LinkProgram (Iteration TrainSet Bool) :=
  if ret < 0 then return .stop false
  else if !drmDpClockRecoveryOk status (source.link dpcd).lanes.toNat then return .stop false
  else if drmDpChannelEqOk status (source.link dpcd).lanes.toNat then return .stop true
  else do
    let adjusted := intelDpGetAdjustTrain (source.link dpcd) status trainSet
    let written ← intelDpUpdateLinkTrain source adjusted
    return if written then .next adjusted else .stop false

/-- One round of channel equalisation. -/
def equaliseOnce (source : LinkSource) (dpcd : Dpcd) (delayUs : Nat) (trainSet : TrainSet) :
    LinkProgram (Iteration TrainSet Bool) := do
  let _ ← Program.perform (LinkOp.fsleep delayUs)
  let answer ← Program.perform (LinkOp.aux .readStatus)
  equaliseFrom source dpcd trainSet answer.1 answer.2

/-- The loop of channel equalisation. -/
def equalise (source : LinkSource) (dpcd : Dpcd) (delayUs : Nat) (trainSet : TrainSet) :
    LinkProgram Bool := do
  let result ← loop (equaliseOnce source dpcd delayUs) maxEqTries trainSet
  return result.getD false

/-- `intel_dp_link_training_channel_equalization`. -/
def channelEqualization (source : LinkSource) (dpcd : Dpcd) (trainSet : TrainSet) :
    LinkProgram Bool := do
  let written ← intelDpSetLinkTrain source (eqPattern (source.link dpcd)) trainSet
  if written then equalise source dpcd (readDelay dpcd false) trainSet else return false

/-- What follows clock recovery. -/
def equaliseAfter (source : LinkSource) (dpcd : Dpcd) :
    Option TrainSet → LinkProgram Bool
  | none => return false
  | some trainSet => channelEqualization source dpcd trainSet

/-- `intel_dp_link_train_phy`. -/
def intelDpLinkTrainPhy (source : LinkSource) (dpcd : Dpcd) : LinkProgram Bool := do
  let recovered ← clockRecovery source dpcd
  equaliseAfter source dpcd recovered

section Aux

/-! On the AUX channel. -/

/-- An exchange on the AUX channel that belongs to training. -/
def auxView : View LinkAnswer AuxAnswer
  | ⟨.aux op, answer⟩ => some ⟨op, answer⟩
  | ⟨.mmio _, _⟩ => none
  | ⟨.readAux _ _, _⟩ => none
  | ⟨.fsleep _, _⟩ => none
  | ⟨.ioSleep _, _⟩ => none
  | ⟨.intelDeWaitMs _ _ _ _, _⟩ => none
  | ⟨.hwSetPanelPower _, _⟩ => none

/-- An operation of the source alone. -/
def OfSource : LinkOp → Prop
  | .mmio _ => True
  | .fsleep _ => True
  | .ioSleep _ => True
  | .intelDeWaitMs _ _ _ _ => True
  | .hwSetPanelPower _ => True
  | .aux _ => False
  | .readAux _ _ => False

theorem auxView_ofSource (op : LinkOp) (answer : LinkAnswer op) (h : OfSource op) :
    auxView ⟨op, answer⟩ = none := by
  cases op with
  | aux op => exact h.elim
  | mmio op => rfl
  | readAux register count => rfl
  | fsleep usecs => rfl
  | ioSleep msecs => rfl
  | hwSetPanelPower state => rfl
  | intelDeWaitMs reg mask value timeoutMs => rfl

/-- Training goes on after an exchange on the AUX channel. -/
theorem shows_aux {α : Type} {op : Aux} {next : AuxAnswer op → LinkProgram α}
    {next' : AuxAnswer op → Training α} (later : ∀ answer, Shows auxView (next answer) (next' answer)) :
    Shows auxView (Program.perform (LinkOp.aux op) >>= next) (Program.perform op >>= next') :=
  Shows.seen (fun answer => answer) (fun _ => rfl) later

variable {source : LinkSource} {dpcd : Dpcd}

theorem ofSource_rmw (reg : Nat) (clear set : Word) : (intelDeRmw reg clear set).Performs OfSource :=
  ⟨trivial, fun _ => ⟨trivial, fun _ => trivial⟩⟩

theorem ofSource_eachLane {body : Fin 4 → LinkProgram Unit}
    (h : ∀ ln, (body ln).Performs OfSource) : (eachLane body).Performs OfSource :=
  Program.performs_bind (h 0) fun _ => Program.performs_bind (h 1) fun _ =>
    Program.performs_bind (h 2) fun _ => h 3

theorem ofSource_programHobl : (programHobl source).Performs OfSource := by
  rw [programHobl]
  split
  · exact ofSource_rmw _ _ _
  · exact trivial

theorem ofSource_vswingProgram (trainSet : TrainSet) :
    (iclDdiComboVswingProgram source trainSet).Performs OfSource := by
  apply Program.performs_bind ofSource_programHobl
  intro _
  refine ⟨trivial, fun val => ⟨trivial, fun _ => ?_⟩⟩
  apply Program.performs_bind (ofSource_eachLane fun ln => ofSource_rmw _ _ _)
  intro _
  apply Program.performs_bind (ofSource_eachLane fun ln => ofSource_rmw _ _ _)
  intro _
  exact ofSource_eachLane fun ln => ofSource_rmw _ _ _

theorem ofSource_setSignalLevels (trainSet : TrainSet) :
    (iclComboPhySetSignalLevels source trainSet).Performs OfSource := by
  refine ⟨trivial, fun val => ⟨trivial, fun _ => ?_⟩⟩
  apply Program.performs_bind (ofSource_eachLane fun ln => ofSource_rmw _ _ _)
  intro _
  apply Program.performs_bind (ofSource_rmw _ _ _)
  intro _
  refine ⟨trivial, fun val => ⟨trivial, fun _ => ?_⟩⟩
  apply Program.performs_bind (ofSource_vswingProgram trainSet)
  intro _
  exact ⟨trivial, fun val => ⟨trivial, fun _ => trivial⟩⟩

theorem ofSource_setLinkTrain (pattern : Nat) :
    (intelDdiSetLinkTrain source pattern).Performs OfSource :=
  ⟨trivial, fun _ => ⟨trivial, fun _ => trivial⟩⟩

theorem shows_setLinkTrain (pattern : Nat) (trainSet : TrainSet) :
    Shows auxView (intelDpSetLinkTrain source pattern trainSet)
      (Link.intelDpSetLinkTrain (source.link dpcd) pattern trainSet) := by
  apply Shows.bind_hidden (ofSource_setLinkTrain pattern) auxView_ofSource
  intro _
  exact shows_aux fun _ => shows_done _

theorem shows_resetLinkTrain (pattern : Nat) :
    Shows auxView (intelDpResetLinkTrain source pattern)
      (Link.intelDpSetLinkTrain (source.link dpcd) pattern noDrive) := by
  apply Shows.bind_hidden (ofSource_setSignalLevels noDrive) auxView_ofSource
  intro _
  exact shows_setLinkTrain pattern noDrive

theorem shows_updateLinkTrain (trainSet : TrainSet) :
    Shows auxView (intelDpUpdateLinkTrain source trainSet)
      (Link.intelDpUpdateLinkTrain (source.link dpcd) trainSet) := by
  apply Shows.bind_hidden (ofSource_setSignalLevels trainSet) auxView_ofSource
  intro _
  exact shows_aux fun _ => shows_done _

theorem shows_recoverOnce (delayUs : Nat) (s : Recovery) :
    Shows auxView (recoverOnce source dpcd delayUs s) (Link.recoverOnce (source.link dpcd) s) := by
  apply Shows.hidden (fun _ => rfl)
  intro _
  apply shows_aux
  intro answer
  simp only [recoverFrom, Link.recoverFrom]
  split
  · exact shows_done _
  · split
    · exact shows_done _
    · split
      · exact shows_done _
      · split
        · exact shows_done _
        · exact (shows_updateLinkTrain _).bind fun _ => shows_done _

theorem shows_clockRecovery (dpcd : Dpcd) :
    Shows auxView (clockRecovery source dpcd) (Link.clockRecovery (source.link dpcd)) := by
  apply (shows_resetLinkTrain _).bind
  intro written
  split
  · exact (Shows.loop (shows_recoverOnce _) _ _).bind fun _ => shows_done _
  · exact shows_done none

theorem shows_equaliseOnce (delayUs : Nat) (trainSet : TrainSet) :
    Shows auxView (equaliseOnce source dpcd delayUs trainSet) (Link.equaliseOnce (source.link dpcd) trainSet) := by
  apply Shows.hidden (fun _ => rfl)
  intro _
  apply shows_aux
  intro answer
  simp only [equaliseFrom, Link.equaliseFrom]
  split
  · exact shows_done _
  · split
    · exact shows_done _
    · split
      · exact shows_done _
      · exact (shows_updateLinkTrain _).bind fun _ => shows_done _

theorem shows_equaliseAfter (dpcd : Dpcd) (recovered : Option TrainSet) :
    Shows auxView (equaliseAfter source dpcd recovered) (Link.equaliseAfter (source.link dpcd) recovered) := by
  cases recovered with
  | none => exact shows_done false
  | some trainSet =>
      apply (shows_setLinkTrain _ _).bind
      intro written
      split
      · exact (Shows.loop (shows_equaliseOnce _) _ _).bind fun _ => shows_done _
      · exact shows_done false

/-- On the AUX channel, training with both sides is training. -/
theorem shows_intelDpLinkTrainPhy (dpcd : Dpcd) :
    Shows auxView (intelDpLinkTrainPhy source dpcd) (Link.intelDpLinkTrainPhy (source.link dpcd)) :=
  (shows_clockRecovery dpcd).bind fun recovered => shows_equaliseAfter dpcd recovered

end Aux

/-- Whatever is done to the source between its transfers, they are those of a run of the
training, with its result, and so they keep what the training promises. -/
theorem training_seen (source : LinkSource) (dpcd : Dpcd) {transcript : Transcript LinkAnswer}
    {passed : Bool} (plays : Plays (intelDpLinkTrainPhy source dpcd) transcript passed) :
    ∃ recovery equalisation recovered,
      auxView.seen transcript = recovery ++ equalisation ∧
        Plays (Link.clockRecovery (source.link dpcd)) recovery recovered ∧
          Plays (Link.equaliseAfter (source.link dpcd) recovered) equalisation passed ∧
            Contract (source.link dpcd) recovery equalisation recovered passed := by
  have seen := shows_intelDpLinkTrainPhy dpcd transcript passed plays
  obtain ⟨recovery, equalisation, recovered, hSplit, first, later⟩ := plays_bind_iff.mp seen
  exact ⟨recovery, equalisation, recovered, hSplit, first, later, contract_of_plays first later⟩

/-- A panel of four lanes at the first port, and a sink that is ready at once. -/
def panelSource : LinkSource where
  ddi := ⟨{ ver := 12 }, 0, .a, true⟩
  hPort := by decide
  phy := .a
  hPhy := by decide
  crtc := ⟨0, 24, 1 <<< 8, 4, false, false, false, false, false⟩
  transcoder := .a
  hTranscoder := rfl
  sync := ⟨none, 0⟩
  laneReversal := false
  lanes := .four
  hLanes := rfl
  portClock := 270000
  displayPortClock := 270000
  enhancedFraming := true
  vrrInRange := false
  hobl := false
  hoblFailed := false
  lowVswing := true
  tigerlakeUy := false
  dp := edp14

def readySink : Opponent LinkAnswer
  | _, .mmio (.read _) => (0 : Word)
  | _, .mmio (.write _ _) => ()
  | _, .aux (.write _ bytes) => (bytes.length : Int)
  | _, .aux .readStatus => (6, fun _ => 0xFF)
  | _, .readAux _ count => (count, fun _ => 0)
  | _, .fsleep _ => ()
  | _, .ioSleep _ => ()
  | _, .intelDeWaitMs _ _ _ _ => (0 : Int)
  | _, .hwSetPanelPower _ => ()

theorem training_seen_ready : ∃ recovery equalisation recovered,
    auxView.seen ((intelDpLinkTrainPhy panelSource fun _ => 0).against readySink).2 =
      recovery ++ equalisation ∧
        Plays (Link.clockRecovery (panelSource.link fun _ => 0)) recovery recovered ∧
          Plays (Link.equaliseAfter (panelSource.link fun _ => 0) recovered) equalisation
            ((intelDpLinkTrainPhy panelSource fun _ => 0).against readySink).1 ∧
            Contract (panelSource.link fun _ => 0) recovery equalisation recovered
              ((intelDpLinkTrainPhy panelSource fun _ => 0).against readySink).1 :=
  training_seen panelSource (fun _ => 0) (plays_against _ readySink)

end NootedBlue.Bringup
