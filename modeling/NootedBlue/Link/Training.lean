import NootedBlue.Link.Drive
import NootedBlue.Semantics.Transcript

/-! Link training over the AUX channel: clock recovery first, then channel
equalisation. Both read the status of the lanes again and again and answer with
new drive settings; nothing the sink reports is trusted to make sense. -/
namespace NootedBlue.Link

open Interaction

/-- What the training does on the AUX channel: read the six status registers,
or write some registers from an address on. -/
inductive Aux where
  | readStatus
  | write (register : Nat) (bytes : List Nat)
  deriving DecidableEq, Repr

/-- A negative number reports an error. A read leaves its bytes in the buffer. -/
abbrev AuxAnswer : Aux → Type
  | .readStatus => Int × LinkStatus
  | .write _ _ => Int

abbrev Training := Program Aux AuxAnswer

def readStatus : Training (Int × LinkStatus) := Program.perform Aux.readStatus

def writeAux (register : Nat) (bytes : List Nat) : Training Int :=
  Program.perform (Aux.write register bytes)

def dpTrainingPatternSet : Nat := 0x102
def dpTrainingLane0Set : Nat := 0x103

/-- Training patterns, and the bit that turns scrambling off. -/
def dpTrainingPattern1 : Nat := 1
def dpTrainingPattern2 : Nat := 2
def dpTrainingPattern3 : Nat := 3
def dpTrainingPattern4 : Nat := 7
def dpLinkScramblingDisable : Nat := 1 <<< 5

/-- `intel_dp_set_link_train`, to the sink itself. -/
def intelDpSetLinkTrain (link : DpLink) (pattern : Nat) (trainSet : TrainSet) : Training Bool := do
  let ret ← writeAux dpTrainingPatternSet (pattern :: link.lanes.active trainSet)
  return ret ≥ 0

/-- `intel_dp_update_link_train`. -/
def intelDpUpdateLinkTrain (link : DpLink) (trainSet : TrainSet) : Training Bool := do
  let ret ← writeAux dpTrainingLane0Set (link.lanes.active trainSet)
  return ret ≥ 0

/-- The local variables of clock recovery, and the drive settings. -/
structure Recovery where
  trainSet : TrainSet
  oldLinkStatus : LinkStatus
  voltageTries : Nat
  maxVswingReached : Bool

/-- What follows a failed attempt: new drive settings, and a note of whether
the sink still asks for the same and whether the swing is at its maximum. -/
def Recovery.after (link : DpLink) (s : Recovery) (status : LinkStatus) : Recovery :=
  let trainSet := intelDpGetAdjustTrain link status s.trainSet
  { trainSet
    oldLinkStatus := status
    voltageTries :=
      if intelDpAdjustRequestChanged link s.oldLinkStatus status then 1 else s.voltageTries + 1
    maxVswingReached := s.maxVswingReached || intelDpLinkMaxVswingReached link trainSet }

/-- What clock recovery does with a status. -/
def recoverFrom (link : DpLink) (s : Recovery) (ret : Int) (status : LinkStatus) :
    Training (Iteration Recovery (Option TrainSet)) :=
  if ret < 0 then return .stop none
  else if drmDpClockRecoveryOk status link.lanes.toNat then return .stop (some s.trainSet)
  else if s.voltageTries = 5 then return .stop none
  else if s.maxVswingReached then return .stop none
  else do
    let written ← intelDpUpdateLinkTrain link (s.after link status).trainSet
    return if written then .next (s.after link status) else .stop none

/-- One round of the loop of `intel_dp_link_training_clock_recovery`. It stops
with the drive settings that worked, or without any. -/
def recoverOnce (link : DpLink) (s : Recovery) : Training (Iteration Recovery (Option TrainSet)) := do
  let answer ← readStatus
  recoverFrom link s answer.1 answer.2

def DpLink.maxCrTries (link : DpLink) : Nat := if link.dpcdRev ≥ 0x14 then 10 else 80

/-- The drive settings after `intel_dp_reset_link_train`. -/
def noDrive : TrainSet := fun _ => 0

def Recovery.initial : Recovery where
  trainSet := noDrive
  oldLinkStatus := .zero
  voltageTries := 1
  maxVswingReached := false

/-- The loop of `intel_dp_link_training_clock_recovery`. -/
def recover (link : DpLink) : Training (Option TrainSet) := do
  let result ← loop (recoverOnce link) link.maxCrTries .initial
  return result.join

/-- `intel_dp_link_training_clock_recovery`: the drive settings that worked. -/
def clockRecovery (link : DpLink) : Training (Option TrainSet) := do
  let written ← intelDpSetLinkTrain link (dpTrainingPattern1 ||| dpLinkScramblingDisable) noDrive
  if written then recover link else return none

/-- `intel_dp_training_pattern`. -/
def intelDpTrainingPattern (link : DpLink) : Nat :=
  if link.isUhbr then dpTrainingPattern2
  else if link.displayVer ≥ 10 ∧ link.dpcdRev ≥ 0x14 ∧ link.dpcdMaxDownspread.testBit 7 then
    dpTrainingPattern4
  else if link.displayVer ≥ 9 ∧ link.dpcdRev ≥ 0x12 ∧ link.dpcdMaxLaneCount.testBit 6 then
    dpTrainingPattern3
  else dpTrainingPattern2

/-- What channel equalisation does with a status. -/
def equaliseFrom (link : DpLink) (trainSet : TrainSet) (ret : Int) (status : LinkStatus) :
    Training (Iteration TrainSet Bool) :=
  if ret < 0 then return .stop false
  else if !drmDpClockRecoveryOk status link.lanes.toNat then return .stop false
  else if drmDpChannelEqOk status link.lanes.toNat then return .stop true
  else do
    let adjusted := intelDpGetAdjustTrain link status trainSet
    let written ← intelDpUpdateLinkTrain link adjusted
    return if written then .next adjusted else .stop false

/-- One round of the loop of `intel_dp_link_training_channel_equalization`. -/
def equaliseOnce (link : DpLink) (trainSet : TrainSet) : Training (Iteration TrainSet Bool) := do
  let answer ← readStatus
  equaliseFrom link trainSet answer.1 answer.2

def maxEqTries : Nat := 5

/-- The pattern for equalisation; the fourth one is sent scrambled. -/
def eqPattern (link : DpLink) : Nat :=
  let pattern := intelDpTrainingPattern link
  if pattern ≠ dpTrainingPattern4 then pattern ||| dpLinkScramblingDisable else pattern

/-- The loop of `intel_dp_link_training_channel_equalization`. -/
def equalise (link : DpLink) (trainSet : TrainSet) : Training Bool := do
  let result ← loop (equaliseOnce link) maxEqTries trainSet
  return result.getD false

/-- `intel_dp_link_training_channel_equalization`. -/
def channelEqualization (link : DpLink) (trainSet : TrainSet) : Training Bool := do
  let written ← intelDpSetLinkTrain link (eqPattern link) trainSet
  if written then equalise link trainSet else return false

/-- What follows clock recovery. -/
def equaliseAfter (link : DpLink) : Option TrainSet → Training Bool
  | none => return false
  | some trainSet => channelEqualization link trainSet

/-- `intel_dp_link_train_phy`. -/
def intelDpLinkTrainPhy (link : DpLink) : Training Bool := do
  let recovered ← clockRecovery link
  equaliseAfter link recovered

end NootedBlue.Link
