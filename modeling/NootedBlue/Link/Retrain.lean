import NootedBlue.Link.Levels

/-! What is kept from one link training to the next: how many have failed in a row,
whether retraining is off, and whether the table for low power has failed, which
decides the tables of the trainings that follow. -/
namespace NootedBlue.Link

open Interaction

/-- The members of `intel_dp` that outlive a training. The two counters of
`intel_dp->link` are of type `int`. -/
structure Retrain where
  seqTrainFailures : BitVec 32
  forceTrainFailure : BitVec 32
  retrainDisabled : Bool
  hoblFailed : Bool
  hoblActive : Bool
  deriving DecidableEq

/-- A run of `icl_ddi_combo_vswing_program`: whether the output is eDP, and the
table. -/
structure Programming where
  edp : Bool
  table : BufTrans
  deriving DecidableEq

namespace Retrain

/-- The link as a training finds it. -/
def linkOf (s : Retrain) (link : DpLink) : DpLink := { link with hoblFailed := s.hoblFailed }

/-- `icl_ddi_combo_vswing_program`: the table, and the note that it leaves about it
on an eDP output. -/
def vswingProgram (s : Retrain) (link : DpLink) : Retrain × Programming :=
  let trans := (s.linkOf link).tglGetComboBufTrans
  ({ s with
      hoblActive :=
        if link.edp then trans = .tglComboPhyTransEdpHbr2Hobl else s.hoblActive },
    ⟨link.edp, trans⟩)

/-- Some programmings in a row, the latest first. -/
def programs (s : Retrain) (link : DpLink) : Nat → Retrain × List Programming
  | 0 => (s, [])
  | count + 1 =>
      let earlier := programs s link count
      let next := earlier.1.vswingProgram link
      (next.1, next.2 :: earlier.2)

end Retrain

/-- A training as its caller sees it: the link, how often the levels were adjusted,
the outcome, and whether long hot-plug pulses are ignored at its end. -/
structure TrainCall where
  link : DpLink
  updates : Nat
  passed : Bool
  ignoreLongHpd : Bool

namespace Retrain

/-- What follows a failure that has been counted. -/
def giveUp (s : Retrain) (ignoreLongHpd : Bool) : Retrain :=
  if ignoreLongHpd then s
  else if s.seqTrainFailures.toInt < 2 then s
  else
    let s := if s.hoblActive then { s with hoblFailed := true } else s
    { s with retrainDisabled := true }

/-- What `intel_dp_start_link_train` does with the outcome of a training. -/
def account (s : Retrain) (passed ignoreLongHpd : Bool) : Retrain :=
  if s.forceTrainFailure ≠ 0 then
    { s with
        forceTrainFailure := s.forceTrainFailure - 1
        seqTrainFailures := s.seqTrainFailures + 1 }.giveUp ignoreLongHpd
  else if passed then { s with seqTrainFailures := 0 }
  else { s with seqTrainFailures := s.seqTrainFailures + 1 }.giveUp ignoreLongHpd

/-- `intel_dp_start_link_train`. The levels are programmed at the start of a training
and at every adjustment. -/
def startLinkTrain (s : Retrain) (call : TrainCall) : Retrain × List Programming :=
  let trained := s.programs call.link (call.updates + 1)
  (trained.1.account call.passed call.ignoreLongHpd, trained.2)

/-- What a sink makes of a training. -/
def outcome (s : Retrain) (link : DpLink) (ignoreLongHpd : Bool) (sink : Opponent AuxAnswer) :
    TrainCall :=
  let run := (intelDpLinkTrainPhy (s.linkOf link)).against sink
  { link
    updates := run.2.countP fun
      | ⟨.readStatus, _⟩ => false
      | ⟨.write register _, _⟩ => register = dpTrainingLane0Set
    passed := run.1
    ignoreLongHpd }

/-- `intel_dp_start_link_train` with a sink at the other end. -/
def startLinkTrainWith (s : Retrain) (link : DpLink) (ignoreLongHpd : Bool)
    (sink : Opponent AuxAnswer) : Retrain × List Programming :=
  s.startLinkTrain (s.outcome link ignoreLongHpd sink)

end Retrain

/-- What happens to a link: its levels are programmed before a training, or it is
trained. -/
inductive LinkEvent where
  | program (link : DpLink)
  | train (call : TrainCall)

def Retrain.step (s : Retrain) : LinkEvent → Retrain × List Programming
  | .program link => s.programs link 1
  | .train call => s.startLinkTrain call

/-- The state after some events, the latest first. -/
def Retrain.after (start : Retrain) : List LinkEvent → Retrain
  | [] => start
  | event :: earlier => ((start.after earlier).step event).1

/-- The programmings of some events, the latest first. -/
def Retrain.programmed (start : Retrain) : List LinkEvent → List Programming
  | [] => []
  | event :: earlier => ((start.after earlier).step event).2 ++ start.programmed earlier

/-- The number of trainings. -/
def trainings : List LinkEvent → Nat
  | [] => 0
  | .program _ :: earlier => trainings earlier
  | .train _ :: earlier => trainings earlier + 1

/-- A training after some events counts as failed: it is one of those that have to,
or it did not pass. -/
def FailsAfter (force : BitVec 32) (earlier : List LinkEvent) (call : TrainCall) : Prop :=
  trainings earlier < force.toNat ∨ call.passed = false

instance (force : BitVec 32) (earlier : List LinkEvent) (call : TrainCall) :
    Decidable (FailsAfter force earlier call) :=
  inferInstanceAs (Decidable (_ ∨ _))

/-- How many trainings have failed since the last one that counts as passed. -/
def failedInARow (force : BitVec 32) : List LinkEvent → Nat
  | [] => 0
  | .program _ :: earlier => failedInARow force earlier
  | .train call :: earlier =>
      if FailsAfter force earlier call then failedInARow force earlier + 1 else 0

/-- A failed training that ends the retraining: long pulses are not ignored, and it is
at least the second failure in a row, as an `int` counts them. -/
structure Strikes (force : BitVec 32) (earlier : List LinkEvent) (call : TrainCall) : Prop where
  fails : FailsAfter force earlier call
  heeded : call.ignoreLongHpd = false
  repeated : 2 ≤ (BitVec.ofNat 32 (failedInARow force (.train call :: earlier))).toInt

/-- The last programming on an eDP output took the table for low power. Where there is
none, it is what was noted before. -/
def LastOnHobl (before : Bool) (log : List Programming) : Prop :=
  match log.find? Programming.edp with
  | none => before = true
  | some last => last.table = .tglComboPhyTransEdpHbr2Hobl

/-- What the members say about the events so far. -/
structure Books (start : Retrain) (history : List LinkEvent) : Prop where
  failures : (start.after history).seqTrainFailures =
    BitVec.ofNat 32 (failedInARow start.forceTrainFailure history)
  failures_toInt : failedInARow start.forceTrainFailure history < 2 ^ 31 →
    (start.after history).seqTrainFailures.toInt = failedInARow start.forceTrainFailure history
  disabled : (start.after history).retrainDisabled = true ↔
    ∃ call earlier, .train call :: earlier <:+ history ∧
      Strikes start.forceTrainFailure earlier call
  failed : (start.after history).hoblFailed = true ↔
    ∃ call earlier, .train call :: earlier <:+ history ∧
      Strikes start.forceTrainFailure earlier call ∧
      LastOnHobl start.hoblActive (start.programmed (.train call :: earlier))
  avoided : ∀ event earlier, event :: earlier <:+ history →
    (start.after earlier).hoblFailed = true →
    ∀ programming ∈ ((start.after earlier).step event).2,
      programming.table ≠ .tglComboPhyTransEdpHbr2Hobl

namespace Retrain

section Programs

variable {s : Retrain} {link : DpLink}

/-- A programming does not change what the next one goes by. -/
theorem vswingProgram_again : (s.vswingProgram link).1.vswingProgram link = s.vswingProgram link := by
  cases hEdp : link.edp <;> simp [vswingProgram, linkOf, hEdp]

/-- All programmings in a row take the table that the first one takes. -/
theorem programs_eq (count : Nat) :
    s.programs link (count + 1) =
      ((s.vswingProgram link).1, List.replicate (count + 1) (s.vswingProgram link).2) := by
  induction count with
  | zero => rfl
  | succ count ih =>
      rw [programs, ih]
      simp only [vswingProgram_again]
      rw [← List.replicate_succ]

/-- A table for low power is not taken once it has failed. -/
theorem vswingProgram_avoids (hFailed : s.hoblFailed = true) :
    (s.vswingProgram link).2.table ≠ .tglComboPhyTransEdpHbr2Hobl := by
  simp only [vswingProgram, linkOf, DpLink.tglGetComboBufTrans, DpLink.tglGetComboBufTransEdp,
    DpLink.tglGetComboBufTransDp, hFailed, Bool.not_true, Bool.and_false, Bool.false_eq_true,
    if_false]
  split_ifs <;> simp

end Programs

section Account

variable {s : Retrain} {passed ignoreLongHpd : Bool}

/-- The failure of one training, by the members. -/
def Counts (s : Retrain) (passed : Bool) : Prop := s.forceTrainFailure ≠ 0 ∨ passed = false

/-- A failure that is heeded and not the first. -/
def endsRetraining (s : Retrain) (ignoreLongHpd : Bool) : Bool :=
  !ignoreLongHpd && decide (2 ≤ s.seqTrainFailures.toInt)

theorem giveUp_eq :
    s.giveUp ignoreLongHpd =
      { s with
        retrainDisabled := s.retrainDisabled || s.endsRetraining ignoreLongHpd
        hoblFailed := s.hoblFailed || s.endsRetraining ignoreLongHpd && s.hoblActive } := by
  rw [giveUp, endsRetraining]
  cases ignoreLongHpd with
  | true => simp
  | false =>
      by_cases hFew : s.seqTrainFailures.toInt < 2
      · have hNot : ¬ 2 ≤ s.seqTrainFailures.toInt := Int.not_le.mpr hFew
        simp [hFew, hNot]
      · have hMany : 2 ≤ s.seqTrainFailures.toInt := Int.not_lt.mp hFew
        cases hActive : s.hoblActive <;> simp [hFew, hMany, hActive]

theorem account_of_not_counts (h : ¬ s.Counts passed) :
    s.account passed ignoreLongHpd = { s with seqTrainFailures := 0 } := by
  simp only [Counts, not_or, not_not, Bool.not_eq_false] at h
  simp [account, h]

/-- What a failed training leaves. -/
theorem account_of_counts (h : s.Counts passed) :
    s.account passed ignoreLongHpd =
      { s with
        forceTrainFailure :=
          if s.forceTrainFailure ≠ 0 then s.forceTrainFailure - 1 else s.forceTrainFailure
        seqTrainFailures := s.seqTrainFailures + 1 }.giveUp ignoreLongHpd := by
  rw [account]
  by_cases hForced : s.forceTrainFailure ≠ 0
  · rw [if_pos hForced, if_pos hForced]
  · rw [if_neg hForced, if_neg hForced, h.resolve_left hForced, if_neg Bool.false_ne_true]

end Account

theorem step_program {s : Retrain} {link : DpLink} :
    s.step (.program link) =
      ((s.vswingProgram link).1, List.replicate (0 + 1) (s.vswingProgram link).2) :=
  programs_eq 0

theorem step_train {s : Retrain} {call : TrainCall} :
    s.step (.train call) =
      ((s.vswingProgram call.link).1.account call.passed call.ignoreLongHpd,
        List.replicate (call.updates + 1) (s.vswingProgram call.link).2) := by
  rw [step, startLinkTrain, programs_eq]

end Retrain

section Suffixes

variable {event : LinkEvent} {history : List LinkEvent}
  {P : TrainCall → List LinkEvent → Prop}

/-- A training among some events is the latest of them or one of the others. -/
theorem exists_training_cons :
    (∃ call earlier, .train call :: earlier <:+ event :: history ∧ P call earlier) ↔
      (∃ call, event = .train call ∧ P call history) ∨
        ∃ call earlier, .train call :: earlier <:+ history ∧ P call earlier := by
  simp only [List.suffix_cons_iff, List.cons.injEq, or_and_right, exists_or]
  refine or_congr ?_ Iff.rfl
  constructor
  · rintro ⟨call, _, ⟨rfl, rfl⟩, h⟩
    exact ⟨call, rfl, h⟩
  · rintro ⟨call, rfl, h⟩
    exact ⟨call, history, ⟨rfl, rfl⟩, h⟩

theorem not_exists_training_nil :
    ¬ ∃ call earlier, .train call :: earlier <:+ ([] : List LinkEvent) ∧ P call earlier := by
  simp

end Suffixes

namespace Retrain

section Run

variable {start : Retrain} {history earlier : List LinkEvent} {call : TrainCall}

/-- A programming brings the note about the table up to date. -/
theorem lastOnHobl_programmed {s : Retrain} {link : DpLink} {before : Bool}
    {log : List Programming} (count : Nat) (h : s.hoblActive = true ↔ LastOnHobl before log) :
    (s.vswingProgram link).1.hoblActive = true ↔
      LastOnHobl before (List.replicate (count + 1) (s.vswingProgram link).2 ++ log) := by
  cases hEdp : link.edp with
  | true => simp [LastOnHobl, vswingProgram, hEdp, List.replicate_succ]
  | false =>
      have hNone : (List.replicate (count + 1) (s.vswingProgram link).2).find? Programming.edp =
          none := by
        simp [vswingProgram, hEdp]
      rw [LastOnHobl, List.find?_append, hNone, Option.none_or]
      simpa only [LastOnHobl, vswingProgram, hEdp, Bool.false_eq_true, if_false] using h

theorem account_hoblActive {s : Retrain} {passed ignoreLongHpd : Bool} :
    (s.account passed ignoreLongHpd).hoblActive = s.hoblActive := by
  by_cases hCounts : s.Counts passed
  · rw [account_of_counts hCounts, giveUp_eq]
  · rw [account_of_not_counts hCounts]

theorem toNat_account_forceTrainFailure {s : Retrain} {passed ignoreLongHpd : Bool} :
    (s.account passed ignoreLongHpd).forceTrainFailure.toNat = s.forceTrainFailure.toNat - 1 := by
  by_cases hForced : s.forceTrainFailure ≠ 0
  · rw [account_of_counts (Or.inl hForced), giveUp_eq]
    have hPos : s.forceTrainFailure.toNat ≠ 0 := fun hZero => hForced (BitVec.eq_of_toNat_eq hZero)
    have hLt := s.forceTrainFailure.isLt
    simp only [if_pos hForced]
    have hOne : (1 : BitVec 32).toNat = 1 := rfl
    rw [BitVec.toNat_sub, hOne]
    omega
  · have hZero : s.forceTrainFailure = 0 := not_not.mp hForced
    rw [account, if_neg hForced]
    split <;> simp [giveUp_eq, hZero]

/-- `hobl_active` is about the last programming on an eDP output. -/
theorem hoblActive_iff :
    (start.after history).hoblActive = true ↔
      LastOnHobl start.hoblActive (start.programmed history) := by
  induction history with
  | nil => rfl
  | cons event earlier ih =>
      rw [after, programmed]
      cases event with
      | program link =>
          rw [step_program]
          exact lastOnHobl_programmed 0 ih
      | train call =>
          rw [step_train, account_hoblActive]
          exact lastOnHobl_programmed call.updates ih

/-- Every training uses up one failure that was asked for. -/
theorem forceTrainFailure_eq :
    (start.after history).forceTrainFailure.toNat =
      start.forceTrainFailure.toNat - trainings history := by
  induction history with
  | nil => rfl
  | cons event earlier ih =>
      rw [after]
      cases event with
      | program link =>
          rw [step_program]
          exact ih
      | train call =>
          rw [step_train, trainings, Nat.sub_add_eq, ← ih]
          exact toNat_account_forceTrainFailure

/-- The members tell whether a training counts as failed. -/
theorem counts_iff :
    ((start.after earlier).vswingProgram call.link).1.Counts call.passed ↔
      FailsAfter start.forceTrainFailure earlier call := by
  refine or_congr_left ?_
  have hForce := @forceTrainFailure_eq start earlier
  have hZero : (start.after earlier).forceTrainFailure = 0 ↔
      (start.after earlier).forceTrainFailure.toNat = 0 :=
    BitVec.toNat_inj.symm
  change (start.after earlier).forceTrainFailure ≠ 0 ↔ _
  rw [ne_eq, hZero, hForce]
  omega

/-- `seq_train_failures` counts the failures in a row, as far as it goes. -/
theorem seqTrainFailures_eq (hSeq : start.seqTrainFailures = 0) :
    (start.after history).seqTrainFailures =
      BitVec.ofNat 32 (failedInARow start.forceTrainFailure history) := by
  induction history with
  | nil => exact hSeq
  | cons event earlier ih =>
      rw [after]
      cases event with
      | program link =>
          rw [step_program]
          exact ih
      | train call =>
          rw [step_train, failedInARow]
          by_cases hFails : FailsAfter start.forceTrainFailure earlier call
          · rw [if_pos hFails, account_of_counts (counts_iff.mpr hFails), giveUp_eq, BitVec.ofNat_add,
              ← ih]
            rfl
          · rw [if_neg hFails, account_of_not_counts (counts_iff.not.mpr hFails)]
            rfl

/-- What a training does to the two flags that stay. -/
theorem flags_train (hSeq : start.seqTrainFailures = 0) :
    ((start.after (.train call :: earlier)).retrainDisabled = true ↔
        Strikes start.forceTrainFailure earlier call ∨ (start.after earlier).retrainDisabled = true) ∧
      ((start.after (.train call :: earlier)).hoblFailed = true ↔
        Strikes start.forceTrainFailure earlier call ∧
            LastOnHobl start.hoblActive (start.programmed (.train call :: earlier)) ∨
          (start.after earlier).hoblFailed = true) := by
  have hActive := @hoblActive_iff start (.train call :: earlier)
  have hCount := @seqTrainFailures_eq start (.train call :: earlier) hSeq
  rw [← hActive]
  rw [after, step_train] at hCount ⊢
  by_cases hFails : FailsAfter start.forceTrainFailure earlier call
  · have hStrikes : Strikes start.forceTrainFailure earlier call ↔
        call.ignoreLongHpd = false ∧
          2 ≤ (BitVec.ofNat 32
            (failedInARow start.forceTrainFailure (.train call :: earlier))).toInt :=
      ⟨fun h => ⟨h.heeded, h.repeated⟩, fun h => ⟨hFails, h.1, h.2⟩⟩
    rw [account_of_counts (counts_iff.mpr hFails), giveUp_eq] at hCount ⊢
    rw [hStrikes, ← hCount]
    simp only [endsRetraining, Bool.or_eq_true, Bool.and_eq_true, Bool.not_eq_true',
      decide_eq_true_eq]
    exact ⟨or_comm, or_comm⟩
  · have hNot : ¬ Strikes start.forceTrainFailure earlier call := fun h => hFails h.fails
    rw [account_of_not_counts (counts_iff.not.mpr hFails)]
    exact ⟨(or_iff_right hNot).symm, (or_iff_right fun h => hNot h.1).symm⟩

theorem flags_program {link : DpLink} :
    (start.after (.program link :: earlier)).retrainDisabled = (start.after earlier).retrainDisabled ∧
      (start.after (.program link :: earlier)).hoblFailed = (start.after earlier).hoblFailed := by
  rw [after, step_program]
  exact ⟨rfl, rfl⟩

theorem retrainDisabled_iff (hSeq : start.seqTrainFailures = 0)
    (hDisabled : start.retrainDisabled = false) :
    (start.after history).retrainDisabled = true ↔
      ∃ call earlier, .train call :: earlier <:+ history ∧
        Strikes start.forceTrainFailure earlier call := by
  induction history with
  | nil => exact iff_of_false (by simp [after, hDisabled]) not_exists_training_nil
  | cons event earlier ih =>
      rw [exists_training_cons, ← ih]
      cases event with
      | program link => simp [flags_program.1]
      | train call => simp [(flags_train hSeq).1]

theorem hoblFailed_iff (hSeq : start.seqTrainFailures = 0) (hFailed : start.hoblFailed = false) :
    (start.after history).hoblFailed = true ↔
      ∃ call earlier, .train call :: earlier <:+ history ∧
        Strikes start.forceTrainFailure earlier call ∧
        LastOnHobl start.hoblActive (start.programmed (.train call :: earlier)) := by
  induction history with
  | nil => exact iff_of_false (by simp [after, hFailed]) not_exists_training_nil
  | cons event earlier ih =>
      rw [exists_training_cons, ← ih]
      cases event with
      | program link => simp [flags_program.2]
      | train call => simp [(flags_train hSeq).2]

/-- A step after the table for low power has failed does not take it. -/
theorem step_avoids {s : Retrain} {event : LinkEvent} (hFailed : s.hoblFailed = true) :
    ∀ programming ∈ (s.step event).2, programming.table ≠ .tglComboPhyTransEdpHbr2Hobl := by
  intro programming hMem
  cases event with
  | program link =>
      rw [step_program] at hMem
      rw [List.eq_of_mem_replicate hMem]
      exact vswingProgram_avoids hFailed
  | train call =>
      rw [step_train] at hMem
      rw [List.eq_of_mem_replicate hMem]
      exact vswingProgram_avoids hFailed

end Run

end Retrain

/-- The books are kept over all trainings and programmings, whatever the links, the
outcomes and the forced failures are. -/
theorem retrain_books (start : Retrain) (hSeq : start.seqTrainFailures = 0)
    (hDisabled : start.retrainDisabled = false) (hFailed : start.hoblFailed = false)
    (history : List LinkEvent) : Books start history where
  failures := Retrain.seqTrainFailures_eq hSeq
  failures_toInt := by
    intro hFew
    rw [Retrain.seqTrainFailures_eq hSeq, BitVec.toInt_eq_toNat_of_lt] <;>
      rw [BitVec.toNat_ofNat] <;> omega
  disabled := Retrain.retrainDisabled_iff hSeq hDisabled
  failed := Retrain.hoblFailed_iff hSeq hFailed
  avoided := fun _ _ _ h => Retrain.step_avoids h

/-- The members of a cleared structure. -/
def clearedRetrain : Retrain where
  seqTrainFailures := 0
  forceTrainFailure := 0
  retrainDisabled := false
  hoblFailed := false
  hoblActive := false

/-- A training that fails. -/
def failing (link : DpLink) : LinkEvent := .train ⟨link, 0, false, false⟩

theorem after_two_failures :
    (clearedRetrain.after [failing hoblLink, failing hoblLink]).hoblFailed = true ∧
      ∀ programming ∈ ((clearedRetrain.after [failing hoblLink, failing hoblLink]).step
        (failing hoblLink)).2, programming.table ≠ .tglComboPhyTransEdpHbr2Hobl := by
  have books := retrain_books clearedRetrain rfl rfl rfl
    [failing hoblLink, failing hoblLink, failing hoblLink]
  have hFailed : (clearedRetrain.after [failing hoblLink, failing hoblLink]).hoblFailed = true := by
    decide
  exact ⟨hFailed, books.avoided _ _ List.suffix_rfl hFailed⟩

theorem failedInARow_failing {link : DpLink} (count : Nat) :
    failedInARow 0 (List.replicate count (failing link)) = count := by
  induction count with
  | zero => rfl
  | succ count ih =>
      rw [List.replicate_succ, failing, failedInARow, ← failing, ih]
      exact if_pos (Or.inr rfl)

/-- The counter does not hold the number of failures when there are too many, and the
table for low power can fail without having been taken, if it was noted before. -/
theorem counter_wraps_and_note_stays :
    (clearedRetrain.after (List.replicate (2 ^ 31) (failing hoblLink))).seqTrainFailures.toInt ≠
        failedInARow 0 (List.replicate (2 ^ 31) (failing hoblLink)) ∧
      let start := { clearedRetrain with hoblActive := true }
      let calls := List.replicate 2 (failing { hoblLink with edp := false })
      (start.after calls).hoblFailed = true ∧
        ∀ programming ∈ start.programmed calls,
          programming.edp = false ∧ programming.table ≠ .tglComboPhyTransEdpHbr2Hobl := by
  constructor
  · rw [Retrain.seqTrainFailures_eq rfl]
    change (BitVec.ofNat 32 (failedInARow 0 _)).toInt ≠ _
    rw [failedInARow_failing]
    decide
  · decide

end NootedBlue.Link
