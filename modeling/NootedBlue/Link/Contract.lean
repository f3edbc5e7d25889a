import NootedBlue.Link.Training

/-! What a training run promises, whatever the sink answers: it ends after a
bounded number of status reads, it succeeds only on a link that reports
success, an error on the AUX channel is a failure, and clock recovery gives up
for one of three reasons. -/
namespace NootedBlue.Link

open Interaction

abbrev AuxExchange := Exchange AuxAnswer

namespace AuxExchange

/-- The number that an AUX transfer returned. -/
def ret : AuxExchange → Int
  | ⟨.readStatus, answer⟩ => answer.1
  | ⟨.write _ _, answer⟩ => answer

/-- The status that was read. -/
def status : AuxExchange → Option LinkStatus
  | ⟨.readStatus, answer⟩ => some answer.2
  | ⟨.write _ _, _⟩ => none

end AuxExchange

/-- The status reads of a transcript, in order. -/
def statuses (transcript : Transcript AuxAnswer) : List LinkStatus :=
  transcript.filterMap AuxExchange.status

/-- Some AUX transfer reported an error. -/
def Failed (transcript : Transcript AuxAnswer) : Prop :=
  ∃ exchange ∈ transcript, AuxExchange.ret exchange < 0

section Transcripts

variable {transcript rest : Transcript AuxAnswer} {answer : Int × LinkStatus} {written : Int}
  {register : Nat} {bytes : List Nat}

@[simp] theorem statuses_nil : statuses [] = [] := rfl

@[simp] theorem statuses_read :
    statuses (⟨.readStatus, answer⟩ :: rest) = answer.2 :: statuses rest := rfl

@[simp] theorem statuses_write :
    statuses (⟨.write register bytes, written⟩ :: rest) = statuses rest := rfl

@[simp] theorem statuses_append :
    statuses (transcript ++ rest) = statuses transcript ++ statuses rest :=
  List.filterMap_append

@[simp] theorem not_failed_nil : ¬Failed [] := by simp [Failed]

@[simp] theorem failed_read :
    Failed (⟨.readStatus, answer⟩ :: rest) ↔ answer.1 < 0 ∨ Failed rest := by
  simp [Failed, AuxExchange.ret]

@[simp] theorem failed_write :
    Failed (⟨.write register bytes, written⟩ :: rest) ↔ written < 0 ∨ Failed rest := by
  simp [Failed, AuxExchange.ret]

@[simp] theorem failed_append : Failed (transcript ++ rest) ↔ Failed transcript ∨ Failed rest := by
  simp only [Failed, List.mem_append, or_and_right, exists_or]

end Transcripts

/-- The sink asks for the same as before on every active lane. -/
def Unchanged (link : DpLink) (old new : LinkStatus) : Prop :=
  ∀ lane < link.lanes.toNat, request old lane = request new lane

/-- A drive setting is at its maximum: the flag for the swing is set, and swing
and pre-emphasis add up to 3. With a UHBR port clock, which has neither, it is
the last preset. -/
def AtMaximum (link : DpLink) (setting : Nat) : Prop :=
  if link.isUhbr then setting % 16 = 15
  else setting.testBit 2 = true ∧ swing setting + preEmphasis setting = 3

/-- Every active lane is at its maximum after the answer to a status. -/
def MaximumReached (link : DpLink) (status : LinkStatus) : Prop :=
  ∀ lane < link.lanes.toNat, AtMaximum link (intelDpGetLaneAdjustTrain link status lane)

/-- The latest so many comparisons of an old status with a new one found a
relation between them, in a list that starts with the latest status. -/
def Streak (R : LinkStatus → LinkStatus → Prop) : Nat → List LinkStatus → Prop
  | 0, _ => True
  | count + 1, new :: old :: rest => R old new ∧ Streak R count (old :: rest)
  | _ + 1, _ => False

/-- Another round of clock recovery is pointless, in a history that starts with
the latest status and ends with the zeros that the first one is compared with:
before the last read, four comparisons in a row found no change, or a status
that was read had driven all lanes to their maximum. -/
def NoProgress (link : DpLink) (history : List LinkStatus) : Prop :=
  (∃ last earlier, history = last :: earlier ∧ Streak (Unchanged link) 4 earlier) ∨
    ∃ last status earlier, history = last :: status :: earlier ∧ earlier ≠ [] ∧
      MaximumReached link status

/-- Why clock recovery gives up after some status reads. -/
def GaveUp (link : DpLink) (read : List LinkStatus) : Prop :=
  read.length = link.maxCrTries ∨ NoProgress link (LinkStatus.zero :: read).reverse

section Comparison

variable {link : DpLink}

/-- What the comparison of two statuses is about. With a UHBR port clock the
driver compares a preset with a swing and a pre-emphasis. -/
theorem not_changed_iff {old new : LinkStatus} :
    intelDpAdjustRequestChanged link old new = false ↔
      ∀ lane < link.lanes.toNat,
        (if link.isUhbr then request old lane
          else request old lane / 4 * 8 + request old lane % 4) =
          request new lane / 4 * 8 + request new lane % 4 := by
  simp only [intelDpAdjustRequestChanged, List.any_eq_false, List.mem_range, decide_eq_true_eq,
    ne_eq, not_not, adjustRequest_eq, txFfePreset_eq_request]

/-- Two comparisons in a row that find no change are right about it, also with a
UHBR port clock. -/
theorem unchanged_of_not_changed_twice {a b c : LinkStatus}
    (h₁ : intelDpAdjustRequestChanged link a b = false)
    (h₂ : intelDpAdjustRequestChanged link b c = false) :
    Unchanged link a b ∧ Unchanged link b c := by
  have hLane : ∀ lane < link.lanes.toNat,
      request a lane = request b lane ∧ request b lane = request c lane := by
    intro lane hActive
    have hFirst := not_changed_iff.mp h₁ lane hActive
    have hSecond := not_changed_iff.mp h₂ lane hActive
    have hA := request_lt a lane
    have hB := request_lt b lane
    have hC := request_lt c lane
    by_cases hUhbr : link.isUhbr
    · rw [if_pos hUhbr] at hFirst hSecond
      omega
    · rw [if_neg hUhbr] at hFirst hSecond
      omega
  exact ⟨fun lane hActive => (hLane lane hActive).1, fun lane hActive => (hLane lane hActive).2⟩

/-- The comparison of the driver finds no change. -/
def Same (link : DpLink) (old new : LinkStatus) : Prop :=
  intelDpAdjustRequestChanged link old new = false

theorem streak_unchanged {history : List LinkStatus} (h : Streak (Same link) 4 history) :
    Streak (Unchanged link) 4 history := by
  match history with
  | [] | [_] => exact h.elim
  | [_, _] | [_, _, _] | [_, _, _, _] => simp [Streak] at h
  | e :: d :: c :: b :: a :: _ =>
      obtain ⟨hDE, hCD, hBC, hAB, -⟩ := h
      have hLater := unchanged_of_not_changed_twice hCD hDE
      have hEarlier := unchanged_of_not_changed_twice hAB hBC
      exact ⟨hLater.2, hLater.1, hEarlier.2, hEarlier.1, trivial⟩

theorem laneMaximum_iff {setting : Nat} :
    (if link.isUhbr then intelDpLaneMaxTxFfeReached else intelDpLaneMaxVswingReached) setting = true ↔
      AtMaximum link setting := by
  unfold AtMaximum
  by_cases hUhbr : link.isUhbr
  · rw [if_pos hUhbr, if_pos hUhbr, intelDpLaneMaxTxFfeReached, decide_eq_true_eq]
    have hMask : (0xF : Nat) = 2 ^ 4 - 1 := rfl
    rw [hMask, Nat.and_two_pow_sub_one_eq_mod]
  · rw [if_neg hUhbr, if_neg hUhbr, intelDpLaneMaxVswingReached, Bool.and_eq_true,
      decide_eq_true_eq, decide_eq_true_eq]
    apply and_congr_left
    intro _
    have hFlag : dpTrainMaxSwingReached = 2 ^ 2 := rfl
    rw [hFlag, Nat.and_two_pow]
    cases setting.testBit 2 <;> simp

theorem maximumReached_iff {status : LinkStatus} {trainSet : TrainSet} :
    intelDpLinkMaxVswingReached link (intelDpGetAdjustTrain link status trainSet) = true ↔
      MaximumReached link status := by
  rw [intelDpLinkMaxVswingReached, LaneCount.all_active_iff]
  simp only [adjustTrain_apply, laneMaximum_iff]
  constructor
  · intro h lane hActive
    exact h ⟨lane, hActive.trans_le link.lanes.toNat_le_four⟩ hActive
  · intro h lane hActive
    exact h lane hActive

end Comparison

section ClockRecovery

variable {link : DpLink}

/-- What one round of clock recovery can do. -/
inductive Recovered (link : DpLink) (s : Recovery) :
    Transcript AuxAnswer → Iteration Recovery (Option TrainSet) → Prop where
  | readFailed {ret : Int} (status : LinkStatus) (hRet : ret < 0) :
      Recovered link s [⟨.readStatus, (ret, status)⟩] (.stop none)
  | succeeded {ret : Int} {status : LinkStatus} (hRet : 0 ≤ ret)
      (hRecovered : ClockRecovered status link.lanes) :
      Recovered link s [⟨.readStatus, (ret, status)⟩] (.stop (some s.trainSet))
  | gaveUp {ret : Int} (status : LinkStatus)
      (hReason : s.voltageTries = 5 ∨ s.maxVswingReached = true) :
      Recovered link s [⟨.readStatus, (ret, status)⟩] (.stop none)
  | writeFailed {ret written : Int} {bytes : List Nat} (status : LinkStatus) (hWritten : written < 0) :
      Recovered link s [⟨.readStatus, (ret, status)⟩, ⟨.write dpTrainingLane0Set bytes, written⟩]
        (.stop none)
  | adjusted {ret written : Int} {bytes : List Nat} (status : LinkStatus) (hRet : 0 ≤ ret)
      (hWritten : 0 ≤ written) (hTries : s.voltageTries ≠ 5) (hMaximum : s.maxVswingReached = false) :
      Recovered link s [⟨.readStatus, (ret, status)⟩, ⟨.write dpTrainingLane0Set bytes, written⟩]
        (.next (s.after link status))

/-- A write succeeds when its number is not negative. -/
theorem plays_update {ρ : Type} {trainSet : TrainSet} {success failure result : ρ}
    {transcript : Transcript AuxAnswer}
    (plays : Plays (do
      let written ← intelDpUpdateLinkTrain link trainSet
      return if written then success else failure) transcript result) :
    ∃ written,
      transcript = [⟨.write dpTrainingLane0Set (link.lanes.active trainSet), written⟩] ∧
        (0 ≤ written ∧ result = success ∨ written < 0 ∧ result = failure) := by
  obtain ⟨written, rest, rfl, later⟩ := plays_call_iff.mp plays
  obtain ⟨rfl, rfl⟩ := plays_done_iff.mp later
  refine ⟨written, rfl, ?_⟩
  by_cases hWritten : 0 ≤ written
  · exact .inl ⟨hWritten, by simp [hWritten]⟩
  · exact .inr ⟨Int.not_le.mp hWritten, by simp [hWritten]⟩

theorem recovered_of_plays {s : Recovery} {transcript : Transcript AuxAnswer}
    {iteration : Iteration Recovery (Option TrainSet)}
    (plays : Plays (recoverOnce link s) transcript iteration) :
    Recovered link s transcript iteration := by
  obtain ⟨⟨ret, status⟩, rest, rfl, later⟩ := plays_call_iff.mp plays
  change Plays (recoverFrom link s ret status) rest iteration at later
  unfold recoverFrom at later
  split at later
  · next hRet =>
      obtain ⟨rfl, rfl⟩ := plays_done_iff.mp later
      exact .readFailed status hRet
  · next hRet =>
      split at later
      · next hOk =>
          obtain ⟨rfl, rfl⟩ := plays_done_iff.mp later
          exact .succeeded (Int.not_lt.mp hRet) ((drmDpClockRecoveryOk_iff _ _).mp hOk)
      · split at later
        · next hTries =>
            obtain ⟨rfl, rfl⟩ := plays_done_iff.mp later
            exact .gaveUp status (.inl hTries)
        · next hTries =>
            split at later
            · next hMaximum =>
                obtain ⟨rfl, rfl⟩ := plays_done_iff.mp later
                exact .gaveUp status (.inr hMaximum)
            · next hMaximum =>
                obtain ⟨written, rfl, hResult⟩ := plays_update later
                cases hResult with
                | inl hSuccess =>
                    rw [hSuccess.2]
                    exact .adjusted status (Int.not_lt.mp hRet) hSuccess.1 hTries
                      (Bool.eq_false_iff.mpr hMaximum)
                | inr hFailure =>
                    rw [hFailure.2]
                    exact .writeFailed status hFailure.1

@[simp] theorem Recovery.after_oldLinkStatus (s : Recovery) (status : LinkStatus) :
    (s.after link status).oldLinkStatus = status := rfl

/-- What the local variables say about the statuses so far, the latest of which
is the old one. -/
structure Recovery.Tracks (link : DpLink) (earlier : List LinkStatus) (s : Recovery) : Prop where
  streak : ∃ count, s.voltageTries = count + 1 ∧
    Streak (Same link) count (s.oldLinkStatus :: earlier)
  maximum : s.maxVswingReached = true → earlier ≠ [] ∧ MaximumReached link s.oldLinkStatus

namespace Recovery.Tracks

variable {s : Recovery} {earlier : List LinkStatus}

theorem initial : Recovery.initial.Tracks link [] where
  streak := ⟨0, rfl, trivial⟩
  maximum := fun h => absurd h Bool.false_ne_true

theorem after (tracks : s.Tracks link earlier) (hMaximum : s.maxVswingReached = false)
    (status : LinkStatus) : (s.after link status).Tracks link (s.oldLinkStatus :: earlier) where
  streak := by
    obtain ⟨count, hTries, hStreak⟩ := tracks.streak
    by_cases hChanged : intelDpAdjustRequestChanged link s.oldLinkStatus status
    · exact ⟨0, by rw [Recovery.after, if_pos hChanged], trivial⟩
    · refine ⟨count + 1, ?_, Bool.eq_false_iff.mpr hChanged, hStreak⟩
      rw [Recovery.after, if_neg hChanged, hTries]
  maximum := by
    intro h
    rw [Recovery.after, hMaximum, Bool.false_or] at h
    exact ⟨List.cons_ne_nil _ _, maximumReached_iff.mp h⟩

theorem noProgress (tracks : s.Tracks link earlier)
    (hReason : s.voltageTries = 5 ∨ s.maxVswingReached = true) (status : LinkStatus) :
    NoProgress link (status :: s.oldLinkStatus :: earlier) := by
  cases hReason with
  | inl hTries =>
      obtain ⟨count, hCount, hStreak⟩ := tracks.streak
      have hFour : count = 4 := by omega
      rw [hFour] at hStreak
      exact .inl ⟨status, _, rfl, streak_unchanged hStreak⟩
  | inr hMaximum =>
      have hReached := tracks.maximum hMaximum
      exact .inr ⟨status, _, _, rfl, hReached.1, hReached.2⟩

end Recovery.Tracks

/-- What the loop of clock recovery does from a state on. -/
structure RecoveryRun (link : DpLink) (tries : Nat) (history : List LinkStatus)
    (transcript : Transcript AuxAnswer) (result : Option TrainSet) : Prop where
  reads : (statuses transcript).length ≤ tries
  recovered : result ≠ none →
    ¬Failed transcript ∧ ∃ status ∈ statuses transcript, ClockRecovered status link.lanes
  gaveUp : result = none → ¬Failed transcript → (statuses transcript).length = tries ∨
    NoProgress link ((statuses transcript).reverse ++ history)

namespace RecoveryRun

variable {s : Recovery} {earlier : List LinkStatus} {tries : Nat} {transcript : Transcript AuxAnswer}

/-- A round that stops. -/
theorem stop {value : Option TrainSet} (tracks : s.Tracks link earlier)
    (round : Recovered link s transcript (.stop value)) :
    RecoveryRun link (tries + 1) (s.oldLinkStatus :: earlier) transcript value := by
  cases round with
  | readFailed status hRet =>
      exact {
        reads := by simp
        recovered := fun h => absurd rfl h
        gaveUp := fun _ hNot => absurd (failed_read.mpr (.inl hRet)) hNot }
  | @succeeded ret status hRet hRecovered =>
      exact {
        reads := by simp
        recovered := fun _ => ⟨by simp [hRet], status, by simp, hRecovered⟩
        gaveUp := fun h => absurd h (Option.some_ne_none _) }
  | gaveUp status hReason =>
      exact {
        reads := by simp
        recovered := fun h => absurd rfl h
        gaveUp := fun _ _ => .inr (tracks.noProgress hReason status) }
  | writeFailed status hWritten =>
      exact {
        reads := by simp
        recovered := fun h => absurd rfl h
        gaveUp := fun _ hNot => absurd (by simp [hWritten]) hNot }

/-- A round that goes on. -/
theorem next {t : Recovery} {first : Transcript AuxAnswer} {result : Option TrainSet}
    (round : Recovered link s first (.next t))
    (run : RecoveryRun link tries (t.oldLinkStatus :: s.oldLinkStatus :: earlier) transcript result) :
    RecoveryRun link (tries + 1) (s.oldLinkStatus :: earlier) (first ++ transcript) result := by
  cases round with
  | adjusted status hRet hWritten hTries hMaximum =>
      exact {
        reads := by
          have hReads := run.reads
          simpa using hReads
        recovered := by
          intro hSome
          obtain ⟨hNot, status', hRead, hRecovered⟩ := run.recovered hSome
          refine ⟨?_, status', ?_, hRecovered⟩
          · simp [hRet, hWritten, hNot]
          · simp [hRead]
        gaveUp := by
          intro hNone hNot
          have hRest : ¬Failed transcript := fun h => hNot (failed_append.mpr (.inr h))
          cases run.gaveUp hNone hRest with
          | inl hTries =>
              apply Or.inl
              simpa using hTries
          | inr hProgress =>
              apply Or.inr
              simpa using hProgress }

theorem of_plays {result : Option (Option TrainSet)} (tracks : s.Tracks link earlier)
    (plays : Plays (loop (recoverOnce link) tries s) transcript result) :
    RecoveryRun link tries (s.oldLinkStatus :: earlier) transcript result.join := by
  revert earlier
  -- The earlier statuses grow from round to round, so the property is about all of them.
  apply plays_loop_rule ?_ ?_ ?_ plays
  · intro s earlier _
    exact {
      reads := Nat.le_refl 0
      recovered := fun h => absurd rfl h
      gaveUp := fun _ _ => .inl rfl }
  · intro tries s transcript value round earlier tracks
    exact .stop tracks (recovered_of_plays round)
  · intro tries s first t rest result round ih earlier tracks
    have hRound := recovered_of_plays round
    apply RecoveryRun.next hRound
    cases hRound with
    | adjusted status _ _ _ hMaximum => exact ih (tracks.after hMaximum status)

end RecoveryRun

/-- Either phase first writes its pattern, and goes on if that succeeds. -/
theorem plays_pattern {ρ : Type} {pattern : Nat} {trainSet : TrainSet} {phase : Training ρ}
    {failure result : ρ} {transcript : Transcript AuxAnswer}
    (plays : Plays (do
      let written ← intelDpSetLinkTrain link pattern trainSet
      if written then phase else return failure) transcript result) :
    ∃ written rest,
      transcript = ⟨.write dpTrainingPatternSet (pattern :: link.lanes.active trainSet), written⟩ ::
        rest ∧
      (0 ≤ written ∧ Plays phase rest result ∨ written < 0 ∧ rest = [] ∧ result = failure) := by
  obtain ⟨written, rest, rfl, later⟩ := plays_call_iff.mp plays
  refine ⟨written, rest, rfl, ?_⟩
  change Plays (if decide (written ≥ 0) = true then phase else .done failure) rest result at later
  by_cases hWritten : 0 ≤ written
  · rw [if_pos (decide_eq_true hWritten)] at later
    exact .inl ⟨hWritten, later⟩
  · rw [if_neg (by simpa using hWritten)] at later
    exact .inr ⟨Int.not_le.mp hWritten, plays_done_iff.mp later⟩

theorem recoveryRun_clockRecovery {transcript : Transcript AuxAnswer} {result : Option TrainSet}
    (plays : Plays (clockRecovery link) transcript result) :
    RecoveryRun link link.maxCrTries [.zero] transcript result := by
  obtain ⟨written, rest, rfl, hWritten⟩ := plays_pattern plays
  cases hWritten with
  | inl hSuccess =>
      obtain ⟨first, last, value, rfl, hLoop, hJoin⟩ := plays_bind_iff.mp hSuccess.2
      obtain ⟨rfl, rfl⟩ := plays_done_iff.mp hJoin
      have run := RecoveryRun.of_plays Recovery.Tracks.initial hLoop
      rw [List.append_nil]
      exact {
        reads := run.reads
        recovered := by
          intro hSome
          have hRecovered := run.recovered hSome
          exact ⟨by simp [hSuccess.1, hRecovered.1], hRecovered.2⟩
        gaveUp := by
          intro hNone hNot
          exact run.gaveUp hNone (fun h => hNot (failed_write.mpr (.inr h))) }
  | inr hFailure =>
      obtain ⟨hNegative, rfl, rfl⟩ := hFailure
      exact {
        reads := Nat.zero_le _
        recovered := fun h => absurd rfl h
        gaveUp := fun _ hNot => absurd (failed_write.mpr (.inl hNegative)) hNot }

end ClockRecovery

section Equalisation

variable {link : DpLink} {trainSet : TrainSet} {transcript : Transcript AuxAnswer}

/-- What one round of channel equalisation can do. -/
inductive EqualisedOnce (link : DpLink) :
    Transcript AuxAnswer → Iteration TrainSet Bool → Prop where
  | gaveUp (answer : Int × LinkStatus) : EqualisedOnce link [⟨.readStatus, answer⟩] (.stop false)
  | succeeded {ret : Int} {status : LinkStatus} (hRet : 0 ≤ ret)
      (hEqualised : Equalised status link.lanes) :
      EqualisedOnce link [⟨.readStatus, (ret, status)⟩] (.stop true)
  | writeFailed (answer : Int × LinkStatus) (written : Int) (bytes : List Nat) :
      EqualisedOnce link [⟨.readStatus, answer⟩, ⟨.write dpTrainingLane0Set bytes, written⟩]
        (.stop false)
  | adjusted {ret written : Int} {bytes : List Nat} (status : LinkStatus) (next : TrainSet)
      (hRet : 0 ≤ ret) (hWritten : 0 ≤ written) :
      EqualisedOnce link [⟨.readStatus, (ret, status)⟩, ⟨.write dpTrainingLane0Set bytes, written⟩]
        (.next next)

theorem equalisedOnce_of_plays {iteration : Iteration TrainSet Bool}
    (plays : Plays (equaliseOnce link trainSet) transcript iteration) :
    EqualisedOnce link transcript iteration := by
  obtain ⟨⟨ret, status⟩, rest, rfl, later⟩ := plays_call_iff.mp plays
  change Plays (equaliseFrom link trainSet ret status) rest iteration at later
  unfold equaliseFrom at later
  split at later
  · obtain ⟨rfl, rfl⟩ := plays_done_iff.mp later
    exact .gaveUp _
  · next hRet =>
      split at later
      · obtain ⟨rfl, rfl⟩ := plays_done_iff.mp later
        exact .gaveUp _
      · split at later
        · next hOk =>
            obtain ⟨rfl, rfl⟩ := plays_done_iff.mp later
            exact .succeeded (Int.not_lt.mp hRet) ((drmDpChannelEqOk_iff _ _).mp hOk)
        · obtain ⟨written, rfl, hResult⟩ := plays_update later
          cases hResult with
          | inl hSuccess =>
              rw [hSuccess.2]
              exact .adjusted status _ (Int.not_lt.mp hRet) hSuccess.1
          | inr hFailure =>
              rw [hFailure.2]
              exact .writeFailed _ written _

/-- What the loop of channel equalisation does. -/
structure EqualisationRun (link : DpLink) (tries : Nat) (transcript : Transcript AuxAnswer)
    (result : Bool) : Prop where
  reads : (statuses transcript).length ≤ tries
  equalised : result = true → ¬Failed transcript ∧
    ∃ status, (statuses transcript).getLast? = some status ∧ Equalised status link.lanes

namespace EqualisationRun

variable {tries : Nat}

theorem stop {value : Bool} (round : EqualisedOnce link transcript (.stop value)) :
    EqualisationRun link (tries + 1) transcript value := by
  cases round with
  | gaveUp answer =>
      exact {
        reads := by simp
        equalised := fun h => absurd h Bool.false_ne_true }
  | @succeeded ret status hRet hEqualised =>
      exact {
        reads := by simp
        equalised := fun _ => ⟨by simp [hRet], status, rfl, hEqualised⟩ }
  | writeFailed answer written bytes =>
      exact {
        reads := by simp
        equalised := fun h => absurd h Bool.false_ne_true }

theorem next {first : Transcript AuxAnswer} {value : TrainSet} {result : Bool}
    (round : EqualisedOnce link first (.next value))
    (run : EqualisationRun link tries transcript result) :
    EqualisationRun link (tries + 1) (first ++ transcript) result := by
  cases round with
  | adjusted status _ hRet hWritten =>
      exact {
        reads := by
          have hReads := run.reads
          simpa using hReads
        equalised := by
          intro hTrue
          obtain ⟨hNot, last, hLast, hEqualised⟩ := run.equalised hTrue
          refine ⟨by simp [hRet, hWritten, hNot], last, ?_, hEqualised⟩
          rw [statuses_append, List.getLast?_append, hLast, Option.some_or] }

theorem of_plays {result : Option Bool}
    (plays : Plays (loop (equaliseOnce link) tries trainSet) transcript result) :
    EqualisationRun link tries transcript (result.getD false) := by
  apply plays_loop_rule ?_ ?_ ?_ plays
  · intro _
    exact {
      reads := Nat.le_refl 0
      equalised := fun h => absurd h Bool.false_ne_true }
  · intro tries _ transcript value round
    exact .stop (equalisedOnce_of_plays round)
  · intro tries _ first _ rest result round run
    exact .next (equalisedOnce_of_plays round) run

end EqualisationRun

theorem equalisationRun_channelEqualization {result : Bool}
    (plays : Plays (channelEqualization link trainSet) transcript result) :
    EqualisationRun link maxEqTries transcript result := by
  obtain ⟨written, rest, rfl, hWritten⟩ := plays_pattern plays
  cases hWritten with
  | inl hSuccess =>
      obtain ⟨first, last, value, rfl, hLoop, hValue⟩ := plays_bind_iff.mp hSuccess.2
      obtain ⟨rfl, rfl⟩ := plays_done_iff.mp hValue
      have run := EqualisationRun.of_plays hLoop
      rw [List.append_nil]
      exact {
        reads := run.reads
        equalised := by
          intro hTrue
          have hEqualised := run.equalised hTrue
          exact ⟨by simp [hSuccess.1, hEqualised.1], hEqualised.2⟩ }
  | inr hFailure =>
      obtain ⟨_, rfl, rfl⟩ := hFailure
      exact {
        reads := Nat.zero_le _
        equalised := fun h => absurd h Bool.false_ne_true }

end Equalisation

/-- What a training run promises of its two phases, what clock recovery
returned and what the whole run returned. -/
structure Contract (link : DpLink) (recovery equalisation : Transcript AuxAnswer)
    (recovered : Option TrainSet) (trained : Bool) : Prop where
  recoveryReads : (statuses recovery).length ≤ link.maxCrTries
  equalisationReads : (statuses equalisation).length ≤ maxEqTries
  recovered_of_trained : trained = true →
    ∃ status ∈ statuses recovery, ClockRecovered status link.lanes
  equalised_of_trained : trained = true →
    ∃ status, (statuses (recovery ++ equalisation)).getLast? = some status ∧
      Equalised status link.lanes
  not_trained_of_failed : Failed (recovery ++ equalisation) → trained = false
  gaveUp : ¬Failed recovery → recovered = none → GaveUp link (statuses recovery)

theorem contract_of_plays {link : DpLink} {recovery equalisation : Transcript AuxAnswer}
    {recovered : Option TrainSet} {trained : Bool}
    (first : Plays (clockRecovery link) recovery recovered)
    (later : Plays (equaliseAfter link recovered) equalisation trained) :
    Contract link recovery equalisation recovered trained := by
  have recoveryRun := recoveryRun_clockRecovery first
  have hGaveUp : ¬Failed recovery → recovered = none → GaveUp link (statuses recovery) := by
    intro hNot hNone
    rw [GaveUp, List.reverse_cons]
    exact recoveryRun.gaveUp hNone hNot
  cases recovered with
  | none =>
      obtain ⟨rfl, rfl⟩ := plays_done_iff.mp later
      exact {
        recoveryReads := recoveryRun.reads
        equalisationReads := Nat.zero_le _
        recovered_of_trained := fun h => absurd h Bool.false_ne_true
        equalised_of_trained := fun h => absurd h Bool.false_ne_true
        not_trained_of_failed := fun _ => rfl
        gaveUp := hGaveUp }
  | some trainSet =>
      have equalisationRun := equalisationRun_channelEqualization later
      have hRecovered := recoveryRun.recovered (Option.some_ne_none _)
      exact {
        recoveryReads := recoveryRun.reads
        equalisationReads := equalisationRun.reads
        recovered_of_trained := fun _ => hRecovered.2
        equalised_of_trained := by
          intro hTrained
          obtain ⟨_, last, hLast, hEqualised⟩ := equalisationRun.equalised hTrained
          refine ⟨last, ?_, hEqualised⟩
          rw [statuses_append, List.getLast?_append, hLast, Option.some_or]
        not_trained_of_failed := by
          intro hFailed
          apply Bool.eq_false_iff.mpr
          intro hTrained
          have hEqualised := equalisationRun.equalised hTrained
          cases failed_append.mp hFailed with
          | inl hFirst => exact hRecovered.1 hFirst
          | inr hLater => exact hEqualised.1 hLater
        gaveUp := hGaveUp }

/-- A link that is reported as trained is trained, whatever panel and source it
joins and whatever the sink answers. -/
theorem contract_intelDpLinkTrainPhy (link : DpLink) (sink : Opponent AuxAnswer) :
    ∃ equalisation,
      ((intelDpLinkTrainPhy link).against sink).2 =
        ((clockRecovery link).against sink).2 ++ equalisation ∧
      Contract link ((clockRecovery link).against sink).2 equalisation
        ((clockRecovery link).against sink).1 ((intelDpLinkTrainPhy link).against sink).1 := by
  obtain ⟨equalisation, hSplit, later⟩ :=
    against_bind (clockRecovery link) (equaliseAfter link) sink
  exact ⟨equalisation, hSplit, contract_of_plays (plays_against (clockRecovery link) sink) later⟩

/-- Training can succeed: an HBR panel of four lanes, and a sink that is ready at once. -/
example : ∃ link sink, ((intelDpLinkTrainPhy link).against sink).1 = true :=
  ⟨{  lanes := .four
      hdmi := false
      edp := true
      hobl := false
      hoblFailed := false
      lowVswing := true
      tigerlakeUy := false
      portClock := 270000
      displayVer := 12
      dpcdRev := 0x14
      dpcdMaxLaneCount := 0xC4
      dpcdMaxDownspread := 0x81 },
    fun
      | _, .readStatus => (6, fun _ => 0x77)
      | _, .write _ bytes => bytes.length,
    by decide⟩

end NootedBlue.Link
