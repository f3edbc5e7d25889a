import NootedBlue.De.Wait

/-! Which waits for a register keep their promise. A phase that looks at its
clock before the deadline gives up after one read, since it tests the comparison
for being different from zero; from the deadline on both tests agree. -/
namespace NootedBlue.De

open Interaction

/-- A clock that the world reads out and that never goes back. -/
structure NonDecreasing (opponent : Opponent WaitAnswer) (time : Transcript WaitAnswer → Nat) :
    Prop where
  now : ∀ past, opponent past .machAbsoluteTime = time past
  advances : ∀ past op, time past ≤ time (past ++ [⟨op, opponent past op⟩])

/-- One phase against a world, from a point in time on. -/
def phase (expired : Int → Bool) (opponent : Opponent WaitAnswer) (w : WaitArgs)
    (timeoutUs fuel : Nat) (past : Transcript WaitAnswer) :
    Option (IOReturn × Word) × Transcript WaitAnswer :=
  (waitOnce expired w timeoutUs fuel).eval opponent.world past

/-- The last read was made after the clock had reached the deadline of the last
timeout that is not zero, and did not match. -/
def TimedOut (w : WaitArgs) (transcript : Transcript WaitAnswer) : Prop :=
  ∃ deadline now value,
    (deadlines transcript).getLast? = some (w.lastTimeoutUs * 1000, deadline) ∧
    (readings transcript).getLast? = some now ∧
    (readValues w transcript).getLast? = some value ∧
    deadline ≤ now ∧ ¬ w.Matches value

/-- So far the clock did not pass the deadline, at any of so many looks. -/
def NotPassed (transcript : Transcript WaitAnswer) (count : Nat) : Prop :=
  ∃ ns deadline, (deadlines transcript).getLast? = some (ns, deadline) ∧
    (looks transcript).length = count ∧ ∀ now ∈ looks transcript, now ≤ deadline

/-- What a wait promises, with any amount of fuel. -/
structure Waits (opponent : Opponent WaitAnswer) (w : WaitArgs) : Prop where
  success_iff : ∀ fuel ret out transcript,
    (intelDeWaitForRegister w fuel).against opponent = (some (ret, out), transcript) →
      (ret = .success ↔ ∃ value ∈ readValues w transcript, w.Matches value)
  timedOut : ∀ fuel out transcript,
    (intelDeWaitForRegister w fuel).against opponent = (some (.timeout, out), transcript) →
      TimedOut w transcript
  stores : ∀ fuel ret out transcript,
    (intelDeWaitForRegister w fuel).against opponent = (some (ret, out), transcript) →
      out = (readValues w transcript).getLast?
  ends : ∀ fuel transcript,
    (intelDeWaitForRegister w fuel).against opponent = (none, transcript) →
      NotPassed transcript fuel
  agrees : ∀ fuel one other,
    ((intelDeWaitForRegister w fuel).against opponent).1 = some one →
    ((waitAsForPanelPowerCycle w fuel).against opponent).1 = some other → one.1 = other.1

section FirstLook

variable (opponent : Opponent WaitAnswer) (w : WaitArgs) (timeoutUs : Nat)
  (past : Transcript WaitAnswer)

/-- The deadline of a phase that begins here. -/
def deadlineOf : Nat := opponent past (.intervalToDeadline (timeoutUs * 1000))

def afterDeadline : Transcript WaitAnswer :=
  past ++ [⟨.intervalToDeadline (timeoutUs * 1000), deadlineOf opponent timeoutUs past⟩]

/-- The first time that it reads from the clock. -/
def firstReading : Nat := opponent (afterDeadline opponent timeoutUs past) .machAbsoluteTime

def afterReading : Transcript WaitAnswer :=
  afterDeadline opponent timeoutUs past ++
    [⟨.machAbsoluteTime, firstReading opponent timeoutUs past⟩]

/-- The first value that it reads from the register. -/
def firstValue : Word := opponent (afterReading opponent timeoutUs past) (.read w.reg)

def afterLook : Transcript WaitAnswer :=
  afterReading opponent timeoutUs past ++ [⟨.read w.reg, firstValue opponent w timeoutUs past⟩]

/-- The first value does not match, and the clock is before the deadline. -/
def TooEarly : Prop :=
  ¬ w.Matches (firstValue opponent w timeoutUs past) ∧
    firstReading opponent timeoutUs past < deadlineOf opponent timeoutUs past

/-- What the first look decides for a phase that waits: the value matches, or it does
not and the clock is past the deadline. -/
def FirstFinds : IOReturn → Prop
  | .success => w.Matches (firstValue opponent w timeoutUs past)
  | .timeout => ¬ w.Matches (firstValue opponent w timeoutUs past) ∧
      deadlineOf opponent timeoutUs past < firstReading opponent timeoutUs past
  | .error => False

/-- The first value does not match, and the clock stands at the deadline: the phase
has to look again. -/
def StandsStill : Prop :=
  ¬ w.Matches (firstValue opponent w timeoutUs past) ∧
    firstReading opponent timeoutUs past = deadlineOf opponent timeoutUs past

end FirstLook

/-- Where the slow phase begins after a fast one: after the one look of a fast phase
that is too early, or when a fast phase that waits has timed out. -/
inductive SlowBegins (opponent : Opponent WaitAnswer) (w : WaitArgs) :
    Transcript WaitAnswer → Prop where
  | early (hEarly : TooEarly opponent w w.fastTimeoutUs []) :
      SlowBegins opponent w (afterLook opponent w w.fastTimeoutUs [])
  | expired {fuel : Nat} {value : Word} {past : Transcript WaitAnswer}
      (hLate : ¬ TooEarly opponent w w.fastTimeoutUs [])
      (hPhase : phase expiredPositive opponent w w.fastTimeoutUs fuel [] =
        (some (.timeout, value), past)) :
      SlowBegins opponent w past

/-- The phases look at their clock in time. One that is the last to be begun is not
too early. If the fast phase gives up too early and a slow one follows, then the whole
wait, if it waited, would come to what the first look of that slow phase finds; only
where the clock stands at the deadline does this take more than one look. -/
structure InTime (opponent : Opponent WaitAnswer) (w : WaitArgs) : Prop where
  only : w.fastTimeoutUs = 0 ∨ w.slowTimeoutUs = 0 → w.lastTimeoutUs ≠ 0 →
    ¬ TooEarly opponent w w.lastTimeoutUs []
  slow : w.fastTimeoutUs ≠ 0 → w.slowTimeoutUs ≠ 0 → ∀ past, SlowBegins opponent w past →
    ¬ TooEarly opponent w w.slowTimeoutUs past
  fast : w.fastTimeoutUs ≠ 0 → w.slowTimeoutUs ≠ 0 → TooEarly opponent w w.fastTimeoutUs [] →
    ∀ ret, FirstFinds opponent w w.slowTimeoutUs (afterLook opponent w w.fastTimeoutUs []) ret →
    ∀ fuel whole, ((waitAsForPanelPowerCycle w fuel).against opponent).1 = some whole →
      whole.1 = ret
  standing : w.fastTimeoutUs ≠ 0 → w.slowTimeoutUs ≠ 0 → TooEarly opponent w w.fastTimeoutUs [] →
    StandsStill opponent w w.slowTimeoutUs (afterLook opponent w w.fastTimeoutUs []) →
    ∀ fuel whole late, ((waitAsForPanelPowerCycle w fuel).against opponent).1 = some whole →
      (phase expiredPositive opponent w w.slowTimeoutUs fuel
        (afterLook opponent w w.fastTimeoutUs [])).1 = some late → whole.1 = late.1

section Worlds

variable {opponent : Opponent WaitAnswer} {time : Transcript WaitAnswer → Nat} {w : WaitArgs}
  {timeoutUs fuel : Nat} {past : Transcript WaitAnswer}

/-- Whatever is done, the clock does not go back. -/
theorem NonDecreasing.eval {α : Type} (hClock : NonDecreasing opponent time) (p : Wait α)
    (past : Transcript WaitAnswer) : time past ≤ time (p.eval opponent.world past).2 := by
  induction p generalizing past with
  | done a => exact Nat.le_refl _
  | call op next ih => exact Nat.le_trans (hClock.advances past op) (ih _ _)

/-- From the deadline on the two tests agree. -/
theorem verdict_eq_of_le {deadline now : Nat} (hLate : deadline ≤ now) (regValue : Word) :
    verdict expiredNonzero w deadline now regValue =
      verdict expiredPositive w deadline now regValue := by
  have hSame : expiredNonzero (cmpAbsoluteTime now deadline) =
      expiredPositive (cmpAbsoluteTime now deadline) := by
    rw [cmpAbsoluteTime, if_neg (Nat.not_lt.mpr hLate)]
    split
    · rfl
    · rfl
  rw [verdict, verdict, hSame]

theorem eval_pollOnce (expired : Int → Bool) (opponent : Opponent WaitAnswer) (w : WaitArgs)
    (deadline : Nat) (isAtomic : Bool) (waitUs : Nat) (past : Transcript WaitAnswer) :
    (pollOnce expired w deadline isAtomic waitUs).eval opponent.world past =
      let now := opponent past .machAbsoluteTime
      let later := past ++ [⟨.machAbsoluteTime, now⟩]
      let regValue := opponent later (.read w.reg)
      (settle isAtomic waitUs regValue (verdict expired w deadline now regValue)).eval
        opponent.world (later ++ [⟨.read w.reg, regValue⟩]) := rfl

/-- A loop that comes to a verdict at once. -/
theorem eval_loop_of_verdict {expired : Int → Bool} {deadline now : Nat} {regValue : Word}
    {ret : IOReturn} (isAtomic : Bool) (waitUs : Nat)
    (hNow : opponent past .machAbsoluteTime = now)
    (hRead : opponent (past ++ [⟨.machAbsoluteTime, now⟩]) (.read w.reg) = regValue)
    (hVerdict : verdict expired w deadline now regValue = some ret) :
    (loop (pollOnce expired w deadline isAtomic) (fuel + 1) waitUs).eval opponent.world past =
      (some (ret, regValue),
        past ++ [⟨.machAbsoluteTime, now⟩] ++ [⟨.read w.reg, regValue⟩]) := by
  subst hNow hRead
  rw [eval_loop_succ, eval_pollOnce]
  simp only [hVerdict]
  rfl

/-- From the deadline on the two loops do the same, by induction on what is
left of them. -/
theorem loop_eq_of_le (hClock : NonDecreasing opponent time) {deadline : Nat}
    (isAtomic : Bool) (waitUs : Nat) (hLate : deadline ≤ time past) :
    (loop (pollOnce expiredNonzero w deadline isAtomic) fuel waitUs).eval opponent.world past =
      (loop (pollOnce expiredPositive w deadline isAtomic) fuel waitUs).eval
        opponent.world past := by
  induction fuel generalizing waitUs past with
  | zero => rfl
  | succ fuel ih =>
      have hOnce : (pollOnce expiredNonzero w deadline isAtomic waitUs).eval opponent.world past =
          (pollOnce expiredPositive w deadline isAtomic waitUs).eval opponent.world past := by
        rw [eval_pollOnce, eval_pollOnce, hClock.now]
        simp only [verdict_eq_of_le hLate]
      have hAfter := hClock.eval (pollOnce expiredPositive w deadline isAtomic waitUs) past
      rw [eval_loop_succ, eval_loop_succ, hOnce]
      generalize (pollOnce expiredPositive w deadline isAtomic waitUs).eval opponent.world past =
        outcome at hAfter
      obtain ⟨iteration, after⟩ := outcome
      cases iteration with
      | stop result => rfl
      | next t => exact ih t (Nat.le_trans hLate hAfter)

/-- A loop that sees a match at once does not care for the clock. -/
theorem loop_eq_of_matches {deadline : Nat} (isAtomic : Bool) (waitUs : Nat)
    (hMatches : w.Matches (opponent (past ++ [⟨.machAbsoluteTime, opponent past .machAbsoluteTime⟩])
      (.read w.reg))) :
    (loop (pollOnce expiredNonzero w deadline isAtomic) fuel waitUs).eval opponent.world past =
      (loop (pollOnce expiredPositive w deadline isAtomic) fuel waitUs).eval
        opponent.world past := by
  cases fuel with
  | zero => rfl
  | succ fuel =>
      rw [eval_loop_of_verdict isAtomic waitUs rfl rfl (verdict_success_iff.mpr hMatches),
        eval_loop_of_verdict isAtomic waitUs rfl rfl (verdict_success_iff.mpr hMatches)]

theorem polls_eq_loop (w : WaitArgs) (timeoutUs : Nat) :
    ∃ isAtomic waitUs, ∀ expired deadline fuel,
      polls expired w timeoutUs deadline fuel =
        loop (pollOnce expired w deadline isAtomic) fuel waitUs := by
  by_cases hShort : timeoutUs ≤ 10
  · exact ⟨true, 1, fun _ _ _ => if_pos hShort⟩
  · exact ⟨w.isAtomic, 10, fun _ _ _ => if_neg hShort⟩

theorem phase_eq_polls (expired : Int → Bool) :
    phase expired opponent w timeoutUs fuel past =
      (polls expired w timeoutUs (deadlineOf opponent timeoutUs past) fuel).eval opponent.world
        (afterDeadline opponent timeoutUs past) := rfl

/-- A phase that is not too early does what it does with the other test. -/
theorem phase_eq (hClock : NonDecreasing opponent time)
    (hInTime : ¬ TooEarly opponent w timeoutUs past) :
    phase expiredNonzero opponent w timeoutUs fuel past =
      phase expiredPositive opponent w timeoutUs fuel past := by
  obtain ⟨isAtomic, waitUs, hLoop⟩ := polls_eq_loop w timeoutUs
  rw [phase_eq_polls, phase_eq_polls, hLoop, hLoop]
  by_cases hMatches : w.Matches (firstValue opponent w timeoutUs past)
  · exact loop_eq_of_matches isAtomic waitUs hMatches
  · apply loop_eq_of_le hClock
    rw [← hClock.now]
    exact Nat.not_lt.mp fun hEarly => hInTime ⟨hMatches, hEarly⟩

/-- A phase that is too early gives up at once. -/
theorem phase_of_tooEarly (fuel : Nat) (hEarly : TooEarly opponent w timeoutUs past) :
    phase expiredNonzero opponent w timeoutUs (fuel + 1) past =
      (some (.timeout, firstValue opponent w timeoutUs past),
        afterLook opponent w timeoutUs past) := by
  obtain ⟨hMismatch, hBefore⟩ := hEarly
  obtain ⟨isAtomic, waitUs, hLoop⟩ := polls_eq_loop w timeoutUs
  have hExpired : expiredNonzero (cmpAbsoluteTime (firstReading opponent timeoutUs past)
      (deadlineOf opponent timeoutUs past)) = true := by
    rw [cmpAbsoluteTime, if_pos hBefore]
    rfl
  rw [phase_eq_polls, hLoop]
  exact eval_loop_of_verdict isAtomic waitUs rfl rfl
    (verdict_timeout_iff.mpr ⟨hMismatch, hExpired⟩)

/-- A phase that waits comes to what its first look finds. -/
theorem phase_of_firstFinds (fuel : Nat) {ret : IOReturn}
    (hFinds : FirstFinds opponent w timeoutUs past ret) :
    (phase expiredPositive opponent w timeoutUs (fuel + 1) past).1 =
      some (ret, firstValue opponent w timeoutUs past) := by
  obtain ⟨isAtomic, waitUs, hLoop⟩ := polls_eq_loop w timeoutUs
  have hVerdict : verdict expiredPositive w (deadlineOf opponent timeoutUs past)
      (firstReading opponent timeoutUs past) (firstValue opponent w timeoutUs past) = some ret := by
    cases ret with
    | success => exact verdict_success_iff.mpr hFinds
    | timeout =>
        obtain ⟨hMismatch, hPast⟩ := hFinds
        refine verdict_timeout_iff.mpr ⟨hMismatch, ?_⟩
        rw [cmpAbsoluteTime, if_neg (Nat.lt_asymm hPast), if_neg (Nat.ne_of_gt hPast)]
        rfl
    | error => exact absurd hFinds id
  rw [phase_eq_polls, hLoop]
  exact congrArg Prod.fst (eval_loop_of_verdict isAtomic waitUs rfl rfl hVerdict)

/-- Without fuel a phase comes to nothing. -/
theorem phase_zero (expired : Int → Bool) (opponent : Opponent WaitAnswer) (w : WaitArgs)
    (timeoutUs : Nat) (past : Transcript WaitAnswer) :
    (phase expired opponent w timeoutUs 0 past).1 = none := by
  obtain ⟨isAtomic, waitUs, hLoop⟩ := polls_eq_loop w timeoutUs
  rw [phase_eq_polls, hLoop]
  rfl

/-- The result of a phase as the result of a wait. -/
def stored (result : IOReturn × Word) : IOReturn × Option Word := (result.1, some result.2)

theorem against_eq (expired : Int → Bool) :
    (waitForRegister expired w fuel).against opponent =
      (slowPhase expired w fuel ((fastPhase expired w fuel).eval opponent.world []).1).eval
        opponent.world ((fastPhase expired w fuel).eval opponent.world []).2 :=
  Program.eval_bind _ _ _ _

theorem eval_fastPhase (expired : Int → Bool) (hFast : w.fastTimeoutUs ≠ 0) :
    (fastPhase expired w fuel).eval opponent.world past =
      ((phase expired opponent w w.fastTimeoutUs fuel past).1.map stored,
        (phase expired opponent w w.fastTimeoutUs fuel past).2) := by
  rw [fastPhase, if_pos hFast, Program.eval_bind]
  rfl

theorem eval_slowPhase (expired : Int → Bool) {ret : IOReturn} (out : Option Word)
    (hRet : ret ≠ .success) (hSlow : w.slowTimeoutUs ≠ 0) :
    (slowPhase expired w fuel (some (ret, out))).eval opponent.world past =
      ((phase expired opponent w w.slowTimeoutUs fuel past).1.map stored,
        (phase expired opponent w w.slowTimeoutUs fuel past).2) := by
  rw [slowPhase, if_pos ⟨hRet, hSlow⟩, Program.eval_bind]
  rfl

/-- Without timeouts a wait does nothing. -/
theorem against_neither (expired : Int → Bool) (hFast : w.fastTimeoutUs = 0)
    (hSlow : w.slowTimeoutUs = 0) :
    (waitForRegister expired w fuel).against opponent = (some (.error, none), []) := by
  have hSkip : (fastPhase expired w fuel).eval opponent.world [] = (some (.error, none), []) := by
    rw [fastPhase, if_neg (not_not.mpr hFast)]
    rfl
  rw [against_eq, hSkip]
  show (slowPhase expired w fuel (some (.error, none))).eval opponent.world [] = _
  rw [slowPhase, if_neg fun h => h.2 hSlow]
  rfl

/-- Without a fast phase a wait is its slow phase. -/
theorem against_onlySlow (expired : Int → Bool) (hFast : w.fastTimeoutUs = 0)
    (hSlow : w.slowTimeoutUs ≠ 0) :
    (waitForRegister expired w fuel).against opponent =
      ((phase expired opponent w w.slowTimeoutUs fuel []).1.map stored,
        (phase expired opponent w w.slowTimeoutUs fuel []).2) := by
  have hSkip : (fastPhase expired w fuel).eval opponent.world [] = (some (.error, none), []) := by
    rw [fastPhase, if_neg (not_not.mpr hFast)]
    rfl
  rw [against_eq, hSkip]
  exact eval_slowPhase expired none (by decide) hSlow

/-- A fast phase that timed out is followed by the slow one. -/
theorem against_of_timeout (expired : Int → Bool) (hFast : w.fastTimeoutUs ≠ 0)
    (hSlow : w.slowTimeoutUs ≠ 0) {value : Word}
    (hPhase : phase expired opponent w w.fastTimeoutUs fuel [] = (some (.timeout, value), past)) :
    (waitForRegister expired w fuel).against opponent =
      ((phase expired opponent w w.slowTimeoutUs fuel past).1.map stored,
        (phase expired opponent w w.slowTimeoutUs fuel past).2) := by
  rw [against_eq, eval_fastPhase expired hFast, hPhase]
  exact eval_slowPhase expired (some value) (by simp) hSlow

/-- A fast phase that succeeded, or that is the only one, decides. -/
theorem against_of_decided (expired : Int → Bool) (hFast : w.fastTimeoutUs ≠ 0)
    (hDecided : ∀ ret value, (phase expired opponent w w.fastTimeoutUs fuel []).1 =
      some (ret, value) → ret = .success ∨ w.slowTimeoutUs = 0) :
    (waitForRegister expired w fuel).against opponent =
      ((phase expired opponent w w.fastTimeoutUs fuel []).1.map stored,
        (phase expired opponent w w.fastTimeoutUs fuel []).2) := by
  rw [against_eq, eval_fastPhase expired hFast]
  rcases hResult : (phase expired opponent w w.fastTimeoutUs fuel []).1 with _ | ⟨ret, value⟩
  · rfl
  · have hStop : ¬ (ret ≠ .success ∧ w.slowTimeoutUs ≠ 0) := by
      intro ⟨hRet, hSlow⟩
      exact (hDecided ret value hResult).elim hRet hSlow
    show (slowPhase expired w fuel (some (ret, some value))).eval opponent.world _ = _
    rw [slowPhase, if_neg hStop]
    rfl

theorem plays_phase (expired : Int → Bool) (opponent : Opponent WaitAnswer) (w : WaitArgs)
    (timeoutUs fuel : Nat) (past : Transcript WaitAnswer) :
    ∃ transcript, (phase expired opponent w timeoutUs fuel past).2 = past ++ transcript ∧
      PhaseOutcome expired w timeoutUs fuel transcript
        (phase expired opponent w timeoutUs fuel past).1 := by
  obtain ⟨transcript, hPast, plays⟩ :=
    plays_eval (waitOnce expired w timeoutUs fuel) opponent past
  exact ⟨transcript, hPast, plays_waitOnce plays⟩

/-- A phase that has come to an end succeeded or timed out. -/
theorem phase_ends {expired : Int → Bool} {ret : IOReturn} {value : Word}
    (h : (phase expired opponent w timeoutUs fuel past).1 = some (ret, value)) :
    ret = .success ∨ ret = .timeout := by
  obtain ⟨transcript, _, hOutcome⟩ := plays_phase expired opponent w timeoutUs fuel past
  rw [h] at hOutcome
  cases ret with
  | success => exact .inl rfl
  | timeout => exact .inr rfl
  | error => exact absurd hOutcome PhaseOutcome.ne_error

/-- Where no phase gives up too early, the whole wait is what it is with the other
test. -/
theorem against_eq_of_inTime (hClock : NonDecreasing opponent time) (hInTime : InTime opponent w)
    (hFast : w.fastTimeoutUs ≠ 0 → w.slowTimeoutUs ≠ 0 →
      ¬ TooEarly opponent w w.fastTimeoutUs []) :
    (intelDeWaitForRegister w fuel).against opponent =
      (waitAsForPanelPowerCycle w fuel).against opponent := by
  rw [intelDeWaitForRegister, waitAsForPanelPowerCycle]
  by_cases hFastZero : w.fastTimeoutUs = 0
  · by_cases hSlowZero : w.slowTimeoutUs = 0
    · rw [against_neither _ hFastZero hSlowZero, against_neither _ hFastZero hSlowZero]
    · have hLate := hInTime.only (.inl hFastZero)
      rw [WaitArgs.lastTimeoutUs, if_pos hSlowZero] at hLate
      rw [against_onlySlow _ hFastZero hSlowZero, against_onlySlow _ hFastZero hSlowZero,
        phase_eq hClock (hLate hSlowZero)]
  · by_cases hSlowZero : w.slowTimeoutUs = 0
    · have hLate := hInTime.only (.inr hSlowZero)
      rw [WaitArgs.lastTimeoutUs, if_neg (not_not.mpr hSlowZero)] at hLate
      rw [against_of_decided _ hFastZero fun _ _ _ => .inr hSlowZero,
        against_of_decided _ hFastZero fun _ _ _ => .inr hSlowZero,
        phase_eq hClock (hLate hFastZero)]
    · have hSame : phase expiredNonzero opponent w w.fastTimeoutUs fuel [] =
          phase expiredPositive opponent w w.fastTimeoutUs fuel [] :=
        phase_eq hClock (hFast hFastZero hSlowZero)
      by_cases hTimeout : ∃ value past, phase expiredNonzero opponent w w.fastTimeoutUs fuel [] =
          (some (.timeout, value), past)
      · obtain ⟨value, past, hPhase⟩ := hTimeout
        have hBegins := SlowBegins.expired (hFast hFastZero hSlowZero) (hSame ▸ hPhase)
        have hLate := hInTime.slow hFastZero hSlowZero past hBegins
        rw [against_of_timeout _ hFastZero hSlowZero hPhase,
          against_of_timeout _ hFastZero hSlowZero (hSame ▸ hPhase), phase_eq hClock hLate]
      · have hDecided : ∀ ret value, (phase expiredNonzero opponent w w.fastTimeoutUs fuel []).1 =
            some (ret, value) → ret = .success ∨ w.slowTimeoutUs = 0 := by
          intro ret value hResult
          rcases phase_ends hResult with rfl | rfl
          · exact .inl rfl
          · exact absurd ⟨value, _, Prod.ext hResult rfl⟩ hTimeout
        rw [against_of_decided _ hFastZero hDecided,
          against_of_decided _ hFastZero (hSame ▸ hDecided), hSame]

/-- A fast phase that gives up too early leaves everything to the slow one. -/
theorem against_of_fastEarly (hClock : NonDecreasing opponent time)
    (hFast : w.fastTimeoutUs ≠ 0) (hSlow : w.slowTimeoutUs ≠ 0)
    (hEarly : TooEarly opponent w w.fastTimeoutUs [])
    (hLate : ¬ TooEarly opponent w w.slowTimeoutUs (afterLook opponent w w.fastTimeoutUs [])) :
    (intelDeWaitForRegister w (fuel + 1)).against opponent =
      ((phase expiredPositive opponent w w.slowTimeoutUs (fuel + 1)
          (afterLook opponent w w.fastTimeoutUs [])).1.map stored,
        (phase expiredPositive opponent w w.slowTimeoutUs (fuel + 1)
          (afterLook opponent w w.fastTimeoutUs [])).2) := by
  rw [intelDeWaitForRegister, against_of_timeout _ hFast hSlow (phase_of_tooEarly _ hEarly),
    phase_eq hClock hLate]

end Worlds

section Outcomes

variable {expired : Int → Bool} {w : WaitArgs} {fuel : Nat} {transcript : Transcript WaitAnswer}
  {ret : IOReturn} {out : Option Word}

/-- A wait succeeds just when something that it read matched. -/
theorem WaitOutcome.success_iff (h : WaitOutcome expired w fuel transcript (some (ret, out))) :
    ret = .success ↔ ∃ value ∈ readValues w transcript, w.Matches value := by
  cases out with
  | none =>
      obtain ⟨rfl, rfl⟩ := h
      simp [readValues]
  | some value =>
      obtain ⟨before, timeoutUs, last, rfl, hBefore, hPhase, _⟩ := h
      cases ret with
      | error => exact absurd hPhase PhaseOutcome.ne_error
      | success =>
          obtain ⟨deadline, polled, rfl, earlier, now, rfl, _, hVerdict⟩ := hPhase
          refine ⟨fun _ => ⟨value, ?_, verdict_success_iff.mp hVerdict⟩, fun _ => rfl⟩
          rw [readValues_append, readValues_deadline, readValues_append, readValues_poll]
          simp
      | timeout =>
          constructor
          · rintro ⟨⟩
          · rintro ⟨early, hMem, hMatches⟩
            rw [readValues_append] at hMem
            rcases List.mem_append.mp hMem with hFirst | hLast
            · exact absurd hMatches (hBefore early hFirst)
            · exact absurd hMatches (hPhase.not_matches early hLast)

/-- What a wait stores is what it read last. -/
theorem WaitOutcome.stores (h : WaitOutcome expired w fuel transcript (some (ret, out))) :
    out = (readValues w transcript).getLast? := by
  cases out with
  | none =>
      obtain ⟨rfl, rfl⟩ := h
      rfl
  | some value =>
      obtain ⟨before, timeoutUs, last, rfl, _, hPhase, _⟩ := h
      obtain ⟨deadline, polled, rfl, earlier, now, rfl, _⟩ := hPhase
      rw [readValues_append, readValues_deadline, readValues_append, readValues_poll]
      simp

/-- A wait that goes on was pending all the time since its last deadline. -/
theorem WaitOutcome.notPassed (hExpired : ∀ now deadline, deadline < now →
      expired (cmpAbsoluteTime now deadline) = true)
    (h : WaitOutcome expired w fuel transcript none) : NotPassed transcript fuel := by
  obtain ⟨before, timeoutUs, last, rfl, deadline, polled, rfl, hPending, hCount⟩ := h
  have hLooks := looks_of_pending before (timeoutUs * 1000) deadline hPending
  refine ⟨timeoutUs * 1000, deadline, ?_, by rw [hLooks, hCount], ?_⟩
  · rw [deadlines_append, deadlines_deadline, deadlines_of_pending hPending]
    simp
  · rw [hLooks]
    intro now hMem
    apply Nat.not_lt.mp
    intro hPassed
    have hNot := not_expired_of_pending hPending hMem
    rw [hExpired now deadline hPassed] at hNot
    cases hNot

/-- With the other test a wait times out only after its deadline. -/
theorem timedOut_of_phase (before : Transcript WaitAnswer) {value : Word}
    (h : PhaseOutcome expiredPositive w w.lastTimeoutUs fuel transcript
      (some (.timeout, value))) : TimedOut w (before ++ transcript) := by
  obtain ⟨deadline, polled, rfl, earlier, now, rfl, hEarlier, hVerdict⟩ := h
  obtain ⟨hMismatch, hExpired⟩ := verdict_timeout_iff.mp hVerdict
  refine ⟨deadline, now, value, ?_, ?_, ?_, ?_, hMismatch⟩
  · rw [deadlines_append, deadlines_deadline, deadlines_append, deadlines_of_pending hEarlier,
      deadlines_poll]
    simp
  · rw [← List.cons_append, readings_append, readings_append, readings_poll]
    simp
  · rw [readValues_append, readValues_deadline, readValues_append, readValues_poll]
    simp
  · apply Nat.not_lt.mp
    intro hBefore
    rw [cmpAbsoluteTime, if_pos hBefore] at hExpired
    cases hExpired

theorem WaitOutcome.timedOut
    (h : WaitOutcome expiredPositive w fuel transcript (some (.timeout, out))) :
    TimedOut w transcript := by
  cases out with
  | none => cases h.2
  | some value =>
      obtain ⟨before, timeoutUs, last, rfl, _, hPhase, hLast⟩ := h
      rw [hLast rfl] at hPhase
      exact timedOut_of_phase before hPhase

end Outcomes

section Promise

variable {opponent : Opponent WaitAnswer} {time : Transcript WaitAnswer → Nat} {w : WaitArgs}
  {timeoutUs fuel : Nat} {past : Transcript WaitAnswer}

theorem outcome_of_against {expired : Int → Bool} {transcript : Transcript WaitAnswer}
    {result : Option (IOReturn × Option Word)}
    (h : (waitForRegister expired w fuel).against opponent = (result, transcript)) :
    WaitOutcome expired w fuel transcript result := by
  have plays := plays_against (waitForRegister expired w fuel) opponent
  rw [h] at plays
  exact plays_waitForRegister plays

/-- A wait whose last look was too early has not timed out as it promises. -/
theorem not_timedOut_afterLook (hEarly : TooEarly opponent w timeoutUs past) :
    ¬ TimedOut w (afterLook opponent w timeoutUs past) := by
  intro ⟨deadline, now, value, hDeadline, hNow, _, hLate, _⟩
  have hSplit : afterLook opponent w timeoutUs past = past ++
      ⟨.intervalToDeadline (timeoutUs * 1000), deadlineOf opponent timeoutUs past⟩ ::
        [⟨.machAbsoluteTime, firstReading opponent timeoutUs past⟩,
          ⟨.read w.reg, firstValue opponent w timeoutUs past⟩] := by
    simp [afterLook, afterReading, afterDeadline]
  rw [hSplit, deadlines_append, deadlines_deadline, deadlines_poll] at hDeadline
  rw [hSplit, ← List.singleton_append, readings_append, readings_append, readings_poll] at hNow
  simp only [List.getLast?_append, List.getLast?_singleton, Option.some_or, Option.some.injEq,
    Prod.mk.injEq] at hDeadline hNow
  rw [← hDeadline.2, ← hNow] at hLate
  exact absurd hEarly.2 (Nat.not_lt.mpr hLate)

/-- Without fuel a fast phase comes to nothing. -/
theorem against_zero (opponent : Opponent WaitAnswer) (hFast : w.fastTimeoutUs ≠ 0) :
    ((intelDeWaitForRegister w 0).against opponent).1 = none := by
  have hNone : ∀ ret value, (phase expiredNonzero opponent w w.fastTimeoutUs 0 []).1 =
      some (ret, value) → ret = .success ∨ w.slowTimeoutUs = 0 := by
    rw [phase_zero]
    simp
  rw [intelDeWaitForRegister, against_of_decided _ hFast hNone, phase_zero]
  rfl

/-- The wait waits only if the last phase is not too early. -/
theorem Waits.only (h : Waits opponent w) (hOne : w.fastTimeoutUs = 0 ∨ w.slowTimeoutUs = 0)
    (hLast : w.lastTimeoutUs ≠ 0) : ¬ TooEarly opponent w w.lastTimeoutUs [] := by
  intro hEarly
  apply not_timedOut_afterLook hEarly
  apply h.timedOut 1 (some (firstValue opponent w w.lastTimeoutUs []))
  rw [intelDeWaitForRegister]
  by_cases hSlow : w.slowTimeoutUs = 0
  · have hFast : w.lastTimeoutUs = w.fastTimeoutUs := by
      rw [WaitArgs.lastTimeoutUs, if_neg (not_not.mpr hSlow)]
    rw [hFast] at hLast hEarly ⊢
    rw [against_of_decided _ hLast fun _ _ _ => .inr hSlow, phase_of_tooEarly _ hEarly]
    rfl
  · have hLastSlow : w.lastTimeoutUs = w.slowTimeoutUs := by
      rw [WaitArgs.lastTimeoutUs, if_pos hSlow]
    rw [hLastSlow] at hEarly ⊢
    rw [against_onlySlow _ (hOne.resolve_right hSlow) hSlow, phase_of_tooEarly _ hEarly]
    rfl

/-- The wait waits only if a slow phase after a fast one is not too early. -/
theorem Waits.slow_of_timeout (h : Waits opponent w) (hFast : w.fastTimeoutUs ≠ 0)
    (hSlow : w.slowTimeoutUs ≠ 0) {value : Word}
    (hPhase : phase expiredNonzero opponent w w.fastTimeoutUs fuel [] =
      (some (.timeout, value), past)) : ¬ TooEarly opponent w w.slowTimeoutUs past := by
  intro hEarly
  have hLast : w.lastTimeoutUs = w.slowTimeoutUs := by
    rw [WaitArgs.lastTimeoutUs, if_pos hSlow]
  cases fuel with
  | zero =>
      have hNone := phase_zero expiredNonzero opponent w w.fastTimeoutUs []
      rw [hPhase] at hNone
      cases hNone
  | succ fuel =>
      apply not_timedOut_afterLook hEarly
      apply h.timedOut (fuel + 1) (some (firstValue opponent w w.slowTimeoutUs past))
      rw [intelDeWaitForRegister, against_of_timeout _ hFast hSlow hPhase,
        phase_of_tooEarly _ hEarly]
      rfl

theorem Waits.slow (hClock : NonDecreasing opponent time) (h : Waits opponent w)
    (hFast : w.fastTimeoutUs ≠ 0) (hSlow : w.slowTimeoutUs ≠ 0)
    (hBegins : SlowBegins opponent w past) : ¬ TooEarly opponent w w.slowTimeoutUs past := by
  cases hBegins with
  | early hEarly => exact h.slow_of_timeout hFast hSlow (phase_of_tooEarly 0 hEarly)
  | expired hLate hPhase =>
      rw [← phase_eq hClock hLate] at hPhase
      exact h.slow_of_timeout hFast hSlow hPhase

/-- The fast phase that gives up too early is made good by the slow one, or not. -/
theorem fastEarly_against (hClock : NonDecreasing opponent time) (hInTime : InTime opponent w)
    (hFast : w.fastTimeoutUs ≠ 0) (hSlow : w.slowTimeoutUs ≠ 0)
    (hEarly : TooEarly opponent w w.fastTimeoutUs []) {result : IOReturn × Option Word}
    {transcript : Transcript WaitAnswer}
    (h : (intelDeWaitForRegister w fuel).against opponent = (some result, transcript)) :
    ∃ late, phase expiredPositive opponent w w.slowTimeoutUs fuel
        (afterLook opponent w w.fastTimeoutUs []) = (some late, transcript) ∧
      result = stored late := by
  cases fuel with
  | zero =>
      have hNone := against_zero opponent hFast
      rw [h] at hNone
      cases hNone
  | succ fuel =>
      have hLate := hInTime.slow hFast hSlow _ (.early hEarly)
      rw [against_of_fastEarly hClock hFast hSlow hEarly hLate] at h
      obtain ⟨hResult, hTranscript⟩ := Prod.mk.inj h
      obtain ⟨late, hLate, hStored⟩ := Option.map_eq_some_iff.mp hResult
      exact ⟨late, Prod.ext hLate hTranscript, hStored.symm⟩

/-- If the wait waits, a fast phase that gives up too early is made good. -/
theorem Waits.fast (hClock : NonDecreasing opponent time) (h : Waits opponent w)
    (hFast : w.fastTimeoutUs ≠ 0) (hSlow : w.slowTimeoutUs ≠ 0)
    (hEarly : TooEarly opponent w w.fastTimeoutUs []) {whole : IOReturn × Option Word}
    {late : IOReturn × Word}
    (hWhole : ((waitAsForPanelPowerCycle w fuel).against opponent).1 = some whole)
    (hLatePhase : (phase expiredPositive opponent w w.slowTimeoutUs fuel
      (afterLook opponent w w.fastTimeoutUs [])).1 = some late) : whole.1 = late.1 := by
  cases fuel with
  | zero =>
      rw [phase_zero] at hLatePhase
      cases hLatePhase
  | succ fuel =>
      have hLate := h.slow hClock hFast hSlow (.early hEarly)
      have hCode : ((intelDeWaitForRegister w (fuel + 1)).against opponent).1 =
          some (stored late) := by
        rw [against_of_fastEarly hClock hFast hSlow hEarly hLate, hLatePhase]
        rfl
      exact (h.agrees (fuel + 1) _ _ hCode hWhole).symm

/-- Then the whole wait comes to what the first look of the slow phase finds. -/
theorem Waits.found (hClock : NonDecreasing opponent time) (h : Waits opponent w)
    (hFast : w.fastTimeoutUs ≠ 0) (hSlow : w.slowTimeoutUs ≠ 0)
    (hEarly : TooEarly opponent w w.fastTimeoutUs []) {ret : IOReturn}
    (hFinds : FirstFinds opponent w w.slowTimeoutUs (afterLook opponent w w.fastTimeoutUs []) ret)
    {whole : IOReturn × Option Word}
    (hWhole : ((waitAsForPanelPowerCycle w fuel).against opponent).1 = some whole) :
    whole.1 = ret := by
  cases fuel with
  | zero =>
      have hNone : ∀ ret value, (phase expiredPositive opponent w w.fastTimeoutUs 0 []).1 =
          some (ret, value) → ret = .success ∨ w.slowTimeoutUs = 0 := by
        rw [phase_zero]
        simp
      rw [waitAsForPanelPowerCycle, against_of_decided _ hFast hNone, phase_zero] at hWhole
      cases hWhole
  | succ fuel =>
      exact h.fast hClock hFast hSlow hEarly hWhole (phase_of_firstFinds fuel hFinds)

/-- What the slow phase comes to after a fast one that gave up too early is what the
whole wait would come to: its first look decides, or the clock stands still. -/
theorem InTime.madeGood (h : InTime opponent w) (hFast : w.fastTimeoutUs ≠ 0)
    (hSlow : w.slowTimeoutUs ≠ 0) (hEarly : TooEarly opponent w w.fastTimeoutUs [])
    {whole : IOReturn × Option Word} {late : IOReturn × Word}
    (hWhole : ((waitAsForPanelPowerCycle w fuel).against opponent).1 = some whole)
    (hLatePhase : (phase expiredPositive opponent w w.slowTimeoutUs fuel
      (afterLook opponent w w.fastTimeoutUs [])).1 = some late) : whole.1 = late.1 := by
  cases fuel with
  | zero =>
      rw [phase_zero] at hLatePhase
      cases hLatePhase
  | succ fuel =>
      have hFound : ∀ ret, FirstFinds opponent w w.slowTimeoutUs
          (afterLook opponent w w.fastTimeoutUs []) ret → whole.1 = late.1 := by
        intro ret hFinds
        rw [phase_of_firstFinds fuel hFinds] at hLatePhase
        cases hLatePhase
        exact h.fast hFast hSlow hEarly ret hFinds _ _ hWhole
      by_cases hMatches : w.Matches (firstValue opponent w w.slowTimeoutUs
          (afterLook opponent w w.fastTimeoutUs []))
      · exact hFound .success hMatches
      · have hReached := Nat.not_lt.mp fun hBefore =>
          h.slow hFast hSlow _ (.early hEarly) ⟨hMatches, hBefore⟩
        rcases Nat.lt_or_eq_of_le hReached with hPast | hStands
        · exact hFound .timeout ⟨hMatches, hPast⟩
        · exact h.standing hFast hSlow hEarly ⟨hMatches, hStands.symm⟩ _ _ _ hWhole hLatePhase

/-- Either the fast phase of two gives up too early, or the tests make no difference. -/
theorem InTime.early_or_same (hClock : NonDecreasing opponent time) (h : InTime opponent w)
    (fuel : Nat) :
    (w.fastTimeoutUs ≠ 0 ∧ w.slowTimeoutUs ≠ 0 ∧ TooEarly opponent w w.fastTimeoutUs []) ∨
      (intelDeWaitForRegister w fuel).against opponent =
        (waitAsForPanelPowerCycle w fuel).against opponent := by
  by_cases hEarly : w.fastTimeoutUs ≠ 0 ∧ w.slowTimeoutUs ≠ 0 ∧
      TooEarly opponent w w.fastTimeoutUs []
  · exact .inl hEarly
  · apply Or.inr
    exact against_eq_of_inTime hClock h fun hFast hSlow hFound => hEarly ⟨hFast, hSlow, hFound⟩

/-- A wait whose phases look at their clock in time times out after its deadline. -/
theorem InTime.timedOut (hClock : NonDecreasing opponent time) (h : InTime opponent w)
    {out : Option Word} {transcript : Transcript WaitAnswer}
    (hRun : (intelDeWaitForRegister w fuel).against opponent = (some (.timeout, out), transcript)) :
    TimedOut w transcript := by
  rcases h.early_or_same hClock fuel with ⟨hFast, hSlow, hEarly⟩ | hSame
  · obtain ⟨⟨ret, value⟩, hPhase, hStored⟩ :=
      fastEarly_against hClock h hFast hSlow hEarly hRun
    obtain ⟨rfl, rfl⟩ := Prod.mk.inj hStored
    obtain ⟨rest, hTranscript, hOutcome⟩ := plays_phase expiredPositive opponent w
      w.slowTimeoutUs fuel (afterLook opponent w w.fastTimeoutUs [])
    rw [hPhase] at hTranscript hOutcome
    obtain rfl : transcript = afterLook opponent w w.fastTimeoutUs [] ++ rest := hTranscript
    apply timedOut_of_phase
    rw [WaitArgs.lastTimeoutUs, if_pos hSlow]
    exact hOutcome
  · rw [hSame] at hRun
    exact (outcome_of_against hRun).timedOut

/-- It comes to what the other wait comes to. -/
theorem InTime.agrees (hClock : NonDecreasing opponent time) (h : InTime opponent w)
    {one other : IOReturn × Option Word}
    (hOne : ((intelDeWaitForRegister w fuel).against opponent).1 = some one)
    (hOther : ((waitAsForPanelPowerCycle w fuel).against opponent).1 = some other) :
    one.1 = other.1 := by
  rcases h.early_or_same hClock fuel with ⟨hFast, hSlow, hEarly⟩ | hSame
  · obtain ⟨late, hPhase, rfl⟩ :=
      fastEarly_against hClock h hFast hSlow hEarly (Prod.ext hOne rfl)
    exact (h.madeGood hFast hSlow hEarly hOther (congrArg Prod.fst hPhase)).symm
  · rw [hSame, hOther] at hOne
    cases hOne
    rfl

end Promise

/-- A wait keeps its promise just when its phases look at their clock in time. -/
theorem waits_iff (opponent : Opponent WaitAnswer) (time : Transcript WaitAnswer → Nat)
    (hClock : NonDecreasing opponent time) (w : WaitArgs) :
    Waits opponent w ↔ InTime opponent w := by
  constructor
  · intro h
    exact {
      only := h.only
      slow := fun hFast hSlow past hBegins => h.slow hClock hFast hSlow hBegins
      fast := fun hFast hSlow hEarly ret hFinds fuel whole hWhole =>
        h.found hClock hFast hSlow hEarly hFinds hWhole
      standing := fun hFast hSlow hEarly _ fuel whole late hWhole hLatePhase =>
        h.fast hClock hFast hSlow hEarly hWhole hLatePhase }
  · intro h
    refine {
      success_iff := fun fuel ret out transcript hRun => (outcome_of_against hRun).success_iff
      timedOut := fun fuel out transcript hRun => h.timedOut hClock hRun
      stores := fun fuel ret out transcript hRun => (outcome_of_against hRun).stores
      ends := ?_
      agrees := fun fuel one other hOne hOther => h.agrees hClock hOne hOther }
    intro fuel transcript hRun
    apply (outcome_of_against hRun).notPassed
    intro now deadline hPassed
    rw [cmpAbsoluteTime, if_neg (Nat.lt_asymm hPassed), if_neg (Nat.ne_of_gt hPassed)]
    rfl

/-- A world whose clock moves on by a microsecond with every operation, and whose
register is set after the fourth. -/
def ticking : Opponent WaitAnswer
  | past, .intervalToDeadline ns => 1000 * past.length + ns
  | past, .machAbsoluteTime => 1000 * past.length
  | past, .read _ => if past.length < 4 then 0 else 1
  | _, .pause _ => ()
  | _, .sleep _ => ()

theorem ticking_nonDecreasing : NonDecreasing ticking fun past => 1000 * past.length where
  now _ := rfl
  advances past op := by
    rw [List.length_append]
    omega

/-- A wait of 100 us for the first bit of a register. -/
def waitForBit : WaitArgs := ⟨0x64C00, 1, 1, 0, 100, false⟩

/-- A wait whose fast phase gives up a microsecond too early, and whose slow phase sees
the bit at its first look. -/
def waitTwice : WaitArgs := ⟨0x64C00, 1, 1, 2, 1, false⟩

theorem waits_ticking : Waits ticking waitTwice := by
  refine (waits_iff ticking (fun past => 1000 * past.length) ticking_nonDecreasing waitTwice).mpr ?_
  have hEarly : TooEarly ticking waitTwice waitTwice.fastTimeoutUs [] := ⟨by decide, by decide⟩
  have hFinds : waitTwice.Matches (firstValue ticking waitTwice waitTwice.slowTimeoutUs
      (afterLook ticking waitTwice waitTwice.fastTimeoutUs [])) := by decide
  exact {
    only := fun hOne => absurd hOne (by decide)
    slow := fun _ _ past hBegins => by
      cases hBegins with
      | early _ => exact fun hSlow => hSlow.1 hFinds
      | expired hLate _ => exact absurd hEarly hLate
    fast := fun _ _ _ ret hFound fuel whole hWhole => by
      match ret, fuel with
      | .timeout, _ => exact absurd hFinds hFound.1
      | .error, _ => exact absurd hFound id
      | .success, 0 => cases hWhole
      | .success, 1 => cases hWhole
      | .success, fuel + 2 =>
          cases hWhole
          rfl
    standing := fun _ _ _ hStands => absurd hFinds hStands.1 }

/-- A wait of 100 us gives up after the first read. -/
theorem not_waits_ticking : ¬ Waits ticking waitForBit := by
  intro h
  have hEarly : TooEarly ticking waitForBit waitForBit.lastTimeoutUs [] := ⟨by decide, by decide⟩
  exact h.only (.inl rfl) (by decide) hEarly

end NootedBlue.De
