import Mathlib.Logic.Basic
import NootedBlue.Semantics.Transcript

/-! Waits for a register. A wait has a fast and a slow phase, each with a
deadline of its own; a phase looks at the clock, reads the register, and pauses
before it looks again. When a phase gives up is decided by a comparison of the
clock with its deadline, and the two places of the driver that make it test the
result of the comparison differently. -/
namespace NootedBlue.De

open Interaction

abbrev Word := BitVec 32

/-- The results `kIOReturnSuccess`, `kIOReturnError` and `kIOReturnTimeout`. -/
inductive IOReturn where
  | success
  | error
  | timeout
  deriving DecidableEq, Repr

/-- What a wait does to the world. A deadline is an interval in nanoseconds that
the kernel turns into a time. -/
inductive WaitOp where
  | intervalToDeadline (ns : Nat)
  | machAbsoluteTime
  | read (reg : Nat)
  | pause (ns : Nat)
  | sleep (ms : Nat)
  deriving DecidableEq, Repr

abbrev WaitAnswer : WaitOp → Type
  | .intervalToDeadline _ => Nat
  | .machAbsoluteTime => Nat
  | .read _ => Word
  | .pause _ => Unit
  | .sleep _ => Unit

abbrev Wait := Program WaitOp WaitAnswer

/-- The parameters of `intel_de_wait_for_register`. -/
structure WaitArgs where
  reg : Nat
  mask : Word
  value : Word
  fastTimeoutUs : Nat
  slowTimeoutUs : Nat
  isAtomic : Bool
  deriving DecidableEq, Repr

/-- A value of the register that the wait is for. -/
def WaitArgs.Matches (w : WaitArgs) (regValue : Word) : Prop := regValue &&& w.mask = w.value

instance (w : WaitArgs) (regValue : Word) : Decidable (w.Matches regValue) :=
  inferInstanceAs (Decidable (_ = _))

/-- `CMP_ABSOLUTETIME`. -/
def cmpAbsoluteTime (now deadline : Nat) : Int :=
  if now < deadline then -1 else if now = deadline then 0 else 1

/-- The test of `__intel_de_wait_for_register`: the comparison is not zero. -/
def expiredNonzero (cmp : Int) : Bool := cmp ≠ 0

/-- The test of `wait_panel_power_cycle`: the comparison is positive. -/
def expiredPositive (cmp : Int) : Bool := cmp > 0

/-- What a phase makes of one value of the register. Nothing means that it has
to go on. -/
def verdict (expired : Int → Bool) (w : WaitArgs) (deadline now : Nat) (regValue : Word) :
    Option IOReturn :=
  if w.Matches regValue then some .success
  else if expired (cmpAbsoluteTime now deadline) then some .timeout
  else none

/-- The pause before the next iteration. -/
def pauseOnce (isAtomic : Bool) (waitUs : Nat) : Wait Unit :=
  if isAtomic ∨ waitUs < 1000 then Program.perform (WaitOp.pause (waitUs * 1000))
  else Program.perform (WaitOp.sleep (waitUs / 1000))

/-- What follows the verdict. The pause is doubled until it is a millisecond or
more. -/
def settle (isAtomic : Bool) (waitUs : Nat) (regValue : Word) :
    Option IOReturn → Wait (Iteration Nat (IOReturn × Word))
  | some ret => return .stop (ret, regValue)
  | none => do
      pauseOnce isAtomic waitUs
      return .next (if waitUs < 1000 then waitUs * 2 else waitUs)

/-- One iteration of a phase. -/
def pollOnce (expired : Int → Bool) (w : WaitArgs) (deadline : Nat) (isAtomic : Bool)
    (waitUs : Nat) : Wait (Iteration Nat (IOReturn × Word)) := do
  let now ← Program.perform WaitOp.machAbsoluteTime
  let regValue ← Program.perform (WaitOp.read w.reg)
  settle isAtomic waitUs regValue (verdict expired w deadline now regValue)

/-- The loop of a phase, with the pauses that its timeout asks for. -/
def polls (expired : Int → Bool) (w : WaitArgs) (timeoutUs deadline fuel : Nat) :
    Wait (Option (IOReturn × Word)) :=
  if timeoutUs ≤ 10 then loop (pollOnce expired w deadline true) fuel 1
  else loop (pollOnce expired w deadline w.isAtomic) fuel 10

/-- `__intel_de_wait_for_register`, with the last value that it read. Nothing
means that the fuel ran out. -/
def waitOnce (expired : Int → Bool) (w : WaitArgs) (timeoutUs fuel : Nat) :
    Wait (Option (IOReturn × Word)) := do
  let deadline ← Program.perform (WaitOp.intervalToDeadline (timeoutUs * 1000))
  polls expired w timeoutUs deadline fuel

/-- The fast phase, if there is one. -/
def fastPhase (expired : Int → Bool) (w : WaitArgs) (fuel : Nat) :
    Wait (Option (IOReturn × Option Word)) :=
  if w.fastTimeoutUs ≠ 0 then do
    let result ← waitOnce expired w w.fastTimeoutUs fuel
    return result.map fun r => (r.1, some r.2)
  else return some (.error, none)

/-- The slow phase, if there is one and the fast phase did not succeed. -/
def slowPhase (expired : Int → Bool) (w : WaitArgs) (fuel : Nat) :
    Option (IOReturn × Option Word) → Wait (Option (IOReturn × Option Word))
  | none => return none
  | some (ret, out) =>
      if ret ≠ .success ∧ w.slowTimeoutUs ≠ 0 then do
        let result ← waitOnce expired w w.slowTimeoutUs fuel
        return result.map fun r => (r.1, some r.2)
      else return some (ret, out)

/-- `intel_de_wait_for_register` with a test of the comparison: what it returns,
and what it stores in `out_value` if it stores anything. -/
def waitForRegister (expired : Int → Bool) (w : WaitArgs) (fuel : Nat) :
    Wait (Option (IOReturn × Option Word)) := do
  let first ← fastPhase expired w fuel
  slowPhase expired w fuel first

/-- `intel_de_wait_for_register`. -/
def intelDeWaitForRegister : WaitArgs → Nat → Wait (Option (IOReturn × Option Word)) :=
  waitForRegister expiredNonzero

/-- The same wait, with its loop written as in `wait_panel_power_cycle`. -/
def waitAsForPanelPowerCycle : WaitArgs → Nat → Wait (Option (IOReturn × Option Word)) :=
  waitForRegister expiredPositive

abbrev WaitExchange := Exchange WaitAnswer

namespace WaitExchange

def deadline : WaitExchange → Option (Nat × Nat)
  | ⟨.intervalToDeadline ns, time⟩ => some (ns, time)
  | _ => none

def reading : WaitExchange → Option Nat
  | ⟨.machAbsoluteTime, now⟩ => some now
  | _ => none

def readValue (w : WaitArgs) : WaitExchange → Option Word
  | ⟨.read reg, value⟩ => if reg = w.reg then some value else none
  | _ => none

/-- What a phase does while it neither succeeds nor gives up. -/
def Pending (expired : Int → Bool) (w : WaitArgs) (deadline : Nat) : WaitExchange → Prop
  | ⟨.intervalToDeadline _, _⟩ => False
  | ⟨.machAbsoluteTime, now⟩ => expired (cmpAbsoluteTime now deadline) = false
  | ⟨.read _, value⟩ => ¬ w.Matches value
  | ⟨.pause _, _⟩ => True
  | ⟨.sleep _, _⟩ => True

end WaitExchange

/-- The intervals and the deadlines that they were turned into. -/
def deadlines (transcript : Transcript WaitAnswer) : List (Nat × Nat) :=
  transcript.filterMap WaitExchange.deadline

/-- The times that were read from the clock. -/
def readings (transcript : Transcript WaitAnswer) : List Nat :=
  transcript.filterMap WaitExchange.reading

/-- The values that were read from the register. -/
def readValues (w : WaitArgs) (transcript : Transcript WaitAnswer) : List Word :=
  transcript.filterMap (WaitExchange.readValue w)

/-- One exchange more, for the times that were read since the last deadline. -/
def look (seen : List Nat) : WaitExchange → List Nat
  | ⟨.intervalToDeadline _, _⟩ => []
  | ⟨.machAbsoluteTime, now⟩ => seen ++ [now]
  | _ => seen

def looks (transcript : Transcript WaitAnswer) : List Nat := transcript.foldl look []

/-- The last timeout that is not zero. -/
def WaitArgs.lastTimeoutUs (w : WaitArgs) : Nat :=
  if w.slowTimeoutUs ≠ 0 then w.slowTimeoutUs else w.fastTimeoutUs

/-- What the polls of a phase come to: all of them are pending, or those before
the last one. -/
def PollOutcome (expired : Int → Bool) (w : WaitArgs) (deadline fuel : Nat)
    (transcript : Transcript WaitAnswer) : Option (IOReturn × Word) → Prop
  | none =>
      (∀ exchange ∈ transcript, WaitExchange.Pending expired w deadline exchange) ∧
        (readings transcript).length = fuel
  | some (ret, value) => ∃ earlier now,
      transcript = earlier ++ [⟨.machAbsoluteTime, now⟩, ⟨.read w.reg, value⟩] ∧
      (∀ exchange ∈ earlier, WaitExchange.Pending expired w deadline exchange) ∧
      verdict expired w deadline now value = some ret

/-- What a phase comes to. -/
def PhaseOutcome (expired : Int → Bool) (w : WaitArgs) (timeoutUs fuel : Nat)
    (transcript : Transcript WaitAnswer) (result : Option (IOReturn × Word)) : Prop :=
  ∃ deadline polled, transcript = ⟨.intervalToDeadline (timeoutUs * 1000), deadline⟩ :: polled ∧
    PollOutcome expired w deadline fuel polled result

/-- What a wait comes to: its last phase decides, and nothing before it matched. -/
def WaitOutcome (expired : Int → Bool) (w : WaitArgs) (fuel : Nat)
    (transcript : Transcript WaitAnswer) : Option (IOReturn × Option Word) → Prop
  | none => ∃ before timeoutUs phase, transcript = before ++ phase ∧
      PhaseOutcome expired w timeoutUs fuel phase none
  | some (ret, none) => transcript = [] ∧ ret = .error
  | some (ret, some value) => ∃ before timeoutUs phase, transcript = before ++ phase ∧
      (∀ early ∈ readValues w before, ¬ w.Matches early) ∧
      PhaseOutcome expired w timeoutUs fuel phase (some (ret, value)) ∧
      (ret = .timeout → timeoutUs = w.lastTimeoutUs)

section Transcripts

variable {first rest : Transcript WaitAnswer} {w : WaitArgs} {expired : Int → Bool} {deadline : Nat}

@[simp] theorem deadlines_append : deadlines (first ++ rest) = deadlines first ++ deadlines rest :=
  List.filterMap_append

@[simp] theorem readings_append : readings (first ++ rest) = readings first ++ readings rest :=
  List.filterMap_append

@[simp] theorem readValues_append :
    readValues w (first ++ rest) = readValues w first ++ readValues w rest :=
  List.filterMap_append

theorem readValues_deadline (ns time : Nat) :
    readValues w (⟨.intervalToDeadline ns, time⟩ :: rest) = readValues w rest := rfl

theorem readValues_poll (now : Nat) (value : Word) :
    readValues w [⟨.machAbsoluteTime, now⟩, ⟨.read w.reg, value⟩] = [value] := by
  have hValue : WaitExchange.readValue w ⟨.read w.reg, value⟩ = some value := if_pos rfl
  have hClock : WaitExchange.readValue w ⟨.machAbsoluteTime, now⟩ = none := rfl
  rw [readValues, List.filterMap_cons_none hClock, List.filterMap_cons_some hValue]
  rfl

theorem readings_poll (now reg : Nat) (value : Word) :
    readings [⟨.machAbsoluteTime, now⟩, ⟨.read reg, value⟩] = [now] := rfl

theorem deadlines_deadline (ns time : Nat) :
    deadlines (⟨.intervalToDeadline ns, time⟩ :: rest) = (ns, time) :: deadlines rest := rfl

theorem deadlines_poll (now reg : Nat) (value : Word) :
    deadlines [⟨.machAbsoluteTime, now⟩, ⟨.read reg, value⟩] = [] := rfl

/-- Nothing pending is a deadline. -/
theorem deadlines_of_pending
    (h : ∀ exchange ∈ rest, WaitExchange.Pending expired w deadline exchange) :
    deadlines rest = [] := by
  apply List.filterMap_eq_nil_iff.mpr
  intro ⟨op, answer⟩ hMem
  cases op with
  | intervalToDeadline ns => exact absurd (h _ hMem) id
  | machAbsoluteTime => rfl
  | read reg => rfl
  | pause ns => rfl
  | sleep ms => rfl

/-- What was read while it was pending does not match. -/
theorem not_matches_of_pending
    (h : ∀ exchange ∈ rest, WaitExchange.Pending expired w deadline exchange)
    {value : Word} (hMem : value ∈ readValues w rest) : ¬ w.Matches value := by
  obtain ⟨⟨op, answer⟩, hExchange, hRead⟩ := List.mem_filterMap.mp hMem
  cases op with
  | read reg =>
      simp only [WaitExchange.readValue, Option.ite_none_right_eq_some, Option.some.injEq] at hRead
      rw [← hRead.2]
      exact h _ hExchange
  | intervalToDeadline ns => cases hRead
  | machAbsoluteTime => cases hRead
  | pause ns => cases hRead
  | sleep ms => cases hRead

/-- While it was pending the clock had not expired. -/
theorem not_expired_of_pending
    (h : ∀ exchange ∈ rest, WaitExchange.Pending expired w deadline exchange)
    {now : Nat} (hMem : now ∈ readings rest) :
    expired (cmpAbsoluteTime now deadline) = false := by
  obtain ⟨⟨op, answer⟩, hExchange, hReading⟩ := List.mem_filterMap.mp hMem
  cases op with
  | machAbsoluteTime =>
      cases hReading
      exact h _ hExchange
  | intervalToDeadline ns => cases hReading
  | read reg => cases hReading
  | pause ns => cases hReading
  | sleep ms => cases hReading

theorem foldl_look_of_pending (seen : List Nat)
    (h : ∀ exchange ∈ rest, WaitExchange.Pending expired w deadline exchange) :
    rest.foldl look seen = seen ++ readings rest := by
  induction rest generalizing seen with
  | nil => exact (List.append_nil seen).symm
  | cons exchange rest ih =>
      obtain ⟨op, answer⟩ := exchange
      have hRest := fun exchange hMem => h exchange (List.mem_cons_of_mem _ hMem)
      cases op with
      | intervalToDeadline ns => exact absurd (h _ List.mem_cons_self) id
      | machAbsoluteTime =>
          rw [List.foldl_cons, ih _ hRest, look, List.append_assoc]
          rfl
      | read reg => exact ih seen hRest
      | pause ns => exact ih seen hRest
      | sleep ms => exact ih seen hRest

/-- The looks of a phase that was pending all the time. -/
theorem looks_of_pending (first : Transcript WaitAnswer) (ns time : Nat)
    (h : ∀ exchange ∈ rest, WaitExchange.Pending expired w deadline exchange) :
    looks (first ++ ⟨.intervalToDeadline ns, time⟩ :: rest) = readings rest := by
  rw [looks, List.foldl_append, List.foldl_cons, look]
  exact foldl_look_of_pending [] h

end Transcripts

section Parts

variable {expired : Int → Bool} {w : WaitArgs} {deadline waitUs fuel timeoutUs : Nat}
  {isAtomic : Bool} {transcript : Transcript WaitAnswer}

theorem verdict_none_iff {now : Nat} {value : Word} :
    verdict expired w deadline now value = none ↔
      ¬ w.Matches value ∧ expired (cmpAbsoluteTime now deadline) = false := by
  rw [verdict]
  split
  next hMatches => simp [hMatches]
  next hMismatch => simp [hMismatch]

theorem verdict_success_iff {now : Nat} {value : Word} :
    verdict expired w deadline now value = some .success ↔ w.Matches value := by
  rw [verdict]
  split
  next hMatches => simp [hMatches]
  next hMismatch => simp [hMismatch]

theorem verdict_timeout_iff {now : Nat} {value : Word} :
    verdict expired w deadline now value = some .timeout ↔
      ¬ w.Matches value ∧ expired (cmpAbsoluteTime now deadline) = true := by
  rw [verdict]
  split
  next hMatches => simp [hMatches]
  next hMismatch => simp [hMismatch]

theorem verdict_ne_error {now : Nat} {value : Word} :
    verdict expired w deadline now value ≠ some .error := by
  rw [verdict]
  split
  · simp
  · simp

/-- A pause is nothing but a pause. -/
theorem plays_pauseOnce (expired : Int → Bool) (w : WaitArgs) (deadline : Nat) {u : Unit}
    (plays : Plays (pauseOnce isAtomic waitUs) transcript u) :
    (∀ exchange ∈ transcript, WaitExchange.Pending expired w deadline exchange) ∧
      readings transcript = [] := by
  rw [pauseOnce] at plays
  split at plays
  · obtain ⟨answer, rest, rfl, hDone⟩ := plays_call_iff.mp plays
    obtain ⟨rfl, -⟩ := plays_done_iff.mp hDone
    exact ⟨by simp [WaitExchange.Pending], rfl⟩
  · obtain ⟨answer, rest, rfl, hDone⟩ := plays_call_iff.mp plays
    obtain ⟨rfl, -⟩ := plays_done_iff.mp hDone
    exact ⟨by simp [WaitExchange.Pending], rfl⟩

/-- One iteration looks at the clock and the register, and goes on, after a pause,
only if neither ends the phase. -/
theorem plays_pollOnce {iteration : Iteration Nat (IOReturn × Word)}
    (plays : Plays (pollOnce expired w deadline isAtomic waitUs) transcript iteration) :
    (∃ now value ret, iteration = .stop (ret, value) ∧
      transcript = [⟨.machAbsoluteTime, now⟩, ⟨.read w.reg, value⟩] ∧
      verdict expired w deadline now value = some ret) ∨
    (∃ next, iteration = .next next) ∧
      (∀ exchange ∈ transcript, WaitExchange.Pending expired w deadline exchange) ∧
      (readings transcript).length = 1 := by
  obtain ⟨now, afterNow, rfl, hNow⟩ := plays_call_iff.mp plays
  obtain ⟨value, afterRead, rfl, hRead⟩ := plays_call_iff.mp hNow
  change Plays (settle isAtomic waitUs value (verdict expired w deadline now value)) _ _ at hRead
  rcases hVerdict : verdict expired w deadline now value with _ | ret
  · apply Or.inr
    rw [hVerdict] at hRead
    obtain ⟨paused, rest, u, rfl, hPause, hDone⟩ := plays_bind_iff.mp hRead
    obtain ⟨rfl, rfl⟩ := plays_done_iff.mp hDone
    obtain ⟨hPending, hReadings⟩ := plays_pauseOnce expired w deadline hPause
    obtain ⟨hMismatch, hEarly⟩ := verdict_none_iff.mp hVerdict
    refine ⟨⟨_, rfl⟩, ?_, ?_⟩
    · simp only [List.append_nil, List.mem_cons, forall_eq_or_imp]
      exact ⟨hEarly, hMismatch, hPending⟩
    · have hCons : readings (⟨.machAbsoluteTime, now⟩ :: ⟨.read w.reg, value⟩ :: (paused ++ [])) =
          now :: readings paused := by
        rw [List.append_nil]
        rfl
      rw [hCons, hReadings]
      rfl
  · apply Or.inl
    rw [hVerdict] at hRead
    obtain ⟨rfl, rfl⟩ := plays_done_iff.mp hRead
    exact ⟨now, value, ret, rfl, rfl, hVerdict⟩

/-- The loop of a phase, by induction on its iterations: all but the last one
are pending. -/
theorem plays_loop {result : Option (IOReturn × Word)}
    (plays : Plays (loop (pollOnce expired w deadline isAtomic) fuel waitUs) transcript result) :
    PollOutcome expired w deadline fuel transcript result := by
  apply plays_loop_rule ?_ ?_ ?_ plays
  · intro waitUs
    exact ⟨by simp, rfl⟩
  · intro fuel waitUs transcript result hStop
    rcases plays_pollOnce hStop with ⟨now, value, ret, hResult, rfl, hVerdict⟩ | ⟨⟨next, hNext⟩, _⟩
    · cases hResult
      exact ⟨[], now, rfl, by simp, hVerdict⟩
    · cases hNext
  · intro fuel waitUs first next rest result hNext hRest
    rcases plays_pollOnce hNext with ⟨now, value, ret, hResult, _⟩ | ⟨_, hPending, hOne⟩
    · cases hResult
    · cases result with
      | none =>
          obtain ⟨hLater, hCount⟩ := hRest
          refine ⟨?_, by rw [readings_append, List.length_append, hOne, hCount, Nat.add_comm]⟩
          intro exchange hMem
          exact (List.mem_append.mp hMem).elim (hPending exchange) (hLater exchange)
      | some result =>
          obtain ⟨earlier, now, rfl, hEarlier, hVerdict⟩ := hRest
          refine ⟨first ++ earlier, now, (List.append_assoc _ _ _).symm, ?_, hVerdict⟩
          intro exchange hMem
          exact (List.mem_append.mp hMem).elim (hPending exchange) (hEarlier exchange)

/-- A phase sets its deadline and polls. -/
theorem plays_waitOnce {result : Option (IOReturn × Word)}
    (plays : Plays (waitOnce expired w timeoutUs fuel) transcript result) :
    PhaseOutcome expired w timeoutUs fuel transcript result := by
  obtain ⟨deadline, polled, rfl, hPolls⟩ := plays_call_iff.mp plays
  change Plays (polls expired w timeoutUs deadline fuel) _ _ at hPolls
  rw [polls] at hPolls
  split at hPolls
  · exact ⟨deadline, polled, rfl, plays_loop hPolls⟩
  · exact ⟨deadline, polled, rfl, plays_loop hPolls⟩

/-- A phase that timed out has read nothing that matches. -/
theorem PhaseOutcome.not_matches {value : Word}
    (h : PhaseOutcome expired w timeoutUs fuel transcript (some (.timeout, value))) :
    ∀ early ∈ readValues w transcript, ¬ w.Matches early := by
  obtain ⟨deadline, polled, rfl, earlier, now, rfl, hEarlier, hVerdict⟩ := h
  rw [readValues_deadline, readValues_append, readValues_poll]
  intro early hMem
  rcases List.mem_append.mp hMem with hBefore | hLast
  · exact not_matches_of_pending hEarlier hBefore
  · rw [List.mem_singleton.mp hLast]
    exact (verdict_timeout_iff.mp hVerdict).1

theorem PhaseOutcome.ne_error {value : Word} :
    ¬ PhaseOutcome expired w timeoutUs fuel transcript (some (.error, value)) := by
  intro ⟨_, _, _, _, _, _, _, hVerdict⟩
  exact verdict_ne_error hVerdict

/-- What follows a first phase that did not succeed, if there is a slow one. -/
theorem plays_slow (before : Transcript WaitAnswer)
    (hBefore : ∀ early ∈ readValues w before, ¬ w.Matches early)
    (hSlow : w.slowTimeoutUs ≠ 0) {result : Option (IOReturn × Word)}
    (plays : Plays (waitOnce expired w w.slowTimeoutUs fuel) transcript result) :
    WaitOutcome expired w fuel (before ++ transcript) (result.map fun r => (r.1, some r.2)) := by
  have hPhase := plays_waitOnce plays
  cases result with
  | none => exact ⟨before, _, transcript, rfl, hPhase⟩
  | some result =>
      refine ⟨before, _, transcript, rfl, hBefore, hPhase, ?_⟩
      intro _
      rw [WaitArgs.lastTimeoutUs, if_pos hSlow]

/-- A slow phase that is run, after a first one without a match. -/
theorem plays_slowPhase {ret : IOReturn} {out : Option Word} (before : Transcript WaitAnswer)
    (hBefore : ∀ early ∈ readValues w before, ¬ w.Matches early)
    (hSlow : ret ≠ .success ∧ w.slowTimeoutUs ≠ 0) {result : Option (IOReturn × Option Word)}
    (plays : Plays (slowPhase expired w fuel (some (ret, out))) transcript result) :
    WaitOutcome expired w fuel (before ++ transcript) result := by
  rw [slowPhase, if_pos hSlow] at plays
  obtain ⟨later, tail, outcome, rfl, hLater, hDone⟩ := plays_bind_iff.mp plays
  obtain ⟨rfl, rfl⟩ := plays_done_iff.mp hDone
  rw [List.append_nil]
  exact plays_slow before hBefore hSlow.2 hLater

/-- A wait, one case for each way its fast phase can end. -/
theorem plays_waitForRegister {result : Option (IOReturn × Option Word)}
    (plays : Plays (waitForRegister expired w fuel) transcript result) :
    WaitOutcome expired w fuel transcript result := by
  obtain ⟨first, rest, fast, rfl, hFast, hRest⟩ := plays_bind_iff.mp plays
  rw [fastPhase] at hFast
  split at hFast
  next hNonzero =>
    obtain ⟨phase, tail, outcome, rfl, hPhase, hDone⟩ := plays_bind_iff.mp hFast
    obtain ⟨rfl, rfl⟩ := plays_done_iff.mp hDone
    rw [List.append_nil]
    have hOutcome := plays_waitOnce hPhase
    cases outcome with
    | none =>
        obtain ⟨rfl, rfl⟩ := plays_done_iff.mp hRest
        exact ⟨[], _, phase, by rw [List.append_nil]; rfl, hOutcome⟩
    | some outcome =>
        obtain ⟨ret, value⟩ := outcome
        change Plays (slowPhase expired w fuel (some (ret, some value))) _ _ at hRest
        by_cases hSlow : ret ≠ .success ∧ w.slowTimeoutUs ≠ 0
        · cases ret with
          | success => exact absurd rfl hSlow.1
          | error => exact absurd hOutcome PhaseOutcome.ne_error
          | timeout => exact plays_slowPhase phase hOutcome.not_matches hSlow hRest
        · rw [slowPhase, if_neg hSlow] at hRest
          obtain ⟨rfl, rfl⟩ := plays_done_iff.mp hRest
          refine ⟨[], _, phase, by rw [List.append_nil]; rfl, by simp [readValues], hOutcome, ?_⟩
          rintro rfl
          have hZero : w.slowTimeoutUs = 0 :=
            Decidable.byContradiction fun hNonzero => hSlow ⟨by decide, hNonzero⟩
          rw [WaitArgs.lastTimeoutUs, if_neg (not_not.mpr hZero)]
  next hZero =>
    obtain ⟨rfl, rfl⟩ := plays_done_iff.mp hFast
    change Plays (slowPhase expired w fuel (some (.error, none))) _ _ at hRest
    by_cases hSlow : IOReturn.error ≠ .success ∧ w.slowTimeoutUs ≠ 0
    · exact plays_slowPhase [] (by simp [readValues]) hSlow hRest
    · rw [slowPhase, if_neg hSlow] at hRest
      obtain ⟨rfl, rfl⟩ := plays_done_iff.mp hRest
      exact ⟨rfl, rfl⟩

end Parts

end NootedBlue.De
