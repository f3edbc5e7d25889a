import Mathlib.Algebra.Group.Nat.Defs
import Mathlib.Algebra.GroupWithZero.Nat
import Mathlib.Logic.Basic
import NootedBlue.Guc.Send

/-! What a call of `intel_guc_send_mmio` promises, whatever the GuC answers and
whenever it does. -/
namespace NootedBlue.Guc

open Interaction

abbrev SendExchange := Exchange SendAnswer

namespace SendExchange

/-- The header that was read from the first scratch register. -/
def header (guc : IntelGuc) : SendExchange → Option Word
  | ⟨.read reg, word⟩ => if reg = guc.sendReg 0 then some word else none
  | ⟨.waitForRegister _ _ _ _ _, answer⟩ => some answer.2
  | _ => none

/-- The result of a wait. -/
def waited : SendExchange → Option Int
  | ⟨.waitForRegister _ _ _ _ _, answer⟩ => some answer.1
  | _ => none

/-- The milliseconds of a sleep. -/
def slept : SendExchange → Nat
  | ⟨.sleep ms, _⟩ => ms
  | _ => 0

def IsNotify : SendExchange → Prop
  | ⟨.notify _ _, _⟩ => True
  | _ => False

/-- A wait that succeeds has read a value that matches, and one that does not
reports a negative number. -/
def WaitsTruly : SendExchange → Prop
  | ⟨.waitForRegister _ mask value _ _, answer⟩ =>
      (answer.1 = 0 → answer.2 &&& mask = value) ∧ (answer.1 ≠ 0 → answer.1 < 0)
  | _ => True

instance : DecidablePred WaitsTruly
  | ⟨.waitForRegister _ _ _ _ _, _⟩ => inferInstanceAs (Decidable (_ ∧ _))
  | ⟨.write _ _, _⟩ => inferInstanceAs (Decidable True)
  | ⟨.postingRead _, _⟩ => inferInstanceAs (Decidable True)
  | ⟨.read _, _⟩ => inferInstanceAs (Decidable True)
  | ⟨.notify _ _, _⟩ => inferInstanceAs (Decidable True)
  | ⟨.machAbsoluteTime, _⟩ => inferInstanceAs (Decidable True)
  | ⟨.sleep _, _⟩ => inferInstanceAs (Decidable True)

end SendExchange

variable (guc : IntelGuc)

def headers (transcript : Transcript SendAnswer) : List Word :=
  transcript.filterMap (SendExchange.header guc)

def waits (transcript : Transcript SendAnswer) : List Int :=
  transcript.filterMap SendExchange.waited

def slept (transcript : Transcript SendAnswer) : Nat :=
  (transcript.map SendExchange.slept).sum

/-- How often the GuC asked for the request again. -/
def retries (transcript : Transcript SendAnswer) : Nat :=
  (headers guc transcript).countP fun header =>
    origin header = gucHxgOriginGuc ∧ hxgType header = noResponseRetry

abbrev WaitsTruly (transcript : Transcript SendAnswer) : Prop :=
  ∀ exchange ∈ transcript, SendExchange.WaitsTruly exchange

/-- Between two readings of the clock there is at least the time that was slept,
in nanoseconds. -/
def Timely (transcript : Transcript SendAnswer) : Prop :=
  ∀ before start middle now after,
    transcript = before ++ ⟨.machAbsoluteTime, start⟩ ::
      (middle ++ ⟨.machAbsoluteTime, now⟩ :: after) →
    start.toNat + 1000000 * slept middle ≤ now.toNat

/-- The writes of a request. -/
def requestWrites (i : Nat) (request : List Word) : Transcript SendAnswer :=
  request.zipIdx i |>.map fun word => ⟨.write (guc.sendReg word.2) word.1, ()⟩

/-- The writes of all words of a request, and a read of the last register. -/
def requestBlock (request : List Word) : Transcript SendAnswer :=
  requestWrites guc 0 request ++
    [⟨.postingRead (guc.sendReg ((request.length + (2 ^ 32 - 1)) % 2 ^ 32)), ()⟩]

/-- Right before every trigger the whole request was written. -/
def Prepared (request : List Word) (transcript : Transcript SendAnswer) : Prop :=
  ∀ before reg value after, transcript = before ++ ⟨.notify reg value, ()⟩ :: after →
    ∃ earlier, before = earlier ++ requestBlock guc request

/-- The last wait and the last header of a call. -/
structure Ended (transcript : Transcript SendAnswer) (waited : Int) (header : Word) : Prop where
  lastWait : (waits transcript).getLast? = some waited
  lastHeader : (headers guc transcript).getLast? = some header

/-- The header is an answer of the GuC of this type. -/
def Answer (header : Word) (type : BitVec 3) : Prop :=
  origin header = gucHxgOriginGuc ∧ hxgType header = type

/-- Why a call fails, after its last wait and its last header. -/
def Fails (waited : Int) (header : Word) (ret : Int) : Prop :=
  waited < 0 ∧ ret = waited ∨
    waited = 0 ∧ (
      Answer header noResponseBusy ∧ ret = -etime ∨
      Answer header responseFailure ∧ ret = -enxio ∨
      origin header ≠ gucHxgOriginGuc ∧ ret = -eproto ∨
      hxgType header ∉ [noResponseBusy, noResponseRetry, responseFailure, responseSuccess] ∧
        ret = -eproto)

/-- Reads of the registers from the given one on, with the words that they saw. -/
def responseReads (i : Nat) (words : List Word) : Transcript SendAnswer :=
  words.zipIdx i |>.map fun word => ⟨.read (guc.sendReg word.2), word.1⟩

/-- What a call returns with the header of a success: the data of the header,
or the number of words that it stored at the start of the buffer. These are the
header and what it read last, from the registers behind that of the header, as
many as there is room for and as there are registers. -/
def Responds (responseBuf : Option (List Word)) (header : Word) (transcript : Transcript SendAnswer)
    (reply : Reply) : Prop :=
  match responseBuf with
  | none => reply.ret = data0 header ∧ reply.responseBuf = none
  | some buf => ∃ before words, transcript = before ++ responseReads guc 1 words ∧
      words.length + 1 = min buf.length guc.count ∧ reply.ret = words.length + 1 ∧
      reply.responseBuf = some (header :: words ++ buf.drop (words.length + 1))

/-- What a call promises. -/
structure Contract (request : List Word) (responseBuf : Option (List Word))
    (transcript : Transcript SendAnswer) (reply : Reply) : Prop where
  prepared : Prepared guc request transcript
  outcome : ∃ waited header, Ended guc transcript waited header ∧
    (waited = 0 ∧ Answer header responseSuccess ∧ 0 ≤ reply.ret ∧
        Responds guc responseBuf header transcript reply ∨
      Fails waited header reply.ret ∧ reply.ret < 0 ∧ reply.responseBuf = responseBuf)

variable {guc}

section Transcripts

variable {first rest : Transcript SendAnswer}

@[simp] theorem headers_append :
    headers guc (first ++ rest) = headers guc first ++ headers guc rest := List.filterMap_append

@[simp] theorem waits_append : waits (first ++ rest) = waits first ++ waits rest :=
  List.filterMap_append

@[simp] theorem slept_append : slept (first ++ rest) = slept first + slept rest := by
  simp [slept]

@[simp] theorem retries_append :
    retries guc (first ++ rest) = retries guc first + retries guc rest := by
  simp [retries]

theorem WaitsTruly.left (h : WaitsTruly (first ++ rest)) : WaitsTruly first :=
  fun exchange hMem => h exchange (List.mem_append_left rest hMem)

theorem WaitsTruly.right (h : WaitsTruly (first ++ rest)) : WaitsTruly rest :=
  fun exchange hMem => h exchange (List.mem_append_right first hMem)

/-- What was last seen in the second part was last seen in the whole. -/
theorem Ended.append {waited : Int} {header : Word} (h : Ended guc rest waited header) :
    Ended guc (first ++ rest) waited header where
  lastWait := by simp [List.getLast?_append, h.lastWait]
  lastHeader := by simp [List.getLast?_append, h.lastHeader]

/-- Nothing in the second part is a wait or a header. -/
theorem Ended.extend {waited : Int} {header : Word} (h : Ended guc first waited header)
    (hWaits : waits rest = []) (hHeaders : headers guc rest = []) :
    Ended guc (first ++ rest) waited header where
  lastWait := by simp [hWaits, h.lastWait]
  lastHeader := by simp [hHeaders, h.lastHeader]

theorem prepared_of_quiet {request : List Word}
    (h : ∀ exchange ∈ first, ¬ SendExchange.IsNotify exchange) : Prepared guc request first := by
  rintro before reg value after rfl
  exact absurd trivial (h ⟨.notify reg value, ()⟩ (by simp))

theorem Prepared.append {request : List Word} (h : Prepared guc request first)
    (hRest : Prepared guc request rest) : Prepared guc request (first ++ rest) := by
  intro before reg value after hSplit
  rcases split_append_cons hSplit with ⟨gap, rfl, hGap⟩ | ⟨gap, hFirst, -⟩
  · obtain ⟨earlier, rfl⟩ := hRest gap reg value after hGap
    exact ⟨first ++ earlier, by simp⟩
  · exact h before reg value gap hFirst

end Transcripts

section Parts

variable {transcript : Transcript SendAnswer}

theorem plays_writeRequest {i : Nat} {request : List Word} {u : Unit}
    (plays : Plays (writeRequest guc i request) transcript u) :
    transcript = requestWrites guc i request := by
  induction request generalizing i transcript with
  | nil => exact (plays_done_iff.mp plays).1
  | cons word rest ih =>
      obtain ⟨_, tail, rfl, later⟩ := plays_call_iff.mp plays
      rw [ih later]
      simp [requestWrites]

/-- The operations of a wait for a GuC that is busy: no trigger and no wait for
the register. -/
def Watching (transcript : Transcript SendAnswer) : Prop :=
  ∀ exchange ∈ transcript, ¬ SendExchange.IsNotify exchange ∧ SendExchange.waited exchange = none

theorem Watching.waits (h : Watching transcript) : waits transcript = [] :=
  List.filterMap_eq_nil_iff.mpr fun exchange hMem => (h exchange hMem).2

/-- What the wait for a busy GuC ends with. -/
def BusyEnd (header : Word) : Except Int Word → Prop
  | .error ret => Answer header noResponseBusy ∧ ret = -etime
  | .ok seen => seen = header ∧ ¬ Answer header noResponseBusy

/-- Each round of the wait for a busy GuC slept, and the last one still had
time. -/
def StillBusy (start : BitVec 64) (fuel : Nat) (transcript : Transcript SendAnswer) : Prop :=
  slept transcript = fuel ∧ (fuel ≠ 0 → ∃ middle now after,
    transcript = middle ++ ⟨.machAbsoluteTime, now⟩ :: after ∧ now - start < busyTimeoutNs ∧
      fuel = slept middle + 1)

/-- What one round does. -/
def BusyRound (guc : IntelGuc) (start : BitVec 64) (transcript : Transcript SendAnswer) :
    Iteration Unit (Except Int Word) → Prop
  | .stop result => ∃ header, (headers guc transcript).getLast? = some header ∧
      BusyEnd header result
  | .next () => ∃ header now, transcript = [⟨.read (guc.sendReg 0), header⟩,
      ⟨.machAbsoluteTime, now⟩, ⟨.sleep 1, ()⟩] ∧ now - start < busyTimeoutNs

/-- What all rounds do. -/
def BusyRun (guc : IntelGuc) (start : BitVec 64) (fuel : Nat) (transcript : Transcript SendAnswer) :
    Option (Except Int Word) → Prop
  | some result => ∃ header, (headers guc transcript).getLast? = some header ∧
      BusyEnd header result
  | none => StillBusy start fuel transcript

theorem plays_busyOnce {start : BitVec 64} {iteration : Iteration Unit (Except Int Word)}
    (plays : Plays (busyOnce guc start) transcript iteration) :
    Watching transcript ∧ BusyRound guc start transcript iteration := by
  rw [busyOnce, Program.perform_bind, plays_call_iff] at plays
  obtain ⟨header, rest, rfl, later⟩ := plays
  split at later
  · next hOther =>
      obtain ⟨rfl, rfl⟩ := plays_done_iff.mp later
      refine ⟨by simp [Watching, SendExchange.IsNotify, SendExchange.waited], header, ?_, rfl, ?_⟩
      · simp [headers, SendExchange.header]
      · rintro ⟨hOrigin, hType⟩
        rcases hOther with hOther | hOther
        · exact hOther hOrigin
        · exact hOther hType
  · next hBusy =>
      obtain ⟨hOrigin, hType⟩ := not_or.mp hBusy
      rw [Program.perform_bind, plays_call_iff] at later
      obtain ⟨now, rest, rfl, later⟩ := later
      split at later
      · next hLate =>
          obtain ⟨rfl, rfl⟩ := plays_done_iff.mp later
          refine ⟨by simp [Watching, SendExchange.IsNotify, SendExchange.waited], header, ?_,
            ⟨not_not.mp hOrigin, not_not.mp hType⟩, rfl⟩
          simp [headers, SendExchange.header, List.filterMap_cons]
      · next hEarly =>
          rw [Program.perform_bind, plays_call_iff] at later
          obtain ⟨_, rest, rfl, later⟩ := later
          obtain ⟨rfl, rfl⟩ := plays_done_iff.mp later
          exact ⟨by simp [Watching, SendExchange.IsNotify, SendExchange.waited], header, now, rfl,
            BitVec.not_le.mp hEarly⟩

theorem Watching.append {rest : Transcript SendAnswer} (h : Watching transcript)
    (hRest : Watching rest) : Watching (transcript ++ rest) := by
  intro exchange hMem
  rcases List.mem_append.mp hMem with hMem | hMem
  · exact h exchange hMem
  · exact hRest exchange hMem

theorem getLast?_append_of_some {α : Type} {first rest : List α} {a : α}
    (h : rest.getLast? = some a) : (first ++ rest).getLast? = some a := by
  simp [List.getLast?_append, h]

/-- The wait for a busy GuC, by the rounds of its loop. -/
theorem plays_busy {start : BitVec 64} {fuel : Nat} {u : Unit} {result : Option (Except Int Word)}
    (plays : Plays (loop (fun _ => busyOnce guc start) fuel u) transcript result) :
    Watching transcript ∧ BusyRun guc start fuel transcript result := by
  apply plays_loop_rule ?_ ?_ ?_ plays
  · intro _
    exact ⟨by simp [Watching], rfl, by simp⟩
  · intro fuel _ transcript value hRound
    exact plays_busyOnce hRound
  · intro fuel _ first t rest result hRound ih
    obtain ⟨hFirst, header, now, rfl, hEarly⟩ := plays_busyOnce hRound
    obtain ⟨hRest, hRun⟩ := ih
    refine ⟨hFirst.append hRest, ?_⟩
    cases result with
    | some result =>
        obtain ⟨last, hLast, hEnd⟩ := hRun
        exact ⟨last, by rw [headers_append, getLast?_append_of_some hLast], hEnd⟩
    | none =>
        obtain ⟨hSlept, hTime⟩ := hRun
        refine ⟨?_, fun _ => ?_⟩
        · simp [slept, SendExchange.slept] at hSlept ⊢
          omega
        · by_cases hFuel : fuel = 0
          · subst hFuel
            exact ⟨[⟨.read (guc.sendReg 0), header⟩], now, ⟨.sleep 1, ()⟩ :: rest, rfl, hEarly, rfl⟩
          · obtain ⟨middle, last, after, rfl, hLast, hCount⟩ := hTime hFuel
            refine ⟨⟨.read (guc.sendReg 0), header⟩ :: ⟨.machAbsoluteTime, now⟩ ::
              ⟨.sleep 1, ()⟩ :: middle, last, after, rfl, hLast, ?_⟩
            simp [slept, SendExchange.slept] at hCount ⊢
            omega

/-- There was no time left for the GuC to be busy, after so many rounds. -/
def Starved (fuel : Nat) (transcript : Transcript SendAnswer) : Prop :=
  ∃ before start middle now after,
    transcript = before ++ ⟨.machAbsoluteTime, start⟩ ::
      (middle ++ ⟨.machAbsoluteTime, now⟩ :: after) ∧
    now - start < busyTimeoutNs ∧ fuel = slept middle + 1

theorem Starved.append_left {fuel : Nat} (h : Starved fuel transcript)
    (first : Transcript SendAnswer) : Starved fuel (first ++ transcript) := by
  obtain ⟨before, start, middle, now, after, rfl, hEarly, hCount⟩ := h
  exact ⟨first ++ before, start, middle, now, after, by simp, hEarly, hCount⟩

/-- What follows a trigger: the end of the call, another try, or too many
rounds with a busy GuC. -/
def AnswerEnd (guc : IntelGuc) (fuel : Nat) (transcript : Transcript SendAnswer) :
    Option (Iteration Unit (Except Int Word)) → Prop
  | none => fuel ≠ 0 → Starved fuel transcript
  | some (.next ()) => 1 ≤ retries guc transcript
  | some (.stop (.error ret)) => ∃ waited header, Ended guc transcript waited header ∧
      Fails waited header ret
  | some (.stop (.ok header)) => Ended guc transcript 0 header ∧ Answer header responseSuccess

theorem origin_of_match {header : Word} (h : header &&& originMask = originMask) :
    origin header = gucHxgOriginGuc := by
  have hBit := congrArg (·.getLsbD 31) h
  apply BitVec.eq_of_getLsbD_eq
  intro i hi
  obtain rfl : i = 0 := by omega
  simpa [origin, originMask, gucHxgOriginGuc] using hBit

/-- A header that is not busy decides. -/
theorem classify_end {fuel : Nat} {header : Word} (hEnded : Ended guc transcript 0 header)
    (hOrigin : origin header = gucHxgOriginGuc) (hBusy : hxgType header ≠ noResponseBusy) :
    AnswerEnd guc fuel transcript (some (classify header)) := by
  simp only [classify]
  split
  · next hRetry =>
      have hMem : header ∈ headers guc transcript := List.mem_of_getLast? hEnded.lastHeader
      exact List.countP_pos_iff.mpr ⟨header, hMem, by simp [hOrigin, hRetry]⟩
  · next hRetry =>
      split
      · next hFailure => exact ⟨0, header, hEnded, .inr ⟨rfl, .inr (.inl ⟨⟨hOrigin, hFailure⟩, rfl⟩)⟩⟩
      · next hFailure =>
          split
          · next hSuccess =>
              refine ⟨0, header, hEnded, .inr ⟨rfl, .inr (.inr (.inr ⟨?_, rfl⟩))⟩⟩
              simp [hBusy, hRetry, hFailure, hSuccess]
          · next hSuccess => exact ⟨hEnded, hOrigin, not_not.mp hSuccess⟩

/-- A GuC that was busy after a wait that succeeded. -/
theorem busy_end {fuel : Nat} {header : Word} {wait : SendExchange} {start : BitVec 64}
    {result : Option (Except Int Word)} (hWait : Ended guc [wait] 0 header)
    (hWatching : Watching transcript) (hRun : BusyRun guc start fuel transcript result) :
    AnswerEnd guc fuel (wait :: ⟨.machAbsoluteTime, start⟩ :: transcript)
      (result.map afterBusy) := by
  have hEnded : ∀ last, (headers guc transcript).getLast? = some last →
      Ended guc (wait :: ⟨.machAbsoluteTime, start⟩ :: transcript) 0 last := by
    intro last hLast
    have hSplit : wait :: ⟨.machAbsoluteTime, start⟩ :: transcript =
        [wait] ++ ([⟨.machAbsoluteTime, start⟩] ++ transcript) := rfl
    rw [hSplit]
    refine ⟨?_, ?_⟩
    · rw [waits_append, waits_append, hWatching.waits]
      simpa [waits, SendExchange.waited] using hWait.lastWait
    · rw [headers_append, headers_append]
      exact getLast?_append_of_some (getLast?_append_of_some hLast)
  cases result with
  | none =>
      intro hFuel
      obtain ⟨middle, now, after, rfl, hEarly, hCount⟩ := hRun.2 hFuel
      exact ⟨[wait], start, middle, now, after, rfl, hEarly, hCount⟩
  | some result =>
      obtain ⟨last, hLast, hEnd⟩ := hRun
      cases result with
      | error ret =>
          obtain ⟨hBusy, rfl⟩ := hEnd
          exact ⟨0, last, hEnded last hLast, .inr ⟨rfl, .inl ⟨hBusy, rfl⟩⟩⟩
      | ok seen =>
          obtain ⟨rfl, hOther⟩ := hEnd
          simp only [Option.map_some, afterBusy]
          split
          · next hOrigin =>
              exact ⟨0, seen, hEnded seen hLast, .inr ⟨rfl, .inr (.inr (.inl ⟨hOrigin, rfl⟩))⟩⟩
          · next hOrigin =>
              have hGuc := not_not.mp hOrigin
              exact classify_end (hEnded seen hLast) hGuc fun hBusy => hOther ⟨hGuc, hBusy⟩

theorem plays_awaitAnswer {fuel : Nat} {answer : Option (Iteration Unit (Except Int Word))}
    (plays : Plays (awaitAnswer guc fuel) transcript answer) (hTruly : WaitsTruly transcript) :
    (∀ exchange ∈ transcript, ¬ SendExchange.IsNotify exchange) ∧
      AnswerEnd guc fuel transcript answer := by
  rw [awaitAnswer, Program.perform_bind, plays_call_iff] at plays
  obtain ⟨⟨ret, header⟩, rest, rfl, later⟩ := plays
  obtain ⟨hMatch, hNegative⟩ := hTruly _ List.mem_cons_self
  have hFirst : Ended guc [⟨.waitForRegister (guc.sendReg 0) originMask originMask 10 (10 * 1000),
      (ret, header)⟩] ret header := ⟨rfl, rfl⟩
  simp only at later
  split at later
  · next hError =>
      obtain ⟨rfl, rfl⟩ := plays_done_iff.mp later
      exact ⟨by simp [SendExchange.IsNotify], ret, header, hFirst, .inl ⟨hNegative hError, rfl⟩⟩
  · next hZero =>
      obtain rfl : ret = 0 := not_not.mp hZero
      have hOrigin := origin_of_match (hMatch rfl)
      split at later
      · next hBusy =>
          rw [Program.perform_bind, plays_call_iff] at later
          obtain ⟨start, rest, rfl, later⟩ := later
          obtain ⟨first, last, result, rfl, hLoop, hAfter⟩ := plays_bind_iff.mp later
          obtain ⟨rfl, rfl⟩ := plays_done_iff.mp hAfter
          obtain ⟨hWatching, hRun⟩ := plays_busy hLoop
          rw [List.append_nil]
          refine ⟨?_, ?_⟩
          · intro exchange hMem
            rcases List.mem_cons.mp hMem with rfl | hMem
            · simp [SendExchange.IsNotify]
            · rcases List.mem_cons.mp hMem with rfl | hMem
              · simp [SendExchange.IsNotify]
              · exact (hWatching exchange hMem).1
          · exact busy_end hFirst hWatching hRun
      · next hBusy =>
          obtain ⟨rfl, rfl⟩ := plays_done_iff.mp later
          exact ⟨by simp [SendExchange.IsNotify], classify_end hFirst hOrigin hBusy⟩

/-- What one pass comes to. -/
def AttemptEnd (guc : IntelGuc) (fuel : Nat) (transcript : Transcript SendAnswer) :
    Iteration Unit (Option (Except Int Word)) → Prop
  | .stop none => AnswerEnd guc fuel transcript none
  | .next () => AnswerEnd guc fuel transcript (some (.next ()))
  | .stop (some result) => AnswerEnd guc fuel transcript (some (.stop result))

theorem AnswerEnd.append_left {fuel : Nat} {answer : Option (Iteration Unit (Except Int Word))}
    (h : AnswerEnd guc fuel transcript answer) (first : Transcript SendAnswer) :
    AnswerEnd guc fuel (first ++ transcript) answer := by
  match answer with
  | none => exact fun hFuel => (h hFuel).append_left first
  | some (.next ()) =>
      have hOne : 1 ≤ retries guc transcript := h
      show 1 ≤ retries guc (first ++ transcript)
      rw [retries_append]
      omega
  | some (.stop (.error ret)) =>
      obtain ⟨waited, header, hEnded, hFails⟩ := h
      exact ⟨waited, header, hEnded.append, hFails⟩
  | some (.stop (.ok header)) => exact ⟨h.1.append, h.2⟩

/-- One trigger, after the writes of the request. -/
theorem prepared_one (request : List Word) (reg : Nat) (value : Word)
    (h : ∀ exchange ∈ transcript, ¬ SendExchange.IsNotify exchange) :
    Prepared guc request (requestBlock guc request ++ ⟨.notify reg value, ()⟩ :: transcript) := by
  intro before reg' value' after hSplit
  rcases split_append_cons hSplit with ⟨gap, rfl, hGap⟩ | ⟨gap, hFirst, -⟩
  · rcases List.cons_eq_append_iff.mp hGap with ⟨rfl, -⟩ | ⟨gap, rfl, rfl⟩
    · exact ⟨[], by simp⟩
    · exact absurd trivial (h ⟨.notify reg' value', ()⟩ (by simp))
  · have hMem : (⟨.notify reg' value', ()⟩ : SendExchange) ∈ requestBlock guc request := by
      rw [hFirst]
      simp
    simp [requestBlock, requestWrites] at hMem

theorem plays_attempt {request : List Word} {fuel : Nat}
    {iteration : Iteration Unit (Option (Except Int Word))}
    (plays : Plays (attempt guc request fuel) transcript iteration)
    (hTruly : WaitsTruly transcript) :
    Prepared guc request transcript ∧ AttemptEnd guc fuel transcript iteration := by
  obtain ⟨first, rest, _, rfl, hWrites, later⟩ := plays_bind_iff.mp plays
  obtain rfl := plays_writeRequest hWrites
  rw [Program.perform_bind, plays_call_iff] at later
  obtain ⟨⟨⟩, rest, rfl, later⟩ := later
  rw [Program.perform_bind, plays_call_iff] at later
  obtain ⟨⟨⟩, rest, rfl, later⟩ := later
  obtain ⟨await, last, answer, rfl, hAwait, hLast⟩ := plays_bind_iff.mp later
  obtain ⟨rfl, rfl⟩ := plays_done_iff.mp hLast
  have hSplit : ∀ posting notify : SendExchange,
      requestWrites guc 0 request ++ posting :: notify :: await =
        (requestWrites guc 0 request ++ [posting, notify]) ++ await := by simp
  rw [List.append_nil] at hTruly ⊢
  rw [hSplit] at hTruly
  obtain ⟨hQuiet, hEnd⟩ := plays_awaitAnswer hAwait hTruly.right
  refine ⟨?_, ?_⟩
  · simpa [requestBlock] using prepared_one request guc.notifyReg gucSendTrigger hQuiet
  · rw [hSplit]
    cases answer with
    | none => exact hEnd.append_left _
    | some iteration =>
        cases iteration with
        | next _ => exact hEnd.append_left _
        | stop result => exact hEnd.append_left _

/-- What all passes come to. -/
def CallEnd (guc : IntelGuc) (inner fuel : Nat) (transcript : Transcript SendAnswer) :
    Option (Option (Except Int Word)) → Prop
  | none => fuel ≤ retries guc transcript
  | some none => inner ≠ 0 → Starved inner transcript
  | some (some result) => AnswerEnd guc inner transcript (some (.stop result))

theorem plays_attempts {request : List Word} {inner fuel : Nat} {u : Unit}
    {result : Option (Option (Except Int Word))}
    (plays : Plays (loop (fun _ => attempt guc request inner) fuel u) transcript result) :
    WaitsTruly transcript →
      Prepared guc request transcript ∧ CallEnd guc inner fuel transcript result := by
  apply plays_loop_rule ?_ ?_ ?_ plays
  · intro _ _
    exact ⟨prepared_of_quiet (by simp), Nat.zero_le _⟩
  · intro fuel _ transcript value hPass hTruly
    obtain ⟨hPrepared, hEnd⟩ := plays_attempt hPass hTruly
    refine ⟨hPrepared, ?_⟩
    cases value with
    | none => exact hEnd
    | some result => exact hEnd
  · intro fuel _ first t rest result hPass ih hTruly
    obtain ⟨hPrepared, hRetry⟩ := plays_attempt hPass hTruly.left
    obtain ⟨hRest, hEnd⟩ := ih hTruly.right
    refine ⟨hPrepared.append hRest, ?_⟩
    match result with
    | none =>
        have hFirst : 1 ≤ retries guc first := hRetry
        have hLater : fuel ≤ retries guc rest := hEnd
        show fuel + 1 ≤ retries guc (first ++ rest)
        rw [retries_append]
        omega
    | some none => exact fun hInner => (hEnd hInner).append_left first
    | some (some result) => exact AnswerEnd.append_left hEnd first

end Parts

section Call

variable {transcript : Transcript SendAnswer}

theorem sendReg_ne_zero (guc : IntelGuc) {i : Nat} (hPos : 0 < i) (hLt : i < guc.count) :
    guc.sendReg i ≠ guc.sendReg 0 := by
  have hFits := guc.fits
  simp only [IntelGuc.sendReg]
  omega

/-- The words of a response are what was read, one register after the other. -/
theorem plays_readResponse {i count : Nat} {words : List Word}
    (plays : Plays (readResponse guc i count) transcript words) :
    words.length = count ∧ transcript = responseReads guc i words := by
  induction count generalizing i transcript words with
  | zero =>
      obtain ⟨rfl, rfl⟩ := plays_done_iff.mp plays
      exact ⟨rfl, rfl⟩
  | succ count ih =>
      rw [readResponse, Program.perform_bind, plays_call_iff] at plays
      obtain ⟨word, rest, rfl, later⟩ := plays
      obtain ⟨first, last, tail, rfl, hRead, hDone⟩ := plays_bind_iff.mp later
      obtain ⟨rfl, rfl⟩ := plays_done_iff.mp hDone
      obtain ⟨hLength, rfl⟩ := ih hRead
      rw [List.append_nil, List.length_cons, hLength]
      exact ⟨rfl, by simp [responseReads]⟩

/-- None of the registers behind the first one holds the header. -/
theorem headers_responseReads {i : Nat} {words : List Word} (hPos : 0 < i)
    (hCount : words = [] ∨ i + words.length ≤ guc.count) :
    headers guc (responseReads guc i words) = [] := by
  apply List.filterMap_eq_nil_iff.mpr
  intro exchange hMem
  obtain ⟨⟨word, j⟩, hWord, rfl⟩ := List.mem_map.mp hMem
  have hFirst := List.le_snd_of_mem_zipIdx hWord
  have hLast := List.snd_lt_of_mem_zipIdx hWord
  have hSome : words ≠ [] := by
    rintro rfl
    cases hWord
  have hFits := hCount.resolve_left hSome
  have hReg : guc.sendReg j ≠ guc.sendReg 0 := sendReg_ne_zero guc (by omega) (by omega)
  simp [SendExchange.header, hReg]

theorem waits_responseReads (i : Nat) (words : List Word) :
    waits (responseReads guc i words) = [] := by
  apply List.filterMap_eq_nil_iff.mpr
  intro exchange hMem
  obtain ⟨word, -, rfl⟩ := List.mem_map.mp hMem
  rfl

theorem not_isNotify_responseReads {i : Nat} {words : List Word} :
    ∀ exchange ∈ responseReads guc i words, ¬ SendExchange.IsNotify exchange := by
  intro exchange hMem hNotify
  obtain ⟨word, -, rfl⟩ := List.mem_map.mp hMem
  exact hNotify

theorem Responds.append_left {responseBuf : Option (List Word)} {header : Word} {reply : Reply}
    (h : Responds guc responseBuf header transcript reply) (first : Transcript SendAnswer) :
    Responds guc responseBuf header (first ++ transcript) reply := by
  cases responseBuf with
  | none => exact h
  | some buf =>
      obtain ⟨before, words, rfl, hStored⟩ := h
      exact ⟨first ++ before, words, (List.append_assoc ..).symm, hStored⟩

theorem plays_respond {responseBuf : Option (List Word)} {header : Word} {reply : Reply}
    (hBuf : ∀ buf, responseBuf = some buf → buf ≠ [])
    (plays : Plays (respond guc responseBuf header) transcript reply) :
    0 ≤ reply.ret ∧ Responds guc responseBuf header transcript reply ∧
      headers guc transcript = [] ∧ waits transcript = [] ∧
      ∀ exchange ∈ transcript, ¬ SendExchange.IsNotify exchange := by
  cases responseBuf with
  | none =>
      obtain ⟨rfl, rfl⟩ := plays_done_iff.mp plays
      exact ⟨Int.natCast_nonneg _, ⟨rfl, rfl⟩, rfl, rfl, by simp⟩
  | some buf =>
      obtain ⟨first, last, words, rfl, hRead, hDone⟩ := plays_bind_iff.mp plays
      obtain ⟨rfl, rfl⟩ := plays_done_iff.mp hDone
      obtain ⟨hLength, rfl⟩ := plays_readResponse hRead
      have hRoom : 0 < buf.length := List.length_pos_iff.mpr (hBuf buf rfl)
      have hCount := guc.count_pos
      have hStored : words.length + 1 = min buf.length guc.count := by omega
      rw [List.append_nil]
      refine ⟨Int.natCast_nonneg _, ⟨[], words, rfl, hStored, ?_, rfl⟩,
        headers_responseReads Nat.one_pos (.inr (by omega)), waits_responseReads 1 words,
        not_isNotify_responseReads⟩
      rw [← hStored]
      rfl

theorem Fails.negative {waited ret : Int} {header : Word} (h : Fails waited header ret) :
    ret < 0 := by
  rcases h with ⟨hNegative, rfl⟩ | ⟨-, ⟨-, rfl⟩ | ⟨-, rfl⟩ | ⟨-, rfl⟩ | ⟨-, rfl⟩⟩
  · exact hNegative
  all_goals decide

/-- What a call comes to. -/
def SendEnd (guc : IntelGuc) (request : List Word) (responseBuf : Option (List Word)) (fuel : Nat)
    (transcript : Transcript SendAnswer) : Option Reply → Prop
  | some reply => Contract guc request responseBuf transcript reply
  | none => fuel ≤ retries guc transcript ∨ Starved fuel transcript

theorem plays_intelGucSendMmio {request : List Word} {responseBuf : Option (List Word)}
    {fuel : Nat} {result : Option Reply} (hTruly : WaitsTruly transcript)
    (hBuf : ∀ buf, responseBuf = some buf → buf ≠ [])
    (plays : Plays (intelGucSendMmio guc request responseBuf fuel) transcript result) :
    SendEnd guc request responseBuf fuel transcript result := by
  obtain ⟨first, rest, passes, rfl, hPasses, hRest⟩ := plays_bind_iff.mp plays
  obtain ⟨hPrepared, hEnd⟩ := plays_attempts hPasses hTruly.left
  match passes with
  | none =>
      obtain ⟨rfl, rfl⟩ := plays_done_iff.mp hRest
      rw [List.append_nil]
      exact .inl hEnd
  | some none =>
      obtain ⟨rfl, rfl⟩ := plays_done_iff.mp hRest
      rw [List.append_nil]
      by_cases hFuel : fuel = 0
      · exact .inl (by omega)
      · exact .inr (hEnd hFuel)
  | some (some (.error ret)) =>
      obtain ⟨rfl, rfl⟩ := plays_done_iff.mp hRest
      obtain ⟨waited, header, hEnded, hFails⟩ := hEnd
      rw [List.append_nil]
      exact {
        prepared := hPrepared
        outcome := ⟨waited, header, hEnded, .inr ⟨hFails, hFails.negative, rfl⟩⟩ }
  | some (some (.ok header)) =>
      obtain ⟨second, last, reply, rfl, hRespond, hDone⟩ := plays_bind_iff.mp hRest
      obtain ⟨rfl, rfl⟩ := plays_done_iff.mp hDone
      obtain ⟨hRet, hResponds, hHeaders, hWaits, hQuiet⟩ := plays_respond hBuf hRespond
      obtain ⟨hEnded, hAnswer⟩ := hEnd
      rw [List.append_nil]
      exact {
        prepared := hPrepared.append (prepared_of_quiet hQuiet)
        outcome := ⟨0, header, hEnded.extend hWaits hHeaders,
          .inl ⟨rfl, hAnswer, hRet, hResponds.append_left first⟩⟩ }

/-- Nothing is said about a clock that nobody reads. -/
theorem timely_of_unread (h : ∀ exchange ∈ transcript, exchange.1 ≠ .machAbsoluteTime) :
    Timely transcript := by
  rintro before start middle now after rfl
  exact absurd rfl (h ⟨.machAbsoluteTime, start⟩ (by simp))

/-- A GuC that stays busy runs out of time. -/
theorem Starved.bounded {fuel : Nat} (h : Starved fuel transcript) (hTimely : Timely transcript) :
    fuel ≤ 1000 := by
  obtain ⟨before, start, middle, now, after, hSplit, hEarly, rfl⟩ := h
  have hTime := hTimely before start middle now after hSplit
  have hElapsed : (now - start).toNat = now.toNat - start.toNat :=
    BitVec.toNat_sub_of_le (BitVec.le_def.mpr (by omega))
  have hBound : (now - start).toNat < 1000000000 := BitVec.lt_def.mp hEarly
  omega

/-- The result and the transcript of a call, with so much fuel. -/
def sent (guc : IntelGuc) (request : List Word) (responseBuf : Option (List Word))
    (opponent : Opponent SendAnswer) (fuel : Nat) : Option Reply × Transcript SendAnswer :=
  (intelGucSendMmio guc request responseBuf fuel).against opponent

/-- A call comes to an end, and keeps its promise, when the GuC asks for the
request again only so many times. -/
theorem intelGucSendMmio_contract (guc : IntelGuc) (request : List Word)
    (responseBuf : Option (List Word)) (opponent : Opponent SendAnswer) (count : Nat)
    (hBuf : ∀ buf, responseBuf = some buf → buf ≠ [])
    (hTruly : ∀ fuel, WaitsTruly (sent guc request responseBuf opponent fuel).2)
    (hTimely : ∀ fuel, Timely (sent guc request responseBuf opponent fuel).2)
    (hRetries : ∀ fuel, retries guc (sent guc request responseBuf opponent fuel).2 ≤ count) :
    (∃ enough, ∀ fuel, enough ≤ fuel →
        ∃ reply, (sent guc request responseBuf opponent fuel).1 = some reply) ∧
      ∀ fuel reply, (sent guc request responseBuf opponent fuel).1 = some reply →
        Contract guc request responseBuf (sent guc request responseBuf opponent fuel).2 reply := by
  have hEnd : ∀ fuel, SendEnd guc request responseBuf fuel
      (sent guc request responseBuf opponent fuel).2
      (sent guc request responseBuf opponent fuel).1 :=
    fun fuel => plays_intelGucSendMmio (hTruly fuel) hBuf (plays_against _ opponent)
  constructor
  · refine ⟨count + 1001, ?_⟩
    intro fuel hFuel
    cases hResult : (sent guc request responseBuf opponent fuel).1 with
    | some reply => exact ⟨reply, rfl⟩
    | none =>
        have hNone := hEnd fuel
        rw [hResult] at hNone
        rcases hNone with hMany | hStarved
        · have hFew := hRetries fuel
          omega
        · have hBound := hStarved.bounded (hTimely fuel)
          omega
  · intro fuel reply hReply
    have hSome := hEnd fuel
    rw [hReply] at hSome
    exact hSome

/-- The GuC asks for the request again and then answers. -/
def retryThenReady : Opponent SendAnswer
  | _, .write _ _ => ()
  | _, .postingRead _ => ()
  | _, .notify _ _ => ()
  | _, .sleep _ => ()
  | _, .read reg => BitVec.ofNat 32 reg
  | _, .machAbsoluteTime => 0
  | past, .waitForRegister _ _ _ _ _ =>
      if past.length < 5 then (0, 0xD0000000) else (0, 0xF0000007)

/-- One round with a GuC that answers with this header. -/
def oneRound (header : Word) : Transcript SendAnswer :=
  [⟨.write 0x190240 0x501, ()⟩, ⟨.write 0x190244 1, ()⟩, ⟨.postingRead 0x190244, ()⟩,
    ⟨.notify 0x1901f0 1, ()⟩,
    ⟨.waitForRegister 0x190240 originMask originMask 10 10000, (0, header)⟩]

/-- The transcripts of a call, with more and more fuel. -/
def retryRuns : List (Transcript SendAnswer) :=
  [[], oneRound 0xD0000000,
    oneRound 0xD0000000 ++ oneRound 0xF0000007 ++
      responseReads (intelGucInitEarly .primary) 1 [0x190244, 0x190248, 0x19024C]]

theorem retryThenReady_sent (fuel : Nat) :
    (sent (intelGucInitEarly .primary) [0x501, 1] (some [0, 0, 0, 0, 9]) retryThenReady fuel).2 ∈
      retryRuns := by
  match fuel with
  | 0 => exact List.mem_cons_self
  | 1 => exact List.mem_cons_of_mem _ List.mem_cons_self
  | fuel + 2 => exact List.mem_cons_of_mem _ (List.mem_cons_of_mem _ List.mem_cons_self)

theorem retryThenReady_answered :
    (∃ enough, ∀ fuel, enough ≤ fuel → ∃ reply,
        (sent (intelGucInitEarly .primary) [0x501, 1] (some [0, 0, 0, 0, 9]) retryThenReady fuel).1 =
          some reply) ∧
      Contract (intelGucInitEarly .primary) [0x501, 1] (some [0, 0, 0, 0, 9])
        (sent (intelGucInitEarly .primary) [0x501, 1] (some [0, 0, 0, 0, 9]) retryThenReady 2).2
        ⟨4, some [0xF0000007, 0x190244, 0x190248, 0x19024C, 9]⟩ := by
  have hTruly : ∀ run ∈ retryRuns, WaitsTruly run := by decide
  have hUnread : ∀ run ∈ retryRuns, ∀ exchange ∈ run, exchange.1 ≠ .machAbsoluteTime := by decide
  have hRetries : ∀ run ∈ retryRuns, retries (intelGucInitEarly .primary) run ≤ 1 := by decide
  have hContract := intelGucSendMmio_contract (intelGucInitEarly .primary) [0x501, 1]
    (some [0, 0, 0, 0, 9]) retryThenReady 1 (by simp) (fun fuel => hTruly _ (retryThenReady_sent fuel))
    (fun fuel => timely_of_unread (hUnread _ (retryThenReady_sent fuel)))
    (fun fuel => hRetries _ (retryThenReady_sent fuel))
  exact ⟨hContract.1, hContract.2 2 _ (by rfl)⟩

end Call

end NootedBlue.Guc
