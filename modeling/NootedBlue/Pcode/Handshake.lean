import NootedBlue.Pcode.Mailbox

/-! When the mailbox handshake keeps its promise. An unsigned value is never below
zero, so the poll loop reads the mailbox once, and the status that is reported is
that of the request. -/
namespace NootedBlue.Pcode

open Interaction

section World

variable (opponent : Opponent PcodeAnswer) (request : PcodeRequest)
  (past : Transcript PcodeAnswer)

/-- The mailbox as the request finds it. -/
def mailboxBefore : Word := opponent past (.read pcodeMailbox)

/-- The time when the request is posted and the first delay is over. -/
def afterPosting : Transcript PcodeAnswer :=
  past ++ [⟨.read pcodeMailbox, mailboxBefore opponent past⟩] ++
    [⟨.write pcodeData request.val, ()⟩] ++ [⟨.write pcodeData1 (request.val1.getD 0), ()⟩] ++
    [⟨.write pcodeMailbox (pcodeReady ||| request.mbox), ()⟩] ++ [⟨.delay 1, ()⟩]

/-- The mailbox as the first poll finds it. -/
def firstPoll : Word := opponent (afterPosting opponent request past) (.read pcodeMailbox)

def afterPoll : Transcript PcodeAnswer :=
  afterPosting opponent request past ++
    [⟨.read pcodeMailbox, firstPoll opponent request past⟩]

/-- The first data word after that poll. -/
def lowWord : Word := opponent (afterPoll opponent request past) (.read pcodeData)

/-- The world answers so that one poll and the status of the request are enough: the
mailbox is taken; or the first poll finds an answer that is a success or reports
what the request reports; or there is no answer yet, the request reports an error
and no data is read. -/
def AnswersAtOnce : Prop :=
  Ready (mailboxBefore opponent past) ∨
    (¬ Ready (firstPoll opponent request past) ∧
      (gen7CheckMailboxStatus (firstPoll opponent request past) = 0 ∨
        gen7CheckMailboxStatus (firstPoll opponent request past) =
          gen7CheckMailboxStatus request.mbox)) ∨
    (Ready (firstPoll opponent request past) ∧ request.isRead = false ∧
      gen7CheckMailboxStatus request.mbox ≠ 0)

end World

section Transcripts

variable {first rest : Transcript PcodeAnswer}

/-- Reads of data words are no polls. -/
theorem polls_append_of_data (h : ∀ exchange ∈ rest, PcodeExchange.IsData exchange) :
    polls (first ++ rest) = polls first := by
  have hFold : ∀ seen, rest.foldl poll seen = seen := by
    induction rest with
    | nil => exact fun seen => rfl
    | cons exchange rest ih =>
        intro seen
        have hHead : poll seen exchange = seen := by
          have hData := h exchange List.mem_cons_self
          obtain ⟨op, answer⟩ := exchange
          cases op with
          | read reg =>
              rcases hData with rfl | rfl
              · rfl
              · rfl
          | write reg value => exact absurd hData id
          | delay us => exact absurd hData id
          | sleep ms => exact absurd hData id
        rw [List.foldl_cons, hHead]
        exact ih (fun exchange hMem => h exchange (List.mem_cons_of_mem _ hMem)) seen
  rw [polls, polls, List.foldl_append, hFold]

variable (opponent : Opponent PcodeAnswer) (request : PcodeRequest)
  (past : Transcript PcodeAnswer)

theorem polls_afterPoll :
    polls (afterPoll opponent request past) = [firstPoll opponent request past] := by
  simp only [polls, afterPoll, afterPosting, List.foldl_append, List.foldl_cons, List.foldl_nil]
  rfl

/-- Nothing up to the poll reads a data word. -/
theorem not_data_of_mem_afterPoll {exchange : PcodeExchange}
    (hMem : exchange ∈ afterPoll opponent request []) : ¬ PcodeExchange.IsData exchange := by
  simp only [afterPoll, afterPosting, List.nil_append, List.mem_append, List.mem_singleton] at hMem
  rcases hMem with ((((rfl | rfl) | rfl) | rfl) | rfl) | rfl
  · simp [PcodeExchange.IsData, pcodeMailbox, pcodeData, pcodeData1]
  · exact id
  · exact id
  · exact id
  · exact id
  · simp [PcodeExchange.IsData, pcodeMailbox, pcodeData, pcodeData1]

end Transcripts

section Runs

variable {opponent : Opponent PcodeAnswer} {request : PcodeRequest}
  {past : Transcript PcodeAnswer}

theorem pollAgain_eq_false (iVar4 : Word) : pollAgain iVar4 = false := by
  simp [pollAgain]

/-- The poll loop ends after one pass. -/
theorem eval_polls (past : Transcript PcodeAnswer) :
    (loop pollOnce 21 (-20)).eval opponent.world past =
      (some (some (opponent (past ++ [⟨.delay 1, ()⟩]) (.read pcodeMailbox))),
        past ++ [⟨.delay 1, ()⟩] ++
          [⟨.read pcodeMailbox, opponent (past ++ [⟨.delay 1, ()⟩]) (.read pcodeMailbox)⟩]) := by
  have hOnce : (pollOnce (-20)).eval opponent.world past =
      (.stop (some (opponent (past ++ [⟨.delay 1, ()⟩]) (.read pcodeMailbox))),
        past ++ [⟨.delay 1, ()⟩] ++
          [⟨.read pcodeMailbox, opponent (past ++ [⟨.delay 1, ()⟩]) (.read pcodeMailbox)⟩]) := by
    rw [pollOnce, if_neg (by decide)]
    show ((if pollAgain _ then _ else _ : Iteration Word (Option Word)), _) = _
    rw [pollAgain_eq_false]
    rfl
  rw [eval_loop_succ, hOnce]

theorem eval_snbPcodeRw :
    (snbPcodeRw request).eval opponent.world past =
      (if Ready (mailboxBefore opponent past) then
        .done ⟨-eagain, request.val, request.val1⟩ else post request).eval opponent.world
        (past ++ [⟨.read pcodeMailbox, mailboxBefore opponent past⟩]) := rfl

/-- A mailbox that is taken is left alone. -/
theorem eval_of_ready (hReady : Ready (mailboxBefore opponent past)) :
    (snbPcodeRw request).eval opponent.world past =
      (⟨-eagain, request.val, request.val1⟩,
        past ++ [⟨.read pcodeMailbox, mailboxBefore opponent past⟩]) := by
  rw [eval_snbPcodeRw, if_pos hReady]
  rfl

/-- A mailbox that is free is polled once, and then the data is read if it is asked
for. -/
theorem eval_of_free (hFree : ¬ Ready (mailboxBefore opponent past)) :
    (snbPcodeRw request).eval opponent.world past =
      (⟨gen7CheckMailboxStatus request.mbox,
          ((handBack request).eval opponent.world (afterPoll opponent request past)).1.1,
          ((handBack request).eval opponent.world (afterPoll opponent request past)).1.2⟩,
        ((handBack request).eval opponent.world (afterPoll opponent request past)).2) := by
  rw [eval_snbPcodeRw, if_neg hFree]
  show ((loop pollOnce 21 (-20)) >>= _).eval opponent.world _ = _
  rw [Program.eval_bind, eval_polls]
  show ((handBack request) >>= _).eval opponent.world _ = _
  rw [Program.eval_bind]
  rfl

/-- The data words are all that is read after the poll, and the first one is handed
back. -/
theorem eval_handBack (opponent : Opponent PcodeAnswer) (request : PcodeRequest)
    (past : Transcript PcodeAnswer) :
    ∃ rest, ((handBack request).eval opponent.world past).2 = past ++ rest ∧
      (∀ exchange ∈ rest, PcodeExchange.IsData exchange) ∧
      (request.isRead = true →
        ((handBack request).eval opponent.world past).1.1 = opponent past (.read pcodeData) ∧
        ∃ later, rest = ⟨.read pcodeData, opponent past (.read pcodeData)⟩ :: later) := by
  obtain ⟨mbox, val, val1, isRead⟩ := request
  cases isRead with
  | false => exact ⟨[], (List.append_nil past).symm, by simp, fun hRead => by cases hRead⟩
  | true =>
      cases val1 with
      | none =>
          refine ⟨[⟨.read pcodeData, opponent past (.read pcodeData)⟩], rfl, ?_,
            fun _ => ⟨rfl, [], rfl⟩⟩
          simp [PcodeExchange.IsData]
      | some word =>
          let later := past ++ [⟨.read pcodeData, opponent past (.read pcodeData)⟩]
          refine ⟨[⟨.read pcodeData, opponent past (.read pcodeData)⟩,
            ⟨.read pcodeData1, opponent later (.read pcodeData1)⟩], ?_, ?_,
            fun _ => ⟨rfl, _, rfl⟩⟩
          · show past ++ [_] ++ [_] = _
            rw [List.append_assoc]
            rfl
          · simp [PcodeExchange.IsData]

end Runs

section Handshake

variable {opponent : Opponent PcodeAnswer} {request : PcodeRequest} {rest : Transcript PcodeAnswer}
  {reply : PcodeReply}

theorem gen7CheckMailboxStatus_ne_eagain (mbox : Word) :
    gen7CheckMailboxStatus mbox ≠ -eagain := by
  rw [gen7CheckMailboxStatus]
  split <;> decide

/-- A request that was not posted has promised nothing. -/
theorem handshake_of_ready (val : Word) (val1 : Option Word) (mailbox : Word) :
    Handshake request ⟨-eagain, val, val1⟩ [⟨.read pcodeMailbox, mailbox⟩] where
  accepted h := by
    have hNe : (-eagain : Int) ≠ 0 := by decide
    exact absurd h hNe
  reported value hMem := by
    have hNone : polls [⟨.read pcodeMailbox, mailbox⟩] = [] := rfl
    rw [hNone] at hMem
    cases hMem
  data before exchange after hSplit hData := by
    have hMem : exchange ∈ [(⟨.read pcodeMailbox, mailbox⟩ : PcodeExchange)] := by
      rw [hSplit]
      simp
    rw [List.mem_singleton.mp hMem] at hData
    exact absurd hData (by simp [PcodeExchange.IsData, pcodeMailbox, pcodeData, pcodeData1])
  untouched _ exchange hMem := by
    rw [List.mem_singleton.mp hMem]
    exact id

theorem polls_afterPoll_append (hRest : ∀ exchange ∈ rest, PcodeExchange.IsData exchange) :
    polls (afterPoll opponent request [] ++ rest) = [firstPoll opponent request []] := by
  rw [polls_append_of_data hRest, polls_afterPoll]

/-- A data word that is read comes after the poll. -/
theorem split_afterPoll {before after : Transcript PcodeAnswer} {exchange : PcodeExchange}
    (hSplit : afterPoll opponent request [] ++ rest = before ++ exchange :: after)
    (hData : exchange.IsData) :
    ∃ gap, before = afterPoll opponent request [] ++ gap ∧ rest = gap ++ exchange :: after := by
  rcases split_append_cons hSplit with hLater | ⟨gap, hFirst, -⟩
  · exact hLater
  · have hMem : exchange ∈ afterPoll opponent request [] := by
      rw [hFirst]
      exact List.mem_append_right _ List.mem_cons_self
    exact absurd hData (not_data_of_mem_afterPoll opponent request hMem)

/-- Where data is read, the poll has found an answer. -/
theorem not_ready_of_data (h : Handshake request reply (afterPoll opponent request [] ++ rest))
    (hRest : ∀ exchange ∈ rest, PcodeExchange.IsData exchange) (hSome : rest ≠ []) :
    ¬ Ready (firstPoll opponent request []) := by
  obtain ⟨exchange, later, rfl⟩ := List.exists_cons_of_ne_nil hSome
  obtain ⟨value, hMem, hDone⟩ := h.data (afterPoll opponent request []) exchange later rfl
    (hRest exchange List.mem_cons_self)
  rw [polls_afterPoll, List.mem_singleton] at hMem
  rw [← hMem]
  exact hDone

/-- What the world has to answer once the request is posted. -/
def AnswersPosted (opponent : Opponent PcodeAnswer) (request : PcodeRequest) : Prop :=
  ¬ Ready (firstPoll opponent request []) ∧
      (gen7CheckMailboxStatus (firstPoll opponent request []) = 0 ∨
        gen7CheckMailboxStatus (firstPoll opponent request []) =
          gen7CheckMailboxStatus request.mbox) ∨
    Ready (firstPoll opponent request []) ∧ request.isRead = false ∧
      gen7CheckMailboxStatus request.mbox ≠ 0

theorem answersPosted_of_handshake {val : Word} {val1 : Option Word}
    (h : Handshake request ⟨gen7CheckMailboxStatus request.mbox, val, val1⟩
      (afterPoll opponent request [] ++ rest))
    (hRest : ∀ exchange ∈ rest, PcodeExchange.IsData exchange)
    (hRead : request.isRead = true → rest ≠ []) : AnswersPosted opponent request := by
  have hPolls : polls (afterPoll opponent request [] ++ rest) = [firstPoll opponent request []] :=
    polls_afterPoll_append hRest
  by_cases hReady : Ready (firstPoll opponent request [])
  · apply Or.inr
    refine ⟨hReady, ?_, ?_⟩
    · cases hIsRead : request.isRead with
      | false => rfl
      | true => exact absurd hReady (not_ready_of_data h hRest (hRead hIsRead))
    · intro hZero
      obtain ⟨_, value, hLast, hDone, _⟩ := h.accepted hZero
      rw [hPolls] at hLast
      cases hLast
      exact hDone hReady
  · apply Or.inl
    refine ⟨hReady, ?_⟩
    by_cases hZero : gen7CheckMailboxStatus (firstPoll opponent request []) = 0
    · exact .inl hZero
    · apply Or.inr
      have hMem : firstPoll opponent request [] ∈
          polls (afterPoll opponent request [] ++ rest) := by
        rw [hPolls]
        exact List.mem_singleton_self _
      exact (h.reported _ hMem hReady hZero).symm

theorem handshake_of_answersPosted (h : AnswersPosted opponent request) (val : Word)
    (val1 : Option Word) (hRest : ∀ exchange ∈ rest, PcodeExchange.IsData exchange)
    (hWrite : request.isRead = false → rest = []) :
    Handshake request ⟨gen7CheckMailboxStatus request.mbox, val, val1⟩
      (afterPoll opponent request [] ++ rest) := by
  have hPolls : polls (afterPoll opponent request [] ++ rest) = [firstPoll opponent request []] :=
    polls_afterPoll_append hRest
  refine {
    accepted := ?_
    reported := ?_
    data := ?_
    untouched := fun hAgain => absurd hAgain (gen7CheckMailboxStatus_ne_eagain _) }
  · intro hZero
    rw [hPolls]
    rcases h with ⟨hDone, hStatus⟩ | ⟨_, _, hError⟩
    · refine ⟨by simp, _, rfl, hDone, ?_⟩
      exact hStatus.elim id fun hSame => hSame.trans hZero
    · exact absurd hZero hError
  · intro value hMem hDone hStatus
    rw [hPolls, List.mem_singleton] at hMem
    rw [hMem] at hDone hStatus ⊢
    rcases h with ⟨_, hZero | hSame⟩ | ⟨hReady, _⟩
    · exact absurd hZero hStatus
    · exact hSame.symm
    · exact absurd hReady hDone
  · intro before exchange after hSplit hData
    obtain ⟨gap, rfl, hGap⟩ := split_afterPoll hSplit hData
    rcases h with ⟨hDone, _⟩ | ⟨_, hIsWrite, _⟩
    · refine ⟨firstPoll opponent request [], ?_, hDone⟩
      have hEarlier : ∀ exchange ∈ gap, PcodeExchange.IsData exchange := by
        intro early hMem
        apply hRest
        rw [hGap]
        exact List.mem_append_left _ hMem
      rw [polls_afterPoll_append hEarlier]
      exact List.mem_singleton_self _
    · rw [hWrite hIsWrite] at hGap
      exact absurd hGap.symm (List.append_ne_nil_of_right_ne_nil _ (List.cons_ne_nil _ _))

/-- After the one poll a request keeps its promise just when an answer was there
whose error is the one that is reported, or none is needed. -/
theorem handshake_posted_iff (val : Word) (val1 : Option Word)
    (hRest : ∀ exchange ∈ rest, PcodeExchange.IsData exchange)
    (hRead : request.isRead = true → rest ≠ []) (hWrite : request.isRead = false → rest = []) :
    Handshake request ⟨gen7CheckMailboxStatus request.mbox, val, val1⟩
        (afterPoll opponent request [] ++ rest) ↔ AnswersPosted opponent request :=
  ⟨fun h => answersPosted_of_handshake h hRest hRead,
    fun h => handshake_of_answersPosted h val val1 hRest hWrite⟩

/-- A request keeps its promise just when the world answers it at once. -/
theorem handshake_iff (opponent : Opponent PcodeAnswer) (request : PcodeRequest) :
    Handshake request ((snbPcodeRw request).against opponent).1
        ((snbPcodeRw request).against opponent).2 ↔
      AnswersAtOnce opponent request [] := by
  rw [Program.against, AnswersAtOnce]
  by_cases hReady : Ready (mailboxBefore opponent [])
  · rw [eval_of_ready hReady]
    exact ⟨fun _ => .inl hReady, fun _ => handshake_of_ready _ _ _⟩
  · obtain ⟨rest, hPast, hRest, hRead⟩ :=
      eval_handBack opponent request (afterPoll opponent request [])
    have hWrite : request.isRead = false → rest = [] := by
      intro hIsRead
      rw [handBack, hIsRead] at hPast
      exact List.self_eq_append_right.mp hPast
    have hNonempty : request.isRead = true → rest ≠ [] := by
      intro hIsRead
      obtain ⟨later, rfl⟩ := (hRead hIsRead).2
      exact List.cons_ne_nil _ _
    rw [eval_of_free hReady, hPast, handshake_posted_iff _ _ hRest hNonempty hWrite,
      or_iff_right hReady]
    exact Iff.rfl

end Handshake

section ColdRequest

variable (opponent : Opponent PcodeAnswer) (block : Bool) (past : Transcript PcodeAnswer)

/-- The request of every attempt to leave TCCOLD. -/
def coldRequest : PcodeRequest := ⟨tglPcodeTccold, tccoldRequest block, some 0, true⟩

/-- An attempt that begins here is the last one, however many are left. -/
def EndsHere : Prop :=
  ¬ Ready (mailboxBefore opponent past) ∧
    ¬ (block ∧ lowWord opponent (coldRequest block) past &&& exitFailed ≠ 0)

instance : Decidable (EndsHere opponent block past) := inferInstanceAs (Decidable (_ ∧ _))

/-- The firmware has answered an attempt that begins here, with success, when it is
polled. -/
def AnsweredHere : Prop :=
  ¬ Ready (firstPoll opponent (coldRequest block) past) ∧
    gen7CheckMailboxStatus (firstPoll opponent (coldRequest block) past) = 0

/-- The time after an attempt, and the time when the next one begins. -/
def afterAttempt : Transcript PcodeAnswer :=
  ((snbPcodeRw (coldRequest block)).eval opponent.world past).2

def nextAttempt : Transcript PcodeAnswer :=
  afterAttempt opponent block past ++ [⟨.sleep 1, ()⟩]

/-- The attempt that stops the request before the third one is answered in time. -/
def AnsweredInTime : Prop :=
  (EndsHere opponent block [] → AnsweredHere opponent block []) ∧
    (¬ EndsHere opponent block [] → EndsHere opponent block (nextAttempt opponent block []) →
      AnsweredHere opponent block (nextAttempt opponent block []))

/-- The request ends within three attempts, and before the third only on a reply that
the firmware has accepted. -/
def StopsOnAccepted : Prop :=
  ∃ attempts, ((tglTcColdRequest block).against opponent).1 = some attempts ∧ attempts ≤ 3 ∧
    (attempts < 3 → AcceptedReply block ((tglTcColdRequest block).against opponent).2)

variable {opponent block past}

theorem ends_iff :
    (((snbPcodeRw (coldRequest block)).eval opponent.world past).1.ret = 0 ∧
      ¬ (block ∧ ((snbPcodeRw (coldRequest block)).eval opponent.world past).1.val &&&
        exitFailed ≠ 0)) ↔ EndsHere opponent block past := by
  by_cases hReady : Ready (mailboxBefore opponent past)
  · rw [eval_of_ready hReady, EndsHere]
    have hNe : (-eagain : Int) ≠ 0 := by decide
    simp [hReady, hNe]
  · have hZero : gen7CheckMailboxStatus (coldRequest block).mbox = 0 := by
      show gen7CheckMailboxStatus tglPcodeTccold = 0
      decide
    have hLow : ((handBack (coldRequest block)).eval opponent.world
        (afterPoll opponent (coldRequest block) past)).1.1 =
        lowWord opponent (coldRequest block) past := rfl
    rw [eval_of_free hReady, EndsHere]
    simp only [hZero, hLow, hReady, not_false_eq_true, true_and]

/-- One attempt stops the request, or sleeps and leaves it to the next one. -/
theorem eval_tccoldOnce (tries : Nat) :
    (tccoldOnce block tries).eval opponent.world past =
      if EndsHere opponent block past ∨ tries + 1 = 3 then
        (.stop (tries + 1), afterAttempt opponent block past)
      else (.next (tries + 1), nextAttempt opponent block past) := by
  have hBind : (tccoldOnce block tries).eval opponent.world past =
      (if ((snbPcodeRw (coldRequest block)).eval opponent.world past).1.ret = 0 ∧
          ¬ (block ∧ ((snbPcodeRw (coldRequest block)).eval opponent.world past).1.val &&&
            exitFailed ≠ 0) then .done (.stop (tries + 1))
        else if tries + 1 = 3 then .done (.stop (tries + 1))
        else .call (PcodeOp.sleep 1) fun _ => .done (.next (tries + 1)) :
        PcodeProgram (Iteration Nat Nat)).eval opponent.world
        (afterAttempt opponent block past) :=
    Program.eval_bind _ _ _ _
  rw [hBind]
  simp only [ends_iff]
  by_cases hEnds : EndsHere opponent block past
  · rw [if_pos hEnds, if_pos (.inl hEnds)]
    rfl
  · rw [if_neg hEnds]
    by_cases hThird : tries + 1 = 3
    · rw [if_pos hThird, if_pos (.inr hThird)]
      rfl
    · rw [if_neg hThird, if_neg fun h => h.elim hEnds hThird]
      rfl

theorem eval_loop_of_ends (fuel tries : Nat)
    (hEnds : EndsHere opponent block past ∨ tries + 1 = 3) :
    (loop (tccoldOnce block) (fuel + 1) tries).eval opponent.world past =
      (some (tries + 1), afterAttempt opponent block past) := by
  rw [eval_loop_succ, eval_tccoldOnce, if_pos hEnds]

theorem eval_loop_of_goesOn (fuel tries : Nat)
    (hGoesOn : ¬ (EndsHere opponent block past ∨ tries + 1 = 3)) :
    (loop (tccoldOnce block) (fuel + 1) tries).eval opponent.world past =
      (loop (tccoldOnce block) fuel (tries + 1)).eval opponent.world
        (nextAttempt opponent block past) := by
  rw [eval_loop_succ, eval_tccoldOnce, if_neg hGoesOn]

/-- An attempt that ends the request was accepted just when it was answered in time. -/
theorem acceptedReply_iff (hEnds : EndsHere opponent block past) :
    AcceptedReply block (afterAttempt opponent block past) ↔
      AnsweredHere opponent block past := by
  obtain ⟨hFree, hLow⟩ := hEnds
  let low : PcodeExchange := ⟨.read pcodeData, lowWord opponent (coldRequest block) past⟩
  let later := afterPoll opponent (coldRequest block) past ++ [low]
  let high : PcodeExchange := ⟨.read pcodeData1, opponent later (.read pcodeData1)⟩
  have hSplit : afterAttempt opponent block past =
      afterPoll opponent (coldRequest block) past ++ [low, high] := by
    rw [afterAttempt, eval_of_free hFree]
    show afterPoll opponent (coldRequest block) past ++ [low] ++ [high] = _
    rw [List.append_assoc]
    rfl
  have hPolls : polls (afterAttempt opponent block past) =
      [firstPoll opponent (coldRequest block) past] := by
    rw [hSplit, polls_append_of_data, polls_afterPoll]
    simp [low, high, PcodeExchange.IsData]
  have hWords : (dataWords (afterAttempt opponent block past)).getLast? =
      some (lowWord opponent (coldRequest block) past) := by
    have hLast : dataWords [low, high] = [lowWord opponent (coldRequest block) past] := rfl
    rw [dataWords] at hLast
    rw [hSplit, dataWords, List.filterMap_append, hLast]
    simp
  rw [AcceptedReply, hPolls, hWords]
  constructor
  · intro ⟨value, word, hLast, _, hDone, hStatus, _⟩
    cases hLast
    exact ⟨hDone, hStatus⟩
  · intro ⟨hDone, hStatus⟩
    exact ⟨_, _, rfl, rfl, hDone, hStatus, hLow⟩

/-- The request stops on an accepted reply just when the attempt that stops it is
answered in time. -/
theorem stopsOnAccepted_iff (opponent : Opponent PcodeAnswer) (block : Bool) :
    StopsOnAccepted opponent block ↔ AnsweredInTime opponent block := by
  rw [StopsOnAccepted, AnsweredInTime, tglTcColdRequest, Program.against]
  by_cases hFirst : EndsHere opponent block []
  · rw [eval_loop_of_ends 2 0 (.inl hFirst)]
    simp [hFirst, acceptedReply_iff hFirst]
  · rw [eval_loop_of_goesOn 2 0 fun h => h.elim hFirst (by decide)]
    by_cases hSecond : EndsHere opponent block (nextAttempt opponent block [])
    · rw [eval_loop_of_ends 1 1 (.inl hSecond)]
      simp [hFirst, hSecond, acceptedReply_iff hSecond]
    · rw [eval_loop_of_goesOn 1 1 fun h => h.elim hSecond (by decide),
        eval_loop_of_ends 0 2 (.inr rfl)]
      simp [hFirst, hSecond]

/-- The handshake and the request that is built on it keep their promises just when
the world answers at once. -/
theorem mailbox_iff (opponent : Opponent PcodeAnswer) (request : PcodeRequest) (block : Bool) :
    (Handshake request ((snbPcodeRw request).against opponent).1
        ((snbPcodeRw request).against opponent).2 ↔ AnswersAtOnce opponent request []) ∧
      (StopsOnAccepted opponent block ↔ AnsweredInTime opponent block) :=
  ⟨handshake_iff opponent request, stopsOnAccepted_iff opponent block⟩

end ColdRequest

/-- A power controller whose mailbox becomes free once and never answers. -/
def silent : Opponent PcodeAnswer
  | past, .read _ => if past.isEmpty then 0 else pcodeReady
  | _, .write _ _ => ()
  | _, .delay _ => ()
  | _, .sleep _ => ()

/-- A request that was never answered reports success, and one for TCCOLD stops. -/
theorem silent_breaks_handshake :
    ¬ Handshake (coldRequest true) ((snbPcodeRw (coldRequest true)).against silent).1
        ((snbPcodeRw (coldRequest true)).against silent).2 ∧
      ¬ StopsOnAccepted silent true := by
  constructor
  · rw [handshake_iff]
    rintro (hTaken | ⟨hDone, _⟩ | ⟨_, hWrite, _⟩)
    · exact absurd hTaken (by decide)
    · exact hDone (by decide)
    · cases hWrite
  · rw [stopsOnAccepted_iff]
    intro ⟨hAnswered, _⟩
    have hEnds : EndsHere silent true [] := ⟨by decide, by decide⟩
    exact (hAnswered hEnds).1 (by decide)

end NootedBlue.Pcode
