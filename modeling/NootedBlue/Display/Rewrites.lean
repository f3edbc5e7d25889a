import NootedBlue.Display.DcState

/-! How the loop of `gen9_write_dc_state` comes to its end. One count says how often the
state was written again, and the other how often it was found since then. -/
namespace NootedBlue.Display

open Interaction

variable {state : Word}

/-- The state register was read, and the state was written to it. -/
def readBack (v : Word) : Exchange DcAnswer := ⟨.read dcStateEn, v⟩

def written (v : Word) : Exchange DcAnswer := ⟨.write dcStateEn v, ()⟩

/-- The values that were written, in their order. -/
def writes (transcript : Transcript DcAnswer) : List Word :=
  transcript.filterMap fun
    | ⟨.read _, _⟩ => none
    | ⟨.write _ value, _⟩ => some value

/-- What comes before a rewrite: a few reads find the state, and the next one finds
something else. -/
structure Round (state : Word) where
  rereads : Nat
  found : Word
  rereads_le : rereads ≤ 6
  found_ne : found ≠ state

def Round.exchanges (round : Round state) : Transcript DcAnswer :=
  List.replicate round.rereads (readBack state) ++ [readBack round.found, written state]

/-- What comes after the last rewrite: the state is found seven times, or the hundredth
rewrite was the end. -/
inductive Ending (state : Word) : Nat → Transcript DcAnswer → Prop where
  | settled {rewrites : Nat} (few : rewrites < 100) :
      Ending state rewrites (List.replicate 7 (readBack state))
  | exhausted : Ending state 100 []

/-- A pass rewrites, or counts one more reread. -/
theorem plays_rewriteOnce {rewrites rereads : Nat} {transcript : Transcript DcAnswer}
    {iteration : Iteration (Nat × Nat) Unit}
    (plays : Plays (rewriteOnce state (rewrites, rereads)) transcript iteration) :
    (∃ v, v ≠ state ∧ transcript = [readBack v, written state] ∧
      iteration = if rewrites + 1 < 100 then .next (rewrites + 1, 0) else .stop ()) ∨
    (transcript = [readBack state] ∧
      iteration = if rereads > 5 then .stop () else .next (rewrites, rereads + 1)) := by
  obtain ⟨v, afterRead, rfl, hRead⟩ := plays_call_iff.mp plays
  change Plays (if v ≠ state then _ else _ : DcProgram (Iteration (Nat × Nat) Unit)) _ _ at hRead
  split at hRead
  next hOther =>
    obtain ⟨answer, rest, rfl, hDone⟩ := plays_call_iff.mp hRead
    obtain ⟨rfl, hSame⟩ := plays_done_iff.mp hDone
    exact .inl ⟨v, hOther, rfl, hSame⟩
  next hFound =>
    obtain ⟨rfl, hSame⟩ := plays_done_iff.mp hRead
    rw [not_not.mp hFound]
    exact .inr ⟨rfl, hSame⟩

/-- From any counts on, the passes make up whole rounds and an ending, where the rereads
that were counted before belong to the first of them. Each pass uses up a reread of the
seven that a rewrite leaves, or a rewrite of the hundred, so the fuel is enough. -/
theorem plays_rewrites {fuel : Nat} {counts : Nat × Nat} {transcript : Transcript DcAnswer}
    {result : Option Unit} (plays : Plays (loop (rewriteOnce state) fuel counts) transcript result)
    (hRewrites : counts.1 < 100) (hRereads : counts.2 ≤ 6)
    (hFuel : 700 ≤ fuel + 7 * counts.1 + counts.2) :
    ∃ (rounds : List (Round state)) (last : Transcript DcAnswer), result = some () ∧
      List.replicate counts.2 (readBack state) ++ transcript =
        rounds.flatMap Round.exchanges ++ last ∧
      Ending state (counts.1 + rounds.length) last := by
  revert hRewrites hRereads hFuel
  apply plays_loop_rule ?_ ?_ ?_ plays
  · intro counts hRewrites hRereads hFuel
    omega
  · intro fuel ⟨rewrites, rereads⟩ transcript value hStop hRewrites hRereads hFuel
    rcases plays_rewriteOnce hStop with ⟨v, hOther, rfl, hIteration⟩ | ⟨rfl, hIteration⟩
    · split at hIteration
      next => cases hIteration
      next hMore =>
        have hLast : rewrites = 99 := by
          simp only at hRewrites
          omega
        subst hLast
        exact ⟨[⟨rereads, v, hRereads, hOther⟩], [], rfl, by simp [Round.exchanges], .exhausted⟩
    · split at hIteration
      next hMany =>
        have hSix : rereads = 6 := Nat.le_antisymm hRereads hMany
        subst hSix
        exact ⟨[], List.replicate 7 (readBack state), rfl, rfl, .settled hRewrites⟩
      next => cases hIteration
  · intro fuel ⟨rewrites, rereads⟩ first next rest result hNext ih hRewrites hRereads hFuel
    rcases plays_rewriteOnce hNext with ⟨v, hOther, rfl, hIteration⟩ | ⟨rfl, hIteration⟩
    · split at hIteration
      next hMore =>
        cases hIteration
        obtain ⟨rounds, last, hResult, hRounds, hEnding⟩ := ih hMore (Nat.zero_le _)
          (by simp only at hFuel hRereads ⊢; omega)
        refine ⟨⟨rereads, v, hRereads, hOther⟩ :: rounds, last, hResult, ?_, ?_⟩
        · rw [List.flatMap_cons, Round.exchanges, List.append_assoc, List.append_assoc, ← hRounds]
          rfl
        · rw [List.length_cons, Nat.add_comm rounds.length, ← Nat.add_assoc]
          exact hEnding
      next => cases hIteration
    · split at hIteration
      next => cases hIteration
      next hFew =>
        cases hIteration
        obtain ⟨rounds, last, hResult, hRounds, hEnding⟩ := ih hRewrites
          (Nat.succ_le_succ (Nat.le_of_not_lt hFew))
          (by simp only at hFuel ⊢; omega)
        refine ⟨rounds, last, hResult, ?_, hEnding⟩
        rw [← hRounds, List.replicate_succ', List.append_assoc]

section Writes

theorem writes_append (first second : Transcript DcAnswer) :
    writes (first ++ second) = writes first ++ writes second := List.filterMap_append

theorem writes_rereads (count : Nat) :
    writes (List.replicate count (readBack state)) = [] := by
  induction count with
  | zero => rfl
  | succ count ih => exact ih

theorem writes_exchanges (round : Round state) : writes round.exchanges = [state] := by
  rw [Round.exchanges, writes_append, writes_rereads]
  rfl

/-- Every round ends with one write. -/
theorem writes_rounds (rounds : List (Round state)) :
    writes (rounds.flatMap Round.exchanges) = List.replicate rounds.length state := by
  induction rounds with
  | nil => rfl
  | cons round rounds ih =>
      rw [List.flatMap_cons, writes_append, writes_exchanges, ih]
      rfl

theorem Ending.writes_eq {rewrites : Nat} {last : Transcript DcAnswer}
    (ending : Ending state rewrites last) : writes last = [] := by
  cases ending with
  | settled few => exact writes_rereads 7
  | exhausted => rfl

end Writes

/-- Whatever is read, the loop ends: with the state found seven times in a row since the
last write, or with the hundredth rewrite. All that is written is the state. -/
theorem gen9WriteDcState_ends (state : Word) (opponent : Opponent DcAnswer) :
    ∃ (rounds : List (Round state)) (last : Transcript DcAnswer),
      (gen9WriteDcState state).against opponent =
        (some (), written state :: (rounds.flatMap Round.exchanges ++ last)) ∧
      Ending state rounds.length last ∧
      writes ((gen9WriteDcState state).against opponent).2 =
        List.replicate (rounds.length + 1) state := by
  obtain ⟨answer, rest, hTranscript, hLoop⟩ :=
    plays_call_iff.mp (plays_against (gen9WriteDcState state) opponent)
  obtain ⟨rounds, last, hResult, hRounds, hEnding⟩ :=
    plays_rewrites hLoop (by decide) (by decide) (by decide)
  rw [Nat.zero_add] at hEnding
  have hRun : (gen9WriteDcState state).against opponent =
      (some (), written state :: (rounds.flatMap Round.exchanges ++ last)) :=
    Prod.ext hResult (hTranscript.trans (congrArg (written state :: ·) hRounds))
  refine ⟨rounds, last, hRun, hEnding, ?_⟩
  rw [hRun]
  show state :: writes (rounds.flatMap Round.exchanges ++ last) = _
  rw [writes_append, writes_rounds, hEnding.writes_eq, List.append_nil]
  rfl

end NootedBlue.Display
