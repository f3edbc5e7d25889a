import NootedBlue.Guc.Load
import NootedBlue.Semantics.Run

/-! Sequences of calls that load the GuC. The first call that finds a display and
an accelerator sets the marker before it has loaded anything, and every later call
takes a marker that is set for a GuC that is loaded. -/
namespace NootedBlue.Guc

open Interaction Transition

/-- A call that returned: whether there were a display and an accelerator, what it
did, and what it returned. After a panic nothing is called any more. -/
structure Call where
  present : Bool
  transcript : LoadTranscript
  result : Nat

/-- A call takes the marker from one value to the next. -/
def Called (alderlake : Bool) (gucp : Bool) (call : Call) (gucp' : Bool) : Prop :=
  Plays (loadGuCBinary alderlake gucp call.present) call.transcript (.returned call.result, gucp')

/-- One of the calls has loaded the GuC. -/
def LoadedIn (calls : List Call) : Prop := ∃ call ∈ calls, Loaded call.transcript

/-- The return values tell the truth: a call that returns one has loaded the GuC or
an earlier one has, not before a call that returned zero; and a call that returns
zero has given back everything. -/
structure Truthful (calls : List Call) : Prop where
  one : ∀ before call after, calls = before ++ call :: after → call.result = 1 →
    LoadedIn (before ++ [call])
  zero : ∀ before failed between call after,
    calls = before ++ failed :: (between ++ call :: after) → failed.result = 0 →
      call.result = 1 → LoadedIn (between ++ [call])
  released : ∀ call ∈ calls, call.result = 0 → Released call.transcript

/-- The first call that finds a display and an accelerator decides: it sees the GuC
ready, or `initSchedControl` has not failed in it and no other call follows. -/
def FirstDecides : List Call → Prop
  | [] => True
  | call :: rest =>
      if call.present then Ready call.transcript ∨ ¬ SchedFails call.transcript ∧ rest = []
      else FirstDecides rest

section Calls

variable {alderlake gucp : Bool} {calls absent rest : List Call} {call first : Call}

/-- A call that finds no display or no accelerator. -/
structure Absent (call : Call) : Prop where
  present : call.present = false
  transcript : call.transcript = []
  result : call.result = 0

/-- A call that finds the marker. -/
structure Marked (call : Call) : Prop where
  transcript : call.transcript = []
  result : call.result = 1

/-- The call that sets the marker. -/
structure Setting (call : Call) : Prop where
  present : call.present = true
  ends : Ends call.transcript 0 (.returned call.result)

theorem called_of_marked (h : Called alderlake true call gucp) : gucp = true ∧ Marked call := by
  obtain ⟨present, transcript, result⟩ := call
  obtain ⟨hEmpty, hResult⟩ := plays_done_iff.mp h
  cases hResult
  exact ⟨rfl, hEmpty, rfl⟩

theorem called_of_unmarked (h : Called alderlake false call gucp) :
    (gucp = false ∧ Absent call) ∨ (gucp = true ∧ Setting call) := by
  obtain ⟨present, transcript, result⟩ := call
  cases present with
  | false =>
      obtain ⟨hEmpty, hResult⟩ := plays_done_iff.mp h
      cases hResult
      exact .inl ⟨rfl, rfl, hEmpty, rfl⟩
  | true =>
      obtain ⟨first, rest, outcome, hSplit, hLoad, hDone⟩ := plays_bind_iff.mp h
      obtain ⟨rfl, hResult⟩ := plays_done_iff.mp hDone
      cases hResult
      rw [List.append_nil] at hSplit
      exact .inr ⟨rfl, rfl, hSplit ▸ plays_loadFile hLoad⟩

theorem Setting.ready (h : Setting call) (hOne : call.result = 1) : Ready call.transcript := by
  obtain ⟨present, transcript, result⟩ := call
  obtain rfl : result = 1 := hOne
  cases h.ends with
  | loaded hLoaded => exact hLoaded.ready

theorem Setting.not_ready (h : Setting call) (hZero : call.result = 0) :
    ¬ Ready call.transcript := by
  obtain ⟨present, transcript, result⟩ := call
  obtain rfl : result = 0 := hZero
  cases h.ends with
  | failed _ hFailed => exact hFailed.notReady
  | leaked _ hFailed => exact hFailed.notReady

/-- Calls of which one has set the marker. -/
structure SetBy (absent : List Call) (first : Call) (rest : List Call) : Prop where
  before : ∀ call ∈ absent, Absent call
  setting : Setting first
  after : ∀ call ∈ rest, Marked call

/-- In every run there are calls that find nothing, then one that sets the marker,
and calls that find it. -/
theorem runs_cases (run : Runs (Called alderlake) false calls gucp) :
    (gucp = false ∧ ∀ call ∈ calls, Absent call) ∨
      (gucp = true ∧ ∃ absent first rest, calls = absent ++ first :: rest ∧
        SetBy absent first rest) := by
  induction run with
  | nil => exact .inl ⟨rfl, by simp⟩
  | @snoc _ _ events last _ hLast ih =>
      rcases ih with ⟨rfl, hAbsent⟩ | ⟨rfl, absent, first, rest, rfl, hBefore, hSetting, hAfter⟩
      · rcases called_of_unmarked hLast with ⟨rfl, hNone⟩ | ⟨rfl, hSetting⟩
        · refine .inl ⟨rfl, List.forall_mem_append.mpr ⟨hAbsent, ?_⟩⟩
          simpa using hNone
        · exact .inr ⟨rfl, events, last, [], rfl, hAbsent, hSetting, by simp⟩
      · obtain ⟨rfl, hMarked⟩ := called_of_marked hLast
        refine .inr ⟨rfl, absent, first, rest ++ [last], by simp, hBefore, hSetting, ?_⟩
        exact List.forall_mem_append.mpr ⟨hAfter, by simpa using hMarked⟩

theorem not_loaded_of_empty (h : call.transcript = []) : ¬ Loaded call.transcript := by
  rw [h]
  intro hLoaded
  cases hLoaded.started

/-- Calls that all fail and give back everything tell the truth. -/
theorem truthful_of_failed (h : ∀ call ∈ calls, call.result = 0 ∧ Released call.transcript) :
    Truthful calls where
  one := by
    rintro before call after rfl hOne
    have hZero := (h call (by simp)).1
    omega
  zero := by
    rintro before failed between call after rfl - hOne
    have hZero := (h call (by simp)).1
    omega
  released call hMem _ := (h call hMem).2

theorem Absent.failed (h : Absent call) : call.result = 0 ∧ Released call.transcript := by
  refine ⟨h.result, fun resource => ?_⟩
  rw [h.transcript]
  rfl

theorem Failed.released (h : Failed call.transcript 0) : Released call.transcript := by
  intro resource
  cases resource with
  | buffer => exact h.buffer
  | forceWake => exact h.forceWake

theorem firstDecides_append_iff (hAbsent : ∀ call ∈ absent, Absent call) :
    FirstDecides (absent ++ calls) ↔ FirstDecides calls := by
  induction absent with
  | nil => exact Iff.rfl
  | cons call absent ih =>
      have hCall := (hAbsent call List.mem_cons_self).present
      rw [List.cons_append, FirstDecides, hCall, if_neg Bool.false_ne_true]
      exact ih fun later hMem => hAbsent later (List.mem_cons_of_mem _ hMem)

/-- A call that returned one comes no earlier than the call that set the marker. -/
theorem SetBy.mem_of_one {before after : List Call} (h : SetBy absent first rest)
    (hSplit : absent ++ first :: rest = before ++ call :: after) (hOne : call.result = 1) :
    first ∈ before ++ [call] := by
  rcases split_append_cons hSplit with ⟨late, rfl, hLate⟩ | ⟨early, rfl, -⟩
  · cases late with
    | nil =>
        cases hLate
        simp
    | cons found late =>
        cases hLate
        simp
  · have hZero := (h.before call (by simp)).result
    omega

/-- A call that returned zero comes before the call that set the marker, if that one
did not return zero itself. -/
theorem SetBy.absent_of_zero {before after : List Call} (h : SetBy absent first rest)
    (hFirst : first.result = 1) (hSplit : absent ++ first :: rest = before ++ call :: after)
    (hZero : call.result = 0) : ∀ earlier ∈ before ++ [call], Absent earlier := by
  rcases split_append_cons hSplit with ⟨late, rfl, hLate⟩ | ⟨early, rfl, -⟩
  · have hMem : call ∈ first :: rest := by simp [hLate]
    rcases List.mem_cons.mp hMem with rfl | hMem
    · omega
    · have hOne := (h.after call hMem).result
      omega
  · intro earlier hMem
    refine h.before earlier ?_
    simpa [or_assoc] using Or.inl (List.mem_append.mp hMem)

/-- After a call that has loaded the GuC every return value tells the truth. -/
theorem SetBy.truthful_of_loaded (h : SetBy absent first rest) (hOne : first.result = 1)
    (hLoaded : Loaded first.transcript) : Truthful (absent ++ first :: rest) where
  one := by
    intro before call after hSplit hCall
    exact ⟨first, h.mem_of_one hSplit hCall, hLoaded⟩
  zero := by
    intro before failed between call after hSplit hZero hCall
    have hNone := h.absent_of_zero hOne hSplit hZero
    have hLate : absent ++ first :: rest = (before ++ failed :: between) ++ call :: after := by
      simp [hSplit]
    have hMem := h.mem_of_one hLate hCall
    refine ⟨first, ?_, hLoaded⟩
    have hParts : first ∈ before ++ [failed] ∨ first ∈ between ++ [call] := by
      simpa [or_assoc] using hMem
    rcases hParts with hEarly | hBetween
    · exact absurd hLoaded (not_loaded_of_empty (hNone first hEarly).transcript)
    · exact hBetween
  released := by
    intro call hMem hZero
    rcases List.mem_append.mp hMem with hEarly | hLater
    · exact (h.before call hEarly).failed.2
    · rcases List.mem_cons.mp hLater with rfl | hLater
      · omega
      · have hMarked := (h.after call hLater).result
        omega

/-- When the call that set the marker failed, the next one returns one, and none of
them has loaded the GuC. -/
theorem SetBy.rest_of_failed (h : SetBy absent first rest) (hReady : ¬ Ready first.transcript)
    (hTruthful : Truthful (absent ++ first :: rest)) : rest = [] := by
  cases rest with
  | nil => rfl
  | cons next rest =>
      have hNext := h.after next List.mem_cons_self
      have hSplit : absent ++ first :: next :: rest = (absent ++ [first]) ++ next :: rest := by simp
      obtain ⟨call, hMem, hLoaded⟩ := hTruthful.one _ next rest hSplit hNext.result
      have hCall : call ∈ absent ∨ call = first ∨ call = next := by
        simpa [or_assoc] using hMem
      rcases hCall with hEarly | rfl | rfl
      · exact absurd hLoaded (not_loaded_of_empty (h.before call hEarly).transcript)
      · exact absurd hLoaded.ready hReady
      · exact absurd hLoaded (not_loaded_of_empty hNext.transcript)

theorem SetBy.truthful_iff (h : SetBy absent first rest) :
    Truthful (absent ++ first :: rest) ↔
      Ready first.transcript ∨ ¬ SchedFails first.transcript ∧ rest = [] := by
  obtain ⟨present, transcript, result⟩ := first
  have hMem : ⟨present, transcript, result⟩ ∈ absent ++ ⟨present, transcript, result⟩ :: rest := by
    simp
  cases h.setting.ends with
  | loaded hLoaded =>
      exact iff_of_true (h.truthful_of_loaded rfl hLoaded) (.inl hLoaded.ready)
  | failed hSched hFailed =>
      constructor
      · intro hTruthful
        exact .inr ⟨hSched, h.rest_of_failed hFailed.notReady hTruthful⟩
      · rintro (hReady | ⟨-, rfl⟩)
        · exact absurd hReady hFailed.notReady
        · refine truthful_of_failed (List.forall_mem_append.mpr ⟨fun call hCall =>
            (h.before call hCall).failed, ?_⟩)
          simpa using hFailed.released
  | leaked hSched hFailed =>
      refine iff_of_false ?_ ?_
      · intro hTruthful
        have hNone : net .buffer transcript = 0 := hTruthful.released _ hMem rfl .buffer
        have hOne : net .buffer transcript = 0 + 1 := hFailed.buffer
        omega
      · rintro (hReady | ⟨hNot, -⟩)
        · exact hFailed.notReady hReady
        · exact hNot hSched

/-- In every run the return values tell the truth just when the first call that
finds a display and an accelerator decides so. -/
theorem load_status_truthful_iff (run : Runs (Called alderlake) false calls gucp) :
    Truthful calls ↔ FirstDecides calls := by
  rcases runs_cases run with ⟨-, hAbsent⟩ | ⟨-, absent, first, rest, rfl, hSet⟩
  · refine iff_of_true (truthful_of_failed fun call hCall => (hAbsent call hCall).failed) ?_
    rw [← List.append_nil calls]
    exact (firstDecides_append_iff hAbsent).mpr trivial
  · rw [hSet.truthful_iff, firstDecides_append_iff hSet.before, FirstDecides,
      if_pos hSet.setting.present]

end Calls

section Runs

/-- A world with a file whose key fills the registers. It may refuse the buffer, and
the GuC is ready at the first look. -/
def readyWorld (obtained : Bool) : Opponent LoadAnswer
  | _, .getFWByName _ => .file ⟨384, keyOnly 64⟩
  | _, .igSharedMappedBuffer _ => obtained
  | _, .igSharedMappedBufferfree => ()
  | _, .fgetVirtualAddress => true
  | _, .fgetGPUVirtualAddress => 0x1000
  | _, .initSchedControl => true
  | _, .safeForceWake _ => ()
  | _, .copy _ => ()
  | _, .prepare _ _ => ()
  | _, .write _ _ => ()
  | _, .read reg => if reg = gucStatus then 0xf000 else 0
  | _, .delay _ => ()

/-- A call against a world, with a result. -/
def callAgainst (world : Opponent LoadAnswer) (result : Nat) : Call :=
  ⟨true, ((loadGuCBinary false false true).against world).2, result⟩

theorem called_callAgainst {world : Opponent LoadAnswer} {result : Nat}
    (h : ((loadGuCBinary false false true).against world).1 = (.returned result, true)) :
    Called false false (callAgainst world result) true :=
  plays_of_against h

/-- The first call in this world. -/
def firstCall (obtained : Bool) (result : Nat) : Call := callAgainst (readyWorld obtained) result

/-- A call that finds the marker. -/
def secondCall : Call := ⟨true, [], 1⟩

theorem firstCall_result :
    ∀ obtained, ((loadGuCBinary false false true).against (readyWorld obtained)).1 =
      (.returned obtained.toNat, true) := by
  decide +kernel

theorem called_firstCall (obtained : Bool) :
    Called false false (firstCall obtained obtained.toNat) true :=
  called_callAgainst (firstCall_result obtained)

theorem runs_secondCall (obtained : Bool) :
    Runs (Called false) false [firstCall obtained obtained.toNat, secondCall] true :=
  .snoc (.single (called_firstCall obtained)) (.done _)

theorem setting_firstCall (obtained : Bool) : Setting (firstCall obtained obtained.toNat) := by
  rcases called_of_unmarked (called_firstCall obtained) with ⟨hMarker, -⟩ | ⟨-, hSetting⟩
  · cases hMarker
  · exact hSetting

theorem ready_load_is_truthful : Truthful [firstCall true 1, secondCall] :=
  (load_status_truthful_iff (runs_secondCall true)).mpr (.inl ((setting_firstCall true).ready rfl))

/-- A first call that gets no buffer returns zero, and the second one returns one
though nothing is loaded. -/
theorem refused_buffer_returns_one :
    Runs (Called false) false [firstCall false 0, secondCall] true ∧
      ¬ Truthful [firstCall false 0, secondCall] := by
  refine ⟨runs_secondCall false, fun hTruthful => ?_⟩
  have hSet : SetBy [] (firstCall false 0) [secondCall] := {
    before := by simp
    setting := setting_firstCall false
    after := by simpa using Marked.mk rfl rfl }
  cases hSet.rest_of_failed ((setting_firstCall false).not_ready rfl) hTruthful

end Runs

end NootedBlue.Guc
