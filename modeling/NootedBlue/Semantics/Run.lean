import Mathlib.Logic.Relation

/-! Runs of a labelled transition system. The label of a step is an event
chosen by the environment, so a theorem about all runs is a theorem about all
orders in which the events can happen. -/
namespace Transition

variable {State Event : Type}

/-- A finite run, with its events in the order in which they happened. -/
inductive Runs (step : State → Event → State → Prop) : State → List Event → State → Prop where
  | nil (s : State) : Runs step s [] s
  | snoc {s t u : State} {events : List Event} {event : Event}
      (prior : Runs step s events t) (last : step t event u) :
      Runs step s (events ++ [event]) u

variable {step : State → Event → State → Prop}

/-- A property of the first state that every step keeps holds in every state
a run reaches. -/
theorem Runs.invariant (property : State → Prop)
    (hStep : ∀ s event t, property s → step s event t → property t)
    {s t : State} {events : List Event} (run : Runs step s events t)
    (hStart : property s) : property t := by
  induction run with
  | nil => exact hStart
  | snoc prior last ih => exact hStep _ _ _ ih last

theorem Runs.single {s t : State} {event : Event} (only : step s event t) :
    Runs step s [event] t :=
  Runs.snoc (Runs.nil s) only

/-- A property kept by every unlabelled move is kept by any number of them. -/
theorem invariant_of_moves {move : State → State → Prop} (property : State → Prop)
    (hMove : ∀ s t, property s → move s t → property t) {s t : State}
    (moves : Relation.ReflTransGen move s t) (hStart : property s) : property t := by
  induction moves with
  | refl => exact hStart
  | tail _ last ih => exact hMove _ _ ih last

section Along

variable {next : State → Event → State} {p q : State → Event → Prop}

/-- Something holds of every step of a run of a function. -/
def Along (next : State → Event → State) (p : State → Event → Prop) : State → List Event → Prop
  | _, [] => True
  | s, event :: rest => p s event ∧ Along next p (next s event) rest

instance decidableAlong {next : State → Event → State} {p : State → Event → Prop}
    [∀ s event, Decidable (p s event)] :
    (s : State) → (events : List Event) → Decidable (Along next p s events)
  | _, [] => isTrue trivial
  | s, event :: rest =>
      @instDecidableAnd _ _ (inferInstanceAs (Decidable (p s event)))
        (decidableAlong (next s event) rest)

/-- What every step promises from a state with an invariant, and keeps, holds all
along a run from such a state. -/
theorem along_of_invariant (invariant : State → Prop)
    (hStep : ∀ s event, invariant s → p s event ∧ invariant (next s event)) {s : State}
    (hStart : invariant s) (events : List Event) : Along next p s events := by
  induction events generalizing s with
  | nil => exact trivial
  | cons event rest ih => exact ⟨(hStep s event hStart).1, ih (hStep s event hStart).2⟩

/-- Something holds along a run when it does along its first part and along its second. -/
theorem along_append (s : State) (first second : List Event) :
    Along next p s (first ++ second) ↔
      Along next p s first ∧ Along next p (first.foldl next s) second := by
  induction first generalizing s with
  | nil => simp [Along]
  | cons event rest ih => simp only [List.cons_append, Along, ih, List.foldl_cons, and_assoc]

/-- What a step promises under a condition, every run promises whose steps all
meet the condition. -/
theorem along_iff (h : ∀ s event, p s event ↔ q s event) (s : State) (events : List Event) :
    Along next p s events ↔ Along next q s events := by
  induction events generalizing s with
  | nil => exact Iff.rfl
  | cons event rest ih =>
      simp only [Along]
      rw [h, ih]

/-- The same for runs from a state with an invariant, when the steps that meet the
condition keep the invariant. -/
theorem along_iff_of_invariant (invariant : State → Prop)
    (hIff : ∀ s event, invariant s → (p s event ↔ q s event))
    (hKeep : ∀ s event, invariant s → q s event → invariant (next s event)) {s : State}
    (hStart : invariant s) (events : List Event) : Along next p s events ↔ Along next q s events := by
  induction events generalizing s with
  | nil => exact Iff.rfl
  | cons event rest ih =>
      simp only [Along]
      constructor
      · intro ⟨hNow, hRest⟩
        have hCond := (hIff s event hStart).mp hNow
        exact ⟨hCond, (ih (hKeep s event hStart hCond)).mp hRest⟩
      · intro ⟨hCond, hRest⟩
        exact ⟨(hIff s event hStart).mpr hCond, (ih (hKeep s event hStart hCond)).mpr hRest⟩

end Along

section Partial

variable {step : State → Event → Option State} {probe : Event → Prop} {good : State → Prop}
  {q : State → Event → Prop}

/-- The state after a step, or the one before it where the step has no result. -/
def nextOf (step : State → Event → Option State) (s : State) (event : Event) : State :=
  (step s event).getD s

/-- Whatever events of a kind follow, the run has a result and it is good. -/
def Withstands (step : State → Event → Option State) (probe : Event → Prop) (good : State → Prop)
    (s : State) (events : List Event) : Prop :=
  ∀ probes, (∀ event ∈ probes, probe event) →
    ∃ t, (events ++ probes).foldlM step s = some t ∧ good t

theorem withstands_cons {s : State} {event : Event} {rest : List Event}
    (h : Withstands step probe good s (event :: rest)) :
    ∃ t, step s event = some t ∧ Withstands step probe good t rest := by
  have hNow (probes : List Event) (hProbes : ∀ event ∈ probes, probe event) :
      ∃ t, step s event = some t ∧ ∃ u, (rest ++ probes).foldlM step t = some u ∧ good u := by
    obtain ⟨u, hRun, hGood⟩ := h probes hProbes
    rw [List.cons_append, List.foldlM_cons] at hRun
    obtain ⟨t, hStep, hRest⟩ := Option.bind_eq_some_iff.mp hRun
    exact ⟨t, hStep, u, hRest, hGood⟩
  obtain ⟨t, hStep, -⟩ := hNow [] fun _ hMem => absurd hMem List.not_mem_nil
  refine ⟨t, hStep, ?_⟩
  intro probes hProbes
  obtain ⟨t', hSame, hRest⟩ := hNow probes hProbes
  cases hStep.symm.trans hSame
  exact hRest

/-- A run that withstands all that can follow has met every condition that a step has to
meet for it. -/
theorem along_of_withstands
    (hNow : ∀ s event t rest, step s event = some t → Withstands step probe good t rest → q s event)
    {s : State} {events : List Event} (h : Withstands step probe good s events) :
    Along (nextOf step) q s events := by
  induction events generalizing s with
  | nil => exact trivial
  | cons event rest ih =>
      obtain ⟨t, hStep, hRest⟩ := withstands_cons h
      have hNext : nextOf step s event = t := by rw [nextOf, hStep, Option.getD_some]
      rw [← hNext] at hRest
      exact ⟨hNow s event _ rest (hStep.trans (by rw [hNext])) hRest, ih hRest⟩

/-- A run whose steps all meet a condition has a result, with the invariant that such
steps keep. -/
theorem completes_of_along (invariant : State → Prop)
    (hStep : ∀ s event, invariant s → q s event → ∃ t, step s event = some t ∧ invariant t)
    {s : State} (hStart : invariant s) {events : List Event}
    (h : Along (nextOf step) q s events) : ∃ t, events.foldlM step s = some t ∧ invariant t := by
  induction events generalizing s with
  | nil => exact ⟨s, rfl, hStart⟩
  | cons event rest ih =>
      obtain ⟨t, hNow, hInvariant⟩ := hStep s event hStart h.1
      have hNext : nextOf step s event = t := by rw [nextOf, hNow, Option.getD_some]
      have hRest := h.2
      rw [hNext] at hRest
      rw [List.foldlM_cons, hNow]
      exact ih hInvariant hRest

/-- Where the events that follow always meet the condition, such a run withstands them. -/
theorem withstands_of_along (invariant : State → Prop)
    (hStep : ∀ s event, invariant s → q s event → ∃ t, step s event = some t ∧ invariant t)
    (hProbe : ∀ s event, probe event → q s event) (hGood : ∀ s, invariant s → good s)
    {s : State} (hStart : invariant s) {events : List Event}
    (h : Along (nextOf step) q s events) : Withstands step probe good s events := by
  intro probes hProbes
  obtain ⟨t, hRun, hInvariant⟩ := completes_of_along invariant hStep hStart h
  have hMet (u : State) : Along (nextOf step) q u probes := by
    induction probes generalizing u with
    | nil => exact trivial
    | cons event rest ih =>
        exact ⟨hProbe u event (hProbes event List.mem_cons_self),
          ih (fun other hOther => hProbes other (List.mem_cons_of_mem _ hOther)) _⟩
  obtain ⟨u, hMore, hLast⟩ := completes_of_along invariant hStep hInvariant (hMet t)
  rw [List.foldlM_append, hRun]
  exact ⟨u, hMore, hGood u hLast⟩

end Partial

end Transition
