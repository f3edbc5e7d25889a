import NootedBlue.Semantics.Program

/-! Programs that only ask, and loops of them. The world answers by a fixed
function, so a program has one answer and one list of questions; a loop is run
with fuel, and what it does for any amount of fuel is told by the states it
visits. -/
namespace Interaction

variable {Op : Type} {Ans : Op → Type} {α β σ ρ : Type}

namespace Program

/-- The result against a world that answers every operation the same way. -/
def answer (world : (op : Op) → Ans op) : Program Op Ans α → α
  | .done result => result
  | .call op next => (next (world op)).answer world

/-- The operations performed on the way, in order. -/
def asked (world : (op : Op) → Ans op) : Program Op Ans α → List Op
  | .done _ => []
  | .call op next => op :: (next (world op)).asked world

variable (world : (op : Op) → Ans op)

@[simp] theorem answer_done (a : α) : (.done a : Program Op Ans α).answer world = a := rfl

@[simp] theorem asked_done (a : α) : (.done a : Program Op Ans α).asked world = [] := rfl

@[simp] theorem answer_perform (op : Op) :
    (perform op : Program Op Ans (Ans op)).answer world = world op := rfl

@[simp] theorem asked_perform (op : Op) :
    (perform op : Program Op Ans (Ans op)).asked world = [op] := rfl

@[simp] theorem answer_bind (p : Program Op Ans α) (f : α → Program Op Ans β) :
    (p >>= f).answer world = (f (p.answer world)).answer world := by
  induction p with
  | done a => rfl
  | call op next ih => exact ih (world op)

@[simp] theorem asked_bind (p : Program Op Ans α) (f : α → Program Op Ans β) :
    (p >>= f).asked world = p.asked world ++ (f (p.answer world)).asked world := by
  induction p with
  | done a => rfl
  | call op next ih => exact congrArg (op :: ·) (ih (world op))

end Program

/-- What one iteration of a loop decides. -/
inductive Iteration (σ ρ : Type) where
  | stop (result : ρ)
  | next (state : σ)
  deriving DecidableEq

/-- A loop without questions. No result means that the fuel ran out. -/
def iterate (step : σ → Iteration σ ρ) : Nat → σ → Option ρ
  | 0, _ => none
  | fuel + 1, s =>
      match step s with
      | .stop result => some result
      | .next t => iterate step fuel t

/-- A loop whose iterations ask. -/
def loop (body : σ → Program Op Ans (Iteration σ ρ)) : Nat → σ → Program Op Ans (Option ρ)
  | 0, _ => .done none
  | fuel + 1, s => body s >>= fun
      | .stop result => .done (some result)
      | .next t => loop body fuel t

theorem answer_loop (world : (op : Op) → Ans op) (body : σ → Program Op Ans (Iteration σ ρ))
    (fuel : Nat) (s : σ) :
    (loop body fuel s).answer world = iterate (fun s => (body s).answer world) fuel s := by
  induction fuel generalizing s with
  | zero => rfl
  | succ fuel ih =>
      rw [loop, Program.answer_bind, iterate]
      cases (body s).answer world with
      | stop result => rfl
      | next t => exact ih t

/-- A loop against a world, one iteration at a time. -/
theorem eval_loop_succ {State : Type} (world : State → (op : Op) → Ans op × State)
    (body : σ → Program Op Ans (Iteration σ ρ)) (fuel : Nat) (s : σ) (state : State) :
    (loop body (fuel + 1) s).eval world state =
      match (body s).eval world state with
      | (.stop result, after) => (some result, after)
      | (.next t, after) => (loop body fuel t).eval world after := by
  rw [loop, Program.eval_bind]
  rcases (body s).eval world state with ⟨iteration, after⟩
  cases iteration with
  | stop result => rfl
  | next t => rfl

/-- The states at which an iteration of the loop begins. -/
inductive Visits (step : σ → Iteration σ ρ) (s : σ) : σ → Prop where
  | start : Visits step s s
  | next {t u : σ} (before : Visits step s t) (hNext : step t = .next u) : Visits step s u

section Visits

variable {step : σ → Iteration σ ρ}

theorem Visits.head {s t u : σ} (hNext : step s = .next t) (rest : Visits step t u) :
    Visits step s u := by
  induction rest with
  | start => exact .next .start hNext
  | next _ hLast ih => exact .next ih hLast

/-- The result of a loop is the result of the iteration that stops it. -/
theorem iterate_eq_some_iff {s : σ} {result : ρ} :
    (∃ fuel, iterate step fuel s = some result) ↔ ∃ t, Visits step s t ∧ step t = .stop result := by
  constructor
  · intro ⟨fuel, hRun⟩
    induction fuel generalizing s with
    | zero => cases hRun
    | succ fuel ih =>
        rw [iterate] at hRun
        cases hStep : step s with
        | stop other =>
            rw [hStep] at hRun
            cases hRun
            exact ⟨s, .start, hStep⟩
        | next t =>
            rw [hStep] at hRun
            obtain ⟨u, hVisits, hStop⟩ := ih hRun
            exact ⟨u, hVisits.head hStep, hStop⟩
  · intro ⟨t, visits, hStop⟩
    have hEnd : ∃ fuel, iterate step fuel t = some result := ⟨1, by rw [iterate, hStop]⟩
    clear hStop
    induction visits with
    | start => exact hEnd
    | next _ hNext ih =>
        obtain ⟨fuel, hRun⟩ := hEnd
        apply ih
        exact ⟨fuel + 1, by rw [iterate, hNext]; exact hRun⟩

/-- More fuel does not change a result. -/
theorem iterate_mono {fuel more : Nat} {s : σ} {result : ρ} (hLe : fuel ≤ more)
    (hRun : iterate step fuel s = some result) : iterate step more s = some result := by
  induction fuel generalizing s more with
  | zero => cases hRun
  | succ fuel ih =>
      obtain ⟨more, rfl⟩ : ∃ k, more = k + 1 := ⟨more - 1, by omega⟩
      rw [iterate] at hRun ⊢
      cases hStep : step s with
      | stop other =>
          rw [hStep] at hRun
          exact hRun
      | next t =>
          rw [hStep] at hRun
          exact ih (by omega) hRun

/-- A loop that comes back to a state never ends. -/
theorem iterate_of_cycle {s : σ} (hCycle : step s = .next s) (fuel : Nat) :
    iterate step fuel s = none := by
  induction fuel with
  | zero => rfl
  | succ fuel ih => rw [iterate, hCycle]; exact ih

/-- A loop that goes on in every state of a kind, and stays in that kind, never ends. -/
theorem iterate_of_endless {kind : σ → Prop}
    (hStep : ∀ s, kind s → ∃ t, step s = .next t ∧ kind t) {s : σ} (hStart : kind s) (fuel : Nat) :
    iterate step fuel s = none := by
  induction fuel generalizing s with
  | zero => rfl
  | succ fuel ih =>
      obtain ⟨t, hNext, hKind⟩ := hStep s hStart
      rw [iterate, hNext]
      exact ih hKind

/-- Whatever the fuel is, a loop has one result. -/
theorem iterate_unique {fuel other : Nat} {s : σ} {result otherResult : ρ}
    (h : iterate step fuel s = some result) (hOther : iterate step other s = some otherResult) :
    otherResult = result := by
  have hMore := iterate_mono (Nat.le_max_left fuel other) h
  rw [iterate_mono (Nat.le_max_right fuel other) hOther] at hMore
  exact Option.some.inj hMore

/-- A loop whose measure increases up to a bound comes to an end. -/
theorem iterate_of_increasing (measure : σ → Nat) {bound fuel : Nat} {s : σ}
    (hFuel : bound - measure s < fuel)
    (hStep : ∀ t u, Visits step s t → step t = .next u →
      measure t < measure u ∧ measure u ≤ bound) :
    ∃ result, iterate step fuel s = some result := by
  induction fuel generalizing s with
  | zero => exact absurd hFuel (Nat.not_lt_zero _)
  | succ fuel ih =>
      cases hFirst : step s with
      | stop result => exact ⟨result, by rw [iterate, hFirst]⟩
      | next t =>
          have hGrow := hStep s t .start hFirst
          obtain ⟨result, hRun⟩ := ih (s := t) (by omega)
            fun u v hVisits hNext => hStep u v (hVisits.head hFirst) hNext
          exact ⟨result, by rw [iterate, hFirst]; exact hRun⟩

end Visits

/-- With more fuel a loop asks at least as much. -/
theorem mem_asked_loop_mono {world : (op : Op) → Ans op}
    {body : σ → Program Op Ans (Iteration σ ρ)} {fuel more : Nat} {s : σ} {op : Op}
    (hLe : fuel ≤ more) (hMem : op ∈ (loop body fuel s).asked world) :
    op ∈ (loop body more s).asked world := by
  induction fuel generalizing s more with
  | zero => cases hMem
  | succ fuel ih =>
      obtain ⟨more, rfl⟩ : ∃ k, more = k + 1 := ⟨more - 1, by omega⟩
      rw [loop, Program.asked_bind, List.mem_append] at hMem ⊢
      rcases hMem with hHere | hLater
      · exact .inl hHere
      · apply Or.inr
        cases hStep : (body s).answer world with
        | stop result =>
            rw [hStep] at hLater
            cases hLater
        | next t =>
            rw [hStep] at hLater
            exact ih (by omega) hLater

/-- What a loop asks, for any amount of fuel, is what the iterations ask that
it visits. -/
theorem mem_asked_loop_iff {world : (op : Op) → Ans op}
    {body : σ → Program Op Ans (Iteration σ ρ)} {s : σ} {op : Op} :
    (∃ fuel, op ∈ (loop body fuel s).asked world) ↔
      ∃ t, Visits (fun s => (body s).answer world) s t ∧ op ∈ (body t).asked world := by
  constructor
  · intro ⟨fuel, hMem⟩
    induction fuel generalizing s with
    | zero => cases hMem
    | succ fuel ih =>
        rw [loop, Program.asked_bind, List.mem_append] at hMem
        rcases hMem with hHere | hLater
        · exact ⟨s, .start, hHere⟩
        · cases hStep : (body s).answer world with
          | stop result =>
              rw [hStep] at hLater
              cases hLater
          | next t =>
              rw [hStep] at hLater
              obtain ⟨u, hVisits, hHere⟩ := ih hLater
              exact ⟨u, hVisits.head hStep, hHere⟩
  · intro ⟨t, visits, hHere⟩
    have hEnd : ∃ fuel, op ∈ (loop body fuel t).asked world :=
      ⟨1, by rw [loop, Program.asked_bind]; exact List.mem_append_left _ hHere⟩
    clear hHere
    induction visits with
    | start => exact hEnd
    | next _ hNext ih =>
        obtain ⟨fuel, hMem⟩ := hEnd
        apply ih
        refine ⟨fuel + 1, ?_⟩
        rw [loop, Program.asked_bind, hNext]
        exact List.mem_append_right _ hMem

end Interaction
