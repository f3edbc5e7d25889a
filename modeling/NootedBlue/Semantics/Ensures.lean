import NootedBlue.Semantics.Run
import NootedBlue.Semantics.Transcript

/-! What a program ensures against an opponent that keeps to rules. The exchanges change
a state, which decides the answers that are allowed; as long as all are, every exchange
is as promised, and so is the result. -/
namespace Interaction

open Transition

variable {Op : Type} {Ans : Op → Type} {State α β σ ρ : Type}

/-- How exchanges change the state, which of them are allowed, and which are promised. -/
structure Rules (Ans : Op → Type) (State : Type) where
  next : State → Exchange Ans → State
  allows : State → Exchange Ans → Prop
  promises : State → Exchange Ans → Prop

/-- The weakest condition on the state from which the program keeps its promises and comes
to a result as demanded. -/
def Program.Ensures (rules : Rules Ans State) :
    Program Op Ans α → (α → State → Prop) → State → Prop
  | .done a, post, s => post a s
  | .call op later, post, s => ∀ answer, rules.allows s ⟨op, answer⟩ →
      rules.promises s ⟨op, answer⟩ ∧
        (later answer).Ensures rules post (rules.next s ⟨op, answer⟩)

section Ensures

variable {rules : Rules Ans State} {p : Program Op Ans α} {f : α → Program Op Ans β} {s : State}

theorem ensures_call {op : Op} {later : Ans op → Program Op Ans α} {post : α → State → Prop} :
    (Program.call op later).Ensures rules post s ↔ ∀ answer, rules.allows s ⟨op, answer⟩ →
      rules.promises s ⟨op, answer⟩ ∧
        (later answer).Ensures rules post (rules.next s ⟨op, answer⟩) := Iff.rfl

/-- A sequence ensures what its first part does before a state from which its second
does. -/
theorem ensures_bind {post : β → State → Prop} : (p >>= f).Ensures rules post s ↔
    p.Ensures rules (fun a t => (f a).Ensures rules post t) s := by
  induction p generalizing s with
  | done a => exact Iff.rfl
  | call op later ih =>
      rw [Program.call_bind, ensures_call, ensures_call]
      exact forall_congr' fun answer => imp_congr Iff.rfl (and_congr Iff.rfl (ih answer))

theorem Program.Ensures.mono {post weaker : α → State → Prop} (h : p.Ensures rules post s)
    (hWeaker : ∀ a t, post a t → weaker a t) : p.Ensures rules weaker s := by
  induction p generalizing s with
  | done a => exact hWeaker a s h
  | call op later ih => exact fun answer hAllowed =>
      ⟨(h answer hAllowed).1, ih answer (h answer hAllowed).2⟩

/-- A loop performs what its rounds do. -/
theorem performs_loop {performed : Op → Prop} {body : σ → Program Op Ans (Iteration σ ρ)}
    (hBody : ∀ t, (body t).Performs performed) (fuel : Nat) (t : σ) :
    (loop body fuel t).Performs performed := by
  induction fuel generalizing t with
  | zero => exact Program.performs_done none
  | succ fuel ih =>
      apply Program.performs_bind (hBody t)
      intro iteration
      cases iteration with
      | next t' => exact ih t'
      | stop result => exact Program.performs_done (some result)

/-- An invariant of all that a program performs is ensured by the program. -/
theorem ensures_of_performs {performed : Op → Prop} (invariant : State → Prop)
    (hPerforms : p.Performs performed)
    (hKeep : ∀ t op answer, invariant t → performed op → rules.allows t ⟨op, answer⟩ →
      rules.promises t ⟨op, answer⟩ ∧ invariant (rules.next t ⟨op, answer⟩))
    (hStart : invariant s) : p.Ensures rules (fun _ t => invariant t) s := by
  induction p generalizing s with
  | done a => exact hStart
  | call op later ih =>
      intro answer hAllowed
      obtain ⟨hPromise, hNext⟩ := hKeep s op answer hStart hPerforms.1 hAllowed
      exact ⟨hPromise, ih answer (hPerforms.2 answer) hNext⟩

/-- The rule for a loop, by an invariant of its rounds. -/
theorem ensures_loop {body : σ → Program Op Ans (Iteration σ ρ)} {post : Option ρ → State → Prop}
    (invariant : σ → State → Prop)
    (hRound : ∀ t u, invariant t u → (body t).Ensures rules (fun iteration v =>
      match iteration with
      | .next t' => invariant t' v
      | .stop result => post (some result) v) u)
    (hEnd : ∀ t u, invariant t u → post none u) (fuel : Nat) {t : σ} (hStart : invariant t s) :
    (loop body fuel t).Ensures rules post s := by
  induction fuel generalizing t s with
  | zero => exact hEnd t s hStart
  | succ fuel ih =>
      rw [loop, ensures_bind]
      refine (hRound t s hStart).mono ?_
      intro iteration v hIteration
      cases iteration with
      | next t' => exact ih hIteration
      | stop result => exact hIteration

/-- Every run with an opponent that keeps to the rules is as promised, and so is its
result. -/
theorem Program.Ensures.plays {post : α → State → Prop} {transcript : Transcript Ans} {a : α}
    (h : p.Ensures rules post s) (plays : Plays p transcript a)
    (hAllowed : Along rules.next rules.allows s transcript) :
    Along rules.next rules.promises s transcript ∧ post a (transcript.foldl rules.next s) := by
  induction plays generalizing s with
  | done a => exact ⟨trivial, h⟩
  | call later ih =>
      obtain ⟨hPromise, hLater⟩ := h _ hAllowed.1
      obtain ⟨hRest, hPost⟩ := ih hLater hAllowed.2
      exact ⟨⟨hPromise, hRest⟩, hPost⟩

end Ensures

section Honest

variable {next : State → Exchange Ans → State} {allows : State → Exchange Ans → Prop}

/-- The opponent answers as it is allowed to, whatever went before. -/
def Honest (next : State → Exchange Ans → State) (allows : State → Exchange Ans → Prop)
    (start : State) (opponent : Opponent Ans) : Prop :=
  ∀ past op, allows (past.foldl next start) ⟨op, opponent past op⟩

theorem Honest.eval {start : State} {opponent : Opponent Ans} (h : Honest next allows start opponent)
    (p : Program Op Ans α) {past : Transcript Ans} (hPast : Along next allows start past) :
    Along next allows start (p.eval opponent.world past).2 := by
  induction p generalizing past with
  | done a => exact hPast
  | call op later ih =>
      apply ih
      exact (along_append start past _).mpr ⟨hPast, h past op, trivial⟩

/-- Against an honest opponent there is a run that keeps to the rules. -/
theorem Honest.exists_run {start : State} {opponent : Opponent Ans}
    (h : Honest next allows start opponent) (p : Program Op Ans α) :
    ∃ transcript a, Plays p transcript a ∧ Along next allows start transcript :=
  ⟨(p.against opponent).2, (p.against opponent).1, plays_against p opponent, h.eval p trivial⟩

end Honest

end Interaction
