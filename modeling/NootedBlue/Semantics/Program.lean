import Mathlib.Logic.Relation

/-! Sequential programs that act on the outside world only through named
operations. The world answers each operation, by a fixed function or by a
relation that leaves room for interference, and a program sees nothing else. -/
namespace Interaction

/-- A finite interaction tree: either finished, or waiting for the answer
to one operation. Every path is finite, so a program has no hidden loop. -/
inductive Program (Op : Type) (Ans : Op → Type) (α : Type) where
  | done (result : α)
  | call (op : Op) (next : Ans op → Program Op Ans α)

variable {Op : Type} {Ans : Op → Type} {α β State : Type}

namespace Program

def bind : Program Op Ans α → (α → Program Op Ans β) → Program Op Ans β
  | .done result, f => f result
  | .call op next, f => .call op (fun answer => (next answer).bind f)

instance : Monad (Program Op Ans) where
  pure := .done
  bind := bind

/-- Perform one operation and return its answer. -/
def perform (op : Op) : Program Op Ans (Ans op) := .call op .done

@[simp] theorem pure_eq (a : α) : (pure a : Program Op Ans α) = .done a := rfl

@[simp] theorem done_bind (a : α) (f : α → Program Op Ans β) :
    ((.done a : Program Op Ans α) >>= f) = f a := rfl

@[simp] theorem call_bind (op : Op) (next : Ans op → Program Op Ans α)
    (f : α → Program Op Ans β) :
    ((.call op next : Program Op Ans α) >>= f) = .call op (fun answer => next answer >>= f) := rfl

@[simp] theorem perform_bind (op : Op) (f : Ans op → Program Op Ans β) :
    (perform op >>= f) = .call op f := rfl

/-- Run against a world that is a function of its own state. -/
def eval (world : State → (op : Op) → Ans op × State) : Program Op Ans α → State → α × State
  | .done result, s => (result, s)
  | .call op next, s => (next (world s op).1).eval world (world s op).2

@[simp] theorem eval_done (world : State → (op : Op) → Ans op × State) (a : α) (s : State) :
    (.done a : Program Op Ans α).eval world s = (a, s) := rfl

@[simp] theorem eval_call (world : State → (op : Op) → Ans op × State) (op : Op)
    (next : Ans op → Program Op Ans α) (s : State) :
    (.call op next : Program Op Ans α).eval world s =
      (next (world s op).1).eval world (world s op).2 := rfl

theorem eval_bind (world : State → (op : Op) → Ans op × State) (p : Program Op Ans α)
    (f : α → Program Op Ans β) (s : State) :
    (p >>= f).eval world s = (f (p.eval world s).1).eval world (p.eval world s).2 := by
  induction p generalizing s with
  | done a => rfl
  | call op next ih => exact ih _ _

/-- Whatever the answers are, the program performs only operations of a kind. -/
def Performs (allowed : Op → Prop) : Program Op Ans α → Prop
  | .done _ => True
  | .call op next => allowed op ∧ ∀ answer, (next answer).Performs allowed

section Performs

variable {allowed : Op → Prop}

@[simp] theorem performs_done (a : α) : (.done a : Program Op Ans α).Performs allowed := trivial

@[simp] theorem performs_call (op : Op) (next : Ans op → Program Op Ans α) :
    (.call op next : Program Op Ans α).Performs allowed ↔
      allowed op ∧ ∀ answer, (next answer).Performs allowed := Iff.rfl

@[simp] theorem performs_perform (op : Op) :
    (perform op : Program Op Ans (Ans op)).Performs allowed ↔ allowed op := by
  rw [perform, performs_call]
  exact and_iff_left fun answer => performs_done answer

theorem performs_bind {p : Program Op Ans α} {f : α → Program Op Ans β}
    (hFirst : p.Performs allowed) (hRest : ∀ a, (f a).Performs allowed) :
    (p >>= f).Performs allowed := by
  induction p with
  | done a => exact hRest a
  | call op next ih => exact ⟨hFirst.1, fun answer => ih answer (hFirst.2 answer)⟩

theorem performs_of_forall (p : Program Op Ans α) (h : ∀ op, allowed op) : p.Performs allowed := by
  induction p with
  | done a => trivial
  | call op next ih => exact ⟨h op, ih⟩

/-- What the operations of a kind keep, a program of them keeps. -/
theorem eval_invariant {world : State → (op : Op) → Ans op × State} (property : State → Prop)
    (hWorld : ∀ s op, allowed op → property s → property (world s op).2) {p : Program Op Ans α}
    (hPerforms : p.Performs allowed) {s : State} (hStart : property s) :
    property (p.eval world s).2 := by
  induction p generalizing s with
  | done a => exact hStart
  | call op next ih => exact ih _ (hPerforms.2 _) (hWorld s op hPerforms.1 hStart)

end Performs

/-- Every operation of a run against a world is performed in a state that allows it. -/
def Meets (allowed : State → Op → Prop) (world : State → (op : Op) → Ans op × State) :
    Program Op Ans α → State → Prop
  | .done _, _ => True
  | .call op next, s => allowed s op ∧ (next (world s op).1).Meets allowed world (world s op).2

instance decidableMeets {allowed : State → Op → Prop} [∀ s op, Decidable (allowed s op)]
    {world : State → (op : Op) → Ans op × State} :
    (p : Program Op Ans α) → (s : State) → Decidable (p.Meets allowed world s)
  | .done _, _ => isTrue trivial
  | .call op next, s =>
      @instDecidableAnd _ _ (inferInstanceAs (Decidable (allowed s op)))
        (decidableMeets (next (world s op).1) (world s op).2)

end Program

/-- One complete execution against a world given by a relation. The relation
may let the world move on its own around the operation, so this is also the
semantics of a program that runs under interference. -/
inductive Exec (step : State → (op : Op) → Ans op → State → Prop) :
    Program Op Ans α → State → α → State → Prop where
  | done (a : α) (s : State) : Exec step (.done a) s a s
  | call {op : Op} {next : Ans op → Program Op Ans α} {s t u : State} {answer : Ans op} {a : α}
      (first : step s op answer t) (rest : Exec step (next answer) t a u) :
      Exec step (.call op next) s a u

variable {step : State → (op : Op) → Ans op → State → Prop}

@[simp] theorem exec_done_iff {a b : α} {s t : State} :
    Exec step (.done a : Program Op Ans α) s b t ↔ b = a ∧ t = s := by
  constructor
  · intro run
    cases run with
    | done => exact ⟨rfl, rfl⟩
  · rintro ⟨rfl, rfl⟩
    exact Exec.done _ _

theorem exec_call_iff {op : Op} {next : Ans op → Program Op Ans α} {s u : State} {a : α} :
    Exec step (.call op next) s a u ↔
      ∃ answer t, step s op answer t ∧ Exec step (next answer) t a u := by
  constructor
  · intro run
    cases run with
    | call first rest => exact ⟨_, _, first, rest⟩
  · rintro ⟨answer, t, first, rest⟩
    exact Exec.call first rest

/-- Executions of a sequence are executions of its two parts, joined at the
state where the first part stops. -/
theorem exec_bind_iff {p : Program Op Ans α} {f : α → Program Op Ans β} {s u : State} {b : β} :
    Exec step (p >>= f) s b u ↔ ∃ a t, Exec step p s a t ∧ Exec step (f a) t b u := by
  induction p generalizing s with
  | done a =>
      constructor
      · intro run
        exact ⟨a, s, Exec.done a s, run⟩
      · rintro ⟨a', t, first, rest⟩
        obtain ⟨rfl, rfl⟩ := exec_done_iff.mp first
        exact rest
  | call op next ih =>
      rw [Program.call_bind, exec_call_iff]
      constructor
      · rintro ⟨answer, t, first, rest⟩
        obtain ⟨a, m, inner, after⟩ := (ih answer).mp rest
        exact ⟨a, m, Exec.call first inner, after⟩
      · rintro ⟨a, m, first, rest⟩
        obtain ⟨answer, t, head, inner⟩ := exec_call_iff.mp first
        exact ⟨answer, t, head, (ih answer).mpr ⟨a, m, inner, rest⟩⟩

/-- A world given by a function is one of the worlds a relation allows, as long as each
operation meets it where the relation allows the answer. -/
theorem exec_eval {world : State → (op : Op) → Ans op × State} {allowed : State → Op → Prop}
    (hWorld : ∀ s op, allowed s op → step s op (world s op).1 (world s op).2)
    (p : Program Op Ans α) (s : State) (hMeets : p.Meets allowed world s) :
    Exec step p s (p.eval world s).1 (p.eval world s).2 := by
  induction p generalizing s with
  | done a => exact Exec.done a s
  | call op next ih => exact Exec.call (hWorld s op hMeets.1) (ih _ _ hMeets.2)

end Interaction
