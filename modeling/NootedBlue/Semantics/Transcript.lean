import NootedBlue.Semantics.Loop

/-! Programs against an opponent that answers every operation as it likes and
remembers everything. The transcript of a run is the list of operations with
their answers; what holds of every transcript that a program can play holds
against every opponent. -/
namespace Interaction

variable {Op : Type} {Ans : Op → Type} {α β σ ρ : Type}

/-- One operation and its answer. -/
abbrev Exchange (Ans : Op → Type) := (op : Op) × Ans op

abbrev Transcript (Ans : Op → Type) := List (Exchange Ans)

/-- What lies in two lists in a row lies in the first or in the second. -/
theorem split_append_cons {A : Type} {first rest before after : List A} {x : A}
    (h : first ++ rest = before ++ x :: after) :
    (∃ gap, before = first ++ gap ∧ rest = gap ++ x :: after) ∨
      ∃ gap, first = before ++ x :: gap ∧ after = gap ++ rest := by
  rcases List.append_eq_append_iff.mp h with ⟨gap, hBefore, hRest⟩ | ⟨gap, hFirst, hAfter⟩
  · exact Or.inl ⟨gap, hBefore, hRest⟩
  · cases gap with
    | nil =>
        rw [List.append_nil] at hFirst
        exact Or.inl ⟨[], by rw [List.append_nil, hFirst], hAfter.symm⟩
    | cons y gap =>
        cases hAfter
        exact Or.inr ⟨gap, hFirst, rfl⟩

/-- The answer to the next operation, given everything that went before. -/
abbrev Opponent (Ans : Op → Type) := Transcript Ans → (op : Op) → Ans op

namespace Opponent

/-- The opponent as a world whose state is the transcript. -/
def world (opponent : Opponent Ans) (past : Transcript Ans) (op : Op) : Ans op × Transcript Ans :=
  (opponent past op, past ++ [⟨op, opponent past op⟩])

end Opponent

/-- The result and the transcript of a run. A run is always finite. -/
def Program.against (p : Program Op Ans α) (opponent : Opponent Ans) : α × Transcript Ans :=
  p.eval opponent.world []

/-- The program can play this transcript and come to this result. -/
inductive Plays : Program Op Ans α → Transcript Ans → α → Prop where
  | done (a : α) : Plays (.done a) [] a
  | call {op : Op} {next : Ans op → Program Op Ans α} {answer : Ans op} {rest : Transcript Ans}
      {a : α} (later : Plays (next answer) rest a) :
      Plays (.call op next) (⟨op, answer⟩ :: rest) a

section Plays

variable {p : Program Op Ans α} {f : α → Program Op Ans β}

theorem plays_done_iff {a b : α} {transcript : Transcript Ans} :
    Plays (.done a : Program Op Ans α) transcript b ↔ transcript = [] ∧ b = a := by
  constructor
  · intro plays
    cases plays
    exact ⟨rfl, rfl⟩
  · intro ⟨hEmpty, hSame⟩
    rw [hEmpty, hSame]
    exact .done a

theorem plays_call_iff {op : Op} {next : Ans op → Program Op Ans α} {transcript : Transcript Ans}
    {a : α} :
    Plays (.call op next) transcript a ↔
      ∃ answer rest, transcript = ⟨op, answer⟩ :: rest ∧ Plays (next answer) rest a := by
  constructor
  · intro plays
    cases plays with
    | call later => exact ⟨_, _, rfl, later⟩
  · intro ⟨answer, rest, hSplit, later⟩
    rw [hSplit]
    exact .call later

/-- A program that begins with an operation. -/
theorem plays_perform_iff {op : Op} {next : Ans op → Program Op Ans α} {transcript : Transcript Ans}
    {a : α} :
    Plays (Program.perform op >>= next) transcript a ↔
      ∃ answer rest, transcript = ⟨op, answer⟩ :: rest ∧ Plays (next answer) rest a :=
  plays_call_iff

/-- A sequence plays the transcripts of its parts, one after the other. -/
theorem plays_bind_iff {transcript : Transcript Ans} {b : β} :
    Plays (p >>= f) transcript b ↔
      ∃ first rest a, transcript = first ++ rest ∧ Plays p first a ∧ Plays (f a) rest b := by
  induction p generalizing transcript with
  | done a =>
      constructor
      · intro plays
        exact ⟨[], transcript, a, rfl, .done a, plays⟩
      · intro ⟨first, rest, a', hSplit, hFirst, hRest⟩
        obtain ⟨rfl, rfl⟩ := plays_done_iff.mp hFirst
        rw [hSplit]
        exact hRest
  | call op next ih =>
      rw [Program.call_bind, plays_call_iff]
      constructor
      · intro ⟨answer, tail, hSplit, later⟩
        obtain ⟨first, rest, a, hTail, hFirst, hRest⟩ := (ih answer).mp later
        refine ⟨⟨op, answer⟩ :: first, rest, a, ?_, .call hFirst, hRest⟩
        rw [hSplit, hTail, List.cons_append]
      · intro ⟨first, rest, a, hSplit, hFirst, hRest⟩
        obtain ⟨answer, tail, rfl, later⟩ := plays_call_iff.mp hFirst
        exact ⟨answer, tail ++ rest, hSplit, (ih answer).mpr ⟨tail, rest, a, rfl, later, hRest⟩⟩

theorem plays_eval (p : Program Op Ans α) (opponent : Opponent Ans) (past : Transcript Ans) :
    ∃ transcript, (p.eval opponent.world past).2 = past ++ transcript ∧
      Plays p transcript (p.eval opponent.world past).1 := by
  induction p generalizing past with
  | done a => exact ⟨[], (List.append_nil past).symm, .done a⟩
  | call op next ih =>
      obtain ⟨transcript, hState, plays⟩ :=
        ih (opponent past op) (past ++ [⟨op, opponent past op⟩])
      refine ⟨⟨op, opponent past op⟩ :: transcript, ?_, .call plays⟩
      show ((next (opponent past op)).eval opponent.world _).2 = _
      rw [Opponent.world, hState, List.append_assoc, List.singleton_append]

/-- A run against an opponent plays its own transcript. -/
theorem plays_against (p : Program Op Ans α) (opponent : Opponent Ans) :
    Plays p (p.against opponent).2 (p.against opponent).1 := by
  obtain ⟨transcript, hState, plays⟩ := plays_eval p opponent []
  rw [Program.against, hState]
  exact plays

theorem plays_of_against {opponent : Opponent Ans} {a : α} (h : (p.against opponent).1 = a) :
    Plays p (p.against opponent).2 a := by
  rw [← h]
  exact plays_against p opponent

/-- The run of a sequence goes on where the run of its first part stops. -/
theorem against_bind (p : Program Op Ans α) (f : α → Program Op Ans β) (opponent : Opponent Ans) :
    ∃ rest, ((p >>= f).against opponent).2 = (p.against opponent).2 ++ rest ∧
      Plays (f (p.against opponent).1) rest ((p >>= f).against opponent).1 := by
  obtain ⟨rest, hState, plays⟩ :=
    plays_eval (f (p.against opponent).1) opponent (p.against opponent).2
  have hRun : (p >>= f).against opponent =
      (f (p.against opponent).1).eval opponent.world (p.against opponent).2 :=
    Program.eval_bind opponent.world p f []
  rw [hRun]
  exact ⟨rest, hState, plays⟩

/-- What a sequence performs, whatever the answers are, its first part performs,
and its second part after every result that the first one can come to. -/
theorem performs_bind_iff {allowed : Op → Prop} :
    (p >>= f).Performs allowed ↔
      p.Performs allowed ∧ ∀ a transcript, Plays p transcript a → (f a).Performs allowed := by
  induction p with
  | done a =>
      constructor
      · intro h
        refine ⟨trivial, fun b transcript plays => ?_⟩
        obtain ⟨-, rfl⟩ := plays_done_iff.mp plays
        exact h
      · exact fun h => h.2 a [] (.done a)
  | call op next ih =>
      rw [Program.call_bind, Program.performs_call, Program.performs_call]
      constructor
      · intro ⟨hOp, hNext⟩
        refine ⟨⟨hOp, fun answer => ((ih answer).mp (hNext answer)).1⟩, ?_⟩
        intro a transcript plays
        obtain ⟨answer, rest, -, later⟩ := plays_call_iff.mp plays
        exact ((ih answer).mp (hNext answer)).2 a rest later
      · intro ⟨hFirst, hRest⟩
        refine ⟨hFirst.1, fun answer => (ih answer).mpr ⟨hFirst.2 answer, ?_⟩⟩
        intro a transcript plays
        exact hRest a (⟨op, answer⟩ :: transcript) (.call plays)

/-- What a program performs is all that its transcripts hold. -/
theorem plays_performs {allowed : Op → Prop} {transcript : Transcript Ans} {a : α}
    (hPerforms : p.Performs allowed) (plays : Plays p transcript a) :
    ∀ exchange ∈ transcript, allowed exchange.1 := by
  induction plays with
  | done a => simp
  | call later ih =>
      intro exchange hMem
      rcases List.mem_cons.mp hMem with rfl | hMem
      · exact hPerforms.1
      · exact ih (hPerforms.2 _) exchange hMem

end Plays

section Stopping

/-! A program may stop on the way; what comes after it is performed only if it
has gone through. -/

variable {allowed : Op → Prop}

/-- There are answers with which a program goes through. -/
def Passes (x : OptionT (Program Op Ans) Unit) : Prop := ∃ transcript, Plays x.run transcript (some ())

theorem passes_pure : Passes (pure () : OptionT (Program Op Ans) Unit) := ⟨[], .done _⟩

theorem not_passes_failure : ¬ Passes (failure : OptionT (Program Op Ans) Unit) := by
  intro ⟨transcript, plays⟩
  cases (plays_done_iff.mp plays).2

theorem passes_lift_bind_iff {op : Op} {f : Ans op → OptionT (Program Op Ans) Unit} :
    Passes ((liftM (Program.perform op) : OptionT (Program Op Ans) (Ans op)) >>= f) ↔
      ∃ answer, Passes (f answer) := by
  constructor
  · intro ⟨transcript, plays⟩
    obtain ⟨answer, rest, -, later⟩ := plays_call_iff.mp plays
    exact ⟨answer, rest, later⟩
  · intro ⟨answer, rest, later⟩
    exact ⟨⟨op, answer⟩ :: rest, .call later⟩

theorem performs_lift_bind_iff {op : Op} {f : Ans op → OptionT (Program Op Ans) Unit} :
    ((liftM (Program.perform op) : OptionT (Program Op Ans) (Ans op)) >>= f).run.Performs allowed ↔
      allowed op ∧ ∀ answer, (f answer).run.Performs allowed := Iff.rfl

theorem passes_seq_iff {x y : OptionT (Program Op Ans) Unit} :
    Passes (x >>= fun _ => y) ↔ Passes x ∧ Passes y := by
  constructor
  · intro ⟨transcript, plays⟩
    obtain ⟨first, rest, result, -, hFirst, hRest⟩ := plays_bind_iff.mp plays
    cases result with
    | none => cases (plays_done_iff.mp hRest).2
    | some _ => exact ⟨⟨first, hFirst⟩, rest, hRest⟩
  · intro ⟨⟨first, hFirst⟩, rest, hRest⟩
    exact ⟨first ++ rest, plays_bind_iff.mpr ⟨first, rest, some (), rfl, hFirst, hRest⟩⟩

theorem performs_seq_iff {x y : OptionT (Program Op Ans) Unit} :
    (x >>= fun _ => y).run.Performs allowed ↔
      x.run.Performs allowed ∧ (Passes x → y.run.Performs allowed) := by
  refine (performs_bind_iff (p := x.run)).trans (and_congr_right fun _ => ?_)
  constructor
  · intro h ⟨transcript, plays⟩
    exact h (some ()) transcript plays
  · intro h result transcript plays
    cases result with
    | none => trivial
    | some _ => exact h ⟨transcript, plays⟩

/-- Do something for every element of a list. -/
def forEach {A : Type} (act : A → OptionT (Program Op Ans) Unit) :
    List A → OptionT (Program Op Ans) Unit
  | [] => pure ()
  | a :: rest => act a >>= fun _ => forEach act rest

variable {A : Type} {act : A → OptionT (Program Op Ans) Unit}

theorem passes_forEach_iff {list : List A} :
    Passes (forEach act list) ↔ ∀ a ∈ list, Passes (act a) := by
  induction list with
  | nil => exact iff_of_true passes_pure fun a ha => absurd ha List.not_mem_nil
  | cons a rest ih => rw [forEach, passes_seq_iff, ih, List.forall_mem_cons]

/-- An element is come to after all before it have gone through. -/
theorem performs_forEach_iff {list : List A} :
    (forEach act list).run.Performs allowed ↔
      ∀ before a after, list = before ++ a :: after → (∀ b ∈ before, Passes (act b)) →
        (act a).run.Performs allowed := by
  induction list with
  | nil =>
      refine iff_of_true trivial ?_
      intro before a after hSplit
      exact absurd hSplit.symm (by simp)
  | cons first rest ih =>
      rw [forEach, performs_seq_iff, ih]
      constructor
      · intro ⟨hFirst, hRest⟩ before a after hSplit hBefore
        cases before with
        | nil =>
            cases hSplit
            exact hFirst
        | cons b before =>
            cases hSplit
            obtain ⟨hPass, hBefore⟩ := List.forall_mem_cons.mp hBefore
            exact hRest hPass before a after rfl hBefore
      · intro h
        refine ⟨h [] first rest rfl (by simp), fun hPass before a after hSplit hBefore => ?_⟩
        exact h (first :: before) a after (by rw [hSplit, List.cons_append])
          (List.forall_mem_cons.mpr ⟨hPass, hBefore⟩)

end Stopping

section Loop

variable {body : σ → Program Op Ans (Iteration σ ρ)}

/-- What holds of a loop without tries, of an iteration that stops and, given
the rest of the loop, of one that goes on, holds of every loop. -/
theorem plays_loop_rule {property : Nat → σ → Transcript Ans → Option ρ → Prop}
    (hZero : ∀ s, property 0 s [] none)
    (hStop : ∀ fuel s transcript value,
      Plays (body s) transcript (.stop value) → property (fuel + 1) s transcript (some value))
    (hNext : ∀ fuel s first t rest result, Plays (body s) first (.next t) →
      property fuel t rest result → property (fuel + 1) s (first ++ rest) result)
    {fuel : Nat} {s : σ} {transcript : Transcript Ans} {result : Option ρ}
    (plays : Plays (loop body fuel s) transcript result) :
    property fuel s transcript result := by
  induction fuel generalizing s transcript with
  | zero =>
      obtain ⟨rfl, rfl⟩ := plays_done_iff.mp plays
      exact hZero s
  | succ fuel ih =>
      obtain ⟨first, rest, iteration, rfl, hFirst, hRest⟩ := plays_bind_iff.mp plays
      cases iteration with
      | stop value =>
          obtain ⟨rfl, rfl⟩ := plays_done_iff.mp hRest
          rw [List.append_nil]
          exact hStop fuel s first value hFirst
      | next t => exact hNext fuel s first t rest result hFirst (ih hRest)

end Loop

end Interaction
