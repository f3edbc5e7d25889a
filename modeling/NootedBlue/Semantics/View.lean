import NootedBlue.Semantics.Transcript

/-! What is seen of a program on another level. Some of its exchanges are exchanges of
that level, too, and the others are hidden; a program shows another one when all that is
seen of its runs are runs of the other, with the same results. -/
namespace Interaction

variable {Op Op' : Type} {Ans : Op → Type} {Ans' : Op' → Type} {α β σ ρ : Type}

/-- How an exchange is seen. -/
abbrev View (Ans : Op → Type) (Ans' : Op' → Type) := Exchange Ans → Option (Exchange Ans')

/-- What is seen of a transcript. -/
abbrev View.seen (view : View Ans Ans') (transcript : Transcript Ans) : Transcript Ans' :=
  transcript.filterMap view

/-- All that is seen of a run of the one program is a run of the other. -/
def Shows (view : View Ans Ans') (p : Program Op Ans α) (q : Program Op' Ans' α) : Prop :=
  ∀ transcript a, Plays p transcript a → Plays q (view.seen transcript) a

variable {view : View Ans Ans'}

theorem shows_done (a : α) : Shows view (.done a) (.done a) := by
  intro transcript b plays
  obtain ⟨rfl, rfl⟩ := plays_done_iff.mp plays
  exact .done _

/-- An exchange that is seen. -/
theorem Shows.seen {op : Op} {op' : Op'} {next : Ans op → Program Op Ans α}
    {next' : Ans' op' → Program Op' Ans' α} (see : Ans op → Ans' op')
    (hSeen : ∀ answer, view ⟨op, answer⟩ = some ⟨op', see answer⟩)
    (later : ∀ answer, Shows view (next answer) (next' (see answer))) :
    Shows view (Program.perform op >>= next) (Program.perform op' >>= next') := by
  intro transcript a plays
  obtain ⟨answer, rest, rfl, hRest⟩ := plays_perform_iff.mp plays
  rw [View.seen, List.filterMap_cons, hSeen answer]
  exact .call (later answer rest a hRest)

/-- An exchange that is hidden. -/
theorem Shows.hidden {op : Op} {next : Ans op → Program Op Ans α} {q : Program Op' Ans' α}
    (hHidden : ∀ answer, view ⟨op, answer⟩ = none) (later : ∀ answer, Shows view (next answer) q) :
    Shows view (Program.perform op >>= next) q := by
  intro transcript a plays
  obtain ⟨answer, rest, rfl, hRest⟩ := plays_perform_iff.mp plays
  rw [View.seen, List.filterMap_cons, hHidden answer]
  exact later answer rest a hRest

theorem Shows.bind {p : Program Op Ans α} {q : Program Op' Ans' α} {f : α → Program Op Ans β}
    {g : α → Program Op' Ans' β} (head : Shows view p q) (tail : ∀ a, Shows view (f a) (g a)) :
    Shows view (p >>= f) (q >>= g) := by
  intro transcript b plays
  obtain ⟨first, rest, a, rfl, hFirst, hRest⟩ := plays_bind_iff.mp plays
  rw [View.seen, List.filterMap_append]
  exact plays_bind_iff.mpr ⟨_, _, a, rfl, head first a hFirst, tail a rest b hRest⟩

/-- A first part of which nothing is seen. -/
theorem Shows.bind_hidden {hides : Op → Prop} {p : Program Op Ans α} {f : α → Program Op Ans β}
    {q : Program Op' Ans' β} (hPerforms : p.Performs hides)
    (hHidden : ∀ op answer, hides op → view ⟨op, answer⟩ = none) (tail : ∀ a, Shows view (f a) q) :
    Shows view (p >>= f) q := by
  intro transcript b plays
  obtain ⟨first, rest, a, rfl, hFirst, hRest⟩ := plays_bind_iff.mp plays
  have hEmpty : first.filterMap view = [] := by
    apply List.filterMap_eq_nil_iff.mpr
    intro exchange hMem
    exact hHidden exchange.1 exchange.2 (plays_performs hPerforms hFirst exchange hMem)
  rw [View.seen, List.filterMap_append, hEmpty, List.nil_append]
  exact tail a rest b hRest

theorem Shows.loop {body : σ → Program Op Ans (Iteration σ ρ)}
    {body' : σ → Program Op' Ans' (Iteration σ ρ)} (round : ∀ s, Shows view (body s) (body' s))
    (fuel : Nat) (s : σ) : Shows view (loop body fuel s) (loop body' fuel s) := by
  induction fuel generalizing s with
  | zero => exact shows_done none
  | succ fuel ih =>
      apply (round s).bind
      intro iteration
      cases iteration with
      | next t => exact ih t
      | stop result => exact shows_done (some result)

end Interaction
