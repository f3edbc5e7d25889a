import Mathlib.Algebra.BigOperators.Group.List.Basic
import Mathlib.Algebra.GroupWithZero.Nat
import Mathlib.Data.List.Infix
import Mathlib.Logic.Function.Basic

/-! Things of given sizes laid one behind the other, in the order of a list:
where each of them starts, that none overlaps another, and that together they
leave no gap. -/
namespace Serial

variable {κ : Type} (size : κ → Nat)

/-- What the things of a list take. -/
def total (keys : List κ) : Nat := (keys.map size).sum

/-- What is laid before a thing. -/
def before [DecidableEq κ] : List κ → κ → Nat
  | [], _ => 0
  | first :: rest, k => if first = k then 0 else size first + before rest k

variable {size} {keys done rest : List κ} {a b k : κ}

@[simp] theorem total_nil : total size [] = 0 := rfl

@[simp] theorem total_cons : total size (k :: rest) = size k + total size rest := by
  rw [total, List.map_cons, List.sum_cons]
  rfl

@[simp] theorem total_append : total size (done ++ rest) = total size done + total size rest := by
  rw [total, List.map_append, List.sum_append]
  rfl

theorem total_concat : total size (done ++ [k]) = total size done + size k := by
  rw [total_append, total_cons, total_nil, Nat.add_zero]

theorem total_le_of_prefix (h : done <+: keys) : total size done ≤ total size keys := by
  obtain ⟨rest, rfl⟩ := h
  rw [total_append]
  exact Nat.le_add_right _ _

theorem total_congr {other : κ → Nat} (h : ∀ k ∈ keys, size k = other k) :
    total size keys = total other keys :=
  congrArg List.sum (List.map_congr_left h)

theorem total_le_total {other : κ → Nat} (h : ∀ k, size k ≤ other k) :
    total size keys ≤ total other keys := by
  induction keys with
  | nil => exact Nat.le_refl _
  | cons k rest ih =>
      have hFirst := h k
      rw [total_cons, total_cons]
      omega

theorem total_le {bound : Nat} (h : ∀ k, size k ≤ bound) : total size keys ≤ keys.length * bound := by
  induction keys with
  | nil => exact Nat.zero_le _
  | cons k rest ih =>
      have hFirst := h k
      rw [total_cons, List.length_cons, Nat.succ_mul]
      omega

theorem dvd_total {unit : Nat} (h : ∀ k ∈ keys, unit ∣ size k) : unit ∣ total size keys := by
  induction keys with
  | nil => exact Nat.dvd_zero unit
  | cons k rest ih =>
      obtain ⟨hFirst, hRest⟩ := List.forall_mem_cons.mp h
      rw [total_cons]
      exact Nat.dvd_add hFirst (ih hRest)

/-- A loop whose rounds each come to the next few things of a whole. -/
theorem foldl_groups {σ ι : Type} {property : List κ → σ → Prop} {step : σ → ι → σ} {group : ι → List κ}
    (hStep : ∀ done s i, property done s → done ++ group i <+: keys →
      property (done ++ group i) (step s i))
    (is : List ι) {s : σ} (h : property done s) (hPrefix : done ++ is.flatMap group <+: keys) :
    property (done ++ is.flatMap group) (is.foldl step s) := by
  induction is generalizing done s with
  | nil => simpa using h
  | cons i is ih =>
      rw [List.flatMap_cons, ← List.append_assoc] at hPrefix ⊢
      exact ih (hStep done s i h ((List.prefix_append _ _).trans hPrefix)) hPrefix

theorem not_mem_of_next (hNodup : keys.Nodup) (h : done ++ [k] <+: keys) : k ∉ done := by
  obtain ⟨rest, rfl⟩ := h
  rw [List.append_assoc] at hNodup
  intro hMem
  exact (List.nodup_append.mp hNodup).2.2 k hMem k List.mem_cons_self rfl

theorem mem_of_mem_concat (h : a ∈ done ++ [k]) (hNe : a ≠ k) : a ∈ done :=
  (List.mem_append.mp h).resolve_right fun hLast => hNe (List.mem_singleton.mp hLast)

variable [DecidableEq κ]

@[simp] theorem before_cons_self : before size (k :: rest) k = 0 := if_pos rfl

theorem before_cons_of_ne (h : a ≠ k) : before size (a :: rest) k = size a + before size rest k :=
  if_neg h

/-- Behind others, a thing starts where they end. -/
theorem before_append_cons (h : k ∉ done) : before size (done ++ k :: rest) k = total size done := by
  induction done with
  | nil => exact before_cons_self
  | cons first done ih =>
      obtain ⟨hNe, hDone⟩ := not_or.mp (mt List.mem_cons.mpr h)
      rw [List.cons_append, before_cons_of_ne (Ne.symm hNe), ih hDone, total_cons]

/-- What follows does not move it. -/
theorem before_append_of_mem (h : k ∈ done) : before size (done ++ rest) k = before size done k := by
  induction done with
  | nil => exact absurd h List.not_mem_nil
  | cons first done ih =>
      rw [List.cons_append]
      by_cases hSame : first = k
      · rw [hSame, before_cons_self, before_cons_self]
      · have hDone := (List.mem_cons.mp h).resolve_left (Ne.symm hSame)
        rw [before_cons_of_ne hSame, before_cons_of_ne hSame, ih hDone]

/-- The next thing of a list starts where those before it end. -/
theorem before_of_next (hNodup : keys.Nodup) (h : done ++ [k] <+: keys) :
    before size keys k = total size done := by
  obtain ⟨rest, rfl⟩ := h
  rw [List.append_assoc]
  exact before_append_cons (not_mem_of_next hNodup ⟨rest, rfl⟩)

/-- Everything ends within the total. -/
theorem before_add_size_le (h : k ∈ keys) : before size keys k + size k ≤ total size keys := by
  induction keys with
  | nil => exact absurd h List.not_mem_nil
  | cons first rest ih =>
      rw [total_cons]
      by_cases hSame : first = k
      · rw [hSame, before_cons_self]
        omega
      · have := ih ((List.mem_cons.mp h).resolve_left (Ne.symm hSame))
        rw [before_cons_of_ne hSame]
        omega

/-- It ends within what is laid up to some point behind it. -/
theorem before_add_size_le_of_prefix (hPrefix : done <+: keys) (h : k ∈ done) :
    before size keys k + size k ≤ total size done := by
  obtain ⟨rest, rfl⟩ := hPrefix
  rw [before_append_of_mem h]
  exact before_add_size_le h

/-- Of two things, one ends before the other starts. -/
theorem disjoint (ha : a ∈ keys) (hb : b ∈ keys) (hNe : a ≠ b) :
    before size keys a + size a ≤ before size keys b ∨
      before size keys b + size b ≤ before size keys a := by
  induction keys with
  | nil => exact absurd ha List.not_mem_nil
  | cons first rest ih =>
      by_cases hFirst : first = a
      · subst hFirst
        rw [before_cons_self, before_cons_of_ne hNe]
        omega
      · by_cases hSecond : first = b
        · subst hSecond
          rw [before_cons_self, before_cons_of_ne hFirst]
          omega
        · have := ih ((List.mem_cons.mp ha).resolve_left (Ne.symm hFirst))
            ((List.mem_cons.mp hb).resolve_left (Ne.symm hSecond))
          rw [before_cons_of_ne hFirst, before_cons_of_ne hSecond]
          omega

/-- Every position below the total lies in one of them. -/
theorem covered (hNodup : keys.Nodup) {position : Nat} (h : position < total size keys) :
    ∃ k ∈ keys, before size keys k ≤ position ∧ position < before size keys k + size k := by
  induction keys generalizing position with
  | nil => exact absurd h (Nat.not_lt_zero _)
  | cons first rest ih =>
      obtain ⟨hFirst, hRest⟩ := List.nodup_cons.mp hNodup
      rw [total_cons] at h
      by_cases hIn : position < size first
      · refine ⟨first, List.mem_cons_self, ?_⟩
        rw [before_cons_self]
        omega
      · have hLater : position - size first < total size rest := by omega
        obtain ⟨k, hMem, hLe, hLt⟩ := ih hRest hLater
        have hNe : first ≠ k := fun hSame => hFirst (hSame ▸ hMem)
        refine ⟨k, List.mem_cons_of_mem first hMem, ?_⟩
        rw [before_cons_of_ne hNe]
        omega

theorem before_congr {other : κ → Nat} (h : ∀ k ∈ keys, size k = other k) :
    before size keys k = before other keys k := by
  induction keys with
  | nil => rfl
  | cons first rest ih =>
      obtain ⟨hFirst, hRest⟩ := List.forall_mem_cons.mp h
      by_cases hSame : first = k
      · rw [hSame, before_cons_self, before_cons_self]
      · rw [before_cons_of_ne hSame, before_cons_of_ne hSame, hFirst, ih hRest]

/-! A walk over the things keeps the address of the next one, by a modulus, and
stores something about each at an entry of its own. -/

section Walk

variable {Entry Value : Type} [DecidableEq Entry] (modulus : Nat) (entry : κ → Option Entry)
  (size : κ → Nat) (value : κ → Nat → Value)

/-- One thing of the walk; one without an entry is passed over. -/
def visit (s : Nat × (Entry → Value)) (k : κ) : Nat × (Entry → Value) :=
  match entry k with
  | none => s
  | some at' => ((s.1 + size k) % modulus, Function.update s.2 at' (value k s.1))

/-- What a thing takes in the walk. -/
def taken (k : κ) : Nat := if (entry k).isSome then size k else 0

/-- What the walk has come to behind some things. -/
structure Walked (start : Nat) (table : Entry → Value) (done : List κ) (s : Nat × (Entry → Value)) :
    Prop where
  address : s.1 = (start + total (taken entry size) done) % modulus
  entries : ∀ k ∈ done, ∀ at', entry k = some at' →
    s.2 at' = value k ((start + before (taken entry size) done k) % modulus)
  others : ∀ at', (∀ k ∈ done, entry k ≠ some at') → s.2 at' = table at'

variable {modulus entry size value} {start : Nat} {table : Entry → Value}
  {s : Nat × (Entry → Value)}

omit [DecidableEq κ] [DecidableEq Entry] in
theorem taken_of_entry {at' : Entry} (h : entry k = some at') : taken entry size k = size k := by
  unfold taken
  rw [h]
  rfl

omit [DecidableEq κ] [DecidableEq Entry] in
theorem taken_of_none (h : entry k = none) : taken entry size k = 0 := by
  unfold taken
  rw [h]
  rfl

omit [DecidableEq Entry] in
/-- A thing without an entry changes nothing. -/
theorem Walked.pass (walked : Walked modulus entry size value start table done s)
    (hEntry : entry k = none) : Walked modulus entry size value start table (done ++ [k]) s := by
  refine ⟨?_, ?_, ?_⟩
  · rw [total_concat, taken_of_none hEntry, Nat.add_zero]
    exact walked.address
  · intro other hOther at' hAt
    rcases List.mem_append.mp hOther with hBefore | hLast
    · rw [before_append_of_mem hBefore]
      exact walked.entries other hBefore at' hAt
    · rw [List.mem_singleton.mp hLast, hEntry] at hAt
      cases hAt
  · intro at' hOthers
    exact walked.others at' fun other hOther => hOthers other (List.mem_append_left _ hOther)

/-- A thing with an entry that no other one has. -/
theorem Walked.store (walked : Walked modulus entry size value start table done s) (hNew : k ∉ done)
    {mine : Entry} (hEntry : entry k = some mine) (hAlone : ∀ other ∈ done, entry other ≠ some mine) :
    Walked modulus entry size value start table (done ++ [k])
      ((s.1 + size k) % modulus, Function.update s.2 mine (value k s.1)) := by
  refine ⟨?_, ?_, ?_⟩
  · rw [total_concat, taken_of_entry hEntry, walked.address, ← Nat.add_assoc]
    exact Nat.mod_add_mod _ _ _
  · intro other hOther at' hAt
    rcases List.mem_append.mp hOther with hBefore | hLast
    · have hNe : at' ≠ mine := by
        rintro rfl
        exact hAlone other hBefore hAt
      rw [before_append_of_mem hBefore]
      exact (Function.update_of_ne hNe _ _).trans (walked.entries other hBefore at' hAt)
    · rw [List.mem_singleton.mp hLast, hEntry] at hAt
      cases hAt
      rw [List.mem_singleton.mp hLast, before_append_cons hNew, ← walked.address]
      exact Function.update_self _ _ _
  · intro at' hOthers
    have hNe : at' ≠ mine := by
      rintro rfl
      exact hOthers k (List.mem_append_right _ List.mem_cons_self) hEntry
    refine (Function.update_of_ne hNe _ _).trans ?_
    exact walked.others at' fun other hOther => hOthers other (List.mem_append_left _ hOther)

theorem Walked.visit (walked : Walked modulus entry size value start table done s) (hNew : k ∉ done)
    (hAlone : ∀ other ∈ done, ∀ at', entry other = some at' → entry k ≠ some at') :
    Walked modulus entry size value start table (done ++ [k]) (visit modulus entry size value s k) := by
  unfold Serial.visit
  cases hEntry : entry k with
  | none => exact walked.pass hEntry
  | some mine =>
      exact walked.store hNew hEntry fun other hOther hSame => hAlone other hOther mine hSame hEntry

/-- The walk over all things whose entries are their own. -/
theorem Walked.foldl (walked : Walked modulus entry size value start table done s)
    (hNodup : (done ++ rest).Nodup)
    (hAlone : ∀ one other at', entry one = some at' → entry other = some at' → one = other) :
    Walked modulus entry size value start table (done ++ rest)
      (rest.foldl (Serial.visit modulus entry size value) s) := by
  induction rest generalizing done s with
  | nil => rwa [List.append_nil]
  | cons k rest ih =>
      have hNew : k ∉ done := fun hMem =>
        (List.nodup_append.mp hNodup).2.2 k hMem k List.mem_cons_self rfl
      rw [List.append_cons] at hNodup ⊢
      refine ih (walked.visit hNew fun other hOther at' hAt hSame => ?_) hNodup
      exact hNew (hAlone other k at' hAt hSame ▸ hOther)

/-- The whole walk. -/
theorem walked (hNodup : keys.Nodup) (hStart : start < modulus)
    (hAlone : ∀ one other at', entry one = some at' → entry other = some at' → one = other) :
    Walked modulus entry size value start table keys
      (keys.foldl (Serial.visit modulus entry size value) (start, table)) := by
  have hNone : Walked modulus entry size value start table [] (start, table) := by
    refine ⟨(Nat.mod_eq_of_lt hStart).symm, ?_, fun _ _ => rfl⟩
    intro k hMem
    exact absurd hMem List.not_mem_nil
  exact hNone.foldl hNodup hAlone

end Walk

end Serial
