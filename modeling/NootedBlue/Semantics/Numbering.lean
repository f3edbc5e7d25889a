import Mathlib.Data.List.Nodup
import Mathlib.Data.Set.Function

/-! Numbers that are given out in the order of a list, to the elements that pass
a test. -/
namespace Numbering

variable {α : Type} [DecidableEq α]

/-- Give the next number to an element that passes. -/
def round (test : α → Bool) (s : (α → Nat) × Nat) (a : α) : (α → Nat) × Nat :=
  if test a then (Function.update s.1 a s.2, s.2 + 1) else s

/-- Number the elements of a list, from `next` on. -/
def assign (test : α → Bool) (list : List α) (s : (α → Nat) × Nat) : (α → Nat) × Nat :=
  list.foldl (round test) s

variable {test : α → Bool} {list : List α} {s : (α → Nat) × Nat}

/-- Only the elements of the list are given numbers. -/
theorem assign_of_not_mem {a : α} (h : a ∉ list) : (assign test list s).1 a = s.1 a := by
  induction list generalizing s with
  | nil => rfl
  | cons b rest ih =>
      obtain ⟨hNe, hRest⟩ := not_or.mp (mt List.mem_cons.mpr h)
      show (assign test rest (round test s b)).1 a = _
      rw [ih hRest, round]
      split
      · exact Function.update_of_ne hNe _ _
      · rfl

/-- The number of an element is its place among those that pass. -/
theorem assign_of_mem (hNodup : list.Nodup) {a : α} (h : a ∈ list.filter test) :
    (assign test list s).1 a = s.2 + (list.filter test).idxOf a := by
  induction list generalizing s with
  | nil => exact absurd h List.not_mem_nil
  | cons b rest ih =>
      obtain ⟨hFirst, hRest⟩ := List.nodup_cons.mp hNodup
      show (assign test rest (round test s b)).1 a = _
      rw [List.filter_cons] at h ⊢
      rw [round]
      split
      · next hTest =>
          rw [if_pos hTest] at h
          by_cases hSame : a = b
          · subst hSame
            rw [assign_of_not_mem hFirst, List.idxOf_cons_self]
            exact Function.update_self _ _ _
          · have hLater := (List.mem_cons.mp h).resolve_left hSame
            rw [ih hRest hLater, List.idxOf_cons_ne _ (Ne.symm hSame)]
            omega
      · next hTest =>
          rw [if_neg hTest] at h
          exact ih hRest h

/-- Each number below the count is given to exactly one element. -/
theorem bijOn_assign (hNodup : list.Nodup) (ids : α → Nat) :
    Set.BijOn (assign test list (ids, 0)).1 {a | a ∈ list.filter test}
      {n | n < (list.filter test).length} := by
  have hPlace : ∀ a ∈ list.filter test,
      (assign test list (ids, 0)).1 a = (list.filter test).idxOf a := by
    intro a ha
    rw [assign_of_mem hNodup ha, Nat.zero_add]
  refine ⟨fun a ha => ?_, fun a ha b hb hSame => ?_, fun n hn => ?_⟩
  · show (assign test list (ids, 0)).1 a < _
    rw [hPlace a ha]
    exact List.idxOf_lt_length_of_mem ha
  · rw [hPlace a ha, hPlace b hb] at hSame
    exact (List.idxOf_inj ha).mp hSame
  · have hLength : n < (list.filter test).length := hn
    refine ⟨(list.filter test)[n], List.getElem_mem hLength, ?_⟩
    rw [hPlace _ (List.getElem_mem hLength)]
    exact (hNodup.filter test).idxOf_getElem n hLength

/-- In a list that is in the order of a key, so are the places. -/
theorem idxOf_lt_iff {key : α → Nat} (hSorted : list.Pairwise fun a b => key a < key b) {a b : α}
    (ha : a ∈ list) (hb : b ∈ list) : list.idxOf a < list.idxOf b ↔ key a < key b := by
  have hForward : ∀ {x y : α}, x ∈ list → y ∈ list → list.idxOf x < list.idxOf y → key x < key y := by
    intro x y hx hy hLt
    have := List.pairwise_iff_getElem.mp hSorted _ _ (List.idxOf_lt_length_of_mem hx)
      (List.idxOf_lt_length_of_mem hy) hLt
    rwa [List.getElem_idxOf, List.getElem_idxOf] at this
  refine ⟨hForward ha hb, fun hKey => Nat.lt_of_not_le fun hLe => ?_⟩
  rcases Nat.lt_or_eq_of_le hLe with hLt | hEq
  · exact Nat.lt_asymm hKey (hForward hb ha hLt)
  · rw [(List.idxOf_inj hb).mp hEq] at hKey
    exact Nat.lt_irrefl _ hKey

/-- The numbers are in the order of any key in which the list is. -/
theorem assign_lt_iff {key : α → Nat} (hSorted : list.Pairwise fun a b => key a < key b)
    (ids : α → Nat) {a b : α} (ha : a ∈ list.filter test) (hb : b ∈ list.filter test) :
    (assign test list (ids, 0)).1 a < (assign test list (ids, 0)).1 b ↔ key a < key b := by
  have hNodup : list.Nodup := by
    refine hSorted.imp ?_
    rintro x y hLt rfl
    exact Nat.lt_irrefl _ hLt
  rw [assign_of_mem hNodup ha, assign_of_mem hNodup hb, Nat.add_lt_add_iff_left]
  exact idxOf_lt_iff (hSorted.filter test) ha hb

end Numbering
