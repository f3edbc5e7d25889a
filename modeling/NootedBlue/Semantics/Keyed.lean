import Mathlib.Data.Finset.Card
import Mathlib.Data.List.Basic
import Mathlib.Data.List.Induction

/-! Lists in the order of a key: binary search, insertion from the end and
replacement in place. -/
namespace Keyed

variable {α : Type} (key : α → Nat)

/-- The keys increase, so each occurs once. -/
def Increasing (xs : List α) : Prop := xs.Pairwise fun x y => key x < key y

/-- Binary search between two positions. -/
def searchFrom (xs : List α) (target : Nat) : Nat → Nat → Nat → Option Nat
  | 0, _, _ => none
  | fuel + 1, start, stop =>
      if start < stop then
        match xs[start + (stop - start) / 2]? with
        | none => none
        | some x =>
            if key x < target then searchFrom xs target fuel (start + (stop - start) / 2 + 1) stop
            else if key x > target then searchFrom xs target fuel start (start + (stop - start) / 2)
            else some (start + (stop - start) / 2)
      else none

/-- The position of a key. -/
def search (xs : List α) (target : Nat) : Option Nat :=
  searchFrom key xs target xs.length 0 xs.length

/-- Binary search in a number of elements from a position on, which halves the
number. -/
def bsearchFrom (xs : List α) (target : Nat) : Nat → Nat → Nat → Option Nat
  | 0, _, _ => none
  | fuel + 1, base, num =>
      if num = 0 then none
      else
        match xs[base + num / 2]? with
        | none => none
        | some x =>
            if key x = target then some (base + num / 2)
            else if key x < target then bsearchFrom xs target fuel (base + num / 2 + 1) ((num - 1) / 2)
            else bsearchFrom xs target fuel base (num / 2)

/-- The search of all elements. -/
def bsearch (xs : List α) (target : Nat) : Option Nat :=
  bsearchFrom key xs target xs.length 0 xs.length

/-- Move an element down a list that is given from its end. -/
def sink (x : α) : List α → List α
  | [] => [x]
  | y :: ys => if key y < key x then x :: y :: ys else y :: sink x ys

/-- Put an element at the end and swap it down to its place. -/
def insertLast (xs : List α) (x : α) : List α := (sink key x xs.reverse).reverse

section Search

variable {key} {xs : List α} {target : Nat}

/-- What a search still has to look at lies between its two positions. -/
structure Window (key : α → Nat) (xs : List α) (target start stop : Nat) : Prop where
  stop_le : stop ≤ xs.length
  below : ∀ i x, xs[i]? = some x → i < start → key x < target
  above : ∀ i x, xs[i]? = some x → stop ≤ i → target < key x

theorem increasing_lt (h : Increasing key xs) {i j : Nat} {x y : α} (hi : xs[i]? = some x)
    (hj : xs[j]? = some y) (hLt : i < j) : key x < key y := by
  obtain ⟨hLeft, rfl⟩ := List.getElem?_eq_some_iff.mp hi
  obtain ⟨hRight, rfl⟩ := List.getElem?_eq_some_iff.mp hj
  exact List.pairwise_iff_getElem.mp h i j hLeft hRight hLt

/-- There are as many elements as keys. -/
theorem length_eq_card (h : Increasing key xs) {keys : Finset Nat}
    (hKeys : ∀ k, k ∈ keys ↔ ∃ x ∈ xs, key x = k) : xs.length = keys.card := by
  have hNodup : (xs.map key).Nodup := List.pairwise_map.mpr (h.imp Nat.ne_of_lt)
  rw [← List.length_map key, ← List.toFinset_card_of_nodup hNodup]
  congr 1
  ext k
  rw [List.mem_toFinset, List.mem_map, hKeys]

/-- Nothing is left to look at. -/
theorem Window.closed {start stop : Nat} (window : Window key xs target start stop)
    (h : stop ≤ start) : ∀ x ∈ xs, key x ≠ target := by
  intro x hx
  obtain ⟨i, hi⟩ := List.mem_iff_getElem?.mp hx
  rcases Nat.lt_or_ge i start with hLt | hGe
  · exact Nat.ne_of_lt (window.below i x hi hLt)
  · exact Nat.ne_of_gt (window.above i x hi (Nat.le_trans h hGe))

/-- The whole list. -/
theorem Window.whole : Window key xs target 0 xs.length where
  stop_le := Nat.le_refl _
  below := by
    intro i x _ hLt
    omega
  above := by
    intro i x hi hLe
    have := List.getElem?_eq_none_iff.mpr hLe
    simp [this] at hi

/-- What is left of an element that is too large. -/
theorem Window.left {start stop mid : Nat} (window : Window key xs target start stop)
    (hIncreasing : Increasing key xs) {x : α} (hx : xs[mid]? = some x) (hMore : target < key x)
    (hMid : mid < stop) : Window key xs target start mid where
  stop_le := Nat.le_trans (Nat.le_of_lt hMid) window.stop_le
  below := window.below
  above := by
    intro i y hi hLe
    rcases Nat.lt_or_eq_of_le hLe with hAbove | rfl
    · exact Nat.lt_trans hMore (increasing_lt hIncreasing hx hi hAbove)
    · cases hi.symm.trans hx
      exact hMore

/-- What is right of an element that is too small. -/
theorem Window.right {start stop mid : Nat} (window : Window key xs target start stop)
    (hIncreasing : Increasing key xs) {x : α} (hx : xs[mid]? = some x) (hLess : key x < target) :
    Window key xs target (mid + 1) stop where
  stop_le := window.stop_le
  below := by
    intro i y hi hLt
    rcases Nat.lt_or_eq_of_le (Nat.le_of_lt_succ hLt) with hBelow | rfl
    · exact Nat.lt_trans (increasing_lt hIncreasing hi hx hBelow) hLess
    · cases hi.symm.trans hx
      exact hLess
  above := window.above

theorem searchFrom_found {fuel start stop i : Nat}
    (h : searchFrom key xs target fuel start stop = some i) :
    ∃ x, xs[i]? = some x ∧ key x = target := by
  induction fuel generalizing start stop with
  | zero => cases h
  | succ fuel ih =>
      simp only [searchFrom] at h
      split at h
      · split at h
        · cases h
        · next x hx =>
            split at h
            · exact ih h
            · split at h
              · exact ih h
              · cases h
                exact ⟨x, hx, by omega⟩
      · cases h

theorem searchFrom_missing (hIncreasing : Increasing key xs) {fuel start stop : Nat}
    (window : Window key xs target start stop) (hFuel : stop ≤ start + fuel)
    (h : searchFrom key xs target fuel start stop = none) : ∀ x ∈ xs, key x ≠ target := by
  induction fuel generalizing start stop with
  | zero => exact window.closed hFuel
  | succ fuel ih =>
      simp only [searchFrom] at h
      split at h
      · have hBound := window.stop_le
        split at h
        · next hNone =>
            have := List.getElem?_eq_none_iff.mp hNone
            omega
        · next x hx =>
            split at h
            · next hLess => exact ih (window.right hIncreasing hx hLess) (by omega) h
            · split at h
              · next hMore => exact ih (window.left hIncreasing hx hMore (by omega)) (by omega) h
              · cases h
      · exact window.closed (by omega)

theorem search_found {i : Nat} (h : search key xs target = some i) :
    ∃ x, xs[i]? = some x ∧ key x = target :=
  searchFrom_found h

theorem search_missing (hIncreasing : Increasing key xs) (h : search key xs target = none) :
    ∀ x ∈ xs, key x ≠ target :=
  searchFrom_missing hIncreasing .whole (by omega) h

theorem bsearchFrom_found {fuel base num i : Nat}
    (h : bsearchFrom key xs target fuel base num = some i) :
    ∃ x, xs[i]? = some x ∧ key x = target := by
  induction fuel generalizing base num with
  | zero => cases h
  | succ fuel ih =>
      simp only [bsearchFrom] at h
      split at h
      · cases h
      · split at h
        · cases h
        · next x hx =>
            split at h
            · next hSame =>
                cases h
                exact ⟨x, hx, hSame⟩
            · split at h
              · exact ih h
              · exact ih h

theorem bsearchFrom_missing (hIncreasing : Increasing key xs) {fuel base num : Nat}
    (window : Window key xs target base (base + num)) (hFuel : num ≤ fuel)
    (h : bsearchFrom key xs target fuel base num = none) : ∀ x ∈ xs, key x ≠ target := by
  induction fuel generalizing base num with
  | zero => exact window.closed (by omega)
  | succ fuel ih =>
      simp only [bsearchFrom] at h
      split at h
      · exact window.closed (by omega)
      · next hNum =>
          have hBound := window.stop_le
          split at h
          · next hNone =>
              have := List.getElem?_eq_none_iff.mp hNone
              omega
          · next x hx =>
              split at h
              · cases h
              · split at h
                · next hLess =>
                    have hRest := window.right hIncreasing hx hLess
                    rw [show base + num = base + num / 2 + 1 + (num - 1) / 2 by omega] at hRest
                    exact ih hRest (by omega) h
                · exact ih (window.left hIncreasing hx (by omega) (by omega)) (by omega) h

/-- A key is found exactly when it is there. -/
theorem bsearch_isSome (hIncreasing : Increasing key xs) :
    (bsearch key xs target).isSome ↔ ∃ x ∈ xs, key x = target := by
  constructor
  · intro h
    obtain ⟨i, hi⟩ := Option.isSome_iff_exists.mp h
    obtain ⟨x, hx, hKey⟩ := bsearchFrom_found hi
    exact ⟨x, List.mem_of_getElem? hx, hKey⟩
  · rintro ⟨x, hx, hKey⟩
    by_contra hNone
    have window : Window key xs target 0 (0 + xs.length) := by
      rw [Nat.zero_add]
      exact .whole
    exact bsearchFrom_missing hIncreasing window (Nat.le_refl _)
      (Option.not_isSome_iff_eq_none.mp hNone) x hx hKey

end Search

section Insert

variable {key} {xs : List α} {x : α}

theorem mem_sink {y : α} : y ∈ sink key x xs ↔ y = x ∨ y ∈ xs := by
  induction xs with
  | nil => simp [sink]
  | cons z zs ih =>
      simp only [sink]
      split
      · simp
      · simp only [List.mem_cons, ih]
        tauto

theorem mem_insertLast {y : α} : y ∈ insertLast key xs x ↔ y = x ∨ y ∈ xs := by
  simp [insertLast, mem_sink]

/-- An element goes behind the last one or past it. -/
theorem insertLast_concat {y : α} :
    insertLast key (xs ++ [y]) x =
      if key y < key x then xs ++ [y, x] else insertLast key xs x ++ [y] := by
  simp only [insertLast, List.reverse_append, List.reverse_singleton, List.singleton_append, sink]
  split <;> simp

theorem length_insertLast : (insertLast key xs x).length = xs.length + 1 := by
  induction xs using List.reverseRecOn with
  | nil => rfl
  | append_singleton xs y ih =>
      rw [insertLast_concat]
      split <;> simp [ih]

theorem pairwise_sink (h : xs.Pairwise fun y z => key z < key y)
    (hFresh : ∀ y ∈ xs, key y ≠ key x) : (sink key x xs).Pairwise fun y z => key z < key y := by
  induction xs with
  | nil => simp [sink]
  | cons y ys ih =>
      obtain ⟨hHead, hTail⟩ := List.pairwise_cons.mp h
      simp only [sink]
      split
      · next hLt =>
          apply List.pairwise_cons.mpr
          refine ⟨?_, h⟩
          intro z hz
          rcases List.mem_cons.mp hz with rfl | hLater
          · exact hLt
          · exact Nat.lt_trans (hHead z hLater) hLt
      · next hLt =>
          have hNe := hFresh y List.mem_cons_self
          apply List.pairwise_cons.mpr
          refine ⟨?_, ih hTail fun z hz => hFresh z (List.mem_cons_of_mem _ hz)⟩
          intro z hz
          rcases mem_sink.mp hz with rfl | hLater
          · omega
          · exact hHead z hLater

theorem increasing_insertLast (h : Increasing key xs) (hFresh : ∀ y ∈ xs, key y ≠ key x) :
    Increasing key (insertLast key xs x) := by
  apply List.pairwise_reverse.mpr
  apply pairwise_sink (List.pairwise_reverse.mpr h)
  simpa using hFresh

/-- Replacing an element by one of the same key keeps the order. -/
theorem increasing_modify {f : α → α} (hKey : ∀ x, key (f x) = key x) (i : Nat)
    (h : Increasing key xs) : Increasing key (xs.modify i f) := by
  have hKeys : (xs.modify i f).map key = xs.map key := by
    induction xs generalizing i with
    | nil => simp
    | cons x xs ih =>
        cases i with
        | zero => simp [hKey]
        | succ i => simp [ih i (List.pairwise_cons.mp h).2]
  have hSame : ((xs.modify i f).map key).Pairwise (· < ·) := by
    rw [hKeys]
    exact List.pairwise_map.mpr h
  exact List.pairwise_map.mp hSame

/-- The elements after a replacement: the new one, and those of other keys. -/
theorem mem_modify {f : α → α} {i : Nat} (h : Increasing key xs) (hx : xs[i]? = some x) {y : α} :
    y ∈ xs.modify i f ↔ y = f x ∨ y ∈ xs ∧ key y ≠ key x := by
  induction xs generalizing i with
  | nil => simp at hx
  | cons z zs ih =>
      obtain ⟨hHead, hTail⟩ := List.pairwise_cons.mp h
      cases i with
      | zero =>
          cases hx
          have hOthers : ∀ y ∈ zs, key y ≠ key x := fun y hy => Nat.ne_of_gt (hHead y hy)
          simp only [List.modify_zero_cons, List.mem_cons]
          constructor
          · rintro (rfl | hy)
            · exact .inl rfl
            · exact .inr ⟨.inr hy, hOthers y hy⟩
          · rintro (rfl | ⟨rfl | hy, hNe⟩)
            · exact .inl rfl
            · exact absurd rfl hNe
            · exact .inr hy
      | succ i =>
          rw [List.getElem?_cons_succ] at hx
          have hNe : key z ≠ key x := Nat.ne_of_lt (hHead x (List.mem_of_getElem? hx))
          simp only [List.modify_succ_cons, List.mem_cons, ih hTail hx]
          constructor
          · rintro (rfl | rfl | ⟨hy, hKey⟩)
            · exact .inr ⟨.inl rfl, hNe⟩
            · exact .inl rfl
            · exact .inr ⟨.inr hy, hKey⟩
          · rintro (rfl | ⟨rfl | hy, hKey⟩)
            · exact .inr (.inl rfl)
            · exact .inl rfl
            · exact .inr (.inr ⟨hy, hKey⟩)

end Insert

end Keyed
