import Mathlib.Data.List.Chain
import Mathlib.Logic.Function.Basic

/-! Lists that run in a ring, each element with a pointer to the next one and to the one
before. The head is no element; a ring without elements is a head that points to
itself. -/
namespace Linked

variable {A : Type}

/-- The two pointers of every address. -/
structure Links (A : Type) where
  next : A → A
  prev : A → A

namespace Links

variable [DecidableEq A]

def setNext (links : Links A) (a b : A) : Links A :=
  { links with next := Function.update links.next a b }

def setPrev (links : Links A) (a b : A) : Links A :=
  { links with prev := Function.update links.prev a b }

/-- Make a head without elements. -/
def init (links : Links A) (head : A) : Links A := (links.setNext head head).setPrev head head

/-- Put an address between two neighbours. -/
def insert (links : Links A) (new prev next : A) : Links A :=
  (((links.setPrev next new).setNext new next).setPrev new prev).setNext prev new

/-- Put an address at the end. -/
def addTail (links : Links A) (new head : A) : Links A := links.insert new (links.prev head) head

end Links

/-- The addresses that come after one, in their order. -/
def walk (step : A → A) : Nat → A → List A
  | 0, _ => []
  | n + 1, a => step a :: walk step n (step a)

/-- The second address comes after the first one, and the first one before the second. -/
structure Joined (links : Links A) (a b : A) : Prop where
  next : links.next a = b
  prev : links.prev b = a

/-- A ring: the head and the elements are different, and each is joined to what follows
it, the last one to the head. -/
structure Ring (links : Links A) (head : A) (elements : List A) : Prop where
  nodup : (head :: elements).Nodup
  joined : (head :: elements ++ [head]).IsChain (Joined links)

section Ring

variable {links : Links A} {head new : A} {elements : List A}

/-- The address before the head is the last one of the ring. -/
theorem Ring.prev_head (ring : Ring links head elements) :
    ∃ front, head :: elements = front ++ [links.prev head] ∧
      (front ++ [links.prev head]).IsChain (Joined links) ∧
      links.next (links.prev head) = head := by
  obtain ⟨front, last, hSplit⟩ : ∃ front last, head :: elements = front ++ [last] := by
    rcases List.eq_nil_or_concat (head :: elements) with hNil | ⟨front, last, hSplit⟩
    · cases hNil
    · exact ⟨front, last, by rw [hSplit, List.concat_eq_append]⟩
  have hJoined := ring.joined
  rw [hSplit, List.append_assoc] at hJoined
  obtain ⟨hFront, hLast, -⟩ := List.isChain_append_cons_cons.mp hJoined
  obtain rfl := hLast.prev
  exact ⟨front, hSplit, hFront, hLast.next⟩

theorem walk_of_isChain {step : A → A} {list : List A} {a : A}
    (h : (a :: list).IsChain fun a b => step a = b) : walk step list.length a = list := by
  induction list generalizing a with
  | nil => rfl
  | cons b rest ih =>
      obtain ⟨hStep, hRest⟩ := List.isChain_cons_cons.mp h
      rw [List.length_cons, walk, hStep, ih hRest]

/-- Walking forward from the head gives the elements. -/
theorem Ring.walk_next (ring : Ring links head elements) :
    walk links.next elements.length head = elements := by
  apply walk_of_isChain
  have hJoined := List.IsChain.left_of_append ring.joined
  exact hJoined.imp fun a b hJoined => hJoined.next

/-- Walking backward gives them in the opposite order. -/
theorem Ring.walk_prev (ring : Ring links head elements) :
    walk links.prev elements.length head = elements.reverse := by
  have hBack : (head :: elements.reverse ++ [head]).IsChain fun a b => links.prev a = b := by
    have hReverse := List.isChain_reverse.mpr (ring.joined.imp fun a b hJoined => hJoined.prev)
    simpa using hReverse
  have hWalk := walk_of_isChain (List.IsChain.left_of_append hBack)
  rwa [List.length_reverse] at hWalk

/-- Pointers of other addresses may change. -/
theorem Ring.of_agree {links' : Links A} (ring : Ring links head elements)
    (hAgree : ∀ a ∈ head :: elements, links'.next a = links.next a ∧ links'.prev a = links.prev a) :
    Ring links' head elements where
  nodup := ring.nodup
  joined := by
    refine List.IsChain.imp_of_mem_imp ?_ ring.joined
    intro a b ha hb hJoined
    have hCircle : ∀ c ∈ head :: elements ++ [head], c ∈ head :: elements := by simp [or_comm]
    exact ⟨(hAgree a (hCircle a ha)).1.trans hJoined.next,
      (hAgree b (hCircle b hb)).2.trans hJoined.prev⟩

section Operations

variable [DecidableEq A]

theorem ring_init (links : Links A) (head : A) : Ring (links.init head) head [] where
  nodup := by simp
  joined := by
    refine List.isChain_pair.mpr ⟨?_, ?_⟩
    · exact Function.update_self ..
    · exact Function.update_self ..

/-- A new address at the end of a ring. -/
theorem Ring.addTail (ring : Ring links head elements) (hNew : new ∉ head :: elements) :
    Ring (links.addTail new head) head (elements ++ [new]) where
  nodup := by
    rw [← List.cons_append, List.nodup_append]
    refine ⟨ring.nodup, by simp, ?_⟩
    intro a ha b hb hSame
    rw [List.mem_singleton] at hb
    exact hNew (by rw [← hb, ← hSame]; exact ha)
  joined := by
    obtain ⟨front, hSplit, hFront, hLast⟩ := ring.prev_head
    have hHead : new ≠ head := fun h => hNew (h ▸ List.mem_cons_self)
    have hMem : links.prev head ∈ head :: elements := by
      rw [hSplit]
      exact List.mem_append_right _ List.mem_cons_self
    have hPrev : new ≠ links.prev head := fun h => hNew (h ▸ hMem)
    have hCircle : head :: (elements ++ [new]) ++ [head] =
        front ++ links.prev head :: new :: [head] := by
      rw [List.cons_append, List.append_assoc, ← List.cons_append, hSplit]
      simp
    rw [hCircle]
    refine List.isChain_append_cons_cons.mpr ⟨?_, ⟨?_, ?_⟩, List.isChain_pair.mpr ⟨?_, ?_⟩⟩
    · -- The old neighbours: none of them is the last address and the head.
      refine List.IsChain.imp_of_mem_tail_imp ?_ hFront
      intro a b ha hb hJoined
      rw [← hSplit] at ha hb
      have hNotHead : b ≠ head := fun h => (List.nodup_cons.mp ring.nodup).1 (h ▸ hb)
      have hNotLast : a ≠ links.prev head := by
        rintro rfl
        exact hNotHead (hJoined.next.symm.trans hLast)
      have hNotNew : a ≠ new ∧ b ≠ new :=
        ⟨fun h => hNew (h ▸ ha), fun h => hNew (h ▸ List.mem_of_mem_tail hb)⟩
      constructor
      · simpa [Links.addTail, Links.insert, Links.setNext, Links.setPrev, hNotLast, hNotNew.1]
          using hJoined.next
      · simpa [Links.addTail, Links.insert, Links.setNext, Links.setPrev, hNotHead, hNotNew.2]
          using hJoined.prev
    · simp [Links.addTail, Links.insert, Links.setNext, Links.setPrev]
    · simp [Links.addTail, Links.insert, Links.setNext, Links.setPrev]
    · simp [Links.addTail, Links.insert, Links.setNext, Links.setPrev, hPrev]
    · simp [Links.addTail, Links.insert, Links.setNext, Links.setPrev, hHead.symm]

end Operations

end Ring

end Linked
