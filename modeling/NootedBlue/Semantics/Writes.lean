import Mathlib.Data.List.Induction
import Mathlib.Logic.Function.Basic

/-! A memory that is changed by a list of writes. Where several go to one
address, the last one stays. -/
namespace Writes

variable {Address Value : Type} [DecidableEq Address]

abbrev Write (Address Value : Type) := Address × Value

/-- Perform the writes in their order. -/
def perform (writes : List (Write Address Value)) (memory : Address → Value) : Address → Value :=
  writes.foldl (fun memory write => Function.update memory write.1 write.2) memory

variable {writes first second : List (Write Address Value)} {memory : Address → Value}
  {address : Address} {value : Value}

@[simp] theorem perform_nil : perform [] memory = memory := rfl

theorem perform_append (first second : List (Write Address Value)) (memory : Address → Value) :
    perform (first ++ second) memory = perform second (perform first memory) :=
  List.foldl_append

theorem perform_concat (write : Write Address Value) :
    perform (writes ++ [write]) memory =
      Function.update (perform writes memory) write.1 write.2 := by
  rw [perform_append]
  rfl

/-- An address that nothing is written to keeps its value. -/
theorem perform_of_untouched (h : ∀ write ∈ writes, write.1 ≠ address) :
    perform writes memory address = memory address := by
  induction writes using List.reverseRecOn with
  | nil => rfl
  | append_singleton writes last ih =>
      have hLast := h last (List.mem_append_right _ List.mem_cons_self)
      rw [perform_concat, Function.update_of_ne hLast.symm]
      exact ih fun write hMem => h write (List.mem_append_left _ hMem)

/-- The last write to an address stays. -/
theorem perform_of_last (h : ∀ write ∈ second, write.1 ≠ address) :
    perform (first ++ (address, value) :: second) memory address = value := by
  have hSplit : first ++ (address, value) :: second = first ++ [(address, value)] ++ second := by
    simp
  rw [hSplit, perform_append, perform_of_untouched h, perform_concat, Function.update_self]

/-- Writes to an address that agree leave what they agree on. -/
theorem perform_of_agree (hMem : (address, value) ∈ writes)
    (hAgree : ∀ write ∈ writes, write.1 = address → write.2 = value) :
    perform writes memory address = value := by
  induction writes using List.reverseRecOn with
  | nil => simp at hMem
  | append_singleton writes last ih =>
      rw [perform_concat]
      by_cases hLast : last.1 = address
      · rw [← hLast, Function.update_self]
        exact hAgree last (List.mem_append_right _ List.mem_cons_self) hLast
      · rw [Function.update_of_ne (Ne.symm hLast)]
        apply ih
        · rcases List.mem_append.mp hMem with hBefore | hEq
          · exact hBefore
          · simp only [List.mem_singleton] at hEq
            exact absurd (by rw [← hEq]) hLast
        · exact fun write hWrite => hAgree write (List.mem_append_left _ hWrite)

/-- A value that no write contradicts stays. -/
theorem perform_of_uncontradicted (hMemory : memory address = value)
    (hAgree : ∀ write ∈ writes, write.1 = address → write.2 = value) :
    perform writes memory address = value := by
  by_cases hWritten : ∃ write ∈ writes, write.1 = address
  · obtain ⟨write, hMem, rfl⟩ := hWritten
    obtain rfl := hAgree write hMem rfl
    exact perform_of_agree hMem hAgree
  · rw [perform_of_untouched fun write hMem hEq => hWritten ⟨write, hMem, hEq⟩]
    exact hMemory

/-- Everything that was written is read back just when writes to one address agree. -/
theorem perform_readback_iff (writes : List (Write Address Value)) (memory : Address → Value) :
    (∀ write ∈ writes, perform writes memory write.1 = write.2) ↔
      ∀ one ∈ writes, ∀ other ∈ writes, one.1 = other.1 → one.2 = other.2 := by
  constructor
  · intro hBack one hOne other hOther hEq
    rw [← hBack one hOne, ← hBack other hOther, hEq]
  · intro hAgree write hMem
    exact perform_of_agree hMem fun other hOther hEq => hAgree other hOther write hMem hEq

end Writes
