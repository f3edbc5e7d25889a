import NootedBlue.Semantics.Run
import NootedBlue.Semantics.Transcript

/-! Programs that take blocks from an allocator and give them back. The allocator
answers as it likes, also with nothing; what is held is told from the transcript. -/
namespace Allocator

open Interaction Transition

inductive AllocOp where
  | malloc (bytes : Nat)
  | free (address bytes : Nat)
  deriving DecidableEq, Repr

abbrev AllocAnswer : AllocOp → Type
  | .malloc _ => Option Nat
  | .free _ _ => Unit

abbrev AllocProgram := Program AllocOp AllocAnswer

abbrev AllocExchange := Exchange AllocAnswer

/-- The blocks that are held, the one that was taken last in front. -/
abbrev Held := List (Nat × Nat)

/-- What is held after an exchange. -/
def heldStep (held : Held) : AllocExchange → Held
  | ⟨.malloc bytes, some address⟩ => (address, bytes) :: held
  | ⟨.malloc _, none⟩ => held
  | ⟨.free address bytes, _⟩ => held.erase (address, bytes)

def heldAfter (held : Held) (transcript : Transcript AllocAnswer) : Held :=
  transcript.foldl heldStep held

/-- A block that is given is not held, and not one of those that are in use anyway. -/
def FreshAt (used : List Nat) (held : Held) : AllocExchange → Prop
  | ⟨.malloc _, some address⟩ => address ∉ held.map Prod.fst ∧ address ∉ used
  | _ => True

/-- A block that is given back is held, with this size. -/
def RightAt (held : Held) : AllocExchange → Prop
  | ⟨.free address bytes, _⟩ => (address, bytes) ∈ held
  | _ => True

/-- The allocator gives out only what is free. -/
def Fresh (used : List Nat) (held : Held) (transcript : Transcript AllocAnswer) : Prop :=
  Along heldStep (FreshAt used) held transcript

/-- A request was refused. -/
def Refused (transcript : Transcript AllocAnswer) : Prop :=
  ∃ bytes, (⟨.malloc bytes, none⟩ : AllocExchange) ∈ transcript

/-- From some blocks to others: every release on the way is right. -/
structure Ledger (held : Held) (transcript : Transcript AllocAnswer) (held' : Held) : Prop where
  after : heldAfter held transcript = held'
  right : Along heldStep RightAt held transcript

section Ledger

variable {held held' held'' : Held} {first second : Transcript AllocAnswer} {used : List Nat}

theorem Ledger.nil (held : Held) : Ledger held [] held := ⟨rfl, trivial⟩

theorem Ledger.append (one : Ledger held first held') (other : Ledger held' second held'') :
    Ledger held (first ++ second) held'' where
  after := by
    rw [heldAfter, List.foldl_append]
    rw [← other.after, ← one.after]
    rfl
  right := by
    rw [along_append]
    refine ⟨one.right, ?_⟩
    have hAfter : first.foldl heldStep held = held' := one.after
    rw [hAfter]
    exact other.right

theorem Ledger.malloc (held : Held) (bytes address : Nat) :
    Ledger held [⟨.malloc bytes, some address⟩] ((address, bytes) :: held) :=
  ⟨rfl, trivial, trivial⟩

theorem Ledger.refused (held : Held) (bytes : Nat) : Ledger held [⟨.malloc bytes, none⟩] held :=
  ⟨rfl, trivial, trivial⟩

/-- The block that was taken last is given back. -/
theorem Ledger.free (held : Held) (address bytes : Nat) :
    Ledger ((address, bytes) :: held) [⟨.free address bytes, ()⟩] held where
  after := List.erase_cons_head ..
  right := ⟨List.mem_cons_self, trivial⟩

theorem fresh_append : Fresh used held (first ++ second) ↔
    Fresh used held first ∧ Fresh used (heldAfter held first) second :=
  along_append held first second

end Ledger

end Allocator
