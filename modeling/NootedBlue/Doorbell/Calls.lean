import NootedBlue.Doorbell.Ids

/-! How a context gets a doorbell and gives it back. An id is taken in the bitmap, in
the table of owners, in the context and in the descriptor that the GuC reads. -/
namespace NootedBlue.Doorbell

open Bitmap

/-- The bitmap and the bank that was searched last, the table of owners, the field
`status` of each context, for each `host_private` the address of its descriptor, and the
words in memory. A descriptor begins with the field `addr`. -/
structure DoorbellState (Ctx : Type) where
  bitmap : Words
  bank : BitVec 8
  owner : Nat → Option Ctx
  status : Ctx → Word
  desc : Nat → BitVec 64
  memory : BitVec 64 → Word

/-- What `stealDoorbellId` does with a table of owners: it names an id that is owned, or
fails. -/
structure Steal (Ctx : Type) where
  choose : (Nat → Option Ctx) → Nat
  valid : ∀ owner, choose owner = 0x100 ∨ choose owner < 256 ∧ owner (choose owner) ≠ none

/-- The GuC has accepted the doorbell. -/
def Accepts (resp : Word) : Prop := resp >>> 22 &&& 1 ≠ 0

instance (resp : Word) : Decidable (Accepts resp) := inferInstanceAs (Decidable (_ ≠ _))

/-- The state after `acquireDoorbell2`, the id that it returns, and the one that the GuC
was asked for. -/
structure AcquireResult (Ctx : Type) where
  state : DoorbellState Ctx
  returned : BitVec 16
  asked : Option Nat

section Calls

variable {Ctx : Type} [DecidableEq Ctx] (layout : DoorbellLayout) (hostPrivate : Ctx → Nat)

/-- `releaseDoorbell2`. After the last slot of the table the object has the numbers of ids
and banks, so a call that writes there has no meaning. -/
def releaseDoorbell2 (state : DoorbellState Ctx) (ctx : Ctx) : Option (DoorbellState Ctx) :=
  let slot := (state.status ctx &&& 0xffff).toNat
  if slot ≥ 256 then none
  else
    some { state with
      memory := Function.update state.memory (state.desc (hostPrivate ctx)) 0
      bitmap := clear state.bitmap (placeAt layout.per slot)
      owner := Function.update state.owner slot none
      status := Function.update state.status ctx 0x100 }

/-- The second part of `acquireDoorbell2`, with the id that was found. The descriptor
moves to where the GuC says. -/
def askGuc (state : DoorbellState Ctx) (ctx : Ctx) (ctbDesc : BitVec 64) (id : Nat)
    (resp : Word) : AcquireResult Ctx :=
  let state := { state with
    status := Function.update state.status ctx (.ofNat 32 id)
    memory := Function.update (Function.update state.memory ctbDesc 1) (ctbDesc + 4) 0 }
  let state :=
    if Accepts resp then
      let off := resp >>> 10 &&& 0xFC0
      { state with
        owner := Function.update state.owner id (some ctx)
        desc := Function.update state.desc (hostPrivate ctx)
          (ctbDesc + 44 + (off.setWidth 64 - 0x30)) }
    else { state with memory := Function.update state.memory ctbDesc 0 }
  ⟨state, .ofNat 16 id, some id⟩

/-- `acquireDoorbell2`. Where no id can be stolen, the slot after the table is read before
the test, and what is found there is taken for a context. -/
def acquireDoorbell2 (state : DoorbellState Ctx) (ctx : Ctx) (steal : Steal Ctx) (resp : Word) :
    Option (AcquireResult Ctx) :=
  let ctbDesc := state.desc (hostPrivate ctx)
  if state.memory ctbDesc ≠ 0 then some ⟨state, (state.status ctx).setWidth 16, none⟩
  else
    let search := allocDoorbellId layout.per layout.numBanks ⟨state.bitmap, state.bank⟩
    let state := { state with bitmap := search.state.bitmap, bank := search.state.bank }
    if search.id ≠ 0x100 then some (askGuc hostPrivate state ctx ctbDesc search.id resp)
    else
      let id := steal.choose state.owner
      if id ≥ 256 then none
      else
        let released :=
          match state.owner id with
          | some victim => releaseDoorbell2 layout hostPrivate state victim
          | none => some state
        released.map fun state =>
          askGuc hostPrivate { state with bitmap := set state.bitmap (placeAt layout.per id) } ctx
            ctbDesc id resp

end Calls

/-- A call of one of the two, with what the rest of the system answers in it. -/
inductive DoorbellEvent (Ctx : Type) where
  | acquire (ctx : Ctx) (steal : Steal Ctx) (resp : Word)
  | release (ctx : Ctx)

section Run

variable {Ctx : Type} [DecidableEq Ctx] (layout : DoorbellLayout) (hostPrivate : Ctx → Nat)

/-- The state after a call, if the call has a meaning. -/
def doorbellStep (state : DoorbellState Ctx) : DoorbellEvent Ctx → Option (DoorbellState Ctx)
  | .acquire ctx steal resp =>
      (acquireDoorbell2 layout hostPrivate state ctx steal resp).map (·.state)
  | .release ctx => releaseDoorbell2 layout hostPrivate state ctx

def doorbellNext (state : DoorbellState Ctx) (event : DoorbellEvent Ctx) : DoorbellState Ctx :=
  (doorbellStep layout hostPrivate state event).getD state

end Run

end NootedBlue.Doorbell
