import Mathlib.Logic.Function.Basic
import NootedBlue.Semantics.Program

/-! The context status buffer of a command streamer and the function that
drains it. Loads and stores of the status page are single operations on
32-bit words, because the hardware writes the page while the driver reads it. -/
namespace NootedBlue.Csb

open Interaction

/-- The word with which a consumed entry is overwritten. -/
def ones : UInt32 := 0xFFFFFFFF

/-- Number of entries of the ring. -/
def entries : Nat := 6

/-- The context id that stands for an idle engine. -/
def idleId : UInt32 := 0x7FF

/-- The read pointer is kept as this number plus the index. -/
def storedBase : Nat := 0x10

/-- What the driver stores as read pointer in `init`, `resetOnWake` and
`processGPUReset`; the last two also write it to the write pointer. -/
def resetPointer : Nat := 7

structure Entry where
  lo : UInt32
  hi : UInt32
  deriving DecidableEq, Repr

/-- The part of the hardware status page that holds the buffer: entries at
`+0x40`, write pointer at `+0xBC`. -/
structure StatusPage where
  entry : Nat → Entry
  writePointer : Nat

namespace StatusPage

def setLo (page : StatusPage) (index : Nat) (word : UInt32) : StatusPage :=
  { page with entry := Function.update page.entry index { page.entry index with lo := word } }

def setHi (page : StatusPage) (index : Nat) (word : UInt32) : StatusPage :=
  { page with entry := Function.update page.entry index { page.entry index with hi := word } }

end StatusPage

/-- A slot of an execlist as the handlers find it: no work item, a work item
without a context, or a work item whose context carries an id. -/
inductive Item where
  | null
  | noContext
  | context (id : UInt32)
  deriving DecidableEq, Repr

/-- The two execlists at `+0x30` and the index at `+0x50`. -/
structure Execlists where
  item : Fin 2 → Fin 2 → Item
  index : UInt32

namespace Execlists

/-- The low bit of the index selects the active list. -/
def active (lists : Execlists) : Fin 2 := if lists.index &&& 1 = 0 then 0 else 1

/-- `1 - active`, the list that waits for the hardware. -/
def pending (lists : Execlists) : Fin 2 := if lists.index &&& 1 = 0 then 1 else 0

def active0 (lists : Execlists) : Item := lists.item lists.active 0
def active1 (lists : Execlists) : Item := lists.item lists.active 1
def pending0 (lists : Execlists) : Item := lists.item lists.pending 0

end Execlists

def tglCsbItemId : Item → UInt16
  | .null => 0xFFFF
  | .noContext => 0xFFFE
  | .context id => id.toUInt16

/-- The four handlers of the driver, in the order of `csbHandlers`. -/
inductive Action where
  | idleToActive
  | preempted
  | elementSwitch
  | activeToIdle
  deriving DecidableEq, Repr

/-- A Gen8 event: the word of event bits and the word with the context id. -/
structure Synth where
  events : UInt32
  context : UInt32
  deriving DecidableEq, Repr

def Entry.to (entry : Entry) : UInt32 := (entry.lo >>> 15) &&& 0x7FF
def Entry.away (entry : Entry) : UInt32 := (entry.hi >>> 15) &&& 0x7FF
def Entry.detail (entry : Entry) : UInt32 := entry.hi &&& 0xF
def Entry.newQueue (entry : Entry) : Bool := entry.lo &&& 1 ≠ 0

/-- Gen8 event bit for a wait on a semaphore, or else for a complete context. -/
def Entry.waitOrDone (entry : Entry) : UInt32 := if entry.detail = 4 then 0x80 else 0x10

/-- Gen8 event bits of a preemption: lite restore when the context stays. -/
def Entry.preemptFlags (entry : Entry) : UInt32 :=
  if entry.to = entry.away then 0x8000
  else if entry.detail = 0 then 0x10
  else if entry.detail = 4 then 0x80
  else 0

/-- The action an entry asks for, with the event to hand over and whether the
execlists fit it. `none` when neither context id is valid. -/
def Entry.action (entry : Entry) (lists : Execlists) : Option (Action × Synth × Bool) :=
  let active0 := (tglCsbItemId lists.active0).toUInt32
  let active1 := (tglCsbItemId lists.active1).toUInt32
  let pending0 := (tglCsbItemId lists.pending0).toUInt32
  if entry.away = idleId ∧ entry.to = idleId then
    none
  else if entry.away = idleId then
    some (.idleToActive, ⟨0x1, entry.to <<< 5⟩, pending0 = entry.to)
  else if entry.newQueue then
    some (.preempted, ⟨0x2 ||| entry.preemptFlags, entry.away <<< 5⟩,
      active0 = entry.away && pending0 ≠ 0xFFFF)
  else if entry.to ≠ idleId then
    some (.elementSwitch, ⟨0x4 ||| entry.waitOrDone, entry.away <<< 5⟩,
      active0 = entry.away && active1 = entry.to)
  else
    some (.activeToIdle, ⟨0x8 ||| entry.waitOrDone, entry.away <<< 5⟩,
      active0 = entry.away)

/-- Everything the function does to memory it shares with the hardware or
with the driver. -/
inductive Access where
  | pagePresent
  | mmioMode
  | original
  | readWritePointer
  | readStored
  | writeStored (value : Nat)
  | readLo (index : Nat)
  | readHi (index : Nat)
  | writeLo (index : Nat) (word : UInt32)
  | writeHi (index : Nat) (word : UInt32)
  | delay
  | readLists
  | handler (action : Action) (synth : Synth)

/-- What each access returns. -/
@[reducible] def Access.Answer : Access → Type
  | .pagePresent => Bool
  | .mmioMode => Bool
  | .original => Unit
  | .readWritePointer => Nat
  | .readStored => Nat
  | .writeStored _ => Unit
  | .readLo _ => UInt32
  | .readHi _ => UInt32
  | .writeLo _ _ => Unit
  | .writeHi _ _ => Unit
  | .delay => Unit
  | .readLists => Execlists
  | .handler _ _ => Unit

abbrev Code := Program Access Access.Answer

def access (op : Access) : Code op.Answer := Program.perform op

/-- An entry taken from the ring, with the slot it was taken from. The source
returns nothing; the model returns the entries it decoded, in order. -/
structure Decoded where
  index : Nat
  entry : Entry
  deriving DecidableEq, Repr

/-- An entry is visible when neither of its words is all ones. -/
def Entry.visible (entry : Entry) : Bool := entry.lo ≠ ones && entry.hi ≠ ones

/-- Zeros are a page that was never written, ones an entry that was read:
neither is new. -/
def Entry.blank (entry : Entry) : Bool :=
  (entry.lo = 0 && entry.hi = 0) || (entry.lo = ones && entry.hi = ones)

/-- The next slot of the ring after `readPointer`. -/
def nextIndex (readPointer : Nat) : Nat :=
  if readPointer + 1 = entries then 0 else readPointer + 1

/-- Load both words of an entry, low word first. -/
def readEntry (index : Nat) : Code Entry := do
  let lo ← access (.readLo index)
  let hi ← access (.readHi index)
  return ⟨lo, hi⟩

/-- The wait for an entry that the write pointer announced: at most `spins`
further reads, each after a delay of ten microseconds. -/
def awaitEntry (index : Nat) : Nat → Entry → Code Entry
  | 0, entry => return entry
  | spins + 1, entry =>
      if entry.visible then return entry
      else do
        let _ ← access .delay
        let entry ← readEntry index
        awaitEntry index spins entry

/-- Hand an action that fits on to the driver; anything else is skipped. -/
def callHandler : Option (Action × Synth × Bool) → Code Unit
  | some (action, synth, true) => access (.handler action synth)
  | _ => return ()

/-- Decode one entry that was just taken from the ring. -/
def handleEntry (entry : Entry) : Code Unit := do
  let lists ← access .readLists
  callHandler (entry.action lists)

/-- The entry of a slot, after the wait when it is not there yet. -/
def fetchEntry (index : Nat) : Code Entry := do
  let entry ← readEntry index
  awaitEntry index 20 entry

/-- Overwrite the slot, move the stored read pointer and decode the entry. -/
def consumeEntry (index : Nat) (entry : Entry) : Code Unit := do
  let _ ← access (.writeLo index ones)
  let _ ← access (.writeHi index ones)
  let _ ← access (.writeStored (storedBase + index))
  handleEntry entry

/-- The loop of the function. Each iteration moves the read pointer one slot
towards the write pointer, so the fuel is never used up (`drain_fuel`). -/
def drain : Nat → Nat → Nat → Code (List Decoded)
  | 0, _, _ => return []
  | fuel + 1, readPointer, writePointer =>
      if readPointer = writePointer then return []
      else do
        let index := nextIndex readPointer
        let entry ← fetchEntry index
        if entry.visible then do
          let _ ← consumeEntry index entry
          let rest ← drain fuel index writePointer
          return ⟨index, entry⟩ :: rest
        else return []

/-- The slot before the first one to read, from the stored read pointer. After
a reset the next entry is entry 0, unless that one is not new. -/
def startPointer (stored : Nat) : Code (Option Nat) :=
  if storedBase ≤ stored ∧ stored < storedBase + entries then
    return some (stored - storedBase)
  else do
    let entry ← readEntry 0
    if entry.blank then return none else return some (entries - 1)

/-- The loop, unless there is nothing new or the write pointer is no index. -/
def drainFrom (writePointer : Nat) : Option Nat → Code (List Decoded)
  | none => return []
  | some readPointer =>
      if writePointer ≥ entries then return []
      else drain entries readPointer writePointer

/-- The part of the function that reads the buffer through the status page. -/
def processPage : Code (List Decoded) := do
  let writePointer ← access .readWritePointer
  let stored ← access .readStored
  let start ← startPointer stored
  drainFrom writePointer start

/-- `Gen11::wrapProcessContextStatusBuffer`. Without a page, or in MMIO mode,
the driver's own function runs. -/
def wrapProcessContextStatusBuffer : Code (List Decoded) := do
  let present ← access .pagePresent
  let mmio ← access .mmioMode
  if !present || mmio then do
    let _ ← access .original
    return []
  else processPage

/-- The state of one command streamer as the function sees it. `handled` is
the history of the calls made to the driver's handlers. -/
structure Streamer where
  present : Bool
  mmio : Bool
  page : StatusPage
  stored : Nat
  lists : Execlists
  handled : List (Action × Synth)

/-- The driver's own code, which is not part of this repository: its handlers
work on the execlists only, and its own function runs in MMIO mode. -/
structure Driver where
  handler : Action → Synth → Execlists → Execlists
  original : Streamer → Streamer

/-- Each access on a streamer that nothing else changes meanwhile. -/
def Driver.respond (driver : Driver) (s : Streamer) : (op : Access) → op.Answer × Streamer
  | .pagePresent => (s.present, s)
  | .mmioMode => (s.mmio, s)
  | .original => ((), driver.original s)
  | .readWritePointer => (s.page.writePointer, s)
  | .readStored => (s.stored, s)
  | .writeStored value => ((), { s with stored := value })
  | .readLo index => ((s.page.entry index).lo, s)
  | .readHi index => ((s.page.entry index).hi, s)
  | .writeLo index word => ((), { s with page := s.page.setLo index word })
  | .writeHi index word => ((), { s with page := s.page.setHi index word })
  | .delay => ((), s)
  | .readLists => (s.lists, s)
  | .handler action synth =>
      ((), { s with lists := driver.handler action synth s.lists,
                    handled := s.handled ++ [(action, synth)] })

/-- Iterations left when the read pointer still has to reach the write pointer. -/
def distance (readPointer writePointer : Nat) : Nat :=
  (writePointer + entries - readPointer) % entries

theorem distance_nextIndex {readPointer writePointer : Nat} (hRead : readPointer < entries)
    (hWrite : writePointer < entries) (hNe : readPointer ≠ writePointer) :
    distance (nextIndex readPointer) writePointer + 1 = distance readPointer writePointer := by
  unfold distance nextIndex entries at *
  split <;> omega

theorem nextIndex_lt {readPointer : Nat} (hRead : readPointer < entries) :
    nextIndex readPointer < entries := by
  unfold nextIndex entries at *
  split <;> omega

/-- The loop needs only as much fuel as slots lie between the two pointers;
more fuel does not change the program. -/
theorem drain_fuel {fuel readPointer writePointer : Nat} (hRead : readPointer < entries)
    (hWrite : writePointer < entries) (hFuel : distance readPointer writePointer ≤ fuel) :
    drain fuel readPointer writePointer =
      drain (distance readPointer writePointer) readPointer writePointer := by
  induction fuel generalizing readPointer with
  | zero => rw [Nat.le_zero.mp hFuel]
  | succ fuel ih =>
      by_cases hEq : readPointer = writePointer
      · subst hEq
        have hZero : distance readPointer readPointer = 0 := by
          unfold distance entries at *
          omega
        rw [hZero]
        simp [drain]
      · have hStep := distance_nextIndex hRead hWrite hEq
        have hRest := ih (nextIndex_lt hRead) (by omega)
        rw [← hStep]
        simp only [drain, if_neg hEq, hRest]

end NootedBlue.Csb
