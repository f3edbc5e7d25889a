import NootedBlue.Vbt.Bounds

/-! Where the video BIOS table is. The ACPI opregion holds it in a mailbox of
its own, or points to a table elsewhere; the structure that keeps the pointers
is in memory that nobody has cleared. -/
namespace NootedBlue.Opregion

open Bytes Vbt

def opregionSize : Nat := 0x2000
def asleOffset : Nat := 0x300
def vbtOffset : Nat := 0x400
def asleExtOffset : Nat := 0x1C00

/-- Bits of `mboxes`. -/
def mboxAsle : Nat := 2
def mboxAsleExt : Nat := 4

/-- Offsets in `struct opregion_header`. -/
def minorOffset : Nat := 22
def majorOffset : Nat := 23
def mboxesOffset : Nat := 88

/-- Offsets in `struct opregion_asle`. -/
def rvdaOffset : Nat := 186
def rvdsOffset : Nat := 194

/-- What the setup is given from outside: the ASLS register, and the contents
of physical memory where the kernel can map it. -/
structure Firmware where
  asls : Nat
  map : (address length : Nat) → Option Memory

/-- The two fields of the ASLE mailbox that point to a VBT elsewhere. -/
structure Rvda where
  rvda : Nat
  rvds : Nat
  deriving DecidableEq

/-- What the memory of `struct intel_opregion` held before: what is found
behind its `asle` pointer unless that is null, and whether its `vbt` pointer
is null. -/
structure Stale where
  asle : Option Rvda
  vbtSet : Bool

/-- A VBT and the size that goes with it. -/
structure Table where
  memory : Memory
  size : Nat

def mboxes (opregion : Memory) : Nat := u32 opregion mboxesOffset

/-- The ASLE mailbox, if it is there; otherwise whatever the pointer held. -/
def asle (opregion : Memory) (stale : Stale) : Option Rvda :=
  if (mboxes opregion).testBit mboxAsle then
    some ⟨u64 opregion (asleOffset + rvdaOffset), u32 opregion (asleOffset + rvdsOffset)⟩
  else stale.asle

/-- The VBT elsewhere. Its address is relative to the opregion from version
2.1 on. -/
def rvdaTable (firmware : Firmware) (opregion : Memory) (stale : Stale) : Option Table :=
  let major := u8 opregion majorOffset
  let minor := u8 opregion minorOffset
  match asle opregion stale with
  | none => none
  | some pointer =>
      if major ≥ 2 ∧ pointer.rvda ≠ 0 ∧ pointer.rvds ≠ 0 then
        let address :=
          if major > 2 ∨ minor ≥ 1 then (pointer.rvda + firmware.asls) % 2 ^ 64 else pointer.rvda
        (firmware.map address pointer.rvds).map (⟨·, pointer.rvds⟩)
      else none

/-- The VBT in the opregion itself, up to the ASLE extension if there is one. -/
def mailboxTable (opregion : Memory) : Table where
  memory i := opregion (vbtOffset + i)
  size := (if (mboxes opregion).testBit mboxAsleExt then asleExtOffset else opregionSize) - vbtOffset

/-- The part of `intel_opregion_setup` that finds the VBT. Nothing is found
when there is none elsewhere and the `vbt` pointer was not null before. -/
def locateVbt (firmware : Firmware) (opregion : Memory) (stale : Stale) : Option Table :=
  match rvdaTable firmware opregion stale with
  | some table => some table
  | none => if stale.vbtSet then none else some (mailboxTable opregion)

end NootedBlue.Opregion
