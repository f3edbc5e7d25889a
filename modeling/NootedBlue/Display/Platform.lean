import Mathlib.Data.Nat.Bitwise

/-! The display engines that the driver knows, and the power states it allows
on them. -/
namespace NootedBlue.Display

/-- What the driver asks about a display engine: `DISPLAY_VER` and the bits of
`struct intel_display_platforms`. -/
structure DisplayInfo where
  ver : Nat
  g4x : Bool := false
  geminilake : Bool := false
  broxton : Bool := false
  dg1 : Bool := false
  dg2 : Bool := false
  rocketlake : Bool := false
  alderlakeS : Bool := false
  deriving DecidableEq, Repr

/-- The platforms of the tables `intel_platform_ids` and `intel_display_ids`,
which list the same devices. -/
inductive Platform where
  | tigerlake
  | rocketlake
  | alderlakeS
  | alderlakeP
  deriving DecidableEq, Repr

namespace Platform

/-- The PCI device ids of a platform. -/
def ids : Platform → List Nat
  | tigerlake =>
      [0x9A60, 0x9A68, 0x9A70, 0x9A40, 0x9A49, 0x9A59, 0x9A78, 0x9AC0, 0x9AC9, 0x9AD9, 0x9AF8]
  | rocketlake => [0x4C80, 0x4C8A, 0x4C8B, 0x4C8C, 0x4C90, 0x4C9A]
  | alderlakeS =>
      [0x4680, 0x4682, 0x4688, 0x468A, 0x468B, 0x4690, 0x4692, 0x4693,
        0xA780, 0xA781, 0xA782, 0xA783, 0xA788, 0xA789, 0xA78A, 0xA78B]
  | alderlakeP =>
      [0x46A0, 0x46A1, 0x46A2, 0x46A3, 0x46A6, 0x46A8, 0x46AA, 0x462A, 0x4626, 0x4628,
        0x46B0, 0x46B1, 0x46B2, 0x46B3, 0x46C0, 0x46C1, 0x46C2, 0x46C3,
        0x46D0, 0x46D1, 0x46D2, 0x46D3, 0x46D4,
        0xA721, 0xA7A1, 0xA7A9, 0xA7AC, 0xA7AD, 0xA720, 0xA7A0, 0xA7A8, 0xA7AA, 0xA7AB]

def info : Platform → DisplayInfo
  | tigerlake => { ver := 12 }
  | rocketlake => { ver := 12, rocketlake := true }
  | alderlakeS => { ver := 12, alderlakeS := true }
  | alderlakeP => { ver := 13 }

theorem ver_ge (platform : Platform) : 12 ≤ platform.info.ver := by
  cases platform <;> decide

end Platform

/-- `find_platform_desc`. -/
def findPlatformDesc (deviceId : Nat) : Option Platform :=
  [Platform.tigerlake, .rocketlake, .alderlakeS, .alderlakeP].find? (·.ids.contains deviceId)

/-- Bits of `DC_STATE_EN`. -/
def dcStateEnUptoDc5 : Nat := 1
def dcStateEnUptoDc6 : Nat := 2
def dcStateEnDc9 : Nat := 8
def dcStateEnDc3co : Nat := 0x40000000

/-- The deepest state that `get_allowed_dc_mask` grants an engine. -/
def maxDc (info : DisplayInfo) : Int :=
  if info.ver ≥ 20 then 2
  else if info.dg2 then 1
  else if info.dg1 then 3
  else if info.ver ≥ 12 then 4
  else if info.geminilake || info.broxton then 1
  else if info.ver ≥ 9 then 2
  else 0

/-- What is asked for, cut down to what is granted. -/
def requestedDc (info : DisplayInfo) (enableDc : Int) : Int :=
  if 0 ≤ enableDc ∧ enableDc ≤ maxDc info then enableDc else maxDc info

/-- `get_allowed_dc_mask`. -/
def getAllowedDcMask (info : DisplayInfo) (enableDc : Int) : Nat :=
  let mask := if info.geminilake || info.broxton || info.ver ≥ 11 then dcStateEnDc9 else 0
  match requestedDc info enableDc with
  | 4 => mask ||| (dcStateEnDc3co ||| dcStateEnUptoDc6)
  | 3 => mask ||| (dcStateEnDc3co ||| dcStateEnUptoDc5)
  | 2 => mask ||| dcStateEnUptoDc6
  | 1 => mask ||| dcStateEnUptoDc5
  | _ => mask

end NootedBlue.Display
