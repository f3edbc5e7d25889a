import NootedBlue.Opregion.Locate
import NootedBlue.Vbt.Panel

/-! The whole of `intel_opregion_setup`: the checks of the opregion, the probe
of the display engine and the parsers of the VBT, all of them working on
structures that come from the allocator as they are. -/
namespace NootedBlue.Opregion

open Bytes Vbt Display

/-- What the structures held when they were allocated: the opregion pointers,
the copies of the blocks, the description of the display engine, the `dsc`
pointer of each child device, the panel and the mode, and the variables about
port A. -/
structure Garbage where
  opregion : Stale
  blocks : Fresh
  info : DisplayInfo
  dsc : Nat → Bool
  panel : PanelSettings
  lfpVbtMode : Pointer Mode
  mode : Mode
  hpdPin : Nat
  child0 : Pointer Child
  port0 : Nat
  phy0 : Nat
  pipe0 : Nat

/-- The state of the ports when `parse_ddi_ports` starts: the connectors have
been reset. -/
def Garbage.ports (garbage : Garbage) : Ports where
  connectors _ := .unused
  beyond := []
  portA := {
    hpdPin := .stale garbage.hpdPin
    child0 := .stale garbage.child0
    port0 := .stale garbage.port0
    phy0 := .stale garbage.phy0
    pipe0 := .stale garbage.pipe0 }

def Garbage.initialPanel (garbage : Garbage) : Panel where
  toPanelSettings := garbage.panel
  lfpVbtMode := .stale garbage.lfpVbtMode

/-- What the probe and the parsers leave in `struct intel_display`. -/
structure IntelDisplay where
  version : Nat
  blocks : List BlockEntry
  devices : List Device
  ports : Ports
  outputReg : Nat
  cpuTranscoder : Nat
  panel : Panel
  laneCount : Int
  dither : Bool
  adjustedMode : Mode

/-- What `i915b` points to. The parsers have not run on every structure that
is there. -/
structure I915 where
  allowedDcMask : Nat
  display : Option IntelDisplay

/-- Why a call does not return: it goes through a pointer that leads nowhere,
or it is still looking for the end of the blocks. -/
inductive Halt where
  | fault
  | walking
  deriving DecidableEq

/-- `DDI_BUF_CTL`. -/
def ddiBufCtl (port : Nat) : Nat := (0x64000 + port * 0x100) % 2 ^ 32

/-- The copy of the mode behind `lfp_vbt_mode`, if there is anything to copy. -/
def copyMode : Slot (Pointer Mode) Mode → Option Mode
  | .written mode => some mode
  | .stale (.target mode) => some mode
  | .stale _ => none

/-- The part of the setup that works on the VBT. No engine of the platform
tables has the transcoder `TRANSCODER_EDP`, so the pipe is taken. -/
def parseVbt (fuel : Nat) (info : DisplayInfo) (garbage : Garbage) (table : Table) :
    Except Halt IntelDisplay :=
  match (readVbt fuel garbage.blocks).run.answer table.memory with
  | none => .error .walking
  | some (version, blocks) =>
      let devices :=
        parseCompressionParameters version blocks (parseGeneralDefinitions blocks garbage.dsc)
      let ports := parseDdiPorts info devices garbage.ports
      let panel := parsePanel version info blocks garbage.mode garbage.initialPanel
      match copyMode panel.lfpVbtMode with
      | none => .error .fault
      | some adjustedMode =>
          .ok {
            version
            blocks
            devices
            ports
            outputReg := ddiBufCtl ports.portA.port0.value
            cpuTranscoder := ports.portA.pipe0.value
            panel
            laneCount := panel.edp.lanes
            dither := panel.lvdsDither
            adjustedMode }

/-- What a parse that comes to its end has done. -/
structure Parsed (fuel : Nat) (info : DisplayInfo) (garbage : Garbage) (table : Table)
    (display : IntelDisplay) : Prop where
  blocks : (readVbt fuel garbage.blocks).run.answer table.memory =
    some (display.version, display.blocks)
  devices : display.devices = parseCompressionParameters display.version display.blocks
    (parseGeneralDefinitions display.blocks garbage.dsc)
  ports : display.ports = parseDdiPorts info display.devices garbage.ports
  outputReg : display.outputReg = ddiBufCtl display.ports.portA.port0.value
  panel : display.panel =
    parsePanel display.version info display.blocks garbage.mode garbage.initialPanel
  copied : copyMode display.panel.lfpVbtMode = some display.adjustedMode

theorem parsed_of_parseVbt {fuel : Nat} {info : DisplayInfo} {garbage : Garbage} {table : Table}
    {display : IntelDisplay} (h : parseVbt fuel info garbage table = .ok display) :
    Parsed fuel info garbage table display := by
  unfold parseVbt at h
  split at h
  · cases h
  · next hRead =>
      dsimp only at h
      split at h
      · cases h
      · next hCopy =>
          cases h
          exact ⟨hRead, rfl, rfl, rfl, rfl, hCopy⟩

def enomem : Int := -12
def einval : Int := -22

/-- `OPREGION_SIGNATURE`, "IntelGraphicsMem". -/
def opregionSignature : List UInt8 :=
  [0x49, 0x6E, 0x74, 0x65, 0x6C, 0x47, 0x72, 0x61, 0x70, 0x68, 0x69, 0x63, 0x73, 0x4D, 0x65, 0x6D]

def Signed (opregion : Memory) : Prop := (List.range 16).map opregion = opregionSignature

instance (opregion : Memory) : Decidable (Signed opregion) :=
  inferInstanceAs (Decidable ((List.range 16).map opregion = opregionSignature))

/-- The setup of a structure that was not there before. The mask is computed
before the probe has filled in the description of the engine. A device that is
in no table leaves a local pointer unset that is then followed. -/
def setup (fuel deviceId : Nat) (firmware : Firmware) (garbage : Garbage) :
    Except Halt (Int × I915) :=
  match findPlatformDesc deviceId with
  | none => .error .fault
  | some platform =>
      let allowedDcMask := getAllowedDcMask garbage.info 1
      if firmware.asls = 0 then .ok (enomem, ⟨allowedDcMask, none⟩)
      else
        match firmware.map firmware.asls opregionSize with
        | none => .error .fault
        | some opregion =>
            if Signed opregion then
              match locateVbt firmware opregion garbage.opregion with
              | none => .ok (0, ⟨allowedDcMask, none⟩)
              | some table =>
                  match parseVbt fuel platform.info garbage table with
                  | .error halt => .error halt
                  | .ok display => .ok (0, ⟨allowedDcMask, some display⟩)
            else .ok (einval, ⟨allowedDcMask, none⟩)

/-- How a setup that returns has gone. -/
inductive SetUp (fuel deviceId : Nat) (firmware : Firmware) (garbage : Garbage) :
    Int → I915 → Prop where
  | noAsls {platform : Platform} (known : findPlatformDesc deviceId = some platform)
      (asls : firmware.asls = 0) :
      SetUp fuel deviceId firmware garbage enomem ⟨getAllowedDcMask garbage.info 1, none⟩
  | unsigned {platform : Platform} (known : findPlatformDesc deviceId = some platform)
      (asls : firmware.asls ≠ 0) {opregion : Memory}
      (mapped : firmware.map firmware.asls opregionSize = some opregion)
      (signature : ¬ Signed opregion) :
      SetUp fuel deviceId firmware garbage einval ⟨getAllowedDcMask garbage.info 1, none⟩
  | noVbt {platform : Platform} (known : findPlatformDesc deviceId = some platform)
      (asls : firmware.asls ≠ 0) {opregion : Memory}
      (mapped : firmware.map firmware.asls opregionSize = some opregion)
      (signature : Signed opregion)
      (located : locateVbt firmware opregion garbage.opregion = none) :
      SetUp fuel deviceId firmware garbage 0 ⟨getAllowedDcMask garbage.info 1, none⟩
  | parsed {platform : Platform} (known : findPlatformDesc deviceId = some platform)
      (asls : firmware.asls ≠ 0) {opregion : Memory}
      (mapped : firmware.map firmware.asls opregionSize = some opregion)
      (signature : Signed opregion) {table : Table}
      (located : locateVbt firmware opregion garbage.opregion = some table) {display : IntelDisplay}
      (parse : parseVbt fuel platform.info garbage table = .ok display) :
      SetUp fuel deviceId firmware garbage 0 ⟨getAllowedDcMask garbage.info 1, some display⟩

theorem setup_eq_ok_iff {fuel deviceId : Nat} {firmware : Firmware} {garbage : Garbage}
    {err : Int} {i915 : I915} :
    setup fuel deviceId firmware garbage = .ok (err, i915) ↔
      SetUp fuel deviceId firmware garbage err i915 := by
  constructor
  · intro h
    unfold setup at h
    split at h
    · cases h
    · next known =>
        split at h
        · next asls =>
            cases h
            exact .noAsls known asls
        · next asls =>
            split at h
            · cases h
            · next mapped =>
                split at h
                · next signature =>
                    split at h
                    · next located =>
                        cases h
                        exact .noVbt known asls mapped signature located
                    · next located =>
                        split at h
                        · cases h
                        · next parse =>
                            cases h
                            exact .parsed known asls mapped signature located parse
                · next signature =>
                    cases h
                    exact .unsigned known asls mapped signature
  · intro h
    cases h with
    | noAsls known asls => simp [setup, known, asls]
    | unsigned known asls mapped signature => simp [setup, known, asls, mapped, signature]
    | noVbt known asls mapped signature located =>
        simp [setup, known, asls, mapped, signature, located]
    | parsed known asls mapped signature located parse =>
        simp [setup, known, asls, mapped, signature, located, parse]

/-- `intel_opregion_setup`: a structure that is there already is taken as it
is. -/
def intelOpregionSetup (fuel deviceId : Nat) (firmware : Firmware) (garbage : Garbage) :
    Option I915 → Except Halt (Int × I915)
  | some i915 => .ok (0, i915)
  | none => setup fuel deviceId firmware garbage

end NootedBlue.Opregion
