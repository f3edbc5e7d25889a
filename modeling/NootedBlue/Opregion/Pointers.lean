import NootedBlue.Opregion.Calls

/-! The pointers that the setup and the code behind it follow without a check:
the mode that is copied into the state of the pipe, and the device on port A. -/
namespace NootedBlue.Opregion

open Bytes Vbt Display

/-- `DDI_PORT_WIDTH`. -/
def ddiPortWidth (width : Int) : Nat :=
  ((if width = 3 then 4 else width - 1) * 2 % 2 ^ 4).toNat

/-- Bits of `DDI_BUF_CTL`. -/
def ddiBufPortReversal : Nat := 2 ^ 16

/-- The child device behind `child0`, if anything is there. -/
def readChild0 : Slot (Pointer Child) Child → Option Child
  | .written child => some child
  | .stale (.target child) => some child
  | .stale _ => none

/-- The value of `DDI_BUF_CTL` for a number of lanes. -/
def dpBufReg (lanes : Int) (reversed : Bool) : Nat :=
  if reversed then ddiPortWidth lanes ||| ddiBufPortReversal else ddiPortWidth lanes

/-- `intel_ddi_init_dp_buf_reg` on a display engine of version 11 or later,
with the value of `DDI_BUF_CTL` that it reads. -/
def intelDdiInitDpBufReg (display : IntelDisplay) (ddiBufCtl : Nat) : Except Halt Nat :=
  match readChild0 display.ports.portA.child0 with
  | none => .error .fault
  | some child =>
      .ok (dpBufReg display.panel.edp.lanes (child.laneReversal || ddiBufCtl.testBit 16))

/-- The pointers of a full structure come from the VBT: the mode was stored by
a parser before it was copied, and port A was set from one of the child
devices, which is the one that is later asked for its lanes. Nothing was
written behind the connectors, where it could have hit these variables. -/
structure Established (info : DisplayInfo) (display : IntelDisplay) : Prop where
  mode : display.panel.lfpVbtMode = .written display.adjustedMode
  portA : ∃ device ∈ display.devices, intelBiosEncoderPort info device.child = some .a ∧
    display.ports.portA = .ofChild info device.child ∧
    ∀ ddiBufCtl, intelDdiInitDpBufReg display ddiBufCtl = .ok
      (dpBufReg display.panel.edp.lanes (device.child.laneReversal || ddiBufCtl.testBit 16))
  outputReg : display.outputReg = ddiBufCtl Port.a.code
  within : display.ports.beyond = []

/-- The structure is full and its pointers are established. -/
def PointersEstablished (deviceId : Nat) (i915 : I915) : Prop :=
  ∃ platform display, findPlatformDesc deviceId = some platform ∧ i915.display = some display ∧
    Established platform.info display

/-- Blocks that leave no pointer unset: they have a timing for the panel, a
device on port A and none on a port without connector. The timings of panel
data count only if the mode pointer was null before. -/
structure Provides (info : DisplayInfo) (garbage : Garbage) (version : Nat)
    (blocks : List BlockEntry) : Prop where
  timing : UsesGenericDtd version blocks (panelTypeOf blocks garbage.panel.panelType) ∨
    garbage.lfpVbtMode = .null ∧ HasPanelData blocks
  onPortA : ∃ device ∈ parseGeneralDefinitions blocks garbage.dsc,
    intelBiosEncoderPort info device.child = some .a
  connected : ∀ device ∈ parseGeneralDefinitions blocks garbage.dsc,
    ∀ port, intelBiosEncoderPort info device.child = some port → port.code < 6

/-- The setup finds a VBT whose blocks provide everything. -/
def FindsPointers (fuel deviceId : Nat) (firmware : Firmware) (garbage : Garbage) : Prop :=
  ∃ platform opregion table version blocks, findPlatformDesc deviceId = some platform ∧
    firmware.map firmware.asls opregionSize = some opregion ∧
    locateVbt firmware opregion garbage.opregion = some table ∧
    (readVbt fuel garbage.blocks).run.answer table.memory = some (version, blocks) ∧
    Provides platform.info garbage version blocks

section Parsed

variable {fuel : Nat} {info : DisplayInfo} {garbage : Garbage} {table : Table}
  {display : IntelDisplay}

/-- The mode is a stored one exactly when there is a timing for it. -/
theorem Parsed.mode_iff (parsed : Parsed fuel info garbage table display) :
    display.panel.lfpVbtMode = .written display.adjustedMode ↔
      UsesGenericDtd display.version display.blocks
          (panelTypeOf display.blocks garbage.panel.panelType) ∨
        garbage.lfpVbtMode = .null ∧ HasPanelData display.blocks := by
  have hCopied := parsed.copied
  rw [parsed.panel, parsePanel_lfpVbtMode] at hCopied ⊢
  have hOld : (parsePanelOptions display.blocks garbage.initialPanel).lfpVbtMode =
      .stale garbage.lfpVbtMode := parsePanelOptions_lfpVbtMode ..
  have hType := parsePanelOptions_panelType display.blocks garbage.initialPanel
  have hCases := mode_cases display.version display.blocks garbage.mode hOld
  rw [hType] at hCases
  cases hCases with
  | inl hStored =>
      obtain ⟨hTiming, mode, hMode⟩ := hStored
      refine iff_of_true ?_ hTiming
      rw [hMode] at hCopied ⊢
      exact congrArg Slot.written (Option.some.inj hCopied)
  | inr hStale =>
      refine iff_of_false ?_ hStale.1
      rw [hStale.2]
      intro hWritten
      cases hWritten

theorem Parsed.children (parsed : Parsed fuel info garbage table display) :
    display.devices.map (·.child) =
      (parseGeneralDefinitions display.blocks garbage.dsc).map (·.child) := by
  rw [parsed.devices, parseCompressionParameters_child]

theorem Parsed.ports_eq (parsed : Parsed fuel info garbage table display) (hVer : 5 ≤ info.ver) :
    display.ports =
      (display.devices.map (·.child)).foldl (printDdiPort info) garbage.ports := by
  rw [parsed.ports, parseDdiPorts_eq hVer]

theorem Parsed.within_iff (parsed : Parsed fuel info garbage table display) (hVer : 5 ≤ info.ver) :
    display.ports.beyond = [] ↔ ∀ device ∈ parseGeneralDefinitions display.blocks garbage.dsc,
      ∀ port, intelBiosEncoderPort info device.child = some port → port.code < 6 := by
  rw [parsed.ports_eq hVer, beyond_iff, parsed.children, List.forall_mem_map]
  exact and_iff_right rfl

theorem intelDdiInitDpBufReg_of_portA {child : Child}
    (h : display.ports.portA = .ofChild info child) (ddiBufCtl : Nat) :
    intelDdiInitDpBufReg display ddiBufCtl =
      .ok (dpBufReg display.panel.edp.lanes (child.laneReversal || ddiBufCtl.testBit 16)) := by
  rw [intelDdiInitDpBufReg, h]
  rfl

/-- Port A is set from a child device, and read as such later on, exactly when
there is one. -/
theorem Parsed.portA_iff (parsed : Parsed fuel info garbage table display) (hVer : 5 ≤ info.ver) :
    (∃ device ∈ display.devices, intelBiosEncoderPort info device.child = some .a ∧
        display.ports.portA = .ofChild info device.child) ↔
      ∃ device ∈ parseGeneralDefinitions display.blocks garbage.dsc,
        intelBiosEncoderPort info device.child = some .a := by
  have hMem : ∀ child, child ∈ display.devices.map (·.child) ↔
      child ∈ (parseGeneralDefinitions display.blocks garbage.dsc).map (·.child) := by
    intro child
    rw [parsed.children]
  constructor
  · intro ⟨device, hDevice, hPort, _⟩
    obtain ⟨other, hOther, hSame⟩ := List.mem_map.mp
      ((hMem device.child).mp (List.mem_map_of_mem hDevice))
    exact ⟨other, hOther, hSame ▸ hPort⟩
  · intro ⟨device, hDevice, hPort⟩
    have hChild := (hMem device.child).mpr (List.mem_map_of_mem hDevice)
    rw [parsed.ports_eq hVer]
    cases portA_cases info garbage.ports (display.devices.map (·.child)) with
    | inl hSet =>
        obtain ⟨child, hSet, hA, hPortA⟩ := hSet
        obtain ⟨other, hOther, rfl⟩ := List.mem_map.mp hSet
        exact ⟨other, hOther, hA, hPortA⟩
    | inr hNone => exact absurd hPort (hNone.1 device.child hChild)

/-- The pointers are established exactly when the blocks provide them. -/
theorem Parsed.established_iff (parsed : Parsed fuel info garbage table display)
    (hVer : 5 ≤ info.ver) :
    Established info display ↔ Provides info garbage display.version display.blocks := by
  constructor
  · intro established
    obtain ⟨device, hDevice, hPort, hPortA, -⟩ := established.portA
    exact {
      timing := parsed.mode_iff.mp established.mode
      onPortA := (parsed.portA_iff hVer).mp ⟨device, hDevice, hPort, hPortA⟩
      connected := (parsed.within_iff hVer).mp established.within }
  · intro provides
    obtain ⟨device, hDevice, hPort, hPortA⟩ := (parsed.portA_iff hVer).mpr provides.onPortA
    exact {
      mode := parsed.mode_iff.mpr provides.timing
      portA := ⟨device, hDevice, hPort, hPortA, intelDdiInitDpBufReg_of_portA hPortA⟩
      outputReg := by rw [parsed.outputReg, hPortA]; rfl
      within := (parsed.within_iff hVer).mpr provides.connected }

end Parsed

/-- After a call that returns zero, the pointers are established exactly when
a VBT was found and its blocks provide them. -/
theorem pointers_established_iff {fuel deviceId : Nat} {firmware : Firmware} {garbage : Garbage}
    {i915 : I915} (h : intelOpregionSetup fuel deviceId firmware garbage none = .ok (0, i915)) :
    PointersEstablished deviceId i915 ↔ FindsPointers fuel deviceId firmware garbage := by
  cases setup_eq_ok_iff.mp h with
  | noVbt known asls mapped signature located =>
      refine iff_of_false ?_ ?_
      · intro ⟨_, _, _, hDisplay, _⟩
        cases hDisplay
      · intro ⟨_, opregion, _, _, _, _, hMapped, hLocated, _⟩
        cases mapped.symm.trans hMapped
        cases located.symm.trans hLocated
  | @parsed platform known asls opregion mapped signature table located display parse =>
      have parsed := parsed_of_parseVbt parse
      have hVer : 5 ≤ platform.info.ver := Nat.le_trans (by decide) platform.ver_ge
      constructor
      · intro ⟨_, _, hKnown, hDisplay, established⟩
        cases known.symm.trans hKnown
        cases hDisplay
        exact ⟨_, _, _, _, _, known, mapped, located, parsed.blocks,
          (parsed.established_iff hVer).mp established⟩
      · intro ⟨_, _, _, _, _, hKnown, hMapped, hLocated, hBlocks, provides⟩
        cases known.symm.trans hKnown
        cases mapped.symm.trans hMapped
        cases located.symm.trans hLocated
        cases parsed.blocks.symm.trans hBlocks
        exact ⟨_, _, known, rfl, (parsed.established_iff hVer).mpr provides⟩

/-- A Tiger Lake VBT of version 229 with two blocks: general definitions with
one DisplayPort panel on port A, and a generic DTD of 1920 columns. -/
def panelVbt : List UInt8 :=
  List.replicate 28 0 ++ le32 32 ++
  List.replicate 16 0 ++ le16 229 ++ le16 22 ++ le16 96 ++
  (2 :: le16 38 ++ [0, 0, 0, 0, 33] ++
    [0, 0, 0xC6, 0x78] ++ List.replicate 12 0 ++ [10] ++ List.replicate 16 0) ++
  (58 :: le16 30 ++ le16 28 ++ le32 148500 ++ le16 1920 ++ List.replicate 22 0)

def panelOpregion : Memory := fun i =>
  if i < 16 then opregionSignature.getD i 0 else panelVbt.getD (i - vbtOffset) 0

def panelFirmware : Firmware := ⟨0x1000, fun _ _ => some panelOpregion⟩

theorem pointers_established_for_panel :
    ∃ i915, intelOpregionSetup 4 0x9A49 panelFirmware zeroed none = .ok (0, i915) ∧
      PointersEstablished 0x9A49 i915 := by
  obtain ⟨i915, hSetup⟩ : ∃ i915, intelOpregionSetup 4 0x9A49 panelFirmware zeroed none =
    .ok (0, i915) := ⟨_, rfl⟩
  refine ⟨i915, hSetup, (pointers_established_iff hSetup).mpr ?_⟩
  refine ⟨.tigerlake, panelOpregion, mailboxTable panelOpregion, _, _, rfl, rfl, rfl, rfl, ?_⟩
  exact {
    timing := .inl ⟨by decide, _, rfl, by decide +kernel⟩
    onPortA := ⟨_, List.mem_singleton.mpr rfl, rfl⟩
    connected := by
      intro device hDevice port hPort
      rw [List.mem_singleton.mp hDevice] at hPort
      cases hPort
      decide }

/-- The setup returns zero for a VBT without any blocks, with the mode and the
port of whatever was in memory before. -/
theorem pointers_left_unset :
    ∃ i915, intelOpregionSetup 1 0x9A49 bareFirmware readable none = .ok (0, i915) ∧
      ¬ PointersEstablished 0x9A49 i915 := by
  refine ⟨_, rfl, ?_⟩
  intro ⟨_, _, _, hDisplay, established⟩
  cases hDisplay
  cases established.mode

end NootedBlue.Opregion
