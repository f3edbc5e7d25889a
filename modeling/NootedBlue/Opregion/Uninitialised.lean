import NootedBlue.Opregion.Setup

/-! Two runs of the setup on the same machine differ only in what the
allocator happens to return. Their results differ whenever there are any. -/
namespace NootedBlue.Opregion

open Bytes Vbt Display

/-- What the driver uses of a copied block: the bytes that were allocated. -/
def BlockBytes (entry : BlockEntry) : BlockId × List UInt8 :=
  (entry.id, (List.range entry.allocated).map entry.memory)

/-- The results that other parts of the driver rely on. -/
structure Results where
  devices : List (Child × Bool)
  blocks : List (BlockId × List UInt8)
  connectors : Fin 6 → Connector
  panel : Panel
  adjustedMode : Mode

def IntelDisplay.results (display : IntelDisplay) : Results where
  devices := display.devices.map fun device => (device.child, device.hasDsc)
  blocks := display.blocks.map BlockBytes
  connectors := display.ports.connectors
  panel := display.panel
  adjustedMode := display.adjustedMode

def I915.results (i915 : I915) : Nat × Option Results :=
  (i915.allowedDcMask, i915.display.map IntelDisplay.results)

/-- A first call on a machine, with some contents of the fresh memory, returns
zero and leaves a structure. -/
def Returns (deviceId : Nat) (firmware : Firmware) (garbage : Garbage) (i915 : I915) : Prop :=
  ∃ fuel, intelOpregionSetup fuel deviceId firmware garbage none = .ok (0, i915)

theorem returns_iff {deviceId : Nat} {firmware : Firmware} {garbage : Garbage} {i915 : I915} :
    Returns deviceId firmware garbage i915 ↔
      ∃ fuel, SetUp fuel deviceId firmware garbage 0 i915 :=
  exists_congr fun _ => setup_eq_ok_iff

/-- The results do not depend on the contents of fresh memory. -/
def Independent (deviceId : Nat) (firmware : Firmware) : Prop :=
  ∀ garbage other i915 otherI915, Returns deviceId firmware garbage i915 →
    Returns deviceId firmware other otherI915 → i915.results = otherI915.results

/-- A machine on which the setup can return zero: the device is known, the
opregion is there and signed, and if it points to a VBT elsewhere, the walks
over the blocks of that VBT end. -/
structure Supported (deviceId : Nat) (firmware : Firmware) : Prop where
  known : ∃ platform, findPlatformDesc deviceId = some platform
  asls : firmware.asls ≠ 0
  opregion : ∃ opregion, firmware.map firmware.asls opregionSize = some opregion ∧
    Signed opregion ∧ ∀ table, rvdaTable firmware opregion ⟨none, true⟩ = some table →
      ∀ id, Ends table.memory (u32 table.memory bdbOffsetOffset) id

/-- A VBT elsewhere that is found without any help from fresh memory is always
found. -/
theorem locateVbt_of_rvda {firmware : Firmware} {opregion : Memory} {table : Table}
    (h : rvdaTable firmware opregion ⟨none, true⟩ = some table) (stale : Stale) :
    locateVbt firmware opregion stale = some table := by
  have hSame : rvdaTable firmware opregion stale = some table := by
    rw [← h]
    by_cases hMailbox : (mboxes opregion).testBit mboxAsle
    · simp only [rvdaTable, asle, if_pos hMailbox]
    · simp [rvdaTable, asle, hMailbox] at h
  simp only [locateVbt, hSame]

theorem Returns.supported {deviceId : Nat} {firmware : Firmware} {garbage : Garbage} {i915 : I915}
    (h : Returns deviceId firmware garbage i915) : Supported deviceId firmware := by
  obtain ⟨fuel, hSetUp⟩ := returns_iff.mp h
  cases hSetUp with
  | noVbt known asls mapped signature located =>
      refine ⟨⟨_, known⟩, asls, _, mapped, signature, ?_⟩
      intro table hTable
      rw [locateVbt_of_rvda hTable] at located
      cases located
  | parsed known asls mapped signature located parse =>
      refine ⟨⟨_, known⟩, asls, _, mapped, signature, ?_⟩
      intro table hTable
      rw [locateVbt_of_rvda hTable] at located
      cases located
      exact answers_readVbt_iff.mp ⟨fuel, _, (parsed_of_parseVbt parse).blocks⟩

def zeroMode : Mode := ⟨0, ⟨0, 0, 0, 0⟩, ⟨0, 0, 0, 0⟩, 0, 0, 0, 0, "", []⟩

def zeroPanel : PanelSettings where
  panelType := 0
  lvdsDither := false
  biosLvdsVal := 0
  vrr := false
  seamlessDrrsMinRefreshRate := 0
  drrsType := .none
  edp := ⟨0, 0, 0, 0, 0, 0, ⟨0, 0, 0, 0, 0⟩, 0, false, false, false, false⟩
  psr := ⟨false, false, false, 0, 0, 0, 0⟩

def zeroFresh : Fresh where
  entry _ _ := 0
  lfpDataPtrs := ⟨0, fun _ => ⟨⟨0, 0⟩, ⟨0, 0⟩, ⟨0, 0⟩⟩, ⟨0, 0⟩⟩

/-- Memory that was cleared before. -/
def zeroed : Garbage where
  opregion := ⟨none, false⟩
  blocks := zeroFresh
  info := { ver := 0 }
  dsc _ := false
  panel := zeroPanel
  lfpVbtMode := .null
  mode := zeroMode
  hpdPin := 0
  child0 := .null
  port0 := 0
  phy0 := 0
  pipe0 := 0

/-- Cleared memory but for two pointers: one that looks like a VBT, and one
that leads to a mode. -/
def leftover : Garbage := { zeroed with opregion := ⟨none, true⟩, lfpVbtMode := .target zeroMode }

/-- A pointer to a mode that is there from before can be copied from. -/
theorem copyMode_parsePanel (version : Nat) (info : DisplayInfo) (blocks : List BlockEntry)
    (fresh : Mode) {panel : Panel} {mode : Mode} (h : panel.lfpVbtMode = .stale (.target mode)) :
    ∃ copied, copyMode (parsePanel version info blocks fresh panel).lfpVbtMode = some copied := by
  have hOptions : (parsePanelOptions blocks panel).lfpVbtMode = .stale (.target mode) := by
    rw [parsePanelOptions_lfpVbtMode, h]
  rw [parsePanel_lfpVbtMode]
  cases mode_cases version blocks fresh hOptions with
  | inl hStored =>
      obtain ⟨-, stored, hStored⟩ := hStored
      exact ⟨stored, by rw [hStored, copyMode]⟩
  | inr hOld => exact ⟨mode, by rw [hOld.2, copyMode]⟩

theorem parseVbt_leftover {fuel : Nat} {info : DisplayInfo} {table : Table}
    (h : Answers table.memory (readVbt fuel leftover.blocks)) :
    ∃ display, parseVbt fuel info leftover table = .ok display := by
  obtain ⟨⟨version, blocks⟩, hRead⟩ := h
  have hOld : leftover.initialPanel.lfpVbtMode = .stale (.target zeroMode) := rfl
  obtain ⟨mode, hMode⟩ := copyMode_parsePanel version info blocks leftover.mode hOld
  simp only [parseVbt, hRead, hMode]
  exact ⟨_, rfl⟩

theorem Supported.returns {deviceId : Nat} {firmware : Firmware}
    (h : Supported deviceId firmware) : ∃ i915, Returns deviceId firmware leftover i915 := by
  obtain ⟨⟨platform, known⟩, asls, opregion, mapped, signature, hEnds⟩ := h
  cases hTable : rvdaTable firmware opregion ⟨none, true⟩ with
  | none =>
      have located : locateVbt firmware opregion leftover.opregion = none := by
        simp [locateVbt, leftover, hTable]
      exact ⟨_, returns_iff.mpr ⟨0, .noVbt known asls mapped signature located⟩⟩
  | some table =>
      obtain ⟨fuel, hRead⟩ := answers_readVbt_iff.mpr (hEnds table hTable)
      obtain ⟨display, parse⟩ := parseVbt_leftover hRead
      have located := locateVbt_of_rvda hTable leftover.opregion
      exact ⟨_, returns_iff.mpr ⟨fuel, .parsed known asls mapped signature located parse⟩⟩

theorem parseVbt_withInfo (fuel : Nat) (engine info : DisplayInfo) (garbage : Garbage)
    (table : Table) :
    parseVbt fuel engine { garbage with info } table = parseVbt fuel engine garbage table := rfl

/-- What the description of the display engine holds before the probe decides
about the mask and about nothing else. -/
theorem Returns.withInfo {deviceId : Nat} {firmware : Firmware} {garbage : Garbage} {i915 : I915}
    (h : Returns deviceId firmware garbage i915) (info : DisplayInfo) :
    Returns deviceId firmware { garbage with info }
      { i915 with allowedDcMask := getAllowedDcMask info 1 } := by
  obtain ⟨fuel, hSetUp⟩ := returns_iff.mp h
  refine returns_iff.mpr ⟨fuel, ?_⟩
  cases hSetUp with
  | noVbt known asls mapped signature located =>
      exact .noVbt known asls mapped signature located
  | parsed known asls mapped signature located parse =>
      apply SetUp.parsed known asls mapped signature
      · exact located
      · rw [parseVbt_withInfo]
        exact parse

/-- The results are independent of fresh memory only where there never are any:
otherwise the mask of allowed power states already depends on it. -/
theorem independent_iff_not_supported (deviceId : Nat) (firmware : Firmware) :
    Independent deviceId firmware ↔ ¬ Supported deviceId firmware := by
  constructor
  · intro hIndependent supported
    obtain ⟨i915, hReturns⟩ := supported.returns
    have hSame := hIndependent _ _ _ _ (hReturns.withInfo { ver := 0 })
      (hReturns.withInfo { ver := 12 })
    have hMask : getAllowedDcMask { ver := 0 } 1 = getAllowedDcMask { ver := 12 } 1 :=
      congrArg Prod.fst hSame
    revert hMask
    decide
  · intro hNever garbage other i915 otherI915 hReturns _
    exact absurd hReturns.supported hNever

/-- An opregion of version 1 with its signature and nothing else: its VBT has
no blocks. -/
def bareOpregion : Memory := fun i => opregionSignature.getD i 0

def bareFirmware : Firmware := ⟨0x1000, fun _ _ => some bareOpregion⟩

/-- On a Tiger Lake with this opregion, the mask is 0 or 9, depending on what
the version of the display engine was before anybody wrote it. -/
theorem mask_depends_on_fresh_memory : ¬ Independent 0x9A49 bareFirmware := by
  intro h
  have hFirst : Returns 0x9A49 bareFirmware { zeroed with lfpVbtMode := .target zeroMode } _ :=
    ⟨1, rfl⟩
  have hSecond := hFirst.withInfo { ver := 12 }
  have hMask := congrArg Prod.fst (h _ _ _ _ hFirst hSecond)
  revert hMask
  decide

end NootedBlue.Opregion
