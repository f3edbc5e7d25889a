import NootedBlue.Vbt.Ports

/-! The panel settings of the VBT. Each parser fills in some fields of one
structure from the copies of the blocks; nothing has cleared the structure
before, and a parser whose block is missing leaves its fields as they are. -/
namespace NootedBlue.Vbt

open Bytes Display

/-- Where the entry of a panel begins in a copied block, for a table of
entries of `stride` bytes at payload offset `base`. The index is a C `int`:
a negative one wraps around. -/
def entryOffset (base stride : Nat) (panelType : Int) : Nat :=
  ((3 + base + stride * panelType) % 2 ^ 64).toNat

/-- `panel_bits`; the processor takes the shift count modulo 32. -/
def panelBits (value : Nat) (panelType : Int) (numBits : Nat) : Nat :=
  (value >>> (panelType * numBits % 32).toNat) % 2 ^ numBits

/-- `panel_bool`. -/
def panelBool (value : Nat) (panelType : Int) : Bool := panelBits value panelType 1 = 1

/-- One direction of a mode: `hdisplay`, `hsync_start`, `hsync_end` and
`htotal`, or the same for `v`. -/
structure Axis where
  display : Nat
  syncStart : Nat
  syncEnd : Nat
  total : Nat
  deriving DecidableEq, Repr

namespace Axis

/-- From the active part, the front porch, the pulse width and the blanking;
the fields have 16 bits. -/
def make (display front sync blank : Nat) : Axis :=
  let syncStart := (display + front) % 2 ^ 16
  ⟨display, syncStart, (syncStart + sync) % 2 ^ 16, (display + blank) % 2 ^ 16⟩

/-- Some VBTs have bogus `sync_end` values. -/
def clamp (axis : Axis) : Axis := { axis with syncEnd := min axis.syncEnd axis.total }

end Axis

/-- `struct drm_display_mode`. The members that no parser writes are kept
together. -/
structure Mode where
  clock : Int
  h : Axis
  v : Axis
  flags : Nat
  widthMm : Nat
  heightMm : Nat
  type : Nat
  name : String
  unwritten : List UInt8
  deriving DecidableEq

def drmModeTypePreferred : Nat := 8

/-- `DRM_MODE_FLAG_PHSYNC` or `NHSYNC`, and `PVSYNC` or `NVSYNC`. -/
def syncFlags (hPositive vPositive : Bool) : Nat :=
  (if hPositive then 1 else 2) ||| (if vPositive then 4 else 8)

/-- `DRM_MODE_FLAG_INTERLACE` is bit 4. -/
def interlaced (flags : Nat) : Bool := flags.testBit 4

/-- `drm_mode_set_name`. -/
def drmModeSetName (h v : Axis) (flags : Nat) : String :=
  toString h.display ++ "x" ++ toString v.display ++ (if interlaced flags then "i" else "")

/-- A mode in memory that held `fresh` before: the flags are added to what was
there. -/
def Mode.fill (fresh : Mode) (clock : Int) (h v : Axis) (flags widthMm heightMm : Nat) : Mode where
  clock
  h
  v
  flags := fresh.flags ||| flags
  widthMm
  heightMm
  type := drmModeTypePreferred
  name := drmModeSetName h v fresh.flags
  unwritten := fresh.unwritten

/-- The conversion of an unsigned value to `int`. -/
def toInt (value : Nat) : Int := Int.bmod value (2 ^ 32)

/-- The mode of a `struct generic_dtd_entry`. -/
def genericMode (fresh : Mode) (memory : Memory) (dtd : Nat) : Mode :=
  let flags := u8 memory (dtd + 24)
  fresh.fill (toInt (u32 memory dtd))
    (.make (u16 memory (dtd + 4)) (u16 memory (dtd + 8)) (u16 memory (dtd + 10)) (u16 memory (dtd + 6)))
    (.make (u16 memory (dtd + 12)) (u16 memory (dtd + 16)) (u16 memory (dtd + 18))
      (u16 memory (dtd + 14)))
    (syncFlags (flags.testBit 7) (flags.testBit 6)) (u16 memory (dtd + 20)) (u16 memory (dtd + 22))

/-- `fill_detail_timing_data`: the mode of a `struct bdb_edid_dtd`, whose
numbers are split into low bytes and high bits. -/
def fillDetailTimingData (fresh : Mode) (memory : Memory) (dtd : Nat) : Mode :=
  let byte := fun i => u8 memory (dtd + i)
  let h := Axis.make (byte 4 / 0x10 * 0x100 + byte 2) (byte 11 / 0x40 * 0x100 + byte 8)
    (byte 11 / 0x10 % 4 * 0x100 + byte 9) (byte 4 % 0x10 * 0x100 + byte 3)
  let v := Axis.make (byte 7 / 0x10 * 0x100 + byte 5) (byte 11 / 4 % 4 * 0x10 + byte 10 / 0x10)
    (byte 11 % 4 * 0x10 + byte 10 % 0x10) (byte 7 % 0x10 * 0x100 + byte 6)
  fresh.fill (u16 memory dtd * 10) h.clamp v.clamp
    (syncFlags ((byte 17).testBit 6) ((byte 17).testBit 5))
    (byte 14 / 0x10 * 0x100 + byte 12) (byte 14 % 0x10 * 0x100 + byte 13)

/-- `enum drrs_type`, and what uninitialised memory may hold in its place. -/
inductive DrrsType where
  | none
  | static
  | seamless
  | unknown (value : Nat)
  deriving DecidableEq, Repr

/-- `struct intel_pps_delays`. -/
structure PpsDelays where
  powerUp : Nat
  backlightOn : Nat
  backlightOff : Nat
  powerDown : Nat
  powerCycle : Nat
  deriving DecidableEq, Repr

/-- The `edp` part of `struct intel_vbt_panel_data`. -/
structure EdpPanel where
  maxLinkRate : Int
  rate : Int
  lanes : Int
  preemphasis : Int
  vswing : Int
  bpp : Int
  pps : PpsDelays
  drrsMsaTimingDelay : Nat
  lowVswing : Bool
  hobl : Bool
  dscDisable : Bool
  pipeJoinerEnable : Bool
  deriving DecidableEq, Repr

/-- The `psr` part of `struct intel_vbt_panel_data`. -/
structure PsrPanel where
  enable : Bool
  fullLink : Bool
  requireAuxWakeup : Bool
  idleFrames : Int
  tp1WakeupTimeUs : Int
  tp2Tp3WakeupTimeUs : Int
  psr2Tp2Tp3WakeupTimeUs : Int
  deriving DecidableEq, Repr

/-- The members of `struct intel_vbt_panel_data` that are not pointers. -/
structure PanelSettings where
  panelType : Int
  lvdsDither : Bool
  biosLvdsVal : Nat
  vrr : Bool
  seamlessDrrsMinRefreshRate : Nat
  drrsType : DrrsType
  edp : EdpPanel
  psr : PsrPanel
  deriving DecidableEq

/-- `struct intel_vbt_panel_data`. -/
structure Panel extends PanelSettings where
  lfpVbtMode : Slot (Pointer Mode) Mode

/-- `parse_panel_options`. The refresh rate switching is looked up under the
panel type from before. -/
def parsePanelOptions (blocks : List BlockEntry) (panel : Panel) : Panel :=
  match bdbFindSection blocks .lfpOptions with
  | none => panel
  | some options =>
      let found := { panel with
        lvdsDither := (u8 options.payload 2).testBit 5
        panelType := u8 options.payload 0 }
      if options.size < 16 then found
      else
        match panelBits (u32 options.payload 16) panel.panelType 2 with
        | 0 => { found with drrsType := .static }
        | 2 => { found with drrsType := .seamless }
        | _ => { found with drrsType := .none }

/-- The panel type that the later parsers go by: the one of the block, or else
the one from before. -/
def panelTypeOf (blocks : List BlockEntry) (old : Int) : Int :=
  match bdbFindSection blocks .lfpOptions with
  | none => old
  | some options => u8 options.payload 0

/-- `sizeof(struct generic_dtd_entry)` and `sizeof(struct bdb_generic_dtd)`. -/
def genericDtdEntrySize : Nat := 28
def genericDtdSize : Nat := 2

/-- `num_dtd` of `parse_generic_dtd`; a block shorter than its header wraps
around. -/
def numDtd (dtd : BlockEntry) : Int :=
  toInt ((dtd.size + 2 ^ 64 - genericDtdSize) % 2 ^ 64 / u16 dtd.payload 0)

/-- The block has a generic DTD for the panel. -/
def hasGenericDtd (dtd : BlockEntry) (panelType : Int) : Bool :=
  genericDtdEntrySize ≤ u16 dtd.payload 0 && panelType < numDtd dtd

/-- `parse_generic_dtd`. -/
def parseGenericDtd (version : Nat) (blocks : List BlockEntry) (fresh : Mode) (panel : Panel) : Panel :=
  if version < 229 then panel
  else
    match bdbFindSection blocks .genericDtd with
    | none => panel
    | some dtd =>
        if hasGenericDtd dtd panel.panelType then
          let entry := entryOffset genericDtdSize genericDtdEntrySize panel.panelType
          { panel with lfpVbtMode := .written (genericMode fresh dtd.memory entry) }
        else panel

/-- The panel data pointers of a panel, as `ptrs->ptr[panel_type]`. -/
def lfpDataPtr (ptrs : BlockEntry) (panelType : Int) : LfpDataPtr :=
  .read ptrs.memory (entryOffset 1 9 panelType)

/-- `parse_lfp_panel_dtd`. -/
def parseLfpPanelDtd (data ptrs : BlockEntry) (fresh : Mode) (panel : Panel) : Panel :=
  let ptr := lfpDataPtr ptrs panel.panelType
  let mode := fillDetailTimingData fresh data.payload ptr.dvoTiming.offset
  let fpTiming := ptr.fpTiming.offset
  let stored := { panel with lfpVbtMode := .written mode }
  if u16 data.payload fpTiming = mode.h.display ∧ u16 data.payload (fpTiming + 2) = mode.v.display then
    { stored with biosLvdsVal := u32 data.payload (fpTiming + 8) }
  else stored

/-- The panel data are used when `lfp_vbt_mode` is null. -/
def parseLfpMode (data ptrs : BlockEntry) (fresh : Mode) (panel : Panel) : Panel :=
  match panel.lfpVbtMode with
  | .stale .null => parseLfpPanelDtd data ptrs fresh panel
  | _ => panel

/-- `parse_lfp_data`. -/
def parseLfpData (version : Nat) (blocks : List BlockEntry) (fresh : Mode) (panel : Panel) : Panel :=
  match bdbFindSection blocks .lfpDataPtrs, bdbFindSection blocks .lfpData with
  | some ptrs, some data =>
      let stored := parseLfpMode data ptrs fresh panel
      let panelName := (LfpDataPtrs.read ptrs.payload 0).panelName
      if panelName.size = 0 ∨ version < 188 then stored
      else
        { stored with
          seamlessDrrsMinRefreshRate :=
            u8 data.memory (entryOffset (panelName.offset + 210) 1 panel.panelType) }
  | _, _ => panel

/-- Refresh rate switching is turned off, or down to a static one. -/
def DrrsType.restrict (drrsType : DrrsType) (enabled dmrrs : Bool) : DrrsType :=
  if !enabled && drrsType ≠ .none then (if dmrrs then .static else .none) else drrsType

/-- `parse_panel_driver_features`. -/
def parsePanelDriverFeatures (version : Nat) (blocks : List BlockEntry) (panel : Panel) : Panel :=
  match bdbFindSection blocks .driverFeatures with
  | none => panel
  | some driver =>
      if version < 228 then
        { panel with
          drrsType := panel.drrsType.restrict ((u8 driver.payload 17).testBit 5)
            ((u8 driver.payload 18).testBit 4)
          psr := { panel.psr with enable := (u8 driver.payload 18).testBit 1 } }
      else panel

/-- `parse_power_conservation_features`. The panel type is cut to a byte. -/
def parsePowerConservationFeatures (version : Nat) (blocks : List BlockEntry) (panel : Panel) :
    Panel :=
  let panel := { panel with vrr := true }
  if version < 228 then panel
  else
    match bdbFindSection blocks .lfpPower with
    | none => panel
    | some power =>
        let flag := fun offset => panelBool (u16 power.payload offset) (panel.panelType % 2 ^ 8)
        { panel with
          psr := { panel.psr with enable := flag 24 }
          drrsType := panel.drrsType.restrict (flag 26) (flag 32)
          edp := { panel.edp with hobl := if version ≥ 232 then flag 54 else panel.edp.hobl }
          vrr := if version ≥ 233 then flag 56 else panel.vrr }

/-- The link rate of `struct edp_fast_link_params`; an unknown code leaves the
rate as it is. -/
def linkRate (code : Nat) (old : Int) : Int :=
  match code with
  | 0 => 162000
  | 1 => 270000
  | 2 => 540000
  | _ => old

/-- The number of lanes; one lane is taken for four. -/
def linkLanes (code : Nat) (old : Int) : Int :=
  let lanes :=
    match code with
    | 0 => 1
    | 1 => 2
    | 3 => 4
    | _ => old
  if lanes = 1 then 4 else lanes

/-- The level of a swing or of a pre-emphasis, shifted to its place. -/
def linkLevel (code shift : Nat) (old : Int) : Int :=
  if code ≤ 3 then code <<< shift else old

/-- `vbt_edp_to_pps_delays`. -/
def vbtEdpToPpsDelays (memory : Memory) (powerSeq : Nat) : PpsDelays where
  powerUp := u16 memory powerSeq
  backlightOn := u16 memory (powerSeq + 2)
  backlightOff := u16 memory (powerSeq + 4)
  powerDown := u16 memory (powerSeq + 6)
  powerCycle := u16 memory (powerSeq + 8)

/-- `parse_edp`. -/
def parseEdp (version : Nat) (blocks : List BlockEntry) (panel : Panel) : Panel :=
  match bdbFindSection blocks .edp with
  | none => panel
  | some block =>
      let old := panel.edp
      let table := fun base stride => entryOffset base stride panel.panelType
      let rateAndLanes := u8 block.memory (table 164 2)
      let levels := u8 block.memory (table 164 2 + 1)
      let vswing := u64 block.payload 204 >>> (panel.panelType * 4 % 64).toNat % 0x10
      { panel with
        edp := {
          maxLinkRate := if version ≥ 244 then u16 block.memory (table 780 2) * 20 else old.maxLinkRate
          rate :=
            if version ≥ 224 then u16 block.memory (table 748 2) * 20
            else linkRate (rateAndLanes % 0x10) old.rate
          lanes := linkLanes (rateAndLanes / 0x10) old.lanes
          preemphasis := linkLevel (levels % 0x10) 3 old.preemphasis
          vswing := linkLevel (levels / 0x10) 0 old.vswing
          bpp := if panelBits (u32 block.payload 160) panel.panelType 2 = 2 then 30 else 24
          pps := vbtEdpToPpsDelays block.memory (table 0 10)
          drrsMsaTimingDelay := panelBits (u32 block.payload 196) panel.panelType 2
          lowVswing := if version ≥ 173 then vswing = 0 else old.lowVswing
          hobl := old.hobl
          dscDisable :=
            if version ≥ 251 then panelBool (u16 block.payload 812) panel.panelType else old.dscDisable
          pipeJoinerEnable :=
            if version ≥ 261 then panelBool (u16 block.payload 848) panel.panelType
            else old.pipeJoinerEnable } }

/-- A wake-up time code; `last` is the time of code three. -/
def wakeupTimeUs (code : Nat) (last : Int) : Int :=
  match code with
  | 0 => 500
  | 1 => 100
  | 3 => last
  | _ => 2500

/-- `parse_psr`. -/
def parsePsr (version : Nat) (info : DisplayInfo) (blocks : List BlockEntry) (panel : Panel) : Panel :=
  match bdbFindSection blocks .psr with
  | none => panel
  | some psr =>
      let table := entryOffset 0 6 panel.panelType
      let time := fun offset =>
        let code := u16 psr.memory (table + offset)
        if version ≥ 205 ∧ info.ver ≥ 9 ∧ !info.broxton then wakeupTimeUs code 0 else code * 100
      { panel with
        psr := {
          enable := panel.psr.enable
          fullLink := (u8 psr.memory table).testBit 0
          requireAuxWakeup := (u8 psr.memory table).testBit 1
          idleFrames := u8 psr.memory (table + 1) % 0x10
          tp1WakeupTimeUs := time 2
          tp2Tp3WakeupTimeUs := time 4
          psr2Tp2Tp3WakeupTimeUs :=
            if version ≥ 226 then
              wakeupTimeUs (panelBits (u32 psr.payload 96) panel.panelType 2) 50
            else time 4 } }

/-- The panel parsers in the order in which `intel_opregion_setup` calls them. -/
def parsePanel (version : Nat) (info : DisplayInfo) (blocks : List BlockEntry) (fresh : Mode)
    (panel : Panel) : Panel :=
  let panel := parsePanelOptions blocks panel
  let panel := parseGenericDtd version blocks fresh panel
  let panel := parseLfpData version blocks fresh panel
  let panel := parsePanelDriverFeatures version blocks panel
  let panel := parsePowerConservationFeatures version blocks panel
  let panel := parseEdp version blocks panel
  parsePsr version info blocks panel

section Mode

variable (version : Nat) (info : DisplayInfo) (blocks : List BlockEntry) (fresh : Mode)
  (panel : Panel)

@[simp] theorem parsePanelOptions_lfpVbtMode :
    (parsePanelOptions blocks panel).lfpVbtMode = panel.lfpVbtMode := by
  unfold parsePanelOptions
  split
  · rfl
  · dsimp only
    split
    · rfl
    · split <;> rfl

theorem parsePanelOptions_panelType :
    (parsePanelOptions blocks panel).panelType = panelTypeOf blocks panel.panelType := by
  unfold parsePanelOptions panelTypeOf
  cases bdbFindSection blocks .lfpOptions with
  | none => rfl
  | some options =>
      dsimp only
      split
      · rfl
      · split <;> rfl

@[simp] theorem parsePanelDriverFeatures_lfpVbtMode :
    (parsePanelDriverFeatures version blocks panel).lfpVbtMode = panel.lfpVbtMode := by
  unfold parsePanelDriverFeatures
  split
  · rfl
  · split <;> rfl

@[simp] theorem parsePowerConservationFeatures_lfpVbtMode :
    (parsePowerConservationFeatures version blocks panel).lfpVbtMode = panel.lfpVbtMode := by
  unfold parsePowerConservationFeatures
  dsimp only
  split
  · rfl
  · split <;> rfl

@[simp] theorem parseEdp_lfpVbtMode :
    (parseEdp version blocks panel).lfpVbtMode = panel.lfpVbtMode := by
  unfold parseEdp
  split <;> rfl

@[simp] theorem parsePsr_lfpVbtMode :
    (parsePsr version info blocks panel).lfpVbtMode = panel.lfpVbtMode := by
  unfold parsePsr
  split <;> rfl

/-- Only the two parsers of timings write the mode. -/
theorem parsePanel_lfpVbtMode :
    (parsePanel version info blocks fresh panel).lfpVbtMode =
      (parseLfpData version blocks fresh
        (parseGenericDtd version blocks fresh (parsePanelOptions blocks panel))).lfpVbtMode := by
  simp [parsePanel]

/-- The version and the blocks give a generic DTD to a panel. -/
def UsesGenericDtd (panelType : Int) : Prop :=
  229 ≤ version ∧ ∃ dtd, bdbFindSection blocks .genericDtd = some dtd ∧ hasGenericDtd dtd panelType

/-- There are panel data, and pointers to them that were accepted. -/
def HasPanelData : Prop :=
  (∃ ptrs, bdbFindSection blocks .lfpDataPtrs = some ptrs) ∧
    ∃ data, bdbFindSection blocks .lfpData = some data

variable {version blocks fresh panel}

theorem parseGenericDtd_of_uses (h : UsesGenericDtd version blocks panel.panelType) :
    ∃ mode, (parseGenericDtd version blocks fresh panel).lfpVbtMode = .written mode := by
  obtain ⟨hVersion, dtd, hFound, hUsable⟩ := h
  unfold parseGenericDtd
  rw [if_neg (Nat.not_lt.mpr hVersion), hFound]
  dsimp only
  rw [if_pos hUsable]
  exact ⟨_, rfl⟩

theorem parseGenericDtd_of_not_uses (h : ¬ UsesGenericDtd version blocks panel.panelType) :
    parseGenericDtd version blocks fresh panel = panel := by
  unfold parseGenericDtd
  split
  · rfl
  · next hVersion =>
      split
      · rfl
      · next dtd hFound =>
          rw [if_neg]
          intro hUsable
          exact h ⟨Nat.not_lt.mp hVersion, dtd, hFound, hUsable⟩

theorem parseLfpMode_of_null {data ptrs : BlockEntry} (h : panel.lfpVbtMode = .stale .null) :
    ∃ mode, (parseLfpMode data ptrs fresh panel).lfpVbtMode = .written mode := by
  simp only [parseLfpMode, h, parseLfpPanelDtd]
  split <;> exact ⟨_, rfl⟩

theorem parseLfpMode_of_set {data ptrs : BlockEntry} (h : panel.lfpVbtMode ≠ .stale .null) :
    parseLfpMode data ptrs fresh panel = panel := by
  unfold parseLfpMode
  split
  · next hNull => exact absurd hNull h
  · rfl

theorem parseLfpData_lfpVbtMode {data ptrs : BlockEntry}
    (hPtrs : bdbFindSection blocks .lfpDataPtrs = some ptrs)
    (hData : bdbFindSection blocks .lfpData = some data) :
    (parseLfpData version blocks fresh panel).lfpVbtMode =
      (parseLfpMode data ptrs fresh panel).lfpVbtMode := by
  simp only [parseLfpData, hPtrs, hData]
  split <;> rfl

/-- The panel data give a mode to a panel whose pointer is null. -/
theorem parseLfpData_of_null (h : panel.lfpVbtMode = .stale .null) (hData : HasPanelData blocks) :
    ∃ mode, (parseLfpData version blocks fresh panel).lfpVbtMode = .written mode := by
  obtain ⟨⟨ptrs, hPtrs⟩, data, hFound⟩ := hData
  rw [parseLfpData_lfpVbtMode hPtrs hFound]
  exact parseLfpMode_of_null h

/-- Any other pointer stays. -/
theorem parseLfpData_of_set (h : ¬ (panel.lfpVbtMode = .stale .null ∧ HasPanelData blocks)) :
    (parseLfpData version blocks fresh panel).lfpVbtMode = panel.lfpVbtMode := by
  by_cases hData : HasPanelData blocks
  · obtain ⟨⟨ptrs, hPtrs⟩, data, hFound⟩ := id hData
    rw [parseLfpData_lfpVbtMode hPtrs hFound, parseLfpMode_of_set fun hNull => h ⟨hNull, hData⟩]
  · unfold parseLfpData
    split
    · next ptrs data hPtrs hFound => exact absurd ⟨⟨ptrs, hPtrs⟩, data, hFound⟩ hData
    · rfl

variable (version blocks fresh) in
/-- Where the mode pointer of a panel leads in the end: to a mode that was
stored, exactly when there is a generic DTD for the panel, or panel data and a
pointer that was null before; and otherwise to where it led before. -/
theorem mode_cases {old : Pointer Mode} (h : panel.lfpVbtMode = .stale old) :
    ((UsesGenericDtd version blocks panel.panelType ∨ old = .null ∧ HasPanelData blocks) ∧
      ∃ mode, (parseLfpData version blocks fresh
        (parseGenericDtd version blocks fresh panel)).lfpVbtMode = .written mode) ∨
    (¬ (UsesGenericDtd version blocks panel.panelType ∨ old = .null ∧ HasPanelData blocks) ∧
      (parseLfpData version blocks fresh
        (parseGenericDtd version blocks fresh panel)).lfpVbtMode = .stale old) := by
  by_cases hGeneric : UsesGenericDtd version blocks panel.panelType
  · obtain ⟨mode, hMode⟩ : ∃ mode, (parseGenericDtd version blocks fresh panel).lfpVbtMode =
        .written mode := parseGenericDtd_of_uses hGeneric
    refine .inl ⟨.inl hGeneric, mode, ?_⟩
    rw [parseLfpData_of_set, hMode]
    rw [hMode]
    intro hNull
    cases hNull.1
  · rw [parseGenericDtd_of_not_uses hGeneric]
    by_cases hData : old = .null ∧ HasPanelData blocks
    · exact .inl ⟨.inr hData, parseLfpData_of_null (by rw [h, hData.1]) hData.2⟩
    · refine .inr ⟨fun hEither => hEither.elim hGeneric hData, ?_⟩
      rw [parseLfpData_of_set, h]
      rw [h]
      intro hNull
      cases hNull.1
      exact hData ⟨rfl, hNull.2⟩

end Mode

end NootedBlue.Vbt
