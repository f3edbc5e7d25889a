import NootedBlue.Vbt.Panel

/-! The uses of the panel type. The parsers of the panel settings take it as an
index into tables of sixteen rows and as a shift count; here each of them is
written again with its uses as operations, and shown to fill in the same panel
as before. -/
namespace NootedBlue.Vbt

open Bytes Display Interaction

/-- A use of the panel type, with its value there. -/
inductive PanelUse where
  | index (panelType : Int)
  | shift (panelType : Int)
  deriving DecidableEq, Repr

def PanelUse.panelType : PanelUse → Int
  | index panelType => panelType
  | shift panelType => panelType

abbrev Uses := Program PanelUse fun _ => Unit

/-- Take the panel type as an index of a table. -/
def entryOffsetUses (base stride : Nat) (panelType : Int) : Uses Nat := do
  Program.perform (.index panelType)
  return entryOffset base stride panelType

/-- `panel_bits`, and `panel_bool`. -/
def panelBitsUses (value : Nat) (panelType : Int) (numBits : Nat) : Uses Nat := do
  Program.perform (.shift panelType)
  return panelBits value panelType numBits

def panelBoolUses (value : Nat) (panelType : Int) : Uses Bool := do
  Program.perform (.shift panelType)
  return panelBool value panelType

/-- A field that is only there from some version on. -/
def whenUses {α : Type} (test : Bool) (uses : Uses α) (old : α) : Uses α :=
  if test then uses else return old

section Rules

variable {α β : Type}

/-- The result, and what the values of all the uses satisfy. -/
def Uses.result (uses : Uses α) : α := uses.answer fun _ => ()

def Uses.All (uses : Uses α) (property : Int → Prop) : Prop :=
  ∀ use ∈ uses.asked fun _ => (), property use.panelType

variable {property : Int → Prop}

@[simp] theorem result_done (a : α) : Uses.result (.done a) = a := rfl

@[simp] theorem result_bind (uses : Uses α) (rest : α → Uses β) :
    Uses.result (uses >>= rest) = (rest uses.result).result :=
  Program.answer_bind _ uses rest

@[simp] theorem result_ite (test : Prop) [Decidable test] (first second : Uses α) :
    (if test then first else second).result = if test then first.result else second.result :=
  apply_ite Uses.result ..

@[simp] theorem all_done (a : α) : Uses.All (.done a) property := by
  simp [Uses.All]

@[simp] theorem all_call_iff (use : PanelUse) (rest : Unit → Uses α) :
    Uses.All (.call use rest) property ↔ property use.panelType ∧ (rest ()).All property :=
  List.forall_mem_cons

@[simp] theorem all_bind_iff {uses : Uses α} {rest : α → Uses β} :
    Uses.All (uses >>= rest) property ↔ uses.All property ∧ (rest uses.result).All property := by
  unfold Uses.All
  rw [Program.asked_bind, List.forall_mem_append]
  rfl

variable (base stride value numBits : Nat) (panelType : Int)

@[simp] theorem result_entryOffsetUses :
    (entryOffsetUses base stride panelType).result = entryOffset base stride panelType := rfl

@[simp] theorem all_entryOffsetUses_iff :
    (entryOffsetUses base stride panelType).All property ↔ property panelType := by
  simp [entryOffsetUses, Uses.All, Program.asked, PanelUse.panelType]

@[simp] theorem result_panelBitsUses :
    (panelBitsUses value panelType numBits).result = panelBits value panelType numBits := rfl

@[simp] theorem all_panelBitsUses_iff :
    (panelBitsUses value panelType numBits).All property ↔ property panelType := by
  simp [panelBitsUses, Uses.All, Program.asked, PanelUse.panelType]

@[simp] theorem result_panelBoolUses :
    (panelBoolUses value panelType).result = panelBool value panelType := rfl

@[simp] theorem all_panelBoolUses_iff :
    (panelBoolUses value panelType).All property ↔ property panelType := by
  simp [panelBoolUses, Uses.All, Program.asked, PanelUse.panelType]

@[simp] theorem result_whenUses (test : Bool) (uses : Uses α) (old : α) :
    (whenUses test uses old).result = if test then uses.result else old := by
  unfold whenUses
  split <;> rfl

@[simp] theorem all_whenUses_iff (test : Bool) (uses : Uses α) (old : α) :
    (whenUses test uses old).All property ↔ (test = true → uses.All property) := by
  unfold whenUses
  split <;> simp_all

end Rules

section Parsers

variable (version : Nat) (info : DisplayInfo) (blocks : List BlockEntry) (fresh : Mode)
  (panel : Panel)

/-- `parse_panel_options`. -/
def parsePanelOptionsUses : Uses Panel :=
  match bdbFindSection blocks .lfpOptions with
  | none => return panel
  | some options =>
      let found := { panel with
        lvdsDither := (u8 options.payload 2).testBit 5
        panelType := u8 options.payload 0 }
      if options.size < 16 then return found
      else do
        let drrsMode ← panelBitsUses (u32 options.payload 16) panel.panelType 2
        match drrsMode with
        | 0 => return { found with drrsType := .static }
        | 2 => return { found with drrsType := .seamless }
        | _ => return { found with drrsType := .none }

/-- `parse_generic_dtd`. -/
def parseGenericDtdUses : Uses Panel :=
  if version < 229 then return panel
  else
    match bdbFindSection blocks .genericDtd with
    | none => return panel
    | some dtd =>
        if hasGenericDtd dtd panel.panelType then do
          let entry ← entryOffsetUses genericDtdSize genericDtdEntrySize panel.panelType
          return { panel with lfpVbtMode := .written (genericMode fresh dtd.memory entry) }
        else return panel

/-- `parse_lfp_panel_dtd`, with an index for each of the two tables. -/
def parseLfpPanelDtdUses (data ptrs : BlockEntry) : Uses Panel := do
  let dvoTiming ← entryOffsetUses 1 9 panel.panelType
  let mode := fillDetailTimingData fresh data.payload
    (LfpDataPtr.read ptrs.memory dvoTiming).dvoTiming.offset
  let ptr ← entryOffsetUses 1 9 panel.panelType
  let fpTiming := (LfpDataPtr.read ptrs.memory ptr).fpTiming.offset
  let stored := { panel with lfpVbtMode := .written mode }
  if u16 data.payload fpTiming = mode.h.display ∧ u16 data.payload (fpTiming + 2) = mode.v.display then
    return { stored with biosLvdsVal := u32 data.payload (fpTiming + 8) }
  else return stored

def parseLfpModeUses (data ptrs : BlockEntry) : Uses Panel :=
  match panel.lfpVbtMode with
  | .stale .null => parseLfpPanelDtdUses fresh panel data ptrs
  | _ => return panel

/-- `parse_lfp_data`. -/
def parseLfpDataUses : Uses Panel :=
  match bdbFindSection blocks .lfpDataPtrs, bdbFindSection blocks .lfpData with
  | some ptrs, some data => do
      let stored ← parseLfpModeUses fresh panel data ptrs
      let panelName := (LfpDataPtrs.read ptrs.payload 0).panelName
      if panelName.size = 0 ∨ version < 188 then return stored
      else do
        let entry ← entryOffsetUses (panelName.offset + 210) 1 panel.panelType
        return { stored with seamlessDrrsMinRefreshRate := u8 data.memory entry }
  | _, _ => return panel

/-- The switching of refresh rates is looked at again only when it is on. -/
def restrictUses (drrsType : DrrsType) (enabled : Bool) (dmrrs : Uses Bool) : Uses DrrsType := do
  if !enabled && drrsType ≠ .none then
    let isStatic ← dmrrs
    return if isStatic then .static else .none
  else return drrsType

/-- `parse_power_conservation_features`. The panel type is cut to a byte. -/
def parsePowerConservationFeaturesUses : Uses Panel :=
  let panel := { panel with vrr := true }
  if version < 228 then return panel
  else
    match bdbFindSection blocks .lfpPower with
    | none => return panel
    | some power => do
        let flag := fun offset => panelBoolUses (u16 power.payload offset) (panel.panelType % 2 ^ 8)
        let psr ← flag 24
        let drrs ← flag 26
        let drrsType ← restrictUses panel.drrsType drrs (flag 32)
        let hobl ← whenUses (version ≥ 232) (flag 54) panel.edp.hobl
        let vrr ← whenUses (version ≥ 233) (flag 56) panel.vrr
        return { panel with
          psr := { panel.psr with enable := psr }
          drrsType
          edp := { panel.edp with hobl }
          vrr }

/-- `parse_edp`. -/
def parseEdpUses : Uses Panel :=
  match bdbFindSection blocks .edp with
  | none => return panel
  | some block => do
      let old := panel.edp
      let table := fun base stride => entryOffsetUses base stride panel.panelType
      let flag := fun offset => panelBoolUses (u16 block.payload offset) panel.panelType
      let colorDepth ← panelBitsUses (u32 block.payload 160) panel.panelType 2
      let linkParams ← table 164 2
      let rateAndLanes := u8 block.memory linkParams
      let levels := u8 block.memory (linkParams + 1)
      let powerSeq ← table 0 10
      let rate ← whenUses (version ≥ 224)
        (do let entry ← table 748 2
            return (u16 block.memory entry * 20 : Int)) (linkRate (rateAndLanes % 0x10) old.rate)
      let lowVswing ← whenUses (version ≥ 173)
        (do Program.perform (.shift panel.panelType)
            return decide (u64 block.payload 204 >>> (panel.panelType * 4 % 64).toNat % 0x10 = 0))
        old.lowVswing
      let drrsMsaTimingDelay ← panelBitsUses (u32 block.payload 196) panel.panelType 2
      let maxLinkRate ← whenUses (version ≥ 244)
        (do let entry ← table 780 2
            return (u16 block.memory entry * 20 : Int)) old.maxLinkRate
      let dscDisable ← whenUses (version ≥ 251) (flag 812) old.dscDisable
      let pipeJoinerEnable ← whenUses (version ≥ 261) (flag 848) old.pipeJoinerEnable
      return { panel with
        edp := {
          maxLinkRate
          rate
          lanes := linkLanes (rateAndLanes / 0x10) old.lanes
          preemphasis := linkLevel (levels % 0x10) 3 old.preemphasis
          vswing := linkLevel (levels / 0x10) 0 old.vswing
          bpp := if colorDepth = 2 then 30 else 24
          pps := vbtEdpToPpsDelays block.memory powerSeq
          drrsMsaTimingDelay
          lowVswing
          hobl := old.hobl
          dscDisable
          pipeJoinerEnable } }

/-- `parse_psr`. -/
def parsePsrUses : Uses Panel :=
  match bdbFindSection blocks .psr with
  | none => return panel
  | some psr => do
      let table ← entryOffsetUses 0 6 panel.panelType
      let time := fun offset =>
        let code := u16 psr.memory (table + offset)
        if version ≥ 205 ∧ info.ver ≥ 9 ∧ !info.broxton then wakeupTimeUs code 0 else code * 100
      let wakeupTime ← whenUses (version ≥ 226)
        (do let code ← panelBitsUses (u32 psr.payload 96) panel.panelType 2
            return wakeupTimeUs code 50) (time 4)
      return { panel with
        psr := {
          enable := panel.psr.enable
          fullLink := (u8 psr.memory table).testBit 0
          requireAuxWakeup := (u8 psr.memory table).testBit 1
          idleFrames := u8 psr.memory (table + 1) % 0x10
          tp1WakeupTimeUs := time 2
          tp2Tp3WakeupTimeUs := time 4
          psr2Tp2Tp3WakeupTimeUs := wakeupTime } }

/-- The panel parsers of `intel_opregion_setup`, in their order. -/
def parsePanelUses : Uses Panel := do
  let panel ← parsePanelOptionsUses blocks panel
  let panel ← parseGenericDtdUses version blocks fresh panel
  let panel ← parseLfpDataUses version blocks fresh panel
  let panel := parsePanelDriverFeatures version blocks panel
  let panel ← parsePowerConservationFeaturesUses version blocks panel
  let panel ← parseEdpUses version blocks panel
  parsePsrUses version info blocks panel

section Results

@[simp] theorem result_parsePanelOptionsUses :
    (parsePanelOptionsUses blocks panel).result = parsePanelOptions blocks panel := by
  unfold parsePanelOptionsUses parsePanelOptions
  cases bdbFindSection blocks .lfpOptions with
  | none => rfl
  | some options =>
      dsimp only
      split
      · rfl
      · rw [result_bind, result_panelBitsUses]
        generalize panelBits (u32 options.payload 16) panel.panelType 2 = drrsMode
        rcases drrsMode with _ | _ | _ | drrsMode <;> rfl

@[simp] theorem result_parseGenericDtdUses :
    (parseGenericDtdUses version blocks fresh panel).result =
      parseGenericDtd version blocks fresh panel := by
  unfold parseGenericDtdUses parseGenericDtd
  split
  · rfl
  · cases bdbFindSection blocks .genericDtd with
    | none => rfl
    | some dtd =>
        dsimp only
        split <;> rfl

@[simp] theorem result_parseLfpPanelDtdUses (data ptrs : BlockEntry) :
    (parseLfpPanelDtdUses fresh panel data ptrs).result = parseLfpPanelDtd data ptrs fresh panel := by
  unfold parseLfpPanelDtdUses parseLfpPanelDtd lfpDataPtr
  rw [result_bind, result_bind]
  dsimp only
  rw [result_ite]
  rfl

@[simp] theorem result_parseLfpModeUses (data ptrs : BlockEntry) :
    (parseLfpModeUses fresh panel data ptrs).result = parseLfpMode data ptrs fresh panel := by
  by_cases hNull : panel.lfpVbtMode = .stale .null
  · rw [parseLfpModeUses, parseLfpMode, hNull]
    exact result_parseLfpPanelDtdUses ..
  · rw [parseLfpMode_of_set hNull]
    unfold parseLfpModeUses
    split
    · next hStale => exact absurd hStale hNull
    · rfl

@[simp] theorem result_parseLfpDataUses :
    (parseLfpDataUses version blocks fresh panel).result =
      parseLfpData version blocks fresh panel := by
  unfold parseLfpDataUses parseLfpData
  cases bdbFindSection blocks .lfpDataPtrs with
  | none => rfl
  | some ptrs =>
      cases bdbFindSection blocks .lfpData with
      | none => rfl
      | some data =>
          dsimp only
          rw [result_bind, result_parseLfpModeUses, result_ite]
          rfl

@[simp] theorem result_restrictUses (drrsType : DrrsType) (enabled : Bool) (dmrrs : Uses Bool) :
    (restrictUses drrsType enabled dmrrs).result = drrsType.restrict enabled dmrrs.result := by
  unfold restrictUses DrrsType.restrict
  split
  · rw [result_bind]
    rfl
  · rfl

@[simp] theorem result_parsePowerConservationFeaturesUses :
    (parsePowerConservationFeaturesUses version blocks panel).result =
      parsePowerConservationFeatures version blocks panel := by
  unfold parsePowerConservationFeaturesUses parsePowerConservationFeatures
  dsimp only
  split
  · rfl
  · cases bdbFindSection blocks .lfpPower with
    | none => rfl
    | some power => simp

@[simp] theorem result_parseEdpUses :
    (parseEdpUses version blocks panel).result = parseEdp version blocks panel := by
  unfold parseEdpUses parseEdp
  cases bdbFindSection blocks .edp with
  | none => rfl
  | some block =>
      simp only [result_bind, result_entryOffsetUses, result_panelBitsUses, result_panelBoolUses,
        result_whenUses, decide_eq_true_eq]
      rfl

@[simp] theorem result_parsePsrUses :
    (parsePsrUses version info blocks panel).result = parsePsr version info blocks panel := by
  unfold parsePsrUses parsePsr
  cases bdbFindSection blocks .psr with
  | none => rfl
  | some psr =>
      simp only [result_bind, result_entryOffsetUses, result_panelBitsUses, result_whenUses,
        decide_eq_true_eq]
      rfl

/-- The panel is filled in as before. -/
theorem result_parsePanelUses :
    (parsePanelUses version info blocks fresh panel).result =
      parsePanel version info blocks fresh panel := by
  simp only [parsePanelUses, parsePanel, result_bind, result_parsePanelOptionsUses,
    result_parseGenericDtdUses, result_parseLfpDataUses, result_parsePowerConservationFeaturesUses,
    result_parseEdpUses, result_parsePsrUses]

end Results

section PanelTypes

@[simp] theorem parseGenericDtd_panelType :
    (parseGenericDtd version blocks fresh panel).panelType = panel.panelType := by
  unfold parseGenericDtd
  split
  · rfl
  · split
    · rfl
    · dsimp only
      split <;> rfl

@[simp] theorem parseLfpMode_panelType (data ptrs : BlockEntry) :
    (parseLfpMode data ptrs fresh panel).panelType = panel.panelType := by
  unfold parseLfpMode
  split
  · unfold parseLfpPanelDtd
    dsimp only
    split <;> rfl
  · rfl

@[simp] theorem parseLfpData_panelType :
    (parseLfpData version blocks fresh panel).panelType = panel.panelType := by
  unfold parseLfpData
  split
  · dsimp only
    split <;> exact parseLfpMode_panelType ..
  · rfl

@[simp] theorem parsePanelDriverFeatures_panelType :
    (parsePanelDriverFeatures version blocks panel).panelType = panel.panelType := by
  unfold parsePanelDriverFeatures
  split
  · rfl
  · split <;> rfl

@[simp] theorem parsePowerConservationFeatures_panelType :
    (parsePowerConservationFeatures version blocks panel).panelType = panel.panelType := by
  unfold parsePowerConservationFeatures
  dsimp only
  split
  · rfl
  · split <;> rfl

@[simp] theorem parseEdp_panelType :
    (parseEdp version blocks panel).panelType = panel.panelType := by
  unfold parseEdp
  split <;> rfl

@[simp] theorem parsePsr_panelType :
    (parsePsr version info blocks panel).panelType = panel.panelType := by
  unfold parsePsr
  split <;> rfl

/-- The panel type that is there when all the parsers have run. -/
theorem parsePanel_panelType :
    (parsePanel version info blocks fresh panel).panelType = panelTypeOf blocks panel.panelType := by
  simp [parsePanel, parsePanelOptions_panelType]

end PanelTypes

section All

variable {property : Int → Prop}

/-- There are panel data, and something of them is looked up: the timings, when
the panel has no mode yet, or the slowest refresh rate behind the names. -/
def UsesPanelData : Prop :=
  ∃ ptrs data, bdbFindSection blocks .lfpDataPtrs = some ptrs ∧
    bdbFindSection blocks .lfpData = some data ∧
    (panel.lfpVbtMode = .stale .null ∨
      (LfpDataPtrs.read ptrs.payload 0).panelName.size ≠ 0 ∧ 188 ≤ version)

variable {version info blocks fresh panel}

theorem all_parsePanelOptionsUses_iff :
    (parsePanelOptionsUses blocks panel).All property ↔
      ∀ options, bdbFindSection blocks .lfpOptions = some options → 16 ≤ options.size →
        property panel.panelType := by
  unfold parsePanelOptionsUses
  cases bdbFindSection blocks .lfpOptions with
  | none => simp
  | some options =>
      simp only [Option.some.injEq, forall_eq']
      split
      · next hShort => exact iff_of_true (all_done _) fun hLong => absurd hShort (Nat.not_lt.mpr hLong)
      · next hLong =>
          rw [all_bind_iff, all_panelBitsUses_iff, imp_iff_right (Nat.not_lt.mp hLong)]
          refine and_iff_left ?_
          split <;> exact all_done _

theorem all_parseGenericDtdUses_iff :
    (parseGenericDtdUses version blocks fresh panel).All property ↔
      (UsesGenericDtd version blocks panel.panelType → property panel.panelType) := by
  unfold parseGenericDtdUses UsesGenericDtd
  split
  · next hVersion => exact iff_of_true (all_done _) fun h => absurd hVersion (Nat.not_lt.mpr h.1)
  · next hVersion =>
      rw [and_iff_right (Nat.not_lt.mp hVersion)]
      cases bdbFindSection blocks .genericDtd with
      | none => simp
      | some dtd =>
          dsimp only
          split
          · next hHas => simp [hHas]
          · next hHas => simp [hHas]

theorem all_parseLfpPanelDtdUses_iff (data ptrs : BlockEntry) :
    (parseLfpPanelDtdUses fresh panel data ptrs).All property ↔ property panel.panelType := by
  unfold parseLfpPanelDtdUses
  rw [all_bind_iff, all_entryOffsetUses_iff, all_bind_iff, all_entryOffsetUses_iff]
  refine ⟨fun h => h.1, fun h => ⟨h, h, ?_⟩⟩
  dsimp only
  split <;> exact all_done _

theorem all_parseLfpModeUses_iff (data ptrs : BlockEntry) :
    (parseLfpModeUses fresh panel data ptrs).All property ↔
      (panel.lfpVbtMode = .stale .null → property panel.panelType) := by
  unfold parseLfpModeUses
  split
  · next hNull => simp [hNull, all_parseLfpPanelDtdUses_iff]
  · next hSet => exact iff_of_true (all_done _) fun hNull => absurd hNull hSet

theorem all_parseLfpDataUses_iff :
    (parseLfpDataUses version blocks fresh panel).All property ↔
      (UsesPanelData version blocks panel → property panel.panelType) := by
  unfold parseLfpDataUses UsesPanelData
  split
  · next ptrs data hPtrs hData =>
      rw [all_bind_iff, all_parseLfpModeUses_iff]
      dsimp only
      split
      · next hNone =>
          have hTail : ¬ ((LfpDataPtrs.read ptrs.payload 0).panelName.size ≠ 0 ∧ 188 ≤ version) := by
            omega
          simp [hPtrs, hData, hTail]
      · next hTail =>
          have hTail' : (LfpDataPtrs.read ptrs.payload 0).panelName.size ≠ 0 ∧ 188 ≤ version := by
            omega
          simp only [hPtrs, hData, hTail', Option.some.injEq, exists_and_left, exists_eq_left',
            ne_eq, not_false_eq_true, and_self, or_true, forall_const, all_bind_iff,
            all_entryOffsetUses_iff]
          exact ⟨fun h => h.2.1, fun h => ⟨fun _ => h, h, all_done _⟩⟩
  · next hNone =>
      refine iff_of_true (all_done _) fun ⟨ptrs, data, hPtrs, hData, _⟩ => ?_
      exact absurd hData (hNone ptrs data hPtrs)

theorem all_restrictUses_iff (drrsType : DrrsType) (enabled : Bool) (dmrrs : Uses Bool) :
    (restrictUses drrsType enabled dmrrs).All property ↔
      (enabled = false → drrsType ≠ .none → dmrrs.All property) := by
  unfold restrictUses
  split
  · next hTest => simp_all
  · next hTest => simp_all

theorem all_parsePowerConservationFeaturesUses_iff :
    (parsePowerConservationFeaturesUses version blocks panel).All property ↔
      (228 ≤ version → ∀ power, bdbFindSection blocks .lfpPower = some power →
        property (panel.panelType % 2 ^ 8)) := by
  unfold parsePowerConservationFeaturesUses
  dsimp only
  split
  · next hVersion => exact iff_of_true (all_done _) fun h => absurd hVersion (Nat.not_lt.mpr h)
  · next hVersion =>
      rw [imp_iff_right (Nat.not_lt.mp hVersion)]
      cases bdbFindSection blocks .lfpPower with
      | none => simp
      | some power =>
          simp only [all_bind_iff, all_panelBoolUses_iff, all_restrictUses_iff, all_whenUses_iff,
            Option.some.injEq, forall_eq']
          refine ⟨fun h => h.1, fun h => ⟨h, h, fun _ _ => h, fun _ => h, fun _ => h, all_done _⟩⟩

theorem all_parseEdpUses_iff :
    (parseEdpUses version blocks panel).All property ↔
      ∀ block, bdbFindSection blocks .edp = some block → property panel.panelType := by
  unfold parseEdpUses
  cases bdbFindSection blocks .edp with
  | none => simp
  | some block =>
      simp only [all_bind_iff, all_entryOffsetUses_iff, all_panelBitsUses_iff,
        all_panelBoolUses_iff, all_whenUses_iff, Option.some.injEq, forall_eq']
      refine ⟨fun h => h.1, fun h => ⟨h, h, h, fun _ => ⟨h, all_done _⟩, fun _ => ?_, h,
        fun _ => ⟨h, all_done _⟩, fun _ => h, fun _ => h, all_done _⟩⟩
      exact ⟨(all_call_iff (.shift panel.panelType) _).mpr ⟨h, all_done _⟩, all_done _⟩

theorem all_parsePsrUses_iff :
    (parsePsrUses version info blocks panel).All property ↔
      ∀ psr, bdbFindSection blocks .psr = some psr → property panel.panelType := by
  unfold parsePsrUses
  cases bdbFindSection blocks .psr with
  | none => simp
  | some psr =>
      simp only [all_bind_iff, all_entryOffsetUses_iff, all_panelBitsUses_iff, all_whenUses_iff,
        Option.some.injEq, forall_eq']
      exact ⟨fun h => h.1, fun h => ⟨h, fun _ => ⟨h, all_done _⟩, all_done _⟩⟩

variable (version blocks panel) in
/-- Some parser looks a table up under the panel type, or shifts by it, other
than the one of the power features. -/
def TakesPanelType : Prop :=
  UsesGenericDtd version blocks (panelTypeOf blocks panel.panelType) ∨
    UsesPanelData version blocks panel ∨ (∃ block, bdbFindSection blocks .edp = some block) ∨
    ∃ psr, bdbFindSection blocks .psr = some psr

/-- The values of all the uses: the old panel type for the refresh rates, the
new one cut to a byte for the power features, and the new one for the rest. -/
theorem all_parsePanelUses_iff :
    (parsePanelUses version info blocks fresh panel).All property ↔
      (∀ options, bdbFindSection blocks .lfpOptions = some options → 16 ≤ options.size →
        property panel.panelType) ∧
      (228 ≤ version → ∀ power, bdbFindSection blocks .lfpPower = some power →
        property (panelTypeOf blocks panel.panelType % 2 ^ 8)) ∧
      (TakesPanelType version blocks panel → property (panelTypeOf blocks panel.panelType)) := by
  have hType := parsePanelOptions_panelType blocks panel
  simp only [parsePanelUses, all_bind_iff, all_parsePanelOptionsUses_iff,
    result_parsePanelOptionsUses, all_parseGenericDtdUses_iff, result_parseGenericDtdUses,
    all_parseLfpDataUses_iff, result_parseLfpDataUses, all_parsePowerConservationFeaturesUses_iff,
    result_parsePowerConservationFeaturesUses, all_parseEdpUses_iff, result_parseEdpUses,
    all_parsePsrUses_iff, parseGenericDtd_panelType, parseLfpData_panelType,
    parsePanelDriverFeatures_panelType, parsePowerConservationFeatures_panelType,
    parseEdp_panelType, hType]
  have hData : (UsesGenericDtd version blocks (panelTypeOf blocks panel.panelType) →
        property (panelTypeOf blocks panel.panelType)) →
      ((UsesPanelData version blocks
          (parseGenericDtd version blocks fresh (parsePanelOptions blocks panel)) →
        property (panelTypeOf blocks panel.panelType)) ↔
      (UsesPanelData version blocks panel → property (panelTypeOf blocks panel.panelType))) := by
    intro hGeneric
    by_cases hUses : UsesGenericDtd version blocks (panelTypeOf blocks panel.panelType)
    · exact iff_of_true (fun _ => hGeneric hUses) fun _ => hGeneric hUses
    · rw [parseGenericDtd_of_not_uses (by rwa [hType])]
      unfold UsesPanelData
      rw [parsePanelOptions_lfpVbtMode]
  unfold TakesPanelType
  constructor
  · intro ⟨hOptions, hGeneric, hPanelData, hPower, hEdp, hPsr⟩
    refine ⟨hOptions, hPower, fun hTakes => ?_⟩
    rcases hTakes with hUses | hUses | ⟨block, hBlock⟩ | ⟨psr, hBlock⟩
    · exact hGeneric hUses
    · exact (hData hGeneric).mp hPanelData hUses
    · exact hEdp block hBlock
    · exact hPsr psr hBlock
  · intro ⟨hOptions, hPower, hTakes⟩
    have hGeneric := fun hUses => hTakes (.inl hUses)
    exact ⟨hOptions, hGeneric, (hData hGeneric).mpr fun hUses => hTakes (.inr (.inl hUses)), hPower,
      fun block hBlock => hTakes (.inr (.inr (.inl ⟨block, hBlock⟩))),
      fun psr hBlock => hTakes (.inr (.inr (.inr ⟨psr, hBlock⟩)))⟩

end All

end Parsers

end NootedBlue.Vbt
