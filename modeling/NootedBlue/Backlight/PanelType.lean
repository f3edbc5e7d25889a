import NootedBlue.Backlight.Parse
import NootedBlue.Vbt.PanelType
import NootedBlue.Vbt.Timing

/-! The panel type over the whole start of the driver: the setup that stores it
and the parsers that look tables up under it, up to `parse_lfp_backlight`. The
value is a byte of the VBT that nobody compares with the sixteen rows. -/
namespace NootedBlue.Backlight

open Bytes Vbt Opregion Bits Interaction Display

section Parsers

variable (version : Nat) (block : BlockEntry) (panelType : Int)

/-- The method of controlling the backlight: its type and its controller. -/
def methodUses : Uses (Nat × Nat) :=
  whenUses (version ≥ 191)
    (do let method ← entryOffsetUses 113 1 panelType
        return (u8 block.memory method % 0x10, u8 block.memory method / 0x10)) (2, 0)

/-- Whether the levels have more than eight bits. -/
def scaledUses (level : Nat) : Uses Bool :=
  whenUses (version ≥ 236)
    (do let bits ← entryOffsetUses 257 1 panelType
        return decide (u8 block.memory bits = 16)) (level > 255)

/-- The minimal brightness, and the precision of the levels. -/
def minBrightnessUses (entry old : Nat) : Uses (Nat × Nat) :=
  if version ≥ 234 then do
    let level ← entryOffsetUses 129 4 panelType
    let minLevel ← entryOffsetUses 193 4 panelType
    let scaled ← scaledUses version block panelType (u16 block.memory level)
    let bits ← entryOffsetUses 257 1 panelType
    let minLevel := u16 block.memory minLevel
    return ((if scaled then minLevel / 255 else minLevel) % 2 ^ 8, u8 block.memory bits)
  else do
    Program.perform (.index panelType)
    return (u8 block.memory (entry + 3), old)

/-- What is kept of the block, when the entry of the panel has been looked up. -/
def vbtBacklightUses (entry : Nat) (old : VbtBacklight) : Uses VbtBacklight := do
  let method ← methodUses version block panelType
  let brightness ← minBrightnessUses version block panelType entry old.brightnessPrecisionBits
  let timeout ← whenUses (version ≥ 239)
    (do let timeout ← entryOffsetUses 273 2 panelType
        return (u16 block.memory timeout + 99) / 100) 30
  return {
    type := method.1
    controller := method.2
    pwmFreqHz := u16 block.memory (entry + 1)
    activeLowPwm := (u8 block.memory entry).testBit 2
    minBrightness := brightness.1
    brightnessPrecisionBits := brightness.2
    hdrDpcdRefreshTimeout := timeout }

/-- The part behind the early returns. -/
def setUpPanelUses (registers : Registers) (display : VbtPanel) (block : BlockEntry) (entry : Nat)
    (rawclkFreq : Word) (old : PanelSetup) : Uses (Option PanelSetup) := do
  let vbt ← vbtBacklightUses display.version block display.panelType entry old.vbt
  return do
    let controller := pwmController registers vbt.controller
    let levelMax ← pwmLevelMax registers controller rawclkFreq (.ofNat 32 vbt.pwmFreqHz)
    return {
      vbt
      backlight := pwmBacklight registers vbt levelMax old.backlight
      pps := intelPps registers vbt.controller display.edpPps
      regs := ppsRegisters vbt.controller }

/-- `parse_lfp_backlight`. -/
def parseLfpBacklightUses (registers : Registers) (display : VbtPanel) (rawclkFreq : Word)
    (oldPresent : Bool) (old : PanelSetup) : Uses (Option IntelPanel) :=
  match bdbFindSection display.blocks .lfpBacklight with
  | none => return some ⟨portClock registers, .stale oldPresent, .stale old⟩
  | some block =>
      if entrySize block ≠ lfpBacklightDataEntrySize then
        return some ⟨portClock registers, .stale oldPresent, .stale old⟩
      else do
        let entry ← entryOffsetUses 1 lfpBacklightDataEntrySize display.panelType
        if u8 block.memory entry % 4 ≠ bdbBacklightTypePwm then
          return some ⟨portClock registers, .written false, .stale old⟩
        else do
          let setup ← setUpPanelUses registers display block entry rawclkFreq old
          return setup.map fun setup => ⟨portClock registers, .written true, .written setup⟩

section Results

theorem result_minBrightnessUses (old : Nat) :
    (minBrightnessUses version block panelType (entryOffset 1 lfpBacklightDataEntrySize panelType)
      old).result = (vbtMinBrightness version block panelType,
        if version ≥ 234 then u8 block.memory (entryOffset 257 1 panelType) else old) := by
  unfold minBrightnessUses vbtMinBrightness scaledUses
  by_cases hVersion : version ≥ 234
  · rw [if_pos hVersion, if_pos hVersion, if_pos hVersion]
    simp only [result_bind, result_whenUses, result_entryOffsetUses, decide_eq_true_eq]
    by_cases hBits : version ≥ 236
    · simp only [hBits, if_true, result_done, Program.pure_eq]
      by_cases hWide : u8 block.memory (entryOffset 257 1 panelType) = 16
      · simp [hWide]
      · simp [hWide]
    · simp [hBits]
  · rw [if_neg hVersion, if_neg hVersion, if_neg hVersion]
    rfl

theorem result_vbtBacklightUses (old : VbtBacklight) :
    (vbtBacklightUses version block panelType (entryOffset 1 lfpBacklightDataEntrySize panelType)
      old).result = vbtBacklight version block panelType old := by
  unfold vbtBacklightUses vbtBacklight vbtController methodUses
  simp only [result_bind, result_minBrightnessUses, result_whenUses, result_entryOffsetUses,
    decide_eq_true_eq]
  by_cases hMethod : version ≥ 191
  · simp only [hMethod, if_true]
    rfl
  · simp only [hMethod, if_false]
    rfl

variable (registers : Registers) (display : VbtPanel) (rawclkFreq : Word) (oldPresent : Bool)
  (old : PanelSetup)

theorem result_setUpPanelUses :
    (setUpPanelUses registers display block
      (entryOffset 1 lfpBacklightDataEntrySize display.panelType) rawclkFreq old).result =
        setUpPanel registers display block rawclkFreq old := by
  unfold setUpPanelUses setUpPanel
  rw [result_bind, result_vbtBacklightUses]
  rfl

/-- The backlight is parsed as before. -/
theorem result_parseLfpBacklightUses :
    (parseLfpBacklightUses registers display rawclkFreq oldPresent old).result =
      parseLfpBacklight registers display rawclkFreq oldPresent old := by
  unfold parseLfpBacklightUses parseLfpBacklight
  cases bdbFindSection display.blocks .lfpBacklight with
  | none => rfl
  | some block =>
      dsimp only
      by_cases hSize : entrySize block ≠ lfpBacklightDataEntrySize
      · rw [if_pos hSize, if_pos hSize]
        rfl
      · rw [if_neg hSize, if_neg hSize, result_bind, result_entryOffsetUses]
        by_cases hType : entryType block display.panelType ≠ bdbBacklightTypePwm
        · rw [if_pos hType]
          exact congrArg Uses.result (if_pos hType)
        · rw [if_neg hType]
          refine (congrArg Uses.result (if_neg hType)).trans ?_
          rw [result_bind, result_setUpPanelUses]
          cases setUpPanel registers display block rawclkFreq old <;> rfl

section All

variable {version block panelType registers display rawclkFreq oldPresent old}
  {property : Int → Prop}

theorem all_vbtBacklightUses (entry : Nat) (oldVbt : VbtBacklight) (h : property panelType) :
    (vbtBacklightUses version block panelType entry oldVbt).All property := by
  have hBrightness : (minBrightnessUses version block panelType entry
      oldVbt.brightnessPrecisionBits).All property := by
    unfold minBrightnessUses scaledUses
    split
    · simp [h]
    · simp [h, PanelUse.panelType]
  unfold vbtBacklightUses methodUses
  simp [h, hBrightness]

/-- Every use has the panel type of the display, and there is one as soon as the
block has entries of the right size. -/
theorem all_parseLfpBacklightUses_iff :
    (parseLfpBacklightUses registers display rawclkFreq oldPresent old).All property ↔
      ∀ block, bdbFindSection display.blocks .lfpBacklight = some block →
        entrySize block = lfpBacklightDataEntrySize → property display.panelType := by
  unfold parseLfpBacklightUses
  cases bdbFindSection display.blocks .lfpBacklight with
  | none => simp
  | some block =>
      simp only [Option.some.injEq, forall_eq']
      split
      · next hSize => exact iff_of_true (all_done _) fun hSame => absurd hSame hSize
      · next hSize =>
          rw [all_bind_iff, all_entryOffsetUses_iff, imp_iff_right (not_not.mp hSize)]
          refine ⟨fun h => h.1, fun h => ⟨h, ?_⟩⟩
          split
          · exact all_done _
          · rw [all_bind_iff, setUpPanelUses, all_bind_iff]
            exact ⟨⟨all_vbtBacklightUses _ _ h, all_done _⟩, all_done _⟩

end All

end Results

end Parsers

section Safe

variable (version : Nat) (info : DisplayInfo) (blocks : List BlockEntry) (fresh : Mode)
  (panel : Panel)

/-- What the setup leaves for `parse_lfp_backlight`. -/
def parsedDisplay : VbtPanel where
  version
  blocks
  panelType := (parsePanel version info blocks fresh panel).panelType
  edpPps := (parsePanel version info blocks fresh panel).edp.pps

/-- The panel type of the options block, or zero without one. -/
def namedPanelType : Int :=
  match bdbFindSection blocks .lfpOptions with
  | none => 0
  | some options => u8 options.payload 0

/-- Every index and every shift count is the named panel type, and is that of one
of the sixteen rows. -/
def PanelTypeSafe (registers : Registers) (rawclkFreq : Word) (oldPresent : Bool)
    (old : PanelSetup) : Prop :=
  (parsePanelUses version info blocks fresh panel).All
      (fun value => value = namedPanelType blocks ∧ value < 16) ∧
    (parseLfpBacklightUses registers (parsedDisplay version info blocks fresh panel) rawclkFreq
      oldPresent old).All (fun value => value = namedPanelType blocks ∧ value < 16)

/-- The named panel type has a row, and so has the one from before if it is not
replaced. -/
def HasRow (old : Int) : Prop :=
  match bdbFindSection blocks .lfpOptions with
  | none => old = 0
  | some options => u8 options.payload 0 < 16

/-- There are backlight data with entries of the right size. -/
def HasBacklightData : Prop :=
  ∃ block, bdbFindSection blocks .lfpBacklight = some block ∧
    entrySize block = lfpBacklightDataEntrySize

variable {blocks}

theorem hasRow_iff {old : Int} :
    (panelTypeOf blocks old = namedPanelType blocks ∧ panelTypeOf blocks old < 16) ↔
      HasRow blocks old := by
  unfold panelTypeOf namedPanelType HasRow
  cases bdbFindSection blocks .lfpOptions with
  | none =>
      dsimp only
      omega
  | some options =>
      dsimp only
      omega

/-- The panel type of a block has eight bits already. -/
theorem panelTypeOf_mod (old : Int) :
    panelTypeOf blocks old % 2 ^ 8 = panelTypeOf blocks (old % 2 ^ 8) := by
  unfold panelTypeOf
  cases bdbFindSection blocks .lfpOptions with
  | none => rfl
  | some options =>
      have hByte := u8_lt options.payload 0
      dsimp only
      omega

end Safe

/-- The panel type is used safely exactly when the memory of the panel already
holds the panel type of an options block with refresh rates, and the panel type
has a row as soon as there are tables for it: the named one, or else the zero
that the memory holds. -/
theorem panel_type_iff (version : Nat) (info : DisplayInfo) (blocks : List BlockEntry)
    (fresh : Mode) (panel : Panel) (registers : Registers) (rawclkFreq : Word) (oldPresent : Bool)
    (old : PanelSetup) :
    PanelTypeSafe version info blocks fresh panel registers rawclkFreq oldPresent old ↔
      (∀ options, bdbFindSection blocks .lfpOptions = some options → 16 ≤ options.size →
        panel.panelType = u8 options.payload 0 ∧ u8 options.payload 0 < 16) ∧
      (TakesPanelType version blocks panel ∨ HasBacklightData blocks →
        HasRow blocks panel.panelType) ∧
      (228 ≤ version → (∃ power, bdbFindSection blocks .lfpPower = some power) →
        HasRow blocks (panel.panelType % 2 ^ 8)) := by
  have hOptions : (∀ options, bdbFindSection blocks .lfpOptions = some options →
        16 ≤ options.size → panel.panelType = namedPanelType blocks ∧ panel.panelType < 16) ↔
      ∀ options, bdbFindSection blocks .lfpOptions = some options → 16 ≤ options.size →
        panel.panelType = u8 options.payload 0 ∧ u8 options.payload 0 < 16 := by
    refine forall_congr' fun options => imp_congr_right fun hFound => imp_congr_right fun _ => ?_
    simp only [namedPanelType, hFound]
    omega
  unfold PanelTypeSafe
  rw [all_parsePanelUses_iff, all_parseLfpBacklightUses_iff, hOptions]
  simp only [parsedDisplay, parsePanel_panelType, panelTypeOf_mod, hasRow_iff]
  constructor
  · intro ⟨⟨hOld, hPower, hTakes⟩, hBacklight⟩
    refine ⟨hOld, fun hEither => ?_, fun hVersion ⟨power, hFound⟩ => hPower hVersion power hFound⟩
    cases hEither with
    | inl hUses => exact hTakes hUses
    | inr hData =>
        obtain ⟨block, hFound, hSize⟩ := hData
        exact hBacklight block hFound hSize
  · intro ⟨hOld, hTables, hPower⟩
    exact ⟨⟨hOld, fun hVersion power hFound => hPower hVersion ⟨power, hFound⟩,
      fun hUses => hTables (.inl hUses)⟩,
      fun block hFound hSize => hTables (.inr ⟨block, hFound, hSize⟩)⟩

/-- An options block of the second panel, and a zeroed panel. -/
def secondPanelOptions : BlockEntry where
  id := .lfpOptions
  memory := fun i => [40, 34, 0, 2].getD i 0
  allocated := 37

/-- The refresh rates of the second panel are looked up under the first one. -/
theorem second_panel_not_safe :
    ¬ PanelTypeSafe 250 Platform.tigerlake.info [secondPanelOptions] .cleared .cleared
      (fun _ => 0) 0 false clearedPanel := by
  intro hSafe
  have hOld := all_parsePanelUses_iff.mp hSafe.1
  have hSame := (hOld.1 secondPanelOptions rfl (by decide)).1
  revert hSame
  decide

end NootedBlue.Backlight
