import NootedBlue.Backlight.Parse

/-! The minimal brightness from version 234 on: a level of sixteen bits that is scaled
and then stored in a byte, and the least level of the PWM that follows from it. The
line that should bring the level down to 255 changes another variable. -/
namespace NootedBlue.Backlight

open Bytes Vbt Opregion

section Levels

variable (version : Nat) (block : BlockEntry) (panelType : Int)

/-- `brightness_level[panel_type].level`. -/
def brightnessLevel : Nat := u16 block.memory (entryOffset 129 4 panelType)

/-- `brightness_min_level[panel_type].level`. -/
def brightnessMinLevel : Nat := u16 block.memory (entryOffset 193 4 panelType)

/-- `brightness_precision_bits[panel_type]`. -/
def brightnessPrecision : Nat := u8 block.memory (entryOffset 257 1 panelType)

/-- The levels have more than eight bits. -/
def Scaled : Prop :=
  if version ≥ 236 then brightnessPrecision block panelType = 16 else brightnessLevel block panelType > 255

instance : Decidable (Scaled version block panelType) :=
  inferInstanceAs (Decidable (if version ≥ 236 then _ = 16 else _ > 255))

/-- The minimal level as it should be stored, but for the limit of a byte. -/
def scaledMinLevel : Nat :=
  if Scaled version block panelType then brightnessMinLevel block panelType / 255
  else brightnessMinLevel block panelType

/-- A block with another minimal level that is not greater, for the same panel. -/
structure LowerMinLevel (other : BlockEntry) : Prop where
  level : brightnessLevel other panelType = brightnessLevel block panelType
  precision : brightnessPrecision other panelType = brightnessPrecision block panelType
  minLevel : brightnessMinLevel other panelType ≤ brightnessMinLevel block panelType

end Levels

/-- The controller of the PWM that is used for a panel. -/
def usedController (registers : Registers) (display : VbtPanel) (block : BlockEntry) : Nat :=
  pwmController registers (vbtController display.version block display.panelType)

/-- The frequency of the PWM in the VBT. -/
def vbtPwmFreqHz (display : VbtPanel) (block : BlockEntry) : Nat :=
  u16 block.memory (entryOffset 1 lfpBacklightDataEntrySize display.panelType + 1)

/-- What is promised about the minimal brightness of a panel: the parse returns with it,
cut to 255; it grows with the level of the block; and the least level of the PWM is at
most the greatest. -/
structure MinBrightnessKept (registers : Registers) (display : VbtPanel) (block : BlockEntry)
    (rawclkFreq : Word) (oldPresent : Bool) (old : PanelSetup) : Prop where
  parsed : ∃ panel setup,
    parseLfpBacklight registers display rawclkFreq oldPresent old = some panel ∧
      panel.setup = .written setup ∧
      setup.vbt.minBrightness = min 255 (scaledMinLevel display.version block display.panelType) ∧
      setup.backlight.pwmLevelMin.toNat =
        scale (min 64 setup.vbt.minBrightness) 0 255 0 setup.backlight.pwmLevelMax.toNat ∧
      setup.backlight.pwmLevelMin ≤ setup.backlight.pwmLevelMax
  monotone : ∀ other, LowerMinLevel block display.panelType other →
    vbtMinBrightness display.version other display.panelType ≤
      vbtMinBrightness display.version block display.panelType

/-- When that is so: the level fits in a byte, or what is cut off leaves 255; and there
is a frequency to divide by, unless the BIOS has left a period. -/
structure MinBrightnessFits (registers : Registers) (display : VbtPanel) (block : BlockEntry) :
    Prop where
  byte : scaledMinLevel display.version block display.panelType ≤ 255 ∨
    scaledMinLevel display.version block display.panelType % 2 ^ 8 = 255
  divisor : registers (bxtBlcPwmFreq (usedController registers display block)) ≠ 0 ∨
    vbtPwmFreqHz display block ≠ 0

section Lemmas

variable {version : Nat} {block other : BlockEntry} {panelType : Int}

theorem vbtMinBrightness_eq (hVersion : 234 ≤ version) :
    vbtMinBrightness version block panelType = scaledMinLevel version block panelType % 2 ^ 8 := by
  rw [vbtMinBrightness, if_pos hVersion, scaledMinLevel]
  exact congrArg (· % 2 ^ 8) (if_congr Iff.rfl rfl rfl)

/-- A lower level stays lower when it is scaled. -/
theorem scaledMinLevel_mono (lower : LowerMinLevel block panelType other) :
    scaledMinLevel version other panelType ≤ scaledMinLevel version block panelType := by
  have hScaled : Scaled version other panelType ↔ Scaled version block panelType := by
    rw [Scaled, Scaled, lower.level, lower.precision]
  rw [scaledMinLevel, scaledMinLevel]
  by_cases hBlock : Scaled version block panelType
  · rw [if_pos hBlock, if_pos (hScaled.mpr hBlock)]
    exact Nat.div_le_div_right lower.minLevel
  · rw [if_neg hBlock, if_neg (hScaled.not.mpr hBlock)]
    exact lower.minLevel

/-- The least level is a quarter of the greatest at most. -/
theorem scale_le {level max : Nat} (hLevel : level ≤ 64) (hMax : max < 2 ^ 32) :
    scale level 0 255 0 max ≤ max := by
  have hLow : ¬ level < 0 := Nat.not_lt_zero level
  have hHigh : ¬ level > 255 := by omega
  have hProduct : level * max ≤ 64 * max := Nat.mul_le_mul_right max hLevel
  have hRange : (max + 2 ^ 64 - 0) % 2 ^ 64 = max := by omega
  have hSource : (level + 2 ^ 64 - 0) % 2 ^ 64 = level := by omega
  have hTop : (255 + 2 ^ 64 - 0) % 2 ^ 64 = 255 := rfl
  simp only [scale, hLow, hHigh, if_false, hRange, hSource, hTop]
  omega

end Lemmas

section Panel

variable {registers : Registers} {display : VbtPanel} {block : BlockEntry} {rawclkFreq : Word}
  {oldPresent : Bool} {old : PanelSetup}

theorem parseLfpBacklight_of_known (hKnown : KnownBacklight display block) :
    parseLfpBacklight registers display rawclkFreq oldPresent old =
      (setUpPanel registers display block rawclkFreq old).map fun setup =>
        ⟨portClock registers, .written true, .written setup⟩ := by
  obtain ⟨hBlock, hSize, hType⟩ := hKnown
  simp only [parseLfpBacklight, hBlock, hSize, hType, ne_eq, not_true_eq_false, if_false]
  cases setUpPanel registers display block rawclkFreq old <;> rfl

/-- There is a greatest level just when there is something to divide by. -/
theorem pwmLevelMax_isSome_iff {controller : Nat} {pwmFreqHz : Nat} (hFreq : pwmFreqHz < 2 ^ 16) :
    (∃ levelMax, pwmLevelMax registers controller rawclkFreq (.ofNat 32 pwmFreqHz) = some levelMax) ↔
      registers (bxtBlcPwmFreq controller) ≠ 0 ∨ pwmFreqHz ≠ 0 := by
  have hZero : BitVec.ofNat 32 pwmFreqHz = 0 ↔ pwmFreqHz = 0 := by
    rw [← BitVec.toNat_inj, BitVec.toNat_ofNat]
    change pwmFreqHz % 2 ^ 32 = 0 ↔ _
    omega
  rw [pwmLevelMax, cnpHzToPwm]
  by_cases hRegister : registers (bxtBlcPwmFreq controller) = 0
  · rw [if_pos hRegister]
    by_cases hFreqZero : pwmFreqHz = 0
    · rw [if_pos (hZero.mpr hFreqZero)]
      simp [hRegister, hFreqZero]
    · rw [if_neg (hZero.not.mpr hFreqZero)]
      exact iff_of_true ⟨_, rfl⟩ (Or.inr hFreqZero)
  · rw [if_neg hRegister]
    exact iff_of_true ⟨_, rfl⟩ (Or.inl hRegister)

theorem setUpPanel_isSome_iff :
    (∃ setup, setUpPanel registers display block rawclkFreq old = some setup) ↔
      registers (bxtBlcPwmFreq (usedController registers display block)) ≠ 0 ∨
        vbtPwmFreqHz display block ≠ 0 := by
  have hFreq : vbtPwmFreqHz display block < 2 ^ 16 := Bytes.u16_lt _ _
  rw [← @pwmLevelMax_isSome_iff registers rawclkFreq _ _ hFreq]
  constructor
  · rintro ⟨setup, hSetup⟩
    obtain ⟨levelMax, hMax, -⟩ := Option.bind_eq_some_iff.mp hSetup
    exact ⟨levelMax, hMax⟩
  · rintro ⟨levelMax, hMax⟩
    exact ⟨_, Option.bind_eq_some_iff.mpr ⟨levelMax, hMax, rfl⟩⟩

theorem pwmLevelMin_of_setUpPanel {setup : PanelSetup}
    (hSetup : setUpPanel registers display block rawclkFreq old = some setup) :
    setup.backlight.pwmLevelMin.toNat =
        scale (min 64 setup.vbt.minBrightness) 0 255 0 setup.backlight.pwmLevelMax.toNat ∧
      setup.backlight.pwmLevelMin ≤ setup.backlight.pwmLevelMax := by
  obtain ⟨levelMax, -, hBacklight, -⟩ := setUpPanel_eq_some hSetup
  have hLe : scale (min 64 setup.vbt.minBrightness) 0 255 0 levelMax.toNat ≤ levelMax.toNat :=
    scale_le (Nat.min_le_left 64 _) levelMax.isLt
  have hLt := levelMax.isLt
  simp only [hBacklight, pwmBacklight, BitVec.le_def, BitVec.toNat_ofNat, Nat.min_comm _ 64]
  rw [Nat.mod_eq_of_lt (by omega)]
  exact ⟨rfl, hLe⟩

end Panel

/-- The minimal brightness is kept just when the level fits and no division by zero
comes before it. -/
theorem min_brightness_iff (registers : Registers) (display : VbtPanel) (block : BlockEntry)
    (rawclkFreq : Word) (oldPresent : Bool) (old : PanelSetup) (hVersion : 234 ≤ display.version)
    (hKnown : KnownBacklight display block) :
    MinBrightnessKept registers display block rawclkFreq oldPresent old ↔
      MinBrightnessFits registers display block := by
  have hByte := @vbtMinBrightness_eq display.version block display.panelType hVersion
  constructor
  · rintro ⟨⟨panel, setup, hParse, hWritten, hStored, -⟩, -⟩
    rw [parseLfpBacklight_of_known hKnown, Option.map_eq_some_iff] at hParse
    obtain ⟨parsed, hSetup, rfl⟩ := hParse
    obtain rfl := Slot.written.inj hWritten
    obtain ⟨_, hVbt, -⟩ := setUpPanel_eq_some hSetup
    have hMin : parsed.vbt.minBrightness = vbtMinBrightness display.version block display.panelType := by
      rw [hVbt, vbtBacklight]
    refine ⟨?_, setUpPanel_isSome_iff.mp ⟨_, hSetup⟩⟩
    rw [hMin, hByte] at hStored
    omega
  · rintro ⟨hFits, hDivisor⟩
    obtain ⟨setup, hSetup⟩ := setUpPanel_isSome_iff.mpr hDivisor
    obtain ⟨_, hVbt, -⟩ := setUpPanel_eq_some hSetup
    have hMin : setup.vbt.minBrightness = vbtMinBrightness display.version block display.panelType := by
      rw [hVbt, vbtBacklight]
    have hStored : setup.vbt.minBrightness =
        min 255 (scaledMinLevel display.version block display.panelType) := by
      rw [hMin, hByte]
      omega
    have hParse := @parseLfpBacklight_of_known registers display block rawclkFreq oldPresent old hKnown
    rw [hSetup] at hParse
    refine ⟨⟨_, setup, hParse, rfl, hStored, pwmLevelMin_of_setUpPanel hSetup⟩, ?_⟩
    intro other lower
    have hLower := @scaledMinLevel_mono display.version block other display.panelType lower
    rw [hByte, vbtMinBrightness_eq hVersion]
    omega

/-- A block of version 236 with a minimal level of two bytes for the first panel, and with
eight bits for a level. -/
def levelBlock (low high : UInt8) : BlockEntry where
  id := .lfpBacklight
  memory := fun i =>
    if i = 3 then 6 else if i = 4 then 2 else if i = 5 then 200
    else if i = 196 then low else if i = 197 then high else 0
  allocated := 512

def levelDisplay (low high : UInt8) : VbtPanel where
  version := 236
  blocks := [levelBlock low high]
  panelType := 0
  edpPps := ⟨0, 0, 0, 0, 0⟩

theorem levelBlock_known (low high : UInt8) :
    KnownBacklight (levelDisplay low high) (levelBlock low high) :=
  ⟨rfl, rfl, rfl⟩

/-- A minimal level of 26 is kept. -/
theorem flat_block_kept :
    scaledMinLevel 236 (levelBlock 26 0) 0 = 26 ∧
      MinBrightnessKept (fun _ => 0) (levelDisplay 26 0) (levelBlock 26 0) 24000 false clearedPanel :=
  ⟨by decide, (min_brightness_iff _ _ _ _ _ _ (by decide) (levelBlock_known 26 0)).mpr
    ⟨by decide, Or.inr (by decide)⟩⟩

/-- A minimal level of 256 is stored as 0. -/
theorem steep_block_not_kept :
    ¬ MinBrightnessKept (fun _ => 0) (levelDisplay 0 1) (levelBlock 0 1) 24000 false
      clearedPanel := by
  rintro ⟨⟨panel, setup, hParse, hWritten, hStored, -⟩, -⟩
  rw [parseLfpBacklight_of_known (levelBlock_known 0 1), Option.map_eq_some_iff] at hParse
  obtain ⟨parsed, hSetup, rfl⟩ := hParse
  obtain rfl := Slot.written.inj hWritten
  obtain ⟨_, hVbt, -⟩ := setUpPanel_eq_some hSetup
  rw [hVbt] at hStored
  revert hStored
  decide

end NootedBlue.Backlight
