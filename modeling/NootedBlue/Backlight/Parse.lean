import NootedBlue.Opregion.Setup
import NootedBlue.Semantics.Fields

/-! The backlight of the panel: what `parse_lfp_backlight` takes from the VBT
and from the registers that the BIOS has left. Three of its returns come before
anything of the panel is set up. -/
namespace NootedBlue.Backlight

open Bytes Vbt Opregion Bits

abbrev Word := BitVec 32

/-- The register file; `readReg32`. -/
abbrev Registers := Nat → Word

/-- The `backlight` part of `struct intel_vbt_panel_data`. -/
structure VbtBacklight where
  type : Nat
  controller : Nat
  pwmFreqHz : Nat
  activeLowPwm : Bool
  minBrightness : Nat
  brightnessPrecisionBits : Nat
  hdrDpcdRefreshTimeout : Nat
  deriving DecidableEq, Repr

/-- The `backlight` part of `struct intel_panel`. -/
structure PwmBacklight where
  controller : Nat
  utilPinActiveLow : Bool
  activeLowPwm : Bool
  pwmLevelMax : Word
  pwmLevelMin : Word
  level : Word
  pwmEnabled : Bool
  deriving DecidableEq, Repr

/-- `struct pps_registers`. -/
structure PpsRegisters where
  ppCtrl : Nat
  ppStat : Nat
  ppOn : Nat
  ppOff : Nat
  ppDiv : Nat
  deriving DecidableEq, Repr

/-- `struct intel_pps`. -/
structure IntelPps where
  ppsIdx : Nat
  biosPpsDelays : PpsDelays
  ppsDelays : PpsDelays
  panelPowerUpDelay : Nat
  backlightOnDelay : Nat
  backlightOffDelay : Nat
  panelPowerDownDelay : Nat
  panelPowerCycleDelay : Nat
  deriving DecidableEq, Repr

/-- The members of `struct intel_panel` that are set up together. -/
structure PanelSetup where
  vbt : VbtBacklight
  backlight : PwmBacklight
  pps : IntelPps
  regs : PpsRegisters
  deriving DecidableEq, Repr

/-- What `parse_lfp_backlight` leaves: the port clock of the display, whether
there is a backlight that it knows, and the panel. -/
structure IntelPanel where
  portClock : Nat
  present : Slot Bool Bool
  setup : Slot PanelSetup PanelSetup
  deriving DecidableEq

section Registers

/-- `DP_A` and `SOUTH_CHICKEN1`; `UTIL_PIN_CTL`. -/
def dpA : Nat := 0x64000
def southChicken1 : Nat := 0xc2000
def utilPinCtl : Nat := 0x48400

/-- `BXT_BLC_PWM_CTL`, `BXT_BLC_PWM_FREQ` and `BXT_BLC_PWM_DUTY`. -/
def bxtBlcPwmCtl (controller : Nat) : Nat := 0xC8250 + controller * 0x100
def bxtBlcPwmFreq (controller : Nat) : Nat := 0xC8254 + controller * 0x100
def bxtBlcPwmDuty (controller : Nat) : Nat := 0xC8258 + controller * 0x100

def bxtBlcPwmEnable : Word := 1 <<< 31
def bxtBlcPwmPolarity : Word := 1 <<< 29

/-- `PCH_PPS_BASE` and `PPS_BASE`. -/
def pchPpsBase : Nat := 0xC7200
def ppsBase : Nat := 0x61200

/-- `_MMIO_PPS`. -/
def mmioPps (ppsIdx reg : Nat) : Nat := pchPpsBase - ppsBase + reg + ppsIdx * 0x100

/-- `PP_CONTROL`, `PP_STATUS`, `PP_ON_DELAYS`, `PP_OFF_DELAYS` and `PP_DIVISOR`. -/
def ppsRegisters (ppsIdx : Nat) : PpsRegisters where
  ppCtrl := mmioPps ppsIdx 0x61204
  ppStat := mmioPps ppsIdx 0x61200
  ppOn := mmioPps ppsIdx 0x61208
  ppOff := mmioPps ppsIdx 0x6120C
  ppDiv := mmioPps ppsIdx 0x61210

/-- `PANEL_POWER_UP_DELAY_MASK`, `PANEL_LIGHT_ON_DELAY_MASK`,
`PANEL_POWER_DOWN_DELAY_MASK`, `PANEL_LIGHT_OFF_DELAY_MASK`,
`PP_REFERENCE_DIVIDER_MASK`, `PANEL_POWER_CYCLE_DELAY_MASK` and
`BXT_POWER_CYCLE_DELAY_MASK`. -/
def panelPowerUpDelay : Field := ⟨16, 13⟩
def panelLightOnDelay : Field := ⟨0, 13⟩
def panelPowerDownDelay : Field := ⟨16, 13⟩
def panelLightOffDelay : Field := ⟨0, 13⟩
def ppReferenceDivider : Field := ⟨8, 24⟩
def panelPowerCycleDelay : Field := ⟨0, 5⟩
def bxtPowerCycleDelay : Field := ⟨4, 5⟩

end Registers

/-- `cnp_backlight_controller_is_valid`: the second controller needs its pins. -/
def cnpBacklightControllerIsValid (registers : Registers) (controller : Nat) : Bool :=
  if controller ≥ 2 then false
  else if controller = 1 then (registers southChicken1).getLsbD 2
  else true

/-- `cnp_hz_to_pwm`. Nothing means a division by zero. -/
def cnpHzToPwm (rawclkFreq pwmFreqHz : Word) : Option Word :=
  if pwmFreqHz = 0 then none
  else some ((1000 * rawclkFreq + pwmFreqHz / 2) / pwmFreqHz)

/-- `scale`, in 64 bits and then cut to 32. -/
def scale (sourceVal sourceMin sourceMax targetMin targetMax : Nat) : Nat :=
  let sourceVal :=
    if sourceVal < sourceMin then sourceMin
    else if sourceVal > sourceMax then sourceMax
    else sourceVal
  let sourceRange := (sourceMax + 2 ^ 64 - sourceMin) % 2 ^ 64
  let targetRange := (targetMax + 2 ^ 64 - targetMin) % 2 ^ 64
  let product := (sourceVal + 2 ^ 64 - sourceMin) % 2 ^ 64 * targetRange % 2 ^ 64
  let rounded := (product + sourceRange / 2) % 2 ^ 64 / sourceRange
  (rounded + targetMin) % 2 ^ 64 % 2 ^ 32

section Vbt

/-- `sizeof(struct lfp_backlight_data_entry)` and `BDB_BACKLIGHT_TYPE_PWM`. -/
def lfpBacklightDataEntrySize : Nat := 6
def bdbBacklightTypePwm : Nat := 2

/-- The size of an entry, as the block has it. -/
def entrySize (block : BlockEntry) : Nat := u8 block.payload 0

/-- The type of the backlight of a panel. -/
def entryType (block : BlockEntry) (panelType : Int) : Nat :=
  u8 block.memory (entryOffset 1 lfpBacklightDataEntrySize panelType) % 4

/-- The controller of a panel: the first one, unless the version has the
control methods. -/
def vbtController (version : Nat) (block : BlockEntry) (panelType : Int) : Nat :=
  if version ≥ 191 then u8 block.memory (entryOffset 113 1 panelType) / 0x10 else 0

/-- The minimal brightness; it is cut to a byte. -/
def vbtMinBrightness (version : Nat) (block : BlockEntry) (panelType : Int) : Nat :=
  if version ≥ 234 then
    let level := u16 block.memory (entryOffset 129 4 panelType)
    let minLevel := u16 block.memory (entryOffset 193 4 panelType)
    let scaled :=
      if version ≥ 236 then u8 block.memory (entryOffset 257 1 panelType) = 16 else level > 255
    (if scaled then minLevel / 255 else minLevel) % 2 ^ 8
  else u8 block.memory (entryOffset 1 lfpBacklightDataEntrySize panelType + 3)

/-- What `parse_lfp_backlight` keeps of the block. -/
def vbtBacklight (version : Nat) (block : BlockEntry) (panelType : Int) (old : VbtBacklight) :
    VbtBacklight :=
  let entry := entryOffset 1 lfpBacklightDataEntrySize panelType
  { type := if version ≥ 191 then u8 block.memory (entryOffset 113 1 panelType) % 0x10 else 2
    controller := vbtController version block panelType
    pwmFreqHz := u16 block.memory (entry + 1)
    activeLowPwm := (u8 block.memory entry).testBit 2
    minBrightness := vbtMinBrightness version block panelType
    brightnessPrecisionBits :=
      if version ≥ 234 then u8 block.memory (entryOffset 257 1 panelType)
      else old.brightnessPrecisionBits
    hdrDpcdRefreshTimeout :=
      if version ≥ 239 then (u16 block.memory (entryOffset 273 2 panelType) + 99) / 100 else 30 }

end Vbt

section Pwm

/-- The controller that is used: the one of the VBT if it is valid. -/
def pwmController (registers : Registers) (controller : Nat) : Nat :=
  if cnpBacklightControllerIsValid registers controller then controller else 0

/-- The greatest level: what the BIOS has left, or else computed from the
frequency. -/
def pwmLevelMax (registers : Registers) (controller : Nat) (rawclkFreq pwmFreqHz : Word) :
    Option Word :=
  if registers (bxtBlcPwmFreq controller) = 0 then cnpHzToPwm rawclkFreq pwmFreqHz
  else some (registers (bxtBlcPwmFreq controller))

/-- The `backlight` part of the panel, for a greatest level. -/
def pwmBacklight (registers : Registers) (vbt : VbtBacklight) (levelMax : Word)
    (old : PwmBacklight) : PwmBacklight :=
  let controller := pwmController registers vbt.controller
  let pwmCtl := registers (bxtBlcPwmCtl controller)
  { controller
    utilPinActiveLow :=
      if controller = 1 then (registers utilPinCtl).getLsbD 22 else old.utilPinActiveLow
    activeLowPwm := pwmCtl.getLsbD 29
    pwmLevelMax := levelMax
    pwmLevelMin := .ofNat 32 (scale (min vbt.minBrightness 64) 0 255 0 levelMax.toNat)
    level := levelMax - .ofNat 32 (5 * vbt.minBrightness * 0x100)
    pwmEnabled := pwmCtl.getLsbD 31 }

end Pwm

section Pps

/-- The delays that the BIOS has left in the registers. There are panels
without a divisor register. -/
def biosPpsDelays (registers : Registers) (regs : PpsRegisters) : PpsDelays :=
  let cycle :=
    if registers regs.ppDiv ≠ BitVec.allOnes 32 then
      (panelPowerCycleDelay.get (registers regs.ppDiv)).toNat
    else (bxtPowerCycleDelay.get (registers regs.ppCtrl)).toNat
  { powerUp := (panelPowerUpDelay.get (registers regs.ppOn)).toNat
    backlightOn := (panelLightOnDelay.get (registers regs.ppOn)).toNat
    backlightOff := (panelLightOffDelay.get (registers regs.ppOff)).toNat
    powerDown := (panelPowerDownDelay.get (registers regs.ppOff)).toNat
    powerCycle := if cycle ≠ 0 then (cycle - 1) * 1000 else 0 }

/-- `msecs_to_pps_units` and `pps_units_to_msecs`. -/
def msecsToPpsUnits (msecs : Nat) : Nat := msecs * 10
def ppsUnitsToMsecs (units : Nat) : Nat := (units + 9) / 10

/-- The delays of the eDP specification. -/
def specPpsDelays : PpsDelays where
  powerUp := msecsToPpsUnits (10 + 200)
  backlightOn := msecsToPpsUnits 50
  backlightOff := msecsToPpsUnits 50
  powerDown := msecsToPpsUnits 500
  powerCycle := msecsToPpsUnits (10 + 500)

/-- `assign_final`: the larger delay, or the one of the specification. -/
def assignFinal (bios vbt spec : Nat) : Nat := if max bios vbt = 0 then spec else max bios vbt

def finalPpsDelays (bios vbt : PpsDelays) : PpsDelays where
  powerUp := assignFinal bios.powerUp vbt.powerUp specPpsDelays.powerUp
  backlightOn := assignFinal bios.backlightOn vbt.backlightOn specPpsDelays.backlightOn
  backlightOff := assignFinal bios.backlightOff vbt.backlightOff specPpsDelays.backlightOff
  powerDown := assignFinal bios.powerDown vbt.powerDown specPpsDelays.powerDown
  powerCycle := assignFinal bios.powerCycle vbt.powerCycle specPpsDelays.powerCycle

/-- The power cycle delay is rounded up to 100 ms, in 16 bits. -/
def roundPowerCycle (delays : PpsDelays) : PpsDelays :=
  { delays with powerCycle := (delays.powerCycle + 999) / 1000 * 1000 % 2 ^ 16 }

/-- The `pps` part of the panel, from the delays of the VBT. -/
def intelPps (registers : Registers) (ppsIdx : Nat) (vbt : PpsDelays) : IntelPps :=
  let bios := biosPpsDelays registers (ppsRegisters ppsIdx)
  let final := finalPpsDelays bios vbt
  { ppsIdx
    biosPpsDelays := bios
    ppsDelays := roundPowerCycle final
    panelPowerUpDelay := ppsUnitsToMsecs final.powerUp
    backlightOnDelay := ppsUnitsToMsecs final.backlightOn
    backlightOffDelay := ppsUnitsToMsecs final.backlightOff
    panelPowerDownDelay := ppsUnitsToMsecs final.powerDown
    panelPowerCycleDelay := ppsUnitsToMsecs final.powerCycle }

end Pps

/-- `EDP_PLL_FREQ_MASK` and `EDP_PLL_FREQ_162MHZ`. -/
def portClock (registers : Registers) : Nat :=
  if (⟨16, 2⟩ : Field).get (registers dpA) = 1 then 162000 else 270000

/-- What `parse_lfp_backlight` takes from the display: the version of the VBT, the
blocks, the type of the panel and its delays. -/
structure VbtPanel where
  version : Nat
  blocks : List BlockEntry
  panelType : Int
  edpPps : PpsDelays

def vbtPanel (display : IntelDisplay) : VbtPanel where
  version := display.version
  blocks := display.blocks
  panelType := display.panel.panelType
  edpPps := display.panel.edp.pps

/-- The part of `parse_lfp_backlight` behind its early returns. The index of
the power sequencer is the controller of the VBT, valid or not. -/
def setUpPanel (registers : Registers) (display : VbtPanel) (block : BlockEntry) (rawclkFreq : Word)
    (old : PanelSetup) : Option PanelSetup := do
  let vbt := vbtBacklight display.version block display.panelType old.vbt
  let controller := pwmController registers vbt.controller
  let levelMax ← pwmLevelMax registers controller rawclkFreq (.ofNat 32 vbt.pwmFreqHz)
  return {
    vbt
    backlight := pwmBacklight registers vbt levelMax old.backlight
    pps := intelPps registers vbt.controller display.edpPps
    regs := ppsRegisters vbt.controller }

/-- `parse_lfp_backlight`, the first time it is called, on a panel with these
contents. Nothing means a division by zero. -/
def parseLfpBacklight (registers : Registers) (display : VbtPanel) (rawclkFreq : Word)
    (oldPresent : Bool) (old : PanelSetup) : Option IntelPanel :=
  match bdbFindSection display.blocks .lfpBacklight with
  | none => some ⟨portClock registers, .stale oldPresent, .stale old⟩
  | some block =>
      if entrySize block ≠ lfpBacklightDataEntrySize then
        some ⟨portClock registers, .stale oldPresent, .stale old⟩
      else if entryType block display.panelType ≠ bdbBacklightTypePwm then
        some ⟨portClock registers, .written false, .stale old⟩
      else do
        let setup ← setUpPanel registers display block rawclkFreq old
        return ⟨portClock registers, .written true, .written setup⟩

/-- The panel is known: its block is there, has entries of the right size and
says that the backlight is a PWM. -/
def KnownBacklight (display : VbtPanel) (block : BlockEntry) : Prop :=
  bdbFindSection display.blocks .lfpBacklight = some block ∧
    entrySize block = lfpBacklightDataEntrySize ∧
    entryType block display.panelType = bdbBacklightTypePwm

/-- A parse that returns has set the panel up, or it has left it as it was. -/
theorem parseLfpBacklight_cases {registers : Registers} {display : VbtPanel} {rawclkFreq : Word}
    {oldPresent : Bool} {old : PanelSetup} {panel : IntelPanel}
    (h : parseLfpBacklight registers display rawclkFreq oldPresent old = some panel) :
    (∃ block setup, KnownBacklight display block ∧
        setUpPanel registers display block rawclkFreq old = some setup ∧
        panel.setup = .written setup) ∨
      (¬ ∃ block, KnownBacklight display block) ∧ panel.setup = .stale old := by
  simp only [parseLfpBacklight] at h
  split at h
  · next hNone =>
      cases h
      exact .inr ⟨by simp [KnownBacklight, hNone], rfl⟩
  · next block hBlock =>
      split at h
      · next hSize =>
          cases h
          exact .inr ⟨by simp [KnownBacklight, hBlock, hSize], rfl⟩
      · next hSize =>
          split at h
          · next hType =>
              cases h
              exact .inr ⟨by simp [KnownBacklight, hBlock, hType], rfl⟩
          · next hType =>
              obtain ⟨setup, hSetup, hPanel⟩ := Option.bind_eq_some_iff.mp h
              cases hPanel
              exact .inl ⟨block, setup, ⟨hBlock, not_not.mp hSize, not_not.mp hType⟩, hSetup, rfl⟩

/-- What a panel that was set up looks like. -/
theorem setUpPanel_eq_some {registers : Registers} {display : VbtPanel} {block : BlockEntry}
    {rawclkFreq : Word} {old setup : PanelSetup}
    (h : setUpPanel registers display block rawclkFreq old = some setup) :
    ∃ levelMax,
      setup.vbt = vbtBacklight display.version block display.panelType old.vbt ∧
      setup.backlight = pwmBacklight registers setup.vbt levelMax old.backlight ∧
      setup.pps = intelPps registers setup.vbt.controller display.edpPps ∧
      setup.regs = ppsRegisters setup.vbt.controller := by
  obtain ⟨levelMax, -, hSetup⟩ := Option.bind_eq_some_iff.mp h
  cases hSetup
  exact ⟨levelMax, rfl, rfl, rfl, rfl⟩

/-- A panel in memory that was cleared. -/
def clearedPanel : PanelSetup where
  vbt := ⟨0, 0, 0, false, 0, 0, 0⟩
  backlight := ⟨0, false, false, 0, 0, 0, false⟩
  pps := ⟨0, ⟨0, 0, 0, 0, 0⟩, ⟨0, 0, 0, 0, 0⟩, 0, 0, 0, 0, 0⟩
  regs := ⟨0, 0, 0, 0, 0⟩

/-- The block of a panel with the least minimal brightness, its display, and the
registers of a BIOS that has set a period of 4096. -/
def dimBlock : BlockEntry where
  id := .lfpBacklight
  memory := fun i => if i = 3 then 6 else if i = 4 then 2 else if i = 7 then 1 else 0
  allocated := 512

def dimDisplay : VbtPanel where
  version := 190
  blocks := [dimBlock]
  panelType := 0
  edpPps := ⟨0, 0, 0, 0, 0⟩

def dimRegisters : Registers := fun reg => if reg = bxtBlcPwmFreq 0 then 4096 else 0

end NootedBlue.Backlight
