import NootedBlue.Backlight.Levels
import NootedBlue.Backlight.Power

/-! Which controller the registers of the panel belong to. The PWM is that of a
controller that was checked. The power sequencer is the one that the VBT names,
and nothing looks whether the panel was set up at all. -/
namespace NootedBlue.Backlight

open Vbt Opregion Writes

/-- The PWM registers of a controller. -/
def pwmRegisters (controller : Nat) : List Nat :=
  [bxtBlcPwmCtl controller, bxtBlcPwmFreq controller, bxtBlcPwmDuty controller]

/-- The registers of a power sequencer. -/
def PpsRegisters.all (regs : PpsRegisters) : List Nat :=
  [regs.ppCtrl, regs.ppStat, regs.ppOn, regs.ppOff, regs.ppDiv]

/-- All writes of `hwGetCRTC` and of `hwSetPanelPowerConfig` go to one controller,
whatever the driver and the registers hold by then. -/
structure WritesOnly (setup : PanelSetup) (controller : Nat) : Prop where
  pwm : ∀ s, ∀ write ∈ hwGetCRTCWrites setup s, write.1 ∈ pwmRegisters controller
  pps : ∀ registers rawclkFreq, ∀ write ∈ panelPowerWrites registers setup rawclkFreq,
    write.1 ∈ (ppsRegisters controller).all

/-- The panel is ready to be written: this parse has set it up, and its registers
are those of one controller that is valid. -/
structure Initialised (registers : Registers) (panel : IntelPanel) : Prop where
  written : ∃ setup, panel.setup = .written setup
  controller : ∃ controller, cnpBacklightControllerIsValid registers controller ∧
    WritesOnly panel.setup.value controller

section Footprint

variable {setup : PanelSetup}

theorem hwGetCRTC_mem_pwmRegisters {s : BklState} {write : Write Nat Word}
    (hMem : write ∈ hwGetCRTCWrites setup s) :
    write.1 ∈ pwmRegisters setup.backlight.controller := by
  simp only [hwGetCRTCWrites, List.mem_append, List.mem_cons, List.not_mem_nil, or_false] at hMem
  rcases hMem with hOff | rfl | rfl | rfl | rfl
  · split at hOff
    · obtain rfl := List.mem_singleton.mp hOff
      simp [pwmRegisters]
    · cases hOff
  all_goals simp [pwmRegisters]

theorem freq_mem_hwGetCRTC (s : BklState) :
    (bxtBlcPwmFreq setup.backlight.controller, setup.backlight.pwmLevelMax) ∈
      hwGetCRTCWrites setup s := by
  simp [hwGetCRTCWrites]

theorem cycleWrite_register (setup : PanelSetup) (registers : Registers) (rawclkFreq : Word) :
    (cycleWrite registers setup rawclkFreq).1 = setup.regs.ppDiv ∨
      (cycleWrite registers setup rawclkFreq).1 = setup.regs.ppCtrl := by
  simp only [cycleWrite]
  split
  · exact .inl rfl
  · exact .inr rfl

theorem panelPower_mem_all {registers : Registers} {rawclkFreq : Word} {write : Write Nat Word}
    (hMem : write ∈ panelPowerWrites registers setup rawclkFreq) :
    write.1 ∈ setup.regs.all := by
  rcases List.mem_append.mp hMem with hDelay | hCycle
  · simp only [delayWrites, List.mem_cons, List.not_mem_nil, or_false] at hDelay
    rcases hDelay with rfl | rfl
    all_goals simp [PpsRegisters.all]
  · obtain rfl := List.mem_singleton.mp hCycle
    rcases cycleWrite_register setup (perform (delayWrites setup) registers)
      rawclkFreq with hDiv | hCtrl
    · simp [PpsRegisters.all, hDiv]
    · simp [PpsRegisters.all, hCtrl]

theorem ppOn_mem_panelPower (registers : Registers) (rawclkFreq : Word) :
    (setup.regs.ppOn, pchPpOnDelays setup.pps.ppsDelays) ∈
      panelPowerWrites registers setup rawclkFreq := by
  simp [panelPowerWrites, delayWrites]

theorem freq_mem_pwmRegisters {controller other : Nat}
    (h : bxtBlcPwmFreq controller ∈ pwmRegisters other) : controller = other := by
  simp only [pwmRegisters, bxtBlcPwmCtl, bxtBlcPwmFreq, bxtBlcPwmDuty, List.mem_cons,
    List.not_mem_nil, or_false] at h
  omega

theorem ppOn_mem_all {controller other : Nat}
    (h : (ppsRegisters controller).ppOn ∈ (ppsRegisters other).all) : controller = other := by
  simp only [PpsRegisters.all, ppsRegisters, mmioPps, List.mem_cons, List.not_mem_nil,
    or_false] at h
  omega

/-- The writes go to one controller just when the PWM and the power sequencer
are its own. -/
theorem writesOnly_iff {ppsIdx controller : Nat} (hRegs : setup.regs = ppsRegisters ppsIdx) :
    WritesOnly setup controller ↔
      setup.backlight.controller = controller ∧ ppsIdx = controller := by
  constructor
  · rintro ⟨hPwm, hPps⟩
    have hFreq := hPwm ⟨0, 0, 0, fun _ => 0⟩ _ (freq_mem_hwGetCRTC _)
    have hOn := hPps (fun _ => 0) 0 _ (ppOn_mem_panelPower _ _)
    rw [hRegs] at hOn
    exact ⟨freq_mem_pwmRegisters hFreq, ppOn_mem_all hOn⟩
  · rintro ⟨rfl, rfl⟩
    exact {
      pwm := fun _ _ hMem => hwGetCRTC_mem_pwmRegisters hMem
      pps := fun _ _ _ hMem => hRegs ▸ panelPower_mem_all hMem }

end Footprint

section Initialised

variable {registers : Registers} {display : VbtPanel} {rawclkFreq : Word} {oldPresent : Bool}
  {old : PanelSetup} {panel : IntelPanel}

/-- The controller that is used is the one that is asked for just when that one is
valid: the one that stands in for others is valid itself. -/
theorem valid_and_pwmController_iff {controller : Nat} :
    (∃ own, cnpBacklightControllerIsValid registers own ∧
        pwmController registers controller = own ∧ controller = own) ↔
      cnpBacklightControllerIsValid registers controller := by
  constructor
  · rintro ⟨own, hValid, -, rfl⟩
    exact hValid
  · intro hValid
    exact ⟨controller, hValid, by simp [pwmController, hValid], rfl⟩

/-- A panel is ready just when it is known and the VBT names a valid controller. -/
theorem panel_initialised_iff
    (hParse : parseLfpBacklight registers display rawclkFreq oldPresent old = some panel) :
    Initialised registers panel ↔
      ∃ block, KnownBacklight display block ∧
        cnpBacklightControllerIsValid registers
          (vbtController display.version block display.panelType) := by
  rcases parseLfpBacklight_cases hParse with ⟨block, setup, hKnown, hSetup, hPanel⟩ |
    ⟨hUnknown, hPanel⟩
  · obtain ⟨levelMax, hVbt, hBacklight, -, hRegs⟩ := setUpPanel_eq_some hSetup
    have hController : setup.vbt.controller =
        vbtController display.version block display.panelType := by
      simp [hVbt, vbtBacklight]
    have hOwn : setup.backlight.controller = pwmController registers setup.vbt.controller := by
      simp [hBacklight, pwmBacklight]
    have hOnly : (∃ own, cnpBacklightControllerIsValid registers own ∧ WritesOnly setup own) ↔
        cnpBacklightControllerIsValid registers setup.vbt.controller := by
      simp only [writesOnly_iff hRegs, hOwn]
      exact valid_and_pwmController_iff
    constructor
    · rintro ⟨-, hOne⟩
      simp only [hPanel, Slot.value] at hOne
      exact ⟨block, hKnown, hController ▸ hOnly.mp hOne⟩
    · rintro ⟨other, hOther, hValid⟩
      obtain rfl : other = block := Option.some.inj (hOther.1.symm.trans hKnown.1)
      exact {
        written := ⟨setup, hPanel⟩
        controller := by
          simp only [hPanel, Slot.value]
          exact hOnly.mpr (hController ▸ hValid) }
  · constructor
    · rintro ⟨⟨setup, hWritten⟩, -⟩
      simp [hPanel] at hWritten
    · rintro ⟨block, hKnown, -⟩
      exact absurd ⟨block, hKnown⟩ hUnknown

theorem dimPanel_initialised :
    ∃ panel, parseLfpBacklight dimRegisters dimDisplay 24000 false clearedPanel = some panel ∧
      Initialised dimRegisters panel := by
  have hParse := (Option.some_get dimPanel_parsed).symm
  refine ⟨_, hParse, (panel_initialised_iff hParse).mpr ⟨dimBlock, ?_, by decide⟩⟩
  exact ⟨by simp [dimDisplay, bdbFindSection, dimBlock], by decide, by decide⟩

/-- Without a block the writes go to the registers that memory has by chance. -/
theorem unset_panel_is_written :
    ∃ panel, parseLfpBacklight dimRegisters { dimDisplay with blocks := [] } 24000 false
        clearedPanel = some panel ∧
      (panelPowerWrites dimRegisters panel.setup.value 24000).map (·.1) = [0, 0, 0] ∧
      ¬ Initialised dimRegisters panel := by
  refine ⟨_, rfl, by decide, ?_⟩
  rintro ⟨⟨setup, hWritten⟩, -⟩
  cases hWritten

end Initialised

end NootedBlue.Backlight
