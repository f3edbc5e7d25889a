import NootedBlue.Backlight.Parse
import NootedBlue.Semantics.Run
import NootedBlue.Semantics.Writes

/-! The level of the backlight. Three functions change the level of the driver,
the level that it has saved and the duty register, each with limits of its
own. -/
namespace NootedBlue.Backlight

open Vbt Writes Transition

/-- The fields of the driver, and the registers. -/
structure BklState where
  bklFrequency : Word
  bklLvl : Word
  bklLvlSaved : Word
  registers : Registers

/-- A call after the panel was parsed. The vendor's functions are left out. -/
inductive BklCall where
  | hwGetCRTC
  | setAttribute (value : BitVec 64)
  | getAttribute
  deriving DecidableEq, Repr

section Calls

variable (setup : PanelSetup) (s : BklState)

/-- A level that is not below a floor. -/
def atLeast (floor level : Word) : Word := if level < floor then floor else level

/-- The value that `wrapSetAttributeForConnection` stores, before it is cut to
32 bits: at least the level of the panel. -/
def raised (value : BitVec 64) : BitVec 64 :=
  if value < setup.backlight.level.setWidth 64 then setup.backlight.level.setWidth 64 else value

/-- The writes of `hwGetCRTC`: the PWM is turned off, set and turned on again. -/
def hwGetCRTCWrites : List (Write Nat Word) :=
  let backlight := setup.backlight
  let ctl := bxtBlcPwmCtl backlight.controller
  let pwmCtl := s.registers ctl
  let off := if pwmCtl.getLsbD 31 then [(ctl, pwmCtl &&& ~~~bxtBlcPwmEnable)] else []
  let polarity := if backlight.activeLowPwm then bxtBlcPwmPolarity else 0
  off ++ [(bxtBlcPwmFreq backlight.controller, backlight.pwmLevelMax),
    (bxtBlcPwmDuty backlight.controller, backlight.level),
    (ctl, polarity), (ctl, polarity ||| bxtBlcPwmEnable)]

/-- The writes of a call. -/
def BklCall.writes : BklCall → List (Write Nat Word)
  | hwGetCRTC => hwGetCRTCWrites setup s
  | setAttribute value =>
      [(bxtBlcPwmDuty setup.backlight.controller, (raised setup value).setWidth 32)]
  | getAttribute => []

/-- `hwGetCRTC`, `wrapSetAttributeForConnection` and
`fgetAttributeForConnection`, both for the attribute `bklt`. -/
def BklCall.next (call : BklCall) : BklState :=
  let level := setup.backlight.level
  let registers := perform (call.writes setup s) s.registers
  match call with
  | hwGetCRTC =>
      { bklFrequency := setup.backlight.pwmLevelMax
        bklLvl := if s.bklLvlSaved > level then s.bklLvlSaved else atLeast level s.bklLvl
        bklLvlSaved := atLeast level s.bklLvlSaved
        registers }
  | setAttribute value => { s with bklLvl := (raised setup value).setWidth 32, registers }
  | getAttribute => { s with bklLvl := atLeast level s.bklLvl, registers }

/-- A level is within the limits of the panel. -/
def InRange (level : Word) : Prop :=
  setup.backlight.level ≤ level ∧ level ≤ setup.backlight.pwmLevelMax

/-- What a call promises: the duty values that it writes and the levels after it
are within the limits, and the duty register has the level of the driver. -/
structure Kept (call : BklCall) : Prop where
  writes : ∀ write ∈ call.writes setup s,
    write.1 = bxtBlcPwmDuty setup.backlight.controller → InRange setup write.2
  level : InRange setup (call.next setup s).bklLvl
  saved : InRange setup (call.next setup s).bklLvlSaved
  duty : (call.next setup s).registers (bxtBlcPwmDuty setup.backlight.controller) =
    (call.next setup s).bklLvl

/-- The duty register has the level of the driver, or both are at the floor. -/
def DutyFollows : Prop :=
  let duty := s.registers (bxtBlcPwmDuty setup.backlight.controller)
  (s.bklLvl ≤ setup.backlight.level ∧ duty = setup.backlight.level) ∨
    (setup.backlight.level < s.bklLvl ∧ duty = s.bklLvl)

/-- The condition under which a call keeps its promise: `hwGetCRTC` needs levels
that are not above the floor, as it writes the floor to the duty register. A
value that is set needs its lower half within the limits. -/
def Meets : BklCall → Prop
  | .hwGetCRTC => setup.backlight.level ≤ setup.backlight.pwmLevelMax ∧
      s.bklLvl ≤ setup.backlight.level ∧ s.bklLvlSaved ≤ setup.backlight.level
  | .setAttribute value =>
      (value.toNat ≤ setup.backlight.level.toNat ∨ InRange setup (value.setWidth 32)) ∧
        InRange setup s.bklLvlSaved
  | .getAttribute =>
      InRange setup s.bklLvlSaved ∧ s.bklLvl ≤ setup.backlight.pwmLevelMax ∧ DutyFollows setup s

end Calls

section Steps

variable {setup : PanelSetup} {s : BklState}

theorem hwGetCRTC_duty :
    perform (hwGetCRTCWrites setup s) s.registers (bxtBlcPwmDuty setup.backlight.controller) =
      setup.backlight.level := by
  simp only [hwGetCRTCWrites]
  rw [show ∀ off : List (Write Nat Word), ∀ a b c d : Write Nat Word,
    off ++ [a, b, c, d] = (off ++ [a]) ++ b :: [c, d] by simp]
  apply perform_of_last
  simp [bxtBlcPwmDuty, bxtBlcPwmCtl]

theorem hwGetCRTC_writes (write : Write Nat Word) (hMem : write ∈ hwGetCRTCWrites setup s)
    (hDuty : write.1 = bxtBlcPwmDuty setup.backlight.controller) :
    write.2 = setup.backlight.level := by
  have hCtl : bxtBlcPwmCtl setup.backlight.controller ≠ bxtBlcPwmDuty setup.backlight.controller := by
    simp [bxtBlcPwmCtl, bxtBlcPwmDuty]
  have hFreq : bxtBlcPwmFreq setup.backlight.controller ≠
      bxtBlcPwmDuty setup.backlight.controller := by
    simp [bxtBlcPwmFreq, bxtBlcPwmDuty]
  simp only [hwGetCRTCWrites, List.mem_append, List.mem_cons, List.not_mem_nil, or_false] at hMem
  rcases hMem with hOff | rfl | rfl | rfl | rfl
  · split at hOff
    · obtain rfl := List.mem_singleton.mp hOff
      exact absurd hDuty hCtl
    · cases hOff
  · exact absurd hDuty hFreq
  · rfl
  · exact absurd hDuty hCtl
  · exact absurd hDuty hCtl

theorem le_atLeast (floor level : Word) : floor ≤ atLeast floor level := by
  simp only [atLeast]
  split
  · exact BitVec.le_refl floor
  · next hNot => exact BitVec.not_lt.mp hNot

theorem atLeast_le_iff {floor level ceiling : Word} :
    atLeast floor level ≤ ceiling ↔ floor ≤ ceiling ∧ level ≤ ceiling := by
  simp only [atLeast]
  split
  · next hLt => exact ⟨fun h => ⟨h, BitVec.le_trans (BitVec.le_of_lt hLt) h⟩, And.left⟩
  · next hNot => exact ⟨fun h => ⟨BitVec.le_trans (BitVec.not_lt.mp hNot) h, h⟩, And.right⟩

theorem atLeast_eq_floor_iff {floor level : Word} : atLeast floor level = floor ↔ level ≤ floor := by
  constructor
  · intro h
    have hLe : atLeast floor level ≤ floor := by simp [h]
    exact (atLeast_le_iff.mp hLe).2
  · intro h
    exact BitVec.le_antisymm (atLeast_le_iff.mpr ⟨BitVec.le_refl floor, h⟩) (le_atLeast floor level)

theorem inRange_level_iff :
    InRange setup setup.backlight.level ↔ setup.backlight.level ≤ setup.backlight.pwmLevelMax :=
  and_iff_right (BitVec.le_refl _)

theorem inRange_atLeast_iff {level : Word} :
    InRange setup (atLeast setup.backlight.level level) ↔
      setup.backlight.level ≤ setup.backlight.pwmLevelMax ∧
        level ≤ setup.backlight.pwmLevelMax := by
  rw [InRange, and_iff_right (le_atLeast _ _), atLeast_le_iff]

theorem InRange.floor {level : Word} (h : InRange setup level) :
    setup.backlight.level ≤ setup.backlight.pwmLevelMax := BitVec.le_trans h.1 h.2

theorem raised_of_le {value : BitVec 64} (h : value.toNat ≤ setup.backlight.level.toNat) :
    (raised setup value).setWidth 32 = setup.backlight.level := by
  have hLevel := setup.backlight.level.isLt
  apply BitVec.eq_of_toNat_eq
  simp only [raised]
  split
  · simp only [BitVec.toNat_setWidth]
    omega
  · next hNot =>
      simp only [BitVec.lt_def, BitVec.toNat_setWidth] at hNot ⊢
      omega

theorem raised_of_gt {value : BitVec 64} (h : ¬ value.toNat ≤ setup.backlight.level.toNat) :
    raised setup value = value := by
  have hLevel := setup.backlight.level.isLt
  simp only [raised]
  rw [if_neg]
  simp only [BitVec.lt_def, BitVec.toNat_setWidth]
  omega

/-- The value that is stored is within the limits just when the lower half of the
value that was asked for is, unless it was raised to the floor. -/
theorem inRange_raised_iff {value : BitVec 64} (hFloor : InRange setup setup.backlight.level) :
    InRange setup ((raised setup value).setWidth 32) ↔
      value.toNat ≤ setup.backlight.level.toNat ∨ InRange setup (value.setWidth 32) := by
  by_cases hLe : value.toNat ≤ setup.backlight.level.toNat
  · simp [raised_of_le hLe, hLe, hFloor]
  · simp [raised_of_gt hLe, hLe]

theorem dutyFollows_iff :
    DutyFollows setup s ↔
      s.registers (bxtBlcPwmDuty setup.backlight.controller) =
        atLeast setup.backlight.level s.bklLvl := by
  simp only [DutyFollows]
  by_cases hLe : s.bklLvl ≤ setup.backlight.level
  · simp [atLeast_eq_floor_iff.mpr hLe, hLe, BitVec.not_lt.mpr hLe]
  · have hGt : setup.backlight.level < s.bklLvl := BitVec.not_le.mp hLe
    simp [atLeast, hLe, hGt, BitVec.not_lt.mpr (BitVec.le_of_lt hGt)]

theorem kept_hwGetCRTC_iff : Kept setup s .hwGetCRTC ↔ Meets setup s .hwGetCRTC := by
  constructor
  · rintro ⟨-, hLevel, hSaved, hDuty⟩
    have hSame : setup.backlight.level = (BklCall.hwGetCRTC.next setup s).bklLvl :=
      hwGetCRTC_duty.symm.trans hDuty
    simp only [BklCall.next] at hSame hSaved
    split at hSame
    · next hGt => exact absurd (hSame ▸ hGt) (BitVec.lt_irrefl _)
    · next hLe =>
        exact ⟨hSaved.floor, atLeast_eq_floor_iff.mp hSame.symm, BitVec.not_lt.mp hLe⟩
  · rintro ⟨hFloor, hLevel, hSaved⟩
    have hKept : (BklCall.hwGetCRTC.next setup s).bklLvl = setup.backlight.level := by
      simp only [BklCall.next]
      rw [if_neg (BitVec.not_lt.mpr hSaved), atLeast_eq_floor_iff.mpr hLevel]
    have hStored : (BklCall.hwGetCRTC.next setup s).bklLvlSaved = setup.backlight.level :=
      atLeast_eq_floor_iff.mpr hSaved
    exact {
      writes := fun write hMem hDuty => by
        rw [hwGetCRTC_writes write hMem hDuty]
        exact inRange_level_iff.mpr hFloor
      level := hKept ▸ inRange_level_iff.mpr hFloor
      saved := hStored ▸ inRange_level_iff.mpr hFloor
      duty := hwGetCRTC_duty.trans hKept.symm }

theorem kept_setAttribute_iff {value : BitVec 64} :
    Kept setup s (.setAttribute value) ↔ Meets setup s (.setAttribute value) := by
  constructor
  · rintro ⟨-, hLevel, hSaved, -⟩
    exact ⟨(inRange_raised_iff (inRange_level_iff.mpr hSaved.floor)).mp hLevel, hSaved⟩
  · rintro ⟨hValue, hSaved⟩
    have hLevel := (inRange_raised_iff (inRange_level_iff.mpr hSaved.floor)).mpr hValue
    exact {
      writes := fun write hMem _ => by
        obtain rfl := List.mem_singleton.mp hMem
        exact hLevel
      level := hLevel
      saved := hSaved
      duty := by simp [BklCall.next, BklCall.writes, perform] }

theorem kept_getAttribute_iff :
    Kept setup s .getAttribute ↔ Meets setup s .getAttribute := by
  constructor
  · rintro ⟨-, hLevel, hSaved, hDuty⟩
    exact ⟨hSaved, (inRange_atLeast_iff.mp hLevel).2, dutyFollows_iff.mpr hDuty⟩
  · rintro ⟨hSaved, hLevel, hDuty⟩
    exact {
      writes := fun write hMem => absurd hMem List.not_mem_nil
      level := inRange_atLeast_iff.mpr ⟨hSaved.floor, hLevel⟩
      saved := hSaved
      duty := dutyFollows_iff.mp hDuty }

theorem kept_iff_meets (call : BklCall) : Kept setup s call ↔ Meets setup s call := by
  cases call with
  | hwGetCRTC => exact kept_hwGetCRTC_iff
  | setAttribute value => exact kept_setAttribute_iff
  | getAttribute => exact kept_getAttribute_iff

end Steps

section Floor

/-- The minimal brightness of a panel that was set up leaves room below the
greatest level; the contents of one that was not do by chance. -/
def FloorFits (panel : IntelPanel) : Prop :=
  match panel.setup with
  | .stale old => old.backlight.level ≤ old.backlight.pwmLevelMax
  | .written setup => 1280 * setup.vbt.minBrightness ≤ setup.backlight.pwmLevelMax.toNat

theorem vbtMinBrightness_lt (version : Nat) (block : BlockEntry) (panelType : Int) :
    vbtMinBrightness version block panelType < 2 ^ 8 := by
  simp only [vbtMinBrightness]
  split
  · exact Nat.mod_lt _ (by decide)
  · exact Bytes.u8_lt _ _

theorem sub_le_iff {max x : Word} : max - x ≤ max ↔ x ≤ max := by
  simp only [BitVec.le_def, BitVec.toNat_sub]
  have hMax := max.isLt
  have hX := x.isLt
  omega

variable {registers : Registers} {display : VbtPanel} {rawclkFreq : Word} {oldPresent : Bool}
  {old : PanelSetup} {panel : IntelPanel}

theorem level_le_max_iff
    (hParse : parseLfpBacklight registers display rawclkFreq oldPresent old = some panel) :
    panel.setup.value.backlight.level ≤ panel.setup.value.backlight.pwmLevelMax ↔
      FloorFits panel := by
  rcases parseLfpBacklight_cases hParse with ⟨block, setup, -, hSetup, hPanel⟩ | ⟨-, hPanel⟩
  · obtain ⟨levelMax, hVbt, hBacklight, -⟩ := setUpPanel_eq_some hSetup
    have hSmall : setup.vbt.minBrightness < 2 ^ 8 := by
      rw [hVbt]
      exact vbtMinBrightness_lt _ _ _
    simp only [FloorFits, hPanel, Slot.value, hBacklight, pwmBacklight]
    rw [sub_le_iff, BitVec.le_def, BitVec.toNat_ofNat]
    omega
  · simp only [FloorFits, hPanel, Slot.value]

/-- The limits hold in every run just when the minimal brightness leaves room and
every call meets its condition. -/
theorem backlight_levels_kept_iff
    (hParse : parseLfpBacklight registers display rawclkFreq oldPresent old = some panel)
    (start : BklState) (calls : List BklCall) :
    (panel.setup.value.backlight.level ≤ panel.setup.value.backlight.pwmLevelMax ∧
        Along (fun s call => call.next panel.setup.value s) (Kept panel.setup.value) start calls) ↔
      FloorFits panel ∧
        Along (fun s call => call.next panel.setup.value s) (Meets panel.setup.value) start calls :=
  and_congr (level_le_max_iff hParse) (along_iff (fun _ call => kept_iff_meets call) start calls)

theorem dimPanel_parsed :
    (parseLfpBacklight dimRegisters dimDisplay 24000 false clearedPanel).isSome := by
  decide

/-- The driver at the floor of that panel. -/
def dimState : BklState where
  bklFrequency := 4096
  bklLvl := 2816
  bklLvlSaved := 2816
  registers := fun reg => if reg = bxtBlcPwmDuty 0 then 2816 else dimRegisters reg

/-- Setting the greatest level and asking for it. -/
theorem brightest_level_kept :
    ∃ panel, parseLfpBacklight dimRegisters dimDisplay 24000 false clearedPanel = some panel ∧
      Along (fun s call => call.next panel.setup.value s) (Kept panel.setup.value) dimState
        [.setAttribute 4096, .getAttribute] := by
  have hParse := (Option.some_get dimPanel_parsed).symm
  refine ⟨_, hParse, ((backlight_levels_kept_iff hParse dimState _).mpr ⟨?_, ?_⟩).2⟩
  · exact (level_le_max_iff hParse).mp (by decide)
  · simp only [Along, Meets, InRange, DutyFollows]
    decide

/-- The greatest level, and a `hwGetCRTC` that writes the floor below it. -/
theorem wake_dims_below_level :
    ∃ panel, parseLfpBacklight dimRegisters dimDisplay 24000 false clearedPanel = some panel ∧
      ¬ Along (fun s call => call.next panel.setup.value s) (Kept panel.setup.value) dimState
        [.setAttribute 4096, .hwGetCRTC] := by
  refine ⟨_, (Option.some_get dimPanel_parsed).symm, fun ⟨_, hWake, _⟩ => ?_⟩
  have hDuty := hWake.duty
  revert hDuty
  decide

end Floor

end NootedBlue.Backlight
