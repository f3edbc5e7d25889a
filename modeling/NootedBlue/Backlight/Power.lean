import NootedBlue.Backlight.Parse
import NootedBlue.Semantics.Writes

/-! The power sequencer of the panel. The delays are put into fields of 13 and
of 5 bits, and what does not fit is cut off. -/
namespace NootedBlue.Backlight

open Vbt Bits Writes

/-- What `hwSetPanelPowerConfig` stores in the driver. -/
structure PanelPowerConfig where
  param : Nat
  delays : PpsDelays
  pchPpOnDelays : Word
  pchPpOffDelays : Word
  ppControl : Word
  deriving DecidableEq, Repr

/-- `PCH_PP_ON_DELAYS` and `PCH_PP_OFF_DELAYS`. -/
def pchPpOnDelays (p : PpsDelays) : Word :=
  panelPowerUpDelay.prep (.ofNat 32 p.powerUp) ||| panelLightOnDelay.prep (.ofNat 32 p.backlightOn)

def pchPpOffDelays (p : PpsDelays) : Word :=
  panelLightOffDelay.prep (.ofNat 32 p.backlightOff) |||
    panelPowerDownDelay.prep (.ofNat 32 p.powerDown)

/-- The power cycle delay in units of 100 ms, and one more. -/
def powerCycleField (p : PpsDelays) : Word := .ofNat 32 ((p.powerCycle + 999) / 1000 + 1)

/-- The value of the divisor register. -/
def ppDivisor (p : PpsDelays) (rawclkFreq : Word) : Word :=
  ppReferenceDivider.prep (100 * (rawclkFreq / 1000) / 2 - 1) |||
    panelPowerCycleDelay.prep (powerCycleField p)

/-- The writes of all delays but the one of a power cycle. -/
def delayWrites (setup : PanelSetup) : List (Write Nat Word) :=
  [(setup.regs.ppOn, pchPpOnDelays setup.pps.ppsDelays),
    (setup.regs.ppOff, pchPpOffDelays setup.pps.ppsDelays)]

/-- The delay of a power cycle goes to the divisor register if there is one. -/
def cycleWrite (registers : Registers) (setup : PanelSetup) (rawclkFreq : Word) : Write Nat Word :=
  let p := setup.pps.ppsDelays
  let regs := setup.regs
  if registers regs.ppDiv ≠ BitVec.allOnes 32 then (regs.ppDiv, ppDivisor p rawclkFreq)
  else (regs.ppCtrl, bxtPowerCycleDelay.update (registers regs.ppCtrl) (powerCycleField p))

/-- The writes of `hwSetPanelPowerConfig`. -/
def panelPowerWrites (registers : Registers) (setup : PanelSetup) (rawclkFreq : Word) :
    List (Write Nat Word) :=
  delayWrites setup ++ [cycleWrite (perform (delayWrites setup) registers) setup rawclkFreq]

/-- `hwSetPanelPowerConfig`, after the panel was parsed: what it stores, and the
registers. -/
def hwSetPanelPowerConfig (registers : Registers) (setup : PanelSetup)
    (rawclkFreq : Word) (param : Nat) :
    PanelPowerConfig × Registers :=
  let after := perform (panelPowerWrites registers setup rawclkFreq) registers
  ({ param
     delays := setup.pps.ppsDelays
     pchPpOnDelays := pchPpOnDelays setup.pps.ppsDelays
     pchPpOffDelays := pchPpOffDelays setup.pps.ppsDelays
     ppControl := after setup.regs.ppCtrl }, after)

/-- The panel with its power sequencer set up from the delays of the VBT. -/
def PanelSetup.withPps (setup : PanelSetup) (registers : Registers) (ppsIdx : Nat)
    (vbt : PpsDelays) : PanelSetup :=
  { setup with
    pps := intelPps registers ppsIdx vbt
    regs := ppsRegisters ppsIdx }

/-- The delays that are needed: the power cycle delay in steps of 100 ms. -/
def requiredDelays (registers : Registers) (ppsIdx : Nat) (vbt : PpsDelays) : PpsDelays :=
  let final := finalPpsDelays (biosPpsDelays registers (ppsRegisters ppsIdx)) vbt
  { final with powerCycle := (final.powerCycle + 999) / 1000 * 1000 }

/-- No delay is shorter. -/
structure NoShorter (required delays : PpsDelays) : Prop where
  powerUp : required.powerUp ≤ delays.powerUp
  backlightOn : required.backlightOn ≤ delays.backlightOn
  backlightOff : required.backlightOff ≤ delays.backlightOff
  powerDown : required.powerDown ≤ delays.powerDown
  powerCycle : required.powerCycle ≤ delays.powerCycle

/-- The delays fit into their fields. -/
structure FitsFields (required : PpsDelays) : Prop where
  powerUp : required.powerUp < 2 ^ 13
  backlightOn : required.backlightOn < 2 ^ 13
  backlightOff : required.backlightOff < 2 ^ 13
  powerDown : required.powerDown < 2 ^ 13
  powerCycle : required.powerCycle ≤ 30000

/-- The registers after the delays were programmed. -/
def reprogrammed (registers : Registers) (setup : PanelSetup) (ppsIdx : Nat) (vbt : PpsDelays)
    (rawclkFreq : Word) : Registers :=
  (hwSetPanelPowerConfig registers (setup.withPps registers ppsIdx vbt) rawclkFreq 0).2

/-- The delays that are programmed. -/
def programmedDelays (registers : Registers) (ppsIdx : Nat) (vbt : PpsDelays) : PpsDelays :=
  (intelPps registers ppsIdx vbt).ppsDelays

section Readback

variable (registers : Registers) (setup : PanelSetup) (ppsIdx : Nat) (rawclkFreq : Word)
  (vbt : PpsDelays)

theorem reprogrammed_eq :
    reprogrammed registers setup ppsIdx vbt rawclkFreq =
      let setup := setup.withPps registers ppsIdx vbt
      let between := perform (delayWrites setup) registers
      Function.update between (cycleWrite between setup rawclkFreq).1
        (cycleWrite between setup rawclkFreq).2 :=
  perform_concat _

theorem reprogrammed_ppOn :
    reprogrammed registers setup ppsIdx vbt rawclkFreq (ppsRegisters ppsIdx).ppOn =
      pchPpOnDelays (programmedDelays registers ppsIdx vbt) := by
  simp only [reprogrammed_eq, cycleWrite]
  split
  all_goals simp [delayWrites, PanelSetup.withPps, perform, ppsRegisters, mmioPps, programmedDelays]

theorem reprogrammed_ppOff :
    reprogrammed registers setup ppsIdx vbt rawclkFreq (ppsRegisters ppsIdx).ppOff =
      pchPpOffDelays (programmedDelays registers ppsIdx vbt) := by
  simp only [reprogrammed_eq, cycleWrite]
  split
  all_goals simp [delayWrites, PanelSetup.withPps, perform, ppsRegisters, mmioPps, programmedDelays]

/-- Where there is a divisor register it takes the new value, and elsewhere the
control register does. -/
theorem reprogrammed_cycle :
    reprogrammed registers setup ppsIdx vbt rawclkFreq (ppsRegisters ppsIdx).ppDiv =
        ppDivisor (programmedDelays registers ppsIdx vbt) rawclkFreq ∨
      reprogrammed registers setup ppsIdx vbt rawclkFreq (ppsRegisters ppsIdx).ppDiv =
          BitVec.allOnes 32 ∧
        ∃ control, reprogrammed registers setup ppsIdx vbt rawclkFreq (ppsRegisters ppsIdx).ppCtrl =
          bxtPowerCycleDelay.update control
            (powerCycleField (programmedDelays registers ppsIdx vbt)) := by
  simp only [reprogrammed_eq, cycleWrite]
  split
  · exact .inl (by simp [PanelSetup.withPps, programmedDelays])
  · next hNone =>
      rw [not_not] at hNone
      refine .inr ⟨?_, _, by simp [PanelSetup.withPps, programmedDelays]; rfl⟩
      rw [Function.update_of_ne (by simp [PanelSetup.withPps, ppsRegisters, mmioPps])]
      exact hNone

theorem toNat_get_pair {f g : Field} {a : Nat} {b : Word} (hf : f.low + f.width ≤ 32)
    (hg : g.low + g.width ≤ 32) (hDisjoint : f.Disjoint g) :
    (f.get (f.prep (.ofNat 32 a) ||| g.prep b : Word)).toNat = a % 2 ^ f.width := by
  rw [Field.get_or, Field.get_prep_of_disjoint hf hg hDisjoint]
  show (_ ||| 0#32).toNat = _
  rw [BitVec.or_zero, Field.toNat_get_prep hf, BitVec.toNat_ofNat,
    Nat.mod_mod_of_dvd _ (Nat.pow_dvd_pow 2 (by omega))]

/-- The divisor register leaves out three bits. -/
theorem ppDivisor_ne_allOnes (p : PpsDelays) : ppDivisor p rawclkFreq ≠ BitVec.allOnes 32 := by
  intro h
  have hBit := congrArg (·.getLsbD 5) h
  simp only [ppDivisor, BitVec.getLsbD_or] at hBit
  rw [Field.getLsbD_prep (by decide), Field.getLsbD_prep (by decide)] at hBit
  simp [ppReferenceDivider, panelPowerCycleDelay] at hBit

/-- The field of the power cycle delay as it is read back. -/
theorem readback_powerCycle :
    (biosPpsDelays (reprogrammed registers setup ppsIdx vbt rawclkFreq)
        (ppsRegisters ppsIdx)).powerCycle =
      (((programmedDelays registers ppsIdx vbt).powerCycle + 999) / 1000 + 1) % 32 * 1000 - 1000 := by
  have hDecode : ∀ cycle : Nat, (if cycle ≠ 0 then (cycle - 1) * 1000 else 0) =
      cycle * 1000 - 1000 := by
    intro cycle
    split <;> omega
  simp only [biosPpsDelays, hDecode]
  rcases reprogrammed_cycle registers setup ppsIdx rawclkFreq vbt with hDiv | ⟨hNone, control, hCtrl⟩
  · have hField := toNat_get_pair (f := panelPowerCycleDelay) (g := ppReferenceDivider)
      (a := ((programmedDelays registers ppsIdx vbt).powerCycle + 999) / 1000 + 1)
      (b := 100 * (rawclkFreq / 1000) / 2 - 1) (by decide) (by decide)
      (.inl (by decide))
    rw [hDiv, if_pos (ppDivisor_ne_allOnes rawclkFreq _), ppDivisor, BitVec.or_comm,
      powerCycleField, hField]
    rfl
  · rw [if_neg (not_not.mpr hNone), hCtrl, Field.get_update (by decide),
      Field.toNat_get_prep (by decide), powerCycleField, BitVec.toNat_ofNat,
      Nat.mod_mod_of_dvd _ (Nat.pow_dvd_pow 2 (by decide))]
    rfl

/-- All delays as they are read back. -/
theorem readback_eq :
    biosPpsDelays (reprogrammed registers setup ppsIdx vbt rawclkFreq) (ppsRegisters ppsIdx) =
      let p := programmedDelays registers ppsIdx vbt
      { powerUp := p.powerUp % 2 ^ 13
        backlightOn := p.backlightOn % 2 ^ 13
        backlightOff := p.backlightOff % 2 ^ 13
        powerDown := p.powerDown % 2 ^ 13
        powerCycle := ((p.powerCycle + 999) / 1000 + 1) % 32 * 1000 - 1000 } := by
  have hCycle := readback_powerCycle registers setup ppsIdx rawclkFreq vbt
  simp only [biosPpsDelays, PpsDelays.mk.injEq, reprogrammed_ppOn, reprogrammed_ppOff] at hCycle ⊢
  refine ⟨?_, ?_, ?_, ?_, hCycle⟩
  · exact toNat_get_pair (by decide) (by decide) (.inr (by decide))
  · rw [pchPpOnDelays, BitVec.or_comm]
    exact toNat_get_pair (by decide) (by decide) (.inl (by decide))
  · exact toNat_get_pair (by decide) (by decide) (.inl (by decide))
  · rw [pchPpOffDelays, BitVec.or_comm]
    exact toNat_get_pair (by decide) (by decide) (.inr (by decide))

end Readback

theorem le_mod_iff {a m : Nat} (hm : 0 < m) : a ≤ a % m ↔ a < m := by
  constructor
  · intro h
    exact Nat.lt_of_le_of_lt h (Nat.mod_lt a hm)
  · intro h
    rw [Nat.mod_eq_of_lt h]

/-- The delays survive just when they fit into their fields. -/
theorem delays_survive_iff (registers : Registers) (setup : PanelSetup) (ppsIdx : Nat)
    (vbt : PpsDelays) (rawclkFreq : Word) :
    NoShorter (requiredDelays registers ppsIdx vbt)
        (biosPpsDelays (reprogrammed registers setup ppsIdx vbt rawclkFreq)
          (ppsRegisters ppsIdx)) ↔
      FitsFields (requiredDelays registers ppsIdx vbt) := by
  rw [readback_eq]
  simp only [requiredDelays, programmedDelays, intelPps, roundPowerCycle]
  generalize finalPpsDelays (biosPpsDelays registers (ppsRegisters ppsIdx)) vbt = final
  constructor
  · rintro ⟨hUp, hOn, hOff, hDown, hCycle⟩
    exact {
      powerUp := (le_mod_iff (by decide)).mp hUp
      backlightOn := (le_mod_iff (by decide)).mp hOn
      backlightOff := (le_mod_iff (by decide)).mp hOff
      powerDown := (le_mod_iff (by decide)).mp hDown
      powerCycle := by
        simp only at hCycle ⊢
        omega }
  · rintro ⟨hUp, hOn, hOff, hDown, hCycle⟩
    exact {
      powerUp := (le_mod_iff (by decide)).mpr hUp
      backlightOn := (le_mod_iff (by decide)).mpr hOn
      backlightOff := (le_mod_iff (by decide)).mpr hOff
      powerDown := (le_mod_iff (by decide)).mpr hDown
      powerCycle := by
        simp only at hCycle ⊢
        generalize (final.powerCycle + 999) / 1000 = steps at hCycle ⊢
        have hShort : steps * 1000 % 2 ^ 16 = steps * 1000 := Nat.mod_eq_of_lt (by omega)
        have hSteps : (steps * 1000 + 999) / 1000 = steps := by omega
        rw [hShort, hSteps]
        omega }

/-- A delay of 819.2 ms is programmed as none. -/
theorem long_power_down_is_cut :
    ¬ NoShorter (requiredDelays (fun _ => 0) 0 ⟨0, 0, 0, 8192, 0⟩)
      (biosPpsDelays (reprogrammed (fun _ => 0) clearedPanel 0 ⟨0, 0, 0, 8192, 0⟩ 24000)
        (ppsRegisters 0)) := by
  intro h
  have hPowerDown := h.powerDown
  rw [readback_eq] at hPowerDown
  revert hPowerDown
  decide

end NootedBlue.Backlight
