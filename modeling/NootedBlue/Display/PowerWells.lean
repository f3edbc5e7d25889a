import Mathlib.Data.List.Basic
import NootedBlue.Display.DcState

/-! The power wells at the start of the driver. What the firmware left on is recorded;
then every well of a port that does not show the boot picture is switched off, and the
groups above those that the boot pipe needs. The functions of the controller that
switch a well may change the record. -/
namespace NootedBlue.Display

open Interaction

/-- The part of `AppleIntelPowerWell0` that is read: `PG1` to `PG4`, `DDIA` to `TC6` and
`AUXA` to `AUXTC6`, each group an array. -/
structure PowerWells where
  powerwellalwaysON : Bool
  fRefCountPG : Nat
  pg : Nat → Int
  ddi : Nat → Int
  aux : Nat → Int

namespace PowerWells

def setPg (that : PowerWells) (n : Nat) (value : Int) : PowerWells :=
  { that with pg := Function.update that.pg n value }

def setDdi (that : PowerWells) (i : Nat) (value : Int) : PowerWells :=
  { that with ddi := Function.update that.ddi i value }

def setAux (that : PowerWells) (i : Nat) (value : Int) : PowerWells :=
  { that with aux := Function.update that.aux i value }

end PowerWells

/-- What the controller is like: the kext, `FB_FLAG_BOOST_PIXEL_FREQUENCY_LIMIT` of its
flags, and its configuration of DC6. -/
structure WellController where
  kexticl : Bool
  boostPixelFrequencyLimit : Bool
  dc6config : Int
  deriving DecidableEq, Repr

/-- What the function does to the world. The functions of the controller are given the
record and answer what it is afterwards; `probeBootPipe` answers the pipe and the port. -/
inductive WellOp where
  | read (reg : Nat)
  | disableHWDC6
  | setDC6EnabledRefCount (value : Word)
  | probeBootPipe
  | enableDisplayEngine (that : PowerWells)
  | getPortByDDI (i : Nat)
  | markPort (port : Nat)
  | setPortMode (port : Nat) (mode : Nat)
  | disablePowerWellDDI (that : PowerWells) (i : Nat)
  | disablePowerWellAux (that : PowerWells) (i : Nat)
  | disablePowerWellPG (that : PowerWells) (n : Nat)
  | tcColdRequest (block : Bool)
  | overridePowerWellsState (that : PowerWells) (on : Bool)

abbrev WellAnswer : WellOp → Type
  | .read _ => Word
  | .disableHWDC6 => Unit
  | .setDC6EnabledRefCount _ => Unit
  | .probeBootPipe => Int × Int
  | .enableDisplayEngine _ => PowerWells
  | .getPortByDDI _ => Nat
  | .markPort _ => Unit
  | .setPortMode _ _ => Unit
  | .disablePowerWellDDI _ _ => PowerWells
  | .disablePowerWellAux _ _ => PowerWells
  | .disablePowerWellPG _ _ => PowerWells
  | .tcColdRequest _ => Unit
  | .overridePowerWellsState _ _ => PowerWells

abbrev WellProgram := Program WellOp WellAnswer

abbrev WellExchange := Exchange WellAnswer

/-- `HSW_PWR_WELL_CTL2`, `ICL_PWR_WELL_CTL_DDI2`, `ICL_PWR_WELL_CTL_AUX2` and
`TGL_PWR_WELL_CTL_AUX4`. -/
def hswPwrWellCtl2 : Nat := 0x45404
def iclPwrWellCtlDdi2 : Nat := 0x45454
def iclPwrWellCtlAux2 : Nat := 0x45444
def tglPwrWellCtlAux4 : Nat := 0x45470

/-- `HSW_PWR_WELL_CTL_REQ` and `HSW_PWR_WELL_CTL_STATE`. -/
def hswPwrWellCtlReq (i : Nat) : Word := 2 <<< (i * 2)
def hswPwrWellCtlState (i : Nat) : Word := 1 <<< (i * 2)

/-- A well is requested and on. -/
def powered (state : Word) (i : Nat) : Bool :=
  state &&& (hswPwrWellCtlReq i ||| hswPwrWellCtlState i) =
    hswPwrWellCtlReq i ||| hswPwrWellCtlState i

/-- The four registers as they were read. -/
structure WellRegisters where
  pgState : Word
  ddiState : Word
  auxState : Word
  tbtState : Word
  deriving DecidableEq, Repr

/-- What the record of an AUX well is set to. Only one kext has those of the ports that
can be Thunderbolt, and for them either register will do. -/
def auxRecord (kexticl : Bool) (regs : WellRegisters) (that : PowerWells) (i : Nat) : Int :=
  if i < 3 then if powered regs.auxState i then 1 else 0
  else if kexticl then that.aux i
  else if powered regs.tbtState (i - 3) then 1
  else if powered regs.auxState i then 1
  else 0

/-- The record as it is cleared at first. -/
def clearWells (c : WellController) (that : PowerWells) : PowerWells :=
  if c.kexticl then { that with powerwellalwaysON := c.boostPixelFrequencyLimit }
  else ⟨c.boostPixelFrequencyLimit, 0, fun _ => 0, fun _ => 0, fun _ => 0⟩

/-- The record of what the firmware left on. -/
def recordWells (c : WellController) (regs : WellRegisters) (that : PowerWells) : PowerWells :=
  { that with
    fRefCountPG := 1
    pg := fun n => if powered regs.pgState (n - 1) then 1 else 0
    ddi := fun i => if powered regs.ddiState i then 1 else 0
    aux := auxRecord c.kexticl regs that }

/-- `probePortMode`. -/
def probePortMode (port : Nat) : WellProgram Nat :=
  if port < 3 then return 1
  else do
    let tcPort := port - 3
    let val ← Program.perform (WellOp.read (if tcPort < 4 then 0x1638A0 else 0x1648A0))
    let localTcPort := if tcPort < 4 then tcPort else tcPort - 4
    return if val = 0xffffffff then 0
      else if val &&& (1 <<< (localTcPort * 8 + 6)) ≠ 0 then 2
      else if val &&& (1 <<< (localTcPort * 8 + 5)) ≠ 0 then 3
      else 1

/-- Switch off a DDI well that is on, and clear its record. -/
def releaseDdi (i : Nat) (that : PowerWells) : WellProgram PowerWells :=
  if that.ddi i ≠ 0 then do
    let that ← Program.perform (WellOp.disablePowerWellDDI that i)
    return that.setDdi i 0
  else return that

/-- Switch off an AUX well that is on, and clear its record. -/
def releaseAux (i : Nat) (that : PowerWells) : WellProgram PowerWells :=
  if that.aux i ≠ 0 then do
    let that ← Program.perform (WellOp.disablePowerWellAux that i)
    return that.setAux i 0
  else return that

/-- One kext wants a port marked before it gets its mode. -/
def markForIcl (c : WellController) (port : Nat) : WellProgram Unit :=
  if c.kexticl then Program.perform (WellOp.markPort port) else return ()

def tellPortMode (c : WellController) (i mode : Nat) : WellProgram Unit := do
  let port ← Program.perform (WellOp.getPortByDDI i)
  markForIcl c port
  Program.perform (WellOp.setPortMode port mode)

/-- The port of the boot picture: it gets its mode, and its AUX well stays on for the
ports A to C and in the mode of Thunderbolt. -/
def keepActive (c : WellController) (i : Nat) (that : PowerWells) : WellProgram PowerWells :=
  if that.aux i ≠ 0 then do
    let portType ← probePortMode i
    tellPortMode c i portType
    if 3 ≤ i ∧ portType ≠ 2 then do
      let that ← Program.perform (WellOp.disablePowerWellAux that i)
      return that.setAux i 0
    else return that
  else return that

/-- One round of the loop over the ports. -/
def releasePort (c : WellController) (activeDdi : Int) (i : Nat) (that : PowerWells) :
    WellProgram PowerWells :=
  if (i : Int) = activeDdi then keepActive c i that
  else do
    let that ← releaseDdi i that
    releaseAux i that

def releasePorts (c : WellController) (activeDdi : Int) :
    List Nat → PowerWells → WellProgram PowerWells
  | [], that => return that
  | i :: rest, that => do
      let that ← releasePort c activeDdi i that
      releasePorts c activeDdi rest that

/-- Switch off a power group, after some lower ones have been counted up. -/
def releasePg (n : Nat) (raised : List Nat) (on : Bool) (that : PowerWells) :
    WellProgram PowerWells :=
  if on then do
    let that := raised.foldl (fun that k => that.setPg k 2) that
    let that ← Program.perform (WellOp.disablePowerWellPG that n)
    return that.setPg n 0
  else return that

/-- The power groups that the boot pipe does not need. `PG5` has no record. -/
def releasePgs (bootPipe : Int) (pg5Enabled : Bool) (that : PowerWells) :
    WellProgram PowerWells :=
  if bootPipe = 0 then do
    let that ← releasePg 5 [1] pg5Enabled that
    let that ← releasePg 4 [1] (that.pg 4 ≠ 0) that
    let that ← releasePg 3 [1] (that.pg 3 ≠ 0) that
    releasePg 2 [1] (that.pg 2 ≠ 0) that
  else if bootPipe = 1 then do
    let that ← releasePg 5 [1, 2, 3, 4] pg5Enabled that
    releasePg 4 [1, 2, 3] (that.pg 4 ≠ 0) that
  else if bootPipe = 0xffff then do
    let that ← releasePg 5 [] pg5Enabled that
    let that ← releasePg 4 [] (that.pg 4 ≠ 0) that
    let that ← releasePg 3 [] (that.pg 3 ≠ 0) that
    let that ← releasePg 2 [] (that.pg 2 ≠ 0) that
    releasePg 1 [] (that.pg 1 ≠ 0) that
  else return that

/-- The wells of the ports that can be Thunderbolt. -/
def tcWells : List Nat := [3, 4, 5, 6, 7, 8]

/-- Whether leaving TCCOLD is to be asked for. -/
def tcInUse (c : WellController) (that : PowerWells) : Bool :=
  tcWells.any (that.ddi · ≠ 0) || (!c.kexticl && tcWells.any (that.aux · ≠ 0))

/-- What follows the probe of the boot pipe, once the engine is on. -/
def takeOver (c : WellController) (bootPipe activeDdi : Int) (pg5Enabled : Bool)
    (that : PowerWells) : WellProgram PowerWells := do
  let that ← releasePorts c activeDdi (List.range (if c.kexticl then 6 else 9)) that
  let that ← releasePgs bootPipe pg5Enabled that
  let _ ← Program.perform (WellOp.tcColdRequest (tcInUse c that))
  if that.powerwellalwaysON then Program.perform (WellOp.overridePowerWellsState that true)
  else return that

/-- The controller leaves DC6 when the firmware has left the second group on. -/
def leaveDc6IfUsed (c : WellController) (that : PowerWells) : WellProgram Unit :=
  if that.pg 2 ≠ 0 ∧ c.dc6config = 1 then do
    let _ ← Program.perform WellOp.disableHWDC6
    Program.perform (WellOp.setDC6EnabledRefCount 0xffffffff)
  else return ()

/-- The engine is switched on when there is a boot pipe and its first group is off. -/
def enableIfOff (bootPipe : Int) (that : PowerWells) : WellProgram PowerWells :=
  if bootPipe ≠ 0xffff ∧ that.pg 1 = 0 then Program.perform (WellOp.enableDisplayEngine that)
  else return that

/-- `AppleIntelPowerWellinit`. -/
def appleIntelPowerWellinit (c : WellController) (that : PowerWells) : WellProgram PowerWells := do
  let that := clearWells c that
  let pgState ← Program.perform (WellOp.read hswPwrWellCtl2)
  let ddiState ← Program.perform (WellOp.read iclPwrWellCtlDdi2)
  let auxState ← Program.perform (WellOp.read iclPwrWellCtlAux2)
  let tbtState ← Program.perform (WellOp.read tglPwrWellCtlAux4)
  let that := recordWells c ⟨pgState, ddiState, auxState, tbtState⟩ that
  leaveDc6IfUsed c that
  let (bootPipe, activeDdi) ← Program.perform WellOp.probeBootPipe
  let that ← enableIfOff bootPipe that
  takeOver c bootPipe activeDdi (powered pgState 4) that

/-- A well by its group. -/
inductive Well where
  | ddi (i : Nat)
  | aux (i : Nat)
  | pg (n : Nat)
  deriving DecidableEq, Repr

/-- The order in which wells are to be switched off: port by port, the DDI before its AUX
channel, and after all of them the groups from the highest one on. -/
def Well.rank : Well → Nat
  | .ddi i => 2 * i
  | .aux i => 2 * i + 1
  | .pg n => 100 - n

def releasedBy : WellExchange → Option Well
  | ⟨.disablePowerWellDDI _ i, _⟩ => some (.ddi i)
  | ⟨.disablePowerWellAux _ i, _⟩ => some (.aux i)
  | ⟨.disablePowerWellPG _ n, _⟩ => some (.pg n)
  | _ => none

/-- The wells that were switched off, in their order. -/
def released (transcript : Transcript WellAnswer) : List Well := transcript.filterMap releasedBy

/-- Switching a well off changes no record of another port. -/
def Local : WellExchange → Prop
  | ⟨.disablePowerWellDDI that i, after⟩ =>
      after.aux = that.aux ∧ ∀ j, j ≠ i → after.ddi j = that.ddi j
  | ⟨.disablePowerWellAux that i, after⟩ =>
      after.ddi = that.ddi ∧ ∀ j, j ≠ i → after.aux j = that.aux j
  | ⟨.disablePowerWellPG that _, after⟩ => after.ddi = that.ddi ∧ after.aux = that.aux
  | _ => True

/-- A port was given a mode. -/
def ModeSet (transcript : Transcript WellAnswer) (mode : Nat) : Prop :=
  ∃ port, (⟨.setPortMode port mode, ()⟩ : WellExchange) ∈ transcript

/-- The wells of a port that have to go, for the mode of the active one. -/
def wanted (activeDdi : Int) (mode : Nat) (that : PowerWells) (i : Nat) : List Well :=
  if (i : Int) = activeDdi then if that.aux i ≠ 0 ∧ 3 ≤ i ∧ mode ≠ 2 then [.aux i] else []
  else (if that.ddi i ≠ 0 then [.ddi i] else []) ++ if that.aux i ≠ 0 then [.aux i] else []

/-- The groups that a boot pipe does not need. -/
def unneeded (bootPipe : Int) : List Nat :=
  if bootPipe = 0 then [5, 4, 3, 2]
  else if bootPipe = 1 then [5, 4]
  else if bootPipe = 0xffff then [5, 4, 3, 2, 1]
  else []

/-- The records of the ports after some wells were switched off. -/
structure Settled (that after : PowerWells) (wells : List Well) : Prop where
  ddi : ∀ j, after.ddi j = if .ddi j ∈ wells then 0 else that.ddi j
  aux : ∀ j, after.aux j = if .aux j ∈ wells then 0 else that.aux j

section Release

variable {c : WellController} {activeDdi : Int} {i n : Nat} {that after middle : PowerWells}
  {transcript first second : Transcript WellAnswer} {wells others : List Well}

theorem released_append :
    released (first ++ second) = released first ++ released second :=
  List.filterMap_append

theorem Settled.refl (that : PowerWells) : Settled that that [] :=
  ⟨fun _ => rfl, fun _ => rfl⟩

theorem Settled.trans (one : Settled that middle wells) (other : Settled middle after others) :
    Settled that after (wells ++ others) where
  ddi := by
    intro j
    rw [other.ddi, one.ddi]
    by_cases hFirst : Well.ddi j ∈ wells <;> simp [hFirst]
  aux := by
    intro j
    rw [other.aux, one.aux]
    by_cases hFirst : Well.aux j ∈ wells <;> simp [hFirst]

theorem plays_releaseDdi (plays : Plays (releaseDdi i that) transcript after)
    (hLocal : ∀ exchange ∈ transcript, Local exchange) :
    released transcript = (if that.ddi i ≠ 0 then [.ddi i] else []) ∧
      Settled that after (released transcript) := by
  rw [releaseDdi] at plays
  split at plays
  · next hOn =>
      obtain ⟨answer, rest, rfl, hRest⟩ := plays_perform_iff.mp plays
      obtain ⟨rfl, rfl⟩ := plays_done_iff.mp hRest
      obtain ⟨hAux, hDdi⟩ := hLocal _ List.mem_cons_self
      refine ⟨by rw [if_pos hOn]; rfl, ?_, ?_⟩
      · intro j
        by_cases hSame : j = i
        · subst hSame
          simp [released, releasedBy, PowerWells.setDdi]
        · simp [released, releasedBy, PowerWells.setDdi, hSame, hDdi j hSame]
      · intro j
        simp [released, releasedBy, PowerWells.setDdi, hAux]
  · next hOff =>
      obtain ⟨rfl, rfl⟩ := plays_done_iff.mp plays
      exact ⟨by rw [if_neg hOff]; rfl, .refl after⟩

/-- An AUX well that is switched off whatever its record says. -/
theorem settled_aux (hLocal : Local ⟨.disablePowerWellAux that i, middle⟩) :
    Settled that (middle.setAux i 0) [.aux i] := by
  obtain ⟨hDdi, hAux⟩ := hLocal
  refine ⟨fun j => ?_, fun j => ?_⟩
  · simp [PowerWells.setAux, hDdi]
  · by_cases hSame : j = i
    · subst hSame
      simp [PowerWells.setAux]
    · simp [PowerWells.setAux, hSame, hAux j hSame]

theorem plays_releaseAux (plays : Plays (releaseAux i that) transcript after)
    (hLocal : ∀ exchange ∈ transcript, Local exchange) :
    released transcript = (if that.aux i ≠ 0 then [.aux i] else []) ∧
      Settled that after (released transcript) := by
  rw [releaseAux] at plays
  split at plays
  · next hOn =>
      obtain ⟨answer, rest, rfl, hRest⟩ := plays_perform_iff.mp plays
      obtain ⟨rfl, rfl⟩ := plays_done_iff.mp hRest
      exact ⟨by rw [if_pos hOn]; rfl, settled_aux (hLocal _ List.mem_cons_self)⟩
  · next hOff =>
      obtain ⟨rfl, rfl⟩ := plays_done_iff.mp plays
      exact ⟨by rw [if_neg hOff]; rfl, .refl after⟩

/-- The mode of a port is found without switching anything off. -/
theorem released_probePortMode {port mode : Nat} (plays : Plays (probePortMode port) transcript mode) :
    released transcript = [] := by
  rw [probePortMode] at plays
  split at plays
  · obtain ⟨rfl, -⟩ := plays_done_iff.mp plays
    rfl
  · obtain ⟨answer, rest, rfl, hRest⟩ := plays_perform_iff.mp plays
    obtain ⟨rfl, -⟩ := plays_done_iff.mp hRest
    rfl

theorem plays_tellPortMode {mode : Nat} (plays : Plays (tellPortMode c i mode) transcript ()) :
    released transcript = [] ∧ ModeSet transcript mode := by
  obtain ⟨port, rest, rfl, hRest⟩ := plays_perform_iff.mp plays
  obtain ⟨mark, rest, _, rfl, hMark, hSet⟩ := plays_bind_iff.mp hRest
  obtain ⟨answer, rest, rfl, hDone⟩ := plays_call_iff.mp hSet
  obtain ⟨rfl, -⟩ := plays_done_iff.mp hDone
  have hMarked : released mark = [] := by
    rw [markForIcl] at hMark
    split at hMark
    · obtain ⟨answer, rest, rfl, hDone⟩ := plays_call_iff.mp hMark
      obtain ⟨rfl, -⟩ := plays_done_iff.mp hDone
      rfl
    · obtain ⟨rfl, -⟩ := plays_done_iff.mp hMark
      rfl
  refine ⟨?_, port, by simp⟩
  rw [← List.singleton_append, released_append, released_append, hMarked]
  rfl

theorem plays_keepActive (plays : Plays (keepActive c i that) transcript after)
    (hLocal : ∀ exchange ∈ transcript, Local exchange) :
    ∃ mode, released transcript = (if that.aux i ≠ 0 ∧ 3 ≤ i ∧ mode ≠ 2 then [.aux i] else []) ∧
      Settled that after (released transcript) ∧ (that.aux i ≠ 0 → ModeSet transcript mode) := by
  rw [keepActive] at plays
  by_cases hOn : that.aux i ≠ 0
  · rw [if_pos hOn] at plays
    obtain ⟨probe, rest, mode, rfl, hProbe, hRest⟩ := plays_bind_iff.mp plays
    obtain ⟨tell, rest, _, rfl, hTell, hRest⟩ := plays_bind_iff.mp hRest
    obtain ⟨hSilent, port, hMode⟩ := plays_tellPortMode hTell
    refine ⟨mode, ?_, ?_, fun _ => ⟨port, by simp [hMode]⟩⟩
    all_goals rw [released_append, released_append, released_probePortMode hProbe, hSilent]
    all_goals rw [List.nil_append, List.nil_append]
    all_goals split at hRest
    · next hGo =>
        obtain ⟨answer, rest, rfl, hDone⟩ := plays_perform_iff.mp hRest
        obtain ⟨rfl, rfl⟩ := plays_done_iff.mp hDone
        rw [if_pos ⟨hOn, hGo⟩]
        rfl
    · next hStay =>
        obtain ⟨rfl, rfl⟩ := plays_done_iff.mp hRest
        rw [if_neg fun h => hStay h.2]
        rfl
    · obtain ⟨answer, rest, rfl, hDone⟩ := plays_perform_iff.mp hRest
      obtain ⟨rfl, rfl⟩ := plays_done_iff.mp hDone
      exact settled_aux (hLocal _ (by simp))
    · obtain ⟨rfl, rfl⟩ := plays_done_iff.mp hRest
      exact .refl after
  · rw [if_neg hOn] at plays
    obtain ⟨rfl, rfl⟩ := plays_done_iff.mp plays
    exact ⟨0, by rw [if_neg fun h => hOn h.1]; rfl, .refl after, fun h => absurd h hOn⟩

theorem plays_releasePort (plays : Plays (releasePort c activeDdi i that) transcript after)
    (hLocal : ∀ exchange ∈ transcript, Local exchange) :
    ∃ mode, released transcript = wanted activeDdi mode that i ∧
      Settled that after (released transcript) ∧
      ((i : Int) = activeDdi → that.aux i ≠ 0 → ModeSet transcript mode) := by
  rw [releasePort] at plays
  split at plays
  · next hActive =>
      obtain ⟨mode, hReleased, hSettled, hMode⟩ := plays_keepActive plays hLocal
      exact ⟨mode, by rw [hReleased, wanted, if_pos hActive], hSettled, fun _ => hMode⟩
  · next hOther =>
      obtain ⟨first, rest, middle, rfl, hDdi, hAux⟩ := plays_bind_iff.mp plays
      obtain ⟨hFirst, hSettled⟩ :=
        plays_releaseDdi hDdi fun e hMem => hLocal e (List.mem_append_left _ hMem)
      obtain ⟨hSecond, hThen⟩ :=
        plays_releaseAux hAux fun e hMem => hLocal e (List.mem_append_right _ hMem)
      have hSame : middle.aux i = that.aux i := by
        rw [hSettled.aux, hFirst]
        split <;> simp
      refine ⟨0, ?_, ?_, fun h => absurd h hOther⟩
      · rw [released_append, hFirst, hSecond, hSame, wanted, if_neg hOther]
      · rw [released_append]
        exact hSettled.trans hThen

/-- The wells that a port has to lose are its own. -/
theorem mem_wanted {mode : Nat} {well : Well} (h : well ∈ wanted activeDdi mode that i) :
    well = .ddi i ∨ well = .aux i := by
  rw [wanted] at h
  split at h
  · split at h
    · exact .inr (List.mem_singleton.mp h)
    · cases h
  · rcases List.mem_append.mp h with hDdi | hAux
    · split at hDdi
      · exact .inl (List.mem_singleton.mp hDdi)
      · cases hDdi
    · split at hAux
      · exact .inr (List.mem_singleton.mp hAux)
      · cases hAux

/-- Only the port of the boot picture depends on the mode. -/
theorem wanted_of_ne {mode other : Nat} (h : (i : Int) ≠ activeDdi) :
    wanted activeDdi mode that i = wanted activeDdi other that i := by
  rw [wanted, wanted, if_neg h, if_neg h]

theorem wanted_congr {mode : Nat} (hDdi : after.ddi i = that.ddi i)
    (hAux : after.aux i = that.aux i) :
    wanted activeDdi mode after i = wanted activeDdi mode that i := by
  rw [wanted, wanted, hDdi, hAux]

theorem plays_releasePorts {list : List Nat} (hNodup : list.Nodup)
    (plays : Plays (releasePorts c activeDdi list that) transcript after)
    (hLocal : ∀ exchange ∈ transcript, Local exchange) :
    ∃ mode, released transcript = list.flatMap (wanted activeDdi mode that) ∧
      Settled that after (released transcript) ∧
      ∀ i ∈ list, (i : Int) = activeDdi → that.aux i ≠ 0 → ModeSet transcript mode := by
  induction list generalizing that transcript with
  | nil =>
      obtain ⟨rfl, rfl⟩ := plays_done_iff.mp plays
      exact ⟨0, rfl, .refl after, by simp⟩
  | cons i list ih =>
      obtain ⟨hFresh, hRestNodup⟩ := List.nodup_cons.mp hNodup
      obtain ⟨first, rest, middle, rfl, hPort, hRest⟩ := plays_bind_iff.mp plays
      obtain ⟨mode, hFirst, hSettled, hMode⟩ :=
        plays_releasePort hPort fun e hMem => hLocal e (List.mem_append_left _ hMem)
      obtain ⟨later, hSecond, hThen, hLater⟩ :=
        ih hRestNodup hRest fun e hMem => hLocal e (List.mem_append_right _ hMem)
      -- The first port changes the records of no other one.
      have hOthers : ∀ j ∈ list, middle.ddi j = that.ddi j ∧ middle.aux j = that.aux j := by
        intro j hj
        have hNe : j ≠ i := fun h => hFresh (h ▸ hj)
        rw [hSettled.ddi, hSettled.aux, hFirst, if_neg, if_neg]
        · exact ⟨rfl, rfl⟩
        · intro h
          rcases mem_wanted h with hEq | hEq
          · cases hEq
          · exact hNe (Well.aux.inj hEq)
        · intro h
          rcases mem_wanted h with hEq | hEq
          · exact hNe (Well.ddi.inj hEq)
          · cases hEq
      have hWanted (mode : Nat) : list.flatMap (wanted activeDdi mode middle) =
          list.flatMap (wanted activeDdi mode that) :=
        List.flatMap_congr fun j hj => wanted_congr (hOthers j hj).1 (hOthers j hj).2
      have hSettledAll : Settled that after (released (first ++ rest)) := by
        rw [released_append]
        exact hSettled.trans hThen
      by_cases hActive : (i : Int) = activeDdi
      · have hNone : ∀ j ∈ list, (j : Int) ≠ activeDdi := by
          intro j hj hSame
          exact hFresh (Int.ofNat.inj (hSame.trans hActive.symm) ▸ hj)
        refine ⟨mode, ?_, hSettledAll, ?_⟩
        · rw [released_append, hFirst, hSecond, hWanted, List.flatMap_cons]
          congr 1
          exact List.flatMap_congr fun j hj => wanted_of_ne (hNone j hj)
        · intro j hj hSame hOn
          rcases List.mem_cons.mp hj with rfl | hj
          · obtain ⟨port, hMem⟩ := hMode hSame hOn
            exact ⟨port, List.mem_append_left _ hMem⟩
          · exact absurd hSame (hNone j hj)
      · refine ⟨later, ?_, hSettledAll, ?_⟩
        · rw [released_append, hFirst, hSecond, hWanted, List.flatMap_cons, wanted_of_ne hActive]
        · intro j hj hSame hOn
          rcases List.mem_cons.mp hj with rfl | hj
          · exact absurd hSame hActive
          · obtain ⟨port, hMem⟩ := hLater j hj hSame (by rw [(hOthers j hj).2]; exact hOn)
            exact ⟨port, List.mem_append_right _ hMem⟩

/-- Only groups of a list were switched off, in its order, and no port. -/
structure GroupsReleased (that after : PowerWells) (transcript : Transcript WellAnswer)
    (groups : List Nat) : Prop where
  groups : (released transcript).Sublist (groups.map .pg)
  ddi : after.ddi = that.ddi
  aux : after.aux = that.aux

theorem groupsReleased_done (groups : List Nat) : GroupsReleased that that [] groups :=
  ⟨List.nil_sublist _, rfl, rfl⟩

theorem foldl_setPg (raised : List Nat) :
    (raised.foldl (fun that k => that.setPg k 2) that).ddi = that.ddi ∧
      (raised.foldl (fun that k => that.setPg k 2) that).aux = that.aux := by
  induction raised generalizing that with
  | nil => exact ⟨rfl, rfl⟩
  | cons k rest ih => exact ih

theorem plays_releasePg {raised : List Nat} {on : Bool}
    (plays : Plays (releasePg n raised on that) transcript after)
    (hLocal : ∀ exchange ∈ transcript, Local exchange) :
    released transcript = (if on then [.pg n] else []) ∧ after.ddi = that.ddi ∧
      after.aux = that.aux := by
  rw [releasePg] at plays
  split at plays
  · next hOn =>
      obtain ⟨answer, rest, rfl, hDone⟩ := plays_perform_iff.mp plays
      obtain ⟨rfl, rfl⟩ := plays_done_iff.mp hDone
      obtain ⟨hDdi, hAux⟩ := hLocal _ List.mem_cons_self
      refine ⟨by rw [if_pos hOn]; rfl, ?_, ?_⟩
      · exact hDdi.trans (foldl_setPg raised).1
      · exact hAux.trans (foldl_setPg raised).2
  · next hOff =>
      obtain ⟨rfl, rfl⟩ := plays_done_iff.mp plays
      exact ⟨by rw [if_neg hOff]; rfl, rfl, rfl⟩

/-- One group more, in front of the others. -/
theorem GroupsReleased.cons {groups raised : List Nat} {on : Bool}
    (one : Plays (releasePg n raised on that) first middle)
    (hLocal : ∀ exchange ∈ first, Local exchange)
    (others : GroupsReleased middle after second groups) :
    GroupsReleased that after (first ++ second) (n :: groups) := by
  obtain ⟨hReleased, hDdi, hAux⟩ := plays_releasePg one hLocal
  refine ⟨?_, others.ddi.trans hDdi, others.aux.trans hAux⟩
  rw [released_append, hReleased, List.map_cons]
  split
  · exact others.groups.cons_cons _
  · exact others.groups.cons _

/-- The last group. -/
theorem GroupsReleased.last {raised : List Nat} {on : Bool}
    (one : Plays (releasePg n raised on that) first after)
    (hLocal : ∀ exchange ∈ first, Local exchange) : GroupsReleased that after first [n] := by
  have hNone : GroupsReleased after after [] [] := groupsReleased_done []
  have hAll := GroupsReleased.cons one hLocal hNone
  rwa [List.append_nil] at hAll

theorem plays_releasePgs {bootPipe : Int} {pg5Enabled : Bool}
    (plays : Plays (releasePgs bootPipe pg5Enabled that) transcript after)
    (hLocal : ∀ exchange ∈ transcript, Local exchange) :
    GroupsReleased that after transcript (unneeded bootPipe) := by
  rw [releasePgs] at plays
  rw [unneeded]
  split at plays
  · next hZero =>
      rw [if_pos hZero]
      obtain ⟨five, rest, _, rfl, hFive, plays⟩ := plays_bind_iff.mp plays
      obtain ⟨four, rest, _, rfl, hFour, plays⟩ := plays_bind_iff.mp plays
      obtain ⟨three, two, _, rfl, hThree, hTwo⟩ := plays_bind_iff.mp plays
      simp only [List.mem_append] at hLocal
      exact .cons hFive (fun e h => hLocal e (.inl h))
        (.cons hFour (fun e h => hLocal e (.inr (.inl h)))
          (.cons hThree (fun e h => hLocal e (.inr (.inr (.inl h))))
            (.last hTwo fun e h => hLocal e (.inr (.inr (.inr h))))))
  · next hZero =>
      rw [if_neg hZero]
      split at plays
      · next hOne =>
          rw [if_pos hOne]
          obtain ⟨five, four, _, rfl, hFive, hFour⟩ := plays_bind_iff.mp plays
          simp only [List.mem_append] at hLocal
          exact .cons hFive (fun e h => hLocal e (.inl h))
            (.last hFour fun e h => hLocal e (.inr h))
      · next hOne =>
          rw [if_neg hOne]
          split at plays
          · next hNone =>
              rw [if_pos hNone]
              obtain ⟨five, rest, _, rfl, hFive, plays⟩ := plays_bind_iff.mp plays
              obtain ⟨four, rest, _, rfl, hFour, plays⟩ := plays_bind_iff.mp plays
              obtain ⟨three, rest, _, rfl, hThree, plays⟩ := plays_bind_iff.mp plays
              obtain ⟨two, one, _, rfl, hTwo, hLast⟩ := plays_bind_iff.mp plays
              simp only [List.mem_append] at hLocal
              exact .cons hFive (fun e h => hLocal e (.inl h))
                (.cons hFour (fun e h => hLocal e (.inr (.inl h)))
                  (.cons hThree (fun e h => hLocal e (.inr (.inr (.inl h))))
                    (.cons hTwo (fun e h => hLocal e (.inr (.inr (.inr (.inl h)))))
                      (.last hLast fun e h => hLocal e (.inr (.inr (.inr (.inr h))))))))
          · next hNone =>
              rw [if_neg hNone]
              obtain ⟨rfl, rfl⟩ := plays_done_iff.mp plays
              exact groupsReleased_done []

/-- What the firmware left, as it was found: the registers, the boot pipe and its port,
and the record with which the wells are looked at. -/
structure Boot where
  regs : WellRegisters
  bootPipe : Int
  activeDdi : Int
  start : PowerWells

/-- Where these come from: the record is that of the registers, or what switching the
engine on made of it. -/
structure Boot.Found (boot : Boot) (c : WellController) (that : PowerWells)
    (transcript : Transcript WellAnswer) : Prop where
  pgState : (⟨.read hswPwrWellCtl2, boot.regs.pgState⟩ : WellExchange) ∈ transcript
  ddiState : (⟨.read iclPwrWellCtlDdi2, boot.regs.ddiState⟩ : WellExchange) ∈ transcript
  auxState : (⟨.read iclPwrWellCtlAux2, boot.regs.auxState⟩ : WellExchange) ∈ transcript
  tbtState : (⟨.read tglPwrWellCtlAux4, boot.regs.tbtState⟩ : WellExchange) ∈ transcript
  probe : (⟨.probeBootPipe, (boot.bootPipe, boot.activeDdi)⟩ : WellExchange) ∈ transcript
  start : if boot.bootPipe ≠ 0xffff ∧ powered boot.regs.pgState 0 = false then
      (⟨.enableDisplayEngine (recordWells c boot.regs (clearWells c that)), boot.start⟩ :
        WellExchange) ∈ transcript
    else boot.start = recordWells c boot.regs (clearWells c that)

/-- The number of ports that the loop looks at. -/
def portCount (c : WellController) : Nat := if c.kexticl then 6 else 9

/-- What is left on is what the boot picture needs: the wells of the ports that the record
has on, and that are not of the active port, have gone, each once and in order. -/
structure TakenOver (c : WellController) (boot : Boot) (transcript : Transcript WellAnswer) :
    Prop where
  ddi : ∀ i, .ddi i ∈ released transcript ↔
    i < portCount c ∧ (i : Int) ≠ boot.activeDdi ∧ boot.start.ddi i ≠ 0
  aux : ∃ mode, (∀ i, .aux i ∈ released transcript ↔ i < portCount c ∧ boot.start.aux i ≠ 0 ∧
      ((i : Int) ≠ boot.activeDdi ∨ 3 ≤ i ∧ mode ≠ 2)) ∧
    ∀ i < portCount c, (i : Int) = boot.activeDdi → boot.start.aux i ≠ 0 → ModeSet transcript mode
  groups : ∀ n, .pg n ∈ released transcript → n ∈ unneeded boot.bootPipe
  order : (released transcript).Pairwise fun first second => first.rank < second.rank
  tcCold : ∀ block, (⟨.tcColdRequest block, ()⟩ : WellExchange) ∈ transcript ↔
    (block = true ↔ ∃ i ∈ tcWells,
      boot.start.ddi i ≠ 0 ∧ .ddi i ∉ released transcript ∨
        c.kexticl = false ∧ boot.start.aux i ≠ 0 ∧ .aux i ∉ released transcript)

/-- All operations but the request to leave TCCOLD. -/
def NotCold : WellOp → Prop
  | .tcColdRequest _ => False
  | _ => True

theorem performs_releaseAux : (releaseAux i that).Performs NotCold := by
  rw [releaseAux]
  split
  · exact ⟨trivial, fun _ => trivial⟩
  · trivial

theorem performs_keepActive : (keepActive c i that).Performs NotCold := by
  have hProbe : (probePortMode i).Performs NotCold := by
    rw [probePortMode]
    split
    · trivial
    · exact ⟨trivial, fun _ => trivial⟩
  have hMark (port : Nat) : (markForIcl c port).Performs NotCold := by
    rw [markForIcl]
    split
    · exact ⟨trivial, fun _ => trivial⟩
    · trivial
  have hTell (mode : Nat) : (tellPortMode c i mode).Performs NotCold :=
    Program.performs_bind ((Program.performs_perform _).mpr trivial) fun port =>
      Program.performs_bind (hMark port) fun _ => (Program.performs_perform _).mpr trivial
  rw [keepActive]
  split
  · refine Program.performs_bind hProbe fun mode => Program.performs_bind (hTell mode) fun _ => ?_
    split
    · exact ⟨trivial, fun _ => trivial⟩
    · trivial
  · trivial

theorem performs_releasePorts (list : List Nat) (that : PowerWells) :
    (releasePorts c activeDdi list that).Performs NotCold := by
  induction list generalizing that with
  | nil => trivial
  | cons i rest ih =>
      refine Program.performs_bind ?_ ih
      rw [releasePort]
      split
      · exact performs_keepActive
      · refine Program.performs_bind ?_ fun _ => performs_releaseAux
        rw [releaseDdi]
        split
        · exact ⟨trivial, fun _ => trivial⟩
        · trivial

theorem performs_releasePgs (bootPipe : Int) (pg5Enabled : Bool) (that : PowerWells) :
    (releasePgs bootPipe pg5Enabled that).Performs NotCold := by
  have hGroup (n : Nat) (raised : List Nat) (on : Bool) (that : PowerWells) :
      (releasePg n raised on that).Performs NotCold := by
    rw [releasePg]
    split
    · exact ⟨trivial, fun _ => trivial⟩
    · trivial
  rw [releasePgs]
  split
  · exact Program.performs_bind (hGroup ..) fun _ => Program.performs_bind (hGroup ..) fun _ =>
      Program.performs_bind (hGroup ..) fun _ => hGroup ..
  · split
    · exact Program.performs_bind (hGroup ..) fun _ => hGroup ..
    · split
      · exact Program.performs_bind (hGroup ..) fun _ => Program.performs_bind (hGroup ..) fun _ =>
          Program.performs_bind (hGroup ..) fun _ => Program.performs_bind (hGroup ..) fun _ =>
            hGroup ..
      · trivial

theorem released_wanted_ddi {mode : Nat} {boot : Boot} {j count : Nat} :
    .ddi j ∈ (List.range count).flatMap (wanted boot.activeDdi mode boot.start) ↔
      j < count ∧ (j : Int) ≠ boot.activeDdi ∧ boot.start.ddi j ≠ 0 := by
  rw [List.mem_flatMap]
  constructor
  · rintro ⟨i, hi, hMem⟩
    rcases mem_wanted hMem with hEq | hEq
    · obtain rfl := Well.ddi.inj hEq
      rw [wanted] at hMem
      split at hMem
      · split at hMem <;> simp at hMem
      · next hOther =>
          refine ⟨List.mem_range.mp hi, hOther, ?_⟩
          intro hOff
          rw [if_neg (not_not.mpr hOff)] at hMem
          split at hMem <;> simp at hMem
    · cases hEq
  · rintro ⟨hj, hOther, hOn⟩
    refine ⟨j, List.mem_range.mpr hj, ?_⟩
    rw [wanted, if_neg hOther, if_pos hOn]
    exact List.mem_append_left _ List.mem_cons_self

theorem released_wanted_aux {mode : Nat} {boot : Boot} {j count : Nat} :
    .aux j ∈ (List.range count).flatMap (wanted boot.activeDdi mode boot.start) ↔
      j < count ∧ boot.start.aux j ≠ 0 ∧ ((j : Int) ≠ boot.activeDdi ∨ 3 ≤ j ∧ mode ≠ 2) := by
  rw [List.mem_flatMap]
  constructor
  · rintro ⟨i, hi, hMem⟩
    rcases mem_wanted hMem with hEq | hEq
    · cases hEq
    · obtain rfl := Well.aux.inj hEq
      rw [wanted] at hMem
      split at hMem
      · split at hMem
        · next hGo => exact ⟨List.mem_range.mp hi, hGo.1, .inr hGo.2⟩
        · cases hMem
      · next hOther =>
          refine ⟨List.mem_range.mp hi, ?_, .inl hOther⟩
          intro hOff
          rw [if_neg (not_not.mpr hOff), List.append_nil] at hMem
          split at hMem <;> simp at hMem
  · rintro ⟨hj, hOn, hGo⟩
    refine ⟨j, List.mem_range.mpr hj, ?_⟩
    rw [wanted]
    split
    · next hActive =>
        rw [if_pos ⟨hOn, hGo.resolve_left (not_not.mpr hActive)⟩]
        exact List.mem_cons_self
    · exact List.mem_append_right _ List.mem_cons_self

/-- The wells of a port come in their order, and before those of a later port. -/
theorem pairwise_wanted {mode : Nat} (list : List Nat) (hSorted : list.Pairwise (· < ·)) :
    (list.flatMap (wanted activeDdi mode that)).Pairwise fun first second =>
      first.rank < second.rank := by
  rw [List.pairwise_flatMap]
  constructor
  · intro i _
    rw [wanted]
    split
    · split <;> simp
    · split <;> split <;> simp [Well.rank]
  · refine hSorted.imp fun hLt first hFirst second hSecond => ?_
    rcases mem_wanted hFirst with rfl | rfl <;> rcases mem_wanted hSecond with rfl | rfl <;>
      simp only [Well.rank] <;> omega

/-- What comes after the loop over the ports and the groups. -/
theorem plays_takeOver {bootPipe : Int} {pg5Enabled : Bool}
    (plays : Plays (takeOver c bootPipe activeDdi pg5Enabled that) transcript after) :
    ∃ ports groups ending middle last,
      transcript = ports ++ groups ++ ⟨.tcColdRequest (tcInUse c last), ()⟩ :: ending ∧
      Plays (releasePorts c activeDdi (List.range (portCount c)) that) ports middle ∧
      Plays (releasePgs bootPipe pg5Enabled middle) groups last ∧
      released ending = [] ∧ ∀ exchange ∈ ending, NotCold exchange.1 := by
  obtain ⟨ports, rest, middle, rfl, hPorts, hRest⟩ := plays_bind_iff.mp plays
  obtain ⟨groups, rest, last, rfl, hGroups, hRest⟩ := plays_bind_iff.mp hRest
  obtain ⟨answer, ending, rfl, hEnd⟩ := plays_perform_iff.mp hRest
  refine ⟨ports, groups, ending, middle, last, (List.append_assoc ..).symm, hPorts, hGroups, ?_⟩
  split at hEnd
  · obtain ⟨answer, rest, rfl, hDone⟩ := plays_call_iff.mp hEnd
    obtain ⟨rfl, -⟩ := plays_done_iff.mp hDone
    exact ⟨rfl, by simp [NotCold]⟩
  · obtain ⟨rfl, -⟩ := plays_done_iff.mp hEnd
    exact ⟨rfl, by simp⟩

/-- Nothing is switched off before the loop, and nothing is asked about TCCOLD. -/
theorem plays_init {that0 : PowerWells}
    (plays : Plays (appleIntelPowerWellinit c that0) transcript after) :
    ∃ (boot : Boot) (before rest : Transcript WellAnswer),
      transcript = before ++ rest ∧ boot.Found c that0 before ∧
      Plays (takeOver c boot.bootPipe boot.activeDdi (powered boot.regs.pgState 4) boot.start)
        rest after ∧
      released before = [] ∧ ∀ exchange ∈ before, NotCold exchange.1 := by
  obtain ⟨pgState, _, rfl, hDdi⟩ := plays_perform_iff.mp plays
  obtain ⟨ddiState, _, rfl, hAux⟩ := plays_perform_iff.mp hDdi
  obtain ⟨auxState, _, rfl, hTbt⟩ := plays_perform_iff.mp hAux
  obtain ⟨tbtState, _, rfl, hDc6⟩ := plays_perform_iff.mp hTbt
  obtain ⟨leave, _, _, rfl, hLeave, hProbe⟩ := plays_bind_iff.mp hDc6
  obtain ⟨probed, _, rfl, hOn⟩ := plays_perform_iff.mp hProbe
  obtain ⟨enable, rest, start, rfl, hEnable, hTake⟩ := plays_bind_iff.mp hOn
  have hLeft : released leave = [] ∧ ∀ exchange ∈ leave, NotCold exchange.1 := by
    rw [leaveDc6IfUsed] at hLeave
    split at hLeave
    · obtain ⟨_, _, rfl, hSet⟩ := plays_perform_iff.mp hLeave
      obtain ⟨_, _, rfl, hDone⟩ := plays_call_iff.mp hSet
      obtain ⟨rfl, -⟩ := plays_done_iff.mp hDone
      exact ⟨rfl, by simp [NotCold]⟩
    · obtain ⟨rfl, -⟩ := plays_done_iff.mp hLeave
      exact ⟨rfl, by simp⟩
  have hOff : (recordWells c ⟨pgState, ddiState, auxState, tbtState⟩ (clearWells c that0)).pg 1 = 0 ↔
      powered pgState 0 = false := by
    simp [recordWells]
  have hEnabled : released enable = [] ∧ (∀ exchange ∈ enable, NotCold exchange.1) ∧
      if probed.1 ≠ 0xffff ∧ powered pgState 0 = false then
        (⟨.enableDisplayEngine
          (recordWells c ⟨pgState, ddiState, auxState, tbtState⟩ (clearWells c that0)), start⟩ :
            WellExchange) ∈ enable
      else start = recordWells c ⟨pgState, ddiState, auxState, tbtState⟩ (clearWells c that0) := by
    simp only [enableIfOff, hOff] at hEnable
    split at hEnable
    · next hEngine =>
        obtain ⟨_, _, rfl, hDone⟩ := plays_call_iff.mp hEnable
        obtain ⟨rfl, rfl⟩ := plays_done_iff.mp hDone
        rw [if_pos hEngine]
        exact ⟨rfl, by simp [NotCold], List.mem_cons_self⟩
    · next hEngine =>
        obtain ⟨rfl, rfl⟩ := plays_done_iff.mp hEnable
        rw [if_neg hEngine]
        exact ⟨rfl, by simp, rfl⟩
  refine ⟨⟨⟨pgState, ddiState, auxState, tbtState⟩, probed.1, probed.2, start⟩,
    [⟨.read hswPwrWellCtl2, pgState⟩, ⟨.read iclPwrWellCtlDdi2, ddiState⟩,
      ⟨.read iclPwrWellCtlAux2, auxState⟩, ⟨.read tglPwrWellCtlAux4, tbtState⟩] ++ leave ++
      ⟨.probeBootPipe, probed⟩ :: enable, rest, by simp, ?_, hTake, ?_, ?_⟩
  · exact {
      pgState := by simp
      ddiState := by simp
      auxState := by simp
      tbtState := by simp
      probe := by simp
      start := by
        have hStart := hEnabled.2.2
        split at hStart
        · next hEngine =>
            rw [if_pos hEngine]
            exact List.mem_append_right _ (List.mem_cons_of_mem _ hStart)
        · next hEngine =>
            rw [if_neg hEngine]
            exact hStart }
  · rw [← List.singleton_append (l := enable), released_append, released_append, released_append,
      hLeft.1, hEnabled.1]
    rfl
  · intro exchange hMem
    simp only [List.mem_append, List.mem_cons, List.not_mem_nil, or_false] at hMem
    rcases hMem with ((rfl | rfl | rfl | rfl) | hMem) | rfl | hMem
    all_goals first | trivial | exact hLeft.2 _ hMem | exact hEnabled.2.1 _ hMem

theorem Boot.Found.mono {boot : Boot} {that0 : PowerWells} {more : Transcript WellAnswer}
    (found : boot.Found c that0 transcript) : boot.Found c that0 (transcript ++ more) where
  pgState := List.mem_append_left _ found.pgState
  ddiState := List.mem_append_left _ found.ddiState
  auxState := List.mem_append_left _ found.auxState
  tbtState := List.mem_append_left _ found.tbtState
  probe := List.mem_append_left _ found.probe
  start := by
    have hStart := found.start
    split at hStart
    · next hEngine =>
        rw [if_pos hEngine]
        exact List.mem_append_left _ hStart
    · next hEngine =>
        rw [if_neg hEngine]
        exact hStart

theorem unneeded_le {bootPipe : Int} (h : n ∈ unneeded bootPipe) : n ≤ 5 := by
  rw [unneeded] at h
  split at h
  · simp at h
    omega
  · split at h
    · simp at h
      omega
    · split at h
      · simp at h
        omega
      · cases h

theorem pairwise_unneeded (bootPipe : Int) :
    ((unneeded bootPipe).map Well.pg).Pairwise fun first second => first.rank < second.rank := by
  rw [unneeded]
  split
  · decide
  · split
    · decide
    · split
      · decide
      · exact .nil

/-- Every port comes before every group. -/
theorem rank_lt_pg {bootPipe : Int} (hi : i < portCount c) (hn : n ∈ unneeded bootPipe) :
    2 * i + 1 < 100 - n := by
  have hCount : portCount c ≤ 9 := by
    rw [portCount]
    split <;> omega
  have hLe := unneeded_le hn
  omega

/-- Whether leaving TCCOLD is asked for, by the wells that were on and have not gone. -/
theorem tcInUse_of_settled (settled : Settled that middle wells) (hDdi : after.ddi = middle.ddi)
    (hAux : after.aux = middle.aux) :
    tcInUse c after = decide (∃ i ∈ tcWells, that.ddi i ≠ 0 ∧ .ddi i ∉ wells ∨
      c.kexticl = false ∧ that.aux i ≠ 0 ∧ .aux i ∉ wells) := by
  have hOnDdi (i : Nat) : after.ddi i ≠ 0 ↔ that.ddi i ≠ 0 ∧ .ddi i ∉ wells := by
    rw [hDdi, settled.ddi]
    split <;> simp [*]
  have hOnAux (i : Nat) : after.aux i ≠ 0 ↔ that.aux i ≠ 0 ∧ .aux i ∉ wells := by
    rw [hAux, settled.aux]
    split <;> simp [*]
  rw [Bool.eq_iff_iff, decide_eq_true_eq, tcInUse]
  simp only [Bool.or_eq_true, Bool.and_eq_true, List.any_eq_true, decide_eq_true_eq, hOnDdi, hOnAux,
    Bool.not_eq_true']
  constructor
  · rintro (⟨i, hi, hOn⟩ | ⟨hKext, i, hi, hOn⟩)
    · exact ⟨i, hi, .inl hOn⟩
    · exact ⟨i, hi, .inr ⟨hKext, hOn⟩⟩
  · rintro ⟨i, hi, hOn | ⟨hKext, hOn⟩⟩
    · exact .inl ⟨i, hi, hOn⟩
    · exact .inr ⟨hKext, i, hi, hOn⟩

/-- The driver takes over from the firmware: whatever it was left with, it switches off
exactly the wells that the record has on and the boot picture does not need, each once,
port by port and then the groups from above, and it asks to leave TCCOLD just when a
well of one of the ports for it stays on. -/
theorem powerWells_takenOver (c : WellController) (that0 after : PowerWells)
    (transcript : Transcript WellAnswer)
    (plays : Plays (appleIntelPowerWellinit c that0) transcript after)
    (hLocal : ∀ exchange ∈ transcript, Local exchange) :
    ∃ boot : Boot, boot.Found c that0 transcript ∧ TakenOver c boot transcript := by
  obtain ⟨boot, before, rest, rfl, found, hTake, hQuiet, hNotCold⟩ := plays_init plays
  obtain ⟨ports, groups, ending, middle, last, rfl, hPorts, hGroups, hEnd, hNotColdEnd⟩ :=
    plays_takeOver hTake
  have hAll : ∀ exchange ∈ ports ++ groups, Local exchange := by
    intro exchange hMem
    exact hLocal _ (List.mem_append_right _ (List.mem_append_left _ hMem))
  obtain ⟨mode, hWells, hSettled, hMode⟩ := plays_releasePorts List.nodup_range hPorts
    fun e hMem => hAll e (List.mem_append_left _ hMem)
  obtain ⟨hSublist, hDdi, hAux⟩ :=
    plays_releasePgs hGroups fun e hMem => hAll e (List.mem_append_right _ hMem)
  have hReleased : released (before ++ (ports ++ groups ++
      ⟨.tcColdRequest (tcInUse c last), ()⟩ :: ending)) = released ports ++ released groups := by
    rw [released_append, released_append, released_append, hQuiet,
      ← List.singleton_append (l := ending), released_append, hEnd]
    simp [released, releasedBy]
  have hGroup : ∀ well ∈ released groups, ∃ n ∈ unneeded boot.bootPipe, well = .pg n := by
    intro well hMem
    obtain ⟨n, hn, rfl⟩ := List.mem_map.mp (hSublist.subset hMem)
    exact ⟨n, hn, rfl⟩
  have hPort : ∀ well ∈ released ports, ∃ i < portCount c, well = .ddi i ∨ well = .aux i := by
    intro well hMem
    rw [hWells, List.mem_flatMap] at hMem
    obtain ⟨i, hi, hMem⟩ := hMem
    exact ⟨i, List.mem_range.mp hi, mem_wanted hMem⟩
  have hDdiMem (i : Nat) : .ddi i ∈ released ports ++ released groups ↔ .ddi i ∈ released ports := by
    refine List.mem_append.trans (or_iff_left fun h => ?_)
    obtain ⟨n, -, hEq⟩ := hGroup _ h
    cases hEq
  have hAuxMem (i : Nat) : .aux i ∈ released ports ++ released groups ↔ .aux i ∈ released ports := by
    refine List.mem_append.trans (or_iff_left fun h => ?_)
    obtain ⟨n, -, hEq⟩ := hGroup _ h
    cases hEq
  have hQuietLoop : ∀ exchange ∈ ports ++ groups, NotCold exchange.1 := by
    intro exchange hMem
    rcases List.mem_append.mp hMem with hMem | hMem
    · exact plays_performs (performs_releasePorts _ _) hPorts exchange hMem
    · exact plays_performs (performs_releasePgs _ _ _) hGroups exchange hMem
  refine ⟨boot, found.mono, ?_⟩
  exact {
    ddi := by
      intro i
      rw [hReleased, hDdiMem, hWells]
      exact released_wanted_ddi
    aux := by
      refine ⟨mode, fun i => ?_, fun i hi hActive hOn => ?_⟩
      · rw [hReleased, hAuxMem, hWells]
        exact released_wanted_aux
      · obtain ⟨port, hMem⟩ := hMode i (List.mem_range.mpr hi) hActive hOn
        exact ⟨port, by simp [hMem]⟩
    groups := by
      intro n hMem
      rw [hReleased] at hMem
      rcases List.mem_append.mp hMem with hMem | hMem
      · obtain ⟨i, -, hEq | hEq⟩ := hPort _ hMem <;> cases hEq
      · obtain ⟨k, hk, hEq⟩ := hGroup _ hMem
        cases hEq
        exact hk
    order := by
      rw [hReleased, List.pairwise_append]
      refine ⟨?_, ?_, ?_⟩
      · rw [hWells]
        exact pairwise_wanted _ List.pairwise_lt_range
      · exact (pairwise_unneeded boot.bootPipe).sublist hSublist
      · intro first hFirst second hSecond
        obtain ⟨n, hn, rfl⟩ := hGroup _ hSecond
        obtain ⟨i, hi, rfl | rfl⟩ := hPort _ hFirst
        · exact Nat.lt_of_succ_lt (rank_lt_pg hi hn)
        · exact rank_lt_pg hi hn
    tcCold := by
      intro block
      have hOnly : (⟨.tcColdRequest block, ()⟩ : WellExchange) ∈ before ++ (ports ++ groups ++
          ⟨.tcColdRequest (tcInUse c last), ()⟩ :: ending) ↔ block = tcInUse c last := by
        constructor
        · intro hMem
          rcases List.mem_append.mp hMem with hMem | hMem
          · exact (hNotCold _ hMem).elim
          · rcases List.mem_append.mp hMem with hMem | hMem
            · exact (hQuietLoop _ hMem).elim
            · rcases List.mem_cons.mp hMem with hEq | hMem
              · cases hEq
                rfl
              · exact (hNotColdEnd _ hMem).elim
        · rintro rfl
          simp
      rw [hOnly, hReleased, tcInUse_of_settled hSettled hDdi hAux, Bool.eq_iff_iff]
      simp only [hDdiMem, hAuxMem, decide_eq_true_eq] }

end Release

section Laptop

/-- A controller whose functions count the record of a well down, and whose firmware left
on the first two groups, the first port and, for the boot picture, the fourth one. -/
def laptop : Opponent WellAnswer
  | _, .read reg =>
      if reg = hswPwrWellCtl2 then 0xf
      else if reg = iclPwrWellCtlDdi2 ∨ reg = iclPwrWellCtlAux2 then 0xc3
      else if reg = 0x1638A0 then 0x20
      else 0
  | _, .disableHWDC6 => ()
  | _, .setDC6EnabledRefCount _ => ()
  | _, .probeBootPipe => (0, 3)
  | _, .enableDisplayEngine that => that
  | _, .getPortByDDI i => i
  | _, .markPort _ => ()
  | _, .setPortMode _ _ => ()
  | _, .disablePowerWellDDI that i => that.setDdi i (that.ddi i - 1)
  | _, .disablePowerWellAux that i => that.setAux i (that.aux i - 1)
  | _, .disablePowerWellPG that n => (List.range n).foldl (fun that k =>
      that.setPg (k + 1) (that.pg (k + 1) - 1)) that
  | _, .tcColdRequest _ => ()
  | _, .overridePowerWellsState that _ => that

theorem local_laptop (past : Transcript WellAnswer) (op : WellOp) :
    Local ⟨op, laptop past op⟩ := by
  have hGroups (list : List Nat) (that : PowerWells) :
      (list.foldl (fun that k => that.setPg (k + 1) (that.pg (k + 1) - 1)) that).ddi = that.ddi ∧
        (list.foldl (fun that k => that.setPg (k + 1) (that.pg (k + 1) - 1)) that).aux =
          that.aux := by
    induction list generalizing that with
    | nil => exact ⟨rfl, rfl⟩
    | cons k rest ih => exact ih _
  cases op with
  | disablePowerWellDDI that i =>
      refine ⟨rfl, fun j hj => ?_⟩
      simp [laptop, PowerWells.setDdi, hj]
  | disablePowerWellAux that i =>
      refine ⟨rfl, fun j hj => ?_⟩
      simp [laptop, PowerWells.setAux, hj]
  | disablePowerWellPG that n => exact hGroups _ _
  | _ => trivial

def laptopRun : PowerWells × Transcript WellAnswer :=
  (appleIntelPowerWellinit ⟨false, false, 0⟩ ⟨false, 0, fun _ => 0, fun _ => 0, fun _ => 0⟩).against
    laptop

/-- The fourth port is in the mode of DisplayPort, so its AUX well goes; the second group
goes last, and leaving TCCOLD is asked for. -/
theorem powerWells_takenOver_laptop :
    released laptopRun.2 = [.ddi 0, .aux 0, .aux 3, .pg 2] ∧
      ∃ boot : Boot, boot.Found ⟨false, false, 0⟩
          ⟨false, 0, fun _ => 0, fun _ => 0, fun _ => 0⟩ laptopRun.2 ∧
        TakenOver ⟨false, false, 0⟩ boot laptopRun.2 := by
  refine ⟨by decide +kernel, ?_⟩
  refine powerWells_takenOver _ _ laptopRun.1 laptopRun.2 (plays_against _ laptop) ?_
  have hKept : ∀ (past : Transcript WellAnswer) (op : WellOp), True →
      (∀ exchange ∈ past, Local exchange) → ∀ exchange ∈ (laptop.world past op).2, Local exchange := by
    intro past op _ hPast exchange hMem
    rcases List.mem_append.mp hMem with hMem | hMem
    · exact hPast exchange hMem
    · rw [List.mem_singleton.mp hMem]
      exact local_laptop past op
  exact Program.eval_invariant (fun past => ∀ exchange ∈ past, Local exchange) hKept
    (Program.performs_of_forall _ fun _ => trivial) (by simp)

end Laptop

end NootedBlue.Display
