import NootedBlue.Bringup.InStep
import NootedBlue.Bringup.Sequence

/-! The parts of a bring-up that leave alone what it goes by: the power of the panel, what the
sink is told beside its training, and some registers of the pipe. -/
namespace NootedBlue.Bringup

open Interaction Bits Link
open Ddi (HasBit)

/-- Nothing has changed that a bring-up goes by. -/
structure Same (source : LinkSource) (before after : Board) : Prop where
  controls_eq : source.controls after = source.controls before
  tx_eq : source.tx after = source.tx before
  power_eq : source.power after = source.power before
  lanes_eq : ∀ ln : Fin 4, after.dpcd (dpTrainingLane0Set + ln) = before.dpcd (dpTrainingLane0Set + ln)
  status_eq : after.status = before.status

/-- An operation that leaves all that alone. -/
def Idle (source : LinkSource) : LinkOp → Prop
  | .mmio (.read _) => True
  | .mmio (.write reg _) => Elsewhere source reg ∧ reg ≠ source.transConfReg
  | .aux (.write register bytes) =>
      register + bytes.length ≤ dpTrainingLane0Set ∨ dpTrainingLane0Set + 4 ≤ register
  | .aux .readStatus => False
  | .readAux _ _ => True
  | .fsleep _ => True
  | .ioSleep _ => True
  | .intelDeWaitMs _ _ _ _ => True
  | .hwSetPanelPower _ => True

section Same

variable {source : LinkSource} {before middle after : Board}

theorem Same.refl : Same source before before := ⟨rfl, rfl, rfl, fun _ => rfl, rfl⟩

theorem Same.trans (first : Same source before middle) (second : Same source middle after) :
    Same source before after where
  controls_eq := second.controls_eq.trans first.controls_eq
  tx_eq := second.tx_eq.trans first.tx_eq
  power_eq := second.power_eq.trans first.power_eq
  lanes_eq := fun ln => (second.lanes_eq ln).trans (first.lanes_eq ln)
  status_eq := second.status_eq.trans first.status_eq

theorem same_write {reg : Nat} {value : Word} (hReg : Elsewhere source reg) :
    Same source before (before.write reg value) where
  controls_eq := controls_write_elsewhere hReg
  tx_eq := tx_write_outside hReg.outside
  power_eq := power_write_outside hReg.outside
  lanes_eq := fun _ => rfl
  status_eq := rfl

/-- The sink is told of something else than its drive settings. -/
theorem same_told {register : Nat} {bytes : List Nat}
    (h : register + bytes.length ≤ dpTrainingLane0Set ∨ dpTrainingLane0Set + 4 ≤ register) :
    Same source before (before.told register bytes) where
  controls_eq := rfl
  tx_eq := rfl
  power_eq := rfl
  lanes_eq := by
    intro ln
    rcases h with hBelow | hAbove
    · exact storeBytes_beyond before.dpcd (by omega)
    · exact storeBytes_of_lt bytes before.dpcd (by omega)
  status_eq := rfl

/-- Such an operation keeps to the order, and changes nothing. -/
theorem idle_step {op : LinkOp} (h : Idle source op) (answer : LinkAnswer op) :
    InOrder source before ⟨op, answer⟩ ∧ Same source before (before.next ⟨op, answer⟩) := by
  cases op with
  | mmio op =>
      cases op with
      | read reg => exact ⟨trivial, .refl⟩
      | write reg value =>
          refine ⟨⟨?_, ?_, fun hReg => (h.2 hReg).elim⟩, same_write h.1⟩
          · rw [tx_write_outside h.1.outside]
            exact quiet_refl _
          · intro hReg
            exact (h.1.ne_control .function hReg.symm).elim
  | aux op =>
      cases op with
      | readStatus => exact h.elim
      | write register bytes =>
          refine ⟨trivial, ?_⟩
          show Same source before (if (0 : Int) ≤ answer then before.told register bytes else before)
          split
          · exact same_told h
          · exact .refl
  | readAux register count => exact ⟨trivial, .refl⟩
  | fsleep usecs => exact ⟨trivial, .refl⟩
  | ioSleep msecs => exact ⟨trivial, .refl⟩
  | intelDeWaitMs reg mask value timeoutMs => exact ⟨trivial, .refl⟩
  | hwSetPanelPower state => exact ⟨trivial, .refl⟩

/-- A program of such operations. -/
theorem ensures_idle {α : Type} {p : LinkProgram α} (h : p.Performs (Idle source)) :
    p.Ensures (rules source) (fun _ after => Same source before after) before := by
  apply ensures_of_performs (Same source before) h
  · intro t op answer hSame hOp _
    have hStep : InOrder source t ⟨op, answer⟩ ∧ Same source t (t.next ⟨op, answer⟩) :=
      idle_step hOp answer
    exact ⟨hStep.1, hSame.trans hStep.2⟩
  · exact .refl

/-- Such a program, and what follows it. -/
theorem ensures_idle_bind {α β : Type} {p : LinkProgram α} {f : α → LinkProgram β}
    {post : β → Board → Prop} (h : p.Performs (Idle source))
    (hLater : ∀ a after, Same source before after → (f a).Ensures (rules source) post after) :
    (p >>= f).Ensures (rules source) post before :=
  ensures_bind.mpr ((ensures_idle h).mono hLater)

end Same

section Elsewhere

variable {source : LinkSource}

/-- The registers of the pipes and of the PCH. -/
theorem elsewhere_high {reg : Nat} (hLow : 0x70000 ≤ reg) (hHigh : reg < 0x160000) :
    Elsewhere source reg where
  outside := by
    simp only [Outside]
    omega
  ne_control := by
    have hPort := source.hPort
    have hOffset := transOffset_lt source.transcoder
    have hIndex : source.transcoder.index ≤ 6 := by cases source.transcoder <;> decide
    intro control
    cases control <;>
      simp only [LinkSource.control, LinkSource.dpTpCtlReg, LinkSource.ddiBufCtl, iclDpclkaCfgcr0,
        LinkSource.transClkSelReg, LinkSource.funcCtlReg] <;>
      omega

/-- The other registers of the transcoder. -/
theorem elsewhere_transcoder {k : Nat} (hPos : 0 < k) (hLt : k < 0x140) :
    Elsewhere source (0x60400 + k + transOffset source.transcoder) where
  outside := by
    have hOffset := transOffset_lt source.transcoder
    simp only [Outside]
    omega
  ne_control := by
    have hPort := source.hPort
    have hOffset := transOffset_lt source.transcoder
    have hIndex : source.transcoder.index ≤ 6 := by cases source.transcoder <;> decide
    intro control
    cases control <;>
      simp only [LinkSource.control, LinkSource.dpTpCtlReg, LinkSource.ddiBufCtl, iclDpclkaCfgcr0,
        LinkSource.transClkSelReg, LinkSource.funcCtlReg] <;>
      omega

theorem lt_transConf : 0x70000 ≤ source.transConfReg := by
  rw [LinkSource.transConfReg]
  omega

theorem transConf_lt : source.transConfReg < 0x80000 := by
  have hOffset := transOffset_lt source.transcoder
  rw [LinkSource.transConfReg]
  omega

end Elsewhere

section Performs

variable {source : LinkSource} {modeset : Modeset}

theorem performs_onlyIf {c : Prop} [Decidable c] {p : LinkProgram Unit} {performed : LinkOp → Prop}
    (h : p.Performs performed) : (onlyIf c p).Performs performed := by
  rw [onlyIf]
  split
  · exact h
  · exact trivial

theorem idle_write {reg : Nat} {value : Word} (hReg : Elsewhere source reg)
    (hOther : reg ≠ source.transConfReg) : (intelDeWrite reg value).Performs (Idle source) :=
  ⟨⟨hReg, hOther⟩, fun _ => trivial⟩

theorem idle_rmw {reg : Nat} {clear set : Word} (hReg : Elsewhere source reg)
    (hOther : reg ≠ source.transConfReg) : (intelDeRmw reg clear set).Performs (Idle source) :=
  ⟨trivial, fun _ => idle_write hReg hOther⟩

theorem idle_writeAux {register : Nat} {bytes : List Nat}
    (h : register + bytes.length ≤ dpTrainingLane0Set ∨ dpTrainingLane0Set + 4 ≤ register) :
    (writeAux register bytes).Performs (Idle source) :=
  ⟨h, fun _ => trivial⟩

theorem elsewhere_ppCtrl : Elsewhere source modeset.ppCtrl := by
  have hIdx := modeset.ppsIdx.isLt
  rw [Modeset.ppCtrl]
  exact elsewhere_high (by omega) (by omega)

theorem ppCtrl_ne : modeset.ppCtrl ≠ source.transConfReg := by
  have hConf : source.transConfReg < 0x80000 := transConf_lt
  rw [Modeset.ppCtrl]
  omega

theorem idle_postingRead (reg : Nat) : (intelDePostingRead reg).Performs (Idle source) :=
  ⟨trivial, fun _ => trivial⟩

theorem idle_edpHavePanelPower : (edpHavePanelPower modeset).Performs (Idle source) :=
  ⟨trivial, fun _ => trivial⟩

theorem idle_ioSleep (msecs : Nat) : (ioSleep msecs).Performs (Idle source) :=
  ⟨trivial, fun _ => trivial⟩

theorem idle_waitPanelPowerCycle : (waitPanelPowerCycle modeset).Performs (Idle source) := by
  apply Program.performs_bind (idle_ioSleep 10)
  intro _
  exact ⟨trivial, fun _ => trivial⟩

theorem idle_ilkGetPpControl : (ilkGetPpControl modeset).Performs (Idle source) :=
  ⟨trivial, fun _ => trivial⟩

theorem idle_intelPpsVddOn : (intelPpsVddOn modeset).Performs (Idle source) := by
  refine ⟨trivial, fun control => ?_⟩
  show (if _ then _ else _ : LinkProgram Bool).Performs (Idle source)
  split
  · exact trivial
  · apply Program.performs_bind idle_edpHavePanelPower
    intro powered
    apply Program.performs_bind (performs_onlyIf idle_waitPanelPowerCycle)
    intro _
    apply Program.performs_bind idle_ilkGetPpControl
    intro pp
    apply Program.performs_bind (idle_write elsewhere_ppCtrl ppCtrl_ne)
    intro _
    apply Program.performs_bind (idle_postingRead _)
    intro _
    apply Program.performs_bind idle_edpHavePanelPower
    intro powered
    exact Program.performs_bind (performs_onlyIf (idle_ioSleep _)) fun _ => trivial

theorem idle_intelPpsVddOff : (intelPpsVddOff modeset).Performs (Idle source) := by
  apply Program.performs_bind idle_ilkGetPpControl
  intro pp
  apply Program.performs_bind (idle_write elsewhere_ppCtrl ppCtrl_ne)
  intro _
  exact idle_postingRead _

theorem idle_hwSetPanelPower (state : Nat) : (hwSetPanelPower modeset state).Performs (Idle source) := by
  have hReg : Elsewhere source southDspclkGateD := elsewhere_high (by decide) (by decide)
  have hConf : source.transConfReg < 0x80000 := transConf_lt
  have hOther : southDspclkGateD ≠ source.transConfReg := by
    rw [southDspclkGateD]
    omega
  apply Program.performs_bind (performs_onlyIf (idle_rmw hReg hOther))
  intro _
  exact ⟨trivial, fun _ => performs_onlyIf (idle_rmw hReg hOther)⟩

theorem idle_msoConfigure : (intelDdiMsoConfigure modeset).Performs (Idle source) := by
  have hRange : 0x78000 ≤ dssCtl1 modeset.ddi.pipe ∧ dssCtl1 modeset.ddi.pipe ≤ 0x78600 := by
    cases modeset.ddi.pipe <;> decide
  have hOther : dssCtl1 modeset.ddi.pipe ≠ source.transConfReg := by
    have hOffset := transOffset_lt source.transcoder
    rw [LinkSource.transConfReg]
    omega
  exact performs_onlyIf (idle_rmw (elsewhere_high (by omega) (by omega)) hOther)

theorem idle_initSourceOui : (intelDpInitSourceOui modeset).Performs (Idle source) := by
  apply performs_onlyIf
  refine ⟨trivial, fun answer => ?_⟩
  exact performs_onlyIf (Program.performs_bind (idle_writeAux (.inr (by decide))) fun _ => trivial)

theorem idle_setPower (dpcd : Dpcd) (mode : Nat) :
    (intelDpSetPower modeset dpcd mode).Performs (Idle source) := by
  rw [intelDpSetPower]
  split
  · exact trivial
  · split
    · exact performs_onlyIf (Program.performs_bind (idle_writeAux (.inr (by decide))) fun _ => trivial)
    · apply Program.performs_bind idle_initSourceOui
      intro _
      refine Program.performs_bind (performs_loop ?_ 3 ()) fun _ => trivial
      intro _
      apply Program.performs_bind (idle_writeAux (.inr (by decide)))
      intro ret
      split
      · exact trivial
      · exact ⟨trivial, fun _ => trivial⟩

theorem idle_configureProtocolConverter (dpcd : Dpcd) :
    (intelDpConfigureProtocolConverter modeset dpcd).Performs (Idle source) := by
  apply performs_onlyIf
  apply Program.performs_bind (idle_writeAux (.inr (by decide)))
  intro _
  apply Program.performs_bind (idle_writeAux (.inr (by decide)))
  intro _
  refine Program.performs_bind ⟨trivial, fun answer => ?_⟩ fun _ => trivial
  show (if _ then _ else _ : LinkProgram Int).Performs (Idle source)
  split
  · exact trivial
  · exact idle_writeAux (.inr (by decide))

theorem idle_sinkSetFecReady (enable : Bool) :
    (intelDpSinkSetFecReady modeset enable).Performs (Idle source) := by
  apply performs_onlyIf
  apply Program.performs_bind (idle_writeAux (.inr (by decide)))
  intro _
  exact performs_onlyIf (Program.performs_bind (idle_writeAux (.inr (by decide))) fun _ => trivial)

theorem idle_preEnableSink : (preEnableSink modeset).Performs (Idle source) := by
  apply Program.performs_bind (performs_onlyIf (idle_setPower _ _))
  intro _
  apply Program.performs_bind (idle_configureProtocolConverter _)
  intro _
  exact idle_sinkSetFecReady true

theorem idle_initLttprAndDprxCaps : intelDpInitLttprAndDprxCaps.Performs (Idle source) := by
  refine Program.performs_bind ⟨trivial, fun answer => ?_⟩ fun _ => trivial
  show (if _ then _ else _ : LinkProgram (Int × Dpcd)).Performs (Idle source)
  split
  · exact trivial
  · split
    · exact trivial
    · rw [drmDpReadExtendedDpcdCaps]
      split
      · exact trivial
      · refine ⟨trivial, fun other => ?_⟩
        show (if _ then _ else _ : LinkProgram (Int × Dpcd)).Performs (Idle source)
        split
        · exact trivial
        · split
          · exact trivial
          · exact trivial

theorem idle_updateDownspreadCtrl : (intelDpUpdateDownspreadCtrl modeset).Performs (Idle source) :=
  Program.performs_bind (idle_writeAux (.inr (by decide))) fun _ => trivial

theorem idle_updateLinkBwSet (linkBw rateSelect : Byte) :
    (intelDpUpdateLinkBwSet modeset linkBw rateSelect).Performs (Idle source) := by
  rw [intelDpUpdateLinkBwSet]
  split
  · exact Program.performs_bind (idle_writeAux (.inl (Nat.le_of_ble_eq_true rfl))) fun _ => trivial
  · apply Program.performs_bind (idle_writeAux (.inl (Nat.le_of_ble_eq_true rfl)))
    intro _
    exact Program.performs_bind (idle_writeAux (.inr (by decide))) fun _ => trivial

theorem idle_writePayload (vcpid startTimeSlot timeSlotCount : Byte) :
    (drmDpDpcdWritePayload vcpid startTimeSlot timeSlotCount).Performs (Idle source) := by
  apply Program.performs_bind (idle_writeAux (.inr (by decide)))
  intro _
  apply Program.performs_bind (idle_writeAux (.inr (by decide)))
  intro ret
  split
  · exact trivial
  · refine Program.performs_bind (performs_loop ?_ 20 0) fun _ => trivial
    intro retries
    refine ⟨trivial, fun answer => ?_⟩
    show (if _ then _ else _ : LinkProgram (Iteration Nat Int)).Performs (Idle source)
    split
    · exact trivial
    · split
      · exact trivial
      · split
        · exact ⟨trivial, fun _ => trivial⟩
        · exact trivial

theorem idle_waitForFecStatus (enabled : Bool) :
    (intelDdiWaitForFecStatus modeset enabled).Performs (Idle source) := by
  rw [intelDdiWaitForFecStatus]
  split
  · exact trivial
  · apply Program.performs_bind
    · split
      · exact ⟨trivial, fun _ => trivial⟩
      · exact ⟨trivial, fun _ => trivial⟩
    · intro ret
      split
      · exact trivial
      · split
        · exact ⟨trivial, fun _ => trivial⟩
        · exact trivial

theorem idle_setDpMsa : (intelDdiSetDpMsa modeset).Performs (Idle modeset.toLinkSource) := by
  have hReg : Elsewhere modeset.toLinkSource modeset.msaMiscReg :=
    elsewhere_transcoder (k := 0x10) (by decide) (by decide)
  have hOther : modeset.msaMiscReg ≠ modeset.transConfReg := by
    rw [Modeset.msaMiscReg, LinkSource.transConfReg]
    omega
  exact performs_onlyIf (idle_write hReg hOther)

theorem idle_funcCtl2 {value : Word} :
    (intelDeWrite modeset.funcCtl2Reg value).Performs (Idle modeset.toLinkSource) := by
  have hReg : Elsewhere modeset.toLinkSource modeset.funcCtl2Reg :=
    elsewhere_transcoder (k := 4) (by decide) (by decide)
  have hOther : modeset.funcCtl2Reg ≠ modeset.transConfReg := by
    rw [Modeset.funcCtl2Reg, LinkSource.transConfReg]
    omega
  exact idle_write hReg hOther

theorem idle_pipeArbCtl {clear set : Word} :
    (intelDeRmw modeset.pipeArbCtl clear set).Performs (Idle modeset.toLinkSource) := by
  have hRange : 0x70000 ≤ modeset.pipeArbCtl ∧ modeset.pipeArbCtl < 0x80000 := by
    rw [Modeset.pipeArbCtl]
    cases modeset.ddi.pipe <;> decide
  have hOther : modeset.pipeArbCtl ≠ modeset.transConfReg := by
    rw [Modeset.pipeArbCtl, LinkSource.transConfReg]
    cases modeset.ddi.pipe <;> cases modeset.transcoder <;> decide
  exact idle_rmw (elsewhere_high hRange.1 (by omega)) hOther

end Performs

end NootedBlue.Bringup
