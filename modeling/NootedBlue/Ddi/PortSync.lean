import Mathlib.Data.List.Induction
import NootedBlue.Ddi.FuncCtl

/-! Transcoders that run in the time of another one. The driver programs the master of
a transcoder when it enables it, and reads back, for the transcoder of its state, the
master and the transcoders that follow it. The mask of these is only ever added to. -/
namespace NootedBlue.Ddi

open Bits

/-- `enum transcoder`; `INVALID_TRANSCODER` is no transcoder. -/
inductive Transcoder where
  | a
  | b
  | c
  | d
  | edp
  | dsi0
  | dsi1
  deriving DecidableEq, Repr

namespace Transcoder

def index : Transcoder → Nat
  | a => 0
  | b => 1
  | c => 2
  | d => 3
  | edp => 4
  | dsi0 => 5
  | dsi1 => 6

/-- All below `I915_MAX_TRANSCODERS`, in their order. -/
def all : List Transcoder := [a, b, c, d, edp, dsi0, dsi1]

/-- The cast of a number to a transcoder. -/
def ofIndex (n : Nat) : Option Transcoder := all[n]?

/-- `BIT(cpu_transcoder)`, in a mask of the state. -/
def bit (t : Transcoder) : BitVec 8 := 1 <<< t.index

end Transcoder

/-- `PORT_SYNC_MODE_ENABLE` and `PORT_SYNC_MODE_MASTER_SELECT_MASK`. -/
def portSyncModeEnable : Word := 1 <<< 4
def portSyncModeMasterSelect : Field := ⟨0, 3⟩

/-- `TRANS_DDI_PORT_SYNC_ENABLE` and `TRANS_DDI_PORT_SYNC_MASTER_SELECT_MASK`. -/
def transDdiPortSyncEnable : Word := 1 <<< 15
def transDdiPortSyncMasterSelect : Field := ⟨18, 2⟩

/-- `TRANS_DDI_FUNC_CTL` and `TRANS_DDI_FUNC_CTL2` of every transcoder. -/
structure FuncRegisters where
  funcCtl : Transcoder → Word
  funcCtl2 : Transcoder → Word

/-- `bdw_trans_port_sync_master_select`. -/
def bdwTransPortSyncMasterSelect (masterTranscoder : Transcoder) : Word :=
  if masterTranscoder = .edp then 0 else .ofNat 32 (masterTranscoder.index + 1)

/-- The value that goes into `TRANS_DDI_FUNC_CTL2`. -/
def funcCtl2Value (masterTranscoder : Option Transcoder) : Word :=
  match masterTranscoder with
  | none => 0
  | some master =>
      portSyncModeEnable ||| portSyncModeMasterSelect.prep (bdwTransPortSyncMasterSelect master)

/-- `intel_ddi_enable_transcoder_func`, with the value that was computed for the
function register. -/
def intelDdiEnableTranscoderFunc (ver : Nat) (cpuTranscoder : Transcoder)
    (masterTranscoder : Option Transcoder) (funcCtl : Word) (regs : FuncRegisters) :
    FuncRegisters where
  funcCtl := Function.update regs.funcCtl cpuTranscoder funcCtl
  funcCtl2 :=
    if ver ≥ 11 then Function.update regs.funcCtl2 cpuTranscoder (funcCtl2Value masterTranscoder)
    else regs.funcCtl2

/-- The master that a selection stands for. -/
def selectedMaster (masterSelect : Word) : Option Transcoder :=
  if masterSelect = 0 then some .edp else Transcoder.ofIndex (masterSelect - 1).toNat

/-- `bdw_transcoder_master_readout`. -/
def bdwTranscoderMasterReadout (ver : Nat) (regs : FuncRegisters) (cpuTranscoder : Transcoder) :
    Option Transcoder :=
  if ver ≥ 11 then
    let ctl2 := regs.funcCtl2 cpuTranscoder
    if HasBit ctl2 portSyncModeEnable then selectedMaster (portSyncModeMasterSelect.get ctl2)
    else none
  else
    let ctl := regs.funcCtl cpuTranscoder
    if HasBit ctl transDdiPortSyncEnable then selectedMaster (transDdiPortSyncMasterSelect.get ctl)
    else none

/-- The part of the state that is about other transcoders. -/
structure SyncState where
  masterTranscoder : Option Transcoder
  syncModeSlavesMask : BitVec 8
  deriving DecidableEq, Repr

/-- The transcoders that can follow another one. -/
def syncTranscoders : List Transcoder := [.a, .b, .c, .d]

/-- The transcoders that the loop comes to, for a mask of those of the device. -/
def visitedTranscoders (cpuTranscoderMask : BitVec 8) : List Transcoder :=
  Transcoder.all.filter fun t => cpuTranscoderMask &&& t.bit ≠ 0 ∧ t ∈ syncTranscoders

/-- `bdw_get_trans_port_sync_config`. -/
def bdwGetTransPortSyncConfig (ver : Nat) (cpuTranscoderMask : BitVec 8)
    (cpuTranscoder : Transcoder) (regs : FuncRegisters) (state : SyncState) : SyncState where
  masterTranscoder := bdwTranscoderMasterReadout ver regs cpuTranscoder
  syncModeSlavesMask :=
    (visitedTranscoders cpuTranscoderMask).foldl (fun mask t =>
      if bdwTranscoderMasterReadout ver regs t = some cpuTranscoder then mask ||| t.bit else mask)
      state.syncModeSlavesMask

/-- A transcoder is enabled with a master or without one, or the state of the driver is
read from the registers. -/
inductive SyncEvent where
  | enable (t : Transcoder) (masterTranscoder : Option Transcoder) (funcCtl : Word)
  | getConfig
  deriving DecidableEq, Repr

/-- The device, with the transcoder of the state. -/
structure SyncDevice where
  ver : Nat
  cpuTranscoderMask : BitVec 8
  cpuTranscoder : Transcoder
  deriving DecidableEq, Repr

def syncStep (device : SyncDevice) (s : FuncRegisters × SyncState) :
    SyncEvent → FuncRegisters × SyncState
  | .enable t master funcCtl =>
      (intelDdiEnableTranscoderFunc device.ver t master funcCtl s.1, s.2)
  | .getConfig =>
      (s.1, bdwGetTransPortSyncConfig device.ver device.cpuTranscoderMask device.cpuTranscoder
        s.1 s.2)

def syncRun (device : SyncDevice) (s : FuncRegisters × SyncState) (events : List SyncEvent) :
    FuncRegisters × SyncState :=
  events.foldl (syncStep device) s

/-- The masters after an event, for those before it. -/
def masterStep (master : Transcoder → Option Transcoder) :
    SyncEvent → Transcoder → Option Transcoder
  | .enable t new _ => Function.update master t new
  | .getConfig => master

def masterAfter (start : Transcoder → Option Transcoder) (events : List SyncEvent) :
    Transcoder → Option Transcoder :=
  events.foldl masterStep start

/-- A transcoder was seen to follow that of the state. -/
def SeenToFollow (device : SyncDevice) (start : Transcoder → Option Transcoder)
    (events : List SyncEvent) (t : Transcoder) : Prop :=
  t ∈ visitedTranscoders device.cpuTranscoderMask ∧
    ∃ before after, events = before ++ .getConfig :: after ∧
      masterAfter start before t = some device.cpuTranscoder

section PortSync

variable {device : SyncDevice} {regs : FuncRegisters} {start : Transcoder → Option Transcoder}
  {t : Transcoder}

/-- A master comes back as it was programmed. -/
theorem readout_funcCtl2Value {ver : Nat} (hVer : ver ≥ 11) (masterTranscoder : Option Transcoder)
    (hReg : regs.funcCtl2 t = funcCtl2Value masterTranscoder) :
    bdwTranscoderMasterReadout ver regs t = masterTranscoder := by
  rw [bdwTranscoderMasterReadout, if_pos hVer, hReg]
  cases masterTranscoder with
  | none => decide
  | some master => cases master <;> decide

/-- What is read after a transcoder was enabled is the new master, and for every other one
what was read before. -/
theorem readout_enable {ver : Nat} (hVer : ver ≥ 11) (cpuTranscoder : Transcoder)
    (masterTranscoder : Option Transcoder) (funcCtl : Word) :
    bdwTranscoderMasterReadout ver
        (intelDdiEnableTranscoderFunc ver cpuTranscoder masterTranscoder funcCtl regs) =
      Function.update (bdwTranscoderMasterReadout ver regs) cpuTranscoder masterTranscoder := by
  funext t
  by_cases hSame : t = cpuTranscoder
  · subst hSame
    rw [Function.update_self]
    apply readout_funcCtl2Value hVer
    rw [intelDdiEnableTranscoderFunc, if_pos hVer]
    exact Function.update_self _ _ _
  · rw [Function.update_of_ne hSame]
    simp only [bdwTranscoderMasterReadout, if_pos hVer, intelDdiEnableTranscoderFunc,
      Function.update_of_ne hSame]

theorem bit_and_bit (t other : Transcoder) : t.bit &&& other.bit ≠ 0 ↔ t = other := by
  cases t <;> cases other <;> decide

/-- The bits that a loop adds. -/
theorem foldl_bit (test : Transcoder → Bool) (list : List Transcoder) (mask : BitVec 8) :
    (list.foldl (fun mask t => if test t then mask ||| t.bit else mask) mask) &&& t.bit ≠ 0 ↔
      mask &&& t.bit ≠ 0 ∨ t ∈ list ∧ test t = true := by
  induction list generalizing mask with
  | nil => simp
  | cons first rest ih =>
      have hOr : (mask ||| first.bit) &&& t.bit ≠ 0 ↔ mask &&& t.bit ≠ 0 ∨ first = t := by
        rw [← bit_and_bit, ← not_iff_not, not_or, not_not, not_not, not_not,
          BitVec.and_or_distrib_right]
        exact BitVec.or_eq_zero_iff
      rw [List.foldl_cons, ih, List.mem_cons]
      split
      · next hTest =>
          rw [hOr]
          constructor
          · rintro ((hMask | rfl) | hRest)
            · exact .inl hMask
            · exact .inr ⟨.inl rfl, hTest⟩
            · exact .inr ⟨.inr hRest.1, hRest.2⟩
          · rintro (hMask | ⟨rfl | hRest, hThere⟩)
            · exact .inl (.inl hMask)
            · exact .inl (.inr rfl)
            · exact .inr ⟨hRest, hThere⟩
      · next hTest =>
          constructor
          · rintro (hMask | hRest)
            · exact .inl hMask
            · exact .inr ⟨.inr hRest.1, hRest.2⟩
          · rintro (hMask | ⟨rfl | hRest, hThere⟩)
            · exact .inl hMask
            · exact absurd hThere hTest
            · exact .inr ⟨hRest, hThere⟩

theorem masterAfter_append (start : Transcoder → Option Transcoder) (events : List SyncEvent)
    (event : SyncEvent) :
    masterAfter start (events ++ [event]) = masterStep (masterAfter start events) event := by
  rw [masterAfter, List.foldl_append]
  rfl

theorem syncRun_append (s : FuncRegisters × SyncState) (events : List SyncEvent)
    (event : SyncEvent) :
    syncRun device s (events ++ [event]) = syncStep device (syncRun device s events) event := by
  rw [syncRun, List.foldl_append]
  rfl

/-- The registers say of every transcoder what it was last enabled with. -/
theorem readout_syncRun (hVer : device.ver ≥ 11) (s : FuncRegisters × SyncState)
    (events : List SyncEvent) :
    bdwTranscoderMasterReadout device.ver (syncRun device s events).1 =
      masterAfter (bdwTranscoderMasterReadout device.ver s.1) events := by
  induction events using List.reverseRecOn with
  | nil => rfl
  | append_singleton events event ih =>
      rw [syncRun_append, masterAfter_append, ← ih]
      cases event with
      | enable t master funcCtl => exact readout_enable hVer t master funcCtl
      | getConfig => rfl

theorem seenToFollow_append (events : List SyncEvent) (event : SyncEvent) :
    SeenToFollow device start (events ++ [event]) t ↔
      SeenToFollow device start events t ∨
        t ∈ visitedTranscoders device.cpuTranscoderMask ∧ event = .getConfig ∧
          masterAfter start events t = some device.cpuTranscoder := by
  constructor
  · rintro ⟨hVisited, before, after, hSplit, hMaster⟩
    rcases List.eq_nil_or_concat after with rfl | ⟨after, last, rfl⟩
    · obtain ⟨rfl, hEvent⟩ := List.append_inj' hSplit rfl
      exact .inr ⟨hVisited, by simpa using hEvent, hMaster⟩
    · have hInit : events ++ [event] = (before ++ .getConfig :: after) ++ [last] := by
        rw [hSplit]
        simp
      obtain ⟨hEvents, -⟩ := List.append_inj' hInit rfl
      exact .inl ⟨hVisited, before, after, hEvents, hMaster⟩
  · rintro (⟨hVisited, before, after, rfl, hMaster⟩ | ⟨hVisited, rfl, hMaster⟩)
    · exact ⟨hVisited, before, after ++ [event], by simp, hMaster⟩
    · exact ⟨hVisited, events, [], rfl, hMaster⟩

/-- The mask of the slaves has what it had at the start and every transcoder that was
ever seen to follow that of the state. -/
theorem slaves_syncRun (hVer : device.ver ≥ 11) (s : FuncRegisters × SyncState)
    (events : List SyncEvent) (t : Transcoder) :
    (syncRun device s events).2.syncModeSlavesMask &&& t.bit ≠ 0 ↔
      s.2.syncModeSlavesMask &&& t.bit ≠ 0 ∨
        SeenToFollow device (bdwTranscoderMasterReadout device.ver s.1) events t := by
  induction events using List.reverseRecOn with
  | nil =>
      refine (or_iff_left ?_).symm
      rintro ⟨-, before, after, hSplit, -⟩
      simp at hSplit
  | append_singleton events event ih =>
      rw [syncRun_append, seenToFollow_append, ← or_assoc, ← ih]
      cases event with
      | enable other master funcCtl =>
          refine (or_iff_left ?_).symm
          rintro ⟨-, hEvent, -⟩
          cases hEvent
      | getConfig =>
          rw [← readout_syncRun hVer]
          have hLoop := foldl_bit (t := t) (fun t =>
            decide (bdwTranscoderMasterReadout device.ver (syncRun device s events).1 t =
              some device.cpuTranscoder)) (visitedTranscoders device.cpuTranscoderMask)
            (syncRun device s events).2.syncModeSlavesMask
          simp only [decide_eq_true_eq] at hLoop
          simp only [true_and]
          exact hLoop

/-- After any number of transcoders were enabled and states read, in any order, reading
gives the master that the transcoder of the state was last enabled with, and as its
slaves all that were seen to follow it at this or any earlier reading: one that has been
given to another master since is still among them. -/
theorem portSync_readBack (device : SyncDevice) (hVer : device.ver ≥ 11)
    (s : FuncRegisters × SyncState) (events : List SyncEvent) :
    let start := bdwTranscoderMasterReadout device.ver s.1
    let after := (syncRun device s (events ++ [.getConfig])).2
    after.masterTranscoder = masterAfter start events device.cpuTranscoder ∧
      ∀ t, after.syncModeSlavesMask &&& t.bit ≠ 0 ↔
        s.2.syncModeSlavesMask &&& t.bit ≠ 0 ∨
          SeenToFollow device start (events ++ [.getConfig]) t := by
  refine ⟨?_, slaves_syncRun hVer s (events ++ [.getConfig])⟩
  rw [syncRun_append]
  exact congrFun (readout_syncRun hVer s events) device.cpuTranscoder

/-- B follows A, is read, and is enabled alone again: it stays in the mask. -/
theorem portSync_readBack_stale :
    let device : SyncDevice := ⟨12, 0x0F, .a⟩
    let s : FuncRegisters × SyncState := (⟨fun _ => 0, fun _ => 0⟩, ⟨none, 0⟩)
    let events : List SyncEvent := [.enable .b (some .a) 0, .getConfig, .enable .b none 0]
    (syncRun device s (events ++ [.getConfig])).2.syncModeSlavesMask &&& Transcoder.b.bit ≠ 0 :=
  ((portSync_readBack ⟨12, 0x0F, .a⟩ (by decide) (⟨fun _ => 0, fun _ => 0⟩, ⟨none, 0⟩)
    [.enable .b (some .a) 0, .getConfig, .enable .b none 0]).2 .b).mpr
    (.inr ⟨by decide, [.enable .b (some .a) 0], [.enable .b none 0, .getConfig], rfl, by decide⟩)

end PortSync

end NootedBlue.Ddi
