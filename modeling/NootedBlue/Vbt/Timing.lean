import NootedBlue.Vbt.Panel

/-! The order of the points of a line and of a frame. A mode is filled in from
the four numbers that a table has for each direction, in 16 bits. Only one of
the two parsers looks at the end of the sync pulse, and none at its start. -/
namespace NootedBlue.Vbt

open Bytes

/-- What a table says of one direction: the active part, the front porch, the
sync pulse and the blanking, each as it is put together from its bits. -/
structure Timing where
  active : Nat
  front : Nat
  sync : Nat
  blank : Nat
  deriving DecidableEq, Repr

/-- What a table says of a mode. -/
structure Timings where
  h : Timing
  v : Timing
  clock : Int
  hPositive : Bool
  vPositive : Bool
  widthMm : Nat
  heightMm : Nat
  deriving DecidableEq, Repr

/-- The timings of a `struct bdb_edid_dtd`. -/
def edidTimings (memory : Memory) (dtd : Nat) : Timings :=
  let byte := fun i => u8 memory (dtd + i)
  { h := {
      active := byte 4 / 0x10 * 0x100 + byte 2
      front := byte 11 / 0x40 * 0x100 + byte 8
      sync := byte 11 / 0x10 % 4 * 0x100 + byte 9
      blank := byte 4 % 0x10 * 0x100 + byte 3 }
    v := {
      active := byte 7 / 0x10 * 0x100 + byte 5
      front := byte 11 / 4 % 4 * 0x10 + byte 10 / 0x10
      sync := byte 11 % 4 * 0x10 + byte 10 % 0x10
      blank := byte 7 % 0x10 * 0x100 + byte 6 }
    clock := u16 memory dtd * 10
    hPositive := (byte 17).testBit 6
    vPositive := (byte 17).testBit 5
    widthMm := byte 14 / 0x10 * 0x100 + byte 12
    heightMm := byte 14 % 0x10 * 0x100 + byte 13 }

/-- The timings of a `struct generic_dtd_entry`. -/
def genericTimings (memory : Memory) (dtd : Nat) : Timings where
  h := ⟨u16 memory (dtd + 4), u16 memory (dtd + 8), u16 memory (dtd + 10), u16 memory (dtd + 6)⟩
  v := ⟨u16 memory (dtd + 12), u16 memory (dtd + 16), u16 memory (dtd + 18), u16 memory (dtd + 14)⟩
  clock := toInt (u32 memory dtd)
  hPositive := (u8 memory (dtd + 24)).testBit 7
  vPositive := (u8 memory (dtd + 24)).testBit 6
  widthMm := u16 memory (dtd + 20)
  heightMm := u16 memory (dtd + 22)

namespace Timing

/-- The points of the direction, in 16 bits. -/
def axis (timing : Timing) : Axis := .make timing.active timing.front timing.sync timing.blank

/-- Every number has at most so many bits. -/
def Below (bits : Nat) (timing : Timing) : Prop :=
  timing.active < 2 ^ bits ∧ timing.front < 2 ^ bits ∧ timing.sync < 2 ^ bits ∧
    timing.blank < 2 ^ bits

/-- The sync pulse starts inside the blanking. -/
def StartsInside (timing : Timing) : Prop := timing.front ≤ timing.blank

/-- The sync pulse ends inside the blanking. -/
def EndsInside (timing : Timing) : Prop := timing.front + timing.sync ≤ timing.blank

/-- The whole length has 16 bits. -/
def Short (timing : Timing) : Prop := timing.active + timing.blank < 2 ^ 16

instance (timing : Timing) : Decidable timing.StartsInside := inferInstanceAs (Decidable (_ ≤ _))

instance (timing : Timing) : Decidable timing.EndsInside := inferInstanceAs (Decidable (_ ≤ _))

/-- The points are the ones of the table, without a wrap-around, in their order;
an end of the sync pulse behind the total length may be put there. -/
structure Ordered (timing : Timing) (axis : Axis) : Prop where
  display : axis.display = timing.active
  syncStart : axis.syncStart = timing.active + timing.front
  syncEnd : axis.syncEnd = min (timing.active + timing.front + timing.sync) axis.total
  total : axis.total = timing.active + timing.blank
  displayFirst : axis.display ≤ axis.syncStart
  startFirst : axis.syncStart ≤ axis.syncEnd
  endFirst : axis.syncEnd ≤ axis.total

variable {timing : Timing}

/-- Without a correction the pulse has to end inside the blanking. -/
theorem ordered_axis_iff (below : timing.Below 16) :
    timing.Ordered timing.axis ↔ timing.EndsInside ∧ timing.Short := by
  unfold axis Axis.make EndsInside Short
  obtain ⟨hActive, hFront, hSync, hBlank⟩ := below
  constructor
  · intro ordered
    have hStart := ordered.syncStart
    have hEnd := ordered.syncEnd
    have hTotal := ordered.total
    have hStartFirst := ordered.startFirst
    have hEndFirst := ordered.endFirst
    dsimp only at hStart hEnd hTotal hStartFirst hEndFirst
    omega
  · intro ⟨hEnds, hShort⟩
    constructor <;> dsimp only <;> omega

/-- With the correction it is enough that the pulse starts there, as long as the
numbers are small. -/
theorem ordered_clamp_iff (below : timing.Below 12) :
    timing.Ordered timing.axis.clamp ↔ timing.StartsInside := by
  unfold axis Axis.make Axis.clamp StartsInside
  obtain ⟨hActive, hFront, hSync, hBlank⟩ := below
  constructor
  · intro ordered
    have hStart := ordered.syncStart
    have hTotal := ordered.total
    have hStartFirst := ordered.startFirst
    have hEndFirst := ordered.endFirst
    dsimp only at hStart hTotal hStartFirst hEndFirst
    omega
  · intro hStarts
    constructor <;> dsimp only <;> omega

/-- The correction changes nothing exactly when the pulse ends inside. -/
theorem clamp_eq_iff (below : timing.Below 12) :
    timing.axis.clamp = timing.axis ↔ timing.EndsInside := by
  unfold axis Axis.make Axis.clamp EndsInside
  obtain ⟨hActive, hFront, hSync, hBlank⟩ := below
  simp only [Axis.mk.injEq, true_and, and_true]
  omega

end Timing

/-- The timings of a mode are the ones of a table, in their order. -/
def Timings.Ordered (timings : Timings) (mode : Mode) : Prop :=
  timings.h.Ordered mode.h ∧ timings.v.Ordered mode.v

section Modes

variable {memory : Memory} {dtd : Nat}

/-- A mode in memory that held `fresh` before, with the timings of a table. -/
def Timings.mode (timings : Timings) (fresh : Mode) (h v : Axis) : Mode :=
  fresh.fill timings.clock h v (syncFlags timings.hPositive timings.vPositive) timings.widthMm
    timings.heightMm

theorem fillDetailTimingData_eq (fresh : Mode) :
    fillDetailTimingData fresh memory dtd =
      (edidTimings memory dtd).mode fresh (edidTimings memory dtd).h.axis.clamp
        (edidTimings memory dtd).v.axis.clamp := by
  unfold fillDetailTimingData Timings.mode edidTimings Timing.axis
  rfl

theorem genericMode_eq (fresh : Mode) :
    genericMode fresh memory dtd =
      (genericTimings memory dtd).mode fresh (genericTimings memory dtd).h.axis
        (genericTimings memory dtd).v.axis := by
  simp only [genericMode, Timings.mode, genericTimings, Timing.axis]

/-- Two modes in the same memory with the same timings differ in their points
only. -/
theorem Timings.mode_eq_iff {timings : Timings} {fresh : Mode} {h v h' v' : Axis} :
    timings.mode fresh h v = timings.mode fresh h' v' ↔ h = h' ∧ v = v' := by
  constructor
  · intro hSame
    exact ⟨congrArg Mode.h hSame, congrArg Mode.v hSame⟩
  · intro ⟨hSame, vSame⟩
    rw [hSame, vSame]

end Modes

section Bounds

variable (memory : Memory) (dtd : Nat)

/-- The split numbers have at most twelve bits. -/
theorem edidTimings_below :
    (edidTimings memory dtd).h.Below 12 ∧ (edidTimings memory dtd).v.Below 12 := by
  have hByte := fun i => u8_lt memory (dtd + i)
  have h2 := hByte 2
  have h3 := hByte 3
  have h4 := hByte 4
  have h5 := hByte 5
  have h6 := hByte 6
  have h7 := hByte 7
  have h8 := hByte 8
  have h9 := hByte 9
  have h10 := hByte 10
  have h11 := hByte 11
  unfold Timing.Below edidTimings
  dsimp only
  omega

theorem genericTimings_below :
    (genericTimings memory dtd).h.Below 16 ∧ (genericTimings memory dtd).v.Below 16 :=
  ⟨⟨u16_lt memory _, u16_lt memory _, u16_lt memory _, u16_lt memory _⟩,
    u16_lt memory _, u16_lt memory _, u16_lt memory _, u16_lt memory _⟩

end Bounds

section Stored

variable (fresh : Mode) (panel : Panel)

/-- The timings of the table that the panel data have for a panel. -/
def panelTimings (data ptrs : BlockEntry) : Timings :=
  edidTimings data.payload (lfpDataPtr ptrs panel.panelType).dvoTiming.offset

/-- The timings of the entry that `parse_generic_dtd` takes for a panel. -/
def entryTimings (dtd : BlockEntry) : Timings :=
  genericTimings dtd.memory (entryOffset genericDtdSize genericDtdEntrySize panel.panelType)

/-- The panel has a mode whose points are those of a table, in their order. -/
def Timings.StoredBy (timings : Timings) : Prop :=
  ∃ mode, panel.lfpVbtMode = .written mode ∧ timings.Ordered mode

theorem parseLfpPanelDtd_lfpVbtMode (data ptrs : BlockEntry) :
    (parseLfpPanelDtd data ptrs fresh panel).lfpVbtMode =
      .written ((panelTimings panel data ptrs).mode fresh
        (panelTimings panel data ptrs).h.axis.clamp (panelTimings panel data ptrs).v.axis.clamp) := by
  unfold parseLfpPanelDtd
  dsimp only
  rw [fillDetailTimingData_eq]
  split <;> rfl

variable {version : Nat} {blocks : List BlockEntry} {dtd : BlockEntry}

theorem parseGenericDtd_lfpVbtMode (hVersion : 229 ≤ version)
    (hFound : bdbFindSection blocks .genericDtd = some dtd)
    (hUsable : hasGenericDtd dtd panel.panelType = true) :
    (parseGenericDtd version blocks fresh panel).lfpVbtMode =
      .written ((entryTimings panel dtd).mode fresh (entryTimings panel dtd).h.axis
        (entryTimings panel dtd).v.axis) := by
  unfold parseGenericDtd
  rw [if_neg (Nat.not_lt.mpr hVersion), hFound]
  dsimp only
  rw [if_pos hUsable, genericMode_eq]
  rfl

variable {fresh panel}

theorem storedBy_iff {timings : Timings} {after : Panel} {h v : Axis}
    (hStored : after.lfpVbtMode = .written (timings.mode fresh h v)) :
    timings.StoredBy after ↔ timings.h.Ordered h ∧ timings.v.Ordered v := by
  constructor
  · intro ⟨mode, hMode, ordered⟩
    rw [hStored] at hMode
    cases hMode
    exact ordered
  · intro ordered
    exact ⟨_, hStored, ordered⟩

end Stored

/-- Panel data give a mode in order for exactly those tables whose sync pulses
start inside the blanking, and generic timings for those whose pulses end there
and whose lengths have 16 bits. Tables with the same timings give the same mode
exactly when the pulses end inside the blanking. -/
theorem timing_order_iff (fresh : Mode) (data ptrs : BlockEntry) (panel other : Panel) (version : Nat)
    (blocks : List BlockEntry) {dtd : BlockEntry} (hVersion : 229 ≤ version)
    (hFound : bdbFindSection blocks .genericDtd = some dtd)
    (hUsable : hasGenericDtd dtd other.panelType = true) :
    ((panelTimings panel data ptrs).StoredBy (parseLfpPanelDtd data ptrs fresh panel) ↔
        (panelTimings panel data ptrs).h.StartsInside ∧
          (panelTimings panel data ptrs).v.StartsInside) ∧
      ((entryTimings other dtd).StoredBy (parseGenericDtd version blocks fresh other) ↔
        ((entryTimings other dtd).h.EndsInside ∧ (entryTimings other dtd).h.Short) ∧
          (entryTimings other dtd).v.EndsInside ∧ (entryTimings other dtd).v.Short) ∧
      (panelTimings panel data ptrs = entryTimings other dtd →
        ((parseLfpPanelDtd data ptrs fresh panel).lfpVbtMode =
            (parseGenericDtd version blocks fresh other).lfpVbtMode ↔
          (entryTimings other dtd).h.EndsInside ∧ (entryTimings other dtd).v.EndsInside)) := by
  have hPanel := parseLfpPanelDtd_lfpVbtMode fresh panel data ptrs
  have hGeneric := parseGenericDtd_lfpVbtMode fresh other hVersion hFound hUsable
  obtain ⟨hBelow, vBelow⟩ : (panelTimings panel data ptrs).h.Below 12 ∧
      (panelTimings panel data ptrs).v.Below 12 := edidTimings_below _ _
  obtain ⟨hWide, vWide⟩ : (entryTimings other dtd).h.Below 16 ∧
      (entryTimings other dtd).v.Below 16 := genericTimings_below _ _
  refine ⟨?_, ?_, fun hSame => ?_⟩
  · rw [storedBy_iff hPanel, Timing.ordered_clamp_iff hBelow, Timing.ordered_clamp_iff vBelow]
  · rw [storedBy_iff hGeneric, Timing.ordered_axis_iff hWide, Timing.ordered_axis_iff vWide]
  · rw [hSame] at hBelow vBelow
    rw [hPanel, hGeneric, hSame, Slot.written.injEq, Timings.mode_eq_iff,
      Timing.clamp_eq_iff hBelow, Timing.clamp_eq_iff vBelow]

/-- Memory that was cleared. -/
def Mode.cleared : Mode := ⟨0, ⟨0, 0, 0, 0⟩, ⟨0, 0, 0, 0⟩, 0, 0, 0, 0, "", []⟩

def Panel.cleared : Panel where
  panelType := 0
  lvdsDither := false
  biosLvdsVal := 0
  vrr := false
  seamlessDrrsMinRefreshRate := 0
  drrsType := .none
  edp := ⟨0, 0, 0, 0, 0, 0, ⟨0, 0, 0, 0, 0⟩, 0, false, false, false, false⟩
  psr := ⟨false, false, false, 0, 0, 0, 0⟩
  lfpVbtMode := .stale .null

/-- Two tables with the same timings: 1920 pixels, a front porch of 48, a sync
pulse of 300 and a blanking of 200. -/
def longPulseData : BlockEntry where
  id := .lfpData
  memory := fun i =>
    [42, 18, 0, 2, 0x3A, 0x80, 0xC8, 0x70, 0x38, 0x28, 0x40, 0x30, 0x2C, 0x35, 0x10].getD i 0
  allocated := 1187

def longPulseDtd : BlockEntry where
  id := .genericDtd
  memory := fun i =>
    [58, 30, 0, 28, 0, 0x14, 0x44, 2, 0, 0x80, 7, 0xC8, 0, 0x30, 0, 0x2C, 1, 0x38, 4, 0x28, 0, 3, 0,
      5].getD i 0
  allocated := 33

/-- Pointers that are all zero. -/
def zeroPtrs : BlockEntry where
  id := .lfpDataPtrs
  memory := fun _ => 0
  allocated := 151

theorem long_pulse_modes :
    (panelTimings .cleared longPulseData zeroPtrs).StoredBy
        (parseLfpPanelDtd longPulseData zeroPtrs .cleared .cleared) ∧
      ¬ (entryTimings .cleared longPulseDtd).StoredBy
        (parseGenericDtd 229 [longPulseDtd] .cleared .cleared) ∧
      (parseLfpPanelDtd longPulseData zeroPtrs .cleared .cleared).lfpVbtMode ≠
        (parseGenericDtd 229 [longPulseDtd] .cleared .cleared).lfpVbtMode := by
  obtain ⟨hPanel, hGeneric, hSame⟩ :=
    timing_order_iff .cleared longPulseData zeroPtrs .cleared .cleared 229 [longPulseDtd]
      (Nat.le_refl _) rfl (by decide)
  refine ⟨hPanel.mpr (by decide), fun hStored => ?_, fun hModes => ?_⟩
  · have hInside := (hGeneric.mp hStored).1.1
    revert hInside
    decide
  · have hInside := ((hSame (by decide)).mp hModes).1
    revert hInside
    decide

/-- The generic timings leave the end of the pulse behind the total length. -/
theorem long_pulse_out_of_order :
    ¬ ((entryTimings .cleared longPulseDtd).StoredBy
        (parseGenericDtd 229 [longPulseDtd] .cleared .cleared) ∧
      (parseLfpPanelDtd longPulseData zeroPtrs .cleared .cleared).lfpVbtMode =
        (parseGenericDtd 229 [longPulseDtd] .cleared .cleared).lfpVbtMode) := by
  intro ⟨hStored, _⟩
  have hGeneric := parseGenericDtd_lfpVbtMode .cleared .cleared (Nat.le_refl 229)
    (rfl : bdbFindSection [longPulseDtd] .genericDtd = some longPulseDtd) (by decide)
  have hEnd := ((storedBy_iff hGeneric).mp hStored).1.endFirst
  revert hEnd
  decide

end NootedBlue.Vbt
