import NootedBlue.Vbt.Timing

/-! The entry of the generic DTD block that a panel gets. The entries are counted
with the size that the block gives them, and looked up with the size of the
structure; a block that is shorter than its header is taken for a very long
one. -/
namespace NootedBlue.Vbt

open Bytes

section Entries

variable (dtd : BlockEntry)

/-- `gdtd_size`, the distance between two entries of the block. -/
def gdtdSize : Nat := u16 dtd.payload 0

/-- How many entries the block has. A block without room for its header has
none. -/
def gdtdCount : Nat := (dtd.size - genericDtdSize) / gdtdSize dtd

/-- Where an entry starts, from the start of the payload. -/
def gdtdEntry (i : Nat) : Nat := genericDtdSize + i * gdtdSize dtd

/-- The same, for entries without anything between them. -/
def packedEntry (i : Nat) : Nat := genericDtdSize + i * genericDtdEntrySize

/-- The count that `parse_generic_dtd` comes to when the size of the block is
smaller than the header: 2^64 and more entries, cut to an `int`. -/
def wrappedCount : Int := toInt ((2 ^ 64 - (genericDtdSize - dtd.size)) / gdtdSize dtd)

/-- The mode comes from the entry of the panel, which lies inside the block, or
is left as it was if the block has no such entry. -/
def PicksEntry (version : Nat) (blocks : List BlockEntry) (panel : Panel) : Prop :=
  if panel.panelType < gdtdCount dtd then
    0 ≤ panel.panelType ∧
      gdtdEntry dtd panel.panelType.toNat + genericDtdEntrySize ≤ dtd.size ∧
      ∀ fresh, (parseGenericDtd version blocks fresh panel).lfpVbtMode =
        .written (genericMode fresh dtd.payload (gdtdEntry dtd panel.panelType.toNat))
  else ∀ fresh, (parseGenericDtd version blocks fresh panel).lfpVbtMode = panel.lfpVbtMode

variable {dtd}

/-- The size of a block has 32 bits. -/
theorem BlockEntry.size_lt (entry : BlockEntry) : entry.size < 2 ^ 32 := by
  unfold BlockEntry.size blocksize
  split
  · exact u32_lt _ _
  · exact Nat.lt_trans (u16_lt _ _) (by decide)

theorem toInt_of_small {value : Nat} (h : value < 2 ^ 31) : toInt value = value := by
  unfold toInt
  rw [Int.bmod_eq_of_le] <;> omega

/-- The count is right for a block that has its header. -/
theorem numDtd_of_whole (hAccepted : genericDtdEntrySize ≤ gdtdSize dtd)
    (hWhole : genericDtdSize ≤ dtd.size) : numDtd dtd = gdtdCount dtd := by
  have hSize := dtd.size_lt
  have hPayload : (dtd.size + 2 ^ 64 - genericDtdSize) % 2 ^ 64 = dtd.size - genericDtdSize := by
    omega
  have hCount : gdtdCount dtd < 2 ^ 31 := by
    have hDivisor : 2 ≤ gdtdSize dtd := Nat.le_trans (by decide) hAccepted
    refine Nat.lt_of_le_of_lt (Nat.div_le_div_left hDivisor (by decide)) ?_
    omega
  unfold numDtd
  rw [hPayload]
  exact toInt_of_small hCount

theorem numDtd_of_short (hShort : dtd.size < genericDtdSize) : numDtd dtd = wrappedCount dtd := by
  have hPayload : (dtd.size + 2 ^ 64 - genericDtdSize) % 2 ^ 64 =
      2 ^ 64 - (genericDtdSize - dtd.size) := by
    unfold genericDtdSize at *
    omega
  unfold numDtd wrappedCount
  rw [hPayload]
  rfl

theorem gdtdCount_of_short (hShort : dtd.size < genericDtdSize) : gdtdCount dtd = 0 := by
  rw [gdtdCount, Nat.sub_eq_zero_of_le (Nat.le_of_lt hShort), Nat.zero_div]

/-- The entries that are counted lie inside the block. -/
theorem gdtdEntry_inside (hAccepted : genericDtdEntrySize ≤ gdtdSize dtd) {i : Nat}
    (h : i < gdtdCount dtd) : gdtdEntry dtd i + genericDtdEntrySize ≤ dtd.size := by
  have hPositive : 0 < gdtdSize dtd := Nat.lt_of_lt_of_le (by decide) hAccepted
  have hEnd : (i + 1) * gdtdSize dtd ≤ dtd.size - genericDtdSize :=
    (Nat.le_div_iff_mul_le hPositive).mp h
  have hWhole : genericDtdSize ≤ dtd.size := by
    by_contra hShort
    rw [gdtdCount_of_short (Nat.not_le.mp hShort)] at h
    exact Nat.not_lt_zero i h
  rw [Nat.succ_mul] at hEnd
  unfold gdtdEntry
  omega

end Entries

section Injective

/-- Sixteen bits of each point tell the numbers apart. -/
theorem axis_injective {first second : Timing} (below : first.Below 16) (below' : second.Below 16)
    (h : first.axis = second.axis) : first = second := by
  obtain ⟨active, front, sync, blank⟩ := first
  obtain ⟨active', front', sync', blank'⟩ := second
  obtain ⟨hActive, hFront, hSync, hBlank⟩ := below
  obtain ⟨hActive', hFront', hSync', hBlank'⟩ := below'
  simp only [Timing.axis, Axis.make, Axis.mk.injEq] at h
  rw [Timing.mk.injEq]
  dsimp only at *
  omega

theorem syncFlags_injective {h v h' v' : Bool} (hSame : syncFlags h v = syncFlags h' v') :
    h = h' ∧ v = v' := by
  revert hSame
  revert h v h' v'
  decide

/-- Modes in cleared memory tell timings apart. -/
theorem Timings.mode_injective {first second : Timings}
    (below : first.h.Below 16 ∧ first.v.Below 16) (below' : second.h.Below 16 ∧ second.v.Below 16)
    (h : first.mode .cleared first.h.axis first.v.axis =
      second.mode .cleared second.h.axis second.v.axis) : first = second := by
  unfold Timings.mode Mode.fill at h
  rw [Mode.mk.injEq] at h
  obtain ⟨hClock, hLine, hFrame, hFlags, hWidth, hHeight, -⟩ := h
  simp only [Mode.cleared, Nat.zero_or] at hFlags
  obtain ⟨hPositive, vPositive⟩ := syncFlags_injective hFlags
  have hH := axis_injective below.1 below'.1 hLine
  have hV := axis_injective below.2 below'.2 hFrame
  rw [Timings.mk.injEq]
  exact ⟨hH, hV, hClock, hPositive, vPositive, hWidth, hHeight⟩

theorem genericMode_eq_iff {memory : Memory} {entry other : Nat} :
    (∀ fresh, genericMode fresh memory entry = genericMode fresh memory other) ↔
      genericTimings memory entry = genericTimings memory other := by
  constructor
  · intro hAll
    have hCleared := hAll .cleared
    rw [genericMode_eq, genericMode_eq] at hCleared
    exact Timings.mode_injective (genericTimings_below ..) (genericTimings_below ..) hCleared
  · intro hSame fresh
    rw [genericMode_eq, genericMode_eq, hSame]

end Injective

section Picks

variable {version : Nat} {blocks : List BlockEntry} {dtd : BlockEntry} {panel : Panel}

theorem genericTimings_payload (x : Nat) :
    genericTimings dtd.memory (x + 3) = genericTimings dtd.payload x := by
  unfold genericTimings
  simp only [u16_payload, u32_payload, Nat.add_right_comm x 3]
  rfl

theorem numDtd_lt : numDtd dtd < 2 ^ 31 := by
  have hBmod := Int.bmod_lt (x := ((dtd.size + 2 ^ 64 - genericDtdSize) % 2 ^ 64 / u16 dtd.payload 0 : Nat))
    (m := 2 ^ 32) (by decide)
  exact hBmod

theorem entryOffset_packed (hPanel : 0 ≤ panel.panelType) (hSmall : panel.panelType < 2 ^ 31) :
    entryOffset genericDtdSize genericDtdEntrySize panel.panelType =
      packedEntry panel.panelType.toNat + 3 := by
  unfold entryOffset packedEntry genericDtdSize genericDtdEntrySize
  omega

/-- A usable entry is the one that is looked up. -/
theorem parseGenericDtd_of_usable (hVersion : 229 ≤ version)
    (hFound : bdbFindSection blocks .genericDtd = some dtd)
    (hAccepted : genericDtdEntrySize ≤ gdtdSize dtd) (hPanel : 0 ≤ panel.panelType)
    (hUsable : panel.panelType < numDtd dtd) (fresh : Mode) :
    (parseGenericDtd version blocks fresh panel).lfpVbtMode =
      .written (genericMode fresh dtd.payload (packedEntry panel.panelType.toNat)) := by
  have hHas : hasGenericDtd dtd panel.panelType = true := by
    simp only [hasGenericDtd, Bool.and_eq_true, decide_eq_true_eq]
    exact ⟨hAccepted, hUsable⟩
  rw [parseGenericDtd_lfpVbtMode fresh panel hVersion hFound hHas, entryTimings,
    entryOffset_packed hPanel (Int.lt_trans hUsable numDtd_lt), genericTimings_payload,
    genericMode_eq]

theorem parseGenericDtd_of_not_usable (hUsable : ¬ panel.panelType < numDtd dtd)
    (hFound : bdbFindSection blocks .genericDtd = some dtd) (fresh : Mode) :
    (parseGenericDtd version blocks fresh panel).lfpVbtMode = panel.lfpVbtMode := by
  rw [parseGenericDtd_of_not_uses]
  intro ⟨_, other, hOther, hHas⟩
  obtain rfl : dtd = other := Option.some.inj (hFound.symm.trans hOther)
  simp only [hasGenericDtd, Bool.and_eq_true, decide_eq_true_eq] at hHas
  exact hUsable hHas.2

/-- A mode that is stored holds what the memory held before, so it cannot always
be the same. -/
theorem written_genericMode_ne {memory : Memory} {entry : Nat} (slot : Slot (Pointer Mode) Mode) :
    ¬ ∀ fresh, .written (genericMode fresh memory entry) = slot := by
  intro hAll
  have hSame := (hAll .cleared).trans (hAll { Mode.cleared with unwritten := [0] }).symm
  rw [Slot.written.injEq, genericMode_eq, genericMode_eq] at hSame
  cases congrArg Mode.unwritten hSame

end Picks

/-- The mode comes from the entry of the panel exactly when the number of the
panel is not negative, the block is not so short that the count wraps around to
more than that number, and the entry that is looked up has the timings of the
one that was counted. -/
theorem generic_dtd_iff {version : Nat} {blocks : List BlockEntry} {dtd : BlockEntry} (panel : Panel)
    (hVersion : 229 ≤ version) (hFound : bdbFindSection blocks .genericDtd = some dtd)
    (hAccepted : genericDtdEntrySize ≤ gdtdSize dtd) :
    PicksEntry dtd version blocks panel ↔
      0 ≤ panel.panelType ∧
        (dtd.size < genericDtdSize → wrappedCount dtd ≤ panel.panelType) ∧
        (panel.panelType < gdtdCount dtd →
          genericTimings dtd.payload (packedEntry panel.panelType.toNat) =
            genericTimings dtd.payload (gdtdEntry dtd panel.panelType.toNat)) := by
  have hUsed : 0 ≤ panel.panelType → panel.panelType < numDtd dtd → ∀ fresh,
      (parseGenericDtd version blocks fresh panel).lfpVbtMode =
        .written (genericMode fresh dtd.payload (packedEntry panel.panelType.toNat)) :=
    parseGenericDtd_of_usable hVersion hFound hAccepted
  have hUnused : ¬ panel.panelType < numDtd dtd → ∀ fresh,
      (parseGenericDtd version blocks fresh panel).lfpVbtMode = panel.lfpVbtMode :=
    fun hUsable => parseGenericDtd_of_not_usable hUsable hFound
  unfold PicksEntry
  by_cases hPanel : 0 ≤ panel.panelType
  · refine Iff.trans ?_ (and_iff_right hPanel).symm
    by_cases hShort : dtd.size < genericDtdSize
    · -- the block has no entry, and none is to be used
      have hNone : ¬ panel.panelType < gdtdCount dtd := by
        rw [gdtdCount_of_short hShort]
        omega
      rw [numDtd_of_short hShort] at hUsed hUnused
      rw [if_neg hNone, and_iff_left fun hCounted => absurd hCounted hNone]
      constructor
      · intro hKept _
        by_contra hWraps
        have hWritten := hUsed hPanel (Int.not_le.mp hWraps)
        exact written_genericMode_ne _ fun fresh => (hWritten fresh).symm.trans (hKept fresh)
      · intro hWraps
        exact hUnused (Int.not_lt.mpr (hWraps hShort))
    · rw [numDtd_of_whole hAccepted (Nat.not_lt.mp hShort)] at hUsed hUnused
      rw [and_iff_right fun hBelow => absurd hBelow hShort]
      by_cases hCounted : panel.panelType < gdtdCount dtd
      · have hInside := gdtdEntry_inside hAccepted
          (show panel.panelType.toNat < gdtdCount dtd by omega)
        rw [if_pos hCounted, and_iff_right hPanel, and_iff_right hInside,
          imp_iff_right hCounted, ← genericMode_eq_iff]
        refine forall_congr' fun fresh => ?_
        rw [hUsed hPanel hCounted, Slot.written.injEq]
      · rw [if_neg hCounted]
        exact iff_of_true (hUnused hCounted) fun hOther => absurd hOther hCounted
  · refine iff_of_false (fun hPicks => ?_) fun h => hPanel h.1
    rw [if_pos (by omega)] at hPicks
    exact hPanel hPicks.1

/-- A block with three entries of 28 bytes, of which the second has 1920 pixels. -/
def packedDtd : BlockEntry where
  id := .genericDtd
  memory := fun i => if i = 0 then 58 else if i = 1 then 86 else if i = 3 then 28
    else if i = 37 then 0x80 else if i = 38 then 7 else 0
  allocated := 89

/-- A block with two entries of 30 bytes, of which the second has 1920 pixels. -/
def spacedDtd : BlockEntry where
  id := .genericDtd
  memory := fun i => if i = 0 then 58 else if i = 1 then 62 else if i = 3 then 30
    else if i = 39 then 0x80 else if i = 40 then 7 else 0
  allocated := 65

def secondPanel : Panel := { Panel.cleared with panelType := 1 }

/-- The second panel gets the 1920 pixels. -/
theorem packed_dtd_picked :
    PicksEntry packedDtd 229 [packedDtd] secondPanel ∧
      (genericTimings packedDtd.payload (gdtdEntry packedDtd 1)).h.active = 1920 :=
  ⟨(generic_dtd_iff secondPanel (Nat.le_refl _) rfl (by decide)).mpr
    ⟨by decide, by decide, fun _ => rfl⟩, by decide⟩

/-- The second panel gets an entry that starts two bytes too early. -/
theorem spaced_dtd_not_picked : ¬ PicksEntry spacedDtd 229 [spacedDtd] secondPanel := by
  intro hPicks
  unfold PicksEntry at hPicks
  rw [if_pos (by decide)] at hPicks
  have hMode := hPicks.2.2 .cleared
  rw [parseGenericDtd_of_usable (Nat.le_refl 229) rfl (by decide) (by decide) (by decide),
    Slot.written.injEq] at hMode
  have hDisplay := congrArg (fun mode => mode.h.display) hMode
  revert hDisplay
  decide

end NootedBlue.Vbt
