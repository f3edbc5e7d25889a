import NootedBlue.Vbt.Ports

/-! The records of the display devices. The entries of the VBT have a size of
their own, and a record has room for more: what an entry does not have is to be
zero in its record. The copy does not look at the size of the entries. -/
namespace NootedBlue.Vbt

open Bytes

section Children

variable (defs : BlockEntry)

/-- `child_dev_size`, the distance between two entries. -/
def childDevSize : Nat := u8 defs.payload 4

/-- `child_device_num`. A block that is shorter than its header has none. -/
def childDeviceNum : Nat := (defs.size % 2 ^ 16 - generalDefinitionsSize) / childDevSize defs

/-- `child_device_ptr`, from the start of the payload. -/
def childDevicePtr (i : Nat) : Nat := generalDefinitionsSize + i * childDevSize defs

/-- The first `size` bytes of a record, and zeros behind them. -/
def Child.truncate (size : Nat) (child : Child) : Child :=
  ⟨fun j => if j < size then child.bytes j else 0⟩

/-- The record that an entry is to have. -/
def childRecord (i : Nat) : Child :=
  (Child.copy defs.payload (childDevicePtr defs i)).truncate (childDevSize defs)

/-- The records of all the entries, without those whose type is zero. -/
def childRecords : List Child :=
  ((List.range (childDeviceNum defs)).map (childRecord defs)).filter (·.deviceType ≠ 0)

/-- Nothing but zeros follows an entry, up to the size of a record. -/
def ZeroBehind (i : Nat) : Prop :=
  ∀ j, childDevSize defs ≤ j → j < 44 → defs.payload (childDevicePtr defs i + j) = 0

variable {defs}

/-- The type is among the bytes that every entry has. -/
theorem deviceType_truncate {size : Nat} (h : legacyChildDeviceConfigSize ≤ size) (child : Child) :
    (child.truncate size).deviceType = child.deviceType := by
  have hLow : 2 < size := Nat.lt_of_lt_of_le (by decide) h
  have hHigh : 3 < size := Nat.lt_of_lt_of_le (by decide) h
  have hByte : ∀ j : Fin 44, j < size → (child.truncate size).byte j = child.byte j := by
    intro j hj
    unfold Child.byte Child.truncate
    dsimp only
    rw [if_pos hj]
  unfold Child.deviceType
  rw [hByte 2 hLow, hByte 3 hHigh]

/-- The copy is the record exactly when only zeros follow the entry. -/
theorem copy_eq_childRecord_iff {i : Nat} :
    Child.copy defs.payload (childDevicePtr defs i) = childRecord defs i ↔ ZeroBehind defs i := by
  unfold childRecord Child.truncate ZeroBehind
  rw [Child.mk.injEq, funext_iff]
  constructor
  · intro hSame j hBehind hInside
    have hByte := hSame ⟨j, hInside⟩
    rw [if_neg (Nat.not_lt.mpr hBehind)] at hByte
    exact hByte
  · intro hZero j
    by_cases hEntry : j < childDevSize defs
    · rw [if_pos hEntry]
    · rw [if_neg hEntry]
      exact hZero j (Nat.not_lt.mp hEntry) j.isLt

variable {blocks : List BlockEntry} {dsc : Nat → Bool}

theorem childDevice_child (i : Nat) :
    (childDevice defs dsc i).map (·.child) =
      Option.guard (·.deviceType ≠ 0) (Child.copy defs.payload (childDevicePtr defs i)) := by
  simp only [childDevice, childDevicePtr, childDevSize, Option.guard]
  split
  · next hNone => simp [hNone]
  · next hType => simp [hType]

/-- The devices hold copies of the entries whose type is not zero. -/
theorem parseGeneralDefinitions_child (hDefs : bdbFindSection blocks .generalDefinitions = some defs)
    (hValid : legacyChildDeviceConfigSize ≤ childDevSize defs) :
    (parseGeneralDefinitions blocks dsc).map (·.child) =
      ((List.range (childDeviceNum defs)).map fun i =>
        Child.copy defs.payload (childDevicePtr defs i)).filter (·.deviceType ≠ 0) := by
  have hAll : parseGeneralDefinitions blocks dsc =
      (List.range (childDeviceNum defs)).filterMap (childDevice defs dsc) := by
    rw [parseGeneralDefinitions, hDefs]
    dsimp only
    split
    · next hShort =>
        have hNone : childDeviceNum defs = 0 := by
          rw [childDeviceNum, Nat.sub_eq_zero_of_le (Nat.le_of_lt hShort), Nat.zero_div]
        rw [hNone]
        rfl
    · exact if_neg (Nat.not_lt.mpr hValid)
  rw [hAll, List.map_filterMap, ← List.filterMap_eq_filter, List.filterMap_map]
  congr 1
  funext i
  exact childDevice_child i

/-- Two ways to fill the places of a list give the same filtered list exactly
when they agree at every place that passes. -/
theorem filter_map_eq_iff {α β : Type} {test : β → Bool} {f g : α → β}
    (hTest : ∀ a, test (f a) = test (g a)) (list : List α) :
    (list.map f).filter test = (list.map g).filter test ↔
      ∀ a ∈ list, test (g a) = true → f a = g a := by
  induction list with
  | nil => simp
  | cons a rest ih =>
      rw [List.map_cons, List.map_cons, List.filter_cons, List.filter_cons, hTest a,
        List.forall_mem_cons]
      by_cases hPasses : test (g a) = true
      · rw [if_pos hPasses, if_pos hPasses, List.cons.injEq, ih]
        simp [hPasses]
      · rw [if_neg hPasses, if_neg hPasses, ih]
        simp [hPasses]

/-- The records are the entries as far as the copies are. -/
theorem records_eq_iff (hDefs : bdbFindSection blocks .generalDefinitions = some defs)
    (hValid : legacyChildDeviceConfigSize ≤ childDevSize defs) :
    (parseGeneralDefinitions blocks dsc).map (·.child) = childRecords defs ↔
      ∀ i < childDeviceNum defs, (Child.copy defs.payload (childDevicePtr defs i)).deviceType ≠ 0 →
        Child.copy defs.payload (childDevicePtr defs i) = childRecord defs i := by
  have hType : ∀ i, (childRecord defs i).deviceType =
      (Child.copy defs.payload (childDevicePtr defs i)).deviceType :=
    fun i => deviceType_truncate hValid _
  rw [parseGeneralDefinitions_child hDefs hValid, childRecords, filter_map_eq_iff]
  · simp only [List.mem_range, hType, decide_eq_true_eq]
  · intro i
    simp only [hType]

/-- Entries that have room for a whole record are always copied as they are. -/
theorem child_records_of_large (hDefs : bdbFindSection blocks .generalDefinitions = some defs)
    (hLarge : 44 ≤ childDevSize defs) :
    (parseGeneralDefinitions blocks dsc).map (·.child) = childRecords defs := by
  have hValid : legacyChildDeviceConfigSize ≤ childDevSize defs := Nat.le_trans (by decide) hLarge
  rw [records_eq_iff hDefs hValid]
  intro i _ _
  rw [copy_eq_childRecord_iff]
  intro j hBehind hInside
  omega

end Children

/-- The records are the entries with zeros behind them, for exactly those blocks
in which only zeros follow each entry that has a type, up to the size of a
record. -/
theorem child_records_iff {blocks : List BlockEntry} {defs : BlockEntry} (dsc : Nat → Bool)
    (hDefs : bdbFindSection blocks .generalDefinitions = some defs)
    (hValid : legacyChildDeviceConfigSize ≤ childDevSize defs) :
    (parseGeneralDefinitions blocks dsc).map (·.child) = childRecords defs ↔
      ∀ i < childDeviceNum defs,
        (Child.copy defs.payload (childDevicePtr defs i)).deviceType ≠ 0 → ZeroBehind defs i := by
  rw [records_eq_iff hDefs hValid]
  simp only [copy_eq_childRecord_iff]

/-- A block with one entry of 33 bytes and the type 0x1806, in memory that is
zero behind it. -/
def paddedDefinitions : BlockEntry where
  id := .generalDefinitions
  memory := fun i => [2, 38, 0, 0, 0, 0, 0, 33, 0, 0, 6, 24].getD i 0
  allocated := 41

theorem padded_records :
    (parseGeneralDefinitions [paddedDefinitions] fun _ => false).map (·.child) =
      childRecords paddedDefinitions := by
  refine (child_records_iff (fun _ => false) rfl (by decide)).mpr ?_
  intro i _ _ j hBehind _
  refine List.getD_eq_default _ _ ?_
  have hEntry : 33 ≤ j := hBehind
  show 12 ≤ generalDefinitionsSize + i * childDevSize paddedDefinitions + j + 3
  omega

/-- A block with two entries of 33 bytes and the types 0x1806 and 0x60D6. -/
def legacyDefinitions : BlockEntry where
  id := .generalDefinitions
  memory := fun i =>
    match i with
    | 0 => 2
    | 1 => 71
    | 7 => 33
    | 10 => 6
    | 11 => 24
    | 41 => 7
    | 43 => 0xD6
    | 44 => 0x60
    | _ => 0
  allocated := 74

/-- The record of the first device goes on with the second entry. -/
theorem legacy_records_differ :
    (parseGeneralDefinitions [legacyDefinitions] fun _ => false).map (·.child) ≠
      childRecords legacyDefinitions := by
  intro hSame
  have hByte := congrArg (List.map fun child => child.byte 33) hSame
  revert hByte
  decide

end NootedBlue.Vbt
