import NootedBlue.Ads.Layout
import NootedBlue.Ads.Masks

/-! The lists of registers that the firmware captures when an engine hangs. The
tables say which registers belong to a list; a list that was made once is kept in
a cache, in the form in which it is copied to the blob. -/
namespace NootedBlue.Ads

open Engines Bits Bytes

/-- `enum guc_capture_type`. -/
inductive CaptureType where
  | global
  | engineClass
  | engineInstance
  deriving DecidableEq, Repr

def CaptureType.code : CaptureType → Nat
  | global => 0
  | engineClass => 1
  | engineInstance => 2

/-- The owner, the type and the class of a list: the indices of `ads_cache`, and of
the pointers in `ads`. -/
structure Slot where
  owner : Nat
  type : CaptureType
  classid : Nat
  deriving DecidableEq, Repr

/-- `GUC_CAPTURE_LIST_INDEX_PF` and `GUC_CAPTURE_LIST_INDEX_MAX`. -/
def gucCaptureListIndexPf : Nat := 0
def gucCaptureListIndexMax : Nat := 2

/-- The part of `struct __guc_mmio_reg_descr` that goes to the blob. -/
structure RegDescr where
  reg : Nat
  flags : BitVec 32
  mask : BitVec 32
  deriving DecidableEq

/-- `struct __guc_mmio_reg_descr_group`, with the registers of its `list` or, in a
table of extensions, of its `extlist`; `num_regs` has 32 bits. -/
structure DescrGroup where
  regs : List RegDescr
  owner : Nat
  type : Nat
  engine : Nat
  hNumRegs : regs.length < 2 ^ 32

/-- A list that is cached, or the error that there is none. -/
inductive AdsCache where
  | list (ptr : Memory) (size : Nat)
  | failed (status : Int)

/-- `struct intel_guc_state_capture`. The tables end in front of the first group
without a list, and an entry of the cache that is not valid is missing. -/
structure Capture where
  reglists : Option (List DescrGroup)
  extlists : Option (List DescrGroup)
  adsCache : Slot → Option AdsCache
  adsNullCache : Option Memory

def enodev : Int := -19
def enodata : Int := -61

/-- The loop of `guc_capture_get_one_list` and of `guc_capture_get_one_ext_list`. -/
def findGroup (lists : Option (List DescrGroup)) (slot : Slot) : Option DescrGroup :=
  (lists.getD []).find? fun group =>
    group.owner = slot.owner && group.type = slot.type.code &&
      (group.engine = slot.classid || group.type = CaptureType.global.code)

namespace Capture

variable (gc : Capture) (slot : Slot)

/-- `guc_capture_get_one_list`, on the tables of the device. -/
def gucCaptureGetOneList : Option DescrGroup := findGroup gc.reglists slot

/-- `guc_capture_get_one_ext_list`. -/
def gucCaptureGetOneExtList : Option DescrGroup := findGroup gc.extlists slot

/-- `guc_cap_list_num_regs`, an `int`. -/
def gucCapListNumRegs : BitVec 32 :=
  match gc.gucCaptureGetOneList slot with
  | none => 0
  | some group =>
      match gc.gucCaptureGetOneExtList slot with
      | none => .ofNat 32 group.regs.length
      | some ext => .ofNat 32 group.regs.length + .ofNat 32 ext.regs.length

/-- The size of `struct guc_debug_capture_list`, which is that of its header. -/
def headerSize : Nat := 4

/-- The size of a list in whole pages. The number of registers is extended by its
sign. -/
def listSize (numRegs : BitVec 32) : Nat :=
  pageAlign 64 ((headerSize + (numRegs.signExtend 64).toNat * mmioRegSize) % 2 ^ 64)

/-- `guc_capture_getlistsize`. -/
def gucCaptureGetlistsize (isPurposeEst : Bool) : Except Int Nat :=
  if gc.reglists.isNone then .error enodev
  else
    match gc.adsCache slot with
    | some (.list _ size) => .ok size
    | some (.failed status) => .error status
    | none =>
        if !isPurposeEst && slot.owner = gucCaptureListIndexPf && (gc.gucCaptureGetOneList slot).isNone then
          .error enodata
        else if gc.gucCapListNumRegs slot = 0 then .error enodata
        else .ok (listSize (gc.gucCapListNumRegs slot))

/-- `intel_guc_capture_getlistsize`. -/
def intelGucCaptureGetlistsize : Except Int Nat := gc.gucCaptureGetlistsize slot false

end Capture

/-- The entry of a list for a register. -/
def RegDescr.entry (descr : RegDescr) : MmioReg := ⟨descr.reg, 0xDEADF00D, descr.flags, descr.mask⟩

/-- The entries that `guc_capture_list_init` fills in, which is told how many there
are by a number of 16 bits. Its second loop starts behind all registers of the
first table, and has nothing to do when the first one did not get that far. -/
def Capture.gucCaptureListInit (gc : Capture) (slot : Slot) (numEntries : BitVec 16) : List MmioReg :=
  match gc.gucCaptureGetOneList slot with
  | none => []
  | some group =>
      (group.regs.take numEntries.toNat).map RegDescr.entry ++
        match gc.gucCaptureGetOneExtList slot with
        | none => []
        | some ext =>
            (ext.regs.take (min numEntries.toNat ((group.regs.length + ext.regs.length) % 2 ^ 32) -
              group.regs.length)).map RegDescr.entry

/-- `GUC_CAPTURELISTHDR_NUMDESCR`. -/
def gucCapturelisthdrNumdescr : Field := ⟨0, 16⟩

/-- A list in the memory that was allocated for it: the header, and the entries
behind it. What is behind these stays as it was. -/
def Capture.fillList (gc : Capture) (slot : Slot) (caplist : Memory) : Memory :=
  let numRegs := gc.gucCapListNumRegs slot
  copy (copy caplist 0 (le32 (gucCapturelisthdrNumdescr.prep numRegs).toNat)) Capture.headerSize
    ((gc.gucCaptureListInit slot (numRegs.setWidth 16)).flatMap MmioReg.bytes)

/-- What `IOMalloc` comes to for the null header and for the lists: memory whose
contents are not known, or nothing. -/
structure Heap where
  nullHeader : Option Memory
  list : Slot → Option Memory

/-- `intel_guc_capture_getlist`. -/
def Capture.intelGucCaptureGetlist (gc : Capture) (heap : Heap) (slot : Slot) :
    Except Int Memory × Capture :=
  if gc.reglists.isNone then (.error enodev, gc)
  else
    match gc.adsCache slot with
    | some (.list ptr _) => (.ok ptr, gc)
    | some (.failed status) => (.error status, gc)
    | none =>
        match gc.intelGucCaptureGetlistsize slot with
        | .error ret =>
            (.error ret, { gc with adsCache := Function.update gc.adsCache slot (some (.failed ret)) })
        | .ok size =>
            match heap.list slot with
            | none => (.error enomem, gc)
            | some caplist =>
                let ptr := gc.fillList slot caplist
                (.ok ptr, { gc with adsCache := Function.update gc.adsCache slot (some (.list ptr size)) })

def nullHeaderSize : Nat := 16

/-- `intel_guc_capture_getnullheader`. -/
def Capture.intelGucCaptureGetnullheader (gc : Capture) (heap : Heap) : Except Int Memory × Capture :=
  match gc.adsNullCache with
  | some ptr => (.ok ptr, gc)
  | none =>
      match heap.nullHeader with
      | none => (.error enomem, gc)
      | some ptr => (.ok ptr, { gc with adsNullCache := some ptr })

/-- The registers of a list: those of the table, and the extensions last. -/
def Capture.descrs (gc : Capture) (slot : Slot) : List RegDescr :=
  match gc.gucCaptureGetOneList slot with
  | none => []
  | some group =>
      group.regs ++
        match gc.gucCaptureGetOneExtList slot with
        | none => []
        | some ext => ext.regs

/-- What a list takes in the blob; one without registers takes nothing. -/
def Capture.needs (gc : Capture) (slot : Slot) : Nat :=
  if gc.descrs slot = [] then 0 else pages (Capture.headerSize + (gc.descrs slot).length * mmioRegSize)

section Lists

variable {gc : Capture} {slot : Slot}

theorem dvd_needs (gc : Capture) (slot : Slot) : pageSize ∣ gc.needs slot := by
  unfold Capture.needs
  split
  · exact Nat.dvd_zero _
  · exact dvd_pages _

theorem needs_eq_zero_iff : gc.needs slot = 0 ↔ gc.descrs slot = [] := by
  unfold Capture.needs
  split
  · next hNone => simp [hNone]
  · next hSome =>
      have hLe := le_pages (Capture.headerSize + (gc.descrs slot).length * mmioRegSize)
      unfold Capture.headerSize at hLe ⊢
      exact iff_of_false (by omega) hSome

/-- The number of registers in 32 bits. -/
theorem gucCapListNumRegs_eq (gc : Capture) (slot : Slot) :
    gc.gucCapListNumRegs slot = .ofNat 32 (gc.descrs slot).length := by
  unfold Capture.gucCapListNumRegs Capture.descrs
  cases gc.gucCaptureGetOneList slot with
  | none => rfl
  | some group =>
      cases gc.gucCaptureGetOneExtList slot with
      | none => simp
      | some ext => simp [BitVec.ofNat_add]

/-- A list whose size has 32 bits has a number of registers that is no negative
`int`. -/
theorem length_descrs_lt (h : gc.needs slot < 2 ^ 32) : (gc.descrs slot).length < 2 ^ 28 := by
  unfold Capture.needs at h
  split at h
  · next hNone =>
      rw [hNone]
      exact Nat.two_pow_pos 28
  · have hLe := le_pages (Capture.headerSize + (gc.descrs slot).length * mmioRegSize)
    unfold Capture.headerSize mmioRegSize at hLe h
    omega

theorem numRegs_eq_zero_iff (h : gc.needs slot < 2 ^ 32) :
    gc.gucCapListNumRegs slot = 0 ↔ gc.descrs slot = [] := by
  have hLength := length_descrs_lt h
  rw [← List.length_eq_zero_iff, gucCapListNumRegs_eq, ← BitVec.toNat_inj, BitVec.toNat_ofNat,
    Nat.mod_eq_of_lt (by omega)]
  rfl

theorem listSize_eq (h : gc.needs slot < 2 ^ 32) (hSome : gc.descrs slot ≠ []) :
    Capture.listSize (gc.gucCapListNumRegs slot) = gc.needs slot := by
  have hLength := length_descrs_lt h
  have hNumber : (gc.gucCapListNumRegs slot).toNat = (gc.descrs slot).length := by
    rw [gucCapListNumRegs_eq, BitVec.toNat_ofNat, Nat.mod_eq_of_lt (by omega)]
  have hSign : (gc.gucCapListNumRegs slot).msb = false := by
    rw [BitVec.msb_eq_false_iff_two_mul_lt, hNumber]
    omega
  have hLe := le_pages (Capture.headerSize + (gc.descrs slot).length * mmioRegSize)
  unfold Capture.needs at h ⊢
  rw [if_neg hSome] at h ⊢
  unfold Capture.listSize
  rw [BitVec.signExtend_eq_setWidth_of_msb_false hSign, BitVec.toNat_setWidth, hNumber,
    Nat.mod_eq_of_lt (show (gc.descrs slot).length < 2 ^ 64 by omega)]
  rw [Nat.mod_eq_of_lt (by omega), pageAlign_eq (by decide) (by omega)]

/-- How many registers of a list are filled in: as many as 16 bits say. -/
def Capture.numEntries (gc : Capture) (slot : Slot) : Nat := (gc.descrs slot).length % 2 ^ 16

/-- The entries are those of the registers, as far as they are filled in. -/
theorem gucCaptureListInit_eq (gc : Capture) (slot : Slot) :
    gc.gucCaptureListInit slot ((gc.gucCapListNumRegs slot).setWidth 16) =
      ((gc.descrs slot).take (gc.numEntries slot)).map RegDescr.entry := by
  have hEntries : ((gc.gucCapListNumRegs slot).setWidth 16).toNat = gc.numEntries slot := by
    rw [BitVec.toNat_setWidth, gucCapListNumRegs_eq, BitVec.toNat_ofNat]
    exact Nat.mod_mod_of_dvd _ (by decide)
  unfold Capture.gucCaptureListInit
  rw [hEntries]
  unfold Capture.numEntries Capture.descrs
  cases hList : gc.gucCaptureGetOneList slot with
  | none => rfl
  | some group =>
      cases hExt : gc.gucCaptureGetOneExtList slot with
      | none => simp
      | some ext =>
          dsimp only
          rw [List.length_append, List.take_append, List.map_append]
          congr 3
          omega

/-- The bytes of a list: the number of its entries, and the entries. -/
def Capture.listBytes (gc : Capture) (slot : Slot) : List UInt8 :=
  le32 (gc.numEntries slot) ++
    (((gc.descrs slot).take (gc.numEntries slot)).map RegDescr.entry).flatMap MmioReg.bytes

theorem length_listBytes_le (hSome : gc.descrs slot ≠ []) :
    (gc.listBytes slot).length ≤ gc.needs slot := by
  have hLe := le_pages (Capture.headerSize + (gc.descrs slot).length * mmioRegSize)
  have hEntries : gc.numEntries slot ≤ (gc.descrs slot).length := Nat.mod_le _ _
  unfold Capture.listBytes Capture.needs
  rw [if_neg hSome, List.length_append, length_flatMap_bytes, List.length_map, List.length_take]
  refine Nat.le_trans ?_ hLe
  unfold Capture.headerSize mmioRegSize
  show 4 + _ ≤ _
  omega

/-- The bytes of a list that 16 bits can count: it has all its registers. -/
theorem listBytes_eq (h : (gc.descrs slot).length < 2 ^ 16) :
    gc.listBytes slot = le32 (gc.descrs slot).length ++
      ((gc.descrs slot).map RegDescr.entry).flatMap MmioReg.bytes := by
  unfold Capture.listBytes Capture.numEntries
  rw [Nat.mod_eq_of_lt h, List.take_length]

/-- A list that is filled in holds its bytes. -/
theorem stored_fillList (gc : Capture) (slot : Slot) (caplist : Memory) :
    Stored (gc.fillList slot caplist) 0 (gc.listBytes slot) := by
  have hHeader : (gucCapturelisthdrNumdescr.prep (gc.gucCapListNumRegs slot)).toNat =
      gc.numEntries slot := by
    unfold gucCapturelisthdrNumdescr
    rw [Field.toNat_prep_low (by decide), gucCapListNumRegs_eq, BitVec.toNat_ofNat]
    exact Nat.mod_mod_of_dvd _ (by decide)
  unfold Capture.fillList Capture.listBytes
  dsimp only
  rw [gucCaptureListInit_eq, hHeader, stored_append_iff]
  refine ⟨(stored_copy caplist 0 _).copy (.inl (Nat.le_refl _)), ?_⟩
  exact stored_copy _ _ _

end Lists

end NootedBlue.Ads
