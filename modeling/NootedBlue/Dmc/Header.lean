import Mathlib.Logic.Function.Basic
import NootedBlue.Semantics.Bytes
import NootedBlue.Semantics.Fields

/-! The header of a display microcontroller (DMC) in a firmware file, and the
program behind it. All lengths are the file's own, in units of four bytes and
with 32 bits. -/
namespace NootedBlue.Dmc

open Interaction Bytes Bits

abbrev Word := BitVec 32

/-- `enum intel_dmc_id`. -/
inductive DmcId where
  | main
  | pipeA
  | pipeB
  | pipeC
  | pipeD
  deriving DecidableEq, Repr

namespace DmcId

/-- The ids in the order of the loops over them. -/
def all : List DmcId := [main, pipeA, pipeB, pipeC, pipeD]

def code : DmcId → Nat
  | main => 0
  | pipeA => 1
  | pipeB => 2
  | pipeC => 3
  | pipeD => 4

/-- The id of a code, if `is_valid_dmc_id`. -/
def ofCode (code : Nat) : Option DmcId := all.find? (·.code = code)

theorem mem_all (id : DmcId) : id ∈ all := by
  cases id <;> simp [all]

theorem nodup_all : all.Nodup := by decide

end DmcId

/-- What the code asks about the display engine. -/
structure DmcDisplay where
  ver : Nat
  tigerlake : Bool
  alderlakeS : Bool
  deriving DecidableEq, Repr

/-- The pointer to a program: memory that was not cleared may hold one already. -/
inductive Payload where
  | null
  | stale
  | buffer (bytes : List UInt8)
  deriving DecidableEq, Repr

/-- The number of elements of `mmioaddr` and `mmiodata`. -/
def mmioEntries : Nat := 20

/-- `struct dmc_fw_info`. -/
structure DmcFwInfo where
  mmioCount : Nat
  mmioaddr : Nat → Nat
  mmiodata : Nat → Word
  dmcOffset : Nat
  startMmioaddr : Nat
  dmcFwSize : Nat
  payload : Payload
  present : Bool

/-- Parsing. There is no result where the arrays are left. -/
abbrev Parse := Search

section Events

variable (display : DmcDisplay) (id : DmcId)

/-- `_DMC_REG_MMIO_BASE`. -/
def dmcRegMmioBase : Nat :=
  match id with
  | .main => 0x8f000
  | _ => (if display.ver ≥ 13 then 0x5f000 else 0x92000) + 0x400 * (id.code - 1)

/-- `DMC_EVT_CTL` and `DMC_EVT_HTP`. -/
def dmcEvtCtl (handler : Nat) : Nat := 0x34 + dmcRegMmioBase display id + 4 * handler
def dmcEvtHtp (handler : Nat) : Nat := 0x4 + dmcRegMmioBase display id + 4 * handler

/-- `DMC_EVENT_HANDLER_COUNT_GEN12`. -/
def dmcEventHandlerCount : Nat := 8

/-- `DMC_EVT_CTL_TYPE_MASK` and `DMC_EVT_CTL_EVENT_ID_MASK`. -/
def dmcEvtCtlType : Field := ⟨16, 2⟩
def dmcEvtCtlEventId : Field := ⟨8, 8⟩

/-- `DMC_EVENT_FALSE`, `MAINDMC_EVENT_VBLANK_DELAYED_A`, `MAINDMC_EVENT_VBLANK_A`
and `MAINDMC_EVENT_CLK_MSEC`. -/
def eventFalse : Word := 0x1
def eventVblankDelayedA : Word := 0x2e
def eventVblankA : Word := 0x32
def eventClkMsec : Word := 0xbf

def isDmcEvtCtlReg (reg : Nat) : Bool :=
  reg ≥ dmcEvtCtl display id 0 && reg < dmcEvtCtl display id dmcEventHandlerCount

def isDmcEvtHtpReg (reg : Nat) : Bool :=
  reg ≥ dmcEvtHtp display id 0 && reg < dmcEvtHtp display id dmcEventHandlerCount

def isEventHandler (eventId : Word) (reg : Nat) (data : Word) : Bool :=
  isDmcEvtCtlReg display id reg && dmcEvtCtlEventId.get data = eventId

/-- `fixup_dmc_evt`: what it makes of the two data words. -/
def fixupDmcEvt (regCtl : Nat) (dataCtl : Word) (regHtp : Nat) (dataHtp : Word) : Word × Word :=
  if !isDmcEvtCtlReg display id regCtl then (dataCtl, dataHtp)
  else if !isDmcEvtHtpReg display id regHtp then (dataCtl, dataHtp)
  else if regCtl - dmcEvtCtl display id 0 ≠ regHtp - dmcEvtHtp display id 0 then (dataCtl, dataHtp)
  else if display.alderlakeS && id = .main &&
      isEventHandler display id eventVblankA regCtl dataCtl then (0, 0)
  else if (display.tigerlake || display.alderlakeS) &&
      isEventHandler display id eventVblankA regCtl dataCtl then
    (dmcEvtCtlEventId.update dataCtl eventVblankDelayedA, dataHtp)
  else (dataCtl, dataHtp)

/-- The number of rounds of the loop that calls it, which counts up to
`mmio_count - 1`. -/
def fixupCount (mmioCount : Nat) : Nat := (mmioCount + 2 ^ 32 - 1) % 2 ^ 32

/-- The rounds that are left, from an index on. -/
def fixups (mmioaddr : Nat → Nat) : Nat → Nat → (Nat → Word) → Option (Nat → Word)
  | 0, _, mmiodata => some mmiodata
  | rounds + 1, i, mmiodata =>
      if i + 1 < mmioEntries then
        let fixed := fixupDmcEvt display id (mmioaddr i) (mmiodata i) (mmioaddr (i + 1))
          (mmiodata (i + 1))
        fixups mmioaddr rounds (i + 1)
          (Function.update (Function.update mmiodata i fixed.1) (i + 1) fixed.2)
      else none

/-- `dmc_mmio_addr_sanity_check`. -/
def dmcMmioAddrSanityCheck (mmioaddr : List Nat) (headerVer : Nat) : Bool :=
  let inRange (low high : Nat) := mmioaddr.all fun addr => low ≤ addr && addr ≤ high
  if headerVer = 1 then inRange 0x80000 0x8FFFF
  else if id = .main then inRange 0x8F000 0x8FFFF
  else if display.ver ≥ 13 then inRange 0x5F000 0x5FFFF
  else if display.ver ≥ 12 then
    inRange (0x92000 + (id.code - 1) * 0x4000) (0x93FFF + (id.code - 1) * 0x4000)
  else false

end Events

section Parser

/-- What the versions of `struct intel_dmc_header` differ in. -/
structure HeaderFormat where
  size : Nat
  startMmioaddr : Option Nat
  mmioCount : Nat
  mmioaddr : Nat
  mmiodata : Nat
  mmioCountMax : Nat
  unit : Nat
  deriving DecidableEq, Repr

/-- `struct intel_dmc_header_v1`; the program of its start lies at
`DMC_V1_MMIO_START_RANGE`. -/
def dmcHeaderV1 : HeaderFormat where
  size := 128
  startMmioaddr := none
  mmioCount := 20
  mmioaddr := 24
  mmiodata := 56
  mmioCountMax := 8
  unit := 1

/-- `struct intel_dmc_header_v3`. -/
def dmcHeaderV3 : HeaderFormat where
  size := 256
  startMmioaddr := some 20
  mmioCount := 92
  mmioaddr := 96
  mmiodata := 176
  mmioCountMax := 20
  unit := 4

def headerFormat (headerVer : Nat) : Option HeaderFormat :=
  if headerVer = 3 then some dmcHeaderV3 else if headerVer = 1 then some dmcHeaderV1 else none

/-- `sizeof(struct intel_dmc_header_base)`. -/
def dmcHeaderBaseSize : Nat := 20

def readStartMmioaddr (format : HeaderFormat) (header : Nat) : Read Nat :=
  match format.startMmioaddr with
  | some offset => readU32 (header + offset)
  | none => return 0x80000

/-- What is taken from a header that passes the checks. -/
structure HeaderFields where
  size : Nat
  startMmioaddr : Nat
  mmioCount : Nat
  mmioaddr : List Nat
  mmiodata : List Nat
  deriving DecidableEq, Repr

section Checks

variable (display : DmcDisplay) (id : DmcId) (format : HeaderFormat) (header headerVer : Nat)

/-- The last check, of the addresses; the data behind them is taken as it is. -/
def readData (startMmioaddr mmioCount : Nat) (mmioaddr : List Nat) : Read (Option HeaderFields) :=
  if !dmcMmioAddrSanityCheck display id mmioaddr headerVer then return none
  else do
    let mmiodata ← readU32s (header + format.mmiodata) mmioCount
    return some ⟨format.size, startMmioaddr, mmioCount, mmioaddr, mmiodata⟩

/-- The checks of the lengths that the header has of itself. -/
def readArrays (headerLen startMmioaddr mmioCount : Nat) : Read (Option HeaderFields) :=
  if headerLen * format.unit ≠ format.size then return none
  else if mmioCount > format.mmioCountMax then return none
  else do
    let mmioaddr ← readU32s (header + format.mmioaddr) mmioCount
    readData display id format header headerVer startMmioaddr mmioCount mmioaddr

def readFormat (remSize : Nat) : Read (Option HeaderFields) :=
  if remSize < format.size then return none
  else do
    let mmioCount ← readU32 (header + format.mmioCount)
    let headerLen ← readU8 (header + 4)
    let startMmioaddr ← readStartMmioaddr format header
    readArrays display id format header headerVer headerLen startMmioaddr mmioCount

/-- The part of `parse_dmc_fw_header` up to the copy of the arrays. -/
def readHeader (remSize : Nat) : Read (Option HeaderFields) :=
  if remSize < dmcHeaderBaseSize then return none
  else do
    let headerVer ← readU8 (header + 5)
    match headerFormat headerVer with
    | none => return none
    | some format => readFormat display id format header headerVer remSize

end Checks

/-- The arrays, with the elements of the header copied over them. -/
def HeaderFields.copyTo (fields : HeaderFields) (info : DmcFwInfo) : DmcFwInfo :=
  { info with
    mmioaddr := fun i => fields.mmioaddr.getD i (info.mmioaddr i)
    mmiodata := fun i =>
      match fields.mmiodata[i]? with
      | some data => .ofNat 32 data
      | none => info.mmiodata i }

section Payload

variable (maxFwSize : Nat) (allocates : Bool) (header remSize size : Nat) (info : DmcFwInfo)

/-- The copy of a program, whose size is checked as it is after the wrap-around. -/
def copyPayload (fwSize : Nat) : Read (Nat × DmcFwInfo) :=
  let payloadSize := fwSize * 4 % 2 ^ 32
  if remSize - size < payloadSize then return (0, info)
  else if payloadSize > maxFwSize then return (0, info)
  else if !allocates then return (0, { info with dmcFwSize := fwSize, payload := .null })
  else do
    let payload ← readBytes (header + size) payloadSize
    return ((size + payloadSize) % 2 ^ 32,
      { info with dmcFwSize := fwSize, payload := .buffer payload })

/-- The part of `parse_dmc_fw_header` behind the arrays. -/
def readPayload : Read (Nat × DmcFwInfo) := do
  let fwSize ← readU32 (header + 12)
  copyPayload maxFwSize allocates header remSize size info fwSize

end Payload

section Fields

variable (maxFwSize : Nat) (allocates : Bool) (header remSize : Nat) (fields : HeaderFields)
  (info : DmcFwInfo)

/-- The arrays were fixed up, or they were left. -/
def parseFixed : Option (Nat → Word) → Parse (Nat × DmcFwInfo)
  | none => failure
  | some mmiodata =>
      liftM (readPayload maxFwSize allocates header remSize fields.size
        { fields.copyTo info with
          mmiodata
          mmioCount := fields.mmioCount
          startMmioaddr := fields.startMmioaddr })

/-- The part of `parse_dmc_fw_header` behind the checks of the header: the arrays
are copied and fixed up, and the program is copied. -/
def parseFields (display : DmcDisplay) (id : DmcId) : Parse (Nat × DmcFwInfo) :=
  let copied := fields.copyTo info
  parseFixed maxFwSize allocates header remSize fields info
    (fixups display id copied.mmioaddr (fixupCount fields.mmioCount) 0 copied.mmiodata)

end Fields

/-- `parse_dmc_fw_header`, for a header at an offset in the file. Memory for the
program may be there or not. -/
def parseDmcFwHeader (display : DmcDisplay) (maxFwSize : Nat) (allocates : Bool) (id : DmcId)
    (header remSize : Nat) (info : DmcFwInfo) : Parse (Nat × DmcFwInfo) := do
  let fields ← (liftM (readHeader display id header remSize) : Parse (Option HeaderFields))
  match fields with
  | none => return (0, info)
  | some fields => parseFields maxFwSize allocates header remSize fields info display id

end Parser

section Fixups

variable {display : DmcDisplay} {id : DmcId} {mmioaddr : Nat → Nat}

/-- The rounds stay inside the arrays just when the last one does. -/
theorem fixups_isSome_iff {rounds i : Nat} {mmiodata : Nat → Word} :
    (fixups display id mmioaddr rounds i mmiodata).isSome ↔ rounds = 0 ∨ i + rounds < mmioEntries := by
  induction rounds generalizing i mmiodata with
  | zero => simp [fixups]
  | succ rounds ih =>
      simp only [fixups]
      split
      · next hInside =>
          rw [ih]
          omega
      · next hOutside =>
          simp only [Option.isSome_none, Bool.false_eq_true, false_iff]
          omega

theorem fixupCount_zero : fixupCount 0 = 2 ^ 32 - 1 := rfl

theorem fixupCount_of_pos {mmioCount : Nat} (hPos : 0 < mmioCount) (hLe : mmioCount ≤ mmioEntries) :
    fixupCount mmioCount = mmioCount - 1 := by
  have hSmall : mmioCount ≤ 20 := hLe
  simp only [fixupCount]
  omega

/-- The arrays are left just when there is nothing in them. -/
theorem fixups_eq_none_iff (display : DmcDisplay) (id : DmcId) (mmioaddr : Nat → Nat)
    (mmiodata : Nat → Word) {mmioCount : Nat} (hLe : mmioCount ≤ mmioEntries) :
    fixups display id mmioaddr (fixupCount mmioCount) 0 mmiodata = none ↔ mmioCount = 0 := by
  rw [← Option.not_isSome_iff_eq_none, fixups_isSome_iff]
  rcases Nat.eq_zero_or_pos mmioCount with rfl | hPos
  · rw [fixupCount_zero]
    decide
  · rw [fixupCount_of_pos hPos hLe]
    omega

end Fixups

theorem mmioCountMax_le {headerVer : Nat} {format : HeaderFormat}
    (h : headerFormat headerVer = some format) : format.mmioCountMax ≤ mmioEntries := by
  simp only [headerFormat] at h
  split at h
  · cases h
    decide
  · split at h
    · cases h
      decide
    · cases h

/-- Every part of a header lies inside it. -/
theorem headerFormat_inside {headerVer : Nat} {format : HeaderFormat}
    (h : headerFormat headerVer = some format) :
    format.mmioCount + 4 ≤ format.size ∧
      format.mmioaddr + 4 * format.mmioCountMax ≤ format.size ∧
      format.mmiodata + 4 * format.mmioCountMax ≤ format.size ∧
      (∀ offset, format.startMmioaddr = some offset → offset + 4 ≤ format.size) ∧
      dmcHeaderBaseSize ≤ format.size := by
  simp only [headerFormat] at h
  split at h
  · cases h
    simp [dmcHeaderV3, dmcHeaderBaseSize]
  · split at h
    · cases h
      simp [dmcHeaderV1, dmcHeaderBaseSize]
    · cases h

section File

variable (memory : Memory)

/-- The fields of a header of a format. -/
def headerFields (format : HeaderFormat) (header : Nat) : HeaderFields where
  size := format.size
  startMmioaddr := (readStartMmioaddr format header).answer memory
  mmioCount := u32 memory (header + format.mmioCount)
  mmioaddr := u32s memory (header + format.mmioaddr) (u32 memory (header + format.mmioCount))
  mmiodata := u32s memory (header + format.mmiodata) (u32 memory (header + format.mmioCount))

/-- A header passes the checks that come before the copy of the arrays. -/
structure Accepted (display : DmcDisplay) (id : DmcId) (header remSize : Nat)
    (format : HeaderFormat) : Prop where
  base : dmcHeaderBaseSize ≤ remSize
  version : headerFormat (u8 memory (header + 5)) = some format
  fits : format.size ≤ remSize
  headerLen : u8 memory (header + 4) * format.unit = format.size
  count : (headerFields memory format header).mmioCount ≤ format.mmioCountMax
  addresses : dmcMmioAddrSanityCheck display id (headerFields memory format header).mmioaddr
    (u8 memory (header + 5))

/-- The program behind a header passes the checks: its size, cut to 32 bits, is
neither larger than what is left of the file nor than the greatest size. -/
structure PayloadFits (maxFwSize header remSize : Nat) (format : HeaderFormat) : Prop where
  inFile : u32 memory (header + 12) * 4 % 2 ^ 32 ≤ remSize - format.size
  size : u32 memory (header + 12) * 4 % 2 ^ 32 ≤ maxFwSize

/-- Bytes of the file from an offset on. -/
def fileBytes (offset count : Nat) : List UInt8 :=
  (List.range count).map fun i => memory (offset + i)

end File

section Outcomes

variable {memory : Memory} {display : DmcDisplay} {id : DmcId} {maxFwSize header remSize size : Nat}
  {allocates : Bool} {info : DmcFwInfo} {format : HeaderFormat}

theorem Accepted.unique {other : HeaderFormat} (h : Accepted memory display id header remSize format)
    (hOther : Accepted memory display id header remSize other) : other = format :=
  Option.some.inj (hOther.version.symm.trans h.version)

theorem Accepted.count_le (h : Accepted memory display id header remSize format) :
    u32 memory (header + format.mmioCount) ≤ mmioEntries :=
  Nat.le_trans h.count (mmioCountMax_le h.version)

theorem answer_readHeader_of_accepted (h : Accepted memory display id header remSize format) :
    (readHeader display id header remSize).answer memory = some (headerFields memory format header) := by
  have hData : (readData display id format header (u8 memory (header + 5))
      (headerFields memory format header).startMmioaddr (headerFields memory format header).mmioCount
      (headerFields memory format header).mmioaddr).answer memory =
        some (headerFields memory format header) := by
    simp only [readData]
    rw [if_neg (by simp [h.addresses])]
    simp only [Program.answer_bind, answer_readU32s]
    rfl
  have hArrays : (readArrays display id format header (u8 memory (header + 5))
      (u8 memory (header + 4)) (headerFields memory format header).startMmioaddr
      (headerFields memory format header).mmioCount).answer memory =
        some (headerFields memory format header) := by
    simp only [readArrays]
    rw [if_neg (not_not.mpr h.headerLen), if_neg (Nat.not_lt.mpr h.count), Program.answer_bind,
      answer_readU32s]
    exact hData
  simp only [readHeader]
  rw [if_neg (Nat.not_lt.mpr h.base)]
  simp only [Program.answer_bind, answer_readU8, h.version, readFormat]
  rw [if_neg (Nat.not_lt.mpr h.fits)]
  simp only [Program.answer_bind, answer_readU8, answer_readU32]
  exact hArrays

theorem answer_readHeader_of_rejected
    (h : ¬ ∃ format, Accepted memory display id header remSize format) :
    (readHeader display id header remSize).answer memory = none := by
  simp only [readHeader]
  split
  · rfl
  · next hBase =>
      simp only [Program.answer_bind, answer_readU8]
      split
      · rfl
      · next format hVersion =>
          simp only [readFormat]
          split
          · rfl
          · next hFits =>
              simp only [Program.answer_bind, answer_readU8, answer_readU32]
              simp only [readArrays]
              split
              · rfl
              · next hLen =>
                  split
                  · rfl
                  · next hCount =>
                      simp only [Program.answer_bind, answer_readU32s]
                      simp only [readData]
                      split
                      · rfl
                      · next hSane =>
                          refine absurd ⟨format, ?_⟩ h
                          exact {
                            base := Nat.not_lt.mp hBase
                            version := hVersion
                            fits := Nat.not_lt.mp hFits
                            headerLen := not_not.mp hLen
                            count := Nat.not_lt.mp hCount
                            addresses := by simpa [headerFields] using hSane }

theorem inside_readArrays {headerVer headerLen startMmioaddr mmioCount : Nat}
    (hVersion : headerFormat headerVer = some format) (hEnd : header + format.size ≤ size) :
    Inside size memory
      (readArrays display id format header headerVer headerLen startMmioaddr mmioCount) := by
  obtain ⟨-, hAddr, hData, -, -⟩ := headerFormat_inside hVersion
  simp only [readArrays]
  split
  · exact inside_done _
  · split
    · exact inside_done _
    · next hMax =>
        refine inside_bind_iff.mpr ⟨inside_readU32s (by omega), ?_⟩
        simp only [readData]
        split
        · exact inside_done _
        · exact inside_bind_iff.mpr ⟨inside_readU32s (by omega), inside_done _⟩

/-- A header is read inside the file. -/
theorem inside_readHeader (hSize : header + remSize ≤ size) :
    Inside size memory (readHeader display id header remSize) := by
  simp only [readHeader]
  split
  · exact inside_done _
  · next hBase =>
      have hBase : 20 ≤ remSize := Nat.not_lt.mp hBase
      refine inside_bind_iff.mpr ⟨inside_readU8_iff.mpr (by omega), ?_⟩
      split
      · exact inside_done _
      · next format hVersion =>
          obtain ⟨hCount, -, -, hStart, -⟩ := headerFormat_inside hVersion
          simp only [readFormat]
          split
          · exact inside_done _
          · next hFits =>
              have hRead : Inside size memory (readStartMmioaddr format header) := by
                simp only [readStartMmioaddr]
                split
                · next offset hOffset =>
                    have hIn := hStart offset hOffset
                    exact inside_readU32_iff.mpr (by omega)
                · exact inside_done _
              simp only [inside_bind_iff, inside_readU8_iff, inside_readU32_iff]
              exact ⟨by omega, by omega, hRead, inside_readArrays hVersion (by omega)⟩

/-- What is kept of the program behind a header. -/
theorem answer_readPayload_of_fits (h : PayloadFits memory maxFwSize header remSize format) :
    ((readPayload maxFwSize allocates header remSize format.size info).answer memory).2 =
      { info with
        dmcFwSize := u32 memory (header + 12)
        payload :=
          if allocates then
            .buffer (fileBytes memory (header + format.size) (u32 memory (header + 12) * 4 % 2 ^ 32))
          else .null } := by
  simp only [readPayload, Program.answer_bind, answer_readU32]
  simp only [copyPayload]
  rw [if_neg (Nat.not_lt.mpr h.inFile), if_neg (Nat.not_lt.mpr h.size)]
  cases allocates with
  | false => rfl
  | true =>
      simp only [Bool.not_true, Bool.false_eq_true, if_false, if_true, Program.answer_bind,
        answer_readBytes, fileBytes]
      rfl

theorem answer_readPayload_of_not_fits (h : ¬ PayloadFits memory maxFwSize header remSize format) :
    ((readPayload maxFwSize allocates header remSize format.size info).answer memory).2 = info := by
  simp only [readPayload, Program.answer_bind, answer_readU32]
  simp only [copyPayload]
  split
  · rfl
  · next hFile =>
      split
      · rfl
      · next hMax => exact absurd ⟨Nat.not_lt.mp hFile, Nat.not_lt.mp hMax⟩ h

/-- Something else than zero is returned only for a program that is stored. -/
theorem fits_of_answer_readPayload
    (h : ((readPayload maxFwSize allocates header remSize format.size info).answer memory).1 ≠ 0) :
    PayloadFits memory maxFwSize header remSize format ∧ allocates = true := by
  simp only [readPayload, Program.answer_bind, answer_readU32] at h
  simp only [copyPayload] at h
  split at h
  · exact absurd rfl h
  · next hFile =>
      split at h
      · exact absurd rfl h
      · next hMax =>
          refine ⟨⟨Nat.not_lt.mp hFile, Nat.not_lt.mp hMax⟩, ?_⟩
          cases allocates with
          | false => exact absurd rfl h
          | true => rfl

theorem inside_readPayload (hSize : header + remSize ≤ size) {headerSize : Nat}
    (hBase : dmcHeaderBaseSize ≤ headerSize) (hFits : headerSize ≤ remSize) :
    Inside size memory (readPayload maxFwSize allocates header remSize headerSize info) := by
  have hBase : 20 ≤ headerSize := hBase
  simp only [readPayload, inside_bind_iff, inside_readU32_iff, answer_readU32]
  refine ⟨by omega, ?_⟩
  simp only [copyPayload]
  split
  · exact inside_done _
  · next hFile =>
      split
      · exact inside_done _
      · split
        · exact inside_done _
        · refine inside_bind_iff.mpr ⟨?_, inside_done _⟩
          intro offset hOffset
          rw [mem_asked_readBytes] at hOffset
          omega

theorem inside_parseFields (hSize : header + remSize ≤ size) {fields : HeaderFields}
    (hBase : dmcHeaderBaseSize ≤ fields.size) (hFits : fields.size ≤ remSize) :
    Inside size memory (parseFields maxFwSize allocates header remSize fields info display id).run := by
  rw [parseFields]
  generalize fixups display id _ _ _ _ = fixed
  cases fixed with
  | none => exact inside_done _
  | some mmiodata => exact inside_search_lift_iff.mpr (inside_readPayload hSize hBase hFits)

/-- What a parse leaves of a header with entries: their number, and the program. -/
structure Parsed (memory : Memory) (maxFwSize : Nat) (allocates : Bool) (header remSize : Nat)
    (format : HeaderFormat) (info parsed : DmcFwInfo) : Prop where
  mmioCount : parsed.mmioCount = u32 memory (header + format.mmioCount)
  stored : PayloadFits memory maxFwSize header remSize format →
    parsed.dmcFwSize = u32 memory (header + 12) ∧
      parsed.payload =
        if allocates then
          .buffer (fileBytes memory (header + format.size) (u32 memory (header + 12) * 4 % 2 ^ 32))
        else .null
  kept : ¬ PayloadFits memory maxFwSize header remSize format → parsed.payload = info.payload

theorem parsed_readPayload {copied : DmcFwInfo}
    (hCount : copied.mmioCount = u32 memory (header + format.mmioCount))
    (hPayload : copied.payload = info.payload) :
    Parsed memory maxFwSize allocates header remSize format info
      ((readPayload maxFwSize allocates header remSize format.size copied).answer memory).2 := by
  by_cases hFits : PayloadFits memory maxFwSize header remSize format
  · rw [answer_readPayload_of_fits hFits]
    exact {
      mmioCount := hCount
      stored := fun _ => ⟨rfl, rfl⟩
      kept := fun hNot => absurd hFits hNot }
  · rw [answer_readPayload_of_not_fits hFits]
    exact {
      mmioCount := hCount
      stored := fun hStored => absurd hStored hFits
      kept := fun _ => hPayload }

/-- The arrays are left if there is nothing in them; otherwise the program is
read, for an entry with the number of the header. -/
theorem answer_parseFields (fields : HeaderFields) (hCount : fields.mmioCount ≤ mmioEntries) :
    (fields.mmioCount = 0 ∧
        (parseFields maxFwSize allocates header remSize fields info display id).run.answer memory = none) ∨
      (fields.mmioCount ≠ 0 ∧ ∃ copied : DmcFwInfo, copied.mmioCount = fields.mmioCount ∧
        copied.payload = info.payload ∧
        (parseFields maxFwSize allocates header remSize fields info display id).run.answer memory =
          some ((readPayload maxFwSize allocates header remSize fields.size copied).answer memory)) := by
  rw [parseFields]
  have hEmpty := fixups_eq_none_iff display id (fields.copyTo info).mmioaddr
    (fields.copyTo info).mmiodata hCount
  generalize fixups display id (fields.copyTo info).mmioaddr (fixupCount fields.mmioCount) 0
    (fields.copyTo info).mmiodata = fixed at hEmpty ⊢
  cases fixed with
  | none => exact .inl ⟨hEmpty.mp rfl, rfl⟩
  | some mmiodata =>
      refine .inr ⟨(fun h => nomatch hEmpty.mpr h), _, ?_, ?_, answer_search_lift _⟩
      · rfl
      · rfl

/-- All that can come of a header: it is rejected, or it has no entries and the
arrays are left, or it is parsed. -/
theorem parseDmcFwHeader_cases (memory : Memory) (display : DmcDisplay) (maxFwSize : Nat)
    (allocates : Bool) (id : DmcId) (header remSize : Nat) (info : DmcFwInfo) :
    let result := (parseDmcFwHeader display maxFwSize allocates id header remSize info).run.answer memory
    ((¬ ∃ format, Accepted memory display id header remSize format) ∧ result = some (0, info)) ∨
      ∃ format, Accepted memory display id header remSize format ∧
        ((u32 memory (header + format.mmioCount) = 0 ∧ result = none) ∨
          (u32 memory (header + format.mmioCount) ≠ 0 ∧ ∃ r parsed, result = some (r, parsed) ∧
            Parsed memory maxFwSize allocates header remSize format info parsed ∧
            (r ≠ 0 → PayloadFits memory maxFwSize header remSize format ∧ allocates = true))) := by
  simp only [parseDmcFwHeader, answer_search_bind, answer_search_lift, Option.bind_some]
  by_cases hAccepted : ∃ format, Accepted memory display id header remSize format
  · obtain ⟨format, hAccepted⟩ := hAccepted
    rw [answer_readHeader_of_accepted hAccepted]
    refine .inr ⟨format, hAccepted, ?_⟩
    rcases answer_parseFields (headerFields memory format header) hAccepted.count_le with
      ⟨hEmpty, hNone⟩ | ⟨hPos, copied, hCount, hPayload, hSome⟩
    · exact .inl ⟨hEmpty, hNone⟩
    · exact .inr ⟨hPos, _, _, hSome, parsed_readPayload hCount hPayload,
        fits_of_answer_readPayload⟩
  · rw [answer_readHeader_of_rejected hAccepted]
    exact .inl ⟨hAccepted, rfl⟩

/-- A header and the program behind it are read inside the file. -/
theorem inside_parseDmcFwHeader (hSize : header + remSize ≤ size) :
    Inside size memory (parseDmcFwHeader display maxFwSize allocates id header remSize info).run := by
  simp only [parseDmcFwHeader]
  refine inside_lift_bind_iff.mpr ⟨inside_readHeader hSize, ?_⟩
  by_cases hAccepted : ∃ format, Accepted memory display id header remSize format
  · obtain ⟨format, hAccepted⟩ := hAccepted
    rw [answer_readHeader_of_accepted hAccepted]
    exact inside_parseFields hSize (headerFormat_inside hAccepted.version).2.2.2.2 hAccepted.fits
  · rw [answer_readHeader_of_rejected hAccepted]
    exact inside_done _

end Outcomes

end NootedBlue.Dmc
