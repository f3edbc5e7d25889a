import NootedBlue.Guc.Send
import NootedBlue.Semantics.Bytes

/-! The firmware file of the GuC: its header, the checks of the sizes in it, what
is copied and which region of the write-once protected content memory (WOPCM) it
is copied to. The sizes are counted in words and multiplied with 32 bits. -/
namespace NootedBlue.Guc

open Interaction Bytes

/-- `sizeof(struct uc_css_header)`. -/
def ucCssHeaderSize : Nat := 128

/-- The fields of `struct uc_css_header` that are used. -/
structure UcCssHeader where
  headerSizeDw : Nat
  sizeDw : Nat
  keySizeDw : Nat
  swVersion : Nat
  privateDataSize : Nat
  deriving DecidableEq, Repr

def UcCssHeader.read (memory : Memory) : UcCssHeader where
  headerSizeDw := u32 memory 4
  sizeDw := u32 memory 24
  keySizeDw := u32 memory 28
  swVersion := u32 memory 64
  privateDataSize := u32 memory 120

/-- `struct intel_uc_fw_ver`. -/
structure IntelUcFwVer where
  major : Nat
  minor : Nat
  patch : Nat
  deriving DecidableEq, Repr

/-- `uc_unpack_css_version`. -/
def ucUnpackCssVersion (cssValue : Nat) : IntelUcFwVer where
  major := cssValue / 2 ^ 16 % 2 ^ 8
  minor := cssValue / 2 ^ 8 % 2 ^ 8
  patch := cssValue % 2 ^ 8

section Sizes

variable (header : UcCssHeader)

/-- `ucode_size` and `rsa_size` of `struct intel_uc_fw`. -/
def ucodeSize : Nat := (header.sizeDw + 2 ^ 32 - header.headerSizeDw) % 2 ^ 32 * 4 % 2 ^ 32
def rsaSize : Nat := header.keySizeDw * 4 % 2 ^ 32

/-- `min_expected_size`, with the size of the key cut to that of the registers. -/
def minExpectedSize : Nat := ucCssHeaderSize + ucodeSize header + min (rsaSize header) 256

/-- The size of the copy into the buffer. -/
def copySize : Nat := minExpectedSize header - min (rsaSize header) 256

/-- `rsa_offset`, and the value for `DMA_COPY_SIZE`. -/
def rsaOffset : Nat := (ucCssHeaderSize + ucodeSize header) % 2 ^ 32
def dmaCopySize : Nat := (ucCssHeaderSize + ucodeSize header) % 2 ^ 32

end Sizes

/-- `UOS_RSA_SCRATCH_COUNT` and the offset `dst_offset` of the copy. -/
def uosRsaScratchCount : Nat := 64
def dstOffset : Nat := 0x2000

/-- `round_up`, for a power of two. -/
def roundUp (size unit : Nat) : Nat := (size - 1 ||| unit - 1) + 1

def pageSize : Nat := 4096

/-- What is taken from a file that is not rejected. -/
structure GucImage where
  header : UcCssHeader
  copied : List UInt8
  rsa : List Nat
  deriving DecidableEq, Repr

section File

def readCssHeader : Read UcCssHeader := do
  let privateDataSize ← readU32 120
  let sizeDw ← readU32 24
  let headerSizeDw ← readU32 4
  let keySizeDw ← readU32 28
  let swVersion ← readU32 64
  return { headerSizeDw, sizeDw, keySizeDw, swVersion, privateDataSize }

/-- What follows the check of the sizes: the copy into the buffer, and the key for
the registers. -/
def readImage (size : Nat) (header : UcCssHeader) : Read (Option GucImage) :=
  if size < minExpectedSize header then return none
  else do
    let copied ← readBytes 0 (copySize header)
    let rsa ← readU32s (rsaOffset header) uosRsaScratchCount
    return some { header, copied, rsa }

/-- All that `loadGuCBinary` reads of a file of a size, when every other step goes
through. Nothing means that the file is rejected. -/
def readFirmware (size : Nat) : Read (Option GucImage) :=
  if size = 0 then return none
  else if size < ucCssHeaderSize then return none
  else do
    let header ← readCssHeader
    readImage size header

end File

section Wopcm

/-- The part of WOPCM that belongs to the GuC. -/
structure GucWopcm where
  base : Word
  size : Word
  deriving DecidableEq, Repr

/-- `struct intel_wopcm`. -/
structure IntelWopcm where
  size : Word
  guc : GucWopcm
  deriving DecidableEq, Repr

/-- `GUC_WOPCM_SIZE` and `DMA_GUC_WOPCM_OFFSET`, with the masks of their values. -/
def gucWopcmSizeReg : Nat := 0xc050
def dmaGucWopcmOffset : Nat := 0xc340
def gucWopcmSizeMask : Word := 0xfffff <<< 12
def gucWopcmOffsetMask : Word := 0x3ffff <<< 14

/-- `GEN11_WOPCM_SIZE`, `ICL_WOPCM_HW_CTX_RESERVED`, `WOPCM_RESERVED_SIZE` and
`GUC_WOPCM_OFFSET_ALIGNMENT`. -/
def gen11WopcmSize : Word := 0x200000
def iclWopcmHwCtxReserved : Word := 0x9000
def wopcmReservedSize : Word := 0x4000
def gucWopcmOffsetAlignment : Word := 1 <<< 14

/-- `__wopcm_regs_locked`: the region that the registers are locked to. -/
def wopcmRegsLocked (registers : Nat → Word) : Option GucWopcm :=
  let regBase := registers dmaGucWopcmOffset
  let regSize := registers gucWopcmSizeReg
  if !regSize.getLsbD 0 || !regBase.getLsbD 0 then none
  else some ⟨regBase &&& gucWopcmOffsetMask, regSize &&& gucWopcmSizeMask⟩

def align (x alignment : Word) : Word := (x + (alignment - 1)) &&& ~~~(alignment - 1)

/-- The region that `intel_wopcm_init` computes. -/
def partition (wopcmSize : Word) : GucWopcm :=
  let aligned := align wopcmReservedSize gucWopcmOffsetAlignment
  let room := wopcmSize - iclWopcmHwCtxReserved
  let base := if aligned < room then aligned else room
  ⟨base, (room - base) &&& gucWopcmSizeMask⟩

/-- `intel_wopcm_init`. Locked registers are left alone. -/
def intelWopcmInit (registers : Nat → Word) (wopcm : IntelWopcm) (gucFwSize : Nat) : IntelWopcm :=
  if gucFwSize = 0 then wopcm
  else
    match wopcmRegsLocked registers with
    | some _ => wopcm
    | none => { wopcm with guc := partition wopcm.size }

/-- The region in force after that: the one of locked registers, or the one that
was computed. -/
def wopcmRegion (registers : Nat → Word) (wopcm : IntelWopcm) (gucFwSize : Nat) : GucWopcm :=
  match wopcmRegsLocked registers with
  | some locked => locked
  | none => (intelWopcmInit registers wopcm gucFwSize).guc

end Wopcm

section Bounds

variable (memory : Memory) (size : Nat) (registers : Nat → Word) (wopcm : IntelWopcm)
  (image : GucImage)

/-- The file is used within its bounds: it is read inside, the copy fits into its
buffer, the registers get the key and nothing else, no size has wrapped around,
and the program fits into the region behind the offset that it is copied to. -/
structure InBounds : Prop where
  reads : Inside size memory (readFirmware size)
  buffer : image.copied.length ≤ roundUp size pageSize
  rsa : image.rsa =
    u32s memory (ucCssHeaderSize + 4 * (image.header.sizeDw - image.header.headerSizeDw))
      image.header.keySizeDw
  dma : image.header.headerSizeDw ≤ image.header.sizeDw ∧ dmaCopySize image.header =
    ucCssHeaderSize + 4 * (image.header.sizeDw - image.header.headerSizeDw)
  region : dstOffset + dmaCopySize image.header ≤
    (wopcmRegion registers wopcm (dmaCopySize image.header)).size.toNat

/-- The condition on the sizes in the header. -/
structure WellSized : Prop where
  key : image.header.keySizeDw = uosRsaScratchCount
  order : image.header.headerSizeDw ≤ image.header.sizeDw
  region : dstOffset + (ucCssHeaderSize +
      4 * (image.header.sizeDw - image.header.headerSizeDw)) ≤
    (wopcmRegion registers wopcm (dmaCopySize image.header)).size.toNat

end Bounds

section Lemmas

variable {memory : Memory} {size : Nat} {registers : Nat → Word} {wopcm : IntelWopcm}
  {image : GucImage} {header : UcCssHeader}

theorem le_roundUp {unit : Nat} : size ≤ roundUp size unit := by
  have hOr : size - 1 ≤ (size - 1 ||| unit - 1) := Nat.left_le_or
  simp only [roundUp]
  omega

theorem answer_readCssHeader : readCssHeader.answer memory = UcCssHeader.read memory := rfl

/-- The header of a file that is not rejected, and what the sizes in it say. -/
theorem readFirmware_eq_some (h : (readFirmware size).answer memory = some image) :
    ucCssHeaderSize ≤ size ∧ minExpectedSize image.header ≤ size ∧
      image.copied.length = copySize image.header ∧
      image.rsa = u32s memory (rsaOffset image.header) uosRsaScratchCount ∧
      image.header = UcCssHeader.read memory := by
  simp only [readFirmware] at h
  split at h
  · cases h
  · split at h
    · cases h
    · next hHeader =>
        simp only [Program.answer_bind, answer_readCssHeader] at h
        simp only [readImage] at h
        split at h
        · cases h
        · next hSize =>
            simp only [Program.answer_bind, answer_readBytes, answer_readU32s] at h
            cases h
            exact ⟨Nat.not_lt.mp hHeader, Nat.not_lt.mp hSize, by simp, rfl, rfl⟩

/-- A file that is as long as its header says is not rejected. -/
theorem exists_readFirmware (memory : Memory) (size : Nat) (hHeader : ucCssHeaderSize ≤ size)
    (hSize : minExpectedSize (UcCssHeader.read memory) ≤ size) :
    ∃ image, (readFirmware size).answer memory = some image := by
  have hPos : size ≠ 0 := Nat.pos_iff_ne_zero.mp (Nat.lt_of_lt_of_le (by decide) hHeader)
  simp only [readFirmware, if_neg hPos, if_neg (Nat.not_lt.mpr hHeader), Program.answer_bind,
    answer_readCssHeader]
  simp only [readImage, if_neg (Nat.not_lt.mpr hSize), Program.answer_bind]
  exact ⟨_, rfl⟩

/-- What is read of a file lies inside it if the key does. -/
theorem inside_readFirmware (hKey : rsaOffset (UcCssHeader.read memory) + 256 ≤ size) :
    Inside size memory (readFirmware size) := by
  simp only [readFirmware]
  split
  · exact inside_done _
  · split
    · exact inside_done _
    · next hHeader =>
        have hHeader : 128 ≤ size := Nat.not_lt.mp hHeader
        have hRead : Inside size memory readCssHeader := by
          simp only [readCssHeader, inside_bind_iff, inside_readU32_iff]
          exact ⟨by omega, by omega, by omega, by omega, by omega, inside_done _⟩
        refine inside_bind_iff.mpr ⟨hRead, ?_⟩
        simp only [readImage]
        split
        · exact inside_done _
        · next hSize =>
            have hCopy : copySize (UcCssHeader.read memory) ≤ size :=
              Nat.le_trans (Nat.sub_le _ _) (Nat.not_lt.mp hSize)
            refine inside_bind_iff.mpr ⟨?_, ?_⟩
            · intro offset hOffset
              have hRange := (mem_asked_readBytes memory 0 _ offset).mp hOffset
              exact Nat.lt_of_lt_of_le hRange.2 ((Nat.zero_add _).symm ▸ hCopy)
            · exact inside_bind_iff.mpr ⟨inside_readU32s hKey, inside_done _⟩

theorem length_u32s (offset count : Nat) : (u32s memory offset count).length = count := by
  simp [u32s]

/-- Nothing wraps around below 2 ^ 32. -/
theorem sizes_of_small (hOrder : header.headerSizeDw ≤ header.sizeDw)
    (hSmall : ucCssHeaderSize + 4 * (header.sizeDw - header.headerSizeDw) < 2 ^ 32) :
    ucodeSize header = 4 * (header.sizeDw - header.headerSizeDw) := by
  have hSmall : 128 + 4 * (header.sizeDw - header.headerSizeDw) < 2 ^ 32 := hSmall
  simp only [ucodeSize]
  omega

/-- A file that is not rejected is used within its bounds just when the key fills
the registers and the program fits into the region. -/
theorem image_in_bounds_iff (hImage : (readFirmware size).answer memory = some image)
    (registers : Nat → Word) (wopcm : IntelWopcm) :
    InBounds memory size registers wopcm image ↔ WellSized registers wopcm image := by
  obtain ⟨hHeader, hSize, hCopied, hRsa, hRead⟩ := readFirmware_eq_some hImage
  constructor
  · rintro ⟨-, -, hKey, ⟨hOrder, hCopy⟩, hRegion⟩
    have hLength := congrArg List.length hKey
    rw [hRsa, length_u32s, length_u32s] at hLength
    exact {
      key := hLength.symm
      order := hOrder
      region := hCopy ▸ hRegion }
  · rintro ⟨hKey, hOrder, hRegion⟩
    have hBound := (wopcmRegion registers wopcm (dmaCopySize image.header)).size.isLt
    have hSmall :
        ucCssHeaderSize + 4 * (image.header.sizeDw - image.header.headerSizeDw) < 2 ^ 32 := by
      omega
    have hUcode := sizes_of_small hOrder hSmall
    have hOffset : rsaOffset image.header =
        ucCssHeaderSize + 4 * (image.header.sizeDw - image.header.headerSizeDw) := by
      rw [rsaOffset, hUcode, Nat.mod_eq_of_lt hSmall]
    have hDma : dmaCopySize image.header =
        ucCssHeaderSize + 4 * (image.header.sizeDw - image.header.headerSizeDw) := hOffset
    have hWhole : rsaOffset image.header + 256 ≤ size := by
      rw [hOffset, ← hUcode]
      simp only [minExpectedSize, rsaSize, hKey] at hSize
      exact hSize
    exact {
      reads := inside_readFirmware (hRead ▸ hWhole)
      buffer := by
        rw [hCopied]
        exact Nat.le_trans (Nat.le_trans (Nat.sub_le _ _) hSize) le_roundUp
      rsa := by rw [hRsa, hOffset, hKey]
      dma := ⟨hOrder, hDma⟩
      region := hDma ▸ hRegion }

/-- A file with no program and a key of a number of words, which may fill the file
to its end. -/
def keyOnly (keySizeDw : UInt8) : Memory := fun offset =>
  match offset with
  | 4 => 32
  | 24 => 32
  | 28 => keySizeDw
  | _ => 0

def freshWopcm : IntelWopcm := ⟨gen11WopcmSize, ⟨0, 0⟩⟩

theorem whole_key_in_bounds :
    ∃ image, (readFirmware 384).answer (keyOnly 64) = some image ∧
      InBounds (keyOnly 64) 384 (fun _ => 0) freshWopcm image := by
  obtain ⟨image, hImage⟩ := exists_readFirmware (keyOnly 64) 384 (by decide) (by decide)
  refine ⟨image, hImage, (image_in_bounds_iff hImage _ _).mpr ?_⟩
  obtain ⟨-, -, -, -, hHeader⟩ := readFirmware_eq_some hImage
  exact {
    key := by rw [hHeader]; decide
    order := by rw [hHeader]; decide
    region := by rw [hHeader]; decide }

/-- With a key that is one word shorter the last register gets a word that is no part
of it. -/
theorem short_key_out_of_bounds :
    ∃ image, (readFirmware 380).answer (keyOnly 63) = some image ∧
      ¬ InBounds (keyOnly 63) 380 (fun _ => 0) freshWopcm image := by
  obtain ⟨image, hImage⟩ := exists_readFirmware (keyOnly 63) 380 (by decide) (by decide)
  refine ⟨image, hImage, fun hBounds => ?_⟩
  obtain ⟨-, -, -, hRsa, hHeader⟩ := readFirmware_eq_some hImage
  have hLength := congrArg List.length (hRsa.symm.trans hBounds.rsa)
  rw [length_u32s, length_u32s, hHeader] at hLength
  revert hLength
  decide

end Lemmas

end NootedBlue.Guc
