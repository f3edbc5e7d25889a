import Mathlib.Data.List.Pairwise
import NootedBlue.Semantics.Bytes

/-! The ADS blob: fixed structures, and behind them the register sets, the golden
contexts, the workaround KLVs, the capture lists and the private data of the
firmware. The offsets are computed one from another in 32 bits. -/
namespace NootedBlue.Ads

def pageSize : Nat := 4096

/-- `PAGE_ALIGN` in an unsigned type of some width. -/
def pageAlign (width x : Nat) : Nat := (x + (pageSize - 1)) % 2 ^ width / pageSize * pageSize

/-- The least number of whole pages, in bytes, that a size needs. -/
def pages (x : Nat) : Nat := (x + (pageSize - 1)) / pageSize * pageSize

section Pages

variable {width x : Nat}

theorem le_pages (x : Nat) : x ≤ pages x := by
  unfold pages pageSize
  omega

theorem dvd_pages (x : Nat) : pageSize ∣ pages x := Nat.dvd_mul_left _ _

theorem pages_of_dvd (h : pageSize ∣ x) : pages x = x := by
  unfold pageSize at h
  unfold pages pageSize
  omega

/-- The rounding does not overflow when the rounded size fits. -/
theorem pageAlign_eq (hWidth : 12 ≤ width) (h : pages x < 2 ^ width) : pageAlign width x = pages x := by
  have hUnit : pageSize ∣ 2 ^ width := Nat.pow_dvd_pow 2 hWidth
  obtain ⟨count, hCount⟩ := hUnit
  unfold pageAlign
  rw [Nat.mod_eq_of_lt]
  · rfl
  · unfold pages at h
    rw [hCount] at h ⊢
    unfold pageSize at h ⊢
    omega

end Pages

/-- `struct guc_mmio_reg`. -/
structure MmioReg where
  offset : Nat
  value : BitVec 32
  flags : BitVec 32
  mask : BitVec 32
  deriving DecidableEq

def mmioRegSize : Nat := 16

open Bytes in
/-- A register in the blob. -/
def MmioReg.bytes (reg : MmioReg) : List UInt8 :=
  le32 reg.offset ++ le32 reg.value.toNat ++ le32 reg.flags.toNat ++ le32 reg.mask.toNat

@[simp] theorem MmioReg.length_bytes (reg : MmioReg) : reg.bytes.length = mmioRegSize := rfl

theorem length_flatMap_bytes (regs : List MmioReg) :
    (regs.flatMap MmioReg.bytes).length = mmioRegSize * regs.length := by
  simp [List.length_flatMap, List.map_const', Nat.mul_comm]

/-- The sizes that the layout depends on: `ads_regset_size` and the others of
`struct intel_guc`, and `private_data_size` of its firmware. -/
structure Sizes where
  adsRegsetSize : Nat
  adsGoldenCtxtSize : Nat
  adsWaklvSize : Nat
  adsCaptureSize : Nat
  privateDataSize : Nat

/-- The offset of `regset` in `struct __guc_ads_blob`: the sizes of the four
structures in front of it. -/
def blobRegset : Nat := 0x11DC + 0x60 + 0x280 + 0x4000

namespace Sizes

variable (guc : Sizes)

/-- `guc_ads_regset_size` and the other functions for the sizes. -/
def gucAdsRegsetSize : Nat := guc.adsRegsetSize
def gucAdsGoldenCtxtSize : Nat := pageAlign 32 guc.adsGoldenCtxtSize
def gucAdsWaklvSize : Nat := pageAlign 32 guc.adsWaklvSize
def gucAdsCaptureSize : Nat := pageAlign 32 guc.adsCaptureSize
def gucAdsPrivateDataSize : Nat := pageAlign 32 guc.privateDataSize

/-- `guc_ads_regset_offset`. -/
def gucAdsRegsetOffset : Nat := blobRegset

/-- An offset behind a region, at the start of a page. -/
def behind (offset size : Nat) : Nat := pageAlign 32 ((offset + size) % 2 ^ 32)

/-- `guc_ads_golden_ctxt_offset` and the offsets that follow from it. -/
def gucAdsGoldenCtxtOffset : Nat := behind gucAdsRegsetOffset guc.gucAdsRegsetSize
def gucAdsWaklvOffset : Nat := behind guc.gucAdsGoldenCtxtOffset guc.gucAdsGoldenCtxtSize
def gucAdsCaptureOffset : Nat := behind guc.gucAdsWaklvOffset guc.gucAdsWaklvSize
def gucAdsPrivateDataOffset : Nat := behind guc.gucAdsCaptureOffset guc.gucAdsCaptureSize

/-- `guc_ads_blob_size`. -/
def gucAdsBlobSize : Nat := (guc.gucAdsPrivateDataOffset + guc.gucAdsPrivateDataSize) % 2 ^ 32

/-- What the blob needs in whole pages, without a bound on the numbers. -/
def needed : Nat :=
  pages (blobRegset + guc.adsRegsetSize) + pages guc.adsGoldenCtxtSize + pages guc.adsWaklvSize +
    pages guc.adsCaptureSize + pages guc.privateDataSize

end Sizes

/-- A stretch of the blob. -/
structure Region where
  start : Nat
  size : Nat

def Region.stop (region : Region) : Nat := region.start + region.size

/-- The regions by the functions of the driver. -/
def Sizes.regions (guc : Sizes) : List Region :=
  [⟨Sizes.gucAdsRegsetOffset, guc.gucAdsRegsetSize⟩,
    ⟨guc.gucAdsGoldenCtxtOffset, guc.gucAdsGoldenCtxtSize⟩,
    ⟨guc.gucAdsWaklvOffset, guc.gucAdsWaklvSize⟩,
    ⟨guc.gucAdsCaptureOffset, guc.gucAdsCaptureSize⟩,
    ⟨guc.gucAdsPrivateDataOffset, guc.gucAdsPrivateDataSize⟩]

/-- The regions do not overlap and come in their order, those behind the first
one fill whole pages, and the last one ends with the blob. -/
structure Sizes.Ordered (guc : Sizes) : Prop where
  disjoint : guc.regions.Pairwise fun one other => one.stop ≤ other.start
  aligned : ∀ region ∈ guc.regions.tail, pageSize ∣ region.start ∧ pageSize ∣ region.size
  last : ∀ region ∈ guc.regions.getLast?, region.stop = guc.gucAdsBlobSize

section Layout

variable {guc : Sizes}

/-- Behind a region that ends at a page, nothing is rounded. -/
theorem behind_eq {offset size : Nat} (h : pages (offset + size) < 2 ^ 32) :
    Sizes.behind offset size = pages (offset + size) := by
  have hLe := le_pages (offset + size)
  unfold Sizes.behind
  rw [Nat.mod_eq_of_lt (by omega), pageAlign_eq (by omega) h]

/-- The offsets and sizes when the sum stays below 2³²: each region starts where
the one before it ends, in whole pages. -/
structure Sizes.Placed (guc : Sizes) : Prop where
  goldenOffset : guc.gucAdsGoldenCtxtOffset = pages (blobRegset + guc.adsRegsetSize)
  goldenSize : guc.gucAdsGoldenCtxtSize = pages guc.adsGoldenCtxtSize
  waklvOffset : guc.gucAdsWaklvOffset = guc.gucAdsGoldenCtxtOffset + guc.gucAdsGoldenCtxtSize
  waklvSize : guc.gucAdsWaklvSize = pages guc.adsWaklvSize
  captureOffset : guc.gucAdsCaptureOffset = guc.gucAdsWaklvOffset + guc.gucAdsWaklvSize
  captureSize : guc.gucAdsCaptureSize = pages guc.adsCaptureSize
  privateOffset : guc.gucAdsPrivateDataOffset = guc.gucAdsCaptureOffset + guc.gucAdsCaptureSize
  privateSize : guc.gucAdsPrivateDataSize = pages guc.privateDataSize
  blobSize : guc.gucAdsBlobSize = guc.gucAdsPrivateDataOffset + guc.gucAdsPrivateDataSize

/-- A region behind one of whole pages starts where that one ends. -/
theorem behind_of_dvd {offset size : Nat} (hOffset : pageSize ∣ offset) (hSize : pageSize ∣ size)
    (h : offset + size < 2 ^ 32) : Sizes.behind offset size = offset + size := by
  have hPages := pages_of_dvd (Nat.dvd_add hOffset hSize)
  rw [behind_eq (hPages.symm ▸ h), hPages]

theorem placed (h : guc.needed < 2 ^ 32) : guc.Placed := by
  unfold Sizes.needed at h
  have hGoldenOffset : guc.gucAdsGoldenCtxtOffset = pages (blobRegset + guc.adsRegsetSize) :=
    behind_eq (show pages (blobRegset + guc.adsRegsetSize) < _ by omega)
  have hGoldenSize : guc.gucAdsGoldenCtxtSize = pages guc.adsGoldenCtxtSize :=
    pageAlign_eq (by omega) (by omega)
  have hWaklvSize : guc.gucAdsWaklvSize = pages guc.adsWaklvSize :=
    pageAlign_eq (by omega) (by omega)
  have hCaptureSize : guc.gucAdsCaptureSize = pages guc.adsCaptureSize :=
    pageAlign_eq (by omega) (by omega)
  have hPrivateSize : guc.gucAdsPrivateDataSize = pages guc.privateDataSize :=
    pageAlign_eq (by omega) (by omega)
  have hGolden : pageSize ∣ guc.gucAdsGoldenCtxtOffset := hGoldenOffset ▸ dvd_pages _
  have hWaklvOffset : guc.gucAdsWaklvOffset = guc.gucAdsGoldenCtxtOffset + guc.gucAdsGoldenCtxtSize :=
    behind_of_dvd hGolden (hGoldenSize ▸ dvd_pages _) (by omega)
  have hWaklv : pageSize ∣ guc.gucAdsWaklvOffset :=
    hWaklvOffset ▸ Nat.dvd_add hGolden (hGoldenSize ▸ dvd_pages _)
  have hCaptureOffset : guc.gucAdsCaptureOffset = guc.gucAdsWaklvOffset + guc.gucAdsWaklvSize :=
    behind_of_dvd hWaklv (hWaklvSize ▸ dvd_pages _) (by omega)
  have hCapture : pageSize ∣ guc.gucAdsCaptureOffset :=
    hCaptureOffset ▸ Nat.dvd_add hWaklv (hWaklvSize ▸ dvd_pages _)
  have hPrivateOffset :
      guc.gucAdsPrivateDataOffset = guc.gucAdsCaptureOffset + guc.gucAdsCaptureSize :=
    behind_of_dvd hCapture (hCaptureSize ▸ dvd_pages _) (by omega)
  exact {
    goldenOffset := hGoldenOffset
    goldenSize := hGoldenSize
    waklvOffset := hWaklvOffset
    waklvSize := hWaklvSize
    captureOffset := hCaptureOffset
    captureSize := hCaptureSize
    privateOffset := hPrivateOffset
    privateSize := hPrivateSize
    blobSize := Nat.mod_eq_of_lt (by omega) }

theorem Sizes.Placed.ordered (placed : guc.Placed) : guc.Ordered := by
  have hRegset := le_pages (blobRegset + guc.adsRegsetSize)
  have hGolden : pageSize ∣ guc.gucAdsGoldenCtxtOffset := placed.goldenOffset ▸ dvd_pages _
  have hGoldenSize : pageSize ∣ guc.gucAdsGoldenCtxtSize := placed.goldenSize ▸ dvd_pages _
  have hWaklv : pageSize ∣ guc.gucAdsWaklvOffset :=
    placed.waklvOffset ▸ Nat.dvd_add hGolden hGoldenSize
  have hWaklvSize : pageSize ∣ guc.gucAdsWaklvSize := placed.waklvSize ▸ dvd_pages _
  have hCapture : pageSize ∣ guc.gucAdsCaptureOffset :=
    placed.captureOffset ▸ Nat.dvd_add hWaklv hWaklvSize
  have hCaptureSize : pageSize ∣ guc.gucAdsCaptureSize := placed.captureSize ▸ dvd_pages _
  have hPrivate : pageSize ∣ guc.gucAdsPrivateDataOffset :=
    placed.privateOffset ▸ Nat.dvd_add hCapture hCaptureSize
  have hPrivateSize : pageSize ∣ guc.gucAdsPrivateDataSize := placed.privateSize ▸ dvd_pages _
  refine ⟨?_, ?_, ?_⟩
  · have hFirst : Sizes.gucAdsRegsetOffset + guc.gucAdsRegsetSize ≤ guc.gucAdsGoldenCtxtOffset :=
      placed.goldenOffset ▸ hRegset
    have hSecond := placed.waklvOffset
    have hThird := placed.captureOffset
    have hFourth := placed.privateOffset
    simp only [Sizes.regions, Region.stop, List.pairwise_cons, List.mem_cons, List.not_mem_nil,
      or_false, forall_eq_or_imp, forall_eq, List.Pairwise.nil, and_true, implies_true,
      false_implies]
    omega
  · simp only [Sizes.regions, List.tail_cons, List.mem_cons, List.not_mem_nil, or_false,
      forall_eq_or_imp, forall_eq]
    exact ⟨⟨hGolden, hGoldenSize⟩, ⟨hWaklv, hWaklvSize⟩, ⟨hCapture, hCaptureSize⟩, hPrivate, hPrivateSize⟩
  · intro region hRegion
    cases hRegion
    exact placed.blobSize.symm

end Layout

end NootedBlue.Ads
