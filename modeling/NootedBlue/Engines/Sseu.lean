import Mathlib.Algebra.Order.BigOperators.Group.List
import Mathlib.Tactic.IntervalCases
import NootedBlue.Semantics.Fields

/-! The slices, subslices and execution units of the device. The fuses are counted
first, and then the acknowledgements of the power gates are added to the same
totals. -/
namespace NootedBlue.Engines

open Bits

/-- The members of `struct sseu_dev_info` that both passes use. A union is its larger
member: the bytes `hsw` of the mask of the subslices are those of a word, and the
masks of the execution units are a row of words. -/
structure SseuDevInfo where
  sliceMask : BitVec 8
  subsliceMask : BitVec 64
  euMask : Nat → BitVec 16
  euTotal : BitVec 16
  euPerSubslice : BitVec 8
  hasSlicePg : Bool
  hasSubslicePg : Bool
  hasXehpDss : Bool
  maxSlices : Nat
  maxSubslices : Nat
  maxEusPerSubslice : Nat

/-- The registers that are read. The last three are read once for a slice. -/
structure SseuRegisters where
  geometryDssEnable : BitVec 32
  euDisable : BitVec 32
  slicePgctlAck : Nat → BitVec 32
  ss01EuPgctlAck : Nat → BitVec 32
  ss23EuPgctlAck : Nat → BitVec 32

namespace SseuDevInfo

/-- `subslice_mask.hsw[s]`. -/
def hsw (sseu : SseuDevInfo) (s : Nat) : BitVec 8 :=
  ((⟨8 * s, 8⟩ : Field).get sseu.subsliceMask).setWidth 8

def setHsw (sseu : SseuDevInfo) (s : Nat) (mask : BitVec 8) : SseuDevInfo :=
  { sseu with subsliceMask := (⟨8 * s, 8⟩ : Field).update sseu.subsliceMask (mask.setWidth 64) }

/-- `intel_sseu_set_info`. -/
def intelSseuSetInfo (sseu : SseuDevInfo) (maxSlices maxSubslices maxEusPerSubslice : Nat) :
    SseuDevInfo :=
  { sseu with maxSlices, maxSubslices, maxEusPerSubslice }

/-- `intel_sseu_has_subslice`. -/
def intelSseuHasSubslice (sseu : SseuDevInfo) (slice subslice : Nat) : Bool :=
  if slice ≥ sseu.maxSlices ∨ subslice ≥ sseu.maxSubslices then false
  else if sseu.hasXehpDss then sseu.subsliceMask.getLsbD subslice
  else (sseu.hsw slice).getLsbD subslice

/-- The place of a mask of execution units: `eu_mask.xehp[ss]` or `eu_mask.hsw[s][ss]`. -/
def euIndex (sseu : SseuDevInfo) (s ss : Nat) : Nat := if sseu.hasXehpDss then ss else 8 * s + ss

/-- `sseu_set_eus`. -/
def sseuSetEus (sseu : SseuDevInfo) (slice subslice : Nat) (euMask : BitVec 16) : SseuDevInfo :=
  { sseu with euMask := Function.update sseu.euMask (sseu.euIndex slice subslice) euMask }

/-- `compute_eu_total`. -/
def computeEuTotal (sseu : SseuDevInfo) : BitVec 16 :=
  BitVec.ofNat 16 ((List.range sseu.maxSlices).map fun s =>
    ((List.range sseu.maxSubslices).map fun ss => hweight (sseu.euMask (sseu.euIndex s ss))).sum).sum

/-- `gen11_compute_sseu_info`. -/
def gen11ComputeSseuInfo (sseu : SseuDevInfo) (ssEn : BitVec 32) (euEn : BitVec 16) : SseuDevInfo :=
  let validSsMask := BitVec.ofNat 32 (2 ^ sseu.maxSubslices - 1)
  let sseu := { sseu with sliceMask := sseu.sliceMask ||| BitVec.twoPow 8 0 }
  let sseu := sseu.setHsw 0 ((ssEn &&& validSsMask).setWidth 8)
  let sseu := (List.range sseu.maxSubslices).foldl
    (fun sseu ss => if sseu.intelSseuHasSubslice 0 ss then sseu.sseuSetEus 0 ss euEn else sseu) sseu
  let sseu := { sseu with euPerSubslice := BitVec.ofNat 8 (hweight euEn) }
  { sseu with euTotal := sseu.computeEuTotal }

/-- The execution units of a subslice: a bit of the fuse turns two of them off. -/
def euEnable (maxEusPerSubslice : Nat) (euDisable : BitVec 32) : BitVec 16 :=
  let euEnFuse : BitVec 8 := ~~~((⟨0, 8⟩ : Field).get euDisable).setWidth 8
  (List.range (maxEusPerSubslice / 2)).foldl
    (fun euEn eu =>
      if euEnFuse.getLsbD eu then
        euEn ||| (BitVec.twoPow 16 (eu * 2) ||| BitVec.twoPow 16 (eu * 2 + 1))
      else euEn)
    0

/-- `gen12_sseu_info_init`. The enabled slices are read as well, and not used. -/
def gen12SseuInfoInit (registers : SseuRegisters) (sseu : SseuDevInfo) : SseuDevInfo :=
  let sseu := sseu.intelSseuSetInfo 1 6 16
  let euEn := euEnable sseu.maxEusPerSubslice registers.euDisable
  let sseu := sseu.gen11ComputeSseuInfo registers.geometryDssEnable euEn
  { sseu with hasSlicePg := true }

end SseuDevInfo

/-- `GEN10_PGCTL_VALID_SS_MASK`. -/
def gen10PgctlValidSsMask (slice : Nat) : BitVec 32 := if slice = 0 then 0x7f else 0x1f

/-- `GEN9_PGCTL_SS_ACK` is this bit; bit 0 is `GEN9_PGCTL_SLICE_ACK`. -/
def gen9PgctlSsAck (subslice : Nat) : Nat := 2 + subslice * 2

/-- The acknowledgements of four pairs of execution units, in the lower or the upper
half of a register. -/
def euAckMask (half : Nat) : BitVec 32 := if half = 0 then 0x55 else 0x5500

/-- The array `eu_reg`: two registers for a slice, and nothing beyond the slices. -/
def euReg (registers : SseuRegisters) (maxSlices i : Nat) : Option (BitVec 32) :=
  if i / 2 < maxSlices then
    some (if i % 2 = 0 then registers.ss01EuPgctlAck (i / 2) else registers.ss23EuPgctlAck (i / 2))
  else none

namespace SseuDevInfo

/-- More execution units in the totals. -/
def addEus (sseu : SseuDevInfo) (euCnt : Nat) : SseuDevInfo :=
  { sseu with
    euTotal := sseu.euTotal + BitVec.ofNat 16 euCnt
    euPerSubslice := BitVec.ofNat 8 (max sseu.euPerSubslice.toNat euCnt) }

/-- One round of the loop over the subslices. It has no result if it uses a member of
`eu_reg` that nothing was read into. -/
def countRound (registers : SseuRegisters) (s : Nat) (sReg : BitVec 32) (sseu : SseuDevInfo)
    (ss : Nat) : Option SseuDevInfo :=
  if sseu.hasSubslicePg && !sReg.getLsbD (gen9PgctlSsAck ss) then some sseu
  else do
    let reg ← euReg registers sseu.maxSlices (2 * s + ss / 2)
    some (sseu.addEus (2 * hweight (reg &&& euAckMask (ss % 2))))

/-- One round of the loop over the slices. -/
def statusRound (registers : SseuRegisters) (sseu : SseuDevInfo) (s : Nat) : Option SseuDevInfo :=
  let sReg := registers.slicePgctlAck s &&& gen10PgctlValidSsMask s
  if !sReg.getLsbD 0 then some sseu
  else
    let sseu := { sseu with sliceMask := sseu.sliceMask ||| BitVec.twoPow 8 s }
    let sseu := sseu.setHsw s (sseu.hsw s)
    (List.range sseu.maxSubslices).foldlM (countRound registers s sReg) sseu

/-- `gen11_sseu_device_status`, whose two arguments are about the same structure. -/
def gen11SseuDeviceStatus (registers : SseuRegisters) (sseu : SseuDevInfo) : Option SseuDevInfo :=
  (List.range sseu.maxSlices).foldlM (statusRound registers) sseu

/-- What `Gen11::engines` does with the structure. -/
def ofEngines (registers : SseuRegisters) (sseu : SseuDevInfo) : Option SseuDevInfo :=
  gen11SseuDeviceStatus registers (sseu.gen12SseuInfoInit registers)

end SseuDevInfo

/-- The execution units of a subslice that the fuses leave. -/
def enabledEus (euDisable : BitVec 32) : Nat :=
  2 * (List.range 8).countP fun pair => !euDisable.getLsbD pair

/-- The totals are right: the subslices are those of the fuses, each has the execution
units that the fuses leave, the total is the product, and all values that were used
were read. -/
def TotalsRight (registers : SseuRegisters) (start : SseuDevInfo) : Prop :=
  ∃ sseu, start.ofEngines registers = some sseu ∧
    sseu.hsw 0 = (registers.geometryDssEnable &&& 0x3f).setWidth 8 ∧
    sseu.euPerSubslice.toNat = enabledEus registers.euDisable ∧
    sseu.euTotal.toNat = hweight (sseu.hsw 0) * sseu.euPerSubslice.toNat

/-- The register with the acknowledgements of a subslice. -/
def ackRegister (registers : SseuRegisters) (ss : Nat) : BitVec 32 :=
  if ss < 2 then registers.ss01EuPgctlAck 0 else registers.ss23EuPgctlAck 0

/-- When they are right: nothing is left in the masks of the subslices that are not
there, and no execution unit is counted twice. That takes a slice without an
acknowledgement, or else subslices that can be gated one by one, of which the first
three acknowledge no execution unit; the others are never looked at. -/
structure CountedOnce (registers : SseuRegisters) (start : SseuDevInfo) : Prop where
  stale : ∀ ss < 6, registers.geometryDssEnable.getLsbD ss = false → start.euMask ss = 0
  gated : (registers.slicePgctlAck 0).getLsbD 0 = true → start.hasSubslicePg = true
  acks : (registers.slicePgctlAck 0).getLsbD 0 = true → ∀ ss < 3,
    (registers.slicePgctlAck 0).getLsbD (gen9PgctlSsAck ss) = true →
    ackRegister registers ss &&& euAckMask (ss % 2) = 0

section Counts

variable {w : Nat}

theorem hweight_eq_zero_iff (word : BitVec w) : hweight word = 0 ↔ word = 0 := by
  rw [hweight, List.countP_eq_zero]
  constructor
  · intro hClear
    apply BitVec.eq_of_getLsbD_eq
    intro i hi
    have hBit := hClear i (List.mem_range.mpr hi)
    simpa using hBit
  · rintro rfl i _
    simp

theorem hweight_le (word : BitVec w) : hweight word ≤ w := by
  have hLe := @List.countP_le_length Nat word.getLsbD (List.range w)
  rwa [List.length_range] at hLe

/-- Every bit of a fuse stands for two places. -/
theorem countP_pairs (p : Nat → Bool) (n : Nat) :
    (List.range (2 * n)).countP (fun i => p (i / 2)) = 2 * (List.range n).countP p := by
  induction n with
  | zero => rfl
  | succ n ih =>
      have hEven : 2 * n / 2 = n := by omega
      have hOdd : (2 * n + 1) / 2 = n := by omega
      rw [Nat.mul_succ, List.range_succ, List.range_succ, List.range_succ]
      simp only [List.countP_append, List.countP_singleton, ih, hEven, hOdd]
      split <;> omega

/-- A sum in which some places have the same value. -/
theorem sum_ite (p : Nat → Bool) (value : Nat) (f : Nat → Nat) (places : List Nat) :
    (places.map fun i => if p i then value else f i).sum =
      places.countP p * value + (places.map fun i => if p i then 0 else f i).sum := by
  induction places with
  | nil => simp
  | cons i places ih =>
      simp only [List.map_cons, List.sum_cons, List.countP_cons, ih]
      cases p i <;> simp [Nat.add_mul] <;> omega

end Counts

namespace SseuDevInfo

section Fuses

variable {sseu : SseuDevInfo} {registers : SseuRegisters}

theorem getLsbD_hsw {s i : Nat} (hSlice : 8 * s + 8 ≤ 64) (hi : i < 8) :
    (sseu.hsw s).getLsbD i = sseu.subsliceMask.getLsbD (8 * s + i) := by
  rw [hsw, BitVec.getLsbD_setWidth, Field.getLsbD_get hSlice]
  simp [hi]

theorem hsw_setHsw {s : Nat} {mask : BitVec 8} (hSlice : 8 * s + 8 ≤ 64) :
    (sseu.setHsw s mask).hsw s = mask := by
  apply BitVec.eq_of_toNat_eq
  rw [setHsw, hsw, BitVec.toNat_setWidth, Field.get_update hSlice, Field.toNat_get_prep hSlice,
    BitVec.toNat_setWidth]
  have hLt := mask.isLt
  change mask.toNat % 2 ^ 64 % 2 ^ 8 % 2 ^ 8 = mask.toNat
  omega

/-- Both members of the union have the masks of the first slice at the same places. -/
theorem euIndex_first (ss : Nat) : sseu.euIndex 0 ss = ss := by
  rw [euIndex, Nat.mul_zero, Nat.zero_add, ite_self]

theorem hasSubslice_first {ss : Nat} (hSlices : 0 < sseu.maxSlices) (hIn : ss < sseu.maxSubslices)
    (hByte : ss < 8) : sseu.intelSseuHasSubslice 0 ss = (sseu.hsw 0).getLsbD ss := by
  have hBit := @getLsbD_hsw sseu 0 ss (by decide) hByte
  rw [Nat.mul_zero, Nat.zero_add] at hBit
  have hNot : ¬ (0 ≥ sseu.maxSlices ∨ ss ≥ sseu.maxSubslices) := by omega
  rw [intelSseuHasSubslice, if_neg hNot, hBit, ite_self]

/-- The loop over the subslices sets the masks of those that are there. -/
theorem foldl_setEus (euEn : BitVec 16) (places : List Nat) :
    places.foldl
        (fun sseu ss => if sseu.intelSseuHasSubslice 0 ss then sseu.sseuSetEus 0 ss euEn else sseu)
        sseu =
      { sseu with
        euMask := fun i =>
          if i ∈ places ∧ sseu.intelSseuHasSubslice 0 i = true then euEn else sseu.euMask i } := by
  induction places generalizing sseu with
  | nil => simp
  | cons ss places ih =>
      rw [List.foldl_cons, ih]
      by_cases hHas : sseu.intelSseuHasSubslice 0 ss = true
      · rw [if_pos hHas]
        have hSame : ∀ i, (sseu.sseuSetEus 0 ss euEn).intelSseuHasSubslice 0 i =
            sseu.intelSseuHasSubslice 0 i := fun _ => rfl
        simp only [hSame]
        simp only [sseuSetEus, euIndex_first, Function.update_apply, List.mem_cons]
        congr 1
        funext i
        by_cases hi : i = ss <;> simp [hi, hHas]
      · rw [if_neg hHas]
        congr 1
        funext i
        by_cases hi : i = ss <;> simp [hi, hHas]

/-- The mask that the loop over a fuse makes of its first bits. -/
theorem getLsbD_pairs (fuse : BitVec 8) {n : Nat} (hn : n ≤ 8) :
    ∀ i < 16,
      ((List.range n).foldl
        (fun (euEn : BitVec 16) eu =>
          if fuse.getLsbD eu then
            euEn ||| (BitVec.twoPow 16 (eu * 2) ||| BitVec.twoPow 16 (eu * 2 + 1))
          else euEn) 0).getLsbD i = (decide (i / 2 < n) && fuse.getLsbD (i / 2)) := by
  induction n with
  | zero => simp
  | succ n ih =>
      intro i hi
      have hEarlier := ih (by omega) i hi
      rw [List.range_succ, List.foldl_append, List.foldl_cons, List.foldl_nil]
      by_cases hHere : i / 2 = n
      · have hOne : n * 2 = i ∨ n * 2 + 1 = i := by omega
        rw [hHere] at hEarlier
        cases hLeft : fuse.getLsbD n with
        | true =>
            rw [if_pos rfl, BitVec.getLsbD_or, BitVec.getLsbD_or, BitVec.getLsbD_twoPow,
              BitVec.getLsbD_twoPow, hHere, hLeft]
            rcases hOne with rfl | rfl <;> simp [hi]
        | false => rw [if_neg Bool.false_ne_true, hEarlier, hHere, hLeft, Bool.and_false, Bool.and_false]
      · have hFirst : n * 2 ≠ i := by omega
        have hSecond : n * 2 + 1 ≠ i := by omega
        have hLess : i / 2 < n + 1 ↔ i / 2 < n := by omega
        split
        · rw [BitVec.getLsbD_or, BitVec.getLsbD_or, BitVec.getLsbD_twoPow, BitVec.getLsbD_twoPow,
            hEarlier]
          simp [hLess, hFirst, hSecond]
        · rw [hEarlier]
          simp [hLess]

/-- The mask of a subslice has both units of every pair that is left. -/
theorem getLsbD_euEnable (euDisable : BitVec 32) {i : Nat} (hi : i < 16) :
    (euEnable 16 euDisable).getLsbD i = !euDisable.getLsbD (i / 2) := by
  have hPair : i / 2 < 8 := by omega
  rw [euEnable, getLsbD_pairs _ (Nat.le_refl 8) i hi, BitVec.getLsbD_not, BitVec.getLsbD_setWidth,
    Field.getLsbD_get (by decide)]
  simp [hPair]

theorem hweight_euEnable (euDisable : BitVec 32) :
    hweight (euEnable 16 euDisable) = enabledEus euDisable := by
  rw [hweight, enabledEus, ← countP_pairs]
  apply List.countP_congr
  intro i hi
  rw [getLsbD_euEnable euDisable (List.mem_range.mp hi)]

/-- The execution units that the first pass counts for a subslice: those that the fuses
leave, or what was in the mask of a subslice that is not there. -/
def fusedEus (registers : SseuRegisters) (start : SseuDevInfo) (ss : Nat) : Nat :=
  if registers.geometryDssEnable.getLsbD ss then enabledEus registers.euDisable
  else hweight (start.euMask ss)

/-- What the first pass leaves. -/
structure Fused (registers : SseuRegisters) (start sseu : SseuDevInfo) : Prop where
  maxSlices : sseu.maxSlices = 1
  maxSubslices : sseu.maxSubslices = 6
  hasSubslicePg : sseu.hasSubslicePg = start.hasSubslicePg
  hsw : sseu.hsw 0 = (registers.geometryDssEnable &&& 0x3f).setWidth 8
  euPerSubslice : sseu.euPerSubslice.toNat = enabledEus registers.euDisable
  euTotal : sseu.euTotal.toNat = ((List.range 6).map (fusedEus registers start)).sum

theorem enabledEus_le (euDisable : BitVec 32) : enabledEus euDisable ≤ 16 := by
  rw [← hweight_euEnable]
  exact hweight_le _

theorem fusedEus_le (start : SseuDevInfo) (ss : Nat) : fusedEus registers start ss ≤ 16 := by
  rw [fusedEus]
  split
  · exact enabledEus_le _
  · exact hweight_le _

theorem sum_fusedEus_le (start : SseuDevInfo) :
    ((List.range 6).map (fusedEus registers start)).sum ≤ 96 := by
  have hSum := List.sum_le_card_nsmul ((List.range 6).map (fusedEus registers start)) 16 (by
    intro count hMem
    obtain ⟨ss, _, rfl⟩ := List.mem_map.mp hMem
    exact fusedEus_le start ss)
  simpa using hSum

theorem getLsbD_fusedMask (dss : BitVec 32) {ss : Nat} (h : ss < 6) :
    ((dss &&& 0x3f).setWidth 8 : BitVec 8).getLsbD ss = dss.getLsbD ss := by
  have hMask : (0x3f : BitVec 32).getLsbD ss = true := by
    interval_cases ss <;> rfl
  rw [BitVec.getLsbD_setWidth, BitVec.getLsbD_and, hMask, Bool.and_true, decide_eq_true (by omega),
    Bool.true_and]

/-- With one slice the total is the sum over its subslices, cut to 16 bits. -/
theorem toNat_computeEuTotal (hSlices : sseu.maxSlices = 1) :
    sseu.computeEuTotal.toNat =
      ((List.range sseu.maxSubslices).map fun ss => hweight (sseu.euMask ss)).sum % 2 ^ 16 := by
  rw [computeEuTotal, hSlices, BitVec.toNat_ofNat]
  simp [euIndex_first]

section Compute

variable {ssEn : BitVec 32} {euEn : BitVec 16}

/-- The structure after the first pass, but for the masks and the totals. -/
theorem gen11ComputeSseuInfo_eq :
    ∃ euMask euTotal,
      sseu.gen11ComputeSseuInfo ssEn euEn =
        { ({ sseu with sliceMask := sseu.sliceMask ||| BitVec.twoPow 8 0 } : SseuDevInfo).setHsw 0
            ((ssEn &&& BitVec.ofNat 32 (2 ^ sseu.maxSubslices - 1)).setWidth 8) with
          euMask, euTotal, euPerSubslice := BitVec.ofNat 8 (hweight euEn) } := by
  simp only [gen11ComputeSseuInfo, foldl_setEus]
  exact ⟨_, _, rfl⟩

theorem maxSlices_gen11ComputeSseuInfo :
    (sseu.gen11ComputeSseuInfo ssEn euEn).maxSlices = sseu.maxSlices := by
  obtain ⟨_, _, hEq⟩ := @gen11ComputeSseuInfo_eq sseu ssEn euEn
  rw [hEq]
  rfl

theorem maxSubslices_gen11ComputeSseuInfo :
    (sseu.gen11ComputeSseuInfo ssEn euEn).maxSubslices = sseu.maxSubslices := by
  obtain ⟨_, _, hEq⟩ := @gen11ComputeSseuInfo_eq sseu ssEn euEn
  rw [hEq]
  rfl

theorem hasSubslicePg_gen11ComputeSseuInfo :
    (sseu.gen11ComputeSseuInfo ssEn euEn).hasSubslicePg = sseu.hasSubslicePg := by
  obtain ⟨_, _, hEq⟩ := @gen11ComputeSseuInfo_eq sseu ssEn euEn
  rw [hEq]
  rfl

theorem hsw_gen11ComputeSseuInfo (hSubslices : sseu.maxSubslices = 6) :
    (sseu.gen11ComputeSseuInfo ssEn euEn).hsw 0 = (ssEn &&& 0x3f).setWidth 8 := by
  obtain ⟨_, _, hEq⟩ := @gen11ComputeSseuInfo_eq sseu ssEn euEn
  have hMask : BitVec.ofNat 32 (2 ^ 6 - 1) = 0x3f := rfl
  rw [hSubslices, hMask] at hEq
  rw [hEq]
  exact hsw_setHsw (by decide)

/-- The masks that the first pass leaves. -/
theorem euMask_gen11ComputeSseuInfo (hSlices : sseu.maxSlices = 1) (hSubslices : sseu.maxSubslices = 6)
    {ss : Nat} (h : ss < 6) :
    (sseu.gen11ComputeSseuInfo ssEn euEn).euMask ss =
      if ssEn.getLsbD ss then euEn else sseu.euMask ss := by
  have hMask : BitVec.ofNat 32 (2 ^ 6 - 1) = 0x3f := rfl
  have hThere : ss < sseu.maxSubslices := by omega
  have hSlice : 0 < sseu.maxSlices := by omega
  simp only [gen11ComputeSseuInfo, foldl_setEus]
  refine if_congr (Iff.trans (and_iff_right (List.mem_range.mpr hThere)) ?_) rfl rfl
  rw [hasSubslice_first (by exact hSlice) (by exact hThere) (by omega), hsw_setHsw (by decide), hSubslices, hMask,
    getLsbD_fusedMask ssEn h]

/-- With one slice the total is the sum over its subslices, cut to 16 bits. -/
theorem euTotal_gen11ComputeSseuInfo (hSlices : sseu.maxSlices = 1) :
    (sseu.gen11ComputeSseuInfo ssEn euEn).euTotal.toNat =
      ((List.range sseu.maxSubslices).map fun ss =>
        hweight ((sseu.gen11ComputeSseuInfo ssEn euEn).euMask ss)).sum % 2 ^ 16 := by
  have hTotal : (sseu.gen11ComputeSseuInfo ssEn euEn).euTotal =
      (sseu.gen11ComputeSseuInfo ssEn euEn).computeEuTotal := rfl
  rw [hTotal, toNat_computeEuTotal (maxSlices_gen11ComputeSseuInfo.trans hSlices),
    maxSubslices_gen11ComputeSseuInfo]

theorem euPerSubslice_gen11ComputeSseuInfo :
    (sseu.gen11ComputeSseuInfo ssEn euEn).euPerSubslice = BitVec.ofNat 8 (hweight euEn) := by
  obtain ⟨_, _, hEq⟩ := @gen11ComputeSseuInfo_eq sseu ssEn euEn
  rw [hEq]

end Compute

theorem fused_gen11ComputeSseuInfo (hSlices : sseu.maxSlices = 1) (hSubslices : sseu.maxSubslices = 6) :
    Fused registers sseu (sseu.gen11ComputeSseuInfo registers.geometryDssEnable
      (euEnable 16 registers.euDisable)) where
  maxSlices := maxSlices_gen11ComputeSseuInfo.trans hSlices
  maxSubslices := maxSubslices_gen11ComputeSseuInfo.trans hSubslices
  hasSubslicePg := hasSubslicePg_gen11ComputeSseuInfo
  hsw := hsw_gen11ComputeSseuInfo hSubslices
  euPerSubslice := by
    have hFew := enabledEus_le registers.euDisable
    rw [euPerSubslice_gen11ComputeSseuInfo, hweight_euEnable, BitVec.toNat_ofNat]
    omega
  euTotal := by
    have hSum := @sum_fusedEus_le registers sseu
    rw [euTotal_gen11ComputeSseuInfo hSlices, hSubslices]
    have hMap : (List.range 6).map (fun ss =>
          hweight ((sseu.gen11ComputeSseuInfo registers.geometryDssEnable
            (euEnable 16 registers.euDisable)).euMask ss)) =
        (List.range 6).map (fusedEus registers sseu) := by
      apply List.map_congr_left
      intro ss hMem
      rw [euMask_gen11ComputeSseuInfo hSlices hSubslices (List.mem_range.mp hMem), fusedEus]
      split
      · exact hweight_euEnable _
      · rfl
    rw [hMap]
    omega

theorem fused (registers : SseuRegisters) (start : SseuDevInfo) :
    Fused registers start (start.gen12SseuInfoInit registers) := by
  have first := @fused_gen11ComputeSseuInfo (start.intelSseuSetInfo 1 6 16) registers rfl rfl
  have hEus : (start.intelSseuSetInfo 1 6 16).maxEusPerSubslice = 16 := rfl
  simp only [gen12SseuInfoInit, hEus]
  generalize (start.intelSseuSetInfo 1 6 16).gen11ComputeSseuInfo registers.geometryDssEnable
    (euEnable 16 registers.euDisable) = sseu at first ⊢
  exact {
    maxSlices := first.maxSlices
    maxSubslices := first.maxSubslices
    hasSubslicePg := first.hasSubslicePg
    hsw := first.hsw
    euPerSubslice := first.euPerSubslice
    euTotal := first.euTotal }

end Fuses

section Status

variable {sseu : SseuDevInfo} {registers : SseuRegisters}

@[simp] theorem addEus_zero : sseu.addEus 0 = sseu := by
  cases sseu with
  | mk sliceMask subsliceMask euMask euTotal euPerSubslice hasSlicePg hasSubslicePg hasXehpDss
      maxSlices maxSubslices maxEusPerSubslice =>
      simp [addEus]

/-- The execution units that the second pass counts for a subslice. -/
def ackedEus (registers : SseuRegisters) (ss : Nat) : Nat :=
  if ss < 3 ∧ (registers.slicePgctlAck 0).getLsbD (gen9PgctlSsAck ss) = true then
    2 * hweight (ackRegister registers ss &&& euAckMask (ss % 2))
  else 0

/-- Only the acknowledgements of the slice and of its first three subslices are looked
at. -/
theorem getLsbD_validSsMask {ss : Nat} (h : ss < 6) :
    (registers.slicePgctlAck 0 &&& gen10PgctlValidSsMask 0).getLsbD (gen9PgctlSsAck ss) =
      (decide (ss < 3) && (registers.slicePgctlAck 0).getLsbD (gen9PgctlSsAck ss)) := by
  have hMask : (gen10PgctlValidSsMask 0).getLsbD (gen9PgctlSsAck ss) = decide (ss < 3) := by
    interval_cases ss <;> rfl
  rw [BitVec.getLsbD_and, hMask, Bool.and_comm]

/-- With subslices that can be gated one by one, a round adds what is acknowledged. -/
theorem countRound_of_gated (hGated : sseu.hasSubslicePg = true) (hSlices : sseu.maxSlices = 1)
    {ss : Nat} (h : ss < 6) :
    countRound registers 0 (registers.slicePgctlAck 0 &&& gen10PgctlValidSsMask 0) sseu ss =
      some (sseu.addEus (ackedEus registers ss)) := by
  rw [countRound, hGated, Bool.true_and, getLsbD_validSsMask h, ackedEus]
  by_cases hAcked : ss < 3 ∧ (registers.slicePgctlAck 0).getLsbD (gen9PgctlSsAck ss) = true
  · rw [if_pos hAcked]
    have hReg : euReg registers sseu.maxSlices (2 * 0 + ss / 2) = some (ackRegister registers ss) := by
      obtain ⟨hLow, _⟩ := hAcked
      rw [hSlices]
      interval_cases ss <;> rfl
    rw [hReg]
    simp [hAcked]
  · rw [if_neg hAcked, addEus_zero]
    simp only [not_and, Bool.not_eq_true] at hAcked
    rw [if_pos]
    by_cases hLow : ss < 3
    · simp [hAcked hLow]
    · simp [hLow]

/-- The rounds over subslices that can be gated one by one. -/
theorem foldlM_countRound {places : List Nat} (hGated : sseu.hasSubslicePg = true)
    (hSlices : sseu.maxSlices = 1) (hPlaces : ∀ ss ∈ places, ss < 6) :
    places.foldlM (countRound registers 0 (registers.slicePgctlAck 0 &&& gen10PgctlValidSsMask 0))
        sseu =
      some (places.foldl (fun sseu ss => sseu.addEus (ackedEus registers ss)) sseu) := by
  induction places generalizing sseu with
  | nil => rfl
  | cons ss places ih =>
      rw [List.foldlM_cons, countRound_of_gated hGated hSlices (hPlaces ss List.mem_cons_self)]
      exact ih hGated hSlices fun other hMem => hPlaces other (List.mem_cons_of_mem ss hMem)

/-- Without them a round uses a register that was not read. -/
theorem foldlM_countRound_of_ungated {sReg : BitVec 32} (hUngated : sseu.hasSubslicePg = false)
    (hSlices : sseu.maxSlices = 1) :
    (List.range 6).foldlM (countRound registers 0 sReg) sseu = none := by
  have hRange : List.range 6 = [0, 1, 2, 3, 4, 5] := rfl
  simp [hRange, countRound, hUngated, addEus, hSlices, euReg]

theorem foldl_addEus (counts : Nat → Nat) (places : List Nat) :
    (places.foldl (fun sseu ss => sseu.addEus (counts ss)) sseu).hsw 0 = sseu.hsw 0 ∧
      (places.foldl (fun sseu ss => sseu.addEus (counts ss)) sseu).euTotal =
        sseu.euTotal + BitVec.ofNat 16 (places.map counts).sum := by
  induction places generalizing sseu with
  | nil => simp
  | cons ss places ih =>
      rw [List.foldl_cons, (ih).1, (ih).2, List.map_cons, List.sum_cons, BitVec.ofNat_add,
        ← BitVec.add_assoc]
      exact ⟨rfl, rfl⟩

/-- Nothing is added where nothing is acknowledged. -/
theorem foldl_addEus_zero {counts : Nat → Nat} {places : List Nat}
    (hZero : ∀ ss ∈ places, counts ss = 0) :
    places.foldl (fun sseu ss => sseu.addEus (counts ss)) sseu = sseu := by
  induction places with
  | nil => rfl
  | cons ss places ih =>
      rw [List.foldl_cons, hZero ss List.mem_cons_self, addEus_zero]
      exact ih fun other hMem => hZero other (List.mem_cons_of_mem ss hMem)

end Status

section Totals

variable {registers : SseuRegisters} {start sseu : SseuDevInfo}

/-- What the first pass has counted for subslices that are not there. -/
def staleEus (registers : SseuRegisters) (start : SseuDevInfo) (ss : Nat) : Nat :=
  if registers.geometryDssEnable.getLsbD ss then 0 else hweight (start.euMask ss)

theorem sum_eq_zero_iff {counts : Nat → Nat} {places : List Nat} :
    (places.map counts).sum = 0 ↔ ∀ ss ∈ places, counts ss = 0 := by
  rw [List.sum_eq_zero_iff]
  exact List.forall_mem_map

theorem hweight_fusedMask (dss : BitVec 32) :
    hweight ((dss &&& 0x3f).setWidth 8 : BitVec 8) = (List.range 6).countP dss.getLsbD := by
  have hRange : List.range 8 = List.range 6 ++ [6, 7] := rfl
  rw [hweight, hRange, List.countP_append]
  have hNone : [6, 7].countP ((dss &&& 0x3f).setWidth 8 : BitVec 8).getLsbD = 0 := by
    simp
  rw [hNone, Nat.add_zero]
  apply List.countP_congr
  intro ss hMem
  rw [getLsbD_fusedMask dss (List.mem_range.mp hMem)]

/-- The total of the first pass. -/
theorem Fused.total (fused : Fused registers start sseu) :
    sseu.euTotal.toNat = hweight (sseu.hsw 0) * enabledEus registers.euDisable +
      ((List.range 6).map (staleEus registers start)).sum := by
  rw [fused.euTotal, fused.hsw, hweight_fusedMask]
  exact sum_ite _ _ _ _

theorem Fused.stale_le (fused : Fused registers start sseu) :
    ((List.range 6).map (staleEus registers start)).sum ≤ 96 := by
  have hTotal := fused.total
  rw [fused.euTotal] at hTotal
  have hSum := @sum_fusedEus_le registers start
  omega

theorem stale_iff :
    ((List.range 6).map (staleEus registers start)).sum = 0 ↔
      ∀ ss < 6, registers.geometryDssEnable.getLsbD ss = false → start.euMask ss = 0 := by
  simp only [sum_eq_zero_iff, List.mem_range, staleEus]
  refine forall₂_congr fun ss _ => ?_
  cases registers.geometryDssEnable.getLsbD ss <;> simp [hweight_eq_zero_iff]

theorem acks_iff :
    ((List.range 6).map (ackedEus registers)).sum = 0 ↔
      ∀ ss < 3, (registers.slicePgctlAck 0).getLsbD (gen9PgctlSsAck ss) = true →
        ackRegister registers ss &&& euAckMask (ss % 2) = 0 := by
  simp only [sum_eq_zero_iff, List.mem_range, ackedEus]
  constructor
  · intro h ss hLow hAcked
    have hCount := h ss (by omega)
    rw [if_pos ⟨hLow, hAcked⟩] at hCount
    exact (hweight_eq_zero_iff _).mp (by omega)
  · intro h ss _
    split
    next hAcked => rw [h ss hAcked.1 hAcked.2, (hweight_eq_zero_iff _).mpr rfl]
    next => rfl

theorem sum_ackedEus_le : ((List.range 6).map (ackedEus registers)).sum ≤ 6 * 64 := by
  have hSum := List.sum_le_card_nsmul ((List.range 6).map (ackedEus registers)) 64 (by
    intro count hMem
    obtain ⟨ss, _, rfl⟩ := List.mem_map.mp hMem
    rw [ackedEus]
    split
    · have hLe := hweight_le (ackRegister registers ss &&& euAckMask (ss % 2))
      omega
    · exact Nat.zero_le _)
  simpa using hSum

/-- The structure that the second pass starts to count in. -/
def marked (sseu : SseuDevInfo) : SseuDevInfo :=
  SseuDevInfo.setHsw { sseu with sliceMask := sseu.sliceMask ||| BitVec.twoPow 8 0 } 0 (sseu.hsw 0)

theorem hsw_marked : sseu.marked.hsw 0 = sseu.hsw 0 := hsw_setHsw (by decide)

theorem gen11SseuDeviceStatus_eq (hSlices : sseu.maxSlices = 1) :
    gen11SseuDeviceStatus registers sseu =
      if (registers.slicePgctlAck 0).getLsbD 0 then
        (List.range sseu.maxSubslices).foldlM
          (countRound registers 0 (registers.slicePgctlAck 0 &&& gen10PgctlValidSsMask 0)) sseu.marked
      else some sseu := by
  have hAck : (registers.slicePgctlAck 0 &&& gen10PgctlValidSsMask 0).getLsbD 0 =
      (registers.slicePgctlAck 0).getLsbD 0 := by
    have hMask : (gen10PgctlValidSsMask 0).getLsbD 0 = true := rfl
    rw [BitVec.getLsbD_and, hMask, Bool.and_true]
  have hRange : List.range 1 = [0] := rfl
  rw [gen11SseuDeviceStatus, hSlices, hRange, List.foldlM_cons]
  simp only [List.foldlM_nil, bind_pure, statusRound, hAck]
  cases (registers.slicePgctlAck 0).getLsbD 0 <;> rfl

/-- Without an acknowledgement of the slice only the first pass counts. -/
theorem status_of_not_acked (first : Fused registers start sseu)
    (hAck : (registers.slicePgctlAck 0).getLsbD 0 = false) :
    gen11SseuDeviceStatus registers sseu = some sseu := by
  rw [gen11SseuDeviceStatus_eq first.maxSlices, hAck, if_neg Bool.false_ne_true]

theorem status_of_gated (first : Fused registers start sseu)
    (hAck : (registers.slicePgctlAck 0).getLsbD 0 = true) (hGated : start.hasSubslicePg = true) :
    gen11SseuDeviceStatus registers sseu =
      some ((List.range 6).foldl (fun sseu ss => sseu.addEus (ackedEus registers ss)) sseu.marked) := by
  rw [gen11SseuDeviceStatus_eq first.maxSlices, if_pos hAck, first.maxSubslices]
  exact foldlM_countRound (first.hasSubslicePg.trans hGated) first.maxSlices fun ss hMem =>
    List.mem_range.mp hMem

theorem status_of_ungated (first : Fused registers start sseu)
    (hAck : (registers.slicePgctlAck 0).getLsbD 0 = true) (hUngated : start.hasSubslicePg = false) :
    gen11SseuDeviceStatus registers sseu = none := by
  rw [gen11SseuDeviceStatus_eq first.maxSlices, if_pos hAck, first.maxSubslices]
  exact foldlM_countRound_of_ungated (first.hasSubslicePg.trans hUngated) first.maxSlices

theorem totalsRight_iff_of_not_acked (hAck : (registers.slicePgctlAck 0).getLsbD 0 = false) :
    TotalsRight registers start ↔
      ((List.range 6).map (staleEus registers start)).sum = 0 := by
  have first := fused registers start
  rw [TotalsRight, ofEngines]
  generalize start.gen12SseuInfoInit registers = sseu at first ⊢
  have hTotal := first.total
  rw [status_of_not_acked first hAck]
  constructor
  · rintro ⟨out, hSome, _, hEach, hProduct⟩
    obtain rfl := Option.some.inj hSome
    rw [hEach] at hProduct
    omega
  · intro hNone
    refine ⟨sseu, rfl, first.hsw, first.euPerSubslice, ?_⟩
    rw [first.euPerSubslice]
    omega

theorem totalsRight_iff_of_gated (hAck : (registers.slicePgctlAck 0).getLsbD 0 = true)
    (hGated : start.hasSubslicePg = true) :
    TotalsRight registers start ↔
      ((List.range 6).map (staleEus registers start)).sum = 0 ∧
        ((List.range 6).map (ackedEus registers)).sum = 0 := by
  have first := fused registers start
  rw [TotalsRight, ofEngines]
  generalize start.gen12SseuInfoInit registers = sseu at first ⊢
  have hTotal := first.total
  have hMarked : sseu.marked.euTotal = sseu.euTotal := rfl
  obtain ⟨hHsw, hCounted⟩ := @foldl_addEus sseu.marked (ackedEus registers) (List.range 6)
  rw [status_of_gated first hAck hGated]
  constructor
  · rintro ⟨out, hSome, _, hEach, hProduct⟩
    obtain rfl := Option.some.inj hSome
    -- Both parts are small, so the total does not wrap around.
    have hStale := first.stale_le
    have hAcked := @sum_ackedEus_le registers
    rw [hEach, hHsw, hCounted, hsw_marked, hMarked, BitVec.toNat_add, BitVec.toNat_ofNat, hTotal]
      at hProduct
    have hSmall := Nat.mul_le_mul (hweight_le (sseu.hsw 0)) (enabledEus_le registers.euDisable)
    omega
  · rintro ⟨hStale, hAcked⟩
    rw [foldl_addEus_zero (sum_eq_zero_iff.mp hAcked)]
    refine ⟨sseu.marked, rfl, hsw_marked.trans first.hsw, first.euPerSubslice, ?_⟩
    have hEach : sseu.marked.euPerSubslice = sseu.euPerSubslice := rfl
    rw [hsw_marked, hEach, first.euPerSubslice, hMarked]
    omega

theorem not_totalsRight_of_ungated (hAck : (registers.slicePgctlAck 0).getLsbD 0 = true)
    (hUngated : start.hasSubslicePg = false) : ¬ TotalsRight registers start := by
  rintro ⟨sseu, hSome, _⟩
  rw [ofEngines, status_of_ungated (fused registers start) hAck hUngated] at hSome
  cases hSome

end Totals

end SseuDevInfo

/-- The totals are right just when nothing is counted twice. -/
theorem totals_right_iff (registers : SseuRegisters) (start : SseuDevInfo) :
    TotalsRight registers start ↔ CountedOnce registers start := by
  cases hAck : (registers.slicePgctlAck 0).getLsbD 0 with
  | false =>
      rw [SseuDevInfo.totalsRight_iff_of_not_acked hAck, SseuDevInfo.stale_iff]
      constructor
      · intro hStale
        exact ⟨hStale, fun h => absurd (hAck.symm.trans h) Bool.false_ne_true,
          fun h => absurd (hAck.symm.trans h) Bool.false_ne_true⟩
      · exact CountedOnce.stale
  | true =>
      cases hGated : start.hasSubslicePg with
      | false =>
          refine iff_of_false (SseuDevInfo.not_totalsRight_of_ungated hAck hGated) ?_
          exact fun once => absurd (hGated.symm.trans (once.gated hAck)) Bool.false_ne_true
      | true =>
          rw [SseuDevInfo.totalsRight_iff_of_gated hAck hGated, SseuDevInfo.stale_iff,
            SseuDevInfo.acks_iff]
          constructor
          · rintro ⟨hStale, hAcks⟩
            exact ⟨hStale, fun _ => hGated, fun _ => hAcks⟩
          · exact fun once => ⟨once.stale, once.acks hAck⟩

/-- A cleared structure. -/
def clearedSseu : SseuDevInfo where
  sliceMask := 0
  subsliceMask := 0
  euMask := fun _ => 0
  euTotal := 0
  euPerSubslice := 0
  hasSlicePg := false
  hasSubslicePg := false
  hasXehpDss := false
  maxSlices := 0
  maxSubslices := 0
  maxEusPerSubslice := 0

/-- A slice with all six subslices, which is powered. -/
def poweredSlice : SseuRegisters where
  geometryDssEnable := 0x3f
  euDisable := 0
  slicePgctlAck := fun _ => 1
  ss01EuPgctlAck := fun _ => 0
  ss23EuPgctlAck := fun _ => 0

/-- The last two subslices are counted from registers that were not read. -/
theorem powered_slice_not_right : ¬ TotalsRight poweredSlice clearedSseu :=
  SseuDevInfo.not_totalsRight_of_ungated rfl rfl

end NootedBlue.Engines
