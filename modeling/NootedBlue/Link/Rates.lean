import NootedBlue.Backlight.Parse

/-! The rates that a sink can do, and the rate that is programmed. A panel lists its
rates in a table, or the capabilities of the sink and of the repeaters bound them;
the driver tells the sink a code for a rate, or an index into the table. -/
namespace NootedBlue.Link

open Backlight

abbrev Byte := BitVec 8

/-- The eight entries of `DP_SUPPORTED_LINK_RATES`. -/
structure RateTable where
  entries : List (BitVec 16)
  length_eq : entries.length = 8

/-- What the reads over the AUX channel bring, if they succeed, and what is in the
table on the stack if they do not. -/
structure RateReads where
  supported : Option RateTable
  garbage : RateTable
  uhbr : Option Byte

def RateReads.table (reads : RateReads) : RateTable := reads.supported.getD reads.garbage

def RateReads.uhbrRates (reads : RateReads) : Byte := reads.uhbr.getD 0

/-- The part of `struct intel_dp` about rates. The rates are the first
`num_sink_rates` ones of the array. -/
structure IntelDp where
  dpcd : Nat → Byte
  edpDpcd : Nat → Byte
  lttprCommonCaps : Fin 8 → Byte
  sinkRates : List Nat
  useRateSelect : Bool

/-- `drm_dp_link_rate_to_bw_code`. -/
def drmDpLinkRateToBwCode (linkRate : Nat) : Byte :=
  match linkRate with
  | 1000000 => 1
  | 1350000 => 4
  | 2000000 => 2
  | rate => .ofNat 8 (rate / 27000)

/-- `drm_dp_bw_code_to_link_rate`. -/
def drmDpBwCodeToLinkRate (linkBw : Byte) : Nat :=
  match linkBw.toNat with
  | 1 => 1000000
  | 4 => 1350000
  | 2 => 2000000
  | code => code * 27000

/-- `max_dprx_rate`. -/
def maxDprxRate (dp : IntelDp) : Nat := drmDpBwCodeToLinkRate (dp.dpcd 1)

/-- `drm_dp_lttpr_max_link_rate`. -/
def drmDpLttprMaxLinkRate (caps : Fin 8 → Byte) : Nat := drmDpBwCodeToLinkRate (caps 1)

/-- `drm_dp_128b132b_supported`. -/
def drmDp128b132bSupported (dp : IntelDp) : Bool := dp.dpcd 6 &&& 2 ≠ 0

/-- `hweight8`. -/
def hweight8 (byte : Byte) : Nat := (List.range 8).countP byte.getLsbD

/-- `drm_dp_lttpr_count`, with `-ERANGE` and `-EINVAL`. -/
def drmDpLttprCount (caps : Fin 8 → Byte) : Int :=
  match hweight8 (caps 2) with
  | 0 => 0
  | 1 => 8 - Nat.log2 (caps 2).toNat
  | 8 => -34
  | _ => -22

/-- The rate that bounds the others: that of the sink, and of the repeaters if they
name one. -/
def maxRate (dp : IntelDp) : Nat :=
  let lttpr := drmDpLttprMaxLinkRate dp.lttprCommonCaps
  if lttpr ≠ 0 then min (maxDprxRate dp) lttpr else maxDprxRate dp

def dpRates : List Nat := [162000, 270000, 540000, 810000]

/-- What the repeaters leave of the rates of 128b/132b. -/
def uhbrBits (reads : RateReads) (dp : IntelDp) : Byte :=
  let caps := dp.lttprCommonCaps
  if drmDpLttprCount caps ≠ 0 then
    if 0x20 ≤ caps 0 ∧ caps 6 &&& 1 ≠ 0 then reads.uhbrRates &&& caps 7 else 0
  else reads.uhbrRates

/-- `DP_UHBR10`, `DP_UHBR13_5` and `DP_UHBR20`. -/
def uhbrSinkRates (bits : Byte) : List Nat :=
  (if bits &&& 1 ≠ 0 then [1000000] else []) ++
    ((if bits &&& 4 ≠ 0 then [1350000] else []) ++ (if bits &&& 2 ≠ 0 then [2000000] else []))

/-- `intel_dp_set_dpcd_sink_rates`. -/
def intelDpSetDpcdSinkRates (reads : RateReads) (dp : IntelDp) : IntelDp :=
  let sst := dpRates.takeWhile (· ≤ maxRate dp)
  { dp with
    sinkRates :=
      if drmDp128b132bSupported dp then sst ++ uhbrSinkRates (uhbrBits reads dp) else sst }

/-- `intel_dp_set_default_sink_rates`. -/
def intelDpSetDefaultSinkRates (dp : IntelDp) : IntelDp := { dp with sinkRates := [162000] }

/-- `intel_dp_set_sink_rates`. -/
def intelDpSetSinkRates (reads : RateReads) (dp : IntelDp) : IntelDp :=
  let dp := intelDpSetDpcdSinkRates reads dp
  if dp.sinkRates.length ≠ 0 then dp else intelDpSetDefaultSinkRates dp

def dpEdp14 : Nat := 3

/-- The loop over the table of the panel. -/
def tableRates : List (BitVec 16) → List Nat
  | [] => []
  | entry :: rest =>
      let rate := entry.toNat * 200 / 10
      if rate = 0 then [] else rate :: tableRates rest

/-- `intel_edp_set_sink_rates`. -/
def intelEdpSetSinkRates (reads : RateReads) (dp : IntelDp) : IntelDp :=
  let rates := if (dp.edpDpcd 0).toNat ≥ dpEdp14 then tableRates reads.table.entries else []
  if rates.length ≠ 0 then { dp with sinkRates := rates, useRateSelect := true }
  else intelDpSetSinkRates reads { dp with sinkRates := rates }

/-- The part of `SetupParams` about rates, after the capabilities were read. -/
def setupParams (reads : RateReads) (dp : IntelDp) : IntelDp :=
  intelEdpSetSinkRates reads
    { dp with lttprCommonCaps := fun _ => 0, sinkRates := [162000] }

/-- The loop of `intel_dp_rate_index`. -/
def rateIndexFrom (rate i : Nat) : List Nat → Int
  | [] => -1
  | other :: rest => if rate = other then i else rateIndexFrom rate (i + 1) rest

/-- `intel_dp_rate_index`. -/
def intelDpRateIndex (rates : List Nat) (rate : Nat) : Int := rateIndexFrom rate 0 rates

/-- `intel_dp_rate_select`. -/
def intelDpRateSelect (dp : IntelDp) (rate : Nat) : Int :=
  let i := intelDpRateIndex dp.sinkRates rate
  if i < 0 then 0 else i

/-- `intel_dp_compute_rate`: the code, and the index. -/
def intelDpComputeRate (dp : IntelDp) (portClock : Nat) : Byte × Byte :=
  if dp.useRateSelect then (0, .ofInt 8 (intelDpRateSelect dp portClock))
  else (drmDpLinkRateToBwCode portClock, 0)

/-- Rates as they should be: some, fewer than the array holds, in order, and none of
them zero. -/
structure RatesInOrder (rates : List Nat) : Prop where
  nonempty : rates ≠ []
  fits : rates.length ≤ 8
  increasing : rates.Pairwise (· < ·)
  nonzero : 0 ∉ rates

/-- What is programmed decodes to the rate that is driven. Nothing reports a rate
that is not supported. -/
def Decodes (dp : IntelDp) (portClock : Nat) : Prop :=
  let (linkBw, rateSelect) := intelDpComputeRate dp portClock
  if linkBw = 0 then dp.sinkRates[rateSelect.toNat]? = some portClock
  else drmDpBwCodeToLinkRate linkBw = portClock

/-- What the rates and the programmed pair promise together. -/
structure Programmed (dp : IntelDp) (portClock : Nat) : Prop where
  rates : RatesInOrder dp.sinkRates
  decodes : Decodes dp portClock

/-- The rates that the panel lists, in units of 20 kHz. -/
def listed (reads : RateReads) : List (BitVec 16) := reads.table.entries.takeWhile (· ≠ 0)

/-- The panel has a table and it is not empty. -/
def UsesTable (reads : RateReads) (dp : IntelDp) : Prop :=
  dpEdp14 ≤ (dp.edpDpcd 0).toNat ∧ listed reads ≠ []

/-- The rate is among those that the table lists in order; or there is no table, and
a code is used, or the capabilities bound nothing below the rate, or it is the
default one. -/
def RateFits (reads : RateReads) (dp : IntelDp) (portClock : Nat) : Prop :=
  UsesTable reads dp ∧ (listed reads).Pairwise (· < ·) ∧
      (∃ entry ∈ listed reads, 20 * entry.toNat = portClock) ∨
    ¬ UsesTable reads dp ∧
      (dp.useRateSelect = false ∨ portClock ≤ maxRate dp ∨
        portClock = 162000 ∧ ¬ (drmDp128b132bSupported dp ∧ uhbrBits reads dp &&& 7 ≠ 0))

section Table

variable {reads : RateReads} {dp : IntelDp} {rate : Nat} {rates : List Nat}

/-- The loop over the table stops at its first zero. -/
theorem tableRates_eq (entries : List (BitVec 16)) :
    tableRates entries = (entries.takeWhile (· ≠ 0)).map (20 * ·.toNat) := by
  induction entries with
  | nil => rfl
  | cons entry rest ih =>
      have hRate : entry.toNat * 200 / 10 = 20 * entry.toNat := by omega
      by_cases hZero : entry = 0
      · rw [hZero]
        rfl
      · have hNonzero : 20 * entry.toNat ≠ 0 := by
          have hPos : entry.toNat ≠ 0 := fun h => hZero (BitVec.eq_of_toNat_eq h)
          omega
        rw [tableRates, hRate, if_neg hNonzero, ih,
          List.takeWhile_cons_of_pos (by simpa using hZero), List.map_cons]

theorem tableRates_listed (reads : RateReads) :
    tableRates reads.table.entries = (listed reads).map (20 * ·.toNat) :=
  tableRates_eq reads.table.entries

theorem length_listed (reads : RateReads) : (listed reads).length ≤ 8 :=
  reads.table.length_eq ▸ (List.takeWhile_sublist _).length_le

theorem ne_zero_of_mem_listed {entry : BitVec 16} (h : entry ∈ listed reads) : entry ≠ 0 := by
  simpa using List.all_eq_true.mp List.all_takeWhile entry h

/-- The rates of the table are in order just when the table is. -/
theorem ratesInOrder_table_iff (hSome : listed reads ≠ []) :
    RatesInOrder ((listed reads).map (20 * ·.toNat)) ↔ (listed reads).Pairwise (· < ·) := by
  have hOrder : ((listed reads).map (20 * ·.toNat)).Pairwise (· < ·) ↔
      (listed reads).Pairwise (· < ·) := by
    rw [List.pairwise_map]
    apply List.Pairwise.iff
    intro a b
    rw [BitVec.lt_def]
    omega
  constructor
  · intro h
    exact hOrder.mp h.increasing
  · intro h
    exact {
      nonempty := by simpa using hSome
      fits := by
        rw [List.length_map]
        exact length_listed reads
      increasing := hOrder.mpr h
      nonzero := by
        intro hMem
        obtain ⟨entry, hEntry, hZero⟩ := List.mem_map.mp hMem
        apply ne_zero_of_mem_listed hEntry
        apply BitVec.eq_of_toNat_eq
        show entry.toNat = 0
        omega }

end Table

section Capabilities

variable (reads : RateReads) (dp : IntelDp)

/-- All rates that the capabilities can name. -/
def knownRates : List Nat := dpRates ++ [1000000, 1350000, 2000000]

theorem uhbrSinkRates_sublist (bits : Byte) :
    (uhbrSinkRates bits).Sublist [1000000, 1350000, 2000000] := by
  have hOne (p : Prop) [Decidable p] (rate : Nat) : (if p then [rate] else []).Sublist [rate] := by
    split
    · exact List.Sublist.refl _
    · exact List.nil_sublist _
  exact (hOne _ _).append ((hOne _ _).append (hOne _ _))

theorem dpcdRates_sublist :
    (intelDpSetDpcdSinkRates reads dp).sinkRates.Sublist knownRates := by
  have hSst : (dpRates.takeWhile (· ≤ maxRate dp)).Sublist dpRates := List.takeWhile_sublist _
  rw [intelDpSetDpcdSinkRates]
  split
  · exact hSst.append (uhbrSinkRates_sublist _)
  · exact hSst.trans (List.sublist_append_left _ _)

/-- The rates of the capabilities are in order, with the default one if there are
none. -/
theorem ratesInOrder_capabilities : RatesInOrder (intelDpSetSinkRates reads dp).sinkRates := by
  rw [intelDpSetSinkRates]
  have hSublist := dpcdRates_sublist reads dp
  split
  next hSome =>
    exact {
      nonempty := fun h => hSome (by rw [h]; rfl)
      fits := Nat.le_trans hSublist.length_le (by decide)
      increasing := List.Pairwise.sublist hSublist (by decide)
      nonzero := fun hZero => absurd (hSublist.subset hZero) (by decide) }
  next hNone =>
    exact {
      nonempty := by simp [intelDpSetDefaultSinkRates]
      fits := by simp [intelDpSetDefaultSinkRates]
      increasing := List.pairwise_singleton _ _
      nonzero := by simp [intelDpSetDefaultSinkRates] }

theorem uhbrSinkRates_eq_nil_iff (bits : Byte) : uhbrSinkRates bits = [] ↔ bits &&& 7 = 0 := by
  have hBits : bits &&& 7 = 0 ↔ bits &&& 1 = 0 ∧ bits &&& 4 = 0 ∧ bits &&& 2 = 0 := by
    revert bits
    decide
  have hOne (p : Prop) [Decidable p] (rate : Nat) : (if p then [rate] else []) = [] ↔ ¬ p := by
    split
    next h => simp [h]
    next h => simp [h]
  rw [uhbrSinkRates, List.append_eq_nil_iff, List.append_eq_nil_iff, hOne, hOne, hOne, hBits]
  simp

/-- A rate of 8b/10b is no rate of 128b/132b. -/
theorem not_mem_uhbrSinkRates {rate : Nat} (h : rate < 1000000) (bits : Byte) :
    rate ∉ uhbrSinkRates bits := by
  intro hMem
  have hKnown := (uhbrSinkRates_sublist bits).subset hMem
  simp only [List.mem_cons, List.not_mem_nil, or_false] at hKnown
  omega

/-- The clock of the port is among the rates of 8b/10b just when nothing below bounds
them. -/
theorem mem_sst_iff (registers : Registers) (bound : Nat) :
    portClock registers ∈ dpRates.takeWhile (· ≤ bound) ↔ portClock registers ≤ bound := by
  have hLow : 162000 ∈ dpRates.takeWhile (· ≤ bound) ↔ 162000 ≤ bound := by
    by_cases h : 162000 ≤ bound
    · simp [dpRates, h]
    · simp [dpRates, h]
  have hHigh : 270000 ∈ dpRates.takeWhile (· ≤ bound) ↔ 270000 ≤ bound := by
    by_cases h : 270000 ≤ bound
    · have hFirst : 162000 ≤ bound := by omega
      simp [dpRates, h, hFirst]
    · by_cases hFirst : 162000 ≤ bound
      · simp [dpRates, h, hFirst]
      · simp [dpRates, h, hFirst]
  rw [portClock]
  split
  · exact hLow
  · exact hHigh

theorem sst_eq_nil_iff (bound : Nat) : dpRates.takeWhile (· ≤ bound) = [] ↔ bound < 162000 := by
  by_cases h : 162000 ≤ bound
  · simp [dpRates, h, Nat.not_lt.mpr h]
  · simp [dpRates, h, Nat.not_le.mp h]

theorem le_portClock (registers : Registers) : 162000 ≤ portClock registers := by
  rw [portClock]
  split
  · decide
  · decide

theorem portClock_lt (registers : Registers) : portClock registers < 1000000 := by
  rw [portClock]
  split
  · decide
  · decide

/-- The clock of the port is among the rates of the capabilities just when they bound
nothing below it, or it is the default. -/
theorem mem_capabilities_iff (registers : Registers) :
    portClock registers ∈ (intelDpSetSinkRates reads dp).sinkRates ↔
      portClock registers ≤ maxRate dp ∨ portClock registers = 162000 ∧
        ¬ (drmDp128b132bSupported dp ∧ uhbrBits reads dp &&& 7 ≠ 0) := by
  have hDpcd : portClock registers ∈ (intelDpSetDpcdSinkRates reads dp).sinkRates ↔
      portClock registers ≤ maxRate dp := by
    rw [← mem_sst_iff, intelDpSetDpcdSinkRates]
    split
    · have hNot := not_mem_uhbrSinkRates (portClock_lt registers) (uhbrBits reads dp)
      simp [hNot]
    · rfl
  have hEmpty : (intelDpSetDpcdSinkRates reads dp).sinkRates = [] ↔
      maxRate dp < 162000 ∧ ¬ (drmDp128b132bSupported dp ∧ uhbrBits reads dp &&& 7 ≠ 0) := by
    rw [← sst_eq_nil_iff, intelDpSetDpcdSinkRates]
    split
    next hSupported => simp [hSupported, uhbrSinkRates_eq_nil_iff]
    next hNot => simp [hNot]
  have hLeast := le_portClock registers
  rw [intelDpSetSinkRates]
  split
  next hSome =>
    rw [hDpcd]
    constructor
    · exact .inl
    · rintro (hLe | ⟨hDefault, hNone⟩)
      · exact hLe
      · by_contra hBound
        apply hSome
        rw [hEmpty.mpr ⟨by omega, hNone⟩]
        rfl
  next hNone =>
    obtain ⟨hBound, hNoUhbr⟩ := hEmpty.mp (List.eq_nil_of_length_eq_zero (not_not.mp hNone))
    show portClock registers ∈ [162000] ↔ _
    rw [List.mem_singleton]
    constructor
    · exact fun hDefault => .inr ⟨hDefault, hNoUhbr⟩
    · rintro (hLe | ⟨hDefault, _⟩)
      · omega
      · exact hDefault

end Capabilities

section Search

/-- The search returns the first index of a rate that is there, and -1 otherwise. -/
theorem rateIndexFrom_spec (rate i : Nat) (rates : List Nat) :
    (rate ∉ rates ∧ rateIndexFrom rate i rates = -1) ∨
      ∃ k, rates[k]? = some rate ∧ rateIndexFrom rate i rates = (i + k : Nat) := by
  induction rates generalizing i with
  | nil => exact .inl ⟨by simp, rfl⟩
  | cons other rest ih =>
      rw [rateIndexFrom]
      by_cases hHere : rate = other
      · exact .inr ⟨0, by simp [hHere], by rw [if_pos hHere]; rfl⟩
      · rw [if_neg hHere]
        rcases ih (i + 1) with ⟨hNot, hIndex⟩ | ⟨k, hGet, hIndex⟩
        · exact .inl ⟨by simp [hHere, hNot], hIndex⟩
        · refine .inr ⟨k + 1, by simpa using hGet, ?_⟩
          rw [hIndex]
          omega

/-- The index that is programmed leads to the rate just when the rate is there. -/
theorem getElem_rateSelect_iff (dp : IntelDp) (h : RatesInOrder dp.sinkRates) (rate : Nat) :
    dp.sinkRates[(BitVec.ofInt 8 (intelDpRateSelect dp rate)).toNat]? = some rate ↔
      rate ∈ dp.sinkRates := by
  constructor
  · exact List.mem_of_getElem?
  · intro hMem
    rcases rateIndexFrom_spec rate 0 dp.sinkRates with ⟨hNot, _⟩ | ⟨k, hGet, hIndex⟩
    · exact absurd hMem hNot
    · have hBound : k < 8 := by
        have hLength := (List.getElem?_eq_some_iff.mp hGet).1
        exact Nat.lt_of_lt_of_le hLength h.fits
      have hSelect : intelDpRateSelect dp rate = (k : Nat) := by
        rw [intelDpRateSelect, intelDpRateIndex, hIndex, Nat.zero_add, if_neg (by omega)]
      have hByte : (BitVec.ofInt 8 (k : Nat)).toNat = k := by
        rw [BitVec.ofInt_natCast, BitVec.toNat_ofNat]
        omega
      rw [hSelect, hByte]
      exact hGet

end Search

section Programming

variable (reads : RateReads) (dp : IntelDp) (registers : Registers)

/-- With an index the programmed pair decodes just when the rate is there, and with a
code it always does. -/
theorem decodes_iff (h : RatesInOrder dp.sinkRates) :
    Decodes dp (portClock registers) ↔
      dp.useRateSelect = false ∨ portClock registers ∈ dp.sinkRates := by
  rw [Decodes, intelDpComputeRate]
  cases hSelect : dp.useRateSelect with
  | true =>
      simp only [if_true, Bool.true_eq_false, false_or]
      exact getElem_rateSelect_iff dp h (portClock registers)
  | false =>
      have hCode : drmDpBwCodeToLinkRate (drmDpLinkRateToBwCode (portClock registers)) =
          portClock registers ∧ drmDpLinkRateToBwCode (portClock registers) ≠ 0 := by
        rw [portClock]
        split
        · decide
        · decide
      simp only [Bool.false_eq_true, if_false, if_neg hCode.2, hCode.1, true_or]

theorem useRateSelect_capabilities :
    (intelDpSetSinkRates reads dp).useRateSelect = dp.useRateSelect := by
  rw [intelDpSetSinkRates]
  split
  · rfl
  · rfl

theorem edp_of_table (h : UsesTable reads dp) :
    intelEdpSetSinkRates reads dp =
      { dp with
        sinkRates := (listed reads).map (20 * ·.toNat)
        useRateSelect := true } := by
  obtain ⟨hVersion, hSome⟩ := h
  rw [intelEdpSetSinkRates, if_pos hVersion, tableRates_listed, if_pos (by simpa using hSome)]

theorem edp_of_no_table (h : ¬ UsesTable reads dp) :
    intelEdpSetSinkRates reads dp = intelDpSetSinkRates reads { dp with sinkRates := [] } := by
  rw [intelEdpSetSinkRates]
  by_cases hVersion : (dp.edpDpcd 0).toNat ≥ dpEdp14
  · have hNone : listed reads = [] := by
      by_contra hSome
      exact h ⟨hVersion, hSome⟩
    rw [if_pos hVersion, tableRates_listed, hNone]
    rfl
  · rw [if_neg hVersion]
    rfl

/-- The rates and the pair are as they should be just when the rate fits. -/
theorem programmed_edp_iff :
    Programmed (intelEdpSetSinkRates reads dp) (portClock registers) ↔
      RateFits reads dp (portClock registers) := by
  rw [RateFits]
  by_cases hTable : UsesTable reads dp
  · have hMem : portClock registers ∈ (listed reads).map (20 * ·.toNat) ↔
        ∃ entry ∈ listed reads, 20 * entry.toNat = portClock registers := List.mem_map
    rw [edp_of_table reads dp hTable]
    constructor
    · intro ⟨hRates, hDecodes⟩
      have hIn := (decodes_iff _ registers hRates).mp hDecodes
      exact .inl ⟨hTable, (ratesInOrder_table_iff hTable.2).mp hRates,
        hMem.mp (hIn.resolve_left (by simp))⟩
    · rintro (⟨_, hOrder, hIn⟩ | ⟨hNot, _⟩)
      · have hRates := (ratesInOrder_table_iff hTable.2).mpr hOrder
        exact ⟨hRates, (decodes_iff _ registers hRates).mpr (.inr (hMem.mpr hIn))⟩
      · exact absurd hTable hNot
  · rw [edp_of_no_table reads dp hTable]
    have hRates := ratesInOrder_capabilities reads { dp with sinkRates := [] }
    have hDecodes := decodes_iff _ registers hRates
    rw [useRateSelect_capabilities, mem_capabilities_iff] at hDecodes
    constructor
    · intro h
      exact .inr ⟨hTable, hDecodes.mp h.decodes⟩
    · rintro (⟨hUses, _⟩ | ⟨_, hFits⟩)
      · exact absurd hUses hTable
      · exact ⟨hRates, hDecodes.mpr hFits⟩

/-- What `SetupParams` leaves of the driver's rates and of the capabilities of the
repeaters. -/
def cleared (dp : IntelDp) : IntelDp :=
  { dp with lttprCommonCaps := fun _ => 0, sinkRates := [162000] }

/-- After `SetupParams` the rates are in order and the programmed pair decodes to the
clock of the port just when the rate fits; and so it is after the rates were set
with any capabilities of the repeaters. -/
theorem programmed_iff :
    (Programmed (setupParams reads dp) (portClock registers) ↔
        RateFits reads (cleared dp) (portClock registers)) ∧
      (Programmed (intelEdpSetSinkRates reads dp) (portClock registers) ↔
        RateFits reads dp (portClock registers)) :=
  ⟨programmed_edp_iff reads (cleared dp) registers, programmed_edp_iff reads dp registers⟩

end Programming

/-- A panel of eDP 1.4 that lists 2.7, 5.4 and 8.1 Gbit/s. -/
def listsFromHbr : RateReads where
  supported := some ⟨[13500, 27000, 40500, 0, 0, 0, 0, 0], by decide⟩
  garbage := ⟨[0, 0, 0, 0, 0, 0, 0, 0], by decide⟩
  uhbr := none

def edp14 : IntelDp where
  dpcd _ := 0
  edpDpcd _ := 3
  lttprCommonCaps _ := 0
  sinkRates := []
  useRateSelect := false

/-- It is told 2.7 Gbit/s while 1.62 Gbit/s are driven. -/
theorem other_rate_programmed :
    ¬ Programmed (setupParams listsFromHbr edp14) (portClock fun _ => 0x10000) := by
  intro h
  rcases (programmed_edp_iff _ _ _).mp h with ⟨_, _, entry, hMem, hRate⟩ | ⟨hNot, _⟩
  · have hListed : listed listsFromHbr = [13500, 27000, 40500] := by decide
    have hClock : portClock (fun _ => 0x10000) = 162000 := by decide
    rw [hListed] at hMem
    rw [hClock] at hRate
    simp only [List.mem_cons, List.not_mem_nil, or_false] at hMem
    rcases hMem with rfl | rfl | rfl
    · cases hRate
    · cases hRate
    · cases hRate
  · exact hNot ⟨by decide, by decide⟩

end NootedBlue.Link
