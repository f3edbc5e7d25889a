import NootedBlue.Ads.Golden
import NootedBlue.Ads.Regset

/-! The register sets in the blob: a copy of the storage, and for each engine the
address of its section and the number of registers in it, which has 16 bits. -/
namespace NootedBlue.Ads

open Engines Bits Bytes

/-- `struct guc_mmio_reg_set`. -/
structure MmioRegSet where
  address : Nat
  count : Nat
  deriving DecidableEq

/-- What `guc_mmio_reg_state_init` uses of the blob: its address, the table
`reg_state_list` of `ads`, and its bytes. -/
structure RegBlob where
  ggttOffset : Nat
  regStateList : Nat × Nat → MmioRegSet
  memory : Memory

/-- The entry of an engine in `reg_state_list`. -/
def regEntry (engines : EngineSet) (id2 : EngineId) : Option (Nat × Nat) :=
  (engines.engine id2).map fun e => (engineClassToGucClass e.classb, e.instanceb)

/-- One round of `for_each_engine`: the address of the next section and the table. -/
def regStateRound (engines : EngineSet) (adsRegsetCount : EngineId → Nat)
    (s : Nat × (Nat × Nat → MmioRegSet)) (id2 : EngineId) : Nat × (Nat × Nat → MmioRegSet) :=
  match regEntry engines id2 with
  | none => s
  | some entry =>
      let count := adsRegsetCount id2
      if count = 0 then (s.1, Function.update s.2 entry ⟨0, 0⟩)
      else ((s.1 + count * mmioRegSize) % 2 ^ 32, Function.update s.2 entry ⟨s.1, count % 2 ^ 16⟩)

/-- The address of the register sets. -/
def regStateStart (ggttOffset : Nat) : Nat := (ggttOffset + Sizes.gucAdsRegsetOffset) % 2 ^ 32

/-- `guc_mmio_reg_state_init`. -/
def gucMmioRegStateInit (engines : EngineSet) (guc : Sizes) (adsRegset : List MmioReg)
    (adsRegsetCount : EngineId → Nat) (blob : RegBlob) : RegBlob :=
  { blob with
    regStateList := ((List.finRange i915NumEngines).foldl (regStateRound engines adsRegsetCount)
      (regStateStart blob.ggttOffset, blob.regStateList)).2
    memory := copy blob.memory Sizes.gucAdsRegsetOffset
      ((adsRegset.flatMap MmioReg.bytes).take guc.adsRegsetSize) }

/-- What the section of an engine takes; one that is not there takes nothing. -/
def sliceSize (engines : EngineSet) (adsRegsetCount : EngineId → Nat) (id2 : EngineId) : Nat :=
  if (engines.engine id2).isSome then adsRegsetCount id2 * mmioRegSize else 0

/-- Where it starts behind the first one. -/
def slicePlace (engines : EngineSet) (adsRegsetCount : EngineId → Nat) (id2 : EngineId) : Nat :=
  Serial.before (sliceSize engines adsRegsetCount) (List.finRange i915NumEngines) id2

/-- What the sections of all engines take. -/
def sliceTotal (engines : EngineSet) (adsRegsetCount : EngineId → Nat) : Nat :=
  Serial.total (sliceSize engines adsRegsetCount) (List.finRange i915NumEngines)

/-- The entries of the engines lead to stretches of a region of some size that fill
it, one for each engine, and the other entries are as before. -/
structure Sliced (engines : EngineSet) (adsRegsetCount : EngineId → Nat) (size : Nat)
    (first after : RegBlob) : Prop where
  entries : ∀ id2 entry, regEntry engines id2 = some entry →
    after.regStateList entry =
      if adsRegsetCount id2 = 0 then ⟨0, 0⟩
      else ⟨(first.ggttOffset + (Sizes.gucAdsRegsetOffset + slicePlace engines adsRegsetCount id2)) %
        2 ^ 32, adsRegsetCount id2⟩
  others : ∀ entry, (∀ id2, regEntry engines id2 ≠ some entry) →
    after.regStateList entry = first.regStateList entry
  inside : ∀ id2, slicePlace engines adsRegsetCount id2 + sliceSize engines adsRegsetCount id2 ≤ size
  disjoint : ∀ one other, one ≠ other →
    slicePlace engines adsRegsetCount one + sliceSize engines adsRegsetCount one ≤
        slicePlace engines adsRegsetCount other ∨
      slicePlace engines adsRegsetCount other + sliceSize engines adsRegsetCount other ≤
        slicePlace engines adsRegsetCount one
  covered : ∀ position < size, ∃ id2, (engines.engine id2).isSome ∧
    slicePlace engines adsRegsetCount id2 ≤ position ∧
    position < slicePlace engines adsRegsetCount id2 + sliceSize engines adsRegsetCount id2

section Slices

variable {engines : EngineSet} {adsRegsetCount : EngineId → Nat} {guc : Sizes}

theorem regEntry_injective {one other : EngineId} {entry : Nat × Nat}
    (hOne : regEntry engines one = some entry) (hOther : regEntry engines other = some entry) :
    one = other := by
  obtain ⟨e, hEngine, hEntry⟩ := Option.map_eq_some_iff.mp hOne
  obtain ⟨e', hEngine', hEntry'⟩ := Option.map_eq_some_iff.mp hOther
  exact engines.place_injective hEngine hEngine' (hEntry.trans hEntry'.symm)

theorem taken_regEntry : Serial.taken (regEntry engines) (fun id2 => adsRegsetCount id2 * mmioRegSize) =
    sliceSize engines adsRegsetCount := by
  funext id2
  unfold Serial.taken regEntry sliceSize
  rw [Option.isSome_map]

/-- What the loop stores for an engine. -/
def sliceEntry (adsRegsetCount : EngineId → Nat) (id2 : EngineId) (addr : Nat) : MmioRegSet :=
  if adsRegsetCount id2 = 0 then ⟨0, 0⟩ else ⟨addr, adsRegsetCount id2 % 2 ^ 16⟩

theorem regStateRound_eq {s : Nat × (Nat × Nat → MmioRegSet)} (hAddr : s.1 < 2 ^ 32) (id2 : EngineId) :
    regStateRound engines adsRegsetCount s id2 =
      Serial.visit (2 ^ 32) (regEntry engines) (fun id2 => adsRegsetCount id2 * mmioRegSize)
        (sliceEntry adsRegsetCount) s id2 := by
  unfold regStateRound Serial.visit sliceEntry
  cases regEntry engines id2 with
  | none => rfl
  | some entry =>
      dsimp only
      by_cases hCount : adsRegsetCount id2 = 0
      · rw [if_pos hCount, if_pos hCount, hCount, Nat.zero_mul, Nat.add_zero, Nat.mod_eq_of_lt hAddr]
      · rw [if_neg hCount, if_neg hCount]

theorem foldl_regStateRound (ids : List EngineId) {s : Nat × (Nat × Nat → MmioRegSet)}
    (hAddr : s.1 < 2 ^ 32) :
    ids.foldl (regStateRound engines adsRegsetCount) s =
      ids.foldl (Serial.visit (2 ^ 32) (regEntry engines) (fun id2 => adsRegsetCount id2 * mmioRegSize)
        (sliceEntry adsRegsetCount)) s := by
  induction ids generalizing s with
  | nil => rfl
  | cons id2 rest ih =>
      rw [List.foldl_cons, List.foldl_cons, regStateRound_eq hAddr]
      apply ih
      unfold Serial.visit
      cases regEntry engines id2 with
      | none => exact hAddr
      | some entry => exact Nat.mod_lt _ (Nat.two_pow_pos 32)

/-- The table for any numbers of registers, as long as they fit the entries. -/
theorem sliced (hCounts : ∀ id2, (engines.engine id2).isSome → adsRegsetCount id2 < 2 ^ 16)
    (adsRegset : List MmioReg)
    (hSize : guc.adsRegsetSize = sliceTotal engines adsRegsetCount) (first : RegBlob) :
    Sliced engines adsRegsetCount guc.gucAdsRegsetSize first
      (gucMmioRegStateInit engines guc adsRegset adsRegsetCount first) := by
  have hStart : regStateStart first.ggttOffset < 2 ^ 32 := Nat.mod_lt _ (Nat.two_pow_pos 32)
  have walked : Serial.Walked (2 ^ 32) (regEntry engines) (fun id2 => adsRegsetCount id2 * mmioRegSize)
      (sliceEntry adsRegsetCount) (regStateStart first.ggttOffset) first.regStateList
      (List.finRange i915NumEngines) _ :=
    Serial.walked (List.nodup_finRange _) hStart fun _ _ _ => regEntry_injective
  rw [← foldl_regStateRound (s := (regStateStart first.ggttOffset, first.regStateList)) _ hStart] at walked
  refine ⟨?_, ?_, ?_, ?_, ?_⟩
  · intro id2 entry hEntry
    refine (walked.entries id2 (List.mem_finRange id2) entry hEntry).trans ?_
    obtain ⟨e, hEngine, -⟩ := Option.map_eq_some_iff.mp hEntry
    rw [taken_regEntry, sliceEntry, Nat.mod_eq_of_lt (hCounts id2 (Option.isSome_of_eq_some hEngine))]
    unfold regStateStart slicePlace
    rw [Nat.mod_add_mod, Nat.add_assoc]
  · intro entry hOthers
    exact walked.others entry fun id2 _ => hOthers id2
  · intro id2
    unfold Sizes.gucAdsRegsetSize
    rw [hSize]
    exact Serial.before_add_size_le (List.mem_finRange id2)
  · intro one other hNe
    exact Serial.disjoint (List.mem_finRange one) (List.mem_finRange other) hNe
  · intro position hPosition
    unfold Sizes.gucAdsRegsetSize at hPosition
    rw [hSize] at hPosition
    obtain ⟨id2, -, hLe, hLt⟩ := Serial.covered (List.nodup_finRange _) hPosition
    refine ⟨id2, ?_, hLe, hLt⟩
    by_contra hNone
    have hTakes : sliceSize engines adsRegsetCount id2 = 0 := if_neg hNone
    omega

end Slices

section Contents

variable {gt : Device} {steering : Steering} {regs : EngineId → EngineRegs}
  {adsRegsetCount : EngineId → Nat}

/-- The numbers are those of the registers that were collected. -/
def Counts (gt : Device) (steering : Steering) (regs : EngineId → EngineRegs)
    (adsRegsetCount : EngineId → Nat) : Prop :=
  ∀ id2, (gt.engines.engine id2).isSome →
    adsRegsetCount id2 = (engineSection gt steering regs id2).length

theorem sliceSize_eq (hCounts : Counts gt steering regs adsRegsetCount) (id2 : EngineId) :
    sliceSize gt.engines adsRegsetCount id2 =
      ((engineSection gt steering regs id2).flatMap MmioReg.bytes).length := by
  rw [length_flatMap_bytes, Nat.mul_comm]
  unfold sliceSize
  cases hEngine : gt.engines.engine id2 with
  | none =>
      unfold engineSection
      rw [hEngine]
      rfl
  | some e =>
      rw [hCounts id2 (Option.isSome_of_eq_some hEngine)]
      rfl

/-- The sections together are as large as the storage. -/
theorem sliceTotal_eq (hCounts : Counts gt steering regs adsRegsetCount) :
    sliceTotal gt.engines adsRegsetCount = (((List.finRange i915NumEngines).flatMap
      (engineSection gt steering regs)).flatMap MmioReg.bytes).length := by
  rw [List.flatMap_assoc, List.length_flatMap]
  exact Serial.total_congr fun id2 _ => sliceSize_eq hCounts id2

/-- The stretch of an engine holds its own registers. -/
theorem stored_section {memory : Memory} {offset : Nat} (hCounts : Counts gt steering regs adsRegsetCount)
    (hStored : Stored memory offset (((List.finRange i915NumEngines).flatMap
      (engineSection gt steering regs)).flatMap MmioReg.bytes)) (id2 : EngineId) :
    Stored memory (offset + slicePlace gt.engines adsRegsetCount id2)
      ((engineSection gt steering regs id2).flatMap MmioReg.bytes) := by
  obtain ⟨done, rest, hSplit⟩ := List.append_of_mem (List.mem_finRange id2)
  have hNodup := List.nodup_finRange i915NumEngines
  rw [hSplit] at hNodup
  have hNew : id2 ∉ done := fun hMem =>
    (List.nodup_append.mp hNodup).2.2 id2 hMem id2 List.mem_cons_self rfl
  rw [List.flatMap_assoc, hSplit] at hStored
  have hPlace : slicePlace gt.engines adsRegsetCount id2 = (done.map fun id2 =>
      ((engineSection gt steering regs id2).flatMap MmioReg.bytes).length).sum := by
    unfold slicePlace
    rw [hSplit, Serial.before_append_cons hNew]
    exact Serial.total_congr fun other _ => sliceSize_eq hCounts other
  rw [hPlace]
  exact stored_flatMap hStored

end Contents

/-- The blob: the regions by their functions, the golden contexts in theirs, and
the register sets in theirs. -/
theorem ads_layout :
    (∀ guc : Sizes, guc.needed < 2 ^ 32 → guc.Ordered) ∧
    (∀ (gt : Device) (guc : Sizes) (first : GoldenBlob), goldenNeeded gt < 2 ^ 32 →
      guc.adsGoldenCtxtSize = (gucPrepGoldenContext gt guc none).totalSize →
      HoldsMasks gt first.engineEnabledMasks →
      (gucPrepGoldenContext gt guc (some first)).totalSize =
          (gucPrepGoldenContext gt guc none).totalSize ∧
        ∃ after, (gucPrepGoldenContext gt guc (some first)).adsMap = some after ∧
          GoldenTiled gt guc first after) ∧
    (∀ (engines : EngineSet) (adsRegset : List MmioReg) (adsRegsetCount : EngineId → Nat) (guc : Sizes)
      (first : RegBlob), guc.adsRegsetSize = sliceTotal engines adsRegsetCount →
      (∀ id2, (engines.engine id2).isSome → adsRegsetCount id2 < 2 ^ 16) →
      Sliced engines adsRegsetCount guc.gucAdsRegsetSize first
        (gucMmioRegStateInit engines guc adsRegset adsRegsetCount first)) ∧
    ∀ ioMalloc gt steering regs before adsRegset adsRegsetCount size,
      gucMmioRegStateCreate ioMalloc gt steering regs before = .ok (adsRegset, adsRegsetCount, size) →
      size = sliceTotal gt.engines adsRegsetCount ∧
      ∀ (guc : Sizes) (first : RegBlob), guc.adsRegsetSize = size →
        ∀ id2, (gt.engines.engine id2).isSome → ∃ registers,
          registers.length = adsRegsetCount id2 ∧
          HoldsRequests (regsetRequests gt steering (regs id2)) registers ∧
          Stored (gucMmioRegStateInit gt.engines guc adsRegset adsRegsetCount first).memory
            (Sizes.gucAdsRegsetOffset + slicePlace gt.engines adsRegsetCount id2)
            (registers.flatMap MmioReg.bytes) := by
  refine ⟨fun guc h => (placed h).ordered, ?_, ?_, ?_⟩
  · intro gt guc first hFits hSize hHolds
    refine ⟨?_, goldenTiled hFits hSize hHolds⟩
    rw [gucPrepGoldenContext_totalSize hFits guc (some first) hHolds,
      gucPrepGoldenContext_totalSize hFits guc none fun _ => rfl]
  · intro engines adsRegset adsRegsetCount guc first hSize hCounts
    exact sliced hCounts adsRegset hSize first
  · intro ioMalloc gt steering regs before adsRegset adsRegsetCount size hCreate
    obtain ⟨rfl, hCounts, rfl⟩ := gucMmioRegStateCreate_ok hCreate
    have hBytes := length_flatMap_bytes
      ((List.finRange i915NumEngines).flatMap (engineSection gt steering regs))
    refine ⟨?_, ?_⟩
    · rw [sliceTotal_eq hCounts, hBytes, Nat.mul_comm]
    · intro guc first hSize id2 hSome
      refine ⟨engineSection gt steering regs id2, (hCounts id2 hSome).symm, ?_, ?_⟩
      · unfold engineSection
        cases hEngine : gt.engines.engine id2 with
        | none =>
            rw [hEngine] at hSome
            cases hSome
        | some e => exact holds_sectionOf _
      · refine stored_section hCounts ?_ id2
        unfold gucMmioRegStateInit
        dsimp only
        rw [hSize, Nat.mul_comm, ← hBytes, List.take_length]
        exact stored_copy _ _ _

/-- A device with the render engine only. -/
def renderOnly : EngineSet where
  engine := fun id2 => if id2 = ⟨rcs0, by decide⟩ then some (.build ⟨rcs0, by decide⟩ 0) else none
  hBuilt := by
    intro id2 e hEngine
    split at hEngine
    · next hSame =>
        cases hEngine
        rw [hSame]
        exact ⟨rfl, rfl⟩
    · cases hEngine

def renderDevice : Device := ⟨renderOnly, 1, ⟨12, 0⟩, false, fun _ => 0⟩

/-- A device with the render engine, the copy engine, two engines that decode and one that
enhances video. -/
def mediaEngines : EngineSet where
  engine := fun id2 =>
    if id2.val ∈ [rcs0, bcs0, vcs0, vcs0 + 2, vecs0] then some (.build id2 0) else none
  hBuilt := by
    intro id2 e hEngine
    split at hEngine
    · cases hEngine
      exact ⟨rfl, rfl⟩
    · cases hEngine

def mediaDevice : Device := ⟨mediaEngines, 0x41403, ⟨12, 0⟩, false, fun _ => 0⟩

/-- The render engine has a workaround, too. -/
def mediaRegs (id2 : EngineId) : EngineRegs :=
  ⟨0x2000 + .ofNat 32 (0x1000 * id2.val), id2.val = rcs0,
    if id2.val = rcs0 then [Wa.waWriteOr false 0x9424 1] else []⟩

def mediaSizes : Sizes := ⟨271 * mmioRegSize, 20 * pageSize, pageSize, pageSize, 0⟩

theorem media_layout :
    mediaSizes.Ordered ∧
      (∃ after, (gucPrepGoldenContext mediaDevice mediaSizes
          (some ⟨0, localInfo mediaDevice, fun _ => 0, fun _ => 0⟩)).adsMap = some after ∧
        GoldenTiled mediaDevice mediaSizes ⟨0, localInfo mediaDevice, fun _ => 0, fun _ => 0⟩ after) ∧
      ∃ adsRegset adsRegsetCount, gucMmioRegStateCreate (fun _ => true) mediaDevice (fun _ => (0, 0))
          mediaRegs (fun _ => 0) = .ok (adsRegset, adsRegsetCount, 271 * mmioRegSize) ∧
        271 * mmioRegSize = sliceTotal mediaEngines adsRegsetCount := by
  refine ⟨ads_layout.1 mediaSizes (by decide), ?_, ?_⟩
  · exact (ads_layout.2.1 mediaDevice mediaSizes _ (by decide +kernel) (by decide +kernel)
      fun _ => rfl).2
  · have hSize : (gucMmioRegStateCreate (fun _ => true) mediaDevice (fun _ => (0, 0)) mediaRegs
        (fun _ => 0)).toOption.map (·.2.2) = some (271 * mmioRegSize) := by decide +kernel
    cases hCreate : gucMmioRegStateCreate (fun _ => true) mediaDevice (fun _ => (0, 0)) mediaRegs
        (fun _ => 0) with
    | error e =>
        rw [hCreate] at hSize
        cases hSize
    | ok result =>
        obtain ⟨adsRegset, adsRegsetCount, size⟩ := result
        rw [hCreate] at hSize
        cases hSize
        exact ⟨adsRegset, adsRegsetCount, rfl,
          (ads_layout.2.2.2 _ mediaDevice _ _ _ _ _ _ hCreate).1⟩

/-- Sizes whose sum is 2³², so that the size of the blob wraps around, and an engine
with 2¹⁶ registers, whose entry says that it has none. -/
theorem ads_layout_limits :
    (Sizes.needed ⟨0, 0, 0, 0, 0xFFFFA000⟩ = 2 ^ 32 ∧ ¬ Sizes.Ordered ⟨0, 0, 0, 0, 0xFFFFA000⟩) ∧
      ¬ Sliced renderOnly (fun _ => 2 ^ 16) (2 ^ 16 * mmioRegSize) ⟨0, fun _ => ⟨0, 0⟩, fun _ => 0⟩
        (gucMmioRegStateInit renderOnly ⟨2 ^ 16 * mmioRegSize, 0, 0, 0, 0⟩ [] (fun _ => 2 ^ 16)
          ⟨0, fun _ => ⟨0, 0⟩, fun _ => 0⟩) := by
  refine ⟨⟨by decide, fun ordered => ?_⟩, fun sliced => ?_⟩
  · exact absurd (ordered.last _ rfl) (by decide)
  · exact absurd (sliced.entries ⟨rcs0, by decide⟩ (0, 0) rfl) (by decide)

end NootedBlue.Ads
