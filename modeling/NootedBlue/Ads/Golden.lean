import NootedBlue.Ads.Layout
import NootedBlue.Ads.Masks
import NootedBlue.Semantics.Serial

/-! The golden contexts, one for each class that has engines. The same function
finds out what they take, before there is a blob, and writes their addresses into
the blob. -/
namespace NootedBlue.Ads

open Engines Bits

/-- `round_up` to pages. -/
def roundUp (x : BitVec 32) : Nat := ((x - 1 ||| BitVec.ofNat 32 (pageSize - 1)) + 1).toNat

/-- `GEN7_CXT_SIZE` and `CXT_SIZE`. -/
def gen7CxtSize : Nat := 0x21a8
def cxtSize : Nat := 0x21a0

/-- `GEN7_CXT_TOTAL_SIZE` and `GEN6_CXT_TOTAL_SIZE`. -/
def gen7CxtTotalSize (ctxReg : BitVec 32) : BitVec 32 := Field.get ⟨9, 7⟩ ctxReg + Field.get ⟨0, 6⟩ ctxReg
def gen6CxtTotalSize (cxtReg : BitVec 32) : BitVec 32 :=
  Field.get ⟨18, 6⟩ cxtReg + Field.get ⟨6, 6⟩ cxtReg + Field.get ⟨0, 6⟩ cxtReg

/-- The size of a context of the render engine and of those that share its units. -/
def renderContextSize (gt : Device) : Nat :=
  match gt.graphics.ver with
  | 11 | 12 => 14 * pageSize
  | 9 => 22 * pageSize
  | 8 => 20 * pageSize
  | 7 => if gt.isHaswell then 17 * pageSize else roundUp (gen7CxtTotalSize (gt.deRead gen7CxtSize) * 64)
  | 6 => roundUp (gen6CxtTotalSize (gt.deRead cxtSize) * 64)
  | 4 | 5 => roundUp ((gt.deRead cxtSize + 1) * 64)
  | 1 | 2 | 3 => 0
  | _ => 22 * pageSize

/-- `intel_engine_context_size`. -/
def intelEngineContextSize (gt : Device) : EngineClass → Nat
  | .render | .compute => renderContextSize gt
  | _ => if gt.graphics.ver < 8 then 0 else 2 * pageSize

/-- `LRC_SKIP_SIZE`. -/
def lrcSkipSize : Nat := pageSize + 80 * 4

/-- What `guc_prep_golden_context` uses of a blob that is mapped: its address, the
masks in `system_info`, and the two tables in `ads`. -/
structure GoldenBlob where
  ggttOffset : Nat
  engineEnabledMasks : EnabledMasks
  engStateSize : Nat → Nat
  goldenContextLrca : Nat → Nat

/-- The variables of `guc_prep_golden_context`; there is no blob while it is not
mapped. -/
structure GoldenRun where
  totalSize : Nat
  addrGgtt : Nat
  adsMap : Option GoldenBlob

/-- One round of the loop over the classes. -/
def goldenRound (gt : Device) (infoMap : EnabledMasks) (s : GoldenRun) (classb : EngineClass) : GoldenRun :=
  let gucClass := engineClassToGucClass classb
  if infoMap gucClass = 0 then s
  else
    let realSize := intelEngineContextSize gt classb
    let alloc := pageAlign 32 realSize
    let totalSize := (s.totalSize + alloc) % 2 ^ 32
    match s.adsMap with
    | none => { s with totalSize }
    | some blob => {
        totalSize
        addrGgtt := (s.addrGgtt + alloc) % 2 ^ 32
        adsMap := some { blob with
          engStateSize :=
            Function.update blob.engStateSize gucClass ((realSize + 2 ^ 32 - lrcSkipSize) % 2 ^ 32)
          goldenContextLrca := Function.update blob.goldenContextLrca gucClass s.addrGgtt } }

/-- The masks that `guc_prep_golden_context` goes by, and its first address. -/
def goldenInfo (gt : Device) : Option GoldenBlob → EnabledMasks
  | none => localInfo gt
  | some blob => blob.engineEnabledMasks

def goldenStart (guc : Sizes) : Option GoldenBlob → Nat
  | none => 0
  | some blob => (blob.ggttOffset + guc.gucAdsGoldenCtxtOffset) % 2 ^ 32

/-- `guc_prep_golden_context`. -/
def gucPrepGoldenContext (gt : Device) (guc : Sizes) (adsMap : Option GoldenBlob) : GoldenRun :=
  EngineClass.all.foldl (goldenRound gt (goldenInfo gt adsMap)) ⟨0, goldenStart guc adsMap, adsMap⟩

/-- What the context of a class takes in whole pages. -/
def allocSize (gt : Device) (classb : EngineClass) : Nat := pageAlign 32 (intelEngineContextSize gt classb)

/-- What it takes in the blob; one without engines takes nothing. -/
def goldenAlloc (gt : Device) (infoMap : EnabledMasks) (classb : EngineClass) : Nat :=
  if infoMap (engineClassToGucClass classb) = 0 then 0 else allocSize gt classb

theorem dvd_goldenAlloc (gt : Device) (infoMap : EnabledMasks) (classb : EngineClass) :
    pageSize ∣ goldenAlloc gt infoMap classb := by
  unfold goldenAlloc
  split
  · exact Nat.dvd_zero _
  · exact Nat.dvd_mul_left _ _

section Run

variable {gt : Device} {infoMap : EnabledMasks} {done rest : List EngineClass} {s : GoldenRun}
  {classb : EngineClass}

/-- The total in either pass. -/
theorem totalSize_goldenRound (gt : Device) (infoMap : EnabledMasks) (s : GoldenRun)
    (classb : EngineClass) : (goldenRound gt infoMap s classb).totalSize % 2 ^ 32 =
    (s.totalSize + goldenAlloc gt infoMap classb) % 2 ^ 32 := by
  unfold goldenRound goldenAlloc
  dsimp only
  split
  · rfl
  · cases s.adsMap <;> exact Nat.mod_mod _ _

theorem totalSize_foldl (classes : List EngineClass) (s : GoldenRun) :
    (classes.foldl (goldenRound gt infoMap) s).totalSize % 2 ^ 32 =
      (s.totalSize + Serial.total (goldenAlloc gt infoMap) classes) % 2 ^ 32 := by
  induction classes generalizing s with
  | nil => rfl
  | cons classb rest ih =>
      have hRound := totalSize_goldenRound gt infoMap s classb
      rw [List.foldl_cons, ih, Serial.total_cons]
      omega

/-- The entry of a class in the table of addresses; a class without engines has
none. -/
def goldenEntry (infoMap : EnabledMasks) (classb : EngineClass) : Option Nat :=
  if infoMap (engineClassToGucClass classb) = 0 then none else some (engineClassToGucClass classb)

/-- What the loop does to the address and the table of addresses. -/
def goldenVisit (gt : Device) (infoMap : EnabledMasks) :
    Nat × (Nat → Nat) → EngineClass → Nat × (Nat → Nat) :=
  Serial.visit (2 ^ 32) (goldenEntry infoMap) (allocSize gt) fun _ addr => addr

theorem taken_golden : Serial.taken (goldenEntry infoMap) (allocSize gt) = goldenAlloc gt infoMap := by
  funext classb
  unfold Serial.taken goldenEntry goldenAlloc
  split <;> simp_all

theorem goldenEntry_injective {one two : EngineClass} {gucClass : Nat}
    (hOne : goldenEntry infoMap one = some gucClass) (hTwo : goldenEntry infoMap two = some gucClass) :
    one = two := by
  unfold goldenEntry at hOne hTwo
  split at hOne
  · cases hOne
  · split at hTwo
    · cases hTwo
    · exact engineClassToGucClass_injective _ _ (Option.some.inj (hOne.trans hTwo.symm))

/-- The addresses after the loop. -/
theorem golden_walked (gt : Device) (infoMap : EnabledMasks) (table : Nat → Nat) {start : Nat}
    (hStart : start < 2 ^ 32) :
    Serial.Walked (2 ^ 32) (goldenEntry infoMap) (allocSize gt) (fun _ addr => addr) start table
      EngineClass.all (EngineClass.all.foldl (goldenVisit gt infoMap) (start, table)) :=
  Serial.walked (by decide) hStart fun _ _ _ => goldenEntry_injective

theorem goldenRound_mapped (gt : Device) (infoMap : EnabledMasks) (totalSize addrGgtt : Nat)
    (blob : GoldenBlob) (classb : EngineClass) :
    ∃ totalSize' blob', goldenRound gt infoMap ⟨totalSize, addrGgtt, some blob⟩ classb =
        ⟨totalSize', (goldenVisit gt infoMap (addrGgtt, blob.goldenContextLrca) classb).1, some blob'⟩ ∧
      blob'.goldenContextLrca =
        (goldenVisit gt infoMap (addrGgtt, blob.goldenContextLrca) classb).2 := by
  unfold goldenRound goldenVisit Serial.visit goldenEntry
  by_cases hMask : infoMap (engineClassToGucClass classb) = 0
  · dsimp only
    rw [if_pos hMask, if_pos hMask]
    exact ⟨_, _, rfl, rfl⟩
  · dsimp only
    rw [if_neg hMask, if_neg hMask]
    exact ⟨_, _, rfl, rfl⟩

theorem foldl_goldenRound (classes : List EngineClass) (totalSize addrGgtt : Nat) (blob : GoldenBlob) :
    ∃ blob', (classes.foldl (goldenRound gt infoMap) ⟨totalSize, addrGgtt, some blob⟩).adsMap =
        some blob' ∧
      blob'.goldenContextLrca =
        (classes.foldl (goldenVisit gt infoMap) (addrGgtt, blob.goldenContextLrca)).2 := by
  induction classes generalizing totalSize addrGgtt blob with
  | nil => exact ⟨blob, rfl, rfl⟩
  | cons classb rest ih =>
      obtain ⟨totalSize', next, hRound, hTable⟩ :=
        goldenRound_mapped gt infoMap totalSize addrGgtt blob classb
      obtain ⟨last, hLast, hRest⟩ := ih totalSize'
        (goldenVisit gt infoMap (addrGgtt, blob.goldenContextLrca) classb).1 next
      rw [List.foldl_cons, List.foldl_cons, hRound]
      refine ⟨last, hLast, hRest.trans ?_⟩
      rw [hTable]

end Run

/-- Where the context of a class starts in the region. -/
def goldenPlace (gt : Device) (infoMap : EnabledMasks) (classb : EngineClass) : Nat :=
  Serial.before (goldenAlloc gt infoMap) EngineClass.all classb

/-- The addresses in the blob lead to stretches that fill the region, one for each
class with engines, and the other addresses are as before. -/
structure GoldenTiled (gt : Device) (guc : Sizes) (first after : GoldenBlob) : Prop where
  addresses : ∀ classb, first.engineEnabledMasks (engineClassToGucClass classb) ≠ 0 →
    after.goldenContextLrca (engineClassToGucClass classb) = (first.ggttOffset +
      (guc.gucAdsGoldenCtxtOffset + goldenPlace gt first.engineEnabledMasks classb)) % 2 ^ 32
  others : ∀ gucClass, (∀ classb, first.engineEnabledMasks (engineClassToGucClass classb) ≠ 0 →
      engineClassToGucClass classb ≠ gucClass) →
    after.goldenContextLrca gucClass = first.goldenContextLrca gucClass
  inside : ∀ classb, goldenPlace gt first.engineEnabledMasks classb +
    goldenAlloc gt first.engineEnabledMasks classb ≤ guc.gucAdsGoldenCtxtSize
  disjoint : ∀ one two, one ≠ two →
    goldenPlace gt first.engineEnabledMasks one + goldenAlloc gt first.engineEnabledMasks one ≤
        goldenPlace gt first.engineEnabledMasks two ∨
      goldenPlace gt first.engineEnabledMasks two + goldenAlloc gt first.engineEnabledMasks two ≤
        goldenPlace gt first.engineEnabledMasks one
  covered : ∀ position < guc.gucAdsGoldenCtxtSize, ∃ classb,
    first.engineEnabledMasks (engineClassToGucClass classb) ≠ 0 ∧
      goldenPlace gt first.engineEnabledMasks classb ≤ position ∧
      position < goldenPlace gt first.engineEnabledMasks classb +
        goldenAlloc gt first.engineEnabledMasks classb

/-- What the golden contexts need, without a bound on the numbers. -/
def goldenNeeded (gt : Device) : Nat := Serial.total (goldenAlloc gt (localInfo gt)) EngineClass.all

section Passes

variable {gt : Device} {guc : Sizes} {infoMap : EnabledMasks}

theorem mem_all (classb : EngineClass) : classb ∈ EngineClass.all := by
  cases classb <;> decide

theorem goldenAlloc_congr (h : HoldsMasks gt infoMap) (classb : EngineClass) :
    goldenAlloc gt infoMap classb = goldenAlloc gt (localInfo gt) classb := by
  unfold goldenAlloc
  rw [h classb]

theorem totalSize_lt (gt : Device) (guc : Sizes) (adsMap : Option GoldenBlob) :
    (gucPrepGoldenContext gt guc adsMap).totalSize < 2 ^ 32 := by
  unfold gucPrepGoldenContext
  refine List.foldlRecOn (motive := fun s : GoldenRun => s.totalSize < 2 ^ 32) _ _
    (Nat.two_pow_pos 32) ?_
  intro s hLt classb _
  unfold goldenRound
  dsimp only
  split
  · exact hLt
  · cases s.adsMap <;> exact Nat.mod_lt _ (by decide)

/-- The total of either pass, as far as it fits. -/
theorem gucPrepGoldenContext_totalSize (hFits : goldenNeeded gt < 2 ^ 32) (guc : Sizes)
    (adsMap : Option GoldenBlob) (hHolds : HoldsMasks gt (goldenInfo gt adsMap)) :
    (gucPrepGoldenContext gt guc adsMap).totalSize = goldenNeeded gt := by
  have hTotal : (gucPrepGoldenContext gt guc adsMap).totalSize % 2 ^ 32 = _ :=
    totalSize_foldl EngineClass.all ⟨0, goldenStart guc adsMap, adsMap⟩
  have hLt := totalSize_lt gt guc adsMap
  rw [Serial.total_congr fun classb _ => goldenAlloc_congr hHolds classb, Nat.zero_add] at hTotal
  rw [Nat.mod_eq_of_lt hLt] at hTotal
  exact hTotal.trans (Nat.mod_eq_of_lt hFits)

/-- The pass over a blob that holds the masks, in a layout by the sizes of the
pass before. -/
theorem goldenTiled (hFits : goldenNeeded gt < 2 ^ 32)
    (hSize : guc.adsGoldenCtxtSize = (gucPrepGoldenContext gt guc none).totalSize)
    {first : GoldenBlob} (hHolds : HoldsMasks gt first.engineEnabledMasks) :
    ∃ after, (gucPrepGoldenContext gt guc (some first)).adsMap = some after ∧
      GoldenTiled gt guc first after := by
  have walked := golden_walked gt first.engineEnabledMasks first.goldenContextLrca
    (show goldenStart guc (some first) < 2 ^ 32 from Nat.mod_lt _ (Nat.two_pow_pos 32))
  obtain ⟨after, hRun, hTable⟩ :=
    foldl_goldenRound EngineClass.all 0 (goldenStart guc (some first)) first
  have hNeeded : Serial.total (goldenAlloc gt first.engineEnabledMasks) EngineClass.all =
      goldenNeeded gt := Serial.total_congr fun classb _ => goldenAlloc_congr hHolds classb
  have hRegion : guc.gucAdsGoldenCtxtSize = goldenNeeded gt := by
    have hDvd : pageSize ∣ goldenNeeded gt := Serial.dvd_total fun classb _ => dvd_goldenAlloc gt _ classb
    unfold Sizes.gucAdsGoldenCtxtSize
    rw [hSize, gucPrepGoldenContext_totalSize hFits guc none fun _ => rfl,
      pageAlign_eq (by decide) ((pages_of_dvd hDvd).symm ▸ hFits), pages_of_dvd hDvd]
  refine ⟨after, hRun, ?_, ?_, ?_, ?_, ?_⟩
  · intro classb hEnabled
    rw [hTable]
    have hEntry := walked.entries classb (mem_all classb) _ (if_neg hEnabled)
    rw [taken_golden] at hEntry
    refine hEntry.trans ?_
    show ((first.ggttOffset + guc.gucAdsGoldenCtxtOffset) % 2 ^ 32 + _) % 2 ^ 32 = _
    rw [goldenPlace]
    omega
  · intro gucClass hOthers
    rw [hTable]
    refine walked.others gucClass fun classb _ hEntry => ?_
    unfold goldenEntry at hEntry
    split at hEntry
    · cases hEntry
    · next hEnabled => exact hOthers classb hEnabled (Option.some.inj hEntry)
  · intro classb
    rw [hRegion, ← hNeeded]
    exact Serial.before_add_size_le (mem_all classb)
  · intro one two hNe
    exact Serial.disjoint (mem_all one) (mem_all two) hNe
  · intro position hPosition
    rw [hRegion, ← hNeeded] at hPosition
    obtain ⟨classb, -, hLe, hLt⟩ := Serial.covered (by decide) hPosition
    refine ⟨classb, fun hNone => ?_, hLe, hLt⟩
    have hAlloc : goldenAlloc gt first.engineEnabledMasks classb = 0 := if_pos hNone
    omega

end Passes

end NootedBlue.Ads
