import NootedBlue.Engines.LogicalIds
import NootedBlue.Semantics.Writes

/-! The engines as they are set up, and the table that tells the GuC which
instance a logical number stands for. The number of an engine is kept as a mask
with one bit. -/
namespace NootedBlue.Engines

/-- The part of `struct intel_engine_cs` that says what an engine is. -/
structure Engine where
  id2 : EngineId
  mask : BitVec 32
  classb : EngineClass
  instanceb : Nat
  logicalMask : BitVec 32

/-- The engines of `struct intel_gt`, by their identifiers, and by their class
and instance. -/
structure Gt where
  engine : EngineId → Option Engine
  engineClass : EngineClass × Nat → Option Engine

namespace Gt

/-- No engine is there yet. The driver takes its memory for cleared: it writes only the
entries of the engines that it sets up. -/
def empty : Gt := ⟨fun _ => none, fun _ => none⟩

end Gt

def einval : Int := -22
def enomem : Int := -12

/-- The engine that `intel_engine_setup` builds. -/
def Engine.build (id2 : EngineId) (logicalInstance : Nat) : Engine where
  id2
  mask := .twoPow 32 id2
  classb := (intelEngines id2).classb
  instanceb := (intelEngines id2).instanceb
  logicalMask := .twoPow 32 logicalInstance

/-- `intel_engine_setup`, as far as the tables of engines go. The identifier
and the class are in range by their types. -/
def intelEngineSetup (allocates : EngineId → Bool) (gt : Gt) (id2 : EngineId) (logicalInstance : Nat) :
    Except Int Gt :=
  let info := intelEngines id2
  if info.instanceb > maxEngineInstance then .error einval
  else if (gt.engineClass (info.classb, info.instanceb)).isSome then .error einval
  else if !allocates id2 then .error enomem
  else
    let engine := Engine.build id2 logicalInstance
    .ok {
      engine := Function.update gt.engine id2 (some engine)
      engineClass := Function.update gt.engineClass (info.classb, info.instanceb) (some engine) }

/-- What the loops of `intel_engines_init_mmio` work on. -/
structure InitState where
  gt : Gt
  mask : BitVec 32
  logicalIds : Nat → Nat

/-- One round of the loop over the engines of a class. -/
def engineRound (allocates : EngineId → Bool) (engineMask : BitVec 32) (classb : EngineClass)
    (s : InitState) (id2 : EngineId) : Except Int InitState :=
  if (intelEngines id2).classb ≠ classb ∨ !hasEngine engineMask id2 then .ok s
  else do
    let gt ← intelEngineSetup allocates s.gt id2 (s.logicalIds (intelEngines id2).instanceb)
    return { s with gt, mask := s.mask ||| .twoPow 32 id2 }

/-- One round of the loop over the classes. -/
def classRound (allocates : EngineId → Bool) (mediaVer : Nat) (engineMask : BitVec 32)
    (s : InitState) (classb : EngineClass) : Except Int InitState :=
  (List.finRange i915NumEngines).foldlM (engineRound allocates engineMask classb)
    { s with logicalIds := setupLogicalIds mediaVer engineMask s.logicalIds classb }

/-- `intel_engines_init_mmio`, with the mask that `init_engine_mask` leaves. The
array of the logical numbers starts with what the stack held. -/
def intelEnginesInitMmio (allocates : EngineId → Bool) (mediaVer : Nat) (engineMask : BitVec 32)
    (stack : Nat → Nat) (gt : Gt) : Except Int (Gt × BitVec 32) := do
  let last ← EngineClass.all.foldlM (classRound allocates mediaVer engineMask) ⟨gt, 0, stack⟩
  return (last.gt, last.mask)

def gucMaxEngineClasses : Nat := 16
def gucMaxInstancesPerClass : Nat := 32

/-- `engine_class_to_guc_class`: render, video, video enhancement, blitter,
compute and others of the GuC. -/
def engineClassToGucClass : EngineClass → Nat
  | .render => 0
  | .videoDecode => 1
  | .videoEnhancement => 2
  | .copyEngine => 3
  | .other => 5
  | .compute => 4

/-- `ilog2`. -/
def ilog2 (n : BitVec 32) : Nat := n.toNat.log2

/-- The entry of `mapping_table` for an engine. -/
def Engine.entry (engine : Engine) : Nat × Nat :=
  (engineClassToGucClass engine.classb, ilog2 engine.logicalMask)

/-- The first loops of `guc_mapping_table_init`: no entry stands for an instance. -/
def mappingClears : List (Writes.Write (Nat × Nat) Nat) :=
  (List.range gucMaxEngineClasses).flatMap fun i =>
    (List.range gucMaxInstancesPerClass).map fun j => ((i, j), gucMaxInstancesPerClass)

/-- Its last loop, `for_each_engine`. -/
def mappingWrites (engine : EngineId → Option Engine) : List (Writes.Write (Nat × Nat) Nat) :=
  (List.finRange i915NumEngines).filterMap fun id2 =>
    (engine id2).map fun engine => (engine.entry, engine.instanceb)

/-- `guc_mapping_table_init`. -/
def gucMappingTableInit (engine : EngineId → Option Engine) (table : Nat × Nat → Nat) : Nat × Nat → Nat :=
  Writes.perform (mappingClears ++ mappingWrites engine) table

section Table

variable {engine : EngineId → Option Engine} {table : Nat × Nat → Nat}

theorem mem_mappingWrites {write : Writes.Write (Nat × Nat) Nat} :
    write ∈ mappingWrites engine ↔
      ∃ id2 e, engine id2 = some e ∧ write = (e.entry, e.instanceb) := by
  simp only [mappingWrites, List.mem_filterMap, List.mem_finRange, true_and, Option.map_eq_some_iff,
    @eq_comm _ _ write]

/-- Whichever engines there are, an entry that is theirs alone holds their
instance. -/
theorem gucMappingTableInit_of_engine {id2 : EngineId} {e : Engine} (hEngine : engine id2 = some e)
    (hAlone : ∀ other e', engine other = some e' → e'.entry = e.entry → e'.instanceb = e.instanceb) :
    gucMappingTableInit engine table e.entry = e.instanceb := by
  unfold gucMappingTableInit
  rw [Writes.perform_append]
  refine Writes.perform_of_agree (mem_mappingWrites.mpr ⟨id2, e, hEngine, rfl⟩) fun write hWrite hEntry => ?_
  obtain ⟨other, e', hOther, rfl⟩ := mem_mappingWrites.mp hWrite
  exact hAlone other e' hOther hEntry

/-- Every other entry says that there is no instance. -/
theorem gucMappingTableInit_of_none {i j : Nat} (hClass : i < gucMaxEngineClasses)
    (hInstance : j < gucMaxInstancesPerClass)
    (hNone : ∀ id2 e, engine id2 = some e → e.entry ≠ (i, j)) :
    gucMappingTableInit engine table (i, j) = gucMaxInstancesPerClass := by
  unfold gucMappingTableInit
  rw [Writes.perform_append, Writes.perform_of_untouched]
  · have hMem : ((i, j), gucMaxInstancesPerClass) ∈ mappingClears := by
      refine List.mem_flatMap.mpr ⟨i, List.mem_range.mpr hClass, ?_⟩
      exact List.mem_map.mpr ⟨j, List.mem_range.mpr hInstance, rfl⟩
    refine Writes.perform_of_agree hMem fun write hWrite _ => ?_
    obtain ⟨i', -, hRow⟩ := List.mem_flatMap.mp hWrite
    obtain ⟨j', -, rfl⟩ := List.mem_map.mp hRow
    rfl
  · intro write hWrite
    obtain ⟨id2, e, hEngine, rfl⟩ := mem_mappingWrites.mp hWrite
    exact hNone id2 e hEngine

end Table

section Init

variable (allocates : EngineId → Bool) {mediaVer : Nat} {engineMask : BitVec 32} {classb : EngineClass}
  {done : EngineId → Prop} {s : InitState}

/-- The engine that an identifier gets, by the numbers of its class. -/
def numberedEngine (mediaVer : Nat) (engineMask : BitVec 32) (id2 : EngineId) : Engine :=
  .build id2 (logicalId mediaVer engineMask (intelEngines id2).classb (intelEngines id2).instanceb)

/-- The engines that have been set up are the ones of a kind. -/
structure SetUp (mediaVer : Nat) (engineMask : BitVec 32) (done : EngineId → Prop) (s : InitState) :
    Prop where
  engine : ∀ id2, done id2 → s.gt.engine id2 = some (numberedEngine mediaVer engineMask id2)
  noEngine : ∀ id2, ¬ done id2 → s.gt.engine id2 = none
  engineClass : ∀ info, (s.gt.engineClass info).isSome →
    ∃ id2, done id2 ∧ ((intelEngines id2).classb, (intelEngines id2).instanceb) = info
  mask : ∀ i, s.mask.getLsbD i = true ↔ ∃ id2, done id2 ∧ id2.val = i

/-- The engines that the round of a class sets up. -/
def Taken (engineMask : BitVec 32) (classb : EngineClass) (id2 : EngineId) : Prop :=
  (intelEngines id2).classb = classb ∧ hasEngine engineMask id2 = true

/-- A run that ends well exactly when a condition holds, and then as it should. -/
def Outcome (condition : Prop) (result : InitState → Prop) : Except Int InitState → Prop
  | .ok s => condition ∧ result s
  | .error _ => ¬ condition

/-- A sequence ends well when both parts do. -/
theorem Outcome.bind {first second : Prop} {middle last : InitState → Prop}
    {x : Except Int InitState} {f : InitState → Except Int InitState} (hFirst : Outcome first middle x)
    (hSecond : ∀ s, middle s → Outcome second last (f s)) :
    Outcome (first ∧ second) last (x >>= f) := by
  cases x with
  | error e => exact fun h => hFirst h.1
  | ok s =>
      have hRest := hSecond s hFirst.2
      show Outcome _ _ (f s)
      cases hResult : f s with
      | error e =>
          rw [hResult] at hRest
          exact fun h => hRest h.2
      | ok t =>
          rw [hResult] at hRest
          exact ⟨⟨hFirst.1, hRest.1⟩, hRest.2⟩

theorem Outcome.congr {first second : Prop} {before after : InitState → Prop}
    {x : Except Int InitState} (h : Outcome first before x) (hCondition : first ↔ second)
    (hResult : ∀ s, before s → after s) : Outcome second after x := by
  cases x with
  | error e => exact mt hCondition.mpr h
  | ok s => exact ⟨hCondition.mp h.1, hResult s h.2⟩

theorem SetUp.congr {other : EngineId → Prop} (setUp : SetUp mediaVer engineMask done s)
    (h : ∀ id2, done id2 ↔ other id2) : SetUp mediaVer engineMask other s := by
  obtain rfl : done = other := funext fun id2 => propext (h id2)
  exact setUp

/-- One engine more. -/
theorem SetUp.add (setUp : SetUp mediaVer engineMask done s) (id2 : EngineId) :
    SetUp mediaVer engineMask (fun other => done other ∨ other = id2) { s with
      gt := {
        engine := Function.update s.gt.engine id2 (some (numberedEngine mediaVer engineMask id2))
        engineClass := Function.update s.gt.engineClass
          ((intelEngines id2).classb, (intelEngines id2).instanceb)
          (some (numberedEngine mediaVer engineMask id2)) }
      mask := s.mask ||| .twoPow 32 id2 } where
  engine := by
    intro other hOther
    by_cases hSame : other = id2
    · rw [hSame]
      exact Function.update_self _ _ _
    · exact (Function.update_of_ne hSame _ _).trans (setUp.engine other (hOther.resolve_right hSame))
  noEngine := by
    intro other hOther
    obtain ⟨hNot, hNe⟩ := not_or.mp hOther
    exact (Function.update_of_ne hNe _ _).trans (setUp.noEngine other hNot)
  engineClass := by
    intro info hInfo
    by_cases hSame : info = ((intelEngines id2).classb, (intelEngines id2).instanceb)
    · exact ⟨id2, .inr rfl, hSame.symm⟩
    · dsimp only at hInfo
      rw [Function.update_of_ne hSame] at hInfo
      obtain ⟨other, hDone, hOther⟩ := setUp.engineClass info hInfo
      exact ⟨other, .inl hDone, hOther⟩
  mask := by
    intro i
    have hId : id2.val < 32 := Nat.lt_trans id2.isLt (by decide)
    rw [BitVec.getLsbD_or, BitVec.getLsbD_twoPow, decide_eq_true hId, Bool.true_and,
      Bool.or_eq_true, decide_eq_true_eq, setUp.mask]
    constructor
    · rintro (⟨other, hDone, hOther⟩ | hSame)
      · exact ⟨other, .inl hDone, hOther⟩
      · exact ⟨id2, .inr rfl, hSame⟩
    · rintro ⟨other, hDone | rfl, hOther⟩
      · exact .inl ⟨other, hDone, hOther⟩
      · exact .inr hOther

/-- The round of an engine that is there and not yet set up. -/
theorem outcome_engineRound {id2 : EngineId} (setUp : SetUp mediaVer engineMask done s)
    (hNew : ¬ done id2) (hTaken : Taken engineMask classb id2)
    (hIds : s.logicalIds (intelEngines id2).instanceb =
      logicalId mediaVer engineMask classb (intelEngines id2).instanceb) :
    Outcome (allocates id2 = true)
      (fun s' => SetUp mediaVer engineMask (fun other => done other ∨ other = id2) s' ∧
        s'.logicalIds = s.logicalIds)
      (engineRound allocates engineMask classb s id2) := by
  obtain ⟨rfl, hHas⟩ := hTaken
  have hFree : ¬ (s.gt.engineClass ((intelEngines id2).classb, (intelEngines id2).instanceb)).isSome := by
    intro hSome
    obtain ⟨other, hDone, hInfo⟩ := setUp.engineClass _ hSome
    rw [Prod.mk.injEq] at hInfo
    have hSame := intelEngines_injective other id2 (EngineInfo.mk.injEq .. ▸ hInfo)
    exact hNew (hSame ▸ hDone)
  unfold engineRound intelEngineSetup
  rw [if_neg (by simp [hHas]), if_neg (Nat.not_lt.mpr (instanceb_le id2)), if_neg hFree, hIds]
  cases hAllocates : allocates id2 with
  | false => exact Bool.false_ne_true
  | true => exact ⟨rfl, setUp.add id2, rfl⟩

/-- The round of any other engine does nothing. -/
theorem engineRound_of_not_taken {id2 : EngineId} (h : ¬ Taken engineMask classb id2) :
    engineRound allocates engineMask classb s id2 = .ok s := by
  refine if_pos ?_
  by_cases hClass : (intelEngines id2).classb = classb
  · refine .inr ?_
    rw [Bool.not_eq_true']
    exact Bool.not_eq_true _ ▸ fun hHas => h ⟨hClass, hHas⟩
  · exact .inl hClass

/-- The loop over the engines sets up those of the class, or comes to one that
finds no memory. -/
theorem outcome_engines {ids : List EngineId} (setUp : SetUp mediaVer engineMask done s)
    (hNodup : ids.Nodup) (hNew : ∀ id2 ∈ ids, Taken engineMask classb id2 → ¬ done id2)
    (hIds : ∀ id2, Taken engineMask classb id2 → s.logicalIds (intelEngines id2).instanceb =
      logicalId mediaVer engineMask classb (intelEngines id2).instanceb) :
    Outcome (∀ id2 ∈ ids, Taken engineMask classb id2 → allocates id2 = true)
      (SetUp mediaVer engineMask fun other => done other ∨ other ∈ ids ∧ Taken engineMask classb other)
      (ids.foldlM (engineRound allocates engineMask classb) s) := by
  induction ids generalizing done s with
  | nil =>
      refine ⟨fun _ h => absurd h List.not_mem_nil, setUp.congr fun id2 => ?_⟩
      simp
  | cons id2 rest ih =>
      obtain ⟨hFirst, hRest⟩ := List.nodup_cons.mp hNodup
      rw [List.foldlM_cons]
      by_cases hTaken : Taken engineMask classb id2
      · have hRound := outcome_engineRound allocates setUp
          (hNew id2 List.mem_cons_self hTaken) hTaken (hIds id2 hTaken)
        refine (hRound.bind fun s' ⟨setUp', hSame⟩ => ih setUp' hRest ?_ ?_).congr ?_ ?_
        · rintro other hOther hOtherTaken (hDone | rfl)
          · exact hNew other (List.mem_cons_of_mem id2 hOther) hOtherTaken hDone
          · exact hFirst hOther
        · rw [hSame]
          exact hIds
        · simp [hTaken]
        · intro s' setUp'
          refine setUp'.congr fun other => ?_
          rw [List.mem_cons, or_and_right, or_assoc]
          refine or_congr_right (or_congr_left ⟨?_, And.left⟩)
          rintro rfl
          exact ⟨rfl, hTaken⟩
      · rw [engineRound_of_not_taken allocates hTaken]
        refine (ih setUp hRest (fun other hOther => hNew other (List.mem_cons_of_mem id2 hOther))
          hIds).congr ?_ ?_
        · simp [hTaken]
        · intro s' setUp'
          refine setUp'.congr fun other => or_congr_right (and_congr_left fun hOther => ?_)
          rw [List.mem_cons]
          refine (or_iff_right ?_).symm
          rintro rfl
          exact hTaken hOther

/-- The round of a class sets up its engines, whatever numbers the classes
before left in the array. -/
theorem outcome_classRound (setUp : SetUp mediaVer engineMask done s)
    (hNew : ∀ id2, Taken engineMask classb id2 → ¬ done id2) :
    Outcome (∀ id2, Taken engineMask classb id2 → allocates id2 = true)
      (SetUp mediaVer engineMask fun other => done other ∨ Taken engineMask classb other)
      (classRound allocates mediaVer engineMask s classb) := by
  have hStart : SetUp mediaVer engineMask done
      { s with logicalIds := setupLogicalIds mediaVer engineMask s.logicalIds classb } :=
    ⟨setUp.engine, setUp.noEngine, setUp.engineClass, setUp.mask⟩
  refine (outcome_engines allocates hStart (List.nodup_finRange _) (fun id2 _ => hNew id2) ?_).congr ?_ ?_
  · rintro id2 ⟨rfl, hHas⟩
    exact setupLogicalIds_of_present (present_intelEngines hHas) s.logicalIds
  · simp
  · intro s' setUp'
    exact setUp'.congr fun other => by simp

theorem outcome_classes {classes : List EngineClass} (setUp : SetUp mediaVer engineMask done s)
    (hNodup : classes.Nodup)
    (hNew : ∀ classb ∈ classes, ∀ id2, Taken engineMask classb id2 → ¬ done id2) :
    Outcome (∀ classb ∈ classes, ∀ id2, Taken engineMask classb id2 → allocates id2 = true)
      (SetUp mediaVer engineMask fun other =>
        done other ∨ ∃ classb ∈ classes, Taken engineMask classb other)
      (classes.foldlM (classRound allocates mediaVer engineMask) s) := by
  induction classes generalizing done s with
  | nil =>
      refine ⟨fun _ h => absurd h List.not_mem_nil, setUp.congr fun id2 => ?_⟩
      simp
  | cons classb rest ih =>
      obtain ⟨hFirst, hRest⟩ := List.nodup_cons.mp hNodup
      rw [List.foldlM_cons]
      have hRound := outcome_classRound allocates setUp (hNew classb List.mem_cons_self)
      refine (hRound.bind fun s' setUp' => ih setUp' hRest ?_).congr ?_ ?_
      · rintro next hNext id2 hTaken (hDone | hBefore)
        · exact hNew next (List.mem_cons_of_mem classb hNext) id2 hTaken hDone
        · rw [← hBefore.1, hTaken.1] at hFirst
          exact hFirst hNext
      · rw [List.forall_mem_cons]
      · intro s' setUp'
        exact setUp'.congr fun other => by simp [or_assoc]

/-- The setup of the engines ends well exactly when there is memory for all that
are there; each then has the number of its instance. -/
theorem intelEnginesInitMmio_spec (allocates : EngineId → Bool) (mediaVer : Nat)
    (engineMask : BitVec 32) (stack : Nat → Nat) :
    match intelEnginesInitMmio allocates mediaVer engineMask stack .empty with
    | .ok (gt, mask) => (∀ id2 : EngineId, hasEngine engineMask id2 = true → allocates id2 = true) ∧
        (∀ id2 : EngineId, gt.engine id2 =
          if hasEngine engineMask id2 then some (numberedEngine mediaVer engineMask id2) else none) ∧
        ∀ id2 : EngineId, hasEngine mask id2 = hasEngine engineMask id2
    | .error _ => ¬ ∀ id2 : EngineId, hasEngine engineMask id2 = true → allocates id2 = true := by
  have hStart : SetUp mediaVer engineMask (fun _ => False) ⟨.empty, 0, stack⟩ := by
    refine ⟨fun _ h => h.elim, fun _ _ => rfl, fun _ h => ?_, fun i => ?_⟩
    · exact absurd h Bool.false_ne_true
    · simp
  have hAll : ∀ classb, classb ∈ EngineClass.all := by
    intro classb
    cases classb <;> decide
  have hRun := outcome_classes allocates hStart (show EngineClass.all.Nodup by decide)
    fun _ _ _ _ h => h
  have hTaken : ∀ id2 : EngineId,
      (False ∨ ∃ classb ∈ EngineClass.all, Taken engineMask classb id2) ↔
        hasEngine engineMask id2 = true := by
    intro id2
    rw [false_or]
    exact ⟨fun ⟨_, _, h⟩ => h.2, fun h => ⟨_, hAll _, rfl, h⟩⟩
  have hEnds : Outcome (∀ id2 : EngineId, hasEngine engineMask id2 = true → allocates id2 = true)
      (SetUp mediaVer engineMask fun id2 => hasEngine engineMask id2 = true) _ :=
    hRun.congr ⟨fun h id2 hHas => h _ (hAll _) id2 ⟨rfl, hHas⟩, fun h _ _ id2 hTaken => h id2 hTaken.2⟩
      fun s setUp => setUp.congr hTaken
  unfold intelEnginesInitMmio
  cases hResult : EngineClass.all.foldlM (classRound allocates mediaVer engineMask) ⟨.empty, 0, stack⟩ with
  | error e =>
      rw [hResult] at hEnds
      exact hEnds
  | ok last =>
      rw [hResult] at hEnds
      obtain ⟨hAllocates, setUp⟩ := hEnds
      refine ⟨hAllocates, fun id2 => ?_, fun id2 => ?_⟩
      · split
        · next hHas => exact setUp.engine id2 hHas
        · next hHas => exact setUp.noEngine id2 hHas
      · rw [Bool.eq_iff_iff]
        refine (setUp.mask id2).trans ⟨?_, fun hHas => ⟨id2, hHas, rfl⟩⟩
        rintro ⟨other, hHas, hSame⟩
        rwa [hSame] at hHas

theorem logicalId_lt (classb : EngineClass) {instanceb : Nat}
    (h : present engineMask classb instanceb = true) :
    logicalId mediaVer engineMask classb instanceb < gucMaxInstancesPerClass := by
  have hPlace := List.idxOf_lt_length_of_mem ((mem_filter_iff mediaVer).mpr h)
  have hLength : (instanceMap mediaVer classb).length ≤ 9 := by
    unfold instanceMap
    split <;> decide
  have hFilter := (instanceMap mediaVer classb).length_filter_le (present engineMask classb)
  unfold logicalId gucMaxInstancesPerClass
  omega

variable (mediaVer) in
/-- The mask of an engine gives its number back. -/
theorem entry_numberedEngine {id2 : EngineId} (hHas : hasEngine engineMask id2 = true) :
    (numberedEngine mediaVer engineMask id2).entry =
      (engineClassToGucClass (intelEngines id2).classb,
        logicalId mediaVer engineMask (intelEngines id2).classb (intelEngines id2).instanceb) := by
  have hLt : logicalId mediaVer engineMask (intelEngines id2).classb (intelEngines id2).instanceb < 32 :=
    logicalId_lt _ (present_intelEngines hHas)
  unfold Engine.entry numberedEngine Engine.build ilog2
  dsimp only
  rw [BitVec.toNat_twoPow, Nat.mod_eq_of_lt (Nat.pow_lt_pow_right (by decide) hLt), Nat.log2_two_pow]

theorem engineClassToGucClass_injective : ∀ first second,
    engineClassToGucClass first = engineClassToGucClass second → first = second := by
  intro first second
  cases first <;> cases second <;> decide

/-- The table leads from the number of an instance that is there back to it,
and from no other number to an instance. -/
structure Inverse (mediaVer : Nat) (engineMask : BitVec 32) (table : Nat × Nat → Nat) : Prop where
  known : ∀ classb logicalIds instanceb, present engineMask classb instanceb = true →
    table (engineClassToGucClass classb,
      setupLogicalIds mediaVer engineMask logicalIds classb instanceb) = instanceb
  below : ∀ classb instanceb, present engineMask classb instanceb = true →
    instanceb < gucMaxInstancesPerClass
  unknown : ∀ i < gucMaxEngineClasses, ∀ j < gucMaxInstancesPerClass,
    (∀ classb logicalIds instanceb, present engineMask classb instanceb = true →
      (engineClassToGucClass classb,
        setupLogicalIds mediaVer engineMask logicalIds classb instanceb) ≠ (i, j)) →
    table (i, j) = gucMaxInstancesPerClass

/-- The table of engines that are set up with their numbers. -/
theorem inverse_of_numbered {engine : EngineId → Option Engine} (table : Nat × Nat → Nat)
    (hEngine : ∀ id2 : EngineId, engine id2 =
      if hasEngine engineMask id2 then some (numberedEngine mediaVer engineMask id2) else none) :
    Inverse mediaVer engineMask (gucMappingTableInit engine table) := by
  have hCases : ∀ id2 e, engine id2 = some e →
      hasEngine engineMask id2 = true ∧ e = numberedEngine mediaVer engineMask id2 := by
    intro id2 e hSome
    rw [hEngine] at hSome
    split at hSome
    · next hHas => exact ⟨hHas, (Option.some.inj hSome).symm⟩
    · cases hSome
  constructor
  · intro classb logicalIds instanceb hPresent
    obtain ⟨id2, hHas, hInfo⟩ := present_iff.mp hPresent
    rw [setupLogicalIds_of_present hPresent]
    have hEntry := entry_numberedEngine mediaVer hHas
    rw [hInfo] at hEntry
    rw [← hEntry, gucMappingTableInit_of_engine ((hEngine id2).trans (if_pos hHas))]
    · exact congrArg EngineInfo.instanceb hInfo
    · intro other e' hOther hSame
      obtain ⟨hHas', rfl⟩ := hCases other e' hOther
      rw [entry_numberedEngine mediaVer hHas', entry_numberedEngine mediaVer hHas, Prod.mk.injEq] at hSame
      have hClass := engineClassToGucClass_injective _ _ hSame.1
      have hFirst := present_intelEngines hHas'
      have hNumber := hSame.2
      rw [hClass] at hFirst hNumber
      exact (List.idxOf_inj ((mem_filter_iff mediaVer).mpr hFirst)).mp hNumber
  · intro classb instanceb hPresent
    obtain ⟨id2, -, hInfo⟩ := present_iff.mp hPresent
    have hLe := instanceb_le id2
    rw [hInfo] at hLe
    exact Nat.lt_of_le_of_lt hLe (by decide)
  · intro i hClass j hInstance hNone
    refine gucMappingTableInit_of_none hClass hInstance fun id2 e hSome hSame => ?_
    obtain ⟨hHas, rfl⟩ := hCases id2 e hSome
    refine hNone (intelEngines id2).classb (fun _ => 0) (intelEngines id2).instanceb
      (present_intelEngines hHas) ?_
    rw [setupLogicalIds_of_present (present_intelEngines hHas), ← entry_numberedEngine mediaVer hHas]
    exact hSame

end Init

/-- The engines that the media fuses leave, the numbers of the engines of each
class, and the table that leads back from them, if no engine was there before. -/
theorem engine_numbering (version : IpVersion) (hMedia : 11 ≤ version.ver) (fuses : MediaFuses)
    (info : GtInfo) :
    FusesApplied version fuses info (engineMaskApplyMediaFuses version fuses info) ∧
      ∀ engineMask,
        (∀ classb logicalIds, Numbered version.ver engineMask classb
          (setupLogicalIds version.ver engineMask logicalIds classb)) ∧
        ∀ allocates stack gt mask table,
          intelEnginesInitMmio allocates version.ver engineMask stack .empty = .ok (gt, mask) →
          Inverse version.ver engineMask (gucMappingTableInit gt.engine table) := by
  refine ⟨media_fuses_applied version fuses info hMedia, fun engineMask => ⟨?_, ?_⟩⟩
  · exact fun classb logicalIds => numbered_setupLogicalIds logicalIds
  · intro allocates stack gt mask table hRun
    have hSpec := intelEnginesInitMmio_spec allocates version.ver engineMask stack
    rw [hRun] at hSpec
    exact inverse_of_numbered table hSpec.2.1

/-- A device with two video decoders, the instances 0 and 2. -/
def twoDecoders : GtInfo := ⟨0x41403, 0, 0⟩

theorem two_decoders_numbered :
    FusesApplied ⟨12, 0⟩ ⟨0, 0⟩ twoDecoders (engineMaskApplyMediaFuses ⟨12, 0⟩ ⟨0, 0⟩ twoDecoders) ∧
      Numbered 12 twoDecoders.engineMask .videoDecode
        (setupLogicalIds 12 twoDecoders.engineMask (fun _ => 0xFF) .videoDecode) ∧
      setupLogicalIds 12 twoDecoders.engineMask (fun _ => 0xFF) .videoDecode 2 = 1 ∧
      ∃ gt mask, intelEnginesInitMmio (fun _ => true) 12 twoDecoders.engineMask (fun _ => 0xFF)
          .empty = .ok (gt, mask) ∧
        Inverse 12 twoDecoders.engineMask (gucMappingTableInit gt.engine fun _ => 7) ∧
        gucMappingTableInit gt.engine (fun _ => 7) (1, 1) = 2 := by
  obtain ⟨hFuses, hNumbering⟩ := engine_numbering ⟨12, 0⟩ (by decide) ⟨0, 0⟩ twoDecoders
  obtain ⟨hNumbered, hInverse⟩ := hNumbering twoDecoders.engineMask
  have hSecond : setupLogicalIds 12 twoDecoders.engineMask (fun _ => 0xFF) .videoDecode 2 = 1 := by
    decide
  obtain ⟨gt, mask, hRun⟩ : ∃ gt mask, intelEnginesInitMmio (fun _ => true) 12
      twoDecoders.engineMask (fun _ => 0xFF) .empty = .ok (gt, mask) := ⟨_, _, rfl⟩
  have inverse := hInverse _ _ gt mask (fun _ => 7) hRun
  have hBack := inverse.known .videoDecode (fun _ => 0xFF) 2 (by decide)
  rw [hSecond] at hBack
  exact ⟨hFuses, hNumbered _ _, hSecond, gt, mask, hRun, inverse, hBack⟩

end NootedBlue.Engines
