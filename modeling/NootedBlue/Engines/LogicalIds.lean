import Mathlib.Algebra.Group.Nat.Defs
import Mathlib.Data.List.Perm.Basic
import NootedBlue.Engines.Fuses
import NootedBlue.Semantics.Numbering

/-! The logical numbers of the engines of a class. The engines that are there
are numbered in the order of a map of the instances, into an array that keeps
what the class before left in it. -/
namespace NootedBlue.Engines

/-- The engines that are there, by the mask. -/
def present (engineMask : BitVec 32) (classb : EngineClass) (instanceb : Nat) : Bool :=
  (List.finRange i915NumEngines).any fun id : EngineId =>
    hasEngine engineMask id && intelEngines id = ⟨classb, instanceb⟩

/-- One round of the outer loop of `populate_logical_ids`; the inner one stops
at the first engine with the instance. The numbers have 8 bits. -/
def populateRound (engineMask : BitVec 32) (classb : EngineClass) (s : (Nat → Nat) × Nat)
    (instanceb : Nat) : (Nat → Nat) × Nat :=
  match (List.finRange i915NumEngines).find? fun id : EngineId =>
      hasEngine engineMask id && (intelEngines id).classb = classb &&
        (intelEngines id).instanceb = instanceb with
  | some id => (Function.update s.1 (intelEngines id).instanceb s.2, (s.2 + 1) % 2 ^ 8)
  | none => s

/-- `populate_logical_ids`. -/
def populateLogicalIds (engineMask : BitVec 32) (logicalIds : Nat → Nat) (classb : EngineClass)
    (map : List Nat) : Nat → Nat :=
  (map.foldl (populateRound engineMask classb) (logicalIds, 0)).1

/-- The map that `setup_logical_ids` goes by. -/
def instanceMap (mediaVer : Nat) (classb : EngineClass) : List Nat :=
  if mediaVer ≥ 11 ∧ classb = .videoDecode then [0, 2, 4, 6, 1, 3, 5, 7]
  else List.range (maxEngineInstance + 1)

/-- `setup_logical_ids`. -/
def setupLogicalIds (mediaVer : Nat) (engineMask : BitVec 32) (logicalIds : Nat → Nat)
    (classb : EngineClass) : Nat → Nat :=
  populateLogicalIds engineMask logicalIds classb (instanceMap mediaVer classb)

/-- Where an instance comes in its class: for the video decoders the even ones
come before the odd ones. -/
def rank (mediaVer : Nat) (classb : EngineClass) (instanceb : Nat) : Nat :=
  if mediaVer ≥ 11 ∧ classb = .videoDecode then instanceb % 2 * 4 + instanceb / 2 else instanceb

/-- How many engines of a class are there. -/
def classSize (engineMask : BitVec 32) (classb : EngineClass) : Nat :=
  ((List.finRange i915NumEngines).filter fun id : EngineId =>
    hasEngine engineMask id && (intelEngines id).classb = classb).length

/-- The logical number of an instance: its place among those that are there. -/
def logicalId (mediaVer : Nat) (engineMask : BitVec 32) (classb : EngineClass) (instanceb : Nat) : Nat :=
  ((instanceMap mediaVer classb).filter (present engineMask classb)).idxOf instanceb

/-- The instances of a class that are there have the numbers below their count,
in their order. -/
structure Numbered (mediaVer : Nat) (engineMask : BitVec 32) (classb : EngineClass)
    (logicalIds : Nat → Nat) : Prop where
  bijOn : Set.BijOn logicalIds {instanceb | present engineMask classb instanceb}
    {n | n < classSize engineMask classb}
  ordered : ∀ a b, present engineMask classb a → present engineMask classb b →
    (logicalIds a < logicalIds b ↔ rank mediaVer classb a < rank mediaVer classb b)

section Table

/-- No two engines share their class and instance. -/
theorem intelEngines_injective : ∀ i j : EngineId, intelEngines i = intelEngines j → i = j := by
  decide

theorem instanceb_le (id : EngineId) : (intelEngines id).instanceb ≤ maxEngineInstance := by
  revert id
  decide

theorem instanceb_mem_map (mediaVer : Nat) (id : EngineId) :
    (intelEngines id).instanceb ∈ instanceMap mediaVer (intelEngines id).classb := by
  unfold instanceMap
  split
  · next hVideo =>
      have hAll : ∀ id : EngineId, (intelEngines id).classb = .videoDecode →
          (intelEngines id).instanceb ∈ [0, 2, 4, 6, 1, 3, 5, 7] := by decide
      exact hAll id hVideo.2
  · exact List.mem_range.mpr (Nat.lt_succ_of_le (instanceb_le id))

theorem pairwise_instanceMap (mediaVer : Nat) (classb : EngineClass) :
    (instanceMap mediaVer classb).Pairwise fun a b =>
      rank mediaVer classb a < rank mediaVer classb b := by
  unfold instanceMap rank
  split
  · decide
  · exact List.pairwise_lt_range

theorem nodup_instanceMap (mediaVer : Nat) (classb : EngineClass) :
    (instanceMap mediaVer classb).Nodup := by
  unfold instanceMap
  split
  · decide
  · exact List.nodup_range

variable {mediaVer : Nat} {engineMask : BitVec 32} {classb : EngineClass} {instanceb : Nat}

theorem present_iff : present engineMask classb instanceb = true ↔
    ∃ id : EngineId, hasEngine engineMask id = true ∧ intelEngines id = ⟨classb, instanceb⟩ := by
  simp [present]

theorem present_intelEngines {id : EngineId} (h : hasEngine engineMask id = true) :
    present engineMask (intelEngines id).classb (intelEngines id).instanceb = true :=
  present_iff.mpr ⟨id, h, rfl⟩

variable (mediaVer) in
/-- Every instance that is there is in the map. -/
theorem mem_filter_iff : instanceb ∈ (instanceMap mediaVer classb).filter (present engineMask classb) ↔
    present engineMask classb instanceb = true := by
  rw [List.mem_filter, and_iff_right_iff_imp]
  intro h
  obtain ⟨id, -, hInfo⟩ := present_iff.mp h
  have := instanceb_mem_map mediaVer id
  rwa [hInfo] at this

/-- The instances in the order of the map are as many as there are engines. -/
theorem length_filter_map :
    ((instanceMap mediaVer classb).filter (present engineMask classb)).length =
      classSize engineMask classb := by
  have hPerm : ((instanceMap mediaVer classb).filter (present engineMask classb)).Perm
      (((List.finRange i915NumEngines).filter fun id : EngineId =>
        hasEngine engineMask id && (intelEngines id).classb = classb).map
          fun id : EngineId => (intelEngines id).instanceb) := by
    refine (List.perm_ext_iff_of_nodup ((nodup_instanceMap _ _).filter _) ?_).mpr fun n => ?_
    · refine List.Nodup.map_on ?_ ((List.nodup_finRange _).filter _)
      intro i hi j hj hSame
      simp only [List.mem_filter, List.mem_finRange, Bool.and_eq_true, decide_eq_true_eq,
        true_and] at hi hj
      apply intelEngines_injective
      rw [EngineInfo.mk.injEq]
      exact ⟨hi.2.trans hj.2.symm, hSame⟩
    · rw [mem_filter_iff, present_iff]
      simp only [List.mem_map, List.mem_filter, List.mem_finRange, Bool.and_eq_true,
        decide_eq_true_eq, true_and]
      constructor
      · intro ⟨id, hHas, hInfo⟩
        exact ⟨id, ⟨hHas, by rw [hInfo]⟩, by rw [hInfo]⟩
      · intro ⟨id, ⟨hHas, hClass⟩, hInstance⟩
        exact ⟨id, hHas, by rw [← hClass, ← hInstance]⟩
  rw [hPerm.length_eq, List.length_map]
  rfl

/-- A round numbers the instance when it is there. -/
theorem populateRound_eq {s : (Nat → Nat) × Nat} (hNext : s.2 < 2 ^ 8 - 1) :
    populateRound engineMask classb s instanceb =
      Numbering.round (present engineMask classb) s instanceb := by
  unfold populateRound Numbering.round
  split
  · next id hFound =>
      have hId := List.find?_some hFound
      simp only [Bool.and_eq_true, decide_eq_true_eq] at hId
      have hPresent : present engineMask classb instanceb = true := by
        rw [← hId.1.2, ← hId.2]
        exact present_intelEngines hId.1.1
      rw [if_pos hPresent, hId.2, Nat.mod_eq_of_lt (by omega)]
  · next hNone =>
      rw [if_neg]
      intro hPresent
      obtain ⟨id, hHas, hInfo⟩ := present_iff.mp hPresent
      refine List.find?_eq_none.mp hNone id (List.mem_finRange id) ?_
      simp [hHas, hInfo]

/-- The numbers never reach the end of their 8 bits. -/
theorem foldl_populateRound {map : List Nat} {s : (Nat → Nat) × Nat}
    (hNext : s.2 + map.length < 2 ^ 8) :
    map.foldl (populateRound engineMask classb) s =
      Numbering.assign (present engineMask classb) map s := by
  induction map generalizing s with
  | nil => rfl
  | cons instanceb rest ih =>
      rw [List.length_cons] at hNext
      rw [List.foldl_cons, populateRound_eq (by omega)]
      refine ih ?_
      unfold Numbering.round
      split
      · dsimp only
        omega
      · omega

theorem setupLogicalIds_eq (logicalIds : Nat → Nat) :
    setupLogicalIds mediaVer engineMask logicalIds classb =
      (Numbering.assign (present engineMask classb) (instanceMap mediaVer classb) (logicalIds, 0)).1 := by
  have hLength : (instanceMap mediaVer classb).length < 2 ^ 8 := by
    unfold instanceMap
    split <;> decide
  unfold setupLogicalIds populateLogicalIds
  rw [foldl_populateRound]
  dsimp only
  omega

/-- Whatever the array held before, an instance that is there has its number. -/
theorem setupLogicalIds_of_present (h : present engineMask classb instanceb = true)
    (logicalIds : Nat → Nat) :
    setupLogicalIds mediaVer engineMask logicalIds classb instanceb =
      logicalId mediaVer engineMask classb instanceb := by
  rw [setupLogicalIds_eq, Numbering.assign_of_mem (nodup_instanceMap _ _) ((mem_filter_iff mediaVer).mpr h),
    Nat.zero_add]
  rfl

theorem numbered_setupLogicalIds (logicalIds : Nat → Nat) :
    Numbered mediaVer engineMask classb (setupLogicalIds mediaVer engineMask logicalIds classb) := by
  rw [setupLogicalIds_eq]
  constructor
  · have hBij : Set.BijOn (Numbering.assign (present engineMask classb) _ _).1 _ _ :=
      Numbering.bijOn_assign (nodup_instanceMap mediaVer classb) logicalIds
    simp only [mem_filter_iff, length_filter_map] at hBij
    exact hBij
  · intro a b ha hb
    exact Numbering.assign_lt_iff (pairwise_instanceMap mediaVer classb) logicalIds
      ((mem_filter_iff mediaVer).mpr ha) ((mem_filter_iff mediaVer).mpr hb)

end Table

end NootedBlue.Engines
