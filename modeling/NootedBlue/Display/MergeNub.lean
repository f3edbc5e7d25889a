import Mathlib.Tactic.ByContra
import NootedBlue.Semantics.Trees

/-! How `DisplayMergeNub` puts its dictionary into the properties of its provider. A call
says whether it has set something, and the caller takes a call that has not for one that
failed. So an empty dictionary ends the loops around it. -/
namespace NootedBlue.Display

open Trees

variable {κ α : Type} [DecidableEq κ]

/-- `result`, the table that is written to, and the keys whose turn was completed. -/
structure MergeRun (κ α : Type) where
  result : Bool
  target : Table κ α
  processed : List κ

/-- `setObject` and `setProperty`, which succeed. -/
def MergeRun.put (run : MergeRun κ α) (key : κ) (entry : Entry κ α) : MergeRun κ α :=
  ⟨true, run.target.set key entry, run.processed ++ [key]⟩

/-- The loop of `MergeDictionaryIntoDictionary`, over the entries in the order of the
iterator. A dictionary that meets one is put into a copy of it, and the copy is set unless
that fails. -/
def dictionaryLoop : Table κ α → MergeRun κ α → MergeRun κ α
  | .empty, run => run
  | .leaf key value rest, run => dictionaryLoop rest (run.put key (.leaf value))
  | .dict key value rest, run =>
      match run.target.get key with
      | some (.dict child) =>
          let nested := dictionaryLoop value ⟨false, child, []⟩
          if nested.result then dictionaryLoop rest (run.put key (.dict nested.target))
          else { run with result := false }
      | _ => dictionaryLoop rest (run.put key (.dict value))

/-- `MergeDictionaryIntoDictionary`. -/
def mergeDictionaryIntoDictionary (source target : Table κ α) : MergeRun κ α :=
  dictionaryLoop source ⟨false, target, []⟩

/-- The loop of `MergeDictionaryIntoProvider`, over the properties of the provider. -/
def providerLoop : Table κ α → MergeRun κ α → MergeRun κ α
  | .empty, run => run
  | .leaf key value rest, run => providerLoop rest (run.put key (.leaf value))
  | .dict key value rest, run =>
      match run.target.get key with
      | some (.dict child) =>
          let nested := mergeDictionaryIntoDictionary value child
          if nested.result then providerLoop rest (run.put key (.dict nested.target))
          else { run with result := false }
      | _ => providerLoop rest (run.put key (.dict value))

/-- `MergeDictionaryIntoProvider`. -/
def mergeDictionaryIntoProvider (source properties : Table κ α) : MergeRun κ α :=
  providerLoop source ⟨false, properties, []⟩

/-- Both loops do the same. -/
theorem providerLoop_eq (source : Table κ α) (run : MergeRun κ α) :
    providerLoop source run = dictionaryLoop source run := by
  induction source generalizing run with
  | empty => rfl
  | leaf key value rest ih => exact ih _
  | dict key value rest ihValue ihRest =>
      rw [providerLoop, dictionaryLoop]
      cases run.target.get key with
      | none => exact ihRest _
      | some found =>
          cases found with
          | leaf _ => exact ihRest _
          | dict child =>
              dsimp only
              rw [mergeDictionaryIntoDictionary, ihRest]

/-- Nothing ends the loops: no dictionary that meets one is empty. -/
def Passes : Table κ α → Table κ α → Prop
  | .empty, _ => True
  | .leaf _ _ rest, target => Passes rest target
  | .dict key value rest, target =>
      (∀ child, target.get key = some (.dict child) → value ≠ .empty ∧ Passes value child) ∧
        Passes rest target

section Passes

variable {source target : Table κ α} {key : κ}

/-- Other keys of the target do not matter. -/
theorem passes_set (hKey : key ∉ source.keys) (entry : Entry κ α) :
    Passes source (target.set key entry) ↔ Passes source target := by
  induction source with
  | empty => exact Iff.rfl
  | leaf first value rest ih => exact ih fun h => hKey (List.mem_cons_of_mem _ h)
  | dict first value rest ihValue ihRest =>
      have hFirst : key ≠ first := fun h => hKey (h ▸ List.mem_cons_self)
      have hRest := ihRest fun h => hKey (List.mem_cons_of_mem _ h)
      rw [Passes, Passes, get_set, if_neg hFirst, hRest]

theorem passes_put (hKey : key ∉ source.keys) (entry : Entry κ α) (run : MergeRun κ α) :
    Passes source (run.put key entry).target ↔ Passes source run.target :=
  passes_set hKey entry

/-- The condition, key by key. -/
theorem passes_iff_get (unique : source.Unique) :
    Passes source target ↔ ∀ key value child, source.get key = some (.dict value) →
      target.get key = some (.dict child) → value ≠ .empty ∧ Passes value child := by
  induction source with
  | empty =>
      refine iff_of_true trivial ?_
      intro key value child hSource
      cases hSource
  | leaf first leaf rest ih =>
      rw [Passes, ih unique.2]
      refine forall_congr' fun key => forall_congr' fun value => forall_congr' fun child => ?_
      rw [Table.get]
      split
      next hFirst =>
        have hNone := get_eq_none_iff.mpr unique.1
        rw [← hFirst, hNone]
        constructor
        · intro _ hSource
          cases hSource
        · intro _ hSource
          cases hSource
      next => exact Iff.rfl
  | dict first first' rest ihValue ihRest =>
      rw [Passes, ihRest unique.2.2]
      have hNone := get_eq_none_iff.mpr unique.1
      constructor
      · rintro ⟨hHere, hRest⟩ key value child hSource hTarget
        rw [Table.get] at hSource
        split at hSource
        next hFirst =>
          cases hSource
          exact hHere child (hFirst ▸ hTarget)
        next => exact hRest key value child hSource hTarget
      · intro hAll
        refine ⟨fun child hTarget => hAll first first' child (if_pos rfl) hTarget, ?_⟩
        intro key value child hSource hTarget
        refine hAll key value child ?_ hTarget
        rw [Table.get, if_neg ?_]
        · exact hSource
        · rintro rfl
          rw [hNone] at hSource
          cases hSource

end Passes

section Loop

variable {source target : Table κ α} {key : κ}

omit [DecidableEq κ] in
theorem not_isEmpty_keys (hNe : source ≠ .empty) : (!source.keys.isEmpty) = true := by
  cases source with
  | empty => exact absurd rfl hNe
  | leaf => rfl
  | dict => rfl

/-- A loop that is not ended early puts all of its entries in. -/
theorem dictionaryLoop_of_passes (unique : source.Unique) (run : MergeRun κ α)
    (hPasses : Passes source run.target) :
    dictionaryLoop source run =
      ⟨run.result || !source.keys.isEmpty, source.merge run.target,
        run.processed ++ source.keys⟩ := by
  induction source generalizing run with
  | empty =>
      rw [dictionaryLoop, Table.merge, Table.keys, List.append_nil]
      simp
  | leaf first value rest ih =>
      rw [dictionaryLoop, ih unique.2 _ ((passes_put unique.1 _ run).mpr hPasses)]
      simp [MergeRun.put, Table.merge, Table.keys]
  | dict first value rest ihValue ihRest =>
      obtain ⟨hHere, hRest⟩ := hPasses
      have hNext (entry : Entry κ α) :=
        ihRest unique.2.2 _ ((passes_put unique.1 entry run).mpr hRest)
      rw [dictionaryLoop, Table.merge]
      cases hTarget : run.target.get first with
      | none =>
          dsimp only
          rw [hNext]
          simp [MergeRun.put, Table.keys]
      | some found =>
          cases found with
          | leaf _ =>
              dsimp only
              rw [hNext]
              simp [MergeRun.put, Table.keys]
          | dict child =>
              obtain ⟨hNe, hNested⟩ := hHere child hTarget
              dsimp only
              rw [ihValue unique.2.1 ⟨false, child, []⟩ hNested]
              dsimp only
              rw [Bool.false_or, not_isEmpty_keys hNe, if_pos rfl, hNext]
              simp [MergeRun.put, Table.keys]

/-- An empty dictionary that meets one ends the loop, and what is behind it has no turn. -/
theorem dictionaryLoop_of_not_passes (unique : source.Unique) (run : MergeRun κ α)
    (hPasses : ¬ Passes source run.target) :
    (dictionaryLoop source run).result = false ∧
      (dictionaryLoop source run).processed.length <
        (run.processed ++ source.keys).length := by
  have hLength (run : MergeRun κ α) (key : κ) (entry : Entry κ α) (keys : List κ) :
      ((run.put key entry).processed ++ keys).length = (run.processed ++ key :: keys).length := by
    simp [MergeRun.put]
  induction source generalizing run with
  | empty => exact absurd trivial hPasses
  | leaf first value rest ih =>
      have hNext := ih unique.2 _ (mt (passes_put unique.1 (.leaf value) run).mp hPasses)
      rw [hLength] at hNext
      exact hNext
  | dict first value rest ihValue ihRest =>
      have hNext (entry : Entry κ α) (hRest : ¬ Passes rest run.target) :
          (dictionaryLoop rest (run.put first entry)).result = false ∧
            (dictionaryLoop rest (run.put first entry)).processed.length <
              (run.processed ++ first :: rest.keys).length := by
        have hLater := ihRest unique.2.2 _ (mt (passes_put unique.1 entry run).mp hRest)
        rw [hLength] at hLater
        exact hLater
      rw [Passes, not_and] at hPasses
      rw [dictionaryLoop, Table.keys]
      cases hTarget : run.target.get first with
      | none =>
          refine hNext _ (hPasses fun child h => ?_)
          rw [hTarget] at h
          cases h
      | some found =>
          cases found with
          | leaf _ =>
              refine hNext _ (hPasses fun child h => ?_)
              rw [hTarget] at h
              cases h
          | dict child =>
              dsimp only
              by_cases hHere : value ≠ .empty ∧ Passes value child
              · rw [dictionaryLoop_of_passes unique.2.1 ⟨false, child, []⟩ hHere.2]
                dsimp only
                rw [Bool.false_or, not_isEmpty_keys hHere.1, if_pos rfl]
                refine hNext _ (hPasses fun child' h => ?_)
                rw [hTarget] at h
                cases h
                exact hHere
              · have hFalse : (dictionaryLoop value ⟨false, child, []⟩).result = false := by
                  by_cases hEmpty : value = .empty
                  · rw [hEmpty]
                    rfl
                  · exact (ihValue unique.2.1 ⟨false, child, []⟩ fun h => hHere ⟨hEmpty, h⟩).1
                rw [hFalse, if_neg Bool.false_ne_true]
                refine ⟨rfl, ?_⟩
                simp

/-- Where the target has all of the source, nothing changes, whether or not the loop is
ended early. -/
theorem dictionaryLoop_of_within (unique : source.Unique) (run : MergeRun κ α)
    (within : source.Within run.target) : (dictionaryLoop source run).target.Same run.target := by
  have hPut {rest : Table κ α} {key : κ} {entry : Entry κ α} (run : MergeRun κ α)
      (ih : ∀ run : MergeRun κ α, rest.Within run.target →
        (dictionaryLoop rest run).target.Same run.target)
      (hRest : rest.Within run.target) (hSame : Alike (some entry) (run.target.get key)) :
      (dictionaryLoop rest (run.put key entry)).target.Same run.target := by
    have hSet := same_set hSame
    exact (ih (run.put key entry) (hRest.congr hSet.symm)).trans hSet
  induction source generalizing run with
  | empty => exact fun _ => rfl
  | leaf first value rest ih =>
      have hTarget := within.get_leaf (if_pos rfl : _ = some (Entry.leaf value))
      refine hPut run (ih unique.2) (Table.Within.of_cons (.leaf value) unique.1 within) ?_
      rw [hTarget]
      exact .leaf value
  | dict first value rest ihValue ihRest =>
      have hRest : rest.Within run.target := Table.Within.of_cons (.dict value) unique.1 within
      obtain ⟨child, hTarget, hInside⟩ :=
        within.get_dict (if_pos rfl : _ = some (Entry.dict value))
      have hNested := ihValue unique.2.1 ⟨false, child, []⟩ hInside
      rw [dictionaryLoop, hTarget]
      dsimp only
      split
      next =>
        refine hPut run (ihRest unique.2.2) hRest ?_
        rw [hTarget]
        exact .dict hNested
      next => exact fun _ => rfl

end Loop

/-- The condition on the trees: below the root, a dictionary of the source that has the
same path as one of the target is not empty. -/
def Filled (source target : Table κ α) : Prop :=
  ∀ path ≠ [], source.node path = some .dict → target.node path = some .dict →
    ∃ key, source.node (path ++ [key]) ≠ none

section Filled

variable {source target : Table κ α}

theorem filled_of_passes (unique : source.Unique) (hPasses : Passes source target) :
    Filled source target := by
  intro path hPath hSource hTarget
  induction path generalizing source target with
  | nil => exact absurd rfl hPath
  | cons key path ih =>
      obtain ⟨value, hValue, hInner⟩ := node_cons_eq_dict.mp hSource
      obtain ⟨child, hChild, hInnerChild⟩ := node_cons_eq_dict.mp hTarget
      obtain ⟨hNe, hNested⟩ := (passes_iff_get unique).mp hPasses key value child hValue hChild
      have hNode (rest : List κ) : source.node (key :: rest) = value.node rest := by
        rw [node_cons, hValue]
      cases path with
      | nil =>
          obtain ⟨other, hOther⟩ := exists_get hNe
          refine ⟨other, ?_⟩
          rw [List.singleton_append, hNode]
          exact fun h => hOther (node_singleton.mp h)
      | cons next path =>
          obtain ⟨other, hOther⟩ := ih (unique.get hValue) hNested (List.cons_ne_nil _ _) hInner
            hInnerChild
          refine ⟨other, ?_⟩
          rw [List.cons_append, hNode]
          exact hOther

/-- The entries after the first one meet the condition as well. -/
theorem Filled.of_cons {first : κ} (entry : Entry κ α) (hFirst : first ∉ source.keys)
    (filled : Filled (.cons first source entry) target) : Filled source target := by
  intro path hPath hSource hTarget
  cases path with
  | nil => exact absurd rfl hPath
  | cons key path =>
      have hOther : first ≠ key := by
        rintro rfl
        rw [node_cons, get_eq_none_iff.mpr hFirst] at hSource
        cases hSource
      have hNode (tail : List κ) :
          (Table.cons first source entry).node (key :: tail) = source.node (key :: tail) := by
        rw [node_cons, get_cons, if_neg hOther, ← node_cons]
      obtain ⟨other, hSome⟩ := filled (key :: path) hPath ((hNode path).trans hSource) hTarget
      rw [List.cons_append, hNode] at hSome
      exact ⟨other, hSome⟩

/-- A dictionary that meets one is not empty, and meets the condition. -/
theorem Filled.nested {key : κ} {value child : Table κ α} (filled : Filled source target)
    (hSource : source.get key = some (.dict value)) (hTarget : target.get key = some (.dict child)) :
    value ≠ .empty ∧ Filled value child := by
  have hNode (tail : List κ) : source.node (key :: tail) = value.node tail := by
    rw [node_cons, hSource]
  have hNodeTarget (tail : List κ) : target.node (key :: tail) = child.node tail := by
    rw [node_cons, hTarget]
  have hInner (path : List κ) (hValue : value.node path = some .dict)
      (hChild : child.node path = some .dict) : ∃ other, value.node (path ++ [other]) ≠ none := by
    obtain ⟨other, hSome⟩ := filled (key :: path) (List.cons_ne_nil _ _)
      ((hNode path).trans hValue) ((hNodeTarget path).trans hChild)
    rw [List.cons_append, hNode] at hSome
    exact ⟨other, hSome⟩
  refine ⟨?_, fun path _ => hInner path⟩
  rintro rfl
  obtain ⟨other, hSome⟩ := hInner [] rfl rfl
  exact hSome rfl

theorem passes_of_filled (unique : source.Unique) (filled : Filled source target) :
    Passes source target := by
  induction source generalizing target with
  | empty => trivial
  | leaf first value rest ih => exact ih unique.2 (filled.of_cons (.leaf value) unique.1)
  | dict first value rest ihValue ihRest =>
      refine ⟨fun child hChild => ?_, ihRest unique.2.2 (filled.of_cons (.dict value) unique.1)⟩
      obtain ⟨hNe, hNested⟩ := filled.nested (if_pos rfl : _ = some (Entry.dict value)) hChild
      exact ⟨hNe, ihValue unique.2.1 hNested⟩

end Filled

/-- A dictionary has no key twice. -/
structure Dictionary (κ α : Type) [DecidableEq κ] where
  table : Table κ α
  unique : table.Unique

/-- What a merge is to do with a source, in whatever order its entries are: the tables are
put together, every key has its turn, and the same source once more changes nothing. -/
structure Merges (call : Table κ α → Table κ α → MergeRun κ α) (source : Dictionary κ α)
    (target : Table κ α) : Prop where
  recursive : ∀ ordered : Dictionary κ α, ordered.table.Same source.table →
    (call ordered.table target).target.Same (source.table.merge target)
  processed : ∀ ordered : Dictionary κ α, ordered.table.Same source.table →
    (call ordered.table target).processed = ordered.table.keys
  again : ∀ ordered reordered : Dictionary κ α, ordered.table.Same source.table →
    reordered.table.Same source.table →
    (call reordered.table (call ordered.table target).target).target.Same
      (call ordered.table target).target

theorem mergeDictionaryIntoProvider_eq (source properties : Table κ α) :
    mergeDictionaryIntoProvider source properties =
      mergeDictionaryIntoDictionary source properties := providerLoop_eq source _

theorem merges_iff (source : Dictionary κ α) (target : Table κ α) :
    Merges mergeDictionaryIntoDictionary source target ↔ Filled source.table target := by
  constructor
  · intro merges
    apply filled_of_passes source.unique
    by_contra hNot
    have hShort := (dictionaryLoop_of_not_passes source.unique ⟨false, target, []⟩ hNot).2
    have hAll := merges.processed source fun _ => rfl
    rw [mergeDictionaryIntoDictionary] at hAll
    rw [hAll] at hShort
    exact Nat.lt_irrefl _ hShort
  · intro filled
    have hRun (ordered : Dictionary κ α) (same : ordered.table.Same source.table) :
        mergeDictionaryIntoDictionary ordered.table target =
          ⟨!ordered.table.keys.isEmpty, ordered.table.merge target, ordered.table.keys⟩ := by
      have hFilled : Filled ordered.table target := by
        intro path hPath hSource hTarget
        obtain ⟨key, hSome⟩ := filled path hPath ((same path).symm.trans hSource) hTarget
        exact ⟨key, fun h => hSome ((same _).symm.trans h)⟩
      have hPasses := passes_of_filled ordered.unique hFilled
      exact dictionaryLoop_of_passes ordered.unique ⟨false, target, []⟩ hPasses
    refine { recursive := ?_, processed := ?_, again := ?_ }
    · intro ordered same
      rw [hRun ordered same]
      exact merge_congr ordered.unique source.unique same target
    · intro ordered same
      rw [hRun ordered same]
    · intro ordered reordered same same'
      rw [hRun ordered same]
      apply dictionaryLoop_of_within reordered.unique
      intro path
      have hWithin := within_merge ordered.unique target path
      rw [same path, ← same' path] at hWithin
      exact hWithin

/-- Both merges do what they are to do just where no dictionary below the root of the
source is empty that meets one of the target. Key by key, the tables are put together in
one of four ways. -/
theorem both_merge_iff (source : Dictionary κ α) (target : Table κ α) :
    (Merges mergeDictionaryIntoDictionary source target ↔ Filled source.table target) ∧
      (Merges mergeDictionaryIntoProvider source target ↔ Filled source.table target) ∧
      ∀ key, (source.table.merge target).get key =
        mergeEntry (source.table.get key) (target.get key) := by
  have hSame : @mergeDictionaryIntoProvider κ α _ = mergeDictionaryIntoDictionary := by
    funext source properties
    exact mergeDictionaryIntoProvider_eq source properties
  refine ⟨merges_iff source target, ?_, get_merge source.unique target⟩
  rw [hSame]
  exact merges_iff source target

/-- An empty dictionary, and one more property behind it. -/
def emptyFirst : Dictionary String Nat where
  table := .dict "timings" .empty (.leaf "flags" 4 .empty)
  unique := by decide

theorem empty_ends_merge :
    ¬ ∀ (source : Dictionary String Nat) (target : Table String Nat),
      Merges mergeDictionaryIntoProvider source target := by
  intro hAll
  have hProcessed :=
    (hAll emptyFirst (.dict "timings" (.leaf "vfp" 3 .empty) .empty)).processed emptyFirst fun _ => rfl
  revert hProcessed
  decide

end NootedBlue.Display
