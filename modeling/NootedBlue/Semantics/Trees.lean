import Mathlib.Logic.Basic

/-! Tables of tables. A key of a table has a value, which is a leaf or a table again. A
table is written down as its entries in some order; what it means is told by the paths
that lead through it. -/
namespace Trees

/-- The entries of a table, one after the other. -/
inductive Table (κ α : Type) where
  | empty
  | leaf (key : κ) (value : α) (rest : Table κ α)
  | dict (key : κ) (value rest : Table κ α)
  deriving DecidableEq, Repr

/-- What a key may have. -/
inductive Entry (κ α : Type) where
  | leaf (value : α)
  | dict (table : Table κ α)
  deriving DecidableEq, Repr

/-- What is found at the end of a path. -/
inductive Node (α : Type) where
  | leaf (value : α)
  | dict
  deriving DecidableEq, Repr

variable {κ α : Type}

namespace Table

def keys : Table κ α → List κ
  | .empty => []
  | .leaf key _ rest => key :: rest.keys
  | .dict key _ rest => key :: rest.keys

/-- No table has a key twice. -/
def Unique : Table κ α → Prop
  | .empty => True
  | .leaf key _ rest => key ∉ rest.keys ∧ rest.Unique
  | .dict key value rest => key ∉ rest.keys ∧ value.Unique ∧ rest.Unique

/-- One more entry at the front. -/
def cons (key : κ) (rest : Table κ α) : Entry κ α → Table κ α
  | .leaf value => .leaf key value rest
  | .dict table => .dict key table rest

variable [DecidableEq κ]

instance decidableUnique : (table : Table κ α) → Decidable table.Unique
  | .empty => .isTrue trivial
  | .leaf _ _ rest =>
      have := decidableUnique rest
      inferInstanceAs (Decidable (_ ∧ _))
  | .dict _ value rest =>
      have := decidableUnique value
      have := decidableUnique rest
      inferInstanceAs (Decidable (_ ∧ _ ∧ _))

def get : Table κ α → κ → Option (Entry κ α)
  | .empty, _ => none
  | .leaf key value rest, other => if key = other then some (.leaf value) else rest.get other
  | .dict key value rest, other => if key = other then some (.dict value) else rest.get other

/-- The value of a key is replaced, or a new entry comes to the end. -/
def set : Table κ α → κ → Entry κ α → Table κ α
  | .empty, key, entry => cons key .empty entry
  | .leaf first value rest, key, entry =>
      if first = key then cons key rest entry else .leaf first value (rest.set key entry)
  | .dict first value rest, key, entry =>
      if first = key then cons key rest entry else .dict first value (rest.set key entry)

/-- What is at the end of a path. -/
def node (table : Table κ α) : List κ → Option (Node α)
  | [] => some .dict
  | key :: path =>
      match table.get key with
      | none => none
      | some (.leaf value) => if path = [] then some (.leaf value) else none
      | some (.dict child) => child.node path

/-- The same tree, whatever the order of the entries is. -/
def Same (table other : Table κ α) : Prop := ∀ path, table.node path = other.node path

/-- All of a table is in another one as well. -/
def Within (table other : Table κ α) : Prop :=
  ∀ path, table.node path = none ∨ table.node path = other.node path

/-- A table put into another one. Tables that meet are put together, and otherwise the
value that is put in wins. -/
def merge : Table κ α → Table κ α → Table κ α
  | .empty, target => target
  | .leaf key value rest, target => merge rest (target.set key (.leaf value))
  | .dict key value rest, target =>
      match target.get key with
      | some (.dict child) => merge rest (target.set key (.dict (merge value child)))
      | _ => merge rest (target.set key (.dict value))

end Table

open Table

variable {table other third : Table κ α} {key : κ} {entry : Entry κ α}

section Entries

/-- A table is empty, or it has a first entry. -/
@[elab_as_elim] theorem cons_induction {motive : Table κ α → Prop} (empty : motive .empty)
    (cons : ∀ key entry rest, motive rest → motive (cons key rest entry)) (table : Table κ α) :
    motive table := by
  induction table with
  | empty => exact empty
  | leaf key value rest ih => exact cons key (.leaf value) rest ih
  | dict key value rest ihValue ihRest => exact cons key (.dict value) rest ihRest

theorem keys_cons (key : κ) (rest : Table κ α) (entry : Entry κ α) :
    (cons key rest entry).keys = key :: rest.keys := by
  cases entry <;> rfl

theorem Table.Unique.cons_iff : (cons key table entry).Unique ↔
    key ∉ table.keys ∧ (∀ value, entry = .dict value → value.Unique) ∧ table.Unique := by
  cases entry with
  | leaf value => simp [cons, Unique]
  | dict value => simp [cons, Unique]

end Entries

variable [DecidableEq κ]

section Get

theorem get_cons (key other : κ) (rest : Table κ α) (entry : Entry κ α) :
    (cons key rest entry).get other = if key = other then some entry else rest.get other := by
  cases entry <;> rfl

theorem set_cons (first key : κ) (rest : Table κ α) (entry entry' : Entry κ α) :
    (cons first rest entry).set key entry' =
      if first = key then cons key rest entry' else cons first (rest.set key entry') entry := by
  cases entry <;> rfl

theorem get_set (table : Table κ α) (key other : κ) (entry : Entry κ α) :
    (table.set key entry).get other = if key = other then some entry else table.get other := by
  induction table using cons_induction with
  | empty => exact get_cons key other .empty entry
  | cons first entry' rest ih =>
      rw [set_cons, get_cons]
      by_cases hFirst : first = key
      · rw [if_pos hFirst, get_cons, hFirst]
        split <;> rfl
      · rw [if_neg hFirst, get_cons, ih]
        by_cases hKey : key = other
        · rw [if_pos hKey, if_pos hKey, if_neg (hKey ▸ hFirst)]
        · rw [if_neg hKey, if_neg hKey]

theorem get_eq_none_iff : table.get key = none ↔ key ∉ table.keys := by
  induction table using cons_induction with
  | empty => exact iff_of_true rfl List.not_mem_nil
  | cons first entry rest ih =>
      rw [get_cons, keys_cons, List.mem_cons, not_or, ← ih]
      by_cases hFirst : first = key
      · rw [if_pos hFirst]
        exact iff_of_false (Option.some_ne_none _) fun h => h.1 hFirst.symm
      · rw [if_neg hFirst]
        exact (and_iff_right (Ne.symm hFirst)).symm

/-- A table inside a table without double keys has none either. -/
theorem Table.Unique.get {value : Table κ α} (unique : table.Unique)
    (h : table.get key = some (.dict value)) : value.Unique := by
  induction table with
  | empty => cases h
  | leaf first leaf rest ih =>
      rw [Table.get] at h
      split at h
      next => cases h
      next => exact ih unique.2 h
  | dict first child rest ihValue ihRest =>
      rw [Table.get] at h
      split at h
      next =>
        cases h
        exact unique.2.1
      next => exact ihRest unique.2.2 h

end Get

section Nodes

theorem node_cons (table : Table κ α) (key : κ) (path : List κ) :
    table.node (key :: path) =
      match table.get key with
      | none => none
      | some (.leaf value) => if path = [] then some (.leaf value) else none
      | some (.dict child) => child.node path := rfl

/-- A path that ends at a table goes through tables only. -/
theorem node_cons_eq_dict {path : List κ} :
    table.node (key :: path) = some .dict ↔
      ∃ child, table.get key = some (.dict child) ∧ child.node path = some .dict := by
  rw [node_cons]
  cases table.get key with
  | none => simp
  | some found =>
      cases found with
      | leaf value => simp
      | dict child => simp

theorem node_singleton : table.node [key] = none ↔ table.get key = none := by
  rw [node_cons]
  cases table.get key with
  | none => simp
  | some found =>
      cases found with
      | leaf value => simp
      | dict child => simp [node]

theorem exists_get (hNe : table ≠ .empty) : ∃ key, table.get key ≠ none := by
  cases table with
  | empty => exact absurd rfl hNe
  | leaf key value rest => exact ⟨key, by simp [Table.get]⟩
  | dict key value rest => exact ⟨key, by simp [Table.get]⟩

theorem Table.Same.symm (same : table.Same other) : other.Same table := fun path => (same path).symm

theorem Table.Same.trans (first : table.Same other) (second : other.Same third) : table.Same third :=
  fun path => (first path).trans (second path)

/-- Two keys have the same: nothing, one leaf, or tables that are the same. -/
inductive Alike : Option (Entry κ α) → Option (Entry κ α) → Prop where
  | none : Alike none none
  | leaf (value : α) : Alike (some (.leaf value)) (some (.leaf value))
  | dict {child child' : Table κ α} (same : child.Same child') :
      Alike (some (.dict child)) (some (.dict child'))

theorem Alike.refl (found : Option (Entry κ α)) : Alike found found :=
  match found with
  | .none => .none
  | some (.leaf value) => .leaf value
  | some (.dict _) => .dict fun _ => rfl

/-- Tables that are the same have the same for every key. -/
theorem Table.Same.get (same : table.Same other) (key : κ) :
    Alike (table.get key) (other.get key) := by
  have hPath (path : List κ) : table.node (key :: path) = other.node (key :: path) := same _
  simp only [node_cons] at hPath
  have hHere := hPath []
  cases hTable : table.get key with
  | none =>
      cases hOther : other.get key with
      | none => exact .none
      | some entry => cases entry <;> simp [hTable, hOther, node] at hHere
  | some entry =>
      cases hOther : other.get key with
      | none => cases entry <;> simp [hTable, hOther, node] at hHere
      | some entry' =>
          cases entry with
          | leaf value =>
              cases entry' with
              | leaf value' =>
                  simp [hTable, hOther] at hHere
                  rw [hHere]
                  exact .leaf value'
              | dict child' => simp [hTable, hOther, node] at hHere
          | dict child =>
              cases entry' with
              | leaf value' => simp [hTable, hOther, node] at hHere
              | dict child' =>
                  refine .dict fun path => ?_
                  have hChild := hPath path
                  rw [hTable, hOther] at hChild
                  exact hChild

theorem same_of_get (h : ∀ key, Alike (table.get key) (other.get key)) : table.Same other := by
  intro path
  cases path with
  | nil => rfl
  | cons key path =>
      rw [node_cons, node_cons]
      have hKey := h key
      generalize table.get key = found at hKey
      generalize other.get key = found' at hKey
      cases hKey with
      | none => rfl
      | leaf value => rfl
      | dict same => exact same path

/-- Setting a key to what it has already changes nothing. -/
theorem same_set (h : Alike (some entry) (table.get key)) : (table.set key entry).Same table := by
  apply same_of_get
  intro other
  rw [get_set]
  split
  next hKey => exact hKey ▸ h
  next => exact Alike.refl _

end Nodes

section Merge

/-- What a key has in the tables that are put together: the value that is put in wins,
but tables that meet are put together. -/
def mergeEntry : Option (Entry κ α) → Option (Entry κ α) → Option (Entry κ α)
  | none, found => found
  | some (.dict value), some (.dict child) => some (.dict (merge value child))
  | some entry, _ => some entry

/-- One step of the merge. -/
theorem merge_cons (key : κ) (entry : Entry κ α) (rest target : Table κ α) :
    ∃ entry', mergeEntry (some entry) (target.get key) = some entry' ∧
      merge (cons key rest entry) target = merge rest (target.set key entry') := by
  cases entry with
  | leaf value => exact ⟨.leaf value, rfl, rfl⟩
  | dict value =>
      rw [cons, merge]
      cases target.get key with
      | none => exact ⟨.dict value, rfl, rfl⟩
      | some found =>
          cases found with
          | leaf _ => exact ⟨.dict value, rfl, rfl⟩
          | dict child => exact ⟨.dict (merge value child), rfl, rfl⟩

/-- The merge, key by key. -/
theorem get_merge {source : Table κ α} (unique : source.Unique) (target : Table κ α) (key : κ) :
    (merge source target).get key = mergeEntry (source.get key) (target.get key) := by
  induction source using cons_induction generalizing target with
  | empty => rfl
  | cons first entry rest ih =>
      obtain ⟨hFirst, -, hRest⟩ := Table.Unique.cons_iff.mp unique
      obtain ⟨entry', hEntry, hMerge⟩ := merge_cons first entry rest target
      rw [hMerge, ih hRest, get_set, get_cons]
      by_cases hKey : first = key
      · subst hKey
        rw [if_pos rfl, if_pos rfl, get_eq_none_iff.mpr hFirst, hEntry]
        rfl
      · rw [if_neg hKey, if_neg hKey]

/-- What is put in can be written down in any order. -/
theorem merge_congr {source source' : Table κ α} (unique : source.Unique)
    (unique' : source'.Unique) (same : source.Same source') (target : Table κ α) :
    (merge source target).Same (merge source' target) := by
  intro path
  induction path generalizing source source' target with
  | nil => rfl
  | cons key path ih =>
      have hKey := same.get key
      rw [node_cons, node_cons, get_merge unique, get_merge unique']
      generalize hFound : source.get key = found at hKey
      generalize hFound' : source'.get key = found' at hKey
      cases hKey with
      | none => rfl
      | leaf value => rfl
      | dict sameChild =>
          cases hTarget : target.get key with
          | none => exact sameChild path
          | some entry =>
              cases entry with
              | leaf value => exact sameChild path
              | dict child => exact ih (unique.get hFound) (unique'.get hFound') sameChild child

/-- After a merge, all that was put in is there. -/
theorem within_merge {source : Table κ α} (unique : source.Unique) (target : Table κ α) :
    source.Within (merge source target) := by
  intro path
  induction path generalizing source target with
  | nil => exact .inr rfl
  | cons key path ih =>
      rw [node_cons, node_cons, get_merge unique]
      cases hSource : source.get key with
      | none => exact .inl rfl
      | some entry =>
          cases entry with
          | leaf value => exact .inr rfl
          | dict value =>
              cases target.get key with
              | none => exact .inr rfl
              | some found =>
                  cases found with
                  | leaf _ => exact .inr rfl
                  | dict child => exact ih (unique.get hSource) child

end Merge

section Within

theorem Table.Within.congr (within : table.Within other) (same : other.Same third) :
    table.Within third :=
  fun path => (within path).imp_right fun h => h.trans (same path)

/-- A leaf that is inside is there. -/
theorem Table.Within.get_leaf {value : α} (within : table.Within other)
    (h : table.get key = some (.leaf value)) : other.get key = some (.leaf value) := by
  have hHere := within [key]
  simp only [node_cons, h] at hHere
  cases hOther : other.get key with
  | none => simp [hOther] at hHere
  | some found =>
      cases found with
      | leaf value' =>
          simp [hOther] at hHere
          rw [hHere]
      | dict child => simp [hOther, node] at hHere

/-- A table that is inside meets a table, which has all of it. -/
theorem Table.Within.get_dict {value : Table κ α} (within : table.Within other)
    (h : table.get key = some (.dict value)) :
    ∃ child, other.get key = some (.dict child) ∧ value.Within child := by
  have hPath (path : List κ) := within (key :: path)
  simp only [node_cons, h] at hPath
  have hHere := hPath []
  cases hOther : other.get key with
  | none => simp [hOther, node] at hHere
  | some found =>
      cases found with
      | leaf value' => simp [hOther, node] at hHere
      | dict child =>
          simp only [hOther] at hPath
          exact ⟨child, rfl, hPath⟩

/-- The entries after the first one are inside as well. -/
theorem Table.Within.of_cons (entry : Entry κ α) (hFirst : key ∉ table.keys)
    (within : (cons key table entry).Within other) : table.Within other := by
  intro path
  cases path with
  | nil => exact .inr rfl
  | cons head path =>
      by_cases hHead : key = head
      · left
        rw [node_cons, ← hHead, get_eq_none_iff.mpr hFirst]
      · have hRest := within (head :: path)
        rw [node_cons, get_cons, if_neg hHead] at hRest
        exact hRest

end Within

end Trees
