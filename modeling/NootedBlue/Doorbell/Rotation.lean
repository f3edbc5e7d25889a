import Mathlib.Algebra.Group.Nat.Defs
import Mathlib.Data.List.Perm.Subperm
import NootedBlue.Doorbell.Ids

/-! The order in which the banks are searched. It is a rotation of all of them, and begins
behind the one that was searched last. Whatever the bitmap holds, an id is found unless all
are taken, so ids that are given out and not yet released are different. -/
namespace NootedBlue.Doorbell

open Bitmap

/-- The fields at `0x9e2` and `0x9e0`: so many banks, and so many ids in each of them. -/
structure Banks where
  numBanks : Nat
  per : Nat
  numBanks_pos : 1 ≤ numBanks
  numBanks_le : numBanks ≤ 8
  per_dvd : 32 ∣ per
  per_le : per ≤ 256
  ids_le : numBanks * per ≤ 256

namespace Banks

variable (banks : Banks)

/-- The number of ids. -/
def ids : Nat := banks.numBanks * banks.per

section Ids

variable {banks}

theorem found_lt_ids {bank w b : Nat} (hBank : bank < banks.numBanks) (hW : w < banks.per / 32)
    (hB : b < 32) : banks.per * bank + w * 32 + b < banks.ids := by
  rw [ids, Nat.mul_comm banks.numBanks]
  exact found_lt hBank hW hB

/-- Every id has a bank, a word and a bit, since a bank has whole words. -/
theorem exists_found {id : Nat} (hId : id < banks.ids) :
    ∃ bank w b, bank < banks.numBanks ∧ w < banks.per / 32 ∧ b < 32 ∧
      id = banks.per * bank + w * 32 + b := by
  have hPos : 0 < banks.per := Nat.pos_of_ne_zero fun hZero => by
    rw [ids, hZero, Nat.mul_zero] at hId
    exact Nat.not_lt_zero _ hId
  obtain ⟨words, hWords⟩ := banks.per_dvd
  have hLocal := Nat.mod_lt id hPos
  have hBank : id / banks.per < banks.numBanks := Nat.div_lt_of_lt_mul (by rwa [Nat.mul_comm])
  have hSplit := Nat.div_add_mod id banks.per
  refine ⟨id / banks.per, id % banks.per / 32, id % banks.per % 32, hBank, ?_,
    Nat.mod_lt _ (by decide), by omega⟩
  omega

/-- All ids are taken where no bank has a clear bit. -/
theorem full_iff (bitmap : Words) :
    (∀ bank < banks.numBanks, firstFree banks.per bitmap bank = none) ↔
      ∀ id < banks.ids, Has bitmap (placeAt banks.per id) := by
  constructor
  · intro hNone id hId
    obtain ⟨bank, w, b, hBank, hW, hB, rfl⟩ := exists_found hId
    rw [placeAt_found hW hB]
    exact firstFree_eq_none (hNone bank hBank) hW hB
  · intro hFull bank hBank
    by_contra hSome
    obtain ⟨⟨w, b⟩, hFree⟩ := Option.ne_none_iff_exists'.mp hSome
    obtain ⟨hW, hB, hClear⟩ := firstFree_eq_some hFree
    have hTaken := hFull _ (found_lt_ids hBank hW hB)
    rw [placeAt_found hW hB] at hTaken
    exact hClear hTaken

theorem placeAt_inj {id other : Nat} (hId : id < banks.ids)
    (h : placeAt banks.per id = placeAt banks.per other) : id = other := by
  refine placeAt_injective (Nat.pos_of_ne_zero fun hZero => ?_) banks.per_le h
  rw [ids, hZero, Nat.mul_zero] at hId
  exact Nat.not_lt_zero _ hId

end Ids

/-- What a call does. It looks at the banks in their order, each once, up to the first one
with a clear bit, and remembers the last one. It fails just where all ids are taken, and
otherwise takes a free id, whose bit is all that changes. -/
structure Allocates (state : IdState) (search : Search) : Prop where
  visits : search.banks <+: order banks.numBanks state.bank.toNat
  cursor : search.banks.getLast? = some search.state.bank.toNat
  all : search.id = 0x100 → search.banks = order banks.numBanks state.bank.toNat
  full_iff : search.id = 0x100 ↔ ∀ id < banks.ids, Has state.bitmap (placeAt banks.per id)
  unchanged : search.id = 0x100 → search.state.bitmap = state.bitmap
  id_lt : search.id ≠ 0x100 → search.id < banks.ids
  free : search.id ≠ 0x100 → ¬ Has state.bitmap (placeAt banks.per search.id)
  taken : search.id ≠ 0x100 →
    search.state.bitmap = set state.bitmap (placeAt banks.per search.id)

/-- A bank is a byte. -/
theorem bank_toNat {bank : Nat} (hBank : bank < banks.numBanks) :
    (BitVec.ofNat 8 bank).toNat = bank := by
  have hBanks := banks.numBanks_le
  rw [BitVec.toNat_ofNat]
  omega

theorem allocates (state : IdState) :
    banks.Allocates state (allocDoorbellId banks.per banks.numBanks state) := by
  have hPos := banks.numBanks_pos
  have hScanned := scanned banks.per (order banks.numBanks state.bank.toNat) state
  rw [allocDoorbellId, visit_eq_scan, visited_eq_order hPos banks.numBanks_le]
  generalize scan banks.per (order banks.numBanks state.bank.toNat) state = search at hScanned
  cases hScanned with
  | @found before rest bank w b split full free =>
      have hBank : bank < banks.numBanks := by
        rw [← mem_order state.bank.toNat, split]
        exact List.mem_append_right _ List.mem_cons_self
      obtain ⟨hW, hB, hClear⟩ := firstFree_eq_some free
      have hId := found_lt_ids hBank hW hB
      have hIds : banks.ids ≤ 256 := banks.ids_le
      have hPlace : placeAt banks.per (banks.per * bank + w * 32 + b) = ⟨bank * 8 + w, b⟩ :=
        placeAt_found hW hB
      have hReturned : (banks.per * bank + w * 32 + b) % 2 ^ 16 = banks.per * bank + w * 32 + b :=
        Nat.mod_eq_of_lt (by omega)
      rw [hReturned]
      have hNe : banks.per * bank + w * 32 + b ≠ 0x100 := by omega
      refine { visits := ⟨rest, ?_⟩, cursor := ?_, all := fun h => absurd h hNe, full_iff := ?_
               unchanged := fun h => absurd h hNe, id_lt := fun _ => hId, free := ?_, taken := ?_ }
      · rw [split, List.append_assoc]
        rfl
      · rw [List.getLast?_concat]
        exact congrArg some (banks.bank_toNat hBank).symm
      · refine iff_of_false hNe fun hFull => ?_
        have hTaken := hFull _ hId
        rw [hPlace] at hTaken
        exact hClear hTaken
      · rw [hPlace]
        exact fun _ => hClear
      · rw [hPlace]
        exact fun _ => rfl
  | exhausted full cursor =>
      refine { visits := List.prefix_rfl, cursor := ?_, all := fun _ => rfl, full_iff := ?_
               unchanged := fun _ => rfl, id_lt := fun h => absurd rfl h
               free := fun h => absurd rfl h, taken := fun h => absurd rfl h }
      · obtain ⟨tries, hTries⟩ := Nat.exists_eq_succ_of_ne_zero (Nat.ne_of_gt banks.numBanks_pos)
        have hSome : (order banks.numBanks state.bank.toNat).getLast? ≠ none := by
          rw [order_eq_cons hPos _ hTries]
          exact fun h => List.cons_ne_nil _ _ (List.getLast?_eq_none_iff.mp h)
        obtain ⟨last, hLast⟩ := Option.ne_none_iff_exists'.mp hSome
        have hMem := (mem_order _).mp (List.mem_of_getLast? hLast)
        rw [hLast] at cursor ⊢
        rw [cursor]
        exact congrArg some (banks.bank_toNat hMem).symm
      · refine iff_of_true rfl ((Banks.full_iff state.bitmap).mp fun bank hBank => ?_)
        exact full bank ((mem_order _).mpr hBank)

section Runs

/-- An id is asked for, or one is given back. -/
inductive IdEvent where
  | alloc
  | release (id : Nat)

/-- The state, and the ids that were given out and not yet given back. -/
structure Holding where
  state : IdState
  held : List Nat

/-- One event. An id that is given back loses its bit. -/
def serve (holding : Holding) : IdEvent → Holding
  | .alloc =>
      let search := allocDoorbellId banks.per banks.numBanks holding.state
      { state := search.state
        held := if search.id = 0x100 then holding.held else search.id :: holding.held }
  | .release id =>
      { state := { holding.state with
          bitmap := clear holding.state.bitmap (placeAt banks.per id) }
        held := holding.held.erase id }

/-- The ids that are out are different, and their bits are set. -/
structure Sound (holding : Holding) : Prop where
  nodup : holding.held.Nodup
  lt : ∀ id ∈ holding.held, id < banks.ids
  bit : ∀ id ∈ holding.held, Has holding.state.bitmap (placeAt banks.per id)

/-- Only the bits of the ids that are out are set. -/
def OnlyHeld (holding : Holding) : Prop :=
  ∀ id < banks.ids, Has holding.state.bitmap (placeAt banks.per id) → id ∈ holding.held

variable {banks} {holding : Holding}

theorem serve_none (hNone : (allocDoorbellId banks.per banks.numBanks holding.state).id = 0x100) :
    banks.serve holding .alloc =
      ⟨(allocDoorbellId banks.per banks.numBanks holding.state).state, holding.held⟩ := by
  rw [Banks.serve, if_pos hNone]

theorem serve_found (hFound : (allocDoorbellId banks.per banks.numBanks holding.state).id ≠ 0x100) :
    banks.serve holding .alloc =
      ⟨(allocDoorbellId banks.per banks.numBanks holding.state).state,
        (allocDoorbellId banks.per banks.numBanks holding.state).id :: holding.held⟩ := by
  rw [Banks.serve, if_neg hFound]

/-- The bit that a call takes was clear, so the id was not out. -/
theorem Sound.fresh (sound : banks.Sound holding)
    (hFound : (allocDoorbellId banks.per banks.numBanks holding.state).id ≠ 0x100) :
    (allocDoorbellId banks.per banks.numBanks holding.state).id ∉ holding.held := fun hMem =>
  (banks.allocates holding.state).free hFound (sound.bit _ hMem)

theorem Sound.serve (sound : banks.Sound holding) (event : IdEvent) :
    banks.Sound (banks.serve holding event) := by
  cases event with
  | alloc =>
      have hCall := banks.allocates holding.state
      by_cases hNone : (allocDoorbellId banks.per banks.numBanks holding.state).id = 0x100
      · rw [serve_none hNone]
        refine { nodup := sound.nodup, lt := sound.lt, bit := ?_ }
        rw [hCall.unchanged hNone]
        exact sound.bit
      · have hFound : (allocDoorbellId banks.per banks.numBanks holding.state).id ≠ 0x100 := hNone
        rw [serve_found hFound]
        refine { nodup := List.nodup_cons.mpr ⟨sound.fresh hFound, sound.nodup⟩
                 lt := List.forall_mem_cons.mpr ⟨hCall.id_lt hFound, sound.lt⟩, bit := ?_ }
        intro id hMem
        rw [hCall.taken hFound, has_set (placeAt_bit _ _)]
        rcases List.mem_cons.mp hMem with rfl | hOld
        · exact .inl rfl
        · exact .inr (sound.bit id hOld)
  | release id =>
      refine { nodup := sound.nodup.erase id
               lt := fun other hMem => sound.lt other (List.mem_of_mem_erase hMem), bit := ?_ }
      intro other hMem
      obtain ⟨hNe, hOld⟩ := (List.Nodup.mem_erase_iff sound.nodup).mp hMem
      refine (has_clear (placeAt_bit _ _)).mpr ⟨fun hSame => hNe ?_, sound.bit other hOld⟩
      exact placeAt_inj (sound.lt other hOld) hSame

theorem OnlyHeld.serve (only : banks.OnlyHeld holding) (sound : banks.Sound holding)
    (event : IdEvent) : banks.OnlyHeld (banks.serve holding event) := by
  intro id hId hHas
  cases event with
  | alloc =>
      have hCall := banks.allocates holding.state
      by_cases hNone : (allocDoorbellId banks.per banks.numBanks holding.state).id = 0x100
      · rw [serve_none hNone, hCall.unchanged hNone] at hHas
        rw [serve_none hNone]
        exact only id hId hHas
      · have hFound : (allocDoorbellId banks.per banks.numBanks holding.state).id ≠ 0x100 := hNone
        rw [serve_found hFound] at hHas ⊢
        rw [hCall.taken hFound, has_set (placeAt_bit _ _)] at hHas
        rcases hHas with hSame | hOld
        · rw [placeAt_inj hId hSame]
          exact List.mem_cons_self
        · exact List.mem_cons_of_mem _ (only id hId hOld)
  | release released =>
      obtain ⟨hPlace, hOld⟩ := (has_clear (placeAt_bit _ _)).mp hHas
      apply (List.Nodup.mem_erase_iff sound.nodup).mpr
      exact ⟨fun hSame => hPlace (congrArg _ hSame), only id hId hOld⟩

/-- While not all ids are out, there is one to be found. -/
theorem found_iff (sound : banks.Sound holding) (only : banks.OnlyHeld holding) :
    (allocDoorbellId banks.per banks.numBanks holding.state).id ≠ 0x100 ↔
      holding.held.length < banks.ids := by
  have hSubset : holding.held ⊆ List.range banks.ids := fun id hMem =>
    List.mem_range.mpr (sound.lt id hMem)
  have hPerm := sound.nodup.subperm hSubset
  have hLe := hPerm.length_le
  rw [List.length_range] at hLe
  rw [ne_eq, (banks.allocates holding.state).full_iff]
  constructor
  · intro hNot
    refine Nat.lt_of_le_of_ne hLe fun hEq => hNot fun id hId => sound.bit id ?_
    have hAll := hPerm.perm_of_length_le (by rw [List.length_range, hEq])
    exact hAll.mem_iff.mpr (List.mem_range.mpr hId)
  · intro hLess hFull
    have hBack : List.range banks.ids ⊆ holding.held := fun id hMem =>
      only id (List.mem_range.mp hMem) (hFull id (List.mem_range.mp hMem))
    have hMany := (List.nodup_range.subperm hBack).length_le
    rw [List.length_range] at hMany
    omega

/-- Whatever happens, what is sound stays sound. -/
theorem Sound.run (sound : banks.Sound holding) (events : List IdEvent) :
    banks.Sound (events.foldl banks.serve holding) := by
  induction events generalizing holding with
  | nil => exact sound
  | cons event rest ih => exact ih (sound.serve event)

theorem OnlyHeld.run (only : banks.OnlyHeld holding) (sound : banks.Sound holding)
    (events : List IdEvent) : banks.OnlyHeld (events.foldl banks.serve holding) := by
  induction events generalizing holding with
  | nil => exact only
  | cons event rest ih => exact ih (only.serve sound event) (sound.serve event)

end Runs

end Banks

/-- Every call searches all banks in their order, each once, and fails only where all ids
are taken. In every run of calls and releases the ids that are out are different; where
all ids were free at first, a call finds one as long as not all of them are out. -/
theorem allocDoorbellId_rotates (banks : Banks) (state : IdState) :
    (banks.Allocates state (allocDoorbellId banks.per banks.numBanks state) ∧
        (order banks.numBanks state.bank.toNat).Perm (List.range banks.numBanks) ∧
        (order banks.numBanks state.bank.toNat).head? =
          some (following banks.numBanks state.bank.toNat)) ∧
      ∀ events : List Banks.IdEvent,
        banks.Sound (events.foldl banks.serve ⟨state, []⟩) ∧
          ((∀ id < banks.ids, ¬ Has state.bitmap (placeAt banks.per id)) →
            ((allocDoorbellId banks.per banks.numBanks
                (events.foldl banks.serve ⟨state, []⟩).state).id ≠ 0x100 ↔
              (events.foldl banks.serve ⟨state, []⟩).held.length < banks.ids)) := by
  have sound : banks.Sound ⟨state, []⟩ :=
    { nodup := List.nodup_nil, lt := fun id h => (nomatch h), bit := fun id h => (nomatch h) }
  refine ⟨⟨banks.allocates state, List.rotate_perm _ _, ?_⟩, fun events => ⟨sound.run events, ?_⟩⟩
  · obtain ⟨tries, hTries⟩ := Nat.exists_eq_succ_of_ne_zero (Nat.ne_of_gt banks.numBanks_pos)
    rw [order_eq_cons banks.numBanks_pos _ hTries]
    rfl
  · intro hFree
    have only : banks.OnlyHeld ⟨state, []⟩ := fun id hId hHas => absurd hHas (hFree id hId)
    exact Banks.found_iff (sound.run events) (only.run sound events)

end NootedBlue.Doorbell
