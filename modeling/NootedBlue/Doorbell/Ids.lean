import Mathlib.Algebra.Group.Nat.Defs
import Mathlib.Data.List.Rotate
import NootedBlue.Semantics.Bitmap

/-! The ids of doorbells. They lie in banks, and a bitmap says which of them are
taken. A search looks at the banks one after the other, from the one behind the last that
was searched. -/
namespace NootedBlue.Doorbell

open Bitmap

abbrev Word := BitVec 32

/-- The number of ids in a bank, and of banks. There are not more ids than slots in the
table of owners. -/
structure DoorbellLayout where
  per : Nat
  numBanks : Nat
  per_pos : 0 < per
  per_le : per ≤ 256
  ids_le : per * numBanks ≤ 256

/-- The place of an id in the bitmap, which has eight words for a bank, with so many ids
in a bank. -/
def placeAt (per id : Nat) : Place := ⟨id / per * 8 + id % per / 32, id % per % 32⟩

/-- The bank that is searched after a bank. -/
def nextBank (numBanks bank prev : Nat) : Nat :=
  if bank ≠ 8 then
    if bank + 1 < numBanks then bank + 1
    else if bank + 1 > numBanks then prev
    else 0
  else 0

/-- The first clear bit of a bank with so many ids, as a word and a bit. -/
def firstFree (per : Nat) (bitmap : Words) (bank : Nat) : Option (Nat × Nat) :=
  (List.range (per / 32)).findSome? fun w =>
    if bitmap (bank * 8 + w) = 0xffffffff then none
    else (firstClear (bitmap (bank * 8 + w))).map fun b => (w, b)

/-- The bitmap, and the bank that was searched last, which is a byte. -/
structure IdState where
  bitmap : Words
  bank : BitVec 8

/-- What a call returns, what it leaves, and the banks that it looked at. -/
structure Search where
  id : Nat
  state : IdState
  banks : List Nat

/-- The search looked at another bank before. -/
def Search.after (search : Search) (bank : Nat) : Search :=
  { search with banks := bank :: search.banks }

/-- One bank: its first clear bit is taken, or the search goes on. -/
def look (per bank : Nat) (rest : IdState → Search) (state : IdState) : Search :=
  match firstFree per state.bitmap bank with
  | some (w, b) =>
      { id := (per * bank + w * 32 + b) % 2 ^ 16
        state := ⟨set state.bitmap ⟨bank * 8 + w, b⟩, .ofNat 8 bank⟩
        banks := [bank] }
  | none => (rest { state with bank := .ofNat 8 bank }).after bank

/-- The loop over the banks, with the number of tries that are left. -/
def visit (per numBanks : Nat) : Nat → Nat → Nat → IdState → Search
  | 0, _, _ => fun state => ⟨0x100, state, []⟩
  | tries + 1, bank, prev =>
      let bank := nextBank numBanks bank prev
      look per bank (visit per numBanks tries bank bank)

/-- `allocDoorbellId`, with the fields at `0x9e0` and `0x9e2`: so many ids in each bank, and
so many banks. -/
def allocDoorbellId (per numBanks : Nat) (state : IdState) : Search :=
  visit per numBanks numBanks state.bank.toNat 0 state

/-- The banks that are looked at while nothing is found. -/
def visited (numBanks : Nat) : Nat → Nat → Nat → List Nat
  | 0, _, _ => []
  | tries + 1, bank, prev =>
      let bank := nextBank numBanks bank prev
      bank :: visited numBanks tries bank bank

/-- The search along a list of banks. -/
def scan (per : Nat) : List Nat → IdState → Search
  | [] => fun state => ⟨0x100, state, []⟩
  | bank :: rest => look per bank (scan per rest)

/-- The bank that follows one. From outside of the banks it is the first. -/
def following (numBanks bank : Nat) : Nat := if bank + 1 < numBanks then bank + 1 else 0

/-- All banks, from the one that follows a bank on. -/
def order (numBanks bank : Nat) : List Nat :=
  (List.range numBanks).rotate (following numBanks bank)

/-- All ids are taken that a search can find. -/
def Full (layout : DoorbellLayout) (bitmap : Words) : Prop :=
  ∀ bank < layout.numBanks, ∀ w < layout.per / 32, ∀ b < 32,
    Has bitmap (placeAt layout.per (layout.per * bank + w * 32 + b))

section Places

theorem placeAt_bit (per id : Nat) : (placeAt per id).bit < 32 := Nat.mod_lt _ (by decide)

/-- Two ids never share a place. -/
theorem placeAt_injective {per id other : Nat} (hPos : 0 < per) (hPer : per ≤ 256)
    (h : placeAt per id = placeAt per other) : id = other := by
  obtain ⟨hWord, hBit⟩ := Place.mk.inj h
  have hId := Nat.mod_lt id hPos
  have hOther := Nat.mod_lt other hPos
  have hDiv : id / per = other / per := by omega
  have hMod : id % per = other % per := by omega
  rw [← Nat.div_add_mod id per, ← Nat.div_add_mod other per, hDiv, hMod]

variable {per bank w b : Nat}

theorem placeAt_found (hW : w < per / 32) (hB : b < 32) :
    placeAt per (per * bank + w * 32 + b) = ⟨bank * 8 + w, b⟩ := by
  have hLocal : w * 32 + b < per := by omega
  have hPos := Nat.zero_lt_of_lt hLocal
  have hDiv : (per * bank + w * 32 + b) / per = bank := by
    rw [Nat.add_assoc, Nat.mul_add_div hPos, Nat.div_eq_of_lt hLocal, Nat.add_zero]
  have hMod : (per * bank + w * 32 + b) % per = w * 32 + b := by
    rw [Nat.add_assoc, Nat.mul_add_mod, Nat.mod_eq_of_lt hLocal]
  have hWord : (w * 32 + b) / 32 = w := by omega
  have hBit : (w * 32 + b) % 32 = b := by omega
  rw [placeAt, hDiv, hMod, hWord, hBit]

/-- What is found in a bank is an id. -/
theorem found_lt {numBanks : Nat} (hBank : bank < numBanks) (hW : w < per / 32) (hB : b < 32) :
    per * bank + w * 32 + b < per * numBanks := by
  have hNext : per * (bank + 1) ≤ per * numBanks := Nat.mul_le_mul_left _ hBank
  rw [Nat.mul_succ] at hNext
  omega

variable {bitmap : Words}

theorem firstFree_eq_some (h : firstFree per bitmap bank = some (w, b)) :
    w < per / 32 ∧ b < 32 ∧ ¬ Has bitmap ⟨bank * 8 + w, b⟩ := by
  obtain ⟨w', hMem, hFound⟩ := List.exists_of_findSome?_eq_some h
  split at hFound
  next => cases hFound
  next =>
    obtain ⟨b', hClear, hSame⟩ := Option.map_eq_some_iff.mp hFound
    cases hSame
    obtain ⟨hB, hBit⟩ := firstClear_eq_some hClear
    refine ⟨List.mem_range.mp hMem, hB, ?_⟩
    rw [Has, hBit]
    exact Bool.false_ne_true

theorem firstFree_eq_none (h : firstFree per bitmap bank = none) (hW : w < per / 32) (hB : b < 32) :
    Has bitmap ⟨bank * 8 + w, b⟩ := by
  have hNone := List.findSome?_eq_none_iff.mp h w (List.mem_range.mpr hW)
  rw [Has]
  split at hNone
  next hOnes =>
    show (bitmap (bank * 8 + w)).getLsbD b = true
    have hAll : (0xffffffff : Word) = BitVec.allOnes 32 := by decide
    rw [hOnes, hAll, BitVec.getLsbD_allOnes]
    exact decide_eq_true hB
  next => exact firstClear_eq_none (Option.map_eq_none_iff.mp hNone) hB

end Places

section Order

variable {numBanks : Nat}

theorem nextBank_lt {prev : Nat} (bank : Nat) (hBanks : 0 < numBanks) (hPrev : prev < numBanks) :
    nextBank numBanks bank prev < numBanks := by
  rw [nextBank]
  split
  · split
    · assumption
    · split
      · exact hPrev
      · exact hBanks
  · exact hBanks

theorem nextBank_of_lt {bank : Nat} (hBanks : numBanks ≤ 8) (hBank : bank < numBanks) :
    nextBank numBanks bank bank = (bank + 1) % numBanks := by
  have hEight : bank ≠ 8 := by omega
  rw [nextBank, if_pos hEight]
  split
  next hMore => rw [Nat.mod_eq_of_lt hMore]
  next hLast =>
    have hEnd : bank + 1 = numBanks := by omega
    rw [if_neg (by omega), hEnd, Nat.mod_self]

theorem following_lt (hPos : 0 < numBanks) (bank : Nat) : following numBanks bank < numBanks := by
  rw [following]
  split
  · assumption
  · exact hPos

/-- The first bank of a search, for each of the three cases of a byte. -/
theorem nextBank_zero (hLe : numBanks ≤ 8) (bank : Nat) :
    nextBank numBanks bank 0 = following numBanks bank := by
  rw [nextBank, following]
  split
  next =>
    split
    next => rfl
    next => rw [ite_self]
  next hEight => rw [if_neg (by omega)]

theorem mem_order (bank : Nat) {other : Nat} : other ∈ order numBanks bank ↔ other < numBanks := by
  rw [order, List.mem_rotate, List.mem_range]

/-- So many banks in a row, where the first one follows the last one. -/
def sequence (numBanks start tries : Nat) : List Nat :=
  (List.range tries).map fun i => (start + i) % numBanks

theorem sequence_succ (numBanks start tries : Nat) :
    sequence numBanks start (tries + 1) =
      start % numBanks :: sequence numBanks (start + 1) tries := by
  rw [sequence, List.range_succ_eq_map, List.map_cons, List.map_map, sequence]
  refine congrArg (start % numBanks :: ·) (List.map_congr_left fun i _ => ?_)
  show (start + (i + 1)) % _ = (start + 1 + i) % _
  rw [Nat.add_comm i, Nat.add_assoc]

theorem order_eq_sequence (numBanks bank : Nat) :
    order numBanks bank = sequence numBanks (following numBanks bank) numBanks := by
  apply List.ext_getElem
  · rw [order, sequence, List.length_rotate, List.length_map]
  · intro i hI hI'
    simp only [order, sequence, List.getElem_rotate, List.getElem_range, List.length_range,
      List.getElem_map]
    rw [Nat.add_comm]

theorem order_eq_cons (hPos : 0 < numBanks) (bank : Nat) {tries : Nat}
    (hTries : numBanks = tries + 1) :
    order numBanks bank =
      following numBanks bank :: sequence numBanks (following numBanks bank + 1) tries := by
  have hFirst : following numBanks bank % numBanks = following numBanks bank :=
    Nat.mod_eq_of_lt (following_lt hPos bank)
  have hSucc := sequence_succ numBanks (following numBanks bank) tries
  rw [hFirst, ← hTries] at hSucc
  rw [order_eq_sequence, hSucc]

/-- From one of the banks on, the loop follows the sequence. -/
theorem visited_eq_sequence (hLe : numBanks ≤ 8) {bank : Nat} (hBank : bank < numBanks)
    (tries : Nat) : visited numBanks tries bank bank = sequence numBanks (bank + 1) tries := by
  induction tries generalizing bank with
  | zero => rfl
  | succ tries ih =>
      have hLess : (bank + 1) % numBanks < numBanks := Nat.mod_lt _ (Nat.zero_lt_of_lt hBank)
      have hShift : sequence numBanks ((bank + 1) % numBanks + 1) tries =
          sequence numBanks (bank + 1 + 1) tries := by
        apply List.map_congr_left
        intro i _
        rw [Nat.add_assoc, Nat.mod_add_mod, Nat.add_assoc (bank + 1)]
      rw [visited, sequence_succ, nextBank_of_lt hLe hBank, ih hLess, hShift]

/-- A call that finds nothing looks at the banks in their order. -/
theorem visited_eq_order (hPos : 0 < numBanks) (hLe : numBanks ≤ 8) (bank : Nat) :
    visited numBanks numBanks bank 0 = order numBanks bank := by
  obtain ⟨tries, hTries⟩ := Nat.exists_eq_succ_of_ne_zero (Nat.ne_of_gt hPos)
  rw [order_eq_cons hPos bank hTries, ← visited_eq_sequence hLe (following_lt hPos bank),
    ← nextBank_zero hLe]
  conv_lhs => rw [hTries, visited, ← hTries]

theorem lt_of_mem_visited {tries bank prev other : Nat} (hPrev : prev < numBanks)
    (hMem : other ∈ visited numBanks tries bank prev) : other < numBanks := by
  induction tries generalizing bank prev with
  | zero => exact absurd hMem List.not_mem_nil
  | succ tries ih =>
      have hNext := nextBank_lt bank (Nat.zero_lt_of_lt hPrev) hPrev
      rcases List.mem_cons.mp hMem with rfl | hRest
      · exact hNext
      · exact ih hNext hRest

end Order

section Search

variable {per : Nat}

theorem visit_eq_scan (per numBanks tries bank prev : Nat) :
    visit per numBanks tries bank prev = scan per (visited numBanks tries bank prev) := by
  induction tries generalizing bank prev with
  | zero => rfl
  | succ tries ih => rw [visit, visited, scan, ih]

/-- How a search along a list ends: in the first bank that is not full, or after all. -/
inductive Scanned (per : Nat) (list : List Nat) (state : IdState) : Search → Prop where
  | found {before rest : List Nat} {bank w b : Nat} (split : list = before ++ bank :: rest)
      (full : ∀ other ∈ before, firstFree per state.bitmap other = none)
      (free : firstFree per state.bitmap bank = some (w, b)) :
      Scanned per list state
        { id := (per * bank + w * 32 + b) % 2 ^ 16
          state := ⟨set state.bitmap ⟨bank * 8 + w, b⟩, .ofNat 8 bank⟩
          banks := before ++ [bank] }
  | exhausted {last : BitVec 8}
      (full : ∀ other ∈ list, firstFree per state.bitmap other = none)
      (cursor : last = ((list.getLast?).map (BitVec.ofNat 8)).getD state.bank) :
      Scanned per list state ⟨0x100, { state with bank := last }, list⟩

theorem scanned (per : Nat) (list : List Nat) (state : IdState) :
    Scanned per list state (scan per list state) := by
  induction list generalizing state with
  | nil => exact .exhausted (fun other h => nomatch h) rfl
  | cons bank rest ih =>
      rw [scan, look]
      split
      next w b hFree =>
        exact @Scanned.found per _ state [] rest bank w b rfl (fun other h => nomatch h) hFree
      next hNone =>
        have hRest := ih { state with bank := .ofNat 8 bank }
        generalize scan per rest { state with bank := .ofNat 8 bank } = search at hRest
        cases hRest with
        | @found before after bank' w b split full free =>
            have hFull : ∀ other ∈ bank :: before, firstFree per state.bitmap other = none :=
              List.forall_mem_cons.mpr ⟨hNone, full⟩
            exact @Scanned.found per _ state (bank :: before) after bank' w b
              (congrArg (bank :: ·) split) hFull free
        | exhausted full cursor =>
            refine .exhausted (List.forall_mem_cons.mpr ⟨hNone, full⟩) ?_
            rw [cursor, List.getLast?_cons]
            cases rest.getLast? with
            | none => rfl
            | some last => rfl

end Search

section Allocation

theorem scanned_allocDoorbellId (layout : DoorbellLayout) (state : IdState) :
    Scanned layout.per (visited layout.numBanks layout.numBanks state.bank.toNat 0) state
      (allocDoorbellId layout.per layout.numBanks state) := by
  rw [allocDoorbellId, visit_eq_scan]
  exact scanned _ _ _

/-- What a call comes to: an id that was free is given out and taken, or all are taken and
nothing changes in the bitmap. -/
inductive Allocated (layout : DoorbellLayout) (state : IdState) : Search → Prop where
  | found {id : Nat} {last : BitVec 8} {banks : List Nat} (id_lt : id < 256)
      (free : ¬ Has state.bitmap (placeAt layout.per id)) (room : ¬ Full layout state.bitmap) :
      Allocated layout state ⟨id, ⟨set state.bitmap (placeAt layout.per id), last⟩, banks⟩
  | failed {last : BitVec 8} {banks : List Nat} (full : Full layout state.bitmap) :
      Allocated layout state ⟨0x100, ⟨state.bitmap, last⟩, banks⟩

theorem allocated (layout : DoorbellLayout) (state : IdState) :
    Allocated layout state (allocDoorbellId layout.per layout.numBanks state) := by
  have hScanned := scanned_allocDoorbellId layout state
  generalize allocDoorbellId layout.per layout.numBanks state = search at hScanned
  cases hScanned with
  | @found before rest bank w b split full free =>
      have hMem : bank ∈ visited layout.numBanks layout.numBanks state.bank.toNat 0 := by
        rw [split]
        exact List.mem_append_right _ List.mem_cons_self
      have hPos : 0 < layout.numBanks := by
        refine Nat.pos_of_ne_zero fun hZero => ?_
        rw [hZero] at hMem
        exact List.not_mem_nil hMem
      have hBank := lt_of_mem_visited hPos hMem
      obtain ⟨hW, hB, hClear⟩ := firstFree_eq_some free
      have hId : layout.per * bank + w * 32 + b < 256 :=
        Nat.lt_of_lt_of_le (found_lt hBank hW hB) layout.ids_le
      have hPlace : placeAt layout.per (layout.per * bank + w * 32 + b) = ⟨bank * 8 + w, b⟩ :=
        placeAt_found hW hB
      rw [Nat.mod_eq_of_lt (by omega), ← hPlace]
      rw [← hPlace] at hClear
      exact .found hId hClear fun hFull => hClear (hFull bank hBank w hW b hB)
  | exhausted full cursor =>
      refine .failed fun bank hBank w hW b hB => ?_
      have hIds := layout.ids_le
      have hPer : 32 ≤ layout.per := by omega
      have hBanks : layout.numBanks ≤ 8 := by
        have hMul : 32 * layout.numBanks ≤ layout.per * layout.numBanks :=
          Nat.mul_le_mul_right _ hPer
        omega
      rw [visited_eq_order (Nat.zero_lt_of_lt hBank) hBanks] at full
      rw [placeAt_found hW hB]
      exact firstFree_eq_none (full bank ((mem_order _).mpr hBank)) hW hB

end Allocation

end NootedBlue.Doorbell
