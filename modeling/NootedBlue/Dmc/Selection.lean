import NootedBlue.Dmc.Safety

/-! Which entry of a package is taken for an id: the first that names the id and
matches the stepping, among no more entries than the version has room for. -/
namespace NootedBlue.Dmc

open Interaction Bytes

section Entries

variable (memory : Memory) (si : SteppingInfo) (packageVer : Nat)

/-- The offset of an entry of a package. -/
def fwInfoAt (entries i : Nat) : Nat := entries + i * fwInfoSize

/-- An entry names an id; in the first version every entry names the main one. -/
def Names (entry : Nat) (id : DmcId) : Prop :=
  if packageVer ≤ 1 then id = .main else u8 memory (entry + 1) = id.code

/-- An entry names an id and matches the stepping. -/
structure Offers (entry : Nat) (id : DmcId) : Prop where
  names : Names memory packageVer entry id
  matches' : fwInfoMatchesStepping (memory (entry + 2)) (memory (entry + 3)) si = true

instance (entry : Nat) (id : DmcId) : Decidable (Names memory packageVer entry id) :=
  inferInstanceAs (Decidable (if packageVer ≤ 1 then id = .main else u8 memory (entry + 1) = id.code))

instance (entry : Nat) (id : DmcId) : Decidable (Offers memory si packageVer entry id) :=
  decidable_of_iff (Names memory packageVer entry id ∧
    fwInfoMatchesStepping (memory (entry + 2)) (memory (entry + 3)) si = true)
    ⟨fun h => ⟨h.1, h.2⟩, fun h => ⟨h.names, h.matches'⟩⟩

/-- The star in place of a stepping, which leaves it open. -/
def star : UInt8 := 0x2a

/-- The stepping of an entry matches: it is that of the engine, and the substepping is
too or is left open; or the engine leaves its stepping open, and the substepping is
the same; or the entry leaves both open. A star in one place only, against a letter
that differs in the other, matches nothing. -/
theorem fwInfoMatchesStepping_iff (stepping substepping : UInt8) :
    fwInfoMatchesStepping stepping substepping si = true ↔
      si.stepping = stepping ∧ (si.substepping = substepping ∨ substepping = star) ∨
        si.stepping = star ∧ si.substepping = substepping ∨
        stepping = star ∧ substepping = star := by
  simp only [fwInfoMatchesStepping, Bool.or_eq_true, Bool.and_eq_true, decide_eq_true_eq, star]
  rw [or_assoc, and_comm, ← and_or_left, or_comm (a := substepping = 42)]

theorem offers_iff (entry : Nat) (id : DmcId) :
    Offers memory si packageVer entry id ↔
      Names memory packageVer entry id ∧
        (si.stepping = memory (entry + 2) ∧
            (si.substepping = memory (entry + 3) ∨ memory (entry + 3) = star) ∨
          si.stepping = star ∧ si.substepping = memory (entry + 3) ∨
          memory (entry + 2) = star ∧ memory (entry + 3) = star) := by
  rw [← fwInfoMatchesStepping_iff]
  exact ⟨fun h => ⟨h.names, h.matches'⟩, fun h => ⟨h.1, h.2⟩⟩

/-- The entry of an id, once the program at an offset is taken for it. -/
def DmcFwInfo.take (info : DmcFwInfo) (offset : Nat) : DmcFwInfo :=
  { info with present := true, dmcOffset := offset }

/-- Nothing but the offset of the program has changed, and whether it is there. -/
def SameButOffset (before after : DmcFwInfo) : Prop :=
  after = { before with present := after.present, dmcOffset := after.dmcOffset }

/-- What one entry of a package leaves of the entry of an id. -/
def offer (entry : Nat) (id : DmcId) (info : DmcFwInfo) : DmcFwInfo :=
  if info.present = false ∧ Offers memory si packageVer entry id then
    info.take (u32 memory (entry + 4))
  else info

/-- The first entry that offers a program for an id. -/
def firstOffer (entries count : Nat) (id : DmcId) : Option Nat :=
  (List.range count).find? fun i => Offers memory si packageVer (fwInfoAt entries i) id

end Entries

section Step

variable {memory : Memory} {si : SteppingInfo} {packageVer entry entries count : Nat}
  {dmc : IntelDmc} {id : DmcId}

theorem DmcId.code_injective {id other : DmcId} (h : id.code = other.code) : id = other := by
  cases id <;> cases other <;> first | rfl | cases h

theorem DmcId.ofCode_eq_some_iff {code : Nat} : DmcId.ofCode code = some id ↔ code = id.code := by
  constructor
  · intro h
    simp only [DmcId.ofCode] at h
    have hCode := List.find?_some h
    exact (of_decide_eq_true hCode).symm
  · rintro rfl
    cases id <;> rfl

/-- The id that is read of an entry is the one that it names. -/
theorem ofCode_readDmcId_iff :
    DmcId.ofCode ((readDmcId packageVer entry).answer memory) = some id ↔
      Names memory packageVer entry id := by
  rw [DmcId.ofCode_eq_some_iff]
  simp only [readDmcId, Names]
  split
  · exact ⟨fun h => (DmcId.code_injective h).symm, fun h => h ▸ rfl⟩
  · rfl

theorem Names.unique {other : DmcId} (h : Names memory packageVer entry id)
    (hOther : Names memory packageVer entry other) : other = id :=
  Option.some.inj
    ((ofCode_readDmcId_iff.mpr hOther).symm.trans (ofCode_readDmcId_iff.mpr h))

theorem info_set (info : DmcFwInfo) (other : DmcId) :
    (dmc.set id info).info other = if other = id then info else dmc.info other :=
  Function.update_apply dmc.info id info other

/-- An entry does to each id what it offers it. -/
theorem info_setFwOffset (other : DmcId) :
    ((setFwOffset si packageVer entry dmc).answer memory).info other =
      offer memory si packageVer entry other (dmc.info other) := by
  simp only [setFwOffset, Program.answer_bind]
  split
  · next hNone =>
      rw [offer, if_neg]
      · rfl
      · rintro ⟨-, hOffers⟩
        rw [ofCode_readDmcId_iff.mpr hOffers.names] at hNone
        cases hNone
  · next id hId =>
      have hNames := ofCode_readDmcId_iff.mp hId
      have hOther : other ≠ id → ¬ Offers memory si packageVer entry other :=
        fun hNe hOffers => hNe (hNames.unique hOffers.names)
      split
      · next hPresent =>
          rw [offer, if_neg]
          · rfl
          · rintro ⟨hAbsent, hOffers⟩
            obtain rfl := hNames.unique hOffers.names
            rw [hPresent] at hAbsent
            cases hAbsent
      · next hAbsent =>
          simp only [Program.answer_bind, Program.pure_eq, Program.answer_done]
          rw [Bool.not_eq_true] at hAbsent
          split
          · next hMatch =>
              rw [info_set]
              by_cases hSame : other = id
              · subst hSame
                rw [if_pos rfl, offer, if_pos ⟨hAbsent, hNames, hMatch⟩]
                rfl
              · rw [if_neg hSame, offer, if_neg fun h => hOther hSame h.2]
          · next hMatch =>
              rw [offer, if_neg]
              rintro ⟨-, hOffers⟩
              obtain rfl := hNames.unique hOffers.names
              exact hMatch hOffers.matches'

theorem rest_setFwOffset :
    ((setFwOffset si packageVer entry dmc).answer memory).version = dmc.version ∧
      ((setFwOffset si packageVer entry dmc).answer memory).maxFwSize = dmc.maxFwSize := by
  simp only [setFwOffset, Program.answer_bind]
  split
  · exact ⟨rfl, rfl⟩
  · split
    · exact ⟨rfl, rfl⟩
    · simp only [Program.answer_bind, Program.pure_eq, Program.answer_done]
      split
      · exact ⟨rfl, rfl⟩
      · exact ⟨rfl, rfl⟩

end Step

section SameButOffset

variable {memory : Memory} {si : SteppingInfo} {packageVer entry entries count size : Nat}
  {package remSize r : Nat} {dmc : IntelDmc} {id : DmcId}

theorem SameButOffset.trans {first second third : DmcFwInfo} (h : SameButOffset first second)
    (hNext : SameButOffset second third) : SameButOffset first third := by
  unfold SameButOffset at h hNext ⊢
  rw [h] at hNext
  exact hNext

theorem sameButOffset_setFwOffset :
    SameButOffset (dmc.info id) (((setFwOffset si packageVer entry dmc).answer memory).info id) := by
  rw [info_setFwOffset, offer]
  split
  · rfl
  · rfl

theorem sameButOffset_dmcSetFwOffset :
    SameButOffset (dmc.info id)
      (((dmcSetFwOffset si packageVer entries count dmc).answer memory).info id) := by
  induction count generalizing entries dmc with
  | zero => rfl
  | succ count ih =>
      simp only [dmcSetFwOffset, Program.answer_bind]
      exact sameButOffset_setFwOffset.trans ih

theorem sameButOffset_parseDmcFwPackage :
    SameButOffset (dmc.info id)
      (((parseDmcFwPackage si package remSize dmc).answer memory).2.info id) := by
  simp only [parseDmcFwPackage]
  split
  · rfl
  · simp only [Program.answer_bind]
    split
    · rfl
    · split
      · rfl
      · simp only [Program.answer_bind]
        simp only [readEntries]
        split
        · rfl
        · simp only [Program.answer_bind]
          exact sameButOffset_dmcSetFwOffset

/-- All that comes before the headers changes the offsets only. -/
theorem sameButOffset_readPackage :
    SameButOffset (dmc.info id) (((readPackage si size dmc).answer memory).2.info id) := by
  have hCss : ((parseDmcFwCss size dmc).answer memory).2.info id = dmc.info id := by
    simp only [parseDmcFwCss]
    split
    · rfl
    · simp only [Program.answer_bind, Program.pure_eq, Program.answer_done]
      split
      · rfl
      · rfl
  simp only [readPackage]
  split
  · rfl
  · simp only [Program.answer_bind]
    rw [← hCss]
    simp only [readPackageBehind]
    split
    · rfl
    · simp only [Program.answer_bind]
      exact sameButOffset_parseDmcFwPackage

end SameButOffset

section Loop

variable {memory : Memory} {si : SteppingInfo} {packageVer entries count : Nat}
  {dmc : IntelDmc} {id : DmcId}

/-- A program that is there is not replaced. -/
theorem info_dmcSetFwOffset_of_present (h : (dmc.info id).present = true) :
    ((dmcSetFwOffset si packageVer entries count dmc).answer memory).info id = dmc.info id := by
  induction count generalizing entries dmc with
  | zero => rfl
  | succ count ih =>
      have hKept : ((setFwOffset si packageVer entries dmc).answer memory).info id = dmc.info id := by
        rw [info_setFwOffset, offer, if_neg]
        rintro ⟨hAbsent, -⟩
        rw [h] at hAbsent
        cases hAbsent
      simp only [dmcSetFwOffset, Program.answer_bind]
      rw [ih (by rw [hKept, h]), hKept]

theorem firstOffer_succ (entries count : Nat) (id : DmcId) :
    firstOffer memory si packageVer entries (count + 1) id =
      if Offers memory si packageVer entries id then some 0
      else (firstOffer memory si packageVer (entries + fwInfoSize) count id).map (· + 1) := by
  have hFirst : fwInfoAt entries 0 = entries := by simp [fwInfoAt]
  have hNext : ∀ i, fwInfoAt entries (i + 1) = fwInfoAt (entries + fwInfoSize) i := by
    intro i
    simp only [fwInfoAt, Nat.succ_mul]
    omega
  simp only [firstOffer, List.range_succ_eq_map, List.find?_cons, hFirst, List.find?_map,
    Function.comp_def, Nat.succ_eq_add_one, hNext]
  by_cases hOffers : Offers memory si packageVer entries id
  · simp [hOffers]
  · simp [hOffers]

/-- The loop over the entries takes the first offer. -/
theorem info_dmcSetFwOffset (h : (dmc.info id).present = false) :
    ((dmcSetFwOffset si packageVer entries count dmc).answer memory).info id =
      match firstOffer memory si packageVer entries count id with
      | none => dmc.info id
      | some i => (dmc.info id).take (u32 memory (fwInfoAt entries i + 4)) := by
  induction count generalizing entries dmc with
  | zero => rfl
  | succ count ih =>
      have hStep : ((setFwOffset si packageVer entries dmc).answer memory).info id =
          offer memory si packageVer entries id (dmc.info id) := info_setFwOffset id
      simp only [dmcSetFwOffset, Program.answer_bind, firstOffer_succ]
      by_cases hOffers : Offers memory si packageVer entries id
      · rw [offer, if_pos ⟨h, hOffers⟩] at hStep
        rw [if_pos hOffers, info_dmcSetFwOffset_of_present (by rw [hStep]; rfl), hStep]
        simp [fwInfoAt]
      · rw [offer, if_neg fun hBoth => hOffers hBoth.2] at hStep
        rw [if_neg hOffers, ih (by rw [hStep, h]), hStep]
        cases firstOffer memory si packageVer (entries + fwInfoSize) count id with
        | none => rfl
        | some i =>
            simp only [Option.map_some, fwInfoAt, Nat.succ_mul]
            congr 3
            omega

theorem rest_dmcSetFwOffset :
    ((dmcSetFwOffset si packageVer entries count dmc).answer memory).version = dmc.version ∧
      ((dmcSetFwOffset si packageVer entries count dmc).answer memory).maxFwSize =
        dmc.maxFwSize := by
  induction count generalizing entries dmc with
  | zero => exact ⟨rfl, rfl⟩
  | succ count ih =>
      have hStep : ((setFwOffset si packageVer entries dmc).answer memory).version = dmc.version ∧
          ((setFwOffset si packageVer entries dmc).answer memory).maxFwSize = dmc.maxFwSize :=
        rest_setFwOffset
      simp only [dmcSetFwOffset, Program.answer_bind]
      exact ⟨ih.1.trans hStep.1, ih.2.trans hStep.2⟩

end Loop

section Package

variable (memory : Memory) (si : SteppingInfo) (package remSize : Nat)

/-- The size of a package with room for some entries. -/
def packageSize (maxEntries : Nat) : Nat := packageHeaderSize + maxEntries * fwInfoSize

/-- A package is of a known version and of its length, and is there to its end. -/
structure Complete (entries : Nat) : Prop where
  header : packageHeaderSize ≤ remSize
  version : maxEntries (u8 memory (package + 1)) = some entries
  fits : packageSize entries ≤ remSize
  headerLen : u8 memory package * 4 = packageSize entries

/-- An entry among those that count offers a program for an id. -/
def OffersAt (room i : Nat) (id : DmcId) : Prop :=
  i < min (u32 memory (package + 12)) room ∧
    Offers memory si (u8 memory (package + 1)) (fwInfoAt (package + packageHeaderSize) i) id

/-- For an id the first offer is taken, and if there is none, its entry is left. -/
structure Chosen (room : Nat) (id : DmcId) (before after : DmcFwInfo) : Prop where
  present : after.present = true ↔ ∃ i, OffersAt memory si package room i id
  offset : ∀ i, OffersAt memory si package room i id →
    (∀ j < i, ¬ OffersAt memory si package room j id) →
    after.dmcOffset = u32 memory (fwInfoAt (package + packageHeaderSize) i + 4)
  kept : (¬ ∃ i, OffersAt memory si package room i id) → after = before
  rest : SameButOffset before after

variable {memory si package remSize} {dmc : IntelDmc} {room : Nat}

theorem answer_parseDmcFwPackage_of_complete (h : Complete memory package remSize room) :
    (parseDmcFwPackage si package remSize dmc).answer memory =
      (packageSize room, (dmcSetFwOffset si (u8 memory (package + 1)) (package + packageHeaderSize)
        (min (u32 memory (package + 12)) room) dmc).answer memory) := by
  have hLen : ¬ u8 memory package * 4 ≠ packageHeaderSize + room * fwInfoSize :=
    not_not.mpr h.headerLen
  have hFits : packageHeaderSize + room * fwInfoSize ≤ remSize := h.fits
  simp only [parseDmcFwPackage]
  rw [if_neg (Nat.not_lt.mpr h.header)]
  simp only [Program.answer_bind, answer_readU8, h.version]
  rw [if_neg (Nat.not_lt.mpr hFits)]
  simp only [Program.answer_bind, answer_readU8]
  simp only [readEntries]
  rw [if_neg hLen]
  simp only [Program.answer_bind, answer_readU32, Program.pure_eq, Program.answer_done]
  rfl

theorem answer_parseDmcFwPackage_of_not (h : ¬ ∃ room, Complete memory package remSize room) :
    (parseDmcFwPackage si package remSize dmc).answer memory = (0, dmc) := by
  simp only [parseDmcFwPackage]
  split
  · rfl
  · next hHeader =>
      simp only [Program.answer_bind, answer_readU8]
      split
      · rfl
      · next room hVersion =>
          split
          · rfl
          · next hFits =>
              simp only [Program.answer_bind, answer_readU8]
              simp only [readEntries]
              split
              · rfl
              · next hLen =>
                  refine absurd ⟨room, ?_⟩ h
                  exact {
                    header := Nat.not_lt.mp hHeader
                    version := hVersion
                    fits := Nat.not_lt.mp hFits
                    headerLen := not_not.mp hLen }

/-- The loop of a complete package chooses for each id. -/
theorem chosen_of_fresh {id : DmcId} (hFresh : (dmc.info id).present = false) :
    Chosen memory si package room id (dmc.info id)
      (((dmcSetFwOffset si (u8 memory (package + 1)) (package + packageHeaderSize)
        (min (u32 memory (package + 12)) room) dmc).answer memory).info id) := by
  rw [info_dmcSetFwOffset hFresh]
  cases hFirst : firstOffer memory si (u8 memory (package + 1)) (package + packageHeaderSize)
      (min (u32 memory (package + 12)) room) id with
  | none =>
      have hNone : ∀ i, ¬ OffersAt memory si package room i id := by
        intro i hAt
        have hNot := List.find?_eq_none.mp hFirst i (List.mem_range.mpr hAt.1)
        exact hNot (decide_eq_true hAt.2)
      exact {
        present := by simp [hFresh, hNone]
        offset := fun i hAt => absurd hAt (hNone i)
        kept := fun _ => rfl
        rest := rfl }
  | some i =>
      obtain ⟨hOffers, hIn, hBefore⟩ := List.find?_range_eq_some.mp hFirst
      have hAt : OffersAt memory si package room i id :=
        ⟨List.mem_range.mp hIn, of_decide_eq_true hOffers⟩
      exact {
        present := iff_of_true rfl ⟨i, hAt⟩
        offset := by
          intro j hOther hFirstOther
          have hLe : i ≤ j := by
            by_contra hLt
            have hNot := hBefore j (Nat.not_le.mp hLt)
            simp [hOther.2] at hNot
          have hGe : j ≤ i := by
            by_contra hLt
            exact hFirstOther i (Nat.not_le.mp hLt) hAt
          rw [Nat.le_antisymm hLe hGe]
          rfl
        kept := fun hNone => absurd ⟨i, hAt⟩ hNone
        rest := rfl }

/-- A package is read inside of what is left of the file. Without a complete one
nothing changes; from a complete one every id gets the first offer for it. -/
theorem package_selection (memory : Memory) (si : SteppingInfo) (package remSize : Nat)
    (dmc : IntelDmc) (hFresh : ∀ id, (dmc.info id).present = false) :
    let result := (parseDmcFwPackage si package remSize dmc).answer memory
    Inside (package + remSize) memory (parseDmcFwPackage si package remSize dmc) ∧
      ((¬ ∃ room, Complete memory package remSize room) → result = (0, dmc)) ∧
      ∀ room, Complete memory package remSize room →
        result.1 = packageSize room ∧ result.2.version = dmc.version ∧
          result.2.maxFwSize = dmc.maxFwSize ∧
          ∀ id, Chosen memory si package room id (dmc.info id) (result.2.info id) := by
  refine ⟨inside_parseDmcFwPackage (Nat.le_refl _), answer_parseDmcFwPackage_of_not, ?_⟩
  intro room hComplete
  rw [answer_parseDmcFwPackage_of_complete hComplete]
  exact ⟨rfl, rest_dmcSetFwOffset.1, rest_dmcSetFwOffset.2, fun id => chosen_of_fresh (hFresh id)⟩

/-- A package of the second version with two offers for pipe A. -/
def twoOffers : Memory := fun offset =>
  match offset with
  | 0 => 100
  | 1 => 2
  | 12 => 2
  | 17 => 1
  | 18 => 0x2a
  | 19 => 0x2a
  | 20 => 7
  | 29 => 1
  | 30 => 0x2a
  | 31 => 0x2a
  | 32 => 9
  | _ => 0

theorem first_of_two_offers :
    (((parseDmcFwPackage ⟨0x42, 0x30⟩ 0 400 clearedDmc).answer twoOffers).2.info .pipeA).dmcOffset =
      7 := by
  have hComplete : Complete twoOffers 0 400 32 := by
    constructor <;> decide
  have hChosen := (package_selection twoOffers ⟨0x42, 0x30⟩ 0 400 clearedDmc fun _ => rfl).2.2 32
    hComplete |>.2.2.2 .pipeA
  have hAt : OffersAt twoOffers ⟨0x42, 0x30⟩ 0 32 0 .pipeA := ⟨by decide, by decide⟩
  rw [hChosen.offset 0 hAt fun j hj => absurd hj (Nat.not_lt_zero j)]
  rfl

end Package

end NootedBlue.Dmc
