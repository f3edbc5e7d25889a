import NootedBlue.Doorbell.Calls
import NootedBlue.Semantics.Run

/-! When the bitmap, the table of owners and the contexts agree. -/
namespace NootedBlue.Doorbell

open Bitmap Transition

variable {Ctx : Type} {layout : DoorbellLayout} {hostPrivate : Ctx → Nat}
  {state : DoorbellState Ctx} {ctx : Ctx}

/-- An id of the table as a status, as a slot and as a number that is returned. -/
theorem slot_ofNat {id : Nat} (hId : id < 256) : ((BitVec.ofNat 32 id) &&& 0xffff).toNat = id := by
  have hMask : (0xffff : Word).toNat = 2 ^ 16 - 1 := by decide
  rw [BitVec.toNat_and, hMask, Nat.and_two_pow_sub_one_eq_mod, BitVec.toNat_ofNat]
  omega

theorem ofNat_inj {id other : Nat} (hId : id < 256) (hOther : other < 256)
    (h : BitVec.ofNat 32 id = BitVec.ofNat 32 other) : id = other := by
  have hNat := congrArg BitVec.toNat h
  rw [BitVec.toNat_ofNat, BitVec.toNat_ofNat] at hNat
  omega

/-- The bit of an id is set just when it has an owner, whose status is the id. Two
contexts that own ids never have the same status. -/
structure Consistent (layout : DoorbellLayout) (state : DoorbellState Ctx) : Prop where
  taken : ∀ id < 256, Has state.bitmap (placeAt layout.per id) ↔ state.owner id ≠ none
  status : ∀ id < 256, ∀ ctx, state.owner id = some ctx → state.status ctx = .ofNat 32 id
  unique : ∀ id < 256, ∀ other < 256, ∀ one two, state.owner id = some one →
    state.owner other = some two → state.status one = state.status two → one = two

/-- The statuses tell the contexts apart. -/
theorem Consistent.of_status
    (taken : ∀ id < 256, Has state.bitmap (placeAt layout.per id) ↔ state.owner id ≠ none)
    (status : ∀ id < 256, ∀ ctx, state.owner id = some ctx → state.status ctx = .ofNat 32 id) :
    Consistent layout state where
  taken := taken
  status := status
  unique := by
    intro id hId other hOther one two hOne hTwo hSame
    rw [status id hId one hOne, status other hOther two hTwo] at hSame
    obtain rfl := ofNat_inj hId hOther hSame
    exact Option.some.inj (hOne.symm.trans hTwo)

/-- All is free. -/
structure Free (layout : DoorbellLayout) (state : DoorbellState Ctx) : Prop where
  bitmap : ∀ id < 256, ¬ Has state.bitmap (placeAt layout.per id)
  owner : ∀ id, state.owner id = none

theorem Free.consistent (h : Free layout state) : Consistent layout state := by
  refine .of_status (fun id hId => ?_) fun id _ ctx hOwner => ?_
  · exact iff_of_false (h.bitmap id hId) fun hSome => hSome (h.owner id)
  · rw [h.owner id] at hOwner
    cases hOwner

/-- A context owns one id at most. -/
theorem Consistent.one_id (h : Consistent layout state) {id other : Nat} (hId : id < 256)
    (hOther : other < 256) (hOwner : state.owner id = some ctx)
    (hOwnerOther : state.owner other = some ctx) : id = other :=
  ofNat_inj hId hOther ((h.status id hId ctx hOwner).symm.trans (h.status other hOther ctx hOwnerOther))

/-- With a slot emptied, a context owns nothing just when it owned nothing else. -/
theorem owner_emptied_iff (owner : Nat → Option Ctx) (id : Nat) (ctx : Ctx) :
    (∀ other < 256, Function.update owner id none other ≠ some ctx) ↔
      ∀ other < 256, owner other = some ctx → other = id := by
  constructor
  · intro hNone other hOther hOwned
    by_contra hNe
    apply hNone other hOther
    rw [Function.update_of_ne hNe]
    exact hOwned
  · intro hOnly other hOther hOwned
    by_cases hSame : other = id
    · rw [hSame, Function.update_self] at hOwned
      cases hOwned
    · rw [Function.update_of_ne hSame] at hOwned
      exact hSame (hOnly other hOther hOwned)

/-- All agrees but for one id, which is taken and has no owner: the GuC is asked for it. -/
structure Pending (layout : DoorbellLayout) (state : DoorbellState Ctx) (id : Nat) : Prop where
  id_lt : id < 256
  bit : Has state.bitmap (placeAt layout.per id)
  owner : state.owner id = none
  taken : ∀ other < 256, other ≠ id →
    (Has state.bitmap (placeAt layout.per other) ↔ state.owner other ≠ none)
  status : ∀ other < 256, ∀ ctx, state.owner other = some ctx → state.status ctx = .ofNat 32 other

/-- Taking the bit of an id that has no owner makes it pending. -/
theorem pending_of_consistent (h : Consistent layout state) {id : Nat} (hId : id < 256)
    (hOwner : state.owner id = none) (bank : BitVec 8) :
    Pending layout { state with bitmap := set state.bitmap (placeAt layout.per id), bank } id := by
  have hBit := placeAt_bit layout.per id
  refine { id_lt := hId, bit := (has_set hBit).mpr (.inl rfl), owner := hOwner, taken := ?_
           status := h.status }
  intro other hOther hNe
  have hPlace : placeAt layout.per other ≠ placeAt layout.per id := fun hPlace =>
    hNe (placeAt_injective layout.per_pos layout.per_le hPlace)
  simp only
  rw [has_set hBit, or_iff_right hPlace]
  exact h.taken other hOther

/-- An id that the search finds had no owner. -/
theorem owner_of_free (h : Consistent layout state) {id : Nat} (hId : id < 256)
    (hFree : ¬ Has state.bitmap (placeAt layout.per id)) : state.owner id = none := by
  by_contra hSome
  exact hFree ((h.taken id hId).mpr hSome)

variable [DecidableEq Ctx]

section Release

/-- What a release does to the slots of the table. -/
theorem releaseDoorbell2_eq_some (layout : DoorbellLayout) (hostPrivate : Ctx → Nat)
    (hSlot : (state.status ctx &&& 0xffff).toNat < 256) :
    releaseDoorbell2 layout hostPrivate state ctx =
      some { state with
        memory := Function.update state.memory (state.desc (hostPrivate ctx)) 0
        bitmap := clear state.bitmap (placeAt layout.per (state.status ctx &&& 0xffff).toNat)
        owner := Function.update state.owner (state.status ctx &&& 0xffff).toNat none
        status := Function.update state.status ctx 0x100 } :=
  if_neg (Nat.not_le.mpr hSlot)

/-- A release of any id of the table keeps all in agreement. -/
theorem release_consistent (h : Consistent layout state)
    (hSlot : (state.status ctx &&& 0xffff).toNat < 256) {after : DoorbellState Ctx}
    (hAfter : releaseDoorbell2 layout hostPrivate state ctx = some after) :
    Consistent layout after := by
  rw [releaseDoorbell2_eq_some layout hostPrivate hSlot] at hAfter
  cases hAfter
  generalize hEq : (state.status ctx &&& 0xffff).toNat = slot at *
  refine .of_status ?_ ?_
  · intro id hId
    rw [has_clear (placeAt_bit layout.per slot), h.taken id hId]
    by_cases hSame : id = slot
    · subst hSame
      exact iff_of_false (fun hBoth => hBoth.1 rfl) fun hSome => hSome (Function.update_self ..)
    · have hPlace : placeAt layout.per id ≠ placeAt layout.per slot := fun hPlace =>
        hSame (placeAt_injective layout.per_pos layout.per_le hPlace)
      simp only [Function.update_of_ne hSame]
      exact and_iff_right hPlace
  · intro id hId other hOwner
    simp only at hOwner
    by_cases hSame : id = slot
    · subst hSame
      rw [Function.update_self] at hOwner
      cases hOwner
    · rw [Function.update_of_ne hSame] at hOwner
      have hStatus := h.status id hId other hOwner
      have hNe : other ≠ ctx := by
        rintro rfl
        rw [hStatus, slot_ofNat hId] at hEq
        exact hSame hEq
      simp only [Function.update_of_ne hNe]
      exact hStatus

end Release

section Ask

/-- An id that is pending and is given to a context that owns no other makes all agree. -/
theorem Pending.given {id : Nat} (h : Pending layout state id)
    (hNone : ∀ other < 256, state.owner other ≠ some ctx) (memory : BitVec 64 → Word)
    (desc : Nat → BitVec 64) :
    Consistent layout { state with
      status := Function.update state.status ctx (.ofNat 32 id)
      owner := Function.update state.owner id (some ctx)
      memory := memory
      desc := desc } := by
  refine .of_status ?_ ?_
  · intro other hOther
    by_cases hSame : other = id
    · subst hSame
      simp only [Function.update_self]
      exact iff_of_true h.bit (Option.some_ne_none ctx)
    · simp only [Function.update_of_ne hSame]
      exact h.taken other hOther hSame
  · intro other hOther owner hOwner
    simp only at hOwner ⊢
    by_cases hSame : other = id
    · subst hSame
      rw [Function.update_self] at hOwner
      cases hOwner
      exact Function.update_self ..
    · rw [Function.update_of_ne hSame] at hOwner
      have hNe : owner ≠ ctx := by
        rintro rfl
        exact hNone other hOther hOwner
      rw [Function.update_of_ne hNe]
      exact h.status other hOther owner hOwner

/-- With the answer of the GuC all agrees just when it accepts and the context owns no
other id. -/
theorem askGuc_consistent_iff (hostPrivate : Ctx → Nat) (ctx : Ctx) {id : Nat}
    (h : Pending layout state id) (ctbDesc : BitVec 64) (resp : Word) :
    Consistent layout (askGuc hostPrivate state ctx ctbDesc id resp).state ↔
      Accepts resp ∧ ∀ other < 256, state.owner other ≠ some ctx := by
  rw [askGuc]
  by_cases hAccepts : Accepts resp
  · simp only [if_pos hAccepts]
    rw [and_iff_right hAccepts]
    constructor
    · intro hAfter other hOther hOwner
      have hNe : other ≠ id := by
        rintro rfl
        rw [h.owner] at hOwner
        cases hOwner
      have hOwned : Function.update state.owner id (some ctx) other = some ctx := by
        rw [Function.update_of_ne hNe]
        exact hOwner
      exact hNe (hAfter.one_id hOther h.id_lt hOwned (Function.update_self ..))
    · intro hNone
      exact h.given hNone _ _
  · simp only [if_neg hAccepts]
    apply iff_of_false ?_ fun hBoth => hAccepts hBoth.1
    intro hAfter
    exact (hAfter.taken id h.id_lt).mp h.bit h.owner

/-- An owner can be made to release its id, which has no owner then. -/
theorem release_owner (hostPrivate : Ctx → Nat) (h : Consistent layout state) {id : Nat}
    (hId : id < 256) (hOwner : state.owner id = some ctx) :
    ∃ after, releaseDoorbell2 layout hostPrivate state ctx = some after ∧
      Consistent layout after ∧ after.owner = Function.update state.owner id none := by
  have hSlot : (state.status ctx &&& 0xffff).toNat = id := by
    rw [h.status id hId ctx hOwner, slot_ofNat hId]
  have hLt : (state.status ctx &&& 0xffff).toNat < 256 := by
    rw [hSlot]
    exact hId
  have hReleased := releaseDoorbell2_eq_some layout hostPrivate hLt
  refine ⟨_, hReleased, release_consistent h hLt hReleased, ?_⟩
  simp only [hSlot]

/-- A call that has to ask the GuC fails where all ids are taken and none can be stolen.
Else it asks for an id, which is free or was stolen from its owner. -/
theorem acquireDoorbell2_cases (h : Consistent layout state)
    (hAddr : state.memory (state.desc (hostPrivate ctx)) = 0) (steal : Steal Ctx) (resp : Word) :
    (Full layout state.bitmap ∧ 256 ≤ steal.choose state.owner ∧
        acquireDoorbell2 layout hostPrivate state ctx steal resp = none) ∨
      ∃ id asking, Pending layout asking id ∧
        asking.owner = Function.update state.owner id none ∧
        acquireDoorbell2 layout hostPrivate state ctx steal resp =
          some (askGuc hostPrivate asking ctx (state.desc (hostPrivate ctx)) id resp) ∧
        (Full layout state.bitmap → id = steal.choose state.owner) ∧
        (¬ Full layout state.bitmap → state.owner id = none) := by
  have hAllocated := allocated layout ⟨state.bitmap, state.bank⟩
  rw [acquireDoorbell2, if_neg (not_not.mpr hAddr)]
  dsimp only
  generalize allocDoorbellId layout.per layout.numBanks ⟨state.bitmap, state.bank⟩ = search
    at hAllocated
  cases hAllocated with
  | @found id last banks id_lt free room =>
      have hOwner := owner_of_free h id_lt free
      have hNotFull : ¬ Full layout state.bitmap := room
      rw [if_pos (Nat.ne_of_lt id_lt)]
      refine Or.inr ⟨id, _, pending_of_consistent h id_lt hOwner last, ?_, rfl,
        fun hFull => absurd hFull hNotFull, fun _ => hOwner⟩
      rw [← hOwner, Function.update_eq_self]
  | @failed last banks full =>
      have hFull : Full layout state.bitmap := full
      rw [if_neg (not_not.mpr rfl)]
      by_cases hFails : steal.choose state.owner ≥ 256
      · rw [if_pos hFails]
        exact Or.inl ⟨hFull, hFails, rfl⟩
      · rw [if_neg hFails]
        have hId : steal.choose state.owner < 256 := Nat.lt_of_not_le hFails
        have hOwned : state.owner (steal.choose state.owner) ≠ none := by
          rcases steal.valid state.owner with hFail | hValid
          · omega
          · exact hValid.2
        obtain ⟨victim, hVictim⟩ := Option.ne_none_iff_exists'.mp hOwned
        let searched : DoorbellState Ctx :=
          { state with bank := last }
        have hSearched : Consistent layout searched :=
          { taken := h.taken, status := h.status, unique := h.unique }
        obtain ⟨after, hReleased, hAfter, hOwner⟩ :=
          release_owner hostPrivate hSearched hId (show searched.owner _ = some victim from hVictim)
        have hNone : after.owner (steal.choose state.owner) = none := by
          rw [hOwner]
          exact Function.update_self ..
        have hPending := pending_of_consistent hAfter hId hNone after.bank
        simp only [hVictim]
        refine Or.inr ⟨_, _, hPending, hOwner, ?_, fun _ => rfl, fun hNot => absurd hFull hNot⟩
        show Option.map _ (releaseDoorbell2 layout hostPrivate searched victim) = _
        rw [hReleased]
        rfl

end Ask

section Run

variable (layout : DoorbellLayout) (hostPrivate : Ctx → Nat)

/-- The call stays inside of the table and leaves all in agreement, and an id that the GuC
has refused is free and not returned. -/
def Sound (state : DoorbellState Ctx) : DoorbellEvent Ctx → Prop
  | .acquire ctx steal resp =>
      ∃ result, acquireDoorbell2 layout hostPrivate state ctx steal resp = some result ∧
        Consistent layout result.state ∧
        ∀ id, result.asked = some id → ¬ Accepts resp →
          ¬ Has result.state.bitmap (placeAt layout.per id) ∧ result.returned ≠ .ofNat 16 id
  | .release ctx =>
      ∃ after, releaseDoorbell2 layout hostPrivate state ctx = some after ∧ Consistent layout after

/-- A context is released whose status is an id. A context that asks for a doorbell has one
already, by its descriptor, or it owns none but one that is stolen from it, an id is free or
can be stolen, and the GuC accepts. -/
def InOrder (state : DoorbellState Ctx) : DoorbellEvent Ctx → Prop
  | .acquire ctx steal resp =>
      state.memory (state.desc (hostPrivate ctx)) ≠ 0 ∨
        Accepts resp ∧
          (Full layout state.bitmap → steal.choose state.owner < 256 ∧
            ∀ id < 256, state.owner id = some ctx → id = steal.choose state.owner) ∧
          (¬ Full layout state.bitmap → ∀ id < 256, state.owner id ≠ some ctx)
  | .release ctx => (state.status ctx &&& 0xffff).toNat < 256

instance (bitmap : Words) : Decidable (Full layout bitmap) :=
  inferInstanceAs (Decidable (∀ bank < _, ∀ w < _, ∀ b < _, _))

instance : (event : DoorbellEvent Ctx) → Decidable (InOrder layout hostPrivate state event)
  | .acquire _ _ _ => inferInstanceAs (Decidable (_ ≠ _ ∨ _ ∧ (_ → _ ∧ ∀ id < 256, _) ∧ _))
  | .release _ => inferInstanceAs (Decidable (_ < 256))

variable {layout} {hostPrivate}

theorem sound_acquire_iff (h : Consistent layout state) (steal : Steal Ctx) (resp : Word) :
    Sound layout hostPrivate state (.acquire ctx steal resp) ↔
      InOrder layout hostPrivate state (.acquire ctx steal resp) := by
  rw [Sound, InOrder]
  by_cases hAddr : state.memory (state.desc (hostPrivate ctx)) = 0
  · rw [or_iff_right (not_not.mpr hAddr)]
    rcases acquireDoorbell2_cases h hAddr steal resp with
      ⟨hFull, hFails, hNone⟩ | ⟨id, asking, hPending, hOwner, hAsk, hStolen, hFree⟩
    · apply iff_of_false
      · intro ⟨result, hSome, _⟩
        rw [hNone] at hSome
        cases hSome
      · intro ⟨_, hSteal, _⟩
        exact Nat.not_le.mpr (hSteal hFull).1 hFails
    · have hIff := askGuc_consistent_iff hostPrivate ctx hPending
        (state.desc (hostPrivate ctx)) resp
      rw [hOwner, owner_emptied_iff] at hIff
      constructor
      · intro ⟨result, hSome, hConsistent, _⟩
        rw [hAsk] at hSome
        cases hSome
        obtain ⟨hAccepts, hOnly⟩ := hIff.mp hConsistent
        refine ⟨hAccepts, ?_, ?_⟩
        · intro hFull
          rw [← hStolen hFull]
          exact ⟨hPending.id_lt, hOnly⟩
        · intro hNotFull other hOther hOwned
          have hNone := hFree hNotFull
          rw [← hOnly other hOther hOwned, hOwned] at hNone
          cases hNone
      · intro ⟨hAccepts, hSteal, hFreeId⟩
        refine ⟨_, hAsk, hIff.mpr ⟨hAccepts, ?_⟩, fun _ _ hRefused => absurd hAccepts hRefused⟩
        intro other hOther hOwned
        by_cases hFull : Full layout state.bitmap
        · rw [hStolen hFull]
          exact (hSteal hFull).2 other hOther hOwned
        · exact absurd hOwned (hFreeId hFull other hOther)
  · apply iff_of_true ?_ (Or.inl hAddr)
    refine ⟨⟨state, (state.status ctx).setWidth 16, none⟩, if_pos hAddr, h, ?_⟩
    intro id hAsked
    cases hAsked

theorem sound_release_iff (h : Consistent layout state) :
    Sound layout hostPrivate state (.release ctx) ↔
      InOrder layout hostPrivate state (.release ctx) := by
  rw [Sound, InOrder]
  constructor
  · intro ⟨after, hSome, _⟩
    by_contra hOutside
    rw [releaseDoorbell2, if_pos (Nat.not_lt.mp hOutside)] at hSome
    cases hSome
  · intro hSlot
    have hReleased := releaseDoorbell2_eq_some layout hostPrivate hSlot
    exact ⟨_, hReleased, release_consistent h hSlot hReleased⟩

/-- A sound call keeps all in agreement. -/
theorem consistent_next {event : DoorbellEvent Ctx} (h : Sound layout hostPrivate state event) :
    Consistent layout (doorbellNext layout hostPrivate state event) := by
  cases event with
  | acquire ctx steal resp =>
      obtain ⟨result, hSome, hConsistent, -⟩ := h
      rw [doorbellNext, doorbellStep, hSome]
      exact hConsistent
  | release ctx =>
      obtain ⟨after, hSome, hConsistent⟩ := h
      rw [doorbellNext, doorbellStep, hSome]
      exact hConsistent

/-- In a run from a free table every call is sound just when every call is in order. -/
theorem ownership_iff (layout : DoorbellLayout) (hostPrivate : Ctx → Nat)
    (hFree : Free layout state) (events : List (DoorbellEvent Ctx)) :
    Along (doorbellNext layout hostPrivate) (Sound layout hostPrivate) state events ↔
      Along (doorbellNext layout hostPrivate) (InOrder layout hostPrivate) state events := by
  have hIff (s : DoorbellState Ctx) (event : DoorbellEvent Ctx) (h : Consistent layout s) :
      Sound layout hostPrivate s event ↔ InOrder layout hostPrivate s event := by
    cases event with
    | acquire ctx steal resp => exact sound_acquire_iff h steal resp
    | release ctx => exact sound_release_iff h
  apply along_iff_of_invariant (Consistent layout) hIff
  · intro s event h hInOrder
    exact consistent_next ((hIff s event h).mpr hInOrder)
  · exact hFree.consistent

end Run

/-- One bank of 256 ids. -/
def oneBank : DoorbellLayout :=
  { per := 256, numBanks := 1, per_pos := by decide, per_le := by decide, ids_le := by decide }

/-- A table without owners, and contexts that are not registered. -/
def freeTable : DoorbellState Nat :=
  { bitmap := fun _ => 0, bank := 0, owner := fun _ => none, status := fun _ => 0x100
    desc := fun hostPrivate => .ofNat 64 (4096 * hostPrivate), memory := fun _ => 0 }

theorem freeTable_free : Free oneBank freeTable :=
  { bitmap := fun id _ => by simp [freeTable, Has]
    owner := fun _ => rfl }

/-- Nothing can be stolen. -/
def noSteal : Steal Nat := { choose := fun _ => 0x100, valid := fun _ => Or.inl rfl }

/-- A bank of 32 ids, which are all taken one after the other. -/
def smallBank : DoorbellLayout :=
  { per := 32, numBanks := 1, per_pos := by decide, per_le := by decide, ids_le := by decide }

def stealFirst : Steal Nat where
  choose owner := if owner 0 ≠ none then 0 else 0x100
  valid owner := by
    by_cases hOwned : owner 0 ≠ none
    · exact .inr (by simp [hOwned])
    · exact .inl (by simp [hOwned])

def takeAll : List (DoorbellEvent Nat) :=
  (List.range 32).map fun ctx => .acquire ctx noSteal 0x400000

/-- One more context takes the first id away from its owner, and gives it back; another one
takes it again. -/
theorem ownership_iff_small :
    Along (doorbellNext smallBank id) (Sound smallBank id) freeTable
      (takeAll ++ [.acquire 40 stealFirst 0x400000, .release 40, .acquire 41 noSteal 0x400000]) := by
  have hFree : Free smallBank freeTable :=
    { bitmap := fun id _ => by simp [freeTable, Has], owner := fun _ => rfl }
  exact (ownership_iff smallBank id hFree _).mpr (by decide +kernel)

/-- The first context that asks is refused, but has the first id in the bitmap. -/
theorem refused_keeps_id :
    Free oneBank freeTable ∧
      ¬ Along (doorbellNext oneBank id) (Sound oneBank id) freeTable [.acquire 3 noSteal 0] := by
  refine ⟨freeTable_free, ?_⟩
  intro ⟨⟨result, hSome, hConsistent, hRefused⟩, _⟩
  cases hSome
  exact (hRefused 0 (by decide) (by decide)).2 (by decide)

end NootedBlue.Doorbell
