import NootedBlue.Semantics.Writes
import NootedBlue.Wa.List

/-! The registers of an engine that programs without privilege may touch. The list of
them is one of workarounds; applying it fills the slots of the engine, of which
there are twelve. -/
namespace NootedBlue.Wa

def ringForceToNonpriv (base i : Nat) : Nat := base + 0x4D0 + i * 4
def ringNopid (base : Nat) : Nat := base + 0x94
def ringCtxTimestamp (base : Word) : Word := base + 0x3a8

def ringForceToNonprivAccessRd : Word := 1 <<< 28
def ringForceToNonprivAccessRw : Word := 0 <<< 28
def ringForceToNonprivRange4 : Word := 1 <<< 0

def ringMaxNonprivSlots : Nat := 12

def psInvocationCount : Word := 0x2348
def gen7CommonSliceChicken1 : Word := 0x7010
def hizChicken : Word := 0x2688
def gen11CommonSliceChicken3 : Word := 0x7304

/-- The arguments of a call of `whitelist_reg_ext`. -/
structure WhitelistCall where
  reg : Word
  flags : Word
  deriving DecidableEq, Repr

/-- The register with the access that is given to it, as a slot has it. -/
def WhitelistCall.grant (call : WhitelistCall) : Word := call.reg ||| call.flags

/-- `whitelist_reg_ext`. -/
def whitelistRegExt (w : I915WaList) (call : WhitelistCall) : I915WaList :=
  w.add
    { reg := call.grant.toNat
      clr := 0
      set := 0
      read := 0
      maskedReg := false
      isMcr := false }

/-- `whitelist_reg`. -/
def whitelistReg (reg : Word) : WhitelistCall := ⟨reg, ringForceToNonprivAccessRw⟩

/-- What the list depends on. -/
structure WhitelistEngine where
  isRender : Bool
  mmioBase : Word
  deriving DecidableEq, Repr

/-- `allow_read_ctx_timestamp`. -/
def allowReadCtxTimestamp (engine : WhitelistEngine) : List WhitelistCall :=
  if engine.isRender then [] else [⟨ringCtxTimestamp engine.mmioBase, ringForceToNonprivAccessRd⟩]

/-- `tgl_whitelist_build`. -/
def tglWhitelistBuild (engine : WhitelistEngine) : List WhitelistCall :=
  allowReadCtxTimestamp engine ++
    if engine.isRender then
      [⟨psInvocationCount, ringForceToNonprivAccessRd ||| ringForceToNonprivRange4⟩,
        whitelistReg gen7CommonSliceChicken1, whitelistReg hizChicken,
        whitelistReg gen11CommonSliceChicken3]
    else []

/-- The list that some calls make of an empty one. -/
def whitelist (calls : List WhitelistCall) : I915WaList := calls.foldl whitelistRegExt .empty

/-- `intel_engine_init_whitelist`. -/
def intelEngineInitWhitelist (graphicsVer : Nat) (engine : WhitelistEngine) : I915WaList :=
  whitelist (if graphicsVer = 12 then tglWhitelistBuild engine else [])

/-- `intel_engine_apply_whitelist`, as the writes that it makes. -/
def intelEngineApplyWhitelist (base : Nat) (wal : I915WaList) : List (Nat × Word) :=
  if wal.list.length = 0 then []
  else
    wal.list.mapIdx (fun i wa => (ringForceToNonpriv base i, .ofNat 32 wa.reg)) ++
      (List.range' wal.list.length (ringMaxNonprivSlots - wal.list.length)).map
        fun i => (ringForceToNonpriv base i, .ofNat 32 (ringNopid base))

/-- The grants that are asked for, each once. -/
def grants (calls : List WhitelistCall) : Finset Word := (calls.map WhitelistCall.grant).toFinset

/-- The registers after the list of some calls has been applied. -/
def granted (base : Nat) (calls : List WhitelistCall) (regs : Registers) : Registers :=
  Writes.perform (intelEngineApplyWhitelist base (whitelist calls)) regs

/-- What the slots are to hold when something is asked for: each grant in one of
the first slots, in the order of the registers, and nothing else in the others. -/
structure Grants (base : Nat) (calls : List WhitelistCall) (before after : Registers) : Prop where
  once : ∀ grant ∈ grants calls,
    ∃! i, i < (grants calls).card ∧ after (ringForceToNonpriv base i) = grant
  only : ∀ i < (grants calls).card, after (ringForceToNonpriv base i) ∈ grants calls
  order : ∀ i j, i < j → j < (grants calls).card →
    after (ringForceToNonpriv base i) < after (ringForceToNonpriv base j)
  closed : ∀ i, (grants calls).card ≤ i → i < ringMaxNonprivSlots →
    after (ringForceToNonpriv base i) = .ofNat 32 (ringNopid base)
  others : ∀ reg, (∀ i < max (grants calls).card ringMaxNonprivSlots,
    reg ≠ ringForceToNonpriv base i) → after reg = before reg

section Whitelist

variable {base : Nat} {calls : List WhitelistCall} {regs : Registers}

theorem ringForceToNonpriv_inj {i j : Nat}
    (h : ringForceToNonpriv base i = ringForceToNonpriv base j) : i = j := by
  simp only [ringForceToNonpriv] at h
  omega

/-- The entry of a call. -/
def WhitelistCall.wa (call : WhitelistCall) : I915Wa :=
  ⟨call.grant.toNat, 0, 0, 0, false, false⟩

theorem whitelist_eq_addAll (calls : List WhitelistCall) :
    whitelist calls = addAll (calls.map WhitelistCall.wa) := by
  rw [whitelist, addAll, List.foldl_map]
  rfl

/-- An entry without values stays one when such entries are folded into it. -/
theorem mergeAll_wa {reg : Nat} {list : List WhitelistCall} {wa : I915Wa}
    (h : mergeAll (own reg (list.map WhitelistCall.wa)) = some wa) :
    ∃ call ∈ list, call.grant.toNat = reg := by
  rcases hOwn : own reg (list.map WhitelistCall.wa) with _ | ⟨first, rest⟩
  · rw [hOwn] at h
    cases h
  · have hMem : first ∈ own reg (list.map WhitelistCall.wa) := by
      rw [hOwn]
      exact List.mem_cons_self
    obtain ⟨hList, hReg⟩ := List.mem_filter.mp hMem
    obtain ⟨call, hCall, rfl⟩ := List.mem_map.mp hList
    exact ⟨call, hCall, of_decide_eq_true hReg⟩

/-- The registers of the list are those that are asked for. -/
theorem reg_mem_whitelist (reg : Nat) :
    (∃ wa ∈ (whitelist calls).list, wa.reg = reg) ↔ ∃ call ∈ calls, call.grant.toNat = reg := by
  have hList := represents_addAll (calls.map WhitelistCall.wa)
  rw [whitelist_eq_addAll]
  constructor
  · rintro ⟨wa, hMem, rfl⟩
    exact mergeAll_wa ((hList.mem_iff wa).mp hMem)
  · rintro ⟨call, hCall, rfl⟩
    have hOwn : call.wa ∈ own call.grant.toNat (calls.map WhitelistCall.wa) :=
      List.mem_filter.mpr ⟨List.mem_map_of_mem hCall, decide_eq_true rfl⟩
    cases hMerged : mergeAll (own call.grant.toNat (calls.map WhitelistCall.wa)) with
    | none =>
        cases hEntries : own call.grant.toNat (calls.map WhitelistCall.wa) with
        | nil =>
            rw [hEntries] at hOwn
            exact absurd hOwn List.not_mem_nil
        | cons first rest =>
            rw [hEntries] at hMerged
            cases hMerged
    | some wa =>
        have hReg := mergeAll_reg hMerged
        exact ⟨wa, (hList.mem_iff wa).mpr (by rw [hReg]; exact hMerged), hReg⟩

theorem mem_grants {grant : Word} : grant ∈ grants calls ↔ ∃ call ∈ calls, call.grant = grant := by
  simp [grants]

/-- The words that go into the slots. -/
def slotWords (calls : List WhitelistCall) : List Word :=
  (whitelist calls).list.map fun wa => .ofNat 32 wa.reg

theorem mem_slotWords {grant : Word} : grant ∈ slotWords calls ↔ grant ∈ grants calls := by
  rw [slotWords, List.mem_map, mem_grants]
  constructor
  · rintro ⟨wa, hMem, rfl⟩
    obtain ⟨call, hCall, hReg⟩ := (reg_mem_whitelist wa.reg).mp ⟨wa, hMem, rfl⟩
    exact ⟨call, hCall, by rw [← hReg, BitVec.ofNat_toNat, BitVec.setWidth_eq]⟩
  · rintro ⟨call, hCall, rfl⟩
    obtain ⟨wa, hMem, hReg⟩ := (reg_mem_whitelist call.grant.toNat).mpr ⟨call, hCall, rfl⟩
    exact ⟨wa, hMem, by rw [hReg, BitVec.ofNat_toNat, BitVec.setWidth_eq]⟩

/-- The words increase as the registers of the list do. -/
theorem slotWords_increasing (calls : List WhitelistCall) :
    (slotWords calls).Pairwise (· < ·) := by
  have hIncreasing := (represents_addAll (calls.map WhitelistCall.wa)).increasing
  rw [← whitelist_eq_addAll] at hIncreasing
  refine List.pairwise_map.mpr (List.Pairwise.imp_of_mem ?_ hIncreasing)
  intro a b ha hb hLt
  obtain ⟨callA, -, hA⟩ := (reg_mem_whitelist a.reg).mp ⟨a, ha, rfl⟩
  obtain ⟨callB, -, hB⟩ := (reg_mem_whitelist b.reg).mp ⟨b, hb, rfl⟩
  rw [← hA, ← hB] at hLt ⊢
  simpa only [BitVec.ofNat_toNat, BitVec.setWidth_eq, BitVec.lt_def] using hLt

theorem slotWords_nodup (calls : List WhitelistCall) : (slotWords calls).Nodup :=
  (slotWords_increasing calls).imp fun hLt => BitVec.ne_of_lt hLt

theorem length_slotWords (calls : List WhitelistCall) :
    (slotWords calls).length = (grants calls).card := by
  rw [← List.toFinset_card_of_nodup (slotWords_nodup calls)]
  congr 1
  ext grant
  rw [List.mem_toFinset, mem_slotWords]

theorem length_whitelist (calls : List WhitelistCall) :
    (whitelist calls).list.length = (grants calls).card := by
  rw [← length_slotWords, slotWords, List.length_map]

/-- What is written, slot by slot. -/
theorem mem_writes (hSome : calls ≠ []) (write : Nat × Word) :
    write ∈ intelEngineApplyWhitelist base (whitelist calls) ↔
      ∃ i, write.1 = ringForceToNonpriv base i ∧
        ((slotWords calls)[i]? = some write.2 ∨
          (grants calls).card ≤ i ∧ i < ringMaxNonprivSlots ∧
            write.2 = .ofNat 32 (ringNopid base)) := by
  have hLength : (whitelist calls).list.length ≠ 0 := by
    obtain ⟨call, hCall⟩ := List.exists_mem_of_ne_nil calls hSome
    rw [length_whitelist]
    exact Finset.card_ne_zero_of_mem (mem_grants.mpr ⟨call, hCall, rfl⟩)
  rw [intelEngineApplyWhitelist, if_neg hLength, List.mem_append, List.mem_mapIdx, List.mem_map]
  constructor
  · rintro (⟨i, hi, rfl⟩ | ⟨i, hi, rfl⟩)
    · exact ⟨i, rfl, .inl (by simp [slotWords, hi])⟩
    · rw [List.mem_range'_1, length_whitelist] at hi
      exact ⟨i, rfl, .inr ⟨hi.1, by omega, rfl⟩⟩
  · rintro ⟨i, hReg, hWord | ⟨hFrom, hTo, hWord⟩⟩
    · left
      rw [slotWords, List.getElem?_map, Option.map_eq_some_iff] at hWord
      obtain ⟨wa, hGet, hEq⟩ := hWord
      obtain ⟨hi, hElement⟩ := List.getElem?_eq_some_iff.mp hGet
      exact ⟨i, hi, by rw [hElement]; exact Prod.ext hReg.symm hEq⟩
    · right
      refine ⟨i, ?_, Prod.ext hReg.symm hWord.symm⟩
      rw [List.mem_range'_1, length_whitelist]
      omega

/-- What a slot is written with is what it holds, since each is written once. -/
theorem granted_slot (hSome : calls ≠ []) {i : Nat} {value : Word}
    (hWord : (slotWords calls)[i]? = some value ∨
      (grants calls).card ≤ i ∧ i < ringMaxNonprivSlots ∧ value = .ofNat 32 (ringNopid base)) :
    granted base calls regs (ringForceToNonpriv base i) = value := by
  apply Writes.perform_of_agree
  · exact (mem_writes hSome (ringForceToNonpriv base i, value)).mpr ⟨i, rfl, hWord⟩
  · intro write hWrite hReg
    obtain ⟨j, hj, hOther⟩ := (mem_writes hSome write).mp hWrite
    obtain rfl : j = i := ringForceToNonpriv_inj (hj.symm.trans hReg)
    rcases hWord with hFirst | ⟨hFrom, -, rfl⟩ <;> rcases hOther with hSecond | ⟨hLate, -, hEq⟩
    · exact Option.some.inj (hSecond.symm.trans hFirst)
    · rw [← length_slotWords, ← List.getElem?_eq_none_iff, hFirst] at hLate
      cases hLate
    · rw [← length_slotWords, ← List.getElem?_eq_none_iff, hSecond] at hFrom
      cases hFrom
    · exact hEq

theorem granted_getElem (hSome : calls ≠ []) {i : Nat} (hi : i < (slotWords calls).length) :
    granted base calls regs (ringForceToNonpriv base i) = (slotWords calls)[i] :=
  granted_slot hSome (.inl (List.getElem?_eq_getElem hi))

/-- The slots of an engine hold exactly what is asked for, whatever they held
before; where nothing is asked for they keep it. They are left only where more than
twelve grants are asked for. -/
theorem whitelist_grants (base : Nat) (calls : List WhitelistCall) (regs : Registers) :
    (calls ≠ [] → Grants base calls regs (granted base calls regs)) ∧
      (calls = [] → granted base calls regs = regs) ∧
      ((∀ write ∈ intelEngineApplyWhitelist base (whitelist calls),
          ∃ i < ringMaxNonprivSlots, write.1 = ringForceToNonpriv base i) ↔
        (grants calls).card ≤ ringMaxNonprivSlots) := by
  refine ⟨fun hSome => ?_, ?_, ?_⟩
  · exact {
      once := by
        intro grant hGrant
        obtain ⟨i, hi, hWord⟩ := List.getElem_of_mem (mem_slotWords.mpr hGrant)
        refine ⟨i, ⟨by rw [← length_slotWords]; exact hi, ?_⟩, ?_⟩
        · rw [granted_getElem hSome hi, hWord]
        · rintro j ⟨hj, hSame⟩
          rw [← length_slotWords] at hj
          rw [granted_getElem hSome hj, ← hWord] at hSame
          exact (List.Nodup.getElem_inj_iff (slotWords_nodup calls)).mp hSame
      only := by
        intro i hi
        rw [← length_slotWords] at hi
        rw [granted_getElem hSome hi]
        exact mem_slotWords.mp (List.getElem_mem hi)
      order := by
        intro i j hLt hj
        rw [← length_slotWords] at hj
        rw [granted_getElem hSome hj, granted_getElem hSome (hLt.trans hj)]
        exact List.pairwise_iff_getElem.mp (slotWords_increasing calls) i j _ hj hLt
      closed := fun i hFrom hTo => granted_slot hSome (.inr ⟨hFrom, hTo, rfl⟩)
      others := by
        intro reg hOther
        apply Writes.perform_of_untouched
        intro write hWrite hReg
        obtain ⟨i, hi, hWord⟩ := (mem_writes hSome write).mp hWrite
        refine hOther i ?_ (hReg.symm.trans hi)
        rcases hWord with hWord | ⟨-, hTo, -⟩
        · have hLength := (List.getElem?_eq_some_iff.mp hWord).1
          rw [length_slotWords] at hLength
          exact lt_max_of_lt_left hLength
        · exact lt_max_of_lt_right hTo }
  · rintro rfl
    rfl
  · constructor
    · intro hInside
      by_contra hMany
      have hLast : (slotWords calls).length - 1 < (slotWords calls).length := by
        rw [length_slotWords]
        omega
      have hSome : calls ≠ [] := by
        rintro rfl
        exact hMany (by decide)
      obtain ⟨i, hi, hReg⟩ := hInside (ringForceToNonpriv base ((slotWords calls).length - 1), _)
        ((mem_writes hSome _).mpr ⟨_, rfl, .inl (List.getElem?_eq_getElem hLast)⟩)
      have hSlot := ringForceToNonpriv_inj hReg
      rw [length_slotWords] at hSlot
      omega
    · intro hFew write hWrite
      have hSome : calls ≠ [] := by
        rintro rfl
        exact absurd hWrite List.not_mem_nil
      obtain ⟨i, hi, hWord⟩ := (mem_writes hSome write).mp hWrite
      refine ⟨i, ?_, hi⟩
      rcases hWord with hWord | ⟨-, hTo, -⟩
      · have hLength := (List.getElem?_eq_some_iff.mp hWord).1
        rw [length_slotWords] at hLength
        omega
      · exact hTo

/-- The calls of an engine of the platform fit into its slots. -/
example (engine : WhitelistEngine) : (grants (tglWhitelistBuild engine)).card ≤ ringMaxNonprivSlots := by
  have hCalls : (tglWhitelistBuild engine).length ≤ ringMaxNonprivSlots := by
    cases hRender : engine.isRender <;> simp [tglWhitelistBuild, allowReadCtxTimestamp, hRender,
      ringMaxNonprivSlots]
  calc (grants (tglWhitelistBuild engine)).card
      ≤ ((tglWhitelistBuild engine).map WhitelistCall.grant).length := List.toFinset_card_le _
    _ = (tglWhitelistBuild engine).length := List.length_map _
    _ ≤ ringMaxNonprivSlots := hCalls

end Whitelist

end NootedBlue.Wa
