import NootedBlue.Dmc.Package

/-! What `parse_dmc_fw` leaves. It reads nothing behind the file. The arrays and
the programs fit together just when no header that is taken has an empty list of
registers or a size that wraps around, and memory held no program before. -/
namespace NootedBlue.Dmc

open Interaction Bytes

section Loop

variable {memory : Memory} {display : DmcDisplay} {allocates : DmcId → Bool}
  {size readcount : Nat} {id : DmcId} {dmc result : IntelDmc}

/-- What becomes of the entry of an id; nothing if the arrays are left. -/
def headerResult (memory : Memory) (display : DmcDisplay) (allocates : DmcId → Bool)
    (size readcount maxFwSize : Nat) (id : DmcId) (info : DmcFwInfo) : Option DmcFwInfo :=
  match headerOffset size readcount info with
  | none => some info
  | some offset =>
      ((parseDmcFwHeader display maxFwSize (allocates id) id offset (size - offset) info).run.answer
        memory).map (·.2)

theorem set_self : dmc.set id (dmc.info id) = dmc := by
  simp [IntelDmc.set]

/-- An iteration changes the entry of its id and no other. -/
theorem answer_parseHeader :
    (parseHeader display allocates size readcount id dmc).run.answer memory =
      (headerResult memory display allocates size readcount dmc.maxFwSize id (dmc.info id)).map
        (dmc.set id) := by
  simp only [parseHeader, headerResult]
  cases headerOffset size readcount (dmc.info id) with
  | none => exact congrArg some set_self.symm
  | some offset =>
      simp only [answer_search_bind]
      cases (parseDmcFwHeader display dmc.maxFwSize (allocates id) id offset (size - offset)
        (dmc.info id)).run.answer memory with
      | none => rfl
      | some parsed => rfl

theorem inside_parseHeader :
    Inside size memory (parseHeader display allocates size readcount id dmc).run := by
  simp only [parseHeader]
  split
  · exact inside_done _
  · next offset hOffset =>
      have hLe : offset ≤ size := by
        simp only [headerOffset] at hOffset
        split at hOffset
        · next hPresent =>
            cases hOffset
            simpa using (Bool.and_eq_true_iff.mp hPresent).2
        · cases hOffset
      refine inside_search_bind_iff.mpr ⟨inside_parseDmcFwHeader (by omega), ?_⟩
      exact fun _ _ => inside_done _

theorem inside_parseHeaders (ids : List DmcId) :
    Inside size memory (parseHeaders display allocates size readcount ids dmc).run := by
  induction ids generalizing dmc with
  | nil => exact inside_done _
  | cons id rest ih => exact inside_search_bind_iff.mpr ⟨inside_parseHeader, fun _ _ => ih⟩

/-- The loop does for each id what it does for it alone. -/
theorem answer_parseHeaders_eq_some {ids : List DmcId} (hNodup : ids.Nodup)
    (h : (parseHeaders display allocates size readcount ids dmc).run.answer memory = some result) :
    (∀ id ∈ ids, headerResult memory display allocates size readcount dmc.maxFwSize id
        (dmc.info id) = some (result.info id)) ∧
      ∀ id ∉ ids, result.info id = dmc.info id := by
  induction ids generalizing dmc with
  | nil =>
      cases h
      simp
  | cons id rest ih =>
      simp only [parseHeaders, answer_search_bind, answer_parseHeader] at h
      obtain ⟨middle, hMiddle, hRest⟩ := Option.bind_eq_some_iff.mp h
      obtain ⟨info, hInfo, rfl⟩ := Option.map_eq_some_iff.mp hMiddle
      obtain ⟨hId, hNodup⟩ := List.nodup_cons.mp hNodup
      obtain ⟨hIn, hOut⟩ := ih hNodup hRest
      have hOther : ∀ other ≠ id, (dmc.set id info).info other = dmc.info other := by
        intro other hNe
        simp [IntelDmc.set, hNe]
      constructor
      · intro other hMem
        rcases List.mem_cons.mp hMem with rfl | hMem
        · rw [hInfo, hOut other hId]
          simp [IntelDmc.set]
        · rw [← hOther other (fun hEq => hId (hEq ▸ hMem))]
          exact hIn other hMem
      · intro other hNot
        rw [List.mem_cons, not_or] at hNot
        rw [hOut other hNot.2, hOther other hNot.1]

/-- The loop ends if no header makes it leave the arrays. -/
theorem answer_parseHeaders_isSome {ids : List DmcId} (hNodup : ids.Nodup)
    (h : ∀ id ∈ ids, (headerResult memory display allocates size readcount dmc.maxFwSize id
      (dmc.info id)).isSome) :
    ((parseHeaders display allocates size readcount ids dmc).run.answer memory).isSome := by
  induction ids generalizing dmc with
  | nil => rfl
  | cons id rest ih =>
      obtain ⟨hId, hNodup⟩ := List.nodup_cons.mp hNodup
      obtain ⟨info, hInfo⟩ := Option.isSome_iff_exists.mp (h id List.mem_cons_self)
      simp only [parseHeaders, answer_search_bind, answer_parseHeader, hInfo, Option.map_some,
        Option.bind_some]
      apply ih hNodup
      intro other hMem
      have hOther : (dmc.set id info).info other = dmc.info other := by
        have hNe : other ≠ id := fun hEq => hId (hEq ▸ hMem)
        simp [IntelDmc.set, hNe]
      rw [hOther]
      exact h other (List.mem_cons_of_mem _ hMem)

end Loop

section Safety

variable (memory : Memory) (display : DmcDisplay) (allocates : DmcId → Bool) (si : SteppingInfo)
  (size : Nat) (dmc : IntelDmc)

/-- Where the header of an id begins in the file, if one is parsed for it. -/
def headerAt (id : DmcId) : Option Nat :=
  let package := (readPackage si size dmc).answer memory
  package.1.bind fun readcount => headerOffset size readcount (package.2.info id)

/-- The header of an id and the program behind it pass all checks. -/
structure Taken (id : DmcId) (header : Nat) (format : HeaderFormat) : Prop where
  at' : headerAt memory si size dmc id = some header
  accepted : Accepted memory display id header (size - header) format
  fits : PayloadFits memory dmc.maxFwSize header (size - header) format

/-- The entry of an id fits together with the file. -/
structure Consistent (id : DmcId) (info : DmcFwInfo) : Prop where
  program : ∃ header format, Taken memory display si size dmc id header format ∧
    info.payload = .buffer (fileBytes memory (header + format.size) (4 * info.dmcFwSize))
  fwSize : 4 * info.dmcFwSize ≤ dmc.maxFwSize
  mmioCount : info.mmioCount ≤ mmioEntries

/-- The parse is safe: it reads inside the file, the loop over the registers stays
below their number, the parse comes to its end, and what it leaves is consistent. -/
structure SafeParse : Prop where
  reads : Inside size memory (parseDmcFw display allocates size si dmc).run
  fixups : ∀ id header format, headerAt memory si size dmc id = some header →
    Accepted memory display id header (size - header) format →
    ∀ i < fixupCount (u32 memory (header + format.mmioCount)),
      i + 1 < u32 memory (header + format.mmioCount)
  result : ∃ r parsed, (parseDmcFw display allocates size si dmc).run.answer memory = some (r, parsed) ∧
    ∀ id, (parsed.info id).payload ≠ .null → Consistent memory display si size dmc id (parsed.info id)

/-- The condition on an id: its header has registers, the size of its program does
not wrap around, and without one there was none before. -/
structure HeaderFits (id : DmcId) : Prop where
  entries : ∀ header format, headerAt memory si size dmc id = some header →
    Accepted memory display id header (size - header) format →
    u32 memory (header + format.mmioCount) ≠ 0
  fwSize : ∀ header format, Taken memory display si size dmc id header format → allocates id →
    u32 memory (header + 12) < 2 ^ 30
  leftover : (¬ ∃ header format, Taken memory display si size dmc id header format) →
    (dmc.info id).payload = .null

end Safety

section OneId

variable {memory : Memory} {display : DmcDisplay} {allocates : DmcId → Bool} {si : SteppingInfo}
  {size : Nat} {dmc : IntelDmc} {id : DmcId}

/-- What becomes of the entry of an id in the whole parse. -/
def idResult (memory : Memory) (display : DmcDisplay) (allocates : DmcId → Bool)
    (si : SteppingInfo) (size : Nat) (dmc : IntelDmc) (id : DmcId) : Option DmcFwInfo :=
  let package := (readPackage si size dmc).answer memory
  match package.1 with
  | none => some (package.2.info id)
  | some readcount =>
      headerResult memory display allocates size readcount package.2.maxFwSize id
        (package.2.info id)

theorem answer_parseDmcFw_eq_some {r : Int} {parsed : IntelDmc}
    (h : (parseDmcFw display allocates size si dmc).run.answer memory = some (r, parsed)) :
    idResult memory display allocates si size dmc id = some (parsed.info id) := by
  simp only [parseDmcFw, answer_search_bind, answer_search_lift, Option.bind_some] at h
  simp only [idResult]
  cases hPackage : ((readPackage si size dmc).answer memory).1 with
  | none =>
      rw [hPackage] at h
      cases h
      rfl
  | some readcount =>
      rw [hPackage] at h
      simp only [answer_search_bind] at h
      obtain ⟨result, hLoop, hResult⟩ := Option.bind_eq_some_iff.mp h
      cases hResult
      exact (answer_parseHeaders_eq_some DmcId.nodup_all hLoop).1 id (DmcId.mem_all id)

theorem exists_answer_parseDmcFw
    (h : ∀ id, (idResult memory display allocates si size dmc id).isSome) :
    ∃ r parsed, (parseDmcFw display allocates size si dmc).run.answer memory = some (r, parsed) := by
  simp only [parseDmcFw, answer_search_bind, answer_search_lift, Option.bind_some]
  simp only [idResult] at h
  cases hPackage : ((readPackage si size dmc).answer memory).1 with
  | none => exact ⟨_, _, rfl⟩
  | some readcount =>
      simp only [hPackage] at h
      obtain ⟨result, hLoop⟩ := Option.isSome_iff_exists.mp
        (answer_parseHeaders_isSome DmcId.nodup_all fun id _ => h id)
      simp only [answer_search_bind, hLoop]
      exact ⟨_, _, rfl⟩

/-- All that can become of an id: nothing is taken for it and it keeps its
program, or its header makes the parse leave the arrays, or it is parsed. -/
theorem idResult_cases (memory : Memory) (display : DmcDisplay) (allocates : DmcId → Bool)
    (si : SteppingInfo) (size : Nat) (dmc : IntelDmc) (id : DmcId) :
    ((∀ header format, headerAt memory si size dmc id = some header →
        ¬ Accepted memory display id header (size - header) format) ∧
      ∃ info, idResult memory display allocates si size dmc id = some info ∧
        info.payload = (dmc.info id).payload) ∨
    ∃ header format, headerAt memory si size dmc id = some header ∧
      Accepted memory display id header (size - header) format ∧
      ((u32 memory (header + format.mmioCount) = 0 ∧
          idResult memory display allocates si size dmc id = none) ∨
        (u32 memory (header + format.mmioCount) ≠ 0 ∧
          ∃ info parsed, idResult memory display allocates si size dmc id = some parsed ∧
            info.payload = (dmc.info id).payload ∧
            Parsed memory dmc.maxFwSize (allocates id) header (size - header) format info parsed)) := by
  have hOffsets : OffsetsOnly dmc ((readPackage si size dmc).answer memory).2 :=
    offsetsOnly_readPackage
  simp only [headerAt, idResult]
  generalize (readPackage si size dmc).answer memory = package at hOffsets ⊢
  obtain ⟨readcount, middle⟩ := package
  rw [← hOffsets.maxFwSize]
  have hPayload := hOffsets.payload id
  cases readcount with
  | none => exact .inl ⟨(fun _ _ h => nomatch h), _, rfl, hPayload⟩
  | some readcount =>
      simp only [headerResult, Option.bind_some]
      cases headerOffset size readcount (middle.info id) with
      | none => exact .inl ⟨(fun _ _ h => nomatch h), _, rfl, hPayload⟩
      | some header =>
          rcases parseDmcFwHeader_cases memory display middle.maxFwSize (allocates id) id header
            (size - header) (middle.info id) with ⟨hRejected, hResult⟩ | ⟨format, hAccepted, hResult⟩
          · refine .inl ⟨?_, _, by simp [hResult], hPayload⟩
            rintro other format hOther hAccepted
            cases hOther
            exact hRejected ⟨format, hAccepted⟩
          · refine .inr ⟨header, format, rfl, hAccepted, ?_⟩
            rcases hResult with ⟨hEmpty, hNone⟩ | ⟨hPos, r, parsed, hSome, hParsed, -⟩
            · exact .inl ⟨hEmpty, by simp [hNone]⟩
            · exact .inr ⟨hPos, _, parsed, by simp [hSome], hPayload, hParsed⟩

theorem length_fileBytes (offset count : Nat) : (fileBytes memory offset count).length = count := by
  simp [fileBytes]

/-- An id for which nothing is taken has no program afterwards just when it had none
before. -/
theorem untaken_consistent_iff {parsed : DmcFwInfo}
    (hUntaken : ¬ ∃ header format, Taken memory display si size dmc id header format)
    (hPayload : parsed.payload = (dmc.info id).payload) :
    (parsed.payload ≠ .null → Consistent memory display si size dmc id parsed) ↔
      (dmc.info id).payload = .null := by
  rw [hPayload]
  constructor
  · intro hConsistent
    by_contra hLeft
    obtain ⟨header, format, hTaken, -⟩ := (hConsistent hLeft).program
    exact hUntaken ⟨header, format, hTaken⟩
  · exact fun hNull hLeft => absurd hNull hLeft

/-- The size of a program that is kept is right just when it did not wrap around. -/
theorem stored_consistent_iff {header : Nat} {format : HeaderFormat} {parsed : DmcFwInfo}
    (hTaken : Taken memory display si size dmc id header format)
    (hCount : parsed.mmioCount = u32 memory (header + format.mmioCount))
    (hSize : parsed.dmcFwSize = u32 memory (header + 12))
    (hPayload : parsed.payload =
      .buffer (fileBytes memory (header + format.size) (u32 memory (header + 12) * 4 % 2 ^ 32))) :
    Consistent memory display si size dmc id parsed ↔ u32 memory (header + 12) < 2 ^ 30 := by
  constructor
  · rintro ⟨⟨other, otherFormat, -, hOther⟩, -, -⟩
    have hBytes := Payload.buffer.inj (hPayload.symm.trans hOther)
    have hLength := congrArg List.length hBytes
    rw [length_fileBytes, length_fileBytes, hSize] at hLength
    omega
  · intro hSmall
    have hWhole : u32 memory (header + 12) * 4 % 2 ^ 32 = 4 * parsed.dmcFwSize := by
      rw [hSize]
      omega
    exact {
      program := ⟨header, format, hTaken, hWhole ▸ hPayload⟩
      fwSize := hWhole ▸ hTaken.fits.size
      mmioCount := hCount ▸ hTaken.accepted.count_le }

/-- The offset of the header decides on its format, so a condition on every header
and every format is one on these. -/
theorem unique_header {header other : Nat} {format otherFormat : HeaderFormat}
    (hAt : headerAt memory si size dmc id = some header)
    (hAccepted : Accepted memory display id header (size - header) format)
    (hOther : headerAt memory si size dmc id = some other)
    (hOtherAccepted : Accepted memory display id other (size - other) otherFormat) :
    other = header ∧ otherFormat = format := by
  obtain rfl : header = other := Option.some.inj (hAt.symm.trans hOther)
  exact ⟨rfl, hAccepted.unique hOtherAccepted⟩

/-- What is asked of an id without a program. -/
theorem headerFits_iff_of_untaken
    (hEntries : ∀ header format, headerAt memory si size dmc id = some header →
      Accepted memory display id header (size - header) format →
      u32 memory (header + format.mmioCount) ≠ 0)
    (hUntaken : ¬ ∃ header format, Taken memory display si size dmc id header format) :
    HeaderFits memory display allocates si size dmc id ↔ (dmc.info id).payload = .null := by
  constructor
  · exact fun hFits => hFits.leftover hUntaken
  · intro hNull
    exact {
      entries := hEntries
      fwSize := fun header format hTaken _ => absurd ⟨header, format, hTaken⟩ hUntaken
      leftover := fun _ => hNull }

section Header

variable {header : Nat} {format : HeaderFormat}

theorem entries_of_header (hAt : headerAt memory si size dmc id = some header)
    (hAccepted : Accepted memory display id header (size - header) format)
    (hPos : u32 memory (header + format.mmioCount) ≠ 0) :
    ∀ other otherFormat, headerAt memory si size dmc id = some other →
      Accepted memory display id other (size - other) otherFormat →
      u32 memory (other + otherFormat.mmioCount) ≠ 0 := by
  intro other otherFormat hOther hOtherAccepted
  obtain ⟨rfl, rfl⟩ := unique_header hAt hAccepted hOther hOtherAccepted
  exact hPos

/-- What is asked of an id with a program. -/
theorem headerFits_iff_of_taken (hTaken : Taken memory display si size dmc id header format)
    (hPos : u32 memory (header + format.mmioCount) ≠ 0) :
    HeaderFits memory display allocates si size dmc id ↔
      (allocates id → u32 memory (header + 12) < 2 ^ 30) := by
  constructor
  · exact fun hFits => hFits.fwSize header format hTaken
  · intro hSmall
    exact {
      entries := entries_of_header hTaken.at' hTaken.accepted hPos
      fwSize := by
        intro other otherFormat hOther hAllocates
        obtain ⟨rfl, rfl⟩ :=
          unique_header hTaken.at' hTaken.accepted hOther.at' hOther.accepted
        exact hSmall hAllocates
      leftover := fun hNot => absurd ⟨header, format, hTaken⟩ hNot }

/-- A header that is parsed leaves its entry consistent just when it fits. -/
theorem parsed_consistent_iff {info parsed : DmcFwInfo}
    (hAt : headerAt memory si size dmc id = some header)
    (hAccepted : Accepted memory display id header (size - header) format)
    (hPos : u32 memory (header + format.mmioCount) ≠ 0)
    (hPayload : info.payload = (dmc.info id).payload)
    (hParsed : Parsed memory dmc.maxFwSize (allocates id) header (size - header) format info parsed) :
    (parsed.payload ≠ .null → Consistent memory display si size dmc id parsed) ↔
      HeaderFits memory display allocates si size dmc id := by
  by_cases hFits : PayloadFits memory dmc.maxFwSize header (size - header) format
  · have hTaken : Taken memory display si size dmc id header format := ⟨hAt, hAccepted, hFits⟩
    obtain ⟨hSize, hProgram⟩ := hParsed.stored hFits
    rw [headerFits_iff_of_taken hTaken hPos]
    cases hAllocates : allocates id with
    | false =>
        simp only [hAllocates, Bool.false_eq_true, if_false] at hProgram
        exact iff_of_true (fun h => absurd hProgram h) (by simp)
    | true =>
        simp only [hAllocates, if_true] at hProgram
        rw [stored_consistent_iff hTaken hParsed.mmioCount hSize hProgram]
        simp [hProgram]
  · have hUntaken : ¬ ∃ header format, Taken memory display si size dmc id header format := by
      rintro ⟨other, otherFormat, hOther⟩
      obtain ⟨rfl, rfl⟩ := unique_header hAt hAccepted hOther.at' hOther.accepted
      exact hFits hOther.fits
    rw [headerFits_iff_of_untaken (entries_of_header hAt hAccepted hPos) hUntaken]
    exact untaken_consistent_iff hUntaken ((hParsed.kept hFits).trans hPayload)

end Header

/-- For one id: it comes out, consistent if it has a program, just when its header
fits. -/
theorem idResult_consistent_iff :
    (∃ parsed, idResult memory display allocates si size dmc id = some parsed ∧
        (parsed.payload ≠ .null → Consistent memory display si size dmc id parsed)) ↔
      HeaderFits memory display allocates si size dmc id := by
  rcases idResult_cases memory display allocates si size dmc id with
    ⟨hNone, info, hInfo, hPayload⟩ | ⟨header, format, hAt, hAccepted, hResult⟩
  · have hUntaken : ¬ ∃ header format, Taken memory display si size dmc id header format :=
      fun ⟨header, format, hTaken⟩ => hNone header format hTaken.at' hTaken.accepted
    have hEntries : ∀ header format, headerAt memory si size dmc id = some header →
        Accepted memory display id header (size - header) format →
        u32 memory (header + format.mmioCount) ≠ 0 :=
      fun header format hAt hAccepted => absurd hAccepted (hNone header format hAt)
    rw [headerFits_iff_of_untaken hEntries hUntaken, ← untaken_consistent_iff hUntaken hPayload]
    simp [hInfo]
  · rcases hResult with ⟨hEmpty, hStop⟩ | ⟨hPos, info, parsed, hParsed, hPayload, hStored⟩
    · have hNot : ¬ HeaderFits memory display allocates si size dmc id :=
        fun hFits => hFits.entries header format hAt hAccepted hEmpty
      simp [hStop, hNot]
    · rw [← parsed_consistent_iff hAt hAccepted hPos hPayload hStored]
      simp [hParsed]

end OneId

/-- The loop over the registers stays below their number just when there are any. -/
theorem fixups_inside_iff {mmioCount : Nat} (hLe : mmioCount ≤ mmioEntries) :
    (∀ i < fixupCount mmioCount, i + 1 < mmioCount) ↔ mmioCount ≠ 0 := by
  constructor
  · rintro hInside rfl
    have hFirst := hInside 0 (by rw [fixupCount_zero]; decide)
    omega
  · intro hPos i hi
    rw [fixupCount_of_pos (Nat.pos_of_ne_zero hPos) hLe] at hi
    omega

/-- The parse of any file is safe just when the header of every id fits. -/
theorem parseDmcFw_safe_iff (memory : Memory) (display : DmcDisplay) (allocates : DmcId → Bool)
    (si : SteppingInfo) (size : Nat) (dmc : IntelDmc) :
    SafeParse memory display allocates si size dmc ↔
      ∀ id, HeaderFits memory display allocates si size dmc id := by
  constructor
  · rintro ⟨-, -, r, parsed, hParsed, hConsistent⟩ id
    exact idResult_consistent_iff.mp ⟨_, answer_parseDmcFw_eq_some hParsed, hConsistent id⟩
  · intro hFits
    have hEach := fun id => idResult_consistent_iff.mpr (hFits id)
    obtain ⟨r, parsed, hParsed⟩ := exists_answer_parseDmcFw fun id =>
      Option.isSome_iff_exists.mpr ((hEach id).imp fun _ h => h.1)
    exact {
      reads := by
        simp only [parseDmcFw]
        refine inside_lift_bind_iff.mpr ⟨inside_readPackage, ?_⟩
        split
        · exact inside_done _
        · exact inside_search_bind_iff.mpr ⟨inside_parseHeaders _, fun _ _ => inside_done _⟩
      fixups := fun id header format hAt hAccepted =>
        (fixups_inside_iff hAccepted.count_le).mpr ((hFits id).entries header format hAt hAccepted)
      result := ⟨r, parsed, hParsed, fun id hProgram => by
        obtain ⟨info, hInfo, hConsistent⟩ := hEach id
        obtain rfl := Option.some.inj (hInfo.symm.trans (answer_parseDmcFw_eq_some hParsed))
        exact hConsistent hProgram⟩ }

/-- Memory for the microcontrollers that was cleared. -/
def clearedDmc : IntelDmc where
  version := 0
  maxFwSize := 0x6000
  info := fun _ => ⟨0, fun _ => 0, fun _ => 0, 0, 0, 0, .null, false⟩

def tigerlake : DmcDisplay := ⟨12, true, false⟩

/-- A file of one program for any stepping, whose header has no registers. -/
def emptyList : Memory := fun offset =>
  match offset with
  | 4 => 32
  | 128 => 64
  | 129 => 1
  | 140 => 1
  | 146 => 0x2a
  | 147 => 0x2a
  | 388 => 128
  | 389 => 1
  | _ => 0

theorem emptyList_accepted :
    Accepted emptyList tigerlake .main 384 (512 - 384) dmcHeaderV1 where
  base := by decide
  version := by decide
  fits := by decide
  headerLen := by decide
  count := by decide
  addresses := by decide

theorem empty_list_leaves_arrays :
    ¬ SafeParse emptyList tigerlake (fun _ => true) ⟨0x42, 0x30⟩ 512 clearedDmc := by
  intro hSafe
  have hFirst := hSafe.fixups .main 384 dmcHeaderV1 (by decide) emptyList_accepted 0
  revert hFirst
  decide

end NootedBlue.Dmc
