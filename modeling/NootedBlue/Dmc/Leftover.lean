import NootedBlue.Dmc.Fixups
import NootedBlue.Dmc.Loader
import NootedBlue.Dmc.Selection

/-! What a header leaves that is not taken. The arrays, their number and the start
are committed before the size of the program is checked and before memory for it
is asked for, so that an id without a program may have registers; the loading goes
over all ids. -/
namespace NootedBlue.Dmc

open Interaction Bytes Writes

/-- The entry with all that is committed of a header, after the fixups of the data. -/
def HeaderFields.commitTo (fields : HeaderFields) (info : DmcFwInfo) (mmiodata : Nat → Word) :
    DmcFwInfo :=
  { fields.copyTo info with
    mmiodata
    mmioCount := fields.mmioCount
    startMmioaddr := fields.startMmioaddr }

/-- The arrays of a header, as the file has them. -/
def headerAddr (memory : Memory) (header : Nat) (format : HeaderFormat) (i : Nat) : Nat :=
  u32 memory (header + format.mmioaddr + 4 * i)

def headerData (memory : Memory) (header : Nat) (format : HeaderFormat) (i : Nat) : Word :=
  .ofNat 32 (u32 memory (header + format.mmiodata + 4 * i))

section Header

variable (memory : Memory) (display : DmcDisplay) (id : DmcId) (header remSize : Nat)
  (maxFwSize : Nat) (allocates : Bool) (format : HeaderFormat) (info : DmcFwInfo)

/-- The entry once the arrays are fixed up, or nothing if they are left. -/
def committed : Option DmcFwInfo :=
  let fields := headerFields memory format header
  let copied := fields.copyTo info
  (fixups display id copied.mmioaddr (fixupCount fields.mmioCount) 0 copied.mmiodata).map
    (fields.commitTo info)

/-- The entry holds already what the header commits. -/
structure Held : Prop where
  mmioCount : info.mmioCount = u32 memory (header + format.mmioCount)
  startMmioaddr : info.startMmioaddr = (headerFields memory format header).startMmioaddr
  mmioaddr : ∀ i < info.mmioCount, info.mmioaddr i = headerAddr memory header format i
  mmiodata : ∀ i < info.mmioCount, info.mmiodata i =
    fixedData display id (headerAddr memory header format) (headerData memory header format) 0
      (info.mmioCount - 1) i

/-- If zero is returned for a header, the entry of its id is as it was. -/
def FailureKeeps : Prop :=
  ∀ after, (parseDmcFwHeader display maxFwSize allocates id header remSize info).run.answer memory =
    some (0, after) → after = info

/-- The condition under which a failure keeps the entry: the header is rejected
before anything is copied, or it has no registers and the arrays are left, or its
program is kept, or what is written into the entry is what it holds. -/
structure CommitsNothing (format : HeaderFormat) : Prop where
  rejected : ¬ PayloadFits memory maxFwSize header remSize format →
    Held memory display id header format info
  noMemory : PayloadFits memory maxFwSize header remSize format → allocates = false →
    Held memory display id header format info ∧ info.dmcFwSize = u32 memory (header + 12) ∧
      info.payload = .null
  wrapped : PayloadFits memory maxFwSize header remSize format → allocates = true →
    (format.size + u32 memory (header + 12) * 4 % 2 ^ 32) % 2 ^ 32 = 0 →
    Held memory display id header format info ∧ info.dmcFwSize = u32 memory (header + 12) ∧
      info.payload =
        .buffer (fileBytes memory (header + format.size) (u32 memory (header + 12) * 4 % 2 ^ 32))

end Header

section Commit

variable {memory : Memory} {display : DmcDisplay} {id : DmcId} {header remSize maxFwSize : Nat}
  {allocates : Bool} {format : HeaderFormat} {info after : DmcFwInfo}

/-- The arrays are those of the header, and behind them those of the entry. -/
theorem copyTo_mmioaddr (i : Nat) :
    ((headerFields memory format header).copyTo info).mmioaddr i =
      if i < u32 memory (header + format.mmioCount) then headerAddr memory header format i
      else info.mmioaddr i := by
  simp only [HeaderFields.copyTo, headerFields, u32s, List.getD_eq_getElem?_getD,
    List.getElem?_map, headerAddr]
  split
  · next hIn => simp [hIn]
  · next hOut => simp [hOut]

theorem copyTo_mmiodata (i : Nat) :
    ((headerFields memory format header).copyTo info).mmiodata i =
      if i < u32 memory (header + format.mmioCount) then headerData memory header format i
      else info.mmiodata i := by
  simp only [HeaderFields.copyTo, headerFields, u32s, List.getElem?_map, headerData]
  by_cases hIn : i < u32 memory (header + format.mmioCount)
  · simp [hIn]
  · simp [hIn]

/-- The copied data after the fixups is that of the header after them. -/
theorem fixedData_copyTo :
    fixedData display id ((headerFields memory format header).copyTo info).mmioaddr
        ((headerFields memory format header).copyTo info).mmiodata 0
        (u32 memory (header + format.mmioCount) - 1) =
      fun i => if i < u32 memory (header + format.mmioCount) then
          fixedData display id (headerAddr memory header format) (headerData memory header format) 0
            (u32 memory (header + format.mmioCount) - 1) i
        else info.mmiodata i := by
  funext i
  split
  · next hIn =>
      apply fixedData_agree
      · intro j hj
        rw [copyTo_mmioaddr, if_pos (by omega)]
      · intro j hj
        rw [copyTo_mmiodata, if_pos (by omega)]
      · omega
  · next hOut => rw [fixedData_eq_self (by omega) (by omega), copyTo_mmiodata, if_neg hOut]

/-- What is written over the first elements is there already just when each of these
holds it. -/
theorem overwritten_eq_iff {α : Type} {count : Nat} {new old : Nat → α} :
    (fun i => if i < count then new i else old i) = old ↔ ∀ i < count, old i = new i := by
  constructor
  · intro hSame i hi
    rw [← congrFun hSame i, if_pos hi]
  · intro hHeld
    funext i
    split
    · next hi => exact (hHeld i hi).symm
    · rfl

theorem committed_eq_some {entry : DmcFwInfo} :
    committed memory display id header format info = some entry ↔
      ∃ mmiodata, fixups display id ((headerFields memory format header).copyTo info).mmioaddr
          (fixupCount (u32 memory (header + format.mmioCount))) 0
          ((headerFields memory format header).copyTo info).mmiodata = some mmiodata ∧
        (headerFields memory format header).commitTo info mmiodata = entry := by
  simp only [committed]
  exact Option.map_eq_some_iff

/-- The arrays and all else that is committed of a header with registers. -/
theorem eq_of_committed {entry : DmcFwInfo}
    (h : committed memory display id header format info = some entry) :
    entry = { info with
      mmioCount := u32 memory (header + format.mmioCount)
      startMmioaddr := (headerFields memory format header).startMmioaddr
      mmioaddr := fun i =>
        if i < u32 memory (header + format.mmioCount) then headerAddr memory header format i
        else info.mmioaddr i
      mmiodata := fun i =>
        if i < u32 memory (header + format.mmioCount) then
          fixedData display id (headerAddr memory header format) (headerData memory header format) 0
            (u32 memory (header + format.mmioCount) - 1) i
        else info.mmiodata i } := by
  obtain ⟨mmiodata, hFixed, rfl⟩ := committed_eq_some.mp h
  have hRounds := fixups_isSome_iff.mp (Option.isSome_of_eq_some hFixed)
  rw [fixups_eq hRounds, Nat.zero_add] at hFixed
  have hLast : fixupCount (u32 memory (header + format.mmioCount)) =
      u32 memory (header + format.mmioCount) - 1 := by
    have hLt := u32_lt memory (header + format.mmioCount)
    simp only [fixupCount, mmioEntries] at hRounds ⊢
    omega
  have hPos : 0 < u32 memory (header + format.mmioCount) := by
    refine Nat.pos_of_ne_zero fun hZero => ?_
    rw [hZero, fixupCount_zero] at hRounds
    exact absurd hRounds (by decide)
  rw [hLast] at hFixed
  obtain rfl := Option.some.inj hFixed
  rw [fixedData_copyTo, HeaderFields.commitTo, funext copyTo_mmioaddr]
  rfl

/-- Nothing is changed by the commit just when the entry holds it already. -/
theorem committed_eq_self_iff {entry : DmcFwInfo}
    (h : committed memory display id header format info = some entry) :
    entry = info ↔ Held memory display id header format info := by
  obtain rfl := eq_of_committed h
  constructor
  · intro hSame
    have hCount : u32 memory (header + format.mmioCount) = info.mmioCount :=
      congrArg DmcFwInfo.mmioCount hSame
    exact {
      mmioCount := hCount.symm
      startMmioaddr := (congrArg DmcFwInfo.startMmioaddr hSame).symm
      mmioaddr := by
        rw [← hCount]
        exact overwritten_eq_iff.mp (congrArg DmcFwInfo.mmioaddr hSame)
      mmiodata := by
        rw [← hCount]
        exact overwritten_eq_iff.mp (congrArg DmcFwInfo.mmiodata hSame) }
  · intro held
    have hAddr := overwritten_eq_iff.mpr held.mmioaddr
    have hData := overwritten_eq_iff.mpr held.mmiodata
    rw [held.mmioCount] at hAddr hData
    rw [hAddr, hData, ← held.mmioCount, ← held.startMmioaddr]

/-- A header that is accepted is committed, and then its program is read. -/
theorem answer_parseDmcFwHeader_of_accepted
    (h : Accepted memory display id header remSize format) :
    (parseDmcFwHeader display maxFwSize allocates id header remSize info).run.answer memory =
      (committed memory display id header format info).map fun entry =>
        (readPayload maxFwSize allocates header remSize format.size entry).answer memory := by
  simp only [parseDmcFwHeader, answer_search_bind, answer_search_lift, Option.bind_some]
  rw [answer_readHeader_of_accepted h]
  simp only [parseFields, committed]
  generalize fixups display id _ _ _ _ = fixed
  cases fixed with
  | none => rfl
  | some mmiodata => exact answer_search_lift _

theorem answer_parseDmcFwHeader_of_rejected
    (h : ¬ ∃ format, Accepted memory display id header remSize format) :
    (parseDmcFwHeader display maxFwSize allocates id header remSize info).run.answer memory =
      some (0, info) := by
  simp only [parseDmcFwHeader, answer_search_bind, answer_search_lift, Option.bind_some]
  rw [answer_readHeader_of_rejected h]
  rfl

/-- What is returned with a program that is kept. -/
theorem answer_readPayload_returned (h : PayloadFits memory maxFwSize header remSize format) :
    ((readPayload maxFwSize allocates header remSize format.size info).answer memory).1 =
      if allocates then (format.size + u32 memory (header + 12) * 4 % 2 ^ 32) % 2 ^ 32 else 0 := by
  simp only [readPayload, Program.answer_bind, answer_readU32]
  simp only [copyPayload]
  rw [if_neg (Nat.not_lt.mpr h.inFile), if_neg (Nat.not_lt.mpr h.size)]
  cases allocates with
  | false => rfl
  | true => simp only [Bool.not_true, Bool.false_eq_true, if_false, if_true, Program.answer_bind,
      Program.pure_eq, Program.answer_done]

theorem returned_of_not_fits (h : ¬ PayloadFits memory maxFwSize header remSize format) :
    ((readPayload maxFwSize allocates header remSize format.size info).answer memory).1 = 0 := by
  by_contra hReturned
  exact h (fits_of_answer_readPayload hReturned).1

/-- The arrays are left only by a header without registers. -/
theorem committed_eq_none_iff (h : Accepted memory display id header remSize format) :
    committed memory display id header format info = none ↔
      u32 memory (header + format.mmioCount) = 0 := by
  rw [committed, Option.map_eq_none_iff]
  exact fixups_eq_none_iff display id _ _ h.count_le

theorem committed_rest {entry : DmcFwInfo}
    (h : committed memory display id header format info = some entry) :
    entry.dmcFwSize = info.dmcFwSize ∧ entry.payload = info.payload ∧
      entry.dmcOffset = info.dmcOffset ∧ entry.present = info.present := by
  obtain ⟨mmiodata, -, rfl⟩ := committed_eq_some.mp h
  exact ⟨rfl, rfl, rfl, rfl⟩

/-- With a program that is kept, the entry is as it was just when it held the header
and the program. -/
theorem stored_eq_iff {entry : DmcFwInfo} {fwSize : Nat} {payload : Payload}
    (h : committed memory display id header format info = some entry) :
    { entry with dmcFwSize := fwSize, payload } = info ↔
      Held memory display id header format info ∧ info.dmcFwSize = fwSize ∧
        info.payload = payload := by
  obtain ⟨hSize, hPayload, -, -⟩ := committed_rest h
  constructor
  · intro hSame
    have hStoredSize : fwSize = info.dmcFwSize := congrArg DmcFwInfo.dmcFwSize hSame
    have hStored : payload = info.payload := congrArg DmcFwInfo.payload hSame
    refine ⟨(committed_eq_self_iff h).mp ?_, hStoredSize.symm, hStored.symm⟩
    rw [← hSame, hStoredSize, hStored, ← hSize, ← hPayload]
  · rintro ⟨hHeld, rfl, rfl⟩
    obtain rfl := (committed_eq_self_iff h).mpr hHeld
    rfl

/-- With a header that is committed, a zero keeps the entry just when nothing new is
committed. -/
theorem keeps_iff_commitsNothing {entry : DmcFwInfo}
    (h : committed memory display id header format info = some entry) :
    (((readPayload maxFwSize allocates header remSize format.size entry).answer memory).1 = 0 →
      ((readPayload maxFwSize allocates header remSize format.size entry).answer memory).2 = info) ↔
      CommitsNothing memory display id header remSize maxFwSize allocates info format := by
  by_cases hFits : PayloadFits memory maxFwSize header remSize format
  · rw [answer_readPayload_returned hFits, answer_readPayload_of_fits hFits]
    cases allocates with
    | false =>
        simp only [Bool.false_eq_true, if_false, forall_const]
        rw [stored_eq_iff h]
        exact {
          mp := fun hHeld => {
            rejected := fun hNot => absurd hFits hNot
            noMemory := fun _ _ => hHeld
            wrapped := fun _ hTrue => nomatch hTrue }
          mpr := fun hNothing => hNothing.noMemory hFits rfl }
    | true =>
        simp only [if_true]
        rw [stored_eq_iff h]
        exact {
          mp := fun hHeld => {
            rejected := fun hNot => absurd hFits hNot
            noMemory := fun _ hFalse => nomatch hFalse
            wrapped := fun _ _ => hHeld }
          mpr := fun hNothing => hNothing.wrapped hFits rfl }
  · rw [returned_of_not_fits hFits, answer_readPayload_of_not_fits hFits]
    simp only [forall_const]
    rw [committed_eq_self_iff h]
    exact {
      mp := fun hHeld => {
        rejected := fun _ => hHeld
        noMemory := fun hYes => absurd hYes hFits
        wrapped := fun hYes => absurd hYes hFits }
      mpr := fun hNothing => hNothing.rejected hFits }

/-- A failure keeps the entry just when nothing new is committed. -/
theorem failureKeeps_iff :
    FailureKeeps memory display id header remSize maxFwSize allocates info ↔
      ∀ format, Accepted memory display id header remSize format →
        u32 memory (header + format.mmioCount) ≠ 0 →
        CommitsNothing memory display id header remSize maxFwSize allocates info format := by
  by_cases hAccepted : ∃ format, Accepted memory display id header remSize format
  · obtain ⟨format, hAccepted⟩ := hAccepted
    simp only [FailureKeeps, answer_parseDmcFwHeader_of_accepted hAccepted]
    cases hCommit : committed memory display id header format info with
    | none =>
        have hEmpty := (committed_eq_none_iff hAccepted).mp hCommit
        refine iff_of_true (fun after h => nomatch h) ?_
        intro other hOther hPos
        obtain rfl := hAccepted.unique hOther
        exact absurd hEmpty hPos
    | some entry =>
        have hPos : u32 memory (header + format.mmioCount) ≠ 0 := by
          intro hEmpty
          rw [(committed_eq_none_iff hAccepted).mpr hEmpty] at hCommit
          cases hCommit
        have hOnly : (∀ other, Accepted memory display id header remSize other →
            u32 memory (header + other.mmioCount) ≠ 0 →
            CommitsNothing memory display id header remSize maxFwSize allocates info other) ↔
              CommitsNothing memory display id header remSize maxFwSize allocates info format := by
          constructor
          · exact fun h => h format hAccepted hPos
          · intro h other hOther _
            obtain rfl := hAccepted.unique hOther
            exact h
        have hReturned : (∀ after, (some entry).map (fun entry =>
            (readPayload maxFwSize allocates header remSize format.size entry).answer memory) =
              some (0, after) → after = info) ↔
            (((readPayload maxFwSize allocates header remSize format.size entry).answer memory).1 = 0 →
              ((readPayload maxFwSize allocates header remSize format.size entry).answer memory).2 =
                info) := by
          constructor
          · exact fun h hZero => h _ (congrArg some (Prod.ext hZero rfl))
          · intro h after hAfter
            have hPair := Option.some.inj hAfter
            exact (congrArg Prod.snd hPair).symm.trans (h (congrArg Prod.fst hPair))
        rw [hOnly, hReturned]
        exact keeps_iff_commitsNothing hCommit
  · simp only [FailureKeeps, answer_parseDmcFwHeader_of_rejected hAccepted]
    refine iff_of_true ?_ ?_
    · intro after h
      cases h
      rfl
    · exact fun format h => absurd ⟨format, h⟩ hAccepted

/-- What a header leaves of an entry. -/
structure LeftOf (memory : Memory) (maxFwSize : Nat) (allocates : Bool) (header remSize : Nat)
    (format : HeaderFormat) (info after : DmcFwInfo) : Prop where
  mmioCount : after.mmioCount = u32 memory (header + format.mmioCount)
  stored : PayloadFits memory maxFwSize header remSize format →
    after.dmcFwSize = u32 memory (header + 12) ∧
      after.payload =
        if allocates then
          .buffer (fileBytes memory (header + format.size) (u32 memory (header + 12) * 4 % 2 ^ 32))
        else .null
  kept : ¬ PayloadFits memory maxFwSize header remSize format →
    after.dmcFwSize = info.dmcFwSize ∧ after.payload = info.payload

theorem leftOf_readPayload {entry : DmcFwInfo}
    (h : committed memory display id header format info = some entry) :
    LeftOf memory maxFwSize allocates header remSize format info
      ((readPayload maxFwSize allocates header remSize format.size entry).answer memory).2 := by
  obtain ⟨hSize, hPayload, -, -⟩ := committed_rest h
  have hCount : entry.mmioCount = u32 memory (header + format.mmioCount) := by
    obtain ⟨mmiodata, -, rfl⟩ := committed_eq_some.mp h
    rfl
  by_cases hFits : PayloadFits memory maxFwSize header remSize format
  · rw [answer_readPayload_of_fits hFits]
    exact {
      mmioCount := hCount
      stored := fun _ => ⟨rfl, rfl⟩
      kept := fun hNot => absurd hFits hNot }
  · rw [answer_readPayload_of_not_fits hFits]
    exact {
      mmioCount := hCount
      stored := fun hStored => absurd hStored hFits
      kept := fun _ => ⟨hSize, hPayload⟩ }

end Commit

section File

variable (memory : Memory) (display : DmcDisplay) (allocates : DmcId → Bool) (si : SteppingInfo)
  (size : Nat) (dmc : IntelDmc)

/-- The entries of all ids are cleared. -/
def clearedEntry : DmcFwInfo := ⟨0, fun _ => 0, fun _ => 0, 0, 0, 0, .null, false⟩

def clearedFor (version maxFwSize : Nat) : IntelDmc := ⟨version, maxFwSize, fun _ => clearedEntry⟩

/-- An id has a header that is accepted, and its program is not kept: it is too
large, or it is empty and there is no memory for it. -/
def LeavesRegisters (id : DmcId) : Prop :=
  ∃ header format, headerAt memory si size dmc id = some header ∧
    Accepted memory display id header (size - header) format ∧
    (PayloadFits memory dmc.maxFwSize header (size - header) format →
      allocates id = false ∧ u32 memory (header + 12) = 0)

/-- The program of an id is kept. -/
def Keeps (id : DmcId) : Prop :=
  allocates id = true ∧ ∃ header format, Taken memory display si size dmc id header format

/-- The loading stops at an id: it reads a program for which there was no memory. A
program that is there stops nothing, be it empty or of a size that has wrapped around:
the words behind it are read and written, or compared, like any other. -/
def StopsLoading (id : DmcId) : Prop :=
  allocates id = false ∧ ∃ header format, Taken memory display si size dmc id header format ∧
    u32 memory (header + 12) ≠ 0

/-- A header that is accepted has no registers, and the parse does not come to its
end. -/
def LeavesArrays (id : DmcId) : Prop :=
  ∃ header format, headerAt memory si size dmc id = some header ∧
    Accepted memory display id header (size - header) format ∧
    u32 memory (header + format.mmioCount) = 0

/-- After any file is parsed, the loading writes nothing on behalf of an id without
a program. -/
def LoadsOnlyPrograms : Prop :=
  ∀ r parsed, (parseDmcFw display allocates size si dmc).run.answer memory = some (r, parsed) →
    (intelDmcLoadProgram display parsed).run.Performs (Backed parsed)

/-- The condition for it. -/
def NothingLeftToLoad : Prop :=
  (∃ id, LeavesArrays memory display si size dmc id) ∨
    ¬ Keeps memory display allocates si size dmc .main ∨
    ∀ id, LeavesRegisters memory display allocates si size dmc id →
      ∃ other, other.code < id.code ∧ StopsLoading memory display allocates si size dmc other

end File

section OneId

variable {memory : Memory} {display : DmcDisplay} {allocates : DmcId → Bool} {si : SteppingInfo}
  {size : Nat} {version maxFwSize : Nat} {id : DmcId}

/-- What a parse makes of the cleared entry of an id: its header is not accepted, its
program is too large, there is no memory for the program, or the program is kept. -/
inductive Fate (memory : Memory) (display : DmcDisplay) (allocates : DmcId → Bool)
    (si : SteppingInfo) (size : Nat) (dmc : IntelDmc) (id : DmcId) (entry : DmcFwInfo) : Prop where
  | untouched
      (none : ∀ header format, headerAt memory si size dmc id = some header →
        ¬ Accepted memory display id header (size - header) format)
      (mmioCount : entry.mmioCount = 0) (fwSize : entry.dmcFwSize = 0)
      (payload : entry.payload = .null)
  | tooLarge {header : Nat} {format : HeaderFormat}
      (at' : headerAt memory si size dmc id = some header)
      (accepted : Accepted memory display id header (size - header) format)
      (large : ¬ PayloadFits memory dmc.maxFwSize header (size - header) format)
      (mmioCount : entry.mmioCount ≠ 0) (fwSize : entry.dmcFwSize = 0)
      (payload : entry.payload = .null)
  | noMemory {header : Nat} {format : HeaderFormat}
      (taken : Taken memory display si size dmc id header format) (allocates : allocates id = false)
      (mmioCount : entry.mmioCount ≠ 0) (fwSize : entry.dmcFwSize = u32 memory (header + 12))
      (payload : entry.payload = .null)
  | kept {header : Nat} {format : HeaderFormat}
      (taken : Taken memory display si size dmc id header format) (allocates : allocates id = true)
      (mmioCount : entry.mmioCount ≠ 0) (fwSize : entry.dmcFwSize = u32 memory (header + 12))
      (payload : entry.payload =
        .buffer (fileBytes memory (header + format.size) (u32 memory (header + 12) * 4 % 2 ^ 32)))

theorem answer_parseDmcFwHeader_left {header remSize maxFwSize : Nat} {allocates : Bool}
    {format : HeaderFormat} {info : DmcFwInfo} {result : Nat × DmcFwInfo}
    (hAccepted : Accepted memory display id header remSize format)
    (h : (parseDmcFwHeader display maxFwSize allocates id header remSize info).run.answer memory =
      some result) :
    u32 memory (header + format.mmioCount) ≠ 0 ∧
      LeftOf memory maxFwSize allocates header remSize format info result.2 := by
  rw [answer_parseDmcFwHeader_of_accepted hAccepted] at h
  obtain ⟨entry, hCommit, rfl⟩ := Option.map_eq_some_iff.mp h
  refine ⟨fun hEmpty => ?_, leftOf_readPayload hCommit⟩
  rw [(committed_eq_none_iff hAccepted).mpr hEmpty] at hCommit
  cases hCommit

theorem fate_of_left {dmc : IntelDmc} {header : Nat} {format : HeaderFormat}
    {info entry : DmcFwInfo} (hAt : headerAt memory si size dmc id = some header)
    (hAccepted : Accepted memory display id header (size - header) format)
    (hSize : info.dmcFwSize = 0) (hNull : info.payload = .null)
    (hLeft : u32 memory (header + format.mmioCount) ≠ 0 ∧
      LeftOf memory dmc.maxFwSize (allocates id) header (size - header) format info entry) :
    Fate memory display allocates si size dmc id entry := by
  obtain ⟨hPos, hLeft⟩ := hLeft
  rw [← hLeft.mmioCount] at hPos
  by_cases hFits : PayloadFits memory dmc.maxFwSize header (size - header) format
  · obtain ⟨hStoredSize, hStored⟩ := hLeft.stored hFits
    cases hAllocates : allocates id with
    | false =>
        rw [hAllocates] at hStored
        exact .noMemory ⟨hAt, hAccepted, hFits⟩ hAllocates hPos hStoredSize hStored
    | true =>
        rw [hAllocates] at hStored
        exact .kept ⟨hAt, hAccepted, hFits⟩ hAllocates hPos hStoredSize hStored
  · obtain ⟨hKeptSize, hKept⟩ := hLeft.kept hFits
    exact .tooLarge hAt hAccepted hFits hPos (hKeptSize.trans hSize) (hKept.trans hNull)

/-- From cleared entries, every id meets one of the fates. -/
theorem fate_idResult {entry : DmcFwInfo}
    (h : idResult memory display allocates si size (clearedFor version maxFwSize) id = some entry) :
    Fate memory display allocates si size (clearedFor version maxFwSize) id entry := by
  have hOffsets : OffsetsOnly (clearedFor version maxFwSize)
      ((readPackage si size (clearedFor version maxFwSize)).answer memory).2 := offsetsOnly_readPackage
  have hSame : SameButOffset clearedEntry
      (((readPackage si size (clearedFor version maxFwSize)).answer memory).2.info id) :=
    sameButOffset_readPackage
  have hMax : _ = (clearedFor version maxFwSize).maxFwSize := hOffsets.maxFwSize
  have hAt : ∀ header, headerAt memory si size (clearedFor version maxFwSize) id = some header ↔
      ((readPackage si size (clearedFor version maxFwSize)).answer memory).1.bind
        (fun readcount => headerOffset size readcount
          (((readPackage si size (clearedFor version maxFwSize)).answer memory).2.info id)) =
        some header := fun header => Iff.rfl
  simp only [idResult] at h
  generalize (readPackage si size (clearedFor version maxFwSize)).answer memory = package
    at h hSame hMax hAt
  obtain ⟨readcount, middle⟩ := package
  have hSize : (middle.info id).dmcFwSize = 0 := congrArg DmcFwInfo.dmcFwSize hSame
  have hNull : (middle.info id).payload = .null := congrArg DmcFwInfo.payload hSame
  have hCount : (middle.info id).mmioCount = 0 := congrArg DmcFwInfo.mmioCount hSame
  cases readcount with
  | none =>
      cases h
      refine .untouched (fun header _ hHeader _ => ?_) hCount hSize hNull
      exact Option.some_ne_none header ((hAt header).mp hHeader).symm
  | some readcount =>
      simp only [headerResult] at h
      simp only [Option.bind_some] at hAt
      cases hOffset : headerOffset size readcount (middle.info id) with
      | none =>
          rw [hOffset] at h hAt
          cases h
          refine .untouched (fun header _ hHeader _ => ?_) hCount hSize hNull
          exact Option.some_ne_none header ((hAt header).mp hHeader).symm
      | some offset =>
          rw [hOffset] at h hAt
          obtain ⟨result, hResult, rfl⟩ := Option.map_eq_some_iff.mp h
          rw [hMax] at hResult
          by_cases hAccepted : ∃ format, Accepted memory display id offset (size - offset) format
          · obtain ⟨format, hAccepted⟩ := hAccepted
            exact fate_of_left ((hAt offset).mpr rfl) hAccepted hSize hNull
              (answer_parseDmcFwHeader_left hAccepted hResult)
          · rw [answer_parseDmcFwHeader_of_rejected hAccepted] at hResult
            cases hResult
            refine .untouched (fun header format hHeader hOther => ?_) hCount hSize hNull
            obtain rfl := Option.some.inj ((hAt header).mp hHeader)
            exact hAccepted ⟨format, hOther⟩

/-- The parse of an id comes to nothing just when it leaves the arrays. -/
theorem idResult_eq_none_iff {dmc : IntelDmc} :
    idResult memory display allocates si size dmc id = none ↔
      LeavesArrays memory display si size dmc id := by
  rcases idResult_cases memory display allocates si size dmc id with
    ⟨hNone, info, hInfo, -⟩ | ⟨header, format, hAt, hAccepted, hResult⟩
  · rw [hInfo]
    exact iff_of_false (by simp) fun ⟨header, format, hAt, hAccepted, _⟩ =>
      hNone header format hAt hAccepted
  · have hOnly : LeavesArrays memory display si size dmc id ↔
        u32 memory (header + format.mmioCount) = 0 := by
      constructor
      · rintro ⟨other, otherFormat, hOther, hOtherAccepted, hEmpty⟩
        obtain ⟨rfl, rfl⟩ := unique_header hAt hAccepted hOther hOtherAccepted
        exact hEmpty
      · exact fun hEmpty => ⟨header, format, hAt, hAccepted, hEmpty⟩
    rw [hOnly]
    rcases hResult with ⟨hEmpty, hStop⟩ | ⟨hPos, info, parsed, hParsed, -, -⟩
    · exact iff_of_true hStop hEmpty
    · rw [hParsed]
      exact iff_of_false (by simp) hPos

section Entry

variable {dmc : IntelDmc} {entry : DmcFwInfo} {header : Nat} {format : HeaderFormat}

theorem leavesRegisters_iff (hAt : headerAt memory si size dmc id = some header)
    (hAccepted : Accepted memory display id header (size - header) format) :
    LeavesRegisters memory display allocates si size dmc id ↔
      (PayloadFits memory dmc.maxFwSize header (size - header) format →
        allocates id = false ∧ u32 memory (header + 12) = 0) := by
  constructor
  · rintro ⟨other, otherFormat, hOther, hOtherAccepted, hLeaves⟩
    obtain ⟨rfl, rfl⟩ := unique_header hAt hAccepted hOther hOtherAccepted
    exact hLeaves
  · exact fun hLeaves => ⟨header, format, hAt, hAccepted, hLeaves⟩

theorem stopsLoading_iff (hTaken : Taken memory display si size dmc id header format) :
    StopsLoading memory display allocates si size dmc id ↔
      allocates id = false ∧ u32 memory (header + 12) ≠ 0 := by
  refine and_congr_right fun _ => ?_
  constructor
  · rintro ⟨other, otherFormat, hOther, hStops⟩
    obtain ⟨rfl, rfl⟩ := unique_header hTaken.at' hTaken.accepted hOther.at' hOther.accepted
    exact hStops
  · exact fun hStops => ⟨header, format, hTaken, hStops⟩

/-- There is a program just when it is kept. -/
theorem Fate.payload_iff (h : Fate memory display allocates si size dmc id entry) :
    entry.payload ≠ .null ↔ Keeps memory display allocates si size dmc id := by
  cases h with
  | untouched hNone _ _ hNull =>
      refine iff_of_false (fun h => h hNull) ?_
      exact fun ⟨_, header, format, hTaken⟩ => hNone header format hTaken.at' hTaken.accepted
  | tooLarge hAt hAccepted hLarge _ _ hNull =>
      refine iff_of_false (fun h => h hNull) fun ⟨_, other, otherFormat, hTaken⟩ => ?_
      obtain ⟨rfl, rfl⟩ := unique_header hAt hAccepted hTaken.at' hTaken.accepted
      exact hLarge hTaken.fits
  | noMemory _ hAllocates _ _ hNull =>
      refine iff_of_false (fun h => h hNull) fun hKeeps => ?_
      rw [hKeeps.1] at hAllocates
      cases hAllocates
  | kept hTaken hAllocates _ _ hPayload =>
      rw [hPayload]
      exact iff_of_true (by simp) ⟨hAllocates, _, _, hTaken⟩

/-- There are registers without a program, and nothing to be read of it, just when
the header leaves them. -/
theorem Fate.registers_iff (h : Fate memory display allocates si size dmc id entry) :
    (entry.payload = .null ∧ entry.dmcFwSize = 0 ∧ entry.mmioCount ≠ 0) ↔
      LeavesRegisters memory display allocates si size dmc id := by
  cases h with
  | untouched hNone hCount _ _ =>
      refine iff_of_false (fun h => h.2.2 hCount) ?_
      exact fun ⟨header, format, hAt, hAccepted, _⟩ => hNone header format hAt hAccepted
  | tooLarge hAt hAccepted hLarge hCount hSize hNull =>
      rw [leavesRegisters_iff hAt hAccepted]
      exact iff_of_true ⟨hNull, hSize, hCount⟩ fun hFits => absurd hFits hLarge
  | noMemory hTaken hAllocates hCount hSize hNull =>
      rw [leavesRegisters_iff hTaken.at' hTaken.accepted, hSize]
      exact ⟨fun h _ => ⟨hAllocates, h.2.1⟩, fun h => ⟨hNull, (h hTaken.fits).2, hCount⟩⟩
  | kept hTaken hAllocates _ _ hPayload =>
      rw [leavesRegisters_iff hTaken.at' hTaken.accepted, hPayload]
      refine iff_of_false (fun h => nomatch h.1) fun h => ?_
      rw [(h hTaken.fits).1] at hAllocates
      cases hAllocates

/-- The loading goes through an entry just when nothing of it stops the loading. -/
theorem Fate.loads_iff (h : Fate memory display allocates si size dmc id entry) :
    Loads entry ↔ ¬ StopsLoading memory display allocates si size dmc id := by
  cases h with
  | untouched hNone _ hSize hNull =>
      refine iff_of_true (fun _ => hSize) ?_
      exact fun ⟨_, header, format, hTaken, _⟩ => hNone header format hTaken.at' hTaken.accepted
  | tooLarge hAt hAccepted hLarge _ hSize hNull =>
      refine iff_of_true (fun _ => hSize) fun ⟨_, other, otherFormat, hTaken, _⟩ => ?_
      obtain ⟨rfl, rfl⟩ := unique_header hAt hAccepted hTaken.at' hTaken.accepted
      exact hLarge hTaken.fits
  | noMemory hTaken hAllocates _ hSize hNull =>
      rw [stopsLoading_iff hTaken, and_iff_right hAllocates, not_not, ← hSize]
      exact ⟨fun h => h hNull, fun h _ => h⟩
  | kept hTaken hAllocates _ _ hPayload =>
      refine iff_of_true (fun hNull => ?_) fun hStops => ?_
      · rw [hPayload] at hNull
        cases hNull
      · rw [hStops.1] at hAllocates
        cases hAllocates

end Entry

/-- From cleared entries, the loading writes nothing on behalf of an id without a
program just when nothing is left to load. -/
theorem loadsOnlyPrograms_iff :
    LoadsOnlyPrograms memory display allocates si size (clearedFor version maxFwSize) ↔
      NothingLeftToLoad memory display allocates si size (clearedFor version maxFwSize) := by
  by_cases hArrays : ∃ id, LeavesArrays memory display si size (clearedFor version maxFwSize) id
  · refine iff_of_true (fun r parsed hParsed => ?_) (.inl hArrays)
    obtain ⟨id, hArrays⟩ := hArrays
    have hSome : idResult memory display allocates si size (clearedFor version maxFwSize) id =
        some (parsed.info id) := answer_parseDmcFw_eq_some hParsed
    rw [idResult_eq_none_iff.mpr hArrays] at hSome
    cases hSome
  · have hAll : ∀ id,
        (idResult memory display allocates si size (clearedFor version maxFwSize) id).isSome :=
      fun id => Option.isSome_iff_ne_none.mpr fun hNone =>
        hArrays ⟨id, idResult_eq_none_iff.mp hNone⟩
    obtain ⟨r, parsed, hParsed⟩ := exists_answer_parseDmcFw hAll
    have hResult : ∀ id, idResult memory display allocates si size (clearedFor version maxFwSize) id =
        some (parsed.info id) := fun id => answer_parseDmcFw_eq_some hParsed
    have hFate := fun id => fate_idResult (hResult id)
    have hOnly : LoadsOnlyPrograms memory display allocates si size (clearedFor version maxFwSize) ↔
        (intelDmcLoadProgram display parsed).run.Performs (Backed parsed) := by
      constructor
      · exact fun h => h r parsed hParsed
      · intro h other otherParsed hOther
        cases hParsed.symm.trans hOther
        exact h
    rw [hOnly, performs_intelDmcLoadProgram_iff, NothingLeftToLoad, or_iff_right hArrays,
      (hFate .main).payload_iff, ← imp_iff_not_or]
    refine imp_congr_right fun _ => forall_congr' fun id => ?_
    rw [← (hFate id).registers_iff]
    simp only [(hFate _).loads_iff]
    constructor
    · intro h ⟨hNull, hSize, hCount⟩
      by_contra hNot
      refine hCount (h (fun other hLt hStops => ?_) hNull hSize)
      exact hNot ⟨other, hLt, hStops⟩
    · intro h hBefore hNull hSize
      by_contra hCount
      obtain ⟨other, hLt, hStops⟩ := h ⟨hNull, hSize, hCount⟩
      exact hBefore other hLt hStops

end OneId

/-- A header that fails leaves its entry just when it commits nothing new, and the
loading after the parse of a file keeps to the ids with a program just when nothing
is left for the others. -/
theorem failed_header_traces_iff (memory : Memory) (display : DmcDisplay) :
    (∀ (id : DmcId) (header remSize maxFwSize : Nat) (allocates : Bool) (info : DmcFwInfo),
      FailureKeeps memory display id header remSize maxFwSize allocates info ↔
        ∀ format, Accepted memory display id header remSize format →
          u32 memory (header + format.mmioCount) ≠ 0 →
          CommitsNothing memory display id header remSize maxFwSize allocates info format) ∧
      ∀ (allocates : DmcId → Bool) (si : SteppingInfo) (size version maxFwSize : Nat),
        LoadsOnlyPrograms memory display allocates si size (clearedFor version maxFwSize) ↔
          NothingLeftToLoad memory display allocates si size (clearedFor version maxFwSize) :=
  ⟨fun _ _ _ _ _ _ => failureKeeps_iff, fun _ _ _ _ _ => loadsOnlyPrograms_iff⟩

/-- A file with a program for the main microcontroller, and with a header for pipe A
whose program is cut off. -/
def truncatedPipe : Memory := fun offset =>
  match offset with
  | 4 => 32
  | 128 => 100
  | 129 => 2
  | 140 => 2
  | 146 => 0x2a
  | 147 => 0x2a
  | 157 => 1
  | 158 => 0x2a
  | 159 => 0x2a
  | 160 => 33
  | 532 => 128
  | 533 => 1
  | 540 => 1
  | 548 => 1
  | 552 => 0x10
  | 554 => 0x08
  | 584 => 1
  | 664 => 128
  | 665 => 1
  | 672 => 1
  | 680 => 1
  | 684 => 0x20
  | 686 => 0x08
  | 716 => 1
  | _ => 0

theorem truncatedPipe_headers :
    headerAt truncatedPipe ⟨0x42, 0x30⟩ 788 (clearedFor 0 0x6000) .main = some 528 ∧
      headerAt truncatedPipe ⟨0x42, 0x30⟩ 788 (clearedFor 0 0x6000) .pipeA = some 660 ∧
      ∀ id ∈ [DmcId.pipeB, .pipeC, .pipeD],
        headerAt truncatedPipe ⟨0x42, 0x30⟩ 788 (clearedFor 0 0x6000) id = none := by
  decide +kernel

theorem truncatedPipe_main : Taken truncatedPipe tigerlake ⟨0x42, 0x30⟩ 788 (clearedFor 0 0x6000) .main
    528 dmcHeaderV1 where
  at' := truncatedPipe_headers.1
  accepted := by constructor <;> decide
  fits := by constructor <;> decide

theorem truncatedPipe_pipeA :
    Accepted truncatedPipe tigerlake .pipeA 660 (788 - 660) dmcHeaderV1 := by
  constructor <;> decide

/-- The registers of pipe A are left in its entry, and they are written. -/
theorem registers_of_cut_off_program :
    ¬ FailureKeeps truncatedPipe tigerlake .pipeA 660 128 0x6000 true clearedEntry ∧
      ¬ LoadsOnlyPrograms truncatedPipe tigerlake (fun _ => true) ⟨0x42, 0x30⟩ 788
        (clearedFor 0 0x6000) := by
  have hLarge : ¬ PayloadFits truncatedPipe 0x6000 660 (788 - 660) dmcHeaderV1 :=
    fun hFits => absurd hFits.inFile (by decide)
  constructor
  · intro hKeeps
    have hHeld := (failureKeeps_iff.mp hKeeps dmcHeaderV1 truncatedPipe_pipeA (by decide)).rejected
      hLarge
    exact absurd hHeld.mmioCount (by decide)
  · intro hLoads
    rcases loadsOnlyPrograms_iff.mp hLoads with ⟨id, header, format, hAt, hAccepted, hEmpty⟩ |
      hUnkept | hLeft
    · cases id with
      | main =>
          obtain ⟨rfl, rfl⟩ := unique_header truncatedPipe_headers.1 truncatedPipe_main.accepted hAt
            hAccepted
          exact absurd hEmpty (by decide)
      | pipeA =>
          obtain ⟨rfl, rfl⟩ := unique_header truncatedPipe_headers.2.1 truncatedPipe_pipeA hAt hAccepted
          exact absurd hEmpty (by decide)
      | pipeB | pipeC | pipeD =>
          rw [truncatedPipe_headers.2.2 _ (by decide)] at hAt
          cases hAt
    · exact hUnkept ⟨rfl, 528, dmcHeaderV1, truncatedPipe_main⟩
    · obtain ⟨other, hLt, hStops⟩ := hLeft .pipeA
        ⟨660, dmcHeaderV1, truncatedPipe_headers.2.1, truncatedPipe_pipeA, fun hFits =>
          absurd hFits hLarge⟩
      have hMain : other = .main := by
        cases other with
        | main => rfl
        | pipeA | pipeB | pipeC | pipeD => exact absurd hLt (by decide)
      rw [hMain, stopsLoading_iff truncatedPipe_main] at hStops
      revert hStops
      decide

end NootedBlue.Dmc
