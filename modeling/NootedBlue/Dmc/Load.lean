import NootedBlue.Dmc.Header
import NootedBlue.Semantics.Writes

/-! Loading a display microcontroller, and the check of what was loaded. The
check reads everything after all writes, so a register that is listed twice is
compared with both of its values. -/
namespace NootedBlue.Dmc

open Interaction Bytes Bits Writes

/-- The register file; every address is a register of its own. -/
abbrev Registers := Nat → Word

section Load

variable (display : DmcDisplay) (id : DmcId) (info : DmcFwInfo)

/-- `DMC_EVT_CTL_ENABLE`. -/
def dmcEvtCtlEnable : Word := 1 <<< 31

/-- `dmc_evt_ctl_disable`; the type is `DMC_EVT_CTL_TYPE_EDGE_0_1`. -/
def dmcEvtCtlDisable (dmcEvtCtl : Word) : Word :=
  dmcEvtCtl &&& dmcEvtCtlEnable ||| dmcEvtCtlType.prep 3 ||| dmcEvtCtlEventId.prep eventFalse

/-- `disable_dmc_evt`. -/
def disableDmcEvt (reg : Nat) (data : Word) : Bool :=
  if !isDmcEvtCtlReg display id reg then false
  else if id ≠ .main then true
  else if display.tigerlake && isEventHandler display id eventClkMsec reg data then true
  else (display.tigerlake || display.alderlakeS) &&
    isEventHandler display id eventVblankDelayedA reg data

/-- `dmc_mmiodata`. -/
def dmcMmiodata (i : Nat) : Word :=
  if disableDmcEvt display id (info.mmioaddr i) (info.mmiodata i) then
    dmcEvtCtlDisable (info.mmiodata i)
  else info.mmiodata i

/-- The writes of `disable_event_handler`. -/
def disableEventHandler (ctlReg htpReg : Nat) : List (Write Nat Word) :=
  [(ctlReg, dmcEvtCtlType.prep 3 ||| dmcEvtCtlEventId.prep eventFalse), (htpReg, 0)]

/-- The writes of `disable_all_event_handlers`. -/
def disableAllEventHandlers : List (Write Nat Word) :=
  if display.ver < 12 then []
  else if info.payload = .null then []
  else (List.range dmcEventHandlerCount).flatMap fun handler =>
    disableEventHandler (dmcEvtCtl display id handler) (dmcEvtHtp display id handler)

/-- `DMC_PROGRAM`. -/
def dmcProgram (start i : Nat) : Nat := (start + i * 4) % 2 ^ 32

/-- A word of the program; there is none behind the buffer. -/
def payloadWord (payload : Payload) (i : Nat) : Option Word :=
  match payload with
  | .buffer bytes =>
      if 4 * i + 4 ≤ bytes.length then some (.ofNat 32 (u32 (fun k => bytes.getD k 0) (4 * i)))
      else none
  | _ => none

/-- The writes of the program, from a word on. -/
def programWrites : Nat → Nat → Option (List (Write Nat Word))
  | _, 0 => some []
  | i, count + 1 => do
      let word ← payloadWord info.payload i
      let rest ← programWrites (i + 1) count
      return (dmcProgram info.startMmioaddr i, word) :: rest

/-- The writes of `dmc_load_mmio`. -/
def dmcLoadMmio : List (Write Nat Word) :=
  (List.range info.mmioCount).map fun i => (info.mmioaddr i, dmcMmiodata display id info i)

/-- `dmc_load_program`; nothing means a read behind the program. -/
def dmcLoadProgram (registers : Registers) : Option Registers := do
  let program ← programWrites info 0 info.dmcFwSize
  return perform (disableAllEventHandlers display id info ++ program ++ dmcLoadMmio display id info)
    registers

/-- `assert_dmc_loaded`: whether it goes through without a panic. -/
def assertDmcLoaded (registers : Registers) : Option Bool :=
  if info.payload = .null then some true
  else do
    let expected ← payloadWord info.payload 0
    return registers (dmcProgram info.startMmioaddr 0) = expected &&
      (List.range info.mmioCount).all fun i =>
        registers (info.mmioaddr i) = dmcMmiodata display id info i

/-- An iteration of the loop of `intel_dmc_load_program`. -/
def loadAndAssert (registers : Registers) : Option Bool :=
  (dmcLoadProgram display id info registers).bind (assertDmcLoaded display id info)

/-- The condition under which what is loaded is what is expected: there is a
program, of a size that did not wrap around, registers that are listed more than
once have one value, and the first word of the program is not overwritten. -/
structure Loadable : Prop where
  nonempty : 0 < info.dmcFwSize
  small : info.dmcFwSize < 2 ^ 30
  agree : ∀ i < info.mmioCount, ∀ j < info.mmioCount, info.mmioaddr i = info.mmioaddr j →
    dmcMmiodata display id info i = dmcMmiodata display id info j
  start : ∀ i < info.mmioCount, info.mmioaddr i = dmcProgram info.startMmioaddr 0 →
    payloadWord info.payload 0 = some (dmcMmiodata display id info i)

end Load

section Program

variable {display : DmcDisplay} {id : DmcId} {info : DmcFwInfo} {bytes : List UInt8}

theorem payloadWord_isSome_iff (bytes : List UInt8) (i : Nat) :
    (payloadWord (.buffer bytes) i).isSome ↔ 4 * i + 4 ≤ bytes.length := by
  simp only [payloadWord]
  split
  · next h => simp [h]
  · next h => simp [h]

/-- The program is read to its end just when all of it is in the buffer. -/
theorem programWrites_isSome_iff (hPayload : info.payload = .buffer bytes) (i count : Nat) :
    (programWrites info i count).isSome ↔ count = 0 ∨ 4 * (i + count) ≤ bytes.length := by
  induction count generalizing i with
  | zero => simp [programWrites]
  | succ count ih =>
      have hWord := payloadWord_isSome_iff bytes i
      have hRest := ih (i + 1)
      simp only [programWrites, hPayload]
      cases hFirst : payloadWord (.buffer bytes) i with
      | none =>
          rw [hFirst] at hWord
          simp only [Option.isSome_none, Bool.false_eq_true, false_iff] at hWord
          simp only [Option.bind_eq_bind, Option.bind_none, Option.isSome_none, Bool.false_eq_true,
            false_iff]
          omega
      | some word =>
          rw [hFirst] at hWord
          simp only [Option.isSome_some, true_iff] at hWord
          cases hSecond : programWrites info (i + 1) count with
          | none =>
              rw [hSecond] at hRest
              simp only [Option.isSome_none, Bool.false_eq_true, false_iff] at hRest
              simp only [Option.bind_eq_bind, Option.bind_some, Option.bind_none,
                Option.isSome_none, Bool.false_eq_true, false_iff]
              omega
          | some rest =>
              rw [hSecond] at hRest
              simp only [Option.isSome_some, true_iff] at hRest
              simp only [Option.bind_eq_bind, Option.bind_some, Option.pure_def,
                Option.isSome_some, true_iff]
              omega

/-- The words go to the registers behind the start. -/
theorem mem_programWrites {i count : Nat} {writes : List (Write Nat Word)} {write : Write Nat Word}
    (h : programWrites info i count = some writes) (hMem : write ∈ writes) :
    ∃ k, i ≤ k ∧ k < i + count ∧ write.1 = dmcProgram info.startMmioaddr k := by
  induction count generalizing i writes with
  | zero =>
      cases h
      cases hMem
  | succ count ih =>
      simp only [programWrites, Option.bind_eq_bind, Option.pure_def] at h
      obtain ⟨word, -, hBehind⟩ := Option.bind_eq_some_iff.mp h
      obtain ⟨rest, hRest, hWrites⟩ := Option.bind_eq_some_iff.mp hBehind
      cases hWrites
      rcases List.mem_cons.mp hMem with rfl | hMem
      · exact ⟨i, Nat.le_refl i, by omega, rfl⟩
      · obtain ⟨k, hLow, hHigh, hReg⟩ := ih hRest hMem
        exact ⟨k, by omega, by omega, hReg⟩

/-- Less than 2 ^ 30 words do not come back to the first one. -/
theorem dmcProgram_ne {start k : Nat} (hPos : 0 < k) (hSmall : k < 2 ^ 30) :
    dmcProgram start k ≠ dmcProgram start 0 := by
  simp only [dmcProgram]
  omega

/-- The first word of the program is in its register after the program was written. -/
theorem perform_program_start (before : List (Write Nat Word)) (registers : Registers)
    {program : List (Write Nat Word)} {word : Word} (hWord : payloadWord info.payload 0 = some word)
    (hProgram : programWrites info 0 info.dmcFwSize = some program)
    (hPos : 0 < info.dmcFwSize) (hSmall : info.dmcFwSize < 2 ^ 30) :
    perform (before ++ program) registers (dmcProgram info.startMmioaddr 0) = word := by
  obtain ⟨count, hCount⟩ : ∃ count, info.dmcFwSize = count + 1 := ⟨info.dmcFwSize - 1, by omega⟩
  rw [hCount] at hProgram
  simp only [programWrites, hWord, Option.bind_eq_bind, Option.bind_some,
    Option.pure_def] at hProgram
  obtain ⟨rest, hRest, hWrites⟩ := Option.bind_eq_some_iff.mp hProgram
  cases hWrites
  apply perform_of_last
  intro write hMem
  obtain ⟨k, hLow, hHigh, hReg⟩ := mem_programWrites hRest hMem
  rw [hReg]
  exact dmcProgram_ne (by omega) (by omega)

theorem mem_dmcLoadMmio {write : Write Nat Word} :
    write ∈ dmcLoadMmio display id info ↔
      ∃ i < info.mmioCount, write = (info.mmioaddr i, dmcMmiodata display id info i) := by
  simp only [dmcLoadMmio, List.mem_map, List.mem_range]
  constructor
  · rintro ⟨i, hi, rfl⟩
    exact ⟨i, hi, rfl⟩
  · rintro ⟨i, hi, rfl⟩
    exact ⟨i, hi, rfl⟩

/-- All that is listed is read back just when nothing contradicts it. -/
theorem mmio_readback_iff {registers : Registers} :
    (∀ i < info.mmioCount, perform (dmcLoadMmio display id info) registers (info.mmioaddr i) =
        dmcMmiodata display id info i) ↔
      ∀ i < info.mmioCount, ∀ j < info.mmioCount, info.mmioaddr i = info.mmioaddr j →
        dmcMmiodata display id info i = dmcMmiodata display id info j := by
  have hReadback := perform_readback_iff (dmcLoadMmio display id info) registers
  constructor
  · intro hBack i hi j hj hSame
    rw [← hBack i hi, ← hBack j hj, hSame]
  · intro hAgree i hi
    refine hReadback.mpr ?_ _ (mem_dmcLoadMmio.mpr ⟨i, hi, rfl⟩)
    intro one hOne other hOther hSame
    obtain ⟨j, hj, rfl⟩ := mem_dmcLoadMmio.mp hOne
    obtain ⟨k, hk, rfl⟩ := mem_dmcLoadMmio.mp hOther
    exact hAgree j hj k hk hSame

/-- What the check compares. -/
theorem assertDmcLoaded_iff {registers : Registers} (hPayload : info.payload ≠ .null) :
    assertDmcLoaded display id info registers = some true ↔
      payloadWord info.payload 0 = some (registers (dmcProgram info.startMmioaddr 0)) ∧
        ∀ i < info.mmioCount, registers (info.mmioaddr i) = dmcMmiodata display id info i := by
  simp only [assertDmcLoaded]
  rw [if_neg hPayload]
  cases payloadWord info.payload 0 with
  | none => simp
  | some word =>
      simp only [Option.bind_eq_bind, Option.bind_some, Option.pure_def, Option.some.injEq,
        Bool.and_eq_true, decide_eq_true_eq, List.all_eq_true, List.mem_range]
      exact and_congr_left' eq_comm

theorem loadAndAssert_eq {registers : Registers} :
    loadAndAssert display id info registers = some true ↔
      ∃ program, programWrites info 0 info.dmcFwSize = some program ∧
        assertDmcLoaded display id info
          (perform (disableAllEventHandlers display id info ++ program ++
            dmcLoadMmio display id info) registers) = some true := by
  constructor
  · intro h
    obtain ⟨after, hLoad, hAssert⟩ := Option.bind_eq_some_iff.mp h
    obtain ⟨program, hProgram, hAfter⟩ := Option.bind_eq_some_iff.mp hLoad
    obtain rfl := Option.some.inj hAfter
    exact ⟨program, hProgram, hAssert⟩
  · rintro ⟨program, hProgram, hAssert⟩
    have hLoad : dmcLoadProgram display id info registers = some _ :=
      Option.bind_eq_some_iff.mpr ⟨program, hProgram, rfl⟩
    exact Option.bind_eq_some_iff.mpr ⟨_, hLoad, hAssert⟩

/-- For a program in a buffer whose size may have wrapped around. -/
theorem loadAndAssert_iff {registers : Registers} (hPayload : info.payload = .buffer bytes)
    (hLength : bytes.length = info.dmcFwSize * 4 % 2 ^ 32) :
    loadAndAssert display id info registers = some true ↔ Loadable display id info := by
  have hRead := programWrites_isSome_iff hPayload 0 info.dmcFwSize
  have hFirst := payloadWord_isSome_iff bytes 0
  have hPresent : info.payload ≠ .null := by simp [hPayload]
  rw [loadAndAssert_eq]
  simp only [assertDmcLoaded_iff hPresent, perform_append _ (dmcLoadMmio display id info)]
  constructor
  · rintro ⟨program, hProgram, hWord, hMmio⟩
    rw [← hPayload, hWord] at hFirst
    rw [hProgram] at hRead
    simp only [Option.isSome_some, true_iff] at hFirst hRead
    exact {
      nonempty := by omega
      small := by omega
      agree := mmio_readback_iff.mp hMmio
      start := fun i hi hSame => by rw [hWord, ← hSame, hMmio i hi] }
  · rintro ⟨hPos, hSmall, hAgree, hStart⟩
    obtain ⟨program, hProgram⟩ := Option.isSome_iff_exists.mp (hRead.mpr (by omega))
    obtain ⟨word, hWord⟩ := Option.isSome_iff_exists.mp (hFirst.mpr (by omega))
    rw [← hPayload] at hWord
    have hWritten := perform_program_start (disableAllEventHandlers display id info)
      registers hWord hProgram hPos hSmall
    refine ⟨program, hProgram, ?_, mmio_readback_iff.mpr hAgree⟩
    rw [hWord, perform_of_uncontradicted hWritten]
    intro write hMem hSame
    obtain ⟨i, hi, rfl⟩ := mem_dmcLoadMmio.mp hMem
    exact (Option.some.inj (hWord.symm.trans (hStart i hi hSame))).symm

end Program

/-- A microcontroller whose header was accepted, whatever its entry held before, is
loaded without a panic just when it is loadable. -/
theorem accepted_loads_iff {memory : Memory} {display : DmcDisplay} {id : DmcId}
    {maxFwSize header remSize r : Nat} {allocates : Bool} {info accepted : DmcFwInfo}
    (hParse : (parseDmcFwHeader display maxFwSize allocates id header remSize info).run.answer
      memory = some (r, accepted))
    (hAccepts : r ≠ 0) (registers : Registers) :
    loadAndAssert display id accepted registers = some true ↔ Loadable display id accepted := by
  rcases parseDmcFwHeader_cases memory display maxFwSize allocates id header remSize info with
    ⟨-, hRejected⟩ | ⟨format, -, ⟨-, hNone⟩ | ⟨-, other, parsed, hSome, hParsed, hFits⟩⟩
  · cases hRejected.symm.trans hParse
    exact absurd rfl hAccepts
  · cases hNone.symm.trans hParse
  · cases hSome.symm.trans hParse
    obtain ⟨hStored, rfl⟩ := hFits hAccepts
    obtain ⟨hSize, hProgram⟩ := hParsed.stored hStored
    refine loadAndAssert_iff hProgram ?_
    rw [hSize]
    simp [fileBytes]

/-- A header that lists one register twice, with the value 1 and with another, and a
program of one word. -/
def listedTwice (other : UInt8) : Memory := fun offset =>
  match offset with
  | 4 => 128
  | 5 => 1
  | 12 => 1
  | 20 => 2
  | 24 => 0x10
  | 26 => 0x08
  | 28 => 0x10
  | 30 => 0x08
  | 56 => 1
  | 60 => other
  | _ => 0

def rocketlake : DmcDisplay := ⟨12, false, false⟩

def noProgram : DmcFwInfo := ⟨0, fun _ => 0, fun _ => 0, 0, 0, 0, .null, true⟩

theorem listedTwice_parsed :
    ∀ other ∈ [1, 2], ((parseDmcFwHeader rocketlake 0x6000 true .main 0 132 noProgram).run.answer
      (listedTwice other)).isSome := by
  decide +kernel

/-- The same value twice is loaded and found again. -/
theorem same_value_loads :
    ∃ r accepted, (parseDmcFwHeader rocketlake 0x6000 true .main 0 132 noProgram).run.answer
        (listedTwice 1) = some (r, accepted) ∧
      loadAndAssert rocketlake .main accepted (fun _ => 0) = some true := by
  have hParse := (Option.some_get (listedTwice_parsed 1 (by decide +kernel))).symm
  refine ⟨_, _, hParse, (accepted_loads_iff hParse (by decide +kernel) _).mpr ?_⟩
  exact {
    nonempty := by decide +kernel
    small := by decide +kernel
    agree := by decide +kernel
    start := by decide +kernel }

/-- Of two values the second one is found where the first one is expected. -/
theorem two_values_panic :
    ∃ r accepted, (parseDmcFwHeader rocketlake 0x6000 true .main 0 132 noProgram).run.answer
        (listedTwice 2) = some (r, accepted) ∧ r ≠ 0 ∧
      loadAndAssert rocketlake .main accepted (fun _ => 0) = some false :=
  ⟨_, _, (Option.some_get (listedTwice_parsed 2 (by decide +kernel))).symm, by decide +kernel,
    by decide +kernel⟩

end NootedBlue.Dmc
