import NootedBlue.Dmc.Load
import NootedBlue.Dmc.Package
import NootedBlue.Semantics.Transcript

/-! The loading of all microcontrollers, access by access. It stops where a program
is read that was never allocated, and at a check that finds another value, so that
an id is come to only if those before it have gone through. A read behind a program
stops nothing: it finds whatever is in memory there. -/
namespace NootedBlue.Dmc

open Interaction Bytes Writes

/-- The accesses of the loading. Those to a program and to the listed registers are
made on behalf of an id; the others are to the engine, and to the memory behind the
program of an id. -/
inductive LoadAccess where
  | handler (write : Write Nat Word)
  | program (id : DmcId) (write : Write Nat Word)
  | mmio (id : DmcId) (write : Write Nat Word)
  | rmw (reg : Nat) (clear set : Word)
  | read (reg : Nat)
  | behind (id : DmcId) (i : Nat)

abbrev LoadAnswer : LoadAccess → Type
  | .read _ => Word
  | .behind _ _ => Word
  | _ => Unit

/-- Loading that stops where the driver follows a null pointer or panics. -/
abbrev Loading := OptionT (Program LoadAccess LoadAnswer)

section Entry

variable (display : DmcDisplay) (id : DmcId) (info : DmcFwInfo)

def act (op : LoadAccess) (rest : LoadAnswer op → Loading Unit) : Loading Unit :=
  (liftM (Program.perform op : Program LoadAccess LoadAnswer (LoadAnswer op)) :
    Loading (LoadAnswer op)) >>= rest

/-- `payload[i]`, which may lie behind the program. -/
def readProgram (i : Nat) (rest : Word → Loading Unit) : Loading Unit :=
  if info.payload = .null then failure
  else
    match payloadWord info.payload i with
    | none => act (.behind id i) rest
    | some word => rest word

/-- The loop of `dmc_load_program` over the words that are left. -/
def writeProgram : Nat → Nat → Loading Unit
  | _, 0 => pure ()
  | i, count + 1 =>
      readProgram id info i fun word =>
        act (.program id (dmcProgram info.startMmioaddr i, word)) fun _ =>
          writeProgram (i + 1) count

/-- `dmc_load_program`. -/
def loadProgram : Loading Unit := do
  forEach (fun write => act (.handler write) fun _ => pure ()) (disableAllEventHandlers display id info)
  writeProgram id info 0 info.dmcFwSize
  forEach (fun write => act (.mmio id write) fun _ => pure ()) (dmcLoadMmio display id info)

/-- A register has to have a value. -/
def expect (reg : Nat) (expected : Word) : Loading Unit :=
  act (.read reg) fun found => if found = expected then pure () else failure

/-- `assert_dmc_loaded`. -/
def checkLoaded : Loading Unit :=
  if info.payload = .null then pure ()
  else
    readProgram id info 0 fun expected => do
      expect (dmcProgram info.startMmioaddr 0) expected
      forEach (fun i => expect (info.mmioaddr i) (dmcMmiodata display id info i))
        (List.range info.mmioCount)

/-- A round of the loop of `intel_dmc_load_program`. -/
def loadChecked : Loading Unit := do
  loadProgram display id info
  checkLoaded display id info

end Entry

/-- `CLKGATE_DIS_PSL_EXT`, `PIPEDMC_GATING_DIS` and `DC_STATE_DEBUG`. -/
def clkgateDisPslExt (pipe : Nat) : Nat := 0x4654c + 4 * pipe
def pipedmcGatingDis : Word := 1 <<< 12
def dcStateDebug : Nat := 0x45520

/-- `pipedmc_clock_gating_wa`. -/
def pipedmcClockGatingWa (display : DmcDisplay) (enable : Bool) : Loading Unit :=
  if display.ver ≠ 13 then pure ()
  else if enable then
    forEach (fun pipe => act (.rmw (clkgateDisPslExt pipe) 0 pipedmcGatingDis) fun _ => pure ())
      [0, 1, 2, 3]
  else
    forEach (fun pipe => act (.rmw (clkgateDisPslExt pipe) pipedmcGatingDis 0) fun _ => pure ()) [2, 3]

/-- `intel_dmc_has_payload`. -/
def intelDmcHasPayload (dmc : IntelDmc) : Bool := (dmc.info .main).payload ≠ .null

/-- `intel_dmc_load_program`. -/
def intelDmcLoadProgram (display : DmcDisplay) (dmc : IntelDmc) : Loading Unit :=
  if !intelDmcHasPayload dmc then pure ()
  else do
    pipedmcClockGatingWa display true
    forEach (fun id => loadChecked display id (dmc.info id)) DmcId.all
    act (.rmw dcStateDebug 0 3) fun _ => pure ()
    pipedmcClockGatingWa display false

/-- An access on behalf of an id is one for an id with a program. -/
def Backed (dmc : IntelDmc) : LoadAccess → Prop
  | .program id _ => (dmc.info id).payload ≠ .null
  | .mmio id _ => (dmc.info id).payload ≠ .null
  | _ => True

/-- The loop over an entry can come to its end: without a program there is nothing to
read of it. -/
def Loads (info : DmcFwInfo) : Prop := info.payload = .null → info.dmcFwSize = 0

section Accesses

variable {display : DmcDisplay} {id : DmcId} {info : DmcFwInfo} {dmc : IntelDmc}

theorem passes_act_iff {op : LoadAccess} {rest : LoadAnswer op → Loading Unit} :
    Passes (act op rest) ↔ ∃ answer, Passes (rest answer) := passes_lift_bind_iff

theorem performs_act_iff {allowed : LoadAccess → Prop} {op : LoadAccess}
    {rest : LoadAnswer op → Loading Unit} :
    (act op rest).run.Performs allowed ↔ allowed op ∧ ∀ answer, (rest answer).run.Performs allowed :=
  performs_lift_bind_iff

theorem passes_expect (reg : Nat) (expected : Word) : Passes (expect reg expected) := by
  refine passes_act_iff.mpr ⟨expected, ?_⟩
  rw [if_pos rfl]
  exact passes_pure

theorem performs_expect {allowed : LoadAccess → Prop} {reg : Nat} (h : allowed (.read reg))
    (expected : Word) : (expect reg expected).run.Performs allowed := by
  refine performs_act_iff.mpr ⟨h, fun found => ?_⟩
  split
  · trivial
  · trivial

/-- A program that is there can be read at any index. -/
theorem passes_readProgram {i : Nat} {rest : Word → Loading Unit} (hPayload : info.payload ≠ .null)
    (hRest : ∀ word, Passes (rest word)) : Passes (readProgram id info i rest) := by
  rw [readProgram, if_neg hPayload]
  cases payloadWord info.payload i with
  | none => exact passes_act_iff.mpr ⟨0, hRest 0⟩
  | some word => exact hRest word

theorem not_passes_readProgram {i : Nat} {rest : Word → Loading Unit} (hNull : info.payload = .null) :
    ¬ Passes (readProgram id info i rest) := by
  rw [readProgram, if_pos hNull]
  exact not_passes_failure

theorem performs_readProgram {i : Nat} {rest : Word → Loading Unit}
    (h : info.payload ≠ .null → ∀ word, (rest word).run.Performs (Backed dmc)) :
    (readProgram id info i rest).run.Performs (Backed dmc) := by
  rw [readProgram]
  split
  · trivial
  · next hPayload =>
      cases payloadWord info.payload i with
      | none => exact performs_act_iff.mpr ⟨trivial, h hPayload⟩
      | some word => exact h hPayload word

/-- The program is written to its end just when it is there or has no words. -/
theorem passes_writeProgram_iff {i count : Nat} :
    Passes (writeProgram id info i count) ↔ (info.payload = .null → count = 0) := by
  induction count generalizing i with
  | zero => exact iff_of_true passes_pure fun _ => rfl
  | succ count ih =>
      rw [writeProgram]
      by_cases hNull : info.payload = .null
      · refine iff_of_false (not_passes_readProgram hNull) fun h => ?_
        cases h hNull
      · refine iff_of_true (passes_readProgram hNull fun word => ?_) fun h => absurd h hNull
        exact passes_act_iff.mpr ⟨(), ih.mpr fun h => absurd h hNull⟩

/-- Words are written on behalf of an id only if it has a program. -/
theorem performs_writeProgram (i count : Nat) :
    (writeProgram id (dmc.info id) i count).run.Performs (Backed dmc) := by
  induction count generalizing i with
  | zero => trivial
  | succ count ih =>
      rw [writeProgram]
      exact performs_readProgram fun hPayload word =>
        performs_act_iff.mpr ⟨hPayload, fun _ => ih (i + 1)⟩

theorem passes_handlers (writes : List (Write Nat Word)) :
    Passes (forEach (fun write => act (.handler write) fun _ => pure ()) writes) :=
  passes_forEach_iff.mpr fun _ _ => passes_act_iff.mpr ⟨(), passes_pure⟩

theorem passes_mmio (writes : List (Write Nat Word)) :
    Passes (forEach (fun write => act (.mmio id write) fun _ => pure ()) writes) :=
  passes_forEach_iff.mpr fun _ _ => passes_act_iff.mpr ⟨(), passes_pure⟩

theorem performs_handlers (writes : List (Write Nat Word)) :
    (forEach (fun write => act (.handler write) fun _ => pure ()) writes).run.Performs (Backed dmc) :=
  performs_forEach_iff.mpr fun _ _ _ _ _ => performs_act_iff.mpr ⟨trivial, fun _ => trivial⟩

/-- The listed registers are written on behalf of an id with a program, or there are
none. -/
theorem performs_mmio_iff :
    (forEach (fun write => act (.mmio id write) fun _ => pure ())
      (dmcLoadMmio display id info)).run.Performs (Backed dmc) ↔
        ((dmc.info id).payload = .null → info.mmioCount = 0) := by
  rw [performs_forEach_iff]
  constructor
  · intro h hNull
    by_contra hSome
    have hPos : 0 < info.mmioCount := Nat.pos_of_ne_zero hSome
    have hMem : (info.mmioaddr 0, dmcMmiodata display id info 0) ∈ dmcLoadMmio display id info :=
      mem_dmcLoadMmio.mpr ⟨0, hPos, rfl⟩
    obtain ⟨before, after, hSplit⟩ := List.append_of_mem hMem
    have hAct := h before _ after hSplit fun _ _ => passes_act_iff.mpr ⟨(), passes_pure⟩
    exact (performs_act_iff.mp hAct).1 hNull
  · intro h before write after hSplit _
    refine performs_act_iff.mpr ⟨fun hNull => ?_, fun _ => trivial⟩
    have hMem : write ∈ dmcLoadMmio display id info := by
      rw [hSplit]
      exact List.mem_append_right _ List.mem_cons_self
    obtain ⟨i, hi, -⟩ := mem_dmcLoadMmio.mp hMem
    have hEmpty := h hNull
    omega

theorem passes_loadProgram_iff : Passes (loadProgram display id info) ↔ Loads info := by
  rw [loadProgram, passes_seq_iff, passes_seq_iff, passes_writeProgram_iff]
  exact ⟨fun h => h.2.1, fun h => ⟨passes_handlers _, h, passes_mmio _⟩⟩

theorem passes_checkLoaded : Passes (checkLoaded display id info) := by
  rw [checkLoaded]
  split
  · exact passes_pure
  · next hPayload =>
      refine passes_readProgram hPayload fun expected => ?_
      refine passes_seq_iff.mpr ⟨passes_expect _ _, ?_⟩
      exact passes_forEach_iff.mpr fun _ _ => passes_expect _ _

/-- A round can be gone through just when it follows no null pointer. -/
theorem passes_loadChecked_iff : Passes (loadChecked display id info) ↔ Loads info := by
  rw [loadChecked, passes_seq_iff, passes_loadProgram_iff]
  exact and_iff_left passes_checkLoaded

theorem performs_checkLoaded : (checkLoaded display id info).run.Performs (Backed dmc) := by
  rw [checkLoaded]
  split
  · trivial
  · refine performs_readProgram fun _ expected => ?_
    refine performs_seq_iff.mpr ⟨performs_expect trivial _, fun _ => ?_⟩
    exact performs_forEach_iff.mpr fun _ _ _ _ _ => performs_expect trivial _

/-- A round for an id without a program writes on its behalf just when it has
registers and nothing is to be read of the program. -/
theorem performs_loadChecked_iff :
    (loadChecked display id (dmc.info id)).run.Performs (Backed dmc) ↔
      ((dmc.info id).payload = .null → (dmc.info id).dmcFwSize = 0 → (dmc.info id).mmioCount = 0) := by
  have hRound : (loadChecked display id (dmc.info id)).run.Performs (Backed dmc) ↔
      (loadProgram display id (dmc.info id)).run.Performs (Backed dmc) :=
    performs_seq_iff.trans (and_iff_left fun _ => performs_checkLoaded)
  rw [hRound, loadProgram, performs_seq_iff, performs_seq_iff, performs_mmio_iff,
    passes_writeProgram_iff]
  constructor
  · exact fun h hNull hSize => (h.2 (passes_handlers _)).2 (fun _ => hSize) hNull
  · intro h
    refine ⟨performs_handlers _, fun _ => ⟨performs_writeProgram 0 _, fun hWritten hNull => ?_⟩⟩
    exact h hNull (hWritten hNull)

theorem performs_pipedmcClockGatingWa (enable : Bool) :
    (pipedmcClockGatingWa display enable).run.Performs (Backed dmc) := by
  rw [pipedmcClockGatingWa]
  split
  · trivial
  · split
    · exact performs_forEach_iff.mpr fun _ _ _ _ _ => performs_act_iff.mpr ⟨trivial, fun _ => trivial⟩
    · exact performs_forEach_iff.mpr fun _ _ _ _ _ => performs_act_iff.mpr ⟨trivial, fun _ => trivial⟩

theorem passes_pipedmcClockGatingWa (enable : Bool) :
    Passes (pipedmcClockGatingWa display enable) := by
  rw [pipedmcClockGatingWa]
  split
  · exact passes_pure
  · split
    · exact passes_forEach_iff.mpr fun _ _ => passes_act_iff.mpr ⟨(), passes_pure⟩
    · exact passes_forEach_iff.mpr fun _ _ => passes_act_iff.mpr ⟨(), passes_pure⟩

/-- The ids are in the order of their codes. -/
theorem mem_before_iff {before after : List DmcId} (h : DmcId.all = before ++ id :: after)
    (other : DmcId) : other ∈ before ↔ other.code < id.code := by
  have hSorted : DmcId.all.Pairwise fun one other => one.code < other.code := by decide
  rw [h, List.pairwise_append, List.pairwise_cons] at hSorted
  constructor
  · exact fun hMem => hSorted.2.2 other hMem id List.mem_cons_self
  · intro hLt
    have hMem := DmcId.mem_all other
    rw [h] at hMem
    rcases List.mem_append.mp hMem with hBefore | hAfter
    · exact hBefore
    · rcases List.mem_cons.mp hAfter with rfl | hAfter
      · exact absurd hLt (Nat.lt_irrefl _)
      · exact absurd hLt (Nat.not_lt.mpr (Nat.le_of_lt (hSorted.2.1.1 other hAfter)))

/-- The loading writes nothing on behalf of an id without a program just when there
is no main program, or each id without one has no registers or is not come to. -/
theorem performs_intelDmcLoadProgram_iff :
    (intelDmcLoadProgram display dmc).run.Performs (Backed dmc) ↔
      ((dmc.info .main).payload ≠ .null →
        ∀ id, (∀ other : DmcId, other.code < id.code → Loads (dmc.info other)) →
          (dmc.info id).payload = .null → (dmc.info id).dmcFwSize = 0 →
          (dmc.info id).mmioCount = 0) := by
  rw [intelDmcLoadProgram]
  by_cases hMain : (dmc.info .main).payload = .null
  · rw [if_pos (by simp [intelDmcHasPayload, hMain])]
    exact iff_of_true trivial fun h => absurd hMain h
  · rw [if_neg (by simp [intelDmcHasPayload, hMain])]
    have hLoop : (forEach (fun id => loadChecked display id (dmc.info id)) DmcId.all).run.Performs
        (Backed dmc) ↔ ∀ id, (∀ other : DmcId, other.code < id.code → Loads (dmc.info other)) →
          (dmc.info id).payload = .null → (dmc.info id).dmcFwSize = 0 →
          (dmc.info id).mmioCount = 0 := by
      rw [performs_forEach_iff]
      constructor
      · intro h id hBefore
        obtain ⟨before, after, hSplit⟩ := List.append_of_mem (DmcId.mem_all id)
        refine performs_loadChecked_iff.mp (h before id after hSplit fun other hOther => ?_)
        exact passes_loadChecked_iff.mpr (hBefore other ((mem_before_iff hSplit other).mp hOther))
      · intro h before id after hSplit hBefore
        refine performs_loadChecked_iff.mpr (h id fun other hOther => ?_)
        exact passes_loadChecked_iff.mp (hBefore other ((mem_before_iff hSplit other).mpr hOther))
    have hEnd : (act (.rmw dcStateDebug 0 3) fun _ => pure () : Loading Unit).run.Performs
        (Backed dmc) := performs_act_iff.mpr ⟨trivial, fun _ => trivial⟩
    rw [performs_seq_iff, performs_seq_iff, hLoop]
    constructor
    · exact fun h _ => (h.2 (passes_pipedmcClockGatingWa true)).1
    · intro h
      refine ⟨performs_pipedmcClockGatingWa true, fun _ => ⟨h hMain, fun _ => ?_⟩⟩
      exact performs_seq_iff.mpr ⟨hEnd, fun _ => performs_pipedmcClockGatingWa false⟩

end Accesses

end NootedBlue.Dmc
