import NootedBlue.Dmc.Header

/-! The file of the display microcontrollers: a package of programs, and which
of them are taken for a stepping. It is safe to parse as far as the reads go;
what it leaves fits together only under conditions on the headers. -/
namespace NootedBlue.Dmc

open Interaction Bytes

/-- `struct stepping_info`. -/
structure SteppingInfo where
  stepping : UInt8
  substepping : UInt8
  deriving DecidableEq, Repr

/-- `struct intel_dmc`. -/
structure IntelDmc where
  version : Nat
  maxFwSize : Nat
  info : DmcId → DmcFwInfo

def IntelDmc.set (dmc : IntelDmc) (id : DmcId) (info : DmcFwInfo) : IntelDmc :=
  { dmc with info := Function.update dmc.info id info }

/-- `fw_info_matches_stepping`; a star matches anything. -/
def fwInfoMatchesStepping (stepping substepping : UInt8) (si : SteppingInfo) : Bool :=
  let star : UInt8 := 0x2a
  (substepping = star && si.stepping = stepping) ||
    (si.stepping = stepping && si.substepping = substepping) ||
    (si.stepping = star && si.substepping = substepping) ||
    (stepping = star && substepping = star)

section Package

variable (si : SteppingInfo)

/-- `sizeof(struct intel_fw_info)` and `sizeof(struct intel_package_header)`. -/
def fwInfoSize : Nat := 12
def packageHeaderSize : Nat := 16

/-- `dmc_id` of an entry; the first version has the main one only. -/
def readDmcId (packageVer entry : Nat) : Read Nat :=
  if packageVer ≤ 1 then return DmcId.main.code else readU8 (entry + 1)

/-- An iteration of `dmc_set_fw_offset`. -/
def setFwOffset (packageVer entry : Nat) (dmc : IntelDmc) : Read IntelDmc := do
  let code ← readDmcId packageVer entry
  match DmcId.ofCode code with
  | none => return dmc
  | some id =>
      if (dmc.info id).present then return dmc
      else do
        let stepping ← Program.perform (entry + 2)
        let substepping ← Program.perform (entry + 3)
        let offset ← readU32 (entry + 4)
        return if fwInfoMatchesStepping stepping substepping si then
            dmc.set id { dmc.info id with present := true, dmcOffset := offset }
          else dmc

/-- `dmc_set_fw_offset`, over the entries that are left. -/
def dmcSetFwOffset (packageVer : Nat) : Nat → Nat → IntelDmc → Read IntelDmc
  | _, 0, dmc => return dmc
  | entry, numEntries + 1, dmc => do
      let dmc ← setFwOffset si packageVer entry dmc
      dmcSetFwOffset packageVer (entry + fwInfoSize) numEntries dmc

/-- `PACKAGE_MAX_FW_INFO_ENTRIES` and `PACKAGE_V2_MAX_FW_INFO_ENTRIES`. -/
def maxEntries (headerVer : Nat) : Option Nat :=
  if headerVer = 1 then some 20 else if headerVer = 2 then some 32 else none

/-- The entries of a package, if it has as many as its version. -/
def readEntries (package headerVer maxEntries : Nat) (dmc : IntelDmc) (headerLen : Nat) :
    Read (Nat × IntelDmc) :=
  let packageSize := packageHeaderSize + maxEntries * fwInfoSize
  if headerLen * 4 ≠ packageSize then return (0, dmc)
  else do
    let numEntries ← readU32 (package + 12)
    let dmc ← dmcSetFwOffset si headerVer (package + packageHeaderSize)
      (min numEntries maxEntries) dmc
    return (packageSize, dmc)

/-- `parse_dmc_fw_package`, for a package at an offset in the file. -/
def parseDmcFwPackage (package remSize : Nat) (dmc : IntelDmc) : Read (Nat × IntelDmc) :=
  if remSize < packageHeaderSize then return (0, dmc)
  else do
    let headerVer ← readU8 (package + 1)
    match maxEntries headerVer with
    | none => return (0, dmc)
    | some maxEntries =>
        if remSize < packageHeaderSize + maxEntries * fwInfoSize then return (0, dmc)
        else do
          let headerLen ← readU8 package
          readEntries si package headerVer maxEntries dmc headerLen

/-- `sizeof(struct intel_css_header)`. -/
def cssHeaderSize : Nat := 128

/-- `parse_dmc_fw_css`. -/
def parseDmcFwCss (remSize : Nat) (dmc : IntelDmc) : Read (Nat × IntelDmc) :=
  if remSize < cssHeaderSize then return (0, dmc)
  else do
    let headerLen ← readU32 4
    let version ← readU32 88
    return if cssHeaderSize ≠ headerLen * 4 % 2 ^ 32 then (0, dmc)
      else (cssHeaderSize, { dmc with version })

/-- The package behind a header of a size, which is zero if there is none. -/
def readPackageBehind (size r : Nat) (dmc : IntelDmc) : Read (Option Nat × IntelDmc) :=
  if r = 0 then return (none, dmc)
  else do
    let (packageSize, dmc) ← parseDmcFwPackage si r (size - r) dmc
    return (if packageSize = 0 then none else some (r + packageSize), dmc)

/-- The part of `parse_dmc_fw` before its loop: where the programs begin, if the
file is a package. -/
def readPackage (size : Nat) (dmc : IntelDmc) : Read (Option Nat × IntelDmc) :=
  if size = 0 then return (none, dmc)
  else do
    let (r, dmc) ← parseDmcFwCss size dmc
    readPackageBehind si size r dmc

end Package

section Headers

variable (display : DmcDisplay) (allocates : DmcId → Bool) (size : Nat)

/-- Where the header of a program begins. It is passed over if the program is not
there or if the header would lie behind the file. -/
def headerOffset (readcount : Nat) (info : DmcFwInfo) : Option Nat :=
  let offset := (readcount + info.dmcOffset * 4) % 2 ^ 32
  if info.present && offset ≤ size then some offset else none

/-- An iteration of the loop of `parse_dmc_fw`. -/
def parseHeader (readcount : Nat) (id : DmcId) (dmc : IntelDmc) : Parse IntelDmc :=
  match headerOffset size readcount (dmc.info id) with
  | none => return dmc
  | some offset => do
      let (_, info) ← parseDmcFwHeader display dmc.maxFwSize (allocates id) id offset
        (size - offset) (dmc.info id)
      return dmc.set id info

/-- The loop, over the ids that are left. -/
def parseHeaders (readcount : Nat) : List DmcId → IntelDmc → Parse IntelDmc
  | [], dmc => return dmc
  | id :: rest, dmc => do
      let dmc ← parseHeader display allocates size readcount id dmc
      parseHeaders readcount rest dmc

/-- `parse_dmc_fw`, for a file of a size. Memory for the program of each id may be
there or not. -/
def parseDmcFw (si : SteppingInfo) (dmc : IntelDmc) : Parse (Int × IntelDmc) := do
  let (readcount, dmc) ← (liftM (readPackage si size dmc) : Parse (Option Nat × IntelDmc))
  match readcount with
  | none => return (-1, dmc)
  | some readcount => do
      let dmc ← parseHeaders display allocates size readcount DmcId.all dmc
      return (if (dmc.info .main).payload = .null then -1 else 0, dmc)

end Headers

/-- Only the offsets of programs have changed, and which of them are there. -/
structure OffsetsOnly (before after : IntelDmc) : Prop where
  maxFwSize : after.maxFwSize = before.maxFwSize
  payload : ∀ id, (after.info id).payload = (before.info id).payload

section Package

variable {memory : Memory} {si : SteppingInfo} {size package remSize : Nat} {dmc : IntelDmc}

theorem OffsetsOnly.refl (dmc : IntelDmc) : OffsetsOnly dmc dmc := ⟨rfl, fun _ => rfl⟩

theorem OffsetsOnly.trans {first second third : IntelDmc} (h : OffsetsOnly first second)
    (hNext : OffsetsOnly second third) : OffsetsOnly first third :=
  ⟨hNext.maxFwSize.trans h.maxFwSize, fun id => (hNext.payload id).trans (h.payload id)⟩

theorem offsetsOnly_set {id : DmcId} {info : DmcFwInfo}
    (h : info.payload = (dmc.info id).payload) : OffsetsOnly dmc (dmc.set id info) := by
  refine ⟨rfl, fun other => ?_⟩
  by_cases hId : other = id
  · subst hId
    simpa [IntelDmc.set] using h
  · simp [IntelDmc.set, hId]

theorem offsetsOnly_setFwOffset {packageVer entry : Nat} :
    OffsetsOnly dmc ((setFwOffset si packageVer entry dmc).answer memory) := by
  simp only [setFwOffset, Program.answer_bind]
  split
  · exact .refl dmc
  · split
    · exact .refl dmc
    · simp only [Program.answer_bind, Program.pure_eq, Program.answer_done]
      split
      · exact offsetsOnly_set rfl
      · exact .refl dmc

theorem offsetsOnly_dmcSetFwOffset {packageVer entry numEntries : Nat} :
    OffsetsOnly dmc ((dmcSetFwOffset si packageVer entry numEntries dmc).answer memory) := by
  induction numEntries generalizing entry dmc with
  | zero => exact .refl dmc
  | succ numEntries ih =>
      simp only [dmcSetFwOffset, Program.answer_bind]
      exact offsetsOnly_setFwOffset.trans ih

theorem offsetsOnly_parseDmcFwPackage :
    OffsetsOnly dmc ((parseDmcFwPackage si package remSize dmc).answer memory).2 := by
  simp only [parseDmcFwPackage]
  split
  · exact .refl dmc
  · simp only [Program.answer_bind]
    split
    · exact .refl dmc
    · split
      · exact .refl dmc
      · simp only [Program.answer_bind]
        simp only [readEntries]
        split
        · exact .refl dmc
        · simp only [Program.answer_bind]
          exact offsetsOnly_dmcSetFwOffset

theorem offsetsOnly_readPackage :
    OffsetsOnly dmc ((readPackage si size dmc).answer memory).2 := by
  have hCss : OffsetsOnly dmc ((parseDmcFwCss size dmc).answer memory).2 := by
    simp only [parseDmcFwCss]
    split
    · exact .refl dmc
    · simp only [Program.answer_bind, Program.pure_eq, Program.answer_done]
      split
      · exact .refl dmc
      · exact ⟨rfl, fun _ => rfl⟩
  simp only [readPackage]
  split
  · exact .refl dmc
  · simp only [Program.answer_bind]
    refine hCss.trans ?_
    simp only [readPackageBehind]
    split
    · exact .refl _
    · simp only [Program.answer_bind]
      exact offsetsOnly_parseDmcFwPackage

theorem inside_setFwOffset {packageVer entry : Nat} (h : entry + fwInfoSize ≤ size) :
    Inside size memory (setFwOffset si packageVer entry dmc) := by
  have h : entry + 12 ≤ size := h
  have hId : Inside size memory (readDmcId packageVer entry) := by
    simp only [readDmcId]
    split
    · exact inside_done _
    · exact inside_readU8_iff.mpr (by omega)
  refine inside_bind_iff.mpr ⟨hId, ?_⟩
  split
  · exact inside_done _
  · split
    · exact inside_done _
    · have hByte : ∀ offset, offset < size → Inside size memory (Program.perform offset) := by
        simp [Inside]
      refine inside_bind_iff.mpr ⟨hByte _ (by omega), inside_bind_iff.mpr ⟨hByte _ (by omega), ?_⟩⟩
      exact inside_bind_iff.mpr ⟨inside_readU32_iff.mpr (by omega), inside_done _⟩

theorem inside_dmcSetFwOffset {packageVer entry numEntries : Nat}
    (h : entry + numEntries * fwInfoSize ≤ size) :
    Inside size memory (dmcSetFwOffset si packageVer entry numEntries dmc) := by
  induction numEntries generalizing entry dmc with
  | zero => exact inside_done _
  | succ numEntries ih =>
      rw [Nat.succ_mul] at h
      exact inside_bind_iff.mpr ⟨inside_setFwOffset (by omega), ih (by omega)⟩

/-- A package is read inside the file. -/
theorem inside_parseDmcFwPackage (hSize : package + remSize ≤ size) :
    Inside size memory (parseDmcFwPackage si package remSize dmc) := by
  simp only [parseDmcFwPackage]
  split
  · exact inside_done _
  · next hBase =>
      have hBase : 16 ≤ remSize := Nat.not_lt.mp hBase
      refine inside_bind_iff.mpr ⟨inside_readU8_iff.mpr (by omega), ?_⟩
      split
      · exact inside_done _
      · next maxEntries _ =>
          split
          · exact inside_done _
          · next hEntries =>
              have hEntries : packageHeaderSize + maxEntries * fwInfoSize ≤ remSize :=
                Nat.not_lt.mp hEntries
              refine inside_bind_iff.mpr ⟨inside_readU8_iff.mpr (by omega), ?_⟩
              simp only [readEntries]
              split
              · exact inside_done _
              · refine inside_bind_iff.mpr ⟨inside_readU32_iff.mpr (by omega), ?_⟩
                refine inside_bind_iff.mpr ⟨inside_dmcSetFwOffset ?_, inside_done _⟩
                have hMin : min ((readU32 (package + 12)).answer memory) maxEntries * fwInfoSize ≤
                    maxEntries * fwInfoSize := Nat.mul_le_mul_right _ (Nat.min_le_right _ _)
                omega

theorem inside_readPackage : Inside size memory (readPackage si size dmc) := by
  simp only [readPackage]
  split
  · exact inside_done _
  · have hCss : Inside size memory (parseDmcFwCss size dmc) ∧
        ((parseDmcFwCss size dmc).answer memory).1 ≤ size := by
      simp only [parseDmcFwCss]
      split
      · exact ⟨inside_done _, Nat.zero_le _⟩
      · next hFits =>
          have hFits : 128 ≤ size := Nat.not_lt.mp hFits
          simp only [inside_bind_iff, inside_readU32_iff, Program.answer_bind, Program.pure_eq,
            Program.answer_done]
          refine ⟨⟨by omega, by omega, inside_done _⟩, ?_⟩
          split
          · exact Nat.zero_le _
          · exact hFits
    refine inside_bind_iff.mpr ⟨hCss.1, ?_⟩
    simp only [readPackageBehind]
    split
    · exact inside_done _
    · exact inside_bind_iff.mpr
        ⟨inside_parseDmcFwPackage (by have := hCss.2; omega), inside_done _⟩

end Package

end NootedBlue.Dmc
