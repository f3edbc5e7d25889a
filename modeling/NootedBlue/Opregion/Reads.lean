import NootedBlue.Opregion.Uninitialised

/-! What the setup reads of the VBT it goes to. Behind the checks of the
opregion nothing looks at the size of the VBT, so that none is ever turned
down. -/
namespace NootedBlue.Opregion

open Bytes Vbt Display

/-- The VBT that a call goes to: it builds the structure, the device is known,
and the opregion is there and signed. -/
inductive Consults (deviceId : Nat) (firmware : Firmware) (garbage : Garbage) :
    Option I915 → Table → Prop where
  | located {platform : Platform} (known : findPlatformDesc deviceId = some platform)
      (asls : firmware.asls ≠ 0) {opregion : Memory}
      (mapped : firmware.map firmware.asls opregionSize = some opregion)
      (signature : Signed opregion) {table : Table}
      (located : locateVbt firmware opregion garbage.opregion = some table) :
      Consults deviceId firmware garbage none table

/-- The headers of a VBT point outside of it: the BDB, or what the BDB gives as
the start or the end of its blocks, is not inside. -/
def PointsOutside (table : Table) : Prop :=
  let bdb := u32 table.memory bdbOffsetOffset
  table.size < bdbOffsetOffset + 4 ∨ table.size < bdb + bdbSizeOffset + 2 ∨
    table.size < bdb + headerSize table.memory bdb ∨ table.size < bdb + bdbSize table.memory bdb

/-- A call turns its VBT down: it returns, and no parser has run. -/
def Rejects (deviceId : Nat) (firmware : Firmware) (garbage : Garbage) (before : Option I915) : Prop :=
  ∃ fuel err i915, intelOpregionSetup fuel deviceId firmware garbage before = .ok (err, i915) ∧
    i915.display = none

/-- Every byte that a call reads of the VBT lies inside it, and a VBT whose
headers point outside is turned down. -/
structure ReadsInside (deviceId : Nat) (firmware : Firmware) (garbage : Garbage)
    (before : Option I915) : Prop where
  inside : ∀ table, Consults deviceId firmware garbage before table →
    ∀ fuel, Inside table.size table.memory (readVbt fuel garbage.blocks).run
  rejects : ∀ table, Consults deviceId firmware garbage before table → PointsOutside table →
    Rejects deviceId firmware garbage before

section Consulted

variable {deviceId : Nat} {firmware : Firmware} {garbage : Garbage} {before : Option I915}
  {table : Table}

/-- What comes of the call is what the parsers make of the VBT. -/
theorem Consults.setup_eq (h : Consults deviceId firmware garbage before table) :
    ∃ platform, findPlatformDesc deviceId = some platform ∧ ∀ fuel,
      intelOpregionSetup fuel deviceId firmware garbage before =
        (parseVbt fuel platform.info garbage table).map fun display =>
          (0, ⟨getAllowedDcMask garbage.info 1, some display⟩) := by
  cases h with
  | @located platform known asls opregion mapped signature _ located =>
      refine ⟨platform, known, fun fuel => ?_⟩
      simp only [intelOpregionSetup, setup, known, if_neg asls, mapped, if_pos signature, located]
      cases parseVbt fuel platform.info garbage table <;> rfl

theorem Consults.not_rejects (h : Consults deviceId firmware garbage before table) :
    ¬ Rejects deviceId firmware garbage before := by
  intro ⟨fuel, err, i915, hReturn, hNone⟩
  obtain ⟨platform, -, hSetup⟩ := h.setup_eq
  rw [hSetup fuel] at hReturn
  cases hParse : parseVbt fuel platform.info garbage table with
  | error halt =>
      rw [hParse] at hReturn
      cases hReturn
  | ok display =>
      rw [hParse] at hReturn
      cases hReturn
      cases hNone

/-- A first call that returns a full structure has gone to a VBT. -/
theorem consults_of_full {fuel : Nat} {err : Int} {i915 : I915}
    (h : intelOpregionSetup fuel deviceId firmware garbage none = .ok (err, i915))
    (hFull : i915.display ≠ none) : ∃ table, Consults deviceId firmware garbage none table := by
  cases setup_eq_ok_iff.mp h with
  | noAsls => exact absurd rfl hFull
  | unsigned => exact absurd rfl hFull
  | noVbt => exact absurd rfl hFull
  | parsed known asls mapped signature located _ =>
      exact ⟨_, .located known asls mapped signature located⟩

end Consulted

/-- A call reads inside its VBT and turns down a bad one exactly when all the
headers and blocks that it goes by lie inside and no header points outside; it
checks none of them. -/
theorem reads_inside_iff (deviceId : Nat) (firmware : Firmware) (garbage : Garbage)
    (before : Option I915) :
    ReadsInside deviceId firmware garbage before ↔
      ∀ table, Consults deviceId firmware garbage before table →
        HeadersInside table.memory table.size ∧ ¬ PointsOutside table := by
  constructor
  · intro reads table consults
    refine ⟨inside_readVbt_iff.mp (reads.inside table consults), fun hOutside => ?_⟩
    exact consults.not_rejects (reads.rejects table consults hOutside)
  · intro h
    exact {
      inside := fun table consults => inside_readVbt_iff.mpr (h table consults).1
      rejects := fun table consults hOutside => absurd hOutside (h table consults).2 }

/-- A signed opregion of version 1 whose VBT claims that its BDB starts one
megabyte further on. -/
def distantBdb : Memory := fun i =>
  if i = vbtOffset + bdbOffsetOffset + 2 then 0x10 else opregionSignature.getD i 0

theorem distant_bdb_is_read :
    ¬ ReadsInside 0x9A49 ⟨0x1000, fun _ _ => some distantBdb⟩ zeroed none := by
  intro reads
  have hConsults : Consults 0x9A49 ⟨0x1000, fun _ _ => some distantBdb⟩ zeroed none
      (mailboxTable distantBdb) :=
    .located rfl (by decide) rfl (by decide) rfl
  have hInside := reads.inside _ hConsults 0 (0x100000 + versionOffset) (by decide)
  revert hInside
  decide

end NootedBlue.Opregion
