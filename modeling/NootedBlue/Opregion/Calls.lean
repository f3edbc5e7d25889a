import NootedBlue.Opregion.Uninitialised
import NootedBlue.Semantics.Run

/-! Sequences of calls. The first call publishes the structure before it has
checked anything, and every later call takes a structure that is there for one
that is complete. -/
namespace NootedBlue.Opregion

open Bytes Vbt Display Transition

/-- What a call finds: its own opregion and its own fresh memory. -/
structure Call where
  firmware : Firmware
  garbage : Garbage

/-- A call that returned, with the structure that `i915b` points to then. -/
structure Return where
  call : Call
  err : Int
  i915 : I915

/-- A call takes `i915b` from one value to the next. -/
def Called (deviceId : Nat) (before : Option I915) (ret : Return) (after : Option I915) : Prop :=
  after = some ret.i915 ∧ ∃ fuel,
    intelOpregionSetup fuel deviceId ret.call.firmware ret.call.garbage before =
      .ok (ret.err, ret.i915)

/-- The probe and the parsers have run on the structure. -/
def I915.Full (i915 : I915) : Prop := i915.display.isSome

/-- A call goes through the whole setup. -/
def Performed (deviceId : Nat) (ret : Return) : Prop :=
  ret.i915.Full ∧ ∃ fuel,
    SetUp fuel deviceId ret.call.firmware ret.call.garbage ret.err ret.i915

/-- The return values tell the truth: zero means that the structure is full,
and a failure is followed by another one or by a whole setup. -/
structure Truthful (deviceId : Nat) (returns : List Return) : Prop where
  zero : ∀ ret ∈ returns, ret.err = 0 → ret.i915.Full
  failure : ∀ before ret next after, returns = before ++ ret :: next :: after → ret.err ≠ 0 →
    next.err ≠ 0 ∨ Performed deviceId next

/-- A call that passes both checks and finds a VBT. -/
def Call.Passes (call : Call) : Prop :=
  call.firmware.asls ≠ 0 ∧ ∃ opregion, call.firmware.map call.firmware.asls opregionSize =
    some opregion ∧ Signed opregion ∧
      ∃ table, locateVbt call.firmware opregion call.garbage.opregion = some table

/-- A call that fails one of the checks. -/
def Call.Fails (call : Call) : Prop :=
  call.firmware.asls = 0 ∨ ∃ opregion, call.firmware.map call.firmware.asls opregionSize =
    some opregion ∧ ¬ Signed opregion

/-- No call comes first, or the first one passes, or it fails and there is no
other. -/
def FirstDecides : List Return → Prop
  | [] => True
  | first :: rest => first.call.Passes ∨ first.call.Fails ∧ rest = []

/-- Only the first call does anything; all later ones return zero and the same
structure. -/
theorem runs_cases {deviceId : Nat} {returns : List Return} {state : Option I915}
    (run : Runs (Called deviceId) none returns state) :
    (returns = [] ∧ state = none) ∨
      ∃ first rest, returns = first :: rest ∧ state = some first.i915 ∧
        (∃ fuel, SetUp fuel deviceId first.call.firmware first.call.garbage first.err first.i915) ∧
        ∀ ret ∈ rest, ret.err = 0 ∧ ret.i915 = first.i915 := by
  induction run with
  | nil => exact .inl ⟨rfl, rfl⟩
  | @snoc _ _ _ last _ hLast ih =>
      obtain ⟨rfl, fuel, hCall⟩ := hLast
      cases ih with
      | inl hStart =>
          obtain ⟨rfl, rfl⟩ := hStart
          refine .inr ⟨last, [], rfl, rfl, ⟨fuel, setup_eq_ok_iff.mp hCall⟩, ?_⟩
          intro ret hRet
          cases hRet
      | inr hLater =>
          obtain ⟨first, rest, rfl, rfl, hFirst, hRest⟩ := hLater
          have hSame : (0, first.i915) = (last.err, last.i915) := Except.ok.inj hCall
          have hErr : last.err = 0 := (congrArg Prod.fst hSame).symm
          have hI915 : last.i915 = first.i915 := (congrArg Prod.snd hSame).symm
          refine .inr ⟨first, rest ++ [last], rfl, by rw [hI915], hFirst, ?_⟩
          intro ret hRet
          cases List.mem_append.mp hRet with
          | inl hEarlier => exact hRest ret hEarlier
          | inr hNew =>
              rw [List.mem_singleton.mp hNew]
              exact ⟨hErr, hI915⟩

/-- Nothing that follows a first call that left no full structure is truthful. -/
theorem not_truthful_of_empty {deviceId : Nat} {first : Return} {rest : List Return}
    (hEmpty : first.i915.display = none) (hRest : ∀ ret ∈ rest, ret.err = 0 ∧ ret.i915 = first.i915)
    (h : Truthful deviceId (first :: rest)) : first.err ≠ 0 ∧ rest = [] := by
  have hNever : ∀ ret : Return, ret.i915 = first.i915 → ¬ ret.i915.Full := by
    intro ret hSame hFull
    rw [I915.Full, hSame, hEmpty] at hFull
    cases hFull
  constructor
  · intro hErr
    exact hNever first rfl (h.zero first List.mem_cons_self hErr)
  · cases rest with
    | nil => rfl
    | cons next rest =>
        obtain ⟨hErr, hSame⟩ := hRest next List.mem_cons_self
        have hMem : next ∈ first :: next :: rest := List.mem_cons_of_mem _ List.mem_cons_self
        exact absurd (h.zero next hMem hErr) (hNever next hSame)

theorem truthful_single {deviceId : Nat} {ret : Return} (h : ret.err ≠ 0) :
    Truthful deviceId [ret] where
  zero := by
    intro only hOnly hErr
    rw [List.mem_singleton.mp hOnly] at hErr
    exact absurd hErr h
  failure := by
    intro before first next after hSplit
    have hLength := congrArg List.length hSplit
    simp only [List.length_append, List.length_cons, List.length_nil] at hLength
    omega

theorem truthful_of_full {deviceId : Nat} {returns : List Return}
    (h : ∀ ret ∈ returns, ret.err = 0 ∧ ret.i915.Full) : Truthful deviceId returns where
  zero ret hRet _ := (h ret hRet).2
  failure := by
    intro before ret next after hSplit hErr
    have hMem : ret ∈ returns := by simp [hSplit]
    exact absurd (h ret hMem).1 hErr

theorem enomem_ne_zero : enomem ≠ 0 := by decide

theorem einval_ne_zero : einval ≠ 0 := by decide

theorem Call.Fails.not_passes {call : Call} (h : call.Fails) : ¬ call.Passes := by
  rintro ⟨hAsls, opregion, hMapped, hSigned, -⟩
  rcases h with hZero | ⟨other, hOther, hUnsigned⟩
  · exact hAsls hZero
  · cases hMapped.symm.trans hOther
    exact hUnsigned hSigned

/-- A first call that fails tells the truth just when it is alone. -/
theorem truthful_cons_of_fails {deviceId : Nat} {call : Call} {err : Int} {i915 : I915}
    {rest : List Return} (hFails : call.Fails) (hErr : err ≠ 0) (hEmpty : i915.display = none)
    (hRest : ∀ ret ∈ rest, ret.err = 0 ∧ ret.i915 = i915) :
    Truthful deviceId (⟨call, err, i915⟩ :: rest) ↔
      call.Passes ∨ call.Fails ∧ rest = [] := by
  constructor
  · intro h
    exact .inr ⟨hFails, (not_truthful_of_empty hEmpty hRest h).2⟩
  · rintro (hPasses | ⟨-, rfl⟩)
    · exact absurd hPasses hFails.not_passes
    · exact truthful_single hErr

/-- How the first call has gone decides. -/
theorem truthful_cons_iff {deviceId fuel : Nat} {call : Call} {err : Int} {i915 : I915}
    {rest : List Return}
    (hFirst : SetUp fuel deviceId call.firmware call.garbage err i915)
    (hRest : ∀ ret ∈ rest, ret.err = 0 ∧ ret.i915 = i915) :
    Truthful deviceId (⟨call, err, i915⟩ :: rest) ↔
      call.Passes ∨ call.Fails ∧ rest = [] := by
  cases hFirst with
  | noAsls known asls =>
      exact truthful_cons_of_fails (.inl asls) enomem_ne_zero rfl hRest
  | unsigned known asls mapped signature =>
      exact truthful_cons_of_fails (.inr ⟨_, mapped, signature⟩) einval_ne_zero rfl hRest
  | noVbt known asls mapped signature located =>
      refine iff_of_false ?_ ?_
      · intro h
        exact (not_truthful_of_empty rfl hRest h).1 rfl
      · rintro (⟨-, opregion, hMapped, -, table, hTable⟩ | ⟨hAsls | hUnsigned, -⟩)
        · cases mapped.symm.trans hMapped
          cases located.symm.trans hTable
        · exact asls hAsls
        · obtain ⟨opregion, hMapped, hUnsigned⟩ := hUnsigned
          cases mapped.symm.trans hMapped
          exact hUnsigned signature
  | parsed known asls mapped signature located parse =>
      refine iff_of_true ?_ (.inl ⟨asls, _, mapped, signature, _, located⟩)
      apply truthful_of_full
      intro ret hRet
      cases List.mem_cons.mp hRet with
      | inl hFirst =>
          rw [hFirst]
          exact ⟨rfl, rfl⟩
      | inr hLater =>
          obtain ⟨hErr, hSame⟩ := hRest ret hLater
          exact ⟨hErr, by rw [hSame]; rfl⟩

/-- The return values of a sequence of calls tell the truth exactly when the
first call passes its checks and finds a VBT, or fails and is the only one. -/
theorem truthful_iff_first_decides {deviceId : Nat} {returns : List Return} {state : Option I915}
    (run : Runs (Called deviceId) none returns state) :
    Truthful deviceId returns ↔ FirstDecides returns := by
  cases runs_cases run with
  | inl hStart =>
      rw [hStart.1]
      exact iff_of_true (truthful_of_full fun ret hRet => absurd hRet List.not_mem_nil) trivial
  | inr hCalls =>
      obtain ⟨first, rest, rfl, -, ⟨fuel, hFirst⟩, hRest⟩ := hCalls
      exact truthful_cons_iff hFirst hRest

/-- Cleared memory in which only the pointer to a mode is left. -/
def readable : Garbage := { zeroed with lfpVbtMode := .target zeroMode }

def noAsls : Firmware := ⟨0, fun _ _ => none⟩

/-- After a call that passes, one that would fail. -/
theorem truthful_after_success :
    ∃ i915, Truthful 0x9A49 [⟨⟨bareFirmware, readable⟩, 0, i915⟩, ⟨⟨noAsls, zeroed⟩, 0, i915⟩] := by
  obtain ⟨i915, hReturns⟩ : ∃ i915, Returns 0x9A49 bareFirmware readable i915 := ⟨_, 1, rfl⟩
  have hFirst : Called 0x9A49 none ⟨⟨bareFirmware, readable⟩, 0, i915⟩ (some i915) :=
    ⟨rfl, hReturns⟩
  have hSecond : Called 0x9A49 (some i915) ⟨⟨noAsls, zeroed⟩, 0, i915⟩ (some i915) :=
    ⟨rfl, 0, rfl⟩
  have hPasses : (Call.mk bareFirmware readable).Passes :=
    ⟨by decide, bareOpregion, rfl, by decide, mailboxTable bareOpregion, rfl⟩
  exact ⟨i915, (truthful_iff_first_decides (.snoc (.single hFirst) hSecond)).mpr (.inl hPasses)⟩

/-- Without an ASLS address the first call fails; the second one returns zero
and has done nothing. -/
theorem second_call_forgets_failure :
    ¬ ∀ returns state, Runs (Called 0x9A49) none returns state → Truthful 0x9A49 returns := by
  intro h
  have hFirst : Called 0x9A49 none ⟨⟨noAsls, zeroed⟩, enomem, ⟨0, none⟩⟩ (some ⟨0, none⟩) :=
    ⟨rfl, 0, rfl⟩
  have hSecond : Called 0x9A49 (some ⟨0, none⟩) ⟨⟨noAsls, zeroed⟩, 0, ⟨0, none⟩⟩ (some ⟨0, none⟩) :=
    ⟨rfl, 0, rfl⟩
  have hTruthful := h _ _ (.snoc (.single hFirst) hSecond)
  have hFull := hTruthful.zero ⟨⟨noAsls, zeroed⟩, 0, ⟨0, none⟩⟩ (List.mem_cons_of_mem _
    List.mem_cons_self) rfl
  cases hFull

end NootedBlue.Opregion
