import Mathlib.Data.List.FinRange
import NootedBlue.Semantics.Bitmap
import NootedBlue.Semantics.Fields

/-! The engines of the device, and the fuses that turn media engines off. A
fuse has a bit for each engine that may be there; an engine that is not there
leaves no bit in the mask of the fuse, and one whose bit is missing leaves no
bit in the mask of the engines. -/
namespace NootedBlue.Engines

open Bits

/-- The engine classes, with the numbers of `RENDER_CLASS` and the others. -/
inductive EngineClass where
  | render
  | videoDecode
  | videoEnhancement
  | copyEngine
  | other
  | compute
  deriving DecidableEq, Repr

namespace EngineClass

def code : EngineClass → Nat
  | render => 0
  | videoDecode => 1
  | videoEnhancement => 2
  | copyEngine => 3
  | other => 4
  | compute => 5

/-- The classes from zero up to `MAX_ENGINE_CLASS`. -/
def all : List EngineClass := [.render, .videoDecode, .videoEnhancement, .copyEngine, .other, .compute]

end EngineClass

/-- The part of `struct engine_info` that says what an engine is. -/
structure EngineInfo where
  classb : EngineClass
  instanceb : Nat
  deriving DecidableEq, Repr

/-- The first of each kind in `enum intel_engine_id`. -/
def rcs0 : Nat := 0
def bcs0 : Nat := 1
def vcs0 : Nat := 10
def vecs0 : Nat := 18
def ccs0 : Nat := 22
def gsc0 : Nat := 26

def i915NumEngines : Nat := 27
def i915MaxVcs : Nat := 8
def i915MaxVecs : Nat := 4
def maxEngineInstance : Nat := 8
def otherGscInstance : Nat := 6

abbrev EngineId := Fin i915NumEngines

/-- `intel_engines`, in the order of the identifiers. -/
def intelEngines (id : EngineId) : EngineInfo :=
  if id < bcs0 then ⟨.render, id - rcs0⟩
  else if id < vcs0 then ⟨.copyEngine, id - bcs0⟩
  else if id < vecs0 then ⟨.videoDecode, id - vcs0⟩
  else if id < ccs0 then ⟨.videoEnhancement, id - vecs0⟩
  else if id < gsc0 then ⟨.compute, id - ccs0⟩
  else ⟨.other, otherGscInstance⟩

/-- `__HAS_ENGINE`. -/
def hasEngine (engineMask : BitVec 32) (id : Nat) : Bool := engineMask.getLsbD id

/-- `mask &= ~BIT(i)`. -/
def clearBit {w : Nat} (mask : BitVec w) (i : Nat) : BitVec w := mask &&& ~~~BitVec.twoPow w i

@[simp] theorem getLsbD_clearBit {w : Nat} (mask : BitVec w) (i j : Nat) :
    (clearBit mask i).getLsbD j = (mask.getLsbD j && decide (i ≠ j)) := by
  unfold clearBit
  rw [BitVec.getLsbD_and, BitVec.getLsbD_not, BitVec.getLsbD_twoPow]
  by_cases hj : j < w
  · by_cases hSame : i = j
    · simp [hj, hSame]
    · simp [hj, hSame]
  · rw [BitVec.getLsbD_of_ge mask j (Nat.not_lt.mp hj), Bool.false_and, Bool.false_and]

/-- `media.ip` of the runtime information. -/
structure IpVersion where
  ver : Nat
  rel : Nat

/-- `IP_VER`. -/
def ipVer (ver rel : Nat) : Nat := ver <<< 8 ||| rel

def IpVersion.full (version : IpVersion) : Nat := ipVer version.ver version.rel

/-- From here on the fuses say which engines are enabled. -/
def enabledFuses : Nat := ipVer 12 55

/-- The part of `struct intel_gt_info` about engines. -/
structure GtInfo where
  engineMask : BitVec 32
  sfcMask : BitVec 8
  vdboxSfcAccess : BitVec 8

/-- `GEN11_GT_VDBOX_DISABLE_MASK`, `GEN11_GT_VEBOX_DISABLE_MASK` and
`XEHP_SFC_ENABLE_MASK`. -/
def gen11GtVdboxDisable : Field := ⟨0, 8⟩
def gen11GtVeboxDisable : Field := ⟨16, 4⟩
def xehpSfcEnable : Field := ⟨24, 4⟩

/-- `VDBOX_MASK` and `VEBOX_MASK`. -/
def vdboxMask (engineMask : BitVec 32) : BitVec 32 := Field.get ⟨vcs0, i915MaxVcs⟩ engineMask
def veboxMask (engineMask : BitVec 32) : BitVec 32 := Field.get ⟨vecs0, i915MaxVecs⟩ engineMask

/-- `gen11_vdbox_has_sfc`. -/
def gen11VdboxHasSfc (mediaVer : Nat) (sfcMask : BitVec 8) (physicalVdbox logicalVdbox : Nat)
    (vdboxMask : BitVec 16) : Bool :=
  if !sfcMask.getLsbD (physicalVdbox / 2) then false
  else if mediaVer ≥ 12 then physicalVdbox % 2 = 0 || !vdboxMask.getLsbD (physicalVdbox - 1)
  else if mediaVer = 11 then logicalVdbox % 2 = 0
  else false

/-- What the loops of `engine_mask_apply_media_fuses` work on. -/
structure FuseState where
  info : GtInfo
  vdboxMask : BitVec 16
  veboxMask : BitVec 16
  logicalVdbox : Nat

/-- One round of the loop over the video decoders. -/
def vdboxRound (mediaVer : Nat) (s : FuseState) (i : Nat) : FuseState :=
  if !hasEngine s.info.engineMask (vcs0 + i) then { s with vdboxMask := clearBit s.vdboxMask i }
  else if !s.vdboxMask.getLsbD i then
    { s with info := { s.info with engineMask := clearBit s.info.engineMask (vcs0 + i) } }
  else
    let sfc := gen11VdboxHasSfc mediaVer s.info.sfcMask i s.logicalVdbox s.vdboxMask
    { s with
      info := { s.info with
        vdboxSfcAccess :=
          if sfc then s.info.vdboxSfcAccess ||| .twoPow 8 i else s.info.vdboxSfcAccess }
      logicalVdbox := s.logicalVdbox + 1 }

/-- One round of the loop over the video enhancers. -/
def veboxRound (s : FuseState) (i : Nat) : FuseState :=
  if !hasEngine s.info.engineMask (vecs0 + i) then { s with veboxMask := clearBit s.veboxMask i }
  else if !s.veboxMask.getLsbD i then
    { s with info := { s.info with engineMask := clearBit s.info.engineMask (vecs0 + i) } }
  else s

/-- The registers that are read: `GEN11_GT_VEBOX_VDBOX_DISABLE` and
`HSW_PAVP_FUSE1`. -/
structure MediaFuses where
  disable : BitVec 32
  fuse1 : BitVec 32

/-- `media_fuse`: the bits of the engines that are enabled. -/
def mediaFuse (version : IpVersion) (fuses : MediaFuses) : BitVec 32 :=
  if version.full < enabledFuses then ~~~fuses.disable else fuses.disable

/-- What the loops start from. -/
def fuseStart (version : IpVersion) (fuses : MediaFuses) (info : GtInfo) : FuseState where
  info := { info with
    sfcMask :=
      if version.full ≥ enabledFuses then (xehpSfcEnable.get fuses.fuse1).setWidth 8 else ~~~0 }
  vdboxMask := (gen11GtVdboxDisable.get (mediaFuse version fuses)).setWidth 16
  veboxMask := (gen11GtVeboxDisable.get (mediaFuse version fuses)).setWidth 16
  logicalVdbox := 0

/-- The loop over the video decoders, and what it ends with. -/
def vdboxLoop (version : IpVersion) (fuses : MediaFuses) (info : GtInfo) : FuseState :=
  (List.range i915MaxVcs).foldl (vdboxRound version.ver) (fuseStart version fuses info)

/-- The loop over the video enhancers behind it. -/
def veboxLoop (version : IpVersion) (fuses : MediaFuses) (info : GtInfo) : FuseState :=
  (List.range i915MaxVecs).foldl veboxRound (vdboxLoop version fuses info)

/-- `engine_mask_apply_media_fuses`. -/
def engineMaskApplyMediaFuses (version : IpVersion) (fuses : MediaFuses) (info : GtInfo) : GtInfo :=
  if version.ver < 11 then info else (veboxLoop version fuses info).info

/-! One kind of engines at a time: a mask of engines and a mask of fuses, which
are brought into line bit by bit. -/

section Round

/-- A round of either loop, for the engines from `first` on. -/
def fuseRound (first : Nat) (s : BitVec 32 × BitVec 16) (i : Nat) : BitVec 32 × BitVec 16 :=
  if !hasEngine s.1 (first + i) then (s.1, clearBit s.2 i)
  else if !s.2.getLsbD i then (clearBit s.1 (first + i), s.2)
  else s

variable {first count : Nat} {s : BitVec 32 × BitVec 16}

/-- Only the bits of the round change, to what both masks had. -/
theorem getLsbD_fuseRound (i j : Nat) :
    (fuseRound first s i).1.getLsbD j = (s.1.getLsbD j && (decide (first + i ≠ j) || s.2.getLsbD i)) ∧
      (fuseRound first s i).2.getLsbD j =
        (s.2.getLsbD j && (decide (i ≠ j) || s.1.getLsbD (first + i))) := by
  unfold fuseRound hasEngine
  cases hEngine : s.1.getLsbD (first + i) with
  | false =>
      by_cases hSame : first + i = j
      · simp [← hSame, hEngine]
      · simp [hSame]
  | true =>
      cases hFuse : s.2.getLsbD i with
      | false =>
          by_cases hSame : i = j
          · simp [← hSame, hFuse]
          · simp [hSame]
      | true => simp

/-- The masks after the rounds of one kind of engines. -/
structure Aligned (first count : Nat) (before after : BitVec 32 × BitVec 16) : Prop where
  engine : ∀ i < count,
    after.1.getLsbD (first + i) = (before.1.getLsbD (first + i) && before.2.getLsbD i)
  fuse : ∀ i < count, after.2.getLsbD i = (before.1.getLsbD (first + i) && before.2.getLsbD i)
  engineElse : ∀ j, j < first ∨ first + count ≤ j → after.1.getLsbD j = before.1.getLsbD j
  fuseElse : ∀ i, count ≤ i → after.2.getLsbD i = before.2.getLsbD i

theorem aligned_foldl (count : Nat) :
    Aligned first count s ((List.range count).foldl (fuseRound first) s) := by
  induction count with
  | zero => exact ⟨fun _ h => absurd h (Nat.not_lt_zero _), fun _ h => absurd h (Nat.not_lt_zero _),
      fun _ _ => rfl, fun _ _ => rfl⟩
  | succ count ih =>
      rw [List.range_succ, List.foldl_append, List.foldl_cons, List.foldl_nil]
      generalize (List.range count).foldl (fuseRound first) s = before at ih ⊢
      constructor
      · intro i hi
        rw [(getLsbD_fuseRound count _).1]
        rcases Nat.lt_succ_iff_lt_or_eq.mp hi with hEarlier | rfl
        · have hNe : count ≠ i := by omega
          simp [hNe, ih.engine i hEarlier]
        · simp [ih.engineElse (first + i) (.inr (Nat.le_refl _)), ih.fuseElse i (Nat.le_refl _)]
      · intro i hi
        rw [(getLsbD_fuseRound count _).2]
        rcases Nat.lt_succ_iff_lt_or_eq.mp hi with hEarlier | rfl
        · have hNe : count ≠ i := by omega
          simp [hNe, ih.fuse i hEarlier]
        · simp [ih.engineElse (first + i) (.inr (Nat.le_refl _)), ih.fuseElse i (Nat.le_refl _),
            Bool.and_comm]
      · intro j hj
        have hNe : first + count ≠ j := by omega
        rw [(getLsbD_fuseRound count _).1, ih.engineElse j (by omega)]
        simp [hNe]
      · intro i hi
        have hNe : count ≠ i := by omega
        rw [(getLsbD_fuseRound count _).2, ih.fuseElse i (by omega)]
        simp [hNe]

/-- A mask of fuses without further bits is the mask of the engines in the end. -/
theorem Aligned.fuse_eq {after : BitVec 32 × BitVec 16} (aligned : Aligned first count s after)
    (hWidth : first + count ≤ 32) (hFuses : ∀ i, count ≤ i → s.2.getLsbD i = false) :
    after.2.setWidth 32 = Field.get ⟨first, count⟩ after.1 := by
  apply BitVec.eq_of_getLsbD_eq
  intro i hi
  rw [Field.getLsbD_get hWidth, BitVec.getLsbD_setWidth, decide_eq_true hi, Bool.true_and]
  by_cases hCount : i < count
  · rw [aligned.fuse i hCount, aligned.engine i hCount, decide_eq_true hCount, Bool.true_and]
  · have hElse := Nat.not_lt.mp hCount
    rw [aligned.fuseElse i hElse, hFuses i hElse, decide_eq_false hCount, Bool.false_and]

end Round

section Applied

variable (version : IpVersion) (fuses : MediaFuses) (info : GtInfo)

/-- The fuse with a number lets its engine be used. -/
def fuseEnables (bit : Nat) : Bool :=
  if version.full < enabledFuses then !fuses.disable.getLsbD bit else fuses.disable.getLsbD bit

/-- The media engines that are left are the ones that were there and are
enabled; the masks of the fuses are in line with them. -/
structure FusesApplied (out : GtInfo) : Prop where
  vcs : ∀ i < i915MaxVcs, hasEngine out.engineMask (vcs0 + i) =
    (hasEngine info.engineMask (vcs0 + i) && fuseEnables version fuses i)
  vecs : ∀ i < i915MaxVecs, hasEngine out.engineMask (vecs0 + i) =
    (hasEngine info.engineMask (vecs0 + i) && fuseEnables version fuses (16 + i))
  others : ∀ id, id < vcs0 ∨ ccs0 ≤ id → hasEngine out.engineMask id = hasEngine info.engineMask id
  vdboxMask : (vdboxLoop version fuses info).vdboxMask.setWidth 32 =
    Engines.vdboxMask (vdboxLoop version fuses info).info.engineMask
  veboxMask : (veboxLoop version fuses info).veboxMask.setWidth 32 = Engines.veboxMask out.engineMask

theorem getLsbD_mediaFuse {bit : Nat} (hBit : bit < 32) :
    (mediaFuse version fuses).getLsbD bit = fuseEnables version fuses bit := by
  unfold mediaFuse fuseEnables
  split
  · rw [BitVec.getLsbD_not, decide_eq_true hBit, Bool.true_and]
  · rfl

theorem vdboxRound_aligned (mediaVer : Nat) (s : FuseState) (i : Nat) :
    ((vdboxRound mediaVer s i).info.engineMask, (vdboxRound mediaVer s i).vdboxMask) =
        fuseRound vcs0 (s.info.engineMask, s.vdboxMask) i ∧
      (vdboxRound mediaVer s i).veboxMask = s.veboxMask := by
  unfold vdboxRound fuseRound
  split
  · exact ⟨rfl, rfl⟩
  · split <;> exact ⟨rfl, rfl⟩

theorem veboxRound_aligned (s : FuseState) (i : Nat) :
    ((veboxRound s i).info.engineMask, (veboxRound s i).veboxMask) =
      fuseRound vecs0 (s.info.engineMask, s.veboxMask) i := by
  unfold veboxRound fuseRound
  split
  · rfl
  · split <;> rfl

theorem vdboxLoop_aligned :
    Aligned vcs0 i915MaxVcs (info.engineMask, (fuseStart version fuses info).vdboxMask)
        ((vdboxLoop version fuses info).info.engineMask, (vdboxLoop version fuses info).vdboxMask) ∧
      (vdboxLoop version fuses info).veboxMask = (fuseStart version fuses info).veboxMask := by
  have hLoop : ∀ (rounds : List Nat) (s : FuseState),
      ((rounds.foldl (vdboxRound version.ver) s).info.engineMask,
          (rounds.foldl (vdboxRound version.ver) s).vdboxMask) =
        rounds.foldl (fuseRound vcs0) (s.info.engineMask, s.vdboxMask) ∧
      (rounds.foldl (vdboxRound version.ver) s).veboxMask = s.veboxMask := by
    intro rounds
    induction rounds with
    | nil => exact fun s => ⟨rfl, rfl⟩
    | cons i rounds ih =>
        intro s
        obtain ⟨hRound, hOther⟩ := vdboxRound_aligned version.ver s i
        rw [List.foldl_cons, List.foldl_cons, ← hRound, ← hOther]
        exact ih _
  obtain ⟨hMasks, hOther⟩ := hLoop (List.range i915MaxVcs) (fuseStart version fuses info)
  refine ⟨?_, hOther⟩
  unfold vdboxLoop
  rw [hMasks]
  exact aligned_foldl i915MaxVcs

theorem veboxLoop_aligned :
    Aligned vecs0 i915MaxVecs
      ((vdboxLoop version fuses info).info.engineMask, (fuseStart version fuses info).veboxMask)
      ((veboxLoop version fuses info).info.engineMask, (veboxLoop version fuses info).veboxMask) := by
  have hLoop : ((veboxLoop version fuses info).info.engineMask,
      (veboxLoop version fuses info).veboxMask) =
        (List.range i915MaxVecs).foldl (fuseRound vecs0)
          ((vdboxLoop version fuses info).info.engineMask, (vdboxLoop version fuses info).veboxMask) :=
    (List.foldl_hom (fun s : FuseState => (s.info.engineMask, s.veboxMask))
      fun s i => (veboxRound_aligned s i).symm).symm
  rw [hLoop, ← (vdboxLoop_aligned version fuses info).2]
  exact aligned_foldl i915MaxVecs

/-- A field of the fuse register, as one of the masks. -/
theorem getLsbD_fuseField {f : Field} (hField : f.low + f.width ≤ 32) (hWidth : f.width ≤ 16) (i : Nat) :
    ((f.get (mediaFuse version fuses)).setWidth 16).getLsbD i =
      (decide (i < f.width) && fuseEnables version fuses (f.low + i)) := by
  rw [BitVec.getLsbD_setWidth, Field.getLsbD_get hField]
  by_cases hi : i < f.width
  · rw [getLsbD_mediaFuse version fuses (by omega), decide_eq_true (show i < 16 by omega), Bool.true_and]
  · simp [hi]

/-- After the fuses a video decoder or enhancer is there exactly when it was
there before and its fuse enables it. -/
theorem media_fuses_applied (hMedia : 11 ≤ version.ver) :
    FusesApplied version fuses info (engineMaskApplyMediaFuses version fuses info) := by
  have hOut : engineMaskApplyMediaFuses version fuses info = (veboxLoop version fuses info).info :=
    if_neg (Nat.not_lt.mpr hMedia)
  have vdbox := (vdboxLoop_aligned version fuses info).1
  have vebox := veboxLoop_aligned version fuses info
  have hVdbox : ∀ i, (fuseStart version fuses info).vdboxMask.getLsbD i =
      (decide (i < i915MaxVcs) && fuseEnables version fuses i) := by
    intro i
    have := getLsbD_fuseField version fuses (show gen11GtVdboxDisable.low + _ ≤ 32 by decide) (by decide) i
    rwa [show gen11GtVdboxDisable.low = 0 from rfl, Nat.zero_add] at this
  have hVebox : ∀ i, (fuseStart version fuses info).veboxMask.getLsbD i =
      (decide (i < i915MaxVecs) && fuseEnables version fuses (16 + i)) :=
    getLsbD_fuseField version fuses (by decide) (by decide)
  rw [hOut]
  constructor
  · intro i hi
    have hEnd : vcs0 + i < vecs0 := Nat.add_lt_add_left hi vcs0
    refine (vebox.engineElse _ (.inl hEnd)).trans ((vdbox.engine i hi).trans ?_)
    rw [hVdbox, decide_eq_true hi, Bool.true_and]
    rfl
  · intro i hi
    have hStart : vcs0 + i915MaxVcs ≤ vecs0 + i := Nat.le_add_right vecs0 i
    refine (vebox.engine i hi).trans ?_
    rw [vdbox.engineElse _ (.inr hStart), hVebox, decide_eq_true hi, Bool.true_and]
    rfl
  · intro id hId
    have hVecs : id < vecs0 ∨ vecs0 + i915MaxVecs ≤ id :=
      hId.imp (fun h => Nat.lt_trans h (by decide)) fun h => h
    have hVcs : id < vcs0 ∨ vcs0 + i915MaxVcs ≤ id :=
      hId.imp (fun h => h) fun h => Nat.le_trans (by decide) h
    exact (vebox.engineElse _ hVecs).trans (vdbox.engineElse _ hVcs)
  · refine vdbox.fuse_eq (by decide) fun i hi => ?_
    rw [hVdbox, decide_eq_false (Nat.not_lt.mpr hi), Bool.false_and]
  · refine vebox.fuse_eq (by decide) fun i hi => ?_
    rw [hVebox, decide_eq_false (Nat.not_lt.mpr hi), Bool.false_and]

end Applied

end NootedBlue.Engines
