import Mathlib.Data.List.Induction
import NootedBlue.Ddi.FuncCtl

/-! The splitter that cuts a stream for a panel with several segments. The driver
programs it from its state and reads it back; the overlap of the segments is not cut to
its field before it goes into the register. -/
namespace NootedBlue.Ddi

open Bits

/-- The `splitter` of `struct intel_crtc_state`. -/
structure Splitter where
  enable : Bool
  linkCount : BitVec 8
  pixelOverlap : BitVec 8
  deriving DecidableEq, Repr

/-- What the splitter depends on. -/
structure SplitterDisplay where
  ver : Nat
  alderlakeP : Bool
  pipe : Pipe
  deriving DecidableEq, Repr

/-- `HAS_MSO`. -/
def hasMso (display : SplitterDisplay) : Prop := display.ver ≥ 12

instance (display : SplitterDisplay) : Decidable (hasMso display) :=
  inferInstanceAs (Decidable (_ ≥ _))

/-- `SPLITTER_ENABLE`, `SPLITTER_CONFIGURATION_MASK` and `OVERLAP_PIXELS_MASK`. -/
def splitterEnable : Word := 1 <<< 31
def splitterConfiguration : Field := ⟨25, 2⟩
def overlapPixelsField : Field := ⟨16, 4⟩

/-- `SPLITTER_CONFIGURATION_2_SEGMENT` and `SPLITTER_CONFIGURATION_4_SEGMENT`. -/
def splitterConfiguration2Segment : Word := splitterConfiguration.prep 0
def splitterConfiguration4Segment : Word := splitterConfiguration.prep 1

/-- `OVERLAP_PIXELS`. -/
def overlapPixels (pixels : BitVec 8) : Word := pixels.setWidth 32 <<< 16

/-- The bits that a configuration replaces. -/
def splitterBits : Word := splitterEnable ||| splitterConfiguration.mask ||| overlapPixelsField.mask

def splitterValue (splitter : Splitter) : Word :=
  if splitter.enable then
    splitterEnable ||| overlapPixels splitter.pixelOverlap |||
      (if splitter.linkCount = 2 then splitterConfiguration2Segment
        else splitterConfiguration4Segment)
  else 0

/-- `intel_ddi_mso_configure`, on the value of `ICL_PIPE_DSS_CTL1`. -/
def intelDdiMsoConfigure (display : SplitterDisplay) (dss1 : Word) (splitter : Splitter) : Word :=
  if hasMso display then (dss1 &&& ~~~splitterBits) ||| splitterValue splitter else dss1

/-- The pipes of `intel_ddi_splitter_pipe_mask`. -/
def intelDdiSplitterPipeMask (display : SplitterDisplay) : List Pipe :=
  if display.ver > 20 then [.a, .b, .c, .d]
  else if display.alderlakeP then [.a, .b]
  else [.a]

/-- `intel_ddi_mso_get_config`. -/
def intelDdiMsoGetConfig (display : SplitterDisplay) (dss1 : Word) (splitter : Splitter) :
    Splitter :=
  if hasMso display then
    if HasBit dss1 splitterEnable then
      if display.pipe ∈ intelDdiSplitterPipeMask display then
        { enable := true
          linkCount :=
            if dss1 &&& splitterConfiguration.mask = splitterConfiguration4Segment then 4 else 2
          pixelOverlap := (overlapPixelsField.get dss1).setWidth 8 }
      else { splitter with enable := false }
    else { splitter with enable := false }
  else splitter

/-- What of an overlap lies beyond its field. -/
def spilled (splitter : Splitter) : Word :=
  if splitter.enable then (splitter.pixelOverlap >>> 4).setWidth 32 <<< 20 else 0

def spilledAll (splitters : List Splitter) : Word :=
  splitters.foldl (fun bits splitter => bits ||| spilled splitter) 0

/-- What comes back of a configuration, over what the state had before. -/
def comesBack (display : SplitterDisplay) (splitter prev : Splitter) : Splitter :=
  if splitter.enable ∧ display.pipe ∈ intelDdiSplitterPipeMask display then
    ⟨true, if splitter.linkCount = 2 then 2 else 4, splitter.pixelOverlap &&& 15⟩
  else { prev with enable := false }

/-- A configuration that the register can hold. -/
structure Splitter.Fits (splitter : Splitter) (display : SplitterDisplay) : Prop where
  pipe : display.pipe ∈ intelDdiSplitterPipeMask display
  links : splitter.linkCount = 2 ∨ splitter.linkCount = 4
  overlap : splitter.pixelOverlap < 16

section Splitter

variable {display : SplitterDisplay} {dss1 : Word} {splitter prev : Splitter}

/-- The part of the value that stays in its fields. -/
def splitterFields (splitter : Splitter) : Word :=
  if splitter.enable then
    splitterEnable ||| overlapPixelsField.prep (splitter.pixelOverlap.setWidth 32) |||
      (if splitter.linkCount = 2 then splitterConfiguration2Segment
        else splitterConfiguration4Segment)
  else 0

theorem overlapPixels_split (pixels : BitVec 8) :
    overlapPixels pixels =
      overlapPixelsField.prep (pixels.setWidth 32) ||| (pixels >>> 4).setWidth 32 <<< 20 := by
  apply BitVec.eq_of_getLsbD_eq
  intro i hi
  rw [overlapPixels, overlapPixelsField, BitVec.getLsbD_or, Field.getLsbD_prep (by decide)]
  simp only [BitVec.getLsbD_shiftLeft, BitVec.getLsbD_setWidth, BitVec.getLsbD_ushiftRight, hi,
    decide_true, Bool.true_and]
  by_cases hLow : i < 16
  · have hBelow : i < 20 := by omega
    simp [hLow, hBelow]
  · have hSmall : i - 16 < 32 := by omega
    by_cases hField : i < 20
    · have hInside : 16 ≤ i ∧ i < 16 + 4 := by omega
      simp [hLow, hField, hInside, hSmall]
    · have hOutside : decide (16 ≤ i ∧ i < 16 + 4) = false := decide_eq_false (by omega)
      have hPlace : 4 + (i - 20) = i - 16 := by omega
      have hShifted : i - 20 < 32 := by omega
      rw [hOutside, hPlace]
      simp [hLow, hField, hSmall, hShifted]

theorem splitterValue_split (splitter : Splitter) :
    splitterValue splitter = splitterFields splitter ||| spilled splitter := by
  rw [splitterValue, splitterFields, spilled]
  split
  · rw [overlapPixels_split, ← BitVec.or_assoc, BitVec.or_assoc _ _ (ite _ _ _),
      BitVec.or_comm _ (ite _ _ _), ← BitVec.or_assoc]
  · rfl

theorem prep_and_mask (f : Field) (value : Word) : f.prep value &&& f.mask = f.prep value := by
  rw [Field.prep, BitVec.and_assoc, BitVec.and_self]

/-- What is seen under a mask is seen under a larger one. -/
theorem and_of_within {x mask larger : Word} (h : x &&& mask = x) (hWithin : mask &&& larger = mask) :
    x &&& larger = x := by
  rw [← h, BitVec.and_assoc, hWithin]

theorem splitterFields_and : splitterFields splitter &&& splitterBits = splitterFields splitter := by
  have hOverlap (value : Word) :
      overlapPixelsField.prep value &&& splitterBits = overlapPixelsField.prep value :=
    and_of_within (prep_and_mask _ _) (by decide)
  have hEnable : splitterEnable &&& splitterBits = splitterEnable := by decide
  have hTwo : splitterConfiguration2Segment &&& splitterBits = splitterConfiguration2Segment := by
    decide
  have hFour : splitterConfiguration4Segment &&& splitterBits = splitterConfiguration4Segment := by
    decide
  rw [splitterFields]
  split
  · rw [BitVec.and_or_distrib_right, BitVec.and_or_distrib_right, hEnable, hOverlap]
    split
    · rw [hTwo]
    · rw [hFour]
  · exact BitVec.zero_and

theorem spilled_and : spilled splitter &&& splitterBits = 0 := by
  rw [spilled]
  split
  · apply BitVec.eq_of_getLsbD_eq
    intro i hi
    rw [BitVec.getLsbD_and, BitVec.getLsbD_shiftLeft, BitVec.getLsbD_setWidth,
      BitVec.getLsbD_ushiftRight]
    by_cases hPlace : 20 ≤ i ∧ i < 24
    · have hBits : ∀ i, 20 ≤ i → i < 24 → splitterBits.getLsbD i = false := by decide
      rw [hBits i hPlace.1 hPlace.2, Bool.and_false]
      simp
    · by_cases hLow : i < 20
      · simp [hLow]
      · have hBeyond : splitter.pixelOverlap.getLsbD (4 + (i - 20)) = false :=
          BitVec.getLsbD_of_ge _ _ (by omega)
        simp [hBeyond]
  · exact BitVec.zero_and

theorem word_or_zero (x : Word) : x ||| 0 = x := BitVec.or_zero

theorem word_zero_or (x : Word) : 0 ||| x = x := BitVec.zero_or

/-- A configuration replaces its bits and spills over the others. -/
theorem configure_and (hMso : hasMso display) :
    intelDdiMsoConfigure display dss1 splitter &&& splitterBits = splitterFields splitter := by
  rw [intelDdiMsoConfigure, if_pos hMso, splitterValue_split, BitVec.and_or_distrib_right,
    BitVec.and_or_distrib_right, and_not_and_self, splitterFields_and, spilled_and, word_or_zero,
    word_zero_or]

theorem and_not_of_and {x mask : Word} (h : x &&& mask = x) : x &&& ~~~mask = 0 := by
  rw [← h, BitVec.and_assoc, BitVec.and_not_self]
  exact BitVec.and_zero

theorem and_not_of_disjoint {x mask : Word} (h : x &&& mask = 0) : x &&& ~~~mask = x := by
  apply BitVec.eq_of_getLsbD_eq
  intro i hi
  have hBit : (x.getLsbD i && mask.getLsbD i) = false := by
    rw [← BitVec.getLsbD_and, h]
    exact BitVec.getLsbD_zero
  rw [BitVec.getLsbD_and, BitVec.getLsbD_not, decide_eq_true hi, Bool.true_and]
  cases hx : x.getLsbD i
  · rfl
  · rw [hx, Bool.true_and] at hBit
    rw [hBit]
    rfl

theorem configure_and_not (hMso : hasMso display) :
    intelDdiMsoConfigure display dss1 splitter &&& ~~~splitterBits =
      dss1 &&& ~~~splitterBits ||| spilled splitter := by
  rw [intelDdiMsoConfigure, if_pos hMso, splitterValue_split, BitVec.and_or_distrib_right,
    BitVec.and_or_distrib_right, BitVec.and_assoc, BitVec.and_self,
    and_not_of_and splitterFields_and, and_not_of_disjoint spilled_and, word_zero_or]

/-- What is read back depends on the bits of the splitter only. -/
theorem getConfig_and :
    intelDdiMsoGetConfig display (dss1 &&& splitterBits) prev =
      intelDdiMsoGetConfig display dss1 prev := by
  have hEnable : HasBit (dss1 &&& splitterBits) splitterEnable ↔ HasBit dss1 splitterEnable := by
    rw [HasBit, HasBit, BitVec.and_assoc, show splitterBits &&& splitterEnable = splitterEnable from
      by decide]
  have hLinks : dss1 &&& splitterBits &&& splitterConfiguration.mask =
      dss1 &&& splitterConfiguration.mask := by
    rw [BitVec.and_assoc, show splitterBits &&& splitterConfiguration.mask =
      splitterConfiguration.mask from by decide]
  have hOverlap : overlapPixelsField.get (dss1 &&& splitterBits) = overlapPixelsField.get dss1 := by
    rw [Field.get, Field.get, BitVec.and_assoc, show splitterBits &&& overlapPixelsField.mask =
      overlapPixelsField.mask from by decide]
  simp only [intelDdiMsoGetConfig, hEnable, hLinks, hOverlap]

theorem hasBit_splitterFields : HasBit (splitterFields splitter) splitterEnable ↔
    splitter.enable = true := by
  rw [splitterFields]
  split
  · next hEnable =>
      refine iff_of_true ?_ hEnable
      rw [hasBit_or, hasBit_or]
      exact .inl (.inl (by decide))
  · next hEnable => exact iff_of_false (by decide) hEnable

theorem overlap_splitterFields (hEnable : splitter.enable = true) :
    (overlapPixelsField.get (splitterFields splitter)).setWidth 8 = splitter.pixelOverlap &&& 15 := by
  have hEnableBit : overlapPixelsField.get splitterEnable = 0 := by decide
  have hTwo : overlapPixelsField.get splitterConfiguration2Segment = 0 := by decide
  have hFour : overlapPixelsField.get splitterConfiguration4Segment = 0 := by decide
  have hPixels : overlapPixelsField.get (splitterFields splitter) =
      overlapPixelsField.get (overlapPixelsField.prep (splitter.pixelOverlap.setWidth 32)) := by
    rw [splitterFields, if_pos hEnable, Field.get_or, Field.get_or, hEnableBit, word_zero_or]
    split
    · rw [hTwo, word_or_zero]
    · rw [hFour, word_or_zero]
  have hMask : (15 : BitVec 8).toNat = 2 ^ 4 - 1 := rfl
  rw [hPixels]
  apply BitVec.eq_of_toNat_eq
  rw [BitVec.toNat_setWidth, Field.toNat_get_prep (by decide), BitVec.toNat_and, hMask,
    Nat.and_two_pow_sub_one_eq_mod, BitVec.toNat_setWidth]
  have hSmall : splitter.pixelOverlap.toNat < 256 := splitter.pixelOverlap.isLt
  change splitter.pixelOverlap.toNat % 2 ^ 32 % 2 ^ 4 % 2 ^ 8 = _
  omega

theorem links_splitterFields (hEnable : splitter.enable = true) :
    splitterFields splitter &&& splitterConfiguration.mask = splitterConfiguration4Segment ↔
      splitter.linkCount ≠ 2 := by
  have hEnableBit : splitterEnable &&& splitterConfiguration.mask = 0 := by decide
  have hMasks : (overlapPixelsField.mask : Word) &&& splitterConfiguration.mask = 0 := by decide
  have hPixels (value : Word) :
      overlapPixelsField.prep value &&& splitterConfiguration.mask = 0 := by
    rw [Field.prep, BitVec.and_assoc, hMasks]
    exact BitVec.and_zero
  rw [splitterFields, if_pos hEnable, BitVec.and_or_distrib_right, BitVec.and_or_distrib_right,
    hEnableBit, hPixels]
  split
  · next hTwo => exact iff_of_false (by decide) (not_not.mpr hTwo)
  · next hFour => exact iff_of_true (by decide) hFour

/-- The state after a configuration has been read back. -/
theorem getConfig_splitterFields (hMso : hasMso display) :
    intelDdiMsoGetConfig display (splitterFields splitter) prev =
      comesBack display splitter prev := by
  rw [intelDdiMsoGetConfig, if_pos hMso, comesBack]
  by_cases hEnable : splitter.enable = true
  · rw [if_pos (hasBit_splitterFields.mpr hEnable)]
    by_cases hPipe : display.pipe ∈ intelDdiSplitterPipeMask display
    · have hOn : splitter.enable = true ∧ display.pipe ∈ intelDdiSplitterPipeMask display :=
        ⟨hEnable, hPipe⟩
      rw [if_pos hPipe, if_pos hOn, overlap_splitterFields hEnable]
      by_cases hTwo : splitter.linkCount = 2
      · rw [if_neg (mt (links_splitterFields hEnable).mp (not_not.mpr hTwo)), if_pos hTwo]
      · rw [if_pos ((links_splitterFields hEnable).mpr hTwo), if_neg hTwo]
    · have hOff : ¬ (splitter.enable = true ∧ display.pipe ∈ intelDdiSplitterPipeMask display) :=
        fun h => hPipe h.2
      rw [if_neg hPipe, if_neg hOff]
  · have hOff : ¬ (splitter.enable = true ∧ display.pipe ∈ intelDdiSplitterPipeMask display) :=
      fun h => hEnable h.1
    rw [if_neg (mt hasBit_splitterFields.mp hEnable), if_neg hOff]

/-- The register after some configurations. -/
def configureAll (display : SplitterDisplay) (dss1 : Word) (splitters : List Splitter) : Word :=
  splitters.foldl (intelDdiMsoConfigure display) dss1

theorem configureAll_append (splitters : List Splitter) :
    configureAll display dss1 (splitters ++ [splitter]) =
      intelDdiMsoConfigure display (configureAll display dss1 splitters) splitter := by
  rw [configureAll, List.foldl_append]
  rfl

theorem spilledAll_append (splitters : List Splitter) :
    spilledAll (splitters ++ [splitter]) = spilledAll splitters ||| spilled splitter := by
  rw [spilledAll, List.foldl_append]
  rfl

/-- The bits of others keep what they had and all that was spilled over them. -/
theorem configureAll_and_not (hMso : hasMso display) (splitters : List Splitter) :
    configureAll display dss1 splitters &&& ~~~splitterBits =
      dss1 &&& ~~~splitterBits ||| spilledAll splitters := by
  induction splitters using List.reverseRecOn with
  | nil => exact BitVec.or_zero.symm
  | append_singleton splitters last ih =>
      rw [configureAll_append, configure_and_not hMso, ih, spilledAll_append, BitVec.or_assoc]

theorem spilled_eq_zero_iff :
    spilled splitter = 0 ↔ (splitter.enable = true → splitter.pixelOverlap < 16) := by
  rw [spilled]
  split
  · next hEnable =>
      have hSmall : splitter.pixelOverlap.toNat < 256 := splitter.pixelOverlap.isLt
      rw [← BitVec.toNat_inj, BitVec.toNat_shiftLeft, BitVec.toNat_setWidth,
        BitVec.toNat_ushiftRight, Nat.shiftRight_eq_div_pow, Nat.shiftLeft_eq, BitVec.lt_def,
        forall_prop_of_true hEnable]
      change _ = 0 ↔ _ < 16
      omega
  · next hEnable => exact iff_of_true rfl fun h => absurd h hEnable

/-- A configuration is read back as it was when it fits the register, and the state had
the rest of it already where it is off. -/
theorem comesBack_eq_iff :
    comesBack display splitter prev = splitter ↔
      (splitter.enable = true → splitter.Fits display) ∧
        (splitter.enable = false →
          prev.linkCount = splitter.linkCount ∧ prev.pixelOverlap = splitter.pixelOverlap) := by
  obtain ⟨enable, linkCount, pixelOverlap⟩ := splitter
  cases enable with
  | false => simp [comesBack]
  | true =>
      have hMask : (15 : BitVec 8).toNat = 2 ^ 4 - 1 := rfl
      have hOverlap : pixelOverlap &&& 15 = pixelOverlap ↔ pixelOverlap < 16 := by
        rw [← BitVec.toNat_inj, BitVec.toNat_and, hMask, Nat.and_two_pow_sub_one_eq_mod,
          BitVec.lt_def]
        change _ ↔ _ < 16
        omega
      have hLinks : (if linkCount = 2 then 2 else 4) = linkCount ↔
          linkCount = 2 ∨ linkCount = 4 := by
        split
        · next hTwo => simp [hTwo]
        · next hOther =>
            exact ⟨fun h => .inr h.symm, fun h => (h.resolve_left hOther).symm⟩
      rw [comesBack]
      simp only [true_and, forall_const, reduceCtorEq, false_implies, and_true]
      constructor
      · intro hSame
        split at hSame
        · next hPipe =>
            simp only [Splitter.mk.injEq, true_and, hLinks, hOverlap] at hSame
            exact ⟨hPipe, hSame.1, hSame.2⟩
        · simp at hSame
      · intro hFits
        rw [if_pos hFits.pipe]
        simp only [Splitter.mk.injEq, true_and, hLinks, hOverlap]
        exact ⟨hFits.links, hFits.overlap⟩

/-- However often the splitter has been configured before, what is read back is the last
configuration, just when that one fits the register (or, where it is off, the state had
its numbers already), and the bits of others are as they were just when no
configuration has spilled a bit that was not there. -/
theorem splitter_readBack (display : SplitterDisplay) (hMso : hasMso display) (dss1 : Word)
    (splitters : List Splitter) (last prev : Splitter) :
    let after := configureAll display dss1 (splitters ++ [last])
    (intelDdiMsoGetConfig display after prev = last ↔
      (last.enable = true → last.Fits display) ∧
        (last.enable = false →
          prev.linkCount = last.linkCount ∧ prev.pixelOverlap = last.pixelOverlap)) ∧
      after &&& ~~~splitterBits = dss1 &&& ~~~splitterBits ||| spilledAll (splitters ++ [last]) ∧
      ((∀ splitter ∈ splitters ++ [last], splitter.enable = true → splitter.pixelOverlap < 16) →
        after &&& ~~~splitterBits = dss1 &&& ~~~splitterBits) := by
  have hRead (splitter prev : Splitter) :
      intelDdiMsoGetConfig display (configureAll display dss1 (splitters ++ [splitter])) prev =
        comesBack display splitter prev := by
    rw [configureAll_append, ← getConfig_and, configure_and hMso, getConfig_splitterFields hMso]
  refine ⟨?_, configureAll_and_not hMso _, ?_⟩
  · rw [hRead]
    exact comesBack_eq_iff
  · intro hFit
    have hNone (list : List Splitter) (h : ∀ splitter ∈ list, spilled splitter = 0) :
        spilledAll list = 0 := by
      induction list using List.reverseRecOn with
      | nil => rfl
      | append_singleton list last ih =>
          rw [spilledAll_append, ih fun splitter hMem => h splitter (List.mem_append_left _ hMem),
            h last (List.mem_append_right _ List.mem_cons_self)]
          rfl
    rw [configureAll_and_not hMso, hNone _ fun splitter hMem =>
      spilled_eq_zero_iff.mpr (hFit splitter hMem)]
    exact BitVec.or_zero

/-- An overlap of 16 pixels comes back as none, and lands in a bit that stays. -/
theorem splitter_readBack_sixteen :
    let display : SplitterDisplay := ⟨12, false, .a⟩
    let after := configureAll display 0 ([⟨true, 2, 16⟩] ++ [⟨true, 2, 0⟩])
    intelDdiMsoGetConfig display after ⟨false, 0, 0⟩ = ⟨true, 2, 0⟩ ∧
      after &&& ~~~splitterBits = 1 <<< 20 := by
  obtain ⟨hBack, hOthers, -⟩ := splitter_readBack ⟨12, false, .a⟩ (by decide) 0
    [⟨true, 2, 16⟩] ⟨true, 2, 0⟩ ⟨false, 0, 0⟩
  refine ⟨hBack.mpr ⟨fun _ => ⟨by decide, by decide, by decide⟩, by decide⟩, ?_⟩
  exact hOthers.trans (by decide)

end Splitter

end NootedBlue.Ddi
