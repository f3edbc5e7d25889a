import Mathlib.Logic.Basic
import Mathlib.Logic.Function.Basic
import NootedBlue.Guc.Firmware
import NootedBlue.Semantics.Program

/-! Where the GuC gets its part of WOPCM. Locked registers are left alone, and so is what
the driver remembers of them; otherwise a part is computed, remembered and programmed.
Nothing looks at the size of the firmware. -/
namespace NootedBlue.Guc

open Interaction

/-- What the call does to the world. -/
inductive WopcmOp where
  | read (reg : Nat)
  | write (reg : Nat) (value : Word)
  deriving DecidableEq, Repr

abbrev WopcmAnswer : WopcmOp → Type
  | .read _ => Word
  | .write _ _ => Unit

abbrev WopcmProgram := Program WopcmOp WopcmAnswer

def gucShimControl2 : Nat := 0xc068

/-- `GUC_IS_PRIVILEGED`. -/
def gucIsPrivileged : Word := 1 <<< 29

/-- `GUC_WOPCM_SIZE_LOCKED` and `GUC_WOPCM_OFFSET_VALID` are the same bit. -/
def gucWopcmLocked : Word := 1

/-- `MAX_WOPCM_SIZE`. -/
def maxWopcmSize : Word := 0x800000

def e2Big : Int := 7
def eInval : Int := 22

/-- `intel_uncore_write_and_verify`. -/
def intelUncoreWriteAndVerify (reg : Nat) (val mask expectedVal : Word) : WopcmProgram Int := do
  let _ ← Program.perform (WopcmOp.write reg val)
  let regVal ← Program.perform (WopcmOp.read reg)
  return if regVal &&& mask ≠ expectedVal then -eInval else 0

/-- `uc_init_wopcm`. -/
def ucInitWopcm (guc : GucWopcm) : WopcmProgram Int :=
  if guc.base = 0 ∨ guc.size = 0 then return -e2Big
  else do
    let err ← intelUncoreWriteAndVerify gucWopcmSizeReg guc.size
      (gucWopcmSizeMask ||| gucWopcmLocked) (guc.size ||| gucWopcmLocked)
    if err ≠ 0 then return err
    else
      intelUncoreWriteAndVerify dmaGucWopcmOffset guc.base
        (gucWopcmOffsetMask ||| gucWopcmLocked) (guc.base ||| gucWopcmLocked)

/-- `__wopcm_regs_writable`. -/
def wopcmRegsWritable (hasGucDeprivilege : Bool) : WopcmProgram Bool :=
  if hasGucDeprivilege then do
    let shim ← Program.perform (WopcmOp.read gucShimControl2)
    return decide (shim &&& gucIsPrivileged ≠ 0)
  else return true

/-- `intel_wopcm_init`, with the size of WOPCM that it has come to at its end. That and
the result of `uc_init_wopcm` are dropped. -/
def initWopcm (hasGucDeprivilege : Bool) (wopcm : IntelWopcm) (gucFwSize : Nat) :
    WopcmProgram (IntelWopcm × Word) :=
  if gucFwSize = 0 then return (wopcm, wopcm.size)
  else do
    let regBase ← Program.perform (WopcmOp.read dmaGucWopcmOffset)
    let regSize ← Program.perform (WopcmOp.read gucWopcmSizeReg)
    if !regSize.getLsbD 0 || !regBase.getLsbD 0 then do
      let _ ← ucInitWopcm (partition wopcm.size)
      return ({ wopcm with guc := partition wopcm.size }, wopcm.size)
    else do
      let writable ← wopcmRegsWritable hasGucDeprivilege
      return (wopcm, if writable then wopcm.size else maxWopcmSize)

/-- The registers, and what was written to them. -/
structure Programmed where
  registers : Nat → Word
  writes : List (Nat × Word)

/-- Registers that show what they hold, and make of a write whatever they like. -/
def wopcmWorld (react : Nat → Word → (Nat → Word) → Nat → Word) (state : Programmed) :
    (op : WopcmOp) → WopcmAnswer op × Programmed
  | .read reg => (state.registers reg, state)
  | .write reg value =>
      ((), ⟨react reg value state.registers, state.writes ++ [(reg, value)]⟩)

/-- A call, from given contents of the registers. -/
structure WopcmCall where
  hasGucDeprivilege : Bool
  wopcm : IntelWopcm
  gucFwSize : Nat
  registers : Nat → Word

namespace WopcmCall

variable (call : WopcmCall) (react : Nat → Word → (Nat → Word) → Nat → Word)

/-- What the driver remembers, the size of WOPCM, and the registers after the call. -/
def run : (IntelWopcm × Word) × Programmed :=
  (initWopcm call.hasGucDeprivilege call.wopcm call.gucFwSize).eval (wopcmWorld react)
    ⟨call.registers, []⟩

def after : IntelWopcm := (call.run react).1.1
def wopcmSize : Word := (call.run react).1.2
def programmed : Programmed := (call.run react).2

/-- There is a firmware, and the registers are locked and valid after the call. -/
def InUse : Prop :=
  call.gucFwSize ≠ 0 ∧ wopcmRegsLocked (call.programmed react).registers ≠ none

/-- A part that the GuC can use, with so much reserved next to the firmware. -/
structure Partitioned (reserved : Nat) : Prop where
  locked : ∀ region, wopcmRegsLocked call.registers = some region →
    (call.after react).guc = region
  aligned : gucWopcmOffsetAlignment.toNat ∣ (call.after react).guc.base.toNat
  room : (call.after react).guc.base.toNat + (call.after react).guc.size.toNat +
    iclWopcmHwCtxReserved.toNat ≤ (call.wopcmSize react).toNat
  fits : call.gucFwSize + reserved ≤ (call.after react).guc.size.toNat
  programmed : ∀ write ∈ (call.programmed react).writes,
    write = (gucWopcmSizeReg, (call.after react).guc.size) ∨
      write = (dmaGucWopcmOffset, (call.after react).guc.base)

end WopcmCall

section Masks

/-- A mask of the high bits rounds down. -/
theorem toNat_and_high (x : Word) {k : Nat} (hBits : k ≤ 32) :
    (x &&& (BitVec.allOnes 32 <<< k)).toNat = x.toNat / 2 ^ k * 2 ^ k := by
  have hShift : x &&& (BitVec.allOnes 32 <<< k) = (x >>> k) <<< k := by
    apply BitVec.eq_of_getLsbD_eq
    intro i hi
    simp only [BitVec.getLsbD_and, BitVec.getLsbD_shiftLeft, BitVec.getLsbD_ushiftRight,
      BitVec.getLsbD_allOnes, hi, decide_true, Bool.true_and]
    by_cases hLow : i < k
    · simp [hLow]
    · have hSame : k + (i - k) = i := by omega
      have hLess : i - k < 32 := by omega
      simp [hLow, hSame, hLess]
  have hLess : x.toNat / 2 ^ k * 2 ^ k < 2 ^ 32 :=
    Nat.lt_of_le_of_lt (Nat.div_mul_le_self _ _) x.isLt
  rw [hShift, BitVec.toNat_shiftLeft, BitVec.toNat_ushiftRight, Nat.shiftLeft_eq,
    Nat.shiftRight_eq_div_pow, Nat.mod_eq_of_lt hLess]

theorem toNat_and_sizeMask (x : Word) : (x &&& gucWopcmSizeMask).toNat = x.toNat / 4096 * 4096 := by
  have hMask : gucWopcmSizeMask = BitVec.allOnes 32 <<< 12 := by decide
  exact hMask ▸ toNat_and_high x (by decide)

theorem toNat_and_offsetMask (x : Word) :
    (x &&& gucWopcmOffsetMask).toNat = x.toNat / 16384 * 16384 := by
  have hMask : gucWopcmOffsetMask = BitVec.allOnes 32 <<< 14 := by decide
  exact hMask ▸ toNat_and_high x (by decide)

/-- A value under a mask, with one more bit, is seen under the mask with that bit. -/
theorem or_and_or (x mask bit : Word) :
    ((x &&& mask) ||| bit) &&& (mask ||| bit) = (x &&& mask) ||| bit := by
  apply BitVec.eq_of_getLsbD_eq
  intro i _
  simp only [BitVec.getLsbD_and, BitVec.getLsbD_or]
  cases x.getLsbD i <;> cases mask.getLsbD i <;> cases bit.getLsbD i <;> rfl

end Masks

section Partition

variable {wopcmSize : Word}

theorem aligned_reserved : align wopcmReservedSize gucWopcmOffsetAlignment = 0x4000 := by decide

/-- Where the context leaves room, nothing wraps around: the base is the reserved part,
or all the room there is, and the rest is the size. -/
theorem partition_of_le (h : 0x9000 ≤ wopcmSize.toNat) :
    (partition wopcmSize).base.toNat = min 0x4000 (wopcmSize.toNat - 0x9000) ∧
      (partition wopcmSize).size.toNat = (wopcmSize.toNat - 0xD000) / 4096 * 4096 := by
  have hLess := wopcmSize.isLt
  have hRoom : (wopcmSize - iclWopcmHwCtxReserved).toNat = wopcmSize.toNat - 0x9000 :=
    BitVec.toNat_sub_of_le h
  have hReserved : (0x4000 : Word).toNat = 0x4000 := by decide
  rw [partition, aligned_reserved, toNat_and_sizeMask]
  dsimp only
  split
  next hMore =>
    rw [BitVec.lt_def, hRoom, hReserved] at hMore
    rw [BitVec.toNat_sub_of_le (by rw [BitVec.le_def, hRoom, hReserved]; omega), hRoom, hReserved]
    omega
  next hFew =>
    rw [BitVec.lt_def, hRoom, hReserved] at hFew
    rw [BitVec.sub_self, hRoom]
    exact ⟨by omega, by rw [Nat.sub_eq_zero_of_le (by omega)]; rfl⟩

/-- Where it does not, the difference wraps around, and the size is far too large. -/
theorem partition_of_lt (h : wopcmSize.toNat < 0x9000) :
    (partition wopcmSize).base = 0x4000 ∧
      0x9000 ≤ (partition wopcmSize).size.toNat := by
  have hRoom : (wopcmSize - iclWopcmHwCtxReserved).toNat = wopcmSize.toNat + 2 ^ 32 - 0x9000 := by
    have hReserved : iclWopcmHwCtxReserved.toNat = 0x9000 := by decide
    rw [BitVec.toNat_sub, hReserved]
    omega
  have hReserved : (0x4000 : Word).toNat = 0x4000 := by decide
  have hMore : (0x4000 : Word) < wopcmSize - iclWopcmHwCtxReserved := by
    rw [BitVec.lt_def, hRoom, hReserved]
    omega
  rw [partition, aligned_reserved, toNat_and_sizeMask]
  dsimp only
  rw [if_pos hMore, BitVec.toNat_sub_of_le (BitVec.le_of_lt hMore), hRoom, hReserved]
  exact ⟨rfl, by omega⟩

end Partition

section Programming

variable {react : Nat → Word → (Nat → Word) → Nat → Word} {guc : GucWopcm} {state : Programmed}

/-- A part that is empty or begins at zero is not programmed. -/
theorem eval_ucInitWopcm_empty (h : guc.base = 0 ∨ guc.size = 0) :
    (ucInitWopcm guc).eval (wopcmWorld react) state = (-e2Big, state) := by
  rw [ucInitWopcm, if_pos h]
  rfl

theorem writes_writeAndVerify (reg : Nat) (val mask expectedVal : Word) :
    ((intelUncoreWriteAndVerify reg val mask expectedVal).eval (wopcmWorld react) state).2.writes =
      state.writes ++ [(reg, val)] := rfl

/-- Nothing but the part is programmed, whatever the registers make of it. -/
theorem writes_ucInitWopcm (guc : GucWopcm) (state : Programmed) :
    ((ucInitWopcm guc).eval (wopcmWorld react) state).2.writes <+:
      state.writes ++ [(gucWopcmSizeReg, guc.size), (dmaGucWopcmOffset, guc.base)] := by
  rw [ucInitWopcm]
  split
  next => exact List.prefix_append _ _
  next =>
    rw [Program.eval_bind]
    split
    next =>
      refine ⟨[(dmaGucWopcmOffset, guc.base)], ?_⟩
      show state.writes ++ [(gucWopcmSizeReg, guc.size)] ++ [(dmaGucWopcmOffset, guc.base)] = _
      rw [List.append_assoc]
      rfl
    next =>
      rw [writes_writeAndVerify, writes_writeAndVerify, List.append_assoc]
      exact List.prefix_rfl

/-- Registers that keep what is written to them, and lock it. -/
def lock (reg : Nat) (value : Word) (registers : Nat → Word) : Nat → Word :=
  Function.update registers reg (value ||| gucWopcmLocked)

/-- The part that is computed has no bits outside of the masks, so such registers take it. -/
theorem eval_ucInitWopcm_lock {base size : Word} (hBase : base &&& gucWopcmOffsetMask ≠ 0)
    (hSize : size &&& gucWopcmSizeMask ≠ 0) (state : Programmed) :
    wopcmRegsLocked ((ucInitWopcm ⟨base &&& gucWopcmOffsetMask, size &&& gucWopcmSizeMask⟩).eval
      (wopcmWorld lock) state).2.registers ≠ none := by
  have hRegisters : ((ucInitWopcm ⟨base &&& gucWopcmOffsetMask,
      size &&& gucWopcmSizeMask⟩).eval (wopcmWorld lock) state).2.registers =
        Function.update (Function.update state.registers gucWopcmSizeReg
          (size &&& gucWopcmSizeMask ||| gucWopcmLocked)) dmaGucWopcmOffset
          (base &&& gucWopcmOffsetMask ||| gucWopcmLocked) := by
    have hFirst : ((intelUncoreWriteAndVerify gucWopcmSizeReg (size &&& gucWopcmSizeMask)
        (gucWopcmSizeMask ||| gucWopcmLocked)
        (size &&& gucWopcmSizeMask ||| gucWopcmLocked)).eval (wopcmWorld lock) state).1 = 0 := by
      show (if Function.update state.registers gucWopcmSizeReg
        (size &&& gucWopcmSizeMask ||| gucWopcmLocked) gucWopcmSizeReg &&& _ ≠ _ then -eInval
          else 0) = 0
      rw [Function.update_self, or_and_or, if_neg (not_not.mpr rfl)]
    rw [ucInitWopcm, if_neg (not_or.mpr ⟨hBase, hSize⟩), Program.eval_bind, hFirst,
      if_neg (not_not.mpr rfl)]
    rfl
  have hOdd (value : Word) : (value ||| gucWopcmLocked).getLsbD 0 = true := by
    rw [BitVec.getLsbD_or]
    exact Bool.or_true _
  rw [hRegisters, wopcmRegsLocked, Function.update_self,
    Function.update_of_ne (by decide), Function.update_self, hOdd, hOdd]
  exact Option.some_ne_none _

end Programming

namespace WopcmCall

variable {call : WopcmCall} {react : Nat → Word → (Nat → Word) → Nat → Word} {reserved : Nat}

/-- The size of WOPCM that a call comes to where the registers are locked. -/
def limit (call : WopcmCall) : Word :=
  if call.hasGucDeprivilege ∧ call.registers gucShimControl2 &&& gucIsPrivileged = 0 then
    maxWopcmSize
  else call.wopcm.size

theorem eval_wopcmRegsWritable (hasGucDeprivilege : Bool) (state : Programmed) :
    (wopcmRegsWritable hasGucDeprivilege).eval (wopcmWorld react) state =
      (!hasGucDeprivilege ||
        decide (state.registers gucShimControl2 &&& gucIsPrivileged ≠ 0), state) := by
  cases hasGucDeprivilege with
  | false => rfl
  | true => rfl

/-- With a firmware the call goes on from what the two registers hold. -/
theorem run_eq (hFw : call.gucFwSize ≠ 0) :
    call.run react =
      (if !(call.registers gucWopcmSizeReg).getLsbD 0 ||
          !(call.registers dmaGucWopcmOffset).getLsbD 0 then do
        let _ ← ucInitWopcm (partition call.wopcm.size)
        return ({ call.wopcm with guc := partition call.wopcm.size }, call.wopcm.size)
      else do
        let writable ← wopcmRegsWritable call.hasGucDeprivilege
        return (call.wopcm, if writable then call.wopcm.size else maxWopcmSize) :
          WopcmProgram (IntelWopcm × Word)).eval (wopcmWorld react) ⟨call.registers, []⟩ := by
  rw [run, initWopcm, if_neg hFw]
  rfl

/-- Locked registers are left alone. -/
theorem run_of_locked {region : GucWopcm} (hFw : call.gucFwSize ≠ 0)
    (hLocked : wopcmRegsLocked call.registers = some region) :
    call.run react = ((call.wopcm, call.limit), ⟨call.registers, []⟩) := by
  rw [wopcmRegsLocked] at hLocked
  split at hLocked
  next => cases hLocked
  next hBits =>
    rw [run_eq hFw, if_neg hBits, Program.eval_bind, eval_wopcmRegsWritable, limit]
    by_cases hMax : call.hasGucDeprivilege ∧ call.registers gucShimControl2 &&& gucIsPrivileged = 0
    · rw [if_pos hMax, hMax.1, hMax.2]
      rfl
    · rw [if_neg hMax]
      have hWritable : (!call.hasGucDeprivilege ||
          decide (call.registers gucShimControl2 &&& gucIsPrivileged ≠ 0)) = true := by
        by_contra hNot
        simp at hNot
        exact hMax hNot
      rw [hWritable]
      rfl

/-- Other registers get the part that is computed. -/
theorem run_of_unlocked (hFw : call.gucFwSize ≠ 0)
    (hUnlocked : wopcmRegsLocked call.registers = none) :
    call.run react =
      (({ call.wopcm with guc := partition call.wopcm.size }, call.wopcm.size),
        ((ucInitWopcm (partition call.wopcm.size)).eval (wopcmWorld react)
          ⟨call.registers, []⟩).2) := by
  rw [wopcmRegsLocked] at hUnlocked
  split at hUnlocked
  next hBits =>
    rw [run_eq hFw, if_pos hBits, Program.eval_bind]
    rfl
  next => cases hUnlocked

/-- What is remembered is what the model without the writes says. -/
theorem after_eq (call : WopcmCall) (react : Nat → Word → (Nat → Word) → Nat → Word) :
    call.after react = intelWopcmInit call.registers call.wopcm call.gucFwSize := by
  rw [after, intelWopcmInit]
  by_cases hFw : call.gucFwSize = 0
  · rw [if_pos hFw, run, initWopcm, if_pos hFw]
    rfl
  · rw [if_neg hFw]
    cases hLocked : wopcmRegsLocked call.registers with
    | none => rw [run_of_unlocked hFw hLocked]
    | some region => rw [run_of_locked hFw hLocked]

/-- The condition. Of locked registers the driver remembers the right part already;
otherwise the context has room, and the rest is enough for the firmware unless it is
nothing at all. -/
def Fits (call : WopcmCall) (reserved : Nat) : Prop :=
  call.gucFwSize = 0 ∨
  (∃ region, wopcmRegsLocked call.registers = some region ∧ call.wopcm.guc = region ∧
    region.base.toNat + region.size.toNat + iclWopcmHwCtxReserved.toNat ≤ call.limit.toNat ∧
    call.gucFwSize + reserved ≤ region.size.toNat) ∨
  (wopcmRegsLocked call.registers = none ∧ 0x9000 ≤ call.wopcm.size.toNat ∧
    (call.wopcm.size.toNat < 0xE000 ∨
      call.gucFwSize + reserved ≤ (call.wopcm.size.toNat - 0xD000) / 4096 * 4096))

/-- What locked registers say is aligned. -/
theorem locked_aligned {registers : Nat → Word} {region : GucWopcm}
    (h : wopcmRegsLocked registers = some region) :
    gucWopcmOffsetAlignment.toNat ∣ region.base.toNat := by
  rw [wopcmRegsLocked] at h
  split at h
  next => cases h
  next =>
    cases h
    rw [toNat_and_offsetMask]
    exact Nat.dvd_mul_left _ _

/-- A part that is not empty is taken by registers that lock what is written. -/
theorem inUse_lock (hFw : call.gucFwSize ≠ 0) (hUnlocked : wopcmRegsLocked call.registers = none)
    (hBase : (partition call.wopcm.size).base = 0x4000)
    (hSize : (partition call.wopcm.size).size ≠ 0) : call.InUse lock := by
  refine ⟨hFw, ?_⟩
  have hMasked : (0x4000 : Word) &&& gucWopcmOffsetMask = 0x4000 := by decide
  have hPart : partition call.wopcm.size =
      ⟨0x4000 &&& gucWopcmOffsetMask, (partition call.wopcm.size).size⟩ := by
    rw [hMasked, ← hBase]
  rw [programmed, run_of_unlocked hFw hUnlocked, hPart]
  exact eval_ucInitWopcm_lock (by decide) hSize _

/-- Where the registers are locked, all depends on what the driver remembers. -/
theorem partitioned_iff_of_locked {region : GucWopcm} (hFw : call.gucFwSize ≠ 0)
    (hLocked : wopcmRegsLocked call.registers = some region) :
    (∀ react, call.InUse react → call.Partitioned react reserved) ↔
      call.wopcm.guc = region ∧
        region.base.toNat + region.size.toNat + iclWopcmHwCtxReserved.toNat ≤ call.limit.toNat ∧
        call.gucFwSize + reserved ≤ region.size.toNat := by
  have hRun (react) := @run_of_locked call react region hFw hLocked
  have hAfter (react) : call.after react = call.wopcm := by rw [after, hRun]
  have hSize (react) : call.wopcmSize react = call.limit := by rw [wopcmSize, hRun]
  have hProgrammed (react) : call.programmed react = ⟨call.registers, []⟩ := by
    rw [programmed, hRun]
  constructor
  · intro hAll
    have hUse : call.InUse lock := by
      refine ⟨hFw, ?_⟩
      rw [hProgrammed, hLocked]
      exact Option.some_ne_none region
    obtain ⟨hRegion, -, hRoom, hFits, -⟩ := hAll lock hUse
    have hSame := hRegion region hLocked
    rw [hSame, hSize] at hRoom
    rw [hSame] at hFits
    rw [hAfter] at hSame
    exact ⟨hSame, hRoom, hFits⟩
  · intro ⟨hSame, hRoom, hFits⟩ react _
    refine { locked := ?_, aligned := ?_, room := ?_, fits := ?_, programmed := ?_ }
    · intro found hFound
      rw [hAfter, hSame]
      exact Option.some.inj (hLocked.symm.trans hFound)
    · rw [hAfter, hSame]
      exact locked_aligned hLocked
    · rw [hAfter, hSame, hSize]
      exact hRoom
    · rw [hAfter, hSame]
      exact hFits
    · rw [hProgrammed]
      exact fun write h => nomatch h

/-- What is left of an unlocked WOPCM behind the reserved part and in front of the context. -/
theorem after_of_unlocked (hFw : call.gucFwSize ≠ 0)
    (hUnlocked : wopcmRegsLocked call.registers = none) (react) :
    (call.after react).guc = partition call.wopcm.size ∧
      call.wopcmSize react = call.wopcm.size := by
  have hRun := @run_of_unlocked call react hFw hUnlocked
  exact ⟨by rw [after, hRun], by rw [wopcmSize, hRun]⟩

/-- Registers that take the writes show that the part is too small, or too near. -/
theorem room_of_partitioned (hFw : call.gucFwSize ≠ 0)
    (hUnlocked : wopcmRegsLocked call.registers = none)
    (hAll : ∀ react, call.InUse react → call.Partitioned react reserved) :
    0x9000 ≤ call.wopcm.size.toNat ∧
      (call.wopcm.size.toNat < 0xE000 ∨
        call.gucFwSize + reserved ≤ (call.wopcm.size.toNat - 0xD000) / 4096 * 4096) := by
  obtain ⟨hAfter, hSame⟩ := after_of_unlocked hFw hUnlocked lock
  have hZero : (0 : Word).toNat = 0 := rfl
  have hPart (hBase : (partition call.wopcm.size).base = 0x4000)
      (hNe : (partition call.wopcm.size).size ≠ 0) : call.Partitioned lock reserved :=
    hAll lock (inUse_lock hFw hUnlocked hBase hNe)
  by_cases hContext : call.wopcm.size.toNat < 0x9000
  · obtain ⟨hBase, hSize⟩ := partition_of_lt hContext
    have hRoom := (hPart hBase fun hNone => by rw [hNone] at hSize; omega).room
    have hReserved : iclWopcmHwCtxReserved.toNat = 0x9000 := by decide
    rw [hAfter, hSame] at hRoom
    omega
  · refine ⟨Nat.not_lt.mp hContext, ?_⟩
    obtain ⟨hBase, hSize⟩ := partition_of_le (Nat.not_lt.mp hContext)
    by_cases hEmpty : call.wopcm.size.toNat < 0xE000
    · exact .inl hEmpty
    · rw [Nat.min_eq_left (by omega)] at hBase
      have hFits := (hPart (BitVec.eq_of_toNat_eq hBase) fun hNone => by
        rw [hNone] at hSize
        omega).fits
      rw [hAfter, hSize] at hFits
      exact .inr hFits

/-- A part with room for the firmware is right, and one of nothing is not in use. -/
theorem partitioned_of_room (hFw : call.gucFwSize ≠ 0)
    (hUnlocked : wopcmRegsLocked call.registers = none) (hContext : 0x9000 ≤ call.wopcm.size.toNat)
    (hEnough : call.wopcm.size.toNat < 0xE000 ∨
      call.gucFwSize + reserved ≤ (call.wopcm.size.toNat - 0xD000) / 4096 * 4096)
    (react) (hInUse : call.InUse react) : call.Partitioned react reserved := by
  have hRun := @run_of_unlocked call react hFw hUnlocked
  obtain ⟨hAfter, hSame⟩ := after_of_unlocked hFw hUnlocked react
  obtain ⟨hBase, hSize⟩ := partition_of_le hContext
  by_cases hEmpty : call.wopcm.size.toNat < 0xE000
  · -- An empty part is not programmed, so the registers are still not locked.
    have hNone : (partition call.wopcm.size).size = 0 := by
      have hZero : (0 : Word).toNat = 0 := rfl
      apply BitVec.eq_of_toNat_eq
      omega
    have hUsed := hInUse.2
    rw [programmed, hRun, eval_ucInitWopcm_empty (.inr hNone)] at hUsed
    exact absurd hUnlocked hUsed
  · rw [Nat.min_eq_left (by omega)] at hBase
    refine { locked := ?_, aligned := ?_, room := ?_, fits := ?_, programmed := ?_ }
    · intro region hRegion
      rw [hUnlocked] at hRegion
      cases hRegion
    · rw [hAfter, hBase]
      decide
    · rw [hAfter, hBase, hSize, hSame]
      show 0x4000 + _ + 0x9000 ≤ _
      omega
    · rw [hAfter, hSize]
      omega
    · intro write hWrite
      rw [programmed, hRun] at hWrite
      have hPair := (writes_ucInitWopcm _ _).subset hWrite
      rw [hAfter]
      simpa using hPair

/-- Otherwise all depends on the size of WOPCM. -/
theorem partitioned_iff_of_unlocked (hFw : call.gucFwSize ≠ 0)
    (hUnlocked : wopcmRegsLocked call.registers = none) :
    (∀ react, call.InUse react → call.Partitioned react reserved) ↔
      0x9000 ≤ call.wopcm.size.toNat ∧
        (call.wopcm.size.toNat < 0xE000 ∨
          call.gucFwSize + reserved ≤ (call.wopcm.size.toNat - 0xD000) / 4096 * 4096) := by
  constructor
  · exact room_of_partitioned hFw hUnlocked
  · rintro ⟨hContext, hEnough⟩ react hInUse
    exact partitioned_of_room hFw hUnlocked hContext hEnough react hInUse

/-- Whatever the registers make of the writes, a part that is in use is right just under
the condition. -/
theorem partitioned_iff (call : WopcmCall) (reserved : Nat) :
    (∀ react, call.InUse react → call.Partitioned react reserved) ↔ call.Fits reserved := by
  rw [Fits]
  by_cases hFw : call.gucFwSize = 0
  · exact iff_of_true (fun react hUse => absurd hFw hUse.1) (.inl hFw)
  · rw [or_iff_right hFw]
    cases hLocked : wopcmRegsLocked call.registers with
    | none =>
        rw [partitioned_iff_of_unlocked hFw hLocked]
        constructor
        · exact fun h => .inr ⟨rfl, h⟩
        · rintro (⟨region, hNone, -⟩ | ⟨-, h⟩)
          · cases hNone
          · exact h
    | some region =>
        rw [partitioned_iff_of_locked hFw hLocked]
        constructor
        · exact fun h => .inl ⟨region, rfl, h⟩
        · rintro (⟨other, hSame, h⟩ | ⟨hNone, -⟩)
          · cases hSame
            exact h
          · cases hNone

end WopcmCall

/-- Registers that the firmware of the machine has locked, to a part behind the reserved
one. -/
def lockedBefore : WopcmCall where
  hasGucDeprivilege := false
  wopcm := freshWopcm
  gucFwSize := 0x40000
  registers reg :=
    if reg = dmaGucWopcmOffset then 0x4001
    else if reg = gucWopcmSizeReg then 0x1F3001
    else 0

/-- They stay in force, and the driver remembers an empty part at zero. -/
theorem locked_not_remembered :
    lockedBefore.InUse lock ∧
      wopcmRegsLocked (lockedBefore.programmed lock).registers = some ⟨0x4000, 0x1F3000⟩ ∧
      (lockedBefore.after lock).guc = ⟨0, 0⟩ ∧ ¬ lockedBefore.Partitioned lock 0 := by
  have hInForce : wopcmRegsLocked (lockedBefore.programmed lock).registers =
      some ⟨0x4000, 0x1F3000⟩ := by decide
  have hEmpty : (lockedBefore.after lock).guc = ⟨0, 0⟩ := by decide
  refine ⟨⟨by decide, by rw [hInForce]; exact Option.some_ne_none _⟩, hInForce, hEmpty, ?_⟩
  intro hRight
  have hLocked := hRight.locked ⟨0x4000, 0x1F3000⟩ (by decide)
  rw [hEmpty] at hLocked
  exact absurd hLocked (by decide)

end NootedBlue.Guc
