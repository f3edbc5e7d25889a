import NootedBlue.Display.Platform
import NootedBlue.Semantics.Fields
import NootedBlue.Semantics.Run
import NootedBlue.Semantics.Transcript

/-! The power states of the display engine. A call asks for states by their bits;
the register takes those that are allowed, the driver remembers them, and from one
display version on it counts how deep the engine slept while DC6 was allowed. -/
namespace NootedBlue.Display

open Interaction Bits Transition

abbrev Word := BitVec 32

/-- `DC_STATE_EN` and `DG1_DMC_DEBUG_DC5_COUNT`. -/
def dcStateEn : Nat := 0x45504
def dmcDebugDc5Count : Nat := 0x134154

/-- What a call does to the world. -/
inductive DcOp where
  | read (reg : Nat)
  | write (reg : Nat) (value : Word)
  deriving DecidableEq, Repr

abbrev DcAnswer : DcOp → Type
  | .read _ => Word
  | .write _ _ => Unit

abbrev DcProgram := Program DcOp DcAnswer

/-- `gen9_dc_mask`. -/
def gen9DcMask (info : DisplayInfo) : Word :=
  let mask : Word := .ofNat 32 dcStateEnUptoDc5
  if info.ver ≥ 12 then
    mask ||| .ofNat 32 (dcStateEnDc3co ||| dcStateEnUptoDc6 ||| dcStateEnDc9)
  else if info.ver = 11 then mask ||| .ofNat 32 (dcStateEnUptoDc6 ||| dcStateEnDc9)
  else if info.geminilake || info.broxton then mask ||| .ofNat 32 dcStateEnDc9
  else mask ||| .ofNat 32 dcStateEnUptoDc6

/-- `allowed_dc_mask`. -/
def allowedDcMask (info : DisplayInfo) (enableDc : Int) : Word :=
  .ofNat 32 (getAllowedDcMask info enableDc)

/-- `dc6_allowed` of `struct intel_dmc`. -/
structure Dc6Allowed where
  dc5Start : Word
  count : Word
  deriving DecidableEq, Repr

/-- What the driver keeps between calls: `dc_state`, and `dc6_allowed`. -/
structure DcDomains where
  dcState : Word
  dc6Allowed : Dc6Allowed
  deriving DecidableEq, Repr

/-- `intel_dmc_update_dc6_allowed_count`. -/
def intelDmcUpdateDc6AllowedCount (info : DisplayInfo) (dc6 : Dc6Allowed) (startTracking : Bool) :
    DcProgram Dc6Allowed :=
  if info.ver < 14 then return dc6
  else do
    let dc5CurCount ← Program.perform (DcOp.read dmcDebugDc5Count)
    return { dc5Start := dc5CurCount
             count := if startTracking then dc6.count
               else dc6.count + (dc5CurCount - dc6.dc5Start) }

/-- One pass of the loop of `gen9_write_dc_state`, with the counts of rewrites and
of rereads. -/
def rewriteOnce (state : Word) : Nat × Nat → DcProgram (Iteration (Nat × Nat) Unit)
  | (rewrites, rereads) => do
      let v ← Program.perform (DcOp.read dcStateEn)
      if v ≠ state then do
        let _ ← Program.perform (DcOp.write dcStateEn state)
        return if rewrites + 1 < 100 then .next (rewrites + 1, 0) else .stop ()
      else return if rereads > 5 then .stop () else .next (rewrites, rereads + 1)

/-- `gen9_write_dc_state`. There are at most 700 passes, whatever is read. -/
def gen9WriteDcState (state : Word) : DcProgram (Option Unit) := do
  let _ ← Program.perform (DcOp.write dcStateEn state)
  loop (rewriteOnce state) 700 (0, 0)

/-- The bit of DC6 is set. -/
def HasDc6 (state : Word) : Prop := state &&& .ofNat 32 dcStateEnUptoDc6 ≠ 0

instance (state : Word) : Decidable (HasDc6 state) := inferInstanceAs (Decidable (_ ≠ _))

/-- The states that a call asks for and may have. -/
def clampState (allowed state : Word) : Word :=
  if state &&& ~~~allowed ≠ 0 then state &&& allowed else state

/-- Entering DC6 starts to count, and leaving it ends the count. -/
def enterDc6 (info : DisplayInfo) (before asked : Word) (dc6 : Dc6Allowed) :
    DcProgram Dc6Allowed :=
  if ¬ HasDc6 before ∧ HasDc6 asked then intelDmcUpdateDc6AllowedCount info dc6 true
  else return dc6

def leaveDc6 (info : DisplayInfo) (before asked : Word) (dc6 : Dc6Allowed) :
    DcProgram Dc6Allowed :=
  if ¬ HasDc6 asked ∧ HasDc6 before then intelDmcUpdateDc6AllowedCount info dc6 false
  else return dc6

/-- `gen9_set_dc_state`. -/
def gen9SetDcState (info : DisplayInfo) (allowed : Word) (domains : DcDomains) (state : Word) :
    DcProgram DcDomains := do
  let asked := clampState allowed state
  let val ← Program.perform (DcOp.read dcStateEn)
  let mask := gen9DcMask info
  let entered ← enterDc6 info domains.dcState asked domains.dc6Allowed
  let _ ← gen9WriteDcState (merge mask val asked)
  let left ← leaveDc6 info domains.dcState asked entered
  return { dcState := merge mask val asked &&& mask, dc6Allowed := left }

/-- The register and what the driver keeps. -/
structure DcEngine where
  register : Word
  domains : DcDomains
  deriving DecidableEq, Repr

/-- A call, with the count of DC5 at the time of the call. -/
structure DcCall where
  state : Word
  dc5Count : Word
  deriving DecidableEq, Repr

/-- A register that behaves as memory, next to a counter of the firmware. -/
def engineWorld (dc5Count register : Word) : (op : DcOp) → DcAnswer op × Word
  | .read reg => (if reg = dcStateEn then register else dc5Count, register)
  | .write reg value => ((), if reg = dcStateEn then value else register)

/-- One call of `gen9_set_dc_state`. -/
def setDcState (info : DisplayInfo) (allowed : Word) (engine : DcEngine) (call : DcCall) :
    DcEngine :=
  let run := (gen9SetDcState info allowed engine.domains call.state).eval
    (engineWorld call.dc5Count) engine.register
  { register := run.2, domains := run.1 }

section Writing

variable {dc5Count : Word}

/-- A pass that reads what was written counts one more reread, until there are
seven. -/
theorem eval_rewriteOnce (state : Word) (rewrites rereads : Nat) :
    (rewriteOnce state (rewrites, rereads)).eval (engineWorld dc5Count) state =
      (if rereads > 5 then .stop () else .next (rewrites, rereads + 1), state) := by
  show ((if state ≠ state then _ else _ : DcProgram (Iteration (Nat × Nat) Unit))).eval _ _ = _
  rw [if_neg (not_not.mpr rfl)]
  rfl

/-- The loop ends after the rereads that are left, by induction on their number. -/
theorem eval_rereads (state : Word) (rewrites : Nat) {left : Nat} (hLeft : left ≤ 6) (fuel : Nat) :
    (loop (rewriteOnce state) (fuel + left + 1) (rewrites, 6 - left)).eval
      (engineWorld dc5Count) state = (some (), state) := by
  induction left with
  | zero =>
      rw [eval_loop_succ, eval_rewriteOnce]
      rfl
  | succ left ih =>
      have hNext : 6 - (left + 1) + 1 = 6 - left := by omega
      rw [eval_loop_succ, eval_rewriteOnce, if_neg (by omega), hNext]
      exact ih (by omega)

/-- A register that behaves as memory takes what is written. -/
theorem eval_gen9WriteDcState (state register : Word) :
    (gen9WriteDcState state).eval (engineWorld dc5Count) register = (some (), state) :=
  eval_rereads state 0 (Nat.le_refl 6) 693

end Writing

/-- What a call asks for and may have. -/
theorem clampState_eq (allowed state : Word) : clampState allowed state = state &&& allowed := by
  rw [clampState]
  split
  next => rfl
  next hNone =>
    apply BitVec.eq_of_getLsbD_eq
    intro i hi
    have hBit := congrArg (fun v : Word => v.getLsbD i) (not_not.mp hNone)
    simp only [BitVec.getLsbD_and, BitVec.getLsbD_not, hi, decide_true, Bool.true_and] at hBit
    rw [BitVec.getLsbD_and]
    revert hBit
    cases state.getLsbD i <;> cases allowed.getLsbD i <;> simp

section Counting

variable {dc5Count : Word}

theorem eval_update (info : DisplayInfo) (dc6 : Dc6Allowed) (startTracking : Bool)
    (register : Word) :
    (intelDmcUpdateDc6AllowedCount info dc6 startTracking).eval (engineWorld dc5Count) register =
      (if info.ver < 14 then dc6
        else { dc5Start := dc5Count
               count := if startTracking then dc6.count
                 else dc6.count + (dc5Count - dc6.dc5Start) }, register) := by
  rw [intelDmcUpdateDc6AllowedCount]
  split
  · rfl
  · rfl

/-- What a call that enters DC6 does to the counts. -/
def entered (info : DisplayInfo) (before asked : Word) (dc6 : Dc6Allowed) (dc5Count : Word) :
    Dc6Allowed :=
  if 14 ≤ info.ver ∧ ¬ HasDc6 before ∧ HasDc6 asked then { dc6 with dc5Start := dc5Count } else dc6

/-- What a call that leaves DC6 does to the counts. -/
def left (info : DisplayInfo) (before asked : Word) (dc6 : Dc6Allowed) (dc5Count : Word) :
    Dc6Allowed :=
  if 14 ≤ info.ver ∧ ¬ HasDc6 asked ∧ HasDc6 before then
    { dc5Start := dc5Count, count := dc6.count + (dc5Count - dc6.dc5Start) }
  else dc6

theorem eval_enterDc6 (info : DisplayInfo) (before asked : Word) (dc6 : Dc6Allowed)
    (register : Word) :
    (enterDc6 info before asked dc6).eval (engineWorld dc5Count) register =
      (entered info before asked dc6 dc5Count, register) := by
  rw [enterDc6, entered]
  by_cases hEnter : ¬ HasDc6 before ∧ HasDc6 asked
  · rw [if_pos hEnter, eval_update]
    by_cases hVer : info.ver < 14
    · rw [if_pos hVer, if_neg fun h => Nat.not_lt.mpr h.1 hVer]
    · have hAll : 14 ≤ info.ver ∧ ¬ HasDc6 before ∧ HasDc6 asked := ⟨Nat.not_lt.mp hVer, hEnter⟩
      rw [if_neg hVer, if_pos hAll]
      rfl
  · rw [if_neg hEnter, if_neg fun h => hEnter h.2]
    rfl

theorem eval_leaveDc6 (info : DisplayInfo) (before asked : Word) (dc6 : Dc6Allowed)
    (register : Word) :
    (leaveDc6 info before asked dc6).eval (engineWorld dc5Count) register =
      (left info before asked dc6 dc5Count, register) := by
  rw [leaveDc6, left]
  by_cases hLeave : ¬ HasDc6 asked ∧ HasDc6 before
  · rw [if_pos hLeave, eval_update]
    by_cases hVer : info.ver < 14
    · rw [if_pos hVer, if_neg fun h => Nat.not_lt.mpr h.1 hVer]
    · have hAll : 14 ≤ info.ver ∧ ¬ HasDc6 asked ∧ HasDc6 before := ⟨Nat.not_lt.mp hVer, hLeave⟩
      rw [if_neg hVer, if_pos hAll]
      rfl
  · rw [if_neg hLeave, if_neg fun h => hLeave h.2]
    rfl

end Counting

/-- One call, without the loop. -/
theorem setDcState_eq (info : DisplayInfo) (allowed : Word) (engine : DcEngine) (call : DcCall) :
    setDcState info allowed engine call =
      let before := engine.domains.dcState
      let asked := call.state &&& allowed
      let val := merge (gen9DcMask info) engine.register asked
      { register := val
        domains :=
          { dcState := val &&& gen9DcMask info
            dc6Allowed := left info before asked
              (entered info before asked engine.domains.dc6Allowed call.dc5Count)
              call.dc5Count } } := by
  have hRun : (gen9SetDcState info allowed engine.domains call.state).eval
      (engineWorld call.dc5Count) engine.register =
      (({ dcState := merge (gen9DcMask info) engine.register (clampState allowed call.state) &&&
            gen9DcMask info
          dc6Allowed := left info engine.domains.dcState (clampState allowed call.state)
            (entered info engine.domains.dcState (clampState allowed call.state)
              engine.domains.dc6Allowed call.dc5Count) call.dc5Count } : DcDomains),
        merge (gen9DcMask info) engine.register (clampState allowed call.state)) := by
    show ((enterDc6 info _ _ _) >>= _).eval _ engine.register = _
    rw [Program.eval_bind, eval_enterDc6, Program.eval_bind, eval_gen9WriteDcState,
      Program.eval_bind, eval_leaveDc6]
    rfl
  rw [setDcState, hRun, clampState_eq]

section Ladders

variable {info : DisplayInfo}

/-- The platforms of the tables: the discrete cards are of version 12 or more, and
the low-power platforms below 11. -/
structure AsInTables (info : DisplayInfo) : Prop where
  ver : 9 ≤ info.ver
  discrete : (info.dg1 || info.dg2) = true → 12 ≤ info.ver
  lowPower : (info.geminilake || info.broxton) = true → info.ver < 11

theorem requestedDc_mem (info : DisplayInfo) (enableDc : Int) :
    0 ≤ requestedDc info enableDc ∧ requestedDc info enableDc ≤ maxDc info := by
  have hMax : 0 ≤ maxDc info := by
    rw [maxDc]
    grind
  rw [requestedDc]
  split
  next hIn => exact hIn
  next => exact ⟨hMax, Int.le_refl _⟩

/-- From version 12 on everything is within the mask. -/
theorem allowed_of_ge (hVer : 12 ≤ info.ver) (enableDc : Int) :
    allowedDcMask info enableDc &&& gen9DcMask info = allowedDcMask info enableDc := by
  have hMax : maxDc info ≤ 4 := by
    rw [maxDc]
    grind
  have hDc9 : (info.geminilake || info.broxton || decide (info.ver ≥ 11)) = true := by
    have hGe : 11 ≤ info.ver := by omega
    simp [hGe]
  obtain ⟨hLow, hHigh⟩ := requestedDc_mem info enableDc
  have hMask : gen9DcMask info = 0x4000000B := by
    rw [gen9DcMask, if_pos hVer]
    rfl
  rw [allowedDcMask, getAllowedDcMask, if_pos hDc9, hMask]
  generalize requestedDc info enableDc = requested at hLow hHigh
  obtain rfl | rfl | rfl | rfl | rfl :
      requested = 0 ∨ requested = 1 ∨ requested = 2 ∨ requested = 3 ∨ requested = 4 := by omega
  all_goals decide

/-- Version 11 grants DC6, and DC9 beside it. -/
theorem allowed_of_eq (hTables : AsInTables info) (hVer : info.ver = 11) (enableDc : Int) :
    allowedDcMask info enableDc &&& gen9DcMask info = allowedDcMask info enableDc := by
  have hMax : maxDc info ≤ 2 := by
    have hDiscrete := hTables.discrete
    rw [maxDc]
    grind
  have hDc9 : (info.geminilake || info.broxton || decide (info.ver ≥ 11)) = true := by
    simp [hVer]
  obtain ⟨hLow, hHigh⟩ := requestedDc_mem info enableDc
  have hMask : gen9DcMask info = 0xB := by
    rw [gen9DcMask, if_neg (by omega), if_pos hVer]
    rfl
  rw [allowedDcMask, getAllowedDcMask, if_pos hDc9, hMask]
  generalize requestedDc info enableDc = requested at hLow hHigh
  obtain rfl | rfl | rfl : requested = 0 ∨ requested = 1 ∨ requested = 2 := by omega
  all_goals decide

/-- The low-power platforms grant DC5, and DC9 beside it. -/
theorem allowed_of_lowPower (hTables : AsInTables info) (hVer : info.ver < 11)
    (hLow : (info.geminilake || info.broxton) = true) (enableDc : Int) :
    allowedDcMask info enableDc &&& gen9DcMask info = allowedDcMask info enableDc := by
  have hMax : maxDc info ≤ 1 := by
    have hDiscrete := hTables.discrete
    rw [maxDc]
    grind
  have hDc9 : (info.geminilake || info.broxton || decide (info.ver ≥ 11)) = true := by
    rw [hLow]
    rfl
  obtain ⟨hLeast, hMost⟩ := requestedDc_mem info enableDc
  have hMask : gen9DcMask info = 0x9 := by
    rw [gen9DcMask, if_neg (by omega), if_neg (by omega), if_pos hLow]
    rfl
  rw [allowedDcMask, getAllowedDcMask, if_pos hDc9, hMask]
  generalize requestedDc info enableDc = requested at hLeast hMost
  obtain rfl | rfl : requested = 0 ∨ requested = 1 := by omega
  all_goals decide

/-- The others of version 9 and 10 grant DC6 and no DC9. -/
theorem allowed_of_lt (hTables : AsInTables info) (hVer : info.ver < 11)
    (hLow : (info.geminilake || info.broxton) = false) (enableDc : Int) :
    allowedDcMask info enableDc &&& gen9DcMask info = allowedDcMask info enableDc := by
  have hMax : maxDc info ≤ 2 := by
    have hDiscrete := hTables.discrete
    rw [maxDc]
    grind
  have hDc9 : (info.geminilake || info.broxton || decide (info.ver ≥ 11)) ≠ true := by
    have hNot : ¬ 11 ≤ info.ver := by omega
    simp [hLow, hNot]
  obtain ⟨hLeast, hMost⟩ := requestedDc_mem info enableDc
  have hMask : gen9DcMask info = 0x3 := by
    rw [gen9DcMask, if_neg (by omega), if_neg (by omega), hLow, if_neg (by decide)]
    rfl
  rw [allowedDcMask, getAllowedDcMask, if_neg hDc9, hMask]
  generalize requestedDc info enableDc = requested at hLeast hMost
  obtain rfl | rfl | rfl : requested = 0 ∨ requested = 1 ∨ requested = 2 := by omega
  all_goals decide

end Ladders

/-- What is allowed is within the mask of the platform: the two ladders agree on
every rung. -/
theorem allowedDcMask_and (info : DisplayInfo) (hTables : AsInTables info) (enableDc : Int) :
    allowedDcMask info enableDc &&& gen9DcMask info = allowedDcMask info enableDc := by
  by_cases hGe : 12 ≤ info.ver
  · exact allowed_of_ge hGe enableDc
  · by_cases hEq : info.ver = 11
    · exact allowed_of_eq hTables hEq enableDc
    · cases hLow : info.geminilake || info.broxton with
      | true => exact allowed_of_lowPower hTables (by omega) hLow enableDc
      | false => exact allowed_of_lt hTables (by omega) hLow enableDc

section Runs

/-- The count of DC5 at the entry into DC6 that has no leave yet, after a call. -/
def entryAfter (allowed : Word) (entry : Option Word) (call : DcCall) : Option Word :=
  if HasDc6 (call.state &&& allowed) then some (entry.getD call.dc5Count) else none

/-- How far DC5 was counted between a leave of DC6 and its entry. -/
def countedSince (allowed : Word) (entry : Option Word) (call : DcCall) : Word :=
  match entry with
  | none => 0
  | some start => if HasDc6 (call.state &&& allowed) then 0 else call.dc5Count - start

/-- A call beside the entry into DC6 that it may match. -/
def nextCall (info : DisplayInfo) (allowed : Word) (before : DcEngine × Option Word)
    (call : DcCall) : DcEngine × Option Word :=
  (setDcState info allowed before.1 call, entryAfter allowed before.2 call)

/-- What a call promises, in a run that began with this register. -/
structure DcKept (info : DisplayInfo) (allowed register : Word) (before : DcEngine × Option Word)
    (call : DcCall) : Prop where
  outside : (setDcState info allowed before.1 call).register &&& ~~~gen9DcMask info =
    register &&& ~~~gen9DcMask info
  inside : (setDcState info allowed before.1 call).register &&& gen9DcMask info =
    call.state &&& allowed
  cached : (setDcState info allowed before.1 call).domains.dcState =
    (setDcState info allowed before.1 call).register &&& gen9DcMask info
  counted : 14 ≤ info.ver →
    (setDcState info allowed before.1 call).domains.dc6Allowed.count =
      before.1.domains.dc6Allowed.count + countedSince allowed before.2 call

/-- The invariant of a run: what is outside of the mask is as it was at first, and an
entry into DC6 without a leave is remembered by the state and by the count. -/
structure DcInvariant (info : DisplayInfo) (register : Word) (before : DcEngine × Option Word) :
    Prop where
  outside : before.1.register &&& ~~~gen9DcMask info = register &&& ~~~gen9DcMask info
  entered_iff : before.2.isSome ↔ HasDc6 before.1.domains.dcState
  start : 14 ≤ info.ver → ∀ start, before.2 = some start →
    before.1.domains.dc6Allowed.dc5Start = start

variable {info : DisplayInfo} {allowed register : Word} {before : DcEngine × Option Word}

/-- The count grows by what was counted since the entry. -/
theorem count_left {before : Word} {entry : Option Word} {dc6 : Dc6Allowed} {call : DcCall}
    (hVer : 14 ≤ info.ver) (hEntered : entry.isSome ↔ HasDc6 before)
    (hStart : ∀ start, entry = some start → dc6.dc5Start = start) :
    (left info before (call.state &&& allowed)
        (entered info before (call.state &&& allowed) dc6 call.dc5Count) call.dc5Count).count =
      dc6.count + countedSince allowed entry call := by
  cases entry with
  | none =>
      have hOff : ¬ HasDc6 before := fun hOn => by simpa using hEntered.mpr hOn
      rw [left, if_neg fun h => hOff h.2.2, countedSince, entered]
      split
      · exact (BitVec.add_zero _).symm
      · exact (BitVec.add_zero _).symm
  | some start =>
      have hOn : HasDc6 before := hEntered.mp rfl
      rw [entered, if_neg fun h => h.2.1 hOn, left, hStart start rfl]
      by_cases hAsked : HasDc6 (call.state &&& allowed)
      · rw [if_neg fun h => h.2.1 hAsked]
        simp [countedSince, hAsked]
      · rw [if_pos ⟨hVer, hAsked, hOn⟩]
        simp [countedSince, hAsked]

/-- While DC6 is on, the count of its entry is kept. -/
theorem start_left {before asked dc5Count : Word} {entry : Option Word} {dc6 : Dc6Allowed}
    (hVer : 14 ≤ info.ver) (hEntered : entry.isSome ↔ HasDc6 before)
    (hStart : ∀ start, entry = some start → dc6.dc5Start = start) {start : Word}
    (hEntry : (if HasDc6 asked then some (entry.getD dc5Count) else none) = some start) :
    (left info before asked (entered info before asked dc6 dc5Count) dc5Count).dc5Start =
      start := by
  by_cases hAsked : HasDc6 asked
  · rw [if_pos hAsked] at hEntry
    rw [left, if_neg fun h => h.2.1 hAsked]
    cases entry with
    | none =>
        have hOff : ¬ HasDc6 before := fun hOn => by simpa using hEntered.mpr hOn
        rw [entered, if_pos ⟨hVer, hOff, hAsked⟩]
        exact Option.some.inj hEntry
    | some first =>
        have hOn : HasDc6 before := hEntered.mp rfl
        rw [entered, if_neg fun h => h.2.1 hOn, hStart first rfl]
        exact Option.some.inj hEntry
  · rw [if_neg hAsked] at hEntry
    cases hEntry

/-- One call keeps its promise and the invariant. -/
theorem DcInvariant.step (hAllowed : allowed &&& gen9DcMask info = allowed)
    (h : DcInvariant info register before) (call : DcCall) :
    DcKept info allowed register before call ∧
      DcInvariant info register (nextCall info allowed before call) := by
  obtain ⟨engine, entry⟩ := before
  have hAsked : call.state &&& allowed &&& gen9DcMask info = call.state &&& allowed := by
    rw [BitVec.and_assoc, hAllowed]
  have hOutside : merge (gen9DcMask info) engine.register (call.state &&& allowed) &&&
      ~~~gen9DcMask info = register &&& ~~~gen9DcMask info :=
    (merge_and_not_mask hAsked).trans h.outside
  constructor
  · refine ⟨?_, ?_, ?_, ?_⟩
    · rw [setDcState_eq]
      exact hOutside
    · rw [setDcState_eq]
      exact merge_and_mask hAsked
    · rw [setDcState_eq]
    · intro hVer
      rw [setDcState_eq]
      exact count_left hVer h.entered_iff (h.start hVer)
  · refine ⟨?_, ?_, ?_⟩
    · rw [nextCall, setDcState_eq]
      exact hOutside
    · rw [nextCall, setDcState_eq]
      simp only [entryAfter, merge_and_mask hAsked]
      split
      next hOn => simp [hOn]
      next hOff => simp [hOff]
    · intro hVer start hEntry
      rw [nextCall, setDcState_eq]
      exact start_left hVer h.entered_iff (h.start hVer) hEntry

/-- Every run from a state without DC6 keeps the promise at every call. -/
theorem dcState_kept (info : DisplayInfo) (hTables : AsInTables info) (enableDc : Int)
    (register : Word) (dc6 : Dc6Allowed) (calls : List DcCall) :
    Along (nextCall info (allowedDcMask info enableDc))
      (DcKept info (allowedDcMask info enableDc) register)
      ({ register, domains := { dcState := 0, dc6Allowed := dc6 } }, none) calls := by
  apply along_of_invariant (DcInvariant info register)
  · intro before call h
    exact h.step (allowedDcMask_and info hTables enableDc) call
  · exact {
      outside := rfl
      entered_iff := by simp [HasDc6]
      start := fun _ start hEntry => by cases hEntry }

/-- A run that enters DC6, stays there and leaves it. -/
theorem dcState_kept_dc6 :
    Along (nextCall { ver := 14 } (allowedDcMask { ver := 14 } (-1)))
      (DcKept { ver := 14 } (allowedDcMask { ver := 14 } (-1)) 0x10)
      ({ register := 0x10, domains := { dcState := 0, dc6Allowed := ⟨0, 0⟩ } }, none)
      [⟨2, 5⟩, ⟨0x4000000A, 6⟩, ⟨0, 9⟩] :=
  dcState_kept { ver := 14 } ⟨by decide, by decide, by decide⟩ (-1) 0x10 ⟨0, 0⟩
    [⟨2, 5⟩, ⟨0x4000000A, 6⟩, ⟨0, 9⟩]

end Runs

end NootedBlue.Display
