import NootedBlue.Dmc.Header

/-! What the rounds of `fixup_dmc_evt` make of the data, in one look at each word. A
control register is never the counter of the handler before it, so that no round
sees what an earlier one has written. -/
namespace NootedBlue.Dmc

open Bits

section Events

variable (display : DmcDisplay) (id : DmcId) (mmioaddr : Nat → Nat) (mmiodata : Nat → Word)

/-- The control register and the counter of one event handler are listed at an index
and the one behind it, and the handler is for the vblank of pipe A. -/
def HandlesVblank (i : Nat) : Prop :=
  isDmcEvtCtlReg display id (mmioaddr i) ∧ isDmcEvtHtpReg display id (mmioaddr (i + 1)) ∧
    mmioaddr i - dmcEvtCtl display id 0 = mmioaddr (i + 1) - dmcEvtHtp display id 0 ∧
    dmcEvtCtlEventId.get (mmiodata i) = eventVblankA

instance (i : Nat) : Decidable (HandlesVblank display id mmioaddr mmiodata i) :=
  inferInstanceAs (Decidable (_ ∧ _))

/-- The main microcontroller of an Alder Lake S does without the handler. -/
def DropsVblank : Prop := display.alderlakeS ∧ id = .main

instance : Decidable (DropsVblank display id) := inferInstanceAs (Decidable (_ ∧ _))

/-- The data of the control register: the handler is dropped, or moved to the delayed
vblank. -/
def vblankCtl (dataCtl : Word) : Word :=
  if DropsVblank display id then 0
  else if display.tigerlake ∨ display.alderlakeS then
    dmcEvtCtlEventId.update dataCtl eventVblankDelayedA
  else dataCtl

/-- The data of the counter. -/
def vblankHtp (dataHtp : Word) : Word := if DropsVblank display id then 0 else dataHtp

/-- The data after the rounds between two indices. -/
def fixedData (start stop i : Nat) : Word :=
  if start ≤ i ∧ i < stop ∧ HandlesVblank display id mmioaddr mmiodata i then
    vblankCtl display id (mmiodata i)
  else if start < i ∧ i ≤ stop ∧ HandlesVblank display id mmioaddr mmiodata (i - 1) then
    vblankHtp display id (mmiodata i)
  else mmiodata i

end Events

section Rounds

variable {display : DmcDisplay} {id : DmcId} {mmioaddr : Nat → Nat} {mmiodata : Nat → Word}

theorem fixupDmcEvt_of_handles {i : Nat} (h : HandlesVblank display id mmioaddr mmiodata i) :
    fixupDmcEvt display id (mmioaddr i) (mmiodata i) (mmioaddr (i + 1)) (mmiodata (i + 1)) =
      (vblankCtl display id (mmiodata i), vblankHtp display id (mmiodata (i + 1))) := by
  obtain ⟨hCtl, hHtp, hSame, hEvent⟩ := h
  have hHandler : isEventHandler display id eventVblankA (mmioaddr i) (mmiodata i) = true := by
    simp [isEventHandler, hCtl, hEvent]
  have hEither : (display.alderlakeS && decide (id = .main)) = decide (DropsVblank display id) := by
    rw [Bool.eq_iff_iff, Bool.and_eq_true, decide_eq_true_eq, decide_eq_true_eq]
    rfl
  simp only [fixupDmcEvt, hCtl, hHtp, hSame, hHandler, hEither, vblankCtl, vblankHtp,
    Bool.not_true, Bool.false_eq_true, if_false, ne_eq, not_true_eq_false, Bool.and_true,
    decide_eq_true_eq, Bool.or_eq_true]
  by_cases hDrops : DropsVblank display id
  · rw [if_pos hDrops, if_pos hDrops, if_pos hDrops]
  · rw [if_neg hDrops, if_neg hDrops, if_neg hDrops]
    split
    · rfl
    · rfl

theorem fixupDmcEvt_of_other {i : Nat} (h : ¬ HandlesVblank display id mmioaddr mmiodata i) :
    fixupDmcEvt display id (mmioaddr i) (mmiodata i) (mmioaddr (i + 1)) (mmiodata (i + 1)) =
      (mmiodata i, mmiodata (i + 1)) := by
  simp only [fixupDmcEvt]
  split
  · rfl
  · next hCtl =>
      split
      · rfl
      · next hHtp =>
          split
          · rfl
          · next hSame =>
              have hHandler : isEventHandler display id eventVblankA (mmioaddr i) (mmiodata i) =
                  false := by
                by_contra hTrue
                simp only [isEventHandler, Bool.not_eq_false, Bool.and_eq_true,
                  decide_eq_true_eq] at hTrue
                simp only [Bool.not_eq_true', Bool.not_eq_false] at hCtl hHtp
                exact h ⟨hCtl, hHtp, not_not.mp hSame, hTrue.2⟩
              simp [hHandler]

/-- A counter is no control register: what is behind a handler is none. -/
theorem HandlesVblank.not_next {i : Nat} (h : HandlesVblank display id mmioaddr mmiodata i)
    (other : Nat → Word) : ¬ HandlesVblank display id mmioaddr other (i + 1) := by
  intro hNext
  have hHtp : mmioaddr (i + 1) < dmcEvtHtp display id dmcEventHandlerCount :=
    of_decide_eq_true (Bool.and_eq_true_iff.mp h.2.1).2
  have hCtl : dmcEvtCtl display id 0 ≤ mmioaddr (i + 1) :=
    of_decide_eq_true (Bool.and_eq_true_iff.mp hNext.1).1
  simp only [dmcEvtHtp, dmcEvtCtl, dmcEventHandlerCount] at hHtp hCtl
  omega

/-- Only the data at the index decides. -/
theorem handlesVblank_congr {other : Nat → Word} {i : Nat} (h : other i = mmiodata i) :
    HandlesVblank display id mmioaddr other i ↔ HandlesVblank display id mmioaddr mmiodata i := by
  simp only [HandlesVblank, h]

theorem fixedData_eq_ctl {start stop i : Nat} (hFrom : start ≤ i) (hTo : i < stop)
    (h : HandlesVblank display id mmioaddr mmiodata i) :
    fixedData display id mmioaddr mmiodata start stop i = vblankCtl display id (mmiodata i) :=
  if_pos ⟨hFrom, hTo, h⟩

theorem fixedData_eq_htp {start stop i : Nat} (hFrom : start ≤ i) (hTo : i < stop)
    (h : HandlesVblank display id mmioaddr mmiodata i) :
    fixedData display id mmioaddr mmiodata start stop (i + 1) =
      vblankHtp display id (mmiodata (i + 1)) := by
  rw [fixedData, if_neg fun hNext => h.not_next mmiodata hNext.2.2]
  exact if_pos ⟨Nat.lt_succ_of_le hFrom, hTo, h⟩

theorem fixedData_eq_self {start stop i : Nat}
    (hHere : start ≤ i → i < stop → ¬ HandlesVblank display id mmioaddr mmiodata i)
    (hBefore : start < i → i ≤ stop → ¬ HandlesVblank display id mmioaddr mmiodata (i - 1)) :
    fixedData display id mmioaddr mmiodata start stop i = mmiodata i := by
  rw [fixedData, if_neg fun h => hHere h.1 h.2.1 h.2.2, if_neg fun h => hBefore h.1 h.2.1 h.2.2]

/-- The data at an index depends on the two words there and before it. -/
theorem fixedData_congr {other : Nat → Word} {from' start stop i : Nat}
    (hHere : other i = mmiodata i)
    (hCtl : HandlesVblank display id mmioaddr mmiodata i → (from' ≤ i ↔ start ≤ i))
    (hHtp : from' < i ∧ HandlesVblank display id mmioaddr other (i - 1) ↔
      start < i ∧ HandlesVblank display id mmioaddr mmiodata (i - 1)) :
    fixedData display id mmioaddr other from' stop i =
      fixedData display id mmioaddr mmiodata start stop i := by
  have hFirst : from' ≤ i ∧ i < stop ∧ HandlesVblank display id mmioaddr other i ↔
      start ≤ i ∧ i < stop ∧ HandlesVblank display id mmioaddr mmiodata i := by
    rw [handlesVblank_congr hHere]
    exact and_congr_left fun h => hCtl h.2
  have hSecond : from' < i ∧ i ≤ stop ∧ HandlesVblank display id mmioaddr other (i - 1) ↔
      start < i ∧ i ≤ stop ∧ HandlesVblank display id mmioaddr mmiodata (i - 1) := by
    rw [and_left_comm, hHtp, and_left_comm]
  simp only [fixedData, hFirst, hSecond, hHere]

/-- Only what is listed up to the last round counts. -/
theorem fixedData_agree {otheraddr : Nat → Nat} {otherdata : Nat → Word} {start stop i : Nat}
    (hAddr : ∀ j ≤ stop, otheraddr j = mmioaddr j) (hData : ∀ j ≤ stop, otherdata j = mmiodata j)
    (hStop : i ≤ stop) :
    fixedData display id otheraddr otherdata start stop i =
      fixedData display id mmioaddr mmiodata start stop i := by
  have hHandles : ∀ j < stop, HandlesVblank display id otheraddr otherdata j ↔
      HandlesVblank display id mmioaddr mmiodata j := by
    intro j hj
    simp only [HandlesVblank, hAddr j (Nat.le_of_lt hj), hAddr (j + 1) hj, hData j (Nat.le_of_lt hj)]
  have hFirst : start ≤ i ∧ i < stop ∧ HandlesVblank display id otheraddr otherdata i ↔
      start ≤ i ∧ i < stop ∧ HandlesVblank display id mmioaddr mmiodata i :=
    and_congr_right fun _ => and_congr_right fun hLt => hHandles i hLt
  have hSecond : start < i ∧ i ≤ stop ∧ HandlesVblank display id otheraddr otherdata (i - 1) ↔
      start < i ∧ i ≤ stop ∧ HandlesVblank display id mmioaddr mmiodata (i - 1) :=
    and_congr_right fun hLt => and_congr_right fun _ => hHandles (i - 1) (by omega)
  simp only [fixedData, hFirst, hSecond, hData i hStop]

/-- One round, and then the rounds behind it. -/
theorem fixedData_step {start stop : Nat} (hStop : start < stop) {ctl htp : Word}
    (hFixed : fixupDmcEvt display id (mmioaddr start) (mmiodata start) (mmioaddr (start + 1))
      (mmiodata (start + 1)) = (ctl, htp)) :
    fixedData display id mmioaddr
        (Function.update (Function.update mmiodata start ctl) (start + 1) htp) (start + 1) stop =
      fixedData display id mmioaddr mmiodata start stop := by
  have hCtl : Function.update (Function.update mmiodata start ctl) (start + 1) htp start = ctl := by
    rw [Function.update_of_ne (Nat.ne_of_lt (Nat.lt_succ_self start)), Function.update_self]
  have hHtp : Function.update (Function.update mmiodata start ctl) (start + 1) htp (start + 1) =
      htp := Function.update_self ..
  have hOther : ∀ i, i ≠ start → i ≠ start + 1 →
      Function.update (Function.update mmiodata start ctl) (start + 1) htp i = mmiodata i := by
    intro i hFirst hSecond
    rw [Function.update_of_ne hSecond, Function.update_of_ne hFirst]
  generalize Function.update (Function.update mmiodata start ctl) (start + 1) htp = fixed at *
  funext i
  by_cases hHandles : HandlesVblank display id mmioaddr mmiodata start
  · rw [fixupDmcEvt_of_handles hHandles] at hFixed
    obtain ⟨rfl, rfl⟩ := Prod.mk.inj hFixed
    by_cases hFirst : i = start
    · subst hFirst
      rw [fixedData_eq_ctl (Nat.le_refl i) hStop hHandles, ← hCtl]
      exact fixedData_eq_self (by omega) (by omega)
    · by_cases hSecond : i = start + 1
      · subst hSecond
        rw [fixedData_eq_htp (Nat.le_refl start) hStop hHandles, ← hHtp]
        exact fixedData_eq_self (fun _ _ => hHandles.not_next fixed) (by omega)
      · have hBehind : start + 1 < i ↔ start < i := by omega
        refine fixedData_congr (hOther i hFirst hSecond) (fun _ => by omega) ?_
        rw [hBehind]
        refine and_congr_right fun hLt => ?_
        by_cases hHtpBefore : i - 1 = start + 1
        · rw [hHtpBefore]
          exact iff_of_false (hHandles.not_next fixed) (hHandles.not_next mmiodata)
        · exact handlesVblank_congr (hOther (i - 1) (by omega) hHtpBefore)
  · rw [fixupDmcEvt_of_other hHandles] at hFixed
    obtain ⟨rfl, rfl⟩ := Prod.mk.inj hFixed
    have hSame : ∀ i, fixed i = mmiodata i := by
      intro i
      by_cases hFirst : i = start
      · rw [hFirst, hCtl]
      · by_cases hSecond : i = start + 1
        · rw [hSecond, hHtp]
        · exact hOther i hFirst hSecond
    obtain rfl : fixed = mmiodata := funext hSame
    have hNot : ∀ j, HandlesVblank display id mmioaddr fixed j → j ≠ start := by
      rintro j hJ rfl
      exact hHandles hJ
    refine fixedData_congr rfl (fun hHere => ?_) (and_congr_left fun hBefore => ?_)
    · have hOff := hNot i hHere
      omega
    · have hOff := hNot (i - 1) hBefore
      omega

/-- The data after all rounds, if they stay inside the arrays. -/
theorem fixups_eq {rounds start : Nat} (h : rounds = 0 ∨ start + rounds < mmioEntries) :
    fixups display id mmioaddr rounds start mmiodata =
      some (fixedData display id mmioaddr mmiodata start (start + rounds)) := by
  induction rounds generalizing start mmiodata with
  | zero =>
      rw [fixups]
      refine congrArg some (funext fun i => (fixedData_eq_self ?_ ?_).symm)
      · omega
      · omega
  | succ rounds ih =>
      have hInside : start + 1 < mmioEntries := by omega
      rw [fixups, if_pos hInside, ih (by omega), ← Nat.add_right_comm]
      exact congrArg some (fixedData_step (by omega) rfl)

end Rounds

end NootedBlue.Dmc
