import Mathlib.Tactic.SplitIfs
import NootedBlue.Csb.Buffer

/-! Which handler of the driver an entry reaches. The handlers dereference
execlist slots without a check, so each of them relies on what the function
compared before the call. -/
namespace NootedBlue.Csb

open Interaction

/-- The bit of a Gen8 event word that names the action. -/
def Action.eventBit : Action → UInt32
  | .idleToActive => 0x1
  | .preempted => 0x2
  | .elementSwitch => 0x4
  | .activeToIdle => 0x8

/-- The context an action is about: the new one only for idle to active. -/
def Entry.contextId (entry : Entry) : Action → UInt32
  | .idleToActive => entry.to
  | _ => entry.away

/-- What each handler needs of the execlists. A slot without an item, and an
item without a context, never satisfy it. -/
def Entry.Fits (entry : Entry) (lists : Execlists) : Action → Prop
  | .idleToActive => lists.pending0 = .context entry.to
  | .preempted => lists.active0 = .context entry.away ∧ ∃ id, lists.pending0 = .context id
  | .elementSwitch => lists.active0 = .context entry.away ∧ lists.active1 = .context entry.to
  | .activeToIdle => lists.active0 = .context entry.away

/-- The event has exactly the bit of its action, and the context id in the
bits from 5 on, with no bit of it lost. -/
def Synth.Announces (synth : Synth) (action : Action) (id : UInt32) : Prop :=
  synth.events &&& 0xF = action.eventBit ∧ synth.context = id <<< 5 ∧ synth.context >>> 5 = id

/-- One entry makes at most one call, to a handler whose needs are met, with
an event for that handler and the entry's context. -/
def HandlerContract (driver : Driver) (s : Streamer) (entry : Entry) : Prop :=
  ∃ calls, ((handleEntry entry).eval driver.respond s).2.handled = s.handled ++ calls ∧
    calls.length ≤ 1 ∧ ∀ call ∈ calls, entry.Fits s.lists call.1 ∧
      call.2.Announces call.1 (entry.contextId call.1)

/-- The slot holds a context with another id that agrees with `id` in the
sixteen bits the function keeps. -/
def Item.Aliases (item : Item) (id : UInt32) : Prop :=
  ∃ other, item = .context other ∧ other ≠ id ∧ other.toUInt16.toUInt32 = id

/-- The execlists that mislead the function about an entry: a context that
only aliases the id it is compared with, or, for a preemption, a pending item
that has no context. -/
def Entry.Misled (entry : Entry) (lists : Execlists) : Prop :=
  if entry.away = idleId ∧ entry.to = idleId then False
  else if entry.away = idleId then lists.pending0.Aliases entry.to
  else if entry.newQueue then
    (lists.active0.Aliases entry.away ∧ tglCsbItemId lists.pending0 ≠ 0xFFFF) ∨
      (lists.active0 = .context entry.away ∧ lists.pending0 = .noContext)
  else if entry.to ≠ idleId then
    (lists.active0.Aliases entry.away ∧
        (lists.active1 = .context entry.to ∨ lists.active1.Aliases entry.to)) ∨
      (lists.active0 = .context entry.away ∧ lists.active1.Aliases entry.to)
  else lists.active0.Aliases entry.away

theorem and_ids_lt (word : UInt32) : (word &&& 0x7FF).toNat < 0x800 := by
  have h : (word &&& 0x7FF).toNat ≤ 0x7FF := by
    rw [UInt32.toNat_and]
    exact Nat.and_le_right
  omega

theorem Entry.to_lt (entry : Entry) : entry.to.toNat < 0x800 := and_ids_lt _

theorem Entry.away_lt (entry : Entry) : entry.away.toNat < 0x800 := and_ids_lt _

theorem truncate_of_lt {id : UInt32} (hId : id.toNat < 0x800) : id.toUInt16.toUInt32 = id := by
  apply UInt32.toNat_inj.mp
  rw [UInt16.toNat_toUInt32, UInt32.toNat_toUInt16]
  omega

/-- An id of the hardware has eleven bits, so it matches neither sentinel: a
match is a context with that id, or one that agrees in its low sixteen bits. -/
theorem itemId_eq_iff {item : Item} {id : UInt32} (hId : id.toNat < 0x800) :
    (tglCsbItemId item).toUInt32 = id ↔ item = .context id ∨ item.Aliases id := by
  have hBig (word : UInt16) (hWord : 0x800 ≤ word.toNat) : word.toUInt32 ≠ id := by
    intro hEq
    have := congrArg UInt32.toNat hEq
    rw [UInt16.toNat_toUInt32] at this
    omega
  cases item with
  | null => simpa [tglCsbItemId, Item.Aliases] using hBig 0xFFFF (by decide)
  | noContext => simpa [tglCsbItemId, Item.Aliases] using hBig 0xFFFE (by decide)
  | context other =>
      by_cases hOther : other = id
      · subst hOther
        simp [tglCsbItemId, truncate_of_lt hId]
      · simp [tglCsbItemId, Item.Aliases, hOther]

theorem shift_of_lt {id : UInt32} (hId : id.toNat < 0x800) : (id <<< 5) >>> 5 = id := by
  apply UInt32.toNat_inj.mp
  simp only [UInt32.toNat_shiftRight, UInt32.toNat_shiftLeft, Nat.shiftRight_eq_div_pow,
    Nat.shiftLeft_eq]
  have hFive : (5 : UInt32).toNat % 32 = 5 := by decide
  rw [hFive]
  omega

/-- The calls an entry makes, read off its action. -/
def Entry.calls (entry : Entry) (lists : Execlists) : List (Action × Synth) :=
  match entry.action lists with
  | some (action, synth, true) => [(action, synth)]
  | _ => []

theorem handleEntry_handled (driver : Driver) (s : Streamer) (entry : Entry) :
    ((handleEntry entry).eval driver.respond s).2.handled =
      s.handled ++ entry.calls s.lists := by
  have hRun : ((handleEntry entry).eval driver.respond s).2.handled =
      ((callHandler (entry.action s.lists)).eval driver.respond s).2.handled := rfl
  rw [hRun]
  rcases hAction : entry.action s.lists with _ | ⟨action, synth, _ | _⟩
  · simp [Entry.calls, callHandler, hAction]
  · simp [Entry.calls, callHandler, hAction]
  · simp [Entry.calls, callHandler, hAction, access, Program.perform, Driver.respond]

theorem Entry.mem_calls {entry : Entry} {lists : Execlists} {call : Action × Synth} :
    call ∈ entry.calls lists ↔ entry.action lists = some (call.1, call.2, true) := by
  rcases call with ⟨action, synth⟩
  unfold Entry.calls
  split
  · next action' synth' hAction =>
      rw [hAction]
      simp [eq_comm]
  · next hOther =>
      simpa using fun hAction => hOther action synth hAction

/-- The slot holds a context with this id in the sixteen bits that are kept. -/
def Item.Shows (item : Item) (id : UInt32) : Prop :=
  ∃ other, item = .context other ∧ other.toUInt16.toUInt32 = id

/-- What an entry reports of the context that left and of the one that came. -/
inductive Entry.Reports (entry : Entry) : Action → Prop where
  | idleToActive (hAway : entry.away = idleId) (hTo : entry.to ≠ idleId) :
      Reports entry .idleToActive
  | preempted (hAway : entry.away ≠ idleId) (hQueue : entry.newQueue = true) :
      Reports entry .preempted
  | elementSwitch (hAway : entry.away ≠ idleId) (hQueue : entry.newQueue = false)
      (hTo : entry.to ≠ idleId) : Reports entry .elementSwitch
  | activeToIdle (hAway : entry.away ≠ idleId) (hQueue : entry.newQueue = false)
      (hTo : entry.to = idleId) : Reports entry .activeToIdle

/-- The execlists show the contexts of the report. -/
def Entry.Agrees (entry : Entry) (lists : Execlists) : Action → Prop
  | .idleToActive => lists.pending0.Shows entry.to
  | .preempted => lists.active0.Shows entry.away ∧ lists.pending0 ≠ .null ∧
      ¬ lists.pending0.Shows 0xFFFF
  | .elementSwitch => lists.active0.Shows entry.away ∧ lists.active1.Shows entry.to
  | .activeToIdle => lists.active0.Shows entry.away

/-- How the context left, beside the bit of the action. -/
def Entry.manner (entry : Entry) : Action → UInt32
  | .idleToActive => 0
  | .preempted => entry.preemptFlags
  | .elementSwitch => entry.waitOrDone
  | .activeToIdle => entry.waitOrDone

/-- The call that an entry is to make. -/
structure Entry.Asks (entry : Entry) (lists : Execlists) (action : Action) (synth : Synth) :
    Prop where
  reports : entry.Reports action
  agrees : entry.Agrees lists action
  events : synth.events = action.eventBit ||| entry.manner action
  context : synth.context = entry.contextId action <<< 5

theorem shows_iff {item : Item} {id : UInt32} (hId : id.toNat < 0x800) :
    (tglCsbItemId item).toUInt32 = id ↔ item.Shows id := by
  rw [itemId_eq_iff hId]
  constructor
  · rintro (rfl | ⟨other, rfl, -, hOther⟩)
    · exact ⟨id, rfl, truncate_of_lt hId⟩
    · exact ⟨other, rfl, hOther⟩
  · rintro ⟨other, rfl, hOther⟩
    by_cases hSame : other = id
    · exact .inl (by rw [hSame])
    · exact .inr ⟨other, rfl, hSame, hOther⟩

/-- What the check of the pending slot of a preemption lets pass. -/
theorem pending_shows_iff {item : Item} :
    (tglCsbItemId item).toUInt32 ≠ 0xFFFF ↔ item ≠ .null ∧ ¬ item.Shows 0xFFFF := by
  cases item with
  | null => simp [tglCsbItemId]
  | noContext => simp [tglCsbItemId, Item.Shows]
  | context other => simp [tglCsbItemId, Item.Shows]

/-- An entry reports one thing at most. -/
theorem Entry.Reports.unique {entry : Entry} {action other : Action} (h : entry.Reports action)
    (hOther : entry.Reports other) : other = action := by
  cases h with
  | idleToActive hAway =>
      cases hOther with
      | idleToActive => rfl
      | preempted hOff => exact absurd hAway hOff
      | elementSwitch hOff => exact absurd hAway hOff
      | activeToIdle hOff => exact absurd hAway hOff
  | preempted hOff hNew =>
      cases hOther with
      | idleToActive hAway => exact absurd hAway hOff
      | preempted => rfl
      | elementSwitch _ hOld => cases hNew.symm.trans hOld
      | activeToIdle _ hOld => cases hNew.symm.trans hOld
  | elementSwitch hOff hOld hTo =>
      cases hOther with
      | idleToActive hAway => exact absurd hAway hOff
      | preempted _ hNew => cases hNew.symm.trans hOld
      | elementSwitch => rfl
      | activeToIdle _ _ hIdle => exact absurd hIdle hTo
  | activeToIdle hOff hOld hIdle =>
      cases hOther with
      | idleToActive hAway => exact absurd hAway hOff
      | preempted _ hNew => cases hNew.symm.trans hOld
      | elementSwitch _ _ hTo => exact absurd hIdle hTo
      | activeToIdle => rfl

/-- What the code computes for a report is the call that the report asks for. -/
theorem asks_iff {entry : Entry} {lists : Execlists} {reported action : Action}
    {events context : UInt32} {synth : Synth} {fits : Bool} (hReports : entry.Reports reported)
    (hFits : fits = true ↔ entry.Agrees lists reported)
    (hEvents : reported.eventBit ||| entry.manner reported = events)
    (hContext : entry.contextId reported <<< 5 = context) :
    some (reported, (⟨events, context⟩ : Synth), fits) = some (action, synth, true) ↔
      entry.Asks lists action synth := by
  constructor
  · intro hEq
    cases hEq
    exact ⟨hReports, hFits.mp rfl, hEvents.symm, hContext.symm⟩
  · rintro ⟨hAction, hAgrees, hBits, hId⟩
    obtain rfl := hReports.unique hAction
    rw [hFits.mpr hAgrees, ← hEvents, ← hContext, ← hBits, ← hId]

/-- The action of an entry is the call that it is to make. -/
theorem Entry.action_iff {entry : Entry} {lists : Execlists} {action : Action} {synth : Synth} :
    entry.action lists = some (action, synth, true) ↔ entry.Asks lists action synth := by
  unfold Entry.action
  simp only
  split_ifs with hBoth hIdle hQueue hElement
  · constructor
    · intro hEq
      cases hEq
    · rintro ⟨hReports, -, -, -⟩
      cases hReports with
      | idleToActive _ hTo => exact absurd hBoth.2 hTo
      | preempted hAway _ => exact absurd hBoth.1 hAway
      | elementSwitch hAway _ _ => exact absurd hBoth.1 hAway
      | activeToIdle hAway _ _ => exact absurd hBoth.1 hAway
  · have hTo : entry.to ≠ idleId := fun hTo => hBoth ⟨hIdle, hTo⟩
    refine asks_iff (.idleToActive hIdle hTo) ?_ (UInt32.or_zero) rfl
    rw [decide_eq_true_eq]
    exact shows_iff entry.to_lt
  · refine asks_iff (.preempted hIdle hQueue) ?_ rfl rfl
    rw [Bool.and_eq_true, decide_eq_true_eq, decide_eq_true_eq, shows_iff entry.away_lt,
      pending_shows_iff]
    rfl
  · refine asks_iff (.elementSwitch hIdle (Bool.eq_false_iff.mpr hQueue) hElement) ?_ rfl rfl
    rw [Bool.and_eq_true, decide_eq_true_eq, decide_eq_true_eq, shows_iff entry.away_lt,
      shows_iff entry.to_lt]
    rfl
  · refine asks_iff (.activeToIdle hIdle (Bool.eq_false_iff.mpr hQueue) (not_not.mp hElement)) ?_
      rfl rfl
    rw [decide_eq_true_eq]
    exact shows_iff entry.away_lt

/-- Entries decoded one after the other, each with the execlists as the handlers of those
before it left them. One that asks for a handler reaches it, and no other does. -/
inductive Served (driver : Driver) :
    Execlists → List Entry → List (Action × Synth) → Execlists → Prop where
  | nil (lists : Execlists) : Served driver lists [] [] lists
  | handed {lists later : Execlists} {entry : Entry} {rest : List Entry} {action : Action}
      {synth : Synth} {calls : List (Action × Synth)} (hAsks : entry.Asks lists action synth)
      (hRest : Served driver (driver.handler action synth lists) rest calls later) :
      Served driver lists (entry :: rest) ((action, synth) :: calls) later
  | skipped {lists later : Execlists} {entry : Entry} {rest : List Entry}
      {calls : List (Action × Synth)} (hNone : ∀ action synth, ¬ entry.Asks lists action synth)
      (hRest : Served driver lists rest calls later) :
      Served driver lists (entry :: rest) calls later

theorem Served.append {driver : Driver} {lists middle later : Execlists} {first second : List Entry}
    {calls more : List (Action × Synth)} (hFirst : Served driver lists first calls middle)
    (hSecond : Served driver middle second more later) :
    Served driver lists (first ++ second) (calls ++ more) later := by
  induction hFirst with
  | nil lists => exact hSecond
  | handed hAsks _ ih => exact .handed hAsks (ih hSecond)
  | skipped hNone _ ih => exact .skipped hNone (ih hSecond)

/-- All that happened to the execlists and the handlers is that these entries were decoded. -/
def Serves (driver : Driver) (s : Streamer) (decoded : List Entry) (t : Streamer) : Prop :=
  ∃ calls, t.handled = s.handled ++ calls ∧ Served driver s.lists decoded calls t.lists

theorem Serves.append {driver : Driver} {s t u : Streamer} {first second : List Entry}
    (hFirst : Serves driver s first t) (hSecond : Serves driver t second u) :
    Serves driver s (first ++ second) u := by
  obtain ⟨calls, hCalls, hServed⟩ := hFirst
  obtain ⟨more, hMore, hLater⟩ := hSecond
  exact ⟨calls ++ more, by rw [hMore, hCalls, List.append_assoc], hServed.append hLater⟩

/-- Decoding an entry serves it. -/
theorem handleEntry_serves (driver : Driver) (s : Streamer) (entry : Entry) :
    Serves driver s [entry] ((handleEntry entry).eval driver.respond s).2 := by
  have hRun : ((handleEntry entry).eval driver.respond s).2 =
      ((callHandler (entry.action s.lists)).eval driver.respond s).2 := rfl
  rw [hRun]
  rcases hAction : entry.action s.lists with _ | ⟨action, synth, _ | _⟩
  · refine ⟨[], (List.append_nil _).symm, .skipped (fun action synth hAsks => ?_) (.nil _)⟩
    rw [Entry.action_iff.mpr hAsks] at hAction
    cases hAction
  · refine ⟨[], (List.append_nil _).symm, .skipped (fun other event hAsks => ?_) (.nil _)⟩
    rw [Entry.action_iff.mpr hAsks] at hAction
    cases hAction
  · exact ⟨[(action, synth)], rfl, .handed (Entry.action_iff.mp hAction) (.nil _)⟩

/-- The event of every action names that action only and carries its context. -/
theorem Entry.action_announces {entry : Entry} {lists : Execlists} {action : Action}
    {synth : Synth} {fits : Bool} (hAction : entry.action lists = some (action, synth, fits)) :
    synth.Announces action (entry.contextId action) := by
  unfold Entry.action at hAction
  simp only at hAction
  split_ifs at hAction with hIdle hAway hQueue hTo <;> cases hAction
  · refine ⟨?_, rfl, shift_of_lt entry.to_lt⟩
    change (0x1 : UInt32) &&& 0xF = 0x1
    decide
  · refine ⟨?_, rfl, shift_of_lt entry.away_lt⟩
    change (0x2 ||| entry.preemptFlags) &&& 0xF = 0x2
    unfold Entry.preemptFlags
    split_ifs <;> decide
  · refine ⟨?_, rfl, shift_of_lt entry.away_lt⟩
    change (0x4 ||| entry.waitOrDone) &&& 0xF = 0x4
    unfold Entry.waitOrDone
    split_ifs <;> decide
  · refine ⟨?_, rfl, shift_of_lt entry.away_lt⟩
    change (0x8 ||| entry.waitOrDone) &&& 0xF = 0x8
    unfold Entry.waitOrDone
    split_ifs <;> decide

/-- The number of calls and the events never break the contract; only the
comparison with the execlists can. -/
theorem handlerContract_iff (driver : Driver) (s : Streamer) (entry : Entry) :
    HandlerContract driver s entry ↔
      ∀ action synth, entry.action s.lists = some (action, synth, true) →
        entry.Fits s.lists action := by
  unfold HandlerContract
  rw [handleEntry_handled]
  constructor
  · rintro ⟨calls, hCalls, -, hFits⟩ action synth hAction
    rw [← List.append_cancel_left hCalls] at hFits
    exact (hFits (action, synth) (Entry.mem_calls.mpr hAction)).1
  · intro hFits
    refine ⟨entry.calls s.lists, rfl, ?_, ?_⟩
    · unfold Entry.calls
      split <;> simp
    · intro call hCall
      have hAction := Entry.mem_calls.mp hCall
      exact ⟨hFits call.1 call.2 hAction, Entry.action_announces hAction⟩

theorem Item.Aliases.ne {item : Item} {id : UInt32} (h : item.Aliases id) :
    item ≠ .context id := by
  obtain ⟨other, rfl, hNe, -⟩ := h
  simpa using hNe

theorem matched_iff {item : Item} {id : UInt32} (hId : id.toNat < 0x800) :
    ((tglCsbItemId item).toUInt32 = id → item = .context id) ↔ ¬ item.Aliases id := by
  rw [itemId_eq_iff hId]
  constructor
  · intro h hAlias
    exact hAlias.ne (h (.inr hAlias))
  · rintro hAlias (hItem | h)
    · exact hItem
    · exact absurd h hAlias

theorem widen_ne_iff {word : UInt16} : word.toUInt32 ≠ 0xFFFF ↔ word ≠ 0xFFFF := by
  rw [not_iff_not, ← UInt32.toNat_inj, ← UInt16.toNat_inj, UInt16.toNat_toUInt32]
  rfl

/-- The pending slot of a preemption: the check lets a missing context pass,
and no item does not pass. -/
theorem pending_context_of_ne {item : Item} (hPending : tglCsbItemId item ≠ 0xFFFF)
    (hContext : item ≠ .noContext) : ∃ id, item = .context id := by
  cases item with
  | null => exact absurd rfl hPending
  | noContext => exact absurd rfl hContext
  | context id => exact ⟨id, rfl⟩

theorem forall_call_iff {action : Action} {synth : Synth} {fits : Bool} {needs : Action → Prop} :
    (∀ action' synth', some (action, synth, fits) = some (action', synth', true) →
      needs action') ↔ (fits = true → needs action) := by
  constructor
  · rintro h rfl
    exact h action synth rfl
  · rintro h action' synth' hEq
    cases hEq
    exact h rfl

/-- The execlist comparison is sound for exactly those entries and execlists
that do not mislead it. -/
theorem handler_contract_iff_not_misled (driver : Driver) (s : Streamer) (entry : Entry) :
    HandlerContract driver s entry ↔ ¬ entry.Misled s.lists := by
  rw [handlerContract_iff]
  unfold Entry.action Entry.Misled
  simp only
  split_ifs with hBoth hIdle hQueue hElement
  · simp
  · rw [forall_call_iff, decide_eq_true_eq]
    exact matched_iff entry.to_lt
  · rw [forall_call_iff, Bool.and_eq_true, decide_eq_true_eq, decide_eq_true_eq, widen_ne_iff,
      itemId_eq_iff entry.away_lt]
    constructor
    · rintro hFits (⟨hAlias, hPending⟩ | ⟨hActive, hPending⟩)
      · exact hAlias.ne (hFits ⟨.inr hAlias, hPending⟩).1
      · obtain ⟨-, id, hId⟩ := hFits ⟨.inl hActive, by rw [hPending]; decide⟩
        rw [hPending] at hId
        cases hId
    · rintro hNot ⟨hActive | hAlias, hPending⟩
      · refine ⟨hActive, pending_context_of_ne hPending ?_⟩
        intro hNone
        exact hNot (.inr ⟨hActive, hNone⟩)
      · exact absurd (.inl ⟨hAlias, hPending⟩) hNot
  · rw [forall_call_iff, Bool.and_eq_true, decide_eq_true_eq, decide_eq_true_eq,
      itemId_eq_iff entry.away_lt, itemId_eq_iff entry.to_lt]
    constructor
    · rintro hFits (⟨hAlias, hSecond⟩ | ⟨hActive, hAlias⟩)
      · exact hAlias.ne (hFits ⟨.inr hAlias, hSecond⟩).1
      · exact hAlias.ne (hFits ⟨.inl hActive, .inr hAlias⟩).2
    · rintro hNot ⟨hActive | hAlias, hSecond⟩
      · rcases hSecond with hSecond | hAlias
        · exact ⟨hActive, hSecond⟩
        · exact absurd (.inr ⟨hActive, hAlias⟩) hNot
      · exact absurd (.inl ⟨hAlias, hSecond⟩) hNot
  · rw [forall_call_iff, decide_eq_true_eq]
    exact matched_iff entry.away_lt

/-- A preempting entry for the active context 5, while the pending list
starts with a work item that has no context. -/
theorem preempted_without_pending_context :
    ¬ HandlerContract ⟨fun _ _ lists => lists, id⟩
      { present := true, mmio := false, page := ⟨fun _ => ⟨ones, ones⟩, 0⟩, stored := 0x10
        lists := ⟨fun list slot => if slot = 1 then .null else
          if list = 0 then .context 5 else .noContext, 0⟩
        handled := [] }
      ⟨0x30001, 0x28000⟩ := by
  rw [handlerContract_iff]
  intro h
  obtain ⟨-, id, hPending⟩ := h .preempted ⟨0x12, 0xA0⟩ (by rfl)
  cases hPending

end NootedBlue.Csb
