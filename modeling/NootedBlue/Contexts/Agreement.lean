import NootedBlue.Contexts.Attach

/-! Which ids the GuC gets to see. A context is registered under a number that is read
from its entry, and deregistered under the number of the entry in the pool. -/
namespace NootedBlue.Contexts

open Transition

def Called.entry : Called → BitVec 64
  | .attach _ entry _ => entry
  | .detach _ entry _ => entry

/-- The id that a call sends for the context. -/
def Called.contextId : Called → Option Word
  | .attach _ _ outcome => outcome.registration.bind fun sent => contextOf sent.request
  | .detach _ _ deregistration => contextOf deregistration.request

/-- A descriptor that is detached goes by the id under which it was attached. -/
def SameId (earlier later : Called) : Prop :=
  match earlier, later with
  | .attach gpuAddress _ _, .detach other _ _ =>
      gpuAddress = other → ∀ id, earlier.contextId = some id → later.contextId = some id
  | _, _ => True

/-- What is promised of the calls. -/
structure Agrees (log : List Called) : Prop where
  same : log.Pairwise SameId
  distinct : ∀ one ∈ log, ∀ other ∈ log, one.entry ≠ other.entry →
    ∀ id, one.contextId = some id → other.contextId ≠ some id
  accepted : ∀ gpuAddress entry outcome, Called.attach gpuAddress entry outcome ∈ log →
    outcome.marked = true → ∃ sent, outcome.registration = some sent ∧ Accepted sent

/-- No two entries of the pool have the same number. -/
def Spaced (pool : Pool) : Prop :=
  ∀ gpuAddress other entry entry', pool.find gpuAddress = some entry →
    pool.find other = some entry' → pool.contextId entry = pool.contextId entry' → entry = entry'

/-- The entry that is attached leads to an engine. From version 1.0.0 on, its request can
be written, and its `id2` is the number of the entry. Below, `ret` is not 0 by chance. -/
def InOrder (pool : Pool) (state : ContextState) : ContextEvent → Prop
  | .attach gpuAddress apple appleResult around =>
      appleResult ≠ 0 → ∀ entry, pool.find gpuAddress = some entry →
        ∃ engine, (apple state.contexts entry).engine = some engine ∧
          if engine.IsV70 then
            Writable (apple state.contexts entry) engine ∧
              (apple state.contexts entry).id2.setWidth 32 = pool.contextId entry
          else around.leftover ≠ 0
  | .detach _ _ _ => True

def IsDetach : ContextEvent → Prop
  | .attach _ _ _ _ => False
  | .detach _ _ _ => True

/-- Whatever is detached afterwards, the calls of a run agree. -/
def AgreesToTheEnd (pool : Pool) (state : ContextState) (events : List ContextEvent) : Prop :=
  Withstands (contextStep pool) IsDetach (fun after => Agrees after.log) state events

/-- A call that goes by the number of its entry, and marks only what is accepted. -/
def Numbered (pool : Pool) : Called → Prop
  | .attach gpuAddress entry outcome =>
      pool.find gpuAddress = some entry ∧
        (∀ sent, outcome.registration = some sent →
          contextOf sent.request = some (pool.contextId entry)) ∧
        (outcome.marked = true → ∃ sent, outcome.registration = some sent ∧ Accepted sent)
  | .detach gpuAddress entry deregistration =>
      pool.find gpuAddress = some entry ∧
        contextOf deregistration.request = some (pool.contextId entry)

section Numbers

variable {pool : Pool} {called : Called}

theorem Numbered.found (h : Numbered pool called) :
    ∃ gpuAddress, pool.find gpuAddress = some called.entry := by
  cases called with
  | attach gpuAddress entry outcome => exact ⟨gpuAddress, h.1⟩
  | detach gpuAddress entry deregistration => exact ⟨gpuAddress, h.1⟩

theorem Numbered.contextId {id : Word} (h : Numbered pool called)
    (hId : called.contextId = some id) : id = pool.contextId called.entry := by
  cases called with
  | attach gpuAddress entry outcome =>
      obtain ⟨sent, hSent, hRequest⟩ := Option.bind_eq_some_iff.mp hId
      have hNumber := h.2.1 sent hSent
      rw [hRequest] at hNumber
      exact Option.some.inj hNumber
  | detach gpuAddress entry deregistration => exact Option.some.inj (hId.symm.trans h.2)

/-- Two calls for one descriptor go by one number. -/
theorem Numbered.same {later : Called} (h : Numbered pool called) (hLater : Numbered pool later) :
    SameId called later := by
  cases called with
  | detach gpuAddress entry deregistration => exact trivial
  | attach gpuAddress entry outcome =>
      cases later with
      | attach other entry' outcome' => exact trivial
      | detach other entry' deregistration =>
          intro hSame id hId
          have hNumber : id = pool.contextId entry := h.contextId hId
          have hEntry : entry = entry' := by
            have hFind := h.1
            rw [hSame, hLater.1] at hFind
            exact (Option.some.inj hFind).symm
          rw [hNumber, hEntry]
          exact hLater.2

/-- Where the entries have different numbers, such calls agree. -/
theorem agrees_of_numbered {log : List Called} (hSpaced : Spaced pool)
    (h : ∀ called ∈ log, Numbered pool called) : Agrees log := by
  refine { same := ?_, distinct := ?_, accepted := ?_ }
  · apply List.pairwise_of_forall_mem_list
    intro earlier hEarlier later hLater
    exact (h earlier hEarlier).same (h later hLater)
  · intro one hOne other hOther hNe id hId hSame
    obtain ⟨gpuAddress, hFind⟩ := (h one hOne).found
    obtain ⟨gpuAddress', hFind'⟩ := (h other hOther).found
    apply hNe
    apply hSpaced gpuAddress gpuAddress' _ _ hFind hFind'
    exact ((h one hOne).contextId hId).symm.trans ((h other hOther).contextId hSame)
  · intro gpuAddress entry outcome hMem
    exact (h _ hMem).2.2

end Numbers

section Steps

variable {pool : Pool} {state : ContextState}

/-- A registration in order goes by the number of the entry, and marks what is accepted. -/
theorem registers_numbered {ce : IntelContext} {engine : EngineCs} {around : Surroundings}
    {outcome : Outcome} {gpuAddress : Word} {entry : BitVec 64}
    (h : Registers ce engine around outcome) (hFind : pool.find gpuAddress = some entry)
    (hOrder : if engine.IsV70 then Writable ce engine ∧ ce.id2.setWidth 32 = pool.contextId entry
      else around.leftover ≠ 0) : Numbered pool (.attach gpuAddress entry outcome) := by
  refine ⟨hFind, ?_, ?_⟩
  · intro sent hSent
    by_cases hV70 : engine.IsV70
    · rw [if_pos hV70] at hOrder
      obtain ⟨request, hRequest, hRegistration⟩ := h.sends hV70
      cases hSent.symm.trans hRegistration
      rw [hRequest, hOrder.2]
    · cases hSent.symm.trans (h.silent hV70)
  · intro hMarked
    have hRet := h.marks.mp hMarked
    by_cases hV70 : engine.IsV70
    · rw [if_pos hV70] at hRet
      obtain ⟨request, -, hRegistration⟩ := h.sends hV70
      exact ⟨_, hRegistration, Int.le_of_eq hRet.symm⟩
    · rw [if_neg hV70] at hRet hOrder
      exact absurd hRet hOrder

theorem numbered_append {log : List Called} {called : Called}
    (h : ∀ earlier ∈ log, Numbered pool earlier) (hCalled : Numbered pool called) :
    ∀ each ∈ log ++ [called], Numbered pool each := by
  intro each hEach
  rcases List.mem_append.mp hEach with hEarlier | hLast
  · exact h each hEarlier
  · rw [List.mem_singleton.mp hLast]
    exact hCalled

/-- A call in order has a result and goes by the number of its entry. -/
theorem numbered_step {event : ContextEvent} (h : ∀ called ∈ state.log, Numbered pool called)
    (hOrder : InOrder pool state event) :
    ∃ after, contextStep pool state event = some after ∧
      ∀ called ∈ after.log, Numbered pool called := by
  cases event with
  | attach gpuAddress apple appleResult around =>
      by_cases hIdle : appleResult = 0 ∨ pool.find gpuAddress = none
      · rw [attach_idle around hIdle]
        exact ⟨_, rfl, h⟩
      · obtain ⟨hResult, hSome⟩ := not_or.mp hIdle
        obtain ⟨entry, hFind⟩ := Option.ne_none_iff_exists'.mp hSome
        obtain ⟨engine, hEngine, hCond⟩ := hOrder hResult entry hFind
        have hWritable (hV70 : engine.IsV70) : Writable (apple state.contexts entry) engine := by
          rw [if_pos hV70] at hCond
          exact hCond.1
        obtain ⟨outcome, hOutcome⟩ := registerContext_isSome around hEngine hWritable
        obtain ⟨engine', hEngine', hRegisters⟩ := registerContext_registers hOutcome
        cases hEngine.symm.trans hEngine'
        rw [attach_found around hResult hFind, hOutcome]
        exact ⟨_, rfl, numbered_append h (registers_numbered hRegisters hFind hCond)⟩
  | detach gpuAddress apple ret =>
      cases hFind : pool.find gpuAddress with
      | none =>
          rw [detach_idle ret hFind]
          exact ⟨_, rfl, h⟩
      | some entry =>
          rw [detach_found ret hFind]
          refine ⟨_, rfl, numbered_append h ⟨hFind, contextOf_deregister _⟩⟩

/-- After a run that agrees to the end, one more descriptor can be detached. -/
theorem agrees_detach {events : List ContextEvent} {gpuAddress : Word} {entry : BitVec 64}
    (h : AgreesToTheEnd pool state events) (hFind : pool.find gpuAddress = some entry) :
    ∃ between, state.log <+: between ∧ Agrees (between ++
      [.detach gpuAddress entry ⟨gucActionDeregisterContext (pool.contextId entry), 0⟩]) := by
  obtain ⟨after, hRun, hAgrees⟩ := h [.detach gpuAddress id 0] fun event hMem => by
    rw [List.mem_singleton.mp hMem]
    exact trivial
  rw [List.foldlM_append] at hRun
  obtain ⟨between, hBetween, hDetach⟩ := Option.bind_eq_some_iff.mp hRun
  rw [List.foldlM_cons, detach_found 0 hFind] at hDetach
  cases hDetach
  exact ⟨between.log, log_run hBetween, hAgrees⟩

/-- A call that agrees with all that can follow was in order. -/
theorem inOrder_of_agrees {event : ContextEvent} {after : ContextState}
    {rest : List ContextEvent} (hStep : contextStep pool state event = some after)
    (h : AgreesToTheEnd pool after rest) : InOrder pool state event := by
  cases event with
  | detach gpuAddress apple ret => exact trivial
  | attach gpuAddress apple appleResult around =>
      intro hResult entry hFind
      rw [attach_found around hResult hFind] at hStep
      obtain ⟨outcome, hOutcome, rfl⟩ := Option.map_eq_some_iff.mp hStep
      obtain ⟨engine, hEngine, hRegisters⟩ := registerContext_registers hOutcome
      obtain ⟨between, hLog, hAgrees⟩ := agrees_detach h hFind
      have hMem : Called.attach gpuAddress entry outcome ∈ between :=
        hLog.mem (List.mem_append.mpr (Or.inr (List.mem_singleton.mpr rfl)))
      refine ⟨engine, hEngine, ?_⟩
      split
      next hV70 =>
        refine ⟨hRegisters.writable hV70, ?_⟩
        obtain ⟨request, hRequest, hRegistration⟩ := hRegisters.sends hV70
        have hSame := (List.pairwise_append.mp hAgrees.same).2.2 _ hMem _ (List.mem_singleton.mpr rfl)
        have hId : (Called.attach gpuAddress entry outcome).contextId =
            some ((apple state.contexts entry).id2.setWidth 32) := by
          rw [Called.contextId, hRegistration]
          exact hRequest
        exact (Option.some.inj (hSame rfl _ hId)).symm
      next hOlder =>
        intro hLeftover
        have hMarked : outcome.marked = true := by
          rw [hRegisters.marks, if_neg hOlder]
          exact hLeftover
        obtain ⟨sent, hSent, -⟩ := hAgrees.accepted gpuAddress entry outcome
          (List.mem_append.mpr (Or.inl hMem)) hMarked
        cases hSent.symm.trans (hRegisters.silent hOlder)

/-- Two entries can both be detached, so their numbers have to be different. -/
theorem spaced_of_agrees {events : List ContextEvent} (h : AgreesToTheEnd pool state events) :
    Spaced pool := by
  intro gpuAddress other entry entry' hFind hFind' hNumber
  by_contra hNe
  obtain ⟨after, hRun, hAgrees⟩ := h [.detach gpuAddress id 0, .detach other id 0]
    fun event hMem => by
      rcases List.mem_cons.mp hMem with rfl | hLast
      · exact trivial
      · rw [List.mem_singleton.mp hLast]
        exact trivial
  rw [List.foldlM_append] at hRun
  obtain ⟨between, -, hDetach⟩ := Option.bind_eq_some_iff.mp hRun
  rw [List.foldlM_cons, detach_found 0 hFind] at hDetach
  rw [Option.bind_eq_bind, Option.bind_some, List.foldlM_cons, detach_found 0 hFind'] at hDetach
  cases hDetach
  apply hAgrees.distinct
    (.detach gpuAddress entry ⟨gucActionDeregisterContext (pool.contextId entry), 0⟩) (by simp)
    (.detach other entry' ⟨gucActionDeregisterContext (pool.contextId entry'), 0⟩) (by simp) hNe
    (pool.contextId entry) rfl
  rw [hNumber]
  rfl

end Steps

/-- The calls of a run agree, whatever is detached afterwards, just when the entries have
different numbers and every call is in order. -/
theorem agreement_iff (pool : Pool) {start : ContextState} (hEmpty : start.log = [])
    (events : List ContextEvent) :
    AgreesToTheEnd pool start events ↔
      Spaced pool ∧ Along (nextOf (contextStep pool)) (InOrder pool) start events := by
  constructor
  · intro h
    refine ⟨spaced_of_agrees h, ?_⟩
    apply along_of_withstands ?_ h
    intro state event after rest hStep hRest
    exact inOrder_of_agrees hStep hRest
  · intro ⟨hSpaced, hAlong⟩
    apply withstands_of_along (fun state => ∀ called ∈ state.log, Numbered pool called) ?_ ?_ ?_ ?_
      hAlong
    · intro state event h hOrder
      exact numbered_step h hOrder
    · intro state event hDetach
      cases event with
      | attach gpuAddress apple appleResult around => exact absurd hDetach id
      | detach gpuAddress apple ret => exact trivial
    · intro state h
      exact agrees_of_numbered hSpaced h
    · rw [hEmpty]
      intro called hMem
      exact absurd hMem List.not_mem_nil

/-- Two entries, for the descriptors at 0 and at 0x1000. -/
def twoEntries : Pool :=
  { table := some fun hashKey =>
      if hashKey = 0 then some 0x10000 else if hashKey = 1 then some 0x15B00 else none
    base := 0x10000 }

/-- Entries that are 0 but for an engine whose GuC has this version. -/
def zeroed (version : UcFwVer) : ContextState :=
  { contexts := fun _ =>
      { engine := some
          { classb := 0, logicalMask := 1, flags := 0, timesliceDurationMs := 1
            preemptTimeoutMs := 640, submissionVersion := version }
        flags := 0, stateOffset := 0, lrca := 0, schedState := 0, prio := 0, id2 := 0
        numberChildren := 0, childList := [], parentPage := 0 }
    log := [] }

theorem spaced_twoEntries : Spaced twoEntries := by
  have hCases (gpuAddress : Word) (entry : BitVec 64)
      (h : twoEntries.find gpuAddress = some entry) : entry = 0x10000 ∨ entry = 0x15B00 := by
    simp only [Pool.find, twoEntries] at h
    split at h
    next => cases h
    next hSome =>
      split at h
      next => cases h
      next =>
        cases h
        split at hSome
        · exact Or.inl (Option.some.inj hSome).symm
        · split at hSome
          · exact Or.inr (Option.some.inj hSome).symm
          · cases hSome
  intro gpuAddress other entry entry' hFind hFind' hNumber
  rcases hCases gpuAddress entry hFind with rfl | rfl
  · rcases hCases other entry' hFind' with rfl | rfl
    · rfl
    · exact absurd hNumber (by decide)
  · rcases hCases other entry' hFind' with rfl | rfl
    · exact absurd hNumber (by decide)
    · rfl

/-- The replaced driver gives the second entry its number and two children. -/
def numberSecond : Apple := fun contexts =>
  Function.update contexts 0x15B00
    { contexts 0x15B00 with id2 := 1, numberChildren := 2, childList := [0x8000, 0x9000] }

/-- Both descriptors are attached, the second one is detached and attached again, which the
GuC refuses, and a descriptor without an entry is attached. -/
def attachTwice : List ContextEvent :=
  [.attach 0x1000 numberSecond 1 ⟨0, 0, 0⟩, .attach 0 id 1 ⟨0, 0, 0⟩, .detach 0x1000 id 0,
    .attach 0x1000 numberSecond 1 ⟨-1, 0, 0⟩, .attach 0x5000 id 1 ⟨0, 0, 0⟩]

/-- An attach of this entry is in order, as its context is. -/
theorem inOrder_attach {pool : Pool} {state : ContextState} {gpuAddress : Word} {apple : Apple}
    {appleResult entry : BitVec 64} {around : Surroundings} {engine : EngineCs}
    (hFind : pool.find gpuAddress = some entry)
    (hEngine : (apple state.contexts entry).engine = some engine) (hV70 : engine.IsV70)
    (hWritable : Writable (apple state.contexts entry) engine)
    (hNumber : (apple state.contexts entry).id2.setWidth 32 = pool.contextId entry) :
    InOrder pool state (.attach gpuAddress apple appleResult around) := by
  intro _ found hFound
  obtain rfl := Option.some.inj (hFind.symm.trans hFound)
  refine ⟨engine, hEngine, ?_⟩
  rw [if_pos hV70]
  exact ⟨hWritable, hNumber⟩

theorem agreement_iff_twice : AgreesToTheEnd twoEntries (zeroed ⟨1, 0, 0⟩) attachTwice := by
  apply (agreement_iff twoEntries rfl _).mpr
  refine ⟨spaced_twoEntries, ?_⟩
  refine ⟨inOrder_attach rfl rfl (by decide) (by decide) (by decide), ?_⟩
  refine ⟨inOrder_attach rfl rfl (by decide) (by decide) (by decide), trivial, ?_⟩
  refine ⟨inOrder_attach rfl rfl (by decide) (by decide) (by decide), ?_, trivial⟩
  intro _ entry hFind
  have hNone : twoEntries.find 0x5000 = none := rfl
  rw [hNone] at hFind
  cases hFind

/-- The second entry is registered under 0 and deregistered under 1, and below version
1.0.0 the first one is marked without a request. -/
theorem zeroed_disagrees :
    (∃ after, [ContextEvent.attach 0x1000 id 1 ⟨0, 0, 0⟩, .detach 0x1000 id 0].foldlM
        (contextStep twoEntries) (zeroed ⟨1, 0, 0⟩) = some after ∧ ¬ Agrees after.log) ∧
      ∃ after, [ContextEvent.attach 0 id 1 ⟨0, 0, 0⟩].foldlM
        (contextStep twoEntries) (zeroed ⟨0, 10, 0⟩) = some after ∧ ¬ Agrees after.log := by
  constructor
  · refine ⟨_, rfl, ?_⟩
    intro hAgrees
    have hSame := (List.pairwise_cons.mp hAgrees.same).1 _ (List.mem_singleton.mpr rfl) rfl 0 rfl
    exact absurd hSame (by decide)
  · refine ⟨_, rfl, ?_⟩
    intro hAgrees
    obtain ⟨sent, hSent, -⟩ := hAgrees.accepted _ _ _ (List.mem_singleton.mpr rfl) rfl
    cases hSent

end NootedBlue.Contexts
