import NootedBlue.Guc.Protocol

/-! The registration of a context with the GuC. The object that is registered is an entry
of a pool that another driver fills, read as a `struct intel_context`. -/
namespace NootedBlue.Contexts

abbrev Word := BitVec 32

/-- `BIT`. -/
def bit (n : Nat) : Word := 1 <<< n

/-- `MAKE_GUC_VER`. -/
def makeGucVer (major minor patch : Word) : Word := major <<< 16 ||| minor <<< 8 ||| patch

structure UcFwVer where
  major : Word
  minor : Word
  patch : Word

/-- What is read of a `struct intel_engine_cs`, with the version of the GuC behind it. -/
structure EngineCs where
  classb : BitVec 8
  logicalMask : Word
  flags : Word
  timesliceDurationMs : BitVec 64
  preemptTimeoutMs : BitVec 64
  submissionVersion : UcFwVer

/-- What is read and written of a `struct intel_context`. The pointer `engine` can lead
nowhere, the list of children is the one of their `lrc.lrca`, and of `state` only the
offset in the GGTT matters. -/
structure IntelContext where
  engine : Option EngineCs
  flags : BitVec 64
  stateOffset : Word
  lrca : Word
  schedState : Word
  prio : BitVec 8
  id2 : BitVec 16
  numberChildren : BitVec 8
  childList : List Word
  parentPage : BitVec 8

structure GucCtxtRegistrationInfo where
  flags : Word
  contextIdx : Word
  engineClass : Word
  engineSubmitMask : Word
  wqDescLo : Word
  wqDescHi : Word
  wqBaseLo : Word
  wqBaseHi : Word
  wqSize : Word
  hwlrcaLo : Word
  hwlrcaHi : Word

def actionRegisterContext : Word := 0x4502
def actionDeregisterContext : Word := 0x4503
def actionRegisterContextMultiLrc : Word := 0x4601
def actionContextPolicies : Word := 0x100B

/-- `GUC_SUBMIT_VER(guc) >= MAKE_GUC_VER(1, 0, 0)`. -/
def EngineCs.IsV70 (engine : EngineCs) : Prop :=
  makeGucVer 1 0 0 ≤ makeGucVer engine.submissionVersion.major engine.submissionVersion.minor
    engine.submissionVersion.patch

instance (engine : EngineCs) : Decidable engine.IsV70 := inferInstanceAs (Decidable (_ ≤ _))

/-- `engine_class_to_guc_class`, with nothing where it reads after its table. -/
def engineClassToGucClass (classb : BitVec 8) : Option Word :=
  [0, 1, 2, 3, 5, 4][classb.toNat]?

/-- `map_guc_prio_to_lrc_desc_prio`. -/
def mapGucPrioToLrcDescPrio (prio : BitVec 8) : Word :=
  if prio = 3 then 0 else if prio = 1 ∨ prio = 0 then 2 <<< 9 else 1 <<< 9

/-- `intel_context_is_parent`. -/
def IsParent (ce : IntelContext) : Prop := ce.numberChildren ≠ 0

instance (ce : IntelContext) : Decidable (IsParent ce) := inferInstanceAs (Decidable (_ ≠ _))

/-- `__get_parent_scratch_offset` and `__get_wq_offset`. -/
def parentScratchOffset (ce : IntelContext) : Word := ce.parentPage.setWidth 32 * 4096
def wqOffset (ce : IntelContext) : Word := parentScratchOffset ce + 2048

/-- `lower_32_bits` and `upper_32_bits`. -/
def lower32Bits (n : BitVec 64) : Word := n.setWidth 32
def upper32Bits (n : BitVec 64) : Word := (n >>> 32).setWidth 32

/-- `prepare_context_registration_info_v70`. -/
def prepareContextRegistrationInfoV70 (ce : IntelContext) (engine : EngineCs) :
    Option GucCtxtRegistrationInfo :=
  (engineClassToGucClass engine.classb).map fun engineClass =>
    let info : GucCtxtRegistrationInfo :=
      { flags := 1, contextIdx := ce.id2.setWidth 32, engineClass := engineClass
        engineSubmitMask := engine.logicalMask
        wqDescLo := 0, wqDescHi := 0, wqBaseLo := 0, wqBaseHi := 0, wqSize := 0
        hwlrcaLo :=
          if engine.flags &&& bit 10 ≠ 0 then ce.lrca ||| mapGucPrioToLrcDescPrio ce.prio
          else ce.lrca
        hwlrcaHi := 0 }
    if IsParent ce then
      let wqDescOffset := ce.stateOffset.setWidth 64 + (parentScratchOffset ce).setWidth 64
      let wqBaseOffset := ce.stateOffset.setWidth 64 + (wqOffset ce).setWidth 64
      { info with
        wqDescLo := lower32Bits wqDescOffset, wqDescHi := upper32Bits wqDescOffset
        wqBaseLo := lower32Bits wqBaseOffset, wqBaseHi := upper32Bits wqBaseOffset
        wqSize := 2048 }
    else info

/-- `__guc_action_register_multi_lrc_v70`. The array on the stack has 29 words, and writes
after it have no meaning. -/
def gucActionRegisterMultiLrcV70 (ce : IntelContext) (info : GucCtxtRegistrationInfo) :
    Option (List Word) :=
  let action :=
    [actionRegisterContextMultiLrc, info.flags, info.contextIdx, info.engineClass,
      info.engineSubmitMask, info.wqDescLo, info.wqDescHi, info.wqBaseLo, info.wqBaseHi,
      info.wqSize, ce.numberChildren.setWidth 32 + 1, info.hwlrcaLo, info.hwlrcaHi] ++
      ce.childList.flatMap fun lrca => [lrca, 0]
  if action.length ≤ 29 then some action else none

/-- `__guc_action_register_context_v70`. -/
def gucActionRegisterContextV70 (info : GucCtxtRegistrationInfo) : List Word :=
  [actionRegisterContext, info.flags, info.contextIdx, info.engineClass,
    info.engineSubmitMask, info.wqDescLo, info.wqDescHi, info.wqBaseLo, info.wqBaseHi,
    info.wqSize, info.hwlrcaLo, info.hwlrcaHi]

/-- `register_context_v70`, up to the request that it sends. -/
def registerContextV70 (ce : IntelContext) (engine : EngineCs) : Option (List Word) :=
  (prepareContextRegistrationInfoV70 ce engine).bind fun info =>
    if IsParent ce then gucActionRegisterMultiLrcV70 ce info
    else some (gucActionRegisterContextV70 info)

/-- A request that was sent, and what `intel_guc_send_mmio` returned. -/
structure Sent where
  request : List Word
  ret : Int

/-- `set_context_registered`, `set_context_policy_required` and `clr_context_policy_required`. -/
def setContextRegistered (ce : IntelContext) : IntelContext :=
  { ce with schedState := ce.schedState ||| bit 6 }

def setContextPolicyRequired (ce : IntelContext) : IntelContext :=
  { ce with schedState := ce.schedState ||| bit 7 }

def clrContextPolicyRequired (ce : IntelContext) : IntelContext :=
  { ce with schedState := ce.schedState &&& ~~~bit 7 }

/-- `MAKE_CONTEXT_POLICY_ADD`. -/
def contextPolicyAdd (key data : Word) : List Word := [key <<< 16 ||| 1, data]

/-- The request of `guc_context_policy_init_v70`. -/
def contextPolicies (ce : IntelContext) (engine : EngineCs) : List Word :=
  let executionQuantum := (engine.timesliceDurationMs * 1000).setWidth 32
  let preemptionTimeout := (engine.preemptTimeoutMs * 1000).setWidth 32
  let slpcCtxFreqReq : Word := if ce.flags &&& (1 <<< 14) ≠ 0 then bit 28 else 0
  [actionContextPolicies, ce.id2.setWidth 32] ++
    contextPolicyAdd 0x2003 (ce.prio.setWidth 32) ++
    contextPolicyAdd 0x2001 executionQuantum ++
    contextPolicyAdd 0x2002 preemptionTimeout ++
    contextPolicyAdd 0x2005 slpcCtxFreqReq ++
    if engine.flags &&& bit 8 ≠ 0 then contextPolicyAdd 0x2004 1 else []

/-- `guc_context_policy_init_v70`, with the answer to its request. -/
def gucContextPolicyInitV70 (ce : IntelContext) (ret : Int) : IntelContext :=
  if ret ≠ 0 then setContextPolicyRequired ce else clrContextPolicyRequired ce

/-- The context after `register_context`, what the call returns, the requests that it
sent, and whether it has marked the context as registered. -/
structure Outcome where
  context : IntelContext
  ret : Int
  registration : Option Sent
  policies : Option Sent
  marked : Bool

/-- What the GuC and the stack give to a call of `register_context`: the results of its two
requests, and the value that `ret` has before it is assigned. -/
structure Surroundings where
  registerRet : Int
  policyRet : Int
  leftover : Int

/-- The second part of `register_context`, with its `ret`. -/
def markRegistered (ce : IntelContext) (engine : EngineCs) (registration : Option Sent)
    (ret policyRet : Int) : Outcome :=
  if ret = 0 then
    let ce := setContextRegistered ce
    if engine.IsV70 then
      ⟨gucContextPolicyInitV70 ce policyRet, ret, registration,
        some ⟨contextPolicies ce engine, policyRet⟩, true⟩
    else ⟨ce, ret, registration, none, true⟩
  else ⟨ce, ret, registration, none, false⟩

/-- `register_context`. Below version 1.0.0 nothing assigns `ret`. -/
def registerContext (ce : IntelContext) (around : Surroundings) : Option Outcome :=
  ce.engine.bind fun engine =>
    if engine.IsV70 then
      (registerContextV70 ce engine).map fun request =>
        markRegistered ce engine (some ⟨request, around.registerRet⟩) around.registerRet
          around.policyRet
    else some (markRegistered ce engine none around.leftover around.policyRet)

/-- `__guc_action_deregister_context`. -/
def gucActionDeregisterContext (gucId : Word) : List Word := [actionDeregisterContext, gucId]

/-- The id of the context that a request is about. -/
def contextOf : List Word → Option Word
  | [] => none
  | action :: rest =>
      if action = actionRegisterContext ∨ action = actionRegisterContextMultiLrc then rest[1]?
      else if action = actionDeregisterContext ∨ action = actionContextPolicies then rest[0]?
      else none

/-- The GuC has accepted a request. -/
def Accepted (sent : Sent) : Prop := 0 ≤ sent.ret

/-- The request for a registration stays inside of the table and of the array. -/
def Writable (ce : IntelContext) (engine : EngineCs) : Prop :=
  engine.classb.toNat ≤ 5 ∧ (IsParent ce → ce.childList.length ≤ 8)

instance (ce : IntelContext) (engine : EngineCs) : Decidable (Writable ce engine) :=
  inferInstanceAs (Decidable (_ ∧ _))

section Requests

variable {ce : IntelContext} {engine : EngineCs}

theorem engineClassToGucClass_isSome {classb : BitVec 8} :
    (engineClassToGucClass classb).isSome ↔ classb.toNat ≤ 5 := by
  rw [engineClassToGucClass, isSome_getElem?]
  exact Nat.lt_succ_iff

theorem flatMap_pair_length (children : List Word) :
    (children.flatMap fun lrca => [lrca, 0]).length = 2 * children.length := by
  induction children with
  | nil => rfl
  | cons lrca rest ih =>
      rw [List.flatMap_cons, List.length_append, ih, List.length_cons]
      show 2 + 2 * rest.length = 2 * (rest.length + 1)
      omega

theorem prepare_isSome (ce : IntelContext) (engine : EngineCs) :
    (prepareContextRegistrationInfoV70 ce engine).isSome ↔
    (engineClassToGucClass engine.classb).isSome := by
  rw [prepareContextRegistrationInfoV70, Option.isSome_map]

/-- The array is large enough for eight children. -/
theorem multiLrc_isSome {info : GucCtxtRegistrationInfo} :
    (gucActionRegisterMultiLrcV70 ce info).isSome ↔ ce.childList.length ≤ 8 := by
  have hLength (first : List Word) (h : first.length = 13) :
      (first ++ ce.childList.flatMap fun lrca => [lrca, 0]).length ≤ 29 ↔
        ce.childList.length ≤ 8 := by
    rw [List.length_append, flatMap_pair_length, h]
    omega
  rw [gucActionRegisterMultiLrcV70]
  split
  next hFits => exact iff_of_true rfl ((hLength _ rfl).mp hFits)
  next hLong => exact iff_of_false Bool.false_ne_true fun hFew => hLong ((hLength _ rfl).mpr hFew)

theorem contextIdx_prepare {info : GucCtxtRegistrationInfo}
    (h : prepareContextRegistrationInfoV70 ce engine = some info) :
    info.contextIdx = ce.id2.setWidth 32 := by
  obtain ⟨engineClass, -, rfl⟩ := Option.map_eq_some_iff.mp h
  by_cases hParent : IsParent ce
  · simp only [if_pos hParent]
  · simp only [if_neg hParent]

/-- A registration names the context by the field `id2` of the object. -/
theorem contextOf_registerContextV70 {request : List Word}
    (h : registerContextV70 ce engine = some request) :
    contextOf request = some (ce.id2.setWidth 32) := by
  obtain ⟨info, hInfo, hRequest⟩ := Option.bind_eq_some_iff.mp h
  rw [← contextIdx_prepare hInfo]
  split at hRequest
  next =>
    rw [gucActionRegisterMultiLrcV70] at hRequest
    split at hRequest
    next =>
      cases hRequest
      rfl
    next => cases hRequest
  next =>
    cases hRequest
    rfl

theorem registerContextV70_isSome :
    (registerContextV70 ce engine).isSome ↔ Writable ce engine := by
  rw [Writable, ← engineClassToGucClass_isSome, ← prepare_isSome ce engine, registerContextV70]
  cases prepareContextRegistrationInfoV70 ce engine with
  | none => exact iff_of_false Bool.false_ne_true fun hBoth => Bool.false_ne_true hBoth.1
  | some info =>
      rw [Option.bind_some, Option.isSome_some, eq_self, true_and]
      by_cases hParent : IsParent ce
      · rw [if_pos hParent, multiLrc_isSome]
        exact ⟨fun hFew _ => hFew, fun hFew => hFew hParent⟩
      · rw [if_neg hParent]
        exact iff_of_true rfl fun hIs => absurd hIs hParent

/-- The policies are for the context that was registered. -/
theorem contextOf_contextPolicies {request : List Word}
    (h : registerContextV70 ce engine = some request) :
    contextOf (contextPolicies ce engine) = contextOf request := by
  rw [contextOf_registerContextV70 h]
  rfl

theorem contextOf_deregister (gucId : Word) :
    contextOf (gucActionDeregisterContext gucId) = some gucId := rfl

/-- A request that is accepted was answered by the GuC with a success. -/
theorem accepted_answered {guc : Guc.IntelGuc} {request : List Word}
    {transcript : Interaction.Transcript Guc.SendAnswer} {reply : Guc.Reply}
    (h : Guc.Contract guc request none transcript reply) (hAccepted : Accepted ⟨request, reply.ret⟩) :
    ∃ header, Guc.Ended guc transcript 0 header ∧ Guc.Answer header Guc.responseSuccess := by
  obtain ⟨waited, header, hEnded, hSuccess | hFails⟩ := h.outcome
  · obtain ⟨rfl, hAnswer, -⟩ := hSuccess
    exact ⟨header, hEnded, hAnswer⟩
  · exact absurd hFails.2.1 (Int.not_lt.mpr hAccepted)

end Requests

section Calls

variable {ce : IntelContext} {engine : EngineCs} {around : Surroundings} {outcome : Outcome}

/-- What a call of `register_context` has done. Below version 1.0.0 it sends nothing, but
can mark the context. -/
structure Registers (ce : IntelContext) (engine : EngineCs) (around : Surroundings)
    (outcome : Outcome) : Prop where
  writable : engine.IsV70 → Writable ce engine
  sends : engine.IsV70 → ∃ request, contextOf request = some (ce.id2.setWidth 32) ∧
    outcome.registration = some ⟨request, around.registerRet⟩
  silent : ¬ engine.IsV70 → outcome.registration = none
  marks : outcome.marked = true ↔
    if engine.IsV70 then around.registerRet = 0 else around.leftover = 0

theorem markRegistered_registration (registration : Option Sent) (ret policyRet : Int) :
    (markRegistered ce engine registration ret policyRet).registration = registration := by
  rw [markRegistered]
  split
  · split <;> rfl
  · rfl

theorem markRegistered_marked (registration : Option Sent) (ret policyRet : Int) :
    (markRegistered ce engine registration ret policyRet).marked = true ↔ ret = 0 := by
  rw [markRegistered]
  split
  next hZero =>
    apply iff_of_true ?_ hZero
    split <;> rfl
  next hNonzero => exact iff_of_false Bool.false_ne_true hNonzero

/-- The bit of a context that is marked is set, and another context stays as it was. -/
theorem markRegistered_context (registration : Option Sent) (ret policyRet : Int) :
    if (markRegistered ce engine registration ret policyRet).marked then
      (markRegistered ce engine registration ret policyRet).context.schedState.getLsbD 6 = true
    else (markRegistered ce engine registration ret policyRet).context = ce := by
  have hBit : (setContextRegistered ce).schedState.getLsbD 6 = true := by
    show (ce.schedState ||| bit 6).getLsbD 6 = true
    rw [BitVec.getLsbD_or]
    exact Bool.or_eq_true_iff.mpr (Or.inr (by decide))
  rw [markRegistered]
  split
  · split
    · show (gucContextPolicyInitV70 (setContextRegistered ce) policyRet).schedState.getLsbD 6 = true
      rw [gucContextPolicyInitV70]
      split
      · show ((setContextRegistered ce).schedState ||| bit 7).getLsbD 6 = true
        rw [BitVec.getLsbD_or, hBit, Bool.true_or]
      · show ((setContextRegistered ce).schedState &&& ~~~bit 7).getLsbD 6 = true
        rw [BitVec.getLsbD_and, hBit, Bool.true_and]
        decide
    · exact hBit
  · rfl

theorem registerContext_registers (h : registerContext ce around = some outcome) :
    ∃ engine, ce.engine = some engine ∧ Registers ce engine around outcome := by
  obtain ⟨engine, hEngine, hOutcome⟩ := Option.bind_eq_some_iff.mp h
  refine ⟨engine, hEngine, ?_⟩
  split at hOutcome
  next hV70 =>
    obtain ⟨request, hRequest, rfl⟩ := Option.map_eq_some_iff.mp hOutcome
    exact {
      writable := fun _ => registerContextV70_isSome.mp (by rw [hRequest]; rfl)
      sends := fun _ =>
        ⟨request, contextOf_registerContextV70 hRequest, markRegistered_registration _ _ _⟩
      silent := fun hOlder => absurd hV70 hOlder
      marks := by
        rw [if_pos hV70]
        exact markRegistered_marked _ _ _ }
  next hOlder =>
    cases hOutcome
    exact {
      writable := fun hV70 => absurd hV70 hOlder
      sends := fun hV70 => absurd hV70 hOlder
      silent := fun _ => markRegistered_registration _ _ _
      marks := by
        rw [if_neg hOlder]
        exact markRegistered_marked _ _ _ }

theorem registerContext_isSome (around : Surroundings) (hEngine : ce.engine = some engine)
    (hWritable : engine.IsV70 → Writable ce engine) :
    ∃ outcome, registerContext ce around = some outcome := by
  rw [registerContext, hEngine, Option.bind_some]
  split
  next hV70 =>
    obtain ⟨request, hRequest⟩ :=
      Option.isSome_iff_exists.mp (registerContextV70_isSome.mpr (hWritable hV70))
    rw [hRequest]
    exact ⟨_, rfl⟩
  next => exact ⟨_, rfl⟩

end Calls

end NootedBlue.Contexts
