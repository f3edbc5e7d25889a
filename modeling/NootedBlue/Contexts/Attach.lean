import Mathlib.Logic.Function.Basic
import NootedBlue.Contexts.Registration
import NootedBlue.Semantics.Run

/-! A descriptor is attached and detached. Both calls look the entry of the descriptor up
in a hash table, and pass on to the driver that they replace. -/
namespace NootedBlue.Contexts

/-- The hash table, which can be missing, and the address of the pool. -/
structure Pool where
  table : Option (Word → Option (BitVec 64))
  base : BitVec 64

/-- The entry of a descriptor, of which only the first word is read. -/
def Pool.find (pool : Pool) (gpuAddress : Word) : Option (BitVec 64) :=
  match pool.table with
  | none => none
  | some table =>
      match table (gpuAddress >>> 0xC) with
      | none => none
      | some queueDw1Ptr => if queueDw1Ptr = 0 then none else some queueDw1Ptr

def gucCtxEntryStride : BitVec 64 := 0x5B00

/-- `contextId` of an entry. -/
def Pool.contextId (pool : Pool) (entry : BitVec 64) : Word :=
  ((entry - pool.base) / gucCtxEntryStride).setWidth 32

/-- A call that has reached the GuC driver for an entry. -/
inductive Called where
  | attach (gpuAddress : Word) (entry : BitVec 64) (outcome : Outcome)
  | detach (gpuAddress : Word) (entry : BitVec 64) (deregistration : Sent)

/-- What is at each address, read as a context, and the calls in their order. -/
structure ContextState where
  contexts : BitVec 64 → IntelContext
  log : List Called

/-- What the replaced driver makes of the contexts. -/
abbrev Apple := (BitVec 64 → IntelContext) → BitVec 64 → IntelContext

/-- `AttachContextDescToGucContext`. The replaced function comes first. -/
def attachContextDescToGucContext (pool : Pool) (state : ContextState) (gpuAddress : Word)
    (apple : Apple) (appleResult : BitVec 64) (around : Surroundings) :
    Option (BitVec 64 × ContextState) :=
  let state := { state with contexts := apple state.contexts }
  if appleResult = 0 then some (0, state)
  else
    match pool.find gpuAddress with
    | none => some (appleResult, state)
    | some entry =>
        (registerContext (state.contexts entry) around).map fun outcome =>
          (appleResult,
            { contexts := Function.update state.contexts entry outcome.context
              log := state.log ++ [.attach gpuAddress entry outcome] })

/-- `DetachContextDescFromGucContext`. The replaced function comes last. -/
def detachContextDescFromGucContext (pool : Pool) (state : ContextState) (gpuAddress : Word)
    (apple : Apple) (ret : Int) : ContextState :=
  let state : ContextState :=
    match pool.find gpuAddress with
    | none => state
    | some entry =>
        { state with
          log := state.log ++
            [.detach gpuAddress entry ⟨gucActionDeregisterContext (pool.contextId entry), ret⟩] }
  { state with contexts := apple state.contexts }

inductive ContextEvent where
  | attach (gpuAddress : Word) (apple : Apple) (appleResult : BitVec 64) (around : Surroundings)
  | detach (gpuAddress : Word) (apple : Apple) (ret : Int)

def contextStep (pool : Pool) (state : ContextState) : ContextEvent → Option ContextState
  | .attach gpuAddress apple appleResult around =>
      (attachContextDescToGucContext pool state gpuAddress apple appleResult around).map Prod.snd
  | .detach gpuAddress apple ret =>
      some (detachContextDescFromGucContext pool state gpuAddress apple ret)

section Steps

variable {pool : Pool} {state : ContextState} {gpuAddress : Word} {apple : Apple}

/-- Nothing is called for a descriptor that the replaced driver refuses, or that has no
entry. -/
theorem attach_idle {appleResult : BitVec 64} (around : Surroundings)
    (h : appleResult = 0 ∨ pool.find gpuAddress = none) :
    contextStep pool state (.attach gpuAddress apple appleResult around) =
      some { state with contexts := apple state.contexts } := by
  rw [contextStep, attachContextDescToGucContext]
  by_cases hResult : appleResult = 0
  · rw [if_pos hResult]
    rfl
  · rw [if_neg hResult, h.resolve_left hResult]
    rfl

/-- Else the entry is registered, as the replaced driver left it. -/
theorem attach_found {appleResult : BitVec 64} {entry : BitVec 64} (around : Surroundings)
    (hResult : appleResult ≠ 0) (hFind : pool.find gpuAddress = some entry) :
    contextStep pool state (.attach gpuAddress apple appleResult around) =
      (registerContext (apple state.contexts entry) around).map fun outcome =>
        { contexts := Function.update (apple state.contexts) entry outcome.context
          log := state.log ++ [.attach gpuAddress entry outcome] } := by
  rw [contextStep, attachContextDescToGucContext, if_neg hResult, hFind, Option.map_map]
  rfl

theorem detach_idle (ret : Int) (hFind : pool.find gpuAddress = none) :
    contextStep pool state (.detach gpuAddress apple ret) =
      some { state with contexts := apple state.contexts } := by
  rw [contextStep, detachContextDescFromGucContext, hFind]

theorem detach_found {entry : BitVec 64} (ret : Int)
    (hFind : pool.find gpuAddress = some entry) :
    contextStep pool state (.detach gpuAddress apple ret) =
      some {
        contexts := apple state.contexts
        log := state.log ++
          [.detach gpuAddress entry ⟨gucActionDeregisterContext (pool.contextId entry), ret⟩] } := by
  rw [contextStep, detachContextDescFromGucContext, hFind]

/-- A call adds to what was called before. -/
theorem log_step {event : ContextEvent} {after : ContextState}
    (h : contextStep pool state event = some after) : state.log <+: after.log := by
  cases event with
  | attach gpuAddress apple appleResult around =>
      by_cases hIdle : appleResult = 0 ∨ pool.find gpuAddress = none
      · rw [attach_idle around hIdle] at h
        cases h
        exact List.prefix_refl _
      · obtain ⟨hResult, hSome⟩ := not_or.mp hIdle
        obtain ⟨entry, hFind⟩ := Option.ne_none_iff_exists'.mp hSome
        rw [attach_found around hResult hFind] at h
        obtain ⟨outcome, -, rfl⟩ := Option.map_eq_some_iff.mp h
        exact List.prefix_append _ _
  | detach gpuAddress apple ret =>
      cases hFind : pool.find gpuAddress with
      | none =>
          rw [detach_idle ret hFind] at h
          cases h
          exact List.prefix_refl _
      | some entry =>
          rw [detach_found ret hFind] at h
          cases h
          exact List.prefix_append _ _

theorem log_run {events : List ContextEvent} {after : ContextState}
    (h : events.foldlM (contextStep pool) state = some after) : state.log <+: after.log := by
  induction events generalizing state with
  | nil =>
      cases h
      exact List.prefix_refl _
  | cons event rest ih =>
      rw [List.foldlM_cons] at h
      obtain ⟨between, hStep, hRest⟩ := Option.bind_eq_some_iff.mp h
      exact (log_step hStep).trans (ih hRest)

end Steps

end NootedBlue.Contexts
