import NootedBlue.Ads.CaptureLists
import NootedBlue.Semantics.Allocator
import NootedBlue.Semantics.Linked

/-! The nodes that captured registers are to go into. They are allocated ahead, once,
each with an array of registers for every type of list, and wait on a ring. An
allocation that fails takes back the node it is for and ends the work. -/
namespace NootedBlue.Ads

open Interaction Transition Allocator Linked Engines

/-- `PREALLOC_NODES_MAX_COUNT` and `PREALLOC_NODES_DEFAULT_NUMREGS`. -/
def preallocNodesMaxCount : Nat := 3 * gucMaxEngineClasses * gucMaxInstancesPerClass
def preallocNodesDefaultNumregs : BitVec 32 := 64

/-- `GUC_CAPTURE_LIST_TYPE_MAX`. -/
def gucCaptureListTypeMax : Nat := 3

/-- The size of `struct __guc_capture_parsed_output`. -/
def parsedOutputSize : Nat := 88

/-- The links of the nodes, which are their first members, and the `regs` of each. -/
structure NodeMemory where
  links : Links Nat
  regs : Nat → List Nat

/-- `guc_capture_init_node`: everything but the arrays is zeroed. -/
def gucCaptureInitNode (node : Nat) (memory : NodeMemory) : NodeMemory :=
  { memory with links := memory.links.init node }

/-- Free the arrays of a node, from the last one on. -/
def freeRegs (regsSize : Nat) : List Nat → AllocProgram Unit
  | [] => return ()
  | regs :: rest => do
      let _ ← Program.perform (AllocOp.free regs regsSize)
      freeRegs regsSize rest

/-- Allocate the arrays of a node that are left, with those that it has, the last one in
front. -/
def allocRegs (node regsSize : Nat) : Nat → List Nat → AllocProgram (Option (List Nat))
  | 0, regs => return some regs
  | left + 1, regs => do
      let new ← Program.perform (AllocOp.malloc regsSize)
      match new with
      | none => do
          freeRegs regsSize regs
          let _ ← Program.perform (AllocOp.free node parsedOutputSize)
          return none
      | some new => allocRegs node regsSize left (new :: regs)

/-- The part of `guc_capture_alloc_one_node` that has got a node. -/
def allocForNode (regsSize : Nat) (memory : NodeMemory) (node : Nat) :
    AllocProgram (Option (Nat × NodeMemory)) := do
  let regs ← allocRegs node regsSize gucCaptureListTypeMax []
  return regs.map fun regs =>
    (node, gucCaptureInitNode node
      { memory with regs := Function.update memory.regs node regs.reverse })

/-- `guc_capture_alloc_one_node`. -/
def gucCaptureAllocOneNode (regsSize : Nat) (memory : NodeMemory) :
    AllocProgram (Option (Nat × NodeMemory)) := do
  let node ← Program.perform (AllocOp.malloc parsedOutputSize)
  match node with
  | none => return none
  | some node => allocForNode regsSize memory node

/-- `guc_capture_add_node_to_cachelist`. -/
def gucCaptureAddNodeToCachelist (cachelist node : Nat) (memory : NodeMemory) : NodeMemory :=
  { memory with links := memory.links.addTail node cachelist }

/-- The loop of `__guc_capture_create_prealloc_nodes`, with the rounds that are left. -/
def createNodes (cachelist regsSize : Nat) : Nat → NodeMemory → AllocProgram NodeMemory
  | 0, memory => return memory
  | left + 1, memory => do
      let new ← gucCaptureAllocOneNode regsSize memory
      match new with
      | none => return memory
      | some (node, memory) =>
          createNodes cachelist regsSize left (gucCaptureAddNodeToCachelist cachelist node memory)

/-- The lists that `guc_get_max_reglist_count` looks at. -/
def countedSlots : List Slot :=
  (List.range gucCaptureListIndexMax).flatMap fun i =>
    [CaptureType.global, .engineClass, .engineInstance].flatMap fun j =>
      ((List.range gucMaxEngineClasses).filter fun k => ¬ (j = .global ∧ k > 0)).map fun k =>
        ⟨i, j, k⟩

/-- The larger one of two counts, which are of type `int`. -/
def largerCount (maxregcount tmp : BitVec 32) : BitVec 32 :=
  if maxregcount.slt tmp then tmp else maxregcount

/-- `guc_get_max_reglist_count`. -/
def Capture.gucGetMaxReglistCount (gc : Capture) : BitVec 32 :=
  let maxregcount := countedSlots.foldl (fun count slot => largerCount count (gc.gucCapListNumRegs slot)) 0
  if maxregcount = 0 then preallocNodesDefaultNumregs else maxregcount

/-- The part of `struct intel_guc_state_capture` that is about the nodes. -/
structure NodeCache where
  maxMmioPerNode : BitVec 32
  memory : NodeMemory

/-- The size of an array for a number of registers, which is not negative. -/
def regsSize (maxMmioPerNode : BitVec 32) : Nat := mmioRegSize * maxMmioPerNode.toNat

/-- `guc_capture_create_prealloc_nodes`. -/
def gucCaptureCreatePreallocNodes (gc : Capture) (cachelist : Nat) (cache : NodeCache) :
    AllocProgram NodeCache :=
  if cache.maxMmioPerNode ≠ 0 then return cache
  else do
    let maxMmioPerNode := gc.gucGetMaxReglistCount
    let memory ← createNodes cachelist (regsSize maxMmioPerNode) preallocNodesMaxCount cache.memory
    return ⟨maxMmioPerNode, memory⟩

/-- Any number of calls, as `intel_guc_capture_getlist` makes them. -/
def createRepeatedly (gc : Capture) (cachelist : Nat) : Nat → NodeCache → AllocProgram NodeCache
  | 0, cache => return cache
  | calls + 1, cache => do
      let cache ← gucCaptureCreatePreallocNodes gc cachelist cache
      createRepeatedly gc cachelist calls cache

/-- The blocks of a node. -/
def nodeBlocks (regsSize : Nat) (memory : NodeMemory) (node : Nat) : Held :=
  (node, parsedOutputSize) :: (memory.regs node).map (·, regsSize)

/-- The nodes on the ring are those that blocks are held for, each with all its arrays,
and there are fewer than there should be only where a request was refused. -/
structure Preallocated (cachelist regsSize : Nat) (memory : NodeMemory)
    (transcript : Transcript AllocAnswer) (nodes : List Nat) : Prop where
  ring : Linked.Ring memory.links cachelist nodes
  held : (heldAfter [] transcript).Perm (nodes.flatMap (nodeBlocks regsSize memory))
  right : Along heldStep RightAt [] transcript
  arrays : ∀ node ∈ nodes, (memory.regs node).length = gucCaptureListTypeMax
  count : nodes.length = preallocNodesMaxCount ∨
    nodes.length < preallocNodesMaxCount ∧ Refused transcript

section MaxCount

variable (gc : Capture)

theorem largerCount_spec (a b : BitVec 32) :
    a.toInt ≤ (largerCount a b).toInt ∧ b.toInt ≤ (largerCount a b).toInt := by
  rw [largerCount]
  split
  · next hLess => exact ⟨Int.le_of_lt (BitVec.slt_iff_toInt_lt.mp hLess), Int.le_refl _⟩
  · next hLess =>
      exact ⟨Int.le_refl _, Int.not_lt.mp fun h => hLess (BitVec.slt_iff_toInt_lt.mpr h)⟩

/-- The largest count is not below any of those that were seen. -/
theorem le_foldl_largerCount (slots : List Slot) (start : BitVec 32) :
    let count := slots.foldl (fun count slot => largerCount count (gc.gucCapListNumRegs slot)) start
    start.toInt ≤ count.toInt ∧ ∀ slot ∈ slots, (gc.gucCapListNumRegs slot).toInt ≤ count.toInt := by
  induction slots generalizing start with
  | nil => simp
  | cons first rest ih =>
      obtain ⟨hStart, hRest⟩ := ih (largerCount start (gc.gucCapListNumRegs first))
      obtain ⟨hOld, hFirst⟩ := largerCount_spec start (gc.gucCapListNumRegs first)
      refine ⟨hOld.trans hStart, ?_⟩
      intro slot hMem
      rcases List.mem_cons.mp hMem with rfl | hLater
      · exact hFirst.trans hStart
      · exact hRest slot hLater

theorem findGroup_global (lists : Option (List DescrGroup)) (owner k : Nat) :
    findGroup lists ⟨owner, .global, k⟩ = findGroup lists ⟨owner, .global, 0⟩ := by
  rw [findGroup, findGroup]
  congr 1
  funext group
  by_cases hType : group.type = CaptureType.global.code
  · simp [hType]
  · simp [hType]

/-- The list of the registers of no engine is the same for all classes. -/
theorem numRegs_global (owner k : Nat) :
    gc.gucCapListNumRegs ⟨owner, .global, k⟩ = gc.gucCapListNumRegs ⟨owner, .global, 0⟩ := by
  simp only [Capture.gucCapListNumRegs, Capture.gucCaptureGetOneList,
    Capture.gucCaptureGetOneExtList, findGroup_global _ owner k]

/-- An array has room for the longest list, and is not empty. -/
theorem numRegs_le_max (slot : Slot) (hOwner : slot.owner < gucCaptureListIndexMax)
    (hClass : slot.classid < gucMaxEngineClasses) :
    (gc.gucCapListNumRegs slot).toInt ≤ gc.gucGetMaxReglistCount.toInt := by
  have hSlots := le_foldl_largerCount gc countedSlots 0
  have hSeen : ∃ seen ∈ countedSlots, gc.gucCapListNumRegs slot = gc.gucCapListNumRegs seen := by
    obtain ⟨owner, type, classid⟩ := slot
    cases type with
    | global =>
        refine ⟨⟨owner, .global, 0⟩, ?_, numRegs_global gc owner classid⟩
        simp only [countedSlots, List.mem_flatMap, List.mem_map, List.mem_filter, List.mem_range]
        exact ⟨owner, hOwner, .global, by simp, 0, ⟨by decide, by simp⟩, rfl⟩
    | engineClass =>
        refine ⟨⟨owner, .engineClass, classid⟩, ?_, rfl⟩
        simp only [countedSlots, List.mem_flatMap, List.mem_map, List.mem_filter, List.mem_range]
        exact ⟨owner, hOwner, .engineClass, by simp, classid, ⟨hClass, by simp⟩, rfl⟩
    | engineInstance =>
        refine ⟨⟨owner, .engineInstance, classid⟩, ?_, rfl⟩
        simp only [countedSlots, List.mem_flatMap, List.mem_map, List.mem_filter, List.mem_range]
        exact ⟨owner, hOwner, .engineInstance, by simp, classid, ⟨hClass, by simp⟩, rfl⟩
  obtain ⟨seen, hMem, hSame⟩ := hSeen
  have hLe := hSlots.2 seen hMem
  rw [← hSame] at hLe
  unfold Capture.gucGetMaxReglistCount
  dsimp only
  split
  · next hNone =>
      rw [hNone] at hLe
      exact hLe.trans (by decide)
  · exact hLe

theorem max_ne_zero : gc.gucGetMaxReglistCount ≠ 0 := by
  unfold Capture.gucGetMaxReglistCount
  dsimp only
  split
  · decide
  · assumption

end MaxCount

section Nodes

variable {cachelist node regsSize : Nat} {memory : NodeMemory} {held : Held}
  {transcript : Transcript AllocAnswer}

/-- The arrays that were taken for a node, the last one in front. -/
def arrays (regsSize : Nat) (regs : List Nat) : Held := regs.map (·, regsSize)

theorem plays_freeRegs {regs : List Nat} (plays : Plays (freeRegs regsSize regs) transcript ()) :
    Ledger (arrays regsSize regs ++ held) transcript held := by
  induction regs generalizing transcript with
  | nil =>
      obtain ⟨rfl, -⟩ := plays_done_iff.mp plays
      exact .nil held
  | cons last rest ih =>
      rw [freeRegs, Program.perform_bind, plays_call_iff] at plays
      obtain ⟨-, tail, rfl, hRest⟩ := plays
      exact (Ledger.free _ last regsSize).append (ih hRest)

/-- An allocation of arrays either has them all, or it has given everything back. -/
def ArraysOutcome (regsSize node : Nat) (held : Held) (transcript : Transcript AllocAnswer)
    (wanted : Nat) (start : Held) : Option (List Nat) → Prop
  | none => Ledger start transcript held ∧ Refused transcript
  | some regs => regs.length = wanted ∧
      Ledger start transcript (arrays regsSize regs ++ (node, parsedOutputSize) :: held)

theorem plays_allocRegs {left : Nat} {regs : List Nat} {result : Option (List Nat)}
    (plays : Plays (allocRegs node regsSize left regs) transcript result) :
    ArraysOutcome regsSize node held transcript (left + regs.length)
      (arrays regsSize regs ++ (node, parsedOutputSize) :: held) result := by
  induction left generalizing regs transcript with
  | zero =>
      obtain ⟨rfl, rfl⟩ := plays_done_iff.mp plays
      exact ⟨(Nat.zero_add _).symm, .nil _⟩
  | succ left ih =>
      rw [allocRegs, Program.perform_bind, plays_call_iff] at plays
      obtain ⟨answer, tail, rfl, hRest⟩ := plays
      cases answer with
      | none =>
          obtain ⟨first, rest, _, rfl, hFree, hLast⟩ := plays_bind_iff.mp hRest
          rw [Program.perform_bind, plays_call_iff] at hLast
          obtain ⟨-, ending, rfl, hDone⟩ := hLast
          obtain ⟨rfl, rfl⟩ := plays_done_iff.mp hDone
          refine ⟨?_, regsSize, List.mem_cons_self⟩
          exact (Ledger.refused _ regsSize).append
            ((plays_freeRegs hFree).append (Ledger.free held node parsedOutputSize))
      | some new =>
          have hOutcome := ih hRest
          cases result with
          | none =>
              obtain ⟨hLedger, bytes, hRefused⟩ := hOutcome
              exact ⟨(Ledger.malloc _ regsSize new).append hLedger, bytes,
                List.mem_cons_of_mem _ hRefused⟩
          | some final =>
              obtain ⟨hLength, hLedger⟩ := hOutcome
              refine ⟨?_, (Ledger.malloc _ regsSize new).append hLedger⟩
              rw [hLength, List.length_cons]
              omega

/-- A node that was made: fresh, with its arrays, and alone on a ring of its own. -/
structure Made (used : List Nat) (regsSize : Nat) (memory : NodeMemory) (held : Held)
    (transcript : Transcript AllocAnswer) (node : Nat) (after : NodeMemory) : Prop where
  fresh : Fresh used held transcript → node ∉ held.map Prod.fst ∧ node ∉ used
  links : after.links = memory.links.init node
  others : ∀ other, other ≠ node → after.regs other = memory.regs other
  arrays : (after.regs node).length = gucCaptureListTypeMax
  ledger : ∃ blocks, Ledger held transcript (blocks ++ held) ∧
    blocks.Perm (nodeBlocks regsSize after node)

/-- A request for a node has it made, or nothing is held for it. -/
def NodeOutcome (used : List Nat) (regsSize : Nat) (memory : NodeMemory) (held : Held)
    (transcript : Transcript AllocAnswer) : Option (Nat × NodeMemory) → Prop
  | none => Ledger held transcript held ∧ Refused transcript
  | some (node, after) => Made used regsSize memory held transcript node after

theorem plays_allocOneNode {used : List Nat} {result : Option (Nat × NodeMemory)}
    (plays : Plays (gucCaptureAllocOneNode regsSize memory) transcript result) :
    NodeOutcome used regsSize memory held transcript result := by
  rw [gucCaptureAllocOneNode, Program.perform_bind, plays_call_iff] at plays
  obtain ⟨answer, tail, rfl, hRest⟩ := plays
  cases answer with
  | none =>
      obtain ⟨rfl, rfl⟩ := plays_done_iff.mp hRest
      exact ⟨Ledger.refused held parsedOutputSize, parsedOutputSize, List.mem_cons_self⟩
  | some node =>
      obtain ⟨first, rest, regs, rfl, hRegs, hDone⟩ := plays_bind_iff.mp hRest
      obtain ⟨rfl, rfl⟩ := plays_done_iff.mp hDone
      have hOutcome : ArraysOutcome regsSize node held first _ _ regs := plays_allocRegs hRegs
      cases regs with
      | none =>
          obtain ⟨hLedger, bytes, hRefused⟩ := hOutcome
          refine ⟨?_, bytes, List.mem_cons_of_mem _ (List.mem_append_left _ hRefused)⟩
          rw [List.append_nil]
          exact (Ledger.malloc held parsedOutputSize node).append hLedger
      | some regs =>
          obtain ⟨hLength, hLedger⟩ := hOutcome
          have hRegs : Function.update memory.regs node regs.reverse node = regs.reverse :=
            Function.update_self ..
          exact {
            fresh := fun h => h.1
            links := rfl
            others := fun other hOther => Function.update_of_ne hOther ..
            arrays := by
              change (Function.update memory.regs node regs.reverse node).length = _
              rw [hRegs, List.length_reverse, hLength]
              rfl
            ledger := by
              refine ⟨arrays regsSize regs ++ [(node, parsedOutputSize)], ?_, ?_⟩
              · rw [List.append_nil, List.append_assoc]
                exact (Ledger.malloc held parsedOutputSize node).append hLedger
              · change (_ ++ [_]).Perm (_ :: (Function.update memory.regs node regs.reverse node).map _)
                rw [hRegs, List.map_reverse]
                exact (List.perm_append_singleton _ _).trans
                  ((List.reverse_perm _).symm.cons _) }

/-- The nodes so far are on the ring and have their arrays, and exactly their blocks are
held. -/
structure Waiting (cachelist regsSize : Nat) (memory : NodeMemory) (held : Held)
    (nodes : List Nat) : Prop where
  ring : Linked.Ring memory.links cachelist nodes
  held : held.Perm (nodes.flatMap (nodeBlocks regsSize memory))
  arrays : ∀ node ∈ nodes, (memory.regs node).length = gucCaptureListTypeMax

theorem Waiting.mem_held {nodes : List Nat} (waiting : Waiting cachelist regsSize memory held nodes)
    {node : Nat} (hMem : node ∈ nodes) : node ∈ held.map Prod.fst := by
  refine List.mem_map.mpr ⟨(node, parsedOutputSize), waiting.held.mem_iff.mpr ?_, rfl⟩
  exact List.mem_flatMap.mpr ⟨node, hMem, List.mem_cons_self⟩

/-- A node that was made goes to the end of the ring. -/
theorem Waiting.add {nodes : List Nat} {node : Nat} {after : NodeMemory}
    (waiting : Waiting cachelist regsSize memory held nodes)
    (made : Made [cachelist] regsSize memory held transcript node after)
    (hFresh : Fresh [cachelist] held transcript) :
    ∃ held', Ledger held transcript held' ∧
      Waiting cachelist regsSize (gucCaptureAddNodeToCachelist cachelist node after) held'
        (nodes ++ [node]) := by
  obtain ⟨hNotHeld, hNotUsed⟩ := made.fresh hFresh
  have hNew : node ∉ cachelist :: nodes := by
    rw [List.mem_cons, not_or]
    exact ⟨fun h => hNotUsed (List.mem_singleton.mpr h), fun h => hNotHeld (waiting.mem_held h)⟩
  have hAgree : ∀ a ∈ cachelist :: nodes,
      after.links.next a = memory.links.next a ∧ after.links.prev a = memory.links.prev a := by
    intro a ha
    have hOther : a ≠ node := fun h => hNew (h ▸ ha)
    rw [made.links]
    exact ⟨Function.update_of_ne hOther .., Function.update_of_ne hOther ..⟩
  have hBlocks : nodes.flatMap (nodeBlocks regsSize after) =
      nodes.flatMap (nodeBlocks regsSize memory) := by
    refine List.flatMap_congr fun other hMem => ?_
    have hOther : other ≠ node := fun h => hNew (h ▸ List.mem_cons_of_mem _ hMem)
    rw [nodeBlocks, nodeBlocks, made.others other hOther]
  obtain ⟨blocks, hLedger, hPerm⟩ := made.ledger
  refine ⟨blocks ++ held, hLedger, ?_⟩
  exact {
    ring := (waiting.ring.of_agree hAgree).addTail hNew
    held := by
      change (blocks ++ held).Perm ((nodes ++ [node]).flatMap (nodeBlocks regsSize after))
      rw [List.flatMap_append, List.flatMap_singleton, hBlocks]
      exact (hPerm.append waiting.held).trans List.perm_append_comm
    arrays := by
      intro other hMem
      change (after.regs other).length = _
      rcases List.mem_append.mp hMem with hOld | hLast
      · have hOther : other ≠ node := fun h => hNew (h ▸ List.mem_cons_of_mem _ hOld)
        rw [made.others other hOther]
        exact waiting.arrays other hOld
      · rw [List.mem_singleton.mp hLast]
        exact made.arrays }

/-- The rounds that are left add their nodes, up to the first request that is refused. -/
theorem plays_createNodes {left : Nat} {nodes : List Nat} {after : NodeMemory}
    (plays : Plays (createNodes cachelist regsSize left memory) transcript after)
    (waiting : Waiting cachelist regsSize memory held nodes)
    (hFresh : Fresh [cachelist] held transcript) :
    ∃ held' new, Ledger held transcript held' ∧
      Waiting cachelist regsSize after held' (nodes ++ new) ∧
      (new.length = left ∨ new.length < left ∧ Refused transcript) := by
  induction left generalizing memory held nodes transcript with
  | zero =>
      obtain ⟨rfl, rfl⟩ := plays_done_iff.mp plays
      exact ⟨held, [], .nil held, by rwa [List.append_nil], .inl rfl⟩
  | succ left ih =>
      obtain ⟨first, rest, result, rfl, hOne, hRest⟩ := plays_bind_iff.mp plays
      obtain ⟨hFirst, hLater⟩ := fresh_append.mp hFresh
      have hOutcome : NodeOutcome [cachelist] regsSize memory held first result :=
        plays_allocOneNode hOne
      cases result with
      | none =>
          obtain ⟨hLedger, bytes, hRefused⟩ := hOutcome
          obtain ⟨rfl, rfl⟩ := plays_done_iff.mp hRest
          refine ⟨held, [], ?_, by rwa [List.append_nil], .inr ⟨Nat.succ_pos left, bytes, ?_⟩⟩
          · rwa [List.append_nil]
          · rwa [List.append_nil]
      | some made =>
          obtain ⟨node, made'⟩ := made
          obtain ⟨held', hLedger, hWaiting⟩ := waiting.add hOutcome hFirst
          rw [hLedger.after] at hLater
          obtain ⟨held'', new, hMore, hEnd, hCount⟩ := ih hRest hWaiting hLater
          refine ⟨held'', node :: new, hLedger.append hMore, ?_, ?_⟩
          · rwa [List.append_assoc] at hEnd
          · rw [List.length_cons]
            rcases hCount with hAll | ⟨hSome, bytes, hRefused⟩
            · exact .inl (by rw [hAll])
            · exact .inr ⟨Nat.succ_lt_succ hSome, bytes, List.mem_append_right _ hRefused⟩

end Nodes

section Calls

variable {gc : Capture} {cachelist : Nat}

/-- Once the size of the arrays is set, a call does nothing. -/
theorem plays_createRepeatedly_done {calls : Nat} {cache after : NodeCache}
    {transcript : Transcript AllocAnswer} (hDone : cache.maxMmioPerNode ≠ 0)
    (plays : Plays (createRepeatedly gc cachelist calls cache) transcript after) :
    transcript = [] ∧ after = cache := by
  induction calls generalizing transcript with
  | zero => exact plays_done_iff.mp plays
  | succ calls ih =>
      rw [createRepeatedly, gucCaptureCreatePreallocNodes, if_pos hDone] at plays
      exact ih plays

/-- However often it is asked for the nodes, and whatever the allocator answers, the driver
makes them once. On the ring are exactly the nodes that blocks are held for, in both
directions, each with three arrays of the size of the longest list; nothing is left over
from a request that was refused, and everything that was given back was held. But nobody
clears the size of the arrays before: where fresh memory held another one than zero, no
node is made at all. -/
theorem prealloc_nodes (gc : Capture) (cachelist calls : Nat) (stale : BitVec 32)
    (memory : NodeMemory) (after : NodeCache) (transcript : Transcript AllocAnswer)
    (plays : Plays (createRepeatedly gc cachelist (calls + 1) ⟨stale, memory⟩) transcript after)
    (hEmpty : Linked.Ring memory.links cachelist []) (hFresh : Fresh [cachelist] [] transcript) :
    (stale = 0 →
      (∃ nodes, Preallocated cachelist (regsSize after.maxMmioPerNode) after.memory transcript nodes ∧
          walk after.memory.links.next nodes.length cachelist = nodes ∧
          walk after.memory.links.prev nodes.length cachelist = nodes.reverse) ∧
        ∀ slot : Slot, slot.owner < gucCaptureListIndexMax → slot.classid < gucMaxEngineClasses →
          (gc.gucCapListNumRegs slot).toInt ≤ after.maxMmioPerNode.toInt) ∧
      (stale ≠ 0 → transcript = [] ∧ after = ⟨stale, memory⟩) := by
  refine ⟨?_, fun hStale => plays_createRepeatedly_done hStale plays⟩
  rintro rfl
  obtain ⟨first, rest, cache, rfl, hFirst, hRest⟩ := plays_bind_iff.mp plays
  rw [gucCaptureCreatePreallocNodes, if_neg (by simp)] at hFirst
  obtain ⟨nodesMade, ending, made, rfl, hCreate, hReturn⟩ := plays_bind_iff.mp hFirst
  obtain ⟨rfl, rfl⟩ := plays_done_iff.mp hReturn
  obtain ⟨rfl, rfl⟩ := plays_createRepeatedly_done (max_ne_zero gc) hRest
  rw [List.append_nil, List.append_nil] at hFresh ⊢
  have hStart : Waiting cachelist (regsSize gc.gucGetMaxReglistCount) memory [] [] :=
    ⟨hEmpty, .nil, by simp⟩
  obtain ⟨held, nodes, hLedger, hWaiting, hCount⟩ := plays_createNodes hCreate hStart hFresh
  rw [List.nil_append] at hWaiting
  refine ⟨⟨nodes, ?_, hWaiting.ring.walk_next, hWaiting.ring.walk_prev⟩,
    fun slot => numRegs_le_max gc slot⟩
  exact {
    ring := hWaiting.ring
    held := by
      rw [hLedger.after]
      exact hWaiting.held
    right := hLedger.right
    arrays := hWaiting.arrays
    count := hCount }

/-- A device without lists. -/
def noLists : Capture := ⟨none, none, fun _ => none, none⟩

theorem noLists_max : noLists.gucGetMaxReglistCount = preallocNodesDefaultNumregs := by
  decide +kernel

/-- An allocator that gives out six blocks in a row and then refuses. -/
def sixBlocks : Opponent AllocAnswer
  | past, .malloc _ => if past.length < 6 then some (past.length + 1) else none
  | _, .free _ _ => ()

def emptyRing : NodeMemory := ⟨⟨fun _ => 0, fun _ => 0⟩, fun _ => []⟩

/-- The nodes of that allocator. -/
def sixBlocksRun : NodeMemory × Transcript AllocAnswer :=
  (createNodes 0 (regsSize preallocNodesDefaultNumregs) preallocNodesMaxCount emptyRing).against
    sixBlocks

/-- The second node has one of its arrays when the next one is refused. -/
theorem prealloc_nodes_refused :
    ∃ nodes, Preallocated 0 (regsSize preallocNodesDefaultNumregs) sixBlocksRun.1 sixBlocksRun.2
      nodes := by
  have hEmpty : Linked.Ring emptyRing.links 0 [] :=
    ⟨by simp, List.isChain_pair.mpr ⟨rfl, rfl⟩⟩
  have hTranscript : sixBlocksRun.2 =
      [⟨.malloc 88, some 1⟩, ⟨.malloc 1024, some 2⟩, ⟨.malloc 1024, some 3⟩,
        ⟨.malloc 1024, some 4⟩, ⟨.malloc 88, some 5⟩, ⟨.malloc 1024, some 6⟩,
        ⟨.malloc 1024, none⟩, ⟨.free 6 1024, ()⟩, ⟨.free 5 88, ()⟩] := by
    rfl
  have hFresh : Fresh [0] [] sixBlocksRun.2 := by
    rw [hTranscript]
    simp [Fresh, Along, FreshAt, heldStep]
  have hCreate : Plays (gucCaptureCreatePreallocNodes noLists 0 ⟨0, emptyRing⟩) sixBlocksRun.2
      ⟨preallocNodesDefaultNumregs, sixBlocksRun.1⟩ := by
    rw [gucCaptureCreatePreallocNodes, if_neg (by simp), noLists_max]
    exact plays_bind_iff.mpr ⟨_, [], _, (List.append_nil _).symm, plays_against _ sixBlocks, .done _⟩
  have plays : Plays (createRepeatedly noLists 0 (0 + 1) ⟨0, emptyRing⟩) sixBlocksRun.2
      ⟨preallocNodesDefaultNumregs, sixBlocksRun.1⟩ :=
    plays_bind_iff.mpr ⟨_, [], _, (List.append_nil _).symm, hCreate, .done _⟩
  obtain ⟨⟨nodes, hNodes, -⟩, -⟩ := (prealloc_nodes noLists 0 0 0 _ _ _ plays hEmpty hFresh).1 rfl
  exact ⟨nodes, hNodes⟩

end Calls

end NootedBlue.Ads
