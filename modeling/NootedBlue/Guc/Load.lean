import Mathlib.Algebra.BigOperators.Group.List.Basic
import Mathlib.Algebra.Ring.Int.Defs
import NootedBlue.Guc.Firmware
import NootedBlue.Semantics.Transcript

/-! Loading the GuC. A call obtains a buffer, wakes the hardware, starts a copy and
waits for the GuC; on the way it may fail in many places. A marker that it is
loaded already is set before the first of them. -/
namespace NootedBlue.Guc

open Interaction Bytes

/-- A firmware file: its size and its bytes, and whatever memory has behind them. -/
structure FirmwareFile where
  size : Nat
  memory : Memory

/-- The files that may be asked for: `tgl_guc_35.2.0.bin` and `adlp_guc_62.0.3.bin`. -/
inductive FirmwareName where
  | tgl
  | adlp
  deriving DecidableEq, Repr

/-- What `getFWByName` finds. A name that is not known is a panic. -/
inductive FoundFirmware where
  | unknown
  | noData
  | file (file : FirmwareFile)

/-- What a call does to the world. Everything between the wake and the transfer is
one operation: the workarounds, WOPCM, the tables and the parameters, which depend
on the version of the firmware. -/
inductive LoadOp where
  | getFWByName (name : FirmwareName)
  | igSharedMappedBuffer (size : Nat)
  | igSharedMappedBufferfree
  | fgetVirtualAddress
  | fgetGPUVirtualAddress
  | initSchedControl
  | safeForceWake (on : Bool)
  | copy (bytes : List UInt8)
  | prepare (wopcmSize : Nat) (ver : IntelUcFwVer)
  | write (reg : Nat) (value : Word)
  | read (reg : Nat)
  | delay (us : Nat)
  deriving DecidableEq

/-- A buffer may be obtained or not, and a virtual address may be there or not. -/
abbrev LoadAnswer : LoadOp → Type
  | .getFWByName _ => FoundFirmware
  | .igSharedMappedBuffer _ => Bool
  | .fgetVirtualAddress => Bool
  | .fgetGPUVirtualAddress => BitVec 64
  | .initSchedControl => Bool
  | .read _ => Word
  | _ => Unit

abbrev Load := Program LoadOp LoadAnswer

abbrev LoadTranscript := Transcript LoadAnswer

/-- How a call ends. -/
inductive LoadOutcome where
  | returned (value : Nat)
  | panicked
  deriving DecidableEq, Repr

section Registers

/-- `UOS_RSA_SCRATCH`, `GUC_STATUS` and the registers of the DMA. -/
def uosRsaScratch (i : Nat) : Nat := 0xc200 + i * 4
def gucStatus : Nat := 0xc000
def dmaAddr0Low : Nat := 0xc300
def dmaAddr0High : Nat := 0xc304
def dmaAddr1Low : Nat := 0xc308
def dmaAddr1High : Nat := 0xc30c
def dmaCopySizeReg : Nat := 0xc310
def dmaCtrl : Nat := 0xc314

def dmaAddressSpaceWopcm : Word := 7 <<< 16
def startDma : Word := 1
def uosMove : Word := 1 <<< 4

/-- `REG_MASKED_FIELD_ENABLE` and `REG_MASKED_FIELD_DISABLE`. -/
def maskedFieldEnable (mask : Word) : Word := (mask <<< 16) ||| mask
def maskedFieldDisable (mask : Word) : Word := mask <<< 16

/-- The copy is still going on. -/
def Copying (ctrl : Word) : Bool := ctrl.getLsbD 0

/-- What `guc_load_done` makes of a status that was no success before:
`GS_UKERNEL_MASK` says `INTEL_GUC_LOAD_STATUS_READY`. -/
def gucLoadDone (status : Word) : Bool := status.extractLsb' 8 8 = 0xF0#8

end Registers

section Call

/-- Write registers one after the other. -/
def writeAll : List (Nat × Word) → Load Unit
  | [] => return ()
  | (reg, value) :: rest => do
      let _ ← Program.perform (LoadOp.write reg value)
      writeAll rest

/-- The key, and the transfer that is started at last. -/
def transferWrites (image : GucImage) (gpuAddr : BitVec 64) : List (Nat × Word) :=
  image.rsa.zipIdx.map (fun (value, i) => (uosRsaScratch i, .ofNat 32 value)) ++
    [(dmaAddr0Low, gpuAddr.extractLsb' 0 32), (dmaAddr0High, gpuAddr.extractLsb' 32 32),
      (dmaAddr1Low, .ofNat 32 dstOffset), (dmaAddr1High, dmaAddressSpaceWopcm),
      (dmaCopySizeReg, .ofNat 32 (dmaCopySize image.header)),
      (dmaCtrl, maskedFieldEnable (uosMove ||| startDma))]

/-- One look at the transfer. -/
def transferOnce : Load (Iteration Unit Unit) := do
  let ctrl ← Program.perform (LoadOp.read dmaCtrl)
  if Copying ctrl then do
    let _ ← Program.perform (LoadOp.delay 100)
    return .next ()
  else return .stop ()

/-- One look at the status. -/
def statusOnce : Load (Iteration Unit Unit) := do
  let status ← Program.perform (LoadOp.read gucStatus)
  if gucLoadDone status then return .stop ()
  else do
    let _ ← Program.perform (LoadOp.delay 1000)
    return .next ()

/-- The wait for the GuC, with rounds of 1000 looks. -/
def awaitReady : Nat → Load Bool
  | 0 => return false
  | retries + 1 => do
      let ready ← loop (fun _ => statusOnce) 1000 ()
      match ready with
      | some () => return true
      | none => awaitReady retries

/-- The end of a call: the hardware may sleep again, and the buffer is freed. -/
def release (outcome : LoadOutcome) : Load LoadOutcome := do
  let _ ← Program.perform (LoadOp.safeForceWake false)
  let _ ← Program.perform LoadOp.igSharedMappedBufferfree
  return outcome

/-- The part behind `initSchedControl`. -/
def transfer (image : GucImage) (gpuAddr : BitVec 64) : Load LoadOutcome := do
  let _ ← Program.perform (LoadOp.safeForceWake true)
  let ver := ucUnpackCssVersion image.header.swVersion
  let _ ← Program.perform (LoadOp.prepare (dmaCopySize image.header) ver)
  writeAll (transferWrites image gpuAddr)
  let copied ← loop (fun _ => transferOnce) 1000 ()
  match copied with
  | none => release (.returned 0)
  | some () => do
      let _ ← Program.perform (LoadOp.write dmaCtrl (maskedFieldDisable uosMove))
      let ready ← awaitReady 3
      release (if ready then .returned 1 else .panicked)

/-- A failure for which only the buffer is freed. -/
def freeBuffer : Load LoadOutcome := do
  let _ ← Program.perform LoadOp.igSharedMappedBufferfree
  return .returned 0

/-- The part with a buffer. A failure of `initSchedControl` leaves it. -/
def fillBuffer (image : GucImage) : Load LoadOutcome := do
  let mapped ← Program.perform LoadOp.fgetVirtualAddress
  if mapped then do
    let _ ← Program.perform (LoadOp.copy image.copied)
    let gpuAddr ← Program.perform LoadOp.fgetGPUVirtualAddress
    if gpuAddr = 0 then freeBuffer
    else do
      let scheduled ← Program.perform LoadOp.initSchedControl
      if scheduled then transfer image gpuAddr else return .returned 0
  else freeBuffer

/-- The part with a file that is not rejected. -/
def loadImage (size : Nat) (image : GucImage) : Load LoadOutcome := do
  let obtained ← Program.perform (LoadOp.igSharedMappedBuffer (roundUp size pageSize))
  if obtained then fillBuffer image else return .returned 0

/-- The file for the platform. The one for Tiger Lake is looked up in any case. -/
def findFirmware (alderlake : Bool) : Load FoundFirmware := do
  let found ← Program.perform (LoadOp.getFWByName .tgl)
  match found with
  | .unknown => return .unknown
  | found => if alderlake then Program.perform (LoadOp.getFWByName .adlp) else return found

/-- The part behind the marker. -/
def loadFile (alderlake : Bool) : Load LoadOutcome := do
  let found ← findFirmware alderlake
  match found with
  | .unknown => return .panicked
  | .noData => return .returned 0
  | .file file =>
      match (readFirmware file.size).answer file.memory with
      | none => return .returned 0
      | some image => loadImage file.size image

/-- `loadGuCBinary`: how it ends, and whether the marker `gucp` is set then. The
display and the accelerator may be there or not. -/
def loadGuCBinary (alderlake gucp present : Bool) : Load (LoadOutcome × Bool) :=
  if gucp then return (.returned 1, true)
  else if !present then return (.returned 0, false)
  else do
    let outcome ← loadFile alderlake
    return (outcome, true)

end Call

/-- What has to be given back. -/
inductive Resource where
  | buffer
  | forceWake
  deriving DecidableEq

/-- How many more of a resource there are after an operation. -/
def held : Resource → Exchange LoadAnswer → Int
  | .buffer, ⟨.igSharedMappedBuffer _, obtained⟩ => if obtained then 1 else 0
  | .buffer, ⟨.igSharedMappedBufferfree, _⟩ => -1
  | .forceWake, ⟨.safeForceWake on, _⟩ => if on then 1 else -1
  | _, _ => 0

/-- How many of a resource are held after a call. -/
def net (resource : Resource) (transcript : LoadTranscript) : Int :=
  (transcript.map (held resource)).sum

/-- Everything was given back. -/
def Released (transcript : LoadTranscript) : Prop := ∀ resource, net resource transcript = 0

/-- The GuC was seen ready. -/
def Ready (transcript : LoadTranscript) : Prop :=
  ∃ status, gucLoadDone status ∧ ⟨.read gucStatus, status⟩ ∈ transcript

/-- The firmware was transferred and the GuC was seen ready. -/
structure Loaded (transcript : LoadTranscript) : Prop where
  started : ⟨.write dmaCtrl (maskedFieldEnable (uosMove ||| startDma)), ()⟩ ∈ transcript
  transferred : ∃ ctrl, ¬ Copying ctrl ∧ ⟨.read dmaCtrl, ctrl⟩ ∈ transcript
  ready : Ready transcript

/-- `initSchedControl` has failed. -/
def SchedFails (transcript : LoadTranscript) : Prop := ⟨.initSchedControl, false⟩ ∈ transcript

section Net

variable {resource : Resource} {exchange : Exchange LoadAnswer}
  {first rest transcript : LoadTranscript}

@[simp] theorem net_nil : net resource [] = 0 := rfl

@[simp] theorem net_cons :
    net resource (exchange :: rest) = held resource exchange + net resource rest := by
  simp [net]

@[simp] theorem net_append :
    net resource (first ++ rest) = net resource first + net resource rest := by
  simp [net]

/-- An operation that neither takes nor gives back anything, and is no look at the
status. -/
def Quiet (exchange : Exchange LoadAnswer) : Prop :=
  match exchange.1 with
  | .igSharedMappedBuffer _ | .igSharedMappedBufferfree => False
  | .safeForceWake _ | .initSchedControl => False
  | .read reg => reg ≠ gucStatus
  | _ => True

/-- The same, and a look at the status may be among them. -/
def Plain (exchange : Exchange LoadAnswer) : Prop :=
  Quiet exchange ∨ ∃ status, exchange = ⟨.read gucStatus, status⟩

theorem held_of_plain (h : Plain exchange) : held resource exchange = 0 := by
  rcases h with hQuiet | ⟨status, rfl⟩
  · obtain ⟨op, answer⟩ := exchange
    cases resource
    all_goals cases op
    all_goals first
      | rfl
      | exact False.elim hQuiet
  · cases resource
    all_goals rfl

theorem net_of_plain (h : ∀ exchange ∈ transcript, Plain exchange) :
    net resource transcript = 0 := by
  induction transcript with
  | nil => rfl
  | cons exchange rest ih =>
      rw [net_cons, held_of_plain (h exchange List.mem_cons_self),
        ih fun later hMem => h later (List.mem_cons_of_mem _ hMem), Int.zero_add]

theorem not_ready_of_quiet (h : ∀ exchange ∈ transcript, Quiet exchange) : ¬ Ready transcript :=
  fun ⟨_, _, hMem⟩ => h _ hMem rfl

theorem not_schedFails_of_plain (h : ∀ exchange ∈ transcript, Plain exchange) :
    ¬ SchedFails transcript := by
  intro hFails
  rcases h _ hFails with hQuiet | ⟨status, hStatus⟩
  · exact hQuiet
  · cases hStatus

theorem ready_append_iff : Ready (first ++ rest) ↔ Ready first ∨ Ready rest := by
  simp only [Ready, List.mem_append]
  constructor
  · rintro ⟨status, hDone, hFirst | hRest⟩
    · exact .inl ⟨status, hDone, hFirst⟩
    · exact .inr ⟨status, hDone, hRest⟩
  · rintro (⟨status, hDone, hFirst⟩ | ⟨status, hDone, hRest⟩)
    · exact ⟨status, hDone, .inl hFirst⟩
    · exact ⟨status, hDone, .inr hRest⟩

end Net

section Waits

variable {fuel : Nat} {start : Unit} {transcript : LoadTranscript} {result : Option Unit}

theorem plays_transferOnce {iteration : Iteration Unit Unit}
    (plays : Plays transferOnce transcript iteration) :
    (∀ exchange ∈ transcript, Quiet exchange) ∧
      (iteration = .stop () → ∃ ctrl, ¬ Copying ctrl ∧ ⟨.read dmaCtrl, ctrl⟩ ∈ transcript) := by
  simp only [transferOnce, Program.perform_bind] at plays
  obtain ⟨ctrl, rest, rfl, hRest⟩ := plays_call_iff.mp plays
  split at hRest
  · obtain ⟨-, behind, rfl, hDone⟩ := plays_call_iff.mp hRest
    obtain ⟨rfl, rfl⟩ := plays_done_iff.mp hDone
    simp [Quiet, dmaCtrl, gucStatus]
  · next hStopped =>
      obtain ⟨rfl, rfl⟩ := plays_done_iff.mp hRest
      refine ⟨by simp [Quiet, dmaCtrl, gucStatus], fun _ => ⟨ctrl, hStopped, List.mem_cons_self⟩⟩

/-- The wait for the transfer is quiet, and if it succeeds the copy was seen to have
stopped. -/
theorem plays_transferLoop
    (plays : Plays (loop (fun _ => transferOnce) fuel start) transcript result) :
    (∀ exchange ∈ transcript, Quiet exchange) ∧
      (result.isSome → ∃ ctrl, ¬ Copying ctrl ∧ ⟨.read dmaCtrl, ctrl⟩ ∈ transcript) := by
  apply plays_loop_rule ?_ ?_ ?_ plays
  · simp
  · intro _ _ transcript _ hOnce
    obtain ⟨hQuiet, hStop⟩ := plays_transferOnce hOnce
    exact ⟨hQuiet, fun _ => hStop rfl⟩
  · rintro _ _ first _ rest result hOnce ⟨hRest, hStop⟩
    obtain ⟨hFirst, -⟩ := plays_transferOnce hOnce
    refine ⟨List.forall_mem_append.mpr ⟨hFirst, hRest⟩, fun hSome => ?_⟩
    obtain ⟨ctrl, hStopped, hMem⟩ := hStop hSome
    exact ⟨ctrl, hStopped, List.mem_append_right _ hMem⟩

theorem plays_statusOnce {iteration : Iteration Unit Unit}
    (plays : Plays statusOnce transcript iteration) :
    (∀ exchange ∈ transcript, Plain exchange) ∧ (iteration = .stop () ↔ Ready transcript) := by
  simp only [statusOnce, Program.perform_bind] at plays
  obtain ⟨status, rest, rfl, hRest⟩ := plays_call_iff.mp plays
  split at hRest
  · next hDone =>
      obtain ⟨rfl, rfl⟩ := plays_done_iff.mp hRest
      simp [Plain, Ready, hDone]
  · next hBusy =>
      obtain ⟨-, behind, rfl, hDone⟩ := plays_call_iff.mp hRest
      obtain ⟨rfl, rfl⟩ := plays_done_iff.mp hDone
      simp [Plain, Quiet, Ready, hBusy]

theorem plays_statusLoop (plays : Plays (loop (fun _ => statusOnce) fuel start) transcript result) :
    (∀ exchange ∈ transcript, Plain exchange) ∧ (result.isSome ↔ Ready transcript) := by
  apply plays_loop_rule ?_ ?_ ?_ plays
  · simp [Ready]
  · intro _ _ transcript _ hOnce
    obtain ⟨hPlain, hStop⟩ := plays_statusOnce hOnce
    exact ⟨hPlain, by simpa using hStop⟩
  · rintro _ _ first _ rest result hOnce ⟨hRest, hStop⟩
    obtain ⟨hFirst, hNext⟩ := plays_statusOnce hOnce
    have hBusy : ¬ Ready first := fun hReady => by simpa using hNext.mpr hReady
    refine ⟨List.forall_mem_append.mpr ⟨hFirst, hRest⟩, ?_⟩
    rw [ready_append_iff, or_iff_right hBusy]
    exact hStop

/-- The wait for the GuC succeeds just when it was seen ready. -/
theorem plays_awaitReady {retries : Nat} {ready : Bool}
    (plays : Plays (awaitReady retries) transcript ready) :
    (∀ exchange ∈ transcript, Plain exchange) ∧ (ready = true ↔ Ready transcript) := by
  induction retries generalizing transcript with
  | zero =>
      obtain ⟨rfl, rfl⟩ := plays_done_iff.mp plays
      simp [Ready]
  | succ retries ih =>
      obtain ⟨first, rest, seen, rfl, hLoop, hRest⟩ := plays_bind_iff.mp plays
      obtain ⟨hFirst, hSeen⟩ := plays_statusLoop hLoop
      cases seen with
      | some done =>
          obtain ⟨rfl, rfl⟩ := plays_done_iff.mp hRest
          rw [List.append_nil]
          exact ⟨hFirst, by simpa using hSeen⟩
      | none =>
          obtain ⟨hLater, hReady⟩ := ih hRest
          have hBusy : ¬ Ready first := fun h => by simpa using hSeen.mpr h
          refine ⟨List.forall_mem_append.mpr ⟨hFirst, hLater⟩, ?_⟩
          rw [ready_append_iff, or_iff_right hBusy]
          exact hReady

theorem plays_writeAll {writes : List (Nat × Word)} {done : Unit}
    (plays : Plays (writeAll writes) transcript done) :
    transcript = writes.map fun write => ⟨.write write.1 write.2, ()⟩ := by
  induction writes generalizing transcript with
  | nil => exact (plays_done_iff.mp plays).1
  | cons write rest ih =>
      simp only [writeAll, Program.perform_bind] at plays
      obtain ⟨-, later, rfl, hLater⟩ := plays_call_iff.mp plays
      rw [ih hLater]
      rfl

end Waits

section Outcomes

variable {transcript : LoadTranscript} {outcome : LoadOutcome} {image : GucImage}
  {gpuAddr : BitVec 64}

theorem plays_release {result : LoadOutcome} (plays : Plays (release outcome) transcript result) :
    transcript = [⟨.safeForceWake false, ()⟩, ⟨.igSharedMappedBufferfree, ()⟩] ∧
      result = outcome := by
  simp only [release, Program.perform_bind] at plays
  obtain ⟨-, first, rfl, hFree⟩ := plays_call_iff.mp plays
  obtain ⟨-, second, rfl, hDone⟩ := plays_call_iff.mp hFree
  obtain ⟨rfl, rfl⟩ := plays_done_iff.mp hDone
  exact ⟨rfl, rfl⟩

theorem plays_freeBuffer (plays : Plays freeBuffer transcript outcome) :
    transcript = [⟨.igSharedMappedBufferfree, ()⟩] ∧ outcome = .returned 0 := by
  simp only [freeBuffer, Program.perform_bind] at plays
  obtain ⟨-, first, rfl, hDone⟩ := plays_call_iff.mp plays
  obtain ⟨rfl, rfl⟩ := plays_done_iff.mp hDone
  exact ⟨rfl, rfl⟩

/-- A failure: nothing was seen ready, and all but some buffers was given back. -/
structure Failed (transcript : LoadTranscript) (buffers : Int) : Prop where
  notReady : ¬ Ready transcript
  buffer : net .buffer transcript = buffers
  forceWake : net .forceWake transcript = 0

/-- The ways a part of a call ends: the GuC is loaded, or there is a panic, or the
part fails. A failure leaves some buffers, and one more if it was `initSchedControl`
that failed. -/
inductive Ends (transcript : LoadTranscript) (buffers : Int) : LoadOutcome → Prop where
  | loaded (h : Loaded transcript) : Ends transcript buffers (.returned 1)
  | panicked : Ends transcript buffers .panicked
  | failed (hSched : ¬ SchedFails transcript) (h : Failed transcript buffers) :
      Ends transcript buffers (.returned 0)
  | leaked (hSched : SchedFails transcript) (h : Failed transcript (buffers + 1)) :
      Ends transcript buffers (.returned 0)

theorem Loaded.cons {exchange : Exchange LoadAnswer} {rest : LoadTranscript} (h : Loaded rest) :
    Loaded (exchange :: rest) := by
  obtain ⟨hStarted, ⟨ctrl, hStopped, hLook⟩, status, hDone, hStatus⟩ := h
  exact {
    started := List.mem_cons_of_mem _ hStarted
    transferred := ⟨ctrl, hStopped, List.mem_cons_of_mem _ hLook⟩
    ready := ⟨status, hDone, List.mem_cons_of_mem _ hStatus⟩ }

/-- Operations that are no looks at the status, no failures of `initSchedControl`
and do not touch the force wake. -/
def Unseen (exchange : Exchange LoadAnswer) : Prop :=
  (∀ status, exchange ≠ ⟨.read gucStatus, status⟩) ∧ exchange ≠ ⟨.initSchedControl, false⟩ ∧
    held .forceWake exchange = 0

theorem Failed.cons {exchange : Exchange LoadAnswer} {rest : LoadTranscript} {buffers : Int}
    (h : Failed rest buffers) (hUnseen : Unseen exchange) :
    Failed (exchange :: rest) (held .buffer exchange + buffers) := by
  obtain ⟨hStatus, -, hWake⟩ := hUnseen
  exact {
    notReady := by
      rintro ⟨status, hDone, hMem⟩
      cases List.mem_cons.mp hMem with
      | inl hHere => exact hStatus status hHere.symm
      | inr hLater => exact h.notReady ⟨status, hDone, hLater⟩
    buffer := by rw [net_cons, h.buffer]
    forceWake := by rw [net_cons, h.forceWake, hWake, Int.zero_add] }

/-- What an operation before a part adds to its end. -/
theorem Ends.cons {exchange : Exchange LoadAnswer} {rest : LoadTranscript} {buffers : Int}
    (h : Ends rest buffers outcome) (hUnseen : Unseen exchange) :
    Ends (exchange :: rest) (held .buffer exchange + buffers) outcome := by
  have hSame : SchedFails (exchange :: rest) ↔ SchedFails rest := by
    rw [SchedFails, List.mem_cons]
    exact or_iff_right hUnseen.2.1.symm
  cases h with
  | loaded h => exact .loaded h.cons
  | panicked => exact .panicked
  | failed hSched h => exact .failed (mt hSame.mp hSched) (h.cons hUnseen)
  | leaked hSched h =>
      refine .leaked (hSame.mpr hSched) ?_
      rw [Int.add_assoc]
      exact h.cons hUnseen

theorem Quiet.unseen {exchange : Exchange LoadAnswer} (h : Quiet exchange) : Unseen exchange := by
  refine ⟨?_, ?_, held_of_plain (.inl h)⟩
  · rintro status rfl
    exact h rfl
  · rintro rfl
    exact h

/-- Quiet operations before a part change nothing of its end. -/
theorem Ends.behind {first rest : LoadTranscript} {buffers : Int}
    (h : Ends rest buffers outcome) (hQuiet : ∀ exchange ∈ first, Quiet exchange) :
    Ends (first ++ rest) buffers outcome := by
  induction first with
  | nil => exact h
  | cons exchange first ih =>
      have hFirst := hQuiet exchange List.mem_cons_self
      have hLater := ih fun later hMem => hQuiet later (List.mem_cons_of_mem _ hMem)
      have hAdded := hLater.cons hFirst.unseen
      rw [held_of_plain (.inl hFirst), Int.zero_add] at hAdded
      exact hAdded

/-- A part that does nothing but quiet operations before it gives up. -/
theorem ends_of_quiet (hQuiet : ∀ exchange ∈ transcript, Quiet exchange) :
    Ends transcript 0 (.returned 0) := by
  have hPlain : ∀ exchange ∈ transcript, Plain exchange := fun _ hMem => .inl (hQuiet _ hMem)
  exact .failed (not_schedFails_of_plain hPlain) {
    notReady := not_ready_of_quiet hQuiet
    buffer := net_of_plain hPlain
    forceWake := net_of_plain hPlain }

theorem transferWrites_quiet (image : GucImage) (gpuAddr : BitVec 64) :
    ∀ exchange ∈ (transferWrites image gpuAddr).map fun write =>
      (⟨.write write.1 write.2, ()⟩ : Exchange LoadAnswer), Quiet exchange := by
  intro exchange hMem
  obtain ⟨write, -, rfl⟩ := List.mem_map.mp hMem
  trivial

/-- The transfer loads the GuC, or it panics, or it fails and frees the buffer. -/
theorem plays_transfer (plays : Plays (transfer image gpuAddr) transcript outcome) :
    Ends transcript (-1) outcome := by
  simp only [transfer, Program.perform_bind] at plays
  obtain ⟨-, _, rfl, hPrepare⟩ := plays_call_iff.mp plays
  obtain ⟨-, _, rfl, hBehind⟩ := plays_call_iff.mp hPrepare
  obtain ⟨writes, _, written, rfl, hWrites, hWait⟩ := plays_bind_iff.mp hBehind
  obtain ⟨looks, _, copied, rfl, hLoop, hEnd⟩ := plays_bind_iff.mp hWait
  obtain rfl := plays_writeAll hWrites
  obtain ⟨hLooks, hStopped⟩ := plays_transferLoop hLoop
  have hBefore := List.forall_mem_append.mpr ⟨transferWrites_quiet image gpuAddr, hLooks⟩
  have hPlain : ∀ exchange ∈ _ ++ looks, Plain exchange := fun _ hMem => .inl (hBefore _ hMem)
  cases copied with
  | none =>
      obtain ⟨rfl, rfl⟩ := plays_release hEnd
      have hSched := not_schedFails_of_plain hPlain
      have hReady := not_ready_of_quiet hBefore
      have hNone : ∀ resource, net resource looks = 0 := fun _ =>
        net_of_plain fun _ hMem => .inl (hLooks _ hMem)
      have hWritten : ∀ resource, net resource _ = 0 := fun _ =>
        net_of_plain fun _ hMem => .inl (transferWrites_quiet image gpuAddr _ hMem)
      refine .failed (by simpa [SchedFails] using hSched) ?_
      exact {
        notReady := by simpa [Ready] using hReady
        buffer := by simp [hNone, hWritten, held]
        forceWake := by simp [hNone, hWritten, held] }
  | some done =>
      simp only at hEnd
      obtain ⟨-, _, rfl, hReady⟩ := plays_call_iff.mp hEnd
      obtain ⟨waits, _, ready, rfl, hAwait, hRelease⟩ := plays_bind_iff.mp hReady
      obtain ⟨-, hSeen⟩ := plays_awaitReady hAwait
      obtain ⟨rfl, rfl⟩ := plays_release hRelease
      cases ready with
      | false => exact .panicked
      | true =>
          obtain ⟨ctrl, hCtrl, hLook⟩ := hStopped rfl
          obtain ⟨status, hDone, hStatus⟩ := hSeen.mp rfl
          exact .loaded {
            started := by simp [transferWrites]
            transferred := ⟨ctrl, hCtrl, by simp [hLook]⟩
            ready := ⟨status, hDone, by simp [hStatus]⟩ }

/-- A look for a file takes and gives back nothing. -/
theorem plays_findFirmware {alderlake : Bool} {found : FoundFirmware}
    (plays : Plays (findFirmware alderlake) transcript found) :
    ∀ exchange ∈ transcript, Quiet exchange := by
  simp only [findFirmware, Program.perform_bind] at plays
  obtain ⟨first, rest, rfl, hRest⟩ := plays_call_iff.mp plays
  split at hRest
  · obtain ⟨rfl, rfl⟩ := plays_done_iff.mp hRest
    simp [Quiet]
  · split at hRest
    · obtain ⟨second, behind, rfl, hDone⟩ := plays_call_iff.mp hRest
      obtain ⟨rfl, rfl⟩ := plays_done_iff.mp hDone
      simp [Quiet]
    · obtain ⟨rfl, rfl⟩ := plays_done_iff.mp hRest
      simp [Quiet]

/-- With a buffer every failure frees it but that of `initSchedControl`. -/
theorem plays_fillBuffer (plays : Plays (fillBuffer image) transcript outcome) :
    Ends transcript (-1) outcome := by
  have hFreed : Ends [⟨.igSharedMappedBufferfree, ()⟩] (-1) (.returned 0) :=
    .failed (by simp [SchedFails]) {
      notReady := by simp [Ready]
      buffer := rfl
      forceWake := rfl }
  simp only [fillBuffer, Program.perform_bind] at plays
  obtain ⟨mapped, _, rfl, hMapped⟩ := plays_call_iff.mp plays
  have hLook : ∀ exchange ∈ [(⟨.fgetVirtualAddress, mapped⟩ : Exchange LoadAnswer)],
      Quiet exchange := by simp [Quiet]
  split at hMapped
  · obtain ⟨-, _, rfl, hCopied⟩ := plays_call_iff.mp hMapped
    obtain ⟨gpuAddr, _, rfl, hAddr⟩ := plays_call_iff.mp hCopied
    have hQuiet : ∀ exchange ∈ [⟨.fgetVirtualAddress, mapped⟩, ⟨.copy image.copied, ()⟩,
        (⟨.fgetGPUVirtualAddress, gpuAddr⟩ : Exchange LoadAnswer)], Quiet exchange := by
      simp [Quiet]
    split at hAddr
    · obtain ⟨rfl, rfl⟩ := plays_freeBuffer hAddr
      exact hFreed.behind hQuiet
    · obtain ⟨scheduled, rest, rfl, hSched⟩ := plays_call_iff.mp hAddr
      have hEnds : Ends (⟨.initSchedControl, scheduled⟩ :: rest) (-1) outcome := by
        split at hSched
        · next hDone =>
            subst hDone
            exact (plays_transfer hSched).cons ⟨by simp, by simp, rfl⟩
        · next hFailed =>
            obtain ⟨rfl, rfl⟩ := plays_done_iff.mp hSched
            obtain rfl := Bool.eq_false_iff.mpr hFailed
            exact .leaked (by simp [SchedFails]) {
              notReady := by simp [Ready]
              buffer := rfl
              forceWake := rfl }
      exact hEnds.behind hQuiet
  · obtain ⟨rfl, rfl⟩ := plays_freeBuffer hMapped
    exact hFreed.behind hLook

theorem plays_loadImage {size : Nat} (plays : Plays (loadImage size image) transcript outcome) :
    Ends transcript 0 outcome := by
  simp only [loadImage, Program.perform_bind] at plays
  obtain ⟨obtained, rest, rfl, hRest⟩ := plays_call_iff.mp plays
  split at hRest
  · next hObtained =>
      subst hObtained
      exact (plays_fillBuffer hRest).cons ⟨by simp, by simp, rfl⟩
  · next hRefused =>
      obtain ⟨rfl, rfl⟩ := plays_done_iff.mp hRest
      obtain rfl := Bool.eq_false_iff.mpr hRefused
      exact .failed (by simp [SchedFails]) {
        notReady := by simp [Ready]
        buffer := rfl
        forceWake := rfl }

/-- A call behind the marker loads the GuC, or it panics, or it fails; then
everything is given back unless it was `initSchedControl` that failed. -/
theorem plays_loadFile {alderlake : Bool} (plays : Plays (loadFile alderlake) transcript outcome) :
    Ends transcript 0 outcome := by
  obtain ⟨first, rest, found, rfl, hFind, hRest⟩ := plays_bind_iff.mp plays
  refine Ends.behind ?_ (plays_findFirmware hFind)
  split at hRest
  · obtain ⟨rfl, rfl⟩ := plays_done_iff.mp hRest
    exact .panicked
  · obtain ⟨rfl, rfl⟩ := plays_done_iff.mp hRest
    exact ends_of_quiet (by simp)
  · split at hRest
    · obtain ⟨rfl, rfl⟩ := plays_done_iff.mp hRest
      exact ends_of_quiet (by simp)
    · exact plays_loadImage hRest

end Outcomes

end NootedBlue.Guc
