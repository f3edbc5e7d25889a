import Mathlib.Algebra.Group.Nat.Defs
import NootedBlue.Semantics.Transcript

/-! Requests to the GuC through its scratch registers. The request is written
word by word, a register triggers the GuC, and the first scratch register then
holds the header of its answer, which may say that the GuC is busy or that the
request has to be made again. -/
namespace NootedBlue.Guc

open Interaction

abbrev Word := BitVec 32

/-- The registers of `struct intel_guc` for requests: where a request is
triggered, and the scratch registers. -/
structure IntelGuc where
  notifyReg : Nat
  base : Nat
  count : Nat
  count_pos : 0 < count
  fits : base + 4 * count ≤ 2 ^ 32

inductive GtType where
  | primary
  | media
  deriving DecidableEq, Repr

/-- The part of `intel_guc_init_early` that sets the registers. -/
def intelGucInitEarly : GtType → IntelGuc
  | .media => ⟨0x190304, 0x190310, 4, by decide, by decide⟩
  | .primary => ⟨0x1901f0, 0x190240, 4, by decide, by decide⟩

/-- `guc_send_reg`. -/
def IntelGuc.sendReg (guc : IntelGuc) (i : Nat) : Nat := (guc.base + 4 * i) % 2 ^ 32

/-- What a request does to the world. -/
inductive SendOp where
  | write (reg : Nat) (value : Word)
  | postingRead (reg : Nat)
  | read (reg : Nat)
  | notify (reg : Nat) (value : Word)
  | waitForRegister (reg : Nat) (mask value : Word) (fastTimeoutUs slowTimeoutUs : Nat)
  | machAbsoluteTime
  | sleep (ms : Nat)
  deriving DecidableEq, Repr

/-- A wait answers its result and the last value that it read. -/
abbrev SendAnswer : SendOp → Type
  | .write _ _ => Unit
  | .postingRead _ => Unit
  | .read _ => Word
  | .notify _ _ => Unit
  | .waitForRegister _ _ _ _ _ => Int × Word
  | .machAbsoluteTime => BitVec 64
  | .sleep _ => Unit

abbrev Send := Program SendOp SendAnswer

/-- `GUC_HXG_MSG_0_ORIGIN`, `GUC_HXG_MSG_0_TYPE` and
`GUC_HXG_RESPONSE_MSG_0_DATA0` of a header. -/
def origin (header : Word) : BitVec 1 := header.extractLsb' 31 1
def hxgType (header : Word) : BitVec 3 := header.extractLsb' 28 3
def data0 (header : Word) : Nat := (header.extractLsb' 0 28).toNat

def originMask : Word := 1 <<< 31
def gucHxgOriginGuc : BitVec 1 := 1
def noResponseBusy : BitVec 3 := 3
def noResponseRetry : BitVec 3 := 5
def responseFailure : BitVec 3 := 6
def responseSuccess : BitVec 3 := 7

def gucSendTrigger : Word := 1

/-- `ENXIO`, `EPROTO` and `ETIME`. -/
def enxio : Int := 6
def eproto : Int := 100
def etime : Int := 101

/-- One second, in the units of `mach_absolute_time`. -/
def busyTimeoutNs : BitVec 64 := 1000 * 1000000

/-- One look at a busy GuC: another header, or too much time has passed. -/
def busyOnce (guc : IntelGuc) (start : BitVec 64) : Send (Iteration Unit (Except Int Word)) := do
  let header ← Program.perform (SendOp.read (guc.sendReg 0))
  if origin header ≠ gucHxgOriginGuc ∨ hxgType header ≠ noResponseBusy then
    return .stop (.ok header)
  else do
    let now ← Program.perform SendOp.machAbsoluteTime
    if now - start ≥ busyTimeoutNs then return .stop (.error (-etime))
    else do
      let _ ← Program.perform (SendOp.sleep 1)
      return .next ()

/-- What a header that is not busy asks for: the request again, an error, or
the answer. -/
def classify (header : Word) : Iteration Unit (Except Int Word) :=
  if hxgType header = noResponseRetry then .next ()
  else if hxgType header = responseFailure then .stop (.error (-enxio))
  else if hxgType header ≠ responseSuccess then .stop (.error (-eproto))
  else .stop (.ok header)

/-- What follows the wait while the GuC was busy. -/
def afterBusy : Except Int Word → Iteration Unit (Except Int Word)
  | .error ret => .stop (.error ret)
  | .ok header =>
      if origin header ≠ gucHxgOriginGuc then .stop (.error (-eproto)) else classify header

/-- What follows the trigger. Nothing means that the fuel ran out while the GuC
was busy. -/
def awaitAnswer (guc : IntelGuc) (fuel : Nat) :
    Send (Option (Iteration Unit (Except Int Word))) := do
  let (ret, header) ← Program.perform
    (SendOp.waitForRegister (guc.sendReg 0) originMask originMask 10 (10 * 1000))
  if ret ≠ 0 then return some (.stop (.error ret))
  else if hxgType header = noResponseBusy then do
    let start ← Program.perform SendOp.machAbsoluteTime
    let result ← loop (fun _ => busyOnce guc start) fuel ()
    return result.map afterBusy
  else return some (classify header)

/-- Write the words of a request, from the given register on. -/
def writeRequest (guc : IntelGuc) : Nat → List Word → Send Unit
  | _, [] => return ()
  | i, word :: rest => do
      let _ ← Program.perform (SendOp.write (guc.sendReg i) word)
      writeRequest guc (i + 1) rest

/-- One pass from the label `retry` on. -/
def attempt (guc : IntelGuc) (request : List Word) (fuel : Nat) :
    Send (Iteration Unit (Option (Except Int Word))) := do
  writeRequest guc 0 request
  let _ ← Program.perform
    (SendOp.postingRead (guc.sendReg ((request.length + (2 ^ 32 - 1)) % 2 ^ 32)))
  let _ ← Program.perform (SendOp.notify guc.notifyReg gucSendTrigger)
  let answer ← awaitAnswer guc fuel
  return match answer with
    | none => .stop none
    | some (.next ()) => .next ()
    | some (.stop result) => .stop (some result)

/-- Read the words of a response, from the given register on. -/
def readResponse (guc : IntelGuc) : Nat → Nat → Send (List Word)
  | _, 0 => return []
  | i, count + 1 => do
      let word ← Program.perform (SendOp.read (guc.sendReg i))
      let rest ← readResponse guc (i + 1) count
      return word :: rest

/-- The result of a call, with what is in the response buffer afterwards. -/
structure Reply where
  ret : Int
  responseBuf : Option (List Word)
  deriving DecidableEq, Repr

/-- What a call does with the header of a success. -/
def respond (guc : IntelGuc) (responseBuf : Option (List Word)) (header : Word) : Send Reply :=
  match responseBuf with
  | none => return ⟨data0 header, none⟩
  | some buf => do
      let count := min buf.length guc.count
      let rest ← readResponse guc 1 (count - 1)
      return ⟨count, some ((header :: rest) ++ buf.drop (rest.length + 1))⟩

/-- `intel_guc_send_mmio`. Nothing means that the fuel ran out. -/
def intelGucSendMmio (guc : IntelGuc) (request : List Word) (responseBuf : Option (List Word))
    (fuel : Nat) : Send (Option Reply) := do
  let result ← loop (fun _ => attempt guc request fuel) fuel ()
  match result.join with
  | none => return none
  | some (.error ret) => return some ⟨ret, responseBuf⟩
  | some (.ok header) => do
      let reply ← respond guc responseBuf header
      return some reply

end NootedBlue.Guc
