import Mathlib.Logic.Basic
import NootedBlue.Semantics.Transcript

/-! The mailbox of the power controller. A request is posted with the bit READY,
which the firmware clears when it has put its answer into the same register; the
driver is to poll for that, to decode the answer, and to read the data words
after it. -/
namespace NootedBlue.Pcode

open Interaction

abbrev Word := BitVec 32

/-- What a request does to the world. -/
inductive PcodeOp where
  | read (reg : Nat)
  | write (reg : Nat) (value : Word)
  | delay (us : Nat)
  | sleep (ms : Nat)
  deriving DecidableEq, Repr

abbrev PcodeAnswer : PcodeOp → Type
  | .read _ => Word
  | .write _ _ => Unit
  | .delay _ => Unit
  | .sleep _ => Unit

abbrev PcodeProgram := Program PcodeOp PcodeAnswer

/-- `GEN6_PCODE_MAILBOX`, `GEN6_PCODE_DATA` and `GEN6_PCODE_DATA1`. -/
def pcodeMailbox : Nat := 0x138124
def pcodeData : Nat := 0x138128
def pcodeData1 : Nat := 0x13812C

def pcodeReady : Word := 1 <<< 31
def pcodeErrorMask : Word := 0xFF

/-- The numbers of the errors, as in `sys/errno.h`. -/
def enxio : Int := 6
def eacces : Int := 13
def ebusy : Int := 16
def einval : Int := 22
def eagain : Int := 35
def etimedout : Int := 60
def eoverflow : Int := 84

/-- The firmware has not answered yet. -/
def Ready (mailbox : Word) : Prop := mailbox &&& pcodeReady ≠ 0

instance (mailbox : Word) : Decidable (Ready mailbox) := inferInstanceAs (Decidable (_ ≠ _))

/-- `gen7_check_mailbox_status`. -/
def gen7CheckMailboxStatus (mbox : Word) : Int :=
  match (mbox &&& pcodeErrorMask).toNat with
  | 0x0 => 0
  | 0x1 => -enxio
  | 0x2 => -etimedout
  | 0x3 => -einval
  | 0x4 => -enxio
  | 0x6 => -ebusy
  | 0x11 => -eacces
  | 0x10 => -eoverflow
  | _ => 0

/-- The parameters of `snb_pcode_rw` that it looks at. -/
structure PcodeRequest where
  mbox : Word
  val : Word
  val1 : Option Word
  isRead : Bool
  deriving DecidableEq, Repr

/-- The result of a request, with the words that its two pointers lead to. -/
structure PcodeReply where
  ret : Int
  val : Word
  val1 : Option Word
  deriving DecidableEq, Repr

/-- The condition of the poll loop, on an unsigned value. -/
def pollAgain (iVar4 : Word) : Bool := iVar4 < 0

/-- One pass of the poll loop, with its counter. -/
def pollOnce (iVar2 : Word) : PcodeProgram (Iteration Word (Option Word)) :=
  if iVar2 = 0 then return .stop none
  else do
    let _ ← Program.perform (PcodeOp.delay 1)
    let iVar4 ← Program.perform (PcodeOp.read pcodeMailbox)
    return if pollAgain iVar4 then .next (iVar2 + 1) else .stop (some iVar4)

/-- The data words that are handed back. -/
def handBack (request : PcodeRequest) : PcodeProgram (Word × Option Word) :=
  if request.isRead then do
    let val ← Program.perform (PcodeOp.read pcodeData)
    match request.val1 with
    | none => return (val, none)
    | some _ => do
        let val1 ← Program.perform (PcodeOp.read pcodeData1)
        return (val, some val1)
  else return (request.val, request.val1)

/-- What follows the polls. -/
def afterPolls (request : PcodeRequest) : Option Word → PcodeProgram PcodeReply
  | none => return ⟨-etimedout, request.val, request.val1⟩
  | some _ => do
      let (val, val1) ← handBack request
      return ⟨gen7CheckMailboxStatus request.mbox, val, val1⟩

/-- The part of `snb_pcode_rw` that finds the mailbox free. The counter starts at
-20 and ends the loop at 0, so that the fuel suffices. -/
def post (request : PcodeRequest) : PcodeProgram PcodeReply := do
  let _ ← Program.perform (PcodeOp.write pcodeData request.val)
  let _ ← Program.perform (PcodeOp.write pcodeData1 (request.val1.getD 0))
  let _ ← Program.perform (PcodeOp.write pcodeMailbox (pcodeReady ||| request.mbox))
  let polled ← loop pollOnce 21 (-20)
  afterPolls request polled.join

/-- `snb_pcode_rw`. -/
def snbPcodeRw (request : PcodeRequest) : PcodeProgram PcodeReply := do
  let mailbox ← Program.perform (PcodeOp.read pcodeMailbox)
  if Ready mailbox then return ⟨-eagain, request.val, request.val1⟩ else post request

/-- `snb_pcode_read`. -/
def snbPcodeRead (mbox val : Word) (val1 : Option Word) : PcodeProgram PcodeReply :=
  snbPcodeRw ⟨mbox, val, val1, true⟩

def tglPcodeTccold : Word := 0x26

/-- `TGL_PCODE_EXIT_TCCOLD_DATA_L_EXIT_FAILED`. -/
def exitFailed : Word := 1

/-- `TGL_PCODE_EXIT_TCCOLD_DATA_L_BLOCK_REQ`, or the one to unblock. -/
def tccoldRequest (block : Bool) : Word := if block then 0 else 1

/-- One attempt of `tgl_tc_cold_request`, with the attempts that failed before. -/
def tccoldOnce (block : Bool) (tries : Nat) : PcodeProgram (Iteration Nat Nat) := do
  let reply ← snbPcodeRead tglPcodeTccold (tccoldRequest block) (some 0)
  if reply.ret = 0 ∧ ¬ (block ∧ reply.val &&& exitFailed ≠ 0) then return .stop (tries + 1)
  else if tries + 1 = 3 then return .stop (tries + 1)
  else do
    let _ ← Program.perform (PcodeOp.sleep 1)
    return .next (tries + 1)

/-- `tgl_tc_cold_request`, with the number of its attempts. -/
def tglTcColdRequest (block : Bool) : PcodeProgram (Option Nat) := loop (tccoldOnce block) 3 0

abbrev PcodeExchange := Exchange PcodeAnswer

namespace PcodeExchange

def IsWrite : PcodeExchange → Prop
  | ⟨.write _ _, _⟩ => True
  | _ => False

/-- A read of one of the data words. -/
def IsData : PcodeExchange → Prop
  | ⟨.read reg, _⟩ => reg = pcodeData ∨ reg = pcodeData1
  | _ => False

def dataWord : PcodeExchange → Option Word
  | ⟨.read reg, value⟩ => if reg = pcodeData then some value else none
  | _ => none

end PcodeExchange

/-- One exchange more, for the values of the mailbox since the last request. -/
def poll (seen : Option (List Word)) : PcodeExchange → Option (List Word)
  | ⟨.write reg _, _⟩ => if reg = pcodeMailbox then some [] else seen
  | ⟨.read reg, value⟩ => if reg = pcodeMailbox then seen.map (· ++ [value]) else seen
  | _ => seen

/-- The values of the mailbox that were read since the last request was posted. -/
def polls (transcript : Transcript PcodeAnswer) : List Word :=
  (transcript.foldl poll none).getD []

/-- The values that were read from the first data word. -/
def dataWords (transcript : Transcript PcodeAnswer) : List Word :=
  transcript.filterMap PcodeExchange.dataWord

/-- What a request promises. -/
structure Handshake (request : PcodeRequest) (reply : PcodeReply)
    (transcript : Transcript PcodeAnswer) : Prop where
  accepted : reply.ret = 0 → (polls transcript).length ≤ 20 ∧
    ∃ value, (polls transcript).getLast? = some value ∧ ¬ Ready value ∧
      gen7CheckMailboxStatus value = 0
  reported : ∀ value ∈ polls transcript, ¬ Ready value → gen7CheckMailboxStatus value ≠ 0 →
    reply.ret = gen7CheckMailboxStatus value
  data : ∀ before exchange after, transcript = before ++ exchange :: after →
    PcodeExchange.IsData exchange → ∃ value ∈ polls before, ¬ Ready value
  untouched : reply.ret = -eagain → ∀ exchange ∈ transcript, ¬ PcodeExchange.IsWrite exchange

/-- The last reply is one that the firmware has accepted: READY is clear, the
error field says success, and leaving TCCOLD has not failed. -/
def AcceptedReply (block : Bool) (transcript : Transcript PcodeAnswer) : Prop :=
  ∃ value low, (polls transcript).getLast? = some value ∧
    (dataWords transcript).getLast? = some low ∧ ¬ Ready value ∧
    gen7CheckMailboxStatus value = 0 ∧ ¬ (block ∧ low &&& exitFailed ≠ 0)

end NootedBlue.Pcode
