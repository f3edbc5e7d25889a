import Mathlib.Data.Nat.Bitwise

/-! The link status that a DisplayPort sink reports: six bytes in which every
lane has four bits about what it has achieved and four about what it asks for. -/
namespace NootedBlue.Link

/-- The number of lanes of a panel. -/
inductive LaneCount where
  | one
  | two
  | four
  deriving DecidableEq, Repr

def LaneCount.toNat : LaneCount → Nat
  | one => 1
  | two => 2
  | four => 4

/-- The registers `DP_LANE0_1_STATUS` to `DP_ADJUST_REQUEST_LANE2_3`. -/
abbrev LinkStatus := Fin 6 → UInt8

namespace LinkStatus

def zero : LinkStatus := fun _ => 0

def byte (status : LinkStatus) (i : Fin 6) : Nat := (status i).toNat

/-- The status bits of a lane and of its neighbour. -/
def laneByte (status : LinkStatus) (lane : Nat) : Nat := status.byte (if lane / 2 = 0 then 0 else 1)

/-- The request of a lane and of its neighbour. -/
def requestByte (status : LinkStatus) (lane : Nat) : Nat :=
  status.byte (if lane / 2 = 0 then 4 else 5)

end LinkStatus

/-- `dp_get_lane_status`. -/
def dpGetLaneStatus (status : LinkStatus) (lane : Nat) : Nat :=
  status.laneByte lane >>> (lane % 2 * 4) &&& 0xF

/-- `drm_dp_clock_recovery_ok`. -/
def drmDpClockRecoveryOk (status : LinkStatus) (laneCount : Nat) : Bool :=
  (List.range laneCount).all fun lane => dpGetLaneStatus status lane &&& 1 ≠ 0

/-- `DP_CHANNEL_EQ_BITS`. -/
def dpChannelEqBits : Nat := 7

/-- `drm_dp_channel_eq_ok`. -/
def drmDpChannelEqOk (status : LinkStatus) (laneCount : Nat) : Bool :=
  status.byte 2 &&& 1 ≠ 0 &&
    (List.range laneCount).all fun lane =>
      dpGetLaneStatus status lane &&& dpChannelEqBits = dpChannelEqBits

/-- `drm_dp_get_adjust_request_voltage`. -/
def drmDpGetAdjustRequestVoltage (status : LinkStatus) (lane : Nat) : Nat :=
  status.requestByte lane >>> (if lane % 2 = 1 then 4 else 0) &&& 3

/-- `drm_dp_get_adjust_request_pre_emphasis`. -/
def drmDpGetAdjustRequestPreEmphasis (status : LinkStatus) (lane : Nat) : Nat :=
  (status.requestByte lane >>> (if lane % 2 = 1 then 6 else 2) &&& 3) <<< 3

/-- `drm_dp_get_adjust_tx_ffe_preset`. -/
def drmDpGetAdjustTxFfePreset (status : LinkStatus) (lane : Nat) : Nat :=
  status.requestByte lane >>> (if lane % 2 = 1 then 4 else 0) &&& 0xF

/-- The bits of a lane in the packed bytes. -/
def LaneBit (status : LinkStatus) (lane bit : Nat) : Prop :=
  (status.laneByte lane).testBit (4 * (lane % 2) + bit) = true

/-- Every active lane has recovered the clock. -/
def ClockRecovered (status : LinkStatus) (lanes : LaneCount) : Prop :=
  ∀ lane < lanes.toNat, LaneBit status lane 0

/-- Every active lane has recovered the clock, is equalised and has locked on
the symbols, and the lanes are aligned. -/
structure Equalised (status : LinkStatus) (lanes : LaneCount) : Prop where
  recovered : ∀ lane < lanes.toNat, LaneBit status lane 0
  equalised : ∀ lane < lanes.toNat, LaneBit status lane 1
  locked : ∀ lane < lanes.toNat, LaneBit status lane 2
  aligned : (status.byte 2).testBit 0 = true

/-- What a lane asks for: four bits of the packed bytes. -/
def request (status : LinkStatus) (lane : Nat) : Nat :=
  status.requestByte lane / 2 ^ (4 * (lane % 2)) % 16

theorem and_one_ne_zero_iff (n : Nat) : n &&& 1 ≠ 0 ↔ n.testBit 0 = true := by
  rw [Nat.and_one_is_mod, Nat.testBit_zero, decide_eq_true_eq]
  omega

/-- A bit of a lane is a bit of the packed bytes. -/
theorem testBit_dpGetLaneStatus (status : LinkStatus) (lane : Nat) {bit : Nat} (h : bit < 4) :
    (dpGetLaneStatus status lane).testBit bit = true ↔ LaneBit status lane bit := by
  have hMask : (0xF : Nat) = 2 ^ 4 - 1 := rfl
  rw [dpGetLaneStatus, hMask, Nat.and_two_pow_sub_one_eq_mod, Nat.testBit_mod_two_pow,
    Nat.testBit_shiftRight, LaneBit, Nat.mul_comm (lane % 2)]
  simp [h]

theorem drmDpClockRecoveryOk_iff (status : LinkStatus) (lanes : LaneCount) :
    drmDpClockRecoveryOk status lanes.toNat = true ↔ ClockRecovered status lanes := by
  simp only [drmDpClockRecoveryOk, List.all_eq_true, List.mem_range, decide_eq_true_eq,
    ClockRecovered]
  apply forall₂_congr
  intro lane _
  rw [and_one_ne_zero_iff, testBit_dpGetLaneStatus status lane (by decide)]

theorem and_eqBits_iff (n : Nat) :
    n &&& dpChannelEqBits = dpChannelEqBits ↔
      n.testBit 0 = true ∧ n.testBit 1 = true ∧ n.testBit 2 = true := by
  have hMask : dpChannelEqBits = 2 ^ 3 - 1 := rfl
  rw [hMask, Nat.and_two_pow_sub_one_eq_mod]
  simp only [Nat.testBit_eq_decide_div_mod_eq, decide_eq_true_eq]
  omega

theorem drmDpChannelEqOk_iff (status : LinkStatus) (lanes : LaneCount) :
    drmDpChannelEqOk status lanes.toNat = true ↔ Equalised status lanes := by
  have hLane : ∀ lane, dpGetLaneStatus status lane &&& dpChannelEqBits = dpChannelEqBits ↔
      LaneBit status lane 0 ∧ LaneBit status lane 1 ∧ LaneBit status lane 2 := by
    intro lane
    rw [and_eqBits_iff, testBit_dpGetLaneStatus status lane (by decide),
      testBit_dpGetLaneStatus status lane (by decide),
      testBit_dpGetLaneStatus status lane (by decide)]
  simp only [drmDpChannelEqOk, Bool.and_eq_true, decide_eq_true_eq, List.all_eq_true,
    List.mem_range, and_one_ne_zero_iff, hLane]
  constructor
  · intro ⟨hAligned, hLanes⟩
    exact {
      recovered := fun lane hActive => (hLanes lane hActive).1
      equalised := fun lane hActive => (hLanes lane hActive).2.1
      locked := fun lane hActive => (hLanes lane hActive).2.2
      aligned := hAligned }
  · intro done
    refine ⟨done.aligned, ?_⟩
    intro lane hActive
    exact ⟨done.recovered lane hActive, done.equalised lane hActive, done.locked lane hActive⟩

/-- The swing is the lower half of a request. -/
theorem adjustRequestVoltage_eq (status : LinkStatus) (lane : Nat) :
    drmDpGetAdjustRequestVoltage status lane = request status lane % 4 := by
  have hMask : (3 : Nat) = 2 ^ 2 - 1 := rfl
  rw [drmDpGetAdjustRequestVoltage, request, hMask, Nat.and_two_pow_sub_one_eq_mod,
    Nat.shiftRight_eq_div_pow]
  cases Nat.mod_two_eq_zero_or_one lane with
  | inl hEven =>
      rw [hEven, if_neg (by decide)]
      omega
  | inr hOdd =>
      rw [hOdd, if_pos rfl]
      omega

/-- The pre-emphasis is the upper half. -/
theorem adjustRequestPreEmphasis_eq (status : LinkStatus) (lane : Nat) :
    drmDpGetAdjustRequestPreEmphasis status lane = (request status lane / 4) <<< 3 := by
  have hMask : (3 : Nat) = 2 ^ 2 - 1 := rfl
  rw [drmDpGetAdjustRequestPreEmphasis, request, hMask, Nat.and_two_pow_sub_one_eq_mod,
    Nat.shiftRight_eq_div_pow]
  congr 1
  cases Nat.mod_two_eq_zero_or_one lane with
  | inl hEven =>
      rw [hEven, if_neg (by decide)]
      omega
  | inr hOdd =>
      rw [hOdd, if_pos rfl]
      omega

/-- The two parts of a request, as they are combined. -/
theorem adjustRequest_eq (status : LinkStatus) (lane : Nat) :
    (drmDpGetAdjustRequestVoltage status lane ||| drmDpGetAdjustRequestPreEmphasis status lane) =
      request status lane / 4 * 8 + request status lane % 4 := by
  rw [adjustRequestVoltage_eq, adjustRequestPreEmphasis_eq, Nat.lor_comm,
    ← Nat.shiftLeft_add_eq_or_of_lt (by omega), Nat.shiftLeft_eq]

/-- A preset takes the same four bits. -/
theorem txFfePreset_eq_request (status : LinkStatus) (lane : Nat) :
    drmDpGetAdjustTxFfePreset status lane = request status lane := by
  have hMask : (0xF : Nat) = 2 ^ 4 - 1 := rfl
  rw [drmDpGetAdjustTxFfePreset, request, hMask, Nat.and_two_pow_sub_one_eq_mod,
    Nat.shiftRight_eq_div_pow]
  cases Nat.mod_two_eq_zero_or_one lane with
  | inl hEven => rw [hEven, if_neg (by decide)]
  | inr hOdd => rw [hOdd, if_pos rfl]

theorem request_lt (status : LinkStatus) (lane : Nat) : request status lane < 16 :=
  Nat.mod_lt _ (by decide)

end NootedBlue.Link
