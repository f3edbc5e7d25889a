import Mathlib.Data.List.Induction
import NootedBlue.Opregion.Uninitialised

/-! The table of connectors has six places, and the numbers of the ports go up to
17. Which places are written, and what is remembered of port A, is told by the
`dvo_port` bytes of the devices. -/
namespace NootedBlue.Opregion

open Vbt Display

/-- `DVO_PORT_HDMIA`, `DVO_PORT_DPA` and `DVO_PORT_MIPIA`. -/
def dvoPortHdmiA : Nat := 0
def dvoPortDpA : Nat := 10
def dvoPortMipiA : Nat := 21

/-- The bytes that the tables give to ports without a connector. -/
def dvoPortsBeyond (info : DisplayInfo) : List Nat :=
  if info.ver ≥ 13 then [14, 13, 16, 15, 18, 17, 20, 19, 3, 9, 12, 11]
  else if info.alderlakeS then [1, 7, 2, 8, 3, 9, 12, 11]
  else if info.dg1 || info.rocketlake then [2, 8, 3, 9]
  else [16, 15, 18, 17, 20, 19]

/-- The bytes that lead to port A: the ones of the tables, and behind them the
first MIPI port. -/
def onPortA (info : DisplayInfo) (dvoPort : Nat) : Bool :=
  dvoPort = dvoPortHdmiA || dvoPort = dvoPortDpA || (info.ver ≥ 11 && dvoPort = dvoPortMipiA)

/-- `has_ddi_port_info`. -/
def hasDdiPortInfo (info : DisplayInfo) : Bool := info.ver ≥ 5 || info.g4x

section Lookup

variable {info : DisplayInfo} {child : Child}

/-- `__dvo_port_to_port`. -/
def lookup (mapping : List (Port × List Nat)) (dvoPort : Nat) : Option Port :=
  (mapping.find? (·.2.contains dvoPort)).map (·.1)

/-- No table has a byte above `DVO_PORT_HDMII`. -/
theorem lookup_of_large {mapping : List (Port × List Nat)} {dvoPort : Nat} (hLarge : 21 ≤ dvoPort)
    (hTable : ∀ row ∈ mapping, ∀ byte ∈ row.2, byte < 21) : lookup mapping dvoPort = none := by
  rw [lookup, Option.map_eq_none_iff, List.find?_eq_none]
  intro row hRow hFound
  have hByte := hTable row hRow dvoPort (List.contains_iff_mem.mp hFound)
  omega

/-- What is to be known of a table: the ports of its bytes are below six but for
the listed ones, and two bytes lead to port A. -/
def Covers (mapping : List (Port × List Nat)) (beyond : List Nat) : Prop :=
  (∀ row ∈ mapping, ∀ byte ∈ row.2, byte < 21) ∧ (∀ byte ∈ beyond, byte < 21) ∧
    ∀ dvoPort < 21, ((∀ port, lookup mapping dvoPort = some port → port.code < 6) ↔
        dvoPort ∉ beyond) ∧
      (lookup mapping dvoPort = some .a ↔ dvoPort = dvoPortHdmiA ∨ dvoPort = dvoPortDpA)

instance (mapping : List (Port × List Nat)) (beyond : List Nat) :
    Decidable (Covers mapping beyond) := by
  unfold Covers
  infer_instance

variable (info) in
/-- The table that a platform uses. -/
theorem dvoPortToPort_table : ∃ mapping, Covers mapping (dvoPortsBeyond info) ∧
    ∀ dvoPort, dvoPortToPort info dvoPort = lookup mapping dvoPort := by
  unfold dvoPortToPort dvoPortsBeyond
  split
  · exact ⟨xelpdPortMapping, by decide, fun _ => rfl⟩
  · split
    · exact ⟨adlsPortMapping, by decide, fun _ => rfl⟩
    · split
      · exact ⟨rklPortMapping, by decide, fun _ => rfl⟩
      · exact ⟨portMapping, by decide, fun _ => rfl⟩

/-- Only HDMI A and DP A are on port A of a table. -/
theorem dvoPortToPort_eq_a_iff {dvoPort : Nat} :
    dvoPortToPort info dvoPort = some .a ↔ dvoPort = dvoPortHdmiA ∨ dvoPort = dvoPortDpA := by
  obtain ⟨mapping, covers, hLookup⟩ := dvoPortToPort_table info
  rw [hLookup]
  by_cases hSmall : dvoPort < 21
  · exact (covers.2.2 dvoPort hSmall).2
  · rw [lookup_of_large (Nat.not_lt.mp hSmall) covers.1]
    simp only [reduceCtorEq, false_iff, dvoPortHdmiA, dvoPortDpA]
    omega

theorem dvoPortToPort_connected_iff {dvoPort : Nat} :
    (∀ port, dvoPortToPort info dvoPort = some port → port.code < 6) ↔
      dvoPort ∉ dvoPortsBeyond info := by
  obtain ⟨mapping, covers, hLookup⟩ := dvoPortToPort_table info
  simp only [hLookup]
  by_cases hSmall : dvoPort < 21
  · exact (covers.2.2 dvoPort hSmall).1
  · rw [lookup_of_large (Nat.not_lt.mp hSmall) covers.1]
    refine iff_of_true (fun port hPort => nomatch hPort) fun hMem => ?_
    exact hSmall (covers.2.1 dvoPort hMem)

/-- The MIPI ports come after the table, and all of them have a connector. -/
theorem dsiDvoPortToPort_connected {dvoPort : Nat} {port : Port}
    (h : dsiDvoPortToPort info dvoPort = some port) : port.code < 6 := by
  unfold dsiDvoPortToPort at h
  split at h
  · cases h
    decide
  · split at h <;> cases h <;> decide
  · cases h

theorem dsiDvoPortToPort_eq_a_iff {dvoPort : Nat} :
    dsiDvoPortToPort info dvoPort = some .a ↔ dvoPort = dvoPortMipiA := by
  unfold dsiDvoPortToPort dvoPortMipiA
  split
  · simp
  · split <;> simp
  · next hOther _ => exact iff_of_false (fun hNone => nomatch hNone) hOther

/-- The place of a device is inside the table unless its byte is listed. -/
theorem intelBiosEncoderPort_connected_iff :
    (∀ port, intelBiosEncoderPort info child = some port → port.code < 6) ↔
      child.dvoPort ∉ dvoPortsBeyond info := by
  rw [← dvoPortToPort_connected_iff, intelBiosEncoderPort]
  cases dvoPortToPort info child.dvoPort with
  | some port => rfl
  | none =>
      refine iff_of_true (fun port hPort => ?_) fun port hPort => nomatch hPort
      dsimp only at hPort
      split at hPort
      · exact dsiDvoPortToPort_connected hPort
      · cases hPort

theorem intelBiosEncoderPort_eq_a_iff :
    intelBiosEncoderPort info child = some .a ↔ onPortA info child.dvoPort = true := by
  have hTable : dvoPortToPort info child.dvoPort = some .a ↔ _ := dvoPortToPort_eq_a_iff
  have hOn : onPortA info child.dvoPort = true ↔
      dvoPortToPort info child.dvoPort = some .a ∨
        11 ≤ info.ver ∧ child.dvoPort = dvoPortMipiA := by
    simp [onPortA, hTable]
  rw [hOn, intelBiosEncoderPort]
  cases hPort : dvoPortToPort info child.dvoPort with
  | some port =>
      -- the table has none of the MIPI ports
      refine (or_iff_left fun hMipi => ?_).symm
      obtain ⟨mapping, covers, hLookup⟩ := dvoPortToPort_table info
      rw [hLookup, hMipi.2, lookup_of_large (Nat.le_refl dvoPortMipiA) covers.1] at hPort
      cases hPort
  | none =>
      simp only [reduceCtorEq, false_or]
      split
      · next hVer => rw [dsiDvoPortToPort_eq_a_iff, and_iff_right hVer]
      · next hVer => exact iff_of_false (fun hNone => nomatch hNone) fun hMipi => hVer hMipi.1

end Lookup

section PortA

variable {info : DisplayInfo} {children : List Child} {ports : Ports}

variable (info children) in
/-- The last device that is taken to be on port A. -/
def lastOnPortA : Option Child :=
  (children.filter (onPortA info ·.dvoPort)).getLast?

theorem lastOnPortA_append (child : Child) :
    lastOnPortA info (children ++ [child]) =
      if onPortA info child.dvoPort then some child else lastOnPortA info children := by
  unfold lastOnPortA
  rw [List.filter_append]
  split
  · next hPort => simp [hPort]
  · next hPort => simp [hPort]

/-- What is remembered of port A comes from the last device on it. -/
theorem portA_eq_last :
    (children.foldl (printDdiPort info) ports).portA =
      ((lastOnPortA info children).map (.ofChild info)).getD ports.portA := by
  induction children using List.reverseRecOn with
  | nil => rfl
  | append_singleton before child ih =>
      rw [List.foldl_append, List.foldl_cons, List.foldl_nil, lastOnPortA_append]
      split
      · next hPort => exact printDdiPort_portA_of_eq (intelBiosEncoderPort_eq_a_iff.mpr hPort)
      · next hPort =>
          rw [printDdiPort_portA_of_ne (mt intelBiosEncoderPort_eq_a_iff.mp hPort), ih]

theorem ofChild_injective {first second : Child}
    (h : PortA.ofChild info first = PortA.ofChild info second) : first = second := by
  cases congrArg PortA.child0 h
  rfl

end PortA

/-- The connector table is only written inside, and what is remembered of port A
describes one device, which the table of the platform puts there. -/
structure ConnectorsRight (info : DisplayInfo) (devices : List Device) (ports : Ports) : Prop where
  inside : ports.beyond = []
  described : ∃ child ∈ devices.map (·.child), dvoPortToPort info child.dvoPort = some .a ∧
    ports.portA = .ofChild info child

section Children

variable {info : DisplayInfo} {children : List Child} {garbage : Garbage}

theorem fold_beyond_iff :
    (children.foldl (printDdiPort info) garbage.ports).beyond = [] ↔
      ∀ child ∈ children, child.dvoPort ∉ dvoPortsBeyond info := by
  rw [beyond_iff]
  refine (and_iff_right rfl).trans (forall₂_congr fun child _ => ?_)
  exact intelBiosEncoderPort_connected_iff

/-- A device is described when the last one on port A is not a MIPI device. -/
theorem fold_described_iff :
    (∃ child ∈ children, dvoPortToPort info child.dvoPort = some .a ∧
        (children.foldl (printDdiPort info) garbage.ports).portA = .ofChild info child) ↔
      ∃ child, lastOnPortA info children = some child ∧ child.dvoPort ≠ dvoPortMipiA := by
  rw [portA_eq_last]
  constructor
  · intro ⟨child, _, hTable, hSame⟩
    cases hLast : lastOnPortA info children with
    | none =>
        rw [hLast] at hSame
        cases congrArg PortA.child0 hSame
    | some last =>
        rw [hLast] at hSame
        obtain rfl : last = child := ofChild_injective hSame
        refine ⟨last, rfl, fun hMipi => ?_⟩
        have hByte := dvoPortToPort_eq_a_iff.mp hTable
        rw [hMipi] at hByte
        revert hByte
        decide
  · intro ⟨last, hLast, hMipi⟩
    rw [hLast]
    have hMem := List.mem_filter.mp (List.mem_of_getLast? hLast)
    refine ⟨last, hMem.1, ?_, rfl⟩
    rw [dvoPortToPort_eq_a_iff]
    simpa [onPortA, hMipi] using hMem.2

end Children

/-- The connectors are right for exactly those lists of devices in which no byte
leads beyond the table, and whose last device on port A is an HDMI or a DP
device. Without a device on port A nothing is remembered of it. -/
theorem connectors_iff (info : DisplayInfo) (devices : List Device) (garbage : Garbage) :
    (ConnectorsRight info devices (parseDdiPorts info devices garbage.ports) ↔
      hasDdiPortInfo info = true ∧
        (∀ child ∈ devices.map (·.child), child.dvoPort ∉ dvoPortsBeyond info) ∧
        ∃ child, lastOnPortA info (devices.map (·.child)) = some child ∧
          child.dvoPort ≠ dvoPortMipiA) ∧
      (lastOnPortA info (devices.map (·.child)) = none →
        (parseDdiPorts info devices garbage.ports).portA = garbage.ports.portA) := by
  by_cases hInfo : hasDdiPortInfo info = true
  · have hParse : parseDdiPorts info devices garbage.ports =
        (devices.map (·.child)).foldl (printDdiPort info) garbage.ports := by
      rw [parseDdiPorts, List.foldl_map]
      exact if_pos hInfo
    rw [hParse]
    constructor
    · rw [and_iff_right hInfo, ← fold_described_iff, ← fold_beyond_iff]
      exact ⟨fun right => ⟨right.inside, right.described⟩, fun h => ⟨h.1, h.2⟩⟩
    · intro hNone
      rw [portA_eq_last, hNone]
      rfl
  · have hParse : parseDdiPorts info devices garbage.ports = garbage.ports := if_neg hInfo
    rw [hParse]
    refine ⟨iff_of_false (fun right => ?_) (fun h => hInfo h.1), fun _ => rfl⟩
    obtain ⟨child, -, -, hSame⟩ := right.described
    cases congrArg PortA.child0 hSame

/-- A DisplayPort device on DP F. -/
def typeCDevice : Device where
  child := ⟨fun i => if i.val = 2 then 4 else if i.val = 16 then 13 else 0⟩
  dsc := .stale false

/-- On Alder Lake P this is the first Type-C port, and the eleventh of the six
connectors is written. -/
theorem alderlakeP_writes_beyond :
    ¬ ConnectorsRight Platform.alderlakeP.info [typeCDevice]
      (parseDdiPorts Platform.alderlakeP.info [typeCDevice] zeroed.ports) := by
  intro right
  have hInside := right.inside
  revert hInside
  decide

end NootedBlue.Opregion
