import NootedBlue.Display.Platform
import NootedBlue.Vbt.Blocks

/-! The display devices of the VBT and the ports they are attached to. The
device on port A is the one that the driver brings up. -/
namespace NootedBlue

/-- A variable in memory that was not cleared when it was allocated. It holds
what was there before until it is written. -/
inductive Slot (Old New : Type) where
  | stale (old : Old)
  | written (new : New)
  deriving DecidableEq

namespace Slot

variable {New : Type}

/-- The value of a variable whose old contents are values of the same kind. -/
def value : Slot New New → New
  | stale old => old
  | written new => new

end Slot

namespace Vbt

open Bytes Display

/-- `struct child_device_config`. -/
structure Child where
  bytes : Fin 44 → UInt8

namespace Child

def copy (memory : Memory) (offset : Nat) : Child := ⟨fun i => memory (offset + i)⟩

def byte (child : Child) (i : Fin 44) : Nat := (child.bytes i).toNat

def deviceType (child : Child) : Nat := child.byte 2 + 0x100 * child.byte 3

def dvoPort (child : Child) : Nat := child.byte 16

def i2cPin (child : Child) : Nat := child.byte 17

def compressionEnable (child : Child) : Bool := (child.byte 10).testBit 1

def compressionMethodCps (child : Child) : Bool := (child.byte 10).testBit 2

def compressionStructureIndex (child : Child) : Nat := child.byte 11 % 0x10

def laneReversal (child : Child) : Bool := (child.byte 23).testBit 1

/-- `intel_bios_encoder_supports_dvi`, `_hdmi`, `_dp` and `_edp`. -/
def supportsDvi (child : Child) : Bool := child.deviceType.testBit 4

def supportsHdmi (child : Child) : Bool := child.supportsDvi && !child.deviceType.testBit 11

def supportsDp (child : Child) : Bool := child.deviceType.testBit 2

def supportsEdp (child : Child) : Bool := child.supportsDp && child.deviceType.testBit 12

end Child

/-- `struct intel_bios_encoder_data`: the `dsc` pointer is set for some devices
only; of what it held before, all that counts is whether it was null. -/
structure Device where
  child : Child
  dsc : Slot Bool (List UInt8)

/-- The driver takes the `dsc` pointer for set. -/
def Device.hasDsc (device : Device) : Bool :=
  match device.dsc with
  | .stale old => old
  | .written _ => true

/-- `sizeof(struct bdb_general_definitions)` and
`LEGACY_CHILD_DEVICE_CONFIG_SIZE`. -/
def generalDefinitionsSize : Nat := 5
def legacyChildDeviceConfigSize : Nat := 33

/-- The child device at an index of the block, unless its type is zero. -/
def childDevice (defs : BlockEntry) (dsc : Nat → Bool) (i : Nat) : Option Device :=
  let childDevSize := u8 defs.payload 4
  let child := Child.copy defs.payload (generalDefinitionsSize + i * childDevSize)
  if child.deviceType = 0 then none else some ⟨child, .stale (dsc i)⟩

/-- `parse_general_definitions`. -/
def parseGeneralDefinitions (blocks : List BlockEntry) (dsc : Nat → Bool) : List Device :=
  match bdbFindSection blocks .generalDefinitions with
  | none => []
  | some defs =>
      let blockSize := defs.size % 2 ^ 16
      let childDevSize := u8 defs.payload 4
      if blockSize < generalDefinitionsSize then []
      else if childDevSize < legacyChildDeviceConfigSize then []
      else
        (List.range ((blockSize - generalDefinitionsSize) / childDevSize)).filterMap
          (childDevice defs dsc)

/-- The sizes of `struct dsc_compression_parameters_entry` and of
`struct bdb_compression_parameters`. -/
def dscEntrySize : Nat := 13
def compressionParametersSize : Nat := 210

/-- A device that asks for compression gets a copy of its parameters. -/
def compress (params : Memory) (device : Device) : Device :=
  if device.child.compressionEnable && !device.child.compressionMethodCps then
    let start := 2 + dscEntrySize * device.child.compressionStructureIndex
    { device with dsc := .written ((List.range dscEntrySize).map fun i => params (start + i)) }
  else device

/-- `parse_compression_parameters`. -/
def parseCompressionParameters (version : Nat) (blocks : List BlockEntry) (devices : List Device) :
    List Device :=
  if version < 198 then devices
  else
    match bdbFindSection blocks .compressionParameters with
    | none => devices
    | some params =>
        if u16 params.payload 0 ≠ dscEntrySize then devices
        else if params.size % 2 ^ 16 < compressionParametersSize then devices
        else devices.map (compress params.payload)

/-- `enum port`, without `PORT_NONE`. -/
inductive Port where
  | a | b | c | d | e | f | g | h | i
  | tc1 | tc2 | tc3 | tc4 | tc5 | tc6
  | dXelpd | eXelpd
  deriving DecidableEq, Repr

def Port.code : Port → Nat
  | a => 0
  | b => 1
  | c => 2
  | d => 3
  | e => 4
  | f => 5
  | g => 6
  | h => 7
  | i => 8
  | tc1 => 10
  | tc2 => 11
  | tc3 => 12
  | tc4 => 13
  | tc5 => 14
  | tc6 => 15
  | dXelpd => 16
  | eXelpd => 17

-- The rows that an array leaves out are zero; that is the number of the first
-- entry of port A, which comes before them.
def portMapping : List (Port × List Nat) :=
  [(.a, [0, 10]), (.b, [1, 7]), (.c, [2, 8]), (.d, [3, 9]), (.e, [12, 11, 6]), (.f, [14, 13]),
    (.g, [16, 15]), (.h, [18, 17]), (.i, [20, 19])]

def rklPortMapping : List (Port × List Nat) :=
  [(.a, [0, 10]), (.b, [1, 7]), (.c, []), (.tc1, [2, 8]), (.tc2, [3, 9])]

def adlsPortMapping : List (Port × List Nat) :=
  [(.a, [0, 10]), (.b, []), (.c, []), (.tc1, [1, 7]), (.tc2, [2, 8]), (.tc3, [3, 9]),
    (.tc4, [12, 11])]

def xelpdPortMapping : List (Port × List Nat) :=
  [(.a, [0, 10]), (.b, [1, 7]), (.c, [2, 8]), (.tc1, [14, 13]), (.tc2, [16, 15]),
    (.tc3, [18, 17]), (.tc4, [20, 19]), (.dXelpd, [3, 9]), (.eXelpd, [12, 11])]

/-- `dvo_port_to_port`. -/
def dvoPortToPort (info : DisplayInfo) (dvoPort : Nat) : Option Port :=
  let mapping :=
    if info.ver ≥ 13 then xelpdPortMapping
    else if info.alderlakeS then adlsPortMapping
    else if info.dg1 || info.rocketlake then rklPortMapping
    else portMapping
  (mapping.find? (·.2.contains dvoPort)).map (·.1)

/-- `dsi_dvo_port_to_port`. -/
def dsiDvoPortToPort (info : DisplayInfo) (dvoPort : Nat) : Option Port :=
  match dvoPort with
  | 21 => some .a
  | 23 => if info.ver ≥ 11 then some .b else some .c
  | _ => none

/-- `intel_bios_encoder_port`. -/
def intelBiosEncoderPort (info : DisplayInfo) (child : Child) : Option Port :=
  match dvoPortToPort info child.dvoPort with
  | some port => some port
  | none => if info.ver ≥ 11 then dsiDvoPortToPort info child.dvoPort else none

/-- `intel_port_to_phy`, as a number from `PHY_A` on. -/
def intelPortToPhy (info : DisplayInfo) (port : Port) : Nat :=
  if info.ver ≥ 13 ∧ port.code ≥ Port.dXelpd.code then 3 + port.code - Port.dXelpd.code
  else if info.ver ≥ 13 ∧ port.code ≥ Port.tc1.code then 5 + port.code - Port.tc1.code
  else if info.alderlakeS ∧ port.code ≥ Port.tc1.code then 1 + port.code - Port.tc1.code
  else if (info.dg1 || info.rocketlake) ∧ port.code ≥ Port.tc1.code then
    2 + port.code - Port.tc1.code
  else port.code

/-- `tgl_hpd_pin`, as a number of `enum hpd_pin`. -/
def tglHpdPin (port : Port) : Nat :=
  if port.code ≥ Port.tc1.code then 9 + port.code - Port.tc1.code else 4 + port.code

inductive ConnectorType where
  | dummy
  | lvds
  | dp
  | hdmi
  deriving DecidableEq, Repr

/-- `struct ConnectorInfo`; `index` is the place in the array and `pad` zero. -/
structure Connector where
  busId : Nat
  pipe : Nat
  type : ConnectorType
  flags : Nat
  deriving DecidableEq, Repr

def Connector.unused : Connector := ⟨0, 0, .dummy, 0⟩

/-- The connector of a device, as `print_ddi_port` fills it in. -/
def Child.connector (child : Child) (port : Port) : Connector where
  busId := child.i2cPin
  pipe := port.code
  type :=
    if child.supportsEdp then .lvds
    else if child.supportsHdmi then .hdmi
    else if child.supportsDp then .dp
    else .dummy
  flags :=
    (if child.supportsDp then 1024 else 0) + (if child.supportsEdp then 8 ||| 16 ||| 4 else 0) +
      (if child.supportsHdmi then 512 else 0)

/-- A raw pointer of which nobody knows where it points. -/
inductive Pointer (α : Type) where
  | null
  | unmapped
  | target (object : α)

/-- What the driver remembers of the device on port A. -/
structure PortA where
  hpdPin : Slot Nat Nat
  child0 : Slot (Pointer Child) Child
  port0 : Slot Nat Nat
  phy0 : Slot Nat Nat
  pipe0 : Slot Nat Nat

/-- The result of `parse_ddi_ports`. Only six connectors are there; a write to
any other index lands somewhere behind them and is only recorded here. -/
structure Ports where
  connectors : Fin 6 → Connector
  beyond : List Port
  portA : PortA

namespace Ports

/-- Write `bconnectors[port]`. -/
def connect (ports : Ports) (port : Port) (connector : Connector) : Ports :=
  if h : port.code < 6 then
    { ports with connectors := fun i => if i = ⟨port.code, h⟩ then connector else ports.connectors i }
  else { ports with beyond := ports.beyond ++ [port] }

end Ports

/-- `print_ddi_port`. -/
def printDdiPort (info : DisplayInfo) (ports : Ports) (child : Child) : Ports :=
  match intelBiosEncoderPort info child with
  | none => ports
  | some port =>
      let portA : PortA :=
        if port = .a then
          { hpdPin := .written (tglHpdPin port)
            child0 := .written child
            port0 := .written port.code
            phy0 := .written (intelPortToPhy info port)
            pipe0 := .written 0 }
        else ports.portA
      { ports with portA }.connect port (child.connector port)

/-- `parse_ddi_ports`; `parse_ddi_port` itself does nothing. -/
def parseDdiPorts (info : DisplayInfo) (devices : List Device) (ports : Ports) : Ports :=
  if info.ver ≥ 5 || info.g4x then
    devices.foldl (fun ports device => printDdiPort info ports device.child) ports
  else ports

section Ports

variable {info : DisplayInfo} {ports : Ports} {child : Child} {port : Port}

@[simp] theorem Ports.connect_portA (connector : Connector) :
    (ports.connect port connector).portA = ports.portA := by
  unfold Ports.connect
  split <;> rfl

theorem Ports.connect_beyond_iff (connector : Connector) :
    (ports.connect port connector).beyond = [] ↔ ports.beyond = [] ∧ port.code < 6 := by
  unfold Ports.connect
  split
  · next hInside => simp [hInside]
  · next hBeyond => simp [hBeyond]

/-- The variables about port A after its device has been seen. -/
def PortA.ofChild (info : DisplayInfo) (child : Child) : PortA where
  hpdPin := .written (tglHpdPin .a)
  child0 := .written child
  port0 := .written Port.a.code
  phy0 := .written (intelPortToPhy info .a)
  pipe0 := .written 0

theorem printDdiPort_portA_of_eq (h : intelBiosEncoderPort info child = some .a) :
    (printDdiPort info ports child).portA = .ofChild info child := by
  simp [printDdiPort, h, PortA.ofChild]

theorem printDdiPort_portA_of_ne (h : intelBiosEncoderPort info child ≠ some .a) :
    (printDdiPort info ports child).portA = ports.portA := by
  unfold printDdiPort
  split
  · rfl
  · next other hPort =>
      have hOther : other ≠ .a := by
        intro hSame
        exact h (hPort.trans (congrArg some hSame))
      simp [hOther]

theorem printDdiPort_beyond_iff :
    (printDdiPort info ports child).beyond = [] ↔
      ports.beyond = [] ∧ ∀ port, intelBiosEncoderPort info child = some port → port.code < 6 := by
  unfold printDdiPort
  split
  · next hNone => simp [hNone]
  · next other hPort => simp [Ports.connect_beyond_iff, hPort]

variable {children : List Child}

variable (info ports children) in
/-- Either some device is on port A, and one of them is remembered, or the
variables stay as they were. -/
theorem portA_cases :
    (∃ child ∈ children, intelBiosEncoderPort info child = some .a ∧
      (children.foldl (printDdiPort info) ports).portA = .ofChild info child) ∨
    ((∀ child ∈ children, intelBiosEncoderPort info child ≠ some .a) ∧
      (children.foldl (printDdiPort info) ports).portA = ports.portA) := by
  induction children generalizing ports with
  | nil => exact .inr ⟨fun _ hMem => absurd hMem List.not_mem_nil, rfl⟩
  | cons first rest ih =>
      rw [List.foldl_cons]
      cases ih (printDdiPort info ports first) with
      | inl hLater =>
          obtain ⟨child, hMem, hPort, hSame⟩ := hLater
          exact .inl ⟨child, List.mem_cons_of_mem first hMem, hPort, hSame⟩
      | inr hNone =>
          by_cases hFirst : intelBiosEncoderPort info first = some .a
          · refine .inl ⟨first, List.mem_cons_self, hFirst, ?_⟩
            exact hNone.2.trans (printDdiPort_portA_of_eq hFirst)
          · refine .inr ⟨?_, hNone.2.trans (printDdiPort_portA_of_ne hFirst)⟩
            intro child hMem
            cases List.mem_cons.mp hMem with
            | inl hSame =>
                rw [hSame]
                exact hFirst
            | inr hLater => exact hNone.1 child hLater

/-- Nothing is written behind the connectors when every device has one of the
first six ports. -/
theorem beyond_iff :
    (children.foldl (printDdiPort info) ports).beyond = [] ↔ ports.beyond = [] ∧
      ∀ child ∈ children, ∀ port, intelBiosEncoderPort info child = some port → port.code < 6 := by
  induction children generalizing ports with
  | nil => simp
  | cons first rest ih =>
      rw [List.foldl_cons, ih, printDdiPort_beyond_iff, and_assoc, List.forall_mem_cons]

theorem parseDdiPorts_eq (h : 5 ≤ info.ver) (devices : List Device) :
    parseDdiPorts info devices ports =
      (devices.map (·.child)).foldl (printDdiPort info) ports := by
  rw [parseDdiPorts, if_pos (by simp [h]), List.foldl_map]

theorem compress_child (params : Memory) (device : Device) :
    (compress params device).child = device.child := by
  unfold compress
  split <;> rfl

theorem parseCompressionParameters_child (version : Nat) (blocks : List BlockEntry)
    (devices : List Device) :
    (parseCompressionParameters version blocks devices).map (·.child) = devices.map (·.child) := by
  unfold parseCompressionParameters
  split
  · rfl
  · split
    · rfl
    · split
      · rfl
      · split
        · rfl
        · rw [List.map_map]
          apply List.map_congr_left
          intro device _
          exact compress_child _ device

end Ports

end Vbt

end NootedBlue
