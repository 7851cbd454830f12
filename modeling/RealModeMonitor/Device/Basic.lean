import RealModeMonitor.CmosRam
import RealModeMonitor.Device.External
import RealModeMonitor.DmaController.Basic
import RealModeMonitor.IntervalTimer.Basic

/-!
# Devices

A session owns devices of four built-in kinds and devices from outside. All answer the same calls:
a byte read, a byte written, a host tick, the teardown.
-/

namespace RealModeMonitor

inductive Device where
  | pic (c : InterruptController)
  | pit (t : IntervalTimer)
  | dma (d : DmaController)
  | cmos (r : CmosRam)
  | external (d : ExternalDevice)

namespace Device

def name : Device → String
  | pic _ => "pic"
  | pit _ => "pit"
  | dma _ => "dma"
  | cmos _ => "cmos"
  | external d => d.name

def kind : Device → DeviceKind
  | pic _ => .pic
  | pit _ => .pit
  | dma _ => .dma
  | cmos _ => .cmos
  | external d => d.kind

/-- The ports a device is routed to on installation. -/
def ranges : Device → List PortRange
  | pic _ => [(0x20, 0x21), (0xA0, 0xA1)].filterMap fun (first, last) =>
      PortRange.inclusive? first last
  | pit _ => (PortRange.inclusive? 0x40 0x43).toList
  | dma _ => [(0x00, 0x0F), (0x80, 0x8F), (0xC0, 0xDF)].filterMap fun (first, last) =>
      PortRange.inclusive? first last
  | cmos _ => (PortRange.inclusive? 0x70 0x71).toList
  | external d => d.ranges

/-- The interrupt controller that a device really is. -/
def controller? : Device → Option InterruptController
  | pic c => some c
  | pit _ | dma _ | cmos _ | external _ => none

def timer? : Device → Option IntervalTimer
  | pit t => some t
  | pic _ | dma _ | cmos _ | external _ => none

def dma? : Device → Option DmaController
  | dma d => some d
  | pic _ | pit _ | cmos _ | external _ => none

/-- A guest reads a byte. -/
def read (port : UInt16) (d : Device) (b : Bus) : Traced (UInt8 × Device × Bus) :=
  match d with
  | pic c =>
    let (value, c) := c.readPort port
    pure (value, pic c, b)
  | pit t => do
    let (value, t, b) ← t.readPort port b
    return (value, pit t, b)
  | dma d =>
    let (value, d) := d.readPort port
    pure (value, dma d, b)
  | cmos r =>
    let (value, r) := r.readPort port
    pure (value, cmos r, b)
  | external d => do
    let (value, d, b) ← d.access (.read port) b
    return (value, external d, b)

/-- A guest writes a byte. Commands that a device rejects are told to the operator only. -/
def write (port : UInt16) (value : UInt8) (d : Device) (b : Bus) : Traced (Unit × Device × Bus) :=
  match d with
  | pic c => do
    let (c, guest) ← c.writeAndDeliver b.vm port value b.guest
    return ((), pic c, { b with guest })
  | pit t => do
    let t ← t.writePort port value b
    return ((), pit t, b)
  | dma d => do
    let (r, d) := d.writePort port value
    if let .error e := r then
      Traced.tell (.deviceComplaint b.vm e)
    return ((), dma d, b)
  | cmos r => pure ((), cmos (r.writePort port value), b)
  | external d => do
    let (_, d, b) ← d.access (.write port value) b
    return ((), external d, b)

/-- The host clock ticked. -/
def tick (d : Device) (b : Bus) : Traced (Unit × Device × Bus) :=
  match d with
  | pit t => do
    let (t, b) ← t.runExpiry b
    return ((), pit t, b)
  | external d => do
    let (_, d, b) ← d.access (.tick b.clock.now) b
    return ((), external d, b)
  | pic _ | dma _ | cmos _ => pure ((), d, b)

/-- The session dies. -/
def teardown (d : Device) (vm : VmId) : Traced Unit :=
  match d with
  | external d => d.teardown vm
  | pic _ | pit _ | dma _ | cmos _ => pure ()

end Device
end RealModeMonitor
