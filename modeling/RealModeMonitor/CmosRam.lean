import RealModeMonitor.Byte

/-!
# The CMOS memory

128 registers behind two ports: a write to the index port selects a register, where bit 7 of the
byte is not part of the index, and the data port reads and writes the selected one.

The clock in it stands still at midnight on 1 January 2000, in decimal digits. Register A never
tells of an update in progress, since bit 7 of it cannot be written; registers C and D are read
only. Two registers hold the size of conventional memory and two pairs that of extended memory,
in kilobytes.
-/

namespace RealModeMonitor

structure CmosRam where
  selected : Fin 128 := 0
  registers : Vector UInt8 128
  deriving DecidableEq

namespace CmosRam

def indexPort : UInt16 := 0x70

def dataPort : UInt16 := 0x71

def statusA : Fin 128 := 0x0A

def statusC : Fin 128 := 0x0C

def statusD : Fin 128 := 0x0D

/-- Kilobytes above the first megabyte, at most 65535. -/
def extendedKilobytes (memory : Nat) : Nat := min ((memory - 0x100000) / 1024) 65535

/-- The contents of register `i` for a guest with `memory` bytes. -/
def initialRegister (memory : Nat) (i : Fin 128) : UInt8 :=
  let extended := UInt16.ofNat (extendedKilobytes memory)
  match i.val with
  | 0x06 => 0x07
  | 0x07 => 0x01
  | 0x08 => 0x01
  | 0x0A => 0x26
  | 0x0B => 0x02
  | 0x0D => 0x80
  | 0x14 => 0x21
  | 0x15 => Byte.lowByte 640
  | 0x16 => Byte.highByte 640
  | 0x17 => Byte.lowByte extended
  | 0x18 => Byte.highByte extended
  | 0x30 => Byte.lowByte extended
  | 0x31 => Byte.highByte extended
  | 0x32 => 0x20
  | _ => 0

def initial (memory : Nat) : CmosRam := { registers := Vector.ofFn (initialRegister memory) }

/-- The register that an index byte names. -/
def indexOf (b : UInt8) : Fin 128 := Fin.ofNat 128 b.toNat

def register (c : CmosRam) (i : Fin 128) : UInt8 := c.registers[i]

def setRegister (c : CmosRam) (i : Fin 128) (b : UInt8) : CmosRam :=
  { c with registers := c.registers.set i b }

/-- Write the selected register, as far as it can be written. -/
def writeSelected (c : CmosRam) (b : UInt8) : CmosRam :=
  if c.selected = statusA then
    c.setRegister statusA ((c.register statusA &&& 0x80) ||| (b &&& 0x7F))
  else if c.selected = statusC ∨ c.selected = statusD then c
  else c.setRegister c.selected b

def writePort (c : CmosRam) (port : UInt16) (b : UInt8) : CmosRam :=
  if port = indexPort then { c with selected := indexOf b }
  else if port = dataPort then c.writeSelected b
  else c

/-- Read the selected register. Reading register C clears it. -/
def readPort (c : CmosRam) (port : UInt16) : UInt8 × CmosRam :=
  if port = dataPort then
    (c.register c.selected, if c.selected = statusC then c.setRegister statusC 0 else c)
  else (0xFF, c)

end CmosRam
end RealModeMonitor
