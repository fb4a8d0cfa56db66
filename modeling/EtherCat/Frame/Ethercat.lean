import EtherCat.Foundation.BitField

/-!
# Ethernet, EtherCAT and datagram headers

The bit ranges are those of the header declarations, `msb, lsb`, with the Ethernet header in
network byte order.
-/

namespace EtherCat

open Rust BitField

def dstMac : ℕ := 0xFF_FF_FF_FF_FF_FF
def srcMac : ℕ := 0x05_05_05_05_05_05
def wkcLength : ℕ := 2
def ethercatType : ℕ := 0x88A4

namespace EthernetFrame

def headerSize : ℕ := 14
def destination : Field := ⟨47, 0, .msb0⟩
def source : Field := ⟨48 + 47, 48, .msb0⟩
def etherType : Field := ⟨48 + 47 + 1 + 15, 48 + 47 + 1, .msb0⟩

/-- The header of every frame: a broadcast from the master's address, with the type of EtherCAT. -/
def setEthercatDefault (frame : List UInt8) : Exec (List UInt8) := do
  let frame ← destination.set frame dstMac
  let frame ← source.set frame srcMac
  etherType.set frame ethercatType

end EthernetFrame

namespace EtherCatFrame

def headerSize : ℕ := 2
def length : Field := ⟨10, 0, .lsb0⟩
def ethercatType : Field := ⟨15, 12, .lsb0⟩

end EtherCatFrame

/-- The bytes in front of the first datagram of a frame. -/
def frameHeaderSize : ℕ := EtherCatFrame.headerSize + EthernetFrame.headerSize

namespace EtherCatPdu

def headerSize : ℕ := 10
def commandType : Field := ⟨7, 0, .lsb0⟩
def index : Field := ⟨15, 8, .lsb0⟩
def adp : Field := ⟨31, 16, .lsb0⟩
def ado : Field := ⟨47, 32, .lsb0⟩
def length : Field := ⟨58, 48, .lsb0⟩
def isCirculated : Field := .bit 62
def hasNext : Field := .bit 63
def irq : Field := ⟨64 + 15, 64, .lsb0⟩

/-- The working counter behind the data, if both of its bytes are there. -/
def wkc (pdu : List UInt8) : Exec (Option UInt16) := do
  let len ← length.get pdu
  match pdu[headerSize + len]?, pdu[headerSize + len + 1]? with
  | some low, some high => .ok (some ((high.toUInt16 <<< 8) ||| low.toUInt16))
  | _, _ => .ok none

/-- What is behind the header: the data and the working counter. -/
def withoutHeader (pdu : List UInt8) : Exec (List UInt8) := sliceFrom pdu headerSize

end EtherCatPdu

/-- The largest Ethernet frame. -/
def ethernetFrameSizeWithoutFcs : ℕ := 1514

/-- How much of it is left for datagrams. -/
def maxEthercatDatagram : ℕ :=
  ethernetFrameSizeWithoutFcs - EthernetFrame.headerSize - EtherCatFrame.headerSize

/-- And for the data of a single one. -/
def maxPduDatagram : ℕ := maxEthercatDatagram - EtherCatPdu.headerSize - wkcLength

/-- The datagram commands, with `invalid` for every other code. -/
inductive CommandType
  | nop | aprd | apwr | aprw | fprd | fpwr | fprw | brd | bwr | brw | lrd | lwr | lrw | armw | frmw
  | invalid
  deriving DecidableEq, Repr

namespace CommandType

/-- The code of a command. -/
def toU8 : CommandType → UInt8
  | nop => 0x00 | aprd => 0x01 | apwr => 0x02 | aprw => 0x03 | fprd => 0x04 | fpwr => 0x05
  | fprw => 0x06 | brd => 0x07 | bwr => 0x08 | brw => 0x09 | lrd => 0x0A | lwr => 0x0B
  | lrw => 0x0C | armw => 0x0D | frmw => 0x0E | invalid => 0x0F

/-- The command of a code. -/
def ofU8 (code : UInt8) : CommandType :=
  match code with
  | 0x00 => nop | 0x01 => aprd | 0x02 => apwr | 0x03 => aprw | 0x04 => fprd | 0x05 => fpwr
  | 0x06 => fprw | 0x07 => brd | 0x08 => bwr | 0x09 => brw | 0x0A => lrd | 0x0B => lwr
  | 0x0C => lrw | 0x0D => armw | 0x0E => frmw | _ => invalid

@[simp] lemma ofU8_toU8 (c : CommandType) : ofU8 c.toU8 = c := by cases c <;> rfl

end CommandType

end EtherCat
