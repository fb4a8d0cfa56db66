import EtherCat.Foundation.Bytes

/-!
# Ranges of bits in the logical address space

A process data object occupies a range of bits of the logical address space: a byte address, the
bit of that byte where it starts, and a length in bits.  The functions at the end move its bits
between the process data image and a buffer of the caller.
-/

namespace EtherCat

open Rust Rust.Exec

/-- Bits in the process data image. -/
structure LogicalBits where
  logicalAddress : Option UInt32
  startBit : UInt8
  bitLength : UInt16
  deriving DecidableEq, Repr

namespace LogicalBits

/-- No bits. -/
def new : LogicalBits where
  logicalAddress := none
  startBit := 0
  bitLength := 0

/-- Another address. -/
def setLogicalAddress (bits : LogicalBits) (logicalAddress : Option UInt32) : LogicalBits :=
  { bits with logicalAddress := logicalAddress }

/-- Another first bit. -/
def setStartBit (bits : LogicalBits) (startBit : UInt8) : LogicalBits :=
  { bits with startBit := startBit }

/-- Another length. -/
def setBitLength (bits : LogicalBits) (bitLength : UInt16) : LogicalBits :=
  { bits with bitLength := bitLength }

/-- The number of bytes the range touches. -/
def byteLength (bits : LogicalBits) : Exec ℕ := do
  let length ← addUpTo 16 bits.bitLength.toNat bits.startBit.toNat
  .ok (if length % 8 = 0 then length / 8 else length / 8 + 1)

/-- The last bit of the last byte of the range. -/
def endBit (bits : LogicalBits) : Exec ℕ := do
  let length ← addUpTo 16 bits.bitLength.toNat bits.startBit.toNat
  .ok (if length % 8 = 0 then 7 else length % 8 - 1)

/-- `<<` on a byte, checked. -/
def shl (byte : UInt8) (n : ℕ) : Exec UInt8 :=
  check (n < 8) .arithmetic (byte <<< UInt8.ofNat n)

/-- `>>` on a byte, checked. -/
def shr (byte : UInt8) (n : ℕ) : Exec UInt8 :=
  check (n < 8) .arithmetic (byte >>> UInt8.ofNat n)

/-- One turn of the loop of `read_to_buffer`. -/
def readByte (bits : LogicalBits) (pdoOffset : ℕ) (image : List UInt8) (i : ℕ)
    (buf : List UInt8) : Exec (List UInt8) := do
  let v ← shr (← index image (pdoOffset + i)) bits.startBit.toNat
  let nextV ← shl (← index image (pdoOffset + i + 1)) (← sub 7 bits.startBit.toNat)
  setIndex buf i (v ||| nextV)

/-- The bits of the image go into the buffer, from its first bit on. -/
def readToBuffer (bits : LogicalBits) (logicalAddressOffset : UInt32)
    (processDataImage buf : List UInt8) : Exec (Option Unit × List UInt8) := do
  let size ← bits.byteLength
  match bits.logicalAddress with
  | none => .ok (none, buf)
  | some logicalStartAddress => do
    let pdoOffset ← sub logicalStartAddress.toNat logicalAddressOffset.toNat
    let last ← sub (pdoOffset + size) 1
    match processDataImage[last]? with
    | none => .ok (none, buf)
    | some lastByte => do
      let lastIndex ← sub size 1
      match buf[lastIndex]? with
      | none => .ok (none, buf)
      | some _ => do
        let buf ← (List.range lastIndex).foldlM
          (fun buf i => bits.readByte pdoOffset processDataImage i buf) buf
        let buf ← setIndex buf lastIndex (← shr lastByte bits.startBit.toNat)
        .ok (some (), buf)

/-- Clear the bits of one byte of the image that `write_from_buffer` is about to write. -/
def clearByte (bits : LogicalBits) (size i : ℕ) (byte : UInt8) : Exec UInt8 :=
  if i = 0 then
    if bits.startBit = 0 then
      .ok 0
    else do
      let mask ← shr 0xFF (← sub 8 bits.startBit.toNat)
      .ok (byte &&& mask)
  else if i = size - 1 then do
    let mod8 := (← addUpTo 16 bits.bitLength.toNat bits.startBit.toNat) % 8
    if mod8 = 0 then
      .ok 0
    else do
      let mask ← shl 0xFF mod8
      .ok (byte &&& mask)
  else
    .ok 0

/-- One turn of the loop of `write_from_buffer`. -/
def writeByte (bits : LogicalBits) (pdoOffset size : ℕ) (buf : List UInt8) (i : ℕ)
    (image : List UInt8) : Exec (List UInt8) := do
  let byte ← bits.clearByte size i (← index image (pdoOffset + i))
  let byte := byte ||| (← shl (← index buf i) bits.startBit.toNat)
  let byte ←
    if 1 ≤ i ∧ bits.startBit ≠ 0 then do
      let carry ← shr (← index buf (i - 1)) (← sub 8 bits.startBit.toNat)
      .ok (byte ||| carry)
    else
      .ok byte
  setIndex image (pdoOffset + i) byte

/-- The bits of the buffer go into the image. -/
def writeFromBuffer (bits : LogicalBits) (logicalAddressOffset : UInt32)
    (processDataImage buf : List UInt8) : Exec (Option Unit × List UInt8) := do
  let size ← bits.byteLength
  match bits.logicalAddress with
  | none => .ok (none, processDataImage)
  | some logicalStartAddress => do
    let pdoOffset ← sub logicalStartAddress.toNat logicalAddressOffset.toNat
    let last ← sub (pdoOffset + size) 1
    match processDataImage[last]? with
    | none => .ok (none, processDataImage)
    | some _ => do
      let image ← (List.range size).foldlM
        (fun image i => bits.writeByte pdoOffset size buf i image) processDataImage
      .ok (some (), image)

end LogicalBits

end EtherCat
