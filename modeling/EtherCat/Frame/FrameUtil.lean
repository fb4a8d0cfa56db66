import EtherCat.Foundation.Iterator
import EtherCat.Frame.Ethercat

/-!
# Building frames and walking over datagrams

`EtherCatFrameUtil` appends datagrams to a frame.  `EtherCatPduIndexes` and `EtherCatPdus` walk
over the datagrams of a byte buffer, the first giving their offsets, the second their bytes.
Both stop at the end of the buffer, in front of a header that is cut off and at a datagram whose
length field is zero.

Every datagram moves the offset, so the buffer's length is always enough fuel for a walk
(`EtherCatPduIndexes.toList_eq_ok_iff`, `EtherCatPdus.toList_eq_ok_iff`).
-/

namespace EtherCat

open Rust BitField

/-- Change the part of a buffer from offset `i` on, as a view of `&mut buffer[i..]` does. -/
def onSuffix (buffer : List UInt8) (i : ℕ) (f : List UInt8 → Exec (List UInt8)) :
    Exec (List UInt8) := do
  let suffix ← sliceFrom buffer i
  let suffix' ← f suffix
  .ok (buffer.take i ++ suffix')

/-! ## The iterators -/

/-- The iterator over the positions of the datagrams in a frame. -/
structure EtherCatPduIndexes where
  buffer : List UInt8
  offset : ℕ
  length : ℕ

namespace EtherCatPduIndexes

/-- The iterator begins behind the two frame headers. -/
def newForEthercatFrame (buffer : List UInt8) (length : ℕ) : EtherCatPduIndexes :=
  ⟨buffer, frameHeaderSize, length⟩

/-- The position of the next datagram, as long as there is room for one. -/
def next (it : EtherCatPduIndexes) : Exec (Option (ℕ × EtherCatPduIndexes)) :=
  if it.buffer.length ≤ it.offset then
    .ok none
  else if (it.buffer.drop it.offset).length ≤ EtherCatPdu.headerSize - 1 then
    .ok none
  else do
    let len ← EtherCatPdu.length.get (it.buffer.drop it.offset)
    if len = 0 then
      .ok none
    else if it.offset < it.length then
      .ok (some (it.offset,
        { it with offset := it.offset + (EtherCatPdu.headerSize + len + wkcLength) }))
    else
      .ok none

/-- All positions. -/
def toList (it : EtherCatPduIndexes) : Exec (List ℕ) := collect next (it.buffer.length + 1) it

end EtherCatPduIndexes

/-- The iterator over the datagrams of a frame. -/
structure EtherCatPdus where
  buffer : List UInt8
  offset : ℕ
  length : ℕ

namespace EtherCatPdus

/-- The iterator over what is behind a frame header. -/
def new (buffer : List UInt8) (length frameHeaderSize : ℕ) : EtherCatPdus :=
  ⟨buffer, frameHeaderSize, length⟩

/-- The iterator begins behind the two frame headers. -/
def newForEthercatFrame (buffer : List UInt8) (length : ℕ) : EtherCatPdus :=
  ⟨buffer, frameHeaderSize, length⟩

/-- The next datagram, with its header and its working counter. -/
def next (it : EtherCatPdus) : Exec (Option (List UInt8 × EtherCatPdus)) :=
  if it.buffer.length ≤ it.offset then
    .ok none
  else if (it.buffer.drop it.offset).length ≤ EtherCatPdu.headerSize - 1 then
    .ok none
  else do
    let len ← EtherCatPdu.length.get (it.buffer.drop it.offset)
    if len = 0 then
      .ok none
    else if it.offset < it.length then do
      let stop := it.offset + (EtherCatPdu.headerSize + len + wkcLength)
      let pdu ← slice it.buffer it.offset stop
      .ok (some (pdu, { it with offset := stop }))
    else
      .ok none

/-- All datagrams. -/
def toList (it : EtherCatPdus) : Exec (List (List UInt8)) :=
  collect next (it.buffer.length + 1) it

end EtherCatPdus

/-! ## Frames -/

/-- A frame that is put together or taken apart. `freeOffset` is where the next datagram goes. -/
structure EtherCatFrameUtil where
  buffer : List UInt8
  freeOffset : ℕ
  index : UInt8

namespace EtherCatFrameUtil

/-- A frame whose length field tells where it ends. -/
def newUnchecked (buffer : List UInt8) : Exec EtherCatFrameUtil := do
  let ecPacket ← sliceFrom buffer EthernetFrame.headerSize
  let length ← EtherCatFrame.length.get ecPacket
  .ok ⟨buffer, frameHeaderSize + length, 0⟩

/-- The positions of the datagrams. -/
def dlpduIndexes (frame : EtherCatFrameUtil) : Exec (List ℕ) :=
  (EtherCatPduIndexes.newForEthercatFrame frame.buffer frame.buffer.length).toList

/-- The datagrams. -/
def dlpdus (frame : EtherCatFrameUtil) : Exec (List (List UInt8)) :=
  (EtherCatPdus.newForEthercatFrame frame.buffer frame.buffer.length).toList

/-- The frame without datagrams: only its headers are filled in. -/
def init (frame : EtherCatFrameUtil) : Exec EtherCatFrameUtil := do
  let buffer := List.replicate frame.buffer.length 0
  let buffer ← EthernetFrame.setEthercatDefault buffer
  let buffer ← onSuffix buffer EthernetFrame.headerSize (fun ec => do
    let ec ← EtherCatFrame.length.set ec 0
    EtherCatFrame.ethercatType.set ec 1)
  .ok ⟨buffer, EthernetFrame.headerSize + EtherCatFrame.headerSize, 0⟩

/-- Mark the last datagram of the frame, if there is one, as followed by another. -/
def setLastHasNext (frame : EtherCatFrameUtil) : Exec (List UInt8) := do
  let indexes ← frame.dlpduIndexes
  match indexes.getLast? with
  | none => .ok frame.buffer
  | some preDlpduIndex =>
    if EtherCatPdu.headerSize - 1 < (frame.buffer.drop preDlpduIndex).length then
      onSuffix frame.buffer preDlpduIndex (fun pdu => EtherCatPdu.hasNext.setBool pdu true)
    else
      .ok frame.buffer

/-- Append a datagram; `false` if the frame has no room for it. -/
def addCommand (frame : EtherCatFrameUtil) (command : CommandType) (adp ado : UInt16)
    (data : List UInt8) (index : Option UInt8) : Exec (Bool × EtherCatFrameUtil) := do
  let dataLen := data.length
  let dlpduLen := dataLen + EtherCatPdu.headerSize + wkcLength
  let room ← Exec.sub frame.buffer.length frame.freeOffset
  if dlpduLen > room then
    .ok (false, frame)
  else
    let buffer ← frame.setLastHasNext
    let buffer ← onSuffix buffer frame.freeOffset (fun pdu => do
      let pdu ← EtherCatPdu.commandType.set pdu command.toU8.toNat
      let pdu ← EtherCatPdu.adp.set pdu adp.toNat
      let pdu ← EtherCatPdu.ado.set pdu ado.toNat
      let pdu ← EtherCatPdu.index.set pdu (index.getD frame.index).toNat
      let pdu ← EtherCatPdu.isCirculated.setBool pdu false
      let pdu ← EtherCatPdu.hasNext.setBool pdu false
      let pdu ← EtherCatPdu.irq.set pdu 0
      EtherCatPdu.length.set pdu (dataLen % 2 ^ 16))
    let buffer ← copyFromSlice buffer (frame.freeOffset + EtherCatPdu.headerSize) data
    let buffer ← setIndex buffer (frame.freeOffset + EtherCatPdu.headerSize + dataLen) 0
    let buffer ← setIndex buffer (frame.freeOffset + EtherCatPdu.headerSize + dataLen + 1) 0
    let buffer ← onSuffix buffer EthernetFrame.headerSize (fun ec => do
      let ecFrameLen ← EtherCatFrame.length.get ec
      EtherCatFrame.length.set ec ((ecFrameLen + dlpduLen) % 2 ^ 16))
    .ok (true, { frame with buffer := buffer, freeOffset := frame.freeOffset + dlpduLen })

end EtherCatFrameUtil

end EtherCat
