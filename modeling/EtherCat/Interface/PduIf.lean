import EtherCat.Frame.FrameUtil
import EtherCat.Interface.Command
import EtherCat.Interface.Hal

/-!
# The PDU interface

`PduInterface` collects datagrams in one buffer, packs them into a frame, and copies the
datagrams of the frames that come back over the same buffer.  Five counters say how much of the
buffer is in use and how many datagrams are still to be sent and to be received.

Each operation returns its result together with the interface it leaves.
-/

namespace EtherCat

open Rust BitField

/-- The interface to the device, with the frame that is put together and the counters of its PDUs.
-/
structure PduInterface (D : Type) where
  ethdev : D
  buffer : List UInt8
  pdusTotalSize : ℕ
  pduCount : ℕ
  txCount : ℕ
  capacity : ℕ
  recvDataSize : ℕ

namespace PduInterface

variable {D : Type}

/-- An interface without PDUs. -/
def new (ethdev : D) (buffer : List UInt8) : PduInterface D where
  ethdev := ethdev
  buffer := buffer
  pdusTotalSize := 0
  pduCount := 0
  txCount := 0
  capacity := min buffer.length maxEthercatDatagram
  recvDataSize := 0

/-- How many bytes of data another PDU may have. -/
def remainigPduDataCapacity (iface : PduInterface D) : Exec ℕ := do
  let free ← Exec.sub iface.capacity iface.pdusTotalSize
  let free ← Exec.sub free EtherCatPdu.headerSize
  Exec.sub free wkcLength

/-- The ten header bytes of a new datagram. -/
def newHeader (pduIndex : UInt8) (command : Command) (dataSize : ℕ) : Exec (List UInt8) := do
  let header := List.replicate EtherCatPdu.headerSize 0
  let header ← EtherCatPdu.index.set header pduIndex.toNat
  let header ← EtherCatPdu.commandType.set header command.cType.toU8.toNat
  let header ← EtherCatPdu.adp.set header command.adp.toNat
  let header ← EtherCatPdu.ado.set header command.ado.toNat
  EtherCatPdu.length.set header (dataSize % 2 ^ 16)

/-- Append a datagram to the buffer, or give the command back if there is no room. -/
def addPdu (iface : PduInterface D) (pduIndex : UInt8) (command : Command) (dataSize : ℕ)
    (dataWriter : SliceWriter UInt8) : Exec (Except Command Unit × PduInterface D) :=
  if iface.pdusTotalSize + EtherCatPdu.headerSize + dataSize + wkcLength > iface.capacity then
    .ok (.error command, iface)
  else if dataSize > maxPduDatagram then
    .ok (.error command, iface)
  else do
    let header ← newHeader pduIndex command dataSize
    let dataStart := iface.pdusTotalSize + EtherCatPdu.headerSize
    let buffer ← copyFromSlice iface.buffer iface.pdusTotalSize header
    let target ← slice buffer dataStart (dataStart + dataSize)
    let buffer ← copyFromSlice buffer dataStart (dataWriter.run target)
    let buffer ← setIndex buffer (dataStart + dataSize + 1) 0
    let buffer ← setIndex buffer (dataStart + dataSize + 2) 0
    .ok (.ok (), { iface with
      buffer := buffer
      pdusTotalSize := iface.pdusTotalSize + (EtherCatPdu.headerSize + dataSize + wkcLength)
      pduCount := iface.pduCount + 1 })

/-- The datagrams in the buffer.  The buffer then counts as empty. -/
def consumePdus (iface : PduInterface D) : EtherCatPdus × PduInterface D :=
  (.new iface.buffer iface.pdusTotalSize 0, { iface with pdusTotalSize := 0, recvDataSize := 0 })

/-- The body of the transmit closure's loop: move the datagrams into the frame and count them. -/
def fillFrame : List (List UInt8) → EtherCatFrameUtil → ℕ → ℕ →
    Exec (EtherCatFrameUtil × ℕ × ℕ)
  | [], ecFrame, txCount, pduCount => .ok (ecFrame, txCount, pduCount)
  | pdu :: pdus, ecFrame, txCount, pduCount => do
    let index ← EtherCatPdu.index.get pdu
    let command ← EtherCatPdu.commandType.get pdu
    let adp ← EtherCatPdu.adp.get pdu
    let ado ← EtherCatPdu.ado.get pdu
    let length ← EtherCatPdu.length.get pdu
    let withoutHeader ← EtherCatPdu.withoutHeader pdu
    let data ← sliceTo withoutHeader length
    let (added, ecFrame) ← ecFrame.addCommand (.ofU8 (UInt8.ofNat command)) (UInt16.ofNat adp)
      (UInt16.ofNat ado) data (some (UInt8.ofNat index))
    if !added then
      .error .explicit
    else do
      let pduCount ← Exec.sub pduCount 1
      fillFrame pdus ecFrame (txCount + 1) pduCount

/-- The body of the receive closure's loop: copy the datagrams over the buffer and count them. -/
def storePdus : List (List UInt8) → List UInt8 → ℕ → ℕ → Exec (List UInt8 × ℕ × ℕ)
  | [], buffer, recvDataSize, txCount => .ok (buffer, recvDataSize, txCount)
  | pdu :: pdus, buffer, recvDataSize, txCount => do
    let length ← EtherCatPdu.length.get pdu
    let pduSize := EtherCatPdu.headerSize + length + wkcLength
    let target ← slice buffer recvDataSize (recvDataSize + pduSize)
    let _ ← Exec.check (target.length = pdu.length) .lengthMismatch ()
    let buffer ← copyFromSlice buffer recvDataSize pdu
    let txCount ← Exec.sub txCount 1
    storePdus pdus buffer (recvDataSize + pduSize) txCount

variable [RawEthernetDevice D]

/-- If true, all PDUs are transmitted. -/
def transmitOneFrame (iface : PduInterface D) : Exec (Except PhyError Bool × PduInterface D) :=
  if iface.pduCount = 0 then
    .ok (.ok true, iface)
  else do
    let buffer ← sliceTo iface.buffer iface.pdusTotalSize
    match RawEthernetDevice.transmit iface.ethdev with
    | .none ethdev => .ok (.error .txNotAvailable, { iface with ethdev := ethdev })
    | .some txToken =>
      let len := EthernetFrame.headerSize + EtherCatFrame.headerSize + iface.pdusTotalSize
      match txToken len with
      | .refused _ ethdev => .ok (.error .txError, { iface with ethdev := ethdev })
      | .filled txBuffer send => do
        let ecFrame ← EtherCatFrameUtil.newUnchecked txBuffer
        let ecFrame ← ecFrame.init
        let pdus ← (EtherCatPdus.new buffer iface.pdusTotalSize 0).toList
        let (ecFrame, txCount, pduCount) ← fillFrame pdus ecFrame iface.txCount iface.pduCount
        let (txResult, ethdev) := send ecFrame.buffer
        let iface := { iface with ethdev := ethdev, txCount := txCount, pduCount := pduCount }
        match txResult with
        | .error _ => .ok (.error .txError, iface)
        | .ok () => .ok (.ok (decide (¬ txCount < pduCount)), iface)

/-- If true, all PDUs are received. -/
def receiveOneFrame (iface : PduInterface D) : Exec (Except PhyError Bool × PduInterface D) :=
  if iface.txCount = 0 then
    .ok (.ok true, iface)
  else
    match RawEthernetDevice.receive iface.ethdev with
    | .none ethdev => .ok (.error .rxNotAvailable, { iface with ethdev := ethdev })
    | .some (.refused _ ethdev) => .ok (.error .rxError, { iface with ethdev := ethdev })
    | .some (.frame frame rxResult ethdev) => do
      let source ← EthernetFrame.source.get frame
      let etherType ← if source = srcMac then .ok 0 else EthernetFrame.etherType.get frame
      let (buffer, recvDataSize, txCount) ←
        if source = srcMac ∨ etherType ≠ ethercatType then
          -- another station's frame
          .ok (iface.buffer, iface.recvDataSize, iface.txCount)
        else do
          let ecFrame ← EtherCatFrameUtil.newUnchecked frame
          let pdus ← ecFrame.dlpdus
          storePdus pdus iface.buffer iface.recvDataSize iface.txCount
      let iface := { iface with
        ethdev := ethdev
        buffer := buffer
        recvDataSize := recvDataSize
        txCount := txCount }
      match rxResult with
      | .error _ => .ok (.error .rxError, iface)
      | .ok () => .ok (.ok (decide (¬ 0 < txCount)), iface)

end PduInterface

end EtherCat
