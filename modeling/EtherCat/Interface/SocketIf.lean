import EtherCat.Interface.PduIf
import EtherCat.Util.IndexSet

/-!
# Sockets

A `PduSocket` holds one datagram at a time in a buffer that serves for the request and for the
response.  `SocketInterface` moves the requests of its sockets into the PDU interface and the
responses back.  The index byte of a datagram is what connects a response with a socket.
-/

namespace EtherCat

open Rust BitField

/-- A PDU as a task sees it. -/
structure Pdu where
  command : Command
  data : List UInt8
  wkc : UInt16
  deriving DecidableEq, Repr

/-- A closure for `set_pdu`: it writes the socket's buffer and gives a command and a length. -/
structure PduWriter where
  run : List UInt8 → Option (Command × ℕ) × List UInt8
  length_run : ∀ buf, (run buf).2.length = buf.length

/-- A place for one PDU: its command, the buffer with its data, and whether a response has come. -/
structure PduSocket where
  command : Option Command
  dataBuf : List UInt8
  wkc : UInt16
  dataLength : ℕ
  recvFlag : Bool
  deriving DecidableEq, Repr

namespace PduSocket

/-- A socket without a PDU. -/
def new (buf : List UInt8) : PduSocket where
  command := none
  dataBuf := buf
  wkc := 0
  dataLength := 0
  recvFlag := false

/-- The next PDU goes into the socket, or none does. -/
def setPdu (socket : PduSocket) (commandData : PduWriter) : PduSocket :=
  match commandData.run socket.dataBuf with
  | (some (command, length), dataBuf) =>
    { command := some command, dataBuf := dataBuf, wkc := 0, dataLength := length,
      recvFlag := false }
  | (none, dataBuf) =>
    { command := none, dataBuf := dataBuf, wkc := 0, dataLength := 0, recvFlag := false }

/-- The response, if one has come. -/
def getRecievedPdu (socket : PduSocket) : Exec (Option Pdu) :=
  if socket.recvFlag then
    match socket.command with
    | some command => do
      let data ← sliceTo socket.dataBuf socket.dataLength
      .ok (some ⟨command, data, socket.wkc⟩)
    | none => .ok none
  else
    .ok none

/-- The method `data_length`: the length of the datagram the socket holds, if it holds one. -/
def pduLength (socket : PduSocket) : ℕ :=
  if socket.command.isSome then socket.dataLength else 0

/-- The PDU that waits to be sent. -/
def takePdu (socket : PduSocket) : Exec (Option Pdu × PduSocket) :=
  if socket.recvFlag then
    .ok (none, socket)
  else
    match socket.command with
    | none => .ok (none, socket)
    | some command => do
      let data ← sliceTo socket.dataBuf socket.dataLength
      .ok (some ⟨command, data, 0⟩, { socket with command := none })

/-- A response. Its data are cut off at the buffer. -/
def recieve (socket : PduSocket) (recvData : Pdu) : PduSocket :=
  { socket with
    recvFlag := true
    command := some recvData.command
    dataBuf := overwrite socket.dataBuf recvData.data
    wkc := recvData.wkc }

end PduSocket

/-- The sockets, and the interface that sends their PDUs. -/
structure SocketInterface (D : Type) (N : ℕ) where
  iface : PduInterface D
  socketSet : IndexSet PduSocket N

namespace SocketInterface

variable {D : Type} {N : ℕ}

/-- An interface without sockets. -/
def new (iface : PduInterface D) : SocketInterface D N := ⟨iface, .new⟩

/-- A socket gets a handle, if one is free. -/
def addSocket (sif : SocketInterface D N) (socket : PduSocket) :
    Exec (Except PduSocket ℕ × SocketInterface D N) := do
  let (result, socketSet) ← sif.socketSet.addItem socket
  .ok (result, { sif with socketSet := socketSet })

/-- The socket of a handle is given back. -/
def removeSocket (sif : SocketInterface D N) (socketHandle : ℕ) :
    Option PduSocket × SocketInterface D N :=
  let (socket, socketSet) := sif.socketSet.removeItem socketHandle
  (socket, { sif with socketSet := socketSet })

/-- The socket of a handle. -/
def getSocket (sif : SocketInterface D N) (socketHandle : ℕ) : Option PduSocket :=
  sif.socketSet.getItem socketHandle

/-- The interface after a change through the reference `get_socket_mut` returns. -/
def modifySocket (sif : SocketInterface D N) (socketHandle : ℕ) (f : PduSocket → PduSocket) :
    SocketInterface D N :=
  { sif with socketSet := sif.socketSet.modifyItem socketHandle f }

/-- Copy a socket's data into the buffer of the PDU interface. -/
def copyWriter (data : List UInt8) : SliceWriter UInt8 where
  run buf := overwrite buf data
  length_run buf := length_overwrite buf data

/-- The loop of `enqueue_pdus` over the slots; `i` counts the sockets met so far. -/
def enqueueSlots : List ℕ → ℕ → SocketInterface D N → Exec (Bool × SocketInterface D N)
  | [], _, sif => .ok (true, sif)
  | slot :: slots, i, sif =>
    match sif.getSocket slot with
    | none => enqueueSlots slots i sif
    | some socket => do
      let len := socket.pduLength
      let remaining ← sif.iface.remainigPduDataCapacity
      if remaining < len then
        .ok (false, sif)
      else
        match ← socket.takePdu with
        | (none, _) => enqueueSlots slots (i + 1) sif
        | (some commandData, socket) => do
          let (result, iface) ← sif.iface.addPdu (UInt8.ofNat i) commandData.command len
            (copyWriter commandData.data)
          match result with
          | .error _ => .error .unwrap
          | .ok () =>
            enqueueSlots slots (i + 1)
              (SocketInterface.modifySocket { sif with iface := iface } slot (fun _ => socket))

/-- The PDUs of all sockets go into the frame, each with its handle as index. -/
def enqueuePdus (sif : SocketInterface D N) : Exec (Bool × SocketInterface D N) :=
  enqueueSlots (List.range N) 0 sif

/-- The received datagram as a socket stores it. -/
def responsePdu (pdu : List UInt8) : Exec Pdu := do
  let wkc ← EtherCatPdu.wkc pdu
  let cType ← EtherCatPdu.commandType.get pdu
  let adp ← EtherCatPdu.adp.get pdu
  let ado ← EtherCatPdu.ado.get pdu
  let withoutHeader ← EtherCatPdu.withoutHeader pdu
  let length ← EtherCatPdu.length.get pdu
  let data ← sliceTo withoutHeader length
  .ok ⟨⟨.ofU8 (UInt8.ofNat cType), UInt16.ofNat adp, UInt16.ofNat ado⟩, data, wkc.getD 0⟩

/-- The loop of `transmit_and_receive` over the consumed datagrams. -/
def deliverPdus : List (List UInt8) → SocketInterface D N → Exec (SocketInterface D N)
  | [], sif => .ok sif
  | pdu :: pdus, sif => do
    let index ← EtherCatPdu.index.get pdu
    match sif.getSocket index with
    | none => deliverPdus pdus sif
    | some _ => do
      let recvData ← responsePdu pdu
      deliverPdus pdus (sif.modifySocket index (fun socket => socket.recieve recvData))

variable [RawEthernetDevice D]

/-- If true, all PDUs are transmitted and received. -/
def transmitAndReceive (sif : SocketInterface D N) :
    Exec (Except PhyError Bool × SocketInterface D N) := do
  let (txResult, iface) ← sif.iface.transmitOneFrame
  match txResult with
  | .error e => .ok (.error e, { sif with iface := iface })
  | .ok isTxOk => do
    let (rxResult, iface) ← iface.receiveOneFrame
    match rxResult with
    | .error e => .ok (.error e, { sif with iface := iface })
    | .ok isRxOk =>
      if !(isTxOk && isRxOk) then
        .ok (.ok false, { sif with iface := iface })
      else do
        let (pdus, iface) := iface.consumePdus
        let pdus ← pdus.toList
        let sif ← deliverPdus pdus { sif with iface := iface }
        .ok (.ok true, sif)

/-- If true, all PDUs are transmitted and received. -/
def pollTxRx (sif : SocketInterface D N) :
    Exec (Except PhyError Bool × SocketInterface D N) := do
  let (isAllCommandsEnqueued, sif) ← sif.enqueuePdus
  let (result, sif) ← sif.transmitAndReceive
  match result with
  | .error e => .ok (.error e, sif)
  | .ok isAllEnqueuedCommandsProcessed =>
    .ok (.ok (isAllCommandsEnqueued && isAllEnqueuedCommandsProcessed), sif)

end SocketInterface

end EtherCat
