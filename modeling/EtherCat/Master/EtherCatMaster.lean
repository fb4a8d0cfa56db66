import EtherCat.Master.ConfigureSlaves
import EtherCat.Master.Mailbox
import EtherCat.Task.AlStateTransfer
import EtherCat.Task.LoopTasks
import EtherCat.Task.RequiredBuffer
import EtherCat.Task.SdoTransfer
import EtherCat.Task.SlaveInitialize

/-!
# The master

The master has a socket for each of its tasks and one for the blocking calls.  In the cyclic
operation `process` polls the interface until all PDUs have come back, and then lets every task make
a step; between the calls the user reads and writes the process data and makes requests.

A blocking call may wait forever.  Its loop is followed for a number of turns; if it has not
returned by then, the result is `none`.
-/

namespace EtherCat

open Rust Rust.Exec CyclicTask

/-- The number of sockets of the master. -/
def numSockets : ℕ := 7

/-- The master: its sockets, the slaves, and the tasks of the cyclic operation with the handles of
their sockets. -/
structure EtherCatMaster (D : Type) where
  sif : SocketInterface D numSockets
  network : Network
  gpSocketHandle : ℕ
  cycleCount : ℕ
  mailboxHandle : ℕ
  mailboxManager : MailboxManager
  processDataHandle : Option ℕ
  processDataTask : ProcessTask
  dcHandle : ℕ
  dcTask : Option DcSyncTask
  alStateHandle : ℕ
  alStateTask : AlStateReadTask
  rxErrorHandle : ℕ
  rxErrorTask : RxErrorReadTask
  alTfHandle : ℕ
  alTfTask : AlStateTransferTask

namespace SocketInterface

variable {D : Type} {N : ℕ}

/-- `add_socket` with a buffer and `unwrap`. -/
def addBuffer (sif : SocketInterface D N) (buf : List UInt8) : Exec (ℕ × SocketInterface D N) := do
  let (result, sif) ← sif.addSocket (.new buf)
  let handle ← unwrapResult result
  .ok (handle, sif)

/-- `process_one_step` of a task with the socket that a handle names. -/
def processTask {T : Type} [CyclicTask T] (sif : SocketInterface D N) (handle : ℕ) (task : T)
    (sysTime : ℕ) : Exec (T × SocketInterface D N) := do
  let socket ← unwrap (sif.getSocket handle)
  let (task, socket) ← CyclicTask.processOneStep task socket sysTime
  .ok (task, sif.modifySocket handle fun _ => socket)

variable [RawEthernetDevice D]

/-- A blocking call. -/
def block (turns handle : ℕ) (sif : SocketInterface D N) (call : BlockingCall) :
    Exec (Option call.Answer × SocketInterface D N) := do
  let socket ← unwrap (sif.getSocket handle)
  let (started, dataBuf) ← call.start socket.dataBuf
  let sif := sif.modifySocket handle fun socket => { socket with dataBuf := dataBuf }
  match started with
  | .error e => .ok (some (.error e), sif)
  | .ok unit => do
    let (result, block) ← Loop.turns (BlockOn.turn call.Error) turns (.new sif handle unit)
    match result with
    | none => .ok (none, block.sif)
    | some (.error e) => .ok (some (.error e), block.sif)
    | some (.ok ()) => do
      let socket ← unwrap (block.sif.getSocket handle)
      let result ← call.finish block.unit socket.dataBuf
      .ok (some result, block.sif)

/-- The calls of the configuration. -/
def access (turns handle : ℕ) (sif : SocketInterface D N) :
    (access : Access) → Exec (Option access.Answer × SocketInterface D N)
  | .readSdo slave index subIndex => do
    let (result, sif) ← (readSdo 64 slave index subIndex).exec (block turns handle) sif
    .ok (result.map fun (result, _) => .ok result, sif)
  | .writeSdo slave index subIndex data => do
    let (result, sif) ← (writeSdo 64 slave index subIndex data).exec (block turns handle) sif
    .ok (result.map fun (result, _) => .ok result, sif)
  | .readRegister targetSlave registerAddress dataSize => do
    let (result, sif) ← sif.block turns handle (.readRegister targetSlave registerAddress dataSize)
    .ok (result.map .ok, sif)
  | .writeRegister targetSlave registerAddress data => do
    let (result, sif) ← sif.block turns handle (.writeRegister targetSlave registerAddress data)
    .ok (result.map .ok, sif)

end SocketInterface

/-- `split_at_mut`. -/
def splitAt (s : List UInt8) (n : ℕ) : Exec (List UInt8 × List UInt8) :=
  check (n ≤ s.length) .index (s.take n, s.drop n)

namespace EtherCatMaster

variable {D : Type}

/-- The size of the buffer that `new` asks for. -/
def minimumRequiredBufferSize : ℕ :=
  AlStateReadTask.requiredBufferSize + RxErrorReadTask.requiredBufferSize +
    DcSyncTask.requiredBufferSize + AlStateTransferTask.requiredBufferSize +
    SlaveInitTask.maxSmSize.toNat + SlaveInitTask.maxSmSize.toNat

/-- A master. The buffer is shared out among the sockets. -/
def new (slaveBuf : List (Option Slave × SlaveConfig)) (socketBuffer : List UInt8)
    (iface : PduInterface D) : Exec (EtherCatMaster D) := do
  Exec.assert (slaveBuf ≠ [])
  Exec.assert (minimumRequiredBufferSize < socketBuffer.length)
  let (pduBuffer1, rest) ← splitAt socketBuffer AlStateReadTask.requiredBufferSize
  let (pduBuffer2, rest) ← splitAt rest RxErrorReadTask.requiredBufferSize
  let (pduBuffer3, rest) ← splitAt rest DcSyncTask.requiredBufferSize
  let (pduBuffer4, rest) ← splitAt rest SlaveInitTask.maxSmSize.toNat
  let (pduBuffer5, rest) ← splitAt rest SlaveInitTask.maxSmSize.toNat
  let (pduBuffer6, _) ← splitAt rest AlStateTransferTask.requiredBufferSize
  let (alStateHandle, sif) ← (SocketInterface.new iface).addBuffer pduBuffer1
  let (rxErrorHandle, sif) ← sif.addBuffer pduBuffer2
  let (dcHandle, sif) ← sif.addBuffer pduBuffer3
  let (gpSocketHandle, sif) ← sif.addBuffer pduBuffer4
  let (mailboxHandle, sif) ← sif.addBuffer pduBuffer5
  let (alTfHandle, sif) ← sif.addBuffer pduBuffer6
  .ok {
    sif := sif
    network := .new slaveBuf
    gpSocketHandle := gpSocketHandle
    cycleCount := 0
    mailboxHandle := mailboxHandle
    mailboxManager := .new .new
    processDataHandle := none
    processDataTask := .new logicalStartAddress 0 0
    dcHandle := dcHandle
    dcTask := none
    alStateTask := .new
    alStateHandle := alStateHandle
    rxErrorTask := .new
    rxErrorHandle := rxErrorHandle
    alTfHandle := alTfHandle
    alTfTask := .new }

/-! ## The blocking calls -/

section
variable [RawEthernetDevice D]

/-- The blocking scan of the network. Without a result the turns were too few. -/
def init (turns : ℕ) (master : EtherCatMaster D) :
    Exec (Option (Except (TaskError NetworkInitTaskError) Unit) × EtherCatMaster D) := do
  let socket ← unwrap (master.sif.getSocket master.gpSocketHandle)
  Exec.assert (NetworkInitTask.requiredBufferSize ≤ socket.dataBuf.length)
  let (result, block) ← Loop.turns (BlockOn.turn NetworkInitTaskError) turns
    (.new master.sif master.gpSocketHandle (NetworkInitTask.new master.network).start)
  let master := { master with sif := block.sif, network := block.unit.network }
  match result with
  | none => .ok (none, master)
  | some (.error e) => .ok (some (.error e), master)
  | some (.ok ()) => do
    match ← unwrap block.unit.waitResult with
    | .error e => .ok (some (.error e), master)
    | .ok () =>
      .ok (some (.ok ()), { master with
        alStateTask := master.alStateTask.setTarget (.all (.ofNat master.network.numSlaves)) })

/-- The loop of `init_dc`: the first slave with a clock, and how many there are. -/
def countDcSlaves : List Slave → ℕ → Option ℕ → ℕ → Exec (Option ℕ × ℕ)
  | [], _, firstDcSlave, dcCount => .ok (firstDcSlave, dcCount)
  | slave :: slaves, i, firstDcSlave, dcCount =>
    if slave.info.supportDc then do
      let dcCount ← addUpTo 16 dcCount 1
      countDcSlaves slaves (i + 1) (firstDcSlave <|> some i) dcCount
    else
      countDcSlaves slaves (i + 1) firstDcSlave dcCount

/-- The end of `init_dc`. -/
def newDcTask (network : Network) (dcTask : Option DcSyncTask) : Exec (Option DcSyncTask) := do
  match ← countDcSlaves (network.slaves.filterMap Prod.fst) 0 none 0 with
  | (some firstDcSlave, dcCount) => .ok (some (.new (.ofNat firstDcSlave) (.ofNat dcCount)))
  | (none, _) => .ok dcTask

/-- The blocking setup of the clocks. -/
def initDc (turns : ℕ) (master : EtherCatMaster D) :
    Exec (Option (Except (TaskError Unit) Unit) × EtherCatMaster D) := do
  let socket ← unwrap (master.sif.getSocket master.gpSocketHandle)
  Exec.assert (DcInitTask.requiredBufferSize ≤ socket.dataBuf.length)
  let (task, network) ← DcInitTask.start master.network
  let (result, block) ← Loop.turns (BlockOn.turn Unit) turns
    (.new master.sif master.gpSocketHandle (⟨task, network⟩ : DcInitTask.OnNetwork))
  let master := { master with sif := block.sif, network := block.unit.network }
  match result with
  | none => .ok (none, master)
  | some (.error e) => .ok (some (.error e), master)
  | some (.ok ()) => do
    match ← unwrap block.unit.task.waitResult with
    | .error e => .ok (some (.error e), master)
    | .ok () => do
      let dcTask ← newDcTask master.network master.dcTask
      .ok (some (.ok ()), { master with dcTask := dcTask })

/-- The loop that waits for the start of the clock signals is followed for `polls` turns. -/
def configureSlavesForOperation (turns polls : ℕ) (master : EtherCatMaster D) :
    Exec (Option (Except ConfigError Unit) × EtherCatMaster D) := do
  let (result, sif) ←
    (PdoImage.configureSlavesForOperation polls ⟨master.network, master.processDataTask⟩).exec
      (SocketInterface.access turns master.gpSocketHandle) master.sif
  match result with
  | none => .ok (none, { master with sif := sif })
  | some (result, image) =>
    .ok (some result, { master with
      sif := sif, network := image.network, processDataTask := image.processDataTask })

/-- `read_register`, `write_register`, `read_al_state`, `change_al_state` and `read_sii`. -/
def block (turns : ℕ) (master : EtherCatMaster D) (call : BlockingCall) :
    Exec (Option call.Answer × EtherCatMaster D) := do
  let (result, sif) ← master.sif.block turns master.gpSocketHandle call
  .ok (result, { master with sif := sif })

/-- `read_sdo` and `write_sdo`.  The transfer counts its request in the slave. -/
def transferSdo {α : Type} (turns : ℕ) (master : EtherCatMaster D) (slaveAddress : SlaveAddress)
    (transfer : Slave → CallProgram (Except (TaskError SdoErrorKind) α × Slave)) :
    Exec (Option (Except (TaskError SdoErrorKind) α) × EtherCatMaster D) := do
  let (slave, _) ← unwrap (← master.network.slave slaveAddress)
  let position ← unwrap (Network.position slaveAddress)
  let (result, sif) ← (transfer slave).exec (SocketInterface.block turns master.gpSocketHandle)
    master.sif
  let master := { master with sif := sif }
  match result with
  | none => .ok (none, master)
  | some (result, slave) =>
    .ok (some result, { master with network := master.network.modifySlave position fun _ => slave })

end

/-! ## The cycle -/

/-- Process data and mailbox polling. -/
def processData (master : EtherCatMaster D) (sysTime : ℕ) : Exec (EtherCatMaster D) :=
  match master.processDataHandle with
  | none => .ok master
  | some handle => do
    let (processDataTask, sif) ← master.sif.processTask handle master.processDataTask sysTime
    let mbSocket ← unwrap (sif.getSocket master.mailboxHandle)
    let (mailboxManager, mbSocket) ←
      master.mailboxManager.processOneStep master.network mbSocket sysTime
    let sif := sif.modifySocket master.mailboxHandle fun _ => mbSocket
    let socket ← unwrap (sif.getSocket handle)
    let mailboxManager ← mailboxManager.findSlaveWithMailboxFromProcessData master.network
      logicalStartAddress socket.dataBuf
    .ok { master with
      sif := sif, processDataTask := processDataTask, mailboxManager := mailboxManager }

/-- Compensate the drift of the clocks. -/
def compDcDrift (master : EtherCatMaster D) (sysTime : ℕ) : Exec (EtherCatMaster D) :=
  match master.dcTask with
  | none => .ok master
  | some task => do
    let (task, sif) ← master.sif.processTask master.dcHandle task sysTime
    .ok { master with sif := sif, dcTask := some task }

/-- The error counters of the ports. -/
def checkRxError (master : EtherCatMaster D) (sysTime : ℕ) : Exec (EtherCatMaster D) := do
  let (task, sif) ← master.sif.processTask master.rxErrorHandle master.rxErrorTask sysTime
  .ok { master with sif := sif, rxErrorTask := task }

/-- Check the AL state and the AL status code. -/
def checkAlState (master : EtherCatMaster D) (sysTime : ℕ) : Exec (EtherCatMaster D) := do
  let (task, sif) ← master.sif.processTask master.alStateHandle master.alStateTask sysTime
  .ok { master with sif := sif, alStateTask := task }

/-- The transfer of the AL state. -/
def transferAlState (master : EtherCatMaster D) (sysTime : ℕ) : Exec (EtherCatMaster D) := do
  let (task, sif) ← master.sif.processTask master.alTfHandle master.alTfTask sysTime
  .ok { master with sif := sif, alTfTask := task }

/-- `process` behind its poll. -/
def cycle (master : EtherCatMaster D) (sysTime : ℕ) : Exec (EtherCatMaster D) := do
  let master ← master.processData sysTime
  let master ← master.compDcDrift sysTime
  let master ← master.checkRxError sysTime
  let master ← master.checkAlState sysTime
  let master ← master.transferAlState sysTime
  .ok { master with cycleCount := (master.cycleCount + 1) % (usizeMax + 1) }

/-- It must be repeated until the cycle count has increased. -/
def process [RawEthernetDevice D] (master : EtherCatMaster D) (sysTime : ℕ) :
    Exec (Except PhyError ℕ × EtherCatMaster D) := do
  let (result, sif) ← master.sif.pollTxRx
  let master := { master with sif := sif }
  match result with
  | .error e => .ok (.error e, master)
  | .ok isTxRxOk =>
    if !isTxRxOk then
      .ok (.ok master.cycleCount, master)
    else do
      let master ← master.cycle sysTime
      .ok (.ok master.cycleCount, master)

/-! ## The calls of the user -/

/-- The size of the image. -/
def processDataSize (master : EtherCatMaster D) : ℕ := master.processDataTask.imageSize

/-- If the buffer is shorter than the image, it is not taken. -/
def registerProcessDataBuffer (master : EtherCatMaster D) (buf : List UInt8) :
    Exec (Bool × EtherCatMaster D) :=
  if buf.length < master.processDataSize then
    .ok (false, master)
  else do
    let (handle, sif) ← master.sif.addBuffer buf
    .ok (true, { master with sif := sif, processDataHandle := some handle })

/-- The message that was read last, with the session it belongs to. -/
def receivedMailbox (master : EtherCatMaster D) :
    Exec (Option (Except (TaskError MailboxTaskError) (MailboxSessionId × List UInt8))) := do
  let mbSocket ← unwrap (master.sif.getSocket master.mailboxHandle)
  master.mailboxManager.receivedMailbox mbSocket

/-- A request through `try_get_mailbox_request_interface`, for a slave of the caller. -/
def requestMailbox (master : EtherCatMaster D) (slave : Slave) (message : Mailbox) :
    Exec (Option MailboxSessionId × EtherCatMaster D) :=
  if isBusy master.mailboxManager.task then
    .ok (none, master)
  else do
    let socket ← unwrap (master.sif.getSocket master.mailboxHandle)
    let (sessionId, task, _, dataBuf) ←
      master.mailboxManager.task.request slave message socket.dataBuf
    .ok (some sessionId, { master with
      mailboxManager := { master.mailboxManager with task := task }
      sif := master.sif.modifySocket master.mailboxHandle
        fun socket => { socket with dataBuf := dataBuf } })

/-- The AL state that was seen last, and the code that came with it. -/
def alState (master : EtherCatMaster D) : Option AlState × Option AlStatusCode :=
  (master.alStateTask.lastAlState, master.alStateTask.lastAlStatusCode)

/-- An AL state for all slaves, unless a transfer is under way. -/
def requestAlState (master : EtherCatMaster D) (alState : AlState) : Bool × EtherCatMaster D :=
  if !isBusy master.alTfTask then
    (true, { master with
      alTfTask := master.alTfTask.start (.all (.ofNat master.network.numSlaves)) alState })
  else
    (false, master)

/-- The entry that `read_pdo` and `write_pdo` name, in the mappings of a direction. -/
def pdoEntry (network : Network) (direction : ℕ) (slaveAddress : SlaveAddress)
    (pdoMapIndex pdoEntryIndex : ℕ) : Exec (Option PdoEntry) := do
  match ← network.slave slaveAddress with
  | none => .ok none
  | some (_, config) =>
    .ok ((config.mappings direction)[pdoMapIndex]?.bind fun pdoMap =>
      pdoMap.entries[pdoEntryIndex]?)

/-- The buffer of the caller keeps what is not read. -/
def readPdo (master : EtherCatMaster D) (slaveAddress : SlaveAddress)
    (pdoMapIndex pdoEntryIndex : ℕ) (buf : List UInt8) : Exec (Option Unit × List UInt8) :=
  match master.processDataHandle.bind master.sif.getSocket with
  | none => .ok (none, buf)
  | some pdoImage => do
    match ← pdoEntry master.network 1 slaveAddress pdoMapIndex pdoEntryIndex with
    | none => .ok (none, buf)
    | some pdoEntry =>
      pdoEntry.logicalBits.readToBuffer logicalStartAddress pdoImage.dataBuf buf

/-- The data of an entry go into the image. -/
def writePdo (master : EtherCatMaster D) (slaveAddress : SlaveAddress)
    (pdoMapIndex pdoEntryIndex : ℕ) (data : List UInt8) :
    Exec (Option Unit × EtherCatMaster D) :=
  match master.processDataHandle with
  | none => .ok (none, master)
  | some handle =>
    match master.sif.getSocket handle with
    | none => .ok (none, master)
    | some pdoImage => do
      match ← pdoEntry master.network 0 slaveAddress pdoMapIndex pdoEntryIndex with
      | none => .ok (none, master)
      | some pdoEntry => do
        let (result, dataBuf) ← pdoEntry.logicalBits.writeFromBuffer logicalStartAddress
          pdoImage.dataBuf data
        .ok (result, { master with
          sif := master.sif.modifySocket handle fun socket => { socket with dataBuf := dataBuf } })

end EtherCatMaster

end EtherCat
