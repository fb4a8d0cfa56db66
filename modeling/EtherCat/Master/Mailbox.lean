import EtherCat.Frame.Mailbox
import EtherCat.Slave.Network
import EtherCat.Task.Mailbox

/-!
# The mailbox manager of the master

`MailboxManager` shares one task and one socket between the requests of the user and the reads of
the mailboxes that are full.  A session id is to connect the two: it is the address of the slave
and the count of the message.
-/

namespace EtherCat

open Rust Rust.Exec BitField CyclicTask

/-- Which request a message answers: the slave and the count of the request. -/
structure MailboxSessionId where
  slaveAddress : SlaveAddress
  mailboxCount : UInt8
  deriving DecidableEq, Repr

/-- The cyclic mailbox task, and the slave whose full mailbox was found. -/
structure MailboxManager where
  task : MailboxTask
  slaveWithMailbox : Option SlaveAddress
  deriving DecidableEq, Repr

namespace MailboxManager

/-- A manager that has found nothing. -/
def new (task : MailboxTask) : MailboxManager where
  task := task
  slaveWithMailbox := none

/-- The read that `process_one_step` starts if the task is free and a slave was found. -/
def startRead (manager : MailboxManager) (network : Network) : Exec MailboxTask :=
  if !isBusy manager.task then
    match manager.slaveWithMailbox with
    | some slaveWithMailbox => do
      let (slave, _) ← unwrap (← network.slave slaveWithMailbox)
      let txSm ← unwrap slave.info.mailboxTxSm
      .ok (manager.task.startToRead slaveWithMailbox txSm false)
    | none => .ok manager.task
  else
    .ok manager.task

/-- One cycle: an idle task starts to read the mailbox that was found, and the task makes a step. -/
def processOneStep (manager : MailboxManager) (network : Network) (mbSocket : PduSocket)
    (sysTime : ℕ) : Exec (MailboxManager × PduSocket) := do
  let task ← manager.startRead network
  let (task, mbSocket) ← CyclicTask.processOneStep task mbSocket sysTime
  .ok ({ manager with task := task }, mbSocket)

/-- The frame is the buffer of the socket. -/
def receivedMailbox (manager : MailboxManager) (mbSocket : PduSocket) :
    Exec (Option (Except (TaskError MailboxTaskError) (MailboxSessionId × List UInt8))) :=
  if manager.task.isWriteMode then
    .ok none
  else
    match manager.task.waitResult with
    | none => .ok none
    | some _ => do
      let count ← MailboxFrame.count.get mbSocket.dataBuf
      .ok (some (.ok (⟨manager.task.slaveAddress, .ofNat count⟩, mbSocket.dataBuf)))

/-- The body of the loop of `find_slave_with_mailbox_from_process_data`: whether the mailbox of the
slave is full. -/
def isMailboxFull (slave : Slave) (logicalAddressOffset : UInt32) (processDataImage : List UInt8) :
    Exec Bool :=
  match slave.fmmu.get 2 with
  | none => .ok false
  | some fmmuConfig => do
    let txSm ← unwrap slave.info.mailboxTxSm
    Exec.assert (SyncManagerStatus.address + 0x08 * txSm.number.toUInt16 =
      fmmuConfig.physicalAddress)
    let (result, buf) ← fmmuConfig.logicalBits.readToBuffer logicalAddressOffset processDataImage
      (List.replicate SyncManagerStatus.size 0)
    let _ ← unwrap result
    SyncManagerStatus.isMailboxFull.getBool buf

/-- The loop: the last slave with a full mailbox. -/
def findSlaves : List Slave → ℕ → Option SlaveAddress → UInt32 → List UInt8 →
    Exec (Option SlaveAddress)
  | [], _, found, _, _ => .ok found
  | slave :: slaves, pos, found, logicalAddressOffset, processDataImage => do
    let isFull ← isMailboxFull slave logicalAddressOffset processDataImage
    findSlaves slaves (pos + 1) (if isFull then some (.slavePosition (.ofNat pos)) else found)
      logicalAddressOffset processDataImage

/-- The slave that was found is forgotten when the loop is over. -/
def findSlaveWithMailboxFromProcessData (manager : MailboxManager) (network : Network)
    (logicalAddressOffset : UInt32) (processDataImage : List UInt8) : Exec MailboxManager := do
  let _ ← findSlaves (network.slaves.filterMap Prod.fst) 0 manager.slaveWithMailbox
    logicalAddressOffset processDataImage
  .ok { manager with slaveWithMailbox := none }

end MailboxManager

/-- `MailboxRequestInterface::request`: the task, the slave and the buffer are changed in place. -/
def MailboxTask.request (task : MailboxTask) (slave : Slave) (mailbox : Mailbox)
    (mbBuf : List UInt8) : Exec (MailboxSessionId × MailboxTask × Slave × List UInt8) := do
  let (result, mbFrame) ← MailboxFrame.setMailbox mbBuf mailbox
  match result with
  | .error _ => .error .unwrap
  | .ok () => do
    let rxSm ← unwrap slave.info.mailboxRxSm
    let (count, slave) := slave.incrementMbCount
    let mbFrame ← MailboxFrame.count.set mbFrame count.toNat
    .ok (⟨slave.info.slaveAddress, count⟩,
      task.startToWrite slave.info.slaveAddress rxSm false, slave, mbFrame)

end EtherCat
