import EtherCat.Register.Datalink
import EtherCat.Slave.Slave
import EtherCat.Task.CyclicTask

/-!
# Reading and writing a mailbox

A slave's mailbox is a sync manager.  `MailboxReadTask` polls its status until the mailbox is full
and reads it; a read that is lost is repeated with the repeat bit.  `MailboxWriteTask` polls until
the mailbox is empty and writes it; while it polls, it keeps the two bytes of the message that the
status overwrites.  `MailboxTask` is one of the two.
-/

namespace EtherCat

open Rust Rust.Exec BitField CyclicTask

/-- What can go wrong with a mailbox, apart from the errors of every task. -/
inductive MailboxTaskError
  | noSlaveReaction
  | mailboxEmpty
  | mailboxAlreadyExisted
  | bufferSmall
  deriving DecidableEq, Repr

/-- The check that ends `recieve_and_process` of both tasks. -/
def mailboxTimedOut (timeoutMs timerStart sysTime : ℕ) : Prop :=
  timerStart < sysTime ∧ timeoutMs * 1000 * 1000 < sysTime - timerStart

instance (timeoutMs timerStart sysTime : ℕ) :
    Decidable (mailboxTimedOut timeoutMs timerStart sysTime) :=
  inferInstanceAs (Decidable (_ ∧ _))

/-- The status and the activation register of a sync manager are read together. -/
def mailboxCheckSize : ℕ := SyncManagerStatus.size + SyncManagerActivation.size

/-! ## Reading -/

/-- The states of a read. The first poll of the status starts the timer, and `waitFull` says whether
the task waits for a message or gives up on an empty mailbox. -/
inductive MailboxReadTask.State
  | error (error : TaskError MailboxTaskError)
  | idle
  | complete
  | checkMailboxAlreadyExisted (isFirst waitFull : Bool)
  | read
  | requestRepeat
  | waitRepeatAck
  deriving DecidableEq, Repr

/-- The task that reads a message of a slave. `activationBuf` is a copy of the activation register,
whose repeat bit asks for the last message again. -/
structure MailboxReadTask where
  timerStart : ℕ
  command : Command
  slaveAddress : SlaveAddress
  state : MailboxReadTask.State
  activationBuf : List UInt8
  smAdoOffset : UInt16
  smSize : UInt16
  smStartAddress : UInt16
  deriving DecidableEq, Repr

namespace MailboxReadTask

/-- How long a read may take. -/
def timeoutMs : ℕ := 2000

/-- An idle task. -/
def new : MailboxReadTask where
  timerStart := 0
  command := .default
  slaveAddress := .default
  state := .idle
  activationBuf := List.replicate SyncManagerActivation.size 0
  smAdoOffset := 0
  smSize := 0
  smStartAddress := 0

/-- A read of the mailbox of this sync manager begins with its status. The copy of the activation
register stays as it was. -/
def start (task : MailboxReadTask) (slaveAddress : SlaveAddress) (txSm : SyncManager)
    (waitFull : Bool) : MailboxReadTask :=
  { task with timerStart := 0, command := .default, slaveAddress := slaveAddress
              state := .checkMailboxAlreadyExisted true waitFull
              smAdoOffset := txSm.number.toUInt16 * 0x08, smSize := txSm.size
              smStartAddress := txSm.startAddress }

/-- The result, once there is one. -/
def waitResult (task : MailboxReadTask) : Option (Except (TaskError MailboxTaskError) Unit) :=
  match task.state with
  | .complete => some (.ok ())
  | .error e => some (.error e)
  | _ => none

/-- The PDU of the state `Read`, if the message fits into the buffer. -/
def nextRead (task : MailboxReadTask) (buf : List UInt8) :
    Exec ((Option (Command × ℕ) × List UInt8) × MailboxReadTask) :=
  let command := Command.newRead (.single task.slaveAddress) task.smStartAddress
  if buf.length < task.smSize.toNat then
    .ok ((none, buf), { task with command := command, state := .error (.taskSpecific .bufferSmall) })
  else do
    let buf ← fillTo buf task.smSize.toNat 0
    .ok ((some (command, task.smSize.toNat), buf), { task with command := command })

/-- The PDU that asks for the last message again: the repeat bit is toggled. -/
def nextRequestRepeat (task : MailboxReadTask) (buf : List UInt8) :
    Exec ((Option (Command × ℕ) × List UInt8) × MailboxReadTask) := do
  let command := Command.newWrite (.single task.slaveAddress)
    (SyncManagerActivation.address + task.smAdoOffset)
  let repeatBit ← SyncManagerActivation.repeatBit.getBool task.activationBuf
  let activationBuf ← SyncManagerActivation.repeatBit.setBool task.activationBuf (!repeatBit)
  let buf ← copyFromSlice buf 0 activationBuf
  .ok ((some (command, activationBuf.length), buf),
    { task with command := command, activationBuf := activationBuf })

/-- The PDU of the state; a task that is not busy sends none. -/
def nextPdu (task : MailboxReadTask) (buf : List UInt8) :
    Exec ((Option (Command × ℕ) × List UInt8) × MailboxReadTask) :=
  match task.state with
  | .idle => .ok ((none, buf), task)
  | .error _ => .ok ((none, buf), task)
  | .complete => .ok ((none, buf), task)
  | .checkMailboxAlreadyExisted _ _ => do
    let command := Command.newRead (.single task.slaveAddress)
      (SyncManagerStatus.address + task.smAdoOffset)
    let buf ← fillTo buf mailboxCheckSize 0
    .ok ((some (command, mailboxCheckSize), buf), { task with command := command })
  | .read => task.nextRead buf
  | .requestRepeat => task.nextRequestRepeat buf
  | .waitRepeatAck => do
    let command := Command.newRead (.single task.slaveAddress)
      (SyncManagerPdiControl.address + task.smAdoOffset)
    let buf ← fillTo buf SyncManagerPdiControl.size 0
    .ok ((some (command, SyncManagerPdiControl.size), buf), { task with command := command })

/-- The arm of the status. -/
def processCheck (task : MailboxReadTask) (isFirst waitFull : Bool) (recvData : Pdu)
    (sysTime : ℕ) : Exec MailboxReadTask :=
  let task := if isFirst then { task with timerStart := sysTime } else task
  if recvData.wkc ≠ 1 then
    .ok { task with state := .error (.taskSpecific .noSlaveReaction) }
  else do
    let activation ← sliceFrom recvData.data SyncManagerStatus.size
    let _ ← Exec.check (activation.length = task.activationBuf.length) .lengthMismatch ()
    let task := { task with activationBuf := activation }
    let isMailboxFull ← SyncManagerStatus.isMailboxFull.getBool recvData.data
    .ok <|
      if isMailboxFull then { task with state := .read }
      else if waitFull then { task with state := .checkMailboxAlreadyExisted false waitFull }
      else { task with state := .error (.taskSpecific .mailboxEmpty) }

/-- The arm of the acknowledgement of a repeated message. -/
def processWaitRepeatAck (task : MailboxReadTask) (recvData : Pdu) : Exec MailboxReadTask :=
  if recvData.wkc ≠ 1 then
    .ok { task with state := .error (.unexpectedWkc ⟨1, recvData.wkc⟩) }
  else do
    let repeatAck ← SyncManagerPdiControl.repeatAck.getBool recvData.data
    let repeatBit ← SyncManagerActivation.repeatBit.getBool task.activationBuf
    .ok <|
      if repeatAck = repeatBit then { task with state := .checkMailboxAlreadyExisted false true }
      else { task with state := .waitRepeatAck }

/-- The state machine, behind the check of the command and before that of the time. -/
def processState (task : MailboxReadTask) (recvData : Pdu) (sysTime : ℕ) : Exec MailboxReadTask :=
  match task.state with
  | .idle => .ok task
  | .error _ => .ok task
  | .complete => .ok task
  | .checkMailboxAlreadyExisted isFirst waitFull =>
    task.processCheck isFirst waitFull recvData sysTime
  | .read =>
    -- the mailbox is lost if the slave did not react
    .ok { task with state := if recvData.wkc ≠ 1 then .requestRepeat else .complete }
  | .requestRepeat => .ok { task with state := .waitRepeatAck }
  | .waitRepeatAck => task.processWaitRepeatAck recvData

/-- A response with another command is an error in every state. -/
def checked (task : MailboxReadTask) (recvData : Pdu) : MailboxReadTask :=
  if recvData.Echoes task.command then task
  else { task with state := .error .unexpectedCommand }

/-- The time is checked last, also behind a state that has just become complete. -/
def timed (task : MailboxReadTask) (sysTime : ℕ) : MailboxReadTask :=
  if mailboxTimedOut timeoutMs task.timerStart sysTime then { task with state := .error .timeout }
  else task

/-- What a response does: the command is checked, the state machine moves, and the time is checked.
-/
def recieveAndProcess (task : MailboxReadTask) (recvData : Pdu) (sysTime : ℕ) :
    Exec MailboxReadTask := do
  let task ← (task.checked recvData).processState recvData sysTime
  .ok (task.timed sysTime)

/-- The task goes on. -/
def isBusy (task : MailboxReadTask) : Bool :=
  match task.state with
  | .idle | .complete | .error _ => false
  | _ => true

lemma length_nextRead {task task' : MailboxReadTask} {buf buf' : List UInt8}
    {pdu : Option (Command × ℕ)} (h : task.nextRead buf = .ok ((pdu, buf'), task')) :
    buf'.length = buf.length := by
  unfold nextRead at h
  dsimp only at h
  split at h
  · cases h
    rfl
  · obtain ⟨filled, hfill, heq⟩ := bind_eq_ok.mp h
    cases heq
    exact length_fillTo hfill

lemma length_nextRequestRepeat {task task' : MailboxReadTask} {buf buf' : List UInt8}
    {pdu : Option (Command × ℕ)} (h : task.nextRequestRepeat buf = .ok ((pdu, buf'), task')) :
    buf'.length = buf.length := by
  obtain ⟨repeatBit, -, h⟩ := bind_eq_ok.mp h
  obtain ⟨activationBuf, -, h⟩ := bind_eq_ok.mp h
  obtain ⟨copied, hcopy, heq⟩ := bind_eq_ok.mp h
  obtain ⟨hroom, rfl⟩ := copyFromSlice_eq_ok_iff.mp hcopy
  cases heq
  exact length_splice hroom

instance : CyclicTask MailboxReadTask where
  nextPdu := nextPdu
  recieveAndProcess := recieveAndProcess
  isBusy := isBusy
  length_nextPdu {task task' buf buf' pdu} h := by
    unfold nextPdu at h
    split at h
    case h_1 | h_2 | h_3 =>
      cases h
      rfl
    case h_5 => exact length_nextRead h
    case h_6 => exact length_nextRequestRepeat h
    all_goals
      obtain ⟨filled, hfill, heq⟩ := bind_eq_ok.mp h
      cases heq
      exact length_fillTo hfill

end MailboxReadTask

/-! ## Writing -/

/-- The states of a write. `waitEmpty` says whether the task waits for an empty mailbox or gives up
on a full one. -/
inductive MailboxWriteTask.State
  | error (error : TaskError MailboxTaskError)
  | idle
  | complete
  | checkMailboxEmpty (isFirst waitEmpty : Bool)
  | write
  deriving DecidableEq, Repr

/-- The task that writes a message to a slave. `emptyCheckBuffer` keeps the first bytes of the
message while the buffer holds the status. -/
structure MailboxWriteTask where
  timerStart : ℕ
  command : Command
  slaveAddress : SlaveAddress
  emptyCheckBuffer : List UInt8
  state : MailboxWriteTask.State
  smAdoOffset : UInt16
  smSize : UInt16
  smStartAddress : UInt16
  deriving DecidableEq, Repr

namespace MailboxWriteTask

/-- How long a write may take. -/
def timeoutMs : ℕ := 100

/-- An idle task. -/
def new : MailboxWriteTask where
  timerStart := 0
  command := .default
  slaveAddress := .default
  emptyCheckBuffer := List.replicate mailboxCheckSize 0
  state := .idle
  smAdoOffset := 0
  smSize := 0
  smStartAddress := 0

/-- A write to the mailbox of this sync manager begins with its status. -/
def start (task : MailboxWriteTask) (slaveAddress : SlaveAddress) (rxSm : SyncManager)
    (waitEmpty : Bool) : MailboxWriteTask :=
  { task with timerStart := 0, command := .default, slaveAddress := slaveAddress
              state := .checkMailboxEmpty true waitEmpty
              smAdoOffset := rxSm.number.toUInt16 * 0x08, smSize := rxSm.size
              smStartAddress := rxSm.startAddress }

/-- The result, once there is one. -/
def waitResult (task : MailboxWriteTask) : Option (Except (TaskError MailboxTaskError) Unit) :=
  match task.state with
  | .complete => some (.ok ())
  | .error e => some (.error e)
  | _ => none

/-- The PDU of the state `Write`: the bytes that the status has overwritten are put back. -/
def nextWrite (task : MailboxWriteTask) (buf : List UInt8) :
    (Option (Command × ℕ) × List UInt8) × MailboxWriteTask :=
  let command := Command.newWrite (.single task.slaveAddress) task.smStartAddress
  let buf := overwrite buf task.emptyCheckBuffer
  if buf.length < task.smSize.toNat then
    ((none, buf), { task with command := command, state := .error (.taskSpecific .bufferSmall) })
  else
    ((some (command, task.smSize.toNat), buf), { task with command := command })

/-- The PDU of the state. A poll of the status first saves the bytes of the message that it
overwrites. -/
def nextPdu (task : MailboxWriteTask) (buf : List UInt8) :
    Exec ((Option (Command × ℕ) × List UInt8) × MailboxWriteTask) :=
  match task.state with
  | .idle => .ok ((none, buf), task)
  | .error _ => .ok ((none, buf), task)
  | .complete => .ok ((none, buf), task)
  | .checkMailboxEmpty _ _ => do
    let command := Command.newRead (.single task.slaveAddress)
      (SyncManagerStatus.address + task.smAdoOffset)
    let emptyCheckBuffer := overwrite task.emptyCheckBuffer buf
    let buf ← fillTo buf mailboxCheckSize 0
    .ok ((some (command, mailboxCheckSize), buf),
      { task with command := command, emptyCheckBuffer := emptyCheckBuffer })
  | .write => .ok (task.nextWrite buf)

/-- The arm of the status. -/
def processCheck (task : MailboxWriteTask) (isFirst waitEmpty : Bool) (recvData : Pdu)
    (sysTime : ℕ) : Exec MailboxWriteTask :=
  let task := if isFirst then { task with timerStart := sysTime } else task
  if recvData.wkc ≠ 1 then
    .ok { task with state := .error (.taskSpecific .noSlaveReaction) }
  else do
    let isMailboxFull ← SyncManagerStatus.isMailboxFull.getBool recvData.data
    .ok <|
      if !isMailboxFull then { task with state := .write }
      else if waitEmpty then { task with state := .checkMailboxEmpty false waitEmpty }
      else { task with state := .error (.taskSpecific .mailboxAlreadyExisted) }

/-- The state machine, behind the check of the command and before that of the time. -/
def processState (task : MailboxWriteTask) (recvData : Pdu) (sysTime : ℕ) :
    Exec MailboxWriteTask :=
  match task.state with
  | .idle => .ok task
  | .error _ => .ok task
  | .complete => .ok task
  | .checkMailboxEmpty isFirst waitEmpty => task.processCheck isFirst waitEmpty recvData sysTime
  | .write =>
    -- the mailbox is lost if the slave did not react
    .ok { task with state := if recvData.wkc ≠ 1 then .write else .complete }

/-- A response with another command is an error in every state. -/
def checked (task : MailboxWriteTask) (recvData : Pdu) : MailboxWriteTask :=
  if recvData.Echoes task.command then task
  else { task with state := .error .unexpectedCommand }

/-- The time is checked last, also behind a state that has just become complete. -/
def timed (task : MailboxWriteTask) (sysTime : ℕ) : MailboxWriteTask :=
  if mailboxTimedOut timeoutMs task.timerStart sysTime then { task with state := .error .timeout }
  else task

/-- What a response does: the command is checked, the state machine moves, and the time is checked.
-/
def recieveAndProcess (task : MailboxWriteTask) (recvData : Pdu) (sysTime : ℕ) :
    Exec MailboxWriteTask := do
  let task ← (task.checked recvData).processState recvData sysTime
  .ok (task.timed sysTime)

/-- The task goes on. -/
def isBusy (task : MailboxWriteTask) : Bool :=
  match task.state with
  | .idle | .complete | .error _ => false
  | _ => true

lemma length_nextWrite {task task' : MailboxWriteTask} {buf buf' : List UInt8}
    {pdu : Option (Command × ℕ)} (h : task.nextWrite buf = ((pdu, buf'), task')) :
    buf'.length = buf.length := by
  unfold nextWrite at h
  dsimp only at h
  split at h
  · cases h
    exact length_overwrite _ _
  · cases h
    exact length_overwrite _ _

instance : CyclicTask MailboxWriteTask where
  nextPdu := nextPdu
  recieveAndProcess := recieveAndProcess
  isBusy := isBusy
  length_nextPdu {task task' buf buf' pdu} h := by
    unfold nextPdu at h
    split at h
    case h_4 =>
      obtain ⟨filled, hfill, heq⟩ := bind_eq_ok.mp h
      cases heq
      exact length_fillTo hfill
    case h_5 => exact length_nextWrite (Except.ok.inj h)
    all_goals
      cases h
      rfl

end MailboxWriteTask

/-! ## The task of the master -/

/-- The states of the outer task. -/
inductive MailboxTask.State
  | error (error : TaskError MailboxTaskError)
  | idle
  | complete
  | processing
  deriving DecidableEq, Repr

/-- The read or the write that the outer task drives. -/
inductive MailboxTask.Inner
  | reader (task : MailboxReadTask)
  | writer (task : MailboxWriteTask)
  deriving DecidableEq, Repr

/-- A task that reads a message or writes one. -/
structure MailboxTask where
  state : MailboxTask.State
  inner : MailboxTask.Inner
  deriving DecidableEq, Repr

namespace MailboxTask

/-- An idle task; the task inside is a read that was not started. -/
def new : MailboxTask where
  state := .idle
  inner := .reader .new

/-- A new read replaces the task inside. -/
def startToRead (_task : MailboxTask) (slaveAddress : SlaveAddress) (txSm : SyncManager)
    (waitFull : Bool) : MailboxTask where
  state := .processing
  inner := .reader (MailboxReadTask.new.start slaveAddress txSm waitFull)

/-- A new write replaces the task inside. -/
def startToWrite (_task : MailboxTask) (slaveAddress : SlaveAddress) (rxSm : SyncManager)
    (waitEmpty : Bool) : MailboxTask where
  state := .processing
  inner := .writer (MailboxWriteTask.new.start slaveAddress rxSm waitEmpty)

/-- The task inside is a write. -/
def isWriteMode (task : MailboxTask) : Bool :=
  match task.inner with
  | .writer _ => true
  | .reader _ => false

/-- The slave whose mailbox the task inside is for. -/
def slaveAddress (task : MailboxTask) : SlaveAddress :=
  match task.inner with
  | .reader reader => reader.slaveAddress
  | .writer writer => writer.slaveAddress

/-- The result, once there is one. -/
def waitResult (task : MailboxTask) : Option (Except (TaskError MailboxTaskError) Unit) :=
  match task.state with
  | .complete => some (.ok ())
  | .error e => some (.error e)
  | _ => none

/-- The PDU of the inner task.  The state of the outer one is not changed, even if the inner task
has no PDU because the buffer is too small. -/
def nextInner (task : MailboxTask) (buf : List UInt8) :
    Exec ((Option (Command × ℕ) × List UInt8) × MailboxTask) :=
  match task.inner with
  | .reader reader => do
    let (pdu, reader) ← reader.nextPdu buf
    .ok (pdu, { task with inner := .reader reader })
  | .writer writer => do
    let (pdu, writer) ← writer.nextPdu buf
    .ok (pdu, { task with inner := .writer writer })

/-- The PDU of the task inside while it is processed, and none otherwise. -/
def nextPdu (task : MailboxTask) (buf : List UInt8) :
    Exec ((Option (Command × ℕ) × List UInt8) × MailboxTask) :=
  match task.state with
  | .idle => .ok ((none, buf), task)
  | .error _ => .ok ((none, buf), task)
  | .complete => .ok ((none, buf), task)
  | .processing => task.nextInner buf

/-- The state after a step of the inner task with this result. -/
def stateAfter : Option (Except (TaskError MailboxTaskError) Unit) → State
  | none => .processing
  | some (.ok _) => .complete
  | some (.error e) => .error e

/-- The task inside takes the response, and the state follows its result. -/
def processInner (task : MailboxTask) (recvData : Pdu) (sysTime : ℕ) : Exec MailboxTask :=
  match task.inner with
  | .reader reader => do
    let reader ← reader.recieveAndProcess recvData sysTime
    .ok { state := stateAfter reader.waitResult, inner := .reader reader }
  | .writer writer => do
    let writer ← writer.recieveAndProcess recvData sysTime
    .ok { state := stateAfter writer.waitResult, inner := .writer writer }

/-- What a response does; a task that is not busy drops it. -/
def recieveAndProcess (task : MailboxTask) (recvData : Pdu) (sysTime : ℕ) : Exec MailboxTask :=
  match task.state with
  | .idle => .ok task
  | .error _ => .ok task
  | .complete => .ok task
  | .processing => task.processInner recvData sysTime

/-- The task goes on. -/
def isBusy (task : MailboxTask) : Bool :=
  match task.state with
  | .idle | .complete | .error _ => false
  | _ => true

lemma length_nextInner {task task' : MailboxTask} {buf buf' : List UInt8}
    {pdu : Option (Command × ℕ)} (h : task.nextInner buf = .ok ((pdu, buf'), task')) :
    buf'.length = buf.length := by
  unfold nextInner at h
  split at h
  · obtain ⟨⟨⟨pdu', buf''⟩, reader⟩, hnext, heq⟩ := bind_eq_ok.mp h
    cases heq
    exact CyclicTask.length_nextPdu (T := MailboxReadTask) hnext
  · obtain ⟨⟨⟨pdu', buf''⟩, writer⟩, hnext, heq⟩ := bind_eq_ok.mp h
    cases heq
    exact CyclicTask.length_nextPdu (T := MailboxWriteTask) hnext

instance : CyclicTask MailboxTask where
  nextPdu := nextPdu
  recieveAndProcess := recieveAndProcess
  isBusy := isBusy
  length_nextPdu {task task' buf buf' pdu} h := by
    unfold nextPdu at h
    split at h
    case h_4 => exact length_nextInner h
    all_goals
      cases h
      rfl

end MailboxTask

end EtherCat
