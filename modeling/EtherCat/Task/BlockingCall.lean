import EtherCat.Frame.Mailbox
import EtherCat.Task.AlStateRead
import EtherCat.Task.AlStateTransfer
import EtherCat.Task.BlockOn
import EtherCat.Task.MailboxSteps
import EtherCat.Task.SlaveInitSteps

/-!
# The blocking calls of a socket

A blocking call prepares the socket's buffer and a task (`start`), lets `block_on` drive the task,
and reads its result from the task and the buffer (`finish`).  `SocketUse` is a socket interface
between two calls or in the middle of one; its steps are the start of a call and the turns of
`block_on`.
-/

namespace EtherCat

open Rust Rust.Exec CyclicTask

/-- A closure for `write_mailbox`. -/
structure MailboxFrameWriter where
  run : List UInt8 → Exec (Except LengthError Unit × List UInt8)
  length_run : ∀ {buf buf' : List UInt8} {result : Except LengthError Unit},
    run buf = .ok (result, buf') → buf'.length = buf.length

/-- The blocking calls with their arguments. -/
inductive BlockingCall
  | readRegister (targetSlave : TargetSlave) (registerAddress : UInt16) (dataSize : ℕ)
  | writeRegister (targetSlave : TargetSlave) (registerAddress : UInt16) (data : List UInt8)
  | readAlState (targetSlave : TargetSlave)
  | changeAlState (targetSlave : TargetSlave) (alState : AlState)
  | readSii (slaveAddress : SlaveAddress) (siiAddress : UInt16)
  | readMailbox (slaveInfo : SlaveInfo) (waitFull : Bool)
  | writeMailbox (slaveInfo : SlaveInfo) (mbFrameWriter : MailboxFrameWriter) (waitEmpty : Bool)

/-- `SyncManager::default()`. -/
def SyncManager.default : SyncManager := ⟨0, 0, 0⟩

namespace BlockingCall

/-- The type of the task that a call drives. -/
def Task : BlockingCall → Type
  | readRegister .. => AddressAccessTask
  | writeRegister .. => AddressAccessTask
  | readAlState .. => AlStateReadTask
  | changeAlState .. => AlStateTransferTask
  | readSii .. => SiiReader
  | readMailbox .. => MailboxTask
  | writeMailbox .. => MailboxTask

instance : (call : BlockingCall) → CyclicTask call.Task
  | readRegister .. => inferInstanceAs (CyclicTask AddressAccessTask)
  | writeRegister .. => inferInstanceAs (CyclicTask AddressAccessTask)
  | readAlState .. => inferInstanceAs (CyclicTask AlStateReadTask)
  | changeAlState .. => inferInstanceAs (CyclicTask AlStateTransferTask)
  | readSii .. => inferInstanceAs (CyclicTask SiiReader)
  | readMailbox .. => inferInstanceAs (CyclicTask MailboxTask)
  | writeMailbox .. => inferInstanceAs (CyclicTask MailboxTask)

/-- The errors of the task of a call. -/
def Error : BlockingCall → Type
  | readRegister .. => Unit
  | writeRegister .. => Unit
  | readAlState .. => Unit
  | changeAlState .. => AlStateTransferTaskError
  | readSii .. => SiiTaskError
  | readMailbox .. => MailboxTaskError
  | writeMailbox .. => MailboxTaskError

/-- What a call returns. -/
def Value : BlockingCall → Type
  | readRegister .. => List UInt8
  | writeRegister .. => Unit
  | readAlState .. => AlState × Option AlStatusCode
  | changeAlState .. => AlState
  | readSii .. => List UInt8 × ℕ
  | readMailbox .. => List UInt8
  | writeMailbox .. => Unit

/-- The part of a call before `block_on`: the task and the socket's buffer. -/
def start : (call : BlockingCall) → List UInt8 →
    Exec (Except (TaskError call.Error) call.Task × List UInt8)
  | readRegister targetSlave registerAddress dataSize, dataBuf => do
    assert (dataSize ≤ dataBuf.length)
    .ok (.ok (AddressAccessTask.new.startToRead targetSlave registerAddress dataSize), dataBuf)
  | writeRegister targetSlave registerAddress data, dataBuf => do
    assert (data.length ≤ dataBuf.length)
    let (unit, dataBuf) ←
      AddressAccessTask.new.startToWrite targetSlave registerAddress data dataBuf
    .ok (.ok unit, dataBuf)
  | readAlState targetSlave, dataBuf => do
    assert (AlStateReadTask.requiredBufferSize ≤ dataBuf.length)
    .ok (.ok (AlStateReadTask.new.setTarget targetSlave), dataBuf)
  | changeAlState targetSlave alState, dataBuf => do
    assert (AlStateTransferTask.requiredBufferSize ≤ dataBuf.length)
    .ok (.ok (AlStateTransferTask.new.start targetSlave alState), dataBuf)
  | readSii slaveAddress siiAddress, dataBuf => do
    assert (SiiReader.requiredBufferSize ≤ dataBuf.length)
    .ok (.ok (SiiReader.new.start slaveAddress siiAddress), dataBuf)
  | readMailbox slaveInfo waitFull, dataBuf => do
    let txSm := slaveInfo.mailboxTxSm.getD .default
    assert (txSm.size.toNat ≤ dataBuf.length)
    .ok (.ok (MailboxTask.new.startToRead slaveInfo.slaveAddress txSm waitFull), dataBuf)
  | writeMailbox slaveInfo mbFrameWriter waitEmpty, dataBuf => do
    let rxSm := slaveInfo.mailboxRxSm.getD .default
    assert (rxSm.size.toNat ≤ dataBuf.length)
    let (result, dataBuf) ← mbFrameWriter.run dataBuf
    match result with
    | .error _ => .ok (.error (.taskSpecific MailboxTaskError.bufferSmall), dataBuf)
    | .ok () =>
      .ok (.ok (MailboxTask.new.startToWrite slaveInfo.slaveAddress rxSm waitEmpty), dataBuf)

/-- The part of a call after `block_on`. -/
def finish : (call : BlockingCall) → call.Task → List UInt8 →
    Exec (Except (TaskError call.Error) call.Value)
  | readRegister _ _ dataSize, (unit : AddressAccessTask), dataBuf => do
    match ← unwrap unit.waitResult with
    | .error e => .ok (.error e)
    | .ok () => do
      let data ← sliceTo dataBuf dataSize
      .ok (.ok data)
  | writeRegister .., (unit : AddressAccessTask), _ => unwrap unit.waitResult
  | readAlState _, (unit : AlStateReadTask), _ =>
    if unit.invalidWkcCount ≠ 0 then
      .ok (.error (.unexpectedWkc ⟨unit.expectedWkc, unit.lastWkc⟩))
    else do
      let alState ← unwrap unit.lastAlState
      .ok (.ok (alState, unit.lastAlStatusCode))
  | changeAlState .., (unit : AlStateTransferTask), _ => unwrap unit.waitResult
  | readSii .., (unit : SiiReader), _ => unwrap unit.waitResult
  | readMailbox .., (unit : MailboxTask), dataBuf => do
    match ← unwrap unit.waitResult with
    | .error e => .ok (.error e)
    | .ok () => .ok (.ok dataBuf)
  | writeMailbox .., (unit : MailboxTask), _ => unwrap unit.waitResult

end BlockingCall

/-! ## Calls on one socket -/

/-- How the last call has ended. -/
inductive LastCall
  | none
  /-- Its task came to its end, or it failed before `block_on`. -/
  | finished (call : BlockingCall) (result : Except (TaskError call.Error) call.Value)
  /-- `block_on` gave up: an error of the interface or `Timeout`. -/
  | aborted (call : BlockingCall) (error : TaskError call.Error)

/-- The call was not aborted. -/
def LastCall.Completed : LastCall → Prop
  | aborted .. => False
  | _ => True

instance : (last : LastCall) → Decidable last.Completed
  | .aborted .. => .isFalse id
  | .none | .finished .. => .isTrue trivial

/-- What is observed of a call. -/
structure CallRecord (D : Type) where
  /-- The device as it was when the call began. -/
  ethdevBefore : D
  /-- The PDUs that `next_pdu` of its task has given. -/
  produced : List (Command × List UInt8)
  /-- The responses that its task has processed. -/
  processed : List Pdu

/-- The interface between two calls, or in a call. -/
inductive SocketUse (D : Type) (N : ℕ)
  | free (sif : SocketInterface D N) (last : LastCall) (record : CallRecord D)
  | busy (call : BlockingCall) (block : BlockOn call.Task D N) (record : CallRecord D)

/-- The application begins a call, or the call that is under way takes a turn. -/
inductive CallStep
  | start (call : BlockingCall)
  | turn

namespace BlockOn

variable {T D : Type} {N : ℕ} [CyclicTask T] [RawEthernetDevice D]

/-- The response that this turn shows to the task. -/
def shown (b : BlockOn T D N) : Option Pdu :=
  match b.sif.pollTxRx with
  | .ok (.ok true, sif) =>
    (sif.getSocket b.handle).bind fun socket => socket.getRecievedPdu.toOption.join
  | _ => none

/-- The PDU that `next_pdu` gives in this turn. -/
def given (b : BlockOn T D N) : Option (Command × List UInt8) :=
  match b.sif.pollTxRx with
  | .ok (.ok true, sif) => do
    let socket ← sif.getSocket b.handle
    let unit ← (processResponse b.unit socket b.count).toOption
    let ((pdu, dataBuf), _) ← (nextPdu unit socket.dataBuf).toOption
    pdu.map fun pdu => (pdu.1, dataBuf.take pdu.2)
  | _ => none

end BlockOn

namespace SocketUse

variable {D : Type} {N : ℕ}

/-- No call was made yet. -/
def new (sif : SocketInterface D N) : SocketUse D N := .free sif .none ⟨sif.iface.ethdev, [], []⟩

/-- The interface, which a call that is under way has. -/
def sif : SocketUse D N → SocketInterface D N
  | free sif _ _ => sif
  | busy _ block _ => block.sif

/-- What was observed so far. -/
def record : SocketUse D N → CallRecord D
  | free _ _ record => record
  | busy _ _ record => record

variable [RawEthernetDevice D]

/-- The start of a call. -/
def startCall (handle : ℕ) (sif : SocketInterface D N) (call : BlockingCall) :
    Exec (SocketUse D N) := do
  let socket ← unwrap (sif.getSocket handle)
  let (started, dataBuf) ← call.start socket.dataBuf
  let sif := sif.modifySocket handle (fun socket => { socket with dataBuf := dataBuf })
  let record : CallRecord D := ⟨sif.iface.ethdev, [], []⟩
  match started with
  | .error e => .ok (.free sif (.finished call (.error e)) record)
  | .ok unit => .ok (.busy call (.new sif handle unit) record)

/-- A turn of `block_on`, and the end of the call if it is the last one. -/
def turnCall (handle : ℕ) (call : BlockingCall) (block : BlockOn call.Task D N)
    (record : CallRecord D) : Exec (SocketUse D N) := do
  let (result, block') ← block.turn call.Error
  let record := { record with
    produced := record.produced ++ block.given.toList
    processed := record.processed ++ block.shown.toList }
  match result with
  | none => .ok (.busy call block' record)
  | some (.error e) => .ok (.free block'.sif (.aborted call e) record)
  | some (.ok ()) => do
    let socket ← unwrap (block'.sif.getSocket handle)
    let result ← call.finish block'.unit socket.dataBuf
    .ok (.free block'.sif (.finished call result) record)

/-- One step of a program that makes blocking calls on the socket `handle`.  A call that runs blocks
the program. -/
def step (handle : ℕ) : SocketUse D N → CallStep → Exec (SocketUse D N)
  | .free sif _ _, .start call => startCall handle sif call
  | .busy call block record, .turn => turnCall handle call block record
  | s, _ => .ok s

end SocketUse

/-! ## What the tasks have in common -/

/-- A task that is not busy after `next_pdu` has given no PDU. -/
lemma AddressAccessTask.pdu_eq_none {task task' : AddressAccessTask} {buf buf' : List UInt8}
    {pdu : Option (Command × ℕ)} (h : task.nextPdu buf = .ok ((pdu, buf'), task'))
    (hbusy : task'.isBusy = false) : pdu = none := by
  unfold nextPdu at h
  split at h
  case h_3 hstate | h_4 hstate =>
    cases h
    rw [isBusy, hstate] at hbusy
    cases hbusy
  all_goals
    cases h
    rfl

lemma AlStateTransferTask.pdu_eq_none {task task' : AlStateTransferTask} {buf buf' : List UInt8}
    {pdu : Option (Command × ℕ)} (h : task.nextPdu buf = .ok ((pdu, buf'), task'))
    (hbusy : task'.isBusy = false) : pdu = none := by
  rw [(nextPdu_busy h).1] at hbusy
  unfold nextPdu at h
  split at h
  case h_1 | h_2 | h_9 =>
    cases h
    rfl
  all_goals
    next hstate =>
      rw [isBusy, hstate] at hbusy
      cases hbusy

lemma SiiReader.pdu_eq_none {task task' : SiiReader} {buf buf' : List UInt8}
    {pdu : Option (Command × ℕ)} (h : task.nextPdu buf = .ok ((pdu, buf'), task'))
    (hbusy : task'.isBusy = false) : pdu = none := by
  rw [(nextPdu_busy h).1] at hbusy
  unfold nextPdu at h
  dsimp only at h
  split at h
  case h_1 | h_2 | h_10 =>
    cases h
    rfl
  all_goals
    next hstate =>
      rw [isBusy, hstate] at hbusy
      cases hbusy

lemma MailboxTask.pdu_eq_none {task task' : MailboxTask} {buf buf' : List UInt8}
    {pdu : Option (Command × ℕ)} (h : task.nextPdu buf = .ok ((pdu, buf'), task'))
    (hbusy : task'.isBusy = false) : pdu = none := by
  obtain ⟨hstate, hidle⟩ := nextPdu_spec h
  rw [isBusy, hstate] at hbusy
  exact (hidle hbusy).2.1

namespace BlockingCall

/-- The task is made for cyclic operation. -/
def IsCyclic : BlockingCall → Prop
  | readAlState _ => True
  | _ => False

/-- The task of `read_al_state` has seen no response. -/
def Unanswered : (call : BlockingCall) → call.Task → Prop
  | readAlState _, (unit : AlStateReadTask) => unit.lastAlState = none ∧ unit.invalidWkcCount = 0
  | _, _ => True

lemma unanswered_of_start {call : BlockingCall} {unit : call.Task} {dataBuf dataBuf' : List UInt8}
    (h : call.start dataBuf = .ok (.ok unit, dataBuf')) : call.Unanswered unit := by
  cases call with
  | readAlState targetSlave =>
      obtain ⟨-, -, heq⟩ := bind_eq_ok.mp h
      cases heq
      exact ⟨rfl, rfl⟩
  | _ => trivial

lemma isBusy_of_isCyclic {call : BlockingCall} (h : call.IsCyclic) (unit : call.Task) :
    CyclicTask.isBusy unit = false := by
  cases call with
  | readAlState targetSlave => rfl
  | _ => cases h

/-- The tasks of the other calls have no PDU when they have come to their end. -/
lemma nextPdu_of_not_busy {call : BlockingCall} (hcyclic : ¬ call.IsCyclic)
    {unit unit' : call.Task} {buf buf' : List UInt8} {pdu : Option (Command × ℕ)}
    (h : CyclicTask.nextPdu unit buf = .ok ((pdu, buf'), unit'))
    (hbusy : CyclicTask.isBusy unit' = false) : pdu = none := by
  cases call with
  | readAlState targetSlave => exact absurd trivial hcyclic
  | readRegister => exact AddressAccessTask.pdu_eq_none h hbusy
  | writeRegister => exact AddressAccessTask.pdu_eq_none h hbusy
  | changeAlState => exact AlStateTransferTask.pdu_eq_none h hbusy
  | readSii => exact SiiReader.pdu_eq_none h hbusy
  | readMailbox => exact MailboxTask.pdu_eq_none h hbusy
  | writeMailbox => exact MailboxTask.pdu_eq_none h hbusy

/-- Without a response `read_al_state` panics. -/
lemma finish_of_unanswered {call : BlockingCall} (hcyclic : call.IsCyclic) {unit unit' : call.Task}
    (hunit : call.Unanswered unit) {buf buf' : List UInt8} {pdu : Option (Command × ℕ)}
    (h : CyclicTask.nextPdu unit buf = .ok ((pdu, buf'), unit')) (dataBuf : List UInt8) :
    call.finish unit' dataBuf = .error .unwrap := by
  cases call with
  | readAlState targetSlave =>
      obtain ⟨-, heq⟩ := AlStateReadTask.nextPdu_eq_ok h
      subst heq
      have hnone := hunit.1
      have hzero := hunit.2
      simp [finish, hnone, hzero, unwrap]
  | _ => cases hcyclic

end BlockingCall

end EtherCat
