import EtherCat.Register.Datalink
import EtherCat.Task.CyclicTask

/-!
# Reading the EEPROM

`SiiReader` takes the EEPROM interface of a slave over, writes an address and a read operation,
waits for the operation to end and reads the data.
-/

namespace EtherCat

open Rust Rust.Exec BitField CyclicTask

/-- What can go wrong with a read of the SII, apart from the errors of every task. -/
inductive SiiTaskError
  | permittionDenied
  | addressSizeOver
  | busy
  | checkSumError
  | deviceInfoError
  | commandError
  deriving DecidableEq, Repr

/-- The states: the interface of the EEPROM is looked at and taken from the PDI, the address is set,
and a read is ordered, waited for and fetched. -/
inductive SiiReader.State
  | error (error : TaskError SiiTaskError)
  | idle
  | init
  | setOwnership
  | checkOwnership
  | setAddress
  | setReadOperation
  | wait
  | read
  | complete
  deriving DecidableEq, Repr

/-- The task that reads a word of a slave's EEPROM. `siiData` are the bytes that were read. -/
structure SiiReader where
  timerStart : ℕ
  command : Command
  slaveAddress : SlaveAddress
  state : SiiReader.State
  siiAddress : UInt16
  readSize : ℕ
  siiData : List UInt8
  deriving DecidableEq, Repr

namespace SiiReader

/-- How long the EEPROM may be busy. -/
def timeoutMs : ℕ := 100

/-- The size of the buffer that the task asks for. -/
def requiredBufferSize : ℕ :=
  max (max (max SiiAccess.size SiiControl.size) SiiAddress.size) SiiData.size

/-- An idle task. -/
def new : SiiReader where
  timerStart := 0
  command := .default
  slaveAddress := .slavePosition 0
  state := .idle
  siiAddress := 0
  readSize := 0
  siiData := List.replicate SiiData.size 0

/-- A read of a word begins. -/
def start (task : SiiReader) (slaveAddress : SlaveAddress) (siiAddress : UInt16) : SiiReader :=
  { task with slaveAddress := slaveAddress, siiAddress := siiAddress, state := .init,
              command := .default }

/-- The result, once there is one: the bytes and how many of them the slave has read at once. -/
def waitResult (task : SiiReader) : Option (Except (TaskError SiiTaskError) (List UInt8 × ℕ)) :=
  match task.state with
  | .complete => some (.ok (task.siiData, task.readSize))
  | .error e => some (.error e)
  | _ => none

/-- Send a PDU of a state: note its command and fill in its data. -/
def send (task : SiiReader) (command : Command) (size : ℕ)
    (write : List UInt8 → Exec (List UInt8)) (buf : List UInt8) :
    Exec ((Option (Command × ℕ) × List UInt8) × SiiReader) := do
  let pdu ← request command size write buf
  .ok (pdu, { task with command := command })

/-- The PDU of the state; a task that is not busy sends none. -/
def nextPdu (task : SiiReader) (buf : List UInt8) :
    Exec ((Option (Command × ℕ) × List UInt8) × SiiReader) :=
  let target := TargetSlave.single task.slaveAddress
  match task.state with
  | .idle => .ok ((none, buf), task)
  | .error _ => .ok ((none, buf), task)
  | .init => task.send (.newRead target SiiControl.address) SiiControl.size .ok buf
  | .setOwnership =>
    task.send (.newWrite target SiiAccess.address) SiiAccess.size
      (fun data => do
        let data ← SiiAccess.owner.setBool data false
        SiiAccess.resetAccess.setBool data true) buf
  | .checkOwnership => task.send (.newRead target SiiAccess.address) SiiAccess.size .ok buf
  | .setAddress =>
    task.send (.newWrite target SiiAddress.address) SiiAddress.size
      (fun data => SiiAddress.siiAddress.set data task.siiAddress.toNat) buf
  | .setReadOperation =>
    task.send (.newWrite target SiiControl.address) SiiControl.size
      (fun data => SiiControl.readOperation.setBool data true) buf
  | .wait => task.send (.newRead target SiiControl.address) SiiControl.size .ok buf
  | .read => task.send (.newRead target SiiData.address) SiiData.size .ok buf
  | .complete => .ok ((none, buf), task)

/-- A response with another command or another working counter is an error in every state. -/
def checked (task : SiiReader) (recvData : Pdu) : SiiReader :=
  { task with state := checkedState .error task.command 1 recvData task.state }

/-- The arm of the initial `SiiControl` response. -/
def processInit (task : SiiReader) (data : List UInt8) : Exec SiiReader := do
  let checkSumError ← SiiControl.checkSumError.getBool data
  let task := if checkSumError then { task with state := .error (.taskSpecific .checkSumError) }
    else task
  let deviceInfoError ← SiiControl.deviceInfoError.getBool data
  let task := if deviceInfoError then { task with state := .error (.taskSpecific .deviceInfoError) }
    else task
  let addressAlgorithm ← SiiControl.addressAlgorithm.getBool data
  let task := if !addressAlgorithm ∧ task.siiAddress >>> 8 ≠ 0
    then { task with state := .error (.taskSpecific .addressSizeOver) } else task
  let busy ← SiiControl.busy.getBool data
  let readOperation ← SiiControl.readOperation.getBool data
  let writeOperation ← SiiControl.writeOperation.getBool data
  let reloadOperation ← SiiControl.reloadOperation.getBool data
  let task := if busy || readOperation || writeOperation || reloadOperation
    then { task with state := .error (.taskSpecific .busy) } else task
  let readSize ← SiiControl.readSize.getBool data
  .ok { task with readSize := if readSize then 8 else 4, state := .setOwnership }

/-- The arm of the `SiiAccess` response. -/
def processCheckOwnership (task : SiiReader) (data : List UInt8) : Exec SiiReader := do
  let owner ← SiiAccess.owner.getBool data
  let pdiAccessed ← SiiAccess.pdiAccessed.getBool data
  let task := if owner || pdiAccessed
    then { task with state := .error (.taskSpecific .permittionDenied) } else task
  .ok { task with state := .setAddress }

/-- The arm of the `SiiControl` responses while the read operation is pending. -/
def processWait (task : SiiReader) (data : List UInt8) (sysTime : ℕ) : Exec SiiReader := do
  let commandError ← SiiControl.commandError.getBool data
  let busy ← SiiControl.busy.getBool data
  let readOperation ← SiiControl.readOperation.getBool data
  .ok <|
    if commandError then { task with state := .error (.taskSpecific .commandError) }
    else if !busy && !readOperation then { task with state := .read }
    else if task.timerStart < sysTime ∧ timeoutMs * 1000 < sysTime - task.timerStart then
      { task with state := .error .timeout }
    else task

/-- What a response does. -/
def recieveAndProcess (task : SiiReader) (recvData : Pdu) (sysTime : ℕ) : Exec SiiReader :=
  let task := task.checked recvData
  let data := recvData.data
  match task.state with
  | .idle => .ok task
  | .error _ => .ok task
  | .init => task.processInit data
  | .setOwnership => .ok { task with state := .checkOwnership }
  | .checkOwnership => task.processCheckOwnership data
  | .setAddress => .ok { task with state := .setReadOperation }
  | .setReadOperation => .ok { task with state := .wait, timerStart := sysTime }
  | .wait => task.processWait data sysTime
  | .read => .ok { task with siiData := overwrite task.siiData data, state := .complete }
  | .complete => .ok task

/-- The task goes on. -/
def isBusy (task : SiiReader) : Bool :=
  match task.state with
  | .idle | .complete | .error _ => false
  | _ => true

lemma length_send {task task' : SiiReader} {command : Command} {size : ℕ}
    {write : List UInt8 → Exec (List UInt8)} {buf buf' : List UInt8}
    {pdu : Option (Command × ℕ)}
    (h : task.send command size write buf = .ok ((pdu, buf'), task')) :
    buf'.length = buf.length := by
  obtain ⟨⟨pdu', buf''⟩, hrequest, heq⟩ := bind_eq_ok.mp h
  cases heq
  exact length_request hrequest

instance : CyclicTask SiiReader where
  nextPdu := nextPdu
  recieveAndProcess := recieveAndProcess
  isBusy := isBusy
  length_nextPdu {task task' buf buf' pdu} h := by
    unfold nextPdu at h
    split at h
    case h_1 | h_2 | h_10 =>
      cases h
      rfl
    all_goals exact length_send h

end SiiReader

end EtherCat
