import EtherCat.Task.CyclicTask

/-!
# Accessing a register

`AddressAccessTask` reads or writes a register of one slave or of all of them.  It sends one PDU,
whose data are in the socket's buffer already.
-/

namespace EtherCat

open Rust Rust.Exec CyclicTask

/-- The states of an access. -/
inductive AddressAccessTask.State
  | error (error : TaskError Unit)
  | idle
  | read
  | write
  | complete
  deriving DecidableEq, Repr

/-- The task that reads or writes a register of one slave or of all slaves. -/
structure AddressAccessTask where
  state : AddressAccessTask.State
  slaveAddress : TargetSlave
  command : Command
  dataSize : ℕ
  ado : UInt16
  deriving DecidableEq, Repr

namespace AddressAccessTask

/-- An idle task. -/
def new : AddressAccessTask where
  state := .idle
  slaveAddress := .default
  command := .default
  dataSize := 0
  ado := 0

/-- A read of `dataSize` bytes begins. -/
def startToRead (task : AddressAccessTask) (slaveAddress : TargetSlave) (ado : UInt16)
    (dataSize : ℕ) : AddressAccessTask :=
  { task with slaveAddress := slaveAddress, state := .read, command := .default,
              dataSize := dataSize, ado := ado }

/-- The data are written to the front of the buffer. -/
def startToWrite (task : AddressAccessTask) (slaveAddress : TargetSlave) (ado : UInt16)
    (data buf : List UInt8) : Exec (AddressAccessTask × List UInt8) := do
  Exec.assert (data.length ≤ buf.length)
  .ok ({ task with slaveAddress := slaveAddress, state := .write, command := .default,
                   dataSize := data.length, ado := ado }, overwrite buf data)

/-- The result, once there is one. -/
def waitResult (task : AddressAccessTask) : Option (Except (TaskError Unit) Unit) :=
  match task.state with
  | .complete => some (.ok ())
  | .error e => some (.error e)
  | _ => none

/-- The PDU of the access; a task that is not busy sends none. -/
def nextPdu (task : AddressAccessTask) (buf : List UInt8) :
    Exec ((Option (Command × ℕ) × List UInt8) × AddressAccessTask) :=
  match task.state with
  | .idle => .ok ((none, buf), task)
  | .error _ => .ok ((none, buf), task)
  | .read =>
    let command := Command.newRead task.slaveAddress task.ado
    .ok ((some (command, task.dataSize), buf), { task with command := command })
  | .write =>
    let command := Command.newWrite task.slaveAddress task.ado
    .ok ((some (command, task.dataSize), buf), { task with command := command })
  | .complete => .ok ((none, buf), task)

/-- A response with another command or another working counter is an error in every state. -/
def checked (task : AddressAccessTask) (recvData : Pdu) : AddressAccessTask :=
  { task with
    state := checkedState .error task.command task.slaveAddress.numTargets recvData task.state }

/-- What a response does. -/
def recieveAndProcess (task : AddressAccessTask) (recvData : Pdu) (_sysTime : ℕ) :
    Exec AddressAccessTask :=
  let task := task.checked recvData
  match task.state with
  | .idle => .ok task
  | .error _ => .ok task
  | .read => .ok { task with state := .complete }
  | .write => .ok { task with dataSize := 0, state := .complete }
  | .complete => .ok task

/-- The task goes on. -/
def isBusy (task : AddressAccessTask) : Bool :=
  match task.state with
  | .idle | .complete | .error _ => false
  | _ => true

instance : CyclicTask AddressAccessTask where
  nextPdu := nextPdu
  recieveAndProcess := recieveAndProcess
  isBusy := isBusy
  length_nextPdu {task task' buf buf' pdu} h := by
    unfold nextPdu at h
    split at h
    all_goals
      cases h
      rfl

end AddressAccessTask

end EtherCat
