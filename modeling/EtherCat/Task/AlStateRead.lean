import EtherCat.Register.Application
import EtherCat.Slave.Slave
import EtherCat.Task.CyclicTask

/-!
# Reading the AL state over and over

`AlStateReadTask` is made for cyclic operation: it always has a PDU to send and is never busy.
-/

namespace EtherCat

open Rust Rust.Exec BitField CyclicTask

/-- `usize::MAX` of a machine with 64 bits. -/
def usizeMax : ℕ := 2 ^ 64 - 1

/-- The cyclic task that reads the AL status of one slave or of all slaves, and keeps what it has
seen last. -/
structure AlStateReadTask where
  target : TargetSlave
  command : Command
  lastAlState : Option AlState
  lastAlStatusCode : Option AlStatusCode
  invalidWkcCount : ℕ
  lastWkc : UInt16
  deriving DecidableEq, Repr

namespace AlStateReadTask

/-- The size of the buffer that the task asks for. -/
def requiredBufferSize : ℕ := AlStatus.size

/-- A task that has seen nothing. -/
def new : AlStateReadTask where
  target := .default
  command := .default
  lastAlState := none
  lastAlStatusCode := none
  invalidWkcCount := 0
  lastWkc := 0

/-- The status of these slaves is read from now on. -/
def setTarget (task : AlStateReadTask) (targetSlave : TargetSlave) : AlStateReadTask :=
  { task with target := targetSlave }

/-- One for a single slave, the number of slaves for a broadcast. -/
def expectedWkc (task : AlStateReadTask) : UInt16 := task.target.numTargets

/-- The task has no end, and is never busy. -/
def isBusy (_task : AlStateReadTask) : Bool := false

/-- The read of the status, every time. -/
def nextPdu (task : AlStateReadTask) (buf : List UInt8) :
    Exec ((Option (Command × ℕ) × List UInt8) × AlStateReadTask) := do
  let command := Command.newRead task.target AlStatus.address
  let buf ← fillTo buf AlStatus.size 0
  .ok ((some (command, AlStatus.size), buf), { task with command := command })

/-- A wrong working counter is counted, but the state is taken over all the same. -/
def recieveAndProcess (task : AlStateReadTask) (recvData : Pdu) (_sysTime : ℕ) :
    Exec AlStateReadTask := do
  let task :=
    if recvData.wkc ≠ task.target.numTargets then
      { task with invalidWkcCount := min (task.invalidWkcCount + 1) usizeMax }
    else
      task
  let state ← AlStatus.state.get recvData.data
  let task := { task with lastAlState := some (AlState.ofU8 (.ofNat state)) }
  let changeErr ← AlStatus.changeErr.getBool recvData.data
  if changeErr then do
    let code ← AlStatus.alStatusCode.get recvData.data
    let alStatusCode ← unwrap (AlStatusCode.tryFrom (.ofNat code))
    .ok { task with lastAlStatusCode := some alStatusCode }
  else
    .ok { task with lastAlStatusCode := none }

lemma nextPdu_eq_ok {task task' : AlStateReadTask} {buf buf' : List UInt8}
    {pdu : Option (Command × ℕ)} (h : task.nextPdu buf = .ok ((pdu, buf'), task')) :
    buf'.length = buf.length ∧
      task' = { task with command := .newRead task.target AlStatus.address } := by
  obtain ⟨filled, hfill, heq⟩ := bind_eq_ok.mp h
  obtain ⟨hsize, rfl⟩ := fillTo_eq_ok_iff.mp hfill
  cases heq
  refine ⟨?_, rfl⟩
  rw [List.length_append, List.length_replicate, List.length_drop]
  omega

instance : CyclicTask AlStateReadTask where
  nextPdu := nextPdu
  recieveAndProcess := recieveAndProcess
  isBusy := isBusy
  length_nextPdu h := (nextPdu_eq_ok h).1

end AlStateReadTask

end EtherCat
