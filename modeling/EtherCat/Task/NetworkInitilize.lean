import EtherCat.Slave.Network
import EtherCat.Task.SlaveInitialize

/-!
# Initialising the slaves of a segment

`NetworkInitTask` counts the slaves by a broadcast and initialises one after another by an inner
`SlaveInitTask`.  Each slave that is initialised is pushed into the network.
-/

namespace EtherCat

open Rust Rust.Exec BitField CyclicTask

/-- What can go wrong with the scan, apart from the errors of every task. -/
inductive NetworkInitTaskError
  | init (error : SlaveInitTaskError)
  | tooManySlaves
  deriving DecidableEq, Repr

/-- The states: a broadcast counts the slaves, and then one after another is initialised. -/
inductive NetworkInitTask.State
  | idle
  | error (error : TaskError NetworkInitTaskError)
  | countSlaves
  | startInitSlaves (count : UInt16)
  | waitInitSlaves (count : UInt16)
  | complete
  deriving DecidableEq, Repr

/-- The task that scans the network and fills the list of slaves. `initilizer` initialises one slave
after another. -/
structure NetworkInitTask where
  initilizer : SlaveInitTask
  network : Network
  state : NetworkInitTask.State
  command : Command
  numSlaves : UInt16
  deriving DecidableEq, Repr

namespace NetworkInitTask

/-- An idle task on a network. -/
def new (network : Network) : NetworkInitTask where
  initilizer := .new
  network := network
  state := .idle
  command := .default
  numSlaves := 0

/-- A scan begins with the count of the slaves. -/
def start (task : NetworkInitTask) : NetworkInitTask :=
  { task with command := .default, state := .countSlaves }

/-- The result, once there is one. -/
def waitResult (task : NetworkInitTask) : Option (Except (TaskError NetworkInitTaskError) Unit) :=
  match task.state with
  | .complete => some (.ok ())
  | .error e => some (.error e)
  | _ => none

/-- The PDU of the inner task, whose command is noted. -/
def nextInitilizer (task : NetworkInitTask) (buf : List UInt8) :
    Exec ((Option (Command × ℕ) × List UInt8) × NetworkInitTask) := do
  let ((pdu, buf), initilizer) ← task.initilizer.nextPdu buf
  .ok ((pdu, buf),
    { task with initilizer := initilizer, command := (pdu.map Prod.fst).getD task.command })

/-- The PDU of the state; the task of the slave that is initialised makes its own. -/
def nextPdu (task : NetworkInitTask) (buf : List UInt8) :
    Exec ((Option (Command × ℕ) × List UInt8) × NetworkInitTask) :=
  match task.state with
  | .idle => .ok ((none, buf), task)
  | .error _ => .ok ((none, buf), task)
  | .countSlaves => do
    let command : Command := ⟨.bwr, 0, DlControl.address⟩
    let pdu ← request command DlControl.size
      (fun data => Field.setAll data [(DlControl.forwardingRule, 1), (DlControl.txBufferSize, 7)])
      buf
    .ok (pdu, { task with command := command })
  | .startInitSlaves count =>
    { task with initilizer := task.initilizer.start count }.nextInitilizer buf
  | .waitInitSlaves _ => task.nextInitilizer buf
  | .complete => .ok ((none, buf), task)

/-- A slave that has just been initialised.  Its third FMMU maps the state of its mailbox. -/
def initializedSlave (info : SlaveInfo) : Slave :=
  let slave := { Slave.default with info := info, mailboxCount := 0 }
  match info.mailboxTxSm with
  | some sm =>
    if 2 ≤ info.numberOfFmmu then
      let mbTxSmStatus := SyncManagerStatus.address + 0x08 * sm.number.toUInt16
      let bitLength : UInt16 := .ofNat (SyncManagerStatus.size * 8)
      { slave with fmmu := slave.fmmu.set 2 (some (.new mbTxSmStatus bitLength .input)) }
    else slave
  | none => slave

/-- A slave is initialised: push it and go on with the next one. -/
def pushInitialized (task : NetworkInitTask) (count : UInt16) (info : SlaveInfo) :
    Exec NetworkInitTask := do
  let (pushed, network) ← task.network.pushSlave (initializedSlave info)
  let task := { task with network := network }
  match pushed with
  | .error _ => .ok { task with state := .error (.taskSpecific .tooManySlaves) }
  | .ok _ => do
    let next ← addUpTo 16 count.toNat 1
    .ok { task with
          state := if next < task.numSlaves.toNat then .startInitSlaves (.ofNat next)
            else .complete }

/-- The arm `WaitInitSlaves`. -/
def processWaitInitSlaves (task : NetworkInitTask) (count : UInt16) (recvData : Pdu)
    (sysTime : ℕ) : Exec NetworkInitTask := do
  let initilizer ← task.initilizer.recieveAndProcess recvData sysTime
  let (result, initilizer) := initilizer.waitResult
  let task := { task with initilizer := initilizer }
  match result with
  | some (.ok (some info)) => task.pushInitialized count info
  | some (.ok none) => .error .explicit
  | none => .ok task
  | some (.error e) => .ok { task with state := .error (e.map .init) }

/-- A response with another command is an error in every state. -/
def checked (task : NetworkInitTask) (recvData : Pdu) : NetworkInitTask :=
  if recvData.Echoes task.command then task
  else { task with state := .error .unexpectedCommand }

/-- The state machine, behind the check of the command. -/
def processState (task : NetworkInitTask) (recvData : Pdu) (sysTime : ℕ) :
    Exec NetworkInitTask :=
  match task.state with
  | .idle => .ok task
  | .error _ => .ok task
  | .countSlaves =>
    .ok { task with
          numSlaves := recvData.wkc
          network := task.network.clear
          state := if recvData.wkc = 0 then .complete else .startInitSlaves 0 }
  | .startInitSlaves count => do
    -- whatever has become of the inner task
    let initilizer ← task.initilizer.recieveAndProcess recvData sysTime
    .ok { task with initilizer := initilizer, state := .waitInitSlaves count }
  | .waitInitSlaves count => task.processWaitInitSlaves count recvData sysTime
  | .complete => .ok task

/-- What a response does. -/
def recieveAndProcess (task : NetworkInitTask) (recvData : Pdu) (sysTime : ℕ) :
    Exec NetworkInitTask :=
  (task.checked recvData).processState recvData sysTime

/-- The task goes on. -/
def isBusy (task : NetworkInitTask) : Bool :=
  match task.state with
  | .idle | .complete | .error _ => false
  | _ => true

lemma nextInitilizer_eq_ok {task task' : NetworkInitTask} {buf buf' : List UInt8}
    {pdu : Option (Command × ℕ)} (h : task.nextInitilizer buf = .ok ((pdu, buf'), task')) :
    ∃ initilizer, task.initilizer.nextPdu buf = .ok ((pdu, buf'), initilizer) ∧
      task' = { task with
                initilizer := initilizer, command := (pdu.map Prod.fst).getD task.command } := by
  obtain ⟨⟨⟨pdu', buf''⟩, initilizer⟩, hnext, heq⟩ := bind_eq_ok.mp h
  cases heq
  exact ⟨initilizer, hnext, rfl⟩

instance : CyclicTask NetworkInitTask where
  nextPdu := nextPdu
  recieveAndProcess := recieveAndProcess
  isBusy := isBusy
  length_nextPdu {task task' buf buf' pdu} h := by
    unfold nextPdu at h
    split at h
    case h_1 | h_2 | h_6 =>
      cases h
      rfl
    case h_3 =>
      obtain ⟨pdu', hrequest, heq⟩ := bind_eq_ok.mp h
      cases heq
      exact length_request hrequest
    case h_4 | h_5 =>
      obtain ⟨initilizer, hnext, -⟩ := nextInitilizer_eq_ok h
      exact CyclicTask.length_nextPdu (T := SlaveInitTask) hnext

end NetworkInitTask

end EtherCat
