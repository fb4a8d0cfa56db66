import EtherCat.Register.Application
import EtherCat.Register.Datalink
import EtherCat.Slave.Slave
import EtherCat.Task.CyclicTask

/-!
# Changing the AL state

`AlStateTransferTask` reads the AL status of one slave or of all of them, resets an error that
it finds, gives the EEPROM interface to the PDI, requests the target state and polls the status
until the target is reported.
-/

namespace EtherCat

open Rust Rust.Exec BitField CyclicTask

/-- A slave reports an error with its AL status. -/
inductive AlStateTransferTaskError
  | alStatusCode (alState : AlState) (code : AlStatusCode)
  deriving DecidableEq, Repr

/-- The states: the task reads the state that the slaves are in and resets an error flag, gives the
EEPROM to the PDI, requests the target, and polls until the slaves show it. -/
inductive AlStateTransferTask.State
  | error (error : TaskError AlStateTransferTaskError)
  | idle
  | read
  | resetError (currentAlState : AlState)
  | offAck (currentAlState : AlState)
  | resetSiiOwnership
  | request
  | poll
  | complete
  deriving DecidableEq, Repr

/-- The task that brings one slave or all slaves into an AL state. -/
structure AlStateTransferTask where
  timerStart : ℕ
  state : AlStateTransferTask.State
  slaveAddress : TargetSlave
  targetAl : AlState
  command : Command
  currentAlState : AlState
  timeoutMs : ℕ
  deriving DecidableEq, Repr

namespace AlStateTransferTask

/-- How long a slave may take to get to PreOperational or Bootstrap. -/
def preopTimeoutDefaultMs : ℕ := 3000

/-- And to SafeOperational or Operational. -/
def safeopOpTimeoutDefaultMs : ℕ := 10000

/-- And back to Init. -/
def backToInitTimeoutDefaultMs : ℕ := 5000

/-- And from Operational back to SafeOperational. -/
def backToSafeopTimeoutDefaultMs : ℕ := 200

/-- The longest of these times. -/
def maxTimeoutMs : ℕ :=
  max (max (max preopTimeoutDefaultMs safeopOpTimeoutDefaultMs) backToInitTimeoutDefaultMs)
    backToSafeopTimeoutDefaultMs

/-- The size of the buffer that the task asks for. -/
def requiredBufferSize : ℕ := max (max AlStatus.size AlControl.size) SiiAccess.size

/-- An idle task. -/
def new : AlStateTransferTask where
  timerStart := 0
  state := .idle
  slaveAddress := .default
  targetAl := .init
  command := .default
  currentAlState := .init
  timeoutMs := 0

/-- A transfer begins with a look at the state that the slaves are in. The old timeout stays until
the request. -/
def start (task : AlStateTransferTask) (slaveAddress : TargetSlave) (targetAlState : AlState) :
    AlStateTransferTask :=
  { task with slaveAddress := slaveAddress, targetAl := targetAlState, state := .read,
              command := .default }

/-- The result, once there is one: the state that was reached. -/
def waitResult (task : AlStateTransferTask) :
    Option (Except (TaskError AlStateTransferTaskError) AlState) :=
  match task.state with
  | .complete => some (.ok task.currentAlState)
  | .error e => some (.error e)
  | _ => none

/-- The time that the slaves have for a change of state. -/
def transitionTimeoutMs : AlState → AlState → ℕ
  | .preOperational, .safeOperational => safeopOpTimeoutDefaultMs
  | _, .operational => safeopOpTimeoutDefaultMs
  | _, .preOperational => preopTimeoutDefaultMs
  | _, .bootstrap => preopTimeoutDefaultMs
  | _, .init => backToInitTimeoutDefaultMs
  | _, .safeOperational => backToSafeopTimeoutDefaultMs
  | _, .invalidOrMixed => maxTimeoutMs

/-- Send a PDU of a state: note its command, zero a part of the buffer and fill it in. -/
def send (task : AlStateTransferTask) (command : Command) (zeroed size : ℕ)
    (write : List UInt8 → Exec (List UInt8)) (buf : List UInt8) :
    Exec ((Option (Command × ℕ) × List UInt8) × AlStateTransferTask) := do
  let buf ← fillTo buf zeroed 0
  let buf ← write buf
  .ok ((some (command, size), buf), { task with command := command })

/-- The state and the acknowledge flag of the AL control register. -/
def writeAlControl (alState : AlState) (acknowledge : Bool) (buf : List UInt8) :
    Exec (List UInt8) := do
  let buf ← AlControl.state.set buf alState.toU8.toNat
  AlControl.acknowledge.setBool buf acknowledge

/-- The PDU that gives the EEPROM interface to the PDI. -/
def writeSiiAccess (buf : List UInt8) : Exec (List UInt8) := do
  let buf ← SiiAccess.owner.setBool buf true
  SiiAccess.resetAccess.setBool buf false

/-- The PDU of the state; a task that is not busy sends none. -/
def nextPdu (task : AlStateTransferTask) (buf : List UInt8) :
    Exec ((Option (Command × ℕ) × List UInt8) × AlStateTransferTask) :=
  match task.state with
  | .idle => .ok ((none, buf), task)
  | .error _ => .ok ((none, buf), task)
  | .read =>
    task.send (.newRead task.slaveAddress AlStatus.address) AlStatus.size AlStatus.size .ok buf
  | .resetError currentAlState =>
    -- the bytes of an AL status are zeroed, the bytes of an AL control are sent
    task.send (.newWrite task.slaveAddress AlControl.address) AlStatus.size AlControl.size
      (writeAlControl currentAlState true) buf
  | .offAck currentAlState =>
    task.send (.newWrite task.slaveAddress AlControl.address) AlControl.size AlControl.size
      (writeAlControl currentAlState false) buf
  | .resetSiiOwnership =>
    task.send (.newWrite task.slaveAddress SiiAccess.address) SiiAccess.size SiiAccess.size
      writeSiiAccess buf
  | .request =>
    { task with timeoutMs := transitionTimeoutMs task.currentAlState task.targetAl }.send
      (.newWrite task.slaveAddress AlControl.address) AlControl.size AlControl.size
      (fun buf => AlControl.state.set buf task.targetAl.toU8.toNat) buf
  | .poll =>
    task.send (.newRead task.slaveAddress AlStatus.address) AlStatus.size AlStatus.size .ok buf
  | .complete => .ok ((none, buf), task)

/-- A response with another command or another working counter is an error in every state. -/
def checked (task : AlStateTransferTask) (recvData : Pdu) : AlStateTransferTask :=
  { task with
    state := checkedState .error task.command task.slaveAddress.numTargets recvData task.state }

/-- The arm of the first AL status. -/
def processRead (task : AlStateTransferTask) (data : List UInt8) : Exec AlStateTransferTask := do
  let state ← AlStatus.state.get data
  let alState := AlState.ofU8 (.ofNat state)
  let task := { task with currentAlState := alState }
  if alState = task.targetAl then
    .ok { task with state := .complete }
  else do
    let changeErr ← AlStatus.changeErr.getBool data
    if changeErr then
      .ok { task with
            state := .resetError (if alState = .invalidOrMixed then .init else alState) }
    else
      .ok { task with state := .resetSiiOwnership }

/-- The arm of the AL status after the request. -/
def processPoll (task : AlStateTransferTask) (data : List UInt8) (sysTime : ℕ) :
    Exec AlStateTransferTask := do
  let state ← AlStatus.state.get data
  let alState := AlState.ofU8 (.ofNat state)
  let task := { task with currentAlState := alState }
  if task.targetAl = alState then
    .ok { task with state := .complete }
  else do
    let changeErr ← AlStatus.changeErr.getBool data
    if changeErr then do
      let code ← AlStatus.alStatusCode.get data
      let alStatusCode ← unwrap (AlStatusCode.tryFrom (.ofNat code))
      .ok { task with state := .error (.taskSpecific (.alStatusCode alState alStatusCode)) }
    else if task.timerStart < sysTime ∧
        task.timeoutMs * 1000000000 < sysTime - task.timerStart then
      .ok { task with state := .error .timeout }
    else
      .ok task

/-- What a response does. -/
def recieveAndProcess (task : AlStateTransferTask) (recvData : Pdu) (sysTime : ℕ) :
    Exec AlStateTransferTask :=
  let task := task.checked recvData
  let data := recvData.data
  match task.state with
  | .idle => .ok task
  | .error _ => .ok task
  | .complete => .ok task
  | .read => task.processRead data
  | .resetError alState => .ok { task with state := .offAck alState }
  | .offAck _ => .ok { task with state := .read }
  | .resetSiiOwnership => .ok { task with state := .request }
  | .request => .ok { task with timerStart := sysTime, state := .poll }
  | .poll => task.processPoll data sysTime

/-- The task goes on. -/
def isBusy (task : AlStateTransferTask) : Bool :=
  match task.state with
  | .idle | .complete | .error _ => false
  | _ => true

lemma send_eq_ok {task task' : AlStateTransferTask} {command : Command} {zeroed size : ℕ}
    {write : List UInt8 → Exec (List UInt8)} {buf buf' : List UInt8}
    {pdu : Option (Command × ℕ)}
    (h : task.send command zeroed size write buf = .ok ((pdu, buf'), task')) :
    pdu = some (command, size) ∧ task' = { task with command := command } ∧
      ∃ filled, filled.length = buf.length ∧ write filled = .ok buf' := by
  obtain ⟨filled, hfill, hrest⟩ := bind_eq_ok.mp h
  obtain ⟨buf'', hwrite, heq⟩ := bind_eq_ok.mp hrest
  obtain ⟨hzeroed, rfl⟩ := fillTo_eq_ok_iff.mp hfill
  cases heq
  refine ⟨rfl, rfl, _, ?_, hwrite⟩
  rw [List.length_append, List.length_replicate, List.length_drop]
  omega

lemma length_writeAlControl {alState : AlState} {acknowledge : Bool} {buf buf' : List UInt8}
    (h : writeAlControl alState acknowledge buf = .ok buf') : buf'.length = buf.length := by
  obtain ⟨buf₁, hstate, hacknowledge⟩ := bind_eq_ok.mp h
  rw [(Field.set_eq_ok_iff.mp hacknowledge).2, (Field.set_eq_ok_iff.mp hstate).2,
    Field.length_put, Field.length_put]

lemma length_writeSiiAccess {buf buf' : List UInt8} (h : writeSiiAccess buf = .ok buf') :
    buf'.length = buf.length := by
  obtain ⟨buf₁, howner, hreset⟩ := bind_eq_ok.mp h
  rw [(Field.set_eq_ok_iff.mp hreset).2, (Field.set_eq_ok_iff.mp howner).2, Field.length_put,
    Field.length_put]

instance : CyclicTask AlStateTransferTask where
  nextPdu := nextPdu
  recieveAndProcess := recieveAndProcess
  isBusy := isBusy
  length_nextPdu {task task' buf buf' pdu} h := by
    unfold nextPdu at h
    split at h
    case h_1 | h_2 | h_9 =>
      cases h
      rfl
    case h_3 | h_8 =>
      obtain ⟨-, -, filled, hlength, hwrite⟩ := send_eq_ok h
      rw [← Except.ok.inj hwrite, hlength]
    case h_4 | h_5 =>
      obtain ⟨-, -, filled, hlength, hwrite⟩ := send_eq_ok h
      rw [length_writeAlControl hwrite, hlength]
    case h_6 =>
      obtain ⟨-, -, filled, hlength, hwrite⟩ := send_eq_ok h
      rw [length_writeSiiAccess hwrite, hlength]
    case h_7 =>
      obtain ⟨-, -, filled, hlength, hwrite⟩ := send_eq_ok h
      rw [(Field.set_eq_ok_iff.mp hwrite).2, Field.length_put, hlength]

end AlStateTransferTask

end EtherCat
