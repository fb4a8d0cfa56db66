import EtherCat.Task.AlStateTransfer
import EtherCat.Task.SiiRead

/-!
# Initialising a slave

`SlaveInitTask` brings a slave to `Init` by an inner `AlStateTransferTask`, clears its error
counters, watchdogs, FMMUs and sync managers, reads what the master needs of its EEPROM by an inner
`SiiReader`, and configures the mailboxes, the station address and the clock.
-/

namespace EtherCat

open Rust Rust.Exec BitField CyclicTask

/-- What can go wrong with the setup of a slave, apart from the errors of every task. -/
inductive SlaveInitTaskError
  | alStateTransition (error : AlStateTransferTaskError)
  | siiRead (error : SiiTaskError)
  | failedToLoadEEPROM
  deriving DecidableEq, Repr

/-- `From<TaskError<..>>`: an error of an inner task as an error of the outer one. -/
def TaskError.map {E F : Type} (f : E → F) : TaskError E → TaskError F
  | .taskSpecific e => .taskSpecific (f e)
  | .interface e => .interface e
  | .unexpectedCommand => .unexpectedCommand
  | .unexpectedWkc wkc => .unexpectedWkc wkc
  | .timeout => .timeout

/-- The task that is nested in the state of `SlaveInitTask`. -/
inductive SlaveInitTask.InnerFunction
  | this
  | sii (task : SiiReader)
  | alStateTransferTask (task : AlStateTransferTask)
  deriving DecidableEq, Repr

namespace SlaveInitTask.InnerFunction

/-- A task inside that reads the SII: the one that is there, or a new one. -/
def intoSii : InnerFunction → InnerFunction
  | sii task => sii task
  | _ => sii .new

/-- A task inside that transfers the AL state: the one that is there, or a new one. -/
def intoAlStateTransfer : InnerFunction → InnerFunction
  | alStateTransferTask task => alStateTransferTask task
  | _ => alStateTransferTask .new

/-- The task inside, if it reads the SII. -/
def siiReader : InnerFunction → Option SiiReader
  | sii task => some task
  | _ => none

/-- The task inside, if it transfers the AL state. -/
def alStateTransfer : InnerFunction → Option AlStateTransferTask
  | alStateTransferTask task => some task
  | _ => none

end SlaveInitTask.InnerFunction

/-- The states, in their order: the loop ports, the state Init, the counters and watchdogs, what the
data link tells, the FMMUs and sync managers that are cleared, the words of the SII, the sync
managers of the mailboxes, the station address, and the registers of the clocks. -/
inductive SlaveInitTask.State
  | idle
  | error (error : TaskError SlaveInitTaskError)
  | setLoopPort
  | requestInitState (isFirst : Bool)
  | resetErrorCount
  | setWatchDogDivider
  | disableDlWatchDog
  | disableSmWatchDog
  | checkDlStatus
  | checkDlInfo
  | clearFmmu (count : UInt16)
  | clearSm (count : UInt16)
  | getVenderID (isFirst : Bool)
  | getProductCode (isFirst : Bool)
  | getRevision (isFirst : Bool)
  | getProtocol (isFirst : Bool)
  | getRxMailboxSize (isFirst : Bool)
  | getRxMailboxOffset (isFirst : Bool)
  | getTxMailboxSize (isFirst : Bool)
  | getTxMailboxOffset (isFirst : Bool)
  | setSmControl (num : ℕ)
  | setSmActivation (num : ℕ)
  | setStationAddress
  | checkPdiControl
  | clearDcActivation
  | clearCyclicOperationStartTime
  | clearSync0CycleTime
  | clearSync1CycleTime
  | complete
  deriving DecidableEq, Repr

/-- The task that sets a slave up and collects what is known of it. -/
structure SlaveInitTask where
  inner : SlaveInitTask.InnerFunction
  slaveAddress : SlaveAddress
  state : SlaveInitTask.State
  command : Command
  slaveInfo : Option SlaveInfo
  deriving DecidableEq, Repr

namespace SlaveInitTask

/-- The largest size of a sync manager. -/
def maxSmSize : UInt16 := 256

/-- An idle task. -/
def new : SlaveInitTask where
  inner := .this
  slaveAddress := .slavePosition 0
  state := .idle
  command := .default
  slaveInfo := none

/-- The setup of the slave at a position begins. -/
def start (task : SlaveInitTask) (slavePosition : UInt16) : SlaveInitTask :=
  { task with slaveAddress := .slavePosition slavePosition, state := .setLoopPort,
              slaveInfo := some .default }

/-- The result, and the task from which the slave has been taken. -/
def waitResult (task : SlaveInitTask) :
    Option (Except (TaskError SlaveInitTaskError) (Option SlaveInfo)) × SlaveInitTask :=
  match task.state with
  | .complete => (some (.ok task.slaveInfo), { task with slaveInfo := none })
  | .error e => (some (.error e), task)
  | _ => (none, task)

/-! ## The PDUs -/

/-- The PDU of a state without an inner task. -/
def send (task : SlaveInitTask) (command : Command) (size : ℕ) (assignments : List (Field × ℕ))
    (buf : List UInt8) : Exec ((Option (Command × ℕ) × List UInt8) × SlaveInitTask) := do
  let pdu ← request command size (fun data => Field.setAll data assignments) buf
  .ok (pdu, { task with command := command })

/-- The command of a PDU of the inner task is noted. -/
def noteCommand (task : SlaveInitTask) (pdu : Option (Command × ℕ)) : SlaveInitTask :=
  match pdu with
  | some (command, _) => { task with command := command }
  | none => task

/-- The PDU of the state `RequestInitState`. -/
def nextAlStateTransfer (task : SlaveInitTask) (isFirst : Bool) (buf : List UInt8) :
    Exec ((Option (Command × ℕ) × List UInt8) × SlaveInitTask) := do
  let alTransfer ← unwrap task.inner.intoAlStateTransfer.alStateTransfer
  let alTransfer :=
    if isFirst then alTransfer.start (.single task.slaveAddress) .init else alTransfer
  let (pdu, alTransfer) ← alTransfer.nextPdu buf
  .ok (pdu, { task with inner := .alStateTransferTask alTransfer }.noteCommand pdu.1)

/-- The PDU of a state that reads an address of the EEPROM. -/
def nextSii (task : SlaveInitTask) (isFirst : Bool) (siiAddress : UInt16) (buf : List UInt8) :
    Exec ((Option (Command × ℕ) × List UInt8) × SlaveInitTask) := do
  let siiReader ← unwrap task.inner.siiReader
  let siiReader := if isFirst then siiReader.start task.slaveAddress siiAddress else siiReader
  let (pdu, siiReader) ← siiReader.nextPdu buf
  .ok (pdu, { task with inner := .sii siiReader }.noteCommand pdu.1)

/-- The configuration of a mailbox sync manager. -/
def smControl : Option SyncManagerType → List (Field × ℕ)
  | some (.mailboxRx sm) =>
    [(SyncManagerControl.physicalStartAddress, sm.startAddress.toNat),
      (SyncManagerControl.length, sm.size.toNat), (SyncManagerControl.bufferType, 0b10),
      (SyncManagerControl.direction, 1), (SyncManagerControl.dlsUserEventEnable, 1)]
  | some (.mailboxTx sm) =>
    [(SyncManagerControl.physicalStartAddress, sm.startAddress.toNat),
      (SyncManagerControl.length, sm.size.toNat), (SyncManagerControl.bufferType, 0b10),
      (SyncManagerControl.direction, 0), (SyncManagerControl.dlsUserEventEnable, 1)]
  | _ => []

/-- The fields of the activation register of a sync manager: mailboxes are enabled at once. -/
def smActivation : Option SyncManagerType → List (Field × ℕ)
  | some (.mailboxRx _) | some (.mailboxTx _) =>
    [(SyncManagerActivation.channelEnable, 1), (SyncManagerActivation.repeatBit, 0)]
  | _ => []

/-- The sync manager `slave_info.sm[num]`. -/
def smAt (task : SlaveInitTask) (num : ℕ) : Exec (Option SyncManagerType) := do
  let info ← unwrap task.slaveInfo
  index info.sm.toList num

/-- The station address of a slave counts from one. -/
def stationAddress : SlaveAddress → Exec UInt16
  | .slavePosition addr => do
    let addr ← addUpTo 16 addr.toNat 1
    .ok (.ofNat addr)
  | .stationAddress addr => .ok addr

/-- The PDU of the state `SetStationAddress`. -/
def nextSetStationAddress (task : SlaveInitTask) (buf : List UInt8) :
    Exec ((Option (Command × ℕ) × List UInt8) × SlaveInitTask) := do
  let addr ← stationAddress task.slaveAddress
  let info ← unwrap task.slaveInfo
  { task with slaveInfo := some { info with configuredAddress := addr } }.send
    (.newWrite (.single task.slaveAddress) FixedStationAddress.address) FixedStationAddress.size
    [(FixedStationAddress.configuredStationAddress, addr.toNat)] buf

/-- The PDU of the state; the states with a task inside send its PDUs. -/
def nextPdu (task : SlaveInitTask) (buf : List UInt8) :
    Exec ((Option (Command × ℕ) × List UInt8) × SlaveInitTask) :=
  let target := TargetSlave.single task.slaveAddress
  match task.state with
  | .idle => .ok ((none, buf), task)
  | .error _ => .ok ((none, buf), task)
  | .complete => .ok ((none, buf), task)
  | .setLoopPort =>
    task.send (.newWrite target DlControl.address) DlControl.size
      [(DlControl.forwardingRule, 1), (DlControl.txBufferSize, 7),
        (DlControl.enableAliasAddress, 0)] buf
  | .requestInitState isFirst => task.nextAlStateTransfer isFirst buf
  | .resetErrorCount =>
    task.send (.newWrite target RxErrorCounter.address) RxErrorCounter.size [] buf
  | .setWatchDogDivider =>
    task.send (.newWrite target WatchDogDivider.address) WatchDogDivider.size
      [(WatchDogDivider.watchDogDivider, 2498)] buf
  | .disableDlWatchDog =>
    task.send (.newWrite target DlUserWatchDog.address) DlUserWatchDog.size [] buf
  | .disableSmWatchDog =>
    task.send (.newWrite target SyncManagerChannelWatchDog.address) SyncManagerChannelWatchDog.size
      [] buf
  | .checkDlStatus => task.send (.newRead target DlStatus.address) DlStatus.size [] buf
  | .checkDlInfo => task.send (.newRead target DlInformation.address) DlInformation.size [] buf
  | .clearFmmu count =>
    task.send (.newWrite target (FmmuRegister.address + count * 0x10)) FmmuRegister.size [] buf
  | .clearSm count =>
    task.send (.newWrite target (SyncManagerControl.address + count * 0x08))
      (SyncManagerControl.size + SyncManagerStatus.size + SyncManagerActivation.size) [] buf
  | .getVenderID isFirst =>
    { task with inner := task.inner.intoSii }.nextSii isFirst Sii.venderId buf
  | .getProductCode isFirst => task.nextSii isFirst Sii.productCode buf
  | .getRevision isFirst => task.nextSii isFirst Sii.revisionNumber buf
  | .getProtocol isFirst => task.nextSii isFirst Sii.mailboxProtocol buf
  | .getRxMailboxSize isFirst => task.nextSii isFirst Sii.standardRxMailboxSize buf
  | .getRxMailboxOffset isFirst => task.nextSii isFirst Sii.standardRxMailboxOffset buf
  | .getTxMailboxSize isFirst => task.nextSii isFirst Sii.standardTxMailboxSize buf
  | .getTxMailboxOffset isFirst => task.nextSii isFirst Sii.standardTxMailboxOffset buf
  | .setSmControl num => do
    let sm ← task.smAt num
    task.send (.newWrite target (SyncManagerControl.address + 0x08 * .ofNat num))
      SyncManagerControl.size (smControl sm) buf
  | .setSmActivation num => do
    let sm ← task.smAt num
    task.send (.newWrite target (SyncManagerActivation.address + 0x08 * .ofNat num))
      SyncManagerActivation.size (smActivation sm) buf
  | .setStationAddress => task.nextSetStationAddress buf
  | .checkPdiControl => task.send (.newRead target PdiControl.address) PdiControl.size [] buf
  | .clearDcActivation =>
    task.send (.newWrite target DcActivation.address) DcActivation.size [] buf
  | .clearCyclicOperationStartTime =>
    task.send (.newWrite target CyclicOperationStartTime.address) CyclicOperationStartTime.size []
      buf
  | .clearSync0CycleTime =>
    task.send (.newWrite target Sync0CycleTime.address) Sync0CycleTime.size [] buf
  | .clearSync1CycleTime =>
    task.send (.newWrite target Sync1CycleTime.address) Sync1CycleTime.size [] buf

/-! ## The responses -/

/-- Where the arm `RequestInitState` goes. -/
inductive InitStateRequest
  | requestInitState (isFirst : Bool)
  | resetErrorCount
  | error (error : TaskError SlaveInitTaskError)
  deriving DecidableEq, Repr

/-- The state of the whole task. -/
def InitStateRequest.state : InitStateRequest → State
  | requestInitState isFirst => .requestInitState isFirst
  | resetErrorCount => .resetErrorCount
  | error e => .error e

/-- The arm `RequestInitState`. -/
def processRequestInitState (alTransfer : AlStateTransferTask) (recvData : Pdu) (sysTime : ℕ) :
    Exec (InitStateRequest × AlStateTransferTask) := do
  let alTransfer ← recieveAndProcess alTransfer recvData sysTime
  match alTransfer.waitResult with
  | some (.ok .init) => .ok (.resetErrorCount, alTransfer)
  | some (.ok _) => .error .explicit
  | none => .ok (.requestInitState false, alTransfer)
  | some (.error e) => .ok (.error (e.map .alStateTransition), alTransfer)

/-- The arm of the state Init: the task inside takes the response. -/
def processAlStateTransfer (task : SlaveInitTask) (recvData : Pdu) (sysTime : ℕ) :
    Exec SlaveInitTask := do
  let alTransfer ← unwrap task.inner.alStateTransfer
  let (next, alTransfer) ← processRequestInitState alTransfer recvData sysTime
  .ok { task with inner := .alStateTransferTask alTransfer, state := next.state }

/-- The arms that read the EEPROM: `again` waits for the data, which `done` notes before `next`. -/
def processSii (task : SlaveInitTask) (recvData : Pdu) (sysTime : ℕ) (again next : State)
    (done : SlaveInfo → List UInt8 → Exec SlaveInfo) : Exec SlaveInitTask := do
  let siiReader ← unwrap task.inner.siiReader
  let siiReader ← siiReader.recieveAndProcess recvData sysTime
  let task := { task with inner := .sii siiReader }
  match siiReader.waitResult with
  | some (.ok (data, _)) => do
    let info ← unwrap task.slaveInfo
    let info ← done info data
    .ok { task with slaveInfo := some info, state := next }
  | none => .ok { task with state := again }
  | some (.error e) => .ok { task with state := .error (e.map .siiRead) }

/-- `data.sii_data() as u16`. -/
def siiWord (data : List UInt8) : Exec UInt16 := do
  let value ← SiiData.siiData.get data
  .ok (.ofNat value)

/-- The word of the vendor. -/
def noteVenderID (info : SlaveInfo) (data : List UInt8) : Exec SlaveInfo := do
  let word ← siiWord data
  .ok { info with id := { info.id with venderId := word } }

/-- The word of the product. -/
def noteProductCode (info : SlaveInfo) (data : List UInt8) : Exec SlaveInfo := do
  let word ← siiWord data
  .ok { info with id := { info.id with productCode := word } }

/-- The word of the revision. -/
def noteRevision (info : SlaveInfo) (data : List UInt8) : Exec SlaveInfo := do
  let word ← siiWord data
  .ok { info with id := { info.id with revisionNumber := word } }

/-- The word of the mailbox protocols: only CoE is looked at. -/
def noteProtocol (info : SlaveInfo) (data : List UInt8) : Exec SlaveInfo := do
  let supportCoe ← (Field.bit 2).getBool data
  .ok { info with supportCoe := supportCoe }

/-- The sync manager `num` of a mailbox whose data are in the sync manager `num + 2`; without a
mailbox they are in `num` itself. -/
def noteMailboxSize (num : Fin 2) (mailbox : SyncManager → SyncManagerType)
    (processData : SyncManagerType) (info : SlaveInfo) (data : List UInt8) : Exec SlaveInfo := do
  let value ← SiiData.siiData.get data
  if 4 ≤ info.numberOfSm ∧ value ≠ 0 then
    let size := min (UInt16.ofNat value) maxSmSize
    let sm := info.sm.set num (some (mailbox ⟨.ofNat num.val, size, 0⟩))
    .ok { info with sm := sm.set (num.val + 2) (some processData) }
  else if 2 ≤ info.numberOfSm then
    .ok { info with sm := info.sm.set num (some processData) }
  else .ok info

/-- The word of the receive mailbox's size. -/
def noteRxMailboxSize : SlaveInfo → List UInt8 → Exec SlaveInfo :=
  noteMailboxSize ⟨0, Nat.zero_lt_two⟩ .mailboxRx .processDataRx

/-- The word of the send mailbox's size. -/
def noteTxMailboxSize : SlaveInfo → List UInt8 → Exec SlaveInfo :=
  noteMailboxSize ⟨1, Nat.one_lt_two⟩ .mailboxTx .processDataTx

/-- The word of the receive mailbox's offset, if the slave has one. -/
def noteRxMailboxOffset (info : SlaveInfo) (data : List UInt8) : Exec SlaveInfo := do
  match ← index info.sm.toList 0 with
  | some (.mailboxRx sm) => do
    let word ← siiWord data
    let sm := SyncManagerType.mailboxRx { sm with startAddress := word }
    .ok { info with sm := info.sm.set 0 (some sm) (by decide) }
  | _ => .ok info

/-- The memory for process data: before the mailboxes or behind them, where there is more. -/
def setProcessDataSmSizeOffset (info : SlaveInfo) : Exec SlaveInfo := do
  match ← index info.sm.toList 0, ← index info.sm.toList 1 with
  | some (.mailboxRx sm0), some (.mailboxTx sm1) => do
    let smStartAddress := min sm0.startAddress.toNat sm1.startAddress.toNat
    let size1 := if 0x1000 < smStartAddress then smStartAddress - 0x1000 else 0
    let end0 ← addUpTo 16 sm0.startAddress.toNat sm0.size.toNat
    let last0 ← sub end0 1
    let end1 ← addUpTo 16 sm1.startAddress.toNat sm1.size.toNat
    let last1 ← sub end1 1
    let smEndAddress := max last0 last1
    let ramSize ← mulUpTo 16 info.ramSizeKb.toNat 0x0400
    let ramLast ← sub ramSize 1
    let endAddress ← addUpTo 16 ramLast 0x1000
    let size2 := if smEndAddress < endAddress then endAddress - smEndAddress else 0
    if size2 < size1 then
      .ok { info with pdoStartAddress := some 0x1000, pdoRamSize := .ofNat size1 }
    else do
      let pdoStartAddress ← addUpTo 16 smEndAddress 1
      .ok { info with pdoStartAddress := some (.ofNat pdoStartAddress),
                      pdoRamSize := .ofNat size2 }
  | _, _ => .ok { info with pdoStartAddress := none }

/-- The word of the send mailbox's offset, if the slave has one. -/
def noteTxMailboxOffset (info : SlaveInfo) (data : List UInt8) : Exec SlaveInfo := do
  match ← index info.sm.toList 1 with
  | some (.mailboxTx sm) => do
    let word ← siiWord data
    let sm := SyncManagerType.mailboxTx { sm with startAddress := word }
    setProcessDataSmSizeOffset { info with sm := info.sm.set 1 (some sm) (by decide) }
  | _ => setProcessDataSmSizeOffset info

/-- The arm of the DL status. -/
def processDlStatus (task : SlaveInitTask) (data : List UInt8) : Exec SlaveInitTask := do
  let pdiOperational ← DlStatus.pdiOperational.getBool data
  if !pdiOperational then
    .ok { task with state := .error (.taskSpecific .failedToLoadEEPROM) }
  else do
    let info ← unwrap task.slaveInfo
    let port0 ← (DlStatus.signalDetectionPort 0).getBool data
    let port1 ← (DlStatus.signalDetectionPort 1).getBool data
    let port2 ← (DlStatus.signalDetectionPort 2).getBool data
    let port3 ← (DlStatus.signalDetectionPort 3).getBool data
    .ok { task with slaveInfo := some { info with linkedPorts := #v[port0, port1, port2, port3] },
                    state := .checkDlInfo }

/-- The physics of a port. -/
def portType (data : List UInt8) (port : ℕ) : Exec (Option PortPhysics) := do
  let physics ← (DlInformation.portType port).get data
  .ok (if physics = 0b10 then some .ebus else if physics = 0b11 then some .mii else none)

/-- The arm of the DL information. -/
def processDlInfo (task : SlaveInitTask) (data : List UInt8) : Exec SlaveInitTask := do
  let info ← unwrap task.slaveInfo
  let port0 ← portType data 0
  let port1 ← portType data 1
  let port2 ← portType data 2
  let port3 ← portType data 3
  let dcSupported ← DlInformation.dcSupported.getBool data
  let dcRange ← DlInformation.dcRange.getBool data
  Exec.assert (dcSupported = true → dcRange = true)
  let fmmuBitOperationNotSupported ← DlInformation.fmmuBitOperationNotSupported.getBool data
  let notLrwSupported ← DlInformation.notLrwSupported.getBool data
  Exec.assert (notLrwSupported = false)
  let ramSize ← DlInformation.ramSize.get data
  let numberOfFmmu ← DlInformation.numberOfSupportedFmmuEntities.get data
  let numberOfSm ← DlInformation.numberOfSupportedSmChannels.get data
  .ok { task with
        slaveInfo := some { info with
          ports := #v[port0, port1, port2, port3]
          supportDc := dcSupported
          supportFmmuBitOperation := !fmmuBitOperationNotSupported
          ramSizeKb := .ofNat ramSize
          numberOfFmmu := .ofNat numberOfFmmu
          numberOfSm := .ofNat numberOfSm }
        state := .clearFmmu 0 }

/-- The arm of the PDI control. -/
def processPdiControl (task : SlaveInitTask) (data : List UInt8) : Exec SlaveInitTask := do
  let info ← unwrap task.slaveInfo
  let strictAlControl ← PdiControl.strictAlControl.getBool data
  .ok { task with slaveInfo := some { info with strictAlControl := strictAlControl },
                  state := if info.supportDc then .clearDcActivation else .complete }

/-- A response with another command or another working counter is an error in every state. -/
def checked (task : SlaveInitTask) (recvData : Pdu) : SlaveInitTask :=
  { task with state := checkedState .error task.command 1 recvData task.state }

/-- The state machine, behind the checks of command and working counter. -/
def processState (task : SlaveInitTask) (recvData : Pdu) (sysTime : ℕ) : Exec SlaveInitTask :=
  let data := recvData.data
  match task.state with
  | .error _ => .ok task
  | .idle => .ok task
  | .complete => .ok task
  | .setLoopPort => .ok { task with state := .requestInitState true }
  | .requestInitState _ => task.processAlStateTransfer recvData sysTime
  | .resetErrorCount => .ok { task with state := .setWatchDogDivider }
  | .setWatchDogDivider => .ok { task with state := .disableDlWatchDog }
  | .disableDlWatchDog => .ok { task with state := .disableSmWatchDog }
  | .disableSmWatchDog => .ok { task with state := .checkDlStatus }
  | .checkDlStatus => task.processDlStatus data
  | .checkDlInfo => task.processDlInfo data
  | .clearFmmu count =>
    .ok { task with state := if count < 3 then .clearFmmu (count + 1) else .clearSm 0 }
  | .clearSm count =>
    .ok { task with state := if count < 4 then .clearSm (count + 1) else .getVenderID true }
  | .getVenderID _ =>
    task.processSii recvData sysTime (.getVenderID false) (.getProductCode true) noteVenderID
  | .getProductCode _ =>
    task.processSii recvData sysTime (.getProductCode false) (.getRevision true) noteProductCode
  | .getRevision _ =>
    task.processSii recvData sysTime (.getRevision false) (.getProtocol true) noteRevision
  | .getProtocol _ =>
    task.processSii recvData sysTime (.getProtocol false) (.getRxMailboxSize true) noteProtocol
  | .getRxMailboxSize _ =>
    task.processSii recvData sysTime (.getRxMailboxSize false) (.getRxMailboxOffset true)
      noteRxMailboxSize
  | .getRxMailboxOffset _ =>
    task.processSii recvData sysTime (.getRxMailboxOffset false) (.getTxMailboxSize true)
      noteRxMailboxOffset
  | .getTxMailboxSize _ =>
    task.processSii recvData sysTime (.getTxMailboxSize false) (.getTxMailboxOffset true)
      noteTxMailboxSize
  | .getTxMailboxOffset _ =>
    task.processSii recvData sysTime (.getTxMailboxOffset false) (.setSmControl 0)
      noteTxMailboxOffset
  | .setSmControl num => .ok { task with state := .setSmActivation num }
  | .setSmActivation num =>
    .ok { task with state := if 3 ≤ num then .setStationAddress else .setSmControl (num + 1) }
  | .setStationAddress => .ok { task with state := .checkPdiControl }
  | .checkPdiControl => task.processPdiControl data
  | .clearDcActivation => .ok { task with state := .clearCyclicOperationStartTime }
  | .clearCyclicOperationStartTime => .ok { task with state := .clearSync0CycleTime }
  | .clearSync0CycleTime => .ok { task with state := .clearSync1CycleTime }
  | .clearSync1CycleTime => .ok { task with state := .complete }

/-- What a response does. -/
def recieveAndProcess (task : SlaveInitTask) (recvData : Pdu) (sysTime : ℕ) :
    Exec SlaveInitTask :=
  (task.checked recvData).processState recvData sysTime

/-- The task goes on. -/
def isBusy (task : SlaveInitTask) : Bool :=
  match task.state with
  | .idle | .complete | .error _ => false
  | _ => true

/-! ## What gives the next PDU -/

/-- The inner task that a state drives, and whether it is still to be started. -/
inductive Nesting
  | none
  | alStateTransfer (isFirst : Bool)
  | sii (isFirst : Bool)

/-- The task inside that belongs to a state. -/
def State.nesting : State → Nesting
  | requestInitState isFirst => .alStateTransfer isFirst
  | getVenderID isFirst | getProductCode isFirst | getRevision isFirst | getProtocol isFirst
  | getRxMailboxSize isFirst | getRxMailboxOffset isFirst | getTxMailboxSize isFirst
  | getTxMailboxOffset isFirst => .sii isFirst
  | _ => .none

/-- The next PDU is one of the task itself or one of the inner task. -/
lemma nextPdu_cases {task task' : SlaveInitTask} {buf : List UInt8}
    {pdu : Option (Command × ℕ) × List UInt8} (h : task.nextPdu buf = .ok (pdu, task')) :
    (task.isBusy = false ∧ pdu = (none, buf) ∧ task' = task) ∨
    (task.state.nesting = .none ∧ ∃ task₁ : SlaveInitTask, task₁.state = task.state ∧
      task₁.inner = task.inner ∧ ∃ command size assignments,
        task₁.send command size assignments buf = .ok (pdu, task')) ∨
    (∃ isFirst, task.state.nesting = .alStateTransfer isFirst ∧
      task.nextAlStateTransfer isFirst buf = .ok (pdu, task')) ∨
    (∃ isFirst, task.state.nesting = .sii isFirst ∧ ∃ task₁ : SlaveInitTask,
      task₁.state = task.state ∧ (task₁.inner = task.inner ∨ task₁.inner = task.inner.intoSii) ∧
      ∃ siiAddress, task₁.nextSii isFirst siiAddress buf = .ok (pdu, task')) := by
  unfold nextPdu at h
  dsimp only at h
  split at h
  case h_1 hstate | h_2 hstate | h_3 hstate =>
    cases h
    exact .inl ⟨by rw [isBusy, hstate], rfl, rfl⟩
  case h_5 isFirst hstate => exact .inr (.inr (.inl ⟨isFirst, by rw [hstate]; rfl, h⟩))
  case h_14 isFirst hstate =>
    exact .inr (.inr (.inr ⟨isFirst, by rw [hstate]; rfl,
      { task with inner := task.inner.intoSii }, rfl, .inr rfl, _, h⟩))
  case h_15 isFirst hstate | h_16 isFirst hstate | h_17 isFirst hstate | h_18 isFirst hstate
    | h_19 isFirst hstate | h_20 isFirst hstate | h_21 isFirst hstate =>
    exact .inr (.inr (.inr ⟨isFirst, by rw [hstate]; rfl, _, rfl, .inl rfl, _, h⟩))
  case h_22 hstate | h_23 hstate =>
    obtain ⟨sm, -, h⟩ := bind_eq_ok.mp h
    exact .inr (.inl ⟨by rw [hstate]; rfl, _, rfl, rfl, _, _, _, h⟩)
  case h_24 hstate =>
    obtain ⟨addr, -, h⟩ := bind_eq_ok.mp h
    obtain ⟨info, -, h⟩ := bind_eq_ok.mp h
    exact .inr (.inl ⟨by rw [hstate]; rfl, _, by rfl, by rfl, _, _, _, h⟩)
  all_goals
    rename_i hstate
    exact .inr (.inl ⟨by rw [hstate]; rfl, _, rfl, rfl, _, _, _, h⟩)

lemma send_eq_ok {task task' : SlaveInitTask} {command : Command} {size : ℕ}
    {assignments : List (Field × ℕ)} {buf buf' : List UInt8} {pdu : Option (Command × ℕ)}
    (h : task.send command size assignments buf = .ok ((pdu, buf'), task')) :
    pdu = some (command, size) ∧ buf'.length = buf.length ∧
      task' = { task with command := command } := by
  obtain ⟨pdu', hrequest, heq⟩ := bind_eq_ok.mp h
  cases heq
  exact ⟨request_pdu hrequest, length_request hrequest, rfl⟩

lemma nextAlStateTransfer_eq_ok {task task' : SlaveInitTask} {isFirst : Bool}
    {buf buf' : List UInt8} {pdu : Option (Command × ℕ)}
    (h : task.nextAlStateTransfer isFirst buf = .ok ((pdu, buf'), task')) :
    ∃ alTransfer alTransfer', task.inner.intoAlStateTransfer = .alStateTransferTask alTransfer ∧
      AlStateTransferTask.nextPdu
        (if isFirst then alTransfer.start (.single task.slaveAddress) .init else alTransfer) buf =
          .ok ((pdu, buf'), alTransfer') ∧
      task' = { task with inner := .alStateTransferTask alTransfer' }.noteCommand pdu := by
  obtain ⟨alTransfer, hinner, h⟩ := bind_eq_ok.mp h
  obtain ⟨⟨pdu', alTransfer'⟩, hnext, heq⟩ := bind_eq_ok.mp h
  cases heq
  refine ⟨alTransfer, alTransfer', ?_, hnext, rfl⟩
  rw [unwrap_eq_ok_iff] at hinner
  rcases hinto : task.inner.intoAlStateTransfer with _ | reader | alTransfer₁
  all_goals
    rw [hinto] at hinner
    cases hinner
  rfl

lemma nextSii_eq_ok {task task' : SlaveInitTask} {isFirst : Bool} {siiAddress : UInt16}
    {buf buf' : List UInt8} {pdu : Option (Command × ℕ)}
    (h : task.nextSii isFirst siiAddress buf = .ok ((pdu, buf'), task')) :
    ∃ reader reader', task.inner = .sii reader ∧
      SiiReader.nextPdu (if isFirst then reader.start task.slaveAddress siiAddress else reader) buf =
        .ok ((pdu, buf'), reader') ∧
      task' = { task with inner := .sii reader' }.noteCommand pdu := by
  obtain ⟨reader, hinner, h⟩ := bind_eq_ok.mp h
  obtain ⟨⟨pdu', reader'⟩, hnext, heq⟩ := bind_eq_ok.mp h
  cases heq
  refine ⟨reader, reader', ?_, hnext, rfl⟩
  rw [unwrap_eq_ok_iff] at hinner
  rcases hinto : task.inner with _ | reader₁ | alTransfer
  all_goals
    rw [hinto] at hinner
    cases hinner
  rfl

instance : CyclicTask SlaveInitTask where
  nextPdu := nextPdu
  recieveAndProcess := recieveAndProcess
  isBusy := isBusy
  length_nextPdu {task task' buf buf' pdu} h := by
    rcases nextPdu_cases h with ⟨-, hpdu, -⟩ | ⟨-, task₁, -, -, command, size, assignments, hsend⟩ |
      ⟨isFirst, -, hnext⟩ | ⟨isFirst, -, task₁, -, -, siiAddress, hnext⟩
    · cases hpdu
      rfl
    · exact (send_eq_ok hsend).2.1
    · obtain ⟨alTransfer, alTransfer', -, hinner, -⟩ := nextAlStateTransfer_eq_ok hnext
      exact CyclicTask.length_nextPdu (T := AlStateTransferTask) hinner
    · obtain ⟨reader, reader', -, hinner, -⟩ := nextSii_eq_ok hnext
      exact CyclicTask.length_nextPdu (T := SiiReader) hinner

end SlaveInitTask

end EtherCat
