import EtherCat.Master.ConfigurePdo
import EtherCat.Register.Application

/-!
# Configuration for operation: synchronisation

For every slave with an object dictionary the sync managers with process data get the user's
synchronisation mode and cycle time, and the signals of the distributed clock are started.
-/

namespace EtherCat

open Rust Rust.Exec BitField Configure

/-- The bit of the supported synchronisation types that stands for a mode. -/
def SyncMode.supportBit : SyncMode → ℕ
  | .freeRun => 0
  | .syncManagerEvent => 1
  | .sync0Event => 2
  | .sync1Event => 3

/-- The cycle time: the user's, or the one in the object dictionary.  Its last byte is read from
the fifth byte of the answer. -/
def getCycleTime (config : SlaveConfig) (addr : UInt16) : Configure Slave UInt32 :=
  match config.cycleTimeNs with
  | .specifiedValue time => pure time
  | .defaultValue => do
    let time ← readSdo .getSyncManagerCycleTime addr 2
    let byte0 ← .ofExec (index time 0)
    let byte1 ← .ofExec (index time 1)
    let byte2 ← .ofExec (index time 2)
    let byte4 ← .ofExec (index time 4)
    pure (.ofNat (fromLeBytes [byte0, byte1, byte2, byte4]))

/-- The minimum cycle time of an object. -/
def getMinimumCycleTime (addr : UInt16) : Configure Slave UInt32 := do
  let time ← readSdo .getMinimumCycleTime addr 5
  let byte0 ← .ofExec (index time 0)
  let byte1 ← .ofExec (index time 1)
  let byte2 ← .ofExec (index time 2)
  let byte3 ← .ofExec (index time 3)
  pure (.ofNat (fromLeBytes [byte0, byte1, byte2, byte3]))

/-- The mode is supported and the cycle time is long enough. -/
def checkSyncMode (config : SlaveConfig) (addr : UInt16) (cycleTimeNs : UInt32) :
    Configure Slave Unit := do
  let slave ← .get
  let supportSyncType ← readSdo .getSyncManagerSyncType addr 4
  let supportSyncType ← .ofExec (index supportSyncType 0)
  if !supportSyncType.toNat.testBit config.syncMode.supportBit then
    .throw ⟨slave.info.slaveAddress, .syncModeNotSupported config.syncMode⟩
  else do
    let minCycleTimeNs ← getMinimumCycleTime addr
    if cycleTimeNs < minCycleTimeNs then
      .throw ⟨slave.info.slaveAddress, .cycleTimeTooSmall minCycleTimeNs⟩
    else
      pure ()

/-- The mode and the cycle time are written, and the error counters are reset. -/
def setSyncManagerMode (config : SlaveConfig) (addr : UInt16) (cycleTimeNs : UInt32) :
    Configure Slave Unit := do
  writeSdo .setSyncManagerSyncType addr 1 [config.syncMode.toU8, 0]
  match config.cycleTimeNs with
  | .specifiedValue _ => writeSdo .setSyncManagerCycleTime addr 2 (toLeBytes 4 cycleTimeNs.toNat)
  | .defaultValue => pure ()
  match config.syncMode with
  | .freeRun => pure ()
  | _ => writeSdo .resetSyncError addr 8 [1, 0]

/-- The sync manager with the process data of a direction: its cycle time, or zero if it has no
process data. -/
def configureSyncManager (config : SlaveConfig) (direction : Direction)
    (smNumber : Option UInt8) : Configure Slave UInt32 := do
  let smNumber ← .ofExec (unwrap smNumber)
  let isPdoMapNone ← readSmType direction smNumber
  if isPdoMapNone then
    pure 0
  else do
    let addr := 0x1C30 + smNumber.toUInt16
    let cycleTimeNs ← getCycleTime config addr
    checkSyncMode config addr cycleTimeNs
    setSyncManagerMode config addr cycleTimeNs
    pure cycleTimeNs

/-- The loop that waits until the clock has passed the start time, `polls` times at most. -/
def waitForStart (startTime : ℕ) : ℕ → Configure Slave Unit
  | 0 => .cut
  | polls + 1 => do
    let sysTime ←
      readRegister .setSyncSignalStartTime DcSystemTime.address DcSystemTime.address
        DcSystemTime.size
    let sysTime ← .ofExec (DcSystemTime.localSystemTime.get sysTime)
    if startTime < sysTime then pure () else waitForStart startTime polls

/-- The cyclic operation of the clock is enabled in the modes that use its signals. -/
def dcActivation (mode : SyncMode) : Exec (List UInt8) :=
  let activate := if mode = .sync0Event ∨ mode = .sync1Event then 1 else 0
  Field.setAll (List.replicate DcActivation.size 0)
    [(DcActivation.cyclicOperationEnable, activate), (DcActivation.sync0Activate, activate),
      (DcActivation.sync1Activate, activate)]

/-- The registers of the distributed clock. -/
def startSyncSignal (polls : ℕ) (config : SlaveConfig) (cycleTimeNs : UInt32) :
    Configure Slave Unit := do
  writeRegister .setSync0CycleTime Sync0CycleTime.address (toLeBytes 4 cycleTimeNs.toNat)
  writeRegister .setSync1CycleTime Sync1CycleTime.address (toLeBytes 4 (cycleTimeNs >>> 1).toNat)
  let sysTime ←
    readRegister .setSyncSignalStartTime DcSystemTime.address DcSystemTime.address
      DcSystemTime.size
  let sysTime ← .ofExec (DcSystemTime.localSystemTime.get sysTime)
  let startTime ← .ofExec (addUpTo 64 sysTime 10000000)
  writeRegister .setSyncSignalStartTime CyclicOperationStartTime.address (toLeBytes 8 startTime)
  let activation ← .ofExec (dcActivation config.syncMode)
  writeRegister .activateDc DcActivation.address activation
  let startTime ←
    readRegister .setSyncSignalStartTime DcSystemTime.address CyclicOperationStartTime.address
      DcSystemTime.size
  let startTime ← .ofExec (DcSystemTime.localSystemTime.get startTime)
  waitForStart startTime polls

/-- The body of the loop of `configure_sync_mode`. -/
def configureSyncModeSlave (polls : ℕ) (config : SlaveConfig) : Configure Slave Unit := do
  let slave ← .get
  if slave.info.supportCoe then do
    let rxCycleTimeNs ←
      configureSyncManager config .output slave.info.processDataRxSmNumber
    let txCycleTimeNs ←
      configureSyncManager config .input slave.info.processDataTxSmNumber
    match config.syncMode with
    | .freeRun => pure ()
    | _ => writeSdo .resetSyncError 0x10F1 2 [0x9, 0]
    let cycleTimeNs := match config.cycleTimeNs with
      | .defaultValue => max rxCycleTimeNs txCycleTimeNs
      | .specifiedValue time => time
    startSyncSignal polls config cycleTimeNs
  else
    pure ()

/-- The synchronisation of all slaves. -/
def configureSyncMode (polls : ℕ) : Configure Network Unit :=
  forSlaves (configureSyncModeSlave polls)

end EtherCat
