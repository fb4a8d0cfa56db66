import EtherCat.Interface.Command
import EtherCat.Slave.LogicalBits

/-!
# Slaves

What the master knows about one slave: the facts read from its registers and EEPROM, its FMMU
configuration, the counter of its mailbox messages and the working data of the distributed
clock setup.
-/

namespace EtherCat

open Rust

/-- The states of a slave's application layer. -/
inductive AlState
  | init
  | preOperational
  | bootstrap
  | safeOperational
  | operational
  | invalidOrMixed
  deriving DecidableEq, Repr

namespace AlState

/-- `as u8`: the discriminant. -/
def toU8 : AlState → UInt8
  | init => 0x1
  | preOperational => 0x2
  | bootstrap => 0x3
  | safeOperational => 0x4
  | operational => 0x8
  | invalidOrMixed => 0x9

/-- The state of a code. A code that is none stands for slaves in different states. -/
def ofU8 (v : UInt8) : AlState :=
  if v = init.toU8 then init
  else if v = preOperational.toU8 then preOperational
  else if v = bootstrap.toU8 then bootstrap
  else if v = safeOperational.toU8 then safeOperational
  else if v = operational.toU8 then operational
  else invalidOrMixed

end AlState

/-- The sync manager of a mailbox. -/
structure SyncManager where
  number : UInt8
  size : UInt16
  startAddress : UInt16
  deriving DecidableEq, Repr

/-- The uses of a sync manager. -/
inductive SyncManagerType
  | mailboxRx (sm : SyncManager)
  | mailboxTx (sm : SyncManager)
  | processDataRx
  | processDataTx
  deriving DecidableEq, Repr

/-- The direction of process data, as the master sees it. -/
inductive Direction
  | input
  | output
  deriving DecidableEq, Repr

/-- What an FMMU maps: bits of the image to a memory of the slave. -/
structure FmmuConfig where
  logicalBits : LogicalBits
  physicalAddress : UInt16
  direction : Direction
  deriving DecidableEq, Repr

namespace FmmuConfig

/-- An FMMU without a logical address. -/
def new (physicalAddress bitLength : UInt16) (direction : Direction) : FmmuConfig where
  logicalBits := LogicalBits.new.setBitLength bitLength
  physicalAddress := physicalAddress
  direction := direction

/-- The logical address. -/
def logicalAddress (fmmu : FmmuConfig) : Option UInt32 := fmmu.logicalBits.logicalAddress

/-- The first bit. -/
def startBit (fmmu : FmmuConfig) : UInt8 := fmmu.logicalBits.startBit

/-- The number of bits. -/
def bitLength (fmmu : FmmuConfig) : UInt16 := fmmu.logicalBits.bitLength

/-- Another logical address. -/
def setLogicalAddress (fmmu : FmmuConfig) (logicalAddress : Option UInt32) : FmmuConfig :=
  { fmmu with logicalBits := fmmu.logicalBits.setLogicalAddress logicalAddress }

/-- Another first bit. -/
def setStartBit (fmmu : FmmuConfig) (startBit : UInt8) : FmmuConfig :=
  { fmmu with logicalBits := fmmu.logicalBits.setStartBit startBit }

/-- The number of bytes that have some of the bits. -/
def byteLength (fmmu : FmmuConfig) : Exec ℕ := fmmu.logicalBits.byteLength

/-- The last bit in its byte. -/
def endBit (fmmu : FmmuConfig) : Exec ℕ := fmmu.logicalBits.endBit

end FmmuConfig

/-- What the setup of the clocks knows of a slave. -/
structure DcContext where
  parentPort : Option (ℕ × ℕ)
  currentPort : ℕ
  latchedLocalSysTime : UInt64
  recievedPortTime : Vector UInt32 4
  delay : UInt32
  offset : UInt64
  deriving DecidableEq, Repr

/-- `Default::default()`. -/
def DcContext.default : DcContext where
  parentPort := none
  currentPort := 0
  latchedLocalSysTime := 0
  recievedPortTime := Vector.replicate 4 0
  delay := 0
  offset := 0

/-- The identity of a slave. -/
structure SlaveId where
  venderId : UInt16
  productCode : UInt16
  revisionNumber : UInt16
  deriving DecidableEq, Repr

/-- The physics of a port. -/
inductive PortPhysics
  | mii
  | ebus
  deriving DecidableEq, Repr

/-- The builder of the source has the same fields, so that this type serves for both. -/
structure SlaveInfo where
  configuredAddress : UInt16
  linkedPorts : Vector Bool 4
  sm : Vector (Option SyncManagerType) 4
  supportDc : Bool
  supportCoe : Bool
  id : SlaveId := ⟨0, 0, 0⟩
  ports : Vector (Option PortPhysics) 4 := Vector.replicate 4 none
  ramSizeKb : UInt8 := 0
  numberOfFmmu : UInt8 := 0
  numberOfSm : UInt8 := 0
  pdoStartAddress : Option UInt16 := none
  pdoRamSize : UInt16 := 0
  supportFmmuBitOperation : Bool := false
  strictAlControl : Bool := false
  deriving DecidableEq, Repr

/-- `SlaveInfo::default()`. -/
def SlaveInfo.default : SlaveInfo where
  configuredAddress := 0
  linkedPorts := Vector.replicate 4 false
  sm := Vector.replicate 4 none
  supportDc := false
  supportCoe := false

namespace SlaveInfo

/-- The slave is addressed by its station address. -/
def slaveAddress (info : SlaveInfo) : SlaveAddress := .stationAddress info.configuredAddress

/-- The first sync manager that is for the receive mailbox. -/
def mailboxRxSm (info : SlaveInfo) : Option SyncManager :=
  info.sm.toList.findSome? fun
    | some (.mailboxRx sm) => some sm
    | _ => none

/-- The first sync manager that is for the send mailbox. -/
def mailboxTxSm (info : SlaveInfo) : Option SyncManager :=
  info.sm.toList.findSome? fun
    | some (.mailboxTx sm) => some sm
    | _ => none

/-- The first sync manager with process data for the slave. -/
def processDataRxSmNumber (info : SlaveInfo) : Option UInt8 :=
  (info.sm.toList.findIdx? (· = some .processDataRx)).map UInt8.ofNat

/-- The first sync manager with process data of the slave. -/
def processDataTxSmNumber (info : SlaveInfo) : Option UInt8 :=
  (info.sm.toList.findIdx? (· = some .processDataTx)).map UInt8.ofNat

end SlaveInfo

/-- The slots of `fmmu` are numbered by literals. -/
instance neZero_fmmuSlots : NeZero 3 := ⟨by decide⟩

/-- The slots of `fmmu` are: outputs, inputs, mailbox state. -/
structure Slave where
  info : SlaveInfo
  fmmu : Vector (Option FmmuConfig) 3
  alState : AlState
  mailboxCount : UInt8
  dcContext : DcContext
  deriving DecidableEq, Repr

namespace Slave

/-- `Slave::default()`. -/
def default : Slave where
  info := .default
  fmmu := Vector.replicate 3 none
  alState := .invalidOrMixed
  mailboxCount := 0
  dcContext := .default

/-- The count of the next mailbox message and the slave that has counted it. -/
def incrementMbCount (slave : Slave) : UInt8 × Slave :=
  let count := if slave.mailboxCount < 7 then slave.mailboxCount + 1 else 1
  (count, { slave with mailboxCount := count })

end Slave

end EtherCat
