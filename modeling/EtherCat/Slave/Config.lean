import EtherCat.Slave.Slave

/-!
# The user's configuration of a slave

The process data objects of a slave, grouped into mappings, one list for each direction, and how
its cycle is synchronised.
-/

namespace EtherCat

/-- An entry of the process data: an object of the slave, and where it lies in the image. -/
structure PdoEntry where
  logicalBits : LogicalBits
  index : UInt16
  subIndex : UInt8
  deriving DecidableEq, Repr

namespace PdoEntry

/-- An entry without a place. -/
def new (index : UInt16) (subIndex bitLength : UInt8) : PdoEntry where
  logicalBits := LogicalBits.new.setBitLength bitLength.toUInt16
  index := index
  subIndex := subIndex

/-- Where the entry lies. -/
def logicalAddress (entry : PdoEntry) : Option UInt32 := entry.logicalBits.logicalAddress

/-- A new place for the entry. -/
def setLogicalAddress (entry : PdoEntry) (logicalAddress : Option UInt32) : PdoEntry :=
  { entry with logicalBits := entry.logicalBits.setLogicalAddress logicalAddress }

/-- The first bit of the entry in its first byte. -/
def startBit (entry : PdoEntry) : UInt8 := entry.logicalBits.startBit

/-- A new first bit. -/
def setStartBit (entry : PdoEntry) (startBit : UInt8) : PdoEntry :=
  { entry with logicalBits := entry.logicalBits.setStartBit startBit }

/-- The length as a byte: `as u8` of the 16-bit length. -/
def bitLength (entry : PdoEntry) : UInt8 := entry.logicalBits.bitLength.toUInt8

end PdoEntry

/-- A PDO of a slave: its entries, and whether the slave fixes them. -/
structure PdoMapping where
  isFixed : Bool
  index : UInt16
  entries : List PdoEntry
  deriving DecidableEq, Repr

/-- What the application of a slave is synchronised with. -/
inductive SyncMode
  | freeRun
  | syncManagerEvent
  | sync0Event
  | sync1Event
  deriving DecidableEq, Repr

/-- `as u8`: the discriminant. -/
def SyncMode.toU8 : SyncMode → UInt8
  | freeRun => 0x00
  | syncManagerEvent => 0x01
  | sync0Event => 0x02
  | sync1Event => 0x03

/-- The cycle time of a slave: its own, or a given one. -/
inductive CycleTime
  | defaultValue
  | specifiedValue (timeNs : UInt32)
  deriving DecidableEq, Repr

/-- What the application wants of a slave. -/
structure SlaveConfig where
  inputPdoMappings : List PdoMapping
  outputPdoMappings : List PdoMapping
  syncMode : SyncMode := .freeRun
  cycleTimeNs : CycleTime := .defaultValue
  deriving DecidableEq, Repr

namespace SlaveConfig

/-- `SlaveConfig::default()`. -/
def default : SlaveConfig where
  inputPdoMappings := []
  outputPdoMappings := []

/-- The mappings of the FMMU slot `i`: 0 holds the outputs, 1 the inputs. -/
def mappings (config : SlaveConfig) (i : ℕ) : List PdoMapping :=
  if i = 0 then config.outputPdoMappings else config.inputPdoMappings

/-- The mappings of one direction, the outputs first. -/
def setMappings (config : SlaveConfig) (i : ℕ) (mappings : List PdoMapping) : SlaveConfig :=
  if i = 0 then { config with outputPdoMappings := mappings }
  else { config with inputPdoMappings := mappings }

/-- The entries of all mappings of a direction, in order. -/
def entries (config : SlaveConfig) (i : ℕ) : List PdoEntry :=
  (config.mappings i).flatMap PdoMapping.entries

end SlaveConfig

end EtherCat
