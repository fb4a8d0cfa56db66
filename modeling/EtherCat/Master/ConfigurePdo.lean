import EtherCat.Master.SlaveAccess
import EtherCat.Register.Datalink
import EtherCat.Register.ObjectDictionary

/-!
# Configuration for operation: process data objects and sync managers

The mappings of the user are written to the object dictionaries of the slaves
(`set_pdo_config_to_od`).  Then the dictionaries are read to find out how much process data there
is, and the sync managers are set up for it (`set_pdo_to_sm`).
-/

namespace EtherCat

open Rust Rust.Exec BitField Configure

/-! ## Writing the object dictionary -/

/-- The entry as the object dictionary stores it. -/
def PdoEntry.odPdoEntry (entry : PdoEntry) : Exec (List UInt8) :=
  Field.setAll (List.replicate OdPdoEntry.size 0)
    [(OdPdoEntry.index, entry.index.toNat), (OdPdoEntry.subIndex, entry.subIndex.toNat),
      (OdPdoEntry.bitLength, entry.bitLength.toNat)]

/-- The loop over the entries of a mapping; `entryIndex` counts those that were written. -/
def writeEntries (pdoMapIndex : UInt16) : List PdoEntry → ℕ → Configure Slave ℕ
  | [], entryIndex => pure entryIndex
  | entry :: entries, entryIndex => do
    let odPdoEntry ← .ofExec entry.odPdoEntry
    let entryIndex ← .ofExec (addUpTo 8 entryIndex 1)
    writeSdo .assignPdoEntryToPdoMap pdoMapIndex (.ofNat entryIndex) odPdoEntry
    writeEntries pdoMapIndex entries entryIndex

/-- The body of the loop over the mappings, for a mapping with entries. -/
def writeMapping (smAssign : UInt16) (mapIndex : ℕ) (pdoMap : PdoMapping) :
    Configure Slave Unit := do
  writeSdo .assignPdoMapToSyncManager smAssign (.ofNat mapIndex) (toLeBytes 2 pdoMap.index.toNat)
  if pdoMap.isFixed then
    pure ()
  else do
    writeSdo .clearPdoEntries pdoMap.index 0 [0]
    let entryIndex ← writeEntries pdoMap.index pdoMap.entries 0
    writeSdo .setNumberOfPdoEntries pdoMap.index 0 [.ofNat entryIndex]

/-- The loop over the mappings; `mapIndex` counts those that were assigned. -/
def writeMappings (smAssign : UInt16) : List PdoMapping → ℕ → Configure Slave ℕ
  | [], mapIndex => pure mapIndex
  | pdoMap :: pdoMappings, mapIndex =>
    if pdoMap.entries.isEmpty then
      writeMappings smAssign pdoMappings mapIndex
    else do
      let mapIndex ← .ofExec (addUpTo 8 mapIndex 1)
      writeMapping smAssign mapIndex pdoMap
      writeMappings smAssign pdoMappings mapIndex

/-- The PDO configuration of one direction goes into the dictionary of the slave. -/
def setPdoConfigToOdUtility (slaveConfig : SlaveConfig) (isOutput : Bool) :
    Configure Slave Unit := do
  let slave ← .get
  let (pdoMappings, smNumber) :=
    if isOutput then (slaveConfig.outputPdoMappings, slave.info.processDataRxSmNumber)
    else (slaveConfig.inputPdoMappings, slave.info.processDataTxSmNumber)
  match smNumber with
  | none => pure ()
  | some smNumber => do
    let smAssign := 0x1C10 + smNumber.toUInt16
    writeSdo .clearPdoMappings smAssign 0 [0]
    let mapIndex ← writeMappings smAssign pdoMappings 0
    writeSdo .setNumberOfPdoMappings smAssign 0 [.ofNat mapIndex]

/-- The body of the loop of `set_pdo_config_to_od`. -/
def setPdoConfigToOdSlave (slaveConfig : SlaveConfig) : Configure Slave Unit := do
  setPdoConfigToOdUtility slaveConfig true
  setPdoConfigToOdUtility slaveConfig false

/-- And of all slaves. -/
def setPdoConfigToOd : Configure Network Unit := forSlaves setPdoConfigToOdSlave

/-! ## Reading it and setting up the sync managers -/

/-- The loop over the entries of a mapping: the bits so far and those of the entries. -/
def readEntries (mapAddress : UInt16) : List ℕ → ℕ → Configure Slave ℕ
  | [], pdoMapBitLength => pure pdoMapBitLength
  | entryIndex :: indices, pdoMapBitLength => do
    let entry ← readSdo .getPdoEntrtyAddress mapAddress (.ofNat entryIndex)
    let bitLength ← .ofExec (OdPdoEntry.bitLength.get entry)
    let pdoMapBitLength ← .ofExec (addUpTo 32 pdoMapBitLength bitLength)
    readEntries mapAddress indices pdoMapBitLength

/-- The loop over the mappings of a sync manager. -/
def readMappings (smAssign : UInt16) : List ℕ → ℕ → Configure Slave ℕ
  | [], pdoMapBitLength => pure pdoMapBitLength
  | mapIndex :: indices, pdoMapBitLength => do
    let mapAddress ← readSdo .getPdoMappingAddress smAssign (.ofNat mapIndex)
    let byte0 ← .ofExec (index mapAddress 0)
    let byte1 ← .ofExec (index mapAddress 1)
    let mapAddress := UInt16.ofNat (fromLeBytes [byte0, byte1])
    let numEntry ← readSdo .getNumberOfPdoEntries mapAddress 0
    let numEntry ← .ofExec (index numEntry 0)
    let pdoMapBitLength ←
      readEntries mapAddress (List.range' 1 numEntry.toNat) pdoMapBitLength
    readMappings smAssign indices pdoMapBitLength

/-- The type that a sync manager with process data of a direction has. -/
def Direction.smType : Direction → UInt8
  | .output => 3
  | .input => 4

/-- Whether the sync manager has no process data. -/
def readSmType (direction : Direction) (smNumber : UInt8) : Configure Slave Bool := do
  let smType ← readSdo .getSyncManagerCommunicationType 0x1C00 (smNumber + 1)
  let smType ← .ofExec (index smType 0)
  if smType = 0 then pure true
  else if smType = direction.smType then pure false
  else .ofExec (.error .explicit)

/-- The number of bits that the object dictionary maps to a sync manager. -/
def readBitLength (direction : Direction) (smNumber : UInt8) : Configure Slave ℕ := do
  let isPdoMapNone ← readSmType direction smNumber
  if isPdoMapNone then
    pure 0
  else do
    let smAssign := 0x1C10 + smNumber.toUInt16
    let numMaps ← readSdo .getNumberOfPdoMappings smAssign 0
    let numMaps ← .ofExec (index numMaps 0)
    readMappings smAssign (List.range' 1 numMaps.toNat) 0

/-- The bytes that hold a number of bits. -/
def bytesOfBits (bits : ℕ) : ℕ := if bits % 8 = 0 then bits / 8 else bits / 8 + 1

/-- The slot of `fmmu` for a direction. -/
def Direction.fmmuSlot : Direction → Fin 3
  | .output => 0
  | .input => 1

/-- The FMMU of a slot. -/
def Slave.setFmmu (slave : Slave) (slot : Fin 3) (fmmu : FmmuConfig) : Slave :=
  { slave with fmmu := slave.fmmu.set slot.val (some fmmu) slot.isLt }

@[simp] lemma Slave.info_setFmmu (slave : Slave) (slot : Fin 3) (fmmu : FmmuConfig) :
    (slave.setFmmu slot fmmu).info = slave.info := rfl

@[simp] lemma Slave.get_setFmmu (slave : Slave) (slot i : Fin 3) (fmmu : FmmuConfig) :
    (slave.setFmmu slot fmmu).fmmu.get i = if slot = i then some fmmu else slave.fmmu.get i := by
  change (slave.fmmu.set slot.val (some fmmu))[i.val] = if slot = i then _ else slave.fmmu[i.val]
  rw [Vector.getElem_set]
  simp only [Fin.ext_iff]

/-- The registers of a sync manager for process data. -/
def writeProcessDataSm (direction : Direction) (smNumber : UInt8) (startRamAddress size : UInt16) :
    Configure Slave Unit := do
  let smControl ← .ofExec (Field.setAll (List.replicate SyncManagerControl.size 0)
    [(SyncManagerControl.physicalStartAddress, startRamAddress.toNat),
      (SyncManagerControl.length, size.toNat), (SyncManagerControl.bufferType, 0b00),
      (SyncManagerControl.direction, if direction = .output then 1 else 0),
      (SyncManagerControl.dlsUserEventEnable, 1)])
  writeRegisterUnwrap (SyncManagerControl.address + 0x08 * smNumber.toUInt16) smControl
  let smActive ← .ofExec (Field.setAll (List.replicate SyncManagerActivation.size 0)
    [(SyncManagerActivation.channelEnable, if size ≠ 0 then 1 else 0),
      (SyncManagerActivation.repeatBit, 0)])
  writeRegisterUnwrap (SyncManagerActivation.address + 0x08 * smNumber.toUInt16) smActive

/-- The address behind the buffers of the direction, of which there are three. -/
def setPdoToSmUtility (direction : Direction) (startRamAddress : UInt16) :
    Configure Slave UInt16 := do
  let numSmComm ← readSdo .getNumberOfSyncManagerChannel 0x1C00 0
  let numSmComm ← .ofExec (index numSmComm 0)
  .ofExec (assert (4 ≤ numSmComm))
  let slave ← .get
  let smNumber := match direction with
    | .output => slave.info.processDataRxSmNumber
    | .input => slave.info.processDataTxSmNumber
  match smNumber with
  | none => pure startRamAddress
  | some smNumber => do
    let pdoMapBitLength ← readBitLength direction smNumber
    -- `as u16`
    let size := UInt16.ofNat (bytesOfBits pdoMapBitLength)
    writeProcessDataSm direction smNumber startRamAddress size
    let bitLength ← .ofExec (mulUpTo 16 size.toNat 8)
    .modify fun slave =>
      slave.setFmmu direction.fmmuSlot (.new startRamAddress (.ofNat bitLength) direction)
    let ramSize ← .ofExec (mulUpTo 16 size.toNat 3)
    let nextRamAddress ← .ofExec (addUpTo 16 startRamAddress.toNat ramSize)
    pure (.ofNat nextRamAddress)

/-- The body of the loop of `set_pdo_to_sm`. -/
def setPdoToSmSlave (_slaveConfig : SlaveConfig) : Configure Slave Unit := do
  let slave ← .get
  match slave.info.pdoStartAddress with
  | none => pure ()
  | some ramAddress => do
    let nextRamAddress ← setPdoToSmUtility .output ramAddress
    let _ ← setPdoToSmUtility .input nextRamAddress
    pure ()

/-- The sync managers of all slaves are set up for what their dictionaries say. -/
def setPdoToSm : Configure Network Unit := forSlaves setPdoToSmSlave

end EtherCat
