import EtherCat.Slave.Config
import EtherCat.Task.Error
import EtherCat.Task.SdoError

/-!
# Errors of the configuration

An error names the slave, what the master was about to do, and the object or the register that it
accessed.
-/

namespace EtherCat

/-- An SDO transfer of this object has failed. -/
structure SdoError where
  index : UInt16
  subIndex : UInt8
  error : TaskError SdoErrorKind
  deriving DecidableEq, Repr

/-- An access to this register has failed. -/
structure RegisterError where
  address : UInt16
  error : TaskError Unit
  deriving DecidableEq, Repr

/-- What the configuration was doing when it failed. -/
inductive ConfigErrorKind
  | setFmmuRegister (error : RegisterError)
  | getSyncManagerCycleTime (error : SdoError)
  | setSyncManagerSyncType (error : SdoError)
  | getSyncManagerSyncType (error : SdoError)
  | syncModeNotSupported (mode : SyncMode)
  | getMinimumCycleTime (error : SdoError)
  | cycleTimeTooSmall (minimum : UInt32)
  | setSyncManagerCycleTime (error : SdoError)
  | resetSyncError (error : SdoError)
  | setSync0CycleTime (error : RegisterError)
  | setSync1CycleTime (error : RegisterError)
  | setSyncSignalStartTime (error : RegisterError)
  | activateDc (error : RegisterError)
  | clearPdoMappings (error : SdoError)
  | assignPdoMapToSyncManager (error : SdoError)
  | clearPdoEntries (error : SdoError)
  | assignPdoEntryToPdoMap (error : SdoError)
  | setNumberOfPdoMappings (error : SdoError)
  | getNumberOfPdoMappings (error : SdoError)
  | getPdoMappingAddress (error : SdoError)
  | setNumberOfPdoEntries (error : SdoError)
  | getNumberOfPdoEntries (error : SdoError)
  | getPdoEntrtyAddress (error : SdoError)
  | getNumberOfSyncManagerChannel (error : SdoError)
  | getSyncManagerCommunicationType (error : SdoError)
  deriving DecidableEq, Repr

/-- The configuration of a slave has failed. -/
structure ConfigError where
  slaveAddress : SlaveAddress
  kind : ConfigErrorKind
  deriving DecidableEq, Repr

end EtherCat
