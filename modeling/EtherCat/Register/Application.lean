import EtherCat.Foundation.BitField

/-!
# Application layer registers
-/

namespace EtherCat

open BitField

namespace AlControl

def address : UInt16 := 0x0120
def size : ℕ := 2
def state : Field := ⟨3, 0, .lsb0⟩
def acknowledge : Field := .bit 4

end AlControl

namespace AlStatus

def address : UInt16 := 0x0130
def size : ℕ := 6
def state : Field := ⟨3, 0, .lsb0⟩
def changeErr : Field := .bit 4
def alStatusCode : Field := ⟨47, 32, .lsb0⟩

end AlStatus

namespace PdiControl

def address : UInt16 := 0x0140
def size : ℕ := 2
def strictAlControl : Field := .bit 8

end PdiControl

namespace DcActivation

def address : UInt16 := 0x0981
def size : ℕ := 1
def cyclicOperationEnable : Field := .bit 0
def sync0Activate : Field := .bit 1
def sync1Activate : Field := .bit 2

end DcActivation

namespace CyclicOperationStartTime

def address : UInt16 := 0x0990
def size : ℕ := 4

end CyclicOperationStartTime

namespace Sync0CycleTime

def address : UInt16 := 0x09A0
def size : ℕ := 4

end Sync0CycleTime

namespace Sync1CycleTime

def address : UInt16 := 0x09A4
def size : ℕ := 4

end Sync1CycleTime

namespace LatchEdge

def size : ℕ := 2

end LatchEdge

namespace LatchEvent

def size : ℕ := 2

end LatchEvent

namespace Latch0PositiveEdgeValue

def size : ℕ := 4

end Latch0PositiveEdgeValue

namespace Latch0NegativeEdgeValue

def size : ℕ := 4

end Latch0NegativeEdgeValue

namespace Latch1PositiveEdgeValue

def size : ℕ := 4

end Latch1PositiveEdgeValue

namespace Latch1NegativeEdgeValue

def size : ℕ := 4

end Latch1NegativeEdgeValue

/-- The codes by which a slave explains an error. -/
inductive AlStatusCode
  | noError
  | unspecifiedError
  | noMemory
  | invalidRevision
  | invalidDeviceSetup
  | siiInfomationDoesNotMatchFirmware
  | firmwareUpdateNotSuccessful
  | licenceError
  | invalidRequestedStateChange
  | unknownRequestedStateChange
  | bootstrapNotSupported
  | noValidFirmware
  | invalidMailboxConfiguration
  | invalidSyncManagerConfiguration
  | noValidInputsAvailable
  | noValidOutputs
  | synchronizationError
  | syncManagerWatchdog
  | invalidSyncManagerTypes
  | invalidOutputConfiguration
  | invalidInputConfiguration
  | invalidWatchdogConfiguraion
  | slaveNeedsColdStart
  | slaveNeedsInit
  | slaveNeedsPreop
  | slaveNeedsSafeop
  | invalidInputMapping
  | invalidOutputMapping
  | inconsistentSettings
  | freerunNotSupported
  | synchronizationNotSupported
  | freerunNeeds3BufferMode
  | backgroundWatchDog
  | noValidInputsAndOutputs
  | fatalSyncError
  | noSyncError
  | cycleTimeTooSmall
  | invalidDcSyncConfiguration
  | invalidDcLatchConfiguration
  | pllError
  | dcSyncIoError
  | dcSyncTimeoutError
  | dcInvalidSyncCycleTime
  | dcSync0CycleTime
  | dcSync1CycleTime
  | mbxAoe
  | mbxEoe
  | mbxCoe
  | mbxFoe
  | mbxSoe
  | mbxVoe
  | eepromNoAccess
  | eepromError
  | externalHardwareNotReady
  | slaveRestartedLocally
  | deviceIdentificationValueUpdated
  | detectedModuleIdentListDoesNotMatch
  | supplyVoltageToolow
  | supplyVoltageYooHigh
  | temperatureTooLow
  | temperatureTooHigh
  | applocationControllerAvailable
  | undefinedError
  deriving DecidableEq, Repr

namespace AlStatusCode

/-- The discriminants. -/
def discriminants : List (UInt16 × AlStatusCode) :=
  [(0x0000, noError), (0x0001, unspecifiedError), (0x0002, noMemory), (0x0004, invalidRevision),
    (0x0003, invalidDeviceSetup), (0x0006, siiInfomationDoesNotMatchFirmware),
    (0x0007, firmwareUpdateNotSuccessful), (0x000E, licenceError),
    (0x0011, invalidRequestedStateChange), (0x0012, unknownRequestedStateChange),
    (0x0013, bootstrapNotSupported), (0x0014, noValidFirmware),
    (0x0015, invalidMailboxConfiguration), (0x0017, invalidSyncManagerConfiguration),
    (0x0018, noValidInputsAvailable), (0x0019, noValidOutputs), (0x001A, synchronizationError),
    (0x001B, syncManagerWatchdog), (0x001C, invalidSyncManagerTypes),
    (0x001D, invalidOutputConfiguration), (0x001E, invalidInputConfiguration),
    (0x001F, invalidWatchdogConfiguraion), (0x0020, slaveNeedsColdStart),
    (0x0021, slaveNeedsInit), (0x0022, slaveNeedsPreop), (0x0023, slaveNeedsSafeop),
    (0x0024, invalidInputMapping), (0x0025, invalidOutputMapping), (0x0026, inconsistentSettings),
    (0x0027, freerunNotSupported), (0x0028, synchronizationNotSupported),
    (0x0029, freerunNeeds3BufferMode), (0x002A, backgroundWatchDog),
    (0x002B, noValidInputsAndOutputs), (0x002C, fatalSyncError), (0x002D, noSyncError),
    (0x002E, cycleTimeTooSmall), (0x0030, invalidDcSyncConfiguration),
    (0x0031, invalidDcLatchConfiguration), (0x0032, pllError), (0x0033, dcSyncIoError),
    (0x0034, dcSyncTimeoutError), (0x0035, dcInvalidSyncCycleTime), (0x0036, dcSync0CycleTime),
    (0x0037, dcSync1CycleTime), (0x0041, mbxAoe), (0x0042, mbxEoe), (0x0043, mbxCoe),
    (0x0044, mbxFoe), (0x0045, mbxSoe), (0x004F, mbxVoe), (0x0050, eepromNoAccess),
    (0x0051, eepromError), (0x0052, externalHardwareNotReady), (0x0060, slaveRestartedLocally),
    (0x0061, deviceIdentificationValueUpdated), (0x0070, detectedModuleIdentListDoesNotMatch),
    (0x0080, supplyVoltageToolow), (0x0081, supplyVoltageYooHigh), (0x0082, temperatureTooLow),
    (0x0083, temperatureTooHigh), (0x00F0, applocationControllerAvailable),
    (0x00F1, undefinedError)]

/-- The listed code with this number. -/
def tryFrom (code : UInt16) : Option AlStatusCode :=
  (discriminants.find? fun d => d.1 = code).map Prod.snd

end AlStatusCode

end EtherCat
