import EtherCat.Foundation.BitField

/-!
# Data link registers

The registers that the modelled tasks use, each with its address, its size in bytes and its
fields.
-/

namespace EtherCat

open BitField

namespace DlInformation

def address : UInt16 := 0x0000
def size : ℕ := 10
def numberOfSupportedFmmuEntities : Field := ⟨39, 32, .lsb0⟩
def numberOfSupportedSmChannels : Field := ⟨47, 40, .lsb0⟩
def ramSize : Field := ⟨55, 48, .lsb0⟩
def fmmuBitOperationNotSupported : Field := .bit 64
def dcSupported : Field := .bit 66
def dcRange : Field := .bit 67
def notLrwSupported : Field := .bit 73

/-- The two bits of byte 7 that tell the physics of a port. -/
def portType (port : ℕ) : Field := ⟨56 + 2 * port + 1, 56 + 2 * port, .lsb0⟩

end DlInformation

namespace FixedStationAddress

def address : UInt16 := 0x0010
def size : ℕ := 4
def configuredStationAddress : Field := ⟨15, 0, .lsb0⟩

end FixedStationAddress

namespace DlControl

def address : UInt16 := 0x0100
def size : ℕ := 4
def forwardingRule : Field := .bit 0
def txBufferSize : Field := ⟨18, 16, .lsb0⟩
def enableAliasAddress : Field := .bit 24

end DlControl

namespace DlStatus

def address : UInt16 := 0x0110
def size : ℕ := 2
def pdiOperational : Field := .bit 0

def signalDetectionPort (port : ℕ) : Field := .bit (9 + 2 * port)

end DlStatus

namespace RxErrorCounter

def address : UInt16 := 0x0300
def size : ℕ := 8

end RxErrorCounter

namespace WatchDogDivider

def address : UInt16 := 0x0400
def size : ℕ := 2
def watchDogDivider : Field := ⟨15, 0, .lsb0⟩

end WatchDogDivider

namespace DlUserWatchDog

def address : UInt16 := 0x0410
def size : ℕ := 2

end DlUserWatchDog

namespace SyncManagerChannelWatchDog

def address : UInt16 := 0x0420
def size : ℕ := 2

end SyncManagerChannelWatchDog

namespace SiiAccess

def address : UInt16 := 0x0500
def size : ℕ := 2
def owner : Field := .bit 0
def resetAccess : Field := .bit 1
def pdiAccessed : Field := .bit 8

end SiiAccess

namespace SiiControl

def address : UInt16 := 0x0502
def size : ℕ := 2
def readSize : Field := .bit 6
def addressAlgorithm : Field := .bit 7
def readOperation : Field := .bit 8
def writeOperation : Field := .bit 9
def reloadOperation : Field := .bit 10
def checkSumError : Field := .bit 11
def deviceInfoError : Field := .bit 12
def commandError : Field := .bit 13
def busy : Field := .bit 15

end SiiControl

namespace SiiAddress

def address : UInt16 := 0x0504
def size : ℕ := 4
def siiAddress : Field := ⟨31, 0, .lsb0⟩

end SiiAddress

namespace SiiData

def address : UInt16 := 0x0508
def size : ℕ := 8
def siiData : Field := ⟨63, 0, .lsb0⟩

end SiiData

namespace FmmuRegister

def address : UInt16 := 0x0600
def size : ℕ := 16
def logicalStartAddress : Field := ⟨31, 0, .lsb0⟩
def length : Field := ⟨47, 32, .lsb0⟩
def logicalStartBit : Field := ⟨50, 48, .lsb0⟩
def logicalEndBit : Field := ⟨58, 56, .lsb0⟩
def physicalStartAddress : Field := ⟨79, 64, .lsb0⟩
def physicalStartBit : Field := ⟨82, 80, .lsb0⟩
def readEnable : Field := .bit 88
def writeEnable : Field := .bit 89
def enable : Field := .bit 96

end FmmuRegister

namespace SyncManagerControl

def address : UInt16 := 0x0800
def size : ℕ := 5
def physicalStartAddress : Field := ⟨15, 0, .lsb0⟩
def length : Field := ⟨31, 16, .lsb0⟩
def bufferType : Field := ⟨33, 32, .lsb0⟩
def direction : Field := ⟨35, 34, .lsb0⟩
def dlsUserEventEnable : Field := .bit 37

end SyncManagerControl

namespace SyncManagerStatus

def address : UInt16 := 0x0805
def size : ℕ := 1
def isMailboxFull : Field := .bit 3

end SyncManagerStatus

namespace SyncManagerActivation

def address : UInt16 := 0x0806
def size : ℕ := 1
def channelEnable : Field := .bit 0
def repeatBit : Field := .bit 1

end SyncManagerActivation

namespace SyncManagerPdiControl

def address : UInt16 := 0x0807
def size : ℕ := 1
def repeatAck : Field := .bit 1

end SyncManagerPdiControl

namespace DcRecieveTime

def address : UInt16 := 0x0900
def size : ℕ := 16

def receiveTimePort (port : ℕ) : Field := ⟨32 * port + 31, 32 * port, .lsb0⟩

end DcRecieveTime

namespace DcSystemTime

def address : UInt16 := 0x0910
def size : ℕ := 8
def localSystemTime : Field := ⟨63, 0, .lsb0⟩

end DcSystemTime

namespace DcSystemTimeOffset

def address : UInt16 := 0x0920
def size : ℕ := 8
def systemTimeOffset : Field := ⟨63, 0, .lsb0⟩

end DcSystemTimeOffset

namespace DcSystemTimeTransmissionDelay

def address : UInt16 := 0x0928
def size : ℕ := 4
def systemTimeTransmissionDelay : Field := ⟨31, 0, .lsb0⟩

end DcSystemTimeTransmissionDelay

namespace DcSystemTimeDelta

def address : UInt16 := 0x092C
def size : ℕ := 4
def delta : Field := ⟨30, 0, .lsb0⟩

end DcSystemTimeDelta

/-! ## Addresses in the EEPROM -/

namespace Sii

def venderId : UInt16 := 8
def productCode : UInt16 := 0xA
def revisionNumber : UInt16 := 0xC
def standardRxMailboxOffset : UInt16 := 0x18
def standardRxMailboxSize : UInt16 := 0x19
def standardTxMailboxOffset : UInt16 := 0x1A
def standardTxMailboxSize : UInt16 := 0x1B
def mailboxProtocol : UInt16 := 0x1C

end Sii

end EtherCat
