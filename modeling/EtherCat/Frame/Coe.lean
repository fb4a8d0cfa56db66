import EtherCat.Foundation.BitField

/-!
# CANopen over EtherCAT

The header of a CoE message, the header of an SDO in it, and the codes an SDO abort and an
emergency message carry.  The bit ranges are those of the header declarations.
-/

namespace EtherCat

open Rust BitField

/-- `from_le_bytes`: bit `k` of the number is bit `k` of the bytes. -/
def fromLeBytes (bytes : List UInt8) : ℕ :=
  Nat.ofBits (fun k : Fin (8 * bytes.length) => bitAt bytes k)

example : fromLeBytes [0x78, 0x9A, 0, 1] = 0x01009A78 := by decide +kernel

/-- `to_le_bytes` of a number with `n` bytes. -/
def toLeBytes (n v : ℕ) : List UInt8 := (List.range n).map fun i => .ofNat (v >>> (8 * i))

@[simp] lemma length_toLeBytes (n v : ℕ) : (toLeBytes n v).length = n := by simp [toLeBytes]

lemma fromLeBytes_toLeBytes (n v : ℕ) : fromLeBytes (toLeBytes n v) = v % 2 ^ (8 * n) := by
  apply Nat.eq_of_testBit_eq
  intro k
  rw [fromLeBytes, Nat.testBit_ofBits, Nat.testBit_mod_two_pow, length_toLeBytes]
  by_cases hk : k < 8 * n
  · have hbyte : k / 8 < n := by omega
    have hsum : 8 * (k / 8) + k % 8 = k := by omega
    have hbit : (UInt8.ofNat (v >>> (8 * (k / 8)))).toBitVec.getLsbD (k % 8) = v.testBit k := by
      rw [show (UInt8.ofNat (v >>> (8 * (k / 8)))).toBitVec = BitVec.ofNat 8 _ from rfl,
        BitVec.getLsbD_ofNat, Nat.testBit_shiftRight, hsum]
      simp [Nat.mod_lt]
    simp only [hk, decide_true, Bool.true_and, dite_true]
    rw [← hbit, bitAt, List.getD_eq_getElem?_getD, toLeBytes, List.getElem?_map,
      List.getElem?_range hbyte]
    rfl
  · simp [hk]

/-- The services of CoE. -/
inductive CoeServiceType
  | emmergency | sdoReq | sdoRes | txPdo | rxPdo | txPdoRemoteReq | rxPdoRemoteReq | sdoInfo
  | other
  deriving DecidableEq, Repr

namespace CoeServiceType

/-- The code of a service. -/
def toU8 : CoeServiceType → UInt8
  | emmergency => 1 | sdoReq => 2 | sdoRes => 3 | txPdo => 4 | rxPdo => 5 | txPdoRemoteReq => 6
  | rxPdoRemoteReq => 7 | sdoInfo => 8 | other => 9

/-- The service of a code. -/
def ofU8 (code : UInt8) : CoeServiceType :=
  match code with
  | 1 => emmergency | 2 => sdoReq | 3 => sdoRes | 4 => txPdo | 5 => rxPdo | 6 => txPdoRemoteReq
  | 7 => rxPdoRemoteReq | 8 => sdoInfo | _ => other

@[simp] lemma ofU8_toU8 (t : CoeServiceType) : ofU8 t.toU8 = t := by cases t <;> rfl

end CoeServiceType

namespace CoeFrame

def headerSize : ℕ := 2
def number : Field := ⟨8, 0, .lsb0⟩
def serviceType : Field := ⟨15, 12, .lsb0⟩

/-- The service of a CoE frame. -/
def coeServiceType (frame : List UInt8) : Exec CoeServiceType := do
  let code ← serviceType.get frame
  .ok (.ofU8 (.ofNat code))

/-- What is behind the CoE header. -/
def withoutHeader (frame : List UInt8) : Exec (List UInt8) := sliceFrom frame headerSize

end CoeFrame

namespace SdoFrame

def headerSize : ℕ := 4
def sizeIndicator : Field := .bit 0
def transferType : Field := .bit 1
def dataSetSize : Field := ⟨3, 2, .lsb0⟩
def completeAccess : Field := .bit 4
def commandSpecifier : Field := ⟨7, 5, .lsb0⟩
def index : Field := ⟨23, 8, .lsb0⟩
def subIndex : Field := ⟨31, 24, .lsb0⟩

/-- What is behind the SDO header. -/
def withoutHeader (frame : List UInt8) : Exec (List UInt8) := sliceFrom frame headerSize

end SdoFrame

namespace SdoDownloadNormalRequestFrame

def headerSize : ℕ := 4
def completeSize : Field := ⟨31, 0, .lsb0⟩

end SdoDownloadNormalRequestFrame

/-- The reasons of an aborted SDO transfer. -/
inductive AbortCode
  | noToggleBitChange | timeout | unknownClient | outsideMemoryRange | notSupportedAccess
  | writeOnly | readOnly | subIndexCannotBeWritten | notSupportForVariableLength
  | lengthExceedsMailboxSize | objectMappedToRxPdo | doesNotExistInDict | unableToMapToPdo
  | pdoLimit | parameterIncompatibilities | deviceIncompatibilities | failureDueToWriteProtect
  | parameterLengthMismatch | parameterLengthTooLong | parameterLengthTooShort
  | subIndexDoesNotExist | valueRangeExceeded | writeParameterTooLarge | writeParameterTooSmall
  | configuredModuleListDoesNotMatch | maxValueIsLessThanMinValue | generalError | cannotTransfer
  | cannotTransferDueToLocalControl | cannotTransferInCurrentState | objectDictionaryDoesNotExist
  | unknownAbortCode
  deriving DecidableEq, Repr

/-- The reason of a code. -/
def AbortCode.ofU32 (code : UInt32) : AbortCode :=
  match code with
  | 0x05030000 => noToggleBitChange
  | 0x05040000 => timeout
  | 0x05040001 => unknownClient
  | 0x05040005 => outsideMemoryRange
  | 0x06010000 => notSupportedAccess
  | 0x06010001 => writeOnly
  | 0x06010002 => readOnly
  | 0x06010003 => subIndexCannotBeWritten
  | 0x06010004 => notSupportForVariableLength
  | 0x06010005 => lengthExceedsMailboxSize
  | 0x06010006 => objectMappedToRxPdo
  | 0x06020000 => doesNotExistInDict
  | 0x06040041 => unableToMapToPdo
  | 0x06040042 => pdoLimit
  | 0x06040043 => parameterIncompatibilities
  | 0x06040047 => deviceIncompatibilities
  | 0x06060000 => failureDueToWriteProtect
  | 0x06070010 => parameterLengthMismatch
  | 0x06070012 => parameterLengthTooLong
  | 0x06070013 => parameterLengthTooShort
  | 0x06090011 => subIndexDoesNotExist
  | 0x06090030 => valueRangeExceeded
  | 0x06090031 => writeParameterTooLarge
  | 0x06090032 => writeParameterTooSmall
  | 0x06090033 => configuredModuleListDoesNotMatch
  | 0x06090036 => maxValueIsLessThanMinValue
  | 0x08000000 => generalError
  | 0x08000020 => cannotTransfer
  | 0x08000021 => cannotTransferDueToLocalControl
  | 0x08000022 => cannotTransferInCurrentState
  | 0x08000023 => objectDictionaryDoesNotExist
  | _ => unknownAbortCode

/-- The kinds of emergencies, each with its code. -/
inductive EmmergencyErrorCode
  | errorResetOrNoError (code : UInt16)
  | genericError (code : UInt16)
  | current (code : UInt16)
  | currentInputSide (code : UInt16)
  | currentInside (code : UInt16)
  | currentOutputSide (code : UInt16)
  | voltage (code : UInt16)
  | mainsVoltage (code : UInt16)
  | voltageInside (code : UInt16)
  | outputVoltage (code : UInt16)
  | temperature (code : UInt16)
  | ambientTemperature (code : UInt16)
  | deviceTempreture (code : UInt16)
  | deviceHardware (code : UInt16)
  | deviceSoftware (code : UInt16)
  | intarnalSoftware (code : UInt16)
  | userSoftware (code : UInt16)
  | dateSet (code : UInt16)
  | additionalModules (code : UInt16)
  | monitoring (code : UInt16)
  | communication (code : UInt16)
  | protocolError (code : UInt16)
  | pdoNotProcessedDueToLengthError (code : UInt16)
  | pdoLengthExceeded (code : UInt16)
  | externalError (code : UInt16)
  | esmTransitionError (code : UInt16)
  | additionalFunctions (code : UInt16)
  | deviceSpecific (code : UInt16)
  | other (code : UInt16)
  deriving DecidableEq, Repr

namespace EmmergencyFrame

def size : ℕ := 8
def errorCode : Field := ⟨15, 0, .lsb0⟩

/-- The kind of an error code.  The bytes are those of `to_be_bytes`, of which the source takes the
second as the high one. -/
def kindOf (code : UInt16) : EmmergencyErrorCode :=
  let codeH := code.toUInt8
  let codeL := (code >>> 8).toUInt8
  match codeH with
  | 0x00 => .errorResetOrNoError code
  | 0x10 => .genericError code
  | 0x20 => .current code
  | 0x21 => .currentInputSide code
  | 0x22 => .currentInside code
  | 0x23 => .currentOutputSide code
  | 0x30 => .voltage code
  | 0x31 => .mainsVoltage code
  | 0x32 => .voltageInside code
  | 0x33 => .outputVoltage code
  | 0x40 => .temperature code
  | 0x42 => .ambientTemperature code
  | 0x41 => .deviceTempreture code
  | 0x50 => .deviceHardware code
  | 0x60 => .deviceSoftware code
  | 0x61 => .intarnalSoftware code
  | 0x62 => .userSoftware code
  | 0x63 => .dateSet code
  | 0x70 => .additionalModules code
  | 0x80 => .monitoring code
  | 0x81 => .communication code
  | 0x82 =>
    match codeL with
    | 0x10 => .pdoNotProcessedDueToLengthError code
    | 0x20 => .pdoLengthExceeded code
    | _ => .protocolError code
  | 0x90 => .externalError code
  | 0xA0 => .esmTransitionError code
  | 0xF0 => .additionalFunctions code
  | 0xFF => .deviceSpecific code
  | _ => .other code

/-- The kind of the emergency that a frame reports. -/
def emmergencyErrorCode (frame : List UInt8) : Exec EmmergencyErrorCode := do
  let code ← errorCode.get frame
  .ok (kindOf (.ofNat code))

end EmmergencyFrame

end EtherCat
