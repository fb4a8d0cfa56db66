import EtherCat.Frame.Ethercat

/-!
# Commands and their targets
-/

namespace EtherCat

/-- What can go wrong with the device. -/
inductive PhyError
  | txError
  | rxError
  | txNotAvailable
  | rxNotAvailable
  deriving DecidableEq, Repr

/-- A slave is named by its station address or by its position. -/
inductive SlaveAddress
  | stationAddress (address : UInt16)
  | slavePosition (position : UInt16)
  deriving DecidableEq, Repr

/-- `SlaveAddress::default()`. -/
def SlaveAddress.default : SlaveAddress := .slavePosition 0

/-- The auto-increment address of the slave at a position. -/
def getApAdp (slaveNumber : UInt16) : UInt16 :=
  if slaveNumber = 0 then 0 else 0xFFFF - (slaveNumber - 1)

lemma getApAdp_eq_neg (slaveNumber : UInt16) : getApAdp slaveNumber = -slaveNumber := by
  unfold getApAdp
  split <;> grind

/-- The address field of a PDU for one slave. -/
def SlaveAddress.getAdp : SlaveAddress → UInt16
  | stationAddress address => address
  | slavePosition position => getApAdp position

/-- A PDU is for one slave, or for all, whose number is known. -/
inductive TargetSlave
  | single (address : SlaveAddress)
  | all (number : UInt16)
  deriving DecidableEq, Repr

/-- `TargetSlave::default()`. -/
def TargetSlave.default : TargetSlave := .single .default

/-- The working counter that a read or a write of the register gives. -/
def TargetSlave.numTargets : TargetSlave → UInt16
  | all number => number
  | single _ => 1

/-- The command of a PDU: its type and the two halves of its address. -/
structure Command where
  cType : CommandType
  adp : UInt16
  ado : UInt16
  deriving DecidableEq, Repr

namespace Command

/-- `Command::default()`. -/
def default : Command := ⟨.aprd, 0, 0⟩

/-- The read of a register. -/
def newRead (slaveAddress : TargetSlave) (ado : UInt16) : Command :=
  match slaveAddress with
  | .single (.slavePosition position) => ⟨.aprd, getApAdp position, ado⟩
  | .single (.stationAddress address) => ⟨.fprd, address, ado⟩
  | .all _ => ⟨.brd, 0, ado⟩

/-- The write of a register. -/
def newWrite (slaveAddress : TargetSlave) (ado : UInt16) : Command :=
  match slaveAddress with
  | .single (.slavePosition position) => ⟨.apwr, getApAdp position, ado⟩
  | .single (.stationAddress address) => ⟨.fpwr, address, ado⟩
  | .all _ => ⟨.bwr, 0, ado⟩

/-- The exchange of process data at a logical address. -/
def newLogicalReadWrite (logicalAddress : UInt32) : Command :=
  ⟨.lrw, (logicalAddress &&& 0x0000ffff).toUInt16, (logicalAddress >>> 16).toUInt16⟩

end Command

end EtherCat
