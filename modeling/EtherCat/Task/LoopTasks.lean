import EtherCat.Register.Datalink
import EtherCat.Task.AlStateRead
import EtherCat.Task.CyclicTask

/-!
# Tasks of the cyclic operation

Like `AlStateReadTask` they are never busy: they send the same PDU over and over, and a wrong
working counter is only counted.
-/

namespace EtherCat

open Rust Rust.Exec BitField CyclicTask

/-- `saturating_add(1)` of a counter. -/
def saturatingSucc (count : ℕ) : ℕ := min (count + 1) usizeMax

/-! ## The process data -/

/-- The cyclic task that exchanges the process data image with the slaves. -/
structure ProcessTask where
  command : Command
  startLogicalAddress : UInt32
  expectedWkc : UInt16
  imageSize : ℕ
  invalidWkcCount : ℕ
  lastWkc : UInt16
  deriving DecidableEq, Repr

namespace ProcessTask

/-- A task for an image at a logical address. -/
def new (startLogicalAddress : UInt32) (expectedWkc : UInt16) (imageSize : ℕ) : ProcessTask where
  command := .newLogicalReadWrite startLogicalAddress
  startLogicalAddress := startLogicalAddress
  expectedWkc := expectedWkc
  imageSize := imageSize
  invalidWkcCount := 0
  lastWkc := 0

/-- The working counter that the slaves of the image give. -/
def setExpectedWkc (task : ProcessTask) (expectedWkc : UInt16) : ProcessTask :=
  { task with expectedWkc := expectedWkc }

/-- The size of the image. -/
def setImageSize (task : ProcessTask) (imageSize : ℕ) : ProcessTask :=
  { task with imageSize := imageSize }

/-- The buffer of the socket is the process data image. -/
def nextPdu (task : ProcessTask) (buf : List UInt8) :
    Exec ((Option (Command × ℕ) × List UInt8) × ProcessTask) :=
  if task.expectedWkc = 0 then .ok ((none, buf), task)
  else .ok ((some (task.command, task.imageSize), buf), task)

/-- The data stay in the socket whatever the working counter is; another one than expected is
counted. -/
def recieveAndProcess (task : ProcessTask) (recvData : Pdu) (_sysTime : ℕ) : Exec ProcessTask :=
  .ok { task with
        invalidWkcCount := if recvData.wkc ≠ task.expectedWkc then
            saturatingSucc task.invalidWkcCount
          else task.invalidWkcCount }

instance : CyclicTask ProcessTask where
  nextPdu := nextPdu
  recieveAndProcess := recieveAndProcess
  isBusy _ := false
  length_nextPdu h := by
    unfold nextPdu at h
    split at h <;>
      · cases h
        rfl

end ProcessTask

/-! ## The drift of the clocks -/

/-- The cyclic task that distributes the time of the first clock and keeps the offset of the local
time. -/
structure DcSyncTask where
  sysTimeOffset : ℤ
  lastDcTime : ℕ
  firstDcSlave : UInt16
  dcSlaveCount : UInt16
  invalidWkcCount : ℕ
  lastWkc : UInt16
  deriving DecidableEq, Repr

namespace DcSyncTask

/-- The size of the buffer that the task asks for. -/
def requiredBufferSize : ℕ := DcSystemTime.size

/-- A task for these clocks. -/
def new (firstDcSlavePos numDcSlaves : UInt16) : DcSyncTask where
  sysTimeOffset := 0
  lastDcTime := 0
  firstDcSlave := firstDcSlavePos
  dcSlaveCount := numDcSlaves
  invalidWkcCount := 0
  lastWkc := 0

/-- The read of the first clock that writes all others, every time. -/
def nextPdu (task : DcSyncTask) (buf : List UInt8) :
    Exec ((Option (Command × ℕ) × List UInt8) × DcSyncTask) := do
  let command : Command :=
    ⟨.armw, (SlaveAddress.slavePosition task.firstDcSlave).getAdp, DcSystemTime.address⟩
  let buf ← fillTo buf DcSystemTime.size 0
  .ok ((some (command, DcSystemTime.size), buf), task)

/-- The distance of two times, `as i64` after `min(i64::MAX as u64)`. -/
def offsetAbs (a b : ℕ) : ℤ := min (a - b) (2 ^ 63 - 1 : ℕ)

/-- The offset is the distance in both directions. -/
def recieveAndProcess (task : DcSyncTask) (recvData : Pdu) (systime : ℕ) : Exec DcSyncTask := do
  let slaveSystime ← DcSystemTime.localSystemTime.get recvData.data
  .ok { task with
        invalidWkcCount := if recvData.wkc ≠ task.dcSlaveCount then
            saturatingSucc task.invalidWkcCount
          else task.invalidWkcCount
        lastDcTime := slaveSystime
        sysTimeOffset := if systime < slaveSystime then offsetAbs slaveSystime systime
          else offsetAbs systime slaveSystime }

lemma nextPdu_eq_ok {task task' : DcSyncTask} {buf buf' : List UInt8}
    {pdu : Option (Command × ℕ)} (h : task.nextPdu buf = .ok ((pdu, buf'), task')) :
    DcSystemTime.size ≤ buf.length ∧ buf'.length = buf.length ∧ task' = task ∧
      pdu.map Prod.snd = some DcSystemTime.size := by
  obtain ⟨filled, hfill, heq⟩ := bind_eq_ok.mp h
  obtain ⟨hsize, rfl⟩ := fillTo_eq_ok_iff.mp hfill
  cases heq
  refine ⟨hsize, ?_, rfl, rfl⟩
  rw [List.length_append, List.length_replicate, List.length_drop]
  omega

instance : CyclicTask DcSyncTask where
  nextPdu := nextPdu
  recieveAndProcess := recieveAndProcess
  isBusy _ := false
  length_nextPdu h := (nextPdu_eq_ok h).2.1

end DcSyncTask

/-! ## The error counters -/

/-- The cyclic task that reads the error counters of the ports of a slave. -/
structure RxErrorReadTask where
  command : Command
  target : TargetSlave
  rxErrorCount : List UInt8
  invalidWkcCount : ℕ
  lastWkc : UInt16
  deriving DecidableEq, Repr

namespace RxErrorReadTask

/-- The size of the buffer that the task asks for. -/
def requiredBufferSize : ℕ := RxErrorCounter.size

/-- A task that has counted nothing. -/
def new : RxErrorReadTask where
  command := .default
  target := .default
  rxErrorCount := List.replicate RxErrorCounter.size 0
  invalidWkcCount := 0
  lastWkc := 0

/-- The read of the counters, every time. -/
def nextPdu (task : RxErrorReadTask) (buf : List UInt8) :
    Exec ((Option (Command × ℕ) × List UInt8) × RxErrorReadTask) := do
  let buf ← fillTo buf RxErrorCounter.size 0
  let command := Command.newRead task.target RxErrorCounter.address
  .ok ((some (command, RxErrorCounter.size), buf), { task with command := command })

/-- The counters are kept as they come. -/
def recieveAndProcess (task : RxErrorReadTask) (recvData : Pdu) (_sysTime : ℕ) :
    Exec RxErrorReadTask := do
  let data ← sliceTo recvData.data RxErrorCounter.size
  .ok { task with
        invalidWkcCount := if recvData.wkc ≠ task.target.numTargets then
            saturatingSucc task.invalidWkcCount
          else task.invalidWkcCount
        rxErrorCount := overwrite task.rxErrorCount data }

lemma nextPdu_eq_ok {task task' : RxErrorReadTask} {buf buf' : List UInt8}
    {pdu : Option (Command × ℕ)} (h : task.nextPdu buf = .ok ((pdu, buf'), task')) :
    RxErrorCounter.size ≤ buf.length ∧ buf'.length = buf.length ∧
      task' = { task with command := .newRead task.target RxErrorCounter.address } ∧
      pdu.map Prod.snd = some RxErrorCounter.size := by
  obtain ⟨filled, hfill, heq⟩ := bind_eq_ok.mp h
  obtain ⟨hsize, rfl⟩ := fillTo_eq_ok_iff.mp hfill
  cases heq
  refine ⟨hsize, ?_, rfl, rfl⟩
  rw [List.length_append, List.length_replicate, List.length_drop]
  omega

instance : CyclicTask RxErrorReadTask where
  nextPdu := nextPdu
  recieveAndProcess := recieveAndProcess
  isBusy _ := false
  length_nextPdu h := (nextPdu_eq_ok h).2.1

end RxErrorReadTask

end EtherCat
