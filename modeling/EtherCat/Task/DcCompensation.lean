import EtherCat.Register.Datalink
import EtherCat.Task.CyclicTask
import EtherCat.Task.DcInitilize

/-!
# Setup of the distributed clocks: delays, offsets and drift

After `start` the task latches the receive times of all ports and computes from them the delay of
each slave behind its parent and the offset of its clock, several times over.  It writes delays
and offsets to the slaves and lets the drift of the clocks be compensated until their difference
is small.
-/

namespace EtherCat

open Rust Rust.Exec BitField CyclicTask

namespace DcInitTask

/-- The number of rounds of measurement. -/
def countMax : ℕ := 8

/-- The number of cycles of drift compensation before the differences are looked at. -/
def driftCountMin : ℕ := 2000

/-- The largest difference of two clocks that will do. -/
def targetDeltaNs : ℕ := 50

/-- The size of the buffer that the task asks for. -/
def requiredBufferSize : ℕ :=
  max (max (max (max DcRecieveTime.size DcSystemTime.size) DcSystemTimeOffset.size)
    DcSystemTimeTransmissionDelay.size) DcSystemTimeDelta.size

/-- An idle task. -/
def new : DcInitTask where
  state := .idle
  command := .default
  firstDcSlave := none
  dcSlaveCount := 0

/-- The result, once there is one. -/
def waitResult (task : DcInitTask) : Option (Except (TaskError Unit) Unit) :=
  match task.state with
  | .complete => some (.ok ())
  | .error e => some (.error e)
  | _ => none

/-- `network.slave(SlaveAddress::SlavePosition(pos)).unwrap()`. -/
def slaveOf (network : Network) (pos : ℕ) : Exec Slave := do
  let found ← network.slave (.slavePosition (.ofNat pos))
  let (slave, _) ← unwrap found
  .ok slave

/-! ## Delays -/

/-- The time between two latched times; the counter may have wrapped around. -/
def loopDuration (firstRecvTime secondRecvTime : UInt32) : UInt32 :=
  if firstRecvTime < secondRecvTime then secondRecvTime - firstRecvTime
  else .ofNat (2 ^ 32 + secondRecvTime.toNat - firstRecvTime.toNat)

/-- The first linked port behind a port. -/
def nextPort (linkedPorts : Vector Bool 4) (port : ℕ) : Option ℕ :=
  (List.range 4).find? fun i => linkedPorts.toList.getD i false && decide (port < i)

/-- The last linked port behind a port. -/
def lastPort (linkedPorts : Vector Bool 4) (port : ℕ) : Option ℕ :=
  (List.range 4).reverse.find? fun i => linkedPorts.toList.getD i false && decide (port < i)

/-- The receive times that a slave has latched, and its first linked port. -/
def latch (slave : Slave) (data : List UInt8) : Exec (DcContext × ℕ) := do
  let time0 ← (DcRecieveTime.receiveTimePort 0).get data
  let time1 ← (DcRecieveTime.receiveTimePort 1).get data
  let time2 ← (DcRecieveTime.receiveTimePort 2).get data
  let time3 ← (DcRecieveTime.receiveTimePort 3).get data
  let times : Vector UInt32 4 := #v[.ofNat time0, .ofNat time1, .ofNat time2, .ofNat time3]
  let firstRecievedPort ← unwrap (slave.info.linkedPorts.toList.findIdx? id)
  let time ← index times.toList firstRecievedPort
  .ok ({ slave.dcContext with recievedPortTime := times, latchedLocalSysTime := time.toUInt64 },
    firstRecievedPort)

/-- How long the frame was behind the slave itself. -/
def innerLoopDuration (slave : Slave) (dc : DcContext) (firstRecievedPort : ℕ) : Exec UInt32 :=
  match lastPort slave.info.linkedPorts firstRecievedPort with
  | some lastRecievedPort => do
    let firstRecvTime ← index dc.recievedPortTime.toList firstRecievedPort
    let lastRecvTime ← index dc.recievedPortTime.toList lastRecievedPort
    .ok (loopDuration firstRecvTime lastRecvTime)
  | none => .ok 0

/-- How long the frame was behind the port of the parent. -/
def outerLoopDuration (parent : Slave) (parentPort : ℕ) : Exec UInt32 := do
  let parentNextPort ← unwrap (nextPort parent.info.linkedPorts parentPort)
  let firstRecvTime ← index parent.dcContext.recievedPortTime.toList parentPort
  let secondRecvTime ← index parent.dcContext.recievedPortTime.toList parentNextPort
  .ok (loopDuration firstRecvTime secondRecvTime)

/-- A new measurement is averaged with the value so far, unless that is zero. -/
def average (bits value measured : ℕ) : Exec ℕ :=
  if value = 0 then .ok measured else addUpTo bits (value / 2) (measured / 2)

/-- The delay of the slave at a position behind its parent, which is another slave. -/
def measureDelay (network : Network) (pos : ℕ) (slave : Slave) (dc : DcContext)
    (firstRecievedPort : ℕ) : Exec DcContext := do
  let innerDuration ← innerLoopDuration slave dc firstRecievedPort
  let (parentPos, parentPort) ← unwrap dc.parentPort
  let parent ← slaveOf network parentPos
  -- the clock data of the slave itself are borrowed already
  let _ ← check (parentPos ≠ pos) .explicit ()
  let outerDuration ← outerLoopDuration parent parentPort
  let twice ← sub outerDuration.toNat innerDuration.toNat
  let delay ← addUpTo 32 parent.dcContext.delay.toNat (twice / 2)
  let delay ← average 32 dc.delay.toNat delay
  .ok { dc with delay := .ofNat delay }

/-! ## Offsets -/

/-- The latest of the latched times. -/
def maxTime (network : Network) : UInt64 :=
  (network.slaves.filterMap Prod.fst).foldl
    (fun time slave => max time slave.dcContext.latchedLocalSysTime) 0

/-- The offset of the clock of a slave to the latest one. -/
def measureOffset (maxTime : UInt64) :
    Slave × SlaveConfig → Exec (Slave × SlaveConfig)
  | (slave, config) => do
    let offset ← sub maxTime.toNat slave.dcContext.latchedLocalSysTime.toNat
    let offset ← average 64 slave.dcContext.offset.toNat offset
    .ok ({ slave with dcContext := { slave.dcContext with offset := .ofNat offset } }, config)

/-- The next slave with a distributed clock behind a position. -/
def nextDcSlave (network : Network) (pos : ℕ) : Option ℕ :=
  (network.slaves.filterMap Prod.fst).zipIdx.findIdx? fun (slave, i) =>
    slave.info.supportDc && decide (pos < (UInt16.ofNat i).toNat)

/-! ## The task -/

/-- The task and the network that it shares. -/
structure OnNetwork where
  task : DcInitTask
  network : Network
  deriving DecidableEq, Repr

namespace OnNetwork

/-- The task in another state. -/
def goTo (dc : OnNetwork) (state : State) : OnNetwork :=
  { dc with task := { dc.task with state := state } }

/-- A PDU with these fields, whose command is noted. -/
def send (dc : OnNetwork) (command : Command) (size : ℕ) (assignments : List (Field × ℕ))
    (buf : List UInt8) : Exec ((Option (Command × ℕ) × List UInt8) × OnNetwork) := do
  let pdu ← request command size (fun data => Field.setAll data assignments) buf
  .ok (pdu, { dc with task := { dc.task with command := command } })

/-- The PDU of the state; a task that is not busy sends none. -/
def nextPdu (dc : OnNetwork) (buf : List UInt8) :
    Exec ((Option (Command × ℕ) × List UInt8) × OnNetwork) :=
  match dc.task.state with
  | .idle => .ok ((none, buf), dc)
  | .error _ => .ok ((none, buf), dc)
  | .complete => .ok ((none, buf), dc)
  | .clearOffset =>
    dc.send ⟨.bwr, 0, DcSystemTimeOffset.address⟩ DcSystemTimeOffset.size [] buf
  | .clearDelay =>
    dc.send ⟨.bwr, 0, DcSystemTimeTransmissionDelay.address⟩ DcSystemTimeTransmissionDelay.size []
      buf
  | .requestToLatch _ => dc.send ⟨.bwr, 0, DcRecieveTime.address⟩ DcRecieveTime.size [] buf
  | .calculateDelay _ pos =>
    dc.send (.newRead (.single (.slavePosition (.ofNat pos))) DcRecieveTime.address)
      DcRecieveTime.size [] buf
  | .setOffset pos => do
    let slave ← slaveOf dc.network pos
    dc.send (.newWrite (.single (.slavePosition (.ofNat pos))) DcSystemTimeOffset.address)
      DcSystemTimeOffset.size
      [(DcSystemTimeOffset.systemTimeOffset, slave.dcContext.offset.toNat)] buf
  | .setDelay pos => do
    let slave ← slaveOf dc.network pos
    dc.send
      (.newWrite (.single (.slavePosition (.ofNat pos))) DcSystemTimeTransmissionDelay.address)
      DcSystemTimeTransmissionDelay.size
      [(DcSystemTimeTransmissionDelay.systemTimeTransmissionDelay, slave.dcContext.delay.toNat)] buf
  | .compensateDrift _ => do
    let first ← unwrap dc.task.firstDcSlave
    dc.send ⟨.armw, SlaveAddress.getAdp (.slavePosition (.ofNat first)), DcSystemTime.address⟩
      DcSystemTime.size [] buf
  | .checkDelta => dc.send ⟨.brd, 0, DcSystemTimeDelta.address⟩ DcSystemTimeDelta.size [] buf

/-- Go on if as many slaves as expected have answered. -/
def expectWkc (dc : OnNetwork) (expected wkc : UInt16) (next : Exec OnNetwork) :
    Exec OnNetwork :=
  if wkc ≠ expected then .ok (dc.goTo (.error (.unexpectedWkc ⟨expected, wkc⟩))) else next

/-- The end of a round of measurements. -/
def endRound (dc : OnNetwork) (count : ℕ) : Exec OnNetwork := do
  let network ← dc.network.mapSlaves (measureOffset (maxTime dc.network))
  let dc := { dc with network := network }
  .ok <|
    if count + 1 < countMax then dc.goTo (.requestToLatch (count + 1))
    else match dc.task.firstDcSlave with
      | some first => dc.goTo (.setOffset first)
      | none => dc.goTo .complete

/-- The arm of the receive times of the slave at a position. -/
def processCalculateDelay (dc : OnNetwork) (count pos : ℕ) (data : List UInt8) :
    Exec OnNetwork := do
  let slave ← slaveOf dc.network pos
  let (context, firstRecievedPort) ← latch slave data
  let context ←
    if dc.task.firstDcSlave.any (fun first => first < pos) then
      measureDelay dc.network pos slave context firstRecievedPort
    else .ok context
  let dc := { dc with
    network := dc.network.modifySlave pos fun slave => { slave with dcContext := context } }
  let next ← addUpTo 16 pos 1
  if next < dc.network.numSlaves then .ok (dc.goTo (.calculateDelay count next))
  else dc.endRound count

/-- The arm of the difference of the clocks. -/
def processCheckDelta (dc : OnNetwork) (data : List UInt8) : Exec OnNetwork := do
  let delta ← DcSystemTimeDelta.delta.get data
  .ok <|
    if delta ≤ targetDeltaNs then dc.goTo .complete
    else dc.goTo (.compensateDrift (if 100 < driftCountMin then driftCountMin - 100 else 0))

/-- The state machine, behind the check of the command. -/
def processState (dc : OnNetwork) (recvData : Pdu) : Exec OnNetwork :=
  let data := recvData.data
  let wkc := recvData.wkc
  let numSlaves : UInt16 := .ofNat dc.network.numSlaves
  let numDcSlave : UInt16 := .ofNat dc.task.dcSlaveCount
  match dc.task.state with
  | .idle => .ok dc
  | .error _ => .ok dc
  | .complete => .ok dc
  | .clearOffset => dc.expectWkc numSlaves wkc (.ok (dc.goTo .clearDelay))
  | .clearDelay => dc.expectWkc numSlaves wkc (.ok (dc.goTo (.requestToLatch 0)))
  | .requestToLatch count => dc.expectWkc numSlaves wkc (.ok (dc.goTo (.calculateDelay count 0)))
  | .calculateDelay count pos => dc.expectWkc 1 wkc (dc.processCalculateDelay count pos data)
  | .setOffset pos =>
    dc.expectWkc 1 wkc <| match nextDcSlave dc.network pos with
      | some next => .ok (dc.goTo (.setOffset (UInt16.ofNat next).toNat))
      | none => do
        let first ← unwrap dc.task.firstDcSlave
        .ok (dc.goTo (.setDelay first))
  | .setDelay pos =>
    dc.expectWkc 1 wkc <| match nextDcSlave dc.network pos with
      | some next => .ok (dc.goTo (.setDelay (UInt16.ofNat next).toNat))
      | none => .ok (dc.goTo (.compensateDrift 0))
  | .compensateDrift count =>
    dc.expectWkc numDcSlave wkc <| .ok <|
      if count + 1 < driftCountMin then dc.goTo (.compensateDrift (count + 1))
      else dc.goTo .checkDelta
  | .checkDelta => dc.expectWkc numDcSlave wkc (dc.processCheckDelta data)

/-- A response with another command is an error in every state. -/
def checked (dc : OnNetwork) (recvData : Pdu) : OnNetwork :=
  if recvData.Echoes dc.task.command then dc else dc.goTo (.error .unexpectedCommand)

/-- What a response does. -/
def recieveAndProcess (dc : OnNetwork) (recvData : Pdu) (_sysTime : ℕ) : Exec OnNetwork :=
  (dc.checked recvData).processState recvData

/-- The task goes on. -/
def isBusy (dc : OnNetwork) : Bool :=
  match dc.task.state with
  | .idle | .complete | .error _ => false
  | _ => true

/-- A busy task has a next PDU. -/
lemma nextPdu_busy {dc dc' : OnNetwork} {buf buf' : List UInt8} {pdu : Option (Command × ℕ)}
    (h : dc.nextPdu buf = .ok ((pdu, buf'), dc')) :
    buf'.length = buf.length ∧ (dc'.isBusy = true → pdu.isSome = true) := by
  have hsend : ∀ {command size assignments},
      dc.send command size assignments buf = .ok ((pdu, buf'), dc') →
      buf'.length = buf.length ∧ (dc'.isBusy = true → pdu.isSome = true) := by
    intro command size assignments h
    obtain ⟨pdu', hrequest, heq⟩ := bind_eq_ok.mp h
    cases heq
    exact ⟨length_request hrequest, fun _ => by rw [request_pdu hrequest]; rfl⟩
  unfold nextPdu at h
  split at h
  case h_1 hstate | h_2 hstate | h_3 hstate =>
    cases h
    exact ⟨rfl, fun hbusy => by rw [isBusy, hstate] at hbusy; cases hbusy⟩
  case h_8 | h_9 | h_10 =>
    obtain ⟨_, -, h⟩ := bind_eq_ok.mp h
    exact hsend h
  all_goals exact hsend h

instance : CyclicTask OnNetwork where
  nextPdu := nextPdu
  recieveAndProcess := recieveAndProcess
  isBusy := isBusy
  length_nextPdu h := (nextPdu_busy h).1

end OnNetwork

end DcInitTask

end EtherCat
