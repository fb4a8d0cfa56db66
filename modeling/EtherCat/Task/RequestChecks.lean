import EtherCat.Interface.FallibleDevice
import EtherCat.Task.BlockingCall
import EtherCat.Task.DcSteps
import EtherCat.Task.RequestTasks
import EtherCat.Task.ResponseChecks

/-!
# Five tasks that check their responses

The tasks with inner tasks check a response themselves before they hand it on, so that the inner
checks never find anything (`requestTasks_checkResponses`).  A task that was started and has sent
nothing yet checks a response, too, against the default command.  A call that was aborted while its
PDU was out can leave one behind that passes (`addressAccess_completes_unsent`).
-/

namespace EtherCat

open Rust Rust.Exec CyclicTask Driven

/-! ## Accessing a register -/

namespace AddressAccessTask

/-- The task has ended with an error. -/
def Failed (task : AddressAccessTask) : Prop := ∃ e, task.state = .error e

lemma nextPdu_command {task task' : AddressAccessTask} {buf buf' : List UInt8}
    {pdu : Option (Command × ℕ)} (h : task.nextPdu buf = .ok ((pdu, buf'), task')) :
    ∀ c ∈ pdu.map Prod.fst, c = task'.command := by
  unfold nextPdu at h
  split at h
  all_goals
    cases h
    rintro c ⟨⟩
  all_goals rfl

lemma recieveAndProcess_of_refused {task : AddressAccessTask} {recv : Pdu} (time : ℕ)
    (hrefused : ¬ (recv.Echoes task.command ∧ recv.wkc = task.slaveAddress.numTargets)) :
    ∃ task', task.recieveAndProcess recv time = .ok task' ∧ task'.Failed := by
  obtain ⟨e, he⟩ := checkedState_of_not_accepted State.error hrefused task.state
  refine ⟨{ task with state := .error e }, ?_, e, rfl⟩
  rw [recieveAndProcess, checked, he]

lemma stepChecks : StepChecks Failed (fun task => task.slaveAddress.numTargets)
    AddressAccessTask.command fun _ => True where
  next _ h := ⟨trivial, nextPdu_command h⟩
  process _ _ := trivial
  refused time _ _ h := recieveAndProcess_of_refused time h
  failed buf h := by
    obtain ⟨e, he⟩ := h
    change nextPdu _ buf = _
    rw [nextPdu, he]

end AddressAccessTask

/-! ## Changing the AL state -/

namespace AlStateTransferTask

/-- The task has ended with an error. -/
def Failed (task : AlStateTransferTask) : Prop := ∃ e, task.state = .error e

lemma nextPdu_command {task task' : AlStateTransferTask} {buf buf' : List UInt8}
    {pdu : Option (Command × ℕ)} (h : task.nextPdu buf = .ok ((pdu, buf'), task')) :
    ∀ c ∈ pdu.map Prod.fst, c = task'.command := by
  unfold nextPdu at h
  split at h
  case h_1 | h_2 | h_9 =>
    cases h
    rintro c ⟨⟩
  all_goals
    obtain ⟨rfl, rfl, -⟩ := send_eq_ok h
    rintro c ⟨⟩
    rfl

lemma recieveAndProcess_of_refused {task : AlStateTransferTask} {recv : Pdu} (time : ℕ)
    (hrefused : ¬ (recv.Echoes task.command ∧ recv.wkc = task.slaveAddress.numTargets)) :
    ∃ task', task.recieveAndProcess recv time = .ok task' ∧ task'.Failed := by
  obtain ⟨e, he⟩ := checkedState_of_not_accepted State.error hrefused task.state
  refine ⟨{ task with state := .error e }, ?_, e, rfl⟩
  rw [recieveAndProcess, checked, he]

lemma stepChecks : StepChecks Failed (fun task => task.slaveAddress.numTargets)
    AlStateTransferTask.command fun _ => True where
  next _ h := ⟨trivial, nextPdu_command h⟩
  process _ _ := trivial
  refused time _ _ h := recieveAndProcess_of_refused time h
  failed buf h := by
    obtain ⟨e, he⟩ := h
    change nextPdu _ buf = _
    rw [nextPdu, he]

end AlStateTransferTask

/-! ## Reading the EEPROM -/

namespace SiiReader

/-- The task has ended with an error. -/
def Failed (task : SiiReader) : Prop := ∃ e, task.state = .error e

lemma nextPdu_command {task task' : SiiReader} {buf buf' : List UInt8}
    {pdu : Option (Command × ℕ)} (h : task.nextPdu buf = .ok ((pdu, buf'), task')) :
    ∀ c ∈ pdu.map Prod.fst, c = task'.command := by
  unfold nextPdu at h
  dsimp only at h
  split at h
  case h_1 | h_2 | h_10 =>
    cases h
    rintro c ⟨⟩
  all_goals
    obtain ⟨⟨pdu', buf''⟩, hrequest, heq⟩ := bind_eq_ok.mp h
    cases heq
    rw [request_pdu hrequest]
    rintro c ⟨⟩
    rfl

lemma recieveAndProcess_of_refused {task : SiiReader} {recv : Pdu} (time : ℕ)
    (hrefused : ¬ (recv.Echoes task.command ∧ recv.wkc = 1)) :
    ∃ task', task.recieveAndProcess recv time = .ok task' ∧ task'.Failed := by
  obtain ⟨e, he⟩ := checkedState_of_not_accepted State.error hrefused task.state
  refine ⟨{ task with state := .error e }, ?_, e, rfl⟩
  rw [recieveAndProcess, checked, he]

lemma stepChecks : StepChecks Failed (fun _ => 1) SiiReader.command fun _ => True where
  next _ h := ⟨trivial, nextPdu_command h⟩
  process _ _ := trivial
  refused time _ _ h := recieveAndProcess_of_refused time h
  failed buf h := by
    obtain ⟨e, he⟩ := h
    change nextPdu _ buf = _
    rw [nextPdu, he]

end SiiReader

/-! ## Initialising a slave -/

namespace SlaveInitTask

/-- The task has ended with an error. -/
def Failed (task : SlaveInitTask) : Prop := ∃ e, task.state = .error e

lemma noteCommand_command (task : SlaveInitTask) (pdu : Option (Command × ℕ)) :
    ∀ c ∈ pdu.map Prod.fst, c = (task.noteCommand pdu).command := by
  rcases pdu with _ | ⟨command, size⟩
  · rintro c ⟨⟩
  · rintro c ⟨⟩
    rfl

/-- A PDU of the inner task is noted as one of the task itself. -/
lemma nextPdu_command {task task' : SlaveInitTask} {buf buf' : List UInt8}
    {pdu : Option (Command × ℕ)} (h : task.nextPdu buf = .ok ((pdu, buf'), task')) :
    ∀ c ∈ pdu.map Prod.fst, c = task'.command := by
  rcases nextPdu_cases h with ⟨-, hpdu, -⟩ | ⟨-, task₁, -, -, command, size, assignments, hsend⟩ |
    ⟨isFirst, -, hnext⟩ | ⟨isFirst, -, task₁, -, -, siiAddress, hnext⟩
  · cases hpdu
    rintro c ⟨⟩
  · obtain ⟨rfl, -, rfl⟩ := send_eq_ok hsend
    rintro c ⟨⟩
    rfl
  · obtain ⟨alTransfer, alTransfer', -, -, rfl⟩ := nextAlStateTransfer_eq_ok hnext
    exact noteCommand_command _ pdu
  · obtain ⟨reader, reader', -, -, rfl⟩ := nextSii_eq_ok hnext
    exact noteCommand_command _ pdu

lemma recieveAndProcess_of_refused {task : SlaveInitTask} {recv : Pdu} (time : ℕ)
    (hrefused : ¬ (recv.Echoes task.command ∧ recv.wkc = 1)) :
    ∃ task', task.recieveAndProcess recv time = .ok task' ∧ task'.Failed := by
  obtain ⟨e, he⟩ := checkedState_of_not_accepted State.error hrefused task.state
  refine ⟨{ task with state := .error e }, ?_, e, rfl⟩
  rw [recieveAndProcess, checked, he]
  rfl

lemma stepChecks : StepChecks Failed (fun _ => 1) SlaveInitTask.command fun _ => True where
  next _ h := ⟨trivial, nextPdu_command h⟩
  process _ _ := trivial
  refused time _ _ h := recieveAndProcess_of_refused time h
  failed buf h := by
    obtain ⟨e, he⟩ := h
    change nextPdu _ buf = _
    rw [nextPdu, he]

end SlaveInitTask

/-! ## Setting the clocks up -/

namespace DcInitTask.OnNetwork

/-- The task has ended with an error. -/
def Failed (dc : OnNetwork) : Prop := ∃ e, dc.task.state = .error e

/-- `push_count` has 16 bits. -/
def StartedSmall (dc : OnNetwork) : Prop := dc.Started ∧ dc.network.pushCount < 2 ^ 16

lemma counted_of_startedSmall {dc : OnNetwork} (h : dc.StartedSmall) : dc.Counted := by
  obtain ⟨⟨network, hstart⟩, hsmall⟩ := h
  exact ⟨hsmall, start_dcSlaveCount hsmall hstart⟩

lemma stepChecks : StepChecks Failed expectedWkc (fun dc => dc.task.command) Counted where
  next hcounted h := by
    obtain ⟨⟨command, rfl⟩, hcommand⟩ := nextPdu_command h
    exact ⟨hcounted.of_noted command, hcommand⟩
  process hcounted h := hcounted.of_moved (moved_recieveAndProcess h)
  refused time hcounted hbusy h := by
    obtain ⟨e, he⟩ := recieveAndProcess_of_refused time hcounted hbusy h
    exact ⟨_, he, e, rfl⟩
  failed buf h := by
    obtain ⟨e, he⟩ := h
    change nextPdu _ buf = _
    rw [nextPdu, he]

end DcInitTask.OnNetwork

/-! ## The tasks -/

/-- The five tasks check their responses: against the number of their targets, or the working
counter of the step. -/
structure RequestTasksCheckResponses (Admits : FirstResponse) : Prop where
  addressAccess : ChecksResponses AddressAccessTask.Started AddressAccessTask.Failed
    (fun task => task.state = .complete) (fun task => task.slaveAddress.numTargets)
    AddressAccessTask.command Admits
  alStateTransfer : ChecksResponses AlStateTransferTask.Started AlStateTransferTask.Failed
    (fun task => task.state = .complete) (fun task => task.slaveAddress.numTargets)
    AlStateTransferTask.command Admits
  siiReader : ChecksResponses SiiReader.Started SiiReader.Failed
    (fun task => task.state = .complete) (fun _ => 1) SiiReader.command Admits
  slaveInit : ChecksResponses SlaveInitTask.Started SlaveInitTask.Failed
    (fun task => task.state = .complete) (fun _ => 1) SlaveInitTask.command Admits
  dcInit : ChecksResponses DcInitTask.OnNetwork.StartedSmall DcInitTask.OnNetwork.Failed
    (fun dc => dc.task.state = .complete) DcInitTask.OnNetwork.expectedWkc
    (fun dc => dc.task.command) Admits

/-- **No task completes over a response that is not its own**, in any run whose first step does not
show a response of an earlier PDU that passes for one of the task. -/
theorem requestTasks_checkResponses {Admits : FirstResponse}
    (hadmits : ∀ command expected shown, Admits command expected shown →
      NoStale command expected shown) : RequestTasksCheckResponses Admits where
  addressAccess := checksResponses_of_stepChecks AddressAccessTask.stepChecks
    (fun _ _ => trivial) (fun task hcomplete ⟨e, he⟩ => by
      rw [hcomplete] at he
      cases he) hadmits
  alStateTransfer := checksResponses_of_stepChecks AlStateTransferTask.stepChecks
    (fun _ _ => trivial) (fun task hcomplete ⟨e, he⟩ => by
      rw [hcomplete] at he
      cases he) hadmits
  siiReader := checksResponses_of_stepChecks SiiReader.stepChecks
    (fun _ _ => trivial) (fun task hcomplete ⟨e, he⟩ => by
      rw [hcomplete] at he
      cases he) hadmits
  slaveInit := checksResponses_of_stepChecks SlaveInitTask.stepChecks
    (fun _ _ => trivial) (fun task hcomplete ⟨e, he⟩ => by
      rw [hcomplete] at he
      cases he) hadmits
  dcInit := checksResponses_of_stepChecks DcInitTask.OnNetwork.stepChecks
    (fun _ hstarted => DcInitTask.OnNetwork.counted_of_startedSmall hstarted)
    (fun dc hcomplete ⟨e, he⟩ => by
      rw [hcomplete] at he
      cases he) hadmits

/-! ## A response that was left behind -/

/-- A segment with one slave, which counts in the first datagram of every frame.  Its device refuses
tokens. -/
structure Serving where
  device : Refusing Loopback

namespace Serving

/-- The working counter stands behind the data of the datagram. -/
def count (frame : List UInt8) : List UInt8 := frame.set (26 + (frame.getD 22 0).toNat) 1

instance : RawEthernetDevice Serving where
  transmit d :=
    match RawEthernetDevice.transmit d.device with
    | .none device => .none ⟨device⟩
    | .some token => .some fun len =>
      match token len with
      | .refused error device => .refused error ⟨device⟩
      | .filled buffer send => .filled buffer fun bytes => ((send bytes).1, ⟨(send bytes).2⟩)
  receive d :=
    match RawEthernetDevice.receive d.device with
    | .none device => .none ⟨device⟩
    | .some (.refused error device) => .some (.refused error ⟨device⟩)
    | .some (.frame bytes result device) => .some (.frame (count bytes) result ⟨device⟩)

/-- An interface with one socket of sixteen bytes. -/
def sif (refusals : List Bool) : SocketInterface Serving 1 where
  iface := .new ⟨⟨refusals, .new [] []⟩⟩ (List.replicate 64 0)
  socketSet := ⟨1, Vector.replicate 1 (.exist (.new (List.replicate 16 0)))⟩

/-- A read of the slave's register 0x0000, and then a write of its register 0x0120. -/
def steps (turns : ℕ) : List CallStep :=
  [.start (.readRegister (.single (.slavePosition 0)) 0x0000 2), .turn, .turn,
    .start (.writeRegister (.single (.slavePosition 0)) 0x0120 [4, 0])] ++
    List.replicate turns .turn

/-- The last call has returned `Ok`. -/
def hasWritten : SocketUse Serving 1 → Bool
  | .free _ (.finished (.writeRegister ..) (.ok ())) _ => true
  | _ => false

/-- What the task of the write has produced and processed, the registers that all frames have asked
for, and whether the write has returned `Ok`. -/
def seen (s : SocketUse Serving 1) :
    List (Command × List UInt8) × List Pdu × List UInt16 × Bool :=
  (s.record.produced, s.record.processed,
    (s.sif.iface.ethdev.device.device.sent.flatMap datagramsOf).map fun pdu =>
      (EtherCatPdu.datagram pdu).ado,
    hasWritten s)

/-- The calls on a device that answers all frames but those that it refuses. -/
def run (refusals : List Bool) (turns : ℕ) : Exec (SocketUse Serving 1) :=
  Transition.run (SocketUse.step 0) (.new (sif refusals)) (steps turns)

end Serving

-- Without a refusal the write has its own PDU.
example : (Serving.run [] 2).map Serving.seen =
    .ok ([(⟨.apwr, 0, 0x0120⟩, [4, 0])], [⟨⟨.apwr, 0, 0x0120⟩, [4, 0], 1⟩], [0x0000, 0x0120],
      true) := by
  decide +kernel

/-- An answer of the slave. -/
def servedReply : Reply := ⟨fun pdu => { pdu with wkc := 1 }, 0⟩

/-- A read that was started on a fresh socket. -/
def freshRead : Driven AddressAccessTask :=
  ⟨AddressAccessTask.new.startToRead (.single (.slavePosition 0)) 0x0130 2,
    .new (List.replicate 16 0)⟩

/-- The read with its PDU out. -/
def askingRead : Driven AddressAccessTask :=
  ⟨{ freshRead.task with command := ⟨.aprd, 0, 0x0130⟩ },
    .store (some (⟨.aprd, 0, 0x0130⟩, 2)) (List.replicate 16 0)⟩

/-- The read of a register: its one response is accepted. -/
theorem requestTasks_checkResponses_read :
    freshRead.step servedReply = .ok askingRead ∧
      (∃ d, askingRead.step servedReply = .ok d ∧ d.task.state = .complete) ∧
      ∃ arrival, arrived (fun task => task.slaveAddress.numTargets) freshRead askingRead servedReply
        [servedReply] = [arrival] ∧ arrival.Accepted := by
  have hchecks : RequestTasksCheckResponses NoStale :=
    requestTasks_checkResponses fun _ _ _ hnoStale => hnoStale
  have hbegins : Begins AddressAccessTask.Started (fun task => task.slaveAddress.numTargets)
      AddressAccessTask.command NoStale freshRead servedReply :=
    ⟨.inl ⟨.new, .single (.slavePosition 0), 0x0130, 2, rfl⟩, by rintro _ ⟨⟩⟩
  have hshown : arrived (fun task => task.slaveAddress.numTargets) freshRead askingRead servedReply
      [servedReply] =
        [⟨some ⟨⟨.aprd, 0, 0x0130⟩, [0, 0], 0⟩, ⟨⟨.aprd, 0, 0x0130⟩, [0, 0], 1⟩, 1⟩] := rfl
  have haccepted := hchecks.addressAccess.accepted_of_completed freshRead askingRead
    ⟨{ askingRead.task with state := .complete }, .store none (List.replicate 16 0)⟩ servedReply
    [servedReply] hbegins rfl rfl rfl
  refine ⟨rfl, ⟨_, rfl, rfl⟩, _, hshown, haccepted _ ?_⟩
  rw [hshown]
  exact List.mem_singleton_self _

/-- The write as it was started, with the response to the read in its socket. -/
def staleWrite : Driven AddressAccessTask :=
  ⟨{ AddressAccessTask.new with state := .write, dataSize := 2, ado := 0x0120 },
    ⟨some .default, List.replicate 16 0, 1, 2, true⟩⟩

/-- **A write that is not made.**  The token for the read of register 0x0000 is refused, and this
read is aborted.  The write that follows sends the PDU of the read, takes its response for its own,
and returns `Ok` without having produced a PDU. -/
theorem addressAccess_completes_unsent :
    (Serving.run [true] 1).map Serving.seen =
        .ok ([], [⟨⟨.aprd, 0, 0x0000⟩, [0, 0], 1⟩], [0x0000], true) ∧
      staleWrite.seen servedReply = some ⟨⟨.aprd, 0, 0x0000⟩, [0, 0], 1⟩ ∧
      ¬ RequestTasksCheckResponses AnyFirst := by
  refine ⟨by decide +kernel, rfl, fun h => ?_⟩
  have hbegins : Begins AddressAccessTask.Started (fun task => task.slaveAddress.numTargets)
      AddressAccessTask.command AnyFirst staleWrite servedReply :=
    ⟨.inr ⟨.new, .single (.slavePosition 0), 0x0120, [4, 0], List.replicate 16 0, _, rfl⟩, trivial⟩
  obtain ⟨sent, hsent, -⟩ := h.addressAccess.accepted_of_completed staleWrite
    ⟨{ staleWrite.task with dataSize := 0, state := .complete }, .store none (List.replicate 16 0)⟩
    _ servedReply [] hbegins rfl rfl rfl _ List.mem_cons_self
  cases hsent

end EtherCat
