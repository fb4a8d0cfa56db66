import EtherCat.Task.MailboxRepeat
import EtherCat.Task.MailboxSentFrame
import EtherCat.Task.SdoFailures

/-!
# Successive SDO transfers with one slave

The slave takes each request and answers it with one response; between the responses it puts
messages of its own into its send mailbox, which is a queue.  `SdoSession` runs `read_sdo` and
`write_sdo` one after another against such a slave.  A call sends one request and reads one message,
so that call number `i` reads message number `i` of all that the slave has put: the response to its
own request exactly if no message of the slave's own was put before it
(`SdoSession.reads_own_response_iff`).
-/

namespace EtherCat

open Rust Rust.Exec BitField CyclicTask SocketInterface

/-! ## The slave -/

/-- A message in the send mailbox: one of the slave's own, or the response to a request. -/
inductive Message
  | extra (bytes : List UInt8)
  | response (bytes : List UInt8)
  deriving DecidableEq, Repr

namespace Message

/-- The bytes of a message. -/
def bytes : Message → List UInt8
  | extra bytes => bytes
  | response bytes => bytes

/-- The message answers a request. -/
def isResponse : Message → Bool
  | extra _ => false
  | response _ => true

end Message

/-- The command that reads the status of a mailbox. -/
def statusCommand (slaveInfo : SlaveInfo) (sm : SyncManager) : Command :=
  .newRead (.single slaveInfo.slaveAddress) (SyncManagerStatus.address + sm.number.toUInt16 * 0x08)

/-- The sync manager of the receive mailbox. -/
def rxSm (slaveInfo : SlaveInfo) : SyncManager := slaveInfo.mailboxRxSm.getD .default

/-- The command that writes a request. -/
def requestCommand (slaveInfo : SlaveInfo) : Command :=
  .newWrite (.single slaveInfo.slaveAddress) (rxSm slaveInfo).startAddress

/-- The mailboxes of a slave: how many requests it has taken, the messages that it has put into its
send mailbox, in their order, and how many of them have been read. -/
structure MailboxQueue where
  requests : ℕ
  put : List Message
  taken : ℕ
  deriving DecidableEq, Repr

namespace MailboxQueue

/-- Two mailboxes that were never used. -/
def empty : MailboxQueue := ⟨0, [], 0⟩

/-- The slave puts a message behind the others.  A response needs a request without one. -/
def add (queue : MailboxQueue) : Message → MailboxQueue
  | .extra bytes => { queue with put := queue.put ++ [.extra bytes] }
  | .response bytes =>
    if queue.put.countP Message.isResponse < queue.requests then
      { queue with put := queue.put ++ [.response bytes] }
    else queue

/-- What the slave makes of a PDU: its receive mailbox is always empty, its send mailbox is full
while there is a message that has not been read. -/
def answer (slaveInfo : SlaveInfo) (queue : MailboxQueue) (pdu : Pdu) : Pdu × MailboxQueue :=
  if pdu.command = statusCommand slaveInfo (rxSm slaveInfo) then
    ({ pdu with data := [0, 0], wkc := 1 }, queue)
  else if pdu.command = statusCommand slaveInfo (txSm slaveInfo) then
    ({ pdu with data := [if queue.taken < queue.put.length then 0x08 else 0, 0], wkc := 1 }, queue)
  else if pdu.command = requestCommand slaveInfo then
    ({ pdu with wkc := 1 }, { queue with requests := queue.requests + 1 })
  else if pdu.command = readCommand slaveInfo then
    match queue.put[queue.taken]? with
    | some message =>
      ({ pdu with data := message.bytes, wkc := 1 }, { queue with taken := queue.taken + 1 })
    | none => (pdu, queue)
  else (pdu, queue)

/-- The message that a PDU reads. -/
def handsOut (slaveInfo : SlaveInfo) (queue : MailboxQueue) (pdu : Pdu) : Option Message :=
  if pdu.command = readCommand slaveInfo then queue.put[queue.taken]? else none

end MailboxQueue

/-- The registers of the two mailboxes and the send mailbox lie apart. -/
structure SlaveInfo.MailboxesApart (slaveInfo : SlaveInfo) : Prop where
  status_ne : statusCommand slaveInfo (txSm slaveInfo) ≠ statusCommand slaveInfo (rxSm slaveInfo)
  read_ne_rx : readCommand slaveInfo ≠ statusCommand slaveInfo (rxSm slaveInfo)
  read_ne_tx : readCommand slaveInfo ≠ statusCommand slaveInfo (txSm slaveInfo)

/-! ## The session -/

/-- A call of the application. -/
inductive SdoCall
  | read (index : UInt16) (subIndex : UInt8)
  | write (index : UInt16) (subIndex : UInt8) (data : List UInt8)

namespace SdoCall

/-- What a call gives back. -/
def Value : SdoCall → Type
  | read .. => List UInt8
  | write .. => Unit

/-- What a call returns, with the slave's record. -/
abbrev Result (call : SdoCall) : Type := Except (TaskError SdoErrorKind) call.Value × Slave

/-- The method of the master. -/
def program (usizeBits : ℕ) (slave : Slave) : (call : SdoCall) → CallProgram call.Result
  | read index subIndex => readSdo usizeBits slave index subIndex
  | write index subIndex data => writeSdo usizeBits slave index subIndex data

/-- The request of a call. -/
def message : SdoCall → Mailbox
  | read index subIndex => .newSdoUploadRequest index subIndex
  | write index subIndex data => .newSdoDownloadRequest index subIndex data

/-- What a call makes of the message that it has read. -/
def decode (usizeBits : ℕ) (count : UInt8) (mbData : List UInt8) :
    (call : SdoCall) → Exec (Except (TaskError SdoErrorKind) call.Value)
  | read .. => decodeAnswer usizeBits (onUpload count mbData) mbData
  | write .. => decodeAnswer usizeBits (onDownload count mbData) mbData

lemma program_eq (usizeBits : ℕ) (slave : Slave) (call : SdoCall) :
    call.program usizeBits slave =
      transferSdo slave call.message fun count mbData => call.decode usizeBits count mbData := by
  cases call <;> rfl

end SdoCall

namespace SocketProgram

variable {α : Type}

/-- The socket of a call. -/
def socket : SocketProgram α → PduSocket
  | returned _ socket => socket
  | cut socket => socket
  | calling _ _ block => block.driven.socket

end SocketProgram

/-- The PDU that a socket gives to the interface. -/
def PduSocket.sent (socket : PduSocket) : Option Pdu :=
  match socket.takePdu with
  | .ok (pdu, _) => pdu
  | .error _ => none

/-- The master and one slave: `calls` have been begun, `requested` are the numbers of the calls
whose requests the slave has taken, and `handed` are the messages that were read, each with the
number of the call. -/
structure SdoSession where
  slave : Slave
  socket : PduSocket
  running : Option (Σ call : SdoCall, SocketProgram call.Result)
  calls : ℕ
  queue : MailboxQueue
  requested : List ℕ
  handed : List (Message × ℕ)

/-- The application begins a call, or the interface is polled after the slave has put messages into
its mailbox. -/
inductive SdoMove
  | call (call : SdoCall)
  | poll (result : Except PhyError Bool) (added : List Message)

namespace SdoSession

/-- A session in which nothing was called. -/
def new (slave : Slave) (dataBuf : List UInt8) : SdoSession :=
  ⟨slave, .store none dataBuf, none, 0, .empty, [], []⟩

/-- The session after a poll of the running call. -/
def continueWith (s : SdoSession) (call : SdoCall) (program : SocketProgram call.Result) :
    SdoSession :=
  match program.result with
  | some ((_, slave), socket) => { s with running := none, slave := slave, socket := socket }
  | none => { s with running := some ⟨call, program⟩ }

/-- The slave answers the PDU that has been sent. -/
def exchange (s : SdoSession) (sent : Option Pdu) : SdoSession :=
  match sent with
  | none => s
  | some pdu =>
    { s with
      queue := (s.queue.answer s.slave.info pdu).2
      requested := s.requested ++
        if pdu.command = requestCommand s.slave.info then [s.calls - 1] else []
      handed := s.handed ++
        ((s.queue.handsOut s.slave.info pdu).map fun message => (message, s.calls - 1)).toList }

/-- The PDU that a poll moves. -/
def sentBy (socket : PduSocket) : Except PhyError Bool → Option Pdu
  | .ok true => socket.sent
  | _ => none

/-- A poll of the running call. -/
def pollRunning (s : SdoSession) (call : SdoCall) (program : SocketProgram call.Result)
    (result : Except PhyError Bool) : Exec SdoSession := do
  let next ← program.step ⟨result, fun pdu => (s.queue.answer s.slave.info pdu).1⟩
  .ok ((s.exchange (sentBy program.socket result)).continueWith call next)

/-- One move of the session. A call is begun only when no other one runs. -/
def step (usizeBits : ℕ) (s : SdoSession) : SdoMove → Exec SdoSession
  | .call call =>
    match s.running with
    | some _ => .ok s
    | none => do
      let program ← SocketProgram.resume (call.program usizeBits s.slave) s.socket
      .ok { s with running := some ⟨call, program⟩, calls := s.calls + 1 }
  | .poll result added =>
    let s := { s with queue := added.foldl MailboxQueue.add s.queue }
    match s.running with
    | none => .ok s
    | some ⟨call, program⟩ => s.pollRunning call program result

end SdoSession

/-! ## The tasks keep their target -/

namespace MailboxWriteTask

/-- Where a task writes. -/
def target (task : MailboxWriteTask) : SlaveAddress × UInt16 × UInt16 :=
  (task.slaveAddress, task.smAdoOffset, task.smStartAddress)

lemma SameCall.target_eq {task task' : MailboxWriteTask} (h : SameCall task task') :
    task'.target = task.target := by
  rw [target, target, h.slaveAddress_eq, h.smAdoOffset_eq, h.smStartAddress_eq]

lemma target_of_processState {task task' : MailboxWriteTask} {recv : Pdu} {time : ℕ}
    (h : task.processState recv time = .ok task') : task'.target = task.target := by
  unfold processState at h
  split at h
  case h_4 isFirst waitEmpty hstate =>
    unfold processCheck at h
    dsimp only at h
    split at h
    · cases h
      cases isFirst <;> rfl
    · obtain ⟨isMailboxFull, -, heq⟩ := bind_eq_ok.mp h
      cases heq
      cases isFirst <;> cases isMailboxFull <;> cases waitEmpty <;> rfl
  all_goals
    cases h
    rfl

lemma target_of_recieveAndProcess {task task' : MailboxWriteTask} {recv : Pdu} {time : ℕ}
    (h : task.recieveAndProcess recv time = .ok task') : task'.target = task.target := by
  obtain ⟨processed, hprocess, heq⟩ := bind_eq_ok.mp h
  cases heq
  have hprocessed := target_of_processState hprocess
  have hchecked : (task.checked recv).target = task.target := by
    unfold checked
    split <;> rfl
  have htimed : (processed.timed time).target = processed.target := by
    unfold timed
    split <;> rfl
  rw [htimed, hprocessed, hchecked]

/-- A task that does not wait for an empty mailbox goes on to the write. -/
lemma state_of_goesOn {task task' : MailboxWriteTask} {recv : Pdu} {time : ℕ} {isFirst : Bool}
    (hstate : task.state = .checkMailboxEmpty isFirst false)
    (h : task.recieveAndProcess recv time = .ok task') (hbusy : task'.isBusy = true) :
    task'.state = .write := by
  have hmove := (move_of_recieveAndProcess h).1
  rw [isBusy] at hbusy
  generalize task'.state = state' at hmove hbusy
  cases hmove with
  | failed => cases hbusy
  | resting hidle =>
      rw [isBusy, hstate] at hidle
      cases hidle
  | empty | lost => rfl
  | full _ hwaits =>
      rw [hstate] at hwaits
      cases hwaits
  | taken hwrite =>
      rw [hstate] at hwrite
      cases hwrite

end MailboxWriteTask

namespace MailboxReadTask

/-- Where a task reads. -/
def target (task : MailboxReadTask) : SlaveAddress × UInt16 × UInt16 :=
  (task.slaveAddress, task.smAdoOffset, task.smStartAddress)

lemma SameCall.target_eq {task task' : MailboxReadTask} (h : SameCall task task') :
    task'.target = task.target := by
  rw [target, target, h.slaveAddress_eq, h.smAdoOffset_eq, h.smStartAddress_eq]

lemma SameTarget.target_eq {task task' : MailboxReadTask} (h : SameTarget task task') :
    task'.target = task.target := by
  rw [target, target, h.slaveAddress_eq, h.smAdoOffset_eq, h.smStartAddress_eq]

/-- A task that waits for a message reads the mailbox once it is full. -/
lemma state_of_goesOn {task task' : MailboxReadTask} {recv : Pdu} {time : ℕ} {isFirst : Bool}
    (hstate : task.state = .checkMailboxAlreadyExisted isFirst true)
    (h : task.recieveAndProcess recv time = .ok task') (hbusy : task'.isBusy = true) :
    (∃ isFirst', task'.state = .checkMailboxAlreadyExisted isFirst' true) ∨
      task'.state = .read ∧ SyncManagerStatus.isMailboxFull.val recv.data ≠ 0 := by
  have hmove := move_of_recieveAndProcess h
  rw [isBusy] at hbusy
  generalize task'.state = state' at hmove hbusy
  generalize task'.activationBuf = activationBuf' at hmove
  cases hmove with
  | failed => cases hbusy
  | resting hidle =>
      rw [isBusy, hstate] at hidle
      cases hidle
  | full _ _ _ _ hfull => exact .inr ⟨rfl, hfull⟩
  | empty => exact .inl ⟨false, rfl⟩
  | taken hread | lost hread =>
      rw [hstate] at hread
      cases hread
  | requested hread | acknowledged hread | unacknowledged hread =>
      rw [hstate] at hread
      cases hread

end MailboxReadTask

namespace SdoSession

variable {n : ℕ} {slaveInfo : SlaveInfo}

/-! ## The write of a request -/

lemma sentBy_of_not_moved {result : Except PhyError Bool} (h : result ≠ .ok true)
    (socket : PduSocket) : sentBy socket result = none := by
  unfold sentBy
  split
  · exact absurd rfl h
  · rfl

lemma ask_writer {writer : MailboxWriteTask} (hcall : writer.InCall n) {dataBuf : List UInt8}
    (hlength : dataBuf.length = n) {d : Driven MailboxTask}
    (hask : Driven.ask (⟨.processing, .writer writer⟩ : MailboxTask) dataBuf = .ok d) :
    ∃ writer' buf', d = ⟨⟨.processing, .writer writer'⟩, .store (some writer.statePdu) buf'⟩ ∧
      MailboxWriteTask.SameCall writer writer' := by
  obtain ⟨buf', writer', hnext, hsame⟩ := hcall.nextPdu_eq hlength
  have hnext' : MailboxTask.nextPdu ⟨.processing, .writer writer⟩ dataBuf =
      .ok ((some writer.statePdu, buf'), ⟨.processing, .writer writer'⟩) :=
    bind_eq_ok.mpr ⟨_, hnext, rfl⟩
  refine ⟨writer', buf', ?_, hsame⟩
  change MailboxTask.nextPdu _ dataBuf >>= _ = _ at hask
  rw [hnext', ok_bind] at hask
  cases hask
  rfl

lemma ask_reader {reader : MailboxReadTask} (hcall : reader.InCall n) {dataBuf : List UInt8}
    (hlength : dataBuf.length = n) {d : Driven MailboxTask}
    (hask : Driven.ask (⟨.processing, .reader reader⟩ : MailboxTask) dataBuf = .ok d) :
    ∃ reader' buf', d = ⟨⟨.processing, .reader reader'⟩, .store (some reader.statePdu) buf'⟩ ∧
      MailboxReadTask.SameCall reader reader' := by
  obtain ⟨buf', reader', hnext, hsame⟩ := hcall.nextPdu_eq hlength
  have hnext' : MailboxTask.nextPdu ⟨.processing, .reader reader⟩ dataBuf =
      .ok ((some reader.statePdu, buf'), ⟨.processing, .reader reader'⟩) :=
    bind_eq_ok.mpr ⟨_, hnext, rfl⟩
  refine ⟨reader', buf', ?_, hsame⟩
  change MailboxTask.nextPdu _ dataBuf >>= _ = _ at hask
  rw [hnext', ok_bind] at hask
  cases hask
  rfl

/-- The PDU of a running call. -/
lemma sent_of_store {command : Command} {size : ℕ} {dataBuf : List UInt8}
    (hsize : size ≤ dataBuf.length) :
    (PduSocket.store (some (command, size)) dataBuf).sent =
      some ⟨command, dataBuf.take size, 0⟩ := by
  have htake : sliceTo dataBuf size = .ok (dataBuf.take size) := sliceTo_eq_ok_iff.mpr ⟨hsize, rfl⟩
  have hpdu : (PduSocket.store (some (command, size)) dataBuf).takePdu =
      .ok (some ⟨command, dataBuf.take size, 0⟩, ⟨none, dataBuf, 0, size, false⟩) := by
    change sliceTo dataBuf size >>= _ = _
    rw [htake]
    rfl
  rw [PduSocket.sent, hpdu]

/-- The invariant of the write: the status is polled, or the request is out. -/
structure Requesting (n : ℕ) (slaveInfo : SlaveInfo) (block : Blocked MailboxTask) : Prop where
  inCall : block.InCall n
  writer : ∃ writer : MailboxWriteTask, block.driven.task = ⟨.processing, .writer writer⟩ ∧
    writer.target = (slaveInfo.slaveAddress, (rxSm slaveInfo).number.toUInt16 * 0x08,
      (rxSm slaveInfo).startAddress) ∧
    ((∃ isFirst, writer.state = .checkMailboxEmpty isFirst false) ∨
      writer.state = .write ∧ block.driven.socket.command ≠ none)

lemma decides_of_write {task : MailboxWriteTask} {recv : Pdu} (hstate : task.state = .write)
    (hwkc : recv.wkc = 1) : task.decides recv ≠ none := by
  have hbusy : task.isBusy = true := by rw [MailboxWriteTask.isBusy, hstate]
  unfold MailboxWriteTask.decides
  rw [hbusy, Bool.not_true, if_neg Bool.false_ne_true]
  split
  · rintro ⟨⟩
  · rw [hstate, hwkc]
    rintro ⟨⟩

lemma state_of_decides_ok {task : MailboxWriteTask} {recv : Pdu}
    (h : task.decides recv = some (.ok ())) : task.state = .write := by
  unfold MailboxWriteTask.decides at h
  split at h
  · cases h
  split at h
  · cases h
  split at h
  · split at h
    · cases h
    · split at h <;> cases h
  · next hstate => exact hstate
  · cases h

lemma ends_eq_ok {block : Blocked MailboxTask} {polled : Polled}
    (h : block.ends polled = some (.ok ())) : polled.result = .ok true ∧ ∃ recv,
      block.driven.seen ⟨polled.respond, block.count⟩ = some recv ∧
        block.driven.task.ends recv = some (.ok ()) := by
  unfold Blocked.ends at h
  split at h
  · next hmoved =>
      refine ⟨hmoved, ?_⟩
      split at h
      · next hbind =>
          cases h
          exact Option.bind_eq_some_iff.mp hbind
      · split at h <;> cases h
  all_goals cases h

lemma ends_eq_none {block : Blocked MailboxTask} {polled : Polled}
    (h : block.ends polled = none) (hmoved : polled.result = .ok true) {recv : Pdu}
    (hseen : block.driven.seen ⟨polled.respond, block.count⟩ = some recv) :
    block.driven.task.ends recv = none := by
  unfold Blocked.ends at h
  rw [hmoved, hseen] at h
  dsimp only [Option.bind_some] at h
  rcases hends : block.driven.task.ends recv with _ | outcome
  · rfl
  · rw [hends] at h
    cases h

/-- The PDU of a running call, and its response. -/
lemma seen_of_inCall {block : Blocked MailboxTask} (h : block.InCall n) (respond : Pdu → Pdu) :
    block.driven.socket.command = none ∧ block.driven.socket.sent = none ∧
        block.driven.seen ⟨respond, block.count⟩ = none ∨
      block.driven.socket.command ≠ none ∧ ∃ pdu dataBuf, block.driven.socket.sent = some pdu ∧
        dataBuf.length = n ∧ pdu.command = block.driven.task.statePdu.1 ∧
        block.driven.seen ⟨respond, block.count⟩ = some ⟨(respond pdu).command,
          (overwrite dataBuf (respond pdu).data).take block.driven.task.statePdu.2,
          (respond pdu).wkc⟩ := by
  obtain ⟨⟨task, socket⟩, count⟩ := block
  obtain ⟨pdu, dataBuf, hsocket, hlength, hpdu⟩ := h.socket
  dsimp only at hsocket hpdu
  subst hsocket
  rcases pdu with _ | ⟨command, size⟩
  · exact .inl ⟨rfl, rfl, rfl⟩
  · have hasked := hpdu (command, size) rfl
    have hsize : size ≤ dataBuf.length := by
      rw [hlength, show size = _ from congrArg Prod.snd hasked]
      exact h.task.size_le
    refine .inr ⟨by rintro ⟨⟩, _, dataBuf, sent_of_store hsize, hlength,
      congrArg Prod.fst hasked, ?_⟩
    rw [Driven.seen_of_asking hsize, ← hasked]
    rfl

/-- **A call that goes on** asks for its next PDU, perhaps after a response. -/
lemma ask_of_goesOn {block block' : Blocked MailboxTask} (h : block.InCall n)
    {respond : Pdu → Pdu} {outcome : Option (Except (TaskError MailboxTaskError) Unit)}
    (hturn : block.turn MailboxTaskError ⟨.ok true, respond⟩ = .ok (outcome, block'))
    (hends : block.ends ⟨.ok true, respond⟩ = none) :
    ∃ asking dataBuf, asking.InCall n ∧ dataBuf.length = n ∧
      Driven.ask asking dataBuf = .ok block'.driven ∧
      (block.driven.socket.command = none ∧ asking = block.driven.task ∨
        ∃ recv, block.driven.seen ⟨respond, block.count⟩ = some recv ∧
          block.driven.task.ends recv = none ∧
          block.driven.task.recieveAndProcess recv block.count = .ok asking) := by
  obtain ⟨⟨task, socket⟩, count⟩ := block
  obtain ⟨hcall, hcount, pdu, dataBuf, hsocket, hlength, hpdu⟩ := h
  dsimp only at hcall hcount hsocket hpdu
  subst hsocket
  rcases Blocked.turn_eq_ok hturn with ⟨hnot, -⟩ | ⟨-, hstep, -⟩
  · exact absurd rfl hnot
  rcases pdu with _ | ⟨command, size⟩
  · rw [Driven.step_of_silent] at hstep
    exact ⟨task, dataBuf, hcall, hlength, hstep, .inl ⟨rfl, rfl⟩⟩
  · have hasked := hpdu (command, size) rfl
    have hsize : size ≤ dataBuf.length := by
      rw [hlength, show size = _ from congrArg Prod.snd hasked]
      exact hcall.size_le
    have hseen : (⟨task, .store (some (command, size)) dataBuf⟩ : Driven MailboxTask).seen
        ⟨respond, count⟩ = some (Driven.shown command size dataBuf ⟨respond, count⟩) :=
      Driven.seen_of_asking hsize _
    have hnone := ends_eq_none hends rfl hseen
    obtain ⟨processed, hrecieve, -, hinCall⟩ := hcall.recieveAndProcess_eq
      ((Driven.length_shown hsize _).trans (congrArg Prod.snd hasked)) hcount
    rw [Driven.step_of_asking hsize] at hstep
    change task.recieveAndProcess _ _ >>= _ = _ at hstep
    rw [hrecieve, ok_bind] at hstep
    exact ⟨processed, _, hinCall hnone, (Driven.length_answered _ _ _ _).trans hlength, hstep,
      .inr ⟨_, hseen, hnone, hrecieve⟩⟩

lemma requestCommand_ne_statusCommand (sm : SyncManager) :
    requestCommand slaveInfo ≠ statusCommand slaveInfo sm := by
  intro h
  cases congrArg Command.cType h

/-- The slave takes the request. -/
lemma answer_request (queue : MailboxQueue) {pdu : Pdu}
    (h : pdu.command = requestCommand slaveInfo) :
    queue.answer slaveInfo pdu =
      ({ pdu with wkc := 1 }, { queue with requests := queue.requests + 1 }) := by
  rw [MailboxQueue.answer, if_neg (h ▸ requestCommand_ne_statusCommand _),
    if_neg (h ▸ requestCommand_ne_statusCommand _), if_pos h]

/-- The PDUs of the write. -/
lemma statePdu_of_requesting {block : Blocked MailboxTask} (h : Requesting n slaveInfo block)
    {writer : MailboxWriteTask} (htask : block.driven.task = ⟨.processing, .writer writer⟩) :
    (writer.state = .write → block.driven.task.statePdu.1 = requestCommand slaveInfo) ∧
      ((∃ isFirst, writer.state = .checkMailboxEmpty isFirst false) →
        block.driven.task.statePdu.1 = statusCommand slaveInfo (rxSm slaveInfo)) := by
  obtain ⟨writer', htask', htarget, -⟩ := h.writer
  cases htask.symm.trans htask'
  obtain ⟨haddress, hoffset, hstart⟩ := Prod.ext_iff.mp htarget |>.imp_right Prod.ext_iff.mp
  rw [htask]
  refine ⟨fun hstate => ?_, ?_⟩
  · change writer.statePdu.1 = _
    rw [MailboxWriteTask.statePdu, hstate, requestCommand]
    dsimp only at haddress hstart ⊢
    rw [← hstart, ← haddress]
    rfl
  · rintro ⟨isFirst, hstate⟩
    change writer.statePdu.1 = _
    rw [MailboxWriteTask.statePdu, hstate, statusCommand]
    dsimp only at haddress hoffset ⊢
    rw [← hoffset, ← haddress]
    rfl

/-- A write that goes on has not sent its request. -/
lemma Requesting.goesOn {block block' : Blocked MailboxTask} (h : Requesting n slaveInfo block)
    {queue : MailboxQueue} {outcome : Option (Except (TaskError MailboxTaskError) Unit)}
    (hturn : block.turn MailboxTaskError ⟨.ok true, fun pdu => (queue.answer slaveInfo pdu).1⟩ =
      .ok (outcome, block'))
    (hends : block.ends ⟨.ok true, fun pdu => (queue.answer slaveInfo pdu).1⟩ = none)
    (hcall' : block'.InCall n) :
    Requesting n slaveInfo block' ∧ ∀ pdu, block.driven.socket.sent = some pdu →
      pdu.command = statusCommand slaveInfo (rxSm slaveInfo) := by
  obtain ⟨writer, htask, htarget, hstate⟩ := h.writer
  obtain ⟨hwrites, hchecks⟩ := statePdu_of_requesting h htask
  obtain ⟨asking, dataBuf', hasking, hlength, hask, hnext⟩ := ask_of_goesOn h.inCall hturn hends
  rw [htask] at hnext
  rcases seen_of_inCall h.inCall fun pdu => (queue.answer slaveInfo pdu).1 with
    ⟨hsilent, hsent, hseen⟩ | ⟨hout, pdu, dataBuf, hsent, -, hcommand, hseen⟩
  · have hchecking : ∃ isFirst, writer.state = .checkMailboxEmpty isFirst false :=
      hstate.resolve_right fun hwrite => hwrite.2 hsilent
    obtain ⟨-, rfl⟩ | ⟨recv, hseen', -⟩ := hnext
    · obtain ⟨writer', buf', hdriven, hsame⟩ := ask_writer hasking.inner hlength hask
      refine ⟨⟨hcall', writer', by rw [hdriven], ?_, .inl ?_⟩, fun pdu hpdu => ?_⟩
      · rw [MailboxWriteTask.SameCall.target_eq hsame, htarget]
      · rwa [hsame.state_eq]
      · cases hsent.symm.trans hpdu
    · cases hseen.symm.trans hseen'
  · obtain ⟨hsilent, -⟩ | ⟨recv, hseen', hnone, hrecieve⟩ := hnext
    · exact absurd hsilent hout
    cases hseen.symm.trans hseen'
    rcases hstate with ⟨isFirst, hstate⟩ | ⟨hstate, -⟩
    · obtain ⟨processed, hrecieve', rfl⟩ := MailboxTask.recieveAndProcess_writer hrecieve
      have hprocessing : MailboxTask.stateAfter processed.waitResult = .processing :=
        hasking.state_eq
      have hinner : processed.InCall n := hasking.inner
      rw [hprocessing] at hask
      obtain ⟨writer', buf', hdriven, hsame⟩ := ask_writer hinner hlength hask
      refine ⟨⟨hcall', writer', by rw [hdriven], ?_, .inr ⟨?_, by rw [hdriven]; rintro ⟨⟩⟩⟩,
        fun pdu' hpdu => ?_⟩
      · rw [MailboxWriteTask.SameCall.target_eq hsame,
          MailboxWriteTask.target_of_recieveAndProcess hrecieve', htarget]
      · exact hsame.state_eq.trans
          (MailboxWriteTask.state_of_goesOn hstate hrecieve' hinner.busy)
      · cases hsent.symm.trans hpdu
        exact hcommand.trans (hchecks ⟨isFirst, hstate⟩)
    · -- the slave has taken the request
      have hwkc : (queue.answer slaveInfo pdu).1.wkc = 1 := by
        rw [answer_request queue (hcommand.trans (hwrites hstate))]
      exact absurd hnone (decides_of_write hstate hwkc)

/-- **A turn of the write.**  It goes on, the request has been written, or it fails. -/
lemma Requesting.turn {block : Blocked MailboxTask} (h : Requesting n slaveInfo block)
    (queue : MailboxQueue) (result : Except PhyError Bool) :
    ∃ outcome block',
      block.turn MailboxTaskError ⟨result, fun pdu => (queue.answer slaveInfo pdu).1⟩ =
        .ok (outcome, block') ∧
      (outcome = none ∧ Requesting n slaveInfo block' ∧
          (∀ pdu, sentBy block.driven.socket result = some pdu →
            pdu.command = statusCommand slaveInfo (rxSm slaveInfo)) ∨
        outcome = some (.ok ()) ∧ block'.driven.task.waitResult = some (.ok ()) ∧
          (∃ dataBuf, block'.driven.socket = .store none dataBuf ∧ dataBuf.length = n) ∧
          (∃ pdu, sentBy block.driven.socket result = some pdu ∧
            pdu.command = requestCommand slaveInfo) ∨
        ∃ e, outcome = some (.error e) ∨
          outcome = some (.ok ()) ∧ block'.driven.task.waitResult = some (.error e)) := by
  obtain ⟨outcome, block', hturn, hgoesOn, hdone, hfailed⟩ := Blocked.turn_of_inCall h.inCall
    ⟨result, fun pdu => (queue.answer slaveInfo pdu).1⟩
  refine ⟨outcome, block', hturn, ?_⟩
  rcases hends : block.ends ⟨result, fun pdu => (queue.answer slaveInfo pdu).1⟩ with _ | e | _
  · left
    obtain ⟨rfl, hcall'⟩ := hgoesOn hends
    by_cases hmoved : result = .ok true
    · subst hmoved
      exact ⟨rfl, h.goesOn hturn hends hcall'⟩
    · obtain ⟨-, rfl, -⟩ | ⟨hmoved', -⟩ := Blocked.turn_eq_ok hturn
      · refine ⟨rfl, h, fun pdu hpdu => ?_⟩
        rw [sentBy_of_not_moved hmoved] at hpdu
        cases hpdu
      · exact absurd hmoved' hmoved
  · exact .inr (.inr ⟨e, hfailed e hends⟩)
  · -- the request was written
    obtain ⟨rfl, hwait, hsocket, hlength⟩ := hdone hends
    obtain ⟨hmoved, recv, hseen, hok⟩ := ends_eq_ok hends
    dsimp only at hmoved hseen
    subst hmoved
    obtain ⟨writer, htask, -⟩ := h.writer
    rw [htask] at hok
    have hstate : writer.state = .write := state_of_decides_ok hok
    rcases seen_of_inCall h.inCall fun pdu => (queue.answer slaveInfo pdu).1 with
      ⟨-, -, hnone⟩ | ⟨-, pdu, dataBuf, hsent, -, hcommand, -⟩
    · cases hseen.symm.trans hnone
    · exact .inr (.inl ⟨rfl, hwait, ⟨_, hsocket, hlength⟩, pdu, hsent,
        hcommand.trans ((statePdu_of_requesting h htask).1 hstate)⟩)

/-! ## The read of a response -/

/-- The invariant of the read: the status is polled, or the read is out and there is a message. -/
structure Fetching (n : ℕ) (slaveInfo : SlaveInfo) (queue : MailboxQueue)
    (block : Blocked MailboxTask) : Prop where
  inCall : block.InCall n
  reader : ∃ reader : MailboxReadTask, block.driven.task = ⟨.processing, .reader reader⟩ ∧
    reader.target = (slaveInfo.slaveAddress, (txSm slaveInfo).number.toUInt16 * 0x08,
      (txSm slaveInfo).startAddress) ∧
    ((∃ isFirst, reader.state = .checkMailboxAlreadyExisted isFirst true) ∨
      reader.state = .read ∧ block.driven.socket.command ≠ none ∧ queue.taken < queue.put.length)

lemma ends_of_read {task : MailboxReadTask} {recv : Pdu} (hstate : task.state = .read)
    (hwkc : recv.wkc = 1) : task.ends recv ≠ none := by
  have hbusy : task.isBusy = true := by rw [MailboxReadTask.isBusy, hstate]
  have hdecides : task.decides recv ≠ none := by
    unfold MailboxReadTask.decides
    rw [hbusy, Bool.not_true, if_neg Bool.false_ne_true]
    split
    · rintro ⟨⟩
    · rw [hstate, hwkc]
      rintro ⟨⟩
  obtain ⟨outcome, houtcome⟩ := Option.ne_none_iff_exists'.mp hdecides
  rw [MailboxReadTask.ends, houtcome]
  rintro ⟨⟩

lemma state_of_ends_ok {task : MailboxReadTask} {recv : Pdu}
    (h : task.ends recv = some (.ok ())) : task.state = .read := by
  unfold MailboxReadTask.ends at h
  split at h
  · next outcome hdecides =>
      cases h
      unfold MailboxReadTask.decides at hdecides
      split at hdecides
      · cases hdecides
      split at hdecides
      · cases hdecides
      split at hdecides
      · split at hdecides
        · cases hdecides
        · split at hdecides <;> cases hdecides
      · next hstate => exact hstate
      · cases hdecides
  · split at h <;> cases h

/-- The PDUs of the read. -/
lemma statePdu_of_fetching {queue : MailboxQueue} {block : Blocked MailboxTask}
    (h : Fetching n slaveInfo queue block) {reader : MailboxReadTask}
    (htask : block.driven.task = ⟨.processing, .reader reader⟩) :
    (reader.state = .read → block.driven.task.statePdu.1 = readCommand slaveInfo) ∧
      ((∃ isFirst, reader.state = .checkMailboxAlreadyExisted isFirst true) →
        block.driven.task.statePdu = (statusCommand slaveInfo (txSm slaveInfo),
          mailboxCheckSize)) := by
  obtain ⟨reader', htask', htarget, -⟩ := h.reader
  cases htask.symm.trans htask'
  obtain ⟨haddress, hoffset, hstart⟩ := Prod.ext_iff.mp htarget |>.imp_right Prod.ext_iff.mp
  rw [htask]
  refine ⟨fun hstate => ?_, ?_⟩
  · change reader.statePdu.1 = _
    rw [MailboxReadTask.statePdu, hstate, readCommand]
    dsimp only at haddress hstart ⊢
    rw [← hstart, ← haddress]
    rfl
  · rintro ⟨isFirst, hstate⟩
    change reader.statePdu = _
    rw [MailboxReadTask.statePdu, hstate, statusCommand]
    dsimp only at haddress hoffset ⊢
    rw [← hoffset, ← haddress]
    rfl

/-- The slave shows whether there is a message. -/
lemma answer_txStatus (hapart : slaveInfo.MailboxesApart) (queue : MailboxQueue) {pdu : Pdu}
    (h : pdu.command = statusCommand slaveInfo (txSm slaveInfo)) :
    queue.answer slaveInfo pdu = ({ pdu with
      data := [if queue.taken < queue.put.length then 0x08 else 0, 0], wkc := 1 }, queue) := by
  rw [MailboxQueue.answer, if_neg (h ▸ hapart.status_ne), if_pos h]

/-- The slave hands out its oldest message. -/
lemma answer_read (hapart : slaveInfo.MailboxesApart) {queue : MailboxQueue} {pdu : Pdu}
    (h : pdu.command = readCommand slaveInfo) {message : Message}
    (hmessage : queue.put[queue.taken]? = some message) :
    queue.answer slaveInfo pdu = ({ pdu with data := message.bytes, wkc := 1 },
      { queue with taken := queue.taken + 1 }) := by
  have hrequest : readCommand slaveInfo ≠ requestCommand slaveInfo := by
    intro heq
    cases congrArg Command.cType heq
  rw [MailboxQueue.answer, if_neg (h ▸ hapart.read_ne_rx), if_neg (h ▸ hapart.read_ne_tx),
    if_neg (h ▸ hrequest), if_pos h, hmessage]

/-- A full mailbox has a message. -/
lemma message_of_isMailboxFull {queue : MailboxQueue} {dataBuf : List UInt8}
    (hroom : mailboxCheckSize ≤ dataBuf.length)
    (h : SyncManagerStatus.isMailboxFull.val ((overwrite dataBuf
      [if queue.taken < queue.put.length then 0x08 else 0, 0]).take mailboxCheckSize) ≠ 0) :
    queue.taken < queue.put.length := by
  have hlength : [if queue.taken < queue.put.length then (0x08 : UInt8) else 0, 0].length ≤
      dataBuf.length := hroom
  have htake := take_overwrite hlength
  change (overwrite dataBuf _).take mailboxCheckSize = _ at htake
  rw [htake] at h
  by_contra hnone
  rw [if_neg hnone] at h
  exact h (by decide)

/-- A read that goes on has taken no message. -/
lemma Fetching.goesOn (hapart : slaveInfo.MailboxesApart) {queue : MailboxQueue}
    {block block' : Blocked MailboxTask} (h : Fetching n slaveInfo queue block)
    {outcome : Option (Except (TaskError MailboxTaskError) Unit)}
    (hturn : block.turn MailboxTaskError ⟨.ok true, fun pdu => (queue.answer slaveInfo pdu).1⟩ =
      .ok (outcome, block'))
    (hends : block.ends ⟨.ok true, fun pdu => (queue.answer slaveInfo pdu).1⟩ = none)
    (hcall' : block'.InCall n) :
    Fetching n slaveInfo queue block' ∧ ∀ pdu, block.driven.socket.sent = some pdu →
      pdu.command = statusCommand slaveInfo (txSm slaveInfo) := by
  obtain ⟨reader, htask, htarget, hstate⟩ := h.reader
  obtain ⟨hreads, hchecks⟩ := statePdu_of_fetching h htask
  obtain ⟨asking, dataBuf', hasking, hlength, hask, hnext⟩ := ask_of_goesOn h.inCall hturn hends
  have hroom : mailboxCheckSize ≤ n := by
    have hinner := h.inCall.task.inner
    rw [htask] at hinner
    exact hinner.room
  rw [htask] at hnext
  rcases seen_of_inCall h.inCall fun pdu => (queue.answer slaveInfo pdu).1 with
    ⟨hsilent, hsent, hseen⟩ | ⟨hout, pdu, dataBuf, hsent, hbuf, hcommand, hseen⟩
  · have hchecking : ∃ isFirst, reader.state = .checkMailboxAlreadyExisted isFirst true :=
      hstate.resolve_right fun hread => hread.2.1 hsilent
    obtain ⟨-, rfl⟩ | ⟨recv, hseen', -⟩ := hnext
    · obtain ⟨reader', buf', hdriven, hsame⟩ := ask_reader hasking.inner hlength hask
      refine ⟨⟨hcall', reader', by rw [hdriven], ?_, .inl ?_⟩, fun pdu hpdu => ?_⟩
      · rw [MailboxReadTask.SameCall.target_eq hsame, htarget]
      · rwa [hsame.state_eq]
      · cases hsent.symm.trans hpdu
    · cases hseen.symm.trans hseen'
  · obtain ⟨hsilent, -⟩ | ⟨recv, hseen', hnone, hrecieve⟩ := hnext
    · exact absurd hsilent hout
    cases hseen.symm.trans hseen'
    rcases hstate with ⟨isFirst, hstate⟩ | ⟨hstate, -, htaken⟩
    · obtain ⟨processed, hrecieve', rfl⟩ := MailboxTask.recieveAndProcess_reader hrecieve
      have hprocessing : MailboxTask.stateAfter processed.waitResult = .processing :=
        hasking.state_eq
      have hinner : processed.InCall n := hasking.inner
      rw [hprocessing] at hask
      obtain ⟨reader', buf', hdriven, hsame⟩ := ask_reader hinner hlength hask
      have hstatus := hchecks ⟨isFirst, hstate⟩
      have hpdu : pdu.command = statusCommand slaveInfo (txSm slaveInfo) :=
        hcommand.trans (congrArg Prod.fst hstatus)
      refine ⟨⟨hcall', reader', by rw [hdriven], ?_, ?_⟩, fun pdu' hpdu' => ?_⟩
      · rw [MailboxReadTask.SameCall.target_eq hsame,
          (MailboxReadTask.recieveAndProcess_spec hrecieve').1.target_eq, htarget]
      · rw [hsame.state_eq]
        refine (MailboxReadTask.state_of_goesOn hstate hrecieve' hinner.busy).imp_right
          fun ⟨hread, hfull⟩ => ⟨hread, by rw [hdriven]; rintro ⟨⟩, ?_⟩
        rw [answer_txStatus hapart queue hpdu, hstatus] at hfull
        exact message_of_isMailboxFull (hroom.trans hbuf.ge) hfull
      · cases hsent.symm.trans hpdu'
        exact hpdu
    · -- the slave has handed out a message
      obtain ⟨message, hmessage⟩ : ∃ message, queue.put[queue.taken]? = some message :=
        ⟨_, List.getElem?_eq_getElem htaken⟩
      have hwkc : (queue.answer slaveInfo pdu).1.wkc = 1 := by
        rw [answer_read hapart (hcommand.trans (hreads hstate)) hmessage]
      exact absurd hnone (ends_of_read hstate hwkc)

/-- **A turn of the read.**  It goes on, a message has been read, or it fails. -/
lemma Fetching.turn (hapart : slaveInfo.MailboxesApart) {queue : MailboxQueue}
    {block : Blocked MailboxTask} (h : Fetching n slaveInfo queue block)
    (result : Except PhyError Bool) :
    ∃ outcome block',
      block.turn MailboxTaskError ⟨result, fun pdu => (queue.answer slaveInfo pdu).1⟩ =
        .ok (outcome, block') ∧
      (outcome = none ∧ Fetching n slaveInfo queue block' ∧
          (∀ pdu, sentBy block.driven.socket result = some pdu →
            pdu.command = statusCommand slaveInfo (txSm slaveInfo)) ∨
        outcome = some (.ok ()) ∧ block'.driven.task.waitResult = some (.ok ()) ∧
          (∃ dataBuf, block'.driven.socket = .store none dataBuf) ∧
          queue.taken < queue.put.length ∧
          (∃ pdu, sentBy block.driven.socket result = some pdu ∧
            pdu.command = readCommand slaveInfo) ∨
        ∃ e, outcome = some (.error e) ∨
          outcome = some (.ok ()) ∧ block'.driven.task.waitResult = some (.error e)) := by
  obtain ⟨outcome, block', hturn, hgoesOn, hdone, hfailed⟩ := Blocked.turn_of_inCall h.inCall
    ⟨result, fun pdu => (queue.answer slaveInfo pdu).1⟩
  refine ⟨outcome, block', hturn, ?_⟩
  rcases hends : block.ends ⟨result, fun pdu => (queue.answer slaveInfo pdu).1⟩ with _ | e | _
  · left
    obtain ⟨rfl, hcall'⟩ := hgoesOn hends
    by_cases hmoved : result = .ok true
    · subst hmoved
      exact ⟨rfl, h.goesOn hapart hturn hends hcall'⟩
    · obtain ⟨-, rfl, -⟩ | ⟨hmoved', -⟩ := Blocked.turn_eq_ok hturn
      · refine ⟨rfl, h, fun pdu hpdu => ?_⟩
        rw [sentBy_of_not_moved hmoved] at hpdu
        cases hpdu
      · exact absurd hmoved' hmoved
  · exact .inr (.inr ⟨e, hfailed e hends⟩)
  · -- a message was read
    obtain ⟨rfl, hwait, hsocket, -⟩ := hdone hends
    obtain ⟨hmoved, recv, hseen, hok⟩ := ends_eq_ok hends
    dsimp only at hmoved hseen
    subst hmoved
    obtain ⟨reader, htask, -, hstate⟩ := h.reader
    rw [htask] at hok
    have hread : reader.state = .read := state_of_ends_ok hok
    obtain ⟨isFirst, hcheck⟩ | ⟨-, -, htaken⟩ := hstate
    · rw [hread] at hcheck
      cases hcheck
    rcases seen_of_inCall h.inCall fun pdu => (queue.answer slaveInfo pdu).1 with
      ⟨-, -, hnone⟩ | ⟨-, pdu, dataBuf, hsent, -, hcommand, -⟩
    · cases hseen.symm.trans hnone
    · exact .inr (.inl ⟨rfl, hwait, ⟨_, hsocket⟩, htaken, pdu, hsent,
        hcommand.trans ((statePdu_of_fetching h htask).1 hread)⟩)

/-! ## The session -/

/-- The call that runs after the write of its request. -/
abbrev requesting (usizeBits : ℕ) (slave : Slave) (call : SdoCall) (block : Blocked MailboxTask) :
    SocketProgram call.Result :=
  .calling (.writeMailbox slave.incrementMbCount.2.info
      (sdoWriter slave.incrementMbCount.1 call.message) false)
    (readAnswer slave.incrementMbCount.2 fun mbData =>
      call.decode usizeBits slave.incrementMbCount.1 mbData) block

/-- The call that reads the response. -/
abbrev fetching (usizeBits : ℕ) (slave : Slave) (call : SdoCall) (block : Blocked MailboxTask) :
    SocketProgram call.Result :=
  .calling (.readMailbox slave.incrementMbCount.2.info true)
    (finishTransfer slave.incrementMbCount.2 fun mbData =>
      call.decode usizeBits slave.incrementMbCount.1 mbData) block

/-- What the session is doing, and how many requests and messages have been exchanged. -/
inductive Phase (usizeBits : ℕ) (slaveInfo : SlaveInfo) (s : SdoSession) : Prop
  | idle (dataBuf : List UInt8) (hrunning : s.running = none)
      (hsocket : s.socket = .store none dataBuf) (hrequests : s.queue.requests = s.calls)
      (htaken : s.queue.taken = s.calls)
  | requesting (n : ℕ) (call : SdoCall) (block : Blocked MailboxTask)
      (hrunning : s.running = some ⟨call, requesting usizeBits s.slave call block⟩)
      (hblock : Requesting n slaveInfo block) (hrequests : s.queue.requests + 1 = s.calls)
      (htaken : s.queue.taken + 1 = s.calls)
  | fetching (n : ℕ) (call : SdoCall) (block : Blocked MailboxTask)
      (hrunning : s.running = some ⟨call, fetching usizeBits s.slave call block⟩)
      (hblock : Fetching n slaveInfo s.queue block) (hrequests : s.queue.requests = s.calls)
      (htaken : s.queue.taken + 1 = s.calls)

/-- **The invariant of a session.** -/
structure Sound (usizeBits : ℕ) (slaveInfo : SlaveInfo) (s : SdoSession) : Prop where
  info_eq : s.slave.info = slaveInfo
  phase : Phase usizeBits slaveInfo s
  requested_eq : s.requested = List.range s.queue.requests
  handed_eq : s.handed = s.queue.put.zipIdx.take s.queue.taken
  taken_le : s.queue.taken ≤ s.queue.put.length

lemma sound_new (usizeBits : ℕ) (slave : Slave) (dataBuf : List UInt8) :
    (new slave dataBuf).Sound usizeBits slave.info where
  info_eq := rfl
  phase := .idle dataBuf rfl rfl rfl rfl
  requested_eq := rfl
  handed_eq := rfl
  taken_le := Nat.le_refl 0

/-- A message that the slave puts into its mailbox. -/
lemma Sound.add {usizeBits : ℕ} {s : SdoSession} (h : s.Sound usizeBits slaveInfo)
    (message : Message) : { s with queue := s.queue.add message }.Sound usizeBits slaveInfo := by
  have hadd : s.queue.add message = s.queue ∨
      s.queue.add message = { s.queue with put := s.queue.put ++ [message] } := by
    cases message with
    | extra bytes => exact .inr rfl
    | response bytes =>
        rw [MailboxQueue.add]
        split
        · exact .inr rfl
        · exact .inl rfl
  rcases hadd with hadd | hadd
  · rwa [hadd]
  obtain ⟨hinfo, hphase, hrequested, hhanded, htaken⟩ := h
  rw [hadd]
  refine ⟨hinfo, ?_, hrequested, ?_, ?_⟩
  · cases hphase with
    | idle dataBuf hrunning hsocket hrequests htaken' =>
        exact .idle dataBuf hrunning hsocket hrequests htaken'
    | requesting n call block hrunning hblock hrequests htaken' =>
        exact .requesting n call block hrunning hblock hrequests htaken'
    | fetching n call block hrunning hblock hrequests htaken' =>
        refine .fetching n call block hrunning ?_ hrequests htaken'
        obtain ⟨hcall, reader, htask, htarget, hstate⟩ := hblock
        refine ⟨hcall, reader, htask, htarget, hstate.imp_right fun ⟨hread, hout, hlt⟩ =>
          ⟨hread, hout, ?_⟩⟩
        rw [List.length_append]
        exact Nat.lt_add_right _ hlt
  · change s.handed = (s.queue.put ++ [message]).zipIdx.take s.queue.taken
    rw [List.zipIdx_append, List.take_append_of_le_length (by rwa [List.length_zipIdx]), hhanded]
  · change s.queue.taken ≤ (s.queue.put ++ [message]).length
    rw [List.length_append]
    exact Nat.le_add_right_of_le htaken

lemma Sound.addAll {usizeBits : ℕ} {s : SdoSession} (h : s.Sound usizeBits slaveInfo)
    (added : List Message) :
    { s with queue := added.foldl MailboxQueue.add s.queue }.Sound usizeBits slaveInfo := by
  induction added generalizing s with
  | nil => exact h
  | cons message added ih => exact ih (h.add message)

/-! ## One move -/

/-- A PDU that reads a status changes nothing. -/
lemma exchange_of_status {s : SdoSession} (hapart : s.slave.info.MailboxesApart) {sent : Option Pdu}
    (hsent : ∀ pdu, sent = some pdu → pdu.command = statusCommand s.slave.info (rxSm s.slave.info) ∨
      pdu.command = statusCommand s.slave.info (txSm s.slave.info)) : s.exchange sent = s := by
  rcases sent with _ | pdu
  · rfl
  have hwrite (sm : SyncManager) :
      statusCommand s.slave.info sm ≠ requestCommand s.slave.info := fun heq => by
    cases congrArg Command.cType heq
  have hrequest : pdu.command ≠ requestCommand s.slave.info := by
    rcases hsent pdu rfl with hcommand | hcommand
    · exact hcommand ▸ hwrite _
    · exact hcommand ▸ hwrite _
  have hquiet : (s.queue.answer s.slave.info pdu).2 = s.queue ∧
      s.queue.handsOut s.slave.info pdu = none := by
    rw [MailboxQueue.handsOut]
    rcases hsent pdu rfl with hcommand | hcommand
    · rw [MailboxQueue.answer, if_pos hcommand, hcommand, if_neg hapart.read_ne_rx.symm]
      exact ⟨rfl, rfl⟩
    · rw [answer_txStatus hapart s.queue hcommand, hcommand, if_neg hapart.read_ne_tx.symm]
      exact ⟨rfl, rfl⟩
  change { s with queue := _, requested := _, handed := _ } = s
  rw [hquiet.1, hquiet.2, if_neg hrequest, List.append_nil]
  change { s with handed := s.handed ++ [] } = s
  rw [List.append_nil]

/-- A request has been written. -/
lemma exchange_of_request {s : SdoSession} {pdu : Pdu}
    (hpdu : pdu.command = requestCommand s.slave.info) : s.exchange (some pdu) =
      { s with
        queue := { s.queue with requests := s.queue.requests + 1 }
        requested := s.requested ++ [s.calls - 1] } := by
  have hread : requestCommand s.slave.info ≠ readCommand s.slave.info := by
    intro heq
    cases congrArg Command.cType heq
  change { s with queue := _, requested := _, handed := _ } = _
  rw [answer_request s.queue hpdu, MailboxQueue.handsOut, if_pos hpdu, if_neg (hpdu ▸ hread)]
  change { s with queue := _, requested := _, handed := s.handed ++ [] } = _
  rw [List.append_nil]

/-- A message has been read. -/
lemma exchange_of_read {s : SdoSession} (hapart : s.slave.info.MailboxesApart) {pdu : Pdu}
    (hpdu : pdu.command = readCommand s.slave.info) {message : Message}
    (hmessage : s.queue.put[s.queue.taken]? = some message) : s.exchange (some pdu) =
      { s with
        queue := { s.queue with taken := s.queue.taken + 1 }
        handed := s.handed ++ [(message, s.calls - 1)] } := by
  have hrequest : readCommand s.slave.info ≠ requestCommand s.slave.info := by
    intro heq
    cases congrArg Command.cType heq
  change { s with queue := _, requested := _, handed := _ } = _
  rw [answer_read hapart hpdu hmessage, MailboxQueue.handsOut, if_pos hpdu, hmessage,
    if_neg (hpdu ▸ hrequest), List.append_nil]
  rfl

section
variable {usizeBits : ℕ} {s s' : SdoSession}

/-- A poll while the request is written. -/
lemma Sound.poll_requesting (hapart : slaveInfo.MailboxesApart)
    (h : s.Sound usizeBits slaveInfo) {call : SdoCall} {block : Blocked MailboxTask}
    (hblock : Requesting n slaveInfo block) (hrequests : s.queue.requests + 1 = s.calls)
    (htaken : s.queue.taken + 1 = s.calls) {result : Except PhyError Bool}
    (hpoll : s.pollRunning call (requesting usizeBits s.slave call block) result = .ok s') :
    s'.Sound usizeBits slaveInfo := by
  obtain ⟨rfl, -, hrequested, hhanded, hle⟩ := h
  obtain ⟨next, hstep, heq⟩ := bind_eq_ok.mp hpoll
  cases heq
  obtain ⟨outcome, block', hturn, ⟨rfl, hblock', hsent⟩ |
    ⟨rfl, hwait, ⟨dataBuf, hsocket, hlength⟩, pdu, hsent, hpdu⟩ | ⟨e, hfailed⟩⟩ :=
      hblock.turn s.queue result
  · cases hstep.symm.trans (step_of_goesOn (.writeMailbox _ _ _) hturn)
    have hsame : s.exchange (sentBy block.driven.socket result) = s :=
      exchange_of_status hapart fun pdu hpdu => .inl (hsent pdu hpdu)
    change Sound usizeBits _ ((s.exchange (sentBy block.driven.socket result)).continueWith _ _)
    rw [hsame]
    exact ⟨rfl, .requesting n call block' rfl hblock' hrequests htaken, hrequested, hhanded, hle⟩
  · -- the request has been written, so that the read begins
    have hresume := hstep.symm.trans
      (step_of_finished (.writeMailbox _ _ _) hturn (unwrap_eq_ok_iff.mpr hwait))
    rw [hsocket] at hresume
    obtain ⟨started, dataBuf', hstarted, ⟨e, -, hfail⟩ | ⟨unit, rfl, rfl⟩⟩ :=
      SocketProgram.resume_ask hresume.symm
    · cases hfail
    obtain ⟨⟨⟩, htx, heq⟩ := bind_eq_ok.mp hstarted
    cases heq
    have hroom : mailboxCheckSize ≤ dataBuf.length := by
      obtain ⟨writer, htask, -⟩ := hblock.writer
      have hinner := hblock.inCall.task.inner
      rw [htask] at hinner
      exact hlength ▸ hinner.room
    change sentBy block.driven.socket result = some pdu at hsent
    change Sound usizeBits _ ((s.exchange (sentBy block.driven.socket result)).continueWith _ _)
    rw [hsent, exchange_of_request hpdu]
    refine ⟨rfl, .fetching _ call _ rfl ⟨inCall_reading hroom (assert_eq_ok_iff.mp htx), _, rfl,
      rfl, .inl ⟨true, rfl⟩⟩ hrequests htaken, ?_, hhanded, hle⟩
    change s.requested ++ [s.calls - 1] = List.range (s.queue.requests + 1)
    rw [List.range_succ, hrequested, ← hrequests, Nat.add_sub_cancel]
  · rcases hfailed with rfl | ⟨rfl, hwait⟩
    · cases hstep.symm.trans (step_of_aborted (.writeMailbox _ _ _) hturn)
    · cases hstep.symm.trans
        (step_of_finished (.writeMailbox _ _ _) hturn (unwrap_eq_ok_iff.mpr hwait))

/-- A poll while the response is read. -/
lemma Sound.poll_fetching (hapart : slaveInfo.MailboxesApart)
    (h : s.Sound usizeBits slaveInfo) {call : SdoCall} {block : Blocked MailboxTask}
    (hblock : Fetching n slaveInfo s.queue block) (hrequests : s.queue.requests = s.calls)
    (htaken : s.queue.taken + 1 = s.calls) {result : Except PhyError Bool}
    (hpoll : s.pollRunning call (fetching usizeBits s.slave call block) result = .ok s') :
    s'.Sound usizeBits slaveInfo := by
  obtain ⟨rfl, -, hrequested, hhanded, hle⟩ := h
  obtain ⟨next, hstep, heq⟩ := bind_eq_ok.mp hpoll
  cases heq
  obtain ⟨outcome, block', hturn, ⟨rfl, hblock', hsent⟩ |
    ⟨rfl, hwait, ⟨dataBuf, hsocket⟩, hmore, pdu, hsent, hpdu⟩ | ⟨e, hfailed⟩⟩ :=
      hblock.turn hapart result
  · cases hstep.symm.trans (step_of_goesOn (.readMailbox _ _) hturn)
    have hsame : s.exchange (sentBy block.driven.socket result) = s :=
      exchange_of_status hapart fun pdu hpdu => .inr (hsent pdu hpdu)
    change Sound usizeBits _ ((s.exchange (sentBy block.driven.socket result)).continueWith _ _)
    rw [hsame]
    exact ⟨rfl, .fetching n call block' rfl hblock' hrequests htaken, hrequested, hhanded, hle⟩
  · -- the message is decoded
    have hresume := hstep.symm.trans (step_of_finished (.readMailbox _ _) hturn
      (bind_eq_ok.mpr ⟨_, unwrap_eq_ok_iff.mpr hwait, rfl⟩))
    rw [hsocket] at hresume
    obtain ⟨decoded, hdecoded, heq⟩ :=
      bind_eq_ok.mp (resume_finishTransfer.symm.trans hresume.symm)
    cases heq
    have hmessage : s.queue.put[s.queue.taken]? = some s.queue.put[s.queue.taken] :=
      List.getElem?_eq_getElem hmore
    change sentBy block.driven.socket result = some pdu at hsent
    change Sound usizeBits _ ((s.exchange (sentBy block.driven.socket result)).continueWith _ _)
    rw [hsent, exchange_of_read hapart hpdu hmessage]
    refine ⟨rfl, .idle dataBuf rfl rfl hrequests htaken, hrequested, ?_, hmore⟩
    change s.handed ++ _ = s.queue.put.zipIdx.take (s.queue.taken + 1)
    rw [List.take_add_one, ← hhanded, List.getElem?_zipIdx, hmessage, ← htaken]
    simp
  · rcases hfailed with rfl | ⟨rfl, hwait⟩
    · cases hstep.symm.trans (step_of_aborted (.readMailbox _ _) hturn)
    · cases hstep.symm.trans (step_of_finished (.readMailbox _ _) hturn
        (bind_eq_ok.mpr ⟨_, unwrap_eq_ok_iff.mpr hwait, rfl⟩))

/-- The buffer has room for what the encoder has written. -/
lemma room_of_written {call : SdoCall} {count : UInt8} {buf : List UInt8}
    {written : Except LengthError Unit × List UInt8}
    (h : (sdoWriter count call.message).run buf = .ok written) : mailboxCheckSize ≤ buf.length := by
  have hencodes : ∃ data, RequestEncodes buf.length data := by
    cases call with
    | read index subIndex =>
        exact ⟨none, (sdoWriter_returns_iff count ⟨index, subIndex⟩ none buf).mp ⟨written, h⟩⟩
    | write index subIndex data =>
        exact ⟨some data,
          (sdoWriter_returns_iff count ⟨index, subIndex⟩ (some data) buf).mp ⟨written, h⟩⟩
  obtain ⟨data, hdata⟩ := hencodes
  exact Nat.le_trans (by decide) (twelve_le_of_requestEncodes hdata)

/-- A call begins. -/
lemma Sound.call (h : s.Sound usizeBits slaveInfo) {call : SdoCall} (hidle : s.running = none)
    {program : SocketProgram call.Result}
    (hresume : SocketProgram.resume (call.program usizeBits s.slave) s.socket = .ok program) :
    { s with running := some ⟨call, program⟩, calls := s.calls + 1 }.Sound usizeBits slaveInfo := by
  obtain ⟨rfl, hphase, hrequested, hhanded, hle⟩ := h
  refine ⟨rfl, ?_, hrequested, hhanded, hle⟩
  cases hphase with
  | requesting _ _ _ hrunning | fetching _ _ _ hrunning =>
      rw [hidle] at hrunning
      cases hrunning
  | idle dataBuf _ hsocket hrequests htaken =>
      rw [hsocket, SdoCall.program_eq] at hresume
      obtain ⟨started, dataBuf', hstarted, hbegins⟩ := SocketProgram.resume_ask hresume
      obtain ⟨⟨⟩, hrx, hstarted⟩ := bind_eq_ok.mp hstarted
      obtain ⟨⟨written, buf⟩, hwritten, hstarted⟩ := bind_eq_ok.mp hstarted
      rcases written with e | _
      · cases hstarted
        obtain ⟨e, -, hfail⟩ | ⟨unit, hunit, -⟩ := hbegins
        · cases hfail
        · cases hunit
      cases hstarted
      obtain ⟨e, herror, -⟩ | ⟨unit, hunit, hprogram⟩ := hbegins
      · cases herror
      cases hunit
      have hlength : dataBuf'.length = dataBuf.length :=
        MailboxFrameWriter.length_run _ hwritten
      have hroom : mailboxCheckSize ≤ dataBuf'.length :=
        (room_of_written hwritten).trans hlength.ge
      have hrx' : (rxSm s.slave.info).size.toNat ≤ dataBuf'.length :=
        (assert_eq_ok_iff.mp hrx).trans hlength.ge
      refine .requesting dataBuf'.length call
        ⟨⟨MailboxTask.new.startToWrite s.slave.info.slaveAddress (rxSm s.slave.info) false,
          .store none dataBuf'⟩, 0⟩ ?_ ⟨inCall_writing hroom hrx', _, rfl, rfl, .inl ⟨true, rfl⟩⟩
        (congrArg (· + 1) hrequests) (congrArg (· + 1) htaken)
      rw [hprogram]
      rfl

/-- **A move keeps the invariant.** -/
lemma Sound.step (hapart : slaveInfo.MailboxesApart) (h : s.Sound usizeBits slaveInfo)
    {move : SdoMove} (hstep : s.step usizeBits move = .ok s') : s'.Sound usizeBits slaveInfo := by
  cases move with
  | call call =>
      rw [SdoSession.step] at hstep
      split at hstep
      · cases hstep
        exact h
      · next hidle =>
          obtain ⟨program, hresume, heq⟩ := bind_eq_ok.mp hstep
          cases heq
          exact h.call hidle hresume
  | poll result added =>
      have hadded := h.addAll added
      rw [SdoSession.step] at hstep
      generalize { s with queue := added.foldl MailboxQueue.add s.queue } = t at hstep hadded
      cases hadded.phase with
      | idle dataBuf hrunning =>
          rw [hrunning] at hstep
          cases hstep
          exact hadded
      | requesting n call block hrunning hblock hrequests htaken =>
          rw [hrunning] at hstep
          exact hadded.poll_requesting hapart hblock hrequests htaken hstep
      | fetching n call block hrunning hblock hrequests htaken =>
          rw [hrunning] at hstep
          exact hadded.poll_fetching hapart hblock hrequests htaken hstep

end

/-! ## Runs -/

/-- The messages before position `i` are all responses, and so is the one there. -/
def OnlyResponses (put : List Message) (i : ℕ) : Prop :=
  ∀ message ∈ put.take (i + 1), message.isResponse = true

instance OnlyResponses.decidable (put : List Message) (i : ℕ) : Decidable (OnlyResponses put i) :=
  inferInstanceAs (Decidable (∀ message ∈ put.take (i + 1), message.isResponse = true))

/-- The message at position `i` is the response to the request number `i`: the slave answers the
requests in their order. -/
def AnswersRequest (put : List Message) (i : ℕ) (message : Message) : Prop :=
  message.isResponse = true ∧ (put.take i).countP Message.isResponse = i

/-- **Successive transfers.**  The slave keeps its messages in a queue.  In every run of transfers
that return, request number `i` that the slave has taken is the one of call number `i`, and every
transfer that has returned has sent its request and read one message, in the order of the queue; it
is the response to its own request exactly if the slave has put no message of its own before it. -/
theorem reads_own_response_iff (usizeBits : ℕ) (slave : Slave) (dataBuf : List UInt8)
    (hapart : slave.info.MailboxesApart) (moves : List SdoMove) (s : SdoSession)
    (hrun : Transition.run (step usizeBits) (new slave dataBuf) moves = .ok s) :
    s.requested = List.range s.queue.requests ∧ s.queue.requests ≤ s.calls ∧
      s.handed = s.queue.put.zipIdx.take s.queue.taken ∧ s.queue.taken ≤ s.queue.requests ∧
      s.queue.taken + (if s.running.isSome then 1 else 0) = s.calls ∧
      ∀ message i, (message, i) ∈ s.handed →
        (AnswersRequest s.queue.put i message ↔ OnlyResponses s.queue.put i) := by
  have hsound : s.Sound usizeBits slave.info :=
    Transition.run_invariant (P := fun _ _ => True) _
      (fun s move s' h _ hstep => Sound.step hapart h hstep) (sound_new usizeBits slave dataBuf)
      (Transition.along_of_forall (fun _ _ => trivial) _ _) hrun
  have hcounts : s.queue.requests ≤ s.calls ∧ s.queue.taken ≤ s.queue.requests ∧
      s.queue.taken + (if s.running.isSome then 1 else 0) = s.calls := by
    cases hsound.phase with
    | idle _ hrunning _ hrequests htaken =>
        rw [hrunning]
        exact ⟨hrequests.le, htaken.le.trans hrequests.ge, htaken⟩
    | requesting _ _ _ hrunning _ hrequests htaken | fetching _ _ _ hrunning _ hrequests htaken =>
        rw [hrunning]
        exact ⟨by omega, by omega, htaken⟩
  refine ⟨hsound.requested_eq, hcounts.1, hsound.handed_eq, hcounts.2.1, hcounts.2.2,
    fun message i hmem => ?_⟩
  rw [hsound.handed_eq] at hmem
  have hmessage : s.queue.put[i]? = some message :=
    List.mem_zipIdx_iff_getElem?.mp (List.mem_of_mem_take hmem)
  have hlength : (s.queue.put.take i).length = i :=
    List.length_take_of_le (List.getElem?_eq_some_iff.mp hmessage).1.le
  have hcount := List.countP_eq_length (p := Message.isResponse) (l := s.queue.put.take i)
  rw [hlength] at hcount
  rw [AnswersRequest, OnlyResponses, List.take_add_one, hmessage, hcount, and_comm,
    Option.toList_some]
  exact (List.forall_mem_append.trans (and_congr_right' List.forall_mem_singleton)).symm

/-- A read of the object 0x1018: the slave puts messages into its mailbox after the request. -/
def readMoves (added : List Message) : List SdoMove :=
  [.call (.read 0x1018 1), .poll (.ok true) [], .poll (.ok true) [], .poll (.ok true) [],
    .poll (.ok true) added, .poll (.ok true) [], .poll (.ok true) []]

/-- An emergency. -/
def emergency : Message := .extra [10, 0, 0, 0, 0, 0x03, 0, 0x10, 0, 0x10, 0, 0, 0, 0, 0, 0]

/-- An upload response with a count. -/
def uploadResponse (countByte : UInt8) : Message :=
  .response [10, 0, 0, 0, 0, countByte, 0, 0x30, 0x43, 0x18, 0x10, 1, 1, 2, 3, 4]

/-- One emergency, and two calls after it: each reads the response to the call before. -/
theorem reads_previous_response : ∃ s,
    Transition.run (step 64) (new mailboxSlave (List.replicate 16 0))
      (readMoves [emergency, uploadResponse 0x13] ++ readMoves [uploadResponse 0x23] ++
        readMoves [uploadResponse 0x33]) = .ok s ∧
      s.handed = [(emergency, 0), (uploadResponse 0x13, 1), (uploadResponse 0x23, 2)] ∧
      ¬ AnswersRequest s.queue.put 1 (uploadResponse 0x13) ∧
      ¬ AnswersRequest s.queue.put 2 (uploadResponse 0x23) := by
  have hview : (Transition.run (step 64) (new mailboxSlave (List.replicate 16 0))
      (readMoves [emergency, uploadResponse 0x13] ++ readMoves [uploadResponse 0x23] ++
        readMoves [uploadResponse 0x33])).toOption.map (fun s => (s.handed, s.queue.put)) =
      some ([(emergency, 0), (uploadResponse 0x13, 1), (uploadResponse 0x23, 2)],
        [emergency, uploadResponse 0x13, uploadResponse 0x23, uploadResponse 0x33]) := by
    decide +kernel
  rcases hrun : Transition.run (step 64) (new mailboxSlave (List.replicate 16 0))
      (readMoves [emergency, uploadResponse 0x13] ++ readMoves [uploadResponse 0x23] ++
        readMoves [uploadResponse 0x33]) with e | s
  · rw [hrun] at hview
    cases hview
  · rw [hrun] at hview
    obtain ⟨hhanded, hput⟩ := Prod.ext_iff.mp (Option.some.inj hview)
    dsimp only at hhanded hput
    obtain ⟨-, -, -, -, -, hown⟩ := reads_own_response_iff 64 mailboxSlave (List.replicate 16 0)
      ⟨by decide, by decide, by decide⟩ _ s hrun
    refine ⟨s, rfl, hhanded, ?_, ?_⟩
    · rw [hown _ 1 (by rw [hhanded]; decide), hput]
      decide
    · rw [hown _ 2 (by rw [hhanded]; decide), hput]
      decide

end SdoSession

end EtherCat
