import EtherCat.Interface.SocketIfSpec
import EtherCat.Task.AlStateTransferSteps
import EtherCat.Task.LoopTasks
import EtherCat.Task.MailboxSteps
import EtherCat.Task.ReadAlState

/-!
# Contracts of the cyclic tasks

A task that reads a response relies on it being as long as the PDU that it has asked with.  A
`TaskContract` says how long this PDU is, and which responses the task can then read; in all others
it panics.  `TaskContract.Holds` is the invariant of a task with its socket, whatever the responses
contain, as long as they are responses to a PDU that was taken.
-/

namespace EtherCat

open Rust Rust.Exec BitField CyclicTask

/-- What a task promises in a socket whose buffer is large enough. -/
structure TaskContract (T : Type) [CyclicTask T] where
  required : ℕ
  Valid : T → Prop
  /-- The data length of a PDU that is out, in a buffer of this length. -/
  Asked : T → ℕ → ℕ → Prop
  /-- The task can read the response. -/
  Decodes : T → Pdu → Prop
  next : ∀ {task : T} {buf : List UInt8}, Valid task → required ≤ buf.length →
    ∃ pdu buf' task', nextPdu task buf = .ok ((pdu, buf'), task') ∧ Valid task' ∧
      ∀ command n, pdu = some (command, n) → Asked task' buf.length n
  process : ∀ {task : T} {recv : Pdu} {time len : ℕ}, Valid task →
    Asked task len recv.data.length →
    ((∃ task', recieveAndProcess task recv time = .ok task') ↔ Decodes task recv)
  valid : ∀ {task task' : T} {recv : Pdu} {time : ℕ}, Valid task →
    recieveAndProcess task recv time = .ok task' → Valid task'

namespace TaskContract

variable {T : Type} [CyclicTask T]

/-- The PDUs of the task lie in the buffer. -/
def Bounded (c : TaskContract T) : Prop := ∀ {task : T} {len n : ℕ}, c.Asked task len n → n ≤ len

/-- **The invariant** of a task with its socket and the PDU that is under way. -/
structure Holds (c : TaskContract T) (task : T) (socket : PduSocket) (underWay : Option Pdu) :
    Prop where
  valid : c.Valid task
  room : c.required ≤ socket.dataBuf.length
  asked : socket.command.isSome ∨ underWay.isSome →
    c.Asked task socket.dataBuf.length socket.dataLength
  inBuffer : socket.recvFlag = true ∨ underWay.isSome → socket.dataLength ≤ socket.dataBuf.length

section
variable {c : TaskContract T} {task : T} {socket : PduSocket} {underWay : Option Pdu}

lemma holds_new {buf : List UInt8} (hvalid : c.Valid task) (hroom : c.required ≤ buf.length) :
    c.Holds task (.new buf) none where
  valid := hvalid
  room := hroom
  asked h := by rcases h with h | h <;> cases h
  inBuffer _ := Nat.zero_le _

lemma Holds.take (h : c.Holds task socket underWay) {taken : Option Pdu} {socket' : PduSocket}
    (htake : socket.takePdu = .ok (taken, socket')) :
    c.Holds task socket' (taken <|> underWay) := by
  rcases PduSocket.takePdu_eq_ok htake with
    ⟨-, rfl, rfl⟩ | ⟨command, hpending, -, hle, rfl, rfl⟩
  · exact h
  · exact ⟨h.valid, h.room, fun _ => h.asked (.inl hpending.2), fun _ => hle⟩

/-- A PDU can be taken if its data lie in the buffer. -/
lemma exists_takePdu_iff : (∃ r, socket.takePdu = .ok r) ↔
    (socket.Pending → socket.dataLength ≤ socket.dataBuf.length) := by
  constructor
  · rintro ⟨⟨taken, socket'⟩, htake⟩ hpending
    rcases PduSocket.takePdu_eq_ok htake with ⟨hnot, -⟩ | ⟨-, -, -, hle, -⟩
    · exact absurd hpending hnot
    · exact hle
  · intro h
    rw [PduSocket.takePdu]
    cases hflag : socket.recvFlag with
    | true => exact ⟨_, rfl⟩
    | false =>
        rcases hcommand : socket.command with _ | command
        · exact ⟨_, rfl⟩
        · have hle := h ⟨hflag, by rw [hcommand]; rfl⟩
          rw [if_neg Bool.false_ne_true]
          exact ⟨_, bind_eq_ok.mpr ⟨_, sliceTo_eq_ok_iff.mpr ⟨hle, rfl⟩, rfl⟩⟩

lemma Holds.exists_takePdu (h : c.Holds task socket underWay) (hbounded : c.Bounded) :
    ∃ r, socket.takePdu = .ok r :=
  exists_takePdu_iff.mpr fun hpending => hbounded (h.asked (.inl hpending.2))

lemma Holds.recieve (h : c.Holds task socket underWay) (hunderWay : underWay.isSome)
    (response : Pdu) : c.Holds task (socket.recieve response) none where
  valid := h.valid
  room := by
    rw [PduSocket.recieve, length_overwrite]
    exact h.room
  asked _ := by
    rw [PduSocket.recieve, length_overwrite]
    exact h.asked (.inr hunderWay)
  inBuffer _ := by
    rw [PduSocket.recieve, length_overwrite]
    exact h.inBuffer (.inr hunderWay)

/-- What the task gets to see. -/
lemma Holds.getRecievedPdu (h : c.Holds task socket underWay) :
    socket.getRecievedPdu = .ok none ∨ ∃ recv, socket.getRecievedPdu = .ok (some recv) ∧
      c.Asked task socket.dataBuf.length recv.data.length := by
  rw [PduSocket.getRecievedPdu]
  cases hflag : socket.recvFlag with
  | false => exact .inl rfl
  | true =>
      rcases hcommand : socket.command with _ | command
      · exact .inl rfl
      · have hle := h.inBuffer (.inl hflag)
        have hasked := h.asked (.inl (by rw [hcommand]; rfl))
        refine .inr ⟨⟨command, socket.dataBuf.take socket.dataLength, socket.wkc⟩, ?_, ?_⟩
        · rw [if_pos rfl]
          exact bind_eq_ok.mpr ⟨_, sliceTo_eq_ok_iff.mpr ⟨hle, rfl⟩, rfl⟩
        · rwa [List.length_take_of_le hle]

lemma Holds.exists_processResponse_iff (h : c.Holds task socket underWay) (time : ℕ) :
    (∃ task', processResponse task socket time = .ok task') ↔
      ∀ recv, socket.getRecievedPdu = .ok (some recv) → c.Decodes task recv := by
  rw [processResponse]
  rcases h.getRecievedPdu with hnone | ⟨recv, hsome, hasked⟩
  · rw [hnone]
    exact iff_of_true ⟨task, rfl⟩ (by rintro recv ⟨⟩)
  · rw [hsome]
    refine (c.process h.valid hasked).trans ⟨?_, fun hdecodes => hdecodes recv rfl⟩
    rintro hdecodes recv' heq
    cases heq
    exact hdecodes

lemma Holds.valid_processResponse (h : c.Holds task socket underWay) {time : ℕ} {task' : T}
    (hresponse : processResponse task socket time = .ok task') : c.Valid task' := by
  obtain ⟨recv, -, hprocess⟩ := bind_eq_ok.mp hresponse
  rcases recv with _ | recv
  · cases hprocess
    exact h.valid
  · exact c.valid h.valid hprocess

/-- **When a task makes its step**: if it can read the response. -/
lemma Holds.exists_processOneStep_iff (h : c.Holds task socket underWay) (time : ℕ) :
    (∃ r, processOneStep task socket time = .ok r) ↔
      ∀ recv, socket.getRecievedPdu = .ok (some recv) → c.Decodes task recv := by
  rw [← h.exists_processResponse_iff time]
  constructor
  · rintro ⟨r, hstep⟩
    obtain ⟨task', hresponse, -⟩ := bind_eq_ok.mp hstep
    exact ⟨task', hresponse⟩
  · rintro ⟨task', hresponse⟩
    obtain ⟨pdu, buf', task'', hnext, -⟩ := c.next (h.valid_processResponse hresponse) h.room
    exact ⟨_, bind_eq_ok.mpr ⟨task', hresponse, bind_eq_ok.mpr ⟨_, hnext, rfl⟩⟩⟩

/-- **A step keeps the invariant.** -/
lemma Holds.processOneStep (h : c.Holds task socket underWay) {time : ℕ} {task' : T}
    {socket' : PduSocket} (hstep : processOneStep task socket time = .ok (task', socket')) :
    c.Holds task' socket' none := by
  obtain ⟨task₁, hresponse, hstep⟩ := bind_eq_ok.mp hstep
  obtain ⟨⟨⟨pdu, dataBuf⟩, task₂⟩, hnext, heq⟩ := bind_eq_ok.mp hstep
  cases heq
  obtain ⟨pdu', dataBuf', task₃, hnext', hvalid, hasked⟩ :=
    c.next (h.valid_processResponse hresponse) h.room
  rw [hnext] at hnext'
  cases hnext'
  have hlength : dataBuf.length = socket.dataBuf.length := length_nextPdu hnext
  refine ⟨hvalid, hlength ▸ h.room, fun hout => ?_, fun hin => ?_⟩
  · rcases pdu with _ | ⟨command, n⟩
    · rcases hout with hout | hout <;> cases hout
    · change c.Asked _ dataBuf.length n
      rw [hlength]
      exact hasked command n rfl
  · rcases hin with hin | hin <;> cases hin

end

end TaskContract

/-! ## The tasks that are never busy -/

/-- The code behind an error is a known one. -/
def AlStatus.KnownCode (data : List UInt8) : Prop :=
  AlStatus.changeErr.val data ≠ 0 →
    (AlStatusCode.tryFrom (.ofNat (AlStatus.alStatusCode.val data))).isSome

instance (data : List UInt8) : Decidable (AlStatus.KnownCode data) :=
  inferInstanceAs (Decidable (_ → _))

lemma AlStateReadTask.readable_iff {data : List UInt8} (h : data.length = AlStatus.size) :
    Readable data ↔ AlStatus.KnownCode data := by
  have hfits : ∀ {f : Field}, f.msb / 8 < AlStatus.size → f.Fits data := fun hf => by
    rwa [Field.Fits, h]
  exact ⟨fun hreadable hne => (hreadable.code hne).2,
    fun hknown => ⟨hfits (by decide), hfits (by decide), fun hne => ⟨hfits (by decide), hknown hne⟩⟩⟩

/-- The contract of the read of the AL status. -/
def AlStateReadTask.contract : TaskContract AlStateReadTask where
  required := requiredBufferSize
  Valid _ := True
  Asked _ len n := n = AlStatus.size ∧ n ≤ len
  Decodes _ recv := AlStatus.KnownCode recv.data
  next {task buf} _ hroom := by
    obtain ⟨zeroed, hfill⟩ : ∃ zeroed, fillTo buf AlStatus.size 0 = .ok zeroed :=
      ⟨_, fillTo_eq_ok_iff.mpr ⟨hroom, rfl⟩⟩
    refine ⟨_, zeroed, _, bind_eq_ok.mpr ⟨zeroed, hfill, rfl⟩, trivial, ?_⟩
    rintro command n heq
    cases heq
    exact ⟨rfl, hroom⟩
  process {task recv time len} _ hasked := by
    rw [← readable_iff hasked.1]
    constructor
    · rintro ⟨task', hprocess⟩
      exact readable_of_recieveAndProcess hprocess
    · exact fun hreadable => ⟨_, recieveAndProcess_of_readable hreadable task time⟩
  valid _ _ := trivial

/-- The contract of the read of the error counters. -/
def RxErrorReadTask.contract : TaskContract RxErrorReadTask where
  required := requiredBufferSize
  Valid _ := True
  Asked _ len n := n = RxErrorCounter.size ∧ n ≤ len
  Decodes _ _ := True
  next {task buf} _ hroom := by
    obtain ⟨zeroed, hfill⟩ : ∃ zeroed, fillTo buf RxErrorCounter.size 0 = .ok zeroed :=
      ⟨_, fillTo_eq_ok_iff.mpr ⟨hroom, rfl⟩⟩
    refine ⟨_, zeroed, _, bind_eq_ok.mpr ⟨zeroed, hfill, rfl⟩, trivial, ?_⟩
    rintro command n heq
    cases heq
    exact ⟨rfl, hroom⟩
  process {task recv time len} _ hasked := by
    have hslice : sliceTo recv.data RxErrorCounter.size = .ok (recv.data.take RxErrorCounter.size) :=
      sliceTo_eq_ok_iff.mpr ⟨hasked.1.ge, rfl⟩
    exact iff_of_true ⟨_, bind_eq_ok.mpr ⟨_, hslice, rfl⟩⟩ trivial
  valid _ _ := trivial

/-- The contract of the distribution of the time. -/
def DcSyncTask.contract : TaskContract DcSyncTask where
  required := requiredBufferSize
  Valid _ := True
  Asked _ len n := n = DcSystemTime.size ∧ n ≤ len
  Decodes _ _ := True
  next {task buf} _ hroom := by
    obtain ⟨zeroed, hfill⟩ : ∃ zeroed, fillTo buf DcSystemTime.size 0 = .ok zeroed :=
      ⟨_, fillTo_eq_ok_iff.mpr ⟨hroom, rfl⟩⟩
    refine ⟨_, zeroed, _, bind_eq_ok.mpr ⟨zeroed, hfill, rfl⟩, trivial, ?_⟩
    rintro command n heq
    cases heq
    exact ⟨rfl, hroom⟩
  process {task recv time len} _ hasked := by
    have hfits : DcSystemTime.localSystemTime.Fits recv.data := by
      rw [Field.Fits, hasked.1]
      decide
    exact iff_of_true ⟨_, bind_eq_ok.mpr ⟨_, Field.get_of_fits hfits, rfl⟩⟩ trivial
  valid _ _ := trivial

/-- The image may be longer than the buffer. -/
def ProcessTask.contract : TaskContract ProcessTask where
  required := 0
  Valid _ := True
  Asked _ _ _ := True
  Decodes _ _ := True
  next {task buf} _ _ := by
    change ∃ pdu buf' task', ProcessTask.nextPdu task buf = .ok ((pdu, buf'), task') ∧ _
    rw [ProcessTask.nextPdu]
    split <;> exact ⟨_, _, _, rfl, trivial, fun _ _ _ => trivial⟩
  process _ _ := iff_of_true ⟨_, rfl⟩ trivial
  valid _ _ := trivial

/-! ## The tasks of the requests -/

namespace AlStateTransferTask

/-- The code behind an error is a known one, if the task looks at it. -/
def DecodesStatus (task : AlStateTransferTask) (recv : Pdu) : Prop :=
  task.state = .poll → recv.Echoes task.command → recv.wkc = task.slaveAddress.numTargets →
    AlState.ofU8 (.ofNat (AlStatus.state.val recv.data)) ≠ task.targetAl →
      AlStatus.KnownCode recv.data

lemma exists_processRead {data : List UInt8} (h : data.length = AlStatus.size)
    (task : AlStateTransferTask) : ∃ task', task.processRead data = .ok task' := by
  have hstate : AlStatus.state.Fits data := by
    rw [Field.Fits, h]
    decide
  have herror : AlStatus.changeErr.Fits data := by
    rw [Field.Fits, h]
    decide
  rw [processRead, Field.get_of_fits hstate, ok_bind]
  dsimp only
  split
  · exact ⟨_, rfl⟩
  · rw [Field.getBool_of_fits herror, ok_bind]
    split <;> exact ⟨_, rfl⟩

lemma exists_processPoll_iff {data : List UInt8} (h : data.length = AlStatus.size)
    (task : AlStateTransferTask) (sysTime : ℕ) :
    (∃ task', task.processPoll data sysTime = .ok task') ↔
      (AlState.ofU8 (.ofNat (AlStatus.state.val data)) ≠ task.targetAl →
        AlStatus.KnownCode data) := by
  have hfits : ∀ {f : Field}, f.msb / 8 < AlStatus.size → f.Fits data := fun hf => by
    rwa [Field.Fits, h]
  have hstate : AlStatus.state.Fits data := hfits (by decide)
  have herror : AlStatus.changeErr.Fits data := hfits (by decide)
  have hcode : AlStatus.alStatusCode.Fits data := hfits (by decide)
  rw [processPoll, Field.get_of_fits hstate, ok_bind]
  dsimp only
  split
  · next htarget => exact iff_of_true ⟨_, rfl⟩ fun hne => absurd htarget.symm hne
  next htarget =>
    rw [Field.getBool_of_fits herror, ok_bind]
    by_cases hzero : AlStatus.changeErr.val data = 0
    · rw [hzero, bne_self_eq_false, if_neg Bool.false_ne_true]
      refine iff_of_true ?_ fun _ hne => absurd hzero hne
      split <;> exact ⟨_, rfl⟩
    · rw [if_pos (by simpa using hzero), Field.get_of_fits hcode, ok_bind]
      rcases htry : AlStatusCode.tryFrom (.ofNat (AlStatus.alStatusCode.val data)) with _ | code
      · refine iff_of_false (by rintro ⟨_, ⟨⟩⟩) fun hknown => ?_
        have hsome := hknown (Ne.symm htarget) hzero
        rw [htry] at hsome
        cases hsome
      · exact iff_of_true ⟨_, rfl⟩ fun _ _ => by rw [htry]; rfl

lemma nextPdu_of_not_busy {task : AlStateTransferTask} (h : task.isBusy = false)
    (buf : List UInt8) : task.nextPdu buf = .ok ((none, buf), task) := by
  rcases hstate : task.state with e | _ | _ | _ | _ | _ | _ | _ | _ <;>
    simp only [isBusy, hstate, Bool.true_eq_false] at h <;> simp only [nextPdu, hstate]

/-- The contract of the transfer of the AL state. -/
def contract : TaskContract AlStateTransferTask where
  required := requiredBufferSize
  Valid _ := True
  Asked task len n := task.isBusy = true ∧ n ≤ len ∧ (task.ReadsAlStatus → n = AlStatus.size)
  Decodes := DecodesStatus
  next {task buf} _ hroom := by
    cases hbusy : task.isBusy with
    | false =>
        refine ⟨none, buf, task, nextPdu_of_not_busy hbusy buf, trivial, ?_⟩
        rintro command n ⟨⟩
    | true =>
        obtain ⟨command, size, buf', hsize, hnext, hreads⟩ := exists_nextPdu hbusy hroom
        refine ⟨_, buf', _, hnext, trivial, ?_⟩
        rintro command' n heq
        cases heq
        exact ⟨hbusy, hsize.trans hroom, fun h => (hreads h).2.1⟩
  process {task recv time len} _ hasked := by
    obtain ⟨hbusy, -, hsize⟩ := hasked
    change (∃ task', task.recieveAndProcess recv time = .ok task') ↔ _
    by_cases haccepted : recv.Echoes task.command ∧ recv.wkc = task.slaveAddress.numTargets
    · rw [recieveAndProcess_of_accepted haccepted, DecodesStatus]
      rcases hstate : task.state with e | _ | _ | _ | _ | _ | _ | _ | _
      case read =>
        exact iff_of_true (exists_processRead (hsize (.inl hstate)) task) (by rintro ⟨⟩)
      case poll =>
        refine (exists_processPoll_iff (hsize (.inr hstate)) task time).trans ?_
        exact ⟨fun h _ _ _ => h, fun h => h rfl haccepted.1 haccepted.2⟩
      all_goals exact iff_of_true ⟨_, rfl⟩ (by rintro ⟨⟩)
    · obtain ⟨e, he⟩ := checkedState_of_not_accepted .error haccepted task.state
      have hchecked : task.checked recv = { task with state := .error e } := by rw [checked, he]
      refine iff_of_true ⟨{ task with state := .error e }, ?_⟩
        fun _ hechoes hwkc => absurd ⟨hechoes, hwkc⟩ haccepted
      rw [recieveAndProcess, hchecked]
  valid _ _ := trivial

end AlStateTransferTask

namespace MailboxWriteTask

/-- The status of the mailbox is read. -/
def Checks (task : MailboxWriteTask) : Prop :=
  ∃ isFirst waitEmpty, task.state = .checkMailboxEmpty isFirst waitEmpty

lemma exists_nextPdu (task : MailboxWriteTask) {buf : List UInt8}
    (hroom : mailboxCheckSize ≤ buf.length) :
    ∃ pdu buf' task', task.nextPdu buf = .ok ((pdu, buf'), task') ∧
      ∀ command n, pdu = some (command, n) → n ≤ buf.length ∧
        (task'.Checks → n = mailboxCheckSize) := by
  rw [nextPdu]
  rcases hstate : task.state with e | _ | _ | ⟨isFirst, waitEmpty⟩ | _
  case checkMailboxEmpty =>
    obtain ⟨zeroed, hfill⟩ : ∃ zeroed, fillTo buf mailboxCheckSize 0 = .ok zeroed :=
      ⟨_, fillTo_eq_ok_iff.mpr ⟨hroom, rfl⟩⟩
    refine ⟨_, zeroed, _, bind_eq_ok.mpr ⟨zeroed, hfill, rfl⟩, ?_⟩
    rintro command n heq
    cases heq
    exact ⟨hroom, fun _ => rfl⟩
  case write =>
    rw [nextWrite]
    dsimp only
    split
    · refine ⟨_, _, _, rfl, ?_⟩
      rintro command n ⟨⟩
    · next hsize =>
        refine ⟨_, _, _, rfl, ?_⟩
        rintro command n heq
        cases heq
        rw [length_overwrite, Nat.not_lt] at hsize
        refine ⟨hsize, ?_⟩
        rintro ⟨isFirst, waitEmpty, hchecks⟩
        rw [hstate] at hchecks
        cases hchecks
  all_goals
    refine ⟨_, _, _, rfl, ?_⟩
    rintro command n ⟨⟩

/-- The task can read every response to its PDUs. -/
lemma exists_recieveAndProcess (task : MailboxWriteTask) {recv : Pdu} (time : ℕ)
    (hsize : task.Checks → recv.data.length = mailboxCheckSize) :
    ∃ task', task.recieveAndProcess recv time = .ok task' := by
  obtain ⟨task₁, hprocess⟩ : ∃ task₁, (task.checked recv).processState recv time = .ok task₁ := by
    rw [processState]
    rcases hstate : (task.checked recv).state with e | _ | _ | ⟨isFirst, waitEmpty⟩ | _
    case checkMailboxEmpty =>
      have hchecks : task.Checks := by
        rw [checked] at hstate
        split at hstate
        · exact ⟨isFirst, waitEmpty, hstate⟩
        · cases hstate
      have hfits : SyncManagerStatus.isMailboxFull.Fits recv.data := by
        rw [Field.Fits, hsize hchecks]
        decide
      dsimp only
      rw [processCheck]
      split
      · exact ⟨_, rfl⟩
      · exact ⟨_, bind_eq_ok.mpr ⟨_, Field.getBool_of_fits hfits, rfl⟩⟩
    all_goals exact ⟨_, rfl⟩
  exact ⟨_, bind_eq_ok.mpr ⟨task₁, hprocess, rfl⟩⟩

end MailboxWriteTask

namespace MailboxTask

/-- A task of the master that only writes: no read is ever started. -/
def contract : TaskContract MailboxTask where
  required := mailboxCheckSize
  Valid task := task.isBusy = true → ∃ writer, task.inner = .writer writer
  Asked task len n := task.isBusy = true ∧ n ≤ len ∧
    ∀ writer, task.inner = .writer writer → writer.Checks → n = mailboxCheckSize
  Decodes _ _ := True
  next {task buf} hvalid hroom := by
    cases hbusy : task.isBusy with
    | false =>
        refine ⟨none, buf, task, nextPdu_of_not_busy hbusy buf, hvalid, ?_⟩
        rintro command n ⟨⟩
    | true =>
        obtain ⟨writer, hinner⟩ := hvalid hbusy
        obtain ⟨pdu, buf', writer', hnext, hasked⟩ := writer.exists_nextPdu hroom
        obtain ⟨state, inner⟩ := task
        obtain rfl : state = .processing := state_of_busy hbusy
        obtain rfl : inner = .writer writer := hinner
        refine ⟨pdu, buf', ⟨.processing, .writer writer'⟩,
          bind_eq_ok.mpr ⟨_, hnext, rfl⟩, fun _ => ⟨writer', rfl⟩, fun command n hpdu => ?_⟩
        obtain ⟨hle, hchecks⟩ := hasked command n hpdu
        refine ⟨rfl, hle, fun writer₁ hwriter => ?_⟩
        cases hwriter
        exact hchecks
  process {task recv time len} hvalid hasked := by
    obtain ⟨hbusy, -, hchecks⟩ := hasked
    obtain ⟨writer, hinner⟩ := hvalid hbusy
    obtain ⟨writer', hprocess⟩ := writer.exists_recieveAndProcess time (hchecks writer hinner)
    obtain ⟨state, inner⟩ := task
    obtain rfl : state = .processing := state_of_busy hbusy
    obtain rfl : inner = .writer writer := hinner
    exact iff_of_true ⟨_, bind_eq_ok.mpr ⟨writer', hprocess, rfl⟩⟩ trivial
  valid {task task' recv time} hvalid hprocess := by
    change task.recieveAndProcess recv time = _ at hprocess
    rw [recieveAndProcess] at hprocess
    split at hprocess
    case h_4 hstate =>
      obtain ⟨writer, hinner⟩ := hvalid (by rw [isBusy, hstate])
      rw [processInner, hinner] at hprocess
      obtain ⟨writer', -, heq⟩ := bind_eq_ok.mp hprocess
      cases heq
      exact fun _ => ⟨writer', rfl⟩
    all_goals
      cases hprocess
      exact hvalid

end MailboxTask

end EtherCat
