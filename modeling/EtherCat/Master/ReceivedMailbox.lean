import EtherCat.Master.RequestProgress

/-!
# The mailbox that is received

`received_mailbox` hands out what the last read of a mailbox has left in the buffer
(`EtherCatMaster.ReceivesSoundly`).  In the runs of the master there is no such read: it is started
for the slave that was found in the process data, and the search forgets that slave when it ends.
The mailbox task is as it was made, or it has written a request (`CyclicState.NothingRead`), and
nothing is handed out (`EtherCatMaster.receivedMailbox_of_run`).
-/

namespace EtherCat

open Rust Rust.Exec CyclicTask

/-! ## The task -/

/-- The task has not been used, or its last use was a write. -/
def MailboxTask.NeverReads (task : MailboxTask) : Prop := task = .new ∨ task.isWriteMode = true

namespace MailboxTask.NeverReads

variable {task task' : MailboxTask}

lemma recieveAndProcess (h : task.NeverReads) {recvData : Pdu} {sysTime : ℕ}
    (hprocess : task.recieveAndProcess recvData sysTime = .ok task') : task'.NeverReads := by
  obtain ⟨state, inner⟩ := task
  rcases state with e | _ | _ | _
  case processing =>
    rcases inner with reader | writer
    · rcases h with h | h <;> cases h
    · obtain ⟨writer', -, rfl⟩ := recieveAndProcess_writer hprocess
      exact .inr rfl
  all_goals
    cases hprocess
    exact h

lemma nextPdu (h : task.NeverReads) {buf buf' : List UInt8} {pdu : Option (Command × ℕ)}
    (hnext : task.nextPdu buf = .ok ((pdu, buf'), task')) : task'.NeverReads := by
  by_cases hbusy : task.isBusy = true
  · obtain ⟨state, inner⟩ := task
    obtain rfl : state = .processing := state_of_busy hbusy
    rcases inner with reader | writer
    · rcases h with h | h <;> cases h
    · obtain ⟨writer', -, rfl⟩ := nextPdu_writer hnext
      exact .inr rfl
  · obtain ⟨rfl, -, -⟩ := (nextPdu_spec hnext).2 (by simpa using hbusy)
    exact h

lemma processOneStep (h : task.NeverReads) {socket socket' : PduSocket} {sysTime : ℕ}
    (hstep : CyclicTask.processOneStep task socket sysTime = .ok (task', socket')) :
    task'.NeverReads := by
  obtain ⟨task₁, hresponse, hstep⟩ := bind_eq_ok.mp hstep
  obtain ⟨⟨⟨pdu, dataBuf⟩, task₂⟩, hnext, heq⟩ := bind_eq_ok.mp hstep
  cases heq
  have h₁ : task₁.NeverReads := by
    obtain ⟨recv, -, hprocess⟩ := bind_eq_ok.mp hresponse
    rcases recv with _ | recvData
    · cases hprocess
      exact h
    · exact h.recieveAndProcess hprocess
  exact h₁.nextPdu hnext

end MailboxTask.NeverReads

/-! ## The runs -/

namespace CyclicState

/-- **The invariant.** -/
structure NothingRead (s : CyclicState) : Prop where
  noneFound : s.mailboxManager.slaveWithMailbox = none
  neverReads : s.mailboxManager.task.NeverReads

section
variable {s s' : CyclicState}

lemma NothingRead.of_manager (h : s.NothingRead) (hmanager : s'.mailboxManager = s.mailboxManager) :
    s'.NothingRead := by
  obtain ⟨hnone, htask⟩ := h
  rw [← hmanager] at hnone htask
  exact ⟨hnone, htask⟩

/-- The search for a full mailbox ends with no slave, whatever the process data shows. -/
lemma NothingRead.processData (h : s.NothingRead) {sysTime : ℕ}
    (hstep : s.processData sysTime = .ok s') : s'.NothingRead := by
  rw [CyclicState.processData] at hstep
  split at hstep
  · obtain ⟨⟨task, s₁⟩, hprocess, hstep⟩ := bind_eq_ok.mp hstep
    have h₁ := h.of_manager (sameMailbox_processTask hprocess (by decide)).manager
    obtain ⟨⟨manager, mbSocket⟩, hmanager, hstep⟩ := bind_eq_ok.mp hstep
    obtain ⟨manager', hsearch, heq⟩ := bind_eq_ok.mp hstep
    cases heq
    rw [processOneStep_of_noneFound h₁.noneFound] at hmanager
    obtain ⟨⟨mbTask, mbSocket'⟩, htask, heq⟩ := bind_eq_ok.mp hmanager
    cases heq
    obtain ⟨found, -, heq⟩ := bind_eq_ok.mp hsearch
    cases heq
    exact ⟨rfl, h₁.neverReads.processOneStep htask⟩
  · cases hstep
    exact h

lemma NothingRead.cycle (h : s.NothingRead) {sysTime : ℕ} (hstep : s.cycle sysTime = .ok s') :
    s'.NothingRead := by
  obtain ⟨s₁, h₁, hstep⟩ := bind_eq_ok.mp hstep
  obtain ⟨s₂, h₂, hstep⟩ := bind_eq_ok.mp hstep
  obtain ⟨s₃, h₃, hstep⟩ := bind_eq_ok.mp hstep
  obtain ⟨s₄, h₄, hstep⟩ := bind_eq_ok.mp hstep
  obtain ⟨s₅, h₅, heq⟩ := bind_eq_ok.mp hstep
  cases heq
  exact (h.processData h₁).of_manager (sameMailbox_behind h₂ h₃ h₄ h₅).manager

lemma NothingRead.requestMailbox (h : s.NothingRead) {slave : Slave} {message : Mailbox}
    {sessionId : Option MailboxSessionId}
    (hrequest : s.requestMailbox slave message = .ok (sessionId, s')) : s'.NothingRead := by
  rw [CyclicState.requestMailbox] at hrequest
  split at hrequest
  · cases hrequest
    exact h
  · obtain ⟨⟨id, task, slave', dataBuf⟩, htask, heq⟩ := bind_eq_ok.mp hrequest
    cases heq
    obtain ⟨-, writer, rfl⟩ := request_spec htask
    exact ⟨h.noneFound, .inr rfl⟩

/-- **A step.** -/
lemma NothingRead.step (h : s.NothingRead) {event : CyclicEvent}
    (hstep : CyclicState.step s event = .ok s') : s'.NothingRead := by
  cases event with
  | take name =>
      obtain ⟨⟨taken, socket⟩, -, heq⟩ := bind_eq_ok.mp hstep
      cases heq
      exact h.of_manager rfl
  | recieve | fillGp | useGp | setImage | setAlStateTarget =>
      cases hstep
      exact h.of_manager rfl
  | setDcTask =>
      obtain ⟨dcTask, -, heq⟩ := bind_eq_ok.mp hstep
      cases heq
      exact h.of_manager rfl
  | cycle sysTime => exact h.cycle hstep
  | registerProcessDataBuffer buf =>
      obtain ⟨⟨isTaken, s₁⟩, hregister, heq⟩ := bind_eq_ok.mp hstep
      cases heq
      rw [registerProcessDataBuffer] at hregister
      split at hregister
      · cases hregister
        exact h
      split at hregister <;> cases hregister
      exact h.of_manager rfl
  | writePdo slaveAddress pdoMapIndex pdoEntryIndex data =>
      obtain ⟨⟨result, s₁⟩, hwrite, heq⟩ := bind_eq_ok.mp hstep
      cases heq
      exact h.of_manager (sameMailbox_writePdo hwrite).1.manager
  | requestMailbox slave message =>
      obtain ⟨⟨sessionId, s₁⟩, hrequest, heq⟩ := bind_eq_ok.mp hstep
      cases heq
      exact h.requestMailbox hrequest
  | requestAlState alState =>
      cases hstep
      rw [requestAlState]
      split <;> exact h.of_manager rfl

/-- **A run.** -/
lemma nothingRead_of_run {slaveBuf : List (Option Slave × SlaveConfig)}
    {socketBuffer : List UInt8} {events : List CyclicEvent}
    (hrun : Transition.run step (.start slaveBuf socketBuffer) events = .ok s) : s.NothingRead :=
  Transition.run_invariant (P := fun _ _ => True) NothingRead (fun _ _ _ h _ hstep => h.step hstep)
    ⟨rfl, .inl rfl⟩ (Transition.along_of_forall (fun _ _ => trivial) _ _) hrun

end

end CyclicState

/-! ## What is handed out -/

/-- Before the first read there is nothing to hand out. -/
lemma MailboxManager.receivedMailbox_of_neverReads {manager : MailboxManager}
    (h : manager.task.NeverReads) (mbSocket : PduSocket) :
    manager.receivedMailbox mbSocket = .ok none := by
  rw [receivedMailbox]
  rcases h with hnew | hwrites
  · rw [hnew]
    rfl
  · rw [if_pos hwrites]

/-- The responses that the mailbox socket was given, in order. -/
def mailboxResponses (events : List CyclicEvent) : List Pdu :=
  events.filterMap fun
    | .recieve .mailbox response => some response
    | _ => none

namespace EtherCatMaster

variable {D : Type}

/-- **What `received_mailbox` promises**, behind the events of a run.  A frame is handed out only
after a complete read, and it begins with the data of the PDU that read the mailbox; the error of a
read is handed out. -/
structure ReceivesSoundly (master : EtherCatMaster D) (events : List CyclicEvent) : Prop where
  frame : ∀ id frame, master.receivedMailbox = .ok (some (.ok (id, frame))) →
    ∃ reader pdu, master.mailboxManager.task = ⟨.complete, .reader reader⟩ ∧
      (mailboxResponses events).getLast? = some pdu ∧ pdu.wkc = 1 ∧
      pdu.Echoes reader.readCommand ∧ pdu.data <+: frame
  error : ∀ reader e, master.mailboxManager.task = ⟨.error e, .reader reader⟩ →
    master.receivedMailbox = .ok (some (.error e))

section
variable [RawEthernetDevice D] {slaveBuf : List (Option Slave × SlaveConfig)}
  {socketBuffer : List UInt8} {iface : PduInterface D} {first master : EtherCatMaster D}
  {calls : List MasterCall}

/-- **Nothing is handed out.** -/
lemma receivedMailbox_of_run (hnew : new slaveBuf socketBuffer iface = .ok first)
    (hrun : Transition.run call first calls = .ok master) :
    master.mailboxManager.task.NeverReads ∧ master.receivedMailbox = .ok none := by
  obtain ⟨pieces, s, -, hevents, hmaster, -⟩ :=
    run_isCyclic slaveBuf socketBuffer iface first master calls hnew hrun
  have hnothing := CyclicState.nothingRead_of_run hevents
  have hsocket : (s.master master.sif.iface).sif.getSocket SocketName.mailbox.handle =
      some (s.socket .mailbox) := CyclicState.getItem_socketSet (by rintro ⟨⟩)
  rw [hmaster]
  refine ⟨hnothing.neverReads, ?_⟩
  change unwrap ((s.master master.sif.iface).sif.getSocket SocketName.mailbox.handle) >>= _ = _
  rw [hsocket, unwrap_some, ok_bind]
  exact MailboxManager.receivedMailbox_of_neverReads hnothing.neverReads _

/-- **What is received is sound.**  In every run of the master, from the start, through all calls
and whatever the device does. -/
theorem receivesSoundly_of_run (hnew : new slaveBuf socketBuffer iface = .ok first)
    (hrun : Transition.run call first calls = .ok master) :
    ∃ pieces s, List.Forall₂ MasterCall.Does calls pieces ∧
      Transition.run CyclicState.step (.start slaveBuf socketBuffer) pieces.flatten = .ok s ∧
      master = s.master master.sif.iface ∧ master.ReceivesSoundly pieces.flatten := by
  obtain ⟨pieces, s, hdoes, hevents, hmaster, -⟩ :=
    run_isCyclic slaveBuf socketBuffer iface first master calls hnew hrun
  obtain ⟨htask, hreceived⟩ := receivedMailbox_of_run hnew hrun
  refine ⟨pieces, s, hdoes, hevents, hmaster, fun id frame hframe => ?_, fun reader e hread => ?_⟩
  · rw [hreceived] at hframe
    cases hframe
  · rw [hread] at htask
    rcases htask with htask | htask <;> cases htask

end

/-- A request that no slave reacts to, in a master with a registered buffer. -/
def unansweredRequest : List MasterCall :=
  [.registerProcessDataBuffer (List.replicate 4 0), .process 0,
    .requestMailbox CyclicState.requestSlave (.newSdoUploadRequest 0x1018 1), .process 1,
    .process 2, .process 3]

theorem receivesSoundly_of_run_unanswered :
    ∃ master pieces, Transition.run call loopbackMaster unansweredRequest = .ok master ∧
      master.mailboxManager.task.waitResult = some (.error (.taskSpecific .noSlaveReaction)) ∧
      master.ReceivesSoundly (List.flatten pieces) := by
  have hresult : (Transition.run call loopbackMaster unansweredRequest).toOption.map
      (fun master => master.mailboxManager.task.waitResult) =
      some (some (.error (.taskSpecific .noSlaveReaction))) := by
    decide +kernel
  have hlength : minimumRequiredBufferSize < (List.replicate 1024 (0 : UInt8)).length := by
    rw [List.length_replicate]
    decide
  have hnew : new [(none, .default)] (List.replicate 1024 0)
      (.new (.new [] [false]) (List.replicate 256 0)) = .ok loopbackMaster :=
    CyclicState.new_eq (by simp) hlength
  rcases hrun : Transition.run call loopbackMaster unansweredRequest with e | master
  · rw [hrun] at hresult
    cases hresult
  · rw [hrun] at hresult
    obtain ⟨pieces, s, -, -, -, hsound⟩ := receivesSoundly_of_run hnew hrun
    exact ⟨master, pieces, rfl, Option.some.inj hresult, hsound⟩

end EtherCatMaster

end EtherCat
