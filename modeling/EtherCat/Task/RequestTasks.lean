import EtherCat.Task.AddressAccess
import EtherCat.Task.DcCompensation
import EtherCat.Task.MailboxBuffer
import EtherCat.Task.NetworkInitSteps

/-!
# The request tasks are never stuck

The seven tasks that a request starts, from any call of `start` on.  Two of them can lose their
PDU: a mailbox task whose message does not fit into the buffer, and the task that initialises the
network, when a slave does not answer its first PDU.
-/

namespace EtherCat

open Rust Rust.Exec CyclicTask Driven

/-! ## What is started -/

/-- A task that a call has just started. -/
def AddressAccessTask.Started (task : AddressAccessTask) : Prop :=
  (∃ (task₀ : AddressAccessTask) (slaveAddress : TargetSlave) (ado : UInt16) (dataSize : ℕ),
      task = task₀.startToRead slaveAddress ado dataSize) ∨
    ∃ (task₀ : AddressAccessTask) (slaveAddress : TargetSlave) (ado : UInt16)
      (data buf buf' : List UInt8),
      task₀.startToWrite slaveAddress ado data buf = .ok (task, buf')

/-- A task that a call has just started. -/
def AlStateTransferTask.Started (task : AlStateTransferTask) : Prop :=
  ∃ (task₀ : AlStateTransferTask) (slaveAddress : TargetSlave) (target : AlState),
    task = task₀.start slaveAddress target

/-- A task that a call has just started. -/
def SiiReader.Started (task : SiiReader) : Prop :=
  ∃ (task₀ : SiiReader) (slaveAddress : SlaveAddress) (siiAddress : UInt16),
    task = task₀.start slaveAddress siiAddress

/-- A task that a call has just started. -/
def SlaveInitTask.Started (task : SlaveInitTask) : Prop :=
  ∃ (task₀ : SlaveInitTask) (slavePosition : UInt16), task = task₀.start slavePosition

/-- A task that a call has just started. -/
def NetworkInitTask.Started (task : NetworkInitTask) : Prop :=
  ∃ task₀ : NetworkInitTask, task = task₀.start

/-- A task that `start` has just made. -/
def DcInitTask.OnNetwork.Started (dc : DcInitTask.OnNetwork) : Prop :=
  ∃ network, DcInitTask.start network = .ok (dc.task, dc.network)

/-- A task that a call has just started. -/
def MailboxTask.Started (task : MailboxTask) : Prop :=
  (∃ (task₀ : MailboxTask) (slaveAddress : SlaveAddress) (txSm : SyncManager) (waitFull : Bool),
      task = task₀.startToRead slaveAddress txSm waitFull) ∨
    ∃ (task₀ : MailboxTask) (slaveAddress : SlaveAddress) (rxSm : SyncManager) (waitEmpty : Bool),
      task = task₀.startToWrite slaveAddress rxSm waitEmpty

/-! ## The tasks -/

lemma AddressAccessTask.nextPdu_busy {task task' : AddressAccessTask} {buf buf' : List UInt8}
    {pdu : Option (Command × ℕ)} (h : task.nextPdu buf = .ok ((pdu, buf'), task'))
    (hbusy : task'.isBusy = true) : pdu.isSome = true := by
  unfold nextPdu at h
  split at h
  case h_1 hstate | h_2 hstate | h_5 hstate =>
    cases h
    rw [isBusy, hstate] at hbusy
    cases hbusy
  all_goals
    cases h
    rfl

lemma MailboxTask.out_of_started {task : MailboxTask} (h : task.Started) (n : ℕ) :
    task.Out n := by
  rcases h with ⟨task₀, slaveAddress, txSm, waitFull, rfl⟩ | ⟨task₀, slaveAddress, rxSm, waitEmpty,
    rfl⟩
  · exact fun _ => ⟨rfl, by rintro ⟨⟩⟩
  · exact fun _ => ⟨rfl, by rintro ⟨⟩⟩

/-- The seven tasks are never stuck, on responses that meet a condition for two of them. -/
structure RequestTasksNeverStuck (mailboxResponse : Condition MailboxTask)
    (networkResponse : Condition NetworkInitTask) : Prop where
  addressAccess : NeverStuck AddressAccessTask.Started AnyResponse NoInner
  alStateTransfer : NeverStuck AlStateTransferTask.Started AnyResponse NoInner
  siiReader : NeverStuck SiiReader.Started AnyResponse NoInner
  slaveInit : NeverStuck SlaveInitTask.Started AnyResponse
    (Reports SlaveInitTask.innerFailure SlaveInitTask.failure)
  networkInit :
    NeverStuck NetworkInitTask.Started networkResponse NetworkInitTask.ReportsAll
  dcInit : NeverStuck DcInitTask.OnNetwork.Started AnyResponse NoInner
  mailbox : NeverStuck MailboxTask.Started mailboxResponse
    (Reports MailboxTask.innerFailure MailboxTask.failure)

/-- **No request task gets stuck** while the messages of mailboxes fit into the buffer and every
slave answers the first PDU of its initialisation. -/
theorem requestTasks_neverStuck {mailboxResponse : Condition MailboxTask}
    {networkResponse : Condition NetworkInitTask}
    (hmailbox : ∀ n task recv time, mailboxResponse n task recv time →
      MailboxTask.MessageFits n task recv time)
    (hnetwork : ∀ n task recv time, networkResponse n task recv time →
      NetworkInitTask.AcceptsFirst n task recv time) :
    RequestTasksNeverStuck mailboxResponse networkResponse where
  addressAccess := neverStuck_of_nextPdu fun _ _ _ _ _ hnext hbusy =>
    AddressAccessTask.nextPdu_busy hnext hbusy
  alStateTransfer := neverStuck_of_nextPdu fun _ _ _ _ _ hnext hbusy => by
    obtain ⟨hsame, hpdu⟩ := AlStateTransferTask.nextPdu_busy hnext
    exact hpdu (hsame.symm.trans hbusy)
  siiReader := neverStuck_of_nextPdu fun _ _ _ _ _ hnext hbusy => by
    obtain ⟨hsame, hpdu⟩ := SiiReader.nextPdu_busy hnext
    exact hpdu (hsame.symm.trans hbusy)
  slaveInit := by
    apply neverStuck_of_invariant fun _ => SlaveInitTask.Out
    · rintro n task ⟨task₀, slavePosition, rfl⟩
      trivial
    · intro task task₁ task₂ buf buf' pdu hout hprocessed hnext
      exact SlaveInitTask.step_out hout hprocessed hnext
  networkInit := by
    refine NeverStuck.mono ?_ hnetwork
    apply neverStuck_of_invariant fun _ => NetworkInitTask.Out
    · rintro n task ⟨task₀, rfl⟩
      trivial
    · intro task task₁ task₂ buf buf' pdu hout hprocessed hnext
      exact NetworkInitTask.step_out hout hprocessed hnext
  dcInit := neverStuck_of_nextPdu fun _ _ _ _ _ hnext hbusy =>
    (DcInitTask.OnNetwork.nextPdu_busy hnext).2 hbusy
  mailbox := by
    refine NeverStuck.mono ?_ hmailbox
    apply neverStuck_of_invariant MailboxTask.Out
    · intro n task hstarted
      exact MailboxTask.out_of_started hstarted n
    · intro task task₁ task₂ buf buf' pdu hout hprocessed hnext
      exact MailboxTask.step_out hout hprocessed hnext

/-- The two conditions themselves. -/
theorem requestTasks_neverStuck_fits :
    RequestTasksNeverStuck MailboxTask.MessageFits NetworkInitTask.AcceptsFirst :=
  requestTasks_neverStuck (fun _ _ _ _ h => h) (fun _ _ _ _ h => h)

/-- One run that leaves a busy task without a PDU. -/
lemma not_neverStuck {T : Type} [CyclicTask T] {Started : T → Prop} {R : T → T → Prop}
    (d : Driven T) (replies : List Reply) (reply : Reply) {d' d'' : Driven T}
    (hstarted : Started d.task)
    (hrun : Transition.run step d replies = .ok d') (hstep : d'.step reply = .ok d'')
    (hbusy : CyclicTask.isBusy d''.task = true) (hcommand : d''.socket.command = none) :
    ¬ NeverStuck Started AnyResponse R := by
  intro hstuck
  have hmeets : ∀ (d : Driven T) (reply : Reply), Meets AnyResponse d reply :=
    fun _ _ _ _ => trivial
  have hpdu := (hstuck d d' d'' replies reply hstarted
    (Transition.along_of_forall hmeets _ _) hrun hstep).1 hbusy
  rw [hcommand] at hpdu
  cases hpdu

/-- The device gives this working counter and writes these data over the PDU's. -/
def counted (wkc : UInt16) (data : List UInt8) : Reply :=
  ⟨fun pdu => { pdu with data := overwrite pdu.data data, wkc := wkc }, 0⟩

/-- A full mailbox of 32 bytes is to be read through a buffer of 16 bytes; and a slave is there
when the slaves are counted, but does not answer the first PDU of its initialisation. -/
theorem requestTasks_stuck :
    (∀ networkResponse, ¬ RequestTasksNeverStuck AnyResponse networkResponse) ∧
      ∀ mailboxResponse, ¬ RequestTasksNeverStuck mailboxResponse AnyResponse := by
  constructor
  · intro _ h
    apply not_neverStuck
      ⟨MailboxTask.new.startToRead (.stationAddress 1) ⟨1, 32, 0x1080⟩ true,
        .new (List.replicate 16 0)⟩
      [counted 1 []] (counted 1 [0x08, 0]) (.inl ⟨.new, _, _, _, rfl⟩) rfl rfl rfl rfl h.mailbox
  · intro _ h
    apply not_neverStuck
      ⟨(NetworkInitTask.new (.new [])).start, .new (List.replicate 16 0)⟩
      [counted 1 [], counted 1 []] (counted 0 []) ⟨_, rfl⟩ rfl rfl rfl rfl h.networkInit

end EtherCat
