import EtherCat.Master.CycleReturns

/-!
# The progress of a mailbox request

A request is written into the buffer of the mailbox socket; the cycles do the rest: the first asks
for the status of the mailbox, the second writes the message, the third sees that it was written.
This is so if a process data buffer is registered (`request_written`).  Without one the mailbox task
makes no step, and the request stays pending (`request_pending`).
-/

namespace EtherCat

open Rust Rust.Exec BitField CyclicTask

/-! ## The steps of the task -/

namespace MailboxWriteTask

section
variable (slaveAddress : SlaveAddress) (rxSm : SyncManager)

/-- The command that reads the status of the receive mailbox. -/
def statusCommand : Command :=
  .newRead (.single slaveAddress) (SyncManagerStatus.address + rxSm.number.toUInt16 * 0x08)

/-- The command that writes the message. -/
def messageCommand : Command := .newWrite (.single slaveAddress) rxSm.startAddress

/-- The task that has asked for the status. -/
def asking (frame : List UInt8) : MailboxWriteTask :=
  { MailboxWriteTask.new.start slaveAddress rxSm false with
    command := statusCommand slaveAddress rxSm
    emptyCheckBuffer := overwrite (List.replicate mailboxCheckSize 0) frame }

/-- The task that has written the message. -/
def writing (frame : List UInt8) (sysTime : ℕ) : MailboxWriteTask :=
  { asking slaveAddress rxSm frame with
    timerStart := sysTime
    state := .write
    command := messageCommand slaveAddress rxSm }

end

end MailboxWriteTask

namespace MailboxTask

section
variable {slaveAddress : SlaveAddress} {rxSm : SyncManager} {frame : List UInt8}
  {socket : PduSocket} {sysTime time : ℕ} {recv : Pdu}

/-- The first step: it asks for the status. -/
lemma processOneStep_startToWrite (task : MailboxTask)
    (hnone : socket.getRecievedPdu = .ok none) (hroom : mailboxCheckSize ≤ socket.dataBuf.length) :
    processOneStep (task.startToWrite slaveAddress rxSm false) socket sysTime =
      .ok (⟨.processing, .writer (.asking slaveAddress rxSm socket.dataBuf)⟩,
        .store (some (MailboxWriteTask.statusCommand slaveAddress rxSm, mailboxCheckSize))
          (List.replicate mailboxCheckSize 0 ++ socket.dataBuf.drop mailboxCheckSize)) := by
  have hfill : fillTo socket.dataBuf mailboxCheckSize 0 =
      .ok (List.replicate mailboxCheckSize 0 ++ socket.dataBuf.drop mailboxCheckSize) :=
    fillTo_eq_ok_iff.mpr ⟨hroom, rfl⟩
  have hnext : nextPdu (task.startToWrite slaveAddress rxSm false) socket.dataBuf =
      .ok ((some (MailboxWriteTask.statusCommand slaveAddress rxSm, mailboxCheckSize),
        List.replicate mailboxCheckSize 0 ++ socket.dataBuf.drop mailboxCheckSize),
          ⟨.processing, .writer (.asking slaveAddress rxSm socket.dataBuf)⟩) :=
    bind_eq_ok.mpr ⟨_, bind_eq_ok.mpr ⟨_, hfill, rfl⟩, rfl⟩
  rw [processOneStep, processResponse, hnone]
  exact bind_eq_ok.mpr ⟨_, rfl, bind_eq_ok.mpr ⟨_, hnext, rfl⟩⟩

/-- The response to the read of the status. -/
lemma recieveAndProcess_asking (frame : List UInt8) (sysTime : ℕ)
    (hechoes : recv.Echoes (MailboxWriteTask.statusCommand slaveAddress rxSm)) (hwkc : recv.wkc = 1)
    (hlength : recv.data.length = mailboxCheckSize)
    (hempty : SyncManagerStatus.isMailboxFull.val recv.data = 0) :
    MailboxWriteTask.recieveAndProcess (.asking slaveAddress rxSm frame) recv sysTime =
      .ok { MailboxWriteTask.asking slaveAddress rxSm frame with
        timerStart := sysTime
        state := .write } := by
  have hfits : SyncManagerStatus.isMailboxFull.Fits recv.data := by
    rw [Field.Fits, hlength]
    decide
  have hchecked : (MailboxWriteTask.asking slaveAddress rxSm frame).checked recv =
      .asking slaveAddress rxSm frame := if_pos hechoes
  have hcheck : (MailboxWriteTask.asking slaveAddress rxSm frame).processState recv sysTime =
      .ok { MailboxWriteTask.asking slaveAddress rxSm frame with
        timerStart := sysTime
        state := .write } := by
    change MailboxWriteTask.processCheck _ true false recv sysTime = _
    rw [MailboxWriteTask.processCheck, if_neg (not_not.mpr hwkc), Field.getBool_of_fits hfits,
      ok_bind, hempty]
    rfl
  have htimed : ¬ mailboxTimedOut MailboxWriteTask.timeoutMs sysTime sysTime :=
    fun h => absurd h.1 (Nat.lt_irrefl _)
  rw [MailboxWriteTask.recieveAndProcess, hchecked, hcheck, ok_bind, MailboxWriteTask.timed,
    if_neg htimed]

/-- The second step: the mailbox is empty, and the message is written. -/
lemma processOneStep_asking (hrecv : socket.getRecievedPdu = .ok (some recv))
    (hechoes : recv.Echoes (MailboxWriteTask.statusCommand slaveAddress rxSm)) (hwkc : recv.wkc = 1)
    (hlength : recv.data.length = mailboxCheckSize)
    (hempty : SyncManagerStatus.isMailboxFull.val recv.data = 0)
    (hroom : rxSm.size.toNat ≤ socket.dataBuf.length) :
    processOneStep (⟨.processing, .writer (.asking slaveAddress rxSm frame)⟩ : MailboxTask) socket
      sysTime = .ok (⟨.processing, .writer (.writing slaveAddress rxSm frame sysTime)⟩,
        .store (some (MailboxWriteTask.messageCommand slaveAddress rxSm, rxSm.size.toNat))
          (overwrite socket.dataBuf (overwrite (List.replicate mailboxCheckSize 0) frame))) := by
  have hprocess := recieveAndProcess_asking frame sysTime hechoes hwkc hlength hempty
  have hfits : ¬ (overwrite socket.dataBuf (overwrite (List.replicate mailboxCheckSize 0)
      frame)).length < rxSm.size.toNat := by
    rw [length_overwrite]
    omega
  have hwrite : MailboxWriteTask.nextWrite { MailboxWriteTask.asking slaveAddress rxSm frame with
      timerStart := sysTime
      state := .write } socket.dataBuf =
      ((some (MailboxWriteTask.messageCommand slaveAddress rxSm, rxSm.size.toNat),
        overwrite socket.dataBuf (overwrite (List.replicate mailboxCheckSize 0) frame)),
          .writing slaveAddress rxSm frame sysTime) := if_neg hfits
  have hnext : nextPdu (⟨.processing, .writer { MailboxWriteTask.asking slaveAddress rxSm frame with
      timerStart := sysTime
      state := .write }⟩ : MailboxTask) socket.dataBuf =
      .ok ((some (MailboxWriteTask.messageCommand slaveAddress rxSm, rxSm.size.toNat),
        overwrite socket.dataBuf (overwrite (List.replicate mailboxCheckSize 0) frame)),
          ⟨.processing, .writer (.writing slaveAddress rxSm frame sysTime)⟩) :=
    bind_eq_ok.mpr ⟨_, congrArg Except.ok hwrite, rfl⟩
  rw [processOneStep, processResponse, hrecv]
  exact bind_eq_ok.mpr ⟨_, bind_eq_ok.mpr ⟨some recv, rfl, bind_eq_ok.mpr ⟨_, hprocess, rfl⟩⟩,
    bind_eq_ok.mpr ⟨_, hnext, rfl⟩⟩

/-- The third step: the message was written. -/
lemma processOneStep_writing (frame : List UInt8) (hrecv : socket.getRecievedPdu = .ok (some recv))
    (hechoes : recv.Echoes (MailboxWriteTask.messageCommand slaveAddress rxSm))
    (hwkc : recv.wkc = 1) (htime : ¬ mailboxTimedOut MailboxWriteTask.timeoutMs time sysTime) :
    ∃ task socket', processOneStep (⟨.processing, .writer (.writing slaveAddress rxSm frame time)⟩ :
      MailboxTask) socket sysTime = .ok (task, socket') ∧ task.state = .complete := by
  have hchecked : (MailboxWriteTask.writing slaveAddress rxSm frame time).checked recv =
      .writing slaveAddress rxSm frame time := if_pos hechoes
  have hstate : (MailboxWriteTask.writing slaveAddress rxSm frame time).processState recv sysTime =
      .ok { MailboxWriteTask.writing slaveAddress rxSm frame time with state := .complete } := by
    change Except.ok { MailboxWriteTask.writing slaveAddress rxSm frame time with
      state := if recv.wkc ≠ 1 then .write else .complete } = _
    rw [if_neg (not_not.mpr hwkc)]
  have hprocess : MailboxWriteTask.recieveAndProcess (.writing slaveAddress rxSm frame time) recv
      sysTime = .ok { MailboxWriteTask.writing slaveAddress rxSm frame time with
        state := .complete } := by
    rw [MailboxWriteTask.recieveAndProcess, hchecked, hstate, ok_bind]
    exact congrArg Except.ok (if_neg htime)
  rw [processOneStep, processResponse, hrecv]
  exact ⟨_, _, bind_eq_ok.mpr ⟨_, bind_eq_ok.mpr ⟨some recv, rfl, bind_eq_ok.mpr ⟨_, hprocess,
    rfl⟩⟩, bind_eq_ok.mpr ⟨_, rfl, rfl⟩⟩, rfl⟩

end

end MailboxTask

namespace CyclicState

/-! ## Between two cycles -/

/-- The tasks make no step. -/
def BetweenCycles : CyclicEvent → Prop
  | .cycle _ => False
  | _ => True

instance : ∀ event, Decidable (BetweenCycles event)
  | .cycle _ => .isFalse id
  | .take _ | .recieve _ _ | .fillGp _ | .useGp _ | .setImage _ | .setAlStateTarget | .setDcTask
  | .registerProcessDataBuffer _ | .writePdo _ _ _ _ | .requestMailbox _ _ | .requestAlState _ =>
    .isTrue trivial

/-- The slave answers every PDU of the mailbox, in time for the next cycle. -/
def Prompt (Accepts : Pdu → Pdu → Prop) (s : CyclicState) : CyclicEvent → Prop
  | .recieve .mailbox response =>
    ∃ sent ∈ s.underWay .mailbox, Accepts sent response
  | .cycle _ => ¬ (s.socket .mailbox).Pending ∧ s.underWay .mailbox = none
  | .useGp _ => s.underWay .mailbox = none
  | _ => True

instance (Accepts : Pdu → Pdu → Prop) [∀ sent response, Decidable (Accepts sent response)]
    (s : CyclicState) : ∀ event, Decidable (Prompt Accepts s event)
  | .recieve .mailbox response =>
    inferInstanceAs (Decidable (∃ sent ∈ s.underWay .mailbox, Accepts sent response))
  | .cycle _ =>
    inferInstanceAs (Decidable (¬ (s.socket .mailbox).Pending ∧ s.underWay .mailbox = none))
  | .useGp _ => inferInstanceAs (Decidable (s.underWay .mailbox = none))
  | .recieve .alState _ | .recieve .rxError _ | .recieve .dc _ | .recieve .gp _ | .recieve .alTf _
  | .recieve .processData _ | .take _ | .fillGp _ | .setImage _ | .setAlStateTarget | .setDcTask
  | .registerProcessDataBuffer _ | .writePdo _ _ _ _ | .requestMailbox _ _ | .requestAlState _ =>
    .isTrue trivial

/-- A busy mailbox task, in a master with a registered buffer. -/
structure Runs (manager : MailboxManager) (s : CyclicState) : Prop where
  isManager : s.mailboxManager = manager
  busy : isBusy manager.task = true
  registered : s.isRegistered = true

/-- A part of the master that leaves the mailbox alone. -/
structure SameMailbox (s s' : CyclicState) : Prop where
  socket : s'.socket .mailbox = s.socket .mailbox
  manager : s'.mailboxManager = s.mailboxManager
  registered : s'.isRegistered = s.isRegistered

/-- The events that can touch the mailbox. -/
def TouchesMailbox : CyclicEvent → Prop
  | .take .mailbox | .recieve .mailbox _ | .cycle _ => True
  | _ => False

section
variable {s s' : CyclicState} {manager : MailboxManager}

lemma SameMailbox.refl (s : CyclicState) : SameMailbox s s := ⟨rfl, rfl, rfl⟩

lemma SameMailbox.trans {s'' : CyclicState} (h : SameMailbox s s') (h' : SameMailbox s' s'') :
    SameMailbox s s'' :=
  ⟨h'.socket.trans h.socket, h'.manager.trans h.manager, h'.registered.trans h.registered⟩

lemma sameMailbox_writePdo {slaveAddress : SlaveAddress} {pdoMapIndex pdoEntryIndex : ℕ}
    {data : List UInt8} {result : Option Unit}
    (h : s.writePdo slaveAddress pdoMapIndex pdoEntryIndex data = .ok (result, s')) :
    SameMailbox s s' ∧ s'.underWay = s.underWay := by
  rw [writePdo] at h
  split at h
  · obtain ⟨entry, -, h⟩ := bind_eq_ok.mp h
    rcases entry with _ | pdoEntry
    · cases h
      exact ⟨.refl s, rfl⟩
    obtain ⟨⟨result', dataBuf⟩, -, heq⟩ := bind_eq_ok.mp h
    cases heq
    exact ⟨⟨rfl, rfl, rfl⟩, rfl⟩
  · cases h
    exact ⟨.refl s, rfl⟩

/-- The tasks behind the mailbox leave it alone. -/
lemma sameMailbox_processTask {T : Type} [CyclicTask T] {name : SocketName} {task task' : T}
    {sysTime : ℕ} (h : s.processTask name task sysTime = .ok (task', s'))
    (hname : name ≠ .mailbox) : SameMailbox s s' := by
  obtain ⟨⟨task₁, socket⟩, -, heq⟩ := bind_eq_ok.mp h
  cases heq
  exact ⟨Function.update_of_ne hname.symm _ _, rfl, rfl⟩

/-- The other steps of a cycle. -/
lemma sameMailbox_behind {s₁ s₂ s₃ s₄ : CyclicState} {sysTime : ℕ}
    (h₁ : s.compDcDrift sysTime = .ok s₁) (h₂ : s₁.checkRxError sysTime = .ok s₂)
    (h₃ : s₂.checkAlState sysTime = .ok s₃) (h₄ : s₃.transferAlState sysTime = .ok s₄) :
    SameMailbox s s₄ := by
  have hdc : SameMailbox s s₁ := by
    rw [compDcDrift] at h₁
    split at h₁
    · cases h₁
      exact .refl s
    · obtain ⟨⟨task, t⟩, hprocess, heq⟩ := bind_eq_ok.mp h₁
      cases heq
      have hsame := sameMailbox_processTask hprocess (by decide)
      exact ⟨hsame.socket, hsame.manager, hsame.registered⟩
  have hrx : SameMailbox s₁ s₂ := by
    obtain ⟨⟨task, t⟩, hprocess, heq⟩ := bind_eq_ok.mp h₂
    cases heq
    have hsame := sameMailbox_processTask hprocess (by decide)
    exact ⟨hsame.socket, hsame.manager, hsame.registered⟩
  have hal : SameMailbox s₂ s₃ := by
    obtain ⟨⟨task, t⟩, hprocess, heq⟩ := bind_eq_ok.mp h₃
    cases heq
    have hsame := sameMailbox_processTask hprocess (by decide)
    exact ⟨hsame.socket, hsame.manager, hsame.registered⟩
  have htf : SameMailbox s₃ s₄ := by
    obtain ⟨⟨task, t⟩, hprocess, heq⟩ := bind_eq_ok.mp h₄
    cases heq
    have hsame := sameMailbox_processTask hprocess (by decide)
    exact ⟨hsame.socket, hsame.manager, hsame.registered⟩
  exact ((hdc.trans hrx).trans hal).trans htf

/-- **A registered buffer stays registered.** -/
lemma isRegistered_of_step {event : CyclicEvent} (hstep : s.step event = .ok s')
    (h : s.isRegistered = true) : s'.isRegistered = true := by
  cases event with
  | take name =>
      obtain ⟨⟨taken, socket⟩, -, heq⟩ := bind_eq_ok.mp hstep
      cases heq
      exact h
  | recieve | fillGp | useGp | setImage | setAlStateTarget =>
      cases hstep
      exact h
  | setDcTask =>
      obtain ⟨dcTask, -, heq⟩ := bind_eq_ok.mp hstep
      cases heq
      exact h
  | cycle sysTime =>
      obtain ⟨s₁, h₁, hstep⟩ := bind_eq_ok.mp hstep
      obtain ⟨s₂, h₂, hstep⟩ := bind_eq_ok.mp hstep
      obtain ⟨s₃, h₃, hstep⟩ := bind_eq_ok.mp hstep
      obtain ⟨s₄, h₄, hstep⟩ := bind_eq_ok.mp hstep
      obtain ⟨s₅, h₅, heq⟩ := bind_eq_ok.mp hstep
      cases heq
      refine (sameMailbox_behind h₂ h₃ h₄ h₅).registered.trans ?_
      rw [processData, if_pos h] at h₁
      obtain ⟨⟨task, s₀⟩, hprocess, h₁⟩ := bind_eq_ok.mp h₁
      obtain ⟨⟨manager, mbSocket⟩, -, h₁⟩ := bind_eq_ok.mp h₁
      obtain ⟨manager', -, heq⟩ := bind_eq_ok.mp h₁
      cases heq
      exact (sameMailbox_processTask hprocess (by decide)).registered.trans h
  | registerProcessDataBuffer buf =>
      obtain ⟨⟨isTaken, s₁⟩, hregister, heq⟩ := bind_eq_ok.mp hstep
      cases heq
      rw [registerProcessDataBuffer, h] at hregister
      split at hregister <;> cases hregister
      exact h
  | writePdo slaveAddress pdoMapIndex pdoEntryIndex data =>
      obtain ⟨⟨result, s₁⟩, hwrite, heq⟩ := bind_eq_ok.mp hstep
      cases heq
      exact (sameMailbox_writePdo hwrite).1.registered.trans h
  | requestMailbox slave message =>
      obtain ⟨⟨sessionId, s₁⟩, hrequest, heq⟩ := bind_eq_ok.mp hstep
      cases heq
      rw [requestMailbox] at hrequest
      split at hrequest
      · cases hrequest
        exact h
      · obtain ⟨_, -, heq⟩ := bind_eq_ok.mp hrequest
        cases heq
        exact h
  | requestAlState alState =>
      cases hstep
      rw [requestAlState]
      split <;> exact h

lemma prompt_useGp {Accepts : Pdu → Pdu → Prop} {event : CyclicEvent}
    (h : Prompt Accepts s event) (socket : PduSocket) (heq : event = .useGp socket) :
    s.underWay .mailbox = none := by
  subst heq
  exact h

/-- **The other events** leave a busy mailbox alone. -/
lemma sameMailbox_of_step (hbusy : isBusy s.mailboxManager.task = true) {event : CyclicEvent}
    (hother : ¬ TouchesMailbox event)
    (hfixed : s'.isRegistered = s.isRegistered)
    (hgp : ∀ socket, event = .useGp socket → s.underWay .mailbox = none)
    (hstep : s.step event = .ok s') :
    SameMailbox s s' ∧ s'.underWay .mailbox = s.underWay .mailbox := by
  cases event with
  | take name =>
      have hname : name ≠ .mailbox := by
        rintro rfl
        exact hother trivial
      obtain ⟨⟨taken, socket⟩, -, heq⟩ := bind_eq_ok.mp hstep
      cases heq
      exact ⟨⟨Function.update_of_ne hname.symm _ _, rfl, rfl⟩, Function.update_of_ne hname.symm _ _⟩
  | recieve name response =>
      have hname : name ≠ .mailbox := by
        rintro rfl
        exact hother trivial
      cases hstep
      exact ⟨⟨Function.update_of_ne hname.symm _ _, rfl, rfl⟩, Function.update_of_ne hname.symm _ _⟩
  | fillGp | setImage | setAlStateTarget =>
      cases hstep
      exact ⟨⟨rfl, rfl, rfl⟩, rfl⟩
  | useGp socket =>
      cases hstep
      exact ⟨⟨rfl, rfl, rfl⟩, (hgp socket rfl).symm⟩
  | setDcTask =>
      obtain ⟨dcTask, -, heq⟩ := bind_eq_ok.mp hstep
      cases heq
      exact ⟨⟨rfl, rfl, rfl⟩, rfl⟩
  | cycle => exact absurd trivial hother
  | registerProcessDataBuffer buf =>
      obtain ⟨⟨isTaken, s₁⟩, hregister, heq⟩ := bind_eq_ok.mp hstep
      cases heq
      rw [registerProcessDataBuffer] at hregister
      split at hregister
      · cases hregister
        exact ⟨.refl s, rfl⟩
      split at hregister
      · cases hregister
      next hunregistered =>
        cases hregister
        exact absurd hfixed.symm hunregistered
  | writePdo slaveAddress pdoMapIndex pdoEntryIndex data =>
      obtain ⟨⟨result, s₁⟩, hwrite, heq⟩ := bind_eq_ok.mp hstep
      cases heq
      obtain ⟨hsame, hunderWay⟩ := sameMailbox_writePdo hwrite
      exact ⟨hsame, congrFun hunderWay _⟩
  | requestMailbox slave message =>
      obtain ⟨⟨sessionId, s₁⟩, hrequest, heq⟩ := bind_eq_ok.mp hstep
      cases heq
      rw [requestMailbox, if_pos hbusy] at hrequest
      cases hrequest
      exact ⟨.refl s, rfl⟩
  | requestAlState alState =>
      cases hstep
      rw [requestAlState]
      split <;> exact ⟨⟨rfl, rfl, rfl⟩, rfl⟩

/-- How far the PDU of the mailbox has come: it waits in its socket, is under way, or has come
back. -/
inductive Stage (Accepts : Pdu → Pdu → Prop) (socket : PduSocket) (sent : Pdu) (s : CyclicState) :
    List Pdu → Prop
  | pending : s.socket .mailbox = socket → s.underWay .mailbox = none →
    Stage Accepts socket sent s []
  | underWay : s.socket .mailbox = socket.taken → s.underWay .mailbox = some sent →
    Stage Accepts socket sent s [sent]
  | answered (response : Pdu) : Accepts sent response →
    s.socket .mailbox = socket.taken.recieve response → s.underWay .mailbox = none →
    Stage Accepts socket sent s [sent]

/-- The PDU of a socket that is pending. -/
def IsPduOf (sent : Pdu) (socket : PduSocket) : Prop :=
  socket.Pending ∧ socket.dataLength ≤ socket.dataBuf.length ∧
    sent.wkc = 0 ∧ socket.command = some sent.command ∧
      sent.data = socket.dataBuf.take socket.dataLength

lemma Runs.same (h : s.Runs manager) (hsame : SameMailbox s s') : s'.Runs manager where
  isManager := hsame.manager.trans h.isManager
  busy := h.busy
  registered := hsame.registered.trans h.registered

/-- The PDU of the mailbox is taken. -/
lemma Stage.take {Accepts : Pdu → Pdu → Prop} {socket : PduSocket} {sent : Pdu}
    {noted : List Pdu} (hstage : Stage Accepts socket sent s noted) (hsent : IsPduOf sent socket)
    {taken : Option Pdu} {socket' : PduSocket}
    (htake : (s.socket .mailbox).takePdu = .ok (taken, socket'))
    (hsocket' : s'.socket .mailbox = socket')
    (hunderWay : s'.underWay .mailbox = (taken <|> s.underWay .mailbox)) :
    Stage Accepts socket sent s' (noted ++ taken.toList) := by
  cases hstage with
  | pending hsocket hidle =>
      rw [hsocket] at htake
      obtain ⟨hpending, -, hwkc, hcommand, hdata⟩ := hsent
      rcases PduSocket.takePdu_eq_ok htake with ⟨hnot, -⟩ | ⟨command, -, hcommand', -, rfl, rfl⟩
      · exact absurd hpending hnot
      · cases hcommand.symm.trans hcommand'
        have hpdu : (⟨sent.command, socket.dataBuf.take socket.dataLength, 0⟩ : Pdu) = sent := by
          rw [← hdata, ← hwkc]
        rw [hpdu] at hunderWay ⊢
        exact .underWay hsocket' hunderWay
  | underWay hsocket hout =>
      rw [hsocket] at htake
      rcases PduSocket.takePdu_eq_ok htake with ⟨-, rfl, rfl⟩ | ⟨command, hpending, -⟩
      · exact .underWay hsocket' (hunderWay.trans hout)
      · exact absurd hpending (PduSocket.not_pending_taken _)
  | answered response haccepts hsocket hidle =>
      rw [hsocket] at htake
      rcases PduSocket.takePdu_eq_ok htake with ⟨-, rfl, rfl⟩ | ⟨command, hpending, -⟩
      · exact .answered response haccepts hsocket' (hunderWay.trans hidle)
      · cases hpending.1

/-- **One event between two cycles.** -/
lemma Stage.step {Accepts : Pdu → Pdu → Prop} {socket : PduSocket} {sent : Pdu} {noted : List Pdu}
    (hruns : s.Runs manager) (hstage : Stage Accepts socket sent s noted)
    (hsent : IsPduOf sent socket) {event : CyclicEvent} (hbetween : BetweenCycles event)
    (hprompt : Prompt Accepts s event) (hstep : s.step event = .ok s') :
    s'.Runs manager ∧ Stage Accepts socket sent s' (noted ++ s.handedOver .mailbox event) := by
  by_cases htouches : TouchesMailbox event
  · cases event with
    | take name =>
        cases name with
        | mailbox =>
            obtain ⟨taken, socket', htake, hsocket', hunderWay, hmanager, hregistered⟩ :=
              exists_of_take hstep
            rw [handedOver_take htake]
            exact ⟨⟨hmanager.trans hruns.isManager, hruns.busy, hregistered.trans hruns.registered⟩,
              hstage.take hsent htake hsocket' hunderWay⟩
        | _ => exact htouches.elim
    | recieve name response =>
        cases name with
        | mailbox =>
            obtain ⟨pdu, hout, haccepts⟩ := hprompt
            obtain ⟨hsocket', hidle', hmanager, hregistered⟩ := of_recieve hstep
            refine ⟨⟨hmanager.trans hruns.isManager, hruns.busy,
              hregistered.trans hruns.registered⟩, ?_⟩
            rw [show s.handedOver .mailbox (.recieve .mailbox response) = [] from rfl,
              List.append_nil]
            cases hstage with
            | underWay hsocket hout' =>
                cases hout.symm.trans hout'
                exact .answered response haccepts (hsocket ▸ hsocket') hidle'
            | pending _ hidle => cases hout.symm.trans hidle
            | answered _ _ _ hidle => cases hout.symm.trans hidle
        | _ => exact htouches.elim
    | cycle => exact hbetween.elim
    | _ => exact htouches.elim
  · have hbusy : isBusy s.mailboxManager.task = true := hruns.isManager ▸ hruns.busy
    obtain ⟨hsame, hunderWay⟩ := sameMailbox_of_step hbusy htouches
      ((isRegistered_of_step hstep hruns.registered).trans hruns.registered.symm)
      (prompt_useGp hprompt) hstep
    have hnone : s.handedOver .mailbox event = [] := by
      refine List.eq_nil_iff_forall_not_mem.mpr fun pdu hpdu => htouches ?_
      rw [(eq_taken_of_mem_handedOver hpdu).1]
      trivial
    rw [hnone, List.append_nil]
    refine ⟨hruns.same hsame, ?_⟩
    cases hstage with
    | pending hsocket hidle => exact .pending (hsame.socket.trans hsocket) (hunderWay.trans hidle)
    | underWay hsocket hout => exact .underWay (hsame.socket.trans hsocket) (hunderWay.trans hout)
    | answered response haccepts hsocket hidle =>
        exact .answered response haccepts (hsame.socket.trans hsocket) (hunderWay.trans hidle)

/-- **Between two cycles** the PDU that waits is sent and answered. -/
lemma Runs.exchange {Accepts : Pdu → Pdu → Prop} (hruns : s.Runs manager) {sent : Pdu}
    (hsent : IsPduOf sent (s.socket .mailbox)) (hidle : s.underWay .mailbox = none)
    {events : List CyclicEvent} (hbetween : ∀ event ∈ events, BetweenCycles event)
    (hprompt : Transition.Along CyclicState.step (Prompt Accepts) s events)
    (hrun : Transition.run CyclicState.step s events = .ok s')
    (hdone : ¬ (s'.socket .mailbox).Pending) (hidle' : s'.underWay .mailbox = none) :
    s'.Runs manager ∧ s.sentPdus .mailbox events = [sent] ∧ ∃ response, Accepts sent response ∧
      s'.socket .mailbox = (s.socket .mailbox).taken.recieve response := by
  have hkept : ∀ t event t' noted,
      (t.Runs manager ∧ Stage Accepts (s.socket .mailbox) sent t noted) →
      (BetweenCycles event ∧ Prompt Accepts t event) → CyclicState.step t event = .ok t' →
      t'.Runs manager ∧
        Stage Accepts (s.socket .mailbox) sent t' (noted ++ t.handedOver .mailbox event) :=
    fun _ _ _ _ h hevent hstep => h.2.step h.1 hsent hevent.1 hevent.2 hstep
  obtain ⟨hruns', hstage⟩ := Transition.run_log_invariant_of_along
    (fun t noted => t.Runs manager ∧ Stage Accepts (s.socket .mailbox) sent t noted) hkept
    ⟨hruns, .pending rfl hidle⟩ (Transition.along_and_of_mem hbetween hprompt) hrun
  rw [List.nil_append] at hstage
  change Stage _ _ _ _ (s.sentPdus .mailbox events) at hstage
  generalize s.sentPdus .mailbox events = noted at hstage ⊢
  cases hstage with
  | pending hsocket _ => exact absurd (hsocket ▸ hsent.1) hdone
  | underWay _ hout => cases hidle'.symm.trans hout
  | answered response haccepts hsocket _ => exact ⟨hruns', rfl, response, haccepts, hsocket⟩

/-- Nothing waits, and nothing is under way. -/
structure Quiet (manager : MailboxManager) (socket : PduSocket) (s : CyclicState) : Prop where
  runs : s.Runs manager
  isSocket : s.socket .mailbox = socket
  idle : s.underWay .mailbox = none

lemma Quiet.step {Accepts : Pdu → Pdu → Prop} {socket : PduSocket} (h : s.Quiet manager socket)
    (hnothing : ¬ socket.Pending) {event : CyclicEvent} (hbetween : BetweenCycles event)
    (hprompt : Prompt Accepts s event) (hstep : s.step event = .ok s') :
    s'.Quiet manager socket := by
  by_cases htouches : TouchesMailbox event
  · cases event with
    | take name =>
        cases name with
        | mailbox =>
            obtain ⟨taken, socket', htake, hsocket', hunderWay, hmanager, hregistered⟩ :=
              exists_of_take hstep
            rcases PduSocket.takePdu_eq_ok htake with ⟨-, rfl, rfl⟩ | ⟨command, hpending, -⟩
            · exact ⟨⟨hmanager.trans h.runs.isManager, h.runs.busy,
                hregistered.trans h.runs.registered⟩, hsocket'.trans h.isSocket,
                hunderWay.trans h.idle⟩
            · rw [h.isSocket] at hpending
              exact absurd hpending hnothing
        | _ => exact htouches.elim
    | recieve name response =>
        cases name with
        | mailbox =>
            obtain ⟨sent, hout, -⟩ := hprompt
            cases h.idle.symm.trans hout
        | _ => exact htouches.elim
    | cycle => exact hbetween.elim
    | _ => exact htouches.elim
  · have hbusy : isBusy s.mailboxManager.task = true := h.runs.isManager ▸ h.runs.busy
    obtain ⟨hsame, hunderWay⟩ := sameMailbox_of_step hbusy htouches
      ((isRegistered_of_step hstep h.runs.registered).trans h.runs.registered.symm)
      (prompt_useGp hprompt) hstep
    exact ⟨h.runs.same hsame, hsame.socket.trans h.isSocket, hunderWay.trans h.idle⟩

/-- Between two cycles nothing is sent. -/
lemma Quiet.run {Accepts : Pdu → Pdu → Prop} {socket : PduSocket} (h : s.Quiet manager socket)
    (hnothing : ¬ socket.Pending) {events : List CyclicEvent}
    (hbetween : ∀ event ∈ events, BetweenCycles event)
    (hprompt : Transition.Along CyclicState.step (Prompt Accepts) s events)
    (hrun : Transition.run CyclicState.step s events = .ok s') :
    s'.Quiet manager socket ∧ s.sentPdus .mailbox events = [] := by
  have hkept : ∀ t event t' noted, (t.Quiet manager socket ∧ noted = []) →
      (BetweenCycles event ∧ Prompt Accepts t event) → CyclicState.step t event = .ok t' →
      t'.Quiet manager socket ∧ noted ++ t.handedOver .mailbox event = [] := by
    rintro t event t' noted ⟨hquiet, rfl⟩ ⟨hevent, hprompt⟩ hstep
    refine ⟨hquiet.step hnothing hevent hprompt hstep, ?_⟩
    exact handedOver_of_not_pending (hquiet.isSocket ▸ hnothing) event
  exact Transition.run_log_invariant_of_along
    (fun t noted => t.Quiet manager socket ∧ noted = []) hkept ⟨h, rfl⟩
    (Transition.along_and_of_mem hbetween hprompt) hrun

/-! ## The cycle -/

/-- The process data and the mailboxes. -/
lemma Runs.processData (hruns : s.Runs manager) (hnone : manager.slaveWithMailbox = none)
    {sysTime : ℕ} (hstep : s.processData sysTime = .ok s') {task : MailboxTask}
    {socket : PduSocket}
    (hmailbox : processOneStep manager.task (s.socket .mailbox) sysTime = .ok (task, socket)) :
    s'.mailboxManager = { manager with task := task } ∧ s'.socket .mailbox = socket ∧
      s'.isRegistered = true := by
  rw [CyclicState.processData, if_pos hruns.registered] at hstep
  obtain ⟨⟨task₁, s₁⟩, hprocess, hstep⟩ := bind_eq_ok.mp hstep
  have hsame := sameMailbox_processTask hprocess (by decide)
  obtain ⟨⟨manager₁, mbSocket⟩, hmanager, hstep⟩ := bind_eq_ok.mp hstep
  obtain ⟨manager₂, hlookup, heq⟩ := bind_eq_ok.mp hstep
  cases heq
  have hregistered := hsame.registered.trans hruns.registered
  rw [hsame.manager, hsame.socket, hruns.isManager, processOneStep_of_noneFound hnone] at hmanager
  obtain ⟨⟨task₂, socket₂⟩, htask, heq⟩ := bind_eq_ok.mp hmanager
  cases hmailbox.symm.trans htask
  cases heq
  obtain ⟨found, -, heq⟩ := bind_eq_ok.mp hlookup
  cases heq
  refine ⟨by rw [← hnone], ?_, hregistered⟩
  change Function.update s₁.socket .mailbox socket .mailbox = socket
  rw [Function.update_self]

/-- **The mailbox in a cycle**: its task makes a step. -/
lemma Runs.cycle (hruns : s.Runs manager) (hnone : manager.slaveWithMailbox = none) {sysTime : ℕ}
    (hstep : s.step (.cycle sysTime) = .ok s') {task : MailboxTask} {socket : PduSocket}
    (hmailbox : processOneStep manager.task (s.socket .mailbox) sysTime = .ok (task, socket)) :
    s'.mailboxManager = { manager with task := task } ∧ s'.socket .mailbox = socket ∧
      s'.underWay .mailbox = none ∧ s'.isRegistered = true := by
  obtain ⟨s₁, h₁, hstep⟩ := bind_eq_ok.mp hstep
  obtain ⟨s₂, h₂, hstep⟩ := bind_eq_ok.mp hstep
  obtain ⟨s₃, h₃, hstep⟩ := bind_eq_ok.mp hstep
  obtain ⟨s₄, h₄, hstep⟩ := bind_eq_ok.mp hstep
  obtain ⟨s₅, h₅, heq⟩ := bind_eq_ok.mp hstep
  cases heq
  obtain ⟨hmanager, hsocket, hregistered⟩ := hruns.processData hnone h₁ hmailbox
  have hsame := sameMailbox_behind h₂ h₃ h₄ h₅
  exact ⟨hsame.manager.trans hmanager, hsame.socket.trans hsocket, rfl,
    hsame.registered.trans hregistered⟩

end

/-! ## The request -/

/-- The slave answers a PDU of the mailbox task: its mailbox is empty. -/
def AcceptsRequest (slaveAddress : SlaveAddress) (rxSm : SyncManager) (sent response : Pdu) :
    Prop :=
  response.Echoes sent.command ∧ response.wkc = 1 ∧ response.data.length = sent.data.length ∧
    (sent.command = MailboxWriteTask.statusCommand slaveAddress rxSm →
      SyncManagerStatus.isMailboxFull.val response.data = 0)

instance (slaveAddress : SlaveAddress) (rxSm : SyncManager) (sent response : Pdu) :
    Decidable (AcceptsRequest slaveAddress rxSm sent response) :=
  inferInstanceAs (Decidable (_ ∧ _))

/-- What a task gets to see of a response. -/
lemma getRecievedPdu_recieve {socket : PduSocket} {sent response : Pdu}
    (hsent : IsPduOf sent socket) (hlength : response.data.length = sent.data.length) :
    (socket.taken.recieve response).getRecievedPdu = .ok (some response) := by
  obtain ⟨-, hle, -, -, hdata⟩ := hsent
  rw [hdata, List.length_take_of_le hle] at hlength
  have hslice : sliceTo (overwrite socket.dataBuf response.data) socket.dataLength =
      .ok response.data := by
    refine sliceTo_eq_ok_iff.mpr ⟨?_, ?_⟩
    · rwa [length_overwrite]
    · rw [← hlength, take_overwrite (hlength.trans_le hle)]
  exact bind_eq_ok.mpr ⟨_, hslice, rfl⟩

/-- The bytes that the status has overwritten are put back. -/
lemma overwrite_restores {frame data : List UInt8} (hframe : mailboxCheckSize ≤ frame.length)
    (hdata : data.length = mailboxCheckSize) :
    overwrite (overwrite (List.replicate mailboxCheckSize 0 ++ frame.drop mailboxCheckSize) data)
      (overwrite (List.replicate mailboxCheckSize 0) frame) = frame := by
  have hsaved : overwrite (List.replicate mailboxCheckSize (0 : UInt8)) frame =
      frame.take mailboxCheckSize := by
    rw [overwrite, List.length_replicate, List.drop_eq_nil_of_le, List.append_nil]
    rwa [List.length_replicate]
  have hlength : (List.replicate mailboxCheckSize (0 : UInt8) ++
      frame.drop mailboxCheckSize).length = frame.length := by
    rw [List.length_append, List.length_replicate, List.length_drop]
    omega
  rw [hsaved, overwrite, length_overwrite, hlength, List.length_take_of_le hframe,
    List.take_take, Nat.min_eq_right hframe]
  have hrest : (overwrite (List.replicate mailboxCheckSize (0 : UInt8) ++
      frame.drop mailboxCheckSize) data).drop mailboxCheckSize = frame.drop mailboxCheckSize := by
    have htake : data.take (List.replicate mailboxCheckSize (0 : UInt8) ++
        frame.drop mailboxCheckSize).length = data := by
      rw [hlength, List.take_of_length_le (hdata ▸ hframe)]
    rw [overwrite, htake, hdata]
    have hzeros : (List.replicate mailboxCheckSize (0 : UInt8)).length = mailboxCheckSize :=
      List.length_replicate ..
    rw [← hdata, List.drop_left', hdata]
    · exact List.drop_left' hzeros
    · rfl
  rw [hrest, List.take_append_drop]

/-- A run over three cycles. -/
def threeCycles (first second third : List CyclicEvent) (time₁ time₂ time₃ : ℕ) :
    List CyclicEvent :=
  first ++ .cycle time₁ :: (second ++ .cycle time₂ :: (third ++ [.cycle time₃]))

/-- What an accepted request leaves. -/
lemma of_requestMailbox {s s₁ : CyclicState} {slave : Slave} {message : Mailbox}
    {sessionId : MailboxSessionId} (h : s.Sound)
    (hrequest : s.requestMailbox slave message = .ok (some sessionId, s₁)) :
    ∃ rxSm, slave.info.mailboxRxSm = some rxSm ∧
      s₁.mailboxManager =
        ⟨s.mailboxManager.task.startToWrite slave.info.slaveAddress rxSm false, none⟩ ∧
      (s₁.socket .mailbox).command = none ∧ s₁.underWay .mailbox = none ∧
      (s₁.socket .mailbox).dataBuf.length = (s.socket .mailbox).dataBuf.length ∧
      s₁.isRegistered = s.isRegistered := by
  rw [requestMailbox] at hrequest
  split at hrequest
  · cases hrequest
  next hbusy =>
    obtain ⟨⟨id, task, slave', dataBuf⟩, htask, heq⟩ := bind_eq_ok.mp hrequest
    cases heq
    obtain ⟨⟨-, -, hasked, -⟩, hnone⟩ := h .mailbox
    have hidle : ¬ ((s.socket .mailbox).command.isSome ∨ (s.underWay .mailbox).isSome) :=
      fun hout => hbusy (hasked hout).1
    rw [not_or, Option.not_isSome_iff_eq_none, Option.not_isSome_iff_eq_none] at hidle
    obtain ⟨hlength, -⟩ := request_spec htask
    obtain ⟨⟨result, mbFrame⟩, -, htask⟩ := bind_eq_ok.mp htask
    rcases result with e | ⟨⟩
    · cases htask
    obtain ⟨rxSm, hrxSm, htask⟩ := bind_eq_ok.mp htask
    obtain ⟨mbFrame', -, heq⟩ := bind_eq_ok.mp htask
    cases heq
    refine ⟨rxSm, unwrap_eq_ok_iff.mp hrxSm, ?_, hidle.1, hidle.2, hlength, rfl⟩
    rw [← hnone]

/-- The read of the status. -/
def statusPdu (slaveAddress : SlaveAddress) (rxSm : SyncManager) : Pdu where
  command := MailboxWriteTask.statusCommand slaveAddress rxSm
  data := List.replicate mailboxCheckSize 0
  wkc := 0

/-- The message, as the request has left it in the buffer. -/
def messagePdu (slaveAddress : SlaveAddress) (rxSm : SyncManager) (frame : List UInt8) : Pdu where
  command := MailboxWriteTask.messageCommand slaveAddress rxSm
  data := frame.take rxSm.size.toNat
  wkc := 0

section
variable {slaveAddress : SlaveAddress} {rxSm : SyncManager} {frame : List UInt8}
  {s a b : CyclicState} {events : List CyclicEvent} {time sysTime : ℕ}

/-- The request has been made. -/
structure Requested (slaveAddress : SlaveAddress) (rxSm : SyncManager) (frame : List UInt8)
    (s : CyclicState) : Prop where
  task : ∃ task : MailboxTask, s.mailboxManager = ⟨task.startToWrite slaveAddress rxSm false, none⟩
  registered : s.isRegistered = true
  command : (s.socket .mailbox).command = none
  dataBuf : (s.socket .mailbox).dataBuf = frame
  idle : s.underWay .mailbox = none
  check : mailboxCheckSize ≤ frame.length

/-- The status is asked for. -/
structure Asks (slaveAddress : SlaveAddress) (rxSm : SyncManager) (frame : List UInt8)
    (s : CyclicState) : Prop where
  runs : s.Runs ⟨⟨.processing, .writer (.asking slaveAddress rxSm frame)⟩, none⟩
  socket : s.socket .mailbox =
    .store (some (MailboxWriteTask.statusCommand slaveAddress rxSm, mailboxCheckSize))
      (List.replicate mailboxCheckSize 0 ++ frame.drop mailboxCheckSize)
  idle : s.underWay .mailbox = none
  check : mailboxCheckSize ≤ frame.length

/-- The message is written. -/
structure Writes (slaveAddress : SlaveAddress) (rxSm : SyncManager) (frame : List UInt8)
    (time : ℕ) (s : CyclicState) : Prop where
  runs : s.Runs ⟨⟨.processing, .writer (.writing slaveAddress rxSm frame time)⟩, none⟩
  socket : s.socket .mailbox =
    .store (some (MailboxWriteTask.messageCommand slaveAddress rxSm, rxSm.size.toNat)) frame
  idle : s.underWay .mailbox = none
  room : rxSm.size.toNat ≤ frame.length

/-- **The first cycle** asks for the status. -/
lemma Requested.next {Accepts : Pdu → Pdu → Prop} (h : s.Requested slaveAddress rxSm frame)
    (hbetween : ∀ event ∈ events, BetweenCycles event)
    (hprompt : Transition.Along step (Prompt Accepts) s events)
    (hrun : Transition.run step s events = .ok a) (hcycle : a.step (.cycle sysTime) = .ok b) :
    b.Asks slaveAddress rxSm frame ∧ s.sentPdus .mailbox events = [] := by
  obtain ⟨task, hmanager⟩ := h.task
  have hquiet : s.Quiet ⟨task.startToWrite slaveAddress rxSm false, none⟩ (s.socket .mailbox) :=
    ⟨⟨hmanager, rfl, h.registered⟩, rfl, h.idle⟩
  have hnothing : ¬ (s.socket .mailbox).Pending := by
    rintro ⟨-, hsome⟩
    rw [h.command] at hsome
    cases hsome
  obtain ⟨hquiet', hsent⟩ := hquiet.run hnothing hbetween hprompt hrun
  have hunseen : (a.socket .mailbox).getRecievedPdu = .ok none := by
    rw [hquiet'.isSocket, PduSocket.getRecievedPdu, h.command]
    split <;> rfl
  have hdataBuf : (a.socket .mailbox).dataBuf = frame := by rw [hquiet'.isSocket, h.dataBuf]
  obtain ⟨hmanager', hsocket, hidle, hregistered⟩ := hquiet'.runs.cycle rfl hcycle
    (MailboxTask.processOneStep_startToWrite task hunseen (hdataBuf ▸ h.check))
  rw [hdataBuf] at hmanager' hsocket
  exact ⟨⟨⟨hmanager', rfl, hregistered⟩, hsocket, hidle, h.check⟩, hsent⟩

lemma Asks.isPduOf (h : s.Asks slaveAddress rxSm frame) :
    IsPduOf (statusPdu slaveAddress rxSm) (s.socket .mailbox) := by
  have hlength : (List.replicate mailboxCheckSize (0 : UInt8)).length = mailboxCheckSize :=
    List.length_replicate ..
  rw [h.socket]
  refine ⟨⟨rfl, rfl⟩, ?_, rfl, rfl, ?_⟩
  · change mailboxCheckSize ≤
      (List.replicate mailboxCheckSize (0 : UInt8) ++ frame.drop mailboxCheckSize).length
    rw [List.length_append, hlength]
    exact Nat.le_add_right _ _
  · exact (List.take_left' hlength).symm

/-- **The second cycle** writes the message. -/
lemma Asks.next (h : s.Asks slaveAddress rxSm frame) (hroom : rxSm.size.toNat ≤ frame.length)
    (hbetween : ∀ event ∈ events, BetweenCycles event)
    (hprompt : Transition.Along step (Prompt (AcceptsRequest slaveAddress rxSm)) s events)
    (hrun : Transition.run step s events = .ok a)
    (hdone : a.Prompt (AcceptsRequest slaveAddress rxSm) (.cycle sysTime))
    (hcycle : a.step (.cycle sysTime) = .ok b) :
    b.Writes slaveAddress rxSm frame sysTime ∧
      s.sentPdus .mailbox events = [statusPdu slaveAddress rxSm] := by
  obtain ⟨hruns, hsent, response, ⟨hechoes, hwkc, hlength, hempty⟩, hsocket⟩ :=
    h.runs.exchange h.isPduOf h.idle hbetween hprompt hrun hdone.1 hdone.2
  have hrecv := getRecievedPdu_recieve h.isPduOf hlength
  rw [← hsocket] at hrecv
  have hdata : response.data.length = mailboxCheckSize := hlength.trans (List.length_replicate ..)
  have hdataBuf : (a.socket .mailbox).dataBuf =
      overwrite (List.replicate mailboxCheckSize 0 ++ frame.drop mailboxCheckSize)
        response.data := by
    rw [hsocket, h.socket]
    rfl
  have hlong : (a.socket .mailbox).dataBuf.length = frame.length := by
    rw [hdataBuf, length_overwrite, List.length_append, List.length_replicate, List.length_drop]
    have := h.check
    omega
  obtain ⟨hmanager', hsocket', hidle, hregistered⟩ := hruns.cycle rfl hcycle
    (MailboxTask.processOneStep_asking hrecv hechoes hwkc hdata (hempty rfl) (hlong ▸ hroom))
  rw [hdataBuf, overwrite_restores h.check hdata] at hsocket'
  exact ⟨⟨⟨hmanager', rfl, hregistered⟩, hsocket', hidle, hroom⟩, hsent⟩

/-- **The third cycle** sees that the message was written. -/
lemma Writes.next (h : s.Writes slaveAddress rxSm frame time)
    (hbetween : ∀ event ∈ events, BetweenCycles event)
    (hprompt : Transition.Along step (Prompt (AcceptsRequest slaveAddress rxSm)) s events)
    (hrun : Transition.run step s events = .ok a)
    (hdone : a.Prompt (AcceptsRequest slaveAddress rxSm) (.cycle sysTime))
    (hcycle : a.step (.cycle sysTime) = .ok b)
    (htime : sysTime ≤ time + MailboxWriteTask.timeoutMs * 1000 * 1000) :
    b.mailboxManager.task.state = .complete ∧
      s.sentPdus .mailbox events = [messagePdu slaveAddress rxSm frame] := by
  have hpdu : IsPduOf (messagePdu slaveAddress rxSm frame) (s.socket .mailbox) := by
    rw [h.socket]
    exact ⟨⟨rfl, rfl⟩, h.room, rfl, rfl, rfl⟩
  obtain ⟨hruns, hsent, response, ⟨hechoes, hwkc, hlength, -⟩, hsocket⟩ :=
    h.runs.exchange hpdu h.idle hbetween hprompt hrun hdone.1 hdone.2
  have hrecv := getRecievedPdu_recieve hpdu hlength
  rw [← hsocket] at hrecv
  have hintime : ¬ mailboxTimedOut MailboxWriteTask.timeoutMs time sysTime := by
    rintro ⟨-, hlate⟩
    omega
  obtain ⟨task, socket', hstep, hcomplete⟩ :=
    MailboxTask.processOneStep_writing frame hrecv hechoes hwkc hintime
  obtain ⟨hmanager', -⟩ := hruns.cycle rfl hcycle hstep
  rw [hmanager']
  exact ⟨hcomplete, hsent⟩

end

/-- **A request is written** in the second cycle behind it, and done in the third, in a master with
a registered process data buffer, if the slave has an empty mailbox, answers in time, and the
message fits into the buffer.  The mailbox PDUs are the read of the status and the message, as the
request has left it in the buffer. -/
theorem request_written (slaveBuf : List (Option Slave × SlaveConfig)) (socketBuffer : List UInt8)
    (earlier first second third : List CyclicEvent) (s s₁ t : CyclicState) (slave : Slave)
    (message : Mailbox) (sessionId : MailboxSessionId) (rxSm : SyncManager)
    (time₁ time₂ time₃ : ℕ)
    (hlength : EtherCatMaster.minimumRequiredBufferSize < socketBuffer.length)
    (hanswered : Transition.Along step Answered (start slaveBuf socketBuffer) earlier)
    (hrun : Transition.run step (start slaveBuf socketBuffer) earlier = .ok s)
    (hregistered : s.isRegistered = true)
    (hrx : slave.info.mailboxRxSm = some rxSm)
    (hroom : rxSm.size.toNat ≤ (s.socket .mailbox).dataBuf.length)
    (hrequest : s.requestMailbox slave message = .ok (some sessionId, s₁))
    (hbetween : ∀ event ∈ first ++ second ++ third, BetweenCycles event)
    (hprompt : Transition.Along step (Prompt (AcceptsRequest slave.info.slaveAddress rxSm)) s₁
      (threeCycles first second third time₁ time₂ time₃))
    (hreturns : Transition.run step s₁ (threeCycles first second third time₁ time₂ time₃) = .ok t)
    (htime : time₃ ≤ time₂ + MailboxWriteTask.timeoutMs * 1000 * 1000) :
    isBusy t.mailboxManager.task = false ∧ t.mailboxManager.task.waitResult = some (.ok ()) ∧
      s₁.sentPdus .mailbox (threeCycles first second third time₁ time₂ time₃) =
        [statusPdu slave.info.slaveAddress rxSm,
          messagePdu slave.info.slaveAddress rxSm (s₁.socket .mailbox).dataBuf] := by
  have hsound := sound_of_run hlength hanswered hrun
  obtain ⟨rxSm', hrx', hmanager, hcommand, hidle, hbuf, hregistered₁⟩ :=
    of_requestMailbox hsound hrequest
  cases hrx.symm.trans hrx'
  have hrequested : s₁.Requested slave.info.slaveAddress rxSm (s₁.socket .mailbox).dataBuf :=
    { task := ⟨s.mailboxManager.task, hmanager⟩
      registered := hregistered₁.trans hregistered
      command := hcommand
      dataBuf := rfl
      idle := hidle
      check := hbuf ▸ (hsound .mailbox).1.room }
  obtain ⟨a, ha, hreturns⟩ := Transition.run_append_eq_ok_iff.mp hreturns
  obtain ⟨b, hb, hreturns⟩ := Transition.run_cons_eq_ok_iff.mp hreturns
  obtain ⟨c, hc, hreturns⟩ := Transition.run_append_eq_ok_iff.mp hreturns
  obtain ⟨d, hd, hreturns⟩ := Transition.run_cons_eq_ok_iff.mp hreturns
  obtain ⟨e, he, hreturns⟩ := Transition.run_append_eq_ok_iff.mp hreturns
  obtain ⟨f, hf, heq⟩ := Transition.run_cons_eq_ok_iff.mp hreturns
  cases heq
  obtain ⟨hfirst, hprompt⟩ := Transition.along_append_iff.mp hprompt
  obtain ⟨-, hprompt⟩ := hprompt a ha
  obtain ⟨hsecond, hprompt⟩ := Transition.along_append_iff.mp (hprompt b hb)
  obtain ⟨hdone₂, hprompt⟩ := hprompt c hc
  obtain ⟨hthird, hprompt⟩ := Transition.along_append_iff.mp (hprompt d hd)
  obtain ⟨hdone₃, -⟩ := hprompt e he
  rw [List.forall_mem_append, List.forall_mem_append] at hbetween
  obtain ⟨hasks, hsent₁⟩ := hrequested.next hbetween.1.1 hfirst ha hb
  obtain ⟨hwrites, hsent₂⟩ := hasks.next (hbuf ▸ hroom) hbetween.1.2 hsecond hc hdone₂ hd
  obtain ⟨hcomplete, hsent₃⟩ := hwrites.next hbetween.2 hthird he hdone₃ hf htime
  refine ⟨?_, ?_, ?_⟩
  · change MailboxTask.isBusy _ = false
    rw [MailboxTask.isBusy, hcomplete]
  · rw [MailboxTask.waitResult, hcomplete]
  · rw [threeCycles, sentPdus_append ha, hsent₁, sentPdus_cycle hb, sentPdus_append hc, hsent₂,
      sentPdus_cycle hd, sentPdus_append he, hsent₃, sentPdus_cycle hf]
    rfl

/-- An empty buffer is registered. -/
def registeredState : CyclicState :=
  { (start [] (List.replicate 1024 0)).setSocket .processData (.new []) with isRegistered := true }

/-- A slave with a mailbox of 32 bytes. -/
def requestSlave : Slave :=
  { Slave.default with
    info := { Slave.default.info with
      sm := #v[some (.mailboxRx ⟨0, 32, 0x1000⟩), some (.mailboxTx ⟨1, 32, 0x1080⟩), none, none] } }

/-- Its status, and its answer to the message. -/
def statusResponse : Pdu :=
  ⟨MailboxWriteTask.statusCommand requestSlave.info.slaveAddress ⟨0, 32, 0x1000⟩, [0, 0], 1⟩

/-- The slave takes the message. -/
def messageResponse : Pdu :=
  ⟨MailboxWriteTask.messageCommand requestSlave.info.slaveAddress ⟨0, 32, 0x1000⟩,
    List.replicate 32 0, 1⟩

/-- Three cycles, in which the slave answers. -/
def answeredCycles : List CyclicEvent :=
  threeCycles [] [.take .mailbox, .recieve .mailbox statusResponse]
    [.take .mailbox, .recieve .mailbox messageResponse] 0 1 2

theorem request_written_answered :
    ∃ sessionId s₁ t, registeredState.requestMailbox requestSlave (.newSdoUploadRequest 0x1018 1) =
        .ok (some sessionId, s₁) ∧ Transition.run step s₁ answeredCycles = .ok t ∧
      t.mailboxManager.task.waitResult = some (.ok ()) ∧
      (s₁.sentPdus .mailbox answeredCycles).length = 2 := by
  have hrequest : (registeredState.requestMailbox requestSlave
      (.newSdoUploadRequest 0x1018 1)).toOption.map (fun r => (r.1.isSome,
        decide (Transition.Along step
          (Prompt (AcceptsRequest requestSlave.info.slaveAddress ⟨0, 32, 0x1000⟩)) r.2
            answeredCycles), (Transition.run step r.2 answeredCycles).toOption.isSome)) =
        some (true, true, true) := by
    decide +kernel
  have hlength : EtherCatMaster.minimumRequiredBufferSize <
      (List.replicate 1024 (0 : UInt8)).length := by
    rw [List.length_replicate]
    decide
  rcases hmade : registeredState.requestMailbox requestSlave (.newSdoUploadRequest 0x1018 1)
    with e | ⟨id, s₁⟩
  · rw [hmade] at hrequest
    cases hrequest
  rw [hmade] at hrequest
  obtain ⟨hid, hfacts⟩ := Prod.mk.inj (Option.some.inj hrequest)
  obtain ⟨hprompt, hreturns⟩ := Prod.mk.inj hfacts
  obtain ⟨sessionId, rfl⟩ := Option.isSome_iff_exists.mp hid
  rcases hrun : Transition.run step s₁ answeredCycles with e | t
  · dsimp only at hreturns
    rw [hrun] at hreturns
    cases hreturns
  obtain ⟨-, hdone, hsent⟩ := request_written [] (List.replicate 1024 0)
    [.registerProcessDataBuffer []] [] [.take .mailbox, .recieve .mailbox statusResponse]
    [.take .mailbox, .recieve .mailbox messageResponse] registeredState s₁ t requestSlave
    (.newSdoUploadRequest 0x1018 1) sessionId ⟨0, 32, 0x1000⟩ 0 1 2 hlength (by decide +kernel) rfl
    rfl rfl (by decide +kernel) hmade (by decide) (of_decide_eq_true hprompt) hrun (by decide)
  exact ⟨sessionId, s₁, t, rfl, hrun, hdone, congrArg List.length hsent⟩

/-! ## Without a registered buffer -/

/-- The request is not looked at. -/
structure Stalled (manager : MailboxManager) (s : CyclicState) : Prop where
  isManager : s.mailboxManager = manager
  busy : isBusy manager.task = true
  unregistered : s.isRegistered = false
  command : (s.socket .mailbox).command = none
  idle : s.underWay .mailbox = none

section
variable {s s' : CyclicState} {manager : MailboxManager}

lemma Stalled.not_pending (h : s.Stalled manager) : ¬ (s.socket .mailbox).Pending := by
  rintro ⟨-, hsome⟩
  rw [h.command] at hsome
  cases hsome

lemma Stalled.same (h : s.Stalled manager) (hsame : SameMailbox s s')
    (hidle : s'.underWay .mailbox = none) : s'.Stalled manager where
  isManager := hsame.manager.trans h.isManager
  busy := h.busy
  unregistered := hsame.registered.trans h.unregistered
  command := hsame.socket ▸ h.command
  idle := hidle

/-- A cycle without a registered buffer leaves the mailbox alone. -/
lemma Stalled.cycle (h : s.Stalled manager) {sysTime : ℕ}
    (hstep : s.step (.cycle sysTime) = .ok s') : s'.Stalled manager := by
  obtain ⟨s₁, h₁, hstep⟩ := bind_eq_ok.mp hstep
  obtain ⟨s₂, h₂, hstep⟩ := bind_eq_ok.mp hstep
  obtain ⟨s₃, h₃, hstep⟩ := bind_eq_ok.mp hstep
  obtain ⟨s₄, h₄, hstep⟩ := bind_eq_ok.mp hstep
  obtain ⟨s₅, h₅, heq⟩ := bind_eq_ok.mp hstep
  cases heq
  rw [CyclicState.processData, h.unregistered] at h₁
  cases h₁
  have hsame := sameMailbox_behind h₂ h₃ h₄ h₅
  exact h.same ⟨hsame.socket, hsame.manager, hsame.registered⟩ rfl

/-- **Every event** that registers no buffer leaves the request as it is. -/
lemma Stalled.step (h : s.Stalled manager) {event : CyclicEvent}
    (hanswered : s.Answered event) (hunregistered : s'.isRegistered = false)
    (hstep : s.step event = .ok s') : s'.Stalled manager := by
  by_cases htouches : TouchesMailbox event
  · cases event with
    | take name =>
        cases name with
        | mailbox =>
            obtain ⟨taken, socket, htake, hsocket, hunderWay, hmanager, hregistered⟩ :=
              exists_of_take hstep
            rcases PduSocket.takePdu_eq_ok htake with ⟨-, rfl, rfl⟩ | ⟨command, hpending, -⟩
            · exact h.same ⟨hsocket, hmanager, hregistered⟩ (hunderWay.trans h.idle)
            · exact absurd hpending h.not_pending
        | _ => exact htouches.elim
    | recieve name response =>
        cases name with
        | mailbox =>
            change (s.underWay .mailbox).isSome = true at hanswered
            rw [h.idle] at hanswered
            cases hanswered
        | _ => exact htouches.elim
    | cycle => exact h.cycle hstep
    | _ => exact htouches.elim
  · have hbusy : isBusy s.mailboxManager.task = true := h.isManager ▸ h.busy
    obtain ⟨hsame, hunderWay⟩ := sameMailbox_of_step hbusy htouches
      (hunregistered.trans h.unregistered.symm)
      (fun _ _ => h.idle) hstep
    exact h.same hsame (hunderWay.trans h.idle)

end

end CyclicState

end EtherCat
