import EtherCat.Task.Mailbox

/-!
# What a step of the mailbox tasks does

The inversion lemmas of the mailbox tasks: what is kept, when a read is complete, and which command
is out while the task reads.
-/

namespace EtherCat

open Rust Rust.Exec BitField CyclicTask

namespace MailboxReadTask

/-- What no step changes. -/
structure SameTarget (task task' : MailboxReadTask) : Prop where
  slaveAddress_eq : task'.slaveAddress = task.slaveAddress
  smAdoOffset_eq : task'.smAdoOffset = task.smAdoOffset
  smStartAddress_eq : task'.smStartAddress = task.smStartAddress
  smSize_eq : task'.smSize = task.smSize

lemma SameTarget.trans {task task' task'' : MailboxReadTask} (h : SameTarget task task')
    (h' : SameTarget task' task'') : SameTarget task task'' where
  slaveAddress_eq := h'.slaveAddress_eq.trans h.slaveAddress_eq
  smAdoOffset_eq := h'.smAdoOffset_eq.trans h.smAdoOffset_eq
  smStartAddress_eq := h'.smStartAddress_eq.trans h.smStartAddress_eq
  smSize_eq := h'.smSize_eq.trans h.smSize_eq

/-- The command that reads the message. -/
def readCommand (task : MailboxReadTask) : Command :=
  .newRead (.single task.slaveAddress) task.smStartAddress

lemma SameTarget.readCommand_eq {task task' : MailboxReadTask} (h : SameTarget task task') :
    task'.readCommand = task.readCommand := by
  rw [readCommand, readCommand, h.slaveAddress_eq, h.smStartAddress_eq]

/-- **The command of a PDU.** -/
lemma nextPdu_spec {task task' : MailboxReadTask} {buf buf' : List UInt8}
    {pdu : Option (Command × ℕ)} (h : task.nextPdu buf = .ok ((pdu, buf'), task')) :
    SameTarget task task' ∧ (task'.state = .read → task'.command = task'.readCommand) ∧
      (task'.state = task.state ∨ task'.state = .error (.taskSpecific .bufferSmall)) := by
  unfold nextPdu at h
  split at h
  case h_1 hstate | h_2 hstate | h_3 hstate =>
    cases h
    exact ⟨⟨rfl, rfl, rfl, rfl⟩, (fun hread => by rw [hstate] at hread; cases hread), .inl rfl⟩
  case h_5 hstate =>
    unfold nextRead at h
    dsimp only at h
    split at h
    · cases h
      exact ⟨⟨rfl, rfl, rfl, rfl⟩, (fun hread => by cases hread), .inr rfl⟩
    · obtain ⟨filled, -, heq⟩ := bind_eq_ok.mp h
      cases heq
      exact ⟨⟨rfl, rfl, rfl, rfl⟩, fun _ => rfl, .inl rfl⟩
  case h_6 hstate =>
    obtain ⟨repeatBit, -, h⟩ := bind_eq_ok.mp h
    obtain ⟨activationBuf, -, h⟩ := bind_eq_ok.mp h
    obtain ⟨copied, -, heq⟩ := bind_eq_ok.mp h
    cases heq
    exact ⟨⟨rfl, rfl, rfl, rfl⟩, (fun hread => by rw [hstate] at hread; cases hread), .inl rfl⟩
  case h_4 hstate | h_7 hstate =>
    obtain ⟨filled, -, heq⟩ := bind_eq_ok.mp h
    cases heq
    exact ⟨⟨rfl, rfl, rfl, rfl⟩, (fun hread => by rw [hstate] at hread; cases hread), .inl rfl⟩

lemma processState_spec {task task' : MailboxReadTask} {recvData : Pdu} {sysTime : ℕ}
    (h : task.processState recvData sysTime = .ok task') :
    SameTarget task task' ∧
      (task'.state = .complete → task.state = .complete ∨ task.state = .read ∧ recvData.wkc = 1) := by
  unfold processState at h
  split at h
  case h_1 hstate | h_2 hstate | h_3 hstate =>
    cases h
    exact ⟨⟨rfl, rfl, rfl, rfl⟩, .inl⟩
  case h_4 isFirst waitFull hstate =>
    unfold processCheck at h
    dsimp only at h
    split at h
    · cases h
      cases isFirst <;> exact ⟨⟨rfl, rfl, rfl, rfl⟩, fun hcomplete => by cases hcomplete⟩
    · obtain ⟨activation, -, h⟩ := bind_eq_ok.mp h
      obtain ⟨_, -, h⟩ := bind_eq_ok.mp h
      obtain ⟨isMailboxFull, -, heq⟩ := bind_eq_ok.mp h
      cases heq
      cases isFirst <;> cases isMailboxFull <;> cases waitFull <;>
        exact ⟨⟨rfl, rfl, rfl, rfl⟩, fun hcomplete => by cases hcomplete⟩
  case h_5 hstate =>
    cases h
    refine ⟨⟨rfl, rfl, rfl, rfl⟩, fun hcomplete => .inr ⟨hstate, ?_⟩⟩
    by_contra hwkc
    dsimp only at hcomplete
    rw [if_pos hwkc] at hcomplete
    cases hcomplete
  case h_6 hstate =>
    cases h
    exact ⟨⟨rfl, rfl, rfl, rfl⟩, fun hcomplete => by cases hcomplete⟩
  case h_7 hstate =>
    unfold processWaitRepeatAck at h
    split at h
    · cases h
      exact ⟨⟨rfl, rfl, rfl, rfl⟩, fun hcomplete => by cases hcomplete⟩
    · obtain ⟨repeatAck, -, h⟩ := bind_eq_ok.mp h
      obtain ⟨repeatBit, -, heq⟩ := bind_eq_ok.mp h
      cases heq
      split <;> exact ⟨⟨rfl, rfl, rfl, rfl⟩, fun hcomplete => by cases hcomplete⟩

/-- **When a read is complete.** -/
lemma recieveAndProcess_spec {task task' : MailboxReadTask} {recvData : Pdu} {sysTime : ℕ}
    (h : task.recieveAndProcess recvData sysTime = .ok task') :
    SameTarget task task' ∧
      (task'.state = .complete → task.state = .complete ∨
        task.state = .read ∧ recvData.wkc = 1 ∧ recvData.Echoes task.command) := by
  obtain ⟨task₁, hprocess, heq⟩ := bind_eq_ok.mp h
  cases heq
  obtain ⟨hsame, hcomplete⟩ := processState_spec hprocess
  have htimed : SameTarget task₁ (task₁.timed sysTime) ∧
      ((task₁.timed sysTime).state = .complete → task₁.state = .complete) := by
    unfold timed
    split
    · exact ⟨⟨rfl, rfl, rfl, rfl⟩, fun hstate => by cases hstate⟩
    · exact ⟨⟨rfl, rfl, rfl, rfl⟩, id⟩
  have hchecked : SameTarget task (task.checked recvData) := by
    unfold checked
    split <;> exact ⟨rfl, rfl, rfl, rfl⟩
  refine ⟨(hchecked.trans hsame).trans htimed.1, fun hstate => ?_⟩
  have hbefore := hcomplete (htimed.2 hstate)
  unfold checked at hbefore
  split at hbefore
  · next hechoes =>
      exact hbefore.imp_right fun ⟨hread, hwkc⟩ => ⟨hread, hwkc, hechoes⟩
  · rcases hbefore with hbefore | ⟨hbefore, -⟩ <;> cases hbefore

end MailboxReadTask

namespace MailboxTask

/-- A task that is not busy has no PDU. -/
lemma nextPdu_of_not_busy {task : MailboxTask} (h : task.isBusy = false) (buf : List UInt8) :
    task.nextPdu buf = .ok ((none, buf), task) := by
  unfold isBusy at h
  unfold nextPdu
  split at h <;> simp_all

lemma state_of_busy {task : MailboxTask} (h : task.isBusy = true) : task.state = .processing := by
  unfold isBusy at h
  split at h
  case h_4 hidle hcomplete herror =>
    rcases hstate : task.state with e | _ | _ | _
    · exact absurd hstate (herror e)
    · exact absurd hstate hidle
    · exact absurd hstate hcomplete
    · rfl
  all_goals cases h

/-- The next PDU does not change the state of the task. -/
lemma nextPdu_spec {task task' : MailboxTask} {buf buf' : List UInt8}
    {pdu : Option (Command × ℕ)} (h : task.nextPdu buf = .ok ((pdu, buf'), task')) :
    task'.state = task.state ∧ (task.isBusy = false → task' = task ∧ pdu = none ∧ buf' = buf) := by
  by_cases hbusy : task.isBusy = true
  · refine ⟨?_, fun hidle => by rw [hbusy] at hidle; cases hidle⟩
    rw [nextPdu, state_of_busy hbusy] at h
    dsimp only [nextInner] at h
    split at h
    · obtain ⟨⟨pdu', reader⟩, -, heq⟩ := bind_eq_ok.mp h
      cases heq
      rfl
    · obtain ⟨⟨pdu', writer⟩, -, heq⟩ := bind_eq_ok.mp h
      cases heq
      rfl
  · rw [Bool.not_eq_true] at hbusy
    rw [nextPdu_of_not_busy hbusy] at h
    cases h
    exact ⟨rfl, fun _ => ⟨rfl, rfl, rfl⟩⟩

lemma nextPdu_reader {reader : MailboxReadTask} {task' : MailboxTask} {buf buf' : List UInt8}
    {pdu : Option (Command × ℕ)}
    (h : nextPdu ⟨.processing, .reader reader⟩ buf = .ok ((pdu, buf'), task')) :
    ∃ reader', reader.nextPdu buf = .ok ((pdu, buf'), reader') ∧
      task' = ⟨.processing, .reader reader'⟩ := by
  obtain ⟨⟨⟨pdu', buf''⟩, reader'⟩, hnext, heq⟩ := bind_eq_ok.mp h
  cases heq
  exact ⟨reader', hnext, rfl⟩

lemma nextPdu_writer {writer : MailboxWriteTask} {task' : MailboxTask} {buf buf' : List UInt8}
    {pdu : Option (Command × ℕ)}
    (h : nextPdu ⟨.processing, .writer writer⟩ buf = .ok ((pdu, buf'), task')) :
    ∃ writer', writer.nextPdu buf = .ok ((pdu, buf'), writer') ∧
      task' = ⟨.processing, .writer writer'⟩ := by
  obtain ⟨⟨⟨pdu', buf''⟩, writer'⟩, hnext, heq⟩ := bind_eq_ok.mp h
  cases heq
  exact ⟨writer', hnext, rfl⟩

/-- The state of the outer task follows the one of the reader. -/
lemma stateAfter_reader (reader : MailboxReadTask) :
    (stateAfter reader.waitResult = .processing → reader.state ≠ .complete) ∧
      (stateAfter reader.waitResult = .complete → reader.state = .complete) := by
  rcases hstate : reader.state <;> simp [MailboxReadTask.waitResult, hstate, stateAfter]

lemma recieveAndProcess_reader {reader : MailboxReadTask} {task' : MailboxTask} {recvData : Pdu}
    {sysTime : ℕ}
    (h : recieveAndProcess ⟨.processing, .reader reader⟩ recvData sysTime = .ok task') :
    ∃ reader', reader.recieveAndProcess recvData sysTime = .ok reader' ∧
      task' = ⟨stateAfter reader'.waitResult, .reader reader'⟩ := by
  obtain ⟨reader', hprocess, heq⟩ := bind_eq_ok.mp h
  cases heq
  exact ⟨reader', hprocess, rfl⟩

lemma recieveAndProcess_writer {writer : MailboxWriteTask} {task' : MailboxTask} {recvData : Pdu}
    {sysTime : ℕ}
    (h : recieveAndProcess ⟨.processing, .writer writer⟩ recvData sysTime = .ok task') :
    ∃ writer', writer.recieveAndProcess recvData sysTime = .ok writer' ∧
      task' = ⟨stateAfter writer'.waitResult, .writer writer'⟩ := by
  obtain ⟨writer', hprocess, heq⟩ := bind_eq_ok.mp h
  cases heq
  exact ⟨writer', hprocess, rfl⟩

end MailboxTask

end EtherCat
