import EtherCat.Task.MailboxSteps
import EtherCat.Task.NeverStuck

/-!
# The buffer of a mailbox task

The message of a mailbox is as large as its sync manager.  A mailbox task has a PDU for it only if
it fits into the buffer; the status PDUs always fit.
-/

namespace EtherCat

open Rust Rust.Exec BitField CyclicTask

namespace MailboxReadTask

/-- The error that a task has ended with. -/
def failure (task : MailboxReadTask) : Option (TaskError MailboxTaskError) :=
  match task.state with
  | .error e => some e
  | _ => none

/-- The response is a status after which the message is read. -/
def MessageDue (task : MailboxReadTask) (recv : Pdu) (sysTime : ℕ) : Prop :=
  ∃ isFirst waitFull, task.state = .checkMailboxAlreadyExisted isFirst waitFull ∧
    recv.Echoes task.command ∧ recv.wkc = 1 ∧ SyncManagerStatus.isMailboxFull.val recv.data ≠ 0 ∧
    (isFirst = false → ¬ mailboxTimedOut timeoutMs task.timerStart sysTime)

/-- What carries a run: a message that is being read fits into the buffer. -/
def Fits (n : ℕ) (task : MailboxReadTask) : Prop :=
  task.isBusy = true ∧ (task.state = .read → task.smSize.toNat ≤ n)

lemma failure_of_busy {task : MailboxReadTask} (h : task.isBusy = true) :
    task.failure = none := by
  unfold isBusy at h
  unfold failure
  split at h <;> simp_all

lemma nextPdu_fits {task task' : MailboxReadTask} {buf buf' : List UInt8}
    {pdu : Option (Command × ℕ)} (hfits : task.Fits buf.length)
    (h : task.nextPdu buf = .ok ((pdu, buf'), task')) :
    task'.Fits buf.length ∧ pdu.isSome = true := by
  obtain ⟨hbusy, hread⟩ := hfits
  unfold nextPdu at h
  split at h
  case h_1 hstate | h_2 hstate | h_3 hstate =>
    rw [isBusy, hstate] at hbusy
    cases hbusy
  case h_5 hstate =>
    rw [nextRead, if_neg (Nat.not_lt.mpr (hread hstate))] at h
    obtain ⟨filled, -, heq⟩ := bind_eq_ok.mp h
    cases heq
    exact ⟨⟨hbusy, hread⟩, rfl⟩
  case h_6 =>
    simp only [nextRequestRepeat, bind_eq_ok] at h
    obtain ⟨_, -, _, -, _, -, heq⟩ := h
    cases heq
    exact ⟨⟨hbusy, hread⟩, rfl⟩
  all_goals
    obtain ⟨filled, -, heq⟩ := bind_eq_ok.mp h
    cases heq
    exact ⟨⟨hbusy, hread⟩, rfl⟩

/-- The state machine before the check of the time. -/
lemma processState_due {task task' : MailboxReadTask} {recv : Pdu} {sysTime : ℕ}
    (h : task.processState recv sysTime = .ok task') :
    (task'.state = .idle → task.state = .idle) ∧
      (task'.state = .read → ∃ isFirst waitFull,
        task.state = .checkMailboxAlreadyExisted isFirst waitFull ∧ recv.wkc = 1 ∧
        SyncManagerStatus.isMailboxFull.val recv.data ≠ 0 ∧
        (isFirst = false → task'.timerStart = task.timerStart)) := by
  unfold processState at h
  split at h
  case h_1 hstate | h_2 hstate | h_3 hstate =>
    cases h
    exact ⟨id, fun hread => by rw [hstate] at hread; cases hread⟩
  case h_4 isFirst waitFull hstate =>
    unfold processCheck at h
    dsimp only at h
    split at h
    · cases h
      exact ⟨by rintro ⟨⟩, by rintro ⟨⟩⟩
    · next hwkc =>
        obtain ⟨activation, -, h⟩ := bind_eq_ok.mp h
        obtain ⟨_, -, h⟩ := bind_eq_ok.mp h
        obtain ⟨isMailboxFull, hfull, heq⟩ := bind_eq_ok.mp h
        obtain ⟨-, rfl⟩ := Field.getBool_eq_ok_iff.mp hfull
        cases heq
        split
        · next hfull =>
            refine ⟨by rintro ⟨⟩, fun _ => ⟨isFirst, waitFull, hstate, not_not.mp hwkc,
              bne_iff_ne.mp hfull, fun hfirst => ?_⟩⟩
            rw [if_neg (by rw [hfirst]; exact Bool.false_ne_true)]
        · split <;> exact ⟨by rintro ⟨⟩, by rintro ⟨⟩⟩
  case h_5 =>
    cases h
    dsimp only
    split <;> exact ⟨by rintro ⟨⟩, by rintro ⟨⟩⟩
  case h_6 =>
    cases h
    exact ⟨by rintro ⟨⟩, by rintro ⟨⟩⟩
  case h_7 =>
    unfold processWaitRepeatAck at h
    split at h
    · cases h
      exact ⟨by rintro ⟨⟩, by rintro ⟨⟩⟩
    · obtain ⟨repeatAck, -, h⟩ := bind_eq_ok.mp h
      obtain ⟨repeatBit, -, heq⟩ := bind_eq_ok.mp h
      cases heq
      split <;> exact ⟨by rintro ⟨⟩, by rintro ⟨⟩⟩

/-- A busy task that has processed a response is busy, or it has a result; and it reads the message
next only if that is due. -/
lemma recieveAndProcess_fits {n : ℕ} {task task' : MailboxReadTask} {recv : Pdu} {sysTime : ℕ}
    (hfits : task.Fits n) (hdue : task.MessageDue recv sysTime → task.smSize.toNat ≤ n)
    (h : task.recieveAndProcess recv sysTime = .ok task') :
    task'.Fits n ∨ task'.waitResult.isSome = true := by
  obtain ⟨hsame, -⟩ := recieveAndProcess_spec h
  obtain ⟨task₁, hprocess, heq⟩ := bind_eq_ok.mp h
  cases heq
  obtain ⟨hidle, hread⟩ := processState_due hprocess
  unfold timed at hsame ⊢
  split
  · exact .inr rfl
  · next htime =>
      rw [if_neg htime] at hsame
      have hnotIdle : task₁.state ≠ .idle := by
        intro hstate
        have hchecked := hidle hstate
        unfold checked at hchecked
        split at hchecked
        · have hbusy := hfits.1
          rw [isBusy, hchecked] at hbusy
          cases hbusy
        · cases hchecked
      have hfit : task₁.state = .read → task₁.smSize.toNat ≤ n := by
        intro hstate
        obtain ⟨isFirst, waitFull, hcheck, hwkc, hfull, hstart⟩ := hread hstate
        rw [hsame.smSize_eq]
        apply hdue
        unfold checked at hcheck hstart
        split at hcheck
        · next hechoes =>
            rw [if_pos hechoes] at hstart
            exact ⟨isFirst, waitFull, hcheck, hechoes, hwkc, hfull, fun hfirst =>
              hstart hfirst ▸ htime⟩
        · cases hcheck
      unfold Fits isBusy waitResult
      rcases hstate : task₁.state <;> simp_all

end MailboxReadTask

namespace MailboxWriteTask

/-- The error that a task has ended with. -/
def failure (task : MailboxWriteTask) : Option (TaskError MailboxTaskError) :=
  match task.state with
  | .error e => some e
  | _ => none

/-- The response is a status after which the message is written. -/
def MessageDue (task : MailboxWriteTask) (recv : Pdu) (sysTime : ℕ) : Prop :=
  ∃ isFirst waitEmpty, task.state = .checkMailboxEmpty isFirst waitEmpty ∧
    recv.Echoes task.command ∧ recv.wkc = 1 ∧ SyncManagerStatus.isMailboxFull.val recv.data = 0 ∧
    (isFirst = false → ¬ mailboxTimedOut timeoutMs task.timerStart sysTime)

/-- What carries a run: a message that is being written fits into the buffer. -/
def Fits (n : ℕ) (task : MailboxWriteTask) : Prop :=
  task.isBusy = true ∧ (task.state = .write → task.smSize.toNat ≤ n)

lemma failure_of_busy {task : MailboxWriteTask} (h : task.isBusy = true) :
    task.failure = none := by
  unfold isBusy at h
  unfold failure
  split at h <;> simp_all

lemma nextPdu_fits {task task' : MailboxWriteTask} {buf buf' : List UInt8}
    {pdu : Option (Command × ℕ)} (hfits : task.Fits buf.length)
    (h : task.nextPdu buf = .ok ((pdu, buf'), task')) :
    task'.Fits buf.length ∧ pdu.isSome = true := by
  obtain ⟨hbusy, hwrite⟩ := hfits
  unfold nextPdu at h
  split at h
  case h_1 hstate | h_2 hstate | h_3 hstate =>
    rw [isBusy, hstate] at hbusy
    cases hbusy
  case h_4 =>
    obtain ⟨filled, -, heq⟩ := bind_eq_ok.mp h
    cases heq
    exact ⟨⟨hbusy, hwrite⟩, rfl⟩
  case h_5 hstate =>
    have hroom : ¬ (overwrite buf task.emptyCheckBuffer).length < task.smSize.toNat := by
      rw [length_overwrite]
      exact Nat.not_lt.mpr (hwrite hstate)
    rw [nextWrite, if_neg hroom] at h
    cases h
    exact ⟨⟨hbusy, hwrite⟩, rfl⟩

/-- The state machine before the check of the time. -/
lemma processState_due {task task' : MailboxWriteTask} {recv : Pdu} {sysTime : ℕ}
    (h : task.processState recv sysTime = .ok task') :
    task'.smSize = task.smSize ∧ (task'.state = .idle → task.state = .idle) ∧
      (task'.state = .write → task.state = .write ∨ ∃ isFirst waitEmpty,
        task.state = .checkMailboxEmpty isFirst waitEmpty ∧ recv.wkc = 1 ∧
        SyncManagerStatus.isMailboxFull.val recv.data = 0 ∧
        (isFirst = false → task'.timerStart = task.timerStart)) := by
  unfold processState at h
  split at h
  case h_1 hstate | h_2 hstate | h_3 hstate =>
    cases h
    exact ⟨rfl, id, fun hwrite => by rw [hstate] at hwrite; cases hwrite⟩
  case h_4 isFirst waitEmpty hstate =>
    unfold processCheck at h
    dsimp only at h
    split at h
    · cases h
      exact ⟨by dsimp only; split <;> rfl, by rintro ⟨⟩, by rintro ⟨⟩⟩
    · next hwkc =>
        obtain ⟨isMailboxFull, hfull, heq⟩ := bind_eq_ok.mp h
        obtain ⟨-, rfl⟩ := Field.getBool_eq_ok_iff.mp hfull
        cases heq
        have hsize : (if isFirst = true then { task with timerStart := sysTime }
            else task).smSize = task.smSize := by
          split <;> rfl
        split
        · next hempty =>
            refine ⟨hsize, by rintro ⟨⟩, fun _ => .inr ⟨isFirst, waitEmpty, hstate, not_not.mp hwkc,
              ?_, fun hfirst => ?_⟩⟩
            · simpa using hempty
            · rw [if_neg (by rw [hfirst]; exact Bool.false_ne_true)]
        · split <;> exact ⟨hsize, by rintro ⟨⟩, by rintro ⟨⟩⟩
  case h_5 hstate =>
    cases h
    refine ⟨rfl, fun hidle => ?_, fun _ => .inl hstate⟩
    dsimp only at hidle
    split at hidle <;> cases hidle

/-- A busy task that has processed a response is busy, or it has a result; and it writes the message
next only if that is due. -/
lemma recieveAndProcess_fits {n : ℕ} {task task' : MailboxWriteTask} {recv : Pdu} {sysTime : ℕ}
    (hfits : task.Fits n) (hdue : task.MessageDue recv sysTime → task.smSize.toNat ≤ n)
    (h : task.recieveAndProcess recv sysTime = .ok task') :
    task'.Fits n ∨ task'.waitResult.isSome = true := by
  obtain ⟨task₁, hprocess, heq⟩ := bind_eq_ok.mp h
  cases heq
  obtain ⟨hsize, hidle, hwrite⟩ := processState_due hprocess
  unfold timed
  split
  · exact .inr rfl
  · next htime =>
      unfold checked at hsize hidle hwrite
      split at hsize
      · next hechoes =>
          rw [if_pos hechoes] at hidle hwrite
          have hnotIdle : task₁.state ≠ .idle := by
            intro hstate
            have hbusy := hfits.1
            rw [isBusy, hidle hstate] at hbusy
            cases hbusy
          have hfit : task₁.state = .write → task₁.smSize.toNat ≤ n := by
            intro hstate
            rw [hsize]
            rcases hwrite hstate with hbefore | ⟨isFirst, waitEmpty, hcheck, hwkc, hempty, hstart⟩
            · exact hfits.2 hbefore
            · exact hdue ⟨isFirst, waitEmpty, hcheck, hechoes, hwkc, hempty, fun hfirst =>
                hstart hfirst ▸ htime⟩
          unfold Fits isBusy waitResult
          rcases hstate : task₁.state <;> simp_all
      · next hechoes =>
          rw [checked, if_neg hechoes] at hprocess
          cases hprocess
          exact .inr rfl

end MailboxWriteTask

namespace MailboxTask

/-- The error that a task has ended with. -/
def failure (task : MailboxTask) : Option (TaskError MailboxTaskError) :=
  match task.state with
  | .error e => some e
  | _ => none

/-- And that of the task inside. -/
def innerFailure (task : MailboxTask) : Option (TaskError MailboxTaskError) :=
  match task.inner with
  | .reader reader => reader.failure
  | .writer writer => writer.failure

/-- The size of the sync manager of the mailbox. -/
def smSize (task : MailboxTask) : UInt16 :=
  match task.inner with
  | .reader reader => reader.smSize
  | .writer writer => writer.smSize

/-- The response is a status after which the message is read or written. -/
def MessageDue (task : MailboxTask) (recv : Pdu) (sysTime : ℕ) : Prop :=
  match task.inner with
  | .reader reader => reader.MessageDue recv sysTime
  | .writer writer => writer.MessageDue recv sysTime

/-- A message that is due fits into the buffer. -/
def MessageFits (n : ℕ) (task : MailboxTask) (recv : Pdu) (sysTime : ℕ) : Prop :=
  task.state = .processing → task.MessageDue recv sysTime → task.smSize.toNat ≤ n

/-- What carries a run. -/
def Out (n : ℕ) (task : MailboxTask) : Prop :=
  task.state = .processing →
    match task.inner with
    | .reader reader => reader.Fits n
    | .writer writer => writer.Fits n

/-- **The next PDU.** -/
lemma nextPdu_out {task task' : MailboxTask} {buf buf' : List UInt8} {pdu : Option (Command × ℕ)}
    (hout : task.Out buf.length) (h : task.nextPdu buf = .ok ((pdu, buf'), task')) :
    task'.Out buf.length ∧ (task'.isBusy = true → pdu.isSome = true) ∧
      (task' = task ∨ task'.innerFailure = none) := by
  rcases hbusy : task.isBusy with _ | _
  · rw [nextPdu_of_not_busy hbusy] at h
    cases h
    exact ⟨hout, (fun hbusy' => by rw [hbusy] at hbusy'; cases hbusy'), .inl rfl⟩
  · have hstate := state_of_busy hbusy
    have hfits := hout hstate
    rcases task with ⟨state, reader | writer⟩ <;> cases hstate
    · obtain ⟨reader', hnext, rfl⟩ := nextPdu_reader h
      obtain ⟨hfits', hpdu⟩ := MailboxReadTask.nextPdu_fits hfits hnext
      exact ⟨fun _ => hfits', fun _ => hpdu, .inr (MailboxReadTask.failure_of_busy hfits'.1)⟩
    · obtain ⟨writer', hnext, rfl⟩ := nextPdu_writer h
      obtain ⟨hfits', hpdu⟩ := MailboxWriteTask.nextPdu_fits hfits hnext
      exact ⟨fun _ => hfits', fun _ => hpdu, .inr (MailboxWriteTask.failure_of_busy hfits'.1)⟩

/-- **A response.** -/
lemma recieveAndProcess_out {n : ℕ} {task task' : MailboxTask} {recv : Pdu} {sysTime : ℕ}
    (hout : task.Out n) (hfit : MessageFits n task recv sysTime)
    (h : task.recieveAndProcess recv sysTime = .ok task') :
    task'.Out n ∧ Driven.Reports innerFailure failure task task' := by
  rcases hbusy : task.isBusy with _ | _
  · have hsame : task' = task := by
      unfold isBusy at hbusy
      unfold recieveAndProcess at h
      split at hbusy <;> simp_all
    rw [hsame]
    exact ⟨hout, fun e he => .inl he⟩
  · have hstate := state_of_busy hbusy
    have hfits := hout hstate
    have hdue := hfit hstate
    rcases task with ⟨state, reader | writer⟩ <;> cases hstate
    · obtain ⟨reader', hrecieve, rfl⟩ := recieveAndProcess_reader h
      have hended := MailboxReadTask.recieveAndProcess_fits hfits hdue hrecieve
      refine ⟨fun hprocessing => hended.resolve_right fun hresult => ?_, fun e he => .inr ?_⟩
      · rcases hwait : reader'.waitResult with _ | e | _ <;> rw [hwait] at hprocessing hresult <;>
          cases hprocessing
        cases hresult
      · have hfailure : reader'.failure = some e := he
        unfold MailboxReadTask.failure at hfailure
        unfold failure MailboxReadTask.waitResult
        split at hfailure <;> simp_all [stateAfter]
    · obtain ⟨writer', hrecieve, rfl⟩ := recieveAndProcess_writer h
      have hended := MailboxWriteTask.recieveAndProcess_fits hfits hdue hrecieve
      refine ⟨fun hprocessing => hended.resolve_right fun hresult => ?_, fun e he => .inr ?_⟩
      · rcases hwait : writer'.waitResult with _ | e | _ <;> rw [hwait] at hprocessing hresult <;>
          cases hprocessing
        cases hresult
      · have hfailure : writer'.failure = some e := he
        unfold MailboxWriteTask.failure at hfailure
        unfold failure MailboxWriteTask.waitResult
        split at hfailure <;> simp_all [stateAfter]

/-- **A step.** -/
lemma step_out {task task₁ task₂ : MailboxTask} {buf buf' : List UInt8}
    {pdu : Option (Command × ℕ)} (hout : task.Out buf.length)
    (hprocessed : Driven.Processed MessageFits buf.length task task₁)
    (hnext : task₁.nextPdu buf = .ok ((pdu, buf'), task₂)) :
    task₂.Out buf.length ∧ (task₂.isBusy = true → pdu.isSome = true) ∧
      Driven.Reports innerFailure failure task task₂ := by
  have hready : task₁.Out buf.length ∧ Driven.Reports innerFailure failure task task₁ := by
    rcases hprocessed with rfl | ⟨recv, time, hfits, hrecieve⟩
    · exact ⟨hout, fun e he => .inl he⟩
    · exact recieveAndProcess_out hout hfits hrecieve
  obtain ⟨hout', hpdu, hinner⟩ := nextPdu_out hready.1 hnext
  refine ⟨hout', hpdu, fun e he => ?_⟩
  rcases hinner with rfl | hnone
  · exact hready.2 e he
  · rw [hnone] at he
    cases he

end MailboxTask

end EtherCat
