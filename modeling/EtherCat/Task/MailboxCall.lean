import EtherCat.Task.MailboxOutcome
import EtherCat.Task.PolledCall

/-!
# How a mailbox call ends

A poll ends a blocking mailbox call by an error of the interface, by a response that ends the task,
or because the polls have been too many (`Blocked.ends`).  As long as no poll does, the call has a
PDU in the socket; and no poll makes it panic if the buffer has room for the mailbox
(`Blocked.turn_of_inCall`).
-/

namespace EtherCat

open Rust Rust.Exec BitField CyclicTask

/-- The time of a call is the number of its polls. -/
lemma not_mailboxTimedOut {timeoutMs timerStart time : ℕ} (htimeout : 100 ≤ timeoutMs)
    (htime : time ≤ 100000) : ¬ mailboxTimedOut timeoutMs timerStart time := by
  rintro ⟨-, hlate⟩
  omega

/-! ## Reading -/

namespace MailboxReadTask

/-- How a response ends the read, if it does. -/
def ends (task : MailboxReadTask) (recv : Pdu) :
    Option (Except (TaskError MailboxTaskError) Unit) :=
  match task.decides recv with
  | some outcome => some outcome
  | none =>
    if task.state = .waitRepeatAck ∧ recv.wkc ≠ 1 then some (.error (.unexpectedWkc ⟨1, recv.wkc⟩))
    else none

/-- The PDU of a state, and its size. -/
def statePdu (task : MailboxReadTask) : Command × ℕ :=
  match task.state with
  | .checkMailboxAlreadyExisted _ _ =>
    (.newRead (.single task.slaveAddress) (SyncManagerStatus.address + task.smAdoOffset),
      mailboxCheckSize)
  | .read => (.newRead (.single task.slaveAddress) task.smStartAddress, task.smSize.toNat)
  | .requestRepeat =>
    (.newWrite (.single task.slaveAddress) (SyncManagerActivation.address + task.smAdoOffset),
      SyncManagerActivation.size)
  | .waitRepeatAck =>
    (.newRead (.single task.slaveAddress) (SyncManagerPdiControl.address + task.smAdoOffset),
      SyncManagerPdiControl.size)
  | _ => (task.command, 0)

/-- A busy task on a buffer of `n` bytes. -/
structure InCall (n : ℕ) (task : MailboxReadTask) : Prop where
  busy : task.isBusy = true
  sound : task.Sound
  room : mailboxCheckSize ≤ n
  smSize_le : task.smSize.toNat ≤ n

lemma InCall.size_le {n : ℕ} {task : MailboxReadTask} (h : task.InCall n) :
    task.statePdu.2 ≤ n := by
  have hroom := h.room
  have hsize := h.smSize_le
  unfold statePdu
  split
  case h_1 => exact hroom
  case h_2 => exact hsize
  case h_3 =>
    have hone : SyncManagerActivation.size ≤ mailboxCheckSize := by decide
    exact hone.trans hroom
  case h_4 =>
    have hone : SyncManagerPdiControl.size ≤ mailboxCheckSize := by decide
    exact hone.trans hroom
  case h_5 => exact Nat.zero_le n

lemma state_of_busy {task : MailboxReadTask} (h : task.isBusy = true) :
    (∃ isFirst waitFull, task.state = .checkMailboxAlreadyExisted isFirst waitFull) ∨
      task.state = .read ∨ task.state = .requestRepeat ∨ task.state = .waitRepeatAck := by
  rcases hstate : task.state <;> simp_all [isBusy]

/-- The next PDU of a busy task changes its command, and perhaps the copy of the activation
register. -/
structure SameCall (task task' : MailboxReadTask) : Prop where
  state_eq : task'.state = task.state
  slaveAddress_eq : task'.slaveAddress = task.slaveAddress
  smAdoOffset_eq : task'.smAdoOffset = task.smAdoOffset
  smSize_eq : task'.smSize = task.smSize
  smStartAddress_eq : task'.smStartAddress = task.smStartAddress
  activationLength_eq : task'.activationBuf.length = task.activationBuf.length
  command_eq : task'.command = task.statePdu.1

lemma SameCall.statePdu_eq {task task' : MailboxReadTask} (h : SameCall task task')
    (hbusy : task.isBusy = true) : task'.statePdu = task.statePdu := by
  rcases state_of_busy hbusy with ⟨isFirst, waitFull, hstate⟩ | hstate | hstate | hstate <;>
    simp only [statePdu, h.state_eq, hstate, h.slaveAddress_eq, h.smAdoOffset_eq, h.smSize_eq,
      h.smStartAddress_eq]

lemma SameCall.inCall {n : ℕ} {task task' : MailboxReadTask} (h : SameCall task task')
    (hcall : task.InCall n) : task'.InCall n where
  busy := by
    have hbusy := hcall.busy
    rwa [isBusy, ← h.state_eq] at hbusy
  sound := h.activationLength_eq.trans hcall.sound
  room := hcall.room
  smSize_le := h.smSize_eq ▸ hcall.smSize_le

lemma nextRequestRepeat_eq {task : MailboxReadTask} (hsound : task.Sound) {buf : List UInt8}
    (hroom : SyncManagerActivation.size ≤ buf.length) {command : Command}
    (hcommand : command = .newWrite (.single task.slaveAddress)
      (SyncManagerActivation.address + task.smAdoOffset)) : ∃ buf' activationBuf,
      task.nextRequestRepeat buf = .ok ((some (command, SyncManagerActivation.size), buf'),
        { task with command := command, activationBuf := activationBuf }) ∧
      activationBuf.length = task.activationBuf.length := by
  have hfits : SyncManagerActivation.repeatBit.Fits task.activationBuf := by
    rw [Field.Fits, hsound]
    decide
  have hput : ∀ v, (SyncManagerActivation.repeatBit.put task.activationBuf v).length =
      SyncManagerActivation.size := fun v => (Field.length_put _ _ _).trans hsound
  have hcopy : ∀ v, copyFromSlice buf 0 (SyncManagerActivation.repeatBit.put task.activationBuf v) =
      .ok (splice buf 0 (SyncManagerActivation.repeatBit.put task.activationBuf v)) := fun v =>
    copyFromSlice_eq_ok_iff.mpr ⟨by rwa [hput, Nat.zero_add], rfl⟩
  rw [nextRequestRepeat, Field.getBool_of_fits hfits, ok_bind, Field.setBool,
    Field.set_of_fits hfits, ok_bind, hcopy, ok_bind, hput, hcommand]
  exact ⟨_, _, rfl, Field.length_put _ _ _⟩

/-- **The next PDU** of a busy task. -/
lemma InCall.nextPdu_eq {n : ℕ} {task : MailboxReadTask} (h : task.InCall n) {buf : List UInt8}
    (hlength : buf.length = n) : ∃ buf' task',
      task.nextPdu buf = .ok ((some task.statePdu, buf'), task') ∧ SameCall task task' := by
  obtain ⟨hbusy, hsound, hroom, hsize⟩ := h
  subst hlength
  have hfill : ∀ m, m ≤ buf.length → fillTo buf m 0 = .ok (List.replicate m 0 ++ buf.drop m) :=
    fun m hm => fillTo_eq_ok_iff.mpr ⟨hm, rfl⟩
  obtain ⟨timerStart, command, slaveAddress, state, activationBuf, smAdoOffset, smSize,
    smStartAddress⟩ := task
  cases state with
  | error | idle | complete => cases hbusy
  | checkMailboxAlreadyExisted isFirst waitFull =>
      exact ⟨_, _, bind_eq_ok.mpr ⟨_, hfill _ hroom, rfl⟩, rfl, rfl, rfl, rfl, rfl, rfl, rfl⟩
  | read =>
      have hfits : ¬ buf.length < smSize.toNat := Nat.not_lt.mpr hsize
      exact ⟨_, _, (if_neg hfits).trans (bind_eq_ok.mpr ⟨_, hfill _ hsize, rfl⟩),
        rfl, rfl, rfl, rfl, rfl, rfl, rfl⟩
  | requestRepeat =>
      obtain ⟨buf', activationBuf', hnext, hlength⟩ :=
        nextRequestRepeat_eq hsound (Nat.le_trans (by decide) hroom) rfl
      exact ⟨buf', _, hnext, rfl, rfl, rfl, rfl, rfl, hlength, rfl⟩
  | waitRepeatAck =>
      exact ⟨_, _, bind_eq_ok.mpr ⟨_, hfill _ (Nat.le_trans (by decide) hroom), rfl⟩,
        rfl, rfl, rfl, rfl, rfl, rfl, rfl⟩

/-- The status in the response of a slave that has reacted. -/
lemma processCheck_eq {task : MailboxReadTask} (hsound : task.Sound) {recv : Pdu}
    (hdata : recv.data.length = mailboxCheckSize) (hwkc : recv.wkc = 1) (isFirst waitFull : Bool)
    (time : ℕ) : ∃ task', task.processCheck isFirst waitFull recv time = .ok task' ∧ task'.Sound ∧
      task'.smSize = task.smSize ∧ task'.state =
        if SyncManagerStatus.isMailboxFull.val recv.data ≠ 0 then .read
        else if waitFull = true then .checkMailboxAlreadyExisted false waitFull
        else .error (.taskSpecific .mailboxEmpty) := by
  have hfits : SyncManagerStatus.isMailboxFull.Fits recv.data := by
    rw [Field.Fits, hdata]
    decide
  have hslice : sliceFrom recv.data SyncManagerStatus.size =
      .ok (recv.data.drop SyncManagerStatus.size) :=
    sliceFrom_eq_ok_iff.mpr ⟨by rw [hdata]; decide, rfl⟩
  have hlength : (recv.data.drop SyncManagerStatus.size).length = SyncManagerActivation.size := by
    rw [List.length_drop, hdata]
    rfl
  have hnot : ¬ recv.wkc ≠ 1 := not_not.mpr hwkc
  rw [processCheck]
  dsimp only
  generalize hstarted :
    (if isFirst = true then { task with timerStart := time } else task) = started
  have hsame : started.Sound ∧ started.smSize = task.smSize := by
    rw [← hstarted]
    cases isFirst <;> exact ⟨hsound, rfl⟩
  rw [if_neg hnot, hslice, ok_bind, check_of (hlength.trans hsame.1.symm), ok_bind,
    Field.getBool_of_fits hfits, ok_bind]
  refine ⟨_, rfl, ?_⟩
  by_cases hfull : SyncManagerStatus.isMailboxFull.val recv.data = 0
  · cases waitFull <;> simp [hfull, Sound, hlength, hsame.2]
  · simp [hfull, Sound, hlength, hsame.2]

/-- A response that does not end the read. -/
lemma InCall.processState_of_goesOn {n : ℕ} {task : MailboxReadTask} (h : task.InCall n)
    {recv : Pdu} (hdata : recv.data.length = task.statePdu.2) (hends : task.ends recv = none)
    (time : ℕ) :
    ∃ task', (task.checked recv).processState recv time = .ok task' ∧ task'.InCall n := by
  obtain ⟨hbusy, hsound, hroom, hsize⟩ := h
  unfold ends at hends
  split at hends
  · cases hends
  next hnone =>
  have hack : ¬ (task.state = .waitRepeatAck ∧ recv.wkc ≠ 1) := fun hack => by
    rw [if_pos hack] at hends
    cases hends
  unfold decides at hnone
  rw [hbusy, Bool.not_true, if_neg Bool.false_ne_true] at hnone
  split at hnone
  · cases hnone
  next hechoes =>
  rw [checked, if_pos (not_not.mp hechoes)]
  obtain ⟨timerStart, command, slaveAddress, state, activationBuf, smAdoOffset, smSize,
    smStartAddress⟩ := task
  cases state with
  | error | idle | complete => cases hbusy
  | checkMailboxAlreadyExisted isFirst waitFull =>
      dsimp only at hnone
      split at hnone
      · cases hnone
      next hwkc =>
      split at hnone
      · cases hnone
      next hwait =>
      obtain ⟨task', hprocess, hsound', hsize', hstate⟩ :=
        processCheck_eq hsound hdata (not_not.mp hwkc) isFirst waitFull time
      refine ⟨task', hprocess, ?_, hsound', hroom, hsize' ▸ hsize⟩
      rw [isBusy, hstate]
      by_cases hfull : SyncManagerStatus.isMailboxFull.val recv.data = 0
      · rw [if_neg (not_not.mpr hfull), if_pos (Bool.not_eq_false _ ▸ fun hw => hwait ⟨hfull, hw⟩)]
      · rw [if_pos hfull]
  | read =>
      dsimp only at hnone
      split at hnone
      · cases hnone
      next hwkc =>
        refine ⟨_, rfl, ?_, hsound, hroom, hsize⟩
        rw [if_pos hwkc]
        rfl
  | requestRepeat => exact ⟨_, rfl, rfl, hsound, hroom, hsize⟩
  | waitRepeatAck =>
      have hwkc : recv.wkc = 1 := by
        by_contra hwkc
        exact hack ⟨rfl, hwkc⟩
      have hfits : SyncManagerPdiControl.repeatAck.Fits recv.data :=
        Field.fits_of_le (n := SyncManagerPdiControl.size) (by decide) hdata.ge
      have hfits' : SyncManagerActivation.repeatBit.Fits activationBuf := by
        rw [Field.Fits, show activationBuf.length = _ from hsound]
        decide
      refine ⟨_, (if_neg (not_not.mpr hwkc)).trans (bind_eq_ok.mpr ⟨_, Field.getBool_of_fits hfits,
        bind_eq_ok.mpr ⟨_, Field.getBool_of_fits hfits', rfl⟩⟩), ?_⟩
      split <;> exact ⟨rfl, hsound, hroom, hsize⟩

lemma waitResult_of_busy {task : MailboxReadTask} (h : task.isBusy = true) :
    task.waitResult = none := by
  rcases state_of_busy h with ⟨isFirst, waitFull, hstate⟩ | hstate | hstate | hstate <;>
    rw [waitResult, hstate]

lemma timed_eq {task : MailboxReadTask} {time : ℕ} (htime : time ≤ 100000) :
    task.timed time = task := if_neg (not_mailboxTimedOut (by decide) htime)

/-- **A response** to a busy task. -/
lemma InCall.recieveAndProcess_eq {n : ℕ} {task : MailboxReadTask} (h : task.InCall n) {recv : Pdu}
    {time : ℕ} (hdata : recv.data.length = task.statePdu.2) (htime : time ≤ 100000) :
    ∃ task', task.recieveAndProcess recv time = .ok task' ∧ task'.waitResult = task.ends recv ∧
      (task.ends recv = none → task'.InCall n) := by
  have hrecieve : ∀ task', (task.checked recv).processState recv time = .ok task' →
      task.recieveAndProcess recv time = .ok task' := fun task' hprocess => by
    rw [recieveAndProcess, hprocess, ok_bind, timed_eq htime]
  rcases hends : task.ends recv with _ | outcome
  · obtain ⟨task', hprocess, hcall⟩ := h.processState_of_goesOn hdata hends time
    exact ⟨task', hrecieve task' hprocess, waitResult_of_busy hcall.busy, fun _ => hcall⟩
  unfold ends at hends
  split at hends
  · next hdecides =>
      cases hends
      have hcheck : ∀ isFirst waitFull, task.state = .checkMailboxAlreadyExisted isFirst waitFull →
          recv.data.length = mailboxCheckSize := fun _ _ hstate => by rw [hdata, statePdu, hstate]
      obtain ⟨task', hprocess, -, hresult⟩ := processState_of_decides time h.sound hcheck hdecides
      exact ⟨task', hrecieve task' hprocess, hresult, by rintro ⟨⟩⟩
  · next hdecides =>
      -- the acknowledgement of a repeated message got no reaction
      split at hends
      · next hack =>
          cases hends
          have hechoes : recv.Echoes task.command := by
            by_contra hechoes
            rw [decides, h.busy, Bool.not_true, if_neg Bool.false_ne_true,
              if_pos hechoes] at hdecides
            cases hdecides
          refine ⟨{ task with state := .error (.unexpectedWkc ⟨1, recv.wkc⟩) },
            hrecieve _ ?_, rfl, by rintro ⟨⟩⟩
          rw [checked, if_pos hechoes]
          simp only [processState, hack.1, processWaitRepeatAck, if_pos hack.2]
      · cases hends

end MailboxReadTask

/-! ## Writing -/

namespace MailboxWriteTask

/-- The PDU of a state, and its size. -/
def statePdu (task : MailboxWriteTask) : Command × ℕ :=
  match task.state with
  | .checkMailboxEmpty _ _ =>
    (.newRead (.single task.slaveAddress) (SyncManagerStatus.address + task.smAdoOffset),
      mailboxCheckSize)
  | .write => (.newWrite (.single task.slaveAddress) task.smStartAddress, task.smSize.toNat)
  | _ => (task.command, 0)

/-- A busy task on a buffer of `n` bytes. -/
structure InCall (n : ℕ) (task : MailboxWriteTask) : Prop where
  busy : task.isBusy = true
  room : mailboxCheckSize ≤ n
  smSize_le : task.smSize.toNat ≤ n

lemma InCall.size_le {n : ℕ} {task : MailboxWriteTask} (h : task.InCall n) :
    task.statePdu.2 ≤ n := by
  have hroom := h.room
  have hsize := h.smSize_le
  unfold statePdu
  split
  case h_1 => exact hroom
  case h_2 => exact hsize
  case h_3 => exact Nat.zero_le n

/-- The next PDU of a busy task changes its command and the bytes that it keeps. -/
structure SameCall (task task' : MailboxWriteTask) : Prop where
  state_eq : task'.state = task.state
  slaveAddress_eq : task'.slaveAddress = task.slaveAddress
  smAdoOffset_eq : task'.smAdoOffset = task.smAdoOffset
  smSize_eq : task'.smSize = task.smSize
  smStartAddress_eq : task'.smStartAddress = task.smStartAddress
  command_eq : task'.command = task.statePdu.1

lemma state_of_busy {task : MailboxWriteTask} (h : task.isBusy = true) :
    (∃ isFirst waitEmpty, task.state = .checkMailboxEmpty isFirst waitEmpty) ∨
      task.state = .write := by
  rcases hstate : task.state <;> simp_all [isBusy]

lemma SameCall.statePdu_eq {task task' : MailboxWriteTask} (h : SameCall task task')
    (hbusy : task.isBusy = true) : task'.statePdu = task.statePdu := by
  rcases state_of_busy hbusy with ⟨isFirst, waitEmpty, hstate⟩ | hstate <;>
    simp only [statePdu, h.state_eq, hstate, h.slaveAddress_eq, h.smAdoOffset_eq, h.smSize_eq,
      h.smStartAddress_eq]

lemma SameCall.inCall {n : ℕ} {task task' : MailboxWriteTask} (h : SameCall task task')
    (hcall : task.InCall n) : task'.InCall n where
  busy := by
    have hbusy := hcall.busy
    rwa [isBusy, ← h.state_eq] at hbusy
  room := hcall.room
  smSize_le := h.smSize_eq ▸ hcall.smSize_le

/-- **The next PDU** of a busy task. -/
lemma InCall.nextPdu_eq {n : ℕ} {task : MailboxWriteTask} (h : task.InCall n) {buf : List UInt8}
    (hlength : buf.length = n) : ∃ buf' task',
      task.nextPdu buf = .ok ((some task.statePdu, buf'), task') ∧ SameCall task task' := by
  obtain ⟨hbusy, hroom, hsize⟩ := h
  subst hlength
  obtain ⟨timerStart, command, slaveAddress, emptyCheckBuffer, state, smAdoOffset, smSize,
    smStartAddress⟩ := task
  cases state with
  | error | idle | complete => cases hbusy
  | checkMailboxEmpty isFirst waitEmpty =>
      have hfill : fillTo buf mailboxCheckSize 0 =
          .ok (List.replicate mailboxCheckSize 0 ++ buf.drop mailboxCheckSize) :=
        fillTo_eq_ok_iff.mpr ⟨hroom, rfl⟩
      exact ⟨_, _, bind_eq_ok.mpr ⟨_, hfill, rfl⟩, rfl, rfl, rfl, rfl, rfl, rfl⟩
  | write =>
      have hfits : ¬ (overwrite buf emptyCheckBuffer).length < smSize.toNat := by
        rw [length_overwrite]
        exact Nat.not_lt.mpr hsize
      exact ⟨_, _, congrArg Except.ok (if_neg hfits), rfl, rfl, rfl, rfl, rfl, rfl⟩

/-- A response that does not end the write. -/
lemma InCall.processState_of_goesOn {n : ℕ} {task : MailboxWriteTask} (h : task.InCall n)
    {recv : Pdu} (hdata : recv.data.length = task.statePdu.2) (hdecides : task.decides recv = none)
    (time : ℕ) :
    ∃ task', (task.checked recv).processState recv time = .ok task' ∧ task'.InCall n := by
  obtain ⟨hbusy, hroom, hsize⟩ := h
  unfold decides at hdecides
  rw [hbusy, Bool.not_true, if_neg Bool.false_ne_true] at hdecides
  split at hdecides
  · cases hdecides
  next hechoes =>
  rw [checked, if_pos (not_not.mp hechoes)]
  obtain ⟨timerStart, command, slaveAddress, emptyCheckBuffer, state, smAdoOffset, smSize,
    smStartAddress⟩ := task
  cases state with
  | error | idle | complete => cases hbusy
  | checkMailboxEmpty isFirst waitEmpty =>
      dsimp only at hdecides
      split at hdecides
      · cases hdecides
      next hwkc =>
      split at hdecides
      · cases hdecides
      next hwait =>
      have hfits : SyncManagerStatus.isMailboxFull.Fits recv.data :=
        Field.fits_of_le (n := mailboxCheckSize) (by decide) hdata.ge
      refine ⟨_, (if_neg hwkc).trans (bind_eq_ok.mpr ⟨_, Field.getBool_of_fits hfits, rfl⟩), ?_⟩
      by_cases hfull : SyncManagerStatus.isMailboxFull.val recv.data = 0
      · cases isFirst <;> simp only [hfull] <;> exact ⟨rfl, hroom, hsize⟩
      · obtain rfl : waitEmpty = true := Bool.eq_true_of_not_eq_false fun hw => hwait ⟨hfull, hw⟩
        have hbit : (SyncManagerStatus.isMailboxFull.val recv.data != 0) = true :=
          bne_iff_ne.mpr hfull
        cases isFirst <;> simp only [hbit] <;> exact ⟨rfl, hroom, hsize⟩
  | write =>
      dsimp only at hdecides
      split at hdecides
      · cases hdecides
      next hwkc =>
        refine ⟨_, rfl, ?_, hroom, hsize⟩
        rw [if_pos hwkc]
        rfl

lemma waitResult_of_busy {task : MailboxWriteTask} (h : task.isBusy = true) :
    task.waitResult = none := by
  rcases hstate : task.state <;> simp_all [isBusy, waitResult]

/-- **A response** to a busy task. -/
lemma InCall.recieveAndProcess_eq {n : ℕ} {task : MailboxWriteTask} (h : task.InCall n) {recv : Pdu}
    {time : ℕ} (hdata : recv.data.length = task.statePdu.2) (htime : time ≤ 100000) :
    ∃ task', task.recieveAndProcess recv time = .ok task' ∧ task'.waitResult = task.decides recv ∧
      (task.decides recv = none → task'.InCall n) := by
  have hrecieve : ∀ task', (task.checked recv).processState recv time = .ok task' →
      task.recieveAndProcess recv time = .ok task' := fun task' hprocess => by
    rw [recieveAndProcess, hprocess, ok_bind, timed,
      if_neg (not_mailboxTimedOut (by decide) htime)]
  rcases hdecides : task.decides recv with _ | outcome
  · obtain ⟨task', hprocess, hcall⟩ := h.processState_of_goesOn hdata hdecides time
    exact ⟨task', hrecieve task' hprocess, waitResult_of_busy hcall.busy, fun _ => hcall⟩
  · have hcheck : ∀ isFirst waitEmpty, task.state = .checkMailboxEmpty isFirst waitEmpty →
        recv.data.length = mailboxCheckSize := fun _ _ hstate => by rw [hdata, statePdu, hstate]
    obtain ⟨task', hprocess, -, hresult⟩ := processState_of_decides time hcheck hdecides
    exact ⟨task', hrecieve task' hprocess, hresult, by rintro ⟨⟩⟩

end MailboxWriteTask

/-! ## The task of a call -/

namespace MailboxTask

/-- How a response ends the task inside. -/
def ends (task : MailboxTask) (recv : Pdu) : Option (Except (TaskError MailboxTaskError) Unit) :=
  match task.inner with
  | .reader reader => reader.ends recv
  | .writer writer => writer.decides recv

/-- The PDU of the task inside. -/
def statePdu (task : MailboxTask) : Command × ℕ :=
  match task.inner with
  | .reader reader => reader.statePdu
  | .writer writer => writer.statePdu

/-- The task of a call on a buffer of `n` bytes. -/
structure InCall (n : ℕ) (task : MailboxTask) : Prop where
  state_eq : task.state = .processing
  inner : match task.inner with
    | .reader reader => reader.InCall n
    | .writer writer => writer.InCall n

lemma InCall.size_le {n : ℕ} {task : MailboxTask} (h : task.InCall n) : task.statePdu.2 ≤ n := by
  obtain ⟨state, reader | writer⟩ := task
  · exact MailboxReadTask.InCall.size_le h.inner
  · exact MailboxWriteTask.InCall.size_le h.inner

lemma InCall.nextPdu_eq {n : ℕ} {task : MailboxTask} (h : task.InCall n) {buf : List UInt8}
    (hlength : buf.length = n) : ∃ buf' task',
      task.nextPdu buf = .ok ((some task.statePdu, buf'), task') ∧ task'.InCall n ∧
        task'.statePdu = task.statePdu := by
  obtain ⟨hstate, hinner⟩ := h
  obtain ⟨state, reader | writer⟩ := task
  · cases hstate
    obtain ⟨buf', reader', hnext, hsame⟩ := MailboxReadTask.InCall.nextPdu_eq hinner hlength
    exact ⟨buf', ⟨.processing, .reader reader'⟩, bind_eq_ok.mpr ⟨_, hnext, rfl⟩,
      ⟨rfl, hsame.inCall hinner⟩, hsame.statePdu_eq hinner.busy⟩
  · cases hstate
    obtain ⟨buf', writer', hnext, hsame⟩ := MailboxWriteTask.InCall.nextPdu_eq hinner hlength
    exact ⟨buf', ⟨.processing, .writer writer'⟩, bind_eq_ok.mpr ⟨_, hnext, rfl⟩,
      ⟨rfl, hsame.inCall hinner⟩, hsame.statePdu_eq hinner.busy⟩

lemma InCall.recieveAndProcess_eq {n : ℕ} {task : MailboxTask} (h : task.InCall n) {recv : Pdu}
    {time : ℕ} (hdata : recv.data.length = task.statePdu.2) (htime : time ≤ 100000) :
    ∃ task', task.recieveAndProcess recv time = .ok task' ∧ task'.waitResult = task.ends recv ∧
      (task.ends recv = none → task'.InCall n) := by
  obtain ⟨hstate, hinner⟩ := h
  obtain ⟨state, reader | writer⟩ := task
  · cases hstate
    obtain ⟨reader', hrecieve, hresult, hcall⟩ :=
      MailboxReadTask.InCall.recieveAndProcess_eq hinner hdata htime
    refine ⟨_, bind_eq_ok.mpr ⟨reader', hrecieve, rfl⟩, ?_, fun hends => ?_⟩
    · change _ = reader.ends recv
      rw [hresult]
      rcases reader.ends recv with _ | outcome
      · rfl
      · exact waitResult_stateAfter _ outcome
    · change reader.ends recv = none at hends
      rw [hresult, hends]
      exact ⟨rfl, hcall hends⟩
  · cases hstate
    obtain ⟨writer', hrecieve, hresult, hcall⟩ :=
      MailboxWriteTask.InCall.recieveAndProcess_eq hinner hdata htime
    refine ⟨_, bind_eq_ok.mpr ⟨writer', hrecieve, rfl⟩, ?_, fun hends => ?_⟩
    · change _ = writer.decides recv
      rw [hresult]
      rcases writer.decides recv with _ | outcome
      · rfl
      · exact waitResult_stateAfter _ outcome
    · change writer.decides recv = none at hends
      rw [hresult, hends]
      exact ⟨rfl, hcall hends⟩

lemma InCall.isBusy_eq {n : ℕ} {task : MailboxTask} (h : task.InCall n) : task.isBusy = true := by
  rw [isBusy, h.state_eq]

lemma not_busy_of_waitResult {task : MailboxTask}
    {outcome : Except (TaskError MailboxTaskError) Unit} (h : task.waitResult = some outcome) :
    task.isBusy = false := by
  unfold waitResult at h
  unfold isBusy
  split at h
  · next hstate => rw [hstate]
  · next hstate => rw [hstate]
  · cases h

end MailboxTask

/-! ## The polls of a call -/

namespace Blocked

/-- How a poll ends a mailbox call, if it does. -/
def ends (block : Blocked MailboxTask) (polled : Polled) :
    Option (Except (TaskError MailboxTaskError) Unit) :=
  match polled.result with
  | .ok true =>
    match (block.driven.seen ⟨polled.respond, block.count⟩).bind block.driven.task.ends with
    | some outcome => some outcome
    | none => if 100000 < block.count + 1 then some (.error .timeout) else none
  | .ok false => none
  | .error .txNotAvailable => none
  | .error .rxNotAvailable => none
  | .error err => some (.error (.interface err))

/-- The buffer of the socket after the response. -/
def dataAfter (block : Blocked MailboxTask) (polled : Polled) : List UInt8 :=
  match block.driven.socket.answer polled.respond with
  | .ok socket => socket.dataBuf
  | .error _ => []

/-- A mailbox call that runs, on a buffer of `n` bytes. -/
structure InCall (n : ℕ) (block : Blocked MailboxTask) : Prop where
  task : block.driven.task.InCall n
  count_le : block.count ≤ 100000
  socket : ∃ pdu dataBuf, block.driven.socket = .store pdu dataBuf ∧ dataBuf.length = n ∧
    ∀ asked, pdu = some asked → asked = block.driven.task.statePdu

/-- A call that goes on asks for its next PDU. -/
lemma inCall_ask {n : ℕ} {task : MailboxTask} (h : task.InCall n) {dataBuf : List UInt8}
    (hlength : dataBuf.length = n) : ∃ driven, Driven.ask task dataBuf = .ok driven ∧
      isBusy driven.task = true ∧ ∀ count ≤ 100000, InCall n ⟨driven, count⟩ := by
  obtain ⟨buf', task', hnext, hcall, hpdu⟩ := h.nextPdu_eq hlength
  refine ⟨⟨task', .store (some task.statePdu) buf'⟩, bind_eq_ok.mpr ⟨_, hnext, rfl⟩,
    hcall.isBusy_eq, fun count hcount => ⟨hcall, hcount, _, buf', rfl, ?_, ?_⟩⟩
  · exact (CyclicTask.length_nextPdu (T := MailboxTask) hnext).trans hlength
  · rintro asked ⟨⟩
    exact hpdu.symm

/-- What a turn may do, by how the poll ends the call. -/
structure TurnsAs (n : ℕ) (block : Blocked MailboxTask) (polled : Polled)
    (result : Option (Except (TaskError MailboxTaskError) Unit)) (block' : Blocked MailboxTask) :
    Prop where
  goesOn : block.ends polled = none → result = none ∧ block'.InCall n
  done : block.ends polled = some (.ok ()) → result = some (.ok ()) ∧
    block'.driven.task.waitResult = some (.ok ()) ∧
    block'.driven.socket = .store none (block.dataAfter polled) ∧
    (block.dataAfter polled).length = n
  failed : ∀ e, block.ends polled = some (.error e) → result = some (.error e) ∨
    result = some (.ok ()) ∧ block'.driven.task.waitResult = some (.error e)

lemma dataAfter_of_asking {task : MailboxTask} {command : Command} {size : ℕ} {dataBuf : List UInt8}
    (hsize : size ≤ dataBuf.length) (count : ℕ) (polled : Polled) :
    dataAfter ⟨⟨task, .store (some (command, size)) dataBuf⟩, count⟩ polled =
      Driven.answered command size dataBuf ⟨polled.respond, count⟩ := by
  have htake : sliceTo dataBuf size = .ok (dataBuf.take size) :=
    sliceTo_eq_ok_iff.mpr ⟨hsize, rfl⟩
  have hanswer : (PduSocket.store (some (command, size)) dataBuf).answer polled.respond =
      .ok ⟨some (polled.respond ⟨command, dataBuf.take size, 0⟩).command,
        Driven.answered command size dataBuf ⟨polled.respond, count⟩,
        (polled.respond ⟨command, dataBuf.take size, 0⟩).wkc, size, true⟩ := by
    change (sliceTo dataBuf size >>= _) >>= _ = _
    rw [htake]
    rfl
  rw [dataAfter, hanswer]

/-- The body of the loop, if the task goes on. -/
lemma turn_of_busy {block : Blocked MailboxTask} {polled : Polled}
    (hmoved : polled.result = .ok true) {driven : Driven MailboxTask}
    (hstep : block.driven.step ⟨polled.respond, block.count⟩ = .ok driven)
    (hbusy : isBusy driven.task = true) : block.turn MailboxTaskError polled =
      .ok (if 100000 < block.count + 1 then some (.error .timeout) else none,
        ⟨driven, block.count + 1⟩) := by
  rw [turn, hmoved]
  change block.stepTask MailboxTaskError polled.respond = _
  rw [stepTask, hstep, ok_bind, hbusy, Bool.not_true, if_neg Bool.false_ne_true]
  split <;> rfl

/-- And if it ends. -/
lemma turn_of_idle {block : Blocked MailboxTask} {polled : Polled}
    (hmoved : polled.result = .ok true) {driven : Driven MailboxTask}
    (hstep : block.driven.step ⟨polled.respond, block.count⟩ = .ok driven)
    (hidle : isBusy driven.task = false) :
    block.turn MailboxTaskError polled = .ok (some (.ok ()), ⟨driven, block.count⟩) := by
  rw [turn, hmoved]
  change block.stepTask MailboxTaskError polled.respond = _
  rw [stepTask, hstep, ok_bind, hidle]
  rfl

/-- A poll without a response that ends the task. -/
lemma turnsAs_of_busy {n : ℕ} {block : Blocked MailboxTask} {polled : Polled}
    (hmoved : polled.result = .ok true)
    (hends : (block.driven.seen ⟨polled.respond, block.count⟩).bind block.driven.task.ends = none)
    {driven : Driven MailboxTask} (hcall : ∀ count ≤ 100000, InCall n ⟨driven, count⟩) :
    TurnsAs n block polled (if 100000 < block.count + 1 then some (.error .timeout) else none)
      ⟨driven, block.count + 1⟩ := by
  have hends : block.ends polled =
      if 100000 < block.count + 1 then some (.error .timeout) else none := by
    rw [ends, hmoved]
    dsimp only
    rw [hends]
  by_cases hlate : 100000 < block.count + 1
  · rw [if_pos hlate] at hends ⊢
    refine ⟨fun hnone => ?_, fun hdone => ?_, fun e hfailed => .inl (hends.symm.trans hfailed)⟩
    · rw [hends] at hnone
      cases hnone
    · rw [hends] at hdone
      cases hdone
  · rw [if_neg hlate] at hends ⊢
    refine ⟨fun _ => ⟨rfl, hcall _ (Nat.not_lt.mp hlate)⟩, fun hdone => ?_, fun e hfailed => ?_⟩
    · rw [hends] at hdone
      cases hdone
    · rw [hends] at hfailed
      cases hfailed

/-- A poll that moves nothing, or fails. -/
lemma turn_of_not_moved {n : ℕ} {block : Blocked MailboxTask} (h : block.InCall n) {polled : Polled}
    (hmoved : polled.result ≠ .ok true) :
    ∃ result block', block.turn MailboxTaskError polled = .ok (result, block') ∧
      TurnsAs n block polled result block' := by
  obtain ⟨result, respond⟩ := polled
  have hwaits : ∀ polled : Polled, block.ends polled = none → TurnsAs n block polled none block :=
    fun polled hends => ⟨fun _ => ⟨rfl, h⟩, (fun hdone => by rw [hends] at hdone; cases hdone),
      fun e hfailed => by rw [hends] at hfailed; cases hfailed⟩
  have hfails : ∀ (polled : Polled) e, block.ends polled = some (.error e) →
      TurnsAs n block polled (some (.error e)) block := fun polled e hends =>
    ⟨(fun hnone => by rw [hends] at hnone; cases hnone),
      (fun hdone => by rw [hends] at hdone; cases hdone), fun e' hfailed => by
        rw [hends] at hfailed
        exact .inl hfailed⟩
  rcases result with err | isOk
  · cases err with
    | txNotAvailable | rxNotAvailable => exact ⟨_, _, rfl, hwaits _ rfl⟩
    | _ => exact ⟨_, _, rfl, hfails _ _ rfl⟩
  · cases isOk with
    | true => exact absurd rfl hmoved
    | false => exact ⟨_, _, rfl, hwaits _ rfl⟩

/-- **A turn of a mailbox call.** -/
lemma turn_of_inCall {n : ℕ} {block : Blocked MailboxTask} (h : block.InCall n) (polled : Polled) :
    ∃ result block', block.turn MailboxTaskError polled = .ok (result, block') ∧
      TurnsAs n block polled result block' := by
  by_cases hmoved : polled.result = .ok true
  swap
  · exact turn_of_not_moved h hmoved
  obtain ⟨⟨task, socket⟩, count⟩ := block
  obtain ⟨htask, hcount, pdu, dataBuf, rfl, hlength, hpdu⟩ := h
  rcases pdu with _ | ⟨command, size⟩
  · -- no response
    obtain ⟨driven, hask, hbusy, hcall⟩ := inCall_ask htask hlength
    exact ⟨_, _, turn_of_busy hmoved ((Driven.step_of_silent _ _ _).trans hask) hbusy,
      turnsAs_of_busy hmoved rfl hcall⟩
  · have hasked : size = task.statePdu.2 := congrArg Prod.snd (hpdu (command, size) rfl)
    have hsize : size ≤ dataBuf.length := hasked ▸ hlength ▸ htask.size_le
    have hshown : (Driven.shown command size dataBuf ⟨polled.respond, count⟩).data.length =
        size := Driven.length_shown hsize _
    obtain ⟨task', hrecieve, hresult, hgoesOn⟩ := htask.recieveAndProcess_eq
      (hshown.trans hasked) hcount
    have hstep : (⟨task, .store (some (command, size)) dataBuf⟩ : Driven MailboxTask).step
        ⟨polled.respond, count⟩ = Driven.ask task'
          (Driven.answered command size dataBuf ⟨polled.respond, count⟩) := by
      rw [Driven.step_of_asking hsize]
      change task.recieveAndProcess _ _ >>= _ = _
      rw [hrecieve, ok_bind]
    have hseen : (⟨task, .store (some (command, size)) dataBuf⟩ : Driven MailboxTask).seen
        ⟨polled.respond, count⟩ =
          some (Driven.shown command size dataBuf ⟨polled.respond, count⟩) :=
      Driven.seen_of_asking hsize _
    have hanswered := (Driven.length_answered command size dataBuf
      ⟨polled.respond, count⟩).trans hlength
    rcases hends : task.ends (Driven.shown command size dataBuf ⟨polled.respond, count⟩)
      with _ | outcome
    · obtain ⟨driven, hask, hbusy, hcall⟩ := inCall_ask (hgoesOn hends) hanswered
      refine ⟨_, _, turn_of_busy hmoved (hstep.trans hask) hbusy, turnsAs_of_busy hmoved ?_ hcall⟩
      rw [hseen]
      exact hends
    · rw [hends] at hresult
      have hask : Driven.ask task' (Driven.answered command size dataBuf
          ⟨polled.respond, count⟩) = .ok ⟨task', .store none (Driven.answered command size
            dataBuf ⟨polled.respond, count⟩)⟩ :=
        bind_eq_ok.mpr ⟨_, MailboxTask.nextPdu_of_waitResult hresult _, rfl⟩
      have hpolled : ends ⟨⟨task, .store (some (command, size)) dataBuf⟩, count⟩ polled =
          some outcome := by
        rw [ends, hmoved]
        dsimp only
        rw [hseen, Option.bind_some, hends]
      have hafter : dataAfter ⟨⟨task, .store (some (command, size)) dataBuf⟩, count⟩
          polled = Driven.answered command size dataBuf ⟨polled.respond, count⟩ :=
        dataAfter_of_asking hsize count polled
      refine ⟨_, _, turn_of_idle hmoved (hstep.trans hask)
        (MailboxTask.not_busy_of_waitResult hresult), fun hnone => ?_, fun hdone => ?_,
        fun e hfailed => ?_⟩
      · rw [hpolled] at hnone
        cases hnone
      · rw [hpolled] at hdone
        cases hdone
        rw [hafter]
        exact ⟨rfl, hresult, rfl, hanswered⟩
      · rw [hpolled] at hfailed
        cases hfailed
        exact .inr ⟨rfl, hresult⟩

end Blocked

end EtherCat
