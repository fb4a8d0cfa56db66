import EtherCat.Task.Exchange
import EtherCat.Task.MailboxSteps

/-!
# The outcome of a mailbox transfer

A response may decide how a transfer ends, and `wait` should return what it decided.  Both tasks look
at the time behind that, and a response that comes after the limit ends the transfer with `Timeout`
whatever it says (`alongReports_iff_alongInTime`).
-/

namespace EtherCat

open Rust Rust.Exec BitField CyclicTask

/-- How a task ends: the outcome that a response decides, whether the response comes too late, and
what `wait` returns. -/
structure Ending (T O : Type) where
  decides : T → Pdu → Option O
  late : T → Pdu → ℕ → Bool
  waitResult : T → Option O

namespace Ending

variable {T O : Type} [CyclicTask T] (ending : Ending T O)

/-- **What is promised of a response**: an outcome that it decides is what `wait` returns. -/
def Reports (d : Driven T) (reply : Reply) : Prop :=
  ∀ recv outcome, d.seen reply = some recv → ending.decides d.task recv = some outcome →
    ∃ d', d.step reply = .ok d' ∧ ending.waitResult d'.task = some outcome

/-- A response that decides the outcome is not late. -/
def InTime (d : Driven T) (reply : Reply) : Prop :=
  ∀ recv outcome, d.seen reply = some recv → ending.decides d.task recv = some outcome →
    ending.late d.task recv reply.time = false

instance (d : Driven T) (reply : Reply) : Decidable (ending.InTime d reply) :=
  decidable_of_iff (∀ recv ∈ d.seen reply, ∀ outcome ∈ ending.decides d.task recv,
      ending.late d.task recv reply.time = false)
    ⟨fun h recv outcome hseen hdecides => h recv hseen outcome hdecides,
      fun h recv hseen outcome hdecides => h recv outcome hseen hdecides⟩

/-- What the tasks have in common: `Ready` holds of a task and the PDU that is out, and a response
that decides the outcome gives it or, if it is late, another one. -/
structure Replaces (Sound : T → Prop) (Ready : T → Option (Command × ℕ) → Prop) (tooLate : O) :
    Prop where
  sound : ∀ {task pdu}, Ready task pdu → Sound task
  ready : ∀ {task task' : T} {pdu : Option (Command × ℕ)} {buf buf' : List UInt8}, Sound task →
    nextPdu task buf = .ok ((pdu, buf'), task') → Ready task' pdu
  recieve : ∀ {task task' : T} {recv : Pdu} {time : ℕ}, Sound task →
    recieveAndProcess task recv time = .ok task' → Sound task'
  rest : ∀ {task : T} {outcome : O}, ending.waitResult task = some outcome → ∀ buf,
    nextPdu task buf = .ok ((none, buf), task)
  ne_tooLate : ∀ {task : T} {recv : Pdu} {outcome : O},
    ending.decides task recv = some outcome → outcome ≠ tooLate
  decided : ∀ {task : T} {command : Command} {size : ℕ} {recv : Pdu} {outcome : O} (time : ℕ),
    Ready task (some (command, size)) → recv.data.length = size →
    ending.decides task recv = some outcome →
      ∃ task', recieveAndProcess task recv time = .ok task' ∧
        ending.waitResult task' = some (if ending.late task recv time then tooLate else outcome)

variable {ending} {Sound : T → Prop} {Ready : T → Option (Command × ℕ) → Prop} {tooLate : O}

/-- The invariant of the driven task. -/
def IsReady (Ready : T → Option (Command × ℕ) → Prop) (d : Driven T) : Prop :=
  ∃ pdu buf, d.socket = .store pdu buf ∧ Ready d.task pdu

lemma isReady_step (h : ending.Replaces Sound Ready tooLate) {d d' : Driven T} {reply : Reply}
    (hready : IsReady Ready d) (hstep : d.step reply = .ok d') : IsReady Ready d' := by
  obtain ⟨task, socket⟩ := d
  obtain ⟨pdu, buf, rfl, hready⟩ := hready
  rcases pdu with _ | ⟨command, size⟩
  · rw [Driven.step_of_silent] at hstep
    obtain ⟨pdu, buf', hnext, hsocket⟩ := Driven.ask_eq_ok hstep
    exact ⟨pdu, buf', hsocket, h.ready (h.sound hready) hnext⟩
  · rw [Driven.step_of_asking (Driven.size_le_of_step hstep)] at hstep
    obtain ⟨task', hrecieve, hask⟩ := bind_eq_ok.mp hstep
    obtain ⟨pdu, buf', hnext, hsocket⟩ := Driven.ask_eq_ok hask
    exact ⟨pdu, buf', hsocket, h.ready (h.recieve (h.sound hready) hrecieve) hnext⟩

/-- **One response.** -/
lemma reports_iff_inTime (h : ending.Replaces Sound Ready tooLate) {d : Driven T} (reply : Reply)
    (hready : IsReady Ready d) : ending.Reports d reply ↔ ending.InTime d reply := by
  obtain ⟨task, socket⟩ := d
  obtain ⟨pdu, buf, rfl, hready⟩ := hready
  -- a response that decides is followed by a step to a task with the outcome
  have hstep : ∀ {recv outcome}, (⟨task, .store pdu buf⟩ : Driven T).seen reply = some recv →
      ending.decides task recv = some outcome →
        ∃ d', (⟨task, .store pdu buf⟩ : Driven T).step reply = .ok d' ∧ ending.waitResult d'.task =
          some (if ending.late task recv reply.time then tooLate else outcome) := by
    intro recv outcome hseen hdecides
    obtain ⟨command, size, rfl, hsize, rfl⟩ := Driven.asking_of_seen hseen
    obtain ⟨task', hrecieve, hresult⟩ :=
      h.decided reply.time hready (Driven.length_shown hsize reply) hdecides
    refine ⟨⟨task', .store none (Driven.answered command size buf reply)⟩, ?_, hresult⟩
    rw [Driven.step_of_asking hsize, hrecieve, ok_bind, Driven.ask, h.rest hresult]
    rfl
  constructor
  · intro hreports recv outcome hseen hdecides
    obtain ⟨d', hd', hresult⟩ := hstep hseen hdecides
    obtain ⟨d'', hd'', hreported⟩ := hreports recv outcome hseen hdecides
    rw [hd'] at hd''
    cases hd''
    by_contra hlate
    rw [if_pos (Bool.not_eq_false _ ▸ hlate), hreported] at hresult
    exact h.ne_tooLate hdecides (Option.some.inj hresult)
  · intro hinTime recv outcome hseen hdecides
    obtain ⟨d', hd', hresult⟩ := hstep hseen hdecides
    rw [hinTime recv outcome hseen hdecides] at hresult
    exact ⟨d', hd', hresult⟩

/-- And a run. -/
lemma along_reports_iff (h : ending.Replaces Sound Ready tooLate) {d : Driven T}
    (hready : IsReady Ready d) (replies : List Reply) :
    Transition.Along Driven.step ending.Reports d replies ↔
      Transition.Along Driven.step ending.InTime d replies := by
  constructor <;> intro halong
  · refine Transition.along_mono (fun d reply h' => (reports_iff_inTime h reply h'.1).mp h'.2)
      (Transition.along_invariant (IsReady Ready) ?_ hready halong)
    exact fun d reply d' hready _ hstep => isReady_step h hready hstep
  · refine Transition.along_mono (fun d reply h' => (reports_iff_inTime h reply h'.1).mpr h'.2)
      (Transition.along_invariant (IsReady Ready) ?_ hready halong)
    exact fun d reply d' hready _ hstep => isReady_step h hready hstep

end Ending

/-! ## Reading -/

namespace MailboxReadTask

/-- The outcome that a response decides: a read that the slave has reacted to, another command, no
reaction to a poll, or an empty mailbox that is not waited for. -/
def decides (task : MailboxReadTask) (recv : Pdu) :
    Option (Except (TaskError MailboxTaskError) Unit) :=
  if !task.isBusy then none
  else if ¬ recv.Echoes task.command then some (.error .unexpectedCommand)
  else match task.state with
    | .checkMailboxAlreadyExisted _ waitFull =>
      if recv.wkc ≠ 1 then some (.error (.taskSpecific .noSlaveReaction))
      else if SyncManagerStatus.isMailboxFull.val recv.data = 0 ∧ waitFull = false then
        some (.error (.taskSpecific .mailboxEmpty))
      else none
    | .read => if recv.wkc = 1 then some (.ok ()) else none
    | _ => none

/-- The start of the timer when the time is looked at: the first poll sets it. -/
def timerAt (task : MailboxReadTask) (recv : Pdu) (time : ℕ) : ℕ :=
  match task.state with
  | .checkMailboxAlreadyExisted true _ =>
    if recv.Echoes task.command then time else task.timerStart
  | _ => task.timerStart

/-- How a read ends: by what a response decides, or by the time. -/
def ending : Ending MailboxReadTask (Except (TaskError MailboxTaskError) Unit) where
  decides := decides
  late task recv time := mailboxTimedOut timeoutMs (task.timerAt recv time) time
  waitResult := waitResult

/-- The copy of the activation register has the size of the register. -/
def Sound (task : MailboxReadTask) : Prop :=
  task.activationBuf.length = SyncManagerActivation.size

/-- What holds before every response: a status has the size that was asked for. -/
structure Ready (task : MailboxReadTask) (pdu : Option (Command × ℕ)) : Prop where
  sound : task.Sound
  checkSize : ∀ isFirst waitFull, task.state = .checkMailboxAlreadyExisted isFirst waitFull →
    ∀ command size, pdu = some (command, size) → size = mailboxCheckSize

lemma ready_of_nextPdu {task task' : MailboxReadTask} {pdu : Option (Command × ℕ)}
    {buf buf' : List UInt8} (h : task.Sound) (hnext : task.nextPdu buf = .ok ((pdu, buf'), task')) :
    task'.Ready pdu := by
  unfold nextPdu at hnext
  split at hnext
  case h_1 hstate | h_2 hstate | h_3 hstate =>
    cases hnext
    exact ⟨h, fun _ _ _ _ _ hpdu => by cases hpdu⟩
  case h_4 hstate =>
    obtain ⟨filled, -, heq⟩ := bind_eq_ok.mp hnext
    cases heq
    refine ⟨h, fun _ _ _ _ _ hpdu => ?_⟩
    cases hpdu
    rfl
  case h_5 hstate =>
    unfold nextRead at hnext
    dsimp only at hnext
    split at hnext
    · cases hnext
      exact ⟨h, by rintro _ _ ⟨⟩⟩
    · obtain ⟨filled, -, heq⟩ := bind_eq_ok.mp hnext
      cases heq
      refine ⟨h, fun _ _ hcheck => ?_⟩
      dsimp only at hcheck
      rw [hstate] at hcheck
      cases hcheck
  case h_6 hstate =>
    obtain ⟨repeatBit, -, hnext⟩ := bind_eq_ok.mp hnext
    obtain ⟨activationBuf, hset, hnext⟩ := bind_eq_ok.mp hnext
    obtain ⟨copied, -, heq⟩ := bind_eq_ok.mp hnext
    obtain ⟨-, rfl⟩ := Field.set_eq_ok_iff.mp hset
    cases heq
    refine ⟨(Field.length_put _ _ _).trans h, fun _ _ hcheck => ?_⟩
    dsimp only at hcheck
    rw [hstate] at hcheck
    cases hcheck
  case h_7 hstate =>
    obtain ⟨filled, -, heq⟩ := bind_eq_ok.mp hnext
    cases heq
    refine ⟨h, fun _ _ hcheck => ?_⟩
    dsimp only at hcheck
    rw [hstate] at hcheck
    cases hcheck

lemma sound_of_processState {task task' : MailboxReadTask} {recv : Pdu} {time : ℕ}
    (h : task.Sound) (hprocess : task.processState recv time = .ok task') : task'.Sound := by
  unfold processState at hprocess
  split at hprocess
  case h_4 isFirst waitFull hstate =>
    unfold processCheck at hprocess
    dsimp only at hprocess
    split at hprocess
    · cases hprocess
      cases isFirst <;> exact h
    · obtain ⟨activation, -, hprocess⟩ := bind_eq_ok.mp hprocess
      obtain ⟨_, hlength, hprocess⟩ := bind_eq_ok.mp hprocess
      obtain ⟨isMailboxFull, -, heq⟩ := bind_eq_ok.mp hprocess
      cases heq
      have hsame : activation.length = SyncManagerActivation.size := by
        cases isFirst <;> exact (check_eq_ok_iff.mp hlength).1.trans h
      cases isMailboxFull <;> cases waitFull <;> exact hsame
  case h_7 hstate =>
    unfold processWaitRepeatAck at hprocess
    split at hprocess
    · cases hprocess
      exact h
    · obtain ⟨repeatAck, -, hprocess⟩ := bind_eq_ok.mp hprocess
      obtain ⟨repeatBit, -, heq⟩ := bind_eq_ok.mp hprocess
      cases heq
      split <;> exact h
  all_goals
    cases hprocess
    exact h

lemma sound_of_recieveAndProcess {task task' : MailboxReadTask} {recv : Pdu} {time : ℕ}
    (h : task.Sound) (hrecieve : task.recieveAndProcess recv time = .ok task') : task'.Sound := by
  obtain ⟨processed, hprocess, heq⟩ := bind_eq_ok.mp hrecieve
  cases heq
  have hprocessed : processed.Sound := by
    refine sound_of_processState ?_ hprocess
    unfold checked
    split <;> exact h
  unfold timed
  split <;> exact hprocessed

/-- The state machine gives the outcome that the response decides. -/
lemma processState_of_decides {task : MailboxReadTask} {recv : Pdu}
    {outcome : Except (TaskError MailboxTaskError) Unit} (time : ℕ) (hsound : task.Sound)
    (hlength : ∀ isFirst waitFull, task.state = .checkMailboxAlreadyExisted isFirst waitFull →
      recv.data.length = mailboxCheckSize) (h : task.decides recv = some outcome) :
    ∃ task', (task.checked recv).processState recv time = .ok task' ∧
      task'.timerStart = task.timerAt recv time ∧ task'.waitResult = some outcome := by
  unfold decides at h
  split at h
  · cases h
  split at h
  · next hechoes =>
      cases h
      refine ⟨{ task with state := .error .unexpectedCommand }, ?_, ?_, rfl⟩
      · rw [checked, if_neg hechoes]
        rfl
      · rw [timerAt, if_neg hechoes]
        split <;> rfl
  · next hechoes =>
      have hechoes := not_not.mp hechoes
      rw [checked, if_pos hechoes]
      split at h
      · next isFirst waitFull hstate =>
          have hprocess : task.processState recv time =
              task.processCheck isFirst waitFull recv time := by
            simp only [processState, hstate]
          rw [hprocess, processCheck]
          dsimp only
          generalize hstarted :
            (if isFirst = true then { task with timerStart := time } else task) = started
          have htimer : started.timerStart = task.timerAt recv time := by
            rw [← hstarted, timerAt, hstate]
            cases isFirst
            · rfl
            · exact (if_pos hechoes).symm
          have hregister : started.activationBuf.length = SyncManagerActivation.size := by
            rw [← hstarted]
            cases isFirst <;> exact hsound
          split at h
          · next hwkc =>
              cases h
              rw [if_pos hwkc]
              exact ⟨_, rfl, htimer, rfl⟩
          · next hwkc =>
              rw [if_neg hwkc]
              split at h
              · next hempty =>
                  cases h
                  have hdata := hlength isFirst waitFull hstate
                  have hfits : SyncManagerStatus.isMailboxFull.Fits recv.data := by
                    rw [Field.Fits, hdata]
                    decide
                  have hslice : sliceFrom recv.data SyncManagerStatus.size =
                      .ok (recv.data.drop SyncManagerStatus.size) :=
                    sliceFrom_eq_ok_iff.mpr ⟨by rw [hdata]; decide, rfl⟩
                  have hcopy : (recv.data.drop SyncManagerStatus.size).length =
                      started.activationBuf.length := by
                    rw [List.length_drop, hdata, hregister]
                    rfl
                  rw [hslice, ok_bind, check_of hcopy, ok_bind, Field.getBool_of_fits hfits,
                    ok_bind, hempty.1, hempty.2]
                  exact ⟨_, rfl, htimer, rfl⟩
              · cases h
      · next hstate =>
          split at h
          · next hwkc =>
              cases h
              simp only [processState, hstate, hwkc]
              refine ⟨_, rfl, ?_, rfl⟩
              rw [timerAt, hstate]
          · cases h
      · cases h

lemma nextPdu_of_waitResult {task : MailboxReadTask}
    {outcome : Except (TaskError MailboxTaskError) Unit} (h : task.waitResult = some outcome)
    (buf : List UInt8) : task.nextPdu buf = .ok ((none, buf), task) := by
  unfold waitResult at h
  unfold nextPdu
  split at h
  · next hstate => rw [hstate]
  · next hstate => rw [hstate]
  · cases h

lemma decides_ne_timeout {task : MailboxReadTask} {recv : Pdu}
    {outcome : Except (TaskError MailboxTaskError) Unit} (h : task.decides recv = some outcome) :
    outcome ≠ .error .timeout := by
  unfold decides at h
  split at h
  · cases h
  split at h
  · cases h
    rintro ⟨⟩
  split at h
  · split at h
    · cases h
      rintro ⟨⟩
    · split at h <;> cases h
      rintro ⟨⟩
  · split at h <;> cases h
    rintro ⟨⟩
  · cases h

/-- The result behind a response that decides. -/
lemma recieveAndProcess_of_decides {task : MailboxReadTask} {recv : Pdu}
    {outcome : Except (TaskError MailboxTaskError) Unit} (time : ℕ) (hsound : task.Sound)
    (hlength : ∀ isFirst waitFull, task.state = .checkMailboxAlreadyExisted isFirst waitFull →
      recv.data.length = mailboxCheckSize) (h : task.decides recv = some outcome) :
    ∃ task', task.recieveAndProcess recv time = .ok task' ∧
      task'.waitResult = some
        (if mailboxTimedOut timeoutMs (task.timerAt recv time) time then .error .timeout
          else outcome) := by
  obtain ⟨task', hprocess, htimer, hresult⟩ := processState_of_decides time hsound hlength h
  refine ⟨task'.timed time, by rw [recieveAndProcess, hprocess, ok_bind], ?_⟩
  rw [timed, htimer]
  split
  · rfl
  · exact hresult

lemma replaces : ending.Replaces Sound Ready (.error .timeout) where
  sound h := h.sound
  ready := ready_of_nextPdu
  recieve := sound_of_recieveAndProcess
  rest := nextPdu_of_waitResult
  ne_tooLate := decides_ne_timeout
  decided {task command size recv outcome} time hready hlength hdecides := by
    obtain ⟨task', hrecieve, hresult⟩ := recieveAndProcess_of_decides time hready.sound
      (fun _ _ hstate => hlength.trans (hready.checkSize _ _ hstate command size rfl)) hdecides
    exact ⟨task', hrecieve, by simpa only [ending, decide_eq_true_eq] using hresult⟩

end MailboxReadTask

/-! ## Writing -/

namespace MailboxWriteTask

/-- As for a read; the mailbox has to be empty. -/
def decides (task : MailboxWriteTask) (recv : Pdu) :
    Option (Except (TaskError MailboxTaskError) Unit) :=
  if !task.isBusy then none
  else if ¬ recv.Echoes task.command then some (.error .unexpectedCommand)
  else match task.state with
    | .checkMailboxEmpty _ waitEmpty =>
      if recv.wkc ≠ 1 then some (.error (.taskSpecific .noSlaveReaction))
      else if SyncManagerStatus.isMailboxFull.val recv.data ≠ 0 ∧ waitEmpty = false then
        some (.error (.taskSpecific .mailboxAlreadyExisted))
      else none
    | .write => if recv.wkc = 1 then some (.ok ()) else none
    | _ => none

/-- The start of the timer when the time is looked at: the first poll sets it. -/
def timerAt (task : MailboxWriteTask) (recv : Pdu) (time : ℕ) : ℕ :=
  match task.state with
  | .checkMailboxEmpty true _ => if recv.Echoes task.command then time else task.timerStart
  | _ => task.timerStart

/-- How a write ends: by what a response decides, or by the time. -/
def ending : Ending MailboxWriteTask (Except (TaskError MailboxTaskError) Unit) where
  decides := decides
  late task recv time := mailboxTimedOut timeoutMs (task.timerAt recv time) time
  waitResult := waitResult

/-- What holds before every response: a status has the size that was asked for. -/
structure Ready (task : MailboxWriteTask) (pdu : Option (Command × ℕ)) : Prop where
  checkSize : ∀ isFirst waitEmpty, task.state = .checkMailboxEmpty isFirst waitEmpty →
    ∀ command size, pdu = some (command, size) → size = mailboxCheckSize

lemma ready_of_nextPdu {task task' : MailboxWriteTask} {pdu : Option (Command × ℕ)}
    {buf buf' : List UInt8} (hnext : task.nextPdu buf = .ok ((pdu, buf'), task')) :
    task'.Ready pdu := by
  unfold nextPdu at hnext
  split at hnext
  case h_4 hstate =>
    obtain ⟨filled, -, heq⟩ := bind_eq_ok.mp hnext
    cases heq
    refine ⟨fun _ _ _ _ _ hpdu => ?_⟩
    cases hpdu
    rfl
  case h_5 hstate =>
    have heq := Except.ok.inj hnext
    unfold nextWrite at heq
    dsimp only at heq
    split at heq
    · cases heq
      exact ⟨by rintro _ _ ⟨⟩⟩
    · cases heq
      refine ⟨fun _ _ hcheck => ?_⟩
      dsimp only at hcheck
      rw [hstate] at hcheck
      cases hcheck
  all_goals
    cases hnext
    exact ⟨fun _ _ _ _ _ hpdu => by cases hpdu⟩

lemma processState_of_decides {task : MailboxWriteTask} {recv : Pdu}
    {outcome : Except (TaskError MailboxTaskError) Unit} (time : ℕ)
    (hlength : ∀ isFirst waitEmpty, task.state = .checkMailboxEmpty isFirst waitEmpty →
      recv.data.length = mailboxCheckSize) (h : task.decides recv = some outcome) :
    ∃ task', (task.checked recv).processState recv time = .ok task' ∧
      task'.timerStart = task.timerAt recv time ∧ task'.waitResult = some outcome := by
  unfold decides at h
  split at h
  · cases h
  split at h
  · next hechoes =>
      cases h
      refine ⟨{ task with state := .error .unexpectedCommand }, ?_, ?_, rfl⟩
      · rw [checked, if_neg hechoes]
        rfl
      · rw [timerAt, if_neg hechoes]
        split <;> rfl
  · next hechoes =>
      have hechoes := not_not.mp hechoes
      rw [checked, if_pos hechoes]
      split at h
      · next isFirst waitEmpty hstate =>
          have hprocess : task.processState recv time =
              task.processCheck isFirst waitEmpty recv time := by
            simp only [processState, hstate]
          rw [hprocess, processCheck]
          generalize hstarted :
            (if isFirst = true then { task with timerStart := time } else task) = started
          have htimer : started.timerStart = task.timerAt recv time := by
            rw [← hstarted, timerAt, hstate]
            cases isFirst
            · rfl
            · exact (if_pos hechoes).symm
          split at h
          · next hwkc =>
              cases h
              rw [if_pos hwkc]
              exact ⟨_, rfl, htimer, rfl⟩
          · next hwkc =>
              rw [if_neg hwkc]
              split at h
              · next hfull =>
                  cases h
                  have hfits : SyncManagerStatus.isMailboxFull.Fits recv.data := by
                    rw [Field.Fits, hlength isFirst waitEmpty hstate]
                    decide
                  rw [Field.getBool_of_fits hfits, ok_bind, bne_iff_ne.mpr hfull.1, hfull.2]
                  exact ⟨_, rfl, htimer, rfl⟩
              · cases h
      · next hstate =>
          split at h
          · next hwkc =>
              cases h
              simp only [processState, hstate, hwkc]
              refine ⟨_, rfl, ?_, rfl⟩
              rw [timerAt, hstate]
          · cases h
      · cases h

lemma nextPdu_of_waitResult {task : MailboxWriteTask}
    {outcome : Except (TaskError MailboxTaskError) Unit} (h : task.waitResult = some outcome)
    (buf : List UInt8) : task.nextPdu buf = .ok ((none, buf), task) := by
  unfold waitResult at h
  unfold nextPdu
  split at h
  · next hstate => rw [hstate]
  · next hstate => rw [hstate]
  · cases h

lemma decides_ne_timeout {task : MailboxWriteTask} {recv : Pdu}
    {outcome : Except (TaskError MailboxTaskError) Unit} (h : task.decides recv = some outcome) :
    outcome ≠ .error .timeout := by
  unfold decides at h
  split at h
  · cases h
  split at h
  · cases h
    rintro ⟨⟩
  split at h
  · split at h
    · cases h
      rintro ⟨⟩
    · split at h <;> cases h
      rintro ⟨⟩
  · split at h <;> cases h
    rintro ⟨⟩
  · cases h

/-- The result behind a response that decides. -/
lemma recieveAndProcess_of_decides {task : MailboxWriteTask} {recv : Pdu}
    {outcome : Except (TaskError MailboxTaskError) Unit} (time : ℕ)
    (hlength : ∀ isFirst waitEmpty, task.state = .checkMailboxEmpty isFirst waitEmpty →
      recv.data.length = mailboxCheckSize) (h : task.decides recv = some outcome) :
    ∃ task', task.recieveAndProcess recv time = .ok task' ∧
      task'.waitResult = some
        (if mailboxTimedOut timeoutMs (task.timerAt recv time) time then .error .timeout
          else outcome) := by
  obtain ⟨task', hprocess, htimer, hresult⟩ := processState_of_decides time hlength h
  refine ⟨task'.timed time, by rw [recieveAndProcess, hprocess, ok_bind], ?_⟩
  rw [timed, htimer]
  split
  · rfl
  · exact hresult

lemma replaces : ending.Replaces (fun _ => True) Ready (.error .timeout) where
  sound _ := trivial
  ready _ hnext := ready_of_nextPdu hnext
  recieve _ _ := trivial
  rest := nextPdu_of_waitResult
  ne_tooLate := decides_ne_timeout
  decided {task command size recv outcome} time hready hlength hdecides := by
    obtain ⟨task', hrecieve, hresult⟩ := recieveAndProcess_of_decides time
      (fun _ _ hstate => hlength.trans (hready.checkSize _ _ hstate command size rfl)) hdecides
    exact ⟨task', hrecieve, by simpa only [ending, decide_eq_true_eq] using hresult⟩

end MailboxWriteTask

/-! ## The task of the master -/

namespace MailboxTask

/-- What the task inside decides. -/
def decides (task : MailboxTask) (recv : Pdu) : Option (Except (TaskError MailboxTaskError) Unit) :=
  match task.state, task.inner with
  | .processing, .reader reader => reader.decides recv
  | .processing, .writer writer => writer.decides recv
  | _, _ => none

/-- The outer task ends as the one inside does. -/
def ending : Ending MailboxTask (Except (TaskError MailboxTaskError) Unit) where
  decides := decides
  late task recv time :=
    match task.inner with
    | .reader reader => MailboxReadTask.ending.late reader recv time
    | .writer writer => MailboxWriteTask.ending.late writer recv time
  waitResult := waitResult

/-- The task inside is sound. -/
def Sound (task : MailboxTask) : Prop :=
  match task.inner with
  | .reader reader => reader.Sound
  | .writer _ => True

/-- The task inside is ready for a response. -/
def Ready (task : MailboxTask) (pdu : Option (Command × ℕ)) : Prop :=
  match task.inner with
  | .reader reader => reader.Ready pdu
  | .writer writer => writer.Ready pdu

lemma waitResult_stateAfter (inner : Inner)
    (outcome : Except (TaskError MailboxTaskError) Unit) :
    (⟨stateAfter (some outcome), inner⟩ : MailboxTask).waitResult = some outcome := by
  rcases outcome with e | _ <;> rfl

lemma ready_of_sound_none {task : MailboxTask} (h : task.Sound) : task.Ready none := by
  obtain ⟨state, reader | writer⟩ := task
  · exact ⟨h, fun _ _ _ _ _ hpdu => by cases hpdu⟩
  · exact ⟨fun _ _ _ _ _ hpdu => by cases hpdu⟩

lemma ready_of_nextPdu {task task' : MailboxTask} {pdu : Option (Command × ℕ)}
    {buf buf' : List UInt8} (h : task.Sound) (hnext : task.nextPdu buf = .ok ((pdu, buf'), task')) :
    task'.Ready pdu := by
  by_cases hbusy : task.isBusy = true
  · have hstate := state_of_busy hbusy
    obtain ⟨state, reader | writer⟩ := task
    · cases hstate
      obtain ⟨reader', hnext', rfl⟩ := nextPdu_reader hnext
      exact MailboxReadTask.ready_of_nextPdu h hnext'
    · cases hstate
      obtain ⟨writer', hnext', rfl⟩ := nextPdu_writer hnext
      exact MailboxWriteTask.ready_of_nextPdu hnext'
  · obtain ⟨rfl, rfl, -⟩ := (nextPdu_spec hnext).2 (Bool.eq_false_of_not_eq_true hbusy)
    exact ready_of_sound_none h

lemma sound_of_recieveAndProcess {task task' : MailboxTask} {recv : Pdu} {time : ℕ}
    (h : task.Sound) (hrecieve : task.recieveAndProcess recv time = .ok task') : task'.Sound := by
  by_cases hbusy : task.isBusy = true
  · have hstate := state_of_busy hbusy
    obtain ⟨state, reader | writer⟩ := task
    · cases hstate
      obtain ⟨reader', hrecieve', rfl⟩ := recieveAndProcess_reader hrecieve
      exact MailboxReadTask.sound_of_recieveAndProcess h hrecieve'
    · cases hstate
      obtain ⟨writer', -, rfl⟩ := recieveAndProcess_writer hrecieve
      trivial
  · unfold recieveAndProcess at hrecieve
    unfold isBusy at hbusy
    split at hrecieve <;> simp_all

lemma nextPdu_of_waitResult {task : MailboxTask}
    {outcome : Except (TaskError MailboxTaskError) Unit} (h : task.waitResult = some outcome)
    (buf : List UInt8) : task.nextPdu buf = .ok ((none, buf), task) := by
  refine nextPdu_of_not_busy ?_ buf
  unfold waitResult at h
  unfold isBusy
  split at h
  · next hstate => rw [hstate]
  · next hstate => rw [hstate]
  · cases h

lemma replaces : ending.Replaces Sound Ready (.error .timeout) where
  sound {task pdu} h := by
    obtain ⟨state, reader | writer⟩ := task
    · exact h.sound
    · trivial
  ready := ready_of_nextPdu
  recieve := sound_of_recieveAndProcess
  rest := nextPdu_of_waitResult
  ne_tooLate {task recv outcome} h := by
    change task.decides recv = some outcome at h
    unfold decides at h
    split at h
    · exact MailboxReadTask.decides_ne_timeout h
    · exact MailboxWriteTask.decides_ne_timeout h
    · cases h
  decided {task command size recv outcome} time hready hlength hdecides := by
    change task.decides recv = some outcome at hdecides
    obtain ⟨state, reader | writer⟩ := task
    · cases state with
      | processing =>
        obtain ⟨reader', hrecieve, hresult⟩ :=
          MailboxReadTask.replaces.decided time hready hlength hdecides
        refine ⟨_, bind_eq_ok.mpr ⟨reader', hrecieve, rfl⟩, ?_⟩
        change reader'.waitResult = _ at hresult
        rw [hresult]
        exact waitResult_stateAfter _ _
      | error | idle | complete => cases hdecides
    · cases state with
      | processing =>
        obtain ⟨writer', hrecieve, hresult⟩ :=
          MailboxWriteTask.replaces.decided time hready hlength hdecides
        refine ⟨_, bind_eq_ok.mpr ⟨writer', hrecieve, rfl⟩, ?_⟩
        change writer'.waitResult = _ at hresult
        rw [hresult]
        exact waitResult_stateAfter _ _
      | error | idle | complete => cases hdecides

end MailboxTask

/-! ## Runs -/

/-- **When the outcome of a mailbox transfer is reported.**  In every run of a read, of a write and
of the master's task for either: `wait` returns what the responses decide exactly if no response
that decides comes after the limit. -/
theorem alongReports_iff_alongInTime (slaveAddress : SlaveAddress) (sm : SyncManager) (wait : Bool)
    (dataBuf : List UInt8) (replies : List Reply) :
    (∀ (task : MailboxReadTask) (_ : task.activationBuf.length = SyncManagerActivation.size),
      Transition.Along Driven.step MailboxReadTask.ending.Reports
          ⟨task.start slaveAddress sm wait, .new dataBuf⟩ replies ↔
        Transition.Along Driven.step MailboxReadTask.ending.InTime
          ⟨task.start slaveAddress sm wait, .new dataBuf⟩ replies) ∧
    (∀ task : MailboxWriteTask,
      Transition.Along Driven.step MailboxWriteTask.ending.Reports
          ⟨task.start slaveAddress sm wait, .new dataBuf⟩ replies ↔
        Transition.Along Driven.step MailboxWriteTask.ending.InTime
          ⟨task.start slaveAddress sm wait, .new dataBuf⟩ replies) ∧
    ∀ task : MailboxTask,
      ∀ started ∈ [task.startToRead slaveAddress sm wait, task.startToWrite slaveAddress sm wait],
        Transition.Along Driven.step MailboxTask.ending.Reports ⟨started, .new dataBuf⟩ replies ↔
          Transition.Along Driven.step MailboxTask.ending.InTime ⟨started, .new dataBuf⟩
            replies := by
  refine ⟨fun task htask => ?_, fun task => ?_, fun task started hstarted => ?_⟩
  · have hready : (task.start slaveAddress sm wait).Ready none :=
      ⟨htask, fun _ _ _ _ _ hpdu => by cases hpdu⟩
    exact Ending.along_reports_iff MailboxReadTask.replaces ⟨none, dataBuf, rfl, hready⟩ replies
  · have hready : (task.start slaveAddress sm wait).Ready none :=
      ⟨fun _ _ _ _ _ hpdu => by cases hpdu⟩
    exact Ending.along_reports_iff MailboxWriteTask.replaces ⟨none, dataBuf, rfl, hready⟩ replies
  · have hready : started.Ready none := by
      refine MailboxTask.ready_of_sound_none ?_
      rcases List.mem_cons.mp hstarted with rfl | hstarted
      · rfl
      · cases List.mem_singleton.mp hstarted
        trivial
    exact Ending.along_reports_iff MailboxTask.replaces ⟨none, dataBuf, rfl, hready⟩ replies

/-! ## A read that is answered late -/

/-- The mailbox is reported full at this time, and read more than two seconds later. -/
def lateRead (time : ℕ) : List Reply :=
  [⟨id, time⟩, ⟨fun pdu => { pdu with data := [0x08, 0], wkc := 1 }, time⟩,
    ⟨fun pdu => { pdu with data := [0xAA, 0xBB], wkc := 1 }, time + 2000000001⟩]

/-- The message has left the slave and is in the buffer, and `wait` returns `Timeout`. -/
theorem lateRead_not_reports :
    ¬ Transition.Along Driven.step MailboxReadTask.ending.Reports
        ⟨MailboxReadTask.new.start (.slavePosition 0) ⟨1, 2, 0x1000⟩ true, .new [0, 0]⟩
        (lateRead 1) ∧
      (Transition.run Driven.step
        ⟨MailboxReadTask.new.start (.slavePosition 0) ⟨1, 2, 0x1000⟩ true, .new [0, 0]⟩
        (lateRead 1)).toOption.map (fun d => (d.task.waitResult, d.socket.dataBuf)) =
          some (some (.error .timeout), [0xAA, 0xBB]) := by
  have hrun : (Transition.run Driven.step
      ⟨MailboxReadTask.new.start (.slavePosition 0) ⟨1, 2, 0x1000⟩ true, .new [0, 0]⟩
      (lateRead 1)).toOption.map (fun d => (d.task.waitResult, d.socket.dataBuf)) =
        some (some (.error .timeout), [0xAA, 0xBB]) := by decide +kernel
  refine ⟨fun halong => ?_, hrun⟩
  have hdecided : (Transition.run Driven.step
      ⟨MailboxReadTask.new.start (.slavePosition 0) ⟨1, 2, 0x1000⟩ true, .new [0, 0]⟩
      ((lateRead 1).take 2)).toOption.map (fun d => (d.seen (lateRead 1)[2]).bind d.task.decides) =
        some (some (.ok ())) := by decide +kernel
  have hsplit : lateRead 1 = (lateRead 1).take 2 ++ [(lateRead 1)[2]] := rfl
  rw [hsplit] at halong hrun
  obtain ⟨-, hlast⟩ := Transition.along_append_iff.mp halong
  rcases hfirst : Transition.run Driven.step
    ⟨MailboxReadTask.new.start (.slavePosition 0) ⟨1, 2, 0x1000⟩ true, .new [0, 0]⟩
    ((lateRead 1).take 2) with e | d
  · rw [hfirst] at hdecided
    cases hdecided
  · rw [hfirst] at hdecided
    obtain ⟨recv, hseen, hdecides⟩ := Option.bind_eq_some_iff.mp (Option.some.inj hdecided)
    obtain ⟨d', hstep, hresult⟩ := (hlast d hfirst).1 recv (.ok ()) hseen hdecides
    have hwhole := Transition.run_append_eq_ok_iff.mpr
      ⟨d, hfirst, Transition.run_cons_eq_ok_iff.mpr ⟨d', hstep, Transition.run_nil d'⟩⟩
    rw [hwhole] at hrun
    change d'.task.waitResult = _ at hresult
    have htimeout : d'.task.waitResult = some (.error .timeout) :=
      congrArg Prod.fst (Option.some.inj hrun)
    rw [htimeout] at hresult
    cases hresult

/-- The same transfer with all responses at one time. -/
theorem promptRead_reports :
    Transition.Along Driven.step MailboxReadTask.ending.Reports
      ⟨MailboxReadTask.new.start (.slavePosition 0) ⟨1, 2, 0x1000⟩ true, .new [0, 0]⟩
      ((lateRead 1).map fun reply => { reply with time := 1 }) :=
  ((alongReports_iff_alongInTime (.slavePosition 0) ⟨1, 2, 0x1000⟩ true [0, 0] _).1 .new rfl).mpr
    (by decide +kernel)

end EtherCat
