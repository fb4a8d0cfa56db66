import EtherCat.Task.AlStateTransferRun
import EtherCat.Task.Exchange

/-!
# What a step of `AlStateTransferTask` does

The steps of the task when each response has the expected command and working counter, state by
state: which PDU is out, and what the response makes of the state.
-/

namespace EtherCat

open Rust Rust.Exec BitField CyclicTask

namespace AlStateTransferTask

/-- The AL status that a reply shows. -/
def statusShown (slaveAddress : TargetSlave) (reply : Reply) : List UInt8 :=
  overwrite (List.replicate AlStatus.size 0) (reply.respond
    ⟨.newRead slaveAddress AlStatus.address, List.replicate AlStatus.size 0, 0⟩).data

/-- The state in that status. -/
def stateShown (slaveAddress : TargetSlave) (reply : Reply) : AlState :=
  .ofU8 (.ofNat (AlStatus.state.val (statusShown slaveAddress reply)))

/-- Its error flag. -/
def errorShown (slaveAddress : TargetSlave) (reply : Reply) : Bool :=
  AlStatus.changeErr.val (statusShown slaveAddress reply) != 0

/-- Its status code, if it is a listed one. -/
def codeShown (slaveAddress : TargetSlave) (reply : Reply) : Option AlStatusCode :=
  AlStatusCode.tryFrom (.ofNat (AlStatus.alStatusCode.val (statusShown slaveAddress reply)))

/-- The PDU of the state of the task is out. -/
structure Asking (slaveAddress : TargetSlave) (targetAl : AlState) (task : AlStateTransferTask)
    (size : ℕ) (buf : List UInt8) : Prop where
  slaveAddress_eq : task.slaveAddress = slaveAddress
  targetAl_eq : task.targetAl = targetAl
  size_le : size ≤ buf.length
  room : requiredBufferSize ≤ buf.length
  reads : task.ReadsAlStatus → task.command = .newRead slaveAddress AlStatus.address ∧
    size = AlStatus.size ∧ buf.take AlStatus.size = List.replicate AlStatus.size 0

section

variable {slaveAddress : TargetSlave} {targetAl : AlState} {task : AlStateTransferTask} {size : ℕ}
  {buf : List UInt8} {reply : Reply}

/-! ## The next PDU -/

lemma send_of_write (task : AlStateTransferTask) (command : Command) {zeroed size : ℕ}
    {write : List UInt8 → Exec (List UInt8)} {buf' : List UInt8} (hzeroed : zeroed ≤ buf.length)
    (hwrite : write (List.replicate zeroed 0 ++ buf.drop zeroed) = .ok buf') :
    task.send command zeroed size write buf =
      .ok ((some (command, size), buf'), { task with command := command }) := by
  rw [send, fillTo_eq_ok_iff.mpr ⟨hzeroed, rfl⟩, ok_bind, hwrite]
  rfl

lemma length_zeroed {zeroed : ℕ} (h : zeroed ≤ buf.length) :
    (List.replicate zeroed (0 : UInt8) ++ buf.drop zeroed).length = buf.length := by
  rw [List.length_append, List.length_replicate, List.length_drop]
  omega

lemma exists_writeAlControl (alState : AlState) (acknowledge : Bool) {data : List UInt8}
    (h : requiredBufferSize ≤ data.length) :
    ∃ data', writeAlControl alState acknowledge data = .ok data' := by
  have hstate : AlControl.state.Fits data := Nat.lt_of_lt_of_le (by decide) h
  have hacknowledge : AlControl.acknowledge.Fits data := Nat.lt_of_lt_of_le (by decide) h
  exact ⟨_, bind_eq_ok.mpr ⟨_, Field.set_of_fits hstate _,
    Field.set_of_fits (Field.fits_put.mpr hacknowledge) _⟩⟩

lemma exists_writeSiiAccess {data : List UInt8} (h : requiredBufferSize ≤ data.length) :
    ∃ data', writeSiiAccess data = .ok data' := by
  have howner : SiiAccess.owner.Fits data := Nat.lt_of_lt_of_le (by decide) h
  have hreset : SiiAccess.resetAccess.Fits data := Nat.lt_of_lt_of_le (by decide) h
  exact ⟨_, bind_eq_ok.mpr ⟨_, Field.set_of_fits howner _,
    Field.set_of_fits (Field.fits_put.mpr hreset) _⟩⟩

/-- What a busy task sends. -/
lemma exists_nextPdu (hbusy : task.isBusy = true) (hroom : requiredBufferSize ≤ buf.length) :
    ∃ command size buf', size ≤ requiredBufferSize ∧
      task.nextPdu buf = .ok ((some (command, size), buf'),
        { task with
          command := command
          timeoutMs := if task.state = .request then
            transitionTimeoutMs task.currentAlState task.targetAl else task.timeoutMs }) ∧
      (task.ReadsAlStatus → command = .newRead task.slaveAddress AlStatus.address ∧
        size = AlStatus.size ∧ buf'.take AlStatus.size = List.replicate AlStatus.size 0) := by
  have hsizes : AlStatus.size ≤ buf.length ∧ AlControl.size ≤ buf.length ∧
      SiiAccess.size ≤ buf.length := by
    have : AlStatus.size ≤ requiredBufferSize ∧ AlControl.size ≤ requiredBufferSize ∧
      SiiAccess.size ≤ requiredBufferSize := by decide
    omega
  have hzeros : (List.replicate AlStatus.size (0 : UInt8) ++ buf.drop AlStatus.size).take
      AlStatus.size = List.replicate AlStatus.size 0 :=
    List.take_left' (List.length_replicate ..)
  have hcontrol := length_zeroed hsizes.2.1
  obtain ⟨timerStart, state, slaveAddress, targetAl, command, currentAlState, timeoutMs⟩ := task
  cases state with
  | error | idle | complete => cases hbusy
  | read | poll =>
    simp only [reduceCtorEq, if_false]
    exact ⟨_, _, _, Nat.le_max_left _ _ |>.trans (Nat.le_max_left _ _),
      send_of_write _ _ hsizes.1 rfl, fun _ => ⟨rfl, rfl, hzeros⟩⟩
  | resetError alState =>
    obtain ⟨buf', hwrite⟩ := exists_writeAlControl alState true
      ((length_zeroed hsizes.1).symm ▸ hroom)
    simp only [reduceCtorEq, if_false]
    exact ⟨_, AlControl.size, buf', by decide, send_of_write _ _ hsizes.1 hwrite,
      by rintro (hread | hread) <;> cases hread⟩
  | offAck alState =>
    obtain ⟨buf', hwrite⟩ := exists_writeAlControl alState false (hcontrol.symm ▸ hroom)
    simp only [reduceCtorEq, if_false]
    exact ⟨_, AlControl.size, buf', by decide, send_of_write _ _ hsizes.2.1 hwrite,
      by rintro (hread | hread) <;> cases hread⟩
  | resetSiiOwnership =>
    obtain ⟨buf', hwrite⟩ := exists_writeSiiAccess ((length_zeroed hsizes.2.2).symm ▸ hroom)
    simp only [reduceCtorEq, if_false]
    exact ⟨_, SiiAccess.size, buf', by decide, send_of_write _ _ hsizes.2.2 hwrite,
      by rintro (hread | hread) <;> cases hread⟩
  | request =>
    have hfits : AlControl.state.Fits (List.replicate AlControl.size 0 ++ buf.drop AlControl.size) :=
      Nat.lt_of_lt_of_le (by decide) (hcontrol.symm ▸ hroom)
    simp only [if_true]
    exact ⟨_, AlControl.size, _, by decide,
      send_of_write _ _ hsizes.2.1 (Field.set_of_fits hfits _),
      by rintro (hread | hread) <;> cases hread⟩

/-- **A busy task asks.** -/
lemma exists_ask (hbusy : task.isBusy = true) (hroom : requiredBufferSize ≤ buf.length) :
    ∃ task' size buf', Driven.ask task buf =
        .ok ⟨task', .store (some (task'.command, size)) buf'⟩ ∧
      Asking task.slaveAddress task.targetAl task' size buf' ∧ task'.state = task.state ∧
      task'.timerStart = task.timerStart ∧ task'.currentAlState = task.currentAlState ∧
      task'.timeoutMs = (if task.state = .request then
        transitionTimeoutMs task.currentAlState task.targetAl else task.timeoutMs) := by
  obtain ⟨command, size, buf', hsize, hnext, hreads⟩ := exists_nextPdu hbusy hroom
  have hlength : buf'.length = buf.length :=
    CyclicTask.length_nextPdu (T := AlStateTransferTask) hnext
  refine ⟨{ task with
      command := command
      timeoutMs := if task.state = .request then
        transitionTimeoutMs task.currentAlState task.targetAl else task.timeoutMs },
    size, buf', ?_, ⟨rfl, rfl, by omega, by omega, hreads⟩, rfl, rfl, rfl, rfl⟩
  change (task.nextPdu buf >>= _) = _
  rw [hnext]
  rfl

/-! ## The response -/

/-- **The step behind a response**: the task sees the response, accepts it, and asks again. -/
lemma Asking.step {task : AlStateTransferTask} (h : Asking slaveAddress targetAl task size buf)
    (hreply : Confirms slaveAddress reply) :
    ∃ recv buf', (recv.Echoes task.command ∧ recv.wkc = slaveAddress.numTargets) ∧
      (task.ReadsAlStatus → recv.data = statusShown slaveAddress reply) ∧
      buf'.length = buf.length ∧
      (⟨task, .store (some (task.command, size)) buf⟩ : Driven AlStateTransferTask).step reply =
        task.recieveAndProcess recv reply.time >>= fun task' => Driven.ask task' buf' := by
  refine ⟨Driven.shown task.command size buf reply, Driven.answered task.command size buf reply,
    hreply _, fun hreads => ?_, Driven.length_answered _ _ _ _, Driven.step_of_asking h.size_le reply⟩
  obtain ⟨hcommand, rfl, hzeros⟩ := h.reads hreads
  rw [Driven.shown, Driven.answered, take_overwrite_eq, hzeros, hcommand]
  rfl

lemma recieveAndProcess_of_accepted {recv : Pdu}
    (h : recv.Echoes task.command ∧ recv.wkc = task.slaveAddress.numTargets) (time : ℕ) :
    task.recieveAndProcess recv time =
      match task.state with
      | .idle | .error _ | .complete => .ok task
      | .read => task.processRead recv.data
      | .resetError alState => .ok { task with state := .offAck alState }
      | .offAck _ => .ok { task with state := .read }
      | .resetSiiOwnership => .ok { task with state := .request }
      | .request => .ok { task with timerStart := time, state := .poll }
      | .poll => task.processPoll recv.data time := by
  have hchecked : task.checked recv = task := by rw [checked, checkedState_of_accepted _ h]
  rcases hstate : task.state
  all_goals simp only [recieveAndProcess, hchecked, hstate]

/-- What the response makes of the task, if it is accepted and shows the AL status. -/
def Becomes (slaveAddress : TargetSlave) (reply : Reply) (task next : AlStateTransferTask) : Prop :=
  ∀ recv : Pdu, (recv.Echoes task.command ∧ recv.wkc = slaveAddress.numTargets) →
    (task.ReadsAlStatus → recv.data = statusShown slaveAddress reply) →
    task.recieveAndProcess recv reply.time = .ok next

/-- A step to a busy task. -/
lemma Asking.step_busy {next : AlStateTransferTask}
    (h : Asking slaveAddress targetAl task size buf) (hreply : Confirms slaveAddress reply)
    (hnext : Becomes slaveAddress reply task next) (hbusy : next.isBusy = true)
    (haddress : next.slaveAddress = slaveAddress) (htarget : next.targetAl = targetAl) :
    ∃ task' size' buf',
      (⟨task, .store (some (task.command, size)) buf⟩ : Driven AlStateTransferTask).step reply =
        .ok ⟨task', .store (some (task'.command, size')) buf'⟩ ∧
      Asking slaveAddress targetAl task' size' buf' ∧ task'.state = next.state ∧
      task'.timerStart = next.timerStart ∧ task'.currentAlState = next.currentAlState ∧
      task'.timeoutMs = (if next.state = .request then
        transitionTimeoutMs next.currentAlState next.targetAl else next.timeoutMs) := by
  obtain ⟨recv, answered, haccepted, hreads, hlength, hstep⟩ := h.step hreply
  rw [hstep, hnext recv haccepted hreads, ok_bind]
  obtain ⟨task', size', buf', hask, hasking, hrest⟩ := exists_ask hbusy (hlength ▸ h.room)
  rw [haddress, htarget] at hasking
  exact ⟨task', size', buf', hask, hasking, hrest⟩

/-- A step to a task that is done. -/
lemma Asking.step_done {next : AlStateTransferTask}
    (h : Asking slaveAddress targetAl task size buf) (hreply : Confirms slaveAddress reply)
    (hnext : Becomes slaveAddress reply task next) (hdone : next.isBusy = false) :
    ∃ buf',
      (⟨task, .store (some (task.command, size)) buf⟩ : Driven AlStateTransferTask).step reply =
        .ok ⟨next, .store none buf'⟩ := by
  obtain ⟨recv, answered, haccepted, hreads, hlength, hstep⟩ := h.step hreply
  refine ⟨answered, ?_⟩
  have hnone : next.nextPdu answered = .ok ((none, answered), next) := by
    rcases hstate : next.state with e | _ | _ | _ | _ | _ | _ | _ | _ <;>
      simp only [isBusy, hstate, Bool.true_eq_false] at hdone <;> simp only [nextPdu, hstate]
  rw [hstep, hnext recv haccepted hreads, ok_bind]
  change (next.nextPdu answered >>= _) = _
  rw [hnone]
  rfl

lemma fits_statusShown (slaveAddress : TargetSlave) (reply : Reply) {f : Field}
    (hf : f.msb / 8 < AlStatus.size) : f.Fits (statusShown slaveAddress reply) := by
  rwa [Field.Fits, statusShown, length_overwrite, List.length_replicate]

/-- The states without a look at the data. -/
lemma becomes_of_write (h : Asking slaveAddress targetAl task size buf) (reply : Reply) :
    (∀ alState, task.state = .resetError alState →
      Becomes slaveAddress reply task { task with state := .offAck alState }) ∧
    (∀ alState, task.state = .offAck alState →
      Becomes slaveAddress reply task { task with state := .read }) ∧
    (task.state = .resetSiiOwnership →
      Becomes slaveAddress reply task { task with state := .request }) ∧
    (task.state = .request → Becomes slaveAddress reply task
      { task with timerStart := reply.time, state := .poll }) := by
  refine ⟨fun alState hstate recv haccepted _ => ?_, fun alState hstate recv haccepted _ => ?_,
    fun hstate recv haccepted _ => ?_, fun hstate recv haccepted _ => ?_⟩
  all_goals
    rw [← h.slaveAddress_eq] at haccepted
    rw [recieveAndProcess_of_accepted haccepted, hstate]

/-- The first AL status. -/
lemma becomes_of_read (h : Asking slaveAddress targetAl task size buf) (reply : Reply)
    (hstate : task.state = .read) :
    Becomes slaveAddress reply task
      { task with
        currentAlState := stateShown slaveAddress reply
        state := if stateShown slaveAddress reply = targetAl then .complete
          else if errorShown slaveAddress reply then
            .resetError (if stateShown slaveAddress reply = .invalidOrMixed then .init
              else stateShown slaveAddress reply)
          else .resetSiiOwnership } := by
  intro recv haccepted hreads
  rw [← h.slaveAddress_eq] at haccepted
  rw [recieveAndProcess_of_accepted haccepted, hstate]
  have hstateFits := fits_statusShown slaveAddress reply (f := AlStatus.state) (by decide)
  have herrorFits := fits_statusShown slaveAddress reply (f := AlStatus.changeErr) (by decide)
  simp only [processRead, hreads (.inl hstate), Field.get_of_fits hstateFits,
    Field.getBool_of_fits herrorFits, ok_bind, h.targetAl_eq]
  change (if stateShown slaveAddress reply = targetAl then _ else
    if errorShown slaveAddress reply then _ else _) = _
  by_cases htarget : stateShown slaveAddress reply = targetAl
  · rw [if_pos htarget, if_pos htarget]
    rfl
  · rw [if_neg htarget, if_neg htarget]
    by_cases herror : errorShown slaveAddress reply = true
    · rw [if_pos herror, if_pos herror]
      rfl
    · rw [if_neg herror, if_neg herror]
      rfl

/-- An AL status behind the request, if it shows neither the target state nor an error with an
unknown code. -/
lemma becomes_of_poll (h : Asking slaveAddress targetAl task size buf) (reply : Reply)
    (hstate : task.state = .poll)
    (hcode : errorShown slaveAddress reply = true → (codeShown slaveAddress reply).isSome) :
    ∃ next, Becomes slaveAddress reply task next ∧
      if stateShown slaveAddress reply = targetAl ∨ errorShown slaveAddress reply = true then
        next.isBusy = false
      else next = { task with
        currentAlState := stateShown slaveAddress reply
        state := if task.timeoutMs * 1000000000 < reply.time - task.timerStart then .error .timeout
          else .poll } := by
  have hstateFits := fits_statusShown slaveAddress reply (f := AlStatus.state) (by decide)
  have herrorFits := fits_statusShown slaveAddress reply (f := AlStatus.changeErr) (by decide)
  have hcodeFits := fits_statusShown slaveAddress reply (f := AlStatus.alStatusCode) (by decide)
  have hprocess : ∀ recv : Pdu, (recv.Echoes task.command ∧ recv.wkc = slaveAddress.numTargets) →
      (task.ReadsAlStatus → recv.data = statusShown slaveAddress reply) →
      task.recieveAndProcess recv reply.time =
        task.processPoll (statusShown slaveAddress reply) reply.time := by
    intro recv haccepted hreads
    rw [← h.slaveAddress_eq] at haccepted
    rw [recieveAndProcess_of_accepted haccepted, hstate, hreads (.inr hstate)]
  have hpoll : task.processPoll (statusShown slaveAddress reply) reply.time =
      if targetAl = stateShown slaveAddress reply then
        .ok { task with currentAlState := stateShown slaveAddress reply, state := .complete }
      else if errorShown slaveAddress reply then do
        let alStatusCode ← unwrap (codeShown slaveAddress reply)
        .ok { task with
          currentAlState := stateShown slaveAddress reply
          state := .error (.taskSpecific
            (.alStatusCode (stateShown slaveAddress reply) alStatusCode)) }
      else if task.timerStart < reply.time ∧
          task.timeoutMs * 1000000000 < reply.time - task.timerStart then
        .ok { task with currentAlState := stateShown slaveAddress reply, state := .error .timeout }
      else .ok { task with currentAlState := stateShown slaveAddress reply } := by
    simp only [processPoll, Field.get_of_fits hstateFits, Field.getBool_of_fits herrorFits,
      Field.get_of_fits hcodeFits, ok_bind, h.targetAl_eq]
    rfl
  have hlate : (task.timerStart < reply.time ∧
      task.timeoutMs * 1000000000 < reply.time - task.timerStart) ↔
        task.timeoutMs * 1000000000 < reply.time - task.timerStart := by omega
  suffices ∃ next, task.processPoll (statusShown slaveAddress reply) reply.time = .ok next ∧
      if stateShown slaveAddress reply = targetAl ∨ errorShown slaveAddress reply = true then
        next.isBusy = false
      else next = { task with
        currentAlState := stateShown slaveAddress reply
        state := if task.timeoutMs * 1000000000 < reply.time - task.timerStart then .error .timeout
          else .poll } by
    obtain ⟨next, hnext, hshape⟩ := this
    exact ⟨next, fun recv haccepted hreads => (hprocess recv haccepted hreads).trans hnext, hshape⟩
  rw [hpoll]
  by_cases htarget : stateShown slaveAddress reply = targetAl
  · rw [if_pos htarget.symm]
    refine ⟨_, rfl, ?_⟩
    rw [if_pos (Or.inl htarget)]
    rfl
  rw [if_neg (Ne.symm htarget)]
  by_cases herror : errorShown slaveAddress reply = true
  · obtain ⟨code, hsome⟩ := Option.isSome_iff_exists.mp (hcode herror)
    rw [if_pos herror, hsome]
    refine ⟨_, rfl, ?_⟩
    rw [if_pos (Or.inr herror)]
    rfl
  · rw [if_neg herror]
    by_cases hpassed : task.timeoutMs * 1000000000 < reply.time - task.timerStart
    · rw [if_pos (hlate.mpr hpassed)]
      refine ⟨_, rfl, ?_⟩
      rw [if_neg (not_or.mpr ⟨htarget, herror⟩), if_pos hpassed]
    · rw [if_neg (fun h => hpassed (hlate.mp h))]
      refine ⟨_, rfl, ?_⟩
      rw [if_neg (not_or.mpr ⟨htarget, herror⟩), if_neg hpassed, ← hstate]

end

end AlStateTransferTask

end EtherCat
