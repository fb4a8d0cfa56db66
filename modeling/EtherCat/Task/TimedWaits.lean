import EtherCat.Foundation.Deadline
import EtherCat.Task.AlStateTransferStops
import EtherCat.Task.SiiRead

/-!
# How long the tasks wait

A change of state waits for the target state, and a read of the EEPROM for the end of the read
operation.  Both give up at the first response that comes too late, but neither limit is the number
of milliseconds that it is named after: the one is taken a thousand times as long, and the other a
thousand times as short (`timesOutOnTime_iff`).
-/

namespace EtherCat

open Rust Rust.Exec BitField CyclicTask Deadline

/-- **What is promised of a wait**, from the response that starts it on: behind each of the
following responses the task is timed out exactly if one of them came more than the limit later. -/
def TimesOutOnTime {T S : Type} [CyclicTask T] (state : T → S) (waiting timedOut : S) (limit : ℕ)
    (d : Driven T) (first : Reply) (replies : List Reply) : Prop :=
  ∀ k ≤ replies.length, ∃ d', Transition.run Driven.step d (first :: replies.take k) = .ok d' ∧
    state d'.task = if Passed limit first.time ((replies.take k).map Reply.time) then timedOut
      else waiting

/-- A wait with one limit keeps the promise for another. -/
lemma timesOutOnTime_iff_of_limit {T S : Type} [CyclicTask T] {state : T → S} {waiting timedOut : S}
    (hne : waiting ≠ timedOut) {limit : ℕ} {d : Driven T} {first : Reply} {replies : List Reply}
    (hmono : (replies.map Reply.time).Pairwise (· ≤ ·))
    (h : TimesOutOnTime state waiting timedOut limit d first replies) (promised : ℕ) :
    TimesOutOnTime state waiting timedOut promised d first replies ↔
      ∀ reply ∈ replies, (limit < reply.time - first.time ↔ promised < reply.time - first.time) := by
  have hagree := passed_take_iff hmono first.time limit promised
  simp only [List.length_map, List.forall_mem_map] at hagree
  rw [← hagree]
  constructor
  · intro hpromised k hk
    obtain ⟨d', hrun, hstate⟩ := h k hk
    obtain ⟨d'', hrun', hstate'⟩ := hpromised k hk
    rw [hrun] at hrun'
    cases hrun'
    rw [hstate, List.map_take] at hstate'
    by_cases hlate : Passed limit first.time ((replies.map Reply.time).take k) <;>
      by_cases hlate' : Passed promised first.time ((replies.map Reply.time).take k) <;>
      simp only [hlate, hlate', if_true, if_false] at hstate' ⊢
    · exact absurd hstate'.symm hne
    · exact absurd hstate' hne
  · intro hpassed k hk
    obtain ⟨d', hrun, hstate⟩ := h k hk
    refine ⟨d', hrun, hstate.trans ?_⟩
    rw [List.map_take, if_congr (hpassed k hk) rfl rfl]

namespace AlStateTransferTask

/-- The response shows neither the target state nor an error. -/
structure ShowsNeither (slaveAddress : TargetSlave) (targetAl : AlState) (reply : Reply) : Prop where
  confirms : Confirms slaveAddress reply
  state_ne : stateShown slaveAddress reply ≠ targetAl
  error_eq : errorShown slaveAddress reply = false

/-- The request for the target state is out. -/
structure Requests (slaveAddress : TargetSlave) (targetAl : AlState)
    (d : Driven AlStateTransferTask) : Prop where
  asking : ∃ size buf, d.socket = .store (some (d.task.command, size)) buf ∧
    Asking slaveAddress targetAl d.task size buf
  state_eq : d.task.state = .request
  timeoutMs_eq : d.task.timeoutMs = transitionTimeoutMs d.task.currentAlState targetAl

/-- The AL status is asked for since this time. -/
structure Polls (slaveAddress : TargetSlave) (targetAl : AlState) (timeoutMs start : ℕ)
    (d : Driven AlStateTransferTask) : Prop where
  asking : ∃ size buf, d.socket = .store (some (d.task.command, size)) buf ∧
    Asking slaveAddress targetAl d.task size buf
  state_eq : d.task.state = .poll
  timerStart_eq : d.task.timerStart = start
  timeoutMs_eq : d.task.timeoutMs = timeoutMs

/-- The task is timed out. -/
structure IsTimedOut (d : Driven AlStateTransferTask) : Prop where
  socket_eq : ∃ buf, d.socket = .store none buf
  state_eq : d.task.state = .error .timeout

section

variable {slaveAddress : TargetSlave} {targetAl : AlState} {d : Driven AlStateTransferTask}
  {timeoutMs start : ℕ}

lemma isTimedOut_step (h : IsTimedOut d) (reply : Reply) :
    ∃ d', d.step reply = .ok d' ∧ IsTimedOut d' := by
  obtain ⟨task, socket⟩ := d
  obtain ⟨⟨buf, rfl⟩, hstate⟩ := h
  refine ⟨⟨task, .store none buf⟩, ?_, ⟨buf, rfl⟩, hstate⟩
  rw [Driven.step_of_silent]
  change (task.nextPdu buf >>= _) = _
  rw [nextPdu, hstate]
  rfl

lemma requests_step (h : Requests slaveAddress targetAl d) {first : Reply}
    (hfirst : Confirms slaveAddress first) :
    ∃ d', d.step first = .ok d' ∧
      Polls slaveAddress targetAl d.task.timeoutMs first.time d' := by
  obtain ⟨task, socket⟩ := d
  obtain ⟨⟨size, buf, hsocket, hasking⟩, hstate, -⟩ := h
  change socket = .store (some (task.command, size)) buf at hsocket
  subst hsocket
  obtain ⟨task', size', buf', hstep, hasking', hstate', htimer', -, htimeout'⟩ :=
    hasking.step_busy hfirst ((becomes_of_write hasking first).2.2.2 hstate) rfl
      hasking.slaveAddress_eq hasking.targetAl_eq
  exact ⟨_, hstep, ⟨size', buf', rfl, hasking'⟩, hstate', htimer', htimeout'⟩

lemma polls_step (h : Polls slaveAddress targetAl timeoutMs start d) {reply : Reply}
    (hreply : ShowsNeither slaveAddress targetAl reply) :
    ∃ d', d.step reply = .ok d' ∧
      if timeoutMs * 1000000000 < reply.time - start then IsTimedOut d'
      else Polls slaveAddress targetAl timeoutMs start d' := by
  obtain ⟨task, socket⟩ := d
  obtain ⟨⟨size, buf, hsocket, hasking⟩, hstate, rfl, rfl⟩ := h
  change socket = .store (some (task.command, size)) buf at hsocket
  subst hsocket
  obtain ⟨hconfirms, hne, herror⟩ := hreply
  obtain ⟨next, hnext, hshape⟩ := becomes_of_poll hasking reply hstate
    (fun h => by rw [herror] at h; cases h)
  rw [if_neg (by rw [herror]; simpa using hne)] at hshape
  by_cases hlate : task.timeoutMs * 1000000000 < reply.time - task.timerStart
  · rw [if_pos hlate] at hshape
    obtain ⟨buf', hstep⟩ := hasking.step_done hconfirms hnext (by rw [hshape]; rfl)
    refine ⟨_, hstep, ?_⟩
    rw [if_pos hlate]
    exact ⟨⟨buf', rfl⟩, by rw [hshape]⟩
  · rw [if_neg hlate] at hshape
    obtain ⟨task', size', buf', hstep, hasking', hstate', htimer', -, htimeout'⟩ :=
      hasking.step_busy hconfirms hnext (by rw [hshape]; rfl)
        (by rw [hshape]; exact hasking.slaveAddress_eq) (by rw [hshape]; exact hasking.targetAl_eq)
    rw [hshape] at hstate' htimer' htimeout'
    refine ⟨_, hstep, ?_⟩
    rw [if_neg hlate]
    exact ⟨⟨size', buf', rfl, hasking'⟩, hstate', htimer', htimeout'⟩

/-- The limit of the code, in nanoseconds. -/
lemma timesOutOnTime_code (h : Requests slaveAddress targetAl d) (first : Reply)
    {replies : List Reply} (hfirst : Confirms slaveAddress first)
    (hreplies : ∀ reply ∈ replies, ShowsNeither slaveAddress targetAl reply) :
    TimesOutOnTime AlStateTransferTask.state .poll (.error .timeout)
      (d.task.timeoutMs * 1000000000) d first replies := by
  intro k _
  obtain ⟨d₁, hstep, hpolls⟩ := requests_step h hfirst
  obtain ⟨d', hrun, hstate⟩ := run_of_waits Reply.time (d.task.timeoutMs * 1000000000)
    first.time (Polls slaveAddress targetAl d.task.timeoutMs first.time) IsTimedOut
    (fun _ _ hpolls hreply => polls_step hpolls hreply)
    (fun _ reply htimedOut => isTimedOut_step htimedOut reply)
    (fun reply hmem => hreplies reply (List.mem_of_mem_take hmem)) hpolls
  refine ⟨d', Transition.run_cons_eq_ok_iff.mpr ⟨d₁, hstep, hrun⟩, ?_⟩
  split at hstate
  · next hpassed => rw [if_pos hpassed, hstate.state_eq]
  · next hpassed => rw [if_neg hpassed, hstate.state_eq]

end

end AlStateTransferTask

namespace SiiReader

/-- The `SiiControl` register that a reply shows. -/
def controlShown (slaveAddress : SlaveAddress) (reply : Reply) : List UInt8 :=
  overwrite (List.replicate SiiControl.size 0) (reply.respond
    ⟨.newRead (.single slaveAddress) SiiControl.address, List.replicate SiiControl.size 0, 0⟩).data

/-- The response shows a read operation that is neither at its end nor in error. -/
structure ShowsPending (slaveAddress : SlaveAddress) (reply : Reply) : Prop where
  confirms : Confirms (.single slaveAddress) reply
  noError : SiiControl.commandError.val (controlShown slaveAddress reply) = 0
  pending : SiiControl.busy.val (controlShown slaveAddress reply) ≠ 0 ∨
    SiiControl.readOperation.val (controlShown slaveAddress reply) ≠ 0

/-- The order of the read operation is out. -/
structure Orders (slaveAddress : SlaveAddress) (d : Driven SiiReader) : Prop where
  asking : ∃ size buf, d.socket = .store (some (d.task.command, size)) buf ∧ size ≤ buf.length ∧
    requiredBufferSize ≤ buf.length
  slaveAddress_eq : d.task.slaveAddress = slaveAddress
  state_eq : d.task.state = .setReadOperation

/-- The end of the read operation is waited for since this time. -/
structure Waits (slaveAddress : SlaveAddress) (start : ℕ) (d : Driven SiiReader) : Prop where
  asking : ∃ buf, d.socket = .store (some (d.task.command, SiiControl.size)) buf ∧
    requiredBufferSize ≤ buf.length ∧
    buf.take SiiControl.size = List.replicate SiiControl.size 0
  command_eq : d.task.command = .newRead (.single slaveAddress) SiiControl.address
  slaveAddress_eq : d.task.slaveAddress = slaveAddress
  state_eq : d.task.state = .wait
  timerStart_eq : d.task.timerStart = start

/-- The reader has ended with a timeout, and no PDU is out. -/
structure IsTimedOut (d : Driven SiiReader) : Prop where
  socket_eq : ∃ buf, d.socket = .store none buf
  state_eq : d.task.state = .error .timeout

section

variable {slaveAddress : SlaveAddress} {d : Driven SiiReader} {task : SiiReader} {start : ℕ}
  {buf : List UInt8} {reply : Reply}

lemma isTimedOut_ask (hstate : task.state = .error .timeout) (buf : List UInt8) :
    Driven.ask task buf = .ok ⟨task, .store none buf⟩ := by
  change (task.nextPdu buf >>= _) = _
  rw [nextPdu, hstate]
  rfl

lemma isTimedOut_step (h : IsTimedOut d) (reply : Reply) :
    ∃ d', d.step reply = .ok d' ∧ IsTimedOut d' := by
  obtain ⟨task, socket⟩ := d
  obtain ⟨⟨buf, rfl⟩, hstate⟩ := h
  refine ⟨_, ?_, ⟨buf, rfl⟩, hstate⟩
  rw [Driven.step_of_silent]
  exact isTimedOut_ask hstate buf

/-- A waiting reader reads `SiiControl` again. -/
lemma waits_ask (haddress : task.slaveAddress = slaveAddress) (hstate : task.state = .wait)
    (hroom : requiredBufferSize ≤ buf.length) :
    ∃ d', Driven.ask task buf = .ok d' ∧ Waits slaveAddress task.timerStart d' := by
  have hsize : SiiControl.size ≤ buf.length := Nat.le_trans (by decide) hroom
  have hzeros : (List.replicate SiiControl.size (0 : UInt8) ++ buf.drop SiiControl.size).take
      SiiControl.size = List.replicate SiiControl.size 0 :=
    List.take_left' (List.length_replicate ..)
  have hnext : task.nextPdu buf = task.send (.newRead (.single slaveAddress) SiiControl.address)
      SiiControl.size .ok buf := by
    rw [nextPdu, hstate, haddress]
  have hask : Driven.ask task buf = .ok ⟨{ task with
      command := .newRead (.single slaveAddress) SiiControl.address },
      .store (some (.newRead (.single slaveAddress) SiiControl.address, SiiControl.size))
        (overwrite (List.replicate SiiControl.size 0 ++ buf.drop SiiControl.size)
          (List.replicate SiiControl.size 0))⟩ := by
    change (task.nextPdu buf >>= _) = _
    rw [hnext, send, request, fillTo_eq_ok_iff.mpr ⟨hsize, rfl⟩, ok_bind, hzeros]
    rfl
  refine ⟨_, hask, ⟨_, rfl, ?_, ?_⟩, rfl, haddress, hstate, rfl⟩
  · rw [length_overwrite, List.length_append, List.length_replicate, List.length_drop]
    omega
  · rw [take_overwrite_eq, hzeros]
    exact overwrite_of_length_eq rfl

lemma orders_step (h : Orders slaveAddress d) {first : Reply}
    (hfirst : Confirms (.single slaveAddress) first) :
    ∃ d', d.step first = .ok d' ∧ Waits slaveAddress first.time d' := by
  obtain ⟨task, socket⟩ := d
  obtain ⟨⟨size, buf, hsocket, hsize, hroom⟩, haddress, hstate⟩ := h
  change socket = .store (some (task.command, size)) buf at hsocket
  subst hsocket
  have haccepted : (Driven.shown task.command size buf first).Echoes task.command ∧
      (Driven.shown task.command size buf first).wkc = 1 := hfirst _
  have hrecieve : task.recieveAndProcess (Driven.shown task.command size buf first) first.time =
      .ok { task with state := .wait, timerStart := first.time } := by
    have hchecked : task.checked (Driven.shown task.command size buf first) = task := by
      rw [checked, checkedState_of_accepted _ haccepted]
    simp only [recieveAndProcess, hchecked]
    rw [show task.state = .setReadOperation from hstate]
  rw [Driven.step_of_asking hsize]
  change ∃ d', (task.recieveAndProcess _ _ >>= _) = _ ∧ _
  rw [hrecieve, ok_bind]
  exact waits_ask haddress rfl (by rwa [Driven.length_answered])

lemma fits_controlShown (slaveAddress : SlaveAddress) (reply : Reply) {f : Field}
    (hf : f.msb / 8 < SiiControl.size) : f.Fits (controlShown slaveAddress reply) := by
  rwa [Field.Fits, controlShown, length_overwrite, List.length_replicate]

/-- What a pending read operation makes of the reader. -/
lemma processWait_of_pending (hreply : ShowsPending slaveAddress reply) :
    task.processWait (controlShown slaveAddress reply) reply.time =
      .ok { task with
        state := if timeoutMs * 1000 < reply.time - task.timerStart then .error .timeout
          else task.state } := by
  have herrorFits := fits_controlShown slaveAddress reply (f := SiiControl.commandError) (by decide)
  have hbusyFits := fits_controlShown slaveAddress reply (f := SiiControl.busy) (by decide)
  have hreadFits := fits_controlShown slaveAddress reply (f := SiiControl.readOperation) (by decide)
  have hpending : (!(SiiControl.busy.val (controlShown slaveAddress reply) != 0) &&
      !(SiiControl.readOperation.val (controlShown slaveAddress reply) != 0)) = false := by
    rcases hreply.pending with h | h <;> simp [h]
  have hlate : (task.timerStart < reply.time ∧ timeoutMs * 1000 < reply.time - task.timerStart) ↔
      timeoutMs * 1000 < reply.time - task.timerStart := by omega
  simp only [processWait, Field.getBool_of_fits herrorFits, Field.getBool_of_fits hbusyFits,
    Field.getBool_of_fits hreadFits, ok_bind, hreply.noError, hpending, bne_self_eq_false,
    Bool.false_eq_true, if_false]
  rw [if_congr hlate rfl rfl]
  split <;> rfl

lemma waits_step (h : Waits slaveAddress start d) (hreply : ShowsPending slaveAddress reply) :
    ∃ d', d.step reply = .ok d' ∧
      if timeoutMs * 1000 < reply.time - start then IsTimedOut d'
      else Waits slaveAddress start d' := by
  obtain ⟨task, socket⟩ := d
  obtain ⟨⟨buf, hsocket, hroom, hzeros⟩, hcommand, haddress, hstate, rfl⟩ := h
  change socket = .store (some (task.command, SiiControl.size)) buf at hsocket
  subst hsocket
  have hsize : SiiControl.size ≤ buf.length := Nat.le_trans (by decide) hroom
  have haccepted : (Driven.shown task.command SiiControl.size buf reply).Echoes task.command ∧
      (Driven.shown task.command SiiControl.size buf reply).wkc = 1 := hreply.confirms _
  have hdata : (Driven.shown task.command SiiControl.size buf reply).data =
      controlShown slaveAddress reply := by
    rw [Driven.shown, Driven.answered, take_overwrite_eq, hzeros, hcommand]
    rfl
  have hrecieve : task.recieveAndProcess (Driven.shown task.command SiiControl.size buf reply)
      reply.time = .ok { task with
        state := if timeoutMs * 1000 < reply.time - task.timerStart then .error .timeout
          else task.state } := by
    have hchecked : task.checked (Driven.shown task.command SiiControl.size buf reply) = task := by
      rw [checked, checkedState_of_accepted _ haccepted]
    simp only [recieveAndProcess, hchecked, hdata]
    rw [show task.state = .wait from hstate]
    dsimp only
    rw [processWait_of_pending hreply, show task.state = .wait from hstate]
  rw [Driven.step_of_asking hsize]
  change ∃ d', (task.recieveAndProcess _ _ >>= _) = _ ∧ _
  rw [hrecieve, ok_bind]
  by_cases hlate : timeoutMs * 1000 < reply.time - task.timerStart
  · simp only [hlate, if_true]
    exact ⟨_, isTimedOut_ask rfl _, ⟨_, rfl⟩, rfl⟩
  · simp only [hlate, if_false]
    exact waits_ask haddress hstate (by rwa [Driven.length_answered])

/-- The limit of the code, in nanoseconds. -/
lemma timesOutOnTime_code (h : Orders slaveAddress d) (first : Reply) {replies : List Reply}
    (hfirst : Confirms (.single slaveAddress) first)
    (hreplies : ∀ reply ∈ replies, ShowsPending slaveAddress reply) :
    TimesOutOnTime SiiReader.state .wait (.error .timeout) (timeoutMs * 1000) d first replies := by
  intro k _
  obtain ⟨d₁, hstep, hwaits⟩ := orders_step h hfirst
  obtain ⟨d', hrun, hstate⟩ := run_of_waits Reply.time (timeoutMs * 1000) first.time
    (Waits slaveAddress first.time) IsTimedOut (fun _ _ hwaits hreply => waits_step hwaits hreply)
    (fun _ reply htimedOut => isTimedOut_step htimedOut reply)
    (fun reply hmem => hreplies reply (List.mem_of_mem_take hmem)) hwaits
  refine ⟨d', Transition.run_cons_eq_ok_iff.mpr ⟨d₁, hstep, hrun⟩, ?_⟩
  split at hstate
  · next hpassed => rw [if_pos hpassed, hstate.state_eq]
  · next hpassed => rw [if_neg hpassed, hstate.state_eq]

end

end SiiReader

/-! ## The promise -/

/-- **When the waits are given up on time.**  For responses that show neither the awaited condition
nor an error, at times that do not go back: the change of state keeps its promise exactly if no
response comes more than the timeout, but not more than a thousand times the timeout, behind the
response that started the wait, and the read of the EEPROM exactly if none comes more than a
thousandth of the timeout, but not more than the timeout, behind it. -/
theorem timesOutOnTime_iff (first : Reply) (replies : List Reply) :
    (∀ (slaveAddress : TargetSlave) (targetAl : AlState) (d : Driven AlStateTransferTask),
      AlStateTransferTask.Requests slaveAddress targetAl d → Confirms slaveAddress first →
      (∀ reply ∈ replies, AlStateTransferTask.ShowsNeither slaveAddress targetAl reply) →
      ((first :: replies).map Reply.time).Pairwise (· ≤ ·) →
      (TimesOutOnTime AlStateTransferTask.state .poll (.error .timeout)
          (d.task.timeoutMs * 1000000) d first replies ↔
        ∀ reply ∈ replies, ¬ (d.task.timeoutMs * 1000000 < reply.time - first.time ∧
          reply.time - first.time ≤ d.task.timeoutMs * 1000000000))) ∧
    ∀ (slaveAddress : SlaveAddress) (d : Driven SiiReader),
      SiiReader.Orders slaveAddress d → Confirms (.single slaveAddress) first →
      (∀ reply ∈ replies, SiiReader.ShowsPending slaveAddress reply) →
      ((first :: replies).map Reply.time).Pairwise (· ≤ ·) →
      (TimesOutOnTime SiiReader.state .wait (.error .timeout) (SiiReader.timeoutMs * 1000000)
          d first replies ↔
        ∀ reply ∈ replies, ¬ (SiiReader.timeoutMs * 1000 < reply.time - first.time ∧
          reply.time - first.time ≤ SiiReader.timeoutMs * 1000000)) := by
  constructor
  · intro slaveAddress targetAl d h hfirst hreplies hmono
    rw [timesOutOnTime_iff_of_limit (by decide) (List.pairwise_cons.mp hmono).2
      (AlStateTransferTask.timesOutOnTime_code h first hfirst hreplies)]
    refine forall₂_congr fun reply _ => ?_
    omega
  · intro slaveAddress d h hfirst hreplies hmono
    rw [timesOutOnTime_iff_of_limit (by decide) (List.pairwise_cons.mp hmono).2
      (SiiReader.timesOutOnTime_code h first hfirst hreplies)]
    refine forall₂_congr fun reply _ => ?_
    omega

/-- A slave in `PreOperational` is asked for `Operational`. -/
def AlStateTransferTask.operationalRequested : Driven AlStateTransferTask where
  task :=
    { new with
      state := .request
      slaveAddress := .single .default
      targetAl := .operational
      command := .newWrite (.single .default) AlControl.address
      currentAlState := .preOperational
      timeoutMs := safeopOpTimeoutDefaultMs }
  socket := .store (some (.newWrite (.single .default) AlControl.address, AlControl.size))
    [8, 0, 0, 0, 0, 0]

lemma AlStateTransferTask.requests_operationalRequested :
    Requests (.single .default) .operational operationalRequested where
  asking := ⟨_, _, rfl, rfl, rfl, by decide, by decide, by rintro (h | h) <;> cases h⟩
  state_eq := rfl
  timeoutMs_eq := rfl

/-- The read of the first byte of the EEPROM is ordered. -/
def SiiReader.readOrdered : Driven SiiReader where
  task :=
    { new with
      state := .setReadOperation
      command := .newWrite (.single .default) SiiControl.address
      slaveAddress := .default
      readSize := 4 }
  socket := .store (some (.newWrite (.single .default) SiiControl.address, SiiControl.size))
    [0, 1, 0, 0, 0, 0, 0, 0]

lemma SiiReader.orders_readOrdered : Orders .default readOrdered where
  asking := ⟨_, _, rfl, by decide, by decide⟩
  slaveAddress_eq := rfl
  state_eq := rfl

lemma SiiReader.controlShown_constant {status : List UInt8}
    (hlength : status.length = SiiControl.size) (slaveAddress : SlaveAddress) (n : ℕ) :
    controlShown slaveAddress (AlStateTransferTask.constant status n) = status := by
  have hzeros : (List.replicate SiiControl.size (0 : UInt8)).length = SiiControl.size :=
    List.length_replicate ..
  change overwrite (List.replicate SiiControl.size 0)
    (overwrite (List.replicate SiiControl.size 0) status) = status
  rw [overwrite_of_length_eq (hlength.trans hzeros.symm),
    overwrite_of_length_eq (hlength.trans hzeros.symm)]

/-- A busy EEPROM interface. -/
lemma SiiReader.showsPending_constant (n : ℕ) :
    ShowsPending .default (AlStateTransferTask.constant [0, 0x80] n) where
  confirms _ := ⟨⟨rfl, rfl⟩, rfl⟩
  noError := by
    rw [controlShown_constant rfl]
    decide
  pending := by
    rw [controlShown_constant rfl]
    decide

lemma AlStateTransferTask.showsNeither_unchanged (n : ℕ) :
    ShowsNeither (.single .default) .operational (constant [2, 0, 0, 0, 0, 0] n) where
  confirms _ := ⟨⟨rfl, rfl⟩, rfl⟩
  state_ne := by
    rw [stateShown, statusShown_constant rfl]
    decide
  error_eq := by
    rw [errorShown, statusShown_constant rfl]
    decide

/-- Eleven seconds behind the request the change of state still waits, and a millisecond behind the
order of the read operation the read of the EEPROM is timed out. -/
theorem limits_not_timesOutOnTime :
    ((Transition.run Driven.step
        ⟨AlStateTransferTask.new.start (.single .default) .operational, .new (List.replicate 6 0)⟩
        ([0, 1, 2].map (AlStateTransferTask.constant [2, 0]))).toOption.map
        (fun d => (d.task, d.socket)) = some (AlStateTransferTask.operationalRequested.task,
          AlStateTransferTask.operationalRequested.socket) ∧
      ¬ TimesOutOnTime AlStateTransferTask.state .poll (.error .timeout) (10000 * 1000000)
        AlStateTransferTask.operationalRequested (AlStateTransferTask.constant [2, 0] 3)
        [AlStateTransferTask.constant [2, 0, 0, 0, 0, 0] 11000000000]) ∧
    (Transition.run Driven.step ⟨SiiReader.new.start .default 0, .new (List.replicate 8 0)⟩
        ([0, 1, 2, 3, 4].map (AlStateTransferTask.constant []))).toOption.map
        (fun d => (d.task, d.socket)) =
          some (SiiReader.readOrdered.task, SiiReader.readOrdered.socket) ∧
      ¬ TimesOutOnTime SiiReader.state .wait (.error .timeout) (100 * 1000000)
        SiiReader.readOrdered (AlStateTransferTask.constant [] 5)
        [AlStateTransferTask.constant [0, 0x80] 1000005] := by
  refine ⟨⟨by decide +kernel, fun htimely => ?_⟩, by decide +kernel, fun htimely => ?_⟩
  · have hcode := AlStateTransferTask.timesOutOnTime_code
      AlStateTransferTask.requests_operationalRequested
      (AlStateTransferTask.constant [2, 0] 3) (fun _ => ⟨⟨rfl, rfl⟩, rfl⟩)
      (List.forall_mem_singleton.mpr (AlStateTransferTask.showsNeither_unchanged 11000000000))
    have h := (timesOutOnTime_iff_of_limit (by decide) (List.pairwise_singleton _ _) hcode _).mp
      htimely _ (List.mem_singleton_self _)
    exact absurd h (by decide)
  · have hcode := SiiReader.timesOutOnTime_code SiiReader.orders_readOrdered
      (AlStateTransferTask.constant [] 5) (fun _ => ⟨⟨rfl, rfl⟩, rfl⟩)
      (List.forall_mem_singleton.mpr (SiiReader.showsPending_constant 1000005))
    have h := (timesOutOnTime_iff_of_limit (by decide) (List.pairwise_singleton _ _) hcode _).mp
      htimely _ (List.mem_singleton_self _)
    exact absurd h (by decide)

/-- Two polls of each wait before the shorter of the limits. -/
theorem timesOutOnTime_of_prompt :
    TimesOutOnTime AlStateTransferTask.state .poll (.error .timeout) (10000 * 1000000)
        AlStateTransferTask.operationalRequested (AlStateTransferTask.constant [2, 0] 3)
        ([2000, 4000].map (AlStateTransferTask.constant [2, 0, 0, 0, 0, 0])) ∧
      TimesOutOnTime SiiReader.state .wait (.error .timeout) (100 * 1000000)
        SiiReader.readOrdered (AlStateTransferTask.constant [] 5)
        ([2000, 4000].map (AlStateTransferTask.constant [0, 0x80])) := by
  constructor
  · refine ((timesOutOnTime_iff _ _).1 (.single .default) .operational _
      AlStateTransferTask.requests_operationalRequested (fun _ => ⟨⟨rfl, rfl⟩, rfl⟩) ?_
      (by decide)).mpr (by decide)
    rw [List.forall_mem_map]
    exact fun n _ => AlStateTransferTask.showsNeither_unchanged n
  · refine ((timesOutOnTime_iff _ _).2 .default _ SiiReader.orders_readOrdered
      (fun _ => ⟨⟨rfl, rfl⟩, rfl⟩) ?_ (by decide)).mpr (by decide)
    rw [List.forall_mem_map]
    exact fun n _ => SiiReader.showsPending_constant n

end EtherCat
