import EtherCat.Task.AlStates

/-!
# What a completed change of state says

A task that reports `Complete` should have seen every slave in the target state
(`CompletesInTarget`).  The slaves change their states between the responses as they like and
answer reads of the AL status as broadcast reads are answered.  The task is right at a step
unless the step shows it a false `Bootstrap` while it waits for `Bootstrap`.
-/

namespace EtherCat

open Rust Rust.Exec BitField CyclicTask

namespace AlStateTransferTask

/-- What the slaves make of a PDU: a read of the AL status collects their registers, and anything
may come back for another PDU.  The slaves count the address of a broadcast up. -/
structure SlavesReply where
  registers : List AlStatusRegister
  adp : UInt16
  others : Pdu → Pdu
  time : ℕ

/-- The response to a read of the status comes from the slaves; anything may come back for another
PDU. -/
def SlavesReply.toReply (reply : SlavesReply) : Reply where
  respond pdu :=
    if pdu.command.ado = AlStatus.address then
      ⟨{ pdu.command with adp := reply.adp }, broadcast reply.registers,
        .ofNat reply.registers.length⟩
    else reply.others pdu
  time := reply.time

/-- A step in which the slaves answer. -/
def step (d : Driven AlStateTransferTask) (reply : SlavesReply) :
    Exec (Driven AlStateTransferTask) :=
  d.step reply.toReply

/-- The task waits for an AL status. -/
def ReadsAlStatus (task : AlStateTransferTask) : Prop := task.state = .read ∨ task.state = .poll

instance (task : AlStateTransferTask) : Decidable task.ReadsAlStatus :=
  inferInstanceAs (Decidable (_ ∨ _))

/-- **What completion should mean.**  If the step completes the task, all slaves are in the target
state and `wait` returns it; and the initialisation of a slave that waits for `Init` takes the
outcome. -/
def CompletesInTarget (d : Driven AlStateTransferTask) (reply : SlavesReply) : Prop :=
  (∀ d', step d reply = .ok d' → d.task.state ≠ .complete → d'.task.state = .complete →
    (∀ register ∈ reply.registers, register.alState = d.task.targetAl) ∧
      d'.task.waitResult = some (.ok d.task.targetAl)) ∧
  (d.task.targetAl = .init → ∀ recv ∈ d.seen reply.toReply,
    SlaveInitTask.processRequestInitState d.task recv reply.time ≠ .error .explicit)

/-- No false `Bootstrap` is shown to a task that waits for `Bootstrap`. -/
def ShowsNoFalseBootstrap (d : Driven AlStateTransferTask) (reply : SlavesReply) : Prop :=
  d.task.targetAl = .bootstrap → d.task.ReadsAlStatus → (d.seen reply.toReply).isSome →
    ¬ FalseBootstrap reply.registers

instance (d : Driven AlStateTransferTask) (reply : SlavesReply) :
    Decidable (ShowsNoFalseBootstrap d reply) :=
  inferInstanceAs (Decidable (_ → _ → _ → _))

/-! ## One step of the task -/

lemma nextPdu_eq_ok {task task' : AlStateTransferTask} {buf buf' : List UInt8}
    {pdu : Option (Command × ℕ)} (h : task.nextPdu buf = .ok ((pdu, buf'), task')) :
    (task'.state = task.state ∧ task'.slaveAddress = task.slaveAddress ∧
      task'.targetAl = task.targetAl ∧ task'.currentAlState = task.currentAlState) ∧
    (∀ command size, pdu = some (command, size) → command = task'.command ∧
      size ≤ requiredBufferSize ∧ (task.ReadsAlStatus →
        command = .newRead task.slaveAddress AlStatus.address ∧ size = AlStatus.size)) := by
  have hsizes : AlStatus.size ≤ requiredBufferSize ∧ AlControl.size ≤ requiredBufferSize ∧
      SiiAccess.size ≤ requiredBufferSize := by decide
  unfold nextPdu at h
  unfold ReadsAlStatus
  split at h
  case h_1 hstate | h_2 hstate | h_9 hstate =>
    cases h
    exact ⟨⟨rfl, rfl, rfl, rfl⟩, fun _ _ hpdu => by cases hpdu⟩
  case h_3 hstate | h_8 hstate =>
    obtain ⟨rfl, rfl, -⟩ := send_eq_ok h
    refine ⟨⟨rfl, rfl, rfl, rfl⟩, fun command size hpdu => ?_⟩
    cases hpdu
    exact ⟨rfl, hsizes.1, fun _ => ⟨rfl, rfl⟩⟩
  case h_4 hstate | h_5 hstate | h_7 hstate =>
    obtain ⟨rfl, rfl, -⟩ := send_eq_ok h
    refine ⟨⟨rfl, rfl, rfl, rfl⟩, fun command size hpdu => ?_⟩
    cases hpdu
    exact ⟨rfl, hsizes.2.1, fun hreads => by simp [hstate] at hreads⟩
  case h_6 hstate =>
    obtain ⟨rfl, rfl, -⟩ := send_eq_ok h
    refine ⟨⟨rfl, rfl, rfl, rfl⟩, fun command size hpdu => ?_⟩
    cases hpdu
    exact ⟨rfl, hsizes.2.2, fun hreads => by simp [hstate] at hreads⟩

lemma processRead_eq_ok {task task' : AlStateTransferTask} {data : List UInt8}
    (h : task.processRead data = .ok task') :
    (task'.slaveAddress = task.slaveAddress ∧ task'.targetAl = task.targetAl) ∧
    (task'.state = .complete → task'.currentAlState = task.targetAl ∧
      AlState.ofU8 (.ofNat (AlStatus.state.val data)) = task.targetAl) := by
  obtain ⟨state, hget, h⟩ := bind_eq_ok.mp h
  obtain ⟨-, rfl⟩ := Field.get_eq_ok_iff.mp hget
  dsimp only at h
  split at h
  · next heq =>
      cases h
      exact ⟨⟨rfl, rfl⟩, fun _ => ⟨heq, heq⟩⟩
  · obtain ⟨changeErr, -, h⟩ := bind_eq_ok.mp h
    split at h <;>
      · cases h
        exact ⟨⟨rfl, rfl⟩, fun hcomplete => by cases hcomplete⟩

lemma processPoll_eq_ok {task task' : AlStateTransferTask} {data : List UInt8} {sysTime : ℕ}
    (hstate : task.state ≠ .complete) (h : task.processPoll data sysTime = .ok task') :
    (task'.slaveAddress = task.slaveAddress ∧ task'.targetAl = task.targetAl) ∧
    (task'.state = .complete → task'.currentAlState = task.targetAl ∧
      AlState.ofU8 (.ofNat (AlStatus.state.val data)) = task.targetAl) := by
  obtain ⟨state, hget, h⟩ := bind_eq_ok.mp h
  obtain ⟨-, rfl⟩ := Field.get_eq_ok_iff.mp hget
  dsimp only at h
  split at h
  · next heq =>
      cases h
      exact ⟨⟨rfl, rfl⟩, fun _ => ⟨heq.symm, heq.symm⟩⟩
  · obtain ⟨changeErr, -, h⟩ := bind_eq_ok.mp h
    split at h
    · obtain ⟨code, -, h⟩ := bind_eq_ok.mp h
      obtain ⟨alStatusCode, -, h⟩ := bind_eq_ok.mp h
      cases h
      exact ⟨⟨rfl, rfl⟩, fun hcomplete => by cases hcomplete⟩
    · split at h
      · cases h
        exact ⟨⟨rfl, rfl⟩, fun hcomplete => by cases hcomplete⟩
      · cases h
        exact ⟨⟨rfl, rfl⟩, fun hcomplete => absurd hcomplete hstate⟩

/-- A response that completes the task shows the target state. -/
lemma recieveAndProcess_eq_ok {task task' : AlStateTransferTask} {recv : Pdu} {sysTime : ℕ}
    (h : task.recieveAndProcess recv sysTime = .ok task') :
    (task'.slaveAddress = task.slaveAddress ∧ task'.targetAl = task.targetAl) ∧
    (task.state ≠ .complete → task'.state = .complete →
      task.ReadsAlStatus ∧ task'.currentAlState = task.targetAl ∧
        AlState.ofU8 (.ofNat (AlStatus.state.val recv.data)) = task.targetAl) := by
  have hchecked : (task.checked recv).state = task.state ∨
      ∃ e, (task.checked recv).state = .error e := by
    by_cases haccepted : recv.Echoes task.command ∧ recv.wkc = task.slaveAddress.numTargets
    · exact .inl (checkedState_of_accepted _ haccepted _)
    · exact .inr (checkedState_of_not_accepted _ haccepted _)
  have hreads : (task.checked recv).ReadsAlStatus → task.ReadsAlStatus := by
    rcases hchecked with hsame | ⟨e, herror⟩
    · exact fun hreads => by rwa [ReadsAlStatus, hsame] at hreads
    · exact fun hreads => by simp [ReadsAlStatus, herror] at hreads
  unfold recieveAndProcess at h
  dsimp only at h
  split at h
  case h_4 hstate =>
    obtain ⟨hkept, hcomplete⟩ := processRead_eq_ok h
    exact ⟨hkept, fun _ hdone => ⟨hreads (.inl hstate), hcomplete hdone⟩⟩
  case h_9 hstate =>
    obtain ⟨hkept, hcomplete⟩ := processPoll_eq_ok (by rw [hstate]; simp) h
    exact ⟨hkept, fun _ hdone => ⟨hreads (.inr hstate), hcomplete hdone⟩⟩
  case h_1 hstate =>
    cases h
    exact ⟨⟨rfl, rfl⟩, fun _ hdone => by rw [hstate] at hdone; cases hdone⟩
  case h_2 hstate =>
    cases h
    exact ⟨⟨rfl, rfl⟩, fun _ hdone => by rw [hstate] at hdone; cases hdone⟩
  case h_3 hstate =>
    cases h
    refine ⟨⟨rfl, rfl⟩, fun hopen hdone => ?_⟩
    rcases hchecked with hsame | ⟨e, herror⟩
    · exact absurd (hsame ▸ hdone) hopen
    · rw [herror] at hdone
      cases hdone
  all_goals
    cases h
    exact ⟨⟨rfl, rfl⟩, fun _ hdone => by cases hdone⟩

/-- And an accepted one that shows it does complete the task. -/
lemma recieveAndProcess_of_target {task : AlStateTransferTask} {recv : Pdu} (sysTime : ℕ)
    (hreads : task.ReadsAlStatus)
    (haccepted : recv.Echoes task.command ∧ recv.wkc = task.slaveAddress.numTargets)
    (hfits : AlStatus.state.Fits recv.data)
    (htarget : AlState.ofU8 (.ofNat (AlStatus.state.val recv.data)) = task.targetAl) :
    task.recieveAndProcess recv sysTime =
      .ok { task with currentAlState := task.targetAl, state := .complete } := by
  have hchecked : task.checked recv = task := by rw [checked, checkedState_of_accepted _ haccepted]
  rcases hreads with hstate | hstate
  · simp [recieveAndProcess, hchecked, hstate, processRead, hfits, htarget]
  · simp [recieveAndProcess, hchecked, hstate, processPoll, hfits, htarget]

lemma recieveAndProcess_of_complete {task : AlStateTransferTask} (h : task.state = .complete)
    (recv : Pdu) (sysTime : ℕ) :
    task.recieveAndProcess recv sysTime = .ok (task.checked recv) := by
  have hchecked : (task.checked recv).state = .complete ∨
      ∃ e, (task.checked recv).state = .error e := by
    by_cases haccepted : recv.Echoes task.command ∧ recv.wkc = task.slaveAddress.numTargets
    · exact .inl ((checkedState_of_accepted _ haccepted _).trans h)
    · exact .inr (checkedState_of_not_accepted _ haccepted _)
  rcases hchecked with hstate | ⟨e, hstate⟩ <;> simp only [recieveAndProcess, hstate]

/-- Processing a response may fail at a short slice or at an unknown AL status code. -/
lemma recieveAndProcess_ne_explicit (task : AlStateTransferTask) (recv : Pdu) (sysTime : ℕ) :
    task.recieveAndProcess recv sysTime ≠ .error .explicit := by
  have hget : ∀ (f : Field) (data : List UInt8), f.get data ≠ .error .explicit := by
    intro f data h
    simp only [Field.get, check] at h
    split at h <;> cases h
  have hgetBool : ∀ (f : Field) (data : List UInt8), f.getBool data ≠ .error .explicit := by
    intro f data h
    simp only [Field.getBool, check] at h
    split at h <;> cases h
  intro h
  unfold recieveAndProcess at h
  dsimp only at h
  split at h
  case h_4 =>
    rcases bind_eq_error.mp h with h | ⟨_, -, h⟩
    · exact hget _ _ h
    dsimp only at h
    split at h
    · cases h
    rcases bind_eq_error.mp h with h | ⟨_, -, h⟩
    · exact hgetBool _ _ h
    split at h <;> cases h
  case h_9 =>
    rcases bind_eq_error.mp h with h | ⟨_, -, h⟩
    · exact hget _ _ h
    dsimp only at h
    split at h
    · cases h
    rcases bind_eq_error.mp h with h | ⟨_, -, h⟩
    · exact hgetBool _ _ h
    split at h
    · rcases bind_eq_error.mp h with h | ⟨code, -, h⟩
      · exact hget _ _ h
      rcases bind_eq_error.mp h with h | ⟨_, -, h⟩
      · cases hcode : AlStatusCode.tryFrom (.ofNat code) <;> rw [hcode] at h <;> cases h
      · cases h
    · split at h <;> cases h
  all_goals cases h

/-! ## One step of the driven task -/

/-- What holds of a task on its way from `start`: its socket holds the PDU of its state. -/
structure Asks (slaveAddress : TargetSlave) (targetAl : AlState)
    (d : Driven AlStateTransferTask) : Prop where
  slaveAddress_eq : d.task.slaveAddress = slaveAddress
  targetAl_eq : d.task.targetAl = targetAl
  requiredBufferSize_le : requiredBufferSize ≤ d.socket.dataBuf.length
  recvFlag_eq : d.socket.recvFlag = false
  dataLength_le : d.socket.dataLength ≤ requiredBufferSize
  command_eq : ∀ command, d.socket.command = some command → command = d.task.command
  asksAlStatus : d.task.ReadsAlStatus → ∀ command, d.socket.command = some command →
    command = .newRead slaveAddress AlStatus.address ∧ d.socket.dataLength = AlStatus.size
  currentAlState_eq : d.task.state = .complete → d.task.currentAlState = targetAl

section
variable {slaveAddress : TargetSlave} {targetAl : AlState} {d d' : Driven AlStateTransferTask}

lemma asks_start (task : AlStateTransferTask) {buf : List UInt8}
    (hbuf : requiredBufferSize ≤ buf.length) :
    Asks slaveAddress targetAl ⟨task.start slaveAddress targetAl, .new buf⟩ where
  slaveAddress_eq := rfl
  targetAl_eq := rfl
  requiredBufferSize_le := hbuf
  recvFlag_eq := rfl
  dataLength_le := Nat.zero_le _
  command_eq _ h := by cases h
  asksAlStatus _ _ h := by cases h
  currentAlState_eq h := by cases h

/-- The second half of a step brings the PDU of the state into the socket. -/
lemma asks_of_nextPdu {task : AlStateTransferTask} {buf buf' : List UInt8}
    {pdu : Option (Command × ℕ)} (haddress : task.slaveAddress = slaveAddress)
    (htarget : task.targetAl = targetAl) (hbuf : requiredBufferSize ≤ buf.length)
    (hcomplete : task.state = .complete → task.currentAlState = targetAl)
    (hnext : CyclicTask.nextPdu task buf = .ok ((pdu, buf'), d'.task))
    (hsocket : d'.socket = .store pdu buf') : Asks slaveAddress targetAl d' := by
  obtain ⟨⟨hstate, haddress', htarget', hcurrent⟩, hpdu⟩ := nextPdu_eq_ok hnext
  have hreads : d'.task.ReadsAlStatus → task.ReadsAlStatus := by
    rw [ReadsAlStatus, hstate]
    exact id
  refine ⟨haddress'.trans haddress, htarget'.trans htarget, ?_, ?_, ?_, ?_, ?_, ?_⟩
  · rw [hsocket, PduSocket.store, CyclicTask.length_nextPdu hnext]
    exact hbuf
  · rw [hsocket]
    rfl
  · rw [hsocket]
    rcases pdu with _ | ⟨command, size⟩
    · exact Nat.zero_le _
    · exact (hpdu command size rfl).2.1
  · intro command hcommand
    rw [hsocket] at hcommand
    obtain ⟨⟨_, size⟩, rfl, rfl⟩ := Option.map_eq_some_iff.mp hcommand
    exact (hpdu _ size rfl).1
  · intro hasks command hcommand
    rw [hsocket] at hcommand ⊢
    obtain ⟨⟨_, size⟩, rfl, rfl⟩ := Option.map_eq_some_iff.mp hcommand
    have hread := (hpdu _ size rfl).2.2 (hreads hasks)
    rwa [haddress] at hread
  · intro hdone
    rw [hcurrent]
    exact hcomplete (hstate ▸ hdone)

lemma asks_step {reply : SlavesReply} (h : Asks slaveAddress targetAl d)
    (hstep : step d reply = .ok d') : Asks slaveAddress targetAl d' := by
  rcases hseen : d.seen reply.toReply with _ | recv
  · obtain ⟨buf, pdu, buf', hlength, hnext, hsocket⟩ := Driven.step_eq_ok_of_unseen hseen hstep
    exact asks_of_nextPdu h.slaveAddress_eq h.targetAl_eq (hlength ▸ h.requiredBufferSize_le)
      h.currentAlState_eq hnext hsocket
  · obtain ⟨buf, task, pdu, buf', hlength, hrecieve, hnext, hsocket⟩ :=
      Driven.step_eq_ok_of_seen hseen hstep
    change d.task.recieveAndProcess recv _ = .ok task at hrecieve
    obtain ⟨⟨haddress, htarget⟩, hcomplete⟩ := recieveAndProcess_eq_ok hrecieve
    refine asks_of_nextPdu (haddress.trans h.slaveAddress_eq) (htarget.trans h.targetAl_eq)
      (hlength ▸ h.requiredBufferSize_le) (fun hdone => ?_) hnext hsocket
    by_cases hbefore : d.task.state = .complete
    · cases (recieveAndProcess_of_complete hbefore recv _).symm.trans hrecieve
      exact h.currentAlState_eq hbefore
    · rw [(hcomplete hbefore hdone).2.1, h.targetAl_eq]

/-- The response to a read of the AL status is accepted and is what the slaves broadcast. -/
lemma seen_of_reads {reply : SlavesReply} {recv : Pdu} (h : Asks slaveAddress targetAl d)
    (hreply : reply.registers.length = slaveAddress.numTargets.toNat)
    (hreads : d.task.ReadsAlStatus) (hseen : d.seen reply.toReply = some recv) :
    recv.data = broadcast reply.registers ∧
      (recv.Echoes d.task.command ∧ recv.wkc = d.task.slaveAddress.numTargets) := by
  rw [Driven.seen_eq h.recvFlag_eq (h.dataLength_le.trans h.requiredBufferSize_le)] at hseen
  obtain ⟨command, hcommand, rfl⟩ := Option.map_eq_some_iff.mp hseen
  obtain ⟨hread, hlength⟩ := h.asksAlStatus hreads command hcommand
  have hado : command.ado = AlStatus.address := by
    rw [hread]
    rcases slaveAddress with (_ | _) | _ <;> rfl
  have hdata : (overwrite d.socket.dataBuf (broadcast reply.registers)).take AlStatus.size =
      broadcast reply.registers := by
    have hfits : (broadcast reply.registers).length ≤ d.socket.dataBuf.length := by
      rw [length_broadcast, ← hlength]
      exact h.dataLength_le.trans h.requiredBufferSize_le
    rw [← length_broadcast reply.registers]
    exact take_overwrite hfits
  simp only [SlavesReply.toReply, hado, if_true, hlength, hdata, h.slaveAddress_eq, hreply,
    UInt16.ofNat_toNat, Pdu.Echoes, ← h.command_eq command hcommand, and_self]

/-- **One step.**  The step is right exactly if it shows no false `Bootstrap`. -/
lemma completesInTarget_iff {reply : SlavesReply} (h : Asks slaveAddress targetAl d)
    (htarget : targetAl ≠ .invalidOrMixed)
    (hreply : reply.registers.length = slaveAddress.numTargets.toNat) :
    CompletesInTarget d reply ↔ ShowsNoFalseBootstrap d reply := by
  have hshown : ∀ {recv}, d.seen reply.toReply = some recv → d.task.ReadsAlStatus →
      (AlState.ofU8 (.ofNat (AlStatus.state.val recv.data)) = d.task.targetAl ↔
        reply.registers ≠ [] ∧ (∀ register ∈ reply.registers,
          register.alState = d.task.targetAl) ∨
        d.task.targetAl = .bootstrap ∧ FalseBootstrap reply.registers) := by
    intro recv hseen hreads
    rw [(seen_of_reads h hreply hreads hseen).1]
    exact broadcast_eq_iff (h.targetAl_eq ▸ htarget)
  constructor
  · intro hright hbootstrap hreads hsome hfalse
    obtain ⟨recv, hseen⟩ := Option.isSome_iff_exists.mp hsome
    obtain ⟨hdata, haccepted⟩ := seen_of_reads h hreply hreads hseen
    have hfits : AlStatus.state.Fits recv.data := by
      rw [hdata, Field.Fits, length_broadcast]
      decide
    have hrecieve := recieveAndProcess_of_target reply.time hreads haccepted hfits
      ((hshown hseen hreads).mpr (.inr ⟨hbootstrap, hfalse⟩))
    obtain ⟨buf, -, hstep⟩ := Driven.step_of_seen hseen
    have hopen : d.task.state ≠ .complete := by
      rcases hreads with hstate | hstate <;> simp [hstate]
    have hcompletes : step d reply = .ok
        ⟨{ d.task with currentAlState := d.task.targetAl, state := .complete },
          .store none buf⟩ := by
      change d.step reply.toReply = _
      rw [hstep]
      change (d.task.recieveAndProcess recv reply.time >>= _) = _
      rw [hrecieve]
      rfl
    obtain ⟨register, hregister, hne⟩ := hfalse.exists_ne_bootstrap
    exact hne (((hright.1 _ hcompletes hopen rfl).1 register hregister).trans hbootstrap)
  · refine fun hquiet => ⟨fun d' hstep hopen hdone => ?_, fun hinit recv hseen hpanic => ?_⟩
    · have hcurrent := (asks_step h hstep).currentAlState_eq hdone
      refine ⟨?_, by rw [waitResult, hdone, hcurrent, h.targetAl_eq]⟩
      rcases hseen : d.seen reply.toReply with _ | recv
      · obtain ⟨buf, pdu, buf', -, hnext, -⟩ := Driven.step_eq_ok_of_unseen hseen hstep
        exact absurd ((nextPdu_eq_ok hnext).1.1 ▸ hdone) hopen
      · obtain ⟨buf, task, pdu, buf', -, hrecieve, hnext, -⟩ :=
          Driven.step_eq_ok_of_seen hseen hstep
        obtain ⟨hreads, -, hcode⟩ := (recieveAndProcess_eq_ok hrecieve).2 hopen
          ((nextPdu_eq_ok hnext).1.1 ▸ hdone)
        rcases (hshown hseen hreads).mp hcode with ⟨-, hall⟩ | ⟨hbootstrap, hfalse⟩
        · exact hall
        · exact absurd hfalse (hquiet hbootstrap hreads (by rw [hseen]; rfl))
    · rcases bind_eq_error.mp hpanic with hpanic | ⟨task, hrecieve, hpanic⟩
      · exact recieveAndProcess_ne_explicit _ _ _ hpanic
      change d.task.recieveAndProcess recv _ = .ok task at hrecieve
      have hcurrent : task.state = .complete → task.currentAlState = .init := by
        intro hdone
        by_cases hbefore : d.task.state = .complete
        · cases (recieveAndProcess_of_complete hbefore recv _).symm.trans hrecieve
          rw [← hinit, h.targetAl_eq]
          exact h.currentAlState_eq hbefore
        · rw [((recieveAndProcess_eq_ok hrecieve).2 hbefore hdone).2.1, hinit]
      rcases hstate : task.state with e | _ | _ | _ | _ | _ | _ | _ | _ <;>
        simp only [waitResult, hstate] at hpanic
      case complete => rw [hcurrent hstate] at hpanic; cases hpanic
      all_goals cases hpanic

end

/-! ## Runs -/

/-- **The task is right in exactly the runs without a false `Bootstrap`.**  For one slave or any
number of them, every target and every sequence of responses: whenever the task completes, every
slave is in the target state at the response that completes it. -/
theorem completesInTarget_iff_showsNoFalseBootstrap (task : AlStateTransferTask)
    (slaveAddress : TargetSlave) (targetAl : AlState) (htarget : targetAl ≠ .invalidOrMixed)
    (buf : List UInt8) (hbuf : requiredBufferSize ≤ buf.length) (replies : List SlavesReply)
    (hreplies : ∀ reply ∈ replies,
      reply.registers.length = slaveAddress.numTargets.toNat) :
    Transition.Along step CompletesInTarget ⟨task.start slaveAddress targetAl, .new buf⟩ replies ↔
      Transition.Along step ShowsNoFalseBootstrap
        ⟨task.start slaveAddress targetAl, .new buf⟩ replies := by
  have hasks : ∀ {P : Driven AlStateTransferTask → SlavesReply → Prop},
      Transition.Along step P ⟨task.start slaveAddress targetAl, .new buf⟩ replies →
      Transition.Along step
        (fun d reply => reply.registers.length = slaveAddress.numTargets.toNat ∧
          Asks slaveAddress targetAl d ∧ P d reply)
        ⟨task.start slaveAddress targetAl, .new buf⟩ replies := fun hP =>
    Transition.along_and_of_mem hreplies <| Transition.along_invariant
      (Asks slaveAddress targetAl) (fun _ _ _ h _ hstep => asks_step h hstep)
      (asks_start task hbuf) hP
  constructor
  · intro hright
    refine Transition.along_mono ?_ (hasks hright)
    exact fun d reply h => (completesInTarget_iff h.2.1 htarget h.1).mp h.2.2
  · intro hquiet
    refine Transition.along_mono ?_ (hasks hquiet)
    exact fun d reply h => (completesInTarget_iff h.2.1 htarget h.1).mpr h.2.2

/-- Two slaves in the states `first` and `second`. -/
def twoSlaves (first second : AlState) (hfirst : first ≠ .invalidOrMixed)
    (hsecond : second ≠ .invalidOrMixed) : SlavesReply where
  registers := [.ofAlState first hfirst, .ofAlState second hsecond]
  adp := 2
  others pdu := { pdu with wkc := 2 }
  time := 0

/-- Two slaves that go to `PreOperational`, the second after the first. -/
theorem completesInTarget_iff_showsNoFalseBootstrap_preOperational :
    Transition.Along step CompletesInTarget
      ⟨new.start (.all 2) .preOperational, .new (List.replicate 6 0)⟩
      [twoSlaves .init .init (by decide) (by decide), twoSlaves .init .init (by decide) (by decide),
        twoSlaves .init .init (by decide) (by decide), twoSlaves .init .init (by decide) (by decide),
        twoSlaves .preOperational .init (by decide) (by decide),
        twoSlaves .preOperational .preOperational (by decide) (by decide)] :=
  (completesInTarget_iff_showsNoFalseBootstrap new (.all 2) .preOperational (by decide)
    (List.replicate 6 0) (by decide) _ (by decide +kernel)).mpr (by decide +kernel)

/-- Two slaves of which the first stays in `Init` and the second in `PreOperational`. -/
def mixture : List SlavesReply :=
  [twoSlaves .init .preOperational (by decide) (by decide),
    twoSlaves .init .preOperational (by decide) (by decide)]

/-- The mixture is taken for two slaves in `Bootstrap`. -/
theorem completesInTarget_fails_on_mixture :
    (¬ Transition.Along step CompletesInTarget
      ⟨new.start (.all 2) .bootstrap, .new (List.replicate 6 0)⟩ mixture) ∧
    ∃ d, Transition.run step ⟨new.start (.all 2) .bootstrap, .new (List.replicate 6 0)⟩ mixture =
        .ok d ∧
      d.task.waitResult = some (.ok .bootstrap) := by
  have hwait : (Transition.run step
      ⟨new.start (.all 2) .bootstrap, .new (List.replicate 6 0)⟩ mixture).toOption.map
        (fun d => d.task.waitResult) = some (some (.ok .bootstrap)) := by decide +kernel
  constructor
  · intro hright
    have hquiet := Transition.along_mono
      (fun d reply h => (completesInTarget_iff h.2.1 (by decide) h.1).mp h.2.2)
      (Transition.along_and_of_mem (Q := fun reply => reply.registers.length = 2) (by decide +kernel)
        (Transition.along_invariant (Asks (.all 2) .bootstrap)
          (fun _ _ _ h _ hstep => asks_step h hstep) (asks_start new (by decide)) hright))
    exact absurd hquiet (by decide +kernel)
  · rcases hrun : Transition.run step
      ⟨new.start (.all 2) .bootstrap, .new (List.replicate 6 0)⟩ mixture with e | d
    · rw [hrun] at hwait
      cases hwait
    · rw [hrun] at hwait
      exact ⟨d, rfl, Option.some.inj hwait⟩

end AlStateTransferTask

end EtherCat
