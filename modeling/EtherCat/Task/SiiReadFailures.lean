import EtherCat.Task.SiiRead

/-!
# Failures reported to the EEPROM reader

Once a response reports a failure, the task should end in that error and send nothing more
(`StopsOnFailure`).  It does for a wrong command, a wrong working counter and a command error.
The failures in the initial `SiiControl` response and in the `SiiAccess` response are noted in
the state and then overwritten by the next state: the task stops on failures exactly in the runs
in which these two responses report none (`ReportsNothingEarly`).
-/

namespace EtherCat

open Rust Rust.Exec BitField

namespace SiiReader

/-- The response belongs to the task's PDU and was processed by one slave. -/
def Accepts (task : SiiReader) (recv : Pdu) : Prop :=
  recv.Echoes task.command ∧ recv.wkc = 1

instance (task : SiiReader) (recv : Pdu) : Decidable (task.Accepts recv) :=
  inferInstanceAs (Decidable (_ ∧ _))

/-- The failures in the initial `SiiControl` response. -/
def initFailures (task : SiiReader) (data : List UInt8) : List SiiTaskError :=
  (if SiiControl.checkSumError.val data ≠ 0 then [.checkSumError] else []) ++
  (if SiiControl.deviceInfoError.val data ≠ 0 then [.deviceInfoError] else []) ++
  (if SiiControl.addressAlgorithm.val data = 0 ∧ task.siiAddress >>> 8 ≠ 0
    then [.addressSizeOver] else []) ++
  (if SiiControl.busy.val data ≠ 0 ∨ SiiControl.readOperation.val data ≠ 0 ∨
      SiiControl.writeOperation.val data ≠ 0 ∨ SiiControl.reloadOperation.val data ≠ 0
    then [.busy] else [])

/-- The failures in the `SiiAccess` response. -/
def ownershipFailures (data : List UInt8) : List SiiTaskError :=
  if SiiAccess.owner.val data ≠ 0 ∨ SiiAccess.pdiAccessed.val data ≠ 0
    then [.permittionDenied] else []

/-- The failures in a `SiiControl` response while the read operation is pending. -/
def waitFailures (data : List UInt8) : List SiiTaskError :=
  if SiiControl.commandError.val data ≠ 0 then [.commandError] else []

/-- The failures that a response reports to the task. -/
def failures (task : SiiReader) (recv : Pdu) : List (TaskError SiiTaskError) :=
  if task.isBusy = false then []
  else if task.Accepts recv then
    match task.state with
    | .init => (task.initFailures recv.data).map .taskSpecific
    | .checkOwnership => (ownershipFailures recv.data).map .taskSpecific
    | .wait => (waitFailures recv.data).map .taskSpecific
    | _ => []
  else
    (if recv.Echoes task.command then [] else [.unexpectedCommand]) ++
    (if recv.wkc = 1 then [] else [.unexpectedWkc ⟨1, recv.wkc⟩])

/-- The task has ended with an error: it stays so and sends nothing more, whatever comes. -/
def StaysIn (d : Driven SiiReader) (e : TaskError SiiTaskError) : Prop :=
  ∀ replies d', Transition.run Driven.step d replies = .ok d' →
    d'.task.state = .error e ∧ d'.socket.command = none

/-- **What failures should do.**  If the response of a step reports failures, the task ends with
one of them. -/
def StopsOnFailure (d : Driven SiiReader) (reply : Reply) : Prop :=
  ∀ d', d.step reply = .ok d' → ∀ recv ∈ d.seen reply, d.task.failures recv ≠ [] →
    ∃ e ∈ d.task.failures recv, StaysIn d' e

/-- The response of a step reports no failure, if it is the initial `SiiControl` response or the
`SiiAccess` response. -/
def ReportsNothingEarly (d : Driven SiiReader) (reply : Reply) : Prop :=
  ∀ recv ∈ d.seen reply, d.task.Accepts recv → 2 ≤ recv.data.length →
    (d.task.state = .init → d.task.initFailures recv.data = []) ∧
    (d.task.state = .checkOwnership → ownershipFailures recv.data = [])

instance (d : Driven SiiReader) (reply : Reply) : Decidable (ReportsNothingEarly d reply) :=
  inferInstanceAs (Decidable (∀ recv ∈ d.seen reply, _))

/-! ## One step -/

lemma nextPdu_error {task : SiiReader} {e : TaskError SiiTaskError} (h : task.state = .error e)
    (buf : List UInt8) : CyclicTask.nextPdu task buf = .ok ((none, buf), task) := by
  change nextPdu task buf = _
  rw [nextPdu, h]

lemma staysIn_of_error {d : Driven SiiReader} {e : TaskError SiiTaskError}
    (h : d.task.state = .error e) (hsocket : ∃ dataBuf, d.socket = .store none dataBuf) :
    StaysIn d e := by
  intro replies d' hrun
  obtain ⟨htask, hcommand⟩ := Driven.run_of_idle (nextPdu_error h) hsocket hrun
  exact ⟨htask ▸ h, hcommand⟩

/-- A response after which the state is an error ends the task. -/
lemma staysIn_of_recieve {d d' : Driven SiiReader} {reply : Reply} {recv : Pdu}
    {e : TaskError SiiTaskError} (hseen : recv ∈ d.seen reply) (hstep : d.step reply = .ok d')
    (herror : ∀ task, d.task.recieveAndProcess recv reply.time = .ok task → task.state = .error e) :
    StaysIn d' e := by
  obtain ⟨dataBuf, task, pdu, dataBuf', -, hrecieve, hnext, hsocket⟩ :=
    Driven.step_eq_ok_of_seen hseen hstep
  have hstate := herror task hrecieve
  rw [nextPdu_error hstate] at hnext
  obtain ⟨hpair, htask⟩ := Prod.mk.inj (Except.ok.inj hnext)
  cases hpair
  exact staysIn_of_error (htask ▸ hstate) ⟨_, hsocket⟩

lemma checked_of_accepts {task : SiiReader} {recv : Pdu} (h : task.Accepts recv) :
    task.checked recv = task := by
  rw [checked, checkedState_of_accepted _ h]

/-- A response that is not accepted ends a busy task with one of the failures it reports. -/
lemma recieve_of_not_accepts {task : SiiReader} {recv : Pdu} (hbusy : task.isBusy = true)
    (h : ¬ task.Accepts recv) (sysTime : ℕ) :
    ∃ e ∈ task.failures recv, ∃ task', task.recieveAndProcess recv sysTime = .ok task' ∧
      task'.state = .error e := by
  rw [failures, if_neg (by simp [hbusy]), if_neg h]
  unfold recieveAndProcess checked checkedState
  by_cases hwkc : recv.wkc = 1
  · have hcommand : ¬ recv.Echoes task.command := fun hcommand => h ⟨hcommand, hwkc⟩
    exact ⟨.unexpectedCommand, by simp [hcommand], _, by simp [hcommand, hwkc]; rfl, rfl⟩
  · exact ⟨.unexpectedWkc ⟨1, recv.wkc⟩, by simp [hwkc], _, by simp [hwkc]; rfl, rfl⟩

lemma bit_fits {data : List UInt8} (h : 2 ≤ data.length) {i : ℕ} (hi : i < 16) :
    (Field.bit i).Fits data := by
  have hbyte : i / 8 < 2 := by omega
  exact Nat.lt_of_lt_of_le hbyte h

lemma getBool_bit {data : List UInt8} (h : 2 ≤ data.length) {i : ℕ} (hi : i < 16) :
    (Field.bit i).getBool data = .ok ((Field.bit i).val data != 0) :=
  Field.getBool_of_fits (bit_fits h hi)

lemma setBool_bit {data : List UInt8} (h : 2 ≤ data.length) {i : ℕ} (hi : i < 16) (b : Bool) :
    (Field.bit i).setBool data b = .ok ((Field.bit i).put data b.toNat) :=
  Field.set_of_fits (bit_fits h hi) _

lemma two_le_of_getBool {data : List UInt8} {i : ℕ} {b : Bool} (hi : 8 ≤ i)
    (h : (Field.bit i).getBool data = .ok b) : 2 ≤ data.length := by
  have hfits : i / 8 < data.length := (Field.getBool_eq_ok_iff.mp h).1
  omega

/-- The initial `SiiControl` response is never refused, whatever it reports. -/
lemma processInit_of_length (task : SiiReader) {data : List UInt8} (h : 2 ≤ data.length) :
    ∃ task', task.processInit data = .ok task' ∧ task'.state = .setOwnership := by
  unfold processInit
  simp (disch := decide) only [SiiControl.checkSumError, SiiControl.deviceInfoError,
    SiiControl.addressAlgorithm, SiiControl.busy, SiiControl.readOperation,
    SiiControl.writeOperation, SiiControl.reloadOperation, SiiControl.readSize, getBool_bit h,
    ok_bind]
  exact ⟨_, rfl, rfl⟩

lemma two_le_of_processInit {task task' : SiiReader} {data : List UInt8}
    (h : task.processInit data = .ok task') : 2 ≤ data.length := by
  obtain ⟨_, hget, -⟩ := bind_eq_ok.mp h
  exact two_le_of_getBool (by decide) hget

lemma two_le_of_processCheckOwnership {task task' : SiiReader} {data : List UInt8}
    (h : task.processCheckOwnership data = .ok task') : 2 ≤ data.length := by
  obtain ⟨_, -, h'⟩ := bind_eq_ok.mp h
  obtain ⟨_, hget, -⟩ := bind_eq_ok.mp h'
  exact two_le_of_getBool (by decide) hget

/-- Neither is the `SiiAccess` response. -/
lemma processCheckOwnership_of_length (task : SiiReader) {data : List UInt8}
    (h : 2 ≤ data.length) :
    ∃ task', task.processCheckOwnership data = .ok task' ∧ task'.state = .setAddress := by
  unfold processCheckOwnership
  simp (disch := decide) only [SiiAccess.owner, SiiAccess.pdiAccessed, getBool_bit h, ok_bind]
  exact ⟨_, rfl, rfl⟩

/-- A command error is heeded. -/
lemma processWait_of_commandError {task task' : SiiReader} {data : List UInt8} {sysTime : ℕ}
    (herror : SiiControl.commandError.val data ≠ 0)
    (h : task.processWait data sysTime = .ok task') :
    task'.state = .error (.taskSpecific .commandError) := by
  obtain ⟨commandError, hget, h⟩ := bind_eq_ok.mp h
  obtain ⟨busy, -, h⟩ := bind_eq_ok.mp h
  obtain ⟨readOperation, -, h⟩ := bind_eq_ok.mp h
  obtain ⟨-, rfl⟩ := Field.getBool_eq_ok_iff.mp hget
  rw [if_pos (by simpa using herror)] at h
  cases h
  rfl

lemma send_of_length (task : SiiReader) (command : Command) {size : ℕ}
    {write : List UInt8 → Exec (List UInt8)} {buf : List UInt8} (hsize : size ≤ buf.length)
    (hwrite : ∀ data, data.length = size → ∃ data', write data = .ok data') :
    ∃ pdu task', task.send command size write buf = .ok (pdu, task') ∧
      task'.state = task.state := by
  obtain ⟨buf', hbuf'⟩ := CyclicTask.request_eq_ok command hsize hwrite
  refine ⟨(some (command, size), buf'), { task with command := command }, ?_, rfl⟩
  rw [send, hbuf', ok_bind]

/-- In a buffer of the required size every PDU can be built, and building it keeps the state. -/
lemma nextPdu_of_length (task : SiiReader) (buf : List UInt8)
    (h : requiredBufferSize ≤ buf.length) :
    ∃ pdu task', CyclicTask.nextPdu task buf = .ok (pdu, task') ∧ task'.state = task.state := by
  change ∃ pdu task', nextPdu task buf = .ok (pdu, task') ∧ task'.state = task.state
  have h8 : 8 ≤ buf.length := h
  have hread : ∀ size (data : List UInt8), data.length = size →
      ∃ data', (Except.ok data : Exec (List UInt8)) = .ok data' := fun _ data _ => ⟨data, rfl⟩
  rcases hstate : task.state with e | _ | _ | _ | _ | _ | _ | _ | _ | _ <;>
    simp only [nextPdu, hstate]
  case error => exact ⟨_, _, rfl, hstate⟩
  case idle => exact ⟨_, _, rfl, hstate⟩
  case complete => exact ⟨_, _, rfl, hstate⟩
  case init => exact hstate ▸ task.send_of_length _ (by simp only [SiiControl.size]; omega) (hread _)
  case checkOwnership =>
    exact hstate ▸ task.send_of_length _ (by simp only [SiiAccess.size]; omega) (hread _)
  case wait => exact hstate ▸ task.send_of_length _ (by simp only [SiiControl.size]; omega) (hread _)
  case read => exact hstate ▸ task.send_of_length _ (by simp only [SiiData.size]; omega) (hread _)
  case setOwnership =>
    refine hstate ▸ task.send_of_length _ (by simp only [SiiAccess.size]; omega) fun data hdata => ?_
    have hlength : 2 ≤ data.length := hdata.ge
    have hput : 2 ≤ ((Field.bit 0).put data false.toNat).length := by rwa [Field.length_put]
    exact ⟨_, bind_eq_ok.mpr ⟨_, setBool_bit hlength (by decide) false,
      setBool_bit hput (by decide) true⟩⟩
  case setAddress =>
    refine hstate ▸ task.send_of_length _ (by simp only [SiiAddress.size]; omega) fun data hdata => ?_
    have hfits : SiiAddress.siiAddress.Fits data := by
      rw [Field.Fits, hdata]
      decide
    exact ⟨_, Field.set_of_fits hfits _⟩
  case setReadOperation =>
    refine hstate ▸ task.send_of_length _ (by simp only [SiiControl.size]; omega) fun data hdata => ?_
    exact ⟨_, setBool_bit hdata.ge (by decide) true⟩

/-- An accepted response with an early failure is passed over: the task goes on. -/
lemma step_of_early_failure {d : Driven SiiReader} {reply : Reply} {recv : Pdu}
    (hbuf : requiredBufferSize ≤ d.socket.dataBuf.length) (hseen : recv ∈ d.seen reply)
    (haccepts : d.task.Accepts recv) (hlength : 2 ≤ recv.data.length)
    (hstate : d.task.state = .init ∨ d.task.state = .checkOwnership) :
    ∃ d', d.step reply = .ok d' ∧ ∀ e, d'.task.state ≠ .error e := by
  obtain ⟨dataBuf, hdataBuf, hstep⟩ := Driven.step_of_seen hseen
  have hrecieve : ∃ task, CyclicTask.recieveAndProcess d.task recv reply.time = .ok task ∧
      ∀ e, task.state ≠ .error e := by
    change ∃ task, recieveAndProcess d.task recv reply.time = .ok task ∧ _
    rcases hstate with hstate | hstate
    · obtain ⟨task, htask, hnext⟩ := processInit_of_length d.task hlength
      refine ⟨task, ?_, fun e => by simp [hnext]⟩
      simpa [recieveAndProcess, checked_of_accepts haccepts, hstate] using htask
    · obtain ⟨task, htask, hnext⟩ := processCheckOwnership_of_length d.task hlength
      refine ⟨task, ?_, fun e => by simp [hnext]⟩
      simpa [recieveAndProcess, checked_of_accepts haccepts, hstate] using htask
  obtain ⟨task, htask, hstate'⟩ := hrecieve
  obtain ⟨⟨pdu, dataBuf'⟩, task', hnext, hsame⟩ :=
    nextPdu_of_length task dataBuf (by rw [hdataBuf]; exact hbuf)
  refine ⟨⟨task', .store pdu dataBuf'⟩, ?_, fun e => by rw [hsame]; exact hstate' e⟩
  rw [hstep, htask, ok_bind, hnext, ok_bind]

/-- One step stops on failures exactly if its response is not an early failure. -/
lemma stopsOnFailure_iff {d : Driven SiiReader} {reply : Reply}
    (hbuf : requiredBufferSize ≤ d.socket.dataBuf.length) :
    StopsOnFailure d reply ↔ ReportsNothingEarly d reply := by
  constructor
  · intro hstops recv hseen haccepts hlength
    have hgoes : ∀ fs : List SiiTaskError, d.task.failures recv = fs.map .taskSpecific →
        d.task.state = .init ∨ d.task.state = .checkOwnership → fs = [] := by
      intro fs hfs hstate
      by_contra hne
      obtain ⟨d', hstep, herror⟩ := step_of_early_failure hbuf hseen haccepts hlength hstate
      obtain ⟨e, -, hstays⟩ := hstops d' hstep recv hseen (by simpa [hfs] using hne)
      exact herror e (hstays [] d' rfl).1
    refine ⟨fun hstate => hgoes _ ?_ (.inl hstate), fun hstate => hgoes _ ?_ (.inr hstate)⟩
    · simp [failures, isBusy, hstate, haccepts]
    · simp [failures, isBusy, hstate, haccepts]
  · intro hquiet d' hstep recv hseen hfailures
    have hbusy : d.task.isBusy = true := by
      by_contra hidle
      exact hfailures (by rw [failures, if_pos (by simpa using hidle)])
    by_cases haccepts : d.task.Accepts recv
    · obtain ⟨_, task, _, _, -, hrecieve, -, -⟩ := Driven.step_eq_ok_of_seen hseen hstep
      change recieveAndProcess d.task recv reply.time = .ok task at hrecieve
      have hquiet := hquiet recv hseen haccepts
      rw [failures, if_neg (by simp [hbusy]), if_pos haccepts] at hfailures ⊢
      rcases hstate : d.task.state with e | _ | _ | _ | _ | _ | _ | _ | _ | _ <;>
        simp only [hstate] at hfailures ⊢
      case init =>
        simp only [recieveAndProcess, checked_of_accepts haccepts, hstate] at hrecieve
        exact absurd ((hquiet (two_le_of_processInit hrecieve)).1 hstate) (by simpa using hfailures)
      case checkOwnership =>
        simp only [recieveAndProcess, checked_of_accepts haccepts, hstate] at hrecieve
        exact absurd ((hquiet (two_le_of_processCheckOwnership hrecieve)).2 hstate)
          (by simpa using hfailures)
      case wait =>
        have herror : SiiControl.commandError.val recv.data ≠ 0 := by
          by_contra hzero
          exact hfailures (by simp [waitFailures, hzero])
        refine ⟨.taskSpecific .commandError, by simp [waitFailures, herror],
          staysIn_of_recieve hseen hstep fun task htask => ?_⟩
        simp only [recieveAndProcess, checked_of_accepts haccepts, hstate] at htask
        exact processWait_of_commandError herror htask
      all_goals exact absurd rfl hfailures
    · obtain ⟨e, he, task', hrecieve, herror⟩ :=
        recieve_of_not_accepts hbusy haccepts reply.time
      refine ⟨e, he, staysIn_of_recieve hseen hstep fun task htask => ?_⟩
      cases hrecieve.symm.trans htask
      exact herror

/-! ## Runs -/

/-- A run that stops on failures completes only if no response reported one. -/
lemma complete_of_stopsOnFailure {d d' : Driven SiiReader} {replies : List Reply}
    (hstops : Transition.Along Driven.step StopsOnFailure d replies)
    (hrun : Transition.run Driven.step d replies = .ok d') (hcomplete : d'.task.state = .complete) :
    Transition.Along Driven.step
      (fun d reply => ∀ recv ∈ d.seen reply, d.task.failures recv = []) d replies := by
  induction replies generalizing d with
  | nil => trivial
  | cons reply replies ih =>
      obtain ⟨d₁, hstep, hrest⟩ := Transition.run_cons_eq_ok_iff.mp hrun
      refine ⟨fun recv hseen => ?_, fun d₁' hstep' => ?_⟩
      · by_contra hne
        obtain ⟨e, -, hstays⟩ := hstops.1 d₁ hstep recv hseen hne
        cases hcomplete.symm.trans (hstays replies d' hrest).1
      · cases hstep.symm.trans hstep'
        exact ih (hstops.2 d₁ hstep) hrest

/-- **The reader stops on failures exactly in the runs without early ones.**  From a start on, in
a buffer of the required size and for every sequence of responses: every failure ends the task
for good, and a completed task has seen none. -/
theorem stopsOnFailure_iff_reportsNothingEarly (task : SiiReader) (slaveAddress : SlaveAddress)
    (siiAddress : UInt16) (socket : PduSocket) (replies : List Reply)
    (hbuf : requiredBufferSize ≤ socket.dataBuf.length) :
    (Transition.Along Driven.step StopsOnFailure
        ⟨task.start slaveAddress siiAddress, socket⟩ replies ∧
      ∀ d, Transition.run Driven.step ⟨task.start slaveAddress siiAddress, socket⟩ replies = .ok d →
        d.task.state = .complete →
        Transition.Along Driven.step
          (fun d reply => ∀ recv ∈ d.seen reply, d.task.failures recv = [])
          ⟨task.start slaveAddress siiAddress, socket⟩ replies) ↔
      Transition.Along Driven.step ReportsNothingEarly
        ⟨task.start slaveAddress siiAddress, socket⟩ replies := by
  have hkeeps : ∀ (P : Driven SiiReader → Reply → Prop) d reply d',
      requiredBufferSize ≤ d.socket.dataBuf.length → P d reply → d.step reply = .ok d' →
      requiredBufferSize ≤ d'.socket.dataBuf.length :=
    fun _ d reply d' hlength _ hstep => (Driven.length_dataBuf_step hstep).symm ▸ hlength
  constructor
  · rintro ⟨hstops, -⟩
    refine Transition.along_mono ?_ (Transition.along_invariant
      (fun d => requiredBufferSize ≤ d.socket.dataBuf.length) (hkeeps _) hbuf hstops)
    exact fun d reply h => (stopsOnFailure_iff h.1).mp h.2
  · intro hquiet
    have hstops : Transition.Along Driven.step StopsOnFailure
        ⟨task.start slaveAddress siiAddress, socket⟩ replies := by
      refine Transition.along_mono ?_ (Transition.along_invariant
        (fun d => requiredBufferSize ≤ d.socket.dataBuf.length) (hkeeps _) hbuf hquiet)
      exact fun d reply h => (stopsOnFailure_iff h.1).mpr h.2
    exact ⟨hstops, fun d hrun hcomplete => complete_of_stopsOnFailure hstops hrun hcomplete⟩

/-- One slave that answers with `data`. -/
def answers (data : List UInt8) : Reply := ⟨fun pdu => { pdu with data := data, wkc := 1 }, 0⟩

/-- Reading word 0 of the slave with the station address 1. -/
def startOfWordZero : Driven SiiReader :=
  ⟨new.start (.stationAddress 1) 0, .new (List.replicate 8 0)⟩

/-- A clean read from the first PDU to the data. -/
theorem stopsOnFailure_iff_reportsNothingEarly_clean :
    Transition.Along Driven.step StopsOnFailure startOfWordZero
      ([[], [0, 0], [0, 0], [0, 0], [0, 0, 0, 0], [0, 0], [0, 0], [1, 2, 3, 4, 0, 0, 0, 0]].map
        answers) :=
  ((stopsOnFailure_iff_reportsNothingEarly new (.stationAddress 1) 0 (.new (List.replicate 8 0))
    _ (by decide)).mpr (by decide +kernel)).1

/-- The checksum error of the `SiiControl` response is followed by a write of `SiiAccess`. -/
theorem stopsOnFailure_fails_on_checkSumError :
    (¬ Transition.Along Driven.step StopsOnFailure startOfWordZero
      ([[], [0, 0x08]].map answers)) ∧
    ∃ d, Transition.run Driven.step startOfWordZero ([[], [0, 0x08]].map answers) = .ok d ∧
      d.socket.command = some ⟨.fpwr, 1, SiiAccess.address⟩ := by
  have hgoesOn : ((Transition.run Driven.step startOfWordZero
      ([[], [0, 0x08]].map answers)).toOption.map (fun d => d.socket.command)) =
      some (some ⟨.fpwr, 1, SiiAccess.address⟩) := by decide +kernel
  refine ⟨fun hstops => ?_, ?_⟩
  · have hquiet := Transition.along_mono (fun d reply h => (stopsOnFailure_iff h.1).mp h.2)
      (Transition.along_invariant (fun d => requiredBufferSize ≤ d.socket.dataBuf.length)
        (fun d reply d' hlength _ hstep => (Driven.length_dataBuf_step hstep).symm ▸ hlength)
        (by decide) hstops)
    exact absurd hquiet (by decide +kernel)
  · cases hrun : Transition.run Driven.step startOfWordZero ([[], [0, 0x08]].map answers) with
    | error e => rw [hrun] at hgoesOn; cases hgoesOn
    | ok d =>
        rw [hrun] at hgoesOn
        exact ⟨d, rfl, Option.some.inj hgoesOn⟩

end SiiReader

end EtherCat
