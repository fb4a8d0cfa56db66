import EtherCat.Task.NeverStuck
import EtherCat.Task.SlaveInitialize

/-!
# What a step of `SlaveInitTask` does

In the states that drive an inner task, the inner task is busy while its PDU is out, so that it has
a next PDU unless it has ended; and how it has ended decides the next state.
-/

namespace EtherCat

open Rust Rust.Exec CyclicTask

namespace AlStateTransferTask

/-- The error that a task has ended with. -/
def failure (task : AlStateTransferTask) : Option (TaskError AlStateTransferTaskError) :=
  match task.state with
  | .error e => some e
  | _ => none

lemma busy_start (task : AlStateTransferTask) (slaveAddress : TargetSlave) (target : AlState) :
    (task.start slaveAddress target).isBusy = true := rfl

lemma failure_of_busy {task : AlStateTransferTask} (h : task.isBusy = true) :
    task.failure = none := by
  unfold isBusy at h
  unfold failure
  split at h <;> simp_all

/-- A busy task has a next PDU. -/
lemma nextPdu_busy {task task' : AlStateTransferTask} {buf buf' : List UInt8}
    {pdu : Option (Command × ℕ)} (h : task.nextPdu buf = .ok ((pdu, buf'), task')) :
    task'.isBusy = task.isBusy ∧ (task.isBusy = true → pdu.isSome = true) := by
  unfold nextPdu at h
  split at h
  case h_1 hstate | h_2 hstate | h_9 hstate =>
    cases h
    exact ⟨rfl, fun hbusy => by rw [isBusy, hstate] at hbusy; cases hbusy⟩
  all_goals
    obtain ⟨rfl, rfl, -⟩ := send_eq_ok h
    exact ⟨rfl, fun _ => rfl⟩

/-- A busy task that has processed a response is busy, or it has a result. -/
lemma recieveAndProcess_busy {task task' : AlStateTransferTask} {recv : Pdu} {sysTime : ℕ}
    (hbusy : task.isBusy = true) (h : task.recieveAndProcess recv sysTime = .ok task') :
    task'.isBusy = true ∨ task'.waitResult.isSome = true := by
  have hresult : task'.state ≠ .idle → task'.isBusy = true ∨ task'.waitResult.isSome = true := by
    intro hidle
    unfold isBusy waitResult
    rcases hstate : task'.state <;> simp_all
  apply hresult
  have hchecked : (task.checked recv).state ≠ .idle := by
    by_cases haccepted : recv.Echoes task.command ∧ recv.wkc = task.slaveAddress.numTargets
    · rw [checked, checkedState_of_accepted _ haccepted]
      intro hidle
      rw [isBusy, hidle] at hbusy
      cases hbusy
    · obtain ⟨e, he⟩ := checkedState_of_not_accepted State.error haccepted task.state
      rw [checked, he]
      rintro ⟨⟩
  unfold recieveAndProcess at h
  dsimp only at h
  split at h
  case h_1 hstate => exact absurd hstate hchecked
  case h_2 hstate | h_3 hstate =>
    cases h
    rw [hstate]
    rintro ⟨⟩
  case h_4 =>
    obtain ⟨state, -, h⟩ := bind_eq_ok.mp h
    dsimp only at h
    split at h
    · cases h
      rintro ⟨⟩
    · obtain ⟨changeErr, -, h⟩ := bind_eq_ok.mp h
      split at h <;> · cases h; rintro ⟨⟩
  case h_9 hstate =>
    obtain ⟨state, -, h⟩ := bind_eq_ok.mp h
    dsimp only at h
    split at h
    · cases h
      rintro ⟨⟩
    · obtain ⟨changeErr, -, h⟩ := bind_eq_ok.mp h
      split at h
      · obtain ⟨code, -, h⟩ := bind_eq_ok.mp h
        obtain ⟨alStatusCode, -, heq⟩ := bind_eq_ok.mp h
        cases heq
        rintro ⟨⟩
      · split at h
        · cases h
          rintro ⟨⟩
        · cases h
          dsimp only
          rw [hstate]
          rintro ⟨⟩
  all_goals
    cases h
    rintro ⟨⟩

end AlStateTransferTask

namespace SiiReader

/-- The error that a task has ended with. -/
def failure (task : SiiReader) : Option (TaskError SiiTaskError) :=
  match task.state with
  | .error e => some e
  | _ => none

lemma busy_start (task : SiiReader) (slaveAddress : SlaveAddress) (siiAddress : UInt16) :
    (task.start slaveAddress siiAddress).isBusy = true := rfl

lemma failure_of_busy {task : SiiReader} (h : task.isBusy = true) : task.failure = none := by
  unfold isBusy at h
  unfold failure
  split at h <;> simp_all

/-- A busy task has a next PDU. -/
lemma nextPdu_busy {task task' : SiiReader} {buf buf' : List UInt8} {pdu : Option (Command × ℕ)}
    (h : task.nextPdu buf = .ok ((pdu, buf'), task')) :
    task'.isBusy = task.isBusy ∧ (task.isBusy = true → pdu.isSome = true) := by
  unfold nextPdu at h
  dsimp only at h
  split at h
  case h_1 hstate | h_2 hstate | h_10 hstate =>
    cases h
    exact ⟨rfl, fun hbusy => by rw [isBusy, hstate] at hbusy; cases hbusy⟩
  all_goals
    obtain ⟨pdu', hrequest, heq⟩ := bind_eq_ok.mp h
    cases heq
    exact ⟨rfl, fun _ => by rw [request_pdu hrequest]; rfl⟩

/-- A busy task that has processed a response is busy, or it has a result. -/
lemma recieveAndProcess_busy {task task' : SiiReader} {recv : Pdu} {sysTime : ℕ}
    (hbusy : task.isBusy = true) (h : task.recieveAndProcess recv sysTime = .ok task') :
    task'.isBusy = true ∨ task'.waitResult.isSome = true := by
  have hresult : task'.state ≠ .idle → task'.isBusy = true ∨ task'.waitResult.isSome = true := by
    intro hidle
    unfold isBusy waitResult
    rcases hstate : task'.state <;> simp_all
  apply hresult
  have hchecked : (task.checked recv).state ≠ .idle := by
    by_cases haccepted : recv.Echoes task.command ∧ recv.wkc = 1
    · rw [checked, checkedState_of_accepted _ haccepted]
      intro hidle
      rw [isBusy, hidle] at hbusy
      cases hbusy
    · obtain ⟨e, he⟩ := checkedState_of_not_accepted State.error haccepted task.state
      rw [checked, he]
      rintro ⟨⟩
  unfold recieveAndProcess at h
  dsimp only at h
  split at h
  case h_1 hstate => exact absurd hstate hchecked
  case h_2 hstate | h_10 hstate =>
    cases h
    rw [hstate]
    rintro ⟨⟩
  case h_3 =>
    simp only [processInit, bind_eq_ok] at h
    obtain ⟨_, -, _, -, _, -, _, -, _, -, _, -, _, -, _, -, heq⟩ := h
    cases heq
    rintro ⟨⟩
  case h_5 =>
    simp only [processCheckOwnership, bind_eq_ok] at h
    obtain ⟨_, -, _, -, heq⟩ := h
    cases heq
    rintro ⟨⟩
  case h_8 hstate =>
    simp only [processWait, bind_eq_ok] at h
    obtain ⟨_, -, _, -, _, -, heq⟩ := h
    cases heq
    split
    · rintro ⟨⟩
    · split
      · rintro ⟨⟩
      · split
        · rintro ⟨⟩
        · rw [hstate]
          rintro ⟨⟩
  all_goals
    cases h
    rintro ⟨⟩

end SiiReader

namespace SlaveInitTask

/-- The error that a task has ended with. -/
def failure (task : SlaveInitTask) : Option (TaskError SlaveInitTaskError) :=
  match task.state with
  | .error e => some e
  | _ => none

/-- The failure of the inner task, as the outer task would report it. -/
def innerFailure (task : SlaveInitTask) : Option (TaskError SlaveInitTaskError) :=
  match task.inner with
  | .this => none
  | .sii reader => reader.failure.map (TaskError.map .siiRead)
  | .alStateTransferTask alTransfer => alTransfer.failure.map (TaskError.map .alStateTransition)

lemma innerFailure_of_sii {task : SlaveInitTask} {reader : SiiReader}
    (h : task.inner = .sii reader) :
    task.innerFailure = reader.failure.map (TaskError.map .siiRead) := by
  rw [innerFailure, h]

lemma innerFailure_of_alStateTransfer {task : SlaveInitTask} {alTransfer : AlStateTransferTask}
    (h : task.inner = .alStateTransferTask alTransfer) :
    task.innerFailure = alTransfer.failure.map (TaskError.map .alStateTransition) := by
  rw [innerFailure, h]

/-- The state does not wait for an inner task that was started before. -/
def State.Fresh (state : State) : Prop :=
  state.nesting ≠ .alStateTransfer false ∧ state.nesting ≠ .sii false

/-- What carries a run while a PDU is out: the inner task that the state drives is busy. -/
def Out (task : SlaveInitTask) : Prop :=
  match task.state.nesting with
  | .none => True
  | .alStateTransfer _ =>
    ∃ alTransfer, task.inner = .alStateTransferTask alTransfer ∧ alTransfer.isBusy = true
  | .sii _ => ∃ reader, task.inner = .sii reader ∧ reader.isBusy = true

/-- And before the next PDU: it is busy, or it is still to be started. -/
def Ready (task : SlaveInitTask) : Prop := task.state.Fresh ∨ task.Out

lemma isBusy_of_nesting {task : SlaveInitTask} (h : task.state.nesting ≠ .none) :
    task.isBusy = true := by
  unfold isBusy
  rcases hstate : task.state <;> rw [hstate] at h
  case idle | error | complete => exact absurd rfl h

@[simp] lemma noteCommand_state (task : SlaveInitTask) (pdu : Option (Command × ℕ)) :
    (task.noteCommand pdu).state = task.state := by
  unfold noteCommand
  split <;> rfl

@[simp] lemma noteCommand_inner (task : SlaveInitTask) (pdu : Option (Command × ℕ)) :
    (task.noteCommand pdu).inner = task.inner := by
  unfold noteCommand
  split <;> rfl

/-- A PDU of the inner task of the state `RequestInitState`. -/
lemma nextAlStateTransfer_busy {task task' : SlaveInitTask} {isFirst : Bool}
    {buf buf' : List UInt8} {pdu : Option (Command × ℕ)}
    (hready : isFirst = true ∨
      ∃ alTransfer, task.inner = .alStateTransferTask alTransfer ∧ alTransfer.isBusy = true)
    (h : task.nextAlStateTransfer isFirst buf = .ok ((pdu, buf'), task')) :
    task'.state = task.state ∧ pdu.isSome = true ∧
      ∃ alTransfer, task'.inner = .alStateTransferTask alTransfer ∧ alTransfer.isBusy = true := by
  obtain ⟨alTransfer, alTransfer', hinto, hnext, rfl⟩ := nextAlStateTransfer_eq_ok h
  have hbusy : (if isFirst then alTransfer.start (.single task.slaveAddress) .init
      else alTransfer).isBusy = true := by
    rcases hready with rfl | ⟨alTransfer₁, hinner, hbusy⟩
    · exact alTransfer.busy_start _ _
    · rw [hinner] at hinto
      cases hinto
      split
      · exact alTransfer.busy_start _ _
      · exact hbusy
  obtain ⟨hsame, hpdu⟩ := AlStateTransferTask.nextPdu_busy hnext
  exact ⟨noteCommand_state _ _, hpdu hbusy, alTransfer', noteCommand_inner _ _,
    hsame.trans hbusy⟩

/-- A PDU of the inner task of a state that reads the EEPROM. -/
lemma nextSii_busy {task task' : SlaveInitTask} {isFirst : Bool} {siiAddress : UInt16}
    {buf buf' : List UInt8} {pdu : Option (Command × ℕ)}
    (hready : isFirst = true ∨ ∃ reader, task.inner = .sii reader ∧ reader.isBusy = true)
    (h : task.nextSii isFirst siiAddress buf = .ok ((pdu, buf'), task')) :
    task'.state = task.state ∧ pdu.isSome = true ∧
      ∃ reader, task'.inner = .sii reader ∧ reader.isBusy = true := by
  obtain ⟨reader, reader', hinner, hnext, rfl⟩ := nextSii_eq_ok h
  have hbusy : (if isFirst then reader.start task.slaveAddress siiAddress
      else reader).isBusy = true := by
    rcases hready with rfl | ⟨reader₁, hinner₁, hbusy⟩
    · exact reader.busy_start _ _
    · rw [hinner₁] at hinner
      cases hinner
      split
      · exact reader.busy_start _ _
      · exact hbusy
  obtain ⟨hsame, hpdu⟩ := SiiReader.nextPdu_busy hnext
  exact ⟨noteCommand_state _ _, hpdu hbusy, reader', noteCommand_inner _ _, hsame.trans hbusy⟩

/-- **The next PDU.** -/
lemma nextPdu_out {task task' : SlaveInitTask} {buf buf' : List UInt8}
    {pdu : Option (Command × ℕ)} (hready : task.Ready)
    (h : task.nextPdu buf = .ok ((pdu, buf'), task')) :
    task'.state = task.state ∧ task'.Out ∧ (task.isBusy = true → pdu.isSome = true) ∧
      (task'.inner = task.inner ∨ task'.innerFailure = none) := by
  rcases nextPdu_cases h with ⟨hidle, -, rfl⟩ | ⟨hnone, task₁, hstate, hinner, command, size,
    assignments, hsend⟩ | ⟨isFirst, hnesting, hnext⟩ |
    ⟨isFirst, hnesting, task₁, hstate, hinner, siiAddress, hnext⟩
  · have hnone : task'.state.nesting = .none := by
      by_contra hnesting
      rw [isBusy_of_nesting hnesting] at hidle
      cases hidle
    refine ⟨rfl, ?_, fun hbusy => ?_, .inl rfl⟩
    · rw [Out, hnone]
      trivial
    · rw [hidle] at hbusy
      cases hbusy
  · obtain ⟨rfl, -, rfl⟩ := send_eq_ok hsend
    refine ⟨hstate, ?_, fun _ => rfl, .inl hinner⟩
    rw [← hstate] at hnone
    rw [Out, hnone]
    trivial
  · obtain ⟨hstate, hpdu, hinner⟩ := nextAlStateTransfer_busy (by
      rcases hready with hfresh | hout
      · rcases isFirst with _ | _
        · exact absurd hnesting hfresh.1
        · exact .inl rfl
      · rw [Out, hnesting] at hout
        exact .inr hout) hnext
    refine ⟨hstate, ?_, fun _ => hpdu, .inr ?_⟩
    · rw [Out, hstate, hnesting]
      exact hinner
    · obtain ⟨alTransfer, hinner, hbusy⟩ := hinner
      rw [innerFailure_of_alStateTransfer hinner, AlStateTransferTask.failure_of_busy hbusy]
      rfl
  · obtain ⟨hstate', hpdu, hinner'⟩ := nextSii_busy (by
      rcases hready with hfresh | hout
      · rcases isFirst with _ | _
        · exact absurd hnesting hfresh.2
        · exact .inl rfl
      · rw [Out, hnesting] at hout
        obtain ⟨reader, hreader, hbusy⟩ := hout
        refine .inr ⟨reader, ?_, hbusy⟩
        rcases hinner with hinner | hinner
        · exact hinner.trans hreader
        · rw [hinner, hreader]
          rfl) hnext
    rw [hstate] at hstate'
    refine ⟨hstate', ?_, fun _ => hpdu, .inr ?_⟩
    · rw [Out, hstate', hnesting]
      exact hinner'
    · obtain ⟨reader, hinner, hbusy⟩ := hinner'
      rw [innerFailure_of_sii hinner, SiiReader.failure_of_busy hbusy]
      rfl

/-- The response goes to the task itself or to the inner task. -/
lemma processState_cases {task task' : SlaveInitTask} {recv : Pdu} {sysTime : ℕ}
    (h : task.processState recv sysTime = .ok task') :
    (task'.state.Fresh ∧ task'.inner = task.inner ∧ (task'.state = .idle → task.state = .idle)) ∨
    (∃ isFirst, task.state.nesting = .alStateTransfer isFirst ∧
      task.processAlStateTransfer recv sysTime = .ok task') ∨
    (∃ isFirst, task.state.nesting = .sii isFirst ∧ ∃ again next done,
      again.nesting = .sii false ∧ next.Fresh ∧ next ≠ .idle ∧
      task.processSii recv sysTime again next done = .ok task') := by
  have hfresh : ∀ state : State, state.nesting = .none ∨ state.nesting = .alStateTransfer true ∨
      state.nesting = .sii true → state.Fresh := by
    rintro state (h | h | h) <;> constructor <;> simp [h]
  unfold processState at h
  dsimp only at h
  split at h
  case h_1 hstate | h_2 hstate | h_3 hstate =>
    cases h
    exact .inl ⟨hfresh _ (by rw [hstate]; exact .inl rfl), rfl, id⟩
  case h_4 =>
    cases h
    exact .inl ⟨hfresh _ (.inr (.inl rfl)), rfl, by rintro ⟨⟩⟩
  case h_5 isFirst hstate => exact .inr (.inl ⟨isFirst, by rw [hstate]; rfl, h⟩)
  case h_10 =>
    obtain ⟨pdiOperational, -, h⟩ := bind_eq_ok.mp h
    split at h
    · cases h
      exact .inl ⟨hfresh _ (.inl rfl), rfl, by rintro ⟨⟩⟩
    · simp only [bind_eq_ok] at h
      obtain ⟨_, -, _, -, _, -, _, -, _, -, heq⟩ := h
      cases heq
      exact .inl ⟨hfresh _ (.inl rfl), rfl, by rintro ⟨⟩⟩
  case h_11 =>
    simp only [processDlInfo, bind_eq_ok] at h
    obtain ⟨_, -, _, -, _, -, _, -, _, -, _, -, _, -, _, -, _, -, _, -, _, -, _, -, _, -, _, -,
      heq⟩ := h
    cases heq
    exact .inl ⟨hfresh _ (.inl rfl), rfl, by rintro ⟨⟩⟩
  case h_12 =>
    cases h
    dsimp only
    split <;> exact .inl ⟨hfresh _ (.inl rfl), rfl, by rintro ⟨⟩⟩
  case h_13 =>
    cases h
    dsimp only
    split
    · exact .inl ⟨hfresh _ (.inl rfl), rfl, by rintro ⟨⟩⟩
    · exact .inl ⟨hfresh _ (.inr (.inr rfl)), rfl, by rintro ⟨⟩⟩
  case h_14 isFirst hstate | h_15 isFirst hstate | h_16 isFirst hstate | h_17 isFirst hstate
    | h_18 isFirst hstate | h_19 isFirst hstate | h_20 isFirst hstate =>
    exact .inr (.inr ⟨isFirst, by rw [hstate]; rfl, _, _, _, rfl, hfresh _ (.inr (.inr rfl)),
      by rintro ⟨⟩, h⟩)
  case h_21 isFirst hstate =>
    exact .inr (.inr ⟨isFirst, by rw [hstate]; rfl, _, _, _, rfl, hfresh _ (.inl rfl), by rintro ⟨⟩,
      h⟩)
  case h_23 =>
    cases h
    dsimp only
    split <;> exact .inl ⟨hfresh _ (.inl rfl), rfl, by rintro ⟨⟩⟩
  case h_25 =>
    obtain ⟨info, -, h⟩ := bind_eq_ok.mp h
    obtain ⟨strictAlControl, -, heq⟩ := bind_eq_ok.mp h
    cases heq
    dsimp only
    split <;> exact .inl ⟨hfresh _ (.inl rfl), rfl, by rintro ⟨⟩⟩
  all_goals
    cases h
    exact .inl ⟨hfresh _ (.inl rfl), rfl, by rintro ⟨⟩⟩

/-- A response to the inner task of the state `RequestInitState`. -/
lemma processAlStateTransfer_ready {task task' : SlaveInitTask} {recv : Pdu} {sysTime : ℕ}
    (hout : ∃ alTransfer, task.inner = .alStateTransferTask alTransfer ∧ alTransfer.isBusy = true)
    (h : task.processAlStateTransfer recv sysTime = .ok task') :
    task'.Ready ∧ task'.state ≠ .idle ∧
      ∀ e, task'.innerFailure = some e → task'.failure = some e := by
  obtain ⟨alTransfer, hinner, hbusy⟩ := hout
  obtain ⟨alTransfer₁, hunwrap, h⟩ := bind_eq_ok.mp h
  rw [hinner] at hunwrap
  cases hunwrap
  obtain ⟨⟨next, alTransfer'⟩, hprocess, heq⟩ := bind_eq_ok.mp h
  cases heq
  obtain ⟨alTransfer₂, hrecieve, hnext⟩ := bind_eq_ok.mp hprocess
  have hended := AlStateTransferTask.recieveAndProcess_busy hbusy hrecieve
  rcases hresult : alTransfer₂.waitResult with _ | e | alState
  · rw [hresult] at hnext hended
    cases hnext
    have hbusy' := hended.resolve_right Bool.false_ne_true
    refine ⟨.inr ⟨_, rfl, hbusy'⟩, by rintro ⟨⟩, fun e he => ?_⟩
    rw [innerFailure_of_alStateTransfer rfl, AlStateTransferTask.failure_of_busy hbusy'] at he
    cases he
  · have hfailure : alTransfer₂.failure = some e := by
      unfold AlStateTransferTask.waitResult at hresult
      unfold AlStateTransferTask.failure
      split at hresult <;> simp_all
    rw [hresult] at hnext
    cases hnext
    refine ⟨.inl ⟨by rintro ⟨⟩, by rintro ⟨⟩⟩, by rintro ⟨⟩, fun e' he => ?_⟩
    rw [innerFailure_of_alStateTransfer rfl, hfailure] at he
    exact he
  · rw [hresult] at hnext
    have hfailure : alTransfer₂.failure = none := by
      unfold AlStateTransferTask.waitResult at hresult
      unfold AlStateTransferTask.failure
      split at hresult <;> simp_all
    cases alState with
    | init =>
        cases hnext
        refine ⟨.inl ⟨by rintro ⟨⟩, by rintro ⟨⟩⟩, by rintro ⟨⟩, fun e he => ?_⟩
        rw [innerFailure_of_alStateTransfer rfl, hfailure] at he
        cases he
    | _ => cases hnext

/-- A response to the inner task of a state that reads the EEPROM. -/
lemma processSii_ready {task task' : SlaveInitTask} {recv : Pdu} {sysTime : ℕ} {again next : State}
    {done : SlaveInfo → List UInt8 → Exec SlaveInfo}
    (hout : ∃ reader, task.inner = .sii reader ∧ reader.isBusy = true)
    (hagain : again.nesting = .sii false) (hnext : next.Fresh) (hidle : next ≠ .idle)
    (h : task.processSii recv sysTime again next done = .ok task') :
    task'.Ready ∧ task'.state ≠ .idle ∧
      ∀ e, task'.innerFailure = some e → task'.failure = some e := by
  obtain ⟨reader, hinner, hbusy⟩ := hout
  obtain ⟨reader₁, hunwrap, h⟩ := bind_eq_ok.mp h
  rw [hinner] at hunwrap
  cases hunwrap
  obtain ⟨reader', hrecieve, h⟩ := bind_eq_ok.mp h
  have hended := SiiReader.recieveAndProcess_busy hbusy hrecieve
  dsimp only at h
  rcases hresult : reader'.waitResult with _ | e | ⟨data, size⟩
  · rw [hresult] at h hended
    cases h
    have hbusy' := hended.resolve_right Bool.false_ne_true
    refine ⟨.inr ?_, fun hidle => ?_, fun e he => ?_⟩
    · rw [Out, hagain]
      exact ⟨reader', rfl, hbusy'⟩
    · dsimp only at hidle
      rw [hidle] at hagain
      cases hagain
    · rw [innerFailure_of_sii rfl, SiiReader.failure_of_busy hbusy'] at he
      cases he
  · rw [hresult] at h
    cases h
    refine ⟨.inl ⟨by rintro ⟨⟩, by rintro ⟨⟩⟩, by rintro ⟨⟩, fun e' he => ?_⟩
    have hfailure : reader'.failure = some e := by
      unfold SiiReader.waitResult at hresult
      unfold SiiReader.failure
      split at hresult <;> simp_all
    rw [innerFailure_of_sii rfl, hfailure] at he
    exact he
  · rw [hresult] at h
    obtain ⟨info, -, h⟩ := bind_eq_ok.mp h
    obtain ⟨info', -, heq⟩ := bind_eq_ok.mp h
    cases heq
    have hfailure : reader'.failure = none := by
      unfold SiiReader.waitResult at hresult
      unfold SiiReader.failure
      split at hresult <;> simp_all
    refine ⟨.inl hnext, hidle, fun e he => ?_⟩
    rw [innerFailure_of_sii rfl, hfailure] at he
    cases he

/-- **A response.** -/
lemma recieveAndProcess_ready {task task' : SlaveInitTask} {recv : Pdu} {sysTime : ℕ}
    (hout : task.Out) (h : task.recieveAndProcess recv sysTime = .ok task') :
    task'.Ready ∧ (task'.state = .idle → task.state = .idle) ∧
      Driven.Reports innerFailure failure task task' := by
  by_cases haccepted : recv.Echoes task.command ∧ recv.wkc = 1
  · rw [recieveAndProcess, checked, checkedState_of_accepted _ haccepted] at h
    rcases processState_cases h with ⟨hfresh, hinner, hidle⟩ | ⟨isFirst, hnesting, hprocess⟩ |
      ⟨isFirst, hnesting, again, next, done, hagain, hnext, hidle, hprocess⟩
    · refine ⟨.inl hfresh, hidle, fun e he => .inl ?_⟩
      rw [← he, innerFailure, innerFailure, hinner]
    · rw [Out, hnesting] at hout
      obtain ⟨hready, hidle, hreports⟩ := processAlStateTransfer_ready hout hprocess
      exact ⟨hready, fun hstate => absurd hstate hidle, fun e he => .inr (hreports e he)⟩
    · rw [Out, hnesting] at hout
      obtain ⟨hready, hidle', hreports⟩ := processSii_ready hout hagain hnext hidle hprocess
      exact ⟨hready, fun hstate => absurd hstate hidle', fun e he => .inr (hreports e he)⟩
  · obtain ⟨e, herror⟩ := checkedState_of_not_accepted State.error haccepted task.state
    rw [recieveAndProcess, checked, herror] at h
    cases h
    exact ⟨.inl ⟨by rintro ⟨⟩, by rintro ⟨⟩⟩, by rintro ⟨⟩, fun e he => .inl he⟩

/-- **A step.** -/
lemma step_out {n : ℕ} {task task₁ task₂ : SlaveInitTask} {buf buf' : List UInt8}
    {pdu : Option (Command × ℕ)} (hout : task.Out)
    (hprocessed : Driven.Processed Driven.AnyResponse n task task₁)
    (hnext : task₁.nextPdu buf = .ok ((pdu, buf'), task₂)) :
    task₂.Out ∧ (task₂.isBusy = true → pdu.isSome = true) ∧
      Driven.Reports innerFailure failure task task₂ := by
  have hready : task₁.Ready ∧ Driven.Reports innerFailure failure task task₁ := by
    rcases hprocessed with rfl | ⟨recv, time, -, hrecieve⟩
    · exact ⟨.inr hout, fun e he => .inl he⟩
    · obtain ⟨hready, -, hreports⟩ := recieveAndProcess_ready hout hrecieve
      exact ⟨hready, hreports⟩
  obtain ⟨hstate, hout', hpdu, hinner⟩ := nextPdu_out hready.1 hnext
  refine ⟨hout', fun hbusy => hpdu ?_, fun e he => ?_⟩
  · rw [← hbusy, isBusy, isBusy, hstate]
  · rcases hinner with hinner | hnone
    · have he' : task₁.innerFailure = some e := by
        rw [← he, innerFailure, innerFailure, hinner]
      rw [failure, hstate]
      exact hready.2 e he'
    · rw [hnone] at he
      cases he

end SlaveInitTask

end EtherCat
