import EtherCat.Task.NetworkInitilize
import EtherCat.Task.SlaveInitSteps

/-!
# What a step of `NetworkInitTask` does

While the PDU of the inner `SlaveInitTask` is out, the inner task is busy.  Its first response is
the exception: the task goes on to wait for the inner one without a look at its result, so that it
has to be a response that the inner task accepts.
-/

namespace EtherCat

open Rust Rust.Exec BitField CyclicTask

namespace NetworkInitTask

/-- The error that a task has ended with. -/
def failure (task : NetworkInitTask) : Option (TaskError NetworkInitTaskError) :=
  match task.state with
  | .error e => some e
  | _ => none

/-- The failure of the inner task, as the outer task would report it. -/
def innerFailure (task : NetworkInitTask) : Option (TaskError NetworkInitTaskError) :=
  task.initilizer.failure.map (TaskError.map .init)

/-- Failures of the inner task are reported, and so are failures of the task inside that one. -/
structure ReportsAll (task task' : NetworkInitTask) : Prop where
  initilizer : Driven.Reports innerFailure failure task task'
  inner : Driven.Reports (fun task => task.initilizer.innerFailure)
    (fun task => task.initilizer.failure) task task'

/-- A response to the first PDU of an inner task comes from the slave. -/
def AcceptsFirst (_n : ℕ) (task : NetworkInitTask) (recv : Pdu) (_time : ℕ) : Prop :=
  (∃ count, task.state = .startInitSlaves count) → recv.Echoes task.command → recv.wkc = 1

/-- What carries a run while a PDU is out. -/
def Out (task : NetworkInitTask) : Prop :=
  match task.state with
  | .startInitSlaves _ =>
    task.initilizer.state = .setLoopPort ∧ task.initilizer.command = task.command
  | .waitInitSlaves _ => task.initilizer.isBusy = true ∧ task.initilizer.Out
  | _ => True

/-- And before the next PDU. -/
def Ready (task : NetworkInitTask) : Prop :=
  ∀ count, task.state = .waitInitSlaves count →
    task.initilizer.isBusy = true ∧ task.initilizer.Ready

lemma Out.ready {task : NetworkInitTask} (h : task.Out) : task.Ready := by
  intro count hstate
  rw [Out, hstate] at h
  exact ⟨h.1, .inr h.2⟩

lemma ReportsAll.of_eq {task task' : NetworkInitTask} (h : task'.initilizer = task.initilizer) :
    ReportsAll task task' where
  initilizer e he := .inl (by rwa [innerFailure, h] at he)
  inner e he := .inl (by
    dsimp only at he ⊢
    rwa [h] at he)

/-- The first PDU of an inner task. -/
lemma nextPdu_start {initilizer initilizer' : SlaveInitTask} {count : UInt16}
    {buf buf' : List UInt8} {pdu : Option (Command × ℕ)}
    (h : (initilizer.start count).nextPdu buf = .ok ((pdu, buf'), initilizer')) :
    initilizer'.state = .setLoopPort ∧ initilizer'.inner = initilizer.inner ∧
      pdu.map Prod.fst = some initilizer'.command := by
  change (initilizer.start count).send _ _ _ buf = _ at h
  obtain ⟨rfl, -, rfl⟩ := SlaveInitTask.send_eq_ok h
  exact ⟨rfl, rfl, rfl⟩

/-- **The next PDU.** -/
lemma nextPdu_out {task task' : NetworkInitTask} {buf buf' : List UInt8}
    {pdu : Option (Command × ℕ)} (hready : task.Ready)
    (h : task.nextPdu buf = .ok ((pdu, buf'), task')) :
    task'.state = task.state ∧ task'.Out ∧ (task'.isBusy = true → pdu.isSome = true) ∧
      (task'.initilizer = task.initilizer ∨
        (∃ count, task.state = .startInitSlaves count) ∧ task'.initilizer.failure = none ∧
          task'.initilizer.innerFailure = task.initilizer.innerFailure ∨
        task'.initilizer.failure = task.initilizer.failure ∧
          (task'.initilizer.innerFailure = none ∨
            task'.initilizer.innerFailure = task.initilizer.innerFailure)) := by
  unfold nextPdu at h
  split at h
  case h_1 hstate | h_2 hstate | h_6 hstate =>
    cases h
    refine ⟨rfl, ?_, fun hbusy => ?_, .inl rfl⟩
    · rw [Out, hstate]
      trivial
    · rw [isBusy, hstate] at hbusy
      cases hbusy
  case h_3 hstate =>
    obtain ⟨pdu', hrequest, heq⟩ := bind_eq_ok.mp h
    cases heq
    refine ⟨rfl, ?_, fun _ => by rw [request_pdu hrequest]; rfl, .inl rfl⟩
    dsimp only [Out]
    rw [hstate]
    trivial
  case h_4 count hstate =>
    obtain ⟨initilizer, hnext, rfl⟩ := nextInitilizer_eq_ok h
    obtain ⟨hsetLoopPort, hinner, hpdu⟩ := nextPdu_start hnext
    refine ⟨rfl, ?_, fun _ => ?_, .inr (.inl ⟨⟨count, hstate⟩, ?_, ?_⟩)⟩
    · dsimp only [Out]
      rw [hstate]
      exact ⟨hsetLoopPort, by rw [hpdu]; rfl⟩
    · rw [← Option.isSome_map, hpdu]
      rfl
    · rw [SlaveInitTask.failure, hsetLoopPort]
    · rw [SlaveInitTask.innerFailure, SlaveInitTask.innerFailure, hinner]
  case h_5 count hstate =>
    obtain ⟨initilizer, hnext, rfl⟩ := nextInitilizer_eq_ok h
    obtain ⟨hbusy, hinit⟩ := hready count hstate
    obtain ⟨hsame, hout, hpdu, hinner⟩ := SlaveInitTask.nextPdu_out hinit hnext
    refine ⟨rfl, ?_, fun _ => hpdu hbusy, .inr (.inr ⟨?_, ?_⟩)⟩
    · dsimp only [Out]
      rw [hstate]
      exact ⟨by rw [← hbusy, SlaveInitTask.isBusy, SlaveInitTask.isBusy, hsame], hout⟩
    · rw [SlaveInitTask.failure, SlaveInitTask.failure, hsame]
    · rcases hinner with hinner | hnone
      · right
        rw [SlaveInitTask.innerFailure, SlaveInitTask.innerFailure, hinner]
      · exact .inl hnone

/-- The first response of an inner task. -/
lemma recieveAndProcess_first {initilizer initilizer' : SlaveInitTask} {recv : Pdu} {sysTime : ℕ}
    (hstate : initilizer.state = .setLoopPort)
    (haccepted : recv.Echoes initilizer.command ∧ recv.wkc = 1)
    (h : initilizer.recieveAndProcess recv sysTime = .ok initilizer') :
    initilizer'.state = .requestInitState true ∧ initilizer'.inner = initilizer.inner := by
  rw [SlaveInitTask.recieveAndProcess, SlaveInitTask.checked,
    checkedState_of_accepted _ haccepted, hstate] at h
  cases h
  exact ⟨rfl, rfl⟩

/-- A slave has been initialised. -/
lemma pushInitialized_spec {task task' : NetworkInitTask} {count : UInt16} {info : SlaveInfo}
    (h : task.pushInitialized count info = .ok task') :
    task'.initilizer = task.initilizer ∧
      ∀ count, task'.state ≠ .waitInitSlaves count := by
  obtain ⟨⟨pushed, network⟩, -, h⟩ := bind_eq_ok.mp h
  rcases pushed with slave | _
  · cases h
    exact ⟨rfl, by rintro _ ⟨⟩⟩
  · obtain ⟨next, -, heq⟩ := bind_eq_ok.mp h
    cases heq
    refine ⟨rfl, fun count' => ?_⟩
    dsimp only
    split <;> rintro ⟨⟩

/-- A failed inner task has had its failure before, or has reported it by now. -/
lemma innerFailure_of_complete {initilizer initilizer' : SlaveInitTask}
    (hreports : Driven.Reports SlaveInitTask.innerFailure SlaveInitTask.failure initilizer
      initilizer') (hfailure : initilizer'.failure = none) {e : TaskError SlaveInitTaskError}
    (he : initilizer'.innerFailure = some e) : initilizer.innerFailure = some e := by
  apply (hreports e he).resolve_right
  rw [hfailure]
  rintro ⟨⟩

/-- The response of a slave that is being initialised. -/
lemma processWaitInitSlaves_ready {task task' : NetworkInitTask} {count : UInt16} {recv : Pdu}
    {sysTime : ℕ} (hstate : task.state = .waitInitSlaves count)
    (hbusy : task.initilizer.isBusy = true) (hout : task.initilizer.Out)
    (h : task.processWaitInitSlaves count recv sysTime = .ok task') :
    task'.Ready ∧ ReportsAll task task' ∧
      ((∃ count, task'.state = .startInitSlaves count) → ∀ e,
        task'.initilizer.innerFailure = some e → task.initilizer.innerFailure = some e) := by
  obtain ⟨initilizer, hrecieve, h⟩ := bind_eq_ok.mp h
  obtain ⟨hready, hidle, hreports⟩ := SlaveInitTask.recieveAndProcess_ready hout hrecieve
  have hfailed := @innerFailure_of_complete _ _ hreports
  rcases hinit : initilizer.state
  case complete =>
    have hfailure : initilizer.failure = none := by rw [SlaveInitTask.failure, hinit]
    rw [SlaveInitTask.waitResult, hinit] at h
    dsimp only at h
    rcases hinfo : initilizer.slaveInfo with _ | info
    · rw [hinfo] at h
      cases h
    · rw [hinfo] at h
      obtain ⟨hinitilizer, hwait⟩ := pushInitialized_spec h
      have hfailure' : task'.initilizer.failure = none := by
        rw [hinitilizer]
        rfl
      have hinner : task'.initilizer.innerFailure = initilizer.innerFailure := by
        rw [hinitilizer]
        rfl
      refine ⟨fun count hcount => absurd hcount (hwait count), ⟨fun e he => ?_, fun e he => ?_⟩,
        fun _ e he => hfailed hfailure (hinner ▸ he)⟩
      · rw [innerFailure, hfailure'] at he
        cases he
      · exact .inl (hfailed hfailure (hinner ▸ he))
  case error e =>
    have hfailure : initilizer.failure = some e := by rw [SlaveInitTask.failure, hinit]
    rw [SlaveInitTask.waitResult, hinit] at h
    cases h
    refine ⟨by rintro _ ⟨⟩, ⟨fun e' he => ?_, hreports⟩, by rintro ⟨_, ⟨⟩⟩⟩
    rw [innerFailure, hfailure] at he
    exact .inr he
  case idle =>
    rw [SlaveInitTask.isBusy, hidle hinit] at hbusy
    cases hbusy
  all_goals
    have hfailure : initilizer.failure = none := by rw [SlaveInitTask.failure, hinit]
    rw [SlaveInitTask.waitResult, hinit] at h
    cases h
    refine ⟨fun _ _ => ⟨by dsimp only; rw [SlaveInitTask.isBusy, hinit], hready⟩,
      ⟨fun e' he => ?_, hreports⟩, fun hstart => ?_⟩
    · rw [innerFailure, hfailure] at he
      cases he
    · obtain ⟨count', hcount⟩ := hstart
      rw [hstate] at hcount
      cases hcount

/-- **A response.** -/
lemma recieveAndProcess_ready {n : ℕ} {task task' : NetworkInitTask} {recv : Pdu} {sysTime : ℕ}
    (hout : task.Out) (haccepts : AcceptsFirst n task recv sysTime)
    (h : task.recieveAndProcess recv sysTime = .ok task') :
    task'.Ready ∧ ReportsAll task task' ∧
      ((∃ count, task'.state = .startInitSlaves count) → ∀ e,
        task'.initilizer.innerFailure = some e → task.initilizer.innerFailure = some e) := by
  by_cases hechoes : recv.Echoes task.command
  · rw [recieveAndProcess, checked, if_pos hechoes] at h
    unfold processState at h
    split at h
    case h_1 hstate | h_2 hstate | h_6 hstate =>
      cases h
      refine ⟨fun count hcount => ?_, .of_eq rfl, fun _ e he => he⟩
      rw [hstate] at hcount
      cases hcount
    case h_3 =>
      cases h
      refine ⟨fun count hcount => ?_, .of_eq rfl, fun _ e he => he⟩
      dsimp only at hcount
      split at hcount <;> cases hcount
    case h_4 count hstate =>
      have hwkc := haccepts ⟨count, hstate⟩ hechoes
      rw [Out, hstate] at hout
      obtain ⟨initilizer, hrecieve, heq⟩ := bind_eq_ok.mp h
      cases heq
      obtain ⟨hnew, hinner⟩ := recieveAndProcess_first hout.1 (by
        rw [hout.2]
        exact ⟨hechoes, hwkc⟩) hrecieve
      have hinner' : initilizer.innerFailure = task.initilizer.innerFailure := by
        rw [SlaveInitTask.innerFailure, SlaveInitTask.innerFailure, hinner]
      refine ⟨fun _ _ => ⟨?_, .inl ?_⟩, ⟨fun e he => ?_, fun e he => ?_⟩,
        by rintro ⟨_, ⟨⟩⟩⟩
      · dsimp only
        rw [SlaveInitTask.isBusy, hnew]
      · dsimp only
        rw [hnew]
        exact ⟨by rintro ⟨⟩, by rintro ⟨⟩⟩
      · rw [innerFailure, SlaveInitTask.failure, hnew] at he
        cases he
      · exact .inl (hinner'.symm.trans he)
    case h_5 count hstate =>
      rw [Out, hstate] at hout
      exact processWaitInitSlaves_ready hstate hout.1 hout.2 h
  · rw [recieveAndProcess, checked, if_neg hechoes] at h
    cases h
    exact ⟨by rintro _ ⟨⟩, .of_eq rfl, by rintro ⟨_, ⟨⟩⟩⟩

/-- **A step.** -/
lemma step_out {n : ℕ} {task task₁ task₂ : NetworkInitTask} {buf buf' : List UInt8}
    {pdu : Option (Command × ℕ)} (hout : task.Out)
    (hprocessed : Driven.Processed AcceptsFirst n task task₁)
    (hnext : task₁.nextPdu buf = .ok ((pdu, buf'), task₂)) :
    task₂.Out ∧ (task₂.isBusy = true → pdu.isSome = true) ∧ ReportsAll task task₂ := by
  have hready : task₁.Ready ∧ ReportsAll task task₁ ∧
      ((∃ count, task₁.state = .startInitSlaves count) → ∀ e,
        task₁.initilizer.innerFailure = some e → task.initilizer.innerFailure = some e) := by
    rcases hprocessed with rfl | ⟨recv, time, haccepts, hrecieve⟩
    · exact ⟨hout.ready, .of_eq rfl, fun _ e he => he⟩
    · exact recieveAndProcess_ready hout haccepts hrecieve
  obtain ⟨hready, hreports, hold⟩ := hready
  obtain ⟨hstate, hout', hpdu, hinit⟩ := nextPdu_out hready hnext
  have hfailure : task₂.failure = task₁.failure := by rw [failure, failure, hstate]
  refine ⟨hout', hpdu, ⟨fun e he => ?_, fun e he => ?_⟩⟩
  · rw [hfailure]
    rcases hinit with heq | ⟨-, hnone, -⟩ | ⟨hsame, -⟩
    · rw [innerFailure, heq] at he
      exact hreports.initilizer e he
    · rw [innerFailure, hnone] at he
      cases he
    · rw [innerFailure, hsame] at he
      exact hreports.initilizer e he
  · dsimp only at he ⊢
    rcases hinit with heq | ⟨hstart, -, hsame⟩ | ⟨hsame, hnone | hinner⟩
    · rw [heq] at he ⊢
      exact hreports.inner e he
    · rw [hsame] at he
      exact .inl (hold hstart e he)
    · rw [hnone] at he
      cases he
    · rw [hinner] at he
      rw [hsame]
      exact hreports.inner e he

end NetworkInitTask

end EtherCat
