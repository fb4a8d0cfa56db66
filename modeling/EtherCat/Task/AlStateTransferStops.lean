import EtherCat.Task.AlStateTransferSteps

/-!
# When a change of state comes to an end

An error that the task finds is acknowledged and the AL status read again, for as long as the error
bit is set: only the polls behind the request have a timeout.  Along responses that are as expected,
the task stops exactly if one of these reads shows the target state or no error (`stops_iff`).
-/

namespace EtherCat

open Rust Rust.Exec BitField CyclicTask

namespace AlStateTransferTask

/-- Responses as they should be, at times that grow without bound. -/
structure AreExpected (slaveAddress : TargetSlave) (replies : ℕ → Reply) : Prop where
  confirms : ∀ n, Confirms slaveAddress (replies n)
  known : ∀ n, errorShown slaveAddress (replies n) = true →
    (codeShown slaveAddress (replies n)).isSome
  mono : Monotone fun n => (replies n).time
  unbounded : ∀ bound, ∃ n, bound < (replies n).time

/-- The first steps of an unending run. -/
def runFor (d : Driven AlStateTransferTask) (replies : ℕ → Reply) (n : ℕ) :
    Exec (Driven AlStateTransferTask) :=
  Transition.run Driven.step d ((List.range n).map replies)

/-- The task stops being busy. -/
def Stops (d : Driven AlStateTransferTask) (replies : ℕ → Reply) : Prop :=
  ∃ n d', runFor d replies n = .ok d' ∧ d'.task.isBusy = false

/-- The AL status shows an error and another state than the target. -/
def ErrorStays (slaveAddress : TargetSlave) (targetAl : AlState) (reply : Reply) : Prop :=
  stateShown slaveAddress reply ≠ targetAl ∧ errorShown slaveAddress reply = true

/-- The PDU is out of a task with this property. -/
def Reaches (slaveAddress : TargetSlave) (targetAl : AlState) (d : Driven AlStateTransferTask)
    (replies : ℕ → Reply) (n : ℕ) (P : AlStateTransferTask → Prop) : Prop :=
  ∃ task size buf, runFor d replies n = .ok ⟨task, .store (some (task.command, size)) buf⟩ ∧
    Asking slaveAddress targetAl task size buf ∧ P task

section

variable {slaveAddress : TargetSlave} {targetAl : AlState} {d : Driven AlStateTransferTask}
  {replies : ℕ → Reply} {n : ℕ}

lemma runFor_succ {d' d'' : Driven AlStateTransferTask} (h : runFor d replies n = .ok d')
    (hstep : d'.step (replies n) = .ok d'') : runFor d replies (n + 1) = .ok d'' := by
  rw [runFor, List.range_succ, List.map_append, Transition.run_append_eq_ok_iff]
  exact ⟨d', h, Transition.run_cons_eq_ok_iff.mpr ⟨d'', hstep, Transition.run_nil d''⟩⟩

/-- One more step to a busy task. -/
lemma Reaches.next (hreplies : AreExpected slaveAddress replies)
    {P Q : AlStateTransferTask → Prop} (h : Reaches slaveAddress targetAl d replies n P)
    (hnext : ∀ {task : AlStateTransferTask} {size : ℕ} {buf : List UInt8},
      Asking slaveAddress targetAl task size buf → P task →
      ∃ next, Becomes slaveAddress (replies n) task next ∧ next.isBusy = true ∧
        next.slaveAddress = task.slaveAddress ∧ next.targetAl = task.targetAl ∧
        ∀ task' : AlStateTransferTask, task'.state = next.state →
          task'.timerStart = next.timerStart →
          task'.timeoutMs = (if next.state = .request then
            transitionTimeoutMs next.currentAlState next.targetAl else next.timeoutMs) → Q task') :
    Reaches slaveAddress targetAl d replies (n + 1) Q := by
  obtain ⟨task, size, buf, hrun, hasking, hP⟩ := h
  obtain ⟨next, hbecomes, hbusy, haddress, htarget, hQ⟩ := hnext hasking hP
  obtain ⟨task', size', buf', hstep, hasking', hstate, htimer, -, htimeout⟩ :=
    hasking.step_busy (hreplies.confirms n) hbecomes hbusy
      (haddress.trans hasking.slaveAddress_eq) (htarget.trans hasking.targetAl_eq)
  exact ⟨task', size', buf', runFor_succ hrun hstep, hasking', hQ task' hstate htimer htimeout⟩

/-- And one to a task that is done. -/
lemma Reaches.stops (hreplies : AreExpected slaveAddress replies) {P : AlStateTransferTask → Prop}
    (h : Reaches slaveAddress targetAl d replies n P)
    (hnext : ∀ {task : AlStateTransferTask} {size : ℕ} {buf : List UInt8},
      Asking slaveAddress targetAl task size buf → P task →
      ∃ next, Becomes slaveAddress (replies n) task next ∧ next.isBusy = false) :
    Stops d replies := by
  obtain ⟨task, size, buf, hrun, hasking, hP⟩ := h
  obtain ⟨next, hbecomes, hdone⟩ := hnext hasking hP
  obtain ⟨buf', hstep⟩ := hasking.step_done (hreplies.confirms n) hbecomes hdone
  exact ⟨n + 1, _, runFor_succ hrun hstep, hdone⟩

/-! ## While the error stays -/

/-- Where the task is in the loop that acknowledges an error. -/
def InLoop (n : ℕ) (task : AlStateTransferTask) : Prop :=
  (n % 3 = 1 → task.state = .read) ∧ (n % 3 = 2 → ∃ alState, task.state = .resetError alState) ∧
    (n % 3 = 0 → ∃ alState, task.state = .offAck alState)

lemma InLoop.isBusy {task : AlStateTransferTask} (h : InLoop n task) : task.isBusy = true := by
  obtain ⟨hread, hreset, hoff⟩ := h
  have hmod : n % 3 = 0 ∨ n % 3 = 1 ∨ n % 3 = 2 := by omega
  rcases hmod with hmod | hmod | hmod
  · obtain ⟨alState, hstate⟩ := hoff hmod
    rw [AlStateTransferTask.isBusy, hstate]
  · rw [AlStateTransferTask.isBusy, hread hmod]
  · obtain ⟨alState, hstate⟩ := hreset hmod
    rw [AlStateTransferTask.isBusy, hstate]

/-- The first PDU. -/
lemma reaches_one (task : AlStateTransferTask) {buf : List UInt8}
    (hbuf : requiredBufferSize ≤ buf.length) :
    Reaches slaveAddress targetAl ⟨task.start slaveAddress targetAl, .new buf⟩ replies 1
      (InLoop 1) := by
  obtain ⟨task', size, buf', hask, hasking, hstate, -⟩ :=
    exists_ask (show (task.start slaveAddress targetAl).isBusy = true from rfl) hbuf
  refine ⟨task', size, buf', ?_, hasking, fun _ => hstate, by omega, by omega⟩
  have hstep : (⟨task.start slaveAddress targetAl, .store none buf⟩ :
      Driven AlStateTransferTask).step (replies 0) = _ :=
    Driven.step_of_silent _ _ _
  exact Transition.run_cons_eq_ok_iff.mpr ⟨_, hstep.trans hask, Transition.run_nil _⟩

/-- **The loop**: as long as every read has shown the error. -/
lemma reaches_loop (hreplies : AreExpected slaveAddress replies)
    (hone : Reaches slaveAddress targetAl d replies 1 (InLoop 1)) :
    ∀ n, (∀ k, 3 * k + 1 < n + 1 → ErrorStays slaveAddress targetAl (replies (3 * k + 1))) →
      Reaches slaveAddress targetAl d replies (n + 1) (InLoop (n + 1)) := by
  intro n
  induction n with
  | zero => exact fun _ => hone
  | succ n ih =>
      intro hstays
      have hbefore := ih fun k hk => hstays k (by omega)
      have hmod : (n + 1) % 3 = 0 ∨ (n + 1) % 3 = 1 ∨ (n + 1) % 3 = 2 := by omega
      refine hbefore.next hreplies fun {task size buf} hasking hloop => ?_
      obtain ⟨hread, hreset, hoff⟩ := hloop
      obtain ⟨hresetNext, hoffNext, -, -⟩ := becomes_of_write hasking (replies (n + 1))
      rcases hmod with hmod | hmod | hmod
      · obtain ⟨alState, hstate⟩ := hoff hmod
        exact ⟨_, hoffNext alState hstate, rfl, rfl, rfl,
          fun task' hstate' _ _ => ⟨fun _ => hstate', by omega, by omega⟩⟩
      · -- this read is one of those that show the error
        have hindex : 3 * (n / 3) + 1 = n + 1 := by omega
        obtain ⟨htarget, herror⟩ := hstays (n / 3) (by omega)
        rw [hindex] at htarget herror
        have hnext := becomes_of_read hasking (replies (n + 1)) (hread hmod)
        rw [if_neg htarget, if_pos herror] at hnext
        exact ⟨_, hnext, rfl, rfl, rfl,
          fun task' hstate' _ _ => ⟨by omega, fun _ => ⟨_, hstate'⟩, by omega⟩⟩
      · obtain ⟨alState, hstate⟩ := hreset hmod
        exact ⟨_, hresetNext alState hstate, rfl, rfl, rfl,
          fun task' hstate' _ _ => ⟨by omega, by omega, fun _ => ⟨_, hstate'⟩⟩⟩

/-! ## Behind the request -/

/-- The polls end: an unexpected status or the target ends them, and if neither comes, the time
does. -/
lemma stops_of_poll (hreplies : AreExpected slaveAddress replies)
    (h : Reaches slaveAddress targetAl d replies n fun task => task.state = .poll) :
    Stops d replies := by
  by_contra hruns
  obtain ⟨task₀, size, buf, hrun, hasking, hstate⟩ := h
  -- as long as the task does not stop, it polls, and its timer stays
  have hstays : ∀ m, Reaches slaveAddress targetAl d replies (n + m) fun task =>
      task.state = .poll ∧ task.timerStart = task₀.timerStart ∧
        task.timeoutMs = task₀.timeoutMs := by
    intro m
    induction m with
    | zero => exact ⟨task₀, size, buf, hrun, hasking, hstate, rfl, rfl⟩
    | succ m ih =>
        by_contra hnot
        refine hruns ?_
        obtain ⟨task, size, buf, hrun, hasking, hstate, htimer, htimeout⟩ := ih
        obtain ⟨next, hnext, hshape⟩ := becomes_of_poll hasking (replies (n + m)) hstate
          (hreplies.known (n + m))
        by_cases hdone : next.isBusy = false
        · obtain ⟨buf', hstep⟩ := hasking.step_done (hreplies.confirms _) hnext hdone
          exact ⟨_, _, runFor_succ hrun hstep, hdone⟩
        · have hquiet : ¬ (stateShown slaveAddress (replies (n + m)) = targetAl ∨
              errorShown slaveAddress (replies (n + m)) = true) := by
            intro hends
            rw [if_pos hends] at hshape
            exact hdone hshape
          rw [if_neg hquiet] at hshape
          have hpoll : next.state = .poll := by
            rw [hshape] at hdone ⊢
            dsimp only at hdone ⊢
            split at hdone
            · exact absurd rfl hdone
            · next hlate => rw [if_neg hlate]
          obtain ⟨task', size', buf', hstep, hasking', hstate', htimer', -, htimeout'⟩ :=
            hasking.step_busy (hreplies.confirms _) hnext (by rw [AlStateTransferTask.isBusy, hpoll])
              (by rw [hshape]; exact hasking.slaveAddress_eq)
              (by rw [hshape]; exact hasking.targetAl_eq)
          rw [hpoll, if_neg (by simp)] at htimeout'
          refine absurd ⟨task', size', buf', runFor_succ hrun hstep, hasking',
            hstate'.trans hpoll, ?_, ?_⟩ hnot
          · rw [htimer', hshape]
            exact htimer
          · rw [htimeout', hshape]
            exact htimeout
  -- a response that is late enough
  obtain ⟨late, hlate⟩ :=
    hreplies.unbounded (task₀.timerStart + task₀.timeoutMs * 1000000000)
  have htime : (replies late).time ≤ (replies (n + late)).time :=
    hreplies.mono (Nat.le_add_left late n)
  refine hruns ((hstays late).stops hreplies fun {task size buf} hasking hpolls => ?_)
  obtain ⟨hstate, htimer, htimeout⟩ := hpolls
  obtain ⟨next, hnext, hshape⟩ := becomes_of_poll hasking (replies (n + late)) hstate
    (hreplies.known (n + late))
  refine ⟨next, hnext, ?_⟩
  split at hshape
  · exact hshape
  · have hpassed : task.timeoutMs * 1000000000 < (replies (n + late)).time - task.timerStart := by
      rw [htimer, htimeout]
      omega
    rw [hshape, if_pos hpassed]
    rfl

/-- The loop does not end while every read shows the error. -/
lemma not_stops_of_stays {task : AlStateTransferTask} {buf : List UInt8}
    (hbuf : requiredBufferSize ≤ buf.length) (hreplies : AreExpected slaveAddress replies)
    (hstays : ∀ k, ErrorStays slaveAddress targetAl (replies (3 * k + 1))) :
    ¬ Stops ⟨task.start slaveAddress targetAl, .new buf⟩ replies := by
  rintro ⟨n, d', hrun, hdone⟩
  rcases n with _ | n
  · cases hrun
    cases hdone
  · obtain ⟨task', size, buf', hrun', -, hloop⟩ :=
      reaches_loop hreplies (reaches_one task hbuf) n fun k _ => hstays k
    rw [hrun] at hrun'
    cases hrun'
    rw [hloop.isBusy] at hdone
    cases hdone

/-- The way from the read that leaves the loop. -/
lemma stops_of_leaves (hreplies : AreExpected slaveAddress replies)
    (h : Reaches slaveAddress targetAl d replies n fun task => task.state = .read)
    (hleaves : ¬ ErrorStays slaveAddress targetAl (replies n)) : Stops d replies := by
  by_cases htarget : stateShown slaveAddress (replies n) = targetAl
  · refine h.stops hreplies fun {task size buf} hasking hstate =>
      ⟨_, becomes_of_read hasking _ hstate, ?_⟩
    rw [if_pos htarget]
    rfl
  · have herror : errorShown slaveAddress (replies n) = false :=
      Bool.eq_false_of_not_eq_true fun herror => hleaves ⟨htarget, herror⟩
    have hreset : Reaches slaveAddress targetAl d replies (n + 1) fun task =>
        task.state = .resetSiiOwnership := by
      refine h.next hreplies fun {task size buf} hasking hstate => ?_
      have hnext := becomes_of_read hasking (replies n) hstate
      rw [if_neg htarget, herror, if_neg Bool.false_ne_true] at hnext
      exact ⟨_, hnext, rfl, rfl, rfl, fun task' hstate' _ _ => hstate'⟩
    have hrequest : Reaches slaveAddress targetAl d replies (n + 1 + 1) fun task =>
        task.state = .request :=
      hreset.next hreplies fun {task size buf} hasking hstate =>
        ⟨_, (becomes_of_write hasking (replies (n + 1))).2.2.1 hstate, rfl, rfl, rfl,
          fun task' hstate' _ _ => hstate'⟩
    have hpoll : Reaches slaveAddress targetAl d replies (n + 1 + 1 + 1) fun task =>
        task.state = .poll :=
      hrequest.next hreplies fun {task size buf} hasking hstate =>
        ⟨_, (becomes_of_write hasking (replies (n + 1 + 1))).2.2.2 hstate, rfl, rfl, rfl,
          fun task' hstate' _ _ => hstate'⟩
    exact stops_of_poll hreplies hpoll

end

/-- **When a change of state comes to an end.**  For every target, every requested state and every
unending sequence of responses as they should be: the task stops exactly if one of the reads in its
loop, the responses 1, 4, 7 and so on, shows the target state or no error. -/
theorem stops_iff (task : AlStateTransferTask) (slaveAddress : TargetSlave) (targetAl : AlState)
    (buf : List UInt8) (hbuf : requiredBufferSize ≤ buf.length) (replies : ℕ → Reply)
    (hreplies : AreExpected slaveAddress replies) :
    Stops ⟨task.start slaveAddress targetAl, .new buf⟩ replies ↔
      ∃ k, ¬ ErrorStays slaveAddress targetAl (replies (3 * k + 1)) := by
  constructor
  · intro hstops
    by_contra hstays
    rw [not_exists] at hstays
    exact not_stops_of_stays hbuf hreplies (fun k => not_not.mp (hstays k)) hstops
  · intro hleaves
    classical
    -- the first read that leaves the loop
    have hfirst : ∀ k < Nat.find hleaves,
        ErrorStays slaveAddress targetAl (replies (3 * k + 1)) := fun k hk =>
      not_not.mp (Nat.find_min hleaves hk)
    obtain ⟨task', size, buf', hrun, hasking, hloop⟩ :=
      reaches_loop hreplies (reaches_one task hbuf) (3 * Nat.find hleaves) fun k hk => hfirst k (by omega)
    exact stops_of_leaves hreplies ⟨task', size, buf', hrun, hasking, hloop.1 (by omega)⟩
      (Nat.find_spec hleaves)

/-! ## Slaves that do not change -/

/-- A slave that shows this AL status at every time. -/
def constant (status : List UInt8) (n : ℕ) : Reply where
  respond pdu := { pdu with data := overwrite pdu.data status, wkc := 1 }
  time := n

lemma statusShown_constant {status : List UInt8} (hlength : status.length = AlStatus.size)
    (slaveAddress : TargetSlave) (n : ℕ) : statusShown slaveAddress (constant status n) = status := by
  have hzeros : (List.replicate AlStatus.size (0 : UInt8)).length = AlStatus.size :=
    List.length_replicate ..
  change overwrite (List.replicate AlStatus.size 0)
    (overwrite (List.replicate AlStatus.size 0) status) = status
  rw [overwrite_of_length_eq (hlength.trans hzeros.symm),
    overwrite_of_length_eq (hlength.trans hzeros.symm)]

lemma areExpected_constant (status : List UInt8) (hlength : status.length = AlStatus.size)
    (hcode : (AlStatusCode.tryFrom (.ofNat (AlStatus.alStatusCode.val status))).isSome) :
    AreExpected (.single .default) (constant status) where
  confirms n pdu := ⟨⟨rfl, rfl⟩, rfl⟩
  known n _ := by
    rw [codeShown, statusShown_constant hlength]
    exact hcode
  mono _ _ h := h
  unbounded bound := ⟨bound + 1, Nat.lt_succ_self _⟩

/-- A slave in `PreOperational` whose error bit stays set keeps a change to `Operational` going. -/
theorem errorStays_not_stops :
    AreExpected (.single .default) (constant [0x12, 0, 0, 0, 0x11, 0]) ∧
      ¬ Stops ⟨new.start (.single .default) .operational, .new (List.replicate 6 0)⟩
        (constant [0x12, 0, 0, 0, 0x11, 0]) := by
  have hreplies := areExpected_constant [0x12, 0, 0, 0, 0x11, 0] rfl (by decide +kernel)
  refine ⟨hreplies, not_stops_of_stays (by decide) hreplies fun k => ?_⟩
  rw [ErrorStays, stateShown, errorShown, statusShown_constant rfl]
  decide +kernel

/-- A slave that is in `Operational` already. -/
theorem stops_of_operational :
    Stops ⟨new.start (.single .default) .operational, .new (List.replicate 6 0)⟩
      (constant [8, 0, 0, 0, 0, 0]) := by
  have hreplies := areExpected_constant [8, 0, 0, 0, 0, 0] rfl (by decide +kernel)
  refine (stops_iff new _ _ _ (by decide) _ hreplies).mpr ⟨0, fun hstays => ?_⟩
  rw [ErrorStays, stateShown, errorShown, statusShown_constant rfl] at hstays
  exact absurd hstays (by decide +kernel)

end AlStateTransferTask

end EtherCat
