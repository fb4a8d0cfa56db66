import EtherCat.Task.NeverStuck

/-!
# Tasks that check their responses

A task that completes has seen nothing but responses to its own PDUs: each echoes the command that
was out and carries the working counter of its step.  One response that does not, and the task has
failed for good.  The response of the first step is to a PDU that the socket still held when the
task was started.  It belongs to none of its PDUs, and the task checks it against the command that
`start` has left: a response that happens to pass is not noticed.
-/

namespace EtherCat

open Rust Rust.Exec

/-- A response that a busy task has processed: the PDU that was out, and the working counter that
the step expects. -/
structure Arrival where
  outstanding : Option Pdu
  recv : Pdu
  expected : UInt16
  deriving DecidableEq

/-- The response has the command of the PDU and the working counter that is expected. -/
def Arrival.Accepted (arrival : Arrival) : Prop :=
  ∃ sent, arrival.outstanding = some sent ∧ arrival.recv.Echoes sent.command ∧
    arrival.recv.wkc = arrival.expected

lemma Arrival.accepted_iff (sent recv : Pdu) (expected : UInt16) :
    Arrival.Accepted ⟨some sent, recv, expected⟩ ↔
      recv.Echoes sent.command ∧ recv.wkc = expected := by
  constructor
  · rintro ⟨_, hsent, haccepted⟩
    cases hsent
    exact haccepted
  · exact fun haccepted => ⟨sent, rfl, haccepted⟩

/-- The PDU in the socket. -/
def PduSocket.outstanding (socket : PduSocket) : Option Pdu :=
  socket.command.map fun command => ⟨command, socket.dataBuf.take socket.dataLength, 0⟩

namespace Driven

variable {T : Type} [CyclicTask T]

/-- The response that a step shows to a busy task. -/
def arrivals (expected : T → UInt16) (d : Driven T) (reply : Reply) : List Arrival :=
  if CyclicTask.isBusy d.task then
    (d.seen reply).toList.map fun recv => ⟨d.socket.outstanding, recv, expected d.task⟩
  else []

/-- What the first step of a started task shows to it: no PDU of the task is out yet. -/
def firstArrivals (expected : T → UInt16) (d₀ : Driven T) (first : Reply) : List Arrival :=
  (arrivals expected d₀ first).map fun arrival => { arrival with outstanding := none }

/-- A condition on the first response that a started task is shown, from the command that `start`
has left and the working counter that the first step expects. -/
abbrev FirstResponse := Command → UInt16 → Option Pdu → Prop

/-- Nothing is asked of the first response. -/
def AnyFirst : FirstResponse := fun _ _ _ => True

/-- The first response does not pass for one to a PDU of the task. -/
def NoStale : FirstResponse := fun command expected shown =>
  ∀ recv ∈ shown, ¬ (recv.Echoes command ∧ recv.wkc = expected)

/-- The beginning of a run: a task that was started, and the response that its first step shows. -/
structure Begins (Started : T → Prop) (expected : T → UInt16) (command : T → Command)
    (Admits : FirstResponse) (d₀ : Driven T) (first : Reply) : Prop where
  started : Started d₀.task
  admits : Admits (command d₀.task) (expected d₀.task) (d₀.seen first)

/-- What a run of a started task shows, from its first step `first` on. -/
def arrived (expected : T → UInt16) (d₀ d : Driven T) (first : Reply) (replies : List Reply) :
    List Arrival :=
  firstArrivals expected d₀ first ++ Transition.log step (arrivals expected) d replies

/-- **A task that checks its responses**, in every run that begins with a response admitted. -/
structure ChecksResponses (Started Failed Completed : T → Prop) (expected : T → UInt16)
    (command : T → Command) (Admits : FirstResponse) : Prop where
  accepted_of_completed : ∀ (d₀ d d' : Driven T) (first : Reply) (replies : List Reply),
    Begins Started expected command Admits d₀ first → d₀.step first = .ok d →
    Transition.run step d replies = .ok d' → Completed d'.task →
    ∀ arrival ∈ arrived expected d₀ d first replies, arrival.Accepted
  failed_of_not_accepted : ∀ (d₀ d d' : Driven T) (first : Reply) (replies : List Reply),
    Begins Started expected command Admits d₀ first → d₀.step first = .ok d →
    Transition.run step d replies = .ok d' →
    (∃ arrival ∈ arrived expected d₀ d first replies, ¬ arrival.Accepted) →
    Failed d'.task ∧ ¬ Completed d'.task ∧ d'.socket.outstanding = none
  first_returns_of_not_accepted : ∀ (d₀ : Driven T) (first : Reply),
    Begins Started expected command Admits d₀ first →
    (∃ arrival ∈ firstArrivals expected d₀ first, ¬ arrival.Accepted) →
    ∃ d, d₀.step first = .ok d
  returns_of_not_accepted : ∀ (d₀ d d' : Driven T) (first reply : Reply) (replies : List Reply),
    Begins Started expected command Admits d₀ first → d₀.step first = .ok d →
    Transition.run step d replies = .ok d' →
    (∃ arrival ∈ arrivals expected d' reply, ¬ arrival.Accepted) →
    ∃ d'', d'.step reply = .ok d''

/-! ## The rule -/

omit [CyclicTask T] in
/-- A response comes to a PDU. -/
lemma outstanding_of_seen {d : Driven T} {reply : Reply} {recv : Pdu}
    (h : d.seen reply = some recv) : ∃ command, d.socket.command = some command := by
  rcases hcommand : d.socket.command with _ | command
  · rcases hflag : d.socket.recvFlag
    all_goals
      simp [seen, PduSocket.answer, PduSocket.takePdu, PduSocket.getRecievedPdu, hflag, hcommand,
        Except.toOption] at h
  · exact ⟨command, rfl⟩

omit [CyclicTask T] in
/-- A socket without a PDU shows none. -/
lemma seen_store_none {d : Driven T} {dataBuf : List UInt8}
    (h : d.socket = .store none dataBuf) (reply : Reply) : d.seen reply = none := by
  rcases hseen : d.seen reply with _ | recv
  · rfl
  · obtain ⟨command, hcommand⟩ := outstanding_of_seen hseen
    rw [h] at hcommand
    cases hcommand

/-- What a task does that checks its responses. -/
structure StepChecks (Failed : T → Prop) (expected : T → UInt16) (command : T → Command)
    (Ready : T → Prop) : Prop where
  next : ∀ {task task' : T} {buf buf' : List UInt8} {pdu : Option (Command × ℕ)}, Ready task →
    CyclicTask.nextPdu task buf = .ok ((pdu, buf'), task') →
    Ready task' ∧ ∀ c ∈ pdu.map Prod.fst, c = command task'
  process : ∀ {task task' : T} {recv : Pdu} {time : ℕ}, Ready task →
    CyclicTask.recieveAndProcess task recv time = .ok task' → Ready task'
  refused : ∀ {task : T} {recv : Pdu} (time : ℕ), Ready task → CyclicTask.isBusy task = true →
    ¬ (recv.Echoes (command task) ∧ recv.wkc = expected task) →
    ∃ task', CyclicTask.recieveAndProcess task recv time = .ok task' ∧ Failed task'
  failed : ∀ {task : T} (buf : List UInt8), Failed task →
    CyclicTask.nextPdu task buf = .ok ((none, buf), task)

section

variable {Started Failed Completed : T → Prop} {expected : T → UInt16} {command : T → Command}
  {Ready : T → Prop}

/-- What holds before every step: all responses were accepted, and the PDU that is out is the
task's own; or the task has failed. -/
def Checked (Failed : T → Prop) (command : T → Command) (Ready : T → Prop) (d : Driven T)
    (arrived : List Arrival) : Prop :=
  ((∀ arrival ∈ arrived, arrival.Accepted) ∧ Ready d.task ∧
      ∀ c, d.socket.command = some c → c = command d.task) ∨
    (Failed d.task ∧ ∃ dataBuf, d.socket = .store none dataBuf)

lemma checked_of_next (hchecks : StepChecks Failed expected command Ready) {task : T}
    {d : Driven T} {buf dataBuf : List UInt8} {pdu : Option (Command × ℕ)}
    {arrived : List Arrival} (harrived : ∀ arrival ∈ arrived, arrival.Accepted)
    (hready : Ready task) (hnext : CyclicTask.nextPdu task buf = .ok ((pdu, dataBuf), d.task))
    (hsocket : d.socket = .store pdu dataBuf) : Checked Failed command Ready d arrived := by
  obtain ⟨hready', hcommand⟩ := hchecks.next hready hnext
  refine .inl ⟨harrived, hready', fun c hc => hcommand c ?_⟩
  rw [hsocket] at hc
  exact hc

/-- A response that the checks refuse ends the task. -/
lemma step_of_refused (hchecks : StepChecks Failed expected command Ready) {d : Driven T}
    {reply : Reply} {recv : Pdu} (hready : Ready d.task) (hbusy : CyclicTask.isBusy d.task = true)
    (hseen : d.seen reply = some recv)
    (hrefused : ¬ (recv.Echoes (command d.task) ∧ recv.wkc = expected d.task)) :
    ∃ d', d.step reply = .ok d' ∧ Failed d'.task ∧ ∃ dataBuf, d'.socket = .store none dataBuf := by
  obtain ⟨task, hrecieve, hfailed⟩ := hchecks.refused reply.time hready hbusy hrefused
  obtain ⟨dataBuf, -, hstep⟩ := step_of_seen hseen
  refine ⟨⟨task, .store none dataBuf⟩, ?_, hfailed, dataBuf, rfl⟩
  rw [hstep, hrecieve, ok_bind, hchecks.failed dataBuf hfailed, ok_bind]

/-- What the first step shows is not accepted, and under the condition it ends the task. -/
lemma step_of_firstArrivals (hchecks : StepChecks Failed expected command Ready) {d : Driven T}
    {reply : Reply} (hready : Ready d.task)
    (hadmits : NoStale (command d.task) (expected d.task) (d.seen reply)) {arrival : Arrival}
    (harrival : arrival ∈ firstArrivals expected d reply) :
    ∃ d', d.step reply = .ok d' ∧ Failed d'.task ∧ ∃ dataBuf, d'.socket = .store none dataBuf := by
  obtain ⟨shown, hshown, -⟩ := List.mem_map.mp harrival
  unfold arrivals at hshown
  split at hshown
  · next hbusy =>
      obtain ⟨recv, hseen, -⟩ := List.mem_map.mp hshown
      replace hseen := Option.mem_toList.mp hseen
      exact step_of_refused hchecks hready hbusy hseen (hadmits recv hseen)
  · cases hshown

/-- The step that starts the task. -/
lemma checked_of_started (hchecks : StepChecks Failed expected command Ready)
    {d d' : Driven T} {reply : Reply} (hready : Ready d.task)
    (hadmits : NoStale (command d.task) (expected d.task) (d.seen reply))
    (h : d.step reply = .ok d') :
    Checked Failed command Ready d' (firstArrivals expected d reply) := by
  rcases hfirst : firstArrivals expected d reply with _ | ⟨arrival, rest⟩
  · have hmeets : Meets (fun _ _ _ _ => True) d reply := fun _ _ => trivial
    obtain ⟨task, dataBuf, pdu, dataBuf', -, hprocessed, hnext, hsocket⟩ := step_eq_ok hmeets h
    refine checked_of_next hchecks (by simp) ?_ hnext hsocket
    rcases hprocessed with rfl | ⟨recv, time, -, hrecieve⟩
    · exact hready
    · exact hchecks.process hready hrecieve
  · have harrival : arrival ∈ firstArrivals expected d reply := by
      rw [hfirst]
      exact List.mem_cons_self
    obtain ⟨d₁, hstep, hfailed⟩ := step_of_firstArrivals hchecks hready hadmits harrival
    cases hstep.symm.trans h
    exact .inr hfailed

/-- A response that is not accepted ends the task. -/
lemma step_of_not_accepted (hchecks : StepChecks Failed expected command Ready)
    {d : Driven T} {reply : Reply} {arrived : List Arrival}
    (hinv : Checked Failed command Ready d arrived)
    (hrefused : ∃ arrival ∈ arrivals expected d reply, ¬ arrival.Accepted) :
    ∃ d', d.step reply = .ok d' ∧ Failed d'.task ∧ ∃ dataBuf, d'.socket = .store none dataBuf := by
  obtain ⟨arrival, harrival, hnot⟩ := hrefused
  unfold arrivals at harrival
  split at harrival
  · next hbusy =>
      obtain ⟨recv, hseen, rfl⟩ := List.mem_map.mp harrival
      replace hseen := Option.mem_toList.mp hseen
      rcases hinv with ⟨-, hready, hcommand⟩ | ⟨-, dataBuf, hsocket⟩
      · obtain ⟨c, hc⟩ := outstanding_of_seen hseen
        rw [PduSocket.outstanding, hc, Option.map_some, Arrival.accepted_iff, hcommand c hc] at hnot
        exact step_of_refused hchecks hready hbusy hseen hnot
      · rw [seen_store_none hsocket] at hseen
        cases hseen
  · cases harrival

/-- **A step.** -/
lemma checked_step (hchecks : StepChecks Failed expected command Ready) {d d' : Driven T}
    {reply : Reply} {arrived : List Arrival} (hinv : Checked Failed command Ready d arrived)
    (h : d.step reply = .ok d') :
    Checked Failed command Ready d' (arrived ++ arrivals expected d reply) := by
  by_cases hrefused : ∃ arrival ∈ arrivals expected d reply, ¬ arrival.Accepted
  · obtain ⟨d₁, hstep, hfailed⟩ := step_of_not_accepted hchecks hinv hrefused
    cases hstep.symm.trans h
    exact .inr hfailed
  · push Not at hrefused
    have hmeets : Meets (fun _ _ _ _ => True) d reply := fun _ _ => trivial
    rcases hinv with ⟨harrived, hready, hcommand⟩ | ⟨hfailed, dataBuf, hsocket⟩
    · obtain ⟨task, dataBuf, pdu, dataBuf', -, hprocessed, hnext, hsocket⟩ := step_eq_ok hmeets h
      refine checked_of_next hchecks ?_ ?_ hnext hsocket
      · intro arrival harrival
        rcases List.mem_append.mp harrival with hold | hnew
        · exact harrived arrival hold
        · exact hrefused arrival hnew
      · rcases hprocessed with rfl | ⟨recv, time, -, hrecieve⟩
        · exact hready
        · exact hchecks.process hready hrecieve
    · obtain ⟨dataBuf', pdu, dataBuf'', -, hnext, hsocket'⟩ :=
        step_eq_ok_of_unseen (seen_store_none hsocket reply) h
      rw [hchecks.failed dataBuf' hfailed] at hnext
      obtain ⟨hpair, htask⟩ := Prod.mk.inj (Except.ok.inj hnext)
      cases hpair
      exact .inr ⟨htask ▸ hfailed, _, hsocket'⟩

/-- **The rule for tasks that check their responses.** -/
theorem checksResponses_of_stepChecks {Admits : FirstResponse}
    (hchecks : StepChecks Failed expected command Ready)
    (hstarted : ∀ task, Started task → Ready task)
    (hcompleted : ∀ task, Completed task → ¬ Failed task)
    (hadmits : ∀ c n shown, Admits c n shown → NoStale c n shown) :
    ChecksResponses Started Failed Completed expected command Admits := by
  have hkept : ∀ {d₀ d d' : Driven T} {first : Reply} {replies : List Reply},
      Begins Started expected command Admits d₀ first → d₀.step first = .ok d →
      Transition.run step d replies = .ok d' →
      Checked Failed command Ready d' (arrived expected d₀ d first replies) := by
    intro d₀ d d' first replies hbegins hfirst hrun
    have hinv := checked_of_started hchecks (hstarted _ hbegins.started)
      (hadmits _ _ _ hbegins.admits) hfirst
    exact Transition.run_log_invariant (Checked Failed command Ready)
      (fun d reply d' arrived hinv hstep => checked_step hchecks hinv hstep) hinv hrun
  constructor
  · intro d₀ d d' first replies hbegins hfirst hrun hcomplete
    rcases hkept hbegins hfirst hrun with ⟨harrived, -⟩ | ⟨hfailed, -⟩
    · exact harrived
    · exact absurd hfailed (hcompleted _ hcomplete)
  · rintro d₀ d d' first replies hbegins hfirst hrun ⟨arrival, harrival, hnot⟩
    rcases hkept hbegins hfirst hrun with ⟨harrived, -⟩ | ⟨hfailed, dataBuf, hsocket⟩
    · exact absurd (harrived arrival harrival) hnot
    · exact ⟨hfailed, fun hcomplete => hcompleted _ hcomplete hfailed, by rw [hsocket]; rfl⟩
  · rintro d₀ first hbegins ⟨arrival, harrival, -⟩
    obtain ⟨d, hstep, -⟩ := step_of_firstArrivals hchecks (hstarted _ hbegins.started)
      (hadmits _ _ _ hbegins.admits) harrival
    exact ⟨d, hstep⟩
  · intro d₀ d d' first reply replies hbegins hfirst hrun hrefused
    obtain ⟨d'', hstep, -⟩ := step_of_not_accepted hchecks (hkept hbegins hfirst hrun) hrefused
    exact ⟨d'', hstep⟩

end

end Driven

end EtherCat
