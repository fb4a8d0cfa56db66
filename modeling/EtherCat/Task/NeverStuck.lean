import EtherCat.Task.CyclicTask

/-!
# Tasks that always have a PDU out

A driven task can only go on by the response to a PDU.  It is never stuck if, after every step, a
busy task has a PDU in its socket; and if it is built of inner tasks, it reports the failure of an
inner one in the step in which the inner one fails.
-/

namespace EtherCat

namespace Driven

variable {T : Type} [CyclicTask T]

/-- A condition on a response: the length of the buffer, the task, the response and its time. -/
abbrev Condition (T : Type) := ℕ → T → Pdu → ℕ → Prop

/-- No condition. -/
abbrev AnyResponse : Condition T := fun _ _ _ _ => True

/-- The response that the step shows to the task, if there is one, meets the condition. -/
def Meets (C : Condition T) (d : Driven T) (reply : Reply) : Prop :=
  ∀ recv, d.seen reply = some recv → C d.socket.dataBuf.length d.task recv reply.time

/-- A failure of the inner task is an old one, or it is reported by the outer task. -/
def Reports {E : Type} (inner outer : T → Option E) (task task' : T) : Prop :=
  ∀ e, inner task' = some e → inner task = some e ∨ outer task' = some e

/-- A task without inner tasks has nothing to report. -/
abbrev NoInner : T → T → Prop := fun _ _ => True

/-- In every run of a started task whose responses meet the condition, every step leaves a busy
task with a PDU in the socket and relates the tasks before and after it as `R` says.  The socket
that the task is started on is any. -/
def NeverStuck (Started : T → Prop) (C : Condition T) (R : T → T → Prop) : Prop :=
  ∀ (d d' d'' : Driven T) (replies : List Reply) (reply : Reply), Started d.task →
    Transition.Along step (Meets C) d (replies ++ [reply]) →
    Transition.run step d replies = .ok d' → d'.step reply = .ok d'' →
    (CyclicTask.isBusy d''.task = true → d''.socket.command.isSome = true) ∧ R d'.task d''.task

/-- The task as it gives its next PDU: it has processed a response that meets the condition, or
there was none. -/
def Processed (C : Condition T) (n : ℕ) (task task' : T) : Prop :=
  task' = task ∨ ∃ recv time, C n task recv time ∧
    CyclicTask.recieveAndProcess task recv time = .ok task'

/-- A step processes the response and gives the next PDU. -/
lemma step_eq_ok {C : Condition T} {d d' : Driven T} {reply : Reply} (hmeets : Meets C d reply)
    (h : d.step reply = .ok d') :
    ∃ task dataBuf pdu dataBuf', dataBuf.length = d.socket.dataBuf.length ∧
      Processed C d.socket.dataBuf.length d.task task ∧
      CyclicTask.nextPdu task dataBuf = .ok ((pdu, dataBuf'), d'.task) ∧
      d'.socket = .store pdu dataBuf' := by
  rcases hseen : d.seen reply with _ | recv
  · obtain ⟨dataBuf, pdu, dataBuf', hlength, hnext, hsocket⟩ := step_eq_ok_of_unseen hseen h
    exact ⟨d.task, dataBuf, pdu, dataBuf', hlength, .inl rfl, hnext, hsocket⟩
  · obtain ⟨dataBuf, task, pdu, dataBuf', hlength, hrecieve, hnext, hsocket⟩ :=
      step_eq_ok_of_seen hseen h
    exact ⟨task, dataBuf, pdu, dataBuf', hlength,
      .inr ⟨recv, reply.time, hmeets recv hseen, hrecieve⟩, hnext, hsocket⟩

/-- **The rule for tasks that are never stuck.**  The invariant `Out` holds of the task while its
PDU is out. -/
theorem neverStuck_of_invariant {Started : T → Prop} {C : Condition T} {R : T → T → Prop}
    (Out : ℕ → T → Prop) (hstart : ∀ n task, Started task → Out n task)
    (hstep : ∀ (task task₁ task₂ : T) (buf buf' : List UInt8) (pdu : Option (Command × ℕ)),
      Out buf.length task → Processed C buf.length task task₁ →
      CyclicTask.nextPdu task₁ buf = .ok ((pdu, buf'), task₂) →
      Out buf.length task₂ ∧ (CyclicTask.isBusy task₂ = true → pdu.isSome = true) ∧
        R task task₂) :
    NeverStuck Started C R := by
  have hkeeps : ∀ (d : Driven T) (reply : Reply) (d' : Driven T),
      Out d.socket.dataBuf.length d.task → Meets C d reply → d.step reply = .ok d' →
      Out d'.socket.dataBuf.length d'.task ∧
        (CyclicTask.isBusy d'.task = true → d'.socket.command.isSome = true) ∧
        R d.task d'.task := by
    intro d reply d' hout hmeets hd'
    obtain ⟨task, dataBuf, pdu, dataBuf', hlength, hprocessed, hnext, hsocket⟩ :=
      step_eq_ok hmeets hd'
    rw [← hlength] at hout hprocessed
    obtain ⟨hout', hpdu, hreports⟩ := hstep _ _ _ _ _ _ hout hprocessed hnext
    refine ⟨?_, fun hbusy => ?_, hreports⟩
    · rw [length_dataBuf_step hd', ← hlength]
      exact hout'
    · rw [hsocket, PduSocket.store, Option.isSome_map]
      exact hpdu hbusy
  intro d d' d'' replies reply hstarted halong hrun hlast
  obtain ⟨halong, hend⟩ := Transition.along_append_iff.mp halong
  have hout : Out d'.socket.dataBuf.length d'.task :=
    Transition.run_invariant (fun d : Driven T => Out d.socket.dataBuf.length d.task)
      (fun d reply d₁ hout hmeets hstep => (hkeeps d reply d₁ hout hmeets hstep).1)
      (hstart _ _ hstarted) halong hrun
  exact (hkeeps d' reply d'' hout (hend d' hrun).1 hlast).2

/-- A stronger condition on the responses allows fewer runs. -/
lemma NeverStuck.mono {Started : T → Prop} {C C' : Condition T} {R : T → T → Prop}
    (h : NeverStuck Started C R)
    (himp : ∀ n task recv time, C' n task recv time → C n task recv time) :
    NeverStuck Started C' R := by
  intro d d' d'' replies reply hstarted halong hrun hstep
  have hmeets : ∀ (d : Driven T) (reply : Reply), Meets C' d reply → Meets C d reply :=
    fun _ _ hmeets recv hseen => himp _ _ _ _ (hmeets recv hseen)
  exact h d d' d'' replies reply hstarted (Transition.along_mono hmeets halong) hrun hstep

/-- A task without inner tasks whose next PDU is there whenever it is busy. -/
theorem neverStuck_of_nextPdu {Started : T → Prop}
    (hnext : ∀ (task task' : T) (buf buf' : List UInt8) (pdu : Option (Command × ℕ)),
      CyclicTask.nextPdu task buf = .ok ((pdu, buf'), task') →
      CyclicTask.isBusy task' = true → pdu.isSome = true) :
    NeverStuck Started AnyResponse NoInner :=
  neverStuck_of_invariant (fun _ _ => True) (fun _ _ _ => trivial)
    fun _ _ _ _ _ _ _ _ h => ⟨trivial, hnext _ _ _ _ _ h, trivial⟩

end Driven

end EtherCat
