import EtherCat.Task.CyclicTask

/-!
# What a task and its device exchange

A driven task has one PDU out at a time.  `Exchange` is a PDU that was answered, and the history of
a run lists its exchanges.  The two equations for `Driven.step` say what a step does when a PDU is
out and when none is.
-/

namespace EtherCat

open Rust Rust.Exec

/-- A PDU and its response: the task that had sent it, its data, and what the task was shown. -/
structure Exchange (T : Type) where
  task : T
  data : List UInt8
  recv : Pdu

/-- The response to a PDU has its command and the expected working counter. -/
def Confirms (slaveAddress : TargetSlave) (reply : Reply) : Prop :=
  ∀ pdu, (reply.respond pdu).Echoes pdu.command ∧
    (reply.respond pdu).wkc = slaveAddress.numTargets

namespace Driven

variable {T : Type} [CyclicTask T]

/-- The second half of a step: the next PDU goes into the socket. -/
def ask (task : T) (dataBuf : List UInt8) : Exec (Driven T) := do
  let ((pdu, dataBuf), task) ← CyclicTask.nextPdu task dataBuf
  .ok ⟨task, .store pdu dataBuf⟩

/-- The buffer after the response to a PDU. -/
def answered (command : Command) (size : ℕ) (dataBuf : List UInt8) (reply : Reply) : List UInt8 :=
  overwrite dataBuf (reply.respond ⟨command, dataBuf.take size, 0⟩).data

/-- The response as the task sees it. -/
def shown (command : Command) (size : ℕ) (dataBuf : List UInt8) (reply : Reply) : Pdu where
  command := (reply.respond ⟨command, dataBuf.take size, 0⟩).command
  data := (answered command size dataBuf reply).take size
  wkc := (reply.respond ⟨command, dataBuf.take size, 0⟩).wkc

omit [CyclicTask T] in
@[simp] lemma length_answered (command : Command) (size : ℕ) (dataBuf : List UInt8)
    (reply : Reply) : (answered command size dataBuf reply).length = dataBuf.length :=
  length_overwrite _ _

omit [CyclicTask T] in
lemma length_shown {command : Command} {size : ℕ} {dataBuf : List UInt8}
    (hsize : size ≤ dataBuf.length) (reply : Reply) :
    (shown command size dataBuf reply).data.length = size := by
  rw [shown, List.length_take, length_answered, Nat.min_eq_left hsize]

lemma ask_eq_ok {task : T} {dataBuf : List UInt8} {d : Driven T} (h : ask task dataBuf = .ok d) :
    ∃ pdu dataBuf', CyclicTask.nextPdu task dataBuf = .ok ((pdu, dataBuf'), d.task) ∧
      d.socket = .store pdu dataBuf' := by
  obtain ⟨⟨⟨pdu, dataBuf'⟩, task'⟩, hnext, heq⟩ := bind_eq_ok.mp h
  cases heq
  exact ⟨pdu, dataBuf', hnext, rfl⟩

/-- A step with no PDU out. -/
lemma step_of_silent (task : T) (dataBuf : List UInt8) (reply : Reply) :
    (⟨task, .store none dataBuf⟩ : Driven T).step reply = ask task dataBuf := by
  have hanswer : (PduSocket.store none dataBuf).answer reply.respond =
      .ok (PduSocket.store none dataBuf) := rfl
  have hrecv : (PduSocket.store none dataBuf).getRecievedPdu = .ok none := rfl
  simp only [step, hanswer, ok_bind, CyclicTask.processOneStep, CyclicTask.processResponse, hrecv, ask]
  change (CyclicTask.nextPdu task dataBuf >>= _) >>= _ = _
  rcases CyclicTask.nextPdu task dataBuf with e | ⟨⟨pdu, dataBuf'⟩, task'⟩ <;> rfl

omit [CyclicTask T] in
lemma seen_of_silent (task : T) (dataBuf : List UInt8) (reply : Reply) :
    (⟨task, .store none dataBuf⟩ : Driven T).seen reply = none := rfl

omit [CyclicTask T] in
lemma seen_of_asking {task : T} {command : Command} {size : ℕ} {dataBuf : List UInt8}
    (hsize : size ≤ dataBuf.length) (reply : Reply) :
    (⟨task, .store (some (command, size)) dataBuf⟩ : Driven T).seen reply =
      some (shown command size dataBuf reply) :=
  seen_eq rfl hsize reply

/-- **A step with a PDU out.** -/
lemma step_of_asking {task : T} {command : Command} {size : ℕ} {dataBuf : List UInt8}
    (hsize : size ≤ dataBuf.length) (reply : Reply) :
    (⟨task, .store (some (command, size)) dataBuf⟩ : Driven T).step reply =
      CyclicTask.recieveAndProcess task (shown command size dataBuf reply) reply.time >>= fun task =>
        ask task (answered command size dataBuf reply) := by
  have htake : sliceTo dataBuf size = .ok (dataBuf.take size) :=
    sliceTo_eq_ok_iff.mpr ⟨hsize, rfl⟩
  have htake' : sliceTo (answered command size dataBuf reply) size =
      .ok ((answered command size dataBuf reply).take size) :=
    sliceTo_eq_ok_iff.mpr ⟨by rwa [length_answered], rfl⟩
  have hanswer : (PduSocket.store (some (command, size)) dataBuf).answer reply.respond =
      .ok ⟨some (shown command size dataBuf reply).command, answered command size dataBuf reply,
        (shown command size dataBuf reply).wkc, size, true⟩ := by
    change (sliceTo dataBuf size >>= _) >>= _ = _
    rw [htake]
    rfl
  have hrecv : (⟨some (shown command size dataBuf reply).command,
      answered command size dataBuf reply, (shown command size dataBuf reply).wkc, size,
      true⟩ : PduSocket).getRecievedPdu = .ok (some (shown command size dataBuf reply)) := by
    change (sliceTo (answered command size dataBuf reply) size >>= _) = _
    rw [htake']
    rfl
  simp only [step, hanswer, ok_bind, CyclicTask.processOneStep, CyclicTask.processResponse, hrecv]
  rcases CyclicTask.recieveAndProcess task (shown command size dataBuf reply) reply.time
    with e | task'
  · rfl
  · change (CyclicTask.nextPdu task' _ >>= _) >>= _ = CyclicTask.nextPdu task' _ >>= _
    rcases CyclicTask.nextPdu task' (answered command size dataBuf reply)
      with e | ⟨⟨pdu, dataBuf'⟩, task''⟩ <;> rfl

/-- A PDU that does not fit into the buffer makes the step panic. -/
lemma size_le_of_step {task : T} {command : Command} {size : ℕ} {dataBuf : List UInt8}
    {reply : Reply} {d : Driven T}
    (h : (⟨task, .store (some (command, size)) dataBuf⟩ : Driven T).step reply = .ok d) :
    size ≤ dataBuf.length := by
  obtain ⟨socket, hanswer, -⟩ := bind_eq_ok.mp h
  obtain ⟨⟨taken, sent⟩, htake, -⟩ := bind_eq_ok.mp hanswer
  obtain ⟨data, hdata, -⟩ := bind_eq_ok.mp htake
  exact (sliceTo_eq_ok_iff.mp hdata).1

omit [CyclicTask T] in
/-- A task that is shown a response has a PDU out. -/
lemma asking_of_seen {task : T} {pdu : Option (Command × ℕ)} {dataBuf : List UInt8} {reply : Reply}
    {recv : Pdu} (h : (⟨task, .store pdu dataBuf⟩ : Driven T).seen reply = some recv) :
    ∃ command size, pdu = some (command, size) ∧ size ≤ dataBuf.length ∧
      recv = shown command size dataBuf reply := by
  rcases pdu with _ | ⟨command, size⟩
  · cases h
  · by_cases hsize : size ≤ dataBuf.length
    · rw [seen_of_asking hsize] at h
      exact ⟨command, size, rfl, hsize, (Option.some.inj h).symm⟩
    · have hslice : sliceTo dataBuf size = .error .index := if_neg hsize
      have hanswer : (PduSocket.store (some (command, size)) dataBuf).answer reply.respond =
          .error .index := by
        change (sliceTo dataBuf size >>= _) >>= _ = _
        rw [hslice]
        rfl
      simp only [seen, hanswer] at h
      cases h

/-! ## The history of a run -/

/-- What a step adds to the history. -/
def exchange (d : Driven T) (reply : Reply) : List (Exchange T) :=
  match d.seen reply with
  | some recv => [⟨d.task, d.socket.dataBuf.take d.socket.dataLength, recv⟩]
  | none => []

/-- The PDUs that were answered in a run. -/
def history (d : Driven T) (replies : List Reply) : List (Exchange T) :=
  Transition.log step exchange d replies

/-- **The rule for histories.**  A predicate of the task, the PDU that is out, the buffer and the
history holds after every run if it holds at the start, is kept when a task without a PDU is asked
for one, and is kept when the PDU that is out is answered. -/
theorem history_invariant {Q : Reply → Prop}
    (Inv : T → Option (Command × ℕ) → List UInt8 → List (Exchange T) → Prop)
    (hsilent : ∀ {task task' : T} {pdu : Option (Command × ℕ)} {dataBuf dataBuf' : List UInt8}
      {history : List (Exchange T)}, Inv task none dataBuf history →
      CyclicTask.nextPdu task dataBuf = .ok ((pdu, dataBuf'), task') →
      Inv task' pdu dataBuf' history)
    (hanswered : ∀ {task task' task'' : T} {command : Command} {size : ℕ}
      {pdu : Option (Command × ℕ)} {dataBuf dataBuf' : List UInt8} {history : List (Exchange T)}
      {reply : Reply}, Q reply → Inv task (some (command, size)) dataBuf history →
      size ≤ dataBuf.length →
      CyclicTask.recieveAndProcess task (shown command size dataBuf reply) reply.time = .ok task' →
      CyclicTask.nextPdu task' (answered command size dataBuf reply) =
        .ok ((pdu, dataBuf'), task'') →
      Inv task'' pdu dataBuf'
        (history ++ [⟨task, dataBuf.take size, shown command size dataBuf reply⟩]))
    {task : T} {dataBuf : List UInt8} {replies : List Reply} {d : Driven T}
    (hstart : Inv task none dataBuf []) (hmem : ∀ reply ∈ replies, Q reply)
    (hrun : Transition.run step ⟨task, .new dataBuf⟩ replies = .ok d) :
    ∃ pdu dataBuf', d.socket = .store pdu dataBuf' ∧
      Inv d.task pdu dataBuf' (history ⟨task, .new dataBuf⟩ replies) := by
  have h : ∃ pdu dataBuf', d.socket = .store pdu dataBuf' ∧
      Inv d.task pdu dataBuf' ([] ++ Transition.log step exchange ⟨task, .new dataBuf⟩ replies) :=
    Transition.run_log_invariant_of_mem
      (fun (d : Driven T) noted => ∃ pdu dataBuf, d.socket = .store pdu dataBuf ∧
        Inv d.task pdu dataBuf noted) ?_ ⟨none, dataBuf, rfl, hstart⟩ hmem hrun
  · rwa [List.nil_append] at h
  · rintro ⟨task, socket⟩ reply d' noted ⟨pdu, dataBuf, rfl, hinv⟩ hreply hstep
    rcases pdu with _ | ⟨command, size⟩
    · rw [step_of_silent] at hstep
      obtain ⟨pdu, dataBuf', hnext, hsocket⟩ := ask_eq_ok hstep
      refine ⟨pdu, dataBuf', hsocket, ?_⟩
      rw [exchange, seen_of_silent, List.append_nil]
      exact hsilent hinv hnext
    · have hsize := size_le_of_step hstep
      rw [step_of_asking hsize] at hstep
      obtain ⟨task', hrecieve, hask⟩ := bind_eq_ok.mp hstep
      obtain ⟨pdu, dataBuf', hnext, hsocket⟩ := ask_eq_ok hask
      refine ⟨pdu, dataBuf', hsocket, ?_⟩
      rw [exchange, seen_of_asking hsize]
      exact hanswered hreply hinv hsize hrecieve hnext

end Driven

end EtherCat
