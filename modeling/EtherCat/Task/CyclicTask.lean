import EtherCat.Foundation.Transition
import EtherCat.Interface.SocketIf
import EtherCat.Task.Error

/-!
# Cyclic tasks

A task is a state machine that is driven through a socket: it processes the response the socket
has received, if there is one, and then puts its next PDU into the socket.  `Driven` is a task
with its socket; one step of it lets the device answer the PDU that is out and drives the task
once.  The device answers as it likes.
-/

namespace EtherCat

open Rust Rust.Exec

/-- The response has the type and the register address of the command. -/
def Pdu.Echoes (recvData : Pdu) (command : Command) : Prop :=
  recvData.command.cType = command.cType ∧ recvData.command.ado = command.ado

instance (recvData : Pdu) (command : Command) : Decidable (recvData.Echoes command) :=
  inferInstanceAs (Decidable (_ ∧ _))

/-- The state of a task after the checks of command and working counter that begin its
`recieve_and_process`. -/
def checkedState {S E : Type} (error : TaskError E → S) (command : Command) (expected : UInt16)
    (recvData : Pdu) (state : S) : S :=
  let state := if recvData.Echoes command then state else error .unexpectedCommand
  if recvData.wkc ≠ expected then error (.unexpectedWkc ⟨expected, recvData.wkc⟩) else state

lemma checkedState_of_accepted {S E : Type} (error : TaskError E → S) {command : Command}
    {expected : UInt16} {recvData : Pdu} (h : recvData.Echoes command ∧ recvData.wkc = expected)
    (state : S) : checkedState error command expected recvData state = state := by
  rw [checkedState, if_pos h.1, if_neg (not_not.mpr h.2)]

lemma checkedState_of_not_accepted {S E : Type} (error : TaskError E → S) {command : Command}
    {expected : UInt16} {recvData : Pdu} (h : ¬ (recvData.Echoes command ∧ recvData.wkc = expected))
    (state : S) : ∃ e, checkedState error command expected recvData state = error e := by
  by_cases hwkc : recvData.wkc = expected
  · have hcommand : ¬ recvData.Echoes command := fun hcommand => h ⟨hcommand, hwkc⟩
    exact ⟨.unexpectedCommand, by rw [checkedState, if_neg hcommand, if_neg (not_not.mpr hwkc)]⟩
  · exact ⟨.unexpectedWkc ⟨expected, recvData.wkc⟩, by rw [checkedState, if_pos hwkc]⟩

/-- The times that tasks compare are system times in nanoseconds.  The buffer of `next_pdu` is a
slice of the socket's, so that its length does not change. -/
class CyclicTask (T : Type) where
  nextPdu : T → List UInt8 → Exec ((Option (Command × ℕ) × List UInt8) × T)
  recieveAndProcess : T → Pdu → ℕ → Exec T
  isBusy : T → Bool
  length_nextPdu : ∀ {task task' : T} {buf buf' : List UInt8} {pdu : Option (Command × ℕ)},
    nextPdu task buf = .ok ((pdu, buf'), task') → buf'.length = buf.length

/-- The socket after `set_pdu` with a closure that gives `pdu` and leaves `dataBuf`. -/
def PduSocket.store (pdu : Option (Command × ℕ)) (dataBuf : List UInt8) : PduSocket where
  command := pdu.map Prod.fst
  dataBuf := dataBuf
  wkc := 0
  dataLength := (pdu.map Prod.snd).getD 0
  recvFlag := false

namespace CyclicTask

/-- The PDU of a state that zeroes the first `size` bytes of the buffer and fills them in. -/
def request (command : Command) (size : ℕ) (write : List UInt8 → Exec (List UInt8))
    (buf : List UInt8) : Exec (Option (Command × ℕ) × List UInt8) := do
  let buf ← fillTo buf size 0
  let data ← write (buf.take size)
  .ok (some (command, size), overwrite buf data)

lemma length_request {command : Command} {size : ℕ} {write : List UInt8 → Exec (List UInt8)}
    {buf buf' : List UInt8} {pdu : Option (Command × ℕ)}
    (h : request command size write buf = .ok (pdu, buf')) : buf'.length = buf.length := by
  obtain ⟨zeroed, hfill, hrest⟩ := bind_eq_ok.mp h
  obtain ⟨data, -, heq⟩ := bind_eq_ok.mp hrest
  obtain ⟨hsize, rfl⟩ := fillTo_eq_ok_iff.mp hfill
  cases heq
  rw [length_overwrite, List.length_append, List.length_replicate, List.length_drop]
  omega

lemma request_pdu {command : Command} {size : ℕ} {write : List UInt8 → Exec (List UInt8)}
    {buf buf' : List UInt8} {pdu : Option (Command × ℕ)}
    (h : request command size write buf = .ok (pdu, buf')) : pdu = some (command, size) := by
  obtain ⟨zeroed, -, hrest⟩ := bind_eq_ok.mp h
  obtain ⟨data, -, heq⟩ := bind_eq_ok.mp hrest
  cases heq
  rfl

/-- A request fits into a buffer that is large enough, if its data can be filled in. -/
lemma request_eq_ok (command : Command) {size : ℕ} {write : List UInt8 → Exec (List UInt8)}
    {buf : List UInt8} (hsize : size ≤ buf.length)
    (hwrite : ∀ data, data.length = size → ∃ data', write data = .ok data') :
    ∃ buf', request command size write buf = .ok (some (command, size), buf') := by
  have hfill : fillTo buf size 0 = .ok (List.replicate size 0 ++ buf.drop size) :=
    fillTo_eq_ok_iff.mpr ⟨hsize, rfl⟩
  obtain ⟨data, hdata⟩ := hwrite ((List.replicate size 0 ++ buf.drop size).take size) (by
    rw [List.length_take, List.length_append, List.length_replicate]
    omega)
  exact ⟨_, by rw [request, hfill, ok_bind, hdata, ok_bind]⟩

variable {T : Type} [CyclicTask T]

/-- The first half of `process_one_step`: the response, if there is one. -/
def processResponse (task : T) (socket : PduSocket) (sysTime : ℕ) : Exec T := do
  match ← socket.getRecievedPdu with
  | some recvData => recieveAndProcess task recvData sysTime
  | none => .ok task

/-- One step: the response in the socket is processed, and the next PDU goes into the socket. -/
def processOneStep (task : T) (socket : PduSocket) (sysTime : ℕ) : Exec (T × PduSocket) := do
  let task ← processResponse task socket sysTime
  let ((pdu, dataBuf), task) ← nextPdu task socket.dataBuf
  .ok (task, .store pdu dataBuf)

end CyclicTask

/-- The device answers the PDU in the socket, if there is one to send. -/
def PduSocket.answer (socket : PduSocket) (respond : Pdu → Pdu) : Exec PduSocket := do
  match ← socket.takePdu with
  | (none, socket) => .ok socket
  | (some pdu, socket) => .ok (socket.recieve (respond pdu))

/-- A task and the socket it is driven through. -/
structure Driven (T : Type) where
  task : T
  socket : PduSocket

/-- What the device makes of the PDU sent to it, and the time when the task sees it. -/
structure Reply where
  respond : Pdu → Pdu
  time : ℕ

namespace Driven

variable {T : Type} [CyclicTask T]

/-- The device answers the PDU that is out, and the task makes a step. -/
def step (d : Driven T) (reply : Reply) : Exec (Driven T) := do
  let socket ← d.socket.answer reply.respond
  let (task, socket) ← CyclicTask.processOneStep d.task socket reply.time
  .ok ⟨task, socket⟩

/-- The response that a step shows to the task. -/
def seen (d : Driven T) (reply : Reply) : Option Pdu :=
  match d.socket.answer reply.respond with
  | .ok socket => (socket.getRecievedPdu.toOption).join
  | .error _ => none

omit [CyclicTask T] in
lemma length_answer {socket socket' : PduSocket} {respond : Pdu → Pdu}
    (h : socket.answer respond = .ok socket') :
    socket'.dataBuf.length = socket.dataBuf.length := by
  obtain ⟨⟨taken, sent⟩, htake, hrest⟩ := bind_eq_ok.mp h
  have hsent : sent.dataBuf = socket.dataBuf := by
    unfold PduSocket.takePdu at htake
    split at htake
    · cases htake
      rfl
    · split at htake
      · cases htake
        rfl
      · obtain ⟨data, -, heq⟩ := bind_eq_ok.mp htake
        cases heq
        rfl
  rcases taken with _ | pdu
  · cases hrest
    rw [hsent]
  · cases hrest
    rw [PduSocket.recieve, length_overwrite, hsent]

omit [CyclicTask T] in
/-- The response to a PDU that was not yet sent. -/
lemma seen_eq {d : Driven T} (hflag : d.socket.recvFlag = false)
    (hlength : d.socket.dataLength ≤ d.socket.dataBuf.length) (reply : Reply) :
    d.seen reply = d.socket.command.map fun command =>
      let response := reply.respond ⟨command, d.socket.dataBuf.take d.socket.dataLength, 0⟩
      ⟨response.command, (overwrite d.socket.dataBuf response.data).take d.socket.dataLength,
        response.wkc⟩ := by
  rcases hcommand : d.socket.command with _ | command
  · simp [seen, PduSocket.answer, PduSocket.takePdu, PduSocket.getRecievedPdu, hflag, hcommand,
      Except.toOption]
  · have hslice : sliceTo d.socket.dataBuf d.socket.dataLength =
        .ok (d.socket.dataBuf.take d.socket.dataLength) := sliceTo_eq_ok_iff.mpr ⟨hlength, rfl⟩
    have hslice' : ∀ data, sliceTo (overwrite d.socket.dataBuf data) d.socket.dataLength =
        .ok ((overwrite d.socket.dataBuf data).take d.socket.dataLength) := fun data =>
      sliceTo_eq_ok_iff.mpr ⟨by rwa [length_overwrite], rfl⟩
    simp [seen, PduSocket.answer, PduSocket.takePdu, PduSocket.getRecievedPdu, PduSocket.recieve,
      hflag, hcommand, hslice, hslice', Except.toOption]

/-- What a step that shows no response to the task does. -/
lemma step_eq_ok_of_unseen {d d' : Driven T} {reply : Reply} (hseen : d.seen reply = none)
    (h : d.step reply = .ok d') :
    ∃ dataBuf pdu dataBuf', dataBuf.length = d.socket.dataBuf.length ∧
      CyclicTask.nextPdu d.task dataBuf = .ok ((pdu, dataBuf'), d'.task) ∧
      d'.socket = .store pdu dataBuf' := by
  obtain ⟨socket, hanswer, hrest⟩ := bind_eq_ok.mp h
  obtain ⟨⟨task, socket'⟩, hprocess, heq⟩ := bind_eq_ok.mp hrest
  obtain ⟨task₁, hresponse, hnext⟩ := bind_eq_ok.mp hprocess
  obtain ⟨⟨⟨pdu, dataBuf⟩, task₂⟩, hpdu, heq'⟩ := bind_eq_ok.mp hnext
  cases heq
  cases heq'
  obtain ⟨recv, hrecv, htask⟩ := bind_eq_ok.mp hresponse
  rcases recv with _ | recv
  · cases htask
    exact ⟨_, pdu, dataBuf, length_answer hanswer, hpdu, rfl⟩
  · simp [seen, hanswer, hrecv, Except.toOption] at hseen

/-- What a step that shows a response to the task does, whether it returns or panics. -/
lemma step_of_seen {d : Driven T} {reply : Reply} {recv : Pdu} (hseen : d.seen reply = some recv) :
    ∃ dataBuf, dataBuf.length = d.socket.dataBuf.length ∧
      d.step reply = (do
        let task ← CyclicTask.recieveAndProcess d.task recv reply.time
        let ((pdu, dataBuf'), task) ← CyclicTask.nextPdu task dataBuf
        .ok ⟨task, .store pdu dataBuf'⟩) := by
  unfold seen at hseen
  split at hseen
  · next socket hanswer =>
      refine ⟨socket.dataBuf, length_answer hanswer, ?_⟩
      have hrecv : socket.getRecievedPdu = .ok (some recv) := by
        rcases hget : socket.getRecievedPdu with e | recv'
        · rw [hget] at hseen
          cases hseen
        · rw [hget] at hseen
          exact congrArg Except.ok hseen
      simp only [step, hanswer, ok_bind, CyclicTask.processOneStep, CyclicTask.processResponse, hrecv]
      rcases CyclicTask.recieveAndProcess d.task recv reply.time with e | task
      · rfl
      · simp only [ok_bind]
        rcases CyclicTask.nextPdu task socket.dataBuf with e | ⟨⟨pdu, dataBuf'⟩, task'⟩ <;> rfl
  · cases hseen

lemma step_eq_ok_of_seen {d d' : Driven T} {reply : Reply} {recv : Pdu}
    (hseen : d.seen reply = some recv) (h : d.step reply = .ok d') :
    ∃ dataBuf task pdu dataBuf', dataBuf.length = d.socket.dataBuf.length ∧
      CyclicTask.recieveAndProcess d.task recv reply.time = .ok task ∧
      CyclicTask.nextPdu task dataBuf = .ok ((pdu, dataBuf'), d'.task) ∧
      d'.socket = .store pdu dataBuf' := by
  obtain ⟨dataBuf, hlength, hstep⟩ := step_of_seen hseen
  rw [hstep] at h
  obtain ⟨task, htask, hnext⟩ := bind_eq_ok.mp h
  obtain ⟨⟨⟨pdu, dataBuf'⟩, task'⟩, hpdu, heq⟩ := bind_eq_ok.mp hnext
  cases heq
  exact ⟨dataBuf, task, pdu, dataBuf', hlength, htask, hpdu, rfl⟩

/-- Steps do not change the length of the buffer. -/
lemma length_dataBuf_step {d d' : Driven T} {reply : Reply} (h : d.step reply = .ok d') :
    d'.socket.dataBuf.length = d.socket.dataBuf.length := by
  rcases hseen : d.seen reply with _ | recv
  · obtain ⟨dataBuf, pdu, dataBuf', hlength, hnext, hsocket⟩ := step_eq_ok_of_unseen hseen h
    rw [hsocket, ← hlength]
    exact CyclicTask.length_nextPdu hnext
  · obtain ⟨dataBuf, task, pdu, dataBuf', hlength, -, hnext, hsocket⟩ := step_eq_ok_of_seen hseen h
    rw [hsocket, ← hlength]
    exact CyclicTask.length_nextPdu hnext

/-- A task that has no PDU to send, and nothing in its socket, stays as it is. -/
lemma run_of_idle {d d' : Driven T} {replies : List Reply}
    (hnext : ∀ buf, CyclicTask.nextPdu d.task buf = .ok ((none, buf), d.task))
    (hsocket : ∃ dataBuf, d.socket = .store none dataBuf)
    (h : Transition.run step d replies = .ok d') :
    d'.task = d.task ∧ d'.socket.command = none := by
  have hkept := Transition.run_invariant (P := fun _ _ => True)
    (fun d' : Driven T => d'.task = d.task ∧ ∃ dataBuf, d'.socket = .store none dataBuf) ?_
    ⟨rfl, hsocket⟩ (Transition.along_of_forall (fun _ _ => trivial) _ _) h
  · obtain ⟨htask, dataBuf, hdataBuf⟩ := hkept
    exact ⟨htask, by rw [hdataBuf]; rfl⟩
  · rintro d₁ reply d₂ ⟨htask, dataBuf, hdataBuf⟩ - hstep
    have hunseen : d₁.seen reply = none := by
      simp [seen, hdataBuf, PduSocket.answer, PduSocket.takePdu, PduSocket.store,
        PduSocket.getRecievedPdu, Except.toOption]
    obtain ⟨dataBuf', pdu, dataBuf'', -, hpdu, hsocket⟩ := step_eq_ok_of_unseen hunseen hstep
    rw [htask, hnext] at hpdu
    obtain ⟨hpair, htask'⟩ := Prod.mk.inj (Except.ok.inj hpdu)
    cases hpair
    exact ⟨htask'.symm, _, hsocket⟩

end Driven

end EtherCat
