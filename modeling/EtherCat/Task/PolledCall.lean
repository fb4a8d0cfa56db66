import EtherCat.Foundation.Program
import EtherCat.Task.BlockingCall
import EtherCat.Task.Exchange

/-!
# Programs of blocking calls

A function that makes several blocking calls on one socket is a program whose questions are the
calls.  `SocketProgram` is such a program in the middle of its run.  The inputs of the run are the
polls of the interface: what the poll returns, and what has become of the PDU of the socket if all
PDUs have come back.
-/

namespace EtherCat

open Rust Rust.Exec CyclicTask

/-- A poll, as a call on one socket sees it. -/
structure Polled where
  result : Except PhyError Bool
  respond : Pdu → Pdu

/-- A step ends with the next PDU. -/
lemma Driven.nextPdu_of_step {T : Type} [CyclicTask T] {d d' : Driven T} {reply : Reply}
    (h : d.step reply = .ok d') : ∃ task buf pdu dataBuf,
      nextPdu task buf = .ok ((pdu, dataBuf), d'.task) ∧ d'.socket = .store pdu dataBuf := by
  obtain ⟨socket, -, h⟩ := bind_eq_ok.mp h
  obtain ⟨⟨task', socket'⟩, hprocess, heq⟩ := bind_eq_ok.mp h
  obtain ⟨task, -, hprocess⟩ := bind_eq_ok.mp hprocess
  obtain ⟨⟨⟨pdu, dataBuf⟩, task''⟩, hnext, heq'⟩ := bind_eq_ok.mp hprocess
  cases heq
  cases heq'
  exact ⟨task, socket.dataBuf, pdu, dataBuf, hnext, rfl⟩

/-- The variables of `block_on`, with the socket in place of the interface. -/
structure Blocked (T : Type) where
  driven : Driven T
  count : ℕ

namespace Blocked

variable {T : Type} [CyclicTask T]

/-- The body of the loop after a poll that moved every PDU. -/
def stepTask (E : Type) (b : Blocked T) (respond : Pdu → Pdu) :
    Exec (Option (Except (TaskError E) Unit) × Blocked T) := do
  let driven ← b.driven.step ⟨respond, b.count⟩
  if !isBusy driven.task then
    .ok (some (.ok ()), ⟨driven, b.count⟩)
  else if 100000 < b.count + 1 then
    .ok (some (.error .timeout), ⟨driven, b.count + 1⟩)
  else
    .ok (none, ⟨driven, b.count + 1⟩)

/-- The body of the loop. -/
def turn (E : Type) (b : Blocked T) (polled : Polled) :
    Exec (Option (Except (TaskError E) Unit) × Blocked T) :=
  match polled.result with
  | .ok true => b.stepTask E polled.respond
  | .ok false => .ok (none, b)
  | .error .txNotAvailable => .ok (none, b)
  | .error .rxNotAvailable => .ok (none, b)
  | .error err => .ok (some (.error (.interface err)), b)

/-- Everything a turn can do. -/
lemma turn_eq_ok {E : Type} {b b' : Blocked T} {polled : Polled}
    {result : Option (Except (TaskError E) Unit)} (h : b.turn E polled = .ok (result, b')) :
    polled.result ≠ .ok true ∧ b' = b ∧ result ≠ some (.ok ()) ∨
      polled.result = .ok true ∧ b.driven.step ⟨polled.respond, b.count⟩ = .ok b'.driven ∧
        (result = some (.ok ()) ↔ isBusy b'.driven.task = false) := by
  obtain ⟨polled, respond⟩ := polled
  rcases polled with err | isOk
  · left
    cases err <;>
      · cases h
        exact ⟨by rintro ⟨⟩, rfl, by rintro ⟨⟩⟩
  cases isOk with
  | false =>
      cases h
      exact .inl ⟨by rintro ⟨⟩, rfl, by rintro ⟨⟩⟩
  | true =>
      obtain ⟨driven, hstep, h⟩ := bind_eq_ok.mp h
      refine .inr ⟨rfl, ?_⟩
      cases hbusy : isBusy driven.task with
      | false =>
          simp only [hbusy, Bool.not_false, if_true] at h
          cases h
          exact ⟨hstep, iff_of_true rfl hbusy⟩
      | true =>
          simp only [hbusy, Bool.not_true, Bool.false_eq_true, if_false] at h
          split at h
          all_goals
            cases h
            exact ⟨hstep, iff_of_false (by rintro ⟨⟩) (by rw [hbusy]; rintro ⟨⟩)⟩

end Blocked

/-- What a call returns. -/
abbrev BlockingCall.Answer (call : BlockingCall) : Type := Except (TaskError call.Error) call.Value

/-- A function that makes blocking calls on a socket. -/
abbrev CallProgram (α : Type) : Type := Program BlockingCall BlockingCall.Answer α

/-- Such a function in its run: it has returned, or one of its calls runs. -/
inductive SocketProgram (α : Type)
  | returned (a : α) (socket : PduSocket)
  /-- It is in a loop that is not followed any further. -/
  | cut (socket : PduSocket)
  | calling (call : BlockingCall) (k : call.Answer → CallProgram α) (block : Blocked call.Task)

namespace SocketProgram

variable {α : Type}

/-- What has been returned, with the socket. -/
def result : SocketProgram α → Option (α × PduSocket)
  | .returned a socket => some (a, socket)
  | _ => none

lemma eq_of_result {s : SocketProgram α} {a : α} {socket : PduSocket}
    (h : s.result = some (a, socket)) : s = .returned a socket := by
  cases s with
  | returned =>
      cases h
      rfl
  | cut => cases h
  | calling => cases h

/-- Go on until a call runs. -/
def resume : CallProgram α → PduSocket → Exec (SocketProgram α)
  | .ret a, socket => .ok (.returned a socket)
  | .fail e, _ => .error e
  | .cut, socket => .ok (.cut socket)
  | .ask call k, socket => do
    let (started, dataBuf) ← call.start socket.dataBuf
    let socket := { socket with dataBuf := dataBuf }
    match started with
    | .error e => resume (k (.error e)) socket
    | .ok unit => .ok (.calling call k ⟨⟨unit, socket⟩, 0⟩)

/-- A poll while a call runs. -/
def step : SocketProgram α → Polled → Exec (SocketProgram α)
  | .calling call k block, polled => do
    let (result, block) ← block.turn call.Error polled
    match result with
    | none => .ok (.calling call k block)
    | some (.error e) => resume (k (.error e)) block.driven.socket
    | some (.ok ()) => do
      let result ← call.finish block.driven.task block.driven.socket.dataBuf
      resume (k result) block.driven.socket
  | s, _ => .ok s

/-- A run of a function from its start on. -/
def run (program : CallProgram α) (socket : PduSocket) (polls : List Polled) :
    Exec (SocketProgram α) := do
  Transition.run step (← resume program socket) polls

/-- A call that begins. -/
lemma resume_ask {call : BlockingCall} {k : call.Answer → CallProgram α} {socket : PduSocket}
    {s : SocketProgram α} (h : resume (.ask call k) socket = .ok s) :
    ∃ started dataBuf, call.start socket.dataBuf = .ok (started, dataBuf) ∧
      ((∃ e, started = .error e ∧
          resume (k (.error e)) { socket with dataBuf := dataBuf } = .ok s) ∨
        ∃ unit, started = .ok unit ∧
          s = .calling call k ⟨⟨unit, { socket with dataBuf := dataBuf }⟩, 0⟩) := by
  rw [resume] at h
  obtain ⟨⟨started, dataBuf⟩, hstarted, h⟩ := bind_eq_ok.mp h
  refine ⟨started, dataBuf, hstarted, ?_⟩
  rcases started with e | unit
  · exact .inl ⟨e, rfl, h⟩
  · cases h
    exact .inr ⟨unit, rfl, rfl⟩

/-- A poll while a call runs. -/
lemma step_calling {call : BlockingCall} {k : call.Answer → CallProgram α}
    {block : Blocked call.Task} {polled : Polled} {s : SocketProgram α}
    (h : (calling call k block).step polled = .ok s) :
    ∃ result block', block.turn call.Error polled = .ok (result, block') ∧
      ((result = none ∧ s = .calling call k block') ∨
        (∃ e, result = some (.error e) ∧ resume (k (.error e)) block'.driven.socket = .ok s) ∨
        result = some (.ok ()) ∧ ∃ answer,
          call.finish block'.driven.task block'.driven.socket.dataBuf = .ok answer ∧
            resume (k answer) block'.driven.socket = .ok s) := by
  obtain ⟨⟨result, block'⟩, hturn, h⟩ := bind_eq_ok.mp h
  refine ⟨result, block', hturn, ?_⟩
  rcases result with _ | e | _
  · cases h
    exact .inl ⟨rfl, rfl⟩
  · exact .inr (.inl ⟨e, rfl, h⟩)
  · obtain ⟨answer, hfinish, h⟩ := bind_eq_ok.mp h
    exact .inr (.inr ⟨rfl, answer, hfinish, h⟩)

lemma run_eq_ok {program : CallProgram α} {socket : PduSocket} {polls : List Polled}
    {s : SocketProgram α} : run program socket polls = .ok s ↔
      ∃ s₀, resume program socket = .ok s₀ ∧ Transition.run step s₀ polls = .ok s :=
  bind_eq_ok

/-- **The invariant rule.** -/
lemma run_invariant {program : CallProgram α} {socket : PduSocket} {polls : List Polled}
    {s : SocketProgram α} (Inv : SocketProgram α → Prop)
    (hstart : ∀ s, resume program socket = .ok s → Inv s)
    (hstep : ∀ s polled s', polled ∈ polls → Inv s → s.step polled = .ok s' → Inv s')
    (hrun : run program socket polls = .ok s) : Inv s := by
  obtain ⟨s₀, hresume, hrun⟩ := run_eq_ok.mp hrun
  have hmem : Transition.Along step (fun _ polled => polled ∈ polls ∧ True) s₀ polls :=
    Transition.along_and_of_mem (fun _ h => h) (Transition.along_of_forall (fun _ _ => trivial) _ _)
  exact Transition.run_invariant Inv
    (fun s polled s' hinv hpolled => hstep s polled s' hpolled.1 hinv) (hstart s₀ hresume) hmem hrun

lemma eq_of_run_result {program : CallProgram α} {socket socket' : PduSocket} {polls : List Polled}
    {a : α} (h : (run program socket polls).toOption.bind result = some (a, socket')) :
    run program socket polls = .ok (.returned a socket') := by
  rcases hrun : run program socket polls with e | s
  · rw [hrun] at h
    cases h
  · rw [hrun] at h
    rw [eq_of_result h]

end SocketProgram

end EtherCat
