import EtherCat.Task.Exchange
import EtherCat.Task.Mailbox

/-!
# The frame that a mailbox write sends

The frame waits in the buffer of the socket, where the polls of the status need its first two bytes.
The task saves them before each poll, also before the second, when the buffer starts with the
response to the first (`sendsFrame_iff`).
-/

namespace EtherCat

open Rust Rust.Exec BitField CyclicTask

/-- The device gives a PDU back with its length, and a write with its data. -/
structure Reply.GivesBack (reply : Reply) : Prop where
  length_eq : ∀ pdu, (reply.respond pdu).data.length = pdu.data.length
  write_eq : ∀ target ado data wkc, (reply.respond ⟨.newWrite target ado, data, wkc⟩).data = data

namespace MailboxWriteTask

/-- The status was asked for, and the slave reports a full mailbox. -/
def showsFull (e : Exchange MailboxWriteTask) : Bool :=
  match e.task.state with
  | .checkMailboxEmpty _ _ =>
    e.recv.wkc == 1 && SyncManagerStatus.isMailboxFull.val e.recv.data != 0
  | _ => false

/-- The last such response. -/
def lastFull (history : List (Exchange MailboxWriteTask)) : Option (List UInt8) :=
  (history.filter showsFull).getLast?.map fun e => e.recv.data

lemma lastFull_snoc (history : List (Exchange MailboxWriteTask)) (e : Exchange MailboxWriteTask) :
    lastFull (history ++ [e]) = if showsFull e then some e.recv.data else lastFull history := by
  rw [lastFull, List.filter_append]
  by_cases h : showsFull e = true
  · rw [if_pos h, List.filter_cons_of_pos h, List.filter_nil, List.getLast?_concat]
    rfl
  · rw [if_neg h, List.filter_cons_of_neg h, List.filter_nil, List.append_nil]
    rfl

/-- What the task takes for the first bytes of the frame. -/
def saved (frame : List UInt8) (history : List (Exchange MailboxWriteTask)) : List UInt8 :=
  (lastFull history).getD (frame.take mailboxCheckSize)

/-! ## One step -/

/-- What a response makes of the state. -/
inductive Move (task : MailboxWriteTask) (recv : Pdu) : State → Prop
  | failed (e : TaskError MailboxTaskError) : Move task recv (.error e)
  | resting (h : task.isBusy = false) : Move task recv task.state
  | empty (isFirst waitEmpty : Bool) (h : task.state = .checkMailboxEmpty isFirst waitEmpty)
      (hempty : SyncManagerStatus.isMailboxFull.val recv.data = 0) : Move task recv .write
  | full (isFirst : Bool) (h : task.state = .checkMailboxEmpty isFirst true) (hwkc : recv.wkc = 1)
      (hfull : SyncManagerStatus.isMailboxFull.val recv.data ≠ 0) :
      Move task recv (.checkMailboxEmpty false true)
  | lost (h : task.state = .write) : Move task recv .write
  | taken (h : task.state = .write) : Move task recv .complete

/-- What no response changes. -/
structure SameMessage (task task' : MailboxWriteTask) : Prop where
  emptyCheckBuffer_eq : task'.emptyCheckBuffer = task.emptyCheckBuffer
  smSize_eq : task'.smSize = task.smSize

lemma move_of_processState {task task' : MailboxWriteTask} {recv : Pdu} {sysTime : ℕ}
    (h : task.processState recv sysTime = .ok task') :
    Move task recv task'.state ∧ SameMessage task task' := by
  unfold processState at h
  split at h
  case h_1 hstate | h_2 hstate | h_3 hstate =>
    cases h
    exact ⟨.resting (by rw [isBusy, hstate]), rfl, rfl⟩
  case h_4 isFirst waitEmpty hstate =>
    unfold processCheck at h
    dsimp only at h
    split at h
    · cases h
      exact ⟨.failed _, by cases isFirst <;> exact ⟨rfl, rfl⟩⟩
    · next hwkc =>
        obtain ⟨isMailboxFull, hfull, heq⟩ := bind_eq_ok.mp h
        obtain ⟨-, rfl⟩ := Field.getBool_eq_ok_iff.mp hfull
        cases heq
        by_cases hfull : SyncManagerStatus.isMailboxFull.val recv.data = 0
        · simp only [hfull, bne_self_eq_false, Bool.not_false, if_true]
          exact ⟨.empty isFirst waitEmpty hstate hfull, by cases isFirst <;> exact ⟨rfl, rfl⟩⟩
        · have hbit : (SyncManagerStatus.isMailboxFull.val recv.data != 0) = true :=
            bne_iff_ne.mpr hfull
          cases waitEmpty <;> simp only [hbit, Bool.not_true, Bool.false_eq_true, if_false, if_true]
          · exact ⟨.failed _, by cases isFirst <;> exact ⟨rfl, rfl⟩⟩
          · exact ⟨.full isFirst hstate (not_not.mp hwkc) hfull,
              by cases isFirst <;> exact ⟨rfl, rfl⟩⟩
  case h_5 hstate =>
    cases h
    refine ⟨?_, rfl, rfl⟩
    dsimp only
    split
    · exact .lost hstate
    · exact .taken hstate

/-- **What a response does.** -/
lemma move_of_recieveAndProcess {task task' : MailboxWriteTask} {recv : Pdu} {sysTime : ℕ}
    (h : task.recieveAndProcess recv sysTime = .ok task') :
    Move task recv task'.state ∧ SameMessage task task' := by
  obtain ⟨processed, hprocess, heq⟩ := bind_eq_ok.mp h
  cases heq
  have htimed : SameMessage processed (processed.timed sysTime) ∧
      (Move task recv processed.state → Move task recv (processed.timed sysTime).state) := by
    unfold timed
    split
    · exact ⟨⟨rfl, rfl⟩, fun _ => .failed _⟩
    · exact ⟨⟨rfl, rfl⟩, id⟩
  obtain ⟨⟨hbuffer, hsize⟩, hmove⟩ := htimed
  unfold checked at hprocess
  split at hprocess
  · obtain ⟨hprocessed, hbuffer', hsize'⟩ := move_of_processState hprocess
    exact ⟨hmove hprocessed, hbuffer.trans hbuffer', hsize.trans hsize'⟩
  · cases hprocess
    exact ⟨hmove (.failed _), hbuffer, hsize⟩

/-- **What the next PDU is**, of a task that polls the status or writes. -/
lemma nextPdu_cases {task task' : MailboxWriteTask} {buf buf' : List UInt8}
    {pdu : Option (Command × ℕ)} (h : task.nextPdu buf = .ok ((pdu, buf'), task')) :
    task'.smSize = task.smSize ∧
    (∀ isFirst waitEmpty, task'.state = .checkMailboxEmpty isFirst waitEmpty →
      task.state = .checkMailboxEmpty isFirst waitEmpty ∧ mailboxCheckSize ≤ buf.length ∧
      task'.emptyCheckBuffer = overwrite task.emptyCheckBuffer buf ∧
      (∃ command, pdu = some (command, mailboxCheckSize)) ∧
      buf' = List.replicate mailboxCheckSize 0 ++ buf.drop mailboxCheckSize) ∧
    (task'.state = .write → task.state = .write ∧
      task'.emptyCheckBuffer = task.emptyCheckBuffer ∧
      pdu = some (.newWrite (.single task.slaveAddress) task.smStartAddress, task.smSize.toNat) ∧
      buf' = overwrite buf task.emptyCheckBuffer) := by
  unfold nextPdu at h
  split at h
  case h_4 isFirst waitEmpty hstate =>
    obtain ⟨filled, hfill, heq⟩ := bind_eq_ok.mp h
    obtain ⟨hlength, rfl⟩ := fillTo_eq_ok_iff.mp hfill
    cases heq
    refine ⟨rfl, fun isFirst' waitEmpty' hcheck => ?_, fun hwrite => ?_⟩
    · exact ⟨hcheck, hlength, rfl, ⟨_, rfl⟩, rfl⟩
    · dsimp only at hwrite
      rw [hstate] at hwrite
      cases hwrite
  case h_5 hstate =>
    have heq := Except.ok.inj h
    unfold nextWrite at heq
    dsimp only at heq
    split at heq
    · cases heq
      exact ⟨rfl, by rintro _ _ ⟨⟩, by rintro ⟨⟩⟩
    · cases heq
      refine ⟨rfl, fun isFirst waitEmpty hcheck => ?_, fun _ => ⟨hstate, rfl, rfl, rfl⟩⟩
      dsimp only at hcheck
      rw [hstate] at hcheck
      cases hcheck
  all_goals
    next hstate =>
      cases h
      exact ⟨rfl, (fun _ _ hcheck => by rw [hstate] at hcheck; cases hcheck),
        fun hwrite => (by rw [hstate] at hwrite; cases hwrite)⟩

/-! ## The invariant -/

/-- The buffer is the frame but for its first bytes. -/
structure KeepsTail (frame : List UInt8) (size : UInt16) (task : MailboxWriteTask)
    (buf : List UInt8) : Prop where
  length_eq : buf.length = frame.length
  drop_eq : buf.drop mailboxCheckSize = frame.drop mailboxCheckSize
  length_emptyCheckBuffer : task.emptyCheckBuffer.length = mailboxCheckSize
  smSize_eq : task.smSize = size

/-- Behind a response. -/
def Decided (frame : List UInt8) (size : UInt16) (task : MailboxWriteTask) (buf : List UInt8)
    (history : List (Exchange MailboxWriteTask)) : Prop :=
  match task.state with
  | .checkMailboxEmpty _ _ =>
    KeepsTail frame size task buf ∧ buf.take mailboxCheckSize = saved frame history
  | .write =>
    KeepsTail frame size task buf ∧ mailboxCheckSize ≤ frame.length ∧
      task.emptyCheckBuffer = saved frame history
  | _ => True

/-- Behind the next PDU. -/
def Sent (frame : List UInt8) (size : UInt16) (task : MailboxWriteTask)
    (pdu : Option (Command × ℕ)) (buf : List UInt8)
    (history : List (Exchange MailboxWriteTask)) : Prop :=
  match task.state with
  | .checkMailboxEmpty _ _ =>
    KeepsTail frame size task buf ∧ mailboxCheckSize ≤ frame.length ∧
      task.emptyCheckBuffer = saved frame history ∧
      ∃ command, pdu = some (command, mailboxCheckSize)
  | .write =>
    KeepsTail frame size task buf ∧ mailboxCheckSize ≤ frame.length ∧
      task.emptyCheckBuffer = saved frame history ∧
      buf = saved frame history ++ frame.drop mailboxCheckSize ∧
      ∃ target ado, pdu = some (.newWrite target ado, size.toNat)
  | _ => True

/-- A task without a PDU has just started, or it has come to its end. -/
def Inv (frame : List UInt8) (size : UInt16) (task : MailboxWriteTask) :
    Option (Command × ℕ) → List UInt8 → List (Exchange MailboxWriteTask) → Prop
  | none, buf, history => task.state ≠ .write ∧ Decided frame size task buf history
  | some pdu, buf, history => Sent frame size task (some pdu) buf history

section

variable {frame buf buf' : List UInt8} {size : UInt16} {task task' : MailboxWriteTask}
  {pdu : Option (Command × ℕ)} {history : List (Exchange MailboxWriteTask)}

lemma sent_of_decided (h : Decided frame size task buf history)
    (hnext : task.nextPdu buf = .ok ((pdu, buf'), task')) :
    Sent frame size task' pdu buf' history := by
  obtain ⟨hsize, hcheck, hwrite⟩ := nextPdu_cases hnext
  rcases hstate : task'.state with e | _ | _ | ⟨isFirst, waitEmpty⟩ | _ <;>
    simp only [Sent, hstate]
  · obtain ⟨hbefore, hlength, hbuffer, hpdu, rfl⟩ := hcheck isFirst waitEmpty hstate
    simp only [Decided, hbefore] at h
    obtain ⟨⟨hlength', hdrop, hbuffer', hsize'⟩, htake⟩ := h
    have hkept : task'.emptyCheckBuffer = buf.take mailboxCheckSize := by
      rw [hbuffer, overwrite, hbuffer', List.drop_of_length_le (by omega), List.append_nil]
    refine ⟨⟨?_, ?_, ?_, hsize.trans hsize'⟩, hlength' ▸ hlength, hkept.trans htake, hpdu⟩
    · rw [List.length_append, List.length_replicate, List.length_drop]
      omega
    · rw [List.drop_left' (List.length_replicate ..), hdrop]
    · rw [hkept, List.length_take, Nat.min_eq_left hlength]
  · obtain ⟨hbefore, hbuffer, hpdu, rfl⟩ := hwrite hstate
    simp only [Decided, hbefore] at h
    obtain ⟨⟨hlength, hdrop, hbuffer', hsize'⟩, hfits, hsaved⟩ := h
    have hrestored : overwrite buf task.emptyCheckBuffer =
        saved frame history ++ frame.drop mailboxCheckSize := by
      rw [overwrite, List.take_of_length_le (by omega), hbuffer', hdrop, hsaved]
    refine ⟨⟨?_, ?_, ?_, hsize.trans hsize'⟩, hfits, hbuffer.trans hsaved, hrestored,
      .single task.slaveAddress, task.smStartAddress, ?_⟩
    · rw [length_overwrite, hlength]
    · rw [hrestored, List.drop_left' (by rw [← hsaved, hbuffer'])]
    · rw [hbuffer, hbuffer']
    · rw [hpdu, hsize']

lemma inv_of_decided (h : Decided frame size task buf history)
    (hnext : task.nextPdu buf = .ok ((pdu, buf'), task')) : Inv frame size task' pdu buf' history := by
  have hsent := sent_of_decided h hnext
  rcases pdu with _ | pdu
  · rcases hstate : task'.state with e | _ | _ | ⟨isFirst, waitEmpty⟩ | _ <;>
      simp only [Inv, Decided, Sent, hstate] at hsent ⊢
    case checkMailboxEmpty =>
      obtain ⟨-, -, -, command, hpdu⟩ := hsent
      cases hpdu
    case write =>
      obtain ⟨-, -, -, -, target, ado, hpdu⟩ := hsent
      cases hpdu
    all_goals exact ⟨by rintro ⟨⟩, trivial⟩
  · exact hsent

/-- One response. -/
lemma decided_of_move {command : Command} {reply : Reply} (hreply : reply.GivesBack)
    {pduSize : ℕ} (h : Sent frame size task (some (command, pduSize)) buf history)
    (hfits : pduSize ≤ buf.length) (hsame : SameMessage task task')
    (hmove : Move task (Driven.shown command pduSize buf reply) task'.state) :
    Decided frame size task' (Driven.answered command pduSize buf reply)
      (history ++ [⟨task, buf.take pduSize, Driven.shown command pduSize buf reply⟩]) := by
  obtain ⟨hbuffer, hsize⟩ := hsame
  have hanswer : (reply.respond ⟨command, buf.take pduSize, 0⟩).data.length = pduSize := by
    rw [hreply.length_eq, List.length_take, Nat.min_eq_left hfits]
  -- only the bytes of the PDU change
  have hdrop : (Driven.answered command pduSize buf reply).drop pduSize = buf.drop pduSize := by
    rw [Driven.answered, overwrite, hanswer,
      List.drop_left' (by rw [List.length_take, hanswer, Nat.min_eq_right hfits])]
  generalize hstate' : task'.state = state' at hmove
  cases hmove with
  | failed e => simp only [Decided, hstate']
  | resting hbusy =>
    rcases hstate : task.state with e | _ | _ | ⟨isFirst, waitEmpty⟩ | _ <;>
      simp only [isBusy, hstate, Bool.true_eq_false] at hbusy <;>
      simp only [Decided, hstate', hstate]
  | empty isFirst waitEmpty hstate hempty =>
    simp only [Sent, hstate] at h
    obtain ⟨⟨hlength, hdrop', hbuffer', hsize'⟩, hroom, hsaved, command', hpdu⟩ := h
    cases hpdu
    simp only [Decided, hstate']
    refine ⟨⟨?_, hdrop.trans hdrop', hbuffer ▸ hbuffer', hsize.trans hsize'⟩, hroom, ?_⟩
    · rw [Driven.length_answered, hlength]
    · rw [hbuffer, hsaved, saved, saved, lastFull_snoc, if_neg]
      simp [showsFull, hstate, hempty]
  | full isFirst hstate hwkc hfull =>
    simp only [Sent, hstate] at h
    obtain ⟨⟨hlength, hdrop', hbuffer', hsize'⟩, hroom, hsaved, command', hpdu⟩ := h
    cases hpdu
    simp only [Decided, hstate']
    refine ⟨⟨?_, hdrop.trans hdrop', hbuffer ▸ hbuffer', hsize.trans hsize'⟩, ?_⟩
    · rw [Driven.length_answered, hlength]
    · rw [saved, lastFull_snoc, if_pos]
      · rfl
      · simp [showsFull, hstate, hwkc, hfull]
  | lost hstate =>
    simp only [Sent, hstate] at h
    obtain ⟨⟨hlength, hdrop', hbuffer', hsize'⟩, hroom, hsaved, -, target, ado, hpdu⟩ := h
    cases hpdu
    have hkept : Driven.answered (.newWrite target ado) size.toNat buf reply = buf := by
      rw [Driven.answered, hreply.write_eq, overwrite, List.take_take, List.length_take,
        Nat.min_eq_left hfits, Nat.min_eq_right hfits, List.take_append_drop]
    simp only [Decided, hstate', hkept]
    refine ⟨⟨hlength, hdrop', hbuffer ▸ hbuffer', hsize.trans hsize'⟩, hroom, ?_⟩
    rw [hbuffer, hsaved, saved, saved, lastFull_snoc, if_neg]
    simp [showsFull, hstate]
  | taken hstate => simp only [Decided, hstate']

end

/-! ## Runs -/

lemma take_append_eq_iff {bytes frame : List UInt8} (hlength : bytes.length = mailboxCheckSize)
    (hroom : mailboxCheckSize ≤ frame.length) (n : ℕ) :
    (bytes ++ frame.drop mailboxCheckSize).take n = frame.take n ↔
      bytes.take n = (frame.take mailboxCheckSize).take n := by
  have hframe : frame.take n = (frame.take mailboxCheckSize).take n ++
      (frame.drop mailboxCheckSize).take (n - mailboxCheckSize) := by
    have h : (frame.take mailboxCheckSize ++ frame.drop mailboxCheckSize).take n = _ :=
      List.take_append
    rwa [List.take_append_drop, List.length_take, Nat.min_eq_left hroom] at h
  rw [List.take_append, hlength, hframe, List.append_left_inj]

/-- **The frame that is sent.**  In every run from a start in which the device gives every PDU back
with its length and every write with its data: a write that is out carries the frame exactly if the
last status that reported a full mailbox, if there was one, begins like the frame. -/
theorem sendsFrame_iff (task : MailboxWriteTask)
    (htask : task.emptyCheckBuffer.length = mailboxCheckSize) (slaveAddress : SlaveAddress)
    (rxSm : SyncManager) (waitEmpty : Bool) (frame : List UInt8) (replies : List Reply)
    (hreplies : ∀ reply ∈ replies, reply.GivesBack) (d : Driven MailboxWriteTask)
    (hrun : Transition.run Driven.step ⟨task.start slaveAddress rxSm waitEmpty, .new frame⟩
      replies = .ok d) (hwrite : d.task.state = .write) :
    d.socket.dataBuf.take d.socket.dataLength = frame.take rxSm.size.toNat ↔
      ∀ full, lastFull (Driven.history ⟨task.start slaveAddress rxSm waitEmpty, .new frame⟩ replies) =
        some full → full.take rxSm.size.toNat =
          (frame.take mailboxCheckSize).take rxSm.size.toNat := by
  have hstart : Inv frame rxSm.size (task.start slaveAddress rxSm waitEmpty) none frame [] :=
    ⟨by rintro ⟨⟩, ⟨rfl, rfl, htask, rfl⟩, rfl⟩
  have hsilent {task task' : MailboxWriteTask} {pdu : Option (Command × ℕ)}
      {buf buf' : List UInt8} {history : List (Exchange MailboxWriteTask)}
      (h : Inv frame rxSm.size task none buf history)
      (hnext : task.nextPdu buf = .ok ((pdu, buf'), task')) :
      Inv frame rxSm.size task' pdu buf' history := inv_of_decided h.2 hnext
  have hanswered {task task' task'' : MailboxWriteTask} {command : Command} {size : ℕ}
      {pdu : Option (Command × ℕ)} {buf buf' : List UInt8}
      {history : List (Exchange MailboxWriteTask)} {reply : Reply} (hreply : reply.GivesBack)
      (h : Inv frame rxSm.size task (some (command, size)) buf history) (hsize : size ≤ buf.length)
      (hrecieve : task.recieveAndProcess (Driven.shown command size buf reply) reply.time =
        .ok task')
      (hnext : task'.nextPdu (Driven.answered command size buf reply) =
        .ok ((pdu, buf'), task'')) :
      Inv frame rxSm.size task'' pdu buf'
        (history ++ [⟨task, buf.take size, Driven.shown command size buf reply⟩]) := by
    obtain ⟨hmove, hsame⟩ := move_of_recieveAndProcess hrecieve
    exact inv_of_decided (decided_of_move hreply h hsize hsame hmove) hnext
  obtain ⟨pdu, buf, hsocket, h⟩ :=
    Driven.history_invariant (Inv frame rxSm.size) hsilent hanswered hstart hreplies hrun
  rcases pdu with _ | pdu
  · exact absurd hwrite h.1
  · simp only [Inv, Sent, hwrite] at h
    obtain ⟨⟨-, -, hlength, -⟩, hroom, hsaved, rfl, target, ado, hpdu⟩ := h
    cases hpdu
    rw [hsocket]
    refine (take_append_eq_iff (hsaved ▸ hlength) hroom _).trans ?_
    rw [saved]
    rcases lastFull (Driven.history ⟨task.start slaveAddress rxSm waitEmpty, .new frame⟩ replies)
      with _ | full
    · exact ⟨fun _ full heq => (by cases heq), fun _ => rfl⟩
    · exact ⟨fun h full' heq => Option.some.inj heq ▸ h, fun h => h full rfl⟩

/-! ## A poll that finds the mailbox full -/

/-- A slave that reacts to every PDU and answers reads with these bytes. -/
def showing (status : List UInt8) : Reply where
  respond pdu :=
    { pdu with
      data := match pdu.command.cType with
        | .apwr | .fpwr | .bwr => pdu.data
        | _ => overwrite pdu.data status
      wkc := 1 }
  time := 1

lemma showing_givesBack (status : List UInt8) : (showing status).GivesBack where
  length_eq pdu := by
    unfold showing
    dsimp only
    split
    all_goals first | rfl | exact length_overwrite _ _
  write_eq target ado data wkc := by
    rcases target with (_ | _) | _ <;> rfl

/-- The state after the polls, and the data of the PDU that is out. -/
def sentAfter (frame : List UInt8) (replies : List Reply) : Option (State × List UInt8) :=
  (Transition.run Driven.step ⟨new.start (.slavePosition 0) ⟨0, 4, 0x1000⟩ true, .new frame⟩
    replies).toOption.map
      fun d => (d.task.state, d.socket.dataBuf.take d.socket.dataLength)

/-- The frame is sent with the status in front. -/
theorem sentAfter_full :
    (∀ reply ∈ [showing [], showing [0x08, 0], showing [0, 0]], reply.GivesBack) ∧
      sentAfter [1, 2, 3, 4] [showing [], showing [0x08, 0], showing [0, 0]] =
        some (.write, [0x08, 0, 3, 4]) := by
  refine ⟨fun reply hreply => ?_, by decide +kernel⟩
  simp only [List.mem_cons, List.not_mem_nil, or_false] at hreply
  rcases hreply with rfl | rfl | rfl <;> exact showing_givesBack _

/-- A mailbox that is empty at once. -/
theorem sendsFrame_of_empty :
    ∃ d, Transition.run Driven.step
        ⟨new.start (.slavePosition 0) ⟨0, 4, 0x1000⟩ true, .new [1, 2, 3, 4]⟩
        [showing [], showing [0, 0]] = .ok d ∧
      d.socket.dataBuf.take d.socket.dataLength = [1, 2, 3, 4] := by
  have hlast : lastFull (Driven.history
      ⟨new.start (.slavePosition 0) ⟨0, 4, 0x1000⟩ true, .new [1, 2, 3, 4]⟩
      [showing [], showing [0, 0]]) = none := by decide +kernel
  have hstate : (Transition.run Driven.step
      ⟨new.start (.slavePosition 0) ⟨0, 4, 0x1000⟩ true, .new [1, 2, 3, 4]⟩
      [showing [], showing [0, 0]]).toOption.map (fun d => d.task.state) = some .write := by
    decide +kernel
  rcases hrun : Transition.run Driven.step
    ⟨new.start (.slavePosition 0) ⟨0, 4, 0x1000⟩ true, .new [1, 2, 3, 4]⟩
    [showing [], showing [0, 0]] with e | d
  · rw [hrun] at hstate
    cases hstate
  · rw [hrun] at hstate
    refine ⟨d, rfl, (sendsFrame_iff new rfl (.slavePosition 0) ⟨0, 4, 0x1000⟩ true [1, 2, 3, 4]
      [showing [], showing [0, 0]] (fun reply hreply => ?_) d hrun (Option.some.inj hstate)).mpr
        fun full hfull => ?_⟩
    · simp only [List.mem_cons, List.not_mem_nil, or_false] at hreply
      rcases hreply with rfl | rfl <;> exact showing_givesBack _
    · rw [hlast] at hfull
      cases hfull

end MailboxWriteTask

end EtherCat
