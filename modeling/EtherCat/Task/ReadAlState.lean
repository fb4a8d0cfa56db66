import EtherCat.Foundation.Transition
import EtherCat.Interface.PollSinglePdu
import EtherCat.Task.BlockingCall
import Mathlib.Logic.Relation

/-!
# `read_al_state`

The task of `read_al_state` is never busy, so that `block_on` leaves its loop behind the first poll
that has moved every PDU.  Until then the task has made no step and its own PDU was not even put
into the socket: what the call returns is read from whatever response an earlier call has left
there, and without one the call panics.
-/

namespace EtherCat

open Rust Rust.Exec BitField CyclicTask

namespace SocketInterface

/-! ## The buffer of a socket -/

variable {D : Type} {N : ℕ} {sif sif' : SocketInterface D N} {handle n : ℕ}

/-- The socket has a buffer of this length. -/
def HasBuffer (handle n : ℕ) (sif : SocketInterface D N) : Prop :=
  ∃ socket, sif.getSocket handle = some socket ∧ socket.dataBuf.length = n

lemma HasBuffer.modifySocket (h : sif.HasBuffer handle n) {slot : ℕ} {f : PduSocket → PduSocket}
    (hf : ∀ socket, sif.getSocket slot = some socket →
      (f socket).dataBuf.length = socket.dataBuf.length) :
    (sif.modifySocket slot f).HasBuffer handle n := by
  obtain ⟨socket, hsocket, hlength⟩ := h
  by_cases hslot : handle = slot
  · subst hslot
    refine ⟨f socket, ?_, (hf socket hsocket).trans hlength⟩
    rw [getSocket_modifySocket, if_pos rfl, hsocket]
    rfl
  · exact ⟨socket, by rwa [getSocket_modifySocket, if_neg hslot], hlength⟩

lemma HasBuffer.enqueueSlots {slots : List ℕ} {i : ℕ} {complete : Bool}
    (h : sif.HasBuffer handle n)
    (henqueue : SocketInterface.enqueueSlots slots i sif = .ok (complete, sif')) :
    sif'.HasBuffer handle n := by
  induction slots generalizing i sif with
  | nil =>
      cases henqueue
      exact h
  | cons slot slots ih =>
      rw [SocketInterface.enqueueSlots] at henqueue
      split at henqueue
      · exact ih h henqueue
      · next socket hsocket =>
          obtain ⟨remaining, -, henqueue⟩ := bind_eq_ok.mp henqueue
          split at henqueue
          · cases henqueue
            exact h
          · obtain ⟨⟨taken, socket'⟩, htake, henqueue⟩ := bind_eq_ok.mp henqueue
            rcases taken with _ | commandData
            · exact ih h henqueue
            · obtain ⟨⟨result, iface⟩, -, henqueue⟩ := bind_eq_ok.mp henqueue
              rcases result with e | u
              · cases henqueue
              · have hiface : HasBuffer handle n { sif with iface := iface } := h
                refine ih (hiface.modifySocket fun socket'' hsocket'' => ?_) henqueue
                cases hsocket.symm.trans hsocket''
                rcases PduSocket.takePdu_eq_ok htake with ⟨-, -, rfl⟩ | ⟨-, -, -, -, -, rfl⟩ <;> rfl

lemma HasBuffer.deliverPdus {pdus : List (List UInt8)} (h : sif.HasBuffer handle n)
    (hdeliver : SocketInterface.deliverPdus pdus sif = .ok sif') : sif'.HasBuffer handle n := by
  induction pdus generalizing sif with
  | nil =>
      cases hdeliver
      exact h
  | cons pdu pdus ih =>
      obtain ⟨index, -, hdeliver⟩ := bind_eq_ok.mp hdeliver
      split at hdeliver
      · exact ih h hdeliver
      · obtain ⟨recvData, -, hdeliver⟩ := bind_eq_ok.mp hdeliver
        exact ih (h.modifySocket fun socket _ => length_overwrite _ _) hdeliver

variable [RawEthernetDevice D]

lemma HasBuffer.transmitAndReceive {r : Except PhyError Bool} (h : sif.HasBuffer handle n)
    (hexchange : sif.transmitAndReceive = .ok (r, sif')) : sif'.HasBuffer handle n := by
  obtain ⟨⟨txResult, iface⟩, -, hexchange⟩ := bind_eq_ok.mp hexchange
  rcases txResult with e | isTxOk
  · cases hexchange
    exact h
  obtain ⟨⟨rxResult, iface'⟩, -, hexchange⟩ := bind_eq_ok.mp hexchange
  rcases rxResult with e | isRxOk
  · cases hexchange
    exact h
  dsimp only at hexchange
  split at hexchange
  · cases hexchange
    exact h
  · obtain ⟨pdus, -, hexchange⟩ := bind_eq_ok.mp hexchange
    obtain ⟨delivered, hdeliver, hexchange⟩ := bind_eq_ok.mp hexchange
    cases hexchange
    have hiface : HasBuffer handle n { sif with iface := iface'.consumePdus.2 } := h
    exact hiface.deliverPdus hdeliver

/-- **A poll keeps the buffers.** -/
lemma HasBuffer.pollTxRx {r : Except PhyError Bool} (h : sif.HasBuffer handle n)
    (hpoll : sif.pollTxRx = .ok (r, sif')) : sif'.HasBuffer handle n := by
  obtain ⟨complete, enqueued, processed, henqueue, hexchange, -⟩ := pollTxRx_eq_ok hpoll
  exact (h.enqueueSlots henqueue).transmitAndReceive hexchange

end SocketInterface

namespace AlStateReadTask

/-- What an AL status register shows. -/
def statusOf (data : List UInt8) : AlState × Option AlStatusCode :=
  (.ofU8 (.ofNat (AlStatus.state.val data)),
    if AlStatus.changeErr.val data ≠ 0 then
      AlStatusCode.tryFrom (.ofNat (AlStatus.alStatusCode.val data))
    else none)

/-- The fields can be read, and the code behind an error is a known one. -/
structure Readable (data : List UInt8) : Prop where
  state : AlStatus.state.Fits data
  changeErr : AlStatus.changeErr.Fits data
  code : AlStatus.changeErr.val data ≠ 0 → AlStatus.alStatusCode.Fits data ∧
    (AlStatusCode.tryFrom (.ofNat (AlStatus.alStatusCode.val data))).isSome

/-- The task after a response that it could read. -/
def seeing (task : AlStateReadTask) (recvData : Pdu) : AlStateReadTask :=
  { task with
    invalidWkcCount := if recvData.wkc ≠ task.target.numTargets then
      min (task.invalidWkcCount + 1) usizeMax else task.invalidWkcCount
    lastAlState := some (statusOf recvData.data).1
    lastAlStatusCode := (statusOf recvData.data).2 }

lemma recieveAndProcess_of_readable {recvData : Pdu} (h : Readable recvData.data)
    (task : AlStateReadTask) (time : ℕ) :
    task.recieveAndProcess recvData time = .ok (task.seeing recvData) := by
  have hcode : AlStatus.changeErr.val recvData.data ≠ 0 →
      ∃ code, AlStatus.alStatusCode.get recvData.data =
          .ok (AlStatus.alStatusCode.val recvData.data) ∧
        AlStatusCode.tryFrom (.ofNat (AlStatus.alStatusCode.val recvData.data)) = some code := by
    intro herror
    obtain ⟨hfits, hsome⟩ := h.code herror
    obtain ⟨code, hcode⟩ := Option.isSome_iff_exists.mp hsome
    exact ⟨code, Field.get_of_fits hfits, hcode⟩
  by_cases herror : AlStatus.changeErr.val recvData.data = 0
  · simp only [recieveAndProcess, seeing, statusOf, Field.get_of_fits h.state,
      Field.getBool_of_fits h.changeErr, ok_bind, herror, bne_self_eq_false, Bool.false_eq_true,
      if_false, not_true_eq_false, ne_eq]
    split <;> rfl
  · obtain ⟨code, hget, hsome⟩ := hcode herror
    have hbit : (AlStatus.changeErr.val recvData.data != 0) = true := by simpa using herror
    simp only [recieveAndProcess, seeing, statusOf, Field.get_of_fits h.state,
      Field.getBool_of_fits h.changeErr, ok_bind, hbit, if_true, hget, hsome, unwrap, ne_eq, herror,
      not_false_eq_true]
    split <;> rfl

lemma readable_of_recieveAndProcess {task task' : AlStateReadTask} {recvData : Pdu} {time : ℕ}
    (h : task.recieveAndProcess recvData time = .ok task') : Readable recvData.data := by
  obtain ⟨state, hstate, h⟩ := bind_eq_ok.mp h
  obtain ⟨changeErr, herror, h⟩ := bind_eq_ok.mp h
  obtain ⟨hstateFits, -⟩ := Field.get_eq_ok_iff.mp hstate
  obtain ⟨herrorFits, rfl⟩ := Field.getBool_eq_ok_iff.mp herror
  refine ⟨hstateFits, herrorFits, fun hne => ?_⟩
  have hbit : (AlStatus.changeErr.val recvData.data != 0) = true := by simpa using hne
  rw [hbit, if_pos rfl] at h
  obtain ⟨code, hcode, h⟩ := bind_eq_ok.mp h
  obtain ⟨alStatusCode, hunwrap, -⟩ := bind_eq_ok.mp h
  obtain ⟨hcodeFits, rfl⟩ := Field.get_eq_ok_iff.mp hcode
  exact ⟨hcodeFits, Option.isSome_of_eq_some (unwrap_eq_ok_iff.mp hunwrap)⟩

end AlStateReadTask

namespace SocketUse

variable {D : Type} [RawEthernetDevice D] {N : ℕ} {handle : ℕ} {targetSlave : TargetSlave}
  {sif sif' : SocketInterface D N} {record : CallRecord D}

/-- The loop of `read_al_state` before its task has made a step. -/
def readingBlock (handle : ℕ) (targetSlave : TargetSlave) (sif : SocketInterface D N) :
    BlockOn AlStateReadTask D N :=
  .new sif handle (AlStateReadTask.new.setTarget targetSlave)

/-- `read_al_state` before its task has made a step. -/
def reading (handle : ℕ) (targetSlave : TargetSlave) (sif : SocketInterface D N)
    (record : CallRecord D) : SocketUse D N :=
  .busy (.readAlState targetSlave) (readingBlock handle targetSlave sif) record

/-! ## A turn -/

/-- The record behind a turn. -/
def recordAfter (handle : ℕ) (targetSlave : TargetSlave) (sif : SocketInterface D N)
    (record : CallRecord D) : CallRecord D :=
  { record with
    produced := record.produced ++ (readingBlock handle targetSlave sif).given.toList
    processed := record.processed ++ (readingBlock handle targetSlave sif).shown.toList }

lemma step_of_turn_none {block' : BlockOn AlStateReadTask D N}
    (hturn : (readingBlock handle targetSlave sif).turn Unit = .ok (none, block')) :
    step handle (reading handle targetSlave sif record) .turn =
      .ok (.busy (.readAlState targetSlave) block' (recordAfter handle targetSlave sif record)) := by
  change ((readingBlock handle targetSlave sif).turn Unit >>= _) = _
  rw [hturn]
  rfl

lemma step_of_turn_error {block' : BlockOn AlStateReadTask D N} {e : TaskError Unit}
    (hturn : (readingBlock handle targetSlave sif).turn Unit = .ok (some (.error e), block')) :
    step handle (reading handle targetSlave sif record) .turn =
      .ok (.free block'.sif (.aborted (.readAlState targetSlave) e)
        (recordAfter handle targetSlave sif record)) := by
  change ((readingBlock handle targetSlave sif).turn Unit >>= _) = _
  rw [hturn]
  rfl

lemma step_of_turn_ok {block' : BlockOn AlStateReadTask D N} {socket : PduSocket}
    {result : Except (TaskError Unit) (AlState × Option AlStatusCode)}
    (hturn : (readingBlock handle targetSlave sif).turn Unit = .ok (some (.ok ()), block'))
    (hsocket : block'.sif.getSocket handle = some socket)
    (hfinish : BlockingCall.finish (.readAlState targetSlave) block'.unit socket.dataBuf =
      .ok result) :
    step handle (reading handle targetSlave sif record) .turn =
      .ok (.free block'.sif (.finished (.readAlState targetSlave) result)
        (recordAfter handle targetSlave sif record)) := by
  change ((readingBlock handle targetSlave sif).turn Unit >>= _) = _
  rw [hturn]
  change (unwrap (block'.sif.getSocket handle) >>= _) = _
  rw [hsocket]
  change (BlockingCall.finish (.readAlState targetSlave) block'.unit socket.dataBuf >>= _) = _
  rw [hfinish]
  rfl

lemma step_of_pollTxRx_error {e : Panic} (hpoll : sif.pollTxRx = .error e) :
    step handle (reading handle targetSlave sif record) .turn = .error e := by
  change ((sif.pollTxRx >>= _) >>= _) = _
  rw [hpoll]
  rfl

lemma step_of_waits {polled : Except PhyError Bool} (hpoll : sif.pollTxRx = .ok (polled, sif'))
    (hwaits : Waits polled) :
    step handle (reading handle targetSlave sif record) .turn =
      .ok (reading handle targetSlave sif' record) := by
  have hshown : (readingBlock handle targetSlave sif).shown = none := by
    rcases hwaits with rfl | rfl | rfl <;>
      simp only [BlockOn.shown, readingBlock, BlockOn.new, hpoll]
  have hgiven : (readingBlock handle targetSlave sif).given = none := by
    rcases hwaits with rfl | rfl | rfl <;>
      simp only [BlockOn.given, readingBlock, BlockOn.new, hpoll]
  have hturn : (readingBlock handle targetSlave sif).turn Unit =
      .ok (none, readingBlock handle targetSlave sif') := by
    rcases hwaits with rfl | rfl | rfl <;>
      simp only [BlockOn.turn, readingBlock, BlockOn.new, hpoll, ok_bind]
  rw [step_of_turn_none hturn, recordAfter, hshown, hgiven]
  simp only [Option.toList_none, List.append_nil]
  rfl

lemma step_of_givesUp (handle : ℕ) (targetSlave : TargetSlave) (record : CallRecord D)
    {polled : Except PhyError Bool} (hpoll : sif.pollTxRx = .ok (polled, sif'))
    (hgives : GivesUp polled) :
    ∃ e record', step handle (reading handle targetSlave sif record) .turn =
      .ok (.free sif' (.aborted (.readAlState targetSlave) e) record') := by
  have hturn : ∃ e, (readingBlock handle targetSlave sif).turn Unit =
      .ok (some (.error e), readingBlock handle targetSlave sif') := by
    rcases hgives with rfl | rfl <;>
      simp only [BlockOn.turn, readingBlock, BlockOn.new, hpoll, ok_bind] <;> exact ⟨_, rfl⟩
  obtain ⟨e, hturn⟩ := hturn
  exact ⟨e, _, step_of_turn_error hturn⟩

/-- What a call returns that has found this response. -/
def resultOf (targetSlave : TargetSlave) (recvData : Pdu) :
    Except (TaskError Unit) (AlState × Option AlStatusCode) :=
  if recvData.wkc ≠ targetSlave.numTargets then
    .error (.unexpectedWkc ⟨targetSlave.numTargets, 0⟩)
  else
    .ok (AlStateReadTask.statusOf recvData.data)

lemma finish_of_seen (targetSlave : TargetSlave) (recvData : Pdu) (command : Command)
    (dataBuf : List UInt8) :
    BlockingCall.finish (.readAlState targetSlave)
        { (AlStateReadTask.new.setTarget targetSlave).seeing recvData with command := command }
        dataBuf = .ok (resultOf targetSlave recvData) := by
  by_cases hwkc : recvData.wkc ≠ targetSlave.numTargets
  · have hcount : ((AlStateReadTask.new.setTarget targetSlave).seeing recvData).invalidWkcCount =
        1 := if_pos hwkc
    simp only [BlockingCall.finish, hcount, resultOf, if_pos hwkc]
    rfl
  · have hcount : ((AlStateReadTask.new.setTarget targetSlave).seeing recvData).invalidWkcCount =
        0 := if_neg hwkc
    simp only [BlockingCall.finish, hcount, resultOf, if_neg hwkc]
    rfl

/-- The turn behind the first poll that has moved every PDU. -/
lemma step_of_complete (targetSlave : TargetSlave) (record : CallRecord D) {socket : PduSocket}
    {recvData : Pdu} (hpoll : sif.pollTxRx = .ok (.ok true, sif'))
    (hsocket : sif'.getSocket handle = some socket)
    (hroom : AlStatus.size ≤ socket.dataBuf.length)
    (hrecv : socket.getRecievedPdu = .ok (some recvData))
    (hreadable : AlStateReadTask.Readable recvData.data) :
    ∃ sif'' record', step handle (reading handle targetSlave sif record) .turn =
      .ok (.free sif'' (.finished (.readAlState targetSlave) (resultOf targetSlave recvData))
        record') := by
  have hnext : nextPdu ((AlStateReadTask.new.setTarget targetSlave).seeing recvData)
      socket.dataBuf =
      .ok ((some (.newRead targetSlave AlStatus.address, AlStatus.size),
          List.replicate AlStatus.size 0 ++ socket.dataBuf.drop AlStatus.size),
        { (AlStateReadTask.new.setTarget targetSlave).seeing recvData with
          command := .newRead targetSlave AlStatus.address }) := by
    change AlStateReadTask.nextPdu _ _ = _
    rw [AlStateReadTask.nextPdu, fillTo_eq_ok_iff.mpr ⟨hroom, rfl⟩]
    rfl
  have hresponse : processResponse (AlStateReadTask.new.setTarget targetSlave) socket 0 =
      .ok ((AlStateReadTask.new.setTarget targetSlave).seeing recvData) := by
    rw [processResponse, hrecv]
    exact AlStateReadTask.recieveAndProcess_of_readable hreadable _ 0
  have hturn : (readingBlock handle targetSlave sif).turn Unit = .ok (some (.ok ()),
      { readingBlock handle targetSlave sif with
        sif := sif'.modifySocket handle fun _ =>
          .store (some (.newRead targetSlave AlStatus.address, AlStatus.size))
            (List.replicate AlStatus.size 0 ++ socket.dataBuf.drop AlStatus.size)
        unit := { (AlStateReadTask.new.setTarget targetSlave).seeing recvData with
          command := .newRead targetSlave AlStatus.address } }) := by
    simp only [BlockOn.turn, readingBlock, BlockOn.new, hpoll, ok_bind, BlockOn.stepTask, hsocket,
      unwrap, processOneStep, hresponse, hnext]
    rfl
  have hgot : (sif'.modifySocket handle fun _ =>
      .store (some (.newRead targetSlave AlStatus.address, AlStatus.size))
        (List.replicate AlStatus.size 0 ++ socket.dataBuf.drop AlStatus.size)).getSocket handle =
      some (.store (some (.newRead targetSlave AlStatus.address, AlStatus.size))
        (List.replicate AlStatus.size 0 ++ socket.dataBuf.drop AlStatus.size)) := by
    rw [SocketInterface.getSocket_modifySocket, if_pos rfl, hsocket]
    rfl
  exact ⟨_, _, step_of_turn_ok hturn hgot (finish_of_seen targetSlave recvData _ _)⟩

/-- A turn behind such a poll that does not panic has found a response. -/
lemma exists_recvData_of_step {s' : SocketUse D N} (hpoll : sif.pollTxRx = .ok (.ok true, sif'))
    (hstep : step handle (reading handle targetSlave sif record) .turn = .ok s') :
    ∃ socket recvData, sif'.getSocket handle = some socket ∧
      socket.getRecievedPdu = .ok (some recvData) ∧ AlStateReadTask.Readable recvData.data := by
  obtain ⟨⟨result, block'⟩, hturn, hstep⟩ := bind_eq_ok.mp hstep
  change (readingBlock handle targetSlave sif).turn Unit = .ok (result, block') at hturn
  simp only [BlockOn.turn, readingBlock, BlockOn.new, hpoll, ok_bind] at hturn
  obtain ⟨socket, hsocket, hturn⟩ := bind_eq_ok.mp hturn
  obtain ⟨⟨unit, socket'⟩, hprocess, hturn⟩ := bind_eq_ok.mp hturn
  obtain ⟨unit', hresponse, hprocess⟩ := bind_eq_ok.mp hprocess
  obtain ⟨recvData, hrecv, hunit⟩ := bind_eq_ok.mp hresponse
  refine ⟨socket, ?_⟩
  rcases recvData with _ | recvData
  · -- the task has seen no response, so that its result is missing
    cases hunit
    obtain ⟨⟨⟨pdu, dataBuf⟩, unit''⟩, hnext, heq⟩ := bind_eq_ok.mp hprocess
    cases heq
    cases hturn
    obtain ⟨socket'', -, hstep⟩ := bind_eq_ok.mp hstep
    obtain ⟨value, hfinish, -⟩ := bind_eq_ok.mp hstep
    have hcyclic : (BlockingCall.readAlState targetSlave).IsCyclic := trivial
    have hpanics := BlockingCall.finish_of_unanswered hcyclic ⟨rfl, rfl⟩ hnext socket''.dataBuf
    cases hpanics.symm.trans hfinish
  · exact ⟨recvData, unwrap_eq_ok_iff.mp hsocket, hrecv,
      AlStateReadTask.readable_of_recieveAndProcess hunit⟩

lemma polled_cases (polled : Except PhyError Bool) :
    Waits polled ∨ GivesUp polled ∨ polled = .ok true := by
  rcases polled with (_ | _ | _ | _) | (_ | _) <;> simp [Waits, GivesUp]

/-- **A turn.** -/
lemma step_reading_eq_ok {s' : SocketUse D N} {length : ℕ} (hbuffer : sif.HasBuffer handle length)
    (hroom : AlStatus.size ≤ length)
    (hstep : step handle (reading handle targetSlave sif record) .turn = .ok s') :
    ∃ polled sif', sif.pollTxRx = .ok (polled, sif') ∧
      (Waits polled ∧ s' = reading handle targetSlave sif' record ∨
        (GivesUp polled ∧ ∃ e record', s' = .free sif' (.aborted (.readAlState targetSlave) e)
          record') ∨
        polled = .ok true ∧ ∃ socket recvData, sif'.getSocket handle = some socket ∧
          socket.getRecievedPdu = .ok (some recvData) ∧
          AlStateReadTask.Readable recvData.data ∧ ∃ sif'' record', s' = .free sif''
            (.finished (.readAlState targetSlave) (resultOf targetSlave recvData)) record') := by
  rcases hpoll : sif.pollTxRx with e | ⟨polled, sif'⟩
  · rw [step_of_pollTxRx_error hpoll] at hstep
    cases hstep
  refine ⟨polled, sif', rfl, ?_⟩
  rcases polled_cases polled with hwaits | hgives | rfl
  · rw [step_of_waits hpoll hwaits] at hstep
    cases hstep
    exact .inl ⟨hwaits, rfl⟩
  · obtain ⟨e, record', hends⟩ := step_of_givesUp handle targetSlave record hpoll hgives
    rw [hends] at hstep
    cases hstep
    exact .inr (.inl ⟨hgives, e, record', rfl⟩)
  · obtain ⟨socket, recvData, hsocket, hrecv, hreadable⟩ := exists_recvData_of_step hpoll hstep
    obtain ⟨socket', hsocket', hlength⟩ := hbuffer.pollTxRx hpoll
    cases hsocket.symm.trans hsocket'
    obtain ⟨sif'', record', hends⟩ :=
      step_of_complete targetSlave record hpoll hsocket (hlength ▸ hroom) hrecv hreadable
    rw [hends] at hstep
    cases hstep
    exact .inr (.inr ⟨rfl, socket, recvData, hsocket, hrecv, hreadable, sif'', record', rfl⟩)

/-! ## The promise -/

omit [RawEthernetDevice D] in
lemma modifySocket_self {socket : PduSocket} (hsocket : sif.getSocket handle = some socket)
    {f : PduSocket → PduSocket} (hf : f socket = socket) : sif.modifySocket handle f = sif := by
  obtain ⟨hlt, hitem⟩ := IndexSet.getItem_eq_some_iff.mp hsocket
  have hset : sif.socketSet.modifyItem handle f = sif.socketSet := by
    rw [IndexSet.modifyItem, dif_pos hlt, hitem]
    dsimp only
    rw [hf, ← hitem, Vector.set_getElem_self]
  rw [SocketInterface.modifySocket, hset]

/-- The start of the call. -/
lemma step_start (targetSlave : TargetSlave) (record : CallRecord D) {socket : PduSocket}
    (hsocket : sif.getSocket handle = some socket)
    (hroom : AlStateReadTask.requiredBufferSize ≤ socket.dataBuf.length) (last : LastCall) :
    step handle (.free sif last record) (.start (.readAlState targetSlave)) =
      .ok (reading handle targetSlave sif ⟨sif.iface.ethdev, [], []⟩) := by
  change (unwrap (sif.getSocket handle) >>= _) = _
  rw [hsocket]
  have hstart : BlockingCall.start (.readAlState targetSlave) socket.dataBuf =
      .ok (.ok (AlStateReadTask.new.setTarget targetSlave), socket.dataBuf) := by
    have hassert : assert (AlStateReadTask.requiredBufferSize ≤ socket.dataBuf.length) = .ok () :=
      check_of hroom
    change (assert _ >>= _) = _
    rw [hassert]
    rfl
  change (BlockingCall.start (.readAlState targetSlave) socket.dataBuf >>= _) = _
  rw [hstart]
  change Except.ok (SocketUse.busy _ (BlockOn.new (sif.modifySocket handle _) _ _) _) = _
  rw [modifySocket_self hsocket rfl]
  rfl

/-- A call of `read_al_state` with this many turns. -/
def readSteps (targetSlave : TargetSlave) (n : ℕ) : List CallStep :=
  .start (.readAlState targetSlave) :: List.replicate n .turn

/-- The responses that the task of a call is shown when it has put a PDU of its own into the
socket. -/
def ownResponses : SocketUse D N → CallStep → List Pdu
  | .busy _ block record, .turn => if record.produced.isEmpty then [] else block.shown.toList
  | _, _ => []

/-- **What is promised of `read_al_state`.** -/
structure ReadsOwnStatus (handle : ℕ) (targetSlave : TargetSlave) (s : SocketUse D N) : Prop where
  noPanic : ∀ n, ∃ s', Transition.run (step handle) s (readSteps targetSlave n) = .ok s'
  own : ∀ n sif value record, Transition.run (step handle) s (readSteps targetSlave n) =
      .ok (.free sif (.finished (.readAlState targetSlave) (.ok value)) record) →
    ∃ pdu ∈ Transition.log (step handle) ownResponses s (readSteps targetSlave n),
      pdu.wkc = targetSlave.numTargets ∧ value = AlStateReadTask.statusOf pdu.data
  wrongWkc : ∀ n sif result record, Transition.run (step handle) s (readSteps targetSlave n) =
      .ok (.free sif (.finished (.readAlState targetSlave) result) record) →
    ∀ pdu ∈ Transition.log (step handle) ownResponses s (readSteps targetSlave n),
      pdu.wkc ≠ targetSlave.numTargets →
      result = .error (.unexpectedWkc ⟨targetSlave.numTargets, pdu.wkc⟩)

/-- A poll that `block_on` repeats. -/
def PollWaits (sif sif' : SocketInterface D N) : Prop :=
  ∃ polled, Waits polled ∧ sif.pollTxRx = .ok (polled, sif')

/-- No poll panics up to the first that moves every PDU, and that one leaves a response with a wrong
working counter in the socket. -/
def FindsWrongResponse (handle : ℕ) (targetSlave : TargetSlave) (sif : SocketInterface D N) :
    Prop :=
  ∀ sif₁, Relation.ReflTransGen PollWaits sif sif₁ →
    ∃ polled sif₂, sif₁.pollTxRx = .ok (polled, sif₂) ∧ (polled = .ok true →
      ∃ socket recvData, sif₂.getSocket handle = some socket ∧
        socket.getRecievedPdu = .ok (some recvData) ∧
        AlStateReadTask.Readable recvData.data ∧ recvData.wkc ≠ targetSlave.numTargets)

section

variable {d : D} {length : ℕ}

/-- The task has made no step, or the call is over. -/
def BeforeStep (handle : ℕ) (targetSlave : TargetSlave) (d : D) (length : ℕ) (s : SocketUse D N) :
    Prop :=
  (∃ sif, s = reading handle targetSlave sif ⟨d, [], []⟩ ∧ sif.HasBuffer handle length) ∨
    ∃ sif last record, s = .free sif last record

/-- The task is never shown a response to its own PDU. -/
lemma log_ownResponses (hroom : AlStatus.size ≤ length) {s s' : SocketUse D N} {n : ℕ}
    (h : BeforeStep handle targetSlave d length s)
    (hrun : Transition.run (step handle) s (List.replicate n .turn) = .ok s') :
    Transition.log (step handle) ownResponses s (List.replicate n .turn) = [] := by
  have hlog : [] ++ Transition.log (step handle) ownResponses s (List.replicate n .turn) = [] ∧
      BeforeStep handle targetSlave d length s' :=
    Transition.run_log_invariant_of_mem (Q := fun i : CallStep => i = .turn)
      (fun s noted => noted = [] ∧ BeforeStep handle targetSlave d length s) ?_ ⟨rfl, h⟩
      (fun i hmem => List.eq_of_mem_replicate hmem) hrun
  · rw [List.nil_append] at hlog
    exact hlog.1
  rintro s i s' noted ⟨rfl, ⟨sif, rfl, hbuffer⟩ | ⟨sif, last, record, rfl⟩⟩ rfl hstep
  · refine ⟨rfl, ?_⟩
    obtain ⟨polled, sif', hpoll, ⟨-, rfl⟩ | ⟨-, e, record', rfl⟩ |
      ⟨-, socket, recvData, -, -, -, sif'', record', rfl⟩⟩ := step_reading_eq_ok hbuffer hroom hstep
    · exact .inl ⟨sif', rfl, hbuffer.pollTxRx hpoll⟩
    · exact .inr ⟨_, _, _, rfl⟩
    · exact .inr ⟨_, _, _, rfl⟩
  · cases hstep
    exact ⟨rfl, .inr ⟨_, _, _, rfl⟩⟩

lemma hasBuffer_of_pollWaits (h : sif.HasBuffer handle length)
    (hwaits : Relation.ReflTransGen PollWaits sif sif') : sif'.HasBuffer handle length := by
  induction hwaits with
  | refl => exact h
  | tail _ hwait ih =>
      obtain ⟨polled, -, hpoll⟩ := hwait
      exact ih.pollTxRx hpoll

/-- Polls that wait keep the call where it is. -/
lemma run_of_pollWaits (handle : ℕ) (targetSlave : TargetSlave) (record : CallRecord D)
    (hwaits : Relation.ReflTransGen PollWaits sif sif') :
    ∃ n, Transition.run (step handle) (reading handle targetSlave sif record)
      (List.replicate n .turn) = .ok (reading handle targetSlave sif' record) := by
  induction hwaits with
  | refl => exact ⟨0, rfl⟩
  | tail _ hwait ih =>
      obtain ⟨n, hrun⟩ := ih
      obtain ⟨polled, hpolled, hpoll⟩ := hwait
      refine ⟨n + 1, ?_⟩
      rw [List.replicate_succ', Transition.run_append_eq_ok_iff]
      exact ⟨_, hrun, Transition.run_cons_eq_ok_iff.mpr ⟨_, step_of_waits hpoll hpolled, rfl⟩⟩

/-- The runs of a call that finds a wrong response. -/
lemma run_of_findsWrongResponse (hroom : AlStatus.size ≤ length)
    (hbuffer : sif.HasBuffer handle length) (h : FindsWrongResponse handle targetSlave sif)
    (record : CallRecord D) (n : ℕ) :
    ∃ s', Transition.run (step handle) (reading handle targetSlave sif record)
        (List.replicate n .turn) = .ok s' ∧
      ((∃ sif', s' = reading handle targetSlave sif' record ∧
          Relation.ReflTransGen PollWaits sif sif') ∨
        ∃ sif' last record', s' = .free sif' last record' ∧
          ∀ value, last ≠ .finished (.readAlState targetSlave) (.ok value)) := by
  induction n with
  | zero => exact ⟨_, rfl, .inl ⟨sif, rfl, .refl⟩⟩
  | succ n ih =>
      obtain ⟨s, hrun, ⟨sif₁, rfl, hwaits⟩ | ⟨sif₁, last, record₁, rfl, hlast⟩⟩ := ih
      · obtain ⟨polled, sif₂, hpoll, hcomplete⟩ := h sif₁ hwaits
        have hstep : ∃ s', step handle (reading handle targetSlave sif₁ record) .turn = .ok s' ∧
            ((∃ sif', s' = reading handle targetSlave sif' record ∧
                Relation.ReflTransGen PollWaits sif sif') ∨
              ∃ sif' last record', s' = .free sif' last record' ∧
                ∀ value, last ≠ .finished (.readAlState targetSlave) (.ok value)) := by
          rcases polled_cases polled with hwait | hgives | rfl
          · exact ⟨_, step_of_waits hpoll hwait,
              .inl ⟨sif₂, rfl, hwaits.tail ⟨polled, hwait, hpoll⟩⟩⟩
          · obtain ⟨e, record', hends⟩ := step_of_givesUp handle targetSlave record hpoll hgives
            exact ⟨_, hends, .inr ⟨_, _, _, rfl, fun value heq => by cases heq⟩⟩
          · obtain ⟨socket, recvData, hsocket, hrecv, hreadable, hwkc⟩ := hcomplete rfl
            obtain ⟨socket', hsocket', hlength⟩ :=
              (hasBuffer_of_pollWaits hbuffer hwaits).pollTxRx hpoll
            cases hsocket.symm.trans hsocket'
            obtain ⟨sif'', record', hends⟩ :=
              step_of_complete targetSlave record hpoll hsocket (hlength ▸ hroom) hrecv hreadable
            refine ⟨_, hends, .inr ⟨_, _, _, rfl, fun value heq => ?_⟩⟩
            rw [resultOf, if_pos hwkc] at heq
            cases heq
        obtain ⟨s', hstep, hs'⟩ := hstep
        refine ⟨s', ?_, hs'⟩
        rw [List.replicate_succ', Transition.run_append_eq_ok_iff]
        exact ⟨_, hrun, Transition.run_cons_eq_ok_iff.mpr ⟨s', hstep, rfl⟩⟩
      · refine ⟨_, ?_, .inr ⟨sif₁, last, record₁, rfl, hlast⟩⟩
        rw [List.replicate_succ', Transition.run_append_eq_ok_iff]
        exact ⟨_, hrun, rfl⟩

end

/-- **When `read_al_state` keeps its promise.**  For every device, interface, target and whatever
the earlier calls have left: exactly if no poll panics, and the first one that moves every PDU
leaves a response with a wrong working counter in the socket, which the call then refuses. -/
theorem readsOwnStatus_iff {socket : PduSocket} (hsocket : sif.getSocket handle = some socket)
    (hroom : AlStateReadTask.requiredBufferSize ≤ socket.dataBuf.length) (last : LastCall)
    (record : CallRecord D) :
    ReadsOwnStatus handle targetSlave (.free sif last record) ↔
      FindsWrongResponse handle targetSlave sif := by
  have hbuffer : sif.HasBuffer handle socket.dataBuf.length := ⟨socket, hsocket, rfl⟩
  have hstart := step_start targetSlave record hsocket hroom last
  have hrun : ∀ n s', Transition.run (step handle) (.free sif last record)
        (readSteps targetSlave n) = .ok s' ↔
      Transition.run (step handle) (reading handle targetSlave sif ⟨sif.iface.ethdev, [], []⟩)
        (List.replicate n .turn) = .ok s' := by
    intro n s'
    rw [readSteps, Transition.run, hstart]
  have hown : ∀ n s', Transition.run (step handle) (.free sif last record)
        (readSteps targetSlave n) = .ok s' →
      Transition.log (step handle) ownResponses (.free sif last record)
        (readSteps targetSlave n) = [] := by
    intro n s' h
    rw [hrun] at h
    rw [readSteps, Transition.log, hstart]
    exact log_ownResponses hroom (.inl ⟨sif, rfl, hbuffer⟩) h
  constructor
  · intro h sif₁ hwaits
    obtain ⟨n, hbefore⟩ := run_of_pollWaits handle targetSlave ⟨sif.iface.ethdev, [], []⟩ hwaits
    have hbuffer₁ := hasBuffer_of_pollWaits hbuffer hwaits
    obtain ⟨s', hnext⟩ := h.noPanic (n + 1)
    have hnext' := (hrun _ _).mp hnext
    rw [List.replicate_succ', Transition.run_append_eq_ok_iff] at hnext'
    obtain ⟨s, hs, hstep⟩ := hnext'
    cases hbefore.symm.trans hs
    obtain ⟨s'', hstep, hend⟩ := Transition.run_cons_eq_ok_iff.mp hstep
    cases hend
    obtain ⟨polled, sif₂, hpoll, hcases⟩ := step_reading_eq_ok hbuffer₁ hroom hstep
    refine ⟨polled, sif₂, hpoll, ?_⟩
    rintro rfl
    rcases hcases with ⟨hwait, -⟩ | ⟨hgives, -⟩ |
      ⟨-, socket₂, recvData, hsocket₂, hrecv, hreadable, sif'', record', rfl⟩
    · exact absurd hwait not_waits_ok
    · rcases hgives with heq | heq <;> cases heq
    · refine ⟨socket₂, recvData, hsocket₂, hrecv, hreadable, fun hwkc => ?_⟩
      rw [resultOf, if_neg (not_not.mpr hwkc)] at hnext
      obtain ⟨pdu, hmem, -⟩ := h.own _ _ _ _ hnext
      rw [hown _ _ hnext] at hmem
      cases hmem
  · intro h
    have hruns := run_of_findsWrongResponse hroom hbuffer h ⟨sif.iface.ethdev, [], []⟩
    refine ⟨fun n => ?_, fun n sif' value record' hend => ?_, fun n sif' result record' hend => ?_⟩
    · obtain ⟨s', hs', -⟩ := hruns n
      exact ⟨s', (hrun _ _).mpr hs'⟩
    · obtain ⟨s', hs', hcases⟩ := hruns n
      cases ((hrun _ _).mp hend).symm.trans hs'
      rcases hcases with ⟨sif₁, heq, -⟩ | ⟨sif₁, last', record₁, heq, hlast⟩
      · cases heq
      · cases heq
        exact absurd rfl (hlast value)
    · rw [hown _ _ hend]
      intro pdu hmem
      cases hmem

end SocketUse

namespace Silent

/-- An interface with a single socket. -/
def oneSocket (socket : PduSocket) : SocketInterface Silent 1 where
  iface := .new ⟨⟩ (List.replicate 64 0)
  socketSet := ⟨1, #v[.exist socket]⟩

/-- A socket in which a read of the AL status has left its response. -/
def answered (data : List UInt8) (wkc : UInt16) : PduSocket where
  command := some (.newRead (.single .default) AlStatus.address)
  dataBuf := data
  wkc := wkc
  dataLength := data.length
  recvFlag := true

end Silent

namespace SocketUse

/-- A call on a new socket panics, and a call on a socket with a response of an earlier one returns
the state which that response shows, without any response to a PDU of its own. -/
theorem newSocket_not_readsOwnStatus :
    ¬ ReadsOwnStatus 0 (.single .default)
        (.new (Silent.oneSocket (.new (List.replicate AlStatus.size 0)))) ∧
      ¬ ReadsOwnStatus 0 (.single .default)
        (.new (Silent.oneSocket (Silent.answered [8, 0, 0, 0, 0, 0] 1))) := by
  constructor
  · intro h
    obtain ⟨s', hrun⟩ := h.noPanic 1
    have hpanics : (Transition.run (step 0)
        (.new (Silent.oneSocket (.new (List.replicate AlStatus.size 0))))
        (readSteps (.single .default) 1)).toOption.isNone = true := by decide +kernel
    rw [hrun] at hpanics
    cases hpanics
  · intro h
    let sif := Silent.oneSocket (Silent.answered [8, 0, 0, 0, 0, 0] 1)
    have hpoll : sif.pollTxRx = .ok (.ok true, sif) := by decide +kernel
    have hreadable : AlStateReadTask.Readable [8, 0, 0, 0, 0, 0] :=
      ⟨by decide, by decide, by decide⟩
    have hstart : step 0 (.new sif) (.start (.readAlState (.single .default))) =
        .ok (reading 0 (.single .default) sif ⟨sif.iface.ethdev, [], []⟩) :=
      step_start _ _ rfl (by decide) _
    have hsocket : sif.getSocket 0 = some (Silent.answered [8, 0, 0, 0, 0, 0] 1) := rfl
    have hroom : AlStatus.size ≤ (Silent.answered [8, 0, 0, 0, 0, 0] 1).dataBuf.length := by decide
    obtain ⟨sif', record', hstep⟩ := step_of_complete (.single .default)
      ⟨sif.iface.ethdev, [], []⟩ hpoll hsocket hroom rfl hreadable
    have hturn := Transition.run_cons_eq_ok_iff.mpr ⟨_, hstep, Transition.run_nil _⟩
    have hrun := Transition.run_cons_eq_ok_iff.mpr ⟨_, hstart, hturn⟩
    obtain ⟨pdu, hmem, -⟩ := h.own 1 _ _ _ hrun
    have hbuffer : sif.HasBuffer 0 AlStatus.size := ⟨_, rfl, rfl⟩
    rw [readSteps, Transition.log, hstart] at hmem
    have hlog := log_ownResponses (Nat.le_refl _) (.inl ⟨sif, rfl, hbuffer⟩) (n := 1) hturn
    dsimp only at hmem
    rw [hlog] at hmem
    cases hmem

/-- A call on a socket with a response of an earlier one that no slave has processed. -/
theorem readsOwnStatus_of_unprocessed :
    ReadsOwnStatus 0 (.single .default)
      (.new (Silent.oneSocket (Silent.answered [8, 0, 0, 0, 0, 0] 0))) := by
  refine (readsOwnStatus_iff rfl (by decide) .none _).mpr fun sif₁ hwaits => ?_
  let sif := Silent.oneSocket (Silent.answered [8, 0, 0, 0, 0, 0] 0)
  have hpoll : sif.pollTxRx = .ok (.ok true, sif) := by decide +kernel
  rcases Relation.ReflTransGen.cases_head hwaits with rfl | ⟨sif₂, ⟨polled, hpolled, hpoll'⟩, -⟩
  · refine ⟨_, sif, hpoll, fun _ => ⟨Silent.answered [8, 0, 0, 0, 0, 0] 0,
      ⟨.newRead (.single .default) AlStatus.address, [8, 0, 0, 0, 0, 0], 0⟩, rfl, rfl, ?_, ?_⟩⟩
    · exact ⟨by decide, by decide, by decide⟩
    · decide
  · cases hpoll.symm.trans hpoll'
    exact absurd hpolled not_waits_ok

end SocketUse

end EtherCat
