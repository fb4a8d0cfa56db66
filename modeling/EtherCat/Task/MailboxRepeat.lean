import EtherCat.Task.Exchange
import EtherCat.Task.MailboxSteps

/-!
# The repeat handshake of a mailbox

A read of the mailbox that no slave has reacted to is asked for again: the task writes the
activation register of the sync manager back with the repeat bit inverted, waits until the slave
shows the same bit as acknowledgement, and polls the status again.  The register is taken from each
status response, and its copy is inverted where the PDU is built; `handshake_of_run` says what the
two amount to in a run.
-/

namespace EtherCat

open Rust Rust.Exec BitField CyclicTask

namespace MailboxReadTask

/-- What a response makes of the state and of the copy of the activation register. -/
inductive Move (task : MailboxReadTask) (recv : Pdu) : State → List UInt8 → Prop
  | failed (e : TaskError MailboxTaskError) (activationBuf : List UInt8) :
      Move task recv (.error e) activationBuf
  | resting (h : task.isBusy = false) : Move task recv task.state task.activationBuf
  | full (isFirst waitFull : Bool) (h : task.state = .checkMailboxAlreadyExisted isFirst waitFull)
      (hwkc : recv.wkc = 1) (hfull : SyncManagerStatus.isMailboxFull.val recv.data ≠ 0) :
      Move task recv .read (recv.data.drop SyncManagerStatus.size)
  | empty (isFirst : Bool) (h : task.state = .checkMailboxAlreadyExisted isFirst true) :
      Move task recv (.checkMailboxAlreadyExisted false true)
        (recv.data.drop SyncManagerStatus.size)
  | taken (h : task.state = .read) (hwkc : recv.wkc = 1) (hechoes : recv.Echoes task.command) :
      Move task recv .complete task.activationBuf
  | lost (h : task.state = .read) (hwkc : recv.wkc ≠ 1) :
      Move task recv .requestRepeat task.activationBuf
  | requested (h : task.state = .requestRepeat) : Move task recv .waitRepeatAck task.activationBuf
  | acknowledged (h : task.state = .waitRepeatAck) (hwkc : recv.wkc = 1)
      (hack : SyncManagerPdiControl.repeatAck.val recv.data ≠ 0 ↔
        SyncManagerActivation.repeatBit.val task.activationBuf ≠ 0) :
      Move task recv (.checkMailboxAlreadyExisted false true) task.activationBuf
  | unacknowledged (h : task.state = .waitRepeatAck) :
      Move task recv .waitRepeatAck task.activationBuf

lemma move_of_processState {task task' : MailboxReadTask} {recv : Pdu} {sysTime : ℕ}
    (hechoes : recv.Echoes task.command) (h : task.processState recv sysTime = .ok task') :
    Move task recv task'.state task'.activationBuf := by
  unfold processState at h
  split at h
  case h_1 hstate | h_2 hstate | h_3 hstate =>
    cases h
    exact .resting (by rw [isBusy, hstate])
  case h_4 isFirst waitFull hstate =>
    unfold processCheck at h
    dsimp only at h
    split at h
    · cases h
      exact .failed _ _
    · next hwkc =>
        obtain ⟨activation, hactivation, h⟩ := bind_eq_ok.mp h
        obtain ⟨_, -, h⟩ := bind_eq_ok.mp h
        obtain ⟨isMailboxFull, hfull, heq⟩ := bind_eq_ok.mp h
        obtain ⟨-, rfl⟩ := Field.getBool_eq_ok_iff.mp hfull
        obtain ⟨-, rfl⟩ := sliceFrom_eq_ok_iff.mp hactivation
        cases heq
        split
        · next hfull => exact .full isFirst waitFull hstate (not_not.mp hwkc) (bne_iff_ne.mp hfull)
        · split
          · next hwait =>
              rw [hwait] at hstate ⊢
              exact .empty isFirst hstate
          · exact .failed _ _
  case h_5 hstate =>
    cases h
    dsimp only
    split
    · next hwkc => exact .lost hstate hwkc
    · next hwkc => exact .taken hstate (not_not.mp hwkc) hechoes
  case h_6 hstate =>
    cases h
    exact .requested hstate
  case h_7 hstate =>
    unfold processWaitRepeatAck at h
    split at h
    · cases h
      exact .failed _ _
    · next hwkc =>
        obtain ⟨repeatAck, hack, h⟩ := bind_eq_ok.mp h
        obtain ⟨repeatBit, hbit, heq⟩ := bind_eq_ok.mp h
        obtain ⟨-, rfl⟩ := Field.getBool_eq_ok_iff.mp hack
        obtain ⟨-, rfl⟩ := Field.getBool_eq_ok_iff.mp hbit
        cases heq
        split
        · next hsame =>
            refine .acknowledged hstate (not_not.mp hwkc) ?_
            rw [← bne_iff_ne, hsame, bne_iff_ne]
        · exact .unacknowledged hstate

/-- **What a response does.** -/
lemma move_of_recieveAndProcess {task task' : MailboxReadTask} {recv : Pdu} {sysTime : ℕ}
    (h : task.recieveAndProcess recv sysTime = .ok task') :
    Move task recv task'.state task'.activationBuf := by
  obtain ⟨processed, hprocess, heq⟩ := bind_eq_ok.mp h
  cases heq
  by_cases htimed : mailboxTimedOut timeoutMs processed.timerStart sysTime
  · rw [timed, if_pos htimed]
    exact .failed _ _
  rw [timed, if_neg htimed]
  by_cases hechoes : recv.Echoes task.command
  · rw [checked, if_pos hechoes] at hprocess
    exact move_of_processState hechoes hprocess
  · rw [checked, if_neg hechoes] at hprocess
    cases hprocess
    exact .failed _ _

/-- The bytes are those of the register, with the repeat bit inverted and no other. -/
def InvertsRepeat (register bytes : List UInt8) : Prop :=
  bytes.length = register.length ∧ ∀ i, bitAt bytes i = (bitAt register i ^^ decide (i = 1))

lemma invertsRepeat_of_setBool {register bytes : List UInt8} {b : Bool}
    (hget : SyncManagerActivation.repeatBit.getBool register = .ok b)
    (hset : SyncManagerActivation.repeatBit.setBool register (!b) = .ok bytes) :
    InvertsRepeat register bytes := by
  obtain ⟨hfits, rfl⟩ := Field.getBool_eq_ok_iff.mp hget
  obtain ⟨-, rfl⟩ := Field.set_eq_ok_iff.mp hset
  refine ⟨Field.length_put _ _ _, fun i => ?_⟩
  have hval : (SyncManagerActivation.repeatBit.val register != 0) = bitAt register 1 :=
    Field.val_bit_bne_zero 1 register
  by_cases hi : i = 1
  · have hbit := Field.bitAt_put_pos hfits (!(bitAt register 1)).toNat (k := 0) (by decide)
    change bitAt _ 1 = _ at hbit
    rw [hval, hi, hbit]
    cases bitAt register 1 <;> rfl
  · rw [Field.bitAt_put_of_forall_ne hfits, decide_eq_false hi, Bool.xor_false]
    intro k hk hpos
    obtain rfl : k = 0 := Nat.lt_one_iff.mp hk
    exact hi hpos.symm

/-- **What the next PDU is.**  Either the task fails, or it keeps its state; only the PDU that asks
for a repeat changes the copy of the register, and it carries the copy. -/
lemma nextPdu_cases {task task' : MailboxReadTask} {buf buf' : List UInt8}
    {pdu : Option (Command × ℕ)} (h : task.nextPdu buf = .ok ((pdu, buf'), task')) :
    (∃ e, task'.state = .error e) ∨ task'.state = task.state ∧
      (task.state ≠ .requestRepeat → task'.activationBuf = task.activationBuf) ∧
      (task.state = .requestRepeat → InvertsRepeat task.activationBuf task'.activationBuf ∧
        ∃ command, pdu = some (command, task'.activationBuf.length) ∧
          buf'.take task'.activationBuf.length = task'.activationBuf) ∧
      (task.state = .complete → pdu = none ∧ buf' = buf) := by
  unfold nextPdu at h
  split at h
  case h_1 hstate | h_2 hstate | h_3 hstate =>
    cases h
    exact .inr ⟨rfl, fun _ => rfl, fun hrepeat => (by rw [hstate] at hrepeat; cases hrepeat),
      fun _ => ⟨rfl, rfl⟩⟩
  case h_5 hstate =>
    unfold nextRead at h
    dsimp only at h
    split at h
    · cases h
      exact .inl ⟨_, rfl⟩
    · obtain ⟨filled, -, heq⟩ := bind_eq_ok.mp h
      cases heq
      exact .inr ⟨rfl, fun _ => rfl, fun hrepeat => (by rw [hstate] at hrepeat; cases hrepeat),
        fun hdone => (by rw [hstate] at hdone; cases hdone)⟩
  case h_6 hstate =>
    obtain ⟨repeatBit, hget, h⟩ := bind_eq_ok.mp h
    obtain ⟨activationBuf, hset, h⟩ := bind_eq_ok.mp h
    obtain ⟨copied, hcopy, heq⟩ := bind_eq_ok.mp h
    obtain ⟨hroom, rfl⟩ := copyFromSlice_eq_ok_iff.mp hcopy
    cases heq
    refine .inr ⟨rfl, fun hrepeat => absurd hstate hrepeat,
      fun _ => ⟨invertsRepeat_of_setBool hget hset, _, rfl, ?_⟩,
      fun hdone => (by rw [hstate] at hdone; cases hdone)⟩
    rw [splice, List.take_zero, List.nil_append, List.take_append_of_le_length (Nat.le_refl _),
      List.take_length]
  case h_4 hstate | h_7 hstate =>
    obtain ⟨filled, -, heq⟩ := bind_eq_ok.mp h
    cases heq
    exact .inr ⟨rfl, fun _ => rfl, fun hrepeat => (by rw [hstate] at hrepeat; cases hrepeat),
      fun hdone => (by rw [hstate] at hdone; cases hdone)⟩

/-! ## What the history shows -/

/-- The status was asked for. -/
def IsStatus (e : Exchange MailboxReadTask) : Prop :=
  ∃ isFirst waitFull, e.task.state = .checkMailboxAlreadyExisted isFirst waitFull

/-- And the slave reports a full mailbox. -/
structure ShowsFull (e : Exchange MailboxReadTask) : Prop where
  isStatus : IsStatus e
  wkc_eq : e.recv.wkc = 1
  isMailboxFull : SyncManagerStatus.isMailboxFull.val e.recv.data ≠ 0

/-- The PDI control register shows the repeat bit that was written. -/
structure Acknowledges (ack request : Exchange MailboxReadTask) : Prop where
  state_eq : ack.task.state = .waitRepeatAck
  wkc_eq : ack.recv.wkc = 1
  repeatAck : SyncManagerPdiControl.repeatAck.val ack.recv.data ≠ 0 ↔
    SyncManagerActivation.repeatBit.val request.data ≠ 0

/-- What came after a request has an acknowledgement of it. -/
def IsAcknowledged (request : Exchange MailboxReadTask) (later : List (Exchange MailboxReadTask)) :
    Prop :=
  ∃ ack ∈ later, Acknowledges ack request

/-- And a full mailbox was reported behind the acknowledgement. -/
def IsRepeated (request : Exchange MailboxReadTask) (later : List (Exchange MailboxReadTask)) :
    Prop :=
  ∃ before ack behind, later = before ++ ack :: behind ∧ Acknowledges ack request ∧
    ∃ full ∈ behind, ShowsFull full

/-- The condition holds of every request for a repeat in the history and what came after it. -/
def ForRequests (P : Exchange MailboxReadTask → List (Exchange MailboxReadTask) → Prop)
    (history : List (Exchange MailboxReadTask)) : Prop :=
  ∀ earlier request later, history = earlier ++ request :: later →
    request.task.state = .requestRepeat → P request later

lemma IsRepeated.isAcknowledged {request : Exchange MailboxReadTask}
    {later : List (Exchange MailboxReadTask)} (h : IsRepeated request later) :
    IsAcknowledged request later := by
  obtain ⟨before, ack, behind, rfl, hack, -⟩ := h
  exact ⟨ack, List.mem_append_right _ (List.mem_cons_self ..), hack⟩

lemma IsRepeated.append {request : Exchange MailboxReadTask}
    {later : List (Exchange MailboxReadTask)} (h : IsRepeated request later)
    (e : Exchange MailboxReadTask) : IsRepeated request (later ++ [e]) := by
  obtain ⟨before, ack, behind, rfl, hack, full, hmem, hfull⟩ := h
  exact ⟨before, ack, behind ++ [e], by simp, hack, full, List.mem_append_left _ hmem, hfull⟩

lemma IsAcknowledged.append {request : Exchange MailboxReadTask}
    {later : List (Exchange MailboxReadTask)} (h : IsAcknowledged request later)
    (e : Exchange MailboxReadTask) : IsAcknowledged request (later ++ [e]) := by
  obtain ⟨ack, hmem, hack⟩ := h
  exact ⟨ack, List.mem_append_left _ hmem, hack⟩

/-- A full mailbox behind an acknowledgement. -/
lemma IsAcknowledged.isRepeated {request : Exchange MailboxReadTask}
    {later : List (Exchange MailboxReadTask)} (h : IsAcknowledged request later)
    {full : Exchange MailboxReadTask} (hfull : ShowsFull full) :
    IsRepeated request (later ++ [full]) := by
  obtain ⟨ack, hmem, hack⟩ := h
  obtain ⟨before, behind, rfl⟩ := List.append_of_mem hmem
  exact ⟨before, ack, behind ++ [full], by simp, hack, full, by simp, hfull⟩

/-- A history becomes longer at its end. -/
lemma ForRequests.snoc {P Q : Exchange MailboxReadTask → List (Exchange MailboxReadTask) → Prop}
    {history : List (Exchange MailboxReadTask)} {e : Exchange MailboxReadTask}
    (h : ForRequests P history)
    (hkeep : ∀ request later, P request later → Q request (later ++ [e]))
    (hnew : e.task.state = .requestRepeat → Q e []) : ForRequests Q (history ++ [e]) := by
  intro earlier request later heq hrequest
  rcases List.eq_nil_or_concat later with rfl | ⟨later, last, rfl⟩
  · obtain ⟨-, hlast⟩ := List.append_inj' heq rfl
    obtain rfl := List.singleton_inj.mp hlast
    exact hnew hrequest
  · rw [List.concat_eq_append, ← List.cons_append, ← List.append_assoc] at heq
    obtain ⟨hhistory, hlast⟩ := List.append_inj' heq rfl
    obtain rfl := List.singleton_inj.mp hlast
    rw [List.concat_eq_append]
    exact hkeep request later (h earlier request later hhistory hrequest)

/-! ## The invariant -/

/-- What the history shows when a response has led to this state. -/
def Decided (state : State) (activationBuf dataBuf : List UInt8)
    (history : List (Exchange MailboxReadTask)) : Prop :=
  match state with
  | .idle => False
  | .error _ => True
  | .checkMailboxAlreadyExisted _ _ => ForRequests IsAcknowledged history
  | .read =>
    (∃ earlier full, history = earlier ++ [full] ∧ ShowsFull full ∧
      full.recv.data.drop SyncManagerStatus.size = activationBuf) ∧
    ForRequests IsRepeated history
  | .requestRepeat =>
    (∃ earlier full read, history = earlier ++ [full, read] ∧ ShowsFull full ∧
      read.task.state = .read ∧ full.recv.data.drop SyncManagerStatus.size = activationBuf) ∧
    ForRequests IsRepeated history
  | .waitRepeatAck =>
    -- all requests but the last one are dealt with, and the copy is what the last one has written
    ForRequests (fun request later => IsRepeated request later ∨
      (SyncManagerActivation.repeatBit.val activationBuf ≠ 0 ↔
        SyncManagerActivation.repeatBit.val request.data ≠ 0)) history
  | .complete =>
    ∃ earlier read, history = earlier ++ [read] ∧ read.task.state = .read ∧
      read.recv.Echoes read.task.command ∧ read.recv.wkc = 1 ∧
      dataBuf.take read.recv.data.length = read.recv.data

/-- And when the next PDU is out. -/
def Sent (task : MailboxReadTask) (pdu : Option (Command × ℕ)) (dataBuf : List UInt8)
    (history : List (Exchange MailboxReadTask)) : Prop :=
  match task.state with
  | .requestRepeat => ∃ register, Decided .requestRepeat register dataBuf history ∧
      InvertsRepeat register task.activationBuf ∧
      ∃ command, pdu = some (command, task.activationBuf.length) ∧
        dataBuf.take task.activationBuf.length = task.activationBuf
  | .complete => pdu = none ∧ Decided .complete task.activationBuf dataBuf history
  | state => Decided state task.activationBuf dataBuf history

lemma sent_of_decided {task task' : MailboxReadTask} {buf buf' : List UInt8}
    {pdu : Option (Command × ℕ)} {history : List (Exchange MailboxReadTask)}
    (h : Decided task.state task.activationBuf buf history)
    (hnext : task.nextPdu buf = .ok ((pdu, buf'), task')) : Sent task' pdu buf' history := by
  rcases nextPdu_cases hnext with ⟨e, herror⟩ | ⟨hstate, hkept, hrepeat, hdone⟩
  · simp only [Sent, herror, Decided]
  · rcases hbefore : task.state with e | _ | _ | ⟨isFirst, waitFull⟩ | _ | _ | _ <;>
      rw [hbefore] at h hstate hkept hrepeat hdone <;> simp only [Sent, hstate]
    case requestRepeat =>
      obtain ⟨hinverts, command, rfl, hdata⟩ := hrepeat rfl
      exact ⟨task.activationBuf, h, hinverts, command, rfl, hdata⟩
    case complete =>
      obtain ⟨rfl, rfl⟩ := hdone rfl
      exact ⟨rfl, h⟩
    all_goals
      rw [hkept (by simp)]
      exact h

/-- A task without a PDU has not come to a request for a repeat. -/
lemma decided_of_sent_none {task : MailboxReadTask} {buf : List UInt8}
    {history : List (Exchange MailboxReadTask)} (h : Sent task none buf history) :
    Decided task.state task.activationBuf buf history := by
  unfold Sent at h
  split at h
  · obtain ⟨register, -, -, command, hpdu, -⟩ := h
    cases hpdu
  · next hstate =>
      rw [hstate]
      exact h.2
  · exact h

/-- One response. -/
lemma decided_of_move {task : MailboxReadTask} {command : Command} {size : ℕ}
    {buf buf' : List UInt8} {recv : Pdu} {state : State} {activationBuf : List UInt8}
    {history : List (Exchange MailboxReadTask)}
    (h : Sent task (some (command, size)) buf history)
    (hrecv : buf'.take recv.data.length = recv.data) (hmove : Move task recv state activationBuf) :
    Decided state activationBuf buf' (history ++ [⟨task, buf.take size, recv⟩]) := by
  cases hmove with
  | failed e => trivial
  | resting hbusy =>
    rcases hstate : task.state with e | _ | _ | ⟨isFirst, waitFull⟩ | _ | _ | _ <;>
      simp only [isBusy, hstate, Bool.true_eq_false] at hbusy
    case error => trivial
    case idle =>
      simp only [Sent, hstate, Decided] at h
    case complete =>
      simp only [Sent, hstate] at h
      cases h.1
  | full isFirst waitFull hstate hwkc hfull =>
    simp only [Sent, hstate, Decided] at h
    have hshows : ShowsFull ⟨task, buf.take size, recv⟩ := ⟨⟨_, _, hstate⟩, hwkc, hfull⟩
    refine ⟨⟨history, _, rfl, hshows, rfl⟩, h.snoc (fun _ _ hack => hack.isRepeated hshows) ?_⟩
    intro hrequest
    rw [hstate] at hrequest
    cases hrequest
  | empty isFirst hstate =>
    simp only [Sent, hstate, Decided] at h
    refine h.snoc (fun _ _ hack => hack.append _) fun hrequest => ?_
    rw [hstate] at hrequest
    cases hrequest
  | taken hstate hwkc hechoes => exact ⟨history, _, rfl, hstate, hechoes, hwkc, hrecv⟩
  | lost hstate hwkc =>
    simp only [Sent, hstate, Decided] at h
    obtain ⟨⟨earlier, full, rfl, hfull, hregister⟩, hrepeated⟩ := h
    refine ⟨⟨earlier, full, ⟨task, buf.take size, recv⟩, by simp, hfull, hstate, hregister⟩,
      hrepeated.snoc (fun _ _ hrepeated => hrepeated.append _) fun hrequest => ?_⟩
    rw [hstate] at hrequest
    cases hrequest
  | requested hstate =>
    simp only [Sent, hstate, Decided] at h
    obtain ⟨register, ⟨-, hrepeated⟩, -, command', hpdu, hdata⟩ := h
    cases hpdu
    refine hrepeated.snoc (fun _ _ hrepeated => .inl (hrepeated.append _)) fun _ => .inr ?_
    rw [hdata]
  | acknowledged hstate hwkc hack =>
    simp only [Sent, hstate, Decided] at h
    refine h.snoc (fun request later hopen => ?_) fun hrequest => ?_
    · rcases hopen with hrepeated | hawaited
      · exact hrepeated.isAcknowledged.append _
      · exact ⟨_, List.mem_append_right _ (List.mem_singleton_self _), hstate, hwkc,
          hack.trans hawaited⟩
    · rw [hstate] at hrequest
      cases hrequest
  | unacknowledged hstate =>
    simp only [Sent, hstate, Decided] at h
    refine h.snoc (fun _ _ hopen => hopen.imp_left fun hrepeated => hrepeated.append _)
      fun hrequest => ?_
    rw [hstate] at hrequest
    cases hrequest

/-! ## The PDUs of a read -/

/-- The PDU that the read of this mailbox sends in a state, and its size. -/
def pduOf (slaveAddress : SlaveAddress) (txSm : SyncManager) : State → Option (Command × ℕ)
  | .error _ | .idle | .complete => none
  | .checkMailboxAlreadyExisted _ _ => some
    (.newRead (.single slaveAddress) (SyncManagerStatus.address + txSm.number.toUInt16 * 0x08),
      SyncManagerStatus.size + SyncManagerActivation.size)
  | .read => some (.newRead (.single slaveAddress) txSm.startAddress, txSm.size.toNat)
  | .requestRepeat => some
    (.newWrite (.single slaveAddress) (SyncManagerActivation.address + txSm.number.toUInt16 * 0x08),
      SyncManagerActivation.size)
  | .waitRepeatAck => some
    (.newRead (.single slaveAddress) (SyncManagerPdiControl.address + txSm.number.toUInt16 * 0x08),
      SyncManagerPdiControl.size)

/-- The task reads this mailbox, and the PDUs that were answered are the ones of their states. -/
structure Traced (slaveAddress : SlaveAddress) (txSm : SyncManager) (task : MailboxReadTask)
    (history : List (Exchange MailboxReadTask)) : Prop where
  target : SameTarget (new.start slaveAddress txSm true) task
  exchanges : ∀ e ∈ history,
    pduOf slaveAddress txSm e.task.state = some (e.task.command, e.data.length) ∧
      e.recv.data.length = e.data.length

/-- And so is the PDU that is out. -/
structure Asking (slaveAddress : SlaveAddress) (txSm : SyncManager) (task : MailboxReadTask)
    (pdu : Option (Command × ℕ)) (history : List (Exchange MailboxReadTask)) : Prop
    extends Traced slaveAddress txSm task history where
  out : ∀ command size, pdu = some (command, size) →
    task.command = command ∧ pduOf slaveAddress txSm task.state = some (command, size)
  busy : history ≠ [] → task.isBusy = true → pdu.isSome = true

/-- The register that a request for a repeat writes has the size of the register. -/
lemma Traced.length_activationBuf {slaveAddress : SlaveAddress} {txSm : SyncManager}
    {task task' : MailboxReadTask} {pdu : Option (Command × ℕ)} {dataBuf : List UInt8}
    {history : List (Exchange MailboxReadTask)} (h : Traced slaveAddress txSm task history)
    (hsent : Sent task' pdu dataBuf history) (hstate : task'.state = .requestRepeat) :
    task'.activationBuf.length = SyncManagerActivation.size := by
  simp only [Sent, hstate, Decided] at hsent
  obtain ⟨register, ⟨⟨earlier, full, read, rfl, hfull, -, rfl⟩, -⟩, hinverts, -⟩ := hsent
  obtain ⟨hpdu, hlength⟩ := h.exchanges full (by simp)
  obtain ⟨isFirst, waitFull, hstatus⟩ := hfull.isStatus
  rw [hstatus] at hpdu
  rw [hinverts.1, List.length_drop, hlength, ← (Prod.mk.inj (Option.some.inj hpdu)).2,
    Nat.add_sub_cancel_left]

/-- The next PDU is the one of the state. -/
lemma Traced.nextPdu {slaveAddress : SlaveAddress} {txSm : SyncManager}
    {task task' : MailboxReadTask} {pdu : Option (Command × ℕ)} {buf buf' : List UInt8}
    {history : List (Exchange MailboxReadTask)} (h : Traced slaveAddress txSm task history)
    (hsent : Sent task' pdu buf' history)
    (hnext : task.nextPdu buf = .ok ((pdu, buf'), task')) :
    Asking slaveAddress txSm task' pdu history := by
  obtain ⟨hsame, -, -⟩ := nextPdu_spec hnext
  have hregister := h.length_activationBuf hsent
  obtain ⟨haddress, hoffset, hstart, hsize⟩ := h.target
  suffices hpdu : (∀ command size, pdu = some (command, size) →
      task'.command = command ∧ pduOf slaveAddress txSm task'.state = some (command, size)) ∧
      (task'.isBusy = true → pdu.isSome = true) from
    ⟨⟨h.target.trans hsame, h.exchanges⟩, hpdu.1, fun _ => hpdu.2⟩
  unfold MailboxReadTask.nextPdu at hnext
  split at hnext
  case h_1 hstate | h_2 hstate | h_3 hstate =>
    cases hnext
    refine ⟨fun _ _ hpdu => (by cases hpdu), fun hbusy => ?_⟩
    simp [isBusy, hstate] at hbusy
  case h_4 hstate =>
    obtain ⟨filled, -, heq⟩ := bind_eq_ok.mp hnext
    cases heq
    refine ⟨?_, fun _ => rfl⟩
    rintro _ _ ⟨⟩
    refine ⟨rfl, ?_⟩
    simp only [hstate, pduOf, haddress, hoffset]
    rfl
  case h_5 hstate =>
    unfold nextRead at hnext
    dsimp only at hnext
    split at hnext
    · cases hnext
      exact ⟨fun _ _ hpdu => (by cases hpdu), fun hbusy => by cases hbusy⟩
    · obtain ⟨filled, -, heq⟩ := bind_eq_ok.mp hnext
      cases heq
      refine ⟨?_, fun _ => rfl⟩
      rintro _ _ ⟨⟩
      refine ⟨rfl, ?_⟩
      simp only [hstate, pduOf, haddress, hstart, hsize]
      rfl
  case h_6 hstate =>
    obtain ⟨repeatBit, -, hnext⟩ := bind_eq_ok.mp hnext
    obtain ⟨activationBuf, -, hnext⟩ := bind_eq_ok.mp hnext
    obtain ⟨copied, -, heq⟩ := bind_eq_ok.mp hnext
    cases heq
    refine ⟨?_, fun _ => rfl⟩
    rintro _ _ ⟨⟩
    refine ⟨rfl, ?_⟩
    dsimp only at hregister
    simp only [hstate, pduOf, haddress, hoffset, hregister hstate]
    rfl
  case h_7 hstate =>
    obtain ⟨filled, -, heq⟩ := bind_eq_ok.mp hnext
    cases heq
    refine ⟨?_, fun _ => rfl⟩
    rintro _ _ ⟨⟩
    refine ⟨rfl, ?_⟩
    simp only [hstate, pduOf, haddress, hoffset]
    rfl

/-- A response belongs to the PDU that was out. -/
lemma Asking.answer {slaveAddress : SlaveAddress} {txSm : SyncManager}
    {task task' : MailboxReadTask} {command : Command} {size : ℕ} {buf : List UInt8} {recv : Pdu}
    {sysTime : ℕ} {history : List (Exchange MailboxReadTask)}
    (h : Asking slaveAddress txSm task (some (command, size)) history) (hsize : size ≤ buf.length)
    (hrecv : recv.data.length = size)
    (hrecieve : task.recieveAndProcess recv sysTime = .ok task') :
    Traced slaveAddress txSm task' (history ++ [⟨task, buf.take size, recv⟩]) := by
  obtain ⟨hcommand, hpdu⟩ := h.out command size rfl
  have hdata : (buf.take size).length = size := List.length_take_of_le hsize
  refine ⟨h.target.trans (recieveAndProcess_spec hrecieve).1, fun e he => ?_⟩
  rcases List.mem_append.mp he with he | he
  · exact h.exchanges e he
  · obtain rfl := List.mem_singleton.mp he
    exact ⟨by rw [hpdu, hcommand, hdata], by rw [hrecv, hdata]⟩

/-! ## Runs -/

/-- **What is promised of the handshake**, of a task, the PDU that is out and the history.  Every
PDU has the command, the register and the size of its state (`pduOf`).  A request for a repeat
writes the activation register of the latest status with the repeat bit inverted; a read of the
mailbox is sent right after a status that reports it full, and after every request there was an
acknowledgement of its repeat bit and behind it such a status; the task is complete only right after
a read that the slave has reacted to, and its data are in the buffer. -/
structure Handshake (slaveAddress : SlaveAddress) (txSm : SyncManager) (d : Driven MailboxReadTask)
    (history : List (Exchange MailboxReadTask)) : Prop where
  out : ∀ command, d.socket.command = some command →
    pduOf slaveAddress txSm d.task.state = some (command, d.socket.dataLength)
  busy : history ≠ [] → d.task.isBusy = true → d.socket.command.isSome = true
  exchanges : ∀ e ∈ history,
    pduOf slaveAddress txSm e.task.state = some (e.task.command, e.data.length)
  requests : d.task.state = .requestRepeat → ∃ earlier status later,
    history = earlier ++ status :: later ∧ IsStatus status ∧ (∀ e ∈ later, ¬ IsStatus e) ∧
      InvertsRepeat (status.recv.data.drop SyncManagerStatus.size)
        (d.socket.dataBuf.take d.socket.dataLength)
  reads : d.task.state = .read →
    (∃ full, history.getLast? = some full ∧ ShowsFull full) ∧ ForRequests IsRepeated history
  completes : d.task.state = .complete → ∃ read, history.getLast? = some read ∧
    read.task.state = .read ∧ read.recv.Echoes read.task.command ∧ read.recv.wkc = 1 ∧
      d.socket.dataBuf.take read.recv.data.length = read.recv.data

lemma handshake_of_sent {slaveAddress : SlaveAddress} {txSm : SyncManager}
    {d : Driven MailboxReadTask} {pdu : Option (Command × ℕ)} {dataBuf : List UInt8}
    {history : List (Exchange MailboxReadTask)} (hsocket : d.socket = .store pdu dataBuf)
    (h : Sent d.task pdu dataBuf history)
    (hasking : Asking slaveAddress txSm d.task pdu history) :
    Handshake slaveAddress txSm d history := by
  have hout : ∀ command, d.socket.command = some command →
      pduOf slaveAddress txSm d.task.state = some (command, d.socket.dataLength) := by
    rw [hsocket]
    rcases pdu with _ | ⟨command, size⟩ <;> rintro _ ⟨⟩
    exact (hasking.out command size rfl).2
  have hbusy : history ≠ [] → d.task.isBusy = true → d.socket.command.isSome = true := by
    intro hne hbusy
    rw [hsocket, PduSocket.store, Option.isSome_map]
    exact hasking.busy hne hbusy
  refine ⟨hout, hbusy, fun e he => (hasking.exchanges e he).1, fun hstate => ?_, fun hstate => ?_,
    fun hstate => ?_⟩ <;> simp only [Sent, hstate, Decided] at h
  · obtain ⟨register, ⟨⟨earlier, full, read, rfl, hfull, hread, rfl⟩, -⟩, hinverts, command, rfl,
      hdata⟩ := h
    refine ⟨earlier, full, [read], rfl, hfull.isStatus, ?_, ?_⟩
    · rintro e he ⟨isFirst, waitFull, hstatus⟩
      rw [List.mem_singleton.mp he, hread] at hstatus
      cases hstatus
    · rw [hsocket]
      change InvertsRepeat _ (dataBuf.take d.task.activationBuf.length)
      rwa [hdata]
  · obtain ⟨⟨earlier, full, rfl, hfull, -⟩, hrepeated⟩ := h
    exact ⟨⟨full, List.getLast?_concat, hfull⟩, hrepeated⟩
  · obtain ⟨-, earlier, read, rfl, hread, hechoes, hwkc, hdata⟩ := h
    rw [hsocket]
    exact ⟨read, List.getLast?_concat, hread, hechoes, hwkc, hdata⟩

/-- **The repeat handshake.**  In every run from a start, with one response to each PDU, whatever
the responses and their times are. -/
theorem handshake_of_run (task : MailboxReadTask) (slaveAddress : SlaveAddress) (txSm : SyncManager)
    (waitFull : Bool) (dataBuf : List UInt8) (replies : List Reply) (d : Driven MailboxReadTask)
    (hrun : Transition.run Driven.step ⟨task.start slaveAddress txSm waitFull, .new dataBuf⟩
      replies = .ok d) :
    Handshake slaveAddress txSm d
      (Driven.history ⟨task.start slaveAddress txSm waitFull, .new dataBuf⟩ replies) := by
  have hstart : Sent (task.start slaveAddress txSm waitFull) none dataBuf [] ∧
      Asking slaveAddress txSm (task.start slaveAddress txSm waitFull) none [] := by
    refine ⟨fun earlier request later heq => ?_, ⟨⟨rfl, rfl, rfl, rfl⟩, ?_⟩, ?_, ?_⟩
    · cases earlier <;> cases heq
    · exact fun e he => absurd he List.not_mem_nil
    · exact fun _ _ hpdu => by cases hpdu
    · exact fun hne => absurd rfl hne
  have hsilent {task task' : MailboxReadTask} {pdu : Option (Command × ℕ)}
      {buf buf' : List UInt8} {history : List (Exchange MailboxReadTask)}
      (h : Sent task none buf history ∧ Asking slaveAddress txSm task none history)
      (hnext : task.nextPdu buf = .ok ((pdu, buf'), task')) :
      Sent task' pdu buf' history ∧ Asking slaveAddress txSm task' pdu history := by
    have hsent := sent_of_decided (decided_of_sent_none h.1) hnext
    exact ⟨hsent, h.2.toTraced.nextPdu hsent hnext⟩
  have hanswered {task task' task'' : MailboxReadTask} {command : Command} {size : ℕ}
      {pdu : Option (Command × ℕ)} {buf buf' : List UInt8}
      {history : List (Exchange MailboxReadTask)} {reply : Reply} (_ : True)
      (h : Sent task (some (command, size)) buf history ∧
        Asking slaveAddress txSm task (some (command, size)) history) (hsize : size ≤ buf.length)
      (hrecieve : task.recieveAndProcess (Driven.shown command size buf reply) reply.time =
        .ok task')
      (hnext : task'.nextPdu (Driven.answered command size buf reply) =
        .ok ((pdu, buf'), task'')) :
      Sent task'' pdu buf'
          (history ++ [⟨task, buf.take size, Driven.shown command size buf reply⟩]) ∧
        Asking slaveAddress txSm task'' pdu
          (history ++ [⟨task, buf.take size, Driven.shown command size buf reply⟩]) := by
    have hshown : (Driven.shown command size buf reply).data.length = size :=
      Driven.length_shown hsize reply
    have hsent := sent_of_decided (decided_of_move h.1 (by rw [hshown]; rfl)
      (move_of_recieveAndProcess hrecieve)) hnext
    exact ⟨hsent, (h.2.answer hsize hshown hrecieve).nextPdu hsent hnext⟩
  obtain ⟨pdu, dataBuf', hsocket, hsent, hasking⟩ := Driven.history_invariant
    (fun task pdu buf history => Sent task pdu buf history ∧
      Asking slaveAddress txSm task pdu history)
    hsilent hanswered hstart (fun _ _ => trivial) hrun
  exact handshake_of_sent hsocket hsent hasking

/-- A slave that loses the first read of its mailbox. -/
def losesFirstRead : List Reply :=
  [([], 0), ([0x08, 0x01], 1), ([0, 0], 0), ([0x03], 1), ([0x02], 1), ([0x08, 0x03], 1),
    ([0xAA, 0xBB], 1)].map fun (data, wkc) => ⟨fun pdu => { pdu with data := data, wkc := wkc }, 1⟩

theorem handshake_of_losesFirstRead :
    ∃ d, Transition.run Driven.step
        ⟨new.start (.slavePosition 0) ⟨1, 2, 0x1000⟩ true, .new [0, 0, 0, 0]⟩ losesFirstRead =
          .ok d ∧
      d.task.state = .complete ∧ Handshake (.slavePosition 0) ⟨1, 2, 0x1000⟩ d (Driven.history
        ⟨new.start (.slavePosition 0) ⟨1, 2, 0x1000⟩ true, .new [0, 0, 0, 0]⟩ losesFirstRead) := by
  have hstate : (Transition.run Driven.step
      ⟨new.start (.slavePosition 0) ⟨1, 2, 0x1000⟩ true, .new [0, 0, 0, 0]⟩
      losesFirstRead).toOption.map (fun d => d.task.state) = some .complete := by
    decide +kernel
  rcases hrun : Transition.run Driven.step
    ⟨new.start (.slavePosition 0) ⟨1, 2, 0x1000⟩ true, .new [0, 0, 0, 0]⟩ losesFirstRead with e | d
  · rw [hrun] at hstate
    cases hstate
  · rw [hrun] at hstate
    exact ⟨d, rfl, Option.some.inj hstate, handshake_of_run new _ _ _ _ _ d hrun⟩

end MailboxReadTask

end EtherCat
