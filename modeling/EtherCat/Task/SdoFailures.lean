import EtherCat.Frame.MailboxReturns
import EtherCat.Task.MailboxCall
import EtherCat.Task.SdoTransfer

/-!
# Failures of SDO transfers

Each transfer unwraps the results of its two mailbox calls, so that every failure of one of them
makes the transfer panic (`sdo_returns_iff`): an error of the interface, an answer that ends the
mailbox task with an error, or too many polls.
-/

namespace EtherCat

open Rust Rust.Exec BitField CyclicTask

namespace SocketInterface

variable {α : Type}

/-! ## The answer -/

lemma length_of_decodeCoE {usizeBits : ℕ} {serviceType : CoeServiceType}
    {sdoFrame sdoPayload emmF : List UInt8}
    (h : MailboxFrame.decodeCoE usizeBits serviceType sdoFrame sdoPayload =
      .ok (.ok (.emmergency emmF))) : EmmergencyFrame.size ≤ emmF.length := by
  unfold MailboxFrame.decodeCoE at h
  split at h
  · split at h
    · cases h
    · next hlong =>
        cases h
        rw [EmmergencyFrame.size] at hlong ⊢
        omega
  · obtain ⟨req, -, heq⟩ := bind_eq_ok.mp h
    cases req <;> cases heq
  · obtain ⟨res, -, heq⟩ := bind_eq_ok.mp h
    cases res <;> cases heq
  · cases h

/-- The bytes of an emergency are all there. -/
lemma length_of_emmergency {usizeBits : ℕ} {mbData emmF : List UInt8} {coeIndex : CoeIndex}
    (h : MailboxFrame.mailbox usizeBits mbData = .ok (.ok (.coE coeIndex (.emmergency emmF)))) :
    EmmergencyFrame.size ≤ emmF.length := by
  unfold MailboxFrame.mailbox at h
  split at h
  · cases h
  obtain ⟨coeFrame, -, h⟩ := bind_eq_ok.mp h
  obtain ⟨mbType, -, h⟩ := bind_eq_ok.mp h
  split at h
  · split at h
    · cases h
    · obtain ⟨detail, -, heq⟩ := bind_eq_ok.mp h
      cases heq
  · unfold MailboxFrame.decodeCoEMailbox at h
    split at h
    · cases h
    obtain ⟨sdoFrame, -, h⟩ := bind_eq_ok.mp h
    obtain ⟨sdoPayload, -, h⟩ := bind_eq_ok.mp h
    obtain ⟨index, -, h⟩ := bind_eq_ok.mp h
    obtain ⟨subIndex, -, h⟩ := bind_eq_ok.mp h
    obtain ⟨serviceType, -, h⟩ := bind_eq_ok.mp h
    obtain ⟨coe, hcoe, heq⟩ := bind_eq_ok.mp h
    rcases coe with e | coe
    · cases heq
    · cases heq
      exact length_of_decodeCoE hcoe
  · cases h

lemma checkCount_returns {mbData : List UInt8} (hlength : 6 ≤ mbData.length) (count : UInt8)
    (a : α) : ∃ result, checkCount count mbData a = .ok result := by
  rw [checkCount, Field.get_of_fits (Field.fits_of_le (n := 6) (by decide) hlength), ok_bind]
  split <;> exact ⟨_, rfl⟩

/-- **When the answer is decoded.** -/
lemma decodeAnswer_returns_iff {usizeBits : ℕ} {onSdoRes : SdoRes → Exec (Except SdoErrorKind α)}
    {mbData : List UInt8} (hres : ∀ sdoRes, ∃ result, onSdoRes sdoRes = .ok result) :
    (∃ result, decodeAnswer usizeBits onSdoRes mbData = .ok result) ↔
      ¬ MailboxFrame.SizeOverflows usizeBits mbData := by
  rw [← MailboxFrame.mailbox_returns_iff]
  constructor
  · rintro ⟨result, h⟩
    obtain ⟨decoded, hdecoded, -⟩ := bind_eq_ok.mp h
    exact ⟨decoded, hdecoded⟩
  · rintro ⟨decoded, hdecoded⟩
    rw [decodeAnswer, hdecoded, ok_bind]
    rcases decoded with e | mb
    · exact ⟨_, rfl⟩
    · have hanswer : ∃ result, sdoAnswer onSdoRes mb = .ok result := by
        unfold sdoAnswer
        split
        case h_3 emmF =>
          have hfits : EmmergencyFrame.errorCode.Fits emmF :=
            Field.fits_of_le (by decide) (length_of_emmergency hdecoded)
          exact ⟨_, bind_eq_ok.mpr ⟨_, bind_eq_ok.mpr ⟨_, Field.get_of_fits hfits, rfl⟩, rfl⟩⟩
        case h_6 sdoRes => exact hres sdoRes
        all_goals exact ⟨_, rfl⟩
      obtain ⟨result, hresult⟩ := hanswer
      exact ⟨_, bind_eq_ok.mpr ⟨result, hresult, rfl⟩⟩

/-! ## The request -/

/-- What the encoder needs of a buffer of `n` bytes. -/
def RequestEncodes (n : ℕ) : Option (List UInt8) → Prop
  | some data => 16 ≤ n ∧ MailboxFrame.downLoadLength data ≤ 2 ^ 16 - 1
  | none => 12 ≤ n

lemma twelve_le_of_requestEncodes {n : ℕ} {data : Option (List UInt8)}
    (h : RequestEncodes n data) : 12 ≤ n := by
  cases data with
  | none => exact h
  | some data => exact Nat.le_trans (by decide) h.1

/-- **When the request is encoded.** -/
lemma sdoWriter_returns_iff (count : UInt8) (coeIndex : CoeIndex) (data : Option (List UInt8))
    (buf : List UInt8) :
    (∃ written,
        (sdoWriter count (MailboxFrame.requestMessage coeIndex data)).run buf = .ok written) ↔
      RequestEncodes buf.length data := by
  constructor
  · rintro ⟨⟨result, buf'⟩, h⟩
    obtain ⟨mbFrame, hcount, h⟩ := bind_eq_ok.mp h
    obtain ⟨-, rfl⟩ := Field.set_eq_ok_iff.mp hcount
    cases data with
    | none =>
        obtain ⟨-, s', hs'⟩ := MailboxFrame.of_setMailbox h
        obtain ⟨hfour, -⟩ := MailboxFrame.four_le_of_setSdoHeader hs'
        rw [List.length_drop, Field.length_put] at hfour
        rw [RequestEncodes]
        omega
    | some data =>
        obtain ⟨-, s', hs'⟩ := MailboxFrame.of_setMailbox h
        obtain ⟨height, hdata⟩ := MailboxFrame.of_setSdoReq_downLoad hs'
        rw [List.length_drop, Field.length_put] at height
        exact ⟨by omega, hdata⟩
  · intro h
    have hfits : MailboxFrame.count.Fits buf :=
      Field.fits_of_le (n := 12) (by decide) (twelve_le_of_requestEncodes h)
    cases data with
    | none =>
        exact ⟨_, bind_eq_ok.mpr ⟨_, Field.set_of_fits hfits _,
          MailboxFrame.setMailbox_upload (by rwa [Field.length_put])⟩⟩
    | some data =>
        exact ⟨_, bind_eq_ok.mpr ⟨_, Field.set_of_fits hfits _,
          MailboxFrame.setMailbox_downLoad (by rw [Field.length_put]; exact h.1) h.2⟩⟩

/-- The encoder reports no error. -/
lemma written_eq_ok {count : UInt8} {coeIndex : CoeIndex} {data : Option (List UInt8)}
    {buf buf' : List UInt8} {result : Except LengthError Unit}
    (h : (sdoWriter count (MailboxFrame.requestMessage coeIndex data)).run buf =
      .ok (result, buf')) : result = .ok () := by
  have hencodes := (sdoWriter_returns_iff count coeIndex data buf).mp ⟨_, h⟩
  obtain ⟨mbFrame, hcount, h⟩ := bind_eq_ok.mp h
  obtain ⟨-, rfl⟩ := Field.set_eq_ok_iff.mp hcount
  cases data with
  | none =>
      cases h.symm.trans (MailboxFrame.setMailbox_upload (by rwa [Field.length_put]))
      rfl
  | some data =>
      cases h.symm.trans
        (MailboxFrame.setMailbox_downLoad (by rw [Field.length_put]; exact hencodes.1) hencodes.2)
      rfl

/-! ## The run -/

/-- The poll makes the mailbox call fail.  On a target with a short `usize` it can also complete the
read of a message whose announced size overflows. -/
def Fails (usizeBits : ℕ) : SocketProgram α → Polled → Prop
  | .calling (.writeMailbox ..) _ (block : Blocked MailboxTask), polled =>
    ∃ e, block.ends polled = some (.error e)
  | .calling (.readMailbox ..) _ (block : Blocked MailboxTask), polled =>
    (∃ e, block.ends polled = some (.error e)) ∨ block.ends polled = some (.ok ()) ∧
      MailboxFrame.SizeOverflows usizeBits (block.dataAfter polled)
  | _, _ => False

/-- The invariant of a transfer on a buffer of `n` bytes. -/
def InTransfer (n : ℕ) (slave : Slave) (message : Mailbox)
    (decode : UInt8 → List UInt8 → Exec (Except (TaskError SdoErrorKind) α))
    (s : SocketProgram (Except (TaskError SdoErrorKind) α × Slave)) : Prop :=
  let counted := slave.incrementMbCount
  (∃ block : Blocked MailboxTask, s = .calling (.writeMailbox counted.2.info
      (sdoWriter counted.1 message) false) (readAnswer counted.2 (decode counted.1)) block ∧
      block.InCall n) ∨
    (∃ block : Blocked MailboxTask, s = .calling (.readMailbox counted.2.info true)
      (finishTransfer counted.2 (decode counted.1)) block ∧ block.InCall n) ∨
    ∃ result socket, s = .returned result socket

/-- A call that begins. -/
lemma resume_of_started (call : BlockingCall) {k : call.Answer → CallProgram α} {socket : PduSocket}
    {unit : call.Task} {dataBuf : List UInt8}
    (h : call.start socket.dataBuf = .ok (.ok unit, dataBuf)) :
    SocketProgram.resume (.ask call k) socket =
      .ok (.calling call k ⟨⟨unit, { socket with dataBuf := dataBuf }⟩, 0⟩) := by
  rw [SocketProgram.resume, h]
  rfl

section
variable (call : BlockingCall) {k : call.Answer → CallProgram α} {block block' : Blocked call.Task}
  {polled : Polled}

lemma step_of_goesOn (h : block.turn call.Error polled = .ok (none, block')) :
    (SocketProgram.calling call k block).step polled = .ok (.calling call k block') := by
  rw [SocketProgram.step, h, ok_bind]

lemma step_of_aborted {e : TaskError call.Error}
    (h : block.turn call.Error polled = .ok (some (.error e), block')) :
    (SocketProgram.calling call k block).step polled =
      SocketProgram.resume (k (.error e)) block'.driven.socket := by
  rw [SocketProgram.step, h, ok_bind]

lemma step_of_finished (h : block.turn call.Error polled = .ok (some (.ok ()), block'))
    {answer : call.Answer}
    (hfinish : call.finish block'.driven.task block'.driven.socket.dataBuf = .ok answer) :
    (SocketProgram.calling call k block).step polled =
      SocketProgram.resume (k answer) block'.driven.socket := by
  rw [SocketProgram.step, h, ok_bind]
  change call.finish _ _ >>= _ = _
  rw [hfinish, ok_bind]

end

section
variable {usizeBits n : ℕ} {slave : Slave} {message : Mailbox}
  {decode : UInt8 → List UInt8 → Exec (Except (TaskError SdoErrorKind) α)}
  {s : SocketProgram (Except (TaskError SdoErrorKind) α × Slave)}

/-- A step that panics exactly if the poll makes it fail. -/
def StepsAs (n usizeBits : ℕ) (slave : Slave) (message : Mailbox)
    (decode : UInt8 → List UInt8 → Exec (Except (TaskError SdoErrorKind) α))
    (s : SocketProgram (Except (TaskError SdoErrorKind) α × Slave)) (polled : Polled) : Prop :=
  (Fails usizeBits s polled ∧ ∃ e, s.step polled = .error e) ∨
    ¬ Fails usizeBits s polled ∧ ∃ s', s.step polled = .ok s' ∧ InTransfer n slave message decode s'

/-- The read begins. -/
lemma resume_readAnswer {slave : Slave} {decode : List UInt8 →
      Exec (Except (TaskError SdoErrorKind) α)} {dataBuf : List UInt8}
    (htx : (txSm slave.info).size.toNat ≤ dataBuf.length) :
    SocketProgram.resume (readAnswer slave decode (.ok ())) (.store none dataBuf) =
      .ok (.calling (.readMailbox slave.info true) (finishTransfer slave decode)
        ⟨⟨MailboxTask.new.startToRead slave.info.slaveAddress (txSm slave.info) true,
          .store none dataBuf⟩, 0⟩) := by
  have hstart : (BlockingCall.readMailbox slave.info true).start dataBuf =
      .ok (.ok (MailboxTask.new.startToRead slave.info.slaveAddress (txSm slave.info) true),
        dataBuf) := bind_eq_ok.mpr ⟨(), assert_eq_ok_iff.mpr htx, rfl⟩
  exact resume_of_started _ hstart

lemma inCall_reading {slaveInfo : SlaveInfo} {dataBuf : List UInt8}
    (hroom : mailboxCheckSize ≤ dataBuf.length)
    (htx : (txSm slaveInfo).size.toNat ≤ dataBuf.length) :
    Blocked.InCall dataBuf.length ⟨⟨MailboxTask.new.startToRead slaveInfo.slaveAddress
      (txSm slaveInfo) true, .store none dataBuf⟩, 0⟩ where
  task := ⟨rfl, rfl, rfl, hroom, htx⟩
  count_le := Nat.zero_le _
  socket := ⟨none, dataBuf, rfl, rfl, by rintro _ ⟨⟩⟩

lemma inCall_writing {slaveInfo : SlaveInfo} {dataBuf : List UInt8}
    (hroom : mailboxCheckSize ≤ dataBuf.length)
    (hrx : (slaveInfo.mailboxRxSm.getD .default).size.toNat ≤ dataBuf.length) :
    Blocked.InCall dataBuf.length ⟨⟨MailboxTask.new.startToWrite slaveInfo.slaveAddress
      (slaveInfo.mailboxRxSm.getD .default) false, .store none dataBuf⟩, 0⟩ where
  task := ⟨rfl, rfl, hroom, hrx⟩
  count_le := Nat.zero_le _
  socket := ⟨none, dataBuf, rfl, rfl, by rintro _ ⟨⟩⟩

lemma resume_finishTransfer {slave : Slave} {decode : List UInt8 →
      Exec (Except (TaskError SdoErrorKind) α)} {mbData : List UInt8} {socket : PduSocket} :
    SocketProgram.resume (finishTransfer slave decode (.ok mbData)) socket =
      (decode mbData).bind fun result => .ok (.returned (result, slave) socket) := by
  change SocketProgram.resume (Program.ofExec (decode mbData) >>= _) socket = _
  rcases decode mbData with e | result <;> rfl

/-- A poll of the write. -/
lemma stepsAs_of_writing {block : Blocked MailboxTask} (hcall : block.InCall n)
    (hroom : mailboxCheckSize ≤ n) (htx : (txSm slave.info).size.toNat ≤ n) (polled : Polled) :
    StepsAs n usizeBits slave message decode
      (.calling (.writeMailbox slave.incrementMbCount.2.info
        (sdoWriter slave.incrementMbCount.1 message) false)
        (readAnswer slave.incrementMbCount.2 (decode slave.incrementMbCount.1)) block) polled := by
  obtain ⟨result, block', hturn, hgoesOn, hdone, hfailed⟩ := Blocked.turn_of_inCall hcall polled
  rcases hends : block.ends polled with _ | e | _
  · obtain ⟨rfl, hcall'⟩ := hgoesOn hends
    refine .inr ⟨?_, _, step_of_goesOn (.writeMailbox _ _ _) hturn, .inl ⟨block', rfl, hcall'⟩⟩
    rintro ⟨e, hfail⟩
    cases hends.symm.trans hfail
  · refine .inl ⟨⟨e, hends⟩, .unwrap, ?_⟩
    rcases hfailed e hends with rfl | ⟨rfl, hresult⟩
    · exact step_of_aborted (.writeMailbox _ _ _) hturn
    · exact step_of_finished (.writeMailbox _ _ _) hturn (unwrap_eq_ok_iff.mpr hresult)
  · -- the request was written
    obtain ⟨rfl, hresult, hsocket, hlength⟩ := hdone hends
    subst hlength
    have hread : SocketProgram.resume (readAnswer slave.incrementMbCount.2
        (decode slave.incrementMbCount.1) (.ok ())) block'.driven.socket =
          .ok (.calling (.readMailbox slave.incrementMbCount.2.info true) (finishTransfer
            slave.incrementMbCount.2 (decode slave.incrementMbCount.1))
              ⟨⟨MailboxTask.new.startToRead slave.info.slaveAddress (txSm slave.info) true,
                .store none (block.dataAfter polled)⟩, 0⟩) := by
      rw [hsocket]
      exact resume_readAnswer htx
    refine .inr ⟨?_, _, (step_of_finished (.writeMailbox _ _ _) hturn
      (unwrap_eq_ok_iff.mpr hresult)).trans hread, .inr (.inl ⟨_, rfl, inCall_reading hroom htx⟩)⟩
    rintro ⟨e, hfail⟩
    cases hends.symm.trans hfail

/-- A poll of the read. -/
lemma stepsAs_of_reading {block : Blocked MailboxTask} (hcall : block.InCall n)
    (hdecode : ∀ mbData, mbData.length = n →
      ((∃ result, decode slave.incrementMbCount.1 mbData = .ok result) ↔
        ¬ MailboxFrame.SizeOverflows usizeBits mbData)) (polled : Polled) :
    StepsAs n usizeBits slave message decode
      (.calling (.readMailbox slave.incrementMbCount.2.info true)
        (finishTransfer slave.incrementMbCount.2 (decode slave.incrementMbCount.1)) block)
      polled := by
  obtain ⟨result, block', hturn, hgoesOn, hdone, hfailed⟩ := Blocked.turn_of_inCall hcall polled
  rcases hends : block.ends polled with _ | e | _
  · obtain ⟨rfl, hcall'⟩ := hgoesOn hends
    refine .inr ⟨?_, _, step_of_goesOn (.readMailbox _ _) hturn, .inr (.inl ⟨block', rfl, hcall'⟩)⟩
    rintro (⟨e, hfail⟩ | ⟨hdone, -⟩)
    · cases hends.symm.trans hfail
    · cases hends.symm.trans hdone
  · refine .inl ⟨.inl ⟨e, hends⟩, .unwrap, ?_⟩
    rcases hfailed e hends with rfl | ⟨rfl, hresult⟩
    · exact step_of_aborted (.readMailbox _ _) hturn
    · exact step_of_finished (.readMailbox _ _) hturn
        (bind_eq_ok.mpr ⟨_, unwrap_eq_ok_iff.mpr hresult, rfl⟩)
  · -- the answer is decoded
    obtain ⟨rfl, hresult, hsocket, hlength⟩ := hdone hends
    have hstep : (SocketProgram.calling (.readMailbox slave.incrementMbCount.2.info true)
        (finishTransfer slave.incrementMbCount.2 (decode slave.incrementMbCount.1)) block).step
          polled = SocketProgram.resume (finishTransfer slave.incrementMbCount.2
            (decode slave.incrementMbCount.1) (.ok block'.driven.socket.dataBuf))
              block'.driven.socket :=
      step_of_finished (.readMailbox _ _) hturn
        (bind_eq_ok.mpr ⟨_, unwrap_eq_ok_iff.mpr hresult, rfl⟩)
    have hreturns := hdecode _ hlength
    have hbuf : block'.driven.socket.dataBuf = block.dataAfter polled := by
      rw [hsocket]
      rfl
    rw [hbuf] at hstep
    rcases hdecoded : decode slave.incrementMbCount.1 (block.dataAfter polled) with e | result
    · rw [hdecoded] at hreturns
      have hoverflows : MailboxFrame.SizeOverflows usizeBits (block.dataAfter polled) := by
        by_contra hnot
        obtain ⟨result, heq⟩ := hreturns.mpr hnot
        cases heq
      refine .inl ⟨.inr ⟨hends, hoverflows⟩, e, ?_⟩
      rw [hstep, resume_finishTransfer, hdecoded]
      rfl
    · rw [hdecoded] at hreturns
      have hnot := hreturns.mp ⟨result, rfl⟩
      refine .inr ⟨?_, .returned (result, slave.incrementMbCount.2) block'.driven.socket, ?_,
        .inr (.inr ⟨_, _, rfl⟩)⟩
      · rintro (⟨e, hfail⟩ | ⟨-, hoverflows⟩)
        · cases hends.symm.trans hfail
        · exact hnot hoverflows
      · rw [hstep, resume_finishTransfer, hdecoded]
        rfl

/-- **A poll of a transfer.** -/
lemma stepsAs_of_inTransfer (hroom : mailboxCheckSize ≤ n) (htx : (txSm slave.info).size.toNat ≤ n)
    (hdecode : ∀ mbData, mbData.length = n →
      ((∃ result, decode slave.incrementMbCount.1 mbData = .ok result) ↔
        ¬ MailboxFrame.SizeOverflows usizeBits mbData))
    (h : InTransfer n slave message decode s) (polled : Polled) :
    StepsAs n usizeBits slave message decode s polled := by
  obtain ⟨block, rfl, hcall⟩ | ⟨block, rfl, hcall⟩ | ⟨result, socket, rfl⟩ := h
  · exact stepsAs_of_writing hcall hroom htx polled
  · exact stepsAs_of_reading hcall hdecode polled
  · exact .inr ⟨id, _, rfl, .inr (.inr ⟨_, _, rfl⟩)⟩

/-- **When a transfer that has begun returns.** -/
lemma run_returns_iff (hroom : mailboxCheckSize ≤ n) (htx : (txSm slave.info).size.toNat ≤ n)
    (hdecode : ∀ mbData, mbData.length = n →
      ((∃ result, decode slave.incrementMbCount.1 mbData = .ok result) ↔
        ¬ MailboxFrame.SizeOverflows usizeBits mbData))
    (h : InTransfer n slave message decode s) (polls : List Polled) :
    (∃ t, Transition.run SocketProgram.step s polls = .ok t) ↔
      Transition.Along SocketProgram.step (fun s polled => ¬ Fails usizeBits s polled) s polls := by
  refine Transition.exists_run_iff_along (InTransfer n slave message decode)
    (fun s polled hs => ?_) (fun s polled s' hs hstep => ?_) h polls
  · rcases stepsAs_of_inTransfer hroom htx hdecode hs polled with
      ⟨hfails, e, hstep⟩ | ⟨hnot, s', hstep, -⟩
    · refine iff_of_false ?_ (not_not.mpr hfails)
      rintro ⟨s', hs'⟩
      cases hstep.symm.trans hs'
    · exact iff_of_true ⟨s', hstep⟩ hnot
  · rcases stepsAs_of_inTransfer hroom htx hdecode hs polled with
      ⟨-, e, hstep'⟩ | ⟨-, s'', hstep', hs'⟩
    · cases hstep'.symm.trans hstep
    · cases hstep'.symm.trans hstep
      exact hs'

end

section
variable {usizeBits : ℕ} {slave : Slave} {coeIndex : CoeIndex} {data : Option (List UInt8)}
  {decode : UInt8 → List UInt8 → Exec (Except (TaskError SdoErrorKind) α)} {dataBuf : List UInt8}

/-- A transfer begins if its request can be encoded. -/
lemma requestEncodes_of_resume
    {s : SocketProgram (Except (TaskError SdoErrorKind) α × Slave)}
    (h : SocketProgram.resume (transferSdo slave (MailboxFrame.requestMessage coeIndex data) decode)
      (.store none dataBuf) = .ok s) : RequestEncodes dataBuf.length data := by
  obtain ⟨started, dataBuf', hstart, -⟩ := SocketProgram.resume_ask h
  obtain ⟨-, -, hstart⟩ := bind_eq_ok.mp hstart
  obtain ⟨written, hwritten, -⟩ := bind_eq_ok.mp hstart
  exact (sdoWriter_returns_iff _ coeIndex data dataBuf).mp ⟨written, hwritten⟩

lemma exists_resume_transferSdo (coeIndex : CoeIndex)
    (decode : UInt8 → List UInt8 → Exec (Except (TaskError SdoErrorKind) α))
    (hrx : (slave.info.mailboxRxSm.getD .default).size.toNat ≤ dataBuf.length)
    (hencodes : RequestEncodes dataBuf.length data) :
    ∃ s, SocketProgram.resume (transferSdo slave (MailboxFrame.requestMessage coeIndex data) decode)
        (.store none dataBuf) = .ok s ∧
      InTransfer dataBuf.length slave (MailboxFrame.requestMessage coeIndex data) decode s := by
  obtain ⟨⟨result, buf⟩, hwritten⟩ :=
    (sdoWriter_returns_iff slave.incrementMbCount.1 coeIndex data dataBuf).mpr hencodes
  obtain rfl := written_eq_ok hwritten
  have hlength : buf.length = dataBuf.length := MailboxFrameWriter.length_run _ hwritten
  have hstart : (BlockingCall.writeMailbox slave.incrementMbCount.2.info (sdoWriter
      slave.incrementMbCount.1 (MailboxFrame.requestMessage coeIndex data)) false).start dataBuf =
        .ok (.ok (MailboxTask.new.startToWrite slave.info.slaveAddress
          (slave.info.mailboxRxSm.getD .default) false), buf) :=
    bind_eq_ok.mpr ⟨(), assert_eq_ok_iff.mpr hrx, bind_eq_ok.mpr ⟨_, hwritten, rfl⟩⟩
  have hroom : mailboxCheckSize ≤ buf.length :=
    hlength ▸ Nat.le_trans (by decide) (twelve_le_of_requestEncodes hencodes)
  refine ⟨_, resume_of_started _ hstart, .inl ⟨_, rfl, ?_⟩⟩
  rw [← hlength]
  exact inCall_writing hroom (hlength ▸ hrx)

/-- **When a transfer returns.** -/
lemma transferSdo_returns_iff (coeIndex : CoeIndex) (data : Option (List UInt8))
    (hrx : (slave.info.mailboxRxSm.getD .default).size.toNat ≤ dataBuf.length)
    (htx : (txSm slave.info).size.toNat ≤ dataBuf.length)
    (hdecode : ∀ mbData, 6 ≤ mbData.length →
      ((∃ result, decode slave.incrementMbCount.1 mbData = .ok result) ↔
        ¬ MailboxFrame.SizeOverflows usizeBits mbData)) (polls : List Polled) :
    (∃ s, SocketProgram.run (transferSdo slave (MailboxFrame.requestMessage coeIndex data) decode)
        (.store none dataBuf) polls = .ok s) ↔
      RequestEncodes dataBuf.length data ∧
        ∀ s, SocketProgram.resume (transferSdo slave (MailboxFrame.requestMessage coeIndex data)
            decode) (.store none dataBuf) = .ok s →
          Transition.Along SocketProgram.step (fun s polled => ¬ Fails usizeBits s polled) s
            polls := by
  simp only [SocketProgram.run_eq_ok]
  by_cases hencodes : RequestEncodes dataBuf.length data
  · obtain ⟨s₀, hresume, hcall⟩ :=
      exists_resume_transferSdo coeIndex decode hrx hencodes
    have htwelve := twelve_le_of_requestEncodes hencodes
    have hreturns := run_returns_iff (Nat.le_trans (by decide) htwelve) htx
      (fun mbData hlength => hdecode mbData (by omega)) hcall polls
    simp only [hencodes, true_and, hresume, Except.ok.injEq, exists_eq_left', forall_eq']
    exact hreturns
  · refine iff_of_false ?_ fun h => hencodes h.1
    rintro ⟨t, s₀, hresume, -⟩
    exact hencodes (requestEncodes_of_resume hresume)

end

/-- **When SDO transfers return.**  The buffer has room for both mailboxes, as the mailbox calls
assert.  Then a transfer returns, whatever the polls bring, exactly if its request can be encoded
and no poll makes one of the mailbox calls fail. -/
theorem sdo_returns_iff (usizeBits : ℕ) (slave : Slave) (index : UInt16) (subIndex : UInt8)
    (dataBuf : List UInt8) (polls : List Polled)
    (hrx : (slave.info.mailboxRxSm.getD .default).size.toNat ≤ dataBuf.length)
    (htx : (txSm slave.info).size.toNat ≤ dataBuf.length) :
    ((∃ s, SocketProgram.run (readSdo usizeBits slave index subIndex) (.store none dataBuf) polls =
        .ok s) ↔
      RequestEncodes dataBuf.length none ∧
        ∀ s, SocketProgram.resume (readSdo usizeBits slave index subIndex) (.store none dataBuf) =
            .ok s →
          Transition.Along SocketProgram.step (fun s polled => ¬ Fails usizeBits s polled) s
            polls) ∧
    ∀ sent, (∃ s, SocketProgram.run (writeSdo usizeBits slave index subIndex sent)
        (.store none dataBuf) polls = .ok s) ↔
      RequestEncodes dataBuf.length (some sent) ∧
        ∀ s, SocketProgram.resume (writeSdo usizeBits slave index subIndex sent)
            (.store none dataBuf) = .ok s →
          Transition.Along SocketProgram.step (fun s polled => ¬ Fails usizeBits s polled) s
            polls := by
  constructor
  · refine transferSdo_returns_iff ⟨index, subIndex⟩ none hrx htx
      (fun mbData hlength => decodeAnswer_returns_iff fun sdoRes => ?_) polls
    cases sdoRes with
    | upload res => exact checkCount_returns hlength _ _
    | downLoad | other => exact ⟨_, rfl⟩
  · intro sent
    refine transferSdo_returns_iff ⟨index, subIndex⟩ (some sent) hrx htx
      (fun mbData hlength => decodeAnswer_returns_iff fun sdoRes => ?_) polls
    cases sdoRes with
    | downLoad => exact checkCount_returns hlength _ _
    | upload | other => exact ⟨_, rfl⟩

/-- A slave that answers the request is no failure. -/
theorem sdo_returns_iff_otherUpload :
    RequestEncodes 16 none ∧
      ∀ s, SocketProgram.resume (readSdo 64 mailboxSlave 0x1018 1)
          (.store none (List.replicate 16 0)) = .ok s →
        Transition.Along SocketProgram.step (fun s polled => ¬ Fails 64 s polled) s
          (answeredWith otherUpload) := by
  obtain ⟨slave, socket, -, hrun⟩ := readSdo_otherUpload
  exact (sdo_returns_iff 64 mailboxSlave 0x1018 1 (List.replicate 16 0) _ (by decide)
    (by decide)).1.mp ⟨_, hrun⟩

/-- The slave does not react to the first PDU. -/
def noReaction : List Polled := [⟨.ok true, id⟩, ⟨.ok true, id⟩]

/-- **A slave that does not react** makes both transfers panic. -/
theorem sdo_panics_of_noReaction :
    (SocketProgram.run (readSdo 64 mailboxSlave 0x1018 1) (.store none (List.replicate 16 0))
        noReaction).map (fun _ => ()) = .error .unwrap ∧
      (SocketProgram.run (writeSdo 64 mailboxSlave 0x1018 1 [1, 2])
        (.store none (List.replicate 16 0)) noReaction).map (fun _ => ()) = .error .unwrap := by
  decide +kernel

end SocketInterface

end EtherCat
