import EtherCat.Interface.EnqueuePdus
import EtherCat.Interface.SinglePdu

/-!
# Polling with a single PDU

One socket is used and the others have nothing to send.  Then a poll either waits and leaves the
PDU where it is (in the socket, unsent, or out), or gives up with an error of the device, or comes
to its end, and then the interface is clear and whatever response the socket has got is an answer
to that PDU.
-/

namespace EtherCat

open Rust BitField EtherCatPdu PduInterface

variable {D : Type} [RawEthernetDevice D] {N : ℕ}

/-- A poll that `block_on` repeats. -/
def Waits (polled : Except PhyError Bool) : Prop :=
  polled = .ok false ∨ polled = .error .txNotAvailable ∨ polled = .error .rxNotAvailable

/-- A poll that ends `block_on`. -/
def GivesUp (polled : Except PhyError Bool) : Prop :=
  polled = .error .txError ∨ polled = .error .rxError

lemma not_waits_ok : ¬ Waits (.ok true) := by
  rintro (heq | heq | heq) <;> cases heq

lemma Waits.not_givesUp {polled : Except PhyError Bool} (h : Waits polled) : ¬ GivesUp polled := by
  rintro (rfl | rfl) <;> rcases h with heq | heq | heq <;> cases heq

namespace PduSocket

/-- The socket has the PDU to send. -/
structure Asks (content : Command × List UInt8) (socket : PduSocket) : Prop where
  recvFlag_eq : socket.recvFlag = false
  command_eq : socket.command = some content.1
  data_eq : socket.dataBuf.take socket.dataLength = content.2

/-- The PDU was taken from the socket. -/
structure Asked (content : Command × List UInt8) (socket : PduSocket) : Prop where
  command_eq : socket.command = none
  dataLength_eq : socket.dataLength = content.2.length
  dataLength_le : socket.dataLength ≤ socket.dataBuf.length

variable {content : Command × List UInt8} {socket : PduSocket}

lemma Asks.pending (h : socket.Asks content) : socket.Pending :=
  ⟨h.recvFlag_eq, by rw [h.command_eq]; rfl⟩

lemma Asks.asked_taken (h : socket.Asks content) (hle : socket.dataLength ≤ socket.dataBuf.length) :
    socket.taken.Asked content where
  command_eq := rfl
  dataLength_eq := by
    rw [← h.data_eq, List.length_take]
    exact (Nat.min_eq_left hle).symm
  dataLength_le := hle

lemma Asked.not_pending (h : socket.Asked content) : ¬ socket.Pending := by
  simp [Pending, h.command_eq]

lemma getRecievedPdu_of_command (h : socket.command = none) :
    socket.getRecievedPdu = .ok none := by
  simp [getRecievedPdu, h]

lemma not_pending_recieve (socket : PduSocket) (recvData : Pdu) :
    ¬ (socket.recieve recvData).Pending := by
  simp [Pending, recieve]

/-- A response of the length of the PDU is read back as it was received. -/
lemma Asked.getRecievedPdu_recieve (h : socket.Asked content) {recvData : Pdu}
    (hlength : recvData.data.length = content.2.length) :
    (socket.recieve recvData).getRecievedPdu = .ok (some recvData) := by
  have hdata : (overwrite socket.dataBuf recvData.data).take socket.dataLength = recvData.data := by
    have hle := h.dataLength_le
    rw [h.dataLength_eq, ← hlength] at hle ⊢
    rw [overwrite, List.take_of_length_le hle, List.take_left]
  have hslice : sliceTo (overwrite socket.dataBuf recvData.data) socket.dataLength =
      .ok recvData.data :=
    sliceTo_eq_ok_iff.mpr ⟨by rw [length_overwrite]; exact h.dataLength_le, hdata.symm⟩
  simp [getRecievedPdu, recieve, hslice]

end PduSocket

/-! ## Adding the PDU -/

namespace PduInterface

variable {dev : FallibleDevice D} {start : ℕ} {iface iface' : PduInterface D}

/-- A datagram without data is a header that no walk reads. -/
lemma Clear.addPdu_dataless (h : iface.Clear dev) {index : UInt8} {command : Command}
    {dataWriter : SliceWriter UInt8}
    (hwriter : ∀ target, target.length = 0 → dataWriter.run target = [])
    (hadd : iface.addPdu index command 0 dataWriter = .ok (.ok (), iface')) :
    iface'.Dataless ∧ iface'.ethdev = iface.ethdev := by
  have htotal := h.pdusTotalSize_eq
  have hroom : iface.pdusTotalSize + headerSize + 0 + wkcLength ≤ iface.capacity := by
    by_contra hroom
    rw [addPdu, if_pos (Nat.not_le.mp hroom)] at hadd
    cases hadd
  have hlt : iface.pdusTotalSize + headerSize + 0 + wkcLength < iface.buffer.length := by
    by_contra hlt
    obtain ⟨e, he⟩ := addPdu_of_not_lt h.wellSized index command dataWriter hroom
      (Nat.not_lt.mp hlt)
    rw [he] at hadd
    cases hadd
  have hempty : ∀ target, target.length = ([] : List UInt8).length →
      dataWriter.run target = [] := hwriter
  obtain ⟨header, wkc, rest, hheader, hheaderLen, hwkcLen, hlength, hadd'⟩ :=
    addPdu_of_lt h.wellSized index command hempty hroom hlt
  obtain ⟨header', hheader', -, hvals⟩ :=
    newHeader_eq index command [] 0 rfl (by decide)
  cases hheader.symm.trans hheader'
  cases hadd.symm.trans hadd'
  have hzero : length.val (header ++ wkc) = 0 := by
    rw [Field.val_append_left (fits hheaderLen.ge (by decide))]
    exact hvals (length, 0) (by simp [headerOf])
  have htake : ((iface.buffer.take iface.pdusTotalSize ++ (header ++ [] ++ wkc)) ++ rest).take
      (iface.pdusTotalSize + (headerSize + 0 + wkcLength)) = header ++ wkc := by
    rw [htotal, List.take_zero, List.nil_append, List.append_nil]
    exact List.take_left' (by rw [List.length_append, hheaderLen, hwkcLen, Nat.zero_add]; rfl)
  refine ⟨⟨⟨by simp, ?_, ?_, Nat.zero_le _⟩, ?_, h.txCount_eq⟩, rfl⟩
  · rw [hlength]
    exact Nat.le_of_lt (by simpa [Nat.add_assoc] using hlt)
  · have hnone : ∀ pdu ∈ ([] : List (List UInt8)), IsDatagram pdu := by simp
    have hread := EtherCatPdus.toList_flatten [] (header ++ wkc)
      (iface.pdusTotalSize + (headerSize + 0 + wkcLength)) hnone (Nat.zero_le _)
      (.inl (.inr hzero))
    dsimp only
    rw [List.length_nil, htake]
    exact hread
  · dsimp only
    rw [h.pduCount_eq]

/-- **A clear interface takes the PDU of a socket.** -/
lemma Clear.addPdu (h : iface.Clear dev) (hstart : start ≤ (dev.sent iface.ethdev).length)
    {index : UInt8} {command : Command} {data : List UInt8} {dataSize : ℕ}
    (hsize : data.length = dataSize)
    (hadd : iface.addPdu index command dataSize (SocketInterface.copyWriter data) =
      .ok (.ok (), iface')) :
    iface'.Occupied dev start (command, data) ∧ iface'.ethdev = iface.ethdev := by
  subst hsize
  have hwriter : ∀ target, target.length = data.length →
      (SocketInterface.copyWriter data).run target = data := by
    intro target hlength
    show overwrite target data = data
    exact overwrite_of_length_eq hlength.symm
  rcases Nat.eq_zero_or_pos data.length with hzero | hpos
  · rw [hzero] at hadd hwriter
    rw [List.length_eq_zero_iff.mp hzero] at hadd hwriter ⊢
    obtain ⟨hdataless, hethdev⟩ := h.addPdu_dataless hwriter hadd
    exact ⟨.inl hdataless, hethdev⟩
  · have hbuffered : iface.Buffered [] := ⟨by simp, ⟨iface.buffer, rfl⟩, h.pdusTotalSize_eq⟩
    obtain ⟨pdu, hpdu, hbuffered', hsized, hiface, hlength⟩ :=
      addPdu_eq_ok hbuffered h.wellSized data rfl hpos hwriter hadd
    have hethdev : iface'.ethdev = iface.ethdev := by rw [hiface]
    refine ⟨.inr ⟨pdu, by rw [hpdu]; rfl, .inl ?_⟩, hethdev⟩
    exact {
      buffered := hbuffered'
      wellSized := hsized
      pduCount_eq := by rw [hiface, h.pduCount_eq]
      txCount_eq := by rw [hiface, h.txCount_eq]
      recvDataSize_eq := by rw [hiface, h.recvDataSize_eq]
      start_le := by rw [hethdev]; exact hstart
      returned := by rw [hethdev]; exact h.returned }

end PduInterface

namespace SocketInterface

section
variable {dev : FallibleDevice D} {start : ℕ} {content : Command × List UInt8}
  {sif sif' : SocketInterface D N} {r : Except PhyError Bool}

/-! ## The exchange -/

/-- Nothing in the interface: nothing happens. -/
lemma transmitAndReceive_of_clear (h : sif.iface.Clear dev) :
    sif.transmitAndReceive = .ok (.ok true, sif) := by
  have hbuffered : sif.iface.Buffered [] :=
    ⟨by simp, ⟨sif.iface.buffer, rfl⟩, h.pdusTotalSize_eq⟩
  have hconsumed : { sif.iface with pdusTotalSize := 0, recvDataSize := 0 } = sif.iface := by
    have htotal := h.pdusTotalSize_eq
    have hrecv := h.recvDataSize_eq
    rcases hiface : sif.iface with ⟨_, _, _, _, _, _, _⟩
    rw [hiface] at htotal hrecv
    dsimp only at htotal hrecv ⊢
    rw [htotal, hrecv]
  simp only [transmitAndReceive, transmitOneFrame_of_zero h.pduCount_eq, Exec.ok_bind,
    receiveOneFrame_of_zero h.txCount_eq, consumePdus, hbuffered.toList_eq, hconsumed, deliverPdus,
    Bool.and_self, Bool.not_true, Bool.false_eq_true, if_false]

/-- **An exchange with the PDU in the interface.** -/
lemma transmitAndReceive_of_occupied (h : sif.iface.Occupied dev start content)
    (hexchange : sif.transmitAndReceive = .ok (r, sif')) :
    dev.Evolves content sif.iface.ethdev sif'.iface.ethdev ∧
      (GivesUp r ∨
        Waits r ∧ sif'.iface.Occupied dev start content ∧ sif'.socketSet = sif.socketSet ∨
        r = .ok true ∧ sif'.iface.Clear dev ∧ ∃ answer,
          dev.Answers start content (response answer) sif'.iface.ethdev ∧
          (datagram answer).data.length = content.2.length ∧
          ∀ slot, sif'.getSocket slot = (sif.getSocket slot).map fun socket =>
            if index.val answer = slot then socket.recieve (response answer) else socket) := by
  obtain ⟨⟨txResult, iface⟩, htransmit, hexchange⟩ := Exec.bind_eq_ok.mp hexchange
  obtain ⟨hevolves, hcases⟩ := h.transmitOneFrame htransmit
  rcases hcases with rfl | ⟨rfl, hoccupied⟩ | ⟨rfl, hdataless⟩ | ⟨rfl, pdu, hcontent, hflight⟩
  · cases hexchange
    exact ⟨hevolves, .inl (.inl rfl)⟩
  · cases hexchange
    exact ⟨hevolves, .inr (.inl ⟨.inr (.inl rfl), hoccupied, rfl⟩)⟩
  · -- nothing is out, and one is still counted as unsent
    dsimp only at hexchange
    rw [receiveOneFrame_of_zero hdataless.txCount_eq, Exec.ok_bind] at hexchange
    cases hexchange
    exact ⟨hevolves, .inr (.inl ⟨.inl rfl, .inl hdataless, rfl⟩)⟩
  · obtain ⟨⟨rxResult, iface'⟩, hreceive, hexchange⟩ := Exec.bind_eq_ok.mp hexchange
    obtain ⟨hevolves', hcases⟩ := hflight.receiveOneFrame hcontent hreceive
    have hboth := hevolves.trans hevolves'
    rcases hcases with rfl | ⟨rfl | rfl, hflight'⟩ | ⟨rfl, answer, hbrought⟩
    · cases hexchange
      exact ⟨hboth, .inl (.inr rfl)⟩
    · cases hexchange
      exact ⟨hboth, .inr (.inl ⟨.inr (.inr rfl), .inr ⟨pdu, hcontent, .inr hflight'⟩, rfl⟩)⟩
    · cases hexchange
      exact ⟨hboth, .inr (.inl ⟨.inl rfl, .inr ⟨pdu, hcontent, .inr hflight'⟩, rfl⟩)⟩
    · obtain ⟨pdus, hread, hexchange⟩ := Exec.bind_eq_ok.mp hexchange
      rw [hbrought.buffered.toList_eq] at hread
      cases hread
      obtain ⟨sif₁, hdeliver, hiface, hsockets⟩ := deliverPdus_eq hbrought.buffered.isDatagram
        { sif with iface := iface'.consumePdus.2 }
      obtain ⟨sif₂, hdeliver', heq⟩ := Exec.bind_eq_ok.mp hexchange
      cases hdeliver.symm.trans hdeliver'
      cases heq
      have hethdev : sif'.iface.ethdev = iface'.ethdev := by rw [hiface]; rfl
      refine ⟨by rw [hethdev]; exact hboth, .inr (.inr ⟨rfl, ?_, answer, ?_, hbrought.length_eq, ?_⟩)⟩
      · have hsized := hbrought.wellSized
        rw [hiface]
        exact {
          wellSized := ⟨hsized.capacity_le, hsized.capacity_le_max, Nat.zero_le _⟩
          pdusTotalSize_eq := rfl
          pduCount_eq := hbrought.pduCount_eq
          txCount_eq := hbrought.txCount_eq
          recvDataSize_eq := rfl
          returned := hbrought.returned }
      · rw [hethdev]
        exact hbrought.answers
      · intro slot
        rw [hsockets slot]
        congr 1
        funext socket
        by_cases hindex : index.val answer = slot <;> simp [recieveAll, hindex]

/-! ## Enqueuing -/

omit [RawEthernetDevice D] in
/-- Nothing to send: the loop changes nothing. -/
lemma enqueueSlots_of_idle {slots : List ℕ} {i : ℕ} {complete : Bool}
    (hidle : ∀ slot ∈ slots, ¬ sif.HoldsPending slot)
    (h : enqueueSlots slots i sif = .ok (complete, sif')) : sif' = sif := by
  induction slots generalizing i with
  | nil =>
      cases h
      rfl
  | cons slot slots ih =>
      rw [List.forall_mem_cons] at hidle
      unfold enqueueSlots at h
      split at h
      · exact ih hidle.2 h
      · next socket hsocket =>
          obtain ⟨remaining, -, h⟩ := Exec.bind_eq_ok.mp h
          split at h
          · cases h
            rfl
          obtain ⟨⟨taken, socket'⟩, htake, h⟩ := Exec.bind_eq_ok.mp h
          rcases PduSocket.takePdu_eq_ok htake with ⟨-, rfl, -⟩ | ⟨command, hpending, -⟩
          · exact ih hidle.2 h
          · exact absurd ⟨socket, hsocket, hpending⟩ hidle.1

/-- The PDU of a socket went into the PDU interface. -/
def Took (own : ℕ) (socket : PduSocket) (sif sif' : SocketInterface D N) : Prop :=
  ∃ index command iface, socket.command = some command ∧
    socket.dataLength ≤ socket.dataBuf.length ∧
    sif.iface.addPdu index command socket.dataLength
      (copyWriter (socket.dataBuf.take socket.dataLength)) = .ok (.ok (), iface) ∧
    sif' = modifySocket { sif with iface := iface } own (fun _ => socket.taken)

omit [RawEthernetDevice D] in
/-- One socket has something to send: the loop takes it, or stops in front of it. -/
lemma enqueueSlots_of_single {own : ℕ} {socket : PduSocket} {slots : List ℕ} {i : ℕ}
    {complete : Bool} (hnodup : slots.Nodup) (hsocket : sif.getSocket own = some socket)
    (hpending : socket.Pending) (hothers : ∀ slot ∈ slots, slot ≠ own → ¬ sif.HoldsPending slot)
    (h : enqueueSlots slots i sif = .ok (complete, sif')) :
    sif' = sif ∧ (own ∈ slots → complete = false) ∨ Took own socket sif sif' := by
  induction slots generalizing i with
  | nil =>
      cases h
      exact .inl ⟨rfl, fun hmem => absurd hmem List.not_mem_nil⟩
  | cons slot slots ih =>
      rw [List.forall_mem_cons] at hothers
      rw [List.nodup_cons] at hnodup
      -- a slot that is passed is not the one with the datagram
      have hpass : ∀ {j : ℕ}, slot ≠ own → enqueueSlots slots j sif = .ok (complete, sif') →
          sif' = sif ∧ (own ∈ slot :: slots → complete = false) ∨
            Took own socket sif sif' := by
        intro j hne hrest
        rcases ih hnodup.2 hothers.2 hrest with ⟨rfl, hcomplete⟩ | htaken
        · refine .inl ⟨rfl, fun hmem => ?_⟩
          rcases List.mem_cons.mp hmem with heq | hmem
          · exact absurd heq.symm hne
          · exact hcomplete hmem
        · exact .inr htaken
      unfold enqueueSlots at h
      split at h
      · next hnone =>
          refine hpass ?_ h
          rintro rfl
          rw [hsocket] at hnone
          cases hnone
      · next socket' hsocket' =>
          obtain ⟨remaining, -, h⟩ := Exec.bind_eq_ok.mp h
          split at h
          · cases h
            exact .inl ⟨rfl, fun _ => rfl⟩
          obtain ⟨⟨taken, socket''⟩, htake, h⟩ := Exec.bind_eq_ok.mp h
          rcases PduSocket.takePdu_eq_ok htake with
            ⟨hnot, rfl, -⟩ | ⟨command, hpending', hcommand, hle, rfl, rfl⟩
          · refine hpass ?_ h
            rintro rfl
            cases hsocket.symm.trans hsocket'
            exact hnot hpending
          · have hown : slot = own := by
              by_contra hne
              exact hothers.1 hne ⟨socket', hsocket', hpending'⟩
            subst hown
            cases hsocket.symm.trans hsocket'
            obtain ⟨⟨result, iface⟩, hadd, h⟩ := Exec.bind_eq_ok.mp h
            rcases result with rejected | u
            · cases h
            · rw [PduSocket.pduLength_of_pending hpending] at hadd
              have hrest := enqueueSlots_of_idle (fun l hl hholds => ?_) h
              · exact .inr ⟨_, command, iface, hcommand, hle, hadd, hrest⟩
              · have hne : l ≠ slot := fun heq => hnodup.1 (heq ▸ hl)
                obtain ⟨other, hother, hotherPending⟩ := hholds
                rw [Option.mem_def, getSocket_modifySocket, if_neg hne] at hother
                exact hothers.2 l hl hne ⟨other, hother, hotherPending⟩

/-! ## Polling -/

/-- Nothing on its way and nothing to send. -/
structure Settled (dev : FallibleDevice D) (sif : SocketInterface D N) : Prop where
  clear : sif.iface.Clear dev
  idle : ∀ slot, ¬ sif.HoldsPending slot

/-- The socket `own` is empty as well. -/
structure Resting (dev : FallibleDevice D) (own : ℕ) (sif : SocketInterface D N) : Prop
    extends Settled dev sif where
  command_eq : ∃ socket, sif.getSocket own = some socket ∧ socket.command = none

/-- The PDU is in the socket, to be sent, or the interface has it. -/
structure Awaiting (dev : FallibleDevice D) (start own : ℕ) (content : Command × List UInt8)
    (sif : SocketInterface D N) : Prop where
  others : ∀ slot, slot ≠ own → ¬ sif.HoldsPending slot
  start_le : start ≤ (dev.sent sif.iface.ethdev).length
  position : ∃ socket, sif.getSocket own = some socket ∧
    (sif.iface.Clear dev ∧ socket.Asks content ∨
      sif.iface.Occupied dev start content ∧ socket.Asked content)

/-- The interface has the PDU. -/
structure Handed (dev : FallibleDevice D) (start own : ℕ) (content : Command × List UInt8)
    (sif : SocketInterface D N) : Prop where
  others : ∀ slot, slot ≠ own → ¬ sif.HoldsPending slot
  start_le : start ≤ (dev.sent sif.iface.ethdev).length
  occupied : sif.iface.Occupied dev start content
  asked : ∃ socket, sif.getSocket own = some socket ∧ socket.Asked content

/-- The socket may have got a response, but only an answer to the PDU. -/
structure Received (dev : FallibleDevice D) (start own : ℕ) (content : Command × List UInt8)
    (sif : SocketInterface D N) : Prop extends Settled dev sif where
  answers : ∃ socket recvData, sif.getSocket own = some socket ∧
    socket.getRecievedPdu = .ok recvData ∧
    ∀ recv ∈ recvData, dev.Answers start content recv sif.iface.ethdev

lemma pollTxRx_eq_ok (h : sif.pollTxRx = .ok (r, sif')) :
    ∃ complete enqueued processed, sif.enqueuePdus = .ok (complete, enqueued) ∧
      enqueued.transmitAndReceive = .ok (processed, sif') ∧
      r = processed.map (complete && ·) := by
  obtain ⟨⟨complete, enqueued⟩, henqueue, h⟩ := Exec.bind_eq_ok.mp h
  obtain ⟨⟨processed, sif₁⟩, hexchange, h⟩ := Exec.bind_eq_ok.mp h
  refine ⟨complete, enqueued, processed, henqueue, ?_⟩
  rcases processed with e | processed
  · cases h
    exact ⟨hexchange, rfl⟩
  · cases h
    exact ⟨hexchange, rfl⟩

/-- With nothing to do, a poll does nothing. -/
lemma Settled.pollTxRx (h : sif.Settled dev) (hpoll : sif.pollTxRx = .ok (r, sif')) :
    sif' = sif ∧ (r = .ok true ∨ Waits r) := by
  obtain ⟨complete, enqueued, processed, henqueue, hexchange, rfl⟩ := pollTxRx_eq_ok hpoll
  cases enqueueSlots_of_idle (fun slot _ => h.idle slot) henqueue
  rw [transmitAndReceive_of_clear h.clear] at hexchange
  cases hexchange
  refine ⟨rfl, ?_⟩
  rcases complete with _ | _
  · exact .inr (.inl rfl)
  · exact .inl rfl

omit [RawEthernetDevice D] in
lemma not_holdsPending_of_eq {own : ℕ} (hothers : ∀ slot, slot ≠ own → ¬ sif.HoldsPending slot)
    (hsame : ∀ slot, slot ≠ own → sif'.getSocket slot = sif.getSocket slot) :
    ∀ slot, slot ≠ own → ¬ sif'.HoldsPending slot := by
  intro slot hslot hholds
  unfold HoldsPending at hholds
  rw [hsame slot hslot] at hholds
  exact hothers slot hslot hholds

/-- What the exchange makes of a PDU that the interface has. -/
lemma Handed.transmitAndReceive {own : ℕ} (h : sif.Handed dev start own content)
    (hexchange : sif.transmitAndReceive = .ok (r, sif')) :
    dev.Evolves content sif.iface.ethdev sif'.iface.ethdev ∧
      (GivesUp r ∨ Waits r ∧ sif'.Awaiting dev start own content ∨
        r = .ok true ∧ sif'.Received dev start own content) := by
  obtain ⟨socket, hsocket, hasked⟩ := h.asked
  obtain ⟨hevolves, hcases⟩ := transmitAndReceive_of_occupied h.occupied hexchange
  refine ⟨hevolves, ?_⟩
  rcases hcases with hgives | ⟨hwaits, hoccupied', hset⟩ |
    ⟨rfl, hclear, answer, hanswers, hlength, hsockets⟩
  · exact .inl hgives
  · have hsame : ∀ slot, sif'.getSocket slot = sif.getSocket slot := fun slot => by
      rw [getSocket, getSocket, hset]
    refine .inr (.inl ⟨hwaits, ?_⟩)
    exact {
      others := not_holdsPending_of_eq h.others fun slot _ => hsame slot
      start_le := h.start_le.trans hevolves.length_le
      position := ⟨socket, (hsame own).trans hsocket, .inr ⟨hoccupied', hasked⟩⟩ }
  · refine .inr (.inr ⟨rfl, ⟨hclear, ?_⟩, ?_⟩)
    · rintro slot ⟨other, hother, hpending⟩
      rw [hsockets slot, Option.mem_def, Option.map_eq_some_iff] at hother
      obtain ⟨before, hbefore, rfl⟩ := hother
      by_cases hindex : index.val answer = slot
      · rw [if_pos hindex] at hpending
        exact PduSocket.not_pending_recieve _ _ hpending
      · rw [if_neg hindex] at hpending
        by_cases hslot : slot = own
        · rw [hslot, hsocket] at hbefore
          cases hbefore
          exact hasked.not_pending hpending
        · exact h.others slot hslot ⟨before, hbefore, hpending⟩
    · have hown := hsockets own
      rw [hsocket, Option.map_some] at hown
      by_cases hindex : index.val answer = own
      · rw [if_pos hindex] at hown
        refine ⟨_, _, hown, hasked.getRecievedPdu_recieve hlength, ?_⟩
        rintro _ ⟨⟩
        exact hanswers
      · rw [if_neg hindex] at hown
        exact ⟨_, _, hown, PduSocket.getRecievedPdu_of_command hasked.command_eq, by rintro _ ⟨⟩⟩

/-- The enqueuing hands the PDU over, if there is room for it. -/
lemma Awaiting.enqueuePdus {own : ℕ} (h : sif.Awaiting dev start own content) {complete : Bool}
    (henqueue : sif.enqueuePdus = .ok (complete, sif')) :
    sif'.iface.ethdev = sif.iface.ethdev ∧
      (sif'.Handed dev start own content ∨
        complete = false ∧ sif' = sif ∧ sif.iface.Clear dev) := by
  obtain ⟨socket, hsocket, ⟨hclear, hasks⟩ | ⟨hoccupied, hasked⟩⟩ := h.position
  · rcases enqueueSlots_of_single List.nodup_range hsocket hasks.pending
      (fun slot _ => h.others slot) henqueue with
      ⟨rfl, hcomplete⟩ | ⟨index, command, iface, hcommand, hle, hadd, rfl⟩
    · exact ⟨rfl, .inr ⟨hcomplete (List.mem_range.mpr (lt_of_getSocket hsocket)), rfl, hclear⟩⟩
    · have hcontent : content = (command, socket.dataBuf.take socket.dataLength) :=
        Prod.ext (Option.some.inj (hasks.command_eq.symm.trans hcommand)) hasks.data_eq.symm
      have hlength : (socket.dataBuf.take socket.dataLength).length = socket.dataLength := by
        rw [List.length_take]
        exact Nat.min_eq_left hle
      have hadd' := hclear.addPdu h.start_le hlength hadd
      rw [← hcontent] at hadd'
      have hothers : ∀ slot, slot ≠ own →
          (modifySocket { sif with iface := iface } own fun _ => socket.taken).getSocket slot =
            sif.getSocket slot := fun slot hslot => by
        rw [getSocket_modifySocket, if_neg hslot]
        rfl
      refine ⟨hadd'.2, .inl ?_⟩
      exact {
        others := not_holdsPending_of_eq h.others hothers
        start_le := by
          show start ≤ (dev.sent iface.ethdev).length
          rw [hadd'.2]
          exact h.start_le
        occupied := hadd'.1
        asked := by
          refine ⟨socket.taken, ?_, hasks.asked_taken hle⟩
          rw [getSocket_modifySocket, if_pos rfl]
          show (sif.getSocket own).map _ = _
          rw [hsocket, Option.map_some] }
  · have hidle : ∀ slot ∈ List.range N, ¬ sif.HoldsPending slot := by
      rintro slot - ⟨other, hother, hpending⟩
      by_cases hslot : slot = own
      · rw [hslot, hsocket] at hother
        cases hother
        exact hasked.not_pending hpending
      · exact h.others slot hslot ⟨other, hother, hpending⟩
    cases enqueueSlots_of_idle hidle henqueue
    exact ⟨rfl, .inl ⟨h.others, h.start_le, hoccupied, ⟨socket, hsocket, hasked⟩⟩⟩

/-- **Polling with one PDU.**  If another socket makes the poll incomplete, a response may be there
before the poll that ends. -/
theorem Awaiting.pollTxRx {own : ℕ} (h : sif.Awaiting dev start own content)
    (hpoll : sif.pollTxRx = .ok (r, sif')) :
    dev.Evolves content sif.iface.ethdev sif'.iface.ethdev ∧
      (GivesUp r ∨ Waits r ∧ sif'.Awaiting dev start own content ∨
        (r = .ok true ∨ Waits r) ∧ sif'.Received dev start own content) := by
  obtain ⟨complete, enqueued, processed, henqueue, hexchange, rfl⟩ := pollTxRx_eq_ok hpoll
  obtain ⟨hethdev, hhanded | ⟨rfl, rfl, hclear⟩⟩ := h.enqueuePdus henqueue
  · obtain ⟨hevolves, hcases⟩ := hhanded.transmitAndReceive hexchange
    rw [← hethdev]
    refine ⟨hevolves, ?_⟩
    rcases hcases with hgives | ⟨hwaits, hawaiting⟩ | ⟨rfl, hreceived⟩
    · left
      rcases hgives with rfl | rfl
      · exact .inl rfl
      · exact .inr rfl
    · refine .inr (.inl ⟨?_, hawaiting⟩)
      rcases hwaits with rfl | rfl | rfl
      · exact .inl (by simp [Except.map])
      · exact .inr (.inl rfl)
      · exact .inr (.inr rfl)
    · refine .inr (.inr ⟨?_, hreceived⟩)
      rcases complete with _ | _
      · exact .inr (.inl rfl)
      · exact .inl rfl
  · rw [transmitAndReceive_of_clear hclear] at hexchange
    cases hexchange
    exact ⟨.of_eq rfl rfl, .inr (.inl ⟨.inl rfl, h⟩)⟩

end

end SocketInterface

end EtherCat
