import EtherCat.Interface.FallibleDevice
import EtherCat.Interface.Session

/-!
# A single PDU in the PDU interface

`Clear` says that the PDU interface holds nothing.  `Occupied` says that it holds one PDU: the PDU
is still to be sent, or it is in the frame that is out, or it has no data, in which case no frame
ever carries it.  An exchange with a device that may fail keeps the PDU, gives up with an error,
or brings the answer and leaves the interface clear.
-/

namespace EtherCat

open Rust BitField EtherCatPdu

variable {D : Type} [RawEthernetDevice D]

namespace FallibleDevice

/-- All frames but the ones from number `n` on have come back. -/
def ReturnedBelow (dev : FallibleDevice D) (d : D) (n : ℕ) : Prop :=
  ∀ number < n, number ∈ (dev.returned d).map Prod.fst

/-- What the device has done meanwhile: the frames handed over carry nothing but this PDU. -/
structure Evolves (dev : FallibleDevice D) (content : Command × List UInt8) (d d' : D) :
    Prop where
  sent : ∃ frames, dev.sent d' = dev.sent d ++ frames ∧
    ∀ frame ∈ frames, ∀ pdu ∈ datagramsOf frame, (datagram pdu).content = content
  returned : ∃ returns, dev.returned d' = dev.returned d ++ returns

/-- `recv` is the response to a datagram `content` that was sent in a frame from number `start`
on. -/
def Answers (dev : FallibleDevice D) (start : ℕ) (content : Command × List UInt8) (recv : Pdu)
    (d : D) : Prop :=
  ∃ number frame bytes request answer, start ≤ number ∧ (dev.sent d)[number]? = some frame ∧
    (number, bytes) ∈ dev.returned d ∧ Echoes frame bytes ∧
    (request, answer) ∈ (datagramsOf frame).zip (datagramsOf bytes) ∧
    (datagram request).content = content ∧ recv = SocketInterface.response answer

section
variable {dev : FallibleDevice D} {content : Command × List UInt8} {d d' d'' : D}

lemma Evolves.of_eq (hsent : dev.sent d' = dev.sent d) (hreturned : dev.returned d' = dev.returned d) :
    dev.Evolves content d d' where
  sent := ⟨[], by rw [hsent, List.append_nil], fun _ hframe => absurd hframe List.not_mem_nil⟩
  returned := ⟨[], by rw [hreturned, List.append_nil]⟩

lemma Evolves.trans (h : dev.Evolves content d d') (h' : dev.Evolves content d' d'') :
    dev.Evolves content d d'' := by
  obtain ⟨frames, hsent, hframes⟩ := h.sent
  obtain ⟨frames', hsent', hframes'⟩ := h'.sent
  obtain ⟨returns, hreturned⟩ := h.returned
  obtain ⟨returns', hreturned'⟩ := h'.returned
  refine ⟨⟨frames ++ frames', by rw [hsent', hsent, List.append_assoc], ?_⟩,
    ⟨returns ++ returns', by rw [hreturned', hreturned, List.append_assoc]⟩⟩
  intro frame hframe
  rcases List.mem_append.mp hframe with hframe | hframe
  · exact hframes frame hframe
  · exact hframes' frame hframe

lemma Evolves.length_le (h : dev.Evolves content d d') :
    (dev.sent d).length ≤ (dev.sent d').length := by
  obtain ⟨frames, hsent, -⟩ := h.sent
  rw [hsent, List.length_append]
  exact Nat.le_add_right _ _

/-- What was answered stays answered. -/
lemma Answers.mono {start : ℕ} {asked : Command × List UInt8} {recv : Pdu}
    (h : dev.Answers start asked recv d) (hevolves : dev.Evolves content d d') :
    dev.Answers start asked recv d' := by
  obtain ⟨number, frame, bytes, request, answer, hstart, hframe, hbytes, hecho, hzip, hasked,
    hrecv⟩ := h
  obtain ⟨frames, hsent, -⟩ := hevolves.sent
  obtain ⟨returns, hreturned⟩ := hevolves.returned
  refine ⟨number, frame, bytes, request, answer, hstart, ?_, ?_, hecho, hzip, hasked, hrecv⟩
  · rw [hsent, List.getElem?_append_left (List.getElem?_eq_some_iff.mp hframe).1]
    exact hframe
  · rw [hreturned]
    exact List.mem_append_left _ hbytes

end

end FallibleDevice

namespace PduInterface

/-- Nothing in the interface, and every frame has come back. -/
structure Clear (dev : FallibleDevice D) (iface : PduInterface D) : Prop where
  wellSized : iface.WellSized
  pdusTotalSize_eq : iface.pdusTotalSize = 0
  pduCount_eq : iface.pduCount = 0
  txCount_eq : iface.txCount = 0
  recvDataSize_eq : iface.recvDataSize = 0
  returned : dev.ReturnedBelow iface.ethdev (dev.sent iface.ethdev).length

/-- A datagram without data: the walk over the buffer ends in front of it. -/
structure Dataless (iface : PduInterface D) : Prop where
  reads : iface.Reads []
  pduCount_eq : iface.pduCount = 1
  txCount_eq : iface.txCount = 0

/-- A datagram that is to be sent.  Frames from number `start` on were sent in this call. -/
structure Unsent (dev : FallibleDevice D) (start : ℕ) (iface : PduInterface D)
    (pdu : List UInt8) : Prop where
  buffered : iface.Buffered [pdu]
  wellSized : iface.WellSized
  pduCount_eq : iface.pduCount = 1
  txCount_eq : iface.txCount = 0
  recvDataSize_eq : iface.recvDataSize = 0
  start_le : start ≤ (dev.sent iface.ethdev).length
  returned : dev.ReturnedBelow iface.ethdev (dev.sent iface.ethdev).length

/-- A datagram that is out, in the last frame. -/
structure InFlight (dev : FallibleDevice D) (start : ℕ) (iface : PduInterface D)
    (pdu : List UInt8) : Prop where
  buffered : iface.Buffered [pdu]
  wellSized : iface.WellSized
  pduCount_eq : iface.pduCount = 0
  txCount_eq : iface.txCount = 1
  recvDataSize_eq : iface.recvDataSize = 0
  frame : ∃ frames frame, dev.sent iface.ethdev = frames ++ [frame] ∧ start ≤ frames.length ∧
    (datagramsOf frame).map datagram = [datagram pdu] ∧ dev.ReturnedBelow iface.ethdev frames.length

/-- The one PDU in the interface. -/
def Occupied (dev : FallibleDevice D) (start : ℕ) (content : Command × List UInt8)
    (iface : PduInterface D) : Prop :=
  iface.Dataless ∨ ∃ pdu, (datagram pdu).content = content ∧
    (iface.Unsent dev start pdu ∨ iface.InFlight dev start pdu)

section
variable {dev : FallibleDevice D} {start : ℕ} {content : Command × List UInt8}
  {iface iface' : PduInterface D} {pdu : List UInt8}

/-! ## Transmission -/

omit [RawEthernetDevice D] in
lemma Dataless.congr_device (h : iface.Dataless) (d' : D) :
    Dataless { iface with ethdev := d' } :=
  ⟨⟨h.reads.isDatagram, h.reads.total_le, h.reads.toList_eq, h.reads.length_flatten_le⟩,
    h.pduCount_eq, h.txCount_eq⟩

lemma Unsent.congr_device (h : iface.Unsent dev start pdu) {d' : D}
    (hsent : dev.sent d' = dev.sent iface.ethdev)
    (hreturned : dev.returned d' = dev.returned iface.ethdev) :
    Unsent dev start { iface with ethdev := d' } pdu where
  buffered := ⟨h.buffered.isDatagram, h.buffered.buffer_eq, h.buffered.total_eq⟩
  wellSized := ⟨h.wellSized.capacity_le, h.wellSized.capacity_le_max, h.wellSized.total_le⟩
  pduCount_eq := h.pduCount_eq
  txCount_eq := h.txCount_eq
  recvDataSize_eq := h.recvDataSize_eq
  start_le := by
    rw [hsent]
    exact h.start_le
  returned := by
    have hbelow := h.returned
    unfold FallibleDevice.ReturnedBelow at hbelow ⊢
    rw [hsent, hreturned]
    exact hbelow

lemma InFlight.congr_device (h : iface.InFlight dev start pdu) {d' : D}
    (hsent : dev.sent d' = dev.sent iface.ethdev)
    (hreturned : dev.returned d' = dev.returned iface.ethdev) :
    InFlight dev start { iface with ethdev := d' } pdu where
  buffered := ⟨h.buffered.isDatagram, h.buffered.buffer_eq, h.buffered.total_eq⟩
  wellSized := ⟨h.wellSized.capacity_le, h.wellSized.capacity_le_max, h.wellSized.total_le⟩
  pduCount_eq := h.pduCount_eq
  txCount_eq := h.txCount_eq
  recvDataSize_eq := h.recvDataSize_eq
  frame := by
    have hframe := h.frame
    unfold FallibleDevice.ReturnedBelow at hframe ⊢
    rw [hsent, hreturned]
    exact hframe

/-- What a transmission does if something is counted as unsent: the device takes no frame, or fails,
or it takes a frame with the datagrams that are read. -/
lemma transmitOneFrame_cases (dev : FallibleDevice D) {pdus : List (List UInt8)}
    (hreads : iface.Reads pdus)
    (hcount : iface.pduCount ≠ 0) (hle : pdus.length ≤ iface.pduCount)
    {r : Except PhyError Bool} (h : iface.transmitOneFrame = .ok (r, iface')) :
    (dev.sent iface'.ethdev = dev.sent iface.ethdev ∧
        dev.returned iface'.ethdev = dev.returned iface.ethdev ∧
        (r = .error .txNotAvailable ∧ iface' = { iface with ethdev := iface'.ethdev } ∨
          r = .error .txError)) ∨
      ∃ frame, dev.sent iface'.ethdev = dev.sent iface.ethdev ++ [frame] ∧
        dev.returned iface'.ethdev = dev.returned iface.ethdev ∧
        (datagramsOf frame).map datagram = pdus.map datagram ∧
        (r = .error .txError ∨
          r = .ok (decide (¬ iface.txCount + pdus.length < iface.pduCount - pdus.length)) ∧
            iface' = { iface with
              ethdev := iface'.ethdev
              txCount := iface.txCount + pdus.length
              pduCount := iface.pduCount - pdus.length }) := by
  rcases hdev : RawEthernetDevice.transmit iface.ethdev with d' | token
  · rw [transmitOneFrame_of_none hreads hcount hdev] at h
    obtain ⟨hsent, hreturned⟩ := dev.transmit_none hdev
    cases h
    exact .inl ⟨hsent, hreturned, .inl ⟨rfl, rfl⟩⟩
  · rcases dev.transmit_some hdev
      (EthernetFrame.headerSize + EtherCatFrame.headerSize + iface.pdusTotalSize) with
      ⟨e, d', htoken, hsent, hreturned⟩ | ⟨buffer, send, htoken, hlength, hsend⟩
    · simp only [transmitOneFrame, hcount, if_false, hreads.sliceTo_eq, Exec.ok_bind, hdev,
        htoken] at h
      cases h
      exact .inl ⟨hsent, hreturned, .inr rfl⟩
    · obtain ⟨frame, hframeLen, hframe, htransmit⟩ :=
        transmitOneFrame_of_filled hreads hcount hle hdev htoken hlength
      obtain ⟨result, d', hres, hsent, hreturned⟩ := hsend frame hframeLen
      rw [htransmit result d' hres] at h
      cases h
      refine .inr ⟨frame, hsent, hreturned, hframe, ?_⟩
      rcases result with e | u
      · exact .inl rfl
      · exact .inr ⟨rfl, rfl⟩

/-- Frames with these datagrams carry nothing else. -/
lemma evolves_of_frame {d d' : D} {frame : List UInt8} {pdus : List (List UInt8)}
    (hsent : dev.sent d' = dev.sent d ++ [frame]) (hreturned : dev.returned d' = dev.returned d)
    (hframe : (datagramsOf frame).map datagram = pdus.map datagram)
    (hpdus : ∀ pdu ∈ pdus, (datagram pdu).content = content) : dev.Evolves content d d' := by
  refine ⟨⟨[frame], hsent, ?_⟩, ⟨[], by rw [hreturned, List.append_nil]⟩⟩
  simp only [List.forall_mem_singleton]
  intro q hq
  have hmem : datagram q ∈ pdus.map datagram := by
    rw [← hframe]
    exact List.mem_map_of_mem hq
  obtain ⟨p, hp, heq⟩ := List.mem_map.mp hmem
  rw [← heq]
  exact hpdus p hp

/-- **Transmission of the one PDU.** -/
lemma Occupied.transmitOneFrame (h : iface.Occupied dev start content)
    {r : Except PhyError Bool} (htransmit : iface.transmitOneFrame = .ok (r, iface')) :
    dev.Evolves content iface.ethdev iface'.ethdev ∧
      (r = .error .txError ∨ r = .error .txNotAvailable ∧ iface'.Occupied dev start content ∨
        r = .ok false ∧ iface'.Dataless ∨
        r = .ok true ∧ ∃ pdu, (datagram pdu).content = content ∧ iface'.InFlight dev start pdu) := by
  rcases h with hdataless | ⟨pdu, hcontent, hunsent | hflight⟩
  · have hcount : iface.pduCount ≠ 0 := by rw [hdataless.pduCount_eq]; exact Nat.one_ne_zero
    rcases transmitOneFrame_cases dev hdataless.reads hcount (Nat.zero_le _) htransmit with
      ⟨hsent, hreturned, ⟨rfl, hiface⟩ | rfl⟩ | ⟨frame, hsent, hreturned, hframe, rfl | ⟨rfl, hiface⟩⟩
    · refine ⟨.of_eq hsent hreturned, .inr (.inl ⟨rfl, .inl ?_⟩)⟩
      rw [hiface]
      exact hdataless.congr_device _
    · exact ⟨.of_eq hsent hreturned, .inl rfl⟩
    · exact ⟨evolves_of_frame hsent hreturned hframe (by simp), .inl rfl⟩
    · refine ⟨evolves_of_frame hsent hreturned hframe (by simp), .inr (.inr (.inl ⟨?_, ?_⟩))⟩
      · simp [hdataless.pduCount_eq, hdataless.txCount_eq]
      · rw [hiface]
        exact hdataless.congr_device _
  · have hcount : iface.pduCount ≠ 0 := by rw [hunsent.pduCount_eq]; exact Nat.one_ne_zero
    have hpdus : ∀ p ∈ [pdu], (datagram p).content = content := by simpa using hcontent
    rcases transmitOneFrame_cases dev hunsent.buffered.reads hcount
        (by rw [hunsent.pduCount_eq]; exact Nat.le_refl _) htransmit with
      ⟨hsent, hreturned, ⟨rfl, hiface⟩ | rfl⟩ | ⟨frame, hsent, hreturned, hframe, rfl | ⟨rfl, hiface⟩⟩
    · refine ⟨.of_eq hsent hreturned, .inr (.inl ⟨rfl, .inr ⟨pdu, hcontent, .inl ?_⟩⟩)⟩
      rw [hiface]
      exact hunsent.congr_device hsent hreturned
    · exact ⟨.of_eq hsent hreturned, .inl rfl⟩
    · exact ⟨evolves_of_frame hsent hreturned hframe hpdus, .inl rfl⟩
    · refine ⟨evolves_of_frame hsent hreturned hframe hpdus,
        .inr (.inr (.inr ⟨?_, pdu, hcontent, ?_⟩))⟩
      · simp [hunsent.pduCount_eq, hunsent.txCount_eq]
      · have hbelow := hunsent.returned
        have hbuffered := hunsent.buffered
        have hsized := hunsent.wellSized
        rw [hiface]
        exact {
          buffered := ⟨hbuffered.isDatagram, hbuffered.buffer_eq, hbuffered.total_eq⟩
          wellSized := ⟨hsized.capacity_le, hsized.capacity_le_max, hsized.total_le⟩
          pduCount_eq := by simp [hunsent.pduCount_eq]
          txCount_eq := by simp [hunsent.txCount_eq]
          recvDataSize_eq := hunsent.recvDataSize_eq
          frame := by
            refine ⟨_, frame, hsent, hunsent.start_le, by simpa using hframe, ?_⟩
            unfold FallibleDevice.ReturnedBelow at hbelow ⊢
            rw [hreturned]
            exact hbelow }
  · rw [transmitOneFrame_of_zero hflight.pduCount_eq] at htransmit
    cases htransmit
    exact ⟨.of_eq rfl rfl, .inr (.inr (.inr ⟨rfl, pdu, hcontent, hflight⟩))⟩

/-! ## Reception -/

/-- The answer is in the buffer. -/
structure Brought (dev : FallibleDevice D) (start : ℕ) (content : Command × List UInt8)
    (iface : PduInterface D) (answer : List UInt8) : Prop where
  buffered : iface.Buffered [answer]
  wellSized : iface.WellSized
  pduCount_eq : iface.pduCount = 0
  txCount_eq : iface.txCount = 0
  returned : dev.ReturnedBelow iface.ethdev (dev.sent iface.ethdev).length
  answers : dev.Answers start content (SocketInterface.response answer) iface.ethdev
  length_eq : (datagram answer).data.length = content.2.length

/-- A frame whose token fails in the end gives an error. -/
lemma receiveOneFrame_of_failed (hcount : iface.txCount ≠ 0) {bytes : List UInt8}
    {e : DeviceError} {d' : D}
    (hdev : RawEthernetDevice.receive iface.ethdev = .some (.frame bytes (.error e) d'))
    {r : Except PhyError Bool} (h : iface.receiveOneFrame = .ok (r, iface')) :
    r = .error .rxError ∧ iface'.ethdev = d' := by
  simp only [PduInterface.receiveOneFrame, hcount, if_false, hdev] at h
  obtain ⟨source, -, h⟩ := Exec.bind_eq_ok.mp h
  split at h
  all_goals
    obtain ⟨etherType, -, h⟩ := Exec.bind_eq_ok.mp h
    split at h
  case isTrue.isTrue | isFalse.isTrue =>
    obtain ⟨stored, -, h⟩ := Exec.bind_eq_ok.mp h
    cases h
    exact ⟨rfl, rfl⟩
  case isTrue.isFalse | isFalse.isFalse =>
    obtain ⟨ecFrame, -, h⟩ := Exec.bind_eq_ok.mp h
    obtain ⟨pdus, -, h⟩ := Exec.bind_eq_ok.mp h
    obtain ⟨stored, -, h⟩ := Exec.bind_eq_ok.mp h
    cases h
    exact ⟨rfl, rfl⟩

/-- The datagram of a frame that carries only one, and its answer. -/
lemma answers_of_echoes {frames : List (List UInt8)} {frame bytes answer : List UInt8} {d d' : D}
    (hsent : dev.sent d' = frames ++ [frame]) (hstart : start ≤ frames.length)
    (hframe : (datagramsOf frame).map datagram = [datagram pdu])
    (hcontent : (datagram pdu).content = content) (hecho : Echoes frame bytes)
    (hreturned : dev.returned d' = dev.returned d ++ [(frames.length, bytes)])
    (hbytes : datagramsOf bytes = [answer]) :
    dev.Answers start content (SocketInterface.response answer) d' := by
  obtain ⟨request, hrequest, hsame⟩ := List.map_eq_singleton_iff.mp hframe
  refine ⟨frames.length, frame, bytes, request, answer, hstart, by simp [hsent], by simp [hreturned],
    hecho, by simp [hrequest, hbytes], ?_, rfl⟩
  rw [hsame]
  exact hcontent

/-- **Reception while the PDU is out.** -/
lemma InFlight.receiveOneFrame (h : iface.InFlight dev start pdu)
    (hcontent : (datagram pdu).content = content) {r : Except PhyError Bool}
    (hreceive : iface.receiveOneFrame = .ok (r, iface')) :
    dev.Evolves content iface.ethdev iface'.ethdev ∧
      (r = .error .rxError ∨
        (r = .error .rxNotAvailable ∨ r = .ok false) ∧ iface'.InFlight dev start pdu ∨
        r = .ok true ∧ ∃ answer, iface'.Brought dev start content answer) := by
  obtain ⟨frames, frame, hsent, hstart, hframe, hbelow⟩ := h.frame
  have hcount : iface.txCount ≠ 0 := by rw [h.txCount_eq]; exact Nat.one_ne_zero
  rcases hdev : RawEthernetDevice.receive iface.ethdev with d' | token
  · obtain ⟨hsent', hreturned'⟩ := dev.receive_none hdev
    rw [receiveOneFrame_of_none hcount hdev] at hreceive
    cases hreceive
    exact ⟨.of_eq hsent' hreturned', .inr (.inl ⟨.inl rfl, h.congr_device hsent' hreturned'⟩)⟩
  rcases dev.receive_some hdev with
    ⟨e, d', rfl, hsent', hreturned'⟩ | ⟨bytes, result, d', rfl, hsent', hcases⟩
  · simp only [PduInterface.receiveOneFrame, hcount, if_false, hdev] at hreceive
    cases hreceive
    exact ⟨.of_eq hsent' hreturned', .inl rfl⟩
  rcases result with e | u
  · -- the token fails in the end, whatever it handed over
    obtain ⟨rfl, rfl⟩ := receiveOneFrame_of_failed hcount hdev hreceive
    refine ⟨⟨⟨[], by rw [hsent', List.append_nil], by simp⟩, ?_⟩, .inl rfl⟩
    rcases hcases with ⟨-, hreturned'⟩ | ⟨number, frame', -, -, -, hreturned'⟩
    · exact ⟨[], by rw [hreturned', List.append_nil]⟩
    · exact ⟨_, hreturned'⟩
  rcases hcases with ⟨hforeign, hreturned'⟩ | ⟨number, frame', hnumber, hnew, hecho, hreturned'⟩
  · rw [receiveOneFrame_of_foreign hcount hdev hforeign] at hreceive
    cases hreceive
    exact ⟨.of_eq hsent' hreturned', .inr (.inl ⟨.inr rfl, h.congr_device hsent' hreturned'⟩)⟩
  -- only the last frame is still out
  have hlast : number = frames.length := by
    have hlt := (List.getElem?_eq_some_iff.mp hnumber).1
    rw [hsent, List.length_append, List.length_singleton] at hlt
    by_contra hne
    exact hnew (hbelow number (by omega))
  subst hlast
  have hsame : frame' = frame := by
    rw [hsent] at hnumber
    simpa using hnumber.symm
  subst hsame
  have hsized := h.wellSized
  have hbuffered : iface.Buffered ([pdu] ++ []) := h.buffered
  obtain ⟨buffer, hreceive', hlength, hbuffered⟩ := receiveOneFrame_of_echo hbuffered
    h.recvDataSize_eq h.txCount_eq hcount hdev hecho hframe
  rw [hreceive'] at hreceive
  cases hreceive
  refine ⟨⟨⟨[], by rw [hsent', List.append_nil], by simp⟩, ⟨_, hreturned'⟩⟩, .inr (.inr ⟨rfl, ?_⟩)⟩
  obtain ⟨request, hrequest, hsame⟩ := List.map_eq_singleton_iff.mp hframe
  have hcard : (datagramsOf bytes).length = 1 := by
    rw [hecho.length_datagramsOf, hrequest]
    rfl
  obtain ⟨answer, hanswer⟩ := List.length_eq_one_iff.mp hcard
  refine ⟨answer, ?_⟩
  exact {
    buffered := by
      rw [hanswer] at hbuffered
      exact hbuffered
    wellSized := ⟨by rw [hlength]; exact hsized.capacity_le, hsized.capacity_le_max, hsized.total_le⟩
    pduCount_eq := h.pduCount_eq
    txCount_eq := rfl
    returned := by
      intro n hn
      show n ∈ (dev.returned d').map Prod.fst
      simp only [hsent', hsent, List.length_append, List.length_singleton] at hn
      rw [hreturned', List.map_append, List.mem_append]
      rcases Nat.lt_succ_iff_lt_or_eq.mp hn with hn | rfl
      · exact .inl (hbelow n hn)
      · exact .inr (by simp)
    answers := answers_of_echoes (hsent'.trans hsent) hstart hframe hcontent hecho hreturned' hanswer
    length_eq := by
      have hforall := hecho.answers
      rw [hrequest, hanswer, List.forall₂_cons] at hforall
      have hrequest' : IsDatagram request :=
        forall_isDatagram_datagramsOf _ request (by rw [hrequest]; exact List.mem_singleton_self _)
      have hanswer' : IsDatagram answer :=
        forall_isDatagram_datagramsOf _ answer (by rw [hanswer]; exact List.mem_singleton_self _)
      rw [← hcontent, hanswer'.length_data, hforall.1.2, ← hrequest'.length_data, hsame]
      rfl }

end

end PduInterface

end EtherCat
