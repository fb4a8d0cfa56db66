import EtherCat.Interface.PduIf
import EtherCat.Interface.ReturningDevice

/-!
# What the PDU interface does to its datagrams

`Buffered iface pdus` says that the datagrams `pdus` lie end to end at the start of the buffer
and that nothing else counts as buffered.  Each operation has one lemma in these terms: `addPdu`
appends a datagram, `fillFrame` moves all of them into a frame, `storePdus` writes the returned
ones over them, and reading the buffer back gives them again.
-/

namespace EtherCat

open Rust BitField EtherCatPdu

namespace PduInterface

variable {D : Type}

/-- The datagrams of the buffer, end to end from its start. -/
structure Buffered (iface : PduInterface D) (pdus : List (List UInt8)) : Prop where
  isDatagram : ∀ pdu ∈ pdus, IsDatagram pdu
  buffer_eq : ∃ rest, iface.buffer = pdus.flatten ++ rest
  total_eq : iface.pdusTotalSize = pdus.flatten.length

/-- The bounds the constructor sets up. -/
structure WellSized (iface : PduInterface D) : Prop where
  capacity_le : iface.capacity ≤ iface.buffer.length
  capacity_le_max : iface.capacity ≤ maxEthercatDatagram
  total_le : iface.pdusTotalSize ≤ iface.capacity

lemma new_wellSized (ethdev : D) (buffer : List UInt8) : (new ethdev buffer).WellSized where
  capacity_le := Nat.min_le_left ..
  capacity_le_max := Nat.min_le_right ..
  total_le := Nat.zero_le _

lemma new_buffered (ethdev : D) (buffer : List UInt8) : (new ethdev buffer).Buffered [] where
  isDatagram := by simp
  buffer_eq := ⟨buffer, rfl⟩
  total_eq := rfl

/-- Reading the buffer gives back what it holds. -/
lemma Buffered.toList_eq {iface : PduInterface D} {pdus : List (List UInt8)}
    (h : iface.Buffered pdus) :
    (EtherCatPdus.new iface.buffer iface.pdusTotalSize 0).toList = .ok pdus := by
  obtain ⟨rest, hbuffer⟩ := h.buffer_eq
  have hread := EtherCatPdus.toList_flatten [] rest iface.pdusTotalSize h.isDatagram
    (by simp [h.total_eq])
    (.inr (by simp [h.total_eq]))
  rw [List.nil_append, ← hbuffer] at hread
  exact hread

/-! ## Accepting a datagram -/

lemma newHeader_eq (pduIndex : UInt8) (command : Command) (data : List UInt8) (dataSize : ℕ)
    (hsize : dataSize = data.length) (hdata : data.length < 2 ^ 11) :
    ∃ header, newHeader pduIndex command dataSize = .ok header ∧
      header.length = headerSize ∧
      ∀ a ∈ headerOf ⟨pduIndex, command.cType, command.adp, command.ado, data⟩,
        a.1.val header = a.2 := by
  let zeros := List.replicate headerSize (0 : UInt8)
  let assignments := headerOf ⟨pduIndex, command.cType, command.adp, command.ado, data⟩
  have hfit : ∀ f ∈ assignments.map Prod.fst, f.Fits zeros := by
    intro f hf
    exact fits (by simp [zeros]) (headerOf_msb _ f hf)
  have hmod : dataSize % 65536 = data.length := by omega
  refine ⟨Field.putAll zeros assignments, ?_, by simp [zeros], ?_⟩
  · simp only [assignments, headerOf, List.map_cons, List.map_nil, List.forall_mem_cons] at hfit
    simp only [zeros] at hfit
    simp [newHeader, hmod, assignments, headerOf, hfit, zeros]
  · intro a ha
    have hdis : (assignments.map Prod.fst).Pairwise Field.Disjoint := by
      simp only [assignments, headerOf, List.map_cons, List.map_nil]
      decide
    rw [Field.val_putAll_of_mem hfit hdis ha]
    have hindex := pduIndex.toNat_lt
    have hcommand := command.cType.toU8.toNat_lt
    have hadp := command.adp.toNat_lt
    have hado := command.ado.toNat_lt
    simp only [headerOf, List.mem_cons, List.not_mem_nil, or_false] at ha
    rcases ha with rfl | rfl | rfl | rfl | rfl
    · exact Nat.mod_eq_of_lt hindex
    · exact Nat.mod_eq_of_lt hcommand
    · exact Nat.mod_eq_of_lt hadp
    · exact Nat.mod_eq_of_lt hado
    · exact Nat.mod_eq_of_lt hdata

/-- **`add_pdu` appends one datagram.**  When it accepts data that the writer copies from `data`,
the new datagram carries the index, the command and the data, and the ones before it are
untouched. -/
theorem addPdu_eq_ok {iface iface' : PduInterface D} {pdus : List (List UInt8)}
    (hbuf : iface.Buffered pdus) (hsize : iface.WellSized) {pduIndex : UInt8} {command : Command}
    {dataSize : ℕ} {dataWriter : SliceWriter UInt8} (data : List UInt8)
    (hdata : data.length = dataSize) (hpos : 0 < dataSize)
    (hwriter : ∀ target, target.length = dataSize → dataWriter.run target = data)
    (h : iface.addPdu pduIndex command dataSize dataWriter = .ok (.ok (), iface')) :
    ∃ pdu, datagram pdu = ⟨pduIndex, command.cType, command.adp, command.ado, data⟩ ∧
      iface'.Buffered (pdus ++ [pdu]) ∧ iface'.WellSized ∧
      iface' = { iface with
        buffer := iface'.buffer
        pdusTotalSize := iface.pdusTotalSize + (headerSize + dataSize + wkcLength)
        pduCount := iface.pduCount + 1 } ∧
      iface'.buffer.length = iface.buffer.length := by
  unfold addPdu at h
  split at h
  · simp at h
  rename_i hroom
  split at h
  · simp at h
  rename_i hmax
  have hmax' : maxPduDatagram = 1486 := rfl
  obtain ⟨header, hheader, hheaderLen, hvals⟩ :=
    newHeader_eq pduIndex command data dataSize hdata.symm (by omega)
  obtain ⟨rest, hbuffer⟩ := hbuf.buffer_eq
  have hcap := hsize.capacity_le
  have htotal := hbuf.total_eq
  have hh : headerSize = 10 := rfl
  have hw : wkcLength = 2 := rfl
  have hblen : iface.buffer.length = pdus.flatten.length + rest.length := by
    rw [hbuffer, List.length_append]
  -- the header, the data and the two zeroed bytes, one after the other
  simp only [hheader, Exec.ok_bind, hbuffer] at h
  obtain ⟨b₁, h₁, h⟩ := Exec.bind_eq_ok.mp h
  obtain ⟨hle₁, rfl⟩ := copyFromSlice_eq_ok_iff.mp h₁
  rw [splice_append htotal] at h
  obtain ⟨target, htarget, h⟩ := Exec.bind_eq_ok.mp h
  obtain ⟨⟨-, hle₂⟩, rfl⟩ := slice_eq_ok_iff.mp htarget
  rw [hwriter _ (by simp only [List.length_drop, List.length_take]; omega)] at h
  obtain ⟨b₂, h₂, h⟩ := Exec.bind_eq_ok.mp h
  obtain ⟨hle₃, rfl⟩ := copyFromSlice_eq_ok_iff.mp h₂
  rw [splice_append (by rw [List.length_append, hheaderLen, htotal])] at h
  set tail := (rest.drop header.length).drop data.length with htail
  have hpre : (pdus.flatten ++ header ++ data).length =
      iface.pdusTotalSize + headerSize + dataSize := by
    simp only [List.length_append, hheaderLen, hdata, htotal]
  obtain ⟨b₃, h₃, h⟩ := Exec.bind_eq_ok.mp h
  obtain ⟨hlt₃, rfl⟩ := setIndex_eq_ok_iff.mp h₃
  rw [List.set_append_right _ _ (by omega)] at h
  obtain ⟨b₄, h₄, h⟩ := Exec.bind_eq_ok.mp h
  obtain ⟨hlt₄, rfl⟩ := setIndex_eq_ok_iff.mp h₄
  rw [List.set_append_right _ _ (by omega)] at h
  set tail' := (tail.set _ 0).set _ (0 : UInt8)
  simp only [List.length_append, List.length_set] at hlt₄
  have htail' : tail'.length = tail.length := by simp [tail']
  have htailLen : tail.length + headerSize + dataSize = rest.length := by
    simp only [htail, List.length_drop, hheaderLen, hdata]
    simp only [List.length_append] at hle₁ hpre
    omega
  simp only [Except.ok.injEq, Prod.mk.injEq, true_and] at h
  subst h
  have hwkc : (tail'.take wkcLength).length = wkcLength := by
    simp only [List.length_take, List.length_append] at hlt₄ hpre ⊢
    omega
  obtain ⟨hpdu, hdatagram⟩ := datagram_of_header hheaderLen hwkc hvals
    (by simp only [hdata]; exact hpos)
  have hpduLen : (header ++ data ++ tail'.take wkcLength).length =
      headerSize + dataSize + wkcLength := by
    simp only [List.length_append, hheaderLen, hdata, hwkc]
  refine ⟨_, hdatagram, ⟨?_, ⟨tail'.drop wkcLength, ?_⟩, ?_⟩, ⟨?_, hsize.capacity_le_max, ?_⟩,
    rfl, ?_⟩
  · intro pdu hmem
    rcases List.mem_append.mp hmem with hmem | hmem
    · exact hbuf.isDatagram pdu hmem
    · rw [List.mem_singleton.mp hmem]
      exact hpdu
  · simp
  · simp only [List.flatten_append, List.length_append, List.flatten_singleton, htotal]
    simp only [List.length_append] at hpduLen
    omega
  · simp only [List.length_append] at hpre ⊢
    omega
  · show iface.pdusTotalSize + (headerSize + dataSize + wkcLength) ≤ iface.capacity
    omega
  · simp only [List.length_append] at hpre ⊢
    omega

/-! ## Filling a frame -/

/-- The fields of a datagram, as the transmit closure reads them. -/
lemma data_of_isDatagram {pdu : List UInt8} (h : IsDatagram pdu) :
    withoutHeader pdu = .ok (pdu.drop headerSize) ∧
      sliceTo (pdu.drop headerSize) (length.val pdu) = .ok (datagram pdu).data := by
  have hle := h.headerSize_le
  have hlen := h.2
  refine ⟨sliceFrom_eq_ok_iff.mpr ⟨hle, rfl⟩, sliceTo_eq_ok_iff.mpr ⟨?_, rfl⟩⟩
  rw [List.length_drop]
  omega

/-- One round of the transmit closure's loop. -/
lemma fillFrame_cons {pdu : List UInt8} (pdus : List (List UInt8)) {ecFrame : EtherCatFrameUtil}
    {ds : List Datagram} {room : ℕ} (txCount pduCount : ℕ) (hpdu : IsDatagram pdu)
    (hframe : ecFrame.Holds ds room) (hroom : pdu.length ≤ room) :
    ∃ ecFrame', ecFrame'.Holds (ds ++ [datagram pdu]) (room - pdu.length) ∧
      fillFrame (pdu :: pdus) ecFrame txCount pduCount =
        (Exec.sub pduCount 1).bind fun pduCount => fillFrame pdus ecFrame' (txCount + 1) pduCount := by
  have hle := hpdu.headerSize_le
  have hfit : ∀ f : Field, f.msb / 8 < headerSize → f.get pdu = .ok (f.val pdu) :=
    fun f hf => Field.get_of_fits (fits hle hf)
  obtain ⟨hwithout, hdata⟩ := data_of_isDatagram hpdu
  have hlt : length.val pdu < 2 ^ 11 := Field.val_lt length pdu
  obtain ⟨ecFrame', hadd, hholds⟩ := EtherCatFrameUtil.addCommand_holds hframe (datagram pdu)
    (by rw [hpdu.length_data]; exact hpdu.1) (by rw [hpdu.length_data]; exact hlt)
    (by rw [← hpdu.length_eq]; exact hroom)
  refine ⟨ecFrame', by rwa [← hpdu.length_eq] at hholds, ?_⟩
  have hadd' : ecFrame.addCommand (.ofU8 (UInt8.ofNat (commandType.val pdu)))
      (UInt16.ofNat (adp.val pdu)) (UInt16.ofNat (ado.val pdu)) (datagram pdu).data
      (some (UInt8.ofNat (index.val pdu))) = .ok (true, ecFrame') := hadd
  rw [fillFrame, hfit _ (by decide), hfit _ (by decide), hfit _ (by decide), hfit _ (by decide),
    hfit _ (by decide)]
  simp only [Exec.ok_bind, hwithout, hdata, hadd']
  rfl

/-- **Every datagram goes into the frame**, in order, and is counted. -/
theorem fillFrame_eq {pdus : List (List UInt8)} {ecFrame : EtherCatFrameUtil}
    {ds : List Datagram} {room : ℕ} (txCount pduCount : ℕ) (hpdus : ∀ pdu ∈ pdus, IsDatagram pdu)
    (hframe : ecFrame.Holds ds room) (hroom : pdus.flatten.length ≤ room)
    (hcount : pdus.length ≤ pduCount) :
    ∃ ecFrame', ecFrame'.Holds (ds ++ pdus.map datagram) (room - pdus.flatten.length) ∧
      fillFrame pdus ecFrame txCount pduCount =
        .ok (ecFrame', txCount + pdus.length, pduCount - pdus.length) := by
  induction pdus generalizing ecFrame ds room txCount pduCount with
  | nil => exact ⟨ecFrame, by simpa using hframe, rfl⟩
  | cons pdu pdus ih =>
      simp only [List.forall_mem_cons] at hpdus
      simp only [List.flatten_cons, List.length_append, List.length_cons] at hroom hcount
      obtain ⟨frame₁, hholds₁, hstep⟩ :=
        fillFrame_cons pdus txCount pduCount hpdus.1 hframe
          (by omega)
      obtain ⟨frame₂, hholds₂, hrest⟩ :=
        ih (txCount + 1) (pduCount - 1) hpdus.2 hholds₁ (by omega) (by omega)
      refine ⟨frame₂, ?_, ?_⟩
      · simpa [Nat.sub_sub] using hholds₂
      · rw [hstep, Exec.sub_of_le (by omega)]
        simp only [Except.bind, hrest, List.length_cons, Except.ok.injEq, Prod.mk.injEq, true_and]
        omega

/-- A frame that would take more datagrams than are counted makes the counter underflow. -/
theorem fillFrame_underflow {pdus : List (List UInt8)} {ecFrame : EtherCatFrameUtil}
    {ds : List Datagram} {room : ℕ} (txCount pduCount : ℕ) (hpdus : ∀ pdu ∈ pdus, IsDatagram pdu)
    (hframe : ecFrame.Holds ds room) (hroom : pdus.flatten.length ≤ room)
    (hcount : pduCount < pdus.length) :
    fillFrame pdus ecFrame txCount pduCount = .error .arithmetic := by
  induction pdus generalizing ecFrame ds room txCount pduCount with
  | nil => simp at hcount
  | cons pdu pdus ih =>
      simp only [List.forall_mem_cons] at hpdus
      simp only [List.flatten_cons, List.length_append, List.length_cons] at hroom hcount
      obtain ⟨frame₁, hholds₁, hstep⟩ :=
        fillFrame_cons pdus txCount pduCount hpdus.1 hframe
          (by omega)
      rw [hstep]
      by_cases hzero : pduCount = 0
      · simp [hzero, Exec.sub, Exec.check, Except.bind]
      · rw [Exec.sub_of_le (by omega)]
        exact ih _ _ hpdus.2 hholds₁ (by omega) (by omega)

/-! ## Storing what came back -/

/-- **The returned datagrams are written end to end** from the receive offset on. -/
theorem storePdus_eq {pdus : List (List UInt8)} (pre rest : List UInt8)
    (recvDataSize txCount : ℕ) (hpdus : ∀ pdu ∈ pdus, IsDatagram pdu)
    (hrecv : recvDataSize = pre.length)
    (hroom : pdus.flatten.length ≤ rest.length) (hcount : pdus.length ≤ txCount) :
    storePdus pdus (pre ++ rest) recvDataSize txCount =
      .ok (pre ++ pdus.flatten ++ rest.drop pdus.flatten.length,
        recvDataSize + pdus.flatten.length, txCount - pdus.length) := by
  induction pdus generalizing pre rest recvDataSize txCount with
  | nil => simp [storePdus]
  | cons pdu pdus ih =>
      simp only [List.forall_mem_cons] at hpdus
      simp only [List.flatten_cons, List.length_append, List.length_cons] at hroom hcount
      have hpdu := hpdus.1
      have hlen := hpdu.2
      have hget : EtherCatPdu.length.get pdu = .ok (EtherCatPdu.length.val pdu) :=
        Field.get_of_fits (fits hpdu.headerSize_le (by decide))
      have hslice : slice (pre ++ rest) recvDataSize (recvDataSize + pdu.length) =
          .ok (rest.take pdu.length) := by
        refine slice_eq_ok_iff.mpr ⟨⟨by omega, by simp [hrecv]; omega⟩, ?_⟩
        simp [hrecv, List.take_append]
      have hcopy : copyFromSlice (pre ++ rest) recvDataSize pdu =
          .ok (pre ++ pdu ++ rest.drop pdu.length) := by
        refine copyFromSlice_eq_ok_iff.mpr ⟨by simp [hrecv]; omega, ?_⟩
        rw [splice_append hrecv]
      have hcheck : (rest.take pdu.length).length = pdu.length := by
        rw [List.length_take]
        omega
      have hrest := ih (pre ++ pdu) (rest.drop pdu.length) (recvDataSize + pdu.length)
        (txCount - 1) hpdus.2
        (by simp [hrecv]) (by rw [List.length_drop]; omega) (by omega)
      rw [storePdus, hget]
      simp only [Exec.ok_bind, ← hlen, hslice, Exec.check_of hcheck, hcopy,
        Exec.sub_of_le (show 1 ≤ txCount by omega), hrest]
      simp only [List.flatten_cons, List.append_assoc, List.drop_drop, List.length_append,
        List.length_cons, Except.ok.injEq, Prod.mk.injEq, true_and]
      omega

/-! ## Transmitting and receiving -/

/-- Datagrams that say the same are as long as each other. -/
lemma length_flatten_eq {ps qs : List (List UInt8)} (hps : ∀ p ∈ ps, IsDatagram p)
    (hqs : ∀ q ∈ qs, IsDatagram q) (h : ps.map datagram = qs.map datagram) :
    ps.flatten.length = qs.flatten.length := by
  have hsize : ∀ l : List (List UInt8), (∀ p ∈ l, IsDatagram p) →
      l.map List.length =
        (l.map datagram).map (fun d => headerSize + d.data.length + wkcLength) := by
    intro l hl
    rw [List.map_map]
    exact List.map_congr_left fun p hp => (hl p hp).length_eq
  rw [List.length_flatten, List.length_flatten, hsize ps hps, hsize qs hqs, h]

/-- What the transmit closure reads: the datagrams in the used part of the buffer. -/
structure Reads (iface : PduInterface D) (pdus : List (List UInt8)) : Prop where
  isDatagram : ∀ pdu ∈ pdus, IsDatagram pdu
  total_le : iface.pdusTotalSize ≤ iface.buffer.length
  toList_eq : (EtherCatPdus.new (iface.buffer.take iface.pdusTotalSize) iface.pdusTotalSize
    0).toList = .ok pdus
  length_flatten_le : pdus.flatten.length ≤ iface.pdusTotalSize

lemma Buffered.reads {iface : PduInterface D} {pdus : List (List UInt8)}
    (h : iface.Buffered pdus) : iface.Reads pdus := by
  obtain ⟨rest, hbuffer⟩ := h.buffer_eq
  have htotal := h.total_eq
  refine ⟨h.isDatagram, by rw [hbuffer, htotal]; simp, ?_, htotal.ge⟩
  have hread := EtherCatPdus.toList_flatten [] [] iface.pdusTotalSize h.isDatagram
    (by simp [htotal]) (.inl endsWalk_nil)
  rw [List.nil_append, List.append_nil] at hread
  rw [hbuffer, htotal, List.take_left, ← htotal]
  exact hread

lemma Reads.sliceTo_eq {iface : PduInterface D} {pdus : List (List UInt8)}
    (h : iface.Reads pdus) :
    sliceTo iface.buffer iface.pdusTotalSize = .ok (iface.buffer.take iface.pdusTotalSize) :=
  sliceTo_eq_ok_iff.mpr ⟨h.total_le, rfl⟩

/-- The frame the transmit closure starts from has room for everything in the buffer. -/
lemma buildFrame (iface : PduInterface D) {txBuffer : List UInt8}
    (hlen : txBuffer.length = frameHeaderSize + iface.pdusTotalSize) :
    ∃ ecFrame₀ ecFrame, EtherCatFrameUtil.newUnchecked txBuffer = .ok ecFrame₀ ∧
      ecFrame₀.init = .ok ecFrame ∧ ecFrame.Holds [] iface.pdusTotalSize := by
  have hsize : frameHeaderSize = 16 := rfl
  have hfrom : sliceFrom txBuffer EthernetFrame.headerSize = .ok (txBuffer.drop 14) :=
    sliceFrom_eq_ok_iff.mpr ⟨by simp only [EthernetFrame.headerSize]; omega, rfl⟩
  have hfit : EtherCatFrame.length.Fits (txBuffer.drop 14) :=
    Field.fits_of_le (n := 2) (by decide) (by rw [List.length_drop]; omega)
  have hnew : EtherCatFrameUtil.newUnchecked txBuffer =
      .ok ⟨txBuffer, frameHeaderSize + EtherCatFrame.length.val (txBuffer.drop 14), 0⟩ := by
    simp only [EtherCatFrameUtil.newUnchecked, hfrom, Exec.ok_bind, Field.get_of_fits hfit]
  obtain ⟨ecFrame, hinit, hholds⟩ := EtherCatFrameUtil.init_holds
    ⟨txBuffer, frameHeaderSize + EtherCatFrame.length.val (txBuffer.drop 14), 0⟩
    iface.pdusTotalSize hlen
  exact ⟨_, ecFrame, hnew, hinit, hholds⟩

section
variable [RawEthernetDevice D] {iface : PduInterface D} {pdus : List (List UInt8)}

lemma transmitOneFrame_of_zero (h : iface.pduCount = 0) :
    iface.transmitOneFrame = .ok (.ok true, iface) := by
  simp [transmitOneFrame, h]

lemma transmitOneFrame_of_none (hreads : iface.Reads pdus) (hcount : iface.pduCount ≠ 0)
    {d' : D} (h : RawEthernetDevice.transmit iface.ethdev = .none d') :
    iface.transmitOneFrame = .ok (.error .txNotAvailable, { iface with ethdev := d' }) := by
  simp only [transmitOneFrame, hcount, if_false, hreads.sliceTo_eq, Exec.ok_bind, h]

/-- **A frame takes every datagram that is read.**  It is handed over with the datagrams in order,
and the counters move by their number, provided that so many are counted as unsent. -/
theorem transmitOneFrame_of_filled (hreads : iface.Reads pdus) (hcount : iface.pduCount ≠ 0)
    (hle : pdus.length ≤ iface.pduCount) {token : TxToken D}
    (h : RawEthernetDevice.transmit iface.ethdev = .some token) {txBuffer : List UInt8}
    {send : List UInt8 → Except DeviceError Unit × D}
    (htoken : token (EthernetFrame.headerSize + EtherCatFrame.headerSize + iface.pdusTotalSize) =
      .filled txBuffer send)
    (hlen : txBuffer.length =
      EthernetFrame.headerSize + EtherCatFrame.headerSize + iface.pdusTotalSize) :
    ∃ frame, frame.length =
        EthernetFrame.headerSize + EtherCatFrame.headerSize + iface.pdusTotalSize ∧
      (datagramsOf frame).map datagram = pdus.map datagram ∧
      ∀ r d', send frame = (r, d') → iface.transmitOneFrame =
        .ok ((r.map fun _ =>
            decide (¬ iface.txCount + pdus.length < iface.pduCount - pdus.length)).mapError
              fun _ => .txError,
          { iface with
            ethdev := d'
            txCount := iface.txCount + pdus.length
            pduCount := iface.pduCount - pdus.length }) := by
  obtain ⟨ecFrame₀, ecFrame, hnew, hinit, hholds⟩ := buildFrame iface hlen
  obtain ⟨ecFrame', hholds', hfill⟩ := fillFrame_eq iface.txCount _ hreads.isDatagram
    hholds hreads.length_flatten_le hle
  refine ⟨ecFrame'.buffer, ?_, ?_, ?_⟩
  · have hl := EtherCatFrameUtil.length_buffer_of_holds hholds'
    obtain ⟨header, qs, hheader, -, hfree, hqs, hds⟩ := hholds'
    have hflat := length_flatten_eq hqs hreads.isDatagram (by simpa using hds)
    have hf : frameHeaderSize = 16 := rfl
    have hfits := hreads.length_flatten_le
    simp only [List.length_append] at hfree
    simp only [EthernetFrame.headerSize, EtherCatFrame.headerSize]
    omega
  · obtain ⟨qs, hqs, -, hqsmap⟩ := EtherCatFrameUtil.dlpdus_of_holds hholds'
    rw [datagramsOf_eq hqs]
    simpa using hqsmap
  · intro r d' hsend
    rcases r with e | u <;>
      simp only [transmitOneFrame, hcount, if_false, hreads.sliceTo_eq, Exec.ok_bind, h, htoken,
        hnew, hinit, hreads.toList_eq, hfill, hsend, Except.map, Except.mapError]

/-- A device that returns its frames takes the frame. -/
theorem transmitOneFrame_of_some (dev : ReturningDevice D) (hbuf : iface.Buffered pdus)
    (hcount : iface.pduCount ≠ 0) (hle : pdus.length ≤ iface.pduCount) {token : TxToken D}
    (h : RawEthernetDevice.transmit iface.ethdev = .some token) :
    ∃ frame d', dev.sent d' = dev.sent iface.ethdev ++ [frame] ∧
      dev.returned d' = dev.returned iface.ethdev ∧
      (datagramsOf frame).map datagram = pdus.map datagram ∧
      iface.transmitOneFrame =
        .ok (.ok (decide (¬ iface.txCount + pdus.length < iface.pduCount - pdus.length)),
          { iface with
            ethdev := d'
            txCount := iface.txCount + pdus.length
            pduCount := iface.pduCount - pdus.length }) := by
  obtain ⟨txBuffer, send, htoken, hlen, hsend⟩ :=
    dev.transmit_some h (EthernetFrame.headerSize + EtherCatFrame.headerSize + iface.pdusTotalSize)
  obtain ⟨frame, hframeLen, hframe, htransmit⟩ :=
    transmitOneFrame_of_filled hbuf.reads hcount hle h htoken hlen
  obtain ⟨d', hres, hsent, hreturned⟩ := hsend frame hframeLen
  exact ⟨frame, d', hsent, hreturned, hframe, htransmit _ d' hres⟩

/-- **The counter underflow.**  A frame that is built while some of the buffered datagrams are
already on their way takes these again, and the count of unsent datagrams runs below zero. -/
theorem transmitOneFrame_underflow (dev : ReturningDevice D) (hbuf : iface.Buffered pdus)
    (hcount : iface.pduCount ≠ 0) (hlt : iface.pduCount < pdus.length) {token : TxToken D}
    (h : RawEthernetDevice.transmit iface.ethdev = .some token) :
    iface.transmitOneFrame = .error .arithmetic := by
  obtain ⟨txBuffer, send, htoken, hlen, -⟩ :=
    dev.transmit_some h (EthernetFrame.headerSize + EtherCatFrame.headerSize + iface.pdusTotalSize)
  have hreads := hbuf.reads
  obtain ⟨ecFrame₀, ecFrame, hnew, hinit, hholds⟩ := buildFrame iface hlen
  have hfill := fillFrame_underflow iface.txCount _ hreads.isDatagram hholds
    hreads.length_flatten_le hlt
  simp only [transmitOneFrame, hcount, if_false, hreads.sliceTo_eq, Exec.ok_bind, h, htoken, hnew,
    hinit, hreads.toList_eq, hfill, Exec.error_bind]

lemma receiveOneFrame_of_zero (h : iface.txCount = 0) :
    iface.receiveOneFrame = .ok (.ok true, iface) := by
  simp [receiveOneFrame, h]

lemma receiveOneFrame_of_none (hcount : iface.txCount ≠ 0) {d' : D}
    (h : RawEthernetDevice.receive iface.ethdev = .none d') :
    iface.receiveOneFrame = .ok (.error .rxNotAvailable, { iface with ethdev := d' }) := by
  simp only [receiveOneFrame, hcount, if_false, h]

/-- Another station's frame is skipped. -/
lemma receiveOneFrame_of_foreign (hcount : iface.txCount ≠ 0) {bytes : List UInt8} {d' : D}
    (h : RawEthernetDevice.receive iface.ethdev = .some (.frame bytes (.ok ()) d'))
    (hforeign : Foreign bytes) :
    iface.receiveOneFrame = .ok (.ok false, { iface with ethdev := d' }) := by
  obtain ⟨hlen, hskip⟩ := hforeign
  have hsource : EthernetFrame.source.get bytes = .ok (EthernetFrame.source.val bytes) :=
    Field.get_of_fits (Field.fits_of_le (by decide) hlen)
  have htype : EthernetFrame.etherType.get bytes = .ok (EthernetFrame.etherType.val bytes) :=
    Field.get_of_fits (Field.fits_of_le (by decide) hlen)
  have hpos : 0 < iface.txCount := Nat.pos_of_ne_zero hcount
  simp only [receiveOneFrame, hcount, if_false, h, hsource, htype, Exec.ok_bind]
  by_cases hs : EthernetFrame.source.val bytes = srcMac
  · simp [hs, hpos]
  · have ht : EthernetFrame.etherType.val bytes ≠ ethercatType := hskip.resolve_left hs
    simp [hs, ht, hpos]

/-- **The returned datagrams take the place of those that were sent**, and what was buffered
behind them stays. -/
theorem receiveOneFrame_of_echo {front back : List (List UInt8)}
    (hbuf : iface.Buffered (front ++ back)) (hrecv : iface.recvDataSize = 0)
    (hcount : iface.txCount = front.length) (hne : iface.txCount ≠ 0)
    {frame bytes : List UInt8} {d' : D}
    (h : RawEthernetDevice.receive iface.ethdev = .some (.frame bytes (.ok ()) d'))
    (hecho : Echoes frame bytes) (hframe : (datagramsOf frame).map datagram = front.map datagram) :
    ∃ buffer, iface.receiveOneFrame = .ok (.ok true, { iface with
        ethdev := d'
        buffer := buffer
        recvDataSize := front.flatten.length
        txCount := 0 }) ∧
      buffer.length = iface.buffer.length ∧
      Buffered { iface with
        ethdev := d'
        buffer := buffer
        recvDataSize := front.flatten.length
        txCount := 0 } (datagramsOf bytes ++ back) := by
  have hfront : ∀ p ∈ front, IsDatagram p := fun p hp => hbuf.isDatagram p (by simp [hp])
  have hdatagrams : datagramsOf frame ≠ [] := by
    intro hnil
    rw [hnil] at hframe
    simp at hframe
    simp [hframe] at hcount
    exact hne hcount
  have hcard : (datagramsOf bytes).length = front.length := by
    rw [hecho.length_datagramsOf, ← List.length_map (f := datagram), hframe, List.length_map]
  have hflat : (datagramsOf bytes).flatten.length = front.flatten.length := by
    rw [hecho.length_flatten]
    exact length_flatten_eq (forall_isDatagram_datagramsOf frame) hfront hframe
  have hlen := hecho.lt_length hdatagrams
  have hheader : frameHeaderSize = 16 := rfl
  have hne' : front.length ≠ 0 := hcount ▸ hne
  obtain ⟨rest, hbuffer⟩ := hbuf.buffer_eq
  -- the header checks and the walk over the frame
  have hsource : EthernetFrame.source.get bytes = .ok (EthernetFrame.source.val bytes) :=
    Field.get_of_fits (Field.fits_of_le (n := 14) (by decide) (by omega))
  have htype : EthernetFrame.etherType.get bytes = .ok ethercatType := by
    rw [Field.get_of_fits (Field.fits_of_le (n := 14) (by decide) (by omega)), hecho.etherType_eq]
  have hfrom : sliceFrom bytes EthernetFrame.headerSize = .ok (bytes.drop 14) :=
    sliceFrom_eq_ok_iff.mpr ⟨by simp only [EthernetFrame.headerSize]; omega, rfl⟩
  have hfit : EtherCatFrame.length.Fits (bytes.drop 14) :=
    Field.fits_of_le (n := 2) (by decide) (by rw [List.length_drop]; omega)
  have hread : EtherCatFrameUtil.dlpdus
      ⟨bytes, frameHeaderSize + EtherCatFrame.length.val (bytes.drop 14), 0⟩ =
        .ok (datagramsOf bytes) := hecho.readable
  have hstore := storePdus_eq [] iface.buffer 0 iface.txCount
    (forall_isDatagram_datagramsOf bytes) rfl
    (by rw [hflat, hbuffer]; simp) (by omega)
  rw [List.nil_append, List.nil_append, Nat.zero_add, hflat, hcard, hcount, Nat.sub_self] at hstore
  refine ⟨(datagramsOf bytes).flatten ++ iface.buffer.drop front.flatten.length, ?_, ?_, ?_, ?_, ?_⟩
  · simp only [receiveOneFrame, hne', if_false, h, hsource, htype, Exec.ok_bind, hecho.source_ne,
      EtherCatFrameUtil.newUnchecked, hfrom, Field.get_of_fits hfit, hread, hrecv, hcount,
      false_or, ne_eq, not_true_eq_false, hstore]
    rfl
  · simp only [List.length_append, hflat, List.length_drop]
    rw [hbuffer]
    simp
  · intro p hp
    rcases List.mem_append.mp hp with hp | hp
    · exact forall_isDatagram_datagramsOf bytes p hp
    · exact hbuf.isDatagram p (by simp [hp])
  · refine ⟨rest, ?_⟩
    simp [hbuffer]
  · have htotal := hbuf.total_eq
    simp only [List.flatten_append, List.length_append] at htotal ⊢
    rw [hflat]
    exact htotal

end

end PduInterface

end EtherCat
