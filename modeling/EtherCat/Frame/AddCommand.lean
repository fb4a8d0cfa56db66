import EtherCat.Frame.Datagram

/-!
# Filling a frame

`Laid` describes the bytes of a frame that was filled: its header, datagrams end to end and zeros
behind them.  Initialising a frame lays nothing, `add_command` lays one more datagram, and
reading the frame back gives exactly the datagrams that lie in it.  `Holds frame ds room` is the
same up to what the datagrams say.
-/

namespace EtherCat

open Rust BitField EtherCatPdu

lemma onSuffix_append {pre s : List UInt8} {f : List UInt8 → Exec (List UInt8)} {n : ℕ}
    (hn : n = pre.length) :
    onSuffix (pre ++ s) n f = (f s).bind fun s' => .ok (pre ++ s') := by
  have hfrom : sliceFrom (pre ++ s) pre.length = .ok s :=
    sliceFrom_eq_ok_iff.mpr ⟨by simp, by simp⟩
  subst hn
  simp only [onSuffix, hfrom, Exec.ok_bind, List.take_left]
  rfl

namespace EtherCatFrameUtil

/-- The frame holds these datagrams and `room` zero bytes behind them. -/
def Holds (frame : EtherCatFrameUtil) (ds : List Datagram) (room : ℕ) : Prop :=
  ∃ (header : List UInt8) (pdus : List (List UInt8)),
    header.length = frameHeaderSize ∧
    frame.buffer = header ++ (pdus.flatten ++ List.replicate room 0) ∧
    frame.freeOffset = (header ++ pdus.flatten).length ∧
    (∀ pdu ∈ pdus, IsDatagram pdu) ∧ pdus.map datagram = ds

/-- The bytes of a frame: its header, datagrams end to end and `room` zeros. -/
structure Laid (frame : EtherCatFrameUtil) (header : List UInt8) (pdus : List (List UInt8))
    (room : ℕ) : Prop where
  length_header : header.length = frameHeaderSize
  buffer_eq : frame.buffer = header ++ (pdus.flatten ++ List.replicate room 0)
  freeOffset_eq : frame.freeOffset = (header ++ pdus.flatten).length
  isDatagram : ∀ pdu ∈ pdus, IsDatagram pdu

lemma holds_iff {frame : EtherCatFrameUtil} {ds : List Datagram} {room : ℕ} :
    frame.Holds ds room ↔
      ∃ header pdus, frame.Laid header pdus room ∧ pdus.map datagram = ds := by
  constructor
  · rintro ⟨header, pdus, hheader, hbuffer, hfree, hpdus, hds⟩
    exact ⟨header, pdus, ⟨hheader, hbuffer, hfree, hpdus⟩, hds⟩
  · rintro ⟨header, pdus, ⟨hheader, hbuffer, hfree, hpdus⟩, hds⟩
    exact ⟨header, pdus, hheader, hbuffer, hfree, hpdus, hds⟩

lemma Laid.length_buffer {frame : EtherCatFrameUtil} {header : List UInt8}
    {pdus : List (List UInt8)} {room : ℕ} (h : frame.Laid header pdus room) :
    frame.buffer.length = frame.freeOffset + room := by
  rw [h.buffer_eq, h.freeOffset_eq]
  simp
  omega

lemma length_buffer_of_holds {frame : EtherCatFrameUtil} {ds : List Datagram} {room : ℕ}
    (h : frame.Holds ds room) : frame.buffer.length = frame.freeOffset + room := by
  obtain ⟨header, pdus, hlaid, -⟩ := holds_iff.mp h
  exact hlaid.length_buffer

/-- Reading a frame gives back the datagrams that lie in it. -/
theorem Laid.dlpdus_eq {frame : EtherCatFrameUtil} {header : List UInt8}
    {pdus : List (List UInt8)} {room : ℕ} (h : frame.Laid header pdus room) :
    frame.dlpdus = .ok pdus := by
  have hread := EtherCatPdus.toList_flatten header (List.replicate room 0)
    frame.buffer.length h.isDatagram (by rw [h.buffer_eq]; simp) (.inl (endsWalk_zeros room))
  rw [h.length_header, ← h.buffer_eq] at hread
  exact hread

/-- Reading back a frame gives what it holds. -/
theorem dlpdus_of_holds {frame : EtherCatFrameUtil} {ds : List Datagram} {room : ℕ}
    (h : frame.Holds ds room) :
    ∃ pdus, frame.dlpdus = .ok pdus ∧ (∀ pdu ∈ pdus, IsDatagram pdu) ∧
      pdus.map datagram = ds := by
  obtain ⟨header, pdus, hlaid, hds⟩ := holds_iff.mp h
  exact ⟨pdus, hlaid.dlpdus_eq, hlaid.isDatagram, hds⟩

/-! ## Initialisation -/

/-- An initialised frame has no datagrams, a zero length field and zeros behind its headers. -/
lemma init_laid (frame : EtherCatFrameUtil) (room : ℕ)
    (hlen : frame.buffer.length = frameHeaderSize + room) :
    ∃ frame' header, frame.init = .ok frame' ∧ frame'.Laid header [] room ∧ frame'.index = 0 ∧
      EtherCatFrame.length.val (header.drop EthernetFrame.headerSize) = 0 := by
  have hsize : frame.buffer.length = 16 + room := hlen
  -- the Ethernet header
  have hzeros : (List.replicate frame.buffer.length (0 : UInt8)).length = 16 + room := by
    simp [hsize]
  have hzerosDrop : (List.replicate frame.buffer.length (0 : UInt8)).drop 16 =
      List.replicate room 0 := by
    rw [List.drop_replicate, hsize, Nat.add_sub_cancel_left]
  set zeros := List.replicate frame.buffer.length (0 : UInt8) with hzerosDef
  let eth := Field.putAll zeros
    [(EthernetFrame.destination, dstMac), (EthernetFrame.source, srcMac),
      (EthernetFrame.etherType, ethercatType)]
  have hethlen : eth.length = 16 + room := by simp [eth, hzeros]
  have heth : EthernetFrame.setEthercatDefault zeros = .ok eth := by
    have hfit : ∀ f ∈ [EthernetFrame.destination, EthernetFrame.source, EthernetFrame.etherType],
        f.Fits zeros := by
      intro f hf
      refine Field.fits_of_le (n := 14) ?_ (by omega)
      revert f
      decide
    simp only [List.forall_mem_cons] at hfit
    simp [EthernetFrame.setEthercatDefault, eth, hfit]
  -- the EtherCAT header
  let ec := Field.putAll (eth.drop 14)
    [(EtherCatFrame.length, 0), (EtherCatFrame.ethercatType, 1)]
  have heclen : ec.length = 2 + room := by
    simp only [ec, Field.length_putAll, List.length_drop, hethlen]
    omega
  have hec : onSuffix eth EthernetFrame.headerSize (fun ec => do
      let ec ← EtherCatFrame.length.set ec 0
      EtherCatFrame.ethercatType.set ec 1) = .ok (eth.take 14 ++ ec) := by
    have hfit : ∀ f ∈ [EtherCatFrame.length, EtherCatFrame.ethercatType],
        f.Fits (eth.drop 14) := by
      intro f hf
      refine Field.fits_of_le (n := 2) ?_ (by rw [List.length_drop]; omega)
      revert f
      decide
    simp only [List.forall_mem_cons] at hfit
    have hfrom : sliceFrom eth 14 = .ok (eth.drop 14) :=
      sliceFrom_eq_ok_iff.mpr ⟨by omega, rfl⟩
    simp [onSuffix, EthernetFrame.headerSize, hfrom, ec, hfit]
  have hecdrop : ec.drop 2 = List.replicate room 0 := by
    have h₁ : ec.drop 2 = (eth.drop 14).drop 2 := Field.drop_putAll (by simp; decide)
    have h₂ : eth.drop 16 = zeros.drop 16 := Field.drop_putAll (by simp; decide)
    rw [h₁, List.drop_drop, h₂, hzerosDrop]
  have hheader : (eth.take 14 ++ ec.take 2).length = frameHeaderSize := by
    simp only [List.length_append, List.length_take, hethlen, heclen, frameHeaderSize,
      EtherCatFrame.headerSize, EthernetFrame.headerSize]
    omega
  have hlength : EtherCatFrame.length.val (ec.take 2) = 0 := by
    have hval : EtherCatFrame.length.val ec = 0 := by
      refine Field.val_putAll_of_mem (v := 0) ?_ (by decide) (by simp)
      intro f hf
      refine Field.fits_of_le (n := 2) ?_ (by rw [List.length_drop]; omega)
      revert f
      decide
    rw [← hval]
    exact Field.val_eq_of_take_eq (n := 2) (by simp) (by decide)
  refine ⟨⟨eth.take 14 ++ ec, 16, 0⟩, eth.take 14 ++ ec.take 2, ?_, ⟨hheader, ?_, ?_, by simp⟩, rfl,
    ?_⟩
  · simp only [init, ← hzerosDef, heth, hec, Exec.ok_bind]
    rfl
  · simp [← hecdrop]
  · rw [List.flatten_nil, List.append_nil, hheader]
    rfl
  · have hdrop : (eth.take 14 ++ ec.take 2).drop EthernetFrame.headerSize = ec.take 2 := by
      have h14 : (eth.take 14).length = EthernetFrame.headerSize := by
        rw [List.length_take, hethlen]
        simp only [EthernetFrame.headerSize]
        omega
      rw [← h14, List.drop_left]
    rw [hdrop, hlength]

/-- An initialised frame holds nothing and is zero behind its headers. -/
lemma init_holds (frame : EtherCatFrameUtil) (room : ℕ)
    (hlen : frame.buffer.length = frameHeaderSize + room) :
    ∃ frame', frame.init = .ok frame' ∧ frame'.Holds [] room := by
  obtain ⟨frame', header, hinit, hlaid, -⟩ := init_laid frame room hlen
  exact ⟨frame', hinit, holds_iff.mpr ⟨header, [], hlaid, rfl⟩⟩

/-! ## Adding a datagram -/

/-- The datagrams with the last one marked as followed by another. -/
def markLast (pdus : List (List UInt8)) : List (List UInt8) :=
  pdus.dropLast ++ (pdus.getLast?.map fun last => hasNext.put last 1).toList

@[simp] lemma markLast_nil : markLast [] = [] := rfl

@[simp] lemma markLast_concat (front : List (List UInt8)) (last : List UInt8) :
    markLast (front ++ [last]) = front ++ [hasNext.put last 1] := by
  simp [markLast]

lemma datagram_put_hasNext {pdu : List UInt8} (h : IsDatagram pdu) :
    IsDatagram (hasNext.put pdu 1) ∧ datagram (hasNext.put pdu 1) = datagram pdu :=
  datagram_put h 1 (by decide) (by decide)

/-- The mark changes nothing of what the datagrams say. -/
lemma map_datagram_markLast {pdus : List (List UInt8)} (h : ∀ pdu ∈ pdus, IsDatagram pdu) :
    (markLast pdus).map datagram = pdus.map datagram := by
  rcases List.eq_nil_or_concat pdus with rfl | ⟨front, last, rfl⟩
  · rfl
  · rw [List.concat_eq_append] at h ⊢
    have hlast := (datagram_put_hasNext (h last (by simp))).2
    simp [hlast]

lemma setLastHasNext_laid {frame : EtherCatFrameUtil} {header : List UInt8}
    {pdus : List (List UInt8)} {room : ℕ} (h : frame.Laid header pdus room) :
    ∃ buffer, frame.setLastHasNext = .ok buffer ∧
      Laid { frame with buffer := buffer } header (markLast pdus) room := by
  obtain ⟨hheader, hbuffer, hfree, hpdus⟩ := h
  obtain ⟨indexes, hindexes, hlast⟩ := EtherCatPduIndexes.getLast?_toList_flatten
    header (List.replicate room 0) frame.buffer.length hpdus
    (by rw [hbuffer]; simp) (endsWalk_zeros room)
  rw [hheader, ← hbuffer] at hindexes
  have hread : frame.dlpduIndexes = .ok indexes := hindexes
  simp only [setLastHasNext, hread, Exec.ok_bind, hlast]
  rcases List.eq_nil_or_concat pdus with rfl | ⟨front, last, rfl⟩
  · exact ⟨frame.buffer, rfl, hheader, hbuffer, hfree, hpdus⟩
  · rw [List.concat_eq_append] at *
    have hpdu : IsDatagram last := hpdus last (by simp)
    have hfit : hasNext.Fits last := fits hpdu.headerSize_le (by decide)
    have hcut : frame.buffer =
        (header ++ front.flatten) ++ (last ++ List.replicate room 0) := by
      rw [hbuffer]
      simp
    have hset : onSuffix frame.buffer (header ++ front.flatten).length
        (fun pdu => hasNext.setBool pdu true) =
          .ok ((header ++ front.flatten) ++ (hasNext.put last 1 ++ List.replicate room 0)) := by
      rw [hcut, onSuffix_append rfl]
      simp only [Field.setBool, Bool.toNat_true]
      rw [Field.set_of_fits (by simp [Field.Fits] at hfit ⊢; omega), Field.put_append_left hfit]
      rfl
    have hroom : EtherCatPdu.headerSize - 1 <
        (frame.buffer.drop (header ++ front.flatten).length).length := by
      have := hpdu.headerSize_le
      rw [hcut, List.drop_left]
      simp [EtherCatPdu.headerSize] at this ⊢
      omega
    refine ⟨(header ++ front.flatten) ++ (hasNext.put last 1 ++ List.replicate room 0), ?_,
      hheader, ?_, ?_, ?_⟩
    · rw [List.dropLast_concat, if_neg (by simp)]
      simp only [hroom, if_true]
      exact hset
    · simp
    · simpa using hfree
    · intro pdu hmem
      rw [markLast_concat] at hmem
      rcases List.mem_append.mp hmem with hmem | hmem
      · exact hpdus pdu (by simp [hmem])
      · rw [List.mem_singleton.mp hmem]
        exact (datagram_put_hasNext hpdu).1

/-- The header a new datagram gets in a frame. -/
def newHeader (command : CommandType) (adp ado : UInt16) (dataLen : ℕ) (index : UInt8) :
    List (Field × ℕ) :=
  [(EtherCatPdu.commandType, command.toU8.toNat), (EtherCatPdu.adp, adp.toNat),
    (EtherCatPdu.ado, ado.toNat), (EtherCatPdu.index, index.toNat), (isCirculated, 0),
    (hasNext, 0), (irq, 0), (EtherCatPdu.length, dataLen % 2 ^ 16)]

lemma newHeader_fits {pdu : List UInt8} (h : EtherCatPdu.headerSize ≤ pdu.length)
    (command : CommandType) (adp ado : UInt16) (dataLen : ℕ) (index : UInt8) :
    ∀ f ∈ (newHeader command adp ado dataLen index).map Prod.fst, f.Fits pdu := by
  intro f hf
  refine fits h ?_
  simp only [newHeader, List.map_cons, List.map_nil] at hf
  revert f
  decide

/-- A header with these assignments carries the fields of the new datagram. -/
lemma vals_newHeader {pdu : List UInt8} (h : EtherCatPdu.headerSize ≤ pdu.length)
    (d : Datagram) (hdata : d.data.length < 2 ^ 11) :
    ∀ a ∈ headerOf d, a.1.val (Field.putAll pdu
      (newHeader d.commandType d.adp d.ado d.data.length d.index)) = a.2 := by
  have hval : ∀ f v, (f, v) ∈ newHeader d.commandType d.adp d.ado d.data.length d.index →
      f.val (Field.putAll pdu (newHeader d.commandType d.adp d.ado d.data.length d.index)) =
        v % 2 ^ f.width := by
    intro f v hmem
    refine Field.val_putAll_of_mem (newHeader_fits h _ _ _ _ _) ?_ hmem
    simp only [newHeader, List.map_cons, List.map_nil]
    decide
  have hindex := d.index.toNat_lt
  have hcommand := d.commandType.toU8.toNat_lt
  have hadp := d.adp.toNat_lt
  have hado := d.ado.toNat_lt
  simp only [headerOf, List.forall_mem_cons, List.not_mem_nil, false_implies, implies_true,
    and_true]
  refine ⟨?_, ?_, ?_, ?_, ?_⟩
  · rw [hval _ d.index.toNat (by simp [newHeader])]
    exact Nat.mod_eq_of_lt hindex
  · rw [hval _ d.commandType.toU8.toNat (by simp [newHeader])]
    exact Nat.mod_eq_of_lt hcommand
  · rw [hval _ d.adp.toNat (by simp [newHeader])]
    exact Nat.mod_eq_of_lt hadp
  · rw [hval _ d.ado.toNat (by simp [newHeader])]
    exact Nat.mod_eq_of_lt hado
  · rw [hval _ (d.data.length % 2 ^ 16) (by simp [newHeader])]
    have hwidth : EtherCatPdu.length.width = 11 := rfl
    rw [hwidth]
    omega

lemma setIndex_zeros {pre : List UInt8} {n i : ℕ} (hle : pre.length ≤ i)
    (hlt : i < pre.length + n) :
    setIndex (pre ++ List.replicate n 0) i 0 = .ok (pre ++ List.replicate n 0) := by
  refine setIndex_eq_ok_iff.mpr ⟨by simpa using hlt, ?_⟩
  rw [List.set_append_right _ _ hle, List.set_replicate_self]

lemma copyFromSlice_zeros (pre src : List UInt8) {n m : ℕ} (hm : m = pre.length)
    (hle : src.length ≤ n) :
    copyFromSlice (pre ++ List.replicate n 0) m src =
      .ok (pre ++ src ++ List.replicate (n - src.length) 0) := by
  subst hm
  refine copyFromSlice_eq_ok_iff.mpr ⟨by simpa using hle, ?_⟩
  simp [splice, List.drop_append]

/-- The last step of `add_command` adds to the length in the header of the frame. -/
lemma setFrameLength_append {header : List UInt8} (rest : List UInt8)
    (hheader : header.length = frameHeaderSize)
    (dlpduLen : ℕ) :
    ∃ header', header'.length = frameHeaderSize ∧
      EtherCatFrame.length.val (header'.drop EthernetFrame.headerSize) =
        (EtherCatFrame.length.val (header.drop EthernetFrame.headerSize) + dlpduLen) % 2 ^ 11 ∧
      onSuffix (header ++ rest) EthernetFrame.headerSize (fun ec => do
        let ecFrameLen ← EtherCatFrame.length.get ec
        EtherCatFrame.length.set ec ((ecFrameLen + dlpduLen) % 2 ^ 16)) =
          .ok (header' ++ rest) := by
  have hsize : header.length = 16 := hheader
  have hcut : header ++ rest = header.take 14 ++ (header.drop 14 ++ rest) := by
    rw [← List.append_assoc, List.take_append_drop]
  have hfit : EtherCatFrame.length.Fits (header.drop 14) :=
    Field.fits_of_le (n := 2) (by decide) (by simp; omega)
  have hfit' : EtherCatFrame.length.Fits (header.drop 14 ++ rest) :=
    Field.fits_of_le (n := 2) (by decide) (by simp; omega)
  refine ⟨header.take 14 ++ EtherCatFrame.length.put (header.drop 14)
    ((EtherCatFrame.length.val (header.drop 14) + dlpduLen) % 2 ^ 16), ?_, ?_, ?_⟩
  · simp only [List.length_append, List.length_take, Field.length_put, List.length_drop, hsize]
    rfl
  · have h14 : (header.take 14).length = EthernetFrame.headerSize := by
      rw [List.length_take, hsize]
      rfl
    rw [← h14, List.drop_left, h14, Field.val_put hfit]
    exact Nat.mod_mod_of_dvd _ (by decide)
  · rw [hcut, onSuffix_append (by rw [List.length_take, hsize]; rfl), Field.get_of_fits hfit',
      Exec.ok_bind, Field.set_of_fits hfit', Field.val_append_left hfit,
      Field.put_append_left hfit]
    simp [Except.bind]

/-- What a new datagram is: the last one, with a working counter of zero. -/
structure IsNew (pdu : List UInt8) (d : Datagram) : Prop where
  isDatagram : IsDatagram pdu
  datagram_eq : datagram pdu = d
  hasNext_eq : hasNext.val pdu = 0
  wkc_eq : pdu.drop (headerSize + d.data.length) = [0, 0]

/-- **`add_command` lays one datagram** behind those of the frame, if there is room. -/
theorem addCommand_laid {frame : EtherCatFrameUtil} {header : List UInt8}
    {pdus₀ : List (List UInt8)} {room : ℕ} (h : frame.Laid header pdus₀ room) (d : Datagram)
    {optIndex : Option UInt8} (hindex : optIndex.getD frame.index = d.index)
    (hpos : 0 < d.data.length) (hdata : d.data.length < 2 ^ 11)
    (hroom : headerSize + d.data.length + wkcLength ≤ room) :
    ∃ frame' header' pdu, frame.addCommand d.commandType d.adp d.ado d.data optIndex =
        .ok (true, frame') ∧
      frame'.Laid header' (markLast pdus₀ ++ [pdu])
        (room - (headerSize + d.data.length + wkcLength)) ∧
      frame'.index = frame.index ∧ IsNew pdu d ∧
      EtherCatFrame.length.val (header'.drop EthernetFrame.headerSize) =
        (EtherCatFrame.length.val (header.drop EthernetFrame.headerSize) +
          (d.data.length + headerSize + wkcLength)) % 2 ^ 11 := by
  have hlen := h.length_buffer
  obtain ⟨buffer, hmark, hheader, hbuffer, hfree, hpdus⟩ := setLastHasNext_laid h
  set pdus := markLast pdus₀
  simp only at hbuffer hfree
  set pre := header ++ pdus.flatten
  have hcut : buffer = pre ++ List.replicate room 0 := by
    rw [hbuffer]
    simp [pre]
  -- the header of the new datagram
  have hzeros : headerSize ≤ (List.replicate room (0 : UInt8)).length := by
    simp
    omega
  set nh := newHeader d.commandType d.adp d.ado d.data.length d.index
  let s := Field.putAll (List.replicate room 0) nh
  have hslen : s.length = room := by simp [s]
  have hsdrop : s.drop headerSize = List.replicate (room - headerSize) 0 := by
    have hdrop : s.drop headerSize = (List.replicate room 0).drop headerSize := by
      refine Field.drop_putAll ?_
      simp only [nh, newHeader, List.map_cons, List.map_nil]
      decide
    rw [hdrop, List.drop_replicate]
  have hwrite : onSuffix buffer frame.freeOffset (fun pdu => do
      let pdu ← EtherCatPdu.commandType.set pdu d.commandType.toU8.toNat
      let pdu ← EtherCatPdu.adp.set pdu d.adp.toNat
      let pdu ← EtherCatPdu.ado.set pdu d.ado.toNat
      let pdu ← EtherCatPdu.index.set pdu d.index.toNat
      let pdu ← isCirculated.setBool pdu false
      let pdu ← hasNext.setBool pdu false
      let pdu ← irq.set pdu 0
      EtherCatPdu.length.set pdu (d.data.length % 2 ^ 16)) =
        .ok ((pre ++ s.take headerSize) ++ List.replicate (room - headerSize) 0) := by
    have hfit := newHeader_fits hzeros d.commandType d.adp d.ado d.data.length d.index
    simp only [newHeader, List.map_cons, List.map_nil, List.forall_mem_cons] at hfit
    rw [hcut, onSuffix_append hfree]
    simp only [Field.setBool, Bool.toNat_false, Field.fits_put, hfit, Field.set_of_fits,
      Exec.ok_bind]
    rw [List.append_assoc, ← hsdrop, List.take_append_drop]
    simp only [Except.bind, s, nh, newHeader, Field.putAll_cons, Field.putAll_nil]
  -- the data and the working counter
  have hheaderLen : (s.take headerSize).length = headerSize := by
    rw [List.length_take, hslen]
    omega
  have hcopy := copyFromSlice_zeros (pre ++ s.take headerSize) d.data
    (n := room - headerSize) (m := frame.freeOffset + headerSize)
    (by simp [hfree, hheaderLen]) (by omega)
  have hwkc : ∀ i, frame.freeOffset + headerSize + d.data.length ≤ i →
      i < frame.freeOffset + headerSize + d.data.length + 2 →
      setIndex (pre ++ s.take headerSize ++ d.data ++
          List.replicate (room - headerSize - d.data.length) 0) i 0 =
          .ok (pre ++ s.take headerSize ++ d.data ++
            List.replicate (room - headerSize - d.data.length) 0) := by
    intro i hi hi'
    have hpre : (pre ++ s.take headerSize ++ d.data).length =
        frame.freeOffset + headerSize + d.data.length := by
      simp only [List.length_append, hheaderLen, hfree]
    have hwl : wkcLength = 2 := rfl
    refine setIndex_zeros ?_ ?_ <;> rw [hpre] <;> omega
  -- the frame's header
  set pdu := s.take headerSize ++ d.data ++ List.replicate wkcLength 0
  have hsplit : pre ++ s.take headerSize ++ d.data ++
      List.replicate (room - headerSize - d.data.length) 0 =
        header ++ ((pdus ++ [pdu]).flatten ++
          List.replicate (room - (headerSize + d.data.length + wkcLength)) 0) := by
    have hrep : room - headerSize - d.data.length =
        wkcLength + (room - (headerSize + d.data.length + wkcLength)) := by omega
    rw [hrep, List.replicate_add]
    simp [pre, pdu]
  obtain ⟨header', hheader', hlength', hframe⟩ := setFrameLength_append
    ((pdus ++ [pdu]).flatten ++
      List.replicate (room - (headerSize + d.data.length + wkcLength)) 0) hheader
    (d.data.length + headerSize + wkcLength)
  have hpdu : IsDatagram pdu ∧ datagram pdu = d := by
    refine datagram_of_header hheaderLen (by simp) ?_ hpos
    intro a ha
    rw [← vals_newHeader hzeros d hdata a ha]
    exact Field.val_eq_of_take_eq (n := headerSize) (by simp [s, nh])
      (headerOf_msb d _ (List.mem_map_of_mem ha))
  have hnext : hasNext.val pdu = 0 := by
    have hval : hasNext.val s = 0 := by
      refine Field.val_putAll_of_mem (v := 0) (newHeader_fits hzeros _ _ _ _ _) ?_
        (by simp [nh, newHeader])
      simp only [nh, newHeader, List.map_cons, List.map_nil]
      decide
    rw [← hval]
    refine Field.val_eq_of_take_eq (n := headerSize) ?_ (by decide)
    simp only [pdu, List.append_assoc]
    rw [List.take_append_of_le_length hheaderLen.ge, List.take_take, Nat.min_self]
  have hwkcZero : pdu.drop (headerSize + d.data.length) = [0, 0] := by
    have hfront : (s.take headerSize ++ d.data).length = headerSize + d.data.length := by
      rw [List.length_append, hheaderLen]
    rw [← hfront, List.drop_left]
    rfl
  refine ⟨⟨header' ++ ((pdus ++ [pdu]).flatten ++
      List.replicate (room - (headerSize + d.data.length + wkcLength)) 0),
      frame.freeOffset + (d.data.length + headerSize + wkcLength), frame.index⟩, header', pdu, ?_,
    ⟨hheader', rfl, ?_, ?_⟩, rfl, ⟨hpdu.1, hpdu.2, hnext, hwkcZero⟩, hlength'⟩
  · have hfits : ¬ d.data.length + headerSize + wkcLength > room := by omega
    simp only [addCommand, hlen, Exec.sub_of_le (Nat.le_add_right _ _), Nat.add_sub_cancel_left,
      Exec.ok_bind, hfits, if_false, hmark, hindex, hwrite, hcopy]
    rw [hwkc _ (by omega) (by omega), Exec.ok_bind, hwkc _ (by omega) (by omega), Exec.ok_bind,
      hsplit, hframe]
    rfl
  · simp [pdu, hfree, pre, hheader, hheader', hheaderLen]
    omega
  · intro p hp
    rcases List.mem_append.mp hp with hp | hp
    · exact hpdus p hp
    · rw [List.mem_singleton.mp hp]
      exact hpdu.1

/-- **`add_command` appends one datagram** to what the frame holds, if there is room. -/
theorem addCommand_holds {frame : EtherCatFrameUtil} {ds : List Datagram} {room : ℕ}
    (h : frame.Holds ds room) (d : Datagram) (hpos : 0 < d.data.length)
    (hdata : d.data.length < 2 ^ 11) (hroom : headerSize + d.data.length + wkcLength ≤ room) :
    ∃ frame', frame.addCommand d.commandType d.adp d.ado d.data (some d.index) =
        .ok (true, frame') ∧
      frame'.Holds (ds ++ [d]) (room - (headerSize + d.data.length + wkcLength)) := by
  obtain ⟨header, pdus, hlaid, rfl⟩ := holds_iff.mp h
  obtain ⟨frame', header', pdu, hadd, hlaid', -, hnew, -⟩ :=
    addCommand_laid hlaid d (Option.getD_some (a := d.index) (b := frame.index)) hpos hdata hroom
  refine ⟨frame', hadd, holds_iff.mpr ⟨header', _, hlaid', ?_⟩⟩
  rw [List.map_append, map_datagram_markLast hlaid.isDatagram, List.map_singleton,
    hnew.datagram_eq]

/-- A datagram that does not fit leaves the frame as it is. -/
lemma addCommand_eq_false {frame : EtherCatFrameUtil} {ds : List Datagram} {room : ℕ}
    (h : frame.Holds ds room) (command : CommandType) (adp ado : UInt16) {data : List UInt8}
    (index : Option UInt8) (hroom : room < headerSize + data.length + wkcLength) :
    frame.addCommand command adp ado data index = .ok (false, frame) := by
  have hfits : data.length + headerSize + wkcLength > room := by omega
  simp only [addCommand, length_buffer_of_holds h, Exec.sub_of_le (Nat.le_add_right _ _),
    Nat.add_sub_cancel_left, Exec.ok_bind, hfits, if_true]

end EtherCatFrameUtil

end EtherCat
