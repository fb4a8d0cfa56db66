import EtherCat.Frame.AddCommand

/-!
# Reading a frame back

A frame that was initialised and filled by a sequence of `add_command` calls should give back
the accepted commands (`ReadsBack`): the same datagrams in order, chained by their flags, under
a header that counts their bytes.  It does exactly if no accepted command was without data: a
reader stops in front of an empty datagram.
-/

namespace EtherCat

open Rust Rust.Exec BitField EtherCatPdu

/-- The arguments of one call of `add_command`. -/
structure AddCall where
  command : CommandType
  adp : UInt16
  ado : UInt16
  data : List UInt8
  index : Option UInt8
  deriving DecidableEq, Repr

/-- The datagram that a call asks for; without an index the frame gives its own, 0. -/
def AddCall.datagram (call : AddCall) : Datagram where
  index := call.index.getD 0
  commandType := call.command
  adp := call.adp
  ado := call.ado
  data := call.data

/-- The bytes that the datagram of a call takes. -/
def AddCall.size (call : AddCall) : ℕ := headerSize + call.data.length + wkcLength

/-- The calls that fit, one after another, into `room` bytes. -/
def fitting : ℕ → List AddCall → List AddCall
  | _, [] => []
  | room, call :: calls =>
    if call.size ≤ room then call :: fitting (room - call.size) calls else fitting room calls

namespace EtherCatFrameUtil

/-- The calls one after another, and those of them that were accepted. -/
def addCommands : List AddCall → EtherCatFrameUtil → Exec (List AddCall × EtherCatFrameUtil)
  | [], frame => .ok ([], frame)
  | call :: calls, frame => do
    let (added, frame) ←
      frame.addCommand call.command call.adp call.ado call.data call.index
    let (accepted, frame) ← addCommands calls frame
    .ok (if added then call :: accepted else accepted, frame)

/-- **What reading back should give.** -/
def ReadsBack (frame : EtherCatFrameUtil) (ds : List Datagram) : Prop :=
  ∃ pdus, frame.dlpdus = .ok pdus ∧ pdus.map EtherCatPdu.datagram = ds ∧
    (∀ pdu ∈ pdus, wkc pdu = .ok (some 0)) ∧
    (∀ i (h : i < pdus.length), hasNext.val (pdus.get ⟨i, h⟩) = if i + 1 < pdus.length then 1 else 0) ∧
    EtherCatFrame.length.get (frame.buffer.drop EthernetFrame.headerSize) =
      .ok (pdus.map List.length).sum

/-! ## Every call returns -/

/-- A change of fields in a part of the buffer returns, if the part holds the fields. -/
lemma onSuffix_returns {b : List UInt8} {i n : ℕ} {f : List UInt8 → Exec (List UInt8)}
    (hroom : i + n ≤ b.length)
    (hf : ∀ s : List UInt8, n ≤ s.length → ∃ s', f s = .ok s' ∧ s'.length = s.length) :
    ∃ b', onSuffix b i f = .ok b' ∧ b'.length = b.length := by
  obtain ⟨s', hs', hlength⟩ := hf (b.drop i) (by rw [List.length_drop]; omega)
  have hfrom : sliceFrom b i = .ok (b.drop i) :=
    sliceFrom_eq_ok_iff.mpr ⟨by omega, rfl⟩
  refine ⟨b.take i ++ s', by rw [onSuffix, hfrom, ok_bind, hs', ok_bind], ?_⟩
  rw [List.length_append, hlength, List.length_take, List.length_drop]
  omega

/-- Walking over the offsets never leaves the buffer. -/
lemma dlpduIndexes_returns (frame : EtherCatFrameUtil) :
    ∃ indexes, frame.dlpduIndexes = .ok indexes := by
  have hnext : ∀ it : EtherCatPduIndexes, ∃ item, it.next = .ok item := by
    intro it
    unfold EtherCatPduIndexes.next
    split
    · exact ⟨_, rfl⟩
    split
    · exact ⟨_, rfl⟩
    rename_i hroom
    have hfits : EtherCatPdu.length.Fits (it.buffer.drop it.offset) :=
      fits (by omega) (by decide)
    rw [Field.get_of_fits hfits, ok_bind]
    split
    · exact ⟨_, rfl⟩
    split <;> exact ⟨_, rfl⟩
  have hcollect : ∀ fuel (it : EtherCatPduIndexes),
      ∃ indexes, collect EtherCatPduIndexes.next fuel it = .ok indexes := by
    intro fuel
    induction fuel with
    | zero => exact fun it => ⟨[], rfl⟩
    | succ fuel ih =>
        intro it
        obtain ⟨item, hitem⟩ := hnext it
        rcases item with _ | ⟨i, it'⟩
        · exact ⟨[], collect_succ_of_none _ hitem⟩
        · obtain ⟨indexes, hindexes⟩ := ih it'
          exact ⟨i :: indexes, by rw [collect_succ_of_some _ hitem, hindexes]; rfl⟩
  exact hcollect _ _

lemma setLastHasNext_returns (frame : EtherCatFrameUtil) :
    ∃ buffer, frame.setLastHasNext = .ok buffer ∧ buffer.length = frame.buffer.length := by
  obtain ⟨indexes, hindexes⟩ := frame.dlpduIndexes_returns
  rw [setLastHasNext, hindexes, ok_bind]
  rcases indexes.getLast? with _ | i
  · exact ⟨_, rfl, rfl⟩
  · simp only
    split
    · rename_i hroom
      rw [List.length_drop] at hroom
      refine onSuffix_returns (n := EtherCatPdu.headerSize) (by omega) fun s hs => ?_
      exact ⟨_, Field.set_of_fits (fits hs (by decide)) _, Field.length_put ..⟩
    · exact ⟨_, rfl, rfl⟩

/-- `add_command` returns on every frame that has its headers and a free offset inside, and it
accepts what fits behind the offset. -/
lemma addCommand_returns (frame : EtherCatFrameUtil) (call : AddCall)
    (hheader : frameHeaderSize ≤ frame.freeOffset) (hfree : frame.freeOffset ≤ frame.buffer.length) :
    ∃ frame', frame.addCommand call.command call.adp call.ado call.data call.index =
        .ok (decide (call.size ≤ frame.buffer.length - frame.freeOffset), frame') ∧
      frame'.buffer.length = frame.buffer.length ∧
      frame'.freeOffset = frame.freeOffset +
        if call.size ≤ frame.buffer.length - frame.freeOffset then call.size else 0 := by
  have hsize : call.data.length + headerSize + wkcLength = call.size := by
    rw [AddCall.size]
    omega
  rw [addCommand, sub_of_le hfree, ok_bind, hsize]
  by_cases hroom : call.size ≤ frame.buffer.length - frame.freeOffset
  swap
  · rw [if_pos (Nat.lt_of_not_le hroom), if_neg hroom, decide_eq_false hroom]
    exact ⟨frame, rfl, rfl, rfl⟩
  rw [if_neg (Nat.not_lt.mpr hroom), if_pos hroom, decide_eq_true hroom]
  rw [AddCall.size] at hroom
  have hh : headerSize = 10 := rfl
  have hw : wkcLength = 2 := rfl
  have hf : frameHeaderSize = 16 := rfl
  obtain ⟨b₁, h₁, hlen₁⟩ := frame.setLastHasNext_returns
  rw [h₁, ok_bind]
  obtain ⟨b₂, h₂, hlen₂⟩ := onSuffix_returns (b := b₁) (i := frame.freeOffset)
    (n := headerSize) (f := fun pdu => do
      let pdu ← EtherCatPdu.commandType.set pdu call.command.toU8.toNat
      let pdu ← EtherCatPdu.adp.set pdu call.adp.toNat
      let pdu ← EtherCatPdu.ado.set pdu call.ado.toNat
      let pdu ← EtherCatPdu.index.set pdu (call.index.getD frame.index).toNat
      let pdu ← isCirculated.setBool pdu false
      let pdu ← hasNext.setBool pdu false
      let pdu ← irq.set pdu 0
      EtherCatPdu.length.set pdu (call.data.length % 2 ^ 16)) (by omega) fun s hs => by
    have hfit := newHeader_fits hs call.command call.adp call.ado call.data.length
      (call.index.getD frame.index)
    simp only [newHeader, List.map_cons, List.map_nil, List.forall_mem_cons] at hfit
    simp only [Field.setBool, Field.fits_put, hfit, Field.set_of_fits, ok_bind]
    exact ⟨_, rfl, by simp only [Field.length_put]⟩
  rw [h₂, ok_bind]
  have hcopy : frame.freeOffset + headerSize + call.data.length ≤ b₂.length := by omega
  rw [copyFromSlice_eq_ok_iff.mpr ⟨hcopy, rfl⟩, ok_bind]
  have hlen₃ := length_splice hcopy
  set b₃ := splice b₂ (frame.freeOffset + headerSize) call.data
  rw [setIndex_eq_ok_iff.mpr ⟨by omega, rfl⟩, ok_bind,
    setIndex_eq_ok_iff.mpr ⟨by rw [List.length_set]; omega, rfl⟩, ok_bind]
  set b₄ := (b₃.set _ 0).set _ 0 with hb₄
  have hlen₄ : b₄.length = b₃.length := by rw [hb₄, List.length_set, List.length_set]
  obtain ⟨b₅, h₅, hlen₅⟩ := onSuffix_returns (b := b₄) (i := EthernetFrame.headerSize)
    (n := EtherCatFrame.headerSize) (f := fun ec => do
      let ecFrameLen ← EtherCatFrame.length.get ec
      EtherCatFrame.length.set ec
        ((ecFrameLen + call.size) % 2 ^ 16))
    (by simp only [EthernetFrame.headerSize, EtherCatFrame.headerSize]; omega) fun s hs => by
    have hfit : EtherCatFrame.length.Fits s := Field.fits_of_le (n := 2) (by decide) hs
    rw [Field.get_of_fits hfit, ok_bind, Field.set_of_fits hfit]
    exact ⟨_, rfl, Field.length_put ..⟩
  rw [h₅, ok_bind]
  refine ⟨_, rfl, ?_, rfl⟩
  simp only
  omega

/-- The calls return, and those are accepted that fit. -/
lemma addCommands_returns (calls : List AddCall) (frame : EtherCatFrameUtil)
    (hheader : frameHeaderSize ≤ frame.freeOffset) (hfree : frame.freeOffset ≤ frame.buffer.length) :
    ∃ frame', addCommands calls frame =
      .ok (fitting (frame.buffer.length - frame.freeOffset) calls, frame') := by
  induction calls generalizing frame with
  | nil => exact ⟨frame, rfl⟩
  | cons call calls ih =>
      obtain ⟨frame₁, hadd, hlength, hoffset⟩ := frame.addCommand_returns call hheader hfree
      by_cases hroom : call.size ≤ frame.buffer.length - frame.freeOffset
      · rw [if_pos hroom] at hoffset
        obtain ⟨frame₂, hrest⟩ := ih frame₁ (by omega) (by omega)
        rw [hlength, hoffset, ← Nat.sub_sub] at hrest
        refine ⟨frame₂, ?_⟩
        rw [addCommands, hadd, ok_bind]
        simp only [hrest, ok_bind, decide_eq_true hroom, fitting, if_pos hroom, if_true]
      · rw [if_neg hroom, Nat.add_zero] at hoffset
        obtain ⟨frame₂, hrest⟩ := ih frame₁ (by omega) (by omega)
        rw [hlength, hoffset] at hrest
        refine ⟨frame₂, ?_⟩
        rw [addCommands, hadd, ok_bind]
        simp only [hrest, ok_bind, decide_eq_false hroom, fitting, if_neg hroom,
          Bool.false_eq_true, if_false]

/-! ## What is laid is read back -/

/-- The frame has exactly these datagrams: chained, uncounted by slaves and counted in the header. -/
structure Encodes (frame : EtherCatFrameUtil) (header : List UInt8) (pdus : List (List UInt8))
    (room : ℕ) : Prop extends frame.Laid header pdus room where
  index_eq : frame.index = 0
  wkc_eq : ∀ pdu ∈ pdus, pdu.drop (headerSize + (EtherCatPdu.datagram pdu).data.length) = [0, 0]
  hasNext_eq : ∀ i (h : i < pdus.length),
    hasNext.val (pdus.get ⟨i, h⟩) = if i + 1 < pdus.length then 1 else 0
  length_eq : EtherCatFrame.length.val (header.drop EthernetFrame.headerSize) =
    pdus.flatten.length

lemma wkc_of_isDatagram {pdu : List UInt8} (h : IsDatagram pdu)
    (hwkc : pdu.drop (headerSize + (EtherCatPdu.datagram pdu).data.length) = [0, 0]) :
    wkc pdu = .ok (some 0) := by
  rw [h.length_data] at hwkc
  have hget : ∀ i, pdu[headerSize + EtherCatPdu.length.val pdu + i]? = [(0 : UInt8), 0][i]? := by
    intro i
    rw [← hwkc, List.getElem?_drop]
  have hlength : EtherCatPdu.length.get pdu = .ok (EtherCatPdu.length.val pdu) :=
    Field.get_of_fits (fits h.headerSize_le (by decide))
  have hlow := hget 0
  have hhigh := hget 1
  simp only [Nat.add_zero, List.getElem?_cons_zero, List.getElem?_cons_succ] at hlow hhigh
  rw [wkc, hlength, ok_bind, hlow, hhigh]
  rfl

lemma Encodes.readsBack {frame : EtherCatFrameUtil} {header : List UInt8}
    {pdus : List (List UInt8)} {room : ℕ} (h : frame.Encodes header pdus room) :
    frame.ReadsBack (pdus.map EtherCatPdu.datagram) := by
  refine ⟨pdus, h.dlpdus_eq, rfl, fun pdu hpdu => ?_, h.hasNext_eq, ?_⟩
  · exact wkc_of_isDatagram (h.isDatagram pdu hpdu) (h.wkc_eq pdu hpdu)
  · have hlength : header.length = 16 := h.length_header
    have hdrop : frame.buffer.drop EthernetFrame.headerSize =
        header.drop EthernetFrame.headerSize ++ (pdus.flatten ++ List.replicate room 0) := by
      rw [h.buffer_eq, List.drop_append_of_le_length (by rw [hlength]; decide)]
    have hfit : EtherCatFrame.length.Fits (header.drop EthernetFrame.headerSize) := by
      refine Field.fits_of_le (n := 2) (by decide) ?_
      rw [List.length_drop, hlength]
      decide
    have hfit' : EtherCatFrame.length.Fits (header.drop EthernetFrame.headerSize ++
        (pdus.flatten ++ List.replicate room 0)) := by
      rw [Field.Fits, List.length_append]
      exact Nat.lt_add_right _ hfit
    rw [hdrop, Field.get_of_fits hfit', Field.val_append_left hfit, h.length_eq,
      List.length_flatten]

/-- Marking the last datagram chains all of them. -/
lemma hasNext_markLast {pdus : List (List UInt8)} (hpdus : ∀ pdu ∈ pdus, IsDatagram pdu)
    (h : ∀ i (hi : i < pdus.length),
      hasNext.val (pdus.get ⟨i, hi⟩) = if i + 1 < pdus.length then 1 else 0) :
    ∀ pdu ∈ markLast pdus, hasNext.val pdu = 1 := by
  rcases List.eq_nil_or_concat pdus with rfl | ⟨front, last, rfl⟩
  · simp
  · rw [List.concat_eq_append] at *
    intro pdu hpdu
    rw [markLast_concat] at hpdu
    rcases List.mem_append.mp hpdu with hpdu | hpdu
    · obtain ⟨i, hi, rfl⟩ := List.mem_iff_getElem.mp hpdu
      have hchained := h i (by rw [List.length_append]; omega)
      rw [if_pos (by rw [List.length_append, List.length_singleton]; omega)] at hchained
      simpa [List.getElem_append_left hi] using hchained
    · rw [List.mem_singleton.mp hpdu]
      exact Field.val_put (fits (hpdus last (by simp)).headerSize_le (by decide)) 1

lemma hasNext_append_new {pdus : List (List UInt8)} {pdu : List UInt8}
    (hpdus : ∀ pdu ∈ pdus, hasNext.val pdu = 1) (hpdu : hasNext.val pdu = 0) :
    ∀ i (hi : i < (pdus ++ [pdu]).length), hasNext.val ((pdus ++ [pdu]).get ⟨i, hi⟩) =
      if i + 1 < (pdus ++ [pdu]).length then 1 else 0 := by
  intro i hi
  rw [List.get_eq_getElem]
  by_cases hlt : i < pdus.length
  · rw [List.getElem_append_left hlt, hpdus _ (List.getElem_mem hlt), if_pos]
    rw [List.length_append, List.length_singleton]
    omega
  · rw [List.length_append, List.length_singleton] at hi
    obtain rfl : i = pdus.length := by omega
    rw [List.getElem_append_right (Nat.le_refl _), if_neg]
    · simpa using hpdu
    · rw [List.length_append, List.length_singleton]
      omega

lemma wkc_markLast {pdus : List (List UInt8)} (hpdus : ∀ pdu ∈ pdus, IsDatagram pdu)
    (h : ∀ pdu ∈ pdus,
      pdu.drop (headerSize + (EtherCatPdu.datagram pdu).data.length) = [0, 0]) :
    ∀ pdu ∈ markLast pdus,
      pdu.drop (headerSize + (EtherCatPdu.datagram pdu).data.length) = [0, 0] := by
  rcases List.eq_nil_or_concat pdus with rfl | ⟨front, last, rfl⟩
  · simp
  · rw [List.concat_eq_append] at *
    intro pdu hpdu
    rw [markLast_concat] at hpdu
    rcases List.mem_append.mp hpdu with hpdu | hpdu
    · exact h pdu (by simp [hpdu])
    · have hlast := hpdus last (by simp)
      rw [List.mem_singleton.mp hpdu, (datagram_put_hasNext hlast).2,
        Field.drop_put (Nat.lt_of_lt_of_le (by decide) (Nat.le_add_right _ _))]
      exact h last (by simp)

/-- The mark does not change the size of the datagrams. -/
lemma length_flatten_markLast (pdus : List (List UInt8)) :
    (markLast pdus).flatten.length = pdus.flatten.length := by
  rcases List.eq_nil_or_concat pdus with rfl | ⟨front, last, rfl⟩
  · rfl
  · simp [List.concat_eq_append]

/-- One more accepted command. -/
lemma Encodes.addCommand {frame : EtherCatFrameUtil} {header : List UInt8}
    {pdus : List (List UInt8)} {room : ℕ} (h : frame.Encodes header pdus room) (call : AddCall)
    (hdata : call.data ≠ []) (hroom : headerSize + call.data.length + wkcLength ≤ room)
    (hsize : frame.buffer.length ≤ ethernetFrameSizeWithoutFcs) :
    ∃ frame' header' pdus' room',
      frame.addCommand call.command call.adp call.ado call.data call.index = .ok (true, frame') ∧
      frame'.Encodes header' pdus' room' ∧
      frame'.buffer.length = frame.buffer.length ∧
      pdus'.map EtherCatPdu.datagram = pdus.map EtherCatPdu.datagram ++ [call.datagram] := by
  have hlength := h.length_buffer
  have hfree := h.freeOffset_eq
  have hheader : header.length = 16 := h.length_header
  have hmax : ethernetFrameSizeWithoutFcs = 1514 := rfl
  have hh : headerSize = 10 := rfl
  have hw : wkcLength = 2 := rfl
  rw [List.length_append, hheader] at hfree
  obtain ⟨frame', header', pdu, hadd, hlaid, hindex, hnew, hlen⟩ :=
    addCommand_laid h.toLaid call.datagram
      (show call.index.getD frame.index = call.datagram.index by rw [h.index_eq]; rfl)
      (List.length_pos_iff.mpr hdata)
      (show call.data.length < 2 ^ 11 by omega) hroom
  refine ⟨frame', header', _, _, hadd, ⟨hlaid, hindex.trans h.index_eq, ?_, ?_, ?_⟩, ?_, ?_⟩
  · intro p hp
    rcases List.mem_append.mp hp with hp | hp
    · exact wkc_markLast h.isDatagram h.wkc_eq p hp
    · rw [List.mem_singleton.mp hp, hnew.datagram_eq]
      exact hnew.wkc_eq
  · exact hasNext_append_new (hasNext_markLast h.isDatagram h.hasNext_eq) hnew.hasNext_eq
  · have hpdu : pdu.length = headerSize + call.data.length + wkcLength := by
      rw [hnew.isDatagram.length_eq, hnew.datagram_eq]
      rfl
    have hcall : call.datagram.data.length = call.data.length := rfl
    rw [hlen, h.length_eq, List.flatten_append, List.length_append, length_flatten_markLast,
      List.flatten_singleton, hpdu, hcall, Nat.mod_eq_of_lt (by omega)]
    omega
  · have hpdu : pdu.length = headerSize + call.data.length + wkcLength := by
      rw [hnew.isDatagram.length_eq, hnew.datagram_eq]
      rfl
    rw [hlaid.length_buffer, hlaid.freeOffset_eq, List.length_append, hlaid.length_header,
      List.flatten_append, List.length_append, length_flatten_markLast, List.flatten_singleton,
      hpdu, hlength, hfree]
    have hf : frameHeaderSize = 16 := rfl
    have hcall : call.datagram.data.length = call.data.length := rfl
    omega
  · rw [List.map_append, map_datagram_markLast h.isDatagram, List.map_singleton, hnew.datagram_eq]

/-- The run of accepted commands with data, by induction on the calls. -/
lemma Encodes.addCommands {calls : List AddCall} {frame frame' : EtherCatFrameUtil}
    {accepted : List AddCall} {header : List UInt8} {pdus : List (List UInt8)} {room : ℕ}
    (h : frame.Encodes header pdus room)
    (hsize : frame.buffer.length ≤ ethernetFrameSizeWithoutFcs)
    (hrun : EtherCatFrameUtil.addCommands calls frame = .ok (accepted, frame'))
    (hdata : ∀ call ∈ accepted, call.data ≠ []) :
    frame'.ReadsBack (pdus.map EtherCatPdu.datagram ++ accepted.map AddCall.datagram) := by
  induction calls generalizing frame header pdus room accepted with
  | nil =>
      cases hrun
      simpa using h.readsBack
  | cons call calls ih =>
      obtain ⟨⟨added, frame₁⟩, hadd, hrest⟩ := bind_eq_ok.mp hrun
      obtain ⟨⟨accepted₁, frame₂⟩, hcalls, heq⟩ := bind_eq_ok.mp hrest
      simp only [Except.ok.injEq, Prod.mk.injEq] at heq
      obtain ⟨rfl, rfl⟩ := heq
      have hlength := h.length_buffer
      have hfree := h.freeOffset_eq
      rw [List.length_append, h.length_header] at hfree
      by_cases hroom : headerSize + call.data.length + wkcLength ≤ room
      · obtain ⟨frame₁', hadd', -⟩ := frame.addCommand_returns call (by omega) (by omega)
        have hfits : call.size ≤ frame.buffer.length - frame.freeOffset := by
          rw [AddCall.size]
          omega
        rw [decide_eq_true hfits] at hadd'
        cases hadd.symm.trans hadd'
        simp only [if_true, List.forall_mem_cons] at hdata
        obtain ⟨frame₁', header₁, pdus₁, room₁, hadd', hencodes, hlen₁, hmap⟩ :=
          h.addCommand call hdata.1 hroom hsize
        cases hadd.symm.trans hadd'
        have hrest := ih hencodes (hlen₁ ▸ hsize) hcalls hdata.2
        rw [hmap, List.append_assoc] at hrest
        exact hrest
      · have hrejects : frame.addCommand call.command call.adp call.ado call.data call.index =
            .ok (false, frame) :=
          addCommand_eq_false (holds_iff.mpr ⟨header, pdus, h.toLaid, rfl⟩)
            call.command call.adp call.ado call.index (by omega)
        cases hadd.symm.trans hrejects
        exact ih h hsize hcalls hdata

/-- **Reading back.**  For every frame buffer and every sequence of calls: the calls return, those
are accepted that fit, a rejected call leaves the frame as it is, and the frame reads back as
the accepted commands exactly if each of these has data. -/
theorem addCommands_readsBack_iff (frame : EtherCatFrameUtil) (calls : List AddCall)
    (hmin : frameHeaderSize ≤ frame.buffer.length)
    (hmax : frame.buffer.length ≤ ethernetFrameSizeWithoutFcs) :
    ∃ frame₀ accepted frame', frame.init = .ok frame₀ ∧
      addCommands calls frame₀ = .ok (accepted, frame') ∧
      (((∀ f (call : AddCall) f', EtherCatFrameUtil.addCommand f call.command call.adp call.ado
            call.data call.index = .ok (false, f') → f' = f) ∧
          frame'.ReadsBack (accepted.map AddCall.datagram)) ↔
        ∀ call ∈ fitting (frame.buffer.length - frameHeaderSize) calls, call.data ≠ []) := by
  obtain ⟨frame₀, header, hinit, hlaid, hindex, hlength⟩ :=
    init_laid frame (frame.buffer.length - frameHeaderSize) (by omega)
  have hencodes : frame₀.Encodes header [] (frame.buffer.length - frameHeaderSize) :=
    ⟨hlaid, hindex, by simp, by simp, by simpa using hlength⟩
  have hbuffer := hlaid.length_buffer
  have hfree := hlaid.freeOffset_eq
  rw [List.flatten_nil, List.append_nil, hlaid.length_header] at hfree
  obtain ⟨frame', hrun⟩ := addCommands_returns calls frame₀ hfree.ge (by omega)
  have hroom : frame₀.buffer.length - frame₀.freeOffset =
      frame.buffer.length - frameHeaderSize := by omega
  rw [hroom] at hrun
  refine ⟨frame₀, _, frame', hinit, hrun, ?_, fun hdata => ⟨?_, ?_⟩⟩
  · rintro ⟨-, pdus, hread, hmap, -⟩ call hcall hempty
    -- what a walk yields has data
    have hmem : call.datagram ∈ pdus.map EtherCatPdu.datagram := by
      rw [hmap]
      exact List.mem_map_of_mem hcall
    obtain ⟨pdu, hpdu, hdatagram⟩ := List.mem_map.mp hmem
    have hpos := EtherCatPdus.forall_isDatagram_of_toList hread pdu hpdu
    have hzero := hpos.length_data
    rw [hdatagram, AddCall.datagram, hempty] at hzero
    exact absurd hzero (Nat.ne_of_lt hpos.1)
  · intro f call f' hadd
    obtain ⟨room, -, hadd⟩ := bind_eq_ok.mp hadd
    split at hadd
    · cases hadd
      rfl
    · obtain ⟨_, -, hadd⟩ := bind_eq_ok.mp hadd
      obtain ⟨_, -, hadd⟩ := bind_eq_ok.mp hadd
      obtain ⟨_, -, hadd⟩ := bind_eq_ok.mp hadd
      obtain ⟨_, -, hadd⟩ := bind_eq_ok.mp hadd
      obtain ⟨_, -, hadd⟩ := bind_eq_ok.mp hadd
      obtain ⟨_, -, hadd⟩ := bind_eq_ok.mp hadd
      cases hadd
  · exact hencodes.addCommands (by omega) hrun hdata

/-- Reads of a word and of a byte, and a datagram that is too long for what is left. -/
def threeCalls : List AddCall :=
  [⟨.fprd, 1, 0x0130, [1, 2], some 5⟩, ⟨.brd, 0, 0x0110, [7], none⟩,
    ⟨.fpwr, 1, 0x1000, List.replicate 8 0, none⟩]

theorem addCommands_readsBack_iff_threeCalls :
    ∃ frame₀ accepted frame', init ⟨List.replicate 60 0, 0, 0⟩ = .ok frame₀ ∧
      addCommands threeCalls frame₀ = .ok (accepted, frame') ∧
      frame'.ReadsBack (accepted.map AddCall.datagram) := by
  obtain ⟨frame₀, accepted, frame', hinit, hrun, hiff⟩ :=
    addCommands_readsBack_iff ⟨List.replicate 60 0, 0, 0⟩ threeCalls (by decide) (by decide)
  exact ⟨frame₀, accepted, frame', hinit, hrun, (hiff.mpr (by decide)).2⟩

/-- A command without data is accepted, and nothing is read back. -/
theorem addCommands_loses_empty_data :
    ∃ frame₀ frame', init ⟨List.replicate 60 0, 0, 0⟩ = .ok frame₀ ∧
      addCommands [⟨.fprd, 1, 0x0130, [], none⟩] frame₀ =
        .ok ([⟨.fprd, 1, 0x0130, [], none⟩], frame') ∧
      frame'.dlpdus = .ok [] ∧
      ¬ frame'.ReadsBack [AddCall.datagram ⟨.fprd, 1, 0x0130, [], none⟩] := by
  obtain ⟨frame₀, header, hinit, hlaid, -⟩ :=
    init_laid ⟨List.replicate 60 0, 0, 0⟩ 44 (by decide)
  have hfree : frame₀.freeOffset = 16 := by
    rw [hlaid.freeOffset_eq, List.flatten_nil, List.append_nil, hlaid.length_header]
    rfl
  have hbuffer := hlaid.length_buffer
  obtain ⟨frame', hrun⟩ := addCommands_returns [⟨.fprd, 1, 0x0130, [], none⟩] frame₀ hfree.ge
    (by omega)
  rw [hbuffer, hfree] at hrun
  have hread : (do
      let frame₀ ← init ⟨List.replicate 60 0, 0, 0⟩
      let result ← addCommands [⟨.fprd, 1, 0x0130, [], none⟩] frame₀
      result.2.dlpdus) = .ok [] := by decide +kernel
  rw [hinit, ok_bind, hrun, ok_bind] at hread
  refine ⟨frame₀, frame', hinit, hrun, hread, ?_⟩
  rintro ⟨pdus, hpdus, hmap, -⟩
  cases hread.symm.trans hpdus
  cases hmap

end EtherCatFrameUtil

end EtherCat
