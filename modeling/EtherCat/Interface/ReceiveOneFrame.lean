import EtherCat.Interface.PduIfSpec

/-!
# Frames from the wire

`receive_one_frame` reads whatever frame the device hands over.  `Receivable` says which frames
it can take: those of another station, and those that end no earlier than their headers and
datagrams announce and that hold no more datagrams than are expected back and than the buffer
has room for.  On every other frame it panics (`receiveOneFrame_returns_iff`).
-/

namespace EtherCat

open Rust Rust.Exec BitField EtherCatPdu

/-! ## Walks over any bytes -/

namespace EtherCatPdus

/-- The bytes of a yielded datagram are those at the offset. -/
lemma pdu_eq_of_next {it it' : EtherCatPdus} {pdu : List UInt8}
    (h : it.next = .ok (some (pdu, it'))) :
    pdu = (it.buffer.drop it.offset).take pdu.length := by
  obtain ⟨hpdu, -, hle, -⟩ := next_eq_some h
  unfold next at h
  split at h
  · cases h
  split at h
  · cases h
  obtain ⟨len, -, h⟩ := bind_eq_ok.mp h
  split at h
  · cases h
  split at h
  swap
  · cases h
  obtain ⟨bytes, hslice, hok⟩ := bind_eq_ok.mp h
  obtain ⟨⟨-, hin⟩, rfl⟩ := slice_eq_ok_iff.mp hslice
  simp only [Except.ok.injEq, Option.some.injEq, Prod.mk.injEq] at hok
  obtain ⟨rfl, -⟩ := hok
  rw [List.drop_take, Nat.add_sub_cancel_left, List.length_take, List.length_drop,
    Nat.min_eq_left (by omega)]

/-- A walk that stops has nothing in front of it that reads as a datagram. -/
lemma endsWalk_of_next {it : EtherCatPdus} (h : it.next = .ok none)
    (hlength : it.length = it.buffer.length) : EndsWalk (it.buffer.drop it.offset) := by
  unfold next at h
  split at h
  · next hend =>
      left
      rw [List.drop_eq_nil_of_le hend]
      decide
  split at h
  · next hshort => exact .inl (by have hh : headerSize = 10 := rfl; omega)
  obtain ⟨len, hget, h⟩ := bind_eq_ok.mp h
  obtain ⟨-, rfl⟩ := Field.get_eq_ok_iff.mp hget
  split at h
  · next hzero => exact .inr hzero
  split at h
  · obtain ⟨bytes, -, hok⟩ := bind_eq_ok.mp h
    cases hok
  · omega

/-- **What a walk reads.**  A walk to the end of a buffer returns exactly when the bytes from its
offset on are datagrams laid end to end and something behind them that ends it. -/
theorem toList_eq_ok_iff_flatten {buffer : List UInt8} {offset : ℕ} {pdus : List (List UInt8)}
    (hoffset : offset ≤ buffer.length) :
    toList ⟨buffer, offset, buffer.length⟩ = .ok pdus ↔
      (∀ pdu ∈ pdus, IsDatagram pdu) ∧
        ∃ rest, buffer.drop offset = pdus.flatten ++ rest ∧ EndsWalk rest := by
  constructor
  · intro h
    refine ⟨forall_isDatagram_of_toList h, ?_⟩
    rw [toList_eq_ok_iff] at h
    -- the walk keeps its buffer and its limit
    generalize hit : (⟨buffer, offset, buffer.length⟩ : EtherCatPdus) = it at h
    induction h generalizing offset with
    | stop hnext =>
        subst hit
        exact ⟨_, rfl, endsWalk_of_next hnext rfl⟩
    | @item it it' pdu pdus hnext _ ih =>
        subst hit
        obtain ⟨-, hit', hle, -⟩ := next_eq_some hnext
        have hpdu := pdu_eq_of_next hnext
        obtain ⟨rest, hrest, hend⟩ := ih hle hit'.symm
        refine ⟨rest, ?_, hend⟩
        rw [List.flatten_cons, List.append_assoc, ← hrest, ← List.drop_drop]
        calc buffer.drop offset
            = (buffer.drop offset).take pdu.length ++ (buffer.drop offset).drop pdu.length :=
              (List.take_append_drop _ _).symm
          _ = pdu ++ (buffer.drop offset).drop pdu.length := by rw [← hpdu]
  · rintro ⟨hpdus, rest, hrest, hend⟩
    have hbuffer : buffer.take offset ++ (pdus.flatten ++ rest) = buffer := by
      rw [← hrest, List.take_append_drop]
    have hpre : (buffer.take offset).length = offset := by
      rw [List.length_take]
      omega
    have hle : (buffer.take offset ++ pdus.flatten).length ≤ buffer.length := by
      have hlength := congrArg List.length hbuffer
      simp only [List.length_append] at hlength ⊢
      omega
    have hread := toList_flatten (buffer.take offset) rest buffer.length hpdus hle (.inl hend)
    rwa [hbuffer, hpre] at hread

end EtherCatPdus

namespace PduInterface

variable {D : Type}

/-! ## Storing any datagrams -/

/-- Datagrams can be stored if they are no more than expected and fit into the buffer. -/
lemma storePdus_returns_iff {pdus : List (List UInt8)} (hpdus : ∀ pdu ∈ pdus, IsDatagram pdu)
    (buffer : List UInt8) (recvDataSize txCount : ℕ) :
    (∃ r, storePdus pdus buffer recvDataSize txCount = .ok r) ↔
      pdus.length ≤ txCount ∧
        (pdus ≠ [] → recvDataSize + pdus.flatten.length ≤ buffer.length) := by
  induction pdus generalizing buffer recvDataSize txCount with
  | nil => simp [storePdus]
  | cons pdu pdus ih =>
      rw [List.forall_mem_cons] at hpdus
      have hlen := hpdus.1.2
      have hget : EtherCatPdu.length.get pdu = .ok (EtherCatPdu.length.val pdu) :=
        Field.get_of_fits (fits hpdus.1.headerSize_le (by decide))
      rw [storePdus, hget, ok_bind, ← hlen]
      dsimp only
      by_cases hroom : recvDataSize + pdu.length ≤ buffer.length
      · have hslice : slice buffer recvDataSize (recvDataSize + pdu.length) =
            .ok ((buffer.take (recvDataSize + pdu.length)).drop recvDataSize) :=
          slice_eq_ok_iff.mpr ⟨⟨Nat.le_add_right _ _, hroom⟩, rfl⟩
        have htarget : ((buffer.take (recvDataSize + pdu.length)).drop recvDataSize).length =
            pdu.length := by
          rw [List.length_drop, List.length_take]
          omega
        rw [hslice, ok_bind, check_of htarget, ok_bind,
          copyFromSlice_eq_ok_iff.mpr ⟨hroom, rfl⟩, ok_bind]
        by_cases hcount : 1 ≤ txCount
        · rw [sub_of_le hcount, ok_bind, ih hpdus.2, length_splice hroom]
          simp only [List.length_cons, List.flatten_cons, List.length_append, ne_eq,
            reduceCtorEq, not_false_eq_true, true_imp_iff]
          constructor
          · rintro ⟨hle, hfits⟩
            refine ⟨by omega, ?_⟩
            rcases pdus with _ | ⟨pdu', pdus⟩
            · simpa using hroom
            · have := hfits (List.cons_ne_nil _ _)
              omega
          · rintro ⟨hle, hfits⟩
            exact ⟨by omega, fun _ => by omega⟩
        · have hsub : Exec.sub txCount 1 = .error .arithmetic := if_neg hcount
          rw [hsub, error_bind]
          simp
          omega
      · have hslice : slice buffer recvDataSize (recvDataSize + pdu.length) = .error .index :=
          if_neg fun h => hroom h.2
        rw [hslice, error_bind]
        simp
        omega

/-! ## Receiving -/

/-- **The frames that can be taken.** -/
def Receivable (iface : PduInterface D) (frame : List UInt8) : Prop :=
  12 ≤ frame.length ∧
    (EthernetFrame.source.val frame = srcMac ∨
      EthernetFrame.headerSize ≤ frame.length ∧
        (EthernetFrame.etherType.val frame ≠ ethercatType ∨
          frameHeaderSize ≤ frame.length ∧
            ∃ pdus rest, frame.drop frameHeaderSize = pdus.flatten ++ rest ∧
              (∀ pdu ∈ pdus, IsDatagram pdu) ∧ EndsWalk rest ∧
              pdus.length ≤ iface.txCount ∧
              (pdus ≠ [] → iface.recvDataSize + pdus.flatten.length ≤ iface.buffer.length)))

/-- Reading the datagrams of a frame and storing them. -/
lemma readAndStore_returns_iff (iface : PduInterface D) (frame : List UInt8) :
    (∃ ecFrame pdus stored, EtherCatFrameUtil.newUnchecked frame = .ok ecFrame ∧
        ecFrame.dlpdus = .ok pdus ∧
        storePdus pdus iface.buffer iface.recvDataSize iface.txCount = .ok stored) ↔
      frameHeaderSize ≤ frame.length ∧
        ∃ pdus rest, frame.drop frameHeaderSize = pdus.flatten ++ rest ∧
          (∀ pdu ∈ pdus, IsDatagram pdu) ∧ EndsWalk rest ∧
          pdus.length ≤ iface.txCount ∧
          (pdus ≠ [] → iface.recvDataSize + pdus.flatten.length ≤ iface.buffer.length) := by
  have hf : frameHeaderSize = 16 := rfl
  have hh : EthernetFrame.headerSize = 14 := rfl
  constructor
  · rintro ⟨ecFrame, pdus, stored, hnew, hread, hstore⟩
    obtain ⟨ecPacket, hpacket, hnew⟩ := bind_eq_ok.mp hnew
    obtain ⟨length, hlength, heq⟩ := bind_eq_ok.mp hnew
    cases heq
    obtain ⟨hle, rfl⟩ := sliceFrom_eq_ok_iff.mp hpacket
    have hfits := (Field.get_eq_ok_iff.mp hlength).1
    have hframe : frameHeaderSize ≤ frame.length := by
      have hmsb : EtherCatFrame.length.msb / 8 = 1 := rfl
      rw [Field.Fits, List.length_drop, hmsb] at hfits
      omega
    obtain ⟨hpdus, rest, hrest, hend⟩ := (EtherCatPdus.toList_eq_ok_iff_flatten hframe).mp hread
    obtain ⟨hcount, hroom⟩ := (storePdus_returns_iff hpdus _ _ _).mp ⟨stored, hstore⟩
    exact ⟨hframe, pdus, rest, hrest, hpdus, hend, hcount, hroom⟩
  · rintro ⟨hframe, pdus, rest, hrest, hpdus, hend, hcount, hroom⟩
    have hfrom : sliceFrom frame EthernetFrame.headerSize = .ok (frame.drop 14) :=
      sliceFrom_eq_ok_iff.mpr ⟨by omega, rfl⟩
    have hfits : EtherCatFrame.length.Fits (frame.drop 14) :=
      Field.fits_of_le (n := 2) (by decide) (by rw [List.length_drop]; omega)
    have hread : EtherCatFrameUtil.dlpdus
        ⟨frame, frameHeaderSize + EtherCatFrame.length.val (frame.drop 14), 0⟩ = .ok pdus :=
      (EtherCatPdus.toList_eq_ok_iff_flatten hframe).mpr ⟨hpdus, rest, hrest, hend⟩
    obtain ⟨stored, hstore⟩ := (storePdus_returns_iff hpdus _ _ _).mpr ⟨hcount, hroom⟩
    refine ⟨_, pdus, stored, ?_, hread, hstore⟩
    rw [EtherCatFrameUtil.newUnchecked, hfrom, ok_bind, Field.get_of_fits hfits, ok_bind]

section
variable [RawEthernetDevice D]

lemma receiveOneFrame_of_frame {iface : PduInterface D} (hcount : 0 < iface.txCount)
    {frame : List UInt8} {result : Except DeviceError Unit} {ethdev : D}
    (hrecv : RawEthernetDevice.receive iface.ethdev = .some (.frame frame result ethdev)) :
    (∃ r, iface.receiveOneFrame = .ok r) ↔ iface.Receivable frame := by
  have hne : iface.txCount ≠ 0 := Nat.ne_of_gt hcount
  simp only [receiveOneFrame, hne, if_false, hrecv]
  rw [Receivable]
  by_cases hsource : 12 ≤ frame.length
  swap
  · have hget : EthernetFrame.source.get frame = .error .index := if_neg hsource
    simp [hget, hsource]
  have hget : EthernetFrame.source.get frame = .ok (EthernetFrame.source.val frame) :=
    Field.get_of_fits (Field.fits_of_le (by decide) hsource)
  simp only [hget, ok_bind, hsource, true_and]
  by_cases hown : EthernetFrame.source.val frame = srcMac
  · simp only [hown, true_or, iff_true, if_true]
    rcases result with e | ⟨⟩ <;> exact ⟨_, rfl⟩
  simp only [hown, false_or, if_false]
  by_cases htype : EthernetFrame.headerSize ≤ frame.length
  swap
  · have hget' : EthernetFrame.etherType.get frame = .error .index :=
      if_neg fun h => htype (show 14 ≤ frame.length from h)
    simp [hget', htype]
  have hget' : EthernetFrame.etherType.get frame = .ok (EthernetFrame.etherType.val frame) :=
    Field.get_of_fits (Field.fits_of_le (by decide) htype)
  simp only [hget', ok_bind, htype, true_and]
  by_cases hforeign : EthernetFrame.etherType.val frame ≠ ethercatType
  · simp only [hforeign, if_true, ne_eq, not_false_eq_true, true_or, iff_true]
    rcases result with e | ⟨⟩ <;> exact ⟨_, rfl⟩
  -- an EtherCAT frame of another station: the rest depends on its datagrams
  rw [if_neg hforeign, or_iff_right hforeign, ← readAndStore_returns_iff]
  constructor
  · rintro ⟨r, hr⟩
    obtain ⟨ecFrame, hnew, hr⟩ := bind_eq_ok.mp hr
    obtain ⟨pdus, hread, hr⟩ := bind_eq_ok.mp hr
    obtain ⟨stored, hstore, -⟩ := bind_eq_ok.mp hr
    exact ⟨ecFrame, pdus, stored, hnew, hread, hstore⟩
  · rintro ⟨ecFrame, pdus, stored, hnew, hread, hstore⟩
    rw [hnew, ok_bind, hread, ok_bind, hstore, ok_bind]
    rcases result with e | ⟨⟩ <;> exact ⟨_, rfl⟩

/-- **Exactly the receivable frames are taken.** -/
theorem receiveOneFrame_returns_iff (iface : PduInterface D) :
    (∃ r, iface.receiveOneFrame = .ok r) ↔
      (0 < iface.txCount → ∀ frame result ethdev,
        RawEthernetDevice.receive iface.ethdev = .some (.frame frame result ethdev) →
          iface.Receivable frame) := by
  by_cases hcount : 0 < iface.txCount
  swap
  · have hzero : iface.txCount = 0 := by omega
    exact ⟨fun _ h => absurd h hcount, fun _ => ⟨_, receiveOneFrame_of_zero hzero⟩⟩
  have hne : iface.txCount ≠ 0 := Nat.ne_of_gt hcount
  rcases hrecv : RawEthernetDevice.receive iface.ethdev with
    ethdev | (⟨e, ethdev⟩ | ⟨frame, result, ethdev⟩)
  · constructor
    · rintro - - frame' result' ethdev' ⟨⟩
    · exact fun _ => ⟨_, receiveOneFrame_of_none hne hrecv⟩
  · constructor
    · rintro - - frame' result' ethdev' ⟨⟩
    · intro
      refine ⟨(.error .rxError, { iface with ethdev := ethdev }), ?_⟩
      simp only [receiveOneFrame, hne, if_false, hrecv]
  · rw [receiveOneFrame_of_frame hcount hrecv]
    constructor
    · rintro h - frame' result' ethdev' heq
      cases heq
      exact h
    · exact fun h => h hcount frame result ethdev rfl

end

/-! ## Frames that are not receivable -/

/-- A segment that answers every frame with the same bytes. -/
structure Injector where
  received : List UInt8

instance : RawEthernetDevice Injector where
  transmit d := .some fun len => .filled (List.replicate len 0) fun _ => (.ok (), d)
  receive d := .some (.frame d.received (.ok ()) d)

/-- The interface after the transmission of one datagram with two bytes of data. -/
def Injector.transmitOne (received : List UInt8) : Exec (PduInterface Injector) := do
  let iface := PduInterface.new (Injector.mk received) (List.replicate 64 0)
  let (_, iface) ← iface.addPdu 0 (.newRead (.single (.stationAddress 1)) 0x0130) 2
    .keep
  let (_, iface) ← iface.transmitOneFrame
  .ok iface

/-- A datagram as it comes back. -/
def Injector.answer : List UInt8 := [0x04, 0, 1, 0, 0x30, 0x01, 2, 0, 0, 0, 0x08, 0, 1, 0]

/-- The headers of a frame as it comes back. -/
def Injector.headers : List UInt8 :=
  List.replicate 6 0xFF ++ [0x07, 0x05, 0x05, 0x05, 0x05, 0x05] ++ [0x88, 0xA4] ++ [28, 0x10]

/-- A frame of ten bytes, a datagram that is cut off and one datagram too many make
`receive_one_frame` panic; the frame that was waited for does not. -/
theorem receiveOneFrame_panics_on_malformed :
    let received (frame : List UInt8) :=
      (Injector.transmitOne frame >>= receiveOneFrame).map Prod.fst
    (Injector.transmitOne []).map txCount = .ok 1 ∧
      received (Injector.headers ++ Injector.answer) = .ok (.ok true) ∧
      received (Injector.headers.take 10) = .error .index ∧
      received (Injector.headers ++ Injector.answer.take 10) = .error .index ∧
      received (Injector.headers ++ Injector.answer ++ Injector.answer) = .error .arithmetic := by
  decide +kernel

end PduInterface

end EtherCat
