import EtherCat.Foundation.Transition
import EtherCat.Interface.PduIfSpec

/-!
# A sequence of `add_pdu` calls

`add_pdu` zeroes two bytes behind the data of a new PDU, but one byte too late: not the working
counter, but its second byte and the byte behind the PDU.  The first byte of the working counter
keeps what the buffer held, and a PDU that ends with the buffer makes the call panic
(`along_appends_iff`).
-/

namespace EtherCat

open Rust Rust.Exec BitField EtherCatPdu PduInterface

variable {D : Type}

/-- The arguments of a call of `add_pdu`. -/
structure PduCall where
  pduIndex : UInt8
  command : Command
  dataSize : ℕ
  dataWriter : SliceWriter UInt8

namespace PduCall

/-- The PDU that a call is to leave, with this data. -/
def datagram (call : PduCall) (data : List UInt8) : Datagram :=
  ⟨call.pduIndex, call.command.cType, call.command.adp, call.command.ado, data⟩

/-- The capacity check or the check of the data size refuses the call. -/
def Refused (call : PduCall) (iface : PduInterface D) : Prop :=
  iface.capacity < iface.pdusTotalSize + headerSize + call.dataSize + wkcLength ∨
    maxPduDatagram < call.dataSize

instance (call : PduCall) (iface : PduInterface D) : Decidable (call.Refused iface) :=
  inferInstanceAs (Decidable (_ ∨ _))

/-- What the writer leaves in its part of the buffer. -/
def data (call : PduCall) (iface : PduInterface D) : List UInt8 :=
  call.dataWriter.run
    ((iface.buffer.drop (iface.pdusTotalSize + headerSize)).take call.dataSize)

end PduCall

/-- The interface and the PDUs that it has accepted since the buffer was emptied. -/
structure Adding (D : Type) where
  iface : PduInterface D
  accepted : List Datagram

namespace Adding

/-- A call of `add_pdu`; the sum of the capacity check is one of 64 bits. -/
def step (s : Adding D) (call : PduCall) : Exec (Adding D) := do
  let _ ← check (s.iface.pdusTotalSize + headerSize + call.dataSize + wkcLength < 2 ^ 64)
    .arithmetic ()
  let (result, iface) ← s.iface.addPdu call.pduIndex call.command call.dataSize call.dataWriter
  match result with
  | .error _ => .ok { s with iface := iface }
  | .ok () => .ok ⟨iface, s.accepted ++ [call.datagram (call.data s.iface)]⟩

/-- Iterating over the buffer yields the accepted PDUs, each with a working counter of zero. -/
def ReadsBack (s : Adding D) : Prop :=
  ∃ pdus, (EtherCatPdus.new s.iface.buffer s.iface.pdusTotalSize 0).toList = .ok pdus ∧
    pdus.map EtherCatPdu.datagram = s.accepted ∧ ∀ pdu ∈ pdus, EtherCatPdu.wkc pdu = .ok (some 0)

/-- The PDU that the call has added lies in the buffer, and no other byte has changed. -/
structure WritesOwn (s : Adding D) (call : PduCall) (s' : Adding D) : Prop where
  accepted_eq : s'.accepted = s.accepted ++ [call.datagram (call.data s.iface)]
  iface_eq : s'.iface = { s.iface with
    buffer := s'.iface.buffer
    pdusTotalSize := s.iface.pdusTotalSize + (headerSize + call.dataSize + wkcLength)
    pduCount := s.iface.pduCount + 1 }
  total_le : s'.iface.pdusTotalSize ≤ s.iface.buffer.length
  length_eq : s'.iface.buffer.length = s.iface.buffer.length
  before_eq : s'.iface.buffer.take s.iface.pdusTotalSize =
    s.iface.buffer.take s.iface.pdusTotalSize
  behind_eq : s'.iface.buffer.drop s'.iface.pdusTotalSize =
    s.iface.buffer.drop s'.iface.pdusTotalSize

/-- **What is promised of a call.**  It returns, having refused the PDU and left everything as it
was or having written the bytes of the PDU and no others, and the buffer reads back. -/
def Appends (s : Adding D) (call : PduCall) : Prop :=
  ∃ s', s.step call = .ok s' ∧ (s' = s ∨ s.WritesOwn call s') ∧ s'.ReadsBack

/-- The call is refused, or it has data, there is a byte behind its PDU, and this byte and the first
one of the working counter are zero already. -/
structure IsClear (s : Adding D) (call : PduCall) : Prop where
  sum_lt : s.iface.pdusTotalSize + headerSize + call.dataSize + wkcLength < 2 ^ 64
  clear : call.Refused s.iface ∨ 0 < call.dataSize ∧
    s.iface.buffer[s.iface.pdusTotalSize + headerSize + call.dataSize]? = some 0 ∧
    s.iface.buffer[s.iface.pdusTotalSize + headerSize + call.dataSize + wkcLength]? = some 0

lemma isClear_iff {s : Adding D} {call : PduCall} : s.IsClear call ↔
    s.iface.pdusTotalSize + headerSize + call.dataSize + wkcLength < 2 ^ 64 ∧
      (call.Refused s.iface ∨ 0 < call.dataSize ∧
        s.iface.buffer[s.iface.pdusTotalSize + headerSize + call.dataSize]? = some 0 ∧
        s.iface.buffer[s.iface.pdusTotalSize + headerSize + call.dataSize + wkcLength]? = some 0) :=
  ⟨fun h => ⟨h.sum_lt, h.clear⟩, fun h => ⟨h.1, h.2⟩⟩

instance (s : Adding D) (call : PduCall) : Decidable (s.IsClear call) :=
  decidable_of_iff _ isClear_iff.symm

/-! ## The bytes of a call -/

section

variable {iface : PduInterface D} {call : PduCall} {before room old behind : List UInt8}

lemma addPdu_of_room (hbuffer : iface.buffer = before ++ room ++ old ++ behind)
    (hbefore : iface.pdusTotalSize = before.length) (hroom : room.length = headerSize)
    (hold : call.dataSize = old.length) (haccepted : ¬ call.Refused iface) :
    ∃ header, header.length = headerSize ∧
      (∀ a ∈ headerOf (call.datagram (call.dataWriter.run old)), a.1.val header = a.2) ∧
      iface.addPdu call.pduIndex call.command call.dataSize call.dataWriter = (do
        let buffer ← setIndex (before ++ header ++ call.dataWriter.run old ++ behind)
          (iface.pdusTotalSize + headerSize + call.dataSize + 1) 0
        let buffer ← setIndex buffer (iface.pdusTotalSize + headerSize + call.dataSize + 2) 0
        .ok (.ok (), { iface with
          buffer := buffer
          pdusTotalSize := iface.pdusTotalSize + (headerSize + call.dataSize + wkcLength)
          pduCount := iface.pduCount + 1 })) := by
  have hmax : maxPduDatagram = 1486 := rfl
  obtain ⟨hcapacity, hsize⟩ := not_or.mp haccepted
  have hdata : (call.dataWriter.run old).length = call.dataSize :=
    (call.dataWriter.length_run old).trans hold.symm
  obtain ⟨header, hheader, hlength, hvals⟩ := newHeader_eq call.pduIndex call.command
    (call.dataWriter.run old) call.dataSize hdata.symm (by omega)
  refine ⟨header, hlength, hvals, ?_⟩
  have hstart : iface.pdusTotalSize + headerSize = (before ++ header).length := by
    rw [List.length_append, hlength, hbefore]
  have hfirst : copyFromSlice iface.buffer iface.pdusTotalSize header =
      .ok (before ++ header ++ old ++ behind) := by
    refine copyFromSlice_eq_ok_iff.mpr ⟨?_, ?_⟩
    · rw [hbuffer, hbefore]
      simp only [List.length_append]
      omega
    · rw [hbuffer, List.append_assoc before room, List.append_assoc before (room ++ old),
        splice_append hbefore, hlength, ← hroom, List.append_assoc room, List.drop_left,
        List.append_assoc (before ++ header)]
  have hslice : slice (before ++ header ++ old ++ behind) (iface.pdusTotalSize + headerSize)
      (iface.pdusTotalSize + headerSize + call.dataSize) = .ok old := by
    refine slice_eq_ok_iff.mpr ⟨⟨by omega, ?_⟩, ?_⟩
    · rw [hstart, hold]
      simp only [List.length_append]
      omega
    · rw [hstart, hold, List.append_assoc, List.take_length_add_append, List.drop_left,
        List.take_left]
  have hsecond : copyFromSlice (before ++ header ++ old ++ behind)
      (iface.pdusTotalSize + headerSize) (call.dataWriter.run old) =
      .ok (before ++ header ++ call.dataWriter.run old ++ behind) := by
    refine copyFromSlice_eq_ok_iff.mpr ⟨?_, ?_⟩
    · rw [hstart, hdata, hold]
      simp only [List.length_append]
      omega
    · rw [List.append_assoc _ old, splice_append hstart, hdata, hold, List.drop_left]
  have hnot : ¬ iface.pdusTotalSize + headerSize + call.dataSize + wkcLength > iface.capacity :=
    hcapacity
  simp only [addPdu, if_neg hnot, if_neg hsize, hheader, ok_bind, hfirst, hslice, hsecond]

lemma setIndex_append {pre l : List UInt8} {i k : ℕ} (hi : i = pre.length + k) (hk : k < l.length)
    (a : UInt8) : setIndex (pre ++ l) i a = .ok (pre ++ l.set k a) := by
  subst hi
  refine setIndex_eq_ok_iff.mpr ⟨?_, ?_⟩
  · rw [List.length_append]
    omega
  · rw [List.set_append_right _ _ (by omega), Nat.add_sub_cancel_left]

lemma length_written (hbefore : iface.pdusTotalSize = before.length)
    (hold : call.dataSize = old.length) {header : List UInt8} (hheader : header.length = headerSize) :
    (before ++ header ++ call.dataWriter.run old).length =
      iface.pdusTotalSize + headerSize + call.dataSize := by
  rw [List.length_append, List.length_append, hheader, call.dataWriter.length_run, hbefore, hold]

/-- A PDU that ends with the buffer. -/
lemma addPdu_of_tight {a b : UInt8} (hbuffer : iface.buffer = before ++ room ++ old ++ [a, b])
    (hbefore : iface.pdusTotalSize = before.length) (hroom : room.length = headerSize)
    (hold : call.dataSize = old.length) (haccepted : ¬ call.Refused iface) :
    iface.addPdu call.pduIndex call.command call.dataSize call.dataWriter = .error .index := by
  obtain ⟨header, hheader, -, hadd⟩ := addPdu_of_room hbuffer hbefore hroom hold haccepted
  have hlength := length_written hbefore hold hheader
  have hsecond : setIndex (before ++ header ++ call.dataWriter.run old ++ [a, 0])
      (iface.pdusTotalSize + headerSize + call.dataSize + 2) 0 = .error .index := by
    refine if_neg ?_
    rw [List.length_append, hlength]
    exact Nat.lt_irrefl _
  rw [hadd, setIndex_append (congrArg (· + 1) hlength.symm) (by simp)]
  change (setIndex _ _ _ >>= _) = _
  rw [show [a, b].set 1 0 = [a, 0] from rfl, hsecond]
  rfl

/-- A PDU with a byte behind it. -/
lemma addPdu_of_loose {a b c : UInt8}
    (hbuffer : iface.buffer = before ++ room ++ old ++ a :: b :: c :: behind)
    (hbefore : iface.pdusTotalSize = before.length) (hroom : room.length = headerSize)
    (hold : call.dataSize = old.length) (haccepted : ¬ call.Refused iface) :
    ∃ header, header.length = headerSize ∧
      (∀ a ∈ headerOf (call.datagram (call.dataWriter.run old)), a.1.val header = a.2) ∧
      iface.addPdu call.pduIndex call.command call.dataSize call.dataWriter =
        .ok (.ok (), { iface with
          buffer := before ++ header ++ call.dataWriter.run old ++ a :: 0 :: 0 :: behind
          pdusTotalSize := iface.pdusTotalSize + (headerSize + call.dataSize + wkcLength)
          pduCount := iface.pduCount + 1 }) := by
  obtain ⟨header, hheader, hvals, hadd⟩ := addPdu_of_room hbuffer hbefore hroom hold haccepted
  have hlength := length_written hbefore hold hheader
  refine ⟨header, hheader, hvals, ?_⟩
  rw [hadd, setIndex_append (congrArg (· + 1) hlength.symm) (by simp)]
  change (setIndex _ _ _ >>= _) = _
  rw [setIndex_append (congrArg (· + 2) hlength.symm) (by simp)]
  rfl

end

/-! ## One call -/

/-- The invariant: the accepted PDUs lie in the buffer. -/
structure Holds (s : Adding D) : Prop where
  capacity_eq : s.iface.capacity = min s.iface.buffer.length maxEthercatDatagram
  total_le : s.iface.pdusTotalSize ≤ s.iface.capacity
  buffered : ∃ pdus, s.iface.Buffered pdus ∧ pdus.map EtherCatPdu.datagram = s.accepted ∧
    ∀ pdu ∈ pdus, EtherCatPdu.wkc pdu = .ok (some 0)

lemma Holds.readsBack {s : Adding D} (h : s.Holds) : s.ReadsBack := by
  obtain ⟨pdus, hbuffered, haccepted, hwkc⟩ := h.buffered
  exact ⟨pdus, hbuffered.toList_eq, haccepted, hwkc⟩

/-- The bytes that an accepted call finds. -/
lemma Holds.exists_bytes {s : Adding D} (h : s.Holds) {call : PduCall}
    (haccepted : ¬ call.Refused s.iface) {pdus : List (List UInt8)}
    (hbuffered : s.iface.Buffered pdus) :
    ∃ room old a b behind, s.iface.buffer = pdus.flatten ++ room ++ old ++ a :: b :: behind ∧
      room.length = headerSize ∧ call.dataSize = old.length := by
  obtain ⟨rest, hbuffer⟩ := hbuffered.buffer_eq
  have htotal := hbuffered.total_eq
  obtain ⟨hcapacity, -⟩ := not_or.mp haccepted
  have hcapacity' := h.capacity_eq
  have hw : wkcLength = 2 := rfl
  have hrest : headerSize + call.dataSize + 2 ≤ rest.length := by
    have hlength : s.iface.buffer.length = pdus.flatten.length + rest.length := by
      rw [hbuffer, List.length_append]
    omega
  have htail : 2 ≤ ((rest.drop headerSize).drop call.dataSize).length := by
    rw [List.length_drop, List.length_drop]
    omega
  rcases hdrop : (rest.drop headerSize).drop call.dataSize with _ | ⟨a, _ | ⟨b, behind⟩⟩
  · rw [hdrop, List.length_nil] at htail
    omega
  · rw [hdrop, List.length_singleton] at htail
    omega
  · refine ⟨rest.take headerSize, (rest.drop headerSize).take call.dataSize, a, b, behind, ?_,
      ?_, ?_⟩
    · rw [hbuffer, ← hdrop, List.append_assoc, List.take_append_drop, List.append_assoc,
        List.take_append_drop]
    · rw [List.length_take]
      omega
    · rw [List.length_take, List.length_drop]
      omega

/-- The working counter of a PDU is the two bytes behind its data. -/
lemma wkc_of_header {header data : List UInt8} {a b : UInt8} (hheader : header.length = headerSize)
    (hlength : EtherCatPdu.length.val header = data.length) :
    EtherCatPdu.wkc (header ++ data ++ [a, b]) =
      .ok (some ((b.toUInt16 <<< 8) ||| a.toUInt16)) := by
  have hfits : EtherCatPdu.length.Fits (header ++ data ++ [a, b]) := by
    refine fits ?_ (by decide)
    simp only [List.length_append]
    omega
  have hval : EtherCatPdu.length.val (header ++ data ++ [a, b]) = data.length := by
    rw [List.append_assoc, Field.val_append_left (fits (Nat.le_of_eq hheader.symm) (by decide)),
      hlength]
  have hbody : (header ++ data).length = headerSize + data.length := by
    rw [List.length_append, hheader]
  have hlow : (header ++ data ++ [a, b])[headerSize + data.length]? = some a := by
    rw [← hbody, List.getElem?_append_right (Nat.le_refl _), Nat.sub_self]
    rfl
  have hhigh : (header ++ data ++ [a, b])[headerSize + data.length + 1]? = some b := by
    rw [← hbody, List.getElem?_append_right (Nat.le_add_right _ 1), Nat.add_sub_cancel_left]
    rfl
  simp only [EtherCatPdu.wkc, Field.get_of_fits hfits, ok_bind, hval, hlow, hhigh]

lemma toUInt16_eq_zero_iff {a : UInt8} :
    ((0 : UInt8).toUInt16 <<< 8) ||| a.toUInt16 = 0 ↔ a = 0 := by
  constructor
  · intro h
    have hzero : a.toUInt16 = 0 := by simpa using h
    exact UInt8.toNat_inj.mp (by simpa using congrArg UInt16.toNat hzero)
  · rintro rfl
    decide

section

variable {s : Adding D} {call : PduCall} {pdus : List (List UInt8)}
  {room old behind header : List UInt8} {a b c : UInt8}

/-- What an accepted call leaves if there is a byte behind its PDU. -/
def left (s : Adding D) (call : PduCall) (pdus : List (List UInt8)) (header : List UInt8) (a : UInt8)
    (behind : List UInt8) : Adding D where
  iface := { s.iface with
    buffer := pdus.flatten ++ header ++ call.data s.iface ++ a :: 0 :: 0 :: behind
    pdusTotalSize := s.iface.pdusTotalSize + (headerSize + call.dataSize + wkcLength)
    pduCount := s.iface.pduCount + 1 }
  accepted := s.accepted ++ [call.datagram (call.data s.iface)]

lemma step_of_loose
    (hsum : s.iface.pdusTotalSize + headerSize + call.dataSize + wkcLength < 2 ^ 64)
    (haccepted : ¬ call.Refused s.iface) (hbuffered : s.iface.Buffered pdus)
    (hbuffer : s.iface.buffer = pdus.flatten ++ room ++ old ++ a :: b :: c :: behind)
    (hroom : room.length = headerSize) (hold : call.dataSize = old.length) :
    (call.data s.iface).length = call.dataSize ∧ ∃ header, header.length = headerSize ∧
      (∀ a ∈ headerOf (call.datagram (call.data s.iface)), a.1.val header = a.2) ∧
      s.step call = .ok (s.left call pdus header a behind) := by
  obtain ⟨header, hheader, hvals, hadd⟩ :=
    addPdu_of_loose hbuffer hbuffered.total_eq hroom hold haccepted
  have hdata : call.data s.iface = call.dataWriter.run old := by
    rw [PduCall.data, hbuffer, hbuffered.total_eq, ← hroom, ← List.length_append, hold,
      List.append_assoc (pdus.flatten ++ room), List.drop_left, List.take_left]
  rw [← hdata] at hvals hadd
  refine ⟨hdata ▸ (call.dataWriter.length_run old).trans hold.symm, header, hheader, hvals, ?_⟩
  rw [step, check_of hsum, ok_bind, hadd]
  rfl

lemma wkc_written (hheader : header.length = headerSize)
    (hvals : ∀ a ∈ headerOf (call.datagram (call.data s.iface)), a.1.val header = a.2) :
    EtherCatPdu.wkc (header ++ call.data s.iface ++ [a, 0]) = .ok (some 0) ↔ a = 0 := by
  have hlength : EtherCatPdu.length.val header = (call.data s.iface).length :=
    hvals (EtherCatPdu.length, (call.data s.iface).length) (by simp [headerOf, PduCall.datagram])
  rw [wkc_of_header hheader hlength, ← toUInt16_eq_zero_iff (a := a)]
  simp

/-- The accepted PDU lies behind the others, unless it has no data. -/
lemma buffered_left (a : UInt8) (behind : List UInt8) (hbuffered : s.iface.Buffered pdus)
    (hheader : header.length = headerSize)
    (hvals : ∀ a ∈ headerOf (call.datagram (call.data s.iface)), a.1.val header = a.2)
    (hdata : (call.data s.iface).length = call.dataSize) (hpos : 0 < call.dataSize) :
    (s.left call pdus header a behind).iface.Buffered
        (pdus ++ [header ++ call.data s.iface ++ [a, 0]]) ∧
      EtherCatPdu.datagram (header ++ call.data s.iface ++ [a, 0]) =
        call.datagram (call.data s.iface) := by
  obtain ⟨hpdu, hdatagram⟩ := datagram_of_header hheader
    (show ([a, 0] : List UInt8).length = wkcLength from rfl) hvals
    (hdata ▸ hpos : 0 < (call.data s.iface).length)
  refine ⟨⟨?_, ⟨0 :: behind, ?_⟩, ?_⟩, hdatagram⟩
  · intro pdu hmem
    rcases List.mem_append.mp hmem with hmem | hmem
    · exact hbuffered.isDatagram pdu hmem
    · rw [List.mem_singleton.mp hmem]
      exact hpdu
  · simp [left]
  · simp [left, hbuffered.total_eq, hheader, hdata, wkcLength]
    omega

/-- The walk stops in front of a PDU without data. -/
lemma not_readsBack_left (hbuffered : s.iface.Buffered pdus)
    (haccepted : pdus.map EtherCatPdu.datagram = s.accepted) (hheader : header.length = headerSize)
    (hvals : ∀ a ∈ headerOf (call.datagram (call.data s.iface)), a.1.val header = a.2)
    (hdata : (call.data s.iface).length = call.dataSize) (hzero : call.dataSize = 0) :
    ¬ (s.left call pdus header a behind).ReadsBack := by
  have hlength : EtherCatPdu.length.val header = (call.data s.iface).length :=
    hvals (EtherCatPdu.length, (call.data s.iface).length) (by simp [headerOf, PduCall.datagram])
  have hends : EndsWalk (header ++ (call.data s.iface ++ a :: 0 :: 0 :: behind)) := by
    refine .inr ?_
    rw [Field.val_append_left (fits (Nat.le_of_eq hheader.symm) (by decide)), hlength, hdata, hzero]
  have hwalk := EtherCatPdus.toList_flatten [] _ (s.left call pdus header a behind).iface.pdusTotalSize
    hbuffered.isDatagram (by simp [left, hbuffered.total_eq]) (.inl hends)
  rintro ⟨pdus', hread, hmap, -⟩
  have hbuffer : (s.left call pdus header a behind).iface.buffer =
      [] ++ (pdus.flatten ++ (header ++ (call.data s.iface ++ a :: 0 :: 0 :: behind))) := by
    simp [left]
  rw [EtherCatPdus.new, hbuffer] at hread
  cases hwalk.symm.trans hread
  have hcount := congrArg List.length hmap
  rw [haccepted] at hcount
  simp [left] at hcount

/-! ## The condition of a call -/

lemma getElem?_behind (hbuffered : s.iface.Buffered pdus)
    (hbuffer : s.iface.buffer = pdus.flatten ++ room ++ old ++ a :: b :: behind)
    (hroom : room.length = headerSize) (hold : call.dataSize = old.length) (k : ℕ) :
    s.iface.buffer[s.iface.pdusTotalSize + headerSize + call.dataSize + k]? =
      (a :: b :: behind)[k]? := by
  have hlength : s.iface.pdusTotalSize + headerSize + call.dataSize =
      (pdus.flatten ++ room ++ old).length := by
    simp [hbuffered.total_eq, hroom, hold]
    omega
  rw [hbuffer, hlength, List.getElem?_append_right (Nat.le_add_right _ _), Nat.add_sub_cancel_left]

lemma step_of_refused
    (hsum : s.iface.pdusTotalSize + headerSize + call.dataSize + wkcLength < 2 ^ 64)
    (hrefused : call.Refused s.iface) : s.step call = .ok s := by
  have hadd : s.iface.addPdu call.pduIndex call.command call.dataSize call.dataWriter =
      .ok (.error call.command, s.iface) := by
    rcases hrefused with hcapacity | hsize
    · exact if_pos hcapacity
    · rw [addPdu, if_pos hsize, ite_self]
  rw [step, check_of hsum, ok_bind, hadd]
  rfl

/-- No other byte has changed if the one behind the PDU was zero already. -/
lemma writesOwn_left_iff (hbuffered : s.iface.Buffered pdus)
    (hbuffer : s.iface.buffer = pdus.flatten ++ room ++ old ++ a :: b :: c :: behind)
    (hroom : room.length = headerSize) (hold : call.dataSize = old.length)
    (hheader : header.length = headerSize) (hdata : (call.data s.iface).length = call.dataSize) :
    s.WritesOwn call (s.left call pdus header a behind) ↔ c = 0 := by
  have htotal := hbuffered.total_eq
  have hw : wkcLength = 2 := rfl
  have hdropOld : s.iface.buffer.drop (s.left call pdus header a behind).iface.pdusTotalSize =
      c :: behind := by
    have hsplit : s.iface.buffer = (pdus.flatten ++ room ++ old ++ [a, b]) ++ c :: behind := by
      rw [hbuffer]
      simp
    rw [hsplit]
    refine List.drop_left' ?_
    simp only [left, List.length_append, List.length_cons, List.length_nil]
    omega
  have hdropNew : (s.left call pdus header a behind).iface.buffer.drop
      (s.left call pdus header a behind).iface.pdusTotalSize = 0 :: behind := by
    have hsplit : (s.left call pdus header a behind).iface.buffer =
        (pdus.flatten ++ header ++ call.data s.iface ++ [a, 0]) ++ 0 :: behind := by
      simp [left]
    rw [hsplit]
    refine List.drop_left' ?_
    simp only [left, List.length_append, List.length_cons, List.length_nil]
    omega
  constructor
  · intro h
    have hbehind := h.behind_eq
    rw [hdropNew, hdropOld] at hbehind
    exact (List.cons.inj hbehind).1.symm
  · rintro rfl
    refine ⟨rfl, rfl, ?_, ?_, ?_, hdropNew.trans hdropOld.symm⟩
    · rw [hbuffer]
      simp only [left, List.length_append, List.length_cons]
      omega
    · rw [hbuffer]
      simp only [left, List.length_append, List.length_cons]
      omega
    · rw [hbuffer, htotal]
      simp only [left, List.append_assoc, List.take_left]

/-- A call that meets the condition keeps its promise and the invariant. -/
lemma Holds.step_of_isClear (h : s.Holds) (hclear : s.IsClear call) :
    ∃ s', s.step call = .ok s' ∧ (s' = s ∨ s.WritesOwn call s') ∧ s'.Holds := by
  obtain ⟨hsum, hclear⟩ := hclear
  by_cases hrefused : call.Refused s.iface
  · exact ⟨s, step_of_refused hsum hrefused, .inl rfl, h⟩
  obtain ⟨hpos, hlow, hbehind⟩ := hclear.resolve_left hrefused
  obtain ⟨pdus, hbuffered, haccepted, hwkc⟩ := h.buffered
  obtain ⟨room, old, a, b, behind, hbuffer, hroom, hold⟩ := h.exists_bytes hrefused hbuffered
  have hget := getElem?_behind hbuffered hbuffer hroom hold
  have hlow' := (hget 0).symm.trans hlow
  have hbehind' := (hget 2).symm.trans hbehind
  rcases behind with _ | ⟨c, behind⟩
  · cases hbehind'
  cases hlow'
  cases hbehind'
  obtain ⟨hdata, header, hheader, hvals, hstep⟩ :=
    step_of_loose hsum hrefused hbuffered hbuffer hroom hold
  obtain ⟨hbuffered', hdatagram⟩ := buffered_left 0 behind hbuffered hheader hvals hdata hpos
  have hwrites := (writesOwn_left_iff hbuffered hbuffer hroom hold hheader hdata).mpr rfl
  refine ⟨_, hstep, .inr hwrites, ⟨?_, ?_, _, hbuffered', ?_, ?_⟩⟩
  · rw [hwrites.length_eq]
    exact h.capacity_eq
  · obtain ⟨hcapacity, -⟩ := not_or.mp hrefused
    simp only [left]
    omega
  · rw [List.map_append, haccepted, List.map_singleton, hdatagram]
    rfl
  · intro pdu hmem
    rcases List.mem_append.mp hmem with hmem | hmem
    · exact hwkc pdu hmem
    · rw [List.mem_singleton.mp hmem]
      exact (wkc_written hheader hvals).mpr rfl

/-- **A call**, at a buffer that holds the accepted PDUs. -/
theorem Holds.appends_iff (h : s.Holds) (call : PduCall) : s.Appends call ↔ s.IsClear call := by
  constructor
  swap
  · intro hclear
    obtain ⟨s', hstep, hcases, h'⟩ := h.step_of_isClear hclear
    exact ⟨s', hstep, hcases, h'.readsBack⟩
  rintro ⟨s', hstep, hcases, hreads⟩
  have hsum := (check_eq_ok_iff.mp (bind_eq_ok.mp hstep).choose_spec.1).1
  refine ⟨hsum, ?_⟩
  by_cases hrefused : call.Refused s.iface
  · exact .inl hrefused
  obtain ⟨pdus, hbuffered, haccepted, hwkc⟩ := h.buffered
  obtain ⟨room, old, a, b, behind, hbuffer, hroom, hold⟩ := h.exists_bytes hrefused hbuffered
  have hget := getElem?_behind hbuffered hbuffer hroom hold
  rcases behind with _ | ⟨c, behind⟩
  · rw [step, check_of hsum, ok_bind,
      addPdu_of_tight hbuffer hbuffered.total_eq hroom hold hrefused] at hstep
    cases hstep
  obtain ⟨hdata, header, hheader, hvals, hleft⟩ :=
    step_of_loose hsum hrefused hbuffered hbuffer hroom hold
  cases hleft.symm.trans hstep
  have hpos : 0 < call.dataSize := by
    by_contra hzero
    exact not_readsBack_left hbuffered haccepted hheader hvals hdata (by omega) hreads
  have hwrites := hcases.resolve_left fun heq => by
    have hcount := congrArg (fun s => s.iface.pduCount) heq
    simp [left] at hcount
  refine .inr ⟨hpos, (hget 0).trans ?_, (hget 2).trans ?_⟩
  · obtain ⟨pdus', hread, -, hwkc'⟩ := hreads
    obtain ⟨hbuffered', -⟩ := buffered_left a behind hbuffered hheader hvals hdata hpos
    cases hbuffered'.toList_eq.symm.trans hread
    have hzero := (wkc_written hheader hvals).mp
      (hwkc' _ (List.mem_append_right _ (List.mem_singleton_self _)))
    rw [hzero]
    rfl
  · rw [(writesOwn_left_iff hbuffered hbuffer hroom hold hheader hdata).mp hwrites]
    rfl

/-! ## A sequence of calls -/

/-- The buffer was emptied. -/
def emptied (iface : PduInterface D) : Adding D := ⟨iface.consumePdus.2, []⟩

lemma holds_emptied {iface : PduInterface D}
    (hcapacity : iface.capacity = min iface.buffer.length maxEthercatDatagram) :
    (emptied iface).Holds where
  capacity_eq := hcapacity
  total_le := Nat.zero_le _
  buffered := ⟨[], ⟨fun _ hmem => absurd hmem List.not_mem_nil, ⟨_, rfl⟩, rfl⟩, rfl,
    fun _ hmem => absurd hmem List.not_mem_nil⟩

/-- **When `add_pdu` keeps its promise.**  For every interface as its constructor and its calls
leave it, and every sequence of calls since its buffer was emptied: each call returns, writes its own
bytes only and leaves a buffer that reads back, exactly if each call is refused, or has data, has a
byte behind its PDU, and finds this byte and the first one of the working counter zero. -/
theorem along_appends_iff {iface : PduInterface D}
    (hcapacity : iface.capacity = min iface.buffer.length maxEthercatDatagram)
    (calls : List PduCall) :
    Transition.Along step Appends (emptied iface) calls ↔
      Transition.Along step IsClear (emptied iface) calls := by
  refine Transition.along_congr Holds (fun s call h => h.appends_iff call) ?_
    (holds_emptied hcapacity) calls
  intro s call s' h hclear hstep
  obtain ⟨s'', hstep', -, h'⟩ := h.step_of_isClear hclear
  cases hstep.symm.trans hstep'
  exact h'

end

/-- A call with two bytes of data. -/
def twoBytes : PduCall where
  pduIndex := 0
  command := .default
  dataSize := 2
  dataWriter := ⟨List.map fun _ => 0x5a, fun _ => List.length_map _⟩

/-- A PDU that ends with the buffer, and a buffer that is not zero behind the data. -/
theorem twoBytes_not_appends :
    ¬ Transition.Along step Appends (emptied (.new () (List.replicate 14 0))) [twoBytes] ∧
      ¬ Transition.Along step Appends (emptied (.new () (List.replicate 64 0xff))) [twoBytes] := by
  constructor
  · rintro ⟨happends, -⟩
    exact absurd (((holds_emptied rfl).appends_iff _).mp happends) (by decide)
  · rintro ⟨happends, -⟩
    exact absurd (((holds_emptied rfl).appends_iff _).mp happends) (by decide)

/-- Three calls at a buffer of zeros, of which the last is refused. -/
theorem along_appends_of_zeros :
    Transition.Along step Appends (emptied (.new () (List.replicate 30 0)))
      [twoBytes, twoBytes, twoBytes] :=
  (along_appends_iff rfl _).mpr (by decide)

end Adding

end EtherCat
