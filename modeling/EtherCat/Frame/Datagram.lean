import EtherCat.Frame.FrameUtil

/-!
# Datagrams

A `Datagram` is what a datagram says, apart from its flags and its working counter.  The bytes
of one are an `IsDatagram`: a header, as much data as the header announces and a working
counter.  An empty datagram is none, since every walk over a buffer stops in front of it.

Two facts connect the bytes with the records.  A walk over datagrams laid end to end yields
exactly these datagrams (`EtherCatPdus.toList_flatten`).  A frame that was initialised and
filled by `add_command` holds exactly the datagrams that were added (`Holds`).
-/

namespace EtherCat

open Rust BitField

/-- What a datagram says. -/
structure Datagram where
  index : UInt8
  commandType : CommandType
  adp : UInt16
  ado : UInt16
  data : List UInt8
  deriving DecidableEq, Repr

namespace EtherCatPdu

/-- The bytes of one non-empty datagram. -/
def IsDatagram (pdu : List UInt8) : Prop :=
  0 < length.val pdu ∧ pdu.length = headerSize + length.val pdu + wkcLength

instance (pdu : List UInt8) : Decidable (IsDatagram pdu) :=
  inferInstanceAs (Decidable (0 < length.val pdu ∧
    pdu.length = headerSize + length.val pdu + wkcLength))

/-- The record a datagram's bytes encode. -/
def datagram (pdu : List UInt8) : Datagram where
  index := UInt8.ofNat (index.val pdu)
  commandType := .ofU8 (UInt8.ofNat (commandType.val pdu))
  adp := UInt16.ofNat (adp.val pdu)
  ado := UInt16.ofNat (ado.val pdu)
  data := (pdu.drop headerSize).take (length.val pdu)

/-- The header's fields lie in its ten bytes. -/
lemma fits {f : Field} {pdu : List UInt8} (h : headerSize ≤ pdu.length)
    (hf : f.msb / 8 < headerSize) : f.Fits pdu := Field.fits_of_le hf h

namespace IsDatagram

variable {pdu : List UInt8}

lemma headerSize_le (h : IsDatagram pdu) : headerSize ≤ pdu.length := by
  have := h.2
  omega

lemma headerSize_lt (h : IsDatagram pdu) : headerSize + wkcLength < pdu.length := by
  have := h.1
  have := h.2
  omega

lemma length_data (h : IsDatagram pdu) : (datagram pdu).data.length = length.val pdu := by
  have := h.2
  simp only [datagram, List.length_take, List.length_drop]
  omega

lemma length_eq (h : IsDatagram pdu) :
    pdu.length = headerSize + (datagram pdu).data.length + wkcLength := by
  rw [h.length_data]
  exact h.2

lemma val_length_append (h : IsDatagram pdu) (rest : List UInt8) :
    length.val (pdu ++ rest) = length.val pdu :=
  Field.val_append_left (fits h.headerSize_le (by decide)) rest

end IsDatagram

end EtherCatPdu

open EtherCatPdu (IsDatagram datagram)

/-! ## Walking over datagrams -/

/-- Nothing in front of these bytes makes a walk read them as a datagram. -/
def EndsWalk (rest : List UInt8) : Prop :=
  rest.length < EtherCatPdu.headerSize ∨ EtherCatPdu.length.val rest = 0

lemma endsWalk_nil : EndsWalk [] := .inl (by decide)

lemma endsWalk_zeros (n : ℕ) : EndsWalk (List.replicate n 0) := by
  refine .inr (Nat.eq_of_testBit_eq fun k => ?_)
  have hzero : ∀ i, bitAt (List.replicate n 0) i = false := by
    intro i
    simp only [bitAt, List.getD_eq_getElem?_getD, List.getElem?_replicate]
    split <;> simp
  simp [Field.testBit_val, hzero]

namespace EtherCatPdus

lemma next_append {pre pdu rest : List UInt8} {length : ℕ} (hpdu : IsDatagram pdu)
    (hlength : pre.length < length) :
    next ⟨pre ++ (pdu ++ rest), pre.length, length⟩ =
      .ok (some (pdu, ⟨pre ++ (pdu ++ rest), pre.length + pdu.length, length⟩)) := by
  have hheader := hpdu.headerSize_lt
  have hlen := hpdu.2
  have hfits : EtherCatPdu.length.Fits (pdu ++ rest) :=
    EtherCatPdu.fits (by simp; omega) (by decide)
  have hslice : slice (pre ++ (pdu ++ rest)) pre.length (pre.length + pdu.length) = .ok pdu := by
    refine slice_eq_ok_iff.mpr ⟨by simp, ?_⟩
    simp [List.take_append]
  have hin : ¬ (pre ++ (pdu ++ rest)).length ≤ pre.length := by
    simp only [List.length_append]
    omega
  have hroom : ¬ (pdu ++ rest).length ≤ EtherCatPdu.headerSize - 1 := by
    rw [List.length_append]
    omega
  have hne : EtherCatPdu.length.val pdu ≠ 0 := Nat.ne_of_gt hpdu.1
  simp only [next, hin, List.drop_left, hroom, Field.get_of_fits hfits,
    hpdu.val_length_append, Exec.ok_bind, hne, hlength, if_true, if_false, ← hlen, hslice]

lemma next_stop {pre rest : List UInt8} {length : ℕ}
    (h : EndsWalk rest ∨ length ≤ pre.length) :
    next ⟨pre ++ rest, pre.length, length⟩ = .ok none := by
  unfold next
  split
  · rfl
  · split
    · rfl
    · rename_i hroom
      simp only [List.drop_left] at hroom ⊢
      have hfits : EtherCatPdu.length.Fits rest := EtherCatPdu.fits (by omega) (by decide)
      rw [Field.get_of_fits hfits, Exec.ok_bind]
      rcases h with (hshort | hzero) | hlimit
      · omega
      · rw [if_pos hzero]
      · rw [if_neg (Nat.not_lt.mpr hlimit), ite_self]

/-- A yielded datagram is as long as its header announces, and the offset moves behind it. -/
lemma next_eq_some {it it' : EtherCatPdus} {pdu : List UInt8}
    (h : it.next = .ok (some (pdu, it'))) :
    IsDatagram pdu ∧ it' = { it with offset := it.offset + pdu.length } ∧
      it.offset + pdu.length ≤ it.buffer.length ∧ it.offset < it.length := by
  unfold next at h
  split at h
  · cases h
  split at h
  · cases h
  rename_i hroom
  have hfits : EtherCatPdu.length.Fits (it.buffer.drop it.offset) :=
    EtherCatPdu.fits (by omega) (by decide)
  rw [Field.get_of_fits hfits, Exec.ok_bind] at h
  split at h
  · cases h
  rename_i hne
  split at h
  swap
  · cases h
  rename_i hlimit
  obtain ⟨bytes, hslice, hok⟩ := Exec.bind_eq_ok.mp h
  simp only [Except.ok.injEq, Option.some.injEq, Prod.mk.injEq] at hok
  obtain ⟨rfl, rfl⟩ := hok
  obtain ⟨⟨-, hin⟩, rfl⟩ := slice_eq_ok_iff.mp hslice
  set len := EtherCatPdu.length.val (it.buffer.drop it.offset)
  have hcut : (it.buffer.take (it.offset + (EtherCatPdu.headerSize + len + wkcLength))).drop
      it.offset = (it.buffer.drop it.offset).take (EtherCatPdu.headerSize + len + wkcLength) := by
    rw [List.drop_take]
    congr 1
    omega
  have hlength : ((it.buffer.drop it.offset).take
      (EtherCatPdu.headerSize + len + wkcLength)).length =
        EtherCatPdu.headerSize + len + wkcLength := by
    simp
    omega
  have hval : EtherCatPdu.length.val ((it.buffer.drop it.offset).take
      (EtherCatPdu.headerSize + len + wkcLength)) = len := by
    refine Field.val_eq_of_take_eq (n := EtherCatPdu.headerSize) ?_ (by decide)
    rw [List.take_take]
    congr 1
    omega
  rw [hcut]
  refine ⟨⟨?_, ?_⟩, ?_, ?_, hlimit⟩
  · rw [hval]
    omega
  · rw [hval, hlength]
  · rw [hlength]
  · rw [hlength]
    omega

/-- A walk takes at most as many steps as the buffer has bytes left. -/
lemma toList_eq_ok_iff {it : EtherCatPdus} {pdus : List (List UInt8)} :
    it.toList = .ok pdus ↔ Yields next it pdus := by
  refine collect_eq_ok_iff (fun it => it.buffer.length - it.offset) ?_ (by omega)
  intro it pdu it' h
  obtain ⟨hpdu, rfl, hin, -⟩ := next_eq_some h
  have := hpdu.headerSize_lt
  simp only
  omega

lemma forall_isDatagram_of_toList {it : EtherCatPdus} {pdus : List (List UInt8)}
    (h : it.toList = .ok pdus) : ∀ pdu ∈ pdus, IsDatagram pdu :=
  (toList_eq_ok_iff.mp h).forall_mem fun _ _ _ h => (next_eq_some h).1

/-- **Reading back.**  A walk over datagrams laid end to end yields these datagrams, provided
that it ends behind them. -/
theorem toList_flatten (pre rest : List UInt8) {pdus : List (List UInt8)} (length : ℕ)
    (hpdus : ∀ pdu ∈ pdus, IsDatagram pdu) (hle : (pre ++ pdus.flatten).length ≤ length)
    (hend : EndsWalk rest ∨ length ≤ (pre ++ pdus.flatten).length) :
    toList ⟨pre ++ (pdus.flatten ++ rest), pre.length, length⟩ = .ok pdus := by
  rw [toList_eq_ok_iff]
  induction pdus generalizing pre with
  | nil => exact .stop (by simpa using next_stop (by simpa using hend))
  | cons pdu pdus ih =>
      simp only [List.forall_mem_cons] at hpdus
      have hheader := hpdus.1.headerSize_lt
      have hrest := ih (pre ++ pdu) hpdus.2 (by simpa using hle) (by simpa using hend)
      have hlt : pre.length < length := by
        simp at hle
        omega
      rw [List.flatten_cons, List.append_assoc]
      exact .item (next_append hpdus.1 hlt) (by simpa using hrest)

end EtherCatPdus

namespace EtherCatPduIndexes

lemma next_append {pre pdu rest : List UInt8} {length : ℕ} (hpdu : IsDatagram pdu)
    (hlength : pre.length < length) :
    next ⟨pre ++ (pdu ++ rest), pre.length, length⟩ =
      .ok (some (pre.length, ⟨pre ++ (pdu ++ rest), pre.length + pdu.length, length⟩)) := by
  have hheader := hpdu.headerSize_lt
  have hlen := hpdu.2
  have hfits : EtherCatPdu.length.Fits (pdu ++ rest) :=
    EtherCatPdu.fits (by simp; omega) (by decide)
  have hin : ¬ (pre ++ (pdu ++ rest)).length ≤ pre.length := by
    simp only [List.length_append]
    omega
  have hroom : ¬ (pdu ++ rest).length ≤ EtherCatPdu.headerSize - 1 := by
    rw [List.length_append]
    omega
  have hne : EtherCatPdu.length.val pdu ≠ 0 := Nat.ne_of_gt hpdu.1
  simp only [next, hin, List.drop_left, hroom, Field.get_of_fits hfits,
    hpdu.val_length_append, Exec.ok_bind, hne, hlength, if_true, if_false, ← hlen]

lemma next_stop {pre rest : List UInt8} {length : ℕ}
    (h : EndsWalk rest ∨ length ≤ pre.length) :
    next ⟨pre ++ rest, pre.length, length⟩ = .ok none := by
  unfold next
  split
  · rfl
  · split
    · rfl
    · rename_i hroom
      simp only [List.drop_left] at hroom ⊢
      have hfits : EtherCatPdu.length.Fits rest := EtherCatPdu.fits (by omega) (by decide)
      rw [Field.get_of_fits hfits, Exec.ok_bind]
      rcases h with (hshort | hzero) | hlimit
      · omega
      · rw [if_pos hzero]
      · rw [if_neg (Nat.not_lt.mpr hlimit), ite_self]

lemma next_eq_some {it it' : EtherCatPduIndexes} {i : ℕ} (h : it.next = .ok (some (i, it'))) :
    it'.buffer = it.buffer ∧ it.offset < it'.offset ∧ it.offset < it.buffer.length := by
  unfold next at h
  split at h
  · cases h
  rename_i hin
  split at h
  · cases h
  obtain ⟨len, -, h⟩ := Exec.bind_eq_ok.mp h
  split at h
  · cases h
  split at h
  · simp only [Except.ok.injEq, Option.some.injEq, Prod.mk.injEq] at h
    obtain ⟨-, rfl⟩ := h
    refine ⟨rfl, ?_, by omega⟩
    simp only [EtherCatPdu.headerSize]
    omega
  · cases h

lemma toList_eq_ok_iff {it : EtherCatPduIndexes} {indexes : List ℕ} :
    it.toList = .ok indexes ↔ Yields next it indexes := by
  refine collect_eq_ok_iff (fun it => it.buffer.length - it.offset) ?_ (by omega)
  intro it i it' h
  obtain ⟨hbuffer, hlt, hin⟩ := next_eq_some h
  rw [hbuffer]
  omega

/-- The last offset is that of the last datagram. -/
lemma getLast?_toList_flatten (pre rest : List UInt8) {pdus : List (List UInt8)} (length : ℕ)
    (hpdus : ∀ pdu ∈ pdus, IsDatagram pdu) (hle : (pre ++ pdus.flatten).length ≤ length)
    (hend : EndsWalk rest) :
    ∃ indexes, toList ⟨pre ++ (pdus.flatten ++ rest), pre.length, length⟩ = .ok indexes ∧
      indexes.getLast? =
        if pdus = [] then none else some (pre ++ pdus.dropLast.flatten).length := by
  simp only [toList_eq_ok_iff]
  induction pdus generalizing pre with
  | nil => exact ⟨[], .stop (by simpa using next_stop (.inl hend)), rfl⟩
  | cons pdu pdus ih =>
      simp only [List.forall_mem_cons] at hpdus
      have hheader := hpdus.1.headerSize_lt
      obtain ⟨indexes, hyields, hlast⟩ :=
        ih (pre ++ pdu) hpdus.2 (by simpa using hle)
      have hlt : pre.length < length := by
        simp at hle
        omega
      refine ⟨pre.length :: indexes, ?_, ?_⟩
      · rw [List.flatten_cons, List.append_assoc]
        exact .item (next_append hpdus.1 hlt) (by simpa using hyields)
      · rw [List.getLast?_cons, hlast]
        cases pdus with
        | nil => simp
        | cons pdu' pdus => simp [List.dropLast]

end EtherCatPduIndexes

/-! ## Writing headers -/

namespace EtherCatPdu

/-- The assignments of a header: a datagram's own and, in a frame, its flags. -/
def headerOf (d : Datagram) : List (Field × ℕ) :=
  [(index, d.index.toNat), (commandType, d.commandType.toU8.toNat), (adp, d.adp.toNat),
    (ado, d.ado.toNat), (length, d.data.length)]

lemma headerOf_msb (d : Datagram) : ∀ f ∈ (headerOf d).map Prod.fst, f.msb / 8 < headerSize := by
  simp only [headerOf, List.map_cons, List.map_nil]
  decide

/-- **Header and data.**  A ten-byte header that carries the record's fields, the record's data
and any two bytes make the bytes of that record. -/
lemma datagram_of_header {header wkc : List UInt8} {d : Datagram}
    (hheader : header.length = headerSize) (hwkc : wkc.length = wkcLength)
    (hvals : ∀ a ∈ headerOf d, a.1.val header = a.2) (hdata : 0 < d.data.length) :
    IsDatagram (header ++ d.data ++ wkc) ∧ datagram (header ++ d.data ++ wkc) = d := by
  simp only [headerOf, List.forall_mem_cons] at hvals
  obtain ⟨hindex, hcommand, hadp, hado, hlength, -⟩ := hvals
  have hval : ∀ f : Field, f.msb / 8 < headerSize →
      f.val (header ++ d.data ++ wkc) = f.val header := by
    intro f hf
    rw [List.append_assoc]
    exact Field.val_append_left (fits (by omega) hf) _
  have hlen : length.val (header ++ d.data ++ wkc) = d.data.length := by
    rw [hval _ (by decide), hlength]
  constructor
  · refine ⟨by rw [hlen]; exact hdata, ?_⟩
    rw [hlen]
    simp only [List.length_append, hheader, hwkc]
  · have hdrop : (header ++ d.data ++ wkc).drop headerSize = d.data ++ wkc := by
      rw [← hheader, List.append_assoc, List.drop_left]
    simp only [datagram, hlen, hdrop, hval index (by decide), hval commandType (by decide),
      hval adp (by decide), hval ado (by decide), hindex, hcommand, hadp, hado, List.take_left]
    cases d
    simp

/-- Setting a flag changes nothing of what the datagram says. -/
lemma datagram_put {pdu : List UInt8} (h : IsDatagram pdu) {f : Field} (v : ℕ)
    (hf : f.msb / 8 < headerSize)
    (hdis : ∀ g ∈ [index, commandType, adp, ado, length], g.Disjoint f) :
    IsDatagram (f.put pdu v) ∧ datagram (f.put pdu v) = datagram pdu := by
  simp only [List.forall_mem_cons] at hdis
  obtain ⟨hindex, hcommand, hadp, hado, hlength, -⟩ := hdis
  have hfits := fits h.headerSize_le hf
  have hval : ∀ g : Field, g.Disjoint f → g.val (f.put pdu v) = g.val pdu :=
    fun g hg => Field.val_put_of_disjoint hfits hg v
  refine ⟨⟨?_, ?_⟩, ?_⟩
  · rw [hval _ hlength]
    exact h.1
  · rw [hval _ hlength, Field.length_put]
    exact h.2
  · simp only [datagram, hval _ hindex, hval _ hcommand, hval _ hadp, hval _ hado,
      hval _ hlength, Field.drop_put hf]

end EtherCatPdu

end EtherCat
