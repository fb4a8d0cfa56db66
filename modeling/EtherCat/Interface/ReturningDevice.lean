import EtherCat.Frame.AddCommand
import EtherCat.Interface.Hal

/-!
# Devices that return their frames

The segment behind the device is a ring: a frame that was sent comes back, with the data and
the working counters the slaves left in it.  `ReturningDevice` is this behaviour as a contract on
an arbitrary device.  The device may refuse a token at any time, may hand over frames of other
stations, and may return the frames in any order, but it returns each frame at most once and
keeps the index and the length of every datagram.

The two histories are observations.  They exist for the statements and decide nothing.
-/

namespace EtherCat

open Rust BitField EtherCatPdu

/-- The datagrams of a frame; none if it cannot be read. -/
def datagramsOf (frame : List UInt8) : List (List UInt8) :=
  (EtherCatPdus.newForEthercatFrame frame frame.length).toList.toOption.getD []

lemma datagramsOf_eq {frame : List UInt8} {pdus : List (List UInt8)}
    (h : (EtherCatPdus.newForEthercatFrame frame frame.length).toList = .ok pdus) :
    datagramsOf frame = pdus := by
  simp [datagramsOf, h, Except.toOption]

lemma forall_isDatagram_datagramsOf (frame : List UInt8) :
    ∀ pdu ∈ datagramsOf frame, IsDatagram pdu := by
  intro pdu hpdu
  cases h : (EtherCatPdus.newForEthercatFrame frame frame.length).toList with
  | error e => simp [datagramsOf, h, Except.toOption] at hpdu
  | ok pdus =>
      rw [datagramsOf_eq h] at hpdu
      exact EtherCatPdus.forall_isDatagram_of_toList h pdu hpdu

/-- `response` is what became of the datagram `request` on its way through the ring. -/
def Answers (request response : List UInt8) : Prop :=
  index.val response = index.val request ∧ length.val response = length.val request

instance (request response : List UInt8) : Decidable (Answers request response) :=
  inferInstanceAs (Decidable (_ ∧ _))

/-- `bytes` is what became of `frame`: it can be read, it is not the copy that a promiscuous
device overhears, and every datagram has come back in its place. -/
structure Echoes (frame bytes : List UInt8) : Prop where
  readable : (EtherCatPdus.newForEthercatFrame bytes bytes.length).toList = .ok (datagramsOf bytes)
  source_ne : EthernetFrame.source.val bytes ≠ srcMac
  etherType_eq : EthernetFrame.etherType.val bytes = ethercatType
  answers : List.Forall₂ Answers (datagramsOf frame) (datagramsOf bytes)

/-- A frame that is not addressed to this master. -/
def Foreign (bytes : List UInt8) : Prop :=
  EthernetFrame.headerSize ≤ bytes.length ∧
    (EthernetFrame.source.val bytes = srcMac ∨ EthernetFrame.etherType.val bytes ≠ ethercatType)

/-- A device that returns the frames it was given. -/
structure ReturningDevice (D : Type) [RawEthernetDevice D] where
  /-- All frames sent so far. -/
  sent : D → List (List UInt8)
  /-- All frames returned so far, each with its number among the frames sent. -/
  returned : D → List (ℕ × List UInt8)
  transmit_none : ∀ {d d'}, RawEthernetDevice.transmit d = .none d' →
    sent d' = sent d ∧ returned d' = returned d
  transmit_some : ∀ {d token}, RawEthernetDevice.transmit d = .some token → ∀ len,
    ∃ buffer send, token len = .filled buffer send ∧ buffer.length = len ∧
      ∀ bytes, bytes.length = len → ∃ d', send bytes = (.ok (), d') ∧
        sent d' = sent d ++ [bytes] ∧ returned d' = returned d
  receive_none : ∀ {d d'}, RawEthernetDevice.receive d = .none d' →
    sent d' = sent d ∧ returned d' = returned d
  receive_some : ∀ {d token}, RawEthernetDevice.receive d = .some token →
    ∃ bytes d', token = .frame bytes (.ok ()) d' ∧ sent d' = sent d ∧
      ((Foreign bytes ∧ returned d' = returned d) ∨
        ∃ number frame, (sent d)[number]? = some frame ∧
          number ∉ (returned d).map Prod.fst ∧ Echoes frame bytes ∧
          returned d' = returned d ++ [(number, bytes)])

namespace Echoes

variable {frame bytes : List UInt8}

lemma length_datagramsOf (h : Echoes frame bytes) :
    (datagramsOf bytes).length = (datagramsOf frame).length := h.answers.length_eq.symm

/-- The datagrams that come back take as many bytes as those that were sent. -/
lemma length_flatten (h : Echoes frame bytes) :
    (datagramsOf bytes).flatten.length = (datagramsOf frame).flatten.length := by
  have hframe := forall_isDatagram_datagramsOf frame
  have hbytes := forall_isDatagram_datagramsOf bytes
  have hanswers := h.answers
  generalize datagramsOf frame = ps at *
  generalize datagramsOf bytes = qs at *
  induction hanswers with
  | nil => rfl
  | cons hpq _ ih =>
      simp only [List.forall_mem_cons] at hframe hbytes
      have hp := hframe.1.2
      have hq := hbytes.1.2
      have hrest := ih hframe.2 hbytes.2
      have hlen := hpq.2
      simp only [List.flatten_cons, List.length_append]
      omega

/-- A frame with a datagram in it is longer than its headers. -/
lemma lt_length (h : Echoes frame bytes) (hne : datagramsOf frame ≠ []) :
    frameHeaderSize < bytes.length := by
  have hread := EtherCatPdus.toList_eq_ok_iff.mp h.readable
  have hlen := h.length_datagramsOf
  cases hqs : datagramsOf bytes with
  | nil =>
      rw [hqs] at hlen
      exact absurd (List.length_eq_zero_iff.mp hlen.symm) hne
  | cons q qs =>
      rw [hqs] at hread
      cases hread with
      | item hnext _ => exact (EtherCatPdus.next_eq_some hnext).2.2.2

end Echoes

end EtherCat
