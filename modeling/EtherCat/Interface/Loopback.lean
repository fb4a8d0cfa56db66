import EtherCat.Interface.ReturningDevice

/-!
# A loopback device

The simplest segment: no slave changes a datagram, and the frames come back in the order in
which they were sent.  Two schedules say at which calls the device has a transmit token and a
received frame; after its end a schedule is ready forever.
-/

namespace EtherCat

open Rust BitField EtherCatPdu

/-- A device whose frames come back. `txReady` and `rxReady` tell when it takes a frame and when it
gives one. -/
structure Loopback where
  txReady : List Bool
  rxReady : List Bool
  sent : List (List UInt8)
  /-- What the frames had become when they came back. -/
  echoes : List (List UInt8)
  deriving DecidableEq, Repr

namespace Loopback

/-- A device without frames. -/
def new (txReady rxReady : List Bool) : Loopback := ⟨txReady, rxReady, [], []⟩

/-- A frame on its way back: the first slave marks the source address as locally administered. -/
def markReturned (frame : List UInt8) : List UInt8 :=
  EthernetFrame.source.put frame 0x07_05_05_05_05_05

/-- Whether a frame comes back as one that this master can read. -/
def Readable (frame : List UInt8) : Prop :=
  EthernetFrame.source.val (markReturned frame) ≠ srcMac ∧
    EthernetFrame.etherType.val (markReturned frame) = ethercatType ∧
    (EtherCatPdus.newForEthercatFrame (markReturned frame) (markReturned frame).length).toList =
      .ok (datagramsOf frame)

instance (frame : List UInt8) : Decidable (Readable frame) :=
  inferInstanceAs (Decidable (_ ∧ _ ∧ _))

lemma Readable.echoes {frame : List UInt8} (h : Readable frame) :
    Echoes frame (markReturned frame) := by
  obtain ⟨hsource, htype, hread⟩ := h
  have hsame := datagramsOf_eq hread
  refine ⟨by rw [hsame]; exact hread, hsource, htype, ?_⟩
  rw [hsame]
  exact List.forall₂_same.mpr fun pdu _ => ⟨rfl, rfl⟩

instance : RawEthernetDevice Loopback where
  transmit d :=
    if d.txReady.headD true then
      .some fun len => .filled (List.replicate len 0) fun bytes =>
        (.ok (), { d with txReady := d.txReady.tail, sent := d.sent ++ [bytes] })
    else
      .none { d with txReady := d.txReady.tail }
  receive d :=
    match d.rxReady.headD true, d.sent[d.echoes.length]? with
    | true, some frame =>
      if Readable frame then
        .some (.frame (markReturned frame) (.ok ())
          { d with rxReady := d.rxReady.tail, echoes := d.echoes ++ [markReturned frame] })
      else
        .none { d with rxReady := d.rxReady.tail }
    | _, _ => .none { d with rxReady := d.rxReady.tail }

/-- The echoes with their numbers. -/
def returned (d : Loopback) : List (ℕ × List UInt8) :=
  d.echoes.zipIdx.map fun echo => (echo.2, echo.1)

lemma map_fst_returned (d : Loopback) :
    d.returned.map Prod.fst = List.range d.echoes.length := by
  simp [returned, List.map_map, Function.comp_def, List.range_eq_range']

/-- The loopback device keeps the contract. -/
def returning : ReturningDevice Loopback where
  sent := Loopback.sent
  returned := Loopback.returned
  transmit_none := by
    intro d d' h
    simp only [RawEthernetDevice.transmit] at h
    split at h
    · cases h
    · cases h
      exact ⟨rfl, rfl⟩
  transmit_some := by
    intro d token h len
    simp only [RawEthernetDevice.transmit] at h
    split at h
    · cases h
      exact ⟨_, _, rfl, by simp, fun bytes _ => ⟨_, rfl, rfl, rfl⟩⟩
    · cases h
  receive_none := by
    intro d d' h
    simp only [RawEthernetDevice.receive] at h
    split at h
    · split at h
      · cases h
      · cases h
        exact ⟨rfl, rfl⟩
    · cases h
      exact ⟨rfl, rfl⟩
  receive_some := by
    intro d token h
    simp only [RawEthernetDevice.receive] at h
    split at h
    · rename_i frame _ hframe
      split at h
      · rename_i hreadable
        cases h
        refine ⟨_, _, rfl, rfl, .inr ⟨d.echoes.length, frame, hframe, ?_, hreadable.echoes, ?_⟩⟩
        · simp [map_fst_returned]
        · simp [returned, List.zipIdx_append]
      · cases h
    · cases h

end Loopback

end EtherCat
