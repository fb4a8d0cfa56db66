import EtherCat.Interface.Loopback
import EtherCat.Interface.PduIf

/-!
# A frame that was not sent

The closure that fills a frame also counts its datagrams as sent, before the device reports whether it
has sent the frame.  After an error the counters are as before only if there was no datagram
(`transmitOneFrame_asBefore_iff`).
-/

namespace EtherCat

open Rust Rust.Exec BitField

namespace PduInterface

variable {D : Type}

/-- The datagrams are as before, and as many are to be sent and to be received. -/
structure AsBefore (iface iface' : PduInterface D) : Prop where
  pduCount : iface'.pduCount = iface.pduCount
  txCount : iface'.txCount = iface.txCount
  pdusTotalSize : iface'.pdusTotalSize = iface.pdusTotalSize
  buffer : iface'.buffer = iface.buffer

/-- The datagrams that the closure finds in the buffer. -/
def unsent (iface : PduInterface D) : Exec (List (List UInt8)) :=
  (EtherCatPdus.new (iface.buffer.take iface.pdusTotalSize) iface.pdusTotalSize 0).toList

/-- The loop of the closure counts every datagram. -/
lemma fillFrame_counts {pdus : List (List UInt8)} {ecFrame ecFrame' : EtherCatFrameUtil}
    {txCount pduCount txCount' pduCount' : ℕ}
    (h : fillFrame pdus ecFrame txCount pduCount = .ok (ecFrame', txCount', pduCount')) :
    txCount' = txCount + pdus.length ∧ pduCount' + pdus.length = pduCount := by
  induction pdus generalizing ecFrame txCount pduCount with
  | nil =>
      cases h
      exact ⟨rfl, rfl⟩
  | cons pdu pdus ih =>
      obtain ⟨_, -, h⟩ := bind_eq_ok.mp h
      obtain ⟨_, -, h⟩ := bind_eq_ok.mp h
      obtain ⟨_, -, h⟩ := bind_eq_ok.mp h
      obtain ⟨_, -, h⟩ := bind_eq_ok.mp h
      obtain ⟨_, -, h⟩ := bind_eq_ok.mp h
      obtain ⟨_, -, h⟩ := bind_eq_ok.mp h
      obtain ⟨_, -, h⟩ := bind_eq_ok.mp h
      obtain ⟨⟨added, ecFrame₁⟩, -, h⟩ := bind_eq_ok.mp h
      cases added
      · cases h
      · obtain ⟨count, hcount, h⟩ := bind_eq_ok.mp h
        obtain ⟨hle, rfl⟩ := sub_eq_ok_iff.mp hcount
        obtain ⟨htx, hpdu⟩ := ih h
        rw [List.length_cons]
        omega

variable [RawEthernetDevice D]

/-- The device has a transmit token, and its closure runs before anything is sent. -/
def BuildsFrame (iface : PduInterface D) : Prop :=
  ∃ token txBuffer send, RawEthernetDevice.transmit iface.ethdev = .some token ∧
    token (EthernetFrame.headerSize + EtherCatFrame.headerSize + iface.pdusTotalSize) =
      .filled txBuffer send

/-- After an error the datagrams of the frame are counted as sent. -/
lemma counts_of_txError {iface iface' : PduInterface D} (hbuilds : iface.BuildsFrame)
    (h : iface.transmitOneFrame = .ok (.error .txError, iface')) :
    ∃ pdus, iface.unsent = .ok pdus ∧ iface'.txCount = iface.txCount + pdus.length ∧
      iface'.pduCount + pdus.length = iface.pduCount ∧
      iface'.pdusTotalSize = iface.pdusTotalSize ∧ iface'.buffer = iface.buffer := by
  obtain ⟨token, txBuffer, send, htransmit, htoken⟩ := hbuilds
  rw [transmitOneFrame] at h
  split at h
  · cases h
  · obtain ⟨buffer, hbuffer, h⟩ := bind_eq_ok.mp h
    obtain ⟨-, rfl⟩ := sliceTo_eq_ok_iff.mp hbuffer
    rw [htransmit] at h
    dsimp only at h
    rw [htoken] at h
    obtain ⟨ecFrame₀, -, h⟩ := bind_eq_ok.mp h
    obtain ⟨ecFrame₁, -, h⟩ := bind_eq_ok.mp h
    obtain ⟨pdus, hpdus, h⟩ := bind_eq_ok.mp h
    obtain ⟨⟨ecFrame, txCount, pduCount⟩, hfill, h⟩ := bind_eq_ok.mp h
    obtain ⟨rfl, hcount⟩ := fillFrame_counts hfill
    dsimp only at h
    rcases hsend : send ecFrame.buffer with ⟨error | ⟨⟩, ethdev⟩
    · rw [hsend] at h
      cases h
      exact ⟨pdus, hpdus, rfl, hcount, rfl, rfl⟩
    · rw [hsend] at h
      cases h

/-- **A failed frame leaves the interface as it was exactly if it was empty.** -/
theorem transmitOneFrame_asBefore_iff {iface iface' : PduInterface D} (hbuilds : iface.BuildsFrame)
    (h : iface.transmitOneFrame = .ok (.error .txError, iface')) :
    iface.AsBefore iface' ↔ iface.unsent = .ok [] := by
  obtain ⟨pdus, hpdus, htx, hcount, htotal, hbuffer⟩ := counts_of_txError hbuilds h
  constructor
  · intro hbefore
    have hsame := hbefore.txCount
    obtain rfl : pdus = [] := List.eq_nil_of_length_eq_zero (by omega)
    exact hpdus
  · intro hempty
    rw [hpdus] at hempty
    cases hempty
    exact ⟨hcount, htx, htotal, hbuffer⟩

end PduInterface

/-! ## A device that fails to send -/

/-- A device that reports an error for the frames that it is given, by a schedule. -/
structure Dropping (D : Type) where
  failures : List Bool
  device : D
  deriving DecidableEq, Repr

instance {D : Type} [RawEthernetDevice D] : RawEthernetDevice (Dropping D) where
  transmit d :=
    match RawEthernetDevice.transmit d.device with
    | .none device => .none ⟨d.failures, device⟩
    | .some token => .some fun len =>
      match token len with
      | .refused error device => .refused error ⟨d.failures, device⟩
      | .filled buffer send => .filled buffer fun bytes =>
        if d.failures.headD false then (.error .device, ⟨d.failures.tail, d.device⟩)
        else ((send bytes).1, ⟨d.failures.tail, (send bytes).2⟩)
  receive d :=
    match RawEthernetDevice.receive d.device with
    | .none device => .none ⟨d.failures, device⟩
    | .some (.refused error device) => .some (.refused error ⟨d.failures, device⟩)
    | .some (.frame bytes result device) => .some (.frame bytes result ⟨d.failures, device⟩)

/-- A new interface on a device whose first frame fails, with a datagram of one byte. -/
def oneUnsent : Except Panic (Except Command Unit × PduInterface (Dropping Loopback)) :=
  (PduInterface.new (⟨[true], .new [] []⟩ : Dropping Loopback) (List.replicate 14 0)).addPdu 0
    (.newRead (.all 1) 0x0130) 1 .keep

/-- The datagram is neither sent again nor given up: the next call has nothing to send, and the
interface waits for a frame that never left. -/
theorem failedFrame_isLost : ∃ iface iface₁ iface₂, oneUnsent = .ok (.ok (), iface) ∧
    iface.BuildsFrame ∧ iface.transmitOneFrame = .ok (.error .txError, iface₁) ∧
    ¬ iface.AsBefore iface₁ ∧ iface₁.transmitOneFrame = .ok (.ok true, iface₂) ∧
    iface₂.ethdev.device.sent = [] ∧
    ∃ iface₃, iface₂.receiveOneFrame = .ok (.error .rxNotAvailable, iface₃) := by
  refine ⟨_, _, _, rfl, ⟨_, _, _, rfl, rfl⟩, rfl, fun hbefore => ?_, rfl, rfl, ?_⟩
  · have hcount := hbefore.txCount
    revert hcount
    decide +kernel
  · exact ⟨_, rfl⟩

/-- The datagram of the device whose first frame fails. -/
theorem oneUnsent_asBefore_iff : ∃ iface iface', oneUnsent = .ok (.ok (), iface) ∧
    (iface.AsBefore iface' ↔ iface.unsent = .ok []) :=
  ⟨_, _, rfl, PduInterface.transmitOneFrame_asBefore_iff ⟨_, _, _, rfl, rfl⟩ rfl⟩

end EtherCat
