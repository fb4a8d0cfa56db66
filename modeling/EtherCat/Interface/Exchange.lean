import EtherCat.Interface.SocketIfSpec

/-!
# One exchange with the device

`Ledger dev iface inFlight unsent` is the invariant of the PDU interface against a device that
returns its frames: the buffer holds the datagrams `inFlight`, which are in the one frame that is
out, and behind them the datagrams `unsent`; the counters are their numbers.

A ledger with both kinds is a trap.  The next frame the device takes would carry the datagrams
in flight again and make the counter of unsent datagrams underflow (`transmitOneFrame_trap`).
From every other ledger an exchange returns and leads to a ledger again
(`transmitAndReceive_cases`).
-/

namespace EtherCat

open Rust BitField EtherCatPdu PduInterface

variable {D : Type} [RawEthernetDevice D]

/-- All frames but the ones from number `n` on have come back. -/
def ReturnedBelow (dev : ReturningDevice D) (d : D) (n : ℕ) : Prop :=
  ∀ number < n, number ∈ (dev.returned d).map Prod.fst

/-- **The invariant of the PDU interface.** -/
structure Ledger (dev : ReturningDevice D) (iface : PduInterface D)
    (inFlight unsent : List (List UInt8)) : Prop where
  buffered : iface.Buffered (inFlight ++ unsent)
  wellSized : iface.WellSized
  recvDataSize_eq : iface.recvDataSize = 0
  txCount_eq : iface.txCount = inFlight.length
  pduCount_eq : iface.pduCount = unsent.length
  /-- What is out is the last frame, and it carries the datagrams in flight. -/
  frames : (inFlight = [] ∧ ReturnedBelow dev iface.ethdev (dev.sent iface.ethdev).length) ∨
    (inFlight ≠ [] ∧ ∃ frames frame, dev.sent iface.ethdev = frames ++ [frame] ∧
      (datagramsOf frame).map datagram = inFlight.map datagram ∧
      ReturnedBelow dev iface.ethdev frames.length)

namespace Ledger

variable {dev : ReturningDevice D} {iface : PduInterface D} {inFlight unsent : List (List UInt8)}

/-- The device is only observed through its histories. -/
lemma congr_device (h : Ledger dev iface inFlight unsent) {d' : D}
    (hsent : dev.sent d' = dev.sent iface.ethdev)
    (hreturned : dev.returned d' = dev.returned iface.ethdev) :
    Ledger dev { iface with ethdev := d' } inFlight unsent where
  buffered := ⟨h.buffered.isDatagram, h.buffered.buffer_eq, h.buffered.total_eq⟩
  wellSized := ⟨h.wellSized.capacity_le, h.wellSized.capacity_le_max, h.wellSized.total_le⟩
  recvDataSize_eq := h.recvDataSize_eq
  txCount_eq := h.txCount_eq
  pduCount_eq := h.pduCount_eq
  frames := by
    have hframes := h.frames
    simp only [ReturnedBelow] at hframes ⊢
    rw [hsent, hreturned]
    exact hframes

lemma pduCount_eq_zero_iff (h : Ledger dev iface inFlight unsent) :
    iface.pduCount = 0 ↔ unsent = [] := by
  rw [h.pduCount_eq, List.length_eq_zero_iff]

lemma txCount_eq_zero_iff (h : Ledger dev iface inFlight unsent) :
    iface.txCount = 0 ↔ inFlight = [] := by
  rw [h.txCount_eq, List.length_eq_zero_iff]

/-! ## Transmission -/

/-- Nothing unsent: nothing to do. -/
lemma transmitOneFrame_idle (h : Ledger dev iface inFlight []) :
    iface.transmitOneFrame = .ok (.ok true, iface) :=
  transmitOneFrame_of_zero (by simp [h.pduCount_eq])

/-- The device takes no frame. -/
lemma transmitOneFrame_refused (h : Ledger dev iface inFlight unsent) (hne : unsent ≠ []) {d' : D}
    (hdev : RawEthernetDevice.transmit iface.ethdev = .none d') :
    iface.transmitOneFrame = .ok (.error .txNotAvailable, { iface with ethdev := d' }) :=
  transmitOneFrame_of_none h.buffered.reads (fun h0 => hne (h.pduCount_eq_zero_iff.mp h0)) hdev

/-- **The trap.** -/
theorem transmitOneFrame_trap (h : Ledger dev iface inFlight unsent) (hne : unsent ≠ [])
    (hflight : inFlight ≠ []) {token : TxToken D}
    (hdev : RawEthernetDevice.transmit iface.ethdev = .some token) :
    iface.transmitOneFrame = .error .arithmetic := by
  have hpos := List.length_pos_iff.mpr hflight
  refine transmitOneFrame_underflow dev h.buffered (fun h0 => hne (h.pduCount_eq_zero_iff.mp h0))
    ?_ hdev
  rw [h.pduCount_eq, List.length_append]
  omega

/-- A frame takes everything that is unsent. -/
theorem transmitOneFrame_sends (h : Ledger dev iface [] unsent) (hne : unsent ≠ [])
    {token : TxToken D} (hdev : RawEthernetDevice.transmit iface.ethdev = .some token) :
    ∃ frame iface', iface.transmitOneFrame = .ok (.ok true, iface') ∧
      Ledger dev iface' unsent [] ∧
      dev.sent iface'.ethdev = dev.sent iface.ethdev ++ [frame] ∧
      dev.returned iface'.ethdev = dev.returned iface.ethdev ∧
      (datagramsOf frame).map datagram = unsent.map datagram := by
  obtain ⟨frame, d', hsent, hreturned, hframe, htransmit⟩ := transmitOneFrame_of_some dev
    h.buffered (fun h0 => hne (h.pduCount_eq_zero_iff.mp h0)) (by simp [h.pduCount_eq]) hdev
  have hbelow : ReturnedBelow dev iface.ethdev (dev.sent iface.ethdev).length := by
    rcases h.frames with ⟨-, hbelow⟩ | ⟨hne', -⟩
    · exact hbelow
    · exact absurd rfl hne'
  rw [h.pduCount_eq, h.txCount_eq] at htransmit
  refine ⟨frame, _, by simpa using htransmit, ?_, hsent, hreturned, hframe⟩
  refine ⟨⟨?_, h.buffered.buffer_eq.imp fun _ => by simp, ?_⟩,
    ⟨h.wellSized.capacity_le, h.wellSized.capacity_le_max, h.wellSized.total_le⟩,
    h.recvDataSize_eq, by simp, by simp,
    .inr ⟨hne, dev.sent iface.ethdev, frame, hsent, hframe, ?_⟩⟩
  · simpa using h.buffered.isDatagram
  · simpa using h.buffered.total_eq
  · intro number hlt
    rw [hreturned]
    exact hbelow number hlt

/-! ## Reception -/

/-- Nothing in flight: nothing to do. -/
lemma receiveOneFrame_idle (h : Ledger dev iface [] unsent) :
    iface.receiveOneFrame = .ok (.ok true, iface) :=
  receiveOneFrame_of_zero (by simp [h.txCount_eq])

/-- **Reception with a frame out.**  Either nothing comes that concerns us, or the frame comes
back and its datagrams take the place of those sent. -/
theorem receiveOneFrame_cases (h : Ledger dev iface inFlight unsent) (hflight : inFlight ≠ []) :
    (∃ r d', iface.receiveOneFrame = .ok (r, { iface with ethdev := d' }) ∧ r ≠ .ok true ∧
      dev.sent d' = dev.sent iface.ethdev ∧ dev.returned d' = dev.returned iface.ethdev) ∨
    ∃ frames frame bytes iface', iface.receiveOneFrame = .ok (.ok true, iface') ∧
      dev.sent iface.ethdev = frames ++ [frame] ∧
      dev.sent iface'.ethdev = dev.sent iface.ethdev ∧
      dev.returned iface'.ethdev = dev.returned iface.ethdev ++ [(frames.length, bytes)] ∧
      (datagramsOf frame).map datagram = inFlight.map datagram ∧
      Echoes frame bytes ∧
      iface'.Buffered (datagramsOf bytes ++ unsent) ∧
      iface' = { iface with
        ethdev := iface'.ethdev
        buffer := iface'.buffer
        recvDataSize := iface'.recvDataSize
        txCount := 0 } ∧
      iface'.buffer.length = iface.buffer.length ∧
      ReturnedBelow dev iface'.ethdev (dev.sent iface'.ethdev).length := by
  obtain ⟨frames, frame, hsent, hframe, hbelow⟩ : ∃ frames frame,
      dev.sent iface.ethdev = frames ++ [frame] ∧
      (datagramsOf frame).map datagram = inFlight.map datagram ∧
      ReturnedBelow dev iface.ethdev frames.length := by
    rcases h.frames with ⟨hnil, -⟩ | ⟨-, hframes⟩
    · exact absurd hnil hflight
    · exact hframes
  have hcount : iface.txCount ≠ 0 := fun h0 => hflight (h.txCount_eq_zero_iff.mp h0)
  cases hdev : RawEthernetDevice.receive iface.ethdev with
  | none d' =>
      obtain ⟨hsent', hreturned'⟩ := dev.receive_none hdev
      exact .inl ⟨_, d', receiveOneFrame_of_none hcount hdev, by simp, hsent', hreturned'⟩
  | some token =>
      obtain ⟨bytes, d', rfl, hsent', hcases⟩ := dev.receive_some hdev
      rcases hcases with ⟨hforeign, hreturned'⟩ | ⟨number, frame', hnumber, hnew, hecho, hreturned'⟩
      · exact .inl ⟨_, d', receiveOneFrame_of_foreign hcount hdev hforeign, by simp, hsent',
          hreturned'⟩
      · -- only the last frame is still out
        have hlast : number = frames.length := by
          have hlt : number < (dev.sent iface.ethdev).length := by
            rw [List.getElem?_eq_some_iff] at hnumber
            exact hnumber.1
          rw [hsent, List.length_append, List.length_singleton] at hlt
          by_contra hne
          exact hnew (hbelow number (by omega))
        subst hlast
        have hframe' : frame' = frame := by
          rw [hsent] at hnumber
          simpa using hnumber.symm
        subst hframe'
        obtain ⟨buffer, hreceive, hlen, hbuf⟩ :=
          receiveOneFrame_of_echo h.buffered h.recvDataSize_eq h.txCount_eq hcount hdev hecho hframe
        refine .inr ⟨frames, frame', bytes, _, hreceive, hsent, hsent', hreturned', hframe, hecho,
          hbuf, rfl, hlen, ?_⟩
        intro n hlt
        show n ∈ (dev.returned d').map Prod.fst
        simp only [hsent', hsent, List.length_append, List.length_singleton] at hlt
        rw [hreturned', List.map_append, List.mem_append]
        rcases Nat.lt_succ_iff_lt_or_eq.mp hlt with hlt | rfl
        · exact .inl (hbelow n hlt)
        · exact .inr (by simp)

end Ledger

/-! ## The exchange -/

namespace SocketInterface

variable {N : ℕ} {dev : ReturningDevice D} {inFlight unsent : List (List UInt8)}

/-- The second half of an exchange, once everything buffered is sent. -/
def receiveAndDeliver (sif : SocketInterface D N) :
    Exec (Except PhyError Bool × SocketInterface D N) := do
  let (rxResult, iface) ← sif.iface.receiveOneFrame
  match rxResult with
  | .error e => .ok (.error e, { sif with iface := iface })
  | .ok isRxOk =>
    if !isRxOk then
      .ok (.ok false, { sif with iface := iface })
    else do
      let (pdus, iface) := iface.consumePdus
      let pdus ← pdus.toList
      let sif ← deliverPdus pdus { sif with iface := iface }
      .ok (.ok true, sif)

lemma transmitAndReceive_of_sent {sif : SocketInterface D N} {iface : PduInterface D}
    (h : sif.iface.transmitOneFrame = .ok (.ok true, iface)) :
    sif.transmitAndReceive = receiveAndDeliver { sif with iface := iface } := by
  simp only [transmitAndReceive, h, Exec.ok_bind, Bool.true_and]
  rfl

/-- The exchange brought no response: at most it sent what was unsent. -/
def NoResponse (dev : ReturningDevice D) (sif : SocketInterface D N)
    (inFlight unsent : List (List UInt8)) (sif' : SocketInterface D N) : Prop :=
  sif'.socketSet = sif.socketSet ∧
  dev.returned sif'.iface.ethdev = dev.returned sif.iface.ethdev ∧
  ((dev.sent sif'.iface.ethdev = dev.sent sif.iface.ethdev ∧
      Ledger dev sif'.iface inFlight unsent ∧
      (unsent = [] ∨ ∃ d', RawEthernetDevice.transmit sif.iface.ethdev = .none d')) ∨
    ∃ frame, dev.sent sif'.iface.ethdev = dev.sent sif.iface.ethdev ++ [frame] ∧
      (datagramsOf frame).map datagram = unsent.map datagram ∧ inFlight = [] ∧
      Ledger dev sif'.iface unsent [])

/-- The exchange brought the responses in `bytes`: the frame that was out, or was just sent, came
back, and each slot got the responses that carry its number. -/
def Responses (dev : ReturningDevice D) (sif : SocketInterface D N)
    (inFlight unsent : List (List UInt8)) (sif' : SocketInterface D N) : Prop :=
  ∃ frames frame bytes, dev.sent sif'.iface.ethdev = frames ++ [frame] ∧
    (dev.sent sif.iface.ethdev = frames ∧ inFlight = [] ∨
      dev.sent sif.iface.ethdev = frames ++ [frame] ∧ unsent = []) ∧
    dev.returned sif'.iface.ethdev =
      dev.returned sif.iface.ethdev ++ [(frames.length, bytes)] ∧
    (datagramsOf frame).map datagram = (inFlight ++ unsent).map datagram ∧
    Echoes frame bytes ∧ Ledger dev sif'.iface [] [] ∧
    ∀ slot, sif'.getSocket slot = (sif.getSocket slot).map fun socket =>
      recieveAll socket ((datagramsOf bytes).filter (fun pdu => index.val pdu = slot))

/-- A consumed buffer is empty. -/
lemma ledger_consumePdus {iface : PduInterface D} {pdus : List (List UInt8)}
    (hbuf : iface.Buffered pdus) (hsize : iface.WellSized) (htx : iface.txCount = 0)
    (hpdu : iface.pduCount = 0)
    (hbelow : ReturnedBelow dev iface.ethdev (dev.sent iface.ethdev).length) :
    iface.consumePdus.1.toList = .ok pdus ∧ Ledger dev iface.consumePdus.2 [] [] := by
  refine ⟨hbuf.toList_eq, ⟨⟨by simp, ⟨iface.buffer, rfl⟩, rfl⟩,
    ⟨hsize.capacity_le, hsize.capacity_le_max, Nat.zero_le _⟩, rfl, htx, hpdu, .inl ⟨rfl, hbelow⟩⟩⟩

/-- The second half from a ledger without unsent datagrams. -/
lemma receiveAndDeliver_eq (sif : SocketInterface D N) (h : Ledger dev sif.iface inFlight [])
    (hflight : inFlight ≠ []) :
    ∃ r sif', receiveAndDeliver sif = .ok (r, sif') ∧
      (NoResponse dev sif inFlight [] sif' ∨ Responses dev sif inFlight [] sif') := by
  rcases h.receiveOneFrame_cases hflight with
    ⟨r, d', hreceive, hr, hsent, hreturned⟩ |
    ⟨frames, frame, bytes, iface, hreceive, hframes, hsent, hreturned, hframe, hecho, hbuf, hiface,
      hlen, hbelow⟩
  · -- nothing for us
    have hledger := h.congr_device hsent hreturned
    refine ⟨r, { sif with iface := { sif.iface with ethdev := d' } }, ?_,
      .inl ⟨rfl, hreturned, .inl ⟨hsent, hledger, .inl rfl⟩⟩⟩
    rcases r with e | (_ | _)
    · simp [receiveAndDeliver, hreceive]
    · simp [receiveAndDeliver, hreceive]
    · exact absurd rfl hr
  · -- the frame came back
    have hsize : iface.WellSized := by
      rw [hiface]
      exact ⟨by rw [hlen]; exact h.wellSized.capacity_le, h.wellSized.capacity_le_max,
        h.wellSized.total_le⟩
    have htx : iface.txCount = 0 := by rw [hiface]
    have hpdu : iface.pduCount = 0 := by
      rw [hiface]
      simp [h.pduCount_eq]
    rw [List.append_nil] at hbuf
    obtain ⟨hread, hledger⟩ := ledger_consumePdus hbuf hsize htx hpdu hbelow
    obtain ⟨sif', hdeliver, hiface', hsockets⟩ := deliverPdus_eq
      (forall_isDatagram_datagramsOf bytes) { sif with iface := iface.consumePdus.2 }
    have hethdev : sif'.iface.ethdev = iface.ethdev := by rw [hiface']; rfl
    refine ⟨.ok true, sif', ?_, .inr ⟨frames, frame, bytes, ?_, .inr ⟨hframes, rfl⟩, ?_, ?_, hecho,
      ?_, hsockets⟩⟩
    · simp [receiveAndDeliver, hreceive, hread, hdeliver]
    · rw [hethdev, hsent, hframes]
    · rw [hethdev, hreturned]
    · simpa using hframe
    · rw [hiface']
      exact hledger

/-- **An exchange returns** unless the device takes a frame while one with datagrams is out. -/
theorem transmitAndReceive_eq {sif : SocketInterface D N}
    (h : Ledger dev sif.iface inFlight unsent)
    (hfree : inFlight = [] ∨ unsent = [] ∨
      ∃ d', RawEthernetDevice.transmit sif.iface.ethdev = .none d') :
    ∃ r sif', sif.transmitAndReceive = .ok (r, sif') ∧
      (NoResponse dev sif inFlight unsent sif' ∨ Responses dev sif inFlight unsent sif') := by
  by_cases hunsent : unsent = []
  · subst hunsent
    rw [transmitAndReceive_of_sent h.transmitOneFrame_idle]
    by_cases hflight : inFlight = []
    · -- nothing at all
      subst hflight
      have hbelow : ReturnedBelow dev sif.iface.ethdev (dev.sent sif.iface.ethdev).length := by
        rcases h.frames with ⟨-, hbelow⟩ | ⟨hne, -⟩
        · exact hbelow
        · exact absurd rfl hne
      obtain ⟨hread, hledger⟩ := ledger_consumePdus h.buffered h.wellSized h.txCount_eq
        h.pduCount_eq hbelow
      refine ⟨.ok true, { sif with iface := sif.iface.consumePdus.2 }, ?_,
        .inl ⟨rfl, rfl, .inl ⟨rfl, hledger, .inl rfl⟩⟩⟩
      simp only [receiveAndDeliver, h.receiveOneFrame_idle, Exec.ok_bind, Bool.not_true,
        Bool.false_eq_true, if_false, hread]
      rfl
    · exact receiveAndDeliver_eq sif h hflight
  · cases hdev : RawEthernetDevice.transmit sif.iface.ethdev with
    | none d' =>
        obtain ⟨hsent, hreturned⟩ := dev.transmit_none hdev
        refine ⟨.error .txNotAvailable, { sif with iface := { sif.iface with ethdev := d' } }, ?_,
          .inl ⟨rfl, hreturned, .inl ⟨hsent, h.congr_device hsent hreturned, .inr ⟨d', hdev⟩⟩⟩⟩
        simp [transmitAndReceive, h.transmitOneFrame_refused hunsent hdev]
    | some token =>
        have hflight : inFlight = [] := by
          rcases hfree with hnil | hnil | ⟨d', hnone⟩
          · exact hnil
          · exact absurd hnil hunsent
          · rw [hdev] at hnone
            cases hnone
        subst hflight
        obtain ⟨frame, iface, htransmit, hledger, hsent, hreturned, hframe⟩ :=
          h.transmitOneFrame_sends hunsent hdev
        rw [transmitAndReceive_of_sent htransmit]
        obtain ⟨r, sif', hreceive, hcases⟩ :=
          receiveAndDeliver_eq { sif with iface := iface } hledger hunsent
        refine ⟨r, sif', hreceive, ?_⟩
        rcases hcases with ⟨hset, hret, hout⟩ |
          ⟨frames, frame', bytes, hframes, hprev, hret, hdata, hecho, hledger', hsockets⟩
        · refine .inl ⟨hset, hret.trans hreturned, .inr ⟨frame, ?_⟩⟩
          rcases hout with ⟨hsame, hledger', -⟩ | ⟨_, -, -, hnil, -⟩
          · exact ⟨hsame.trans hsent, hframe, rfl, hledger'⟩
          · exact absurd hnil hunsent
        · have hboth : dev.sent sif.iface.ethdev ++ [frame] = frames ++ [frame'] := by
            rcases hprev with ⟨-, hnil⟩ | ⟨hprev, -⟩
            · exact absurd hnil hunsent
            · rw [← hsent, ← hprev]
          have hfst := List.append_inj_left' hboth rfl
          refine .inr ⟨frames, frame', bytes, hframes, .inl ⟨hfst, rfl⟩, ?_, ?_, hecho, hledger',
            hsockets⟩
          · rw [hret]
            exact congrArg (· ++ [(frames.length, bytes)]) hreturned
          · simpa using hdata

/-- **The trap.**  Otherwise the exchange panics. -/
theorem transmitAndReceive_trap {sif : SocketInterface D N}
    (h : Ledger dev sif.iface inFlight unsent) (hflight : inFlight ≠ []) (hunsent : unsent ≠ [])
    {token : TxToken D} (hdev : RawEthernetDevice.transmit sif.iface.ethdev = .some token) :
    sif.transmitAndReceive = .error .arithmetic := by
  simp [transmitAndReceive, h.transmitOneFrame_trap hunsent hflight hdev]

end SocketInterface

end EtherCat
