import EtherCat.Interface.Loopback
import EtherCat.Interface.SessionPoll

/-!
# The counters of the PDU interface over a history

A history is a list of calls: sockets are added and removed, get datagrams, and the interface is
polled.  The counters of the PDU interface are right after every call of a history, and no poll
underflows, exactly as long as no frame is handed to the device while another one is out
(`HoldsBack`).  Without that condition the second frame takes the datagrams of the first once
more, and the counter of unsent datagrams runs below zero.
-/

namespace EtherCat

open Rust BitField EtherCatPdu

namespace Session

variable {D : Type} {N : ℕ}

/-- The unsent datagrams, as they lie at the end of the used part of the PDU buffer. -/
def UnsentInBuffer (iface : PduInterface D) (requests : List Request) : Prop :=
  ∃ pdus : List (List UInt8), (∀ pdu ∈ pdus, IsDatagram pdu) ∧
    pdus.flatten <:+ iface.buffer.take iface.pdusTotalSize ∧
    pdus.map (fun pdu => (datagram pdu).content) = requests.map Request.content

variable [RawEthernetDevice D]

/-- **What the counters promise.**  The frames sent so far carry the accepted requests in order,
each once; the counters are the numbers of the requests not yet sent and not yet received; and the
requests not yet sent lie untouched in the buffer. -/
structure CountersRight (dev : ReturningDevice D) (s : Session D N) : Prop where
  sent_eq : (sentPdus dev s.sif.iface.ethdev).map (fun pdu => (datagram pdu).content) =
    (s.accepted.take (sentPdus dev s.sif.iface.ethdev).length).map Request.content
  pduCount_eq : s.sif.iface.pduCount + (sentPdus dev s.sif.iface.ethdev).length =
    s.accepted.length
  txCount_eq : s.sif.iface.txCount + (returnedPdus dev s.sif.iface.ethdev).length =
    (sentPdus dev s.sif.iface.ethdev).length
  unsent : UnsentInBuffer s.sif.iface
    (s.accepted.drop (sentPdus dev s.sif.iface.ethdev).length)

/-- Nothing underflows: the exchange with the device returns, once the requests are enqueued. -/
def ExchangeReturns (s : Session D N) : Operation → Prop
  | .poll => ∀ enqueued ∈ s.sif.enqueuePdus.toOption,
      enqueued.2.transmitAndReceive.toOption.isSome
  | _ => True

instance (s : Session D N) : (op : Operation) → Decidable (s.ExchangeReturns op)
  | .poll => inferInstanceAs (Decidable (∀ enqueued ∈ s.sif.enqueuePdus.toOption, _))
  | .addSocket _ | .removeSocket _ | .setPdu _ _ => .isTrue trivial

/-- A frame that the device takes leaves no request unsent. -/
def SendsAll (s : Session D N) (op : Operation) : Prop :=
  ∀ s' token, op = .poll → s.step op = .ok s' →
    RawEthernetDevice.transmit s.sif.iface.ethdev = .some token → s'.sif.iface.pduCount = 0

/-- Every datagram a poll takes has data. -/
def SendsData (s : Session D N) : Operation → Prop
  | .poll => s.sif.TakesData
  | _ => True

instance (s : Session D N) : (op : Operation) → Decidable (s.SendsData op)
  | .poll => inferInstanceAs (Decidable s.sif.TakesData)
  | .addSocket _ | .removeSocket _ | .setPdu _ _ => .isTrue trivial

/-- The device takes no frame now. -/
def Refuses (d : D) : Prop := (RawEthernetDevice.transmit d).isNone

instance (d : D) : Decidable (Refuses d) :=
  inferInstanceAs (Decidable ((RawEthernetDevice.transmit d).isNone = true))

/-- No frame is handed to the device while another one is out: nothing is in flight, or the
device takes no frame, or there is nothing to send. -/
def HoldsBack (s : Session D N) : Operation → Prop
  | .poll => s.sif.iface.txCount = 0 ∨ Refuses s.sif.iface.ethdev ∨
      (s.sif.iface.pduCount = 0 ∧ ∀ slot < N, ¬ s.sif.Takes slot)
  | _ => True

instance (s : Session D N) : (op : Operation) → Decidable (s.HoldsBack op)
  | .poll => inferInstanceAs (Decidable (s.sif.iface.txCount = 0 ∨ Refuses s.sif.iface.ethdev ∨
      (s.sif.iface.pduCount = 0 ∧ ∀ slot < N, ¬ s.sif.Takes slot)))
  | .addSocket _ | .removeSocket _ | .setPdu _ _ => .isTrue trivial

section
variable {dev : ReturningDevice D} {s s' : Session D N} {finished outstanding : List Request}
  {inFlight unsent : List (List UInt8)}

lemma Accounts.countersRight (h : s.Accounts dev finished outstanding inFlight unsent) :
    s.CountersRight dev := by
  have hsent := h.sent_eq
  have hout := h.outstanding_eq
  have hsentLen := congrArg List.length hsent
  have houtLen := congrArg List.length hout
  simp only [List.length_map, List.length_append] at hsentLen houtLen
  have hlt : inFlight.length ≤ outstanding.length := by omega
  -- the requests in flight come first among the outstanding ones
  have hfront : inFlight.map (fun pdu => (datagram pdu).content) =
      (outstanding.take inFlight.length).map Request.content := by
    rw [List.map_take, ← hout, List.map_append, List.take_left' (by simp)]
  have hback : unsent.map (fun pdu => (datagram pdu).content) =
      (outstanding.drop inFlight.length).map Request.content := by
    rw [List.map_drop, ← hout, List.map_append, List.drop_left' (by simp)]
  refine ⟨?_, ?_, ?_, unsent, ?_, ?_, ?_⟩
  · rw [hsentLen, h.accepted_eq, List.take_length_add_append, List.map_append, hsent, hfront]
  · rw [hsentLen, h.accepted_eq, h.ledger.pduCount_eq, List.length_append]
    omega
  · rw [hsentLen, h.returned_eq, h.ledger.txCount_eq]
    omega
  · exact fun pdu hpdu => h.ledger.buffered.isDatagram pdu (by simp [hpdu])
  · obtain ⟨rest, hbuffer⟩ := h.ledger.buffered.buffer_eq
    rw [hbuffer, h.ledger.buffered.total_eq, List.take_left, List.flatten_append]
    exact List.suffix_append ..
  · rw [hsentLen, h.accepted_eq, List.drop_length_add_append, hback]

omit [RawEthernetDevice D] in
/-- Datagrams that were taken came from some slot. -/
lemma exists_takes_of_ne_nil {enqueued : SocketInterface D N} {new : List (List UInt8)}
    (hclear : ClearsTaken s.sif enqueued)
    (hnew : new.map datagram = (s.takenRequests enqueued).map
      (fun r => r.datagram (UInt8.ofNat (s.sif.rank r.slot)))) (hne : new ≠ []) :
    ∃ slot < N, s.sif.Takes slot := by
  obtain ⟨r, hr⟩ : ∃ r, r ∈ s.takenRequests enqueued := by
    refine List.exists_mem_of_ne_nil _ fun hnil => hne ?_
    rw [hnil] at hnew
    simpa using hnew
  obtain ⟨htakes, -⟩ := mem_takenRequests hclear hr
  obtain ⟨socket, hsocket, -⟩ := htakes.1
  exact ⟨r.slot, SocketInterface.lt_of_getSocket hsocket, htakes⟩

omit [RawEthernetDevice D] in
/-- A slot the loop takes from gives a request. -/
lemma takenRequests_ne_nil {enqueued : SocketInterface D N}
    (hoccupied : ∀ slot, (s.sif.getSocket slot).isSome = (s.occupant slot).isSome)
    (hclear : ClearsTaken s.sif enqueued) {slot : ℕ} (hslot : slot < N)
    (htakes : s.sif.Takes slot) : s.takenRequests enqueued ≠ [] := by
  intro hnil
  have hloop := filterMap_request hoccupied hclear
  rw [hnil, List.map_nil, List.filterMap_eq_nil_iff] at hloop
  have hnone := hloop slot (by simpa using hslot)
  obtain ⟨socket, hsocket, hpending⟩ := htakes.1
  obtain ⟨command, hcommand⟩ := Option.isSome_iff_exists.mp hpending.2
  rw [Option.mem_def] at hsocket
  simp [SocketInterface.request, htakes, hsocket, hcommand] at hnone

/-- **A poll returns exactly if it holds back.** -/
theorem Accounts.pollReturns_iff (h : s.Accounts dev finished outstanding inFlight unsent)
    (hdata : s.sif.TakesData) {complete : Bool} {enqueued : SocketInterface D N}
    (henqueue : s.sif.enqueuePdus = .ok (complete, enqueued)) :
    s.ExchangeReturns .poll ↔ s.HoldsBack .poll := by
  obtain ⟨new, hclear, hethdev, hnew, hledger⟩ := h.enqueuePdus hdata henqueue
  have hreturns : s.ExchangeReturns .poll ↔
      ∃ r sif, enqueued.transmitAndReceive = .ok (r, sif) := by
    rcases hexchange : enqueued.transmitAndReceive with e | ⟨r, sif⟩ <;>
      simp [ExchangeReturns, henqueue, hexchange, Except.toOption]
  rw [hreturns]
  constructor
  · rintro ⟨r, sif, hexchange⟩
    by_contra hnot
    simp only [HoldsBack, not_or, not_and, not_forall] at hnot
    obtain ⟨htx, hdev, hsend⟩ := hnot
    have hflight : inFlight ≠ [] := fun hnil => htx (h.ledger.txCount_eq_zero_iff.mpr hnil)
    have hunsent : unsent ++ new ≠ [] := by
      intro hnil
      obtain ⟨hunsent, rfl⟩ := List.append_eq_nil_iff.mp hnil
      obtain ⟨slot, hslot, htakes⟩ := hsend (h.ledger.pduCount_eq_zero_iff.mpr hunsent)
      have hne := takenRequests_ne_nil h.occupied hclear hslot (not_not.mp htakes)
      exact hne (by simpa using hnew.symm)
    cases htransmit : RawEthernetDevice.transmit enqueued.iface.ethdev with
    | none d' =>
        rw [hethdev] at htransmit
        exact hdev (by simp [Refuses, htransmit, TokenOption.isNone])
    | some token =>
        rw [SocketInterface.transmitAndReceive_trap hledger hflight hunsent htransmit] at hexchange
        cases hexchange
  · intro hholds
    have hfree : inFlight = [] ∨ unsent ++ new = [] ∨
        ∃ d', RawEthernetDevice.transmit enqueued.iface.ethdev = .none d' := by
      rcases hholds with htx | hdev | ⟨hcount, hnone⟩
      · exact .inl (h.ledger.txCount_eq_zero_iff.mp htx)
      · refine .inr (.inr ?_)
        rw [hethdev]
        unfold Refuses at hdev
        cases htransmit : RawEthernetDevice.transmit s.sif.iface.ethdev with
        | none d' => exact ⟨d', rfl⟩
        | some token => simp [htransmit, TokenOption.isNone] at hdev
      · refine .inr (.inl ?_)
        rw [h.ledger.pduCount_eq_zero_iff.mp hcount, List.nil_append]
        by_contra hne
        obtain ⟨slot, hslot, htakes⟩ := exists_takes_of_ne_nil hclear hnew hne
        exact hnone slot hslot htakes
    obtain ⟨r, sif, hexchange, -⟩ := SocketInterface.transmitAndReceive_eq hledger hfree
    exact ⟨r, sif, hexchange⟩

/-- One call keeps the accounts. -/
lemma Accounts.step (h : s.Accounts dev finished outstanding inFlight unsent) {op : Operation}
    (hdata : s.SendsData op) (hstep : s.step op = .ok s') :
    ∃ finished outstanding inFlight unsent,
      s'.Accounts dev finished outstanding inFlight unsent := by
  by_cases hop : op = .poll
  · subst hop
    obtain ⟨_, _, -, -, -, -, -, -, ⟨_, _, -, haccounts, -⟩ | ⟨_, _, _, -, -, -, -, -, haccounts, -⟩⟩ :=
      h.step_poll hdata hstep
    · exact ⟨_, _, _, _, haccounts⟩
    · exact ⟨_, _, _, _, haccounts⟩
  · exact ⟨_, _, _, _, h.step_socket hop hstep⟩

/-- The accounts over a whole history. -/
lemma exists_accounts {ops : List Operation} {s₀ : Session D N}
    (hs₀ : ∃ finished outstanding inFlight unsent,
      s₀.Accounts dev finished outstanding inFlight unsent)
    (hdata : Transition.Along Session.step SendsData s₀ ops)
    (hrun : Transition.run Session.step s₀ ops = .ok s) :
    ∃ finished outstanding inFlight unsent,
      s.Accounts dev finished outstanding inFlight unsent :=
  Transition.run_invariant
    (fun s => ∃ finished outstanding inFlight unsent,
      s.Accounts dev finished outstanding inFlight unsent)
    (fun _ _ _ ⟨_, _, _, _, haccounts⟩ hdata hstep => haccounts.step hdata hstep) hs₀ hdata hrun

lemma Accounts.sendsAll (h : s.Accounts dev finished outstanding inFlight unsent)
    {op : Operation} (hdata : s.SendsData op) : s.SendsAll op := by
  rintro s' token rfl hstep hdev
  obtain ⟨_, _, -, -, -, -, -, -, ⟨_, unsent', -, haccounts, hsent, -⟩ |
    ⟨_, _, _, -, -, -, -, -, haccounts, -⟩⟩ := h.step_poll hdata hstep
  · rcases hsent with hnil | ⟨d', hnone⟩
    · exact haccounts.ledger.pduCount_eq_zero_iff.mpr hnil
    · rw [hdev] at hnone
      cases hnone
  · exact haccounts.ledger.pduCount_eq

lemma Accounts.exchangeReturns (h : s.Accounts dev finished outstanding inFlight unsent)
    {op : Operation} (hdata : s.SendsData op) (hholds : s.HoldsBack op) :
    s.ExchangeReturns op := by
  cases op with
  | poll =>
      cases henqueue : s.sif.enqueuePdus with
      | error e => simp [ExchangeReturns, henqueue, Except.toOption]
      | ok enqueued => exact (h.pollReturns_iff hdata henqueue).mpr hholds
  | _ => trivial

end

/-- **The counters over a history.**  Let every poll of a history hold back and take no empty
datagram.  Then the counters are right in every state reached, no poll underflows, and every
frame the device takes carries all requests that were unsent.  The condition is exact: from a
state reached, the exchange of a further poll returns only if that poll holds back. -/
theorem counters_of_holdsBack (dev : ReturningDevice D) (ethdev : D)
    (hsent : dev.sent ethdev = []) (hreturned : dev.returned ethdev = []) (buffer : List UInt8)
    (ops : List Operation)
    (halong : Transition.Along step (fun s op => s.SendsData op ∧ s.HoldsBack op)
      (new (PduInterface.new ethdev buffer) : Session D N) ops) :
    (∀ s, Transition.run step (new (PduInterface.new ethdev buffer) : Session D N) ops = .ok s →
      s.CountersRight dev) ∧
    Transition.Along step (fun s op => s.ExchangeReturns op ∧ s.SendsAll op)
      (new (PduInterface.new ethdev buffer) : Session D N) ops ∧
    ∀ s, Transition.run step (new (PduInterface.new ethdev buffer) : Session D N) ops = .ok s →
      s.SendsData .poll → s.sif.enqueuePdus.toOption.isSome →
        (s.ExchangeReturns .poll ↔ s.HoldsBack .poll) := by
  have hs₀ : ∃ finished outstanding inFlight unsent,
      (new (PduInterface.new ethdev buffer) : Session D N).Accounts dev finished outstanding
        inFlight unsent := ⟨_, _, _, _, new_accounts dev hsent hreturned buffer⟩
  have hdata := Transition.along_mono (fun s op h => h.1) halong
  refine ⟨fun s hrun => ?_, ?_, fun s hrun hpoll henqueue => ?_⟩
  · obtain ⟨_, _, _, _, haccounts⟩ := exists_accounts hs₀ hdata hrun
    exact haccounts.countersRight
  · have hinv := Transition.along_invariant
      (fun s : Session D N => ∃ finished outstanding inFlight unsent,
        s.Accounts dev finished outstanding inFlight unsent)
      (fun _ _ _ ⟨_, _, _, _, haccounts⟩ h hstep => haccounts.step h.1 hstep) hs₀ halong
    exact Transition.along_mono
      (fun s op ⟨⟨_, _, _, _, haccounts⟩, hdata, hholds⟩ =>
        ⟨haccounts.exchangeReturns hdata hholds, haccounts.sendsAll hdata⟩) hinv
  · obtain ⟨_, _, _, _, haccounts⟩ := exists_accounts hs₀ hdata hrun
    cases h : s.sif.enqueuePdus with
    | error e => simp [h, Except.toOption] at henqueue
    | ok enqueued => exact haccounts.pollReturns_iff hpoll h

/-! ## The trap on the loopback device -/

/-- A user that reads two bytes at a register of station `0x1001`. -/
def readAlStatus : PduWriter where
  run buf := (some (⟨.fprd, 0x1001, 0x0130⟩, 2), buf)
  length_run _ := rfl

/-- Two sockets on an interface with room for both. -/
def twoSockets (device : Loopback) : Session Loopback 2 :=
  new (PduInterface.new device (List.replicate 64 0))

/-- The frame of the first socket is still out when the second one asks. -/
def secondAsksTooEarly : List Operation :=
  [.addSocket (.new (List.replicate 2 0)), .addSocket (.new (List.replicate 2 0)),
    .setPdu 0 readAlStatus, .poll, .setPdu 1 readAlStatus, .poll]

theorem counters_underflow :
    ¬ ∀ ops, Transition.Along step SendsData (twoSockets (.new [] [false])) ops →
      Transition.Along step ExchangeReturns (twoSockets (.new [] [false])) ops := by
  intro h
  exact absurd (h secondAsksTooEarly (by decide +kernel)) (by decide +kernel)

/-- The second one waits until the frame of the first one is back. -/
theorem counters_of_holdsBack_twoSockets :
    Transition.Along step (fun s op => s.ExchangeReturns op ∧ s.SendsAll op)
      (twoSockets (.new [] [false]))
      [.addSocket (.new (List.replicate 2 0)), .addSocket (.new (List.replicate 2 0)),
        .setPdu 0 readAlStatus, .poll, .poll, .setPdu 1 readAlStatus, .poll] :=
  (counters_of_holdsBack Loopback.returning (.new [] [false]) rfl rfl
    (List.replicate 64 0) _ (by decide +kernel)).2.1

end Session

end EtherCat
