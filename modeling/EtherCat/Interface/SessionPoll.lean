import EtherCat.Interface.Session

/-!
# What a poll does to a session

`Accounts.step_poll` is the step lemma of the invariant: a poll accepts the requests the
enqueuing loop takes, and then either no response comes (`PollWaits`) or the frame that carries
all outstanding requests comes back (`PollFinishes`).  Both keep the accounts.
-/

namespace EtherCat

open Rust BitField EtherCatPdu

namespace Session

variable {D : Type} {N : ℕ}

/-! ## The requests a poll takes -/

/-- What the enqueuing loop does to the sockets. -/
def ClearsTaken (sif enqueued : SocketInterface D N) : Prop :=
  ∀ slot, enqueued.getSocket slot =
    if sif.Takes slot then (sif.getSocket slot).map .taken else sif.getSocket slot

lemma takenAt_eq_some {s : Session D N} {enqueued : SocketInterface D N}
    (hclear : ClearsTaken s.sif enqueued) {slot : ℕ} {r : Request}
    (h : s.takenAt enqueued slot = some r) :
    r.slot = slot ∧ s.sif.Takes slot ∧ s.occupant slot = some r.socket := by
  unfold takenAt at h
  split at h
  · rename_i socket before after hoccupant hbefore hafter
    split at h
    · rename_i hpending
      simp only [Option.map_eq_some_iff] at h
      obtain ⟨command, -, rfl⟩ := h
      refine ⟨rfl, ?_, hoccupant⟩
      by_contra hnot
      have hsame := hclear slot
      rw [if_neg hnot, hbefore, hafter, Option.some.injEq] at hsame
      exact hpending.2 (hsame ▸ hpending.1)
    · cases h
  · cases h

lemma mem_takenRequests {s : Session D N} {enqueued : SocketInterface D N}
    (hclear : ClearsTaken s.sif enqueued) {r : Request} (h : r ∈ s.takenRequests enqueued) :
    s.sif.Takes r.slot ∧ s.occupant r.slot = some r.socket := by
  simp only [takenRequests, List.mem_filterMap] at h
  obtain ⟨slot, -, hr⟩ := h
  obtain ⟨rfl, htakes, hoccupant⟩ := takenAt_eq_some hclear hr
  exact ⟨htakes, hoccupant⟩

/-- The loop's datagrams are the requests observed at the sockets. -/
lemma filterMap_request {s : Session D N} {enqueued : SocketInterface D N}
    (hoccupied : ∀ slot, (s.sif.getSocket slot).isSome = (s.occupant slot).isSome)
    (hclear : ClearsTaken s.sif enqueued) :
    (List.range N).filterMap s.sif.request =
      (s.takenRequests enqueued).map (fun r => r.datagram (UInt8.ofNat (s.sif.rank r.slot))) := by
  rw [takenRequests, List.map_filterMap]
  congr 1
  funext slot
  have hocc := hoccupied slot
  have hafter := hclear slot
  cases hsocket : s.sif.getSocket slot with
  | none =>
      rw [hsocket] at hocc
      have hnone : s.occupant slot = none := by simpa using hocc.symm
      simp [SocketInterface.request, takenAt, hsocket, hnone]
  | some socket =>
      rw [hsocket] at hocc hafter
      obtain ⟨id, hid⟩ := Option.isSome_iff_exists.mp hocc.symm
      by_cases htakes : s.sif.Takes slot
      · obtain ⟨socket', hmem, hpending⟩ := htakes.1
        have heq : socket = socket' := by simpa [hsocket] using hmem
        subst heq
        rw [if_pos htakes, Option.map_some] at hafter
        obtain ⟨command, hcommand⟩ := Option.isSome_iff_exists.mp hpending.2
        simp [SocketInterface.request, takenAt, htakes, hsocket, hid, hafter, hpending,
          PduSocket.not_pending_taken, hcommand, Request.datagram]
      · rw [if_neg htakes] at hafter
        simp [SocketInterface.request, takenAt, htakes, hsocket, hid, hafter]

/-- The enqueuing loop does not move sockets, and neither does delivery. -/
lemma occupied_of_map {s : Session D N} {enqueued : SocketInterface D N}
    (hclear : ClearsTaken s.sif enqueued) (sif' : SocketInterface D N)
    (g : ℕ → PduSocket → PduSocket)
    (hsockets : ∀ slot, sif'.getSocket slot = (enqueued.getSocket slot).map (g slot))
    (slot : ℕ) : (sif'.getSocket slot).isSome = (s.sif.getSocket slot).isSome := by
  rw [hsockets slot, hclear slot]
  split <;> simp

variable [RawEthernetDevice D]

/-! ## The step lemma -/

section
variable {dev : ReturningDevice D} {s s' : Session D N} {finished outstanding : List Request}
  {inFlight unsent : List (List UInt8)}

/-- The enqueuing half of a poll: the accounts with the new requests. -/
lemma Accounts.enqueuePdus (h : s.Accounts dev finished outstanding inFlight unsent)
    (hdata : s.sif.TakesData) {complete : Bool} {enqueued : SocketInterface D N}
    (henqueue : s.sif.enqueuePdus = .ok (complete, enqueued)) :
    ∃ new, ClearsTaken s.sif enqueued ∧ enqueued.iface.ethdev = s.sif.iface.ethdev ∧
      new.map datagram = (s.takenRequests enqueued).map
        (fun r => r.datagram (UInt8.ofNat (s.sif.rank r.slot))) ∧
      Ledger dev enqueued.iface inFlight (unsent ++ new) := by
  have hledger := h.ledger
  obtain ⟨new, hnew, hbuf, hsize, hcount, hiface, hsockets⟩ :=
    SocketInterface.enqueuePdus_eq_ok hdata hledger.buffered hledger.wellSized henqueue
  have hethdev : enqueued.iface.ethdev = s.sif.iface.ethdev := by rw [hiface]
  refine ⟨new, hsockets, hethdev, ?_, ?_⟩
  · rw [hnew, filterMap_request h.occupied hsockets]
  · exact {
      buffered := by rw [← List.append_assoc]; exact hbuf
      wellSized := hsize
      recvDataSize_eq := by rw [hiface]; exact hledger.recvDataSize_eq
      txCount_eq := by rw [hiface]; exact hledger.txCount_eq
      pduCount_eq := by rw [hcount, hledger.pduCount_eq, List.length_append]
      frames := by rw [hethdev]; exact hledger.frames }

/-- No response came: all old and new requests are outstanding, and no socket has changed since
its request was taken. -/
def PollWaits (dev : ReturningDevice D) (s : Session D N) (enqueued : SocketInterface D N)
    (s' : Session D N) (finished outstanding : List Request)
    (buffered : List (List UInt8)) : Prop :=
  ∃ inFlight' unsent', inFlight' ++ unsent' = buffered ∧
    s'.Accounts dev finished (outstanding ++ s.takenRequests enqueued) inFlight' unsent' ∧
    (unsent' = [] ∨ ∃ d', RawEthernetDevice.transmit s.sif.iface.ethdev = .none d') ∧
    dev.returned s'.sif.iface.ethdev = dev.returned s.sif.iface.ethdev ∧
    ∀ slot, s'.sif.getSocket slot = enqueued.getSocket slot

/-- The frame that carries all outstanding requests came back: every request is finished. -/
def PollFinishes (dev : ReturningDevice D) (s : Session D N) (enqueued : SocketInterface D N)
    (s' : Session D N) (finished : List Request) (buffered : List (List UInt8)) : Prop :=
  ∃ number frame bytes, (dev.sent s'.sif.iface.ethdev)[number]? = some frame ∧
    dev.returned s'.sif.iface.ethdev = dev.returned s.sif.iface.ethdev ++ [(number, bytes)] ∧
    (((dev.sent s'.sif.iface.ethdev).take number).flatMap datagramsOf).length =
      finished.length ∧
    (datagramsOf frame).map datagram = buffered.map datagram ∧ Echoes frame bytes ∧
    s'.Accounts dev s'.accepted [] [] [] ∧
    ∀ slot, s'.sif.getSocket slot = (enqueued.getSocket slot).map fun socket =>
      SocketInterface.recieveAll socket
        ((datagramsOf bytes).filter (fun pdu => index.val pdu = slot))

/-- **The step lemma.** -/
theorem Accounts.step_poll (h : s.Accounts dev finished outstanding inFlight unsent)
    (hdata : s.sif.TakesData) (hstep : s.step .poll = .ok s') :
    ∃ enqueued new, (∃ complete, s.sif.enqueuePdus = .ok (complete, enqueued)) ∧
      ClearsTaken s.sif enqueued ∧ s'.occupant = s.occupant ∧ s'.nextSocket = s.nextSocket ∧
      s'.accepted = s.accepted ++ s.takenRequests enqueued ∧
      new.map datagram = (s.takenRequests enqueued).map
        (fun r => r.datagram (UInt8.ofNat (s.sif.rank r.slot))) ∧
      (PollWaits dev s enqueued s' finished outstanding (inFlight ++ (unsent ++ new)) ∨
        PollFinishes dev s enqueued s' finished (inFlight ++ (unsent ++ new))) := by
  obtain ⟨complete, enqueued, r, henqueue, hexchange, hoccupant, hnext, haccepted⟩ :=
    step_poll_eq_ok hstep
  obtain ⟨new, hclear, hethdev, hnew, hledger⟩ := h.enqueuePdus hdata henqueue
  refine ⟨enqueued, new, ⟨complete, henqueue⟩, hclear, hoccupant, hnext, haccepted, hnew, ?_⟩
  -- the exchange returned, so it was not the trap
  have hfree : inFlight = [] ∨ unsent ++ new = [] ∨
      ∃ d', RawEthernetDevice.transmit enqueued.iface.ethdev = .none d' := by
    by_contra hnot
    simp only [not_or, not_exists] at hnot
    obtain ⟨hflight, hunsent, hdev⟩ := hnot
    cases htransmit : RawEthernetDevice.transmit enqueued.iface.ethdev with
    | none d' => exact hdev d' htransmit
    | some token =>
        rw [SocketInterface.transmitAndReceive_trap hledger hflight hunsent htransmit] at hexchange
        cases hexchange
  obtain ⟨r', sif', hexchange', houtcome⟩ := SocketInterface.transmitAndReceive_eq hledger hfree
  rw [hexchange] at hexchange'
  simp only [Except.ok.injEq, Prod.mk.injEq] at hexchange'
  obtain ⟨-, rfl⟩ := hexchange'
  have hcontent : (inFlight ++ (unsent ++ new)).map (fun pdu => (datagram pdu).content) =
      (outstanding ++ s.takenRequests enqueued).map Request.content := by
    have hcontentNew : new.map (fun pdu => (datagram pdu).content) =
        (s.takenRequests enqueued).map Request.content := by
      have := congrArg (List.map Datagram.content) hnew
      simpa [List.map_map, Function.comp_def] using this
    have hold := h.outstanding_eq
    simp only [List.map_append] at hold ⊢
    rw [← List.append_assoc, hold, hcontentNew]
  have hsentEq := h.sent_eq
  have hreturnedEq := h.returned_eq
  rcases houtcome with ⟨hset, hreturned, hout⟩ |
    ⟨frames, frame, bytes, hsent', hprev, hreturned, hframe, hecho, hledger', hsockets⟩
  · -- no response
    have hsockets : ∀ slot, s'.sif.getSocket slot = enqueued.getSocket slot := by
      intro slot
      rw [SocketInterface.getSocket, hset]
      rfl
    have hoccupied : ∀ slot, (s'.sif.getSocket slot).isSome = (s'.occupant slot).isSome := by
      intro slot
      rw [occupied_of_map hclear s'.sif (fun _ socket => socket) (by simpa using hsockets) slot,
        hoccupant, h.occupied]
    refine .inl ?_
    rcases hout with ⟨hsent, hledger', htaken⟩ | ⟨frame, hsent, hframe, rfl, hledger'⟩
    · refine ⟨inFlight, unsent ++ new, rfl, ?_, by rw [← hethdev]; exact htaken,
        by rw [hreturned, hethdev], hsockets⟩
      exact {
        ledger := hledger'
        occupied := hoccupied
        accepted_eq := by rw [haccepted, h.accepted_eq, List.append_assoc]
        outstanding_eq := hcontent
        sent_eq := by rw [sentPdus, hsent, hethdev]; exact hsentEq
        returned_eq := by rw [returnedPdus, hreturned, hethdev]; exact hreturnedEq }
    · refine ⟨unsent ++ new, [], by simp, ?_, .inl rfl, by rw [hreturned, hethdev], hsockets⟩
      exact {
        ledger := hledger'
        occupied := hoccupied
        accepted_eq := by rw [haccepted, h.accepted_eq, List.append_assoc]
        outstanding_eq := by simpa using hcontent
        sent_eq := by
          have hframe' := congrArg (List.map Datagram.content) hframe
          simp only [List.map_map, Function.comp_def] at hframe'
          rw [sentPdus, hsent, hethdev, List.flatMap_append, List.map_append, ← sentPdus, hsentEq]
          simp [hframe']
        returned_eq := by rw [returnedPdus, hreturned, hethdev]; exact hreturnedEq }
  · -- the frame came back
    have hframeContent : (datagramsOf frame).map (fun pdu => (datagram pdu).content) =
        (outstanding ++ s.takenRequests enqueued).map Request.content := by
      have hframe' := congrArg (List.map Datagram.content) hframe
      simp only [List.map_map, Function.comp_def] at hframe'
      rw [hframe', hcontent]
    -- the frames before this one carried exactly the finished requests
    have hframes : (frames.flatMap datagramsOf).map (fun pdu => (datagram pdu).content) =
        finished.map Request.content := by
      rcases hprev with ⟨hprev, hflight⟩ | ⟨hprev, hunsent⟩
      · rw [sentPdus, ← hethdev, hprev, hflight] at hsentEq
        simpa using hsentEq
      · rw [sentPdus, ← hethdev, hprev, List.flatMap_append, List.map_append] at hsentEq
        refine List.append_inj_left' hsentEq ?_
        have hlen := congrArg List.length hframe
        rw [hunsent] at hlen
        simpa using hlen
    refine .inr ⟨frames.length, frame, bytes, ?_, by rw [hreturned, hethdev], ?_, hframe, hecho, ?_,
      hsockets⟩
    · simp [hsent']
    · rw [hsent', List.take_left]
      simpa using congrArg List.length hframes
    · have hlen : (datagramsOf bytes).length =
          outstanding.length + (s.takenRequests enqueued).length := by
        rw [hecho.length_datagramsOf]
        simpa using congrArg List.length hframeContent
      exact {
        ledger := hledger'
        occupied := by
          intro slot
          rw [occupied_of_map hclear s'.sif _ hsockets slot, hoccupant, h.occupied]
        accepted_eq := by simp
        outstanding_eq := rfl
        sent_eq := by
          rw [sentPdus, hsent', List.flatMap_append, List.map_append, hframes, haccepted,
            h.accepted_eq]
          simp [hframeContent]
        returned_eq := by
          rw [returnedPdus, hreturned, hethdev, List.flatMap_append, List.length_append,
            ← returnedPdus, hreturnedEq, haccepted, h.accepted_eq]
          simp [hlen] }

end

end Session

end EtherCat
