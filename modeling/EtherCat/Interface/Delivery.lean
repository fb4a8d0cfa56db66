import EtherCat.Interface.Accounting

/-!
# Which socket gets a response

Requests are sent in the order in which they were accepted, so the datagrams of the frames
answer the requests one by one.  `answered` pairs the responses that a poll brings with the
requests they answer, without looking at the index byte; `Delivers` says that each of them goes
to the socket it was requested by and to no other.

The code delivers by the index byte.  The byte is the number of occupied slots below the
requester's, and it is read as the number of a slot.  Both agree as long as a request is only
taken from a slot with no free slot below it, and as long as no socket is added to a slot whose
former socket still has a request outstanding (`HandlesAgree`).
-/

namespace EtherCat

open Rust BitField EtherCatPdu

/-- The index byte of a datagram as a number. -/
lemma index_val_eq (pdu : List UInt8) : index.val pdu = (datagram pdu).index.toNat := by
  have hlt : index.val pdu < 2 ^ 8 := Field.val_lt index pdu
  simp only [datagram, UInt8.toNat_ofNat']
  omega

/-- Two lists with the same image, element by element. -/
lemma eq_of_mem_zip {α β γ : Type*} {f : α → γ} {g : β → γ} {as : List α} {bs : List β}
    (h : as.map f = bs.map g) : ∀ p ∈ as.zip bs, f p.1 = g p.2 := by
  induction as generalizing bs with
  | nil => simp
  | cons a as ih =>
      cases bs with
      | nil => simp
      | cons b bs =>
          simp only [List.map_cons, List.cons.injEq] at h
          simpa [h.1] using ih h.2

namespace Session

variable {D : Type} {N : ℕ} [RawEthernetDevice D]

/-- The requests from the first one that a frame carries on. -/
def requestsFrom (dev : ReturningDevice D) (s : Session D N) (number : ℕ) : List Request :=
  s.accepted.drop (((dev.sent s.sif.iface.ethdev).take number).flatMap datagramsOf).length

/-- The frames that came back between two states. -/
def newlyReturned (dev : ReturningDevice D) (s s' : Session D N) : List (ℕ × List UInt8) :=
  (dev.returned s'.sif.iface.ethdev).drop (dev.returned s.sif.iface.ethdev).length

/-- The responses that came between two states, each with the request it answers. -/
def answered (dev : ReturningDevice D) (s s' : Session D N) : List (Request × List UInt8) :=
  (newlyReturned dev s s').flatMap fun r =>
    (s'.requestsFrom dev r.1).zip (datagramsOf r.2)

/-- **What delivery promises** for a poll from `s` to `s'`. -/
structure Delivers (dev : ReturningDevice D) (s s' : Session D N) : Prop where
  /-- Every frame that came back carries the requests it is said to carry. -/
  carries : ∀ r ∈ newlyReturned dev s s', ∃ frame,
    (dev.sent s'.sif.iface.ethdev)[r.1]? = some frame ∧
      (datagramsOf frame).map (fun pdu => (datagram pdu).content) =
        ((s'.requestsFrom dev r.1).take (datagramsOf frame).length).map Request.content
  /-- No response is left out. -/
  complete : (answered dev s s').map Prod.snd =
    (newlyReturned dev s s').flatMap fun r => datagramsOf r.2
  /-- Every socket gets the responses to its own requests, in order, and changes in no other way
  once the requests of this poll are taken. -/
  delivered : ∀ enqueued ∈ s.sif.enqueuePdus.toOption, ∀ slot,
    s'.sif.getSocket slot = (enqueued.2.getSocket slot).map fun socket =>
      SocketInterface.recieveAll socket
        (((answered dev s s').filter
          (fun answer => s.occupant slot = some answer.1.socket)).map Prod.snd)

/-- The requests whose responses have not come back. -/
def outstanding (dev : ReturningDevice D) (s : Session D N) : List Request :=
  s.accepted.drop (returnedPdus dev s.sif.iface.ethdev).length

/-- Index bytes and slots agree: no datagram is taken above a free slot, and no socket is added
to a slot that an outstanding request came from. -/
def HandlesAgree (dev : ReturningDevice D) (s : Session D N) : Operation → Prop
  | .addSocket _ => ∀ r ∈ s.outstanding dev, r.slot ≠ s.sif.socketSet.freeIndex
  | .poll => ∀ slot < N, s.sif.Takes slot → ∀ l < slot, (s.sif.getSocket l).isSome
  | _ => True

instance (dev : ReturningDevice D) (s : Session D N) :
    (op : Operation) → Decidable (s.HandlesAgree dev op)
  | .addSocket _ => inferInstanceAs (Decidable (∀ r ∈ s.outstanding dev, _))
  | .poll => inferInstanceAs (Decidable
      (∀ slot < N, s.sif.Takes slot → ∀ l < slot, (s.sif.getSocket l).isSome))
  | .removeSocket _ | .setPdu _ _ => .isTrue trivial

/-! ## The invariant -/

/-- Which sockets live where, and where the outstanding requests came from. -/
structure Addressed (s : Session D N) (outstanding : List Request)
    (buffered : List (List UInt8)) : Prop where
  /-- The index byte of a buffered datagram is the slot its request came from. -/
  index_eq : buffered.map (fun pdu => (datagram pdu).index) =
    outstanding.map (fun r => UInt8.ofNat r.slot)
  slot_lt : ∀ r ∈ outstanding, r.slot < N
  /-- A socket is in one slot only. -/
  injective : ∀ slot slot' socket, s.occupant slot = some socket →
    s.occupant slot' = some socket → slot = slot'
  occupant_lt : ∀ slot socket, s.occupant slot = some socket → socket < s.nextSocket
  socket_lt : ∀ r ∈ outstanding, r.socket < s.nextSocket
  /-- A requester that is still there is where it was. -/
  home : ∀ r ∈ outstanding, ∀ slot, s.occupant slot = some r.socket → slot = r.slot
  /-- A slot with a request outstanding has no socket but the requester. -/
  alone : ∀ r ∈ outstanding, ∀ socket, s.occupant r.slot = some socket → socket = r.socket

omit [RawEthernetDevice D] in
lemma Addressed.nil {s : Session D N} {outstanding : List Request}
    {buffered : List (List UInt8)} (h : s.Addressed outstanding buffered) : s.Addressed [] [] where
  index_eq := rfl
  slot_lt := by simp
  injective := h.injective
  occupant_lt := h.occupant_lt
  socket_lt := by simp
  home := by simp
  alone := by simp

section
variable {dev : ReturningDevice D} {s s' : Session D N} {finished pending : List Request}
  {inFlight unsent : List (List UInt8)}

lemma Accounts.outstanding_eq_drop (h : s.Accounts dev finished pending inFlight unsent) :
    s.outstanding dev = pending := by
  rw [outstanding, h.returned_eq, h.accepted_eq, List.drop_left]

/-- The calls on sockets keep the addresses. -/
lemma Addressed.step_socket (haccounts : s.Accounts dev finished pending inFlight unsent)
    {buffered : List (List UInt8)} (h : s.Addressed pending buffered) {op : Operation}
    (hop : op ≠ .poll) (hagree : s.HandlesAgree dev op) (hstep : s.step op = .ok s') :
    s'.Addressed pending buffered := by
  cases op with
  | addSocket socket =>
      obtain ⟨-, -, ⟨slot, hslot, -, hfree, -, hoccupant, hnext⟩ | rfl⟩ := step_addSocket hstep
      swap
      · exact h
      rw [HandlesAgree, haccounts.outstanding_eq_drop, ← hslot] at hagree
      have hnew : ∀ i id, s'.occupant i = some id →
          (i = slot ∧ id = s.nextSocket) ∨ (i ≠ slot ∧ s.occupant i = some id) := by
        intro i id hid
        rw [hoccupant] at hid
        by_cases hi : i = slot
        · simp only [hi, if_true, Option.some.injEq] at hid
          exact .inl ⟨hi, hid.symm⟩
        · simp only [hi, if_false] at hid
          exact .inr ⟨hi, hid⟩
      exact {
        index_eq := h.index_eq
        slot_lt := h.slot_lt
        injective := by
          intro i j id hi hj
          rcases hnew i id hi with ⟨rfl, rfl⟩ | ⟨-, hi⟩ <;>
            rcases hnew j _ hj with ⟨rfl, hid⟩ | ⟨-, hj⟩
          · rfl
          · exact absurd (h.occupant_lt _ _ hj) (Nat.lt_irrefl _)
          · exact absurd (hid ▸ h.occupant_lt _ _ hi) (Nat.lt_irrefl _)
          · exact h.injective i j id hi hj
        occupant_lt := by
          intro i id hid
          rw [hnext]
          rcases hnew i id hid with ⟨-, rfl⟩ | ⟨-, hid⟩
          · exact Nat.lt_succ_self _
          · exact Nat.lt_succ_of_lt (h.occupant_lt _ _ hid)
        socket_lt := by
          intro r hr
          rw [hnext]
          exact Nat.lt_succ_of_lt (h.socket_lt r hr)
        home := by
          intro r hr i hid
          rcases hnew i _ hid with ⟨-, heq⟩ | ⟨-, hid⟩
          · exact absurd (heq ▸ h.socket_lt r hr) (Nat.lt_irrefl _)
          · exact h.home r hr i hid
        alone := by
          intro r hr id hid
          rcases hnew _ id hid with ⟨heq, -⟩ | ⟨-, hid⟩
          · exact absurd heq (hagree r hr)
          · exact h.alone r hr id hid }
  | removeSocket slot =>
      cases hstep
      have hold : ∀ i id, (if i = slot then none else s.occupant i) = some id →
          s.occupant i = some id := by
        intro i id hid
        split at hid
        · cases hid
        · exact hid
      exact {
        index_eq := h.index_eq
        slot_lt := h.slot_lt
        injective := fun i j id hi hj => h.injective i j id (hold _ _ hi) (hold _ _ hj)
        occupant_lt := fun i id hid => h.occupant_lt i id (hold _ _ hid)
        socket_lt := h.socket_lt
        home := fun r hr i hid => h.home r hr i (hold _ _ hid)
        alone := fun r hr id hid => h.alone r hr id (hold _ _ hid) }
  | setPdu slot commandData =>
      cases hstep
      exact {
        index_eq := h.index_eq
        slot_lt := h.slot_lt
        injective := h.injective
        occupant_lt := h.occupant_lt
        socket_lt := h.socket_lt
        home := h.home
        alone := h.alone }
  | poll => exact absurd rfl hop

/-- The requests a poll takes are addressed to their slots. -/
lemma Addressed.enqueue (dev : ReturningDevice D) {buffered new : List (List UInt8)}
    (h : s.Addressed pending buffered)
    (hagree : s.HandlesAgree dev .poll) {enqueued : SocketInterface D N}
    (hclear : ClearsTaken s.sif enqueued)
    (hnew : new.map datagram = (s.takenRequests enqueued).map
      (fun r => r.datagram (UInt8.ofNat (s.sif.rank r.slot)))) :
    s.Addressed (pending ++ s.takenRequests enqueued) (buffered ++ new) := by
  have htaken : ∀ r ∈ s.takenRequests enqueued, r.slot < N ∧ s.sif.rank r.slot = r.slot ∧
      s.occupant r.slot = some r.socket := by
    intro r hr
    obtain ⟨htakes, hoccupant⟩ := mem_takenRequests hclear hr
    obtain ⟨socket, hsocket, -⟩ := htakes.1
    have hlt := SocketInterface.lt_of_getSocket hsocket
    exact ⟨hlt, (s.sif.rank_eq_iff r.slot).mpr (hagree r.slot hlt htakes), hoccupant⟩
  have hindex : new.map (fun pdu => (datagram pdu).index) =
      (s.takenRequests enqueued).map (fun r => UInt8.ofNat r.slot) := by
    have hmap := congrArg (List.map Datagram.index) hnew
    simp only [List.map_map, Function.comp_def] at hmap
    rw [hmap]
    exact List.map_congr_left fun r hr => by
      rw [Request.datagram, (htaken r hr).2.1]
  exact {
    index_eq := by rw [List.map_append, List.map_append, h.index_eq, hindex]
    slot_lt := by
      intro r hr
      rcases List.mem_append.mp hr with hr | hr
      · exact h.slot_lt r hr
      · exact (htaken r hr).1
    injective := h.injective
    occupant_lt := h.occupant_lt
    socket_lt := by
      intro r hr
      rcases List.mem_append.mp hr with hr | hr
      · exact h.socket_lt r hr
      · exact h.occupant_lt _ _ (htaken r hr).2.2
    home := by
      intro r hr slot hslot
      rcases List.mem_append.mp hr with hr | hr
      · exact h.home r hr slot hslot
      · exact h.injective slot r.slot r.socket hslot (htaken r hr).2.2
    alone := by
      intro r hr socket hsocket
      rcases List.mem_append.mp hr with hr | hr
      · exact h.alone r hr socket hsocket
      · rw [(htaken r hr).2.2, Option.some.injEq] at hsocket
        exact hsocket.symm }

omit [RawEthernetDevice D] in
/-- **The index byte finds the requester.**  Among the responses to addressed requests, those
with the number of an occupied slot are those whose request came from its socket. -/
lemma Addressed.filter_eq {buffered qs ps : List (List UInt8)} (h : s.Addressed pending buffered)
    (hN : N ≤ 256) (hps : ps.map datagram = buffered.map datagram)
    (hqs : List.Forall₂ Answers ps qs) {slot socket : ℕ} (hsocket : s.occupant slot = some socket) :
    qs.filter (fun pdu => index.val pdu = slot) =
      ((pending.zip qs).filter (fun answer => s.occupant slot = some answer.1.socket)).map
        Prod.snd := by
  -- the responses carry the slots of the requests
  have hindex : qs.map index.val = pending.map Request.slot := by
    have hqp : qs.map index.val = ps.map index.val := by
      clear hps
      induction hqs with
      | nil => rfl
      | cons hpq _ ih => simp [hpq.1, ih]
    have hpb : ps.map index.val = buffered.map index.val := by
      have hmap := congrArg (List.map (fun d => d.index.toNat)) hps
      simpa [List.map_map, Function.comp_def, ← index_val_eq] using hmap
    have hbr : buffered.map index.val = pending.map Request.slot := by
      have hmap := congrArg (List.map UInt8.toNat) h.index_eq
      simp only [List.map_map, Function.comp_def, ← index_val_eq] at hmap
      rw [hmap]
      exact List.map_congr_left fun r hr => by
        have := h.slot_lt r hr
        simp only [UInt8.toNat_ofNat']
        omega
    rw [hqp, hpb, hbr]
  have hlen : pending.length = qs.length := by
    have := congrArg List.length hindex
    simpa using this.symm
  have hsnd : qs = (pending.zip qs).map Prod.snd :=
    (List.map_snd_zip (by omega)).symm
  conv_lhs => rw [hsnd]
  rw [List.filter_map]
  congr 1
  refine List.filter_congr fun answer hanswer => ?_
  have hslot : answer.1.slot = index.val answer.2 := eq_of_mem_zip hindex.symm answer hanswer
  have hmem : answer.1 ∈ pending := (List.of_mem_zip hanswer).1
  simp only [Function.comp_apply, ← hslot, decide_eq_decide]
  constructor
  · rintro rfl
    rw [hsocket, h.alone answer.1 hmem socket hsocket]
  · intro hoccupant
    exact (h.home answer.1 hmem slot hoccupant).symm

/-! ## Delivery -/

/-- One poll delivers, and keeps the addresses. -/
lemma Addressed.step_poll (hN : N ≤ 256)
    (haccounts : s.Accounts dev finished pending inFlight unsent)
    (h : s.Addressed pending (inFlight ++ unsent)) (hdata : s.sif.TakesData)
    (hagree : s.HandlesAgree dev .poll) (hstep : s.step .poll = .ok s') :
    Delivers dev s s' ∧ ∃ finished pending inFlight unsent,
      s'.Accounts dev finished pending inFlight unsent ∧
      s'.Addressed pending (inFlight ++ unsent) := by
  obtain ⟨enqueued, new, ⟨complete, henqueue⟩, hclear, hoccupant, hnext, haccepted, hnew, hcases⟩ :=
    haccounts.step_poll hdata hstep
  have haddr := h.enqueue dev hagree hclear hnew
  rw [List.append_assoc] at haddr
  have haddr' : s'.Addressed (pending ++ s.takenRequests enqueued)
      (inFlight ++ (unsent ++ new)) := {
    index_eq := haddr.index_eq
    slot_lt := haddr.slot_lt
    injective := by rw [hoccupant]; exact haddr.injective
    occupant_lt := by rw [hoccupant, hnext]; exact haddr.occupant_lt
    socket_lt := by rw [hnext]; exact haddr.socket_lt
    home := by rw [hoccupant]; exact haddr.home
    alone := by rw [hoccupant]; exact haddr.alone }
  rcases hcases with ⟨inFlight', unsent', hbuffered, haccounts', -, hreturned, hsockets⟩ |
    ⟨number, frame, bytes, hnumber, hreturned, hoffset, hframe, hecho, haccounts', hsockets⟩
  · -- nothing came back
    have hnone : newlyReturned dev s s' = [] := by
      rw [newlyReturned, hreturned, List.drop_length]
    have hanswered : answered dev s s' = [] := by rw [answered, hnone]; rfl
    refine ⟨⟨by simp [hnone], by simp [hnone, hanswered], ?_⟩, _, _, _, _, haccounts', ?_⟩
    · intro enqueued' henqueued' slot
      simp only [henqueue, Except.toOption, Option.mem_def, Option.some.injEq] at henqueued'
      subst henqueued'
      rw [hsockets slot, hanswered]
      simp [SocketInterface.recieveAll]
    · rw [hbuffered]
      exact haddr'
  · -- the frame with all pending requests came back
    have hone : newlyReturned dev s s' = [(number, bytes)] := by
      rw [newlyReturned, hreturned, List.drop_left]
    have hrequests : s'.requestsFrom dev number = pending ++ s.takenRequests enqueued := by
      rw [requestsFrom, hoffset, haccepted, haccounts.accepted_eq, List.append_assoc,
        List.drop_left]
    have hanswered : answered dev s s' =
        (pending ++ s.takenRequests enqueued).zip (datagramsOf bytes) := by
      rw [answered, hone, List.flatMap_singleton, hrequests]
    have hcontent : (datagramsOf frame).map (fun pdu => (datagram pdu).content) =
        (pending ++ s.takenRequests enqueued).map Request.content := by
      have hold := haccounts.outstanding_eq
      have hframe' := congrArg (List.map Datagram.content) hframe
      have hnew' := congrArg (List.map Datagram.content) hnew
      simp only [List.map_map, Function.comp_def, Request.content_datagram] at hframe' hnew'
      simp only [List.map_append] at hold ⊢
      rw [hframe', List.map_append, List.map_append, hnew', ← List.append_assoc, hold]
    have hlen : (datagramsOf frame).length =
        (pending ++ s.takenRequests enqueued).length := by
      simpa using congrArg List.length hcontent
    refine ⟨⟨?_, ?_, ?_⟩, _, _, _, _, haccounts', haddr'.nil⟩
    · intro r hr
      rw [hone, List.mem_singleton] at hr
      subst hr
      refine ⟨frame, hnumber, ?_⟩
      rw [hrequests, hcontent, hlen, List.take_length]
    · rw [hanswered, hone, List.flatMap_singleton]
      exact List.map_snd_zip (by rw [hecho.length_datagramsOf, hlen])
    · intro enqueued' henqueued' slot
      simp only [henqueue, Except.toOption, Option.mem_def, Option.some.injEq] at henqueued'
      subst henqueued'
      rw [hsockets slot]
      cases hsocket : enqueued.getSocket slot with
      | none => rfl
      | some socket =>
          have hlive : (s.occupant slot).isSome := by
            rw [← haccounts.occupied slot,
              ← occupied_of_map hclear enqueued (fun _ socket => socket) (by simp) slot, hsocket]
            rfl
          obtain ⟨id, hid⟩ := Option.isSome_iff_exists.mp hlive
          rw [Option.map_some, Option.map_some, hanswered,
            haddr.filter_eq hN hframe hecho.answers hid]

end

/-- **Delivery over a history.**  Let the index bytes and the slots agree at every call of a
history on at most 256 slots, and let no poll take an empty datagram.  Then at every poll of the
history every response goes to exactly the socket whose request it answers, if that socket is
still there, and no socket changes in any other way. -/
theorem delivers_of_handlesAgree (hN : N ≤ 256) (dev : ReturningDevice D) (ethdev : D)
    (hsent : dev.sent ethdev = []) (hreturned : dev.returned ethdev = []) (buffer : List UInt8)
    (ops : List Operation)
    (halong : Transition.Along step (fun s op => s.SendsData op ∧ s.HandlesAgree dev op)
      (new (PduInterface.new ethdev buffer) : Session D N) ops) :
    Transition.Along step
      (fun s op => op = .poll → ∀ s', s.step op = .ok s' → Delivers dev s s')
      (new (PduInterface.new ethdev buffer) : Session D N) ops := by
  have hinv := Transition.along_invariant
    (fun s : Session D N => ∃ finished pending inFlight unsent,
      s.Accounts dev finished pending inFlight unsent ∧ s.Addressed pending (inFlight ++ unsent))
    (fun s op s' ⟨_, _, _, _, haccounts, haddr⟩ h hstep => by
      by_cases hop : op = .poll
      · subst hop
        exact (haddr.step_poll hN haccounts h.1 h.2 hstep).2
      · exact ⟨_, _, _, _, haccounts.step_socket hop hstep,
          haddr.step_socket haccounts hop h.2 hstep⟩)
    ⟨_, _, _, _, new_accounts dev hsent hreturned buffer,
      ⟨rfl, by simp, by simp [new], by simp [new], by simp, by simp, by simp⟩⟩ halong
  refine Transition.along_mono ?_ hinv
  rintro s op ⟨⟨_, _, _, _, haccounts, haddr⟩, hdata, hagree⟩ rfl s' hstep
  exact (haddr.step_poll hN haccounts hdata hagree hstep).1

/-! ## Where index bytes and slots differ -/

/-- Delivery at one slot, as far as it can be evaluated. -/
def DeliversAt (slot : ℕ) (s : Session Loopback 2) : Operation → Prop
  | .poll => ∀ s' ∈ (s.step .poll).toOption, ∀ enqueued ∈ s.sif.enqueuePdus.toOption,
      s'.sif.getSocket slot = (enqueued.2.getSocket slot).map fun socket =>
        SocketInterface.recieveAll socket
          (((answered Loopback.returning s s').filter
            (fun answer => s.occupant slot = some answer.1.socket)).map Prod.snd)
  | _ => True

instance (slot : ℕ) (s : Session Loopback 2) : (op : Operation) → Decidable (s.DeliversAt slot op)
  | .poll => inferInstanceAs (Decidable (∀ s' ∈ (s.step .poll).toOption, _))
  | .addSocket _ | .removeSocket _ | .setPdu _ _ => .isTrue trivial

lemma deliversAt_of_delivers {s : Session Loopback 2} {op : Operation}
    (h : op = .poll → ∀ s', s.step op = .ok s' → Delivers Loopback.returning s s') (slot : ℕ) :
    s.DeliversAt slot op := by
  cases op with
  | poll =>
      intro s' hs' enqueued henqueued
      cases hstep : s.step .poll with
      | error e => simp [hstep, Except.toOption] at hs'
      | ok t =>
          simp only [hstep, Except.toOption, Option.mem_def, Option.some.injEq] at hs'
          subst hs'
          exact (h rfl t hstep).delivered enqueued henqueued slot
  | _ => trivial

/-- The socket in slot 1 asks while slot 0 is free: its datagram gets the index 0. -/
def asksAboveFreeSlot : List Operation :=
  [.addSocket (.new (List.replicate 2 0)), .addSocket (.new (List.replicate 2 0)),
    .removeSocket 0, .setPdu 1 readAlStatus, .poll]

theorem delivers_index_is_not_slot :
    ¬ ∀ ops, Transition.Along step SendsData (twoSockets (.new [] [])) ops →
      Transition.Along step
        (fun s op => op = .poll → ∀ s', s.step op = .ok s' → Delivers Loopback.returning s s')
        (twoSockets (.new [] [])) ops := by
  intro h
  have hone := Transition.along_mono (fun _ _ hop => deliversAt_of_delivers hop 1)
    (h asksAboveFreeSlot (by decide +kernel))
  exact absurd hone (by decide +kernel)

/-- A response in flight while its socket leaves and another one takes the slot over. -/
example : ¬ Transition.Along step (DeliversAt 0) (twoSockets (.new [] [false]))
    [.addSocket (.new (List.replicate 2 0)), .setPdu 0 readAlStatus, .poll, .removeSocket 0,
      .addSocket (.new (List.replicate 2 0xFF)), .poll] := by
  decide +kernel

/-- Two sockets, one of which leaves and comes back while nothing is in flight. -/
theorem delivers_of_handlesAgree_twoSockets :
    Transition.Along step
      (fun s op => op = .poll → ∀ s', s.step op = .ok s' → Delivers Loopback.returning s s')
      (twoSockets (.new [] [false]))
      [.addSocket (.new (List.replicate 2 0)), .addSocket (.new (List.replicate 2 0)),
        .setPdu 0 readAlStatus, .setPdu 1 readAlStatus, .poll, .poll, .removeSocket 0,
        .addSocket (.new (List.replicate 2 0)), .setPdu 1 readAlStatus, .poll] :=
  delivers_of_handlesAgree (by decide) Loopback.returning (.new [] [false]) rfl rfl
    (List.replicate 64 0) _ (by decide +kernel)

end Session

end EtherCat
