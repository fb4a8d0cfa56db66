import EtherCat.Foundation.Transition
import EtherCat.Interface.Exchange

/-!
# Sessions: the socket interface over a history of calls

A `Session` is a socket interface together with three observations: which socket lives in which
slot (every `add_socket` brings a new socket, even into an old slot), and the requests accepted
so far, each with the socket it was taken from.  `Session.step` performs one call of the program
and updates the observations; the program never reads them.

`Accounts` is the invariant over whole histories: the requests accepted are the finished ones,
whose responses have come back, followed by the outstanding ones, which are the datagrams of the
PDU buffer.
-/

namespace EtherCat

open Rust BitField EtherCatPdu

/-- The command and the data of a datagram. -/
def Datagram.content (d : Datagram) : Command × List UInt8 :=
  (⟨d.commandType, d.adp, d.ado⟩, d.data)

/-- A datagram that was accepted for transmission. -/
structure Request where
  /-- The socket that asked. -/
  socket : ℕ
  /-- The slot it was in. -/
  slot : ℕ
  command : Command
  data : List UInt8
  deriving DecidableEq, Repr

namespace Request

/-- What goes into a datagram. -/
def content (r : Request) : Command × List UInt8 := (r.command, r.data)

/-- The datagram of a request under an index byte. -/
def datagram (r : Request) (index : UInt8) : Datagram :=
  ⟨index, r.command.cType, r.command.adp, r.command.ado, r.data⟩

@[simp] lemma content_datagram (r : Request) (index : UInt8) :
    (r.datagram index).content = r.content := rfl

end Request

/-- A run of the socket interface: which request is in which slot, and what was observed. -/
structure Session (D : Type) (N : ℕ) where
  sif : SocketInterface D N
  occupant : ℕ → Option ℕ
  nextSocket : ℕ
  accepted : List Request

/-- The calls a user makes. -/
inductive Operation
  | addSocket (socket : PduSocket)
  | removeSocket (slot : ℕ)
  | setPdu (slot : ℕ) (commandData : PduWriter)
  | poll

namespace Session

variable {D : Type} {N : ℕ}

/-- A session in which nothing was requested. -/
def new (iface : PduInterface D) : Session D N := ⟨.new iface, fun _ => none, 0, []⟩

/-- The request observed at a slot: its socket's datagram was pending before and is no longer. -/
def takenAt (s : Session D N) (enqueued : SocketInterface D N) (slot : ℕ) : Option Request :=
  match s.occupant slot, s.sif.getSocket slot, enqueued.getSocket slot with
  | some socket, some before, some after =>
    if before.Pending ∧ ¬ after.Pending then
      before.command.map fun command =>
        ⟨socket, slot, command, before.dataBuf.take before.dataLength⟩
    else
      none
  | _, _, _ => none

/-- The requests that went into the PDU interface, in slot order. -/
def takenRequests (s : Session D N) (enqueued : SocketInterface D N) : List Request :=
  (List.range N).filterMap (s.takenAt enqueued)

variable [RawEthernetDevice D]

/-- One call. -/
def step (s : Session D N) : Operation → Exec (Session D N)
  | .addSocket socket => do
    let (result, sif) ← s.sif.addSocket socket
    match result with
    | .ok slot =>
      .ok { s with
        sif := sif
        occupant := fun i => if i = slot then some s.nextSocket else s.occupant i
        nextSocket := s.nextSocket + 1 }
    | .error _ => .ok { s with sif := sif }
  | .removeSocket slot =>
    .ok { s with
      sif := (s.sif.removeSocket slot).2
      occupant := fun i => if i = slot then none else s.occupant i }
  | .setPdu slot commandData =>
    .ok { s with sif := s.sif.modifySocket slot (·.setPdu commandData) }
  | .poll => do
    let (_, enqueued) ← s.sif.enqueuePdus
    let (_, sif) ← s.sif.pollTxRx
    .ok { s with sif := sif, accepted := s.accepted ++ s.takenRequests enqueued }

/-- Everything a poll can do: it is an enqueuing and an exchange. -/
lemma step_poll_eq_ok {s s' : Session D N} (h : s.step .poll = .ok s') :
    ∃ complete enqueued r, s.sif.enqueuePdus = .ok (complete, enqueued) ∧
      enqueued.transmitAndReceive = .ok (r, s'.sif) ∧ s'.occupant = s.occupant ∧
      s'.nextSocket = s.nextSocket ∧ s'.accepted = s.accepted ++ s.takenRequests enqueued := by
  unfold step at h
  obtain ⟨⟨complete, enqueued⟩, henqueue, h⟩ := Exec.bind_eq_ok.mp h
  obtain ⟨⟨result, sif⟩, hpoll, h⟩ := Exec.bind_eq_ok.mp h
  simp only [Except.ok.injEq] at h
  subst h
  unfold SocketInterface.pollTxRx at hpoll
  rw [henqueue, Exec.ok_bind] at hpoll
  obtain ⟨⟨r, sif'⟩, hexchange, hpoll⟩ := Exec.bind_eq_ok.mp hpoll
  refine ⟨complete, enqueued, r, henqueue, ?_, rfl, rfl, rfl⟩
  rcases r with e | b
  · cases hpoll
    exact hexchange
  · cases hpoll
    exact hexchange

/-! ## The invariant -/

/-- The datagrams of all frames sent so far. -/
def sentPdus (dev : ReturningDevice D) (d : D) : List (List UInt8) :=
  (dev.sent d).flatMap datagramsOf

/-- The datagrams of all frames returned so far. -/
def returnedPdus (dev : ReturningDevice D) (d : D) : List (List UInt8) :=
  (dev.returned d).flatMap fun r => datagramsOf r.2

/-- **The invariant of a history.** -/
structure Accounts (dev : ReturningDevice D) (s : Session D N) (finished outstanding : List Request)
    (inFlight unsent : List (List UInt8)) : Prop where
  ledger : Ledger dev s.sif.iface inFlight unsent
  occupied : ∀ slot, (s.sif.getSocket slot).isSome = (s.occupant slot).isSome
  accepted_eq : s.accepted = finished ++ outstanding
  /-- The buffer holds the outstanding requests. -/
  outstanding_eq : (inFlight ++ unsent).map (fun pdu => (datagram pdu).content) =
    outstanding.map Request.content
  /-- The frames carried the finished requests and those in flight. -/
  sent_eq : (sentPdus dev s.sif.iface.ethdev).map (fun pdu => (datagram pdu).content) =
    finished.map Request.content ++ inFlight.map (fun pdu => (datagram pdu).content)
  returned_eq : (returnedPdus dev s.sif.iface.ethdev).length = finished.length

/-- The interface as its constructor leaves it, on a device that has done nothing yet. -/
lemma new_accounts (dev : ReturningDevice D) {ethdev : D} (hsent : dev.sent ethdev = [])
    (hreturned : dev.returned ethdev = []) (buffer : List UInt8) :
    (new (PduInterface.new ethdev buffer) : Session D N).Accounts dev [] [] [] [] where
  ledger := {
    buffered := PduInterface.new_buffered ethdev buffer
    wellSized := PduInterface.new_wellSized ethdev buffer
    recvDataSize_eq := rfl
    txCount_eq := rfl
    pduCount_eq := rfl
    frames := by
      refine .inl ⟨rfl, ?_⟩
      show ReturnedBelow dev ethdev (dev.sent ethdev).length
      rw [hsent]
      intro n hn
      simp at hn }
  occupied := by
    intro slot
    show (IndexSet.new.getItem slot).isSome = _
    unfold IndexSet.getItem
    split
    · simp [IndexSet.new, new]
    · simp [new]
  accepted_eq := rfl
  outstanding_eq := rfl
  sent_eq := by
    show (sentPdus dev ethdev).map _ = _
    simp [sentPdus, hsent]
  returned_eq := by
    show (returnedPdus dev ethdev).length = _
    simp [returnedPdus, hreturned]

/-! ## Calls on the sockets -/

section
variable {dev : ReturningDevice D} {s s' : Session D N} {finished outstanding : List Request}
  {inFlight unsent : List (List UInt8)}

/-- What `add_socket` does to the observations. -/
lemma step_addSocket {socket : PduSocket} (h : s.step (.addSocket socket) = .ok s') :
    s'.sif.iface = s.sif.iface ∧ s'.accepted = s.accepted ∧
      ((∃ slot, slot = s.sif.socketSet.freeIndex ∧ slot < N ∧ s.sif.getSocket slot = none ∧
          (∀ i, s'.sif.getSocket i = if i = slot then some socket else s.sif.getSocket i) ∧
          s'.occupant = (fun i => if i = slot then some s.nextSocket else s.occupant i) ∧
          s'.nextSocket = s.nextSocket + 1) ∨
        s' = s) := by
  unfold step SocketInterface.addSocket at h
  obtain ⟨⟨result, sif⟩, hadd, h⟩ := Exec.bind_eq_ok.mp h
  obtain ⟨⟨result', socketSet⟩, hitem, hadd⟩ := Exec.bind_eq_ok.mp hadd
  simp only [Except.ok.injEq, Prod.mk.injEq] at hadd
  obtain ⟨rfl, rfl⟩ := hadd
  rcases result' with rejected | slot
  · simp only [Except.ok.injEq] at h
    subst h
    rcases IndexSet.addItem_eq_ok hitem with ⟨_, _, _, hr, -⟩ | ⟨-, -, rfl⟩
    · cases hr
    · exact ⟨rfl, rfl, .inr rfl⟩
  · simp only [Except.ok.injEq] at h
    subst h
    obtain ⟨hslot, hlt, hfree, hget⟩ := IndexSet.getItem_addItem hitem
    exact ⟨rfl, rfl, .inl ⟨slot, hslot, hlt, hfree, hget, rfl, rfl⟩⟩

/-- The calls other than `poll` leave the PDU interface and the requests alone. -/
lemma Accounts.of_same_iface (h : s.Accounts dev finished outstanding inFlight unsent)
    (hiface : s'.sif.iface = s.sif.iface) (haccepted : s'.accepted = s.accepted)
    (hoccupied : ∀ slot, (s'.sif.getSocket slot).isSome = (s'.occupant slot).isSome) :
    s'.Accounts dev finished outstanding inFlight unsent where
  ledger := by rw [hiface]; exact h.ledger
  occupied := hoccupied
  accepted_eq := by rw [haccepted, h.accepted_eq]
  outstanding_eq := h.outstanding_eq
  sent_eq := by rw [hiface]; exact h.sent_eq
  returned_eq := by rw [hiface]; exact h.returned_eq

/-- The calls on sockets keep the accounts. -/
lemma Accounts.step_socket (h : s.Accounts dev finished outstanding inFlight unsent)
    {op : Operation} (hop : op ≠ .poll) (hstep : s.step op = .ok s') :
    s'.Accounts dev finished outstanding inFlight unsent := by
  cases op with
  | addSocket socket =>
      obtain ⟨hiface, haccepted, ⟨slot, -, -, -, hget, hoccupant, -⟩ | rfl⟩ := step_addSocket hstep
      · refine h.of_same_iface hiface haccepted fun i => ?_
        rw [hget i, hoccupant]
        by_cases hi : i = slot
        · simp [hi]
        · simpa [hi] using h.occupied i
      · exact h
  | removeSocket slot =>
      cases hstep
      refine h.of_same_iface rfl rfl fun i => ?_
      have hget : ((s.sif.removeSocket slot).2).getSocket i =
          if i = slot then none else s.sif.getSocket i := IndexSet.getItem_removeItem ..
      simp only [hget]
      by_cases hi : i = slot
      · simp [hi]
      · simpa [hi] using h.occupied i
  | setPdu slot commandData =>
      cases hstep
      refine h.of_same_iface rfl rfl fun i => ?_
      simp only [SocketInterface.getSocket_modifySocket]
      by_cases hi : i = slot
      · simpa [hi] using h.occupied slot
      · simpa [hi] using h.occupied i
  | poll => exact absurd rfl hop

end

end Session

end EtherCat
