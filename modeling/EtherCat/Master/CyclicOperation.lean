import EtherCat.Interface.Loopback
import EtherCat.Master.CyclicState
import Mathlib.Tactic.IntervalCases

/-!
# The cyclic operation

The polls of the interface are events of the sockets, and so are the turns of the blocking calls.
`EtherCatMaster.process` is a poll, followed by the steps of the tasks if all PDUs have come back
(`CyclicState.process_master`).  Every run of the master is thus a run of the events of its tasks
with their sockets (`EtherCatMaster.run_isCyclic`).

What a device promises is known of the polls only.  A `Contract` carries it over to the runs
(`EtherCatMaster.exists_run_of_calls`): it has an invariant of the sockets and the PDU interface,
and tells what it ensures of the events as long as it can assume something of them.
-/

namespace EtherCat

open Rust Rust.Exec CyclicTask

namespace CyclicState

variable {D : Type}

section
variable {s : CyclicState} {iface : PduInterface D}

/-! ## The traffic -/

/-- What the PDU interface does. -/
def IsTraffic : CyclicEvent → Prop
  | .take _ | .recieve _ _ => True
  | _ => False

/-- What the PDU interface does to the sockets that are there. -/
def Polls (s : CyclicState) : CyclicEvent → Prop
  | .take name => s.Has name
  | .recieve _ _ => True
  | _ => False

/-- What the PDU interface and the task of a blocking call do. -/
def IsBlocking : CyclicEvent → Prop
  | .take _ | .recieve _ _ | .fillGp _ | .useGp _ => True
  | _ => False

lemma Polls.isTraffic {event : CyclicEvent} (h : s.Polls event) : IsTraffic event := by
  cases event <;> trivial

lemma IsTraffic.isBlocking {event : CyclicEvent} (h : IsTraffic event) : IsBlocking event := by
  cases event <;> trivial

/-- The tasks do not see it. -/
lemma eq_of_blocking {s' : CyclicState} {events : List CyclicEvent}
    (hblocking : ∀ event ∈ events, IsBlocking event)
    (hrun : Transition.run step s events = .ok s') :
    s' = { s with socket := s'.socket, underWay := s'.underWay } := by
  induction events generalizing s with
  | nil =>
      cases hrun
      rfl
  | cons event events ih =>
      rw [List.forall_mem_cons] at hblocking
      obtain ⟨s₁, hstep, hrun⟩ := Transition.run_cons_eq_ok_iff.mp hrun
      have hrest := ih hblocking.2 hrun
      cases event with
      | take name =>
          obtain ⟨⟨taken, socket⟩, -, heq⟩ := bind_eq_ok.mp hstep
          cases heq
          exact hrest
      | recieve | fillGp | useGp =>
          cases hstep
          exact hrest
      | _ => exact hblocking.1.elim

/-- The master with the sockets that traffic has left. -/
lemma master_of_traffic (iface iface' : PduInterface D) {s' : CyclicState}
    {events : List CyclicEvent} (htraffic : ∀ event ∈ events, IsTraffic event)
    (hrun : Transition.run step s events = .ok s') :
    { s.master iface with sif := (s'.master iface').sif } = s'.master iface' := by
  rw [eq_of_blocking (fun event hevent => (htraffic event hevent).isBlocking) hrun]
  rfl

/-- The socket that a handle names. -/
lemma eq_handle_of_getSocket {handle : ℕ} {socket : PduSocket}
    (h : (s.master iface).sif.getSocket handle = some socket) :
    ∃ name, s.Has name ∧ handle = SocketName.handle name ∧ socket = s.socket name := by
  have hlt : handle < numSockets := SocketInterface.lt_of_getSocket h
  have hname : ∃ name : SocketName, handle = name.handle := by
    unfold numSockets at hlt
    interval_cases handle
    · exact ⟨.alState, rfl⟩
    · exact ⟨.rxError, rfl⟩
    · exact ⟨.dc, rfl⟩
    · exact ⟨.gp, rfl⟩
    · exact ⟨.mailbox, rfl⟩
    · exact ⟨.alTf, rfl⟩
    · exact ⟨.processData, rfl⟩
  obtain ⟨name, rfl⟩ := hname
  have hhas : s.Has name := by
    rintro rfl
    by_contra hregistered
    have hnone : (s.master iface).sif.getSocket SocketName.processData.handle = none := by
      rw [master, socketSet, Bool.eq_false_of_not_eq_true hregistered]
      rfl
    cases hnone.symm.trans h
  exact ⟨name, hhas, rfl, Option.some.inj (h.symm.trans (getItem_socketSet hhas))⟩

/-- The only slot without a socket is the last one. -/
lemma eq_of_getSocket_eq_none {slot : ℕ} (hslot : slot < numSockets)
    (h : (s.master iface).sif.getSocket slot = none) : slot = SocketName.processData.handle := by
  by_contra hne
  have hget : ∀ name : SocketName, name ≠ .processData →
      (s.master iface).sif.getSocket name.handle = some (s.socket name) := fun name hname =>
    getItem_socketSet fun heq => absurd heq hname
  unfold numSockets at hslot
  interval_cases slot
  · cases h.symm.trans (hget .alState (by rintro ⟨⟩))
  · cases h.symm.trans (hget .rxError (by rintro ⟨⟩))
  · cases h.symm.trans (hget .dc (by rintro ⟨⟩))
  · cases h.symm.trans (hget .gp (by rintro ⟨⟩))
  · cases h.symm.trans (hget .mailbox (by rintro ⟨⟩))
  · cases h.symm.trans (hget .alTf (by rintro ⟨⟩))
  · exact hne rfl

/-- The loop that delivers brings responses. -/
lemma deliverPdus_master {pdus : List (List UInt8)} {sif : SocketInterface D numSockets}
    (h : SocketInterface.deliverPdus pdus (s.master iface).sif = .ok sif) :
    ∃ events s', (∀ event ∈ events, s.Polls event) ∧
      Transition.run step s events = .ok s' ∧ sif = (s'.master iface).sif := by
  induction pdus generalizing s with
  | nil =>
      cases h
      exact ⟨[], s, by simp, rfl, rfl⟩
  | cons pdu pdus ih =>
      obtain ⟨index, -, h⟩ := bind_eq_ok.mp h
      split at h
      · exact ih h
      · next socket hget =>
          obtain ⟨name, hhas, rfl, rfl⟩ := eq_handle_of_getSocket hget
          obtain ⟨recvData, -, h⟩ := bind_eq_ok.mp h
          have hmodified : (s.master iface).sif.modifySocket name.handle
              (fun socket => socket.recieve recvData) =
                ((s.setSocket name ((s.socket name).recieve recvData)).master iface).sif :=
            congrArg (SocketInterface.mk iface) (modifyItem_socketSet hhas _)
          rw [hmodified] at h
          let s₁ : CyclicState := { s.setSocket name ((s.socket name).recieve recvData) with
            underWay := Function.update s.underWay name none }
          change SocketInterface.deliverPdus pdus (s₁.master iface).sif = _ at h
          obtain ⟨events, s', hpolls, hrun, hsif⟩ := ih h
          refine ⟨.recieve name recvData :: events, s', ?_,
            Transition.run_cons_eq_ok_iff.mpr ⟨s₁, rfl, hrun⟩, hsif⟩
          exact List.forall_mem_cons.mpr ⟨trivial, hpolls⟩

lemma transmitAndReceive_master [RawEthernetDevice D] {result : Except PhyError Bool}
    {sif : SocketInterface D numSockets}
    (h : (s.master iface).sif.transmitAndReceive = .ok (result, sif)) :
    ∃ events s', (∀ event ∈ events, s.Polls event) ∧
      Transition.run step s events = .ok s' ∧ sif = (s'.master sif.iface).sif ∧
      (result = .ok true → sif.iface.pdusTotalSize = 0) := by
  obtain ⟨⟨txResult, iface₁⟩, -, h⟩ := bind_eq_ok.mp h
  rcases txResult with e | isTxOk
  · cases h
    exact ⟨[], s, by simp, rfl, rfl, by rintro ⟨⟩⟩
  obtain ⟨⟨rxResult, iface₂⟩, -, h⟩ := bind_eq_ok.mp h
  rcases rxResult with e | isRxOk
  · cases h
    exact ⟨[], s, by simp, rfl, rfl, by rintro ⟨⟩⟩
  dsimp only at h
  split at h
  · cases h
    exact ⟨[], s, by simp, rfl, rfl, by rintro ⟨⟩⟩
  obtain ⟨pdus, -, h⟩ := bind_eq_ok.mp h
  obtain ⟨sif', hdeliver, heq⟩ := bind_eq_ok.mp h
  cases heq
  obtain ⟨events, s', hpolls, hrun, rfl⟩ := deliverPdus_master (s := s) hdeliver
  exact ⟨events, s', hpolls, hrun, rfl, fun _ => rfl⟩

end

/-! ## Contracts -/

/-- What is ensured of the events as long as something can be assumed of them, with an invariant of
the sockets and the PDU interface. -/
structure Contract (D : Type) where
  Assumes : CyclicState → CyclicEvent → Prop
  Ensures : CyclicState → CyclicEvent → Prop
  Inv : CyclicState → PduInterface D → Prop

namespace Contract

/-- A contract about nothing. -/
def trivial (D : Type) : Contract D := ⟨fun _ _ => True, fun _ _ => True, fun _ _ => True⟩

/-- The events lead from the one state to the other, and keep the contract. -/
structure Moves (c : Contract D) (s : CyclicState) (iface : PduInterface D)
    (events : List CyclicEvent) (s' : CyclicState) (iface' : PduInterface D) : Prop where
  run : Transition.run step s events = .ok s'
  kept : c.Inv s iface → Transition.Along step c.Assumes s events →
    Transition.Along step c.Ensures s events ∧ c.Inv s' iface'

/-- Behind the events nothing is under way, and the invariant holds of all states that say so. -/
def Settles (c : Contract D) (s : CyclicState) (iface : PduInterface D)
    (events : List CyclicEvent) (iface' : PduInterface D) : Prop :=
  c.Inv s iface → Transition.Along step c.Assumes s events →
    ∀ s', s'.underWay = (fun _ => none) → c.Inv s' iface'

end Contract

/-- The sockets are the same but for their data, the same PDUs are under way, and a new socket has
no PDU. -/
structure SamePdus (s s' : CyclicState) : Prop where
  underWay_eq : s'.underWay = s.underWay
  has : ∀ name, s.Has name → s'.Has name
  socket_eq : ∀ name, s.Has name → ∃ dataBuf, s'.socket name =
    { s.socket name with dataBuf := dataBuf }
  fresh : ∀ name, s'.Has name → s.Has name ∨ (s'.socket name).command = none

/-- The sockets have not been touched. -/
lemma samePdus_of_eq {s s' : CyclicState} (hsocket : s'.socket = s.socket)
    (hunderWay : s'.underWay = s.underWay) (hregistered : s'.isRegistered = s.isRegistered) :
    SamePdus s s' where
  underWay_eq := hunderWay
  has _ hhas hname := hregistered.trans (hhas hname)
  socket_eq name _ := ⟨(s.socket name).dataBuf, by rw [hsocket]⟩
  fresh _ hhas := .inl fun hname => hregistered.symm.trans (hhas hname)

/-- Other data in a socket. -/
lemma samePdus_setSocket {s s' : CyclicState} {name : SocketName} (dataBuf : List UInt8)
    (hsocket : s'.socket =
      Function.update s.socket name { s.socket name with dataBuf := dataBuf })
    (hunderWay : s'.underWay = s.underWay) (hregistered : s'.isRegistered = s.isRegistered) :
    SamePdus s s' where
  underWay_eq := hunderWay
  has _ hhas hname := hregistered.trans (hhas hname)
  socket_eq name' _ := by
    rw [hsocket]
    by_cases hname : name' = name
    · subst hname
      exact ⟨dataBuf, Function.update_self ..⟩
    · exact ⟨(s.socket name').dataBuf, Function.update_of_ne hname ..⟩
  fresh _ hhas := .inl fun hname => hregistered.symm.trans (hhas hname)

namespace Contract

/-- The steps of a poll keep the contract. -/
structure Kept [RawEthernetDevice D] (c : Contract D) : Prop where
  addPdu : ∀ {s : CyclicState} {iface iface' : PduInterface D} {name : SocketName} {pdu : Pdu}
    {socket : PduSocket}, s.Has name → (s.socket name).takePdu = .ok (some pdu, socket) →
      iface.addPdu (UInt8.ofNat name.handle) pdu.command (s.socket name).pduLength
        (SocketInterface.copyWriter pdu.data) = .ok (.ok (), iface') →
      c.Moves s iface [.take name] { s.setSocket name socket with
        underWay := Function.update s.underWay name (some pdu) } iface'
  exchange : ∀ {s : CyclicState} {iface : PduInterface D} {result : Except PhyError Bool}
    {sif : SocketInterface D numSockets},
      (s.master iface).sif.transmitAndReceive = .ok (result, sif) →
      ∃ events s', (∀ event ∈ events, s.Polls event) ∧ c.Moves s iface events s' sif.iface ∧
        sif = (s'.master sif.iface).sif ∧ (result = .ok true → c.Settles s iface events sif.iface)
  ensures : ∀ s event, ¬ IsTraffic event → c.Ensures s event
  congr : ∀ {s s' : CyclicState} {iface : PduInterface D}, SamePdus s s' → c.Inv s iface →
    c.Inv s' iface

/-- The events of a take. -/
lemma run_take {s : CyclicState} {name : SocketName} {pdu : Pdu} {socket : PduSocket}
    (htake : (s.socket name).takePdu = .ok (some pdu, socket)) :
    Transition.run step s [.take name] = .ok { s.setSocket name socket with
      underWay := Function.update s.underWay name (some pdu) } :=
  Transition.run_cons_eq_ok_iff.mpr ⟨_, bind_eq_ok.mpr ⟨_, htake, rfl⟩, rfl⟩

lemma trivial_kept [RawEthernetDevice D] : (trivial D).Kept where
  addPdu _ htake _ :=
    ⟨run_take htake, fun _ _ => ⟨⟨True.intro, fun _ _ => True.intro⟩, True.intro⟩⟩
  exchange hexchange := by
    obtain ⟨events, s', hpolls, hrun, hsif, -⟩ := transmitAndReceive_master hexchange
    have hall : ∀ s, Transition.Along step (fun _ _ => True) s events := fun s =>
      Transition.along_of_forall (fun _ _ => True.intro) s events
    exact ⟨events, s', hpolls, ⟨hrun, fun _ _ => ⟨hall _, True.intro⟩⟩, hsif,
      fun _ _ _ _ _ => True.intro⟩
  ensures _ _ _ := True.intro
  congr _ _ := True.intro

namespace Moves

variable {c : Contract D} {s s' s'' : CyclicState} {iface iface' iface'' : PduInterface D}
  {events events' : List CyclicEvent} {event : CyclicEvent}

lemma refl (s : CyclicState) (iface : PduInterface D) : c.Moves s iface [] s iface :=
  ⟨rfl, fun hinv _ => ⟨True.intro, hinv⟩⟩

lemma trans (h : c.Moves s iface events s' iface') (h' : c.Moves s' iface' events' s'' iface'') :
    c.Moves s iface (events ++ events') s'' iface'' where
  run := Transition.run_append_eq_ok_iff.mpr ⟨s', h.run, h'.run⟩
  kept hinv hassumes := by
    obtain ⟨hfirst, hrest⟩ := Transition.along_append_iff.mp hassumes
    obtain ⟨hensures, hinv'⟩ := h.kept hinv hfirst
    obtain ⟨hensures', hinv''⟩ := h'.kept hinv' (hrest s' h.run)
    refine ⟨Transition.along_append_iff.mpr ⟨hensures, fun t hrun => ?_⟩, hinv''⟩
    cases h.run.symm.trans hrun
    exact hensures'

variable [RawEthernetDevice D]

/-- An event that is not about the PDUs. -/
lemma of_same (hkept : c.Kept) (hevent : ¬ IsTraffic event) (hstep : s.step event = .ok s')
    (hsame : SamePdus s s') : c.Moves s iface [event] s' iface where
  run := Transition.run_cons_eq_ok_iff.mpr ⟨s', hstep, rfl⟩
  kept hinv _ := ⟨⟨hkept.ensures s event hevent, fun _ _ => True.intro⟩, hkept.congr hsame hinv⟩

/-- An event behind a poll that has brought everything back. -/
lemma settle (hkept : c.Kept) (h : c.Moves s iface events s' iface')
    (hsettles : c.Settles s iface events iface') (hevent : ¬ IsTraffic event)
    (hstep : s'.step event = .ok s'') (hnone : s''.underWay = fun _ => none) :
    c.Moves s iface (events ++ [event]) s'' iface' where
  run := Transition.run_append_eq_ok_iff.mpr
    ⟨s', h.run, Transition.run_cons_eq_ok_iff.mpr ⟨s'', hstep, rfl⟩⟩
  kept hinv hassumes := by
    obtain ⟨hfirst, -⟩ := Transition.along_append_iff.mp hassumes
    refine ⟨Transition.along_append_iff.mpr ⟨(h.kept hinv hfirst).1, fun t _ => ?_⟩,
      hsettles hinv hfirst s'' hnone⟩
    exact ⟨hkept.ensures t event hevent, fun _ _ => True.intro⟩

end Moves

end Contract

section
variable {s : CyclicState} {iface : PduInterface D} {sysTime : ℕ} [RawEthernetDevice D]
  {c : Contract D}

/-! ## The poll -/

/-- The loop that enqueues takes PDUs.  The slots below are all in use, so the index byte of a PDU
is the number of its slot. -/
lemma enqueueSlots_moves (hkept : c.Kept) {i n : ℕ} (hslots : i + n = numSockets)
    {isComplete : Bool} {sif : SocketInterface D numSockets}
    (h : SocketInterface.enqueueSlots (List.range' i n) i (s.master iface).sif =
      .ok (isComplete, sif)) :
    ∃ events s', (∀ event ∈ events, s.Polls event) ∧ c.Moves s iface events s' sif.iface ∧
      sif = (s'.master sif.iface).sif := by
  induction n generalizing i s iface with
  | zero =>
      cases h
      exact ⟨[], s, by simp, .refl s iface, rfl⟩
  | succ n ih =>
      rw [List.range'_succ, SocketInterface.enqueueSlots] at h
      split at h
      · next hnone =>
          have hlast : i = 6 := eq_of_getSocket_eq_none (by omega) hnone
          obtain rfl : n = 0 := by
            unfold numSockets at hslots
            omega
          cases h
          exact ⟨[], s, by simp, .refl s iface, rfl⟩
      · next socket hget =>
          obtain ⟨name, hhas, rfl, rfl⟩ := eq_handle_of_getSocket hget
          obtain ⟨remaining, -, h⟩ := bind_eq_ok.mp h
          split at h
          · cases h
            exact ⟨[], s, by simp, .refl s iface, rfl⟩
          obtain ⟨⟨taken, socket⟩, htake, h⟩ := bind_eq_ok.mp h
          rcases taken with _ | pdu
          · exact ih (by omega) h
          obtain ⟨⟨result, iface'⟩, hadd, h⟩ := bind_eq_ok.mp h
          rcases result with e | ⟨⟨⟩⟩
          · cases h
          have hmodified : SocketInterface.modifySocket
              ({ (s.master iface).sif with iface := iface' } : SocketInterface D numSockets)
              name.handle (fun _ => socket) = ((s.setSocket name socket).master iface').sif :=
            congrArg (SocketInterface.mk iface') (modifyItem_socketSet hhas _)
          dsimp only at h
          rw [hmodified] at h
          have hmoves := hkept.addPdu hhas htake hadd
          obtain ⟨events, s', hpolls, hmoves', hsif⟩ := ih (s := { s.setSocket name socket with
            underWay := Function.update s.underWay name (some pdu) }) (by omega) h
          exact ⟨.take name :: events, s', List.forall_mem_cons.mpr ⟨hhas, hpolls⟩,
            hmoves.trans hmoves', hsif⟩

/-- **A poll** is traffic. -/
lemma pollTxRx_moves (hkept : c.Kept) {result : Except PhyError Bool}
    {sif : SocketInterface D numSockets}
    (h : (s.master iface).sif.pollTxRx = .ok (result, sif)) :
    ∃ events s', (∀ event ∈ events, s.Polls event) ∧ c.Moves s iface events s' sif.iface ∧
      sif = (s'.master sif.iface).sif ∧
      (result = .ok true → c.Settles s iface events sif.iface) := by
  obtain ⟨⟨isComplete, sif₁⟩, henqueue, h⟩ := bind_eq_ok.mp h
  rw [SocketInterface.enqueuePdus, List.range_eq_range'] at henqueue
  obtain ⟨events₁, s₁, hpolls₁, hmoves₁, hsif₁⟩ :=
    enqueueSlots_moves hkept (Nat.zero_add numSockets) henqueue
  obtain ⟨⟨result', sif₂⟩, hexchange, h⟩ := bind_eq_ok.mp h
  rw [hsif₁] at hexchange
  obtain ⟨events₂, s₂, hpolls₂, hmoves₂, hsif₂, hsettles⟩ := hkept.exchange hexchange
  have hsif : sif = sif₂ ∧ (result = .ok true → result' = .ok true) := by
    rcases result' with e | _ | _
    · cases h
      exact ⟨rfl, by rintro ⟨⟩⟩
    · cases h
      exact ⟨rfl, by rw [Bool.and_false]; rintro ⟨⟩⟩
    · cases h
      exact ⟨rfl, fun _ => rfl⟩
  obtain ⟨rfl, htrue⟩ := hsif
  rw [eq_of_blocking (fun event hevent => (hpolls₁ event hevent).isTraffic.isBlocking)
    hmoves₁.run] at hpolls₂
  refine ⟨events₁ ++ events₂, s₂, List.forall_mem_append.mpr ⟨hpolls₁, hpolls₂⟩,
    hmoves₁.trans hmoves₂, hsif₂, fun hresult hinv hassumes s' hnone => ?_⟩
  obtain ⟨hfirst, hrest⟩ := Transition.along_append_iff.mp hassumes
  exact hsettles (htrue hresult) (hmoves₁.kept hinv hfirst).2 (hrest s₁ hmoves₁.run) s' hnone

/-- `process` behind its poll. -/
lemma process_of_polled (sysTime : ℕ) {result : Except PhyError Bool}
    {sif : SocketInterface D numSockets} {events : List CyclicEvent} {s' : CyclicState}
    {iface' : PduInterface D} (hpoll : (s.master iface).sif.pollTxRx = .ok (result, sif))
    (htraffic : ∀ event ∈ events, IsTraffic event)
    (hrun : Transition.run step s events = .ok s') (hsif : sif = (s'.master iface').sif) :
    (s.master iface).process sysTime =
      match result with
      | .error e => .ok (.error e, s'.master iface')
      | .ok false => .ok (.ok s'.cycleCount, s'.master iface')
      | .ok true => s'.cycle sysTime >>= fun s => .ok (.ok s.cycleCount, s.master iface') := by
  subst hsif
  have hmaster := master_of_traffic iface iface' htraffic hrun
  have hcount : s'.cycleCount = s.cycleCount := by
    rw [eq_of_blocking (fun event hevent => (htraffic event hevent).isBlocking) hrun]
  dsimp only at hmaster
  rcases result with e | _ | _
  · dsimp only
    rw [EtherCatMaster.process, hpoll, ok_bind]
    dsimp only
    rw [hmaster]
  · dsimp only
    rw [EtherCatMaster.process, hpoll, ok_bind]
    dsimp only
    rw [hmaster, hcount]
    rfl
  · dsimp only
    rw [EtherCatMaster.process, hpoll, ok_bind]
    dsimp only
    rw [hmaster]
    change (s'.master iface').cycle sysTime >>= _ = _
    rw [cycle_master]
    rcases s'.cycle sysTime with e | s'' <;> rfl

lemma underWay_of_cycle {s' : CyclicState} (h : s.cycle sysTime = .ok s') :
    s'.underWay = fun _ => none := by
  obtain ⟨s₁, -, h⟩ := bind_eq_ok.mp h
  obtain ⟨s₂, -, h⟩ := bind_eq_ok.mp h
  obtain ⟨s₃, -, h⟩ := bind_eq_ok.mp h
  obtain ⟨s₄, -, h⟩ := bind_eq_ok.mp h
  obtain ⟨s₅, -, h⟩ := bind_eq_ok.mp h
  cases h
  rfl

/-- **A call of `process`** is traffic, with the steps of the tasks behind it if all PDUs have come
back. -/
lemma process_master (hkept : c.Kept) {result : Except PhyError ℕ} {master : EtherCatMaster D}
    (h : (s.master iface).process sysTime = .ok (result, master)) :
    ∃ traffic events s', (∀ event ∈ traffic, s.Polls event) ∧
      (events = traffic ∨ events = traffic ++ [.cycle sysTime]) ∧
      c.Moves s iface events s' master.sif.iface ∧ master = s'.master master.sif.iface := by
  rcases hpoll : (s.master iface).sif.pollTxRx with e | ⟨polled, sif⟩
  · rw [EtherCatMaster.process, hpoll] at h
    cases h
  obtain ⟨events, s', hpolls, hmoves, hsif, hsettles⟩ := pollTxRx_moves hkept hpoll
  have htraffic : ∀ event ∈ events, IsTraffic event :=
    fun event hevent => (hpolls event hevent).isTraffic
  rw [process_of_polled sysTime hpoll htraffic hmoves.run hsif] at h
  rcases polled with e | _ | _
  · cases h
    exact ⟨events, events, s', hpolls, .inl rfl, hmoves, rfl⟩
  · cases h
    exact ⟨events, events, s', hpolls, .inl rfl, hmoves, rfl⟩
  · obtain ⟨s'', hcycle, h⟩ := bind_eq_ok.mp h
    cases h
    exact ⟨events, _, s'', hpolls, .inr rfl,
      hmoves.settle hkept (hsettles rfl) not_false hcycle (underWay_of_cycle hcycle), rfl⟩

/-- `process` panics only where the poll panics or a step of a task does. -/
lemma process_panics {e : Panic} (h : (s.master iface).process sysTime = .error e) :
    (s.master iface).sif.pollTxRx = .error e ∨
      ∃ traffic s', (∀ event ∈ traffic, IsTraffic event) ∧
        Transition.run step s traffic = .ok s' ∧ s'.step (.cycle sysTime) = .error e := by
  rcases hpoll : (s.master iface).sif.pollTxRx with e' | ⟨polled, sif⟩
  · rw [EtherCatMaster.process, hpoll] at h
    cases h
    exact .inl rfl
  obtain ⟨events, s', hpolls, hmoves, hsif, -⟩ := pollTxRx_moves Contract.trivial_kept hpoll
  have htraffic : ∀ event ∈ events, IsTraffic event :=
    fun event hevent => (hpolls event hevent).isTraffic
  rw [process_of_polled sysTime hpoll htraffic hmoves.run hsif] at h
  rcases polled with e' | _ | _
  · cases h
  · cases h
  · rcases hcycle : s'.cycle sysTime with e' | s''
    · rw [hcycle] at h
      cases h
      exact .inr ⟨events, s', htraffic, hmoves.run, hcycle⟩
    · rw [hcycle] at h
      cases h

/-! ## The blocking calls -/

/-- The one interface becomes the other in a blocking call. -/
def Used (c : Contract D) (sif sif' : SocketInterface D numSockets) : Prop :=
  ∀ s iface, sif = (master s iface).sif → ∃ events s',
    (∀ event ∈ events, IsBlocking event) ∧ c.Moves s iface events s' sif'.iface ∧
      sif' = (master s' sif'.iface).sif

omit [RawEthernetDevice D] in
lemma Used.refl (sif : SocketInterface D numSockets) : Used c sif sif := by
  rintro s iface rfl
  exact ⟨[], s, by simp, .refl s iface, rfl⟩

omit [RawEthernetDevice D] in
lemma Used.trans {sif sif' sif'' : SocketInterface D numSockets} (h : Used c sif sif')
    (h' : Used c sif' sif'') : Used c sif sif'' := by
  intro s iface hsif
  obtain ⟨events, s', hblocking, hmoves, hsif'⟩ := h s iface hsif
  obtain ⟨events', s'', hblocking', hmoves', hsif''⟩ := h' s' sif'.iface hsif'
  exact ⟨events ++ events', s'', List.forall_mem_append.mpr ⟨hblocking, hblocking'⟩,
    hmoves.trans hmoves', hsif''⟩

lemma used_pollTxRx (hkept : c.Kept) {sif sif' : SocketInterface D numSockets}
    {result : Except PhyError Bool} (h : sif.pollTxRx = .ok (result, sif')) : Used c sif sif' := by
  rintro s iface rfl
  obtain ⟨events, s', hpolls, hmoves, hsif, -⟩ := pollTxRx_moves hkept h
  exact ⟨events, s', fun event hevent => (hpolls event hevent).isTraffic.isBlocking, hmoves, hsif⟩

omit [RawEthernetDevice D] in
/-- The socket of the blocking calls with other contents. -/
lemma modifySocket_gp (s : CyclicState) (iface : PduInterface D) (f : PduSocket → PduSocket) :
    (s.master iface).sif.modifySocket SocketName.gp.handle f =
      ((s.setSocket .gp (f (s.socket .gp))).master iface).sif :=
  congrArg (SocketInterface.mk iface) (modifyItem_socketSet (by rintro ⟨⟩) f)

/-- The step of a task of a blocking call, behind a poll that has brought everything back. -/
lemma used_useGp (hkept : c.Kept) {sif sif' : SocketInterface D numSockets}
    (h : sif.pollTxRx = .ok (.ok true, sif')) (socket : PduSocket) :
    Used c sif (sif'.modifySocket SocketName.gp.handle fun _ => socket) := by
  rintro s iface rfl
  obtain ⟨events, s', hpolls, hmoves, hsif, hsettles⟩ := pollTxRx_moves hkept h
  have hmodified : sif'.modifySocket SocketName.gp.handle (fun _ => socket) =
      ((s'.setSocket .gp socket).master sif'.iface).sif := by
    rw [hsif]
    exact modifySocket_gp s' sif'.iface fun _ => socket
  rw [hmodified]
  let s'' : CyclicState := { s'.setSocket .gp socket with underWay := fun _ => none }
  have hmoves' : c.Moves s iface (events ++ [.useGp socket]) s'' sif'.iface :=
    hmoves.settle hkept (hsettles rfl) not_false rfl rfl
  refine ⟨events ++ [.useGp socket], s'', List.forall_mem_append.mpr ⟨?_, ?_⟩, hmoves', rfl⟩
  · exact fun event hevent => (hpolls event hevent).isTraffic.isBlocking
  · exact List.forall_mem_singleton.mpr True.intro

lemma used_fillGp (hkept : c.Kept) (sif : SocketInterface D numSockets) (dataBuf : List UInt8) :
    Used c sif (sif.modifySocket SocketName.gp.handle
      fun socket => { socket with dataBuf := dataBuf }) := by
  rintro s iface rfl
  rw [modifySocket_gp]
  exact ⟨[.fillGp dataBuf], _, List.forall_mem_singleton.mpr True.intro,
    .of_same hkept not_false rfl (samePdus_setSocket dataBuf rfl rfl rfl), rfl⟩

section
variable {T : Type} [CyclicTask T] {E : Type}

/-- A turn of `block_on` on the socket of the blocking calls. -/
lemma used_turn (hkept : c.Kept) {b b' : BlockOn T D numSockets}
    {result : Option (Except (TaskError E) Unit)} (hhandle : b.handle = SocketName.gp.handle)
    (h : b.turn E = .ok (result, b')) : Used c b.sif b'.sif ∧ b'.handle = b.handle := by
  obtain ⟨⟨polled, sif⟩, hpoll, h⟩ := bind_eq_ok.mp h
  have hpolled := used_pollTxRx hkept hpoll
  rcases polled with e | isOk
  · cases e <;>
      · cases h
        exact ⟨hpolled, rfl⟩
  cases isOk with
  | false =>
      cases h
      exact ⟨hpolled, rfl⟩
  | true =>
      obtain ⟨socket, -, h⟩ := bind_eq_ok.mp h
      obtain ⟨⟨unit, socket'⟩, -, h⟩ := bind_eq_ok.mp h
      have hused := used_useGp hkept hpoll socket'
      rw [← hhandle] at hused
      dsimp only at h
      split at h
      · cases h
        exact ⟨hused, rfl⟩
      split at h <;>
        · cases h
          exact ⟨hused, rfl⟩

lemma used_turns (hkept : c.Kept) {turns : ℕ} {b b' : BlockOn T D numSockets}
    {result : Option (Except (TaskError E) Unit)} (hhandle : b.handle = SocketName.gp.handle)
    (h : Loop.turns (BlockOn.turn E) turns b = .ok (result, b')) :
    Used c b.sif b'.sif ∧ b'.handle = b.handle := by
  induction turns generalizing b with
  | zero =>
      cases h
      exact ⟨.refl _, rfl⟩
  | succ turns ih =>
      rw [Loop.turns] at h
      rcases hturn : b.turn E with e | ⟨_ | r, b₁⟩
      · rw [hturn] at h
        cases h
      · obtain ⟨hused, hsame⟩ := used_turn hkept hhandle hturn
        rw [hturn] at h
        obtain ⟨hrest, hsame'⟩ := ih (hsame.trans hhandle) h
        exact ⟨hused.trans hrest, hsame'.trans hsame⟩
      · rw [hturn] at h
        cases h
        exact used_turn hkept hhandle hturn

end

lemma used_block (hkept : c.Kept) {turns : ℕ} {sif sif' : SocketInterface D numSockets}
    {call : BlockingCall} {answer : Option call.Answer}
    (h : sif.block turns SocketName.gp.handle call = .ok (answer, sif')) : Used c sif sif' := by
  obtain ⟨socket, -, h⟩ := bind_eq_ok.mp h
  obtain ⟨⟨started, dataBuf⟩, -, h⟩ := bind_eq_ok.mp h
  have hfilled := used_fillGp hkept sif dataBuf
  rcases started with e | unit
  · cases h
    exact hfilled
  obtain ⟨⟨result, b⟩, hturns, h⟩ := bind_eq_ok.mp h
  have hused := hfilled.trans (used_turns hkept rfl hturns).1
  rcases result with _ | e | ⟨⟨⟩⟩
  · cases h
    exact hused
  · cases h
    exact hused
  · obtain ⟨socket', -, h⟩ := bind_eq_ok.mp h
    obtain ⟨result, -, h⟩ := bind_eq_ok.mp h
    cases h
    exact hused

lemma used_program (hkept : c.Kept) {α : Type} {turns : ℕ}
    {sif sif' : SocketInterface D numSockets} {p : CallProgram α} {a : Option α}
    (h : p.exec (SocketInterface.block turns SocketName.gp.handle) sif = .ok (a, sif')) :
    Used c sif sif' :=
  Program.exec_related (SocketInterface.block turns SocketName.gp.handle) (Used c) Used.refl
    (fun _ _ _ => Used.trans) (fun _ _ _ _ => used_block hkept) h

lemma used_access (hkept : c.Kept) {turns : ℕ} {sif sif' : SocketInterface D numSockets}
    {access : Access} {answer : Option access.Answer}
    (h : sif.access turns SocketName.gp.handle access = .ok (answer, sif')) : Used c sif sif' := by
  cases access with
  | readSdo | writeSdo =>
      obtain ⟨⟨result, sif₁⟩, hexec, heq⟩ := bind_eq_ok.mp h
      cases heq
      exact used_program hkept hexec
  | readRegister | writeRegister =>
      obtain ⟨⟨result, sif₁⟩, hblock, heq⟩ := bind_eq_ok.mp h
      cases heq
      exact used_block hkept hblock

lemma used_configure (hkept : c.Kept) {S : Type} {α : Type} {turns : ℕ}
    {sif sif' : SocketInterface D numSockets} {m : Configure S α} {image : S}
    {a : Option (Except ConfigError α × S)}
    (h : (m image).exec (SocketInterface.access turns SocketName.gp.handle) sif = .ok (a, sif')) :
    Used c sif sif' :=
  Program.exec_related (SocketInterface.access turns SocketName.gp.handle) (Used c) Used.refl
    (fun _ _ _ => Used.trans) (fun _ _ _ _ => used_access hkept) h

end

end CyclicState

/-! ## Runs of the master -/

/-- The calls, from `init` on. -/
inductive MasterCall
  | init (turns : ℕ)
  | initDc (turns : ℕ)
  | configureSlavesForOperation (turns polls : ℕ)
  /-- `read_register`, `write_register`, `read_al_state`, `change_al_state` and `read_sii`. -/
  | block (turns : ℕ) (c : BlockingCall)
  | readSdo (turns : ℕ) (slaveAddress : SlaveAddress) (index : UInt16) (subIndex : UInt8)
  | writeSdo (turns : ℕ) (slaveAddress : SlaveAddress) (index : UInt16) (subIndex : UInt8)
      (data : List UInt8)
  | registerProcessDataBuffer (buf : List UInt8)
  | process (sysTime : ℕ)
  | writePdo (slaveAddress : SlaveAddress) (pdoMapIndex pdoEntryIndex : ℕ) (data : List UInt8)
  | requestMailbox (slave : Slave) (message : Mailbox)
  | requestAlState (alState : AlState)

namespace MasterCall

/-- The events behind the loop of a blocking call. -/
def Ends : MasterCall → List CyclicEvent → Prop
  | .init _, events => ∃ image,
      events = [.setImage image] ∨ events = [.setImage image, .setAlStateTarget]
  | .initDc _, events => ∃ image,
      events = [.setImage image] ∨ events = [.setImage image, .setDcTask]
  | .block _ _, events => events = []
  | _, events => ∃ image, events = [.setImage image]

/-- The events that a call can be. -/
def Does : MasterCall → List CyclicEvent → Prop
  | .registerProcessDataBuffer buf, events => events = [.registerProcessDataBuffer buf]
  | .process sysTime, events => ∃ traffic, (∀ event ∈ traffic, CyclicState.IsTraffic event) ∧
      (events = traffic ∨ events = traffic ++ [.cycle sysTime])
  | .writePdo slaveAddress pdoMapIndex pdoEntryIndex data, events =>
      events = [.writePdo slaveAddress pdoMapIndex pdoEntryIndex data]
  | .requestMailbox slave message, events => events = [.requestMailbox slave message]
  | .requestAlState alState, events => events = [.requestAlState alState]
  | c, events => ∃ traffic ends, (∀ event ∈ traffic, CyclicState.IsBlocking event) ∧
      c.Ends ends ∧ events = traffic ++ ends

/-- What the user does between two calls of `process`. -/
def userEvent : MasterCall → Option CyclicEvent
  | .registerProcessDataBuffer buf => some (.registerProcessDataBuffer buf)
  | .writePdo slaveAddress pdoMapIndex pdoEntryIndex data =>
    some (.writePdo slaveAddress pdoMapIndex pdoEntryIndex data)
  | .requestMailbox slave message => some (.requestMailbox slave message)
  | .requestAlState alState => some (.requestAlState alState)
  | _ => none

end MasterCall

namespace EtherCatMaster

variable {D : Type} [RawEthernetDevice D]

/-- The master behind a call. -/
def behind {α : Type} : Exec (α × EtherCatMaster D) → Except (Option Panic) (EtherCatMaster D)
  | .error e => .error (some e)
  | .ok (_, master) => .ok master

/-- The master behind a blocking call, which may not have returned. -/
def behindBlocking {α : Type} :
    Exec (Option α × EtherCatMaster D) → Except (Option Panic) (EtherCatMaster D)
  | .error e => .error (some e)
  | .ok (none, _) => .error none
  | .ok (some _, master) => .ok master

/-- A call of the application. -/
def call (master : EtherCatMaster D) : MasterCall → Except (Option Panic) (EtherCatMaster D)
  | .init turns => behindBlocking (master.init turns)
  | .initDc turns => behindBlocking (master.initDc turns)
  | .configureSlavesForOperation turns polls =>
    behindBlocking (master.configureSlavesForOperation turns polls)
  | .block turns c => behindBlocking (master.block turns c)
  | .readSdo turns slaveAddress index subIndex =>
    behindBlocking (master.transferSdo turns slaveAddress fun slave =>
      SocketInterface.readSdo 64 slave index subIndex)
  | .writeSdo turns slaveAddress index subIndex data =>
    behindBlocking (master.transferSdo turns slaveAddress fun slave =>
      SocketInterface.writeSdo 64 slave index subIndex data)
  | .registerProcessDataBuffer buf => behind (master.registerProcessDataBuffer buf)
  | .process sysTime => behind (master.process sysTime)
  | .writePdo slaveAddress pdoMapIndex pdoEntryIndex data =>
    behind (master.writePdo slaveAddress pdoMapIndex pdoEntryIndex data)
  | .requestMailbox slave message => behind (master.requestMailbox slave message)
  | .requestAlState alState => .ok (master.requestAlState alState).2

omit [RawEthernetDevice D] in
lemma of_behind {α : Type} {x : Exec (α × EtherCatMaster D)} {master : EtherCatMaster D}
    (h : behind x = .ok master) : ∃ a, x = .ok (a, master) := by
  rcases x with e | ⟨a, master'⟩
  · cases h
  · cases h
    exact ⟨a, rfl⟩

omit [RawEthernetDevice D] in
lemma of_behindBlocking {α : Type} {x : Exec (Option α × EtherCatMaster D)}
    {master : EtherCatMaster D} (h : behindBlocking x = .ok master) :
    ∃ a, x = .ok (some a, master) := by
  rcases x with e | ⟨_ | a, master'⟩
  · cases h
  · cases h
  · cases h
    exact ⟨a, rfl⟩

/-! ### Calls keep contracts -/

section
variable {c : CyclicState.Contract D} {s : CyclicState} {iface : PduInterface D}
  {master : EtherCatMaster D}

/-- A call that changes the slaves in its loop. -/
lemma exists_of_used (hkept : c.Kept) {sif : SocketInterface D numSockets}
    (hused : CyclicState.Used c (s.master iface).sif sif) (image : PdoImage) :
    ∃ traffic s', (∀ event ∈ traffic, CyclicState.IsBlocking event) ∧
      c.Moves s iface (traffic ++ [.setImage image]) s' sif.iface ∧
      { s.master iface with
        sif := sif
        network := image.network
        processDataTask := image.processDataTask } = s'.master sif.iface := by
  obtain ⟨traffic, s', htraffic, hmoves, hsif⟩ := hused s iface rfl
  refine ⟨traffic, s'.setImage image, htraffic,
    hmoves.trans (.of_same hkept not_false rfl (CyclicState.samePdus_of_eq rfl rfl rfl)), ?_⟩
  rw [hsif, CyclicState.eq_of_blocking htraffic hmoves.run]
  rfl

lemma init_isCyclic (hkept : c.Kept) {turns : ℕ}
    {r : Except (TaskError NetworkInitTaskError) Unit}
    (h : (s.master iface).init turns = .ok (some r, master)) :
    ∃ events s', (MasterCall.init turns).Does events ∧ c.Moves s iface events s' master.sif.iface ∧
      master = s'.master master.sif.iface := by
  obtain ⟨socket, -, h⟩ := bind_eq_ok.mp h
  obtain ⟨⟨⟩, -, h⟩ := bind_eq_ok.mp h
  obtain ⟨⟨result, b⟩, hturns, h⟩ := bind_eq_ok.mp h
  obtain ⟨traffic, s', htraffic, hmoves, hmaster⟩ := exists_of_used hkept
    (CyclicState.used_turns hkept rfl hturns).1 ⟨b.unit.network, s.processDataTask⟩
  rcases result with _ | e | ⟨⟨⟩⟩
  · cases h
  · cases h
    exact ⟨_, s', ⟨traffic, _, htraffic, ⟨_, .inl rfl⟩, rfl⟩, hmoves, hmaster⟩
  · obtain ⟨result, -, h⟩ := bind_eq_ok.mp h
    rcases result with e | ⟨⟨⟩⟩
    · cases h
      exact ⟨_, s', ⟨traffic, _, htraffic, ⟨_, .inl rfl⟩, rfl⟩, hmoves, hmaster⟩
    · cases h
      have htarget := congrArg (fun master : EtherCatMaster D => { master with
        alStateTask := master.alStateTask.setTarget (.all (.ofNat master.network.numSlaves)) })
        hmaster
      have hend : c.Moves s' b.sif.iface [.setAlStateTarget] s'.setAlStateTarget b.sif.iface :=
        .of_same hkept not_false rfl (CyclicState.samePdus_of_eq rfl rfl rfl)
      refine ⟨_, s'.setAlStateTarget, ⟨traffic, _, htraffic,
        ⟨⟨b.unit.network, s.processDataTask⟩, .inr rfl⟩, ?_⟩,
        hmoves.trans hend, htarget⟩
      exact List.append_assoc traffic _ _

lemma initDc_isCyclic (hkept : c.Kept) {turns : ℕ} {r : Except (TaskError Unit) Unit}
    (h : (s.master iface).initDc turns = .ok (some r, master)) :
    ∃ events s', (MasterCall.initDc turns).Does events ∧
      c.Moves s iface events s' master.sif.iface ∧ master = s'.master master.sif.iface := by
  obtain ⟨socket, -, h⟩ := bind_eq_ok.mp h
  obtain ⟨⟨⟩, -, h⟩ := bind_eq_ok.mp h
  obtain ⟨⟨task, network⟩, -, h⟩ := bind_eq_ok.mp h
  obtain ⟨⟨result, b⟩, hturns, h⟩ := bind_eq_ok.mp h
  obtain ⟨traffic, s', htraffic, hmoves, hmaster⟩ := exists_of_used hkept
    (CyclicState.used_turns hkept rfl hturns).1 ⟨b.unit.network, s.processDataTask⟩
  rcases result with _ | e | ⟨⟨⟩⟩
  · cases h
  · cases h
    exact ⟨_, s', ⟨traffic, _, htraffic, ⟨_, .inl rfl⟩, rfl⟩, hmoves, hmaster⟩
  · obtain ⟨result, -, h⟩ := bind_eq_ok.mp h
    rcases result with e | ⟨⟨⟩⟩
    · cases h
      exact ⟨_, s', ⟨traffic, _, htraffic, ⟨_, .inl rfl⟩, rfl⟩, hmoves, hmaster⟩
    · obtain ⟨dcTask, hdcTask, h⟩ := bind_eq_ok.mp h
      cases h
      have hset := congrArg (fun master : EtherCatMaster D => { master with dcTask := dcTask })
        hmaster
      have hdcTask' : newDcTask s'.network s'.dcTask = .ok dcTask := by
        have hnetwork := congrArg EtherCatMaster.network hmaster
        have hold := congrArg EtherCatMaster.dcTask hmaster
        change b.unit.network = s'.network at hnetwork
        change s.dcTask = s'.dcTask at hold
        rw [← hnetwork, ← hold]
        exact hdcTask
      have hend : c.Moves s' b.sif.iface [.setDcTask] { s' with dcTask := dcTask } b.sif.iface :=
        .of_same hkept not_false (bind_eq_ok.mpr ⟨dcTask, hdcTask', rfl⟩)
          (CyclicState.samePdus_of_eq rfl rfl rfl)
      refine ⟨_, { s' with dcTask := dcTask }, ⟨traffic, _, htraffic,
        ⟨⟨b.unit.network, s.processDataTask⟩, .inr rfl⟩, ?_⟩,
        hmoves.trans hend, hset⟩
      exact List.append_assoc traffic _ _

lemma configureSlavesForOperation_isCyclic (hkept : c.Kept) {turns polls : ℕ}
    {r : Except ConfigError Unit}
    (h : (s.master iface).configureSlavesForOperation turns polls = .ok (some r, master)) :
    ∃ events s', (MasterCall.configureSlavesForOperation turns polls).Does events ∧
      c.Moves s iface events s' master.sif.iface ∧ master = s'.master master.sif.iface := by
  obtain ⟨⟨result, sif⟩, hexec, h⟩ := bind_eq_ok.mp h
  have hused := CyclicState.used_configure hkept hexec
  rcases result with _ | ⟨result, image⟩
  · cases h
  obtain ⟨traffic, s', htraffic, hmoves, hmaster⟩ := exists_of_used hkept hused image
  cases h
  exact ⟨_, s', ⟨traffic, _, htraffic, ⟨_, rfl⟩, rfl⟩, hmoves, hmaster⟩

lemma block_isCyclic (hkept : c.Kept) {turns : ℕ} {call : BlockingCall} {r : call.Answer}
    (h : (s.master iface).block turns call = .ok (some r, master)) :
    ∃ events s', (MasterCall.block turns call).Does events ∧
      c.Moves s iface events s' master.sif.iface ∧ master = s'.master master.sif.iface := by
  obtain ⟨⟨result, sif⟩, hblock, heq⟩ := bind_eq_ok.mp h
  obtain ⟨traffic, s', htraffic, hmoves, hsif⟩ := CyclicState.used_block hkept hblock s iface rfl
  cases heq
  refine ⟨traffic, s', ⟨traffic, [], htraffic, rfl, (List.append_nil _).symm⟩, hmoves, ?_⟩
  dsimp only
  rw [hsif, CyclicState.eq_of_blocking htraffic hmoves.run]
  rfl

/-- An SDO transfer counts its request in the slave. -/
lemma transferSdo_isCyclic (hkept : c.Kept) {α : Type} {turns : ℕ} {slaveAddress : SlaveAddress}
    {transfer : Slave → CallProgram (Except (TaskError SdoErrorKind) α × Slave)}
    {r : Except (TaskError SdoErrorKind) α}
    (h : (s.master iface).transferSdo turns slaveAddress transfer = .ok (some r, master)) :
    ∃ traffic image s', (∀ event ∈ traffic, CyclicState.IsBlocking event) ∧
      c.Moves s iface (traffic ++ [.setImage image]) s' master.sif.iface ∧
      master = s'.master master.sif.iface := by
  obtain ⟨found, -, h⟩ := bind_eq_ok.mp h
  obtain ⟨⟨slave, config⟩, -, h⟩ := bind_eq_ok.mp h
  obtain ⟨position, -, h⟩ := bind_eq_ok.mp h
  obtain ⟨⟨result, sif⟩, hexec, h⟩ := bind_eq_ok.mp h
  rcases result with _ | ⟨result, slave'⟩
  · cases h
  obtain ⟨traffic, s', htraffic, hmoves, hmaster⟩ := exists_of_used hkept
    (CyclicState.used_program hkept hexec)
    ⟨s.network.modifySlave position fun _ => slave', s.processDataTask⟩
  cases h
  exact ⟨traffic, _, s', htraffic, hmoves, hmaster⟩

/-! ### The calls of the user -/

omit [RawEthernetDevice D] in
lemma samePdus_registerProcessDataBuffer {buf : List UInt8} {isTaken : Bool} {s' : CyclicState}
    (h : s.registerProcessDataBuffer buf = .ok (isTaken, s')) : CyclicState.SamePdus s s' := by
  rw [CyclicState.registerProcessDataBuffer] at h
  split at h
  · cases h
    exact CyclicState.samePdus_of_eq rfl rfl rfl
  split at h
  · cases h
  next hregistered =>
    cases h
    refine ⟨rfl, fun _ _ _ => rfl, fun name hhas => ?_, fun name _ => ?_⟩
    · -- the socket that is new was not there
      have hname : name ≠ .processData := fun hname => hregistered (hhas hname)
      exact ⟨(s.socket name).dataBuf, Function.update_of_ne hname ..⟩
    · by_cases hname : name = .processData
      · subst hname
        refine .inr ?_
        change (Function.update s.socket .processData (.new buf) .processData).command = none
        rw [Function.update_self]
        rfl
      · exact .inl fun heq => absurd heq hname

omit [RawEthernetDevice D] in
lemma samePdus_writePdo {slaveAddress : SlaveAddress} {pdoMapIndex pdoEntryIndex : ℕ}
    {data : List UInt8} {result : Option Unit} {s' : CyclicState}
    (h : s.writePdo slaveAddress pdoMapIndex pdoEntryIndex data = .ok (result, s')) :
    CyclicState.SamePdus s s' := by
  rw [CyclicState.writePdo] at h
  split at h
  · obtain ⟨entry, -, h⟩ := bind_eq_ok.mp h
    rcases entry with _ | pdoEntry
    · cases h
      exact CyclicState.samePdus_of_eq rfl rfl rfl
    obtain ⟨⟨result', dataBuf⟩, -, heq⟩ := bind_eq_ok.mp h
    cases heq
    exact CyclicState.samePdus_setSocket dataBuf rfl rfl rfl
  · cases h
    exact CyclicState.samePdus_of_eq rfl rfl rfl

omit [RawEthernetDevice D] in
lemma samePdus_requestMailbox {slave : Slave} {message : Mailbox}
    {sessionId : Option MailboxSessionId} {s' : CyclicState}
    (h : s.requestMailbox slave message = .ok (sessionId, s')) : CyclicState.SamePdus s s' := by
  rw [CyclicState.requestMailbox] at h
  split at h
  · cases h
    exact CyclicState.samePdus_of_eq rfl rfl rfl
  · obtain ⟨⟨id, task, slave', dataBuf⟩, -, heq⟩ := bind_eq_ok.mp h
    cases heq
    exact CyclicState.samePdus_setSocket dataBuf rfl rfl rfl

omit [RawEthernetDevice D] in
lemma samePdus_requestAlState (s : CyclicState) (alState : AlState) :
    CyclicState.SamePdus s (s.requestAlState alState).2 := by
  rw [CyclicState.requestAlState]
  split <;> exact CyclicState.samePdus_of_eq rfl rfl rfl

/-- A call of the user is an event that does not touch the PDUs. -/
lemma exists_step_of_userEvent {call : MasterCall} {event : CyclicEvent}
    (hevent : call.userEvent = some event) (h : (s.master iface).call call = .ok master) :
    ∃ s', s.step event = .ok s' ∧ CyclicState.SamePdus s s' ∧ master = s'.master iface := by
  cases call with
  | registerProcessDataBuffer buf =>
      cases hevent
      obtain ⟨isTaken, hregister⟩ := of_behind h
      rw [CyclicState.registerProcessDataBuffer_master] at hregister
      obtain ⟨⟨isTaken', s'⟩, hregister', heq⟩ := bind_eq_ok.mp hregister
      cases heq
      exact ⟨s', bind_eq_ok.mpr ⟨_, hregister', rfl⟩,
        samePdus_registerProcessDataBuffer hregister', rfl⟩
  | writePdo slaveAddress pdoMapIndex pdoEntryIndex data =>
      cases hevent
      obtain ⟨result, hwrite⟩ := of_behind h
      rw [CyclicState.writePdo_master] at hwrite
      obtain ⟨⟨result', s'⟩, hwrite', heq⟩ := bind_eq_ok.mp hwrite
      cases heq
      exact ⟨s', bind_eq_ok.mpr ⟨_, hwrite', rfl⟩, samePdus_writePdo hwrite', rfl⟩
  | requestMailbox slave message =>
      cases hevent
      obtain ⟨sessionId, hrequest⟩ := of_behind h
      rw [CyclicState.requestMailbox_master] at hrequest
      obtain ⟨⟨sessionId', s'⟩, hrequest', heq⟩ := bind_eq_ok.mp hrequest
      cases heq
      exact ⟨s', bind_eq_ok.mpr ⟨_, hrequest', rfl⟩, samePdus_requestMailbox hrequest', rfl⟩
  | requestAlState alState =>
      cases hevent
      rw [EtherCatMaster.call, CyclicState.requestAlState_master] at h
      cases h
      exact ⟨_, rfl, samePdus_requestAlState s alState, rfl⟩
  | _ => cases hevent

/-- **A call** is a list of events. -/
lemma call_isCyclic (hkept : c.Kept) {call : MasterCall}
    (h : (s.master iface).call call = .ok master) :
    ∃ events s', call.Does events ∧ c.Moves s iface events s' master.sif.iface ∧
      master = s'.master master.sif.iface := by
  cases call with
  | init turns =>
      obtain ⟨r, hinit⟩ := of_behindBlocking h
      exact init_isCyclic hkept hinit
  | initDc turns =>
      obtain ⟨r, hinit⟩ := of_behindBlocking h
      exact initDc_isCyclic hkept hinit
  | configureSlavesForOperation turns polls =>
      obtain ⟨r, hconfigure⟩ := of_behindBlocking h
      exact configureSlavesForOperation_isCyclic hkept hconfigure
  | block turns call =>
      obtain ⟨r, hblock⟩ := of_behindBlocking h
      exact block_isCyclic hkept hblock
  | readSdo turns slaveAddress index subIndex =>
      obtain ⟨r, hread⟩ := of_behindBlocking h
      obtain ⟨traffic, image, s', htraffic, hmoves, hmaster⟩ := transferSdo_isCyclic hkept hread
      exact ⟨_, s', ⟨traffic, _, htraffic, ⟨image, rfl⟩, rfl⟩, hmoves, hmaster⟩
  | writeSdo turns slaveAddress index subIndex data =>
      obtain ⟨r, hwrite⟩ := of_behindBlocking h
      obtain ⟨traffic, image, s', htraffic, hmoves, hmaster⟩ := transferSdo_isCyclic hkept hwrite
      exact ⟨_, s', ⟨traffic, _, htraffic, ⟨image, rfl⟩, rfl⟩, hmoves, hmaster⟩
  | process sysTime =>
      obtain ⟨result, hprocess⟩ := of_behind h
      obtain ⟨traffic, events, s', hpolls, hevents, hmoves, hmaster⟩ :=
        CyclicState.process_master hkept hprocess
      exact ⟨events, s', ⟨traffic, fun event hevent => (hpolls event hevent).isTraffic, hevents⟩,
        hmoves, hmaster⟩
  | registerProcessDataBuffer | writePdo | requestMailbox | requestAlState =>
      obtain ⟨s', hstep, hsame, rfl⟩ := exists_step_of_userEvent rfl h
      exact ⟨_, s', rfl, .of_same hkept not_false hstep hsame, rfl⟩

/-- **Calls keep contracts.** -/
lemma exists_moves_of_calls (hkept : c.Kept) {calls : List MasterCall}
    (h : Transition.run EtherCatMaster.call (s.master iface) calls = .ok master) :
    ∃ pieces s', List.Forall₂ MasterCall.Does calls pieces ∧
      c.Moves s iface pieces.flatten s' master.sif.iface ∧ master = s'.master master.sif.iface := by
  induction calls generalizing s iface with
  | nil =>
      cases h
      exact ⟨[], s, .nil, .refl s iface, rfl⟩
  | cons call calls ih =>
      obtain ⟨next, hcall, hrest⟩ := Transition.run_cons_eq_ok_iff.mp h
      obtain ⟨events, s', hdoes, hmoves, hmaster⟩ := call_isCyclic hkept hcall
      rw [hmaster] at hrest
      obtain ⟨pieces, s'', hpieces, hmoves', hmaster'⟩ := ih hrest
      exact ⟨events :: pieces, s'', .cons hdoes hpieces, hmoves.trans hmoves', hmaster'⟩

end

/-- The master after `new` and some calls is a state of its tasks, and contracts have been kept. -/
theorem exists_run_of_calls {c : CyclicState.Contract D} (hkept : c.Kept)
    {slaveBuf : List (Option Slave × SlaveConfig)} {socketBuffer : List UInt8}
    {iface : PduInterface D} {first master : EtherCatMaster D} {calls : List MasterCall}
    (hnew : new slaveBuf socketBuffer iface = .ok first)
    (hrun : Transition.run call first calls = .ok master) :
    ∃ pieces s, List.Forall₂ MasterCall.Does calls pieces ∧
      c.Moves (.start slaveBuf socketBuffer) iface pieces.flatten s master.sif.iface ∧
      master = s.master master.sif.iface := by
  obtain ⟨⟨⟩, hslaves, h⟩ := bind_eq_ok.mp hnew
  obtain ⟨⟨⟩, hlength, -⟩ := bind_eq_ok.mp h
  rw [CyclicState.new_eq (assert_eq_ok_iff.mp hslaves) (assert_eq_ok_iff.mp hlength)] at hnew
  cases hnew
  exact exists_moves_of_calls hkept hrun

/-- **Every run of the master is a run of its tasks with their sockets**: from the start, through
all calls and whatever the device does.  `process` panics only where a poll panics, or where the
step of a task does. -/
theorem run_isCyclic (slaveBuf : List (Option Slave × SlaveConfig)) (socketBuffer : List UInt8)
    (iface : PduInterface D) (first master : EtherCatMaster D) (calls : List MasterCall)
    (hnew : new slaveBuf socketBuffer iface = .ok first)
    (hrun : Transition.run call first calls = .ok master) :
    ∃ pieces s, List.Forall₂ MasterCall.Does calls pieces ∧
      Transition.run CyclicState.step (.start slaveBuf socketBuffer) pieces.flatten = .ok s ∧
      master = s.master master.sif.iface ∧
      ∀ sysTime e, master.process sysTime = .error e → master.sif.pollTxRx = .error e ∨
        ∃ traffic s', (∀ event ∈ traffic, CyclicState.IsTraffic event) ∧
          Transition.run CyclicState.step s traffic = .ok s' ∧
          s'.step (.cycle sysTime) = .error e := by
  obtain ⟨pieces, s, hpieces, hmoves, hmaster⟩ :=
    exists_run_of_calls CyclicState.Contract.trivial_kept hnew hrun
  refine ⟨pieces, s, hpieces, hmoves.run, hmaster, fun sysTime e hprocess => ?_⟩
  rw [hmaster] at hprocess ⊢
  exact CyclicState.process_panics hprocess

/-- A master on a loopback device. -/
def loopbackMaster : EtherCatMaster Loopback :=
  (CyclicState.start [(none, .default)] (List.replicate 1024 0)).master
    (.new (.new [] [false]) (List.replicate 256 0))

/-- Two cycles behind a read of a register, with a request between them. -/
def twoCycles : List MasterCall :=
  [.block 8 (.readRegister .default 0x130 2), .process 0, .requestAlState .preOperational,
    .process 1]

theorem exists_run_twoCycles :
    ∃ master pieces s, Transition.run call loopbackMaster twoCycles = .ok master ∧
      master.cycleCount = 2 ∧
      Transition.run CyclicState.step (.start [(none, .default)] (List.replicate 1024 0))
        (List.flatten pieces) = .ok s ∧
      master = s.master master.sif.iface := by
  have hcount : (Transition.run call loopbackMaster twoCycles).toOption.map cycleCount =
      some 2 := by
    decide +kernel
  have hlength : minimumRequiredBufferSize < (List.replicate 1024 (0 : UInt8)).length := by
    rw [List.length_replicate]
    decide
  rcases hrun : Transition.run call loopbackMaster twoCycles with e | master
  · rw [hrun] at hcount
    cases hcount
  · rw [hrun] at hcount
    obtain ⟨pieces, s, -, hevents, hmaster, -⟩ :=
      run_isCyclic [(none, .default)] (List.replicate 1024 0)
        (.new (.new [] [false]) (List.replicate 256 0)) loopbackMaster master twoCycles
        (CyclicState.new_eq (by simp) hlength) hrun
    exact ⟨master, pieces, s, rfl, Option.some.inj hcount, hevents, hmaster⟩

end EtherCatMaster

end EtherCat
