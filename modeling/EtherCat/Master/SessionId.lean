import EtherCat.Master.ReceivedMailbox
import EtherCat.Master.StationAddresses

/-!
# Session ids

The id of a request is the station address of the slave and the count of the message.  In every run
of the master the slaves carry the station addresses behind their positions, so that the id tells
the slave and the count (`EtherCatMaster.sessionIds_of_new`).  A mailbox that is received would have
to have the id of its request; in the runs none is received (`EtherCatMaster.receivedMailbox_of_run`).
-/

namespace EtherCat

open Rust Rust.Exec CyclicTask

/-- The address in the id of a request. -/
lemma MailboxTask.request_slaveAddress {task task' : MailboxTask} {slave slave' : Slave}
    {message : Mailbox} {buf buf' : List UInt8} {id : MailboxSessionId}
    (h : task.request slave message buf = .ok (id, task', slave', buf')) :
    id.slaveAddress = slave.info.slaveAddress := by
  obtain ⟨⟨result, mbFrame⟩, -, h⟩ := bind_eq_ok.mp h
  rcases result with e | ⟨⟩
  · cases h
  · obtain ⟨rxSm, -, h⟩ := bind_eq_ok.mp h
    obtain ⟨mbFrame', -, heq⟩ := bind_eq_ok.mp h
    cases heq
    rfl

namespace EtherCatMaster

variable {D : Type} [RawEthernetDevice D]

/-- A request in a run that has given the id, for the slave that was found at the position. -/
def Requests (first : EtherCatMaster D) (position : UInt16) (id : MailboxSessionId)
    (requested : EtherCatMaster D) : Prop :=
  ∃ earlier found slave config calls master current message,
    Transition.run call first earlier = .ok found ∧
      found.network.slave (.slavePosition position) = .ok (some (slave, config)) ∧
      Transition.run call first calls = .ok master ∧ current.info = slave.info ∧
      master.requestMailbox current message = .ok (some id, requested)

/-- **What the session ids promise**, in the runs of a master. -/
structure SessionIds (first : EtherCatMaster D) : Prop where
  /-- A mailbox that is read from the slave of a request, with its count, has its id. -/
  received : ∀ position id requested, Requests first position id requested →
    ∀ calls master id' frame, Transition.run call requested calls = .ok master →
      master.receivedMailbox = .ok (some (.ok (id', frame))) →
      Network.position id'.slaveAddress = some position.toNat →
      id'.mailboxCount = id.mailboxCount → id' = id
  /-- The ids of two requests are equal for the same slave and the same count only. -/
  distinct : ∀ position position' id id' requested requested',
    Requests first position id requested → Requests first position' id' requested' →
      (id = id' ↔ position = position' ∧ id.mailboxCount = id'.mailboxCount)

section
variable {slaveBuf : List (Option Slave × SlaveConfig)} {socketBuffer : List UInt8}
  {iface : PduInterface D} {first requested : EtherCatMaster D} {position : UInt16}
  {id : MailboxSessionId}

/-- The id carries the station address behind the position. -/
lemma Requests.slaveAddress (hnew : new slaveBuf socketBuffer iface = .ok first)
    (h : Requests first position id requested) :
    id.slaveAddress = .stationAddress (position + 1) := by
  obtain ⟨earlier, found, slave, config, calls, master, current, message, hearlier, hfound, -, hinfo,
    hrequest⟩ := h
  obtain ⟨i, hposition, haddress⟩ := (stationed_of_run hnew hearlier).slaveAddress hfound
  obtain rfl := Option.some.inj hposition
  have hnext : UInt16.ofNat (position.toNat + 1) = position + 1 := by
    apply UInt16.toNat_inj.mp
    rw [UInt16.toNat_ofNat', UInt16.toNat_add]
    rfl
  rw [requestMailbox] at hrequest
  split at hrequest
  · cases hrequest
  · obtain ⟨socket, -, hrequest⟩ := bind_eq_ok.mp hrequest
    obtain ⟨⟨id', task, slave', dataBuf⟩, htask, heq⟩ := bind_eq_ok.mp hrequest
    cases heq
    rw [MailboxTask.request_slaveAddress htask, hinfo, haddress, hnext]

/-- Behind a request nothing is handed out either. -/
lemma Requests.receivedMailbox (hnew : new slaveBuf socketBuffer iface = .ok first)
    (h : Requests first position id requested) {calls : List MasterCall}
    {master : EtherCatMaster D} (hrun : Transition.run call requested calls = .ok master) :
    master.receivedMailbox = .ok none := by
  obtain ⟨-, -, -, -, earlier, before, current, message, -, -, hearlier, -, hrequest⟩ := h
  have hcall : before.call (.requestMailbox current message) = .ok requested := by
    rw [call, hrequest]
    rfl
  have hall : Transition.run call first
      (earlier ++ .requestMailbox current message :: calls) = .ok master :=
    Transition.run_append_eq_ok_iff.mpr
      ⟨before, hearlier, Transition.run_cons_eq_ok_iff.mpr ⟨requested, hcall, hrun⟩⟩
  exact (receivedMailbox_of_run hnew hall).2

/-- **The ids agree.**  From every new master, through all calls and whatever the device does. -/
theorem sessionIds_of_new (hnew : new slaveBuf socketBuffer iface = .ok first) :
    SessionIds first where
  received position id requested hrequests calls master id' frame hrun hreceived _ _ := by
    rw [hrequests.receivedMailbox hnew hrun] at hreceived
    cases hreceived
  distinct position position' id id' requested requested' hrequests hrequests' := by
    have haddress := hrequests.slaveAddress hnew
    have haddress' := hrequests'.slaveAddress hnew
    constructor
    · rintro rfl
      have hnext := SlaveAddress.stationAddress.inj (haddress.symm.trans haddress')
      exact ⟨(UInt16.add_left_inj 1).mp hnext, rfl⟩
    · rintro ⟨rfl, hcount⟩
      obtain ⟨slaveAddress, mailboxCount⟩ := id
      obtain ⟨slaveAddress', mailboxCount'⟩ := id'
      rw [MailboxSessionId.mk.injEq]
      exact ⟨haddress.trans haddress'.symm, hcount⟩

end

theorem sessionIds_of_new_loopback : SessionIds loopbackMaster := by
  have hlength : minimumRequiredBufferSize < (List.replicate 1024 (0 : UInt8)).length := by
    rw [List.length_replicate]
    decide
  have hnew : new [(none, .default)] (List.replicate 1024 0)
      (.new (.new [] [false]) (List.replicate 256 0)) = .ok loopbackMaster :=
    CyclicState.new_eq (by simp) hlength
  exact sessionIds_of_new hnew

end EtherCatMaster

end EtherCat
