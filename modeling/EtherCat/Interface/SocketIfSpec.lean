import EtherCat.Interface.PduIfSpec
import EtherCat.Interface.SocketIf

/-!
# What the socket interface does to its sockets

The enqueuing loop goes through the slots in order and stops at the first socket whose datagram
has no room.  `Takes sif slot` says in terms of the state before the loop that it takes the
datagram of a slot, and `request sif slot` is the datagram it makes of it: the index byte is the
number of occupied slots below.  `enqueuePdus_eq_ok` says that the loop does this and nothing else.

Delivery applies each response to the slot its index byte names (`deliverPdus_eq_ok`).
-/

namespace EtherCat

open Rust BitField EtherCatPdu

/-! ## Sockets -/

namespace PduSocket

/-- The socket holds a datagram that was not sent yet. -/
def Pending (socket : PduSocket) : Prop := socket.recvFlag = false ∧ socket.command.isSome

instance (socket : PduSocket) : Decidable socket.Pending :=
  inferInstanceAs (Decidable (_ ∧ _))

/-- The socket after its datagram was taken. -/
def taken (socket : PduSocket) : PduSocket := { socket with command := none }

lemma not_pending_taken (socket : PduSocket) : ¬ socket.taken.Pending := by
  simp [Pending, taken]

/-- Everything `take_pdu` can do. -/
lemma takePdu_eq_ok {socket socket' : PduSocket} {r : Option Pdu}
    (h : socket.takePdu = .ok (r, socket')) :
    (¬ socket.Pending ∧ r = none ∧ socket' = socket) ∨
      ∃ command, socket.Pending ∧ socket.command = some command ∧
        socket.dataLength ≤ socket.dataBuf.length ∧
        r = some ⟨command, socket.dataBuf.take socket.dataLength, 0⟩ ∧ socket' = socket.taken := by
  unfold takePdu at h
  split at h
  · rename_i hflag
    cases h
    exact .inl ⟨by simp [Pending, hflag], rfl, rfl⟩
  · rename_i hflag
    split at h
    · rename_i hcommand
      cases h
      exact .inl ⟨by simp [Pending, hcommand], rfl, rfl⟩
    · rename_i command hcommand
      obtain ⟨data, hdata, h⟩ := Exec.bind_eq_ok.mp h
      obtain ⟨hle, rfl⟩ := sliceTo_eq_ok_iff.mp hdata
      cases h
      exact .inr ⟨command, ⟨by simpa using hflag, by simp [hcommand]⟩, hcommand, hle, rfl, rfl⟩

lemma pduLength_of_pending {socket : PduSocket} (h : socket.Pending) :
    socket.pduLength = socket.dataLength := by
  simp [pduLength, h.2]

end PduSocket

/-! ## The enqueuing loop -/

namespace SocketInterface

variable {D : Type} {N : ℕ}

lemma getSocket_modifySocket (sif : SocketInterface D N) (handle : ℕ) (f : PduSocket → PduSocket)
    (slot : ℕ) :
    (sif.modifySocket handle f).getSocket slot =
      if slot = handle then (sif.getSocket slot).map f else sif.getSocket slot :=
  IndexSet.getItem_modifyItem ..

lemma lt_of_getSocket {sif : SocketInterface D N} {slot : ℕ} {socket : PduSocket}
    (h : sif.getSocket slot = some socket) : slot < N :=
  (IndexSet.getItem_eq_some_iff.mp h).1

/-- The number of occupied slots below a slot. -/
def rank (sif : SocketInterface D N) : ℕ → ℕ
  | 0 => 0
  | slot + 1 => sif.rank slot + if (sif.getSocket slot).isSome then 1 else 0

lemma rank_le (sif : SocketInterface D N) (slot : ℕ) : sif.rank slot ≤ slot := by
  induction slot with
  | zero => exact Nat.le_refl _
  | succ slot ih =>
      simp only [rank]
      split <;> omega

/-- The rank of a slot is its number exactly if no slot below it is free. -/
lemma rank_eq_iff (sif : SocketInterface D N) (slot : ℕ) :
    sif.rank slot = slot ↔ ∀ l < slot, (sif.getSocket l).isSome := by
  induction slot with
  | zero => simp [rank]
  | succ slot ih =>
      have hle := sif.rank_le slot
      rw [Nat.forall_lt_succ_right, ← ih]
      simp only [rank]
      split
      · rename_i hlive
        simp [hlive]
      · rename_i hfree
        exact ⟨fun h => by omega, fun h => absurd h.2 hfree⟩

/-- How much of the PDU buffer is in use when the loop comes to a slot. -/
def usedBefore (sif : SocketInterface D N) : ℕ → ℕ
  | 0 => sif.iface.pdusTotalSize
  | slot + 1 => sif.usedBefore slot +
    match sif.getSocket slot with
    | some socket => if socket.Pending then headerSize + socket.dataLength + wkcLength else 0
    | none => 0

/-- The loop does not stop at this slot. -/
def Passes (sif : SocketInterface D N) (slot : ℕ) : Prop :=
  ∀ socket ∈ sif.getSocket slot,
    sif.usedBefore slot + headerSize + wkcLength + socket.pduLength ≤ sif.iface.capacity

instance (sif : SocketInterface D N) (slot : ℕ) : Decidable (sif.Passes slot) :=
  inferInstanceAs (Decidable (∀ socket ∈ sif.getSocket slot, _))

/-- The loop takes the datagram of this slot. -/
def Takes (sif : SocketInterface D N) (slot : ℕ) : Prop :=
  (∃ socket ∈ sif.getSocket slot, socket.Pending) ∧ ∀ l < slot + 1, sif.Passes l

instance (sif : SocketInterface D N) (slot : ℕ) : Decidable (sif.Takes slot) :=
  inferInstanceAs (Decidable ((∃ socket ∈ sif.getSocket slot, _) ∧ _))

/-- The datagram the loop makes of a slot, if it takes one. -/
def request (sif : SocketInterface D N) (slot : ℕ) : Option Datagram :=
  if sif.Takes slot then
    match sif.getSocket slot with
    | none => none
    | some socket => socket.command.map fun command =>
      ⟨UInt8.ofNat (sif.rank slot), command.cType, command.adp, command.ado,
        socket.dataBuf.take socket.dataLength⟩
  else
    none

/-- Every datagram the loop takes has data. -/
def TakesData (sif : SocketInterface D N) : Prop :=
  ∀ slot < N, sif.Takes slot → ∀ socket ∈ sif.getSocket slot, 0 < socket.dataLength

instance (sif : SocketInterface D N) : Decidable sif.TakesData :=
  inferInstanceAs (Decidable (∀ slot < N, sif.Takes slot → ∀ socket ∈ sif.getSocket slot, _))

/-- The slots from one the loop does not pass are not taken. -/
lemma request_of_not_passes {sif : SocketInterface D N} {l slot : ℕ} (h : ¬ sif.Passes l)
    (hle : l ≤ slot) : ¬ sif.Takes slot :=
  fun htakes => h (htakes.2 l (by omega))

lemma remainigPduDataCapacity_eq_ok {iface : PduInterface D} {room : ℕ}
    (h : iface.remainigPduDataCapacity = .ok room) :
    iface.pdusTotalSize + headerSize + wkcLength + room = iface.capacity := by
  unfold PduInterface.remainigPduDataCapacity at h
  obtain ⟨a, ha, h⟩ := Exec.bind_eq_ok.mp h
  obtain ⟨b, hb, h⟩ := Exec.bind_eq_ok.mp h
  have := Exec.sub_eq_ok_iff.mp ha
  have := Exec.sub_eq_ok_iff.mp hb
  have := Exec.sub_eq_ok_iff.mp h
  omega

/-- What the loop has done when it has gone through `slots`, seen from the state `sif₀` before the
loop: the datagrams it took are appended, and the commands of their sockets are cleared. -/
def EnqueuedFrom (sif₀ : SocketInterface D N) (slots : List ℕ) (pdus : List (List UInt8))
    (sif sif' : SocketInterface D N) : Prop :=
  ∃ new, new.map datagram = slots.filterMap sif₀.request ∧
    sif'.iface.Buffered (pdus ++ new) ∧ sif'.iface.WellSized ∧
    sif'.iface.pduCount = sif.iface.pduCount + new.length ∧
    sif'.iface = { sif.iface with
      buffer := sif'.iface.buffer
      pdusTotalSize := sif'.iface.pdusTotalSize
      pduCount := sif'.iface.pduCount } ∧
    ∀ slot, sif'.getSocket slot =
      if slot ∈ slots ∧ sif₀.Takes slot then (sif.getSocket slot).map .taken
      else sif.getSocket slot

lemma enqueueSlots_eq_ok {sif₀ : SocketInterface D N} (hdata : sif₀.TakesData) {n s : ℕ}
    (hN : s + n ≤ N) {sif sif' : SocketInterface D N} {pdus : List (List UInt8)} {complete : Bool}
    (hbuf : sif.iface.Buffered pdus) (hsize : sif.iface.WellSized)
    (hsame : ∀ slot, s ≤ slot → sif.getSocket slot = sif₀.getSocket slot)
    (hused : sif.iface.pdusTotalSize = sif₀.usedBefore s)
    (hcap : sif.iface.capacity = sif₀.iface.capacity)
    (hpass : ∀ l < s, sif₀.Passes l)
    (h : enqueueSlots (List.range' s n) (sif₀.rank s) sif = .ok (complete, sif')) :
    EnqueuedFrom sif₀ (List.range' s n) pdus sif sif' := by
  induction n generalizing s sif pdus with
  | zero =>
      simp only [List.range'_zero, enqueueSlots, Except.ok.injEq, Prod.mk.injEq] at h
      obtain ⟨-, rfl⟩ := h
      exact ⟨[], by simp, by simpa using hbuf, hsize, rfl, rfl, by simp⟩
  | succ n ih =>
      have hmem : ∀ slot, slot ∈ List.range' s (n + 1) ↔ slot = s ∨ slot ∈ List.range' (s + 1) n := by
        intro slot
        simp [List.range'_succ]
      have hpass' : sif₀.Passes s → ∀ l < s + 1, sif₀.Passes l := by
        intro hs l hl
        rcases Nat.lt_succ_iff_lt_or_eq.mp hl with hl | rfl
        · exact hpass l hl
        · exact hs
      -- a slot that is passed without being taken
      have hskip : ¬ sif₀.Takes s → sif₀.usedBefore (s + 1) = sif₀.usedBefore s → sif₀.Passes s →
          enqueueSlots (List.range' (s + 1) n) (sif₀.rank (s + 1)) sif = .ok (complete, sif') →
          EnqueuedFrom sif₀ (List.range' s (n + 1)) pdus sif sif' := by
        intro hnot hnext hs h
        obtain ⟨new, hnew, hbuf', hsize', hcount, hiface, hsockets⟩ :=
          ih (s := s + 1) (by omega) hbuf hsize (fun slot hle => hsame slot (by omega))
            (by rw [hnext, hused]) hcap (hpass' hs) h
        refine ⟨new, ?_, hbuf', hsize', hcount, hiface, fun slot => ?_⟩
        · rw [List.range'_succ, List.filterMap_cons, request, if_neg hnot]
          exact hnew
        · rw [hsockets slot]
          simp only [hmem]
          by_cases heq : slot = s
          · subst heq
            simp [hnot]
          · simp [heq]
      rw [List.range'_succ] at h
      unfold enqueueSlots at h
      rw [hsame s (Nat.le_refl _)] at h
      cases hsocket : sif₀.getSocket s with
      | none =>
          -- a free slot
          rw [hsocket] at h
          have hnot : ¬ sif₀.Takes s := by
            rintro ⟨⟨socket, hmem, -⟩, -⟩
            simp [hsocket] at hmem
          have hrank : sif₀.rank (s + 1) = sif₀.rank s := by simp [rank, hsocket]
          have hnext : sif₀.usedBefore (s + 1) = sif₀.usedBefore s := by
            simp [usedBefore, hsocket]
          have hs : sif₀.Passes s := by simp [Passes, hsocket]
          exact hskip hnot hnext hs (by rw [hrank]; exact h)
      | some socket =>
          rw [hsocket] at h
          obtain ⟨room, hroom, h⟩ := Exec.bind_eq_ok.mp h
          have hroom' := remainigPduDataCapacity_eq_ok hroom
          split at h
          · -- no room: the loop stops
            rename_i hfull
            have hs : ¬ sif₀.Passes s := by
              intro hs
              have := hs socket (by simp [hsocket])
              omega
            have hnone : ∀ slot ∈ List.range' s (n + 1), ¬ sif₀.Takes slot := by
              intro slot hslot
              rw [List.mem_range'_1] at hslot
              exact request_of_not_passes hs hslot.1
            simp only [Except.ok.injEq, Prod.mk.injEq] at h
            obtain ⟨-, rfl⟩ := h
            refine ⟨[], ?_, by simpa using hbuf, hsize, rfl, rfl, fun slot => ?_⟩
            · symm
              rw [List.map_nil, List.filterMap_eq_nil_iff]
              intro slot hslot
              rw [request, if_neg (hnone slot hslot)]
            · rw [if_neg fun h => hnone slot h.1 h.2]
          rename_i hfits
          have hs : sif₀.Passes s := by
            intro socket' hsocket'
            simp only [hsocket, Option.mem_def, Option.some.injEq] at hsocket'
            subst hsocket'
            omega
          have hrank : sif₀.rank (s + 1) = sif₀.rank s + 1 := by simp [rank, hsocket]
          obtain ⟨⟨r, socket'⟩, htake, h⟩ := Exec.bind_eq_ok.mp h
          rcases PduSocket.takePdu_eq_ok htake with
            ⟨hidle, rfl, -⟩ | ⟨command, hpending, hcommand, hle, rfl, rfl⟩
          · -- nothing to send
            have hnot : ¬ sif₀.Takes s := by
              rintro ⟨⟨socket', hmem, hpending⟩, -⟩
              simp only [hsocket, Option.mem_def, Option.some.injEq] at hmem
              subst hmem
              exact hidle hpending
            have hnext : sif₀.usedBefore (s + 1) = sif₀.usedBefore s := by
              simp [usedBefore, hsocket, hidle]
            exact hskip hnot hnext hs (by rw [hrank]; exact h)
          · -- the datagram is taken
            have htakes : sif₀.Takes s := ⟨⟨socket, by simp [hsocket], hpending⟩, hpass' hs⟩
            have hpos := hdata s (by omega) htakes socket (by simp [hsocket])
            have hlen := PduSocket.pduLength_of_pending hpending
            simp only at h
            obtain ⟨⟨result, iface⟩, hadd, h⟩ := Exec.bind_eq_ok.mp h
            rcases result with _ | ⟨⟩
            · cases h
            obtain ⟨pdu, hpdu, hbuf₁, hsize₁, hiface₁, -⟩ :=
              PduInterface.addPdu_eq_ok hbuf hsize (socket.dataBuf.take socket.dataLength)
                (by rw [List.length_take, hlen]; omega) (by rw [hlen]; exact hpos)
                (fun target htarget => by
                  simp only [copyWriter]
                  exact overwrite_of_length_eq (by rw [List.length_take, htarget, hlen]; omega))
                hadd
            have hnext : sif₀.usedBefore (s + 1) =
                sif₀.usedBefore s + (headerSize + socket.dataLength + wkcLength) := by
              simp [usedBefore, hsocket, hpending]
            have hrequest : sif₀.request s = some (datagram pdu) := by
              rw [request, if_pos htakes]
              simp [hsocket, hcommand, hpdu]
            have hsif := getSocket_modifySocket { sif with iface := iface } s
              (fun _ => socket.taken)
            obtain ⟨new, hnew, hbuf', hsize', hcount, hiface, hsockets⟩ :=
              ih (s := s + 1) (by omega) hbuf₁ hsize₁
                (fun slot hle => by
                  rw [hsif, if_neg (by omega)]
                  exact hsame slot (by omega))
                (by
                  show iface.pdusTotalSize = _
                  rw [hnext, hiface₁, ← hused, hlen])
                (by
                  show iface.capacity = _
                  rw [hiface₁, hcap])
                (hpass' hs) (by rw [hrank]; exact h)
            refine ⟨pdu :: new, ?_, by simpa using hbuf', hsize', ?_, ?_, fun slot => ?_⟩
            · rw [List.range'_succ, List.filterMap_cons, hrequest, List.map_cons, hnew]
            · have hone : iface.pduCount = sif.iface.pduCount + 1 := by rw [hiface₁]
              rw [hcount, List.length_cons]
              show iface.pduCount + new.length = _
              omega
            · rw [hiface]
              show ({ iface with
                buffer := _
                pdusTotalSize := _
                pduCount := _ } : PduInterface D) = _
              rw [hiface₁]
            · rw [hsockets slot, hsif]
              simp only [hmem]
              by_cases heq : slot = s
              · subst heq
                have hself : sif.getSocket slot = some socket := by
                  rw [hsame slot (Nat.le_refl _), hsocket]
                have hlater : slot ∉ List.range' (slot + 1) n := by
                  simp [List.mem_range'_1]
                have hget : SocketInterface.getSocket { sif with iface := iface } slot =
                    some socket := hself
                simp [hlater, htakes, hself, hget]
              · simp only [heq, false_or, if_false]
                rfl

/-- **What `enqueue_pdus` does.**  It appends the datagrams it takes, in slot order, and clears
the commands of the sockets it took them from. -/
theorem enqueuePdus_eq_ok {sif sif' : SocketInterface D N} (hdata : sif.TakesData)
    {pdus : List (List UInt8)} {complete : Bool} (hbuf : sif.iface.Buffered pdus)
    (hsize : sif.iface.WellSized) (h : sif.enqueuePdus = .ok (complete, sif')) :
    ∃ new, new.map datagram = (List.range N).filterMap sif.request ∧
      sif'.iface.Buffered (pdus ++ new) ∧ sif'.iface.WellSized ∧
      sif'.iface.pduCount = sif.iface.pduCount + new.length ∧
      sif'.iface = { sif.iface with
        buffer := sif'.iface.buffer
        pdusTotalSize := sif'.iface.pdusTotalSize
        pduCount := sif'.iface.pduCount } ∧
      ∀ slot, sif'.getSocket slot =
        if sif.Takes slot then (sif.getSocket slot).map .taken else sif.getSocket slot := by
  unfold enqueuePdus at h
  rw [List.range_eq_range'] at h ⊢
  obtain ⟨new, hnew, hbuf', hsize', hcount, hiface, hsockets⟩ :=
    enqueueSlots_eq_ok hdata (n := N) (s := 0) (by omega) hbuf hsize (fun _ _ => rfl) rfl rfl
      (by simp) h
  refine ⟨new, hnew, hbuf', hsize', hcount, hiface, fun slot => ?_⟩
  rw [hsockets slot]
  by_cases htakes : sif.Takes slot
  · obtain ⟨⟨socket, hsocket, -⟩, -⟩ := htakes
    have hlt := lt_of_getSocket hsocket
    simp [List.mem_range'_1, hlt]
  · simp [htakes]

/-! ## Delivery -/

/-- The response in a datagram that came back. -/
def response (pdu : List UInt8) : Pdu where
  command := ⟨(datagram pdu).commandType, (datagram pdu).adp, (datagram pdu).ado⟩
  data := (datagram pdu).data
  wkc := ((pdu.getD (headerSize + length.val pdu + 1) 0).toUInt16 <<< 8) |||
    (pdu.getD (headerSize + length.val pdu) 0).toUInt16

lemma responsePdu_eq {pdu : List UInt8} (h : IsDatagram pdu) :
    responsePdu pdu = .ok (response pdu) := by
  have hfit : ∀ f : Field, f.msb / 8 < headerSize → f.get pdu = .ok (f.val pdu) :=
    fun f hf => Field.get_of_fits (fits h.headerSize_le hf)
  have hlen := h.2
  have hwkcLen : wkcLength = 2 := rfl
  have hwkc : EtherCatPdu.wkc pdu = .ok (some (response pdu).wkc) := by
    have hlow : headerSize + length.val pdu < pdu.length := by omega
    have hhigh : headerSize + length.val pdu + 1 < pdu.length := by omega
    simp only [EtherCatPdu.wkc, hfit length (by decide), Exec.ok_bind,
      List.getElem?_eq_getElem hlow, List.getElem?_eq_getElem hhigh]
    simp [response, List.getD_eq_getElem?_getD, hlow, hhigh]
  obtain ⟨hwithout, hdata⟩ := PduInterface.data_of_isDatagram h
  simp only [responsePdu, hwkc, hfit _ (show commandType.msb / 8 < headerSize by decide),
    hfit _ (show adp.msb / 8 < headerSize by decide),
    hfit _ (show ado.msb / 8 < headerSize by decide),
    hfit _ (show length.msb / 8 < headerSize by decide), hwithout, hdata, Exec.ok_bind]
  rfl

/-- A socket after a list of responses. -/
def recieveAll (socket : PduSocket) (pdus : List (List UInt8)) : PduSocket :=
  pdus.foldl (fun socket pdu => socket.recieve (response pdu)) socket

/-- **Delivery is by index.**  Every slot's socket gets the responses whose index byte is the
slot's number, in order, and nothing else happens. -/
theorem deliverPdus_eq {pdus : List (List UInt8)} (hpdus : ∀ pdu ∈ pdus, IsDatagram pdu)
    (sif : SocketInterface D N) :
    ∃ sif', deliverPdus pdus sif = .ok sif' ∧ sif'.iface = sif.iface ∧
      ∀ slot, sif'.getSocket slot = (sif.getSocket slot).map
        (fun socket => recieveAll socket (pdus.filter (fun pdu => index.val pdu = slot))) := by
  induction pdus generalizing sif with
  | nil => exact ⟨sif, rfl, rfl, by simp [recieveAll]⟩
  | cons pdu pdus ih =>
      simp only [List.forall_mem_cons] at hpdus
      have hindex : EtherCatPdu.index.get pdu = .ok (EtherCatPdu.index.val pdu) :=
        Field.get_of_fits (fits hpdus.1.headerSize_le (by decide))
      simp only [deliverPdus, hindex, Exec.ok_bind]
      cases hsocket : sif.getSocket (EtherCatPdu.index.val pdu) with
      | none =>
          obtain ⟨sif', hrest, hiface, hsockets⟩ := ih hpdus.2 sif
          refine ⟨sif', hrest, hiface, fun slot => ?_⟩
          rw [hsockets slot]
          by_cases heq : EtherCatPdu.index.val pdu = slot
          · subst heq
            simp [hsocket]
          · simp [heq]
      | some socket =>
          obtain ⟨sif', hrest, hiface, hsockets⟩ :=
            ih hpdus.2 (sif.modifySocket (EtherCatPdu.index.val pdu)
              (fun socket => socket.recieve (response pdu)))
          refine ⟨sif', ?_, hiface, fun slot => ?_⟩
          · simp only [responsePdu_eq hpdus.1, Exec.ok_bind]
            exact hrest
          · rw [hsockets slot, getSocket_modifySocket]
            by_cases heq : EtherCatPdu.index.val pdu = slot
            · subst heq
              simp [hsocket, recieveAll]
            · simp [heq, Ne.symm heq]

end SocketInterface

end EtherCat
