import EtherCat.Interface.SocketIfSpec

/-!
# Enqueuing any mix of sockets

`enqueue_pdus` goes through the sockets in slot order and moves their datagrams into the PDU
buffer until one has no room.  `EnqueuesPrefix` is what it is for: it returns, it has added the
datagrams of a prefix of the pending sockets within the capacity, and it says `true` exactly if
these are all.  `Enqueuable` is the condition on the state before the call under which it does
so (`enqueuePdus_enqueuesPrefix_iff`).  Here a datagram may have no data and a socket may be
idle, pending or answered.
-/

namespace EtherCat

open Rust Rust.Exec BitField EtherCatPdu

/-! ## Adding one datagram -/

namespace PduInterface

variable {D : Type} {iface : PduInterface D}

/-- A datagram that fits and ends before the last byte of the buffer is written behind the others:
header, data and two bytes for the working counter. -/
lemma addPdu_of_lt (hsize : iface.WellSized) (pduIndex : UInt8) (command : Command)
    {data : List UInt8} {dataWriter : SliceWriter UInt8}
    (hwriter : ∀ target, target.length = data.length → dataWriter.run target = data)
    (hroom : iface.pdusTotalSize + headerSize + data.length + wkcLength ≤ iface.capacity)
    (hlt : iface.pdusTotalSize + headerSize + data.length + wkcLength < iface.buffer.length) :
    ∃ header wkc rest, newHeader pduIndex command data.length = .ok header ∧
      header.length = headerSize ∧ wkc.length = wkcLength ∧
      (iface.buffer.take iface.pdusTotalSize ++ (header ++ data ++ wkc) ++ rest).length =
        iface.buffer.length ∧
      iface.addPdu pduIndex command data.length dataWriter = .ok (.ok (), { iface with
        buffer := iface.buffer.take iface.pdusTotalSize ++ (header ++ data ++ wkc) ++ rest
        pdusTotalSize := iface.pdusTotalSize + (headerSize + data.length + wkcLength)
        pduCount := iface.pduCount + 1 }) := by
  have hcap := hsize.capacity_le_max
  have hmax : maxEthercatDatagram = 1498 := rfl
  have hmax' : maxPduDatagram = 1486 := rfl
  have hh : headerSize = 10 := rfl
  have hw : wkcLength = 2 := rfl
  obtain ⟨header, hheader, hheaderLen, -⟩ :=
    newHeader_eq pduIndex command data data.length rfl (by omega)
  set pre := iface.buffer.take iface.pdusTotalSize with hpre
  have hpreLen : pre.length = iface.pdusTotalSize := by
    rw [hpre, List.length_take]
    omega
  -- the bytes the datagram is written over
  obtain ⟨tail, hbuffer⟩ : ∃ tail, iface.buffer = pre ++ tail :=
    ⟨iface.buffer.drop iface.pdusTotalSize, (List.take_append_drop _ _).symm⟩
  have hlength := congrArg List.length hbuffer
  rw [List.length_append, hpreLen] at hlength
  set body := (tail.drop header.length).drop data.length with hbody
  have hbodyLen : body.length + headerSize + data.length = tail.length := by
    rw [hbody, List.length_drop, List.length_drop, hheaderLen]
    omega
  set body' := (body.set 1 0).set 2 (0 : UInt8) with hbody'
  have hbodyLen' : body'.length = body.length := by
    rw [hbody', List.length_set, List.length_set]
  have hinitial : (pre ++ header ++ data).length = iface.pdusTotalSize + headerSize + data.length := by
    rw [List.length_append, List.length_append, hheaderLen, hpreLen]
  refine ⟨header, body'.take wkcLength, body'.drop wkcLength, hheader, hheaderLen, ?_, ?_, ?_⟩
  · rw [List.length_take]
    omega
  · simp only [List.length_append, List.length_take, List.length_drop]
    omega
  have hcopy : copyFromSlice iface.buffer iface.pdusTotalSize header =
      .ok (pre ++ header ++ tail.drop header.length) := by
    refine copyFromSlice_eq_ok_iff.mpr ⟨by omega, ?_⟩
    rw [hbuffer, splice_append hpreLen.symm]
  have hslice : slice (pre ++ header ++ tail.drop header.length)
      (iface.pdusTotalSize + headerSize) (iface.pdusTotalSize + headerSize + data.length) =
        .ok (((pre ++ header ++ tail.drop header.length).take
          (iface.pdusTotalSize + headerSize + data.length)).drop
            (iface.pdusTotalSize + headerSize)) := by
    refine slice_eq_ok_iff.mpr ⟨⟨by omega, ?_⟩, rfl⟩
    simp only [List.length_append, List.length_drop, hheaderLen]
    omega
  have htarget : (((pre ++ header ++ tail.drop header.length).take
      (iface.pdusTotalSize + headerSize + data.length)).drop
        (iface.pdusTotalSize + headerSize)).length = data.length := by
    simp only [List.length_append, List.length_drop, List.length_take, hheaderLen]
    omega
  have hcopy' : copyFromSlice (pre ++ header ++ tail.drop header.length)
      (iface.pdusTotalSize + headerSize) data = .ok (pre ++ header ++ data ++ body) := by
    refine copyFromSlice_eq_ok_iff.mpr ⟨?_, ?_⟩
    · simp only [List.length_append, List.length_drop, hheaderLen]
      omega
    · rw [splice_append (by rw [List.length_append, hheaderLen, hpreLen])]
  have hset : setIndex (pre ++ header ++ data ++ body)
      (iface.pdusTotalSize + headerSize + data.length + 1) 0 =
        .ok (pre ++ header ++ data ++ body.set 1 0) := by
    refine setIndex_eq_ok_iff.mpr ⟨?_, ?_⟩
    · rw [List.length_append, hinitial]
      omega
    · rw [List.set_append_right _ _ (by omega), hinitial, Nat.add_sub_cancel_left]
  have hset' : setIndex (pre ++ header ++ data ++ body.set 1 0)
      (iface.pdusTotalSize + headerSize + data.length + 2) 0 =
        .ok (pre ++ header ++ data ++ body') := by
    refine setIndex_eq_ok_iff.mpr ⟨?_, ?_⟩
    · rw [List.length_append, hinitial, List.length_set]
      omega
    · rw [List.set_append_right _ _ (by omega), hinitial, Nat.add_sub_cancel_left]
  have hfits : ¬ iface.pdusTotalSize + headerSize + data.length + wkcLength > iface.capacity :=
    Nat.not_lt.mpr hroom
  have hsmall : ¬ data.length > maxPduDatagram := by omega
  rw [addPdu, if_neg hfits, if_neg hsmall, hheader, ok_bind]
  dsimp only
  rw [hcopy, ok_bind, hslice, ok_bind, hwriter _ htarget, hcopy', ok_bind, hset, ok_bind, hset',
    ok_bind]
  have hjoin : pre ++ header ++ data ++ body' =
      pre ++ (header ++ data ++ body'.take wkcLength) ++ body'.drop wkcLength := by
    simp only [List.append_assoc, List.take_append_drop]
  rw [hjoin]

/-- A datagram that fits up to the last byte of the buffer makes the write of the working counter
miss the buffer by one. -/
lemma addPdu_of_not_lt (hsize : iface.WellSized) (pduIndex : UInt8) (command : Command)
    {dataSize : ℕ} (dataWriter : SliceWriter UInt8)
    (hroom : iface.pdusTotalSize + headerSize + dataSize + wkcLength ≤ iface.capacity)
    (hge : iface.buffer.length ≤ iface.pdusTotalSize + headerSize + dataSize + wkcLength) :
    ∃ e, iface.addPdu pduIndex command dataSize dataWriter = .error e := by
  rcases hadd : iface.addPdu pduIndex command dataSize dataWriter with e | r
  · exact ⟨e, rfl⟩
  exfalso
  have hcap := hsize.capacity_le_max
  have hmax : maxEthercatDatagram = 1498 := rfl
  have hmax' : maxPduDatagram = 1486 := rfl
  have hh : headerSize = 10 := rfl
  have hw : wkcLength = 2 := rfl
  rw [addPdu, if_neg (Nat.not_lt.mpr hroom), if_neg (by omega)] at hadd
  obtain ⟨header, hheader, hadd⟩ := bind_eq_ok.mp hadd
  obtain ⟨b₁, h₁, hadd⟩ := bind_eq_ok.mp hadd
  obtain ⟨target, htarget, hadd⟩ := bind_eq_ok.mp hadd
  obtain ⟨b₂, h₂, hadd⟩ := bind_eq_ok.mp hadd
  obtain ⟨b₃, h₃, hadd⟩ := bind_eq_ok.mp hadd
  obtain ⟨b₄, h₄, -⟩ := bind_eq_ok.mp hadd
  obtain ⟨hle₁, rfl⟩ := copyFromSlice_eq_ok_iff.mp h₁
  obtain ⟨hle₂, rfl⟩ := copyFromSlice_eq_ok_iff.mp h₂
  obtain ⟨-, rfl⟩ := setIndex_eq_ok_iff.mp h₃
  have hin := (setIndex_eq_ok_iff.mp h₄).1
  rw [List.length_set, length_splice hle₂, length_splice hle₁] at hin
  omega

end PduInterface

namespace SocketInterface

variable {D : Type} {N : ℕ}

/-! ## What enqueuing should do -/

/-- The slot's socket holds a datagram that was not sent yet. -/
def HoldsPending (sif : SocketInterface D N) (slot : ℕ) : Prop :=
  ∃ socket ∈ sif.getSocket slot, socket.Pending

instance (sif : SocketInterface D N) (slot : ℕ) : Decidable (sif.HoldsPending slot) :=
  inferInstanceAs (Decidable (∃ socket ∈ sif.getSocket slot, socket.Pending))

/-- The slots of the pending sockets, in slot order. -/
def pendingSlots (sif : SocketInterface D N) : List ℕ := (List.range N).filter sif.HoldsPending

/-- The bytes of the datagram that a slot's socket holds. -/
def IsPduOf (sif : SocketInterface D N) (slot : ℕ) (bytes : List UInt8) : Prop :=
  ∃ socket command header wkc, sif.getSocket slot = some socket ∧ socket.command = some command ∧
    PduInterface.newHeader (UInt8.ofNat (sif.rank slot)) command socket.dataLength = .ok header ∧
    wkc.length = wkcLength ∧ bytes = header ++ socket.dataBuf.take socket.dataLength ++ wkc

/-- The state `sif` after the datagrams of the slots `added` were added to those of `sif₀`. -/
structure Added (sif₀ : SocketInterface D N) (added : List ℕ) (sif : SocketInterface D N) :
    Prop where
  buffer_eq : ∃ chunks rest, List.Forall₂ sif₀.IsPduOf added chunks ∧
    sif.iface.buffer =
      sif₀.iface.buffer.take sif₀.iface.pdusTotalSize ++ chunks.flatten ++ rest ∧
    sif.iface.pdusTotalSize = sif₀.iface.pdusTotalSize + chunks.flatten.length
  length_buffer : sif.iface.buffer.length = sif₀.iface.buffer.length
  iface_eq : sif.iface = { sif₀.iface with
    buffer := sif.iface.buffer
    pdusTotalSize := sif.iface.pdusTotalSize
    pduCount := sif₀.iface.pduCount + added.length }
  getSocket_eq : ∀ slot, sif.getSocket slot =
    if slot ∈ added then (sif₀.getSocket slot).map .taken else sif₀.getSocket slot

/-- **What enqueuing is for.** -/
def EnqueuesPrefix (sif : SocketInterface D N) : Prop :=
  ∃ complete sif' added, sif.enqueuePdus = .ok (complete, sif') ∧
    added <+: sif.pendingSlots ∧ sif.Added added sif' ∧
    sif'.iface.pdusTotalSize ≤ sif.iface.capacity ∧
    (complete = true ↔ added = sif.pendingSlots)

/-- The buffer has room for a header and a working counter when the loop comes to the socket, and
its datagram, if it is to be added, ends before the last byte of the buffer. -/
def Roomy (sif : SocketInterface D N) (slot : ℕ) (socket : PduSocket) : Prop :=
  sif.usedBefore slot + headerSize + wkcLength ≤ sif.iface.capacity ∧
    (sif.Passes slot → socket.Pending →
      sif.usedBefore slot + headerSize + socket.dataLength + wkcLength < sif.iface.buffer.length)

instance (sif : SocketInterface D N) (slot : ℕ) (socket : PduSocket) :
    Decidable (sif.Roomy slot socket) := inferInstanceAs (Decidable (_ ∧ _))

/-- **The condition.**  There is room at every socket the loop comes to, and if the loop stops at
one, this or a later one is pending. -/
def Enqueuable (sif : SocketInterface D N) : Prop :=
  ∀ slot < N, (∀ l < slot, sif.Passes l) → ∀ socket ∈ sif.getSocket slot,
    sif.Roomy slot socket ∧ (¬ sif.Passes slot → ∃ later ∈ sif.pendingSlots, slot ≤ later)

instance (sif : SocketInterface D N) : Decidable sif.Enqueuable :=
  inferInstanceAs (Decidable (∀ slot < N, (∀ l < slot, sif.Passes l) →
    ∀ socket ∈ sif.getSocket slot, _))

/-! ## The slots the loop takes -/

lemma takes_iff {sif : SocketInterface D N} {slot : ℕ} :
    sif.Takes slot ↔ sif.HoldsPending slot ∧ ∀ l < slot + 1, sif.Passes l := Iff.rfl

/-- The slots that are taken are the first of the pending ones. -/
lemma filter_takes_prefix (sif : SocketInterface D N) (n : ℕ) :
    (List.range n).filter sif.Takes <+: (List.range n).filter sif.HoldsPending := by
  induction n with
  | zero => exact List.prefix_refl _
  | succ n ih =>
      by_cases hpass : ∀ l < n + 1, sif.Passes l
      · -- up to here every pending slot is taken
        have hsame : (List.range (n + 1)).filter sif.Takes =
            (List.range (n + 1)).filter sif.HoldsPending := by
          apply List.filter_congr
          intro slot hslot
          rw [List.mem_range] at hslot
          have hbelow : ∀ l < slot + 1, sif.Passes l := fun l hl => hpass l (by omega)
          simp only [takes_iff, decide_eq_decide]
          exact and_iff_left hbelow
        rw [hsame]
      · have hnot : ¬ sif.Takes n := fun h => hpass h.2
        rw [List.range_succ, List.filter_append, List.filter_append]
        have hnil : [n].filter sif.Takes = [] := by simp [hnot]
        rw [hnil, List.append_nil]
        exact ih.trans (List.prefix_append _ _)

/-- From a slot on that is not passed, nothing is taken. -/
lemma filter_takes_of_not_passes {sif : SocketInterface D N} {s : ℕ} (h : ¬ sif.Passes s) (n : ℕ) :
    (List.range (s + n)).filter sif.Takes = (List.range s).filter sif.Takes := by
  induction n with
  | zero => rfl
  | succ n ih =>
      have hnot : ¬ sif.Takes (s + n) := fun htakes => h (htakes.2 s (by omega))
      rw [← Nat.add_assoc, List.range_succ, List.filter_append, ih]
      simp [hnot]

lemma filter_takes_succ_of_not {sif : SocketInterface D N} {s : ℕ} (h : ¬ sif.Takes s) :
    (List.range (s + 1)).filter sif.Takes = (List.range s).filter sif.Takes := by
  rw [List.range_succ, List.filter_append]
  simp [h]

lemma filter_takes_succ {sif : SocketInterface D N} {s : ℕ} (h : sif.Takes s) :
    (List.range (s + 1)).filter sif.Takes = (List.range s).filter sif.Takes ++ [s] := by
  rw [List.range_succ, List.filter_append]
  simp [h]

/-! ## One turn of the loop -/

/-- The loop has come to slot `s`. -/
structure At (sif₀ : SocketInterface D N) (s : ℕ) (sif : SocketInterface D N) : Prop where
  passes : ∀ l < s, sif₀.Passes l
  added : sif₀.Added ((List.range s).filter sif₀.Takes) sif
  used_eq : sif.iface.pdusTotalSize = sif₀.usedBefore s

lemma At.zero (sif₀ : SocketInterface D N) : sif₀.At 0 sif₀ where
  passes := fun l hl => absurd hl (Nat.not_lt_zero l)
  added :=
    { buffer_eq := ⟨[], sif₀.iface.buffer.drop sif₀.iface.pdusTotalSize, .nil, by simp, rfl⟩
      length_buffer := rfl
      iface_eq := rfl
      getSocket_eq := fun slot => by simp }
  used_eq := rfl

section
variable {sif₀ sif : SocketInterface D N} {s : ℕ}

lemma At.getSocket_eq (h : sif₀.At s sif) : sif.getSocket s = sif₀.getSocket s := by
  rw [h.added.getSocket_eq, if_neg]
  simp

lemma At.capacity_eq (h : sif₀.At s sif) : sif.iface.capacity = sif₀.iface.capacity := by
  rw [h.added.iface_eq]

lemma usedBefore_le (hsize : sif₀.iface.WellSized) (hpasses : ∀ l < s, sif₀.Passes l) :
    sif₀.usedBefore s ≤ sif₀.iface.capacity := by
  induction s with
  | zero => exact hsize.total_le
  | succ s ih =>
      have hle := ih fun l hl => hpasses l (by omega)
      have hpass := hpasses s (by omega)
      rw [usedBefore]
      rcases hsocket : sif₀.getSocket s with _ | socket
      · exact hle
      · have hfits := hpass socket hsocket
        by_cases hpending : socket.Pending
        · rw [PduSocket.pduLength_of_pending hpending] at hfits
          simp only [hpending, if_true]
          omega
        · simpa [hpending] using hle

lemma At.wellSized (hsize : sif₀.iface.WellSized) (h : sif₀.At s sif) : sif.iface.WellSized where
  capacity_le := by
    rw [h.capacity_eq, h.added.length_buffer]
    exact hsize.capacity_le
  capacity_le_max := by
    rw [h.capacity_eq]
    exact hsize.capacity_le_max
  total_le := by
    rw [h.capacity_eq, h.used_eq]
    exact usedBefore_le hsize h.passes

/-- Past a slot whose socket is idle, or that is free. -/
lemma At.skip (h : sif₀.At s sif) (hpasses : sif₀.Passes s) (hidle : ¬ sif₀.HoldsPending s) :
    sif₀.At (s + 1) sif where
  passes := fun l hl => by
    rcases Nat.lt_succ_iff_lt_or_eq.mp hl with hl | rfl
    · exact h.passes l hl
    · exact hpasses
  added := by
    rw [filter_takes_succ_of_not fun htakes => hidle htakes.1]
    exact h.added
  used_eq := by
    rw [h.used_eq, usedBefore]
    rcases hsocket : sif₀.getSocket s with _ | socket
    · rfl
    · have hnot : ¬ socket.Pending := fun hpending => hidle ⟨socket, hsocket, hpending⟩
      dsimp only
      rw [if_neg hnot, Nat.add_zero]

/-- Past a slot whose datagram is added. -/
lemma At.add (hsize : sif₀.iface.WellSized) (h : sif₀.At s sif) (hpasses : sif₀.Passes s)
    {socket : PduSocket}
    {command : Command} {header wkc rest : List UInt8} (hsocket : sif₀.getSocket s = some socket)
    (hpending : socket.Pending) (hcommand : socket.command = some command)
    (hlength : socket.dataLength ≤ socket.dataBuf.length)
    (hheader : PduInterface.newHeader (UInt8.ofNat (sif₀.rank s)) command socket.dataLength =
      .ok header)
    (hheaderLen : header.length = headerSize) (hwkc : wkc.length = wkcLength)
    (hbuffer : (sif.iface.buffer.take sif.iface.pdusTotalSize ++
      (header ++ socket.dataBuf.take socket.dataLength ++ wkc) ++ rest).length =
        sif.iface.buffer.length) :
    sif₀.At (s + 1) (SocketInterface.modifySocket { sif with iface := { sif.iface with
      buffer := sif.iface.buffer.take sif.iface.pdusTotalSize ++
        (header ++ socket.dataBuf.take socket.dataLength ++ wkc) ++ rest
      pdusTotalSize := sif.iface.pdusTotalSize + (headerSize + socket.dataLength + wkcLength)
      pduCount := sif.iface.pduCount + 1 } } s (fun _ => socket.taken)) where
  passes := fun l hl => by
    rcases Nat.lt_succ_iff_lt_or_eq.mp hl with hl | rfl
    · exact h.passes l hl
    · exact hpasses
  added := by
    have htakes : sif₀.Takes s := by
      refine ⟨⟨socket, hsocket, hpending⟩, fun l hl => ?_⟩
      rcases Nat.lt_succ_iff_lt_or_eq.mp hl with hl | rfl
      · exact h.passes l hl
      · exact hpasses
    obtain ⟨chunks, rest₀, hchunks, hbuffer₀, htotal⟩ := h.added.buffer_eq
    have hpdu : sif₀.IsPduOf s (header ++ socket.dataBuf.take socket.dataLength ++ wkc) :=
      ⟨socket, command, header, wkc, hsocket, hcommand, hheader, hwkc, rfl⟩
    have hpre : (sif₀.iface.buffer.take sif₀.iface.pdusTotalSize).length =
        sif₀.iface.pdusTotalSize := by
      have := hsize.capacity_le
      have := hsize.total_le
      rw [List.length_take]
      omega
    have hfront : sif.iface.buffer.take sif.iface.pdusTotalSize =
        sif₀.iface.buffer.take sif₀.iface.pdusTotalSize ++ chunks.flatten := by
      rw [hbuffer₀]
      exact List.take_left' (by rw [List.length_append, hpre, htotal])
    rw [filter_takes_succ htakes]
    refine ⟨⟨chunks ++ [header ++ socket.dataBuf.take socket.dataLength ++ wkc], rest, ?_, ?_, ?_⟩,
      ?_, ?_, ?_⟩
    · exact List.rel_append hchunks (.cons hpdu .nil)
    · simp only [SocketInterface.modifySocket, hfront, List.flatten_append, List.flatten_cons,
        List.flatten_nil, List.append_nil, List.append_assoc]
    · simp only [SocketInterface.modifySocket, htotal, List.flatten_append, List.flatten_cons,
        List.flatten_nil, List.append_nil, List.length_append, List.length_take, hheaderLen, hwkc]
      omega
    · exact hbuffer.trans h.added.length_buffer
    · rw [SocketInterface.modifySocket, List.length_append, List.length_singleton]
      simp only
      rw [h.added.iface_eq]
      rfl
    · intro slot
      have hsif := getSocket_modifySocket { sif with iface := { sif.iface with
        buffer := sif.iface.buffer.take sif.iface.pdusTotalSize ++
          (header ++ socket.dataBuf.take socket.dataLength ++ wkc) ++ rest
        pdusTotalSize := sif.iface.pdusTotalSize + (headerSize + socket.dataLength + wkcLength)
        pduCount := sif.iface.pduCount + 1 } } s (fun _ => socket.taken) slot
      have hkept : ∀ slot, SocketInterface.getSocket { sif with iface := { sif.iface with
        buffer := sif.iface.buffer.take sif.iface.pdusTotalSize ++
          (header ++ socket.dataBuf.take socket.dataLength ++ wkc) ++ rest
        pdusTotalSize := sif.iface.pdusTotalSize + (headerSize + socket.dataLength + wkcLength)
        pduCount := sif.iface.pduCount + 1 } } slot = sif.getSocket slot := fun _ => rfl
      rw [hsif, hkept, h.added.getSocket_eq]
      by_cases heq : slot = s
      · subst heq
        simp [hsocket]
      · simp [heq]
  used_eq := by
    rw [usedBefore, hsocket]
    dsimp only
    rw [if_pos hpending, ← h.used_eq]
    rfl

lemma remainigPduDataCapacity_of_le {iface : PduInterface D}
    (h : iface.pdusTotalSize + headerSize + wkcLength ≤ iface.capacity) :
    iface.remainigPduDataCapacity =
      .ok (iface.capacity - iface.pdusTotalSize - headerSize - wkcLength) := by
  rw [PduInterface.remainigPduDataCapacity, sub_of_le (by omega), ok_bind, sub_of_le (by omega),
    ok_bind, sub_of_le (by omega)]

/-- The loop passes a slot. -/
lemma At.turn (hsize : sif₀.iface.WellSized)
    (hbuf : ∀ socket ∈ sif₀.getSocket s, socket.dataLength ≤ socket.dataBuf.length)
    (h : sif₀.At s sif) (hpasses : sif₀.Passes s)
    (hroomy : ∀ socket ∈ sif₀.getSocket s, sif₀.Roomy s socket) (slots : List ℕ) :
    ∃ sif', sif₀.At (s + 1) sif' ∧ enqueueSlots (s :: slots) (sif₀.rank s) sif =
      enqueueSlots slots (sif₀.rank (s + 1)) sif' := by
  rw [enqueueSlots, h.getSocket_eq]
  rcases hsocket : sif₀.getSocket s with _ | socket
  · have hrank : sif₀.rank (s + 1) = sif₀.rank s := by simp [rank, hsocket]
    have hidle : ¬ sif₀.HoldsPending s := by
      rintro ⟨socket, hmem, -⟩
      rw [hsocket] at hmem
      cases hmem
    exact ⟨sif, h.skip hpasses hidle, by rw [hrank]⟩
  have hrank : sif₀.rank (s + 1) = sif₀.rank s + 1 := by simp [rank, hsocket]
  obtain ⟨hroom, hend⟩ := hroomy socket hsocket
  have hfits := hpasses socket hsocket
  rw [← h.used_eq, ← h.capacity_eq] at hroom hfits
  dsimp only
  rw [remainigPduDataCapacity_of_le hroom, ok_bind, if_neg (by omega), hrank]
  by_cases hpending : socket.Pending
  swap
  · -- nothing to send
    have hidle : ¬ sif₀.HoldsPending s := by
      rintro ⟨socket', hmem, hpending'⟩
      rw [hsocket] at hmem
      cases hmem
      exact hpending hpending'
    have htake : socket.takePdu = .ok (none, socket) := by
      rw [PduSocket.Pending, not_and_or] at hpending
      rcases hpending with hflag | hcommand
      · simp [PduSocket.takePdu, Bool.eq_true_of_not_eq_false hflag]
      · have hnone : socket.command = none := by simpa using hcommand
        simp [PduSocket.takePdu, hnone]
    exact ⟨sif, h.skip hpasses hidle, by rw [htake, ok_bind]⟩
  · -- the datagram is added
    obtain ⟨command, hcommand⟩ := Option.isSome_iff_exists.mp hpending.2
    have hlength := hbuf socket hsocket
    have htake : socket.takePdu =
        .ok (some ⟨command, socket.dataBuf.take socket.dataLength, 0⟩, socket.taken) := by
      simp [PduSocket.takePdu, hpending.1, hcommand, sliceTo_eq_ok_iff.mpr ⟨hlength, rfl⟩,
        PduSocket.taken]
    have hdata : (socket.dataBuf.take socket.dataLength).length = socket.dataLength := by
      rw [List.length_take]
      omega
    rw [PduSocket.pduLength_of_pending hpending] at hfits ⊢
    have hlt := hend hpasses hpending
    rw [← h.used_eq, ← h.added.length_buffer] at hlt
    have hwriter : ∀ target, target.length = (socket.dataBuf.take socket.dataLength).length →
        (copyWriter (socket.dataBuf.take socket.dataLength)).run target =
          socket.dataBuf.take socket.dataLength :=
      fun target htarget => overwrite_of_length_eq htarget.symm
    obtain ⟨header, wkc, rest, hheader, hheaderLen, hwkc, hbuffer, hadd⟩ :=
      PduInterface.addPdu_of_lt (h.wellSized hsize) (UInt8.ofNat (sif₀.rank s)) command hwriter
        (by rw [hdata]; omega) (by rw [hdata]; omega)
    rw [hdata] at hheader hadd
    refine ⟨_, h.add hsize hpasses hsocket hpending hcommand hlength hheader hheaderLen hwkc hbuffer,
      ?_⟩
    rw [htake, ok_bind]
    dsimp only
    rw [hadd, ok_bind]

/-- The loop stops at a slot whose data have no room. -/
lemma At.stop (h : sif₀.At s sif) {socket : PduSocket} (hsocket : sif₀.getSocket s = some socket)
    (hroomy : sif₀.Roomy s socket) (hnot : ¬ sif₀.Passes s) (slots : List ℕ) :
    enqueueSlots (s :: slots) (sif₀.rank s) sif = .ok (false, sif) := by
  have hroom := hroomy.1
  have hfull : sif.iface.capacity < sif.iface.pdusTotalSize + headerSize + wkcLength +
      socket.pduLength := by
    rw [h.capacity_eq, h.used_eq]
    by_contra hle
    refine hnot fun socket' hmem => ?_
    rw [hsocket] at hmem
    cases hmem
    omega
  rw [← h.used_eq, ← h.capacity_eq] at hroom
  rw [enqueueSlots, h.getSocket_eq, hsocket]
  dsimp only
  rw [remainigPduDataCapacity_of_le hroom, ok_bind, if_pos (by omega)]

/-- Without room the loop panics. -/
lemma At.panics (hsize : sif₀.iface.WellSized) (h : sif₀.At s sif) {socket : PduSocket}
    (hsocket : sif₀.getSocket s = some socket) (hnot : ¬ sif₀.Roomy s socket) (slots : List ℕ) :
    ∃ e, enqueueSlots (s :: slots) (sif₀.rank s) sif = .error e := by
  rw [enqueueSlots, h.getSocket_eq, hsocket]
  dsimp only
  by_cases hroom : sif₀.usedBefore s + headerSize + wkcLength ≤ sif₀.iface.capacity
  swap
  · -- the remaining capacity underflows
    rcases hremaining : sif.iface.remainigPduDataCapacity with e | room
    · exact ⟨e, by rw [error_bind]⟩
    · have heq := remainigPduDataCapacity_eq_ok hremaining
      rw [h.used_eq, h.capacity_eq] at heq
      omega
  -- the datagram ends with the buffer
  obtain ⟨hpasses, hpending, hge⟩ : sif₀.Passes s ∧ socket.Pending ∧ sif₀.iface.buffer.length ≤
      sif₀.usedBefore s + headerSize + socket.dataLength + wkcLength := by
    by_contra hcon
    refine hnot ⟨hroom, fun hpasses hpending => ?_⟩
    by_contra hge
    exact hcon ⟨hpasses, hpending, Nat.le_of_not_lt hge⟩
  have hfits := hpasses socket hsocket
  rw [← h.used_eq, ← h.capacity_eq] at hroom hfits
  rw [← h.used_eq, ← h.added.length_buffer] at hge
  rw [remainigPduDataCapacity_of_le hroom, ok_bind, if_neg (by omega)]
  rw [PduSocket.pduLength_of_pending hpending] at hfits ⊢
  rcases htake : socket.takePdu with e | ⟨taken, socket'⟩
  · exact ⟨e, by rw [error_bind]⟩
  rcases PduSocket.takePdu_eq_ok htake with ⟨hidle, -⟩ | ⟨command, -, -, -, rfl, rfl⟩
  · exact absurd hpending hidle
  obtain ⟨e, he⟩ := PduInterface.addPdu_of_not_lt (h.wellSized hsize)
    (UInt8.ofNat (sif₀.rank s)) command
    (copyWriter (socket.dataBuf.take socket.dataLength)) (by omega) hge
  refine ⟨e, ?_⟩
  rw [ok_bind]
  dsimp only
  rw [he, error_bind]

/-! ## The whole loop -/

/-- If there is room at every slot the loop comes to, it adds what it takes. -/
lemma At.run (hsize : sif₀.iface.WellSized)
    (hbuf : ∀ slot, ∀ socket ∈ sif₀.getSocket slot, socket.dataLength ≤ socket.dataBuf.length)
    {n : ℕ} (h : sif₀.At s sif)
    (hroomy : ∀ slot < s + n, s ≤ slot → (∀ l < slot, sif₀.Passes l) →
      ∀ socket ∈ sif₀.getSocket slot, sif₀.Roomy slot socket) :
    ∃ complete sif', enqueueSlots (List.range' s n) (sif₀.rank s) sif = .ok (complete, sif') ∧
      sif₀.Added ((List.range (s + n)).filter sif₀.Takes) sif' ∧
      sif'.iface.pdusTotalSize ≤ sif₀.iface.capacity ∧
      (complete = true ↔ ∀ l < s + n, sif₀.Passes l) := by
  induction n generalizing s sif with
  | zero =>
      have htotal := (h.wellSized hsize).total_le
      rw [h.capacity_eq] at htotal
      exact ⟨true, sif, rfl, h.added, htotal, by simpa using h.passes⟩
  | succ n ih =>
      rw [List.range'_succ]
      by_cases hpasses : sif₀.Passes s
      · obtain ⟨sif', h', hturn⟩ :=
          h.turn hsize (hbuf s) hpasses (hroomy s (by omega) (Nat.le_refl s) h.passes)
            (List.range' (s + 1) n)
        rw [hturn, show s + (n + 1) = s + 1 + n by omega]
        exact ih h' fun slot hslot hle => hroomy slot (by omega) (by omega)
      · obtain ⟨socket, hsocket⟩ : ∃ socket, sif₀.getSocket s = some socket := by
          rcases hsocket : sif₀.getSocket s with _ | socket
          · exact absurd (fun socket hmem => by rw [hsocket] at hmem; cases hmem) hpasses
          · exact ⟨socket, rfl⟩
        have hstop := h.stop hsocket (hroomy s (by omega) (Nat.le_refl s) h.passes socket hsocket)
          hpasses (List.range' (s + 1) n)
        have htotal := (h.wellSized hsize).total_le
        rw [h.capacity_eq] at htotal
        refine ⟨false, sif, hstop, ?_, htotal, ?_⟩
        · rw [filter_takes_of_not_passes hpasses]
          exact h.added
        · simp only [Bool.false_eq_true, false_iff, not_forall]
          exact ⟨s, by omega, hpasses⟩

/-- If the loop returns, there is room at every slot it comes to. -/
lemma At.roomy_of_returns (hsize : sif₀.iface.WellSized)
    (hbuf : ∀ slot, ∀ socket ∈ sif₀.getSocket slot, socket.dataLength ≤ socket.dataBuf.length)
    {n : ℕ} (h : sif₀.At s sif) {r : Bool × SocketInterface D N}
    (hr : enqueueSlots (List.range' s n) (sif₀.rank s) sif = .ok r) :
    ∀ slot < s + n, s ≤ slot → (∀ l < slot, sif₀.Passes l) →
      ∀ socket ∈ sif₀.getSocket slot, sif₀.Roomy slot socket := by
  induction n generalizing s sif with
  | zero => exact fun slot hlt hle => absurd hlt (Nat.not_lt.mpr hle)
  | succ n ih =>
      rw [List.range'_succ] at hr
      have hroomy : ∀ socket ∈ sif₀.getSocket s, sif₀.Roomy s socket := by
        intro socket hsocket
        by_contra hnot
        obtain ⟨e, he⟩ := h.panics hsize hsocket hnot (List.range' (s + 1) n)
        cases he.symm.trans hr
      intro slot hlt hle hpasses
      rcases Nat.eq_or_lt_of_le hle with rfl | hgt
      · exact hroomy
      · obtain ⟨sif', h', hturn⟩ :=
          h.turn hsize (hbuf s) (hpasses s hgt) hroomy (List.range' (s + 1) n)
        exact ih h' (hturn.symm.trans hr) slot (by omega) hgt hpasses

end

/-- All pending sockets are taken, or the loop stops in front of one. -/
lemma filter_takes_eq_iff (sif : SocketInterface D N) :
    (List.range N).filter sif.Takes = sif.pendingSlots ↔
      ∀ slot < N, sif.HoldsPending slot → ∀ l < slot + 1, sif.Passes l := by
  rw [pendingSlots]
  constructor
  · intro heq slot hslot hpending
    have hmem : slot ∈ (List.range N).filter sif.HoldsPending := by simp [hslot, hpending]
    rw [← heq, List.mem_filter] at hmem
    exact (of_decide_eq_true hmem.2).2
  · intro h
    apply List.filter_congr
    intro slot hslot
    rw [List.mem_range] at hslot
    rw [decide_eq_decide, takes_iff]
    exact and_iff_left_of_imp (h slot hslot)

/-- The answer is right exactly if no stop is in vain. -/
lemma complete_iff (sif : SocketInterface D N) :
    ((∀ l < N, sif.Passes l) ↔ (List.range N).filter sif.Takes = sif.pendingSlots) ↔
      ∀ slot < N, (∀ l < slot, sif.Passes l) → ¬ sif.Passes slot →
        ∃ later ∈ sif.pendingSlots, slot ≤ later := by
  rw [filter_takes_eq_iff]
  constructor
  · intro hiff slot hslot hbelow hnot
    by_contra hnone
    refine hnot (hiff.mpr (fun l hl hpending k hk => ?_) slot hslot)
    -- a pending slot lies below the one where the loop stops
    have hlt : l < slot := by
      by_contra hge
      exact hnone ⟨l, by simp [pendingSlots, hl, hpending], Nat.le_of_not_lt hge⟩
    exact hbelow k (by omega)
  · intro h
    refine ⟨fun hall slot hslot _ l hl => hall l (by omega), fun htaken => ?_⟩
    by_contra hnot
    -- the first slot that is not passed
    have hex : ∃ l, l < N ∧ ¬ sif.Passes l := by
      by_contra hcon
      exact hnot fun l hl => by_contra fun hp => hcon ⟨l, hl, hp⟩
    obtain ⟨hfirst, hstops⟩ := Nat.find_spec hex
    have hbelow : ∀ l < Nat.find hex, sif.Passes l := by
      intro l hl
      by_contra hp
      exact Nat.find_min hex hl ⟨by omega, hp⟩
    obtain ⟨later, hlater, hle⟩ := h _ hfirst hbelow hstops
    rw [pendingSlots, List.mem_filter, List.mem_range] at hlater
    exact hstops (htaken later hlater.1 (of_decide_eq_true hlater.2) _ (by omega))

/-- **Enqueuing.**  For every mix of sockets and every amount of data in the PDU buffer: the call
returns, adds a prefix of the pending sockets' datagrams and says whether these are all, exactly
under the condition `Enqueuable`. -/
theorem enqueuePdus_enqueuesPrefix_iff (sif : SocketInterface D N) (hsize : sif.iface.WellSized)
    (hbuf : ∀ slot, ∀ socket ∈ sif.getSocket slot, socket.dataLength ≤ socket.dataBuf.length) :
    sif.EnqueuesPrefix ↔ sif.Enqueuable := by
  have hrange : List.range N = List.range' 0 N := List.range_eq_range'
  have hcomplete := sif.complete_iff
  have hinitial : (List.range N).filter sif.Takes <+: sif.pendingSlots := sif.filter_takes_prefix N
  constructor
  · rintro ⟨complete, sif', added, henqueue, hadded, hAdded, -, hiff⟩
    rw [enqueuePdus, hrange] at henqueue
    have hroomy := (At.zero sif).roomy_of_returns hsize hbuf henqueue
    obtain ⟨complete', sif'', hrun, hAdded', -, hiff'⟩ := (At.zero sif).run hsize hbuf hroomy
    cases henqueue.symm.trans hrun
    rw [Nat.zero_add] at hroomy hAdded' hiff'
    -- both lists are the first so many of the pending slots
    have hlength : added.length = ((List.range N).filter sif.Takes).length := by
      have hcount := hAdded.iface_eq.symm.trans hAdded'.iface_eq
      simp only [PduInterface.mk.injEq] at hcount
      omega
    have hsame : added = (List.range N).filter sif.Takes :=
      (List.prefix_of_prefix_length_le hadded hinitial (Nat.le_of_eq hlength)).eq_of_length hlength
    have hstops := hcomplete.mp (hiff'.symm.trans (hiff.trans (by rw [hsame])))
    exact fun slot hslot hbelow socket hsocket =>
      ⟨hroomy slot hslot (Nat.zero_le _) hbelow socket hsocket, hstops slot hslot hbelow⟩
  · intro h
    obtain ⟨complete, sif', hrun, hAdded, htotal, hiff⟩ := (At.zero sif).run (n := N) hsize hbuf
      fun slot hslot _ hbelow socket hsocket => (h slot (by omega) hbelow socket hsocket).1
    rw [Nat.zero_add] at hAdded hiff
    have hstops : ∀ slot < N, (∀ l < slot, sif.Passes l) → ¬ sif.Passes slot →
        ∃ later ∈ sif.pendingSlots, slot ≤ later := by
      intro slot hslot hbelow hnot
      rcases hsocket : sif.getSocket slot with _ | socket
      · exact absurd (fun socket hmem => by rw [hsocket] at hmem; cases hmem) hnot
      · exact (h slot hslot hbelow socket hsocket).2 hnot
    refine ⟨complete, sif', _, ?_, hinitial, hAdded, htotal, hiff.trans (hcomplete.mpr hstops)⟩
    rw [enqueuePdus, hrange]
    exact hrun

/-- A socket with a read request of `length` bytes, sent and answered or not. -/
def readSocket (length : ℕ) (answered : Bool) : PduSocket where
  command := some (.newRead (.single (.stationAddress 1)) 0x0130)
  dataBuf := List.replicate length 0
  wkc := 0
  dataLength := length
  recvFlag := answered

/-- An interface with these sockets and nothing enqueued. -/
def withSockets (bufferLength : ℕ) (sockets : Vector PduSocket N) : SocketInterface Unit N :=
  ⟨.new () (List.replicate bufferLength 0), ⟨N, sockets.map .exist⟩⟩

/-- The condition and what it gives, for an answered socket between two pending ones. -/
theorem enqueuePdus_enqueuesPrefix_iff_threeSockets :
    (withSockets 64
      #v[readSocket 4 false, readSocket 8 true, readSocket 20 false]).EnqueuesPrefix := by
  set sif := withSockets 64 #v[readSocket 4 false, readSocket 8 true, readSocket 20 false] with hsif
  have hbuf : ∀ slot < 3, ∀ socket ∈ sif.getSocket slot,
      socket.dataLength ≤ socket.dataBuf.length := by decide +kernel
  refine (enqueuePdus_enqueuesPrefix_iff sif (PduInterface.new_wellSized () _) ?_).mpr ?_
  · exact fun slot socket h => hbuf slot (lt_of_getSocket h) socket h
  · decide +kernel

/-- An idle socket behind a datagram that leaves less than twelve bytes, a datagram that fills the
buffer, and an answered socket with more data than there is room for: the first two make
`enqueue_pdus` panic, and with the third it says `false` although nothing is pending any more. -/
theorem enqueuePdus_fails_near_capacity :
    ((withSockets 28 #v[readSocket 5 false, .new []]).enqueuePdus.map Prod.fst) =
        .error .arithmetic ∧
      ((withSockets 28 #v[readSocket 16 false]).enqueuePdus.map Prod.fst) = .error .index ∧
      ((withSockets 60 #v[readSocket 30 false, readSocket 10 true]).enqueuePdus.map
        fun r => (r.1, r.2.pendingSlots)) = .ok (false, []) := by
  decide +kernel

end SocketInterface

end EtherCat
