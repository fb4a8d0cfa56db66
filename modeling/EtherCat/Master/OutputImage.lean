import EtherCat.Foundation.Covered
import EtherCat.Master.CycleReturns
import EtherCat.Slave.EntryAccess

/-!
# The output image

The buffer of the process data is at once the image that `write_pdo` changes, the data of the next
PDU, and the place where its response lands.  A write between a response and the next PDU is sent
with that PDU and all later ones (`writePdo_carried`).  A write while the PDU is under way is lost
with the response, which puts the bits back that were sent (`writePdo_overwritten`).
-/

namespace EtherCat

open Rust Rust.Exec BitField

namespace LogicalBits

/-- A bit of the entry, counted from the start of the image. -/
def bitPos (bits : LogicalBits) (k : ℕ) : ℕ :=
  8 * bits.offset logicalStartAddress + (bits.startBit.toNat + k)

/-- The bits of the image that belong to the entry. -/
def InEntry (bits : LogicalBits) (j : ℕ) : Prop := ∃ k < bits.bitLength.toNat, j = bits.bitPos k

/-- The bits of a value, at their places in the image. -/
def entryBit (bits : LogicalBits) (value : List UInt8) (j : ℕ) : Bool :=
  bitAt value (j - bits.bitPos 0)

@[simp] lemma entryBit_bitPos (bits : LogicalBits) (value : List UInt8) (k : ℕ) :
    bits.entryBit value (bits.bitPos k) = bitAt value k := by
  rw [entryBit, bitPos, bitPos, show 8 * bits.offset logicalStartAddress +
    (bits.startBit.toNat + k) - (8 * bits.offset logicalStartAddress + (bits.startBit.toNat + 0)) =
      k by omega]

lemma startBit_lt_of_writeByte {bits : LogicalBits} {pdoOffset size i : ℕ}
    {buf image image' : List UInt8} (h : bits.writeByte pdoOffset size buf i image = .ok image') :
    bits.startBit.toNat < 8 := by
  obtain ⟨_, -, h⟩ := bind_eq_ok.mp h
  obtain ⟨_, -, h⟩ := bind_eq_ok.mp h
  obtain ⟨_, -, h⟩ := bind_eq_ok.mp h
  obtain ⟨shifted, hshift, -⟩ := bind_eq_ok.mp h
  exact (check_eq_ok_iff.mp hshift).1

/-- A write that succeeds found the entry in the image. -/
lemma lies_of_writeFromBuffer {bits : LogicalBits} {logicalAddressOffset : UInt32}
    {image image' buf : List UInt8} (hbit : 1 ≤ bits.bitLength.toNat)
    (h : bits.writeFromBuffer logicalAddressOffset image buf = .ok (some (), image')) :
    bits.Lies logicalAddressOffset image := by
  rw [writeFromBuffer] at h
  obtain ⟨size, hsize, h⟩ := bind_eq_ok.mp h
  rw [byteLength_eq (lt_of_byteLength_eq_ok hsize)] at hsize
  cases hsize
  rcases haddress : bits.logicalAddress with _ | address
  · rw [haddress] at h
    cases h
  rw [haddress] at h
  obtain ⟨pdoOffset, hoffset, h⟩ := bind_eq_ok.mp h
  obtain ⟨hle, rfl⟩ := sub_eq_ok_iff.mp hoffset
  obtain ⟨last, hlast, h⟩ := bind_eq_ok.mp h
  obtain ⟨hpos, rfl⟩ := sub_eq_ok_iff.mp hlast
  split at h
  · cases h
  next lastByte hbyte =>
    have hlt := (List.getElem?_eq_some_iff.mp hbyte).1
    obtain ⟨t, hloop, -⟩ := bind_eq_ok.mp h
    have htouched : 1 ≤ bits.touched := by
      rw [touched]
      omega
    obtain ⟨n, hn⟩ := Nat.exists_eq_add_of_le' htouched
    rw [hn] at hloop
    obtain ⟨s, hturn⟩ := exists_last_of_foldlM hloop
    refine ⟨by rw [haddress]; rfl, startBit_lt_of_writeByte hturn, hbit, ?_, ?_⟩
    · rw [haddress]
      exact hle
    · rw [offset_of_address haddress]
      omega

/-- The bits of the entry are those of the buffer. -/
lemma bitAt_of_writeFromBuffer {bits : LogicalBits} {image image' buf : List UInt8}
    (hbit : 1 ≤ bits.bitLength.toNat)
    (h : bits.writeFromBuffer logicalStartAddress image buf = .ok (some (), image')) {k : ℕ}
    (hk : k < bits.bitLength.toNat) : bitAt image' (bits.bitPos k) = bitAt buf k := by
  have hlies := lies_of_writeFromBuffer hbit h
  obtain ⟨hlt, hsource⟩ := le_of_writeFromBuffer_eq_ok hlies h
  obtain ⟨image'', hwrite, -, hget⟩ := exists_writeFromBuffer hlies hlt hsource
  cases h.symm.trans hwrite
  have hj : bits.startBit.toNat + k < 8 * bits.touched := by
    rw [touched]
    omega
  have hbits := (bitAt_writeFromBuffer hlies hget).1 _ hj
  have hcleared : ¬ (bits.startBit.toNat + k < bits.startBit.toNat ∨
      bits.startBit.toNat + bits.bitLength.toNat ≤ bits.startBit.toNat + k ∧ bits.touched ≠ 1) := by
    omega
  rw [decide_eq_false hcleared, Bool.and_false, Bool.false_or,
    decide_eq_true (Nat.le_add_right _ _), Bool.true_and, Nat.add_sub_cancel_left] at hbits
  exact hbits

end LogicalBits

/-! ## Data with given bits -/

/-- The data have these bits in the range, as far as they go. -/
def Agrees (range : ℕ → Prop) (value : ℕ → Bool) (data : List UInt8) : Prop :=
  ∀ j, range j → j < 8 * data.length → bitAt data j = value j

section
variable {range : ℕ → Prop} {value : ℕ → Bool} {data data' : List UInt8}

lemma Agrees.take (h : Agrees range value data) (n : ℕ) : Agrees range value (data.take n) := by
  intro j hrange hj
  rw [List.length_take] at hj
  rw [bitAt_take (by omega)]
  exact h j hrange (by omega)

/-- A response over the data. -/
lemma Agrees.overwrite (h : ∀ j, range j → 8 * data'.length ≤ j → j < 8 * data.length →
      bitAt data j = value j) (h' : Agrees range value data') :
    Agrees range value (Rust.overwrite data data') := by
  intro j hrange hj
  rw [length_overwrite] at hj
  rw [bitAt, List.getD_eq_getElem?_getD, overwrite_getElem?]
  split
  · next hin =>
      have hbit := h' j hrange (by omega)
      rwa [bitAt, List.getD_eq_getElem?_getD] at hbit
  · next hout =>
      have hbit := h j hrange (by omega) hj
      rwa [bitAt, List.getD_eq_getElem?_getD] at hbit

end

namespace CyclicState

/-- The process data. -/
def image (s : CyclicState) : List UInt8 := (s.socket .processData).dataBuf

/-- The slaves return the bits in the range as they have received them, and no write touches
them. -/
def Keeps (range : ℕ → Prop) (s : CyclicState) : CyclicEvent → Prop
  | .recieve .processData response => ∃ sent, s.underWay .processData = some sent ∧
    response.data.length = sent.data.length ∧ Agrees range (bitAt sent.data) response.data
  | .writePdo slaveAddress pdoMapIndex pdoEntryIndex data => ∀ s',
    s.step (.writePdo slaveAddress pdoMapIndex pdoEntryIndex data) = .ok s' →
      ∀ j, range j → bitAt s'.image j = bitAt s.image j
  | _ => True

/-- **The invariant**: image and PDU have the bits. -/
structure Carries (range : ℕ → Prop) (value : ℕ → Bool) (s : CyclicState) : Prop where
  registered : s.isRegistered = true
  image : Agrees range value s.image
  underWay : ∀ sent, s.underWay .processData = some sent → Agrees range value sent.data

/-- A part of the master that leaves the process data alone. -/
structure SameImage (s s' : CyclicState) : Prop where
  image : s'.image = s.image
  registered : s'.isRegistered = s.isRegistered

lemma SameImage.trans {s s' s'' : CyclicState} (h : SameImage s s') (h' : SameImage s' s'') :
    SameImage s s'' := ⟨h'.image.trans h.image, h'.registered.trans h.registered⟩

section
variable {s s' : CyclicState} {range : ℕ → Prop} {value : ℕ → Bool}

lemma sameImage_processTask {T : Type} [CyclicTask T] {name : SocketName} {task task' : T}
    {sysTime : ℕ} (h : s.processTask name task sysTime = .ok (task', s'))
    (hname : name ≠ .processData) : SameImage s s' := by
  obtain ⟨⟨task₁, socket⟩, -, heq⟩ := bind_eq_ok.mp h
  cases heq
  refine ⟨?_, rfl⟩
  rw [image, setSocket]
  exact congrArg PduSocket.dataBuf (Function.update_of_ne hname.symm _ _)

lemma sameImage_processData {sysTime : ℕ} (h : s.processData sysTime = .ok s') :
    SameImage s s' := by
  rw [processData] at h
  split at h
  · obtain ⟨⟨task, s₁⟩, hprocess, h⟩ := bind_eq_ok.mp h
    obtain ⟨⟨manager, mbSocket⟩, -, h⟩ := bind_eq_ok.mp h
    obtain ⟨manager', -, heq⟩ := bind_eq_ok.mp h
    cases heq
    have hsame := dataBuf_processTask hprocess
    obtain ⟨⟨task₁, socket⟩, -, heq⟩ := bind_eq_ok.mp hprocess
    cases heq
    exact ⟨hsame, rfl⟩
  · cases h
    exact ⟨rfl, rfl⟩

/-- **A cycle leaves the process data alone.** -/
lemma sameImage_cycle {sysTime : ℕ} (h : s.cycle sysTime = .ok s') : SameImage s s' := by
  obtain ⟨s₁, h₁, h⟩ := bind_eq_ok.mp h
  obtain ⟨s₂, h₂, h⟩ := bind_eq_ok.mp h
  obtain ⟨s₃, h₃, h⟩ := bind_eq_ok.mp h
  obtain ⟨s₄, h₄, h⟩ := bind_eq_ok.mp h
  obtain ⟨s₅, h₅, heq⟩ := bind_eq_ok.mp h
  cases heq
  have hdc : SameImage s₁ s₂ := by
    rw [compDcDrift] at h₂
    split at h₂
    · cases h₂
      exact ⟨rfl, rfl⟩
    · obtain ⟨⟨task, s'⟩, hprocess, heq⟩ := bind_eq_ok.mp h₂
      cases heq
      have hsame := sameImage_processTask hprocess (by decide)
      exact ⟨hsame.image, hsame.registered⟩
  have hrx : SameImage s₂ s₃ := by
    obtain ⟨⟨task, s'⟩, hprocess, heq⟩ := bind_eq_ok.mp h₃
    cases heq
    have hsame := sameImage_processTask hprocess (by decide)
    exact ⟨hsame.image, hsame.registered⟩
  have hal : SameImage s₃ s₄ := by
    obtain ⟨⟨task, s'⟩, hprocess, heq⟩ := bind_eq_ok.mp h₄
    cases heq
    have hsame := sameImage_processTask hprocess (by decide)
    exact ⟨hsame.image, hsame.registered⟩
  have htf : SameImage s₄ s₅ := by
    obtain ⟨⟨task, s'⟩, hprocess, heq⟩ := bind_eq_ok.mp h₅
    cases heq
    have hsame := sameImage_processTask hprocess (by decide)
    exact ⟨hsame.image, hsame.registered⟩
  have hsame := ((((sameImage_processData h₁).trans hdc).trans hrx).trans hal).trans htf
  exact ⟨hsame.image, hsame.registered⟩

lemma sameImage_registerProcessDataBuffer {buf : List UInt8} {isTaken : Bool}
    (hregistered : s.isRegistered = true)
    (h : s.registerProcessDataBuffer buf = .ok (isTaken, s')) : SameImage s s' := by
  rw [registerProcessDataBuffer] at h
  split at h
  · cases h
    exact ⟨rfl, rfl⟩
  cases h

lemma sameImage_requestMailbox {slave : Slave} {message : Mailbox}
    {sessionId : Option MailboxSessionId}
    (h : s.requestMailbox slave message = .ok (sessionId, s')) : SameImage s s' := by
  rw [requestMailbox] at h
  split at h
  · cases h
    exact ⟨rfl, rfl⟩
  · obtain ⟨⟨id, task, slave', dataBuf⟩, -, heq⟩ := bind_eq_ok.mp h
    cases heq
    exact ⟨rfl, rfl⟩

lemma Carries.same (h : s.Carries range value) (hsame : SameImage s s')
    (hunderWay : s'.underWay .processData = s.underWay .processData ∨
      s'.underWay .processData = none) : s'.Carries range value where
  registered := hsame.registered.trans h.registered
  image := hsame.image ▸ h.image
  underWay sent hsent := by
    rcases hunderWay with heq | hnone
    · exact h.underWay sent (heq ▸ hsent)
    · rw [hnone] at hsent
      cases hsent

/-! ## What the events keep -/

/-- The PDU that is handed over has the bits. -/
lemma Carries.handedOver (h : s.Carries range value) {event : CyclicEvent} {pdu : Pdu}
    (hpdu : pdu ∈ s.handedOver .processData event) : Agrees range value pdu.data := by
  obtain ⟨-, -, command, -, rfl⟩ := eq_taken_of_mem_handedOver hpdu
  exact h.image.take _

lemma Carries.take (h : s.Carries range value) {name : SocketName}
    (hstep : s.step (.take name) = .ok s') : s'.Carries range value := by
  have htaken : ∀ pdu ∈ s.handedOver .processData (.take name), Agrees range value pdu.data :=
    fun pdu => h.handedOver
  obtain ⟨⟨taken, socket⟩, htake, heq⟩ := bind_eq_ok.mp hstep
  cases heq
  by_cases hname : name = .processData
  · subst hname
    have himage : socket.dataBuf = s.image := by
      rcases PduSocket.takePdu_eq_ok htake with ⟨-, -, rfl⟩ | ⟨command, -, -, -, -, rfl⟩ <;> rfl
    refine ⟨h.registered, ?_, ?_⟩
    · change Agrees range value (Function.update s.socket .processData socket .processData).dataBuf
      rw [Function.update_self, himage]
      exact h.image
    · intro sent hsent
      change Function.update s.underWay .processData (taken <|> s.underWay .processData)
        .processData = some sent at hsent
      rw [Function.update_self] at hsent
      rcases taken with _ | pdu
      · exact h.underWay sent hsent
      · refine htaken sent ?_
        rw [handedOver_take htake, Option.some.inj hsent]
        exact List.mem_singleton_self sent
  · refine h.same ⟨?_, rfl⟩ (.inl (Function.update_of_ne (Ne.symm hname) _ _))
    exact congrArg PduSocket.dataBuf (Function.update_of_ne (Ne.symm hname) _ _)

/-- A response brings the bits back. -/
lemma Carries.recieve (h : s.Carries range value) {name : SocketName} {response : Pdu}
    (hkeeps : s.Keeps range (.recieve name response))
    (hstep : s.step (.recieve name response) = .ok s') : s'.Carries range value := by
  cases hstep
  by_cases hname : name = .processData
  · subst hname
    obtain ⟨sent, hsent, hlength, hagrees⟩ := hkeeps
    refine ⟨h.registered, ?_, ?_⟩
    · change Agrees range value
        (Function.update s.socket .processData _ .processData).dataBuf
      rw [Function.update_self]
      refine Agrees.overwrite (fun j hrange _ hj => h.image j hrange hj) fun j hrange hj => ?_
      rw [hagrees j hrange hj]
      exact h.underWay sent hsent j hrange (hlength ▸ hj)
    · intro sent' hsent'
      change Function.update s.underWay .processData none .processData = some sent' at hsent'
      rw [Function.update_self] at hsent'
      cases hsent'
  · refine h.same ⟨?_, rfl⟩ (.inl (Function.update_of_ne (Ne.symm hname) _ _))
    exact congrArg PduSocket.dataBuf (Function.update_of_ne (Ne.symm hname) _ _)

lemma Carries.writePdo (h : s.Carries range value) {slaveAddress : SlaveAddress}
    {pdoMapIndex pdoEntryIndex : ℕ} {data : List UInt8}
    (hkeeps : s.Keeps range (.writePdo slaveAddress pdoMapIndex pdoEntryIndex data))
    (hstep : s.step (.writePdo slaveAddress pdoMapIndex pdoEntryIndex data) = .ok s') :
    s'.Carries range value := by
  have hbits := hkeeps s' hstep
  obtain ⟨⟨result, s₁⟩, hwrite, heq⟩ := bind_eq_ok.mp hstep
  cases heq
  rw [CyclicState.writePdo, if_pos h.registered] at hwrite
  obtain ⟨entry, -, hwrite⟩ := bind_eq_ok.mp hwrite
  rcases entry with _ | pdoEntry
  · cases hwrite
    exact h
  obtain ⟨⟨result', dataBuf⟩, hentry, heq⟩ := bind_eq_ok.mp hwrite
  cases heq
  have hlength := LogicalBits.length_writeFromBuffer hentry
  refine ⟨h.registered, fun j hrange hj => ?_, h.underWay⟩
  rw [hbits j hrange]
  exact h.image j hrange (hlength ▸ hj)

/-- **Every event keeps the bits.** -/
lemma Carries.step (h : s.Carries range value) {event : CyclicEvent}
    (hkeeps : s.Keeps range event) (hstep : s.step event = .ok s') : s'.Carries range value := by
  cases event with
  | take name => exact h.take hstep
  | recieve name response => exact h.recieve hkeeps hstep
  | writePdo => exact h.writePdo hkeeps hstep
  | cycle sysTime =>
      refine h.same (sameImage_cycle hstep) (.inr ?_)
      obtain ⟨s₁, -, hstep⟩ := bind_eq_ok.mp hstep
      obtain ⟨s₂, -, hstep⟩ := bind_eq_ok.mp hstep
      obtain ⟨s₃, -, hstep⟩ := bind_eq_ok.mp hstep
      obtain ⟨s₄, -, hstep⟩ := bind_eq_ok.mp hstep
      obtain ⟨s₅, -, heq⟩ := bind_eq_ok.mp hstep
      cases heq
      rfl
  | fillGp | setImage | setAlStateTarget =>
      cases hstep
      exact h.same ⟨rfl, rfl⟩ (.inl rfl)
  | useGp =>
      cases hstep
      exact h.same ⟨rfl, rfl⟩ (.inr rfl)
  | setDcTask =>
      obtain ⟨dcTask, -, heq⟩ := bind_eq_ok.mp hstep
      cases heq
      exact h.same ⟨rfl, rfl⟩ (.inl rfl)
  | registerProcessDataBuffer buf =>
      obtain ⟨⟨isTaken, s₁⟩, hregister, heq⟩ := bind_eq_ok.mp hstep
      cases heq
      refine h.same (sameImage_registerProcessDataBuffer h.registered hregister) (.inl ?_)
      rw [registerProcessDataBuffer, h.registered] at hregister
      split at hregister <;> cases hregister
      rfl
  | requestMailbox slave message =>
      obtain ⟨⟨sessionId, s₁⟩, hrequest, heq⟩ := bind_eq_ok.mp hstep
      cases heq
      refine h.same (sameImage_requestMailbox hrequest) (.inl ?_)
      rw [requestMailbox] at hrequest
      split at hrequest
      · cases hrequest
        rfl
      · obtain ⟨_, -, heq⟩ := bind_eq_ok.mp hrequest
        cases heq
        rfl
  | requestAlState alState =>
      cases hstep
      rw [requestAlState]
      split <;> exact h.same ⟨rfl, rfl⟩ (.inl rfl)


/-! ## Runs -/

/-- **The run**: every process data PDU on the way has the bits. -/
lemma Carries.of_mem_log (h : s.Carries range value) {events : List CyclicEvent}
    (hkeeps : Transition.Along CyclicState.step (Keeps range) s events) {pdu : Pdu}
    (hpdu : pdu ∈ s.sentPdus .processData events) :
    Agrees range value pdu.data :=
  Transition.forall_mem_log (Carries range value) (fun _ _ h _ _ => h.handedOver)
    (fun _ _ _ h => h.step) h hkeeps pdu hpdu

end

/-- A PDU has the value in the entry, as far as it goes. -/
def HasValue (bits : LogicalBits) (value pdu : List UInt8) : Prop :=
  ∀ k < bits.bitLength.toNat, bits.bitPos k < 8 * pdu.length →
    bitAt pdu (bits.bitPos k) = bitAt value k

section
variable {s s₁ : CyclicState} {slaveAddress : SlaveAddress} {pdoMapIndex pdoEntryIndex : ℕ}
  {data : List UInt8} {pdoEntry : PdoEntry}

lemma agrees_inEntry_iff {bits : LogicalBits} {value data : List UInt8} :
    Agrees bits.InEntry (bits.entryBit value) data ↔ HasValue bits value data := by
  constructor
  · intro h k hk hj
    rw [h _ ⟨k, hk, rfl⟩ hj, LogicalBits.entryBit_bitPos]
  · rintro h j ⟨k, hk, rfl⟩ hj
    rw [h k hk hj, LogicalBits.entryBit_bitPos]

/-- What a write does. -/
lemma writePdo_spec
    (hentry : EtherCatMaster.pdoEntry s.network 0 slaveAddress pdoMapIndex pdoEntryIndex =
      .ok (some pdoEntry))
    (hwrite : s.writePdo slaveAddress pdoMapIndex pdoEntryIndex data = .ok (some (), s₁)) :
    s.isRegistered = true ∧ ∃ dataBuf : List UInt8,
      pdoEntry.logicalBits.writeFromBuffer logicalStartAddress s.image data =
        .ok (some (), dataBuf) ∧
      s₁ = s.setSocket .processData { s.socket .processData with dataBuf := dataBuf } := by
  rw [writePdo] at hwrite
  split at hwrite
  · next hregistered =>
      rw [hentry, ok_bind] at hwrite
      obtain ⟨⟨result, dataBuf⟩, hbits, heq⟩ := bind_eq_ok.mp hwrite
      cases heq
      exact ⟨hregistered, _, hbits, rfl⟩
  · cases hwrite

/-- A write with nothing under way. -/
lemma carries_of_writePdo
    (hentry : EtherCatMaster.pdoEntry s.network 0 slaveAddress pdoMapIndex pdoEntryIndex =
      .ok (some pdoEntry))
    (hbit : 1 ≤ pdoEntry.logicalBits.bitLength.toNat)
    (hwrite : s.writePdo slaveAddress pdoMapIndex pdoEntryIndex data = .ok (some (), s₁))
    (hidle : s.underWay .processData = none) :
    s₁.Carries pdoEntry.logicalBits.InEntry (pdoEntry.logicalBits.entryBit data) := by
  obtain ⟨hregistered, dataBuf, hbits, rfl⟩ := writePdo_spec hentry hwrite
  refine ⟨hregistered, ?_, ?_⟩
  · exact agrees_inEntry_iff.mpr fun k hk _ => LogicalBits.bitAt_of_writeFromBuffer hbit hbits hk
  · intro sent hsent
    cases hidle.symm.trans hsent

/-- **A write is sent with the next process data PDU and all later ones**, if none was under way at
the write, the slaves return the bits of the entry as they have received them, and no later write
touches them. -/
theorem writePdo_carried (s s₁ : CyclicState) (slaveAddress : SlaveAddress)
    (pdoMapIndex pdoEntryIndex : ℕ) (data : List UInt8) (pdoEntry : PdoEntry)
    (events : List CyclicEvent)
    (hentry : EtherCatMaster.pdoEntry s.network 0 slaveAddress pdoMapIndex pdoEntryIndex =
      .ok (some pdoEntry))
    (hbit : 1 ≤ pdoEntry.logicalBits.bitLength.toNat)
    (hwrite : s.writePdo slaveAddress pdoMapIndex pdoEntryIndex data = .ok (some (), s₁))
    (hidle : s.underWay .processData = none)
    (hkeeps : Transition.Along step (Keeps pdoEntry.logicalBits.InEntry) s₁ events) :
    ∀ pdu ∈ s₁.sentPdus .processData events,
      HasValue pdoEntry.logicalBits data pdu.data := fun _ hpdu =>
  agrees_inEntry_iff.mp ((carries_of_writePdo hentry hbit hwrite hidle).of_mem_log hkeeps hpdu)

end

/-- An output byte at the start of the image. -/
def outputByte : PdoEntry := ⟨⟨some logicalStartAddress, 0, 8⟩, 0x7000, 1⟩

/-- A slave with an output byte. -/
def outputSlave : PdoImage where
  network := ⟨[(some .default,
    { SlaveConfig.default with outputPdoMappings := [⟨true, 0x1600, [outputByte]⟩] })], 1⟩
  processDataTask := .new logicalStartAddress 2 1

/-- The PDU of an image of one byte. -/
def outputPdu (byte : UInt8) : Pdu := ⟨.newLogicalReadWrite logicalStartAddress, [byte], 0⟩

/-- The slave is configured, and the buffer registered with this byte in it. -/
def outputState (byte : UInt8) : CyclicState :=
  { start [] (List.replicate 1024 0) with
    network := outputSlave.network
    processDataTask := outputSlave.processDataTask
    isRegistered := true
    socket := Function.update (start [] (List.replicate 1024 0)).socket .processData (.new [byte]) }

lemma writePdo_outputState : (outputState 0).writePdo (.slavePosition 0) 0 0 [5] =
    .ok (some (), outputState 5) := by
  have hwrite : (outputState 0).writePdo (.slavePosition 0) 0 0 [5] =
      .ok (some (), (outputState 0).setSocket .processData (.new [5])) := rfl
  rw [hwrite, setSocket, outputState, Function.update_idem]
  rfl

theorem writePdo_carried_twice :
    ((outputState 5).sentPdus .processData [.cycle 0, .take .processData,
      .recieve .processData (outputPdu 5), .cycle 1, .take .processData]).length = 2 ∧
    ∀ pdu ∈ (outputState 5).sentPdus .processData [.cycle 0, .take .processData,
      .recieve .processData (outputPdu 5), .cycle 1, .take .processData],
        HasValue outputByte.logicalBits [5] pdu.data := by
  refine ⟨by decide +kernel, ?_⟩
  refine writePdo_carried (outputState 0) (outputState 5) (.slavePosition 0) 0 0 [5] outputByte _
    rfl (by decide) writePdo_outputState rfl ?_
  refine ⟨trivial, fun s₁ h₁ => ⟨trivial, fun s₂ h₂ => ⟨?_, fun _ _ => ⟨trivial, fun _ _ =>
    ⟨trivial, fun _ _ => trivial⟩⟩⟩⟩⟩
  have hsent : (Transition.run step (outputState 5) [.cycle 0, .take .processData]).toOption.map
      (fun s => s.underWay .processData) = some (some (outputPdu 5)) := by
    decide +kernel
  have hrun : Transition.run step (outputState 5) [.cycle 0, .take .processData] = .ok s₂ :=
    Transition.run_cons_eq_ok_iff.mpr ⟨s₁, h₁, Transition.run_cons_eq_ok_iff.mpr ⟨s₂, h₂, rfl⟩⟩
  rw [hrun] at hsent
  exact ⟨outputPdu 5, Option.some.inj hsent, rfl, fun _ _ _ => rfl⟩

/-! ## While the PDU is under way -/

/-- A socket whose PDU is under way has no other PDU. -/
def OneOut (s : CyclicState) : Prop := ∀ name, (s.underWay name).isSome → ¬ (s.socket name).Pending

section
variable {s s' : CyclicState}

lemma OneOut.same (h : s.OneOut) {name : SocketName} {dataBuf : List UInt8} :
    (s.setSocket name { s.socket name with dataBuf := dataBuf }).OneOut := by
  intro name' hout
  change ¬ (Function.update s.socket name _ name').Pending
  by_cases hname : name' = name
  · subst hname
    rw [Function.update_self]
    exact h name' hout
  · rw [Function.update_of_ne hname]
    exact h name' hout

/-- **Every event keeps one PDU for each socket.** -/
lemma OneOut.step (h : s.OneOut) {event : CyclicEvent} (hstep : s.step event = .ok s') :
    s'.OneOut := by
  cases event with
  | take name =>
      obtain ⟨⟨taken, socket⟩, htake, heq⟩ := bind_eq_ok.mp hstep
      cases heq
      intro name' hout
      change (Function.update s.underWay name _ name').isSome at hout
      change ¬ (Function.update s.socket name socket name').Pending
      by_cases hname : name' = name
      · subst hname
        rw [Function.update_self] at hout ⊢
        rcases PduSocket.takePdu_eq_ok htake with ⟨hnot, -, rfl⟩ | ⟨command, -, -, -, -, rfl⟩
        · exact hnot
        · exact PduSocket.not_pending_taken _
      · rw [Function.update_of_ne hname] at hout ⊢
        exact h name' hout
  | recieve name response =>
      cases hstep
      intro name' hout
      change (Function.update s.underWay name none name').isSome at hout
      change ¬ (Function.update s.socket name _ name').Pending
      by_cases hname : name' = name
      · subst hname
        rw [Function.update_self] at hout
        cases hout
      · rw [Function.update_of_ne hname] at hout ⊢
        exact h name' hout
  | fillGp =>
      cases hstep
      exact h.same
  | useGp =>
      cases hstep
      rintro name' ⟨⟩
  | setImage | setAlStateTarget =>
      cases hstep
      exact h
  | setDcTask =>
      obtain ⟨dcTask, -, heq⟩ := bind_eq_ok.mp hstep
      cases heq
      exact h
  | cycle =>
      obtain ⟨s₁, -, hstep⟩ := bind_eq_ok.mp hstep
      obtain ⟨s₂, -, hstep⟩ := bind_eq_ok.mp hstep
      obtain ⟨s₃, -, hstep⟩ := bind_eq_ok.mp hstep
      obtain ⟨s₄, -, hstep⟩ := bind_eq_ok.mp hstep
      obtain ⟨s₅, -, heq⟩ := bind_eq_ok.mp hstep
      cases heq
      rintro name' ⟨⟩
  | registerProcessDataBuffer buf =>
      obtain ⟨⟨isTaken, s₁⟩, hregister, heq⟩ := bind_eq_ok.mp hstep
      cases heq
      rw [registerProcessDataBuffer] at hregister
      split at hregister
      · cases hregister
        exact h
      split at hregister
      · cases hregister
      cases hregister
      intro name' hout
      change ¬ (Function.update s.socket .processData (.new buf) name').Pending
      by_cases hname : name' = .processData
      · subst hname
        rw [Function.update_self]
        rintro ⟨-, ⟨⟩⟩
      · rw [Function.update_of_ne hname]
        exact h name' hout
  | writePdo slaveAddress pdoMapIndex pdoEntryIndex data =>
      obtain ⟨⟨result, s₁⟩, hwrite, heq⟩ := bind_eq_ok.mp hstep
      cases heq
      rw [writePdo] at hwrite
      split at hwrite
      · obtain ⟨entry, -, hwrite⟩ := bind_eq_ok.mp hwrite
        rcases entry with _ | pdoEntry
        · cases hwrite
          exact h
        obtain ⟨⟨result', dataBuf⟩, -, heq⟩ := bind_eq_ok.mp hwrite
        cases heq
        exact h.same
      · cases hwrite
        exact h
  | requestMailbox slave message =>
      obtain ⟨⟨sessionId, s₁⟩, hrequest, heq⟩ := bind_eq_ok.mp hstep
      cases heq
      rw [requestMailbox] at hrequest
      split at hrequest
      · cases hrequest
        exact h
      · obtain ⟨⟨id, task, slave', dataBuf⟩, -, heq⟩ := bind_eq_ok.mp hrequest
        cases heq
        exact h.same
  | requestAlState alState =>
      cases hstep
      rw [requestAlState]
      split <;> exact h

lemma oneOut_of_run {slaveBuf : List (Option Slave × SlaveConfig)} {socketBuffer : List UInt8}
    {events : List CyclicEvent}
    (hrun : Transition.run CyclicState.step (start slaveBuf socketBuffer) events = .ok s) :
    s.OneOut :=
  Transition.run_invariant OneOut (fun _ _ _ h _ => h.step) (by rintro name ⟨⟩)
    (Transition.along_of_forall (fun _ _ => True.intro) _ events) hrun

/-- The process data PDU stays under way. -/
def Waits : CyclicEvent → Prop
  | .cycle _ | .useGp _ | .recieve .processData _ => False
  | _ => True

/-- The PDU under way is this one. -/
structure OnTheWay (sent : Pdu) (s : CyclicState) : Prop where
  registered : s.isRegistered = true
  oneOut : s.OneOut
  underWay : s.underWay .processData = some sent

lemma OnTheWay.step {sent : Pdu} (h : s.OnTheWay sent) {event : CyclicEvent} (hwaits : Waits event)
    (hstep : s.step event = .ok s') : s'.OnTheWay sent := by
  have honeOut := h.oneOut.step hstep
  cases event with
  | cycle | useGp => exact hwaits.elim
  | take name =>
      obtain ⟨⟨taken, socket⟩, htake, heq⟩ := bind_eq_ok.mp hstep
      cases heq
      refine ⟨h.registered, honeOut, ?_⟩
      change Function.update s.underWay name _ .processData = some sent
      by_cases hname : name = .processData
      · subst hname
        have hnot := h.oneOut .processData (by rw [h.underWay]; rfl)
        rcases PduSocket.takePdu_eq_ok htake with ⟨-, rfl, -⟩ | ⟨command, hpending, -⟩
        · rw [Function.update_self]
          exact h.underWay
        · exact absurd hpending hnot
      · rw [Function.update_of_ne (Ne.symm hname)]
        exact h.underWay
  | recieve name response =>
      cases hstep
      refine ⟨h.registered, honeOut, ?_⟩
      change Function.update s.underWay name none .processData = some sent
      cases name with
      | processData => exact hwaits.elim
      | _ => exact h.underWay
  | fillGp | setImage | setAlStateTarget =>
      cases hstep
      exact ⟨h.registered, honeOut, h.underWay⟩
  | setDcTask =>
      obtain ⟨dcTask, -, heq⟩ := bind_eq_ok.mp hstep
      cases heq
      exact ⟨h.registered, honeOut, h.underWay⟩
  | registerProcessDataBuffer buf =>
      obtain ⟨⟨isTaken, s₁⟩, hregister, heq⟩ := bind_eq_ok.mp hstep
      cases heq
      rw [registerProcessDataBuffer, h.registered] at hregister
      split at hregister <;> cases hregister
      exact h
  | writePdo slaveAddress pdoMapIndex pdoEntryIndex data =>
      obtain ⟨⟨result, s₁⟩, hwrite, heq⟩ := bind_eq_ok.mp hstep
      cases heq
      rw [writePdo, if_pos h.registered] at hwrite
      obtain ⟨entry, -, hwrite⟩ := bind_eq_ok.mp hwrite
      rcases entry with _ | pdoEntry
      · cases hwrite
        exact h
      obtain ⟨⟨result', dataBuf⟩, -, heq⟩ := bind_eq_ok.mp hwrite
      cases heq
      exact ⟨h.registered, honeOut, h.underWay⟩
  | requestMailbox slave message =>
      obtain ⟨⟨sessionId, s₁⟩, hrequest, heq⟩ := bind_eq_ok.mp hstep
      cases heq
      rw [requestMailbox] at hrequest
      split at hrequest
      · cases hrequest
        exact h
      · obtain ⟨⟨id, task, slave', dataBuf⟩, -, heq⟩ := bind_eq_ok.mp hrequest
        cases heq
        exact ⟨h.registered, honeOut, h.underWay⟩
  | requestAlState alState =>
      cases hstep
      have hsame : (s.requestAlState alState).2.isRegistered = s.isRegistered ∧
          (s.requestAlState alState).2.underWay = s.underWay := by
        rw [requestAlState]
        split <;> exact ⟨rfl, rfl⟩
      exact ⟨hsame.1.trans h.registered, honeOut, (congrFun hsame.2 _).trans h.underWay⟩

/-- The response puts the bits back that were sent. -/
lemma OnTheWay.carries {sent response : Pdu} (h : s.OnTheWay sent) {range : ℕ → Prop}
    (hlong : ∀ j, range j → j < 8 * sent.data.length)
    (hlength : response.data.length = sent.data.length)
    (hagrees : Agrees range (bitAt sent.data) response.data)
    (hstep : s.step (.recieve .processData response) = .ok s') :
    s'.Carries range (bitAt sent.data) := by
  cases hstep
  refine ⟨h.registered, ?_, ?_⟩
  · change Agrees range _ (Function.update s.socket .processData _ .processData).dataBuf
    rw [Function.update_self]
    refine Agrees.overwrite (fun j hrange hj _ => ?_) hagrees
    have := hlong j hrange
    omega
  · intro sent' hsent'
    change Function.update s.underWay .processData none .processData = some sent' at hsent'
    rw [Function.update_self] at hsent'
    cases hsent'

end

/-- The data go as far as the entry. -/
def Holds (bits : LogicalBits) (data : List UInt8) : Prop :=
  bits.offset logicalStartAddress + bits.touched ≤ data.length

instance (bits : LogicalBits) (data : List UInt8) : Decidable (Holds bits data) :=
  inferInstanceAs (Decidable (_ ≤ _))

lemma lt_of_holds {bits : LogicalBits} {data : List UInt8} (h : Holds bits data) {k : ℕ}
    (hk : k < bits.bitLength.toNat) : bits.bitPos k < 8 * data.length := by
  rw [Holds, LogicalBits.touched] at h
  rw [LogicalBits.bitPos]
  omega

/-- **A write while the process data PDU is under way is lost with its response**: behind the
response, a process data PDU has the value that was written exactly if the PDU had it that was under
way. -/
theorem writePdo_overwritten (slaveBuf : List (Option Slave × SlaveConfig))
    (socketBuffer : List UInt8) (earlier waiting later : List CyclicEvent) (s s₁ s₂ : CyclicState)
    (slaveAddress : SlaveAddress) (pdoMapIndex pdoEntryIndex : ℕ) (data : List UInt8)
    (pdoEntry : PdoEntry) (sent response : Pdu)
    (hrun : Transition.run step (start slaveBuf socketBuffer) earlier = .ok s)
    (hentry : EtherCatMaster.pdoEntry s.network 0 slaveAddress pdoMapIndex pdoEntryIndex =
      .ok (some pdoEntry))
    (hwrite : s.writePdo slaveAddress pdoMapIndex pdoEntryIndex data = .ok (some (), s₁))
    (hsent : s.underWay .processData = some sent)
    (hlong : Holds pdoEntry.logicalBits sent.data)
    (hwaits : ∀ event ∈ waiting, Waits event)
    (hreturned : Transition.run step s₁ (waiting ++ [.recieve .processData response]) = .ok s₂)
    (hlength : response.data.length = sent.data.length)
    (hagrees : Agrees pdoEntry.logicalBits.InEntry (bitAt sent.data) response.data)
    (hkeeps : Transition.Along step (Keeps pdoEntry.logicalBits.InEntry) s₂ later) :
    ∀ pdu ∈ s₂.sentPdus .processData later, Holds pdoEntry.logicalBits pdu.data →
      (HasValue pdoEntry.logicalBits data pdu.data ↔
        HasValue pdoEntry.logicalBits data sent.data) := by
  obtain ⟨hregistered, dataBuf, -, rfl⟩ := writePdo_spec hentry hwrite
  have hway : (s.setSocket .processData { s.socket .processData with
      dataBuf := dataBuf }).OnTheWay sent :=
    ⟨hregistered, (oneOut_of_run hrun).same, hsent⟩
  obtain ⟨s', hwaiting, hreturned⟩ := Transition.run_append_eq_ok_iff.mp hreturned
  obtain ⟨s'', hstep, heq⟩ := Transition.run_cons_eq_ok_iff.mp hreturned
  cases heq
  have hkept : ∀ s event s', OnTheWay sent s → Waits event → step s event = .ok s' →
      OnTheWay sent s' := fun _ _ _ h => h.step
  have hreached := Transition.run_invariant_of_mem (OnTheWay sent) hkept hway hwaits hwaiting
  have hinside : ∀ j, pdoEntry.logicalBits.InEntry j → j < 8 * sent.data.length := by
    rintro j ⟨k, hk, rfl⟩
    exact lt_of_holds hlong hk
  have hcarries := hreached.carries hinside hlength hagrees hstep
  intro pdu hpdu hholds
  have hbits : ∀ k < pdoEntry.logicalBits.bitLength.toNat,
      bitAt pdu.data (pdoEntry.logicalBits.bitPos k) =
        bitAt sent.data (pdoEntry.logicalBits.bitPos k) := fun k hk =>
    hcarries.of_mem_log hkeeps hpdu _ ⟨k, hk, rfl⟩ (lt_of_holds hholds hk)
  constructor
  · intro h k hk _
    rw [← hbits k hk]
    exact h k hk (lt_of_holds hholds hk)
  · intro h k hk _
    rw [hbits k hk]
    exact h k hk (lt_of_holds hlong hk)

/-- Until the process data PDU is under way. -/
def untilUnderWay : List CyclicEvent :=
  [.setImage outputSlave, .registerProcessDataBuffer [0], .cycle 0, .take .processData]

theorem writePdo_lost :
    ∃ s s₁ s₂, Transition.run step (start [] (List.replicate 1024 0)) untilUnderWay = .ok s ∧
      s.writePdo (.slavePosition 0) 0 0 [5] = .ok (some (), s₁) ∧
      Transition.run step s₁ [.recieve .processData (outputPdu 0)] = .ok s₂ ∧
      s₂.sentPdus .processData [.cycle 1, .take .processData] = [outputPdu 0] ∧
      ¬ HasValue outputByte.logicalBits [5] (outputPdu 0).data := by
  have hsent : (Transition.run step (start [] (List.replicate 1024 0)) untilUnderWay).toOption.map
      (fun s => s.underWay .processData) = some (some (outputPdu 0)) := by
    decide +kernel
  have hentry : (Transition.run step (start [] (List.replicate 1024 0)) untilUnderWay).toOption.map
      (fun s => (EtherCatMaster.pdoEntry s.network 0 (.slavePosition 0) 0 0).toOption) =
        some (some (some outputByte)) := by
    decide +kernel
  have hlog : (Transition.run step (start [] (List.replicate 1024 0)) untilUnderWay).toOption.map
      (fun s => (s.writePdo (.slavePosition 0) 0 0 [5]).toOption.map fun r => (r.1,
        r.2.sentPdus .processData [.recieve .processData (outputPdu 0), .cycle 1,
          .take .processData])) = some (some (some (), [outputPdu 0])) := by
    decide +kernel
  rcases hrun : Transition.run step (start [] (List.replicate 1024 0)) untilUnderWay with e | s
  · rw [hrun] at hsent
    cases hsent
  rw [hrun] at hsent hentry hlog
  have hentry : (EtherCatMaster.pdoEntry s.network 0 (.slavePosition 0) 0 0).toOption =
      some (some outputByte) := Option.some.inj hentry
  have hlog : (s.writePdo (.slavePosition 0) 0 0 [5]).toOption.map (fun r => (r.1,
      r.2.sentPdus .processData [.recieve .processData (outputPdu 0), .cycle 1,
        .take .processData])) = some (some (), [outputPdu 0]) := Option.some.inj hlog
  rcases hentry' : EtherCatMaster.pdoEntry s.network 0 (.slavePosition 0) 0 0 with e | pdoEntry
  · rw [hentry'] at hentry
    cases hentry
  rw [hentry'] at hentry
  obtain rfl := Option.some.inj hentry
  rcases hwrite : s.writePdo (.slavePosition 0) 0 0 [5] with e | ⟨result, s₁⟩
  · rw [hwrite] at hlog
    cases hlog
  rw [hwrite] at hlog
  obtain ⟨rfl, hlog⟩ := Prod.mk.inj (Option.some.inj hlog)
  have hiff := writePdo_overwritten [] (List.replicate 1024 0) untilUnderWay []
    [.cycle 1, .take .processData] s s₁ _ (.slavePosition 0) 0 0 [5] outputByte (outputPdu 0)
    (outputPdu 0) hrun hentry' hwrite (Option.some.inj hsent) (by decide)
    (fun event hevent => absurd hevent List.not_mem_nil) rfl rfl (fun _ _ _ => rfl)
    ⟨trivial, fun _ _ => ⟨trivial, fun _ _ => trivial⟩⟩ (outputPdu 0)
    (hlog ▸ List.mem_singleton_self _) (by decide)
  refine ⟨s, s₁, _, rfl, hwrite, rfl, hlog, fun hvalue => ?_⟩
  exact absurd (hiff.mp hvalue 0 (by decide) (by decide)) (by decide)

end CyclicState

end EtherCat
