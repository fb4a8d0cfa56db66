import EtherCat.Master.CyclicOperation
import EtherCat.Slave.EntryAccess
import EtherCat.Task.TaskContract

/-!
# When a cycle returns

A cycle decodes what the slaves have sent, and panics on what it cannot decode.  `CyclicState.Sound`
is the invariant of all tasks with their sockets; under it the only responses that can end the
program are a status without a place in the image, and an AL status whose error code is not listed
(`CyclicState.exists_cycle_iff`).
-/

namespace EtherCat

open Rust Rust.Exec BitField CyclicTask

/-! ## The states of the mailboxes -/

namespace LogicalBits

/-- A write keeps the length of the image. -/
lemma length_writeFromBuffer {bits : LogicalBits} {logicalAddressOffset : UInt32}
    {image image' buf : List UInt8} {result : Option Unit}
    (h : bits.writeFromBuffer logicalAddressOffset image buf = .ok (result, image')) :
    image'.length = image.length := by
  rw [writeFromBuffer] at h
  obtain ⟨size, -, h⟩ := bind_eq_ok.mp h
  split at h
  · cases h
    rfl
  obtain ⟨pdoOffset, -, h⟩ := bind_eq_ok.mp h
  obtain ⟨last, -, h⟩ := bind_eq_ok.mp h
  split at h
  · cases h
    rfl
  obtain ⟨written, hloop, heq⟩ := bind_eq_ok.mp h
  cases heq
  refine length_of_foldlM (fun s i t hturn => ?_) hloop
  obtain ⟨_, -, hturn⟩ := bind_eq_ok.mp hturn
  obtain ⟨_, -, hturn⟩ := bind_eq_ok.mp hturn
  obtain ⟨_, -, hturn⟩ := bind_eq_ok.mp hturn
  obtain ⟨_, -, hturn⟩ := bind_eq_ok.mp hturn
  dsimp only at hturn
  split at hturn
  · obtain ⟨_, -, hturn⟩ := bind_eq_ok.mp hturn
    obtain ⟨_, -, hturn⟩ := bind_eq_ok.mp hturn
    obtain ⟨_, -, hturn⟩ := bind_eq_ok.mp hturn
    rw [(setIndex_eq_ok_iff.mp hturn).2, List.length_set]
  · rw [(setIndex_eq_ok_iff.mp hturn).2, List.length_set]

/-- The range lies in one byte of the image. -/
def InByte (bits : LogicalBits) (logicalAddressOffset : UInt32) (image : List UInt8) : Prop :=
  ∃ address, bits.logicalAddress = some address ∧
    logicalAddressOffset.toNat ≤ address.toNat ∧
    address.toNat - logicalAddressOffset.toNat < image.length ∧ bits.startBit.toNat < 8 ∧
    1 ≤ bits.startBit.toNat + bits.bitLength.toNat ∧
    bits.startBit.toNat + bits.bitLength.toNat ≤ 8

section
variable {bits : LogicalBits} {logicalAddressOffset : UInt32} {image buf : List UInt8}
  {byte : UInt8}

lemma inByte_of_readToBuffer
    (h : bits.readToBuffer logicalAddressOffset image [byte] = .ok (some (), buf)) :
    bits.InByte logicalAddressOffset image := by
  rw [readToBuffer] at h
  obtain ⟨size, hsize, h⟩ := bind_eq_ok.mp h
  rw [byteLength_eq (lt_of_byteLength_eq_ok hsize)] at hsize
  cases hsize
  rcases haddress : bits.logicalAddress with _ | address
  · rw [haddress] at h
    cases h
  rw [haddress] at h
  obtain ⟨pdoOffset, hoffset, h⟩ := bind_eq_ok.mp h
  obtain ⟨hle, rfl⟩ := sub_eq_ok_iff.mp hoffset
  obtain ⟨last, hlast, h⟩ := bind_eq_ok.mp h
  obtain ⟨hpos, rfl⟩ := sub_eq_ok_iff.mp hlast
  split at h
  · cases h
  next lastByte hbyte =>
    have hlt := (List.getElem?_eq_some_iff.mp hbyte).1
    obtain ⟨lastIndex, hlast, h⟩ := bind_eq_ok.mp h
    obtain ⟨htouched, rfl⟩ := sub_eq_ok_iff.mp hlast
    split at h
    · cases h
    next lastTarget htarget =>
      have hdest := (List.getElem?_eq_some_iff.mp htarget).1
      obtain ⟨read, -, h⟩ := bind_eq_ok.mp h
      obtain ⟨shifted, hshift, -⟩ := bind_eq_ok.mp h
      have hstart : bits.startBit.toNat < 8 := (check_eq_ok_iff.mp hshift).1
      rw [List.length_singleton] at hdest
      rw [touched] at htouched hdest hlt
      exact ⟨address, haddress, hle, by omega, hstart, by omega, by omega⟩

lemma exists_readToBuffer_of_inByte (h : bits.InByte logicalAddressOffset image) (byte : UInt8) :
    ∃ byte', bits.readToBuffer logicalAddressOffset image [byte] = .ok (some (), [byte']) := by
  obtain ⟨address, haddress, hle, hlt, hstart, hpos, hbits⟩ := h
  have htouched : bits.touched = 1 := by
    rw [touched]
    omega
  have hoffset : bits.offset logicalAddressOffset = address.toNat - logicalAddressOffset.toNat :=
    offset_of_address haddress
  rw [readToBuffer_of_le (by omega) haddress hle (by omega), hoffset, htouched,
    Nat.add_sub_cancel, List.getElem?_eq_getElem hlt]
  refine ⟨image[address.toNat - logicalAddressOffset.toNat] >>>
    UInt8.ofNat bits.startBit.toNat, ?_⟩
  dsimp only
  rw [shr, check_of hstart]
  rfl

end

end LogicalBits

/-- The master can look up the status of the mailbox of this slave: the FMMU for it maps the status
of its send mailbox, to one byte of the image. -/
def Slave.StatusReadable (slave : Slave) (logicalAddressOffset : UInt32) (image : List UInt8) :
    Prop :=
  ∀ fmmuConfig, slave.fmmu.get 2 = some fmmuConfig →
    (∃ txSm, slave.info.mailboxTxSm = some txSm ∧
      SyncManagerStatus.address + 0x08 * txSm.number.toUInt16 = fmmuConfig.physicalAddress) ∧
    fmmuConfig.logicalBits.InByte logicalAddressOffset image

namespace MailboxManager

section
variable {logicalAddressOffset : UInt32} {image : List UInt8}

lemma exists_isMailboxFull_iff {slave : Slave} :
    (∃ isFull, isMailboxFull slave logicalAddressOffset image = .ok isFull) ↔
      slave.StatusReadable logicalAddressOffset image := by
  rw [isMailboxFull, Slave.StatusReadable]
  rcases slave.fmmu.get 2 with _ | fmmuConfig
  · exact iff_of_true ⟨false, rfl⟩ (by rintro fmmuConfig ⟨⟩)
  constructor
  · rintro ⟨isFull, h⟩ fmmuConfig' heq
    cases heq
    obtain ⟨txSm, htxSm, h⟩ := bind_eq_ok.mp h
    obtain ⟨⟨⟩, hassert, h⟩ := bind_eq_ok.mp h
    obtain ⟨⟨result, buf⟩, hread, h⟩ := bind_eq_ok.mp h
    obtain ⟨⟨⟩, hresult, -⟩ := bind_eq_ok.mp h
    obtain rfl := unwrap_eq_ok_iff.mp hresult
    exact ⟨⟨txSm, unwrap_eq_ok_iff.mp htxSm, assert_eq_ok_iff.mp hassert⟩,
      LogicalBits.inByte_of_readToBuffer hread⟩
  · intro h
    obtain ⟨⟨txSm, htxSm, haddress⟩, hbyte⟩ := h fmmuConfig rfl
    obtain ⟨byte, hread⟩ := LogicalBits.exists_readToBuffer_of_inByte hbyte 0
    have hfits : SyncManagerStatus.isMailboxFull.Fits [byte] := Nat.zero_lt_one
    have hassert : Exec.assert (SyncManagerStatus.address + 0x08 * txSm.number.toUInt16 =
        fmmuConfig.physicalAddress) = .ok () := assert_eq_ok_iff.mpr haddress
    refine ⟨SyncManagerStatus.isMailboxFull.val [byte] != 0, ?_⟩
    dsimp only
    rw [htxSm, unwrap_some, ok_bind, hassert, ok_bind]
    have hbuf : List.replicate SyncManagerStatus.size 0 = [(0 : UInt8)] := rfl
    rw [hbuf, hread]
    exact Field.getBool_of_fits hfits

lemma exists_findSlaves_iff {slaves : List Slave} {pos : ℕ} {found : Option SlaveAddress} :
    (∃ found', findSlaves slaves pos found logicalAddressOffset image = .ok found') ↔
      ∀ slave ∈ slaves, slave.StatusReadable logicalAddressOffset image := by
  induction slaves generalizing pos found with
  | nil => exact iff_of_true ⟨found, rfl⟩ (fun slave hslave => absurd hslave List.not_mem_nil)
  | cons slave slaves ih =>
      rw [List.forall_mem_cons, ← exists_isMailboxFull_iff]
      constructor
      · rintro ⟨found', h⟩
        obtain ⟨isFull, hfull, h⟩ := bind_eq_ok.mp h
        exact ⟨⟨isFull, hfull⟩, ih.mp ⟨found', h⟩⟩
      · rintro ⟨⟨isFull, hfull⟩, hslaves⟩
        obtain ⟨found', h⟩ := ih.mpr hslaves
        exact ⟨found', bind_eq_ok.mpr ⟨isFull, hfull, h⟩⟩

/-- **When the lookup returns.** -/
lemma exists_lookup_iff (manager : MailboxManager) (network : Network) :
    (∃ manager', manager.findSlaveWithMailboxFromProcessData network logicalAddressOffset image =
      .ok manager') ↔ ∀ slave ∈ network.slaves.filterMap Prod.fst,
        slave.StatusReadable logicalAddressOffset image := by
  rw [← exists_findSlaves_iff]
  constructor
  · rintro ⟨manager', h⟩
    obtain ⟨found, hfound, -⟩ := bind_eq_ok.mp h
    exact ⟨found, hfound⟩
  · rintro ⟨found, hfound⟩
    exact ⟨_, bind_eq_ok.mpr ⟨found, hfound, rfl⟩⟩

end

end MailboxManager

/-! ## The tasks with their sockets -/

lemma TaskContract.Holds.settle {T : Type} [CyclicTask T] {c : TaskContract T} {task : T}
    {socket : PduSocket} {underWay : Option Pdu} (h : c.Holds task socket underWay) :
    c.Holds task socket none where
  valid := h.valid
  room := h.room
  asked hout := h.asked (.inl (hout.resolve_right Bool.false_ne_true))
  inBuffer hin := h.inBuffer (.inl (hin.resolve_right Bool.false_ne_true))

namespace CyclicState

/-- The contract of the task of a socket. -/
def Serves (s : CyclicState) (name : SocketName) (socket : PduSocket) (underWay : Option Pdu) :
    Prop :=
  match name with
  | .alState => AlStateReadTask.contract.Holds s.alStateTask socket underWay
  | .rxError => RxErrorReadTask.contract.Holds s.rxErrorTask socket underWay
  | .dc => ∀ task, DcSyncTask.contract.Holds task socket underWay
  | .gp => True
  | .mailbox => MailboxTask.contract.Holds s.mailboxManager.task socket underWay ∧
      s.mailboxManager.slaveWithMailbox = none
  | .alTf => AlStateTransferTask.contract.Holds s.alTfTask socket underWay
  | .processData => ProcessTask.contract.Holds s.processDataTask socket underWay

/-- Every task has the socket that it needs, and its own PDU in it. -/
def SoundWith (s : CyclicState) (underWay : SocketName → Option Pdu) : Prop :=
  ∀ name, s.Serves name (s.socket name) (underWay name)

/-- **The invariant** between the events. -/
def Sound (s : CyclicState) : Prop := s.SoundWith s.underWay

/-- The invariant in a cycle: nothing is under way. -/
def Settled (s : CyclicState) : Prop := s.SoundWith fun _ => none

/-- A response comes only for a PDU that is under way. -/
def Answered (s : CyclicState) : CyclicEvent → Prop
  | .recieve name _ => (s.underWay name).isSome
  | _ => True

instance (s : CyclicState) : ∀ event, Decidable (s.Answered event)
  | .recieve name _ => inferInstanceAs (Decidable ((s.underWay name).isSome = true))
  | .take _ | .fillGp _ | .useGp _ | .setImage _ | .setAlStateTarget | .setDcTask | .cycle _
  | .registerProcessDataBuffer _ | .writePdo _ _ _ _ | .requestMailbox _ _ | .requestAlState _ =>
    .isTrue trivial

section
variable {s s' : CyclicState} {name : SocketName} {socket : PduSocket} {underWay : Option Pdu}

lemma Serves.settle (h : s.Serves name socket underWay) : s.Serves name socket none := by
  cases name with
  | dc => exact fun task => (h task).settle
  | gp => trivial
  | mailbox => exact ⟨h.1.settle, h.2⟩
  | alState | rxError | alTf | processData => exact TaskContract.Holds.settle h

lemma Serves.take (h : s.Serves name socket underWay) {taken : Option Pdu} {socket' : PduSocket}
    (htake : socket.takePdu = .ok (taken, socket')) :
    s.Serves name socket' (taken <|> underWay) := by
  cases name with
  | dc => exact fun task => (h task).take htake
  | gp => trivial
  | mailbox => exact ⟨h.1.take htake, h.2⟩
  | alState | rxError | alTf | processData => exact TaskContract.Holds.take h htake

lemma Serves.recieve (h : s.Serves name socket underWay) (hunderWay : underWay.isSome)
    (response : Pdu) : s.Serves name (socket.recieve response) none := by
  cases name with
  | dc => exact fun task => (h task).recieve hunderWay response
  | gp => trivial
  | mailbox => exact ⟨h.1.recieve hunderWay response, h.2⟩
  | alState | rxError | alTf | processData => exact TaskContract.Holds.recieve h hunderWay response

/-- Another socket in one place. -/
lemma Sound.update (h : s.Sound) (hserves : s.Serves name socket underWay) :
    Sound { s.setSocket name socket with
      underWay := Function.update s.underWay name underWay } := by
  intro name'
  change s.Serves name' (Function.update s.socket name socket name')
    (Function.update s.underWay name underWay name')
  by_cases hname : name' = name
  · subst hname
    rwa [Function.update_self, Function.update_self]
  · rw [Function.update_of_ne hname, Function.update_of_ne hname]
    exact h name'

end

/-! ## What the events keep -/

section
variable {s s' : CyclicState}

lemma Sound.take (h : s.Sound) {name : SocketName} (hstep : s.step (.take name) = .ok s') :
    s'.Sound := by
  obtain ⟨⟨taken, socket⟩, htake, heq⟩ := bind_eq_ok.mp hstep
  cases heq
  exact h.update ((h name).take htake)

lemma Sound.recieve (h : s.Sound) {name : SocketName} {response : Pdu}
    (hanswered : s.Answered (.recieve name response))
    (hstep : s.step (.recieve name response) = .ok s') : s'.Sound := by
  cases hstep
  exact h.update ((h name).recieve hanswered response)

lemma Sound.settled (h : s.Sound) : s.Settled := fun name => (h name).settle

/-- A change of one task and its socket. -/
lemma SoundWith.step {underWay : SocketName → Option Pdu} (h : s.SoundWith underWay)
    (name : SocketName) {socket : PduSocket}
    (hsocket : s'.socket = Function.update s.socket name socket)
    (hserves : s'.Serves name socket (underWay name))
    (hother : ∀ name' ≠ name, ∀ socket underWay,
      s.Serves name' socket underWay → s'.Serves name' socket underWay) :
    s'.SoundWith underWay := by
  intro name'
  rw [hsocket]
  by_cases hname : name' = name
  · subst hname
    rwa [Function.update_self]
  · rw [Function.update_of_ne hname]
    exact hother name' hname _ _ (h name')

/-- What has become of the other tasks in a cycle. -/
structure Untouched (s s' : CyclicState) : Prop where
  alStateSocket : s'.socket .alState = s.socket .alState
  alTfTask : s'.alTfTask = s.alTfTask
  alTfSocket : s'.socket .alTf = s.socket .alTf

lemma Untouched.trans {s'' : CyclicState} (h : s.Untouched s') (h' : s'.Untouched s'') :
    s.Untouched s'' where
  alStateSocket := h'.alStateSocket.trans h.alStateSocket
  alTfTask := h'.alTfTask.trans h.alTfTask
  alTfSocket := h'.alTfSocket.trans h.alTfSocket

/-- The statuses of the mailboxes can be looked up in the image. -/
def StatusesReadable (s : CyclicState) : Prop :=
  s.isRegistered = true → ∀ slave ∈ s.network.slaves.filterMap Prod.fst,
    slave.StatusReadable logicalStartAddress (s.socket .processData).dataBuf

/-- The step of a task in its socket. -/
lemma exists_processTask_iff {T : Type} [CyclicTask T] {c : TaskContract T} {task : T}
    {name : SocketName} (h : c.Holds task (s.socket name) none) (sysTime : ℕ) :
    (∃ r, s.processTask name task sysTime = .ok r) ↔
      ∀ recv, (s.socket name).getRecievedPdu = .ok (some recv) → c.Decodes task recv := by
  rw [← h.exists_processOneStep_iff sysTime]
  constructor
  · rintro ⟨r, hprocess⟩
    obtain ⟨r', hstep, -⟩ := bind_eq_ok.mp hprocess
    exact ⟨r', hstep⟩
  · rintro ⟨r', hstep⟩
    exact ⟨_, bind_eq_ok.mpr ⟨r', hstep, rfl⟩⟩

/-- What the step of a task leaves. -/
lemma of_processTask {T : Type} [CyclicTask T] {c : TaskContract T} {task task' : T}
    {name : SocketName} (h : c.Holds task (s.socket name) none) {sysTime : ℕ}
    (hprocess : s.processTask name task sysTime = .ok (task', s')) :
    ∃ socket, s' = s.setSocket name socket ∧ c.Holds task' socket none := by
  obtain ⟨⟨task₁, socket⟩, hstep, heq⟩ := bind_eq_ok.mp hprocess
  cases heq
  exact ⟨socket, rfl, h.processOneStep hstep⟩

/-! ## The parts of a cycle -/

lemma dataBuf_processTask {task task' : ProcessTask} {sysTime : ℕ}
    (h : s.processTask .processData task sysTime = .ok (task', s')) :
    (s'.socket .processData).dataBuf = (s.socket .processData).dataBuf := by
  obtain ⟨⟨task₁, socket⟩, hstep, heq⟩ := bind_eq_ok.mp h
  cases heq
  obtain ⟨task₂, -, hstep⟩ := bind_eq_ok.mp hstep
  obtain ⟨⟨⟨pdu, dataBuf⟩, task₃⟩, hnext, heq⟩ := bind_eq_ok.mp hstep
  cases heq
  change ProcessTask.nextPdu task₂ _ = _ at hnext
  rw [ProcessTask.nextPdu] at hnext
  split at hnext <;>
    · cases hnext
      rfl

/-- No read is started. -/
lemma processOneStep_of_noneFound {manager : MailboxManager} {network : Network}
    {mbSocket : PduSocket} {sysTime : ℕ} (h : manager.slaveWithMailbox = none) :
    manager.processOneStep network mbSocket sysTime = (do
      let (task, mbSocket) ← CyclicTask.processOneStep manager.task mbSocket sysTime
      .ok ({ manager with task := task }, mbSocket)) := by
  have hstart : manager.startRead network = .ok manager.task := by
    rw [MailboxManager.startRead, h]
    split <;> rfl
  rw [MailboxManager.processOneStep, hstart, ok_bind]

/-- The step of the mailbox task. -/
lemma exists_processMailbox (h : s.Settled) (sysTime : ℕ) :
    ∃ task mbSocket, s.mailboxManager.processOneStep s.network (s.socket .mailbox) sysTime =
        .ok ({ s.mailboxManager with task := task }, mbSocket) ∧
      MailboxTask.contract.Holds task mbSocket none := by
  obtain ⟨hholds, hnone⟩ := h .mailbox
  obtain ⟨⟨task, mbSocket⟩, hstep⟩ :=
    (hholds.exists_processOneStep_iff sysTime).mpr fun _ _ => trivial
  refine ⟨task, mbSocket, ?_, hholds.processOneStep hstep⟩
  rw [processOneStep_of_noneFound hnone]
  exact bind_eq_ok.mpr ⟨_, hstep, rfl⟩

/-- **The process data and the mailboxes.** -/
lemma processData_spec (h : s.Settled) (sysTime : ℕ) :
    ((∃ s', s.processData sysTime = .ok s') ↔ s.StatusesReadable) ∧
      ∀ s', s.processData sysTime = .ok s' →
        s'.Settled ∧ s.Untouched s' ∧ s'.alStateTask = s.alStateTask := by
  rw [processData, StatusesReadable]
  cases hregistered : s.isRegistered with
  | false =>
      refine ⟨iff_of_true ⟨s, rfl⟩ (by rintro ⟨⟩), ?_⟩
      rintro s' heq
      cases heq
      exact ⟨h, ⟨rfl, rfl, rfl⟩, rfl⟩
  | true =>
      obtain ⟨⟨task, s₁⟩, hprocess⟩ := (exists_processTask_iff (h .processData) sysTime).mpr
        fun _ _ => trivial
      have himage := dataBuf_processTask hprocess
      obtain ⟨socket, rfl, hholds⟩ := of_processTask (h .processData) hprocess
      obtain ⟨mbTask, mbSocket, hmailbox, hmbHolds⟩ := exists_processMailbox h sysTime
      have hmailbox' : (s.setSocket .processData socket).mailboxManager.processOneStep
          (s.setSocket .processData socket).network
          ((s.setSocket .processData socket).socket .mailbox) sysTime =
            .ok ({ s.mailboxManager with task := mbTask }, mbSocket) := hmailbox
      rw [if_pos rfl, hprocess, ok_bind]
      dsimp only
      rw [hmailbox', ok_bind]
      dsimp only
      have hlookup : (∃ manager, MailboxManager.findSlaveWithMailboxFromProcessData
          { s.mailboxManager with task := mbTask } s.network logicalStartAddress
            (s.socket .processData).dataBuf = .ok manager) ↔ _ :=
        MailboxManager.exists_lookup_iff { s.mailboxManager with task := mbTask } s.network
      rw [← himage] at hlookup ⊢
      constructor
      · constructor
        · rintro ⟨s', hstep⟩ -
          obtain ⟨manager, hmanager, -⟩ := bind_eq_ok.mp hstep
          exact hlookup.mp ⟨manager, hmanager⟩
        · intro hstatuses
          obtain ⟨manager, hmanager⟩ := hlookup.mpr (hstatuses rfl)
          exact ⟨_, bind_eq_ok.mpr ⟨manager, hmanager, rfl⟩⟩
      · intro s' hstep
        obtain ⟨manager, hmanager, heq⟩ := bind_eq_ok.mp hstep
        cases heq
        obtain ⟨found, -, heq⟩ := bind_eq_ok.mp hmanager
        cases heq
        refine ⟨fun name => ?_, ⟨rfl, rfl, rfl⟩, rfl⟩
        cases name with
        | processData => exact hholds
        | mailbox => exact ⟨hmbHolds, rfl⟩
        | alState => exact h .alState
        | rxError => exact h .rxError
        | dc => exact h .dc
        | gp => exact h .gp
        | alTf => exact h .alTf

lemma exists_compDcDrift (h : s.Settled) (sysTime : ℕ) :
    ∃ s', s.compDcDrift sysTime = .ok s' ∧ s'.Settled ∧ s.Untouched s' ∧
      s'.alStateTask = s.alStateTask := by
  rw [compDcDrift]
  rcases hdc : s.dcTask with _ | task
  · exact ⟨s, rfl, h, ⟨rfl, rfl, rfl⟩, rfl⟩
  · obtain ⟨⟨task', s₁⟩, hprocess⟩ := (exists_processTask_iff (h .dc task) sysTime).mpr
      fun _ _ => trivial
    obtain ⟨socket, rfl, hholds⟩ := of_processTask (h .dc task) hprocess
    refine ⟨_, bind_eq_ok.mpr ⟨_, hprocess, rfl⟩, SoundWith.step h .dc rfl ?_ ?_,
      ⟨rfl, rfl, rfl⟩, rfl⟩
    · exact fun task => ⟨trivial, hholds.room, hholds.asked, hholds.inBuffer⟩
    · intro name hname socket underWay hserves
      cases name <;> exact hserves

lemma exists_checkRxError (h : s.Settled) (sysTime : ℕ) :
    ∃ s', s.checkRxError sysTime = .ok s' ∧ s'.Settled ∧ s.Untouched s' := by
  obtain ⟨⟨task', s₁⟩, hprocess⟩ := (exists_processTask_iff (h .rxError) sysTime).mpr
    fun _ _ => trivial
  obtain ⟨socket, rfl, hholds⟩ := of_processTask (h .rxError) hprocess
  refine ⟨_, bind_eq_ok.mpr ⟨_, hprocess, rfl⟩, SoundWith.step h .rxError rfl hholds ?_,
    ⟨rfl, rfl, rfl⟩⟩
  intro name hname socket underWay hserves
  cases name <;> first | exact hserves | exact absurd rfl hname

lemma exists_checkAlState_iff (h : s.Settled) (sysTime : ℕ) :
    (∃ s', s.checkAlState sysTime = .ok s') ↔
      ∀ recv, (s.socket .alState).getRecievedPdu = .ok (some recv) →
        AlStatus.KnownCode recv.data := by
  refine Iff.trans ?_ (exists_processTask_iff (h .alState) sysTime)
  constructor
  · rintro ⟨s', hstep⟩
    obtain ⟨r, hprocess, -⟩ := bind_eq_ok.mp hstep
    exact ⟨r, hprocess⟩
  · rintro ⟨r, hprocess⟩
    exact ⟨_, bind_eq_ok.mpr ⟨r, hprocess, rfl⟩⟩

lemma checkAlState_spec (h : s.Settled) {sysTime : ℕ} (hstep : s.checkAlState sysTime = .ok s') :
    s'.Settled ∧ s'.alTfTask = s.alTfTask ∧ s'.socket .alTf = s.socket .alTf := by
  obtain ⟨⟨task', s₁⟩, hprocess, heq⟩ := bind_eq_ok.mp hstep
  cases heq
  obtain ⟨socket, rfl, hholds⟩ := of_processTask (h .alState) hprocess
  refine ⟨SoundWith.step h .alState rfl hholds ?_, rfl, rfl⟩
  intro name hname socket underWay hserves
  cases name <;> first | exact hserves | exact absurd rfl hname

lemma exists_transferAlState_iff (h : s.Settled) (sysTime : ℕ) :
    (∃ s', s.transferAlState sysTime = .ok s') ↔
      ∀ recv, (s.socket .alTf).getRecievedPdu = .ok (some recv) →
        s.alTfTask.DecodesStatus recv := by
  refine Iff.trans ?_ (exists_processTask_iff (h .alTf) sysTime)
  constructor
  · rintro ⟨s', hstep⟩
    obtain ⟨r, hprocess, -⟩ := bind_eq_ok.mp hstep
    exact ⟨r, hprocess⟩
  · rintro ⟨r, hprocess⟩
    exact ⟨_, bind_eq_ok.mpr ⟨r, hprocess, rfl⟩⟩

lemma settled_transferAlState (h : s.Settled) {sysTime : ℕ}
    (hstep : s.transferAlState sysTime = .ok s') : s'.Settled := by
  obtain ⟨⟨task', s₁⟩, hprocess, heq⟩ := bind_eq_ok.mp hstep
  cases heq
  obtain ⟨socket, rfl, hholds⟩ := of_processTask (h .alTf) hprocess
  refine SoundWith.step h .alTf rfl hholds ?_
  intro name hname socket underWay hserves
  cases name <;> first | exact hserves | exact absurd rfl hname

/-- The responses can be decoded. -/
structure Decodable (s : CyclicState) : Prop where
  statuses : s.StatusesReadable
  alState : ∀ recv, (s.socket .alState).getRecievedPdu = .ok (some recv) →
    AlStatus.KnownCode recv.data
  alTf : ∀ recv, (s.socket .alTf).getRecievedPdu = .ok (some recv) → s.alTfTask.DecodesStatus recv

/-- **When a cycle returns.** -/
lemma exists_cycle_iff (h : s.Settled) (sysTime : ℕ) :
    (∃ s', s.cycle sysTime = .ok s') ↔ s.Decodable := by
  obtain ⟨hreturns, hdata⟩ := processData_spec h sysTime
  constructor
  · rintro ⟨s', hcycle⟩
    obtain ⟨s₁, hs₁, hcycle⟩ := bind_eq_ok.mp hcycle
    obtain ⟨hsettled₁, huntouched₁, -⟩ := hdata s₁ hs₁
    obtain ⟨s₂, hs₂, hcycle⟩ := bind_eq_ok.mp hcycle
    obtain ⟨s₂', hs₂', hsettled₂, huntouched₂, -⟩ := exists_compDcDrift hsettled₁ sysTime
    cases hs₂.symm.trans hs₂'
    obtain ⟨s₃, hs₃, hcycle⟩ := bind_eq_ok.mp hcycle
    obtain ⟨s₃', hs₃', hsettled₃, huntouched₃⟩ := exists_checkRxError hsettled₂ sysTime
    cases hs₃.symm.trans hs₃'
    have huntouched := (huntouched₁.trans huntouched₂).trans huntouched₃
    obtain ⟨s₄, hs₄, hcycle⟩ := bind_eq_ok.mp hcycle
    obtain ⟨hsettled₄, htask, hsocket⟩ := checkAlState_spec hsettled₃ hs₄
    obtain ⟨s₅, hs₅, -⟩ := bind_eq_ok.mp hcycle
    refine ⟨hreturns.mp ⟨s₁, hs₁⟩, ?_, ?_⟩
    · rw [← huntouched.alStateSocket]
      exact (exists_checkAlState_iff hsettled₃ sysTime).mp ⟨s₄, hs₄⟩
    · rw [← huntouched.alTfSocket, ← huntouched.alTfTask, ← hsocket, ← htask]
      exact (exists_transferAlState_iff hsettled₄ sysTime).mp ⟨s₅, hs₅⟩
  · rintro ⟨hstatuses, halState, halTf⟩
    obtain ⟨s₁, hs₁⟩ := hreturns.mpr hstatuses
    obtain ⟨hsettled₁, huntouched₁, -⟩ := hdata s₁ hs₁
    obtain ⟨s₂, hs₂, hsettled₂, huntouched₂, -⟩ := exists_compDcDrift hsettled₁ sysTime
    obtain ⟨s₃, hs₃, hsettled₃, huntouched₃⟩ := exists_checkRxError hsettled₂ sysTime
    have huntouched := (huntouched₁.trans huntouched₂).trans huntouched₃
    rw [← huntouched.alStateSocket] at halState
    rw [← huntouched.alTfSocket, ← huntouched.alTfTask] at halTf
    obtain ⟨s₄, hs₄⟩ := (exists_checkAlState_iff hsettled₃ sysTime).mpr halState
    obtain ⟨hsettled₄, htask, hsocket⟩ := checkAlState_spec hsettled₃ hs₄
    rw [← hsocket, ← htask] at halTf
    obtain ⟨s₅, hs₅⟩ := (exists_transferAlState_iff hsettled₄ sysTime).mpr halTf
    exact ⟨_, bind_eq_ok.mpr ⟨s₁, hs₁, bind_eq_ok.mpr ⟨s₂, hs₂, bind_eq_ok.mpr ⟨s₃, hs₃,
      bind_eq_ok.mpr ⟨s₄, hs₄, bind_eq_ok.mpr ⟨s₅, hs₅, rfl⟩⟩⟩⟩⟩⟩

lemma Sound.cycle (h : s.Sound) {sysTime : ℕ} (hstep : s.step (.cycle sysTime) = .ok s') :
    s'.Sound := by
  obtain ⟨s₁, hs₁, hstep⟩ := bind_eq_ok.mp hstep
  obtain ⟨hsettled₁, -⟩ := (processData_spec h.settled sysTime).2 s₁ hs₁
  obtain ⟨s₂, hs₂, hstep⟩ := bind_eq_ok.mp hstep
  obtain ⟨s₂', hs₂', hsettled₂, -⟩ := exists_compDcDrift hsettled₁ sysTime
  cases hs₂.symm.trans hs₂'
  obtain ⟨s₃, hs₃, hstep⟩ := bind_eq_ok.mp hstep
  obtain ⟨s₃', hs₃', hsettled₃, -⟩ := exists_checkRxError hsettled₂ sysTime
  cases hs₃.symm.trans hs₃'
  obtain ⟨s₄, hs₄, hstep⟩ := bind_eq_ok.mp hstep
  obtain ⟨s₅, hs₅, heq⟩ := bind_eq_ok.mp hstep
  cases heq
  have hsettled₅ := settled_transferAlState (checkAlState_spec hsettled₃ hs₄).1 hs₅
  intro name
  have hserves := hsettled₅ name
  cases name <;> exact hserves

/-! ## The other events -/

lemma Sound.registerProcessDataBuffer (h : s.Sound) {buf : List UInt8} {isTaken : Bool}
    (hregister : s.registerProcessDataBuffer buf = .ok (isTaken, s')) : s'.Sound := by
  rw [CyclicState.registerProcessDataBuffer] at hregister
  split at hregister
  · cases hregister
    exact h
  split at hregister
  · cases hregister
  cases hregister
  refine SoundWith.step h .processData rfl
    ⟨trivial, Nat.zero_le _, fun _ => trivial, fun _ => Nat.zero_le _⟩ ?_
  intro name hname socket underWay hserves
  cases name <;> exact hserves

lemma Sound.writePdo (h : s.Sound) {slaveAddress : SlaveAddress} {pdoMapIndex pdoEntryIndex : ℕ}
    {data : List UInt8} {result : Option Unit}
    (hwrite : s.writePdo slaveAddress pdoMapIndex pdoEntryIndex data = .ok (result, s')) :
    s'.Sound := by
  rw [CyclicState.writePdo] at hwrite
  split at hwrite
  · obtain ⟨entry, -, hwrite⟩ := bind_eq_ok.mp hwrite
    rcases entry with _ | pdoEntry
    · cases hwrite
      exact h
    obtain ⟨⟨result', dataBuf⟩, hbits, heq⟩ := bind_eq_ok.mp hwrite
    cases heq
    have hlength := LogicalBits.length_writeFromBuffer hbits
    have hholds := h .processData
    refine SoundWith.step h .processData rfl ⟨trivial, Nat.zero_le _, fun _ => trivial, ?_⟩ ?_
    · intro hin
      have hle := hholds.inBuffer hin
      rwa [← hlength] at hle
    · intro name hname socket underWay hserves
      cases name <;> exact hserves
  · cases hwrite
    exact h

lemma request_spec {task task' : MailboxTask} {slave slave' : Slave} {message : Mailbox}
    {buf buf' : List UInt8} {id : MailboxSessionId}
    (h : task.request slave message buf = .ok (id, task', slave', buf')) :
    buf'.length = buf.length ∧ ∃ writer, task' = ⟨.processing, .writer writer⟩ := by
  obtain ⟨⟨result, mbFrame⟩, hmessage, h⟩ := bind_eq_ok.mp h
  rcases result with e | ⟨⟩
  · cases h
  obtain ⟨rxSm, -, h⟩ := bind_eq_ok.mp h
  obtain ⟨mbFrame', hcount, heq⟩ := bind_eq_ok.mp h
  cases heq
  refine ⟨?_, _, rfl⟩
  rw [(Field.set_eq_ok_iff.mp hcount).2, Field.length_put, MailboxFrame.length_setMailbox hmessage]

/-- A task that is not busy has nothing in its socket. -/
lemma Sound.requestMailbox (h : s.Sound) {slave : Slave} {message : Mailbox}
    {sessionId : Option MailboxSessionId}
    (hrequest : s.requestMailbox slave message = .ok (sessionId, s')) : s'.Sound := by
  rw [CyclicState.requestMailbox] at hrequest
  split at hrequest
  · cases hrequest
    exact h
  next hbusy =>
    obtain ⟨⟨id, task, slave', dataBuf⟩, htask, heq⟩ := bind_eq_ok.mp hrequest
    cases heq
    obtain ⟨⟨hvalid, hroom, hasked, hin⟩, hnone⟩ := h .mailbox
    have hidle : ¬ ((s.socket .mailbox).command.isSome ∨ (s.underWay .mailbox).isSome) :=
      fun hout => hbusy (hasked hout).1
    obtain ⟨hlength, writer, rfl⟩ := request_spec htask
    refine SoundWith.step h .mailbox rfl ⟨⟨fun _ => ⟨writer, rfl⟩, ?_, ?_, ?_⟩, hnone⟩ ?_
    · exact hlength ▸ hroom
    · exact fun hout => absurd hout hidle
    · exact fun hflag => hlength ▸ hin hflag
    · intro name hname socket underWay hserves
      cases name <;> first | exact hserves | exact absurd rfl hname

lemma Sound.requestAlState (h : s.Sound) (alState : AlState) :
    (s.requestAlState alState).2.Sound := by
  rw [CyclicState.requestAlState]
  split
  · next hbusy =>
      have hholds := h .alTf
      have hidle : ¬ ((s.socket .alTf).command.isSome ∨ (s.underWay .alTf).isSome) := by
        intro hout
        obtain ⟨htrue, -⟩ := hholds.asked hout
        change isBusy s.alTfTask = true at htrue
        rw [htrue] at hbusy
        cases hbusy
      refine SoundWith.step h .alTf (Function.update_eq_self _ _).symm
        ⟨trivial, hholds.room, fun hout => absurd hout hidle, hholds.inBuffer⟩ ?_
      intro name hname socket underWay hserves
      cases name <;> first | exact hserves | exact absurd rfl hname
  · exact h

/-- **Every event keeps the invariant.** -/
lemma Sound.step (h : s.Sound) {event : CyclicEvent} (hanswered : s.Answered event)
    (hstep : s.step event = .ok s') : s'.Sound := by
  cases event with
  | take name => exact h.take hstep
  | recieve name response => exact h.recieve hanswered hstep
  | fillGp dataBuf =>
      cases hstep
      refine SoundWith.step h .gp rfl trivial ?_
      intro name hname socket underWay hserves
      cases name <;> exact hserves
  | useGp socket =>
      cases hstep
      refine SoundWith.step h.settled .gp rfl trivial ?_
      intro name hname socket underWay hserves
      cases name <;> exact hserves
  | setImage image =>
      cases hstep
      intro name
      have hserves := h name
      cases name with
      | processData =>
          exact ⟨trivial, hserves.room, fun _ => trivial, hserves.inBuffer⟩
      | _ => exact hserves
  | setAlStateTarget =>
      cases hstep
      intro name
      have hserves := h name
      cases name with
      | alState => exact ⟨trivial, hserves.room, hserves.asked, hserves.inBuffer⟩
      | _ => exact hserves
  | setDcTask =>
      obtain ⟨dcTask, -, heq⟩ := bind_eq_ok.mp hstep
      cases heq
      intro name
      have hserves := h name
      cases name <;> exact hserves
  | cycle sysTime => exact h.cycle hstep
  | registerProcessDataBuffer buf =>
      obtain ⟨⟨isTaken, s₁⟩, hregister, heq⟩ := bind_eq_ok.mp hstep
      cases heq
      exact h.registerProcessDataBuffer hregister
  | writePdo slaveAddress pdoMapIndex pdoEntryIndex data =>
      obtain ⟨⟨result, s₁⟩, hwrite, heq⟩ := bind_eq_ok.mp hstep
      cases heq
      exact h.writePdo hwrite
  | requestMailbox slave message =>
      obtain ⟨⟨sessionId, s₁⟩, hrequest, heq⟩ := bind_eq_ok.mp hstep
      cases heq
      exact h.requestMailbox hrequest
  | requestAlState alState =>
      cases hstep
      exact h.requestAlState alState

end

/-! ## Runs -/

lemma sound_start {slaveBuf : List (Option Slave × SlaveConfig)} {socketBuffer : List UInt8}
    (hlength : EtherCatMaster.minimumRequiredBufferSize < socketBuffer.length) :
    (start slaveBuf socketBuffer).Sound := by
  unfold EtherCatMaster.minimumRequiredBufferSize at hlength
  have hmailbox : mailboxCheckSize ≤ SlaveInitTask.maxSmSize.toNat := by decide
  intro name
  cases name with
  | alState =>
      refine TaskContract.holds_new trivial ?_
      change AlStateReadTask.requiredBufferSize ≤ (buffers socketBuffer .alState).length
      simp only [buffers, List.length_take]
      omega
  | rxError =>
      refine TaskContract.holds_new trivial ?_
      change RxErrorReadTask.requiredBufferSize ≤ (buffers socketBuffer .rxError).length
      simp only [buffers, List.length_take, List.length_drop]
      omega
  | dc =>
      refine fun task => TaskContract.holds_new trivial ?_
      change DcSyncTask.requiredBufferSize ≤ (buffers socketBuffer .dc).length
      simp only [buffers, List.length_take, List.length_drop]
      omega
  | gp => trivial
  | mailbox =>
      refine ⟨TaskContract.holds_new (by rintro ⟨⟩) ?_, rfl⟩
      change mailboxCheckSize ≤ (buffers socketBuffer .mailbox).length
      simp only [buffers, List.length_take, List.length_drop]
      omega
  | alTf =>
      refine TaskContract.holds_new trivial ?_
      change AlStateTransferTask.requiredBufferSize ≤ (buffers socketBuffer .alTf).length
      simp only [buffers, List.length_take, List.length_drop]
      omega
  | processData => exact TaskContract.holds_new trivial (Nat.zero_le _)

/-- The invariant holds in every state of a run in which the responses are answers. -/
lemma sound_of_run {slaveBuf : List (Option Slave × SlaveConfig)} {socketBuffer : List UInt8}
    {events : List CyclicEvent} {s : CyclicState}
    (hlength : EtherCatMaster.minimumRequiredBufferSize < socketBuffer.length)
    (hanswered : Transition.Along step Answered (start slaveBuf socketBuffer) events)
    (hrun : Transition.run step (start slaveBuf socketBuffer) events = .ok s) : s.Sound :=
  Transition.run_invariant Sound (fun _ _ _ hsound hanswered hstep => hsound.step hanswered hstep)
    (sound_start hlength) hanswered hrun

/-- What the events of `process` need. -/
def Survives (s : CyclicState) : CyclicEvent → Prop
  | .take .processData =>
    (s.socket .processData).Pending →
      (s.socket .processData).dataLength ≤ (s.socket .processData).dataBuf.length
  | .take .gp =>
    (s.socket .gp).Pending → (s.socket .gp).dataLength ≤ (s.socket .gp).dataBuf.length
  | .cycle _ => s.Decodable
  | _ => True

lemma exists_take_iff {s : CyclicState} {name : SocketName} :
    (∃ s', s.step (.take name) = .ok s') ↔ ∃ r, (s.socket name).takePdu = .ok r := by
  constructor
  · rintro ⟨s', hstep⟩
    obtain ⟨r, htake, -⟩ := bind_eq_ok.mp hstep
    exact ⟨r, htake⟩
  · rintro ⟨r, htake⟩
    exact ⟨_, bind_eq_ok.mpr ⟨r, htake, rfl⟩⟩

/-- **When the events of `process` return**, in a state that satisfies the invariant. -/
lemma Sound.exists_step_iff {s : CyclicState} (h : s.Sound) {event : CyclicEvent}
    (hevent : IsTraffic event ∨ ∃ sysTime, event = .cycle sysTime) :
    (∃ s', s.step event = .ok s') ↔ s.Survives event := by
  rcases hevent with htraffic | ⟨sysTime, rfl⟩
  · cases event with
    | recieve name response => exact iff_of_true ⟨_, rfl⟩ trivial
    | take name =>
        rw [exists_take_iff]
        cases name with
        | gp => exact TaskContract.exists_takePdu_iff
        | processData => exact TaskContract.exists_takePdu_iff
        | alState => exact iff_of_true ((h .alState).exists_takePdu fun hasked => hasked.2) trivial
        | rxError => exact iff_of_true ((h .rxError).exists_takePdu fun hasked => hasked.2) trivial
        | dc =>
            exact iff_of_true ((h .dc (.new 0 0)).exists_takePdu fun hasked => hasked.2) trivial
        | mailbox =>
            exact iff_of_true ((h .mailbox).1.exists_takePdu fun hasked => hasked.2.1) trivial
        | alTf => exact iff_of_true ((h .alTf).exists_takePdu fun hasked => hasked.2.1) trivial
    | _ => exact htraffic.elim
  · exact exists_cycle_iff h.settled sysTime

/-- **When `process` returns**, after any run in which responses come only for PDUs that are under
way: what the PDU interface does always returns but for the process data that do not fit into their
buffer and the data of a blocking call; the cycle behind it returns exactly if each status can be
found in the image, and each error that it looks at has a listed code. -/
theorem step_returns_iff (slaveBuf : List (Option Slave × SlaveConfig)) (socketBuffer : List UInt8)
    (events : List CyclicEvent) (s : CyclicState) (event : CyclicEvent)
    (hlength : EtherCatMaster.minimumRequiredBufferSize < socketBuffer.length)
    (hanswered : Transition.Along step Answered (start slaveBuf socketBuffer) events)
    (hrun : Transition.run step (start slaveBuf socketBuffer) events = .ok s)
    (hevent : IsTraffic event ∨ ∃ sysTime, event = .cycle sysTime) :
    (∃ s', s.step event = .ok s') ↔ s.Survives event :=
  (sound_of_run hlength hanswered hrun).exists_step_iff hevent

/-- A slave reports an error, with a code that is not listed. -/
def unlistedError : Pdu := ⟨⟨.brd, 0, AlStatus.address⟩, [0x11, 0, 0, 0, 0xFF, 0xFF], 1⟩

theorem not_step_unlistedError :
    ∃ s, Transition.run step (start [(none, .default)] (List.replicate 1024 0))
        [.cycle 0, .take .alState, .recieve .alState unlistedError] = .ok s ∧
      ¬ ∃ s', s.step (.cycle 1) = .ok s' := by
  have hlength : EtherCatMaster.minimumRequiredBufferSize <
      (List.replicate 1024 (0 : UInt8)).length := by
    rw [List.length_replicate]
    decide
  have hresponse : (Transition.run step (start [(none, .default)] (List.replicate 1024 0))
      [.cycle 0, .take .alState, .recieve .alState unlistedError]).toOption.map
        (fun s => (s.socket .alState).getRecievedPdu.toOption) =
          some (some (some unlistedError)) := by
    decide +kernel
  rcases hrun : Transition.run step (start [(none, .default)] (List.replicate 1024 0))
    [.cycle 0, .take .alState, .recieve .alState unlistedError] with e | s
  · rw [hrun] at hresponse
    cases hresponse
  rw [hrun] at hresponse
  refine ⟨s, rfl, fun hreturns => ?_⟩
  have hdecodable := (step_returns_iff [(none, .default)] (List.replicate 1024 0) _ s (.cycle 1)
    hlength (by decide +kernel) hrun (.inr ⟨1, rfl⟩)).mp hreturns
  have hrecieved : (s.socket .alState).getRecievedPdu = .ok (some unlistedError) := by
    rcases hget : (s.socket .alState).getRecievedPdu with e | recv
    · change some (s.socket .alState).getRecievedPdu.toOption = _ at hresponse
      rw [hget] at hresponse
      cases hresponse
    · change some (s.socket .alState).getRecievedPdu.toOption = _ at hresponse
      rw [hget] at hresponse
      exact congrArg Except.ok (Option.some.inj (Option.some.inj hresponse))
  exact absurd (hdecodable.alState _ hrecieved) (by decide)

end CyclicState

end EtherCat
