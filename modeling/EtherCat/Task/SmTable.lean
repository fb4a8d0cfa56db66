import EtherCat.Task.SlaveInitSteps

/-!
# The sync managers that the EEPROM gives

`SlaveInitTask` reads eight addresses of the EEPROM and makes the table of sync managers from the
words at four of them.  An answer of the EEPROM has eight bytes, of which the first two are the word
that was asked for.  The table follows the words (`FollowsWords`) exactly if no size word is zero
while the other six bytes of the answer are not: the task compares all eight bytes with zero, and
takes two of them for the size.
-/

namespace EtherCat

open Rust Rust.Exec BitField CyclicTask

/-! ## One read of the EEPROM -/

namespace SiiReader

lemma nextPdu_frame {task task' : SiiReader} {buf : List UInt8}
    {pdu : Option (Command × ℕ) × List UInt8} (h : task.nextPdu buf = .ok (pdu, task')) :
    task'.state = task.state ∧ task'.siiAddress = task.siiAddress ∧
      task'.siiData = task.siiData := by
  unfold nextPdu at h
  dsimp only at h
  split at h
  case h_1 | h_2 | h_10 =>
    cases h
    exact ⟨rfl, rfl, rfl⟩
  all_goals
    obtain ⟨pdu', -, heq⟩ := bind_eq_ok.mp h
    cases heq
    exact ⟨rfl, rfl, rfl⟩

/-- The PDU that fetches the data has eight bytes. -/
lemma nextPdu_read {task task' : SiiReader} {buf buf' : List UInt8} {pdu : Option (Command × ℕ)}
    (hread : task.state = .read) (h : task.nextPdu buf = .ok ((pdu, buf'), task')) :
    pdu.map Prod.snd = some SiiData.size ∧ SiiData.size ≤ buf'.length := by
  have hlength := CyclicTask.length_nextPdu (T := SiiReader) h
  rw [nextPdu, hread] at h
  obtain ⟨⟨pdu', buf''⟩, hrequest, heq⟩ := bind_eq_ok.mp h
  cases heq
  rw [request_pdu hrequest, hlength]
  obtain ⟨zeroed, hfill, -⟩ := bind_eq_ok.mp hrequest
  exact ⟨rfl, (fillTo_eq_ok_iff.mp hfill).1⟩

/-- A response completes a read, or it fails it, or the reader goes on. -/
lemma recieveAndProcess_answer {task task' : SiiReader} {recv : Pdu} {sysTime : ℕ}
    (hbusy : task.isBusy = true) (h : task.recieveAndProcess recv sysTime = .ok task') :
    task'.siiAddress = task.siiAddress ∧ task'.siiData.length = task.siiData.length ∧
      (task'.failure.isSome = true ∨
        (task.state = .read ∧
          task'.waitResult = some (.ok (overwrite task.siiData recv.data, task'.readSize))) ∨
        (task.state ≠ .read ∧ task'.waitResult = none)) := by
  by_cases haccepted : recv.Echoes task.command ∧ recv.wkc = 1
  · rw [recieveAndProcess, checked, checkedState_of_accepted _ haccepted] at h
    dsimp only at h
    split at h
    case h_1 hstate | h_2 hstate | h_10 hstate =>
      rw [isBusy, hstate] at hbusy
      cases hbusy
    case h_3 hstate =>
      simp only [processInit, bind_eq_ok] at h
      obtain ⟨_, -, _, -, _, -, _, -, _, -, _, -, _, -, _, -, heq⟩ := h
      cases heq
      refine ⟨?_, ?_, .inr (.inr ⟨by rw [hstate]; rintro ⟨⟩, rfl⟩)⟩ <;> dsimp only <;> split_ifs <;> rfl
    case h_5 hstate =>
      simp only [processCheckOwnership, bind_eq_ok] at h
      obtain ⟨_, -, _, -, heq⟩ := h
      cases heq
      refine ⟨?_, ?_, .inr (.inr ⟨by rw [hstate]; rintro ⟨⟩, rfl⟩)⟩ <;> dsimp only <;> split_ifs <;> rfl
    case h_8 hstate =>
      simp only [processWait, bind_eq_ok] at h
      obtain ⟨_, -, _, -, _, -, heq⟩ := h
      cases heq
      have hread : task.state ≠ .read := by
        rw [hstate]
        rintro ⟨⟩
      split_ifs
      · exact ⟨rfl, rfl, .inl rfl⟩
      · exact ⟨rfl, rfl, .inr (.inr ⟨hread, rfl⟩)⟩
      · exact ⟨rfl, rfl, .inl rfl⟩
      · exact ⟨rfl, rfl, .inr (.inr ⟨hread, by rw [waitResult, hstate]⟩)⟩
    case h_9 hstate =>
      cases h
      exact ⟨rfl, length_overwrite _ _, .inr (.inl ⟨hstate, rfl⟩)⟩
    all_goals
      rename_i hstate
      cases h
      exact ⟨rfl, rfl, .inr (.inr ⟨by rw [hstate]; rintro ⟨⟩, rfl⟩)⟩
  · obtain ⟨e, herror⟩ := checkedState_of_not_accepted State.error haccepted task.state
    rw [recieveAndProcess, checked, herror] at h
    cases h
    exact ⟨rfl, rfl, .inl rfl⟩

end SiiReader

namespace SlaveInitTask

/-! ## What the task asks for -/

/-- The addresses that the task reads, in order. -/
def siiAddresses : List UInt16 :=
  [Sii.venderId, Sii.productCode, Sii.revisionNumber, Sii.mailboxProtocol,
    Sii.standardRxMailboxSize, Sii.standardRxMailboxOffset, Sii.standardTxMailboxSize,
    Sii.standardTxMailboxOffset]

/-- How many of them it has read when it comes to a state. -/
def State.siiReads : State → ℕ
  | getProductCode _ => 1
  | getRevision _ => 2
  | getProtocol _ => 3
  | getRxMailboxSize _ => 4
  | getRxMailboxOffset _ => 5
  | getTxMailboxSize _ => 6
  | getTxMailboxOffset _ => 7
  | setSmControl _ | setSmActivation _ | setStationAddress | checkPdiControl | clearDcActivation
  | clearCyclicOperationStartTime | clearSync0CycleTime | clearSync1CycleTime | complete => 8
  | _ => 0

/-- The number of sync managers is known. -/
def State.pastDlInfo : State → Bool
  | idle | error _ | setLoopPort | requestInitState _ | resetErrorCount | setWatchDogDivider
  | disableDlWatchDog | disableSmWatchDog | checkDlStatus | checkDlInfo => false
  | _ => true

/-- The answer of the EEPROM that a response brings to the task: the address and the data. -/
def siiAnswer : SlaveInitTask × Pdu → Option (UInt16 × List UInt8)
  | (task, recv) =>
    match task.state.nesting, task.inner with
    | .sii _, .sii reader =>
      if reader.state = .read then some (reader.siiAddress, recv.data) else none
    | _, _ => none

/-- The DL information that a response brings to the task. -/
def dlInformation : SlaveInitTask × Pdu → Option (List UInt8)
  | (task, recv) => if task.state = .checkDlInfo then some recv.data else none

/-! ## The table of an answer -/

/-- The word that was asked for. -/
def firstWord (data : List UInt8) : UInt16 := .ofNat ((⟨15, 0, .lsb0⟩ : Field).val data)

/-- The table of sync managers that the task fills. -/
abbrev SmTable := Vector (Option SyncManagerType) 4

lemma rxMailbox_lt : 0 < 4 := by
  decide

lemma txMailbox_lt : 1 < 4 := by
  decide

lemma mailbox_lt (num : Fin 2) : num.val < 4 := by
  omega

lemma processData_lt (num : Fin 2) : num.val + 2 < 4 := by
  omega

/-- The table after the answer with the size of a mailbox. -/
def noteSize (num : Fin 2) (mailbox : SyncManager → SyncManagerType)
    (processData : SyncManagerType) (numberOfSm : UInt8) (sm : SmTable) (data : List UInt8) :
    SmTable :=
  if 4 ≤ numberOfSm ∧ SiiData.siiData.val data ≠ 0 then
    (sm.set num (some (mailbox ⟨.ofNat num.val, min (firstWord data) maxSmSize, 0⟩))
      (mailbox_lt num)).set (num.val + 2) (some processData) (processData_lt num)
  else if 2 ≤ numberOfSm then sm.set num (some processData) (mailbox_lt num)
  else sm

/-- The table after an answer. -/
def noteSm (numberOfSm : UInt8) (sm : SmTable) : UInt16 × List UInt8 → SmTable
  | (address, data) =>
    if address = Sii.standardRxMailboxSize then
      noteSize ⟨0, Nat.zero_lt_two⟩ .mailboxRx .processDataRx numberOfSm sm data
    else if address = Sii.standardTxMailboxSize then
      noteSize ⟨1, Nat.one_lt_two⟩ .mailboxTx .processDataTx numberOfSm sm data
    else if address = Sii.standardRxMailboxOffset then
      match getElem sm 0 rxMailbox_lt with
      | some (.mailboxRx mailbox) =>
        sm.set 0 (some (.mailboxRx { mailbox with startAddress := firstWord data }))
          rxMailbox_lt
      | _ => sm
    else if address = Sii.standardTxMailboxOffset then
      match getElem sm 1 txMailbox_lt with
      | some (.mailboxTx mailbox) =>
        sm.set 1 (some (.mailboxTx { mailbox with startAddress := firstWord data }))
          txMailbox_lt
      | _ => sm
    else sm

lemma firstWord_eq (data : List UInt8) : firstWord data = .ofNat (SiiData.siiData.val data) := by
  have hlow : (⟨15, 0, .lsb0⟩ : Field).val data = SiiData.siiData.val data % 2 ^ 16 := by
    apply Nat.eq_of_testBit_eq
    intro k
    rw [Nat.testBit_mod_two_pow, Field.testBit_val, Field.testBit_val]
    by_cases hk : k < 16
    · have hwide : k < SiiData.siiData.width := Nat.lt_trans hk (by decide)
      have hlow : k < (⟨15, 0, .lsb0⟩ : Field).width := hk
      simp only [hk, hwide, hlow, decide_true, Bool.true_and]
      rfl
    · have hlow : ¬ k < (⟨15, 0, .lsb0⟩ : Field).width := hk
      simp [hk, hlow]
  rw [firstWord, hlow]
  apply UInt16.toNat_inj.mp
  simp

lemma siiWord_eq_ok {data : List UInt8} {word : UInt16} (h : siiWord data = .ok word) :
    word = firstWord data := by
  obtain ⟨value, hvalue, heq⟩ := bind_eq_ok.mp h
  cases heq
  obtain ⟨-, rfl⟩ := Field.get_eq_ok_iff.mp hvalue
  exact (firstWord_eq data).symm

lemma setProcessDataSmSizeOffset_sm {info info' : SlaveInfo}
    (h : setProcessDataSmSizeOffset info = .ok info') :
    info'.sm = info.sm ∧ info'.numberOfSm = info.numberOfSm := by
  obtain ⟨sm0, -, h⟩ := bind_eq_ok.mp h
  obtain ⟨sm1, -, h⟩ := bind_eq_ok.mp h
  split at h
  · simp only [bind_eq_ok] at h
    obtain ⟨_, -, _, -, _, -, _, -, _, -, _, -, _, -, h⟩ := h
    rcases ite_eq_iff.mp h with ⟨-, heq⟩ | ⟨-, h⟩
    · cases heq
      exact ⟨rfl, rfl⟩
    · obtain ⟨pdoStartAddress, -, heq⟩ := bind_eq_ok.mp h
      cases heq
      exact ⟨rfl, rfl⟩
  · cases h
    exact ⟨rfl, rfl⟩

/-- What an arm notes of the answer at an address. -/
def Notes (address : UInt16) (done : SlaveInfo → List UInt8 → Exec SlaveInfo) : Prop :=
  ∀ info data info', done info data = .ok info' →
    info'.numberOfSm = info.numberOfSm ∧
      info'.sm = noteSm info.numberOfSm info.sm (address, data)

lemma noteSm_of_ne {address : UInt16} (h : address ∉ [Sii.standardRxMailboxSize,
    Sii.standardTxMailboxSize, Sii.standardRxMailboxOffset, Sii.standardTxMailboxOffset])
    (numberOfSm : UInt8) (sm : SmTable) (data : List UInt8) :
    noteSm numberOfSm sm (address, data) = sm := by
  simp only [List.mem_cons, List.not_mem_nil, or_false, not_or] at h
  rw [noteSm, if_neg h.1, if_neg h.2.1, if_neg h.2.2.1, if_neg h.2.2.2]

lemma notes_venderID : Notes Sii.venderId noteVenderID := by
  intro info data info' h
  obtain ⟨word, -, heq⟩ := bind_eq_ok.mp h
  cases heq
  exact ⟨rfl, (noteSm_of_ne (by decide) _ _ _).symm⟩

lemma notes_productCode : Notes Sii.productCode noteProductCode := by
  intro info data info' h
  obtain ⟨word, -, heq⟩ := bind_eq_ok.mp h
  cases heq
  exact ⟨rfl, (noteSm_of_ne (by decide) _ _ _).symm⟩

lemma notes_revision : Notes Sii.revisionNumber noteRevision := by
  intro info data info' h
  obtain ⟨word, -, heq⟩ := bind_eq_ok.mp h
  cases heq
  exact ⟨rfl, (noteSm_of_ne (by decide) _ _ _).symm⟩

lemma notes_protocol : Notes Sii.mailboxProtocol noteProtocol := by
  intro info data info' h
  obtain ⟨supportCoe, -, heq⟩ := bind_eq_ok.mp h
  cases heq
  exact ⟨rfl, (noteSm_of_ne (by decide) _ _ _).symm⟩

lemma noteMailboxSize_eq_ok {num : Fin 2} {mailbox : SyncManager → SyncManagerType}
    {processData : SyncManagerType} {info info' : SlaveInfo} {data : List UInt8}
    (h : noteMailboxSize num mailbox processData info data = .ok info') :
    info'.numberOfSm = info.numberOfSm ∧
      info'.sm = noteSize num mailbox processData info.numberOfSm info.sm data := by
  obtain ⟨value, hvalue, h⟩ := bind_eq_ok.mp h
  obtain ⟨-, rfl⟩ := Field.get_eq_ok_iff.mp hvalue
  rw [noteSize, firstWord_eq]
  split_ifs at h ⊢ <;> cases h <;> exact ⟨rfl, rfl⟩

lemma notes_rxMailboxSize : Notes Sii.standardRxMailboxSize noteRxMailboxSize :=
  fun _ _ _ h => noteMailboxSize_eq_ok h

lemma notes_txMailboxSize : Notes Sii.standardTxMailboxSize noteTxMailboxSize :=
  fun _ _ _ h => noteMailboxSize_eq_ok h

lemma notes_rxMailboxOffset : Notes Sii.standardRxMailboxOffset noteRxMailboxOffset := by
  intro info data info' h
  obtain ⟨slot, hslot, h⟩ := bind_eq_ok.mp h
  have hslot : info.sm[0] = slot := by simpa using index_eq_ok_iff.mp hslot
  rw [noteSm, if_neg (by decide), if_neg (by decide), if_pos rfl, hslot]
  rcases slot with _ | (mailbox | mailbox | _ | _)
  case some.mailboxRx =>
    obtain ⟨word, hword, heq⟩ := bind_eq_ok.mp h
    rw [siiWord_eq_ok hword] at heq
    cases heq
    exact ⟨rfl, rfl⟩
  all_goals
    obtain rfl : info = info' := Except.ok.inj h
    exact ⟨rfl, rfl⟩

lemma notes_txMailboxOffset : Notes Sii.standardTxMailboxOffset noteTxMailboxOffset := by
  intro info data info' h
  obtain ⟨slot, hslot, h⟩ := bind_eq_ok.mp h
  have hslot : info.sm[1] = slot := by simpa using index_eq_ok_iff.mp hslot
  rw [noteSm, if_neg (by decide), if_neg (by decide), if_neg (by decide), if_pos rfl, hslot]
  rcases slot with _ | (mailbox | mailbox | _ | _)
  case some.mailboxTx =>
    obtain ⟨word, hword, h⟩ := bind_eq_ok.mp h
    rw [siiWord_eq_ok hword] at h
    obtain ⟨hsm, hnumber⟩ := setProcessDataSmSizeOffset_sm h
    exact ⟨hnumber, hsm⟩
  all_goals
    obtain ⟨hsm, hnumber⟩ := setProcessDataSmSizeOffset_sm h
    exact ⟨hnumber, hsm⟩

/-! ## The invariant of a run -/

/-- The table is the one of the answers that have been seen so far. -/
structure Reads (task : SlaveInitTask) (seen : List (SlaveInitTask × Pdu)) : Prop where
  addresses : (seen.filterMap siiAnswer).map Prod.fst = siiAddresses.take task.state.siiReads
  table : ∃ info, task.slaveInfo = some info ∧
    info.sm = (seen.filterMap siiAnswer).foldl (noteSm info.numberOfSm) (Vector.replicate 4 none) ∧
    (task.state.pastDlInfo = true → ∃ data, seen.filterMap dlInformation = [data] ∧
      info.numberOfSm = .ofNat (DlInformation.numberOfSupportedSmChannels.val data))
  unknown : task.state.pastDlInfo = false → seen.filterMap dlInformation = []

/-- The data of a reader are an array of eight bytes. -/
def ReaderWide (task : SlaveInitTask) : Prop :=
  ∀ reader, task.inner = .sii reader → reader.siiData.length = SiiData.size

/-- The reader reads the address whose turn it is. -/
def ReaderAt (task : SlaveInitTask) : Prop :=
  ∃ reader, task.inner = .sii reader ∧
    siiAddresses[task.state.siiReads]? = some reader.siiAddress

/-! ## The next PDU -/

@[simp] lemma noteCommand_slaveInfo (task : SlaveInitTask) (pdu : Option (Command × ℕ)) :
    (task.noteCommand pdu).slaveInfo = task.slaveInfo := by
  unfold noteCommand
  split <;> rfl

/-- A PDU changes nothing of the table. -/
lemma nextPdu_slaveInfo {task task' : SlaveInitTask} {buf : List UInt8}
    {pdu : Option (Command × ℕ) × List UInt8} (h : task.nextPdu buf = .ok (pdu, task'))
    {info : SlaveInfo} (hinfo : task.slaveInfo = some info) :
    ∃ info', task'.slaveInfo = some info' ∧ info'.sm = info.sm ∧
      info'.numberOfSm = info.numberOfSm := by
  unfold nextPdu at h
  dsimp only at h
  split at h
  case h_1 | h_2 | h_3 =>
    cases h
    exact ⟨info, hinfo, rfl, rfl⟩
  case h_5 =>
    obtain ⟨alTransfer, alTransfer', -, -, rfl⟩ := nextAlStateTransfer_eq_ok h
    exact ⟨info, (noteCommand_slaveInfo _ _).trans hinfo, rfl, rfl⟩
  case h_14 | h_15 | h_16 | h_17 | h_18 | h_19 | h_20 | h_21 =>
    obtain ⟨reader, reader', -, -, rfl⟩ := nextSii_eq_ok h
    exact ⟨info, (noteCommand_slaveInfo _ _).trans hinfo, rfl, rfl⟩
  case h_22 | h_23 =>
    obtain ⟨sm, -, h⟩ := bind_eq_ok.mp h
    obtain ⟨-, -, rfl⟩ := send_eq_ok h
    exact ⟨info, hinfo, rfl, rfl⟩
  case h_24 =>
    obtain ⟨addr, -, h⟩ := bind_eq_ok.mp h
    obtain ⟨info₁, hunwrap, h⟩ := bind_eq_ok.mp h
    rw [hinfo] at hunwrap
    cases hunwrap
    obtain ⟨-, -, rfl⟩ := send_eq_ok h
    exact ⟨_, rfl, rfl, rfl⟩
  all_goals
    obtain ⟨-, -, rfl⟩ := send_eq_ok h
    exact ⟨info, hinfo, rfl, rfl⟩

lemma nextPdu_of_sii {task : SlaveInitTask} {isFirst : Bool}
    (h : task.state.nesting = .sii isFirst) (buf : List UInt8) :
    ∃ task₁ : SlaveInitTask, (task₁ = task ∨ task₁ = { task with inner := task.inner.intoSii }) ∧
      ∃ address, siiAddresses[task.state.siiReads]? = some address ∧
        task.nextPdu buf = task₁.nextSii isFirst address buf := by
  rcases hstate : task.state <;> rw [hstate] at h <;> cases h
  case getVenderID => exact ⟨_, .inr rfl, Sii.venderId, rfl, by rw [nextPdu, hstate]⟩
  case getProductCode => exact ⟨task, .inl rfl, Sii.productCode, rfl, by rw [nextPdu, hstate]⟩
  case getRevision => exact ⟨task, .inl rfl, Sii.revisionNumber, rfl, by rw [nextPdu, hstate]⟩
  case getProtocol => exact ⟨task, .inl rfl, Sii.mailboxProtocol, rfl, by rw [nextPdu, hstate]⟩
  case getRxMailboxSize =>
    exact ⟨task, .inl rfl, Sii.standardRxMailboxSize, rfl, by rw [nextPdu, hstate]⟩
  case getRxMailboxOffset =>
    exact ⟨task, .inl rfl, Sii.standardRxMailboxOffset, rfl, by rw [nextPdu, hstate]⟩
  case getTxMailboxSize =>
    exact ⟨task, .inl rfl, Sii.standardTxMailboxSize, rfl, by rw [nextPdu, hstate]⟩
  case getTxMailboxOffset =>
    exact ⟨task, .inl rfl, Sii.standardTxMailboxOffset, rfl, by rw [nextPdu, hstate]⟩

lemma intoSii_wide {task : SlaveInitTask} (hwide : task.ReaderWide) {reader : SiiReader}
    (h : task.inner.intoSii = .sii reader) : reader.siiData.length = SiiData.size := by
  rcases hinner : task.inner with _ | reader₁ | alTransfer <;> rw [hinner] at h <;> cases h
  · rfl
  · exact hwide reader hinner
  · rfl

/-- The PDU of a state that reads the EEPROM leaves the reader at its address, and if it fetches
the data it has eight bytes. -/
lemma nextPdu_reader {task task' : SlaveInitTask} {buf buf' : List UInt8}
    {pdu : Option (Command × ℕ)} {isFirst : Bool} (hnesting : task.state.nesting = .sii isFirst)
    (hwide : task.ReaderWide) (hat : isFirst = false → task.ReaderAt)
    (h : task.nextPdu buf = .ok ((pdu, buf'), task')) :
    ∃ reader, task'.inner = .sii reader ∧ reader.siiData.length = SiiData.size ∧
      siiAddresses[task.state.siiReads]? = some reader.siiAddress ∧
      (reader.state = .read → pdu.map Prod.snd = some SiiData.size ∧
        SiiData.size ≤ buf'.length) := by
  obtain ⟨task₁, htask, address, haddress, heq⟩ := nextPdu_of_sii hnesting buf
  rw [heq] at h
  obtain ⟨reader, reader', hreader, hnext, rfl⟩ := nextSii_eq_ok h
  obtain ⟨hstate, hsame, hdata⟩ := SiiReader.nextPdu_frame hnext
  refine ⟨reader', noteCommand_inner _ _, ?_, ?_, fun hread => ?_⟩
  · have hlength : reader.siiData.length = SiiData.size := by
      rcases htask with rfl | rfl
      · exact hwide reader hreader
      · exact intoSii_wide hwide hreader
    rw [hdata]
    split <;> exact hlength
  · rw [hsame, haddress]
    rcases isFirst with _ | _
    · obtain ⟨reader₁, hreader₁, hat⟩ := hat rfl
      have hsame : reader₁ = reader := by
        rcases htask with rfl | rfl
        · rw [hreader₁] at hreader
          exact InnerFunction.sii.inj hreader
        · dsimp only at hreader
          rw [hreader₁] at hreader
          exact InnerFunction.sii.inj hreader
      rw [← haddress, hat, hsame]
      rfl
    · rfl
  · rw [hstate] at hread
    exact SiiReader.nextPdu_read hread hnext

/-! ## A response -/

section
variable {task task' : SlaveInitTask} {seen : List (SlaveInitTask × Pdu)} {recv : Pdu}

lemma Reads.congr (h : task.Reads seen) (hreads : task'.state.siiReads = task.state.siiReads)
    (hpast : task'.state.pastDlInfo = task.state.pastDlInfo)
    (hinfo : ∀ info, task.slaveInfo = some info → ∃ info', task'.slaveInfo = some info' ∧
      info'.sm = info.sm ∧ info'.numberOfSm = info.numberOfSm) : task'.Reads seen := by
  obtain ⟨info, hsome, hsm, hnumber⟩ := h.table
  obtain ⟨info', hsome', hsm', hnumber'⟩ := hinfo info hsome
  rw [← hpast] at hnumber
  exact ⟨hreads ▸ h.addresses,
    ⟨info', hsome', by rw [hsm', hnumber', hsm], by rwa [hnumber']⟩, hpast ▸ h.unknown⟩

lemma Reads.silent (h : task.Reads seen) {entry : SlaveInitTask × Pdu}
    (hsii : siiAnswer entry = none) (hdl : dlInformation entry = none) :
    task.Reads (seen ++ [entry]) := by
  have hsii : (seen ++ [entry]).filterMap siiAnswer = seen.filterMap siiAnswer := by
    rw [List.filterMap_append, List.filterMap_cons_none hsii, List.filterMap_nil, List.append_nil]
  have hdl : (seen ++ [entry]).filterMap dlInformation = seen.filterMap dlInformation := by
    rw [List.filterMap_append, List.filterMap_cons_none hdl, List.filterMap_nil, List.append_nil]
  obtain ⟨haddresses, htable, hunknown⟩ := h
  exact ⟨by rwa [hsii], by rwa [hsii, hdl], by rwa [hdl]⟩

lemma siiAnswer_of_sii {isFirst : Bool} {reader : SiiReader}
    (hnesting : task.state.nesting = .sii isFirst) (hinner : task.inner = .sii reader) :
    siiAnswer (task, recv) =
      if reader.state = .read then some (reader.siiAddress, recv.data) else none := by
  rw [siiAnswer, hnesting, hinner]

lemma siiAnswer_eq_none (h : ∀ isFirst, task.state.nesting ≠ .sii isFirst) :
    siiAnswer (task, recv) = none := by
  rw [siiAnswer]
  split
  · next isFirst _ hnesting _ => exact absurd hnesting (h isFirst)
  · rfl

/-- What a response leaves: the table of what has been seen, and the reader where it was. -/
structure Processing (task : SlaveInitTask) (seen : List (SlaveInitTask × Pdu)) : Prop where
  reads : task.Reads seen
  wide : task.ReaderWide
  readerAt : task.state.nesting = .sii false → task.ReaderAt

/-- An arm that reads the EEPROM. -/
lemma processSii_processing {sysTime : ℕ} {again next : State} {address : UInt16}
    {isFirst : Bool} {done : SlaveInfo → List UInt8 → Exec SlaveInfo} (hreads : task.Reads seen)
    (hnesting : task.state.nesting = .sii isFirst) (hout : task.Out) (hwide : task.ReaderWide)
    (hat : task.ReaderAt) (haddress : siiAddresses[task.state.siiReads]? = some address)
    (hnotes : Notes address done) (hpast : task.state.pastDlInfo = true)
    (hagain : again.siiReads = task.state.siiReads ∧ again.pastDlInfo = true)
    (hnext : next.siiReads = task.state.siiReads + 1 ∧ next.pastDlInfo = true ∧
      next.nesting ≠ .sii false)
    (hrecv : ∀ answer ∈ siiAnswer (task, recv), answer.2.length = SiiData.size)
    (h : task.processSii recv sysTime again next done = .ok task') :
    task'.failure.isSome = true ∨ task'.Processing (seen ++ [(task, recv)]) := by
  rw [Out, hnesting] at hout
  obtain ⟨reader, hinner, hbusy⟩ := hout
  obtain ⟨reader₁, hreader₁, hat⟩ := hat
  obtain rfl : reader = reader₁ := InnerFunction.sii.inj (hinner.symm.trans hreader₁)
  have hanswer : siiAnswer (task, recv) = _ := siiAnswer_of_sii hnesting hinner
  have hdl : dlInformation (task, recv) = none := by
    rw [dlInformation, if_neg]
    intro hstate
    rw [hstate] at hnesting
    cases hnesting
  obtain ⟨reader₂, hunwrap, h⟩ := bind_eq_ok.mp h
  rw [hinner] at hunwrap
  cases hunwrap
  obtain ⟨reader', hrecieve, h⟩ := bind_eq_ok.mp h
  obtain ⟨hsame, hlength, hresult⟩ := SiiReader.recieveAndProcess_answer hbusy hrecieve
  have hwide' : ∀ reader'', InnerFunction.sii reader' = .sii reader'' →
      reader''.siiData.length = SiiData.size := by
    rintro reader'' ⟨⟩
    rw [hlength]
    exact hwide reader hinner
  dsimp only at h
  rcases hresult with hfailure | ⟨hread, hresult⟩ | ⟨hread, hresult⟩
  · left
    unfold SiiReader.failure at hfailure
    unfold SiiReader.waitResult at h
    rcases hstate : reader'.state <;> rw [hstate] at h hfailure <;> cases hfailure
    cases h
    rfl
  · -- the answer is noted
    right
    rw [if_pos hread] at hanswer
    have height := hrecv _ hanswer
    rw [hresult, overwrite_of_length_eq (height.trans (hwide reader hinner).symm)] at h
    obtain ⟨info, hinfo, h⟩ := bind_eq_ok.mp h
    obtain ⟨info', hdone, heq⟩ := bind_eq_ok.mp h
    cases heq
    obtain rfl : reader.siiAddress = address := Option.some.inj (hat.symm.trans haddress)
    obtain ⟨haddresses, ⟨info₁, hinfo₁, hsm, hnumber⟩, -⟩ := hreads
    obtain rfl : info₁ = info :=
      Option.some.inj (hinfo₁.symm.trans (unwrap_eq_ok_iff.mp hinfo))
    obtain ⟨hnumber', hsm'⟩ := hnotes _ _ _ hdone
    have hanswers : (seen ++ [(task, recv)]).filterMap siiAnswer =
        seen.filterMap siiAnswer ++ [(reader.siiAddress, recv.data)] := by
      rw [List.filterMap_append, List.filterMap_cons_some hanswer, List.filterMap_nil]
    have hinformation : (seen ++ [(task, recv)]).filterMap dlInformation =
        seen.filterMap dlInformation := by
      rw [List.filterMap_append, List.filterMap_cons_none hdl, List.filterMap_nil, List.append_nil]
    refine ⟨⟨?_, ⟨info', rfl, ?_, fun _ => ?_⟩, fun hpast => ?_⟩, hwide',
      fun hnesting => absurd hnesting hnext.2.2⟩
    · rw [hanswers, List.map_append, haddresses]
      dsimp only
      rw [hnext.1, List.take_add_one, haddress]
      rfl
    · rw [hanswers, List.foldl_append, hnumber', ← hsm, hsm']
      rfl
    · rw [hinformation, hnumber']
      exact hnumber hpast
    · rw [hnext.2.1] at hpast
      cases hpast
  · right
    rw [if_neg hread] at hanswer
    rw [hresult] at h
    cases h
    have hkept : Reads { task with inner := .sii reader', state := again } seen :=
      hreads.congr hagain.1 (hagain.2.trans hpast.symm) fun info hinfo => ⟨info, hinfo, rfl, rfl⟩
    refine ⟨hkept.silent hanswer hdl, hwide', fun _ => ⟨reader', rfl, ?_⟩⟩
    rw [hsame, ← hat]
    exact congrArg (siiAddresses[·]?) hagain.1

/-- **A response.** -/
lemma processState_processing {sysTime : ℕ} (hreads : task.Reads seen) (hout : task.Out)
    (hwide : task.ReaderWide)
    (hat : ∀ isFirst, task.state.nesting = .sii isFirst → task.ReaderAt)
    (hrecv : ∀ answer ∈ siiAnswer (task, recv), answer.2.length = SiiData.size)
    (h : task.processState recv sysTime = .ok task') :
    task'.failure.isSome = true ∨ task'.Processing (seen ++ [(task, recv)]) := by
  -- the arms that leave the table as it is
  have hplain : ∀ task'' : SlaveInitTask, (∀ isFirst, task.state.nesting ≠ .sii isFirst) →
      task.state ≠ .checkDlInfo → task''.ReaderWide →
      task''.state.siiReads = task.state.siiReads →
      task''.state.pastDlInfo = task.state.pastDlInfo → task''.state.nesting ≠ .sii false →
      (∀ info, task.slaveInfo = some info → ∃ info', task''.slaveInfo = some info' ∧
        info'.sm = info.sm ∧ info'.numberOfSm = info.numberOfSm) →
      task''.Processing (seen ++ [(task, recv)]) := by
    intro task'' hnesting hstate hwide' hcount hpast hnext hinfo
    refine ⟨(hreads.congr hcount hpast hinfo).silent (siiAnswer_eq_none hnesting) ?_, hwide',
      fun hsii => absurd hsii hnext⟩
    rw [dlInformation, if_neg hstate]
  unfold processState at h
  dsimp only at h
  split at h
  case h_1 e hstate =>
    cases h
    left
    rw [failure, hstate]
    rfl
  case h_2 hstate | h_3 hstate =>
    cases h
    exact .inr (hplain task (by rw [hstate]; rintro _ ⟨⟩) (by rw [hstate]; rintro ⟨⟩) hwide rfl rfl
      (by rw [hstate]; rintro ⟨⟩) fun info hinfo => ⟨info, hinfo, rfl, rfl⟩)
  case h_5 isFirst hstate =>
    obtain ⟨alTransfer, -, h⟩ := bind_eq_ok.mp h
    obtain ⟨⟨next, alTransfer'⟩, -, heq⟩ := bind_eq_ok.mp h
    cases heq
    cases next with
    | error e => exact .inl rfl
    | _ =>
      refine .inr (hplain _ (by rw [hstate]; rintro _ ⟨⟩) (by rw [hstate]; rintro ⟨⟩)
        (by rintro reader ⟨⟩) (by rw [hstate]; rfl) (by rw [hstate]; rfl) (by rintro ⟨⟩)
        fun info hinfo => ⟨info, hinfo, rfl, rfl⟩)
  case h_10 hstate =>
    obtain ⟨pdiOperational, -, h⟩ := bind_eq_ok.mp h
    split at h
    · cases h
      exact .inl rfl
    · simp only [bind_eq_ok] at h
      obtain ⟨info₁, hunwrap, _, -, _, -, _, -, _, -, heq⟩ := h
      cases heq
      refine .inr (hplain _ (by rw [hstate]; rintro _ ⟨⟩) (by rw [hstate]; rintro ⟨⟩) hwide
        (by rw [hstate]; rfl) (by rw [hstate]; rfl) (by rintro ⟨⟩) fun info hinfo => ?_)
      rw [hinfo] at hunwrap
      cases hunwrap
      exact ⟨_, rfl, rfl, rfl⟩
  case h_11 hstate =>
    -- the number of sync managers becomes known, and nothing has been read yet
    simp only [processDlInfo, bind_eq_ok] at h
    obtain ⟨info, hunwrap, _, -, _, -, _, -, _, -, _, -, _, -, _, -, _, -, _, -, _, -, _, -, _, -,
      numberOfSm, hnumber, heq⟩ := h
    cases heq
    obtain ⟨-, rfl⟩ := Field.get_eq_ok_iff.mp hnumber
    obtain ⟨haddresses, ⟨info₁, hinfo, hsm, -⟩, hunknown⟩ := hreads
    obtain rfl : info₁ = info := Option.some.inj (hinfo.symm.trans (unwrap_eq_ok_iff.mp hunwrap))
    have hnone : seen.filterMap siiAnswer = [] := by
      rw [hstate] at haddresses
      exact List.map_eq_nil_iff.mp haddresses
    have hanswer : (seen ++ [(task, recv)]).filterMap siiAnswer = [] := by
      rw [List.filterMap_append, hnone, List.filterMap_cons_none (siiAnswer_eq_none ?_)]
      · rfl
      · rw [hstate]
        rintro _ ⟨⟩
    have hinformation : (seen ++ [(task, recv)]).filterMap dlInformation = [recv.data] := by
      have hdl : dlInformation (task, recv) = some recv.data := by
        rw [dlInformation, if_pos hstate]
      rw [List.filterMap_append, hunknown (by rw [hstate]; rfl), List.filterMap_cons_some hdl]
      rfl
    refine .inr ⟨⟨?_, ⟨_, rfl, ?_, fun _ => ⟨recv.data, hinformation, rfl⟩⟩, by rintro ⟨⟩⟩, hwide,
      by rintro ⟨⟩⟩
    · rw [hanswer]
      rfl
    · rw [hanswer]
      rw [hnone] at hsm
      exact hsm
  case h_12 hstate =>
    cases h
    split <;> exact .inr (hplain _ (by rw [hstate]; rintro _ ⟨⟩) (by rw [hstate]; rintro ⟨⟩) hwide
      (by rw [hstate]; rfl) (by rw [hstate]; rfl) (by rintro ⟨⟩)
      fun info hinfo => ⟨info, hinfo, rfl, rfl⟩)
  case h_13 hstate =>
    cases h
    split <;> exact .inr (hplain _ (by rw [hstate]; rintro _ ⟨⟩) (by rw [hstate]; rintro ⟨⟩) hwide
      (by rw [hstate]; rfl) (by rw [hstate]; rfl) (by rintro ⟨⟩)
      fun info hinfo => ⟨info, hinfo, rfl, rfl⟩)
  case h_14 isFirst hstate | h_15 isFirst hstate | h_16 isFirst hstate | h_17 isFirst hstate
    | h_18 isFirst hstate | h_19 isFirst hstate | h_20 isFirst hstate | h_21 isFirst hstate =>
    have hnesting : task.state.nesting = .sii isFirst := by rw [hstate]; rfl
    refine processSii_processing hreads hnesting hout hwide (hat isFirst hnesting)
      (by rw [hstate]; rfl) ?_ (by rw [hstate]; rfl) ⟨by rw [hstate]; rfl, rfl⟩
      ⟨by rw [hstate]; rfl, rfl, by rintro ⟨⟩⟩ hrecv h
    first
    | exact notes_venderID
    | exact notes_productCode
    | exact notes_revision
    | exact notes_protocol
    | exact notes_rxMailboxSize
    | exact notes_rxMailboxOffset
    | exact notes_txMailboxSize
    | exact notes_txMailboxOffset
  case h_23 hstate =>
    cases h
    split <;> exact .inr (hplain _ (by rw [hstate]; rintro _ ⟨⟩) (by rw [hstate]; rintro ⟨⟩) hwide
      (by rw [hstate]; rfl) (by rw [hstate]; rfl) (by rintro ⟨⟩)
      fun info hinfo => ⟨info, hinfo, rfl, rfl⟩)
  case h_25 hstate =>
    obtain ⟨info₁, hunwrap, h⟩ := bind_eq_ok.mp h
    obtain ⟨strictAlControl, -, heq⟩ := bind_eq_ok.mp h
    cases heq
    have hinfo : ∀ info, task.slaveInfo = some info → info = info₁ := by
      intro info hinfo
      rw [hinfo] at hunwrap
      cases hunwrap
      rfl
    split <;> exact .inr (hplain _ (by rw [hstate]; rintro _ ⟨⟩) (by rw [hstate]; rintro ⟨⟩) hwide
      (by rw [hstate]; rfl) (by rw [hstate]; rfl) (by rintro ⟨⟩)
      fun info hsome => ⟨_, rfl, by rw [hinfo info hsome], by rw [hinfo info hsome]⟩)
  all_goals
    rename_i hstate
    cases h
    exact .inr (hplain _ (by rw [hstate]; rintro _ ⟨⟩) (by rw [hstate]; rintro ⟨⟩) hwide
      (by rw [hstate]; rfl) (by rw [hstate]; rfl) (by rintro ⟨⟩)
      fun info hinfo => ⟨info, hinfo, rfl, rfl⟩)

end

/-! ## Runs -/

lemma recieveAndProcess_failure {task task' : SlaveInitTask} {recv : Pdu} {sysTime : ℕ}
    (hfailure : task.failure.isSome = true) (h : task.recieveAndProcess recv sysTime = .ok task') :
    task'.failure.isSome = true := by
  have hstate : ∃ e, task.state = .error e := by
    unfold failure at hfailure
    rcases hstate : task.state <;> rw [hstate] at hfailure <;> cases hfailure
    exact ⟨_, rfl⟩
  obtain ⟨e, hstate⟩ := hstate
  have hchecked : ∃ e', (task.checked recv).state = .error e' := by
    by_cases haccepted : recv.Echoes task.command ∧ recv.wkc = 1
    · exact ⟨e, by rw [checked, checkedState_of_accepted _ haccepted, hstate]⟩
    · exact checkedState_of_not_accepted State.error haccepted task.state
  obtain ⟨e', hchecked⟩ := hchecked
  rw [recieveAndProcess, processState, hchecked] at h
  cases h
  rw [failure, hchecked]
  rfl

/-- The invariant of a run that has not failed. -/
structure Held (d : Driven SlaveInitTask) (seen : List (SlaveInitTask × Pdu)) : Prop where
  out : d.task.Out
  reads : d.task.Reads seen
  wide : d.task.ReaderWide
  readerAt : ∀ isFirst, d.task.state.nesting = .sii isFirst → d.task.ReaderAt
  sent : ∀ isFirst reader, d.task.state.nesting = .sii isFirst → d.task.inner = .sii reader →
    reader.state = .read → ∃ command dataBuf,
      d.socket = .store (some (command, SiiData.size)) dataBuf ∧ SiiData.size ≤ dataBuf.length

/-- What a step shows to the task. -/
def shown (d : Driven SlaveInitTask) (reply : Reply) : List (SlaveInitTask × Pdu) :=
  (d.seen reply).toList.map fun recv => (d.task, recv)

/-- An answer of the EEPROM has eight bytes, as the PDU that fetches it. -/
lemma Held.length_answer {d : Driven SlaveInitTask} {seen : List (SlaveInitTask × Pdu)}
    (h : Held d seen) {reply : Reply} {recv : Pdu} (hseen : d.seen reply = some recv) :
    ∀ answer ∈ siiAnswer (d.task, recv), answer.2.length = SiiData.size := by
  intro answer hanswer
  rw [siiAnswer] at hanswer
  split at hanswer
  · next isFirst reader hnesting hinner =>
      split_ifs at hanswer with hread
      · cases hanswer
        obtain ⟨command, dataBuf, hsocket, hlength⟩ := h.sent isFirst reader hnesting hinner hread
        rw [Driven.seen_eq (by rw [hsocket]; rfl) (by rw [hsocket]; exact hlength), hsocket] at hseen
        cases hseen
        exact List.length_take_of_le (by rw [length_overwrite]; exact hlength)
      · cases hanswer
  · cases hanswer

lemma nextPdu_wide {task task' : SlaveInitTask} {buf buf' : List UInt8}
    {pdu : Option (Command × ℕ)} (hwide : task.ReaderWide)
    (hnesting : ∀ isFirst, task.state.nesting ≠ .sii isFirst)
    (h : task.nextPdu buf = .ok ((pdu, buf'), task')) : task'.ReaderWide := by
  rcases nextPdu_cases h with ⟨-, -, rfl⟩ | ⟨-, task₁, -, hinner, command, size, assignments,
    hsend⟩ | ⟨isFirst, -, hnext⟩ | ⟨isFirst, hsii, -⟩
  · exact hwide
  · obtain ⟨-, -, rfl⟩ := send_eq_ok hsend
    rw [ReaderWide]
    exact hinner ▸ hwide
  · obtain ⟨alTransfer, alTransfer', -, -, rfl⟩ := nextAlStateTransfer_eq_ok hnext
    rw [ReaderWide, noteCommand_inner]
    rintro reader ⟨⟩
  · exact absurd hsii (hnesting isFirst)

/-- The next PDU, after a response or without one. -/
lemma held_of_nextPdu {d : Driven SlaveInitTask} {seen : List (SlaveInitTask × Pdu)}
    {task : SlaveInitTask} {dataBuf dataBuf' : List UInt8} {pdu : Option (Command × ℕ)}
    (hready : task.Ready) (hprocessing : task.Processing seen)
    (hnext : task.nextPdu dataBuf = .ok ((pdu, dataBuf'), d.task))
    (hsocket : d.socket = .store pdu dataBuf') : Held d seen := by
  obtain ⟨hstate, hout, -, -⟩ := nextPdu_out hready hnext
  have hreads : d.task.Reads seen :=
    hprocessing.reads.congr (by rw [hstate]) (by rw [hstate]) fun _ => nextPdu_slaveInfo hnext
  by_cases hsii : ∃ isFirst, task.state.nesting = .sii isFirst
  · obtain ⟨isFirst, hnesting⟩ := hsii
    obtain ⟨reader, hinner, hlength, haddress, hsent⟩ :=
      nextPdu_reader hnesting hprocessing.wide (by rintro rfl; exact hprocessing.readerAt hnesting)
        hnext
    refine ⟨hout, hreads, fun reader' hreader' => ?_, fun _ _ => ⟨reader, hinner, ?_⟩,
      fun _ reader' _ hreader' hread => ?_⟩
    · rw [hinner] at hreader'
      cases hreader'
      exact hlength
    · rw [hstate, haddress]
    · rw [hinner] at hreader'
      cases hreader'
      obtain ⟨hpdu, hsize⟩ := hsent hread
      rcases pdu with _ | ⟨command, size⟩
      · cases hpdu
      · cases hpdu
        exact ⟨command, dataBuf', hsocket, hsize⟩
  · rw [not_exists] at hsii
    rw [← hstate] at hsii
    exact ⟨hout, hreads, nextPdu_wide hprocessing.wide (hstate ▸ hsii) hnext,
      fun isFirst hnesting => absurd hnesting (hsii isFirst),
      fun isFirst _ hnesting => absurd hnesting (hsii isFirst)⟩

lemma nextPdu_failure {task task' : SlaveInitTask} {buf : List UInt8}
    {pdu : Option (Command × ℕ) × List UInt8} (hfailure : task.failure.isSome = true)
    (h : task.nextPdu buf = .ok (pdu, task')) : task'.failure.isSome = true := by
  rcases hstate : task.state
  case error e =>
    rw [nextPdu, hstate] at h
    cases h
    exact hfailure
  all_goals
    rw [failure, hstate] at hfailure
    cases hfailure

/-- **A step.** -/
lemma held_step {d d' : Driven SlaveInitTask} {reply : Reply} {seen : List (SlaveInitTask × Pdu)}
    (h : d.task.failure.isSome = true ∨ Held d seen) (hstep : d.step reply = .ok d') :
    d'.task.failure.isSome = true ∨ Held d' (seen ++ shown d reply) := by
  rcases hseen : d.seen reply with _ | recv
  · obtain ⟨dataBuf, pdu, dataBuf', -, hnext, hsocket⟩ := Driven.step_eq_ok_of_unseen hseen hstep
    have hshown : shown d reply = [] := by rw [shown, hseen]; rfl
    rw [hshown, List.append_nil]
    rcases h with hfailure | hheld
    · exact .inl (nextPdu_failure hfailure hnext)
    · exact .inr (held_of_nextPdu (.inr hheld.out)
        ⟨hheld.reads, hheld.wide, hheld.readerAt false⟩ hnext hsocket)
  · obtain ⟨dataBuf, task, pdu, dataBuf', -, hrecieve, hnext, hsocket⟩ :=
      Driven.step_eq_ok_of_seen hseen hstep
    have hshown : shown d reply = [(d.task, recv)] := by rw [shown, hseen]; rfl
    rw [hshown]
    rcases h with hfailure | hheld
    · exact .inl (nextPdu_failure (recieveAndProcess_failure hfailure hrecieve) hnext)
    · obtain ⟨hready, -, -⟩ := recieveAndProcess_ready hheld.out hrecieve
      have hprocessed : task.failure.isSome = true ∨
          task.Processing (seen ++ [(d.task, recv)]) := by
        by_cases haccepted : recv.Echoes d.task.command ∧ recv.wkc = 1
        · change recieveAndProcess _ _ _ = _ at hrecieve
          rw [recieveAndProcess, checked, checkedState_of_accepted _ haccepted] at hrecieve
          exact processState_processing hheld.reads hheld.out hheld.wide hheld.readerAt
            (hheld.length_answer hseen) hrecieve
        · obtain ⟨e, herror⟩ := checkedState_of_not_accepted State.error haccepted d.task.state
          change recieveAndProcess _ _ _ = _ at hrecieve
          rw [recieveAndProcess, checked, herror] at hrecieve
          cases hrecieve
          exact .inl rfl
      rcases hprocessed with hfailure | hprocessing
      · exact .inl (nextPdu_failure hfailure hnext)
      · exact .inr (held_of_nextPdu hready hprocessing hnext hsocket)

end SlaveInitTask

end EtherCat
