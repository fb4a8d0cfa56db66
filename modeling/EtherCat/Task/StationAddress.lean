import EtherCat.Task.DcRequests
import EtherCat.Task.SmTable

/-!
# The station address of a slave

`SlaveInitTask` gives the slave at a position the station address behind the position.  No other
state touches the address that it notes, and no state behind `SetStationAddress` is reached without
the response to the PDU that writes it.
-/

namespace EtherCat

open Rust Rust.Exec BitField CyclicTask

namespace SlaveInitTask

/-- The states behind `SetStationAddress`. -/
def State.isAddressed : State → Bool
  | .checkPdiControl | .clearDcActivation | .clearCyclicOperationStartTime | .clearSync0CycleTime
  | .clearSync1CycleTime | .complete => true
  | _ => false

/-- The station address that the task has noted. -/
def noted (task : SlaveInitTask) : Option UInt16 := task.slaveInfo.map SlaveInfo.configuredAddress

/-! ## What is noted of the EEPROM -/

/-- An arm that notes an answer of the EEPROM leaves the station address alone. -/
def KeepsAddress (done : SlaveInfo → List UInt8 → Exec SlaveInfo) : Prop :=
  ∀ info data info', done info data = .ok info' → info'.configuredAddress = info.configuredAddress

lemma keepsAddress_venderID : KeepsAddress noteVenderID := by
  intro info data info' h
  obtain ⟨word, -, heq⟩ := bind_eq_ok.mp h
  cases heq
  rfl

lemma keepsAddress_productCode : KeepsAddress noteProductCode := by
  intro info data info' h
  obtain ⟨word, -, heq⟩ := bind_eq_ok.mp h
  cases heq
  rfl

lemma keepsAddress_revision : KeepsAddress noteRevision := by
  intro info data info' h
  obtain ⟨word, -, heq⟩ := bind_eq_ok.mp h
  cases heq
  rfl

lemma keepsAddress_protocol : KeepsAddress noteProtocol := by
  intro info data info' h
  obtain ⟨supportCoe, -, heq⟩ := bind_eq_ok.mp h
  cases heq
  rfl

lemma keepsAddress_mailboxSize (num : Fin 2) (mailbox : SyncManager → SyncManagerType)
    (processData : SyncManagerType) : KeepsAddress (noteMailboxSize num mailbox processData) := by
  intro info data info' h
  obtain ⟨value, -, h⟩ := bind_eq_ok.mp h
  dsimp only at h
  split_ifs at h
  all_goals
    cases h
    rfl

lemma setProcessDataSmSizeOffset_configuredAddress {info info' : SlaveInfo}
    (h : setProcessDataSmSizeOffset info = .ok info') :
    info'.configuredAddress = info.configuredAddress := by
  obtain ⟨sm0, -, h⟩ := bind_eq_ok.mp h
  obtain ⟨sm1, -, h⟩ := bind_eq_ok.mp h
  split at h
  · simp only [bind_eq_ok] at h
    obtain ⟨_, -, _, -, _, -, _, -, _, -, _, -, _, -, h⟩ := h
    rcases ite_eq_iff.mp h with ⟨-, heq⟩ | ⟨-, h⟩
    · cases heq
      rfl
    · obtain ⟨pdoStartAddress, -, heq⟩ := bind_eq_ok.mp h
      cases heq
      rfl
  · cases h
    rfl

lemma keepsAddress_rxMailboxOffset : KeepsAddress noteRxMailboxOffset := by
  intro info data info' h
  obtain ⟨slot, -, h⟩ := bind_eq_ok.mp h
  split at h
  · obtain ⟨word, -, heq⟩ := bind_eq_ok.mp h
    cases heq
    rfl
  · cases h
    rfl

lemma keepsAddress_txMailboxOffset : KeepsAddress noteTxMailboxOffset := by
  intro info data info' h
  obtain ⟨slot, -, h⟩ := bind_eq_ok.mp h
  split at h
  · obtain ⟨word, -, h⟩ := bind_eq_ok.mp h
    have hkept := setProcessDataSmSizeOffset_configuredAddress h
    exact hkept
  · exact setProcessDataSmSizeOffset_configuredAddress h

/-! ## A response -/

/-- What a response leaves alone, and from where it gets behind `SetStationAddress`. -/
structure KeepsOn (task task' : SlaveInitTask) : Prop where
  slaveAddress : task'.slaveAddress = task.slaveAddress
  noted : task'.noted = task.noted
  isAddressed : task'.state.isAddressed = true →
    task.state.isAddressed = true ∨ task.state = .setStationAddress

lemma keepsOn_state {task : SlaveInitTask} {state : State} (h : state.isAddressed = true →
    task.state.isAddressed = true ∨ task.state = .setStationAddress) :
    KeepsOn task { task with state := state } := ⟨rfl, rfl, h⟩

lemma keepsOn_processAlStateTransfer {task task' : SlaveInitTask} {recv : Pdu} {sysTime : ℕ}
    (h : task.processAlStateTransfer recv sysTime = .ok task') : KeepsOn task task' := by
  obtain ⟨alTransfer, -, h⟩ := bind_eq_ok.mp h
  obtain ⟨⟨next, alTransfer'⟩, -, heq⟩ := bind_eq_ok.mp h
  cases heq
  refine ⟨rfl, rfl, fun haddressed => ?_⟩
  rcases next <;> cases haddressed

lemma keepsOn_processSii {task task' : SlaveInitTask} {recv : Pdu} {sysTime : ℕ}
    {again next : State} {done : SlaveInfo → List UInt8 → Exec SlaveInfo}
    (hdone : KeepsAddress done) (hagain : again.isAddressed = false)
    (hnext : next.isAddressed = false)
    (h : task.processSii recv sysTime again next done = .ok task') : KeepsOn task task' := by
  obtain ⟨reader, -, h⟩ := bind_eq_ok.mp h
  obtain ⟨reader', -, h⟩ := bind_eq_ok.mp h
  dsimp only at h
  split at h
  · obtain ⟨info, hinfo, h⟩ := bind_eq_ok.mp h
    obtain ⟨info', hnote, heq⟩ := bind_eq_ok.mp h
    cases heq
    refine ⟨rfl, ?_, fun haddressed => ?_⟩
    · rw [SlaveInitTask.noted, SlaveInitTask.noted, unwrap_eq_ok_iff.mp hinfo]
      exact congrArg some (hdone _ _ _ hnote)
    · rw [hnext] at haddressed
      cases haddressed
  · cases h
    refine ⟨rfl, rfl, fun haddressed => ?_⟩
    rw [hagain] at haddressed
    cases haddressed
  · cases h
    exact ⟨rfl, rfl, fun haddressed => by cases haddressed⟩

lemma keepsOn_processState {task task' : SlaveInitTask} {recv : Pdu} {sysTime : ℕ}
    (h : task.processState recv sysTime = .ok task') : KeepsOn task task' := by
  unfold processState at h
  dsimp only at h
  split at h
  case h_1 | h_2 | h_3 =>
    cases h
    exact ⟨rfl, rfl, .inl⟩
  case h_5 => exact keepsOn_processAlStateTransfer h
  case h_10 =>
    obtain ⟨pdiOperational, -, h⟩ := bind_eq_ok.mp h
    split at h
    · cases h
      exact keepsOn_state (by rintro ⟨⟩)
    · simp only [bind_eq_ok] at h
      obtain ⟨info, hinfo, _, -, _, -, _, -, _, -, heq⟩ := h
      cases heq
      refine ⟨rfl, ?_, by rintro ⟨⟩⟩
      rw [SlaveInitTask.noted, SlaveInitTask.noted, unwrap_eq_ok_iff.mp hinfo]
      rfl
  case h_11 =>
    simp only [processDlInfo, bind_eq_ok] at h
    obtain ⟨info, hinfo, _, -, _, -, _, -, _, -, _, -, _, -, _, -, _, -, _, -, _, -, _, -, _, -, _,
      -, heq⟩ := h
    cases heq
    refine ⟨rfl, ?_, by rintro ⟨⟩⟩
    rw [SlaveInitTask.noted, SlaveInitTask.noted, unwrap_eq_ok_iff.mp hinfo]
    rfl
  case h_14 => exact keepsOn_processSii keepsAddress_venderID rfl rfl h
  case h_15 => exact keepsOn_processSii keepsAddress_productCode rfl rfl h
  case h_16 => exact keepsOn_processSii keepsAddress_revision rfl rfl h
  case h_17 => exact keepsOn_processSii keepsAddress_protocol rfl rfl h
  case h_18 => exact keepsOn_processSii (keepsAddress_mailboxSize _ _ _) rfl rfl h
  case h_19 => exact keepsOn_processSii keepsAddress_rxMailboxOffset rfl rfl h
  case h_20 => exact keepsOn_processSii (keepsAddress_mailboxSize _ _ _) rfl rfl h
  case h_21 => exact keepsOn_processSii keepsAddress_txMailboxOffset rfl rfl h
  case h_12 | h_13 | h_23 =>
    cases h
    refine keepsOn_state fun haddressed => ?_
    split at haddressed <;> cases haddressed
  case h_24 hstate =>
    cases h
    exact keepsOn_state fun _ => .inr hstate
  case h_25 hstate =>
    obtain ⟨info, hinfo, h⟩ := bind_eq_ok.mp h
    obtain ⟨strictAlControl, -, heq⟩ := bind_eq_ok.mp h
    cases heq
    refine ⟨rfl, ?_, fun _ => .inl (by rw [hstate]; rfl)⟩
    rw [SlaveInitTask.noted, SlaveInitTask.noted, unwrap_eq_ok_iff.mp hinfo]
    rfl
  case h_26 hstate | h_27 hstate | h_28 hstate | h_29 hstate =>
    cases h
    exact keepsOn_state fun _ => .inl (by rw [hstate]; rfl)
  all_goals
    cases h
    exact keepsOn_state (by rintro ⟨⟩)

/-- **A response.**  Only an accepted one leads on from `SetStationAddress`. -/
lemma recieveAndProcess_keepsOn {task task' : SlaveInitTask} {recv : Pdu} {sysTime : ℕ}
    (h : task.recieveAndProcess recv sysTime = .ok task') :
    KeepsOn task task' ∧
      (task'.state.isAddressed = true → recv.Echoes task.command ∧ recv.wkc = 1) := by
  by_cases haccepted : recv.Echoes task.command ∧ recv.wkc = 1
  · rw [recieveAndProcess, checked, checkedState_of_accepted _ haccepted] at h
    exact ⟨keepsOn_processState h, fun _ => haccepted⟩
  · obtain ⟨e, herror⟩ := checkedState_of_not_accepted State.error haccepted task.state
    rw [recieveAndProcess, checked, herror] at h
    cases h
    exact ⟨keepsOn_state (by rintro ⟨⟩), by rintro ⟨⟩⟩

/-! ## The next PDU -/

@[simp] lemma noteCommand_slaveAddress (task : SlaveInitTask) (pdu : Option (Command × ℕ)) :
    (task.noteCommand pdu).slaveAddress = task.slaveAddress := by
  unfold noteCommand
  split <;> rfl

/-- What every PDU leaves alone. -/
structure SendsOn (task task' : SlaveInitTask) : Prop where
  slaveAddress : task'.slaveAddress = task.slaveAddress
  state : task'.state = task.state
  noted : task.state ≠ .setStationAddress → task'.noted = task.noted
  isSome : task.slaveInfo.isSome = true → task'.slaveInfo.isSome = true

/-- The PDU that writes the station address behind a position. -/
structure WritesAddress (position : UInt16) (command : Command) (data : List UInt8) : Prop where
  command : command = .newWrite (.single (.slavePosition position)) FixedStationAddress.address
  small : position.toNat + 1 < 2 ^ 16
  data : FixedStationAddress.configuredStationAddress.val data = position.toNat + 1

lemma nextPdu_sendsOn {task task' : SlaveInitTask} {buf buf' : List UInt8}
    {pdu : Option (Command × ℕ)} (h : task.nextPdu buf = .ok ((pdu, buf'), task')) :
    SendsOn task task' := by
  unfold nextPdu at h
  dsimp only at h
  split at h
  case h_1 | h_2 | h_3 =>
    cases h
    exact ⟨rfl, rfl, fun _ => rfl, id⟩
  case h_5 =>
    obtain ⟨alTransfer, alTransfer', -, -, rfl⟩ := nextAlStateTransfer_eq_ok h
    exact ⟨by simp, by simp, fun _ => by simp [SlaveInitTask.noted], by simp⟩
  case h_14 | h_15 | h_16 | h_17 | h_18 | h_19 | h_20 | h_21 =>
    obtain ⟨reader, reader', -, -, rfl⟩ := nextSii_eq_ok h
    exact ⟨by simp, by simp, fun _ => by simp [SlaveInitTask.noted], by simp⟩
  case h_22 | h_23 =>
    obtain ⟨sm, -, h⟩ := bind_eq_ok.mp h
    obtain ⟨-, -, rfl⟩ := send_eq_ok h
    exact ⟨rfl, rfl, fun _ => rfl, id⟩
  case h_24 hstate =>
    obtain ⟨addr, -, h⟩ := bind_eq_ok.mp h
    obtain ⟨info, -, h⟩ := bind_eq_ok.mp h
    obtain ⟨-, -, rfl⟩ := send_eq_ok h
    exact ⟨rfl, rfl, fun hne => absurd hstate hne, fun _ => rfl⟩
  all_goals
    obtain ⟨-, -, rfl⟩ := send_eq_ok h
    exact ⟨rfl, rfl, fun _ => rfl, id⟩

/-- **The PDU of `SetStationAddress`.** -/
lemma nextPdu_writesAddress {task task' : SlaveInitTask} {buf buf' : List UInt8}
    {pdu : Option (Command × ℕ)} {position : UInt16}
    (haddress : task.slaveAddress = .slavePosition position)
    (hstate : task.state = .setStationAddress)
    (h : task.nextPdu buf = .ok ((pdu, buf'), task')) :
    task'.noted = some (position + 1) ∧ ∃ size, pdu = some (task'.command, size) ∧
      WritesAddress position task'.command (buf'.take size) := by
  rw [nextPdu, hstate] at h
  obtain ⟨addr, haddr, h⟩ := bind_eq_ok.mp h
  obtain ⟨info, hinfo, h⟩ := bind_eq_ok.mp h
  rw [haddress] at haddr
  obtain ⟨next, hadd, heq⟩ := bind_eq_ok.mp haddr
  obtain ⟨hsmall, rfl⟩ := addUpTo_eq_ok_iff.mp hadd
  cases heq
  have hnext : UInt16.ofNat (position.toNat + 1) = position + 1 := by
    apply UInt16.toNat_inj.mp
    rw [UInt16.toNat_ofNat', UInt16.toNat_add]
    rfl
  obtain ⟨rfl, -, rfl⟩ := send_eq_ok h
  refine ⟨congrArg some hnext, _, rfl, ⟨by rw [haddress], hsmall, ?_⟩⟩
  obtain ⟨pdu', hrequest, heq⟩ := bind_eq_ok.mp h
  cases heq
  obtain ⟨-, data, hwrite, hdata⟩ := request_data hrequest
  obtain ⟨hfits, rfl⟩ := Field.setAll_eq_ok_iff.mp hwrite
  rw [hdata (by rw [Field.length_putAll, List.length_replicate]), Field.putAll_cons,
    Field.putAll_nil, Field.val_put (hfits _ (by simp)), UInt16.toNat_ofNat',
    Nat.mod_eq_of_lt hsmall]
  exact Nat.mod_eq_of_lt hsmall

end SlaveInitTask

end EtherCat
