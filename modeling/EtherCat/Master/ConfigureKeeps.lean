import EtherCat.Master.ConfigureSlaves
import Mathlib.Tactic.FinCases

/-!
# What the configuration of a slave keeps

The configuration changes a slave in two ways only: it counts mailbox messages, and it sets the
FMMUs of the process data.  What is kept by both, and what holds of the accesses to such a slave,
holds throughout (`SlaveRules`), whatever the answers are.
-/

namespace EtherCat

open Rust Rust.Exec Rust.Method Configure

/-- The registers of the FMMUs. -/
def IsFmmuRegister (address : UInt16) : Prop := FmmuRegister.address ≤ address ∧ address < 0x0700

instance (address : UInt16) : Decidable (IsFmmuRegister address) :=
  inferInstanceAs (Decidable (_ ∧ _))

lemma not_isFmmuRegister_sm {base : UInt16} (hbase : 0x0800 ≤ base ∧ base ≤ 0x1000)
    (smNumber : UInt8) : ¬ IsFmmuRegister (base + 0x08 * smNumber.toUInt16) := by
  rintro ⟨-, hlt⟩
  have hsm := smNumber.toNat_lt
  obtain ⟨hle, hge⟩ := hbase
  rw [UInt16.le_iff_toNat_le] at hle hge
  rw [UInt16.lt_iff_toNat_lt] at hlt
  simp only [UInt16.toNat_add, UInt16.toNat_mul, UInt16.reduceToNat,
    UInt8.toNat_toUInt16] at hlt hle hge
  omega

/-- Facts `I` about a slave that its configuration keeps, with accesses that satisfy `P`, those to
the FMMUs apart. -/
structure SlaveRules (P : Access → Prop) (I : Slave → Prop) : Prop where
  readSdo : ∀ slave index subIndex, I slave → P (.readSdo slave index subIndex)
  writeSdo : ∀ slave index subIndex data, I slave → P (.writeSdo slave index subIndex data)
  readRegister : ∀ target address size, P (.readRegister target address size)
  writeRegister : ∀ target address data, ¬ IsFmmuRegister address →
    P (.writeRegister target address data)
  count : ∀ slave, I slave → I slave.incrementMbCount.2
  fmmu : ∀ slave direction start bits, I slave → slave.info.pdoStartAddress.isSome →
    I (slave.setFmmu direction.fmmuSlot (.new start bits direction))

namespace SlaveRules

variable {P : Access → Prop} {I : Slave → Prop}

/-- The method keeps the facts. -/
abbrev Holds (P : Access → Prop) (I : Slave → Prop) {α : Type} (m : Configure Slave α) : Prop :=
  Keeps P I (fun _ => True) m

lemma holds_ofExec {α : Type} (x : Exec α) : Holds P I (.ofExec x : Configure Slave α) :=
  keeps_ofExec fun _ _ => trivial

lemma holds_readSdo (h : SlaveRules P I) (kind : SdoError → ConfigErrorKind) (index : UInt16)
    (subIndex : UInt8) :
    Holds P I (Configure.readSdo kind index subIndex) :=
  keeps_readSdo (fun slave hslave => h.readSdo slave _ _ hslave) h.count

lemma holds_writeSdo (h : SlaveRules P I) (kind : SdoError → ConfigErrorKind) (index : UInt16)
    (subIndex : UInt8) (data : List UInt8) :
    Holds P I (Configure.writeSdo kind index subIndex data) :=
  keeps_writeSdo (fun slave hslave => h.writeSdo slave _ _ _ hslave) h.count

lemma holds_readRegister (h : SlaveRules P I) (kind : RegisterError → ConfigErrorKind)
    (errorAddress registerAddress : UInt16) (dataSize : ℕ) :
    Holds P I (Configure.readRegister kind errorAddress registerAddress dataSize) :=
  keeps_readRegister fun _ _ => h.readRegister _ _ _

lemma holds_writeRegister (h : SlaveRules P I) (kind : RegisterError → ConfigErrorKind)
    {registerAddress : UInt16} (haddress : ¬ IsFmmuRegister registerAddress) (data : List UInt8) :
    Holds P I (Configure.writeRegister kind registerAddress data) :=
  keeps_writeRegister fun _ _ => h.writeRegister _ _ _ haddress

lemma holds_writeRegisterUnwrap (h : SlaveRules P I) {registerAddress : UInt16}
    (haddress : ¬ IsFmmuRegister registerAddress) (data : List UInt8) :
    Holds P I (writeRegisterUnwrap registerAddress data) :=
  keeps_writeRegisterUnwrap fun _ _ => h.writeRegister _ _ _ haddress

/-! ## The object dictionary -/

lemma holds_writeEntries (h : SlaveRules P I) (pdoMapIndex : UInt16) (entries : List PdoEntry)
    (entryIndex : ℕ) :
    Holds P I (writeEntries pdoMapIndex entries entryIndex) := by
  induction entries generalizing entryIndex with
  | nil => exact keeps_pure trivial
  | cons entry entries ih =>
      refine (holds_ofExec _).bind_any fun odPdoEntry => ?_
      refine (holds_ofExec _).bind_any fun entryIndex => ?_
      exact (h.holds_writeSdo _ _ _ _).bind_any fun _ => ih entryIndex

lemma holds_writeMapping (h : SlaveRules P I) (smAssign : UInt16) (mapIndex : ℕ)
    (pdoMap : PdoMapping) :
    Holds P I (writeMapping smAssign mapIndex pdoMap) := by
  refine (h.holds_writeSdo _ _ _ _).bind_any fun _ => ?_
  split
  · exact keeps_pure trivial
  · refine (h.holds_writeSdo _ _ _ _).bind_any fun _ => ?_
    refine (h.holds_writeEntries _ _ _).bind_any fun entryIndex => ?_
    exact h.holds_writeSdo _ _ _ _

lemma holds_writeMappings (h : SlaveRules P I) (smAssign : UInt16) (pdoMappings : List PdoMapping)
    (mapIndex : ℕ) :
    Holds P I (writeMappings smAssign pdoMappings mapIndex) := by
  induction pdoMappings generalizing mapIndex with
  | nil => exact keeps_pure trivial
  | cons pdoMap pdoMappings ih =>
      rw [writeMappings]
      split
      · exact ih mapIndex
      · refine (holds_ofExec _).bind_any fun mapIndex => ?_
        exact (h.holds_writeMapping _ _ _).bind_any fun _ => ih mapIndex

lemma holds_setPdoConfigToOdUtility (h : SlaveRules P I) (config : SlaveConfig) (isOutput : Bool) :
    Holds P I (setPdoConfigToOdUtility config isOutput) := by
  refine keeps_get.bind fun slave _ => ?_
  generalize (if isOutput then _ else _ : List PdoMapping × Option UInt8) = choice
  obtain ⟨pdoMappings, smNumber⟩ := choice
  rcases smNumber with _ | smNumber
  · exact keeps_pure trivial
  · refine (h.holds_writeSdo _ _ _ _).bind_any fun _ => ?_
    refine (h.holds_writeMappings _ _ _).bind_any fun mapIndex => ?_
    exact h.holds_writeSdo _ _ _ _

lemma holds_setPdoConfigToOdSlave (h : SlaveRules P I) (config : SlaveConfig) :
    Holds P I (setPdoConfigToOdSlave config) :=
  (h.holds_setPdoConfigToOdUtility config true).bind_any fun _ =>
    h.holds_setPdoConfigToOdUtility config false

/-! ## The sync managers -/

lemma holds_readEntries (h : SlaveRules P I) (mapAddress : UInt16) (indices : List ℕ) (bits : ℕ) :
    Holds P I (readEntries mapAddress indices bits) := by
  induction indices generalizing bits with
  | nil => exact keeps_pure trivial
  | cons entryIndex indices ih =>
      refine (h.holds_readSdo _ _ _).bind_any fun entry => ?_
      refine (holds_ofExec _).bind_any fun bitLength => ?_
      exact (holds_ofExec _).bind_any fun bits => ih bits

lemma holds_readMappings (h : SlaveRules P I) (smAssign : UInt16) (indices : List ℕ) (bits : ℕ) :
    Holds P I (readMappings smAssign indices bits) := by
  induction indices generalizing bits with
  | nil => exact keeps_pure trivial
  | cons mapIndex indices ih =>
      refine (h.holds_readSdo _ _ _).bind_any fun mapAddress => ?_
      refine (holds_ofExec _).bind_any fun byte0 => ?_
      refine (holds_ofExec _).bind_any fun byte1 => ?_
      refine (h.holds_readSdo _ _ _).bind_any fun numEntry => ?_
      refine (holds_ofExec _).bind_any fun numEntry => ?_
      exact (h.holds_readEntries _ _ _).bind_any fun bits => ih bits

lemma holds_readSmType (h : SlaveRules P I) (direction : Direction) (smNumber : UInt8) :
    Holds P I (readSmType direction smNumber) := by
  refine (h.holds_readSdo _ _ _).bind_any fun smType => ?_
  refine (holds_ofExec _).bind_any fun smType => ?_
  split
  · exact keeps_pure trivial
  · split
    · exact keeps_pure trivial
    · exact holds_ofExec _

lemma holds_readBitLength (h : SlaveRules P I) (direction : Direction) (smNumber : UInt8) :
    Holds P I (readBitLength direction smNumber) := by
  refine (h.holds_readSmType _ _).bind_any fun isPdoMapNone => ?_
  split
  · exact keeps_pure trivial
  · refine (h.holds_readSdo _ _ _).bind_any fun numMaps => ?_
    refine (holds_ofExec _).bind_any fun numMaps => ?_
    exact h.holds_readMappings _ _ _

lemma holds_writeProcessDataSm (h : SlaveRules P I) (direction : Direction) (smNumber : UInt8)
    (startRamAddress size : UInt16) :
    Holds P I (writeProcessDataSm direction smNumber startRamAddress size) := by
  refine (holds_ofExec _).bind_any fun smControl => ?_
  refine (h.holds_writeRegisterUnwrap (not_isFmmuRegister_sm (by decide) _) _).bind_any fun _ => ?_
  refine (holds_ofExec _).bind_any fun smActive => ?_
  exact h.holds_writeRegisterUnwrap (not_isFmmuRegister_sm (by decide) _) _

/-- The slave must have process data memory. -/
lemma holds_setPdoToSmUtility (h : SlaveRules P I)
    (hmemory : ∀ slave, I slave → slave.info.pdoStartAddress.isSome) (direction : Direction)
    (startRamAddress : UInt16) :
    Holds P I (setPdoToSmUtility direction startRamAddress) := by
  refine (h.holds_readSdo _ _ _).bind_any fun numSmComm => ?_
  refine (holds_ofExec _).bind_any fun numSmComm => ?_
  refine (holds_ofExec _).bind_any fun _ => ?_
  refine keeps_get.bind fun slave _ => ?_
  -- the same for both directions: without a sync manager there is nothing to do
  rcases direction with _ | _ <;> dsimp only <;> split
  any_goals exact keeps_pure trivial
  all_goals
    refine (h.holds_readBitLength _ _).bind_any fun bits => ?_
    refine (h.holds_writeProcessDataSm _ _ _ _).bind_any fun _ => ?_
    refine (holds_ofExec _).bind_any fun bitLength => ?_
    refine (keeps_modify fun slave hslave =>
      h.fmmu slave _ _ _ hslave (hmemory slave hslave)).bind_any fun _ => ?_
    refine (holds_ofExec _).bind_any fun ramSize => ?_
    exact (holds_ofExec _).bind_any fun next => keeps_pure trivial

lemma holds_setPdoToSmSlave (h : SlaveRules P I) {info : SlaveInfo}
    (hinfo : ∀ slave, I slave → slave.info = info) (config : SlaveConfig) :
    Holds P I (setPdoToSmSlave config) := by
  refine keeps_get.bind fun slave hslave => ?_
  rw [hinfo slave hslave]
  rcases hstart : info.pdoStartAddress with _ | ramAddress
  · exact keeps_pure trivial
  · have hmemory : ∀ slave, I slave → slave.info.pdoStartAddress.isSome := by
      intro slave hslave
      rw [hinfo slave hslave, hstart]
      rfl
    refine (h.holds_setPdoToSmUtility hmemory _ _).bind_any fun next => ?_
    exact (h.holds_setPdoToSmUtility hmemory _ _).bind_any fun _ => keeps_pure trivial

/-! ## The FMMUs -/

/-- The writes to the registers of the FMMUs that are set. -/
def WritesFmmus (P : Access → Prop) (slave : Slave) : Prop :=
  ∀ (i : Fin 3) data, (slave.fmmu.get i).isSome → P (.writeRegister
    (.single slave.info.slaveAddress)
    (FmmuRegister.address + .ofNat i.val * .ofNat FmmuRegister.size) data)

/-- The FMMUs are only read. -/
lemma keeps_configureSlot {slave : Slave} (hwrite : WritesFmmus P slave) (i : Fin 3) :
    Keeps P (fun s => s = slave) (fun _ => True) (configureSlot i) := by
  refine keeps_get.bind fun slave' hslave' => ?_
  subst hslave'
  rcases hslot : slave'.fmmu.get i with _ | fmmu
  · exact keeps_pure trivial
  · dsimp only
    split
    · exact keeps_pure trivial
    · refine (keeps_ofExec fun _ _ => trivial).bind_any fun byteLength => ?_
      split
      · exact keeps_pure trivial
      · refine (keeps_ofExec fun _ _ => trivial).bind_any fun endBit => ?_
        refine (keeps_ofExec fun _ _ => trivial).bind_any fun register => ?_
        refine keeps_writeRegister fun slave hslave => ?_
        subst hslave
        exact hwrite i register (by rw [hslot]; rfl)

lemma holds_configureFmmuSlave (hwrite : ∀ slave, I slave → WritesFmmus P slave)
    (config : SlaveConfig) : Holds P I (configureFmmuSlave config) := by
  intro slave hslave
  have hslot := keeps_configureSlot (hwrite slave hslave)
  have hslots : Keeps P (fun s => s = slave) (fun _ => True) (configureFmmuSlave config) := by
    refine (hslot 0).bind_any fun _ => ?_
    refine (hslot 1).bind_any fun _ => ?_
    exact hslot 2
  exact (hslots slave rfl).mono fun r hr => ⟨hr.1 ▸ hslave, hr.2⟩

/-! ## Synchronisation -/

lemma holds_getCycleTime (h : SlaveRules P I) (config : SlaveConfig) (addr : UInt16) :
    Holds P I (getCycleTime config addr) := by
  rw [getCycleTime]
  split
  · exact keeps_pure trivial
  · refine (h.holds_readSdo _ _ _).bind_any fun time => ?_
    refine (holds_ofExec _).bind_any fun byte0 => ?_
    refine (holds_ofExec _).bind_any fun byte1 => ?_
    refine (holds_ofExec _).bind_any fun byte2 => ?_
    exact (holds_ofExec _).bind_any fun byte4 => keeps_pure trivial

lemma holds_getMinimumCycleTime (h : SlaveRules P I) (addr : UInt16) :
    Holds P I (getMinimumCycleTime addr) := by
  refine (h.holds_readSdo _ _ _).bind_any fun time => ?_
  refine (holds_ofExec _).bind_any fun byte0 => ?_
  refine (holds_ofExec _).bind_any fun byte1 => ?_
  refine (holds_ofExec _).bind_any fun byte2 => ?_
  exact (holds_ofExec _).bind_any fun byte3 => keeps_pure trivial

lemma holds_checkSyncMode (h : SlaveRules P I) (config : SlaveConfig) (addr : UInt16)
    (cycleTimeNs : UInt32) : Holds P I (checkSyncMode config addr cycleTimeNs) := by
  refine keeps_get.bind fun slave _ => ?_
  refine (h.holds_readSdo _ _ _).bind_any fun supportSyncType => ?_
  refine (holds_ofExec _).bind_any fun supportSyncType => ?_
  split
  · exact keeps_throw _
  · refine (h.holds_getMinimumCycleTime _).bind_any fun minCycleTimeNs => ?_
    split
    · exact keeps_throw _
    · exact keeps_pure trivial

lemma holds_setSyncManagerMode (h : SlaveRules P I) (config : SlaveConfig) (addr : UInt16)
    (cycleTimeNs : UInt32) : Holds P I (setSyncManagerMode config addr cycleTimeNs) := by
  refine (h.holds_writeSdo _ _ _ _).bind_any fun _ => ?_
  rcases config.cycleTimeNs with _ | time
  · rcases config.syncMode with _ | _ | _ | _
    · exact keeps_pure trivial
    all_goals exact h.holds_writeSdo _ _ _ _
  · refine (h.holds_writeSdo _ _ _ _).bind_any fun _ => ?_
    rcases config.syncMode with _ | _ | _ | _
    · exact keeps_pure trivial
    all_goals exact h.holds_writeSdo _ _ _ _

lemma holds_configureSyncManager (h : SlaveRules P I) (config : SlaveConfig)
    (direction : Direction) (smNumber : Option UInt8) :
    Holds P I (configureSyncManager config direction smNumber) := by
  refine (holds_ofExec _).bind_any fun smNumber => ?_
  refine (h.holds_readSmType _ _).bind_any fun isPdoMapNone => ?_
  split
  · exact keeps_pure trivial
  · refine (h.holds_getCycleTime _ _).bind_any fun cycleTimeNs => ?_
    refine (h.holds_checkSyncMode _ _ _).bind_any fun _ => ?_
    exact (h.holds_setSyncManagerMode _ _ _).bind_any fun _ => keeps_pure trivial

lemma holds_waitForStart (h : SlaveRules P I) (startTime polls : ℕ) :
    Holds P I (waitForStart startTime polls) := by
  induction polls with
  | zero => exact keeps_cut
  | succ polls ih =>
      rw [waitForStart]
      refine (h.holds_readRegister _ _ _ _).bind_any fun sysTime => ?_
      refine (holds_ofExec _).bind_any fun sysTime => ?_
      split
      · exact keeps_pure trivial
      · exact ih

lemma holds_startSyncSignal (h : SlaveRules P I) (polls : ℕ) (config : SlaveConfig)
    (cycleTimeNs : UInt32) : Holds P I (startSyncSignal polls config cycleTimeNs) := by
  refine (h.holds_writeRegister _ (by decide) _).bind_any fun _ => ?_
  refine (h.holds_writeRegister _ (by decide) _).bind_any fun _ => ?_
  refine (h.holds_readRegister _ _ _ _).bind_any fun sysTime => ?_
  refine (holds_ofExec _).bind_any fun sysTime => ?_
  generalize addUpTo 64 sysTime 10000000 = startTime
  refine (holds_ofExec startTime).bind_any fun startTime => ?_
  refine (h.holds_writeRegister _ (by decide) _).bind_any fun _ => ?_
  refine (holds_ofExec _).bind_any fun activation => ?_
  refine (h.holds_writeRegister _ (by decide) _).bind_any fun _ => ?_
  refine (h.holds_readRegister _ _ _ _).bind_any fun startTime => ?_
  refine (holds_ofExec _).bind_any fun startTime => ?_
  exact h.holds_waitForStart _ _

lemma holds_configureSyncModeSlave (h : SlaveRules P I) (polls : ℕ) (config : SlaveConfig) :
    Holds P I (configureSyncModeSlave polls config) := by
  refine keeps_get.bind fun slave _ => ?_
  split
  · refine (h.holds_configureSyncManager _ _ _).bind_any fun rxCycleTimeNs => ?_
    refine (h.holds_configureSyncManager _ _ _).bind_any fun txCycleTimeNs => ?_
    rcases config.syncMode with _ | _ | _ | _
    · exact h.holds_startSyncSignal _ _ _
    all_goals
      refine (h.holds_writeSdo _ _ _ _).bind_any fun _ => ?_
      exact h.holds_startSyncSignal _ _ _
  · exact keeps_pure trivial

end SlaveRules

/-! ## All slaves -/

/-- Every slave has the property. -/
def AllSlaves (J : Slave → Prop) (network : Network) : Prop :=
  ∀ slave ∈ slavesOf network.slaves, J slave

/-- What the logical addresses change: slots that map something get an address and a start bit. -/
def Assigned (fmmu fmmu' : Vector (Option FmmuConfig) 3) : Prop :=
  ∀ i, fmmu'.get i = fmmu.get i ∨ ∃ f address bit, fmmu.get i = some f ∧ f.bitLength ≠ 0 ∧
    fmmu'.get i = some ((f.setLogicalAddress (some address)).setStartBit bit)

section

variable {P : Access → Prop} {J : Slave → Prop}

lemma forSlaves_keeps {body : SlaveConfig → Configure Slave Unit}
    (hbody : ∀ slave config, J slave → (body config slave).Ensures P fun r => J r.2) :
    Keeps P (AllSlaves J) (fun _ => True) (forSlaves body) := by
  intro network hnetwork
  have hslots : (forSlots body network.slaves).Ensures P fun r =>
      List.Forall₂ (SlotRel fun slave slave' => J slave → J slave') network.slaves r.2 := by
    refine forSlots_ensures (fun slave h => h) fun slave config hmem => ?_
    have hslave := hnetwork slave (mem_slavesOf.mpr ⟨config, hmem⟩)
    exact (hbody slave config hslave).mono fun r hr _ => hr
  refine hslots.bind fun r hr => ⟨fun slave' hslave' => ?_, fun _ _ => trivial⟩
  obtain ⟨slave, hslave, hJ⟩ := exists_of_slotRel hr hslave'
  exact hJ (hnetwork slave hslave)

/-! ## Logical addresses -/

lemma assignFmmu_eq_ok {scan scan' : FmmuScan} {slot slot' : Option FmmuConfig}
    (h : assignFmmu scan slot = .ok (slot', scan')) :
    slot' = slot ∨ ∃ f address bit, slot = some f ∧ f.bitLength ≠ 0 ∧
      slot' = some ((f.setLogicalAddress (some address)).setStartBit bit) := by
  cases slot with
  | none =>
      cases h
      exact .inl rfl
  | some fmmu =>
      by_cases hzero : fmmu.bitLength = 0
      · rw [assignFmmu, if_pos hzero] at h
        cases h
        exact .inl rfl
      · rw [assignFmmu, if_neg hzero] at h
        obtain ⟨bitAddress, -, heq⟩ := bind_eq_ok.mp h
        cases heq
        exact .inr ⟨fmmu, _, _, rfl, hzero, rfl⟩

lemma assigned_assignFmmus {fmmu fmmu' : Vector (Option FmmuConfig) 3} {bitAddress : ℕ}
    {scan : FmmuScan} (h : assignFmmus fmmu bitAddress = .ok (fmmu', scan)) :
    Assigned fmmu fmmu' := by
  obtain ⟨⟨fmmu0, scan0⟩, h0, h⟩ := bind_eq_ok.mp h
  obtain ⟨⟨fmmu1, scan1⟩, h1, h⟩ := bind_eq_ok.mp h
  obtain ⟨⟨fmmu2, scan2⟩, h2, h⟩ := bind_eq_ok.mp h
  cases h
  intro i
  fin_cases i
  · exact assignFmmu_eq_ok h0
  · exact assignFmmu_eq_ok h1
  · exact assignFmmu_eq_ok h2

lemma allSlaves_assignSlots
    (hassign : ∀ slave fmmu, J slave → Assigned slave.fmmu fmmu → J { slave with fmmu := fmmu })
    {slots slots' : List (Option Slave × SlaveConfig)} {bitAddress expectedWkc : ℕ}
    {last : ℕ × ℕ} (h : assignSlots slots bitAddress expectedWkc = .ok (slots', last))
    (hslots : ∀ slave ∈ slavesOf slots, J slave) : ∀ slave ∈ slavesOf slots', J slave := by
  induction slots generalizing slots' bitAddress expectedWkc with
  | nil =>
      cases h
      exact hslots
  | cons slot slots ih =>
      obtain ⟨slave | slave, config⟩ := slot
      · obtain ⟨⟨rest, last'⟩, hrest, heq⟩ := bind_eq_ok.mp h
        cases heq
        exact fun s hs => ih hrest hslots s hs
      · obtain ⟨⟨fmmu, scan⟩, hfmmu, h⟩ := bind_eq_ok.mp h
        obtain ⟨wkc, -, h⟩ := bind_eq_ok.mp h
        obtain ⟨⟨rest, last'⟩, hrest, heq⟩ := bind_eq_ok.mp h
        cases heq
        have hfirst := hslots slave (List.mem_cons_self ..)
        have hothers := ih hrest fun s hs => hslots s (List.mem_cons_of_mem _ hs)
        intro s hs
        rcases List.mem_cons.mp hs with rfl | hs
        · exact hassign slave fmmu hfirst (assigned_assignFmmus hfmmu)
        · exact hothers s hs

lemma configureFmmu_keeps
    (hassign : ∀ slave fmmu, J slave → Assigned slave.fmmu fmmu → J { slave with fmmu := fmmu })
    (hfmmu : ∀ slave config, J slave →
      (configureFmmuSlave config slave).Ensures P fun r => J r.2) :
    Keeps P (AllSlaves J) (fun _ => True) configureFmmu := by
  refine keeps_get.bind fun network hnetwork => ?_
  have hassigned : ∀ r, setLogicalAddressToFmmuConfig network = .ok r → AllSlaves J r.2 := by
    intro r hr
    obtain ⟨start, -, hr⟩ := bind_eq_ok.mp hr
    obtain ⟨⟨slots, bitAddress, expectedWkc⟩, hslots, hr⟩ := bind_eq_ok.mp hr
    have hslaves := allSlaves_assignSlots hassign hslots hnetwork
    dsimp only at hr
    split at hr
    all_goals
      obtain ⟨size, -, hr⟩ := bind_eq_ok.mp hr
      obtain ⟨-, -, heq⟩ := bind_eq_ok.mp hr
      cases heq
      exact hslaves
  refine (keeps_ofExec hassigned).bind ?_
  rintro ⟨⟨imageSize, expectedWkc⟩, network'⟩ hnetwork'
  refine (keeps_modify fun _ _ => hnetwork').bind_any fun _ => ?_
  exact (forSlaves_keeps hfmmu).bind_any fun _ => keeps_pure trivial

/-- The entries of the user change, the slaves do not. -/
lemma slavesOf_setLogicalAddressToPdoEntryConfig {network network' : Network}
    (h : setLogicalAddressToPdoEntryConfig network = .ok network') {slave : Slave}
    (hslave : slave ∈ slavesOf network'.slaves) : slave ∈ slavesOf network.slaves := by
  obtain ⟨config', hmem⟩ := mem_slavesOf.mp hslave
  obtain ⟨i, hget⟩ := List.mem_iff_getElem?.mp hmem
  rcases Network.mapSlaves_eq_ok h i with ⟨slave₀, config, slot', hslot, hassign, hslot'⟩ | ⟨-, hsame⟩
  · obtain ⟨config₁, -, hassign⟩ := bind_eq_ok.mp hassign
    obtain ⟨config₂, -, heq⟩ := bind_eq_ok.mp hassign
    cases heq
    rw [hget] at hslot'
    cases hslot'
    exact mem_slavesOf.mpr ⟨config, List.mem_of_getElem? hslot⟩
  · rw [hget] at hsame
    exact mem_slavesOf.mpr ⟨config', List.mem_of_getElem? hsame.symm⟩

namespace PdoImage

/-- The slaves of the image. -/
abbrev AllSlaves (J : Slave → Prop) (image : PdoImage) : Prop := EtherCat.AllSlaves J image.network

lemma keeps_onNetwork {α : Type} {m : Configure Network α}
    (hm : Keeps P (EtherCat.AllSlaves J) (fun _ => True) m) :
    Keeps P (AllSlaves J) (fun _ => True) (onNetwork m) :=
  hm.zoom (fun _ h => h) fun _ _ _ h => h

lemma keeps_setLogicalAddressToPdoEntryConfig :
    Keeps P (AllSlaves J) (fun _ => True) setLogicalAddressToPdoEntryConfig := by
  refine keeps_get.bind fun image himage => ?_
  have hassigned : ∀ network, EtherCat.setLogicalAddressToPdoEntryConfig image.network =
      .ok network → EtherCat.AllSlaves J network := fun network h slave hslave =>
    himage slave (slavesOf_setLogicalAddressToPdoEntryConfig h hslave)
  refine (keeps_ofExec hassigned).bind fun network hnetwork => ?_
  exact keeps_modify fun _ _ => hnetwork

/-- **The configuration keeps what its four loops keep.** -/
lemma configureSlavesForOperation_keeps
    (hod : ∀ slave config, J slave →
      (setPdoConfigToOdSlave config slave).Ensures P fun r => J r.2)
    (hsm : ∀ slave config, J slave → (setPdoToSmSlave config slave).Ensures P fun r => J r.2)
    (hassign : ∀ slave fmmu, J slave → Assigned slave.fmmu fmmu → J { slave with fmmu := fmmu })
    (hfmmu : ∀ slave config, J slave →
      (configureFmmuSlave config slave).Ensures P fun r => J r.2)
    (polls : ℕ)
    (hsync : ∀ slave config, J slave →
      (configureSyncModeSlave polls config slave).Ensures P fun r => J r.2) :
    Keeps P (AllSlaves J) (fun _ => True) (configureSlavesForOperation polls) := by
  have himage : Keeps P (AllSlaves J) (fun _ => True) configurePdoImage := by
    refine (keeps_onNetwork (forSlaves_keeps hod)).bind_any fun _ => ?_
    refine (keeps_onNetwork (forSlaves_keeps hsm)).bind_any fun _ => ?_
    refine (keeps_onNetwork (configureFmmu_keeps hassign hfmmu)).bind_any ?_
    rintro ⟨imageSize, expectedWkc⟩
    refine Keeps.bind_any (keeps_modify fun image himage => ?_)
      fun _ => keeps_setLogicalAddressToPdoEntryConfig
    exact himage
  exact himage.bind_any fun _ => keeps_onNetwork (forSlaves_keeps hsync)

end PdoImage

end

end EtherCat
