import EtherCat.Master.ConfigureKeeps
import EtherCat.Master.ReadDictionary

/-!
# Who is sent SDO messages

The configuration for operation sends SDO messages to every slave with a process data sync manager
or with process data memory, whether or not the slave has a mailbox
(`sdo_isAnswerable_iff`).
-/

namespace EtherCat

open Rust Rust.Exec Rust.Method Configure

/-- The slave can answer: it has both mailbox sync managers and supports CoE. -/
def SlaveInfo.TakesSdo (info : SlaveInfo) : Prop :=
  info.mailboxRxSm.isSome ∧ info.mailboxTxSm.isSome ∧ info.supportCoe

instance (info : SlaveInfo) : Decidable info.TakesSdo := inferInstanceAs (Decidable (_ ∧ _ ∧ _))

/-- The slave has a process data sync manager or process data memory. -/
def SlaveInfo.HasProcessData (info : SlaveInfo) : Prop :=
  info.processDataRxSmNumber.isSome ∨ info.processDataTxSmNumber.isSome ∨
    info.pdoStartAddress.isSome

instance (info : SlaveInfo) : Decidable info.HasProcessData :=
  inferInstanceAs (Decidable (_ ∨ _ ∨ _))

/-- An access with an SDO message is to a slave that can answer. -/
def Access.IsAnswerable (access : Access) : Prop := ∀ slave ∈ access.sdoSlave, slave.info.TakesSdo

/-! ## Slaves that can answer -/

/-- A slave with process data can answer. -/
def AnswersSdo (slave : Slave) : Prop := slave.info.HasProcessData → slave.info.TakesSdo

lemma isAnswerable_rules {info : SlaveInfo} (htakes : info.TakesSdo) :
    SlaveRules Access.IsAnswerable fun slave => slave.info = info where
  readSdo slave index subIndex hslave receiver hreceiver := by
    cases hreceiver
    rwa [hslave]
  writeSdo slave index subIndex data hslave receiver hreceiver := by
    cases hreceiver
    rwa [hslave]
  readRegister target address size receiver hreceiver := by cases hreceiver
  writeRegister target address data _ receiver hreceiver := by cases hreceiver
  count slave hslave := hslave
  fmmu slave direction start bits hslave _ := hslave

/-- A body that keeps the facts about a slave that can answer, and does nothing to one without
process data. -/
lemma ensures_isAnswerable {m : Configure Slave Unit} {slave : Slave} (hslave : AnswersSdo slave)
    (hm : ∀ info, SlaveRules Access.IsAnswerable (fun s => s.info = info) →
      SlaveRules.Holds Access.IsAnswerable (fun s => s.info = info) m)
    (hnone : ¬ slave.info.HasProcessData → (m slave).Ensures Access.IsAnswerable
      fun r => AnswersSdo r.2) :
    (m slave).Ensures Access.IsAnswerable fun r => AnswersSdo r.2 := by
  by_cases hdata : slave.info.HasProcessData
  · have htakes := hslave hdata
    refine (hm slave.info (isAnswerable_rules htakes) slave rfl).mono fun r hr _ => ?_
    rwa [hr.1]
  · exact hnone hdata

lemma setPdoConfigToOdSlave_isAnswerable {slave : Slave} (config : SlaveConfig)
    (hslave : AnswersSdo slave) : (setPdoConfigToOdSlave config slave).Ensures Access.IsAnswerable
      fun r => AnswersSdo r.2 := by
  refine ensures_isAnswerable hslave (fun info h => h.holds_setPdoConfigToOdSlave config) ?_
  intro hdata
  have hrx : slave.info.processDataRxSmNumber = none :=
    Option.not_isSome_iff_eq_none.mp fun h => hdata (.inl h)
  have htx : slave.info.processDataTxSmNumber = none :=
    Option.not_isSome_iff_eq_none.mp fun h => hdata (.inr (.inl h))
  have hrun : setPdoConfigToOdSlave config slave = .ret (.ok (), slave) := by
    simp [setPdoConfigToOdSlave, setPdoConfigToOdUtility, Method.bind_apply, Method.get,
      Method.continueWith, hrx, htx]
  rw [hrun]
  exact hslave

lemma setPdoToSmSlave_isAnswerable {slave : Slave} (config : SlaveConfig)
    (hslave : AnswersSdo slave) : (setPdoToSmSlave config slave).Ensures Access.IsAnswerable
      fun r => AnswersSdo r.2 := by
  refine ensures_isAnswerable hslave (fun info h => h.holds_setPdoToSmSlave (fun _ hs => hs) config) ?_
  intro hdata
  have hstart : slave.info.pdoStartAddress = none :=
    Option.not_isSome_iff_eq_none.mp fun h => hdata (.inr (.inr h))
  have hrun : setPdoToSmSlave config slave = .ret (.ok (), slave) := by
    simp [setPdoToSmSlave, Method.bind_apply, Method.get, Method.continueWith, hstart]
  rw [hrun]
  exact hslave

lemma configureFmmuSlave_isAnswerable {slave : Slave} (config : SlaveConfig)
    (hslave : AnswersSdo slave) : (configureFmmuSlave config slave).Ensures Access.IsAnswerable
      fun r => AnswersSdo r.2 := by
  have hwrite : ∀ slave, AnswersSdo slave → SlaveRules.WritesFmmus Access.IsAnswerable slave := by
    intro slave _ i data _ receiver hreceiver
    cases hreceiver
  exact (SlaveRules.holds_configureFmmuSlave hwrite config slave hslave).mono fun r hr => hr.1

lemma configureSyncModeSlave_isAnswerable {slave : Slave} (polls : ℕ) (config : SlaveConfig)
    (hslave : AnswersSdo slave) : (configureSyncModeSlave polls config slave).Ensures
      Access.IsAnswerable fun r => AnswersSdo r.2 := by
  refine ensures_isAnswerable hslave (fun info h => h.holds_configureSyncModeSlave polls config) ?_
  intro hdata
  have hrx : slave.info.processDataRxSmNumber = none :=
    Option.not_isSome_iff_eq_none.mp fun h => hdata (.inl h)
  by_cases hcoe : slave.info.supportCoe = true
  · -- the sync manager is unwrapped before anything is sent
    have hrun : configureSyncModeSlave polls config slave = .fail .unwrap := by
      simp only [configureSyncModeSlave, Method.bind_apply, Method.get, Method.continueWith,
        Program.ret_bind, hcoe, if_true, hrx]
      rfl
    rw [hrun]
    trivial
  · have hrun : configureSyncModeSlave polls config slave = .ret (.ok (), slave) := by
      simp [configureSyncModeSlave, Method.bind_apply, Method.get, Method.continueWith, hcoe]
    rw [hrun]
    exact hslave

/-! ## All slaves with process data are sent something -/

/-- An environment without process data: every call succeeds, there are four sync managers, and
everything else that is read is zero. -/
def quietReply : (access : Access) → access.Answer
  | .readSdo _ index subIndex =>
    (.ok (.ok (if index = 0x1C00 ∧ subIndex = 0 then [4] else [0])) :
      Exec (Except (TaskError SdoErrorKind) (List UInt8)))
  | .writeSdo .. => (.ok (.ok ()) : Exec (Except (TaskError SdoErrorKind) Unit))
  | .readRegister .. => (.ok (.ok [0]) : Exec (Except (TaskError Unit) (List UInt8)))
  | .writeRegister .. => (.ok (.ok ()) : Exec (Except (TaskError Unit) Unit))

/-- The environment that answers so. -/
def quiet (w : Unit) (access : Access) : access.Answer × Unit := (quietReply access, w)

/-- A slave with these facts is sent an SDO message. -/
def Reaches (info : SlaveInfo) (accesses : List Access) : Prop :=
  ∃ access ∈ accesses, ∃ receiver ∈ access.sdoSlave, receiver.info = info

lemma Reaches.mono {info : SlaveInfo} {accesses accesses' : List Access}
    (h : Reaches info accesses) (hsubset : accesses ⊆ accesses') : Reaches info accesses' := by
  obtain ⟨access, haccess, hreceiver⟩ := h
  exact ⟨access, hsubset haccess, hreceiver⟩

/-- In the quiet environment the method returns, with an SDO message to the slave under `C`. -/
def ReachesIf {α : Type} (C : Prop) (slave : Slave) (m : Configure Slave α) (a : α) : Prop :=
  ∃ accesses slave', Returns quiet m slave () accesses a slave' () ∧ slave'.info = slave.info ∧
    (C → Reaches slave.info accesses)

/-- Its object dictionary. -/
def quietOd : Dictionary := fun index subIndex =>
  some (if index = 0x1C00 ∧ subIndex = 0 then [4] else [0])

lemma quiet_serves (info : SlaveInfo) : Serves quiet () info quietOd where
  readSdo slave index subIndex data _ hdata := by
    cases hdata
    rfl
  writeRegister target address data := rfl

lemma quietOd_smBits (direction : Direction) {smNumber : UInt8} (hlt : smNumber.toNat < 4) :
    quietOd.SmBits direction smNumber 0 := by
  refine .none ⟨[], ?_⟩
  have hne : smNumber + 1 ≠ 0 := by
    intro h
    have := congrArg UInt8.toNat h
    rw [UInt8.toNat_add] at this
    simp only [UInt8.reduceToNat] at this
    omega
  rw [quietOd, if_neg fun h => hne h.2]

lemma ReachesIf.bind {α β : Type} {C D : Prop} {slave : Slave} {m : Configure Slave α}
    {f : α → Configure Slave β} {a : α} {b : β} (hm : ReachesIf C slave m a)
    (hf : ∀ slave', slave'.info = slave.info → ReachesIf D slave' (f a) b) :
    ReachesIf (C ∨ D) slave (m >>= f) b := by
  obtain ⟨accesses, slave', hreturns, hinfo, hreaches⟩ := hm
  obtain ⟨accesses', slave'', hreturns', hinfo', hreaches'⟩ := hf slave' hinfo
  refine ⟨accesses ++ accesses', slave'', hreturns.bind hreturns', hinfo'.trans hinfo, ?_⟩
  rintro (hC | hD)
  · exact (hreaches hC).mono (List.subset_append_left _ _)
  · obtain ⟨access, haccess, receiver, hreceiver, heq⟩ := hreaches' hD
    exact ⟨access, List.mem_append_right _ haccess, receiver, hreceiver, heq.trans hinfo⟩

lemma reachesIf_setPdoConfigToOdUtility (slave : Slave) (isOutput : Bool) :
    ReachesIf ((if isOutput then slave.info.processDataRxSmNumber
        else slave.info.processDataTxSmNumber).isSome = true) slave
      (setPdoConfigToOdUtility .default isOutput) () := by
  have hwrites (smNumber : UInt8) : ∃ accesses slave', Returns quiet (do
        let smAssign := 0x1C10 + smNumber.toUInt16
        writeSdo .clearPdoMappings smAssign 0 [0]
        let mapIndex ← writeMappings smAssign [] 0
        writeSdo .setNumberOfPdoMappings smAssign 0 [.ofNat mapIndex]) slave () accesses () slave' () ∧
      slave'.info = slave.info ∧ Reaches slave.info accesses := by
    refine ⟨_, _, (returns_writeSdo _ rfl).bind
      ((returns_pure 0 _ ()).bind_nil (returns_writeSdo _ rfl)), rfl, ?_⟩
    exact ⟨_, List.mem_cons_self .., slave, rfl, rfl⟩
  rcases hsm : (if isOutput then slave.info.processDataRxSmNumber
    else slave.info.processDataTxSmNumber) with _ | smNumber
  · refine ⟨[], slave, (returns_get slave ()).bind_nil ?_, rfl, fun h => by cases h⟩
    cases isOutput <;> simp only [Bool.false_eq_true, if_true, if_false] at hsm ⊢ <;> rw [hsm] <;>
      exact returns_pure () slave ()
  · obtain ⟨accesses, slave', hreturns, hinfo, hreaches⟩ := hwrites smNumber
    refine ⟨accesses, slave', (returns_get slave ()).bind_nil ?_, hinfo, fun _ => hreaches⟩
    cases isOutput <;> simp only [Bool.false_eq_true, if_true, if_false] at hsm ⊢ <;> rw [hsm] <;>
      exact hreturns

lemma reachesIf_setPdoConfigToOdSlave (slave : Slave) :
    ReachesIf (slave.info.processDataRxSmNumber.isSome = true ∨
        slave.info.processDataTxSmNumber.isSome = true) slave
      (setPdoConfigToOdSlave .default) () := by
  refine (reachesIf_setPdoConfigToOdUtility slave true).bind fun slave' hinfo => ?_
  have hinput := reachesIf_setPdoConfigToOdUtility slave' false
  rwa [hinfo] at hinput

lemma reachesIf_setPdoToSmUtility (slave : Slave) (direction : Direction)
    (startRamAddress : UInt16) :
    ReachesIf True slave (setPdoToSmUtility direction startRamAddress) startRamAddress := by
  have hserves := quiet_serves slave.info
  have hchannels : quietOd.HasChannels := ⟨4, by decide, [], rfl⟩
  rcases hsm : direction.smNumber slave.info with _ | smNumber
  · refine ⟨_, _, returns_setPdoToSmUtility_none hserves hchannels hsm rfl startRamAddress, rfl, ?_⟩
    exact fun _ => ⟨_, List.mem_cons_self .., slave, rfl, rfl⟩
  · have htotal := quietOd_smBits direction (SlaveInfo.toNat_smNumber_lt hsm)
    obtain ⟨reads, slave', hcounts, -, hreturns, -⟩ :=
      returns_setPdoToSmUtility hserves hsm (htotal.described_eq hchannels) rfl startRamAddress
    have hfits : SizeFits startRamAddress (.ofNat (bytesOfBits 0)) :=
      ⟨by decide, startRamAddress.toNat_lt⟩
    have hzero : startRamAddress + .ofNat (bytesOfBits 0) * 3 = startRamAddress :=
      UInt16.add_zero startRamAddress
    have hrun := hreturns hfits
    rw [hzero] at hrun
    refine ⟨_, _, hrun, hcounts.info, ?_⟩
    exact fun _ => ⟨_, List.mem_cons_self .., slave, rfl, rfl⟩

lemma reachesIf_setPdoToSmSlave (slave : Slave) :
    ReachesIf (slave.info.pdoStartAddress.isSome = true) slave (setPdoToSmSlave .default) () := by
  rcases hstart : slave.info.pdoStartAddress with _ | ramAddress
  · refine ⟨[], slave, (returns_get slave ()).bind_nil ?_, rfl, fun h => by cases h⟩
    rw [hstart]
    exact returns_pure () slave ()
  · obtain ⟨accesses, slave', hreturns, hinfo, hreaches⟩ :=
      reachesIf_setPdoToSmUtility slave .output ramAddress
    obtain ⟨accesses', slave'', hreturns', hinfo', -⟩ :=
      reachesIf_setPdoToSmUtility slave' .input ramAddress
    have hall := hreturns.bind (f := fun next => do
        let _ ← setPdoToSmUtility .input next
        pure ()) (hreturns'.bind (returns_pure () _ ()))
    refine ⟨_, slave'', (returns_get slave ()).bind_nil (by rw [hstart]; exact hall),
      hinfo'.trans hinfo, fun _ => (hreaches trivial).mono (List.subset_append_left _ _)⟩

/-- A loop over slaves whose bodies all return in the quiet environment. -/
lemma returns_forSlaves_quiet {body : SlaveConfig → Configure Slave Unit} (C : SlaveInfo → Prop)
    (hbody : ∀ slave, ReachesIf (C slave.info) slave (body .default) ()) (network : Network)
    (hdefault : ∀ slot ∈ network.slaves, slot.2 = .default) :
    ∃ accesses network', Returns quiet (forSlaves body) network () accesses () network' () ∧
      List.Forall₂ (SlotRel fun slave slave' => slave'.info = slave.info) network.slaves
        network'.slaves ∧
      ∀ slave ∈ slavesOf network.slaves, C slave.info → Reaches slave.info accesses := by
  have hslots : ∀ slots : List (Option Slave × SlaveConfig), (∀ slot ∈ slots, slot.2 = .default) →
      ∃ accesses slots', (forSlots body slots).run quiet () = (.returned (.ok (), slots'), ()) ∧
        (forSlots body slots).asked quiet () = accesses ∧
        List.Forall₂ (SlotRel fun slave slave' => slave'.info = slave.info) slots slots' ∧
        ∀ slave ∈ slavesOf slots, C slave.info → Reaches slave.info accesses := by
    intro slots hdefault
    induction slots with
    | nil => exact ⟨[], [], rfl, rfl, .nil, fun _ h => by cases h⟩
    | cons slot slots ih =>
        obtain ⟨accesses, slots', hrun, hasked, hrel, hreaches⟩ :=
          ih fun slot hslot => hdefault slot (List.mem_cons_of_mem _ hslot)
        obtain ⟨slave | slave, config⟩ := slot
        · refine ⟨accesses, (none, config) :: slots', ?_, ?_, .cons ⟨rfl, .none⟩ hrel, hreaches⟩
          · rw [forSlots, Program.run_bind_of_returned hrun]
            rfl
          · rw [forSlots, Program.asked_bind_of_returned hrun, hasked]
            exact List.append_nil _
        · obtain rfl : config = .default := hdefault _ (List.mem_cons_self ..)
          obtain ⟨first, slave', ⟨hfirst, haskedFirst⟩, hinfo, hreachesFirst⟩ := hbody slave
          refine ⟨first ++ accesses, (some slave', .default) :: slots', ?_, ?_,
            .cons ⟨rfl, .some hinfo⟩ hrel, ?_⟩
          · rw [forSlots, Program.run_bind_of_returned hfirst, Program.run_bind_of_returned hrun]
            rfl
          · rw [forSlots, Program.asked_bind_of_returned hfirst, haskedFirst]
            refine congrArg (first ++ ·) ?_
            rw [Program.asked_bind_of_returned hrun, hasked]
            exact List.append_nil _
          · intro s hs hC
            rcases List.mem_cons.mp hs with rfl | hs
            · exact (hreachesFirst hC).mono (List.subset_append_left _ _)
            · exact (hreaches s hs hC).mono (List.subset_append_right _ _)
  obtain ⟨accesses, slots', hrun, hasked, hrel, hreaches⟩ := hslots network.slaves hdefault
  refine ⟨accesses, { network with slaves := slots' }, ⟨?_, ?_⟩, hrel, hreaches⟩
  · rw [forSlaves, Program.run_bind_of_returned hrun]
    rfl
  · rw [forSlaves, Program.asked_bind_of_returned hrun, hasked]
    exact List.append_nil _

/-- What the first two passes ask is asked. -/
lemma mem_asked_of_passes (image : PdoImage) {network₁ network₂ : Network}
    {accesses₁ accesses₂ : List Access}
    (h₁ : Returns quiet setPdoConfigToOd image.network () accesses₁ () network₁ ())
    (h₂ : Returns quiet setPdoToSm network₁ () accesses₂ () network₂ ()) (polls : ℕ)
    {access : Access} (haccess : access ∈ accesses₁ ++ accesses₂) :
    access ∈ (PdoImage.configureSlavesForOperation polls image).asked quiet () := by
  have hinitial : accesses₁ ++ accesses₂ <+: (PdoImage.configurePdoImage image).asked quiet () := by
    have hod : Returns quiet (PdoImage.onNetwork setPdoConfigToOd) image () accesses₁ ()
        { image with network := network₁ } () := h₁.zoom
    have hsm : Returns quiet (PdoImage.onNetwork setPdoToSm) { image with network := network₁ } ()
        accesses₂ () { image with network := network₂ } () := h₂.zoom
    rw [PdoImage.configurePdoImage, Method.bind_apply, Program.asked_bind_of_returned hod.1, hod.2]
    refine (List.prefix_append_right_inj _).mpr ?_
    rw [← hsm.2]
    exact Program.asked_prefix_bind _ _ ()
  exact (hinitial.trans (Program.asked_prefix_bind _ _ ())).subset haccess

/-- **Who is sent SDO messages.**  Whatever the user configures and the slaves answer, the
configuration for operation sends SDO messages to slaves with a mailbox only, exactly if every slave
with a process data sync manager or process data memory has one. -/
theorem sdo_isAnswerable_iff (slaves : List (Option Slave)) :
    (∀ image : PdoImage, image.network.slaves.map Prod.fst = slaves →
      ∀ (polls : ℕ) {σ : Type} (h : σ → (access : Access) → access.Answer × σ) (w : σ),
        ∀ access ∈ (PdoImage.configureSlavesForOperation polls image).asked h w,
          access.IsAnswerable) ↔
      ∀ slave, some slave ∈ slaves → slave.info.HasProcessData → slave.info.TakesSdo := by
  constructor
  · intro hanswerable slave hslave hdata
    -- nobody configures anything, and nobody has process data
    let network : Network := ⟨slaves.map fun slave => (slave, .default), slaves.length⟩
    have hdefault : ∀ slot ∈ network.slaves, slot.2 = .default := by
      intro slot hslot
      obtain ⟨slave, -, rfl⟩ := List.mem_map.mp hslot
      rfl
    have hmem : slave ∈ slavesOf network.slaves :=
      mem_slavesOf.mpr ⟨.default, List.mem_map.mpr ⟨some slave, hslave, rfl⟩⟩
    obtain ⟨accesses₁, network₁, hod, hrel, hreaches₁⟩ :=
      returns_forSlaves_quiet (fun info => info.processDataRxSmNumber.isSome = true ∨
        info.processDataTxSmNumber.isSome = true) reachesIf_setPdoConfigToOdSlave network hdefault
    have hdefault₁ : ∀ slot ∈ network₁.slaves, slot.2 = .default := by
      intro slot hslot
      obtain ⟨slot₀, hslot₀, hrel⟩ := exists_mem_of_slotRel hrel hslot
      rw [hrel.1]
      exact hdefault slot₀ hslot₀
    obtain ⟨accesses₂, network₂, hsm, -, hreaches₂⟩ :=
      returns_forSlaves_quiet (fun info => info.pdoStartAddress.isSome = true)
        reachesIf_setPdoToSmSlave network₁ hdefault₁
    have hreaches : Reaches slave.info (accesses₁ ++ accesses₂) := by
      rcases hdata with hrx | htx | hstart
      · exact (hreaches₁ slave hmem (.inl hrx)).mono (List.subset_append_left _ _)
      · exact (hreaches₁ slave hmem (.inr htx)).mono (List.subset_append_left _ _)
      · obtain ⟨slave', hslave', hinfo⟩ := exists_slotRel_of_mem hrel hmem
        rw [← hinfo] at hstart ⊢
        exact (hreaches₂ slave' hslave' hstart).mono (List.subset_append_right _ _)
    obtain ⟨access, haccess, receiver, hreceiver, hinfo⟩ := hreaches
    let image : PdoImage := ⟨network, .new logicalStartAddress 0 0⟩
    have hslaves : image.network.slaves.map Prod.fst = slaves := by
      show (slaves.map fun slave => (slave, SlaveConfig.default)).map Prod.fst = slaves
      rw [List.map_map]
      exact List.map_id slaves
    have htakes := hanswerable image hslaves 0 quiet () access
      (mem_asked_of_passes image hod hsm 0 haccess) receiver hreceiver
    rwa [hinfo] at htakes
  · intro hslaves image himage polls σ h w access haccess
    have hkeeps := PdoImage.configureSlavesForOperation_keeps (J := AnswersSdo)
      (fun slave config => setPdoConfigToOdSlave_isAnswerable config)
      (fun slave config => setPdoToSmSlave_isAnswerable config)
      (fun slave fmmu hslave _ => hslave)
      (fun slave config => configureFmmuSlave_isAnswerable config) polls
      (fun slave config => configureSyncModeSlave_isAnswerable polls config)
    have hall : PdoImage.AllSlaves AnswersSdo image := by
      intro slave hslave
      obtain ⟨config, hmem⟩ := mem_slavesOf.mp hslave
      refine hslaves slave ?_
      rw [← himage]
      exact List.mem_map.mpr ⟨_, hmem, rfl⟩
    exact (hkeeps image hall).of_mem_asked haccess

/-- A slave with two sync managers, both for process data: it has no mailbox. -/
def simpleIo : Slave :=
  { Slave.default with
    info := { SlaveInfo.default with
      configuredAddress := 1
      numberOfSm := 2
      sm := #v[some .processDataRx, some .processDataTx, none, none] } }

/-- It is sent an SDO message. -/
theorem simpleIo_isAddressed :
    ¬ ∀ access ∈ (PdoImage.configureSlavesForOperation 0
        ⟨⟨[(some simpleIo, .default)], 1⟩, .new logicalStartAddress 0 0⟩).asked quiet (),
      access.IsAnswerable := by
  intro h
  have htakes := h (.writeSdo simpleIo 0x1C10 0 [0]) (List.mem_cons_self ..) simpleIo rfl
  exact absurd htakes (by decide)

end EtherCat
