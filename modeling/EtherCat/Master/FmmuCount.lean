import EtherCat.Foundation.Transition
import EtherCat.Master.ConfigureKeeps
import EtherCat.Master.PdoAgreement
import EtherCat.Task.NetworkInitilize

/-!
# The FMMUs that a slave has

The initialisation sets the third FMMU of a slave with a mailbox, the configuration the first two
of a slave with process data.  A slave should have the FMMUs that are set.  It does in every run in
which each slave that is initialised has those that will be used (`SlaveInfo.HasFmmus`), and then the
configuration writes no register of another one (`withinFmmus_of_run`); the initialisation
itself sets the third FMMU if there are two.
-/

namespace EtherCat

open Rust Rust.Exec Rust.Method Configure

/-- Only FMMUs that the slave has are set. -/
def Slave.FmmusWithin (slave : Slave) : Prop :=
  ∀ i : Fin 3, (slave.fmmu.get i).isSome → i.val < slave.info.numberOfFmmu.toNat

/-- A slave with a mailbox to read has not just two FMMUs, and one with process data memory has at
least two. -/
def SlaveInfo.HasFmmus (info : SlaveInfo) : Prop :=
  (info.mailboxTxSm.isSome → info.numberOfFmmu ≠ 2) ∧
    (info.pdoStartAddress.isSome → 2 ≤ info.numberOfFmmu)

/-- A write to the register of an FMMU is one that the addressed slave has. -/
def Access.WithinFmmus (infos : List SlaveInfo) (access : Access) : Prop :=
  ∀ target address data, access = .writeRegister target address data → IsFmmuRegister address →
    ∃ info ∈ infos, target = .single info.slaveAddress ∧
      ∃ i < info.numberOfFmmu.toNat, address = FmmuRegister.address + .ofNat i * 0x10

/-! ## Runs of a master -/

/-- The slaves and the bus, as the calls of the configuration see them. -/
structure Environment where
  State : Type
  answer : State → (access : Access) → access.Answer × State
  start : State

/-- What the rest of the master does: it changes neither what is known of the slaves nor their
FMMUs. -/
structure OtherCall where
  change : Network → Network
  keeps : ∀ network, ∀ slave' ∈ slavesOf (change network).slaves,
    ∃ slave ∈ slavesOf network.slaves, slave'.info = slave.info ∧ slave'.fmmu = slave.fmmu

/-- What changes the network of a master: a response to the initialisation, which may be in any
state; the configuration; and the rest. -/
inductive NetworkInput
  | init (task : NetworkInitTask) (recvData : Pdu) (sysTime : ℕ)
  | configure (processDataTask : ProcessTask) (environment : Environment) (polls : ℕ)
  | other (call : OtherCall)

/-- The network after the input, if it returns. -/
def networkStep (network : Network) : NetworkInput → Except Unit Network
  | .init task recvData sysTime =>
    match { task with network := network }.recieveAndProcess recvData sysTime with
    | .ok task => .ok task.network
    | .error _ => .error ()
  | .configure processDataTask environment polls =>
    match ((PdoImage.configureSlavesForOperation polls ⟨network, processDataTask⟩).run
      environment.answer environment.start).1 with
    | .returned (_, image) => .ok image.network
    | _ => .error ()
  | .other call => .ok (call.change network)

/-- A slave that the input initialises has the FMMUs that will be used. -/
def NetworkInput.HasFmmus : NetworkInput → Prop
  | .init task recvData sysTime => ∀ initilizer info,
    task.initilizer.recieveAndProcess recvData sysTime = .ok initilizer →
      initilizer.waitResult.1 = some (.ok (some info)) → info.HasFmmus
  | _ => True

/-! ## What a slave keeps -/

/-- The invariant of a slave with facts that are known from the initialisation. -/
structure Slave.Fits (infos : List SlaveInfo) (slave : Slave) : Prop where
  known : slave.info ∈ infos
  hasFmmus : slave.info.HasFmmus
  within : slave.FmmusWithin

lemma fmmusWithin_initializedSlave {info : SlaveInfo} (h : info.HasFmmus) :
    (NetworkInitTask.initializedSlave info).info = info ∧
      (NetworkInitTask.initializedSlave info).FmmusWithin := by
  have hnone : ∀ i : Fin 3, ¬ (Slave.default.fmmu.get i).isSome := by decide
  unfold NetworkInitTask.initializedSlave
  dsimp only
  rcases hsm : info.mailboxTxSm with _ | sm
  · exact ⟨rfl, fun i hi => absurd hi (hnone i)⟩
  · dsimp only
    split
    · next htwo =>
        refine ⟨rfl, fun i _ => ?_⟩
        have hne := h.1 (by rw [hsm]; rfl)
        have hne : info.numberOfFmmu.toNat ≠ 2 := fun heq => hne (UInt8.toNat_inj.mp heq)
        have hle := UInt8.le_iff_toNat_le.mp htwo
        have hi := i.isLt
        simp only [UInt8.reduceToNat] at hle
        dsimp only
        omega
    · exact ⟨rfl, fun i hi => absurd hi (hnone i)⟩

lemma within_setFmmu {slave : Slave} (hwithin : slave.FmmusWithin)
    (htwo : 2 ≤ slave.info.numberOfFmmu) (direction : Direction) (fmmu : FmmuConfig) :
    (slave.setFmmu direction.fmmuSlot fmmu).FmmusWithin := by
  intro i hi
  have hle := UInt8.le_iff_toNat_le.mp htwo
  simp only [UInt8.reduceToNat] at hle
  by_cases hslot : direction.fmmuSlot = i
  · have hlt : direction.fmmuSlot.val < 2 := by cases direction <;> decide
    rw [← hslot]
    exact Nat.lt_of_lt_of_le hlt hle
  · rw [Slave.get_setFmmu, if_neg hslot] at hi
    exact hwithin i hi

lemma slaveRules_fits (infos : List SlaveInfo) (info : SlaveInfo) :
    SlaveRules (Access.WithinFmmus infos) fun slave => slave.info = info ∧ slave.Fits infos where
  readSdo _ _ _ _ _ _ _ h := by cases h
  writeSdo _ _ _ _ _ _ _ _ h := by cases h
  readRegister _ _ _ _ _ _ h := by cases h
  writeRegister target address data haddress _ _ _ h hfmmu := by
    cases h
    exact absurd hfmmu haddress
  count _ h := ⟨h.1, h.2.known, h.2.hasFmmus, h.2.within⟩
  fmmu _ direction _ _ h hmemory :=
    ⟨h.1, h.2.known, h.2.hasFmmus, within_setFmmu h.2.within (h.2.hasFmmus.2 hmemory) direction _⟩

/-- The registers of the FMMUs that are set are those of FMMUs that the slave has. -/
lemma writesFmmus_of_fits {infos : List SlaveInfo} {slave : Slave} (h : slave.Fits infos) :
    SlaveRules.WritesFmmus (Access.WithinFmmus infos) slave := by
  intro i data hslot target address data' heq _
  cases heq
  exact ⟨slave.info, h.known, rfl, i.val, h.within i hslot, rfl⟩

lemma fits_of_assigned {infos : List SlaveInfo} {slave : Slave} (h : slave.Fits infos)
    {fmmu : Vector (Option FmmuConfig) 3} (hassigned : Assigned slave.fmmu fmmu) :
    { slave with fmmu := fmmu }.Fits infos := by
  refine ⟨h.known, h.hasFmmus, fun i hi => h.within i ?_⟩
  rcases hassigned i with hsame | ⟨f, address, bit, hslot, -, -⟩
  · rwa [← hsame]
  · rw [hslot]
    rfl

/-! ## What a run keeps -/

/-- The configuration keeps the invariant, and writes only to FMMUs that there are. -/
lemma configureSlavesForOperation_fits (infos : List SlaveInfo) (polls : ℕ) :
    Keeps (Access.WithinFmmus infos) (PdoImage.AllSlaves (Slave.Fits infos)) (fun _ => True)
      (PdoImage.configureSlavesForOperation polls) := by
  have hfrom {m : Configure Slave Unit} (hm : ∀ info, SlaveRules.Holds (Access.WithinFmmus infos)
      (fun slave => slave.info = info ∧ slave.Fits infos) m) (slave : Slave)
      (hslave : slave.Fits infos) :
      (m slave).Ensures (Access.WithinFmmus infos) fun r => r.2.Fits infos :=
    (hm slave.info slave ⟨rfl, hslave⟩).mono fun r hr => hr.1.2
  refine PdoImage.configureSlavesForOperation_keeps (fun slave config => hfrom (fun info => ?_) slave)
    (fun slave config => hfrom (fun info => ?_) slave)
    (fun slave fmmu h hassigned => fits_of_assigned h hassigned)
    (fun slave config => hfrom (fun info => ?_) slave) polls
    (fun slave config => hfrom (fun info => ?_) slave)
  · exact (slaveRules_fits infos info).holds_setPdoConfigToOdSlave config
  · exact (slaveRules_fits infos info).holds_setPdoToSmSlave (fun _ h => h.1) config
  · exact SlaveRules.holds_configureFmmuSlave (fun _ h => writesFmmus_of_fits h.2) config
  · exact (slaveRules_fits infos info).holds_configureSyncModeSlave polls config

/-- A response to the initialisation clears the network or pushes the slave that is done. -/
lemma NetworkInitTask.network_recieveAndProcess {task task' : NetworkInitTask} {recv : Pdu}
    {sysTime : ℕ} (h : task.recieveAndProcess recv sysTime = .ok task') :
    task'.network = task.network ∨ task'.network = task.network.clear ∨
      ∃ initilizer info result, task.initilizer.recieveAndProcess recv sysTime = .ok initilizer ∧
        initilizer.waitResult.1 = some (.ok (some info)) ∧
        task.network.pushSlave (initializedSlave info) = .ok (result, task'.network) := by
  have hchecked : (task.checked recv).network = task.network ∧
      (task.checked recv).initilizer = task.initilizer := by
    unfold checked
    split <;> exact ⟨rfl, rfl⟩
  rw [← hchecked.1, ← hchecked.2]
  rw [recieveAndProcess, processState] at h
  generalize task.checked recv = task at h ⊢
  split at h
  case h_1 | h_2 | h_6 =>
    cases h
    exact .inl rfl
  case h_3 =>
    cases h
    exact .inr (.inl rfl)
  case h_4 =>
    obtain ⟨initilizer, -, heq⟩ := bind_eq_ok.mp h
    cases heq
    exact .inl rfl
  case h_5 count _ =>
    obtain ⟨initilizer, hinitilizer, h⟩ := bind_eq_ok.mp h
    dsimp only at h
    split at h
    · next info hresult =>
        obtain ⟨⟨result, network⟩, hpush, h⟩ := bind_eq_ok.mp h
        refine .inr (.inr ⟨initilizer, info, result, hinitilizer, hresult, ?_⟩)
        rw [hpush]
        dsimp only at h
        split at h
        · cases h
          rfl
        · obtain ⟨next, -, heq⟩ := bind_eq_ok.mp h
          cases heq
          rfl
    · cases h
    · cases h
      exact .inl rfl
    · cases h
      exact .inl rfl

lemma mem_slavesOf_pushSlave {network network' : Network} {slave slave' : Slave}
    {result : Except Slave Unit} (h : network.pushSlave slave = .ok (result, network'))
    (hmem : slave' ∈ slavesOf network'.slaves) :
    slave' = slave ∨ slave' ∈ slavesOf network.slaves := by
  unfold Network.pushSlave at h
  split at h
  · cases h
    exact .inr hmem
  · obtain ⟨pushCount, -, heq⟩ := bind_eq_ok.mp h
    cases heq
    obtain ⟨config, hmem⟩ := mem_slavesOf.mp hmem
    obtain ⟨i, hget⟩ := List.mem_iff_getElem?.mp hmem
    rw [List.getElem?_modify] at hget
    obtain ⟨buf, hbuf, heq⟩ := Option.map_eq_some_iff.mp hget
    split at heq
    · cases heq
      exact .inl rfl
    · subst heq
      exact .inr (mem_slavesOf.mpr ⟨config, List.mem_of_getElem? hbuf⟩)

lemma slavesOf_clear (network : Network) : slavesOf network.clear.slaves = [] := by
  rw [List.eq_nil_iff_forall_not_mem]
  intro slave hmem
  obtain ⟨config, hmem⟩ := mem_slavesOf.mp hmem
  obtain ⟨buf, -, heq⟩ := List.mem_map.mp hmem
  cases heq

/-- Each slave has the FMMUs that will be used, and only these are set. -/
abbrev FmmusFit (network : Network) : Prop :=
  AllSlaves (fun slave => slave.info.HasFmmus ∧ slave.FmmusWithin) network

lemma allSlaves_fits {network : Network} (h : FmmusFit network) :
    AllSlaves (Slave.Fits ((slavesOf network.slaves).map Slave.info)) network :=
  fun slave hmem => ⟨List.mem_map_of_mem hmem, (h slave hmem).1, (h slave hmem).2⟩

/-- **One step.** -/
lemma networkStep_fits {network network' : Network} {input : NetworkInput}
    (hslaves : FmmusFit network) (hinput : input.HasFmmus)
    (h : networkStep network input = .ok network') : FmmusFit network' := by
  cases input with
  | init task recvData sysTime =>
      rw [networkStep] at h
      split at h
      · next task' htask =>
          cases h
          rcases NetworkInitTask.network_recieveAndProcess htask with hsame | hclear |
            ⟨initilizer, info, result, hinitilizer, hdone, hpush⟩
          · rw [hsame]
            exact hslaves
          · rw [hclear]
            intro slave hmem
            rw [slavesOf_clear] at hmem
            cases hmem
          · intro slave hmem
            rcases mem_slavesOf_pushSlave hpush hmem with rfl | hmem
            · have hinfo := hinput initilizer info hinitilizer hdone
              obtain ⟨heq, hwithin⟩ := fmmusWithin_initializedSlave hinfo
              exact ⟨by rwa [heq], hwithin⟩
            · exact hslaves slave hmem
      · cases h
  | configure processDataTask environment polls =>
      have hkeeps := configureSlavesForOperation_fits _ polls ⟨network, processDataTask⟩
        (allSlaves_fits hslaves)
      rw [networkStep] at h
      rcases hconfigure : (PdoImage.configureSlavesForOperation polls ⟨network, processDataTask⟩).run
        environment.answer environment.start with ⟨⟨result, image⟩ | e | -, w⟩
      · rw [hconfigure] at h
        cases h
        intro slave hmem
        have hfits := (hkeeps.of_returned hconfigure).1 slave hmem
        exact ⟨hfits.hasFmmus, hfits.within⟩
      · rw [hconfigure] at h
        cases h
      · rw [hconfigure] at h
        cases h
  | other call =>
      cases h
      intro slave' hmem
      obtain ⟨slave, hslave, hinfo, hfmmu⟩ := call.keeps network slave' hmem
      obtain ⟨hhas, hwithin⟩ := hslaves slave hslave
      refine ⟨hinfo ▸ hhas, fun i hi => ?_⟩
      rw [hinfo]
      exact hwithin i (hfmmu ▸ hi)

/-- **The FMMUs that are set.**  In every run of a master in which each slave that is initialised has
the FMMUs that will be used, no slave ever has another one set, and the configuration writes only to
FMMUs that there are. -/
theorem withinFmmus_of_run {network network' : Network} {inputs : List NetworkInput}
    (hempty : slavesOf network.slaves = [])
    (halong : Transition.Along networkStep (fun _ input => input.HasFmmus) network inputs)
    (hrun : Transition.run networkStep network inputs = .ok network') :
    AllSlaves Slave.FmmusWithin network' ∧
      ∀ (processDataTask : ProcessTask) (environment : Environment) (polls : ℕ), ∀ access ∈
        (PdoImage.configureSlavesForOperation polls ⟨network', processDataTask⟩).asked
          environment.answer environment.start,
        access.WithinFmmus ((slavesOf network'.slaves).map Slave.info) := by
  have hfit : FmmusFit network := by
    intro slave hmem
    rw [hempty] at hmem
    cases hmem
  have hfit' : FmmusFit network' := Transition.run_invariant FmmusFit
    (fun _ _ _ hslaves hinput h => networkStep_fits hslaves hinput h) hfit halong hrun
  refine ⟨fun slave hmem => (hfit' slave hmem).2, fun processDataTask environment polls access hmem =>
    ?_⟩
  have hkeeps := configureSlavesForOperation_fits _ polls ⟨network', processDataTask⟩
    (allSlaves_fits hfit')
  exact hkeeps.of_mem_asked hmem

/-! ## Two and three FMMUs -/

/-- The last response to a slave that is being initialised. -/
def lastResponse (info : SlaveInfo) : NetworkInput :=
  .init
    { NetworkInitTask.new (.new []) with
      state := .waitInitSlaves 0
      numSlaves := 1
      initilizer :=
        { SlaveInitTask.new with state := .clearSync1CycleTime, slaveInfo := some info } }
    ⟨.default, [], 1⟩ 0

/-- A slave with a byte of outputs. -/
def byteSlave (numberOfFmmu : UInt8) : SlaveInfo :=
  { (ioSlave (some 0x1400)).info with numberOfFmmu := numberOfFmmu }

/-- A network without slaves whose only slot has an entry configured. -/
def emptyNetwork : Network := .new [(none,
  { SlaveConfig.default with outputPdoMappings := [⟨true, 0x1600, [.new 0x7000 1 8]⟩] })]

/-- Slaves with these dictionaries. -/
def byteEnvironment : Environment where
  State := Dictionaries
  answer := Dictionaries.answer
  start := fun _ => byteOutput

/-- The network of one slave that has been initialised. -/
def byteNetwork (numberOfFmmu : UInt8) : Network where
  slaves := emptyNetwork.slaves.map fun buf =>
    (some (NetworkInitTask.initializedSlave (byteSlave numberOfFmmu)), buf.2)
  pushCount := 1

/-- The write to a register of an FMMU of the slave. -/
def isFmmuWrite (address : UInt16) : Access → Bool
  | .writeRegister target address' _ =>
    target = .single (.stationAddress 1) && address' = address
  | _ => false

/-- **A slave with two FMMUs.**  The initialisation sets its third FMMU, and the configuration writes
the register `0x0620`. -/
theorem twoFmmus_notWithin :
    Transition.run networkStep emptyNetwork [lastResponse (byteSlave 2)] = .ok (byteNetwork 2) ∧
      ¬ AllSlaves Slave.FmmusWithin (byteNetwork 2) ∧
      ∃ access ∈ (PdoImage.configureSlavesForOperation 1 ⟨byteNetwork 2, .new 0 0 0⟩).asked
          byteEnvironment.answer byteEnvironment.start,
        ¬ access.WithinFmmus ((slavesOf (byteNetwork 2).slaves).map Slave.info) := by
  refine ⟨rfl, fun h => ?_, ?_⟩
  · have hthird := h _ (List.mem_singleton_self _) 2 rfl
    exact absurd hthird (by decide)
  · have hany : ((PdoImage.configureSlavesForOperation 1 ⟨byteNetwork 2, .new 0 0 0⟩).asked
        byteEnvironment.answer byteEnvironment.start).any (isFmmuWrite 0x0620) = true := by
      decide +kernel
    obtain ⟨access, hmem, hwrite⟩ := List.any_eq_true.mp hany
    refine ⟨access, hmem, fun h => ?_⟩
    cases access with
    | writeRegister target address data =>
        simp only [isFmmuWrite, Bool.and_eq_true, decide_eq_true_eq] at hwrite
        obtain ⟨rfl, rfl⟩ := hwrite
        obtain ⟨info, hinfo, -, i, hi, heq⟩ := h _ _ _ rfl (by decide)
        cases List.mem_singleton.mp hinfo
        have hi : i < 2 := hi
        obtain rfl | rfl : i = 0 ∨ i = 1 := by omega
        all_goals
          revert heq
          decide
    | _ => cases hwrite

/-- With three FMMUs all is well. -/
theorem threeFmmus_within :
    AllSlaves Slave.FmmusWithin (byteNetwork 3) ∧
      ∀ (processDataTask : ProcessTask) (environment : Environment) (polls : ℕ), ∀ access ∈
        (PdoImage.configureSlavesForOperation polls ⟨byteNetwork 3, processDataTask⟩).asked
          environment.answer environment.start,
        access.WithinFmmus ((slavesOf (byteNetwork 3).slaves).map Slave.info) := by
  have hrun : Transition.run networkStep emptyNetwork [lastResponse (byteSlave 3)] =
      .ok (byteNetwork 3) := rfl
  have halong : Transition.Along networkStep (fun _ input => input.HasFmmus) emptyNetwork
      [lastResponse (byteSlave 3)] := by
    refine ⟨fun initilizer info hinitilizer hdone => ?_, fun _ _ => trivial⟩
    cases hinitilizer
    cases hdone
    exact ⟨fun _ => by decide, fun _ => by decide⟩
  exact withinFmmus_of_run rfl halong hrun

end EtherCat
