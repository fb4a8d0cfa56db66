import EtherCat.Master.ConfigureKeeps
import EtherCat.Master.CyclicOperation
import EtherCat.Task.DcMeasurement
import EtherCat.Task.NetworkInitRun

/-!
# The station addresses in the runs of the master

`init` gives every slave that it pushes the station address behind its position, also where it ends
with an error.  No other call changes how many slaves there are or what is known about them, so that
the slaves of the network carry these addresses in every run (`EtherCatMaster.stationed_of_run`).
-/

namespace EtherCat

open Rust Rust.Exec Rust.Method CyclicTask Configure
open DcInitTask (SameSlaves sameSlaves_mapSlaves)

namespace Network

/-- The slave in each slot carries the station address behind its position. -/
def Stationed (net : Network) : Prop :=
  ∀ i < net.pushCount, ∀ slave, net.slaveAt i = some slave →
    slave.info.configuredAddress = .ofNat (i + 1)

lemma stationed_of_pushCount_eq_zero {net : Network} (h : net.pushCount = 0) : net.Stationed := by
  intro i hi
  rw [h] at hi
  exact absurd hi (Nat.not_lt_zero i)

lemma Stationed.of_sameSlaves {net net' : Network} (h : net.Stationed)
    (hsame : SameSlaves net net') : net'.Stationed := by
  intro i hi slave' hslave'
  rw [hsame.pushCount] at hi
  have hinfo := hsame.info i
  rw [hslave'] at hinfo
  obtain ⟨slave, hslave, heq⟩ := Option.map_eq_some_iff.mp hinfo.symm
  rw [← heq]
  exact h i hi slave hslave

/-- An address finds the slave in its slot. -/
lemma slaveAt_of_slave_eq_ok {net : Network} {addr : SlaveAddress} {slave : Slave}
    {config : SlaveConfig} (h : net.slave addr = .ok (some (slave, config))) :
    ∃ i < net.pushCount, position addr = some i ∧ net.slaveAt i = some slave := by
  unfold Network.slave at h
  split at h
  · cases h
  next i hposition =>
    split at h
    · next hlt =>
        obtain ⟨⟨slot, config'⟩, hslot, h⟩ := bind_eq_ok.mp h
        obtain ⟨slave', hslave, heq⟩ := bind_eq_ok.mp h
        cases heq
        refine ⟨i, hlt, hposition, slaveAt_eq_some_iff.mpr ⟨config, ?_⟩⟩
        rw [← unwrap_eq_ok_iff.mp hslave]
        exact index_eq_ok_iff.mp hslot
    · cases h

/-- The station address of the slave that an address finds. -/
lemma Stationed.slaveAddress {net : Network} (h : net.Stationed) {addr : SlaveAddress}
    {slave : Slave} {config : SlaveConfig} (hslave : net.slave addr = .ok (some (slave, config))) :
    ∃ i, position addr = some i ∧
      slave.info.slaveAddress = .stationAddress (.ofNat (i + 1)) := by
  obtain ⟨i, hlt, hposition, hat⟩ := slaveAt_of_slave_eq_ok hslave
  exact ⟨i, hposition, congrArg SlaveAddress.stationAddress (h i hlt slave hat)⟩

end Network

/-! ## The initialisation -/

namespace NetworkInitTask

/-- The task does not clear the network any more, or it ends with the network as it is. -/
lemma network_of_recieveAndProcess {task task' : NetworkInitTask} {recv : Pdu} {sysTime : ℕ}
    (h : task.recieveAndProcess recv sysTime = .ok task')
    (hends : task'.state = .countSlaves ∨ ∃ e, task'.state = .error e) :
    task'.network = task.network := by
  have hchecked : (task.checked recv).network = task.network := by
    unfold checked
    split <;> rfl
  rw [← hchecked]
  rw [recieveAndProcess, processState] at h
  generalize task.checked recv = task at h ⊢
  split at h
  case h_1 | h_2 | h_6 =>
    cases h
    rfl
  case h_3 =>
    -- the network is cleared, and the task goes on
    cases h
    dsimp only at hends
    split at hends <;> rcases hends with hends | ⟨e, hends⟩ <;> cases hends
  case h_4 =>
    obtain ⟨initilizer, -, heq⟩ := bind_eq_ok.mp h
    cases heq
    rfl
  case h_5 count _ =>
    obtain ⟨initilizer, -, h⟩ := bind_eq_ok.mp h
    dsimp only at h
    split at h
    · obtain ⟨⟨pushed, network⟩, hpush, h⟩ := bind_eq_ok.mp h
      rcases Network.pushSlave_eq_ok hpush with ⟨-, rfl, rfl⟩ | ⟨-, rfl, -, rfl⟩
      · cases h
        rfl
      · -- a slave is pushed, and the task goes on
        obtain ⟨next, -, heq⟩ := bind_eq_ok.mp h
        cases heq
        dsimp only at hends
        split at hends <;> rcases hends with hends | ⟨e, hends⟩ <;> cases hends
    · cases h
    · cases h
      rfl
    · cases h
      rfl

lemma nextPdu_network {task task' : NetworkInitTask} {buf buf' : List UInt8}
    {pdu : Option (Command × ℕ)} (h : task.nextPdu buf = .ok ((pdu, buf'), task')) :
    task'.network = task.network := by
  unfold nextPdu at h
  split at h
  case h_1 | h_2 | h_6 =>
    cases h
    rfl
  case h_3 =>
    obtain ⟨pdu', -, heq⟩ := bind_eq_ok.mp h
    cases heq
    rfl
  case h_4 | h_5 =>
    obtain ⟨initilizer, -, rfl⟩ := nextInitilizer_eq_ok h
    rfl

/-- Between the count and an error the network holds what was scanned. -/
lemma stationed_of_scans {length : ℕ} {task : NetworkInitTask} {noted : List InitResponse}
    (h : Scans length task noted)
    (hends : ¬ (task.state = .countSlaves ∨ ∃ e, task.state = .error e)) :
    task.network.Stationed := by
  have hscanned : ∀ {net : Network}, Scanned net noted → net.Stationed := fun h i _ =>
    h.address i
  obtain ⟨-, hstate⟩ := h
  split at hstate
  case h_1 => exact hstate.elim
  case h_2 e herror => exact absurd (.inr ⟨e, herror⟩) hends
  case h_3 hcount => exact absurd (.inl hcount) hends
  case h_4 => exact hscanned hstate.scanned
  case h_5 => exact hscanned hstate.1.scanned
  case h_6 => exact hscanned hstate.1

/-- **The invariant** of the loop of `init`, with some responses and a PDU that is out. -/
structure Addressing (length : ℕ) (task : NetworkInitTask) : Prop where
  stationed : task.network.Stationed
  scans : ∃ noted sent, Scans length task noted ∧ Sends task sent

lemma addressing_start {network : Network} (h : network.Stationed) :
    Addressing network.slaves.length (NetworkInitTask.new network).start :=
  ⟨h, [], none, ⟨rfl, rfl⟩, trivial⟩

/-- **A step.** -/
lemma Addressing.processOneStep {length : ℕ} {task task' : NetworkInitTask}
    (h : Addressing length task) (hbusy : isBusy task = true) {socket socket' : PduSocket}
    {sysTime : ℕ} (hstep : CyclicTask.processOneStep task socket sysTime = .ok (task', socket')) :
    Addressing length task' := by
  obtain ⟨hstationed, noted, sent, hscans, hsends⟩ := h
  obtain ⟨task₁, hresponse, hstep⟩ := bind_eq_ok.mp hstep
  obtain ⟨⟨⟨pdu, dataBuf⟩, task₂⟩, hnext, heq⟩ := bind_eq_ok.mp hstep
  cases heq
  have hprocessed : task₁.network.Stationed ∧ ∃ noted, Scans length task₁ noted := by
    obtain ⟨seen, -, hprocess⟩ := bind_eq_ok.mp hresponse
    rcases seen with _ | recv
    · cases hprocess
      exact ⟨hstationed, noted, hscans⟩
    · let response : InitResponse := ⟨sent, recv, task.initializes recv sysTime⟩
      have hscans₁ : Scans length task₁ (noted ++ [response]) :=
        scans_process hbusy hscans hsends rfl hprocess
      refine ⟨?_, _, hscans₁⟩
      by_cases hends : task₁.state = .countSlaves ∨ ∃ e, task₁.state = .error e
      · rw [network_of_recieveAndProcess hprocess hends]
        exact hstationed
      · exact stationed_of_scans hscans₁ hends
  obtain ⟨hstationed₁, noted₁, hscans₁⟩ := hprocessed
  obtain ⟨hscans₂, hsends₂⟩ := scans_next hscans₁ hnext
  exact ⟨nextPdu_network hnext ▸ hstationed₁, noted₁, _, hscans₂, hsends₂⟩

end NetworkInitTask

/-! ## The clocks -/

namespace DcInitTask

lemma OnNetwork.sameSlaves_processOneStep {dc dc' : OnNetwork} {socket socket' : PduSocket}
    {sysTime : ℕ} (hstep : processOneStep dc socket sysTime = .ok (dc', socket')) :
    SameSlaves dc.network dc'.network := by
  obtain ⟨dc₁, hresponse, hstep⟩ := bind_eq_ok.mp hstep
  obtain ⟨⟨⟨pdu, dataBuf⟩, dc₂⟩, hnext, heq⟩ := bind_eq_ok.mp hstep
  cases heq
  obtain ⟨⟨command, rfl⟩, -⟩ := nextPdu_command hnext
  obtain ⟨seen, -, hprocess⟩ := bind_eq_ok.mp hresponse
  rcases seen with _ | recv
  · cases hprocess
    exact .refl _
  · exact (moved_recieveAndProcess hprocess).slaves

end DcInitTask

/-! ## The configuration -/

lemma sameSlaves_of_slotRel {network : Network} {slots : List (Option Slave × SlaveConfig)}
    (h : List.Forall₂ (SlotRel fun slave slave' => slave'.info = slave.info) network.slaves slots) :
    SameSlaves network { network with slaves := slots } := by
  obtain ⟨slots₀, pushCount⟩ := network
  refine ⟨rfl, fun i => ?_⟩
  rw [Network.slaveAt, Network.slaveAt]
  dsimp only at h ⊢
  induction h generalizing i with
  | nil => rfl
  | @cons slot slot' slots slots' hslot hslots ih =>
      cases i with
      | zero =>
          obtain ⟨slave, config⟩ := slot
          obtain ⟨slave', config'⟩ := slot'
          obtain ⟨-, hrel⟩ := hslot
          rcases hrel with hinfo | -
          · exact congrArg some hinfo
          · rfl
      | succ i => exact ih i

section
variable {network₀ : Network}

lemma forSlaves_sameSlaves {body : SlaveConfig → Configure Slave Unit}
    (hbody : ∀ slave config,
      (body config slave).Ensures (fun _ => True) fun r => r.2.info = slave.info) :
    Keeps (fun _ => True) (SameSlaves network₀) (fun _ => True) (forSlaves body) := by
  intro network hnetwork
  have hslots : (forSlots body network.slaves).Ensures (fun _ => True) fun r =>
      List.Forall₂ (SlotRel fun slave slave' => slave'.info = slave.info) network.slaves r.2 :=
    forSlots_ensures (R := fun slave slave' => slave'.info = slave.info) (fun _ => rfl)
      fun slave config _ => hbody slave config
  exact hslots.bind fun r hr => ⟨hnetwork.trans (sameSlaves_of_slotRel hr), fun _ _ => trivial⟩

lemma assignSlots_slotRel {slots slots' : List (Option Slave × SlaveConfig)}
    {bitAddress expectedWkc : ℕ} {last : ℕ × ℕ}
    (h : assignSlots slots bitAddress expectedWkc = .ok (slots', last)) :
    List.Forall₂ (SlotRel fun slave slave' => slave'.info = slave.info) slots slots' := by
  induction slots generalizing slots' bitAddress expectedWkc with
  | nil =>
      cases h
      exact .nil
  | cons slot slots ih =>
      obtain ⟨slave | slave, config⟩ := slot
      · obtain ⟨⟨rest, last'⟩, hrest, heq⟩ := bind_eq_ok.mp h
        cases heq
        exact .cons ⟨rfl, .none⟩ (ih hrest)
      · obtain ⟨⟨fmmu, scan⟩, -, h⟩ := bind_eq_ok.mp h
        obtain ⟨wkc, -, h⟩ := bind_eq_ok.mp h
        obtain ⟨⟨rest, last'⟩, hrest, heq⟩ := bind_eq_ok.mp h
        cases heq
        exact .cons ⟨rfl, .some rfl⟩ (ih hrest)

lemma configureFmmu_sameSlaves
    (hfmmu : ∀ slave config, (configureFmmuSlave config slave).Ensures (fun _ => True)
      fun r => r.2.info = slave.info) :
    Keeps (fun _ => True) (SameSlaves network₀) (fun _ => True) configureFmmu := by
  refine keeps_get.bind fun network hnetwork => ?_
  have hassigned : ∀ r, setLogicalAddressToFmmuConfig network = .ok r →
      SameSlaves network₀ r.2 := by
    intro r hr
    obtain ⟨start, -, hr⟩ := bind_eq_ok.mp hr
    obtain ⟨⟨slots, bitAddress, expectedWkc⟩, hslots, hr⟩ := bind_eq_ok.mp hr
    have hsame := hnetwork.trans (sameSlaves_of_slotRel (assignSlots_slotRel hslots))
    dsimp only at hr
    split at hr
    all_goals
      obtain ⟨size, -, hr⟩ := bind_eq_ok.mp hr
      obtain ⟨-, -, heq⟩ := bind_eq_ok.mp hr
      cases heq
      exact hsame
  refine (keeps_ofExec hassigned).bind ?_
  rintro ⟨⟨imageSize, expectedWkc⟩, network'⟩ hnetwork'
  refine (keeps_modify fun _ _ => hnetwork').bind_any fun _ => ?_
  exact (forSlaves_sameSlaves hfmmu).bind_any fun _ => keeps_pure trivial

namespace PdoImage

/-- The slaves of the image are those of the network. -/
abbrev SameSlavesAs (network₀ : Network) (image : PdoImage) : Prop :=
  SameSlaves network₀ image.network

lemma onNetwork_sameSlaves {α : Type} {m : Configure Network α}
    (hm : Keeps (fun _ => True) (SameSlaves network₀) (fun _ => True) m) :
    Keeps (fun _ => True) (SameSlavesAs network₀) (fun _ => True) (onNetwork m) :=
  hm.zoom (fun _ h => h) fun _ _ _ h => h

/-- **The configuration keeps what is known about the slaves.** -/
lemma configureSlavesForOperation_sameSlaves (polls : ℕ) :
    Keeps (fun _ => True) (SameSlavesAs network₀) (fun _ => True)
      (configureSlavesForOperation polls) := by
  have hrules : ∀ info, SlaveRules (fun _ => True) fun slave => slave.info = info := fun info =>
    ⟨fun _ _ _ _ => trivial, fun _ _ _ _ _ => trivial, fun _ _ _ => trivial,
      fun _ _ _ _ => trivial, fun _ h => h, fun _ _ _ _ h _ => h⟩
  have hfrom {m : Configure Slave Unit} (hm : ∀ info,
      SlaveRules.Holds (fun _ => True) (fun slave => slave.info = info) m) (slave : Slave) :
      (m slave).Ensures (fun _ => True) fun r => r.2.info = slave.info :=
    (hm slave.info slave rfl).mono fun r hr => hr.1
  have himage : Keeps (fun _ => True) (SameSlavesAs network₀) (fun _ => True)
      configurePdoImage := by
    refine (onNetwork_sameSlaves (forSlaves_sameSlaves fun slave config =>
      hfrom (fun info => (hrules info).holds_setPdoConfigToOdSlave config) slave)).bind_any
        fun _ => ?_
    refine (onNetwork_sameSlaves (forSlaves_sameSlaves fun slave config =>
      hfrom (fun info => (hrules info).holds_setPdoToSmSlave (fun _ h => h) config) slave)).bind_any
        fun _ => ?_
    refine (onNetwork_sameSlaves (configureFmmu_sameSlaves fun slave config =>
      hfrom (fun info => SlaveRules.holds_configureFmmuSlave (fun _ _ _ _ _ => trivial) config)
        slave)).bind_any ?_
    rintro ⟨imageSize, expectedWkc⟩
    refine Keeps.bind_any (keeps_modify fun image h => h) fun _ => ?_
    refine keeps_get.bind fun image himage => ?_
    have hassigned : ∀ network, EtherCat.setLogicalAddressToPdoEntryConfig image.network =
        .ok network → SameSlaves network₀ network := by
      intro network h
      refine himage.trans (sameSlaves_mapSlaves ?_ h)
      rintro ⟨slave, config⟩ slot' hslot'
      obtain ⟨config₁, -, hslot'⟩ := bind_eq_ok.mp hslot'
      obtain ⟨config₂, -, heq⟩ := bind_eq_ok.mp hslot'
      cases heq
      rfl
    exact (keeps_ofExec hassigned).bind fun network hnetwork => keeps_modify fun _ _ => hnetwork
  refine himage.bind_any fun _ => onNetwork_sameSlaves (forSlaves_sameSlaves fun slave config => ?_)
  exact hfrom (fun info => (hrules info).holds_configureSyncModeSlave polls config) slave

end PdoImage

end

/-! ## The calls -/

/-- A transfer counts its request in the slave. -/
lemma SocketInterface.transferSdo_info {α : Type} (slave : Slave) (message : Mailbox)
    (decode : UInt8 → List UInt8 → Exec (Except (TaskError SdoErrorKind) α)) :
    (transferSdo slave message decode).Ensures (fun _ => True) fun r => r.2.info = slave.info := by
  refine ⟨trivial, fun written => ?_⟩
  refine (Program.ensures_ofExec (Q := fun _ => True) fun _ _ => trivial).bind fun _ _ => ?_
  refine ⟨trivial, fun mbData => ?_⟩
  refine (Program.ensures_ofExec (Q := fun _ => True) fun _ _ => trivial).bind fun _ _ => ?_
  exact (Program.ensures_ofExec (Q := fun _ => True) fun _ _ => trivial).bind fun _ _ => rfl

namespace EtherCatMaster

variable {D : Type} [RawEthernetDevice D] {master master' : EtherCatMaster D} {turns : ℕ}

lemma stationed_init (h : master.network.Stationed)
    {r : Except (TaskError NetworkInitTaskError) Unit}
    (hinit : master.init turns = .ok (some r, master')) : master'.network.Stationed := by
  obtain ⟨socket, -, hinit⟩ := bind_eq_ok.mp hinit
  obtain ⟨⟨⟩, -, hinit⟩ := bind_eq_ok.mp hinit
  obtain ⟨⟨result, b⟩, hturns, hinit⟩ := bind_eq_ok.mp hinit
  have hunit : NetworkInitTask.Addressing master.network.slaves.length b.unit :=
    BlockOn.unit_of_turns (fun _ _ _ _ _ hbusy h hstep => h.processOneStep hbusy hstep) rfl
      (NetworkInitTask.addressing_start h) hturns
  rcases result with _ | e | ⟨⟨⟩⟩
  · cases hinit
  · cases hinit
    exact hunit.stationed
  · obtain ⟨result, -, hinit⟩ := bind_eq_ok.mp hinit
    rcases result with e | ⟨⟨⟩⟩
    · cases hinit
      exact hunit.stationed
    · cases hinit
      exact hunit.stationed

lemma sameSlaves_initDc {r : Except (TaskError Unit) Unit}
    (hinit : master.initDc turns = .ok (some r, master')) :
    SameSlaves master.network master'.network := by
  obtain ⟨socket, -, hinit⟩ := bind_eq_ok.mp hinit
  obtain ⟨⟨⟩, -, hinit⟩ := bind_eq_ok.mp hinit
  obtain ⟨⟨task, network⟩, hstart, hinit⟩ := bind_eq_ok.mp hinit
  obtain ⟨⟨result, b⟩, hturns, hinit⟩ := bind_eq_ok.mp hinit
  obtain ⟨hstarted, hstate⟩ := DcInitTask.start_sameSlaves hstart
  have hbusy : isBusy (⟨task, network⟩ : DcInitTask.OnNetwork) = true := by
    change DcInitTask.OnNetwork.isBusy _ = true
    rw [DcInitTask.OnNetwork.isBusy, hstate]
  have hunit : SameSlaves master.network b.unit.network :=
    BlockOn.unit_of_turns (P := fun dc => SameSlaves master.network dc.network)
      (fun _ _ _ _ _ _ h hstep => h.trans (DcInitTask.OnNetwork.sameSlaves_processOneStep hstep))
      hbusy hstarted hturns
  rcases result with _ | e | ⟨⟨⟩⟩
  · cases hinit
  · cases hinit
    exact hunit
  · obtain ⟨result, -, hinit⟩ := bind_eq_ok.mp hinit
    rcases result with e | ⟨⟨⟩⟩
    · cases hinit
      exact hunit
    · obtain ⟨dcTask, -, heq⟩ := bind_eq_ok.mp hinit
      cases heq
      exact hunit

lemma sameSlaves_configureSlavesForOperation {polls : ℕ} {r : Except ConfigError Unit}
    (hconfigure : master.configureSlavesForOperation turns polls = .ok (some r, master')) :
    SameSlaves master.network master'.network := by
  obtain ⟨⟨result, sif⟩, hexec, hconfigure⟩ := bind_eq_ok.mp hconfigure
  rcases result with _ | ⟨result, image⟩
  · cases hconfigure
  have hsame := (PdoImage.configureSlavesForOperation_sameSlaves polls
    ⟨master.network, master.processDataTask⟩ (.refl master.network)).of_exec hexec
  cases hconfigure
  exact hsame.1

lemma sameSlaves_transferSdo {α : Type} {slaveAddress : SlaveAddress}
    {transfer : Slave → CallProgram (Except (TaskError SdoErrorKind) α × Slave)}
    (hinfo : ∀ slave, (transfer slave).Ensures (fun _ => True) fun r => r.2.info = slave.info)
    {r : Except (TaskError SdoErrorKind) α}
    (htransfer : master.transferSdo turns slaveAddress transfer = .ok (some r, master')) :
    SameSlaves master.network master'.network := by
  obtain ⟨found, hfound, htransfer⟩ := bind_eq_ok.mp htransfer
  obtain ⟨⟨slave, config⟩, hslave, htransfer⟩ := bind_eq_ok.mp htransfer
  obtain ⟨position, hposition, htransfer⟩ := bind_eq_ok.mp htransfer
  obtain ⟨⟨result, sif⟩, hexec, htransfer⟩ := bind_eq_ok.mp htransfer
  rcases result with _ | ⟨result, slave'⟩
  · cases htransfer
  have hkept : slave'.info = slave.info := (hinfo slave).of_exec hexec
  cases htransfer
  rw [unwrap_eq_ok_iff.mp hslave] at hfound
  obtain ⟨i, -, hi, hat⟩ := Network.slaveAt_of_slave_eq_ok hfound
  obtain rfl : position = i :=
    Option.some.inj ((unwrap_eq_ok_iff.mp hposition).symm.trans hi)
  refine ⟨rfl, fun j => ?_⟩
  rw [Network.slaveAt_modifySlave]
  split
  · next hj =>
      subst hj
      rw [hat, Option.map_some, Option.map_some, Option.map_some, hkept]
  · rfl

omit [RawEthernetDevice D] in
/-- The tasks do not change the network. -/
lemma network_cycle {sysTime : ℕ} (hcycle : master.cycle sysTime = .ok master') :
    master'.network = master.network := by
  obtain ⟨m₁, h₁, hcycle⟩ := bind_eq_ok.mp hcycle
  obtain ⟨m₂, h₂, hcycle⟩ := bind_eq_ok.mp hcycle
  obtain ⟨m₃, h₃, hcycle⟩ := bind_eq_ok.mp hcycle
  obtain ⟨m₄, h₄, hcycle⟩ := bind_eq_ok.mp hcycle
  obtain ⟨m₅, h₅, heq⟩ := bind_eq_ok.mp hcycle
  cases heq
  have hdata : m₁.network = master.network := by
    rw [processData] at h₁
    split at h₁
    · cases h₁
      rfl
    · obtain ⟨_, -, h₁⟩ := bind_eq_ok.mp h₁
      obtain ⟨_, -, h₁⟩ := bind_eq_ok.mp h₁
      obtain ⟨_, -, h₁⟩ := bind_eq_ok.mp h₁
      obtain ⟨_, -, h₁⟩ := bind_eq_ok.mp h₁
      obtain ⟨_, -, heq⟩ := bind_eq_ok.mp h₁
      cases heq
      rfl
  have hdc : m₂.network = m₁.network := by
    rw [compDcDrift] at h₂
    split at h₂
    · cases h₂
      rfl
    · obtain ⟨_, -, heq⟩ := bind_eq_ok.mp h₂
      cases heq
      rfl
  obtain ⟨_, -, heq₃⟩ := bind_eq_ok.mp h₃
  obtain ⟨_, -, heq₄⟩ := bind_eq_ok.mp h₄
  obtain ⟨_, -, heq₅⟩ := bind_eq_ok.mp h₅
  cases heq₃
  cases heq₄
  cases heq₅
  exact hdc.trans hdata

lemma network_process {sysTime : ℕ} {r : Except PhyError ℕ}
    (hprocess : master.process sysTime = .ok (r, master')) : master'.network = master.network := by
  obtain ⟨⟨result, sif⟩, -, hprocess⟩ := bind_eq_ok.mp hprocess
  rcases result with e | _ | _
  · cases hprocess
    rfl
  · cases hprocess
    rfl
  · obtain ⟨m, hcycle, heq⟩ := bind_eq_ok.mp hprocess
    cases heq
    have hnetwork := network_cycle hcycle
    exact hnetwork

omit [RawEthernetDevice D] in
lemma network_registerProcessDataBuffer {buf : List UInt8} {r : Bool}
    (hregister : master.registerProcessDataBuffer buf = .ok (r, master')) :
    master'.network = master.network := by
  rw [registerProcessDataBuffer] at hregister
  split at hregister
  · cases hregister
    rfl
  · obtain ⟨⟨handle, sif⟩, -, heq⟩ := bind_eq_ok.mp hregister
    cases heq
    rfl

omit [RawEthernetDevice D] in
lemma network_writePdo {slaveAddress : SlaveAddress} {pdoMapIndex pdoEntryIndex : ℕ}
    {data : List UInt8} {r : Option Unit}
    (hwrite : master.writePdo slaveAddress pdoMapIndex pdoEntryIndex data = .ok (r, master')) :
    master'.network = master.network := by
  rw [writePdo] at hwrite
  split at hwrite
  · cases hwrite
    rfl
  split at hwrite
  · cases hwrite
    rfl
  obtain ⟨entry, -, hwrite⟩ := bind_eq_ok.mp hwrite
  rcases entry with _ | pdoEntry
  · cases hwrite
    rfl
  · obtain ⟨⟨result, dataBuf⟩, -, heq⟩ := bind_eq_ok.mp hwrite
    cases heq
    rfl

omit [RawEthernetDevice D] in
lemma network_requestMailbox {slave : Slave} {message : Mailbox} {r : Option MailboxSessionId}
    (hrequest : master.requestMailbox slave message = .ok (r, master')) :
    master'.network = master.network := by
  rw [requestMailbox] at hrequest
  split at hrequest
  · cases hrequest
    rfl
  · obtain ⟨socket, -, hrequest⟩ := bind_eq_ok.mp hrequest
    obtain ⟨⟨id, task, slave', dataBuf⟩, -, heq⟩ := bind_eq_ok.mp hrequest
    cases heq
    rfl

/-- **A call** keeps the station addresses. -/
lemma stationed_call (h : master.network.Stationed) {c : MasterCall}
    (hcall : master.call c = .ok master') : master'.network.Stationed := by
  cases c with
  | init turns =>
      obtain ⟨r, hinit⟩ := of_behindBlocking hcall
      exact stationed_init h hinit
  | initDc turns =>
      obtain ⟨r, hinit⟩ := of_behindBlocking hcall
      exact h.of_sameSlaves (sameSlaves_initDc hinit)
  | configureSlavesForOperation turns polls =>
      obtain ⟨r, hconfigure⟩ := of_behindBlocking hcall
      exact h.of_sameSlaves (sameSlaves_configureSlavesForOperation hconfigure)
  | block turns c =>
      obtain ⟨r, hblock⟩ := of_behindBlocking hcall
      obtain ⟨⟨result, sif⟩, -, heq⟩ := bind_eq_ok.mp hblock
      cases heq
      exact h
  | readSdo turns slaveAddress index subIndex =>
      obtain ⟨r, hread⟩ := of_behindBlocking hcall
      exact h.of_sameSlaves (sameSlaves_transferSdo
        (fun _ => SocketInterface.transferSdo_info _ _ _) hread)
  | writeSdo turns slaveAddress index subIndex data =>
      obtain ⟨r, hwrite⟩ := of_behindBlocking hcall
      exact h.of_sameSlaves (sameSlaves_transferSdo
        (fun _ => SocketInterface.transferSdo_info _ _ _) hwrite)
  | process sysTime =>
      obtain ⟨r, hprocess⟩ := of_behind hcall
      exact network_process hprocess ▸ h
  | registerProcessDataBuffer buf =>
      obtain ⟨r, hregister⟩ := of_behind hcall
      exact network_registerProcessDataBuffer hregister ▸ h
  | writePdo slaveAddress pdoMapIndex pdoEntryIndex data =>
      obtain ⟨r, hwrite⟩ := of_behind hcall
      exact network_writePdo hwrite ▸ h
  | requestMailbox slave message =>
      obtain ⟨r, hrequest⟩ := of_behind hcall
      exact network_requestMailbox hrequest ▸ h
  | requestAlState alState =>
      rw [call, requestAlState] at hcall
      split at hcall <;> cases hcall <;> exact h

/-- **A run.** -/
lemma stationed_of_run {slaveBuf : List (Option Slave × SlaveConfig)} {socketBuffer : List UInt8}
    {iface : PduInterface D} {first : EtherCatMaster D} {calls : List MasterCall}
    (hnew : new slaveBuf socketBuffer iface = .ok first)
    (hrun : Transition.run call first calls = .ok master) : master.network.Stationed := by
  obtain ⟨⟨⟩, hslaves, h⟩ := bind_eq_ok.mp hnew
  obtain ⟨⟨⟩, hlength, -⟩ := bind_eq_ok.mp h
  rw [CyclicState.new_eq (assert_eq_ok_iff.mp hslaves) (assert_eq_ok_iff.mp hlength)] at hnew
  cases hnew
  exact Transition.run_invariant (P := fun _ _ => True)
    (fun master : EtherCatMaster D => master.network.Stationed)
    (fun _ _ _ h _ hcall => stationed_call h hcall)
    (Network.stationed_of_pushCount_eq_zero rfl)
    (Transition.along_of_forall (fun _ _ => trivial) _ _) hrun

end EtherCatMaster

end EtherCat
