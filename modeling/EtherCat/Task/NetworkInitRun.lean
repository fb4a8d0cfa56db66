import EtherCat.Slave.Filled
import EtherCat.Task.MailboxSlots
import EtherCat.Task.NetworkInitSteps
import EtherCat.Task.RequestTasks
import EtherCat.Task.ResponseChecks
import EtherCat.Task.StationAddress

/-!
# The network after a scan

Before every step of a run of `NetworkInitTask` the network holds the slaves that were initialised
since the count, in order, each with the station address behind its position.  What the network
held when the task was started makes no difference.
-/

namespace EtherCat

open Rust Rust.Exec BitField CyclicTask

/-! ## What a run shows -/

/-- A response that the busy task has processed: the PDU that was out, and whether the inner task
has completed by it. -/
structure InitResponse where
  sent : Option Pdu
  recv : Pdu
  initializes : Bool
  deriving DecidableEq

/-- The write of the station address behind the position to the slave there, and its response. -/
def InitResponse.Addresses (response : InitResponse) (position : UInt16) : Prop :=
  ∃ sent, response.sent = some sent ∧
    SlaveInitTask.WritesAddress position sent.command sent.data ∧
    response.recv.Echoes sent.command ∧ response.recv.wkc = 1

namespace NetworkInitTask

/-- The response initialises the slave: the inner task completes by it. -/
def initializes (task : NetworkInitTask) (recv : Pdu) (sysTime : ℕ) : Bool :=
  match task.state with
  | .waitInitSlaves _ =>
    decide (recv.Echoes task.command) &&
      match task.initilizer.recieveAndProcess recv sysTime with
      | .ok initilizer => initilizer.state == .complete
      | .error _ => false
  | _ => false

/-- The responses that a run shows to the busy task. -/
def responses (d : Driven NetworkInitTask) (reply : Reply) : List InitResponse :=
  if d.task.isBusy then
    (d.seen reply).toList.map fun recv =>
      ⟨d.socket.outstanding, recv, d.task.initializes recv reply.time⟩
  else []

/-- The number of slaves that were initialised. -/
def initialized (noted : List InitResponse) : ℕ := noted.countP InitResponse.initializes

@[simp] lemma initialized_append_singleton (noted : List InitResponse) (response : InitResponse) :
    initialized (noted ++ [response]) =
      initialized noted + if response.initializes then 1 else 0 := by
  rw [initialized, List.countP_append, List.countP_singleton]
  rfl

/-! ## The invariant -/

/-- The slave at the position has been given its station address. -/
def IsAddressed (noted : List InitResponse) (position : UInt16) : Prop :=
  ∃ response ∈ noted, response.Addresses position

/-- The network holds the slaves that were initialised since the count. -/
structure Scanned (net : Network) (noted : List InitResponse) : Prop where
  filled : net.Filled
  initialized : initialized noted = net.pushCount
  address : ∀ i slave, net.slaveAt i = some slave → slave.info.configuredAddress = .ofNat (i + 1)
  isAddressed : ∀ i < net.pushCount, IsAddressed noted (.ofNat i)

/-- The first response has been that of the count. -/
def Counted (numSlaves : UInt16) (noted : List InitResponse) : Prop :=
  ∃ counted rest, noted = counted :: rest ∧ counted.recv.wkc = numSlaves

/-- The inner task is on the slave behind those in the network. -/
structure Scanning (task : NetworkInitTask) (noted : List InitResponse) (count : UInt16) :
    Prop where
  scanned : Scanned task.network noted
  counted : Counted task.numSlaves noted
  pushCount : task.network.pushCount = count.toNat
  lt : count < task.numSlaves

/-- The inner task on the slave at a position. -/
structure Initializing (initilizer : SlaveInitTask) (noted : List InitResponse)
    (position : UInt16) : Prop where
  slaveAddress : initilizer.slaveAddress = .slavePosition position
  isSome : initilizer.slaveInfo.isSome = true
  isAddressed : initilizer.state.isAddressed = true →
    initilizer.noted = some (position + 1) ∧ IsAddressed noted position

/-- What holds before the next PDU. -/
def Scans (length : ℕ) (task : NetworkInitTask) (noted : List InitResponse) : Prop :=
  task.network.slaves.length = length ∧
    match task.state with
    | .idle => False
    | .error e => initialized noted ≤ length ∨
        initialized noted = length + 1 ∧ e = .taskSpecific .tooManySlaves
    | .countSlaves => noted = []
    | .startInitSlaves count => Scanning task noted count
    | .waitInitSlaves count => Scanning task noted count ∧ Initializing task.initilizer noted count
    | .complete => Scanned task.network noted ∧ Counted task.numSlaves noted ∧
        task.network.pushCount = task.numSlaves.toNat

/-- What the PDU that is out adds. -/
def Sends (task : NetworkInitTask) (sent : Option Pdu) : Prop :=
  match task.state with
  | .startInitSlaves count =>
    task.initilizer.state = .setLoopPort ∧ Initializing task.initilizer [] count
  | .waitInitSlaves count => task.initilizer.state = .setStationAddress →
    task.initilizer.noted = some (count + 1) ∧ ∃ pdu, sent = some pdu ∧
      SlaveInitTask.WritesAddress count pdu.command pdu.data ∧
      pdu.command = task.initilizer.command
  | .error _ | .complete => sent = none
  | _ => True

/-! ## The next PDU -/

lemma Initializing.next {initilizer initilizer' : SlaveInitTask} {noted : List InitResponse}
    {position : UInt16} {buf buf' : List UInt8} {pdu : Option (Command × ℕ)}
    (hinit : Initializing initilizer noted position)
    (h : initilizer.nextPdu buf = .ok ((pdu, buf'), initilizer')) :
    Initializing initilizer' noted position := by
  have hsends := SlaveInitTask.nextPdu_sendsOn h
  refine ⟨hsends.slaveAddress.trans hinit.slaveAddress, hsends.isSome hinit.isSome,
    fun haddressed => ?_⟩
  rw [hsends.state] at haddressed
  rw [hsends.noted (by rintro heq; rw [heq] at haddressed; cases haddressed)]
  exact hinit.isAddressed haddressed

/-- **The next PDU.** -/
lemma scans_next {length : ℕ} {task task' : NetworkInitTask} {noted : List InitResponse}
    {buf buf' : List UInt8} {pdu : Option (Command × ℕ)} (hscans : Scans length task noted)
    (h : task.nextPdu buf = .ok ((pdu, buf'), task')) :
    Scans length task' noted ∧ Sends task' (PduSocket.store pdu buf').outstanding := by
  obtain ⟨hlength, hstate⟩ := hscans
  unfold nextPdu at h
  split at h
  case h_1 hidle =>
    rw [hidle] at hstate
    exact hstate.elim
  case h_2 herror =>
    cases h
    refine ⟨⟨hlength, hstate⟩, ?_⟩
    rw [Sends, herror]
    rfl
  case h_6 hcomplete =>
    cases h
    refine ⟨⟨hlength, hstate⟩, ?_⟩
    rw [Sends, hcomplete]
    rfl
  case h_3 hcount =>
    obtain ⟨pdu', -, heq⟩ := bind_eq_ok.mp h
    cases heq
    refine ⟨⟨hlength, ?_⟩, ?_⟩
    · rw [hcount] at hstate ⊢
      exact hstate
    · rw [Sends, hcount]
      trivial
  case h_4 count hstart =>
    rw [hstart] at hstate
    obtain ⟨initilizer, hnext, rfl⟩ := nextInitilizer_eq_ok h
    have hinit : Initializing (task.initilizer.start count) [] count := ⟨rfl, rfl, by rintro ⟨⟩⟩
    refine ⟨⟨hlength, ?_⟩, ?_⟩
    · dsimp only
      rw [hstart]
      exact ⟨hstate.scanned, hstate.counted, hstate.pushCount, hstate.lt⟩
    · rw [Sends]
      dsimp only
      rw [hstart]
      exact ⟨(nextPdu_start hnext).1, hinit.next hnext⟩
  case h_5 count hwait =>
    rw [hwait] at hstate
    obtain ⟨initilizer, hnext, rfl⟩ := nextInitilizer_eq_ok h
    obtain ⟨hscanning, hinit⟩ := hstate
    refine ⟨⟨hlength, ?_⟩, ?_⟩
    · dsimp only
      rw [hwait]
      exact ⟨⟨hscanning.scanned, hscanning.counted, hscanning.pushCount, hscanning.lt⟩,
        hinit.next hnext⟩
    · rw [Sends]
      dsimp only
      rw [hwait]
      intro hstation
      rw [(SlaveInitTask.nextPdu_sendsOn hnext).state] at hstation
      obtain ⟨hnoted, size, rfl, hwrites⟩ :=
        SlaveInitTask.nextPdu_writesAddress hinit.slaveAddress hstation hnext
      exact ⟨hnoted, _, rfl, hwrites, rfl⟩

/-! ## A response -/

lemma IsAddressed.append {noted : List InitResponse} {position : UInt16}
    (h : IsAddressed noted position) (response : InitResponse) :
    IsAddressed (noted ++ [response]) position := by
  obtain ⟨old, hmem, haddresses⟩ := h
  exact ⟨old, List.mem_append_left _ hmem, haddresses⟩

lemma Counted.append {numSlaves : UInt16} {noted : List InitResponse}
    (h : Counted numSlaves noted) (response : InitResponse) :
    Counted numSlaves (noted ++ [response]) := by
  obtain ⟨counted, rest, rfl, hwkc⟩ := h
  exact ⟨counted, rest ++ [response], rfl, hwkc⟩

/-- The inner task gets behind `SetStationAddress` by the response to the write. -/
lemma Initializing.process {initilizer initilizer' : SlaveInitTask} {noted : List InitResponse}
    {position : UInt16} {response : InitResponse} {sysTime : ℕ}
    (hinit : Initializing initilizer noted position)
    (hsent : initilizer.state = .setStationAddress →
      initilizer.noted = some (position + 1) ∧ ∃ pdu, response.sent = some pdu ∧
        SlaveInitTask.WritesAddress position pdu.command pdu.data ∧
        pdu.command = initilizer.command)
    (h : initilizer.recieveAndProcess response.recv sysTime = .ok initilizer') :
    Initializing initilizer' (noted ++ [response]) position := by
  obtain ⟨hkeeps, haccepted⟩ := SlaveInitTask.recieveAndProcess_keepsOn h
  refine ⟨hkeeps.slaveAddress.trans hinit.slaveAddress, ?_, fun haddressed => ?_⟩
  · have hnoted := congrArg Option.isSome hkeeps.noted
    rw [SlaveInitTask.noted, SlaveInitTask.noted, Option.isSome_map, Option.isSome_map] at hnoted
    rw [hnoted]
    exact hinit.isSome
  · rw [hkeeps.noted]
    rcases hkeeps.isAddressed haddressed with hbefore | hstation
    · obtain ⟨hnoted, hold⟩ := hinit.isAddressed hbefore
      exact ⟨hnoted, hold.append response⟩
    · obtain ⟨hnoted, pdu, hpdu, hwrites, hcommand⟩ := hsent hstation
      obtain ⟨hechoes, hwkc⟩ := haccepted haddressed
      rw [← hcommand] at hechoes
      exact ⟨hnoted, response, by simp, pdu, hpdu, hwrites, hechoes, hwkc⟩

lemma Scanned.append {net : Network} {noted : List InitResponse} {response : InitResponse}
    (h : Scanned net noted) (hnot : response.initializes = false) :
    Scanned net (noted ++ [response]) where
  filled := h.filled
  initialized := by
    rw [initialized_append_singleton, hnot]
    exact h.initialized
  address := h.address
  isAddressed i hi := (h.isAddressed i hi).append response

lemma initialized_le_length {net : Network} {noted : List InitResponse} (h : Scanned net noted) :
    initialized noted ≤ net.slaves.length := by
  rw [h.initialized]
  exact h.filled.pushCount_le_length

/-- A slave that has been initialised is pushed. -/
lemma Scanned.pushed {net : Network} {noted : List InitResponse} {response : InitResponse}
    (h : Scanned net noted) (slave : Slave) (hinitializes : response.initializes = true)
    (hlt : net.pushCount < net.slaves.length) (hsmall : net.pushCount + 1 < 2 ^ 16)
    (haddress : slave.info.configuredAddress = .ofNat (net.pushCount + 1))
    (haddressed : IsAddressed (noted ++ [response]) (.ofNat net.pushCount)) :
    Scanned ⟨net.slaves.modify net.pushCount fun buf => (some slave, buf.2), net.pushCount + 1⟩
      (noted ++ [response]) where
  filled := h.filled.pushed slave hlt hsmall
  initialized := by
    rw [initialized_append_singleton, hinitializes, h.initialized]
    rfl
  address i slave' hslave := by
    rw [Network.slaveAt_eq_map_slotAt, Network.slotAt_pushed slave hlt] at hslave
    split at hslave
    · next heq =>
        cases hslave
        rw [← heq]
        exact haddress
    · rw [← Network.slaveAt_eq_map_slotAt] at hslave
      exact h.address i slave' hslave
  isAddressed i hi := by
    dsimp only at hi
    rcases Nat.lt_succ_iff_lt_or_eq.mp hi with hold | rfl
    · exact (h.isAddressed i hold).append response
    · exact haddressed

lemma initializedSlave_info (info : SlaveInfo) : (initializedSlave info).info = info := by
  unfold initializedSlave
  dsimp only
  split
  · split <;> rfl
  · rfl

/-- **A slave is initialised.** -/
lemma scans_pushInitialized {length : ℕ} {task task' : NetworkInitTask}
    {noted : List InitResponse} {response : InitResponse} {count : UInt16} {info : SlaveInfo}
    (hlength : task.network.slaves.length = length) (hscanning : Scanning task noted count)
    (hinitializes : response.initializes = true) (haddress : info.configuredAddress = count + 1)
    (haddressed : IsAddressed (noted ++ [response]) count)
    (h : task.pushInitialized count info = .ok task') :
    Scans length task' (noted ++ [response]) := by
  obtain ⟨hscanned, hcounted, hpushCount, hlt⟩ := hscanning
  obtain ⟨⟨pushed, network⟩, hpush, h⟩ := bind_eq_ok.mp h
  have hone : UInt16.ofNat (task.network.pushCount + 1) = count + 1 := by
    rw [hpushCount]
    apply UInt16.toNat_inj.mp
    rw [UInt16.toNat_ofNat', UInt16.toNat_add]
    rfl
  rcases Network.pushSlave_eq_ok hpush with ⟨hfull, rfl, rfl⟩ | ⟨hfits, rfl, hsmall, rfl⟩
  · cases h
    have hle := hscanned.filled.pushCount_le_length
    refine ⟨hlength, .inr ⟨?_, rfl⟩⟩
    rw [initialized_append_singleton, hinitializes, hscanned.initialized, ← hlength]
    exact congrArg (· + 1) (Nat.le_antisymm hle hfull)
  · obtain ⟨next, hadd, heq⟩ := bind_eq_ok.mp h
    obtain ⟨-, rfl⟩ := addUpTo_eq_ok_iff.mp hadd
    cases heq
    have hscanned' := hscanned.pushed (initializedSlave info) hinitializes hfits hsmall
      (by rw [initializedSlave_info, haddress, hone])
      (by rwa [hpushCount, UInt16.ofNat_toNat])
    refine ⟨by rw [List.length_modify]; exact hlength, ?_⟩
    dsimp only
    split_ifs with hmore
    · have hnext : (UInt16.ofNat (count.toNat + 1)).toNat = count.toNat + 1 := by
        rw [UInt16.toNat_ofNat']
        omega
      exact ⟨hscanned', hcounted.append response, by rw [hnext, hpushCount],
        UInt16.lt_iff_toNat_lt.mpr (by rwa [hnext])⟩
    · refine ⟨hscanned', hcounted.append response, ?_⟩
      have hlast := UInt16.lt_iff_toNat_lt.mp hlt
      omega

/-- The response of a slave that is being initialised. -/
lemma scans_processWaitInitSlaves {length : ℕ} {task task' : NetworkInitTask}
    {noted : List InitResponse} {response : InitResponse} {count : UInt16} {sysTime : ℕ}
    (hwait : task.state = .waitInitSlaves count) (hechoes : response.recv.Echoes task.command)
    (hlength : task.network.slaves.length = length) (hscanning : Scanning task noted count)
    (hinit : Initializing task.initilizer noted count) (hsends : Sends task response.sent)
    (hinitializes : response.initializes = task.initializes response.recv sysTime)
    (h : task.processWaitInitSlaves count response.recv sysTime = .ok task') :
    Scans length task' (noted ++ [response]) := by
  obtain ⟨initilizer, hrecieve, h⟩ := bind_eq_ok.mp h
  rw [Sends, hwait] at hsends
  have hinit' := hinit.process hsends hrecieve
  rw [initializes, hwait] at hinitializes
  dsimp only at hinitializes
  rw [hrecieve, decide_eq_true hechoes, Bool.true_and] at hinitializes
  dsimp only at hinitializes
  by_cases hcomplete : initilizer.state = .complete
  · obtain ⟨info, hinfo⟩ := Option.isSome_iff_exists.mp hinit'.isSome
    obtain ⟨hnoted, haddressed⟩ := hinit'.isAddressed (by rw [hcomplete]; rfl)
    rw [SlaveInitTask.noted, hinfo] at hnoted
    rw [hcomplete] at hinitializes
    have hresult : initilizer.waitResult =
        (some (.ok (some info)), { initilizer with slaveInfo := none }) := by
      rw [SlaveInitTask.waitResult, hcomplete, hinfo]
    rw [hresult] at h
    have hscanning' : Scanning { task with initilizer := { initilizer with slaveInfo := none } }
        noted count :=
      ⟨hscanning.scanned, hscanning.counted, hscanning.pushCount, hscanning.lt⟩
    exact scans_pushInitialized (by exact hlength) hscanning' hinitializes
      (Option.some.inj hnoted) haddressed h
  · rw [beq_eq_false_iff_ne.mpr hcomplete] at hinitializes
    have hscanned := hscanning.scanned.append hinitializes
    by_cases herror : ∃ e, initilizer.state = .error e
    · obtain ⟨e, herror⟩ := herror
      rw [SlaveInitTask.waitResult, herror] at h
      cases h
      exact ⟨hlength, .inl (hlength ▸ initialized_le_length hscanned)⟩
    · have hnone : initilizer.waitResult = (none, initilizer) := by
        unfold SlaveInitTask.waitResult
        split
        · next hstate => exact absurd hstate hcomplete
        · next e hstate => exact absurd ⟨e, hstate⟩ herror
        · rfl
      rw [hnone] at h
      cases h
      refine ⟨hlength, ?_⟩
      dsimp only
      rw [hwait]
      exact ⟨⟨hscanned, hscanning.counted.append response, hscanning.pushCount, hscanning.lt⟩,
        hinit'⟩

/-- No slave is initialised before the inner task waits for it. -/
lemma initializes_eq_false {task : NetworkInitTask}
    (h : ∀ count, task.state ≠ .waitInitSlaves count) (recv : Pdu) (sysTime : ℕ) :
    task.initializes recv sysTime = false := by
  unfold initializes
  split
  · next count hwait => exact absurd hwait (h count)
  · rfl

/-- A response to another command ends the task, with what has been initialised. -/
lemma initialized_le_of_not_echoes {length : ℕ} {task : NetworkInitTask}
    {noted : List InitResponse} {response : InitResponse} {sysTime : ℕ}
    (hbusy : task.isBusy = true) (hscans : Scans length task noted)
    (hechoes : ¬ response.recv.Echoes task.command)
    (hinitializes : response.initializes = task.initializes response.recv sysTime) :
    initialized (noted ++ [response]) ≤ length := by
  obtain ⟨hlength, hstate⟩ := hscans
  have hnot : response.initializes = false := by
    rw [hinitializes, initializes]
    split
    · rw [decide_eq_false hechoes, Bool.false_and]
    · rfl
  rw [initialized_append_singleton, hnot]
  change initialized noted ≤ length
  split at hstate
  case h_1 | h_2 | h_6 =>
    rename_i hidle
    rw [isBusy, hidle] at hbusy
    cases hbusy
  case h_3 =>
    subst hstate
    exact Nat.zero_le _
  case h_4 => exact hlength ▸ initialized_le_length hstate.scanned
  case h_5 => exact hlength ▸ initialized_le_length hstate.1.scanned

/-- **A response.** -/
lemma scans_process {length : ℕ} {task task' : NetworkInitTask} {noted : List InitResponse}
    {response : InitResponse} {sysTime : ℕ} (hbusy : task.isBusy = true)
    (hscans : Scans length task noted) (hsends : Sends task response.sent)
    (hinitializes : response.initializes = task.initializes response.recv sysTime)
    (h : task.recieveAndProcess response.recv sysTime = .ok task') :
    Scans length task' (noted ++ [response]) := by
  by_cases hechoes : response.recv.Echoes task.command
  · rw [recieveAndProcess, checked, if_pos hechoes] at h
    obtain ⟨hlength, hstate⟩ := hscans
    unfold processState at h
    split at h
    case h_1 hidle | h_2 hidle | h_6 hidle =>
      rw [isBusy, hidle] at hbusy
      cases hbusy
    case h_3 hcount =>
      cases h
      rw [hcount] at hstate
      subst hstate
      rw [initializes_eq_false (by rw [hcount]; rintro _ ⟨⟩)] at hinitializes
      have hscanned : Scanned task.network.clear ([] ++ [response]) := by
        refine Scanned.append ⟨Network.filled_clear _, rfl, fun i slave hslave => ?_, ?_⟩
          hinitializes
        · have hsome := ((Network.filled_clear task.network).isSome_iff i).mp (by rw [hslave]; rfl)
          exact absurd hsome (Nat.not_lt_zero _)
        · exact fun i hi => absurd hi (Nat.not_lt_zero _)
      have hcounted : Counted response.recv.wkc [response] := ⟨response, [], rfl, rfl⟩
      refine ⟨by rw [Network.clear, List.length_map]; exact hlength, ?_⟩
      dsimp only
      split_ifs with hzero
      · exact ⟨hscanned, hcounted, by rw [hzero]; rfl⟩
      · refine ⟨hscanned, hcounted, rfl, UInt16.pos_iff_ne_zero.mpr hzero⟩
    case h_4 count hstart =>
      rw [hstart] at hstate
      rw [Sends, hstart] at hsends
      rw [initializes_eq_false (by rw [hstart]; rintro _ ⟨⟩)] at hinitializes
      obtain ⟨initilizer, hrecieve, heq⟩ := bind_eq_ok.mp h
      cases heq
      obtain ⟨hloop, hinit⟩ := hsends
      have hinit' := hinit.process (by rw [hloop]; rintro ⟨⟩) hrecieve
      refine ⟨hlength, ⟨hstate.scanned.append hinitializes, hstate.counted.append response,
        hstate.pushCount, hstate.lt⟩, hinit'.slaveAddress, hinit'.isSome, fun haddressed => ?_⟩
      -- The first response leads to the state behind `SetLoopPort`.
      rcases (SlaveInitTask.recieveAndProcess_keepsOn hrecieve).1.isAddressed haddressed with
        hbefore | hstation
      · rw [hloop] at hbefore
        cases hbefore
      · rw [hloop] at hstation
        cases hstation
    case h_5 count hwait =>
      rw [hwait] at hstate
      exact scans_processWaitInitSlaves hwait hechoes hlength hstate.1 hstate.2 hsends
        hinitializes h
  · have hle := initialized_le_of_not_echoes hbusy hscans hechoes hinitializes
    rw [recieveAndProcess, checked, if_neg hechoes] at h
    cases h
    exact ⟨hscans.1, .inl hle⟩

/-! ## A run -/

/-- What holds before every step. -/
def Invariant (length : ℕ) (d : Driven NetworkInitTask) (noted : List InitResponse) : Prop :=
  Scans length d.task noted ∧ Sends d.task d.socket.outstanding

/-- A task that is not busy has no PDU out. -/
lemma isBusy_of_seen {length : ℕ} {d : Driven NetworkInitTask} {reply : Reply}
    {noted : List InitResponse} {recv : Pdu} (hinv : Invariant length d noted)
    (hseen : d.seen reply = some recv) : d.task.isBusy = true := by
  obtain ⟨⟨-, hstate⟩, hsends⟩ := hinv
  obtain ⟨command, hcommand⟩ := Driven.outstanding_of_seen hseen
  rw [PduSocket.outstanding, hcommand, Option.map_some] at hsends
  unfold Sends at hsends
  unfold isBusy
  split
  case h_1 hidle =>
    rw [hidle] at hstate
    exact hstate.elim
  case h_2 hcomplete =>
    rw [hcomplete] at hsends
    cases hsends
  case h_3 herror =>
    rw [herror] at hsends
    cases hsends
  case h_4 => rfl

/-- **A step.** -/
lemma invariant_step {length : ℕ} {d d' : Driven NetworkInitTask} {reply : Reply}
    {noted : List InitResponse} (hinv : Invariant length d noted) (h : d.step reply = .ok d') :
    Invariant length d' (noted ++ responses d reply) := by
  rcases hseen : d.seen reply with _ | recv
  · obtain ⟨buf, pdu, buf', -, hnext, hsocket⟩ := Driven.step_eq_ok_of_unseen hseen h
    rw [responses, hseen, Option.toList_none, List.map_nil, ite_self, List.append_nil, Invariant,
      hsocket]
    exact scans_next hinv.1 hnext
  · obtain ⟨buf, task, pdu, buf', -, hrecieve, hnext, hsocket⟩ :=
      Driven.step_eq_ok_of_seen hseen h
    have hbusy := isBusy_of_seen hinv hseen
    rw [responses, if_pos hbusy, hseen, Option.toList_some, List.map_singleton, Invariant, hsocket]
    exact scans_next (scans_process hbusy hinv.1 hinv.2 rfl hrecieve) hnext

lemma invariant_run {d d' : Driven NetworkInitTask} {replies : List Reply}
    (hstarted : Started d.task) (h : Transition.run Driven.step d replies = .ok d') :
    Invariant d.task.network.slaves.length d' (Transition.log Driven.step responses d replies) := by
  obtain ⟨task₀, hstart⟩ := hstarted
  have hstate : d.task.state = .countSlaves := by rw [hstart]; rfl
  have hinv : Invariant d.task.network.slaves.length d [] := by
    refine ⟨⟨rfl, ?_⟩, ?_⟩
    · rw [hstate]
    · rw [Sends, hstate]
      trivial
  exact Transition.run_log_invariant (Invariant d.task.network.slaves.length)
    (fun d reply d' noted hinv hstep => invariant_step hinv hstep) hinv h

/-! ## What a complete scan leaves -/

end NetworkInitTask

/-- The network holds `n` slaves, in the order of their positions. -/
structure Network.HoldsSlaves (net : Network) (n : ℕ) : Prop where
  numSlaves : net.numSlaves = n
  slave : ∀ i < n, ∃ slave config,
    net.slave (.slavePosition (.ofNat i)) = .ok (some (slave, config)) ∧
      net.slave (.stationAddress (.ofNat (i + 1))) = .ok (some (slave, config)) ∧
      net.slavesInOrder[i]? = some (slave, config) ∧
      slave.info.slaveAddress = .stationAddress (.ofNat (i + 1))
  length : net.slavesInOrder.length = n
  others : ∀ addr : SlaveAddress, (∀ i < n, addr ≠ .slavePosition (.ofNat i)) →
    (∀ i < n, addr ≠ .stationAddress (.ofNat (i + 1))) → net.slave addr = .ok none

namespace NetworkInitTask

lemma Scanned.holdsSlaves {net : Network} {noted : List InitResponse} (h : Scanned net noted) :
    net.HoldsSlaves net.pushCount where
  numSlaves := rfl
  slave i hi := by
    have hsmall := h.filled.small
    obtain ⟨⟨slave, config⟩, hslot⟩ :=
      Option.isSome_iff_exists.mp ((h.filled.slotAt_isSome_iff i).mpr hi)
    have hi' : (UInt16.ofNat i).toNat = i := by
      rw [UInt16.toNat_ofNat']
      omega
    have hi'' : (UInt16.ofNat (i + 1)).toNat = i + 1 := by
      rw [UInt16.toNat_ofNat']
      omega
    have hne : UInt16.ofNat (i + 1) ≠ 0 := by
      rw [← UInt16.toNat_inj.ne, hi'']
      exact Nat.succ_ne_zero i
    refine ⟨slave, config, ?_, ?_, ?_, ?_⟩
    · rw [h.filled.slave_eq, Network.position, Option.bind_some, hi', hslot]
    · rw [h.filled.slave_eq, Network.position, if_neg hne, Option.bind_some, hi'',
        Nat.add_sub_cancel, hslot]
    · rw [h.filled.getElem?_slavesInOrder, hslot]
    · have hslave : net.slaveAt i = some slave := by
        rw [Network.slaveAt_eq_map_slotAt, hslot]
        rfl
      rw [SlaveInfo.slaveAddress, h.address i slave hslave]
  length := h.filled.length_slavesInOrder
  others addr hposition hstation := by
    rw [h.filled.slave_eq]
    cases addr with
    | slavePosition n =>
        rw [Network.position, Option.bind_some, h.filled.slotAt_of_le]
        by_contra hlt
        exact hposition n.toNat (Nat.lt_of_not_le hlt) (by rw [UInt16.ofNat_toNat])
    | stationAddress n =>
        rw [Network.position]
        split_ifs with hzero
        · rfl
        · have hpos : 0 < n.toNat := UInt16.pos_iff_ne_zero.mpr hzero
          rw [Option.bind_some, h.filled.slotAt_of_le]
          by_contra hlt
          exact hstation (n.toNat - 1) (Nat.lt_of_not_le hlt) (by
            rw [Nat.sub_add_cancel hpos, UInt16.ofNat_toNat])

/-- What the responses so far have made of a network with room for `length` slaves.  The first of
them is the response to the count. -/
structure ScanResult (length : ℕ) (task : NetworkInitTask) (noted : List InitResponse) :
    Prop where
  holdsSlaves : task.state = .complete → ∃ counted rest, noted = counted :: rest ∧
    task.network.HoldsSlaves counted.recv.wkc.toNat ∧
    ∀ i < counted.recv.wkc.toNat, IsAddressed noted (.ofNat i)
  not_complete : ∀ counted rest, noted = counted :: rest → length < counted.recv.wkc.toNat →
    task.state ≠ .complete
  tooManySlaves : length < initialized noted →
    task.state = .error (.taskSpecific .tooManySlaves)
  some_of_complete : ∀ count recv sysTime initilizer, task.state = .waitInitSlaves count →
    task.initilizer.recieveAndProcess recv sysTime = .ok initilizer →
    initilizer.waitResult.1 ≠ some (.ok none)

lemma ne_ok_none {initilizer initilizer' : SlaveInitTask} {recv : Pdu} {sysTime : ℕ}
    (hsome : initilizer.slaveInfo.isSome = true)
    (h : initilizer.recieveAndProcess recv sysTime = .ok initilizer') :
    initilizer'.waitResult.1 ≠ some (.ok none) := by
  have hnoted := congrArg Option.isSome (SlaveInitTask.recieveAndProcess_keepsOn h).1.noted
  rw [SlaveInitTask.noted, SlaveInitTask.noted, Option.isSome_map, Option.isSome_map, hsome]
    at hnoted
  obtain ⟨info, hinfo⟩ := Option.isSome_iff_exists.mp hnoted
  unfold SlaveInitTask.waitResult
  split
  · rw [hinfo]
    rintro ⟨⟩
  · rintro ⟨⟩
  · rintro ⟨⟩

/-- **A scan.**  Whatever the network held before, and whatever the socket. -/
theorem scanResult_of_run (d d' : Driven NetworkInitTask) (replies : List Reply)
    (hstarted : Started d.task) (hrun : Transition.run Driven.step d replies = .ok d') :
    ScanResult d.task.network.slaves.length d'.task
      (Transition.log Driven.step responses d replies) := by
  obtain ⟨⟨hlength, hstate⟩, -⟩ := invariant_run hstarted hrun
  generalize Transition.log Driven.step responses d replies = noted at hstate ⊢
  have hcomplete : d'.task.state = .complete →
      Scanned d'.task.network noted ∧ Counted d'.task.numSlaves noted ∧
        d'.task.network.pushCount = d'.task.numSlaves.toNat := by
    intro hcomplete
    rw [hcomplete] at hstate
    exact hstate
  refine ⟨fun hdone => ?_, ?_, fun hmany => ?_, ?_⟩
  · obtain ⟨hscanned, ⟨counted, rest, hnoted, hwkc⟩, hpushCount⟩ := hcomplete hdone
    rw [← hwkc] at hpushCount
    exact ⟨counted, rest, hnoted, hpushCount ▸ hscanned.holdsSlaves,
      hpushCount ▸ hscanned.isAddressed⟩
  · intro counted rest hnoted hlt hdone
    obtain ⟨hscanned, ⟨counted', rest', hnoted', hwkc⟩, hpushCount⟩ := hcomplete hdone
    cases hnoted.symm.trans hnoted'
    have hle := hscanned.filled.pushCount_le_length
    rw [hpushCount, ← hwkc, hlength] at hle
    exact absurd hlt (Nat.not_lt_of_le hle)
  · have hnot : ¬ initialized noted ≤ d.task.network.slaves.length := Nat.not_le_of_lt hmany
    split at hstate
    case h_1 => exact hstate.elim
    case h_2 herror => rw [herror, (hstate.resolve_left hnot).2]
    case h_3 =>
      subst hstate
      exact absurd (Nat.zero_le _) hnot
    case h_4 => exact absurd (hlength ▸ initialized_le_length hstate.scanned) hnot
    case h_5 => exact absurd (hlength ▸ initialized_le_length hstate.1.scanned) hnot
    case h_6 => exact absurd (hlength ▸ initialized_le_length hstate.1) hnot
  · intro count recv sysTime initilizer hwait hrecieve
    rw [hwait] at hstate
    exact ne_ok_none hstate.2.isSome hrecieve

/-! ## One slave -/

/-- A new scan of a network whose only slot was filled before. -/
def filledBefore : Driven NetworkInitTask where
  task := (NetworkInitTask.new ⟨[(some Slave.default, SlaveConfig.default)], 1⟩).start
  socket := .store none (List.replicate 24 0)

lemma run_filledBefore : ∃ d, Transition.run Driven.step filledBefore
      (List.replicate 85 (eepromReply [0x80, 0x10, 0, 0, 0, 0, 0, 0])) = .ok d ∧
    d.task.state = .complete := by
  have hstate : (Transition.run Driven.step filledBefore
      (List.replicate 85 (eepromReply [0x80, 0x10, 0, 0, 0, 0, 0, 0]))).toOption.map
        (fun d => d.task.state) = some .complete := by
    decide +kernel
  rcases hrun : Transition.run Driven.step filledBefore
      (List.replicate 85 (eepromReply [0x80, 0x10, 0, 0, 0, 0, 0, 0])) with e | d
  · rw [hrun] at hstate
    cases hstate
  · rw [hrun] at hstate
    exact ⟨d, rfl, Option.some.inj hstate⟩

theorem scanResult_of_run_filledBefore :
    ∃ d, Transition.run Driven.step filledBefore
        (List.replicate 85 (eepromReply [0x80, 0x10, 0, 0, 0, 0, 0, 0])) = .ok d ∧
      d.task.state = .complete ∧
      ScanResult 1 d.task (Transition.log Driven.step responses filledBefore
        (List.replicate 85 (eepromReply [0x80, 0x10, 0, 0, 0, 0, 0, 0]))) := by
  obtain ⟨d, hrun, hcomplete⟩ := run_filledBefore
  exact ⟨d, hrun, hcomplete, scanResult_of_run filledBefore d _ ⟨_, rfl⟩ hrun⟩

end NetworkInitTask

end EtherCat
