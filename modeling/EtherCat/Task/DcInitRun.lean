import EtherCat.Task.DcComputed
import EtherCat.Task.Topology

/-!
# A complete setup of the clocks

Behind the eighth round every clock has received its offset and its delay, as the rounds have
computed them, once each, and no other slave has received one; the drift was compensated for long
enough, and at the end no difference was too large.
-/

namespace EtherCat

open Rust Rust.Exec BitField CyclicTask Driven

/-- The slave at a position is a target of a command that writes.  The multiple writes have one
slave that reads and write to all others. -/
def Command.writesTo (command : Command) (position : UInt16) : Bool :=
  match command.cType with
  | .bwr | .brw => true
  | .apwr | .aprw => command.adp + position == 0
  | .fpwr | .fprw => command.adp == position + 1
  | .armw => command.adp + position != 0
  | .frmw => command.adp != position + 1
  | _ => false

/-- The slave at a position takes the command as a write of its register. -/
def Command.Writes (command : Command) (position : ℕ) (register : UInt16) : Prop :=
  command.ado = register ∧ command.writesTo (.ofNat position) = true

instance (command : Command) (position : ℕ) (register : UInt16) :
    Decidable (command.Writes position register) :=
  inferInstanceAs (Decidable (_ ∧ _))

/-- An auto-increment address gets to zero at its slave. -/
lemma getApAdp_add_eq_zero_iff (slaveNumber n : UInt16) :
    getApAdp slaveNumber + n = 0 ↔ slaveNumber = n := by
  rw [getApAdp_eq_neg]
  constructor
  · intro h
    grind
  · intro h
    grind

namespace DcInitTask

/-- The writes of a register that the slave at a position has received. -/
def received (position : ℕ) (register : UInt16) (log : List Exchange) : List Exchange :=
  log.filter fun exchange => exchange.sent.command.Writes position register

/-- **What a complete setup has done** after the eighth round.  The offsets and delays that were
written are those of the network's clock data, which the eight rounds have computed from what
`start` has left. -/
structure SetUp (start : OnNetwork) (network : Network) (measured after : List Exchange) :
    Prop where
  commands_measured : commands measured = measurement network.numSlaves countMax
  computed : measured.foldlM (measure start.task.firstDcSlave) start.network = .ok network
  offset : ∀ position, hasDc network position = true →
    ∃ exchange, received position DcSystemTimeOffset.address after = [exchange] ∧
      exchange.recv.wkc = 1 ∧ CarriesOffset network position exchange.sent.data
  delay : ∀ position, hasDc network position = true →
    ∃ exchange, received position DcSystemTimeTransmissionDelay.address after = [exchange] ∧
      exchange.recv.wkc = 1 ∧ CarriesDelay network position exchange.sent.data
  others : ∀ position < network.numSlaves, hasDc network position = false →
    received position DcSystemTimeOffset.address after = [] ∧
      received position DcSystemTimeTransmissionDelay.address after = []
  drift : driftCountMin ≤ (after.filter fun exchange =>
    exchange.AcknowledgesDrift (dcPositions network).length).length
  delta : ∃ before last, after = before ++ [last] ∧
    last.sent.command = ⟨.brd, 0, DcSystemTimeDelta.address⟩ ∧
    ∀ position ∈ dcPositions network, differenceOf (last.registers position) ≤ targetDeltaNs

/-! ## What every slave has received -/

/-- A write to the slave at a position is received by that slave alone. -/
lemma writes_newWrite_iff {q position : ℕ} (hq : q < 2 ^ 16) (hposition : position < 2 ^ 16)
    (register : UInt16) :
    (Command.newWrite (.single (.slavePosition (.ofNat q))) register).Writes position register ↔
      q = position := by
  have hofNat : (UInt16.ofNat q = UInt16.ofNat position) ↔ q = position := by
    rw [← UInt16.toNat_inj, UInt16.toNat_ofNat', UInt16.toNat_ofNat', Nat.mod_eq_of_lt hq,
      Nat.mod_eq_of_lt hposition]
  rw [← hofNat, ← getApAdp_add_eq_zero_iff]
  simp [Command.Writes, Command.writesTo, Command.newWrite]

/-- Of writes to different slaves one is for each. -/
lemma received_of_forall₂ {R : ℕ → Exchange → Prop} {register : UInt16} {positions : List ℕ}
    {log : List Exchange} {position : ℕ} (h : List.Forall₂ R positions log)
    (hsorted : positions.Pairwise (· < ·))
    (hR : ∀ q ∈ positions, ∀ exchange, R q exchange →
      (exchange.sent.command.Writes position register ↔ q = position)) :
    (position ∈ positions → ∃ exchange, received position register log = [exchange] ∧
      R position exchange) ∧
    (position ∉ positions → received position register log = []) := by
  induction h with
  | nil => exact ⟨fun hmem => (List.not_mem_nil hmem).elim, fun _ => rfl⟩
  | @cons q exchange positions log hq hrest ih =>
      rw [List.pairwise_cons] at hsorted
      obtain ⟨ihmem, ihnot⟩ := ih hsorted.2 fun q hq => hR q (List.mem_cons_of_mem _ hq)
      have hwrites := hR q List.mem_cons_self exchange hq
      by_cases heq : q = position
      · subst heq
        have hnot : q ∉ positions := fun hmem => (hsorted.1 q hmem).false
        refine ⟨fun _ => ⟨exchange, ?_, hq⟩, fun habsent => absurd List.mem_cons_self habsent⟩
        rw [received, List.filter_cons_of_pos (by exact decide_eq_true (hwrites.mpr rfl))]
        exact congrArg _ (ihnot hnot)
      · have hskip : received position register (exchange :: log) =
            received position register log := by
          rw [received, List.filter_cons_of_neg]
          · rfl
          · rw [decide_eq_true_iff, hwrites]
            exact heq
        rw [hskip, List.mem_cons, or_iff_right (Ne.symm heq)]
        exact ⟨ihmem, ihnot⟩

/-- Commands for other registers are no writes of the register. -/
lemma received_of_ado {register : UInt16} {log : List Exchange} (position : ℕ)
    (h : ∀ exchange ∈ log, exchange.sent.command.ado ≠ register) :
    received position register log = [] := by
  rw [received, List.filter_eq_nil_iff]
  intro exchange hexchange hwrites
  exact h exchange hexchange (of_decide_eq_true hwrites).1

lemma mem_dcPositions_iff {network : Network} {position : ℕ} :
    position ∈ dcPositions network ↔
      position < network.numSlaves ∧ hasDc network position = true := by
  rw [dcPositions, List.mem_filter, List.mem_range]

/-- What is written to one clock after another, between commands for other registers. -/
lemma received_of_written {network : Network} (hfilled : network.Filled)
    {R : ℕ → Exchange → Prop} {register : UInt16} {log : List Exchange}
    (h : List.Forall₂ R (dcPositions network) log)
    (hR : ∀ q exchange, R q exchange →
      exchange.sent.command = .newWrite (.single (.slavePosition (.ofNat q))) register)
    (before behind : List Exchange)
    (hbefore : ∀ exchange ∈ before, exchange.sent.command.ado ≠ register)
    (hbehind : ∀ exchange ∈ behind, exchange.sent.command.ado ≠ register) {position : ℕ}
    (hlt : position < network.numSlaves) :
    (hasDc network position = true → ∃ exchange,
      received position register (before ++ (log ++ behind)) = [exchange] ∧ R position exchange) ∧
    (hasDc network position = false →
      received position register (before ++ (log ++ behind)) = []) := by
  have heq : received position register (before ++ (log ++ behind)) =
      received position register log := by
    have hbefore' := received_of_ado position hbefore
    have hbehind' := received_of_ado position hbehind
    rw [received] at hbefore' hbehind' ⊢
    rw [List.filter_append, List.filter_append, hbefore', hbehind', List.append_nil,
      List.nil_append]
    rfl
  have hposition := hlt.trans hfilled.small
  obtain ⟨hmem, hnot⟩ := received_of_forall₂ h (pairwise_dcPositions network)
    fun q hq exchange hexchange => by
      rw [hR q exchange hexchange]
      exact writes_newWrite_iff (lt_of_mem_dcPositions hfilled hq) hposition register
  rw [heq]
  refine ⟨fun hdc => hmem (mem_dcPositions_iff.mpr ⟨hlt, hdc⟩), fun hdc => hnot fun hin => ?_⟩
  rw [mem_dcPositions_iff, hdc] at hin
  cases hin.2

lemma ado_of_written {R : ℕ → Exchange → Prop} {register : UInt16} {positions : List ℕ}
    {log : List Exchange} (h : List.Forall₂ R positions log)
    (hR : ∀ q exchange, R q exchange →
      exchange.sent.command = .newWrite (.single (.slavePosition (.ofNat q))) register) :
    ∀ exchange ∈ log, exchange.sent.command.ado = register := by
  induction h with
  | nil => simp
  | cons hq _ ih =>
      rw [List.forall_mem_cons]
      refine ⟨?_, ih⟩
      rw [hR _ _ hq]
      rfl

/-- The registers differ. -/
lemma address_ne :
    DcSystemTimeOffset.address ≠ DcSystemTimeTransmissionDelay.address ∧
      ∀ register ∈ [DcSystemTimeOffset.address, DcSystemTimeTransmissionDelay.address,
        DcRecieveTime.address],
        DcSystemTime.address ≠ register ∧ DcSystemTimeDelta.address ≠ register := by
  rw [List.forall_mem_cons, List.forall_mem_cons, List.forall_mem_singleton]
  decide

/-- A complete task has set the clocks up. -/
lemma setUp_of_phase {start dc : OnNetwork} {log : List Exchange} (hfilled : dc.network.Filled)
    (hphase : Phase dc log) (hcomputed : Computed start dc log)
    (hcomplete : dc.task.state = .complete) :
    ∃ measured after, log = measured ++ after ∧ SetUp start dc.network measured after := by
  have hfailed : ¬ ∃ e, dc.task.state = .error e := by simp [hcomplete]
  have hmeasure := hcomputed.foldlM_measure.resolve_left hfailed
  rw [Phase, hcomplete] at hphase
  obtain ⟨before, last, hlog, ⟨written, drift, hdrifted⟩, hlast, hsmall⟩ := hphase
  obtain ⟨measured, offsetWrites, delayWrites, hwritten⟩ := hdrifted.written
  have hrest : ∀ register ∈ [DcSystemTimeOffset.address, DcSystemTimeTransmissionDelay.address,
      DcRecieveTime.address], ∀ exchange ∈ drift ++ [last],
      exchange.sent.command.ado ≠ register := by
    intro register hregister exchange hexchange
    obtain ⟨htime, hdelta⟩ := address_ne.2 register hregister
    rcases List.mem_append.mp hexchange with hmem | hmem
    · rcases hdrifted.ado exchange hmem with hado | hado
      · rwa [hado]
      · rwa [hado]
    · rwa [List.mem_singleton.mp hmem, hlast]
  have hoffsets := ado_of_written hwritten.offset fun _ _ h => h.1
  have hdelays := ado_of_written hwritten.delay fun _ _ h => h.1
  have hoffset := fun position => @received_of_written _ hfilled _ _ _ hwritten.offset
    (fun _ _ h => h.1) [] (delayWrites ++ (drift ++ [last])) (by simp)
    (fun exchange hexchange => by
      rcases List.mem_append.mp hexchange with hmem | hmem
      · rw [hdelays exchange hmem]
        exact address_ne.1.symm
      · exact hrest _ (by simp) exchange hmem) position
  have hdelay := fun position => @received_of_written _ hfilled _ _ _ hwritten.delay
    (fun _ _ h => h.1) offsetWrites (drift ++ [last]) (fun exchange hexchange => by
      rw [hoffsets exchange hexchange]
      exact address_ne.1) (hrest _ (by simp)) position
  have hlog' : log = measured ++ (offsetWrites ++ (delayWrites ++ (drift ++ [last]))) := by
    rw [hlog, hdrifted.log_eq, hwritten.log_eq]
    simp only [List.append_assoc]
  have hbehind : ∀ exchange ∈ offsetWrites ++ (delayWrites ++ (drift ++ [last])),
      exchange.sent.command.ado ≠ DcRecieveTime.address := by
    intro exchange hexchange
    rcases List.mem_append.mp hexchange with hmem | hmem
    · rw [hoffsets exchange hmem]
      decide
    rcases List.mem_append.mp hmem with hmem | hmem
    · rw [hdelays exchange hmem]
      decide
    · exact hrest _ (by simp) exchange hmem
  refine ⟨measured, offsetWrites ++ (delayWrites ++ (drift ++ [last])), hlog', ?_⟩
  · exact {
      commands_measured := hwritten.measured
      computed := (foldlM_measure_append _ _ hbehind).symm.trans (hlog' ▸ hmeasure)
      offset := fun position hdc => by
        obtain ⟨exchange, hreceived, hexchange⟩ :=
          (hoffset position (lt_of_hasDc hfilled hdc)).1 hdc
        exact ⟨exchange, hreceived, hexchange.2⟩
      delay := fun position hdc => by
        obtain ⟨exchange, hreceived, hexchange⟩ :=
          (hdelay position (lt_of_hasDc hfilled hdc)).1 hdc
        exact ⟨exchange, hreceived, hexchange.2⟩
      others := fun position hlt hdc => ⟨(hoffset position hlt).2 hdc, (hdelay position hlt).2 hdc⟩
      drift := by
        simp only [List.filter_append, List.length_append]
        have hcount := hdrifted.count_le
        omega
      delta := ⟨offsetWrites ++ (delayWrites ++ drift), last, by simp only [List.append_assoc],
        hlast, hsmall⟩ }

/-- **A complete setup.**  On a network whose tour reaches every slave and that has a clock, a task
that completes has written to every clock its offset and its delay, as the rounds have computed
them, once each and to no other slave, has compensated the drift for long enough, and has last seen
no difference that is too large. -/
theorem exists_setUp_of_complete {network network' : Network} {task : DcInitTask}
    {places : List RecievedPort} (hfilled : network.Filled)
    (htoList : network.recievedPorts.toList = .ok places)
    (htour : ∀ i < network.numSlaves, ∃ port, (i, port) ∈ places)
    (hclock : ∃ i, hasDc network i = true) (hstart : start network = .ok (task, network'))
    {socket : PduSocket} (hsocket : socket.command = none) {replies : List ClocksReply}
    {d : Driven OnNetwork} (hrun : Transition.run step ⟨⟨task, network'⟩, socket⟩ replies = .ok d)
    (hcomplete : d.task.task.state = .complete) :
    ∃ measured after, Transition.log step exchanges ⟨⟨task, network'⟩, socket⟩ replies =
      measured ++ after ∧ SetUp ⟨task, network'⟩ d.task.network measured after := by
  obtain ⟨hfirst, hsame, hstate⟩ := start_firstDcSlave hfilled htoList htour hstart
  have hfilled' := hsame.filled hfilled
  have hinit : Running ⟨⟨task, network'⟩, socket⟩ [] := by
    refine ⟨⟨hfilled', ⟨hfilled'.small, start_dcSlaveCount hfilled'.small hstart⟩, hfirst, ?_⟩, ?_,
      fun sent hsent => ?_⟩
    · obtain ⟨i, hi⟩ := hclock
      rw [hsame.dcPositions]
      exact List.ne_nil_of_mem (mem_dcPositions_iff.mpr ⟨lt_of_hasDc hfilled hi, hi⟩)
    · rw [Phase]
      dsimp only
      rw [hstate]
      rfl
    · rw [PduSocket.outstanding, hsocket] at hsent
      cases hsent
  have hrunning := Transition.run_log_invariant
    (fun d log => Running d log ∧ Computed ⟨task, network'⟩ d.task log)
    (fun _ _ _ _ h hstep => ⟨running_step h.1 hstep, computed_step h.1 h.2 hstep⟩)
    ⟨hinit, rfl, .inr rfl⟩ hrun
  rw [List.nil_append] at hrunning
  exact setUp_of_phase hrunning.1.prepared.filled hrunning.1.phase hrunning.2 hcomplete

/-- Every slave acknowledges everything. -/
def acknowledge : ClocksReply := ⟨fun _ => #v[0, 0, 0, 0], fun pdu => { pdu with wkc := 1 }, 0⟩

/-- A task with one clock whose drift was compensated `count` times. -/
def drifting (network : Network) (count : ℕ) : Driven OnNetwork where
  task := ⟨⟨.compensateDrift count, ⟨.armw, 0, DcSystemTime.address⟩, some 0, 1⟩, network⟩
  socket := .store (some (⟨.armw, 0, DcSystemTime.address⟩, 8)) (List.replicate 16 0)

lemma step_drifting (network : Network) {count : ℕ} (h : count + 1 < driftCountMin) :
    step (drifting network count) acknowledge = .ok (drifting network (count + 1)) := by
  have hrecieve : OnNetwork.recieveAndProcess (drifting network count).task
      ⟨⟨.armw, 0, DcSystemTime.address⟩, List.replicate 8 0, 1⟩ 0 =
        .ok (drifting network (count + 1)).task := by
    change Except.ok (if count + 1 < driftCountMin then _ else _) = _
    rw [if_pos h]
    rfl
  have hprocess : CyclicTask.processOneStep (drifting network count).task
      ⟨some ⟨.armw, 0, DcSystemTime.address⟩, List.replicate 16 0, 1, 8, true⟩ 0 =
        .ok ((drifting network (count + 1)).task, (drifting network (count + 1)).socket) := by
    change (do
      let dc ← OnNetwork.recieveAndProcess (drifting network count).task
        ⟨⟨.armw, 0, DcSystemTime.address⟩, List.replicate 8 0, 1⟩ 0
      let ((pdu, dataBuf), dc) ← OnNetwork.nextPdu dc (List.replicate 16 0)
      .ok (dc, PduSocket.store pdu dataBuf)) = _
    rw [hrecieve]
    rfl
  change (do
    let (task, socket) ← CyclicTask.processOneStep (drifting network count).task
      ⟨some ⟨.armw, 0, DcSystemTime.address⟩, List.replicate 16 0, 1, 8, true⟩ 0
    .ok (⟨task, socket⟩ : Driven OnNetwork)) = _
  rw [hprocess]
  rfl

lemma run_drifting (network : Network) {count n : ℕ} (h : count + n < driftCountMin) :
    Transition.run step (drifting network count) (List.replicate n acknowledge) =
      .ok (drifting network (count + n)) := by
  induction n generalizing count with
  | zero => rfl
  | succ n ih =>
      rw [List.replicate_succ, Transition.run_cons_eq_ok_iff]
      refine ⟨_, step_drifting network (by omega), ?_⟩
      rw [ih (by omega)]
      congr 2
      omega

/-- One slave with a clock. -/
def oneClock : Network := portNetwork [linePorts false]

lemma filled_oneClock : oneClock.Filled := by
  refine ⟨fun i => ?_, by decide⟩
  match i with
  | 0 => decide
  | i + 1 =>
    constructor
    · intro h
      have hlt : i + 1 < 1 := Network.lt_length_of_slaveAt_isSome h
      omega
    · intro h
      have hlt : i + 1 < 1 := h
      omega

/-- The same network while its clock is set up. -/
def runningClock : Network := oneClock.modifySlaves fun slave => slave.setCurrentPort 4

/-- The task that `start` makes for it. -/
def startedClock : DcInitTask := ⟨.clearOffset, .default, some 0, 1⟩

set_option maxRecDepth 4000 in
lemma run_oneClock : ∃ d, Transition.run step ⟨⟨startedClock, runningClock⟩,
      .new (List.replicate 16 0)⟩ (List.replicate 2022 acknowledge) = .ok d ∧
    d.task.task.state = .complete := by
  have hsplit : List.replicate 2022 acknowledge = List.replicate 21 acknowledge ++
      (List.replicate 1999 acknowledge ++ List.replicate 2 acknowledge) := by
    rw [List.replicate_append_replicate, List.replicate_append_replicate]
  have hmeasured : Transition.run step ⟨⟨startedClock, runningClock⟩, .new (List.replicate 16 0)⟩
      (List.replicate 21 acknowledge) = .ok (drifting runningClock 0) := rfl
  have hlast : ∃ d, Transition.run step (drifting runningClock (0 + 1999))
      (List.replicate 2 acknowledge) = .ok d ∧ d.task.task.state = .complete := by
    refine ⟨_, rfl, ?_⟩
    rfl
  obtain ⟨d, hlast, hcomplete⟩ := hlast
  rw [hsplit]
  exact ⟨d, Transition.run_append_eq_ok_iff.mpr ⟨_, hmeasured,
    Transition.run_append_eq_ok_iff.mpr ⟨_, run_drifting runningClock (by decide), hlast⟩⟩,
    hcomplete⟩

/-- Two thousand cycles with one clock. -/
theorem exists_setUp_of_complete_one :
    ∃ d, Transition.run step ⟨⟨startedClock, runningClock⟩, .new (List.replicate 16 0)⟩
        (List.replicate 2022 acknowledge) = .ok d ∧
      ∃ measured after, SetUp ⟨startedClock, runningClock⟩ d.task.network measured after := by
  have hports : oneClock.recievedPorts.toList = .ok [(0, 0)] := by decide +kernel
  have htour : ∀ i < oneClock.numSlaves, ∃ port, (i, port) ∈ [((0, 0) : ℕ × ℕ)] := by
    intro i hi
    have hi : i = 0 := Nat.lt_one_iff.mp hi
    exact ⟨0, by rw [hi]; exact List.mem_singleton_self _⟩
  have hstart : start oneClock = .ok (startedClock, runningClock) := rfl
  obtain ⟨d, hrun, hcomplete⟩ := run_oneClock
  obtain ⟨measured, after, -, hsetUp⟩ := exists_setUp_of_complete filled_oneClock hports htour
    ⟨0, rfl⟩ hstart rfl hrun hcomplete
  exact ⟨d, hrun, measured, after, hsetUp⟩

end DcInitTask

end EtherCat
