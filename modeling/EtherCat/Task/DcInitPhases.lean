import EtherCat.Task.DcRequests
import EtherCat.Task.ResponseChecks

/-!
# The phases of `DcInitTask`

In eight rounds the task measures; then it writes to every slave with a distributed clock its
offset and its delay, lets the drift be compensated and looks at the differences.  `Phase` says of
every state what has been sent before it.  The differences come by a broadcast read, which brings
back the bitwise or of the registers of all clocks.
-/

namespace EtherCat

open Rust Rust.Exec BitField CyclicTask Driven

namespace DcInitTask

/-! ## What the slaves see -/

/-- The difference of a clock. -/
def differenceOf (register : Vector UInt8 4) : ℕ := DcSystemTimeDelta.delta.val register.toList

/-- What the slaves make of a PDU: a broadcast read of the difference collects the registers of the
clocks, and anything may come back for another PDU. -/
structure ClocksReply where
  registers : ℕ → Vector UInt8 4
  others : Pdu → Pdu
  time : ℕ

/-- The data of a broadcast read of the difference, behind the slaves at these positions. -/
def collected (registers : ℕ → Vector UInt8 4) (data : List UInt8) (positions : List ℕ) :
    List UInt8 :=
  positions.foldr (fun position data => orBytes (registers position).toList data) data

/-- The response of the slaves of this network. -/
def ClocksReply.toReply (reply : ClocksReply) (network : Network) : Reply where
  respond pdu :=
    if pdu.command = ⟨.brd, 0, DcSystemTimeDelta.address⟩ then
      { reply.others pdu with data := collected reply.registers pdu.data (dcPositions network) }
    else reply.others pdu
  time := reply.time

/-- A step in which the slaves answer. -/
def step (d : Driven OnNetwork) (reply : ClocksReply) : Exec (Driven OnNetwork) :=
  d.step (reply.toReply d.task.network)

/-- A PDU, the response to it, and the differences of the clocks at that time. -/
structure Exchange where
  sent : Pdu
  recv : Pdu
  registers : ℕ → Vector UInt8 4

/-- What a step adds to the log: the PDU that it answers, if there is one. -/
def exchanges (d : Driven OnNetwork) (reply : ClocksReply) : List Exchange :=
  match d.socket.outstanding, d.seen (reply.toReply d.task.network) with
  | some sent, some recv => [⟨sent, recv, reply.registers⟩]
  | _, _ => []

/-- A cycle of drift compensation that as many clocks have acknowledged. -/
def Exchange.AcknowledgesDrift (exchange : Exchange) (numClocks : ℕ) : Prop :=
  exchange.sent.command.cType = .armw ∧ exchange.sent.command.ado = DcSystemTime.address ∧
    exchange.recv.wkc = .ofNat numClocks

instance (exchange : Exchange) (numClocks : ℕ) :
    Decidable (exchange.AcknowledgesDrift numClocks) :=
  inferInstanceAs (Decidable (_ ∧ _ ∧ _))

/-- The commands that were sent. -/
def commands (log : List Exchange) : List Command := log.map fun exchange => exchange.sent.command

/-- A round of measurements: all slaves latch their receive times, which are read one after
another. -/
def measuringRound (numSlaves : ℕ) : List Command :=
  ⟨.bwr, 0, DcRecieveTime.address⟩ :: (List.range numSlaves).map fun pos =>
    .newRead (.single (.slavePosition (.ofNat pos))) DcRecieveTime.address

/-- The commands up to the end of a round. -/
def measurement (numSlaves rounds : ℕ) : List Command :=
  ⟨.bwr, 0, DcSystemTimeOffset.address⟩ :: ⟨.bwr, 0, DcSystemTimeTransmissionDelay.address⟩ ::
    (List.replicate rounds (measuringRound numSlaves)).flatten

/-! ## The phases -/

/-- A slave has acknowledged the write of its offset. -/
def OffsetWritten (network : Network) (position : ℕ) (exchange : Exchange) : Prop :=
  exchange.sent.command =
      .newWrite (.single (.slavePosition (.ofNat position))) DcSystemTimeOffset.address ∧
    exchange.recv.wkc = 1 ∧ CarriesOffset network position exchange.sent.data

/-- A slave has acknowledged the write of its delay. -/
def DelayWritten (network : Network) (position : ℕ) (exchange : Exchange) : Prop :=
  exchange.sent.command =
      .newWrite (.single (.slavePosition (.ofNat position)))
        DcSystemTimeTransmissionDelay.address ∧
    exchange.recv.wkc = 1 ∧ CarriesDelay network position exchange.sent.data

/-- Behind the measurement, the offsets and the delays were written to the slaves at these
positions. -/
structure Written (network : Network) (offsets delays : List ℕ) (log : List Exchange)
    (measured offsetWrites delayWrites : List Exchange) : Prop where
  log_eq : log = measured ++ (offsetWrites ++ delayWrites)
  measured : commands measured = measurement network.numSlaves countMax
  offset : List.Forall₂ (OffsetWritten network) offsets offsetWrites
  delay : List.Forall₂ (DelayWritten network) delays delayWrites

/-- Behind the writes, the drift was compensated at least `count` times. -/
structure Drifted (network : Network) (count : ℕ) (log written drift : List Exchange) : Prop where
  log_eq : log = written ++ drift
  written : ∃ measured offsetWrites delayWrites,
    Written network (dcPositions network) (dcPositions network) written measured offsetWrites
      delayWrites
  ado : ∀ exchange ∈ drift, exchange.sent.command.ado = DcSystemTime.address ∨
    exchange.sent.command.ado = DcSystemTimeDelta.address
  count_le : count ≤ (drift.filter fun exchange =>
    exchange.AcknowledgesDrift (dcPositions network).length).length

/-- What has been sent in the states of the task. -/
def Phase (dc : OnNetwork) (log : List Exchange) : Prop :=
  let network := dc.network
  match dc.task.state with
  | .idle => False
  | .error _ => True
  | .clearOffset => commands log = []
  | .clearDelay => commands log = [⟨.bwr, 0, DcSystemTimeOffset.address⟩]
  | .requestToLatch count => count < countMax ∧ commands log = measurement network.numSlaves count
  | .calculateDelay count pos =>
    count < countMax ∧ pos < network.numSlaves ∧
      commands log = measurement network.numSlaves count ++ measuringRound pos
  | .setOffset pos =>
    ∃ before behind, dcPositions network = before ++ pos :: behind ∧
      ∃ measured offsetWrites, Written network before [] log measured offsetWrites []
  | .setDelay pos =>
    ∃ before behind, dcPositions network = before ++ pos :: behind ∧
      ∃ measured offsetWrites delayWrites,
        Written network (dcPositions network) before log measured offsetWrites delayWrites
  | .compensateDrift count => ∃ written drift, Drifted network count log written drift
  | .checkDelta => ∃ written drift, Drifted network driftCountMin log written drift
  | .complete =>
    ∃ before last, log = before ++ [last] ∧
      (∃ written drift, Drifted network driftCountMin before written drift) ∧
      last.sent.command = ⟨.brd, 0, DcSystemTimeDelta.address⟩ ∧
      ∀ position ∈ dcPositions network, differenceOf (last.registers position) ≤ targetDeltaNs

/-- What `start` provides and no response changes. -/
structure Prepared (dc : OnNetwork) : Prop where
  filled : dc.network.Filled
  counted : dc.Counted
  first : dc.task.firstDcSlave = (dcPositions dc.network).head?
  exists_clock : dcPositions dc.network ≠ []

lemma Prepared.of_moved {dc dc' : OnNetwork} (h : Prepared dc) (hmoved : OnNetwork.Moved dc dc') :
    Prepared dc' where
  filled := hmoved.slaves.filled h.filled
  counted := h.counted.of_moved hmoved
  first := by
    rw [hmoved.firstDcSlave, hmoved.slaves.dcPositions]
    exact h.first
  exists_clock := by
    rw [hmoved.slaves.dcPositions]
    exact h.exists_clock

lemma Prepared.numSlaves_pos {dc : OnNetwork} (h : Prepared dc) : 0 < dc.network.numSlaves := by
  obtain ⟨pos, hpos⟩ := List.exists_mem_of_ne_nil _ h.exists_clock
  rw [dcPositions, List.mem_filter, List.mem_range] at hpos
  omega

/-! ## One clock after another -/

lemma pairwise_dcPositions (network : Network) : (dcPositions network).Pairwise (· < ·) :=
  List.pairwise_lt_range.filter _

lemma lt_of_mem_dcPositions {network : Network} (h : network.Filled) {position : ℕ}
    (hposition : position ∈ dcPositions network) : position < 2 ^ 16 := by
  have hsmall := h.small
  rw [dcPositions, List.mem_filter, List.mem_range, Network.numSlaves] at hposition
  omega

/-- The next slave with a distributed clock, looked up by position. -/
lemma nextDcSlave_eq {network : Network} (h : network.Filled) (pos : ℕ) :
    nextDcSlave network pos =
      (List.range network.numSlaves).find? fun i => hasDc network i && decide (pos < i) := by
  have hlength : (network.slaves.filterMap Prod.fst).length = network.pushCount :=
    Network.length_filterMap_of_forall h.isSome_iff
  have hslave : ∀ (i : ℕ) (hi : i < (network.slaves.filterMap Prod.fst).length),
      ((network.slaves.filterMap Prod.fst)[i].info.supportDc &&
        decide (pos < (UInt16.ofNat i).toNat)) = (hasDc network i && decide (pos < i)) := by
    intro i hi
    have hslot := h.getElem?_slaves i
    rw [List.getElem?_eq_getElem hi] at hslot
    have hsmall := h.small
    rw [hasDc, ← hslot, UInt16.toNat_ofNat', Nat.mod_eq_of_lt (by omega)]
    rfl
  ext j
  rw [nextDcSlave, List.findIdx?_eq_some_iff_getElem, List.find?_range_eq_some]
  simp only [List.length_zipIdx, List.getElem_zipIdx, Nat.zero_add]
  constructor
  · rintro ⟨hj, hmatch, hmin⟩
    have hj' : j < network.pushCount := hlength ▸ hj
    refine ⟨(hslave j hj).symm.trans hmatch, List.mem_range.mpr hj', fun i hi => ?_⟩
    rw [← hslave i (hi.trans hj)]
    rw [Bool.not_eq_true']
    exact Bool.eq_false_of_not_eq_true (hmin i hi)
  · rintro ⟨hmatch, hj, hmin⟩
    have hj : j < (network.slaves.filterMap Prod.fst).length := by
      rw [hlength]
      exact List.mem_range.mp hj
    refine ⟨hj, (hslave j hj).trans hmatch, fun i hi => ?_⟩
    have hi' := hmin i hi
    rw [← hslave i (hi.trans hj), Bool.not_eq_true'] at hi'
    rw [hi']
    exact Bool.false_ne_true

/-- The clocks behind one of them. -/
lemma nextDcSlave_of_split {network : Network} (h : network.Filled) {before behind : List ℕ}
    {pos : ℕ} (hsplit : dcPositions network = before ++ pos :: behind) :
    nextDcSlave network pos = behind.head? := by
  have hsorted := pairwise_dcPositions network
  rw [hsplit, List.pairwise_append, List.pairwise_cons] at hsorted
  obtain ⟨-, ⟨hbehind, -⟩, hbefore⟩ := hsorted
  have hfilter : (dcPositions network).filter (fun i => decide (pos < i)) = behind := by
    rw [hsplit, List.filter_append, List.filter_cons_of_neg (by simp)]
    rw [List.filter_eq_nil_iff.mpr, List.nil_append, List.filter_eq_self.mpr]
    · exact fun i hi => decide_eq_true (hbehind i hi)
    · intro i hi hlt
      have hlt' := hbefore i hi pos List.mem_cons_self
      simp only [decide_eq_true_eq] at hlt
      omega
  rw [nextDcSlave_eq h, ← List.head?_filter, ← hfilter, dcPositions, List.filter_filter]
  congr 2
  funext i
  exact Bool.and_comm _ _

/-! ## An accepted response -/

lemma commands_append (log : List Exchange) (exchange : Exchange) :
    commands (log ++ [exchange]) = commands log ++ [exchange.sent.command] := by
  rw [commands, commands, List.map_append]
  rfl

lemma measurement_succ (numSlaves rounds : ℕ) :
    measurement numSlaves (rounds + 1) =
      measurement numSlaves rounds ++ measuringRound numSlaves := by
  rw [measurement, measurement, List.replicate_succ', List.flatten_append]
  simp

lemma measuringRound_succ (pos : ℕ) :
    measuringRound (pos + 1) = measuringRound pos ++
      [.newRead (.single (.slavePosition (.ofNat pos))) DcRecieveTime.address] := by
  rw [measuringRound, measuringRound, List.range_succ, List.map_append]
  rfl

/-- The first write of an offset. -/
lemma phase_setOffset {dc : OnNetwork} {log : List Exchange} {first : ℕ} (hprep : Prepared dc)
    (hstate : dc.task.state = .setOffset first) (hfirst : dc.task.firstDcSlave = some first)
    (hlog : commands log = measurement dc.network.numSlaves countMax) : Phase dc log := by
  have hhead := hprep.first
  rw [hfirst, eq_comm, List.head?_eq_some_iff] at hhead
  obtain ⟨behind, hbehind⟩ := hhead
  rw [Phase, hstate]
  exact ⟨[], behind, hbehind, log, [], by simp, hlog, .nil, .nil⟩

/-- The end of a round. -/
lemma phase_endRound {dc dc' : OnNetwork} {count : ℕ} {log : List Exchange} (hprep : Prepared dc)
    (hcount : count < countMax)
    (hlog : commands log = measurement dc.network.numSlaves (count + 1))
    (h : dc.endRound count = .ok dc') : Phase dc' log := by
  have hmoved := OnNetwork.moved_endRound h
  have hnumSlaves : dc'.network.numSlaves = dc.network.numSlaves := hmoved.slaves.pushCount
  have hprep' := hprep.of_moved hmoved
  obtain ⟨network, -, heq⟩ := bind_eq_ok.mp h
  dsimp only at heq
  split at heq
  · next hmore =>
      cases heq
      refine ⟨hmore, ?_⟩
      rw [hlog, ← hnumSlaves]
  · next hlast =>
      have hrounds : count + 1 = countMax := by omega
      split at heq
      · next first hfirst =>
          cases heq
          rw [hrounds, ← hnumSlaves] at hlog
          exact phase_setOffset hprep' rfl hfirst hlog
      · next hfirst =>
          have hnone := hprep.first
          rw [hfirst, eq_comm, List.head?_eq_none_iff] at hnone
          exact absurd hnone hprep.exists_clock

/-- The receive times of a slave. -/
lemma phase_calculateDelay {dc dc' : OnNetwork} {count pos : ℕ} {log : List Exchange}
    {data : List UInt8} {exchange : Exchange} (hprep : Prepared dc)
    (hcount : count < countMax)
    (hlog : commands log = measurement dc.network.numSlaves count ++ measuringRound pos)
    (hpos : pos < dc.network.numSlaves)
    (hsent : exchange.sent.command =
      .newRead (.single (.slavePosition (.ofNat pos))) DcRecieveTime.address)
    (h : dc.processCalculateDelay count pos data = .ok dc') : Phase dc' (log ++ [exchange]) := by
  have hlog' : commands (log ++ [exchange]) =
      measurement dc.network.numSlaves count ++ measuringRound (pos + 1) := by
    rw [commands_append, hlog, hsent, measuringRound_succ, List.append_assoc]
  obtain ⟨context, -, h⟩ := OnNetwork.processCalculateDelay_eq_ok h
  dsimp only at h
  have hmoved : OnNetwork.Moved dc { dc with
      network := dc.network.modifySlave pos fun slave => { slave with dcContext := context } } :=
    ⟨sameSlaves_modifySlave _ _ fun _ => rfl, rfl, rfl, rfl⟩
  split at h
  · next hmore =>
      subst h
      exact ⟨hcount, hmore, hlog'⟩
  · next hlast =>
      have hround : pos + 1 = dc.network.numSlaves := by omega
      refine phase_endRound (hprep.of_moved hmoved) hcount ?_ h
      rw [hlog', hround, ← measurement_succ]
      rfl

/-- One more in each of two lists that belong together. -/
lemma forall₂_concat {R : ℕ → Exchange → Prop} {positions : List ℕ} {log : List Exchange}
    {position : ℕ} {exchange : Exchange} (h : List.Forall₂ R positions log)
    (hlast : R position exchange) : List.Forall₂ R (positions ++ [position]) (log ++ [exchange]) :=
  List.rel_append h (.cons hlast .nil)

/-- The offset of a slave is written. -/
lemma phase_of_offsetWritten {dc dc' : OnNetwork} {pos : ℕ} {log : List Exchange}
    {exchange : Exchange} (hprep : Prepared dc) (hphase : Phase dc log)
    (hstate : dc.task.state = .setOffset pos)
    (hwritten : OffsetWritten dc.network pos exchange)
    (h : (match nextDcSlave dc.network pos with
      | some next => .ok (dc.goTo (.setOffset (UInt16.ofNat next).toNat))
      | none => do
        let first ← unwrap dc.task.firstDcSlave
        .ok (dc.goTo (.setDelay first))) = Except.ok dc') : Phase dc' (log ++ [exchange]) := by
  rw [Phase, hstate] at hphase
  obtain ⟨before, behind, hsplit, measured, offsetWrites, hlog, hmeasured, hoffset, -⟩ := hphase
  have hoffset' := forall₂_concat hoffset hwritten
  have hlog' : log ++ [exchange] = measured ++ ((offsetWrites ++ [exchange]) ++ []) := by
    rw [hlog, List.append_nil, List.append_nil, List.append_assoc]
  rw [nextDcSlave_of_split hprep.filled hsplit] at h
  rcases behind with _ | ⟨next, behind⟩
  · obtain ⟨first, hfirst, heq⟩ := bind_eq_ok.mp h
    cases heq
    have hhead := hprep.first
    rw [unwrap_eq_ok_iff.mp hfirst, eq_comm, List.head?_eq_some_iff] at hhead
    obtain ⟨others, hothers⟩ := hhead
    refine ⟨[], others, hothers, measured, offsetWrites ++ [exchange], [], hlog', hmeasured, ?_,
      .nil⟩
    rw [← hsplit] at hoffset'
    exact hoffset'
  · have hnext := lt_of_mem_dcPositions hprep.filled (show next ∈ dcPositions dc.network by
      rw [hsplit]
      simp)
    cases h
    refine ⟨before ++ [pos], behind, ?_, measured, offsetWrites ++ [exchange], hlog', hmeasured,
      hoffset', .nil⟩
    rw [UInt16.toNat_ofNat', Nat.mod_eq_of_lt hnext, List.append_assoc]
    exact hsplit

/-- The delay of a slave is written. -/
lemma phase_of_delayWritten {dc dc' : OnNetwork} {pos : ℕ} {log : List Exchange}
    {exchange : Exchange} (hprep : Prepared dc) (hphase : Phase dc log)
    (hstate : dc.task.state = .setDelay pos)
    (hwritten : DelayWritten dc.network pos exchange)
    (h : (match nextDcSlave dc.network pos with
      | some next => .ok (dc.goTo (.setDelay (UInt16.ofNat next).toNat))
      | none => .ok (dc.goTo (.compensateDrift 0))) = (Except.ok dc' : Exec OnNetwork)) :
    Phase dc' (log ++ [exchange]) := by
  rw [Phase, hstate] at hphase
  obtain ⟨before, behind, hsplit, measured, offsetWrites, delayWrites, hlog, hmeasured, hoffset,
    hdelay⟩ := hphase
  have hdelay' := forall₂_concat hdelay hwritten
  have hlog' : log ++ [exchange] = measured ++ (offsetWrites ++ (delayWrites ++ [exchange])) := by
    rw [hlog, List.append_assoc, List.append_assoc]
  rw [nextDcSlave_of_split hprep.filled hsplit] at h
  rcases behind with _ | ⟨next, behind⟩
  · cases h
    rw [← hsplit] at hdelay'
    exact ⟨log ++ [exchange], [], (List.append_nil _).symm,
      ⟨measured, offsetWrites, delayWrites ++ [exchange], hlog', hmeasured, hoffset, hdelay'⟩,
      by simp, Nat.zero_le _⟩
  · have hnext := lt_of_mem_dcPositions hprep.filled (show next ∈ dcPositions dc.network by
      rw [hsplit]
      simp)
    cases h
    refine ⟨before ++ [pos], behind, ?_, measured, offsetWrites, delayWrites ++ [exchange], hlog',
      hmeasured, hoffset, hdelay'⟩
    rw [UInt16.toNat_ofNat', Nat.mod_eq_of_lt hnext, List.append_assoc]
    exact hsplit

/-- A cycle of drift compensation. -/
lemma Drifted.drift {network : Network} {count : ℕ} {log written drift : List Exchange}
    {exchange : Exchange} (h : Drifted network count log written drift)
    (hacknowledged : exchange.AcknowledgesDrift (dcPositions network).length) :
    Drifted network (count + 1) (log ++ [exchange]) written (drift ++ [exchange]) where
  log_eq := by rw [h.log_eq, List.append_assoc]
  written := h.written
  ado := by
    intro e he
    rcases List.mem_append.mp he with he | he
    · exact h.ado e he
    · rw [List.mem_singleton.mp he]
      exact .inl hacknowledged.2.1
  count_le := by
    rw [List.filter_append, List.length_append,
      List.filter_cons_of_pos (by exact decide_eq_true hacknowledged)]
    exact Nat.succ_le_succ h.count_le

/-- A read of the differences. -/
lemma Drifted.delta {network : Network} {count : ℕ} {log written drift : List Exchange}
    {exchange : Exchange} (h : Drifted network count log written drift)
    (hado : exchange.sent.command.ado = DcSystemTimeDelta.address) :
    Drifted network count (log ++ [exchange]) written (drift ++ [exchange]) where
  log_eq := by rw [h.log_eq, List.append_assoc]
  written := h.written
  ado := by
    intro e he
    rcases List.mem_append.mp he with he | he
    · exact h.ado e he
    · rw [List.mem_singleton.mp he]
      exact .inr hado
  count_le := by
    rw [List.filter_append, List.length_append]
    exact h.count_le.trans (Nat.le_add_right _ _)

lemma Drifted.mono {network : Network} {count count' : ℕ} {log written drift : List Exchange}
    (h : Drifted network count log written drift) (hle : count' ≤ count) :
    Drifted network count' log written drift :=
  { h with count_le := hle.trans h.count_le }

/-! ## The differences -/

lemma length_collected (registers : ℕ → Vector UInt8 4) {data : List UInt8}
    (hdata : data.length = 4) (positions : List ℕ) :
    (collected registers data positions).length = 4 := by
  induction positions with
  | nil => exact hdata
  | cons position positions ih =>
      rw [collected, List.foldr_cons, length_orBytes, Vector.length_toList]
      rw [collected] at ih
      rw [ih]
      rfl

/-- **What a broadcast tells of one clock.**  A difference is at most the bitwise or of all. -/
lemma differenceOf_le_collected (registers : ℕ → Vector UInt8 4) {data : List UInt8}
    (hdata : data.length = 4) {positions : List ℕ} {position : ℕ} (hposition : position ∈ positions) :
    differenceOf (registers position) ≤
      DcSystemTimeDelta.delta.val (collected registers data positions) := by
  induction positions with
  | nil => cases hposition
  | cons first positions ih =>
      have hlength := length_collected registers hdata positions
      change _ ≤ DcSystemTimeDelta.delta.val
        (orBytes (registers first).toList (collected registers data positions))
      rw [Field.val_orBytes (by rw [hlength, Vector.length_toList])]
      rcases List.mem_cons.mp hposition with rfl | hmem
      · exact Nat.left_le_or
      · exact (ih hmem).trans Nat.right_le_or

/-! ## A step -/

/-- **An accepted response.** -/
lemma phase_of_accepted {dc dc' : OnNetwork} {log : List Exchange} {exchange : Exchange}
    {time : ℕ} (hprep : Prepared dc) (hphase : Phase dc log)
    (hsends : dc.Sends exchange.sent.command exchange.sent.data)
    (haccepted : exchange.recv.Echoes dc.task.command ∧ exchange.recv.wkc = dc.expectedWkc)
    (hdelta : dc.task.state = .checkDelta → exchange.recv.data =
      collected exchange.registers exchange.sent.data (dcPositions dc.network))
    (h : dc.recieveAndProcess exchange.recv time = .ok dc') : Phase dc' (log ++ [exchange]) := by
  obtain ⟨hechoes, hwkc⟩ := haccepted
  have hrequest := hsends.request
  have hphase' := hphase
  rw [OnNetwork.recieveAndProcess, OnNetwork.checked, if_pos hechoes, OnNetwork.processState] at h
  rw [Phase] at hphase
  rcases hstate : dc.task.state
  all_goals
    rw [OnNetwork.expectedWkc, hstate] at hwkc
    rw [hstate] at h hphase
    rw [OnNetwork.request, hstate] at hrequest
    dsimp only at hwkc h hphase hrequest
  case error | complete => cases hrequest
  case clearOffset =>
    rw [OnNetwork.expectWkc_of_eq hwkc] at h
    cases h
    change commands (log ++ [exchange]) = _
    rw [commands_append, hphase, ← Option.some.inj hrequest]
    rfl
  case clearDelay =>
    rw [OnNetwork.expectWkc_of_eq hwkc] at h
    cases h
    refine ⟨by decide, ?_⟩
    rw [commands_append, hphase, ← Option.some.inj hrequest]
    rfl
  case requestToLatch count =>
    rw [OnNetwork.expectWkc_of_eq hwkc] at h
    cases h
    refine ⟨hphase.1, hprep.numSlaves_pos, ?_⟩
    rw [commands_append, hphase.2, ← Option.some.inj hrequest]
    rfl
  case calculateDelay count pos =>
    rw [OnNetwork.expectWkc_of_eq hwkc] at h
    exact phase_calculateDelay hprep hphase.1 hphase.2.2 hphase.2.1 (Option.some.inj hrequest).symm h
  case setOffset pos =>
    rw [OnNetwork.expectWkc_of_eq hwkc] at h
    exact phase_of_offsetWritten hprep hphase' hstate
      ⟨(Option.some.inj hrequest).symm, hwkc, hsends.offset pos hstate⟩ h
  case setDelay pos =>
    rw [OnNetwork.expectWkc_of_eq hwkc] at h
    exact phase_of_delayWritten hprep hphase' hstate
      ⟨(Option.some.inj hrequest).symm, hwkc, hsends.delay pos hstate⟩ h
  case compensateDrift count =>
    obtain ⟨first, -, hcommand⟩ := Option.map_eq_some_iff.mp hrequest
    obtain ⟨written, drift, hdrifted⟩ := hphase
    have hdrifted' : Drifted dc.network (count + 1) (log ++ [exchange]) written
        (drift ++ [exchange]) :=
      hdrifted.drift ⟨by rw [← hcommand], by rw [← hcommand], hwkc⟩
    rw [OnNetwork.expectWkc_of_eq (by rw [hwkc, hprep.counted.dcSlaveCount])] at h
    cases h
    split
    · exact ⟨written, drift ++ [exchange], hdrifted'⟩
    · exact ⟨written, drift ++ [exchange], hdrifted'.mono (by omega)⟩
  case checkDelta =>
    obtain ⟨written, drift, hdrifted⟩ := hphase
    rw [OnNetwork.expectWkc_of_eq (by rw [hwkc, hprep.counted.dcSlaveCount])] at h
    obtain ⟨delta, hget, heq⟩ := bind_eq_ok.mp h
    obtain ⟨-, rfl⟩ := Field.get_eq_ok_iff.mp hget
    cases heq
    split
    · next hsmall =>
        refine ⟨log, exchange, rfl, ⟨written, drift, hdrifted⟩, (Option.some.inj hrequest).symm, ?_⟩
        intro position hposition
        rw [hdelta hstate] at hsmall
        have hzeros : exchange.sent.data.length = 4 := by
          rw [hsends.delta hstate]
          rfl
        exact (differenceOf_le_collected exchange.registers hzeros hposition).trans hsmall
    · have hdrifted' := (hdrifted.mono (show driftCountMin - 100 ≤ driftCountMin by decide)).delta
        (by rw [← Option.some.inj hrequest])
      exact ⟨written, _, hdrifted'⟩

/-- The socket holds the PDU of the task, if it holds one. -/
def Out (d : Driven OnNetwork) : Prop :=
  ∀ sent, d.socket.outstanding = some sent → d.socket.recvFlag = false ∧
    d.socket.dataLength ≤ d.socket.dataBuf.length ∧ d.task.Sends sent.command sent.data ∧
    sent.command = d.task.task.command

/-- What holds before every step. -/
structure Running (d : Driven OnNetwork) (log : List Exchange) : Prop where
  prepared : Prepared d.task
  phase : Phase d.task log
  out : Out d

/-- The response to the PDU that is out. -/
lemma exchanges_of_out {d : Driven OnNetwork} (hout : Out d) (reply : ClocksReply) :
    (d.seen (reply.toReply d.task.network) = none ∧ exchanges d reply = []) ∨
      ∃ sent recv, d.seen (reply.toReply d.task.network) = some recv ∧
        exchanges d reply = [⟨sent, recv, reply.registers⟩] ∧
        d.task.Sends sent.command sent.data ∧ sent.command = d.task.task.command ∧
        (d.task.task.state = .checkDelta →
          recv.data = collected reply.registers sent.data (dcPositions d.task.network)) := by
  rcases hseen : d.seen (reply.toReply d.task.network) with _ | recv
  · left
    refine ⟨rfl, ?_⟩
    rw [exchanges, hseen]
    rcases d.socket.outstanding with _ | sent <;> rfl
  · right
    obtain ⟨command, hcommand⟩ := outstanding_of_seen hseen
    have hsent : d.socket.outstanding =
        some ⟨command, d.socket.dataBuf.take d.socket.dataLength, 0⟩ := by
      rw [PduSocket.outstanding, hcommand]
      rfl
    obtain ⟨hflag, hlength, hsends, hnoted⟩ := hout _ hsent
    refine ⟨_, recv, rfl, by rw [exchanges, hsent, hseen], hsends, hnoted, fun hstate => ?_⟩
    have hrequest := hsends.request
    rw [OnNetwork.request, hstate] at hrequest
    obtain rfl := Option.some.inj hrequest
    -- The PDU is as long as the register.
    have hzeros : d.socket.dataBuf.take d.socket.dataLength = List.replicate 4 0 :=
      hsends.delta hstate
    have hdata : (d.socket.dataBuf.take d.socket.dataLength).length = 4 := by
      rw [hzeros]
      rfl
    have hsize : d.socket.dataLength = 4 := by
      rw [List.length_take] at hdata
      omega
    rw [seen_eq hflag hlength, hcommand, Option.map_some] at hseen
    obtain rfl := Option.some.inj hseen
    have hcollected := length_collected reply.registers hdata (dcPositions d.task.network)
    have htake := take_overwrite (hcollected.trans_le (by omega : 4 ≤ d.socket.dataBuf.length))
    rw [hcollected, ← hsize] at htake
    exact htake

/-- The next PDU. -/
lemma running_of_next {dc : OnNetwork} {d : Driven OnNetwork} {buf buf' : List UInt8}
    {pdu : Option (Command × ℕ)} {log : List Exchange} (hprep : Prepared dc) (hphase : Phase dc log)
    (hnext : dc.nextPdu buf = .ok ((pdu, buf'), d.task)) (hsocket : d.socket = .store pdu buf') :
    Running d log := by
  obtain ⟨⟨noted, htask⟩, hcommand⟩ := OnNetwork.nextPdu_command hnext
  have hmoved : OnNetwork.Moved { dc with task := { dc.task with command := noted } } d.task := by
    rw [htask]
    exact .refl _
  refine ⟨?_, ?_, fun sent hsent => ?_⟩
  · rw [htask]
    exact ⟨hprep.filled, hprep.counted.of_noted noted, hprep.first, hprep.exists_clock⟩
  · rw [htask]
    exact hphase
  · rw [hsocket, PduSocket.outstanding, PduSocket.store] at hsent
    rcases pdu with _ | ⟨command, size⟩
    · cases hsent
    · obtain ⟨hsize, hsends⟩ := OnNetwork.nextPdu_sends hnext
      cases hsent
      rw [hsocket]
      refine ⟨rfl, hsize, ?_, hcommand command rfl⟩
      rw [htask]
      exact hsends.of_noted

/-- **A step.** -/
lemma running_step {d d' : Driven OnNetwork} {reply : ClocksReply} {log : List Exchange}
    (hrunning : Running d log) (h : step d reply = .ok d') :
    Running d' (log ++ exchanges d reply) := by
  rcases exchanges_of_out hrunning.out reply with ⟨hseen, hlog⟩ |
    ⟨sent, recv, hseen, hlog, hsends, hnoted, hdelta⟩
  · obtain ⟨dataBuf, pdu, dataBuf', -, hnext, hsocket⟩ := step_eq_ok_of_unseen hseen h
    rw [hlog, List.append_nil]
    exact running_of_next hrunning.prepared hrunning.phase hnext hsocket
  · obtain ⟨dataBuf, dc, pdu, dataBuf', -, hrecieve, hnext, hsocket⟩ := step_eq_ok_of_seen hseen h
    have hprep := hrunning.prepared.of_moved (OnNetwork.moved_recieveAndProcess hrecieve)
    rw [hlog]
    refine running_of_next hprep ?_ hnext hsocket
    by_cases haccepted : recv.Echoes d.task.task.command ∧ recv.wkc = d.task.expectedWkc
    · exact phase_of_accepted hrunning.prepared hrunning.phase hsends haccepted hdelta hrecieve
    · obtain ⟨e, he⟩ := OnNetwork.recieveAndProcess_of_refused (reply.toReply d.task.network).time
        hrunning.prepared.counted hsends.isBusy haccepted
      cases hrecieve.symm.trans he
      trivial

end DcInitTask

end EtherCat
