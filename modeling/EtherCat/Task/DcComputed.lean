import EtherCat.Task.DcInitPhases
import EtherCat.Task.DcMeasurement

/-!
# What the rounds of `DcInitTask` compute

The receive times of a slave change its clock data, and behind the last slave of a round the offsets
are computed.  Nothing else in a run changes the clock data (`Computed`): they are at every time
what the responses to the reads of receive times have made of those that `start` has left.
-/

namespace EtherCat

open Rust Rust.Exec BitField CyclicTask Driven

namespace DcInitTask

/-- The receive times of the slave at a position.  Its delay behind its parent is measured if it is
behind the first clock, and the offsets of all slaves if it is the last. -/
def measureSlave (firstDcSlave : Option ℕ) (network : Network) (pos : ℕ) (data : List UInt8) :
    Exec Network := do
  let slave ← slaveOf network pos
  let latched ← latch slave data
  let context ← (if firstDcSlave.any (fun first => first < pos) then
      measureDelay network pos slave latched.1 latched.2
    else .ok latched.1)
  let network := network.modifySlave pos fun slave => { slave with dcContext := context }
  if pos + 1 < network.numSlaves then .ok network
  else network.mapSlaves (measureOffset (maxTime network))

/-- The response to a read of receive times is a measurement, and no other one is. -/
def measure (firstDcSlave : Option ℕ) (network : Network) (exchange : Exchange) : Exec Network :=
  let command := exchange.sent.command
  if command.cType = .aprd ∧ command.ado = DcRecieveTime.address then
    -- an auto-increment address is the negative of the position
    measureSlave firstDcSlave network (-command.adp).toNat exchange.recv.data
  else .ok network

/-- The clock data are those that were computed from the responses, unless the task has failed. -/
structure Computed (start dc : OnNetwork) (log : List Exchange) : Prop where
  firstDcSlave_eq : dc.task.firstDcSlave = start.task.firstDcSlave
  foldlM_measure : (∃ e, dc.task.state = .error e) ∨
    log.foldlM (measure start.task.firstDcSlave) start.network = .ok dc.network

lemma measure_newRead {pos : ℕ} (hpos : pos < 2 ^ 16) (firstDcSlave : Option ℕ) (network : Network)
    {exchange : Exchange} (hsent : exchange.sent.command =
      .newRead (.single (.slavePosition (.ofNat pos))) DcRecieveTime.address) :
    measure firstDcSlave network exchange =
      measureSlave firstDcSlave network pos exchange.recv.data := by
  have hadp : (-exchange.sent.command.adp).toNat = pos := by
    rw [hsent]
    change (-getApAdp (.ofNat pos)).toNat = pos
    rw [getApAdp_eq_neg, UInt16.neg_neg, UInt16.toNat_ofNat', Nat.mod_eq_of_lt hpos]
  have hread : exchange.sent.command.cType = .aprd ∧
      exchange.sent.command.ado = DcRecieveTime.address := by
    rw [hsent]
    exact ⟨rfl, rfl⟩
  rw [measure, if_pos hread, hadp]

/-- Commands for other registers measure nothing. -/
lemma foldlM_measure_of_ado (firstDcSlave : Option ℕ) (network : Network) {log : List Exchange}
    (h : ∀ exchange ∈ log, exchange.sent.command.ado ≠ DcRecieveTime.address) :
    log.foldlM (measure firstDcSlave) network = .ok network := by
  induction log with
  | nil => rfl
  | cons exchange log ih =>
      rw [List.forall_mem_cons] at h
      rw [List.foldlM_cons, measure, if_neg fun hread => h.1 hread.2, ok_bind, ih h.2]

lemma foldlM_measure_append (firstDcSlave : Option ℕ) (network : Network)
    {measured after : List Exchange}
    (h : ∀ exchange ∈ after, exchange.sent.command.ado ≠ DcRecieveTime.address) :
    (measured ++ after).foldlM (measure firstDcSlave) network =
      measured.foldlM (measure firstDcSlave) network := by
  rw [List.foldlM_append]
  rcases measured.foldlM (measure firstDcSlave) network with e | network'
  · rfl
  · exact foldlM_measure_of_ado firstDcSlave network' h

/-- The arm of the receive times is a measurement. -/
lemma measureSlave_of_processCalculateDelay {dc dc' : OnNetwork} {count pos : ℕ} {data : List UInt8}
    (h : dc.processCalculateDelay count pos data = .ok dc') :
    measureSlave dc.task.firstDcSlave dc.network pos data = .ok dc'.network := by
  obtain ⟨slave, latched, context, hslave, hlatched, hclock, -, hafter⟩ :=
    OnNetwork.clock_of_processCalculateDelay h
  rw [measureSlave, hslave, ok_bind, hlatched, ok_bind]
  change dc.clockBehind pos slave latched >>= _ = _
  rw [hclock, ok_bind]
  rw [OnNetwork.afterSlave] at hafter
  split at hafter
  · next hmore =>
      cases hafter
      exact if_pos hmore
  · next hlast =>
      obtain ⟨network, hnetwork, heq⟩ := bind_eq_ok.mp hafter
      cases heq
      refine (if_neg hlast).trans (hnetwork.trans ?_)
      split
      · rfl
      · split <;> rfl

/-- Only the arm of the receive times sends the command that is a measurement. -/
lemma not_measures_of_request {dc : OnNetwork} {command : Command}
    (hrequest : dc.request = some command)
    (hstate : ∀ count pos, dc.task.state ≠ .calculateDelay count pos) :
    ¬ (command.cType = .aprd ∧ command.ado = DcRecieveTime.address) := by
  rw [OnNetwork.request] at hrequest
  split at hrequest
  case h_1 | h_2 | h_3 => cases hrequest
  case h_7 count pos heq => exact absurd heq (hstate count pos)
  case h_10 =>
    obtain ⟨first, -, hcommand⟩ := Option.map_eq_some_iff.mp hrequest
    rw [← hcommand]
    exact fun hread => by cases hread.1
  all_goals
    cases hrequest
    exact fun hread => by cases hread.1

/-- The arms other than that of the receive times keep the clock data. -/
lemma network_of_processState {dc dc' : OnNetwork} {recv : Pdu} (hcounted : dc.Counted)
    (hwkc : recv.wkc = dc.expectedWkc)
    (hstate : ∀ count pos, dc.task.state ≠ .calculateDelay count pos)
    (h : dc.processState recv = .ok dc') : dc'.network = dc.network := by
  rw [OnNetwork.processState] at h
  rcases hdc : dc.task.state
  all_goals
    rw [OnNetwork.expectedWkc, hdc] at hwkc
    rw [hdc] at h
    dsimp only at hwkc h
  case idle | error | complete =>
    cases h
    rfl
  case calculateDelay count pos => exact absurd hdc (hstate count pos)
  case clearOffset | clearDelay | requestToLatch =>
    rw [OnNetwork.expectWkc_of_eq hwkc] at h
    cases h
    rfl
  case setOffset pos =>
    rw [OnNetwork.expectWkc_of_eq hwkc] at h
    split at h
    · cases h
      rfl
    · obtain ⟨first, -, heq⟩ := bind_eq_ok.mp h
      cases heq
      rfl
  case setDelay pos =>
    rw [OnNetwork.expectWkc_of_eq hwkc] at h
    split at h
    all_goals
      cases h
      rfl
  case compensateDrift count =>
    rw [OnNetwork.expectWkc_of_eq (by rw [hwkc, hcounted.dcSlaveCount])] at h
    cases h
    split <;> rfl
  case checkDelta =>
    rw [OnNetwork.expectWkc_of_eq (by rw [hwkc, hcounted.dcSlaveCount])] at h
    obtain ⟨delta, -, heq⟩ := bind_eq_ok.mp h
    cases heq
    split <;> rfl

/-- **An accepted response.** -/
lemma computed_of_accepted {start dc dc' : OnNetwork} {log : List Exchange} {exchange : Exchange}
    {time : ℕ} (hprep : Prepared dc) (hcomputed : Computed start dc log)
    (hsends : dc.Sends exchange.sent.command exchange.sent.data)
    (haccepted : exchange.recv.Echoes dc.task.command ∧ exchange.recv.wkc = dc.expectedWkc)
    (h : dc.recieveAndProcess exchange.recv time = .ok dc') :
    Computed start dc' (log ++ [exchange]) := by
  have hfirst := (OnNetwork.moved_recieveAndProcess h).firstDcSlave
  obtain ⟨hechoes, hwkc⟩ := haccepted
  have hfailed : ¬ ∃ e, dc.task.state = .error e := by
    rintro ⟨e, he⟩
    have hrequest := hsends.request
    rw [OnNetwork.request, he] at hrequest
    cases hrequest
  have hlog := hcomputed.foldlM_measure.resolve_left hfailed
  refine ⟨hfirst.trans hcomputed.firstDcSlave_eq, .inr ?_⟩
  rw [List.foldlM_append, hlog, ok_bind, List.foldlM_cons]
  rw [OnNetwork.recieveAndProcess, OnNetwork.checked, if_pos hechoes] at h
  by_cases hstate : ∃ count pos, dc.task.state = .calculateDelay count pos
  · obtain ⟨count, pos, hstate⟩ := hstate
    have hrequest := hsends.request
    rw [OnNetwork.request, hstate] at hrequest
    rw [OnNetwork.expectedWkc, hstate] at hwkc
    rw [OnNetwork.processState, hstate] at h
    dsimp only at hwkc h hrequest
    rw [OnNetwork.expectWkc_of_eq hwkc] at h
    obtain ⟨-, -, -, -, -, -, hpos, -⟩ := OnNetwork.clock_of_processCalculateDelay h
    rw [measure_newRead (by omega) _ _ (Option.some.inj hrequest).symm,
      ← hcomputed.firstDcSlave_eq, measureSlave_of_processCalculateDelay h]
    rfl
  · have hstate' : ∀ count pos, dc.task.state ≠ .calculateDelay count pos :=
      fun count pos heq => hstate ⟨count, pos, heq⟩
    rw [measure, if_neg (not_measures_of_request hsends.request hstate'),
      network_of_processState hprep.counted hwkc hstate' h]
    rfl

/-- **A step.** -/
lemma computed_step {start : OnNetwork} {d d' : Driven OnNetwork} {reply : ClocksReply}
    {log : List Exchange} (hrunning : Running d log) (hcomputed : Computed start d.task log)
    (h : step d reply = .ok d') : Computed start d'.task (log ++ exchanges d reply) := by
  have hnext {dc : OnNetwork} {buf buf' : List UInt8} {pdu : Option (Command × ℕ)}
      {log : List Exchange} (hcomputed : Computed start dc log)
      (hnext : dc.nextPdu buf = .ok ((pdu, buf'), d'.task)) : Computed start d'.task log := by
    obtain ⟨⟨noted, htask⟩, -⟩ := OnNetwork.nextPdu_command hnext
    rw [htask]
    exact ⟨hcomputed.firstDcSlave_eq, hcomputed.foldlM_measure⟩
  rcases exchanges_of_out hrunning.out reply with ⟨hseen, hlog⟩ |
    ⟨sent, recv, hseen, hlog, hsends, -, -⟩
  · obtain ⟨dataBuf, pdu, dataBuf', -, hpdu, -⟩ := step_eq_ok_of_unseen hseen h
    rw [hlog, List.append_nil]
    exact hnext hcomputed hpdu
  · obtain ⟨dataBuf, dc, pdu, dataBuf', -, hrecieve, hpdu, -⟩ := step_eq_ok_of_seen hseen h
    rw [hlog]
    refine hnext ?_ hpdu
    by_cases haccepted : recv.Echoes d.task.task.command ∧ recv.wkc = d.task.expectedWkc
    · exact computed_of_accepted hrunning.prepared hcomputed hsends haccepted hrecieve
    · obtain ⟨e, he⟩ := OnNetwork.recieveAndProcess_of_refused (reply.toReply d.task.network).time
        hrunning.prepared.counted hsends.isBusy haccepted
      cases hrecieve.symm.trans he
      exact ⟨hcomputed.firstDcSlave_eq, .inl ⟨e, rfl⟩⟩

end DcInitTask

end EtherCat
