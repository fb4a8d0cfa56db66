import EtherCat.Task.DcCompensation

/-!
# What a step of `DcInitTask` does

Nothing that the task learns from a response changes how many slaves there are and what is known
about them, so that the number of clocks that `start` has counted stays right.
-/

namespace EtherCat

open Rust Rust.Exec CyclicTask

namespace DcInitTask

/-- The slave at a position has a distributed clock. -/
def hasDc (network : Network) (position : ℕ) : Bool :=
  (network.slaveAt position).any fun slave => slave.info.supportDc

/-- The positions of the slaves with a distributed clock. -/
def dcPositions (network : Network) : List ℕ :=
  (List.range network.numSlaves).filter (hasDc network)

/-- The networks have the same slaves, up to what was measured. -/
structure SameSlaves (network network' : Network) : Prop where
  pushCount : network'.pushCount = network.pushCount
  info : ∀ i, (network'.slaveAt i).map Slave.info = (network.slaveAt i).map Slave.info

lemma SameSlaves.refl (network : Network) : SameSlaves network network := ⟨rfl, fun _ => rfl⟩

lemma SameSlaves.trans {network₁ network₂ network₃ : Network} (h : SameSlaves network₁ network₂)
    (h' : SameSlaves network₂ network₃) : SameSlaves network₁ network₃ :=
  ⟨h'.pushCount.trans h.pushCount, fun i => (h'.info i).trans (h.info i)⟩

lemma SameSlaves.hasDc {network network' : Network} (h : SameSlaves network network') :
    hasDc network' = hasDc network := by
  funext i
  have hinfo := congrArg (Option.any SlaveInfo.supportDc) (h.info i)
  rwa [Option.any_map, Option.any_map] at hinfo

lemma SameSlaves.dcPositions {network network' : Network} (h : SameSlaves network network') :
    dcPositions network' = dcPositions network := by
  rw [DcInitTask.dcPositions, DcInitTask.dcPositions, h.hasDc, Network.numSlaves, h.pushCount]
  rfl

lemma sameSlaves_modifySlave (network : Network) (position : ℕ) {f : Slave → Slave}
    (hf : ∀ slave, (f slave).info = slave.info) :
    SameSlaves network (network.modifySlave position f) := by
  refine ⟨rfl, fun i => ?_⟩
  rw [Network.slaveAt_modifySlave]
  split
  · rw [Option.map_map]
    exact congrArg (fun g => Option.map g _) (funext hf)
  · rfl

lemma sameSlaves_mapSlaves {network network' : Network}
    {f : Slave × SlaveConfig → Exec (Slave × SlaveConfig)}
    (hf : ∀ slot slot', f slot = .ok slot' → slot'.1.info = slot.1.info)
    (h : network.mapSlaves f = .ok network') : SameSlaves network network' := by
  constructor
  · obtain ⟨slaves, -, heq⟩ := bind_eq_ok.mp h
    cases heq
    rfl
  · intro i
    rw [Network.slaveAt, Network.slaveAt]
    rcases Network.mapSlaves_eq_ok h i with ⟨slave, config, slot', hslot, hslot', hnew⟩ |
      ⟨-, hsame⟩
    · rw [hslot, hnew]
      exact congrArg some (hf _ _ hslot')
    · rw [hsame]

/-! ## The number of clocks -/

lemma countDc_eq {network : Network} {count count' i : ℕ} (hlt : i < network.pushCount)
    (hsmall : i < 2 ^ 16) (h : countDc network count i = .ok count') :
    count' = if hasDc network i then count + 1 else count := by
  obtain ⟨found, hfound, h⟩ := bind_eq_ok.mp h
  obtain ⟨⟨slave, config⟩, hunwrap, heq⟩ := bind_eq_ok.mp h
  cases heq
  rw [unwrap_eq_ok_iff] at hunwrap
  subst hunwrap
  have hi : (UInt16.ofNat i).toNat = i := by
    rw [UInt16.toNat_ofNat']
    omega
  have hslave : network.slaveAt i = some slave := by
    rw [Network.slave, Network.position] at hfound
    simp only [hi, hlt, if_true] at hfound
    obtain ⟨⟨slave', config'⟩, hslot, hfound⟩ := bind_eq_ok.mp hfound
    obtain ⟨slave'', hsome, heq⟩ := bind_eq_ok.mp hfound
    cases heq
    rw [unwrap_eq_ok_iff] at hsome
    subst hsome
    exact Network.slaveAt_eq_some_iff.mpr ⟨_, index_eq_ok_iff.mp hslot⟩
  rw [hasDc, hslave]
  rfl

lemma foldlM_countDc {network : Network} {positions : List ℕ}
    (hpositions : ∀ i ∈ positions, i < network.pushCount ∧ i < 2 ^ 16) {count count' : ℕ}
    (h : positions.foldlM (countDc network) count = .ok count') :
    count' = count + (positions.filter (hasDc network)).length := by
  induction positions generalizing count with
  | nil =>
      cases h
      rfl
  | cons i positions ih =>
      rw [List.forall_mem_cons] at hpositions
      rw [List.foldlM_cons] at h
      obtain ⟨count₁, hcount, hrest⟩ := bind_eq_ok.mp h
      rw [ih hpositions.2 hrest, countDc_eq hpositions.1.1 hpositions.1.2 hcount,
        List.filter_cons]
      split
      · simp only [List.length_cons]
        omega
      · omega

/-- `start` counts the clocks. -/
lemma start_dcSlaveCount {network network' : Network} {task : DcInitTask}
    (hsmall : network'.pushCount < 2 ^ 16) (h : start network = .ok (task, network')) :
    task.dcSlaveCount = (dcPositions network').length := by
  obtain ⟨⟨ports, locals⟩, -, h⟩ := bind_eq_ok.mp h
  obtain ⟨count, hcount, heq⟩ := bind_eq_ok.mp h
  cases heq
  have hpositions : ∀ i ∈ List.range ports.network.numSlaves,
      i < ports.network.pushCount ∧ i < 2 ^ 16 := by
    intro i hi
    rw [List.mem_range, Network.numSlaves] at hi
    exact ⟨hi, hi.trans hsmall⟩
  rw [foldlM_countDc hpositions hcount, Nat.zero_add]
  rfl

namespace OnNetwork

/-- The working counter that a step expects: one for a single slave, the number of slaves for a
broadcast, the number of clocks for the drift and the difference. -/
def expectedWkc (dc : OnNetwork) : UInt16 :=
  match dc.task.state with
  | .clearOffset | .clearDelay | .requestToLatch _ => .ofNat dc.network.numSlaves
  | .compensateDrift _ | .checkDelta => .ofNat (dcPositions dc.network).length
  | _ => 1

/-- What a run keeps: the clocks were counted right. -/
structure Counted (dc : OnNetwork) : Prop where
  small : dc.network.pushCount < 2 ^ 16
  dcSlaveCount : dc.task.dcSlaveCount = (dcPositions dc.network).length

/-- The task has gone to another state and may have measured something. -/
structure Moved (dc dc' : OnNetwork) : Prop where
  slaves : SameSlaves dc.network dc'.network
  firstDcSlave : dc'.task.firstDcSlave = dc.task.firstDcSlave
  dcSlaveCount : dc'.task.dcSlaveCount = dc.task.dcSlaveCount
  command : dc'.task.command = dc.task.command

lemma Moved.refl (dc : OnNetwork) : Moved dc dc := ⟨.refl _, rfl, rfl, rfl⟩

lemma moved_goTo (dc : OnNetwork) (state : State) : Moved dc (dc.goTo state) :=
  ⟨.refl _, rfl, rfl, rfl⟩

lemma Moved.goTo {dc dc' : OnNetwork} (h : Moved dc dc') (state : State) :
    Moved dc (dc'.goTo state) := ⟨h.slaves, h.firstDcSlave, h.dcSlaveCount, h.command⟩

lemma Counted.of_moved {dc dc' : OnNetwork} (h : dc.Counted) (hmoved : Moved dc dc') :
    dc'.Counted := by
  constructor
  · rw [hmoved.slaves.pushCount]
    exact h.small
  · rw [hmoved.dcSlaveCount, hmoved.slaves.dcPositions]
    exact h.dcSlaveCount

/-- The command that is noted does not matter. -/
lemma Counted.of_noted {dc : OnNetwork} (h : dc.Counted) (command : Command) :
    Counted { dc with task := { dc.task with command := command } } := ⟨h.small, h.dcSlaveCount⟩

/-! ## The next PDU -/

lemma send_eq_ok {dc dc' : OnNetwork} {command : Command} {size : ℕ}
    {assignments : List (BitField.Field × ℕ)} {buf buf' : List UInt8} {pdu : Option (Command × ℕ)}
    (h : dc.send command size assignments buf = .ok ((pdu, buf'), dc')) :
    pdu = some (command, size) ∧ dc' = { dc with task := { dc.task with command := command } } := by
  obtain ⟨pdu', hrequest, heq⟩ := bind_eq_ok.mp h
  cases heq
  exact ⟨request_pdu hrequest, rfl⟩

/-- The next PDU is noted. -/
lemma nextPdu_command {dc dc' : OnNetwork} {buf buf' : List UInt8} {pdu : Option (Command × ℕ)}
    (h : dc.nextPdu buf = .ok ((pdu, buf'), dc')) :
    (∃ command, dc' = { dc with task := { dc.task with command := command } }) ∧
      ∀ c ∈ pdu.map Prod.fst, c = dc'.task.command := by
  have hsend : ∀ {command size assignments},
      dc.send command size assignments buf = .ok ((pdu, buf'), dc') →
      (∃ command, dc' = { dc with task := { dc.task with command := command } }) ∧
        ∀ c ∈ pdu.map Prod.fst, c = dc'.task.command := by
    intro command size assignments h
    obtain ⟨rfl, rfl⟩ := send_eq_ok h
    exact ⟨⟨_, rfl⟩, fun c hc => (Option.some.inj hc).symm⟩
  unfold nextPdu at h
  split at h
  case h_1 | h_2 | h_3 =>
    cases h
    exact ⟨⟨_, rfl⟩, by rintro c ⟨⟩⟩
  case h_8 | h_9 | h_10 =>
    obtain ⟨_, -, h⟩ := bind_eq_ok.mp h
    exact hsend h
  all_goals exact hsend h

/-! ## A response -/

lemma expectWkc_of_ne {dc : OnNetwork} {expected wkc : UInt16} (h : wkc ≠ expected)
    (next : Exec OnNetwork) :
    dc.expectWkc expected wkc next = .ok (dc.goTo (.error (.unexpectedWkc ⟨expected, wkc⟩))) := by
  rw [expectWkc, if_pos h]

lemma expectWkc_of_eq {dc : OnNetwork} {expected wkc : UInt16} (h : wkc = expected)
    (next : Exec OnNetwork) : dc.expectWkc expected wkc next = next := by
  rw [expectWkc, if_neg (not_not.mpr h)]

lemma moved_expectWkc {dc dc' : OnNetwork} {expected wkc : UInt16} {next : Exec OnNetwork}
    (hnext : ∀ dc', next = .ok dc' → Moved dc dc')
    (h : dc.expectWkc expected wkc next = .ok dc') : Moved dc dc' := by
  by_cases hwkc : wkc = expected
  · rw [expectWkc_of_eq hwkc] at h
    exact hnext _ h
  · rw [expectWkc_of_ne hwkc] at h
    cases h
    exact moved_goTo dc _

lemma moved_endRound {dc dc' : OnNetwork} {count : ℕ} (h : dc.endRound count = .ok dc') :
    Moved dc dc' := by
  obtain ⟨network, hnetwork, heq⟩ := bind_eq_ok.mp h
  have hsame : SameSlaves dc.network network := by
    refine sameSlaves_mapSlaves ?_ hnetwork
    rintro ⟨slave, config⟩ slot' h
    obtain ⟨offset, -, h⟩ := bind_eq_ok.mp h
    obtain ⟨offset', -, heq⟩ := bind_eq_ok.mp h
    cases heq
    rfl
  have hmoved : Moved dc { dc with network := network } := ⟨hsame, rfl, rfl, rfl⟩
  cases heq
  split
  · exact hmoved.goTo _
  · split
    · exact hmoved.goTo _
    · exact hmoved.goTo _

/-- A response with receive times changes the clock data of one slave, or ends the round. -/
lemma processCalculateDelay_eq_ok {dc dc' : OnNetwork} {count pos : ℕ} {data : List UInt8}
    (h : dc.processCalculateDelay count pos data = .ok dc') :
    ∃ context, pos + 1 < 2 ^ 16 ∧
      (let dc₁ : OnNetwork := { dc with
        network := dc.network.modifySlave pos fun slave => { slave with dcContext := context } }
      if pos + 1 < dc.network.numSlaves then
        dc' = dc₁.goTo (.calculateDelay count (pos + 1))
      else dc₁.endRound count = .ok dc') := by
  obtain ⟨slave, -, h⟩ := bind_eq_ok.mp h
  obtain ⟨⟨context₀, firstRecievedPort⟩, -, h⟩ := bind_eq_ok.mp h
  have hrest : ∃ context, addUpTo 16 pos 1 >>= (fun next =>
      let dc₁ : OnNetwork := { dc with
        network := dc.network.modifySlave pos fun slave => { slave with dcContext := context } }
      if next < dc₁.network.numSlaves then .ok (dc₁.goTo (.calculateDelay count next))
      else dc₁.endRound count) = .ok dc' := by
    dsimp only at h
    split at h
    · obtain ⟨context, -, h⟩ := bind_eq_ok.mp h
      exact ⟨context, h⟩
    · exact ⟨context₀, h⟩
  obtain ⟨context, h⟩ := hrest
  obtain ⟨next, hadd, h⟩ := bind_eq_ok.mp h
  obtain ⟨hlt, rfl⟩ := addUpTo_eq_ok_iff.mp hadd
  refine ⟨context, hlt, ?_⟩
  dsimp only at h ⊢
  split at h
  · next hmore =>
      have hmore' : pos + 1 < dc.network.numSlaves := hmore
      rw [if_pos hmore']
      exact (Except.ok.inj h).symm
  · next hmore =>
      have hmore' : ¬ pos + 1 < dc.network.numSlaves := hmore
      rw [if_neg hmore']
      exact h

lemma moved_processCalculateDelay {dc dc' : OnNetwork} {count pos : ℕ} {data : List UInt8}
    (h : dc.processCalculateDelay count pos data = .ok dc') : Moved dc dc' := by
  obtain ⟨context, -, h⟩ := processCalculateDelay_eq_ok h
  have hmoved : Moved dc { dc with
      network := dc.network.modifySlave pos fun slave => { slave with dcContext := context } } :=
    ⟨sameSlaves_modifySlave _ _ fun _ => rfl, rfl, rfl, rfl⟩
  dsimp only at h
  split at h
  · subst h
    exact hmoved.goTo _
  · obtain ⟨hslaves, hfirst, hcount, hcommand⟩ := moved_endRound h
    exact ⟨hmoved.slaves.trans hslaves, hfirst, hcount, hcommand⟩

/-- **No response changes the slaves.** -/
lemma moved_recieveAndProcess {dc dc' : OnNetwork} {recv : Pdu} {time : ℕ}
    (h : dc.recieveAndProcess recv time = .ok dc') : Moved dc dc' := by
  have hchecked : Moved dc (dc.checked recv) := by
    unfold checked
    split
    · exact .refl dc
    · exact moved_goTo dc _
  have hstate : Moved (dc.checked recv) dc' := by
    unfold recieveAndProcess processState at h
    dsimp only at h
    split at h
    case h_1 | h_2 | h_3 =>
      cases h
      exact .refl _
    case h_4 | h_5 | h_6 =>
      refine moved_expectWkc (fun dc' h => ?_) h
      cases h
      exact moved_goTo _ _
    case h_7 => exact moved_expectWkc (fun dc' h => moved_processCalculateDelay h) h
    case h_8 =>
      refine moved_expectWkc (fun dc' h => ?_) h
      split at h
      · cases h
        exact moved_goTo _ _
      · obtain ⟨first, -, heq⟩ := bind_eq_ok.mp h
        cases heq
        exact moved_goTo _ _
    case h_9 =>
      refine moved_expectWkc (fun dc' h => ?_) h
      split at h
      all_goals
        cases h
        exact moved_goTo _ _
    case h_10 =>
      refine moved_expectWkc (fun dc' h => ?_) h
      cases h
      split
      all_goals exact moved_goTo _ _
    case h_11 =>
      refine moved_expectWkc (fun dc' h => ?_) h
      obtain ⟨delta, -, heq⟩ := bind_eq_ok.mp h
      cases heq
      split
      all_goals exact moved_goTo _ _
  exact ⟨hchecked.slaves.trans hstate.slaves, hstate.firstDcSlave.trans hchecked.firstDcSlave,
    hstate.dcSlaveCount.trans hchecked.dcSlaveCount, hstate.command.trans hchecked.command⟩

/-- A busy task refuses a response with another command or another working counter. -/
lemma recieveAndProcess_of_refused {dc : OnNetwork} {recv : Pdu} (time : ℕ) (hcounted : dc.Counted)
    (hbusy : dc.isBusy = true)
    (hrefused : ¬ (recv.Echoes dc.task.command ∧ recv.wkc = dc.expectedWkc)) :
    ∃ e, dc.recieveAndProcess recv time = .ok (dc.goTo (.error e)) := by
  by_cases hechoes : recv.Echoes dc.task.command
  · have hwkc : recv.wkc ≠ dc.expectedWkc := fun hwkc => hrefused ⟨hechoes, hwkc⟩
    rw [recieveAndProcess, checked, if_pos hechoes]
    unfold isBusy at hbusy
    unfold expectedWkc at hwkc
    rw [← hcounted.dcSlaveCount] at hwkc
    rcases hstate : dc.task.state
    case idle | error | complete =>
      rw [hstate] at hbusy
      cases hbusy
    all_goals
      rw [hstate] at hwkc
      rw [processState, hstate]
      exact ⟨_, expectWkc_of_ne hwkc _⟩
  · refine ⟨.unexpectedCommand, ?_⟩
    rw [recieveAndProcess, checked, if_neg hechoes]
    rfl

end OnNetwork

end DcInitTask

end EtherCat
