import EtherCat.Task.DcDelays

/-!
# The measurement of a line

From `start` to the end of the eighth round no step fails while the slaves show the times of a
frame that travels down and back the line; behind it the delay of the slave at a position is right
up to one nanosecond for each link before it (`delays_of_line`).  `Measuring` is what holds in the
middle of a round: the slaves before the current position have their receive times of the round.
-/

namespace EtherCat

open Rust Rust.Exec BitField CyclicTask

namespace DcInitTask

/-! ## Lines -/

/-- The slaves form a line of so many links, and their parents are known. -/
structure OnLine (network : Network) (links : ℕ) : Prop where
  filled : network.Filled
  count : network.pushCount = links + 1
  ports : ∀ i ≤ links, ∃ slave down up, network.slaveAt i = some slave ∧
    portNumbers slave.info.linkedPorts = (if i < links then [down, up] else [down]) ∧
    (i < links → network.parentPort (i + 1) = some (i, down))

lemma OnLine.of_same {network network' : Network} {links : ℕ} (h : OnLine network links)
    (hsame : SameSlaves network network')
    (hparent : ∀ i, network'.parentPort i = network.parentPort i) : OnLine network' links := by
  refine ⟨hsame.filled h.filled, hsame.pushCount.trans h.count, fun i hi => ?_⟩
  obtain ⟨slave, down, up, hslave, hports, hnext⟩ := h.ports i hi
  have hinfo := hsame.info i
  rw [hslave, Option.map_some] at hinfo
  obtain ⟨slave', hslave', heq⟩ := Option.map_eq_some_iff.mp hinfo
  exact ⟨slave', down, up, hslave', by rw [heq]; exact hports,
    fun hlt => (hparent (i + 1)).trans (hnext hlt)⟩

/-- A tree without a node with two children is a line behind `start`. -/
lemma onLine_of_start {network network' : Network} {entry : ℕ} {tree : Tour.Branches}
    (htree : network.HasTree entry tree) (hline : tree.IsLine)
    (hsame : SameSlaves network network')
    (hparents : ∀ i < tree.size, network'.parentPort (i + 1) = (tree.parents 0 1 entry)[i]?) :
    OnLine network' tree.size := by
  have hfilled : network.Filled := ⟨htree.slaveAt_isSome_iff, htree.small⟩
  refine ⟨hsame.filled hfilled, hsame.pushCount.trans htree.count, fun i hi => ?_⟩
  obtain ⟨down, up, hports, hparent⟩ := Tour.Branches.exists_ports_of_isLine hline 0 entry hi
  have hinfo := congrArg (Option.map fun info : SlaveInfo => portNumbers info.linkedPorts)
    (hsame.info i)
  rw [Option.map_map, Option.map_map] at hinfo
  obtain ⟨slave, hslave, heq⟩ :=
    Option.map_eq_some_iff.mp (hinfo.trans ((htree.ports i).trans hports))
  refine ⟨slave, down, up, hslave, heq, fun hlt => ?_⟩
  rw [hparents i hlt, hparent hlt, Nat.zero_add]

/-! ## A round -/

/-- **The middle of a round.**  Every slave has no delay yet or a good one; the slaves before the
position have the receive times of the round and a good delay. -/
structure Measuring (links : List ℕ) (entered : ℕ → UInt32) (pos : ℕ) (network : Network) :
    Prop where
  line : OnLine network links.length
  fresh : ∀ i slave, network.slaveAt i = some slave →
    slave.dcContext.delay = 0 ∨ Good links i slave.dcContext
  measured : ∀ i < pos, ∀ slave, network.slaveAt i = some slave →
    Good links i slave.dcContext ∧
      StoresTimes slave.info.linkedPorts slave.dcContext (entered i) (loopBehind links i)

/-- Behind a round all delays are good. -/
structure AllGood (links : List ℕ) (network : Network) : Prop where
  line : OnLine network links.length
  good : ∀ i slave, network.slaveAt i = some slave → Good links i slave.dcContext

lemma AllGood.measuring {links : List ℕ} {network : Network} (h : AllGood links network)
    (entered : ℕ → UInt32) : Measuring links entered 0 network :=
  ⟨h.line, fun i slave hslave => .inr (h.good i slave hslave), fun i hi => absurd hi (by omega)⟩

/-- The first slave has no delay. -/
lemma good_zero {links : List ℕ} {dc : DcContext} (h : dc.delay = 0 ∨ Good links 0 dc) :
    Good links 0 dc := by
  rcases h with hzero | hgood
  · rw [Good, hzero]
    exact ⟨Nat.le_refl _, Nat.le_refl _⟩
  · exact hgood

/-- The slave at the position is measured. -/
lemma measuring_withClock {links : List ℕ} {entered : ℕ → UInt32} {pos : ℕ} {dc : OnNetwork}
    {slave : Slave} {context : DcContext} (h : Measuring links entered pos dc.network)
    (hslave : dc.network.slaveAt pos = some slave)
    (hparent : context.parentPort = slave.dcContext.parentPort)
    (hgood : Good links pos context)
    (hstores : StoresTimes slave.info.linkedPorts context (entered pos) (loopBehind links pos)) :
    Measuring links entered (pos + 1) (dc.withClock pos context).network := by
  have hat : ∀ i, (dc.withClock pos context).network.slaveAt i =
      if pos = i then some { slave with dcContext := context } else dc.network.slaveAt i := by
    intro i
    rw [OnNetwork.withClock, Network.slaveAt_modifySlave]
    split
    · next heq =>
        rw [← heq, hslave]
        rfl
    · rfl
  refine ⟨h.line.of_same (sameSlaves_modifySlave _ _ fun _ => rfl) fun i => ?_, ?_, ?_⟩
  · rw [Network.parentPort, Network.parentPort, hat]
    split
    · next heq =>
        rw [← heq, hslave]
        exact hparent
    · rfl
  · intro i slave' hslave'
    rw [hat] at hslave'
    split at hslave'
    · next heq =>
        cases hslave'
        subst heq
        exact .inr hgood
    · exact h.fresh i slave' hslave'
  · intro i hi slave' hslave'
    rw [hat] at hslave'
    split at hslave'
    · next heq =>
        cases hslave'
        subst heq
        exact ⟨hgood, hstores⟩
    · next hne => exact h.measured i (by omega) slave' hslave'

/-- **A slave of a round.**  Its receive times are accepted, and its delay is good. -/
lemma exists_measuring_withClock {links : List ℕ} {entered : ℕ → UInt32} {pos : ℕ}
    {dc : OnNetwork} {slave : Slave} {data : List UInt8} (hloop : 2 * links.sum < 2 ^ 32)
    (hfirst : dc.task.firstDcSlave = some 0) (h : Measuring links entered pos dc.network)
    (hpos : pos ≤ links.length) (hslave : dc.network.slaveAt pos = some slave)
    (hdata : DcRecieveTime.size ≤ data.length)
    (hshows : ShowsTimes slave.info.linkedPorts data (entered pos) (loopBehind links pos)) :
    ∃ latched context, latch slave data = .ok latched ∧
      dc.clockBehind pos slave latched = .ok context ∧
      Measuring links entered (pos + 1) (dc.withClock pos context).network := by
  obtain ⟨slave', down, up, hslave', hports, -⟩ := h.line.ports pos hpos
  cases hslave.symm.trans hslave'
  have hfirstPort : firstPort slave.info.linkedPorts = some down := by
    rw [firstPort_eq_head?, hports]
    split <;> rfl
  let latched : DcContext := { slave.dcContext with
    recievedPortTime := portTimes data
    latchedLocalSysTime := (UInt32.ofNat ((DcRecieveTime.receiveTimePort down).val data)).toUInt64 }
  have hlatched : latch slave data = .ok (latched, down) :=
    (latch_eq_ok_iff hdata).mpr ⟨hfirstPort, rfl⟩
  have hstores : StoresTimes slave.info.linkedPorts latched (entered pos) (loopBehind links pos) :=
    hshows.stores rfl
  have hfresh : latched.delay = 0 ∨ Good links pos latched := h.fresh pos slave hslave
  rcases pos with _ | i
  · refine ⟨_, latched, hlatched, ?_, measuring_withClock h hslave rfl (good_zero hfresh) hstores⟩
    rw [OnNetwork.clockBehind, hfirst]
    rfl
  · -- The parent was measured before in this round.
    obtain ⟨parent, parentDown, parentUp, hparent, hparentPorts, hnext⟩ :=
      h.line.ports i (by omega)
    have hi : i < links.length := hpos
    rw [if_pos hi] at hparentPorts
    obtain ⟨hparentGood, hparentStores⟩ := h.measured i (Nat.lt_succ_self i) parent hparent
    have hparentPort : slave.dcContext.parentPort = some (i, parentDown) := by
      have heq := hnext hi
      rwa [Network.parentPort, hslave] at heq
    have hsmall := h.line.filled.small
    have hcount := h.line.count
    obtain ⟨inner, hinner, hinner'⟩ := innerLoopDuration_of_stores hpos hports hstores hloop
    obtain ⟨outer, houter, houter'⟩ := outerLoopDuration_of_stores hparentPorts hparentStores hloop
    obtain ⟨delay, hmeasure, hgood⟩ := good_of_measureDelay hi hloop
      (show latched.parentPort = _ from hparentPort)
      ((slaveOf_eq_ok_iff h.line.filled (by omega)).mpr hparent) hinner hinner' houter houter'
      hparentGood hfresh
    refine ⟨_, { latched with delay := delay }, hlatched, ?_, ?_⟩
    · rw [OnNetwork.clockBehind, hfirst]
      exact hmeasure
    · exact measuring_withClock h hslave rfl hgood ⟨hstores.down, hstores.up⟩

/-- All slaves are measured. -/
lemma Measuring.allGood {links : List ℕ} {entered : ℕ → UInt32} {network : Network}
    (h : Measuring links entered (links.length + 1) network) : AllGood links network := by
  refine ⟨h.line, fun i slave hslave => (h.measured i ?_ slave hslave).1⟩
  have hlt := (h.line.filled.isSome_iff i).mp (by rw [hslave]; rfl)
  rwa [h.line.count] at hlt

/-- The end of a round keeps the delays. -/
lemma AllGood.endRound {links : List ℕ} {dc : OnNetwork} (h : AllGood links dc.network)
    (count : ℕ) :
    ∃ network, dc.endRound count =
        .ok ({ dc with network := network }.goTo (dc.behindRound count)) ∧
      AllGood links network := by
  obtain ⟨network, hend, hpush, hat⟩ := OnNetwork.endRound_eq h.line.filled count
  refine ⟨network, hend, h.line.of_same ⟨hpush, fun i => ?_⟩ fun i => ?_, ?_⟩
  · rw [hat, Option.map_map]
    rfl
  · rw [Network.parentPort, Network.parentPort, hat]
    rcases dc.network.slaveAt i with _ | slave <;> rfl
  · intro i slave hslave
    rw [hat] at hslave
    obtain ⟨slave', hslave', rfl⟩ := Option.map_eq_some_iff.mp hslave
    exact h.good i slave' hslave'

/-! ## The run -/

/-- What holds while the line is measured, and behind the last round. -/
structure OnCourse (links : List ℕ) (entered : ℕ → ℕ → UInt32) (dc : OnNetwork) : Prop where
  firstDcSlave : dc.task.firstDcSlave = some 0
  network : match dc.task.state with
    | .clearOffset | .clearDelay => Measuring links (entered 0) 0 dc.network
    | .requestToLatch count => count < countMax ∧ Measuring links (entered count) 0 dc.network
    | .calculateDelay count pos =>
      count < countMax ∧ pos ≤ links.length ∧ Measuring links (entered count) pos dc.network
    | .setOffset first => first = 0 ∧ AllGood links dc.network
    | _ => False

/-- The responses that are left until the last round of so many links is over. -/
def left (links : ℕ) : State → ℕ
  | .clearOffset => 2 + countMax * (links + 2)
  | .clearDelay => 1 + countMax * (links + 2)
  | .requestToLatch count => (countMax - count) * (links + 2)
  | .calculateDelay count pos => (countMax - count) * (links + 2) - (1 + pos)
  | _ => 0

/-- A round has one response for the latching and one for every slave. -/
lemma left_round {count : ℕ} (hcount : count < countMax) (links : ℕ) :
    (countMax - count) * (links + 2) = (countMax - (count + 1)) * (links + 2) + (links + 2) := by
  have hsucc : countMax - count = (countMax - (count + 1)) + 1 := by omega
  rw [hsucc, Nat.succ_mul]

/-- **The frame travels down and back the line.**  Its responses are as the task expects them, and
the slaves show when it came by; `entered` is the time at which it entered a slave in a round, on
the clock of the slave. -/
structure Travels (links : List ℕ) (entered : ℕ → ℕ → UInt32) (d : Driven OnNetwork)
    (reply : Reply) : Prop where
  accepted : ∀ recv, d.seen reply = some recv →
    recv.Echoes d.task.task.command ∧ recv.wkc = d.task.expectedWkc
  times : ∀ recv, d.seen reply = some recv → ∀ count pos,
    d.task.task.state = .calculateDelay count pos → ∀ slave,
      d.task.network.slaveAt pos = some slave →
      ShowsTimes slave.info.linkedPorts recv.data (entered count pos) (loopBehind links pos)

instance (linkedPorts : Vector Bool 4) (data : List UInt8) (entered : UInt32) (duration : ℕ) :
    Decidable (ShowsTimes linkedPorts data entered duration) :=
  decidable_of_iff ((∀ port ∈ (portNumbers linkedPorts)[0]?,
      (DcRecieveTime.receiveTimePort port).val data = entered.toNat) ∧
    ∀ port ∈ (portNumbers linkedPorts)[1]?,
      (DcRecieveTime.receiveTimePort port).val data = (entered + .ofNat duration).toNat)
    ⟨fun h => ⟨h.1, h.2⟩, fun h => ⟨h.down, h.up⟩⟩

/-- What a response has to show in a state. -/
def showsIn (links : List ℕ) (entered : ℕ → ℕ → UInt32) (dc : OnNetwork) (data : List UInt8) :
    Bool :=
  match dc.task.state with
  | .calculateDelay count pos => (dc.network.slaveAt pos).all fun slave =>
    decide (ShowsTimes slave.info.linkedPorts data (entered count pos) (loopBehind links pos))
  | _ => true

lemma travels_iff (links : List ℕ) (entered : ℕ → ℕ → UInt32) (d : Driven OnNetwork)
    (reply : Reply) :
    Travels links entered d reply ↔ ∀ recv ∈ d.seen reply,
      (recv.Echoes d.task.task.command ∧ recv.wkc = d.task.expectedWkc) ∧
        showsIn links entered d.task recv.data = true := by
  constructor
  · rintro ⟨haccepted, htimes⟩ recv hrecv
    refine ⟨haccepted recv hrecv, ?_⟩
    unfold showsIn
    split
    · next count pos hstate =>
        rw [Option.all_eq_true]
        exact fun slave hslave => decide_eq_true (htimes recv hrecv count pos hstate slave hslave)
    · rfl
  · intro h
    refine ⟨fun recv hrecv => (h recv hrecv).1, fun recv hrecv count pos hstate slave hslave => ?_⟩
    have hshows := (h recv hrecv).2
    rw [showsIn, hstate] at hshows
    exact of_decide_eq_true ((Option.all_eq_true _ _).mp hshows slave hslave)

instance (links : List ℕ) (entered : ℕ → ℕ → UInt32) (d : Driven OnNetwork) (reply : Reply) :
    Decidable (Travels links entered d reply) :=
  decidable_of_iff _ (travels_iff links entered d reply).symm

/-- The last slave of a round. -/
lemma onCourse_endRound {links : List ℕ} (entered : ℕ → ℕ → UInt32) (dc : OnNetwork) {count : ℕ}
    (hfirst : dc.task.firstDcSlave = some 0) (hcount : count < countMax)
    (hgood : AllGood links dc.network) :
    ∃ dc', dc.endRound count = .ok dc' ∧ OnCourse links entered dc' ∧
      left links.length dc'.task.state = (countMax - (count + 1)) * (links.length + 2) := by
  obtain ⟨network, hend, hgood'⟩ := hgood.endRound count
  have hbehind : dc.behindRound count =
      if count + 1 < countMax then .requestToLatch (count + 1) else .setOffset 0 := by
    rw [OnNetwork.behindRound, hfirst]
  rw [hbehind] at hend
  by_cases hmore : count + 1 < countMax
  · rw [if_pos hmore] at hend
    exact ⟨_, hend, ⟨hfirst, hmore, hgood'.measuring _⟩, rfl⟩
  · have hzero : countMax - (count + 1) = 0 := by omega
    rw [if_neg hmore] at hend
    refine ⟨_, hend, ⟨hfirst, rfl, hgood'⟩, ?_⟩
    rw [hzero, Nat.zero_mul]
    rfl

/-- The receive times of a slave of the line. -/
lemma onCourse_processCalculateDelay {links : List ℕ} {entered : ℕ → ℕ → UInt32} {dc : OnNetwork}
    {count pos : ℕ} {data : List UInt8} (hloop : 2 * links.sum < 2 ^ 32)
    (hfirst : dc.task.firstDcSlave = some 0) (hcount : count < countMax)
    (hpos : pos ≤ links.length) (h : Measuring links (entered count) pos dc.network)
    (hdata : DcRecieveTime.size ≤ data.length)
    (htimes : ∀ slave, dc.network.slaveAt pos = some slave →
      ShowsTimes slave.info.linkedPorts data (entered count pos) (loopBehind links pos)) :
    ∃ dc', dc.processCalculateDelay count pos data = .ok dc' ∧ OnCourse links entered dc' ∧
      (countMax - count) * (links.length + 2) - (1 + pos) =
        left links.length dc'.task.state + 1 := by
  have hsmall := h.line.filled.small
  have hnum := h.line.count
  have hround := left_round hcount links.length
  obtain ⟨slave, -, -, hslave, -, -⟩ := h.line.ports pos hpos
  obtain ⟨latched, context, hlatched, hclock, h'⟩ :=
    exists_measuring_withClock hloop hfirst h hpos hslave hdata (htimes slave hslave)
  rw [OnNetwork.processCalculateDelay_of_clock
    ((slaveOf_eq_ok_iff h.line.filled (by omega)).mpr hslave) hlatched hclock (by omega)]
  unfold OnNetwork.afterSlave
  split
  · next hmore =>
      have hmore' : pos + 1 < links.length + 1 := hnum ▸ hmore
      refine ⟨_, rfl, ⟨hfirst, hcount, Nat.le_of_lt_succ hmore', h'⟩, ?_⟩
      change _ = (countMax - count) * (links.length + 2) - (1 + (pos + 1)) + 1
      omega
  · next hlast =>
      have hlast' : ¬ pos + 1 < links.length + 1 := hnum ▸ hlast
      obtain rfl : pos = links.length := by omega
      obtain ⟨dc', hend, hcourse, hleft⟩ :=
        onCourse_endRound entered (dc.withClock links.length context) hfirst hcount h'.allGood
      refine ⟨dc', hend, hcourse, ?_⟩
      omega

/-- **A response of the line.** -/
lemma onCourse_recieveAndProcess {links : List ℕ} {entered : ℕ → ℕ → UInt32} {dc : OnNetwork}
    {recv : Pdu} (hloop : 2 * links.sum < 2 ^ 32) (h : OnCourse links entered dc)
    (hleft : 0 < left links.length dc.task.state) (hechoes : recv.Echoes dc.task.command)
    (hwkc : recv.wkc = dc.expectedWkc)
    (htimes : ∀ count pos, dc.task.state = .calculateDelay count pos →
      DcRecieveTime.size ≤ recv.data.length ∧ ∀ slave, dc.network.slaveAt pos = some slave →
        ShowsTimes slave.info.linkedPorts recv.data (entered count pos) (loopBehind links pos))
    (time : ℕ) :
    ∃ dc', dc.recieveAndProcess recv time = .ok dc' ∧ OnCourse links entered dc' ∧
      left links.length dc.task.state = left links.length dc'.task.state + 1 := by
  obtain ⟨hfirst, hnetwork⟩ := h
  rw [OnNetwork.recieveAndProcess, OnNetwork.checked, if_pos hechoes, OnNetwork.processState]
  unfold OnNetwork.expectedWkc at hwkc
  rcases hstate : dc.task.state
  all_goals rw [hstate] at hnetwork hwkc hleft
  case idle | error | compensateDrift | checkDelta | complete | setDelay => cases hnetwork
  case setOffset => exact absurd hleft (Nat.lt_irrefl 0)
  case clearOffset =>
    exact ⟨_, OnNetwork.expectWkc_of_eq hwkc _, ⟨hfirst, hnetwork⟩, by
      change 2 + countMax * (links.length + 2) = 1 + countMax * (links.length + 2) + 1
      omega⟩
  case clearDelay =>
    exact ⟨_, OnNetwork.expectWkc_of_eq hwkc _, ⟨hfirst, by decide, hnetwork⟩, by
      change 1 + countMax * (links.length + 2) = (countMax - 0) * (links.length + 2) + 1
      rw [Nat.sub_zero, Nat.add_comm]⟩
  case requestToLatch count =>
    have hround := left_round hnetwork.1 links.length
    exact ⟨_, OnNetwork.expectWkc_of_eq hwkc _,
      ⟨hfirst, hnetwork.1, Nat.zero_le _, hnetwork.2⟩, by
        change (countMax - count) * (links.length + 2) =
          (countMax - count) * (links.length + 2) - (1 + 0) + 1
        omega⟩
  case calculateDelay count pos =>
    obtain ⟨hdata, hshows⟩ := htimes count pos hstate
    obtain ⟨dc', hprocess, hcourse⟩ := onCourse_processCalculateDelay hloop hfirst hnetwork.1
      hnetwork.2.1 hnetwork.2.2 hdata hshows
    exact ⟨dc', (OnNetwork.expectWkc_of_eq hwkc _).trans hprocess, hcourse⟩

/-- A PDU that fits into the buffer. -/
lemma exists_send (dc : OnNetwork) (command : Command) {size : ℕ}
    (assignments : List (Field × ℕ)) {dataBuf : List UInt8} (hsize : size ≤ dataBuf.length)
    (hfits : ∀ f ∈ assignments.map Prod.fst, ∀ data : List UInt8,
      data.length = size → f.Fits data) :
    ∃ dataBuf', dc.send command size assignments dataBuf =
        .ok ((some (command, size), dataBuf'),
          { dc with task := { dc.task with command := command } }) ∧
      dataBuf'.length = dataBuf.length := by
  have hwrite : ∀ data : List UInt8, data.length = size →
      ∃ data', Field.setAll data assignments = .ok data' := fun data hdata =>
    ⟨_, Field.setAll_eq_ok_iff.mpr ⟨fun f hf => hfits f hf data hdata, rfl⟩⟩
  obtain ⟨dataBuf', hrequest⟩ := request_eq_ok command hsize hwrite
  exact ⟨dataBuf', by rw [OnNetwork.send, hrequest, ok_bind], length_request hrequest⟩

/-- The PDU of the task is out. -/
structure Asks (links : List ℕ) (entered : ℕ → ℕ → UInt32) (d : Driven OnNetwork) : Prop where
  course : OnCourse links entered d.task
  out : ∃ command size dataBuf, d.socket = .store (some (command, size)) dataBuf ∧
    requiredBufferSize ≤ dataBuf.length ∧ size ≤ requiredBufferSize ∧
    ∀ count pos, d.task.task.state = .calculateDelay count pos → size = DcRecieveTime.size

/-- The command that is noted does not matter. -/
lemma OnCourse.of_noted {links : List ℕ} {entered : ℕ → ℕ → UInt32} {dc : OnNetwork}
    (h : OnCourse links entered dc) (command : Command) :
    OnCourse links entered { dc with task := { dc.task with command := command } } :=
  ⟨h.firstDcSlave, h.network⟩

/-- The next PDU fits into a buffer of the required size. -/
lemma exists_asks {links : List ℕ} {entered : ℕ → ℕ → UInt32} {dc : OnNetwork}
    {dataBuf : List UInt8} (h : OnCourse links entered dc)
    (hdataBuf : requiredBufferSize ≤ dataBuf.length) :
    ∃ d, Driven.ask dc dataBuf = .ok d ∧ Asks links entered d ∧
      d.task.task.state = dc.task.state := by
  have hsend : ∀ command size assignments, size ≤ requiredBufferSize →
      (∀ f ∈ assignments.map Prod.fst, ∀ data : List UInt8, data.length = size → f.Fits data) →
      (∀ count pos, dc.task.state = .calculateDelay count pos → size = DcRecieveTime.size) →
      dc.nextPdu dataBuf = dc.send command size assignments dataBuf →
      ∃ d, Driven.ask dc dataBuf = .ok d ∧ Asks links entered d ∧
        d.task.task.state = dc.task.state := by
    intro command size assignments hsize hfits hmeasure hnext
    obtain ⟨dataBuf', hsent, hlength⟩ :=
      exists_send dc command assignments (hsize.trans hdataBuf) hfits
    refine ⟨⟨_, .store (some (command, size)) dataBuf'⟩, ?_,
      ⟨h.of_noted command, command, size, dataBuf', rfl, hlength ▸ hdataBuf, hsize, hmeasure⟩, rfl⟩
    rw [Driven.ask]
    change dc.nextPdu dataBuf >>= _ = _
    rw [hnext, hsent]
    rfl
  obtain ⟨hfirst, hnetwork⟩ := h
  rcases hstate : dc.task.state
  all_goals rw [hstate] at hnetwork hsend
  case idle | error | compensateDrift | checkDelta | complete | setDelay => cases hnetwork
  case clearOffset =>
    exact hsend _ DcSystemTimeOffset.size [] (by decide) (by simp) (by simp)
      (by rw [OnNetwork.nextPdu, hstate])
  case clearDelay =>
    exact hsend _ DcSystemTimeTransmissionDelay.size [] (by decide) (by simp) (by simp)
      (by rw [OnNetwork.nextPdu, hstate])
  case requestToLatch =>
    exact hsend _ DcRecieveTime.size [] (by decide) (by simp) (by simp)
      (by rw [OnNetwork.nextPdu, hstate])
  case calculateDelay =>
    exact hsend _ DcRecieveTime.size [] (by decide) (by simp) (fun _ _ _ => rfl)
      (by rw [OnNetwork.nextPdu, hstate])
  case setOffset first =>
    obtain ⟨rfl, hgood⟩ := hnetwork
    obtain ⟨slave, -, -, hslave, -, -⟩ := hgood.line.ports 0 (Nat.zero_le _)
    refine hsend (.newWrite (.single (.slavePosition (.ofNat 0))) DcSystemTimeOffset.address)
      DcSystemTimeOffset.size
      [(DcSystemTimeOffset.systemTimeOffset, slave.dcContext.offset.toNat)] (by decide) ?_
      (by simp) ?_
    · intro f hf data hdata
      rw [List.mem_singleton.mp hf]
      change 63 / 8 < data.length
      rw [hdata]
      decide
    · rw [OnNetwork.nextPdu, hstate]
      dsimp only
      rw [(slaveOf_eq_ok_iff hgood.line.filled (by decide)).mpr hslave, ok_bind]

/-- **A step.** -/
lemma asks_step {links : List ℕ} {entered : ℕ → ℕ → UInt32} {d : Driven OnNetwork} {reply : Reply}
    (hloop : 2 * links.sum < 2 ^ 32) (h : Asks links entered d)
    (hleft : 0 < left links.length d.task.task.state) (htravels : Travels links entered d reply) :
    ∃ d', d.step reply = .ok d' ∧ Asks links entered d' ∧
      left links.length d.task.task.state = left links.length d'.task.task.state + 1 := by
  obtain ⟨dc, socket⟩ := d
  obtain ⟨hcourse, command, size, dataBuf, hsocket, hdataBuf, hsize, hmeasure⟩ := h
  dsimp only at hcourse hsocket hmeasure hleft
  subst hsocket
  have hfits : size ≤ dataBuf.length := hsize.trans hdataBuf
  have hseen : (⟨dc, .store (some (command, size)) dataBuf⟩ : Driven OnNetwork).seen reply =
      some (Driven.shown command size dataBuf reply) := Driven.seen_of_asking hfits reply
  obtain ⟨hechoes, hwkc⟩ := htravels.accepted _ hseen
  obtain ⟨dc', hrecieve, hcourse', hcount⟩ :=
    onCourse_recieveAndProcess hloop hcourse hleft hechoes hwkc (fun count pos hstate => by
      refine ⟨?_, htravels.times _ hseen count pos hstate⟩
      rw [Driven.length_shown hfits, hmeasure count pos hstate]) reply.time
  have hlength : requiredBufferSize ≤ (Driven.answered command size dataBuf reply).length := by
    rwa [Driven.length_answered]
  obtain ⟨d', hask, hasks, hstate⟩ := exists_asks hcourse' hlength
  refine ⟨d', ?_, hasks, ?_⟩
  · rw [Driven.step_of_asking hfits]
    change dc.recieveAndProcess _ _ >>= _ = _
    rw [hrecieve, ok_bind, hask]
  · rw [hcount, hstate]

/-! ## All rounds -/

/-- `start` on a line of slaves with distributed clocks. -/
lemma exists_onCourse_of_start {network : Network} {entry : ℕ} {tree : Tour.Branches}
    (htree : network.HasTree entry tree) (hline : tree.IsLine)
    (hdc : ∀ i < network.numSlaves, hasDc network i = true) {links : List ℕ}
    (hlinks : links.length = tree.size) (entered : ℕ → ℕ → UInt32) :
    ∃ task network', start network = .ok (task, network') ∧ task.state = .clearOffset ∧
      OnCourse links entered ⟨task, network'⟩ := by
  obtain ⟨task, network', hstart, hparents⟩ := start_of_isLine htree hline
  have hfilled : network.Filled := ⟨htree.slaveAt_isSome_iff, htree.small⟩
  have htour : ∀ i < network.pushCount,
      ∃ port, (i, port) ∈ (0, entry) :: tree.tour 0 1 := by
    intro i hi
    rw [htree.count] at hi
    rcases i with _ | i
    · exact ⟨entry, List.mem_cons_self⟩
    · obtain ⟨port, hmem⟩ := tree.exists_mem_tour (Nat.succ_le_succ (Nat.zero_le i))
        (by omega : i + 1 < 1 + tree.size)
      exact ⟨port, List.mem_cons_of_mem _ hmem⟩
  obtain ⟨hfirst, hsame, hstate⟩ := start_firstDcSlave hfilled
    (htree.recievedPorts_eq_tour_iff.mpr hline) htour hstart
  have hhead : (dcPositions network').head? = some 0 := by
    have hall : dcPositions network = List.range network.numSlaves :=
      List.filter_eq_self.mpr fun i hi => hdc i (List.mem_range.mp hi)
    rw [hsame.dcPositions, hall, Network.numSlaves, htree.count, List.range_succ_eq_map]
    rfl
  have hmeasuring : Measuring links (entered 0) 0 network' := by
    refine ⟨?_, fun i slave hslave => .inl ?_, fun i hi => absurd hi (Nat.not_lt_zero i)⟩
    · rw [hlinks]
      exact onLine_of_start htree hline hsame hparents
    · exact (start_unmeasured hstart i slave.dcContext (by rw [clockAt, hslave]; rfl)).1
  refine ⟨task, network', hstart, hstate, hfirst.trans hhead, ?_⟩
  dsimp only
  rw [hstate]
  exact hmeasuring

/-- Nothing is left behind the last round. -/
lemma allGood_of_left_eq_zero {links : List ℕ} {entered : ℕ → ℕ → UInt32} {dc : OnNetwork}
    (h : OnCourse links entered dc) (hleft : left links.length dc.task.state = 0) :
    dc.task.state = .setOffset 0 ∧ AllGood links dc.network := by
  obtain ⟨-, hnetwork⟩ := h
  rcases hdone : dc.task.state
  all_goals rw [hdone] at hnetwork hleft
  case setOffset first =>
    obtain ⟨rfl, hgood⟩ := hnetwork
    exact ⟨rfl, hgood⟩
  case requestToLatch count =>
    have hround := left_round hnetwork.1 links.length
    rw [left] at hleft
    omega
  case calculateDelay count pos =>
    have hround := left_round hnetwork.1 links.length
    have hpos := hnetwork.2.1
    rw [left] at hleft
    omega
  case clearOffset | clearDelay =>
    rw [left] at hleft
    omega
  case idle | error | compensateDrift | checkDelta | complete | setDelay => cases hnetwork

/-- A run from the beginning. -/
lemma exists_run_of_onCourse {links : List ℕ} {entered : ℕ → ℕ → UInt32} {dc : OnNetwork}
    (hloop : 2 * links.sum < 2 ^ 32) (hcourse : OnCourse links entered dc)
    (hstate : dc.task.state = .clearOffset) {dataBuf : List UInt8}
    (hdataBuf : requiredBufferSize ≤ dataBuf.length) {replies : List Reply}
    (halong : Transition.Along Driven.step (Travels links entered) ⟨dc, .new dataBuf⟩ replies)
    (hlength : replies.length ≤ 3 + countMax * (links.length + 2)) :
    ∃ d : Driven OnNetwork, Transition.run Driven.step ⟨dc, .new dataBuf⟩ replies = .ok d ∧
      (replies.length = 3 + countMax * (links.length + 2) →
        d.task.task.state = .setOffset 0 ∧ AllGood links d.task.network) := by
  rcases replies with _ | ⟨reply, replies⟩
  · refine ⟨_, Transition.run_nil _, fun hzero => ?_⟩
    rw [List.length_nil] at hzero
    omega
  · -- The first step only sends.
    obtain ⟨d, hask, hasks, hstate'⟩ := exists_asks hcourse hdataBuf
    have hstep : (⟨dc, .new dataBuf⟩ : Driven OnNetwork).step reply = .ok d :=
      (Driven.step_of_silent dc dataBuf reply).trans hask
    have hleft : left links.length d.task.task.state = 2 + countMax * (links.length + 2) := by
      rw [hstate', hstate, left]
    rw [List.length_cons] at hlength ⊢
    obtain ⟨d', hrun, hasks', hrest⟩ := Transition.exists_run_of_rank (Asks links entered)
      (fun d => left links.length d.task.task.state)
      (fun d reply hasks hleft htravels => asks_step hloop hasks hleft htravels) hasks
      (halong.2 d hstep) (by rw [hleft]; omega)
    refine ⟨d', Transition.run_cons_eq_ok_iff.mpr ⟨d, hstep, hrun⟩, fun hall => ?_⟩
    rw [hleft] at hrest
    exact allGood_of_left_eq_zero hasks'.course (by omega)

/-- **The delays of a line.**  On a line of slaves with distributed clocks and links with these
delays, whose loops take less than `2 ^ 32` nanoseconds, nothing fails from `start` to the end of
the eighth round, whatever the clocks show when the frames enter the slaves; then the delay of
every slave is that of the links before it, less at most one nanosecond for each of them. -/
theorem delays_of_line {network : Network} {entry : ℕ} {tree : Tour.Branches}
    (htree : network.HasTree entry tree) (hline : tree.IsLine)
    (hdc : ∀ i < network.numSlaves, hasDc network i = true) {links : List ℕ}
    (hlinks : links.length = tree.size) (hloop : 2 * links.sum < 2 ^ 32)
    (entered : ℕ → ℕ → UInt32) :
    ∃ task network', start network = .ok (task, network') ∧
      ∀ dataBuf : List UInt8, requiredBufferSize ≤ dataBuf.length → ∀ replies : List Reply,
        Transition.Along Driven.step (Travels links entered)
          ⟨⟨task, network'⟩, .new dataBuf⟩ replies →
        replies.length ≤ 3 + countMax * (network.numSlaves + 1) →
        ∃ d : Driven OnNetwork,
          Transition.run Driven.step ⟨⟨task, network'⟩, .new dataBuf⟩ replies = .ok d ∧
          (replies.length = 3 + countMax * (network.numSlaves + 1) →
            d.task.task.state = .setOffset 0 ∧ ∀ i < network.numSlaves, ∃ slave,
              d.task.network.slaveAt i = some slave ∧
              delayTo links i ≤ slave.dcContext.delay.toNat + i ∧
              slave.dcContext.delay.toNat ≤ delayTo links i) := by
  obtain ⟨task, network', hstart, hstate, hcourse⟩ :=
    exists_onCourse_of_start htree hline hdc hlinks entered
  refine ⟨task, network', hstart, fun dataBuf hdataBuf replies halong hlength => ?_⟩
  have hnum : network.numSlaves = links.length + 1 := by
    rw [hlinks]
    exact htree.count
  rw [hnum] at hlength ⊢
  obtain ⟨d, hrun, hdone⟩ :=
    exists_run_of_onCourse hloop hcourse hstate hdataBuf halong hlength
  refine ⟨d, hrun, fun hall => ?_⟩
  obtain ⟨hstate', hgood⟩ := hdone hall
  refine ⟨hstate', fun i hi => ?_⟩
  obtain ⟨slave, -, -, hslave, -, -⟩ := hgood.line.ports i (Nat.le_of_lt_succ hi)
  exact ⟨slave, hslave, hgood.good i slave hslave⟩

/-- Three slaves in a line. -/
def threeInLine : Network := portNetwork [linePorts true, linePorts true, linePorts false]

/-- The same network as `start` leaves it; on the way back the walk notes a parent of the first
slave too. -/
def startedLine : OnNetwork where
  task := ⟨.clearOffset, .default, some 0, 3⟩
  network :=
    { slaves := threeInLine.slaves.zipIdx.map fun (slot, i) =>
        (slot.1.map fun slave => { slave with dcContext := { slave.dcContext with
          currentPort := 4, parentPort := [(1, 1), (0, 0), (1, 0)][i]? } }, slot.2)
      pushCount := 3 }

/-- When the frame enters the slaves; the clock in the middle wraps around before it comes back. -/
def enteredLine (pos : ℕ) : UInt32 := [7, 0xFFFFFFF0, 1000].getD pos 0

/-- The slaves answer with the times of a frame on links of 101 and 64 nanoseconds. -/
def travelling : Reply where
  respond pdu :=
    if pdu.command.cType = .bwr then { pdu with wkc := 3 }
    else
      let pos := (0 - pdu.command.adp).toNat
      { pdu with
        data := Field.putAll pdu.data
          [(DcRecieveTime.receiveTimePort 0, (enteredLine pos).toNat),
            (DcRecieveTime.receiveTimePort 1,
              (enteredLine pos + .ofNat (loopBehind [101, 64] pos)).toNat)]
        wkc := 1 }
  time := 0

/-- Eight rounds on three slaves. -/
theorem delays_of_line_three :
    ∃ d : Driven OnNetwork, Transition.run Driven.step ⟨startedLine, .new (List.replicate 16 0)⟩
        (List.replicate 35 travelling) = .ok d ∧
      ∀ i < 3, ∃ slave, d.task.network.slaveAt i = some slave ∧
        delayTo [101, 64] i ≤ slave.dcContext.delay.toNat + i ∧
        slave.dcContext.delay.toNat ≤ delayTo [101, 64] i := by
  have htree : threeInLine.HasTree 0 (.branch 1 0 (.branch 1 0 .done .done) .done) :=
    ⟨fun i => match i with
      | 0 => rfl
      | 1 => rfl
      | 2 => rfl
      | _ + 3 => rfl, rfl, by decide⟩
  obtain ⟨task, network', hstart, hrun⟩ := delays_of_line htree ⟨rfl, rfl, trivial⟩ (by decide)
    (show [101, 64].length = 2 from rfl) (by decide) fun _ => enteredLine
  have hstarted : start threeInLine = .ok (startedLine.task, startedLine.network) := by
    decide +kernel
  cases hstart.symm.trans hstarted
  obtain ⟨d, hrun, hdone⟩ := hrun (List.replicate 16 0) (by decide) (List.replicate 35 travelling)
    (by decide +kernel) (by decide)
  exact ⟨d, hrun, (hdone rfl).2⟩

end DcInitTask

end EtherCat
