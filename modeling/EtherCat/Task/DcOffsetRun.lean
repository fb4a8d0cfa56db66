import EtherCat.Task.DcInitPhases
import EtherCat.Task.DcMeasurement
import EtherCat.Task.DcOffsets
import EtherCat.Task.Exchange
import EtherCat.Task.Topology

/-!
# The offsets that `DcInitTask` measures

In a run from `start` whose responses show the times of clocks that run at the same rate, the offset
of a slave after a round is the average of its distances to the latest clock (`Tracks`).  Behind the
eighth round times and offsets therefore agree if one clock is the latest in all rounds, and, unless
the clocks are next to each other, only then (`clocksAgree_iff_latestKept`).
-/

namespace EtherCat

open Rust Rust.Exec BitField CyclicTask Driven

namespace DcInitTask

/-! ## The clocks of a network -/

/-- **The rounds so far.**  The offsets are those after so many rounds; the slaves before the
position have latched the times of the current one. -/
structure Clocks (phase time : ℕ → UInt32) (rounds current pos : ℕ) (network : Network) : Prop where
  offset : ∀ i slave, network.slaveAt i = some slave →
    slave.dcContext.offset.toNat = offsetAfter network.pushCount phase time rounds i
  latched : ∀ i < pos, ∀ slave, network.slaveAt i = some slave →
    slave.dcContext.latchedLocalSysTime.toNat = latched phase time current i

/-- What the network of so many slaves knows of the clocks in the states of the task. -/
structure Tracks (n : ℕ) (phase time : ℕ → UInt32) (dc : OnNetwork) : Prop where
  filled : dc.network.Filled
  count : dc.network.pushCount = n
  clocks : match dc.task.state with
    | .idle | .error _ => True
    | .clearOffset | .clearDelay => Clocks phase time 0 0 0 dc.network
    | .requestToLatch count => count < countMax ∧ Clocks phase time count count 0 dc.network
    | .calculateDelay count pos => count < countMax ∧ Clocks phase time count count pos dc.network
    | _ => 0 < dc.network.pushCount ∧
      Clocks phase time countMax (countMax - 1) dc.network.pushCount dc.network

/-- The rounds are over. -/
def State.isMeasured : State → Bool
  | .setOffset _ | .setDelay _ | .compensateDrift _ | .checkDelta | .complete => true
  | _ => false

/-- The slaves show the time of their clocks at their first linked ports. -/
def ShowsClocks (phase time : ℕ → UInt32) (d : Driven OnNetwork) (reply : Reply) : Prop :=
  ∀ recv, d.seen reply = some recv → ∀ count pos, d.task.task.state = .calculateDelay count pos →
    ∀ slave, d.task.network.slaveAt pos = some slave →
    ∀ port, firstPort slave.info.linkedPorts = some port →
      (DcRecieveTime.receiveTimePort port).val recv.data = (phase pos + time count).toNat

/-- What a response has to show of the clocks in a state. -/
def clocksShownIn (phase time : ℕ → UInt32) (dc : OnNetwork) (data : List UInt8) : Bool :=
  match dc.task.state with
  | .calculateDelay count pos => (dc.network.slaveAt pos).all fun slave =>
    (firstPort slave.info.linkedPorts).all fun port =>
      (DcRecieveTime.receiveTimePort port).val data == (phase pos + time count).toNat
  | _ => true

lemma showsClocks_iff (phase time : ℕ → UInt32) (d : Driven OnNetwork) (reply : Reply) :
    ShowsClocks phase time d reply ↔
      ∀ recv ∈ d.seen reply, clocksShownIn phase time d.task recv.data = true := by
  constructor
  · intro h recv hrecv
    unfold clocksShownIn
    split
    · next count pos hstate =>
        simp only [Option.all_eq_true, beq_iff_eq]
        exact fun slave hslave port hport => h recv hrecv count pos hstate slave hslave port hport
    · rfl
  · intro h recv hrecv count pos hstate slave hslave port hport
    have hshown := h recv hrecv
    simp only [clocksShownIn, hstate, Option.all_eq_true, beq_iff_eq] at hshown
    exact hshown slave hslave port hport

instance (phase time : ℕ → UInt32) (d : Driven OnNetwork) (reply : Reply) :
    Decidable (ShowsClocks phase time d reply) :=
  decidable_of_iff _ (showsClocks_iff phase time d reply).symm

section

variable {n : ℕ} {phase time : ℕ → UInt32}

/-- A failed task knows nothing. -/
lemma tracks_error {dc : OnNetwork} (hfilled : dc.network.Filled) (hn : dc.network.pushCount = n)
    (e : TaskError Unit) : Tracks n phase time (dc.goTo (.error e)) := ⟨hfilled, hn, trivial⟩

lemma tracks_expectWkc {dc dc' : OnNetwork} {expected wkc : UInt16} {next : Exec OnNetwork}
    (hfilled : dc.network.Filled) (hn : dc.network.pushCount = n)
    (hnext : ∀ dc', next = .ok dc' → Tracks n phase time dc')
    (h : dc.expectWkc expected wkc next = .ok dc') : Tracks n phase time dc' := by
  by_cases hwkc : wkc = expected
  · rw [OnNetwork.expectWkc_of_eq hwkc] at h
    exact hnext _ h
  · rw [OnNetwork.expectWkc_of_ne hwkc] at h
    cases h
    exact tracks_error hfilled hn _

/-! ## A round -/

/-- The time of a slave is latched. -/
lemma clocks_withClock {dc : OnNetwork} {count pos : ℕ} {slave : Slave} {context : DcContext}
    (h : Clocks phase time count count pos dc.network)
    (hslave : dc.network.slaveAt pos = some slave)
    (hoffset : context.offset = slave.dcContext.offset)
    (hlatched : context.latchedLocalSysTime.toNat = latched phase time count pos) :
    Clocks phase time count count (pos + 1) (dc.withClock pos context).network := by
  have hat : ∀ i slave', (dc.withClock pos context).network.slaveAt i = some slave' →
      (i = pos ∧ slave'.dcContext = context) ∨
        (i ≠ pos ∧ dc.network.slaveAt i = some slave') := by
    intro i slave' hslave'
    rw [OnNetwork.withClock, Network.slaveAt_modifySlave] at hslave'
    split at hslave'
    · next heq =>
        rw [← heq, hslave, Option.map_some] at hslave'
        cases hslave'
        exact .inl ⟨heq.symm, rfl⟩
    · next hne => exact .inr ⟨Ne.symm hne, hslave'⟩
  constructor
  · intro i slave' hslave'
    rcases hat i slave' hslave' with ⟨rfl, hcontext⟩ | ⟨-, hsame⟩
    · rw [hcontext, hoffset]
      exact h.offset i slave hslave
    · exact h.offset i slave' hsame
  · intro i hi slave' hslave'
    rcases hat i slave' hslave' with ⟨rfl, hcontext⟩ | ⟨hne, hsame⟩
    · rw [hcontext]
      exact hlatched
    · exact h.latched i (by omega) slave' hsame

/-- The latest time of a round is that of the latest clock. -/
lemma toNat_maxTime {network : Network} {count : ℕ} (hfilled : network.Filled)
    (hlatched : ∀ i slave, network.slaveAt i = some slave →
      slave.dcContext.latchedLocalSysTime.toNat = latched phase time count i) :
    (maxTime network).toNat = latest network.pushCount phase time count := by
  obtain ⟨hle, hsome⟩ := maxTime_spec hfilled
  refine le_antisymm ?_ ?_
  · rcases hsome with hzero | ⟨i, slave, hslave, heq⟩
    · rw [hzero]
      exact Nat.zero_le _
    · rw [heq, hlatched i slave hslave]
      exact latched_le_latest ((hfilled.isSome_iff i).mp (by rw [hslave]; rfl)) count
  · refine Finset.sup_le fun i hi => ?_
    obtain ⟨slave, hslave⟩ :=
      Option.isSome_iff_exists.mp ((hfilled.isSome_iff i).mpr (Finset.mem_range.mp hi))
    rw [← hlatched i slave hslave]
    exact hle i slave hslave

/-- **The end of a round.**  All offsets are averaged with the distances of the round. -/
lemma tracks_endRound {dc dc' : OnNetwork} {count : ℕ} (hfilled : dc.network.Filled)
    (hn : dc.network.pushCount = n) (hcount : count < countMax) (hpos : 0 < dc.network.pushCount)
    (h : Clocks phase time count count dc.network.pushCount dc.network)
    (hend : dc.endRound count = .ok dc') : Tracks n phase time dc' := by
  have hlatched : ∀ i slave, dc.network.slaveAt i = some slave →
      slave.dcContext.latchedLocalSysTime.toNat = latched phase time count i :=
    fun i slave hslave =>
      h.latched i ((hfilled.isSome_iff i).mp (by rw [hslave]; rfl)) slave hslave
  have hmax := toNat_maxTime hfilled hlatched
  obtain ⟨network, heq, hpush, hat⟩ := OnNetwork.endRound_eq hfilled count
  cases hend.symm.trans heq
  have hclocks : Clocks phase time (count + 1) count network.pushCount network := by
    constructor
    · intro i slave' hslave'
      rw [hat] at hslave'
      obtain ⟨slave, hslave, rfl⟩ := Option.map_eq_some_iff.mp hslave'
      have hlt : offsetAfter dc.network.pushCount phase time (count + 1) i < 2 ^ 64 := by
        have hle : offsetAfter dc.network.pushCount phase time (count + 1) i ≤ 2 ^ 32 :=
          HalfAverage.after_le (Nat.zero_le _) fun round _ =>
            (Nat.sub_le _ _).trans (latest_lt phase time hpos round).le
        omega
      have hnext : HalfAverage.next slave.dcContext.offset.toNat ((maxTime dc.network).toNat -
          slave.dcContext.latchedLocalSysTime.toNat) =
            offsetAfter dc.network.pushCount phase time (count + 1) i := by
        rw [h.offset i slave hslave, hmax, hlatched i slave hslave]
        rfl
      change (UInt64.ofNat (HalfAverage.next _ _)).toNat = _
      rw [hnext, UInt64.toNat_ofNat', Nat.mod_eq_of_lt hlt, hpush]
    · intro i _ slave' hslave'
      rw [hat] at hslave'
      obtain ⟨slave, hslave, rfl⟩ := Option.map_eq_some_iff.mp hslave'
      exact hlatched i slave hslave
  have hfilled' : network.Filled := by
    refine ⟨fun i => ?_, by rw [hpush]; exact hfilled.small⟩
    rw [hat, Option.isSome_map, hfilled.isSome_iff, hpush]
  refine ⟨hfilled', hpush.trans hn, ?_⟩
  change match dc.behindRound count with | _ => _
  by_cases hmore : count + 1 < countMax
  · have hbehind : dc.behindRound count = .requestToLatch (count + 1) := if_pos hmore
    rw [hbehind]
    exact ⟨hmore, hclocks.offset, fun i hi => absurd hi (Nat.not_lt_zero i)⟩
  · obtain rfl : count = countMax - 1 := by omega
    have hlast : 0 < network.pushCount ∧
        Clocks phase time countMax (countMax - 1) network.pushCount network :=
      ⟨hpush ▸ hpos, hclocks⟩
    rcases hfirst : dc.task.firstDcSlave with _ | first
    · have hbehind : dc.behindRound (countMax - 1) = .complete := by
        rw [OnNetwork.behindRound, if_neg hmore, hfirst]
      rw [hbehind]
      exact hlast
    · have hbehind : dc.behindRound (countMax - 1) = .setOffset first := by
        rw [OnNetwork.behindRound, if_neg hmore, hfirst]
      rw [hbehind]
      exact hlast

/-- The receive times of a slave. -/
lemma tracks_processCalculateDelay {dc dc' : OnNetwork} {count pos : ℕ} {data : List UInt8}
    (hfilled : dc.network.Filled) (hn : dc.network.pushCount = n) (hcount : count < countMax)
    (hclocks : Clocks phase time count count pos dc.network)
    (hshows : ∀ slave, dc.network.slaveAt pos = some slave →
      ∀ port, firstPort slave.info.linkedPorts = some port →
        (DcRecieveTime.receiveTimePort port).val data = (phase pos + time count).toNat)
    (h : dc.processCalculateDelay count pos data = .ok dc') : Tracks n phase time dc' := by
  obtain ⟨slave, ⟨context₀, port⟩, context, hslave, hlatch, hclock, hpos, hafter⟩ :=
    OnNetwork.clock_of_processCalculateDelay h
  rw [slaveOf_eq_ok_iff hfilled (by omega)] at hslave
  obtain ⟨hport, rfl⟩ := (latch_eq_ok_iff (size_le_of_latch hlatch)).mp hlatch
  obtain ⟨delay, hcontext⟩ := OnNetwork.clockBehind_eq_ok hclock
  have hoffset : context.offset = slave.dcContext.offset := by rw [hcontext]
  have htime : context.latchedLocalSysTime.toNat = latched phase time count pos := by
    rw [hcontext]
    dsimp only
    rw [hshows slave hslave port hport, UInt32.ofNat_toNat, UInt32.toNat_toUInt64]
    rfl
  have hclocks' := clocks_withClock hclocks hslave hoffset htime
  have hlt : pos < dc.network.pushCount := (hfilled.isSome_iff pos).mp (by rw [hslave]; rfl)
  have hsame : SameSlaves dc.network (dc.withClock pos context).network :=
    sameSlaves_modifySlave dc.network pos fun _ => rfl
  have hfilled' := hsame.filled hfilled
  unfold OnNetwork.afterSlave at hafter
  split at hafter
  · cases hafter
    exact ⟨hfilled', hn, hcount, hclocks'⟩
  · next hlast =>
      have hlast' : ¬ pos + 1 < dc.network.pushCount := hlast
      have heq : pos + 1 = dc.network.pushCount := by omega
      exact tracks_endRound hfilled' hn hcount (by omega : 0 < dc.network.pushCount)
        (heq ▸ hclocks') hafter

/-! ## A step -/

/-- **A response.** -/
lemma tracks_recieveAndProcess {dc dc' : OnNetwork} {recv : Pdu} {sysTime : ℕ}
    (h : Tracks n phase time dc)
    (hshows : ∀ count pos, dc.task.state = .calculateDelay count pos →
      ∀ slave, dc.network.slaveAt pos = some slave →
      ∀ port, firstPort slave.info.linkedPorts = some port →
        (DcRecieveTime.receiveTimePort port).val recv.data = (phase pos + time count).toNat)
    (hrecieve : dc.recieveAndProcess recv sysTime = .ok dc') : Tracks n phase time dc' := by
  obtain ⟨hfilled, hn, hclocks⟩ := h
  rw [OnNetwork.recieveAndProcess, OnNetwork.checked] at hrecieve
  split at hrecieve
  · unfold OnNetwork.processState at hrecieve
    dsimp only at hrecieve
    split at hrecieve
    case h_1 | h_2 | h_3 =>
      cases hrecieve
      exact ⟨hfilled, hn, hclocks⟩
    case h_4 hstate =>
      rw [hstate] at hclocks
      refine tracks_expectWkc hfilled hn (fun dc' hnext => ?_) hrecieve
      cases hnext
      exact ⟨hfilled, hn, hclocks⟩
    case h_5 hstate =>
      rw [hstate] at hclocks
      refine tracks_expectWkc hfilled hn (fun dc' hnext => ?_) hrecieve
      cases hnext
      exact ⟨hfilled, hn, by decide, hclocks⟩
    case h_6 count hstate =>
      rw [hstate] at hclocks
      refine tracks_expectWkc hfilled hn (fun dc' hnext => ?_) hrecieve
      cases hnext
      exact ⟨hfilled, hn, hclocks⟩
    case h_7 count pos hstate =>
      rw [hstate] at hclocks
      exact tracks_expectWkc hfilled hn (fun dc' hnext =>
        tracks_processCalculateDelay hfilled hn hclocks.1 hclocks.2 (hshows count pos hstate) hnext)
        hrecieve
    case h_8 pos hstate =>
      rw [hstate] at hclocks
      refine tracks_expectWkc hfilled hn (fun dc' hnext => ?_) hrecieve
      split at hnext
      · cases hnext
        exact ⟨hfilled, hn, hclocks⟩
      · obtain ⟨first, -, heq⟩ := bind_eq_ok.mp hnext
        cases heq
        exact ⟨hfilled, hn, hclocks⟩
    case h_9 pos hstate =>
      rw [hstate] at hclocks
      refine tracks_expectWkc hfilled hn (fun dc' hnext => ?_) hrecieve
      split at hnext
      all_goals
        cases hnext
        exact ⟨hfilled, hn, hclocks⟩
    case h_10 count hstate =>
      rw [hstate] at hclocks
      refine tracks_expectWkc hfilled hn (fun dc' hnext => ?_) hrecieve
      cases hnext
      split
      all_goals exact ⟨hfilled, hn, hclocks⟩
    case h_11 hstate =>
      rw [hstate] at hclocks
      refine tracks_expectWkc hfilled hn (fun dc' hnext => ?_) hrecieve
      obtain ⟨delta, -, heq⟩ := bind_eq_ok.mp hnext
      cases heq
      split
      all_goals exact ⟨hfilled, hn, hclocks⟩
  · cases hrecieve
    exact tracks_error hfilled hn _

/-- The next PDU. -/
lemma tracks_nextPdu {dc dc' : OnNetwork} {buf buf' : List UInt8} {pdu : Option (Command × ℕ)}
    (h : Tracks n phase time dc) (hnext : dc.nextPdu buf = .ok ((pdu, buf'), dc')) :
    Tracks n phase time dc' := by
  obtain ⟨⟨command, rfl⟩, -⟩ := OnNetwork.nextPdu_command hnext
  exact ⟨h.filled, h.count, h.clocks⟩

/-- **A step.** -/
lemma tracks_step {d d' : Driven OnNetwork} {reply : Reply} (h : Tracks n phase time d.task)
    (hshows : ShowsClocks phase time d reply) (hstep : d.step reply = .ok d') :
    Tracks n phase time d'.task := by
  rcases hseen : d.seen reply with _ | recv
  · obtain ⟨dataBuf, pdu, dataBuf', -, hnext, -⟩ := step_eq_ok_of_unseen hseen hstep
    exact tracks_nextPdu h hnext
  · obtain ⟨dataBuf, dc, pdu, dataBuf', -, hrecieve, hnext, -⟩ := step_eq_ok_of_seen hseen hstep
    exact tracks_nextPdu (tracks_recieveAndProcess h (hshows recv hseen) hrecieve) hnext

/-! ## All rounds -/

/-- Nothing is averaged at the beginning. -/
lemma tracks_start {network network' : Network} {task : DcInitTask} (hfilled : network.Filled)
    (hstart : start network = .ok (task, network')) :
    Tracks network.numSlaves phase time ⟨task, network'⟩ := by
  obtain ⟨hsame, hstate⟩ := start_sameSlaves hstart
  refine ⟨hsame.filled hfilled, hsame.pushCount, ?_⟩
  dsimp only
  rw [hstate]
  refine ⟨fun i slave hslave => ?_, fun i hi => absurd hi (Nat.not_lt_zero i)⟩
  rw [(start_unmeasured hstart i slave.dcContext (by rw [clockAt, hslave]; rfl)).2]
  rfl

end

/-- The latched times and the offsets of any two slaves add up to the same modulo `2 ^ 32`, up to
two units. -/
def ClocksAgree (network : Network) : Prop :=
  ∀ i slave, network.slaveAt i = some slave → ∀ j slave', network.slaveAt j = some slave' →
    ∃ error : ℤ, error.natAbs ≤ 2 ∧
      ((slave.dcContext.latchedLocalSysTime.toNat + slave.dcContext.offset.toNat : ℕ) : ℤ) -
        (slave'.dcContext.latchedLocalSysTime.toNat + slave'.dcContext.offset.toNat : ℕ) ≡
          error [ZMOD 2 ^ 32]

/-- Behind the last round the slaves have the latched times and the offsets of the clocks. -/
lemma clocksAgree_iff_agree {n : ℕ} {phase time : ℕ → UInt32} {dc : OnNetwork}
    (h : Tracks n phase time dc) (hmeasured : dc.task.state.isMeasured = true) :
    0 < n ∧ (ClocksAgree dc.network ↔
      Agree n (latched phase time (countMax - 1)) (offsetAfter n phase time countMax)) := by
  obtain ⟨hfilled, rfl, hclocks⟩ := h
  have hlast : 0 < dc.network.pushCount ∧
      Clocks phase time countMax (countMax - 1) dc.network.pushCount dc.network := by
    rcases hstate : dc.task.state
    all_goals rw [hstate] at hclocks hmeasured
    case idle | error | clearOffset | clearDelay | requestToLatch | calculateDelay =>
      cases hmeasured
    all_goals exact hclocks
  obtain ⟨hpos, hclocks⟩ := hlast
  have hvalues : ∀ i < dc.network.pushCount, ∃ slave, dc.network.slaveAt i = some slave ∧
      slave.dcContext.latchedLocalSysTime.toNat = latched phase time (countMax - 1) i ∧
      slave.dcContext.offset.toNat = offsetAfter dc.network.pushCount phase time countMax i := by
    intro i hi
    obtain ⟨slave, hslave⟩ := Option.isSome_iff_exists.mp ((hfilled.isSome_iff i).mpr hi)
    exact ⟨slave, hslave, hclocks.latched i hi slave hslave, hclocks.offset i slave hslave⟩
  refine ⟨hpos, ?_, ?_⟩
  · intro h i hi j hj
    obtain ⟨slave, hslave, htime, hoffset⟩ := hvalues i hi
    obtain ⟨slave', hslave', htime', hoffset'⟩ := hvalues j hj
    have herror := h i slave hslave j slave' hslave'
    rwa [htime, hoffset, htime', hoffset'] at herror
  · intro h i slave hslave j slave' hslave'
    have hi := (hfilled.isSome_iff i).mp (by rw [hslave]; rfl)
    have hj := (hfilled.isSome_iff j).mp (by rw [hslave']; rfl)
    rw [hclocks.latched i hi slave hslave, hclocks.offset i slave hslave,
      hclocks.latched j hj slave' hslave', hclocks.offset j slave' hslave']
    exact h i hi j hj

/-- **When the clocks agree.**  In a run from `start` whose slaves show clocks that run at the same
rate, the clocks agree behind the eighth round if one of them is the latest in all rounds; if no
two clocks are next to each other, they agree in no other case. -/
theorem clocksAgree_iff_latestKept {network network' : Network} {task : DcInitTask}
    (hfilled : network.Filled) (hstart : start network = .ok (task, network'))
    (phase time : ℕ → UInt32) {socket : PduSocket} {replies : List Reply} {d : Driven OnNetwork}
    (hshows : Transition.Along Driven.step (ShowsClocks phase time) ⟨⟨task, network'⟩, socket⟩
      replies)
    (hrun : Transition.run Driven.step ⟨⟨task, network'⟩, socket⟩ replies = .ok d)
    (hmeasured : d.task.task.state.isMeasured = true) :
    (LatestKept network.numSlaves phase time → ClocksAgree d.task.network) ∧
      (FarApart network.numSlaves phase →
        (ClocksAgree d.task.network ↔ LatestKept network.numSlaves phase time)) := by
  have htracks : Tracks network.numSlaves phase time d.task :=
    Transition.run_invariant (fun d => Tracks network.numSlaves phase time d.task)
      (fun d reply d' h hshows hstep => tracks_step h hshows hstep) (tracks_start hfilled hstart)
      hshows hrun
  obtain ⟨hpos, hagree⟩ := clocksAgree_iff_agree htracks hmeasured
  rw [hagree]
  exact ⟨agree_of_latestKept, fun hfar => ⟨latestKept_of_agree hpos hfar, agree_of_latestKept⟩⟩

/-- Two slaves in a line. -/
def twoInLine : Network := portNetwork [linePorts true, linePorts false]

/-- The same network as `start` leaves it. -/
def startedTwo : OnNetwork where
  task := ⟨.clearOffset, .default, some 0, 2⟩
  network :=
    { slaves := twoInLine.slaves.zipIdx.map fun (slot, i) =>
        (slot.1.map fun slave => { slave with dcContext := { slave.dcContext with
          currentPort := 4, parentPort := [(1, 0), (0, 0)][i]? } }, slot.2)
      pushCount := 2 }

/-- A round every 67 milliseconds. -/
def roundTime (count : ℕ) : UInt32 := 0x4000000 * .ofNat count

/-- The slaves answer with the times of their clocks in a round; the frame is back at the first of
them after 200 nanoseconds. -/
def showing (phase : ℕ → UInt32) (count : ℕ) : Reply where
  respond pdu :=
    if pdu.command.cType = .bwr then { pdu with wkc := 2 }
    else
      let entered := phase (0 - pdu.command.adp).toNat + roundTime count
      { pdu with
        data := Field.putAll pdu.data [(DcRecieveTime.receiveTimePort 0, entered.toNat),
          (DcRecieveTime.receiveTimePort 1, (entered + 200).toNat)]
        wkc := 1 }
  time := 0

/-- The registers are cleared, and eight rounds are measured. -/
def eightRounds (phase : ℕ → UInt32) : List Reply :=
  List.replicate 3 (showing phase 0) ++
    (List.range countMax).flatMap fun count => List.replicate 3 (showing phase count)

/-- The latched time and the offset of a slave. -/
def clockValues (network : Network) (i : ℕ) : Option (ℕ × ℕ) :=
  (clockAt network i).map fun dc => (dc.latchedLocalSysTime.toNat, dc.offset.toNat)

/-- The second clock wraps around between the fourth and the fifth round. -/
def wrappingPhase (i : ℕ) : UInt32 := [5, 0xF0000000].getD i 0

/-- No clock wraps around. -/
def steadyPhase (i : ℕ) : UInt32 := [5, 0x40000001].getD i 0

lemma filled_twoInLine : twoInLine.Filled := by
  refine ⟨fun i => ?_, by decide⟩
  match i with
  | 0 => decide
  | 1 => decide
  | i + 2 =>
    constructor
    · intro h
      have hlt : i + 2 < 2 := Network.lt_length_of_slaveAt_isSome h
      omega
    · intro h
      have hlt : i + 2 < 2 := h
      omega

lemma exists_eq_ok_of_toOption {ε α β : Type} {x : Except ε α} {f : α → β} {b : β}
    (h : x.toOption.map f = some b) : ∃ a, x = .ok a ∧ f a = b := by
  rcases x with e | a
  · cases h
  · exact ⟨a, rfl, Option.some.inj h⟩

/-- Two clocks that are not next to each other, of which the second is the latest in all rounds. -/
theorem clocksAgree_iff_latestKept_two :
    ∃ d : Driven OnNetwork, Transition.run Driven.step ⟨startedTwo, .new (List.replicate 16 0)⟩
        (eightRounds steadyPhase) = .ok d ∧
      (ClocksAgree d.task.network ↔ LatestKept 2 steadyPhase roundTime) ∧
      ClocksAgree d.task.network := by
  have hstart : start twoInLine = .ok (startedTwo.task, startedTwo.network) := by decide +kernel
  have hvalues : (Transition.run Driven.step ⟨startedTwo, .new (List.replicate 16 0)⟩
      (eightRounds steadyPhase)).toOption.map (fun d => d.task.task.state.isMeasured) =
        some true := by
    decide +kernel
  obtain ⟨d, hrun, hmeasured⟩ := exists_eq_ok_of_toOption hvalues
  have hfar : FarApart 2 steadyPhase := by
    unfold FarApart
    decide +kernel
  have hkept : LatestKept 2 steadyPhase roundTime := ⟨1, by decide, by decide +kernel⟩
  obtain ⟨hagree, hiff⟩ := clocksAgree_iff_latestKept filled_twoInLine hstart steadyPhase roundTime
    (by decide +kernel) hrun hmeasured
  exact ⟨d, hrun, hiff hfar, hagree hkept⟩

/-- **A clock wraps around between two rounds.**  The sums of times and offsets are 251 658 240
nanoseconds apart. -/
theorem clocks_disagree_after_wrap :
    start twoInLine = .ok (startedTwo.task, startedTwo.network) ∧
      Transition.Along Driven.step (ShowsClocks wrappingPhase roundTime)
        ⟨startedTwo, .new (List.replicate 16 0)⟩ (eightRounds wrappingPhase) ∧
      ∃ d : Driven OnNetwork, Transition.run Driven.step ⟨startedTwo, .new (List.replicate 16 0)⟩
          (eightRounds wrappingPhase) = .ok d ∧
        d.task.task.state = .setOffset 0 ∧ ¬ ClocksAgree d.task.network := by
  refine ⟨by decide +kernel, by decide +kernel, ?_⟩
  have hvalues : (Transition.run Driven.step ⟨startedTwo, .new (List.replicate 16 0)⟩
      (eightRounds wrappingPhase)).toOption.map (fun d => (d.task.task.state,
        clockValues d.task.network 0, clockValues d.task.network 1)) =
          some (.setOffset 0, some (469762053, 251658239), some (201326592, 268435460)) := by
    decide +kernel
  obtain ⟨d, hrun, heq⟩ := exists_eq_ok_of_toOption hvalues
  simp only [Prod.mk.injEq, clockValues, clockAt, Option.map_map, Option.map_eq_some_iff,
    Function.comp_apply] at heq
  obtain ⟨hstate, ⟨slave, hslave, htime, hoffset⟩, ⟨slave', hslave', htime', hoffset'⟩⟩ := heq
  refine ⟨d, hrun, hstate, fun hagree => ?_⟩
  obtain ⟨error, herror, hmod⟩ := hagree 0 slave hslave 1 slave' hslave'
  rw [htime, hoffset, htime', hoffset', Int.ModEq] at hmod
  omega

end DcInitTask

end EtherCat
