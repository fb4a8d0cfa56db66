import EtherCat.Task.DcMeasurement
import EtherCat.Task.Exchange
import EtherCat.Task.Topology
import Mathlib.Algebra.BigOperators.Group.List.Basic

/-!
# The delays of a line

On a line of slaves a frame goes down to the last slave and comes back, so that every slave but the
last latches it twice.  In every round of measurements a slave behind the first gets the delay of
its parent and half the difference of their two loops, averaged with what it had.  The rounding
takes at most one nanosecond for every link on the way (`good_of_measureDelay`), whatever the
clocks show when the frame comes by, and no arithmetic fails on the way.
-/

namespace EtherCat

open Rust Rust.Exec BitField CyclicTask

namespace DcInitTask

/-! ## The ports of a slave -/

lemma firstPort_eq_head? (linkedPorts : Vector Bool 4) :
    firstPort linkedPorts = (portNumbers linkedPorts).head? := by
  revert linkedPorts
  apply forall_ports
  decide +kernel

lemma nextPort_eq_head? (linkedPorts : Vector Bool 4) (port : ℕ) (h : port < 4) :
    nextPort linkedPorts port = ((portNumbers linkedPorts).filter (port < ·)).head? := by
  revert port linkedPorts
  apply forall_ports
  decide +kernel

lemma lastPort_eq_getLast? (linkedPorts : Vector Bool 4) (port : ℕ) (h : port < 4) :
    lastPort linkedPorts port = ((portNumbers linkedPorts).filter (port < ·)).getLast? := by
  revert port linkedPorts
  apply forall_ports
  decide +kernel

lemma lt_of_mem_portNumbers {linkedPorts : Vector Bool 4} {port : ℕ}
    (h : port ∈ portNumbers linkedPorts) : port < 4 :=
  List.mem_range.mp (List.mem_filter.mp h).1

/-- A slave with two linked ports. -/
lemma ports_of_pair {linkedPorts : Vector Bool 4} {down up : ℕ}
    (h : portNumbers linkedPorts = [down, up]) :
    firstPort linkedPorts = some down ∧ nextPort linkedPorts down = some up ∧
      lastPort linkedPorts down = some up := by
  have hdown : down < 4 := lt_of_mem_portNumbers (by rw [h]; exact List.mem_cons_self)
  have hsorted : (portNumbers linkedPorts).Pairwise (· < ·) := List.pairwise_lt_range.filter _
  rw [h] at hsorted
  have hlt : down < up := (List.pairwise_cons.mp hsorted).1 up (List.mem_singleton_self _)
  have hfilter : (portNumbers linkedPorts).filter (down < ·) = [up] := by
    rw [h]
    simp [hlt]
  rw [firstPort_eq_head?, nextPort_eq_head? _ _ hdown, lastPort_eq_getLast? _ _ hdown, hfilter, h]
  exact ⟨rfl, rfl, rfl⟩

/-- A slave with one linked port. -/
lemma ports_of_single {linkedPorts : Vector Bool 4} {down : ℕ}
    (h : portNumbers linkedPorts = [down]) :
    firstPort linkedPorts = some down ∧ lastPort linkedPorts down = none := by
  have hdown : down < 4 := lt_of_mem_portNumbers (by rw [h]; exact List.mem_cons_self)
  have hfilter : (portNumbers linkedPorts).filter (down < ·) = [] := by
    rw [h]
    simp
  rw [firstPort_eq_head?, lastPort_eq_getLast? _ _ hdown, hfilter, h]
  exact ⟨rfl, rfl⟩

/-! ## Delays and loops -/

/-- How long a frame takes to a slave: it passes the links before it. -/
def delayTo (links : List ℕ) (i : ℕ) : ℕ := (links.take i).sum

/-- How long a frame is behind a slave: it passes the links behind it down and back. -/
def loopBehind (links : List ℕ) (i : ℕ) : ℕ := 2 * (links.drop i).sum

/-- The link behind a slave. -/
lemma delayTo_succ {links : List ℕ} {i : ℕ} (hi : i < links.length) :
    delayTo links (i + 1) = delayTo links i + links[i] ∧
      loopBehind links i = 2 * links[i] + loopBehind links (i + 1) := by
  refine ⟨?_, ?_⟩
  · rw [delayTo, List.sum_take_succ links i hi]
    rfl
  · rw [loopBehind, loopBehind, List.drop_eq_getElem_cons hi, List.sum_cons]
    omega

lemma delayTo_add_loopBehind (links : List ℕ) (i : ℕ) :
    2 * delayTo links i + loopBehind links i = 2 * links.sum := by
  have hsum := List.sum_take_add_sum_drop links i
  rw [delayTo, loopBehind]
  omega

/-- **The time of a loop** is found whenever the counter wraps around. -/
lemma toNat_loopDuration (time : UInt32) {duration : ℕ} (h : duration < 2 ^ 32) :
    (loopDuration time (time + .ofNat duration)).toNat = duration := by
  have htime := time.toNat_lt
  have hsum : (time + UInt32.ofNat duration).toNat = (time.toNat + duration) % 2 ^ 32 := by
    rw [UInt32.toNat_add, UInt32.toNat_ofNat', Nat.mod_eq_of_lt h]
  unfold loopDuration
  split
  · next hlt =>
      rw [UInt32.lt_iff_toNat_lt, hsum] at hlt
      rw [UInt32.toNat_sub_of_le _ _ (UInt32.le_iff_toNat_le.mpr (by rw [hsum]; omega)), hsum]
      omega
  · next hge =>
      rw [UInt32.lt_iff_toNat_lt, hsum] at hge
      rw [UInt32.toNat_ofNat', hsum]
      omega

/-! ## What the slaves show and what is stored -/

/-- The receive times of a slave: at its first port the frame goes down the line, at its second port
it comes back. -/
structure ShowsTimes (linkedPorts : Vector Bool 4) (data : List UInt8) (entered : UInt32)
    (duration : ℕ) : Prop where
  down : ∀ port ∈ (portNumbers linkedPorts)[0]?,
    (DcRecieveTime.receiveTimePort port).val data = entered.toNat
  up : ∀ port ∈ (portNumbers linkedPorts)[1]?,
    (DcRecieveTime.receiveTimePort port).val data = (entered + .ofNat duration).toNat

/-- These times are stored for a slave. -/
structure StoresTimes (linkedPorts : Vector Bool 4) (dc : DcContext) (entered : UInt32)
    (duration : ℕ) : Prop where
  down : ∀ port ∈ (portNumbers linkedPorts)[0]?, dc.recievedPortTime.toList[port]? = some entered
  up : ∀ port ∈ (portNumbers linkedPorts)[1]?,
    dc.recievedPortTime.toList[port]? = some (entered + .ofNat duration)

lemma ShowsTimes.stores {linkedPorts : Vector Bool 4} {data : List UInt8} {entered : UInt32}
    {duration : ℕ} (h : ShowsTimes linkedPorts data entered duration) {dc : DcContext}
    (hdc : dc.recievedPortTime = portTimes data) :
    StoresTimes linkedPorts dc entered duration := by
  constructor
  · intro port hport
    rw [hdc, getElem?_portTimes data (lt_of_mem_portNumbers (List.mem_of_getElem? hport)),
      h.down port hport, UInt32.ofNat_toNat]
  · intro port hport
    rw [hdc, getElem?_portTimes data (lt_of_mem_portNumbers (List.mem_of_getElem? hport)),
      h.up port hport, UInt32.ofNat_toNat]

/-- The delay of a slave is right up to one unit for each link. -/
def Good (links : List ℕ) (i : ℕ) (dc : DcContext) : Prop :=
  delayTo links i ≤ dc.delay.toNat + i ∧ dc.delay.toNat ≤ delayTo links i

/-- The loop behind a slave. -/
lemma innerLoopDuration_of_stores {slave : Slave} {dc : DcContext} {entered : UInt32}
    {links : List ℕ} {i down up : ℕ} (hi : i ≤ links.length)
    (hports : portNumbers slave.info.linkedPorts =
      if i < links.length then [down, up] else [down])
    (hstores : StoresTimes slave.info.linkedPorts dc entered (loopBehind links i))
    (hloop : 2 * links.sum < 2 ^ 32) :
    ∃ duration, innerLoopDuration slave dc down = .ok duration ∧
      duration.toNat = loopBehind links i := by
  have htotal := delayTo_add_loopBehind links i
  unfold innerLoopDuration
  by_cases hlt : i < links.length
  · rw [if_pos hlt] at hports
    rw [(ports_of_pair hports).2.2]
    refine ⟨_, ?_, toNat_loopDuration entered (by omega)⟩
    dsimp only
    rw [index_eq_ok_iff.mpr (hstores.down down (by rw [hports]; rfl)), ok_bind,
      index_eq_ok_iff.mpr (hstores.up up (by rw [hports]; rfl)), ok_bind]
  · rw [if_neg hlt] at hports
    rw [(ports_of_single hports).2]
    refine ⟨0, rfl, ?_⟩
    obtain rfl : i = links.length := by omega
    rw [loopBehind, List.drop_length]
    rfl

/-- The loop behind the port of the parent is the loop behind the parent. -/
lemma outerLoopDuration_of_stores {parent : Slave} {entered : UInt32} {links : List ℕ}
    {i down up : ℕ} (hports : portNumbers parent.info.linkedPorts = [down, up])
    (hstores : StoresTimes parent.info.linkedPorts parent.dcContext entered (loopBehind links i))
    (hloop : 2 * links.sum < 2 ^ 32) :
    ∃ duration, outerLoopDuration parent down = .ok duration ∧
      duration.toNat = loopBehind links i := by
  have htotal := delayTo_add_loopBehind links i
  refine ⟨_, ?_, toNat_loopDuration entered (by omega)⟩
  rw [outerLoopDuration, (ports_of_pair hports).2.1, unwrap_some, ok_bind,
    index_eq_ok_iff.mpr (hstores.down down (by rw [hports]; rfl)), ok_bind,
    index_eq_ok_iff.mpr (hstores.up up (by rw [hports]; rfl)), ok_bind]

/-- **A measurement of a delay** behind a parent whose delay is good. -/
lemma good_of_measureDelay {network : Network} {slave parent : Slave} {dc : DcContext}
    {links : List ℕ} {i parentPort port : ℕ} {inner outer : UInt32} (hi : i < links.length)
    (hloop : 2 * links.sum < 2 ^ 32) (hparentPort : dc.parentPort = some (i, parentPort))
    (hparent : slaveOf network i = .ok parent)
    (hinner : innerLoopDuration slave dc port = .ok inner)
    (hinner' : inner.toNat = loopBehind links (i + 1))
    (houter : outerLoopDuration parent parentPort = .ok outer)
    (houter' : outer.toNat = loopBehind links i) (hgood : Good links i parent.dcContext)
    (hfresh : dc.delay = 0 ∨ Good links (i + 1) dc) :
    ∃ delay, measureDelay network (i + 1) slave dc port = .ok { dc with delay := delay } ∧
      Good links (i + 1) { dc with delay := delay } := by
  obtain ⟨hdelay, hbehind⟩ := delayTo_succ hi
  have htotal := delayTo_add_loopBehind links (i + 1)
  obtain ⟨hlow, hhigh⟩ := hgood
  let measured := parent.dcContext.delay.toNat + links[i]
  have hmeasured : measured ≤ delayTo links (i + 1) ∧ delayTo links (i + 1) ≤ measured + i := by
    dsimp only [measured]
    omega
  have hvalue : dc.delay.toNat = 0 ∨ delayTo links (i + 1) ≤ dc.delay.toNat + (i + 1) := by
    rcases hfresh with hzero | hgood
    · exact .inl (by rw [hzero]; rfl)
    · exact .inr hgood.1
  have hle : dc.delay.toNat ≤ delayTo links (i + 1) := by
    rcases hfresh with hzero | hgood
    · rw [hzero]
      exact Nat.zero_le _
    · exact hgood.2
  have hnext := HalfAverage.next_le hle hmeasured.1
  have hnext' := HalfAverage.le_next_add hvalue hmeasured.2
  have hofNat : (UInt32.ofNat (HalfAverage.next dc.delay.toNat measured)).toNat =
      HalfAverage.next dc.delay.toNat measured := by
    rw [UInt32.toNat_ofNat']
    exact Nat.mod_eq_of_lt (by omega)
  refine ⟨.ofNat (HalfAverage.next dc.delay.toNat measured), ?_, ?_⟩
  · have hhalf : (outer.toNat - inner.toNat) / 2 = links[i] := by omega
    have hsum : addUpTo 32 parent.dcContext.delay.toNat links[i] = .ok measured :=
      addUpTo_eq_ok_iff.mpr ⟨by omega, rfl⟩
    have haverage : average 32 dc.delay.toNat measured =
        .ok (HalfAverage.next dc.delay.toNat measured) :=
      average_of_lt dc.delay.toNat_lt (by omega)
    rw [measureDelay, hinner, ok_bind, hparentPort, unwrap_some, ok_bind]
    dsimp only
    rw [hparent, ok_bind, check_of (by omega), ok_bind, houter, ok_bind,
      sub_of_le (by omega), ok_bind, hhalf, hsum, ok_bind, haverage, ok_bind]
  · rw [Good]
    dsimp only
    rw [hofNat]
    omega

end DcInitTask

end EtherCat
