import EtherCat.Foundation.WalkEnds
import EtherCat.Task.DcInitRun

/-!
# When the setup of the clocks can start

The iterator looks at the slave of its position before it compares the position with the number of
slaves.  It goes on to the next position at every slave that is entered with a second port ahead,
so that it stays inside the network exactly if some slave has one linked port at most.  Without
one the iterator and `start` with it walk over the last slave and panic, also on a network without
slaves (`iteratesSafely_and_starts_iff`).
-/

namespace EtherCat

open Rust Rust.Exec

namespace Network

/-- As it is made of any slave buffer, with whatever is left there, or with slots that are filled
from the front, as clearing the slots and pushing slaves keeps them. -/
def Reachable (network : Network) : Prop := network.pushCount = 0 ∨ network.Filled

/-- The number of linked ports that the slaves have reported. -/
def linkedPortCount (network : Network) : ℕ :=
  (network.slavesInOrder.map fun slot => (portNumbers slot.1.info.linkedPorts).length).sum

/-- **What iterating over the ports should do**: end, after at most as many items as there are
linked ports, each of them a linked port of a slave of the network, and none twice. -/
def IteratesSafely (network : Network) : Prop :=
  ∃ items, network.recievedPorts.toList = .ok items ∧
    items.length ≤ network.linkedPortCount ∧ items.Nodup ∧
    ∀ item ∈ items, item.1 < network.pushCount ∧
      ∃ slave, network.slaveAt item.1 = some slave ∧
        slave.info.linkedPorts[item.2]? = some true

/-- A slave of the network has one linked port at most.  While there are no slaves, what is left
over in the first slot must have none. -/
def HasEnd (network : Network) : Prop :=
  (∃ i < network.pushCount, ∃ slave, network.slaveAt i = some slave ∧
    (portNumbers slave.info.linkedPorts).length ≤ 1) ∨
  network.pushCount = 0 ∧ ∃ slave, network.slaveAt 0 = some slave ∧
    portNumbers slave.info.linkedPorts = []

/-! ## The walk over a filled network -/

namespace Filled

variable {network : Network}

lemma getElem?_walk_ahead (h : network.Filled) (i : ℕ) :
    network.walk.ahead[i]? =
      (network.slaveAt i).map fun slave => portNumbers slave.info.linkedPorts := by
  rw [walk, List.getElem?_map]
  rcases hslave : network.slaveAt i with _ | slave
  · have hle : network.pushCount ≤ i := by
      rw [← not_lt, ← h.isSome_iff, hslave]
      exact Bool.false_ne_true
    rw [List.getElem?_eq_none (by rw [List.length_range]; exact hle)]
    rfl
  · have hlt : i < network.pushCount := (h.isSome_iff i).mp (by rw [hslave]; rfl)
    rw [List.getElem?_range hlt, Option.map_some, hslave]
    rfl

lemma turnsBack_walk_iff (h : network.Filled) : network.walk.TurnsBack ↔ network.HasEnd := by
  constructor
  · rintro ⟨i, ports, -, hports, hlength⟩
    rw [h.getElem?_walk_ahead] at hports
    obtain ⟨slave, hslave, rfl⟩ := Option.map_eq_some_iff.mp hports
    exact .inl ⟨i, (h.isSome_iff i).mp (by rw [hslave]; rfl), slave, hslave, hlength⟩
  · rintro (⟨i, -, slave, hslave, hlength⟩ | ⟨hzero, slave, hslave, -⟩)
    · refine ⟨i, _, Nat.zero_le i, ?_, hlength⟩
      rw [h.getElem?_walk_ahead, hslave]
      rfl
    · have hlt := (h.isSome_iff 0).mp (by rw [hslave]; rfl)
      omega

lemma portCount_walk (h : network.Filled) : network.walk.portCount = network.linkedPortCount := by
  have hahead : network.walk.ahead =
      network.slavesInOrder.map fun slot => portNumbers slot.1.info.linkedPorts := by
    refine List.ext_getElem? fun i => ?_
    rw [h.getElem?_walk_ahead, List.getElem?_map, h.getElem?_slavesInOrder, slaveAt_eq_map_slotAt,
      Option.map_map]
    rfl
  rw [Tour.Walk.portCount, hahead, List.map_map]
  rfl

/-- The ports of a walk over a network are not more than the turns a loop over it may take. -/
lemma portCount_walk_le (h : network.Filled) :
    network.walk.portCount ≤ 4 * network.slaves.length := by
  have hsum : network.walk.portCount ≤ 4 * network.walk.ahead.length := by
    refine Tour.Walk.sum_map_length_le fun ports hports => ?_
    obtain ⟨i, hi⟩ := List.mem_iff_getElem?.mp hports
    rw [h.getElem?_walk_ahead] at hi
    obtain ⟨slave, -, rfl⟩ := Option.map_eq_some_iff.mp hi
    exact (List.length_filter_le _ _).trans_eq List.length_range
  have hlength : network.walk.ahead.length = network.pushCount := by
    rw [walk, List.length_map, List.length_range]
  have := h.pushCount_le_length
  omega

/-- Iterating over the ports of a filled network. -/
lemma iteratesSafely_iff (h : network.Filled) : network.IteratesSafely ↔ network.HasEnd := by
  rw [← h.turnsBack_walk_iff, ← Tour.Walk.exists_yields_iff]
  constructor
  · rintro ⟨items, hitems, -⟩
    exact ⟨items, h.follows.yields_iff.mp (RecievedPorts.toList_eq_ok_iff.mp hitems)⟩
  · rintro ⟨items, hyields⟩
    refine ⟨items, RecievedPorts.toList_eq_ok_iff.mpr (h.follows.yields_iff.mpr hyields),
      h.portCount_walk ▸ Tour.Walk.length_le_of_yields hyields,
      Tour.Walk.nodup_of_yields hyields fun i ports hports => ?_, ?_⟩
    · rw [h.getElem?_walk_ahead] at hports
      obtain ⟨slave, -, rfl⟩ := Option.map_eq_some_iff.mp hports
      exact List.nodup_range.filter _
    · rintro ⟨i, port⟩ hmem
      obtain ⟨ports, hports, hport⟩ := Tour.Walk.mem_ahead_of_yields hyields hmem
      rw [h.getElem?_walk_ahead] at hports
      obtain ⟨slave, hslave, rfl⟩ := Option.map_eq_some_iff.mp hports
      refine ⟨(h.isSome_iff i).mp (by rw [hslave]; rfl), slave, hslave, ?_⟩
      exact of_decide_eq_true (List.mem_filter.mp hport).2

end Filled

end Network

/-! ## The loop of `start` -/

namespace DcInitTask

/-- **What `start` should do.** -/
def Starts (network : Network) : Prop := ∃ task network', start network = .ok (task, network')

section

variable {network : Network}

lemma portCount_lt_fuel (h : network.Filled) :
    network.walk.portCount < 4 * (cleared network).slaves.length + 1 := by
  have hlength : (cleared network).slaves.length = network.slaves.length := List.length_map _
  rw [hlength]
  exact Nat.lt_succ_of_le h.portCount_walk_le

/-- From a walk that ends the loop returns, and all slaves of the network are counted. -/
lemma starts_of_yields (h : network.Filled) {places : List RecievedPort}
    (hyields : Yields Tour.Walk.next network.walk places) : Starts network := by
  have hsame := sameSlaves_cleared network
  have hcount : (cleared network).recievedPorts.network.pushCount = network.walk.ahead.length := by
    rw [Network.walk, List.length_map, List.length_range]
    exact hsame.pushCount
  obtain ⟨ports, locals, hloop, -⟩ := forEach_visit (follows_cleared h) hcount hyields
    ⟨none, none, 0, 0⟩ ((Tour.Walk.length_le_of_yields hyields).trans_lt (portCount_lt_fuel h))
  have hfilled : ports.network.Filled := (hsame.of_forEach hloop).filled h
  obtain ⟨count, hcounted⟩ := countDc_eq_ok ports.network hfilled.small
    fun i hi => (hfilled.isSome_iff i).mpr hi
  have hstart : start network =
      .ok (⟨.clearOffset, .default, locals.firstDcSlave, count⟩, ports.network) := by
    simp [start, hloop, hcounted]
  exact ⟨_, _, hstart⟩

/-- A loop that returns has walked to the end. -/
lemma exists_yields_of_starts (h : network.Filled) (hstarts : Starts network) :
    ∃ places, Yields Tour.Walk.next network.walk places := by
  obtain ⟨task, network', hstart⟩ := hstarts
  obtain ⟨st, hloop, -⟩ := bind_eq_ok.mp hstart
  refine exists_yields_of_forEach RecievedPorts.Follows Tour.Walk.next Tour.Walk.portCount
    (fun w place w' hnext => ?_) (fun ports w place w' hfollows hnext => ?_)
    (fun ports w e hfollows hnext => hfollows.next_error hnext)
    (fun place ports locals ports' locals' w hvisit hfollows => ?_)
    (follows_cleared h) (portCount_lt_fuel h) hloop
  · rw [Tour.Walk.portCount_of_next hnext]
    exact Nat.lt_succ_self _
  · obtain ⟨port, hstep, hfollows'⟩ := hfollows.next_item hnext
    exact ⟨_, hstep, hfollows'⟩
  · obtain ⟨found, -, hrest⟩ := bind_eq_ok.mp hvisit
    obtain ⟨⟨slave, config⟩, -, heq⟩ := bind_eq_ok.mp hrest
    cases heq
    exact follows_setParentPort hfollows _ _

lemma starts_iff (h : network.Filled) : Starts network ↔ network.HasEnd := by
  rw [← h.turnsBack_walk_iff, ← Tour.Walk.exists_yields_iff]
  exact ⟨exists_yields_of_starts h, fun ⟨_, hyields⟩ => starts_of_yields h hyields⟩

/-! ## Before the first slave is pushed -/

/-- The slave in the first slot has no linked port. -/
def FirstPortless (network : Network) : Prop :=
  ∃ slave, network.slaveAt 0 = some slave ∧ portNumbers slave.info.linkedPorts = []

lemma portNumbers_eq_nil_iff (linkedPorts : Vector Bool 4) :
    portNumbers linkedPorts = [] ↔ ¬ (firstPort linkedPorts).getD 4 < 4 := by
  rw [← aheadFrom_firstPort, aheadFrom]
  split
  · next hlt => exact ⟨fun h => absurd h (List.cons_ne_nil _ _), fun h => absurd hlt h⟩
  · next hlt => exact ⟨fun _ => hlt, fun _ => rfl⟩

/-- The first step of the iterator ends the walk exactly at a slave without linked ports. -/
lemma next_recievedPorts_iff (network : Network) :
    (∃ ports, network.recievedPorts.next = .ok (none, ports)) ↔ FirstPortless network := by
  have hslot : network.recievedPorts.network.slaveAt 0 = (network.slaveAt 0).map fun slave =>
      slave.setCurrentPort ((firstPort slave.info.linkedPorts).getD 4) :=
    Network.slaveAt_modifySlaves ..
  rcases hslave : network.slaveAt 0 with _ | slave
  · rw [hslave] at hslot
    constructor
    · rintro ⟨ports, hnext⟩
      obtain ⟨slot, hindex, hrest⟩ := bind_eq_ok.mp hnext
      obtain ⟨slave, hsome, -⟩ := bind_eq_ok.mp hrest
      have hget : network.recievedPorts.network.slaves[0]? = some slot :=
        index_eq_ok_iff.mp hindex
      rw [Network.slaveAt, hget, Option.bind_some, unwrap_eq_ok_iff.mp hsome] at hslot
      cases hslot
    · rintro ⟨slave, hsome, -⟩
      cases hslave.symm.trans hsome
  · rw [hslave] at hslot
    have hlength : 0 < network.recievedPorts.length := by
      obtain ⟨config, hget⟩ := Network.slaveAt_eq_some_iff.mp hslave
      exact List.length_pos_of_mem
        (List.mem_filterMap.mpr ⟨_, List.mem_of_getElem? hget, rfl⟩)
    have hnext := RecievedPorts.next_of_slaveAt hslot fun _ => Nat.one_lt_two_pow (by omega)
    rw [hnext]
    constructor
    · rintro ⟨ports, heq⟩
      have hitem := congrArg Prod.fst (Except.ok.inj heq)
      refine ⟨slave, hslave, (portNumbers_eq_nil_iff _).mpr fun hlt => ?_⟩
      rw [if_pos ⟨hlength, hlt⟩] at hitem
      cases hitem
    · rintro ⟨slave', hsome, hports⟩
      obtain rfl := Option.some.inj (hslave.symm.trans hsome)
      exact ⟨_, by rw [if_neg fun h => (portNumbers_eq_nil_iff _).mp hports h.2]⟩

lemma iteratesSafely_iff_of_pushCount (h : network.pushCount = 0) :
    network.IteratesSafely ↔ FirstPortless network := by
  rw [← next_recievedPorts_iff]
  constructor
  · rintro ⟨_ | ⟨item, items⟩, hitems, -, -, hmem⟩
    · cases RecievedPorts.toList_eq_ok_iff.mp hitems with
      | stop hnext =>
          obtain ⟨⟨item, ports⟩, hstep, heq⟩ := bind_eq_ok.mp hnext
          obtain rfl : item = none := Option.map_eq_none_iff.mp (Except.ok.inj heq)
          exact ⟨ports, hstep⟩
    · have hlt := (hmem item List.mem_cons_self).1
      omega
  · rintro ⟨ports, hnext⟩
    have hstop : untilNone RecievedPorts.next network.recievedPorts = .ok none := by
      rw [untilNone, hnext]
      rfl
    exact ⟨[], RecievedPorts.toList_eq_ok_iff.mpr (.stop hstop), Nat.zero_le _, List.nodup_nil,
      fun _ hmem => absurd hmem List.not_mem_nil⟩

lemma starts_iff_of_pushCount (h : network.pushCount = 0) :
    Starts network ↔ FirstPortless network := by
  have hcleared : FirstPortless (cleared network) ↔ FirstPortless network := by
    rw [FirstPortless, FirstPortless, cleared, Network.slaveAt_modifySlaves]
    rcases network.slaveAt 0 with _ | slave <;> simp
  rw [← hcleared, ← next_recievedPorts_iff]
  constructor
  · rintro ⟨task, network', hstart⟩
    obtain ⟨st, hloop, -⟩ := bind_eq_ok.mp hstart
    obtain ⟨⟨_ | place, ports⟩, hnext, hrest⟩ := bind_eq_ok.mp hloop
    · exact ⟨ports, hnext⟩
    · -- The network has no slave that the item could name.
      obtain ⟨port, position, rfl⟩ := RecievedPorts.next_eq_moveTo hnext
      obtain ⟨_, hvisit, -⟩ := bind_eq_ok.mp hrest
      obtain ⟨found, hfound, hsome⟩ := bind_eq_ok.mp hvisit
      obtain ⟨slot, hslot, -⟩ := bind_eq_ok.mp hsome
      have hnone : Network.slave ((cleared network).recievedPorts.moveTo port position).network
          (.slavePosition (UInt16.ofNat place.1)) = .ok none :=
        if_neg (by
          change ¬ _ < network.pushCount
          omega)
      cases hfound.symm.trans hnone
      cases hslot
  · rintro ⟨ports, hnext⟩
    obtain ⟨port, position, rfl⟩ := RecievedPorts.next_eq_moveTo hnext
    have hrange : List.range
        ((cleared network).recievedPorts.moveTo port position).network.numSlaves = [] := by
      change List.range network.pushCount = []
      rw [h, List.range_zero]
    have hstart : start network = .ok (⟨.clearOffset, .default, none, 0⟩,
        ((cleared network).recievedPorts.moveTo port position).network) := by
      simp [start, forEach, hnext, hrange]
    exact ⟨_, _, hstart⟩

end

/-! ## Every network -/

/-- **When the ports can be walked over**, for all linked ports that the slaves may report:
exactly if some slave has one at most. -/
theorem iteratesSafely_and_starts_iff {network : Network} (h : network.Reachable) :
    network.IteratesSafely ∧ Starts network ↔ network.HasEnd := by
  rcases h with hzero | hfilled
  · rw [iteratesSafely_iff_of_pushCount hzero, starts_iff_of_pushCount hzero, and_self,
      Network.HasEnd, FirstPortless]
    refine ⟨fun h => .inr ⟨hzero, h⟩, ?_⟩
    rintro (⟨i, hlt, -⟩ | ⟨-, h⟩)
    · omega
    · exact h
  · rw [hfilled.iteratesSafely_iff, starts_iff hfilled, and_self]

/-- One slave with one linked port. -/
theorem iteratesSafely_and_starts_iff_one :
    oneClock.IteratesSafely ∧ Starts oneClock ↔ oneClock.HasEnd :=
  iteratesSafely_and_starts_iff (.inr filled_oneClock)

/-- A network without slaves, and a single slave whose open second port has a signal. -/
theorem recievedPorts_panic :
    (Network.new []).recievedPorts.toList = .error .index ∧
      start (Network.new []) = .error .index ∧
      (portNetwork [linePorts true]).recievedPorts.toList = .error .index ∧
      start (portNetwork [linePorts true]) = .error .index := by
  decide +kernel

end DcInitTask

end EtherCat
