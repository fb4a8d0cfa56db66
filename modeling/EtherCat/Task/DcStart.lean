import EtherCat.Slave.Filled
import EtherCat.Task.DcSteps

/-!
# The first distributed clock

The walk over the ports never jumps over a slave: its positions grow by one at most.  So if it
reaches every slave, the first slave with a distributed clock that it comes to is the one with the
lowest position.
-/

namespace EtherCat

open Rust Rust.Exec

/-! ## The walk over a filled network -/

/-- The ports of the slaves, from the first position on. -/
def Network.walk (network : Network) : Tour.Walk where
  ahead := (List.range network.pushCount).map fun i =>
    ((network.slaveAt i).map fun slave => portNumbers slave.info.linkedPorts).getD []
  position := 0

lemma Network.Filled.follows {network : Network} (h : network.Filled) :
    network.recievedPorts.Follows network.walk := by
  refine ⟨rfl, ?_, ?_, fun i => ?_⟩
  · rw [walk, List.length_map, List.length_range]
    exact length_filterMap_of_forall h.isSome_iff
  · rw [walk, List.length_map, List.length_range]
    exact h.small
  · simp only [recievedPorts, RecievedPorts.new, slaveAt_modifySlaves, Option.map_map, walk,
      List.getElem?_map]
    by_cases hi : i < network.pushCount
    · obtain ⟨slave, hslave⟩ := Option.isSome_iff_exists.mp ((h.isSome_iff i).mpr hi)
      have hahead := aheadFrom_firstPort slave.info.linkedPorts
      rw [List.getElem?_range hi, Option.map_some, hslave, Option.map_some]
      exact congrArg some hahead
    · have hnone : network.slaveAt i = none := by
        rw [← Option.not_isSome_iff_eq_none, h.isSome_iff]
        exact hi
      rw [hnone, List.getElem?_eq_none (by rw [List.length_range]; omega)]
      rfl

/-! ## The first match on a walk without jumps -/

/-- A list whose numbers grow by one at most comes to `m` before it comes to anything larger. -/
lemma find?_of_isChain {P : ℕ → Bool} {m : ℕ} {places : List (ℕ × ℕ)}
    (hchain : places.IsChain fun p q => q.1 ≤ p.1 + 1) (hhead : ∀ p ∈ places.head?, p.1 ≤ m)
    (hm : ∃ p ∈ places, p.1 = m) (hP : P m = true) (hmin : ∀ j < m, P j = false) :
    (places.find? fun p => P p.1).map Prod.fst = some m := by
  induction places with
  | nil =>
      obtain ⟨p, hp, -⟩ := hm
      cases hp
  | cons p places ih =>
      have hle : p.1 ≤ m := hhead p rfl
      obtain ⟨hnext, hrest⟩ := List.isChain_cons.mp hchain
      rcases Nat.lt_or_eq_of_le hle with hlt | heq
      · rw [List.find?_cons_of_neg (by rw [hmin _ hlt]; exact Bool.false_ne_true)]
        refine ih hrest (fun q hq => (hnext q hq).trans hlt) ?_
        obtain ⟨q, hq, hqm⟩ := hm
        rcases List.mem_cons.mp hq with rfl | hq
        · omega
        · exact ⟨q, hq, hqm⟩
      · rw [List.find?_cons_of_pos (by rw [heq]; exact hP), Option.map_some, heq]

namespace DcInitTask

lemma SameSlaves.walk {network network' : Network} (h : SameSlaves network network') :
    network'.walk = network.walk := by
  rw [Network.walk, Network.walk, h.pushCount]
  congr 2
  funext i
  have hinfo := congrArg (Option.map fun info : SlaveInfo => portNumbers info.linkedPorts) (h.info i)
  rw [Option.map_map, Option.map_map] at hinfo
  exact congrArg (fun ports => ports.getD []) hinfo

lemma SameSlaves.filled {network network' : Network} (h : SameSlaves network network')
    (hfilled : network.Filled) : network'.Filled := by
  constructor
  · intro i
    have hinfo := congrArg Option.isSome (h.info i)
    rw [Option.isSome_map, Option.isSome_map] at hinfo
    rw [hinfo, hfilled.isSome_iff, h.pushCount]
  · rw [h.pushCount]
    exact hfilled.small

lemma sameSlaves_modifySlaves (network : Network) {f : Slave → Slave}
    (hf : ∀ slave, (f slave).info = slave.info) : SameSlaves network (network.modifySlaves f) := by
  refine ⟨rfl, fun i => ?_⟩
  rw [Network.slaveAt_modifySlaves, Option.map_map]
  exact congrArg (fun g => Option.map g _) (funext hf)

/-- The loop of `start` begins with the slaves of the network. -/
lemma sameSlaves_cleared (network : Network) :
    SameSlaves network (cleared network).recievedPorts.network := by
  have hcleared : SameSlaves network (cleared network) :=
    sameSlaves_modifySlaves network fun _ => rfl
  exact hcleared.trans (sameSlaves_modifySlaves _ fun _ => rfl)

/-- The loop keeps the slaves. -/
lemma SameSlaves.of_forEach {network : Network} {fuel : ℕ} {ports ports' : RecievedPorts}
    {locals locals' : Locals} (h : SameSlaves network ports.network)
    (hloop : forEach RecievedPorts.next visit fuel (ports, locals) = .ok (ports', locals')) :
    SameSlaves network ports'.network := by
  have hframe := forEach_frame frame (fun _ _ _ => frame_next) (fun _ _ _ _ _ => frame_visit) hloop
  obtain ⟨hpush, hinfo⟩ := Prod.mk.inj hframe
  exact h.trans ⟨hpush, fun i => congrFun hinfo i⟩

/-- `start` keeps the slaves. -/
lemma start_sameSlaves {network network' : Network} {task : DcInitTask}
    (h : start network = .ok (task, network')) :
    SameSlaves network network' ∧ task.state = .clearOffset := by
  obtain ⟨⟨ports, locals⟩, hloop, h⟩ := bind_eq_ok.mp h
  obtain ⟨count, -, heq⟩ := bind_eq_ok.mp h
  cases heq
  exact ⟨(sameSlaves_cleared network).of_forEach hloop, rfl⟩

lemma follows_cleared {network : Network} (h : network.Filled) :
    (cleared network).recievedPorts.Follows network.walk := by
  have hcleared : SameSlaves network (cleared network) :=
    sameSlaves_modifySlaves network fun _ => rfl
  rw [← hcleared.walk]
  exact (hcleared.filled h).follows

/-- Only slaves of the network have a clock. -/
lemma lt_of_hasDc {network : Network} (h : network.Filled) {position : ℕ}
    (hdc : hasDc network position = true) : position < network.pushCount := by
  rw [← h.isSome_iff]
  rw [hasDc] at hdc
  rcases hslave : network.slaveAt position with _ | slave
  · rw [hslave] at hdc
    cases hdc
  · rfl

/-- What the loop over the ports knows of the clocks. -/
def viewDc (st : RecievedPorts × Locals) : Option ℕ × (ℕ → Bool) :=
  (st.2.firstDcSlave, hasDc st.1.network)

/-- A visit of the loop, as far as the clocks are concerned. -/
def noteDc (noted : Option ℕ × (ℕ → Bool)) (place : RecievedPort) : Option ℕ × (ℕ → Bool) :=
  (if noted.2 place.1 = true ∧ noted.1.isNone = true then some place.1 else noted.1, noted.2)

lemma viewDc_moveTo (ports : RecievedPorts) (port position : ℕ) (locals : Locals) :
    viewDc (ports.moveTo port position, locals) = viewDc (ports, locals) := by
  have hsame : SameSlaves ports.network (ports.moveTo port position).network :=
    sameSlaves_modifySlave _ _ fun _ => rfl
  rw [viewDc, viewDc, hsame.hasDc]

lemma viewDc_visit (ports : RecievedPorts) (locals : Locals) (place : RecievedPort) (slave : Slave)
    (h : ports.network.slaveAt place.1 = some slave) :
    viewDc (setParentPort ports place.1 (locals.parentPort slave), locals.moveOn slave place) =
      noteDc (viewDc (ports, locals)) place := by
  have hsame : SameSlaves ports.network
      (setParentPort ports place.1 (locals.parentPort slave)).network :=
    sameSlaves_modifySlave _ _ fun _ => rfl
  have hdc : hasDc ports.network place.1 = slave.info.supportDc := by
    rw [hasDc, h]
    rfl
  rw [viewDc, noteDc, hsame.hasDc]
  simp only [viewDc, Locals.moveOn, hdc]

lemma foldl_noteDc (places : List RecievedPort) (first : Option ℕ) (dc : ℕ → Bool) :
    places.foldl noteDc (first, dc) =
      (first.or ((places.find? fun place => dc place.1).map Prod.fst), dc) := by
  induction places generalizing first with
  | nil => simp
  | cons place places ih =>
      rw [List.foldl_cons, noteDc, ih, List.find?_cons]
      dsimp only
      by_cases hdc : dc place.1 = true
      · rcases first with _ | first <;> simp [hdc]
      · simp [hdc]

/-- The tour comes to the lowest clock first. -/
lemma find?_places {network : Network} (h : network.Filled) {places : List RecievedPort}
    (hyields : Yields Tour.Walk.next network.walk places)
    (htour : ∀ i < network.pushCount, ∃ port, (i, port) ∈ places) :
    (places.find? fun place => hasDc network place.1).map Prod.fst =
      (dcPositions network).head? := by
  rw [dcPositions, List.head?_filter]
  obtain ⟨hhead, hchain⟩ := Tour.Walk.isChain_of_yields hyields
  rcases hfirst : (List.range network.numSlaves).find? (hasDc network) with _ | m
  · rw [Option.map_eq_none_iff, List.find?_eq_none]
    intro place _ hdc
    rw [List.find?_eq_none] at hfirst
    exact hfirst place.1 (List.mem_range.mpr (lt_of_hasDc h hdc)) hdc
  · obtain ⟨hdc, -, hmin⟩ := List.find?_range_eq_some.mp hfirst
    obtain ⟨port, hport⟩ := htour m (lt_of_hasDc h hdc)
    refine find?_of_isChain hchain (fun p hp => ?_) ⟨_, hport, rfl⟩ hdc fun j hj => ?_
    · rw [hhead p hp]
      exact Nat.zero_le m
    · simpa using hmin j hj

/-- **The first clock.**  On a network whose tour reaches every slave `start` notes the slave with
the lowest position among those with a distributed clock. -/
theorem start_firstDcSlave {network network' : Network} {task : DcInitTask}
    {places : List RecievedPort} (hfilled : network.Filled)
    (htoList : network.recievedPorts.toList = .ok places)
    (htour : ∀ i < network.pushCount, ∃ port, (i, port) ∈ places)
    (h : start network = .ok (task, network')) :
    task.firstDcSlave = (dcPositions network').head? ∧ SameSlaves network network' ∧
      task.state = .clearOffset := by
  obtain ⟨hsame, hstate⟩ := start_sameSlaves h
  have hports := sameSlaves_cleared network
  have hyields : Yields Tour.Walk.next network.walk places :=
    hfilled.follows.yields_iff.mp (RecievedPorts.toList_eq_ok_iff.mp htoList)
  have hcount : (cleared network).recievedPorts.network.pushCount = network.walk.ahead.length := by
    rw [Network.walk, List.length_map, List.length_range]
    exact hports.pushCount
  obtain ⟨⟨ports, locals⟩, hloop, h⟩ := bind_eq_ok.mp h
  obtain ⟨count, -, heq⟩ := bind_eq_ok.mp h
  cases heq
  -- The bound on the turns of the loop is raised above the number of places.
  let ports₀ := (cleared network).recievedPorts
  let fuel := 4 * ports₀.network.slaves.length + 1 + places.length
  have hfuel : forEach RecievedPorts.next visit fuel (ports₀, ⟨none, none, 0, 0⟩) =
      forEach RecievedPorts.next visit (4 * ports₀.network.slaves.length + 1)
        (ports₀, ⟨none, none, 0, 0⟩) :=
    forEach_visit_fuel (by
      have hle := ports₀.remaining_le
      omega)
  obtain ⟨ports', locals', hloop', hview⟩ := forEach_visit_view viewDc noteDc viewDc_moveTo
    viewDc_visit (follows_cleared hfilled) hcount hyields ⟨none, none, 0, 0⟩
    (show places.length < fuel by omega)
  rw [hfuel] at hloop'
  have hlength : ports₀.network.slaves.length = (cleared network).slaves.length := by
    dsimp only [ports₀]
    rw [Network.recievedPorts, RecievedPorts.new, Network.modifySlaves, List.length_map]
  rw [hlength] at hloop'
  cases hloop.symm.trans hloop'
  refine ⟨?_, hsame, hstate⟩
  rw [viewDc, foldl_noteDc] at hview
  have hfirst := congrArg Prod.fst hview
  dsimp only [viewDc] at hfirst
  rw [hfirst, Option.none_or, hports.hasDc, find?_places hfilled hyields htour, hsame.dcPositions]

end DcInitTask

end EtherCat
