import EtherCat.Task.DcInitilize

/-!
# The topology of a tree network

On a network that is a tree the iterator makes the complete tour, and the setup notes the right
parents, exactly when no slave has two children.  The defect is the iterator's alone: from a
complete tour the setup would find the parents in every tree (`Tour.Visit.parent_foldl_tour`).
-/

namespace EtherCat

open Rust Rust.Exec Tour

namespace DcInitTask

lemma hasTree_cleared {network : Network} {entry : ℕ} {tree : Branches}
    (h : network.HasTree entry tree) : (cleared network).HasTree entry tree := by
  refine ⟨fun i => ?_, h.count, h.small⟩
  rw [← h.ports i, cleared, Network.slaveAt_modifySlaves, Option.map_map]
  rfl

/-- Nothing is noted at the beginning of the loop. -/
lemma view_recievedPorts_cleared (network : Network) :
    view ((cleared network).recievedPorts, ⟨none, none, 0, 0⟩) = ⟨false, (0, 0), fun _ => none⟩ := by
  simp only [view, Visit.mk.injEq]
  refine ⟨rfl, trivial, funext fun i => ?_⟩
  simp only [Network.parentPort, Network.recievedPorts, RecievedPorts.new, cleared,
    Network.slaveAt_modifySlaves]
  rcases network.slaveAt i with _ | slave <;> rfl

/-- The loop that counts the slaves with a distributed clock returns on a tree. -/
lemma countDc_eq_ok (network : Network) (hsmall : network.pushCount < 2 ^ 16)
    (hslaves : ∀ i < network.pushCount, (network.slaveAt i).isSome) :
    ∃ count, (List.range network.numSlaves).foldlM (countDc network) 0 = .ok count := by
  refine exists_foldlM_eq_ok (fun i hi count => ?_) 0
  rw [List.mem_range, Network.numSlaves] at hi
  obtain ⟨slave, hslave⟩ := Option.isSome_iff_exists.mp (hslaves i hi)
  obtain ⟨config, hfound⟩ := Network.slave_slavePosition hi (by omega) hslave
  exact ⟨_, by rw [countDc, hfound]; rfl⟩

/-- On a line `start` notes the parents. -/
theorem start_of_isLine {network : Network} {entry : ℕ} {tree : Branches}
    (h : network.HasTree entry tree) (hline : tree.IsLine) :
    ∃ task network', start network = .ok (task, network') ∧
      ∀ i < tree.size, network'.parentPort (i + 1) = (tree.parents 0 1 entry)[i]? := by
  have hcleared := hasTree_cleared h
  have hcount : (cleared network).recievedPorts.network.pushCount =
      ((entry :: tree.ports) :: tree.nodes).length := by
    rw [List.length_cons, Branches.length_nodes, ← h.count]
    rfl
  -- The last slave has a slot, so that the fuel exceeds the length of the tour.
  have hlength : tree.size < (cleared network).slaves.length :=
    Network.lt_length_of_slaveAt_isSome
      ((hcleared.slaveAt_isSome_iff _).mpr (by rw [hcleared.count]; omega))
  have hfuel : ((0, entry) :: tree.tour 0 1).length < 4 * (cleared network).slaves.length + 1 := by
    rw [List.length_cons, Branches.length_tour]
    omega
  obtain ⟨ports', locals', hloop, hview⟩ := forEach_visit hcleared.follows hcount
    ((Walk.yields_tour_iff entry tree).mpr hline) ⟨none, none, 0, 0⟩ hfuel
  have hframe := forEach_frame frame (fun _ _ _ => frame_next) (fun _ _ _ _ _ => frame_visit) hloop
  obtain ⟨hpush, hinfo⟩ := Prod.mk.inj hframe
  obtain ⟨count, hcounted⟩ := countDc_eq_ok ports'.network
    (by rw [hpush]; exact h.small)
    (fun i hi => by
      have hsome := congrArg Option.isSome (congrFun hinfo i)
      rw [Option.isSome_map, Option.isSome_map] at hsome
      rw [hsome, Network.recievedPorts, RecievedPorts.new, Network.slaveAt_modifySlaves,
        Option.isSome_map, hcleared.slaveAt_isSome_iff]
      rw [hpush] at hi
      exact hi)
  have hstart : start network = .ok (⟨.clearOffset, .default, locals'.firstDcSlave, count⟩,
      ports'.network) := by
    simp [start, hloop, hcounted]
  refine ⟨_, _, hstart, fun i hi => ?_⟩
  have hparent := congrArg Visit.parent hview
  rw [view_recievedPorts_cleared, List.foldl_cons] at hparent
  have hnone : ∀ i, (Visit.step ⟨false, (0, 0), fun _ => none⟩ (0, entry)).parent i = none := by
    intro i
    simp only [Visit.step, if_true, Function.update_apply]
    split <;> rfl
  have htour := (Visit.parent_foldl_tour tree _ 0 1 entry Nat.zero_lt_one rfl rfl
    fun i _ => hnone i).1 i hi
  rw [← congrFun hparent, Nat.add_comm] at htour
  exact htour

/-- **Tour and parents are right exactly on lines.** -/
theorem recievedPorts_and_start_iff_isLine {network : Network} {entry : ℕ} {tree : Branches}
    (h : network.HasTree entry tree) :
    (network.recievedPorts.toList = .ok ((0, entry) :: tree.tour 0 1) ∧
      ∃ task network', start network = .ok (task, network') ∧
        ∀ i < tree.size, network'.parentPort (i + 1) = (tree.parents 0 1 entry)[i]?) ↔
      tree.IsLine :=
  ⟨fun hboth => h.recievedPorts_eq_tour_iff.mp hboth.1,
    fun hline => ⟨h.recievedPorts_eq_tour_iff.mpr hline, start_of_isLine h hline⟩⟩

/-- The ports of a slave in a line: behind the second one is the next slave, if there is one. -/
def linePorts (hasNext : Bool) : Vector Bool 4 := #v[true, hasNext, false, false]

/-- A network of slaves with a distributed clock and these linked ports. -/
def portNetwork (linkedPorts : List (Vector Bool 4)) : Network where
  slaves := linkedPorts.map fun ports =>
    (some {
        info := {
          configuredAddress := 1
          linkedPorts := ports
          sm := #v[none, none, none, none]
          supportDc := true
          supportCoe := true }
        fmmu := #v[none, none, none]
        alState := .preOperational
        mailboxCount := 0
        dcContext := .default },
      .default)
  pushCount := linkedPorts.length

/-- Three slaves in a line. -/
theorem recievedPorts_and_start_iff_isLine_three :
    ∃ task network', start (portNetwork [#v[true, true, false, false],
        #v[true, true, false, false], #v[true, false, false, false]]) = .ok (task, network') ∧
      network'.parentPort 1 = some (0, 0) ∧ network'.parentPort 2 = some (1, 0) := by
  have htree : (portNetwork [#v[true, true, false, false], #v[true, true, false, false],
      #v[true, false, false, false]]).HasTree 0 (.branch 1 0 (.branch 1 0 .done .done) .done) :=
    ⟨fun i => match i with
      | 0 => rfl
      | 1 => rfl
      | 2 => rfl
      | _ + 3 => rfl, rfl, by decide⟩
  obtain ⟨-, task, network', hstart, hparents⟩ :=
    (recievedPorts_and_start_iff_isLine htree).mpr ⟨rfl, rfl, trivial⟩
  exact ⟨task, network', hstart, hparents 0 (by decide), hparents 1 (by decide)⟩

/-- A slave with two children: the walk never reaches the second child, which gets no parent. -/
theorem start_misses_second_branch :
    (portNetwork [#v[true, true, true, false], #v[true, false, false, false],
        #v[true, false, false, false]]).HasTree 0
          (.branch 1 0 .done (.branch 2 0 .done .done)) ∧
      (portNetwork [#v[true, true, true, false], #v[true, false, false, false],
        #v[true, false, false, false]]).recievedPorts.toList = .ok [(0, 0), (1, 0), (0, 1)] ∧
      Branches.tour 0 1 (.branch 1 0 .done (.branch 2 0 .done .done)) =
        [(1, 0), (0, 1), (2, 0), (0, 2)] ∧
      Branches.parents 0 1 0 (.branch 1 0 .done (.branch 2 0 .done .done)) = [(0, 0), (0, 1)] ∧
      ∃ task network', start (portNetwork [#v[true, true, true, false],
          #v[true, false, false, false], #v[true, false, false, false]]) = .ok (task, network') ∧
        network'.parentPort 2 = none := by
  refine ⟨⟨fun i => match i with
      | 0 => rfl
      | 1 => rfl
      | 2 => rfl
      | _ + 3 => rfl, rfl, by decide⟩, by decide +kernel, rfl, rfl, ?_⟩
  exact ⟨_, _, rfl, by decide +kernel⟩

end DcInitTask

end EtherCat
